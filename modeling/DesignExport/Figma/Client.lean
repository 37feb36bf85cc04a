/-
# Fetching design files

A design file is fetched with one request. A client whose service has no usable
URL, or whose token cannot be sent, makes none. An exchange that brings no
response is a fault of the network when it timed out or the connection failed.
A response to a URL without a scheme is not accepted. A response that is no
success is a fault of its status; the body of any other response is read as
JSON.
-/

import DesignExport.Fault.Basic
import DesignExport.Figma.ServiceUrl
import DesignExport.Json.Body
import DesignExport.Text.Charset

namespace DesignExport.Figma

/-- A request for a design file. -/
structure FileRequest where
  method : Text := "GET"
  url : Text
  token : Text
  contentType : Text := "application/json"
deriving DecidableEq

/-- The ways in which an exchange brings no response. -/
inductive ExchangeFailure where
  | timedOut
  | disconnected
  | abandoned
deriving DecidableEq

/-- What comes of a request: a response, or a failure with the name of its kind
and its message. -/
inductive Reply where
  | response (status : Int) (body : Text)
  | failure (failure : ExchangeFailure) (kind message : Text)
deriving DecidableEq

/-- Why no request can be made: a URL that is none, or a text that cannot be sent. -/
inductive RequestError where
  | url (error : ServiceUrlError)
  | text (error : Text.CharsetError)
deriving DecidableEq

/-- The message of an error. -/
def RequestError.message : RequestError → Text
  | url error => error.message
  | .text error => error.message

/-- Why there is no document: no request, a fault, an exchange that was
abandoned for a reason of its own, a URL without a scheme, or a body that is not
JSON. -/
inductive FetchError where
  | request (error : RequestError)
  | fault (fault : Fault)
  | abandoned (kind message : Text)
  | noScheme (url : Text)
  | unreadable (error : Json.BodyError)

/-- The message of an error. -/
def FetchError.message : FetchError → Text
  | request error => error.message
  | fault given => given.messageText
  | abandoned _ message => message
  | noScheme url => "unknown url type: " ++ Text.quoted url
  | unreadable error => error.message

/-- A client: the URL of the service and an access token. -/
structure Client where
  base : ServiceUrl
  token : Text
deriving DecidableEq

namespace Client

/-- What is sent beside the body of a request is in ASCII. -/
def checkSent (text : Text) : Except Text.CharsetError Unit :=
  Text.Charset.check .ascii (text.map Char.toNat)

/-- The URL of the service where none is given. -/
def usualBase : Text := "https://api.figma.com/v1"

/-- A client of the service at a URL. The URL is looked at first. -/
def connect (base token : Text) : Except RequestError Client := do
  let url ← (ServiceUrl.ofBase base).mapError .url
  (checkSent token).mapError .text
  pure { base := url, token := token }

/-- The request for a file. -/
def request (client : Client) (fileId : Text) : Except RequestError FileRequest := do
  let url ← (client.base.under ("/files/" ++ fileId)).mapError .url
  (checkSent url.location).mapError .text
  pure { url := url.text, token := client.token }

end Client

/-- The fault of an exchange that took too long. -/
def timeoutFault (fileId kind : Text) : Fault :=
  Fault.make .network ("Timed out fetching Figma file " ++ fileId) { cause := some kind }

/-- The fault of a connection that failed. -/
def connectionFault (kind : Text) : Fault :=
  Fault.make .network "Failed to connect to Figma API. Please check your internet connection."
    { cause := some kind }

/-- The least status that is no success. -/
def firstFailure : Int := 300

/-- Whether a colon follows the first characters of a URL, before any slash. -/
def hasScheme (url : Text) : Bool :=
  match url.span fun c => c != '/' && c != ':' with
  | (_ :: _, ':' :: _) => true
  | _ => false

/-- The document that a reply to the request for a file brings. -/
def FileRequest.documentOf (request : FileRequest) (fileId : Text) :
    Reply → Except FetchError Json
  | .failure .timedOut kind _ => .error (.fault (timeoutFault fileId kind))
  | .failure .disconnected kind _ => .error (.fault (connectionFault kind))
  | .failure .abandoned kind message => .error (.abandoned kind message)
  | .response status body =>
    if !hasScheme request.url then .error (.noScheme request.url)
    else if firstFailure ≤ status then .error (.fault (Fault.ofFigmaStatus status body))
    else (Json.ofBody body).mapError .unreadable

end DesignExport.Figma
