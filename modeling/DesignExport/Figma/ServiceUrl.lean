/-
# URLs of a design service

A URL is cut into scheme, authority, path, query and fragment, and the
authority into user, host and port. Every part has one form: scheme and host in
lower case, no port that the scheme implies, no path segments of one or two
dots, and percent escapes for all characters that may not stand for themselves.
The URL of a file extends the path of the service, or its query if it has one.
-/

import DesignExport.Figma.HostName
import DesignExport.Figma.Url
import DesignExport.Keyed
import DesignExport.Number.Reading

namespace DesignExport

/-- Why a text is not the URL of a service. -/
inductive ServiceUrlError where
  | tooLong
  | partTooLong (part : Text)
  | control (c : Char) (offset : Nat)
  | host (error : HostError)
  | badPort (port : Text)
  | relativePath
  | twoSlashes
  | colonFirst
deriving DecidableEq

/-- The message of a refusal. -/
def ServiceUrlError.message : ServiceUrlError → Text
  | tooLong => "URL too long"
  | partTooLong part => "URL component '" ++ part ++ "' too long"
  | control c offset =>
    "Invalid non-printable ASCII character in URL, " ++ Text.quoted [c] ++ " at position " ++
      Text.ofNat offset ++ "."
  | .host error => error.message
  | badPort port => "Invalid port: " ++ Text.quoted port
  | relativePath => "For absolute URLs, path must be empty or begin with '/'"
  | twoSlashes => "Relative URLs cannot have a path starting with '//'"
  | colonFirst => "Relative URLs cannot have a path starting with ':'"

/-- The URL of a service, with every part in its one form. -/
structure ServiceUrl where
  scheme : Text
  user : Text
  host : Text
  port : Option Int
  path : Text
  query : Option Text
  fragment : Option Text
deriving DecidableEq

namespace ServiceUrl

/-- The parts of a URL as they are written. -/
structure Written where
  scheme : Text
  authority : Text
  path : Text
  query : Option Text
  fragment : Option Text

/-- The scheme in front of the first colon, which may be empty, and what follows
it. A URL without a scheme is all rest. -/
def cutScheme (text : Text) : Text × Text :=
  match Text.cut ':' text with
  | ([], some rest) => ([], rest)
  | (c :: scheme, some rest) =>
    if c.isAlpha && scheme.all Url.isSchemeChar then (c :: scheme, rest) else ([], text)
  | _ => ([], text)

/-- A path and the query behind its first question mark. -/
def cutQuery (text : Text) : Text × Option Text := Text.cut '?' text

/-- The parts that a text shows. -/
def Written.ofText (text : Text) : Written :=
  let schemed := cutScheme text
  let located := Url.cutAuthority schemed.2
  let marked := Text.cut '#' located.2
  let asked := cutQuery marked.1
  { scheme := schemed.1
    authority := located.1
    path := asked.1
    query := asked.2
    fragment := marked.2 }

/-- The parts of an authority: user, host and port, without the marks between them. -/
structure Place where
  user : Text
  host : Text
  port : Text

/-- The host in front of its port: up to the last closing bracket if it begins
with an opening one, and else up to a colon. -/
def cutHost (text : Text) : Text × Text :=
  if text.head? == some '[' && text.contains ']' then
    let rest := Text.afterLast (· == ']') text
    (text.take (text.length - rest.length), rest)
  else (text.takeWhile (· != ':'), text.dropWhile (· != ':'))

/-- The parts of an authority. The user stands in front of the last at sign. -/
def Place.ofText (authority : Text) : Place :=
  let located := Text.afterLast (· == '@') authority
  let named := cutHost located
  { user := authority.take (authority.length - located.length - 1)
    host := named.1
    port := if named.2.head? == some ':' then named.2.drop 1 else named.2 }

/-- The characters without an own place in a path. -/
def pathRefused : Text := "\"#<>?`\x7b\x7d"

/-- The characters without an own place in a query. -/
def queryRefused : Text := "\"#<>"

/-- The characters without an own place in a fragment. -/
def fragmentRefused : Text := "\"<>`"

/-- The characters without an own place in the name of a user. -/
def userRefused : Text := pathRefused ++ "/;=@[\\]^|"

/-- A part with escapes for spaces, control characters, characters beyond ASCII,
and those that are refused. -/
def escape (refused : Text) (part : Text) : Text :=
  Text.percentEncode
    (fun c => decide (0x20 < c.toNat) && decide (c.toNat < 0x7F) && !refused.contains c) part

/-- The ports that schemes imply. -/
def impliedPorts : Keyed Text Int :=
  [("ftp", 21), ("http", 80), ("https", 443), ("ws", 80), ("wss", 443)]

/-- The port that a text shows, if the scheme does not imply it. -/
def readPort (scheme text : Text) : Except ServiceUrlError (Option Int) :=
  if text.isEmpty then .ok none
  else match Numeral.readInt text with
    | .ok port => .ok (if Keyed.get? scheme impliedPorts == some port then none else some port)
    | .error _ => .error (.badPort text)

/-- The checks of a path behind what there is of scheme and authority. -/
def checkPath (hasScheme hasAuthority : Bool) (path : Text) : Except ServiceUrlError Unit :=
  if hasAuthority then
    if path.isEmpty || path.head? == some '/' then .ok () else .error .relativePath
  else if hasScheme then .ok ()
  else if ("//" : Text).isPrefixOf path then .error .twoSlashes
  else if path.head? == some ':' then .error .colonFirst
  else .ok ()

/-- Go on by one segment of a path: one dot stays, two dots step back, but not
beyond the beginning. -/
def follow (reached : List Text) (segment : Text) : List Text :=
  if segment == ['.'] then reached
  else if segment == ['.', '.'] then
    if reached == [[]] then reached else reached.dropLast
  else reached ++ [segment]

/-- A path without segments of one or two dots. -/
def dropDots (path : Text) : Text :=
  Text.joinWith ['/'] ((Text.splitOn '/' path).foldl follow [])

/-- Bring the parts of a URL into their one form. -/
def normalize (written : Written) : Except ServiceUrlError ServiceUrl := do
  let scheme := Text.lower written.scheme
  let place := Place.ofText written.authority
  let host ← (HostName.normalize place.host).mapError .host
  let port ← readPort scheme place.port
  let hasScheme := !scheme.isEmpty
  let hasAuthority := !place.user.isEmpty || !host.isEmpty || port.isSome
  checkPath hasScheme hasAuthority written.path
  let path := if hasScheme || hasAuthority then dropDots written.path else written.path
  pure
    { scheme := scheme
      user := escape userRefused place.user
      host := host
      port := port
      path := escape pathRefused path
      query := written.query.map (escape queryRefused)
      fragment := written.fragment.map (escape fragmentRefused) }

/-- The greatest length of a URL, and of each of its parts. -/
def longest : Nat := 65536

/-- A control character of ASCII. -/
def isControl (c : Char) : Bool := decide (c.toNat < 0x20) || c.toNat == 0x7F

/-- The URL that a text shows. -/
def ofText (text : Text) : Except ServiceUrlError ServiceUrl :=
  if longest < text.length then .error .tooLong
  else match text.dropWhile fun c => !isControl c with
    | c :: rest => .error (.control c (text.length - (c :: rest).length))
    | [] => normalize (Written.ofText text)

/-- Host and port; an address of version 6 stands in brackets. -/
def location (url : ServiceUrl) : Text :=
  let host := if url.host.contains ':' then ['['] ++ url.host ++ [']'] else url.host
  match url.port with
  | some port => host ++ ':' :: Text.ofInt port
  | none => host

/-- User, host and port. -/
def authority (url : ServiceUrl) : Text :=
  if url.user.isEmpty then url.location else url.user ++ '@' :: url.location

/-- A part behind its mark, if there is one. -/
def marked (mark : Char) : Option Text → Text
  | some part => mark :: part
  | none => []

/-- A URL as text. -/
def text (url : ServiceUrl) : Text :=
  (if url.scheme.isEmpty then [] else url.scheme ++ [':']) ++
    (if url.authority.isEmpty then [] else ['/', '/'] ++ url.authority) ++
    url.path ++ marked '?' url.query ++ marked '#' url.fragment

/-- What a URL asks of its host: the path, which is not empty, and the query. -/
def target (url : ServiceUrl) : Text := Text.orElse url.path ['/'] ++ marked '?' url.query

/-- The check of one part's length. -/
def checkLength (part : Text × Text) : Except ServiceUrlError Unit :=
  if longest < part.2.length then .error (.partTooLong part.1) else .ok ()

/-- A URL with another path and query. -/
def withTarget (url : ServiceUrl) (target : Text) : Except ServiceUrlError ServiceUrl := do
  let asked := cutQuery target
  let parts : Keyed Text Text :=
    [("scheme", url.scheme), ("authority", url.authority), ("path", asked.1),
     ("query", asked.2.getD []), ("fragment", url.fragment.getD [])]
  parts.forM checkLength
  normalize
    { scheme := url.scheme
      authority := url.authority
      path := asked.1
      query := asked.2
      fragment := url.fragment }

/-- The URL of a service, which ends with a slash. -/
def ofBase (text : Text) : Except ServiceUrlError ServiceUrl := do
  let url ← ofText text
  if url.target.getLast? == some '/' then pure url else url.withTarget (url.target ++ ['/'])

/-- The URL of something that a service holds. -/
def under (base : ServiceUrl) (held : Text) : Except ServiceUrlError ServiceUrl := do
  let url ← ofText held
  base.withTarget (base.target ++ url.target.dropWhile (· == '/'))

end ServiceUrl

end DesignExport
