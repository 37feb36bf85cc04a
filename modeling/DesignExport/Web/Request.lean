/-
# Requests

A request names a method and a target and may carry a body. The target is cut
into its path and its query; the body is read as JSON when its type says so.
-/

import DesignExport.Figma.Url
import DesignExport.Json.Body
import DesignExport.Text.Blank
import DesignExport.Text.Percent

namespace DesignExport.Web

/-- A request; the type of the body is empty when none is given. -/
structure Request where
  method : Text
  target : Text
  contentType : Text := []
  body : Text := []

namespace Request

/-- A target behind scheme and authority and in front of a fragment. -/
def located (target : Text) : Text :=
  (Text.cut '#' (Url.cutAuthority (Url.cutScheme (Url.prepared target)).2).2).1

/-- The path and query of a target. What is left when scheme and authority are
cut off is read as a target once more. -/
def place (request : Request) : Text := located (located request.target)

/-- The path with one leading slash, its escapes decoded. -/
def path (request : Request) : Text :=
  '/' :: (Text.percentDecode (Text.cut '?' request.place).1).dropWhile (· == '/')

/-- The names and values of a query, in order. -/
def parameters (request : Request) : List (Text × Text) :=
  let query := ((Text.cut '?' request.place).2).getD []
  ((Text.splitOn '&' query).filter fun part => !part.isEmpty).map fun part =>
    let named := Text.cut '=' part
    (Text.formDecode named.1, Text.formDecode (named.2.getD []))

/-- The type of the body without its parameters, in lower case. -/
def mediaType (request : Request) : Text :=
  Text.lower (Text.trim (Text.cut ';' request.contentType).1)

/-- Whether the body is said to be JSON: by its own type, or by a suffix. -/
def isJson (request : Request) : Bool :=
  request.mediaType == "application/json" ||
    (("application/" : Text).isPrefixOf request.mediaType &&
      ("+json" : Text).isSuffixOf request.mediaType)

/-- The JSON value of the body. It is null when the body has another type or is
not JSON; a body that is nested too deeply is refused. -/
def json (request : Request) : Except Json.ReadError Json :=
  if request.isJson then
    match Json.ofBody request.body with
    | .error (.text (.tooDeep container) _) => .error (.tooDeep container)
    | .error _ => .ok .null
    | .ok value => .ok value
  else .ok .null

end Request

end DesignExport.Web
