/-
# Addresses of design files

A URL is cut into scheme, authority and path. A malformed authority is
refused with its cause. A design file is known by its host and by a path with
a file segment; its identifier follows a file, design or prototype segment.
-/

import DesignExport.Figma.Address
import DesignExport.Scan
import DesignExport.Text.Lowercase
import DesignExport.Text.Quoted

namespace DesignExport

/-- Why the authority of a URL is refused. -/
inductive UrlError where
  | unpairedBracket
  | notAnAddress (host : Text)
  | version4InBrackets
  | futureAddress
  | hiddenSeparator (authority : Text)
deriving DecidableEq

/-- The message of a refusal. -/
def UrlError.message : UrlError → Text
  | unpairedBracket => "Invalid IPv6 URL"
  | notAnAddress host =>
    Text.quoted host ++ " does not appear to be an IPv4 or IPv6 address"
  | version4InBrackets => "An IPv4 address cannot be in brackets"
  | futureAddress => "IPvFuture address is invalid"
  | hiddenSeparator authority =>
    "netloc '" ++ authority ++ "' contains invalid characters under NFKC normalization"

/-- The parts of a URL that tell what it points to. -/
structure Url where
  scheme : Text
  authority : Text
  path : Text
deriving DecidableEq

namespace Url

/-- The text that is read: without control characters and spaces in front, and
without tabs and line ends anywhere. -/
def prepared (text : Text) : Text :=
  (text.dropWhile fun c => decide (c.toNat ≤ 32)).filter fun c =>
    !(c == '\t' || c == '\r' || c == '\n')

/-- A character of a scheme. -/
def isSchemeChar (c : Char) : Bool := c.isAlphanum || c == '+' || c == '-' || c == '.'

/-- The scheme in lower case and what follows its colon. A URL without a scheme
is all rest. -/
def cutScheme (text : Text) : Text × Text :=
  match Text.cut ':' text with
  | (c :: scheme, some rest) =>
    if c.isAlpha && (c :: scheme).all isSchemeChar then
      ((c :: scheme).map Char.toLower, rest)
    else ([], text)
  | _ => ([], text)

/-- The authority behind two slashes, and what follows it. -/
def cutAuthority : Text → Text × Text
  | '/' :: '/' :: rest =>
    let isEnd (c : Char) : Bool := c == '/' || c == '?' || c == '#'
    (rest.takeWhile fun c => !isEnd c, rest.dropWhile fun c => !isEnd c)
  | text => ([], text)

/-- The text between the first opening bracket and the next closing one. -/
def bracketed (authority : Text) : Text :=
  ((authority.dropWhile (· != '[')).drop 1).takeWhile (· != ']')

/-- The check of a host in brackets: an address of version 6, or of a version to
come, which is marked by the letter v. -/
def checkBracketed (host : Text) : Except UrlError Unit :=
  if ("v" : Text).isPrefixOf host then
    let version := (host.drop 1).takeWhile Address.isHexDigit
    match version, (host.drop 1).dropWhile Address.isHexDigit with
    | _ :: _, '.' :: _ :: _ => .ok ()
    | _, _ => .error .futureAddress
  else if Address.isVersion4 host then .error .version4InBrackets
  else if Address.isVersion6 host then .ok ()
  else .error (.notAnAddress host)

/-- Characters that stand for a text with a separator of URLs in it. -/
def separatorForms : List Nat :=
  [0x2047, 0x2048, 0x2049, 0x2100, 0x2101, 0x2105, 0x2106, 0x2A74, 0xFE13, 0xFE16, 0xFE55,
   0xFE56, 0xFE5F, 0xFE6B, 0xFF03, 0xFF0F, 0xFF1A, 0xFF1F, 0xFF20]

/-- The checks of an authority. -/
def checkAuthority (authority : Text) : Except UrlError Unit := do
  if authority.contains '[' != authority.contains ']' then .error .unpairedBracket
  if authority.contains '[' then checkBracketed (bracketed authority)
  if authority.any fun c => separatorForms.contains c.toNat then
    .error (.hiddenSeparator authority)

/-- The schemes whose last path segment may carry parameters behind a semicolon;
a URL without a scheme counts among them. -/
def schemesWithParameters : List Text :=
  ["", "ftp", "hdl", "prospero", "http", "imap", "https", "shttp", "rtsp", "rtsps", "rtspu",
   "sip", "sips", "mms", "sftp", "tel"]

/-- A path without the parameters of its last segment. -/
def dropParameters (path : Text) : Text :=
  let last := Text.afterLast (· == '/') path
  path.take (path.length - last.length) ++ (Text.cut ';' last).1

/-- The parts of a URL. -/
def parse (text : Text) : Except UrlError Url :=
  let schemed := cutScheme (prepared text)
  let located := cutAuthority schemed.2
  match checkAuthority located.1 with
  | .error error => .error error
  | .ok () =>
    let path := (Text.cut '?' (Text.cut '#' located.2).1).1
    .ok
      { scheme := schemed.1
        authority := located.1
        path := if schemesWithParameters.contains schemed.1 then dropParameters path else path }

/-- The host of an authority: behind the last at sign, in brackets or up to a
colon, in lower case but for a zone. -/
def host (url : Url) : Text :=
  let place := Text.afterLast (· == '@') url.authority
  let named := if place.contains '[' then bracketed place else (Text.cut ':' place).1
  match Text.cut '%' named with
  | (name, none) => Text.lower name
  | (name, some zone) => Text.lower name ++ '%' :: zone

/-- The schemes of design files. -/
def webSchemes : List Text := ["http", "https"]

/-- The hosts of design files. -/
def figmaHosts : List Text := ["www.figma.com", "figma.com"]

/-- Whether a URL points to a design file. -/
def isFigmaFile (url : Url) : Bool :=
  webSchemes.contains url.scheme && figmaHosts.contains url.host &&
    Text.occursAny ["/design/", "/file/"] url.path

/-- The segments that a file identifier follows. -/
def fileSegments : List Text := ["/file/", "/design/", "/proto/"]

/-- A file identifier behind its segment. -/
def fileMark : Pattern Text := fun text =>
  match fileSegments.find? fun segment => segment.isPrefixOf text with
  | some segment =>
    let identifier := (text.drop segment.length).takeWhile Char.isAlphanum
    if identifier.isEmpty then none else some (identifier, segment.length + identifier.length)
  | none => none

/-- The file identifier in a URL. -/
def fileId? (url : Url) : Option Text := fileMark.first? url.path

/-- Whether a text is the URL of a design file. The empty text is none. -/
def validate (text : Text) : Except UrlError Bool :=
  if text.isEmpty then .ok false else (parse text).map isFigmaFile

/-- The file identifier in the URL that a text shows. -/
def extractFileId (text : Text) : Except UrlError (Option Text) := (parse text).map fileId?

end Url

end DesignExport
