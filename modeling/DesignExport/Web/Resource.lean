/-
# Resources

A path leads to at most one resource, and every resource knows its methods. A
path that would lead to a resource if each pair of slashes were one slash is
answered with a redirection.
-/

import DesignExport.Text.Basic

namespace DesignExport.Web

/-- What can be requested. -/
inductive Resource where
  | submission
  | preview
  | jobs
  | job (id : Text)
  | component (id : Text)
  | stats
  | file (name : Text)
deriving DecidableEq

/-- The methods that a resource may know. -/
inductive Method where
  | get
  | head
  | post
  | options
deriving DecidableEq

/-- The method of a word, in any case. -/
def Method.ofName? (word : Text) : Option Method :=
  let upper := word.map Char.toUpper
  if upper == "GET" then some get
  else if upper == "HEAD" then some head
  else if upper == "POST" then some post
  else if upper == "OPTIONS" then some options
  else none

namespace Resource

/-- What follows a mark at the beginning of a path. -/
def behind? (mark path : Text) : Option Text :=
  if mark.isPrefixOf path then some (path.drop mark.length) else none

/-- A single segment that follows a mark. -/
def segment? (mark path : Text) : Option Text :=
  (behind? mark path).filter fun rest => !rest.isEmpty && !rest.contains '/'

/-- The name of a file that follows a mark; it may have several segments. -/
def fileName? (mark path : Text) : Option Text :=
  (behind? mark path).filter fun rest => !rest.isEmpty && rest.head? != some '/'

/-- The resource at a path. -/
def ofPath? (path : Text) : Option Resource :=
  if path == "/api/css/process" then some submission
  else if path == "/api/css/preview" then some preview
  else if path == "/api/jobs" then some jobs
  else if path == "/api/stats" then some stats
  else
    ((segment? "/api/jobs/" path).map job).orElse fun _ =>
      ((segment? "/api/components/" path).map component).orElse fun _ =>
        (fileName? "/static/" path).map file

/-- A path with one slash for every pair of slashes. -/
def mergeSlashes : Text → Text
  | '/' :: '/' :: rest => '/' :: mergeSlashes rest
  | c :: rest => c :: mergeSlashes rest
  | [] => []

/-- Whether a resource knows a method. -/
def knows (resource : Resource) (method : Option Method) : Bool :=
  match resource with
  | submission | preview => method == some .post || method == some .options
  | _ => method == some .get || method == some .head || method == some .options

end Resource

end DesignExport.Web
