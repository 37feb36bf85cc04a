/-
# Categories of faults

A category decides what the user is told to do and whether trying again can
help. For the network and the design service, a refused login cannot be mended
by trying again.
-/

import DesignExport.UnknownName

namespace DesignExport

/-- The areas in which a fault can arise. -/
inductive Category where
  | network
  | figmaApi
  | validation
  | processing
  | storage
  | authentication
deriving DecidableEq

namespace Category

/-- The word for a category. -/
def name : Category → Text
  | network => "network"
  | figmaApi => "figma_api"
  | validation => "validation"
  | processing => "processing"
  | storage => "storage"
  | authentication => "authentication"

/-- All categories. -/
def all : List Category := [network, figmaApi, validation, processing, storage, authentication]

/-- The category of a word. -/
def ofName (word : Text) : Except UnknownName Category :=
  match all.find? fun category => category.name == word with
  | some category => .ok category
  | none => .error ⟨"ErrorCategory", word⟩

/-- Whether a status code says that the login was refused. -/
def isLoginRefusal (status : Option Int) : Bool := status == some 401 || status == some 403

/-- Whether trying again without doing anything else can succeed. -/
def isRecoverable (category : Category) (status : Option Int) : Bool :=
  match category with
  | network | figmaApi => !isLoginRefusal status
  | processing | storage => true
  | validation | authentication => false

/-- What the user is told to do. -/
def userAction (category : Category) (status : Option Int) : Text :=
  match category with
  | network => "Check your internet connection and try again"
  | figmaApi =>
    if isLoginRefusal status then "Please check your Figma access token in Settings"
    else "Figma service temporarily unavailable, please try again"
  | validation => "Please check your input and correct any validation errors"
  | processing => "Processing failed, please try again or contact support"
  | storage => "Storage error occurred, please try again"
  | authentication => "Please log in again or check your credentials"

end Category

end DesignExport
