/-
# What the command for design files does

Arguments set nothing but what the options of a command are for. So once the arguments of the
command for design files ask for a URL, no option is left to check, and the command goes on
with the URL, the token, the settings and the request, each of which can end it. The ways in
which a run can go are given once, with all its effects; what a reply leads to is a session of
its own, which only shows something.
-/

import DesignExport.Proofs.CommandLine.WrittenFiles
import DesignExport.Proofs.Figma.Authority
import DesignExport.Proofs.Figma.FetchedDocument
import DesignExport.Proofs.Figma.FileIdentifier

namespace DesignExport

/-! ## The keys that are set -/

namespace Keyed

variable {κ ν : Type} [DecidableEq κ] {p : κ → Prop}

theorem forall_fst_put {table : Keyed κ ν} (each : ∀ entry ∈ table, p entry.1) {key : κ}
    (new : p key) (value : ν) : ∀ entry ∈ put key value table, p entry.1 := by
  induction table with
  | nil => exact List.forall_mem_singleton.mpr new
  | cons entry rest ih =>
      obtain ⟨first, others⟩ := List.forall_mem_cons.mp each
      rw [put]
      split
      · exact List.forall_mem_cons.mpr ⟨first, others⟩
      · exact List.forall_mem_cons.mpr ⟨first, ih others⟩

/-- What holds of the keys of all pairs holds of the keys of their table. -/
theorem forall_fst_ofPairs {pairs : List (κ × ν)} (each : ∀ pair ∈ pairs, p pair.1) :
    ∀ entry ∈ ofPairs pairs, p entry.1 := by
  -- The pairs go into the table one by one, so the table varies in the induction.
  have entered : ∀ table : Keyed κ ν, (∀ entry ∈ table, p entry.1) →
      ∀ entry ∈ pairs.foldl (fun table pair => put pair.1 pair.2 table) table, p entry.1 := by
    induction pairs with
    | nil => exact fun table isKey => isKey
    | cons pair rest ih =>
        obtain ⟨first, others⟩ := List.forall_mem_cons.mp each
        exact fun table isKey => ih others _ (forall_fst_put isKey first pair.2)
  exact entered [] (by simp)

end Keyed

namespace CommandLine

namespace Arguments

variable {usage : Usage} {arguments : Arguments}

/-- The keys of a usage. -/
def keys (usage : Usage) : List Text := usage.flags.map Flag.key

/-- Arguments set only what options of the usage are for. -/
def SetsOnly (usage : Usage) (arguments : Arguments) : Prop :=
  ∀ setting ∈ arguments.settings, setting.1 ∈ keys usage

theorem SetsOnly.set (setsOnly : arguments.SetsOnly usage) {flag : Flag}
    (isFlag : flag ∈ usage.flags) (value : Text) :
    (arguments.set flag value).SetsOnly usage :=
  List.forall_mem_cons.mpr ⟨List.mem_map_of_mem isFlag, setsOnly⟩

/-- What a change keeps of all arguments, it keeps of those that were read. -/
theorem SetsOnly.of_map {answer : Except UsageError Arguments} {change : Arguments → Arguments}
    (keeps : ∀ {before : Arguments}, before.SetsOnly usage → (change before).SetsOnly usage)
    (ih : ∀ {before}, answer = .ok before → before.SetsOnly usage)
    (isRead : answer.map change = .ok arguments) : arguments.SetsOnly usage := by
  cases answer with
  | error error => cases isRead
  | ok before =>
      obtain rfl := Except.ok.inj isRead
      exact keeps (ih rfl)

theorem mem_flags_of_long? {name : Text} {flag : Flag} (isFlag : usage.long? name = some flag) :
    flag ∈ usage.flags :=
  List.mem_of_mem_filter (List.mem_of_find?_eq_some isFlag)

theorem setsOnly_of_shortSettings {letters : Text} {found : List (Text × Text)}
    (isFound : shortSettings usage letters = .ok found) :
    ∀ setting ∈ found, setting.1 ∈ keys usage := by
  fun_induction shortSettings usage letters generalizing found
  case case1 =>
    obtain rfl := Except.ok.inj isFound
    simp
  case case2 | case3 => cases isFound
  case case4 rest flag isFlag value kind ih =>
    cases isRest : shortSettings usage rest with
    | error error =>
        rw [isRest] at isFound
        cases isFound
    | ok others =>
        rw [isRest] at isFound
        obtain rfl := Except.ok.inj isFound
        have within : flag ∈ usage.flags := List.mem_of_find?_eq_some isFlag
        exact List.forall_mem_cons.mpr ⟨List.mem_map_of_mem within, ih isRest⟩

/-- Arguments that are read set only what options are for. -/
theorem setsOnly_of_read {mixed : Bool} {given : List Text}
    (isRead : read usage mixed given = .ok arguments) : arguments.SetsOnly usage := by
  fun_induction read usage mixed given generalizing arguments
  case case1 | case2 | case12 =>
    obtain rfl := Except.ok.inj isRead
    simp [SetsOnly]
  case case3 | case7 | case8 | case9 => cases isRead
  case case4 isFlag _ _ _ _ ih | case5 isFlag _ _ _ _ ih | case6 isFlag _ _ _ _ ih =>
    exact SetsOnly.of_map (fun before => before.set (mem_flags_of_long? isFlag) _) ih isRead
  case case10 isFound ih =>
    refine SetsOnly.of_map (fun before => ?_) ih isRead
    exact List.forall_mem_append.mpr ⟨setsOnly_of_shortSettings isFound, before⟩
  case case11 ih =>
    refine SetsOnly.of_map (fun before => ?_) ih isRead
    exact before

/-- So do the settings with their last values. -/
theorem SetsOnly.final (setsOnly : arguments.SetsOnly usage) :
    ∀ setting ∈ arguments.final, setting.1 ∈ keys usage :=
  Keyed.forall_fst_ofPairs setsOnly

end Arguments

namespace Command

open Session

variable {world : World} {given : List Text} {read : Arguments} {url : Text}
  {begun before : List Effect} {run : Run}

/-! ## The arguments -/

/-- The arguments of the command for design files ask for what is at a URL. -/
structure AsksFor (given : List Text) (read : Arguments) (url : Text) : Prop where
  isRead : Arguments.read fetchUsage true given = .ok read
  noHelp : read.get? "help" = none
  operand : read.operands = [url]

/-- A URL that is not written as an option asks for what is there, with a token behind it. -/
theorem asksFor_url_token (url : Text) (isOperand : Arguments.isOption url = false)
    (token : Text) :
    AsksFor [url, "--token", token] { settings := [("--token", token)], operands := [url] }
      url := by
  have notEnd : ¬ (url == "--") = true := by
    intro isEnd
    rw [beq_iff_eq.mp isEnd] at isOperand
    cases isOperand
  have behind : Arguments.read fetchUsage true ["--token", token] =
      .ok { settings := [("--token", token)] } := by
    rw [Arguments.read, if_neg (by decide), if_pos (by decide)]
    show (Arguments.read fetchUsage true []).map _ = _
    rw [Arguments.read]
    rfl
  refine ⟨?_, rfl, rfl⟩
  rw [Arguments.read, if_neg notEnd, if_neg (by rw [isOperand]; nofun), if_pos rfl, behind]
  rfl

/-- The keys of options whose values are checked. -/
def checkedKeys : List Text := ["--format", "--out-dir", "--port"]

/-- Options with other keys need no check. -/
theorem outcome_checkSetting {folder : Folder} {usage : Usage} {setting : Text × Text}
    (unchecked : setting.1 ∉ checkedKeys) :
    outcome (checkSetting folder usage setting) before = (.ok (), before) := by
  obtain ⟨key, value⟩ := setting
  simp only [checkedKeys, List.mem_cons, List.not_mem_nil, or_false, not_or] at unchecked
  obtain ⟨notFormat, notFolder, notPort⟩ := unchecked
  unfold checkSetting
  dsimp only
  rw [if_neg (by rwa [beq_iff_eq]), if_neg (by rwa [beq_iff_eq]), if_neg (by rwa [beq_iff_eq])]
  rfl

theorem not_mem_checkedKeys_of_fetchUsage :
    ∀ key ∈ Arguments.keys fetchUsage, key ∉ checkedKeys := by decide

/-- Arguments that ask for a URL are taken as they are read. -/
theorem AsksFor.outcome_arguments (asks : AsksFor given read url) (folder : Folder) :
    outcome (arguments folder fetchUsage given) before = (.ok read, before) := by
  have settings : outcome (read.final.forM (checkSetting folder fetchUsage)) before =
      (.ok (), before) := by
    apply outcome_forM
    intro setting within
    apply outcome_checkSetting
    apply not_mem_checkedKeys_of_fetchUsage
    exact (Arguments.setsOnly_of_read asks.isRead).final setting within
  rw [arguments, asks.isRead]
  refine (outcome_bind_of_ok rfl _).trans ?_
  rw [asks.noHelp]
  exact outcome_bind_of_ok settings _

theorem AsksFor.outcome_onlyOperand (asks : AsksFor given read url) :
    outcome (onlyOperand fetchUsage urlOperand pure read.operands) before = (.ok url, before) := by
  rw [asks.operand]
  rfl

/-! ## The ways in which a run goes -/

/-- The token that is sent: the one that is given, else the one of the environment. -/
def tokenOf (world : World) (read : Arguments) : Text :=
  (read.get? "--token").getD ((Keyed.get? ("FIGMA_TOKEN" : Text) world.environment).getD [])

/-- The complaint about a URL that does not point to a design file. -/
def strayLine (url : Text) : Text := "Not a Figma file URL: " ++ url

/-- The complaint about a token that cannot be one. -/
def tokenLine : Text := "A Figma token starting with 'figd_' is required"

/-- The complaints about a fault: its code and message, and its advice. -/
def faultLines (fault : Fault) : List Text :=
  ["Error [" ++ fault.code ++ "]: " ++ fault.messageText, fault.userAction]

/-- What stands for an identifier in a request: the identifier, or the word for none. -/
def named (fileId : Option Text) : Text := fileId.getD "None"

/-- A client turns to the service of the settings. -/
def connecting (settings : Settings) : Effect :=
  .connect settings.figmaApiBase settings.figmaTimeout

/-- The request for a file that is made under the settings. -/
def requestUnder (settings : Settings) (token fileId : Text) :
    Except Figma.RequestError Figma.FileRequest :=
  (Figma.Client.connect settings.figmaApiBase token).bind fun client => client.request fileId

/-- How a run ends behind what was done until the reply: with complaints about a fault, broken
off for any other error, or in some way behind the lines that show the document. -/
inductive Answers (begun : List Effect) : Except Figma.FetchError Json → Run → Prop where
  | fault (fault : Fault) :
      Answers begun (.error (.fault fault)) (.refused begun (faultLines fault))
  | other {error : Figma.FetchError} (noFault : ∀ fault, error ≠ .fault fault) :
      Answers begun (.error error) ⟨begun, .crash (.fetch error)⟩
  | document {document : Json} {lines : List Effect} {ending : Ending}
      (shown : ∀ effect ∈ lines, effect.IsShown) :
      Answers begun (.ok document) ⟨begun ++ lines, ending⟩

/-- The URL and the token are accepted, and the settings are read. -/
structure Passes (world : World) (read : Arguments) (url : Text) (settings : Settings)
    (fileId : Option Text) : Prop where
  isFile : Url.validate url = .ok true
  valid : AccessToken.isValid (tokenOf world read) = true
  extracted : Url.extractFileId url = .ok fileId
  isSet : Settings.ofEnvironment world.environment = .ok settings

/-- The ways in which a run goes that asks for what is at a URL. -/
inductive Fetches (world : World) (read : Arguments) (url : Text) : Run → Prop where
  | malformed {error : UrlError} (malformed : Url.validate url = .error error) :
      Fetches world read url ⟨[], .crash (.address error)⟩
  | stray (stray : Url.validate url = .ok false) :
      Fetches world read url (.refused [] [strayLine url])
  | badToken (isFile : Url.validate url = .ok true)
      (invalid : AccessToken.isValid (tokenOf world read) = false) :
      Fetches world read url (.refused [] [tokenLine])
  | badSetting {error : NumberError} (isFile : Url.validate url = .ok true)
      (valid : AccessToken.isValid (tokenOf world read) = true)
      (unset : Settings.ofEnvironment world.environment = .error error) :
      Fetches world read url ⟨[], .crash (.setting error)⟩
  | noRequest {settings : Settings} {fileId : Option Text} {error : Figma.RequestError}
      (passes : Passes world read url settings fileId)
      (noRequest : requestUnder settings (tokenOf world read) (named fileId) = .error error) :
      Fetches world read url ⟨[connecting settings], .crash (.fetch (.request error))⟩
  | requested {settings : Settings} {fileId : Option Text} {request : Figma.FileRequest} {run : Run}
      (passes : Passes world read url settings fileId)
      (isRequest : requestUnder settings (tokenOf world read) (named fileId) = .ok request)
      (answers : Answers [connecting settings, .request request]
        (request.documentOf (named fileId) (world.reply request)) run) :
      Fetches world read url run

/-- Without a request the command breaks off; with one the reply decides what it goes on with. -/
theorem outcome_fetchDocument (settings : Settings) (token fileId : Text) :
    outcome (fetchDocument world settings.figmaApiBase token fileId) begun =
      match requestUnder settings token fileId with
      | .error error => (.error (.crash (.fetch (.request error))), begun)
      | .ok request =>
        match request.documentOf fileId (world.reply request) with
        | .ok document => (.ok document, begun ++ [.request request])
        | .error (.fault fault) =>
          outcome (refuse (faultLines fault)) (begun ++ [.request request])
        | .error error => (.error (.crash (.fetch error)), begun ++ [.request request]) := by
  rw [requestUnder, fetchDocument]
  cases Figma.Client.connect settings.figmaApiBase token with
  | error refusal => exact outcome_bind_of_error (outcome_orCrash_error _ _ _) _
  | ok client =>
      refine (outcome_bind_of_ok (outcome_orCrash_ok _ _ _) _).trans ?_
      dsimp only [Except.bind]
      cases client.request fileId with
      | error refusal => exact outcome_bind_of_error (outcome_orCrash_error _ _ _) _
      | ok request =>
          refine (outcome_bind_of_ok (outcome_orCrash_ok _ _ _) _).trans ?_
          refine (outcome_bind_of_ok (outcome_emit _ _) _).trans ?_
          dsimp only
          cases request.documentOf fileId (world.reply request) with
          | ok document => rfl
          | error error => cases error <;> rfl

/-- What follows the request is an answer to the reply, where documents are shown in lines. -/
theorem answers_of_request (world : World) (begun : List Effect) {settings : Settings}
    {token fileId : Text} {request : Figma.FileRequest}
    (isRequest : requestUnder settings token fileId = .ok request)
    {next : Json → Session Unit}
    (shows : ∀ document, Does Effect.IsShown (fun _ => True) (next document)) :
    Answers (begun ++ [.request request]) (request.documentOf fileId (world.reply request))
      (.ofOutcome
        (outcome (fetchDocument world settings.figmaApiBase token fileId >>= next) begun)) := by
  rw [outcome_bind, outcome_fetchDocument, isRequest]
  dsimp only
  cases request.documentOf fileId (world.reply request) with
  | ok document =>
      obtain ⟨lines, behind, shown, -⟩ := shows document (begun ++ [.request request])
      dsimp only
      generalize outcome (next document) (begun ++ [.request request]) = answer at behind
      obtain ⟨ending | ⟨⟩, effects⟩ := answer
      · obtain rfl := behind
        exact .document shown
      · obtain rfl := behind
        exact .document shown
  | error error =>
      cases error with
      | fault fault =>
          dsimp only
          rw [outcome_refuse]
          exact .fault fault
      | _ => exact .other nofun

/-- An accepted text shows a URL, and the identifier in it is extracted. -/
theorem exists_parse_of_validate {text : Text} (accepted : Url.validate text = .ok true) :
    ∃ parts, Url.parse text = .ok parts ∧ Url.extractFileId text = .ok parts.fileId? := by
  rw [Url.validate] at accepted
  rw [Url.extractFileId]
  split at accepted
  · cases accepted
  · cases isUrl : Url.parse text with
    | error error =>
        rw [isUrl] at accepted
        cases accepted
    | ok parts => exact ⟨parts, rfl, rfl⟩

/-- Behind an accepted URL and token, the settings and the request decide. -/
theorem fetches_of_passing (isFile : Url.validate url = .ok true)
    (valid : AccessToken.isValid (tokenOf world read) = true)
    {next : Option Text → Json → Session Unit}
    (shows : ∀ fileId document, Does Effect.IsShown (fun _ => True) (next fileId document)) :
    Fetches world read url (.ofOutcome (outcome (do
      let fileId ← orCrash .address (Url.extractFileId url)
      let settings ← orCrash .setting (Settings.ofEnvironment world.environment)
      emit (connecting settings)
      fetchDocument world settings.figmaApiBase (tokenOf world read) (named fileId) >>=
        next fileId) [])) := by
  obtain ⟨parts, -, extracted⟩ := exists_parse_of_validate isFile
  rw [extracted, outcome_bind_of_ok (outcome_orCrash_ok _ _ _)]
  cases isSet : Settings.ofEnvironment world.environment with
  | error error =>
      rw [outcome_bind_of_error (outcome_orCrash_error _ _ _)]
      exact .badSetting isFile valid isSet
  | ok settings =>
      have passes : Passes world read url settings parts.fileId? :=
        ⟨isFile, valid, extracted, isSet⟩
      rw [outcome_bind_of_ok (outcome_orCrash_ok _ _ _), outcome_bind_of_ok (outcome_emit _ _)]
      cases isRequest : requestUnder settings (tokenOf world read) (named parts.fileId?) with
      | error error =>
          rw [outcome_bind, outcome_fetchDocument, isRequest]
          exact .noRequest passes isRequest
      | ok request =>
          have answers := answers_of_request world [connecting settings] isRequest
            (shows parts.fileId?)
          exact .requested passes isRequest answers

/-- A run that asks for what is at a URL goes in one of these ways. -/
theorem AsksFor.fetches (asks : AsksFor given read url) :
    Fetches world read url (Session.run (fetch world given)) := by
  rw [run_eq, fetch, outcome_bind_of_ok (asks.outcome_arguments world.folder)]
  rw [outcome_bind_of_ok asks.outcome_onlyOperand]
  rw [show (read.get? "--token").getD
    ((Keyed.get? ("FIGMA_TOKEN" : Text) world.environment).getD []) = tokenOf world read from rfl]
  cases isFile : Url.validate url with
  | error error =>
      rw [outcome_bind_of_error (outcome_orCrash_error _ _ _)]
      exact .malformed isFile
  | ok file =>
      rw [outcome_bind_of_ok (outcome_orCrash_ok _ _ _)]
      cases file with
      -- What a failed check would go on with is left open: the refusal ends the session.
      | false =>
          show Fetches world read url (.ofOutcome (outcome (refuse [strayLine url] >>= _) []))
          rw [outcome_bind_of_error (outcome_refuse _ _)]
          exact .stray isFile
      | true =>
          cases valid : AccessToken.isValid (tokenOf world read) with
          | false =>
              show Fetches world read url (.ofOutcome (outcome (refuse [tokenLine] >>= _) []))
              rw [outcome_bind_of_error (outcome_refuse _ _)]
              exact .badToken isFile valid
          | true =>
              show Fetches world read url
                (.ofOutcome (outcome (orCrash .address (Url.extractFileId url) >>= _) []))
              apply fetches_of_passing isFile valid
              intro fileId document
              dsimp only
              split
              · exact does_print _
              · refine (Does.forM fun line _ => does_print line).bind fun _ _ => ?_
                split
                · exact does_throw _
                · exact does_pure trivial

end Command

end CommandLine

end DesignExport
