/-
# What a fetch comes to

What is known of URLs, identifiers and replies is carried over to the command for design
files. A text with a malformed authority breaks it off before anything is said; any other text
is answered, as a design file or with the complaint that it is none. A request goes out for
the identifier in the URL, or for the word that stands for none where the path of an accepted
URL names no file. An error of a reply is told in complaints exactly where it is reported.
-/

import DesignExport.Proofs.CommandLine.Fetch
import DesignExport.Proofs.Erasure

namespace DesignExport

/-- A character that begins no control sequence stays in front. -/
theorem Text.withoutCodes_cons {c : Char} (plain : c ≠ '\x1b') (rest : Text) :
    withoutCodes (c :: rest) = c :: withoutCodes rest := by
  apply Pattern.erase_cons_of_none
  rw [controlSequence]
  intro later whole
  exact plain (List.cons.inj whole).1

namespace CommandLine

open Command

variable {world : World} {given : List Text} {read : Arguments} {url : Text}
  {begun : List Effect} {run : Run}

namespace Command

/-! ## Effects of the runs -/

/-- Behind what was done before the reply, only lines are shown. -/
theorem Answers.exists_effects {answer : Except Figma.FetchError Json}
    (answers : Answers begun answer run) :
    ∃ lines, run.effects = begun ++ lines ∧ ∀ effect ∈ lines, effect.IsShown := by
  cases answers with
  | fault fault => exact ⟨_, rfl, List.forall_mem_map.mpr fun line _ => .complain _⟩
  | other noFault => exact ⟨[], (List.append_nil begun).symm, by simp⟩
  | document shown => exact ⟨_, rfl, shown⟩

/-- A fault is told in complaints. -/
theorem Answers.eq_refused {fault : Fault} (answers : Answers begun (.error (.fault fault)) run) :
    run = .refused begun (faultLines fault) := by
  cases answers with
  | fault => rfl
  | other noFault => exact absurd rfl (noFault fault)

/-- A run with a request has passed all checks, and the rest is an answer to the reply. -/
theorem Fetches.of_mem_request (fetches : Fetches world read url run)
    {request : Figma.FileRequest} (within : .request request ∈ run.effects) :
    ∃ settings fileId, Passes world read url settings fileId ∧
      requestUnder settings (tokenOf world read) (named fileId) = .ok request ∧
      Answers [connecting settings, .request request]
        (request.documentOf (named fileId) (world.reply request)) run := by
  cases fetches with
  | malformed | badSetting => cases within
  | stray | badToken =>
      cases within with
      | tail _ others => cases others
  | noRequest =>
      cases within with
      | tail _ others => cases others
  | requested passes isRequest answers =>
      obtain ⟨lines, effects, shown⟩ := answers.exists_effects
      rw [effects] at within
      rcases List.mem_append.mp within with isBegun | isLine
      · obtain rfl := by simpa [connecting] using isBegun
        exact ⟨_, _, passes, isRequest, answers⟩
      · cases shown _ isLine

/-- The checks are passed in one way only. -/
theorem Passes.unique {settings other : Settings} {fileId otherId : Option Text}
    (passes : Passes world read url settings fileId)
    (also : Passes world read url other otherId) : settings = other ∧ fileId = otherId :=
  ⟨Except.ok.inj (passes.isSet.symm.trans also.isSet),
    Except.ok.inj (passes.extracted.symm.trans also.extracted)⟩

/-- A request goes out exactly when all checks are passed and it is the request that is made. -/
theorem Fetches.mem_request_iff (fetches : Fetches world read url run)
    {request : Figma.FileRequest} :
    .request request ∈ run.effects ↔
      ∃ settings fileId, Passes world read url settings fileId ∧
        requestUnder settings (tokenOf world read) (named fileId) = .ok request := by
  constructor
  · intro within
    obtain ⟨settings, fileId, passes, isRequest, -⟩ := fetches.of_mem_request within
    exact ⟨settings, fileId, passes, isRequest⟩
  · rintro ⟨settings, fileId, passes, isRequest⟩
    cases fetches with
    | malformed malformed => cases malformed.symm.trans passes.isFile
    | stray stray => cases stray.symm.trans passes.isFile
    | badToken isFile invalid => cases invalid.symm.trans passes.valid
    | badSetting isFile valid unset => cases unset.symm.trans passes.isSet
    | noRequest others noRequest =>
        obtain ⟨rfl, rfl⟩ := others.unique passes
        cases noRequest.symm.trans isRequest
    | requested others isOther answers =>
        obtain ⟨rfl, rfl⟩ := others.unique passes
        obtain rfl := Except.ok.inj (isOther.symm.trans isRequest)
        obtain ⟨lines, effects, -⟩ := answers.exists_effects
        rw [effects]
        simp

/-- The complaint about a stray URL is not the one about a token. -/
theorem withoutCodes_strayLine_ne (url : Text) :
    Text.withoutCodes (strayLine url) ≠ Text.withoutCodes tokenLine := by
  have stray : strayLine url = 'N' :: ("ot a Figma file URL: " ++ url : Text) := rfl
  have token : tokenLine = 'A' :: (" Figma token starting with 'figd_' is required" : Text) := rfl
  rw [stray, token, Text.withoutCodes_cons (by decide), Text.withoutCodes_cons (by decide)]
  intro same
  exact absurd (List.cons.inj same).1 (by decide)

/-- The complaint that a URL points to no design file is made exactly where the check of URLs
says so. -/
theorem Fetches.eq_refused_iff (fetches : Fetches world read url run) :
    run = .refused [] [strayLine url] ↔ Url.validate url = .ok false := by
  cases fetches with
  | malformed malformed =>
      rw [malformed]
      exact iff_of_false (fun same => nomatch congrArg Run.ending same) nofun
  | stray stray => exact iff_of_true rfl stray
  | badToken isFile invalid =>
      rw [isFile]
      apply iff_of_false (fun same => ?_) nofun
      have complaints := Effect.complain.inj (List.cons.inj (congrArg Run.effects same)).1
      exact withoutCodes_strayLine_ne url complaints.symm
  | badSetting isFile valid unset =>
      rw [isFile]
      exact iff_of_false (fun same => nomatch congrArg Run.ending same) nofun
  | noRequest passes noRequest =>
      rw [passes.isFile]
      exact iff_of_false (fun same => nomatch congrArg Run.ending same) nofun
  | requested passes isRequest answers =>
      rw [passes.isFile]
      apply iff_of_false (fun same => ?_) nofun
      obtain ⟨lines, effects, -⟩ := answers.exists_effects
      rw [same] at effects
      nomatch (List.cons.inj effects).1

/-- A run breaks off for the URL exactly where the check of URLs does. -/
theorem Fetches.eq_crash_iff (fetches : Fetches world read url run) (error : UrlError) :
    run = ⟨[], .crash (.address error)⟩ ↔ Url.validate url = .error error := by
  cases fetches with
  | malformed malformed =>
      rw [malformed]
      constructor
      · intro same
        rw [Crash.address.inj (Ending.crash.inj (congrArg Run.ending same))]
      · intro same
        rw [Except.error.inj same]
  | stray stray =>
      rw [stray]
      exact iff_of_false (fun same => nomatch congrArg Run.ending same) nofun
  | badToken isFile invalid =>
      rw [isFile]
      exact iff_of_false (fun same => nomatch congrArg Run.ending same) nofun
  | badSetting isFile valid unset =>
      rw [isFile]
      exact iff_of_false (fun same => nomatch congrArg Run.ending same) nofun
  | noRequest passes noRequest =>
      rw [passes.isFile]
      exact iff_of_false (fun same => nomatch congrArg Run.ending same) nofun
  | requested passes isRequest answers =>
      rw [passes.isFile]
      apply iff_of_false (fun same => ?_) nofun
      obtain ⟨lines, effects, -⟩ := answers.exists_effects
      rw [same] at effects
      cases effects

end Command

/-! ## Malformed URLs -/

/-- A text is answered by the check of URLs, and read as a URL at all, exactly when its authority
is well formed. The command for design files complains about a stray URL exactly where the check
says that it is none of a design file; a text with a malformed authority breaks it off instead,
without a complaint and before anything else is done. -/
theorem url_answered_iff (text : Text) :
    ((∃ isFile, Url.validate text = .ok isFile) ↔ Url.IsWellFormed (Url.authorityOf text)) ∧
    ((∃ parts, Url.parse text = .ok parts) ↔ Url.IsWellFormed (Url.authorityOf text)) ∧
    ∀ (world : World) (given : List Text) (read : Arguments), AsksFor given read text →
      let run := Session.run (fetch world given)
      (run = .refused [] [strayLine text] ↔ Url.validate text = .ok false) ∧
      ((∃ error, run = ⟨[], .crash (.address error)⟩) ↔
        ¬ Url.IsWellFormed (Url.authorityOf text)) := by
  refine ⟨Url.exists_validate_iff, Url.exists_parse_iff, fun world given read asks => ?_⟩
  intro run
  have fetches : Fetches world read text run := asks.fetches
  refine ⟨fetches.eq_refused_iff, ?_⟩
  rw [← Url.exists_validate_iff]
  constructor
  · rintro ⟨error, same⟩ ⟨isFile, answered⟩
    cases answered.symm.trans ((fetches.eq_crash_iff error).mp same)
  · intro unanswered
    cases checked : Url.validate text with
    | ok isFile => exact absurd ⟨isFile, checked⟩ unanswered
    | error error => exact ⟨error, (fetches.eq_crash_iff error).mpr checked⟩

/-- A URL of another service, in brackets an address of version 6, is answered with the
complaint. -/
theorem url_answered_iff_brackets :
    let text : Text := "http://[::1]:80/file/a"
    let read : Arguments := { operands := [text] }
    let world : World := { reply := fun _ => .response 404 [] }
    AsksFor [text] read text ∧ Url.IsWellFormed (Url.authorityOf text) ∧
      Session.run (fetch world [text]) = .refused [] [strayLine text] := by
  intro text read world
  have asks : AsksFor [text] read text := ⟨by decide +kernel, by decide +kernel, rfl⟩
  have stray : Url.validate text = .ok false := by decide +kernel
  obtain ⟨answered, -, runs⟩ := url_answered_iff text
  exact ⟨asks, answered.mp ⟨false, stray⟩, (runs world [text] read asks).1.mpr stray⟩

/-- A bracket that is not closed breaks the command off, where the complaint is due. -/
theorem malformed_url_breaks_off :
    let text : Text := "http://["
    let token : Text := "figd_xxxxxxxxxxxxxxxxxxxx"
    let world : World := { reply := fun _ => .response 404 [] }
    Url.validate text = .error .unpairedBracket ∧
      Session.run (fetch world [text, "--token", token]) =
        ⟨[], .crash (.address .unpairedBracket)⟩ := by
  intro text token world
  have asks := asksFor_url_token text rfl token
  have malformed : Url.validate text = .error .unpairedBracket := by decide +kernel
  have fetches : Fetches world _ text _ := asks.fetches
  exact ⟨malformed, (fetches.eq_crash_iff _).mpr malformed⟩

/-! ## Accepted URLs without an identifier -/

/-- An accepted text has an identifier exactly when the path in it names a file, and then it is
a run of ASCII letters and digits behind a segment for files. The requests of the command for
design files are the ones for that identifier, or for the word that stands for none where the
path names no file. -/
theorem accepted_url_has_identifier_iff {text : Text} (accepted : Url.validate text = .ok true) :
    ∃ parts fileId, Url.parse text = .ok parts ∧ Url.extractFileId text = .ok fileId ∧
      ((∃ identifier, fileId = some identifier) ↔ Url.NamesFile parts.path) ∧
      (∀ identifier, fileId = some identifier →
        identifier ≠ [] ∧ (∀ c ∈ identifier, c.isAlphanum = true) ∧
        ∃ segment ∈ Url.fileSegments, segment ++ identifier <:+: parts.path) ∧
      ∀ (world : World) (given : List Text) (read : Arguments), AsksFor given read text →
        ∀ request : Figma.FileRequest,
          .request request ∈ (Session.run (fetch world given)).effects ↔
            AccessToken.isValid (tokenOf world read) = true ∧
            ∃ settings, Settings.ofEnvironment world.environment = .ok settings ∧
              requestUnder settings (tokenOf world read) (fileId.getD "None") = .ok request := by
  obtain ⟨parts, isUrl, extracted⟩ := exists_parse_of_validate accepted
  refine ⟨parts, parts.fileId?, isUrl, extracted, Url.exists_fileId?_iff, ?_, ?_⟩
  · intro identifier isId
    obtain ⟨segment, isSegment, rest, isSuffix, isIdentifier⟩ := Url.exists_of_fileId? isId
    have begins : segment ++ identifier <+: segment ++ (identifier ++ rest) :=
      ⟨rest, List.append_assoc ..⟩
    exact ⟨isIdentifier.full, isIdentifier.alphanum, segment, isSegment,
      begins.isInfix.trans isSuffix.isInfix⟩
  · intro world given read asks request
    rw [asks.fetches.mem_request_iff]
    constructor
    · rintro ⟨settings, fileId, passes, isRequest⟩
      obtain rfl := Except.ok.inj (extracted.symm.trans passes.extracted)
      exact ⟨passes.valid, settings, passes.isSet, isRequest⟩
    · rintro ⟨valid, settings, isSet, isRequest⟩
      exact ⟨settings, parts.fileId?, ⟨accepted, valid, extracted, isSet⟩, isRequest⟩

/-- The URL of a design file, with its identifier behind the segment for designs: the file with
that identifier is requested. -/
theorem accepted_url_has_identifier_iff_design :
    let text : Text := "https://www.figma.com/design/AbC123/Name?node-id=1"
    let token : Text := "figd_xxxxxxxxxxxxxxxxxxxx"
    let world : World := { reply := fun _ => .response 404 [] }
    Url.validate text = .ok true ∧ Url.extractFileId text = .ok (some "AbC123") ∧
      (∃ parts, Url.parse text = .ok parts ∧ Url.NamesFile parts.path) ∧
      .request { url := "https://api.figma.com/v1/files/AbC123", token := token } ∈
        (Session.run (fetch world [text, "--token", token])).effects := by
  intro text token world
  have asks := asksFor_url_token text rfl token
  have accepted : Url.validate text = .ok true := by decide +kernel
  have isId : Url.extractFileId text = .ok (some "AbC123") := by decide +kernel
  obtain ⟨parts, fileId, isUrl, extracted, named, -, requests⟩ :=
    accepted_url_has_identifier_iff accepted
  obtain rfl : fileId = some "AbC123" := Except.ok.inj (extracted.symm.trans isId)
  refine ⟨accepted, isId, ⟨parts, isUrl, named.mp ⟨_, rfl⟩⟩, ?_⟩
  exact (requests world _ _ asks _).mpr ⟨by decide +kernel, _, rfl, by decide +kernel⟩

/-- Nothing behind the segment for designs: the URL is accepted, no identifier is extracted, and
the file of the name for none is requested. -/
theorem accepted_url_without_identifier :
    let text : Text := "https://www.figma.com/design/"
    let token : Text := "figd_xxxxxxxxxxxxxxxxxxxx"
    let world : World := { reply := fun _ => .response 404 [] }
    Url.validate text = .ok true ∧ Url.extractFileId text = .ok none ∧
      .request { url := "https://api.figma.com/v1/files/None", token := token } ∈
        (Session.run (fetch world [text, "--token", token])).effects := by
  intro text token world
  let read : Arguments := { settings := [("--token", token)], operands := [text] }
  have asks : AsksFor [text, "--token", token] read text := asksFor_url_token text rfl token
  have passes : Passes world read text _ none :=
    ⟨by decide +kernel, by decide +kernel, by decide +kernel, rfl⟩
  refine ⟨passes.isFile, passes.extracted, ?_⟩
  exact asks.fetches.mem_request_iff.mpr ⟨_, _, passes, by decide +kernel⟩

/-! ## Replies to the request -/

open Figma in
/-- What is made of a reply reports it exactly when it is none of the unreported ones. So when
the command for design files has made its request and the reply brings no document, it tells a
fault in complaints and ends with the exit code for failures exactly when the reply is none of
these; for them it breaks off. -/
theorem reply_reported_iff (request : FileRequest) (reply : Reply) :
    (∀ fileId : Text,
      IsReported reply (request.documentOf fileId reply) ↔ ¬ IsUnreported request reply) ∧
    ∀ (world : World) (given : List Text) (read : Arguments) (url : Text),
      AsksFor given read url → world.reply request = reply →
        let run := Session.run (fetch world given)
        .request request ∈ run.effects →
        ∃ settings fileId, Passes world read url settings fileId ∧
          requestUnder settings (tokenOf world read) (named fileId) = .ok request ∧
          let answer := request.documentOf (named fileId) reply
          let begun := [connecting settings, .request request]
          Answers begun answer run ∧
          ∀ error, answer = .error error →
            ((∃ fault, error = .fault fault ∧ run = .refused begun (faultLines fault)) ↔
              ¬ IsUnreported request reply) := by
  refine ⟨fun fileId => isReported_documentOf_iff request fileId reply, ?_⟩
  intro world given read url asks isReply run within
  have fetches : Fetches world read url run := asks.fetches
  obtain ⟨settings, fileId, passes, isRequest, answers⟩ := fetches.of_mem_request within
  rw [isReply] at answers
  refine ⟨settings, fileId, passes, isRequest, answers, ?_⟩
  intro error isError
  rw [← exists_fault_iff isError]
  rw [isError] at answers
  constructor
  · rintro ⟨fault, isFault, -⟩
    exact ⟨fault, isFault⟩
  · rintro ⟨fault, rfl⟩
    exact ⟨fault, rfl, answers.eq_refused⟩

open Figma in
/-- A service that takes too long is reported with the identifier of the file. -/
theorem reply_reported_iff_timeout :
    let text : Text := "https://www.figma.com/file/AbC123"
    let token : Text := "figd_xxxxxxxxxxxxxxxxxxxx"
    let request : FileRequest := { url := "https://api.figma.com/v1/files/AbC123", token := token }
    let world : World := { reply := fun _ => .failure .timedOut "ReadTimeout" [] }
    let run := Session.run (fetch world [text, "--token", token])
    .request request ∈ run.effects ∧
      ∃ settings, run = .refused [connecting settings, .request request]
        (faultLines (timeoutFault "AbC123" "ReadTimeout")) := by
  intro text token request world run
  let read : Arguments := { settings := [("--token", token)], operands := [text] }
  have asks : AsksFor [text, "--token", token] read text := asksFor_url_token text rfl token
  have passes : Passes world read text _ (some "AbC123") :=
    ⟨by decide +kernel, by decide +kernel, by decide +kernel, rfl⟩
  have within : .request request ∈ run.effects :=
    asks.fetches.mem_request_iff.mpr ⟨_, _, passes, by decide +kernel⟩
  obtain ⟨-, runs⟩ := reply_reported_iff request (.failure .timedOut "ReadTimeout" [])
  obtain ⟨settings, fileId, also, -, -, told⟩ :=
    runs world [text, "--token", token] _ text asks rfl within
  obtain rfl := (also.unique passes).2
  obtain ⟨fault, isFault, ended⟩ := (told _ rfl).mpr nofun
  obtain rfl := FetchError.fault.inj isFault
  exact ⟨within, settings, ended⟩

open Figma in
/-- A status below all successes brings a document, and the body of a success that is not JSON is
no fault. -/
theorem document_of_early_status :
    let request : FileRequest :=
      { url := "https://api.figma.com/v1/files/AbC123", token := "figd_xxxxxxxxxxxxxxxxxxxx" }
    request.documentOf "AbC123" (.response 101 "\x7b\x7d") = .ok (.object []) ∧ ¬ IsSuccess 101 ∧
      ∃ error, request.documentOf "AbC123" (.response 200 "<html>") =
        .error (.unreadable error) := by
  intro request
  refine ⟨rfl, fun success => ?_, _, rfl⟩
  exact absurd success.1 (by decide)

end CommandLine

end DesignExport
