/-
# Previews and submissions agree

A preview converts and keeps nothing, a submission checks, records and converts. Both
read the same text, and a memory changes nothing in what is read as long as no two texts
share a key. So what a preview refuses is refused as a submission in the same words, and
what it shows is what the job and the component of a submission hold, whatever was
requested before the one and before the other.
-/

import DesignExport.Proofs.Cache.FirstInFirstOut
import DesignExport.Proofs.Web.ReaderState
import DesignExport.Proofs.Web.Recording

namespace DesignExport

/-- Both objects have members under the names, with the same values. -/
def Json.Shares (names : List Text) (first second : Json) : Prop :=
  ∀ name ∈ names, ∃ value, first.member? name = some value ∧ second.member? name = some value

namespace Web

open Service ServiceAction Tables

/-! ## The reader -/

/-- The sheet that a text by its codes reads as. -/
def readCodes (codes : List Nat) : StyleSheet := StyleSheet.ofText (codes.map Text.charOfCode)

theorem readCodes_codes (text : Text) : readCodes text.codes = StyleSheet.ofText text := by
  rw [readCodes, Text.map_charOfCode_codes]

/-- No two of the texts share a key. -/
def DistinguishesTexts (texts : List Text) : Prop :=
  SheetMemory.Distinguishes (texts.map Text.codes)

/-- The memory of a reader holds sheets of these texts only, under their own keys. -/
def Remembers (texts : List Text) (reader : Option CachingReader) : Prop :=
  ∀ given ∈ reader, ∃ (bound : Int) (past : List ReaderEvent), 0 ≤ bound ∧
    CachingReader.Holds readCodes (some bound) (texts.map Text.codes) given past

theorem remembers_readerOf {settings : Settings}
    (nonnegative : settings.enableParseCache = true → 0 ≤ settings.parseCacheMaxEntries)
    (texts : List Text) : Remembers texts (readerOf settings) := by
  intro given isReader
  by_cases remembers : settings.enableParseCache = true
  · rw [readerOf, if_pos remembers] at isReader
    obtain rfl := Option.some.inj isReader
    exact ⟨_, [], nonnegative remembers, CachingReader.holds_bounded _ _ _⟩
  · rw [readerOf, if_neg remembers] at isReader
    exact absurd isReader (by simp)

/-- A text is answered with its own sheet, and remembered as such. -/
theorem Remembers.readSheet {texts : List Text} {reader : Option CachingReader}
    (remembers : Remembers texts reader) (distinct : DistinguishesTexts texts)
    {text : Text} (known : text ∈ texts) :
    (readSheet text reader).1 = .ok (StyleSheet.ofText text) ∧
      Remembers texts (readSheet text reader).2 := by
  cases reader with
  | none => exact ⟨rfl, remembers⟩
  | some given =>
      obtain ⟨bound, past, nonnegative, holds⟩ := remembers given rfl
      have bounded : ∀ limit ∈ some bound, 0 ≤ limit := by simpa using nonnegative
      have known : text.codes ∈ texts.map Text.codes := List.mem_map_of_mem known
      constructor
      · have read := (holds.fst_read_iff bounded distinct known).mpr (Text.isUnbroken_codes text)
        rw [readCodes_codes] at read
        exact read
      · rintro _ ⟨⟩
        have request : ∀ codes ∈ (ReaderRequest.read text.codes).text?,
            codes ∈ texts.map Text.codes := by
          rintro _ ⟨⟩
          exact known
        exact ⟨bound, _, nonnegative, holds.after bounded distinct request⟩

variable {σ : Type} {request : Request}

/-- The text that a request can bring to the reader. -/
def App.text? (app : App σ) (request : Request) : Option Text :=
  match bodyObject request with
  | .ok body => (app.service.readableText (body.memberOrNull "cssCode")).toOption
  | .error _ => none

/-- The conversions of an app under its settings keep what is remembered. -/
theorem keepsRequest_remembers {settings : Settings} {idOf timeOf : Nat → Text} {texts : List Text}
    (distinct : DistinguishesTexts texts)
    (known : ∀ text ∈ (App.ofSettings settings idOf timeOf).text? request, text ∈ texts) :
    (App.ofSettings settings idOf timeOf).KeepsRequest (Remembers texts) request := by
  intro body isBody
  refine keepsConverting_of_reads fun text checked reader remembers => ?_
  rw [App.text?, isBody] at known
  dsimp only at known
  rw [readableText, checked] at known
  exact (remembers.readSheet distinct (known _ rfl)).2

/-- Behind some of the requests, what is remembered are texts of the requests. -/
theorem remembers_handleAll {settings : Settings} {idOf timeOf : Nat → Text}
    (nonnegative : settings.enableParseCache = true → 0 ≤ settings.parseCacheMaxEntries)
    {requests : List Request}
    (keys : DistinguishesTexts
      (requests.filterMap (App.ofSettings settings idOf timeOf).text?))
    {history : List Request} (within : history ⊆ requests) :
    Remembers (requests.filterMap (App.ofSettings settings idOf timeOf).text?)
      ((App.ofSettings settings idOf timeOf).handleAll (App.start settings) history).2.reader := by
  apply App.holds_handleAll
  · intro request inHistory
    apply keepsRequest_remembers keys
    intro text isText
    exact List.mem_filterMap.mpr ⟨request, within inHistory, isText⟩
  · exact remembers_readerOf nonnegative _

/-- Where it is remembered what texts read as, a conversion is made from the sheet that the text
has anew. -/
theorem Remembers.converted {settings : Settings} {idOf timeOf : Nat → Text} {texts : List Text}
    {reader : Option CachingReader} (remembers : Remembers texts reader)
    (keys : DistinguishesTexts texts) {css : Json} {text : Text}
    (accepted : CssText.check (App.ofSettings settings idOf timeOf).service.limit css = .ok text)
    (whole : (App.ofSettings settings idOf timeOf).service.encodingProblem css = none)
    (known : Sanitizer.sanitize text ∈ texts) :
    ((App.ofSettings settings idOf timeOf).service.converted css reader).1 =
      .ok (Conversion.ofSheet (StyleSheet.ofText (Sanitizer.sanitize text))) := by
  rw [converted_of_ok accepted whole]
  show (Web.readSheet (Sanitizer.sanitize text) reader).1.map Conversion.ofSheet = _
  rw [(remembers.readSheet keys known).1]
  rfl

/-! ## What is shown and what is stored -/

/-- The names of the artifacts. -/
def artifacts : List Text := ["jsx", "css", "html", "tailwindClasses", "customStyles"]

/-- A job and a component hold what a body shows: the job's output has its name, counts and
artifacts, and the component has its tokens and artifacts. -/
structure Agrees (body : Json) (job : Job) (component : ComponentRecord) : Prop where
  output : Json.Shares ["componentName", "stats"] job.output body
  code : Json.Shares artifacts (job.output.memberOrNull "generatedCode") body
  tokens : body.member? "designTokens" = some component.designTokens
  artifacts : Json.Shares artifacts component.generatedCode body

theorem shares_members (conversion : Conversion) :
    Json.Shares artifacts (.object conversion.code.members) conversion.toJson := by
  intro name isName
  simp only [artifacts, List.mem_cons, List.not_mem_nil, or_false] at isName
  rcases isName with rfl | rfl | rfl | rfl | rfl <;> exact ⟨_, rfl, rfl⟩

/-- A job and a component that are made from a conversion hold what the conversion shows. -/
theorem agrees_of_made {conversion : Conversion} {job : Job} {css : Json}
    {id extractedAt createdAt : Text}
    (output : job.output =
      outputOf (componentOf job.id css id extractedAt createdAt conversion) conversion) :
    Agrees conversion.toJson job (componentOf job.id css id extractedAt createdAt conversion) where
  output := by
    rw [output]
    intro name isName
    simp only [List.mem_cons, List.not_mem_nil, or_false] at isName
    rcases isName with rfl | rfl <;> exact ⟨_, rfl, rfl⟩
  code := by
    rw [output]
    exact shares_members conversion
  tokens := rfl
  artifacts := shares_members conversion

/-- A body that holds a style sheet and nothing else. -/
def Brings (request : Request) (css : Json) : Prop :=
  request.json = .ok (.object [("cssCode", css)])

theorem Brings.bodyObject {css : Json} (brings : Brings request css) :
    bodyObject request = .ok (.object [("cssCode", css)]) := by
  rw [Web.bodyObject, brings]

theorem Brings.text? {css : Json} (brings : Brings request css) {app : App σ} {text : Text}
    (accepted : CssText.check app.service.limit css = .ok text) :
    app.text? request = some (Sanitizer.sanitize text) := by
  rw [App.text?, brings.bodyObject]
  show (app.service.readableText css).toOption = _
  rw [readableText, accepted]
  rfl

/-- The text that a body holds as a style sheet and nothing else. -/
def broughtText? (request : Request) : Option Text :=
  match request.json with
  | .ok (.object [(name, .text text)]) => if name = "cssCode" then some text else none
  | _ => none

theorem brings_of_broughtText? {text : Text} (isText : broughtText? request = some text) :
    Brings request (.text text) := by
  unfold broughtText? at isText
  split at isText
  · next name given isJson =>
      split at isText
      · next isName =>
          obtain rfl := Option.some.inj isText
          rw [Brings, isJson, isName]
      · cases isText
  · cases isText

variable {app : App σ} {css : Json} {state : ServiceState σ} {before : Tables}

/-- A preview of a style sheet is what the conversion comes to. -/
theorem App.handle_preview (found : Resource.ofPath? request.path = some .preview)
    (isPost : Method.ofName? request.method = some .post) (brings : Brings request css)
    (app : App σ) (state : ServiceState σ) :
    (app.handle request state).1 =
      Response.shown .post ((app.service.converted css state.reader).1.map fun conversion =>
        .json 200 conversion.toJson) := by
  rw [handle_of_knows found isPost rfl (by decide), visit, outcome_preview brings.bodyObject]
  rfl

/-- A submission of a style sheet is what the service makes of it for the default user. -/
theorem App.handle_submission (found : Resource.ofPath? request.path = some .submission)
    (isPost : Method.ofName? request.method = some .post) (brings : Brings request css)
    (app : App σ) (state : ServiceState σ) :
    app.handle request state =
      let submitted := outcome (app.service.submit css .null app.defaultUser) state
      (Response.shown .post (submitted.1.map Response.accepted), submitted.2) := by
  have isUser : userOf app.defaultUser (.object [("cssCode", css)]) = .ok app.defaultUser := rfl
  rw [handle_of_knows found isPost rfl (by decide), visit,
    outcome_submit brings.bodyObject isUser]
  rfl

/-- A style sheet that is accepted is written with no options beside it. -/
theorem checkWritten_inputOf_null {limit : Int} {text : Text}
    (accepted : CssText.check limit css = .ok text) :
    (inputOf css .null).checkWritten = .ok () := by
  cases css with
  | text | broken => rfl
  | null | bool | int | float | array | object => cases accepted

/-- What a submission comes to whose style sheet can be converted: a completed job with a
component, both of which can be looked up. -/
theorem App.exists_submitted (distinct : Function.Injective app.service.idOf)
    (rows : app.service.HasRows state before) (takes : app.service.refusal = none)
    (fitting : fits app.defaultUser = true) {text : Text}
    (accepted : CssText.check app.service.limit css = .ok text) {conversion : Conversion}
    (converts : (app.service.converted css state.reader).1 = .ok conversion) :
    ∃ (job : Job) (component : ComponentRecord) (next : ServiceState σ) (after : Tables),
      outcome (app.service.submit css .null app.defaultUser) state = (.ok job, next) ∧
      next.store = .ready after ∧ job.status = .completed ∧
      after.job? job.id = some job ∧ after.component? component.id = some component ∧
      component.jobId = job.id ∧ Agrees conversion.toJson job component := by
  have fresh := rows.drew.noJob distinct (Nat.lt_add_one state.ids)
  have new : before.NoComponent (app.service.idOf (state.ids + 2)) :=
    rows.drew.noComponent distinct (by omega)
  have written := checkWritten_inputOf_null accepted
  have stops := (stopping?_of_ok converts).trans takes
  have submitted := submitted_submit accepted rows.isAt fresh new written fitting
  generalize outcome (app.service.submit css .null app.defaultUser) state = result at submitted ⊢
  cases submitted with
  | @completed job next made component time id isInput progress completedAt status converted
      takes isMade output here =>
      obtain rfl := Except.ok.inj (converts.symm.trans converted)
      obtain ⟨extractedAt, createdAt, rfl⟩ := isMade
      refine ⟨job, _, next, _, rfl, here.store, status, ?_, component?_withComponent new, rfl,
        agrees_of_made output⟩
      rw [← id] at fresh
      exact job?_withJob fresh
  | failed problem drawn time id isInput progress completedAt status reason =>
      cases stops.symm.trans reason
  | stranded problem drawn id isInput status reason => cases stops.symm.trans reason

end Web

open Web in
/-- Behind any requests before the one and any requests before the other, a submission of a
style sheet agrees with its preview: what the preview refuses is refused with the same
response, and what the preview shows is what the completed job of the submission and its
component hold. -/
theorem preview_agrees_with_submission {settings : Settings}
    (fitting : Tables.fits settings.defaultUserId = true)
    (nonnegative : settings.enableParseCache = true → 0 ≤ settings.parseCacheMaxEntries)
    {idOf : Nat → Text} (distinct : Function.Injective idOf) {timeOf : Nat → Text}
    {earlier later : List Request} {css : Json} {preview submission : Request}
    (previews : Resource.ofPath? preview.path = some .preview)
    (submits : Resource.ofPath? submission.path = some .submission)
    (posts : Method.ofName? preview.method = some .post ∧
      Method.ofName? submission.method = some .post)
    (brings : Brings preview css ∧ Brings submission css)
    (keys : DistinguishesTexts ((earlier ++ later ++ [preview, submission]).filterMap
      (App.ofSettings settings idOf timeOf).text?)) :
    let app := App.ofSettings settings idOf timeOf
    let shown := (app.handle preview (app.handleAll (App.start settings) earlier).2).1
    let submitted := app.handle submission (app.handleAll (App.start settings) later).2
    (shown.status = 400 → submitted.1 = shown) ∧
    (shown.status = 200 →
      ∃ (body : Json) (job : Job) (component : ComponentRecord) (after : Tables),
        shown = .json 200 body ∧ submitted.1 = Response.accepted job ∧ job.status = .completed ∧
        submitted.2.store = .ready after ∧ after.job? job.id = some job ∧
        after.component? component.id = some component ∧ component.jobId = job.id ∧
        Agrees body job component) := by
  intro app shown submitted
  have before : Remembers _ (app.handleAll (App.start settings) earlier).2.reader :=
    remembers_handleAll nonnegative keys (by simp)
  have between : Remembers _ (app.handleAll (App.start settings) later).2.reader :=
    remembers_handleAll nonnegative keys (by simp)
  have start : app.service.HasRows (App.start settings) {} := app.service.hasRows_start _
  obtain ⟨tables, rows, -⟩ := App.exists_handleAll distinct start later
  have shows : shown = _ := App.handle_preview previews posts.1 brings.1 app _
  have submits : submitted = _ := App.handle_submission submits posts.2 brings.2 app _
  rw [shows, submits]
  dsimp only
  cases checked : CssText.check app.service.limit css with
  | error refusal =>
      rw [Service.converted_of_error checked, Service.outcome_submit_of_error checked]
      have status : (Response.shown .post (.error (.fault refusal.fault))).status = 400 := by
        rw [Response.status_shown_error, Response.ofProblem_of_validation refusal.kind_fault]
        rfl
      exact ⟨fun _ => rfl, fun isShown => absurd (status.symm.trans isShown) (by decide)⟩
  | ok text =>
  cases broken : app.service.encodingProblem css with
  | some problem =>
      rw [Service.converted_of_problem checked broken]
      have status : (Response.shown .post (.error problem)).status = 500 := by
        rw [Response.status_shown_error, uncaught_encodingProblem broken]
        rfl
      exact ⟨fun isShown => absurd (status.symm.trans isShown) (by decide),
        fun isShown => absurd (status.symm.trans isShown) (by decide)⟩
  | none =>
      have known : Sanitizer.sanitize text ∈
          (earlier ++ later ++ [preview, submission]).filterMap app.text? :=
        List.mem_filterMap.mpr ⟨preview, by simp, brings.1.text? checked⟩
      obtain ⟨job, component, next, after, run, store, status, isJob, isComponent, owned, agrees⟩ :=
        App.exists_submitted distinct rows rfl fitting checked
          (between.converted keys checked broken known)
      rw [before.converted keys checked broken known, run]
      exact ⟨fun isShown => absurd isShown (by decide : ¬ 200 = 400),
        fun _ => ⟨_, job, component, after, rfl, rfl, status, store, isJob, isComponent, owned,
          agrees⟩⟩

open Web in
/-- A submission behind a preview, and a preview behind a submission, of one text. -/
theorem preview_agrees_with_submission_either_order :
    let app := App.ofSettings {} (fun n => List.replicate n '0') fun n => List.replicate n '0'
    let post (target : Text) : Request :=
      { method := "POST", target := target, contentType := "application/json"
        body := "\x7b\"cssCode\": \".a \x7b b: c \x7d\"\x7d" }
    let preview := post "/api/css/preview"
    let submission := post "/api/css/process"
    let shown := (app.handle preview (app.handleAll (App.start {}) [submission]).2).1
    let submitted := app.handle submission (app.handleAll (App.start {}) [preview]).2
    ∃ (body : Json) (job : Job) (component : ComponentRecord) (after : Tables),
      shown = .json 200 body ∧ submitted.1 = Response.accepted job ∧ job.status = .completed ∧
      submitted.2.store = .ready after ∧ after.job? job.id = some job ∧
      after.component? component.id = some component ∧ component.jobId = job.id ∧
      Agrees body job component := by
  intro app post preview submission shown submitted
  have distinct : Function.Injective fun n => List.replicate n '0' :=
    List.replicate_left_injective '0'
  have keys : DistinguishesTexts
      (([submission] ++ [preview] ++ [preview, submission]).filterMap app.text?) := by
    have same : ([submission] ++ [preview] ++ [preview, submission]).filterMap app.text? =
        List.replicate 4 (".a \x7b b: c \x7d" : Text) := by decide +kernel
    intro first isFirst second isSecond _ _
    rw [same, List.map_replicate] at isFirst isSecond
    exact (List.eq_of_mem_replicate isFirst).trans (List.eq_of_mem_replicate isSecond).symm
  have brings : Brings preview (.text ".a \x7b b: c \x7d") ∧
      Brings submission (.text ".a \x7b b: c \x7d") :=
    ⟨brings_of_broughtText? (by decide +kernel), brings_of_broughtText? (by decide +kernel)⟩
  have memory : ({} : Settings).enableParseCache = true →
      0 ≤ ({} : Settings).parseCacheMaxEntries := by
    decide
  exact (preview_agrees_with_submission (by decide) memory distinct (by decide +kernel)
    (by decide +kernel) (by decide) brings keys).2 (by decide +kernel)

open Web in
/-- A default user beyond the integers of the store keeps no style sheet from being previewed,
but every one from being submitted. -/
theorem preview_disagrees_default_user :
    let app := App.ofSettings { defaultUserId := 0x8000000000000000 }
      (fun n => List.replicate n '0') fun n => List.replicate n '0'
    let post (target : Text) : Request :=
      { method := "POST", target := target, contentType := "application/json"
        body := "\x7b\"cssCode\": \".a \x7b b: c \x7d\"\x7d" }
    let past := App.start { defaultUserId := 0x8000000000000000 }
    (app.handle (post "/api/css/preview") past).1.status = 200 ∧
      (app.handle (post "/api/css/process") past).1.status = 500 := by
  decide +kernel

end DesignExport
