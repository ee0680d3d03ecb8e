/-
This file states how the service answers a request whose source has the shape of an exchange form and is malformed.
-/

import Storyboard.Proofs.Document.Writable
import Storyboard.Proofs.Exchange.Echo
import Storyboard.Server.Service

namespace Storyboard.Server

/--
A request asks for an analysis of a source, or for an export of it in a known format, and the rest of the request is as
it should be. The texts in its body are made of whole characters, as no source is read from a body that escapes half of
one.
-/
structure Submits (service : Service) (request : Request) (source : Json) : Prop where
  method : request.method = "POST"
  /-- The settings can be read, and the request is not too long for them by its own account. -/
  ready : ∃ settings, service.settings = .ok settings ∧ Service.checkLength settings request = .ok ()
  body : ∃ fields, request.value? = .ok (some (.object fields)) ∧ fields.lookup "document" = some source ∧
    (Route.ofPath? (Service.barePath request) = some .analyze ∨ ∃ name format options,
      Route.ofPath? (Service.barePath request) = some (.convert name) ∧ Format.ofName? name = some format ∧
        optionsField fields = .valid options)

section Source

variable {config : Config} {source : Json} {issues : List Issue}

theorem isObject_of_isPage {page : Json} (paged : Exchange.isPage page) : page.isObject := by
  cases page <;> simp_all [Exchange.isPage, Json.isObject, Json.fields?]

/-- A value in the shape of an exchange form can be a document. -/
theorem document_eq_valid (form : Exchange.isExchangeForm source) : document source = .valid source := by
  cases source with
  | object => rfl
  | array pages =>
      rw [Exchange.isExchangeForm, Bool.and_eq_true, List.all_eq_true] at form
      have each : ∀ page ∈ pages, documentObject page = .valid page := fun page member =>
        if_pos (isObject_of_isPage (form.2 page member))
      have listed : Schema.list documentObject (.array pages) = .valid pages := by
        simpa [Schema.list] using Checked.eachFrom_map each 0
      rw [document, listed]
      rfl
  | _ => simp [Exchange.isExchangeForm, Exchange.isPage] at form

theorem documentField_eq_valid {fields : List (String × Json)} (given : fields.lookup "document" = some source)
    (form : Exchange.isExchangeForm source) : documentField fields = .valid source := by
  rw [documentField, Schema.required, Schema.find?, Schema.FieldName.single, given]
  dsimp only
  rw [document_eq_valid form]
  rfl

theorem checkBody_eq_ok {α : Type} {check : List (String × Json) → Checked α} {fields : List (String × Json)}
    {result : α} (passed : check fields = .valid result) : checkBody check (some (.object fields)) = .ok result := by
  rw [checkBody, attributes, passed]
  rfl

/-- A malformed exchange form gives no design. -/
theorem ofSource_eq_error (form : Exchange.isExchangeForm source)
    (rejected : Exchange.screensOf source = .invalid issues) :
    Design.ofSource config source = .error (.pages issues) := by
  rw [Design.ofSource, if_pos form, Exchange.read, rejected]
  rfl

/-- Without a design there is no analysis. -/
theorem analysisResponse_eq_error {failure : Failure} (unread : Design.ofSource config source = .error failure) :
    Service.analysisResponse config source = .error failure := by
  rw [Service.analysisResponse, Analysis.ofSource, unread]
  rfl

/-- Without a design there is no export. -/
theorem convert_eq_error {failure : Failure} (unread : Design.ofSource config source = .error failure) {name : String}
    {format : Format} (known : Format.ofName? name = some format) (options : ExportOptions) :
    Service.convert config name options source = .error failure := by
  have chosen : Format.ofValue (.string name) = .ok format := by
    rw [Format.ofValue, known]
    rfl
  rw [Service.convert, chosen, unread]
  rfl

end Source

namespace Service

/-- Only requests of another method ask for permission alone. -/
theorem preflight_eq_none (origins : List String) {request : Request} (posted : request.method = "POST") :
    Preflight.response? origins request = none := by
  have other : ¬request.method = "OPTIONS" := by
    rw [posted]
    decide
  simp only [Preflight.response?, guard, other, if_false, Option.bind_eq_bind, Option.bind_eq_none_iff]
  exact fun _ _ _ _ _ permitted => nomatch permitted

theorem exists_config {service : Service} {settings : Settings} (ready : service.settings = .ok settings) :
    ∃ config, Service.config settings = .ok config := by
  rw [Service.settings, mapError_eq_ok, Checked.toExcept_eq_ok] at ready
  obtain ⟨config, same⟩ := Settings.exists_config ready
  exact ⟨config, (mapError_eq_ok _ _ _).mpr same⟩

variable {service : Service} {request : Request} {source : Json} {issues : List Issue}

/-- A request on a known route gets the response that the route leads to. -/
theorem answer_of_route {route : Route} (posted : request.method = "POST")
    (routed : Route.ofPath? (barePath request) = some route) (fits : route.method = "POST") {refusal : Refusal}
    (refused : (service.take route request).result = .error refusal) :
    (service.answer? request).map (·.1) =
      refusal.response? (shownPath (barePath request)) (request.id?.getD service.newId) := by
  rw [answer?, preflight_eq_none service.origins posted, routed]
  dsimp only
  rw [if_neg (by rw [fits, posted]; decide), refused, Option.map_map]
  exact Option.map_id'

/-- A malformed exchange form is refused for its issues. -/
theorem answer_rejected (submits : Submits service request source) (form : Exchange.isExchangeForm source)
    (rejected : Exchange.screensOf source = .invalid issues) :
    (service.answer? request).map (·.1) = some (Refusal.failedResponse (shownPath (barePath request))
      (request.id?.getD service.newId) (.pages issues)) := by
  obtain ⟨posted, ⟨settings, ready, short⟩, fields, body, given, asked⟩ := submits
  obtain ⟨config, prepared⟩ := exists_config ready
  have submitted := documentField_eq_valid given form
  have unread : Design.ofSource config source = .error (.pages issues) := ofSource_eq_error form rejected
  have opened : (do
      let value? ← request.value?
      let settings ← service.settings
      checkLength settings request
      return (value?, settings)) = (.ok (some (.object fields), settings) : Except Refusal _) := by
    simp [body, ready, short, bind, Except.bind, pure, Except.pure]
  rcases asked with routed | ⟨name, format, options, routed, known, accepted⟩
  · have refused : (service.take .analyze request).result = .error (.failed (.pages issues)) := by
      simp only [take, answerPost, opened, checkBody_eq_ok submitted, prepared]
      simp only [bind, Except.bind, analysisResponse_eq_error unread, mapError_error]
    exact answer_of_route posted routed rfl refused
  · have checked : checkBody (fun fields => Prod.mk <$> documentField fields <*> optionsField fields)
        (some (.object fields)) = .ok (source, options) :=
      checkBody_eq_ok (by rw [submitted, accepted, Checked.map_valid, Checked.seq_valid])
    have refused : (service.take (.convert name) request).result = .error (.failed (.pages issues)) := by
      simp only [take, answerPost, opened, checked, prepared]
      simp only [bind, Except.bind, convert_eq_error unread known, mapError_error]
    exact answer_of_route posted routed rfl refused

end Service

theorem isFinite_json (issue : Issue) : issue.json.isFinite ↔ issue.input.isFinite := by
  rw [Issue.json, Json.isFinite, Json.fieldsFinite_iff]
  simp only [List.forall_mem_cons]
  constructor
  · rintro ⟨-, -, -, quoted, -⟩
    exact quoted
  · intro quoted
    refine ⟨rfl, ?_, rfl, quoted, fun _ none => absurd none List.not_mem_nil⟩
    rw [Json.isFinite, Json.itemsFinite_iff, List.forall_mem_map]
    intro step _
    cases step <;> rfl

/-- The details of a refusal that come from issues. -/
def issueDetails (issues : List Issue) : Json := .object [("errors", .array (issues.map Issue.json))]

/-- Details can be sent when no issue quotes a number that is not finite. -/
theorem isFinite_issueDetails (issues : List Issue) :
    (issueDetails issues).isFinite ↔ ∀ issue ∈ issues, issue.input.isFinite := by
  have each := Json.itemsFinite_iff (issues.map Issue.json)
  simp only [List.forall_mem_map, isFinite_json] at each
  rw [← each, issueDetails, Json.isFinite, Json.fieldsFinite, Json.fieldsFinite, Bool.and_true, Json.isFinite]

/-- The answer to a request that explains the issues of its source. -/
def Service.explanation (service : Service) (request : Request) (issues : List Issue) : Response :=
  Refusal.explained 400 "input_shape" "Invalid AST payload" (issueDetails issues) (request.id?.getD service.newId)

section Answer

variable {service : Service} {request : Request} {source : Json} {issues : List Issue}
  (submits : Submits service request source) (form : Exchange.isExchangeForm source)
  (rejected : Exchange.screensOf source = .invalid issues)

include submits form rejected

/-- Issues that quote finite numbers are explained. -/
theorem answer_eq_explanation (quoted : ∀ issue ∈ issues, issue.input.isFinite) :
    (service.answer? request).map (·.1) = some (service.explanation request issues) :=
  (Service.answer_rejected submits form rejected).trans
    (congrArg some (if_pos ((isFinite_issueDetails issues).mpr quoted)))

/-- An explanation that quotes a number that is not finite cannot be sent. -/
theorem answer_eq_internalResponse (quoted : ∃ issue ∈ issues, ¬issue.input.isFinite) :
    (service.answer? request).map (·.1) =
      some (Refusal.internalResponse (Service.shownPath (Service.barePath request))
        (request.id?.getD service.newId)) := by
  obtain ⟨issue, among, undefined⟩ := quoted
  exact (Service.answer_rejected submits form rejected).trans
    (congrArg some (if_neg fun finite => undefined ((isFinite_issueDetails issues).mp finite issue among)))

/--
A request whose source has the shape of an exchange form and is malformed is answered with an explanation exactly when
no issue quotes a number that is not finite, and else as if the service went wrong. An issue quotes a part of the
source, so that a source of finite numbers is always answered with an explanation. All texts in the source are made of
whole characters.
-/
theorem explains_iff :
    ((service.answer? request).map (·.1) = some (service.explanation request issues) ↔
        ∀ issue ∈ issues, issue.input.isFinite) ∧
      ((∃ issue ∈ issues, ¬issue.input.isFinite) → (service.answer? request).map (·.1) =
        some (Refusal.internalResponse (Service.shownPath (Service.barePath request))
          (request.id?.getD service.newId))) ∧
      (source.isFinite → (service.answer? request).map (·.1) = some (service.explanation request issues)) := by
  have explained := answer_eq_explanation submits form rejected
  have failed := answer_eq_internalResponse submits form rejected
  refine ⟨⟨fun same => ?_, explained⟩, failed, fun finite => explained fun issue among => ?_⟩
  · by_contra quoted
    obtain ⟨issue, among, undefined⟩ : ∃ issue ∈ issues, ¬issue.input.isFinite := by simpa using quoted
    have status : 400 = 500 :=
      congrArg Response.status (Option.some.inj (same.symm.trans (failed ⟨issue, among, undefined⟩)))
    exact absurd status (by decide)
  · have echoes := Exchange.echoes_screensOf source
    rw [rejected] at echoes
    exact (echoes issue among).isFinite finite

end Answer

/-- A service with default settings. -/
def Service.plain : Service where
  environment := []
  access := { reply := fun _ => .unreachable }
  newId := "fresh"

/-- A request for an analysis of what a text says. -/
def Request.forAnalysis (body : String) : Request where
  method := "POST"
  path := "/v1/analyze"
  headers := [("Content-Type", "application/json")]
  body

/-- The document in a body is a malformed exchange form, and its issues pass a test. -/
def rejects (test : List Issue → Bool) : Option Json → Bool
  | some (.object fields) =>
      (fields.lookup "document").any fun source =>
        Exchange.isExchangeForm source && match Exchange.screensOf source with
          | .valid _ => false
          | .invalid issues => test issues
  | _ => false

/-- A text with such a document makes a request that is as it should be. -/
theorem exists_rejected (body : String) (test : List Issue → Bool)
    (read : (Request.forAnalysis body).value?.toOption.any (rejects test)) : ∃ source issues,
      Submits .plain (.forAnalysis body) source ∧ Exchange.isExchangeForm source ∧
        Exchange.screensOf source = .invalid issues ∧ test issues := by
  obtain ⟨settings, accepted, -⟩ := Settings.exists_of_any [] (fun _ => true) (by decide +kernel)
  have ready : Service.plain.settings = .ok settings :=
    (mapError_eq_ok _ _ _).mpr ((Checked.toExcept_eq_ok _ _).mpr accepted)
  obtain ⟨value?, reached, passes⟩ := exists_of_any _ _ read
  unfold rejects at passes
  split at passes
  · rename_i fields
    obtain ⟨source, given, passes⟩ := (Option.any_eq_true _ _).mp passes
    obtain ⟨form, passes⟩ := (Bool.and_eq_true _ _).mp passes
    split at passes
    · nomatch passes
    · rename_i issues rejected
      have routed : Route.ofPath? (String.ofList ("/v1/analyze".toList.takeWhile (· ≠ '?'))) = some .analyze := by
        decide +kernel
      exact ⟨source, issues, ⟨rfl, ⟨settings, ready, rfl⟩, fields, reached, given, .inl routed⟩, form, rejected, passes⟩
  · nomatch passes

/-- The text of a body with a screen of a width. -/
def bodyOfWidth (width : String) : String :=
  "\x7b\"document\": \x7b\"screens\": [\x7b\"id\": \"a\", \"type\": \"FRAME\", \"layout\": \x7b\"width\": " ++
    width ++ "\x7d\x7d]\x7d\x7d"

/-- A width that is a text is explained. -/
theorem explains_iff_wide : ∃ source issues, Submits .plain (.forAnalysis (bodyOfWidth "\"wide\"")) source ∧
    Exchange.isExchangeForm source ∧ Exchange.screensOf source = .invalid issues ∧
      (Service.plain.answer? (.forAnalysis (bodyOfWidth "\"wide\""))).map (·.1) =
        some (Service.plain.explanation (.forAnalysis (bodyOfWidth "\"wide\"")) issues) := by
  obtain ⟨source, issues, submits, form, rejected, finite⟩ :=
    exists_rejected (bodyOfWidth "\"wide\"") (·.all (·.input.isFinite)) (by decide +kernel)
  exact ⟨source, issues, submits, form, rejected,
    (explains_iff submits form rejected).1.mpr (List.all_eq_true.mp finite)⟩

/-- A width that is the undefined number makes the service go wrong. -/
theorem answer_undefined : ∃ source issues, Submits .plain (.forAnalysis (bodyOfWidth "NaN")) source ∧
    Exchange.isExchangeForm source ∧ Exchange.screensOf source = .invalid issues ∧
      (Service.plain.answer? (.forAnalysis (bodyOfWidth "NaN"))).map (·.1.status) = some 500 := by
  obtain ⟨source, issues, submits, form, rejected, quoted⟩ :=
    exists_rejected (bodyOfWidth "NaN") (·.any (!·.input.isFinite)) (by decide +kernel)
  obtain ⟨issue, among, undefined⟩ := List.any_eq_true.mp quoted
  rw [Bool.not_eq_true', ← Bool.not_eq_true] at undefined
  have answered := answer_eq_internalResponse submits form rejected ⟨issue, among, undefined⟩
  exact ⟨source, issues, submits, form, rejected,
    (Option.map_map Response.status Prod.fst _).symm.trans (congrArg (Option.map Response.status) answered)⟩

end Storyboard.Server
