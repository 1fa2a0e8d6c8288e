import QueryPipeline.Proofs.Fetch.Confined
import QueryPipeline.Proofs.Filter.Condition
import QueryPipeline.Router

/-!
# Which endpoints of a router are confined to its tenant

The options of a router reach its list endpoint only. Whatever the list endpoint sends selects the
documents of the tenant first, and so does every document that it shows where the engine reads the
stages as documented. The item endpoint looks an identifier up in the whole collection; its pipeline
selects the tenant only where the field of the tenant is an identifier and the request asks for the
very identifier that the tenant's own filter names.
-/

namespace QueryPipeline

open Document Number Pipeline Text Url

/-- Among the stages of a pipeline, as they are sent, is the condition of a tenant. -/
def SelectsTenant (field tenant : String) (pipeline : List Stage) : Prop :=
  ∃ scope, (tenantFilter field tenant).condition = .ok (some scope) ∧
    (Stage.select scope).members ∈ pipeline.map Stage.members

/-- A pipeline with a confined block selects the tenant. -/
theorem ConfinedBlock.selectsTenant {field tenant : String} {scope : Condition}
    {client : List Filter} {block : List Stage} (confined : ConfinedBlock scope field client block)
    (made : (tenantFilter field tenant).condition = .ok (some scope)) (others : List Stage) :
    SelectsTenant field tenant (block ++ others) := by
  obtain ⟨rest, rfl, -⟩ := confined
  exact ⟨scope, made, by simp⟩

/-- The query for an identifier is that of a tenant only where the tenant is that identifier. -/
theorem tenantCondition_toValue_iff {field tenant : String} {identifier : Identifier}
    (own : Identifier.ofText identifier.text = .ok identifier) :
    (∃ scope, tenantCondition field tenant = .ok scope ∧
      scope.toValue = (Condition.identified identifier).toValue) ↔
    field ∈ identifierFields ∧ identifier.text = String.ofList (literal tenant.toList) := by
  rw [tenantCondition]
  by_cases named : field ∈ identifierFields
  · rw [if_pos (by simpa using named)]
    constructor
    · intro sought
      obtain ⟨scope, made, same⟩ := sought
      obtain ⟨found, read, rfl⟩ := map_eq_ok made
      have text := text_eq_of_toValue same
      exact ⟨named, text.symm.trans (Identifier.text_of_ofText read)⟩
    · rintro ⟨-, same⟩
      rw [← same, own]
      exact ⟨_, rfl, rfl⟩
  · rw [if_neg (by simpa using named)]
    constructor
    · rintro ⟨scope, made, same⟩
      cases made
      exact absurd same (field_toValue_ne field _ identifier)
    · rintro ⟨inside, -⟩
      exact absurd inside named

/-- The pipeline for an identifier selects a tenant only where the tenant is that identifier. -/
theorem selectsTenant_first_iff {field tenant : String} (named : field ≠ "")
    {identifier : Identifier} (own : Identifier.ofText identifier.text = .ok identifier) :
    SelectsTenant field tenant [.select (.identified identifier), .limit 1] ↔
      field ∈ identifierFields ∧ identifier.text = String.ofList (literal tenant.toList) := by
  rw [← tenantCondition_toValue_iff own, SelectsTenant, tenantFilter_condition named]
  constructor
  · intro selects
    obtain ⟨scope, made, mem⟩ := selects
    obtain ⟨found, condition, same⟩ := map_eq_ok made
    cases same
    exact ⟨scope, condition, by simpa [Stage.members] using mem⟩
  · rintro ⟨scope, made, same⟩
    exact ⟨scope, by rw [made]; rfl, by simp [Stage.members, same]⟩

/-- The list endpoint fetches its list and shows the page. -/
theorem replyItems_run (router : Router) (collection : String) (scope : Scope) (engine : Engine) :
    (router.replyItems collection scope).run engine =
      let fetched := (fetchList collection (.received scope) router.options [] []).run engine
      (fetched.1.bind fun page => page.toValue.toBody.map (Reply.mk okStatus), fetched.2) := by
  rw [Session.run, Session.run, Router.replyItems]
  cases fetched : fetchList collection (.received scope) router.options [] [] engine .empty with
  | mk result after =>
    cases result with
    | error failure =>
      rw [Session.bind_error fetched]
      rfl
    | ok page =>
      rw [Session.bind_ok fetched, Session.ofExcept_bind_pure]
      rfl

/-- The list endpoint sends what the fetch of its list sends. -/
theorem replyItems_calls (router : Router) (collection : String) (scope : Scope) (engine : Engine) :
    ((router.replyItems collection scope).run engine).2.calls =
      ((fetchList collection (.received scope) router.options [] []).run engine).2.calls := by
  rw [replyItems_run]

/-- The body of the list endpoint is a page that is fetched. -/
theorem replyItems_eq_ok {router : Router} {collection : String} {scope : Scope} {engine : Engine}
    {reply : Reply} (replied : ((router.replyItems collection scope).run engine).1 = .ok reply) :
    ∃ page, ((fetchList collection (.received scope) router.options [] []).run engine).1 =
      .ok page ∧ page.toValue.toBody = .ok reply.body := by
  rw [replyItems_run] at replied
  obtain ⟨page, fetched, shown⟩ := bind_eq_ok replied
  obtain ⟨body, same, made⟩ := map_eq_ok shown
  cases made
  exact ⟨page, fetched, same⟩

/-- The reply to a request for a document that is not there. -/
def notFoundReply : Reply := ⟨notFoundStatus, notFoundBody⟩

/-- The ways in which the item endpoint replies from a fresh start. The log is left open. -/
inductive ItemRun (engine : Engine) (collection : String) (scope : Scope) :
    Except Failure Reply → Trace → Prop
  /-- No identifier can be read off the request. -/
  | unread {failure : Failure} {after : Trace}
      (sought : soughtIdentifier (.received scope) none = .error failure)
      (none : after.calls = []) : ItemRun engine collection scope (.error failure) after
  /-- The request asks for nothing. -/
  | unasked {after : Trace} (sought : soughtIdentifier (.received scope) none = .ok none)
      (none : after.calls = []) : ItemRun engine collection scope (.ok notFoundReply) after
  /-- The engine fails. -/
  | unanswered {identifier : Identifier} {failure : Failure} {after : Trace}
      (sought : soughtIdentifier (.received scope) none = .ok (some identifier))
      (sent : after.calls = [.first collection [.select (.identified identifier)]]) :
      ItemRun engine collection scope (.error failure) after
  /-- No document is found. -/
  | missing {identifier : Identifier} {after : Trace}
      (sought : soughtIdentifier (.received scope) none = .ok (some identifier))
      (sent : after.calls = [.first collection [.select (.identified identifier)]]) :
      ItemRun engine collection scope (.ok notFoundReply) after
  /-- A document is found, and shown if it can be. -/
  | shown {identifier : Identifier} {rows : List Value} {item : Value} {after : Trace}
      (sought : soughtIdentifier (.received scope) none = .ok (some identifier))
      (sent : after.calls = [.first collection [.select (.identified identifier)]])
      (found : engine.rows [] (.first collection [.select (.identified identifier)]) = .ok rows)
      (mem : item ∈ rows) :
      ItemRun engine collection scope (item.toBody.map (Reply.mk okStatus)) after

/-- The item endpoint replies in one of these ways. -/
theorem replyItem_cases (engine : Engine) (collection : String) (scope : Scope) :
    ItemRun engine collection scope ((Router.replyItem collection scope).run engine).1
      ((Router.replyItem collection scope).run engine).2 := by
  rw [Session.run, Router.replyItem]
  have fetched := fetchItem_apply collection (.received scope) [] [] none engine .empty
  cases sought : soughtIdentifier (.received scope) none with
  | error failure =>
    rw [sought] at fetched
    rw [Session.bind_error fetched]
    exact .unread sought rfl
  | ok identifier? =>
    cases identifier? with
    | none =>
      rw [sought] at fetched
      rw [Session.bind_ok fetched]
      exact .unasked sought rfl
    | some identifier =>
      rw [sought] at fetched
      dsimp only at fetched
      rw [Session.fetchFirst_apply, Trace.calls_empty, List.nil_append] at fetched
      cases found : engine.rows [] (.first collection [.select (.identified identifier)]) with
      | error failure =>
        rw [found] at fetched
        rw [Session.bind_error fetched]
        exact .unanswered sought rfl
      | ok rows =>
        rw [found] at fetched
        rw [Session.bind_ok fetched]
        cases rows with
        | nil => exact .missing sought rfl
        | cons item more =>
          cases item with
          | null => exact .missing sought rfl
          | _ =>
            dsimp only [List.head?_cons]
            rw [Session.ofExcept_bind_pure]
            dsimp only
            exact .shown sought rfl found List.mem_cons_self

/-- The item endpoint sends one call for the identifier that is sought, or none. -/
theorem ItemRun.calls {engine : Engine} {collection : String} {scope : Scope}
    {result : Except Failure Reply} {after : Trace}
    (run : ItemRun engine collection scope result after) :
    after.calls =
      match soughtIdentifier (.received scope) none with
      | .ok (some identifier) => [.first collection [.select (.identified identifier)]]
      | _ => [] := by
  cases run with
  | unread sought none | unasked sought none => rw [sought, none]
  | unanswered sought sent | missing sought sent | shown sought sent => rw [sought, sent]

/-- The pipeline of the item endpoint selects a tenant exactly where no identifier is sought or the
tenant is the identifier that is sought. -/
theorem replyItem_selectsTenant_iff {field tenant : String} (named : field ≠ "")
    (collection : String) (scope : Scope) (engine : Engine) :
    (∀ call ∈ ((Router.replyItem collection scope).run engine).2.calls,
      SelectsTenant field tenant call.pipeline) ↔
    ∀ identifier, soughtIdentifier (.received scope) none = .ok (some identifier) →
      field ∈ identifierFields ∧ identifier.text = String.ofList (literal tenant.toList) := by
  rw [(replyItem_cases engine collection scope).calls]
  cases sought : soughtIdentifier (.received scope) none with
  | error failure => simp
  | ok identifier? =>
    cases identifier? with
    | none => simp
    | some identifier =>
      rw [List.forall_mem_singleton]
      have selects : SelectsTenant field tenant
          (Call.first collection [.select (.identified identifier)]).pipeline ↔ _ :=
        selectsTenant_first_iff named (ofText_of_sought sought)
      constructor
      · rintro selected found ⟨⟩
        exact selects.mp selected
      · intro same
        exact selects.mpr (same identifier rfl)

end QueryPipeline
