import QueryPipeline.Fetch.Item
import QueryPipeline.Fetch.Union
import QueryPipeline.Proofs.Document.Identifier
import QueryPipeline.Proofs.Fetch.Page
import QueryPipeline.Proofs.Filter.Share

/-!
# The calls of a fetch

A list is fetched in the same way from one collection and from several: its documents are counted,
and unless only the count is asked for, the page is fetched. What comes before the count is read off
the request without the engine, the shares of a single collection apart. A document is fetched in
one call, or in none where the request asks for nothing that can be looked up.
-/

namespace QueryPipeline

open Document Number Pipeline Url

/-- The query parameters of a request. -/
def Request.parameters (request : Request) : Except Failure Parameters :=
  request.url.bind readParameters

/-- The filters of query parameters, as a client wrote them. -/
def Url.Parameters.filters (parameters : Parameters) : List Filter :=
  (parameters.all filterKey).map Filter.read

/-- The filters of query parameters, confined to the tenant of some options. -/
def Url.Parameters.confined (parameters : Parameters) (options : Options) : List Filter :=
  confine options.tenant options.tenantField parameters.filters

/-- The steps that all lists share: to count, and then to fetch the page unless only the count is
asked for. -/
def fetchPage (collection : String) (page : PageRequest) (counted paged : List Stage)
    (what : String) : Session Page := do
  let total ← Session.count collection counted
  if page.countOnly then Session.ofExcept (makePage page total [])
  else do
    let items ← Session.fetchAll collection paged
    Session.log .info fetchLogger (fetchedText what page.page total items.length)
    Session.ofExcept (makePage page total items)

/-- The name of the list of a union in the log. -/
def unionName (sources : List Source) : String :=
  "unified list over " ++ decimalString sources.length ++ " collections"

/-- The page and the filters of a request are read off its parameters. -/
theorem Request.read_bind {α : Type} (request : Request) (options : Options)
    (next : PageRequest → List Filter → Session α) :
    (Session.ofExcept request.url >>= fun url =>
      Session.ofExcept (PageRequest.ofUrl url options) >>= fun page =>
        Session.ofExcept (filtersOfUrl url options.tenant options.tenantField) >>= fun filters =>
          next page filters) =
      Session.ofExcept request.parameters >>= fun parameters =>
        next (.ofParameters parameters options) (parameters.confined options) := by
  rw [Request.parameters]
  cases request.url with
  | error failure => rfl
  | ok url =>
    simp only [PageRequest.ofUrl, filtersOfUrl, Except.bind, Session.ofExcept_ok_bind]
    cases readParameters url with
    | error failure => rfl
    | ok parameters => rfl

/-- The list of a collection is read off the parameters, its shares are counted, and its page is
fetched. -/
theorem fetchList_eq (collection : String) (request : Request) (options : Options)
    (initial final : List Stage) :
    fetchList collection request options initial final =
      Session.ofExcept request.parameters >>= fun parameters =>
        compileShares collection (parameters.confined options) >>= fun stages =>
          fetchPage collection (.ofParameters parameters options) (initial ++ stages)
            (pagePipeline (.ofParameters parameters options) options (initial ++ stages) final)
            ("list of " ++ collection) := by
  rw [fetchList]
  exact request.read_bind options _

/-- The list of several collections is read off the parameters, its filters are compiled, and its
page is fetched. -/
theorem fetchUnion_cons (base : Source) (others : List Source) (request : Request)
    (options : Options) :
    fetchUnion (base :: others) request options =
      Session.ofExcept request.parameters >>= fun parameters =>
        Session.ofExcept (compile (parameters.confined options)) >>= fun stages =>
          let page := PageRequest.ofParameters parameters options
          let counted := unionStages base others stages options.sourceField
          fetchPage base.collection page counted (unionPipeline page options counted)
            (unionName (base :: others)) := by
  rw [fetchUnion]
  exact request.read_bind options _

/-- The ways in which a page is fetched: the outcome and the trace after it. -/
inductive Fetched (engine : Engine) (collection : String) (page : PageRequest)
    (counted paged : List Stage) (what : String) (trace : Trace) :
    Except Failure Page → Trace → Prop
  /-- The documents cannot be counted. -/
  | uncounted {failure : Failure}
      (failed : engine.total trace.calls (.counting collection counted) = .error failure) :
      Fetched engine collection page counted paged what trace (.error failure)
        (trace.sent (.counting collection counted))
  /-- Only the count is asked for. -/
  | countOnly {total : Int} (asked : page.countOnly = true)
      (count : engine.total trace.calls (.counting collection counted) = .ok total) :
      Fetched engine collection page counted paged what trace (makePage page total [])
        (trace.sent (.counting collection counted))
  /-- The pipeline of the page cannot be written. -/
  | unwritten {total : Int} (asked : page.countOnly = false)
      (count : engine.total trace.calls (.counting collection counted) = .ok total)
      (unwritable : canBeWritten paged = false) :
      Fetched engine collection page counted paged what trace (.error .unwritableInteger)
        (trace.sent (.counting collection counted))
  /-- The engine fails on the page. -/
  | unanswered {total : Int} {failure : Failure} (asked : page.countOnly = false)
      (count : engine.total trace.calls (.counting collection counted) = .ok total)
      (writable : canBeWritten paged = true)
      (failed : engine.rows (trace.sent (.counting collection counted)).calls
        (.fetching collection paged) = .error failure) :
      Fetched engine collection page counted paged what trace (.error failure)
        ((trace.sent (.counting collection counted)).sent (.fetching collection paged))
  /-- The page is fetched. -/
  | fetched {total : Int} {items : List Value} (asked : page.countOnly = false)
      (count : engine.total trace.calls (.counting collection counted) = .ok total)
      (writable : canBeWritten paged = true)
      (found : engine.rows (trace.sent (.counting collection counted)).calls
        (.fetching collection paged) = .ok items) :
      Fetched engine collection page counted paged what trace (makePage page total items)
        (((trace.sent (.counting collection counted)).sent (.fetching collection paged)).noted
          ⟨.info, fetchLogger, fetchedText what page.page total items.length⟩)

/-- A page is fetched in one of these ways. -/
theorem fetchPage_cases (engine : Engine) (collection : String) (page : PageRequest)
    (counted paged : List Stage) (what : String) (trace : Trace) :
    Fetched engine collection page counted paged what trace
      (fetchPage collection page counted paged what engine trace).1
      (fetchPage collection page counted paged what engine trace).2 := by
  rw [fetchPage]
  cases count : engine.total trace.calls (.counting collection counted) with
  | error failure =>
    rw [Session.bind_error (Session.count_apply .. |>.trans (by rw [count]))]
    exact .uncounted count
  | ok total =>
    rw [Session.bind_ok (Session.count_apply .. |>.trans (by rw [count]))]
    cases asked : page.countOnly with
    | true => exact .countOnly asked count
    | false =>
      rw [if_neg (by simp)]
      cases writable : canBeWritten paged with
      | false =>
        rw [Session.bind_error (Session.fetchAll_apply .. |>.trans (by rw [writable]; rfl))]
        exact .unwritten asked count writable
      | true =>
        cases found : engine.rows (trace.sent (.counting collection counted)).calls
            (.fetching collection paged) with
        | error failure =>
          rw [Session.bind_error (Session.fetchAll_apply .. |>.trans (by
            rw [writable, if_pos rfl, found]))]
          exact .unanswered asked count writable found
        | ok items =>
          rw [Session.bind_ok (Session.fetchAll_apply .. |>.trans (by
            rw [writable, if_pos rfl, found]))]
          exact .fetched asked count writable found

/-- The calls of a page: a count, and perhaps a fetch. -/
theorem Fetched.calls {engine : Engine} {collection : String} {page : PageRequest}
    {counted paged : List Stage} {what : String} {trace after : Trace}
    {result : Except Failure Page}
    (step : Fetched engine collection page counted paged what trace result after) :
    after.calls = trace.calls ++ [.counting collection counted] ∨
      after.calls =
        trace.calls ++ [.counting collection counted, .fetching collection paged] := by
  cases step with
  | uncounted | countOnly | unwritten => exact .inl rfl
  | unanswered | fetched => exact .inr (by simp)

/-- A page that is fetched is made of the count and of the rows of the page; where only the count is
asked for, there are none. -/
theorem Fetched.made {engine : Engine} {collection : String} {page : PageRequest}
    {counted paged : List Stage} {what : String} {trace after : Trace} {result : Page}
    (step : Fetched engine collection page counted paged what trace (.ok result) after) :
    ∃ total items, engine.total trace.calls (.counting collection counted) = .ok total ∧
      makePage page total items = .ok result ∧
      ((page.countOnly = true ∧ items = [] ∧
          after.calls = trace.calls ++ [.counting collection counted]) ∨
        (page.countOnly = false ∧
          engine.rows (trace.calls ++ [.counting collection counted])
            (.fetching collection paged) = .ok items ∧
          after.calls =
            trace.calls ++ [.counting collection counted, .fetching collection paged])) := by
  generalize outcome : Except.ok result = answer at step
  cases step with
  | uncounted | unwritten | unanswered => cases outcome
  | countOnly asked count => exact ⟨_, [], count, rfl, .inl ⟨asked, rfl, rfl⟩⟩
  | fetched asked count writable found =>
    exact ⟨_, _, count, rfl, .inr ⟨asked, found, by simp⟩⟩

/-- The ways in which a page of a collection is fetched from a fresh start. -/
inductive ListRun (engine : Engine) (collection : String) (request : Request) (options : Options)
    (initial final : List Stage) : Except Failure Page → Trace → Prop
  /-- The request has no parameters. -/
  | unread {failure : Failure} (parameters : request.parameters = .error failure) :
      ListRun engine collection request options initial final (.error failure) .empty
  /-- The filters cannot be compiled. -/
  | uncompiled {parameters : Parameters} {failure : Failure} {after : Trace}
      (read : request.parameters = .ok parameters)
      (run : Builds engine collection [] (parameters.confined options) .empty
        (.error failure) after) :
      ListRun engine collection request options initial final (.error failure) after
  /-- The filters are compiled, and the page is fetched after them. -/
  | compiled {parameters : Parameters} {stages : List Stage} {between after : Trace}
      {result : Except Failure Page} (read : request.parameters = .ok parameters)
      (run : Builds engine collection [] (parameters.confined options) .empty
        (.ok stages) between)
      (page : Fetched engine collection (.ofParameters parameters options) (initial ++ stages)
        (pagePipeline (.ofParameters parameters options) options (initial ++ stages) final)
        ("list of " ++ collection) between result after) :
      ListRun engine collection request options initial final result after

/-- A page of a collection is fetched in one of these ways. -/
theorem fetchList_cases (engine : Engine) (collection : String) (request : Request)
    (options : Options) (initial final : List Stage) :
    ListRun engine collection request options initial final
      ((fetchList collection request options initial final).run engine).1
      ((fetchList collection request options initial final).run engine).2 := by
  rw [fetchList_eq, Session.run]
  cases read : request.parameters with
  | error failure => exact .unread read
  | ok parameters =>
    rw [Session.ofExcept_ok_bind]
    have run := compileSharesAfter_builds engine collection (parameters.confined options) []
      .empty
    cases compiled : compileShares collection (parameters.confined options) engine .empty with
    | mk result between =>
      rw [← compileShares, compiled] at run
      cases result with
      | error failure =>
        rw [Session.bind_error compiled]
        exact .uncompiled read run
      | ok stages =>
        rw [Session.bind_ok compiled]
        exact .compiled read run (fetchPage_cases ..)

/-- The ways in which a page of several collections is fetched from a fresh start. -/
inductive UnionRun (engine : Engine) (base : Source) (others : List Source) (request : Request)
    (options : Options) : Except Failure Page → Trace → Prop
  /-- The request has no parameters. -/
  | unread {failure : Failure} (parameters : request.parameters = .error failure) :
      UnionRun engine base others request options (.error failure) .empty
  /-- The filters cannot be compiled. -/
  | uncompiled {parameters : Parameters} {failure : Failure}
      (read : request.parameters = .ok parameters)
      (failed : compile (parameters.confined options) = .error failure) :
      UnionRun engine base others request options (.error failure) .empty
  /-- The filters are compiled, and the page is fetched after the union. -/
  | compiled {parameters : Parameters} {stages : List Stage} {after : Trace}
      {result : Except Failure Page} (read : request.parameters = .ok parameters)
      (compiled : compile (parameters.confined options) = .ok stages)
      (page : Fetched engine base.collection (.ofParameters parameters options)
        (unionStages base others stages options.sourceField)
        (unionPipeline (.ofParameters parameters options) options
          (unionStages base others stages options.sourceField))
        (unionName (base :: others)) .empty result after) :
      UnionRun engine base others request options result after

/-- A page of several collections is fetched in one of these ways. -/
theorem fetchUnion_cases (engine : Engine) (base : Source) (others : List Source)
    (request : Request) (options : Options) :
    UnionRun engine base others request options
      ((fetchUnion (base :: others) request options).run engine).1
      ((fetchUnion (base :: others) request options).run engine).2 := by
  rw [fetchUnion_cons, Session.run]
  cases read : request.parameters with
  | error failure => exact .unread read
  | ok parameters =>
    rw [Session.ofExcept_ok_bind]
    cases compiled : compile (parameters.confined options) with
    | error failure => exact .uncompiled read compiled
    | ok stages => exact .compiled read compiled (fetchPage_cases ..)

/-- The identifier that a document is looked up by, where a caller or a request gives one. -/
def soughtIdentifier (request : Request) (given : Option GivenId) :
    Except Failure (Option Identifier) := do
  match ← chosenId given request with
  | none => .ok none
  | some given => (Identifier.ofGiven given).map some

/-- The identifier that a document is looked up by is read from its own text. -/
theorem ofText_of_sought {request : Request} {given : Option GivenId} {identifier : Identifier}
    (sought : soughtIdentifier request given = .ok (some identifier)) :
    Identifier.ofText identifier.text = .ok identifier := by
  obtain ⟨chosen?, -, found⟩ := bind_eq_ok sought
  cases chosen? with
  | none => cases found
  | some id =>
    obtain ⟨_, read, same⟩ := map_eq_ok found
    cases same
    exact Identifier.ofText_of_ofGiven read

/-- A document is fetched by one call, the identifier being looked up between the stages of the
caller, or by none where there is no identifier. -/
theorem fetchItem_apply (collection : String) (request : Request) (initial final : List Stage)
    (given : Option GivenId) (engine : Engine) (trace : Trace) :
    fetchItem collection request initial final given engine trace =
      match soughtIdentifier request given with
      | .error failure => (.error failure, trace)
      | .ok none => (.ok none, trace)
      | .ok (some identifier) =>
        Session.fetchFirst collection (initial ++ .select (.identified identifier) :: final) engine
          trace := by
  rw [fetchItem, soughtIdentifier]
  cases chosenId given request with
  | error failure => rfl
  | ok chosen? =>
    cases chosen? with
    | none => rfl
    | some chosen =>
      rw [Session.ofExcept_ok_bind]
      simp only [fetchIdentified, bind, Except.bind]
      cases Identifier.ofGiven chosen <;> rfl

end QueryPipeline
