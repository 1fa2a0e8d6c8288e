import QueryPipeline.Proofs.Router.Confined

/-!
# What a router of a tenant shows

The documents that a router shows are among the rows of a pipeline that it sent, all of whose stages
leave rows out or sort them. So where every pipeline selects the tenant, nothing is shown but what
satisfies the condition of the tenant. At the list endpoint this holds for every request. The item
endpoint sends no condition of the tenant at all, and what it holds for is said exactly.
-/

namespace QueryPipeline

open Document Number Pipeline Text Url

/-- An engine answers every call by a reading of its stages over the documents of a collection. -/
def Engine.Reads (engine : Engine) (reading : SortReading Value) (documents : List Value) : Prop :=
  ∀ earlier call, engine earlier call = .rows (reading.run call.pipeline documents)

/-- A reply of an endpoint is made of documents with a property, or of none. -/
def Endpoint.ShowsOnly (property : Value → Prop) (reply : Reply) : Endpoint → Prop
  | .items => ∃ page : Page, page.toValue.toBody = .ok reply.body ∧
      ∀ item ∈ page.items, property item
  | .item => reply = notFoundReply ∨
      ∃ item : Value, item.toBody = .ok reply.body ∧ property item

/-- A document is among the rows of a call whose stages leave rows out or sort them. -/
def Kept (reading : SortReading Value) (documents : List Value) (calls : List Call)
    (document : Value) : Prop :=
  ∃ call ∈ calls, (∀ stage ∈ call.pipeline, stage.IsKeeping) ∧
    document ∈ reading.run call.pipeline documents

/-- What shows only documents with a property shows only those with a weaker one. -/
theorem Endpoint.ShowsOnly.mono {property weaker : Value → Prop} {reply : Reply}
    {endpoint : Endpoint} (shows : endpoint.ShowsOnly property reply)
    (implies : ∀ document, property document → weaker document) :
    endpoint.ShowsOnly weaker reply := by
  cases endpoint with
  | items =>
    obtain ⟨page, shown, items⟩ := shows
    exact ⟨page, shown, fun item mem => implies item (items item mem)⟩
  | item =>
    obtain missing | ⟨item, shown, holds⟩ := shows
    · exact .inl missing
    · exact .inr ⟨item, shown, implies item holds⟩

/-- The pipeline of a page leaves rows out and sorts them if the stages before the sort leave rows
out. -/
theorem pagePipeline_isKeeping {request : PageRequest} {options : Options} {stages : List Stage}
    (reducing : ∀ stage ∈ stages, stage.IsReducing) :
    ∀ stage ∈ pagePipeline request options stages [], stage.IsKeeping := by
  intro stage mem
  rw [pagePipeline, List.append_nil] at mem
  obtain front | window := List.mem_append.mp mem
  · obtain chosen | sorted := List.mem_append.mp front
    · exact .inl (reducing stage chosen)
    · split at sorted
      · cases sorted
      · obtain rfl := List.mem_singleton.mp sorted
        exact .inr ⟨_, rfl⟩
  · rw [pageStages] at window
    split at window
    · obtain rfl | last := List.mem_cons.mp window
      · exact .inl (Stage.isReducing_skip _)
      · obtain rfl := List.mem_singleton.mp last
        exact .inl (Stage.isReducing_limit _)
    · cases window

section

variable {engine : Engine} {reading : SortReading Value} {documents : List Value}

/-- The rows that an engine answers are rows of the reading. -/
theorem Engine.Reads.mem_run (reads : engine.Reads reading documents) {earlier : List Call}
    {call : Call} {rows : List Value} (found : engine.rows earlier call = .ok rows) {row : Value}
    (mem : row ∈ rows) : row ∈ reading.run call.pipeline documents := by
  rw [Engine.rows, reads earlier call] at found
  cases bound : call.length with
  | none =>
    rw [bound] at found
    cases found
    exact mem
  | some length =>
    rw [bound] at found
    cases found
    exact List.mem_of_mem_take mem

/-- The items of a page are rows of a pipeline that was sent. -/
theorem fetchList_kept (reads : engine.Reads reading documents) {collection : String}
    {request : Request} {options : Options} {page : Page}
    (fetched : ((fetchList collection request options [] []).run engine).1 = .ok page) :
    ∀ item ∈ page.items, Kept reading documents
      ((fetchList collection request options [] []).run engine).2.calls item := by
  have run := fetchList_cases engine collection request options [] []
  rw [fetched] at run
  generalize ((fetchList collection request options [] []).run engine).2 = after at run
  generalize result : Except.ok page = outcome at run
  cases run with
  | unread | uncompiled => cases result
  | @compiled _ stages _ _ _ read run page =>
    obtain ⟨more, rfl, made⟩ := run.outcome
    have reducing : ∀ stage ∈ [] ++ stages, stage.IsReducing := by
      intro stage inside
      obtain ⟨filter, -, makes⟩ := made stage inside
      exact makes.isReducing
    intro item mem
    cases page with
    | uncounted | unwritten | unanswered => cases result
    | countOnly =>
      rw [makePage_items result.symm] at mem
      cases mem
    | fetched asked count writable found =>
      rw [makePage_items result.symm] at mem
      exact ⟨_, by simp, pagePipeline_isKeeping reducing, reads.mem_run found mem⟩

/-- The document of an item endpoint is a row of a pipeline that was sent. -/
theorem replyItem_kept (reads : engine.Reads reading documents) {collection : String}
    {scope : Scope} {reply : Reply}
    (replied : ((Router.replyItem collection scope).run engine).1 = .ok reply) :
    Endpoint.item.ShowsOnly (Kept reading documents
      ((Router.replyItem collection scope).run engine).2.calls) reply := by
  have run := replyItem_cases engine collection scope
  rw [replied] at run
  generalize ((Router.replyItem collection scope).run engine).2 = after at run
  generalize result : Except.ok reply = outcome at run
  cases run with
  | unread | unanswered => cases result
  | unasked | missing =>
    cases result
    exact .inl rfl
  | @shown identifier rows item _ sought sent found mem =>
    cases shown : item.toBody with
    | error failure =>
      rw [shown] at result
      cases result
    | ok body =>
      rw [shown] at result
      cases result
      refine .inr ⟨item, shown, _, by simp [sent], ?_, reads.mem_run found mem⟩
      intro stage inside
      obtain rfl | last := List.mem_cons.mp inside
      · exact .inl (Stage.isReducing_select _)
      · obtain rfl := List.mem_singleton.mp last
        exact .inl (Stage.isReducing_limit _)

/-- What a router shows are rows of the pipelines that it sent. -/
theorem Router.reply_kept (reads : engine.Reads reading documents) {router : Router}
    {collection : String} {scope : Scope} {endpoint : Endpoint} {reply : Reply}
    (replied : ((router.reply collection scope endpoint).run engine).1 = .ok reply) :
    endpoint.ShowsOnly (Kept reading documents
      ((router.reply collection scope endpoint).run engine).2.calls) reply := by
  cases endpoint with
  | item => exact replyItem_kept reads replied
  | items =>
    obtain ⟨page, fetched, shown⟩ := replyItems_eq_ok replied
    rw [Router.reply, replyItems_calls]
    exact ⟨page, shown, fetchList_kept reads fetched⟩

end

/-- A router is made of a sound base and of options whose largest page can be written. -/
theorem Router.make_eq_ok {options : Options} {base : String} {tags : List String}
    {router : Router} (made : Router.make options base tags = .ok router) :
    baseFault? base = none ∧ isWritable options.limit = true ∧
      router = ⟨options, base, if tags.isEmpty then defaultTags else tags⟩ := by
  rw [Router.make] at made
  split at made
  · cases made
  · next sound =>
    split at made
    · next writable =>
      cases made
      exact ⟨sound, writable, rfl⟩
    · cases made

/-- A router keeps the options it is made with. -/
theorem Router.make_options {options : Options} {base : String} {tags : List String}
    {router : Router} (made : Router.make options base tags = .ok router) :
    router.options = options := by
  obtain ⟨-, -, rfl⟩ := Router.make_eq_ok made
  rfl

/-- Every pipeline of the list endpoint selects the tenant. -/
theorem replyItems_selectsTenant {router : Router} {tenant : String}
    (owned : router.options.tenant = some tenant) (nonempty : tenant ≠ "")
    (named : router.options.tenantField ≠ "") (collection : String) (scope : Scope)
    (engine : Engine) :
    ∀ call ∈ ((router.replyItems collection scope).run engine).2.calls,
      SelectsTenant router.options.tenantField tenant call.pipeline := by
  rw [replyItems_calls]
  obtain ⟨none, -⟩ | ⟨parameters, condition, -, made, shares, rest, calls, counts, ends⟩ :=
    fetchList_confined owned nonempty named engine collection (.received scope) [] []
  · rw [none]
    exact fun call mem => nomatch mem
  · rw [calls]
    intro call mem
    obtain share | final := List.mem_append.mp mem
    · obtain ⟨block, confined, rfl⟩ := counts call share
      exact confined.selectsTenant made _
    · obtain rfl | ⟨block, confined, rfl | rfl⟩ := ends
      · cases final
      · obtain rfl := List.mem_singleton.mp final
        exact confined.selectsTenant made _
      · obtain rfl | last := List.mem_cons.mp final
        · exact confined.selectsTenant made _
        · obtain rfl := List.mem_singleton.mp last
          rw [Call.fetching, pagePipeline, List.nil_append, List.append_assoc, List.append_assoc]
          exact confined.selectsTenant made _

/-- Which replies of a router are confined to its tenant. The list endpoint selects the tenant in
every pipeline, whatever is asked for and answered. The item endpoint does so exactly for requests
that ask for no document or for the identifier that the tenant's own filter names. Where every
pipeline selects the tenant, no document is shown that its condition rejects. -/
theorem replies_confined_iff {options : Options} {base : String} {tags : List String}
    {router : Router} {tenant : String} (made : Router.make options base tags = .ok router)
    (owned : options.tenant = some tenant) (nonempty : tenant ≠ "")
    (named : options.tenantField ≠ "") (collection : String) (request : Scope)
    (endpoint : Endpoint) (engine : Engine) :
    let run := (router.reply collection request endpoint).run engine
    ((∀ call ∈ run.2.calls, SelectsTenant options.tenantField tenant call.pipeline) ↔
      endpoint = .items ∨ ∀ identifier,
        soughtIdentifier (.received request) none = .ok (some identifier) →
          options.tenantField ∈ identifierFields ∧
            identifier.text = String.ofList (literal tenant.toList)) ∧
    ((∀ call ∈ run.2.calls, SelectsTenant options.tenantField tenant call.pipeline) →
      ∀ (reading : SortReading Value) (documents : List Value), engine.Reads reading documents →
        ∀ reply, run.1 = .ok reply →
          ∀ scope, (tenantFilter options.tenantField tenant).condition = .ok (some scope) →
            endpoint.ShowsOnly (reading.satisfies scope.toValue · = true) reply) := by
  obtain rfl := Router.make_options made
  refine ⟨?_, ?_⟩
  · cases endpoint with
    | items =>
      have selects := replyItems_selectsTenant owned nonempty named collection request engine
      exact iff_of_true selects (.inl rfl)
    | item =>
      rw [Router.reply, replyItem_selectsTenant_iff named]
      constructor
      · exact .inr
      · rintro (⟨⟨⟩⟩ | same)
        exact same
  · intro selects reading documents reads reply replied scope condition
    refine (Router.reply_kept reads replied).mono ?_
    rintro document ⟨call, sent, keeping, mem⟩
    obtain ⟨_, same, selected⟩ := selects call sent
    cases condition.symm.trans same
    exact reading.satisfies_of_selected keeping selected mem

/-- A router whose options name the tenant "shop". -/
def shopRouter : Router := ⟨shopOptions, "", defaultTags⟩

/-- A request for a path with a query. -/
def shopRequest (path query : String) : Scope := ⟨"http", some ("shop.test", 80), path, query, []⟩

/-- The router of a shop can be made. -/
theorem shopRouter_made : Router.make shopOptions "" [] = .ok shopRouter := by
  have writable : isWritable shopOptions.limit = true := by decide +kernel
  simp only [Router.make, baseFault?, if_pos, writable]
  rfl

/-- A reading where a query on the field of the shop is satisfied by the documents of the shop, and
any other query by all. -/
def shopReading : SortReading Value :=
  .plain fun query row =>
    match query, row with
    | .object [("shopDomain", _)], .object members =>
      match members.lookup "shopDomain" with
      | some (.text shop) => shop == "shop"
      | _ => false
    | _, _ => true

/-- The products of two shops. -/
def shopProducts : List Value :=
  [.object [("id", .int 1), ("shopDomain", .text "shop")],
    .object [("id", .int 2), ("shopDomain", .text "other")]]

/-- An engine that reads every pipeline over the products of two shops. -/
def readingEngine : Engine := fun _ call => .rows (shopReading.run call.pipeline shopProducts)

/-- The list endpoint of a shop's router replies with a page, selects the shop in each of three
pipelines and shows nothing but products of the shop. -/
theorem shop_replies_confined :
    Router.make shopOptions "" [] = .ok shopRouter ∧ shopOptions.tenant = some "shop" ∧
      "shop" ≠ "" ∧ shopOptions.tenantField ≠ "" ∧
      let run := (shopRouter.reply "products"
        (shopRequest "/items" "filter=shopDomain|string|eq|other&filter=price|amount|gt|0|50")
        .items).run readingEngine
      run.2.calls.length = 3 ∧ run.1.toOption.map Reply.status = some okStatus ∧
        (∀ call ∈ run.2.calls, SelectsTenant shopOptions.tenantField "shop" call.pipeline) ∧
        readingEngine.Reads shopReading shopProducts ∧
        ∀ reply, run.1 = .ok reply → ∀ scope,
          (tenantFilter shopOptions.tenantField "shop").condition = .ok (some scope) →
            Endpoint.items.ShowsOnly (shopReading.satisfies scope.toValue · = true) reply := by
  have nonempty : "shop" ≠ "" := by decide
  have named : shopOptions.tenantField ≠ "" := by decide
  have reads : readingEngine.Reads shopReading shopProducts := fun _ _ => rfl
  refine ⟨shopRouter_made, rfl, nonempty, named, by decide +kernel, by decide +kernel, ?_⟩
  obtain ⟨confined, shows⟩ := replies_confined_iff shopRouter_made rfl nonempty named "products"
    (shopRequest "/items" "filter=shopDomain|string|eq|other&filter=price|amount|gt|0|50")
    .items readingEngine
  have selects := confined.mpr (.inl rfl)
  exact ⟨selects, reads, shows selects shopReading shopProducts reads⟩

/-- The item endpoint of a shop's router shows the document of another shop: nothing that it sends
selects the shop. -/
theorem shop_item_unconfined :
    Router.make shopOptions "" [] = .ok shopRouter ∧ shopOptions.tenant = some "shop" ∧
      shopOptions.tenantField ≠ "" ∧
      let found : Value := .object [("id", .int 5), ("shopDomain", .text "other")]
      let run := (shopRouter.reply "products" (shopRequest "/item" "id=5") .item).run
        (.scripted [.rows [found]])
      run.1.toOption.map Reply.status = some okStatus ∧
        ¬ ∀ call ∈ run.2.calls, SelectsTenant shopOptions.tenantField "shop" call.pipeline := by
  have named : shopOptions.tenantField ≠ "" := by decide
  have sought : soughtIdentifier (.received (shopRequest "/item" "id=5")) none =
      .ok (some ⟨"5", some (.int 5), .text "5"⟩) := eq_ok_of_toOption (by decide +kernel)
  refine ⟨shopRouter_made, rfl, named, by decide +kernel, ?_⟩
  intro selects
  rw [Router.reply, replyItem_selectsTenant_iff named] at selects
  obtain ⟨inside, -⟩ := selects _ sought
  exact absurd inside (by decide)

end QueryPipeline
