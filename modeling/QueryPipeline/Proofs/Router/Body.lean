import QueryPipeline.Proofs.Document.Shown
import QueryPipeline.Proofs.Fetch.Written
import QueryPipeline.Proofs.Router.Shown

/-!
# What the body of a reply shows of the rows

The item endpoint shows the first row that the engine answers, and the list endpoint every row of
the page. Each row is shown with its keys and its structure, but without the members under reserved
keys. So a row is shown whole exactly where it has no such key. Nothing in the router asks for this:
the keys are reserved by the way in which documents are put into responses.
-/

namespace QueryPipeline

open Document Number Pipeline Text Time Url

/-- A document as a collection stores it. -/
structure Document.Value.IsDocument (value : Value) : Prop where
  /-- It is an object. -/
  isObject : ∃ members, value = .object members
  /-- All that is in it has a form in responses. -/
  isShowable : value.isShowable = true

/-- A row and what a body shows of it. -/
structure Document.Value.ShownIn (row body : Value) : Prop where
  /-- All is shown but the members under reserved keys. -/
  part : row.unreserved.ShownAs body
  /-- This is the whole row exactly where it has no reserved key. -/
  whole_iff : row.ShownAs body ↔ ∀ key ∈ row.keys, isReserved key = false

/-- What shows a row without its members under reserved keys shows so much of it. -/
theorem Document.Value.shownIn_of_unreserved {row body : Value}
    (shown : row.unreserved.ShownAs body) : row.ShownIn body :=
  ⟨shown, shownAs_iff_of_unreserved shown⟩

namespace Page

/-- A response shows a page as it is, with its items as they are shown. -/
theorem toResponse_toValue {page : Page} {shown : List Value}
    (made : itemsToResponse page.items = .ok shown) :
    page.toValue.toResponse = .ok { page with items := shown }.toValue := by
  obtain ⟨number, limit, total, pages, follows, precedes, next, previous, items⟩ := page
  cases next <;> cases previous <;>
    simp +decide [toValue, Value.toResponse, membersToResponse, made, bind, Except.bind,
      Except.map]

/-- A page whose numbers can be written can be written where its items can be. -/
theorem responseFault?_toValue {page : Page}
    (writable : ∀ n ∈ page.numbers, isWritable n = true) :
    page.toValue.responseFault? = itemsFault? page.items := by
  obtain ⟨number, limit, total, pages, follows, precedes, next, previous, items⟩ := page
  simp only [numbers, List.forall_mem_append, List.forall_mem_cons] at writable
  obtain ⟨⟨⟨first, size, count, told, -⟩, after⟩, before⟩ := writable
  cases next <;> cases previous <;>
    simp_all [toValue, Value.responseFault?, membersFault?]

/-- A page of documents whose numbers can be written makes a body, which is a page of what is shown
of the documents. -/
theorem exists_toBody {page : Page} (writable : ∀ n ∈ page.numbers, isWritable n = true)
    (documents : ∀ item ∈ page.items, item.IsDocument) :
    ∃ shown, page.toValue.toBody = .ok { page with items := shown }.toValue ∧
      List.Forall₂ Value.ShownIn page.items shown := by
  have showable := allShowable_of_forall fun item mem => (documents item mem).isShowable
  obtain ⟨shown, made, faultless⟩ := exists_itemsToResponse page.items showable
  have numbered : ∀ n ∈ ({ page with items := shown } : Page).numbers, isWritable n = true :=
    writable
  have written := (responseFault?_toValue numbered).trans faultless
  have each := (shownAs_of_itemsToResponse page.items made).forall₂
  exact ⟨shown, Value.toBody_of_toResponse (toResponse_toValue made) written,
    each.imp fun _ _ => Value.shownIn_of_unreserved⟩

end Page

/-- The item endpoint makes its body of the first row, where this is an object. -/
theorem replyItem_of_rows {collection : String} {scope : Scope} {engine : Engine}
    {identifier : Identifier} {members : Members} {others : List Value}
    (sought : soughtIdentifier (.received scope) none = .ok (some identifier))
    (found : engine [] (.first collection [.select (.identified identifier)]) =
      .rows (.object members :: others)) :
    ((Router.replyItem collection scope).run engine).1 =
      (Value.object members).toBody.map (Reply.mk okStatus) := by
  have rows : engine.rows [] (.first collection [.select (.identified identifier)]) =
      .ok [.object members] := by
    rw [Engine.rows, found]
    rfl
  have fetched := fetchItem_apply collection (.received scope) [] [] none engine .empty
  rw [sought] at fetched
  dsimp only at fetched
  rw [Session.fetchFirst_apply, Trace.calls_empty, List.nil_append, rows] at fetched
  rw [Session.run, Router.replyItem, Session.bind_ok fetched]
  dsimp only [List.head?_cons]
  rw [Session.ofExcept_bind_pure]

/-- What the bodies of a router show of the rows that the engine answers. The item endpoint always
shows the first row that is found for an identifier, and the list endpoint shows every row of a page
that is counted, whatever is asked for. Each row is shown without its members under reserved keys,
in all other respects with its whole structure, and so without loss exactly where it has no such
key. -/
theorem rows_shown_unless_reserved {options : Options} {base : String} {tags : List String}
    {router : Router} (made : Router.make options base tags = .ok router) (collection : String)
    (request : Scope) (engine : Engine) :
    (∀ identifier row others,
      soughtIdentifier (.received request) none = .ok (some identifier) →
      engine [] (.first collection [.select (.identified identifier)]) = .rows (row :: others) →
      row.IsDocument →
      ∃ body, ((router.reply collection request .item).run engine).1 = .ok ⟨okStatus, body⟩ ∧
        row.ShownIn body) ∧
    ∀ total rows,
      EndsWithRows engine ((router.reply collection request .items).run engine).2.calls total rows →
      0 ≤ total → IsEncodable total → (∀ row ∈ rows, row.IsDocument) →
      ∃ page shown,
        ((fetchList collection (.received request) options [] []).run engine).1 = .ok page ∧
        page.items = rows ∧
        ((router.reply collection request .items).run engine).1 =
          .ok ⟨okStatus, { page with items := shown }.toValue⟩ ∧
        List.Forall₂ Value.ShownIn rows shown := by
  obtain rfl := Router.make_options made
  constructor
  · intro identifier row others sought found document
    obtain ⟨⟨members, rfl⟩, showable⟩ := document
    obtain ⟨body, written, shown⟩ := Value.exists_toBody showable
    refine ⟨body, ?_, Value.shownIn_of_unreserved shown⟩
    rw [Router.reply, replyItem_of_rows sought found, written]
    rfl
  · intro total rows ends counted encodable documents
    rw [Router.reply, replyItems_calls] at ends
    obtain ⟨parameters, count, fetched⟩ := fetchList_eq_makePage ends
    obtain ⟨-, largest, -⟩ := Router.make_eq_ok made
    have asked := PageRequest.isWritable_ofParameters largest parameters
    obtain ⟨page, paged⟩ :=
      exists_makePage_of_isEncodable (.ofParameters parameters router.options) counted encodable
        fun row mem => (documents row mem).isObject
    obtain rfl := makePage_items paged
    have numbered := makePage_isWritable asked count paged
    obtain ⟨shown, body, each⟩ := Page.exists_toBody numbered documents
    refine ⟨page, shown, fetched.trans paged, rfl, ?_, each⟩
    rw [Router.reply, replyItems_run]
    dsimp only
    rw [fetched, paged, Except.bind, body]
    rfl

/-- A router without options of its own. -/
def productRouter : Router := ⟨.default, "", defaultTags⟩

/-- The router can be made. -/
theorem productRouter_made : Router.make .default "" [] = .ok productRouter := by
  have writable : isWritable Options.default.limit = true := isWritable_of_natAbs_lt (by decide)
  simp only [Router.make, baseFault?, if_pos, writable]
  rfl

/-- An engine that tells a count and answers everything else with one row. -/
def answering (total : Int) (row : Value) : Engine := fun _ call =>
  match call.pipeline.getLast? with
  | some (.count field) => .rows [.object [(field, .int total)]]
  | _ => .rows [row]

/-- The engine tells its count. -/
theorem total_answering {total : Int} (writable : isWritable total = true) (row : Value)
    (earlier : List Call) (collection : String) (pipeline : List Stage) :
    (answering total row).total earlier (.counting collection pipeline) = .ok total := by
  have answer : answering total row earlier (.counting collection pipeline) =
      .rows [.object [(Session.totalField, .int total)]] := by
    rw [answering, Call.counting, List.getLast?_append]
    rfl
  have told : Session.totalOf [.object [(Session.totalField, .int total)]] = .ok total := rfl
  rw [Engine.total, Engine.rows, answer]
  simp [Response.toExcept, Call.counting, bind, Except.bind, told, writable]

/-- A request for the whole list ends with the row of the engine. -/
theorem endsWithRows_answering {total : Int} (writable : isWritable total = true) (row : Value) :
    EndsWithRows (answering total row)
      ((productRouter.reply "products" (shopRequest "/items" "") .items).run
        (answering total row)).2.calls total [row] := by
  have read : (Request.received (shopRequest "/items" "")).parameters = .ok [] := rfl
  have unfiltered : compileShares "products" (Parameters.confined [] .default) = pure [] := rfl
  have stages : pagePipeline (.ofParameters [] .default) .default [] [] =
      [.sort "updatedAt" .descending, .skip 0, .limit 250] := rfl
  have back : isWritable (-1) = true := isWritable_of_natAbs_lt (by decide)
  have none : isWritable 0 = true := isWritable_of_natAbs_lt (by decide)
  have size : isWritable 250 = true := isWritable_of_natAbs_lt (by decide)
  have paged : canBeWritten (pagePipeline (.ofParameters [] .default) .default [] []) = true := by
    simp [stages, canBeWritten, stageValues, Stage.members, single, Direction.toInt, allWritable,
      Value.isWritable, membersWritable, back, none, size]
  have count := total_answering writable row Trace.empty.calls "products" []
  have found : answering total row (Trace.empty.calls ++ [.counting "products" []])
      (.fetching "products" (pagePipeline (.ofParameters [] .default) .default [] [])) =
        .rows [row] := rfl
  rw [Router.reply, replyItems_calls, Session.run, fetchList_eq, read, Session.ofExcept_ok_bind]
  dsimp only [productRouter]
  rw [unfiltered, pure_bind, List.nil_append]
  exact fetchPage_endsWithRows rfl paged count found _

/-- The item endpoint is asked for the document with the identifier 5. -/
theorem fifth_sought : soughtIdentifier (.received (shopRequest "/item" "id=5")) none =
    .ok (some ⟨"5", some (.int 5), .text "5"⟩) :=
  rfl

/-- A product with an object identifier, a point in time, an array and an object in it. -/
def nestedProduct : Value :=
  .object [("_id", .objectId ⟨⟨255, by decide⟩⟩), ("created", .date (.utc 0)),
    ("sizes", .array [.int 5, .float (.finite true 0), .null]),
    ("maker", .object [("name", .text "acme"), ("_safe", .bool true)])]

/-- Both endpoints show a nested product, but for the member of its maker under a reserved key. -/
theorem nested_product_shown :
    let router := productRouter
    let engine := answering 1 nestedProduct
    Router.make .default "" [] = .ok router ∧
      soughtIdentifier (.received (shopRequest "/item" "id=5")) none =
        .ok (some ⟨"5", some (.int 5), .text "5"⟩) ∧
      engine [] (.first "products" [.select (.identified ⟨"5", some (.int 5), .text "5"⟩)]) =
        .rows [nestedProduct] ∧
      nestedProduct.IsDocument ∧
      EndsWithRows engine
        ((router.reply "products" (shopRequest "/items" "") .items).run engine).2.calls 1
        [nestedProduct] ∧ IsEncodable 1 ∧
      (∃ body, ((router.reply "products" (shopRequest "/item" "id=5") .item).run engine).1 =
          .ok ⟨okStatus, body⟩ ∧ nestedProduct.unreserved.ShownAs body ∧
        ¬nestedProduct.ShownAs body) ∧
      ∃ (page : Page) (shown : Value),
        ((router.reply "products" (shopRequest "/items" "") .items).run engine).1 =
          .ok ⟨okStatus, { page with items := [shown] }.toValue⟩ ∧
        nestedProduct.unreserved.ShownAs shown := by
  have found : answering 1 nestedProduct []
      (.first "products" [.select (.identified ⟨"5", some (.int 5), .text "5"⟩)]) =
        .rows [nestedProduct] := rfl
  have five : isWritable 5 = true := isWritable_of_natAbs_lt (by decide)
  have showable : nestedProduct.isShowable = true := by
    simp [nestedProduct, Value.isShowable, membersShowable, allShowable, Binary64.isFinite, five]
  have document : nestedProduct.IsDocument := ⟨⟨_, rfl⟩, showable⟩
  have one : isWritable 1 = true := isWritable_of_natAbs_lt (by decide)
  have ends := endsWithRows_answering one nestedProduct
  have encodable : IsEncodable 1 := by decide
  have reserved : ¬∀ key ∈ nestedProduct.keys, isReserved key = false := by decide
  obtain ⟨item, -⟩ := rows_shown_unless_reserved productRouter_made "products"
    (shopRequest "/item" "id=5") (answering 1 nestedProduct)
  obtain ⟨body, replied, part, whole⟩ := item _ _ [] fifth_sought found document
  obtain ⟨-, items⟩ := rows_shown_unless_reserved productRouter_made "products"
    (shopRequest "/items" "") (answering 1 nestedProduct)
  obtain ⟨page, shown, -, -, listed, each⟩ := items _ _ ends (by decide) encodable
    (List.forall_mem_singleton.mpr document)
  obtain - | ⟨first, last⟩ := each
  cases last
  exact ⟨productRouter_made, fifth_sought, found, document, ends, encodable,
    ⟨body, replied, part, mt whole.mp reserved⟩, page, _, listed, first.1⟩

/-- A product whose price is under a reserved key. -/
def pricedProduct : Value := .object [("id", .int 5), ("_salePrice", .int 10)]

/-- The price of a product is lost: it is a document, and the body of the item endpoint has all of
it but the price. -/
theorem sale_price_lost :
    pricedProduct.IsDocument ∧
      ((productRouter.reply "products" (shopRequest "/item" "id=5") .item).run
        (.scripted [.rows [pricedProduct]])).1 = .ok ⟨okStatus, .object [("id", .int 5)]⟩ ∧
      ¬pricedProduct.ShownAs (.object [("id", .int 5)]) := by
  have five : isWritable 5 = true := isWritable_of_natAbs_lt (by decide)
  have ten : isWritable 10 = true := isWritable_of_natAbs_lt (by decide)
  have body : pricedProduct.toBody = .ok (.object [("id", .int 5)]) :=
    Value.toBody_of_toResponse rfl (by simp [Value.responseFault?, membersFault?, five])
  have found : Engine.scripted [.rows [pricedProduct]] []
      (.first "products" [.select (.identified ⟨"5", some (.int 5), .text "5"⟩)]) =
        .rows [pricedProduct] := rfl
  have showable : pricedProduct.isShowable = true := by
    simp [pricedProduct, Value.isShowable, membersShowable, five, ten]
  refine ⟨⟨⟨_, rfl⟩, showable⟩, ?_, fun same => absurd same.keys_eq (by decide)⟩
  rw [Router.reply, replyItem_of_rows fifth_sought found]
  exact congrArg (Except.map (Reply.mk okStatus)) body

end QueryPipeline
