import QueryPipeline.Proofs.Fetch.Calls
import QueryPipeline.Proofs.Filter.Compile
import QueryPipeline.Proofs.Filter.ShortForm

/-!
# Looking up an identifier

The documents that are stored under a text are selected by a filter on the identifier, in its full
form or its short one, or one of them is fetched, for a caller or for a request that gives the text.
Each way comes down to one stage, which depends on the text alone, and fails where the identifier
cannot be read. What the engine makes of the stage is left open.
-/

namespace QueryPipeline

open Document Pipeline Text Url

/-- The stage that goes on with the documents stored under a text, in any form of it. -/
def lookupStage (text : String) : Except Failure Stage :=
  (Identifier.ofText text).map fun identifier => .select (.identified identifier)

/-- The filters for the documents stored under a text. -/
inductive SelectsStored (text : String) : String → Prop
  /-- The full form, on either field that holds identifiers. -/
  | full {field : String} (identifies : field ∈ identifierFields) :
    SelectsStored text (explicitText field .string .equal text)
  /-- The short form, of a text that means neither a list nor a range nor a day. -/
  | short (single : ',' ∉ text.toList) (unmarked : rangeMark ∉ text.toList)
    (undated : ¬UpToBreak IsDays text.toList) : SelectsStored text ("id|" ++ text)

/-- The requests, with what a caller gives, for the document stored under a text. -/
inductive AsksForStored (text : String) : Request → Option GivenId → Prop
  /-- A caller gives the text, whatever the request is. -/
  | given {request : Request} : AsksForStored text request (some (.text text))
  /-- A caller gives nothing, and the text is the last identifier of the request. -/
  | requested {request : Request} {given : Option GivenId} {parameters : Parameters}
    (absent : given = none ∨ given = some (.text ""))
    (read : request.parameters = .ok parameters) (last : parameters.last? idKey = some text) :
    AsksForStored text request given

section

variable {text filter : String}

/-- The full form on a field that holds identifiers compiles to the stage of its text. -/
theorem compile_explicitText {field : String} (identifies : field ∈ identifierFields)
    (one : filterSeparator ∉ text.toList) :
    compile [Filter.read (explicitText field .string .equal text)] =
      (lookupStage text).map fun stage => [stage] := by
  have operand : readOperand (some .equal) text.toList = .single text := by
    rw [readOperand_of_uncut (nofun : Operator.equal = .range → _), String.ofList_toList]
  have condition : (Filter.read (explicitText field .string .equal text)).condition =
      (Identifier.ofText text).map fun identifier => some (.identified identifier) := by
    rw [identifierFields, List.mem_cons, List.mem_singleton] at identifies
    obtain rfl | rfl := identifies <;>
      rw [read_explicitText _ _ (by decide) one, operand] <;> rfl
  rw [compile_singleton, condition, lookupStage]
  cases Identifier.ofText text <;> rfl

/-- The short form on the identifier means the full form. -/
theorem read_shortId (one : filterSeparator ∉ text.toList) (single : ',' ∉ text.toList)
    (unmarked : rangeMark ∉ text.toList) (undated : ¬UpToBreak IsDays text.toList) :
    Filter.read ("id|" ++ text) = Filter.read (explicitText "id" .string .equal text) := by
  have tokens : splitOn filterSeparator ("id|" ++ text).toList =
      ["id".toList, text.toList] := by
    have cut : ("id|" ++ text).toList = "id".toList ++ filterSeparator :: text.toList := by
      rw [String.toList_append]
      rfl
    rw [cut, splitOn_append_cons (by decide), splitOn_of_not_mem one]
  have short : IsShort "id".toList text.toList (splitOn filterSeparator ("id|" ++ text).toList) :=
    tokens ▸ .two
  have forced : UpToBreak IsAmount text.toList → "id" ∈ textFields := fun _ => by decide
  exact short.read_eq (.plain single (.string undated forced) (.equal unmarked (by decide)))

/-- Each filter for the documents stored under a text compiles to the stage of the text. -/
theorem SelectsStored.compile_eq (selects : SelectsStored text filter)
    (one : filterSeparator ∉ text.toList) :
    compile [Filter.read filter] = (lookupStage text).map fun stage => [stage] := by
  cases selects with
  | full identifies => exact compile_explicitText identifies one
  | short single unmarked undated =>
    rw [read_shortId one single unmarked undated]
    exact compile_explicitText List.mem_cons_self one

end

section

variable {text : String} {request : Request} {given : Option GivenId}

/-- The identifier of a request is told by its parameters. -/
theorem requestedId_eq (request : Request) :
    requestedId request = request.parameters.map fun parameters =>
      (nonEmpty (parameters.last? idKey)).map .text := by
  rw [requestedId, Request.parameters]
  cases request.url with
  | error failure => rfl
  | ok url =>
    change (readParameters url).bind _ = (readParameters url).map _
    cases readParameters url <;> rfl

/-- Where the document stored under a text is asked for, the text is what is looked up. -/
theorem AsksForStored.chosenId_eq (asks : AsksForStored text request given)
    (nonempty : text ≠ "") : chosenId given request = .ok (some (.text text)) := by
  cases asks with
  | given => exact if_neg nonempty
  | requested absent read last =>
    have requested : requestedId request = .ok (some (.text text)) := by
      rw [requestedId_eq, read, Except.map, last, nonEmpty]
      simp [nonempty]
    obtain rfl | rfl := absent
    · exact requested
    · exact requested

/-- A document that is asked for is fetched by one call with the stage of its text, or not at all
where the identifier cannot be read. -/
theorem AsksForStored.run_fetchItem (asks : AsksForStored text request given)
    (nonempty : text ≠ "") (collection : String) (initial final : List Stage) (engine : Engine) :
    (fetchItem collection request initial final given).run engine =
      match lookupStage text with
      | .error failure => (.error failure, .empty)
      | .ok stage =>
        let call := Call.first collection (initial ++ stage :: final)
        ((engine.rows [] call).map List.head?, Trace.empty.sent call) := by
  have sought : soughtIdentifier request given = (Identifier.ofText text).map some := by
    rw [soughtIdentifier, asks.chosenId_eq nonempty]
    rfl
  rw [Session.run, fetchItem_apply, sought, lookupStage]
  cases Identifier.ofText text with
  | error failure => rfl
  | ok identifier => exact Session.fetchFirst_apply _ _

end

/-- Selecting the documents stored under a text and fetching one of them come down to the same
stage, however either is asked for, and both fail in the same way where the stage cannot be made. -/
theorem lookups_agree (text : String) (nonempty : text ≠ "")
    (one : filterSeparator ∉ text.toList) :
    (∀ filter, SelectsStored text filter →
      compile [Filter.read filter] = (lookupStage text).map fun stage => [stage]) ∧
    ∀ (request : Request) (given : Option GivenId), AsksForStored text request given →
      ∀ (collection : String) (initial final : List Stage) (engine : Engine),
        (fetchItem collection request initial final given).run engine =
          match lookupStage text with
          | .error failure => (.error failure, .empty)
          | .ok stage =>
            let call := Call.first collection (initial ++ stage :: final)
            ((engine.rows [] call).map List.head?, Trace.empty.sent call) :=
  ⟨fun _ selects => selects.compile_eq one, fun _ _ asks => asks.run_fetchItem nonempty⟩

/-- The forms of a number that is written with zeros in front. -/
def paddedNumber : Identifier := ⟨"0042", some (.int 42), .text "0042"⟩

/-- A short form selects the documents stored under such a number, and a request whose last
identifier it is fetches one of them by the same stage. -/
theorem padded_number_lookups_agree :
    compile [Filter.read "id|0042"] = .ok [.select (.identified paddedNumber)] ∧
      ∀ engine, ((fetchItem "items" (.written "http://h/items?id=7&id=0042") [] [] none).run
        engine).2.calls = [⟨"items", [.select (.identified paddedNumber), .limit 1], some 1⟩] := by
  have stage : lookupStage "0042" = .ok (.select (.identified paddedNumber)) := by
    have read : Identifier.ofText "0042" = .ok paddedNumber :=
      eq_ok_of_toOption (by decide +kernel)
    rw [lookupStage, read]
    rfl
  have selects : SelectsStored "0042" "id|0042" :=
    .short (by decide) (by decide) (mt isDaysShaped_iff.mpr (by decide))
  have parameters : (Request.written "http://h/items?id=7&id=0042").parameters =
      .ok [("id", "7"), ("id", "0042")] := eq_ok_of_toOption (by decide +kernel)
  obtain ⟨selected, fetched⟩ := lookups_agree "0042" (by decide) (by decide)
  refine ⟨(selected _ selects).trans (by rw [stage]; rfl), fun engine => ?_⟩
  rw [fetched _ none (.requested (.inl rfl) parameters rfl), stage]
  rfl

end QueryPipeline
