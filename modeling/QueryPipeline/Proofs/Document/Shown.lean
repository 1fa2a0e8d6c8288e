import QueryPipeline.Document.Json
import QueryPipeline.Proofs.Document.ObjectId
import QueryPipeline.Proofs.Failure

/-!
# What a response shows of a document

A response shows the structure of a document: its keys in their order, its arrays item by item and
its scalars as they are, with identifiers as their digits and points in time as their text. This
holds of what is left of the document without the members under reserved keys, at any depth. So a
document is shown without loss exactly where it has no reserved key.
-/

namespace QueryPipeline.Document

open Number Time

mutual

/-- A value and what stands for it in a response without loss. -/
inductive Value.ShownAs : Value → Value → Prop
  /-- No value is shown as such. -/
  | null : Value.ShownAs .null .null
  /-- A truth value is shown as it is. -/
  | bool (value : Bool) : Value.ShownAs (.bool value) (.bool value)
  /-- A whole number is shown as it is. -/
  | int (value : Int) : Value.ShownAs (.int value) (.int value)
  /-- A floating point number is shown as it is. -/
  | float (value : Binary64) : Value.ShownAs (.float value) (.float value)
  /-- A text is shown as it is. -/
  | text (value : String) : Value.ShownAs (.text value) (.text value)
  /-- An object identifier is shown as the digits of lower case that denote it. -/
  | objectId {id : ObjectId} {digits : String}
      (denoted : ObjectId.ofText? digits.toList = some id)
      (lower : ∀ c ∈ digits.toList, IsLower c) : Value.ShownAs (.objectId id) (.text digits)
  /-- A point in time is shown as its text. -/
  | date (t : Timestamp) :
      Value.ShownAs (.date t) (.text (String.ofList (t.text .ifNonzero)))
  /-- An array is shown item by item. -/
  | array {items shown : List Value} (each : ItemsShownAs items shown) :
      Value.ShownAs (.array items) (.array shown)
  /-- An object is shown member by member. -/
  | object {members shown : List (String × Value)} (each : MembersShownAs members shown) :
      Value.ShownAs (.object members) (.object shown)

/-- The items of an array and what stands for them. -/
inductive ItemsShownAs : List Value → List Value → Prop
  /-- No items are shown as none. -/
  | nil : ItemsShownAs [] []
  /-- The first item is shown first. -/
  | cons {value shown : Value} {rest others : List Value} (first : value.ShownAs shown)
      (later : ItemsShownAs rest others) : ItemsShownAs (value :: rest) (shown :: others)

/-- The members of an object and what stands for them. -/
inductive MembersShownAs : List (String × Value) → List (String × Value) → Prop
  /-- No members are shown as none. -/
  | nil : MembersShownAs [] []
  /-- The first member is shown first, under its own key. -/
  | cons (key : String) {value shown : Value} {rest others : List (String × Value)}
      (first : value.ShownAs shown) (later : MembersShownAs rest others) :
      MembersShownAs ((key, value) :: rest) ((key, shown) :: others)

end

mutual

/-- The keys in a value, at any depth. -/
def Value.keys : Value → List String
  | .array items => itemKeys items
  | .object members => memberKeys members
  | _ => []

/-- The keys in the items of an array. -/
def itemKeys : List Value → List String
  | [] => []
  | value :: rest => value.keys ++ itemKeys rest

/-- The keys of the members of an object, and the keys in their values. -/
def memberKeys : List (String × Value) → List String
  | [] => []
  | (key, value) :: rest => key :: value.keys ++ memberKeys rest

end

mutual

/-- A value without its members under reserved keys, at any depth. -/
def Value.unreserved : Value → Value
  | .array items => .array (unreservedItems items)
  | .object members => .object (unreservedMembers members)
  | value => value

/-- The items of an array without their members under reserved keys. -/
def unreservedItems : List Value → List Value
  | [] => []
  | value :: rest => value.unreserved :: unreservedItems rest

/-- The members of an object that are not under reserved keys, their values likewise. -/
def unreservedMembers : List (String × Value) → List (String × Value)
  | [] => []
  | (key, value) :: rest =>
    if isReserved key then unreservedMembers rest
    else (key, value.unreserved) :: unreservedMembers rest

end

mutual

/-- Whether a value has a form in responses: its numbers are finite and short enough to be written,
and there is no regular expression in it. -/
def Value.isShowable : Value → Bool
  | .int n => Number.isWritable n
  | .float x => x.isFinite
  | .regex _ => false
  | .array items => allShowable items
  | .object members => membersShowable members
  | _ => true

/-- Whether all values of a list have a form in responses. -/
def allShowable : List Value → Bool
  | [] => true
  | value :: rest => value.isShowable && allShowable rest

/-- Whether the values of all members of an object have a form in responses. -/
def membersShowable : List (String × Value) → Bool
  | [] => true
  | (_, value) :: rest => value.isShowable && membersShowable rest

end

/-- All values of a list have a form in responses where each of them has. -/
theorem allShowable_of_forall {items : List Value}
    (showable : ∀ item ∈ items, item.isShowable = true) : allShowable items = true := by
  induction items with
  | nil => rfl
  | cons value rest ih =>
    rw [List.forall_mem_cons] at showable
    rw [allShowable, showable.1, ih showable.2, Bool.and_self]

/-- Items without their members under reserved keys are shown each by its own. -/
theorem ItemsShownAs.forall₂ {items shown : List Value}
    (each : ItemsShownAs (unreservedItems items) shown) :
    List.Forall₂ (fun item body => item.unreserved.ShownAs body) items shown := by
  induction items generalizing shown with
  | nil =>
    cases each
    exact .nil
  | cons value rest ih =>
    cases each with
    | cons first later => exact .cons first (ih later)

mutual

/-- A response shows a value without its members under reserved keys, and loses nothing else. -/
theorem Value.shownAs_of_toResponse (value : Value) {shown : Value}
    (made : value.toResponse = .ok shown) : value.unreserved.ShownAs shown := by
  cases value with
  | null | bool | int | float | text =>
    cases made
    constructor
  | objectId id =>
    cases made
    have digits : (String.ofList id.text).toList = id.text := String.toList_ofList
    exact .objectId (digits.symm ▸ ObjectId.ofText?_text id)
      (digits.symm ▸ ObjectId.isLower_of_mem_text)
  | date t =>
    cases made
    exact .date t
  | regex => cases made
  | array items =>
    obtain ⟨each, itemized, rfl⟩ := map_eq_ok made
    exact .array (shownAs_of_itemsToResponse items itemized)
  | object members =>
    obtain ⟨each, itemized, rfl⟩ := map_eq_ok made
    exact .object (shownAs_of_membersToResponse members itemized)

/-- A response shows the items of an array one by one. -/
theorem shownAs_of_itemsToResponse (items : List Value) {shown : List Value}
    (made : itemsToResponse items = .ok shown) : ItemsShownAs (unreservedItems items) shown := by
  cases items with
  | nil =>
    cases made
    exact .nil
  | cons value rest =>
    obtain ⟨first, one, more⟩ := bind_eq_ok made
    obtain ⟨others, later, same⟩ := bind_eq_ok more
    cases same
    exact .cons (value.shownAs_of_toResponse one) (shownAs_of_itemsToResponse rest later)

/-- A response shows the members of an object that are not under reserved keys one by one. -/
theorem shownAs_of_membersToResponse (members : List (String × Value))
    {shown : List (String × Value)} (made : membersToResponse members = .ok shown) :
    MembersShownAs (unreservedMembers members) shown := by
  cases members with
  | nil =>
    cases made
    exact .nil
  | cons member rest =>
    obtain ⟨key, value⟩ := member
    rw [membersToResponse] at made
    rw [unreservedMembers]
    split at made
    · next reserved =>
      rw [if_pos reserved]
      exact shownAs_of_membersToResponse rest made
    · next free =>
      obtain ⟨first, one, more⟩ := bind_eq_ok made
      obtain ⟨others, later, same⟩ := bind_eq_ok more
      cases same
      rw [if_neg free]
      exact .cons key (value.shownAs_of_toResponse one) (shownAs_of_membersToResponse rest later)

end

mutual

/-- A value that has a form in responses is shown, and what is shown can be written. -/
theorem Value.exists_toResponse (value : Value) (showable : value.isShowable = true) :
    ∃ shown, value.toResponse = .ok shown ∧ shown.responseFault? = none := by
  cases value with
  | null | bool | text | objectId | date => exact ⟨_, rfl, rfl⟩
  | int n =>
    rw [Value.isShowable] at showable
    exact ⟨.int n, rfl, by rw [Value.responseFault?, if_pos showable]⟩
  | float x =>
    rw [Value.isShowable] at showable
    exact ⟨.float x, rfl, by rw [Value.responseFault?, if_pos showable]⟩
  | regex => cases showable
  | array items =>
    obtain ⟨shown, made, faultless⟩ := exists_itemsToResponse items showable
    exact ⟨.array shown, by rw [Value.toResponse, made]; rfl, faultless⟩
  | object members =>
    obtain ⟨shown, made, faultless⟩ := exists_membersToResponse members showable
    exact ⟨.object shown, by rw [Value.toResponse, made]; rfl, faultless⟩

/-- Items that have a form in responses are shown. -/
theorem exists_itemsToResponse (items : List Value) (showable : allShowable items = true) :
    ∃ shown, itemsToResponse items = .ok shown ∧ itemsFault? shown = none := by
  cases items with
  | nil => exact ⟨[], rfl, rfl⟩
  | cons value rest =>
    rw [allShowable, Bool.and_eq_true] at showable
    obtain ⟨first, one, faultless⟩ := value.exists_toResponse showable.1
    obtain ⟨others, later, clean⟩ := exists_itemsToResponse rest showable.2
    refine ⟨first :: others, by rw [itemsToResponse, one, later]; rfl, ?_⟩
    rw [itemsFault?, faultless, clean]
    rfl

/-- Members whose values have a form in responses are shown. -/
theorem exists_membersToResponse (members : List (String × Value))
    (showable : membersShowable members = true) :
    ∃ shown, membersToResponse members = .ok shown ∧ membersFault? shown = none := by
  cases members with
  | nil => exact ⟨[], rfl, rfl⟩
  | cons member rest =>
    obtain ⟨key, value⟩ := member
    rw [membersShowable, Bool.and_eq_true] at showable
    obtain ⟨others, later, clean⟩ := exists_membersToResponse rest showable.2
    rw [membersToResponse]
    split
    · exact ⟨others, later, clean⟩
    · obtain ⟨first, one, faultless⟩ := value.exists_toResponse showable.1
      refine ⟨(key, first) :: others, by rw [one, later]; rfl, ?_⟩
      rw [membersFault?, faultless, clean]
      rfl

end

mutual

/-- What is shown without loss has the same keys. -/
theorem Value.ShownAs.keys_eq {value shown : Value} (same : value.ShownAs shown) :
    shown.keys = value.keys := by
  cases same with
  | null | bool | int | float | text | objectId | date => rfl
  | array each => exact each.keys_eq
  | object each => exact each.keys_eq

/-- Items that are shown without loss have the same keys. -/
theorem ItemsShownAs.keys_eq {items shown : List Value} (same : ItemsShownAs items shown) :
    itemKeys shown = itemKeys items := by
  cases same with
  | nil => rfl
  | cons first later => rw [itemKeys, itemKeys, first.keys_eq, later.keys_eq]

/-- Members that are shown without loss have the same keys. -/
theorem MembersShownAs.keys_eq {members shown : List (String × Value)}
    (same : MembersShownAs members shown) : memberKeys shown = memberKeys members := by
  cases same with
  | nil => rfl
  | cons key first later => rw [memberKeys, memberKeys, first.keys_eq, later.keys_eq]

end

mutual

/-- No reserved key is left in a value without its members under such keys. -/
theorem Value.not_isReserved_of_mem_keys (value : Value) :
    ∀ key ∈ value.unreserved.keys, isReserved key = false := by
  cases value with
  | null | bool | int | float | text | objectId | date | regex => exact List.forall_mem_nil _
  | array items => exact not_isReserved_of_mem_itemKeys items
  | object members => exact not_isReserved_of_mem_memberKeys members

/-- No reserved key is left in items without their members under such keys. -/
theorem not_isReserved_of_mem_itemKeys (items : List Value) :
    ∀ key ∈ itemKeys (unreservedItems items), isReserved key = false := by
  cases items with
  | nil => exact List.forall_mem_nil _
  | cons value rest =>
    rw [unreservedItems, itemKeys, List.forall_mem_append]
    exact ⟨value.not_isReserved_of_mem_keys, not_isReserved_of_mem_itemKeys rest⟩

/-- No reserved key is left among members that are not under such keys. -/
theorem not_isReserved_of_mem_memberKeys (members : List (String × Value)) :
    ∀ key ∈ memberKeys (unreservedMembers members), isReserved key = false := by
  cases members with
  | nil => exact List.forall_mem_nil _
  | cons member rest =>
    obtain ⟨key, value⟩ := member
    have others := not_isReserved_of_mem_memberKeys rest
    rw [unreservedMembers]
    split
    · exact others
    · next free =>
      rw [memberKeys, List.cons_append, List.forall_mem_cons, List.forall_mem_append]
      exact ⟨Bool.eq_false_iff.mpr free, value.not_isReserved_of_mem_keys, others⟩

end

mutual

/-- A value without reserved keys has no members to leave out. -/
theorem Value.unreserved_eq_self (value : Value)
    (free : ∀ key ∈ value.keys, isReserved key = false) : value.unreserved = value := by
  cases value with
  | null | bool | int | float | text | objectId | date | regex => rfl
  | array items => exact congrArg Value.array (unreservedItems_eq_self items free)
  | object members => exact congrArg Value.object (unreservedMembers_eq_self members free)

/-- Items without reserved keys have no members to leave out. -/
theorem unreservedItems_eq_self (items : List Value)
    (free : ∀ key ∈ itemKeys items, isReserved key = false) : unreservedItems items = items := by
  cases items with
  | nil => rfl
  | cons value rest =>
    rw [itemKeys, List.forall_mem_append] at free
    rw [unreservedItems, value.unreserved_eq_self free.1, unreservedItems_eq_self rest free.2]

/-- Members without reserved keys are all kept. -/
theorem unreservedMembers_eq_self (members : List (String × Value))
    (free : ∀ key ∈ memberKeys members, isReserved key = false) :
    unreservedMembers members = members := by
  cases members with
  | nil => rfl
  | cons member rest =>
    obtain ⟨key, value⟩ := member
    rw [memberKeys, List.cons_append, List.forall_mem_cons, List.forall_mem_append] at free
    obtain ⟨own, inside, others⟩ := free
    rw [unreservedMembers, if_neg (Bool.eq_false_iff.mp own), value.unreserved_eq_self inside,
      unreservedMembers_eq_self rest others]

end

namespace Value

/-- What a response shows of a value stands for the whole of it exactly where there is no reserved
key in it. -/
theorem shownAs_iff_of_unreserved {value shown : Value} (made : value.unreserved.ShownAs shown) :
    value.ShownAs shown ↔ ∀ key ∈ value.keys, isReserved key = false := by
  constructor
  · intro whole
    have keys : value.keys = value.unreserved.keys := whole.keys_eq.symm.trans made.keys_eq
    rw [keys]
    exact value.not_isReserved_of_mem_keys
  · intro free
    rwa [value.unreserved_eq_self free] at made

/-- What is shown of a value is its body where it can be written. -/
theorem toBody_of_toResponse {value shown : Value} (made : value.toResponse = .ok shown)
    (faultless : shown.responseFault? = none) : value.toBody = .ok shown := by
  rw [toBody, made]
  simp only [bind, Except.bind, faultless]

/-- A value that has a form in responses makes a body, which shows it without its members under
reserved keys. -/
theorem exists_toBody {value : Value} (showable : value.isShowable = true) :
    ∃ body, value.toBody = .ok body ∧ value.unreserved.ShownAs body := by
  obtain ⟨shown, made, faultless⟩ := value.exists_toResponse showable
  exact ⟨shown, toBody_of_toResponse made faultless, value.shownAs_of_toResponse made⟩

end Value

end QueryPipeline.Document
