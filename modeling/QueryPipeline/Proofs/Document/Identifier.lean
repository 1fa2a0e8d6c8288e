import QueryPipeline.Document.Identifier
import QueryPipeline.Proofs.Number.Whole

/-!
# Reading identifiers

An identifier is read from its own text. The digits of an object identifier with a line break after
them pass for one and are none. A text with neither this fault nor that of a broken number has all
forms of an identifier.
-/

namespace QueryPipeline.Document

open Number Text

/-- The 24 digits of an object identifier with a line break after them. -/
def IsBrokenKey (text : List Char) : Prop :=
  ∃ digits, text = digits ++ ['\n'] ∧ digits.length = 24 ∧ digits.all isHexDigit = true

/-- A text denotes an object identifier exactly where it has its 24 digits. -/
theorem ObjectId.isSome_ofText?_iff (text : List Char) :
    (ObjectId.ofText? text).isSome = true ↔ text.length = 24 ∧ text.all isHexDigit = true := by
  rw [ObjectId.ofText?]
  split
  · next digits => exact iff_of_true rfl digits
  · next other => exact iff_of_false Bool.false_ne_true other

/-- The key of a text can be told unless it is broken. -/
theorem Key.ofText_eq_ok_iff (text : String) :
    (∃ key, Key.ofText text = .ok key) ↔ ¬IsBrokenKey text.toList := by
  have broken : IsBrokenKey text.toList ↔ text.toList.getLast? = some '\n' ∧
      (ObjectId.ofText? text.toList.dropLast).isSome = true := by
    rw [ObjectId.isSome_ofText?_iff]
    constructor
    · rintro ⟨digits, same, shape⟩
      rw [same, List.getLast?_concat, List.dropLast_concat]
      exact ⟨rfl, shape⟩
    · rintro ⟨last, shape⟩
      obtain ⟨digits, same⟩ := List.getLast?_eq_some_iff.mp last
      rw [same, List.dropLast_concat] at shape
      exact ⟨digits, same, shape⟩
  rw [Key.ofText, broken]
  cases id? : ObjectId.ofText? text.toList with
  | some id =>
    refine iff_of_true ⟨_, rfl⟩ ?_
    rintro ⟨last, -⟩
    have whole := (ObjectId.isSome_ofText?_iff text.toList).mp (by rw [id?]; rfl)
    have digit := List.all_eq_true.mp whole.2 '\n' (List.mem_of_getLast? last)
    exact absurd digit (by decide)
  | none =>
    dsimp only
    split
    · next both =>
      exact iff_of_false (not_exists_error_eq_ok _) fun sound => sound both
    · next other => exact iff_of_true ⟨_, rfl⟩ other

/-- The keys of a list can be told unless one of its items is broken. -/
theorem Key.listOfText_eq_ok_iff (text : String) :
    (∃ keys, Key.listOfText text = .ok keys) ↔
      ∀ item ∈ splitOn ',' text.toList, ¬IsBrokenKey item := by
  rw [Key.listOfText, exists_mapM_eq_ok_iff]
  refine forall₂_congr fun item mem => ?_
  rw [Key.ofText_eq_ok_iff, String.toList_ofList]

/-- The text of an identifier is the one it is read from. -/
theorem Identifier.text_of_ofText {text : String} {identifier : Identifier}
    (read : Identifier.ofText text = .ok identifier) : identifier.text = text := by
  obtain ⟨number?, -, rest⟩ := bind_eq_ok read
  obtain ⟨key, -, made⟩ := bind_eq_ok rest
  cases made
  rfl

/-- A given identifier is read from its own text. -/
theorem Identifier.ofText_of_ofGiven {given : GivenId} {identifier : Identifier}
    (read : Identifier.ofGiven given = .ok identifier) :
    Identifier.ofText identifier.text = .ok identifier := by
  obtain ⟨text, -, own⟩ := bind_eq_ok read
  rw [Identifier.text_of_ofText own, own]

/-- The forms of an identifier can be told unless its number or its key is broken. -/
theorem Identifier.ofText_eq_ok_iff (text : String) :
    (∃ identifier, Identifier.ofText text = .ok identifier) ↔
      ¬IsBrokenNumber text.toList ∧ ¬IsBrokenKey text.toList := by
  rw [← readNumeral_eq_ok_iff, ← Key.ofText_eq_ok_iff, Identifier.ofText]
  constructor
  · intro given
    obtain ⟨identifier, read⟩ := given
    obtain ⟨number?, number, rest⟩ := bind_eq_ok read
    obtain ⟨key, keyed, -⟩ := bind_eq_ok rest
    exact ⟨⟨number?, number⟩, key, keyed⟩
  · intro given
    obtain ⟨⟨number?, number⟩, key, keyed⟩ := given
    exact ⟨⟨text, number?, key⟩, by rw [number, keyed]; rfl⟩

end QueryPipeline.Document
