import QueryPipeline.Text.Split
import Mathlib.Data.List.TakeWhile

/-!
# Cutting a joined text

Cutting is the inverse of joining where no piece holds the separator: a text that is put together
with a separator falls apart into the same pieces, at the first separator as well as at all of them.
-/

namespace QueryPipeline.Text

variable {separator : Char} {piece text : List Char}

/-- A text without the separator is its own only piece. -/
theorem splitOn_of_not_mem (absent : separator ∉ text) : splitOn separator text = [text] := by
  induction text with
  | nil => rfl
  | cons c rest ih =>
    rw [List.mem_cons, not_or] at absent
    rw [splitOn, if_neg (Ne.symm absent.1), ih absent.2]

/-- What stands before the first separator is the first piece. -/
theorem splitOn_append_cons (absent : separator ∉ piece) (rest : List Char) :
    splitOn separator (piece ++ separator :: rest) = piece :: splitOn separator rest := by
  induction piece with
  | nil => rw [List.nil_append, splitOn, if_pos rfl]
  | cons c more ih =>
    rw [List.mem_cons, not_or] at absent
    rw [List.cons_append, splitOn, if_neg (Ne.symm absent.1), ih absent.2]

/-- Pieces that are joined are found again. -/
theorem splitOn_joinWith {pieces : List (List Char)} (some : pieces ≠ [])
    (absent : ∀ piece ∈ pieces, separator ∉ piece) :
    splitOn separator (joinWith separator pieces) = pieces := by
  induction pieces with
  | nil => exact absurd rfl some
  | cons piece others ih =>
    rw [List.forall_mem_cons] at absent
    cases others with
    | nil => exact splitOn_of_not_mem absent.1
    | cons next rest =>
      rw [joinWith, splitOn_append_cons absent.1, ih (List.cons_ne_nil _ _) absent.2]
      exact List.cons_ne_nil _ _

/-- Pieces that are joined in front of the separator are found again before the others. -/
theorem splitOn_joinWith_append {pieces : List (List Char)} (some : pieces ≠ [])
    (absent : ∀ piece ∈ pieces, separator ∉ piece) (rest : List Char) :
    splitOn separator (joinWith separator pieces ++ separator :: rest) =
      pieces ++ splitOn separator rest := by
  induction pieces with
  | nil => exact absurd rfl some
  | cons piece others ih =>
    rw [List.forall_mem_cons] at absent
    cases others with
    | nil => exact splitOn_append_cons absent.1 rest
    | cons next more =>
      have later := ih (List.cons_ne_nil _ _) absent.2
      rw [joinWith, List.append_assoc, List.cons_append, splitOn_append_cons absent.1, later]
      · rfl
      · exact List.cons_ne_nil _ _

/-- The pieces of a text do not hold the separator. -/
theorem not_mem_of_mem_splitOn (mem : piece ∈ splitOn separator text) : separator ∉ piece := by
  induction text generalizing piece with
  | nil =>
    rw [List.mem_singleton.mp mem]
    exact List.not_mem_nil
  | cons c rest ih =>
    rw [splitOn] at mem
    by_cases same : c = separator
    · rw [if_pos same] at mem
      obtain rfl | later := List.mem_cons.mp mem
      · exact List.not_mem_nil
      · exact ih later
    · rw [if_neg same] at mem
      cases pieces : splitOn separator rest with
      | nil => exact absurd pieces (splitOn_ne_nil separator rest)
      | cons first others =>
        rw [pieces] at mem ih
        obtain rfl | later := List.mem_cons.mp mem
        · rw [List.mem_cons, not_or]
          exact ⟨Ne.symm same, ih List.mem_cons_self⟩
        · exact ih (List.mem_cons_of_mem _ later)

/-- A text without the separator is all before it. -/
theorem before_of_not_mem (absent : separator ∉ text) : before separator text = text := by
  refine List.takeWhile_eq_self_iff.mpr fun c mem => ?_
  exact decide_eq_true fun same => absent (same ▸ mem)

/-- A text without the separator has nothing after it. -/
theorem after_of_not_mem (absent : separator ∉ text) : after separator text = [] := by
  have all : text.dropWhile (· ≠ separator) = [] :=
    List.dropWhile_eq_nil_iff.mpr fun c mem => decide_eq_true fun same => absent (same ▸ mem)
  rw [after, all, List.drop_nil]

/-- What stands before the first separator is the start of the text. -/
theorem before_starts (separator : Char) (text : List Char) : before separator text <+: text :=
  List.takeWhile_prefix _

/-- What stands before the first separator does not hold it. -/
theorem not_mem_before (separator : Char) (text : List Char) :
    separator ∉ before separator text := by
  intro mem
  have kept := List.mem_takeWhile_imp mem
  simp at kept

/-- What stands after the first separator is part of the text. -/
theorem mem_of_mem_after {c : Char} (mem : c ∈ after separator text) : c ∈ text :=
  (List.dropWhile_sublist _).mem ((List.drop_sublist _ _).mem mem)

/-- What is joined in front of the separator is before it. -/
theorem before_append_cons (absent : separator ∉ piece) (rest : List Char) :
    before separator (piece ++ separator :: rest) = piece := by
  have front : ∀ c ∈ piece, decide (c ≠ separator) = true :=
    fun c mem => decide_eq_true fun same => absent (same ▸ mem)
  rw [before, List.takeWhile_append_of_pos front, List.takeWhile_cons_of_neg (by simp),
    List.append_nil]

/-- What is joined behind the separator is after it. -/
theorem after_append_cons (absent : separator ∉ piece) (rest : List Char) :
    after separator (piece ++ separator :: rest) = rest := by
  have front : ∀ c ∈ piece, decide (c ≠ separator) = true :=
    fun c mem => decide_eq_true fun same => absent (same ▸ mem)
  rw [after, List.dropWhile_append_of_pos front, List.dropWhile_cons_of_neg (by simp),
    List.drop_one, List.tail_cons]

/-- The characters of joined pieces are those of the pieces, and the separator. -/
theorem eq_or_mem_of_mem_joinWith {pieces : List (List Char)} {c : Char}
    (mem : c ∈ joinWith separator pieces) : c = separator ∨ ∃ piece ∈ pieces, c ∈ piece := by
  induction pieces with
  | nil => cases mem
  | cons piece others ih =>
    cases others with
    | nil => exact .inr ⟨piece, List.mem_cons_self, mem⟩
    | cons next rest =>
      change c ∈ piece ++ separator :: joinWith separator (next :: rest) at mem
      rw [List.mem_append, List.mem_cons] at mem
      obtain first | same | later := mem
      · exact .inr ⟨piece, List.mem_cons_self, first⟩
      · exact .inl same
      · obtain same | ⟨found, inside, holds⟩ := ih later
        · exact .inl same
        · exact .inr ⟨found, List.mem_cons_of_mem _ inside, holds⟩

/-- What is joined by the separator is cut there. -/
theorem cut?_append_cons (absent : separator ∉ piece) (rest : List Char) :
    cut? separator (piece ++ separator :: rest) = some (piece, rest) := by
  induction piece with
  | nil => rw [List.nil_append, cut?, if_pos rfl]
  | cons c more ih =>
    rw [List.mem_cons, not_or] at absent
    rw [List.cons_append, cut?, if_neg (Ne.symm absent.1), ih absent.2, Option.map_some]

/-- A text without the separator is not cut. -/
theorem cut?_of_not_mem (absent : separator ∉ text) : cut? separator text = none := by
  induction text with
  | nil => rfl
  | cons c rest ih =>
    rw [List.mem_cons, not_or] at absent
    rw [cut?, if_neg (Ne.symm absent.1), ih absent.2, Option.map_none]

/-- A text that is cut is put together of its parts, and is not cut before. -/
theorem cut?_eq_some {front back : List Char} (cut : cut? separator text = some (front, back)) :
    text = front ++ separator :: back ∧ separator ∉ front := by
  induction text generalizing front with
  | nil => cases cut
  | cons c rest ih =>
    rw [cut?] at cut
    by_cases same : c = separator
    · rw [if_pos same] at cut
      cases cut
      exact ⟨same ▸ rfl, List.not_mem_nil⟩
    · rw [if_neg same] at cut
      obtain ⟨⟨first, second⟩, found, parts⟩ := Option.map_eq_some_iff.mp cut
      cases parts
      obtain ⟨rfl, absent⟩ := ih found
      exact ⟨rfl, by rw [List.mem_cons, not_or]; exact ⟨Ne.symm same, absent⟩⟩

/-- A text that is not cut does not hold the separator. -/
theorem not_mem_of_cut?_eq_none (uncut : cut? separator text = none) : separator ∉ text := by
  intro mem
  obtain ⟨front, back, rfl, absent⟩ := List.eq_append_cons_of_mem mem
  rw [cut?_append_cons absent] at uncut
  cases uncut

end QueryPipeline.Text
