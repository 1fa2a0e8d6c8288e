/-!
# Cutting texts at a separator

Texts are lists of characters throughout the library. A text can be cut at the first occurrence of
a character, at the last one, or at every one of them; the pieces of a cut at every occurrence,
joined by the separator again, are the text.
-/

namespace QueryPipeline.Text

/-- The pieces between all occurrences of a separator; a text without one is its own only piece. -/
def splitOn (separator : Char) : List Char → List (List Char)
  | [] => [[]]
  | c :: rest =>
    if c = separator then [] :: splitOn separator rest
    else
      match splitOn separator rest with
      | [] => [[c]]
      | piece :: pieces => (c :: piece) :: pieces

/-- The text before the first separator and the text after it, if a separator occurs. -/
def cut? (separator : Char) : List Char → Option (List Char × List Char)
  | [] => none
  | c :: rest =>
    if c = separator then some ([], rest)
    else (cut? separator rest).map fun (before, after) => (c :: before, after)

/-- The text before the first separator, or all of it. -/
def before (separator : Char) (text : List Char) : List Char :=
  text.takeWhile (· ≠ separator)

/-- The text after the first separator, or nothing. -/
def after (separator : Char) (text : List Char) : List Char :=
  (text.dropWhile (· ≠ separator)).drop 1

/-- The text after the last separator, or all of it. -/
def afterLast (separator : Char) (text : List Char) : List Char :=
  (text.reverse.takeWhile (· ≠ separator)).reverse

/-- The pieces joined by a separator. -/
def joinWith (separator : Char) : List (List Char) → List Char
  | [] => []
  | [piece] => piece
  | piece :: pieces => piece ++ separator :: joinWith separator pieces

/-- A text always has at least one piece. -/
theorem splitOn_ne_nil (separator : Char) (text : List Char) : splitOn separator text ≠ [] := by
  cases text with
  | nil => simp [splitOn]
  | cons c rest =>
    simp only [splitOn]
    split
    · simp
    · split <;> simp

/-- Joining the pieces of a text gives the text back. -/
theorem joinWith_splitOn (separator : Char) (text : List Char) :
    joinWith separator (splitOn separator text) = text := by
  induction text with
  | nil => rfl
  | cons c rest ih =>
    have nonempty := splitOn_ne_nil separator rest
    rw [splitOn]
    cases pieces : splitOn separator rest with
    | nil => exact absurd pieces nonempty
    | cons piece others =>
      rw [pieces] at ih
      by_cases same : c = separator
      · rw [if_pos same]
        simp only [joinWith, List.nil_append]
        rw [ih, same]
      · rw [if_neg same]
        cases others with
        | nil => simpa [joinWith] using ih
        | cons next tail => simpa [joinWith] using ih

end QueryPipeline.Text
