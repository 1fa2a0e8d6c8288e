import QueryPipeline.Proofs.Url.Basic

/-!
# The query of a written url

The query of a url that is written is found again whatever stands before it, as long as that holds
neither of the two marks. A path that is taken for an authority, or a text that is taken for a
scheme, ends before the query does, so the parts may change where the query does not.
-/

namespace QueryPipeline.Url

open Text

variable {front tail query fragment : List Char}

/-- A text whose first part is cut off in front of a mark is left with the mark and all behind it. -/
theorem exists_of_append_eq {cut rest : List Char} (same : front ++ tail = cut ++ rest)
    (marked : ∀ c, tail.head? = some c → c ∉ cut) :
    ∃ more, front = cut ++ more ∧ rest = more ++ tail := by
  obtain ⟨more, taken, left⟩ | ⟨more, taken, left⟩ := List.append_eq_append_iff.mp same
  · cases more with
    | nil => exact ⟨[], by rw [taken, List.append_nil, List.append_nil], left.symm⟩
    | cons c others =>
      have first : c ∈ cut := taken ▸ List.mem_append_right _ List.mem_cons_self
      exact absurd first (marked c (left ▸ rfl))
  · exact ⟨more, taken, left⟩

/-- A tail that is kept and starts visibly is left as it is when the whole text is cleaned. -/
theorem clean_append (kept : ∀ c ∈ tail, IsKept c)
    (visible : ∀ c, tail.head? = some c → 0x20 < c.toNat) :
    clean (front ++ tail) = clean front ++ tail := by
  have same : clean tail = tail := clean_eq_self kept visible
  rw [clean] at same
  rw [clean, clean, List.dropWhile_append]
  split
  · next none =>
    rw [List.isEmpty_iff.mp none, same]
    rfl
  · rw [List.filter_append, List.filter_eq_self.mpr fun c mem => decide_eq_true (kept c mem)]

/-- Cleaning adds nothing to a text. -/
theorem mem_of_mem_clean {text : List Char} {c : Char} (mem : c ∈ clean text) : c ∈ text :=
  (List.dropWhile_sublist _).mem (List.mem_filter.mp mem).1

/-- A scheme is taken from what stands before a mark. -/
theorem exists_takeScheme_append (ends : ∀ c, tail.head? = some c → c = '?' ∨ c = '#') :
    ∃ scheme more, takeScheme (front ++ tail) = (scheme, more ++ tail) ∧ more ⊆ front := by
  obtain ⟨scheme, rest, same, named, taken⟩ | ⟨-, taken⟩ := takeScheme_cases (front ++ tail)
  · have marked : ∀ c, tail.head? = some c → c ∉ scheme ++ [':'] := by
      rw [isSchemeName, Bool.and_eq_true, List.all_eq_true] at named
      intro c head mem
      obtain inside | colon := List.mem_append.mp mem
      · obtain rfl | rfl := ends c head <;> exact absurd (named.2 _ inside) (by decide)
      · obtain rfl | rfl := ends c head <;> exact absurd (List.mem_singleton.mp colon) (by decide)
    rw [List.append_cons] at same
    obtain ⟨more, whole, rfl⟩ := exists_of_append_eq same marked
    exact ⟨_, more, taken, whole ▸ List.subset_append_right _ _⟩
  · exact ⟨[], front, taken, List.Subset.refl _⟩

/-- An authority is taken from what stands before a mark. -/
theorem exists_takeAuthority_append (ends : ∀ c, tail.head? = some c → c = '?' ∨ c = '#') :
    ∃ authority more, takeAuthority (front ++ tail) = (authority, more ++ tail) ∧
      more ⊆ front := by
  obtain ⟨authority, rest, same, found, inside, -⟩ | found := takeAuthority_cases (front ++ tail)
  · have marked : ∀ c, tail.head? = some c → c ∉ '/' :: '/' :: authority := by
      intro c head mem
      rw [List.mem_cons, List.mem_cons] at mem
      obtain slash | slash | mem := mem
      · obtain rfl | rfl := ends c head <;> exact absurd slash (by decide)
      · obtain rfl | rfl := ends c head <;> exact absurd slash (by decide)
      · obtain rfl | rfl := ends c head <;> exact absurd (inside _ mem) (by decide)
    obtain ⟨more, whole, rfl⟩ := exists_of_append_eq same marked
    exact ⟨authority, more, found, whole ▸ List.subset_append_right _ _⟩
  · exact ⟨[], front, found, List.Subset.refl _⟩

/-- A query is found again behind a text that holds no mark. -/
theorem query_split_append (question : '?' ∉ front) (number : '#' ∉ front) (plain : '#' ∉ query)
    (kept : ∀ c ∈ query ++ fragment, IsKept c) :
    (split (front ++ (optional '?' query ++ optional '#' fragment))).query = query := by
  have ends : ∀ c, (optional '?' query ++ optional '#' fragment).head? = some c →
      c = '?' ∨ c = '#' := fun _ => eq_of_head?_marks
  have cleaned : clean (front ++ (optional '?' query ++ optional '#' fragment)) =
      clean front ++ (optional '?' query ++ optional '#' fragment) := by
    rw [List.forall_mem_append] at kept
    refine clean_append (fun c mem => ?_) fun c head => ?_
    · obtain mark | mark := List.mem_append.mp mem
      · obtain rfl | inside := eq_or_mem_of_mem_optional mark
        · decide
        · exact kept.1 c inside
      · obtain rfl | inside := eq_or_mem_of_mem_optional mark
        · decide
        · exact kept.2 c inside
    · obtain rfl | rfl := ends c head <;> decide
  obtain ⟨scheme, rest, taken, fromFront⟩ := @exists_takeScheme_append (clean front) _ ends
  obtain ⟨authority, path, found, fromRest⟩ := @exists_takeAuthority_append rest _ ends
  have inFront : path ⊆ front := fun c mem => mem_of_mem_clean (fromFront (fromRest mem))
  have unnumbered : '#' ∉ path ++ optional '?' query := by
    intro mem
    obtain inside | mark := List.mem_append.mp mem
    · exact number (inFront inside)
    · obtain same | inside := eq_or_mem_of_mem_optional mark
      · exact absurd same (by decide)
      · exact plain inside
  rw [← cleaned] at taken
  rw [split_eq taken found]
  dsimp only
  rw [← List.append_assoc, before_append_optional unnumbered,
    after_append_optional fun mem => question (inFront mem)]

/-- What stands before the query of a url that was read holds no mark. -/
theorem not_mem_front_split (text : List Char) {mark : Char} (marks : mark = '?' ∨ mark = '#') :
    mark ∉ (split text).schemePart ++ (split text).place := by
  obtain ⟨scheme, rest, taken, named, kept, -⟩ := exists_takeScheme_clean text
  obtain ⟨authority, whole, found, inside, -, -⟩ := exists_takeAuthority kept
  rw [split_eq taken found, List.mem_append, not_or]
  constructor
  · intro mem
    rw [schemePart] at mem
    split at mem
    · cases mem
    · next some =>
      obtain empty | ⟨named, -⟩ := named
      · exact absurd (List.isEmpty_iff.mpr empty) some
      · rw [isSchemeName, Bool.and_eq_true, List.all_eq_true] at named
        obtain letter | colon := List.mem_append.mp mem
        · obtain rfl | rfl := marks <;> exact absurd (named.2 _ letter) (by decide)
        · obtain rfl | rfl := marks <;> exact absurd (List.mem_singleton.mp colon) (by decide)
  · intro mem
    obtain slash | mem | mem := eq_or_mem_of_mem_place mem
    · obtain rfl | rfl := marks <;> exact absurd slash (by decide)
    · obtain rfl | rfl := marks <;> exact absurd (inside _ mem) (by decide)
    · obtain rfl | rfl := marks
      · exact not_mem_before '?' _ mem
      · exact not_mem_before '#' whole ((before_starts '?' _).subset mem)

/-- The fragment of a url that was read is kept. -/
theorem isKept_of_mem_fragment (text : List Char) : ∀ c ∈ (split text).fragment, IsKept c := by
  obtain ⟨scheme, rest, taken, -, kept, -⟩ := exists_takeScheme_clean text
  obtain ⟨authority, whole, found, -, -, keptWhole⟩ := exists_takeAuthority kept
  rw [split_eq taken found]
  exact fun c mem => keptWhole c (mem_of_mem_after mem)

/-- A url that was read is written with another query, and that query is read, even where a path
is taken for an authority. -/
theorem query_split_write (text : List Char) (plain : '#' ∉ query) (kept : ∀ c ∈ query, IsKept c) :
    (split { split text with query }.write).query = query := by
  have question := not_mem_front_split text (.inl (Eq.refl '?'))
  have number := not_mem_front_split text (.inr (Eq.refl '#'))
  rw [write_eq, ← List.append_assoc]
  exact query_split_append question number plain
    (List.forall_mem_append.mpr ⟨kept, isKept_of_mem_fragment text⟩)

end QueryPipeline.Url
