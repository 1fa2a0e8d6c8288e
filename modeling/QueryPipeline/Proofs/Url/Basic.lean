import QueryPipeline.Proofs.Text.Split
import QueryPipeline.Url.Basic

/-!
# Urls read back

A url that is written from the parts of a url that was read is read as the same parts, its query
apart, which may be another. Only a path without an authority can change: it gets the slash that
stands behind an authority, once. There is one exception: a path that starts with two slashes and
has no authority before it would be taken for one.
-/

namespace QueryPipeline.Url

open Text

/-- Letters and digits belong to ASCII. -/
theorem toNat_lt_of_isAlphanum {c : Char} (alphanum : c.isAlphanum = true) : c.toNat < 0x80 := by
  have below : ∀ last : Char, last.toNat < 0x80 → c.val ≤ last.val → c.toNat < 0x80 :=
    fun last small within => (UInt32.le_iff_toNat_le.mp within).trans_lt small
  have ranges : ((c.isUpper || c.isLower) || c.isDigit) = true := alphanum
  rw [Bool.or_eq_true, Bool.or_eq_true] at ranges
  obtain (upper | lower) | digit := ranges
  · exact below 'Z' (by decide) (of_decide_eq_true upper).2
  · exact below 'z' (by decide) (of_decide_eq_true (Bool.and_eq_true_iff.mp lower).2)
  · exact below '9' (by decide) (of_decide_eq_true (Bool.and_eq_true_iff.mp digit).2)

/-- Characters of a scheme belong to ASCII. -/
theorem toNat_lt_of_isSchemeChar {c : Char} (inside : isSchemeChar c = true) :
    c.toNat < 0x80 := by
  simp only [isSchemeChar, Bool.or_eq_true, beq_iff_eq] at inside
  obtain ((alphanum | rfl) | rfl) | rfl := inside
  · exact toNat_lt_of_isAlphanum alphanum
  all_goals decide

/-- The lower case of a character of a scheme is one too, in lower case, and a letter if it was. -/
theorem toLower_of_isSchemeChar {c : Char} (inside : isSchemeChar c = true) :
    isSchemeChar c.toLower = true ∧ c.toLower.toLower = c.toLower ∧
      (c.isAlpha = true → c.toLower.isAlpha = true) := by
  have all : ∀ n < 0x80, isSchemeChar (Char.ofNat n) = true →
      isSchemeChar (Char.ofNat n).toLower = true ∧
        (Char.ofNat n).toLower.toLower = (Char.ofNat n).toLower ∧
          ((Char.ofNat n).isAlpha = true → (Char.ofNat n).toLower.isAlpha = true) := by
    decide
  have same := all c.toNat (toNat_lt_of_isSchemeChar inside)
  rw [Char.ofNat_toNat] at same
  exact same inside

/-- Whether a text is the name of a scheme. -/
def isSchemeName (text : List Char) : Bool :=
  (text.head?.map Char.isAlpha).getD false && text.all isSchemeChar

/-- The lower case of the name of a scheme is one too, in lower case. -/
theorem isSchemeName_toLower {scheme : List Char} (named : isSchemeName scheme = true) :
    isSchemeName (scheme.map Char.toLower) = true ∧
      (scheme.map Char.toLower).map Char.toLower = scheme.map Char.toLower := by
  rw [isSchemeName, Bool.and_eq_true, List.all_eq_true] at named
  obtain ⟨letter, all⟩ := named
  constructor
  · rw [isSchemeName, Bool.and_eq_true, List.all_map, List.all_eq_true]
    refine ⟨?_, fun c mem => (toLower_of_isSchemeChar (all c mem)).1⟩
    cases scheme with
    | nil => cases letter
    | cons c rest => exact (toLower_of_isSchemeChar (all c List.mem_cons_self)).2.2 letter
  · rw [List.map_map]
    exact List.map_congr_left fun c mem => (toLower_of_isSchemeChar (all c mem)).2.1

/-- A text starts with a scheme. -/
def HasScheme (text : List Char) : Prop :=
  ∃ scheme rest, text = scheme ++ ':' :: rest ∧ isSchemeName scheme = true

/-- No colon stands in the name of a scheme. -/
theorem not_mem_of_isSchemeName {scheme : List Char} (named : isSchemeName scheme = true) :
    ':' ∉ scheme := by
  intro mem
  rw [isSchemeName, Bool.and_eq_true, List.all_eq_true] at named
  exact absurd (named.2 _ mem) (by decide)

/-- A scheme is taken in lower case. -/
theorem takeScheme_append_cons {scheme : List Char} (named : isSchemeName scheme = true)
    (rest : List Char) :
    takeScheme (scheme ++ ':' :: rest) = (scheme.map Char.toLower, rest) := by
  rw [takeScheme, cut?_append_cons (not_mem_of_isSchemeName named)]
  exact if_pos named

/-- No scheme is taken from a text that does not start with one. -/
theorem takeScheme_of_not_hasScheme {text : List Char} (none : ¬HasScheme text) :
    takeScheme text = ([], text) := by
  by_cases colon : ':' ∈ text
  · obtain ⟨scheme, rest, rfl, absent⟩ := List.eq_append_cons_of_mem colon
    rw [takeScheme, cut?_append_cons absent]
    exact if_neg fun named => none ⟨scheme, rest, rfl, named⟩
  · rw [takeScheme, cut?_of_not_mem colon]

/-- A text whose first part starts with a scheme does. -/
theorem HasScheme.append {front : List Char} (starts : HasScheme front) (rest : List Char) :
    HasScheme (front ++ rest) := by
  obtain ⟨scheme, others, rfl, named⟩ := starts
  exact ⟨scheme, others ++ rest, by simp, named⟩

/-- A text starts with a scheme where its first part does, unless the scheme goes on behind it. -/
theorem hasScheme_append_iff {front rest : List Char}
    (ends : ∀ c, rest.head? = some c → isSchemeChar c = false ∧ c ≠ ':') :
    HasScheme (front ++ rest) ↔ HasScheme front := by
  constructor
  · rintro ⟨scheme, others, same, named⟩
    obtain ⟨more, rfl, behind⟩ | ⟨more, rfl, behind⟩ := List.append_eq_append_iff.mp same
    · rw [isSchemeName, Bool.and_eq_true, List.all_eq_true] at named
      cases more with
      | nil => exact absurd rfl (ends ':' (by rw [behind]; rfl)).2
      | cons c others =>
        have goes := named.2 c (List.mem_append_right _ List.mem_cons_self)
        rw [(ends c (by rw [behind]; rfl)).1] at goes
        cases goes
    · cases more with
      | nil => exact absurd rfl (ends ':' (by rw [← List.nil_append rest, ← behind]; rfl)).2
      | cons c others =>
        obtain ⟨rfl, -⟩ := List.cons.inj behind
        exact ⟨scheme, others, rfl, named⟩
  · exact fun starts => starts.append rest

/-- A text that starts with a slash starts with no scheme. -/
theorem not_hasScheme_of_slash {text : List Char} (slash : text.head? = some '/') :
    ¬HasScheme text := by
  rintro ⟨scheme, rest, rfl, named⟩
  rw [isSchemeName, Bool.and_eq_true] at named
  cases scheme with
  | nil => exact absurd named.1 (by decide)
  | cons c more =>
    obtain rfl : c = '/' := by simpa using slash
    exact absurd named.1 (by simp)

/-- No authority is taken from a text that does not start with two slashes. -/
theorem takeAuthority_of_not {text : List Char} (apart : ¬['/', '/'] <+: text) :
    takeAuthority text = ([], text) := by
  rw [takeAuthority]
  rintro rest rfl
  exact apart ⟨rest, rfl⟩

/-- An authority is taken up to the character that ends it. -/
theorem takeAuthority_append {authority rest : List Char}
    (inside : ∀ c ∈ authority, endsAuthority c = false)
    (ends : ∀ c, rest.head? = some c → endsAuthority c = true) :
    takeAuthority ('/' :: '/' :: authority ++ rest) = (authority, rest) := by
  have front : ∀ c ∈ authority, (!endsAuthority c) = true := by
    intro c mem
    rw [inside c mem]
    rfl
  rw [List.cons_append, List.cons_append, takeAuthority, List.takeWhile_append_of_pos front,
    List.dropWhile_append_of_pos front]
  cases rest with
  | nil => simp
  | cons c more => simp [ends c rfl]

/-- A part behind its mark, unless it is empty. -/
def optional (mark : Char) (part : List Char) : List Char :=
  if part.isEmpty then [] else mark :: part

/-- The first character of a part behind its mark is the mark. -/
theorem eq_of_head?_optional {mark c : Char} {part : List Char}
    (head : (optional mark part).head? = some c) : c = mark := by
  rw [optional] at head
  split at head
  · cases head
  · exact (Option.some.inj head).symm

/-- What follows the path starts with one of the two marks. -/
theorem eq_of_head?_marks {c : Char} {query fragment : List Char}
    (head : (optional '?' query ++ optional '#' fragment).head? = some c) : c = '?' ∨ c = '#' := by
  rw [List.head?_append, Option.or_eq_some_iff] at head
  obtain mark | ⟨-, mark⟩ := head
  · exact .inl (eq_of_head?_optional mark)
  · exact .inr (eq_of_head?_optional mark)

/-- What stands before a part with a mark is found again. -/
theorem before_append_optional {mark : Char} {front : List Char} (absent : mark ∉ front)
    (part : List Char) : before mark (front ++ optional mark part) = front := by
  rw [optional]
  split
  · rw [List.append_nil, before_of_not_mem absent]
  · exact before_append_cons absent part

/-- A part with a mark is found again. -/
theorem after_append_optional {mark : Char} {front : List Char} (absent : mark ∉ front)
    (part : List Char) : after mark (front ++ optional mark part) = part := by
  rw [optional]
  split
  · next empty =>
    rw [List.append_nil, after_of_not_mem absent, List.isEmpty_iff.mp empty]
  · exact after_append_cons absent part

/-- The characters of a part with a mark are those of the part, and the mark. -/
theorem eq_or_mem_of_mem_optional {mark c : Char} {part : List Char}
    (mem : c ∈ optional mark part) : c = mark ∨ c ∈ part := by
  rw [optional] at mem
  split at mem
  · cases mem
  · exact List.mem_cons.mp mem

/-- A character that reading keeps wherever it stands. -/
abbrev IsKept (c : Char) : Prop := c ≠ '\t' ∧ c ≠ '\r' ∧ c ≠ '\n'

/-- A text is read as it is where all of it is kept and it starts with no control character. -/
theorem clean_eq_self {text : List Char} (kept : ∀ c ∈ text, IsKept c)
    (start : ∀ c, text.head? = some c → 0x20 < c.toNat) : clean text = text := by
  have first : text.dropWhile (fun c => c.toNat ≤ 0x20) = text := by
    cases text with
    | nil => rfl
    | cons c rest =>
      have visible := start c rfl
      exact List.dropWhile_cons_of_neg (by simpa using visible)
  rw [clean, first]
  exact List.filter_eq_self.mpr fun c mem => decide_eq_true (kept c mem)

/-- All of what is read of a text is kept. -/
theorem isKept_of_mem_clean {text : List Char} {c : Char} (mem : c ∈ clean text) : IsKept c := by
  have kept := (List.mem_filter.mp mem).2
  exact of_decide_eq_true kept

/-- What is read of a text starts with no control character. -/
theorem lt_of_head?_clean {text : List Char} {c : Char} (head : (clean text).head? = some c) :
    0x20 < c.toNat := by
  rw [clean] at head
  cases first : text.dropWhile (fun c => c.toNat ≤ 0x20) with
  | nil =>
    rw [first] at head
    cases head
  | cons d rest =>
    have visible : 0x20 < d.toNat := by
      have fails := List.head?_dropWhile_not (fun c : Char => decide (c.toNat ≤ 0x20)) text
      rw [first] at fails
      exact Nat.not_le.mp (of_decide_eq_false fails)
    have kept : IsKept d := by
      refine ⟨?_, ?_, ?_⟩ <;>
      · rintro rfl
        exact absurd visible (by decide)
    rw [first, List.filter_cons_of_pos (by exact decide_eq_true kept)] at head
    exact Option.some.inj head ▸ visible

/-- A character of a scheme is no control character and no space. -/
theorem visible_of_isSchemeChar {c : Char} (inside : isSchemeChar c = true) :
    0x20 < c.toNat ∧ IsKept c := by
  have all : ∀ n < 0x80, isSchemeChar (Char.ofNat n) = true →
      0x20 < n ∧ IsKept (Char.ofNat n) := by
    decide
  have same := all c.toNat (toNat_lt_of_isSchemeChar inside)
  rw [Char.ofNat_toNat] at same
  exact same inside

/-- Parts that are taken for the same parts when they are written. -/
structure IsSound (url : Url) : Prop where
  /-- The scheme is one in lower case, if there is one. -/
  scheme : url.scheme = [] ∨
    (isSchemeName url.scheme = true ∧ url.scheme.map Char.toLower = url.scheme)
  /-- Nothing ends the authority early. -/
  authority : ∀ c ∈ url.authority, endsAuthority c = false
  /-- No mark ends the path early. -/
  path : '?' ∉ url.path ∧ '#' ∉ url.path
  /-- No mark ends the query early. -/
  query : '#' ∉ url.query
  /-- Reading drops none of it. -/
  kept : ∀ c ∈ url.authority ++ url.path ++ url.query ++ url.fragment, IsKept c
  /-- A path that comes first is not taken for anything else. -/
  start : url.scheme = [] → url.authority = [] →
    ¬HasScheme url.path ∧ ∀ c, url.path.head? = some c → 0x20 < c.toNat
  /-- A path is not taken for an authority. -/
  apart : url.authority ≠ [] ∨ ¬['/', '/'] <+: url.path

/-- The path as it is written. -/
def writtenPath (url : Url) : List Char := if url.hasAuthority then rooted url.path else url.path

/-- The parts of a url once it has been written and read. -/
def settled (url : Url) : Url := { url with path := url.writtenPath }

/-- The authority and the path as they are written. -/
def place (url : Url) : List Char :=
  if url.hasAuthority then '/' :: '/' :: url.authority ++ url.writtenPath else url.writtenPath

/-- Without an authority the path stands as it is. -/
theorem writtenPath_of_not_hasAuthority {url : Url} (none : url.hasAuthority = false) :
    url.writtenPath = url.path := by
  rw [writtenPath, none, if_neg Bool.false_ne_true]

/-- Without an authority the path stands alone. -/
theorem place_of_not_hasAuthority {url : Url} (none : url.hasAuthority = false) :
    url.place = url.path := by
  rw [place, none, if_neg Bool.false_ne_true, writtenPath_of_not_hasAuthority none]

/-- An authority stands behind two slashes. -/
theorem place_of_hasAuthority {url : Url} (some : url.hasAuthority = true) :
    url.place = '/' :: '/' :: url.authority ++ url.writtenPath := by
  rw [place, some, if_pos rfl]

/-- The scheme as it is written. -/
def schemePart (url : Url) : List Char := if url.scheme.isEmpty then [] else url.scheme ++ [':']

/-- A url is written part by part. -/
theorem write_eq (url : Url) :
    url.write = url.schemePart ++
      (url.place ++ (optional '?' url.query ++ optional '#' url.fragment)) := by
  cases has : url.hasAuthority <;>
    simp [write, place, writtenPath, schemePart, optional, has]

/-- A path starts with a slash behind an authority, unless it is empty. -/
theorem head?_rooted {path : List Char} {c : Char} (head : (rooted path).head? = some c) :
    c = '/' := by
  rw [rooted] at head
  split at head
  · next slash =>
    rw [Bool.or_eq_true, beq_iff_eq] at slash
    obtain empty | first := slash
    · rw [List.isEmpty_iff.mp empty] at head
      cases head
    · exact Option.some.inj (head.symm.trans first)
  · exact (Option.some.inj head).symm

/-- The characters of a path behind an authority are those of the path, and the slash. -/
theorem eq_or_mem_of_mem_rooted {path : List Char} {c : Char} (mem : c ∈ rooted path) :
    c = '/' ∨ c ∈ path := by
  rw [rooted] at mem
  split at mem
  · exact .inr mem
  · exact List.mem_cons.mp mem

/-- A mark that the path does not hold is not in the written path either. -/
theorem not_mem_writtenPath {url : Url} {mark : Char} (absent : mark ∉ url.path)
    (other : mark ≠ '/') : mark ∉ url.writtenPath := by
  rw [writtenPath]
  split
  · intro mem
    obtain slash | inside := eq_or_mem_of_mem_rooted mem
    · exact other slash
    · exact absent inside
  · exact absent

/-- The characters of the authority and the path are written, and slashes. -/
theorem eq_or_mem_of_mem_place {url : Url} {c : Char} (mem : c ∈ url.place) :
    c = '/' ∨ c ∈ url.authority ∨ c ∈ url.path := by
  have path : ∀ c ∈ url.writtenPath, c = '/' ∨ c ∈ url.path := by
    intro c mem
    rw [writtenPath] at mem
    split at mem
    · exact eq_or_mem_of_mem_rooted mem
    · exact .inr mem
  rw [place] at mem
  split at mem
  · rw [List.mem_append, List.mem_cons, List.mem_cons] at mem
    obtain (slash | slash | inside) | inside := mem
    · exact .inl slash
    · exact .inl slash
    · exact .inr (.inl inside)
    · exact (path c inside).imp_right .inr
  · exact (path c mem).imp_right .inr

/-- A url without an authority writes none. -/
theorem authority_eq_nil {url : Url} (none : url.hasAuthority = false) : url.authority = [] := by
  rw [hasAuthority, Bool.or_eq_false_iff, Bool.not_eq_false', List.isEmpty_iff] at none
  exact none.1

/-- A path that does not start with two slashes does not do so before what is no slash. -/
theorem not_slashes_append {path rest : List Char} (apart : ¬['/', '/'] <+: path)
    (ends : ∀ c, rest.head? = some c → c ≠ '/') : ¬['/', '/'] <+: path ++ rest := by
  rintro ⟨more, same⟩
  match path with
  | [] =>
    rw [List.nil_append] at same
    exact ends '/' (by rw [← same]; rfl) rfl
  | [c] =>
    obtain ⟨-, behind⟩ := List.cons.inj same
    have next : '/' :: more = rest := behind
    exact ends '/' (by rw [← next]; rfl) rfl
  | c :: d :: others =>
    obtain ⟨rfl, behind⟩ := List.cons.inj same
    obtain ⟨rfl, -⟩ := List.cons.inj behind
    exact apart ⟨others, rfl⟩

/-- A text is taken apart into a scheme in lower case and what follows it, or it has none. -/
theorem takeScheme_cases (text : List Char) :
    (∃ scheme rest, text = scheme ++ ':' :: rest ∧ isSchemeName scheme = true ∧
      takeScheme text = (scheme.map Char.toLower, rest)) ∨
      (¬HasScheme text ∧ takeScheme text = ([], text)) := by
  by_cases starts : HasScheme text
  · obtain ⟨scheme, rest, rfl, named⟩ := starts
    exact .inl ⟨scheme, rest, rfl, named, takeScheme_append_cons named rest⟩
  · exact .inr ⟨starts, takeScheme_of_not_hasScheme starts⟩

/-- A text is taken apart into an authority and what ends it, or it has none. -/
theorem takeAuthority_cases (text : List Char) :
    (∃ authority rest, text = '/' :: '/' :: authority ++ rest ∧
      takeAuthority text = (authority, rest) ∧ (∀ c ∈ authority, endsAuthority c = false) ∧
      ∀ c, rest.head? = some c → endsAuthority c = true) ∨
      takeAuthority text = ([], text) := by
  by_cases slashes : ['/', '/'] <+: text
  · obtain ⟨more, rfl⟩ := slashes
    refine .inl ⟨more.takeWhile (!endsAuthority ·), more.dropWhile (!endsAuthority ·), ?_, rfl,
      ?_, ?_⟩
    · change '/' :: '/' :: more = '/' :: '/' :: (more.takeWhile _ ++ more.dropWhile _)
      rw [List.takeWhile_append_dropWhile]
    · intro c mem
      simpa using List.mem_takeWhile_imp mem
    · intro c head
      have fails := List.head?_dropWhile_not (!endsAuthority ·) more
      rw [head] at fails
      simpa using fails
  · exact .inr (takeAuthority_of_not slashes)

/-- A url is split into its scheme, its authority and what follows that. -/
theorem split_eq {text scheme rest authority whole : List Char}
    (taken : takeScheme (clean text) = (scheme, rest))
    (found : takeAuthority rest = (authority, whole)) :
    split text = ⟨scheme, authority, before '?' (before '#' whole), after '?' (before '#' whole),
      after '#' whole⟩ := by
  rw [split, taken]
  dsimp only
  rw [found]

/-- The path is the start of what it is taken from. -/
theorem path_starts (whole : List Char) : before '?' (before '#' whole) <+: whole :=
  (before_starts '?' _).trans (before_starts '#' whole)

/-- The first character of a path is the first of what it is taken from, and no mark. -/
theorem head?_path {whole : List Char} {c : Char}
    (head : (before '?' (before '#' whole)).head? = some c) :
    whole.head? = some c ∧ c ≠ '?' ∧ c ≠ '#' := by
  have inside : c ∈ before '?' (before '#' whole) := List.mem_of_mem_head? head
  refine ⟨?_, ?_, ?_⟩
  · obtain ⟨rest, same⟩ := path_starts whole
    rw [← same, List.head?_append, head]
    rfl
  · rintro rfl
    exact not_mem_before _ _ inside
  · rintro rfl
    exact not_mem_before _ _ ((before_starts _ _).subset inside)

/-- A path that comes first, behind no scheme or authority, is not taken for anything else. -/
theorem start_of_split {rest whole : List Char} (bare : ¬HasScheme rest)
    (visible : ∀ c, rest.head? = some c → 0x20 < c.toNat)
    (found : takeAuthority rest = ([], whole)) :
    ¬HasScheme (before '?' (before '#' whole)) ∧
      ∀ c, (before '?' (before '#' whole)).head? = some c → 0x20 < c.toNat := by
  obtain ⟨authority, more, rfl, taken, -, ends⟩ | none := takeAuthority_cases rest
  · obtain ⟨-, rfl⟩ := Prod.mk.inj (taken.symm.trans found)
    have slash : ∀ c, (before '?' (before '#' more)).head? = some c → c = '/' := by
      intro c head
      obtain ⟨first, question, number⟩ := head?_path head
      simpa [endsAuthority, question, number] using ends c first
    constructor
    · cases path : before '?' (before '#' more) with
      | nil =>
        rintro ⟨scheme, others, same, -⟩
        simp at same
      | cons c others =>
        have same := slash c (by rw [path]; rfl)
        exact not_hasScheme_of_slash (by rw [same]; rfl)
    · intro c head
      rw [slash c head]
      decide
  · obtain ⟨-, rfl⟩ := Prod.mk.inj (none.symm.trans found)
    constructor
    · intro starts
      obtain ⟨more, same⟩ := path_starts rest
      exact bare (same ▸ starts.append more)
    · exact fun c head => visible c (head?_path head).1

/-- What is read of a text falls into a sound scheme and what follows it; what follows no scheme
starts with none and with no control character. -/
theorem exists_takeScheme_clean (text : List Char) :
    ∃ scheme rest, takeScheme (clean text) = (scheme, rest) ∧
      (scheme = [] ∨ (isSchemeName scheme = true ∧ scheme.map Char.toLower = scheme)) ∧
      (∀ c ∈ rest, IsKept c) ∧
      (scheme = [] → ¬HasScheme rest ∧ ∀ c, rest.head? = some c → 0x20 < c.toNat) := by
  obtain ⟨scheme, rest, same, named, taken⟩ | ⟨bare, taken⟩ := takeScheme_cases (clean text)
  · refine ⟨_, rest, taken, .inr (isSchemeName_toLower named), fun c mem => ?_, fun empty => ?_⟩
    · have inside : c ∈ clean text := by
        rw [same]
        exact List.mem_append_right _ (List.mem_cons_of_mem _ mem)
      exact isKept_of_mem_clean inside
    · rw [List.map_eq_nil_iff.mp empty] at named
      cases named
  · exact ⟨[], _, taken, .inl rfl, fun c => isKept_of_mem_clean,
      fun _ => ⟨bare, fun c => lt_of_head?_clean⟩⟩

/-- A text that is kept falls into an authority and what follows it, and both are kept. -/
theorem exists_takeAuthority {text : List Char} (kept : ∀ c ∈ text, IsKept c) :
    ∃ authority whole, takeAuthority text = (authority, whole) ∧
      (∀ c ∈ authority, endsAuthority c = false) ∧ (∀ c ∈ authority, IsKept c) ∧
      ∀ c ∈ whole, IsKept c := by
  obtain ⟨authority, whole, rfl, found, inside, -⟩ | found := takeAuthority_cases text
  · rw [List.forall_mem_append, List.forall_mem_cons, List.forall_mem_cons] at kept
    exact ⟨authority, whole, found, inside, kept.1.2.2, kept.2⟩
  · exact ⟨[], text, found, List.forall_mem_nil _, List.forall_mem_nil _, kept⟩

/-- The parts of a text are sound, unless a path would be taken for an authority. -/
theorem isSound_split {text : List Char}
    (apart : (split text).authority ≠ [] ∨ ¬['/', '/'] <+: (split text).path) :
    (split text).IsSound := by
  obtain ⟨scheme, rest, taken, named, kept, bare⟩ := exists_takeScheme_clean text
  obtain ⟨authority, whole, found, inside, keptAuthority, keptWhole⟩ := exists_takeAuthority kept
  rw [split_eq taken found] at apart ⊢
  have front := before_starts '#' whole
  have path := path_starts whole
  exact
    { scheme := named
      authority := inside
      path := ⟨not_mem_before _ _, fun mem => not_mem_before '#' whole
        ((before_starts '?' _).subset mem)⟩
      query := fun mem => not_mem_before '#' whole (mem_of_mem_after mem)
      kept := by
        rw [List.forall_mem_append, List.forall_mem_append, List.forall_mem_append]
        exact ⟨⟨⟨keptAuthority, fun c mem => keptWhole c (path.subset mem)⟩,
          fun c mem => keptWhole c (front.subset (mem_of_mem_after mem))⟩,
          fun c mem => keptWhole c (mem_of_mem_after mem)⟩
      start := by
        rintro rfl rfl
        exact start_of_split (bare rfl).1 (bare rfl).2 found
      apart }

namespace IsSound

variable {url : Url} (sound : url.IsSound)
include sound

/-- The authority is found again. -/
theorem takeAuthority_place {rest : List Char}
    (ends : ∀ c, rest.head? = some c → c = '?' ∨ c = '#') :
    takeAuthority (url.place ++ rest) = (url.authority, url.writtenPath ++ rest) := by
  cases has : url.hasAuthority with
  | true =>
    have closes : ∀ c, (url.writtenPath ++ rest).head? = some c → endsAuthority c = true := by
      intro c head
      rw [List.head?_append, Option.or_eq_some_iff, writtenPath, has] at head
      obtain path | ⟨-, mark⟩ := head
      · rw [head?_rooted path]
        rfl
      · obtain rfl | rfl := ends c mark <;> rfl
    rw [place_of_hasAuthority has, List.append_assoc]
    exact takeAuthority_append sound.authority closes
  | false =>
    have none := authority_eq_nil has
    have apart := sound.apart.resolve_left (not_not_intro none)
    have other : ∀ c, rest.head? = some c → c ≠ '/' := by
      intro c head
      obtain rfl | rfl := ends c head <;> decide
    rw [place_of_not_hasAuthority has, writtenPath_of_not_hasAuthority has, none]
    exact takeAuthority_of_not (not_slashes_append apart other)

/-- The scheme is found again. -/
theorem takeScheme_write {rest : List Char}
    (ends : ∀ c, rest.head? = some c → c = '?' ∨ c = '#') :
    takeScheme (url.schemePart ++ (url.place ++ rest)) = (url.scheme, url.place ++ rest) := by
  obtain empty | ⟨named, lower⟩ := sound.scheme
  · have without : ¬HasScheme (url.place ++ rest) := by
      cases has : url.hasAuthority with
      | true =>
        rw [place_of_hasAuthority has]
        exact not_hasScheme_of_slash rfl
      | false =>
        have path := (sound.start empty (authority_eq_nil has)).1
        have other : ∀ c, rest.head? = some c → isSchemeChar c = false ∧ c ≠ ':' := by
          intro c head
          obtain rfl | rfl := ends c head <;> decide
        rw [place_of_not_hasAuthority has]
        exact mt (hasScheme_append_iff other).mp path
    rw [schemePart, empty]
    exact takeScheme_of_not_hasScheme without
  · have some : url.scheme ≠ [] := by
      intro empty
      rw [empty] at named
      cases named
    have taken := takeScheme_append_cons named (url.place ++ rest)
    rw [lower] at taken
    rw [schemePart, if_neg (by simpa using some), List.append_assoc]
    exact taken

/-- Reading keeps all of a written url. -/
theorem isKept_of_mem_write {c : Char} (mem : c ∈ url.write) : IsKept c := by
  have kept := sound.kept
  rw [List.forall_mem_append, List.forall_mem_append, List.forall_mem_append] at kept
  obtain ⟨⟨⟨authority, path⟩, query⟩, fragment⟩ := kept
  rw [write_eq, List.mem_append, List.mem_append, List.mem_append] at mem
  obtain scheme | place | question | number := mem
  · rw [schemePart] at scheme
    split at scheme
    · cases scheme
    · next some =>
      obtain empty | ⟨named, -⟩ := sound.scheme
      · exact absurd (List.isEmpty_iff.mpr empty) some
      · obtain inside | colon := List.mem_append.mp scheme
        · rw [isSchemeName, Bool.and_eq_true, List.all_eq_true] at named
          exact (visible_of_isSchemeChar (named.2 c inside)).2
        · rw [List.mem_singleton.mp colon]
          decide
  · obtain slash | inside := eq_or_mem_of_mem_place place
    · rw [slash]
      decide
    · obtain inside | inside := inside
      · exact authority c inside
      · exact path c inside
  · obtain rfl | inside := eq_or_mem_of_mem_optional question
    · decide
    · exact query c inside
  · obtain rfl | inside := eq_or_mem_of_mem_optional number
    · decide
    · exact fragment c inside

/-- A written url starts with no control character. -/
theorem lt_of_head?_write {c : Char} (head : url.write.head? = some c) : 0x20 < c.toNat := by
  rw [write_eq] at head
  obtain empty | ⟨named, -⟩ := sound.scheme
  · rw [schemePart, empty, List.isEmpty_nil, if_pos rfl, List.nil_append] at head
    cases has : url.hasAuthority with
    | true =>
      rw [place_of_hasAuthority has] at head
      rw [← Option.some.inj head]
      decide
    | false =>
      rw [place_of_not_hasAuthority has, List.head?_append, Option.or_eq_some_iff] at head
      obtain path | ⟨-, mark⟩ := head
      · exact (sound.start empty (authority_eq_nil has)).2 c path
      · obtain rfl | rfl := eq_of_head?_marks mark <;> decide
  · cases first : url.scheme with
    | nil =>
      rw [first] at named
      cases named
    | cons d rest =>
      rw [isSchemeName, first, Bool.and_eq_true, List.all_eq_true] at named
      rw [schemePart, first] at head
      rw [← Option.some.inj head]
      exact (visible_of_isSchemeChar (named.2 d List.mem_cons_self)).1

/-- Nothing of a written url is dropped. -/
theorem clean_write : clean url.write = url.write :=
  clean_eq_self (fun _ => sound.isKept_of_mem_write) fun _ => sound.lt_of_head?_write

/-- A written url is read as its parts, the path as it was written. -/
theorem split_write : split url.write = url.settled := by
  have ends : ∀ c, (optional '?' url.query ++ optional '#' url.fragment).head? = some c →
      c = '?' ∨ c = '#' := fun _ => eq_of_head?_marks
  have path : '#' ∉ url.writtenPath := not_mem_writtenPath sound.path.2 (by decide)
  have front : '#' ∉ url.writtenPath ++ optional '?' url.query := by
    rw [List.mem_append, not_or]
    refine ⟨path, fun mem => ?_⟩
    obtain mark | inside := eq_or_mem_of_mem_optional mem
    · exact absurd mark (by decide)
    · exact sound.query inside
  have question : '?' ∉ url.writtenPath := not_mem_writtenPath sound.path.1 (by decide)
  rw [split, sound.clean_write, write_eq, sound.takeScheme_write ends]
  dsimp only
  rw [sound.takeAuthority_place ends]
  dsimp only
  rw [← List.append_assoc, before_append_optional front, after_append_optional front,
    before_append_optional question, after_append_optional question]
  rfl

/-- Another query that has no mark and no dropped character does as well. -/
theorem withQuery {query : List Char} (mark : '#' ∉ query) (kept : ∀ c ∈ query, IsKept c) :
    IsSound { url with query } := by
  have parts := sound.kept
  rw [List.forall_mem_append, List.forall_mem_append] at parts
  exact
    { sound with
      query := mark
      kept := List.forall_mem_append.mpr
        ⟨List.forall_mem_append.mpr ⟨parts.1.1, kept⟩, parts.2⟩ }

end IsSound

/-- A path that is rooted already stays. -/
theorem rooted_rooted (path : List Char) : rooted (rooted path) = rooted path := by
  have slash : ((rooted path).isEmpty || (rooted path).head? == some '/') = true := by
    cases first : rooted path with
    | nil => rfl
    | cons c rest =>
      have same : c = '/' := head?_rooted (by rw [first]; rfl)
      rw [same]
      rfl
  exact if_pos slash

/-- A path that does not start with two slashes does not do so when it is rooted. -/
theorem take_rooted_ne {path : List Char} (apart : path.take 2 ≠ ['/', '/']) :
    (rooted path).take 2 ≠ ['/', '/'] := by
  rw [rooted]
  split
  · exact apart
  · next bare =>
    cases path with
    | nil => decide
    | cons c rest =>
      intro same
      obtain ⟨rfl, -⟩ := List.cons.inj (List.cons.inj same).2
      exact bare rfl

/-- A url that has been written and read is written with an authority where it was. -/
theorem hasAuthority_settled (url : Url) : url.settled.hasAuthority = url.hasAuthority := by
  cases has : url.hasAuthority with
  | false =>
    rw [settled, writtenPath_of_not_hasAuthority has]
    exact has
  | true =>
    rw [settled, writtenPath, has, if_pos rfl]
    rw [hasAuthority, Bool.or_eq_true, Bool.and_eq_true, bne_iff_ne] at has ⊢
    exact has.imp_right fun ⟨listed, apart⟩ => ⟨listed, take_rooted_ne apart⟩

/-- Writing a url that has been written and read changes nothing. -/
theorem write_settled (url : Url) : url.settled.write = url.write := by
  have path : url.settled.writtenPath = url.writtenPath := by
    rw [writtenPath, hasAuthority_settled, settled, writtenPath]
    split
    · exact rooted_rooted url.path
    · rfl
  rw [write_eq, write_eq, place, place, path, hasAuthority_settled]
  rfl

end QueryPipeline.Url
