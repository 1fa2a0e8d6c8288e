import QueryPipeline.Proofs.Text.Utf8
import QueryPipeline.Proofs.Url.Basic
import QueryPipeline.Url.Parameters

/-!
# Query parameters read back

Each key and value is read back by itself: an escape is read as the octet that it was written for,
and the octets as the character. The marks between keys and values are never written inside them, so
a query falls apart where it was joined.
-/

namespace QueryPipeline.Url

open Text

/-- The characters of a written key or value. -/
def isQueryChar (c : Char) : Bool := isUnreserved c || c == '+' || c == '%'

/-- Characters that are written as they are belong to ASCII. -/
theorem toNat_lt_of_isUnreserved {c : Char} (unreserved : isUnreserved c = true) :
    c.toNat < 0x80 := by
  simp only [isUnreserved, Bool.or_eq_true, beq_iff_eq] at unreserved
  obtain (((alphanum | rfl) | rfl) | rfl) | rfl := unreserved
  · exact toNat_lt_of_isAlphanum alphanum
  all_goals decide

/-- The digits of an escape are written as they are. -/
theorem isUnreserved_hexDigitUpper {value : Nat} (small : value < 16) :
    isUnreserved (hexDigitUpper value) = true :=
  have all : ∀ n, n < 16 → isUnreserved (hexDigitUpper n) = true := by decide
  all value small

/-- An escape is a percent sign and two digits. -/
theorem mem_escapeOctet {octet : UInt8} {written : Char} (mem : written ∈ escapeOctet octet) :
    written = '%' ∨ isUnreserved written = true := by
  have small := octet.toNat_lt
  simp only [escapeOctet, List.mem_cons, List.not_mem_nil, or_false] at mem
  obtain rfl | rfl | rfl := mem
  · exact .inl rfl
  · exact .inr (isUnreserved_hexDigitUpper (by omega))
  · exact .inr (isUnreserved_hexDigitUpper (by omega))

/-- A written character has only characters of a query. -/
theorem isQueryChar_of_mem_encodeChar {c written : Char} (mem : written ∈ encodeChar c) :
    isQueryChar written = true := by
  rw [encodeChar] at mem
  split at mem
  · next unreserved =>
    rw [List.mem_singleton.mp mem, isQueryChar, unreserved]
    rfl
  · split at mem
    · rw [List.mem_singleton.mp mem]
      rfl
    · obtain ⟨octet, -, inside⟩ := List.mem_flatMap.mp mem
      obtain rfl | unreserved := mem_escapeOctet inside
      · rfl
      · rw [isQueryChar, unreserved]
        rfl

/-- A written key or value has only characters of a query. -/
theorem isQueryChar_of_mem_encode {text : List Char} {c : Char} (mem : c ∈ encode text) :
    isQueryChar c = true := by
  obtain ⟨source, -, inside⟩ := List.mem_flatMap.mp mem
  exact isQueryChar_of_mem_encodeChar inside

/-- Characters of a query belong to ASCII. -/
theorem isAscii_of_isQueryChar {c : Char} (query : isQueryChar c = true) : isAscii c = true := by
  simp only [isQueryChar, Bool.or_eq_true, beq_iff_eq] at query
  obtain (unreserved | rfl) | rfl := query
  · exact decide_eq_true (toNat_lt_of_isUnreserved unreserved)
  · rfl
  · rfl

/-- A mark is not written inside a key or value. -/
theorem not_mem_encode {mark : Char} (other : isQueryChar mark = false) (text : List Char) :
    mark ∉ encode text := by
  intro mem
  rw [isQueryChar_of_mem_encode mem] at other
  cases other

/-- An escape is read as the octet that it was written for. -/
theorem octets_escapeOctet (octet : UInt8) (rest : List Char) :
    octets (escapeOctet octet ++ rest) = octet :: octets rest := by
  have small := octet.toNat_lt
  have parts : 16 * (octet.toNat / 16) + octet.toNat % 16 = octet.toNat := by omega
  rw [escapeOctet, List.cons_append, List.cons_append, List.singleton_append, octets]
  rw [hexValue?_hexDigitUpper (by omega), hexValue?_hexDigitUpper (by omega)]
  dsimp only
  rw [parts, UInt8.ofNat_toNat]

/-- Escapes are read as the octets that they were written for. -/
theorem octets_flatMap_escapeOctet (written : List UInt8) (rest : List Char) :
    octets (written.flatMap escapeOctet ++ rest) = written ++ octets rest := by
  induction written with
  | nil => rfl
  | cons octet more ih =>
    rw [List.flatMap_cons, List.append_assoc, octets_escapeOctet, ih, List.cons_append]

/-- A text in which plus signs are read as spaces. -/
def spaced (text : List Char) : List Char := text.map fun c => if c = '+' then ' ' else c

/-- A text without plus signs is read as it is. -/
theorem spaced_of_not_mem {text : List Char} (absent : '+' ∉ text) : spaced text = text := by
  have same : ∀ c ∈ text, (if c = '+' then ' ' else c) = id c := by
    intro c mem
    have other : c ≠ '+' := fun plus => absent (plus ▸ mem)
    exact if_neg other
  rw [spaced, List.map_congr_left same, List.map_id]

/-- A written character is read as its octets. -/
theorem octets_encodeChar (c : Char) (rest : List Char) :
    octets (spaced (encodeChar c) ++ rest) = String.utf8EncodeChar c ++ octets rest := by
  rw [encodeChar]
  by_cases unreserved : isUnreserved c = true
  · have plus : '+' ∉ [c] := by
      rw [List.mem_singleton]
      rintro rfl
      exact absurd unreserved (by decide)
    have percent : c ≠ '%' := by
      rintro rfl
      exact absurd unreserved (by decide)
    have small := toNat_lt_of_isUnreserved unreserved
    rw [if_pos unreserved, spaced_of_not_mem plus, List.singleton_append, octets,
      Utf8.utf8EncodeChar_one (by omega)]
    · rfl
    · intro high low more same
      exact absurd same percent
  · rw [if_neg unreserved]
    by_cases space : c = ' '
    · rw [if_pos space, space]
      rfl
    · have plus : '+' ∉ (String.utf8EncodeChar c).flatMap escapeOctet := by
        intro mem
        obtain ⟨octet, -, inside⟩ := List.mem_flatMap.mp mem
        obtain percent | unreserved := mem_escapeOctet inside
        · exact absurd percent (by decide)
        · exact absurd unreserved (by decide)
      rw [if_neg space, spaced_of_not_mem plus, octets_flatMap_escapeOctet]

/-- A written key or value is read as its octets. -/
theorem octets_encode (text : List Char) : octets (spaced (encode text)) = Utf8.encode text := by
  induction text with
  | nil => rfl
  | cons c rest ih =>
    rw [encode, List.flatMap_cons, spaced, List.map_append, ← spaced, ← spaced, octets_encodeChar,
      ← encode, ih]
    rfl

/-- Text of ASCII is one run, so its octets are put together. -/
theorem unescapeFrom_of_isAscii {text : List Char} (ascii : ∀ c ∈ text, isAscii c = true)
    (run : List Char) : unescapeFrom run text = Utf8.decode (octets (run.reverse ++ text)) := by
  induction text generalizing run with
  | nil => rw [unescapeFrom, List.append_nil]
  | cons c rest ih =>
    rw [List.forall_mem_cons] at ascii
    rw [unescapeFrom, if_pos ascii.1, ih ascii.2, List.reverse_cons, List.append_assoc,
      List.singleton_append]

/-- A written key or value is read back. -/
theorem decode_encode (text : List Char) : decode (encode text) = text := by
  have ascii : ∀ c ∈ spaced (encode text), isAscii c = true := by
    intro c mem
    obtain ⟨written, inside, rfl⟩ := List.mem_map.mp mem
    split
    · rfl
    · exact isAscii_of_isQueryChar (isQueryChar_of_mem_encode inside)
  rw [decode, ← spaced, unescapeFrom_of_isAscii ascii, List.reverse_nil, List.nil_append,
    octets_encode, Utf8.decode_encode]

namespace Parameters

/-- A written pair is read back. -/
theorem readPair_writePair (pair : String × String) : readPair (writePair pair) = pair := by
  have mark : '=' ∉ encode pair.1.toList := not_mem_encode rfl _
  rw [readPair, writePair, before_append_cons mark, after_append_cons mark, decode_encode,
    decode_encode, String.ofList_toList, String.ofList_toList]

/-- The mark between pairs is not written inside a pair. -/
theorem not_mem_writePair (pair : String × String) : '&' ∉ writePair pair := by
  have key : '&' ∉ encode pair.1.toList := not_mem_encode rfl _
  have value : '&' ∉ encode pair.2.toList := not_mem_encode rfl _
  simp [writePair, key, value]

/-- Only characters of a query and the two marks are written for pairs. -/
theorem not_mem_write {mark : Char} (other : isQueryChar mark = false) (equals : mark ≠ '=')
    (separator : mark ≠ '&') (parameters : Parameters) : mark ∉ write parameters := by
  intro mem
  obtain same | ⟨piece, inside, holds⟩ := eq_or_mem_of_mem_joinWith mem
  · exact separator same
  · obtain ⟨pair, -, rfl⟩ := List.mem_map.mp inside
    have key : mark ∉ encode pair.1.toList := not_mem_encode other _
    have value : mark ∉ encode pair.2.toList := not_mem_encode other _
    simp [writePair, key, value, equals] at holds

/-- Reading a url drops nothing of what is written for pairs. -/
theorem isKept_of_mem_write {parameters : Parameters} {c : Char} (mem : c ∈ write parameters) :
    IsKept c := by
  refine ⟨?_, ?_, ?_⟩ <;>
  · rintro rfl
    exact not_mem_write rfl (by decide) (by decide) parameters mem

/-- Written pairs are read back. -/
theorem read_write (parameters : Parameters) : read (write parameters) = parameters := by
  cases empty : parameters with
  | nil => rfl
  | cons first others =>
    rw [← empty, read, write]
    have some : parameters.map writePair ≠ [] := by simp [empty]
    have apart : ∀ piece ∈ parameters.map writePair, '&' ∉ piece :=
      List.forall_mem_map.mpr fun pair _ => not_mem_writePair pair
    have nonempty : ∀ piece ∈ parameters.map writePair, (!piece.isEmpty) = true :=
      List.forall_mem_map.mpr fun pair _ => by simp [writePair]
    rw [splitOn_joinWith some apart, List.filter_eq_self.mpr nonempty, List.map_map]
    have back : readPair ∘ writePair = id := funext readPair_writePair
    rw [back, List.map_id]

end Parameters

end QueryPipeline.Url
