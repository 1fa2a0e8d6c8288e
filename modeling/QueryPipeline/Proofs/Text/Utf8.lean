import QueryPipeline.Text.Utf8

/-!
# Octets of a text read back

The octets of a character are taken one by one: the first tells how many follow and what range the
second lies in, and each of the others adds six bits. So the octets of a text are read as the text,
whatever comes after them.
-/

namespace QueryPipeline.Text.Utf8

/-- A number below 256 is an octet. -/
theorem toNat_octet {n : Nat} (small : n < 256) : (UInt8.ofNat n).toNat = n := by
  rw [UInt8.toNat_ofNat']
  exact Nat.mod_eq_of_lt small

/-- The number of a character is below the surrogates or between them and U+10FFFF. -/
theorem toNat_bounds (c : Char) : c.toNat < 0xD800 ∨ (0xDFFF < c.toNat ∧ c.toNat < 0x110000) :=
  c.valid

/-- The first of two octets. -/
theorem start_two {n : Nat} (least : 0x80 ≤ n) (most : n ≤ 0x7FF) :
    start (UInt8.ofNat (n / 64 % 0x20 + 0xC0)) = .inr ⟨0, n / 64, 0x80, 0xBF⟩ := by
  have value : n / 64 % 0x20 + 0xC0 - 0xC0 = n / 64 := by omega
  rw [start, toNat_octet (by omega), if_neg (by omega), if_pos (by omega), value]

/-- The first of three octets tells a range for the second that excludes surrogates and what needs
fewer octets. -/
theorem start_three {n : Nat} (least : 0x800 ≤ n) (most : n ≤ 0xFFFF)
    (scalar : n < 0xD800 ∨ 0xDFFF < n) :
    ∃ low high, start (UInt8.ofNat (n / 4096 % 0x10 + 0xE0)) = .inr ⟨1, n / 4096, low, high⟩ ∧
      low ≤ n / 64 % 0x40 + 0x80 ∧ n / 64 % 0x40 + 0x80 ≤ high := by
  rw [start, toNat_octet (by omega), if_neg (by omega), if_neg (by omega)]
  by_cases first : n / 4096 = 0
  · rw [if_pos (by omega), first]
    exact ⟨_, _, rfl, by omega, by omega⟩
  · by_cases surrogates : n / 4096 = 0xD
    · rw [if_neg (by omega), if_pos (by omega), surrogates]
      exact ⟨_, _, rfl, by omega, by omega⟩
    · have value : n / 4096 % 0x10 + 0xE0 - 0xE0 = n / 4096 := by omega
      rw [if_neg (by omega), if_neg (by omega), if_pos (by omega), value]
      exact ⟨_, _, rfl, by omega, by omega⟩

/-- The first of four octets tells a range for the second that excludes what is no character and
what needs fewer octets. -/
theorem start_four {n : Nat} (least : 0x10000 ≤ n) (most : n < 0x110000) :
    ∃ low high,
      start (UInt8.ofNat (n / 262144 % 0x08 + 0xF0)) = .inr ⟨2, n / 262144, low, high⟩ ∧
        low ≤ n / 4096 % 0x40 + 0x80 ∧ n / 4096 % 0x40 + 0x80 ≤ high := by
  rw [start, toNat_octet (by omega), if_neg (by omega), if_neg (by omega), if_neg (by omega),
    if_neg (by omega), if_neg (by omega)]
  by_cases first : n / 262144 = 0
  · rw [if_pos (by omega), first]
    exact ⟨_, _, rfl, by omega, by omega⟩
  · by_cases last : n / 262144 = 4
    · rw [if_neg (by omega), if_neg (by omega), if_pos (by omega), last]
      exact ⟨_, _, rfl, by omega, by omega⟩
    · have value : n / 262144 % 0x08 + 0xF0 - 0xF0 = n / 262144 := by omega
      rw [if_neg (by omega), if_pos (by omega), value]
      exact ⟨_, _, rfl, by omega, by omega⟩

/-- An octet in the range that was told adds six bits; the last one makes the character. -/
theorem decodeFrom_last {value low high bits : Nat} (small : bits < 0x40)
    (least : low ≤ bits + 0x80) (most : bits + 0x80 ≤ high) (rest : List UInt8) :
    decodeFrom (some ⟨0, value, low, high⟩) (UInt8.ofNat (bits + 0x80) :: rest) =
      Char.ofNat (64 * value + bits) :: decodeFrom none rest := by
  rw [decodeFrom, toNat_octet (by omega), if_pos ⟨least, most⟩, Nat.add_sub_cancel]

/-- An octet in the range that was told adds six bits, and more are to follow. -/
theorem decodeFrom_more {missing value low high bits : Nat} (small : bits < 0x40)
    (least : low ≤ bits + 0x80) (most : bits + 0x80 ≤ high) (rest : List UInt8) :
    decodeFrom (some ⟨missing + 1, value, low, high⟩) (UInt8.ofNat (bits + 0x80) :: rest) =
      decodeFrom (some ⟨missing, 64 * value + bits, 0x80, 0xBF⟩) rest := by
  rw [decodeFrom, toNat_octet (by omega), if_pos ⟨least, most⟩, Nat.add_sub_cancel]

/-- A character up to U+007F is one octet. -/
theorem utf8EncodeChar_one {c : Char} (most : c.toNat ≤ 0x7F) :
    String.utf8EncodeChar c = [UInt8.ofNat c.toNat] :=
  if_pos most

/-- A character from U+0080 up to U+07FF is two octets. -/
theorem utf8EncodeChar_two {c : Char} (least : ¬c.toNat ≤ 0x7F) (most : c.toNat ≤ 0x7FF) :
    String.utf8EncodeChar c =
      [UInt8.ofNat (c.toNat / 64 % 0x20 + 0xC0), UInt8.ofNat (c.toNat % 0x40 + 0x80)] :=
  (if_neg least).trans (if_pos most)

/-- A character from U+0800 up to U+FFFF is three octets. -/
theorem utf8EncodeChar_three {c : Char} (least : ¬c.toNat ≤ 0x7FF) (most : c.toNat ≤ 0xFFFF) :
    String.utf8EncodeChar c =
      [UInt8.ofNat (c.toNat / 4096 % 0x10 + 0xE0), UInt8.ofNat (c.toNat / 64 % 0x40 + 0x80),
        UInt8.ofNat (c.toNat % 0x40 + 0x80)] := by
  have one : ¬c.toNat ≤ 0x7F := by omega
  exact (if_neg one).trans ((if_neg least).trans (if_pos most))

/-- A character from U+10000 on is four octets. -/
theorem utf8EncodeChar_four {c : Char} (least : ¬c.toNat ≤ 0xFFFF) :
    String.utf8EncodeChar c =
      [UInt8.ofNat (c.toNat / 262144 % 0x08 + 0xF0), UInt8.ofNat (c.toNat / 4096 % 0x40 + 0x80),
        UInt8.ofNat (c.toNat / 64 % 0x40 + 0x80), UInt8.ofNat (c.toNat % 0x40 + 0x80)] := by
  have one : ¬c.toNat ≤ 0x7F := by omega
  have two : ¬c.toNat ≤ 0x7FF := by omega
  exact (if_neg one).trans ((if_neg two).trans (if_neg least))

/-- The octets of a character are read as the character. -/
theorem decodeFrom_utf8EncodeChar (c : Char) (rest : List UInt8) :
    decodeFrom none (String.utf8EncodeChar c ++ rest) = c :: decodeFrom none rest := by
  have bounds := toNat_bounds c
  have back : Char.ofNat c.toNat = c := Char.ofNat_toNat c
  by_cases one : c.toNat ≤ 0x7F
  · rw [utf8EncodeChar_one one, List.singleton_append, decodeFrom, start, toNat_octet (by omega),
      if_pos (by omega), back]
  by_cases two : c.toNat ≤ 0x7FF
  · have parts : 64 * (c.toNat / 64) + c.toNat % 0x40 = c.toNat := by omega
    rw [utf8EncodeChar_two one two, List.cons_append, List.singleton_append, decodeFrom,
      start_two (by omega) two]
    dsimp only
    rw [decodeFrom_last (by omega) (by omega) (by omega), parts, back]
  by_cases three : c.toNat ≤ 0xFFFF
  · have parts :
        64 * (64 * (c.toNat / 4096) + c.toNat / 64 % 0x40) + c.toNat % 0x40 = c.toNat := by omega
    obtain ⟨low, high, started, least, most⟩ := start_three (by omega) three (by omega)
    rw [utf8EncodeChar_three two three, List.cons_append, List.cons_append, List.singleton_append,
      decodeFrom, started]
    dsimp only
    rw [decodeFrom_more (by omega) least most,
      decodeFrom_last (by omega) (by omega) (by omega), parts, back]
  · have parts :
        64 * (64 * (64 * (c.toNat / 262144) + c.toNat / 4096 % 0x40) + c.toNat / 64 % 0x40) +
          c.toNat % 0x40 = c.toNat := by omega
    have wide : 0x10000 ≤ c.toNat := by omega
    obtain ⟨low, high, started, least, most⟩ := start_four wide (by omega)
    rw [utf8EncodeChar_four three, List.cons_append, List.cons_append, List.cons_append,
      List.singleton_append, decodeFrom, started]
    dsimp only
    rw [decodeFrom_more (by omega) least most, decodeFrom_more (by omega) (by omega) (by omega),
      decodeFrom_last (by omega) (by omega) (by omega), parts, back]

/-- The octets of a text are read as the text, and then what follows them. -/
theorem decodeFrom_encode (text : List Char) (rest : List UInt8) :
    decodeFrom none (encode text ++ rest) = text ++ decodeFrom none rest := by
  induction text with
  | nil => rfl
  | cons c more ih =>
    rw [encode, List.flatMap_cons, List.append_assoc, decodeFrom_utf8EncodeChar, ← encode, ih,
      List.cons_append]

/-- The octets of a text are read as the text. -/
theorem decode_encode (text : List Char) : decode (encode text) = text := by
  have read := decodeFrom_encode text []
  rwa [List.append_nil, decodeFrom, List.append_nil] at read

end QueryPipeline.Text.Utf8
