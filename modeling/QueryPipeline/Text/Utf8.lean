/-!
# Lenient UTF-8 decoding

Octets are decoded one at a time. What has been read of an unfinished sequence is kept together
with the range that the next octet has to lie in, so overlong forms, surrogates and numbers above
U+10FFFF are refused at the earliest octet. A sequence that cannot go on is replaced as a whole by
one U+FFFD, and the octet that broke it is read afresh.
-/

namespace QueryPipeline.Text.Utf8

/-- The octets of a text. -/
def encode (text : List Char) : List UInt8 := text.flatMap String.utf8EncodeChar

/-- An unfinished sequence. -/
structure Unfinished where
  /-- How many octets are still missing, less one. -/
  missing : Nat
  /-- The value of the octets read so far. -/
  value : Nat
  /-- The least octet that may follow. -/
  low : Nat
  /-- The greatest octet that may follow. -/
  high : Nat

/-- The character that stands for octets that are no character. -/
def replacement : Char := '\uFFFD'

/-- What an octet starts: a character by itself, or an unfinished sequence. -/
def start (octet : UInt8) : Char ⊕ Unfinished :=
  let n := octet.toNat
  if n < 0x80 then .inl (Char.ofNat n)
  else if 0xC2 ≤ n ∧ n ≤ 0xDF then .inr ⟨0, n - 0xC0, 0x80, 0xBF⟩
  else if n = 0xE0 then .inr ⟨1, 0, 0xA0, 0xBF⟩
  else if n = 0xED then .inr ⟨1, 0xD, 0x80, 0x9F⟩
  else if 0xE1 ≤ n ∧ n ≤ 0xEF then .inr ⟨1, n - 0xE0, 0x80, 0xBF⟩
  else if n = 0xF0 then .inr ⟨2, 0, 0x90, 0xBF⟩
  else if 0xF1 ≤ n ∧ n ≤ 0xF3 then .inr ⟨2, n - 0xF0, 0x80, 0xBF⟩
  else if n = 0xF4 then .inr ⟨2, 4, 0x80, 0x8F⟩
  else .inl replacement

/-- The characters of the octets, after an unfinished sequence if there is one. -/
def decodeFrom : Option Unfinished → List UInt8 → List Char
  | none, [] => []
  | some _, [] => [replacement]
  | none, octet :: rest =>
    match start octet with
    | .inl c => c :: decodeFrom none rest
    | .inr unfinished => decodeFrom (some unfinished) rest
  | some unfinished, octet :: rest =>
    if unfinished.low ≤ octet.toNat ∧ octet.toNat ≤ unfinished.high then
      let value := 64 * unfinished.value + (octet.toNat - 0x80)
      match unfinished.missing with
      | 0 => Char.ofNat value :: decodeFrom none rest
      | missing + 1 => decodeFrom (some ⟨missing, value, 0x80, 0xBF⟩) rest
    else
      match start octet with
      | .inl c => replacement :: c :: decodeFrom none rest
      | .inr next => replacement :: decodeFrom (some next) rest

/-- The characters of the octets. -/
def decode (octets : List UInt8) : List Char := decodeFrom none octets

end QueryPipeline.Text.Utf8
