import Mathlib.Data.String.Basic

/-!
# The order of texts is the order of their bytes

Texts are compared character by character. Their bytes in UTF-8 compare the same way, because the
bytes of a smaller character are smaller at the first place at which they differ
(`precedes_encoded`): the first byte grows with the number of bytes and then with the highest
digits of the character, and each further byte is a digit to the base 64.
-/

namespace LoopTemplate.Text

/-- The bytes of a text in UTF-8. -/
def utf8Bytes (text : String) : List UInt8 := text.toUTF8.data.toList

theorem utf8Bytes_eq (text : String) :
    utf8Bytes text = text.toList.flatMap String.utf8EncodeChar := by
  rw [utf8Bytes, String.toUTF8_eq_toByteArray, ← String.utf8Encode_toList, List.utf8Encode]
  exact List.data_toByteArray ▸ rfl

/-! ## Bytes that differ -/

/-- Whether bytes differ from others at some place, where they are smaller. -/
inductive Precedes : List UInt8 → List UInt8 → Prop where
  | here {small large : UInt8} (less : small < large) (rest others : List UInt8) :
      Precedes (small :: rest) (large :: others)
  | later (same : UInt8) {rest others : List UInt8} (precedes : Precedes rest others) :
      Precedes (same :: rest) (same :: others)

theorem Precedes.append_lt {bytes others : List UInt8} (precedes : Precedes bytes others)
    (rest otherRest : List UInt8) : bytes ++ rest < others ++ otherRest := by
  induction precedes with
  | here less _ _ => exact List.Lex.rel less
  | later same _ ih => exact List.Lex.cons ih

/-- Bytes that are given by numbers are compared by the first of them, and then by the rest. -/
theorem precedes_ofNat {small large : Nat} {rest others : List UInt8} (fits : large < 256)
    (compared : small < large ∨ small = large ∧ Precedes rest others) :
    Precedes (UInt8.ofNat small :: rest) (UInt8.ofNat large :: others) := by
  rcases compared with less | ⟨rfl, precedes⟩
  · apply Precedes.here
    rw [UInt8.lt_iff_toNat_lt, UInt8.toNat_ofNat', UInt8.toNat_ofNat']
    omega
  · exact .later _ precedes

/-! ## Characters -/

/-- How many bytes follow the first byte of a character. -/
def width (code : Nat) : Nat :=
  if code ≤ 127 then 0 else if code ≤ 2047 then 1 else if code ≤ 65535 then 2 else 3

/-- The first byte of a character. -/
def lead (code : Nat) : Nat :=
  if code ≤ 127 then code
  else if code ≤ 2047 then code / 64 + 192
  else if code ≤ 65535 then code / 4096 + 224
  else code / 262144 + 240

/-- The last digits of a character to the base 64, as bytes. -/
def digits (code : Nat) : Nat → List UInt8
  | 0 => []
  | count + 1 => UInt8.ofNat (code / 64 ^ count % 64 + 128) :: digits code count

theorem toNat_lt (char : Char) : char.toNat < 0x110000 := by
  have valid := char.valid
  simp only [UInt32.isValidChar, Nat.isValidChar] at valid
  change char.val.toNat < _
  omega

theorem lead_lt {code : Nat} (bound : code < 0x110000) : lead code < 256 := by
  unfold lead
  split_ifs <;> omega

theorem utf8EncodeChar_eq (char : Char) :
    String.utf8EncodeChar char =
      UInt8.ofNat (lead char.toNat) :: digits char.toNat (width char.toNat) := by
  have bound := toNat_lt char
  have code_eq : char.val.toNat = char.toNat := rfl
  unfold String.utf8EncodeChar lead width
  dsimp only
  rw [code_eq]
  generalize char.toNat = code at bound ⊢
  split_ifs with one two three
  · rfl
  · have small : code / 64 % 32 = code / 64 := by omega
    simp [digits, small]
  · have small : code / 4096 % 16 = code / 4096 := by omega
    simp [digits, small]
  · have small : code / 262144 % 8 = code / 262144 := by omega
    simp [digits, small]

/-- Numbers that agree up to their last digits are compared by those. -/
theorem precedes_digits {small large count : Nat} (less : small < large)
    (same : small / 64 ^ count = large / 64 ^ count) :
    Precedes (digits small count) (digits large count) := by
  induction count with
  | zero => simp at same; omega
  | succ count ih =>
      have ordered : small / 64 ^ count ≤ large / 64 ^ count := Nat.div_le_div_right less.le
      rw [Nat.pow_succ, ← Nat.div_div_eq_div_mul, ← Nat.div_div_eq_div_mul] at same
      apply precedes_ofNat (by omega)
      rcases Nat.eq_or_lt_of_le ordered with equal | below
      · exact .inr ⟨by rw [equal], ih equal⟩
      · exact .inl (by omega)

theorem lead_cases {small large : Nat} (less : small < large) :
    lead small < lead large ∨ lead small = lead large ∧ width small = width large ∧
      small / 64 ^ width small = large / 64 ^ width large := by
  unfold lead width
  split_ifs <;> simp <;> omega

/-- The bytes of a smaller character are smaller at the first place at which they differ. -/
theorem precedes_encoded {small large : Char} (less : small < large) :
    Precedes (String.utf8EncodeChar small) (String.utf8EncodeChar large) := by
  have less : small.toNat < large.toNat := less
  rw [utf8EncodeChar_eq, utf8EncodeChar_eq]
  apply precedes_ofNat (lead_lt (toNat_lt large))
  rcases lead_cases less with below | ⟨equal, width_eq, high⟩
  · exact .inl below
  · rw [width_eq] at high ⊢
    exact .inr ⟨equal, precedes_digits less high⟩

/-! ## Texts -/

theorem flatMap_encoded_lt {chars others : List Char} (less : List.Lex (· < ·) chars others) :
    chars.flatMap String.utf8EncodeChar < others.flatMap String.utf8EncodeChar := by
  induction less with
  | nil =>
      rw [List.flatMap_nil, List.flatMap_cons, utf8EncodeChar_eq]
      exact List.nil_lt_cons _ _
  | cons _ ih =>
      rw [List.flatMap_cons, List.flatMap_cons]
      exact List.Lex.append_left _ ih _
  | rel less =>
      rw [List.flatMap_cons, List.flatMap_cons]
      exact (precedes_encoded less).append_lt _ _

/-- A smaller text has smaller bytes. -/
theorem utf8Bytes_lt {text other : String} (less : text < other) :
    utf8Bytes text < utf8Bytes other := by
  rw [utf8Bytes_eq, utf8Bytes_eq]
  exact flatMap_encoded_lt less

end LoopTemplate.Text
