import Mathlib
import ContentGateway.Proofs.Text.Basic
import ContentGateway.Proofs.Text.Utf8
import ContentGateway.Text.Percent

/-!
# Reading back percent encoding

A byte is either written as its own character or as a percent sign and two digits. The percent sign
itself is never written as its own character, so a reader can always tell which it was. The encoded
form holds unreserved characters, kept ones and percent signs, and nothing else.
-/

namespace ContentGateway.Text

/-- A hexadecimal digit is unreserved. -/
theorem isUnreserved_hexDigitUpper {n : ℕ} (h : n < 16) : isUnreserved (hexDigitUpper n) := by
  interval_cases n <;> rfl

/-- The character with the number of a byte has that number. -/
theorem toNat_char_of_byte (b : UInt8) : (Char.ofNat b.toNat).toNat = b.toNat := by
  have hb := b.toNat_lt
  have hvalid : b.toNat.isValidChar := .inl (by omega)
  rw [Char.ofNat, dif_pos hvalid]
  exact Char.toNat_ofNatAux hvalid

section Kept

variable {kept : List Char}

/-- The form of a byte: its own character, where the place allows it, or two digits. -/
theorem percentByte_cases (kept : List Char) (b : UInt8) :
    (b.toNat < 0x80 ∧ (isUnreserved (Char.ofNat b.toNat) ∨ Char.ofNat b.toNat ∈ kept) ∧
        percentByte kept b = [Char.ofNat b.toNat]) ∨
      percentByte kept b = ['%', hexDigitUpper (b.toNat / 16), hexDigitUpper (b.toNat % 16)] := by
  rw [percentByte]
  split
  · next h =>
    simp only [Bool.and_eq_true, decide_eq_true_eq, Bool.or_eq_true, List.contains_iff_mem] at h
    exact .inl ⟨h.1, h.2, rfl⟩
  · exact .inr rfl

/-- Two digits behind a percent sign are read as their byte. -/
theorem percentDecoded?_digits (b : UInt8) (cs : List Char) :
    percentDecoded? ('%' :: hexDigitUpper (b.toNat / 16) :: hexDigitUpper (b.toNat % 16) :: cs) =
      (b :: ·) <$> percentDecoded? cs := by
  have hb := b.toNat_lt
  have hsum : 16 * (b.toNat / 16) + b.toNat % 16 = b.toNat := Nat.div_add_mod _ _
  rw [percentDecoded?, hexValue?_hexDigitUpper (by omega), hexValue?_hexDigitUpper (by omega)]
  cases percentDecoded? cs with
  | none => rfl
  | some bytes =>
    simp only [Option.bind_eq_bind, Option.bind_some, hsum, UInt8.ofNat_toNat]
    rfl

/-- A character that is no percent sign is read as its own byte. -/
theorem percentDecoded?_char {c : Char} (hsign : c ≠ '%') (hascii : c.toNat < 0x80)
    (cs : List Char) :
    percentDecoded? (c :: cs) = (UInt8.ofNat c.toNat :: ·) <$> percentDecoded? cs := by
  rw [percentDecoded?.eq_def]
  split
  · next h => cases h
  · next h => exact absurd (List.cons.inj h).1 hsign
  · next h =>
    obtain ⟨rfl, rfl⟩ := List.cons.inj h
    rw [if_neg (by simp [hsign]; omega)]

/-- A byte in percent encoding is read as that byte. -/
theorem percentDecoded?_percentByte (hkept : '%' ∉ kept) (b : UInt8) (cs : List Char) :
    percentDecoded? (percentByte kept b ++ cs) = (b :: ·) <$> percentDecoded? cs := by
  rcases percentByte_cases kept b with ⟨hascii, hallowed, h⟩ | h
  · have hsign : Char.ofNat b.toNat ≠ '%' := by
      intro hc
      rw [hc] at hallowed
      exact hallowed.elim (fun h => absurd h (by decide)) hkept
    rw [h, List.singleton_append,
      percentDecoded?_char hsign (by rw [toNat_char_of_byte]; exact hascii), toNat_char_of_byte,
      UInt8.ofNat_toNat]
  · rw [h]
    exact percentDecoded?_digits b cs

/-- Bytes are read back from their percent encoding. -/
theorem percentDecoded?_percentBytes (hkept : '%' ∉ kept) (bytes : List UInt8) :
    percentDecoded? (percentBytes kept bytes) = some bytes := by
  induction bytes with
  | nil => rfl
  | cons b bytes ih =>
    rw [percentBytes, List.flatMap_cons, percentDecoded?_percentByte hkept, ← percentBytes, ih]
    rfl

/-- A text in percent encoding gives back the bytes of the text. -/
theorem percentDecoded?_percent (hkept : '%' ∉ kept) (cs : List Char) :
    percentDecoded? (percent kept cs) = some (encode cs) :=
  percentDecoded?_percentBytes hkept (encode cs)

/-- The encoded form has unreserved and kept characters and percent signs. -/
theorem mem_percent {c : Char} {cs : List Char} (h : c ∈ percent kept cs) :
    isUnreserved c ∨ c ∈ kept ∨ c = '%' := by
  obtain ⟨b, -, hb⟩ := List.mem_flatMap.mp h
  have hbyte := b.toNat_lt
  rcases percentByte_cases kept b with ⟨-, hallowed, hform⟩ | hform
  · rw [hform, List.mem_singleton] at hb
    rw [hb]
    exact hallowed.imp id .inl
  · simp only [hform, List.mem_cons, List.not_mem_nil, or_false] at hb
    rcases hb with rfl | rfl | rfl
    · exact .inr (.inr rfl)
    · exact .inl (isUnreserved_hexDigitUpper (by omega))
    · exact .inl (isUnreserved_hexDigitUpper (by omega))

end Kept

end ContentGateway.Text
