import Mathlib
import ContentGateway.Text.Utf8

/-!
# Reading back UTF-8

What a text is encoded to is decoded to that text. Each of the four lengths of a character has its
own first bytes, and a second byte that `isSecond` lets pass: the forms are the shortest ones, and a
character is no surrogate.
-/

namespace ContentGateway.Text

theorem toNat_ofNat {n : ℕ} (h : n < 256) : (UInt8.ofNat n).toNat = n := by
  rw [UInt8.toNat_ofNat', Nat.mod_eq_of_lt h]

/-- The number of a character is below the surrogates, or above them and at most `U+10FFFF`. -/
theorem toNat_bounds (c : Char) :
    c.toNat < 0xd800 ∨ (0xdfff < c.toNat ∧ c.toNat < 0x110000) := c.valid

/-- Each of the 64 bytes from `0x80` on is a continuation byte. -/
theorem isContinuation_ofNat {k : ℕ} (h : k < 64) : isContinuation (UInt8.ofNat (0x80 + k)) := by
  simp only [isContinuation, Bool.and_eq_true, decide_eq_true_eq]
  rw [toNat_ofNat (by omega)]
  omega

/-- A continuation byte carries its low six bits. -/
theorem payload_ofNat {k : ℕ} (h : k < 64) : payload (UInt8.ofNat (0x80 + k)) = k := by
  rw [payload, toNat_ofNat (by omega)]
  omega

/-- The second byte of a longer form passes if it keeps the form shortest, out of the surrogates and
below the last character. -/
theorem isSecond_ofNat {a k : ℕ} (ha : a < 256) (hk : k < 64) (he0 : a = 0xe0 → 0x20 ≤ k)
    (hed : a = 0xed → k < 0x20) (hf0 : a = 0xf0 → 0x10 ≤ k) (hf4 : a = 0xf4 → k < 0x10) :
    isSecond (UInt8.ofNat a) (UInt8.ofNat (0x80 + k)) := by
  simp only [isSecond, isContinuation_ofNat hk, Bool.true_and, toNat_ofNat ha,
    toNat_ofNat (show 0x80 + k < 256 by omega)]
  split
  · simp only [decide_eq_true_eq]
    omega
  · split
    · simp only [decide_eq_true_eq]
      omega
    · split
      · simp only [decide_eq_true_eq]
        omega
      · split
        · simp only [decide_eq_true_eq]
          omega
        · rfl

/-! ## One character -/

section Forms

variable (position : ℕ) (rest : List UInt8)

/-- A form of two bytes. -/
theorem decodeFrom_two {a k : ℕ} (hlow : 0xc2 ≤ a) (hhigh : a < 0xe0) (hk : k < 64) :
    decodeFrom position (UInt8.ofNat a :: UInt8.ofNat (0x80 + k) :: rest) =
      (Char.ofNat ((a - 0xc0) * 64 + k) :: ·) <$> decodeFrom (position + 2) rest := by
  have hsecond := isSecond_ofNat (a := a) (k := k) (by omega) hk (by omega) (by omega) (by omega)
    (by omega)
  rw [decodeFrom.eq_def]
  simp only [toNat_ofNat (show a < 256 by omega)]
  rw [if_neg (by omega), if_neg (by simp; omega)]
  simp only [hsecond, Bool.not_true, Bool.false_eq_true, if_false, payload_ofNat hk]
  rw [if_pos (by omega)]

/-- A form of three bytes. -/
theorem decodeFrom_three {a k l : ℕ} (hlow : 0xe0 ≤ a) (hhigh : a < 0xf0) (hk : k < 64)
    (hl : l < 64) (he0 : a = 0xe0 → 0x20 ≤ k) (hed : a = 0xed → k < 0x20) :
    decodeFrom position
        (UInt8.ofNat a :: UInt8.ofNat (0x80 + k) :: UInt8.ofNat (0x80 + l) :: rest) =
      (Char.ofNat ((a - 0xe0) * 4096 + k * 64 + l) :: ·) <$> decodeFrom (position + 3) rest := by
  have hsecond := isSecond_ofNat (a := a) (k := k) (by omega) hk he0 hed (by omega) (by omega)
  rw [decodeFrom.eq_def]
  simp only [toNat_ofNat (show a < 256 by omega)]
  rw [if_neg (by omega), if_neg (by simp; omega)]
  simp only [hsecond, isContinuation_ofNat hl, Bool.not_true, Bool.false_eq_true, if_false,
    payload_ofNat hk, payload_ofNat hl]
  rw [if_neg (by omega), if_pos (by omega)]

/-- A form of four bytes. -/
theorem decodeFrom_four {a k l m : ℕ} (hlow : 0xf0 ≤ a) (hhigh : a ≤ 0xf4) (hk : k < 64)
    (hl : l < 64) (hm : m < 64) (hf0 : a = 0xf0 → 0x10 ≤ k) (hf4 : a = 0xf4 → k < 0x10) :
    decodeFrom position (UInt8.ofNat a :: UInt8.ofNat (0x80 + k) :: UInt8.ofNat (0x80 + l) ::
        UInt8.ofNat (0x80 + m) :: rest) =
      (Char.ofNat ((a - 0xf0) * 262144 + k * 4096 + l * 64 + m) :: ·) <$>
        decodeFrom (position + 4) rest := by
  have hsecond := isSecond_ofNat (a := a) (k := k) (by omega) hk (by omega) (by omega) hf0 hf4
  rw [decodeFrom.eq_def]
  simp only [toNat_ofNat (show a < 256 by omega)]
  rw [if_neg (by omega), if_neg (by simp; omega)]
  simp only [hsecond, isContinuation_ofNat hl, isContinuation_ofNat hm, Bool.not_true,
    Bool.false_eq_true, if_false, payload_ofNat hk, payload_ofNat hl, payload_ofNat hm]
  rw [if_neg (by omega), if_neg (by omega)]

/-- The bytes of a character in front are read as that character. -/
theorem decodeFrom_encodeChar (c : Char) :
    decodeFrom position (encodeChar c ++ rest) =
      (c :: ·) <$> decodeFrom (position + (encodeChar c).length) rest := by
  have hbounds := toNat_bounds c
  have hc : Char.ofNat c.toNat = c := Char.ofNat_toNat c
  rw [encodeChar]
  generalize c.toNat = n at *
  split
  · rw [List.singleton_append, decodeFrom.eq_def]
    simp only [toNat_ofNat (show n < 256 by omega), if_pos ‹n < 0x80›, hc, List.length_singleton]
  split
  · have hsum : (0xc0 + n / 64 - 0xc0) * 64 + n % 64 = n := by omega
    rw [List.cons_append, List.singleton_append,
      decodeFrom_two position rest (by omega) (by omega) (by omega), hsum, hc]
    rfl
  split
  · have hsum : (0xe0 + n / 4096 - 0xe0) * 4096 + n / 64 % 64 * 64 + n % 64 = n := by omega
    rw [List.cons_append, List.cons_append, List.singleton_append,
      decodeFrom_three position rest (by omega) (by omega) (by omega) (by omega) (by omega)
        (by omega), hsum, hc]
    rfl
  · have hsum : (0xf0 + n / 262144 - 0xf0) * 262144 + n / 4096 % 64 * 4096 + n / 64 % 64 * 64 +
      n % 64 = n := by omega
    rw [List.cons_append, List.cons_append, List.cons_append, List.singleton_append,
      decodeFrom_four position rest (by omega) (by omega) (by omega) (by omega) (by omega)
        (by omega) (by omega), hsum, hc]
    rfl

end Forms

/-! ## Whole texts -/

/-- Text is read back from its bytes, wherever they begin. -/
theorem decodeFrom_encode (position : ℕ) (cs : List Char) :
    decodeFrom position (encode cs) = .ok cs := by
  induction cs generalizing position with
  | nil => rfl
  | cons c cs ih =>
    rw [encode, List.flatMap_cons, decodeFrom_encodeChar, ← encode, ih]
    rfl

/-- The bytes of a text are read as the text. -/
theorem decode_encode (cs : List Char) : decode (encode cs) = .ok cs := decodeFrom_encode 0 cs

end ContentGateway.Text
