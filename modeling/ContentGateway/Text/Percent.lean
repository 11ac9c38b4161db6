import ContentGateway.Text.Basic
import ContentGateway.Text.Utf8

/-!
# Percent encoding

A byte is kept when it is an ASCII letter, a digit, one of `_ . - ~`, or a character that the place
allows besides; every other byte becomes `%` and two upper-case hexadecimal digits. A text is
encoded byte by byte in UTF-8, so the encoded form is pure ASCII. `percentDecoded?` undoes it.
-/

namespace ContentGateway.Text

/-- A character that no place in an address gives a meaning of its own. -/
def isUnreserved (c : Char) : Bool :=
  ('a' ≤ c && c ≤ 'z') || ('A' ≤ c && c ≤ 'Z') || ('0' ≤ c && c ≤ '9') ||
    c = '_' || c = '.' || c = '-' || c = '~'

/-- One byte in percent encoding, where the place keeps the characters `kept` besides. -/
def percentByte (kept : List Char) (b : UInt8) : List Char :=
  let c := Char.ofNat b.toNat
  if b.toNat < 0x80 && (isUnreserved c || kept.contains c) then [c]
  else ['%', hexDigitUpper (b.toNat / 16), hexDigitUpper (b.toNat % 16)]

def percentBytes (kept : List Char) (bytes : List UInt8) : List Char :=
  bytes.flatMap (percentByte kept)

def percent (kept : List Char) (cs : List Char) : List Char := percentBytes kept (encode cs)

/-- The bytes behind a percent-encoded text; `none` for a `%` without two digits after it and for a
character outside ASCII. -/
def percentDecoded? : List Char → Option (List UInt8)
  | [] => some []
  | '%' :: a :: b :: rest => do
    let high ← hexValue? a
    let low ← hexValue? b
    let bytes ← percentDecoded? rest
    return UInt8.ofNat (16 * high + low) :: bytes
  | c :: rest =>
    if c = '%' || 0x80 ≤ c.toNat then none
    else (UInt8.ofNat c.toNat :: ·) <$> percentDecoded? rest

end ContentGateway.Text
