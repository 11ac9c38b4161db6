/-!
# Decimal digits

Unicode gives each script that counts in tens a block of ten consecutive characters, the digits
zero to nine (general category `Nd`). `decimalDigit?` reads any of them; superscripts and fractions
are numeric characters but not decimal digits, and are not read.

`natDigits` writes a number without leading zeros and `digitsValue` reads any digits back. Text and
number are exchanged only up to `digitLimit` digits, the sign not counted and leading zeros counted;
beyond that the exchange is refused, so that hostile input cannot buy quadratic work.
-/

namespace ContentGateway.Text

/-- The zero of each block of decimal digits, in ascending order (Unicode 14). -/
def digitZeros : List Nat := [
    0x0030, 0x0660, 0x06f0, 0x07c0, 0x0966, 0x09e6, 0x0a66, 0x0ae6, 0x0b66,
    0x0be6, 0x0c66, 0x0ce6, 0x0d66, 0x0de6, 0x0e50, 0x0ed0, 0x0f20, 0x1040,
    0x1090, 0x17e0, 0x1810, 0x1946, 0x19d0, 0x1a80, 0x1a90, 0x1b50, 0x1bb0,
    0x1c40, 0x1c50, 0xa620, 0xa8d0, 0xa900, 0xa9d0, 0xa9f0, 0xaa50, 0xabf0,
    0xff10, 0x104a0, 0x10d30, 0x11066, 0x110f0, 0x11136, 0x111d0, 0x112f0, 0x11450,
    0x114d0, 0x11650, 0x116c0, 0x11730, 0x118e0, 0x11950, 0x11c50, 0x11d50, 0x11da0,
    0x16a60, 0x16ac0, 0x16b50, 0x1d7ce, 0x1d7d8, 0x1d7e2, 0x1d7ec, 0x1d7f6, 0x1e140,
    0x1e2f0, 0x1e950, 0x1fbf0]

/-- The digit that a character of some script's block stands for. -/
def decimalDigit? (c : Char) : Option Nat :=
  (digitZeros.find? fun start => start ≤ c.toNat && c.toNat < start + 10).map (c.toNat - ·)

def asciiDigit? (c : Char) : Option Nat :=
  if '0'.toNat ≤ c.toNat && c.toNat ≤ '9'.toNat then some (c.toNat - '0'.toNat) else none

def isAsciiDigit (c : Char) : Bool := '0'.toNat ≤ c.toNat && c.toNat ≤ '9'.toNat

end ContentGateway.Text

namespace ContentGateway.Decimal

/-- The most digits a whole number may have in an exchange with text. -/
def digitLimit : Nat := 4300

/-- The decimal digits of a number, without leading zeros. -/
def natDigits (n : Nat) : List Char := (toString n).toList

/-- The number that digits stand for, in base ten. -/
def digitsValue (digits : List Nat) : Nat := digits.foldl (fun n d => 10 * n + d) 0

/-- The number that ASCII digits stand for; other characters count as zero. -/
def asciiValue (cs : List Char) : Nat := digitsValue (cs.map fun c => (Text.asciiDigit? c).getD 0)

/-- The text of a whole number, a minus sign in front of a negative one. -/
def intText (i : Int) : String := toString i

/-- The text of a whole number, or `none` where it has more digits than are exchanged. -/
def intText? (i : Int) : Option String :=
  if (natDigits i.natAbs).length ≤ digitLimit then some (intText i) else none

end ContentGateway.Decimal
