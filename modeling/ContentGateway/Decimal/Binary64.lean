/-!
# Binary64 numbers, exactly

A finite number is held by its sign and its *rank*, its place among the non-negative finite numbers
in ascending order: rank `0` is zero, rank `1` the least positive number. The ranks with one leading
bit pattern share an exponent, so `significand` and `exponent` read a rank as `m · 2 ^ e`, and each
number has exactly one representation.

Every operation computes the exact result as a quotient of natural numbers and rounds once with
`ofRatio`: to the nearest representable number, a tie to the even rank, and to infinity from half a
step above the largest finite number on. No machine arithmetic is involved.
-/

namespace ContentGateway

/-- The number of ranks that share an exponent. -/
abbrev Binary64.blockSize : Nat := Nat.pow 2 52

/-- The number of ranks of finite numbers. -/
abbrev Binary64.rankLimit : Nat := 2047 * blockSize

/-- A binary64 number; there is one NaN. -/
inductive Binary64 where
  | nan
  | infinite (negative : Bool)
  | finite (negative : Bool) (rank : Fin Binary64.rankLimit)
  deriving DecidableEq

namespace Binary64

def zero (negative : Bool) : Binary64 := .finite negative 0

/-! ## Reading a rank -/

def significand (rank : Nat) : Nat :=
  if rank < blockSize then rank else blockSize + rank % blockSize

def exponent (rank : Nat) : Int :=
  if rank < blockSize then -1074 else (rank / blockSize : Nat) - 1075

def numerator (rank : Nat) : Nat := significand rank * Nat.pow 2 (exponent rank).toNat

/-- The denominator of the magnitude of a rank, a power of two. -/
def denominator (rank : Nat) : Nat := Nat.pow 2 (-exponent rank).toNat

/-! ## Rounding -/

/-- The whole number nearest to a quotient, of two equally near the even one. -/
def roundDiv (num den : Nat) : Nat :=
  let below := num / den
  let rest := num % den
  if 2 * rest < den then below
  else if den < 2 * rest then below + 1
  else if below % 2 = 0 then below
  else below + 1

/-- The exponent of the last place of the format at a quotient: 53 bits from its leading bit, and
never below the exponent of the least positive number. -/
def lastPlace (num den : Nat) : Int :=
  if num = 0 then -1074
  else
    let guess : Int := (num.log2 : Int) - den.log2
    let leading :=
      if num * Nat.pow 2 (-guess).toNat < den * Nat.pow 2 guess.toNat then guess - 1 else guess
    max (leading - 52) (-1074)

/-- The number nearest to a quotient, with the given sign. -/
def ofRatio (negative : Bool) (num den : Nat) : Binary64 :=
  if num = 0 then zero negative
  else
    let e := lastPlace num den
    let steps := roundDiv (num * Nat.pow 2 (-e).toNat) (den * Nat.pow 2 e.toNat)
    let rank := (e + 1074).toNat * blockSize + steps
    if h : rank < rankLimit then .finite negative ⟨rank, h⟩ else .infinite negative

/-- The number nearest to `m · 2 ^ e`, with the given sign. -/
def ofDyadic (negative : Bool) (m : Nat) (e : Int) : Binary64 :=
  ofRatio negative (m * Nat.pow 2 e.toNat) (Nat.pow 2 (-e).toNat)

/-- The number nearest to `m · 10 ^ e`, with the given sign. Powers far outside the range are not
computed: they are infinity above and zero below. -/
def ofDecimal (negative : Bool) (m : Nat) (e : Int) : Binary64 :=
  if m = 0 then zero negative
  else
    let width : Int := (toString m).length
    if 310 < width + e then .infinite negative
    else if width + e < -330 then zero negative
    else ofRatio negative (m * Nat.pow 10 e.toNat) (Nat.pow 10 (-e).toNat)

/-! ## Whole numbers -/

/-- The number nearest to a whole number, or `none` beyond the finite range. -/
def ofInt? (i : Int) : Option Binary64 :=
  match ofRatio (decide (i < 0)) i.natAbs 1 with
  | .infinite _ => none
  | x => some x

/-- The whole part of a finite number, toward zero. -/
def truncate? : Binary64 → Option Int
  | .finite negative rank =>
    let whole : Int := (numerator rank / denominator rank : Nat)
    some (if negative then -whole else whole)
  | _ => none

def isWhole : Binary64 → Bool
  | .finite _ rank => numerator rank % denominator rank = 0
  | _ => false

def isZero : Binary64 → Bool
  | .finite _ rank => rank.val = 0
  | _ => false

/-! ## Arithmetic -/

/-- The product, rounded once. -/
def mul : Binary64 → Binary64 → Binary64
  | .nan, _ => .nan
  | _, .nan => .nan
  | .infinite s, .infinite t => .infinite (s != t)
  | .infinite s, .finite t rank => if rank.val = 0 then .nan else .infinite (s != t)
  | .finite s rank, .infinite t => if rank.val = 0 then .nan else .infinite (s != t)
  | .finite s a, .finite t b =>
    ofDyadic (s != t) (significand a * significand b) (exponent a + exponent b)

/-- A finite number as a whole multiple of `2 ^ e`, where `e` is at most its own exponent. -/
def multiple (negative : Bool) (rank : Nat) (e : Int) : Int :=
  let m : Int := (significand rank * Nat.pow 2 (exponent rank - e).toNat : Nat)
  if negative then -m else m

/-- The sum, rounded once; two zeros of different sign add up to positive zero. -/
def add : Binary64 → Binary64 → Binary64
  | .nan, _ => .nan
  | _, .nan => .nan
  | .infinite s, .infinite t => if s = t then .infinite s else .nan
  | .infinite s, .finite _ _ => .infinite s
  | .finite _ _, .infinite t => .infinite t
  | .finite s a, .finite t b =>
    let e := min (exponent a) (exponent b)
    let total := multiple s a e + multiple t b e
    if total = 0 then zero (s && t)
    else ofDyadic (decide (total < 0)) total.natAbs e

/-! ## Order -/

/-- The order of two finite numbers by their exact values; both zeros are equal. -/
def compareFinite (s : Bool) (a : Nat) (t : Bool) (b : Nat) : Ordering :=
  let e := min (exponent a) (exponent b)
  compare (multiple s a e) (multiple t b e)

/-- The order of two numbers, `none` where one is NaN. -/
def compare? : Binary64 → Binary64 → Option Ordering
  | .nan, _ => none
  | _, .nan => none
  | .infinite s, .infinite t => some (if s = t then .eq else if s then .lt else .gt)
  | .infinite s, .finite _ _ => some (if s then .lt else .gt)
  | .finite _ _, .infinite t => some (if t then .gt else .lt)
  | .finite s a, .finite t b => some (compareFinite s a t b)

/-- The order of a number and a whole number of any size, `none` for NaN. -/
def compareInt? : Binary64 → Int → Option Ordering
  | .nan, _ => none
  | .infinite s, _ => some (if s then .lt else .gt)
  | .finite s rank, i =>
    let m : Int := numerator rank
    some (compare (if s then -m else m) (i * denominator rank))

end Binary64

end ContentGateway
