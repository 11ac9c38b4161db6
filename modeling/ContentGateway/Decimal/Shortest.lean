import ContentGateway.Decimal.Binary64
import ContentGateway.Decimal.Digits

/-!
# Binary64 numbers as decimal text

`shortest` finds, for a positive finite number, a decimal `digits · 10 ^ exponent` that reads back
as that number and has the fewest digits. For `n = 1, 2, …, 17` digits only the two neighbours of
the number on the grid of `n`-digit decimals are tried: if any point of the grid reads back, one of
the neighbours does. Of two that read back the nearer is taken, of two equally near the even one.
Seventeen digits always suffice; should no grid yield one, the exact decimal expansion, which every
binary64 number has, is used.

`text` lays the digits out: positional notation while the point stands at most three places before
the first digit and at most sixteen behind it, otherwise one digit before the point and an exponent
of at least two digits. A whole number in positional notation keeps `.0`.

`fixed` writes a number to a fixed count of places behind the point. The exact value is rounded
once, a tie to the even last digit; a negative number keeps its sign even where every shown digit is
zero.
-/

namespace ContentGateway.Decimal

/-- A decimal `digits · 10 ^ exponent`. -/
structure Scaled where
  digits : Nat
  exponent : Int
  deriving DecidableEq

/-- The binary64 number nearest to a non-negative decimal. -/
def Scaled.toBinary64 (d : Scaled) : Binary64 := Binary64.ofDecimal false d.digits d.exponent

/-- Whether a decimal reads back as the non-negative number of a rank. -/
def Scaled.readsBack (d : Scaled) (rank : Nat) : Bool :=
  match d.toBinary64 with
  | .finite false r => r.val = rank
  | _ => false

/-- How many digits stand before the point of a positive quotient; zero or less counts the zeros
behind the point of a quotient below one. -/
def pointPlace (num den : Nat) : Int :=
  ((natDigits (num * Nat.pow 10 400 / den)).length : Int) - 400

/-- A quotient counted in steps of `10 ^ step`, as a numerator and a denominator. -/
def inSteps (num den : Nat) (step : Int) : Nat × Nat :=
  (num * Nat.pow 10 (-step).toNat, den * Nat.pow 10 step.toNat)

/-- The neighbours of a quotient on a grid of decimals, the nearer first. -/
def neighbours (num den : Nat) (step : Int) : List Scaled :=
  let (n, d) := inSteps num den step
  let below := n / d
  let nearest := Binary64.roundDiv n d
  let other := if nearest = below then below + 1 else below
  [⟨nearest, step⟩, ⟨other, step⟩]

/-- The neighbour with `n` digits that reads back as the number of a rank, if one does. -/
def withDigits? (rank n : Nat) : Option Scaled :=
  let num := Binary64.numerator rank
  let den := Binary64.denominator rank
  (neighbours num den (pointPlace num den - n)).find? (·.readsBack rank)

/-- The exact decimal expansion of the number of a rank. -/
def exact (rank : Nat) : Scaled :=
  let e := Binary64.exponent rank
  ⟨Binary64.significand rank * Nat.pow 2 e.toNat * Nat.pow 5 (-e).toNat, min e 0⟩

/-- The shortest decimal that reads back as the number of a rank. -/
def shortest (rank : Nat) : Scaled :=
  (((List.range 17).map (· + 1)).findSome? (withDigits? rank)).getD (exact rank)

/-! ## Notation -/

/-- The digits without the zeros at their end. -/
def significant (digits : List Char) : List Char :=
  (digits.reverse.dropWhile (· = '0')).reverse

def exponentText (e : Int) : List Char :=
  let digits := natDigits e.natAbs
  (if e < 0 then '-' else '+') :: (if digits.length < 2 then '0' :: digits else digits)

/-- The digits of a positive number whose point stands behind the first `point` of them. -/
def layout (digits : List Char) (point : Int) : List Char :=
  if -4 < point ∧ point ≤ 16 then
    if point ≤ 0 then '0' :: '.' :: List.replicate (-point).toNat '0' ++ digits
    else
      let whole := point.toNat
      if digits.length ≤ whole then
        digits ++ List.replicate (whole - digits.length) '0' ++ ['.', '0']
      else digits.take whole ++ '.' :: digits.drop whole
  else
    match digits with
    | [] => []
    | d :: rest =>
      d :: (if rest.isEmpty then [] else '.' :: rest) ++ 'e' :: exponentText (point - 1)

/-- The text of the non-negative number of a rank. -/
def rankText (rank : Nat) : List Char :=
  if rank = 0 then ['0', '.', '0']
  else
    let d := shortest rank
    let digits := natDigits d.digits
    layout (significant digits) (digits.length + d.exponent)

end ContentGateway.Decimal

namespace ContentGateway.Binary64

/-- The shortest text of a number that reads back as it. -/
def text : Binary64 → String
  | .nan => "nan"
  | .infinite negative => if negative then "-inf" else "inf"
  | .finite negative rank =>
    String.ofList (if negative then '-' :: Decimal.rankText rank else Decimal.rankText rank)

end ContentGateway.Binary64

/-! ## Fixed places -/

namespace ContentGateway.Binary64

/-- The digits of a whole number of units in the last of `places` places. -/
def placesText (places units : Nat) : List Char :=
  let digits := Decimal.natDigits units
  let padded := List.replicate (places + 1 - digits.length) '0' ++ digits
  padded.take (padded.length - places) ++ '.' :: padded.drop (padded.length - places)

/-- The text of a number to `places` places. -/
def fixed (places : Nat) : Binary64 → String
  | .nan => "nan"
  | .infinite negative => if negative then "-inf" else "inf"
  | .finite negative rank =>
    let units := roundDiv (numerator rank * Nat.pow 10 places) (denominator rank)
    String.ofList (if negative then '-' :: placesText places units else placesText places units)

end ContentGateway.Binary64
