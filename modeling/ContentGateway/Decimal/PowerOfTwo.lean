import ContentGateway.Decimal.Binary64

/-!
# Powers of two with a binary64 exponent

`twoPow x` is `2 ^ x` rounded to the nearest number. A whole exponent needs no computation beyond
rounding. Otherwise the fraction of the exponent is read bit by bit: each set bit contributes one of
the factors `2 ^ (1/2), 2 ^ (1/4), …`, which are repeated square roots, held as whole multiples of
`2 ^ -precision`. Bits that cannot move the result any more are left out.
-/

namespace ContentGateway.Binary64

/-- The scale of the factors: fractions are whole multiples of `2 ^ -precision`. -/
def precision : Nat := 256

/-- One, as a multiple of the held fraction. -/
def unit : Nat := Nat.pow 2 precision

/-- How many bits of a fraction are read. -/
def fractionBits : Nat := 200

/-- The whole part of a square root, by bisection of `bits` result bits from the highest down. -/
def isqrtFrom (n : Nat) : (bits root : Nat) → Nat
  | 0, root => root
  | bits + 1, root =>
    let next := root + Nat.pow 2 bits
    isqrtFrom n bits (if next * next ≤ n then next else root)

def isqrt (n : Nat) : Nat := isqrtFrom n (n.log2 / 2 + 1) 0

/-- The product of the factors at the set bits of a fraction `num / den` below one; `factor` is the
factor at the next bit. -/
def fractionPower (den : Nat) : (bits num factor product : Nat) → Nat
  | 0, _, _, product => product
  | bits + 1, num, factor, product =>
    if num = 0 then product
    else
      let next := isqrt (factor * unit)
      if den ≤ 2 * num then
        fractionPower den bits (2 * num - den) next (product * next / unit)
      else fractionPower den bits (2 * num) next product

def twoPow : Binary64 → Binary64
  | .nan => .nan
  | .infinite negative => if negative then zero false else .infinite false
  | .finite negative rank =>
    let num := numerator rank
    let den := denominator rank
    let whole := num / den
    let rest := num % den
    if 1100 < whole then (if negative then zero false else .infinite false)
    else if rest = 0 then ofDyadic false 1 (if negative then -(whole : Int) else whole)
    else
      let exponent : Int := if negative then -(whole : Int) - 1 else whole
      let fraction := if negative then den - rest else rest
      let power := fractionPower den fractionBits fraction (2 * unit) unit
      ofDyadic false power (exponent - precision)

end ContentGateway.Binary64
