import ContentGateway.Decimal.Digits
import ContentGateway.Decimal.PowerOfTwo
import ContentGateway.Decimal.Shortest
import ContentGateway.Value

/-!
# Values as numbers

Whole numbers of any size, binary64 numbers and truth values (as one and zero) are numbers. They are
compared by exact value, whatever their kinds. In arithmetic a whole number that meets a binary64
number is rounded first, and one beyond the finite range is too large for that.

A sequence that is multiplied is repeated, as long as the count and the result are of a size that
can be handled.

The shown forms are those of the retry notices: two decimal places, and a whole number.
-/

namespace ContentGateway

/-- A value as a number. -/
inductive Number where
  | int (i : Int)
  | float (x : Binary64)

namespace Number

def toValue : Number → Value
  | .int i => .int i
  | .float x => .float x

/-- The binary64 number nearest to a number; a whole number may be too large. -/
def toBinary64 : Number → Except Fault Binary64
  | .float x => .ok x
  | .int i =>
    match Binary64.ofInt? i with
    | some x => .ok x
    | none => .error (.misuse .tooLarge)

/-- The order of two numbers by exact value; there is none with NaN. -/
def compare? : Number → Number → Option Ordering
  | .int a, .int b => some (compare a b)
  | .int a, .float y => (y.compareInt? a).map Ordering.swap
  | .float x, .int b => x.compareInt? b
  | .float x, .float y => x.compare? y

/-- The sum of a number and a whole number. -/
def plus (a : Number) (n : Int) : Except Fault Number :=
  match a with
  | .int i => .ok (.int (i + n))
  | .float x => do return .float (x.add (← (Number.int n).toBinary64))

/-- The product of two numbers. -/
def times : Number → Number → Except Fault Number
  | .int a, .int b => .ok (.int (a * b))
  | a, b => do
    let x ← a.toBinary64
    let y ← b.toBinary64
    return .float (x.mul y)

/-- Two to the power of a number: exact for a whole number from zero on, rounded otherwise. A
finite exponent whose power is beyond the finite range is too large. -/
def twoPow (a : Number) : Except Fault Number :=
  match a with
  | .int (.ofNat n) => .ok (.int (Nat.pow 2 n : Nat))
  | a => do
    let x ← a.toBinary64
    match x, x.twoPow with
    | .finite _ _, .infinite _ => .error (.misuse .tooLarge)
    | _, y => return .float y

end Number

namespace Value

def number? : Value → Option Number
  | .bool b => some (.int (if b then 1 else 0))
  | .int i => some (.int i)
  | .float x => some (.float x)
  | _ => none

/-- A value as a number; any other value does not fit. -/
def number (v : Value) : Except Fault Number :=
  match v.number? with
  | some n => .ok n
  | none => .error (.misuse .wrongType)

/-- Whether a value is a number equal to a whole number. -/
def isInt (v : Value) (i : Int) : Bool :=
  match v.number? with
  | some n => n.compare? (.int i) == some .eq
  | none => false

/-- A value moved by a whole number. -/
def plus (v : Value) (n : Int) : Except Fault Value := do
  return (← (← v.number).plus n).toValue

/-- The largest number that can count the elements of a sequence. -/
def largestCount : Nat := 9223372036854775807

/-- The length up to which a sequence is built by repetition. -/
def longestRepetition : Nat := 4294967296

/-- How often a sequence of a length is repeated when so many times are asked for; `excess` is the
misuse where the length of the result could not be counted. -/
def repetitions (excess : Misuse) (times length : Nat) : Except Fault Nat :=
  if largestCount < times then .error (.misuse .tooLarge)
  else if length = 0 then .ok 0
  else if largestCount < times * length then .error (.misuse excess)
  else if longestRepetition < times * length then .error (.misuse .tooLong)
  else .ok times

/-- A value a number of times: numbers are multiplied, sequences repeated a whole number of
times. -/
def times (v : Value) (n : Number) : Except Fault Value :=
  match v, n with
  | .text s, .int i => do
    let count ← repetitions .tooLarge i.toNat s.length
    return .text (String.join (List.replicate count s))
  | .unpaired t, .int i => do
    let count ← repetitions .tooLarge i.toNat t.points.length
    return .ofPoints (List.replicate count t.points).flatten
  | .list items, .int i => do
    let count ← repetitions .tooLong i.toNat items.length
    return .list (List.replicate count items).flatten
  | .bytes data, .int i => do
    let count ← repetitions .tooLarge i.toNat data.length
    return .bytes (List.replicate count data).flatten
  | v, n => do return (← (← v.number).times n).toValue

/-- A number with two decimal places. -/
def twoPlaces (v : Value) : Except Fault String := do
  return (← (← v.number).toBinary64).fixed 2

/-- The text of a whole number. -/
def wholeText (i : Int) : Except Fault String :=
  match Decimal.intText? i with
  | some s => .ok s
  | none => .error (.digitLimit none)

/-- The whole part of a number, toward zero. -/
def wholePart (v : Value) : Except Fault String := do
  match ← v.number with
  | .int i => wholeText i
  | .float x =>
    match x, x.truncate? with
    | _, some i => wholeText i
    | .nan, none => .error (.condition .badValue [.text "cannot convert float NaN to integer"])
    | _, none => .error (.misuse .tooLarge)

end Value

end ContentGateway
