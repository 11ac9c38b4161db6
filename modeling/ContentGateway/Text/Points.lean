import ContentGateway.Text.Quoted

/-!
# Texts with halves of surrogate pairs

A character beyond the basic plane can be escaped by two numbers, the halves of a surrogate pair. A
half that is escaped without the other one stands for no character, and still it is taken into a
text as a point of its own. Such a text can be told from others, quoted and written as JSON, where
the half is escaped again; but it has no UTF-8 form.

Most texts have no such half in them and are strings. A *broken* text has one, and no two halves
that make up a pair stand next to each other in it. Where only characters can stand, a half is shown
as the replacement character.
-/

namespace ContentGateway.Text

/-- A point of a text: a character, or half of a surrogate pair by its place among the halves. -/
inductive Point where
  | char (c : Char)
  | half (n : Fin 0x800)
  deriving DecidableEq

namespace Point

def isHalf : Point → Bool
  | .char _ => false
  | .half _ => true

def isHigh : Point → Bool
  | .char _ => false
  | .half n => n.val < 0x400

def isLow : Point → Bool
  | .char _ => false
  | .half n => 0x400 ≤ n.val

def toNat : Point → Nat
  | .char c => c.toNat
  | .half n => 0xd800 + n.val

/-- The point with a number. -/
def ofNat (n : Nat) : Point :=
  if h : 0xd800 ≤ n ∧ n < 0xe000 then .half ⟨n - 0xd800, by omega⟩ else .char (Char.ofNat n)

/-- The character that is shown for a point. -/
def shown : Point → Char
  | .char c => c
  | .half _ => '\ufffd'

end Point

/-- The points of a text that has no halves. -/
def points (cs : List Char) : List Point := cs.map .char

def mended (ps : List Point) : String := String.ofList (ps.map Point.shown)

/-- Whether the two halves of a pair stand next to each other. -/
def hasPair : List Point → Bool
  | p :: q :: ps => (p.isHigh && q.isLow) || hasPair (q :: ps)
  | _ => false

/-- Whether halves are among some points, and no two make up a pair. -/
def isBroken (ps : List Point) : Bool := ps.any Point.isHalf && !hasPair ps

/-- How a point stands inside the quotes `quote`: a half is not printable. -/
def quotedPoint (quote : Char) : Point → List Char
  | .char c => quotedChar quote c
  | .half n => numericEscape (0xd800 + n.val)

/-- A text with halves that have no other half. -/
structure Broken where
  points : List Point
  unpaired : isBroken points
  deriving DecidableEq

namespace Broken

def mended (t : Broken) : String := Text.mended t.points

def quoted (t : Broken) : String :=
  let quote := quoteFor (t.points.map Point.shown)
  String.ofList (quote :: t.points.flatMap (quotedPoint quote) ++ [quote])

/-- The place of the first half, and how many halves follow each other there. -/
def firstRun (t : Broken) : Nat × Nat :=
  let before := t.points.takeWhile fun p => !p.isHalf
  (before.length, ((t.points.drop before.length).takeWhile Point.isHalf).length)

/-- Why a broken text has no UTF-8 form: its first half is shown, of several only the places. -/
def message (t : Broken) : String :=
  let (first, count) := t.firstRun
  let place := match t.points.drop first, count with
    | p :: _, 1 => "character '" ++ String.ofList (numericEscape p.toNat) ++ "' in position " ++
        toString first
    | _, _ => "characters in position " ++ toString first ++ "-" ++ toString (first + count - 1)
  "'utf-8' codec can't encode " ++ place ++ ": surrogates not allowed"

end Broken

end ContentGateway.Text
