import ContentGateway.Value.Number

/-!
# Equality and order of values

Values are the same if they are numbers of one exact value, or of one kind and the same part by
part. The fields of an object may stand in any order for that. NaN is the same as nothing, and so is
a fault, which only stands for itself.

Numbers are ordered by value, texts by their characters, bytes by their numbers and lists by the
first items that are not the same. No other two values can be ordered, so a list that meets such
items has no place either; items that are the same need no order among them.
-/

namespace ContentGateway.Value

mutual

/-- Whether two values are the same. -/
def same : Value → Value → Bool
  | .null, w => w.isNull
  | .text s, .text t => s = t
  | .unpaired s, .unpaired t => s = t
  | .bytes s, .bytes t => s = t
  | .list vs, .list ws => sameItems vs ws
  | .dict fields, .dict others => fields.length = others.length && sameFields fields others
  | v, w =>
    match v.number?, w.number? with
    | some m, some n => m.compare? n == some .eq
    | _, _ => false

def sameItems : List Value → List Value → Bool
  | [], ws => ws.isEmpty
  | _ :: _, [] => false
  | v :: vs, w :: ws => v.same w && sameItems vs ws

/-- Whether another object has every field, with the same value. -/
def sameFields : Fields → Fields → Bool
  | [], _ => true
  | (name, v) :: fields, others =>
    match Fields.find? name others with
    | some w => v.same w && sameFields fields others
    | none => false

end

/-- How two things of a linear order stand to each other. -/
def orderBy {α : Type} [LT α] [DecidableLT α] [DecidableEq α] (a b : α) : Ordering :=
  if a < b then .lt else if a = b then .eq else .gt

mutual

/-- The order of two values; there is none with NaN. -/
def order : Value → Value → Except Fault (Option Ordering)
  | .text s, .text t => .ok (some (orderBy s t))
  | .text s, .unpaired t =>
    .ok (some (orderBy (s.toList.map Char.toNat) (t.points.map Text.Point.toNat)))
  | .unpaired s, .text t =>
    .ok (some (orderBy (s.points.map Text.Point.toNat) (t.toList.map Char.toNat)))
  | .unpaired s, .unpaired t =>
    .ok (some (orderBy (s.points.map Text.Point.toNat) (t.points.map Text.Point.toNat)))
  | .bytes s, .bytes t => .ok (some (orderBy (s.map UInt8.toNat) (t.map UInt8.toNat)))
  | .list vs, .list ws => orderItems vs ws
  | v, w =>
    match v.number?, w.number? with
    | some m, some n => .ok (m.compare? n)
    | _, _ => .error (.misuse .wrongType)

/-- The order of two lists, which the first items that are not the same decide. -/
def orderItems : List Value → List Value → Except Fault (Option Ordering)
  | [], [] => .ok (some .eq)
  | [], _ :: _ => .ok (some .lt)
  | _ :: _, [] => .ok (some .gt)
  | v :: vs, w :: ws => if v.same w then orderItems vs ws else v.order w

end

def atMost (a b : Value) : Except Fault Bool := do
  match ← a.order b with
  | some .lt | some .eq => return true
  | _ => return false

def atLeast (a b : Value) : Except Fault Bool := do
  match ← a.order b with
  | some .gt | some .eq => return true
  | _ => return false

def lessThan (a b : Value) : Except Fault Bool := do
  match ← a.order b with
  | some .lt => return true
  | _ => return false

end ContentGateway.Value
