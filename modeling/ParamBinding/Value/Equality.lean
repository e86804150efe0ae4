import ParamBinding.Value.Basic

/-!
# Equality of values

Two values may be equal without being written alike: numbers are equal across booleans, integers,
floats, decimal numbers and complex numbers that are real, texts and numbers of a subclass equal
those of their class, and the order of a set does not count. Sets hold each value once and maps each
key once; putting in an equal key again keeps the key that is there.
-/

namespace ParamBinding.Value

/-- A real number: an integer, a float or a decimal number. -/
inductive Real where
  | int (n : Int)
  | float (x : Binary64)
  | decimal (d : DecimalNumber)

/-- The number that a value is, if it is a real number. -/
def real? : Value → Option Real
  | .bool b => some (.int (if b then 1 else 0))
  | .int n => some (.int n)
  | .float x => some (.float x)
  | .decimal d => some (.decimal d)
  | .complex re im => if im.isZero then some (.float re) else .none
  | _ => .none

/-- A real number as a decimal number, which may have more digits than are written. -/
def Real.asDecimal : Real → DecimalNumber
  | .int n => .finite (n < 0) n.natAbs 0
  | .float x => .ofBinary64 x
  | .decimal d => d

/-- Equality of real numbers. -/
def Real.same : Real → Real → Bool
  | .int m, .int n => m == n
  | .float x, .float y => x.same y
  | .int m, .float y => y.toInt? == some m
  | .float x, .int n => x.toInt? == some n
  | x, y => x.asDecimal.same y.asDecimal

/-- Equality of values that hold no other values. -/
def sameScalar (v w : Value) : Bool :=
  match real? v, real? w with
  | some x, some y => x.same y
  | _, _ =>
    match v, w with
    | .none, .none => true
    | .complex a b, .complex c d => a.same c && b.same d
    | .text s, .text t => s == t
    | .bytes b, .bytes c => b == c
    | .member e m, .member f n => e == f && m == n
    | .uuid m, .uuid n => m == n
    | .dateTime d, .dateTime e => d.same e
    | .date d, .date e => d == e
    | .time s, .time t => s.same t
    | .duration d, .duration e => d == e
    | _, _ => false

mutual

/-- Equality of values. -/
def same : Value → Value → Bool
  | .list xs, w => match w with
    | .list ys => sameList xs ys
    | _ => false
  | .tuple xs, w => match w with
    | .tuple ys => sameList xs ys
    | _ => false
  | .set xs, w => match w with
    | .set ys | .frozenSet ys => xs.length == ys.length && allAmong xs ys
    | _ => false
  | .frozenSet xs, w => match w with
    | .set ys | .frozenSet ys => xs.length == ys.length && allAmong xs ys
    | _ => false
  | .map xs, w => match w with
    | .map ys => xs.length == ys.length && sameEntries xs ys
    | _ => false
  | .model r, w => match w with
    | .model s => r.model == s.model && sameFields r.fields s.fields
    | _ => false
  | .sub _ v, w => sameScalar v w.bare
  | v, w => sameScalar v w.bare
termination_by structural v => v

/-- Equality of lists of values, element by element. -/
def sameList : List Value → List Value → Bool
  | [], [] => true
  | x :: xs, y :: ys => same x y && sameList xs ys
  | _, _ => false
termination_by structural xs => xs

/-- Whether every value of the first list equals one of the second. -/
def allAmong : List Value → List Value → Bool
  | [], _ => true
  | x :: xs, ys => ys.any (same x ·) && allAmong xs ys
termination_by structural xs => xs

/-- Whether every entry of the first map is in the second. -/
def sameEntries : List (Value × Value) → List (Value × Value) → Bool
  | [], _ => true
  | (k, v) :: xs, ys => ys.any (fun e => same k e.1 && same v e.2) && sameEntries xs ys
termination_by structural xs => xs

/-- Equality of fields, one by one. -/
def sameFields : List (String × Option Value) → List (String × Option Value) → Bool
  | [], [] => true
  | (_, some v) :: xs, (_, some w) :: ys => same v w && sameFields xs ys
  | (_, .none) :: xs, (_, .none) :: ys => sameFields xs ys
  | _, _ => false
termination_by structural xs => xs

end

/-- A set with a value put in. -/
def insertElement (xs : List Value) (v : Value) : List Value :=
  if xs.any (v.same ·) then xs else xs ++ [v]

/-- A map with a value put in under a key. -/
def insertEntry (entries : List (Value × Value)) (k v : Value) : List (Value × Value) :=
  if entries.any (fun e => k.same e.1) then
    entries.map fun e => if k.same e.1 then (e.1, v) else e
  else entries ++ [(k, v)]

/-- Why a value cannot be an element of a set or a key of a map. -/
inductive Unhashable where
  /-- Values of the class can change. -/
  | mutable (cls : String)
  /-- A not-a-number value that demands attention. -/
  | signalingNan
  /-- A field that would have to be looked at is unset. -/
  | unset (model field : String)
  deriving DecidableEq, Repr

mutual

/-- Why a value cannot be an element of a set, if it cannot. -/
def unhashable? : Value → Option Unhashable
  | .list _ => some (.mutable "list")
  | .set _ => some (.mutable "set")
  | .map _ => some (.mutable "dict")
  | .tuple xs => firstUnhashable? xs
  | .decimal (.nan _ true _) => some .signalingNan
  | .model r =>
    if r.frozen then
      match r.fields.find? (·.2.isNone) with
      | some (f, _) => some (.unset r.model f)
      | .none => firstUnhashableField? r.fields
    else some (.mutable r.model)
  | _ => .none

/-- The first obstacle among the elements of a tuple. -/
def firstUnhashable? : List Value → Option Unhashable
  | [] => .none
  | x :: xs => match unhashable? x with
    | some u => some u
    | .none => firstUnhashable? xs

/-- The first obstacle among fields that are set. -/
def firstUnhashableField? : List (String × Option Value) → Option Unhashable
  | [] => .none
  | (_, .none) :: fs => firstUnhashableField? fs
  | (_, some v) :: fs => match unhashable? v with
    | some u => some u
    | .none => firstUnhashableField? fs

end

end ParamBinding.Value
