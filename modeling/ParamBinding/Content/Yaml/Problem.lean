import ParamBinding.Time.Calendar

/-!
# Why a document has no value

A document may be malformed: its characters, its structure, its names for values, and the tags that
do not suit the values they stand in front of. A value that is well-formed can still be no number,
no date, or no character.
-/

namespace ParamBinding.Yaml

/-- Why a document has no value. -/
inductive Problem where
  | malformed
  /-- There is no character with the number of an escape. -/
  | escape (code : Nat)
  | notBoolean (text : String)
  /-- Nothing stands where a number has to be. -/
  | emptyNumber
  | notInteger (base : Nat) (text : String)
  | tooManyDigits (count : Nat)
  | notFloat (text : String)
  /-- The value of a place in base sixty is beyond all floats. -/
  | beyondFloat
  /-- A value that is tagged as a point in time does not have its form. -/
  | notTimestamp
  /-- A value that is tagged as a point in time is a mapping. -/
  | notText
  | calendar (p : CalendarProblem)
  deriving DecidableEq, Repr

/-- Whatever is missing makes a document malformed. -/
def orMalformed {α : Type} : Option α → Except Problem α
  | some x => .ok x
  | none => .error .malformed

/-- A document is malformed unless a condition holds. -/
def require (b : Bool) : Except Problem Unit := if b then .ok () else .error .malformed

end ParamBinding.Yaml
