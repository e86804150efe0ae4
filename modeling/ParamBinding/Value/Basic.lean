import ParamBinding.Number.Binary64
import ParamBinding.Number.DecimalText
import ParamBinding.Text.Utf8
import ParamBinding.Time.Calendar

/-!
# Values

What a field of a model can hold: numbers, texts, points in time, collections, members of
enumerations, and models themselves, which are records of named fields. A field may be unset.
-/

namespace ParamBinding

/-- An instance of a model: its fields in the order of their declaration, each with its value or
unset. -/
structure Record (α : Type) where
  model : String
  /-- Whether instances are values that cannot change, so that they may be elements of sets. -/
  frozen : Bool
  fields : List (String × Option α)
  deriving Repr

namespace Record

variable {α : Type}

/-- The value of a field that is set. -/
def get? (r : Record α) (field : String) : Option α := (r.fields.lookup field).join

/-- The record with a value put into a field. Other fields are left alone. -/
def set (r : Record α) (field : String) (v : α) : Record α :=
  { r with fields := r.fields.map fun f => if f.1 = field then (f.1, some v) else f }

end Record

/-- A value. -/
inductive Value where
  | none
  | bool (b : Bool)
  | int (n : Int)
  | float (x : Binary64)
  | complex (re im : Binary64)
  | text (s : String)
  | bytes (b : Bytes)
  | list (xs : List Value)
  | tuple (xs : List Value)
  /-- A set that can change; the order of its elements carries no meaning. -/
  | set (xs : List Value)
  /-- A set that cannot change. -/
  | frozenSet (xs : List Value)
  /-- A map, in the order in which its keys were put in first. -/
  | map (entries : List (Value × Value))
  /-- A member of an enumeration, under the first of its names. -/
  | member (enum name : String)
  | uuid (n : Nat)
  | decimal (d : DecimalNumber)
  | dateTime (d : DateTime)
  | date (d : Date)
  | time (t : TimeOfDay)
  | duration (d : Duration)
  /-- An instance of a class of its own, which equals nothing but itself. -/
  | object (cls : String) (content : Value)
  /-- An instance of a named subclass of a primitive class. -/
  | sub (cls : String) (content : Value)
  | model (r : Record Value)
  deriving Repr, Inhabited

namespace Value

/-- The value without the name of a subclass. -/
def bare : Value → Value
  | .sub _ v => v
  | v => v

/-- The name of the class of a value. -/
def className : Value → String
  | .none => "NoneType"
  | .bool _ => "bool"
  | .int _ => "int"
  | .float _ => "float"
  | .complex _ _ => "complex"
  | .text _ => "str"
  | .bytes _ => "bytes"
  | .list _ => "list"
  | .tuple _ => "tuple"
  | .set _ => "set"
  | .frozenSet _ => "frozenset"
  | .map _ => "dict"
  | .member e _ => e
  | .uuid _ => "UUID"
  | .decimal _ => "decimal.Decimal"
  | .dateTime _ => "datetime.datetime"
  | .date _ => "datetime.date"
  | .time _ => "datetime.time"
  | .duration _ => "datetime.timedelta"
  | .object c _ => c
  | .sub c _ => c
  | .model r => r.model

end Value

end ParamBinding
