import ParamBinding.Ty.Name

/-!
# Types from their parts

A choice among choices is one choice, in which every type stands once; a choice of one type is that
type; and notes on a type with notes are added to them. So types that are put together by the
functions of this module have one form for each spelling.
-/

namespace ParamBinding.Ty

/-- The choices that a type stands for inside a choice. -/
def choices : Ty → List Ty
  | .optional .barBefore t => [noneType, t]
  | .optional _ t => [t, noneType]
  | .union _ ts => ts
  | t => [t]

/-- Types in order, each once. -/
def distinct (ts : List Ty) : List Ty :=
  ts.foldl (fun us t => if us.any (·.same t) then us else us ++ [t]) []

/-- The choice of one of several types, written with bars or without. -/
def choice (bars : Bool) (ts : List Ty) : Ty :=
  match distinct (ts.flatMap choices) with
  | [t] => t
  | [t, u] =>
    if u.isNone then .optional (if bars then .barAfter else .named) t
    else if t.isNone then .optional (if bars then .barBefore else .named) u
    else .union bars [t, u]
  | us => .union bars us

/-- A type or `none`. -/
def orNone (t : Ty) : Ty := choice false [t, noneType]

/-- Whether a type may stand beside a bar without turning the choice into one without bars. -/
def takesBars : Ty → Bool
  | .scalar _ | .plain _ _ | .enum _ | .model _ _ | .keyedOnly _ => true
  | .sequence n _ _ => n.cls.module = ""
  | .row b _ _ | .tuple b _ => b
  | .map n _ _ _ => n.cls.module = ""
  | .optional form _ => form ≠ .named
  | .union bars _ => bars
  | .generic n _ _ => n = .builtinDeque
  | .annotated _ _ | .literal _ | .callable _ _ | .ellipsis => false

/-- The choice that two types with a bar between them are. -/
def bar (t u : Ty) : Ty := choice (t.takesBars && u.takesBars) [t, u]

/-- A type with notes behind those it has. -/
def withNotes (t : Ty) (ns : List Note) : Ty := .annotated t.bare (t.notes ++ ns)

/-- The type of the given values, each once. -/
def ofValues (vs : List Value) : Ty :=
  .literal (vs.foldl (fun us v => if us.any (·.shown == v.shown) then us else us ++ [v]) [])

/-- A tuple type with the given arguments: none of them, one of them with dots, or one for each
element. -/
def ofTupleArgs (builtin : Bool) (ts : List Ty) : Ty :=
  match ts with
  | [] => .row builtin str .empty
  | [t, .ellipsis] => .row builtin t .dots
  | ts => .tuple builtin ts

/-- A map type with the given arguments. -/
def ofMapArgs (n : MapName) (ts : List Ty) : Ty :=
  match ts with
  | [] => .map n str str false
  | [k] => .keyedOnly k
  | k :: v :: _ => .map n k v true

/-- Integers of a number of bits. -/
def intOf (bits : Int) (signed : Bool) : Ty :=
  .annotated (.scalar { kind := .int }) [.intBounds bits signed]

/-- Floats of a number of bits. -/
def floatOf (bits : Int) : Ty := .annotated (.scalar { kind := .float }) [.floatBits bits]

/-- The numbers with bounds, by their names. -/
def bounded : List (String × Ty) := [
  ("Int8", intOf 8 true), ("Int16", intOf 16 true), ("Int32", intOf 32 true),
  ("Int64", intOf 64 true), ("UInt", intOf 64 false), ("UInt8", intOf 8 false),
  ("UInt16", intOf 16 false), ("UInt32", intOf 32 false), ("UInt64", intOf 64 false),
  ("Float32", floatOf 32), ("Float64", floatOf 64)]

/-- The classes without a structure, by their names. -/
def classes : List (String × ClassName) := [
  ("None", ⟨"", "NoneType"⟩), ("object", ⟨"", "object"⟩), ("Any", ⟨"typing", "Any"⟩),
  ("UUID", ⟨"uuid", "UUID"⟩), ("Decimal", ⟨"decimal", "Decimal"⟩),
  ("datetime", ⟨"datetime", "datetime"⟩), ("date", ⟨"datetime", "date"⟩),
  ("time", ⟨"datetime", "time"⟩), ("timedelta", ⟨"datetime", "timedelta"⟩)]

/-- The primitive classes. -/
def primitives : List Primitive := [.bool, .int, .float, .complex, .text, .bytes]

/-- A primitive class by its name. -/
def primitive? (s : String) : Option Ty :=
  (primitives.find? (·.name = s)).map fun k => .scalar { kind := k }

/-- A generic type by its name and arguments. Without arguments it is not spelled out. -/
def generic? (s : String) (ts : List Ty) (spelled : Bool) : Option Ty :=
  if s = "tuple" || s = "Tuple" then
    some (if spelled then ofTupleArgs (s = "tuple") ts else .row (s = "tuple") str .bare)
  else match SequenceName.all.find? (·.cls.name = s) with
    | some n => some (.sequence n (ts.headD str) (spelled && !ts.isEmpty))
    | none => match MapName.all.find? (·.cls.name = s) with
      | some n => some (ofMapArgs n ts)
      | none => (GenericName.all.find? (·.cls.name = s)).map fun n => .generic n ts spelled

/-- A standard type by its name alone. -/
def named? (s : String) : Option Ty :=
  if s = "..." then some .ellipsis
  else match primitive? s with
    | some t => some t
    | none => match classes.lookup s with
      | some c => some (.plain c none)
      | none => match bounded.lookup s with
        | some t => some t
        | none => generic? s [] false

/-- A standard type by its name and arguments. -/
def applied? (s : String) (ts : List Ty) : Option Ty :=
  if s = "Optional" then ts.head?.map orNone
  else if s = "Union" then some (choice false ts)
  else if s = "|" then match ts with
    | [] => none
    | t :: us => some (us.foldl bar t)
  else generic? s ts true

end ParamBinding.Ty
