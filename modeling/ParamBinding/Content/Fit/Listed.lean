import ParamBinding.Content.Fit.Scalar

/-!
# Fitting values that are listed

Literal types and enumerations list their values. A document's value is first looked for among the
values of its own class, then among those that equal it; of several values that equal it the last
one counts.
-/

namespace ParamBinding

/-- The last value of a list with a property. -/
def lastWhere? (p : Value → Bool) (vs : List Value) : Option Value := vs.reverse.find? p

/-- Whether a value is a boolean, an integer or a text. -/
def isBasic : Value → Bool
  | .bool _ | .int _ | .text _ => true
  | _ => false

/-- Whether a value is neither an integer nor a text. -/
def isOther : Value → Bool
  | .int _ | .text _ => false
  | _ => true

/-- The boolean that a value is; a name spells one. -/
def boolOf? (form : DocumentForm) : Value → Option Bool
  | .bool b => some b
  | .text s => if form = .jsonName then Lenient.bool? s else none
  | _ => none

/-- The listed value of the same class. -/
def listedAlike? (form : DocumentForm) (vs : List Value) (v : Value) : Option Value :=
  let alike (w : Value) : Bool := match w, v with
    | .int m, .int n => m == n
    | .text s, .text t => s == t
    | _, _ => false
  let flag := (boolOf? form v).bind fun b => lastWhere? (fun w => w.className = "bool" &&
    w.same (.bool b)) vs
  flag.or (lastWhere? alike vs)

/-- The listed value that a document's value is. An integer that a machine word does not hold is
never looked for among integers. -/
def listed? (form : DocumentForm) (vs : List Value) (v : Value) : Option Value :=
  let isBeyond := match v with
    | .int n => !DecimalNumber.fitsWord n && vs.any fun w => w.className = "int"
    | _ => false
  if isBeyond then none
  else (listedAlike? form vs v).or <|
    (lastWhere? (fun w => isOther w && v.same w) vs).or
      (lastWhere? (fun w => isBasic w && v.same w) vs)

/-- The value that stands for a member of an enumeration. Where the members are of a primitive
class, the document's value is fitted to that class first. -/
def EnumType.valueOf? (form : DocumentForm) (e : EnumType) (v : Value) : Option Value :=
  match e.base with
  | none => listed? form (e.distinct.map (·.2)) v
  | some k => (k.fit form v).map (·.value)

/-- The name of the member that a document's value stands for. A JSON value without a member stands
for the member whose value is `none`; other documents' values stand for members that equal them. -/
def EnumType.named? (form : DocumentForm) (e : EnumType) (v : Value) : Option String :=
  ((e.valueOf? form v).bind e.canonical).or
    (e.canonical (if form = .plain then v else .none))

/-- A member of an enumeration, by its value. -/
def EnumType.fit (form : DocumentForm) (e : EnumType) (v : Value) : Option Fit :=
  (e.named? form v).map fun m => ⟨.member e.cls.name m, .converted⟩

end ParamBinding
