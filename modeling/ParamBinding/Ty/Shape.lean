import ParamBinding.Ty.Basic

/-!
# Shapes and zeros

The shape of a type is what a decoder has to know about it at its outermost level, whatever its
spelling. Every type has a zero, the value of a required field that no data has reached: empty, zero
or `none`, and for a model a new instance.
-/

namespace ParamBinding

/-- The outermost level of a type. -/
inductive Shape where
  | primitive (s : Scalar) (bounds : Option Note)
  | optional (inner : Ty)
  | slice (c : Collection) (elem : Ty)
  | array (elems : List Ty)
  | map (key value : Ty)
  | struct (head : ModelHead) (members : List (Member Ty))
  | unsupported
  /-- A map type without a type for its values. -/
  | malformed

namespace Collection

/-- A collection with the given elements in order. Equal elements are not removed. -/
def wrap : Collection → List Value → Value
  | list => .list
  | tuple => .tuple
  | set => .set
  | frozenSet => .frozenSet

/-- The empty collection. -/
def empty (c : Collection) : Value := c.wrap []

/-- The name of a collection. -/
def name : Collection → String
  | list => "list"
  | tuple => "tuple"
  | set => "set"
  | frozenSet => "frozenset"

end Collection

namespace Ty

/-- The shape of a type. -/
def shape (t : Ty) : Shape :=
  match t.bare with
  | .scalar s => .primitive s (t.notes.find? Note.isBound)
  | .model h ms => .struct h ms
  | .sequence n e _ => .slice n.gathers e
  | .row _ e _ => .slice .tuple e
  | .tuple _ es => .array es
  | .map _ k v _ => .map k v
  | .keyedOnly _ => .malformed
  | .optional _ u => .optional u
  | _ => .unsupported

mutual

/-- The zero of a type is found by its shape, and so is that of every place of a tuple. -/
def checkZero : Ty → Except Fault Unit
  | .tuple _ es => checkZeros es
  | .keyedOnly _ => .error .missingTypeArgument
  | .annotated t _ => checkZero t
  | .scalar _ | .plain _ _ | .enum _ | .model _ _ | .sequence _ _ _ | .row _ _ _ | .map _ _ _ _
  | .optional _ _ | .union _ _ | .literal _ | .callable _ _ | .generic _ _ _ | .ellipsis => .ok ()

/-- The zeros of several types are found by their shapes. -/
def checkZeros : List Ty → Except Fault Unit
  | [] => .ok ()
  | t :: ts => do
    checkZero t
    checkZeros ts

end

/-- The zeros that fields start with are all found before any of them is made. -/
def checkStarts (ms : List (Member Ty)) : Except Fault Unit :=
  checkZeros ((ms.filter fun m => m.initial.isNone && m.isParameter).map (·.type))

mutual

/-- The zero of a type. -/
def zero : Ty → Except Fault Value
  | .scalar s => s.make none s.kind.zero
  | .model h ms => do
    checkStarts ms
    let fs ← newFields ms
    (h.make fs).map .model
  | .sequence n _ _ => .ok n.gathers.empty
  | .row _ _ _ => .ok (.tuple [])
  | .tuple _ es => do
    checkZeros es
    (zeros es).map .tuple
  | .map _ _ _ _ => .ok (.map [])
  | .keyedOnly _ => .error .missingTypeArgument
  | .annotated t _ => zero t
  | .plain _ _ | .enum _ | .optional _ _ | .union _ _ | .literal _ | .callable _ _
  | .generic _ _ _ | .ellipsis => .ok .none

/-- The zeros of several types. -/
def zeros : List Ty → Except Fault (List Value)
  | [] => .ok []
  | t :: ts => do
    let v ← zero t
    let vs ← zeros ts
    .ok (v :: vs)

/-- The fields of a new instance. -/
def newFields : List (Member Ty) → Except Fault (List (String × Option Value))
  | [] => .ok []
  | m :: ms => do
    let v ← match m.initial with
      | some v => .ok (some v)
      | none => if m.isParameter then (zero m.type).map some else .ok none
    let rest ← newFields ms
    .ok ((m.name, v) :: rest)

end

end Ty

/-- A new instance of a model: every field holds its own initial value or the zero of its type. -/
def ModelHead.newInstance (h : ModelHead) (ms : List (Member Ty)) :
    Except Fault (Record Value) := do
  Ty.checkStarts ms
  let fs ← Ty.newFields ms
  h.make fs

end ParamBinding
