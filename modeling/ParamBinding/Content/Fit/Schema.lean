import ParamBinding.Ty.Basic

/-!
# Types that have documents

Documents can be decoded into most types, but not into all. Why a type has no documents is found out
before any document is looked at: the first obstacle in the order in which the parts of the type are
written.
-/

namespace ParamBinding.Ty

/-- Whether any value will do. -/
def isAny : Ty → Bool
  | .plain c _ => c.path = "typing.Any" || c.path = "object"
  | .annotated t _ => t.isAny
  | _ => false

/-- The standard classes that documents can be decoded into. -/
def documentClasses : List String := ["typing.Any", "object", "NoneType", "uuid.UUID",
  "decimal.Decimal", "datetime.datetime", "datetime.date", "datetime.time", "datetime.timedelta"]

/-- Whether a type stands for elements without an end. -/
def isEllipsis : Ty → Bool
  | .ellipsis => true
  | _ => false

/-- A map type that says what its keys are has to say what its values are. -/
def keyedOnlyFault : Fault :=
  .raised .type "Expected two type arguments for <class 'dict'>, got 1"

/-- Dots stand behind one type only. -/
def dotsFault : Fault := .raised .value "Variable tuples can only have one type"

mutual

/-- Why there are no documents for a type, if there are none. -/
def schemaFault? : Ty → Option Fault
  | .scalar s => if s.subclass.isNone then none else some .noSchema
  | .plain c _ => if documentClasses.contains c.path then none else some .noSchema
  | .enum _ | .literal _ | .callable _ _ => none
  | .model _ ms => memberFault? ms
  | .sequence n e spelled =>
    if n = .collection then some .noSchema else if spelled then schemaFault? e else none
  | .row _ e form => match form with
    | .dots => schemaFault? e
    | _ => none
  | .tuple _ es =>
    if (es.getLast?.map isEllipsis).getD false then some dotsFault else firstFault? es
  | .map _ k v spelled => if spelled then (schemaFault? k).or (schemaFault? v) else none
  | .optional _ t | .annotated t _ => schemaFault? t
  | .union _ ts => firstFault? ts
  | .keyedOnly _ => some keyedOnlyFault
  | .generic n ts _ => match n with
    | .callable => none
    | .builtinDeque | .deque | .orderedDict => firstFault? ts
    | _ => some .noSchema
  | .ellipsis => some .noSchema

/-- Why there are no documents for one of several types. -/
def firstFault? : List Ty → Option Fault
  | [] => none
  | t :: ts => (schemaFault? t).or (firstFault? ts)

/-- Why there are no documents for one of the fields that documents can set. -/
def memberFault? : List (Member Ty) → Option Fault
  | [] => none
  | m :: ms =>
    (if !m.isParameter && m.initial.isNone then none else schemaFault? m.type).or (memberFault? ms)

end

end ParamBinding.Ty
