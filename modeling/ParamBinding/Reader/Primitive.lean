import ParamBinding.Tag.Reader
import ParamBinding.Ty.Basic
import ParamBinding.Value.Text

/-!
# Reading primitive values

The value of a primitive class that a text writes. Integers are read strictly; floats, complex
numbers and their blanks leniently; texts stand for themselves. The constructor of a subclass has the
last word.

A path variable may arrive as a value that is not a text. `Scalar.accept` says what becomes of it:
some classes convert it, the others fail on it.
-/

namespace ParamBinding

/-- The largest finite number of single precision. -/
def largestSingle : Binary64 := .ofDecimal false 34028234663852886 22

/-- Whether a number is finite and beyond single precision. -/
def exceedsSingle (x : Binary64) : Bool :=
  x.isFinite && x.abs.compare largestSingle == .gt

/-- The fault of a value without a method that readers of texts use. -/
def noMethod (v : Value) (method : String) : Fault :=
  .raised .attribute ("'" ++ v.className ++ "' object has no attribute '" ++ method ++ "'")

/-- A bound of a number of bits; there is none for a negative number of them. -/
def boundOr (bound : Option Int) : Except Fault Int :=
  match bound with
  | some n => .ok n
  | none => .error (.raised .value "negative shift count")

/-- An integer within bounds. The upper one is only looked at when the lower one holds. -/
def checkInt (bounds : Option Note) (s : String) (n : Int) : Except Fault Int :=
  match bounds with
  | some (.intBounds bits signed) => do
    let low ← boundOr (Note.low? bits signed)
    if n < low then .error (.integerRange s signed bits)
    else
      let high ← boundOr (Note.high? bits signed)
      if high < n then .error (.integerRange s signed bits) else .ok n
  | _ => .ok n

/-- The integer that a text writes. -/
def readInt (bounds : Option Note) (s : String) : Except Fault Int :=
  match IntText.read s with
  | .ok n => checkInt bounds s n
  | .error .notNumeral => .error (.notInteger s)
  | .error (.tooManyDigits n) => .error (.tooManyDigits n)

/-- The float that a text writes. -/
def readFloat (bounds : Option Note) (s : String) : Except Fault Binary64 :=
  match FloatText.read? s with
  | none => .error (.notFloat s)
  | some x =>
    if bounds = some (.floatBits 32) && exceedsSingle x then .error (.floatRange s) else .ok x

/-- The boolean that a text writes. -/
def readBool (s : String) : Except Fault Bool :=
  match readBool? s with
  | some b => .ok b
  | none => .error (.notBoolean (Text.quoted s))

/-- The complex number that a text writes. -/
def readComplex (s : String) : Except Fault Value :=
  match ComplexText.read s with
  | .ok (x, y) => .ok (.complex x y)
  | .error p => .error (.notComplex p (String.ofList (ComplexText.normalized s)))

/-- The float that a value converts to. -/
def floatOf (v : Value) : Except Fault Binary64 :=
  match v with
  | .bool b => .ok (if b then .one else .zero)
  | .int n =>
    let x := Binary64.ofInt n
    if x.isInfinite then .error (.raised .overflow "int too large to convert to float") else .ok x
  | .float x => .ok x
  | _ => .error (.raised .type
      ("float() argument must be a string or a real number, not '" ++ v.className ++ "'"))

namespace Scalar

/-- The value of a primitive class that a text writes. -/
def read (sc : Scalar) (bounds : Option Note) (s : String) : Except Fault Value :=
  match sc.kind with
  | .bool => do sc.ofValue (.bool (← readBool s))
  | .int => do sc.ofValue (.int (← readInt bounds s))
  | .float => do sc.ofValue (.float (← readFloat bounds s))
  | .complex => do sc.ofValue (← readComplex s)
  | .text => sc.ofValue (.text s)
  | .bytes => sc.ofValue (.bytes (Text.utf8 s))

/-- What a primitive class makes of a value that is not a text. -/
def accept (sc : Scalar) (bounds : Option Note) (v : Value) : Except Fault Value :=
  match sc.kind with
  | .bool => match v.unhashable? with
    | some u => .error (.unhashable u)
    | none => .error (.notBoolean v.shown)
  | .int => .error (.raised .type
      ("expected string or bytes-like object, got '" ++ v.className ++ "'"))
  | .float => do
    let x ← floatOf v
    if bounds = some (.floatBits 32) && exceedsSingle x then
      .error (.raised .value ("value " ++ v.shown ++ " out of range for float32"))
    else sc.ofValue (.float x)
  | .complex => .error (noMethod v "strip")
  | .text => match sc.subclass with
    | none => .ok v
    | some _ => sc.make (some v) (.text v.asText)
  | .bytes => .error (noMethod v "encode")

end Scalar

end ParamBinding
