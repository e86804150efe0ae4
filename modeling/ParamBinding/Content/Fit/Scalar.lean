import ParamBinding.Content.Fit.Tally
import ParamBinding.Content.LenientTime
import ParamBinding.Ty.Basic
import ParamBinding.Value.Decimal

/-!
# Fitting single values

The values of primitive and standard classes that documents write. Texts may spell values of other
classes, and numbers count as numbers of other kinds and as points in time.
-/

namespace ParamBinding

open ParamBinding.Text

/-- The text that a value is or, outside JSON, that its bytes write. -/
def textOf? : Value → Option String
  | .text s => some s
  | .bytes b => (decodeUtf8 b).toOption
  | _ => none

/-! ### Primitive classes -/

/-- A boolean. -/
def fitBool (form : DocumentForm) (v : Value) : Option Fit :=
  match v with
  | .bool b => some { value := .bool b }
  | .int n => if n = 0 || n = 1 then some ⟨.bool (n = 1), .converted⟩ else none
  | .float x => match x.toInt? with
    | some n => if n = 0 || n = 1 then some ⟨.bool (n = 1), .converted⟩ else none
    | none => none
  | v => (textOf? v).bind fun s => (Lenient.bool? s).map fun b => ⟨.bool b, form.reading⟩

/-- An integer. Floats have to be whole and between the ends of the range of 64 bits. -/
def fitInt (form : DocumentForm) (v : Value) : Option Fit :=
  match v with
  | .bool b => some ⟨.int (if b then 1 else 0), .converted⟩
  | .int n => some { value := .int n }
  | .float x => match x.toInt? with
    | some n => if -Int.pow 2 63 < n && n < Int.pow 2 63 then some ⟨.int n, .converted⟩ else none
    | none => none
  | v => (textOf? v).bind fun s => (Lenient.int? s).map fun n => ⟨.int n, form.reading⟩

/-- The float nearest to an integer. In JSON it may be infinite. -/
def floatOfInt? (form : DocumentForm) (n : Int) : Option Binary64 :=
  let x := Binary64.ofInt n
  if form = .plain && x.isInfinite then none else some x

/-- A float. -/
def fitFloat (form : DocumentForm) (v : Value) : Option Fit :=
  match v with
  | .bool b => some ⟨.float (if b then .one else .zero), .converted⟩
  | .int n => (floatOfInt? form n).map fun x => ⟨.float x, .widened⟩
  | .float x => some { value := .float x }
  | v => (textOf? v).bind fun s => (Lenient.float? s).map fun x => ⟨.float x, form.reading⟩

/-- A complex number. JSON integers have to be within 64 bits. -/
def fitComplex (form : DocumentForm) (v : Value) : Option Fit :=
  match v with
  | .bool b =>
    if form = .plain then some ⟨.complex (if b then .one else .zero) .zero, .converted⟩ else none
  | .int n =>
    if form = .plain || DecimalNumber.fitsWord n then
      (floatOfInt? form n).map fun x => ⟨.complex x .zero, form.spelling⟩
    else none
  | .float x => some ⟨.complex x .zero, form.spelling⟩
  | .text s => match ComplexText.readWithUnit s.toList with
    | .ok (x, y) => some ⟨.complex x y, form.spelling⟩
    | .error _ => none
  | _ => none

/-- A text. -/
def fitText (form : DocumentForm) (v : Value) : Option Fit :=
  match v with
  | .text s => some ⟨.text s, form.keeping⟩
  | .bytes b => match decodeUtf8 b with
    | .ok s => some ⟨.text s, .converted⟩
    | .error _ => none
  | _ => none

/-- Bytes. -/
def fitBytes (form : DocumentForm) (v : Value) : Option Fit :=
  match v with
  | .bytes b => some { value := .bytes b }
  | .text s => some ⟨.bytes (utf8 s), form.spelling⟩
  | _ => none

/-- A value of a primitive class. -/
def Primitive.fit (form : DocumentForm) : Primitive → Value → Option Fit
  | .bool => fitBool form
  | .int => fitInt form
  | .float => fitFloat form
  | .complex => fitComplex form
  | .text => fitText form
  | .bytes => fitBytes form

/-! ### Identifiers -/

/-- The groups of an identifier between its hyphens. -/
def uuidGroups : List Nat := [8, 4, 4, 4, 12]

/-- The identifier with the given groups of hexadecimal digits. -/
def uuidOfGroups? (groups : List (List Char)) : Option Nat :=
  (groups.flatten.mapM hexDigit?).map (ofDigits 16)

/-- The identifier that a text writes: 32 hexadecimal digits, or groups of them with hyphens
between, which may be in braces or behind `urn:uuid:`. -/
def uuidOfText? (s : String) : Option Nat :=
  let cs := s.toList
  let inner :=
    if "urn:uuid:".toList.isPrefixOf cs then cs.drop 9
    else if cs.head? = some '\x7b' && cs.getLast? = some '\x7d' then (cs.drop 1).dropLast
    else cs
  let groups := splitOn ['-'] inner
  if groups.map List.length = uuidGroups then uuidOfGroups? groups
  else if groups.map List.length = [32] && inner.length = cs.length then uuidOfGroups? groups
  else none

/-- The identifier that bytes write as a text, or that 16 bytes are. -/
def uuidOfBytes? (b : Bytes) : Option Nat :=
  ((decodeUtf8 b).toOption.bind uuidOfText?).or
    (if b.length = 16 then some (ofDigits 256 (b.map UInt8.toNat)) else none)

/-- An identifier. In JSON only texts can be identifiers. -/
def fitUuid (form : DocumentForm) (v : Value) : Option Fit :=
  let slack : Slack := if form = .plain then .converted else .none
  match v with
  | .text s => (uuidOfText? s).map fun n => ⟨.uuid n, slack⟩
  | .bytes b => (uuidOfBytes? b).map fun n => ⟨.uuid n, slack⟩
  | _ => none

/-! ### Decimal numbers -/

/-- A float as the text that a decimal number is read from. -/
def decimalText (form : DocumentForm) (x : Binary64) : String :=
  if form = .plain || !x.isFinite then FloatText.write x
  else
    let body := FloatText.positionalText x
    String.ofList (if x.negative then '-' :: body else body)

/-- The decimal number that a value writes. -/
def decimalOf? (form : DocumentForm) : Value → Option DecimalNumber
  | .text s => DecimalNumber.read? s
  | .int n => some (.finite (n < 0) n.natAbs 0)
  | .float x => DecimalNumber.read? (decimalText form x)
  | .list xs | .tuple xs => (DecimalNumber.ofParts xs).toOption
  | _ => none

/-- A finite decimal number. -/
def fitDecimal (form : DocumentForm) (v : Value) : Option Fit :=
  match decimalOf? form v with
  | some (.finite m n e) => some ⟨.decimal (.finite m n e), form.spelling⟩
  | _ => none

/-! ### Points in time -/

/-- The point in time that a value writes with a date and a time, or as a number. -/
def momentOf? (form : DocumentForm) (v : Value) : Option (DateTime × Slack) :=
  match v with
  | .dateTime d => some (d, .none)
  | .int n => (Lenient.ofEpoch (Lenient.microsOfInt n)).map (·, .converted)
  | .float x => ((Lenient.microsOfFloat? x).bind Lenient.ofEpoch).map (·, .converted)
  | v => ((textOf? v).bind Lenient.dateTime?).map (·, form.spelling)

/-- The date that a value writes alone. -/
def dayOf? (form : DocumentForm) (v : Value) : Option (Date × Slack) :=
  match v with
  | .date d => some (d, .none)
  | v => ((textOf? v).bind Lenient.date?).map (·, form.spelling)

/-- A point in time; a date alone counts as its start. -/
def fitDateTime (form : DocumentForm) (v : Value) : Option Fit :=
  match momentOf? form v with
  | some (d, slack) => some ⟨.dateTime d, slack⟩
  | none => (dayOf? form v).map fun d => ⟨.dateTime (Lenient.startOf d.1), .converted⟩

/-- A date, or the date of a point in time at midnight. -/
def fitDate (form : DocumentForm) (v : Value) : Option Fit :=
  match dayOf? form v with
  | some (d, slack) => some ⟨.date d, slack⟩
  | none => ((momentOf? form v).bind fun d => Lenient.midnight? d.1).map fun d =>
      ⟨.date d, .converted⟩

/-- A time of day. -/
def fitTime (form : DocumentForm) (v : Value) : Option Fit :=
  match v with
  | .time t => some { value := .time t }
  | .int n => (Lenient.ofMidnight (n * 1000000)).map fun t => ⟨.time t, .converted⟩
  | .float x => (Lenient.timeOfFloat? x).map fun t => ⟨.time t, .converted⟩
  | v => ((textOf? v).bind Lenient.time?).map fun t => ⟨.time t, form.spelling⟩

/-- The duration that a value writes. -/
def durationOf? (form : DocumentForm) (v : Value) : Option (Duration × Slack) :=
  match v with
  | .bool b =>
    if form = .plain then some (⟨if b then 1000000 else 0⟩, .converted) else none
  | .int n => (Lenient.durationOfInt? n).map (·, .converted)
  | .float x => (Lenient.durationOfFloat? x).map (·, .converted)
  | v => ((textOf? v).bind Lenient.duration?).map (·, form.spelling)

/-- A duration. There are fewer negative ones than can be written. -/
def fitDuration (form : DocumentForm) (v : Value) : Except Fault Fit :=
  match v with
  | .duration d => .ok { value := .duration d }
  | v => match durationOf? form v with
    | none => .error .misfit
    | some (d, slack) => match DurationText.ofMicros d.micros with
      | .ok d => .ok ⟨.duration d, slack⟩
      | .error p => .error (.notDuration p "")

/-! ### Standard classes -/

/-- A value that fits, or the refusal. -/
def orMisfit (f : Option Fit) : Except Fault Fit :=
  match f with
  | some f => .ok f
  | none => .error .misfit

/-- A value of a standard class that is not just any value. -/
def ClassName.fit (form : DocumentForm) (c : ClassName) (v : Value) : Except Fault Fit :=
  match c.path with
  | "NoneType" => match v with
    | .none => .ok { value := .none }
    | _ => .error .misfit
  | "uuid.UUID" => orMisfit (fitUuid form v)
  | "decimal.Decimal" => orMisfit (fitDecimal form v)
  | "datetime.datetime" => orMisfit (fitDateTime form v)
  | "datetime.date" => orMisfit (fitDate form v)
  | "datetime.time" => orMisfit (fitTime form v)
  | "datetime.timedelta" => fitDuration form v
  | _ => .error .misfit

end ParamBinding
