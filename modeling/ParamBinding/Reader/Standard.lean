import ParamBinding.Reader.Primitive
import ParamBinding.Value.Decimal

/-!
# Readers of standard classes

The text forms of identifiers, decimal numbers, dates, times, durations and enumerations.
-/

namespace ParamBinding.TextReader

open ParamBinding.Text

/-- Identifiers of 128 bits. -/
def uuid : TextReader where
  read s := match Uuid.read s with
    | .ok n => .ok (.uuid n)
    | .error p => .error (.notUuid p)
  accept v := .error (noMethod v "replace")

/-- The fault of values that are not the parts of a decimal number. -/
def partsFault (v : Value) : DecimalNumber.PartsProblem → Fault
  | .count => .raised .value "argument must be a sequence of length 3"
  | .sign => .raised .value "sign must be an integer with the value 0 or 1"
  | .letter => .raised .value "string argument in the third position must be 'F', 'n' or 'N'"
  | .exponent => .raised .value "exponent must be an integer"
  | .digits => .raised .value "coefficient must be a tuple of digits"
  | .beyondWord => .raised .overflow "Python int too large to convert to C long"
  | .beyondSize => .raised .overflow "Python int too large to convert to C ssize_t"
  | .range => .raised .value ("invalid decimal " ++ v.shown)

/-- Decimal numbers. -/
def decimal : TextReader where
  read s := match DecimalNumber.read? s with
    | some d => .ok (.decimal d)
    | none => .error (.notDecimal s)
  accept v := match v with
    | .bool b => .ok (.decimal (.finite false (if b then 1 else 0) 0))
    | .int n => .ok (.decimal (.finite (n < 0) n.natAbs 0))
    | .float x => .ok (.decimal (.ofBinary64 x))
    | .list xs | .tuple xs =>
      ((DecimalNumber.ofParts xs).mapError (partsFault v)).map .decimal
    | _ => .error (.raised .type
        ("conversion from " ++ v.className ++ " to Decimal is not supported"))

/-- What readers of dates make of a value that is not a text. -/
def notIsoText : Fault := .raised .type "fromisoformat: argument must be str"

/-- Points in time. -/
def dateTime : TextReader where
  read s := match Iso.dateTime s with
    | .ok d => .ok (.dateTime d)
    | .error p => .error (.notIso p s)
  accept _ := .error notIsoText

/-- Dates. -/
def date : TextReader where
  read s := match Iso.date s with
    | .ok d => .ok (.date d)
    | .error p => .error (.notIso p s)
  accept _ := .error notIsoText

/-- Times of day. -/
def time : TextReader where
  read s := match Iso.time s with
    | .ok t => .ok (.time t)
    | .error p => .error (.notIso p s)
  accept _ := .error notIsoText

/-- Durations. -/
def duration : TextReader where
  read s := match DurationText.read s with
    | .ok d => .ok (.duration d)
    | .error p => .error (.notDuration p s)
  accept v := .error (noMethod v "strip")

/-- The member of an enumeration with a value of the given text, the last one if there are
several; else the member with that name. -/
def memberOf? (e : EnumType) (s : String) : Option Value :=
  match e.distinct.reverse.find? fun m => m.2.asText = s with
  | some m => some (e.member m)
  | none => e.byName? s

/-- Members of an enumeration, by the text of their value or by their name. -/
def enum (e : EnumType) : TextReader where
  read s := match memberOf? e s with
    | some v => .ok v
    | none => .error (.notMember (quoted s) e.cls.name)
  accept v := match v.unhashable? with
    | some u => .error (.unhashable u)
    | none => .error (.notMember v.shown e.cls.name)

end ParamBinding.TextReader
