import ParamBinding.Number.ComplexText
import ParamBinding.Number.Uuid
import ParamBinding.Text.Printable
import ParamBinding.Time.DurationText
import ParamBinding.Time.Iso
import ParamBinding.Value.Equality

/-!
# Faults

What can go wrong while a request is decoded. A fault is a cause; `Fault.message` words it and
`Fault.kind` names its class. A `decode` fault says in which step another fault happened, so the
faults of nested values are chains.
-/

namespace ParamBinding

open ParamBinding.Text

/-- The class of a fault. -/
inductive FaultKind where
  | value
  | type
  | overflow
  | attribute
  | index
  | key
  | runtime
  | lookup
  | unicode
  | unicodeDecode
  | unicodeEncode
  | validation
  | schema
  | yaml
  | xml
  | missingDecoder
  | decode
  | unknownParameter
  deriving DecidableEq, Repr

/-- Where a value was to be put: place, parameter and field, as far as they are known. -/
structure Origin where
  source : Option String := none
  parameter : Option String := none
  field : Option String := none
  deriving DecidableEq, Repr

/-- The step in which a fault happened. -/
inductive DecodeStep where
  /-- A parameter is put into a field of the model. -/
  | parameter (label name field : String)
  /-- A key is put into a field of a nested model. -/
  | memberField (field : String)
  /-- A parameter's text is decoded as a document. -/
  | content (contentType typeName : String)
  /-- The body is decoded as a document. -/
  | body (contentType typeName : String)
  /-- No decoder is registered for the content type of the body. -/
  | bodyType
  deriving DecidableEq, Repr

/-- Why something could not be decoded, when there is no other fault behind it. -/
inductive Rejection where
  /-- The route has no variable of this name. -/
  | noPathVariable (name field : String)
  /-- The body is not a form. -/
  | malformedForm (e : Utf8Error)
  /-- Any other reason, in its own words. -/
  | stated (message : String)
  deriving DecidableEq, Repr

/-- The name of a header that has no Latin-1 form: its first characters that have none, and where
they stand. -/
structure Latin1Error where
  chars : List Char
  position : Nat
  deriving DecidableEq, Repr

/-- Why decoding fails. -/
inductive Fault where
  | notBoolean (shown : String)
  | notInteger (text : String)
  | tooManyDigits (count : Nat)
  | integerRange (text : String) (signed : Bool) (bits : Int)
  | floatRange (text : String)
  | notFloat (text : String)
  | notComplex (p : ComplexText.Problem) (text : String)
  | notDecimal (text : String)
  | notDuration (p : DurationText.Problem) (text : String)
  | notMember (shown enum : String)
  | notUuid (p : Uuid.Problem)
  | notIso (p : Iso.Problem) (text : String)
  | tooManyValues (given slots : Nat)
  | unhashable (u : Value.Unhashable)
  /-- A map type does not say what its values are. -/
  | missingTypeArgument
  /-- A path variable that is asked for does not exist. -/
  | noVariable (name : String)
  | headerName (e : Latin1Error)
  | notUtf8 (e : Utf8Error)
  /-- A document does not fit the type it is decoded into. -/
  | misfit
  /-- There are no documents for a type. -/
  | noSchema
  | malformedYaml
  | malformedXml
  /-- A fault that an application's own reader or decoder raises. -/
  | raised (kind : FaultKind) (message : String)
  | noBodyDecoder (contentType : String)
  /-- A parameter or key that nothing receives. -/
  | unknownParameter (name : String) (nested : Bool)
  | rejected (r : Rejection) (origin : Origin)
  | decode (step : DecodeStep) (origin : Origin) (cause : Fault)
  deriving DecidableEq, Repr

/-- The class of a fault about a duration. -/
def DurationText.Problem.kind : DurationText.Problem → FaultKind
  | .form => .value
  | _ => .overflow

/-- The wording of a fault about a duration. -/
def DurationText.Problem.message (text : String) : DurationText.Problem → String
  | .form => "invalid duration " ++ quoted text
  | .infinite => "cannot convert float infinity to integer"
  | .tooManyDays d => s!"days={d}; must have magnitude <= 999999999"
  | .beyondWord => "Python int too large to convert to C int"

/-- The wording of a fault about a date or time. -/
def Iso.Problem.message (text : String) : Iso.Problem → String
  | .form => "Invalid isoformat string: " ++ quoted text
  | .numbers p => p.message

/-- The wording of a text that is no numeral in a base. At most 200 characters of it are shown. -/
def IntText.notNumeral (base : Nat) (text : String) : String :=
  s!"invalid literal for int() with base {base}: " ++
    String.ofList ((quotedList text.toList).take 200)

/-- The wording of a fault about an identifier. -/
def Uuid.Problem.message : Uuid.Problem → String
  | .wrongLength => "badly formed hexadecimal UUID string"
  | .notNumeral t => IntText.notNumeral 16 t

/-- The wording of a fault about a complex number. -/
def ComplexText.Problem.message (text : String) : ComplexText.Problem → String
  | .misplacedUnderscore => "could not convert string to complex: " ++ quoted text
  | .malformed => "complex() arg is a malformed string"

/-- The wording of a value that cannot be an element of a set. -/
def Value.Unhashable.message : Value.Unhashable → String
  | .mutable c => "unhashable type: '" ++ c ++ "'"
  | .signalingNan => "Cannot hash a signaling NaN value."
  | .unset m f => "'" ++ m ++ "' object has no attribute '" ++ f ++ "'"

/-- The wording of a header name that has no Latin-1 form. -/
def Latin1Error.message (e : Latin1Error) : String :=
  let place := match e.chars with
    | [c] => "character '" ++ String.ofList (escaped c) ++ s!"' in position {e.position}"
    | cs => s!"characters in position {e.position}-{e.position + cs.length - 1}"
  s!"'latin-1' codec can't encode {place}: ordinal not in range(256)"

/-- The wording of a rejection. -/
def Rejection.message : Rejection → String
  | .noPathVariable name field =>
    s!"path element {name} into field {field}: no path variable named " ++ quoted name
  | .malformedForm e =>
    "could not parse application/x-www-form-urlencoded data: " ++ e.message
  | .stated m => m

/-- The wording of a step, in front of what went wrong in it. -/
def DecodeStep.message : DecodeStep → String
  | .parameter label name field => s!"{label} {name} into field {field}: "
  | .memberField field => field ++ ": "
  | .content ct t => s!"could not decode {ct} into {t}: "
  | .body ct t => s!"Could not decode {ct} into {t}: "
  | .bodyType => ""

/-- The status of the answer to a request that cannot be bound. -/
def badRequest : Nat := 400

namespace Fault

/-- The class of a fault. -/
def kind : Fault → FaultKind
  | notDuration p _ => p.kind
  | unhashable (.unset _ _) => .attribute
  | unhashable _ => .type
  | missingTypeArgument => .index
  | noVariable _ => .key
  | headerName _ => .unicodeEncode
  | notUtf8 _ => .unicodeDecode
  | misfit => .validation
  | noSchema => .schema
  | malformedYaml => .yaml
  | malformedXml => .xml
  | raised k _ => k
  | noBodyDecoder _ => .missingDecoder
  | unknownParameter _ _ => .unknownParameter
  | rejected _ _ | decode _ _ _ => .decode
  | _ => .value

/-- The wording of a fault. Where a document is at fault, its position is not told. -/
def message : Fault → String
  | notBoolean shown => "invalid boolean " ++ shown
  | notInteger t => "invalid integer " ++ quoted t
  | tooManyDigits n =>
    s!"Exceeds the limit (4300 digits) for integer string conversion: value has {n} digits; " ++
      "use sys.set_int_max_str_digits() to increase the limit"
  | integerRange t signed bits =>
    "value " ++ quoted t ++ " out of range for " ++ (if signed then "" else "u") ++ s!"int{bits}"
  | floatRange t => "value " ++ quoted t ++ " out of range for float32"
  | notFloat t => "could not convert string to float: " ++ quoted t
  | notComplex p t => p.message t
  | notDecimal t => "invalid decimal " ++ quoted t
  | notDuration p t => p.message t
  | notMember shown enum => s!"{shown} is not a valid {enum}"
  | notUuid p => p.message
  | notIso p t => p.message t
  | tooManyValues given slots =>
    s!"too many values for fixed length array: {given} > {slots}"
  | unhashable u => u.message
  | missingTypeArgument => "tuple index out of range"
  | noVariable name => quoted name
  | headerName e => e.message
  | notUtf8 e => e.message
  | misfit => "<ValidationError>"
  | noSchema => "<PydanticUserError>"
  | malformedYaml => "<YAMLError>"
  | malformedXml => "<ParseError>"
  | raised _ m => m
  | noBodyDecoder ct => "No body decoder for content type " ++ quoted ct
  | unknownParameter name nested =>
    if nested then "No struct member to receive key " ++ quoted name
    else "query parameter " ++ quoted name ++ " not supported"
  | rejected r _ => r.message
  | decode step _ cause => step.message ++ cause.message

/-- Where a value was to be put when the fault happened. -/
def origin : Fault → Origin
  | rejected _ o => o
  | decode _ o _ => o
  | unknownParameter name _ => { parameter := some name }
  | _ => {}

/-- The fault behind a fault. -/
def cause? : Fault → Option Fault
  | decode _ _ c => some c
  | _ => none

/-- Whether a fault says on its own which part of the request is wrong, so that nothing need be
added to it. -/
def isRequestFault (f : Fault) : Bool :=
  f.kind = .decode || f.kind = .unknownParameter

/-- The status that a fault of the request carries; other faults carry none. -/
def status? (f : Fault) : Option Nat := if f.isRequestFault then some badRequest else none

end Fault

end ParamBinding
