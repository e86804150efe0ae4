import ParamBinding.Content.Decoder
import ParamBinding.Text.Blank
import ParamBinding.Text.Case
import ParamBinding.Value.Text

/-!
# Options

What an application sets once for all its models: the key that tags are filed under, the decoders of
bodies, and how strictly and from where parameters are taken. Decoders keep the order in which their
content types were registered first. The built-in ones come with the libraries that the application
has, and no option takes their place.
-/

namespace ParamBinding

open ParamBinding.Text

/-- The source of path variables: what a request's variables are looked up in. A variable may be
missing without a fault, or its lookup may fail, perhaps with a fault of the request. -/
structure PathProvider where
  name : String
  lookup : List (String × Value) → String → Except Fault (Option Value)

namespace PathProvider

/-- Variables of the matched route, as texts. -/
def route : PathProvider where
  name := "route"
  lookup vars name := match vars.lookup name with
    | none | some .none => .ok none
    | some v => .ok (some (.text v.asText))

/-- Variables as they are; one that does not exist is a fault. -/
def verbatim : PathProvider where
  name := "verbatim"
  lookup vars name := match vars.lookup name with
    | none => .error (.noVariable name)
    | some .none => .ok none
    | some v => .ok (some v)

end PathProvider

/-- Decoders by content type. -/
abbrev Decoders := List (String × Decoder)

namespace Decoders

/-- The decoder of a content type. -/
def get? (ds : Decoders) (contentType : String) : Option Decoder := ds.lookup contentType

/-- Decoders with one registered, in the place of an older one for the same content type. -/
def register (ds : Decoders) (contentType : String) (d : Decoder) : Decoders :=
  if ds.any (·.1 = contentType) then
    ds.map fun e => if e.1 = contentType then (e.1, d) else e
  else ds ++ [(contentType, d)]

/-- Decoders registered one after another. -/
def ofList (es : List (String × Decoder)) : Decoders :=
  es.foldl (fun ds e => ds.register e.1 e.2) []

/-- The content types in ascending order. -/
def contentTypes (ds : Decoders) : List String :=
  (ds.map (·.1)).mergeSort fun a b => decide (a ≤ b)

/-- The decoder that a field may use: a registered one, or else a built-in one. -/
def forField? (ds : Decoders) (contentType : String) (builtin : Decoders := Decoder.builtin) :
    Option Decoder :=
  match ds.get? contentType with
  | some d => some d
  | none => builtin.get? contentType

/-- Decoders as messages show them. -/
def shown (ds : Decoders) : String :=
  "DecoderRegistry([" ++ ", ".intercalate (ds.contentTypes.map quoted) ++ "])"

end Decoders

/-- The key that tags are filed under unless an application chooses another one. -/
def defaultTagKey : String := "reqbind"

/-- The options of an application. -/
structure Options where
  tagKey : String := defaultTagKey
  decoders : Decoders := []
  /-- The content type of a body without one. -/
  defaultContentType : String := ""
  /-- Whether parameters and keys that nothing receives are faults. -/
  strict : Bool := false
  pathVars : Option PathProvider := none
  /-- The decoders that fields may name without any registration. -/
  builtin : Decoders := Decoder.builtin

/-- Options that take the place of others; those left out stay as they are. -/
structure Overrides where
  tagKey : Option String := none
  decoders : Option Decoders := none
  defaultContentType : Option String := none
  strict : Option Bool := none
  pathVars : Option PathProvider := none

namespace Options

/-- The decoder of a content type that a field names. -/
def fieldDecoder? (o : Options) (contentType : String) : Option Decoder :=
  o.decoders.forField? contentType o.builtin

/-- Options with others put in. -/
def apply (o : Options) (v : Overrides) : Options where
  tagKey := v.tagKey.getD o.tagKey
  decoders := v.decoders.getD o.decoders
  defaultContentType := v.defaultContentType.getD o.defaultContentType
  strict := v.strict.getD o.strict
  pathVars := v.pathVars.or o.pathVars
  builtin := o.builtin

/-- Whether a word of the environment turns an option on. No letter outside ASCII has a small form
in these words. -/
def isTruthy (s : String) : Bool :=
  ["1", "true", "yes", "on"].contains (lower (strip s))

/-- A text that is not empty. -/
def nonEmpty? (s : Option String) : Option String := s.filter (· ≠ "")

/-- The options that environment variables choose. -/
def ofEnvironment (env : List (String × String)) : Options :=
  ({} : Options).apply {
    tagKey := nonEmpty? (env.lookup "REQBIND_TAG")
    defaultContentType := nonEmpty? (env.lookup "REQBIND_DEFAULT_CONTENT_TYPE")
    strict := (env.lookup "REQBIND_REJECT_UNKNOWN_QUERY").map isTruthy }

/-- Options with a decoder registered for bodies. -/
def withDecoder (o : Options) (contentType : String) (d : Decoder) : Options :=
  { o with decoders := o.decoders.register contentType d }

/-- Options with a content type for bodies without one. -/
def withDefaultContentType (o : Options) (contentType : String) : Options :=
  { o with defaultContentType := contentType }

/-- Options that are strict, or are not. -/
def withStrict (o : Options) (strict : Bool) : Options := { o with strict := strict }

/-- Options with a source of path variables. -/
def withPathVars (o : Options) (p : PathProvider) : Options := { o with pathVars := some p }

/-- Options with a key that tags are filed under. -/
def withTagKey (o : Options) (key : String) : Options := { o with tagKey := key }

end Options

end ParamBinding
