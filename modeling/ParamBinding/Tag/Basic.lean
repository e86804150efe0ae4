import ParamBinding.Text.Printable
import ParamBinding.Text.Split

/-!
# Tags

A tag says where the value of a field comes from and how it is written there: a base followed by
options, all separated by commas. A flag is on when its name stands alone; other options take their
value behind an equals sign.
-/

namespace ParamBinding

/-- What a tag says about a field. In the tag of a nested field the base is the key of the field. -/
structure Tag where
  base : String
  name : String := ""
  explode : Bool := false
  delimiter : String := ","
  allowReserved : Bool := false
  form : Bool := false
  formOnly : Bool := false
  content : String := ""
  deepObject : Bool := false
  deriving DecidableEq, Repr

namespace Tag

/-- The tag of what occurs once. -/
def withoutExplode (t : Tag) : Tag := { t with explode := false }

/-- The tag of what is no document. -/
def withoutContent (t : Tag) : Tag := { t with content := "" }

/-- The tag of what has no keys. -/
def withoutDeepObject (t : Tag) : Tag := { t with deepObject := false }

/-- The options that are on or off. -/
inductive Flag where
  | explode
  | allowReserved
  | form
  | formOnly
  | deepObject
  deriving DecidableEq, Repr

/-- The options with a text for their value. -/
inductive TextOption where
  | name
  | delimiter
  | content
  deriving DecidableEq, Repr

/-- The options of a tag. -/
inductive Key where
  | flag (f : Flag)
  | text (t : TextOption)
  deriving DecidableEq, Repr

/-- An option with its value. -/
inductive Setting where
  | flag (f : Flag) (value : Bool)
  | text (t : TextOption) (value : String)
  deriving DecidableEq, Repr

/-- The option that a setting sets. -/
def Setting.key : Setting → Key
  | .flag f _ => .flag f
  | .text t _ => .text t

/-- The option with a name. -/
def Key.ofName? (s : String) : Option Key :=
  if s = "name" then some (.text .name)
  else if s = "explode" then some (.flag .explode)
  else if s = "delimiter" then some (.text .delimiter)
  else if s = "allowReserved" then some (.flag .allowReserved)
  else if s = "form" then some (.flag .form)
  else if s = "formOnly" then some (.flag .formOnly)
  else if s = "content" then some (.text .content)
  else if s = "deepObject" then some (.flag .deepObject)
  else none

/-- What an option that only query parameters have is called in messages. -/
def Flag.attribute : Flag → String
  | .explode => "explode"
  | .allowReserved => "allow_reserved"
  | .form => "form"
  | .formOnly => "form_only"
  | .deepObject => "deep_object"

/-- The bases of top level tags. -/
def bases : List String := ["model", "path", "query", "header", "cookie", "-"]

/-- What is wrong with a tag, on its own or on the field that carries it. -/
inductive Problem where
  | unknownBase (base : String)
  | emptyOption
  | unknownOption (key : String)
  | givenTwice (key : String)
  | notBoolean (key value : String)
  | valueMissing (key : String)
  | emptyDelimiter
  | takesNoOptions (base : String)
  | onlyForQuery (f : Flag)
  | formAndFormOnly
  /-- The place is always one bare text, so its delimiter is fixed. -/
  | delimiterNotAllowed
  /-- The place is always one bare text, so it cannot repeat. -/
  | explodeNotAllowed
  | deepObjectOnSequence
  | deepObjectOnScalar
  | deepObjectOutsideQuery (place : String)
  | deepObjectOnMember (key : String)
  deriving DecidableEq, Repr

/-- Whether a problem is worded after a text that is no boolean. -/
def Problem.fromText : Problem → Bool
  | .notBoolean _ _ => true
  | _ => false

open ParamBinding.Text in
/-- The wording of a problem. -/
def Problem.message : Problem → String
  | .unknownBase b =>
    "unknown base " ++ quoted b ++ ", expected one of " ++ ", ".intercalate bases
  | .emptyOption => "empty option"
  | .unknownOption k => "unknown option " ++ quoted k
  | .givenTwice k => s!"option {quoted k} given twice"
  | .notBoolean k v => s!"option {quoted k}: invalid boolean {quoted v}"
  | .valueMissing k => s!"option {quoted k} requires a value"
  | .emptyDelimiter => "empty delimiter"
  | .takesNoOptions b => quoted b ++ " does not take options"
  | .onlyForQuery f => f.attribute ++ " is only allowed for query parameters"
  | .formAndFormOnly => "form and formOnly are mutually exclusive"
  | .delimiterNotAllowed =>
    "delimiter setting is only allowed for 'query' and 'header' parameters"
  | .explodeNotAllowed => "explode=true not supported for cookies & path parameters"
  | .deepObjectOnSequence => "deepObject=true not supported for sequences"
  | .deepObjectOnScalar => "deepObject=true is only supported for maps and structs"
  | .deepObjectOutsideQuery p => s!"deepObject=true not supported for {p}"
  | .deepObjectOnMember k =>
    s!"deepObject=true is not allowed on fields inside a struct. Used on {k}"

end Tag

end ParamBinding
