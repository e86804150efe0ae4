import ParamBinding.Tag.Basic

/-!
# Errors of declarations

What is wrong with the declaration of a model, found before any request is served.
-/

namespace ParamBinding

open ParamBinding.Text

/-- Why nothing can be decoded into a type. -/
inductive Unsupported where
  | noTextForm
  /-- An element of a collection would need several texts. -/
  | elementNeedsSeveral
  /-- A value of a map would need several texts. -/
  | valueNeedsSeveral
  deriving DecidableEq, Repr

/-- Where a decoder is missing. -/
inductive MissingDecoder where
  | onField (field : String)
  | forBody (model : String)
  | forDefault
  deriving DecidableEq, Repr

/-- What is received twice. -/
inductive Duplicate where
  | memberKey (key field : String)
  | body (model field : String)
  | parameter (model base name field : String)
  deriving DecidableEq, Repr

/-- How the parts of an application do not fit together. -/
inductive Misconfiguration where
  | noPathVariables (model : String)
  | nothingTagged (model key : String)
  | notPrepared (model : String)
  deriving DecidableEq, Repr

/-- What is wrong with a declaration. -/
inductive CompileError where
  | tag (p : Tag.Problem) (field text : Option String)
  | unsupported (field typeName shortName : String) (u : Unsupported)
  | missingDecoder (contentType : String) (m : MissingDecoder)
  | duplicate (d : Duplicate)
  | misconfigured (m : Misconfiguration)
  /-- A map type does not say what its values are. -/
  | missingTypeArgument
  deriving DecidableEq, Repr

/-- The wording of a reason. -/
def Unsupported.message : Unsupported → String
  | .noTextForm => "type has no from_text() and is not a supported container"
  | .elementNeedsSeveral => "element type must decode from one string"
  | .valueNeedsSeveral => "map values must decode from one string"

/-- The wording of a missing decoder. -/
def MissingDecoder.message (contentType : String) : MissingDecoder → String
  | .onField f => "No decoder provided for content type " ++ quoted contentType ++ " on " ++ f
  | .forBody m => m ++ " has a 'model' field but no body decoder is registered"
  | .forDefault => "No decoder provided for content type " ++ quoted contentType

/-- The wording of a duplicate. -/
def Duplicate.message : Duplicate → String
  | .memberKey k f =>
    "Only one field can be filled with the same name. " ++ quoted k ++
      s!" is duplicated. One example is {f}"
  | .body m f => s!"{m}: only one field may be tagged 'model', found another on {f}"
  | .parameter m b n f => s!"{m}: {b} parameter " ++ quoted n ++ s!" is filled twice, again by {f}"

/-- The wording of a misconfiguration. -/
def Misconfiguration.message : Misconfiguration → String
  | .noPathVariables m =>
    m ++ ": path/route variable interpolation requested, but no path variable provider configured"
  | .nothingTagged m k => m ++ " has no fields tagged with " ++ quoted k
  | .notPrepared m => m ++ " was not prepared; call prepare() while wiring"

/-- The wording of an error. -/
def CompileError.message : CompileError → String
  | .tag p field text =>
    let named := match field with
      | some f => if f = "" then p.message else f ++ ": " ++ p.message
      | none => p.message
    match text with
    | some t => named ++ " (tag " ++ quoted t ++ ")"
    | none => named
  | .unsupported f _ short u => s!"Cannot decode into {f}, {short}: " ++ u.message
  | .missingDecoder ct m => m.message ct
  | .duplicate d => d.message
  | .misconfigured m => m.message
  | .missingTypeArgument => "tuple index out of range"

/-- Read a tag on behalf of a field. -/
def CompileError.ofTag {α : Type} (field text : String) (x : Except Tag.Problem α) :
    Except CompileError α :=
  x.mapError fun p => .tag p (some field) (some text)

end ParamBinding
