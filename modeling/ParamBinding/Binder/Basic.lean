import ParamBinding.Unpacker.Accept

/-!
# Binders

A binder is what the declaration of a model comes down to: for each part of a request, which of its
parameters go into which fields, and how they are decoded.
-/

namespace ParamBinding

/-- The decoder of a parameter and the field that it fills. -/
structure Filler where
  field : String
  name : String
  unpacker : Unpacker

/-- The decoder of a path variable, which need not be a text, and the field that it fills. -/
structure PathFiller extends Filler where
  accept : Value → Except Fault Value

/-- The field that the body fills, and its type. -/
structure BodyFiller where
  field : String
  type : Ty

/-- All fillers of a model. Parameters of the query and of a form are kept apart by whether they
take keys. A field may be filled by the query, by a form or by both. -/
structure Fillers where
  body : Option BodyFiller := none
  path : List PathFiller := []
  header : List Filler := []
  cookie : List Filler := []
  query : List Filler := []
  deepObject : List Filler := []
  form : List Filler := []
  formDeepObject : List Filler := []

namespace Fillers

/-- How many fillers there are. A field that both the query and a form fill counts twice. -/
def count (f : Fillers) : Nat :=
  f.body.toList.length + f.path.length + f.header.length + f.cookie.length + f.query.length +
    f.deepObject.length + f.form.length + f.formDeepObject.length

/-- Whether a form is looked for in the body. -/
def needsForm (f : Fillers) : Bool := !f.form.isEmpty || !f.formDeepObject.isEmpty

/-- Whether the body is looked at. -/
def needsBody (f : Fillers) : Bool := f.body.isSome || f.needsForm

/-- Whether path variables are looked at. -/
def needsPath (f : Fillers) : Bool := !f.path.isEmpty

/-- The names of the parameters of a place that have a filler. -/
def namesOf (f : Fillers) : Place → List String
  | .path => f.path.map (·.name)
  | .header => f.header.map (·.name)
  | .cookie => f.cookie.map (·.name)
  | .query => (f.query ++ f.deepObject ++ f.form ++ f.formDeepObject).map (·.name)
  | .other _ => []

end Fillers

/-- A compiled model. -/
structure Binder where
  head : ModelHead
  members : List (Member Ty)
  fillers : Fillers
  /-- The decoders of bodies. -/
  decoders : Decoders
  /-- The content type of a body without one. -/
  defaultContentType : String
  /-- Where path variables come from. Models that need none may have none. -/
  pathVars : Option PathProvider
  /-- Whether parameters that nothing receives are faults. -/
  strict : Bool

namespace Binder

/-- The name of the model. -/
def modelName (b : Binder) : String := b.head.cls.name

end Binder

end ParamBinding
