import ParamBinding.Binder.Basic
import ParamBinding.Log

/-!
# Compiling models

`Ty.compile` goes through the fields of a model in order and sorts those that have a tag by the part
of the request they are filled from. The first problem of a field ends it; problems of the model as
a whole come last.
-/

namespace ParamBinding

/-- What the declaration of a type comes down to. -/
inductive Compiled where
  /-- The type is no model. -/
  | notModel
  /-- No field of the model has a tag. -/
  | declined (model : String)
  | binder (b : Binder)

namespace Compiled

/-- The binder, if there is one. -/
def binder? : Compiled → Option Binder
  | binder b => some b
  | _ => none

/-- What is told about it. -/
def log : Compiled → List LogRecord
  | notModel => []
  | declined m => [.declined m]
  | binder b =>
    [.compiled b.modelName b.fillers.count b.fillers.body.isSome b.fillers.needsPath
      b.fillers.needsForm]

end Compiled

namespace Fillers

/-- Fillers with one more for a query parameter, in the tables that its tag chooses. -/
def addQuery (fs : Fillers) (tag : Tag) (f : Filler) : Fillers :=
  let inQuery := !tag.formOnly
  let inForm := tag.form || tag.formOnly
  let add (yes : Bool) (table : List Filler) : List Filler := if yes then table ++ [f] else table
  match f.unpacker.deepObject? with
  | some _ => { fs with
      deepObject := add inQuery fs.deepObject, formDeepObject := add inForm fs.formDeepObject }
  | none => { fs with query := add inQuery fs.query, form := add inForm fs.form }

/-- Fillers with one more for a parameter of a place. -/
def addParameter (fs : Fillers) (env : Env) (t : Ty) (site : Site) (tag : Tag) (u : Unpacker) :
    Fillers :=
  let f : Filler := ⟨site.field, site.name, u⟩
  match site.place with
  | .path => { fs with path := fs.path ++ [{ f with accept := t.accepter env site tag }] }
  | .header => { fs with header := fs.header ++ [f] }
  | .cookie => { fs with cookie := fs.cookie ++ [f] }
  | .query => fs.addQuery tag f
  | .other _ => fs

/-- Fillers with one more for the body. -/
def addBody (fs : Fillers) (model : String) (m : Member Ty) : Except CompileError Fillers :=
  match fs.body with
  | some _ => .error (.duplicate (.body model m.name))
  | none => .ok { fs with body := some ⟨m.name, m.type⟩ }

/-- Fillers with one more for a field with a tag. -/
def addTagged (fs : Fillers) (env : Env) (model : String) (m : Member Ty) (tag : Tag) :
    Except CompileError Fillers :=
  if tag.base = "-" then .ok fs
  else if tag.base = "model" then fs.addBody model m
  else
    let name := if tag.name = "" then m.name else tag.name
    let site : Site := ⟨m.name, name, .ofName tag.base⟩
    -- a name that is taken is found before the type is looked at
    if (fs.namesOf site.place).contains name then
      .error (.duplicate (.parameter model tag.base name m.name))
    else do
      let u ← m.type.unpacker env site tag
      .ok (fs.addParameter env m.type site tag u)

/-- Fillers with one more for a field, if it has a tag. -/
def addMember (fs : Fillers) (env : Env) (model : String) (m : Member Ty) :
    Except CompileError Fillers :=
  match m.tag? env.options.tagKey with
  | none => .ok fs
  | some text => do
    let tag ← CompileError.ofTag m.name text (Tag.read false text)
    fs.addTagged env model m tag

/-- The fillers of the fields of a model. -/
def ofMembers (env : Env) (model : String) (ms : List (Member Ty)) : Except CompileError Fillers :=
  ms.foldlM (fun fs m => fs.addMember env model m) {}

/-- A body has to have decoders, and path variables a source. -/
def check (fs : Fillers) (o : Options) (model : String) : Except CompileError Unit :=
  if fs.body.isSome && o.decoders.isEmpty then .error (.missingDecoder "" (.forBody model))
  else if fs.body.isSome && o.defaultContentType ≠ "" &&
      (o.decoders.get? o.defaultContentType).isNone then
    .error (.missingDecoder o.defaultContentType .forDefault)
  else if fs.needsPath && o.pathVars.isNone then .error (.misconfigured (.noPathVariables model))
  else .ok ()

end Fillers

/-- The binder of a model. -/
def ModelHead.compile (env : Env) (h : ModelHead) (ms : List (Member Ty)) :
    Except CompileError Compiled := do
  let fs ← Fillers.ofMembers env h.cls.name ms
  if fs.count = 0 then .ok (.declined h.cls.name)
  else
    fs.check env.options h.cls.name
    .ok (.binder ⟨h, ms, fs, env.options.decoders, env.options.defaultContentType,
      env.options.pathVars, env.options.strict⟩)

/-- Compile a type of a given shape. -/
def Shape.compile (env : Env) : Shape → Except CompileError Compiled
  | .struct h ms => h.compile env ms
  | .malformed => .error .missingTypeArgument
  | _ => .ok .notModel

/-- The binder of a model, or of the model in an optional type. -/
def Ty.compile (env : Env) (t : Ty) : Except CompileError Compiled :=
  match t.shape with
  -- one layer only: an optional type inside is no model
  | .optional u => u.shape.compile env
  | s => s.compile env

end ParamBinding
