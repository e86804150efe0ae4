import ParamBinding.Binder.Compile
import ParamBinding.Request.Basic

/-!
# Resolving requests

A binder fills a new model from a request in a fixed sequence of steps: the body, path variables,
headers, the query, a form, the parameters with keys and the cookies. No step looks at the model, so
each is an `Outcome` of the request alone. A step that fails does not stop the others: the first
fault is reported, together with the model that the other steps have filled.

A few faults are not the request's and stop everything: those that a source of path variables fails
with and does not say to be the request's, the name of a header that no header can have, and a table
without the filler that it should have.
-/

namespace ParamBinding

open ParamBinding.Text

/-- What one step does. -/
inductive Outcome where
  /-- The request has nothing for the step. -/
  | skip
  | put (field : String) (v : Value)
  | fail (f : Fault)
  deriving Repr

/-- Why a request cannot be bound: the first fault, and the model without the fields that failed. -/
structure BindError where
  model : Record Value
  cause : Fault
  deriving Repr

/-- The wording of the error. -/
def BindError.message (e : BindError) : String := s!"{e.model.model} model: {e.cause.message}"

/-- The status of the answer: that of the cause, if it carries one. -/
def BindError.status (e : BindError) : Nat := e.cause.status?.getD badRequest

/-- How resolving a request fails. -/
inductive ResolveError where
  | bind (e : BindError)
  /-- A fault that is not the request's. -/
  | escaped (f : Fault)
  deriving Repr

namespace Outcome

/-- A record after a step. -/
def apply (r : Record Value) : Outcome → Record Value
  | put field v => r.set field v
  | _ => r

/-- The fault of a step. -/
def fault? : Outcome → Option Fault
  | fail f => some f
  | _ => none

end Outcome

namespace Filler

/-- A fault of a field; that of a parameter nothing receives stays as it is. -/
def blame (f : Filler) (place : Place) (e : Fault) : Fault :=
  if e.kind = .unknownParameter then e
  else .decode (.parameter place.label f.name f.field)
    { source := some place.name, parameter := some f.name, field := some f.field } e

/-- The outcome of a decoder for the field. -/
def outcome (f : Filler) (place : Place) (v : Except Fault Value) : Outcome :=
  match v with
  | .ok v => .put f.field v
  | .error e => .fail (f.blame place e)

/-- Fill the field from one text. -/
def fillText (f : Filler) (place : Place) (s : String) : Outcome :=
  f.outcome place <| match f.unpacker.single? with
    | some d => d s
    | none => .error absentFunction

/-- Fill the field from the texts of all occurrences. -/
def fillList (f : Filler) (place : Place) (vs : List String) : Outcome :=
  match f.unpacker.multi? with
  | some d => f.outcome place (d vs)
  | none => match vs with
    | [] => .skip
    | s :: _ => f.fillText place s

/-- Fill the field from the texts of keys. -/
def fillKeys (f : Filler) (keys : List (String × List String)) : Outcome :=
  f.outcome .query <| match f.unpacker.deepObject? with
    | some d => d keys
    | none => .error absentFunction

end Filler

/-- The filler of a parameter in a table. -/
def lookupFiller (table : List Filler) (name : String) : Option Filler :=
  table.find? (·.name = name)

/-! ### The body -/

namespace BodyFiller

/-- The decoder of a content type, whose parameters do not count. -/
def decoder? (ds : Decoders) (contentType : String) : Option Decoder :=
  -- as it stands first: there may be a decoder for a type with its parameters
  match ds.get? contentType with
  | some d => some d
  | none => ds.get? (strip (cut ';' contentType).1)

/-- Fill the field from the body. -/
def fill (f : BodyFiller) (b : Binder) (r : Request) (body : Bytes) : Outcome :=
  let contentType := if r.contentType = "" then b.defaultContentType else r.contentType
  let origin : Origin := { source := some "body", field := some f.field }
  match decoder? b.decoders contentType with
  | none => .fail (.decode .bodyType origin (.noBodyDecoder contentType))
  | some d => match d.decode body f.type with
    | .ok v => .put f.field v
    | .error e => .fail (.decode (.body contentType f.type.name) origin e)

end BodyFiller

/-! ### Path variables -/

/-- Fill the field from a path variable. -/
def PathFiller.fill (f : PathFiller) (v : Option Value) : Outcome :=
  match v with
  | none => .fail (.rejected (.noPathVariable f.name f.field)
      { source := some "path", parameter := some f.name, field := some f.field })
  | some (.text s) => f.fillText .path s
  -- a source need not give texts
  | some v => f.outcome .path (f.accept v)

/-! ### Parameters with keys -/

/-- The texts of keys, by the parameter that they belong to. -/
abbrev Buffered := List (String × List (String × List String))

/-- Put the texts of a key into the place of older ones, or behind all other keys. -/
def putKey (key : String) (vs : List String) :
    List (String × List String) → List (String × List String)
  | [] => [(key, vs)]
  | (k, ws) :: rest => if k = key then (k, vs) :: rest else (k, ws) :: putKey key vs rest

/-- Keep the texts of a key for the parameter it belongs to. -/
def Buffered.put (root key : String) (vs : List String) : Buffered → Buffered
  | [] => [(root, [(key, vs)])]
  | (r, keys) :: rest =>
    if r = root then (r, putKey key vs keys) :: rest else (r, keys) :: Buffered.put root key vs rest

/-- What becomes of a name in the query or a form. -/
inductive NameUse where
  | parameter (f : Filler)
  | key (root key : String)
  | unknown

/-- What becomes of a name, given the parameters without keys and those with keys. -/
def nameUse (plain deep : List Filler) (name : String) : NameUse :=
  -- a parameter with brackets in its own name goes before the keys of another one
  match lookupFiller plain name with
  | some f => .parameter f
  | none => match Urlencoded.bracketed? name with
    | some (root, key) => if (lookupFiller deep root).isSome then .key root key else .unknown
    | none => .unknown

/-- What is done at once for a name that is used in some way. The texts of a key have to wait. -/
def NameUse.outcome (strict : Bool) (name : String) (vs : List String) : NameUse → Outcome
  | .parameter f => f.fillList .query vs
  | .key _ _ => .skip
  | .unknown => if strict then .fail (.unknownParameter name false) else .skip

/-- The texts that have to wait after a name has been used. -/
def NameUse.keep (vs : List String) : NameUse → Buffered → Buffered
  | .key root k, kept => kept.put root k vs
  | _, kept => kept

/-- What has been done for the names of the query or a form. -/
structure Sorted where
  outcomes : List Outcome := []
  buffered : Buffered := []

/-- Deal with one name. -/
def Sorted.add (s : Sorted) (plain deep : List Filler) (strict : Bool) (name : String)
    (vs : List String) : Sorted :=
  let use := nameUse plain deep name
  ⟨s.outcomes ++ [use.outcome strict name vs], use.keep vs s.buffered⟩

namespace Binder

/-- Deal with the names of the query or a form, in the order of their first appearance. -/
def sortNames (b : Binder) (plain deep : List Filler) (items : List (String × String))
    (buffered : Buffered) : Sorted :=
  (Urlencoded.group items).foldl (fun s i => s.add plain deep b.strict i.1 i.2) ⟨[], buffered⟩

/-- The form in the body, if there is one. -/
def formItems (body : Bytes) : Except Fault (List (String × String)) :=
  match decodeUtf8List body with
  | .ok cs => .ok (Urlencoded.parse cs)
  | .error e => .error (.rejected (.malformedForm e) { source := some "form" })

/-- Deal with the names of the form in the body. -/
def sortForm (b : Binder) (r : Request) (body : Bytes) (buffered : Buffered) : Sorted :=
  if b.fillers.needsForm && r.contentType = formContentType then
    match formItems body with
    | .ok items => b.sortNames b.fillers.form b.fillers.formDeepObject items buffered
    | .error f => ⟨[.fail f], buffered⟩
  else ⟨[], buffered⟩

/-- The filler of a parameter with keys. -/
def deepFiller? (b : Binder) (root : String) : Option Filler :=
  (lookupFiller b.fillers.deepObject root).or (lookupFiller b.fillers.formDeepObject root)

/-- Fill the field of a parameter with keys. -/
def deepOutcome (b : Binder) (root : String) (keys : List (String × List String)) :
    Except Fault Outcome :=
  match b.deepFiller? root with
  | some f => .ok (f.fillKeys keys)
  | none => .error (.noVariable root)

/-- Fill fields from the query, a form and keys in either of them. -/
def queryOutcomes (b : Binder) (r : Request) (body : Bytes) : Except Fault (List Outcome) := do
  let query := b.sortNames b.fillers.query b.fillers.deepObject r.queryPairs []
  -- keys of the form join those of the query, and all of them are decoded last
  let form := b.sortForm r body query.buffered
  let deep ← form.buffered.mapM fun e => b.deepOutcome e.1 e.2
  .ok (query.outcomes ++ form.outcomes ++ deep)

/-- What there is for a path variable. -/
def pathValue (b : Binder) (r : Request) (name : String) : Except Fault (Option Value) :=
  match b.pathVars with
  | some p => p.lookup r.pathParams name
  | none => .error absentFunction

/-- Fill a field from a path variable. A lookup that fails with a fault of the request is a step that
fails. -/
def pathOutcome (b : Binder) (r : Request) (f : PathFiller) : Except Fault Outcome :=
  match b.pathValue r f.name with
  | .ok v => .ok (f.fill v)
  | .error e => if e.isRequestFault then .ok (.fail e) else .error e

/-- Fill fields from path variables. -/
def pathOutcomes (b : Binder) (r : Request) : Except Fault (List Outcome) :=
  b.fillers.path.mapM (b.pathOutcome r)

/-- Fill fields from headers. -/
def headerOutcomes (b : Binder) (r : Request) : Except Fault (List Outcome) :=
  b.fillers.header.mapM fun f => (r.headerValues f.name).map fun vs =>
    if vs.isEmpty then .skip else f.fillList .header vs

/-- Fill fields from cookies. -/
def cookieOutcomes (b : Binder) (r : Request) : List Outcome :=
  b.fillers.cookie.map fun f => match Cookie.get? r.cookies f.name with
    | none => .skip
    | some s => f.fillText .cookie s

/-- The outcomes of all steps, in order. -/
def outcomes (b : Binder) (r : Request) (body : Bytes) : Except Fault (List Outcome) := do
  let path ← b.pathOutcomes r
  let header ← b.headerOutcomes r
  let query ← b.queryOutcomes r body
  .ok ((b.fillers.body.toList.map fun f => f.fill b r body) ++ path ++ header ++ query ++
    b.cookieOutcomes r)

/-- A new model filled from a request. When a step fails the path of the request is needed for the
log, so it has to be readable. -/
def resolve (b : Binder) (r : Request) (body : Bytes) : Except ResolveError (Record Value) := do
  let new ← (b.head.newInstance b.members).mapError .escaped
  let outcomes ← (b.outcomes r body).mapError .escaped
  let filled := outcomes.foldl Outcome.apply new
  match outcomes.findSome? Outcome.fault? with
  | none => .ok filled
  | some f => do
    -- a fault here hides the one that was to be reported
    let _ ← r.addressPath.mapError .escaped
    .error (.bind ⟨filled, f⟩)

/-- What is told about a request that could not be bound. -/
def resolveLog (b : Binder) (r : Request) (e : ResolveError) : List LogRecord :=
  match e, r.addressPath with
  | .bind e, .ok path =>
    [.bindFailed b.modelName path e.cause.origin.source e.cause.origin.parameter e.cause.message]
  | _, _ => []

end Binder

end ParamBinding
