import ParamBinding.Binder.Resolve

/-!
# Services

A service compiles each model once and serves requests with the binders it has kept. Models are
compiled while an application is set up: by `binderFor`, `prepare` or `provider`. Serving a request,
by `decode` or with a provider, compiles nothing. Two counters per model tell how often it was
compiled and how often a provider refused a request.
-/

namespace ParamBinding

open ParamBinding.Text

/-- Counters by the name of a model. -/
abbrev Counters := List (String × Nat)

namespace Counters

/-- The value of a counter. -/
def get (cs : Counters) (label : String) : Nat := (cs.lookup label).getD 0

/-- Counters with one of them raised by one. -/
def increment (label : String) : Counters → Counters
  | [] => [(label, 1)]
  | (l, n) :: rest =>
    if l = label then (l, n + 1) :: rest else (l, n) :: increment label rest

end Counters

/-- A service: its options and readers, and what it has compiled and counted so far. -/
structure Service where
  env : Env
  /-- What has been compiled, by the key of the type. -/
  cache : List (String × Compiled) := []
  compiled : Counters := []
  refused : Counters := []

/-- The end of a call: the state after it, the events on the way, and the result. -/
structure Reply (ε α : Type) where
  service : Service
  log : List LogRecord
  result : Except ε α

/-- How serving a request fails. -/
inductive ServeError where
  /-- The application is not set up for the request. -/
  | setup (e : CompileError)
  | request (e : ResolveError)
  deriving Repr

/-- How a provider fails: it refuses the request with a status and a text, or a fault escapes that
is not the request's. -/
inductive ProviderError where
  | refused (status : Nat) (detail : String)
  | escaped (f : Fault)
  deriving Repr

namespace Service

/-- A service with the options of an application, or with those of the environment. Path variables
are those of the route unless the options say otherwise. -/
def new (registry : Registry) (environment : List (String × String)) (options : Option Options)
    (overrides : Overrides) : Service :=
  let o := (options.getD (.ofEnvironment environment)).apply overrides
  { env := ⟨{ o with pathVars := o.pathVars.or (some .route) }, registry⟩ }

/-- What has been compiled for a type. -/
def cached? (s : Service) (t : Ty) : Option Compiled := s.cache.lookup t.key

/-- The service after a compilation. -/
def remember (s : Service) (t : Ty) (c : Compiled) : Service :=
  { s with
    cache := s.cache ++ [(t.key, c)]
    compiled := match c.binder? with
      | some b => s.compiled.increment b.modelName
      | none => s.compiled }

/-- The binder of a type, compiled now unless it has been compiled before. -/
def binderFor (s : Service) (t : Ty) : Reply CompileError (Option Binder) :=
  match s.cached? t with
  | some c => ⟨s, [], .ok c.binder?⟩
  | none => match t.compile s.env with
    | .ok c => ⟨s.remember t c, c.log, .ok c.binder?⟩
    | .error e => ⟨s, [], .error e⟩

/-- The binder of a type that has to have one. -/
def require (s : Service) (t : Ty) : Reply CompileError Binder :=
  let reply := s.binderFor t
  { reply with result := match reply.result with
      | .ok (some b) => .ok b
      | .ok none => .error (.misconfigured (.nothingTagged t.name s.env.options.tagKey))
      | .error e => .error e }

/-- Compile several types, up to the first one that has no binder. -/
def prepare (s : Service) : List Ty → Reply CompileError Unit
  | [] => ⟨s, [], .ok ()⟩
  | t :: ts =>
    let first := s.require t
    match first.result with
    | .error e => ⟨first.service, first.log, .error e⟩
    | .ok _ =>
      let rest := first.service.prepare ts
      { rest with log := first.log ++ rest.log }

/-- Fill a model from a request. The body is left alone when no filler needs it. -/
def serve (b : Binder) (r : Request) (body : Bytes) : Except ResolveError (Record Value) :=
  b.resolve r (if b.fillers.needsBody then body else [])

/-- The events of serving a request. -/
def serveLog (b : Binder) (r : Request) (result : Except ResolveError (Record Value)) :
    List LogRecord :=
  match result with
  | .ok _ => []
  | .error e => b.resolveLog r e

/-- Fill a model that has been compiled before from a request. -/
def decode (s : Service) (t : Ty) (r : Request) (body : Bytes) : Reply ServeError (Record Value) :=
  match (s.cached? t).bind Compiled.binder? with
  | none => ⟨s, [], .error (.setup (.misconfigured (.notPrepared t.name)))⟩
  | some b =>
    let result := serve b r body
    ⟨s, serveLog b r result, result.mapError .request⟩

/-- The name of the provider of a model. -/
def providerName (b : Binder) : String := "bind_" ++ b.modelName

/-- Serve a request with a provider, which refuses requests that cannot be bound. -/
def provide (s : Service) (b : Binder) (r : Request) (body : Bytes) :
    Reply ProviderError (Record Value) :=
  let result := serve b r body
  let log := serveLog b r result
  match result with
  | .ok m => ⟨s, log, .ok m⟩
  | .error (.escaped f) => ⟨s, log, .error (.escaped f)⟩
  -- the refusal is an event of its own, with the address read once more
  | .error (.bind e) => match r.addressPath with
    | .error f => ⟨s, log, .error (.escaped f)⟩
    | .ok path =>
      ⟨{ s with refused := s.refused.increment b.modelName },
        log ++ [.refused b.modelName path e.message], .error (.refused e.status e.message)⟩

end Service

end ParamBinding
