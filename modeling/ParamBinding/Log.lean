import ParamBinding.Place

/-!
# Records of events

What an application can follow in its log: binders being compiled or declined, requests that could
not be bound, and requests that were answered with a refusal.
-/

namespace ParamBinding

/-- An event. -/
inductive LogRecord where
  /-- A model has no field with a tag. -/
  | declined (model : String)
  | compiled (model : String) (fillers : Nat) (body path form : Bool)
  | bindFailed (model path : String) (source parameter : Option String) (message : String)
  /-- A request was refused. -/
  | refused (model path message : String)
  deriving DecidableEq, Repr

/-- The part of the program that an event comes from. -/
inductive LogChannel where
  | compile
  | resolve
  | api
  deriving DecidableEq, Repr

/-- How important an event is. -/
inductive LogLevel where
  | debug
  | info
  deriving DecidableEq, Repr

/-- The name of a channel. -/
def LogChannel.name : LogChannel → String
  | compile => "compile"
  | resolve => "resolve"
  | api => "api"

/-- The name of a level. -/
def LogLevel.name : LogLevel → String
  | debug => "DEBUG"
  | info => "INFO"

namespace LogRecord

/-- The channel of an event. -/
def channel : LogRecord → LogChannel
  | declined _ | compiled _ _ _ _ _ => .compile
  | bindFailed _ _ _ _ _ => .resolve
  | refused _ _ _ => .api

/-- The level of an event. -/
def level : LogRecord → LogLevel
  | refused _ _ _ => .info
  | _ => .debug

/-- The word for a boolean. -/
def flag (b : Bool) : String := if b then "True" else "False"

/-- The wording of an event. -/
def message : LogRecord → String
  | declined m => s!"binder declined model={m}: no tagged fields"
  | compiled m n body path form =>
    s!"binder compiled model={m} fillers={n} body={flag body} path={flag path} form={flag form}"
  | bindFailed m path source parameter text =>
    s!"bind failed model={m} path={path} source=" ++ source.getD "None" ++ " parameter=" ++
      parameter.getD "None" ++ ": " ++ text
  | refused m path text => s!"bind rejected model={m} path={path}: {text}"

end LogRecord

end ParamBinding
