/-!
# Places

The parts of a request that hold parameters. Only the query and the headers can repeat a parameter.
-/

namespace ParamBinding

/-- A part of a request that holds parameters. -/
inductive Place where
  | path
  | query
  | header
  | cookie
  /-- Any other part, by its name. -/
  | other (name : String)
  deriving DecidableEq, Repr

namespace Place

/-- The name of a place. -/
def name : Place → String
  | path => "path"
  | query => "query"
  | header => "header"
  | cookie => "cookie"
  | other s => s

/-- The place with a name. -/
def ofName (s : String) : Place :=
  if s = "path" then path
  else if s = "query" then query
  else if s = "header" then header
  else if s = "cookie" then cookie
  else other s

/-- What a parameter of a place is called in messages. -/
def label : Place → String
  | path => "path element"
  | query => "query parameter"
  | header => "header"
  | cookie => "cookie parameter"
  | other s => s

/-- Whether a parameter may occur several times. -/
def repeats : Place → Bool
  | query | header => true
  | _ => false

/-- Whether a parameter is one bare text, so that its tag cannot choose how lists are written. -/
def isBare : Place → Bool
  | path | cookie => true
  | _ => false

/-- A place is found again by its name. -/
@[simp] theorem ofName_name (p : Place) (h : ∀ s, p ≠ other s) : ofName p.name = p := by
  cases p with
  | other s => exact absurd rfl (h s)
  | _ => rfl

end Place

end ParamBinding
