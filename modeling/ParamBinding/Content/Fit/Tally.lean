import ParamBinding.Fault

/-!
# How well a document fits

A document's value may have to be changed to become a value of the type that is wanted. `Slack` says
how much, and `Tally` is what is noted of a value as it is fitted piece by piece: the largest
change, and how many fields of models were set. A choice between types goes by these notes.

Fitting is done in `Fitting`: a tally is handed on from piece to piece, and fitting fails with
`Fault.misfit` where a value does not fit.
-/

namespace ParamBinding

/-- Where a document's value comes from. JSON has few kinds of values, so that some of them stand
for several types; names in JSON objects are texts whatever is wanted. -/
inductive DocumentForm where
  | json
  | jsonName
  | plain
  deriving DecidableEq, Repr

/-- How much a value had to be changed to fit. -/
inductive Slack where
  | none
  /-- The type is wider than that of the value. -/
  | widened
  | converted
  deriving DecidableEq, Repr

namespace Slack

/-- The larger of two. -/
def max : Slack → Slack → Slack
  | .converted, _ | _, .converted => .converted
  | .widened, _ | _, .widened => .widened
  | .none, .none => .none

/-- Whether the first is less than the second. -/
def less (a b : Slack) : Bool := a ≠ b && a.max b = b

end Slack

namespace DocumentForm

/-- The change of a text to a value that documents of a form can only spell. -/
def spelling : DocumentForm → Slack
  | json | jsonName => .widened
  | plain => .converted

/-- The change of a text to a number or boolean, which most documents can hold themselves. -/
def reading : DocumentForm → Slack
  | jsonName => .widened
  | json | plain => .converted

/-- The change of a text to a text: in JSON a text may stand for many things. -/
def keeping : DocumentForm → Slack
  | json | jsonName => .widened
  | plain => .none

end DocumentForm

/-- What is noted of a value while it is fitted. -/
structure Tally where
  slack : Slack := .none
  /-- How many fields of models the document has set, if there are models in it. -/
  fields : Option Nat := none
  deriving DecidableEq, Repr

namespace Tally

/-- A tally with one more change. -/
def note (t : Tally) (s : Slack) : Tally := { t with slack := t.slack.max s }

/-- A tally with more fields. -/
def addFields (t : Tally) (n : Nat) : Tally := { t with fields := some (t.fields.getD 0 + n) }

/-- A tally with all that another one says. -/
def absorb (t u : Tally) : Tally :=
  match u.fields with
  | some n => (t.note u.slack).addFields n
  | none => t.note u.slack

/-- Whether nothing is left to be wished for: nothing was changed, and there are no fields that
could be more. -/
def isPerfect (t : Tally) : Bool := t.slack = .none && t.fields.isNone

/-- Whether the second of two choices is better: it sets more fields, or else changes less. -/
def isBetter (old new : Tally) : Bool :=
  match old.fields, new.fields with
  | some m, some n => if m = n then new.slack.less old.slack else m < n
  | _, _ => new.slack.less old.slack

end Tally

/-- Fitting a value, with a tally of what is fitted so far. -/
abbrev Fitting (α : Type) := StateT Tally (Except Fault) α

/-- A value that fits a type, and how much it was changed. -/
structure Fit where
  value : Value
  slack : Slack := .none

namespace Fitting

/-- Fitting fails. -/
def refuse {α : Type} : Fitting α := throw .misfit

/-- Note a change. -/
def note (s : Slack) : Fitting Unit := modify (·.note s)

/-- Note fields that were set. -/
def addFields (n : Nat) : Fitting Unit := modify (·.addFields n)

/-- Fitting without a tally. -/
def ofExcept {α : Type} (x : Except Fault α) : Fitting α := StateT.lift x

/-- Fitting fails without a value. -/
def ofOption {α : Type} : Option α → Fitting α
  | some a => pure a
  | none => refuse

/-- Take over a value with its change. -/
def ofFit (f : Fit) : Fitting Value := do
  note f.slack
  pure f.value

/-- The better of the choice that was the best so far, if there was one, and a new one. -/
def better (best : Option (Value × Tally)) (v : Value) (t : Tally) : Value × Tally :=
  match best with
  | none => (v, t)
  | some (w, u) => if u.isBetter t then (v, t) else (w, u)

/-- The best of several choices, the first one if there are several. A choice that leaves nothing to
be wished for is taken at once, and with it its tally. -/
def choose (best : Option (Value × Tally)) : List (Fitting Value) → Fitting Value
  | [] => match best with
    | some (v, t) => do
      modify (·.absorb t)
      pure v
    | none => refuse
  | c :: cs => fun old =>
    match c {} with
    | .ok (v, t) =>
      if t.isPerfect then .ok (v, t) else choose (some (better best v t)) cs old
    | .error .misfit => choose best cs old
    | .error f => .error f

end Fitting

end ParamBinding
