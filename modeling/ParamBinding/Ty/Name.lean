import ParamBinding.Ty.Basic
import ParamBinding.Text.Split
import ParamBinding.Value.Text

/-!
# Names of types

A type is shown in messages in three ways: by its name (`Ty.name`), which leaves out the module of
aliases, by its bare name (`Ty.shortName`), which leaves out the arguments of an alias too, and in
full (`Ty.shown`). Types with the same `Ty.key` are the same type; the choices of a union have no
order.
-/

namespace ParamBinding

open ParamBinding.Text

/-- The text of a note. -/
def Note.shown : Note → String
  | .intBounds bits signed =>
    s!"IntBounds(bits={bits}, signed=" ++ (if signed then "True" else "False") ++ ")"
  | .floatBits bits => s!"FloatBits(bits={bits})"
  | .text s => quoted s

namespace Ty

/-- An alias with arguments. -/
def applied (name : String) (args : List String) : String :=
  name ++ "[" ++ ", ".intercalate args ++ "]"

/-- The alias of tuples. -/
def tupleName (builtin : Bool) : String := if builtin then "tuple" else "typing.Tuple"

/-- A choice between bars, where the type of `none` is written as its value. -/
def barText (t : Ty) (text : String) : String := if t.isNone then "None" else text

mutual

/-- A type as it is shown between the brackets of another one. -/
def argText : Ty → String
  | .scalar s => s.cls.path
  | .plain c _ => c.path
  | .enum e => e.cls.path
  | .model h _ => h.cls.path
  | .sequence n e spelled => if spelled then applied n.cls.path [argText e] else n.cls.path
  | .row b e form => match form with
    | .bare => tupleName b
    | .dots => applied (tupleName b) [argText e, "..."]
    | .empty => applied (tupleName b) ["()"]
  | .tuple b es => applied (tupleName b) (argTexts es)
  | .map n k v spelled =>
    if spelled then applied n.cls.path [argText k, argText v] else n.cls.path
  | .keyedOnly k => applied "dict" [argText k]
  | .optional form t => match form with
    | .named => applied "typing.Optional" [argText t]
    | .barAfter => argText t ++ " | None"
    | .barBefore => "None | " ++ argText t
  | .union bars ts =>
    if bars then " | ".intercalate (barTexts ts) else applied "typing.Union" (argTexts ts)
  | .annotated t ns => applied "typing.Annotated" (argText t :: ns.map Note.shown)
  | .literal vs => applied "typing.Literal" (vs.map Value.shown)
  | .callable args r =>
    applied "typing.Callable" ["[" ++ ", ".intercalate (argTexts args) ++ "]", argText r]
  | .generic n args spelled => if spelled then applied n.cls.path (argTexts args) else n.cls.path
  | .ellipsis => "..."

/-- The texts of several types. -/
def argTexts : List Ty → List String
  | [] => []
  | t :: ts => argText t :: argTexts ts

/-- The texts of several choices between bars. -/
def barTexts : List Ty → List String
  | [] => []
  | t :: ts => barText t (argText t) :: barTexts ts

end

/-- A type in full. -/
def shown (t : Ty) : String :=
  match t with
  | .enum e => "<enum '" ++ e.cls.name ++ "'>"
  | .plain ⟨"typing", n⟩ _ => "typing." ++ n
  | .ellipsis => "Ellipsis"
  | _ => match t.class? with
    | some c => "<class '" ++ c.path ++ "'>"
    | none => t.argText

/-- The name of a type: notes and the module of aliases are left out. -/
def name (t : Ty) : String :=
  let t := t.bare
  match t.class? with
  | some c => c.name
  | none => replace "typing." "" t.shown

/-- The bare name of a type, where it has one. -/
def shortName (t : Ty) : String :=
  match t with
  | .sequence n _ _ => n.cls.name
  | .row b _ _ | .tuple b _ => if b then "tuple" else "Tuple"
  | .map n _ _ _ => n.cls.name
  | .keyedOnly _ => "dict"
  | .optional .named _ => "Optional"
  | .union false _ => "Union"
  | .annotated _ _ => "Annotated"
  | .literal _ => "Literal"
  | .callable _ _ => "Callable"
  | .generic n _ _ => n.cls.name
  | _ => match t.class? with
    | some c => c.name
    | none => t.shown

/-- Texts in ascending order, each once. -/
def sortedTexts (ts : List String) : List String :=
  (ts.mergeSort fun a b => decide (a ≤ b)).eraseDups

/-- The key of a choice among types with the given keys. -/
def choiceKey (keys : List String) : String := "(" ++ " | ".intercalate (sortedTexts keys) ++ ")"

mutual

/-- A text that is the same for two types exactly when they count as the same type. -/
def key : Ty → String
  | .scalar s => s.cls.path
  | .plain c _ => c.path
  | .enum e => e.cls.path
  | .model h _ => h.cls.path
  | .sequence n e spelled => if spelled then applied n.cls.path [key e] else n.cls.path
  | .row b e form => match form with
    | .bare => tupleName b
    | .dots => applied (tupleName b) [key e, "..."]
    | .empty => applied (tupleName b) ["()"]
  | .tuple b es => applied (tupleName b) (keys es)
  | .map n k v spelled => if spelled then applied n.cls.path [key k, key v] else n.cls.path
  | .keyedOnly k => applied "dict" [key k]
  | .optional _ t => choiceKey [key t, "NoneType"]
  | .union _ ts => choiceKey (keys ts)
  | .annotated t ns => applied "typing.Annotated" (key t :: ns.map Note.shown)
  | .literal vs => applied "typing.Literal" (sortedTexts (vs.map Value.shown))
  | .callable args r =>
    applied "typing.Callable" ["[" ++ ", ".intercalate (keys args) ++ "]", key r]
  | .generic n args spelled => if spelled then applied n.cls.path (keys args) else n.cls.path
  | .ellipsis => "..."

/-- The keys of several types. -/
def keys : List Ty → List String
  | [] => []
  | t :: ts => key t :: keys ts

end

/-- Whether two types count as the same. -/
def same (t u : Ty) : Bool := t.key == u.key

end Ty

end ParamBinding
