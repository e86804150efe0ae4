import ParamBinding.Unpacker.Build

/-!
# Values in place of texts

A path variable may arrive as a value that is not a text, such as a number. `Ty.accepter` says what
a field of a type makes of it, where `Ty.unpacker` says what it makes of a text. Lists, maps and
nested models have to be split and fail on it; so do documents.
-/

namespace ParamBinding

namespace Ty

/-- What the own decoders of a type make of a value that is not a text. -/
def acceptOwn (r : Registry) : Ty → Option Note → Value → Except Fault Value
  | .annotated t ns, b, v => acceptOwn r t ((ns.find? Note.isBound).or b) v
  | .optional _ t, _, v => acceptOwn r t none v
  | t, b, v =>
    match t.bareReader? r with
    | some reader => reader.accept v
    | none => match t with
      | .scalar s => s.accept b v
      | _ => .error (noMethod v "split")

/-- What a parameter of a type makes of a value that is not a text. -/
def accepter (env : Env) (t : Ty) (site : Site) (tag : Tag) (v : Value) : Except Fault Value :=
  if tag.content = "" then acceptOwn env.registry t none v
  else .error (.decode (.content tag.content t.name)
    { source := some site.place.name, parameter := some site.name, field := some site.field }
    (noMethod v "encode"))

end Ty

end ParamBinding
