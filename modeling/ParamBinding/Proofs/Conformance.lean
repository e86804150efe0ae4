import Mathlib.Algebra.Ring.Int.Defs
import ParamBinding.Proofs.Instance
import ParamBinding.Unpacker.Build

/-!
# Values of a type

What it is for a value to be one of a type, said without any decoder (`Conforms`): numbers are of
their class and within their bounds, lists are in the container of their spelling, tuples have as
many places as types, members of enumerations are declared, and fields of a nested model hold values
of their types or what they started with.

A class may bring a text form along, or have one registered for it, the primitive classes among them.
Then its values are those that the text form reads, whatever they are, and nothing is left of the
above. Only zeros are of the structure of their type all the same (`Formed`), as no text form makes
them.
-/

namespace ParamBinding

/-! ### Text forms -/

namespace Ty

/-- The text form that a class brings along, or that is registered for it. -/
def textForm? (reg : Registry) (t : Ty) : Option TextReader :=
  t.ownReader?.or (t.class?.bind fun c => reg.lookup c.path)

/-- A value is one that the text form of a type reads, or, for a type without one, has another
property. -/
def IsReadOr (reg : Registry) (t : Ty) (v : Value) (other : Prop) : Prop :=
  match t.bare.textForm? reg with
  | some reader => ∃ s, reader.read s = .ok v
  | none => other

/-- A type is read by its text form; enumerations have one anyway. -/
theorem bareReader?_eq_some {reg : Registry} {t : Ty} {reader : TextReader}
    (h : t.bareReader? reg = some reader) :
    t.textForm? reg = some reader ∨
      t.textForm? reg = none ∧ ∃ e, t = .enum e ∧ reader = .enum e := by
  unfold bareReader? at h
  unfold textForm?
  cases hown : t.ownReader? with
  | some own =>
    rw [hown] at h
    exact .inl h
  | none =>
    rw [hown] at h
    cases hreg : t.class?.bind fun c => reg.lookup c.path with
    | some registered =>
      simp only [hreg] at h
      exact .inl h
    | none =>
      simp only [hreg] at h
      refine .inr ⟨rfl, ?_⟩
      cases t with
      | enum e => exact ⟨e, rfl, (Option.some.inj h).symm⟩
      | _ => cases h

theorem textForm?_of_bareReader?_eq_none {reg : Registry} {t : Ty}
    (h : t.bareReader? reg = none) : t.textForm? reg = none := by
  unfold bareReader? at h
  unfold textForm?
  cases hown : t.ownReader? with
  | some own =>
    rw [hown] at h
    cases h
  | none =>
    rw [hown] at h
    cases hreg : t.class?.bind fun c => reg.lookup c.path with
    | some registered =>
      simp only [hreg] at h
      cases h
    | none => rfl

end Ty

/-! ### Numbers -/

/-- An integer is within the bounds of a note. The bounds of less than one bit are no bounds. -/
def InBounds (bounds : Option Note) (n : Int) : Prop :=
  match bounds with
  | some (.intBounds bits signed) => 1 ≤ bits →
    if signed then -2 ^ (bits - 1).toNat ≤ n ∧ n ≤ 2 ^ (bits - 1).toNat - 1
    else 0 ≤ n ∧ n ≤ 2 ^ bits.toNat - 1
  | _ => True

/-- A float is within the format of a note. -/
def InFormat (bounds : Option Note) (x : Binary64) : Prop :=
  bounds = some (.floatBits 32) → exceedsSingle x = false

/-- A value is one of a primitive class, and of a subclass exactly when one is asked for. -/
def Scalar.Exact (s : Scalar) (bounds : Option Note) (v : Value) : Prop :=
  match s.kind with
  | .bool => ∃ b, v = s.wrap (.bool b)
  | .int => ∃ n, v = s.wrap (.int n) ∧ InBounds bounds n
  | .float => ∃ x, v = s.wrap (.float x) ∧ InFormat bounds x
  | .complex => ∃ re im, v = s.wrap (.complex re im)
  | .text => ∃ t, v = s.wrap (.text t)
  | .bytes => ∃ bs, v = s.wrap (.bytes bs)

/-! ### Types -/

mutual

/-- A value has the structure of a type, the numbers of which may have bounds that are noted further
out. What it is put together from is of the types of its parts. -/
def Formed (reg : Registry) : Ty → Option Note → Value → Prop
  | .annotated t ns, b, v => Formed reg t ((ns.find? Note.isBound).or b) v
  | .scalar s, b, v => s.Exact b v
  | .enum e, _, v => ∃ m ∈ e.members, v = .member e.cls.name m.1
  | .optional _ t, _, v => v = .none ∨ t.IsReadOr reg v (Formed reg t none v)
  | .sequence n t _, _, v =>
    ∃ xs, v = n.gathers.wrap xs ∧ ∀ x ∈ xs, t.IsReadOr reg x (Formed reg t none x)
  | .row _ t _, _, v => ∃ xs, v = .tuple xs ∧ ∀ x ∈ xs, t.IsReadOr reg x (Formed reg t none x)
  | .tuple _ ts, _, v => ∃ xs, v = .tuple xs ∧ xs.length = ts.length ∧ SlotsConform reg ts xs
  | .map _ k t _, _, v => ∃ entries, v = .map entries ∧ ∀ e ∈ entries,
    k.IsReadOr reg e.1 (Formed reg k none e.1) ∧ t.IsReadOr reg e.2 (Formed reg t none e.2)
  | .model h ms, _, v => ∃ fields, v = .model ⟨h.cls.name, h.frozen, fields⟩ ∧
    fields.map (·.1) = ms.map (·.name) ∧ ∀ f ∈ fields, FieldConforms reg ms f
  | .plain _ _, _, _ | .keyedOnly _, _, _ | .union _ _, _, _ | .literal _, _, _
  | .callable _ _, _, _ | .generic _ _ _, _, _ | .ellipsis, _, _ => False

/-- The places of a tuple are values of their types, up to one from which on all are zeros. -/
def SlotsConform (reg : Registry) : List Ty → List Value → Prop
  | t :: ts, v :: vs => Ty.zeros (t :: ts) = .ok (v :: vs) ∨
    (t.IsReadOr reg v (Formed reg t none v) ∧ SlotsConform reg ts vs)
  | [], [] => True
  | _, _ => False

/-- What a field holds is a value of the type of the field of that name, or what it started with. -/
def FieldConforms (reg : Registry) : List (Member Ty) → String × Option Value → Prop
  | [], _ => False
  | m :: ms, f =>
    (m.name = f.1 ∧ (m.start = .ok f.2 ∨
      ∃ v, f.2 = some v ∧ m.type.IsReadOr reg v (Formed reg m.type none v))) ∨
      FieldConforms reg ms f

end

/-- A value is one of a type: one that the text form of the type reads, or, for a type without a text
form, one of its structure. -/
def Conforms (reg : Registry) (t : Ty) (b : Option Note) (v : Value) : Prop :=
  t.IsReadOr reg v (Formed reg t b v)

/-! ### Types without documents -/

mutual

/-- No field of a nested model is decoded from a document. -/
def Ty.ContentFree (key : String) : Ty → Prop
  | .annotated t _ | .optional _ t | .sequence _ t _ | .row _ t _ => t.ContentFree key
  | .tuple _ ts => ContentFreeIn key ts
  | .map _ k v _ => k.ContentFree key ∧ v.ContentFree key
  | .model _ ms => ContentFreeAmong key ms
  | _ => True

def ContentFreeIn (key : String) : List Ty → Prop
  | [] => True
  | t :: ts => t.ContentFree key ∧ ContentFreeIn key ts

def ContentFreeAmong (key : String) : List (Member Ty) → Prop
  | [] => True
  | m :: ms =>
    (∀ tag, Tag.read true ((m.tag? key).getD "") = .ok tag → tag.content = "") ∧
      m.type.ContentFree key ∧ ContentFreeAmong key ms

end

end ParamBinding
