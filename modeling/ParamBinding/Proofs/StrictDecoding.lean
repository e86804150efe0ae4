import ParamBinding.Proofs.Pieces

/-!
# Strict decoders

A strict application refuses keys that no field receives, and a lenient one passes over them.
Nothing else sets their decoders apart: on the same texts the strict result is the lenient one or a
fault about an unknown key (`Refines`). Every part that decoders are put together from keeps the
relation and none wraps the fault, so it holds of all decoders that are built for a type, however
deep the nested model stands in which keys are refused (`Ty.build_refines`).
-/

namespace ParamBinding

/-! ### Results -/

section Results

variable {α β ι : Type}

/-- A strict result is the lenient one, or a fault about something that nothing receives. -/
def Refines (s l : Except Fault α) : Prop :=
  s = l ∨ ∃ name nested, s = .error (.unknownParameter name nested)

theorem Refines.refl (x : Except Fault α) : Refines x x := .inl rfl

theorem Refines.unknown (name : String) (nested : Bool) (l : Except Fault α) :
    Refines (.error (.unknownParameter name nested)) l :=
  .inr ⟨name, nested, rfl⟩

theorem Refines.bind {s l : Except Fault α} {f g : α → Except Fault β} (h : Refines s l)
    (hfg : ∀ a, Refines (f a) (g a)) : Refines (s >>= f) (l >>= g) := by
  rcases h with rfl | ⟨name, nested, rfl⟩
  · cases s with
    | error e => exact .refl _
    | ok a => exact hfg a
  · exact .unknown name nested _

theorem Refines.map {s l : Except Fault α} (h : Refines s l) (f : α → β) :
    Refines (s.map f) (l.map f) := by
  rcases h with rfl | ⟨name, nested, rfl⟩
  · exact .refl _
  · exact .unknown name nested _

/-- A strict decoder refines a lenient one on all inputs. -/
def RefinesOn (d e : ι → Except Fault α) : Prop := ∀ x, Refines (d x) (e x)

theorem RefinesOn.mapM {d e : ι → Except Fault α} (h : RefinesOn d e) (xs : List ι) :
    Refines (xs.mapM d) (xs.mapM e) := by
  induction xs with
  | nil => exact .refl _
  | cons x xs ih =>
    rw [List.mapM_cons, List.mapM_cons]
    exact (h x).bind fun _ => ih.bind fun _ => .refl _

end Results

/-! ### Collections, tuples and maps -/

section Collections

variable {elem elem' key key' value value' : TextDecoder}

theorem gatherInto_refines (h : RefinesOn elem elem') (acc : List Value) (ss : List String) :
    Refines (gatherInto elem acc ss) (gatherInto elem' acc ss) := by
  induction ss generalizing acc with
  | nil => exact .refl _
  | cons s ss ih =>
    refine (h s).bind fun v => ?_
    cases v.unhashable? with
    | some u => exact .refl _
    | none => exact ih _

theorem gather_refines (h : RefinesOn elem elem') (c : Collection) :
    RefinesOn (gather c elem) (gather c elem') := by
  intro ss
  cases c with
  | list | tuple => exact (h.mapM ss).map _
  | set | frozenSet => exact (gatherInto_refines h [] ss).map _

/-- A place of a tuple whose decoder refines that of another one. -/
structure Slot.Refines (s l : Slot) : Prop where
  decode : RefinesOn s.decode l.decode
  zero : s.zero = l.zero

theorem fillSlots_refines {slots slots' : List Slot} (h : List.Forall₂ Slot.Refines slots slots')
    (ss : List String) : Refines (fillSlots slots ss) (fillSlots slots' ss) := by
  induction h generalizing ss with
  | nil => exact .refl _
  | @cons slot slot' slots slots' hslot _ ih =>
    cases ss with
    | nil =>
      rw [fillSlots, fillSlots, hslot.zero]
      exact (Refines.refl _).bind fun v => (ih []).bind fun _ => .refl _
    | cons s ss => exact (hslot.decode s).bind fun v => (ih ss).bind fun _ => .refl _

theorem fillTuple_refines {slots slots' : List Slot}
    (h : List.Forall₂ Slot.Refines slots slots') :
    RefinesOn (fillTuple slots) (fillTuple slots') := by
  intro ss
  rw [fillTuple, fillTuple, h.length_eq]
  split
  · exact .refl _
  · exact (fillSlots_refines h ss).map _

theorem gatherPairs_refines (hkey : RefinesOn key key') (hvalue : RefinesOn value value')
    (acc : List (Value × Value)) (ps : List (String × String)) :
    Refines (gatherPairs key value acc ps) (gatherPairs key' value' acc ps) := by
  induction ps generalizing acc with
  | nil => exact .refl _
  | cons p ps ih =>
    refine (hkey p.1).bind fun k => (hvalue p.2).bind fun v => ?_
    exact (Refines.refl _).bind fun acc' => ih acc'

theorem unpackMap_refines (hkey : RefinesOn key key') (hvalue : RefinesOn value value') :
    RefinesOn (unpackMap key value) (unpackMap key' value') :=
  fun tokens => (gatherPairs_refines hkey hvalue [] (pairs tokens)).map _

end Collections

/-! ### Unpackers -/

/-- Unpackers of one kind, the decoder of the first of which refines that of the second. -/
def Unpacker.Refines : Unpacker → Unpacker → Prop
  | .single d, .single e => RefinesOn d e
  | .multi d, .multi e => RefinesOn d e
  | .deepObject d, .deepObject e => RefinesOn d e
  | _, _ => False

section Unpackers

variable {s l : Unpacker}

theorem Unpacker.Refines.refl (u : Unpacker) : u.Refines u := by
  cases u <;> exact fun x => .refl _

theorem Unpacker.Refines.single? (h : s.Refines l) :
    Option.Rel RefinesOn s.single? l.single? := by
  cases s <;> cases l <;> first | exact h.elim | exact .some h | exact .none

theorem Unpacker.Refines.multi? (h : s.Refines l) : Option.Rel RefinesOn s.multi? l.multi? := by
  cases s <;> cases l <;> first | exact h.elim | exact .some h | exact .none

theorem Unpacker.Refines.deepObject? (h : s.Refines l) :
    Option.Rel RefinesOn s.deepObject? l.deepObject? := by
  cases s <;> cases l <;> first | exact h.elim | exact .some h | exact .none

theorem unpackValues_refines (h : s.Refines l) : RefinesOn (unpackValues s) (unpackValues l) := by
  intro vs
  cases s <;> cases l <;> first | exact h.elim | exact h _ | exact .refl _

theorem gatherKeys_refines {key key' : TextDecoder} (hkey : RefinesOn key key') (h : s.Refines l)
    (acc : List (Value × Value)) (keys : List (String × List String)) :
    Refines (gatherKeys key s acc keys) (gatherKeys key' l acc keys) := by
  induction keys generalizing acc with
  | nil => exact .refl _
  | cons e keys ih =>
    refine (unpackValues_refines h e.2).bind fun v => (hkey e.1).bind fun k => ?_
    exact (Refines.refl _).bind fun acc' => ih acc'

theorem Site.element_refines (site : Site) (t : Ty) (h : s.Refines l) :
    Alike Eq RefinesOn (site.element t s) (site.element t l) := by
  have hsingle := h.single?
  rw [element, element]
  generalize s.single? = d at hsingle ⊢
  generalize l.single? = d' at hsingle ⊢
  cases hsingle with
  | none => exact .error rfl
  | some hd => exact .ok hd

variable {d e : ListDecoder}

theorem Site.listUnpacker_refines (site : Site) (tag : Tag) (h : RefinesOn d e) :
    (site.listUnpacker tag d).Refines (site.listUnpacker tag e) := by
  rw [listUnpacker, listUnpacker]
  split
  · exact h
  · exact fun v => h _

theorem Site.tokenUnpacker_refines (site : Site) (tag : Tag) (h : RefinesOn d e) :
    (site.tokenUnpacker tag d).Refines (site.tokenUnpacker tag e) := by
  rw [tokenUnpacker, tokenUnpacker]
  split
  · exact fun vs => h _
  · exact fun v => h _

end Unpackers

/-! ### Nested models -/

/-- A target for the same key and field, whose decoder refines that of another one. -/
structure MemberTarget.Refines (s l : MemberTarget) : Prop where
  key : s.key = l.key
  field : s.field = l.field
  unpacker : s.unpacker.Refines l.unpacker

namespace StructDecoder

/-- A strict decoder and a lenient one for the same nested model. -/
structure Refines (s l : StructDecoder) : Prop where
  place : s.place = l.place
  new : s.new = l.new
  strict : s.strict = true
  lenient : l.strict = false
  targets : List.Forall₂ MemberTarget.Refines s.targets l.targets

variable {s l : StructDecoder}

theorem Refines.target? (h : s.Refines l) (key : String) :
    Option.Rel MemberTarget.Refines (s.target? key) (l.target? key) :=
  rel_find?_of_forall₂ h.targets fun t t' ht => by rw [ht.key]

/-- A fault about an unknown key is not wrapped, and any other fault is wrapped alike. -/
theorem Refines.fill (h : s.Refines l) (field : String) (r : Record Value)
    {v v' : Except Fault Value} (hv : ParamBinding.Refines v v') :
    ParamBinding.Refines (s.fill field r v) (l.fill field r v') := by
  rcases hv with rfl | ⟨name, nested, rfl⟩
  · have hblame : ∀ f, s.blame field f = l.blame field f := by
      intro f
      rw [blame, blame, h.place]
    cases v with
    | ok v => exact .refl _
    | error f =>
      rw [StructDecoder.fill, StructDecoder.fill, hblame]
      exact .refl _
  · exact .unknown name nested _

/-- **One key.** A strict decoder refuses a key without a target, and does the same as a lenient one
with any other key. -/
theorem Refines.putValues (h : s.Refines l) (r : Record Value) (key : String)
    (vs : List String) : ParamBinding.Refines (s.putValues r key vs) (l.putValues r key vs) := by
  have htarget := h.target? key
  rw [StructDecoder.putValues, StructDecoder.putValues]
  generalize s.target? key = t at htarget ⊢
  generalize l.target? key = t' at htarget ⊢
  cases htarget with
  | none =>
    show ParamBinding.Refines (s.unknown key r) (l.unknown key r)
    rw [unknown, if_pos h.strict]
    exact .unknown key true _
  | @some t t' ht =>
    have hu := ht.unpacker
    dsimp only
    rw [ht.field]
    cases hs : t.unpacker <;> cases hl : t'.unpacker <;> rw [hs, hl] at hu <;>
      first | exact hu.elim | skip
    · cases vs with
      | nil => exact .refl _
      | cons v vs => exact h.fill _ r (hu v)
    · exact h.fill _ r (hu vs)
    · exact h.fill _ r (.refl _)

theorem Refines.putKeys (h : s.Refines l) (r : Record Value)
    (keys : List (String × List String)) :
    ParamBinding.Refines (s.putKeys r keys) (l.putKeys r keys) := by
  induction keys generalizing r with
  | nil => exact .refl _
  | cons e keys ih => exact (h.putValues r e.1 e.2).bind fun r' => ih r'

theorem Refines.unpackKeys (h : s.Refines l) : RefinesOn s.unpackKeys l.unpackKeys := by
  intro keys
  rw [StructDecoder.unpackKeys, StructDecoder.unpackKeys, h.new]
  exact (ParamBinding.Refines.refl _).bind fun r =>
    (h.putKeys r keys).bind fun _ => .refl _

theorem Refines.unpackTokens (h : s.Refines l) : RefinesOn s.unpackTokens l.unpackTokens := by
  intro tokens
  rw [unpackTokens_eq, unpackTokens_eq]
  exact h.unpackKeys _

end StructDecoder

/-! ### Building -/

/-- What unpackers are built with, by a strict or a lenient application. -/
def Env.withStrict (env : Env) (strict : Bool) : Env :=
  { env with options := env.options.withStrict strict }

section Building

variable {env : Env} {t : Ty} {site : Site} {tag : Tag}

/-- Unpackers are built for a strict and for a lenient application, or there are none for either of
them, for the same reason. -/
abbrev BuiltAlike (s l : Except CompileError Unpacker) : Prop := Alike Eq Unpacker.Refines s l

theorem BuiltAlike.same (x : Except CompileError Unpacker) : BuiltAlike x x :=
  Alike.refl (fun _ => rfl) Unpacker.Refines.refl x

theorem Ty.readOr_refines {other other' : Except CompileError Unpacker}
    (h : BuiltAlike other other') :
    BuiltAlike (t.readOr (env.withStrict true) site tag other)
      (t.readOr (env.withStrict false) site tag other') := by
  have hregistry : ∀ strict, (env.withStrict strict).registry = env.registry := fun _ => rfl
  rw [readOr, readOr, hregistry, hregistry]
  cases t.bareReader? env.registry with
  | some reader => exact BuiltAlike.same _
  | none => exact h

/-- Lists of any length are built from the unpacker of their elements. -/
theorem buildList_refines {c : Collection} {inner inner' : Except CompileError Unpacker}
    (hinner : BuiltAlike inner inner') :
    BuiltAlike
      (do
        site.checkCompound tag
        if tag.deepObject then .error (site.tagError .deepObjectOnSequence)
        else
          let u ← inner
          let elem ← site.element t u
          .ok (site.listUnpacker tag (gather c elem)))
      (do
        site.checkCompound tag
        if tag.deepObject then .error (site.tagError .deepObjectOnSequence)
        else
          let u ← inner'
          let elem ← site.element t u
          .ok (site.listUnpacker tag (gather c elem))) := by
  refine Alike.bind_same _ (fun _ => rfl) fun _ => ?_
  split
  · exact BuiltAlike.same _
  · refine hinner.bind fun u u' hu => (site.element_refines t hu).bind fun d d' hd => ?_
    exact .ok (site.listUnpacker_refines tag (gather_refines hd c))

end Building

mutual

/-- **Decoders.** Those of a strict application refine those of a lenient one, whatever the type. -/
theorem Ty.build_refines (env : Env) : ∀ (t : Ty) (site : Site) (tag : Tag) (mode : Mode),
    BuiltAlike (Ty.build (env.withStrict true) t site tag mode)
      (Ty.build (env.withStrict false) t site tag mode)
  | .annotated t ns, site, tag, mode => by
    cases mode with
    | plain b noted =>
      rw [Ty.build, Ty.build]
      exact Ty.build_refines env t site tag _
    | document d w o =>
      rw [Ty.build, Ty.build]
      exact Ty.build_refines env t site tag _
  | .optional f t, site, tag, mode => by
    cases mode with
    | plain b noted =>
      rw [Ty.build, Ty.build]
      exact Ty.readOr_refines (Ty.build_refines env t site tag .own)
    | document d w o =>
      rw [Ty.build, Ty.build]
      split
      · exact BuiltAlike.same _
      · exact Ty.build_refines env t site tag _
  | .scalar s, site, tag, mode => by
    cases mode with
    | plain b noted =>
      rw [Ty.build, Ty.build]
      exact Ty.readOr_refines (BuiltAlike.same _)
    | document d w o =>
      rw [Ty.build, Ty.build]
      exact BuiltAlike.same _
  | .sequence n e spelled, site, tag, mode => by
    cases mode with
    | plain b noted =>
      rw [Ty.build, Ty.build]
      exact Ty.readOr_refines (buildList_refines (Ty.build_refines env e site _ .own))
    | document d w o =>
      rw [Ty.build, Ty.build]
      exact BuiltAlike.same _
  | .row c e form, site, tag, mode => by
    cases mode with
    | plain b noted =>
      rw [Ty.build, Ty.build]
      exact Ty.readOr_refines (buildList_refines (Ty.build_refines env e site _ .own))
    | document d w o =>
      rw [Ty.build, Ty.build]
      exact BuiltAlike.same _
  | .tuple c es, site, tag, mode => by
    cases mode with
    | plain b noted =>
      rw [Ty.build, Ty.build]
      refine Ty.readOr_refines (Alike.bind_same _ (fun _ => rfl) fun _ => ?_)
      split
      · exact BuiltAlike.same _
      · refine (Ty.buildSlots_refines env es site _).bind fun slots slots' hslots => ?_
        exact .ok (site.listUnpacker_refines tag (fillTuple_refines hslots))
    | document d w o =>
      rw [Ty.build, Ty.build]
      exact BuiltAlike.same _
  | .map n k v spelled, site, tag, mode => by
    cases mode with
    | plain b noted =>
      rw [Ty.build, Ty.build]
      refine Ty.readOr_refines (Alike.bind_same _ (fun _ => rfl) fun _ => ?_)
      refine (Ty.build_refines env k site _ .own).bind fun ku ku' hku => ?_
      refine (site.element_refines k hku).bind fun key key' hkey => ?_
      refine (Ty.build_refines env v site _ .own).bind fun vu vu' hvu => ?_
      split
      · refine Alike.bind_same _ (fun _ => rfl) fun _ => ?_
        exact .ok fun keys => (gatherKeys_refines hkey hvu [] keys).map _
      · have hsingle := hvu.single?
        generalize vu.single? = value at hsingle ⊢
        generalize vu'.single? = value' at hsingle ⊢
        cases hsingle with
        | none => exact .error rfl
        | some hd => exact .ok (site.tokenUnpacker_refines tag (unpackMap_refines hkey hd))
    | document d w o =>
      rw [Ty.build, Ty.build]
      split
      · -- the keys of exploded documents are read by the decoders of their own type
        refine (Ty.build_refines env k site _ .own).bind fun ku ku' hku => ?_
        refine (site.element_refines k hku).bind fun key key' hkey => ?_
        refine Alike.bind_same _ (fun _ => rfl) fun value => ?_
        exact .ok fun vs => unpackMap_refines hkey (fun _ => .refl _) _
      · exact BuiltAlike.same _
  | .model h ms, site, tag, mode => by
    cases mode with
    | plain b noted =>
      rw [Ty.build, Ty.build]
      refine Ty.readOr_refines (Alike.bind_same _ (fun _ => rfl) fun _ => ?_)
      refine (Ty.buildMembers_refines env ms site.place _ []).bind fun ts ts' hts => ?_
      have hd : StructDecoder.Refines ⟨site.place, true, h.newInstance ms, ts⟩
          ⟨site.place, false, h.newInstance ms, ts'⟩ := ⟨rfl, rfl, rfl, rfl, hts⟩
      dsimp only
      split
      · exact Alike.bind_same _ (fun _ => rfl) fun _ => .ok hd.unpackKeys
      · exact .ok (site.tokenUnpacker_refines tag hd.unpackTokens)
    | document d w o =>
      rw [Ty.build, Ty.build]
      exact BuiltAlike.same _
  | .keyedOnly k, site, tag, mode => by
    rw [Ty.build, Ty.build]
    exact BuiltAlike.same _
  | .plain _ _, site, tag, mode | .enum _, site, tag, mode | .union _ _, site, tag, mode
  | .literal _, site, tag, mode | .callable _ _, site, tag, mode
  | .generic _ _ _, site, tag, mode | .ellipsis, site, tag, mode => by
    cases mode with
    | plain b noted =>
      rw [Ty.build, Ty.build]
      exact Ty.readOr_refines (BuiltAlike.same _)
    | document d w o =>
      rw [Ty.build, Ty.build]
      exact BuiltAlike.same _

theorem Ty.buildSlots_refines (env : Env) : ∀ (ts : List Ty) (site : Site) (tag : Tag),
    Alike Eq (List.Forall₂ Slot.Refines) (Ty.buildSlots (env.withStrict true) ts site tag)
      (Ty.buildSlots (env.withStrict false) ts site tag)
  | [], site, tag => .ok .nil
  | t :: ts, site, tag => by
    rw [Ty.buildSlots, Ty.buildSlots]
    refine (Ty.build_refines env t site tag .own).bind fun u u' hu => ?_
    refine (site.element_refines t hu).bind fun d d' hd => ?_
    refine (Ty.buildSlots_refines env ts site tag).bind fun slots slots' hslots => ?_
    exact .ok (.cons ⟨hd, rfl⟩ hslots)

theorem Ty.buildMembers_refines (env : Env) : ∀ (ms : List (Member Ty)) (place : Place)
    (deep : Bool) (taken : List String),
    Alike Eq (List.Forall₂ MemberTarget.Refines)
      (Ty.buildMembers (env.withStrict true) ms place deep taken)
      (Ty.buildMembers (env.withStrict false) ms place deep taken)
  | [], place, deep, taken => .ok .nil
  | m :: ms, place, deep, taken => by
    rw [Ty.buildMembers, Ty.buildMembers]
    refine Alike.bind_same _ (fun _ => rfl) fun tag => ?_
    split
    · exact Ty.buildMembers_refines env ms place deep taken
    dsimp only
    split
    · exact .error rfl
    generalize (if deep = true then tag else tag.withoutExplode) = tag'
    split
    · exact .error rfl
    refine Alike.bind_same _ (fun _ => rfl) fun mode => ?_
    refine (Ty.build_refines env m.type _ _ mode).bind fun u u' hu => ?_
    refine (Ty.buildMembers_refines env ms place deep _).bind fun ts ts' hts => ?_
    exact .ok (.cons ⟨rfl, rfl, hu⟩ hts)

end

theorem Ty.unpacker_refines (env : Env) (t : Ty) (site : Site) (tag : Tag) :
    BuiltAlike (t.unpacker (env.withStrict true) site tag)
      (t.unpacker (env.withStrict false) site tag) :=
  Alike.bind_same _ (fun _ => rfl) fun mode => Ty.build_refines env t site tag mode

end ParamBinding
