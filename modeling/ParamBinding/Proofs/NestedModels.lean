import ParamBinding.Proofs.BuilderFailures
import ParamBinding.Proofs.KeyOrder

/-!
# Nested models

A nested model is decoded from pairs of keys and texts. Building it gives one target for every field
that is not left out, under a key that no other field has (`Ty.buildMembers_eq_ok`).

What becomes of a pair does not depend on the pairs before it (`StructDecoder.decodePair`): it is
for a field, it is passed over, or it is at fault. So decoding a list of pairs is decoding each of
them, and then putting the values into a new instance in order (`StructDecoder.unpackTokens_eq_bind`).
The first fault is reported, and of several values for a field the last one stays
(`Ty.nested_decoding`).
-/

namespace ParamBinding

/-! ### Fields and their targets -/

/-- A field is left out of a nested model: its tag says so. -/
def Member.IsLeftOut (env : Env) (m : Member Ty) : Prop :=
  ∃ tag, Tag.read true ((m.tag? env.options.tagKey).getD "") = .ok tag ∧ tag.base = "-"

/-- A target is that of a field: it is filled under the key that the tag names, with an unpacker for
the type of the field. -/
structure MemberTarget.IsOf (env : Env) (place : Place) (deep : Bool) (m : Member Ty)
    (t : MemberTarget) : Prop where
  field : t.field = m.name
  compiled : ∃ tag, Tag.read true ((m.tag? env.options.tagKey).getD "") = .ok tag ∧
    tag.base ≠ "-" ∧ tag.deepObject = false ∧ t.key = Ty.memberKey tag m.name ∧
    m.type.unpacker env ⟨m.name, t.key, place⟩ (if deep then tag else tag.withoutExplode) =
      .ok t.unpacker

/-- The targets of the fields of a nested model, in the order of their declaration. -/
inductive TargetsOf (env : Env) (place : Place) (deep : Bool) :
    List (Member Ty) → List MemberTarget → Prop where
  | nil : TargetsOf env place deep [] []
  | leftOut {m : Member Ty} {ms : List (Member Ty)} {ts : List MemberTarget} :
      m.IsLeftOut env → TargetsOf env place deep ms ts → TargetsOf env place deep (m :: ms) ts
  | target {m : Member Ty} {ms : List (Member Ty)} {t : MemberTarget} {ts : List MemberTarget} :
      t.IsOf env place deep m → TargetsOf env place deep ms ts →
        TargetsOf env place deep (m :: ms) (t :: ts)

section Targets

variable {env : Env} {place : Place} {deep : Bool} {m : Member Ty} {ms : List (Member Ty)}
  {t : MemberTarget} {targets : List MemberTarget} {tag : Tag} {u : Unpacker}

theorem targetsOf_skip
    (htag : Tag.read true ((m.tag? env.options.tagKey).getD "") = .ok tag)
    (hskip : tag.base = "-") :
    TargetsOf env place deep (m :: ms) targets ↔ TargetsOf env place deep ms targets := by
  constructor
  · intro h
    cases h with
    | leftOut _ h => exact h
    | target ht _ =>
      obtain ⟨tag', htag', hskip', -⟩ := ht.compiled
      rw [htag] at htag'
      cases htag'
      exact absurd hskip hskip'
  · exact .leftOut ⟨tag, htag, hskip⟩

theorem targetsOf_take
    (htag : Tag.read true ((m.tag? env.options.tagKey).getD "") = .ok tag) (hskip : tag.base ≠ "-")
    (hdeep : tag.deepObject = false) :
    TargetsOf env place deep (m :: ms) targets ↔ ∃ u ts,
      m.type.unpacker env ⟨m.name, Ty.memberKey tag m.name, place⟩
        (if deep then tag else tag.withoutExplode) = .ok u ∧
      TargetsOf env place deep ms ts ∧ targets = ⟨Ty.memberKey tag m.name, m.name, u⟩ :: ts := by
  constructor
  · intro h
    cases h with
    | leftOut hout _ =>
      obtain ⟨tag', htag', hskip'⟩ := hout
      rw [htag] at htag'
      cases htag'
      exact absurd hskip' hskip
    | @target _ _ t ts ht h =>
      obtain ⟨key, field, u⟩ := t
      obtain ⟨rfl, tag', htag', -, -, rfl, hu⟩ := ht
      rw [htag] at htag'
      cases htag'
      exact ⟨u, ts, hu, h, rfl⟩
  · rintro ⟨u, ts, hu, h, rfl⟩
    exact .target ⟨rfl, tag, htag, hskip, hdeep, rfl, hu⟩ h

/-- **Building a nested model.** It succeeds when every field that is not left out has a target and
no two of these have the same key. -/
theorem Ty.buildMembers_eq_ok {taken : List String} :
    Ty.buildMembers env ms place deep taken = .ok targets ↔
      TargetsOf env place deep ms targets ∧ (targets.map (·.key)).Nodup ∧
        ∀ t ∈ targets, t.key ∉ taken := by
  induction ms generalizing taken targets with
  | nil =>
    rw [buildMembers, Except.ok.injEq]
    constructor
    · rintro rfl
      exact ⟨.nil, .nil, by simp⟩
    · rintro ⟨⟨⟩, -⟩
      rfl
  | cons m ms ih =>
    obtain ⟨tag, htag, hskip⟩ | ⟨tag, htag, hskip, hkey, hdeep⟩ | ⟨e, -, herror⟩ :=
      buildMembers_cases env m place deep taken
    · rw [buildMembers_skip htag hskip, targetsOf_skip htag hskip, ih]
    · rw [buildMembers_take htag hskip hkey hdeep, targetsOf_take htag hskip hdeep]
      simp only [bind_eq_ok, ih, Except.ok.injEq]
      constructor
      · rintro ⟨u, hu, ts, ⟨hts, hnodup, hfresh⟩, rfl⟩
        refine ⟨⟨u, ts, hu, hts, rfl⟩, ?_, ?_⟩
        · rw [List.map_cons, List.nodup_cons]
          refine ⟨fun hmem => ?_, hnodup⟩
          obtain ⟨t, ht, hsame⟩ := List.mem_map.mp hmem
          exact hfresh t ht (by simp [hsame])
        · rw [List.forall_mem_cons]
          exact ⟨hkey, fun t ht h => hfresh t ht (List.mem_append_left _ h)⟩
      · rintro ⟨⟨u, ts, hu, hts, rfl⟩, hnodup, hfresh⟩
        rw [List.map_cons, List.nodup_cons] at hnodup
        rw [List.forall_mem_cons] at hfresh
        refine ⟨u, hu, ts, ⟨hts, hnodup.2, fun t ht hmem => ?_⟩, rfl⟩
        obtain hmem | hmem := List.mem_append.mp hmem
        · exact hfresh.2 t ht hmem
        · exact hnodup.1 (List.mem_map.mpr ⟨t, ht, List.mem_singleton.mp hmem⟩)
    · -- whatever is wrong with this field keeps it from having a target of its own
      refine iff_of_false (by rw [herror ms]; rintro ⟨⟩) ?_
      rintro ⟨h, -, hfresh⟩
      have hnil := herror []
      cases h with
      | leftOut hout _ =>
        obtain ⟨tag, htag, hskip⟩ := hout
        rw [buildMembers_skip htag hskip] at hnil
        cases hnil
      | target ht _ =>
        obtain ⟨tag, htag, hskip, hdeep, hkey, hu⟩ := ht.compiled
        have hnew : Ty.memberKey tag m.name ∉ taken := hkey ▸ hfresh _ List.mem_cons_self
        rw [hkey] at hu
        rw [buildMembers_take htag hskip hnew hdeep, hu] at hnil
        cases hnil

end Targets

/-! ### Records after changes -/

namespace Record

variable {α : Type} {r : Record α} {field : String}

@[simp] theorem names_change (r : Record α) (c : Option (String × α)) :
    (r.change c).names = r.names := by
  cases c with
  | none => rfl
  | some c => exact r.names_set c.1 c.2

/-- Changes leave everything but the values of fields alone. -/
theorem foldl_change (cs : List (Option (String × α))) (r : Record α) :
    (cs.foldl change r).model = r.model ∧ (cs.foldl change r).frozen = r.frozen ∧
      (cs.foldl change r).names = r.names := by
  induction cs generalizing r with
  | nil => exact ⟨rfl, rfl, rfl⟩
  | cons c cs ih =>
    obtain ⟨hmodel, hfrozen, hnames⟩ := ih (r.change c)
    rw [names_change] at hnames
    refine ⟨hmodel.trans ?_, hfrozen.trans ?_, hnames⟩ <;> cases c <;> rfl

/-- Changes of other fields leave a field alone. -/
theorem get?_foldl_change_of_ne {cs : List (Option (String × α))}
    (h : ∀ other v, some (other, v) ∈ cs → other ≠ field) (r : Record α) :
    (cs.foldl change r).get? field = r.get? field := by
  induction cs generalizing r with
  | nil => rfl
  | cons c cs ih =>
    refine (ih (fun other v hmem => h other v (List.mem_cons_of_mem c hmem)) _).trans ?_
    cases c with
    | none => rfl
    | some c => exact r.get?_set_of_ne c.2 (h c.1 c.2 List.mem_cons_self).symm

/-- The last change of a field stays. -/
theorem get?_foldl_change_last {before after : List (Option (String × α))} {v : α}
    (h : ∀ other w, some (other, w) ∈ after → other ≠ field) (hmem : field ∈ r.names) :
    ((before ++ some (field, v) :: after).foldl change r).get? field = some v := by
  rw [List.foldl_append, List.foldl_cons, get?_foldl_change_of_ne h]
  refine get?_set_self _ v ?_
  rw [(foldl_change before r).2.2]
  exact hmem

end Record

/-! ### One pair -/

namespace StructDecoder

variable {d : StructDecoder} {p : String × String} {ps : List (String × String)} {f : Fault}

/-- A pair is accepted: its text can be decoded for the field with its key, or there is no such
field and a key without one does no harm. -/
structure Accepts (d : StructDecoder) (p : String × String) : Prop where
  decodes : ∀ t ∈ d.targets, t.key = p.1 → ∃ v, unpackValues t.unpacker [p.2] = .ok v
  known : d.strict = true → ∃ t ∈ d.targets, t.key = p.1

/-- The fault that a pair is at. One of the field is told as the field's own, unless it says itself
which part of the request is wrong. -/
inductive Offends (d : StructDecoder) (p : String × String) : Fault → Prop where
  | unknown : d.strict = true → (∀ t ∈ d.targets, t.key ≠ p.1) →
      Offends d p (.unknownParameter p.1 true)
  | raised {t : MemberTarget} {f : Fault} : t ∈ d.targets → t.key = p.1 →
      unpackValues t.unpacker [p.2] = .error f → f.isRequestFault = true → Offends d p f
  | named {t : MemberTarget} {f : Fault} : t ∈ d.targets → t.key = p.1 →
      unpackValues t.unpacker [p.2] = .error f → f.isRequestFault = false →
        Offends d p (.decode (.memberField t.field)
          { source := some d.place.name, field := some t.field } f)

/-- What becomes of a pair: a value for a field, nothing, or a fault. -/
def decodePair (d : StructDecoder) (p : String × String) :
    Except Fault (Option (String × Value)) :=
  match d.target? p.1 with
  | none => if d.strict then .error (.unknownParameter p.1 true) else .ok none
  | some t => match unpackValues t.unpacker [p.2] with
    | .ok v => .ok (some (t.field, v))
    | .error f => .error (d.blame t.field f)

theorem target?_eq_none {key : String} : d.target? key = none ↔ ∀ t ∈ d.targets, t.key ≠ key := by
  simp [target?]

theorem target?_eq_some (hkeys : (d.targets.map (·.key)).Nodup) {key : String} {t : MemberTarget} :
    d.target? key = some t ↔ t ∈ d.targets ∧ t.key = key := by
  constructor
  · exact fun h => ⟨List.mem_of_find?_eq_some h, key_of_target? h⟩
  · rintro ⟨ht, rfl⟩
    cases h : d.target? t.key with
    | none => exact absurd rfl (target?_eq_none.mp h t ht)
    | some t' =>
      have hsame := List.inj_on_of_nodup_map hkeys (List.mem_of_find?_eq_some h) ht
        (key_of_target? h)
      rw [hsame]

/-- A pair does to a record what becomes of it, whatever the record holds. -/
theorem putPair_eq (p : String × String) (r : Record Value) :
    d.putPair r p.1 p.2 = (d.decodePair p).map r.change := by
  unfold putPair decodePair
  cases d.target? p.1 with
  | none =>
    dsimp only [unknown]
    split <;> rfl
  | some t =>
    have hfill : ∀ x : Except Fault Value, d.fill t.field r x = Except.map r.change
        (match x with
          | .ok v => .ok (some (t.field, v))
          | .error f => .error (d.blame t.field f)) := fun x => by cases x <;> rfl
    dsimp only
    cases t.unpacker <;> exact hfill _

section Keys

variable (hkeys : (d.targets.map (·.key)).Nodup)
include hkeys

theorem exists_decodePair : (∃ c, d.decodePair p = .ok c) ↔ d.Accepts p := by
  unfold decodePair
  cases ht : d.target? p.1 with
  | none =>
    have hnone := target?_eq_none.mp ht
    cases hstrict : d.strict with
    | true =>
      refine iff_of_false (by rintro ⟨c, ⟨⟩⟩) fun h => ?_
      obtain ⟨t, ht, hkey⟩ := h.known hstrict
      exact hnone t ht hkey
    | false =>
      exact iff_of_true ⟨none, rfl⟩
        ⟨fun t ht hkey => absurd hkey (hnone t ht), fun h => absurd (hstrict.symm.trans h) (by simp)⟩
  | some t =>
    obtain ⟨hmem, hkey⟩ := (target?_eq_some hkeys).mp ht
    cases hv : unpackValues t.unpacker [p.2] with
    | ok v =>
      refine iff_of_true ⟨_, by simp only [hv]; rfl⟩ ⟨fun t' ht' hkey' => ?_, fun _ => ⟨t, hmem, hkey⟩⟩
      obtain rfl : t = t' := Option.some.inj
        (ht.symm.trans ((target?_eq_some hkeys).mpr ⟨ht', hkey'⟩))
      exact ⟨v, hv⟩
    | error f =>
      refine iff_of_false (by simp [hv]) fun h => ?_
      obtain ⟨v, hv'⟩ := h.decodes t hmem hkey
      rw [hv] at hv'
      cases hv'

theorem decodePair_eq_error : d.decodePair p = .error f ↔ d.Offends p f := by
  constructor
  · intro h
    unfold decodePair at h
    cases ht : d.target? p.1 with
    | none =>
      simp only [ht] at h
      split at h
      · cases h
        exact .unknown ‹_› (target?_eq_none.mp ht)
      · cases h
    | some t =>
      obtain ⟨hmem, hkey⟩ := (target?_eq_some hkeys).mp ht
      simp only [ht] at h
      cases hv : unpackValues t.unpacker [p.2] with
      | ok v =>
        rw [hv] at h
        cases h
      | error g =>
        rw [hv] at h
        obtain rfl := Except.error.inj h
        cases hg : g.isRequestFault with
        | true =>
          rw [blame, if_pos hg]
          exact .raised hmem hkey hv hg
        | false =>
          rw [blame, if_neg (by simp [hg])]
          exact .named hmem hkey hv hg
  · intro h
    unfold decodePair
    cases h with
    | unknown hstrict hnone => rw [target?_eq_none.mpr hnone, if_pos hstrict]
    | raised hmem hkey hv hf =>
      simp only [(target?_eq_some hkeys).mpr ⟨hmem, hkey⟩, hv, blame, if_pos hf]
    | named hmem hkey hv hf =>
      have hf : ¬ Fault.isRequestFault _ = true := Bool.eq_false_iff.mp hf
      simp only [(target?_eq_some hkeys).mpr ⟨hmem, hkey⟩, hv, blame, if_neg hf]

end Keys

/-- A pair that is for a field has the key of a target for it. -/
theorem decodePair_eq_some {field : String} {v : Value}
    (h : d.decodePair p = .ok (some (field, v))) :
    ∃ t ∈ d.targets, t.key = p.1 ∧ t.field = field := by
  unfold decodePair at h
  cases ht : d.target? p.1 with
  | none =>
    simp only [ht] at h
    split at h <;> cases h
  | some t =>
    simp only [ht] at h
    cases hv : unpackValues t.unpacker [p.2] with
    | ok w =>
      rw [hv] at h
      cases h
      exact ⟨t, List.mem_of_find?_eq_some ht, key_of_target? ht, rfl⟩
    | error f =>
      rw [hv] at h
      cases h

/-! ### All pairs -/

theorem putPairs_eq_map (ps : List (String × String)) (r : Record Value) :
    d.putPairs r ps = (ps.mapM d.decodePair).map (List.foldl Record.change r) := by
  induction ps generalizing r with
  | nil => rfl
  | cons p ps ih =>
    rw [putPairs, putPair_eq, List.mapM_cons]
    cases d.decodePair p with
    | error f => rfl
    | ok c =>
      refine (ih _).trans ?_
      cases ps.mapM d.decodePair <;> rfl

/-- **All pairs.** Each is decoded, and then their values are put into a new instance in order. -/
theorem unpackTokens_eq_bind (tokens : List String) :
    d.unpackTokens tokens = d.new >>= fun new =>
      ((pairs tokens).mapM d.decodePair).map fun cs => .model (cs.foldl Record.change new) := by
  unfold unpackTokens
  refine congrArg _ (funext fun new => ?_)
  rw [putPairs_eq_map]
  cases (pairs tokens).mapM d.decodePair <;> rfl

theorem exists_unpackTokens (hkeys : (d.targets.map (·.key)).Nodup) {tokens : List String} :
    (∃ v, d.unpackTokens tokens = .ok v) ↔
      (∃ new, d.new = .ok new) ∧ ∀ p ∈ pairs tokens, d.Accepts p := by
  simp only [unpackTokens_eq_bind, bind_eq_ok, map_eq_ok, ← exists_decodePair hkeys,
    ← exists_mapM_eq_ok]
  constructor
  · rintro ⟨v, new, hnew, cs, hcs, -⟩
    exact ⟨⟨new, hnew⟩, cs, hcs⟩
  · rintro ⟨⟨new, hnew⟩, cs, hcs⟩
    exact ⟨_, new, hnew, cs, hcs, rfl⟩

/-- Decoding fails without a new instance, or at the first pair that is not accepted. -/
theorem unpackTokens_eq_error (hkeys : (d.targets.map (·.key)).Nodup) {tokens : List String} :
    d.unpackTokens tokens = .error f ↔ d.new = .error f ∨
      (∃ new, d.new = .ok new) ∧ ∃ before p after, pairs tokens = before ++ p :: after ∧
        (∀ q ∈ before, d.Accepts q) ∧ d.Offends p f := by
  rw [unpackTokens_eq_bind, bind_eq_error]
  simp only [map_eq_error, mapM_eq_error_iff, exists_decodePair hkeys, decodePair_eq_error hkeys]
  exact or_congr_right exists_and_right

/-- A record that pairs leave: a new instance in which each field with a pair for it holds the value
of the last such pair. -/
structure FilledFrom (d : StructDecoder) (ps : List (String × String)) (new r : Record Value) :
    Prop where
  model : r.model = new.model
  frozen : r.frozen = new.frozen
  names : r.names = new.names
  last : ∀ t ∈ d.targets, ∀ before s after, ps = before ++ (t.key, s) :: after →
    (∀ p ∈ after, p.1 ≠ t.key) →
      ∃ v, unpackValues t.unpacker [s] = .ok v ∧ r.get? t.field = some v
  untouched : ∀ field, (∀ t ∈ d.targets, t.field = field → ∀ p ∈ ps, p.1 ≠ t.key) →
    r.get? field = new.get? field

theorem filledFrom_of_mapM (hkeys : (d.targets.map (·.key)).Nodup) (hd : d.FieldsApart)
    {new : Record Value} (hfields : ∀ t ∈ d.targets, t.field ∈ new.names)
    {cs : List (Option (String × Value))} (h : ps.mapM d.decodePair = .ok cs) :
    d.FilledFrom ps new (cs.foldl Record.change new) := by
  obtain ⟨hmodel, hfrozen, hnames⟩ := Record.foldl_change cs new
  refine ⟨hmodel, hfrozen, hnames, fun t ht before s after hps hafter => ?_,
    fun field huntouched => Record.get?_foldl_change_of_ne (fun other v hmem hother => ?_) new⟩
  · subst hps
    rw [List.mapM_append, List.mapM_cons] at h
    obtain ⟨cs₁, -, h⟩ := bind_eq_ok.mp h
    obtain ⟨cs₂, h₂, h⟩ := bind_eq_ok.mp h
    obtain ⟨c, hc, h₂⟩ := bind_eq_ok.mp h₂
    obtain ⟨cs₃, h₃, h₂⟩ := bind_eq_ok.mp h₂
    cases h
    cases h₂
    obtain ⟨v, hv, rfl⟩ : ∃ v, unpackValues t.unpacker [s] = .ok v ∧ c = some (t.field, v) := by
      simp only [decodePair, (target?_eq_some hkeys).mpr ⟨ht, rfl⟩] at hc
      cases hv : unpackValues t.unpacker [s] with
      | ok v =>
        rw [hv] at hc
        cases hc
        exact ⟨v, rfl, rfl⟩
      | error f =>
        rw [hv] at hc
        cases hc
    refine ⟨v, hv, Record.get?_foldl_change_last (fun other w hmem hother => ?_) (hfields t ht)⟩
    -- no later pair is for this field
    obtain ⟨p, hp, hdecode⟩ := exists_of_mem_mapM h₃ hmem
    obtain ⟨t', ht', hkey, hfield⟩ := decodePair_eq_some hdecode
    have hsame := hd t'.key t.key t.field
      ⟨t', (target?_eq_some hkeys).mpr ⟨ht', rfl⟩, hfield.trans hother⟩
      ⟨t, (target?_eq_some hkeys).mpr ⟨ht, rfl⟩, rfl⟩
    exact hafter p hp (hkey.symm.trans hsame)
  · obtain ⟨p, hp, hdecode⟩ := exists_of_mem_mapM h hmem
    obtain ⟨t, ht, hkey, hfield⟩ := decodePair_eq_some hdecode
    exact huntouched t ht (hfield.trans hother) p hp hkey.symm

end StructDecoder

/-- **Decoding a nested model.** The fields that are not left out have targets, under keys that are
all different. Decoding succeeds when a new instance can be made and every pair is accepted, and
gives the new instance with the values of the last pair for each field. It fails with the fault of a
new instance that cannot be made, and otherwise with that of the first pair that is not accepted. -/
theorem Ty.nested_decoding {env : Env} (head : ModelHead) {ms : List (Member Ty)} {place : Place}
    {deep : Bool} {targets : List MemberTarget}
    (htargets : Ty.buildMembers env ms place deep [] = .ok targets)
    (hnames : (ms.map (·.name)).Nodup) (tokens : List String) :
    let d : StructDecoder := ⟨place, env.options.strict, head.newInstance ms, targets⟩
    TargetsOf env place deep ms targets ∧ (targets.map (·.key)).Nodup ∧
    ((∃ v, d.unpackTokens tokens = .ok v) ↔
      (∃ new, head.newInstance ms = .ok new) ∧ ∀ p ∈ pairs tokens, d.Accepts p) ∧
    (∀ v, d.unpackTokens tokens = .ok v → ∃ new r, head.newInstance ms = .ok new ∧
      (∀ m ∈ ms, m.start = .ok (new.get? m.name)) ∧ v = .model r ∧
      d.FilledFrom (pairs tokens) new r) ∧
    ∀ f, d.unpackTokens tokens = .error f ↔ head.newInstance ms = .error f ∨
      ((∃ new, head.newInstance ms = .ok new) ∧
        ∃ before p after, pairs tokens = before ++ p :: after ∧
          (∀ q ∈ before, d.Accepts q) ∧ d.Offends p f) := by
  intro d
  obtain ⟨hof, hdistinct, -⟩ := Ty.buildMembers_eq_ok.mp htargets
  have hkeys : (d.targets.map (·.key)).Nodup := hdistinct
  have hfields := Ty.fields_buildMembers htargets
  have hapart : d.FieldsApart := StructDecoder.fieldsApart_of_nodup (hnames.sublist hfields)
  refine ⟨hof, hdistinct, StructDecoder.exists_unpackTokens hkeys, fun v hv => ?_,
    fun f => StructDecoder.unpackTokens_eq_error hkeys⟩
  · rw [StructDecoder.unpackTokens_eq_bind] at hv
    obtain ⟨new, hnew, hv⟩ := bind_eq_ok.mp hv
    obtain ⟨cs, hcs, rfl⟩ := map_eq_ok.mp hv
    refine ⟨new, _, hnew, fun m hm => ModelHead.get?_newInstance hnew hnames hm, rfl, ?_⟩
    refine StructDecoder.filledFrom_of_mapM hkeys hapart (fun t ht => ?_) hcs
    rw [ModelHead.names_newInstance hnew]
    exact hfields.subset (List.mem_map_of_mem ht)

/-- The size of a page and its order, which no key is for. -/
def pageFields : List (Member Ty) := [
  { name := "size", type := .scalar { kind := .int } },
  { name := "order", type := .str, initial := some (.text "name"), tags := [(defaultTagKey, "-")] }]

/-- The last size is taken, and keys without a field are passed over. -/
theorem page_of_pairs : ∃ targets,
    Ty.buildMembers ⟨{}, []⟩ pageFields .query false [] = .ok targets ∧
    (pageFields.map (·.name)).Nodup ∧
    ∃ r, StructDecoder.unpackTokens
        ⟨.query, false, ModelHead.newInstance { cls := { name := "Page" } } pageFields, targets⟩
        ["size", "1", "order", "age", "size", "2", "last"] = .ok (.model r) ∧
      r.get? "size" = some (.int 2) ∧ r.get? "order" = some (.text "name") := by
  have htargets : Ty.buildMembers ⟨{}, []⟩ pageFields .query false [] = .ok _ := rfl
  refine ⟨_, htargets, by decide, ?_⟩
  obtain ⟨-, -, hsome, hfilled, -⟩ := Ty.nested_decoding { cls := { name := "Page" } }
    htargets (by decide) ["size", "1", "order", "age", "size", "2", "last"]
  obtain ⟨v, hv⟩ := hsome.mpr ⟨⟨_, rfl⟩, by
    intro p hp
    refine ⟨fun t ht hkey => ?_, by rintro ⟨⟩⟩
    obtain rfl := List.mem_singleton.mp ht
    simp only [pairs, List.mem_cons, List.not_mem_nil, or_false] at hp
    obtain rfl | rfl | rfl | rfl := hp
    · exact ⟨_, rfl⟩
    · exact absurd hkey (by decide)
    · exact ⟨_, rfl⟩
    · exact absurd hkey (by decide)⟩
  obtain ⟨new, r, hnew, hstart, rfl, hr⟩ := hfilled v hv
  refine ⟨r, hv, ?_, ?_⟩
  · obtain ⟨w, hw, hsize⟩ := hr.last _ List.mem_cons_self [("size", "1"), ("order", "age")] "2"
      [("last", "")] rfl (by decide)
    cases hw
    exact hsize
  · have horder := hstart _ (List.mem_cons_of_mem _ List.mem_cons_self)
    rw [hr.untouched "order" (by decide)]
    exact (Except.ok.inj horder).symm

/-- A ledger with a field that is left out, whose type is a map type without a type for its values. -/
def ledgerFields : List (Member Ty) := [
  { name := "notes", type := .keyedOnly .str, tags := [(defaultTagKey, "-")] },
  { name := "size", type := .scalar { kind := .int } }]

/-- The only pair is accepted, and still decoding fails: the field that no key is for has nothing to
start with. -/
theorem ledger_lacks_instance : ∃ targets,
    Ty.buildMembers ⟨{}, []⟩ ledgerFields .query false [] = .ok targets ∧
    let d : StructDecoder :=
      ⟨.query, false, ModelHead.newInstance { cls := { name := "Ledger" } } ledgerFields, targets⟩
    (∀ p ∈ pairs ["size", "1"], d.Accepts p) ∧
      d.unpackTokens ["size", "1"] = .error .missingTypeArgument := by
  refine ⟨_, rfl, fun p hp => ?_, rfl⟩
  obtain rfl := List.mem_singleton.mp hp
  refine ⟨fun t ht _ => ?_, by rintro ⟨⟩⟩
  obtain rfl := List.mem_singleton.mp ht
  exact ⟨_, rfl⟩

end ParamBinding
