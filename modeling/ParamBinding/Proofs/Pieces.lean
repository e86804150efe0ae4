import ParamBinding.Proofs.Conformance

/-!
# Parts of decoders

The parts that decoders are put together from give values of a type when what they are given does:
numbers are within their bounds (`Scalar.read_exact`), collections and maps hold what their elements
are decoded to (`gather_sound`, `gatherKeys_sound`), the places of tuples are values of their types
up to the zeros (`fillSlots_sound`), and the fields of a nested model are filled by the texts that
are for them and by nothing else (`StructDecoder.unpackKeys_fills`).
-/

namespace ParamBinding

/-! ### Numbers -/

section Numbers

variable {bits : Int} {signed : Bool}

theorem Note.capacity?_of_le (h : 0 ≤ bits) : capacity? bits = some (2 ^ bits.toNat) := by
  rw [capacity?, if_neg (by omega)]
  rfl

theorem Note.low?_of_le (h : 1 ≤ bits) :
    low? bits signed = some (if signed then -2 ^ (bits - 1).toNat else 0) := by
  cases signed with
  | false => rfl
  | true =>
    simp only [low?, if_true]
    rw [capacity?_of_le (by omega)]
    rfl

theorem Note.high?_of_le (h : 1 ≤ bits) :
    high? bits signed =
      some ((if signed then 2 ^ (bits - 1).toNat else 2 ^ bits.toNat) - 1) := by
  cases signed with
  | false =>
    simp only [high?, Bool.false_eq_true, if_false]
    rw [capacity?_of_le (by omega)]
    rfl
  | true =>
    simp only [high?, if_true]
    rw [capacity?_of_le (by omega)]
    rfl

/-- An integer that passes the check is within its bounds. -/
theorem checkInt_inBounds {bounds : Option Note} {s : String} {n k : Int}
    (h : checkInt bounds s n = .ok k) : InBounds bounds k := by
  unfold checkInt at h
  split at h
  · rename_i bits signed
    obtain ⟨low, hlow, h⟩ := bind_eq_ok.mp h
    by_cases hge : n < low
    · rw [if_pos hge] at h
      cases h
    rw [if_neg hge] at h
    obtain ⟨high, hhigh, h⟩ := bind_eq_ok.mp h
    by_cases hle : high < n
    · rw [if_pos hle] at h
      cases h
    rw [if_neg hle] at h
    cases h
    -- with at least one bit the bounds are those of the usual formats
    intro hbits
    rw [Note.low?_of_le hbits] at hlow
    rw [Note.high?_of_le hbits] at hhigh
    cases hlow
    cases hhigh
    cases signed with
    | false => exact ⟨Int.not_lt.mp hge, Int.not_lt.mp hle⟩
    | true => exact ⟨Int.not_lt.mp hge, Int.not_lt.mp hle⟩
  · rename_i hother
    unfold InBounds
    split
    · exact absurd rfl (hother _ _)
    · trivial

theorem readInt_inBounds {bounds : Option Note} {s : String} {n : Int}
    (h : readInt bounds s = .ok n) : InBounds bounds n := by
  unfold readInt at h
  split at h
  · exact checkInt_inBounds h
  · cases h
  · cases h

theorem readFloat_inFormat {bounds : Option Note} {s : String} {x : Binary64}
    (h : readFloat bounds s = .ok x) : InFormat bounds x := by
  unfold readFloat at h
  split at h
  · cases h
  · split at h
    · cases h
    · rename_i hfits
      cases h
      intro hbounds
      simpa [hbounds] using hfits

theorem readComplex_eq_ok {s : String} {v : Value} (h : readComplex s = .ok v) :
    ∃ re im, v = .complex re im := by
  unfold readComplex at h
  split at h
  · cases h
    exact ⟨_, _, rfl⟩
  · cases h

/-- What the constructor of a class makes is an instance of it. -/
theorem Scalar.make_eq_ok {sc : Scalar} {given : Option Value} {v w : Value}
    (h : sc.make given v = .ok w) : w = sc.wrap v := by
  unfold make at h
  unfold wrap
  cases hsub : sc.subclass with
  | none =>
    rw [hsub] at h
    cases h
    rfl
  | some c =>
    simp only [hsub] at h
    obtain ⟨_, -, rfl⟩ := map_eq_ok.mp h
    rw [wrap, hsub]

/-- A primitive class reads values of its own only. -/
theorem Scalar.read_exact {sc : Scalar} {bounds : Option Note} {s : String} {v : Value}
    (h : sc.read bounds s = .ok v) : sc.Exact bounds v := by
  unfold read at h
  unfold Exact
  cases hkind : sc.kind with
  | bool =>
    simp only [hkind] at h ⊢
    obtain ⟨b, -, h⟩ := bind_eq_ok.mp h
    exact ⟨b, make_eq_ok h⟩
  | int =>
    simp only [hkind] at h ⊢
    obtain ⟨n, hn, h⟩ := bind_eq_ok.mp h
    exact ⟨n, make_eq_ok h, readInt_inBounds hn⟩
  | float =>
    simp only [hkind] at h ⊢
    obtain ⟨x, hx, h⟩ := bind_eq_ok.mp h
    exact ⟨x, make_eq_ok h, readFloat_inFormat hx⟩
  | complex =>
    simp only [hkind] at h ⊢
    obtain ⟨c, hc, h⟩ := bind_eq_ok.mp h
    obtain ⟨re, im, rfl⟩ := readComplex_eq_ok hc
    exact ⟨re, im, make_eq_ok h⟩
  | text =>
    simp only [hkind] at h ⊢
    exact ⟨s, make_eq_ok h⟩
  | bytes =>
    simp only [hkind] at h ⊢
    exact ⟨_, make_eq_ok h⟩

end Numbers

/-! ### Collections -/

section Collections

variable {P Q : Value → Prop}

theorem forall_mem_insertElement {xs : List Value} {v : Value} (hxs : ∀ x ∈ xs, P x) (hv : P v) :
    ∀ x ∈ Value.insertElement xs v, P x := by
  intro x hx
  unfold Value.insertElement at hx
  split at hx
  · exact hxs x hx
  · rcases List.mem_append.mp hx with hx | hx
    · exact hxs x hx
    · rw [List.mem_singleton.mp hx]
      exact hv

theorem gatherInto_sound {elem : TextDecoder} (helem : ∀ s v, elem s = .ok v → P v)
    {acc : List Value} {ss : List String} {xs : List Value} (hacc : ∀ x ∈ acc, P x)
    (h : gatherInto elem acc ss = .ok xs) : ∀ x ∈ xs, P x := by
  induction ss generalizing acc with
  | nil =>
    cases h
    exact hacc
  | cons s ss ih =>
    obtain ⟨v, hv, h⟩ := bind_eq_ok.mp h
    split at h
    · cases h
    · exact ih (forall_mem_insertElement hacc (helem s v hv)) h

/-- A collection holds what its elements are decoded to. -/
theorem gather_sound {c : Collection} {elem : TextDecoder} (helem : ∀ s v, elem s = .ok v → P v)
    {ss : List String} {v : Value} (h : gather c elem ss = .ok v) :
    ∃ xs, v = c.wrap xs ∧ ∀ x ∈ xs, P x := by
  have hlist : ∀ xs, ss.mapM elem = .ok xs → ∀ x ∈ xs, P x := by
    intro xs hxs x hx
    obtain ⟨s, -, hs⟩ := exists_of_mem_mapM hxs hx
    exact helem s x hs
  have hset : ∀ xs, gatherInto elem [] ss = .ok xs → ∀ x ∈ xs, P x := fun xs hxs =>
    gatherInto_sound helem (by simp) hxs
  cases c with
  | list | tuple =>
    obtain ⟨xs, hxs, rfl⟩ := map_eq_ok.mp h
    exact ⟨xs, rfl, hlist xs hxs⟩
  | set | frozenSet =>
    obtain ⟨xs, hxs, rfl⟩ := map_eq_ok.mp h
    exact ⟨xs, rfl, hset xs hxs⟩

theorem forall_mem_putEntry {entries entries' : List (Value × Value)} {k v : Value}
    (hentries : ∀ e ∈ entries, P e.1 ∧ Q e.2) (hk : P k) (hv : Q v)
    (h : putEntry entries k v = .ok entries') : ∀ e ∈ entries', P e.1 ∧ Q e.2 := by
  unfold putEntry at h
  split at h
  · cases h
  cases h
  intro e he
  unfold Value.insertEntry at he
  split at he
  · obtain ⟨e', he', rfl⟩ := List.mem_map.mp he
    split
    · exact ⟨(hentries e' he').1, hv⟩
    · exact hentries e' he'
  · rcases List.mem_append.mp he with he | he
    · exact hentries e he
    · rw [List.mem_singleton.mp he]
      exact ⟨hk, hv⟩

theorem gatherPairs_sound {key value : TextDecoder} (hkey : ∀ s v, key s = .ok v → P v)
    (hvalue : ∀ s v, value s = .ok v → Q v) {acc entries : List (Value × Value)}
    {ps : List (String × String)} (hacc : ∀ e ∈ acc, P e.1 ∧ Q e.2)
    (h : gatherPairs key value acc ps = .ok entries) : ∀ e ∈ entries, P e.1 ∧ Q e.2 := by
  induction ps generalizing acc with
  | nil =>
    cases h
    exact hacc
  | cons p ps ih =>
    obtain ⟨k, hk, h⟩ := bind_eq_ok.mp h
    obtain ⟨v, hv, h⟩ := bind_eq_ok.mp h
    obtain ⟨acc', hacc', h⟩ := bind_eq_ok.mp h
    exact ih (forall_mem_putEntry hacc (hkey _ k hk) (hvalue _ v hv) hacc') h

end Collections

/-! ### Unpackers -/

namespace Unpacker

/-- Whatever the decoder of an unpacker gives has a property. -/
def Yields (P : Value → Prop) : Unpacker → Prop
  | single d => ∀ s v, d s = .ok v → P v
  | multi d => ∀ ss v, d ss = .ok v → P v
  | deepObject d => ∀ keys v, d keys = .ok v → P v

variable {P Q : Value → Prop} {u : Unpacker}

theorem Yields.imp (h : u.Yields P) (hpq : ∀ v, P v → Q v) : u.Yields Q := by
  cases u with
  | single d => exact fun s v hv => hpq v (h s v hv)
  | multi d => exact fun ss v hv => hpq v (h ss v hv)
  | deepObject d => exact fun keys v hv => hpq v (h keys v hv)

theorem Yields.of_single? (h : u.Yields P) {d : TextDecoder} (hd : u.single? = some d) :
    ∀ s v, d s = .ok v → P v := by
  cases u with
  | single d' =>
    cases hd
    exact h
  | multi d' => cases hd
  | deepObject d' => cases hd

theorem Yields.unpackValues (h : u.Yields P) {ss : List String} {v : Value}
    (hv : ParamBinding.unpackValues u ss = .ok v) : P v := by
  cases u with
  | single d => exact h _ v hv
  | multi d => exact h ss v hv
  | deepObject d => cases hv

end Unpacker

theorem Site.element_sound {site : Site} {t : Ty} {u : Unpacker} {d : TextDecoder}
    {P : Value → Prop} (hu : u.Yields P) (h : site.element t u = .ok d) : ∀ s v, d s = .ok v → P v := by
  unfold element at h
  cases hsingle : u.single? with
  | none =>
    rw [hsingle] at h
    cases h
  | some d' =>
    rw [hsingle] at h
    cases h
    exact hu.of_single? hsingle

theorem Site.listUnpacker_yields {site : Site} {tag : Tag} {d : ListDecoder} {P : Value → Prop}
    (h : ∀ ss v, d ss = .ok v → P v) : (site.listUnpacker tag d).Yields P := by
  unfold listUnpacker
  split
  · exact h
  · exact fun s v hv => h _ v hv

theorem Site.tokenUnpacker_yields {site : Site} {tag : Tag} {d : ListDecoder} {P : Value → Prop}
    (h : ∀ ss v, d ss = .ok v → P v) : (site.tokenUnpacker tag d).Yields P := by
  unfold tokenUnpacker
  split
  · exact fun ss v hv => h _ v hv
  · exact fun s v hv => h _ v hv

theorem gatherKeys_sound {key : TextDecoder} {value : Unpacker} {P Q : Value → Prop}
    (hkey : ∀ s v, key s = .ok v → P v) (hvalue : value.Yields Q)
    {acc entries : List (Value × Value)} {keys : List (String × List String)} (hacc : ∀ e ∈ acc, P e.1 ∧ Q e.2)
    (h : gatherKeys key value acc keys = .ok entries) : ∀ e ∈ entries, P e.1 ∧ Q e.2 := by
  induction keys generalizing acc with
  | nil =>
    cases h
    exact hacc
  | cons e keys ih =>
    obtain ⟨v, hv, h⟩ := bind_eq_ok.mp h
    obtain ⟨k, hk, h⟩ := bind_eq_ok.mp h
    obtain ⟨acc', hacc', h⟩ := bind_eq_ok.mp h
    exact ih (forall_mem_putEntry hacc (hkey _ k hk) (hvalue.unpackValues hv) hacc') h

/-! ### Tuples -/

section Tuples

variable {reg : Registry} {ts : List Ty} {slots : List Slot} {vs : List Value}

/-- A place of a tuple is decoded to values of its type, and is zero without a text. -/
def Slot.Fits (reg : Registry) (t : Ty) (slot : Slot) : Prop :=
  (∀ s v, slot.decode s = .ok v → Conforms reg t none v) ∧ slot.zero = t.zero

theorem slotsConform_of_zeros (h : Ty.zeros ts = .ok vs) : SlotsConform reg ts vs := by
  cases ts with
  | nil =>
    cases h
    trivial
  | cons t ts =>
    obtain ⟨v, -, h'⟩ := bind_eq_ok.mp h
    obtain ⟨vs', -, h'⟩ := bind_eq_ok.mp h'
    cases h'
    exact .inl h

/-- Places without texts are zeros. -/
theorem fillSlots_nil (h : List.Forall₂ (Slot.Fits reg) ts slots) :
    fillSlots slots [] = Ty.zeros ts := by
  induction h with
  | nil => rfl
  | cons hfits _ ih => rw [fillSlots, Ty.zeros, hfits.2, ih]

theorem fillSlots_sound (h : List.Forall₂ (Slot.Fits reg) ts slots) {ss : List String}
    (hvs : fillSlots slots ss = .ok vs) : vs.length = ts.length ∧ SlotsConform reg ts vs := by
  induction h generalizing ss vs with
  | nil =>
    cases hvs
    exact ⟨rfl, trivial⟩
  | @cons t slot ts slots hfits hrest ih =>
    cases ss with
    | nil =>
      -- the texts are used up, and this place and all after it are zeros
      rw [fillSlots_nil (.cons hfits hrest)] at hvs
      have hlength := hvs
      rw [Ty.zeros_eq_mapM, mapM_eq_ok] at hlength
      exact ⟨hlength.length_eq.symm, slotsConform_of_zeros hvs⟩
    | cons s ss =>
      obtain ⟨v, hv, hvs⟩ := bind_eq_ok.mp hvs
      obtain ⟨vs', hvs', hvs⟩ := bind_eq_ok.mp hvs
      cases hvs
      obtain ⟨hlength, hconform⟩ := ih hvs'
      exact ⟨congrArg (· + 1) hlength, .inr ⟨hfits.1 s v hv, hconform⟩⟩

theorem fillTuple_sound (h : List.Forall₂ (Slot.Fits reg) ts slots) {ss : List String} {v : Value}
    (hv : fillTuple slots ss = .ok v) :
    ∃ vs, v = .tuple vs ∧ vs.length = ts.length ∧ SlotsConform reg ts vs := by
  unfold fillTuple at hv
  split at hv
  · cases hv
  · obtain ⟨vs, hvs, rfl⟩ := map_eq_ok.mp hv
    exact ⟨vs, rfl, fillSlots_sound h hvs⟩

end Tuples

/-! ### Nested models -/

section Instances

variable {reg : Registry} {h : ModelHead} {ms : List (Member Ty)} {r : Record Value}

theorem fieldConforms_iff {f : String × Option Value} :
    FieldConforms reg ms f ↔ ∃ m ∈ ms, m.name = f.1 ∧
      (m.start = .ok f.2 ∨ ∃ v, f.2 = some v ∧ Conforms reg m.type none v) := by
  induction ms with
  | nil => simp [FieldConforms]
  | cons m ms ih =>
    rw [FieldConforms, ih, List.exists_mem_cons_iff]
    rfl

/-- A value is one of the type of a field. -/
def FitsField (reg : Registry) (ms : List (Member Ty)) (field : String) (v : Value) : Prop :=
  ∃ m ∈ ms, m.name = field ∧ Conforms reg m.type none v

theorem FitsField.conforms {field : String} {v : Value} (hv : FitsField reg ms field v) :
    FieldConforms reg ms (field, some v) := by
  obtain ⟨m, hm, hname, hv⟩ := hv
  exact fieldConforms_iff.mpr ⟨m, hm, hname, .inr ⟨v, rfl, hv⟩⟩

/-- A record is an instance of a model, all fields of which hold what they may hold. -/
structure InstanceOf (reg : Registry) (h : ModelHead) (ms : List (Member Ty)) (r : Record Value) :
    Prop where
  model : r.model = h.cls.name
  frozen : r.frozen = h.frozen
  names : r.names = ms.map (·.name)
  fields : ∀ f ∈ r.fields, FieldConforms reg ms f

theorem InstanceOf.formed (hr : InstanceOf reg h ms r) (b : Option Note) :
    Formed reg (.model h ms) b (.model r) := by
  refine ⟨r.fields, ?_, hr.names, hr.fields⟩
  rw [← hr.model, ← hr.frozen]

/-- A field may hold any value of its type. -/
theorem InstanceOf.set (hr : InstanceOf reg h ms r) {field : String} {v : Value}
    (hv : FitsField reg ms field v) : InstanceOf reg h ms (r.set field v) := by
  refine ⟨hr.model, hr.frozen, (r.names_set field v).trans hr.names, fun f hf => ?_⟩
  obtain ⟨f', hf', rfl⟩ := List.mem_map.mp hf
  split
  · rename_i hname
    rw [hname]
    exact hv.conforms
  · exact hr.fields f' hf'

theorem instanceOf_newInstance (hnew : h.newInstance ms = .ok r) : InstanceOf reg h ms r := by
  have hnames := ModelHead.names_newInstance hnew
  obtain ⟨-, fs, hfs, -, rfl⟩ := ModelHead.newInstance_eq_ok.mp hnew
  refine ⟨rfl, rfl, hnames, fun f hf => fieldConforms_iff.mpr ?_⟩
  rw [Ty.newFields_eq_mapM] at hfs
  obtain ⟨m, hm, hstart⟩ := exists_of_mem_mapM hfs hf
  obtain ⟨v, hv, rfl⟩ := map_eq_ok.mp hstart
  exact ⟨m, hm, rfl, .inl hv⟩

end Instances

namespace StructDecoder

section Filling

variable {d : StructDecoder} {I J : Record Value → Prop} {r r' : Record Value}

/-- A list of pairs is filled from as keys with one text each. -/
theorem putPairs_eq (ps : List (String × String)) (r : Record Value) :
    d.putPairs r ps = d.putKeys r (ps.map fun p => (p.1, [p.2])) := by
  induction ps generalizing r with
  | nil => rfl
  | cons p ps ih =>
    have hput : d.putPair r p.1 p.2 = d.putValues r p.1 [p.2] := by
      unfold putPair putValues
      cases d.target? p.1 with
      | none => rfl
      | some t =>
        dsimp only
        cases t.unpacker <;> rfl
    rw [List.map_cons, putKeys, putPairs, hput]
    exact congrArg _ (funext ih)

theorem unpackTokens_eq (tokens : List String) :
    d.unpackTokens tokens = d.unpackKeys ((pairs tokens).map fun p => (p.1, [p.2])) := by
  unfold unpackTokens unpackKeys
  exact congrArg _ (funext fun r => by rw [putPairs_eq])

/-- **One key.** Its texts are decoded into the field of its target. Nothing happens when there is
no target or no text. -/
theorem putValues_eq_ok {key : String} {vs : List String} (h : d.putValues r key vs = .ok r') :
    (r' = r ∧ (d.target? key = none ∨ vs = [])) ∨
      ∃ t v, d.target? key = some t ∧ r' = r.set t.field v ∧
        ∀ P, t.unpacker.Yields P → P v := by
  unfold putValues at h
  cases ht : d.target? key with
  | none =>
    simp only [ht, unknown] at h
    split at h
    · cases h
    · cases h
      exact .inl ⟨rfl, .inl rfl⟩
  | some t =>
    have hfill : ∀ x : Except Fault Value, d.fill t.field r x = .ok r' →
        ∃ v, x = .ok v ∧ r' = r.set t.field v := by
      intro x hx
      cases x with
      | error f => cases hx
      | ok v =>
        cases hx
        exact ⟨v, rfl, rfl⟩
    simp only [ht] at h
    cases hu : t.unpacker with
    | single f =>
      simp only [hu] at h
      cases vs with
      | nil =>
        cases h
        exact .inl ⟨rfl, .inr rfl⟩
      | cons s vs =>
        obtain ⟨v, hv, rfl⟩ := hfill _ h
        exact .inr ⟨t, v, rfl, rfl, fun P hP => by rw [hu] at hP; exact hP s v hv⟩
    | multi f =>
      simp only [hu] at h
      obtain ⟨v, hv, rfl⟩ := hfill _ h
      exact .inr ⟨t, v, rfl, rfl, fun P hP => by rw [hu] at hP; exact hP vs v hv⟩
    | deepObject f =>
      simp only [hu] at h
      obtain ⟨v, hv, -⟩ := hfill _ h
      cases hv

/-- A value of a target that is put into its field leads from one property of records to another. -/
def Leads (I J : Record Value → Prop) (t : MemberTarget) : Prop :=
  t.unpacker.Yields fun v => ∀ r, I r → J (r.set t.field v)

theorem putValues_keeps {key : String} {vs : List String}
    (hkeeps : ∀ t, d.target? key = some t → Leads I I t) (hr : I r)
    (h : d.putValues r key vs = .ok r') : I r' := by
  obtain ⟨rfl, -⟩ | ⟨t, v, ht, rfl, hyields⟩ := putValues_eq_ok h
  · exact hr
  · exact hyields _ (hkeeps t ht) r hr

/-- **All keys.** What every key's target keeps is kept. -/
theorem putKeys_keeps {keys : List (String × List String)}
    (hkeeps : ∀ e ∈ keys, ∀ t, d.target? e.1 = some t → Leads I I t) (hr : I r)
    (h : d.putKeys r keys = .ok r') : I r' := by
  induction keys generalizing r with
  | nil =>
    cases h
    exact hr
  | cons e keys ih =>
    obtain ⟨r₁, h₁, h⟩ := bind_eq_ok.mp h
    exact ih (fun e' he' => hkeeps e' (List.mem_cons_of_mem e he'))
      (putValues_keeps (hkeeps e List.mem_cons_self) hr h₁) h

end Filling

/-! ### Fields of nested models -/

/-- A key is for a field. -/
def IsFor (d : StructDecoder) (key field : String) : Prop :=
  ∃ t, d.target? key = some t ∧ t.field = field

/-- A decoder of a nested model that is built for the fields of the model. -/
structure BuiltFor (env : Env) (h : ModelHead) (ms : List (Member Ty)) (d : StructDecoder) :
    Prop where
  new : d.new = h.newInstance ms
  targets : ∃ deep, Ty.buildMembers env ms d.place deep [] = .ok d.targets

section Fields

variable {reg : Registry} {h : ModelHead} {ms : List (Member Ty)} {d : StructDecoder}
  {keys : List (String × List String)} {v : Value}

/-- The values of a target are of the type of its field. -/
def TargetFits (reg : Registry) (ms : List (Member Ty)) (t : MemberTarget) : Prop :=
  t.unpacker.Yields (FitsField reg ms t.field)

theorem unpackKeys_sound (hnew : d.new = h.newInstance ms)
    (hfits : ∀ t ∈ d.targets, TargetFits reg ms t) (b : Option Note)
    (hv : d.unpackKeys keys = .ok v) : Formed reg (.model h ms) b v := by
  obtain ⟨r, hr, hv⟩ := bind_eq_ok.mp hv
  obtain ⟨r', hr', hv⟩ := bind_eq_ok.mp hv
  cases hv
  have hinit : InstanceOf reg h ms r := instanceOf_newInstance (hnew ▸ hr)
  have hend : InstanceOf reg h ms r' := by
    refine putKeys_keeps (fun e _ t ht => ?_) hinit hr'
    exact (hfits t (List.mem_of_find?_eq_some ht)).imp fun v hv r hr => hr.set hv
  exact hend.formed b

end Fields

end StructDecoder

end ParamBinding
