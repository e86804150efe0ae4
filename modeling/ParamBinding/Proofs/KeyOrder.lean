import Mathlib.Data.List.Nodup
import ParamBinding.Proofs.Soundness

/-!
# The order of keys

A parameter with keys is decoded key by key, in the order in which they arrive, and stops at the
first fault. Still the order does not matter while no key comes twice (`Ty.build_unordered`). A map
holds the same entries, in another order, when different texts are different keys of it. A nested
model is the same, because different keys fill different fields and filling these commutes
(`StructDecoder.putKeys_perm`). Which fault is reported may depend on the order, but not whether
there is one.
-/

namespace ParamBinding

universe v

/-! ### Steps in another order -/

section Orders

variable {ε : Type v} {α β γ : Type v}

/-- Two computations both succeed, with results in a relation, or both fail. -/
abbrev SucceedAlike (R : α → β → Prop) (x : Except ε α) (y : Except ε β) : Prop :=
  Alike (fun _ _ => True) R x y

theorem SucceedAlike.trans {R : α → α → Prop} (hR : ∀ a b c, R a b → R b c → R a c)
    {x y z : Except ε α} (hxy : SucceedAlike R x y) (hyz : SucceedAlike R y z) :
    SucceedAlike R x z := by
  cases hxy with
  | ok h => cases hyz with
    | ok h' => exact .ok (hR _ _ _ h h')
  | error _ => cases hyz with
    | error _ => exact .error trivial

/-- Two steps that do not use what the other one gives can be taken in either order. -/
theorem SucceedAlike.swap {R : γ → γ → Prop} (x : Except ε α) (y : Except ε β)
    {f g : α → β → Except ε γ} (h : ∀ a b, SucceedAlike R (f a b) (g a b)) :
    SucceedAlike R (x >>= fun a => y >>= fun b => f a b) (y >>= fun b => x >>= fun a => g a b) := by
  cases x with
  | error e => cases y <;> exact .error trivial
  | ok a => cases y with
    | error e => exact .error trivial
    | ok b => exact h a b

/-- Steps for the elements of a list give the same results in any order. -/
theorem SucceedAlike.mapM_perm {xs ys : List γ} (f : γ → Except ε α) (h : xs.Perm ys) :
    SucceedAlike List.Perm (xs.mapM f) (ys.mapM f) := by
  induction h with
  | nil => exact .ok .nil
  | cons x _ ih =>
    rw [List.mapM_cons, List.mapM_cons]
    refine Alike.bind_same _ (fun _ => trivial) fun a => ?_
    exact ih.bind fun as bs h => .ok (h.cons a)
  | swap x y zs =>
    simp only [List.mapM_cons, bind_assoc, pure_bind]
    refine SucceedAlike.swap _ _ fun a b => ?_
    exact Alike.bind_same _ (fun _ => trivial) fun cs => .ok (.swap b a cs)
  | trans _ _ ih₁ ih₂ => exact SucceedAlike.trans (fun _ _ _ h h' => h.trans h') ih₁ ih₂

end Orders

/-! ### Maps -/

/-- Two entries of a map have different keys. -/
def KeysDiffer (e e' : Value × Value) : Prop := e.1.same e'.1 = false ∧ e'.1.same e.1 = false

/-- Values that are the same up to the order in which a map holds its keys. No key is held twice. -/
inductive SameMapping : Value → Value → Prop where
  | refl (v : Value) : SameMapping v v
  | map {es es' : List (Value × Value)} (hentries : es.Perm es') (hkeys : es.Pairwise KeysDiffer) :
      SameMapping (.map es) (.map es')

/-- Different texts are decoded to different keys of a map. -/
def Separates (key : TextDecoder) : Prop :=
  ∀ s t v w, key s = .ok v → key t = .ok w → v.same w = true → s = t

/-- A decoder of keys gives the same value in whatever order they come. -/
def Unordered (d : KeyedDecoder) : Prop :=
  ∀ keys keys', keys.Perm keys' → (keys.map (·.1)).Nodup →
    SucceedAlike SameMapping (d keys) (d keys')

section Maps

variable {key : TextDecoder} {value : Unpacker}

/-- The entry of a map that a key with its texts is decoded to. -/
def decodeEntry (key : TextDecoder) (value : Unpacker) (e : String × List String) :
    Except Fault (Value × Value) := do
  let v ← unpackValues value e.2
  let k ← key e.1
  match k.unhashable? with
  | some u => .error (.unhashable u)
  | none => .ok (k, v)

theorem gatherKeys_cons (acc : List (Value × Value)) (e : String × List String)
    (keys : List (String × List String)) :
    gatherKeys key value acc (e :: keys) =
      decodeEntry key value e >>= fun kv =>
        gatherKeys key value (Value.insertEntry acc kv.1 kv.2) keys := by
  rw [gatherKeys, decodeEntry]
  cases unpackValues value e.2 with
  | error f => rfl
  | ok v => cases key e.1 with
    | error f => rfl
    | ok k =>
      show (putEntry acc k v >>= _) = (match k.unhashable? with | some u => _ | none => _) >>= _
      rw [putEntry]
      cases k.unhashable? <;> rfl

theorem key_of_decodeEntry {e : String × List String} {kv : Value × Value}
    (h : decodeEntry key value e = .ok kv) : key e.1 = .ok kv.1 := by
  obtain ⟨v, -, h⟩ := bind_eq_ok.mp h
  obtain ⟨k, hk, h⟩ := bind_eq_ok.mp h
  split at h
  · cases h
  · cases h
    exact hk

theorem Separates.keysDiffer (hkey : Separates key) {e e' : String × List String}
    {kv kv' : Value × Value} (he : decodeEntry key value e = .ok kv)
    (he' : decodeEntry key value e' = .ok kv') (hne : e.1 ≠ e'.1) : KeysDiffer kv kv' := by
  have hk := key_of_decodeEntry he
  have hk' := key_of_decodeEntry he'
  constructor
  · rw [← Bool.not_eq_true]
    exact fun h => hne (hkey _ _ _ _ hk hk' h)
  · rw [← Bool.not_eq_true]
    exact fun h => hne (hkey _ _ _ _ hk' hk h).symm

/-- Entries of different texts have different keys. -/
theorem pairwise_decodeEntry (hkey : Separates key) {keys : List (String × List String)}
    (hnodup : (keys.map (·.1)).Nodup) {es : List (Value × Value)}
    (h : keys.mapM (decodeEntry key value) = .ok es) : es.Pairwise KeysDiffer := by
  rw [mapM_eq_ok] at h
  induction h with
  | nil => exact .nil
  | @cons e kv keys es he hrest ih =>
    rw [List.map_cons, List.nodup_cons] at hnodup
    refine .cons (fun kv' hkv' => ?_) (ih hnodup.2)
    obtain ⟨e', he', hdecode⟩ := exists_of_mem_mapM (mapM_eq_ok.mpr hrest) hkv'
    refine hkey.keysDiffer he hdecode fun heq => hnodup.1 ?_
    exact List.mem_map.mpr ⟨e', he', heq.symm⟩

/-- A map of different keys holds the entry of each, in the order in which they came. -/
theorem gatherKeys_eq (hkey : Separates key) {keys : List (String × List String)}
    (hnodup : (keys.map (·.1)).Nodup) {acc : List (Value × Value)}
    (hacc : ∀ e ∈ keys, ∀ k, key e.1 = .ok k → ∀ kv ∈ acc, k.same kv.1 = false) :
    gatherKeys key value acc keys = (keys.mapM (decodeEntry key value)).map (acc ++ ·) := by
  induction keys generalizing acc with
  | nil =>
    show Except.ok acc = Except.ok (acc ++ [])
    rw [List.append_nil]
  | cons e keys ih =>
    rw [List.map_cons, List.nodup_cons] at hnodup
    rw [gatherKeys_cons, List.mapM_cons]
    cases he : decodeEntry key value e with
    | error f => rfl
    | ok kv =>
      have hk := key_of_decodeEntry he
      have hinsert : Value.insertEntry acc kv.1 kv.2 = acc ++ [kv] := by
        rw [Value.insertEntry, if_neg]
        intro hany
        obtain ⟨kv', hkv', hsame⟩ := List.any_eq_true.mp hany
        rw [hacc e List.mem_cons_self kv.1 hk kv' hkv'] at hsame
        cases hsame
      -- the new entry has another key than all that follow
      have hnext : ∀ e' ∈ keys, ∀ k, key e'.1 = .ok k → ∀ kv' ∈ acc ++ [kv],
          k.same kv'.1 = false := by
        intro e' he' k hk' kv' hkv'
        rcases List.mem_append.mp hkv' with hkv' | hkv'
        · exact hacc e' (List.mem_cons_of_mem e he') k hk' kv' hkv'
        · rw [List.mem_singleton.mp hkv', ← Bool.not_eq_true]
          intro hsame
          refine hnodup.1 (List.mem_map.mpr ⟨e', he', ?_⟩)
          exact hkey _ _ _ _ hk' hk hsame
      have hrest := ih hnodup.2 hnext
      show gatherKeys key value (Value.insertEntry acc kv.1 kv.2) keys = _
      rw [hinsert, hrest]
      show (keys.mapM (decodeEntry key value)).map (acc ++ [kv] ++ ·) =
        ((keys.mapM (decodeEntry key value)) >>= fun es => .ok (kv :: es)).map (acc ++ ·)
      cases keys.mapM (decodeEntry key value) with
      | error f => rfl
      | ok es =>
        show Except.ok (acc ++ [kv] ++ es) = Except.ok (acc ++ kv :: es)
        rw [List.append_assoc, List.singleton_append]

theorem unordered_map (hkey : Separates key) :
    Unordered fun keys => (gatherKeys key value [] keys).map .map := by
  intro keys keys' hperm hnodup
  have hnodup' : (keys'.map (·.1)).Nodup := (hperm.map _).nodup_iff.mp hnodup
  have hentries := SucceedAlike.mapM_perm (decodeEntry key value) hperm
  dsimp only
  rw [gatherKeys_eq hkey hnodup (by simp), gatherKeys_eq hkey hnodup' (by simp)]
  cases hes : keys.mapM (decodeEntry key value) with
  | error f =>
    rw [hes] at hentries
    generalize keys'.mapM (decodeEntry key value) = es' at hentries ⊢
    cases hentries
    exact .error trivial
  | ok es =>
    rw [hes] at hentries
    generalize keys'.mapM (decodeEntry key value) = es' at hentries ⊢
    cases hentries with
    | ok hperm => exact .ok (.map hperm (pairwise_decodeEntry hkey hnodup hes))

end Maps

/-! ### Nested models -/

/-- Values that are put into different fields may be put in either order. -/
theorem Record.set_comm {α : Type} (r : Record α) {field other : String} (v w : α)
    (h : field ≠ other) : (r.set field v).set other w = (r.set other w).set field v := by
  unfold set
  simp only [List.map_map]
  congr 1
  refine List.map_congr_left fun f _ => ?_
  simp only [Function.comp_apply]
  by_cases hfield : f.1 = field
  · have hother : f.1 ≠ other := fun ho => h (hfield.symm.trans ho)
    simp only [if_pos hfield, if_neg hother]
  · by_cases hother : f.1 = other
    · simp only [if_neg hfield, if_pos hother]
    · simp only [if_neg hfield, if_neg hother]

/-- A record with at most one value put into a field. -/
def Record.change {α : Type} (r : Record α) : Option (String × α) → Record α
  | none => r
  | some c => r.set c.1 c.2

namespace StructDecoder

variable {d : StructDecoder}

/-- What a key does is decided without a look at the model: it fails, or it changes one field, which
is the field that it is for, or none. -/
theorem putValues_eq (d : StructDecoder) (key : String) (vs : List String) :
    ∃ c : Except Fault (Option (String × Value)), (∀ r, d.putValues r key vs = c.map r.change) ∧
      ∀ field v, c = .ok (some (field, v)) → d.IsFor key field := by
  have hfill : ∀ (t : MemberTarget) (x : Except Fault Value), d.target? key = some t →
      ∃ c : Except Fault (Option (String × Value)),
        (∀ r : Record Value, d.fill t.field r x = c.map r.change) ∧
          ∀ field v, c = .ok (some (field, v)) → d.IsFor key field := by
    intro t x ht
    cases x with
    | error f => exact ⟨.error (d.blame t.field f), fun r => rfl, by rintro field v ⟨⟩⟩
    | ok v =>
      refine ⟨.ok (some (t.field, v)), fun r => rfl, ?_⟩
      rintro field w ⟨⟩
      exact ⟨t, ht, rfl⟩
  have hnothing : (∀ r, d.putValues r key vs = .ok r) →
      ∃ c : Except Fault (Option (String × Value)), (∀ r, d.putValues r key vs = c.map r.change) ∧
        ∀ field v, c = .ok (some (field, v)) → d.IsFor key field :=
    fun h => ⟨.ok none, h, by rintro field v ⟨⟩⟩
  cases ht : d.target? key with
  | none =>
    by_cases hstrict : d.strict = true
    · refine ⟨.error (.unknownParameter key true), fun r => ?_, by rintro field v ⟨⟩⟩
      rw [putValues, ht]
      exact if_pos hstrict
    · refine hnothing fun r => ?_
      rw [putValues, ht]
      exact if_neg hstrict
  | some t =>
    cases hu : t.unpacker with
    | single f =>
      cases vs with
      | nil =>
        refine hnothing fun r => ?_
        rw [putValues, ht]
        dsimp only
        rw [hu]
      | cons s vs =>
        obtain ⟨c, hc, hfor⟩ := hfill t (f s) ht
        refine ⟨c, fun r => ?_, hfor⟩
        rw [putValues, ht]
        dsimp only
        rw [hu]
        exact hc r
    | multi f =>
      obtain ⟨c, hc, hfor⟩ := hfill t (f vs) ht
      refine ⟨c, fun r => ?_, hfor⟩
      rw [putValues, ht]
      dsimp only
      rw [hu]
      exact hc r
    | deepObject f =>
      obtain ⟨c, hc, hfor⟩ := hfill t (.error absentFunction) ht
      refine ⟨c, fun r => ?_, hfor⟩
      rw [putValues, ht]
      dsimp only
      rw [hu]
      exact hc r

theorem key_of_target? {key : String} {t : MemberTarget} (h : d.target? key = some t) :
    t.key = key := by
  unfold target? at h
  have hkey := List.find?_some h
  exact of_decide_eq_true hkey

/-- No two keys are for the same field. -/
def FieldsApart (d : StructDecoder) : Prop :=
  ∀ key key' field, d.IsFor key field → d.IsFor key' field → key = key'

theorem fieldsApart_of_nodup (h : (d.targets.map (·.field)).Nodup) : d.FieldsApart := by
  rintro key key' field ⟨t, ht, rfl⟩ ⟨t', ht', hfield⟩
  have hmem := List.mem_of_find?_eq_some ht
  have hmem' := List.mem_of_find?_eq_some ht'
  have hsame : t' = t := List.inj_on_of_nodup_map h hmem' hmem hfield
  rw [← key_of_target? ht, ← key_of_target? ht', hsame]

/-- Two different keys may be filled from in either order. -/
theorem putValues_swap (hd : d.FieldsApart) (r : Record Value) {e e' : String × List String}
    (hne : e.1 ≠ e'.1) {f : Record Value → Except Fault (Record Value)} :
    SucceedAlike Eq (d.putValues r e.1 e.2 >>= fun r' => d.putValues r' e'.1 e'.2 >>= f)
      (d.putValues r e'.1 e'.2 >>= fun r' => d.putValues r' e.1 e.2 >>= f) := by
  obtain ⟨c, hc, hfor⟩ := d.putValues_eq e.1 e.2
  obtain ⟨c', hc', hfor'⟩ := d.putValues_eq e'.1 e'.2
  simp only [hc, hc']
  cases c with
  | error x => cases c' <;> exact .error trivial
  | ok o => cases c' with
    | error x => exact .error trivial
    | ok o' =>
      have hcomm : (r.change o).change o' = (r.change o').change o := by
        cases o with
        | none => rfl
        | some p => cases o' with
          | none => rfl
          | some p' =>
            refine r.set_comm p.2 p'.2 fun hfield => hne ?_
            have hp : d.IsFor e.1 p.1 := hfor p.1 p.2 rfl
            have hp' : d.IsFor e'.1 p'.1 := hfor' p'.1 p'.2 rfl
            exact hd _ _ _ hp (hfield ▸ hp')
      show SucceedAlike Eq (f ((r.change o).change o')) (f ((r.change o').change o))
      rw [hcomm]
      exact Alike.refl (fun _ => trivial) (fun _ => rfl) _

/-- **All keys.** They leave the same model in whatever order they come. -/
theorem putKeys_perm (hd : d.FieldsApart) {keys keys' : List (String × List String)}
    (hperm : keys.Perm keys') (hnodup : (keys.map (·.1)).Nodup) (r : Record Value) :
    SucceedAlike Eq (d.putKeys r keys) (d.putKeys r keys') := by
  induction hperm generalizing r with
  | nil => exact .ok rfl
  | cons e _ ih =>
    rw [List.map_cons, List.nodup_cons] at hnodup
    exact Alike.bind_same _ (fun _ => trivial) fun r' => ih hnodup.2 r'
  | swap e e' rest =>
    have hne : e'.1 ≠ e.1 := by
      rw [List.map_cons, List.nodup_cons] at hnodup
      intro heq
      exact hnodup.1 (heq ▸ List.mem_cons_self)
    exact putValues_swap hd r hne
  | trans h₁ _ ih₁ ih₂ =>
    refine SucceedAlike.trans (fun _ _ _ h h' => h.trans h') (ih₁ hnodup r) (ih₂ ?_ r)
    exact (h₁.map _).nodup_iff.mp hnodup

theorem unordered_unpackKeys (hd : d.FieldsApart) : Unordered d.unpackKeys := by
  intro keys keys' hperm hnodup
  refine Alike.bind_same _ (fun _ => trivial) fun r => ?_
  refine (putKeys_perm hd hperm hnodup r).bind fun r₁ r₂ h => ?_
  rw [h]
  exact .ok (.refl _)

end StructDecoder

/-! ### Building -/

namespace Ty

/-- A map, perhaps optional and with notes, whose keys are texts; or no map at all. -/
def TextKeyed : Ty → Prop
  | .annotated t _ => t.TextKeyed
  | .optional _ t => t.TextKeyed
  | .map _ k _ _ => k.bare = .str
  | _ => True

/-- A model, perhaps optional and with notes, whose fields have different names, as they have in
every class; or no model at all. -/
def NamesDistinct : Ty → Prop
  | .annotated t _ => t.NamesDistinct
  | .optional _ t => t.NamesDistinct
  | .model _ ms => (ms.map (·.name)).Nodup
  | _ => True

end Ty

/-- A reader that is registered for texts, if there is one, keeps different texts apart. -/
def Registry.SeparatesTexts (r : Registry) : Prop :=
  ∀ reader, r.lookup "str" = some reader → Separates reader.read

theorem separates_text : Separates fun s => .ok (.text s) := by
  rintro s t _ _ ⟨⟩ ⟨⟩ hsame
  have hscalar : Value.sameScalar (.text s) (.text t) = true := hsame
  exact eq_of_beq hscalar

theorem Ty.bareReader?_str (r : Registry) :
    (Ty.scalar { kind := .text }).bareReader? r = r.lookup "str" := by
  unfold Ty.bareReader?
  have hclass : (Ty.scalar { kind := .text }).class?.bind (fun c => r.lookup c.path) =
      r.lookup "str" := rfl
  rw [hclass]
  cases r.lookup "str" <;> rfl

section Building

variable {env : Env} {t : Ty} {site : Site} {tag : Tag} {d : KeyedDecoder}

/-- The keys of a map are decoded from texts, and kept apart. -/
theorem Ty.build_text (happart : env.registry.SeparatesTexts) : ∀ (k : Ty) {b : Option Note}
    {noted : Option Ty} {u : Unpacker}, k.bare = .str →
    Ty.build env k site tag (.plain b noted) = .ok u → ∃ key, u = .single key ∧ Separates key
  | .annotated k ns, b, noted, u, hk, h => by
    rw [Ty.build] at h
    exact Ty.build_text happart k hk h
  | .scalar s, b, noted, u, hk, h => by
    obtain rfl : s = { kind := .text } := by
      injection hk
    rw [Ty.build] at h
    cases hreader : env.registry.lookup "str" with
    | some reader =>
      refine ⟨reader.read, Ty.readOr_of_reader ?_ h, happart reader hreader⟩
      rw [Ty.bareReader?_str, hreader]
    | none =>
      rw [Ty.readOr_of_none ((Ty.bareReader?_str _).trans hreader)] at h
      obtain ⟨_, -, h⟩ := bind_eq_ok.mp h
      cases h
      exact ⟨_, rfl, separates_text⟩
  | .optional _ _, _, _, _, hk, _ | .sequence _ _ _, _, _, _, hk, _ | .row _ _ _, _, _, _, hk, _
  | .tuple _ _, _, _, _, hk, _ | .map _ _ _ _, _, _, _, hk, _ | .model _ _, _, _, _, hk, _
  | .plain _ _, _, _, _, hk, _ | .enum _, _, _, _, hk, _ | .keyedOnly _, _, _, _, hk, _
  | .union _ _, _, _, _, hk, _ | .literal _, _, _, _, hk, _ | .callable _ _, _, _, _, hk, _
  | .generic _ _ _, _, _, _, hk, _ | .ellipsis, _, _, _, hk, _ => by
    cases hk

theorem Ty.readOr_deepObject {other : Except CompileError Unpacker}
    (h : t.readOr env site tag other = .ok (.deepObject d)) : other = .ok (.deepObject d) := by
  cases hreader : t.bareReader? env.registry with
  | none => rwa [readOr_of_none hreader] at h
  | some reader => cases readOr_of_reader hreader h

theorem Site.listUnpacker_ne {decode : ListDecoder} :
    site.listUnpacker tag decode ≠ .deepObject d := by
  unfold listUnpacker
  split <;> rintro ⟨⟩

theorem Site.tokenUnpacker_ne {decode : ListDecoder} :
    site.tokenUnpacker tag decode ≠ .deepObject d := by
  unfold tokenUnpacker
  split <;> rintro ⟨⟩

theorem buildList_ne {c : Collection} {inner : Except CompileError Unpacker} :
    (do
      site.checkCompound tag
      if tag.deepObject then .error (site.tagError .deepObjectOnSequence)
      else
        let u ← inner
        let elem ← site.element t u
        .ok (site.listUnpacker tag (gather c elem))) ≠ .ok (.deepObject d) := by
  intro h
  obtain ⟨_, -, h⟩ := bind_eq_ok.mp h
  split at h
  · cases h
  obtain ⟨u, -, h⟩ := bind_eq_ok.mp h
  obtain ⟨elem, -, h⟩ := bind_eq_ok.mp h
  exact absurd (Except.ok.inj h) Site.listUnpacker_ne

theorem Ty.documentList_ne {decode : Decoder} {whole elem : Ty} {c : Collection} :
    documentList site tag decode whole c elem ≠ .ok (.deepObject d) := by
  unfold documentList
  split
  · intro h
    obtain ⟨e, -, h⟩ := bind_eq_ok.mp h
    cases h
  · rintro ⟨⟩

/-- The targets of a nested model are for fields of the model, in the order of these. -/
theorem Ty.fields_buildMembers {ms : List (Member Ty)} {place : Place} {deep : Bool}
    {taken : List String} {targets : List MemberTarget}
    (h : Ty.buildMembers env ms place deep taken = .ok targets) :
    (targets.map (·.field)).Sublist (ms.map (·.name)) := by
  induction ms generalizing taken targets with
  | nil =>
    cases h
    exact .slnil
  | cons m ms ih =>
    rw [Ty.buildMembers] at h
    obtain ⟨tag, -, h⟩ := bind_eq_ok.mp h
    by_cases hskip : tag.base = "-"
    · rw [if_pos hskip] at h
      exact (ih h).cons m.name
    rw [if_neg hskip] at h
    dsimp only at h
    split at h
    · cases h
    generalize (if deep = true then tag else tag.withoutExplode) = tag' at h
    split at h
    · cases h
    obtain ⟨mode, -, h⟩ := bind_eq_ok.mp h
    obtain ⟨u, -, h⟩ := bind_eq_ok.mp h
    obtain ⟨targets', htargets, h⟩ := bind_eq_ok.mp h
    cases h
    exact (ih htargets).cons_cons m.name

theorem StructDecoder.BuiltFor.fieldsApart {head : ModelHead} {ms : List (Member Ty)}
    {s : StructDecoder} (h : s.BuiltFor env head ms) (hnames : (ms.map (·.name)).Nodup) :
    s.FieldsApart := by
  obtain ⟨deep, htargets⟩ := h.targets
  exact fieldsApart_of_nodup (hnames.sublist (Ty.fields_buildMembers htargets))

end Building

/-- **Decoders of keys.** Where the keys of a map are texts and the fields of a model have different
names, the order of the keys does not matter. Only a tag that asks for keys has such a decoder. -/
theorem Ty.build_unordered {env : Env} (happart : env.registry.SeparatesTexts) : ∀ (t : Ty)
    {site : Site} {tag : Tag} {mode : Mode} {d : KeyedDecoder},
    (tag.deepObject = true → t.TextKeyed ∧ t.NamesDistinct) →
    Ty.build env t site tag mode = .ok (.deepObject d) → Unordered d
  | .annotated t ns, site, tag, mode, d, ht, h => by
    cases mode <;> rw [Ty.build] at h <;> exact Ty.build_unordered happart t ht h
  | .optional f t, site, tag, mode, d, ht, h => by
    cases mode with
    | plain b noted =>
      rw [Ty.build] at h
      exact Ty.build_unordered happart t ht (Ty.readOr_deepObject h)
    | document decode w o =>
      rw [Ty.build] at h
      split at h
      · cases h
      · exact Ty.build_unordered happart t ht h
  | .map n k v spelled, site, tag, mode, d, ht, h => by
    cases mode with
    | plain b noted =>
      rw [Ty.build] at h
      replace h := Ty.readOr_deepObject h
      obtain ⟨_, -, h⟩ := bind_eq_ok.mp h
      obtain ⟨ku, hku, h⟩ := bind_eq_ok.mp h
      obtain ⟨key, hkey, h⟩ := bind_eq_ok.mp h
      obtain ⟨value, -, h⟩ := bind_eq_ok.mp h
      by_cases hdeep : tag.deepObject = true
      · rw [if_pos hdeep] at h
        obtain ⟨_, -, h⟩ := bind_eq_ok.mp h
        cases h
        obtain ⟨key', rfl, hseparates⟩ := Ty.build_text happart k (ht hdeep).1 hku
        cases hkey
        exact unordered_map hseparates
      · rw [if_neg hdeep] at h
        split at h
        · exact absurd (Except.ok.inj h) Site.tokenUnpacker_ne
        · cases h
    | document decode w o =>
      rw [Ty.build] at h
      split at h
      · obtain ⟨ku, -, h⟩ := bind_eq_ok.mp h
        obtain ⟨key, -, h⟩ := bind_eq_ok.mp h
        obtain ⟨value, -, h⟩ := bind_eq_ok.mp h
        cases h
      · cases h
  | .model head ms, site, tag, mode, d, ht, h => by
    cases mode with
    | plain b noted =>
      rw [Ty.build] at h
      replace h := Ty.readOr_deepObject h
      by_cases hdeep : tag.deepObject = true
      · obtain ⟨s, hs, hu | hu⟩ := buildModel_eq_ok h
        · cases hu
          exact s.unordered_unpackKeys (hs.fieldsApart (ht hdeep).2)
        · exact absurd hu.symm Site.tokenUnpacker_ne
      · obtain ⟨_, -, h⟩ := bind_eq_ok.mp h
        obtain ⟨targets, -, h⟩ := bind_eq_ok.mp h
        dsimp only at h
        rw [if_neg hdeep] at h
        exact absurd (Except.ok.inj h) Site.tokenUnpacker_ne
    | document decode w o =>
      rw [Ty.build] at h
      cases h
  | .scalar s, site, tag, mode, d, ht, h => by
    cases mode with
    | plain b noted =>
      rw [Ty.build] at h
      obtain ⟨_, -, h⟩ := bind_eq_ok.mp (Ty.readOr_deepObject h)
      cases h
    | document decode w o =>
      rw [Ty.build] at h
      cases h
  | .sequence n e spelled, site, tag, mode, d, ht, h => by
    cases mode with
    | plain b noted =>
      rw [Ty.build] at h
      exact absurd (Ty.readOr_deepObject h) buildList_ne
    | document decode w o =>
      rw [Ty.build] at h
      exact absurd h Ty.documentList_ne
  | .row c e form, site, tag, mode, d, ht, h => by
    cases mode with
    | plain b noted =>
      rw [Ty.build] at h
      exact absurd (Ty.readOr_deepObject h) buildList_ne
    | document decode w o =>
      rw [Ty.build] at h
      exact absurd h Ty.documentList_ne
  | .tuple c es, site, tag, mode, d, ht, h => by
    cases mode with
    | plain b noted =>
      rw [Ty.build] at h
      obtain ⟨_, -, h⟩ := bind_eq_ok.mp (Ty.readOr_deepObject h)
      split at h
      · cases h
      · obtain ⟨slots, -, h⟩ := bind_eq_ok.mp h
        exact absurd (Except.ok.inj h) Site.listUnpacker_ne
    | document decode w o =>
      rw [Ty.build] at h
      cases h
  | .keyedOnly k, site, tag, mode, d, ht, h => by
    rw [Ty.build] at h
    cases h
  | .plain _ _, site, tag, mode, d, ht, h | .enum _, site, tag, mode, d, ht, h
  | .union _ _, site, tag, mode, d, ht, h | .literal _, site, tag, mode, d, ht, h
  | .callable _ _, site, tag, mode, d, ht, h | .generic _ _ _, site, tag, mode, d, ht, h
  | .ellipsis, site, tag, mode, d, ht, h => by
    cases mode with
    | plain b noted =>
      rw [Ty.build] at h
      cases Ty.readOr_deepObject h
    | document decode w o =>
      rw [Ty.build] at h
      cases h

end ParamBinding
