import ParamBinding.Proofs.Independence
import ParamBinding.Proofs.KeyNames
import ParamBinding.Proofs.KeyOrder
import ParamBinding.Sample

/-!
# The order of the query

The pairs of a query may be rearranged, as long as the values of each name keep their order. The
steps of the request are the same then, but for the order of names and of parameters with keys
(`Binder.perm_names`, `Binder.perm_roots`); every step has its outcome, up to the order of the
entries of a map (`Binder.sameOutcome`); and steps whose order may change fill different fields
(`Binder.foldl_apply_perm`). So a request is resolved just when its rearrangement is, and to the same
model (`Binder.resolve_rearranged`).

Line breaks in names are left out, since a key can be written with one at its end, and then the later
of two names of a key would count. So are readers of texts that make one key of two different texts.
-/

namespace ParamBinding

open ParamBinding.Text

/-! ### Rearranged pairs -/

/-- The same pairs in another order, in which the values of every name keep theirs. -/
structure Rearranged (items items' : List (String × String)) : Prop where
  perm : items.Perm items'
  values : ∀ name, Urlencoded.valuesOf items name = Urlencoded.valuesOf items' name

theorem Rearranged.symm {items items' : List (String × String)} (h : Rearranged items items') :
    Rearranged items' items :=
  ⟨h.perm.symm, fun name => (h.values name).symm⟩

/-- Pairs of different names may be swapped. -/
theorem Rearranged.swap {m n : String} (hne : m ≠ n) (v w : String)
    (items : List (String × String)) :
    Rearranged ((m, v) :: (n, w) :: items) ((n, w) :: (m, v) :: items) := by
  refine ⟨.swap _ _ _, fun name => ?_⟩
  unfold Urlencoded.valuesOf
  by_cases hm : m = name
  · subst hm
    simp [Ne.symm hne]
  · simp [hm, List.filter_cons]

theorem perm_eraseDups {α : Type} [DecidableEq α] {xs ys : List α} (h : ∀ x, x ∈ xs ↔ x ∈ ys) :
    xs.eraseDups.Perm ys.eraseDups := by
  rw [List.perm_ext_iff_of_nodup (nodup_eraseDups xs) (nodup_eraseDups ys)]
  intro x
  rw [List.mem_eraseDups, List.mem_eraseDups, h]

theorem Rearranged.perm_names {items items' : List (String × String)}
    (h : Rearranged items items') : (Urlencoded.names items).Perm (Urlencoded.names items') :=
  perm_eraseDups fun _ => (h.perm.map _).mem_iff

/-! ### Rearranged keys -/

/-- Lists in which everything is the same are not changed by an order. -/
theorem eq_of_perm_of_forall_eq {α : Type} {xs ys : List α} (h : xs.Perm ys)
    (heq : ∀ x ∈ xs, ∀ y ∈ xs, x = y) : xs = ys := by
  cases xs with
  | nil => exact (List.nil_perm.mp h).symm
  | cons a xs =>
    have hxs : a :: xs = List.replicate (a :: xs).length a :=
      List.eq_replicate_of_mem fun x hx => heq x hx a List.mem_cons_self
    have hys : ys = List.replicate ys.length a :=
      List.eq_replicate_of_mem fun y hy => heq y (h.mem_iff.mpr hy) a List.mem_cons_self
    rw [hxs, hys, h.length_eq]

/-- The changes that entries make to the keys of a parameter. -/
def changesFor (entries : List KeyEntry) (root : String) : List (String × List String) :=
  (entries.filter (·.root = root)).map fun e => (e.key, e.values)

/-- The keys of a parameter stand where they appeared first, and each has what was put there. -/
theorem keysOf_eq (entries : List KeyEntry) (root : String) :
    keysOf entries root = ((changesFor entries root).map (·.1)).eraseDups.map fun key =>
      (key, collect [] (fun values _ => values) (changesFor entries root) key) := by
  rw [← foldl_upsert, changesFor, List.foldl_map, keysOf]
  simp only [putKey_eq_upsert]

/-- No key of a parameter is kept twice. -/
theorem nodup_keysOf (entries : List KeyEntry) (root : String) :
    ((keysOf entries root).map (·.1)).Nodup := by
  rw [keysOf_eq, List.map_map]
  have hid : (fun p : String × List String => p.1) ∘ (fun key =>
      (key, collect [] (fun values _ => values) (changesFor entries root) key)) = id := rfl
  rw [hid, List.map_id]
  exact nodup_eraseDups _

/-- Entries may be rearranged when no two of them are for the same key, whatever comes after
them. -/
theorem perm_keysOf {entries entries' : List KeyEntry} (behind : List KeyEntry) (root : String)
    (hperm : entries.Perm entries')
    (heq : ∀ e ∈ entries, ∀ e' ∈ entries, e.root = e'.root → e.key = e'.key → e = e') :
    (keysOf (entries ++ behind) root).Perm (keysOf (entries' ++ behind) root) := by
  have hchanges : (changesFor entries root).Perm (changesFor entries' root) :=
    (hperm.filter _).map _
  have happend : ∀ es, changesFor (es ++ behind) root =
      changesFor es root ++ changesFor behind root := by
    intro es
    rw [changesFor, List.filter_append, List.map_append]
    rfl
  -- a key has at most one of the entries, so their order does not show
  have hfilter : ∀ key, (changesFor entries root).filter (·.1 = key) =
      (changesFor entries' root).filter (·.1 = key) := by
    intro key
    refine eq_of_perm_of_forall_eq (hchanges.filter _) fun x hx y hy => ?_
    have hmem : ∀ z ∈ (changesFor entries root).filter (·.1 = key),
        ∃ e ∈ entries, e.root = root ∧ e.key = key ∧ (e.key, e.values) = z := by
      intro z hz
      obtain ⟨hz, hkey⟩ := List.mem_filter.mp hz
      obtain ⟨e, he, rfl⟩ := List.mem_map.mp hz
      obtain ⟨he, hroot⟩ := List.mem_filter.mp he
      exact ⟨e, he, of_decide_eq_true hroot, of_decide_eq_true hkey, rfl⟩
    obtain ⟨e, he, hroot, hkey, rfl⟩ := hmem x hx
    obtain ⟨e', he', hroot', hkey', rfl⟩ := hmem y hy
    rw [heq e he e' he' (hroot.trans hroot'.symm) (hkey.trans hkey'.symm)]
  have hcollect : ∀ key,
      collect [] (fun values _ => values) (changesFor (entries ++ behind) root) key =
        collect [] (fun values _ => values) (changesFor (entries' ++ behind) root) key := by
    intro key
    rw [collect, collect, happend, happend, List.filter_append, List.filter_append, hfilter]
  rw [keysOf_eq, keysOf_eq, funext fun key => congrArg (Prod.mk key) (hcollect key)]
  refine (perm_eraseDups fun key => ?_).map _
  rw [happend, happend]
  exact ((hchanges.append_right _).map _).mem_iff

/-! ### The same up to the order of maps -/

/-- Outcomes that put the same value into the same field, up to the order in which a map holds its
keys; or two faults. -/
inductive SameOutcome : Outcome → Outcome → Prop where
  | refl (o : Outcome) : SameOutcome o o
  | put (field : String) {v w : Value} (h : SameMapping v w) :
      SameOutcome (.put field v) (.put field w)
  | fail (f g : Fault) : SameOutcome (.fail f) (.fail g)

/-- Fields of the same name with the same value. -/
structure SameField (f g : String × Option Value) : Prop where
  name : f.1 = g.1
  value : Option.Rel SameMapping f.2 g.2

/-- Models of the same fields with the same values, where maps count as mappings. -/
structure SameModel (r s : Record Value) : Prop where
  model : r.model = s.model
  frozen : r.frozen = s.frozen
  fields : List.Forall₂ SameField r.fields s.fields

theorem SameField.refl (f : String × Option Value) : SameField f f := by
  refine ⟨rfl, ?_⟩
  cases f.2 with
  | none => exact .none
  | some v => exact .some (.refl v)

theorem SameModel.refl (r : Record Value) : SameModel r r :=
  ⟨rfl, rfl, List.forall₂_same.mpr fun f _ => .refl f⟩

theorem SameModel.set {r s : Record Value} (h : SameModel r s) (field : String) {v w : Value}
    (hv : SameMapping v w) : SameModel (r.set field v) (s.set field w) := by
  refine ⟨h.model, h.frozen, List.rel_map (fun f g hfg => ?_) h.fields⟩
  rw [hfg.name]
  split
  · exact ⟨rfl, .some hv⟩
  · exact hfg

/-- The same models have the same value in every field. -/
theorem SameModel.get? {r s : Record Value} (h : SameModel r s) (field : String) :
    Option.Rel SameMapping (r.get? field) (s.get? field) := by
  have hfields := h.fields
  unfold Record.get?
  generalize r.fields = fs at hfields ⊢
  generalize s.fields = gs at hfields ⊢
  induction hfields with
  | nil => exact .none
  | @cons f g fs gs hfg _ ih =>
    rw [List.lookup_cons, List.lookup_cons, hfg.name]
    cases field == g.1 with
    | true => exact hfg.value
    | false => exact ih

/-- One step more keeps models the same. -/
theorem SameModel.apply {r s : Record Value} (h : SameModel r s) {o o' : Outcome}
    (ho : SameOutcome o o') : SameModel (o.apply r) (o'.apply s) := by
  cases ho with
  | put field hv => exact h.set field hv
  | fail f g => exact h
  | refl => cases o with
    | put field v => exact h.set field (.refl v)
    | skip => exact h
    | fail f => exact h

/-- All steps keep models the same. -/
theorem SameModel.foldl {r s : Record Value} (h : SameModel r s) {os os' : List Outcome}
    (hos : List.Forall₂ SameOutcome os os') :
    SameModel (os.foldl Outcome.apply r) (os'.foldl Outcome.apply s) := by
  induction hos generalizing r s with
  | nil => exact h
  | cons ho _ ih => exact ih (h.apply ho)

theorem SameOutcome.fault?_eq_none {o o' : Outcome} (h : SameOutcome o o') :
    o.fault? = none ↔ o'.fault? = none := by
  cases h <;> simp [Outcome.fault?]

theorem Filler.sameOutcome (f : Filler) (place : Place) {v w : Except Fault Value}
    (h : SucceedAlike SameMapping v w) : SameOutcome (f.outcome place v) (f.outcome place w) := by
  cases h with
  | ok h => exact .put f.field h
  | error _ => exact .fail _ _

/-- Steps that put values into different fields may be taken in any order. -/
theorem foldl_apply_perm {α : Type} {xs ys : List α} (out : α → Outcome) (hperm : xs.Perm ys)
    (hapart : ∀ x ∈ xs, ∀ y ∈ xs, ∀ field v w,
      out x = .put field v → out y = .put field w → x = y) (r : Record Value) :
    (xs.map out).foldl Outcome.apply r = (ys.map out).foldl Outcome.apply r := by
  rw [List.foldl_map, List.foldl_map]
  refine hperm.foldl_eq' (fun x hx y hy z => ?_) r
  cases hox : out x with
  | skip => rfl
  | fail f => rfl
  | put field v => cases hoy : out y with
    | skip => rfl
    | fail f => rfl
    | put field' w =>
      by_cases hfield : field = field'
      · subst hfield
        obtain rfl := hapart x hx y hy field v w hox hoy
        rw [hox] at hoy
        cases hoy
        rfl
      · exact z.set_comm v w hfield

/-- The request with another query. -/
def Request.withQuery (r : Request) (q : Bytes) : Request := { r with query := q }

/-! ### Parameters with keys -/

/-- The tag of a field asks for keys. -/
def Member.IsKeyed (key : String) (m : Member Ty) : Prop :=
  ∃ tag, m.ownTag? key = some tag ∧ tag.deepObject = true

namespace Binder

/-- What is asked of a model: its fields have different names, and so have those of a nested model
that takes keys; the keys of maps that take keys are texts; and different texts are different
keys. -/
structure OrderFree (env : Env) (b : Binder) : Prop where
  names : (b.members.map (·.name)).Nodup
  nested : ∀ m ∈ b.members, m.IsKeyed env.options.tagKey → m.type.NamesDistinct
  texts : ∀ m ∈ b.members, m.IsKeyed env.options.tagKey → m.type.TextKeyed
  apart : env.registry.SeparatesTexts

variable {env : Env} {t : Ty} {b : Binder}

/-- The filler of a query parameter belongs to a field of the model. -/
theorem exists_member_of_filler (hb : t.compile env = .ok (.binder b)) {f : Filler}
    (hf : f ∈ b.queryFillers) : ∃ m ∈ b.members, ∃ x, m.binding? env = some x ∧ x.filler = f := by
  obtain ⟨x, hx, rfl⟩ := mem_queryFillers (Ty.fillers_of_compile hb) hf
  obtain ⟨m, hm, hx⟩ := List.mem_filterMap.mp (List.mem_of_mem_filter hx)
  exact ⟨m, hm, x, hx, rfl⟩

/-- No two parameters fill the same field. -/
theorem filler_inj (hb : t.compile env = .ok (.binder b)) (hnames : (b.members.map (·.name)).Nodup)
    {f g : Filler} (hf : f ∈ b.queryFillers) (hg : g ∈ b.queryFillers) (h : f.field = g.field) :
    f = g := by
  obtain ⟨m, hm, x, hx, rfl⟩ := exists_member_of_filler hb hf
  obtain ⟨m', hm', y, hy, rfl⟩ := exists_member_of_filler hb hg
  rw [Member.field_of_binding? hx, Member.field_of_binding? hy] at h
  obtain rfl := List.inj_on_of_nodup_map hnames hm hm' h
  rw [hx] at hy
  cases hy
  rfl

/-- The keys of a parameter are decoded to the same value in any order. -/
theorem unordered_filler (hb : t.compile env = .ok (.binder b)) (h : b.OrderFree env)
    {f : Filler} (hf : f ∈ b.queryFillers) {d : KeyedDecoder}
    (hd : f.unpacker.deepObject? = some d) : Unordered d := by
  obtain ⟨m, hm, x, hx, rfl⟩ := exists_member_of_filler hb hf
  obtain ⟨tag, htag, hx⟩ := Option.bind_eq_some_iff.mp hx
  split at hx
  · cases hx
  obtain ⟨u, hu, rfl⟩ := Option.map_eq_some_iff.mp hx
  have hunpacker : m.type.unpacker env (m.site tag) tag = .ok (.deepObject d) := by
    cases hbuilt : m.type.unpacker env (m.site tag) tag with
    | error e =>
      rw [hbuilt] at hu
      cases hu
    | ok u' =>
      rw [hbuilt] at hu
      cases hu
      cases u with
      | deepObject d' =>
        cases hd
        rfl
      | single d' => cases hd
      | multi d' => cases hd
  obtain ⟨mode, -, hbuild⟩ := bind_eq_ok.mp hunpacker
  refine Ty.build_unordered h.apart m.type (fun hdeep => ?_) hbuild
  have hkeyed : m.IsKeyed env.options.tagKey := ⟨tag, htag, hdeep⟩
  exact ⟨h.texts m hm hkeyed, h.nested m hm hkeyed⟩

theorem lookup_of_deepFiller? {root : String} {f : Filler} (h : b.deepFiller? root = some f) :
    ∃ part, lookupFiller (b.keyedTable part) root = some f := by
  rcases Option.or_eq_some_iff.mp h with hquery | ⟨-, hform⟩
  · exact ⟨.query, hquery⟩
  · exact ⟨.form, hform⟩

/-! ### Rearranged queries -/

section Rearranging

variable {r : Request} {q : Bytes} (body : Bytes)

/-- What a part of the request has for a name does not depend on the order of names. -/
theorem values_withQuery (h : Rearranged r.queryPairs (r.withQuery q).queryPairs) (part : NamePart)
    (name : String) : b.values (r.withQuery q) body part name = b.values r body part name := by
  cases part with
  | query => exact (h.values name).symm
  | form => rfl

theorem perm_names (h : Rearranged r.queryPairs (r.withQuery q).queryPairs) (part : NamePart) :
    (b.names r body part).Perm (b.names (r.withQuery q) body part) := by
  cases part with
  | query => exact h.perm_names
  | form => exact .refl _

theorem perm_keyEntries (h : Rearranged r.queryPairs (r.withQuery q).queryPairs) (part : NamePart) :
    (b.keyEntries r body part).Perm (b.keyEntries (r.withQuery q) body part) := by
  unfold keyEntries
  simp only [values_withQuery body h]
  exact (perm_names body h part).filterMap _

theorem perm_allEntries (h : Rearranged r.queryPairs (r.withQuery q).queryPairs) :
    (b.allEntries r body).Perm (b.allEntries (r.withQuery q) body) :=
  (perm_keyEntries body h .query).append (perm_keyEntries body h .form)

theorem perm_roots (h : Rearranged r.queryPairs (r.withQuery q).queryPairs) :
    (b.roots r body).Perm (b.roots (r.withQuery q) body) :=
  perm_eraseDups fun _ => ((perm_allEntries body h).map _).mem_iff

/-- Names without line breaks are keys in one way only. -/
theorem keyEntry_inj (hbreak : ∀ p ∈ r.queryPairs, '\n' ∉ p.1.toList) :
    ∀ e ∈ b.keyEntries r body .query, ∀ e' ∈ b.keyEntries r body .query,
      e.root = e'.root → e.key = e'.key → e = e' := by
  have hname : ∀ name ∈ b.names r body .query, '\n' ∉ name.toList := by
    intro name hname
    obtain ⟨p, hp, rfl⟩ := List.mem_map.mp (List.mem_eraseDups.mp hname)
    exact hbreak p hp
  have hwritten : ∀ e ∈ b.keyEntries r body .query,
      e.values = b.values r body .query (Urlencoded.keyName e.root e.key) := by
    intro e he
    obtain ⟨name, hmem, -, hkey, -, hvalues⟩ := mem_keyEntries.mp he
    rcases (Urlencoded.bracketed?_eq_some.mp hkey).2 with rfl | rfl
    · exact hvalues
    · exact absurd (by simp) (hname _ hmem)
  rintro ⟨root, key, values⟩ he ⟨root', key', values'⟩ he' hroot hkey
  dsimp only at hroot hkey
  subst hroot hkey
  have hvalues := hwritten _ he
  have hvalues' := hwritten _ he'
  dsimp only at hvalues hvalues'
  rw [hvalues, hvalues']

theorem perm_keysOf_allEntries (h : Rearranged r.queryPairs (r.withQuery q).queryPairs)
    (hbreak : ∀ p ∈ r.queryPairs, '\n' ∉ p.1.toList) (root : String) :
    (keysOf (b.allEntries r body) root).Perm (keysOf (b.allEntries (r.withQuery q) body) root) :=
  perm_keysOf (b.keyEntries r body .form) root (perm_keyEntries body h .query)
    (keyEntry_inj body hbreak)

/-- **Every step.** It has its outcome, up to the order of the entries of a map. -/
theorem sameOutcome (hb : t.compile env = .ok (.binder b)) (ho : b.OrderFree env)
    (h : Rearranged r.queryPairs (r.withQuery q).queryPairs)
    (hbreak : ∀ p ∈ r.queryPairs, '\n' ∉ p.1.toList) (s : Step) :
    SameOutcome (b.outcome r body s) (b.outcome (r.withQuery q) body s) := by
  cases s with
  | name part name =>
    rw [outcome, outcome, values_withQuery body h]
    exact .refl _
  | keys root =>
    rw [outcome, outcome]
    cases hf : b.deepFiller? root with
    | none => exact .refl _
    | some f =>
      refine f.sameOutcome .query ?_
      obtain ⟨part, hpart⟩ := lookup_of_deepFiller? hf
      have hmem := keyedTable_subset ((lookup_keyed (distinct_of_compile hb)).mp hpart).1
      cases hd : f.unpacker.deepObject? with
      | none => exact .error trivial
      | some d =>
        exact unordered_filler hb ho hmem hd _ _ (perm_keysOf_allEntries body h hbreak root)
          (nodup_keysOf _ root)
  | body f => exact .refl _
  | path f => exact .refl _
  | header f => exact .refl _
  | brokenForm f => exact .refl _
  | cookie f => exact .refl _

/-- The same steps are taken. -/
theorem mem_schedule_withQuery (h : Rearranged r.queryPairs (r.withQuery q).queryPairs) (s : Step) :
    s ∈ b.schedule r body ↔ s ∈ b.schedule (r.withQuery q) body := by
  rw [mem_schedule, mem_schedule]
  cases s with
  | name part name => exact (perm_names body h part).mem_iff
  | keys root => exact (perm_roots body h).mem_iff
  | body f => exact .rfl
  | path f => exact .rfl
  | header f => exact .rfl
  | brokenForm f => exact .rfl
  | cookie f => exact .rfl

/-- A step that fills a field is for the one parameter that fills it. -/
theorem filler_of_put {s : Step} {field : String} {v : Value} (hd : b.Distinct)
    (hput : b.outcome r body s = .put field v) :
    (∀ part name, s = .name part name → ∃ f ∈ b.queryFillers, f.name = name ∧ f.field = field) ∧
      ∀ root, s = .keys root → ∃ f ∈ b.queryFillers, f.name = root ∧ f.field = field := by
  have hvalue : (b.outcome r body s).value? field = some v := by
    rw [hput]
    exact if_pos rfl
  constructor
  · rintro part name rfl
    by_contra hnone
    rw [outcome, NameUse.value?_outcome] at hvalue
    · cases hvalue
    · intro f huse hfield
      obtain ⟨hf, hname⟩ := (lookup_plain hd).mp (usage_eq_parameter.mp huse)
      exact hnone ⟨f, plainTable_subset hf, hname, hfield⟩
  · rintro root rfl
    rw [outcome] at hvalue
    cases hf : b.deepFiller? root with
    | none =>
      rw [hf] at hvalue
      cases hvalue
    | some f =>
      rw [hf] at hvalue
      obtain ⟨part, hpart⟩ := lookup_of_deepFiller? hf
      obtain ⟨hmem, hname⟩ := (lookup_keyed hd).mp hpart
      refine ⟨f, keyedTable_subset hmem, hname, ?_⟩
      by_contra hfield
      have hnone : (f.fillKeys (keysOf (b.allEntries r body) root)).value? field = none :=
        Filler.value?_outcome hfield .query _
      cases hnone.symm.trans hvalue

/-- **All steps.** They leave the same model. -/
theorem sameModel_filled (hb : t.compile env = .ok (.binder b)) (ho : b.OrderFree env)
    (h : Rearranged r.queryPairs (r.withQuery q).queryPairs)
    (hbreak : ∀ p ∈ r.queryPairs, '\n' ∉ p.1.toList) (new : Record Value) :
    SameModel (b.filled r body new) (b.filled (r.withQuery q) body new) := by
  have hd := distinct_of_compile hb
  -- names fill different fields, and so do parameters with keys
  have hnames := foldl_apply_perm (b.outcome (r.withQuery q) body)
    ((perm_names (b := b) body h .query).map (Step.name .query)) (by
      intro s hs s' hs' field v w hv hw
      obtain ⟨n, -, rfl⟩ := List.mem_map.mp hs
      obtain ⟨n', -, rfl⟩ := List.mem_map.mp hs'
      obtain ⟨f, hf, rfl, hfield⟩ := (filler_of_put body hd hv).1 _ _ rfl
      obtain ⟨g, hg, rfl, hfield'⟩ := (filler_of_put body hd hw).1 _ _ rfl
      rw [filler_inj hb ho.names hf hg (hfield.trans hfield'.symm)])
  have hroots := foldl_apply_perm (b.outcome (r.withQuery q) body)
    ((perm_roots (b := b) body h).map Step.keys) (by
      intro s hs s' hs' field v w hv hw
      obtain ⟨n, -, rfl⟩ := List.mem_map.mp hs
      obtain ⟨n', -, rfl⟩ := List.mem_map.mp hs'
      obtain ⟨f, hf, rfl, hfield⟩ := (filler_of_put body hd hv).2 _ rfl
      obtain ⟨g, hg, rfl, hfield'⟩ := (filler_of_put body hd hw).2 _ rfl
      rw [filler_inj hb ho.names hf hg (hfield.trans hfield'.symm)])
  -- so the rearranged request may take its steps in the order of the other one
  have horder : b.filled (r.withQuery q) body new =
      ((b.schedule r body).map (b.outcome (r.withQuery q) body)).foldl Outcome.apply new := by
    have hform : b.formSteps (r.withQuery q) body = b.formSteps r body := rfl
    unfold filled schedule
    simp only [List.map_append, List.foldl_append, hform]
    rw [hnames, hroots]
  rw [horder]
  refine (SameModel.refl new).foldl ?_
  rw [List.forall₂_map_left_iff, List.forall₂_map_right_iff, List.forall₂_same]
  exact fun s _ => sameOutcome body hb ho h hbreak s

/-- A request that is resolved is resolved to the same model after its query is rearranged. -/
theorem resolve_withQuery (hb : t.compile env = .ok (.binder b)) (ho : b.OrderFree env)
    (h : Rearranged r.queryPairs (r.withQuery q).queryPairs)
    (hbreak : ∀ p ∈ r.queryPairs, '\n' ∉ p.1.toList) {model : Record Value}
    (hmodel : b.resolve r body = .ok model) :
    ∃ model', b.resolve (r.withQuery q) body = .ok model' ∧ SameModel model model' := by
  obtain ⟨new, os, hnew, hos, hnone, rfl⟩ := resolve_eq_ok.mp hmodel
  have hread := readable_of_outcomes hos
  have hread' : b.Readable (r.withQuery q) := ⟨hread.lookups, hread.headers⟩
  rw [outcomes_eq hread] at hos
  cases hos
  have hnone' : b.firstFault? (r.withQuery q) body = none := by
    rw [firstFault?_eq_none]
    intro s hs f hfails
    have hsame := (sameOutcome body hb ho h hbreak s).fault?_eq_none
    have hcalm := firstFault?_eq_none.mp hnone s ((mem_schedule_withQuery body h s).mpr hs)
    rw [Option.eq_none_iff_forall_ne_some.mpr hcalm] at hsame
    exact absurd hfails (Option.eq_none_iff_forall_ne_some.mp (hsame.mp rfl) f)
  refine ⟨_, ?_, sameModel_filled body hb ho h hbreak new⟩
  rw [resolve_eq hread' hnew, hnone']

/-- **The order of the query does not matter.** Let the fields of a model and of its nested models
that take keys have different names, let the maps that take keys have texts for keys, and let no
reader that is registered for texts make the same key of different texts. Then of two requests that
differ in the order of their query only, without line breaks in the names and with the values of each
name in order, either both are resolved, to models that are the same when maps count as mappings, or
neither is. -/
theorem resolve_rearranged (hb : t.compile env = .ok (.binder b))
    (hnames : (b.members.map (·.name)).Nodup)
    (hnested : ∀ m ∈ b.members, m.IsKeyed env.options.tagKey → m.type.NamesDistinct)
    (htexts : ∀ m ∈ b.members, m.IsKeyed env.options.tagKey → m.type.TextKeyed)
    (happart : env.registry.SeparatesTexts)
    (h : Rearranged r.queryPairs (r.withQuery q).queryPairs)
    (hbreak : ∀ p ∈ r.queryPairs, '\n' ∉ p.1.toList) :
    SucceedAlike SameModel (b.resolve r body) (b.resolve (r.withQuery q) body) := by
  have ho : b.OrderFree env := ⟨hnames, hnested, htexts, happart⟩
  cases hr : b.resolve r body with
  | ok model =>
    obtain ⟨model', hmodel', hsame⟩ := resolve_withQuery body hb ho h hbreak hr
    rw [hmodel']
    exact .ok hsame
  | error e =>
    cases hr' : b.resolve (r.withQuery q) body with
    | error e' => exact .error trivial
    | ok model' =>
      -- rearranged again, the query is the one that has failed
      have hbreak' : ∀ p ∈ (r.withQuery q).queryPairs, '\n' ∉ p.1.toList :=
        fun p hp => hbreak p (h.perm.mem_iff.mpr hp)
      have hback : Rearranged (r.withQuery q).queryPairs
          ((r.withQuery q).withQuery r.query).queryPairs := h.symm
      obtain ⟨model, hmodel, -⟩ := resolve_withQuery body hb ho hback hbreak' hr'
      have hself : (r.withQuery q).withQuery r.query = r := rfl
      rw [hself, hr] at hmodel
      cases hmodel

end Rearranging

end Binder

/-- Two keys of a map. -/
def twoKeys : Request := { query := utf8 "filter[a]=1&filter[b]=2" }

/-- The query with the two keys the other way round. -/
def keysSwapped : Bytes := utf8 "filter[b]=2&filter[a]=1"

theorem queryPairs_twoKeys :
    twoKeys.queryPairs = [("filter[a]", "1"), ("filter[b]", "2")] := by decide +kernel

theorem rearranged_twoKeys :
    Rearranged twoKeys.queryPairs (twoKeys.withQuery keysSwapped).queryPairs := by
  have hswapped : (twoKeys.withQuery keysSwapped).queryPairs =
      [("filter[b]", "2"), ("filter[a]", "1")] := by decide +kernel
  rw [queryPairs_twoKeys, hswapped]
  exact .swap (by decide) _ _ _

/-- The binder of numbers by their keys, with readers that are registered. -/
def filteredWith (readers : List (String × TextReader)) : Binder :=
  .declared ⟨{}, readers⟩ { cls := { name := "Filtered" } } filteredMembers

theorem type_of_mem_filtered {readers : List (String × TextReader)} {m : Member Ty}
    (hm : m ∈ (filteredWith readers).members) :
    m.type = .map .dict .str (.scalar { kind := .int }) true := by
  obtain rfl := List.mem_singleton.mp hm
  rfl

/-- Without registered readers the two keys may stand in any order. -/
theorem keys_resolved_alike :
    Rearranged twoKeys.queryPairs (twoKeys.withQuery keysSwapped).queryPairs ∧
      SucceedAlike SameModel ((filteredWith []).resolve twoKeys [])
        ((filteredWith []).resolve (twoKeys.withQuery keysSwapped) []) ∧
      ((filteredWith []).resolve twoKeys []).toOption.isSome = true := by
  have hb : (Ty.model { cls := { name := "Filtered" } } filteredMembers).compile ⟨{}, []⟩ =
      .ok (.binder (filteredWith [])) := rfl
  refine ⟨rearranged_twoKeys, ?_, by decide +kernel⟩
  exact Binder.resolve_rearranged [] hb (by decide)
    (fun m hm _ => by rw [type_of_mem_filtered hm]; trivial)
    (fun m hm _ => by rw [type_of_mem_filtered hm]; rfl)
    (fun _ hreader => by cases hreader) rearranged_twoKeys (by rw [queryPairs_twoKeys]; decide)

/-- The only entry of the map of filters, when it has one and this is of two numbers. -/
def solePair? (model : Record Value) : Option (Int × Int) :=
  match model.get? "filter" with
  | some (.map [(.int k, .int v)]) => some (k, v)
  | _ => none

theorem get?_of_solePair? {model : Record Value} {k v : Int}
    (h : solePair? model = some (k, v)) :
    model.get? "filter" = some (.map [(.int k, .int v)]) := by
  unfold solePair? at h
  split at h
  · rename_i hmap
    cases h
    exact hmap
  · cases h

/-- With a reader that makes the lengths of texts their keys, the two keys are one key of the map,
and the number that comes last is kept. -/
theorem order_counts_by_length :
    ¬ ∀ (env : Env) (t : Ty) (b : Binder) (r : Request) (q body : Bytes),
      t.compile env = .ok (.binder b) → (b.members.map (·.name)).Nodup →
      (∀ m ∈ b.members, m.IsKeyed env.options.tagKey → m.type.NamesDistinct) →
      (∀ m ∈ b.members, m.IsKeyed env.options.tagKey → m.type.TextKeyed) →
      Rearranged r.queryPairs (r.withQuery q).queryPairs →
      (∀ p ∈ r.queryPairs, '\n' ∉ p.1.toList) →
      SucceedAlike SameModel (b.resolve r body) (b.resolve (r.withQuery q) body) := by
  intro hall
  have hb : (Ty.model { cls := { name := "Filtered" } } filteredMembers).compile
      ⟨{}, [("str", Sample.length)]⟩ = .ok (.binder (filteredWith [("str", Sample.length)])) := rfl
  have halike := hall _ _ _ twoKeys keysSwapped [] hb (by decide)
    (fun m hm _ => by rw [type_of_mem_filtered hm]; trivial)
    (fun m hm _ => by rw [type_of_mem_filtered hm]; rfl)
    rearranged_twoKeys (by rw [queryPairs_twoKeys]; decide)
  have hfirst : ((filteredWith [("str", Sample.length)]).resolve twoKeys []).toOption.bind
      solePair? = some (1, 2) := by
    decide +kernel
  have hsecond : ((filteredWith [("str", Sample.length)]).resolve
      (twoKeys.withQuery keysSwapped) []).toOption.bind solePair? = some (1, 1) := by
    decide +kernel
  generalize (filteredWith [("str", Sample.length)]).resolve twoKeys [] = x at halike hfirst
  generalize (filteredWith [("str", Sample.length)]).resolve (twoKeys.withQuery keysSwapped) [] = y
    at halike hsecond
  cases halike with
  | error _ => cases hfirst
  | ok hsame =>
    have hfilter := hsame.get? "filter"
    rw [get?_of_solePair? hfirst, get?_of_solePair? hsecond] at hfilter
    cases hfilter with
    | some hmap => cases hmap with
      | map hentries _ => cases List.perm_singleton.mp hentries

end ParamBinding
