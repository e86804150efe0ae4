import ParamBinding.Proofs.Channels

/-!
# What is gathered for parameters with keys

The query and then the form leave texts for the keys of parameters, and all of them are decoded in
the end (`Binder.gathered`). Here it is said what has been gathered by then: every parameter once,
with every key that a part of the request offers it (`Binder.Offers`), and with the texts of the
form where both parts offer the key. Each parameter has one filler, that of the field it belongs to,
and is given to it once (`Binder.keys_gathered`).

Names with a line break are left out, since a key could be offered by two names of one part then.
-/

namespace ParamBinding

open ParamBinding.Text

/-! ### What is kept -/

/-- Where neither parameters nor their keys are repeated, the texts that are kept for a key are
those in its entry. -/
theorem Buffered.texts?_eq_some {kept : Buffered} (hroots : (kept.map (·.1)).Nodup)
    {root : String} {keys : List (String × List String)} (hmem : (root, keys) ∈ kept)
    (hkeys : (keys.map (·.1)).Nodup) {key : String} {vs : List String} :
    kept.texts? root key = some vs ↔ (key, vs) ∈ keys := by
  rw [texts?, (lookup_eq_some_of_nodup hroots).mpr hmem, Option.bind_some,
    lookup_eq_some_of_nodup hkeys]

/-- A name that occurs has a value. -/
theorem Urlencoded.valuesOf_ne_nil {items : List (String × String)} {name : String}
    (h : name ∈ names items) : valuesOf items name ≠ [] := by
  obtain ⟨i, hi, rfl⟩ := List.mem_map.mp (List.mem_eraseDups.mp h)
  have hmem : i ∈ items.filter (·.1 = i.1) := List.mem_filter.mpr ⟨hi, decide_eq_true rfl⟩
  exact List.ne_nil_of_mem (List.mem_map.mpr ⟨i, hmem, rfl⟩)

namespace Binder

open Urlencoded

variable {env : Env} {t : Ty} {b : Binder} {r : Request} {body : Bytes}

/-! ### Owners of parameters -/

/-- The binding of the field that a parameter of the query or of forms belongs to. -/
structure IsOwner (env : Env) (b : Binder) (x : Binding) (root : String) : Prop where
  mem : x ∈ bindings env b.members
  place : x.place = .query
  name : x.filler.name = root

theorem owner_unique (hb : t.compile env = .ok (.binder b)) {x y : Binding} {root : String}
    (hx : b.IsOwner env x root) (hy : b.IsOwner env y root) : x = y := by
  obtain ⟨-, horder, -⟩ := Ty.compiled hb
  exact List.inj_on_of_nodup_map (horder.distinct .query (by rintro s ⟨⟩))
    (List.mem_filter.mpr ⟨hx.mem, decide_eq_true hx.place⟩)
    (List.mem_filter.mpr ⟨hy.mem, decide_eq_true hy.place⟩) (hx.name.trans hy.name.symm)

theorem place_of_accepts {x : Binding} {part : NamePart} (h : x.accepts part = true) :
    x.place = .query := by
  cases part <;>
    simp only [Binding.accepts, Binding.inQuery, Binding.inForm, Bool.and_eq_true,
      decide_eq_true_eq] at h
  · exact h.1
  · exact h.1

/-- A part of the request has keys for a parameter when the owner takes keys and accepts the part. -/
theorem mem_keyed_names (hb : t.compile env = .ok (.binder b)) {x : Binding} {root : String}
    (hx : b.IsOwner env x root) {part : NamePart} :
    root ∈ (b.keyedTable part).map (·.name) ↔ x.accepts part = true ∧ x.isKeyed = true := by
  rw [List.mem_map]
  constructor
  · rintro ⟨f, hf, hname⟩
    obtain ⟨y, hy, haccepts, hkeyed, rfl⟩ := (mem_keyedTable hb).mp hf
    rw [owner_unique hb hx ⟨hy, place_of_accepts haccepts, hname⟩]
    exact ⟨haccepts, hkeyed⟩
  · rintro ⟨haccepts, hkeyed⟩
    exact ⟨x.filler, (mem_keyedTable hb).mpr ⟨x, hx.mem, haccepts, hkeyed, rfl⟩, hx.name⟩

/-- The owner's filler is the one that is found for a parameter with keys. -/
theorem exists_owner (hb : t.compile env = .ok (.binder b)) {root : String}
    (h : root ∈ b.roots r body) :
    ∃ x, b.IsOwner env x root ∧ x.isKeyed = true ∧ b.deepFiller? root = some x.filler := by
  obtain ⟨f, hf⟩ := deepFiller?_of_mem_roots h
  obtain ⟨part, hpart⟩ := lookup_of_deepFiller? hf
  obtain ⟨hmem, hname⟩ := (lookup_keyed (distinct_of_compile hb)).mp hpart
  obtain ⟨x, hx, haccepts, hkeyed, rfl⟩ := (mem_keyedTable hb).mp hmem
  exact ⟨x, ⟨hx, place_of_accepts haccepts, hname⟩, hkeyed, hf⟩

/-! ### Gathering -/

/-- The texts of keys when the query and the form have been dealt with. -/
def gathered (b : Binder) (r : Request) (body : Bytes) : Buffered :=
  (b.sortForm r body
    (b.sortNames b.fillers.query b.fillers.deepObject r.queryPairs []).buffered).buffered

/-- A part of the request has a key of an owner's parameter, in a name that no parameter without
keys has, and may fill the field. -/
structure Offers (b : Binder) (r : Request) (body : Bytes) (part : NamePart) (x : Binding)
    (key : String) : Prop where
  accepts : x.accepts part = true
  occurs : keyName x.filler.name key ∈ b.names r body part
  free : keyName x.filler.name key ∉ (b.plainTable part).map (·.name)

/-- Everything is gathered in one run over the entries of the query and of the form. -/
theorem gathered_eq : b.gathered r body =
    (b.roots r body).map fun root => (root, keysOf (b.allEntries r body) root) := by
  have hquery := b.sortNames_eq r body .query []
  simp only [plainTable, keyedTable, items] at hquery
  rw [gathered, hquery, sortForm_eq, ← List.foldl_append]
  exact Buffered.ofEntries_eq (b.allEntries r body)

theorem map_fst_gathered : (b.gathered r body).map (·.1) = b.roots r body := by
  rw [gathered_eq, List.map_map]
  exact List.map_id _

theorem nodup_gathered : ((b.gathered r body).map (·.1)).Nodup := by
  rw [map_fst_gathered]
  exact nodup_eraseDups _

theorem nodup_keys_of_mem_gathered {root : String} {keys : List (String × List String)}
    (h : (root, keys) ∈ b.gathered r body) : (keys.map (·.1)).Nodup := by
  rw [gathered_eq] at h
  obtain ⟨root', -, heq⟩ := List.mem_map.mp h
  cases heq
  exact nodup_keysOf _ root

/-- What the names of a part leave is kept name by name. -/
theorem foldl_keyEntries (part : NamePart) (kept : Buffered) :
    (b.keyEntries r body part).foldl (fun kept e => kept.put e.root e.key e.values) kept =
      b.keepAll part (b.values r body part) kept (b.names r body part) := by
  rw [keyEntries, List.foldl_filterMap, keepAll]
  congr 1
  funext kept name
  rw [NameUse.keep_eq]
  cases (b.usage part name).waiting? (b.values r body part name) <;> rfl

theorem gathered_eq_keepAll : b.gathered r body =
    b.keepAll .form (b.values r body .form)
      (b.keepAll .query (b.values r body .query) [] (b.names r body .query))
      (b.names r body .form) := by
  have hquery := b.sortNames_eq r body .query []
  simp only [plainTable, keyedTable, items] at hquery
  rw [gathered, hquery, sortForm_eq, foldl_keyEntries, foldl_keyEntries]

/-! ### Keys that are offered -/

section Offered

variable (hb : t.compile env = .ok (.binder b)) {x : Binding} {root : String}
  (hx : b.IsOwner env x root) (hkeyed : x.isKeyed = true)
include hb hx hkeyed

/-- Without a line break only one name is a key of the owner's parameter. -/
theorem usage_eq_key_iff {part : NamePart} {name key : String} (hbreak : '\n' ∉ name.toList) :
    b.usage part name = .key root key ↔
      name = keyName root key ∧ Separable root key ∧ x.accepts part = true ∧
        name ∉ (b.plainTable part).map (·.name) := by
  by_cases hplain : name ∈ (b.plainTable part).map (·.name)
  · obtain ⟨f, hf⟩ := Option.isSome_iff_exists.mp (isSome_lookupFiller.mpr hplain)
    rw [usage_eq_parameter.mpr hf]
    simp [hplain]
  · have hwritten : WritesKey name root key ↔ name = keyName root key := by
      refine ⟨fun h => h.resolve_right ?_, .inl⟩
      rintro rfl
      exact hbreak (by simp)
    rw [usage_eq_key hplain, TakesKey, mem_keyed_names hb hx, hkeyed, hwritten]
    simp only [hplain, not_false_eq_true, and_true]
    tauto

variable (hbreak : ∀ part, ∀ name ∈ b.names r body part, '\n' ∉ name.toList)
include hbreak

/-- A part offers a key when one of its names is the key. -/
theorem offers_iff {part : NamePart} {key : String} (hsep : Separable root key) :
    b.Offers r body part x key ↔ ∃ name ∈ b.names r body part, b.usage part name = .key root key := by
  constructor
  · rintro ⟨haccepts, hoccurs, hfree⟩
    rw [hx.name] at hoccurs hfree
    exact ⟨_, hoccurs,
      (usage_eq_key_iff hb hx hkeyed (hbreak part _ hoccurs)).mpr ⟨rfl, hsep, haccepts, hfree⟩⟩
  · rintro ⟨name, hname, huse⟩
    obtain ⟨rfl, -, haccepts, hfree⟩ :=
      (usage_eq_key_iff hb hx hkeyed (hbreak part name hname)).mp huse
    exact ⟨haccepts, by rwa [hx.name], by rwa [hx.name]⟩

/-- What a part leaves for a key: the texts of the one name that is this key, or what was kept
before. -/
theorem texts?_keepAll_iff {part : NamePart} {kept : Buffered} {key : String} {vs : List String}
    (hsep : Separable root key) :
    (b.keepAll part (b.values r body part) kept (b.names r body part)).texts? root key = some vs ↔
      (b.Offers r body part x key ∧ b.values r body part (keyName root key) = vs) ∨
        (¬ b.Offers r body part x key ∧ kept.texts? root key = some vs) := by
  rw [texts?_keepAll, offers_iff hb hx hkeyed hbreak hsep]
  have hname : ∀ name ∈ b.names r body part, b.usage part name = .key root key →
      name = keyName root key := fun name hmem huse =>
    ((usage_eq_key_iff hb hx hkeyed (hbreak part name hmem)).mp huse).1
  refine or_congr ⟨?_, ?_⟩ (and_congr_left fun _ => ?_)
  · rintro ⟨before, name, after, hnames, huse, -, rfl⟩
    have hmem : name ∈ b.names r body part := by
      rw [hnames]
      exact List.mem_append_right _ List.mem_cons_self
    exact ⟨⟨name, hmem, huse⟩, by rw [hname name hmem huse]⟩
  · rintro ⟨⟨name, hmem, huse⟩, rfl⟩
    obtain ⟨before, after, hnames⟩ := List.append_of_mem hmem
    -- names are not repeated, so no later one can be the key
    have hnodup : (b.names r body part).Nodup := nodup_eraseDups _
    rw [hnames, List.nodup_append] at hnodup
    refine ⟨before, name, after, hnames, huse, fun other hother huse' => ?_,
      by rw [hname name hmem huse]⟩
    have hmem' : other ∈ b.names r body part := by
      rw [hnames]
      exact List.mem_append_right _ (List.mem_cons_of_mem name hother)
    have heq : other = name := (hname other hmem' huse').trans (hname name hmem huse).symm
    exact (List.nodup_cons.mp hnodup.2.1).1 (heq ▸ hother)
  · simp only [not_exists, not_and]

/-- **What is gathered for a key.** The form goes before the query. -/
theorem texts?_gathered {key : String} {vs : List String} (hsep : Separable root key) :
    (b.gathered r body).texts? root key = some vs ↔
      (b.Offers r body .form x key ∧ b.values r body .form (keyName root key) = vs) ∨
        (¬ b.Offers r body .form x key ∧ b.Offers r body .query x key ∧
          b.values r body .query (keyName root key) = vs) := by
  have hnothing : ∀ vs, ¬ (Buffered.texts? [] root key = some vs) := by
    rintro vs ⟨⟩
  rw [gathered_eq_keepAll, texts?_keepAll_iff hb hx hkeyed hbreak hsep,
    texts?_keepAll_iff hb hx hkeyed hbreak hsep]
  simp only [hnothing, and_false, or_false]

/-- Only keys that can be told from their parameter are gathered. -/
theorem separable_of_texts? {key : String} {vs : List String}
    (h : (b.gathered r body).texts? root key = some vs) : Separable root key := by
  have husage : ∃ part, ∃ name ∈ b.names r body part, b.usage part name = .key root key := by
    rw [gathered_eq_keepAll, texts?_keepAll] at h
    rcases h with ⟨before, name, after, hnames, huse, -⟩ | ⟨-, h⟩
    · exact ⟨.form, name, by rw [hnames]; simp, huse⟩
    · rcases texts?_keepAll.mp h with ⟨before, name, after, hnames, huse, -⟩ | ⟨-, h⟩
      · exact ⟨.query, name, by rw [hnames]; simp, huse⟩
      · cases h
  obtain ⟨part, name, hname, huse⟩ := husage
  exact ((usage_eq_key_iff hb hx hkeyed (hbreak part name hname)).mp huse).2.1

end Offered

/-! ### Everything that is gathered -/

theorem usage_of_mem_keyEntries {part : NamePart} {e : KeyEntry}
    (h : e ∈ b.keyEntries r body part) :
    ∃ name ∈ b.names r body part, b.usage part name = .key e.root e.key := by
  obtain ⟨name, hname, hwaiting⟩ := List.mem_filterMap.mp h
  refine ⟨name, hname, ?_⟩
  cases huse : b.usage part name with
  | key root key =>
    rw [huse] at hwaiting
    cases hwaiting
    rfl
  | parameter f =>
    rw [huse] at hwaiting
    cases hwaiting
  | unknown =>
    rw [huse] at hwaiting
    cases hwaiting

theorem mem_roots_of_usage {part : NamePart} {name root key : String}
    (hname : name ∈ b.names r body part) (huse : b.usage part name = .key root key) :
    root ∈ b.roots r body := by
  have hentry : ⟨root, key, b.values r body part name⟩ ∈ b.keyEntries r body part := by
    refine List.mem_filterMap.mpr ⟨name, hname, ?_⟩
    rw [huse]
    rfl
  refine mem_roots.mpr ⟨⟨root, key, b.values r body part name⟩, ?_, rfl⟩
  cases part with
  | query => exact List.mem_append_left _ hentry
  | form => exact List.mem_append_right _ hentry

section Gathered

variable (hb : t.compile env = .ok (.binder b))
  (hbreak : ∀ part, ∀ name ∈ b.names r body part, '\n' ∉ name.toList)
include hb hbreak

/-- A parameter is gathered when some part of the request offers it a key. -/
theorem mem_roots_iff {root : String} :
    root ∈ b.roots r body ↔ ∃ x, b.IsOwner env x root ∧ x.isKeyed = true ∧
      ∃ part key, Separable root key ∧ b.Offers r body part x key := by
  constructor
  · intro hroot
    obtain ⟨x, hx, hkeyed, -⟩ := exists_owner hb hroot
    obtain ⟨e, he, rfl⟩ := mem_roots.mp hroot
    have hpart : ∃ part, e ∈ b.keyEntries r body part := by
      rcases List.mem_append.mp he with he | he
      · exact ⟨.query, he⟩
      · exact ⟨.form, he⟩
    obtain ⟨part, he⟩ := hpart
    obtain ⟨name, hname, huse⟩ := usage_of_mem_keyEntries he
    have hsep := ((usage_eq_key_iff hb hx hkeyed (hbreak part name hname)).mp huse).2.1
    exact ⟨x, hx, hkeyed, part, e.key, hsep,
      (offers_iff hb hx hkeyed hbreak hsep).mpr ⟨name, hname, huse⟩⟩
  · rintro ⟨x, hx, hkeyed, part, key, hsep, hoffers⟩
    obtain ⟨name, hname, huse⟩ := (offers_iff hb hx hkeyed hbreak hsep).mp hoffers
    exact mem_roots_of_usage hname huse

/-- The keys of one parameter, each with the texts of the form or else with those of the query. -/
theorem mem_keys_of_mem_gathered {root : String} {keys : List (String × List String)}
    (hmem : (root, keys) ∈ b.gathered r body) {x : Binding} (hx : b.IsOwner env x root)
    {key : String} {vs : List String} :
    (key, vs) ∈ keys ↔ (key ≠ "" ∧ ']' ∉ key.toList) ∧
      ((b.Offers r body .form x key ∧ b.values r body .form (keyName root key) = vs) ∨
        (¬ b.Offers r body .form x key ∧ b.Offers r body .query x key ∧
          b.values r body .query (keyName root key) = vs)) := by
  have hroot : root ∈ b.roots r body := by
    rw [← map_fst_gathered]
    exact List.mem_map.mpr ⟨_, hmem, rfl⟩
  obtain ⟨y, hy, hkeyed, part, other, hsome, -⟩ := (mem_roots_iff hb hbreak).mp hroot
  obtain rfl := owner_unique hb hy hx
  rw [← Buffered.texts?_eq_some nodup_gathered hmem (nodup_keys_of_mem_gathered hmem)]
  constructor
  · intro htexts
    have hsep := separable_of_texts? hb hy hkeyed hbreak htexts
    exact ⟨⟨hsep.key_ne, hsep.key_bare⟩, (texts?_gathered hb hy hkeyed hbreak hsep).mp htexts⟩
  · rintro ⟨⟨hne, hbare⟩, hoffered⟩
    have hsep : Separable root key := ⟨hsome.root_ne, hsome.root_bare, hne, hbare⟩
    exact (texts?_gathered hb hy hkeyed hbreak hsep).mpr hoffered

theorem ne_nil_of_mem_gathered {root : String} {keys : List (String × List String)}
    (hmem : (root, keys) ∈ b.gathered r body) {p : String × List String} (hp : p ∈ keys) :
    p.2 ≠ [] := by
  have hroot : root ∈ b.roots r body := by
    rw [← map_fst_gathered]
    exact List.mem_map.mpr ⟨_, hmem, rfl⟩
  obtain ⟨x, hx, -⟩ := exists_owner hb hroot
  obtain ⟨-, hoffered⟩ := (mem_keys_of_mem_gathered hb hbreak hmem hx).mp hp
  rcases hoffered with ⟨⟨-, hoccurs, -⟩, hvs⟩ | ⟨-, ⟨-, hoccurs, -⟩, hvs⟩
  · rw [← hvs, ← hx.name]
    exact valuesOf_ne_nil hoccurs
  · rw [← hvs, ← hx.name]
    exact valuesOf_ne_nil hoccurs

/-- **Keys of the query and of the form.** Let no name in the query or in the form have a line
break. Then a parameter is gathered once, just when a part of the request that may fill its field
offers it a key. What has been gathered for it goes to the filler of the one field that owns it, in a
step of its own, after all names have been dealt with. The keys are those that are offered, each of
them once and with all texts that the form has for it, or else with all that the query has, and
never without a text. -/
theorem keys_gathered :
    ((b.gathered r body).map (·.1)).Nodup ∧
    (∀ root, root ∈ (b.gathered r body).map (·.1) ↔
      ∃ x, b.IsOwner env x root ∧ x.isKeyed = true ∧
        ∃ part key, Separable root key ∧ b.Offers r body part x key) ∧
    (∃ deep, b.queryOutcomes r body = .ok (((b.names r body .query).map (Step.name .query) ++
        b.formSteps r body).map (b.outcome r body) ++ deep) ∧
      List.Forall₂ (fun e o => ∃ x, b.IsOwner env x e.1 ∧ (∀ y, b.IsOwner env y e.1 → y = x) ∧
        o = x.filler.fillKeys e.2) (b.gathered r body) deep) ∧
    ∀ root keys, (root, keys) ∈ b.gathered r body → ∀ x, b.IsOwner env x root →
      (keys.map (·.1)).Nodup ∧ (∀ p ∈ keys, p.2 ≠ []) ∧
      ∀ key vs, (key, vs) ∈ keys ↔ (key ≠ "" ∧ ']' ∉ key.toList) ∧
        ((b.Offers r body .form x key ∧ b.values r body .form (keyName root key) = vs) ∨
          (¬ b.Offers r body .form x key ∧ b.Offers r body .query x key ∧
            b.values r body .query (keyName root key) = vs)) := by
  refine ⟨nodup_gathered, fun root => ?_,
    ⟨((b.roots r body).map Step.keys).map (b.outcome r body), ?_, ?_⟩, fun root keys hmem x hx =>
    ⟨nodup_keys_of_mem_gathered hmem, fun p hp => ne_nil_of_mem_gathered hb hbreak hmem hp,
      fun key vs => mem_keys_of_mem_gathered hb hbreak hmem hx⟩⟩
  · rw [map_fst_gathered]
    exact mem_roots_iff hb hbreak
  · rw [queryOutcomes_eq, ← List.map_append]
  · rw [gathered_eq, List.map_map, List.forall₂_map_left_iff, List.forall₂_map_right_iff,
      List.forall₂_same]
    intro root hroot
    obtain ⟨x, hx, -, hfiller⟩ := exists_owner hb hroot
    refine ⟨x, hx, fun y hy => owner_unique hb hy hx, ?_⟩
    rw [Function.comp_apply, outcome, hfiller]

end Gathered

end Binder

/-- Numbers by their keys, from the query and from forms. -/
def mixedMembers : List (Member Ty) := [
  { name := "filter", type := .map .dict .str (.scalar { kind := .int }) true,
    tags := [(defaultTagKey, "query,deepObject=true,form")] }]

/-- The binder of such numbers. -/
def mixedBinder : Binder := .declared ⟨{}, []⟩ { cls := { name := "Mixed" } } mixedMembers

/-- A request with a form and a query. -/
def mixedRequest : Request where
  query := utf8 "filter[a]=1&filter[b]=2&filter[b]=3"
  headers := [("Content-Type", formContentType)]

/-- Its form. -/
def mixedForm : Bytes := utf8 "filter[c]=4&filter[a]=5"

/-- The form takes the place of the query for one key, and adds another one. -/
theorem filter_gathered :
    (∀ part, ∀ name ∈ mixedBinder.names mixedRequest mixedForm part, '\n' ∉ name.toList) ∧
    mixedBinder.gathered mixedRequest mixedForm =
      [("filter", [("a", ["5"]), ("b", ["2", "3"]), ("c", ["4"])])] ∧
    ∃ x, mixedBinder.IsOwner ⟨{}, []⟩ x "filter" ∧
      mixedBinder.Offers mixedRequest mixedForm .form x "a" ∧
      ¬ mixedBinder.Offers mixedRequest mixedForm .form x "b" ∧
      mixedBinder.Offers mixedRequest mixedForm .query x "b" := by
  have hb : (Ty.model { cls := { name := "Mixed" } } mixedMembers).compile ⟨{}, []⟩ =
      .ok (.binder mixedBinder) := rfl
  have hbreak : ∀ part, ∀ name ∈ mixedBinder.names mixedRequest mixedForm part,
      '\n' ∉ name.toList := by
    intro part
    cases part <;> decide +kernel
  have hgathered : mixedBinder.gathered mixedRequest mixedForm =
      [("filter", [("a", ["5"]), ("b", ["2", "3"]), ("c", ["4"])])] := by
    decide +kernel
  obtain ⟨-, hroots, -, hkeys⟩ := Binder.keys_gathered hb hbreak
  rw [hgathered] at hroots hkeys
  obtain ⟨x, hx, -⟩ := (hroots "filter").mp List.mem_cons_self
  obtain ⟨-, -, hoffered⟩ := hkeys "filter" _ List.mem_cons_self x hx
  refine ⟨hbreak, hgathered, x, hx, ?_, ?_⟩
  · obtain ⟨-, ⟨hform, -⟩ | ⟨-, -, hvalues⟩⟩ := (hoffered "a" ["5"]).mp (by decide)
    · exact hform
    · exact absurd hvalues (by decide +kernel)
  · obtain ⟨-, ⟨-, hvalues⟩ | ⟨hform, hquery, -⟩⟩ := (hoffered "b" ["2", "3"]).mp (by decide)
    · exact absurd hvalues (by decide +kernel)
    · exact ⟨hform, hquery⟩

end ParamBinding
