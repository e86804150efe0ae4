import ParamBinding.Proofs.Containment
import ParamBinding.Proofs.Restriction

/-!
# Fields are filled on their own

Two runs are compared: a request is resolved for a model, and for the same model with only one
tagged field left (`Binder.only`). The schedules of the two differ, and so do their faults. But the values
that are put into that field are the same and come in the same order (`Binder.puts_only`), so both
runs leave the same in it.

For names with brackets this takes a condition: a parameter without keys must not bear a name that
another parameter would take for one of its keys (`Binder.Unbracketed`).
-/

namespace ParamBinding

open ParamBinding.Text

/-! ### Values for a field -/

/-- The value that an outcome has for a field. -/
def Outcome.value? (field : String) : Outcome → Option Value
  | put g v => if g = field then some v else none
  | _ => none

/-- The values that outcomes have for a field, in order. -/
def puts (field : String) (os : List Outcome) : List Value := os.filterMap (·.value? field)

section Puts

variable {field : String}

@[simp] theorem puts_append (os os' : List Outcome) :
    puts field (os ++ os') = puts field os ++ puts field os' :=
  List.filterMap_append

@[simp] theorem names_foldl_apply (os : List Outcome) (r : Record Value) :
    (os.foldl Outcome.apply r).names = r.names := by
  induction os generalizing r with
  | nil => rfl
  | cons o os ih =>
    rw [List.foldl_cons, ih]
    cases o with
    | put g v => exact r.names_set g v
    | _ => rfl

theorem get?_apply (o : Outcome) (r : Record Value) (h : field ∈ r.names) :
    (o.apply r).get? field = (o.value? field).or (r.get? field) := by
  cases o with
  | put g v =>
    by_cases hg : g = field
    · subst hg
      rw [Outcome.apply, Record.get?_set_self r v h, Outcome.value?, if_pos rfl]
      rfl
    · rw [Outcome.apply, Record.get?_set_of_ne r v (Ne.symm hg), Outcome.value?, if_neg hg]
      rfl
  | skip => rfl
  | fail f => rfl

/-- A field holds the value that was put into it last, or else what it started with. -/
theorem get?_foldl_apply (os : List Outcome) (r : Record Value) (h : field ∈ r.names) :
    (os.foldl Outcome.apply r).get? field = (puts field os).getLast?.or (r.get? field) := by
  -- the last outcome has the last word, so outcomes are taken off the end
  induction os using List.reverseRecOn with
  | nil => rfl
  | append_singleton os o ih =>
    have hlast : puts field [o] = (o.value? field).toList := by
      unfold puts
      cases ho : o.value? field <;> simp [ho]
    rw [List.foldl_append, List.foldl_cons, List.foldl_nil,
      get?_apply _ _ (by rwa [names_foldl_apply]), ih, puts_append, hlast]
    cases o.value? field <;> simp

theorem puts_map_eq_nil {α : Type} {xs : List α} {out : α → Outcome} :
    puts field (xs.map out) = [] ↔ ∀ x ∈ xs, (out x).value? field = none := by
  rw [puts, List.filterMap_eq_nil_iff, List.forall_mem_map]

/-- Outcomes of others have nothing for a field. -/
theorem puts_filter {α : Type} (xs : List α) (out : α → Outcome) (mine : α → Bool)
    (h : ∀ x ∈ xs, mine x = false → (out x).value? field = none) :
    puts field ((xs.filter mine).map out) = puts field (xs.map out) := by
  unfold puts
  rw [List.filterMap_map, List.filterMap_map, List.filterMap_filter]
  refine List.filterMap_congr fun x hx => ?_
  cases hm : mine x with
  | true => rfl
  | false =>
    rw [Function.comp_apply, h x hx hm]
    rfl

end Puts

/-! ### Fillers of other fields -/

namespace Filler

variable {f : Filler} {field : String}

theorem value?_outcome (h : f.field ≠ field) (place : Place) (v : Except Fault Value) :
    (f.outcome place v).value? field = none := by
  cases v with
  | ok v => exact if_neg h
  | error e => rfl

theorem value?_fillText (h : f.field ≠ field) (place : Place) (s : String) :
    (f.fillText place s).value? field = none :=
  value?_outcome h place _

theorem value?_fillList (h : f.field ≠ field) (place : Place) (vs : List String) :
    (f.fillList place vs).value? field = none := by
  unfold fillList
  split
  · exact value?_outcome h place _
  · split
    · rfl
    · exact value?_fillText h place _

end Filler

theorem PathFiller.value?_fill {f : PathFiller} {field : String} (h : f.field ≠ field)
    (v : Option Value) : (f.fill v).value? field = none := by
  unfold fill
  split
  · rfl
  · exact Filler.value?_fillText h .path _
  · exact Filler.value?_outcome h .path _

theorem BodyFiller.value?_fill {f : BodyFiller} {field : String} (h : f.field ≠ field) (b : Binder)
    (r : Request) (body : Bytes) : (f.fill b r body).value? field = none := by
  unfold fill
  dsimp only
  split
  · rfl
  · split
    · exact if_neg h
    · rfl

theorem Binder.value?_path {f : PathFiller} {field : String} (h : f.field ≠ field) (b : Binder)
    (r : Request) (body : Bytes) : (b.outcome r body (.path f)).value? field = none := by
  rw [outcome, pathOutcome]
  split
  · exact PathFiller.value?_fill h _
  · split <;> rfl

/-- Only a name that is a parameter's puts a value into a field. -/
theorem NameUse.value?_outcome {use : NameUse} {field : String}
    (h : ∀ f, use = .parameter f → f.field ≠ field) (strict : Bool) (name : String)
    (vs : List String) : (use.outcome strict name vs).value? field = none := by
  cases use with
  | parameter f => exact Filler.value?_fillList (h f rfl) .query vs
  | key root k => rfl
  | unknown =>
    unfold outcome
    cases strict <;> rfl

/-! ### Parameters by their names -/

/-- Where names are not shared, looking one up finds the filler that has it. -/
theorem lookupFiller_eq_some {table : List Filler}
    (hu : ∀ f ∈ table, ∀ g ∈ table, f.name = g.name → f = g) {name : String} {f : Filler} :
    lookupFiller table name = some f ↔ f ∈ table ∧ f.name = name := by
  constructor
  · intro h
    unfold lookupFiller at h
    have hname := List.find?_some h
    exact ⟨List.mem_of_find?_eq_some h, of_decide_eq_true hname⟩
  · rintro ⟨hf, rfl⟩
    unfold lookupFiller
    cases hl : table.find? (·.name = f.name) with
    | none =>
      have := List.find?_eq_none.mp hl f hf
      simp at this
    | some g =>
      have hname := List.find?_some hl
      rw [hu g (List.mem_of_find?_eq_some hl) f hf (of_decide_eq_true hname)]

namespace Binder

/-- The fillers of the parameters that the query or a form may have. -/
def queryFillers (b : Binder) : List Filler :=
  b.fillers.query ++ b.fillers.deepObject ++ b.fillers.form ++ b.fillers.formDeepObject

/-- No two parameters of the query and of forms share a name. -/
def Distinct (b : Binder) : Prop :=
  ∀ f ∈ b.queryFillers, ∀ g ∈ b.queryFillers, f.name = g.name → f = g

/-- No parameter without keys has a name that is a key of a parameter with keys. -/
def Unbracketed (b : Binder) : Prop :=
  ∀ f ∈ b.fillers.query ++ b.fillers.form, ∀ root key,
    Urlencoded.bracketed? f.name = some (root, key) →
      ∀ g ∈ b.fillers.deepObject ++ b.fillers.formDeepObject, g.name ≠ root

theorem mem_queryFillers {env : Env} {ms : List (Member Ty)} {b : Binder}
    (hb : b.fillers = .declared env ms) {f : Filler} (hf : f ∈ b.queryFillers) :
    ∃ x ∈ (bindings env ms).filter (·.place = .query), x.filler = f := by
  rw [queryFillers, hb] at hf
  simp only [Fillers.declared, Fillers.ofBindings, Fillers.table, List.mem_append,
    List.mem_map, List.mem_filter, Binding.inQuery, Binding.inForm, Bool.and_eq_true] at hf
  rcases hf with ((⟨x, hx, rfl⟩ | ⟨x, hx, rfl⟩) | ⟨x, hx, rfl⟩) | ⟨x, hx, rfl⟩
  all_goals exact ⟨x, List.mem_filter.mpr ⟨hx.1, hx.2.1.1⟩, rfl⟩

/-- A compiled model shares no name among parameters. -/
theorem distinct_of_compile {env : Env} {t : Ty} {b : Binder}
    (hb : t.compile env = .ok (.binder b)) : b.Distinct := by
  have hfillers := Ty.fillers_of_compile hb
  obtain ⟨-, horder, -⟩ := Ty.compiled hb
  intro f hf g hg hname
  obtain ⟨x, hx, rfl⟩ := mem_queryFillers hfillers hf
  obtain ⟨y, hy, rfl⟩ := mem_queryFillers hfillers hg
  rw [List.inj_on_of_nodup_map (horder.distinct .query (by rintro s ⟨⟩)) hx hy hname]

variable {b : Binder} {field : String}

@[simp] theorem plainTable_only (part : NamePart) :
    (b.only field).plainTable part = (b.plainTable part).filter (·.field = field) := by
  cases part <;> rfl

@[simp] theorem keyedTable_only (part : NamePart) :
    (b.only field).keyedTable part = (b.keyedTable part).filter (·.field = field) := by
  cases part <;> rfl

theorem plainTable_subset {part : NamePart} {f : Filler} (hf : f ∈ b.plainTable part) :
    f ∈ b.queryFillers := by
  unfold queryFillers
  cases part with
  | query => exact List.mem_append_left _ (List.mem_append_left _ (List.mem_append_left _ hf))
  | form => exact List.mem_append_left _ (List.mem_append_right _ hf)

theorem keyedTable_subset {part : NamePart} {f : Filler} (hf : f ∈ b.keyedTable part) :
    f ∈ b.queryFillers := by
  unfold queryFillers
  cases part with
  | query => exact List.mem_append_left _ (List.mem_append_left _ (List.mem_append_right _ hf))
  | form => exact List.mem_append_right _ hf

/-! ### Names -/

section Names

variable (hd : b.Distinct)
include hd

theorem lookup_plain {part : NamePart} {name : String} {f : Filler} :
    lookupFiller (b.plainTable part) name = some f ↔ f ∈ b.plainTable part ∧ f.name = name :=
  lookupFiller_eq_some fun f hf g hg => hd f (plainTable_subset hf) g (plainTable_subset hg)

theorem lookup_keyed {part : NamePart} {name : String} {f : Filler} :
    lookupFiller (b.keyedTable part) name = some f ↔ f ∈ b.keyedTable part ∧ f.name = name :=
  lookupFiller_eq_some fun f hf g hg => hd f (keyedTable_subset hf) g (keyedTable_subset hg)

theorem distinct_only : (b.only field).Distinct := by
  intro f hf g hg hname
  have hsub : ∀ f ∈ (b.only field).queryFillers, f ∈ b.queryFillers := by
    intro f hf
    simp only [queryFillers, only, Fillers.only, ← List.filter_append] at hf
    exact List.mem_of_mem_filter hf
  exact hd f (hsub f hf) g (hsub g hg) hname

/-- The parameters of the one field are found under the same names. -/
theorem lookup_plain_only {part : NamePart} {name : String} {f : Filler} :
    lookupFiller ((b.only field).plainTable part) name = some f ↔
      lookupFiller (b.plainTable part) name = some f ∧ f.field = field := by
  rw [lookup_plain (distinct_only hd), lookup_plain hd, plainTable_only, List.mem_filter,
    decide_eq_true_eq]
  tauto

theorem lookup_keyed_only {part : NamePart} {name : String} {f : Filler} :
    lookupFiller ((b.only field).keyedTable part) name = some f ↔
      lookupFiller (b.keyedTable part) name = some f ∧ f.field = field := by
  rw [lookup_keyed (distinct_only hd), lookup_keyed hd, keyedTable_only, List.mem_filter,
    decide_eq_true_eq]
  tauto

end Names

/-- A name does for the field what it does for the model. -/
theorem value?_usage_only (hd : b.Distinct) (part : NamePart) (name : String) (vs : List String) :
    (((b.only field).usage part name).outcome b.strict name vs).value? field =
      ((b.usage part name).outcome b.strict name vs).value? field := by
  by_cases hmine : ∃ f, lookupFiller ((b.only field).plainTable part) name = some f
  · obtain ⟨f, hf⟩ := hmine
    rw [usage_eq_parameter.mpr hf, usage_eq_parameter.mpr ((lookup_plain_only hd).mp hf).1]
  · rw [NameUse.value?_outcome, NameUse.value?_outcome]
    · intro f hf hfield
      exact hmine ⟨f, (lookup_plain_only hd).mpr ⟨usage_eq_parameter.mp hf, hfield⟩⟩
    · intro f hf
      exact absurd ⟨f, usage_eq_parameter.mp hf⟩ hmine

/-! ### Keys -/

section Keys

variable (hd : b.Distinct)
include hd

/-- The filler of a parameter with keys is the same for the query and for a form. -/
theorem deepFiller?_of_lookup {part : NamePart} {root : String} {f : Filler}
    (h : lookupFiller (b.keyedTable part) root = some f) : b.deepFiller? root = some f := by
  cases part with
  | query =>
    have hquery : lookupFiller b.fillers.deepObject root = some f := h
    rw [deepFiller?, hquery]
    rfl
  | form =>
    have hform : lookupFiller b.fillers.formDeepObject root = some f := h
    rw [deepFiller?, hform]
    cases hquery : lookupFiller b.fillers.deepObject root with
    | none => rfl
    | some g =>
      -- both tables have the root, so it is one parameter that the query and a form may fill
      have hquery : lookupFiller (b.keyedTable .query) root = some g := hquery
      obtain ⟨hg, hgname⟩ := (lookup_keyed hd).mp hquery
      obtain ⟨hf, hfname⟩ := (lookup_keyed hd).mp h
      rw [hd g (keyedTable_subset hg) f (keyedTable_subset hf) (hgname.trans hfname.symm)]
      rfl

theorem deepFiller?_only {root : String} {f : Filler} :
    (b.only field).deepFiller? root = some f ↔ b.deepFiller? root = some f ∧ f.field = field := by
  constructor
  · intro h
    obtain ⟨part, hpart⟩ :
        ∃ part, lookupFiller ((b.only field).keyedTable part) root = some f := by
      rcases Option.or_eq_some_iff.mp h with hq | ⟨-, hf⟩
      · exact ⟨.query, hq⟩
      · exact ⟨.form, hf⟩
    obtain ⟨hf, hfield⟩ := (lookup_keyed_only hd).mp hpart
    exact ⟨deepFiller?_of_lookup hd hf, hfield⟩
  · rintro ⟨h, hfield⟩
    obtain ⟨part, hpart⟩ : ∃ part, lookupFiller (b.keyedTable part) root = some f := by
      rcases Option.or_eq_some_iff.mp h with hq | ⟨-, hf⟩
      · exact ⟨.query, hq⟩
      · exact ⟨.form, hf⟩
    exact deepFiller?_of_lookup (distinct_only hd) ((lookup_keyed_only hd).mpr ⟨hpart, hfield⟩)

end Keys

/-- Whether a parameter with keys is one of a field. -/
def owns (b : Binder) (field root : String) : Bool := (b.deepFiller? root).any (·.field = field)

theorem isSome_lookup_keyed_only (hd : b.Distinct) {part : NamePart} {root : String} :
    (lookupFiller ((b.only field).keyedTable part) root).isSome ↔
      (lookupFiller (b.keyedTable part) root).isSome ∧ b.owns field root := by
  constructor
  · intro h
    obtain ⟨f, hf⟩ := Option.isSome_iff_exists.mp h
    obtain ⟨hf, hfield⟩ := (lookup_keyed_only hd).mp hf
    refine ⟨Option.isSome_iff_exists.mpr ⟨f, hf⟩, ?_⟩
    rw [owns, deepFiller?_of_lookup hd hf]
    exact decide_eq_true hfield
  · rintro ⟨h, howns⟩
    obtain ⟨f, hf⟩ := Option.isSome_iff_exists.mp h
    rw [owns, deepFiller?_of_lookup hd hf] at howns
    exact Option.isSome_iff_exists.mpr
      ⟨f, (lookup_keyed_only hd).mpr ⟨hf, of_decide_eq_true howns⟩⟩

/-- A name waits for the keys of the field's parameter just when it does so for the model. Here
brackets in the names of other parameters would be in the way. -/
theorem waiting?_only (hd : b.Distinct) (hu : b.Unbracketed) (part : NamePart) (name : String)
    (vs : List String) :
    ((b.only field).usage part name).waiting? vs =
      ((b.usage part name).waiting? vs).filter fun e => b.owns field e.root := by
  ext e
  rw [Option.filter_eq_some_iff, usage, usage, NameUse.waiting?_eq_some, NameUse.waiting?_eq_some,
    isSome_lookup_keyed_only hd]
  constructor
  · rintro ⟨-, hname, ⟨hkeyed, howns⟩, hvs⟩
    refine ⟨⟨?_, hname, hkeyed, hvs⟩, howns⟩
    -- a parameter without keys of this name would have brackets in it
    rw [Option.eq_none_iff_forall_ne_some]
    intro f hf
    obtain ⟨hplain, rfl⟩ := (lookup_plain hd).mp hf
    obtain ⟨g, hg⟩ := Option.isSome_iff_exists.mp hkeyed
    obtain ⟨hg, hroot⟩ := (lookup_keyed hd).mp hg
    refine hu f ?_ e.root e.key hname g ?_ hroot
    · cases part with
      | query => exact List.mem_append_left _ hplain
      | form => exact List.mem_append_right _ hplain
    · cases part with
      | query => exact List.mem_append_left _ hg
      | form => exact List.mem_append_right _ hg
  · rintro ⟨⟨hplain, hname, hkeyed, hvs⟩, howns⟩
    refine ⟨?_, hname, ⟨hkeyed, howns⟩, hvs⟩
    rw [Option.eq_none_iff_forall_ne_some] at hplain ⊢
    intro f hf
    exact hplain f ((lookup_plain_only hd).mp hf).1

/-! ### Forms -/

section Forms

variable {r : Request} {body : Bytes}

/-- A form that the field's fillers need is the one that the model reads. -/
theorem formPart_only (h : (b.only field).fillers.needsForm = true) :
    (b.only field).formPart r body = b.formPart r body := by
  have hneeds : b.fillers.needsForm = true := by
    simp only [only, Fillers.only, Fillers.needsForm, Bool.or_eq_true, Bool.not_eq_true',
      List.isEmpty_eq_false_iff] at h ⊢
    exact h.imp (fun h hnil => h (by rw [hnil]; rfl)) (fun h hnil => h (by rw [hnil]; rfl))
  rw [formPart, formPart, h, hneeds]

theorem formPart_of_not_needsForm (h : b.fillers.needsForm = false) :
    b.formPart r body = .ok [] := by
  rw [formPart, h]
  rfl

theorem plainTable_of_not_needsForm (h : b.fillers.needsForm = false) :
    b.plainTable .form = [] := by
  simp only [Fillers.needsForm, Bool.or_eq_false_iff, Bool.not_eq_false', List.isEmpty_iff] at h
  exact h.1

theorem keyedTable_of_not_needsForm (h : b.fillers.needsForm = false) :
    b.keyedTable .form = [] := by
  simp only [Fillers.needsForm, Bool.or_eq_false_iff, Bool.not_eq_false', List.isEmpty_iff] at h
  exact h.2

theorem names_of_not_needsForm (h : b.fillers.needsForm = false) : b.names r body .form = [] := by
  rw [names, items, formPart_of_not_needsForm h]
  rfl

theorem items_only {part : NamePart} (h : part = .form → (b.only field).fillers.needsForm = true) :
    (b.only field).items r body part = b.items r body part := by
  cases part with
  | query => rfl
  | form => rw [items, items, formPart_only (h rfl)]

/-- The keys that wait for the field's parameter are those that wait for it in the model. -/
theorem keyEntries_only (hd : b.Distinct) (hu : b.Unbracketed) (part : NamePart) :
    (b.only field).keyEntries r body part =
      (b.keyEntries r body part).filter fun e => b.owns field e.root := by
  by_cases h : part = .form → (b.only field).fillers.needsForm = true
  · unfold keyEntries names values
    rw [items_only h, List.filter_filterMap]
    refine List.filterMap_congr fun name _ => ?_
    exact waiting?_only hd hu part name _
  · -- the field needs no form, so it has no parameter that takes keys from one
    obtain ⟨rfl, hneeds⟩ := Classical.not_imp.mp h
    rw [Bool.not_eq_true] at hneeds
    have hnil : (b.only field).keyEntries r body .form = [] := by
      rw [keyEntries, names_of_not_needsForm hneeds]
      rfl
    rw [hnil, eq_comm, List.filter_eq_nil_iff]
    intro e he howns
    obtain ⟨name, -, -, -, hkeyed, -⟩ := mem_keyEntries.mp he
    have := (isSome_lookup_keyed_only hd).mpr ⟨hkeyed, howns⟩
    rw [keyedTable_of_not_needsForm hneeds] at this
    cases this

theorem allEntries_only (hd : b.Distinct) (hu : b.Unbracketed) :
    (b.only field).allEntries r body =
      (b.allEntries r body).filter fun e => b.owns field e.root := by
  rw [allEntries, allEntries, keyEntries_only hd hu, keyEntries_only hd hu, List.filter_append]

theorem roots_only (hd : b.Distinct) (hu : b.Unbracketed) :
    (b.only field).roots r body = (b.roots r body).filter (b.owns field) := by
  rw [roots, roots, allEntries_only hd hu, ← eraseDups_filter, List.filter_map]
  rfl

/-- The field's parameter has the same keys with the same texts. -/
theorem keysOf_only (hd : b.Distinct) (hu : b.Unbracketed) {root : String}
    (howns : b.owns field root = true) :
    keysOf ((b.only field).allEntries r body) root = keysOf (b.allEntries r body) root := by
  rw [keysOf, keysOf, allEntries_only hd hu, List.filter_filter]
  congr 1
  refine List.filter_congr fun e _ => ?_
  -- entries of other roots are left out by both sides
  by_cases he : e.root = root
  · rw [he, howns]
    simp
  · simp [he]

end Forms

/-! ### Schedules -/

section Schedules

variable {r : Request} {body : Bytes}

/-- What the names of a part of the request put into the field. -/
theorem puts_names_only (r : Request) (body : Bytes) (hd : b.Distinct) (part : NamePart)
    (h : part = .form → (b.only field).fillers.needsForm = true) :
    puts field (((b.only field).names r body part).map fun name =>
        (b.only field).outcome r body (.name part name)) =
      puts field ((b.names r body part).map fun name => b.outcome r body (.name part name)) := by
  unfold names puts
  rw [items_only h, List.filterMap_map, List.filterMap_map]
  refine List.filterMap_congr fun name _ => ?_
  rw [Function.comp_apply, Function.comp_apply, outcome, outcome, values, values, items_only h]
  exact value?_usage_only hd part name _

theorem puts_formSteps_only (hd : b.Distinct) :
    puts field (((b.only field).formSteps r body).map ((b.only field).outcome r body)) =
      puts field ((b.formSteps r body).map (b.outcome r body)) := by
  cases hneeds : (b.only field).fillers.needsForm with
  | true =>
    have hnames := puts_names_only r body hd .form fun _ => hneeds
    unfold formSteps
    rw [formPart_only hneeds]
    cases b.formPart r body with
    | ok items =>
      simp only [List.map_map]
      exact hnames
    | error f => rfl
  | false =>
    -- the fillers of the field need no form, so nothing in the form is for the field
    have hnone : ∀ name vs,
        ((b.usage .form name).outcome b.strict name vs).value? field = none := by
      intro name vs
      rw [← value?_usage_only hd]
      refine NameUse.value?_outcome (fun f hf => ?_) _ _ _
      rw [usage_eq_parameter, plainTable_of_not_needsForm hneeds] at hf
      cases hf
    have hleft : (b.only field).formSteps r body = [] := by
      rw [formSteps, formPart_of_not_needsForm hneeds, names_of_not_needsForm hneeds]
      rfl
    rw [hleft]
    unfold formSteps
    cases b.formPart r body with
    | error f => rfl
    | ok items =>
      rw [List.map_nil, List.map_map, eq_comm]
      exact puts_map_eq_nil.mpr fun name _ => hnone name _

theorem outcome_keys_only (hd : b.Distinct) (hu : b.Unbracketed) {root : String}
    (howns : b.owns field root = true) :
    (b.only field).outcome r body (.keys root) = b.outcome r body (.keys root) := by
  cases hf : b.deepFiller? root with
  | none =>
    rw [owns, hf] at howns
    cases howns
  | some f =>
    have hfield : f.field = field := by
      rw [owns, hf] at howns
      exact of_decide_eq_true howns
    have hf' := (deepFiller?_only hd).mpr ⟨hf, hfield⟩
    simp only [outcome, hf, hf', keysOf_only hd hu howns]

theorem puts_keys_only (hd : b.Distinct) (hu : b.Unbracketed) :
    puts field (((b.only field).roots r body).map fun root =>
        (b.only field).outcome r body (.keys root)) =
      puts field ((b.roots r body).map fun root => b.outcome r body (.keys root)) := by
  rw [roots_only hd hu]
  have hsame : ((b.roots r body).filter (b.owns field)).map (fun root =>
      (b.only field).outcome r body (.keys root)) =
        ((b.roots r body).filter (b.owns field)).map fun root => b.outcome r body (.keys root) :=
    List.map_congr_left fun root hroot =>
      outcome_keys_only hd hu (List.mem_filter.mp hroot).2
  rw [hsame]
  -- what is left out belongs to other fields
  refine puts_filter _ _ _ fun root _ howns => ?_
  rw [owns] at howns
  simp only [outcome]
  cases hf : b.deepFiller? root with
  | none => rfl
  | some f =>
    rw [hf] at howns
    exact Filler.value?_outcome (of_decide_eq_false howns) .query _

/-- **The one field is filled as before.** Without the tags of the other fields a request puts the
same values into a field, in the same order. -/
theorem puts_only (hd : b.Distinct) (hu : b.Unbracketed) :
    puts field (((b.only field).schedule r body).map ((b.only field).outcome r body)) =
      puts field ((b.schedule r body).map (b.outcome r body)) := by
  have hbody : puts field ((b.only field).fillers.body.toList.map fun f =>
      (b.only field).outcome r body (.body f)) =
        puts field (b.fillers.body.toList.map fun f => b.outcome r body (.body f)) := by
    have hfilter : (b.only field).fillers.body.toList =
        b.fillers.body.toList.filter (·.field = field) := by
      simp only [only, Fillers.only]
      cases b.fillers.body with
      | none => rfl
      | some f => by_cases hf : f.field = field <;> simp [Option.filter, hf]
    rw [hfilter]
    exact puts_filter _ _ _ fun f _ hf => BodyFiller.value?_fill (of_decide_eq_false hf) b r body
  have hpath : puts field ((b.only field).fillers.path.map fun f =>
      (b.only field).outcome r body (.path f)) =
        puts field (b.fillers.path.map fun f => b.outcome r body (.path f)) :=
    puts_filter _ _ _ fun f _ hf => value?_path (of_decide_eq_false hf) b r body
  have hheader : puts field ((b.only field).fillers.header.map fun f =>
      (b.only field).outcome r body (.header f)) =
        puts field (b.fillers.header.map fun f => b.outcome r body (.header f)) := by
    refine puts_filter _ _ _ fun f _ hf => ?_
    simp only [outcome]
    split
    · rfl
    · exact Filler.value?_fillList (of_decide_eq_false hf) .header _
  have hcookie : puts field ((b.only field).fillers.cookie.map fun f =>
      (b.only field).outcome r body (.cookie f)) =
        puts field (b.fillers.cookie.map fun f => b.outcome r body (.cookie f)) := by
    refine puts_filter _ _ _ fun f _ hf => ?_
    simp only [outcome]
    split
    · rfl
    · exact Filler.value?_fillText (of_decide_eq_false hf) .cookie _
  have hquery : puts field (((b.only field).names r body .query).map fun name =>
      (b.only field).outcome r body (.name .query name)) =
        puts field ((b.names r body .query).map fun name =>
          b.outcome r body (.name .query name)) :=
    puts_names_only r body hd .query (by rintro ⟨⟩)
  simp only [schedule, List.map_append, List.map_map, Function.comp_def, puts_append]
  rw [hbody, hpath, hheader, hquery, puts_formSteps_only hd, puts_keys_only hd hu, hcookie]

/-- A step for the one field is a step of the model, or one that has nothing to do, or a name that
nothing receives any more. -/
theorem step_only (hd : b.Distinct) (hu : b.Unbracketed) {s : Step}
    (hs : s ∈ (b.only field).schedule r body) :
    (s ∈ b.schedule r body ∧ (b.only field).outcome r body s = b.outcome r body s) ∨
      (b.only field).outcome r body s = .skip ∨
      ∃ part name, s = .name part name ∧ (b.only field).usage part name = .unknown := by
  rw [mem_schedule] at hs ⊢
  cases s with
  | body f =>
    left
    obtain ⟨hf, -⟩ := Option.filter_eq_some_iff.mp (Option.mem_toList.mp hs)
    exact ⟨Option.mem_toList.mpr hf, rfl⟩
  | path f => exact .inl ⟨(List.mem_filter.mp hs).1, rfl⟩
  | header f => exact .inl ⟨(List.mem_filter.mp hs).1, rfl⟩
  | cookie f => exact .inl ⟨(List.mem_filter.mp hs).1, rfl⟩
  | brokenForm f =>
    left
    cases hneeds : (b.only field).fillers.needsForm with
    | true =>
      dsimp only at hs
      rw [formPart_only hneeds] at hs
      exact ⟨hs, rfl⟩
    | false =>
      dsimp only at hs
      rw [formPart_of_not_needsForm hneeds] at hs
      cases hs
  | keys root =>
    left
    dsimp only at hs
    rw [roots_only hd hu, List.mem_filter] at hs
    exact ⟨hs.1, outcome_keys_only hd hu hs.2⟩
  | name part n =>
    -- a form that is not read has no names
    have hneeds : part = .form → (b.only field).fillers.needsForm = true := by
      rintro rfl
      by_contra hneeds
      dsimp only at hs
      rw [names_of_not_needsForm (Bool.eq_false_iff.mpr hneeds)] at hs
      cases hs
    have hnames : n ∈ b.names r body part := by
      dsimp only at hs
      rw [names, items_only hneeds] at hs
      exact hs
    cases huse : (b.only field).usage part n with
    | parameter f =>
      have hf := ((lookup_plain_only hd).mp (usage_eq_parameter.mp huse)).1
      left
      refine ⟨hnames, ?_⟩
      rw [outcome, outcome, huse, usage_eq_parameter.mpr hf, values, values, items_only hneeds]
      rfl
    | key root k =>
      right
      left
      rw [outcome, huse]
      rfl
    | unknown => exact .inr (.inr ⟨part, n, rfl, huse⟩)

/-- Some name in the request is one that no field of the model receives. -/
def HasUnknown (b : Binder) (r : Request) (body : Bytes) : Prop :=
  ∃ part, ∃ name ∈ b.names r body part, b.usage part name = .unknown

/-- Where no step of the model fails, the one field's steps fail only on names that the model
receives and the field does not. -/
theorem firstFault?_only (hd : b.Distinct) (hu : b.Unbracketed)
    (hnone : b.firstFault? r body = none) :
    (b.only field).firstFault? r body = none ↔
      ¬ (b.strict = true ∧ (b.only field).HasUnknown r body) := by
  constructor
  · rintro h ⟨hstrict, part, name, hname, huse⟩
    have hstep : Step.name part name ∈ (b.only field).schedule r body := mem_schedule.mpr hname
    refine firstFault?_eq_none.mp h _ hstep (.unknownParameter name false) ?_
    have hstrict' : (b.only field).strict = true := hstrict
    rw [Fails, outcome, huse, NameUse.outcome, hstrict']
    rfl
  · intro h
    refine firstFault?_eq_none.mpr fun s hs f hf => ?_
    rw [Fails] at hf
    rcases step_only hd hu hs with ⟨hmem, hsame⟩ | hskip | ⟨part, name, rfl, huse⟩
    · rw [hsame] at hf
      exact firstFault?_eq_none.mp hnone s hmem f hf
    · rw [hskip] at hf
      cases hf
    · have hstrict : (b.only field).strict = false := by
        by_contra hstrict
        exact h ⟨Bool.eq_true_of_not_eq_false hstrict, part, name, mem_schedule.mp hs, huse⟩
      rw [outcome, huse, NameUse.outcome, hstrict] at hf
      cases hf

theorem readable_only (h : b.Readable r) : (b.only field).Readable r :=
  ⟨fun f hf => h.lookups f (List.mem_filter.mp hf).1,
    fun f hf => h.headers f (List.mem_filter.mp hf).1⟩

/-- Nothing is put into a field without fillers. -/
theorem puts_of_only_eq (hd : b.Distinct) (hu : b.Unbracketed) (h : b.fillers.only field = {}) :
    puts field ((b.schedule r body).map (b.outcome r body)) = [] := by
  have hfillers : (b.only field).fillers = {} := h
  have htables : ∀ part, (b.only field).plainTable part = [] := by
    intro part
    cases part <;> rw [plainTable, hfillers]
  rw [← puts_only hd hu, puts_map_eq_nil]
  intro s hs
  rw [mem_schedule] at hs
  cases s with
  | body f | path f | header f | cookie f =>
    simp only [hfillers] at hs
    cases hs
  | brokenForm f => rfl
  | name part n =>
    refine NameUse.value?_outcome (fun f hf => ?_) _ _ _
    rw [usage_eq_parameter, htables] at hf
    cases hf
  | keys root =>
    have hnone : (b.only field).deepFiller? root = none := by
      rw [deepFiller?, hfillers]
      rfl
    simp only [outcome, hnone]
    rfl

end Schedules

end Binder

/-! ### Models that are left -/

/-- The model that is left by resolving a request, whole or in part. -/
def leftModel? : Except ResolveError (Record Value) → Option (Record Value)
  | .ok model => some model
  | .error (.bind e) => some e.model
  | .error (.escaped _) => none

namespace Binder

variable {env : Env} {t : Ty} {b : Binder} {r : Request} {body : Bytes} {model : Record Value}

/-- A model is left when nothing but a step has failed, and then the whole schedule has filled it.
-/
theorem leftModel?_resolve :
    leftModel? (b.resolve r body) = some model ↔
      ∃ new, b.head.newInstance b.members = .ok new ∧ b.Readable r ∧
        (b.firstFault? r body = none ∨ ∃ path, r.addressPath = .ok path) ∧
        model = b.filled r body new := by
  cases hnew : b.head.newInstance b.members with
  | error f =>
    rw [resolve, hnew]
    constructor
    · rintro ⟨⟩
    · rintro ⟨new, hnew, -⟩
      cases hnew
  | ok new =>
    by_cases hread : b.Readable r
    · rw [resolve_eq hread hnew]
      cases b.firstFault? r body with
      | none => simp [leftModel?, hread, eq_comm]
      | some f =>
        cases r.addressPath with
        | error f' => simp [leftModel?, bind, Except.bind, Except.mapError]
        | ok path => simp [leftModel?, bind, Except.bind, Except.mapError, hread, eq_comm]
    · cases hout : b.outcomes r body with
      | error f =>
        rw [resolve, hnew, hout]
        constructor
        · rintro ⟨⟩
        · rintro ⟨_, -, h, -⟩
          exact absurd h hread
      | ok os => exact absurd (readable_of_outcomes hout) hread

/-- A field that the schedule puts nothing into keeps what it has in a new instance. -/
theorem get?_filled_of_puts_eq_nil {new : Record Value} {field : String} (h : field ∈ new.names)
    (hnil : puts field ((b.schedule r body).map (b.outcome r body)) = []) :
    (b.filled r body new).get? field = new.get? field := by
  rw [filled, get?_foldl_apply _ _ h, hnil]
  rfl

theorem get?_filled_only {new : Record Value} {field : String} (hd : b.Distinct)
    (hu : b.Unbracketed) (h : field ∈ new.names) :
    ((b.only field).filled r body new).get? field = (b.filled r body new).get? field := by
  rw [filled, filled, get?_foldl_apply _ _ h, get?_foldl_apply _ _ h, puts_only hd hu]

theorem newInstance_only {new : Record Value} {field : String}
    (hnew : b.head.newInstance b.members = .ok new) :
    (b.only field).head.newInstance (b.only field).members = .ok new := by
  rw [← hnew]
  exact newInstance_onlyTagged

/-- With one tagged field a request leaves the same in that field, unless it has to be refused for
a name that nothing receives any more and the log cannot be written. -/
theorem leftModel?_only (hd : b.Distinct) (hu : b.Unbracketed)
    (hmodel : leftModel? (b.resolve r body) = some model) {m : Member Ty} (hm : m ∈ b.members)
    (hcalm : ¬ (b.strict = true ∧ (b.only m.name).HasUnknown r body ∧
      ∃ f, r.addressPath = .error f)) :
    ∃ model', leftModel? ((b.only m.name).resolve r body) = some model' ∧
      model'.get? m.name = model.get? m.name := by
  obtain ⟨new, hnew, hread, hlog, rfl⟩ := leftModel?_resolve.mp hmodel
  have hmem := ModelHead.mem_names_newInstance hnew hm
  refine ⟨_, leftModel?_resolve.mpr ⟨new, newInstance_only hnew, readable_only hread, ?_, rfl⟩,
    get?_filled_only hd hu hmem⟩
  cases haddress : r.addressPath with
  | ok path => exact .inr ⟨path, rfl⟩
  | error f =>
    -- without an address the model has been left by a schedule that nothing failed in
    left
    rcases hlog with hnone | ⟨path, hpath⟩
    · exact (firstFault?_only hd hu hnone).mpr fun h => hcalm ⟨h.1, h.2, f, haddress⟩
    · rw [haddress] at hpath
      cases hpath

/-- Otherwise the fault of the log escapes. -/
theorem resolve_only_eq_escaped (hd : b.Distinct) (hu : b.Unbracketed)
    (hmodel : leftModel? (b.resolve r body) = some model) {field : String}
    (hstrict : b.strict = true) (hunknown : (b.only field).HasUnknown r body)
    {f : Fault} (haddress : r.addressPath = .error f) :
    (b.only field).resolve r body = .error (.escaped f) := by
  obtain ⟨new, hnew, hread, hlog, rfl⟩ := leftModel?_resolve.mp hmodel
  have hnone : b.firstFault? r body = none := by
    rcases hlog with hnone | ⟨path, hpath⟩
    · exact hnone
    · rw [haddress] at hpath
      cases hpath
  cases hfirst : (b.only field).firstFault? r body with
  | none => exact absurd ⟨hstrict, hunknown⟩ ((firstFault?_only hd hu hnone).mp hfirst)
  | some f' =>
    rw [resolve_of_firstFault? (readable_only hread) (newInstance_only hnew) hfirst, haddress]

/-- A field that nothing is put into holds in the end what it starts with. -/
theorem start_of_puts_eq_nil (hnames : (b.members.map (·.name)).Nodup)
    (hmodel : leftModel? (b.resolve r body) = some model) {m : Member Ty} (hm : m ∈ b.members)
    (hnil : puts m.name ((b.schedule r body).map (b.outcome r body)) = []) :
    m.start = .ok (model.get? m.name) := by
  obtain ⟨new, hnew, -, -, rfl⟩ := leftModel?_resolve.mp hmodel
  rw [get?_filled_of_puts_eq_nil (ModelHead.mem_names_newInstance hnew hm) hnil]
  exact ModelHead.get?_newInstance hnew hnames hm

/-- **Fields are filled on their own.** Let no parameter without keys bear the name of a key of
another parameter, and let resolving a request leave a model, whole or in part. Then a field that is
filled from the request holds what it holds when the tags of all other fields are removed, with one
exception: a strict model with one tagged field may meet names that nothing receives any more, and
when the address cannot be read, as when the query is no UTF-8, the log cannot be written and no model
is left. Every other field, and every field that no step has a value for, holds what it has in a new
instance. -/
theorem field_independent (hb : t.compile env = .ok (.binder b))
    (hnames : (b.members.map (·.name)).Nodup) (hu : b.Unbracketed)
    (hmodel : leftModel? (b.resolve r body) = some model) :
    (∀ m ∈ b.members, m.IsFilled env.options.tagKey →
      ∃ b', (Ty.model b.head (onlyTagged m.name b.members)).compile env = .ok (.binder b') ∧
        (¬ (env.options.strict = true ∧ b'.HasUnknown r body ∧ ∃ f, r.addressPath = .error f) →
            ∃ model', leftModel? (b'.resolve r body) = some model' ∧
              model'.get? m.name = model.get? m.name) ∧
          (env.options.strict = true ∧ b'.HasUnknown r body →
            ∀ f, r.addressPath = .error f → b'.resolve r body = .error (.escaped f))) ∧
      (∀ m ∈ b.members, ¬ m.IsFilled env.options.tagKey →
        m.start = .ok (model.get? m.name)) ∧
      ∀ m ∈ b.members, (∀ s ∈ b.schedule r body, ∀ v, b.outcome r body s ≠ .put m.name v) →
        m.start = .ok (model.get? m.name) := by
  have hd := distinct_of_compile hb
  obtain ⟨hdeclared, horder, -⟩ := Ty.compiled hb
  have hstrict : env.options.strict = b.strict := by
    rw [hdeclared]
    rfl
  refine ⟨fun m hm htagged => ?_, fun m hm huntagged => ?_, fun m hm hnone => ?_⟩
  · rw [hstrict]
    refine ⟨b.only m.name, compile_only hb hm htagged, leftModel?_only hd hu hmodel hm, ?_⟩
    rintro ⟨hs, hunknown⟩ f haddress
    exact resolve_only_eq_escaped hd hu hmodel hs hunknown haddress
  · refine start_of_puts_eq_nil hnames hmodel hm (puts_of_only_eq hd hu ?_)
    rw [Ty.fillers_of_compile hb]
    exact Fillers.only_of_not_isFilled horder.one_body hnames hm huntagged
  · refine start_of_puts_eq_nil hnames hmodel hm (puts_map_eq_nil.mpr fun s hs => ?_)
    cases ho : b.outcome r body s with
    | put g v =>
      refine if_neg ?_
      rintro rfl
      exact hnone s hs v ho
    | skip => rfl
    | fail f => rfl

end Binder

theorem probe_page_alone : ∃ b' model',
    (Ty.model { cls := { name := "Probe" } } (onlyTagged "page" probeMembers)).compile ⟨{}, []⟩ =
        .ok (.binder b') ∧
      leftModel? (b'.resolve probeRequest []) = some model' ∧
      model'.get? "page" = some (.int 2) := by
  have hb : probe.compile ⟨{}, []⟩ =
      .ok (.binder (.declared ⟨{}, []⟩ { cls := { name := "Probe" } } probeMembers)) := rfl
  have hmodel : leftModel? ((Binder.declared ⟨{}, []⟩ { cls := { name := "Probe" } }
      probeMembers).resolve probeRequest []) = some _ := rfl
  obtain ⟨hfilled, -, -⟩ := Binder.field_independent hb (by decide)
    (by rintro f hf root key h g ⟨⟩) hmodel
  obtain ⟨b', hb', hcalm, -⟩ := hfilled _ (.tail _ (.head _)) ⟨"query", _, rfl, rfl, by decide⟩
  obtain ⟨model', hmodel', hpage⟩ := hcalm (by rintro ⟨⟨⟩, -⟩)
  exact ⟨b', model', hb', hmodel', hpage.trans rfl⟩

/-- A text and a number from the query. -/
def labelledMembers : List (Member Ty) := [
  { name := "label", type := .scalar { kind := .text }, tags := [(defaultTagKey, "query")] },
  { name := "page", type := .scalar { kind := .int }, tags := [(defaultTagKey, "query")] }]

/-- The label is a byte that is no UTF-8. The model takes it; with the page alone there is nothing
that receives it, and then the log cannot be written. -/
theorem labelled_page_escapes :
    ¬ ∀ (env : Env) (t : Ty) (b : Binder) (r : Request) (body : Bytes) (model : Record Value),
      t.compile env = .ok (.binder b) → (b.members.map (·.name)).Nodup → b.Unbracketed →
      leftModel? (b.resolve r body) = some model → r.ReadsPairs → r.ReadsAddress →
      ∀ m ∈ b.members, m.IsFilled env.options.tagKey →
        ∃ b' model', (Ty.model b.head (onlyTagged m.name b.members)).compile env =
            .ok (.binder b') ∧
          leftModel? (b'.resolve r body) = some model' ∧
            model'.get? m.name = model.get? m.name := by
  intro hall
  have hb : (Ty.model { cls := { name := "Labelled" } } labelledMembers).compile
      ⟨{ strict := true }, []⟩ = .ok (.binder (.declared ⟨{ strict := true }, []⟩ _ _)) := rfl
  obtain ⟨b', model', hb', hmodel', -⟩ := hall _ _ _
    { query := Text.utf8 "label=" ++ [0xFF] ++ Text.utf8 "&page=1" } [] _ hb (by decide)
    (by rintro f hf root key h g ⟨⟩) rfl (Request.readsPairs_standard rfl)
    (Request.readsAddress_standard rfl) _ (.tail _ (.head _)) ⟨"query", _, rfl, rfl, by decide⟩
  have hpage : (Ty.model { cls := { name := "Labelled" } }
      (onlyTagged "page" labelledMembers)).compile ⟨{ strict := true }, []⟩ =
        .ok (.binder (.declared ⟨{ strict := true }, []⟩ _ _)) := rfl
  cases hb'.symm.trans hpage
  cases hmodel'

end ParamBinding
