import Mathlib.Data.List.Nodup
import ParamBinding.Proofs.Declaration
import ParamBinding.Proofs.Instance

/-!
# Models with one tagged field

A model whose tags are removed from all fields but one (`onlyTagged`) is compiled as well as the
model itself, and its tables are those of the model with only the fillers of that field left in them
(`Binder.compile_only`). New instances of both are the same.
-/

namespace ParamBinding

/-- The fields of a model without the tags of all but one of them. -/
def onlyTagged (field : String) (ms : List (Member Ty)) : List (Member Ty) :=
  ms.map fun m => if m.name = field then m else { m with tags := [] }

namespace Fillers

/-- The fillers of one field. -/
def only (fs : Fillers) (field : String) : Fillers where
  body := fs.body.filter (·.field = field)
  path := fs.path.filter (·.field = field)
  header := fs.header.filter (·.field = field)
  cookie := fs.cookie.filter (·.field = field)
  query := fs.query.filter (·.field = field)
  deepObject := fs.deepObject.filter (·.field = field)
  form := fs.form.filter (·.field = field)
  formDeepObject := fs.formDeepObject.filter (·.field = field)

end Fillers

/-- The binder that fills one field and leaves the others alone. -/
def Binder.only (b : Binder) (field : String) : Binder :=
  { b with members := onlyTagged field b.members, fillers := b.fillers.only field }

/-! ### Fields -/

namespace Member

variable {env : Env} {m : Member Ty}

/-- A binding is for the field that it belongs to. -/
theorem field_of_binding? {x : Binding} (h : m.binding? env = some x) :
    x.filler.field = m.name := by
  obtain ⟨tag, -, h⟩ := Option.bind_eq_some_iff.mp h
  split at h
  · cases h
  · obtain ⟨u, -, rfl⟩ := Option.map_eq_some_iff.mp h
    rfl

theorem field_of_body? {key : String} {f : BodyFiller} (h : m.body? key = some f) :
    f.field = m.name := by
  obtain ⟨tag, -, h⟩ := Option.bind_eq_some_iff.mp h
  split at h
  · cases h
    rfl
  · cases h

/-- A field is filled from the request: it has a tag, which does not say that the field is to be
left alone. -/
def IsFilled (key : String) (m : Member Ty) : Prop :=
  ∃ text tag, m.tag? key = some text ∧ Tag.read false text = .ok tag ∧ tag.base ≠ "-"

end Member

/-- Every field with a filler is filled from the request. -/
theorem Member.isFilled_of_binding? {env : Env} {m : Member Ty} {x : Binding}
    (h : m.binding? env = some x) : m.IsFilled env.options.tagKey := by
  obtain ⟨tag, htag, h⟩ := Option.bind_eq_some_iff.mp h
  obtain ⟨text, ht, hr⟩ := Member.ownTag?_eq_some.mp htag
  refine ⟨text, tag, ht, hr, fun hskip => ?_⟩
  rw [if_pos (.inl hskip)] at h
  cases h

theorem Member.isFilled_of_body? {key : String} {m : Member Ty} {f : BodyFiller}
    (h : m.body? key = some f) : m.IsFilled key := by
  obtain ⟨tag, htag, h⟩ := Option.bind_eq_some_iff.mp h
  obtain ⟨text, ht, hr⟩ := Member.ownTag?_eq_some.mp htag
  refine ⟨text, tag, ht, hr, fun hskip => ?_⟩
  rw [hskip, if_neg (by decide)] at h
  cases h

section Fields

variable {env : Env} {field : String} {ms : List (Member Ty)}

/-- What is read off fields by their tags is read off the one field with its tag. -/
theorem filterMap_onlyTagged {α : Type} {read : Member Ty → Option α} {fieldOf : α → String}
    (hfield : ∀ {m a}, read m = some a → fieldOf a = m.name)
    (huntagged : ∀ m : Member Ty, read { m with tags := [] } = none) :
    (onlyTagged field ms).filterMap read = (ms.filterMap read).filter (fieldOf · = field) := by
  rw [onlyTagged, List.filterMap_map, List.filter_filterMap]
  refine List.filterMap_congr fun m _ => ?_
  rw [Function.comp_apply]
  by_cases hm : m.name = field
  · rw [if_pos hm]
    cases ha : read m with
    | none => rfl
    | some a => simp [Option.filter, hfield ha, hm]
  · rw [if_neg hm, huntagged]
    cases ha : read m with
    | none => rfl
    | some a => simp [Option.filter, hfield ha, hm]

theorem bindings_onlyTagged :
    bindings env (onlyTagged field ms) = (bindings env ms).filter (·.filler.field = field) :=
  filterMap_onlyTagged Member.field_of_binding? fun _ => rfl

theorem bodies_onlyTagged :
    bodies env (onlyTagged field ms) = (bodies env ms).filter (·.field = field) :=
  filterMap_onlyTagged Member.field_of_body? fun _ => rfl

theorem newInstance_onlyTagged {h : ModelHead} :
    h.newInstance (onlyTagged field ms) = h.newInstance ms := by
  refine ModelHead.newInstance_map fun m => ?_
  split
  · exact ⟨m.tags, rfl⟩
  · exact ⟨[], rfl⟩

/-- A declaration in order stays so without the tags of some fields. -/
theorem inOrder_onlyTagged (h : InOrder env ms) : InOrder env (onlyTagged field ms) := by
  refine ⟨fun m hm => ?_, ?_, fun p hp => ?_⟩
  · obtain ⟨m', hm', rfl⟩ := List.mem_map.mp hm
    split
    · exact h.compiles m' hm'
    · intro text ht
      cases ht
  · rw [bodies_onlyTagged]
    exact Nat.le_trans (List.length_filter_le _ _) h.one_body
  · rw [bindings_onlyTagged, List.filter_comm]
    exact (h.distinct p hp).sublist (List.filter_sublist.map _)

end Fields

/-! ### Tables -/

namespace Fillers

variable {env : Env} {field : String} {ms : List (Member Ty)}

theorem table_filter (bs : List Binding) (holds : Binding → Bool) :
    table (bs.filter (·.filler.field = field)) holds =
      (table bs holds).filter (·.field = field) := by
  unfold table
  rw [List.filter_comm, List.filter_map]
  rfl

theorem declared_onlyTagged (h : (bodies env ms).length ≤ 1) :
    declared env (onlyTagged field ms) = (declared env ms).only field := by
  have hbody : ((bodies env ms).filter (·.field = field)).head? =
      (bodies env ms).head?.filter (·.field = field) := by
    match bodies env ms, h with
    | [], _ => rfl
    | [f], _ => by_cases hf : f.field = field <;> simp [Option.filter, hf]
  have hpath : ((bindings env ms).filter (·.filler.field = field)).filter (·.place = .path) =
      ((bindings env ms).filter (·.place = .path)).filter (·.filler.field = field) := by
    rw [List.filter_comm]
  rw [declared, declared, bindings_onlyTagged, bodies_onlyTagged]
  simp only [ofBindings, only, table_filter, hbody, hpath, List.filter_map]
  rfl

/-- A field that is not filled from the request has no fillers. -/
theorem only_of_not_isFilled (h : (bodies env ms).length ≤ 1) (hnames : (ms.map (·.name)).Nodup)
    {m : Member Ty} (hm : m ∈ ms) (hfilled : ¬ m.IsFilled env.options.tagKey) :
    (declared env ms).only m.name = {} := by
  -- names are not shared, so a filler of the field's name would be the field's own
  have hself : ∀ m' ∈ ms, m'.name = m.name → m' = m := fun m' hm' hname =>
    List.inj_on_of_nodup_map hnames hm' hm hname
  have hbindings : bindings env (onlyTagged m.name ms) = [] := by
    rw [bindings_onlyTagged, List.filter_eq_nil_iff]
    intro x hx hfield
    obtain ⟨m', hm', hbinding⟩ := List.mem_filterMap.mp hx
    have hname := (Member.field_of_binding? hbinding).symm.trans (of_decide_eq_true hfield)
    exact hfilled (hself m' hm' hname ▸ Member.isFilled_of_binding? hbinding)
  have hbodies : bodies env (onlyTagged m.name ms) = [] := by
    rw [bodies_onlyTagged, List.filter_eq_nil_iff]
    intro f hf hfield
    obtain ⟨m', hm', hbody⟩ := List.mem_filterMap.mp hf
    have hname := (Member.field_of_body? hbody).symm.trans (of_decide_eq_true hfield)
    exact hfilled (hself m' hm' hname ▸ Member.isFilled_of_body? hbody)
  rw [← declared_onlyTagged h, declared, hbindings, hbodies]
  rfl

/-- Some filler is for a parameter that has a name in a table. -/
theorem count_ne_zero_of_mem_namesOf {fs : Fillers} {p : Place} {name : String}
    (h : name ∈ fs.namesOf p) : fs.count ≠ 0 := by
  unfold count
  cases p with
  | other s => cases h
  | path | header | cookie =>
    have hpos := List.length_pos_of_mem h
    rw [namesOf, List.length_map] at hpos
    omega
  | query =>
    have hpos := List.length_pos_of_mem h
    rw [namesOf, List.length_map] at hpos
    simp only [List.length_append] at hpos
    omega

/-- A field that is filled from the request has a filler. -/
theorem count_declared_ne_zero (h : InOrder env ms) {m : Member Ty} (hm : m ∈ ms)
    (hfilled : m.IsFilled env.options.tagKey) : (declared env ms).count ≠ 0 := by
  obtain ⟨text, tag, ht, hr, hskip⟩ := hfilled
  have hown : m.ownTag? env.options.tagKey = some tag :=
    Member.ownTag?_eq_some.mpr ⟨text, ht, hr⟩
  -- the filler is the one of the body, or it is found by the name of its parameter
  by_cases hmodel : tag.base = "model"
  · have hbody : ⟨m.name, m.type⟩ ∈ bodies env ms := by
      refine List.mem_filterMap.mpr ⟨m, hm, ?_⟩
      rw [Member.body?, hown, Option.bind_some, if_pos hmodel]
    cases hbodies : bodies env ms with
    | nil =>
      rw [hbodies] at hbody
      cases hbody
    | cons f fs =>
      simp only [count, declared, ofBindings, hbodies, List.head?_cons, Option.toList_some,
        List.length_singleton]
      omega
  · obtain ⟨tag', hr', hu⟩ := h.compiles m hm text ht
    obtain rfl : tag = tag' := by
      rw [hr] at hr'
      exact Except.ok.inj hr'
    obtain ⟨u, hu⟩ := hu hskip hmodel
    have hbinding :
        (⟨tag, m.type, ⟨m.name, (m.site tag).name, u⟩⟩ : Binding) ∈ bindings env ms := by
      refine List.mem_filterMap.mpr ⟨m, hm, ?_⟩
      rw [Member.binding?, hown, Option.bind_some, if_neg (not_or.mpr ⟨hskip, hmodel⟩), hu]
      rfl
    have hplace := place_of_read hr hskip hmodel
    have hname : (m.site tag).name ∈ (declared env ms).namesOf (.ofName tag.base) := by
      refine (mem_namesOf_ofBindings env _ _ hplace _).mpr ?_
      exact List.mem_map.mpr ⟨_, List.mem_filter.mpr ⟨hbinding, decide_eq_true rfl⟩, rfl⟩
    exact count_ne_zero_of_mem_namesOf hname

/-- What the fillers of one field need is among what all fillers need. -/
theorem check_only {fs : Fillers} {o : Options} {model : String}
    (h : fs.check o model = .ok ()) : (fs.only field).check o model = .ok () := by
  obtain ⟨hbody, hpath⟩ := check_eq_ok.mp h
  refine check_eq_ok.mpr ⟨fun hsome => hbody ?_, fun hneeds => hpath ?_⟩
  · rw [only] at hsome
    cases hb : fs.body with
    | none =>
      rw [hb] at hsome
      cases hsome
    | some f => rfl
  · simp only [needsPath, only] at hneeds ⊢
    cases hp : fs.path with
    | nil =>
      rw [hp] at hneeds
      cases hneeds
    | cons f fs => rfl

end Fillers

/-- **One tagged field.** A model without the tags of all fields but one is compiled to the binder
that fills this field as the binder of the model does. -/
theorem Binder.compile_only {env : Env} {t : Ty} {b : Binder}
    (hb : t.compile env = .ok (.binder b)) {m : Member Ty} (hm : m ∈ b.members)
    (hfilled : m.IsFilled env.options.tagKey) :
    (Ty.model b.head (onlyTagged m.name b.members)).compile env =
      .ok (.binder (b.only m.name)) := by
  obtain ⟨hdeclared, horder, hcheck⟩ := Ty.compiled hb
  have hfillers := Ty.fillers_of_compile hb
  have honly : Fillers.declared env (onlyTagged m.name b.members) =
      (Fillers.declared env b.members).only m.name :=
    Fillers.declared_onlyTagged horder.one_body
  have hmem : m ∈ onlyTagged m.name b.members :=
    List.mem_map.mpr ⟨m, hm, if_pos rfl⟩
  refine ModelHead.compile_eq_binder.mpr ⟨inOrder_onlyTagged horder, ?_, ?_, ?_⟩
  · exact Fillers.count_declared_ne_zero (inOrder_onlyTagged horder) hmem hfilled
  · rw [honly, ← hfillers]
    exact Fillers.check_only hcheck
  · rw [Binder.only, Binder.declared, honly, ← hfillers, hdeclared]
    rfl

end ParamBinding
