import Mathlib.Data.List.Induction
import ParamBinding.Binder.Compile
import ParamBinding.Proofs.Fallible

/-!
# What a declaration comes down to

Compiling a model goes through its fields and adds to eight tables. Here the tables are read off the
declaration at once: each holds the fields that ask for it, in the order of their declaration
(`Fillers.declared`). Compiling succeeds exactly on declarations that are in order, and then it
gives just these tables (`Fillers.ofMembers_eq_ok`).
-/

namespace ParamBinding

/-! ### Fields and their parameters -/

/-- A field that is filled from a parameter: what its tag says, its type, and the filler. -/
structure Binding where
  tag : Tag
  type : Ty
  filler : Filler

namespace Binding

/-- The part of the request that the parameter belongs to. -/
def place (b : Binding) : Place := .ofName b.tag.base

/-- The filler of a path variable. -/
def pathFiller (env : Env) (b : Binding) : PathFiller :=
  { b.filler with
    accept := b.type.accepter env ⟨b.filler.field, b.filler.name, b.place⟩ b.tag }

/-- Whether the parameter takes keys. -/
def isKeyed (b : Binding) : Bool := b.filler.unpacker.deepObject?.isSome

/-- Whether the query may fill the field. -/
def inQuery (b : Binding) : Bool := b.place = .query && !b.tag.formOnly

/-- Whether a form may fill the field. -/
def inForm (b : Binding) : Bool := b.place = .query && (b.tag.form || b.tag.formOnly)

end Binding

namespace Member

/-- The tag of a field, if it has one that can be read. -/
def ownTag? (key : String) (m : Member Ty) : Option Tag :=
  (m.tag? key).bind fun text => (Tag.read false text).toOption

/-- The parameter that a field is filled from. -/
def site (m : Member Ty) (tag : Tag) : Site :=
  ⟨m.name, if tag.name = "" then m.name else tag.name, .ofName tag.base⟩

/-- The filler of a field that is filled from the body. -/
def body? (key : String) (m : Member Ty) : Option BodyFiller :=
  (m.ownTag? key).bind fun tag => if tag.base = "model" then some ⟨m.name, m.type⟩ else none

/-- The binding of a field that is filled from a parameter. -/
def binding? (env : Env) (m : Member Ty) : Option Binding :=
  (m.ownTag? env.options.tagKey).bind fun tag =>
    if tag.base = "-" ∨ tag.base = "model" then none
    else (m.type.unpacker env (m.site tag) tag).toOption.map fun u =>
      ⟨tag, m.type, ⟨m.name, (m.site tag).name, u⟩⟩

/-- A field can be compiled: its tag, if it has one, can be read, and its type can be decoded from
the parameter that the tag names. -/
def Compiles (env : Env) (m : Member Ty) : Prop :=
  ∀ text, m.tag? env.options.tagKey = some text →
    ∃ tag, Tag.read false text = .ok tag ∧
      (tag.base ≠ "-" → tag.base ≠ "model" → ∃ u, m.type.unpacker env (m.site tag) tag = .ok u)

theorem ownTag?_eq_some {key : String} {m : Member Ty} {tag : Tag} :
    m.ownTag? key = some tag ↔
      ∃ text, m.tag? key = some text ∧ Tag.read false text = .ok tag := by
  unfold ownTag?
  rw [Option.bind_eq_some_iff]
  refine exists_congr fun text => and_congr_right fun _ => ?_
  cases Tag.read false text <;> simp [Except.toOption]

end Member

/-- A field that can be decoded from a parameter has a binding. -/
theorem Member.binding?_eq_some {env : Env} {m : Member Ty} {tag : Tag} {u : Unpacker}
    (htag : m.ownTag? env.options.tagKey = some tag) (hskip : tag.base ≠ "-")
    (hmodel : tag.base ≠ "model") (hu : m.type.unpacker env (m.site tag) tag = .ok u) :
    m.binding? env = some ⟨tag, m.type, ⟨m.name, (m.site tag).name, u⟩⟩ := by
  rw [binding?, htag, Option.bind_some, if_neg (not_or.mpr ⟨hskip, hmodel⟩), hu]
  rfl

/-- The bindings of the fields of a model, in the order of their declaration. -/
def bindings (env : Env) (ms : List (Member Ty)) : List Binding := ms.filterMap (·.binding? env)

/-- The fillers of the fields that are filled from the body. -/
def bodies (env : Env) (ms : List (Member Ty)) : List BodyFiller :=
  ms.filterMap (·.body? env.options.tagKey)

namespace Fillers

/-- The fillers of the bindings that a table holds. -/
def table (bs : List Binding) (holds : Binding → Bool) : List Filler :=
  (bs.filter holds).map (·.filler)

/-- The tables of a list of bindings. -/
def ofBindings (env : Env) (body : Option BodyFiller) (bs : List Binding) : Fillers where
  body := body
  path := (bs.filter (·.place = .path)).map (·.pathFiller env)
  header := table bs (·.place = .header)
  cookie := table bs (·.place = .cookie)
  query := table bs fun b => b.inQuery && !b.isKeyed
  deepObject := table bs fun b => b.inQuery && b.isKeyed
  form := table bs fun b => b.inForm && !b.isKeyed
  formDeepObject := table bs fun b => b.inForm && b.isKeyed

/-- The tables of a model, read off the declaration of its fields. -/
def declared (env : Env) (ms : List (Member Ty)) : Fillers :=
  ofBindings env (bodies env ms).head? (bindings env ms)

end Fillers

/-- A declaration is in order: every field can be compiled, at most one of them is filled from the
body, and no two of them are filled from the same parameter. -/
structure InOrder (env : Env) (ms : List (Member Ty)) : Prop where
  compiles : ∀ m ∈ ms, m.Compiles env
  one_body : (bodies env ms).length ≤ 1
  distinct : ∀ p : Place, (∀ s, p ≠ .other s) →
    (((bindings env ms).filter (·.place = p)).map (·.filler.name)).Nodup

/-! ### Tables with one more binding -/

section Tables

variable (env : Env) (body : Option BodyFiller) (bs : List Binding)

theorem table_concat (b : Binding) (holds : Binding → Bool) :
    Fillers.table (bs ++ [b]) holds =
      if holds b then Fillers.table bs holds ++ [b.filler] else Fillers.table bs holds := by
  unfold Fillers.table
  rw [List.filter_append, List.map_append]
  by_cases h : holds b <;> simp [h]

/-- Adding a parameter to the tables of some bindings gives those of one binding more. -/
theorem addParameter_ofBindings (t : Ty) (site : Site) (tag : Tag) (u : Unpacker)
    (hp : site.place = .ofName tag.base) :
    (Fillers.ofBindings env body bs).addParameter env t site tag u =
      Fillers.ofBindings env body (bs ++ [⟨tag, t, ⟨site.field, site.name, u⟩⟩]) := by
  obtain ⟨field, name, place⟩ := site
  simp only at hp
  subst hp
  unfold Fillers.addParameter
  cases h : Place.ofName tag.base with
  | path =>
    simp [Fillers.ofBindings, table_concat, Binding.place, Binding.inQuery, Binding.inForm, h,
      Binding.pathFiller]
  | header =>
    simp [Fillers.ofBindings, table_concat, Binding.place, Binding.inQuery, Binding.inForm, h]
  | cookie =>
    simp [Fillers.ofBindings, table_concat, Binding.place, Binding.inQuery, Binding.inForm, h]
  | other s =>
    simp [Fillers.ofBindings, table_concat, Binding.place, Binding.inQuery, Binding.inForm, h]
  | query =>
    cases hu : u.deepObject? <;>
      simp [Fillers.ofBindings, table_concat, Binding.place, Binding.inQuery, Binding.inForm, h,
        Fillers.addQuery, Binding.isKeyed, hu]

/-- The parameters of a place that have a filler are those of the bindings of the place. -/
theorem mem_namesOf_ofBindings {p : Place} (hp : ∀ s, p ≠ .other s) (name : String) :
    name ∈ (Fillers.ofBindings env body bs).namesOf p ↔
      name ∈ (bs.filter (·.place = p)).map (·.filler.name) := by
  cases p with
  | other s => exact absurd rfl (hp s)
  | path => simp [Fillers.namesOf, Fillers.ofBindings, Binding.pathFiller]
  | header => simp [Fillers.namesOf, Fillers.ofBindings, Fillers.table]
  | cookie => simp [Fillers.namesOf, Fillers.ofBindings, Fillers.table]
  | query =>
    simp only [Fillers.namesOf, Fillers.ofBindings, Fillers.table, List.map_append, List.map_map,
      List.mem_append, List.mem_map, List.mem_filter, Function.comp_apply, Binding.inQuery,
      Binding.inForm]
    constructor
    · rintro (((⟨b, ⟨hb, h⟩, rfl⟩ | ⟨b, ⟨hb, h⟩, rfl⟩) | ⟨b, ⟨hb, h⟩, rfl⟩) | ⟨b, ⟨hb, h⟩, rfl⟩)
      all_goals
        simp only [Bool.and_eq_true] at h
        exact ⟨b, ⟨hb, h.1.1⟩, rfl⟩
    · rintro ⟨b, ⟨hb, h⟩, rfl⟩
      -- a tag that keeps a field out of the query lets a form fill it
      cases hf : b.tag.formOnly <;> cases hk : b.isKeyed
      · exact .inl (.inl (.inl ⟨b, ⟨hb, by simp [h, hf, hk]⟩, rfl⟩))
      · exact .inl (.inl (.inr ⟨b, ⟨hb, by simp [h, hf, hk]⟩, rfl⟩))
      · exact .inl (.inr ⟨b, ⟨hb, by simp [h, hf, hk]⟩, rfl⟩)
      · exact .inr ⟨b, ⟨hb, by simp [h, hf, hk]⟩, rfl⟩

end Tables

/-! ### Declarations with one more field -/

section Concat

variable {env : Env} {ms : List (Member Ty)} {m : Member Ty}

@[simp] theorem bindings_concat :
    bindings env (ms ++ [m]) = bindings env ms ++ (m.binding? env).toList := by
  rw [bindings, List.filterMap_append]
  cases h : m.binding? env <;> simp [bindings, h]

@[simp] theorem bodies_concat :
    bodies env (ms ++ [m]) = bodies env ms ++ (m.body? env.options.tagKey).toList := by
  rw [bodies, List.filterMap_append]
  cases h : m.body? env.options.tagKey <;> simp [bodies, h]

/-- A declaration stays in order with one more field when that field can be compiled and asks for
nothing that another field has. -/
theorem inOrder_concat :
    InOrder env (ms ++ [m]) ↔ InOrder env ms ∧ m.Compiles env ∧
      (∀ f, m.body? env.options.tagKey = some f → bodies env ms = []) ∧
      ∀ b, m.binding? env = some b → (∀ s, b.place ≠ .other s) →
        b.filler.name ∉ ((bindings env ms).filter (·.place = b.place)).map (·.filler.name) := by
  constructor
  · rintro ⟨hc, hb, hd⟩
    rw [bodies_concat, List.length_append] at hb
    refine ⟨⟨fun x hx => hc x (List.mem_append_left _ hx), by omega, fun p hp => ?_⟩,
      hc m (List.mem_append_right _ List.mem_cons_self), fun f hf => ?_, fun b hb' hp => ?_⟩
    · have := hd p hp
      rw [bindings_concat, List.filter_append, List.map_append, List.nodup_append] at this
      exact this.1
    · rw [hf] at hb
      exact List.eq_nil_of_length_eq_zero (by simpa using hb)
    · have := hd b.place hp
      rw [bindings_concat, hb', List.filter_append, List.map_append, List.nodup_append] at this
      intro hmem
      exact this.2.2 _ hmem _ (by simp) rfl
  · rintro ⟨⟨hc, hb, hd⟩, hm, hbody, hfresh⟩
    refine ⟨fun x hx => ?_, ?_, fun p hp => ?_⟩
    · rcases List.mem_append.mp hx with hx | hx
      · exact hc x hx
      · rw [List.mem_singleton.mp hx]
        exact hm
    · rw [bodies_concat]
      cases hf : m.body? env.options.tagKey with
      | none => simpa using hb
      | some f => simp [hbody f hf]
    · rw [bindings_concat]
      cases hb' : m.binding? env with
      | none => simpa using hd p hp
      | some b =>
        rw [List.filter_append, List.map_append, List.nodup_append]
        by_cases hpb : b.place = p
        · subst hpb
          refine ⟨hd _ hp, by simp, fun x hx y hy => ?_⟩
          rintro rfl
          rw [List.mem_map] at hy
          obtain ⟨c, hc, rfl⟩ := hy
          rw [List.mem_filter, Option.mem_toList] at hc
          exact hfresh b hb' hp (Option.some.inj hc.1 ▸ hx)
        · simpa [hpb] using hd p hp

end Concat

/-! ### Compiling a declaration -/

/-- A tag that can be read at top level has one of the known bases. -/
theorem base_mem_of_read {text : String} {tag : Tag} (h : Tag.read false text = .ok tag) :
    tag.base ∈ Tag.bases := by
  unfold Tag.read at h
  simp only [Bool.not_false, Bool.true_and] at h
  split at h
  · cases h
  · rename_i hbase
    obtain ⟨settings, -, h⟩ := bind_eq_ok.mp h
    split at h
    · cases h
    · cases h
      simpa [Tag.ofSettings] using hbase

/-- The parameters of a tag belong to a known part of the request. -/
theorem place_of_read {text : String} {tag : Tag} (h : Tag.read false text = .ok tag)
    (hskip : tag.base ≠ "-") (hmodel : tag.base ≠ "model") (s : String) :
    Place.ofName tag.base ≠ .other s := by
  have hbase := base_mem_of_read h
  simp only [Tag.bases, List.mem_cons, List.not_mem_nil, or_false] at hbase
  rcases hbase with hb | hb | hb | hb | hb | hb
  · exact absurd hb hmodel
  · simp [hb, Place.ofName]
  · simp [hb, Place.ofName]
  · simp [hb, Place.ofName]
  · simp [hb, Place.ofName]
  · exact absurd hb hskip

namespace Fillers

variable {env : Env} {model : String} {ms : List (Member Ty)} {m : Member Ty} {fs : Fillers}

/-- A field that is filled from the body is added when it is the first one. -/
theorem addBody_declared :
    (declared env ms).addBody model m = .ok fs ↔
      bodies env ms = [] ∧
        fs = ofBindings env (some ⟨m.name, m.type⟩) (bindings env ms) := by
  unfold addBody declared
  cases h : bodies env ms with
  | nil => simp [ofBindings, eq_comm]
  | cons f rest => simp [ofBindings]

/-- A field with a parameter is compiled for its own site. -/
theorem addTagged_parameter {tag : Tag} (hskip : tag.base ≠ "-") (hmodel : tag.base ≠ "model") :
    fs.addTagged env model m tag =
      if (fs.namesOf (m.site tag).place).contains (m.site tag).name then
        .error (.duplicate (.parameter model tag.base (m.site tag).name m.name))
      else m.type.unpacker env (m.site tag) tag >>= fun u =>
        .ok (fs.addParameter env m.type (m.site tag) tag u) := by
  unfold addTagged
  rw [if_neg hskip, if_neg hmodel]
  rfl

/-- A field with a parameter is added when it can be compiled and its parameter is not taken. -/
theorem addTagged_declared {tag : Tag} (hp : ∀ s, (m.site tag).place ≠ .other s)
    (hskip : tag.base ≠ "-") (hmodel : tag.base ≠ "model") :
    (declared env ms).addTagged env model m tag = .ok fs ↔
      ∃ u, m.type.unpacker env (m.site tag) tag = .ok u ∧
        (m.site tag).name ∉
          ((bindings env ms).filter (·.place = (m.site tag).place)).map (·.filler.name) ∧
        fs = ofBindings env (bodies env ms).head?
          (bindings env ms ++ [⟨tag, m.type, ⟨m.name, (m.site tag).name, u⟩⟩]) := by
  have hnames := mem_namesOf_ofBindings env (bodies env ms).head? (bindings env ms) hp
    (m.site tag).name
  rw [addTagged_parameter hskip hmodel, declared]
  by_cases hmem : (m.site tag).name ∈
      ((bindings env ms).filter (·.place = (m.site tag).place)).map (·.filler.name)
  · rw [if_pos (List.contains_iff_mem.mpr (hnames.mpr hmem))]
    simp [hmem]
  · rw [if_neg fun h => hmem (hnames.mp (List.contains_iff_mem.mp h)), bind_eq_ok]
    refine exists_congr fun u => and_congr_right fun _ => ?_
    rw [addParameter_ofBindings env _ _ m.type (m.site tag) tag u rfl, Except.ok.injEq,
      eq_comm (b := fs), and_iff_right hmem]
    rfl

theorem addMember_untagged (ht : m.tag? env.options.tagKey = none) :
    fs.addMember env model m = .ok fs := by
  unfold addMember
  rw [ht]

theorem addMember_tagged {text : String} {tag : Tag} (ht : m.tag? env.options.tagKey = some text)
    (hr : Tag.read false text = .ok tag) :
    fs.addMember env model m = fs.addTagged env model m tag := by
  unfold addMember
  rw [ht]
  simp only [hr]
  rfl

theorem addMember_unreadable {text : String} {p : Tag.Problem}
    (ht : m.tag? env.options.tagKey = some text) (hr : Tag.read false text = .error p) :
    fs.addMember env model m = .error (.tag p (some m.name) (some text)) := by
  unfold addMember
  rw [ht]
  simp only [hr]
  rfl

/-- **One field more.** A field is added to the tables of a declaration in order exactly when the
declaration stays in order, and then the tables are those of the longer declaration. -/
theorem addMember_declared {fs' : Fillers} (h : InOrder env ms) :
    (declared env ms).addMember env model m = .ok fs' ↔
      InOrder env (ms ++ [m]) ∧ fs' = declared env (ms ++ [m]) := by
  have hlonger : declared env (ms ++ [m]) = ofBindings env
      (bodies env ms ++ (m.body? env.options.tagKey).toList).head?
      (bindings env ms ++ (m.binding? env).toList) := by
    rw [declared, bindings_concat, bodies_concat]
  rw [inOrder_concat, and_iff_right h, hlonger]
  cases ht : m.tag? env.options.tagKey with
  | none =>
    rw [addMember_untagged ht, Except.ok.injEq, eq_comm]
    simp [Member.Compiles, Member.body?, Member.binding?, Member.ownTag?, ht, declared]
  | some text =>
    cases hr : Tag.read false text with
    | error p =>
      rw [addMember_unreadable ht hr]
      simp [Member.Compiles, ht, hr]
    | ok tag =>
      have hown : m.ownTag? env.options.tagKey = some tag :=
        Member.ownTag?_eq_some.mpr ⟨text, ht, hr⟩
      have hcompiles : m.Compiles env ↔ (tag.base ≠ "-" → tag.base ≠ "model" →
          ∃ u, m.type.unpacker env (m.site tag) tag = .ok u) := by
        simp [Member.Compiles, ht, hr]
      rw [addMember_tagged ht hr, hcompiles, Member.body?, Member.binding?, hown, Option.bind_some,
        Option.bind_some]
      -- a field is left alone, filled from the body, or filled from a parameter
      by_cases hskip : tag.base = "-"
      · rw [addTagged, if_pos hskip, Except.ok.injEq, eq_comm]
        simp [hskip, declared]
      by_cases hmodel : tag.base = "model"
      · rw [addTagged, if_neg hskip, if_pos hmodel, addBody_declared, if_pos hmodel,
          if_pos (.inr hmodel)]
        constructor
        · rintro ⟨hnil, rfl⟩
          simp [hnil, hmodel]
        · rintro ⟨⟨-, hbody, -⟩, rfl⟩
          have hnil := hbody _ rfl
          simp [hnil]
      · rw [addTagged_declared (place_of_read hr hskip hmodel) hskip hmodel, if_neg hmodel,
          if_neg (not_or.mpr ⟨hskip, hmodel⟩)]
        cases hu : m.type.unpacker env (m.site tag) tag with
        | error e => simp [hskip, hmodel]
        | ok u =>
          have hp : ∀ s, (m.site tag).place ≠ .other s := place_of_read hr hskip hmodel
          simp only [Except.ok.injEq, exists_eq_left', Except.toOption, Option.map_some,
            Option.some.injEq, forall_eq', exists_eq', implies_true, true_and, reduceCtorEq,
            IsEmpty.forall_iff, Option.toList_none, List.append_nil, Option.toList_some]
          refine and_congr_left fun _ => ⟨fun hfresh _ => hfresh, fun hfresh => hfresh hp⟩

/-- **Compiling a declaration.** The fields of a model are compiled exactly when their declaration
is in order, and the tables are those that it declares. -/
theorem ofMembers_eq_ok :
    ofMembers env model ms = .ok fs ↔ InOrder env ms ∧ fs = declared env ms := by
  -- fields are added at the end, so the induction is on the declaration without its last field
  induction ms using List.reverseRecOn generalizing fs with
  | nil =>
    have hnil : InOrder env [] := ⟨by simp, by simp [bodies], by simp [bindings]⟩
    simp [ofMembers, hnil, pure, Except.pure, eq_comm, declared, bodies, bindings, ofBindings,
      table]
  | append_singleton ms m ih =>
    unfold ofMembers at ih ⊢
    rw [List.foldlM_append]
    simp only [List.foldlM_cons, List.foldlM_nil, bind_eq_ok, ih, pure, Except.pure,
      Except.ok.injEq, exists_eq_right]
    constructor
    · rintro ⟨_, ⟨hms, rfl⟩, hm⟩
      exact (addMember_declared hms).mp hm
    · intro hm
      have hms := (inOrder_concat.mp hm.1).1
      exact ⟨_, ⟨hms, rfl⟩, (addMember_declared hms).mpr hm⟩

end Fillers

/-- What the options have to have: decoders where a field is filled from the body, and a source
where one is filled from a path variable. -/
theorem Fillers.check_eq_ok {fs : Fillers} {o : Options} {model : String} :
    fs.check o model = .ok () ↔
      (fs.body.isSome → o.decoders.isEmpty = false ∧
        (o.defaultContentType = "" ∨ (o.decoders.get? o.defaultContentType).isSome)) ∧
      (fs.needsPath → o.pathVars.isSome) := by
  unfold check
  cases fs.body.isSome <;> cases o.decoders.isEmpty <;> cases fs.needsPath <;>
    cases o.pathVars <;> cases o.decoders.get? o.defaultContentType <;>
    by_cases hd : o.defaultContentType = "" <;> simp [hd]

/-- The binder of a model, read off its declaration. -/
def Binder.declared (env : Env) (h : ModelHead) (ms : List (Member Ty)) : Binder where
  head := h
  members := ms
  fillers := .declared env ms
  decoders := env.options.decoders
  defaultContentType := env.options.defaultContentType
  pathVars := env.options.pathVars
  strict := env.options.strict

section Compile

variable {env : Env} {h : ModelHead} {ms : List (Member Ty)} {b : Binder}

/-- A model has a binder exactly when its declaration is in order, some field of it is to be filled,
and the options have what the fillers need. -/
theorem ModelHead.compile_eq_binder :
    h.compile env ms = .ok (.binder b) ↔
      InOrder env ms ∧ (Fillers.declared env ms).count ≠ 0 ∧
        (Fillers.declared env ms).check env.options h.cls.name = .ok () ∧
        b = .declared env h ms := by
  unfold ModelHead.compile
  simp only [bind_eq_ok, Fillers.ofMembers_eq_ok]
  constructor
  · rintro ⟨fs, ⟨hms, rfl⟩, hb⟩
    by_cases hcount : (Fillers.declared env ms).count = 0
    · rw [if_pos hcount] at hb
      cases hb
    · rw [if_neg hcount, bind_eq_ok] at hb
      obtain ⟨_, hcheck, hb⟩ := hb
      cases hb
      exact ⟨hms, hcount, hcheck, rfl⟩
  · rintro ⟨hms, hcount, hcheck, rfl⟩
    refine ⟨_, ⟨hms, rfl⟩, ?_⟩
    rw [if_neg hcount, hcheck]
    rfl

/-- A model that is not rejected is declared in order. -/
theorem ModelHead.inOrder_of_compile {c : Compiled} (hc : h.compile env ms = .ok c) :
    InOrder env ms := by
  obtain ⟨fs, hfs, -⟩ := bind_eq_ok.mp hc
  exact (Fillers.ofMembers_eq_ok.mp hfs).1

/-- A type has the binder of a model, its own or that of the model inside an optional type. -/
theorem Ty.compile_eq_binder {t : Ty} (hb : t.compile env = .ok (.binder b)) :
    b.head.compile env b.members = .ok (.binder b) := by
  -- an optional type is compiled as the type inside it
  have hstruct : ∀ s : Shape, s.compile env = .ok (.binder b) →
      b.head.compile env b.members = .ok (.binder b) := by
    intro s hs
    cases s with
    | struct h ms =>
      have hdecl := (ModelHead.compile_eq_binder.mp hs).2.2.2
      rw [hdecl] at hs ⊢
      exact hs
    | _ => cases hs
  unfold Ty.compile at hb
  split at hb
  · exact hstruct _ hb
  · exact hstruct _ hb

/-- What is known of every compiled model. -/
theorem Ty.compiled {t : Ty} (hb : t.compile env = .ok (.binder b)) :
    b = .declared env b.head b.members ∧ InOrder env b.members ∧
      b.fillers.check env.options b.head.cls.name = .ok () := by
  obtain ⟨hms, -, hcheck, hdecl⟩ := ModelHead.compile_eq_binder.mp (Ty.compile_eq_binder hb)
  refine ⟨hdecl, hms, ?_⟩
  rw [hdecl]
  exact hcheck

theorem Ty.fillers_of_compile {t : Ty} (hb : t.compile env = .ok (.binder b)) :
    b.fillers = .declared env b.members := by
  rw [(Ty.compiled hb).1]
  rfl

end Compile

/-! ### Declarations that are not in order -/

section Errors

variable {env : Env} {h : ModelHead} {ms : List (Member Ty)} {m : Member Ty} {fs : Fillers}
  {model : String} {e : CompileError}

/-- Why a field cannot be added: its tag cannot be read, something is received twice, or its type
cannot be decoded from the parameter. -/
theorem Fillers.addMember_eq_error (he : fs.addMember env model m = .error e) :
    (∃ p text, e = .tag p (some m.name) (some text)) ∨ (∃ d, e = .duplicate d) ∨
      ∃ tag, m.ownTag? env.options.tagKey = some tag ∧
        m.type.unpacker env (m.site tag) tag = .error e := by
  cases ht : m.tag? env.options.tagKey with
  | none =>
    rw [addMember_untagged ht] at he
    cases he
  | some text =>
    cases hr : Tag.read false text with
    | error p =>
      rw [addMember_unreadable ht hr] at he
      cases he
      exact .inl ⟨p, text, rfl⟩
    | ok tag =>
      rw [addMember_tagged ht hr] at he
      by_cases hskip : tag.base = "-"
      · rw [addTagged, if_pos hskip] at he
        cases he
      by_cases hmodel : tag.base = "model"
      · rw [addTagged, if_neg hskip, if_pos hmodel, addBody] at he
        split at he
        · cases he
          exact .inr (.inl ⟨_, rfl⟩)
        · cases he
      rw [addTagged_parameter hskip hmodel] at he
      split at he
      · cases he
        exact .inr (.inl ⟨_, rfl⟩)
      rcases bind_eq_error.mp he with he | ⟨u, -, he⟩
      · exact .inr (.inr ⟨tag, Member.ownTag?_eq_some.mpr ⟨text, ht, hr⟩, he⟩)
      · cases he

/-- Why a model as a whole is rejected: a decoder of bodies or a source of path variables is
missing. -/
theorem Fillers.check_eq_error {o : Options} (he : fs.check o model = .error e) :
    (∃ contentType w, e = .missingDecoder contentType w) ∨ ∃ w, e = .misconfigured w := by
  unfold check at he
  split at he
  · cases he
    exact .inl ⟨_, _, rfl⟩
  split at he
  · cases he
    exact .inl ⟨_, _, rfl⟩
  split at he
  · cases he
    exact .inr ⟨_, rfl⟩
  · cases he

/-- Why a model has no binder: because of one of its fields, or because of what the options lack. -/
theorem ModelHead.compile_eq_error (he : h.compile env ms = .error e) :
    (∃ m ∈ ms, ∃ fs : Fillers, fs.addMember env h.cls.name m = .error e) ∨
      (∃ contentType w, e = .missingDecoder contentType w) ∨ ∃ w, e = .misconfigured w := by
  rcases bind_eq_error.mp he with he | ⟨fs, -, he⟩
  · exact .inl (foldlM_eq_error he)
  split at he
  · cases he
  rcases bind_eq_error.mp he with he | ⟨_, -, he⟩
  · exact .inr (Fillers.check_eq_error he)
  · cases he

/-- A type whose compiling fails is a model, its own or that inside an optional type, or a map type
without a type for its values. -/
theorem Ty.compile_eq_error {t : Ty} (he : t.compile env = .error e) :
    e = .missingTypeArgument ∨ ∃ (h : ModelHead) (ms : List (Member Ty)),
      h.compile env ms = .error e := by
  have hshape : ∀ s : Shape, s.compile env = .error e →
      e = .missingTypeArgument ∨ ∃ (h : ModelHead) (ms : List (Member Ty)),
        h.compile env ms = .error e := by
    intro s hs
    cases s with
    | struct h ms => exact .inr ⟨h, ms, hs⟩
    | malformed =>
      cases hs
      exact .inl rfl
    | _ => cases hs
  unfold Ty.compile at he
  split at he
  · exact hshape _ he
  · exact hshape _ he

end Errors

end ParamBinding
