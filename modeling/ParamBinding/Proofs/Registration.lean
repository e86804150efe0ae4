import ParamBinding.Proofs.OptionLegality
import ParamBinding.Proofs.Parameters
import ParamBinding.Proofs.TagGrammar

/-!
# What a model registers

Compiling a model threads its tables through a loop over the fields. Here is what comes out, table
by table (`Registered`): each table holds the fields whose tags ask for it, in the order of their
declaration, with one entry each, and nothing else; what is in a table after some fields stays
there; and no two fields have entries under one name of the same part of the request. A field that
both the query and a form fill has two entries, which are equal, and any other one has one. A model
is declined when there is nothing to register, and only then (`Ty.registration`).
-/

namespace ParamBinding

/-- The tables of a model, apart from the field that the body fills. -/
inductive Table where
  | path
  | header
  | cookie
  | query
  | deepObject
  | form
  | formDeepObject
  deriving DecidableEq, Repr

namespace Table

/-- The base of the tags that ask for a table. -/
def base : Table → String
  | path => "path"
  | header => "header"
  | cookie => "cookie"
  | query | deepObject | form | formDeepObject => "query"

/-- Whether a tag asks for a table, given whether the field takes keys. -/
def holds (T : Table) (tag : Tag) (keyed : Bool) : Bool :=
  tag.base = T.base && match T with
    | path | header | cookie => true
    | query => !tag.formOnly && !keyed
    | deepObject => !tag.formOnly && keyed
    | form => (tag.form || tag.formOnly) && !keyed
    | formDeepObject => (tag.form || tag.formOnly) && keyed

end Table

/-- The entries of a table. -/
def Fillers.entries (fs : Fillers) : Table → List Filler
  | .path => fs.path.map (·.toFiller)
  | .header => fs.header
  | .cookie => fs.cookie
  | .query => fs.query
  | .deepObject => fs.deepObject
  | .form => fs.form
  | .formDeepObject => fs.formDeepObject

namespace Member

/-- The entry of a field in a table, if its tag asks for the table. -/
def fillerIn? (env : Env) (T : Table) (m : Member Ty) : Option Filler :=
  (m.binding? env).bind fun x => if T.holds x.tag x.isKeyed then some x.filler else none

/-- Whether a field has a tag, and one that does not leave it out. -/
def isTagged (key : String) (m : Member Ty) : Bool :=
  (m.ownTag? key).any fun tag => tag.base ≠ "-"

/-- Whether the tag of a field says that both the query and a form fill it. -/
def isForForm (key : String) (m : Member Ty) : Bool := (m.ownTag? key).any (·.form)

end Member

/-- The fields of a model are registered: each of them where its tag says, and nothing else. -/
structure Registered (env : Env) (model : String) (ms : List (Member Ty)) (fs : Fillers) :
    Prop where
  /-- The tag of every field can be read. A field that is not left out is the one of the body or has
  an unpacker, with which it is registered under its own name or that of its tag. -/
  fields : ∀ m ∈ ms, ∀ text, m.tag? env.options.tagKey = some text →
    ∃ tag, Tag.read false text = .ok tag ∧ (tag.base ≠ "-" →
      (tag.base = "model" ∧ m.body? env.options.tagKey = some ⟨m.name, m.type⟩) ∨
      ∃ u, m.type.unpacker env (m.site tag) tag = .ok u ∧
        ∀ T : Table, m.fillerIn? env T = if T.holds tag u.deepObject?.isSome then
          some ⟨m.name, if tag.name = "" then m.name else tag.name, u⟩ else none)
  body : fs.body.toList = ms.filterMap (·.body? env.options.tagKey)
  entries : ∀ T, fs.entries T = ms.filterMap (·.fillerIn? env T)
  /-- What has been registered for the first fields stays where it is. -/
  kept : ∀ before after, ms = before ++ after →
    ∃ fs', Fillers.ofMembers env model before = .ok fs' ∧
      fs'.body.toList <+: fs.body.toList ∧ ∀ T, fs'.entries T <+: fs.entries T
  once : ∀ T, ((fs.entries T).map (·.name)).Nodup
  /-- Tables of the same part of the request have a name in common only for the same field. -/
  alike : ∀ T T' : Table, T.base = T'.base → ∀ f ∈ fs.entries T, ∀ g ∈ fs.entries T',
    f.name = g.name → f = g
  count : fs.count = ms.countP (·.isTagged env.options.tagKey) +
    ms.countP (·.isForForm env.options.tagKey)

/-! ### Tables of a declaration -/

/-- A part of the request is known by its name. -/
theorem Place.ofName_eq_iff {s : String} {p : Place} (hp : ∀ s, p ≠ .other s) :
    Place.ofName s = p ↔ s = p.name := by
  constructor
  · intro h
    unfold Place.ofName at h
    repeat' split at h
    all_goals subst h
    all_goals first | assumption | exact absurd rfl (hp _)
  · rintro rfl
    exact Place.ofName_name p hp

namespace Table

/-- The part of the request that a table is for. -/
def place (T : Table) : Place := .ofName T.base

theorem place_ne_other (T : Table) (s : String) : T.place ≠ .other s := by
  cases T <;> exact Place.noConfusion

theorem base_eq_name (T : Table) : T.base = T.place.name := by
  cases T <;> rfl

/-- A binding in a table belongs to the part of the request that the table is for. -/
theorem place_of_holds {T : Table} {x : Binding} (h : T.holds x.tag x.isKeyed = true) :
    x.place = T.place := by
  unfold holds at h
  rw [Bool.and_eq_true] at h
  exact (Place.ofName_eq_iff T.place_ne_other).mpr ((of_decide_eq_true h.1).trans T.base_eq_name)

end Table

section Declared

variable {env : Env} {ms : List (Member Ty)} {m : Member Ty} {x : Binding}

/-- The entries of a table are those of the bindings that ask for it. -/
theorem entries_declared (T : Table) : (Fillers.declared env ms).entries T =
    Fillers.table (bindings env ms) fun x => T.holds x.tag x.isKeyed := by
  have hplace : ∀ (x : Binding) (p : Place), (∀ s, p ≠ .other s) →
      decide (x.place = p) = decide (x.tag.base = p.name) :=
    fun x p hp => decide_eq_decide.mpr (Place.ofName_eq_iff hp)
  have hpath := fun x => hplace x .path (fun _ => Place.noConfusion)
  have hheader := fun x => hplace x .header (fun _ => Place.noConfusion)
  have hcookie := fun x => hplace x .cookie (fun _ => Place.noConfusion)
  have hquery := fun x => hplace x .query (fun _ => Place.noConfusion)
  unfold Fillers.declared Fillers.ofBindings Fillers.entries
  cases T with
  | path =>
    dsimp only
    rw [List.map_map, Fillers.table]
    simp only [hpath, Table.holds, Bool.and_true]
    rfl
  | header | cookie => simp only [hheader, hcookie, Table.holds, Bool.and_true]; rfl
  | _ =>
    simp only [Binding.inQuery, Binding.inForm, hquery, Table.holds, Bool.and_assoc]
    rfl

theorem entries_eq_filterMap (T : Table) :
    (Fillers.declared env ms).entries T = ms.filterMap (·.fillerIn? env T) := by
  rw [entries_declared, Fillers.table, bindings, List.filter_filterMap, List.map_filterMap]
  refine List.filterMap_congr fun m _ => ?_
  rw [Member.fillerIn?]
  cases m.binding? env with
  | none => rfl
  | some x =>
    simp only [Option.bind_some, Option.filter_some]
    split <;> rfl

theorem body_declared (h : InOrder env ms) : (Fillers.declared env ms).body.toList =
    ms.filterMap (·.body? env.options.tagKey) := by
  have hone := h.one_body
  show (bodies env ms).head?.toList = bodies env ms
  cases hbodies : bodies env ms with
  | nil => rfl
  | cons f rest =>
    rw [hbodies, List.length_cons] at hone
    rw [List.eq_nil_of_length_eq_zero (by omega : rest.length = 0)]
    rfl

/-- Under one name a part of the request has one binding. -/
theorem binding_unique (h : InOrder env ms) {y : Binding} (hx : x ∈ bindings env ms)
    (hy : y ∈ bindings env ms) (hplace : x.place = y.place) (hp : ∀ s, x.place ≠ .other s)
    (hname : x.filler.name = y.filler.name) : x = y := by
  have hnodup := h.distinct x.place hp
  refine List.inj_on_of_nodup_map hnodup ?_ ?_ hname
  · exact List.mem_filter.mpr ⟨hx, by simp⟩
  · exact List.mem_filter.mpr ⟨hy, by simp [hplace]⟩

theorem mem_entries {T : Table} {f : Filler} : f ∈ (Fillers.declared env ms).entries T ↔
    ∃ x ∈ bindings env ms, T.holds x.tag x.isKeyed = true ∧ x.filler = f := by
  rw [entries_declared, Fillers.table]
  simp [and_assoc]

theorem alike_declared (h : InOrder env ms) {T T' : Table} (hbase : T.base = T'.base) {f g : Filler}
    (hf : f ∈ (Fillers.declared env ms).entries T) (hg : g ∈ (Fillers.declared env ms).entries T')
    (hname : f.name = g.name) : f = g := by
  obtain ⟨x, hx, hholds, rfl⟩ := mem_entries.mp hf
  obtain ⟨y, hy, hholds', rfl⟩ := mem_entries.mp hg
  have hplace : x.place = y.place := by
    rw [Table.place_of_holds hholds, Table.place_of_holds hholds', Table.place, hbase, Table.place]
  have hp : ∀ s, x.place ≠ .other s := by
    rw [Table.place_of_holds hholds]
    exact T.place_ne_other
  rw [binding_unique h hx hy hplace hp hname]

/-- Fields behind the others leave the entries of these where they are. -/
theorem entries_prefix (before after : List (Member Ty)) (T : Table) :
    (Fillers.declared env before).entries T <+:
      (Fillers.declared env (before ++ after)).entries T := by
  rw [entries_eq_filterMap, entries_eq_filterMap, List.filterMap_append]
  exact List.prefix_append _ _

theorem InOrder.before {before after : List (Member Ty)} (h : InOrder env (before ++ after)) :
    InOrder env before := by
  induction after using List.reverseRecOn with
  | nil => rwa [List.append_nil] at h
  | append_singleton after m ih =>
    rw [← List.append_assoc] at h
    exact ih (inOrder_concat.mp h).1

/-- A flag that only query parameters have is on for these alone, and not beside the other one. -/
theorem Tag.form_of_read {text : String} {tag : Tag} (h : Tag.read false text = .ok tag)
    (hform : tag.form = true) : tag.base = "query" ∧ tag.formOnly = false := by
  obtain ⟨settings, -, hfits, hdescribes⟩ := Tag.read_eq_ok_iff.mp h
  have hgiven : ∀ {f b}, Tag.FlagIs settings f false b → b = true → .flag f true ∈ settings := by
    rintro f b (hmem | ⟨-, rfl⟩) hb
    · rwa [hb] at hmem
    · cases hb
  have hmem := hgiven hdescribes.form hform
  constructor
  · rw [hdescribes.base]
    by_contra hbase
    exact hfits.query rfl hbase .form (by decide) hmem
  · refine Bool.eq_false_iff.mpr fun honly => ?_
    exact hfits.form ⟨hmem, hgiven hdescribes.formOnly honly⟩

/-- What a field is registered as, by its tag. -/
theorem fields_declared (hm : m.Compiles env) {text : String}
    (ht : m.tag? env.options.tagKey = some text) :
    ∃ tag, Tag.read false text = .ok tag ∧ (tag.base ≠ "-" →
      (tag.base = "model" ∧ m.body? env.options.tagKey = some ⟨m.name, m.type⟩) ∨
      ∃ u, m.type.unpacker env (m.site tag) tag = .ok u ∧
        ∀ T : Table, m.fillerIn? env T = if T.holds tag u.deepObject?.isSome then
          some ⟨m.name, if tag.name = "" then m.name else tag.name, u⟩ else none) := by
  obtain ⟨tag, hread, hu⟩ := hm text ht
  have hown : m.ownTag? env.options.tagKey = some tag :=
    Member.ownTag?_eq_some.mpr ⟨text, ht, hread⟩
  refine ⟨tag, hread, fun hskip => ?_⟩
  by_cases hmodel : tag.base = "model"
  · refine .inl ⟨hmodel, ?_⟩
    rw [Member.body?, hown, Option.bind_some, if_pos hmodel]
  · obtain ⟨u, hu⟩ := hu hskip hmodel
    refine .inr ⟨u, hu, fun T => ?_⟩
    rw [Member.fillerIn?, Member.binding?_eq_some hown hskip hmodel hu]
    rfl

/-- A field with a tag has one entry, and one more when both the query and a form fill it. -/
theorem one_entry (hm : m.Compiles env) :
    (m.body? env.options.tagKey).toList.length + (m.fillerIn? env .path).toList.length +
        (m.fillerIn? env .header).toList.length + (m.fillerIn? env .cookie).toList.length +
        (m.fillerIn? env .query).toList.length + (m.fillerIn? env .deepObject).toList.length +
        (m.fillerIn? env .form).toList.length + (m.fillerIn? env .formDeepObject).toList.length =
      (m.isTagged env.options.tagKey).toNat + (m.isForForm env.options.tagKey).toNat := by
  cases hown : m.ownTag? env.options.tagKey with
  | none =>
    simp [Member.body?, Member.fillerIn?, Member.binding?, Member.isTagged, Member.isForForm, hown]
  | some tag =>
    obtain ⟨text, ht, hread⟩ := Member.ownTag?_eq_some.mp hown
    have hbase := base_mem_of_read hread
    have hform := Tag.form_of_read hread
    have hnone : tag.base = "-" ∨ tag.base = "model" → m.binding? env = none := fun h => by
      rw [Member.binding?, hown, Option.bind_some, if_pos h]
    have hoff : tag.base ≠ "query" → tag.form = false := fun h =>
      Bool.eq_false_iff.mpr fun hon => h (hform hon).1
    by_cases hskip : tag.base = "-"
    · simp [Member.body?, Member.fillerIn?, Member.isTagged, Member.isForForm, hown, hskip, hnone,
        hoff]
    by_cases hmodel : tag.base = "model"
    · simp [Member.body?, Member.fillerIn?, Member.isTagged, Member.isForForm, hown, hmodel, hnone,
        hoff]
    obtain ⟨x, hx, hxtag⟩ : ∃ x, m.binding? env = some x ∧ x.tag = tag := by
      obtain ⟨tag', hread', hu⟩ := hm text ht
      rw [hread] at hread'
      cases hread'
      obtain ⟨u, hu⟩ := hu hskip hmodel
      exact ⟨_, Member.binding?_eq_some hown hskip hmodel hu, rfl⟩
    have hentry : ∀ T : Table,
        (m.fillerIn? env T).toList.length = (T.holds tag x.isKeyed).toNat := by
      intro T
      rw [Member.fillerIn?, hx, Option.bind_some, hxtag]
      cases T.holds tag x.isKeyed <;> rfl
    have hbody : m.body? env.options.tagKey = none := by
      rw [Member.body?, hown, Option.bind_some, if_neg hmodel]
    simp only [hentry, hbody, Member.isTagged, Member.isForForm, hown, Option.any_some,
      Table.holds, Table.base]
    simp only [Tag.bases, List.mem_cons, List.not_mem_nil, or_false, hskip, hmodel,
      false_or] at hbase
    rcases hbase with hb | hb | hb | hb
    · simp [hb, hoff]
    · -- a query parameter is for the query, for a form or for both, with keys or without
      cases hf : tag.form <;> cases ho : tag.formOnly <;> cases x.isKeyed <;> simp_all
    · simp [hb, hoff]
    · simp [hb, hoff]

end Declared

/-- The entries of a list of fields are those of the first one and of the others. -/
theorem length_filterMap_cons {α β : Type} (f : α → Option β) (a : α) (l : List α) :
    ((a :: l).filterMap f).length = (f a).toList.length + (l.filterMap f).length := by
  rw [List.filterMap_cons]
  cases f a with
  | none => simp
  | some b =>
    simp only [List.length_cons, Option.toList_some, List.length_nil]
    omega

/-- **How many entries there are.** -/
theorem count_declared {env : Env} {ms : List (Member Ty)} (h : InOrder env ms) :
    (Fillers.declared env ms).count = ms.countP (·.isTagged env.options.tagKey) +
      ms.countP (·.isForForm env.options.tagKey) := by
  have hcount : ∀ fs : Fillers, fs.count = fs.body.toList.length + (fs.entries .path).length +
      (fs.entries .header).length + (fs.entries .cookie).length + (fs.entries .query).length +
      (fs.entries .deepObject).length + (fs.entries .form).length +
      (fs.entries .formDeepObject).length := by
    intro fs
    simp only [Fillers.entries, List.length_map]
    rfl
  rw [hcount]
  simp only [body_declared h, entries_eq_filterMap]
  replace h := h.compiles
  induction ms with
  | nil => rfl
  | cons m ms ih =>
    have hone := one_entry (h m List.mem_cons_self)
    have hrest := ih fun m' hm' => h m' (List.mem_cons_of_mem m hm')
    have hcons : ∀ p : Member Ty → Bool, (m :: ms).countP p = ms.countP p + (p m).toNat := by
      intro p
      rw [List.countP_cons]
      cases p m <;> rfl
    simp only [length_filterMap_cons, hcons]
    omega

/-- **Registration.** The fields of a declaration in order are registered in its tables. -/
theorem registered_declared {env : Env} {model : String} {ms : List (Member Ty)}
    (h : InOrder env ms) : Registered env model ms (.declared env ms) where
  fields := fun m hm text ht => fields_declared (h.compiles m hm) ht
  body := body_declared h
  entries := entries_eq_filterMap
  kept := by
    rintro before after rfl
    refine ⟨.declared env before, Fillers.ofMembers_eq_ok.mpr ⟨h.before, rfl⟩, ?_,
      entries_prefix before after⟩
    rw [body_declared h, body_declared h.before, List.filterMap_append]
    exact List.prefix_append _ _
  once := fun T => by
    rw [entries_declared]
    exact nodup_table h T.place_ne_other fun x hx => Table.place_of_holds hx
  alike := fun T T' hbase f hf g hg hname => alike_declared h hbase hf hg hname
  count := count_declared h

/-! ### Models without anything to register -/

section Declined

variable {env : Env} {h : ModelHead} {ms : List (Member Ty)}

/-- There is nothing to register: every tag can be read and leaves its field out. -/
def LeavesOut (env : Env) (ms : List (Member Ty)) : Prop :=
  ∀ m ∈ ms, ∀ text, m.tag? env.options.tagKey = some text →
    ∃ tag, Tag.read false text = .ok tag ∧ tag.base = "-"

theorem LeavesOut.base (hout : LeavesOut env ms) {m : Member Ty} (hm : m ∈ ms) {tag : Tag}
    (htag : m.ownTag? env.options.tagKey = some tag) : tag.base = "-" := by
  obtain ⟨text, ht, hread⟩ := Member.ownTag?_eq_some.mp htag
  obtain ⟨tag', hread', hbase⟩ := hout m hm text ht
  rw [hread] at hread'
  cases hread'
  exact hbase

theorem LeavesOut.bodies (hout : LeavesOut env ms) : bodies env ms = [] := by
  refine List.filterMap_eq_nil_iff.mpr fun m hm => ?_
  rw [Member.body?, Option.bind_eq_none_iff]
  intro tag htag
  rw [hout.base hm htag]
  rfl

theorem LeavesOut.bindings (hout : LeavesOut env ms) : bindings env ms = [] := by
  refine List.filterMap_eq_nil_iff.mpr fun m hm => ?_
  rw [Member.binding?, Option.bind_eq_none_iff]
  intro tag htag
  rw [if_pos (.inl (hout.base hm htag))]

theorem LeavesOut.inOrder (hout : LeavesOut env ms) : InOrder env ms where
  compiles := fun m hm text ht => by
    obtain ⟨tag, hread, hbase⟩ := hout m hm text ht
    exact ⟨tag, hread, fun hskip => absurd hbase hskip⟩
  one_body := by simp [hout.bodies]
  distinct := by simp [hout.bindings]

/-- A declaration in order has empty tables exactly when it has nothing to register. -/
theorem leavesOut_iff :
    LeavesOut env ms ↔ InOrder env ms ∧ (Fillers.declared env ms).count = 0 := by
  constructor
  · intro hout
    refine ⟨hout.inOrder, ?_⟩
    rw [Fillers.declared, hout.bodies, hout.bindings]
    rfl
  · rintro ⟨hms, hcount⟩ m hm text ht
    obtain ⟨tag, hread, -⟩ := hms.compiles m hm text ht
    refine ⟨tag, hread, ?_⟩
    rw [count_declared hms] at hcount
    have hnone := List.countP_eq_zero.mp (Nat.eq_zero_of_add_eq_zero_right hcount) m hm
    rw [Member.isTagged, Member.ownTag?_eq_some.mpr ⟨text, ht, hread⟩] at hnone
    simpa using hnone

/-- A model is declined when it has nothing to register, and only then. -/
theorem ModelHead.compile_declines :
    (∃ c, h.compile env ms = .ok c ∧ c.binder? = none) ↔ LeavesOut env ms := by
  rw [leavesOut_iff]
  constructor
  · rintro ⟨c, hc, hnone⟩
    have hms := inOrder_of_compile hc
    refine ⟨hms, ?_⟩
    by_contra hcount
    obtain ⟨fs, hfs, hc⟩ := bind_eq_ok.mp hc
    obtain ⟨-, rfl⟩ := Fillers.ofMembers_eq_ok.mp hfs
    rw [if_neg hcount] at hc
    obtain ⟨_, -, hc⟩ := bind_eq_ok.mp hc
    cases hc
    cases hnone
  · rintro ⟨hms, hcount⟩
    refine ⟨.declined h.cls.name, ?_, rfl⟩
    rw [compile, Fillers.ofMembers_eq_ok.mpr ⟨hms, rfl⟩]
    exact if_pos hcount

end Declined

/-- **No field is lost or registered twice.** Where a model has a binder, its fields are registered
in the tables of the binder. It has none, and no error either, exactly when there is nothing to
register. -/
theorem Ty.registration {env : Env} {t : Ty} {h : ModelHead} {ms : List (Member Ty)}
    (hmodel : t.documentShape = .struct h ms) :
    (∀ b, t.compile env = .ok (.binder b) → Registered env h.cls.name ms b.fillers) ∧
      ((∃ c, t.compile env = .ok c ∧ c.binder? = none) ↔ LeavesOut env ms) := by
  have hcompile : t.compile env = h.compile env ms := by
    rw [Ty.compile_eq_compile, hmodel]
    rfl
  rw [hcompile]
  refine ⟨fun b hb => ?_, ModelHead.compile_declines⟩
  obtain ⟨hms, -, -, rfl⟩ := ModelHead.compile_eq_binder.mp hb
  exact registered_declared hms

/-- Fields for a header, a parameter of the query, one of the query and of forms, and a map of forms
alone, and a field that is left out. -/
def searchFields : List (Member Ty) :=
  [{ name := "trace", type := .str, tags := [(defaultTagKey, "header,name=X-Trace")] },
    { name := "page", type := .scalar { kind := .int }, tags := [(defaultTagKey, "query")] },
    { name := "term", type := .str, tags := [(defaultTagKey, "query,name=q,form")] },
    { name := "filter", type := .map .dict .str .str true,
      tags := [(defaultTagKey, "query,deepObject,formOnly")] },
    { name := "notes", type := .str, tags := [(defaultTagKey, "-")] }]

/-- A model with these fields. -/
def search : Ty := .model { cls := { name := "Search" } } searchFields

/-- Four of its fields have five entries, one of them a second time in the table of forms. -/
theorem search_registered : ∃ b, search.compile ⟨{}, []⟩ = .ok (.binder b) ∧
    Registered ⟨{}, []⟩ "Search" searchFields b.fillers ∧
    b.fillers.query.map (·.name) = ["page", "q"] ∧ b.fillers.form.map (·.name) = ["q"] ∧
    b.fillers.formDeepObject.map (·.name) = ["filter"] ∧ b.fillers.count = 5 := by
  have hb : search.compile ⟨{}, []⟩ = .ok (.binder (.declared ⟨{}, []⟩ _ _)) := rfl
  exact ⟨_, hb, (Ty.registration rfl).1 _ hb, rfl, rfl, rfl, rfl⟩

end ParamBinding
