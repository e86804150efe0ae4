import ParamBinding.Proofs.KeyRoundTrip

/-!
# Lists there and back

A model of lists of texts, each under a name of its own (`IsListModel`), is filled from a query in
which every text is written as a pair `name=value`. The pairs of different names may come in any order
(`Occurrences`), and every list comes back whole and in its own order (`ModelHead.lists_round_trip`).

Three facts carry this. The pairs of a query are those that are written in it, whatever characters
they are made of. Every name is found in the table of its own field, so what is done for a query is one
step for each name (`Binder.schedule_plain`). And the step of a name puts all texts of that name into
that field (`Binder.outcome_texts`), so only one step puts something into a field.

As with keys, a reader that is registered for texts must not change them.
-/

namespace ParamBinding

open ParamBinding.Text

/-! ### Fields for lists of texts -/

/-- A tag that asks for every occurrence of a parameter of the query, and neither for keys nor for
documents. A form may give the parameter as well. -/
structure Tag.WantsTexts (tag : Tag) : Prop where
  base : tag.base = "query"
  explode : tag.explode = true
  deepObject : tag.deepObject = false
  content : tag.content = ""
  formOnly : tag.formOnly = false

namespace Member

/-- The name of the parameter that a field asks for, and the name of the field. -/
def asked? (key : String) (m : Member Ty) : Option (String × String) :=
  (m.ownTag? key).bind fun tag =>
    if tag.base = "-" then none else some ((m.site tag).name, m.name)

/-- If the tag of a field does not leave it alone, the field is for the texts of a parameter. -/
def IsTextList (key : String) (m : Member Ty) : Prop :=
  ∀ text, m.tag? key = some text → ∃ tag, Tag.read false text = .ok tag ∧
    (tag.base ≠ "-" → tag.WantsTexts ∧
      ∃ lists, lists.gathers = .list ∧ m.type = .sequence lists .str true)

end Member

/-- The names of the parameters that the fields of a model ask for, each with that of its field. -/
def asked (key : String) (ms : List (Member Ty)) : List (String × String) :=
  ms.filterMap (·.asked? key)

/-- A model with some field for a list of texts and no other fields with tags. No two fields have the
same name, and no two of them ask for the same parameter. -/
structure IsListModel (key : String) (ms : List (Member Ty)) : Prop where
  fields : ∀ m ∈ ms, m.IsTextList key
  ne_nil : asked key ms ≠ []
  nodup_fields : (ms.map (·.name)).Nodup
  nodup_names : ((asked key ms).map (·.1)).Nodup

namespace Member

variable {env : Env} {m : Member Ty} {tag : Tag} {a : String × String} {x : Binding}

theorem asked?_eq_some {key : String} : m.asked? key = some a ↔
    ∃ tag, m.ownTag? key = some tag ∧ tag.base ≠ "-" ∧ a = ((m.site tag).name, m.name) := by
  rw [asked?, Option.bind_eq_some_iff]
  refine exists_congr fun tag => and_congr_right fun _ => ?_
  by_cases hskip : tag.base = "-"
  · simp [hskip]
  · simp [hskip, eq_comm]

namespace IsTextList

variable (h : m.IsTextList env.options.tagKey)
include h

theorem wantsTexts (htag : m.ownTag? env.options.tagKey = some tag) (hskip : tag.base ≠ "-") :
    tag.WantsTexts ∧ ∃ lists, lists.gathers = .list ∧ m.type = .sequence lists .str true := by
  obtain ⟨text, htext, hread⟩ := ownTag?_eq_some.mp htag
  obtain ⟨tag', hread', hwants⟩ := h text htext
  rw [hread] at hread'
  cases hread'
  exact hwants hskip

theorem base_ne_model (htag : m.ownTag? env.options.tagKey = some tag) : tag.base ≠ "model" := by
  intro hmodel
  have hskip : tag.base ≠ "-" := by
    rw [hmodel]
    decide
  rw [(h.wantsTexts htag hskip).1.base] at hmodel
  exact absurd hmodel (by decide)

/-- Such a field is not filled from the body as a whole. -/
theorem body?_eq_none : m.body? env.options.tagKey = none := by
  rw [body?, Option.bind_eq_none_iff]
  exact fun tag htag => if_neg (h.base_ne_model htag)

variable (hkeeps : env.registry.KeepsTexts)
include hkeeps

/-- The texts of its parameter are read one by one. -/
theorem unpacker_eq (htag : m.ownTag? env.options.tagKey = some tag) (hskip : tag.base ≠ "-") :
    m.type.unpacker env (m.site tag) tag = .ok (.multi keepTexts) := by
  obtain ⟨hwants, lists, hlists, htype⟩ := h.wantsTexts htag hskip
  have hplace : (m.site tag).place = .query := by
    rw [site, hwants.base]
    rfl
  rw [Ty.unpacker, Env.mode, if_pos hwants.content, htype]
  exact Ty.build_texts hkeeps hlists hplace hwants.explode hwants.deepObject

theorem compiles : m.Compiles env := by
  intro text htext
  obtain ⟨tag, hread, -⟩ := h text htext
  exact ⟨tag, hread, fun hskip _ =>
    ⟨_, h.unpacker_eq hkeeps (ownTag?_eq_some.mpr ⟨text, htext, hread⟩) hskip⟩⟩

theorem binding?_eq_some : m.binding? env = some x ↔
    ∃ tag, m.ownTag? env.options.tagKey = some tag ∧ tag.base ≠ "-" ∧
      x = ⟨tag, m.type, ⟨m.name, (m.site tag).name, .multi keepTexts⟩⟩ := by
  constructor
  · intro hx
    obtain ⟨tag, htag, hx⟩ := Option.bind_eq_some_iff.mp hx
    split at hx
    · cases hx
    · rename_i hbase
      have hskip : tag.base ≠ "-" := fun hskip => hbase (.inl hskip)
      rw [h.unpacker_eq hkeeps htag hskip] at hx
      cases hx
      exact ⟨tag, htag, hskip, rfl⟩
  · rintro ⟨tag, htag, hskip, rfl⟩
    exact Member.binding?_eq_some htag hskip (h.base_ne_model htag)
      (h.unpacker_eq hkeeps htag hskip)

/-- A field has a filler for the parameter that it asks for. -/
theorem map_binding? :
    (m.binding? env).map (fun x => (x.filler.name, x.filler.field)) =
      m.asked? env.options.tagKey := by
  ext a
  rw [Option.map_eq_some_iff, asked?_eq_some]
  constructor
  · rintro ⟨x, hx, rfl⟩
    obtain ⟨tag, htag, hskip, rfl⟩ := (h.binding?_eq_some hkeeps).mp hx
    exact ⟨tag, htag, hskip, rfl⟩
  · rintro ⟨tag, htag, hskip, rfl⟩
    exact ⟨_, (h.binding?_eq_some hkeeps).mpr ⟨tag, htag, hskip, rfl⟩, rfl⟩

/-- It is filled from the query, with the texts as they are. -/
theorem of_binding? (hx : m.binding? env = some x) :
    x.place = .query ∧ x.tag.formOnly = false ∧ x.filler.unpacker = .multi keepTexts := by
  obtain ⟨tag, htag, hskip, rfl⟩ := (h.binding?_eq_some hkeeps).mp hx
  obtain ⟨hwants, -⟩ := h.wantsTexts htag hskip
  refine ⟨?_, hwants.formOnly, rfl⟩
  rw [Binding.place, hwants.base]
  rfl

end IsTextList

end Member

/-! ### Models of such fields -/

namespace IsListModel

/-- A parameter is asked for by the field of its name, and by no other one. -/
theorem asked?_eq {key : String} {ms : List (Member Ty)} (hms : IsListModel key ms) {m : Member Ty}
    (hm : m ∈ ms) {a : String × String} (ha : a ∈ asked key ms) (hfield : a.2 = m.name) :
    m.asked? key = some a := by
  obtain ⟨m', hm', ha⟩ := List.mem_filterMap.mp ha
  obtain ⟨tag, -, -, rfl⟩ := Member.asked?_eq_some.mp ha
  rwa [List.inj_on_of_nodup_map hms.nodup_fields hm hm' hfield.symm]

variable {env : Env} {h : ModelHead} {ms : List (Member Ty)}
  (hms : IsListModel env.options.tagKey ms) (hkeeps : env.registry.KeepsTexts)
include hms

theorem bodies_eq_nil : bodies env ms = [] :=
  List.filterMap_eq_nil_iff.mpr fun m hm => (hms.fields m hm).body?_eq_none

include hkeeps

theorem map_bindings :
    (bindings env ms).map (fun x => (x.filler.name, x.filler.field)) =
      asked env.options.tagKey ms := by
  rw [bindings, List.map_filterMap, asked]
  exact List.filterMap_congr fun m hm => (hms.fields m hm).map_binding? hkeeps

theorem of_mem_bindings {x : Binding} (hx : x ∈ bindings env ms) :
    x.place = .query ∧ x.tag.formOnly = false ∧ x.filler.unpacker = .multi keepTexts := by
  obtain ⟨m, hm, hx⟩ := List.mem_filterMap.mp hx
  exact (hms.fields m hm).of_binding? hkeeps hx

theorem inOrder : InOrder env ms := by
  refine ⟨fun m hm => (hms.fields m hm).compiles hkeeps, ?_, fun p _ => ?_⟩
  · rw [hms.bodies_eq_nil]
    exact Nat.zero_le 1
  · have hnames : (bindings env ms).map (·.filler.name) =
        (asked env.options.tagKey ms).map (·.1) := by
      rw [← hms.map_bindings hkeeps, List.map_map]
      rfl
    refine List.Nodup.sublist (List.filter_sublist.map _) ?_
    rw [hnames]
    exact hms.nodup_names

/-- Everything such a model is filled from is found in the query, and perhaps in a form, by names
without keys. -/
theorem declared_eq : ∃ forms, Fillers.declared env ms =
    { query := (bindings env ms).map (·.filler), form := forms } := by
  have hkeyless : ∀ x ∈ bindings env ms, x.isKeyed = false := by
    intro x hx
    rw [Binding.isKeyed, (hms.of_mem_bindings hkeeps hx).2.2]
    rfl
  have hquery : Fillers.table (bindings env ms) (fun x => x.inQuery && !x.isKeyed) =
      (bindings env ms).map (·.filler) := by
    rw [Fillers.table, List.filter_eq_self.mpr]
    intro x hx
    obtain ⟨hplace, hformOnly, -⟩ := hms.of_mem_bindings hkeeps hx
    rw [Binding.inQuery, hplace, hformOnly, hkeyless x hx]
    rfl
  have hnone : ∀ part : Binding → Bool,
      Fillers.table (bindings env ms) (fun x => part x && x.isKeyed) = [] := by
    intro part
    rw [Fillers.table, List.map_eq_nil_iff, List.filter_eq_nil_iff]
    intro x hx
    rw [hkeyless x hx, Bool.and_false]
    exact Bool.false_ne_true
  rw [Fillers.declared, hms.bodies_eq_nil, List.head?_nil,
    Fillers.ofBindings_query fun x hx => (hms.of_mem_bindings hkeeps hx).1, hquery, hnone, hnone]
  exact ⟨_, rfl⟩

/-- **Such a model has a binder.** -/
theorem compile_eq :
    (Ty.model h ms).compile env = .ok (.binder (.declared env h ms)) := by
  obtain ⟨forms, htables⟩ := hms.declared_eq hkeeps
  refine ModelHead.compile_eq_binder.mpr ⟨hms.inOrder hkeeps, ?_, ?_, rfl⟩
  · have hne : bindings env ms ≠ [] := by
      intro hnil
      refine hms.ne_nil ?_
      rw [← hms.map_bindings hkeeps, hnil]
      rfl
    have hpos := List.length_pos_of_ne_nil hne
    rw [htables, Fillers.count, List.length_map]
    omega
  · rw [htables]
    exact Fillers.check_eq_ok.mpr ⟨by rintro ⟨⟩, by rintro ⟨⟩⟩

end IsListModel

/-! ### One step for each name -/

namespace Binder

variable {b : Binder} {plain forms : List Filler} {r : Request} {body : Bytes}

section Plain

variable (hfillers : b.fillers = { query := plain, form := forms })
include hfillers

theorem readable_plain (r : Request) : b.Readable r :=
  readable_of_eq_nil (by rw [hfillers]) (by rw [hfillers]) r

/-- Nothing is kept for keys when no parameter has any. -/
theorem roots_plain (r : Request) (body : Bytes) : b.roots r body = [] := by
  have hkeyed : ∀ part, b.keyedTable part = [] := by
    intro part
    cases part <;> rw [keyedTable, hfillers]
  rw [List.eq_nil_iff_forall_not_mem]
  intro root hroot
  obtain ⟨f, hf⟩ := deepFiller?_of_mem_roots hroot
  obtain ⟨part, hpart⟩ := lookup_of_deepFiller? hf
  rw [hkeyed part] at hpart
  cases hpart

/-- Without a form a request is dealt with name by name. -/
theorem schedule_plain (hform : b.formPart r body = .ok []) :
    b.schedule r body = (b.names r body .query).map (.name .query) := by
  have hsteps : b.formSteps r body = [] := by
    rw [formSteps, names, items, hform]
    rfl
  rw [schedule, hsteps, roots_plain hfillers, hfillers]
  simp

end Plain

/-- What is done for the name of a parameter puts all of its texts into its field. -/
theorem outcome_texts (hd : b.Distinct) {f : Filler} (hf : f ∈ b.plainTable .query)
    (hunpacker : f.unpacker = .multi keepTexts) (r : Request) (body : Bytes) :
    b.outcome r body (.name .query f.name) =
      .put f.field (.list ((b.values r body .query f.name).map .text)) := by
  rw [outcome, usage_eq_parameter.mpr ((lookup_plain hd).mpr ⟨hf, rfl⟩)]
  simp only [NameUse.outcome, Filler.fillList, hunpacker, Unpacker.multi?]
  rfl

end Binder

/-! ### Lists in a query -/

section Query

variable {env : Env} {h : ModelHead} {ms : List (Member Ty)} {texts : String → List String}
  {occ : List (String × String)}
  (hocc : Occurrences ((asked env.options.tagKey ms).map fun a => (a.1, texts a.2)) occ)
  {r : Request} (hitems : r.queryPairs = occ) (body : Bytes)
include hocc hitems

/-- Every name in the query is that of a parameter that a field asks for. -/
theorem exists_asked {name : String}
    (hname : name ∈ (Binder.declared env h ms).names r body .query) :
    ∃ a ∈ asked env.options.tagKey ms, a.1 = name := by
  rw [Binder.names, Binder.items, hitems] at hname
  obtain ⟨o, ho, rfl⟩ := mem_names.mp hname
  obtain ⟨e, he, heq⟩ := List.mem_map.mp (hocc.keys o ho)
  obtain ⟨a, ha, rfl⟩ := List.mem_map.mp he
  exact ⟨a, ha, heq⟩

/-- The texts of a field stand in the query under the name of its parameter. -/
theorem values_asked {a : String × String} (ha : a ∈ asked env.options.tagKey ms) :
    (Binder.declared env h ms).values r body .query a.1 = texts a.2 := by
  rw [Binder.values, Binder.items, hitems]
  exact hocc.values _ (List.mem_map.mpr ⟨a, ha, rfl⟩)

/-- A parameter of a field with some text has its name in the query. -/
theorem mem_names_asked {a : String × String} (ha : a ∈ asked env.options.tagKey ms)
    (hne : texts a.2 ≠ []) : a.1 ∈ (Binder.declared env h ms).names r body .query := by
  rw [← values_asked hocc hitems body (h := h) ha] at hne
  obtain ⟨v, hv⟩ := List.exists_mem_of_ne_nil _ hne
  obtain ⟨o, ho, -⟩ := List.mem_map.mp hv
  obtain ⟨ho, hname⟩ := List.mem_filter.mp ho
  exact mem_names.mpr ⟨o, ho, of_decide_eq_true hname⟩

variable (hms : IsListModel env.options.tagKey ms) (hkeeps : env.registry.KeepsTexts)
include hms hkeeps

/-- The name of a parameter puts the texts of its field into this field. -/
theorem outcome_asked {a : String × String} (ha : a ∈ asked env.options.tagKey ms) :
    (Binder.declared env h ms).outcome r body (.name .query a.1) =
      .put a.2 (.list ((texts a.2).map .text)) := by
  have hdistinct := Binder.distinct_of_compile (hms.compile_eq (h := h) hkeeps)
  have hvalues := values_asked hocc hitems body (h := h) ha
  obtain ⟨forms, hfillers⟩ := hms.declared_eq hkeeps
  rw [← hms.map_bindings hkeeps] at ha
  obtain ⟨x, hx, rfl⟩ := List.mem_map.mp ha
  have hplain : x.filler ∈ (Binder.declared env h ms).plainTable .query := by
    rw [Binder.plainTable, Binder.declared, hfillers]
    exact List.mem_map.mpr ⟨x, hx, rfl⟩
  rw [Binder.outcome_texts hdistinct hplain (hms.of_mem_bindings hkeeps hx).2.2, hvalues]

variable (hform : (Binder.declared env h ms).formPart r body = .ok [])
include hform

/-- No step fails. -/
theorem firstFault?_lists : (Binder.declared env h ms).firstFault? r body = none := by
  obtain ⟨forms, hfillers⟩ := hms.declared_eq hkeeps
  rw [Binder.firstFault?, Binder.schedule_plain hfillers hform, List.findSome?_eq_none_iff]
  intro o ho
  rw [List.map_map] at ho
  obtain ⟨name, hname, rfl⟩ := List.mem_map.mp ho
  obtain ⟨a, ha, rfl⟩ := exists_asked hocc hitems body hname
  rw [Function.comp_apply, outcome_asked hocc hitems body hms hkeeps ha]
  rfl

/-- What is put into a field: the list of its texts, once, or nothing if it asks for no parameter. -/
theorem puts_lists (hne : ∀ a ∈ asked env.options.tagKey ms, texts a.2 ≠ []) {m : Member Ty}
    (hm : m ∈ ms) :
    puts m.name (((Binder.declared env h ms).schedule r body).map
        ((Binder.declared env h ms).outcome r body)) =
      ((m.asked? env.options.tagKey).map fun _ => .list ((texts m.name).map .text)).toList := by
  obtain ⟨forms, hfillers⟩ := hms.declared_eq hkeeps
  -- a name puts something into the field only if the field asks for it
  have hmine : ∀ name ∈ (Binder.declared env h ms).names r body .query,
      m.asked? env.options.tagKey ≠ some (name, m.name) →
        ((Binder.declared env h ms).outcome r body (.name .query name)).value? m.name = none := by
    intro name hname hother
    obtain ⟨a, ha, rfl⟩ := exists_asked hocc hitems body hname
    rw [outcome_asked hocc hitems body hms hkeeps ha]
    refine if_neg fun hfield => hother ?_
    rw [← hfield]
    exact hms.asked?_eq hm ha hfield
  rw [Binder.schedule_plain hfillers hform, List.map_map]
  cases hasked : m.asked? env.options.tagKey with
  | none =>
    refine puts_map_eq_nil.mpr fun name hname => hmine name hname ?_
    rw [hasked]
    rintro ⟨⟩
  | some a =>
    have ha : a ∈ asked env.options.tagKey ms := List.mem_filterMap.mpr ⟨m, hm, hasked⟩
    obtain ⟨tag, -, -, rfl⟩ := Member.asked?_eq_some.mp hasked
    have honce : ((Binder.declared env h ms).names r body .query).filter
        (· = (m.site tag).name) = [(m.site tag).name] := by
      have hmem : (m.site tag).name ∈ (Binder.declared env h ms).names r body .query :=
        mem_names_asked hocc hitems body ha (hne _ ha)
      have hnodup : ((Binder.declared env h ms).names r body .query).Nodup := nodup_eraseDups _
      rw [List.filter_eq, List.count_eq_one_of_mem hnodup hmem, List.replicate_one]
    rw [← puts_filter _ _ (· = (m.site tag).name), honce]
    · simp [puts, outcome_asked hocc hitems body hms hkeeps ha, Outcome.value?]
    · intro name hname hother
      refine hmine name hname ?_
      rw [hasked]
      intro heq
      exact of_decide_eq_false hother (congrArg Prod.fst (Option.some.inj heq)).symm

end Query

/-- **There and back.** Let the fields of a model that have tags be lists of texts, each from a
parameter of the query with a name of its own. Let a reader that is registered for texts not change
them. Then the model has a binder. Let it have a new instance as well, let there be some text for every
such field, and let all texts be written into a query, each in a pair of its own, the pairs of one name
in order and those of different names mixed in any way. Then a request with this query, which is read
as urlencoded data, and without a form that has pairs, is resolved, in a strict model as in one that is
not. Every such field holds the list of its texts, and every other field holds what it holds in the new
instance. -/
theorem ModelHead.lists_round_trip {env : Env} {h : ModelHead} {ms : List (Member Ty)}
    (hms : IsListModel env.options.tagKey ms) (hkeeps : env.registry.KeepsTexts) :
    (Ty.model h ms).compile env = .ok (.binder (.declared env h ms)) ∧
    ∀ (new : Record Value) (texts : String → List String) (occ : List (String × String))
      (pieces : List (List Char)) (r : Request) (body : Bytes),
      h.newInstance ms = .ok new → (∀ a ∈ asked env.options.tagKey ms, texts a.2 ≠ []) →
      Occurrences ((asked env.options.tagKey ms).map fun a => (a.1, texts a.2)) occ →
      List.Forall₂ Urlencoded.WritesPair occ pieces →
      r.ReadsPairs → r.query = utf8List (joinWith ['&'] pieces) →
      (Binder.declared env h ms).formPart r body = .ok [] →
      ∃ model, (Binder.declared env h ms).resolve r body = .ok model ∧
        ∀ m ∈ ms, model.get? m.name =
          if (m.asked? env.options.tagKey).isSome then some (.list ((texts m.name).map .text))
          else new.get? m.name := by
  refine ⟨hms.compile_eq hkeeps, ?_⟩
  intro new texts occ pieces r body hnew hne hocc hpieces hreads hquery hform
  have hitems := Urlencoded.queryPairs_written hpieces hreads hquery
  obtain ⟨forms, hfillers⟩ := hms.declared_eq hkeeps
  refine ⟨(Binder.declared env h ms).filled r body new, ?_, fun m hm => ?_⟩
  · rw [Binder.resolve_eq (Binder.readable_plain hfillers r) hnew,
      firstFault?_lists hocc hitems body hms hkeeps hform]
  · rw [Binder.filled, get?_foldl_apply _ _ (ModelHead.mem_names_newInstance hnew hm),
      puts_lists hocc hitems body hms hkeeps hform hne hm]
    cases m.asked? env.options.tagKey <;> rfl

/-- Two lists of texts, one of them under a name that has to be escaped, and a field without a tag. -/
def taggedMembers : List (Member Ty) := [
  { name := "tags", type := .sequence .list .str true, tags := [(defaultTagKey, "query")] },
  { name := "note", type := .str, initial := some (.text "none") },
  { name := "sizes", type := .sequence .list .str true,
    tags := [(defaultTagKey, "query,name=größe[&]")] }]

/-- The binder of a model with such fields, with readers that are registered. -/
def taggedBinder (strict : Bool) (readers : List (String × TextReader)) : Binder :=
  .declared ⟨{ strict := strict }, readers⟩ { cls := { name := "Tagged" } } taggedMembers

/-- The texts of the two lists. -/
def taggedTexts (field : String) : List String :=
  if field = "tags" then ["x & y", ""] else ["1+1=2"]

/-- Their occurrences, with the one size between the tags. -/
def taggedOccurrences : List (String × String) :=
  [("tags", "x & y"), ("größe[&]", "1+1=2"), ("tags", "")]

/-- A request with both lists. -/
def taggedRequest : Request := { query := Urlencoded.encodePairs taggedOccurrences }

theorem asked_tagged :
    asked defaultTagKey taggedMembers = [("tags", "tags"), ("größe[&]", "sizes")] := by
  decide +kernel

theorem isListModel_tagged : IsListModel defaultTagKey taggedMembers := by
  refine ⟨fun m hm => ?_, ?_, by decide, ?_⟩
  · have hwants : ∀ name, Tag.WantsTexts { base := "query", name := name, explode := true } :=
      fun name => ⟨rfl, rfl, rfl, rfl, rfl⟩
    simp only [taggedMembers, List.mem_cons, List.not_mem_nil, or_false] at hm
    rcases hm with rfl | rfl | rfl
    · rintro text ⟨⟩
      exact ⟨_, rfl, fun _ => ⟨hwants _, .list, rfl, rfl⟩⟩
    · rintro text ⟨⟩
    · rintro text ⟨⟩
      exact ⟨_, rfl, fun _ => ⟨hwants _, .list, rfl, rfl⟩⟩
  · rw [asked_tagged]
    decide
  · rw [asked_tagged]
    decide

theorem occurrences_tagged :
    Occurrences ((asked defaultTagKey taggedMembers).map fun a => (a.1, taggedTexts a.2))
      taggedOccurrences := by
  rw [asked_tagged]
  exact ⟨by decide, by decide⟩

theorem taggedTexts_ne_nil : ∀ a ∈ asked defaultTagKey taggedMembers, taggedTexts a.2 ≠ [] := by
  rw [asked_tagged]
  decide

/-- A strict model is given both lists back, the one whose texts are apart included. -/
theorem lists_mixed : ∃ model, (taggedBinder true []).resolve taggedRequest [] = .ok model ∧
      model.get? "tags" = some (.list [.text "x & y", .text ""]) ∧
      model.get? "sizes" = some (.list [.text "1+1=2"]) ∧
      model.get? "note" = some (.text "none") := by
  have hnew : ModelHead.newInstance { cls := { name := "Tagged" } } taggedMembers =
      .ok ⟨"Tagged", false, [("tags", some (.list [])), ("note", some (.text "none")),
        ("sizes", some (.list []))]⟩ := rfl
  obtain ⟨-, hresolve⟩ := @ModelHead.lists_round_trip ⟨{ strict := true }, []⟩
    { cls := { name := "Tagged" } } taggedMembers isListModel_tagged (by rintro reader ⟨⟩)
  obtain ⟨model, hmodel, hfields⟩ := hresolve _ taggedTexts taggedOccurrences _ taggedRequest []
    hnew taggedTexts_ne_nil occurrences_tagged (Urlencoded.writesPairs_encodePairs _)
    (Request.readsPairs_standard rfl) rfl rfl
  exact ⟨model, hmodel, hfields _ (.head _), hfields _ (.tail _ (.tail _ (.head _))),
    hfields _ (.tail _ (.head _))⟩

/-- With a reader that makes texts their lengths, the lists do not come back. -/
theorem lists_lost_by_length :
    ¬ ∀ (env : Env) (h : ModelHead) (ms : List (Member Ty)) (new : Record Value)
        (texts : String → List String) (occ : List (String × String)) (pieces : List (List Char))
        (r : Request) (body : Bytes),
      IsListModel env.options.tagKey ms → h.newInstance ms = .ok new →
      (∀ a ∈ asked env.options.tagKey ms, texts a.2 ≠ []) →
      Occurrences ((asked env.options.tagKey ms).map fun a => (a.1, texts a.2)) occ →
      List.Forall₂ Urlencoded.WritesPair occ pieces →
      r.ReadsPairs → r.query = utf8List (joinWith ['&'] pieces) →
      (Binder.declared env h ms).formPart r body = .ok [] →
      ∃ b model, (Ty.model h ms).compile env = .ok (.binder b) ∧ b.resolve r body = .ok model ∧
        ∀ m ∈ ms, (m.asked? env.options.tagKey).isSome →
          model.get? m.name = some (.list ((texts m.name).map .text)) := by
  intro hall
  have hb : (Ty.model { cls := { name := "Tagged" } } taggedMembers).compile
      ⟨{}, [("str", Sample.length)]⟩ =
      .ok (.binder (taggedBinder false [("str", Sample.length)])) := rfl
  obtain ⟨b, model, hb', hmodel, hfields⟩ := hall ⟨{}, [("str", Sample.length)]⟩
    { cls := { name := "Tagged" } } taggedMembers _ taggedTexts taggedOccurrences _ taggedRequest []
    isListModel_tagged rfl taggedTexts_ne_nil occurrences_tagged
    (Urlencoded.writesPairs_encodePairs _) (Request.readsPairs_standard rfl) rfl rfl
  rw [hb] at hb'
  cases hb'
  have hlengths : ∃ model',
      (taggedBinder false [("str", Sample.length)]).resolve taggedRequest [] = .ok model' ∧
        model'.get? "tags" = some (.list [.int 5, .int 0]) := ⟨_, rfl, rfl⟩
  obtain ⟨model', hmodel', htags⟩ := hlengths
  rw [hmodel] at hmodel'
  cases hmodel'
  cases htags.symm.trans (hfields _ (.head _) rfl)

end ParamBinding
