import ParamBinding.Proofs.KeyGathering

/-!
# The parameters of a request and the fields they fill

A parameter of a request is a path variable, a header, a cookie, or a name of the query or of a form.
Which fields it is for can be read off the tables of the model (`Binder.readers`), and nothing but the
parameters that are for a field decides what is put into it: two requests that agree on these
(`Binder.AgreeFor`) fill it alike, whatever else they say (`Binder.puts_congr`).

Names are compared as they stand when a model is compiled. So are the names of path variables, of
cookies, of the query and of forms when a request is resolved, and each of them is for one field at
most. The names of headers are compared without regard to case then: fields that ask for a header in
two ways of writing it are both filled from it (`Binder.one_lt_length_readers_header`).
-/

namespace ParamBinding

open ParamBinding.Text

/-- A parameter of a request. The name of a header is given in lower case. -/
inductive Parameter where
  | path (name : String)
  | header (name : String)
  | cookie (name : String)
  | key (part : NamePart) (name : String)
  deriving DecidableEq, Repr

/-- The fields that are filled by the fillers of a name. -/
def fieldsOf (table : List Filler) (name : String) : List String :=
  (table.filter (·.name = name)).map (·.field)

/-- The fields that are filled from a parameter. -/
def Binder.readers (b : Binder) : Parameter → List String
  | .path name => fieldsOf (b.fillers.path.map (·.toFiller)) name
  | .header name => (b.fillers.header.filter (lower ·.name = name)).map (·.field)
  | .cookie name => fieldsOf b.fillers.cookie name
  | .key part name =>
    -- a name with brackets may be that of a parameter, and then it is no key
    if name ∈ (b.plainTable part).map (·.name) then fieldsOf (b.plainTable part) name
    else match Urlencoded.bracketed? name with
      | some (root, _) => fieldsOf (b.keyedTable part) root
      | none => []

/-- The field that a step is for, where the request does not matter. Names and keys are for the
fields of the fillers that are found for them. -/
def Step.field? : Step → Option String
  | .body f => some f.field
  | .path f => some f.field
  | .header f => some f.field
  | .cookie f => some f.field
  | _ => none

/-- Outcomes with the same values for a field put the same into it. -/
theorem puts_map_congr {α : Type} {field : String} {xs : List α} {out out' : α → Outcome}
    (h : ∀ x ∈ xs, (out x).value? field = (out' x).value? field) :
    puts field (xs.map out) = puts field (xs.map out') := by
  unfold puts
  rw [List.filterMap_map, List.filterMap_map]
  exact List.filterMap_congr h

/-! ### One field for a name -/

section Names

variable {table : List Filler} {f : Filler} {field name : String}

theorem mem_fieldsOf : field ∈ fieldsOf table name ↔ ∃ f ∈ table, f.name = name ∧ f.field = field := by
  simp [fieldsOf, and_assoc]

/-- Where names are not repeated, one filler has a name at most. -/
theorem length_fieldsOf_le (h : (table.map (·.name)).Nodup) (name : String) :
    (fieldsOf table name).length ≤ 1 := by
  have hnames : ((table.filter (·.name = name)).map (·.name)).Nodup :=
    h.sublist (List.filter_sublist.map _)
  have hsame : (table.filter (·.name = name)).map (·.name) =
      List.replicate (table.filter (·.name = name)).length name := by
    rw [List.eq_replicate_iff]
    refine ⟨List.length_map _, fun n hn => ?_⟩
    obtain ⟨f, hf, rfl⟩ := List.mem_map.mp hn
    exact of_decide_eq_true (List.mem_filter.mp hf).2
  rw [hsame, List.nodup_replicate] at hnames
  rw [fieldsOf, List.length_map]
  exact hnames

/-- A list without repeated names is longer than one when two names are in it. -/
theorem one_lt_length_iff (h : (table.map (·.name)).Nodup) :
    1 < table.length ↔ ∃ f ∈ table, ∃ g ∈ table, f.name ≠ g.name := by
  cases table with
  | nil => simp
  | cons f rest => cases rest with
    | nil => simp
    | cons g rest =>
      rw [List.map_cons, List.nodup_cons] at h
      have hne : f.name ≠ g.name := fun heq => h.1 (by rw [heq]; exact List.mem_cons_self)
      simp only [List.length_cons, Nat.lt_add_left_iff_pos, Nat.zero_lt_succ, true_iff]
      exact ⟨f, List.mem_cons_self, g, List.mem_cons_of_mem _ List.mem_cons_self, hne⟩

/-- The names of the bindings that a table holds are not repeated when all of these bindings belong
to one part of the request. -/
theorem nodup_table {env : Env} {ms : List (Member Ty)} (h : InOrder env ms) {p : Place}
    (hp : ∀ s, p ≠ .other s) {holds : Binding → Bool}
    (hholds : ∀ x, holds x = true → x.place = p) :
    ((Fillers.table (bindings env ms) holds).map (·.name)).Nodup := by
  have hfilter : (bindings env ms).filter holds =
      ((bindings env ms).filter (·.place = p)).filter holds := by
    rw [List.filter_filter]
    refine List.filter_congr fun x _ => ?_
    cases hx : holds x with
    | true => simp [hholds x hx]
    | false => simp
  rw [Fillers.table, List.map_map, hfilter]
  exact (h.distinct p hp).sublist (List.filter_sublist.map _)

end Names

namespace Binder

variable {env : Env} {t : Ty} {b : Binder} {field : String}

section Compiled

variable (hb : t.compile env = .ok (.binder b))
include hb

theorem nodup_plainTable (part : NamePart) : ((b.plainTable part).map (·.name)).Nodup := by
  rw [plainTable_eq_table hb]
  exact nodup_table (Ty.compiled hb).2.1 (by rintro s ⟨⟩) fun x hx =>
    place_of_accepts (Bool.and_eq_true_iff.mp hx).1

theorem nodup_keyedTable (part : NamePart) : ((b.keyedTable part).map (·.name)).Nodup := by
  rw [keyedTable_eq_table hb]
  exact nodup_table (Ty.compiled hb).2.1 (by rintro s ⟨⟩) fun x hx =>
    place_of_accepts (Bool.and_eq_true_iff.mp hx).1

theorem nodup_path : ((b.fillers.path.map (·.toFiller)).map (·.name)).Nodup := by
  have htable : b.fillers.path.map (·.toFiller) =
      Fillers.table (bindings env b.members) (·.place = .path) := by
    rw [Ty.fillers_of_compile hb, Fillers.declared, Fillers.ofBindings, List.map_map]
    rfl
  rw [htable]
  exact nodup_table (Ty.compiled hb).2.1 (by rintro s ⟨⟩) fun x hx => of_decide_eq_true hx

theorem nodup_header : (b.fillers.header.map (·.name)).Nodup := by
  rw [Ty.fillers_of_compile hb]
  exact nodup_table (Ty.compiled hb).2.1 (by rintro s ⟨⟩) fun x hx => of_decide_eq_true hx

theorem nodup_cookie : (b.fillers.cookie.map (·.name)).Nodup := by
  rw [Ty.fillers_of_compile hb]
  exact nodup_table (Ty.compiled hb).2.1 (by rintro s ⟨⟩) fun x hx => of_decide_eq_true hx

/-- **One field for a parameter.** Every parameter but a header is for one field at most. -/
theorem length_readers_le {p : Parameter} (hp : ∀ name, p ≠ .header name) :
    (b.readers p).length ≤ 1 := by
  cases p with
  | path name => exact length_fieldsOf_le (nodup_path hb) name
  | header name => exact absurd rfl (hp name)
  | cookie name => exact length_fieldsOf_le (nodup_cookie hb) name
  | key part name =>
    rw [readers]
    split
    · exact length_fieldsOf_le (nodup_plainTable hb part) name
    · split
      · exact length_fieldsOf_le (nodup_keyedTable hb part) _
      · exact Nat.zero_le 1

/-- **Two fields for a header.** A header is for several fields just when they ask for it in
different ways of writing its name. -/
theorem one_lt_length_readers_header (name : String) :
    1 < (b.readers (.header name)).length ↔
      ∃ f ∈ b.fillers.header, ∃ g ∈ b.fillers.header,
        f.name ≠ g.name ∧ lower f.name = name ∧ lower g.name = name := by
  have hnames : ((b.fillers.header.filter (lower ·.name = name)).map (·.name)).Nodup :=
    (nodup_header hb).sublist (List.filter_sublist.map _)
  rw [readers, List.length_map, one_lt_length_iff hnames]
  simp only [List.mem_filter, decide_eq_true_eq]
  constructor
  · rintro ⟨f, ⟨hf, hfname⟩, g, ⟨hg, hgname⟩, hne⟩
    exact ⟨f, hf, g, hg, hne, hfname, hgname⟩
  · rintro ⟨f, hf, g, hg, hne, hfname, hgname⟩
    exact ⟨f, ⟨hf, hfname⟩, g, ⟨hg, hgname⟩, hne⟩

end Compiled

/-! ### Names that are for a field -/

section Readers

variable (hd : b.Distinct) {part : NamePart} {name : String}
include hd

/-- A name that is a parameter's is for the field of that parameter. -/
theorem mem_readers_of_parameter {f : Filler} (h : b.usage part name = .parameter f) :
    f.field ∈ b.readers (.key part name) := by
  obtain ⟨hf, hname⟩ := (lookup_plain hd).mp (usage_eq_parameter.mp h)
  rw [readers, if_pos (List.mem_map.mpr ⟨f, hf, hname⟩)]
  exact mem_fieldsOf.mpr ⟨f, hf, hname, rfl⟩

/-- A name that is a key is for the field that owns the parameter. -/
theorem mem_readers_of_waiting {vs : List String} {e : KeyEntry}
    (h : (b.usage part name).waiting? vs = some e) (howns : b.owns field e.root = true) :
    field ∈ b.readers (.key part name) := by
  obtain ⟨hplain, hname, hkeyed, -⟩ := NameUse.waiting?_eq_some.mp h
  obtain ⟨f, hf⟩ := Option.isSome_iff_exists.mp hkeyed
  rw [owns, deepFiller?_of_lookup hd hf] at howns
  obtain ⟨hmem, hroot⟩ := (lookup_keyed hd).mp hf
  rw [readers, if_neg (lookupFiller_eq_none.mp hplain), hname]
  exact mem_fieldsOf.mpr ⟨f, hmem, hroot, of_decide_eq_true howns⟩

theorem value?_name_of_not_mem_readers (h : field ∉ b.readers (.key part name)) (r : Request)
    (body : Bytes) : (b.outcome r body (.name part name)).value? field = none := by
  rw [outcome]
  refine NameUse.value?_outcome (fun f huse hfield => h ?_) _ _ _
  rw [← hfield]
  exact mem_readers_of_parameter hd huse

end Readers

/-- A step that is for another field has nothing for this one. -/
theorem value?_of_field_ne {s : Step} {g : String} (hs : s.field? = some g) (hne : g ≠ field)
    (r : Request) (body : Bytes) : (b.outcome r body s).value? field = none := by
  cases s with
  | body f =>
    cases hs
    exact BodyFiller.value?_fill hne b r body
  | path f =>
    cases hs
    exact value?_path hne b r body
  | header f =>
    cases hs
    rw [outcome]
    split
    · rfl
    · exact Filler.value?_fillList hne .header _
  | cookie f =>
    cases hs
    rw [outcome]
    split
    · rfl
    · exact Filler.value?_fillText hne .cookie _
  | _ => cases hs

/-! ### Two requests that agree on what is for a field -/

/-- The pairs of a part of the request whose names are for a field, in order. -/
def itemsFor (b : Binder) (field : String) (r : Request) (body : Bytes) (part : NamePart) :
    List (String × String) :=
  (b.items r body part).filter fun i => field ∈ b.readers (.key part i.1)

/-- Two requests agree on all parameters that are for a field, and on the body if it is for the
field as a whole. They may differ in everything else. -/
structure AgreeFor (b : Binder) (field : String) (r : Request) (body : Bytes) (r' : Request)
    (body' : Bytes) : Prop where
  whole : ∀ f, b.fillers.body = some f → f.field = field →
    r.contentType = r'.contentType ∧ body = body'
  path : ∀ name, field ∈ b.readers (.path name) → b.pathValue r name = b.pathValue r' name
  header : ∀ name, field ∈ b.readers (.header (lower name)) →
    r.headersNamed name = r'.headersNamed name
  cookie : ∀ name, field ∈ b.readers (.cookie name) →
    Cookie.get? r.cookies name = Cookie.get? r'.cookies name
  key : ∀ part, b.itemsFor field r body part = b.itemsFor field r' body' part

section Items

variable (b) (field) (r : Request) (body : Bytes) (part : NamePart)

/-- The names that are for a field, in the order of their first appearance. -/
theorem names_itemsFor :
    Urlencoded.names (b.itemsFor field r body part) =
      (b.names r body part).filter fun name => field ∈ b.readers (.key part name) := by
  rw [names, Urlencoded.names, Urlencoded.names, ← eraseDups_filter, List.filter_map]
  rfl

variable {field part} {name : String}

/-- A name that is for a field has all of its texts among what is for the field. -/
theorem valuesOf_itemsFor (h : field ∈ b.readers (.key part name)) :
    Urlencoded.valuesOf (b.itemsFor field r body part) name = b.values r body part name := by
  rw [values, Urlencoded.valuesOf, Urlencoded.valuesOf, itemsFor, List.filter_filter]
  congr 1
  refine List.filter_congr fun i _ => ?_
  by_cases hi : i.1 = name
  · simp [hi, h]
  · simp [hi]

end Items

section Agree

variable (hd : b.Distinct) {r r' : Request} {body body' : Bytes}
  (h : b.AgreeFor field r body r' body')

section Same

include h

/-- A step for the field does the same for both requests. -/
theorem outcome_congr {s : Step} (hs : s ∈ b.schedule r body) (hfield : s.field? = some field) :
    b.outcome r body s = b.outcome r' body' s := by
  replace hs := mem_schedule.mp hs
  cases s with
  | body f =>
    cases hfield
    obtain ⟨htype, rfl⟩ := h.whole f (Option.mem_toList.mp hs) rfl
    rw [outcome, outcome, BodyFiller.fill, BodyFiller.fill, htype]
  | path f =>
    cases hfield
    have hreader : f.field ∈ b.readers (.path f.name) :=
      mem_fieldsOf.mpr ⟨f.toFiller, List.mem_map.mpr ⟨f, hs, rfl⟩, rfl, rfl⟩
    rw [outcome, outcome, pathOutcome, pathOutcome, h.path f.name hreader]
  | header f =>
    cases hfield
    have hreader : f.field ∈ b.readers (.header (lower f.name)) :=
      List.mem_map.mpr ⟨f, List.mem_filter.mpr ⟨hs, decide_eq_true rfl⟩, rfl⟩
    rw [outcome, outcome, h.header f.name hreader]
  | cookie f =>
    cases hfield
    have hreader : f.field ∈ b.readers (.cookie f.name) := mem_fieldsOf.mpr ⟨f, hs, rfl, rfl⟩
    rw [outcome, outcome, h.cookie f.name hreader]
  | _ => cases hfield

/-- Steps that are each for some field put the same into the field. -/
theorem puts_steps_congr (ss : List Step)
    (hss : ∀ s ∈ ss, s ∈ b.schedule r body ∧ s.field?.isSome = true) :
    puts field (ss.map (b.outcome r body)) = puts field (ss.map (b.outcome r' body')) := by
  refine puts_map_congr fun s hs => ?_
  obtain ⟨hmem, hsome⟩ := hss s hs
  obtain ⟨g, hg⟩ := Option.isSome_iff_exists.mp hsome
  by_cases hfield : g = field
  · rw [outcome_congr h hmem (hfield ▸ hg)]
  · rw [value?_of_field_ne hg hfield, value?_of_field_ne hg hfield]

/-- What is for a field has the same names in both requests, with the same texts. -/
theorem filter_names_congr (part : NamePart) :
    ((b.names r body part).filter fun name => field ∈ b.readers (.key part name)) =
      (b.names r' body' part).filter fun name => field ∈ b.readers (.key part name) := by
  rw [← names_itemsFor, ← names_itemsFor, h.key part]

theorem values_congr {part : NamePart} {name : String}
    (hreader : field ∈ b.readers (.key part name)) :
    b.values r body part name = b.values r' body' part name := by
  rw [← valuesOf_itemsFor b r body hreader, h.key part, valuesOf_itemsFor b r' body' hreader]

end Same

/-- Only names that are for a field put something into it. -/
theorem puts_names_filter (hd : b.Distinct) (r : Request) (body : Bytes) (part : NamePart) :
    puts field (((b.names r body part).filter fun name => field ∈ b.readers (.key part name)).map
        fun name => b.outcome r body (.name part name)) =
      puts field ((b.names r body part).map fun name => b.outcome r body (.name part name)) :=
  puts_filter _ _ _ fun _ _ hnot =>
    value?_name_of_not_mem_readers hd (of_decide_eq_false hnot) r body

/-- Only names that are for a field leave keys for it. -/
theorem filter_keyEntries (hd : b.Distinct) (r : Request) (body : Bytes) (part : NamePart) :
    (b.keyEntries r body part).filter (fun e => b.owns field e.root) =
      ((b.names r body part).filter fun name => field ∈ b.readers (.key part name)).filterMap
        fun name => ((b.usage part name).waiting? (b.values r body part name)).filter
          fun e => b.owns field e.root := by
  rw [keyEntries, List.filter_filterMap, List.filterMap_filter]
  refine List.filterMap_congr fun name _ => ?_
  by_cases hreader : field ∈ b.readers (.key part name)
  · simp [hreader]
  · simp only [hreader, decide_false, Bool.false_eq_true, if_false]
    rw [Option.filter_eq_none_iff]
    intro e he howns
    exact hreader (mem_readers_of_waiting hd he howns)

include hd h

theorem puts_names_congr (part : NamePart) :
    puts field ((b.names r body part).map fun name => b.outcome r body (.name part name)) =
      puts field ((b.names r' body' part).map fun name =>
        b.outcome r' body' (.name part name)) := by
  rw [← puts_names_filter hd r, ← puts_names_filter hd r', filter_names_congr h part]
  refine puts_map_congr fun name hname => ?_
  rw [outcome, outcome, values_congr h (of_decide_eq_true (List.mem_filter.mp hname).2)]

theorem entriesFor_congr : b.entriesFor field r body = b.entriesFor field r' body' := by
  have hpart : ∀ part, (b.keyEntries r body part).filter (fun e => b.owns field e.root) =
      (b.keyEntries r' body' part).filter fun e => b.owns field e.root := by
    intro part
    rw [filter_keyEntries hd, filter_keyEntries hd, filter_names_congr h part]
    refine List.filterMap_congr fun name hname => ?_
    rw [values_congr h (of_decide_eq_true (List.mem_filter.mp hname).2)]
  rw [entriesFor, entriesFor, allEntries, allEntries, List.filter_append, List.filter_append, hpart,
    hpart]

/-- **A field is filled from its own parameters.** Requests that agree on these put the same into
it. -/
theorem puts_congr :
    puts field ((b.schedule r body).map (b.outcome r body)) =
      puts field ((b.schedule r' body').map (b.outcome r' body')) := by
  have hbody := puts_steps_congr h (b.fillers.body.toList.map .body)
    (by simp [mem_schedule, Step.field?])
  have hpath := puts_steps_congr h (b.fillers.path.map .path) (by simp [mem_schedule, Step.field?])
  have hheader := puts_steps_congr h (b.fillers.header.map .header)
    (by simp [mem_schedule, Step.field?])
  have hcookie := puts_steps_congr h (b.fillers.cookie.map .cookie)
    (by simp [mem_schedule, Step.field?])
  have hform : puts field ((b.formSteps r body).map (b.outcome r body)) =
      puts field ((b.formSteps r' body').map (b.outcome r' body')) := by
    rw [puts_formSteps, puts_formSteps, puts_names_congr hd h]
  have hkeys : puts field (((b.roots r body).map Step.keys).map (b.outcome r body)) =
      puts field (((b.roots r' body').map Step.keys).map (b.outcome r' body')) := by
    rw [List.map_map, List.map_map]
    simp only [Function.comp_def]
    rw [puts_keys, puts_keys, entriesFor_congr hd h]
  have hquery : puts field (((b.names r body .query).map (Step.name .query)).map
        (b.outcome r body)) =
      puts field (((b.names r' body' .query).map (Step.name .query)).map
        (b.outcome r' body')) := by
    rw [List.map_map, List.map_map]
    exact puts_names_congr hd h .query
  simp only [schedule, List.map_append, puts_append]
  rw [hbody, hpath, hheader, hquery, hform, hkeys, hcookie]

end Agree

end Binder

/-! ### Parameters that are taken -/

section Taken

variable {env : Env} {h : ModelHead} {before after : List (Member Ty)} {m : Member Ty} {tag : Tag}
  {x : Binding}

/-- A field that asks for a parameter of an earlier field rejects the model. That is the error unless
one of the fields before it has an error of its own. -/
theorem ModelHead.compile_duplicate (htag : m.ownTag? env.options.tagKey = some tag)
    (hskip : tag.base ≠ "-") (hmodel : tag.base ≠ "model") (hx : x ∈ bindings env before)
    (hplace : x.place = (m.site tag).place) (hname : x.filler.name = (m.site tag).name) :
    ∃ e, h.compile env (before ++ m :: after) = .error e ∧
      (InOrder env before →
        e = .duplicate (.parameter h.cls.name tag.base (m.site tag).name m.name)) := by
  obtain ⟨text, htext, hread⟩ := Member.ownTag?_eq_some.mp htag
  have hsplit : Fillers.ofMembers env h.cls.name (before ++ m :: after) =
      Fillers.ofMembers env h.cls.name before >>= fun fs =>
        fs.addMember env h.cls.name m >>= fun fs =>
          after.foldlM (fun fs m => fs.addMember env h.cls.name m) fs := by
    rw [Fillers.ofMembers, List.foldlM_append]
    rfl
  rw [ModelHead.compile, hsplit]
  cases hbefore : Fillers.ofMembers env h.cls.name before with
  | error e =>
    refine ⟨e, rfl, fun hms => ?_⟩
    have hok : Fillers.ofMembers env h.cls.name before = .ok (.declared env before) :=
      Fillers.ofMembers_eq_ok.mpr ⟨hms, rfl⟩
    rw [hbefore] at hok
    cases hok
  | ok fs =>
    obtain ⟨-, rfl⟩ := Fillers.ofMembers_eq_ok.mp hbefore
    have hplaces : ∀ s, (m.site tag).place ≠ .other s := place_of_read hread hskip hmodel
    have htaken : ((Fillers.declared env before).namesOf (m.site tag).place).contains
        (m.site tag).name = true := by
      refine List.contains_iff_mem.mpr ?_
      rw [Fillers.declared, mem_namesOf_ofBindings env _ _ hplaces]
      exact List.mem_map.mpr ⟨x, List.mem_filter.mpr ⟨hx, decide_eq_true hplace⟩, hname⟩
    refine ⟨_, ?_, fun _ => rfl⟩
    simp only [bind, Except.bind]
    rw [Fillers.addMember_tagged htext hread, Fillers.addTagged_parameter hskip hmodel,
      if_pos htaken]

end Taken

/-- **Parameters are kept apart, but for ways of writing headers.** In a compiled model every
parameter but a header is for one field at most, and a header is for several fields just when their
names differ in case only. Two requests that leave a model, whole or in part, leave the same in every
field whose parameters they agree on, whatever else they say. A model in which a field asks for a
parameter of an earlier one, under the same name, is rejected. -/
theorem parameters_apart (env : Env) :
    (∀ t b, Ty.compile env t = .ok (.binder b) →
      (∀ p, (∀ name, p ≠ .header name) → (b.readers p).length ≤ 1) ∧
      (∀ name, 1 < (b.readers (.header name)).length ↔
        ∃ f ∈ b.fillers.header, ∃ g ∈ b.fillers.header,
          f.name ≠ g.name ∧ lower f.name = name ∧ lower g.name = name) ∧
      ∀ r body r' body' model model', leftModel? (b.resolve r body) = some model →
        leftModel? (b.resolve r' body') = some model' →
        ∀ m ∈ b.members, b.AgreeFor m.name r body r' body' →
          model.get? m.name = model'.get? m.name) ∧
    ∀ (h : ModelHead) (before after : List (Member Ty)) (m : Member Ty) (tag : Tag) (x : Binding),
      m.ownTag? env.options.tagKey = some tag → tag.base ≠ "-" → tag.base ≠ "model" →
      x ∈ bindings env before → x.place = (m.site tag).place →
      x.filler.name = (m.site tag).name →
      ∃ e, Ty.compile env (.model h (before ++ m :: after)) = .error e ∧
        (InOrder env before →
          e = .duplicate (.parameter h.cls.name tag.base (m.site tag).name m.name)) := by
  refine ⟨fun t b hb => ⟨fun p hp => Binder.length_readers_le hb hp,
    Binder.one_lt_length_readers_header hb, ?_⟩, ?_⟩
  · intro r body r' body' model model' hmodel hmodel' m hm hagree
    exact Binder.get?_of_puts_eq hmodel hmodel' hm
      (Binder.puts_congr (Binder.distinct_of_compile hb) hagree).symm
  · intro h before after m tag x htag hskip hmodel hx hplace hname
    exact ModelHead.compile_duplicate htag hskip hmodel hx hplace hname

/-- A header under two ways of writing its name, and a number from the query. -/
def tracedMembers : List (Member Ty) := [
  { name := "id", type := .str, tags := [(defaultTagKey, "header,name=X-Id")] },
  { name := "copy", type := .str, tags := [(defaultTagKey, "header,name=x-id")] },
  { name := "page", type := .scalar { kind := .int }, tags := [(defaultTagKey, "query")] }]

/-- A model of such fields. -/
def traced : Ty := .model { cls := { name := "Traced" } } tracedMembers

/-- Its binder. -/
def tracedBinder : Binder := .declared ⟨{}, []⟩ { cls := { name := "Traced" } } tracedMembers

/-- A request with the header. -/
def tracedRequest : Request where
  query := utf8 "page=2"
  headers := [("X-ID", "a")]

/-- The page is what it is without the header, which is for two fields, and no other field may ask
for it. -/
theorem traced_parameters :
    (tracedBinder.readers (.key .query "page")).length ≤ 1 ∧
    1 < (tracedBinder.readers (.header "x-id")).length ∧
    (∃ model model', leftModel? (tracedBinder.resolve tracedRequest []) = some model ∧
      leftModel? (tracedBinder.resolve { tracedRequest with headers := [] } []) = some model' ∧
      model.get? "page" = model'.get? "page") ∧
    (Ty.model { cls := { name := "Traced" } } (tracedMembers ++
        [{ name := "number", type := .str, tags := [(defaultTagKey, "query,name=page")] }])).compile
        ⟨{}, []⟩ = .error (.duplicate (.parameter "Traced" "query" "page" "number")) := by
  have hb : traced.compile ⟨{}, []⟩ = .ok (.binder tracedBinder) := rfl
  obtain ⟨hcompiled, htaken⟩ := parameters_apart ⟨{}, []⟩
  obtain ⟨hone, htwo, hagree⟩ := hcompiled traced tracedBinder hb
  refine ⟨hone _ (by rintro name ⟨⟩), (htwo "x-id").mpr ?_, ?_, ?_⟩
  · exact ⟨_, .head _, _, .tail _ (.head _), by decide +kernel, by decide +kernel, by decide +kernel⟩
  · have hsome : (leftModel? (tracedBinder.resolve tracedRequest [])).isSome := by decide +kernel
    have hsome' : (leftModel? (tracedBinder.resolve { tracedRequest with headers := [] } [])).isSome :=
      by decide +kernel
    obtain ⟨model, hmodel⟩ := Option.isSome_iff_exists.mp hsome
    obtain ⟨model', hmodel'⟩ := Option.isSome_iff_exists.mp hsome'
    refine ⟨model, model', hmodel, hmodel',
      hagree _ _ _ _ _ _ hmodel hmodel' _ (.tail _ (.tail _ (.head _))) ?_⟩
    refine ⟨by rintro f ⟨⟩, by rintro name ⟨⟩, fun name hname => ?_, by rintro name ⟨⟩, ?_⟩
    · -- the fields of headers are others
      obtain ⟨f, hf, hfield⟩ := List.mem_map.mp hname
      have hfields : ∀ f ∈ tracedBinder.fillers.header, f.field ≠ "page" := by
        decide +kernel
      exact absurd hfield (hfields f (List.mem_filter.mp hf).1)
    · intro part
      cases part <;> rfl
  · obtain ⟨e, he, hduplicate⟩ := htaken { cls := { name := "Traced" } } tracedMembers []
      { name := "number", type := .str, tags := [(defaultTagKey, "query,name=page")] } _ _ rfl
      (by decide) (by decide) (.tail _ (.tail _ (.head _))) rfl rfl
    rw [he, hduplicate (Ty.compiled hb).2.1]
    rfl

/-- The one header fills both of its fields. -/
theorem header_fills_two_fields : ∃ model, tracedBinder.resolve tracedRequest [] = .ok model ∧
    traced.compile ⟨{}, []⟩ = .ok (.binder tracedBinder) ∧
    tracedBinder.readers (.header "x-id") = ["id", "copy"] ∧
    model.get? "id" = some (.text "a") ∧ model.get? "copy" = some (.text "a") :=
  ⟨_, rfl, rfl, by decide +kernel, rfl, rfl⟩

end ParamBinding
