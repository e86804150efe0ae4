import ParamBinding.Proofs.QueryOrder
import ParamBinding.Proofs.Utf8

/-!
# The query and the body are kept apart

What the query says is for the fields that the query may fill, and what the body says is for those
that the body may fill, as a whole or as a form (`Tag.fromQuery`, `Tag.fromBody`). A field that is
filled from one of them does not change when the other one does, although the keys of both are
gathered in one place and decoded last (`Binder.query_body_apart`).

The reason is that a part of the request that has no filler for a field (`Binder.Feeds`) puts
nothing into it: its names are parameters of other fields, and its keys belong to parameters of other
fields. Keys for one field are decoded as if there were no keys for others (`Binder.puts_keys`).
-/

namespace ParamBinding

open ParamBinding.Text

/-! ### Which fields a part of the request may fill -/

theorem Place.ofName_eq_query {s : String} : Place.ofName s = .query ↔ s = "query" := by
  unfold Place.ofName
  repeat' split
  all_goals simp_all

/-- Whether the query may fill a field. -/
def Tag.fromQuery (t : Tag) : Bool := t.base = "query" && !t.formOnly

/-- Whether the body may fill a field, as a whole or as a form. -/
def Tag.fromBody (t : Tag) : Bool := t.base = "model" || t.base = "query" && (t.form || t.formOnly)

/-- Whether a part of the request may fill the field of a binding. -/
def Binding.accepts (x : Binding) : NamePart → Bool
  | .query => x.inQuery
  | .form => x.inForm

theorem Member.ownTag?_of_binding? {env : Env} {m : Member Ty} {x : Binding}
    (h : m.binding? env = some x) : m.ownTag? env.options.tagKey = some x.tag := by
  obtain ⟨tag, htag, h⟩ := Option.bind_eq_some_iff.mp h
  split at h
  · cases h
  · obtain ⟨u, -, rfl⟩ := Option.map_eq_some_iff.mp h
    exact htag

namespace Binder

variable {env : Env} {t : Ty} {b : Binder} {part : NamePart} {f : Filler}

/-- The parameters without keys that a part of the request may fill, read off the declaration. -/
theorem plainTable_eq_table (hb : t.compile env = .ok (.binder b)) (part : NamePart) :
    b.plainTable part =
      Fillers.table (bindings env b.members) fun x => x.accepts part && !x.isKeyed := by
  cases part <;> rw [plainTable, Ty.fillers_of_compile hb] <;> rfl

theorem keyedTable_eq_table (hb : t.compile env = .ok (.binder b)) (part : NamePart) :
    b.keyedTable part =
      Fillers.table (bindings env b.members) fun x => x.accepts part && x.isKeyed := by
  cases part <;> rw [keyedTable, Ty.fillers_of_compile hb] <;> rfl

/-- The parameters without keys that a part of the request may fill, by the fields they are for. -/
theorem mem_plainTable (hb : t.compile env = .ok (.binder b)) :
    f ∈ b.plainTable part ↔ ∃ x ∈ bindings env b.members,
      x.accepts part = true ∧ x.isKeyed = false ∧ x.filler = f := by
  rw [plainTable_eq_table hb]
  simp [Fillers.table, and_assoc]

theorem mem_keyedTable (hb : t.compile env = .ok (.binder b)) :
    f ∈ b.keyedTable part ↔ ∃ x ∈ bindings env b.members,
      x.accepts part = true ∧ x.isKeyed = true ∧ x.filler = f := by
  rw [keyedTable_eq_table hb]
  simp [Fillers.table, and_assoc]

/-- What a part of the request may fill belongs to a binding that accepts the part. -/
theorem exists_binding_accepts (hb : t.compile env = .ok (.binder b))
    (hf : f ∈ b.plainTable part ++ b.keyedTable part) :
    ∃ x ∈ bindings env b.members, x.accepts part = true ∧ x.filler = f := by
  rcases List.mem_append.mp hf with hf | hf
  · obtain ⟨x, hx, haccepts, -, hfiller⟩ := (mem_plainTable hb).mp hf
    exact ⟨x, hx, haccepts, hfiller⟩
  · obtain ⟨x, hx, haccepts, -, hfiller⟩ := (mem_keyedTable hb).mp hf
    exact ⟨x, hx, haccepts, hfiller⟩

/-- A part of the request may fill a field: one of its parameters is for it. -/
def Feeds (b : Binder) (part : NamePart) (field : String) : Prop :=
  ∃ f ∈ b.plainTable part ++ b.keyedTable part, f.field = field

/-- Only a part that its tag allows fills a field. -/
theorem accepts_of_feeds (hb : t.compile env = .ok (.binder b))
    (hnames : (b.members.map (·.name)).Nodup) {m : Member Ty} (hm : m ∈ b.members) {tag : Tag}
    (htag : m.ownTag? env.options.tagKey = some tag) (h : b.Feeds part m.name) :
    ∃ x ∈ bindings env b.members, x.accepts part = true ∧ x.tag = tag := by
  obtain ⟨f, hf, hfield⟩ := h
  obtain ⟨x, hx, haccepts, rfl⟩ := exists_binding_accepts hb hf
  obtain ⟨m', hm', hx'⟩ := List.mem_filterMap.mp hx
  -- no two fields share a name, so the filler is the field's own
  obtain rfl : m' = m :=
    List.inj_on_of_nodup_map hnames hm' hm ((Member.field_of_binding? hx').symm.trans hfield)
  have hown := Member.ownTag?_of_binding? hx'
  rw [htag] at hown
  exact ⟨x, hx, haccepts, (Option.some.inj hown).symm⟩

section Tags

variable (hb : t.compile env = .ok (.binder b)) (hnames : (b.members.map (·.name)).Nodup)
  {m : Member Ty} (hm : m ∈ b.members) {tag : Tag}
  (htag : m.ownTag? env.options.tagKey = some tag)
include hb hnames hm htag

theorem not_feeds_query (h : tag.fromQuery = false) : ¬ b.Feeds .query m.name := by
  intro hfeeds
  obtain ⟨x, -, haccepts, rfl⟩ := accepts_of_feeds hb hnames hm htag hfeeds
  simp only [Binding.accepts, Binding.inQuery, Binding.place, Place.ofName_eq_query] at haccepts
  rw [Tag.fromQuery, haccepts] at h
  cases h

theorem not_feeds_form (h : tag.fromBody = false) : ¬ b.Feeds .form m.name := by
  intro hfeeds
  obtain ⟨x, -, haccepts, rfl⟩ := accepts_of_feeds hb hnames hm htag hfeeds
  simp only [Binding.accepts, Binding.inForm, Binding.place, Place.ofName_eq_query] at haccepts
  rw [Tag.fromBody, haccepts, Bool.or_true] at h
  cases h

/-- The body as a whole fills a field whose tag asks for it. -/
theorem field_ne_of_body (h : tag.fromBody = false) {f : BodyFiller}
    (hf : b.fillers.body = some f) : f.field ≠ m.name := by
  intro hfield
  rw [Ty.fillers_of_compile hb] at hf
  obtain ⟨m', hm', hbody⟩ := List.mem_filterMap.mp (List.mem_of_mem_head? hf)
  obtain rfl : m' = m :=
    List.inj_on_of_nodup_map hnames hm' hm ((Member.field_of_body? hbody).symm.trans hfield)
  rw [Member.body?, htag, Option.bind_some] at hbody
  split at hbody
  · rename_i hbase
    rw [Tag.fromBody, decide_eq_true hbase, Bool.true_or] at h
    cases h
  · cases hbody

end Tags

/-! ### Keys for a field -/

section Keys

variable (b) (field : String) {r : Request} {body : Bytes}

/-- The entries for the parameters with keys of a field. -/
def entriesFor (r : Request) (body : Bytes) : List KeyEntry :=
  (b.allEntries r body).filter fun e => b.owns field e.root

/-- What a parameter with keys is filled with from some entries. -/
def keysOutcome (entries : List KeyEntry) (root : String) : Outcome :=
  match b.deepFiller? root with
  | some f => f.fillKeys (keysOf entries root)
  | none => .skip

theorem outcome_keys (r : Request) (body : Bytes) (root : String) :
    b.outcome r body (.keys root) = b.keysOutcome (b.allEntries r body) root := rfl

variable {b field}

theorem roots_filter_owns :
    (b.roots r body).filter (b.owns field) =
      ((b.entriesFor field r body).map (·.root)).eraseDups := by
  rw [roots, ← eraseDups_filter, List.filter_map]
  rfl

theorem keysOf_entriesFor {root : String} (howns : b.owns field root = true) :
    keysOf (b.entriesFor field r body) root = keysOf (b.allEntries r body) root := by
  rw [keysOf, keysOf, entriesFor, List.filter_filter]
  congr 1
  refine List.filter_congr fun e _ => ?_
  by_cases he : e.root = root
  · rw [he, howns]
    simp
  · simp [he]

/-- Keys put into a field what its own entries say. -/
theorem puts_keys :
    puts field ((b.roots r body).map fun root => b.outcome r body (.keys root)) =
      puts field (((b.entriesFor field r body).map (·.root)).eraseDups.map
        (b.keysOutcome (b.entriesFor field r body))) := by
  have hmine : ((b.roots r body).filter (b.owns field)).map
        (fun root => b.outcome r body (.keys root)) =
      ((b.roots r body).filter (b.owns field)).map
        (b.keysOutcome (b.entriesFor field r body)) := by
    refine List.map_congr_left fun root hroot => ?_
    rw [outcome_keys, keysOutcome, keysOutcome, keysOf_entriesFor (List.mem_filter.mp hroot).2]
  rw [← roots_filter_owns, ← hmine, eq_comm]
  -- parameters that are left out are for other fields
  refine puts_filter _ _ _ fun root _ howns => ?_
  rw [owns] at howns
  rw [outcome_keys, keysOutcome]
  cases hf : b.deepFiller? root with
  | none => rfl
  | some f =>
    rw [hf] at howns
    exact Filler.value?_outcome (of_decide_eq_false howns) .query _

end Keys

/-! ### Parts without a filler for a field -/

section Unfed

variable {field : String} (hd : b.Distinct) (h : ¬ b.Feeds part field)
include hd h

theorem value?_name_of_not_feeds (r : Request) (body : Bytes) (name : String) :
    (b.outcome r body (.name part name)).value? field = none := by
  rw [outcome]
  refine NameUse.value?_outcome (fun f huse hfield => h ⟨f, ?_, hfield⟩) _ _ _
  exact List.mem_append_left _ ((lookup_plain hd).mp (usage_eq_parameter.mp huse)).1

theorem puts_names_of_not_feeds (r : Request) (body : Bytes) :
    puts field ((b.names r body part).map fun name => b.outcome r body (.name part name)) = [] :=
  puts_map_eq_nil.mpr fun name _ => value?_name_of_not_feeds hd h r body name

theorem keyEntries_of_not_feeds (r : Request) (body : Bytes) :
    (b.keyEntries r body part).filter (fun e => b.owns field e.root) = [] := by
  rw [List.filter_eq_nil_iff]
  intro e he howns
  obtain ⟨name, -, -, -, hkeyed, -⟩ := mem_keyEntries.mp he
  obtain ⟨f, hf⟩ := Option.isSome_iff_exists.mp hkeyed
  rw [owns, deepFiller?_of_lookup hd hf] at howns
  exact h ⟨f, List.mem_append_right _ ((lookup_keyed hd).mp hf).1, of_decide_eq_true howns⟩

end Unfed

/-- A form puts into a field what its names do; one that cannot be read has none. -/
theorem puts_formSteps {field : String} (r : Request) (body : Bytes) :
    puts field ((b.formSteps r body).map (b.outcome r body)) =
      puts field ((b.names r body .form).map fun name => b.outcome r body (.name .form name)) := by
  cases hpart : b.formPart r body with
  | error f =>
    rw [formSteps, names, items, hpart]
    rfl
  | ok items =>
    rw [formSteps, hpart, List.map_map]
    rfl

theorem puts_formSteps_of_not_feeds {field : String} (hd : b.Distinct)
    (h : ¬ b.Feeds .form field) (r : Request) (body : Bytes) :
    puts field ((b.formSteps r body).map (b.outcome r body)) = [] := by
  rw [puts_formSteps]
  exact puts_names_of_not_feeds hd h r body

theorem entriesFor_withQuery {field : String} (hd : b.Distinct) (h : ¬ b.Feeds .query field)
    (r : Request) (q body : Bytes) :
    b.entriesFor field (r.withQuery q) body = b.entriesFor field r body := by
  have hform : b.keyEntries (r.withQuery q) body .form = b.keyEntries r body .form := rfl
  rw [entriesFor, entriesFor, allEntries, allEntries, List.filter_append, List.filter_append,
    keyEntries_of_not_feeds hd h, keyEntries_of_not_feeds hd h, hform]

theorem entriesFor_body {field : String} (hd : b.Distinct) (h : ¬ b.Feeds .form field)
    (r : Request) (body body' : Bytes) :
    b.entriesFor field r body' = b.entriesFor field r body := by
  have hquery : b.keyEntries r body' .query = b.keyEntries r body .query := rfl
  rw [entriesFor, entriesFor, allEntries, allEntries, List.filter_append, List.filter_append,
    keyEntries_of_not_feeds hd h, keyEntries_of_not_feeds hd h, hquery]

/-- The steps of the form do not look at the query. -/
theorem map_formSteps_withQuery (r : Request) (q body : Bytes) :
    (b.formSteps (r.withQuery q) body).map (b.outcome (r.withQuery q) body) =
      (b.formSteps r body).map (b.outcome r body) := by
  have hpart : b.formPart (r.withQuery q) body = b.formPart r body := rfl
  rw [formSteps, formSteps, hpart]
  cases b.formPart r body with
  | error f => rfl
  | ok items =>
    rw [List.map_map, List.map_map]
    rfl

/-! ### Two requests -/

section Puts

variable {field : String} (hd : b.Distinct) (r : Request) (q body body' : Bytes)
include hd

/-- A field that the query may not fill is filled alike whatever the query is. -/
theorem puts_withQuery (h : ¬ b.Feeds .query field) :
    puts field ((b.schedule (r.withQuery q) body).map (b.outcome (r.withQuery q) body)) =
      puts field ((b.schedule r body).map (b.outcome r body)) := by
  have hkeys : puts field ((b.roots (r.withQuery q) body).map fun root =>
      b.outcome (r.withQuery q) body (.keys root)) =
        puts field ((b.roots r body).map fun root => b.outcome r body (.keys root)) := by
    rw [puts_keys, puts_keys, entriesFor_withQuery hd h]
  simp only [schedule, List.map_append, List.map_map, Function.comp_def, puts_append]
  rw [puts_names_of_not_feeds hd h, puts_names_of_not_feeds hd h, map_formSteps_withQuery, hkeys]
  rfl

/-- A field that the body may not fill is filled alike whatever the body is. -/
theorem puts_body (h : ¬ b.Feeds .form field)
    (hbody : ∀ f, b.fillers.body = some f → f.field ≠ field) :
    puts field ((b.schedule r body').map (b.outcome r body')) =
      puts field ((b.schedule r body).map (b.outcome r body)) := by
  have hwhole : ∀ body, puts field (b.fillers.body.toList.map fun f =>
      b.outcome r body (.body f)) = [] := fun body =>
    puts_map_eq_nil.mpr fun f hf =>
      BodyFiller.value?_fill (hbody f (Option.mem_toList.mp hf)) b r body
  have hkeys : puts field ((b.roots r body').map fun root => b.outcome r body' (.keys root)) =
      puts field ((b.roots r body).map fun root => b.outcome r body (.keys root)) := by
    rw [puts_keys, puts_keys, entriesFor_body hd h]
  simp only [schedule, List.map_append, List.map_map, Function.comp_def, puts_append]
  rw [hwhole, hwhole, puts_formSteps_of_not_feeds hd h, puts_formSteps_of_not_feeds hd h, hkeys]
  rfl

end Puts

/-- Two requests that put the same values into a field leave the same in it. -/
theorem get?_of_puts_eq {r r' : Request} {body body' : Bytes} {model model' : Record Value}
    (hmodel : leftModel? (b.resolve r body) = some model)
    (hmodel' : leftModel? (b.resolve r' body') = some model') {m : Member Ty} (hm : m ∈ b.members)
    (h : puts m.name ((b.schedule r' body').map (b.outcome r' body')) =
      puts m.name ((b.schedule r body).map (b.outcome r body))) :
    model.get? m.name = model'.get? m.name := by
  obtain ⟨new, hnew, -, -, rfl⟩ := leftModel?_resolve.mp hmodel
  obtain ⟨new', hnew', -, -, rfl⟩ := leftModel?_resolve.mp hmodel'
  obtain rfl : new = new' := Except.ok.inj (hnew.symm.trans hnew')
  have hmem := ModelHead.mem_names_newInstance hnew hm
  rw [filled, filled, get?_foldl_apply _ _ hmem, get?_foldl_apply _ _ hmem, h]

/-- When the log can be written a model is left unless there is no new one or something cannot be
looked up. -/
theorem isSome_leftModel? {r : Request} (body : Bytes)
    (haddress : ∃ path, r.addressPath = .ok path) :
    (leftModel? (b.resolve r body)).isSome = true ↔
      (∃ new, b.head.newInstance b.members = .ok new) ∧ b.Readable r := by
  rw [Option.isSome_iff_exists]
  constructor
  · rintro ⟨model, hmodel⟩
    obtain ⟨new, hnew, hread, -, -⟩ := leftModel?_resolve.mp hmodel
    exact ⟨⟨new, hnew⟩, hread⟩
  · rintro ⟨⟨new, hnew⟩, hread⟩
    exact ⟨_, leftModel?_resolve.mpr ⟨new, hnew, hread, .inr haddress, rfl⟩⟩

/-- **The query and the body are kept apart.** Let two requests differ in the query only, or in the
body only, and let both leave a model, whole or in part. Then a field that the query may not fill
holds the same in both models when the queries differ, and so does a field that the body may not
fill when the bodies differ. Where the addresses can be read, as they can when the queries are UTF-8,
either both requests leave a model or neither does. -/
theorem query_body_apart (hb : t.compile env = .ok (.binder b))
    (hnames : (b.members.map (·.name)).Nodup) (r : Request) (q body body' : Bytes) :
    (∀ model model', leftModel? (b.resolve r body) = some model →
      leftModel? (b.resolve (r.withQuery q) body) = some model' →
      ∀ m ∈ b.members, ∀ tag, m.ownTag? env.options.tagKey = some tag → tag.fromQuery = false →
        model.get? m.name = model'.get? m.name) ∧
    (∀ model model', leftModel? (b.resolve r body) = some model →
      leftModel? (b.resolve r body') = some model' →
      ∀ m ∈ b.members, ∀ tag, m.ownTag? env.options.tagKey = some tag → tag.fromBody = false →
        model.get? m.name = model'.get? m.name) ∧
    ((∃ path, r.addressPath = .ok path) →
      ((∃ path, (r.withQuery q).addressPath = .ok path) →
        ((leftModel? (b.resolve r body)).isSome ↔
          (leftModel? (b.resolve (r.withQuery q) body)).isSome)) ∧
      ((leftModel? (b.resolve r body)).isSome ↔ (leftModel? (b.resolve r body')).isSome)) := by
  have hd := distinct_of_compile hb
  refine ⟨?_, ?_, fun haddress => ⟨fun haddress' => ?_, ?_⟩⟩
  · intro model model' hmodel hmodel' m hm tag htag hclosed
    exact get?_of_puts_eq hmodel hmodel' hm
      (puts_withQuery hd r q body (not_feeds_query hb hnames hm htag hclosed))
  · intro model model' hmodel hmodel' m hm tag htag hclosed
    exact get?_of_puts_eq hmodel hmodel' hm
      (puts_body hd r body body' (not_feeds_form hb hnames hm htag hclosed)
        fun f hf => field_ne_of_body hb hnames hm htag hclosed hf)
  · rw [isSome_leftModel? body haddress, isSome_leftModel? body haddress']
    exact and_congr_right fun _ => ⟨fun h => ⟨h.lookups, h.headers⟩, fun h => ⟨h.lookups, h.headers⟩⟩
  · rw [isSome_leftModel? body haddress, isSome_leftModel? body' haddress]

end Binder

/-- Filters from the query and labels from a form, both by their keys. -/
def channelMembers : List (Member Ty) := [
  { name := "filter", type := .map .dict .str (.scalar { kind := .int }) true,
    tags := [(defaultTagKey, "query,deepObject=true")] },
  { name := "labels", type := .map .dict .str .str true,
    tags := [(defaultTagKey, "query,deepObject=true,formOnly")] }]

/-- A form whose query says something of its labels. -/
def channelRequest : Request where
  query := utf8 "filter[a]=1&labels[k]=query"
  headers := [("Content-Type", formContentType)]

/-- The form of that request. -/
def channelForm : Bytes := utf8 "labels[k]=form&filter[a]=2"

/-- The binder of filters and labels. -/
def channelBinder : Binder :=
  .declared ⟨{}, []⟩ { cls := { name := "Channels" } } channelMembers

/-- Another query leaves the labels alone, and another form the filters. -/
theorem labels_and_filters_apart :
    (∃ model model', leftModel? (channelBinder.resolve channelRequest channelForm) = some model ∧
      leftModel? (channelBinder.resolve (channelRequest.withQuery (utf8 "labels[j]=query"))
        channelForm) = some model' ∧ model.get? "labels" = model'.get? "labels") ∧
    ∃ model model', leftModel? (channelBinder.resolve channelRequest channelForm) = some model ∧
      leftModel? (channelBinder.resolve channelRequest (utf8 "filter[b]=3")) = some model' ∧
      model.get? "filter" = model'.get? "filter" := by
  have hb : (Ty.model { cls := { name := "Channels" } } channelMembers).compile ⟨{}, []⟩ =
      .ok (.binder channelBinder) := rfl
  obtain ⟨hquery, hbody, hleft⟩ := Binder.query_body_apart hb (by decide) channelRequest
    (utf8 "labels[j]=query") channelForm (utf8 "filter[b]=3")
  obtain ⟨hleft, hleft'⟩ :=
    hleft ((Request.readsAddress_standard rfl).exists_path (decodeUtf8List_utf8List _))
  have hleft := hleft ((Request.readsAddress_standard rfl).exists_path (decodeUtf8List_utf8List _))
  have hsome : (leftModel? (channelBinder.resolve channelRequest channelForm)).isSome := by
    decide +kernel
  obtain ⟨model, hmodel⟩ := Option.isSome_iff_exists.mp hsome
  obtain ⟨model', hmodel'⟩ := Option.isSome_iff_exists.mp (hleft.mp hsome)
  obtain ⟨model'', hmodel''⟩ := Option.isSome_iff_exists.mp (hleft'.mp hsome)
  exact ⟨⟨model, model', hmodel, hmodel', hquery model model' hmodel hmodel' _ (.tail _ (.head _))
      _ rfl rfl⟩,
    ⟨model, model'', hmodel, hmodel'', hbody model model'' hmodel hmodel'' _ (.head _) _ rfl rfl⟩⟩

end ParamBinding
