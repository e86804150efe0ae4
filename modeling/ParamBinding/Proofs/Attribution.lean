import ParamBinding.Proofs.Capability
import ParamBinding.Proofs.Containment
import ParamBinding.Proofs.Registration

/-!
# The field that a fault names

While a field is filled, things go wrong at any depth: in the reader of a class, in a field of a nested
model, in the decoder of a document. These faults may name a place of their own. The step that fills
the field puts a fault of the field around them, which names the part of the request, the parameter
and the field (`Member.ParameterFault`, `Member.BodyFault`), and nothing is put around that one. So the
fault that a request is refused for names a field of the model or the form as a whole, and whatever
lies within it is only its cause (`Binder.faults_attributed`). The one exception is a source of path
variables: what it says to be at fault with the request is taken at its word.

Apart from the parameters of the query, which a form may fill as well, a field has one step
(`Member.step?`). When that step fails nothing is put into the field.
-/

namespace ParamBinding

open ParamBinding.Text

/-! ### Faults of decoders -/

/-- A fault that the decoder of a parameter reports for some texts. -/
inductive Unpacker.Reports : Unpacker → Fault → Prop
  | single {d : TextDecoder} {s : String} {inner : Fault} (h : d s = .error inner) :
    Reports (.single d) inner
  | multi {d : ListDecoder} {vs : List String} {inner : Fault} (h : d vs = .error inner) :
    Reports (.multi d) inner
  | deepObject {d : KeyedDecoder} {keys : List (String × List String)} {inner : Fault}
    (h : d keys = .error inner) : Reports (.deepObject d) inner

namespace Filler

variable {f : Filler} {place : Place} {e : Fault}

/-- Only a parameter that nothing receives is reported as it is. -/
theorem blame_eq_decode (h : (f.blame place e).kind = .decode) :
    e.kind ≠ .unknownParameter ∧ f.blame place e = .decode (.parameter place.label f.name f.field)
      { source := some place.name, parameter := some f.name, field := some f.field } e := by
  unfold blame at h ⊢
  split at h
  · rename_i hunknown
    rw [hunknown] at h
    cases h
  · rename_i hknown
    exact ⟨hknown, if_neg hknown⟩

theorem fault?_outcome {v : Except Fault Value} :
    (f.outcome place v).fault? = some e ↔ ∃ inner, v = .error inner ∧ f.blame place inner = e := by
  cases v with
  | ok v => exact iff_of_false (by rintro ⟨⟩) (by rintro ⟨_, ⟨⟩, _⟩)
  | error inner => simp [outcome, Outcome.fault?]

/-- A field that is filled from one text fails with what the decoder of one text reports. -/
theorem reports_of_fillText {s : String} (htakes : f.unpacker.capability = .text)
    (h : (f.fillText place s).fault? = some e) :
    ∃ inner, f.unpacker.Reports inner ∧ f.blame place inner = e := by
  obtain ⟨inner, hinner, he⟩ := fault?_outcome.mp h
  refine ⟨inner, ?_, he⟩
  cases hu : f.unpacker with
  | single d =>
    rw [hu] at hinner
    exact .single hinner
  | multi d | deepObject d =>
    rw [hu] at htakes
    cases htakes

theorem reports_of_fillList {vs : List String}
    (htakes : f.unpacker.capability ∈ [Capability.text, .occurrences])
    (h : (f.fillList place vs).fault? = some e) :
    ∃ inner, f.unpacker.Reports inner ∧ f.blame place inner = e := by
  cases hu : f.unpacker with
  | single d =>
    rw [← hu]
    cases vs with
    | nil =>
      unfold fillList at h
      rw [hu] at h
      cases h
    | cons s vs =>
      unfold fillList at h
      rw [hu] at h
      exact reports_of_fillText (by rw [hu]; rfl) h
  | multi d =>
    unfold fillList at h
    rw [hu] at h
    obtain ⟨inner, hinner, he⟩ := fault?_outcome.mp h
    exact ⟨inner, .multi hinner, he⟩
  | deepObject d =>
    rw [hu] at htakes
    simp [Unpacker.capability] at htakes

theorem reports_of_fillKeys {keys : List (String × List String)}
    (htakes : f.unpacker.capability = .keys) (h : (f.fillKeys keys).fault? = some e) :
    ∃ inner, f.unpacker.Reports inner ∧ f.blame .query inner = e := by
  obtain ⟨inner, hinner, he⟩ := fault?_outcome.mp h
  refine ⟨inner, ?_, he⟩
  cases hu : f.unpacker with
  | deepObject d =>
    rw [hu] at hinner
    exact .deepObject hinner
  | single d | multi d =>
    rw [hu] at htakes
    cases htakes

end Filler

/-! ### Faults of fields -/

namespace Member

/-- What a fault of a field says that a parameter fills: the part of the request and the parameter
that its tag asks for, and the field. -/
def origin (m : Member Ty) (tag : Tag) : Origin where
  source := some tag.base
  parameter := some (m.site tag).name
  field := some m.name

/-- What a fault of a field says that the body fills. -/
def bodyOrigin (m : Member Ty) : Origin where
  source := some "body"
  field := some m.name

/-- The faults of a field that a parameter fills: that of its own decoder, put into the step of the
field, or that of a path variable which the route does not have. -/
inductive ParameterFault (env : Env) (m : Member Ty) (tag : Tag) : Fault → Prop
  | decoder {u : Unpacker} {inner : Fault} (hu : m.type.unpacker env (m.site tag) tag = .ok u)
      (h : u.Reports inner) (hknown : inner.kind ≠ .unknownParameter) :
    ParameterFault env m tag (.decode
      (.parameter (m.site tag).place.label (m.site tag).name m.name) (m.origin tag) inner)
  | accepter {v : Value} {inner : Fault} (hpath : tag.base = "path")
      (h : m.type.accepter env (m.site tag) tag v = .error inner)
      (hknown : inner.kind ≠ .unknownParameter) :
    ParameterFault env m tag (.decode
      (.parameter (m.site tag).place.label (m.site tag).name m.name) (m.origin tag) inner)
  | missing (hpath : tag.base = "path") :
    ParameterFault env m tag (.rejected (.noPathVariable (m.site tag).name m.name) (m.origin tag))

/-- The faults of a field that the body fills: that of the decoder of the body, put into the step of
the field, or that there is no such decoder. -/
inductive BodyFault (b : Binder) (body : Bytes) (m : Member Ty) : Fault → Prop
  | decoder {contentType : String} {d : Decoder} {inner : Fault}
      (hd : BodyFiller.decoder? b.decoders contentType = some d)
      (h : d.decode body m.type = .error inner) :
    BodyFault b body m (.decode (.body contentType m.type.name) m.bodyOrigin inner)
  | unregistered {contentType : String}
      (hd : BodyFiller.decoder? b.decoders contentType = none) :
    BodyFault b body m (.decode .bodyType m.bodyOrigin (.noBodyDecoder contentType))

variable {env : Env} {m : Member Ty} {tag : Tag} {x : Binding} {e : Fault}

theorem ParameterFault.origin_eq (h : m.ParameterFault env tag e) : e.origin = m.origin tag := by
  cases h <;> rfl

theorem BodyFault.origin_eq {b : Binder} {body : Bytes} (h : m.BodyFault b body e) :
    e.origin = m.bodyOrigin := by
  cases h <;> rfl

/-- A binding is what the tag of its field says. -/
theorem binding?_inv (h : m.binding? env = some x) :
    ∃ tag u, m.ownTag? env.options.tagKey = some tag ∧
      tag.base ∈ ["path", "query", "header", "cookie"] ∧
      m.type.unpacker env (m.site tag) tag = .ok u ∧
      x = ⟨tag, m.type, ⟨m.name, (m.site tag).name, u⟩⟩ := by
  obtain ⟨tag, htag, h⟩ := Option.bind_eq_some_iff.mp h
  obtain ⟨text, -, hread⟩ := ownTag?_eq_some.mp htag
  split at h
  · cases h
  · rename_i hbase
    obtain ⟨u, hu, rfl⟩ := Option.map_eq_some_iff.mp h
    refine ⟨tag, u, htag, ?_, toOption_eq_some.mp hu, rfl⟩
    have hknown := base_mem_of_read hread
    simpa [Tag.bases, not_or.mp hbase] using hknown

theorem base_of_binding? (h : m.binding? env = some x) :
    x.tag.base ∈ ["path", "query", "header", "cookie"] := by
  obtain ⟨tag, u, -, hbase, -, rfl⟩ := binding?_inv h
  exact hbase

theorem base_of_body? {key : String} {g : BodyFiller} (h : m.body? key = some g) :
    ∃ tag, m.ownTag? key = some tag ∧ tag.base = "model" := by
  obtain ⟨tag, htag, h⟩ := Option.bind_eq_some_iff.mp h
  split at h
  · exact ⟨tag, htag, ‹_›⟩
  · cases h

/-- The part of the request that a tag asks for has the name that the tag gives it. -/
theorem name_place_site (hbase : tag.base ∈ ["path", "query", "header", "cookie"]) :
    (m.site tag).place.name = tag.base := by
  simp only [List.mem_cons, List.not_mem_nil, or_false] at hbase
  rw [site]
  rcases hbase with hbase | hbase | hbase | hbase <;> rw [hbase] <;> rfl

/-- What is blamed on a field is a fault of the field. -/
theorem parameterFault_of_blame (hx : m.binding? env = some x) {place : Place}
    (hplace : x.place = place) (hinner : x.filler.unpacker.Reports e)
    (hkind : (x.filler.blame place e).kind = .decode) :
    m.ParameterFault env x.tag (x.filler.blame place e) := by
  obtain ⟨tag, u, -, hbase, hu, rfl⟩ := binding?_inv hx
  have hname : (Place.ofName tag.base).name = tag.base := name_place_site (m := m) hbase
  obtain ⟨hknown, hblame⟩ := Filler.blame_eq_decode hkind
  rw [hblame, ← hplace, Binding.place, hname]
  exact .decoder hu hinner hknown

/-- A path variable fails because the route does not have it, or with what one of the decoders of its
field reports. -/
theorem parameterFault_of_path (hx : m.binding? env = some x) (hplace : x.place = .path)
    (htakes : x.filler.unpacker.capability = .text) {v : Option Value}
    (hfails : ((x.pathFiller env).fill v).fault? = some e) (hkind : e.kind = .decode) :
    m.ParameterFault env x.tag e := by
  have hpath : x.tag.base = "path" := (Place.ofName_eq_iff (by rintro s ⟨⟩)).mp hplace
  unfold PathFiller.fill at hfails
  split at hfails
  · obtain ⟨tag, u, -, -, -, rfl⟩ := binding?_inv hx
    cases hfails
    have hmissing : m.ParameterFault env tag _ := .missing hpath
    rwa [origin, hpath] at hmissing
  · obtain ⟨inner, hinner, rfl⟩ := Filler.reports_of_fillText htakes hfails
    exact parameterFault_of_blame hx hplace hinner hkind
  · -- a variable that is no text goes to another decoder of the type
    obtain ⟨inner, hinner, rfl⟩ := Filler.fault?_outcome.mp hfails
    obtain ⟨hknown, hblame⟩ := Filler.blame_eq_decode hkind
    rw [hblame]
    obtain ⟨tag, u, -, -, -, rfl⟩ := binding?_inv hx
    have haccepter := ParameterFault.accepter (m := m) hpath hinner hknown
    rwa [origin, hpath, show (m.site tag).place = .path from hplace] at haccepter

end Member

/-! ### The step of a field -/

/-- The step that fills a field from a parameter which is not looked for by its name. -/
def Binding.step? (env : Env) (x : Binding) : Option Step :=
  match x.place with
  | .path => some (.path (x.pathFiller env))
  | .header => some (.header x.filler)
  | .cookie => some (.cookie x.filler)
  | _ => none

namespace Member

variable {env : Env} {m : Member Ty} {s : Step}

/-- The one step that fills a field, unless it is filled from the query or a form. -/
def step? (env : Env) (m : Member Ty) : Option Step :=
  ((m.body? env.options.tagKey).map .body).or ((m.binding? env).bind (·.step? env))

/-- A field that a parameter fills is not filled by the body. -/
theorem body?_of_binding? {x : Binding} (hx : m.binding? env = some x) :
    m.body? env.options.tagKey = none := by
  obtain ⟨tag, u, htag, hbase, -⟩ := binding?_inv hx
  rw [body?, htag, Option.bind_some, if_neg]
  intro hmodel
  simp [hmodel] at hbase

theorem step?_of_binding? {x : Binding} (hx : m.binding? env = some x) :
    m.step? env = x.step? env := by
  rw [step?, body?_of_binding? hx, hx]
  rfl

theorem step?_of_body? {g : BodyFiller} (hg : m.body? env.options.tagKey = some g) :
    m.step? env = some (.body g) := by
  rw [step?, hg]
  rfl

end Member

namespace Binder

variable {env : Env} {t : Ty} {b : Binder} {r : Request} {body : Bytes} {s : Step} {f : Fault}
  {m : Member Ty} {x : Binding} {g : BodyFiller}

/-- A step of the schedule that is for a field is the step of that field: of a field that the body
fills, or of one that a parameter fills. -/
theorem exists_of_field? (hb : t.compile env = .ok (.binder b)) (hs : s ∈ b.schedule r body)
    {field : String} (hfield : s.field? = some field) :
    ∃ m ∈ b.members, m.name = field ∧
      ((∃ g, m.body? env.options.tagKey = some g ∧ s = .body g) ∨
        ∃ x, m.binding? env = some x ∧ x.step? env = some s) := by
  have hbinding : ∀ {x : Binding}, x ∈ bindings env b.members → x.step? env = some s →
      x.filler.field = field →
      ∃ m ∈ b.members, m.name = field ∧
        ((∃ g, m.body? env.options.tagKey = some g ∧ s = .body g) ∨
          ∃ x, m.binding? env = some x ∧ x.step? env = some s) := by
    intro x hx hstep hname
    obtain ⟨m, hm, hx⟩ := List.mem_filterMap.mp hx
    exact ⟨m, hm, (Member.field_of_binding? hx).symm.trans hname, .inr ⟨x, hx, hstep⟩⟩
  replace hs := mem_schedule.mp hs
  rw [Ty.fillers_of_compile hb] at hs
  cases s with
  | body g =>
    cases hfield
    obtain ⟨m, hm, hg⟩ := List.mem_filterMap.mp (List.mem_of_mem_head? (Option.mem_toList.mp hs))
    exact ⟨m, hm, (Member.field_of_body? hg).symm, .inl ⟨g, hg, rfl⟩⟩
  | path pf =>
    cases hfield
    obtain ⟨x, hx, rfl⟩ := List.mem_map.mp hs
    obtain ⟨hx, hplace⟩ := List.mem_filter.mp hx
    exact hbinding hx (by rw [Binding.step?, of_decide_eq_true hplace]) rfl
  | header hf =>
    cases hfield
    obtain ⟨x, hx, hplace, rfl⟩ := exists_of_mem_table hs
    exact hbinding hx (by rw [Binding.step?, of_decide_eq_true hplace]) rfl
  | cookie cf =>
    cases hfield
    obtain ⟨x, hx, hplace, rfl⟩ := exists_of_mem_table hs
    exact hbinding hx (by rw [Binding.step?, of_decide_eq_true hplace]) rfl
  | _ => cases hfield

/-- A field has no other step than its own. -/
theorem step?_of_field? (hb : t.compile env = .ok (.binder b))
    (hnames : (b.members.map (·.name)).Nodup) (hm : m ∈ b.members) (hs : s ∈ b.schedule r body)
    (hfield : s.field? = some m.name) : m.step? env = some s := by
  obtain ⟨m', hm', hname, hstep⟩ := exists_of_field? hb hs hfield
  obtain rfl := List.inj_on_of_nodup_map hnames hm' hm hname
  rcases hstep with ⟨g, hg, rfl⟩ | ⟨x, hx, hstep⟩
  · exact Member.step?_of_body? hg
  · exact (Member.step?_of_binding? hx).trans hstep

theorem Served.plainTable (h : b.Served env) {part : NamePart} {g : Filler}
    (hg : g ∈ b.plainTable part) : g.unpacker.capability ∈ [Capability.text, .occurrences] := by
  cases part with
  | query => exact h.query g hg
  | form => exact h.form g hg

theorem Served.keyedTable (h : b.Served env) {part : NamePart} {g : Filler}
    (hg : g ∈ b.keyedTable part) : g.unpacker.capability = .keys := by
  cases part with
  | query => exact h.deepObject g hg
  | form => exact h.formDeepObject g hg

/-- The body fails because there is no decoder for it, or with what its decoder reports. -/
theorem bodyFault_of_fill (hg : m.body? env.options.tagKey = some g)
    (hfails : b.Fails r body (.body g) f) : m.BodyFault b body f := by
  obtain ⟨tag, -, h⟩ := Option.bind_eq_some_iff.mp hg
  split at h
  · cases h
    unfold Fails outcome BodyFiller.fill at hfails
    dsimp only at hfails
    split at hfails
    · cases hfails
      exact .unregistered ‹_›
    · split at hfails
      · cases hfails
      · cases hfails
        exact .decoder ‹_› ‹_›
  · cases h

/-- A path variable fails when it is looked up, or else when the field is filled from it. -/
theorem fault?_path {pf : PathFiller} (hfails : b.Fails r body (.path pf) f) :
    b.pathValue r pf.name = .error f ∨ ∃ v, (pf.fill v).fault? = some f := by
  rw [Fails, outcome, pathOutcome] at hfails
  cases hvalue : b.pathValue r pf.name with
  | ok v =>
    rw [hvalue] at hfails
    exact .inr ⟨v, hfails⟩
  | error g =>
    rw [hvalue] at hfails
    dsimp only at hfails
    split at hfails
    · cases hfails
      exact .inl rfl
    · cases hfails

/-- The step of a parameter fails with a fault of its field, or with that of the lookup of a path
variable. -/
theorem parameterFault_of_step? (hserved : b.Served env) (hx : m.binding? env = some x)
    (hstep : x.step? env = some s) (hs : s ∈ b.schedule r body) (hfails : b.Fails r body s f)
    (hkind : f.kind = .decode) :
    m.ParameterFault env x.tag f ∨
      x.place = .path ∧ b.pathValue r (m.site x.tag).name = .error f := by
  replace hs := mem_schedule.mp hs
  unfold Binding.step? at hstep
  split at hstep
  · rename_i hplace
    cases hstep
    rcases fault?_path hfails with hlookup | ⟨v, hv⟩
    · obtain ⟨tag, u, -, -, -, rfl⟩ := Member.binding?_inv hx
      exact .inr ⟨hplace, hlookup⟩
    · exact .inl (Member.parameterFault_of_path hx hplace (hserved.path _ hs) hv hkind)
  · rename_i hplace
    cases hstep
    left
    simp only [Fails, outcome] at hfails
    split at hfails
    · cases hfails
    · obtain ⟨inner, hinner, rfl⟩ := Filler.reports_of_fillList (hserved.header _ hs) hfails
      exact Member.parameterFault_of_blame hx hplace hinner hkind
  · rename_i hplace
    cases hstep
    left
    simp only [Fails, outcome] at hfails
    split at hfails
    · cases hfails
    · obtain ⟨inner, hinner, rfl⟩ := Filler.reports_of_fillText (hserved.cookie _ hs) hfails
      exact Member.parameterFault_of_blame hx hplace hinner hkind
  · cases hstep

/-- What is blamed on a parameter of the query or of a form is a fault of its field. -/
theorem parameterFault_of_feeds (hb : t.compile env = .ok (.binder b)) {part : NamePart} {g : Filler}
    (hg : g ∈ b.plainTable part ++ b.keyedTable part) {inner : Fault}
    (hinner : g.unpacker.Reports inner) (hkind : (g.blame .query inner).kind = .decode) :
    ∃ m ∈ b.members, ∃ x, m.binding? env = some x ∧ x.place = .query ∧
      m.ParameterFault env x.tag (g.blame .query inner) := by
  obtain ⟨x, hx, haccepts, rfl⟩ := exists_binding_accepts hb hg
  obtain ⟨m, hm, hx⟩ := List.mem_filterMap.mp hx
  have hplace := place_of_accepts haccepts
  exact ⟨m, hm, x, hx, hplace, Member.parameterFault_of_blame hx hplace hinner hkind⟩

/-- A name of the query or of a form fails with a fault of the field whose parameter it is. -/
theorem parameterFault_of_name (hb : t.compile env = .ok (.binder b)) {part : NamePart}
    {name : String} (hfails : b.Fails r body (.name part name) f) (hkind : f.kind = .decode) :
    ∃ m ∈ b.members, ∃ x, m.binding? env = some x ∧ x.place = .query ∧
      m.ParameterFault env x.tag f := by
  unfold Fails at hfails
  rw [outcome] at hfails
  cases huse : b.usage part name with
  | parameter g =>
    rw [huse] at hfails
    have hg := ((lookup_plain (distinct_of_compile hb)).mp (usage_eq_parameter.mp huse)).1
    obtain ⟨inner, hinner, rfl⟩ :=
      Filler.reports_of_fillList ((served_of_compile hb).plainTable hg) hfails
    exact parameterFault_of_feeds hb (List.mem_append_left _ hg) hinner hkind
  | key root key =>
    rw [huse] at hfails
    cases hfails
  | unknown =>
    rw [huse, NameUse.outcome] at hfails
    split at hfails
    · cases hfails
      cases hkind
    · cases hfails

/-- The filler that is found for keys belongs to the query or to a form. -/
theorem exists_part_of_deepFiller? {root : String} {g : Filler} (hg : b.deepFiller? root = some g) :
    ∃ part, g ∈ b.keyedTable part := by
  rcases Option.or_eq_some_iff.mp hg with hquery | ⟨-, hform⟩
  · exact ⟨.query, List.mem_of_find?_eq_some hquery⟩
  · exact ⟨.form, List.mem_of_find?_eq_some hform⟩

/-- Keys fail with a fault of the field whose parameter they belong to. -/
theorem parameterFault_of_keys (hb : t.compile env = .ok (.binder b)) {root : String}
    (hfails : b.Fails r body (.keys root) f) (hkind : f.kind = .decode) :
    ∃ m ∈ b.members, ∃ x, m.binding? env = some x ∧ x.place = .query ∧
      m.ParameterFault env x.tag f := by
  unfold Fails at hfails
  simp only [outcome] at hfails
  split at hfails
  · rename_i g hg
    obtain ⟨part, hg⟩ := exists_part_of_deepFiller? hg
    obtain ⟨inner, hinner, rfl⟩ :=
      Filler.reports_of_fillKeys ((served_of_compile hb).keyedTable hg) hfails
    exact parameterFault_of_feeds hb (List.mem_append_right _ hg) hinner hkind
  · cases hfails

/-! ### Fields whose step fails -/

theorem value?_of_fails (hfails : b.Fails r body s f) (field : String) :
    (b.outcome r body s).value? field = none := by
  unfold Fails at hfails
  cases ho : b.outcome r body s with
  | put g v =>
    rw [ho] at hfails
    cases hfails
  | _ => rfl

theorem value?_keys_of_not_feeds {field : String} (h : ∀ part, ¬ b.Feeds part field)
    (root : String) : (b.outcome r body (.keys root)).value? field = none := by
  rw [outcome_keys, keysOutcome]
  cases hg : b.deepFiller? root with
  | none => rfl
  | some g =>
    obtain ⟨part, hg⟩ := exists_part_of_deepFiller? hg
    exact Filler.value?_outcome (fun hfield => h part ⟨g, List.mem_append_right _ hg, hfield⟩) .query _

section Starts

variable (hb : t.compile env = .ok (.binder b)) (hnames : (b.members.map (·.name)).Nodup)
  (hm : m ∈ b.members) {tag : Tag} (htag : m.ownTag? env.options.tagKey = some tag)
  (hbase : tag.base ≠ "query")
include hb hnames hm htag hbase

theorem not_feeds_of_base (part : NamePart) : ¬ b.Feeds part m.name := by
  intro hfeeds
  obtain ⟨x, -, haccepts, rfl⟩ := accepts_of_feeds hb hnames hm htag hfeeds
  exact hbase (Place.ofName_eq_query.mp (place_of_accepts haccepts))

/-- When the step of a field fails, nothing else puts anything into it. -/
theorem puts_of_fails (hs : s ∈ b.schedule r body) (hfield : s.field? = some m.name)
    (hfails : b.Fails r body s f) :
    puts m.name ((b.schedule r body).map (b.outcome r body)) = [] := by
  have hfeeds := not_feeds_of_base hb hnames hm htag hbase
  have hstep := step?_of_field? hb hnames hm hs hfield
  refine puts_map_eq_nil.mpr fun s' hs' => ?_
  cases hfield' : s'.field? with
  | some field =>
    by_cases hname : field = m.name
    · have hstep' := step?_of_field? hb hnames hm hs' (hname ▸ hfield')
      rw [Option.some.inj (hstep'.symm.trans hstep)]
      exact value?_of_fails hfails m.name
    · exact value?_of_field_ne hfield' hname r body
  | none => cases s' with
    | name part n => exact value?_name_of_not_feeds (distinct_of_compile hb) (hfeeds part) r body n
    | keys root => exact value?_keys_of_not_feeds hfeeds root
    | brokenForm g => rfl
    | _ => cases hfield'

end Starts

/-! ### Requests that are refused -/

/-- A fault is attributed to a field that the request should have filled from a parameter, to the
field that the body should have filled, or to the form as a whole. A field that is not filled from
the query holds what it starts with. -/
inductive Attributed (env : Env) (b : Binder) (r : Request) (body : Bytes) (model : Record Value)
    (f : Fault) : Prop
  | parameter (m : Member Ty) (tag : Tag) (hm : m ∈ b.members)
      (htag : m.ownTag? env.options.tagKey = some tag)
      (hbase : tag.base ∈ ["path", "query", "header", "cookie"])
      (horigin : f.origin = ⟨some tag.base, some (m.site tag).name, some m.name⟩)
      (hfault : m.ParameterFault env tag f)
      (hstart : tag.base ≠ "query" → m.start = .ok (model.get? m.name))
  | body (m : Member Ty) (tag : Tag) (hm : m ∈ b.members)
      (htag : m.ownTag? env.options.tagKey = some tag) (hbase : tag.base = "model")
      (horigin : f.origin = ⟨some "body", none, some m.name⟩) (hfault : m.BodyFault b body f)
      (hstart : m.start = .ok (model.get? m.name))
  | form (u : Utf8Error) (hneeds : b.fillers.needsForm = true)
      (htype : r.contentType = formContentType) (hbytes : decodeUtf8List body = .error u)
      (horigin : f.origin = ⟨some "form", none, none⟩)
      (hfault : f = .rejected (.malformedForm u) { source := some "form" })

/-- A fault is that with which the source of path variables has answered for a field. It stays as the
source has given it, whatever it names, and the field holds what it starts with. -/
inductive Passed (env : Env) (b : Binder) (r : Request) (model : Record Value) (f : Fault) : Prop
  | lookup (m : Member Ty) (tag : Tag) (hm : m ∈ b.members)
      (htag : m.ownTag? env.options.tagKey = some tag) (hbase : tag.base = "path")
      (hvalue : b.pathValue r (m.site tag).name = .error f)
      (hstart : m.start = .ok (model.get? m.name))

/-- A form that cannot be read is a body that is no UTF-8. -/
theorem attributed_of_formPart {model : Record Value} (h : b.formPart r body = .error f) :
    b.Attributed env r body model f := by
  unfold formPart formItems at h
  split at h
  · rename_i hread
    obtain ⟨hneeds, htype⟩ := Bool.and_eq_true_iff.mp hread
    split at h
    · cases h
    · cases h
      exact .form _ hneeds (of_decide_eq_true htype) ‹_› rfl rfl
  · cases h

/-- A request that is refused has a step that fails, and with what is reported. -/
theorem fails_of_resolve {e : BindError} (h : b.resolve r body = .error (.bind e)) :
    ∃ s ∈ b.schedule r body, b.Fails r body s e.cause := by
  obtain ⟨os, hos, hcause⟩ := cause_of_resolve h
  rw [outcomes_eq (readable_of_outcomes hos), Except.ok.injEq] at hos
  subst hos
  exact fails_of_firstFault? hcause

theorem attributed_of_fails (hb : t.compile env = .ok (.binder b))
    (hnames : (b.members.map (·.name)).Nodup) {model : Record Value}
    (hmodel : leftModel? (b.resolve r body) = some model) (hs : s ∈ b.schedule r body)
    (hfails : b.Fails r body s f) (hkind : f.kind = .decode) :
    b.Passed env r model f ∨ b.Attributed env r body model f := by
  have hstart : ∀ {m : Member Ty} {tag : Tag}, m ∈ b.members →
      m.ownTag? env.options.tagKey = some tag → s.field? = some m.name → tag.base ≠ "query" →
      m.start = .ok (model.get? m.name) := fun hm htag hfield hbase =>
    start_of_puts_eq_nil hnames hmodel hm (puts_of_fails hb hnames hm htag hbase hs hfield hfails)
  cases hfield : s.field? with
  | some field =>
    obtain ⟨m, hm, rfl, ⟨g, hg, rfl⟩ | ⟨x, hx, hstep⟩⟩ := exists_of_field? hb hs hfield
    · obtain ⟨tag, htag, hbase⟩ := Member.base_of_body? hg
      have hfault := bodyFault_of_fill hg hfails
      exact .inr (.body m tag hm htag hbase hfault.origin_eq hfault
        (hstart hm htag hfield (by rw [hbase]; decide)))
    · have htag := Member.ownTag?_of_binding? hx
      rcases parameterFault_of_step? (served_of_compile hb) hx hstep hs hfails hkind with
        hfault | ⟨hplace, hvalue⟩
      · exact .inr (.parameter m x.tag hm htag (Member.base_of_binding? hx) hfault.origin_eq hfault
          (hstart hm htag hfield))
      · have hbase : x.tag.base = "path" := (Place.ofName_eq_iff (by rintro s ⟨⟩)).mp hplace
        exact .inl (.lookup m x.tag hm htag hbase hvalue
          (hstart hm htag hfield (by rw [hbase]; decide)))
  | none =>
    right
    have hparameter : (∃ m ∈ b.members, ∃ x, m.binding? env = some x ∧ x.place = .query ∧
        m.ParameterFault env x.tag f) → b.Attributed env r body model f := by
      rintro ⟨m, hm, x, hx, hplace, hfault⟩
      exact .parameter m x.tag hm (Member.ownTag?_of_binding? hx) (Member.base_of_binding? hx)
        hfault.origin_eq hfault (absurd (Place.ofName_eq_query.mp hplace))
    cases s with
    | name part n => exact hparameter (parameterFault_of_name hb hfails hkind)
    | keys root => exact hparameter (parameterFault_of_keys hb hfails hkind)
    | brokenForm g =>
      cases hfails
      exact attributed_of_formPart (mem_schedule.mp hs)
    | _ => cases hfield

/-- A parameter that a form may fill is one of the query. -/
theorem base_of_formFiller (hb : t.compile env = .ok (.binder b))
    (hnames : (b.members.map (·.name)).Nodup) {g : Filler}
    (hg : g ∈ b.fillers.form ++ b.fillers.formDeepObject) {tag : Tag} (hm : m ∈ b.members)
    (htag : m.ownTag? env.options.tagKey = some tag) (hname : m.name = g.field) :
    tag.base = "query" := by
  by_contra hbase
  exact not_feeds_of_base hb hnames hm htag hbase .form ⟨g, hg, hname.symm⟩

/-- **The right field is named.** Let a request be refused for a fault that says where a value was to
be put. Then it is a fault of its own of a field of the model, which is filled from the parameter or
the body that the fault names, or one of the form as a whole. Faults from within the field are the
cause of that one at most. Fields that a form may fill are said to be in the query, and a field of
another part of the request holds what it starts with. Only what the source of path variables answers
a lookup with is passed on as it is. -/
theorem faults_attributed (hb : t.compile env = .ok (.binder b))
    (hnames : (b.members.map (·.name)).Nodup) {e : BindError}
    (h : b.resolve r body = .error (.bind e)) (hkind : e.cause.kind = .decode) :
    b.Passed env r e.model e.cause ∨
      b.Attributed env r body e.model e.cause ∧
        ∀ g ∈ b.fillers.form ++ b.fillers.formDeepObject,
          e.cause.origin.field = some g.field → e.cause.origin.source = some "query" := by
  obtain ⟨s, hs, hfails⟩ := fails_of_resolve h
  have hmodel : leftModel? (b.resolve r body) = some e.model := by
    rw [h]
    rfl
  refine (attributed_of_fails hb hnames hmodel hs hfails hkind).imp_right fun hattributed => ?_
  refine ⟨hattributed, fun g hg hfield => ?_⟩
  cases hattributed with
  | parameter m tag hm htag _ horigin =>
    rw [horigin] at hfield ⊢
    rw [base_of_formFiller hb hnames hg hm htag (Option.some.inj hfield)]
  | body m tag hm htag hbase horigin =>
    rw [horigin] at hfield
    have hquery := base_of_formFiller hb hnames hg hm htag (Option.some.inj hfield)
    rw [hbase] at hquery
    exact absurd hquery (by decide)
  | form u _ _ _ horigin =>
    rw [horigin] at hfield
    cases hfield

end Binder

/-- Two fields of a class whose reader may fail as if it were a fault of the request. -/
def moodMembers : List (Member Ty) := [
  { name := "mood", type := .plain (Sample.cls "Picky") (some Sample.picky)
    tags := [(defaultTagKey, "header,name=X-Mood")] },
  { name := "tone", type := .plain (Sample.cls "Picky") (some Sample.picky)
    tags := [(defaultTagKey, "query,form")] }]

/-- Their model. -/
def moods : Ty := .model { cls := { name := "Moods" } } moodMembers

/-- Its binder. -/
def moodBinder : Binder := .declared ⟨{}, []⟩ { cls := { name := "Moods" } } moodMembers

/-- A request whose header makes the reader fail. -/
def moodRequest : Request where
  query := utf8 "tone=ok"
  headers := [("X-Mood", "decode")]

/-- The reader says that its fault belongs elsewhere, but the request is refused for the header. -/
theorem mood_named : ∃ e, moodBinder.resolve moodRequest [] = .error (.bind e) ∧
    e.cause.origin = ⟨some "header", some "X-Mood", some "mood"⟩ ∧
    e.cause.cause?.map (·.origin) = some ⟨some "s", some "p", some "f"⟩ ∧
    moodBinder.Attributed ⟨{}, []⟩ moodRequest [] e.model e.cause := by
  have hb : moods.compile ⟨{}, []⟩ = .ok (.binder moodBinder) := rfl
  have hrefused : moodBinder.resolve moodRequest [] = .error (.bind _) := rfl
  have hnamed := Binder.faults_attributed hb (by decide) hrefused rfl
  refine ⟨_, hrefused, rfl, rfl, ?_⟩
  rcases hnamed with hpassed | hattributed
  · obtain ⟨m, tag, hm, htag, hbase, hvalue, -⟩ := hpassed
    cases hvalue
  · exact hattributed.1

/-- A number from the path, which the constructor does not set. -/
def item : Ty := .model { cls := { name := "Item" } } [
  { name := "id", type := .scalar { kind := .int }, tags := [(defaultTagKey, "path")],
    isParameter := false }]

/-- A source that knows no tenant, and says that this is the request's fault. -/
def noTenant : PathProvider where
  name := "tenants"
  lookup _ _ := .error (.rejected (.stated "no tenant") { source := some "tenant" })

/-- A number that cannot be read leaves its field unset, as it is not set in a new instance. And the
fault of a lookup is passed on, although no field is filled from a tenant. -/
theorem item_unset_tenant_named :
    (∃ b e, item.compile ⟨{ pathVars := some .route }, []⟩ = .ok (.binder b) ∧
      b.resolve { pathParams := [("id", .text "x")] } [] = .error (.bind e) ∧
      e.cause.kind = .decode ∧ e.cause.origin = ⟨some "path", some "id", some "id"⟩ ∧
      e.model.get? "id" = none) ∧
    ∃ b e, item.compile ⟨{ pathVars := some noTenant }, []⟩ = .ok (.binder b) ∧
      b.resolve { pathParams := [("id", .text "x")] } [] = .error (.bind e) ∧
      e.cause.kind = .decode ∧ e.cause.origin = ⟨some "tenant", none, none⟩ :=
  ⟨⟨_, _, rfl, rfl, rfl, rfl, rfl⟩, _, _, rfl, rfl, rfl, rfl⟩

end ParamBinding
