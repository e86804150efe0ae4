import ParamBinding.Proofs.Declaration
import ParamBinding.Proofs.Instance
import ParamBinding.Proofs.KeyNames
import ParamBinding.Proofs.TagOptions
import ParamBinding.Proofs.Utf8

/-!
# Query parameters that are moved into a form

A model whose fields are all filled from the query can be changed into one whose fields are all
filled from a form, with `formOnly` behind every tag (`Member.asForm`). Tables and texts move
together: the table of the query becomes the table of forms, filler by filler
(`Fillers.declared_asForm`), and an ASCII text has the same pairs as a query, which is read as
Latin-1, and as a body, which is read as UTF-8. So a text is resolved to the same result in either
place (`Binder.resolve_asForm`).
-/

namespace ParamBinding

open ParamBinding.Text

/-! ### Fields -/

/-- The tag of the same parameter in a form. -/
def Tag.asForm (t : Tag) : Tag := { t with formOnly := true }

@[simp] theorem Tag.base_asForm (t : Tag) : t.asForm.base = t.base := rfl

/-- The binding of the same parameter in a form. -/
def Binding.asForm (x : Binding) : Binding := { x with tag := x.tag.asForm }

namespace Member

variable {env : Env} {m : Member Ty} {key : String}

/-- The field with `formOnly` behind its tag. -/
def asForm (key : String) (m : Member Ty) : Member Ty :=
  { m with tags := m.tags.map fun t => if t.1 = key then (t.1, t.2 ++ ",formOnly") else t }

/-- A field that has a tag is filled from the query, its tag lets no form fill it, and there is no
option `formOnly` in the tag. -/
def FromQuery (key : String) (m : Member Ty) : Prop :=
  ∀ text tag, m.tag? key = some text → Tag.read false text = .ok tag →
    tag.base = "query" ∧ tag.form = false ∧ "formOnly" ∉ Tag.optionNames text

theorem tag?_asForm (key : String) (m : Member Ty) :
    (m.asForm key).tag? key = (m.tag? key).map (· ++ ",formOnly") := by
  unfold asForm tag?
  dsimp only
  induction m.tags with
  | nil => rfl
  | cons t ts ih =>
    obtain ⟨k, text⟩ := t
    by_cases hk : k = key
    · subst hk
      rw [List.map_cons, if_pos rfl, lookup_cons_eq_ite, lookup_cons_eq_ite, if_pos rfl, if_pos rfl]
      rfl
    · rw [List.map_cons, if_neg hk, lookup_cons_eq_ite, lookup_cons_eq_ite, if_neg (Ne.symm hk),
        if_neg (Ne.symm hk), ih]

/-- The tag of a field that can be compiled says the same behind the move, but for the flag. -/
theorem ownTag?_asForm (hq : m.FromQuery env.options.tagKey) (hc : m.Compiles env) :
    (m.asForm env.options.tagKey).ownTag? env.options.tagKey =
      (m.ownTag? env.options.tagKey).map Tag.asForm := by
  rw [ownTag?, ownTag?, tag?_asForm]
  cases ht : m.tag? env.options.tagKey with
  | none => rfl
  | some text =>
    obtain ⟨tag, hr, -⟩ := hc text ht
    obtain ⟨hbase, hform, hnew⟩ := hq text tag ht hr
    rw [Option.map_some, Option.bind_some, Option.bind_some, hr,
      Tag.read_concat hr hbase hform hnew]
    rfl

theorem unpacker_asForm (m : Member Ty) (site : Site) (tag : Tag) :
    m.type.unpacker env site tag.asForm = m.type.unpacker env site tag :=
  Ty.unpacker_sameWriting env m.type site ⟨rfl, rfl, rfl, rfl⟩

theorem compiles_asForm (hq : m.FromQuery env.options.tagKey) (hc : m.Compiles env) :
    (m.asForm env.options.tagKey).Compiles env := by
  intro text ht
  rw [tag?_asForm] at ht
  obtain ⟨old, hold, rfl⟩ := Option.map_eq_some_iff.mp ht
  obtain ⟨tag, hr, hu⟩ := hc old hold
  obtain ⟨hbase, hform, hnew⟩ := hq old tag hold hr
  refine ⟨_, Tag.read_concat hr hbase hform hnew, fun hskip hmodel => ?_⟩
  obtain ⟨u, hu⟩ := hu hskip hmodel
  exact ⟨u, (unpacker_asForm m _ tag).trans hu⟩

theorem binding?_asForm (hq : m.FromQuery env.options.tagKey) (hc : m.Compiles env) :
    (m.asForm env.options.tagKey).binding? env = (m.binding? env).map Binding.asForm := by
  rw [binding?, binding?, ownTag?_asForm hq hc]
  cases m.ownTag? env.options.tagKey with
  | none => rfl
  | some tag =>
    rw [Option.map_some, Option.bind_some, Option.bind_some, Tag.base_asForm]
    by_cases hbase : tag.base = "-" ∨ tag.base = "model"
    · rw [if_pos hbase, if_pos hbase]
      rfl
    · have hsite : (m.asForm env.options.tagKey).site tag.asForm = m.site tag := rfl
      have hunpacker : (m.asForm env.options.tagKey).type.unpacker env (m.site tag) tag.asForm =
          m.type.unpacker env (m.site tag) tag := unpacker_asForm m _ tag
      rw [if_neg hbase, if_neg hbase, hsite, hunpacker, Option.map_map]
      rfl

/-- A field whose tag asks for the query is not filled from the body. -/
theorem body?_eq_none (h : ∀ tag, m.ownTag? key = some tag → tag.base = "query") :
    m.body? key = none := by
  rw [body?, Option.bind_eq_none_iff]
  intro tag hown
  rw [h tag hown]
  rfl

theorem base_of_fromQuery (hq : m.FromQuery key) {tag : Tag} (hown : m.ownTag? key = some tag) :
    tag.base = "query" := by
  obtain ⟨text, ht, hr⟩ := ownTag?_eq_some.mp hown
  exact (hq text tag ht hr).1

theorem body?_asForm (hq : m.FromQuery env.options.tagKey) (hc : m.Compiles env) :
    (m.asForm env.options.tagKey).body? env.options.tagKey = none := by
  refine body?_eq_none fun tag htag => ?_
  rw [ownTag?_asForm hq hc] at htag
  obtain ⟨tag, hown, rfl⟩ := Option.map_eq_some_iff.mp htag
  rw [Tag.base_asForm]
  exact base_of_fromQuery hq hown

theorem body?_of_fromQuery (hq : m.FromQuery key) : m.body? key = none :=
  body?_eq_none fun _ hown => base_of_fromQuery hq hown

/-- The binding of a query parameter is one of the query and of no form. -/
theorem binding_of_fromQuery (hq : m.FromQuery env.options.tagKey) {x : Binding}
    (h : m.binding? env = some x) :
    x.place = .query ∧ x.tag.form = false ∧ x.tag.formOnly = false := by
  obtain ⟨tag, hown, h⟩ := Option.bind_eq_some_iff.mp h
  obtain ⟨text, ht, hr⟩ := ownTag?_eq_some.mp hown
  obtain ⟨hbase, hform, hnew⟩ := hq text tag ht hr
  split at h
  · cases h
  · obtain ⟨u, -, rfl⟩ := Option.map_eq_some_iff.mp h
    refine ⟨?_, hform, Tag.formOnly_of_read hr hnew⟩
    rw [Binding.place, hbase]
    rfl

end Member

/-! ### Declarations -/

section Declaration

variable {env : Env} {ms : List (Member Ty)}

/-- The fields of a model with `formOnly` behind their tags. -/
def membersAsForm (key : String) (ms : List (Member Ty)) : List (Member Ty) :=
  ms.map (·.asForm key)

theorem bindings_asForm (hq : ∀ m ∈ ms, m.FromQuery env.options.tagKey)
    (hc : ∀ m ∈ ms, m.Compiles env) :
    bindings env (membersAsForm env.options.tagKey ms) = (bindings env ms).map Binding.asForm := by
  rw [bindings, bindings, membersAsForm, List.filterMap_map, List.map_filterMap]
  exact List.filterMap_congr fun m hm => Member.binding?_asForm (hq m hm) (hc m hm)

theorem bodies_asForm (hq : ∀ m ∈ ms, m.FromQuery env.options.tagKey)
    (hc : ∀ m ∈ ms, m.Compiles env) : bodies env (membersAsForm env.options.tagKey ms) = [] := by
  rw [bodies, membersAsForm, List.filterMap_map, List.filterMap_eq_nil_iff]
  exact fun m hm => Member.body?_asForm (hq m hm) (hc m hm)

theorem bodies_of_fromQuery (hq : ∀ m ∈ ms, m.FromQuery env.options.tagKey) :
    bodies env ms = [] := by
  rw [bodies, List.filterMap_eq_nil_iff]
  exact fun m hm => Member.body?_of_fromQuery (hq m hm)

theorem bindings_of_fromQuery (hq : ∀ m ∈ ms, m.FromQuery env.options.tagKey) :
    ∀ x ∈ bindings env ms, x.place = .query ∧ x.tag.form = false ∧ x.tag.formOnly = false := by
  intro x hx
  obtain ⟨m, hm, hx⟩ := List.mem_filterMap.mp hx
  exact Member.binding_of_fromQuery (hq m hm) hx

/-- A declaration in order stays so. -/
theorem inOrder_asForm (hq : ∀ m ∈ ms, m.FromQuery env.options.tagKey) (h : InOrder env ms) :
    InOrder env (membersAsForm env.options.tagKey ms) := by
  refine ⟨fun m hm => ?_, ?_, fun p hp => ?_⟩
  · obtain ⟨m', hm', rfl⟩ := List.mem_map.mp hm
    exact Member.compiles_asForm (hq m' hm') (h.compiles m' hm')
  · rw [bodies_asForm hq h.compiles]
    exact Nat.zero_le 1
  · rw [bindings_asForm hq h.compiles, List.filter_map, List.map_map]
    exact h.distinct p hp

end Declaration

/-! ### Tables -/

namespace Fillers

/-- Tables of nothing but query parameters. -/
def ofQuery (plain keyed : List Filler) : Fillers := { query := plain, deepObject := keyed }

/-- Tables of nothing but parameters of forms. -/
def ofForm (plain keyed : List Filler) : Fillers := { form := plain, formDeepObject := keyed }

variable {env : Env} {bs : List Binding} {accepts : Binding → Bool}

theorem table_of_accepts (h : ∀ x ∈ bs, accepts x = true) (holds : Binding → Bool) :
    table bs (fun x => accepts x && holds x) = table bs holds := by
  rw [table, table, List.filter_congr fun x hx => by rw [h x hx, Bool.true_and]]

theorem table_of_refuses (h : ∀ x ∈ bs, accepts x = false) (holds : Binding → Bool) :
    table bs (fun x => accepts x && holds x) = [] := by
  rw [table, List.map_eq_nil_iff, List.filter_eq_nil_iff]
  intro x hx
  rw [h x hx, Bool.false_and]
  exact Bool.false_ne_true

theorem table_asForm (holds : Binding → Bool) :
    table (bs.map Binding.asForm) holds = table bs fun x => holds x.asForm := by
  rw [table, table, List.filter_map, List.map_map]
  rfl

/-- Parameters of the query and of forms have no other tables. -/
theorem ofBindings_query (h : ∀ x ∈ bs, x.place = .query) :
    ofBindings env none bs =
      { query := table bs fun x => x.inQuery && !x.isKeyed
        deepObject := table bs fun x => x.inQuery && x.isKeyed
        form := table bs fun x => x.inForm && !x.isKeyed
        formDeepObject := table bs fun x => x.inForm && x.isKeyed } := by
  have hnone : ∀ p : Place, p ≠ .query → bs.filter (·.place = p) = [] := by
    intro p hp
    rw [List.filter_eq_nil_iff]
    intro x hx hplace
    exact hp ((of_decide_eq_true hplace).symm.trans (h x hx))
  have hheader : table bs (·.place = .header) = [] := by
    rw [table, hnone .header (by decide), List.map_nil]
  have hcookie : table bs (·.place = .cookie) = [] := by
    rw [table, hnone .cookie (by decide), List.map_nil]
  rw [ofBindings, hnone .path (by decide), hheader, hcookie, List.map_nil]

theorem ofBindings_fromQuery
    (h : ∀ x ∈ bs, x.place = .query ∧ x.tag.form = false ∧ x.tag.formOnly = false) :
    ofBindings env none bs = ofQuery (table bs (!·.isKeyed)) (table bs (·.isKeyed)) := by
  have hquery : ∀ x ∈ bs, x.inQuery = true := by
    intro x hx
    obtain ⟨hplace, -, hformOnly⟩ := h x hx
    rw [Binding.inQuery, hplace, hformOnly]
    rfl
  have hform : ∀ x ∈ bs, x.inForm = false := by
    intro x hx
    obtain ⟨-, hform, hformOnly⟩ := h x hx
    rw [Binding.inForm, hform, hformOnly, Bool.or_self, Bool.and_false]
  rw [ofBindings_query fun x hx => (h x hx).1, table_of_accepts hquery, table_of_accepts hquery,
    table_of_refuses hform, table_of_refuses hform]
  rfl

theorem ofBindings_asForm (h : ∀ x ∈ bs, x.place = .query) :
    ofBindings env none (bs.map Binding.asForm) =
      ofForm (table bs (!·.isKeyed)) (table bs (·.isKeyed)) := by
  have hplace : ∀ x ∈ bs.map Binding.asForm, x.place = .query := by
    intro x hx
    obtain ⟨y, hy, rfl⟩ := List.mem_map.mp hx
    exact h y hy
  have hquery : ∀ x ∈ bs.map Binding.asForm, x.inQuery = false := by
    intro x hx
    obtain ⟨x, -, rfl⟩ := List.mem_map.mp hx
    rw [Binding.inQuery, Binding.asForm, Tag.asForm, Bool.not_true, Bool.and_false]
  have hform : ∀ x ∈ bs.map Binding.asForm, x.inForm = true := by
    intro x hx
    rw [Binding.inForm, hplace x hx]
    obtain ⟨x, -, rfl⟩ := List.mem_map.mp hx
    exact Bool.or_true _
  rw [ofBindings_query hplace, table_of_refuses hquery, table_of_refuses hquery,
    table_of_accepts hform, table_of_accepts hform, table_asForm, table_asForm]
  rfl

variable {ms : List (Member Ty)}

/-- The parameters of the query, without keys and with keys. -/
theorem declared_fromQuery (hq : ∀ m ∈ ms, m.FromQuery env.options.tagKey) :
    declared env ms =
      ofQuery (table (bindings env ms) (!·.isKeyed)) (table (bindings env ms) (·.isKeyed)) := by
  rw [declared, bodies_of_fromQuery hq]
  exact ofBindings_fromQuery (bindings_of_fromQuery hq)

/-- They are the parameters of forms after the move. -/
theorem declared_asForm (hq : ∀ m ∈ ms, m.FromQuery env.options.tagKey)
    (hc : ∀ m ∈ ms, m.Compiles env) :
    declared env (membersAsForm env.options.tagKey ms) =
      ofForm (table (bindings env ms) (!·.isKeyed)) (table (bindings env ms) (·.isKeyed)) := by
  rw [declared, bodies_asForm hq hc, bindings_asForm hq hc]
  exact ofBindings_asForm fun x hx => (bindings_of_fromQuery hq x hx).1

end Fillers

/-! ### Requests -/

/-- The pairs of an ASCII text in the query. -/
theorem queryPairs_utf8 {r : Request} {q : String} (hreads : r.ReadsPairs)
    (hq : ∀ c ∈ q.toList, c.toNat < 128) (hquery : r.query = utf8 q) :
    r.queryPairs = Urlencoded.parse q.toList := by
  rw [hreads, hquery, utf8, latin1_utf8List hq]

/-- The pairs of a text in a body. -/
theorem formItems_utf8 (q : String) :
    Binder.formItems (utf8 q) = .ok (Urlencoded.parse q.toList) := by
  rw [Binder.formItems, utf8, decodeUtf8List_utf8List]

/-- A query that is the UTF-8 form of a text is no obstacle to the log. -/
theorem addressPath_utf8 {r : Request} {q : String} (haddress : r.ReadsAddress)
    (hquery : r.query = utf8 q) : ∃ path, r.addressPath = .ok path :=
  haddress.exists_path (by rw [hquery, utf8, decodeUtf8List_utf8List])

namespace Binder

variable {b b' : Binder} {plain keyed : List Filler}

/-- Where no other part of the request is asked for, the query and forms are all there is. -/
theorem outcomes_of_query (hother : b.fillers.body = none ∧ b.fillers.path = [] ∧
      b.fillers.header = [] ∧ b.fillers.cookie = []) (r : Request) (body : Bytes) :
    b.outcomes r body = b.queryOutcomes r body := by
  obtain ⟨hbody, hpath, hheader, hcookie⟩ := hother
  rw [outcomes, pathOutcomes, headerOutcomes, cookieOutcomes, hbody, hpath, hheader, hcookie]
  cases hquery : b.queryOutcomes r body with
  | error f => rfl
  | ok os =>
    simp only [pure, Except.pure, bind, Except.bind, List.mapM_nil, Option.toList_none,
      List.map_nil, List.nil_append, List.append_nil]

/-- A table of forms does for a body what the table of the query does for a query with the same
pairs. -/
theorem queryOutcomes_moved (hb : b.fillers = .ofQuery plain keyed)
    (hb' : b'.fillers = .ofForm plain keyed) (hstrict : b'.strict = b.strict)
    (hneeds : b'.fillers.needsForm = true) {r r' : Request} (body : Bytes) {body' : Bytes}
    (hitems : formItems body' = .ok r.queryPairs) (hnopairs : r'.queryPairs = [])
    (hform : r'.contentType = formContentType) :
    b'.queryOutcomes r' body' = b.queryOutcomes r body := by
  have hlookup : ∀ root, b'.deepFiller? root = b.deepFiller? root := by
    intro root
    rw [deepFiller?, deepFiller?, hb, hb']
    exact Option.or_none.symm
  have hdeep : b'.deepOutcome = b.deepOutcome := by
    funext root keys
    rw [deepOutcome, deepOutcome, hlookup]
  have hquery : b'.sortNames b'.fillers.query b'.fillers.deepObject r'.queryPairs [] =
      ⟨[], []⟩ := by
    rw [hnopairs]
    rfl
  have hsort : b'.sortForm r' body' [] =
      b.sortNames b.fillers.query b.fillers.deepObject r.queryPairs [] := by
    unfold sortForm sortNames
    rw [hneeds, hform, hitems, if_pos (by simp), hb, hb', hstrict]
    rfl
  have hnoform : ∀ kept, b.sortForm r body kept = ⟨[], kept⟩ := by
    intro kept
    rw [sortForm, hb]
    rfl
  simp only [queryOutcomes, hquery, hsort, hnoform, hdeep, List.nil_append, List.append_nil]

theorem outcomes_moved (hb : b.fillers = .ofQuery plain keyed)
    (hb' : b'.fillers = .ofForm plain keyed) (hstrict : b'.strict = b.strict)
    (hneeds : b'.fillers.needsForm = true) {r r' : Request} (body : Bytes) {body' : Bytes}
    (hitems : formItems body' = .ok r.queryPairs) (hnopairs : r'.queryPairs = [])
    (hform : r'.contentType = formContentType) :
    b'.outcomes r' body' = b.outcomes r body := by
  have hrest : b.outcomes r body = b.queryOutcomes r body :=
    outcomes_of_query (by simp [hb, Fillers.ofQuery]) r body
  have hrest' : b'.outcomes r' body' = b'.queryOutcomes r' body' :=
    outcomes_of_query (by simp [hb', Fillers.ofForm]) r' body'
  rw [hrest, hrest', queryOutcomes_moved hb hb' hstrict hneeds body hitems hnopairs hform]

end Binder

/-- **The query and forms alike.** Let all fields of a model that have a tag be filled from the
query, and none from a form. Then the model with `formOnly` behind its tags is compiled too,
and what the model makes of an ASCII text in the query, that model makes of the text in the body of
a request without a query, whose content type is that of forms: the same model, or the same fault
with the same fields filled. Both requests are to be read as usual: their queries as urlencoded data,
and their addresses when the query is UTF-8. -/
theorem Binder.resolve_asForm {env : Env} {t : Ty} {b : Binder}
    (hb : t.compile env = .ok (.binder b))
    (hq : ∀ m ∈ b.members, m.FromQuery env.options.tagKey) :
    ∃ b', (Ty.model b.head (membersAsForm env.options.tagKey b.members)).compile env =
        .ok (.binder b') ∧
      ∀ (q : String) (r r' : Request) (body : Bytes), (∀ c ∈ q.toList, c.toNat < 128) →
        r.ReadsPairs → r.ReadsAddress → r'.ReadsPairs → r'.ReadsAddress →
        r.query = utf8 q → r'.query = [] → r'.contentType = formContentType →
        b'.resolve r' (utf8 q) = b.resolve r body := by
  obtain ⟨hdeclared, horder, hcheck⟩ := Ty.compiled hb
  obtain ⟨-, hcount, -⟩ := ModelHead.compile_eq_binder.mp (Ty.compile_eq_binder hb)
  have hfillers : b.fillers = _ :=
    (Ty.fillers_of_compile hb).trans (Fillers.declared_fromQuery hq)
  have hmoved := Fillers.declared_asForm hq horder.compiles
  rw [Fillers.declared_fromQuery hq] at hcount
  -- compiling counts the same fillers, and neither a body nor path variables are asked for
  have hcount' : (Fillers.declared env (membersAsForm env.options.tagKey b.members)).count ≠ 0 := by
    rw [hmoved]
    simp only [Fillers.count, Fillers.ofQuery, Fillers.ofForm] at hcount ⊢
    simpa using hcount
  have hcheck' : (Fillers.declared env (membersAsForm env.options.tagKey b.members)).check
      env.options b.head.cls.name = .ok () := by
    rw [hmoved]
    rfl
  have hneeds : (Fillers.declared env
      (membersAsForm env.options.tagKey b.members)).needsForm = true := by
    rw [hmoved]
    simp only [Fillers.count, Fillers.ofQuery] at hcount
    simp only [Fillers.needsForm, Fillers.ofForm, Bool.or_eq_true, Bool.not_eq_true',
      List.isEmpty_eq_false_iff, ← List.length_pos_iff]
    simp only [Option.toList_none, List.length_nil] at hcount
    omega
  refine ⟨.declared env b.head (membersAsForm env.options.tagKey b.members),
    ModelHead.compile_eq_binder.mpr ⟨inOrder_asForm hq horder, hcount', hcheck', rfl⟩, ?_⟩
  intro q r r' body hascii hreads haddress hreads' haddress' hquery hquery' hform
  have hstrict : env.options.strict = b.strict := by
    rw [hdeclared]
    rfl
  have hitems : formItems (utf8 q) = .ok r.queryPairs := by
    rw [formItems_utf8, queryPairs_utf8 hreads hascii hquery]
  have hnopairs : r'.queryPairs = [] := queryPairs_utf8 (q := "") hreads' (by simp) hquery'
  generalize hmodel : Binder.declared env b.head (membersAsForm env.options.tagKey b.members) = b'
  have hnew : b'.head.newInstance b'.members = b.head.newInstance b.members := by
    rw [← hmodel]
    exact ModelHead.newInstance_map fun m => ⟨_, rfl⟩
  have houtcomes : b'.outcomes r' (utf8 q) = b.outcomes r body := by
    subst hmodel
    exact outcomes_moved hfillers hmoved hstrict hneeds body hitems hnopairs hform
  obtain ⟨path, hpath⟩ := addressPath_utf8 haddress hquery
  obtain ⟨path', hpath'⟩ := addressPath_utf8 (q := "") haddress' hquery'
  rw [resolve, resolve, hnew, houtcomes, hpath, hpath']
  rfl

/-- A request with a form in its body. -/
def formRequest : Request := { headers := [("Content-Type", formContentType)] }

theorem filter_fromQuery : ∀ m ∈ filteredMembers, m.FromQuery defaultTagKey := by
  have hread : Tag.read false "query,deepObject=true" =
      .ok { base := "query", explode := true, deepObject := true } := rfl
  intro m hm text tag ht hr
  obtain rfl := List.mem_singleton.mp hm
  cases ht
  cases hread.symm.trans hr
  exact ⟨rfl, rfl, by decide⟩

/-- The filter of a strict model is read from a query and from a form, and the same name is refused
in both. -/
theorem filter_moved : ∃ b b',
    (Ty.model { cls := { name := "Filtered" } } filteredMembers).compile ⟨{ strict := true }, []⟩ =
      .ok (.binder b) ∧
    (Ty.model b.head (membersAsForm defaultTagKey b.members)).compile ⟨{ strict := true }, []⟩ =
      .ok (.binder b') ∧
    b'.resolve formRequest (utf8 "filter[a]=1&x=2") =
      b.resolve { query := utf8 "filter[a]=1&x=2" } [] ∧
    ∃ e, b.resolve { query := utf8 "filter[a]=1&x=2" } [] = .error (.bind e) ∧
      e.cause = .unknownParameter "x" false := by
  have hb : (Ty.model { cls := { name := "Filtered" } } filteredMembers).compile
      ⟨{ strict := true }, []⟩ = .ok (.binder (.declared ⟨{ strict := true }, []⟩ _ _)) := rfl
  obtain ⟨b', hb', halike⟩ := Binder.resolve_asForm hb filter_fromQuery
  have hall : "filter[a]=1&x=2".toList.all (·.toNat < 128) := by decide +kernel
  have hascii : ∀ c ∈ "filter[a]=1&x=2".toList, c.toNat < 128 :=
    fun c hc => of_decide_eq_true (List.all_eq_true.mp hall c hc)
  have hmoved := halike "filter[a]=1&x=2" { query := utf8 "filter[a]=1&x=2" } formRequest [] hascii
    (Request.readsPairs_standard rfl) (Request.readsAddress_standard rfl)
    (Request.readsPairs_standard rfl) (Request.readsAddress_standard rfl) rfl rfl (by decide)
  exact ⟨_, b', hb, hb', hmoved, _, rfl, rfl⟩

end ParamBinding
