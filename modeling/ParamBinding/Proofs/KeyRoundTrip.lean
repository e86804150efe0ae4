import ParamBinding.Proofs.FormFields
import ParamBinding.Proofs.QueryOrder
import ParamBinding.Proofs.Urlencoding
import ParamBinding.Sample

/-!
# Keys there and back

Lists of texts by their keys are written into a query, one pair `name[key]=value` for each text, and
a model with one field for them is filled with the same lists under the same keys
(`Binder.keys_round_trip`). The pairs of different keys may come in any order (`Occurrences`), and
each text may be written in any of the ways in which queries are written.

It takes that texts are read as they are: a reader that is registered for them must not change them
(`Registry.KeepsTexts`).
-/

namespace ParamBinding

open ParamBinding.Text

/-! ### Texts that are read as they are -/

/-- A reader that is registered for texts, if there is one, leaves them as they are. -/
def Registry.KeepsTexts (r : Registry) : Prop :=
  ∀ reader, r.lookup "str" = some reader → ∀ s, reader.read s = .ok (.text s)

/-- The decoder of a text that is read as it is. -/
def keepText : TextDecoder := fun s => .ok (.text s)

/-- The decoder of a list of such texts. -/
def keepTexts : ListDecoder := fun vs => .ok (.list (vs.map .text))

theorem gather_keepText : gather .list keepText = keepTexts := by
  funext vs
  have hall : vs.mapM keepText = .ok (vs.map .text) := mapM_eq_ok_map fun _ _ => rfl
  rw [gather, hall]
  rfl

/-- Lists of texts under texts as keys, as a value. -/
def textsByKey (entries : List (String × List String)) : Value :=
  .map (entries.map fun e => (.text e.1, .list (e.2.map .text)))

/-- Keys that are not repeated are read as they are, in order. -/
theorem gatherKeys_keepTexts {keys : List (String × List String)}
    (h : (keys.map (·.1)).Nodup) :
    (gatherKeys keepText (.multi keepTexts) [] keys).map .map = .ok (textsByKey keys) := by
  have hentries : keys.mapM (decodeEntry keepText (.multi keepTexts)) =
      .ok (keys.map fun e => (.text e.1, .list (e.2.map .text))) :=
    mapM_eq_ok_map fun _ _ => rfl
  have hnothing : ∀ e ∈ keys, ∀ k, keepText e.1 = .ok k →
      ∀ kv ∈ ([] : List (Value × Value)), k.same kv.1 = false := by
    intro e _ k _ kv hkv
    cases hkv
  have hapart : Separates keepText := separates_text
  rw [gatherKeys_eq hapart h hnothing, hentries]
  rfl

namespace Ty

variable {env : Env} {site : Site} {tag : Tag}

/-- Texts are read as they are, whether or not a reader is registered for them. -/
theorem build_str (hkeeps : env.registry.KeepsTexts) (hdeep : tag.deepObject = false) :
    build env .str site tag .own = .ok (.single keepText) := by
  have haccepted : site.rejectDeepObject tag = .ok () := by
    rw [Site.rejectDeepObject, hdeep]
    rfl
  show build env (.scalar { kind := .text }) site tag (.plain none none) = _
  rw [build]
  cases hreader : env.registry.lookup "str" with
  | none =>
    rw [readOr_of_none ((bareReader?_str _).trans hreader), haccepted]
    rfl
  | some reader =>
    have hread : reader.read = keepText := funext (hkeeps reader hreader)
    rw [readOr, bareReader?_str, hreader]
    dsimp only
    rw [haccepted, hread]
    rfl

variable {n : SequenceName} (hkeeps : env.registry.KeepsTexts) (hlist : n.gathers = .list)
  (hquery : site.place = .query) (hexplode : tag.explode = true)
include hkeeps hlist hquery hexplode

/-- Lists of texts are read occurrence by occurrence. -/
theorem build_texts (hdeep : tag.deepObject = false) :
    build env (.sequence n .str true) site tag .own = .ok (.multi keepTexts) := by
  have hcompound : site.checkCompound tag = .ok () := by
    rw [Site.checkCompound, hquery]
    rfl
  have hlists : site.listUnpacker tag keepTexts = .multi keepTexts := by
    rw [Site.listUnpacker, Site.explodes, hquery, hexplode]
    rfl
  have helem : build env .str site tag.withoutExplode .own = .ok (.single keepText) :=
    build_str hkeeps hdeep
  show build env (.sequence n .str true) site tag (.plain none none) = _
  rw [build, readOr_of_none rfl, hcompound, helem, hdeep, hlist, ← hlists, ← gather_keepText]
  rfl

/-- Lists of texts under keys are read key by key. -/
theorem build_textsByKey {m : MapName} (hdeep : tag.deepObject = true) :
    build env (.map m .str (.sequence n .str true) true) site tag .own =
      .ok (.deepObject fun keys => (gatherKeys keepText (.multi keepTexts) [] keys).map .map) := by
  have hcompound : site.checkCompound tag = .ok () := by
    rw [Site.checkCompound, hquery]
    rfl
  have hkeys : site.checkDeepObject = .ok () := if_pos hquery
  have hkey : build env .str site tag.withoutExplode.withoutDeepObject .own =
      .ok (.single keepText) := build_str hkeeps rfl
  have hvalue : build env (.sequence n .str true) site tag.withoutDeepObject .own =
      .ok (.multi keepTexts) := build_texts hkeeps hlist hquery hexplode rfl
  show build env (.map m .str (.sequence n .str true) true) site tag (.plain none none) = _
  rw [build, readOr_of_none rfl, hcompound, hkey, hdeep, if_pos rfl]
  dsimp only
  rw [hvalue]
  simp only [if_true, hkeys]
  rfl

end Ty

/-! ### Keys in a query -/

/-- Texts by their keys, and pairs in which they occur: every text of a key in order, the keys in
any order and mixed with one another. -/
structure Occurrences (mapping : List (String × List String)) (occ : List (String × String)) :
    Prop where
  values : ∀ e ∈ mapping, Urlencoded.valuesOf occ e.1 = e.2
  keys : ∀ o ∈ occ, o.1 ∈ mapping.map (·.1)

/-- A mapping that can be written with keys: there is some key and each has some text, no key comes
twice, and none is empty or has a bracket that would end it. -/
structure IsKeyMapping (mapping : List (String × List String)) : Prop where
  ne_nil : mapping ≠ []
  nodup : (mapping.map (·.1)).Nodup
  key_ne : ∀ e ∈ mapping, e.1 ≠ ""
  key_bare : ∀ e ∈ mapping, ']' ∉ e.1.toList
  values_ne : ∀ e ∈ mapping, e.2 ≠ []

/-- Pairs by their keys, where these appear first. -/
def byKey (occ : List (String × String)) : List (String × List String) :=
  (Urlencoded.names occ).map fun key => (key, Urlencoded.valuesOf occ key)

theorem map_fst_byKey (occ : List (String × String)) :
    (byKey occ).map (·.1) = Urlencoded.names occ := by
  rw [byKey, List.map_map]
  exact List.map_id _

theorem nodup_byKey (occ : List (String × String)) : ((byKey occ).map (·.1)).Nodup := by
  rw [map_fst_byKey]
  exact nodup_eraseDups _

theorem mem_names {occ : List (String × String)} {key : String} :
    key ∈ Urlencoded.names occ ↔ ∃ o ∈ occ, o.1 = key := by
  rw [Urlencoded.names, List.mem_eraseDups, List.mem_map]

namespace Occurrences

variable {mapping : List (String × List String)} {occ : List (String × String)}
  (h : Occurrences mapping occ) (hmap : IsKeyMapping mapping)
include h hmap

theorem mem_names_iff {key : String} :
    key ∈ Urlencoded.names occ ↔ key ∈ mapping.map (·.1) := by
  rw [mem_names]
  constructor
  · rintro ⟨o, ho, rfl⟩
    exact h.keys o ho
  · intro hkey
    obtain ⟨e, he, rfl⟩ := List.mem_map.mp hkey
    -- a key with a text occurs
    obtain ⟨v, hv⟩ := List.exists_mem_of_ne_nil _ (hmap.values_ne e he)
    rw [← h.values e he] at hv
    obtain ⟨o, ho, -⟩ := List.mem_map.mp hv
    obtain ⟨ho, hname⟩ := List.mem_filter.mp ho
    exact ⟨o, ho, of_decide_eq_true hname⟩

/-- What is read off the pairs is the mapping, in the order of first occurrences. -/
theorem perm_byKey : (byKey occ).Perm mapping := by
  rw [List.perm_ext_iff_of_nodup (nodup_byKey occ).of_map hmap.nodup.of_map]
  rintro ⟨key, vs⟩
  rw [byKey, List.mem_map]
  constructor
  · rintro ⟨key', hkey, heq⟩
    obtain ⟨rfl, rfl⟩ := Prod.mk.inj heq
    obtain ⟨e, he, rfl⟩ := List.mem_map.mp ((h.mem_names_iff hmap).mp hkey)
    rwa [h.values e he]
  · intro hmem
    have hkey : key ∈ mapping.map (·.1) := List.mem_map.mpr ⟨_, hmem, rfl⟩
    exact ⟨key, (h.mem_names_iff hmap).mpr hkey, by rw [h.values _ hmem]⟩

theorem ne_nil : occ ≠ [] := by
  obtain ⟨e, he⟩ := List.exists_mem_of_ne_nil _ hmap.ne_nil
  obtain ⟨o, ho, -⟩ := mem_names.mp ((h.mem_names_iff hmap).mpr (List.mem_map.mpr ⟨e, he, rfl⟩))
  exact List.ne_nil_of_mem ho

theorem separable {root : String} (hroot : root ≠ "") (hbare : '[' ∉ root.toList) {key : String}
    (hkey : key ∈ Urlencoded.names occ) : Urlencoded.Separable root key := by
  obtain ⟨e, he, rfl⟩ := List.mem_map.mp ((h.mem_names_iff hmap).mp hkey)
  exact ⟨hroot, hbare, hmap.key_ne e he, hmap.key_bare e he⟩

end Occurrences

/-- The pair in which a text of a key is written. -/
def keyPair (root : String) (o : String × String) : String × String :=
  (Urlencoded.keyName root o.1, o.2)

theorem keyName_injective (root : String) : Function.Injective (Urlencoded.keyName root) := by
  intro key key' h
  rw [← String.toList_inj, Urlencoded.toList_keyName, Urlencoded.toList_keyName] at h
  exact String.toList_inj.mp (by simpa using h)

theorem eraseDups_map {α β : Type} [DecidableEq α] [DecidableEq β] {f : α → β}
    (hf : Function.Injective f) (xs : List α) : (xs.map f).eraseDups = xs.eraseDups.map f := by
  induction xs using List.reverseRecOn with
  | nil => rfl
  | append_singleton xs x ih =>
    rw [List.map_append, List.map_singleton, eraseDups_concat, eraseDups_concat, ih]
    by_cases hx : x ∈ xs
    · rw [if_pos hx, if_pos ((List.mem_map_of_injective hf).mpr hx)]
    · rw [if_neg hx, if_neg fun hmem => hx ((List.mem_map_of_injective hf).mp hmem),
        List.map_append, List.map_singleton]

section Pairs

variable (root : String) (occ : List (String × String))

theorem names_keyPairs : Urlencoded.names (occ.map (keyPair root)) =
    (Urlencoded.names occ).map (Urlencoded.keyName root) := by
  rw [Urlencoded.names, Urlencoded.names, ← eraseDups_map (keyName_injective root), List.map_map,
    List.map_map]
  rfl

theorem valuesOf_keyPairs (key : String) :
    Urlencoded.valuesOf (occ.map (keyPair root)) (Urlencoded.keyName root key) =
      Urlencoded.valuesOf occ key := by
  unfold Urlencoded.valuesOf
  rw [List.filter_map, List.map_map]
  have hsame : ∀ o ∈ occ, ((fun i : String × String => decide (i.1 = Urlencoded.keyName root key)) ∘
      keyPair root) o = decide (o.1 = key) := fun o _ =>
    decide_eq_decide.mpr (keyName_injective root).eq_iff
  rw [List.filter_congr hsame]
  rfl

end Pairs

/-- Keys that are not repeated are kept as they come. -/
theorem keysOf_of_nodup {entries : List KeyEntry} {root : String}
    (hroot : ∀ e ∈ entries, e.root = root) (hkeys : (entries.map (·.key)).Nodup) :
    keysOf entries root = entries.map fun e => (e.key, e.values) := by
  induction entries using List.reverseRecOn with
  | nil => rfl
  | append_singleton entries e ih =>
    rw [List.map_append, List.nodup_append] at hkeys
    have hown : e.root = root := hroot e (List.mem_append_right _ List.mem_cons_self)
    have hbefore := ih (fun x hx => hroot x (List.mem_append_left _ hx)) hkeys.1
    have hfresh : e.key ∉ (keysOf entries root).map (·.1) := by
      rw [hbefore, List.map_map]
      exact fun hmem => hkeys.2.2 _ hmem _ List.mem_cons_self rfl
    have hself : [e].filter (·.root = root) = [e] := by
      simp [hown]
    have hstep : keysOf (entries ++ [e]) root = putKey e.key e.values (keysOf entries root) := by
      rw [keysOf, List.filter_append, hself, List.foldl_append]
      rfl
    rw [hstep, putKey_eq_upsert, upsert_of_not_mem _ _ _ _ hfresh, hbefore, List.map_append]
    rfl

/-! ### One parameter with keys -/

namespace Binder

open Urlencoded

variable {b : Binder} {f : Filler} {r : Request} {body : Bytes} {occ : List (String × String)}

theorem names_keyed (hitems : r.queryPairs = occ.map (keyPair f.name)) :
    b.names r body .query = (Urlencoded.names occ).map (keyName f.name) := by
  rw [names, items, hitems, names_keyPairs]

section Keyed

variable (hb : b.fillers = .ofQuery [] [f])
include hb

/-- A request for nothing but one parameter with keys can always be looked into. -/
theorem readable_keyed (r : Request) : b.Readable r :=
  readable_of_eq_nil (by rw [hb]; rfl) (by rw [hb]; rfl) r

/-- There is no form to be read. -/
theorem formPart_keyed (r : Request) (body : Bytes) : b.formPart r body = .ok [] := by
  rw [formPart, hb]
  rfl

/-- The names of the query are dealt with, and then the keys. -/
theorem schedule_keyed (r : Request) (body : Bytes) :
    b.schedule r body =
      (b.names r body .query).map (Step.name .query) ++ (b.roots r body).map Step.keys := by
  have hform : b.formSteps r body = [] := by
    rw [formSteps, names, items, formPart_keyed hb]
    rfl
  rw [schedule, hform, hb]
  simp [Fillers.ofQuery]

theorem deepFiller?_keyed : b.deepFiller? f.name = some f := by
  rw [deepFiller?, hb]
  simp [Fillers.ofQuery, lookupFiller]

/-- The name of a key is taken for the key. -/
theorem usage_keyed {key : String} (hsep : Separable f.name key) :
    b.usage .query (keyName f.name key) = .key f.name key := by
  have hplain : keyName f.name key ∉ (b.plainTable .query).map (·.name) := by
    rw [plainTable, hb]
    rintro ⟨⟩
  have hkeyed : f.name ∈ (b.keyedTable .query).map (·.name) := by
    rw [keyedTable, hb]
    exact List.mem_cons_self
  exact (usage_eq_key hplain).mpr ⟨⟨hkeyed, hsep⟩, .inl rfl⟩

variable (hitems : r.queryPairs = occ.map (keyPair f.name))
  (hsep : ∀ key ∈ Urlencoded.names occ, Separable f.name key)
include hitems hsep

/-- Every key leaves its texts for the parameter. -/
theorem allEntries_keyed :
    b.allEntries r body =
      (Urlencoded.names occ).map fun key => ⟨f.name, key, valuesOf occ key⟩ := by
  have hform : b.keyEntries r body .form = [] := by
    rw [keyEntries, names, items, formPart_keyed hb]
    rfl
  rw [allEntries, hform, List.append_nil, keyEntries, names_keyed hitems, List.filterMap_map,
    ← List.filterMap_eq_map]
  refine List.filterMap_congr fun key hkey => ?_
  rw [Function.comp_apply, usage_keyed hb (hsep key hkey), values, items, hitems, valuesOf_keyPairs]
  rfl

theorem keysOf_keyed : keysOf (b.allEntries r body) f.name = byKey occ := by
  rw [allEntries_keyed hb hitems hsep, keysOf_of_nodup]
  · rw [List.map_map]
    rfl
  · intro e he
    obtain ⟨key, -, rfl⟩ := List.mem_map.mp he
    rfl
  · rw [List.map_map]
    have hkeys : (fun e : KeyEntry => e.key) ∘ (fun key => ⟨f.name, key, valuesOf occ key⟩) =
        id := rfl
    rw [hkeys, List.map_id]
    exact nodup_eraseDups _

theorem roots_keyed (hne : occ ≠ []) : b.roots r body = [f.name] := by
  have hmem : ∀ root, root ∈ (b.allEntries r body).map (·.root) ↔ root ∈ [f.name] := by
    intro root
    rw [allEntries_keyed hb hitems hsep, List.map_map, List.mem_map, List.mem_singleton]
    constructor
    · rintro ⟨key, -, rfl⟩
      rfl
    · rintro rfl
      obtain ⟨o, ho⟩ := List.exists_mem_of_ne_nil _ hne
      exact ⟨o.1, mem_names.mpr ⟨o, ho, rfl⟩, rfl⟩
  exact List.perm_singleton.mp (perm_eraseDups hmem)

/-- A query of nothing but keys is resolved to a new model with the decoded keys in one field. -/
theorem resolve_keyed (hne : occ ≠ []) {d : KeyedDecoder} (hd : f.unpacker = .deepObject d)
    {v : Value} (hv : d (byKey occ) = .ok v) {new : Record Value}
    (hnew : b.head.newInstance b.members = .ok new) :
    b.resolve r body = .ok (new.set f.field v) := by
  -- names only leave texts behind, so there is one outcome that does something
  have houtcomes : (b.schedule r body).map (b.outcome r body) =
      (Urlencoded.names occ).map (fun _ => Outcome.skip) ++ [.put f.field v] := by
    rw [schedule_keyed hb, names_keyed hitems, roots_keyed hb hitems hsep hne, List.map_append,
      List.map_map, List.map_map]
    congr 1
    · refine List.map_congr_left fun key hkey => ?_
      show b.outcome r body (.name .query (keyName f.name key)) = .skip
      rw [outcome, usage_keyed hb (hsep key hkey)]
      rfl
    · rw [List.map_singleton, List.map_singleton]
      simp only [outcome, deepFiller?_keyed hb, keysOf_keyed hb hitems hsep, Filler.fillKeys, hd,
        Unpacker.deepObject?, hv, Filler.outcome]
  have hskips : ∀ (keys : List String) (model : Record Value),
      (keys.map fun _ => Outcome.skip).foldl Outcome.apply model = model := by
    intro keys model
    induction keys with
    | nil => rfl
    | cons key keys ih => exact ih
  have hcalm : b.firstFault? r body = none := by
    rw [firstFault?, houtcomes, List.findSome?_eq_none_iff]
    intro o ho
    rcases List.mem_append.mp ho with ho | ho
    · obtain ⟨key, -, rfl⟩ := List.mem_map.mp ho
      rfl
    · rw [List.mem_singleton.mp ho]
      rfl
  rw [resolve_eq (readable_keyed hb r) hnew, hcalm, filled, houtcomes, List.foldl_append, hskips]
  rfl

end Keyed

end Binder

/-! ### The only field with a tag -/

/-- A tag that asks for keys of the query, each of which may be repeated, and for no documents. -/
structure Tag.WantsKeys (tag : Tag) : Prop where
  base : tag.base = "query"
  deepObject : tag.deepObject = true
  explode : tag.explode = true
  content : tag.content = ""
  form : tag.form = false
  formOnly : tag.formOnly = false

/-- A parameter has a name when its field has one. -/
theorem Member.site_name_ne {m : Member Ty} (hname : m.name ≠ "") (tag : Tag) :
    (m.site tag).name ≠ "" := by
  unfold Member.site
  by_cases htag : tag.name = ""
  · rwa [if_pos htag]
  · rwa [if_neg htag]

/-- What is read off the tags of fields is read off the only field with a tag. -/
theorem filterMap_of_only {α : Type} {key : String} {read : Member Ty → Option α}
    (huntagged : ∀ m : Member Ty, m.tag? key = none → read m = none) {before after : List (Member Ty)}
    {m : Member Ty} (honly : ∀ m' ∈ before ++ after, m'.tag? key = none) :
    (before ++ m :: after).filterMap read = (read m).toList := by
  have hnone : ∀ ms : List (Member Ty), (∀ m' ∈ ms, m'.tag? key = none) → ms.filterMap read = [] :=
    fun ms hms => List.filterMap_eq_nil_iff.mpr fun m' hm' => huntagged m' (hms m' hm')
  rw [List.filterMap_append, List.filterMap_cons, hnone before, hnone after]
  · cases read m <;> rfl
  · exact fun m' hm' => honly m' (List.mem_append_right before hm')
  · exact fun m' hm' => honly m' (List.mem_append_left after hm')

section OnlyField

variable {env : Env} {before after : List (Member Ty)} {m : Member Ty} {tag : Tag}
  {maps : MapName} {lists : SequenceName}

/-- The tables of a model whose only field with a tag is for lists of texts by their keys. -/
theorem declared_textsByKey (honly : ∀ m' ∈ before ++ after, m'.tag? env.options.tagKey = none)
    (htag : m.ownTag? env.options.tagKey = some tag) (hwants : tag.WantsKeys)
    (htype : m.type = .map maps .str (.sequence lists .str true) true)
    (hlists : lists.gathers = .list) (hkeeps : env.registry.KeepsTexts) :
    Fillers.declared env (before ++ m :: after) = .ofQuery [] [⟨m.name, (m.site tag).name,
      .deepObject fun keys => (gatherKeys keepText (.multi keepTexts) [] keys).map .map⟩] := by
  have hplace : (m.site tag).place = .query := by
    rw [Member.site, hwants.base]
    rfl
  have hunpacker : m.type.unpacker env (m.site tag) tag =
      .ok (.deepObject fun keys => (gatherKeys keepText (.multi keepTexts) [] keys).map .map) := by
    rw [Ty.unpacker, Env.mode, if_pos hwants.content, htype]
    exact Ty.build_textsByKey hkeeps hlists hplace hwants.explode hwants.deepObject
  have hbinding : m.binding? env = some ⟨tag, m.type, ⟨m.name, (m.site tag).name,
      .deepObject fun keys => (gatherKeys keepText (.multi keepTexts) [] keys).map .map⟩⟩ := by
    rw [Member.binding?, htag, Option.bind_some, hunpacker, hwants.base]
    rfl
  have hbody : m.body? env.options.tagKey = none := by
    refine Member.body?_eq_none fun tag' htag' => ?_
    cases htag.symm.trans htag'
    exact hwants.base
  have hbindings : bindings env (before ++ m :: after) = (m.binding? env).toList :=
    filterMap_of_only (fun m' hm' => by rw [Member.binding?, Member.ownTag?, hm']; rfl) honly
  have hbodies : bodies env (before ++ m :: after) = (m.body? env.options.tagKey).toList :=
    filterMap_of_only (fun m' hm' => by rw [Member.body?, Member.ownTag?, hm']; rfl) honly
  rw [Fillers.declared, hbodies, hbindings, hbody, hbinding, Option.toList_none, List.head?_nil,
    Option.toList_some, Fillers.ofBindings_fromQuery]
  · rfl
  · intro x hx
    rw [List.mem_singleton.mp hx]
    exact ⟨hplace, hwants.form, hwants.formOnly⟩

end OnlyField

/-- **There and back.** Let the only field with a tag be one for lists of texts by their keys, which
takes keys of the query, and whose parameter has no opening bracket in its name. Let a reader that is
registered for texts not change them, and let the model have a new instance. Let the lists be written
into a query, each text in a pair of its own, the pairs of one key in order and those of different
keys mixed in any way. Then a request with this query, which is read as urlencoded data, is resolved,
in a strict model as in one that is not, and the field holds the same lists under the same keys, which
stand in the order of their first appearance. No other field of the new instance is changed. -/
theorem Binder.keys_round_trip {env : Env} {t : Ty} {b : Binder}
    (hb : t.compile env = .ok (.binder b)) {before after : List (Member Ty)} {m : Member Ty}
    (hmembers : b.members = before ++ m :: after)
    (honly : ∀ m' ∈ before ++ after, m'.tag? env.options.tagKey = none) {tag : Tag}
    (htag : m.ownTag? env.options.tagKey = some tag) (hwants : tag.WantsKeys) {maps : MapName}
    {lists : SequenceName} (htype : m.type = .map maps .str (.sequence lists .str true) true)
    (hlists : lists.gathers = .list) (hname : m.name ≠ "")
    (hbare : '[' ∉ (m.site tag).name.toList) (hkeeps : env.registry.KeepsTexts)
    {new : Record Value} (hnew : b.head.newInstance b.members = .ok new)
    {mapping : List (String × List String)} (hmapping : IsKeyMapping mapping)
    {occ : List (String × String)} (hocc : Occurrences mapping occ) {pieces : List (List Char)}
    (hpieces : List.Forall₂ Urlencoded.WritesPair (occ.map (keyPair (m.site tag).name)) pieces)
    {r : Request} (hreads : r.ReadsPairs) (hquery : r.query = utf8List (joinWith ['&'] pieces))
    (body : Bytes) :
    ∃ entries, entries.Perm mapping ∧ entries.map (·.1) = Urlencoded.names occ ∧
      b.resolve r body = .ok (new.set m.name (textsByKey entries)) ∧
      (new.set m.name (textsByKey entries)).get? m.name = some (textsByKey entries) := by
  have hfillers := Ty.fillers_of_compile hb
  rw [hmembers, declared_textsByKey honly htag hwants htype hlists hkeeps] at hfillers
  have hitems := Urlencoded.queryPairs_written hpieces hreads hquery
  have hsep : ∀ key ∈ Urlencoded.names occ, Urlencoded.Separable (m.site tag).name key :=
    fun key hkey => hocc.separable hmapping (Member.site_name_ne hname tag) hbare hkey
  have hm : m ∈ b.members := by
    rw [hmembers]
    exact List.mem_append_right _ List.mem_cons_self
  refine ⟨byKey occ, hocc.perm_byKey hmapping, map_fst_byKey occ, ?_,
    new.get?_set_self _ (ModelHead.mem_names_newInstance hnew hm)⟩
  exact resolve_keyed hfillers hitems hsep (hocc.ne_nil hmapping) rfl
    (gatherKeys_keepTexts (nodup_byKey occ)) hnew

/-- A field for lists of texts by their keys. -/
def topicField : Member Ty :=
  { name := "topics", type := .map .dict .str (.sequence .list .str true) true,
    tags := [(defaultTagKey, "query,deepObject=true")] }

/-- The binder of a model with such a field, with readers that are registered. -/
def topicBinder (strict : Bool) (readers : List (String × TextReader)) : Binder :=
  .declared ⟨{ strict := strict }, readers⟩ { cls := { name := "Topics" } } [topicField]

/-- Lists under a key with an opening bracket and a line break, and under one of another script. -/
def topics : List (String × List String) := [("a[\n", ["x & y", ""]), ("ß", ["1+1=2"])]

/-- Their texts, those of one key before and after that of the other. -/
def topicOccurrences : List (String × String) :=
  [("a[\n", "x & y"), ("ß", "1+1=2"), ("a[\n", "")]

/-- A request with texts by their keys, written pair by pair. -/
def topicRequest (occ : List (String × String)) : Request :=
  { query := Urlencoded.encodePairs (occ.map (keyPair "topics")) }

theorem writesPairs_topics (occ : List (String × String)) :
    List.Forall₂ Urlencoded.WritesPair (occ.map (keyPair "topics"))
      ((occ.map (keyPair "topics")).map Urlencoded.encodePair) :=
  Urlencoded.writesPairs_encodePairs _

/-- A strict model is given both lists back, the one whose texts are apart included. -/
theorem topics_round_trip : ∃ entries, entries.Perm topics ∧
    (topicBinder true []).resolve (topicRequest topicOccurrences) [] =
      .ok ⟨"Topics", false, [("topics", some (textsByKey entries))]⟩ := by
  have hb : (Ty.model { cls := { name := "Topics" } } [topicField]).compile
      ⟨{ strict := true }, []⟩ = .ok (.binder (topicBinder true [])) := rfl
  have hmembers : (topicBinder true []).members = [] ++ topicField :: [] := rfl
  have hwants : Tag.WantsKeys { base := "query", deepObject := true, explode := true } :=
    ⟨rfl, rfl, rfl, rfl, rfl, rfl⟩
  have hmapping : IsKeyMapping topics :=
    ⟨by decide, by decide, by decide, by decide, by decide⟩
  have hocc : Occurrences topics topicOccurrences := ⟨by decide, by decide⟩
  have hkeeps : Registry.KeepsTexts [] := by rintro reader ⟨⟩
  obtain ⟨entries, hperm, -, hresolve, -⟩ := Binder.keys_round_trip hb
    hmembers (by simp) rfl hwants rfl rfl (by decide) (by decide) hkeeps rfl hmapping hocc
    (writesPairs_topics topicOccurrences) (r := topicRequest topicOccurrences)
    (Request.readsPairs_standard rfl) rfl []
  exact ⟨entries, hperm, hresolve⟩

/-- The number that is the first key of the topics, if it is one. -/
def numberedTopic? (model : Record Value) : Option Int :=
  match model.get? "topics" with
  | some (.map ((.int n, _) :: _)) => some n
  | _ => none

theorem numberedTopic?_of_texts {model : Record Value} {entries : List (String × List String)}
    (h : model.get? "topics" = some (textsByKey entries)) : numberedTopic? model = none := by
  rw [numberedTopic?, h]
  cases entries with
  | nil => rfl
  | cons e entries => rfl

/-- With a reader that makes texts their lengths, the keys do not come back. -/
theorem keys_lost_by_length :
    ¬ ∀ (env : Env) (t : Ty) (b : Binder) (before after : List (Member Ty)) (m : Member Ty)
        (tag : Tag) (maps : MapName) (lists : SequenceName) (mapping : List (String × List String))
        (occ : List (String × String)) (pieces : List (List Char)) (r : Request) (body : Bytes),
      t.compile env = .ok (.binder b) → b.members = before ++ m :: after →
      (∀ m' ∈ before ++ after, m'.tag? env.options.tagKey = none) →
      m.ownTag? env.options.tagKey = some tag → tag.WantsKeys →
      m.type = .map maps .str (.sequence lists .str true) true → lists.gathers = .list →
      m.name ≠ "" → '[' ∉ (m.site tag).name.toList →
      IsKeyMapping mapping → Occurrences mapping occ →
      List.Forall₂ Urlencoded.WritesPair (occ.map (keyPair (m.site tag).name)) pieces →
      r.ReadsPairs → r.query = utf8List (joinWith ['&'] pieces) →
      ∃ entries model, entries.Perm mapping ∧ entries.map (·.1) = Urlencoded.names occ ∧
        b.resolve r body = .ok model ∧ model.get? m.name = some (textsByKey entries) := by
  intro hall
  have hb : (Ty.model { cls := { name := "Topics" } } [topicField]).compile
      ⟨{}, [("str", Sample.length)]⟩ =
      .ok (.binder (topicBinder false [("str", Sample.length)])) := rfl
  have hmembers : (topicBinder false [("str", Sample.length)]).members =
      [] ++ topicField :: [] := rfl
  have hwants : Tag.WantsKeys { base := "query", deepObject := true, explode := true } :=
    ⟨rfl, rfl, rfl, rfl, rfl, rfl⟩
  have hmapping : IsKeyMapping [("a", ["x"])] :=
    ⟨by decide, by decide, by decide, by decide, by decide⟩
  have hocc : Occurrences [("a", ["x"])] [("a", "x")] := ⟨by decide, by decide⟩
  obtain ⟨entries, model, -, -, hresolve, htopics⟩ := hall _ _ _ _ _ _ _ .dict .list _ _ _
    (topicRequest [("a", "x")]) [] hb hmembers
    (by simp) rfl hwants rfl rfl (by decide) (by decide) hmapping hocc
    (writesPairs_topics [("a", "x")]) (Request.readsPairs_standard rfl) rfl
  have hnumber : ((topicBinder false [("str", Sample.length)]).resolve
      (topicRequest [("a", "x")]) []).toOption.bind numberedTopic? = some 1 := by
    decide +kernel
  rw [hresolve] at hnumber
  have hnone : numberedTopic? model = none := numberedTopic?_of_texts htopics
  exact absurd (hnone.symm.trans hnumber) (by decide)

end ParamBinding
