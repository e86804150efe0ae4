import ParamBinding.Proofs.Capability
import ParamBinding.Proofs.KeyGathering
import ParamBinding.Proofs.TagOptions

/-!
# Options that a field may have

A path variable or a cookie is one bare text, so lists in it are written in one way, and only maps
and nested models of the query have keys (`OptionsAllowed`). The builders check this in several
places, each on the way to one kind of type. Where texts are read by the type itself every way leads
through the right check: the options of a compiled model are allowed, and a tag with other options
is rejected (`Ty.options_enforced`).

Where texts are documents no way leads through a check, so that such a field may have any options,
which then mean nothing (`Ty.unpacker_withKeys`, `Ty.unpacker_withOptions`).
-/

namespace ParamBinding

/-- Whether values of a shape may be written key by key. -/
def Shape.isKeyed : Shape → Bool
  | .map _ _ | .struct _ _ => true
  | _ => false

/-- The options of a tag are allowed for a type: one way to write lists where there is one bare
text, and keys only for maps and models of the query. Types with a text form have no parts. -/
structure OptionsAllowed (env : Env) (t : Ty) (tag : Tag) : Prop where
  bare : tag.base = "path" ∨ tag.base = "cookie" → t.core.reader? env.registry = none →
    t.core.shape.isCompound = true → tag.explode = false ∧ tag.delimiter = ","
  keys : tag.deepObject = true → tag.base = "query" ∧ t.core.reader? env.registry = none ∧
    t.core.shape.isKeyed = true

/-! ### Tags -/

/-- Only a tag of the query can ask for keys. -/
theorem Tag.base_of_deepObject {text : String} {tag : Tag} (h : Tag.read false text = .ok tag)
    (hdeep : tag.deepObject = true) : tag.base = "query" := by
  obtain ⟨base, options, hparts⟩ := exists_parts text
  obtain ⟨-, settings, -, hproblem, rfl⟩ := (read_eq_ok hparts).mp h
  generalize String.ofList (Text.trim Text.isBlank base) = base at hproblem hdeep ⊢
  by_contra hbase
  replace hbase : base ≠ "query" := hbase
  have htop : (topLevelProblem? base settings).isSome = true := by
    unfold topLevelProblem?
    split
    · rfl
    · rw [Option.isSome_map, List.find?_isSome]
      exact ⟨.deepObject, by decide, hdeep⟩
  obtain ⟨p, hp⟩ := Option.isSome_iff_exists.mp htop
  unfold problem? at hproblem
  split at hproblem
  · cases hproblem
  · rw [if_neg Bool.false_ne_true, hp] at hproblem
    cases hproblem

theorem Place.isBare_ofName {s : String} :
    (Place.ofName s).isBare = true ↔ s = "path" ∨ s = "cookie" := by
  unfold ofName
  repeat' split
  all_goals simp_all [isBare]

theorem Member.place_site (m : Member Ty) (tag : Tag) : (m.site tag).place = .ofName tag.base := rfl

/-- Fields that are left out or filled from the body have no options. -/
theorem optionsAllowed_of_base {env : Env} {t : Ty} {text : String} {tag : Tag}
    (h : Tag.read false text = .ok tag) (hbase : tag.base = "-" ∨ tag.base = "model") :
    OptionsAllowed env t tag := by
  have hno : ∀ base ∈ ["path", "cookie", "query"], tag.base ≠ base := by
    intro base hmem heq
    rw [heq] at hbase
    rcases hbase with rfl | rfl <;> simp at hmem
  constructor
  · rintro (hpath | hcookie)
    · exact absurd hpath (hno _ (by simp))
    · exact absurd hcookie (hno _ (by simp))
  · intro hdeep
    exact absurd (Tag.base_of_deepObject h hdeep) (hno _ (by simp))

/-! ### Options that are refused -/

section Refused

variable {env : Env} {t : Ty} {site : Site} {tag : Tag} {b : Option Note} {noted : Option Ty}

/-- How options that are not allowed are refused: with an error about the tag, or because the type
cannot be decoded at all. A map type without a type for its values fails in its own way. -/
inductive Refusal (site : Site) (t : Ty) : CompileError → Prop where
  | options (p : Tag.Problem) (hp : p ∈ [Tag.Problem.delimiterNotAllowed, .explodeNotAllowed,
      .deepObjectOnSequence, .deepObjectOnScalar]) : Refusal site t (site.tagError p)
  | noTextForm (s : Ty) : Refusal site t (site.unsupported s .noTextForm)
  | malformed (h : t.core.shape = .malformed) : Refusal site t .missingTypeArgument

/-- One bare text is not exploded, and its delimiter is fixed. -/
theorem Site.checkCompound_refuses (hbare : site.place.isBare = true)
    (h : ¬ (tag.explode = false ∧ tag.delimiter = ",")) :
    ∃ p ∈ [Tag.Problem.delimiterNotAllowed, .explodeNotAllowed],
      site.checkCompound tag = .error (site.tagError p) := by
  rw [checkCompound, if_pos hbare]
  by_cases hdelimiter : tag.delimiter = ","
  · have hexplode : tag.explode = true := by
      cases he : tag.explode with
      | true => rfl
      | false => exact absurd ⟨he, hdelimiter⟩ h
    rw [if_neg (not_not_intro hdelimiter), if_pos hexplode]
    exact ⟨_, by simp, rfl⟩
  · rw [if_pos hdelimiter]
    exact ⟨_, by simp, rfl⟩

/-- A type with parts is refused before its parts are looked at. -/
theorem Ty.build_bare (hbare : site.place.isBare = true)
    (hreader : t.core.reader? env.registry = none) (hcompound : t.core.shape.isCompound = true)
    (h : ¬ (tag.explode = false ∧ tag.delimiter = ",")) :
    ∃ e, Ty.build env t site tag (.plain b noted) = .error e ∧ Refusal site t e := by
  obtain ⟨p, hp, hcheck⟩ := Site.checkCompound_refuses hbare h
  obtain ⟨b', noted', hcore⟩ := Ty.build_core env site tag t b noted
  refine ⟨site.tagError p, ?_, .options p ?_⟩
  · rw [Ty.reader?_core] at hreader
    rw [hcore]
    cases ht : t.core with
    | sequence _ _ _ | row _ _ _ | tuple _ _ | map _ _ _ _ | model _ _ =>
      rw [ht] at hreader
      rw [Ty.build, Ty.readOr_of_none hreader, hcheck]
      rfl
    | annotated t' ns => exact absurd ht (Ty.core_ne_annotated t)
    | _ =>
      rw [ht] at hcompound
      cases hcompound
  · simp only [List.mem_cons, List.not_mem_nil, or_false] at hp ⊢
    tauto

/-- A type with a text form refuses keys. -/
theorem Ty.build_reader {r : TextReader} (hreader : t.core.reader? env.registry = some r)
    (hdeep : tag.deepObject = true) :
    Ty.build env t site tag (.plain b noted) = .error (site.tagError .deepObjectOnScalar) := by
  obtain ⟨b', noted', hcore⟩ := Ty.build_core env site tag t b noted
  rw [Ty.reader?_core] at hreader
  have hrefuses : ∀ other,
      t.core.readOr env site tag other = .error (site.tagError .deepObjectOnScalar) := by
    intro other
    rw [Ty.readOr, hreader]
    dsimp only
    rw [Site.rejectDeepObject, if_pos hdeep]
    rfl
  rw [hcore]
  cases ht : t.core with
  | annotated t' ns => exact absurd ht (Ty.core_ne_annotated t)
  | optional f t' => exact absurd ht (Ty.core_ne_optional t)
  | keyedOnly k =>
    rw [ht] at hreader
    cases hreader
  | _ =>
    rw [ht] at hrefuses
    rw [Ty.build]
    exact hrefuses _

/-- Keys are refused by every type that has none. -/
theorem Ty.build_keyless (hquery : site.place = .query) (hdeep : tag.deepObject = true)
    (h : ¬ (t.core.reader? env.registry = none ∧ t.core.shape.isKeyed = true)) :
    ∃ e, Ty.build env t site tag (.plain b noted) = .error e ∧ Refusal site t e := by
  cases hreader : t.core.reader? env.registry with
  | some r => exact ⟨_, Ty.build_reader hreader hdeep, .options _ (by simp)⟩
  | none =>
    obtain ⟨b', noted', hcore⟩ := Ty.build_core env site tag t b noted
    have hkeyless : t.core.shape.isKeyed ≠ true := fun hkeyed => h ⟨hreader, hkeyed⟩
    have hcompound : site.checkCompound tag = .ok () := by
      rw [Site.checkCompound, hquery]
      rfl
    have hreject : site.rejectDeepObject tag = .error (site.tagError .deepObjectOnScalar) := by
      rw [Site.rejectDeepObject, if_pos hdeep]
    rw [Ty.reader?_core] at hreader
    rw [hcore]
    cases ht : t.core with
    | annotated t' ns => exact absurd ht (Ty.core_ne_annotated t)
    | optional f t' => exact absurd ht (Ty.core_ne_optional t)
    | keyedOnly k =>
      rw [Ty.build]
      exact ⟨_, rfl, .malformed (by rw [ht]; rfl)⟩
    | map _ _ _ _ | model _ _ =>
      rw [ht] at hkeyless
      exact absurd rfl hkeyless
    | scalar s =>
      rw [ht] at hreader
      rw [Ty.build, Ty.readOr_of_none hreader, hreject]
      exact ⟨_, rfl, .options _ (by simp)⟩
    | sequence _ _ _ | row _ _ _ | tuple _ _ =>
      rw [ht] at hreader
      rw [Ty.build, Ty.readOr_of_none hreader, hcompound, if_pos hdeep]
      exact ⟨_, rfl, .options _ (by simp)⟩
    | _ =>
      rw [ht] at hreader
      rw [Ty.build, Ty.readOr_of_none hreader]
      exact ⟨_, rfl, .noTextForm _⟩

/-- **Refusal.** Without a content type every combination that is not allowed is refused. -/
theorem Ty.unpacker_refuses {text : String} (htag : Tag.read false text = .ok tag)
    (hplace : site.place = .ofName tag.base) (hcontent : tag.content = "")
    (h : ¬ OptionsAllowed env t tag) :
    ∃ e, t.unpacker env site tag = .error e ∧ Refusal site t e := by
  rw [Ty.unpacker_plain hcontent]
  by_cases hkeys : tag.deepObject = true → t.core.reader? env.registry = none ∧
      t.core.shape.isKeyed = true
  · have hbare : ¬ (tag.base = "path" ∨ tag.base = "cookie" →
        t.core.reader? env.registry = none → t.core.shape.isCompound = true →
          tag.explode = false ∧ tag.delimiter = ",") := fun hbare =>
      h ⟨hbare, fun hdeep => ⟨Tag.base_of_deepObject htag hdeep, hkeys hdeep⟩⟩
    simp only [Classical.not_imp] at hbare
    obtain ⟨hbase, hreader, hcompound, hoptions⟩ := hbare
    exact Ty.build_bare (by rw [hplace]; exact Place.isBare_ofName.mpr hbase) hreader hcompound
      hoptions
  · obtain ⟨hdeep, hkeyless⟩ := Classical.not_imp.mp hkeys
    have hquery : site.place = .query := by
      rw [hplace, Tag.base_of_deepObject htag hdeep]
      rfl
    exact Ty.build_keyless hquery hdeep hkeyless

end Refused

/-! ### Options that mean nothing -/

section Documents

variable {env : Env} {t : Ty} {site : Site} {tag : Tag}

/-- With a content type nothing asks for keys. -/
theorem Ty.unpacker_withKeys (hcontent : tag.content ≠ "") (keys : Bool) :
    t.unpacker env site { tag with deepObject := keys } = t.unpacker env site tag := by
  rw [Ty.unpacker_document hcontent,
    Ty.unpacker_document (show ({ tag with deepObject := keys } : Tag).content ≠ "" from hcontent)]
  dsimp only
  cases env.options.fieldDecoder? tag.content with
  | none => rfl
  | some d => cases t.documentShape <;> rfl

/-- With a content type one bare text is one document, whatever the tag says about lists. -/
theorem Ty.unpacker_withOptions (hcontent : tag.content ≠ "") (hbare : site.place.isBare = true)
    (explode : Bool) (delimiter : String) (keys : Bool) :
    t.unpacker env site { tag with explode := explode, delimiter := delimiter, deepObject := keys } =
      t.unpacker env site tag := by
  have honce : ∀ tag : Tag, site.explodes tag = false := by
    intro tag
    rw [Site.explodes]
    cases hplace : site.place <;> rw [hplace] at hbare <;> first | rfl | cases hbare
  rw [Ty.unpacker_document hcontent, Ty.unpacker_document (show ({ tag with
    explode := explode, delimiter := delimiter, deepObject := keys } : Tag).content ≠ "" from
      hcontent)]
  dsimp only
  cases env.options.fieldDecoder? tag.content with
  | none => rfl
  | some d =>
    dsimp only
    by_cases hmalformed : t.documentShape = .malformed
    · rw [hmalformed]
      rfl
    · rw [Shape.documents_once (honce _) _ hmalformed, Shape.documents_once (honce _) _ hmalformed]

/-- What is decoded from documents has no keys. -/
theorem Member.isKeyed_of_content {m : Member Ty} {x : Binding} (hx : m.binding? env = some x)
    (hcontent : x.tag.content ≠ "") : x.isKeyed = false := by
  have htable := Ty.unpacker_takes (Member.unpacker_of_binding? hx)
  have hdocument : (m.part x.tag).tag.content ≠ "" := hcontent
  cases hkeyed : x.isKeyed with
  | false => rfl
  | true =>
    rw [Binding.isKeyed_iff.mp hkeyed, Ty.capability, if_neg hdocument,
      Ty.documentCapability] at htable
    split at htable <;> cases htable

end Documents

/-! ### Keys that reach their field -/

open Urlencoded in
/-- A field takes keys: it has a decoder for them, the query or a form may fill it, and a name
`name[key]` that is no parameter itself is a key of it. -/
structure Binder.KeysReach (b : Binder) (x : Binding) : Prop where
  decoder : ∃ d, x.filler.unpacker = .deepObject d
  accepts : ∃ part, x.accepts part = true
  reaches : ∀ part key, x.accepts part = true → Separable x.filler.name key →
    keyName x.filler.name key ∉ (b.plainTable part).map (·.name) →
    b.usage part (keyName x.filler.name key) = .key x.filler.name key ∧
      b.deepFiller? x.filler.name = some x.filler

theorem Binding.exists_accepts {x : Binding} (h : x.place = .query) :
    ∃ part, x.accepts part = true := by
  cases hform : x.tag.formOnly with
  | true => exact ⟨.form, by simp [accepts, inForm, h, hform]⟩
  | false => exact ⟨.query, by simp [accepts, inQuery, h, hform]⟩

theorem Binder.keysReach {env : Env} {t : Ty} {b : Binder} (hb : t.compile env = .ok (.binder b))
    {x : Binding} (hx : x ∈ bindings env b.members) (hplace : x.place = .query) {d : KeyedDecoder}
    (hd : x.filler.unpacker = .deepObject d) : b.KeysReach x := by
  have hkeyed : x.isKeyed = true := by
    rw [Binding.isKeyed, hd]
    rfl
  refine ⟨⟨d, hd⟩, Binding.exists_accepts hplace, fun part key haccepts hsep hfree => ?_⟩
  have howner : b.IsOwner env x x.filler.name := ⟨hx, hplace, rfl⟩
  have hmem : x.filler ∈ b.keyedTable part :=
    (mem_keyedTable hb).mpr ⟨x, hx, haccepts, hkeyed, rfl⟩
  constructor
  · refine (usage_eq_key hfree).mpr ⟨⟨?_, hsep⟩, .inl rfl⟩
    exact (mem_keyed_names hb howner).mpr ⟨haccepts, hkeyed⟩
  · have hdistinct := distinct_of_compile hb
    exact deepFiller?_of_lookup hdistinct ((lookup_keyed hdistinct).mpr ⟨hmem, rfl⟩)

/-! ### Models -/

section Models

variable {env : Env} {t : Ty} {h : ModelHead} {ms : List (Member Ty)}

/-- A type is compiled by its shape, or by that of the type inside one optional type. -/
theorem Ty.compile_eq_compile (env : Env) (t : Ty) :
    t.compile env = t.documentShape.compile env := by
  unfold Ty.compile Ty.documentShape
  cases t.shape <;> rfl

/-- A field that cannot be decoded rejects its model. The error may be that of another field. -/
theorem ModelHead.compile_rejects {m : Member Ty} (hm : m ∈ ms) {tag : Tag}
    (htag : m.ownTag? env.options.tagKey = some tag) (hskip : tag.base ≠ "-")
    (hmodel : tag.base ≠ "model") {e : CompileError}
    (he : m.type.unpacker env (m.site tag) tag = .error e) :
    ∃ e', h.compile env ms = .error e' := by
  cases hc : h.compile env ms with
  | error e' => exact ⟨e', rfl⟩
  | ok c =>
    obtain ⟨text, htext, hread⟩ := Member.ownTag?_eq_some.mp htag
    obtain ⟨tag', hread', hu⟩ := (ModelHead.inOrder_of_compile hc).compiles m hm text htext
    rw [hread] at hread'
    cases hread'
    obtain ⟨u, hu⟩ := hu hskip hmodel
    rw [he] at hu
    cases hu

/-- A model is rejected for a reason of its declaration, unless one of its fields runs into a map
type without a type for its values. -/
theorem ModelHead.compile_eq_missingTypeArgument
    (he : h.compile env ms = .error .missingTypeArgument) :
    ∃ m ∈ ms, ∃ tag, m.ownTag? env.options.tagKey = some tag ∧
      m.type.unpacker env (m.site tag) tag = .error .missingTypeArgument := by
  rcases ModelHead.compile_eq_error he with ⟨m, hm, fs, he⟩ | ⟨_, _, he⟩ | ⟨_, he⟩
  · rcases Fillers.addMember_eq_error he with ⟨_, _, he⟩ | ⟨_, he⟩ | ⟨tag, htag, he⟩
    · cases he
    · cases he
    · exact ⟨m, hm, tag, htag, he⟩
  · cases he
  · cases he

variable (hmodel : t.documentShape = .struct h ms) {m : Member Ty} (hm : m ∈ ms) {tag : Tag}
  (htag : m.ownTag? env.options.tagKey = some tag)
include hmodel hm htag

/-- A model with options that are not allowed is rejected. -/
theorem Ty.compile_refuses (hcontent : tag.content = "")
    (hrefused : ¬ OptionsAllowed env m.type tag) :
    (∃ e, m.type.unpacker env (m.site tag) tag = .error e ∧ Refusal (m.site tag) m.type e) ∧
      ∃ e, t.compile env = .error e ∧ (e = .missingTypeArgument →
        ∃ m' ∈ ms, ∃ tag', m'.ownTag? env.options.tagKey = some tag' ∧
          m'.type.unpacker env (m'.site tag') tag' = .error .missingTypeArgument) := by
  have hcompile : t.compile env = h.compile env ms := by
    rw [Ty.compile_eq_compile, hmodel]
    rfl
  obtain ⟨text, -, hread⟩ := Member.ownTag?_eq_some.mp htag
  obtain ⟨e, he, hrefusal⟩ := Ty.unpacker_refuses hread (Member.place_site m tag) hcontent hrefused
  have hskip : tag.base ≠ "-" := fun hbase =>
    hrefused (optionsAllowed_of_base hread (.inl hbase))
  have hbody : tag.base ≠ "model" := fun hbase =>
    hrefused (optionsAllowed_of_base hread (.inr hbase))
  obtain ⟨e', he'⟩ := ModelHead.compile_rejects hm htag hskip hbody he
  rw [hcompile]
  refine ⟨⟨e, he, hrefusal⟩, e', he', fun hmissing => ?_⟩
  rw [hmissing] at he'
  exact ModelHead.compile_eq_missingTypeArgument he'

/-- A field of a compiled model that asks for keys is reached by them. -/
theorem Ty.keysReach_of_compile (hcontent : tag.content = "") {b : Binder}
    (hb : t.compile env = .ok (.binder b)) (hdeep : tag.deepObject = true) :
    ∃ x, m.binding? env = some x ∧ b.KeysReach x := by
  have hcompile : h.compile env ms = .ok (.binder b) := by
    rw [← hb, Ty.compile_eq_compile, hmodel]
    rfl
  obtain ⟨hms, -, -, hdecl⟩ := ModelHead.compile_eq_binder.mp hcompile
  obtain ⟨text, htext, hread⟩ := Member.ownTag?_eq_some.mp htag
  have hbase := Tag.base_of_deepObject hread hdeep
  have hskip : tag.base ≠ "-" := by
    rw [hbase]
    decide
  have hbody : tag.base ≠ "model" := by
    rw [hbase]
    decide
  obtain ⟨tag', hread', hu⟩ := hms.compiles m hm text htext
  rw [hread] at hread'
  cases hread'
  obtain ⟨u, hu⟩ := hu hskip hbody
  have hbinding := Member.binding?_eq_some htag hskip hbody hu
  rw [Ty.unpacker_plain hcontent] at hu
  obtain ⟨hquery, -, -, d, rfl⟩ := Ty.build_keys hdeep hu
  refine ⟨_, hbinding, Binder.keysReach hb ?_ hquery rfl⟩
  rw [hdecl]
  exact List.mem_filterMap.mpr ⟨m, hm, hbinding⟩

/-- **Options are enforced, but not for documents.** Where a field is not decoded from documents,
a compiled model only has options that are allowed, a field with keys is reached by them, and any
other combination is refused, so that the model is rejected. Where it is decoded from documents it
has no keys, and it can be compiled with any options as well as with its own. -/
theorem Ty.options_enforced :
    (tag.content = "" →
      (∀ b, t.compile env = .ok (.binder b) → OptionsAllowed env m.type tag ∧
        (tag.deepObject = true → ∃ x, m.binding? env = some x ∧ b.KeysReach x)) ∧
      (¬ OptionsAllowed env m.type tag →
        (∃ e, m.type.unpacker env (m.site tag) tag = .error e ∧ Refusal (m.site tag) m.type e) ∧
        ∃ e, t.compile env = .error e ∧ (e = .missingTypeArgument →
          ∃ m' ∈ ms, ∃ tag', m'.ownTag? env.options.tagKey = some tag' ∧
            m'.type.unpacker env (m'.site tag') tag' = .error .missingTypeArgument))) ∧
    (tag.content ≠ "" →
      (∀ x, m.binding? env = some x → x.isKeyed = false) ∧
      (∀ keys, m.type.unpacker env (m.site tag) { tag with deepObject := keys } =
        m.type.unpacker env (m.site tag) tag) ∧
      (tag.base = "path" ∨ tag.base = "cookie" → ∀ explode delimiter keys,
        m.type.unpacker env (m.site tag)
            { tag with explode := explode, delimiter := delimiter, deepObject := keys } =
          m.type.unpacker env (m.site tag) tag)) := by
  constructor
  · intro hcontent
    refine ⟨fun b hb => ⟨?_, Ty.keysReach_of_compile hmodel hm htag hcontent hb⟩,
      Ty.compile_refuses hmodel hm htag hcontent⟩
    by_contra hrefused
    obtain ⟨-, e, he, -⟩ := Ty.compile_refuses hmodel hm htag hcontent hrefused
    rw [hb] at he
    cases he
  · intro hcontent
    refine ⟨fun x hx => ?_, Ty.unpacker_withKeys hcontent, fun hbase => ?_⟩
    · have hown := Member.ownTag?_of_binding? hx
      rw [htag] at hown
      cases hown
      exact Member.isKeyed_of_content hx hcontent
    · exact Ty.unpacker_withOptions hcontent (Place.isBare_ofName.mpr hbase)

end Models

/-- A list of numbers in a cookie, given as documents that are to be exploded. -/
def routedField : Member Ty :=
  { name := "ids", type := .sequence .list (.scalar { kind := .int }) true,
    tags := [(defaultTagKey, "cookie,explode=true,content=application/json")] }

/-- A model with such a field. -/
def routed : Ty := .model { cls := { name := "Routed" } } [routedField]

/-- The keys of a map of lists reach their field, and a cookie of documents is decoded alike whether or
not it is to be exploded. -/
theorem tallied_and_routed :
    (∃ b x, (tallied numbersByKey).compile ⟨{}, []⟩ = .ok (.binder b) ∧ b.KeysReach x) ∧
      routedField.type.unpacker ⟨{}, []⟩ ⟨"ids", "ids", .cookie⟩
          { base := "cookie", content := "application/json" } =
        routedField.type.unpacker ⟨{}, []⟩ ⟨"ids", "ids", .cookie⟩
          { base := "cookie", explode := true, content := "application/json" } := by
  have hb : (tallied numbersByKey).compile ⟨{}, []⟩ = .ok (.binder (.declared ⟨{}, []⟩ _ _)) := rfl
  have hkeys := (@Ty.options_enforced ⟨{}, []⟩ (tallied numbersByKey) _ _ rfl _
    List.mem_cons_self _ rfl).1 rfl
  obtain ⟨x, -, hreach⟩ := (hkeys.1 _ hb).2 rfl
  have hcookie := (@Ty.options_enforced ⟨{}, []⟩ routed _ _ rfl _ List.mem_cons_self _ rfl).2
    (by decide)
  exact ⟨⟨_, x, hb, hreach⟩, hcookie.2.2 (.inr rfl) false "," false⟩

/-- The model is compiled although its cookie is to be exploded. -/
theorem cookie_explodes_documents :
    ¬ ∀ (env : Env) (t : Ty) (b : Binder), t.compile env = .ok (.binder b) →
      ∀ m ∈ b.members, ∀ tag, m.ownTag? env.options.tagKey = some tag →
        OptionsAllowed env m.type tag := by
  intro hall
  have hb : routed.compile ⟨{}, []⟩ = .ok (.binder (.declared ⟨{}, []⟩ _ _)) := rfl
  have hallowed := hall _ _ _ hb routedField List.mem_cons_self _ rfl
  have hexplode := (hallowed.bare (.inr rfl) rfl rfl).1
  cases hexplode

end ParamBinding
