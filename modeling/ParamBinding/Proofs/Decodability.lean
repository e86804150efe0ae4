import ParamBinding.Proofs.NestedModels
import ParamBinding.Proofs.UntypedMaps

/-!
# Decodable types

Which types can be decoded from a parameter is said here without a word about builders
(`Ty.Decodable`): those with a text form, those of the primitive classes, and what is put together
from decodable types. In a nested model only the fields count that take part in it, each with a tag
of its own.

An unpacker is built exactly for these (`Ty.compiles_iff_decodable`). Each shape has a lemma that says
what building needs of the parts, and the theorem follows by induction on the size of the type. The
tag changes on the way down, but the options that a part must not have are gone before it is reached
(`Site.checkCompound_withoutExplode`).
-/

namespace ParamBinding

/-! ### Which types are decodable -/

namespace Member

/-- A field takes part in a nested model with a tag: the tag can be read and does not leave the field
out. -/
def TakesPart (env : Env) (m : Member Ty) (tag : Tag) : Prop :=
  Tag.read true ((m.tag? env.options.tagKey).getD "") = .ok tag ∧ tag.base ≠ "-"

/-- The key of a field of a nested model, if it takes part. -/
def nestedKey? (env : Env) (m : Member Ty) : Option String :=
  match Tag.read true ((m.tag? env.options.tagKey).getD "") with
  | .ok tag => if tag.base = "-" then none else some (Ty.memberKey tag m.name)
  | .error _ => none

end Member

/-- A type is put together from others, and has no text form of its own. -/
def Ty.IsComposed (env : Env) (t : Ty) : Prop :=
  t.core.reader? env.registry = none ∧ t.core.shape.isCompound = true

/-- A type can be decoded from a parameter of a place. -/
inductive Ty.Decodable (env : Env) (place : Place) : Ty → Prop where
  | text {t : Ty} (h : (t.reader? env.registry).isSome = true) : Decodable env place t
  | primitive {t : Ty} {s : Scalar} {b : Option Note} (h : t.shape = .primitive s b) :
      Decodable env place t
  | optional {t u : Ty} (h : t.shape = .optional u) (hu : Decodable env place u) :
      Decodable env place t
  | slice {t e : Ty} {c : Collection} (h : t.shape = .slice c e) (he : Decodable env place e) :
      Decodable env place t
  | array {t : Ty} {es : List Ty} (h : t.shape = .array es)
      (hes : ∀ e ∈ es, Decodable env place e) : Decodable env place t
  | map {t k v : Ty} (h : t.shape = .map k v) (hk : Decodable env place k)
      (hv : Decodable env place v) : Decodable env place t
  | struct {t : Ty} {head : ModelHead} {ms : List (Member Ty)} (h : t.shape = .struct head ms)
      (hread : ∀ m ∈ ms, ∃ tag, Tag.read true ((m.tag? env.options.tagKey).getD "") = .ok tag)
      (hkeys : (ms.filterMap (·.nestedKey? env)).Nodup)
      (hkeyless : ∀ m ∈ ms, ∀ tag, m.TakesPart env tag → tag.deepObject = false)
      (hdocuments : ∀ m ∈ ms, ∀ tag, m.TakesPart env tag → tag.content ≠ "" →
        (env.options.fieldDecoder? tag.content).isSome = true)
      (hfields : ∀ m ∈ ms, ∀ tag, m.TakesPart env tag → tag.content = "" →
        Decodable env place m.type)
      -- one bare text has one way to write lists
      (hdelimiters : ∀ m ∈ ms, ∀ tag, m.TakesPart env tag → tag.content = "" →
        place.isBare = true → m.type.IsComposed env → tag.delimiter = ",") :
      Decodable env place t

/-- What is asked of a field for its model to be decodable. -/
structure Member.Decodable (env : Env) (place : Place) (m : Member Ty) : Prop where
  read : ∃ tag, Tag.read true ((m.tag? env.options.tagKey).getD "") = .ok tag
  keyless : ∀ tag, m.TakesPart env tag → tag.deepObject = false
  documents : ∀ tag, m.TakesPart env tag → tag.content ≠ "" →
    (env.options.fieldDecoder? tag.content).isSome = true
  field : ∀ tag, m.TakesPart env tag → tag.content = "" → m.type.Decodable env place
  delimiter : ∀ tag, m.TakesPart env tag → tag.content = "" → place.isBare = true →
    m.type.IsComposed env → tag.delimiter = ","

/-- What is asked of the parts of a shape, for a type without a text form. -/
def Shape.Decodable (env : Env) (place : Place) : Shape → Prop
  | .primitive _ _ => True
  | .optional u => u.Decodable env place
  | .slice _ e => e.Decodable env place
  | .array es => ∀ e ∈ es, e.Decodable env place
  | .map k v => k.Decodable env place ∧ v.Decodable env place
  | .struct _ ms => (ms.filterMap (·.nestedKey? env)).Nodup ∧ ∀ m ∈ ms, m.Decodable env place
  | .unsupported | .malformed => False

namespace Ty

variable {env : Env} {place : Place} {t u : Ty} {s : Shape}

/-- A type is decodable by its text form or by its shape. -/
theorem decodable_iff : t.Decodable env place ↔
    (t.reader? env.registry).isSome = true ∨ t.shape.Decodable env place := by
  constructor
  · intro h
    cases h with
    | text h => exact .inl h
    | primitive h =>
      rw [h]
      exact .inr trivial
    | optional h hu | slice h hu | array h hu =>
      rw [h]
      exact .inr hu
    | map h hk hv =>
      rw [h]
      exact .inr ⟨hk, hv⟩
    | struct h hread hkeys hkeyless hdocuments hfields hdelimiters =>
      rw [h]
      exact .inr ⟨hkeys, fun m hm =>
        ⟨hread m hm, hkeyless m hm, hdocuments m hm, hfields m hm, hdelimiters m hm⟩⟩
  · rintro (h | h)
    · exact .text h
    cases hshape : t.shape with
    | primitive s b => exact .primitive hshape
    | optional u =>
      rw [hshape] at h
      exact .optional hshape h
    | slice c e =>
      rw [hshape] at h
      exact .slice hshape h
    | array es =>
      rw [hshape] at h
      exact .array hshape h
    | map k v =>
      rw [hshape] at h
      exact .map hshape h.1 h.2
    | struct head ms =>
      rw [hshape] at h
      exact .struct hshape (fun m hm => (h.2 m hm).read) h.1 (fun m hm => (h.2 m hm).keyless)
        (fun m hm => (h.2 m hm).documents) (fun m hm => (h.2 m hm).field)
        (fun m hm => (h.2 m hm).delimiter)
    | unsupported | malformed =>
      rw [hshape] at h
      exact h.elim

theorem shape_of_annotated_iff {ns : List Note} :
    (annotated t ns).shape.Decodable env place ↔ t.shape.Decodable env place := by
  rw [shape, shape, bare]
  cases t.bare <;> rfl

/-- Notes and optional types around a type do not make it decodable or keep it from being so. -/
theorem decodable_core : ∀ t : Ty, t.Decodable env place ↔ t.core.Decodable env place
  | .annotated t ns => by
    refine Iff.trans ?_ (decodable_core t)
    rw [decodable_iff, decodable_iff (t := t), shape_of_annotated_iff]
    rfl
  | .optional f t => by
    refine Iff.trans ?_ (decodable_core t)
    have hreader : (optional f t).reader? env.registry = none := rfl
    rw [decodable_iff, hreader]
    exact or_iff_right Bool.false_ne_true
  | .scalar _ | .plain _ _ | .enum _ | .model _ _ | .sequence _ _ _ | .row _ _ _ | .tuple _ _
  | .map _ _ _ _ | .keyedOnly _ | .union _ _ | .literal _ | .callable _ _ | .generic _ _ _
  | .ellipsis => Iff.rfl

theorem core_shape_ne_optional : t.core.shape ≠ .optional u := by
  intro h
  cases hcore : t.core with
  | optional f t' => exact core_ne_optional t hcore
  | annotated t' ns => exact core_ne_annotated t hcore
  | _ =>
    rw [hcore] at h
    cases h

end Ty

/-! ### What building a shape needs -/

theorem Site.checkCompound_eq_ok {site : Site} {tag : Tag} : site.checkCompound tag = .ok () ↔
    (site.place.isBare = true → tag.explode = false ∧ tag.delimiter = ",") := by
  unfold checkCompound
  cases site.place.isBare with
  | false => simp
  | true => by_cases hdelimiter : tag.delimiter = "," <;> cases tag.explode <;> simp [hdelimiter]

/-- What a tag may say of a type it may say of the parts of the type. -/
theorem Site.checkCompound_withoutExplode {site : Site} {tag : Tag}
    (h : site.checkCompound tag = .ok ()) : site.checkCompound tag.withoutExplode = .ok () := by
  rw [checkCompound_eq_ok] at h ⊢
  exact fun hbare => ⟨rfl, (h hbare).2⟩

namespace Part

variable {env : Env} {p : Part} {c : Collection} {e k v : Ty} {es : List Ty} {head : ModelHead}
  {ms : List (Member Ty)}

/-- Documents that are given whole need a decoder for them. -/
theorem isBuilt_document (hcontent : p.tag.content ≠ "") (honce : p.site.explodes p.tag = false)
    (hshape : p.type.documentShape ≠ .malformed) :
    p.IsBuilt env ↔ (env.options.fieldDecoder? p.tag.content).isSome = true := by
  rw [IsBuilt, unpacker, Ty.unpacker_document hcontent]
  cases env.options.fieldDecoder? p.tag.content with
  | none => simp
  | some d => simp [Shape.documents_once honce _ hshape]

/-- A text form is enough. -/
theorem isBuilt_text (hcontent : p.tag.content = "") (hdeep : p.tag.deepObject = false)
    (h : (p.type.core.reader? env.registry).isSome = true) : p.IsBuilt env := by
  obtain ⟨b, noted, hcore⟩ := Ty.build_core env p.site p.tag p.type none none
  obtain ⟨r, hr⟩ := Option.isSome_iff_exists.mp h
  rw [Ty.reader?_core] at hr
  have hread : ∀ other, ∃ u, p.type.core.readOr env p.site p.tag other = .ok u := fun other =>
    ⟨_, Ty.readOr_eq_ok.mpr (.inl ⟨r, hr, hdeep, rfl⟩)⟩
  rw [IsBuilt, unpacker, Ty.unpacker_plain hcontent, Mode.own, hcore]
  cases ht : p.type.core with
  | annotated t ns => exact absurd ht (Ty.core_ne_annotated _)
  | optional f t => exact absurd ht (Ty.core_ne_optional _)
  | keyedOnly k =>
    rw [ht] at hr
    cases hr
  | _ =>
    rw [ht] at hread
    simp only [Ty.build]
    exact hread _

/-- The places of a tuple are built when each of them is. -/
theorem exists_buildSlots {site : Site} {tag : Tag} (honce : site.explodes tag = false)
    (hdeep : tag.deepObject = false) :
    (∃ slots, Ty.buildSlots env es site tag = .ok slots) ↔
      ∀ e ∈ es, ∃ u, Ty.build env e site tag .own = .ok u := by
  constructor
  · rintro ⟨slots, hslots⟩ e he
    exact Ty.exists_of_buildSlots hslots he
  · intro h
    induction es with
    | nil => exact ⟨[], rfl⟩
    | cons e es ih =>
      obtain ⟨u, hu⟩ := h e List.mem_cons_self
      obtain ⟨d, hd⟩ := Ty.exists_element honce hdeep hu
      obtain ⟨slots, hslots⟩ := ih fun e' he' => h e' (List.mem_cons_of_mem e he')
      exact ⟨_, bind_eq_ok.mpr ⟨u, hu, bind_eq_ok.mpr ⟨d, hd,
        bind_eq_ok.mpr ⟨slots, hslots, rfl⟩⟩⟩⟩

namespace Splits

theorem isBuilt_primitive {s : Scalar} {b : Option Note} (h : p.Splits env (.primitive s b))
    (hdeep : p.tag.deepObject = false) : p.IsBuilt env := by
  obtain ⟨hreader, b', noted, hbuild⟩ := h.eq_build
  have hshape := h.shape
  rw [IsBuilt, hbuild]
  cases ht : p.type.core with
  | scalar s' =>
    rw [ht] at hreader
    rw [Ty.build, Ty.readOr_of_none hreader]
    exact ⟨_, bind_eq_ok.mpr ⟨(), Site.rejectDeepObject_eq_ok.mpr hdeep, rfl⟩⟩
  | annotated t ns => exact absurd ht (Ty.core_ne_annotated _)
  | _ =>
    rw [ht] at hshape
    cases hshape

theorem isBuilt_slice (h : p.Splits env (.slice c e)) (hdeep : p.tag.deepObject = false) :
    p.IsBuilt env ↔
      p.site.checkCompound p.tag = .ok () ∧ IsBuilt env ⟨e, p.site, p.tag.withoutExplode⟩ := by
  have hpart : (Part.mk e p.site p.tag.withoutExplode).unpacker env =
      Ty.build env e p.site p.tag.withoutExplode .own := h.part_eq rfl
  rw [IsBuilt, IsBuilt, hpart]
  constructor
  · rintro ⟨u, hu⟩
    obtain ⟨hcheck, -, eu, -, heu, -⟩ := Ty.build_slice h.reader h.shape (h.build hu)
    exact ⟨hcheck, eu, heu⟩
  · rintro ⟨hcheck, eu, heu⟩
    obtain ⟨hreader, b, noted, hbuild⟩ := h.eq_build
    obtain ⟨elem, helem⟩ := Ty.exists_element (Site.explodes_withoutExplode _ _) hdeep heu
    rw [hbuild]
    obtain ⟨n, spelled, ht, -⟩ | ⟨builtin, form, ht, -⟩ := Ty.core_eq_of_slice h.shape
    all_goals
      rw [ht] at hreader ⊢
      rw [Ty.build, Ty.readOr_of_none hreader, hcheck, hdeep, heu]
      exact ⟨_, bind_eq_ok.mpr ⟨(), rfl, bind_eq_ok.mpr ⟨eu, rfl,
        bind_eq_ok.mpr ⟨elem, helem, rfl⟩⟩⟩⟩

theorem isBuilt_array (h : p.Splits env (.array es)) (hdeep : p.tag.deepObject = false) :
    p.IsBuilt env ↔ p.site.checkCompound p.tag = .ok () ∧
      ∀ e ∈ es, IsBuilt env ⟨e, p.site, p.tag.withoutExplode⟩ := by
  have hpart : ∀ e : Ty, (Part.mk e p.site p.tag.withoutExplode).unpacker env =
      Ty.build env e p.site p.tag.withoutExplode .own := fun e => h.part_eq rfl
  have hslots : (∃ slots, Ty.buildSlots env es p.site p.tag.withoutExplode = .ok slots) ↔
      ∀ e ∈ es, IsBuilt env ⟨e, p.site, p.tag.withoutExplode⟩ := by
    simp only [IsBuilt, hpart]
    exact exists_buildSlots (Site.explodes_withoutExplode _ _) hdeep
  rw [← hslots]
  constructor
  · rintro ⟨u, hu⟩
    obtain ⟨hcheck, -, slots, hslots, -⟩ := Ty.build_array h.reader h.shape (h.build hu)
    exact ⟨hcheck, slots, hslots⟩
  · rintro ⟨hcheck, slots, hslots⟩
    obtain ⟨hreader, b, noted, hbuild⟩ := h.eq_build
    obtain ⟨builtin, ht⟩ := Ty.core_eq_of_array h.shape
    rw [ht] at hreader
    rw [IsBuilt, hbuild, ht, Ty.build, Ty.readOr_of_none hreader, hcheck, hdeep, hslots]
    exact ⟨_, rfl⟩

theorem isBuilt_map (h : p.Splits env (.map k v)) (hdeep : p.tag.deepObject = false) :
    p.IsBuilt env ↔ p.site.checkCompound p.tag = .ok () ∧
      IsBuilt env ⟨k, p.site, p.tag.withoutExplode.withoutDeepObject⟩ ∧
      IsBuilt env ⟨v, p.site, p.tag.withoutExplode⟩ := by
  have hkeys : (Part.mk k p.site p.tag.withoutExplode.withoutDeepObject).unpacker env =
      Ty.build env k p.site p.tag.withoutExplode.withoutDeepObject .own := h.part_eq rfl
  have hvalues : (Part.mk v p.site p.tag.withoutExplode).unpacker env =
      Ty.build env v p.site p.tag.withoutExplode .own := h.part_eq rfl
  rw [IsBuilt, IsBuilt, IsBuilt, hkeys, hvalues]
  constructor
  · rintro ⟨u, hu⟩
    obtain ⟨hcheck, ku, -, hku, -, ⟨hkeyed, -⟩ | ⟨-, vu, -, hvu, -⟩⟩ :=
      Ty.build_keyValue h.reader h.shape (h.build hu)
    · rw [hdeep] at hkeyed
      cases hkeyed
    · exact ⟨hcheck, ⟨ku, hku⟩, vu, hvu⟩
  · rintro ⟨hcheck, ⟨ku, hku⟩, vu, hvu⟩
    obtain ⟨hreader, b, noted, hbuild⟩ := h.eq_build
    obtain ⟨n, spelled, ht⟩ := Ty.core_eq_of_map h.shape
    have honce := Site.explodes_withoutExplode p.site p.tag
    have honceKey : p.site.explodes p.tag.withoutExplode.withoutDeepObject = false := honce
    obtain ⟨key, hkey⟩ := Ty.exists_element honceKey rfl hku
    obtain ⟨value, hvalue⟩ := Ty.exists_element honce hdeep hvu
    have hsingle : vu.single? = some value := by
      rw [Site.element] at hvalue
      cases hd : vu.single? with
      | none =>
        rw [hd] at hvalue
        cases hvalue
      | some d =>
        rw [hd] at hvalue
        cases hvalue
        rfl
    rw [ht] at hreader
    rw [hbuild, ht, Ty.build, Ty.readOr_of_none hreader, hcheck]
    refine ⟨p.site.tokenUnpacker p.tag (unpackMap key value), bind_eq_ok.mpr ⟨(), rfl,
      bind_eq_ok.mpr ⟨ku, hku, bind_eq_ok.mpr ⟨key, hkey, ?_⟩⟩⟩⟩
    simp only [hdeep, Bool.false_eq_true, if_false]
    exact bind_eq_ok.mpr ⟨vu, hvu, by rw [hsingle]⟩

theorem isBuilt_struct (h : p.Splits env (.struct head ms)) (hdeep : p.tag.deepObject = false) :
    p.IsBuilt env ↔ p.site.checkCompound p.tag = .ok () ∧
      ∃ targets, Ty.buildMembers env ms p.site.place false [] = .ok targets := by
  constructor
  · rintro ⟨u, hu⟩
    obtain ⟨hcheck, d, htargets, -⟩ := Ty.build_struct h.reader h.shape (h.build hu)
    rw [hdeep] at htargets
    exact ⟨hcheck, d.targets, htargets⟩
  · rintro ⟨hcheck, targets, htargets⟩
    obtain ⟨hreader, b, noted, hbuild⟩ := h.eq_build
    have ht := Ty.core_eq_of_struct h.shape
    rw [ht] at hreader
    rw [IsBuilt, hbuild, ht, Ty.build, Ty.readOr_of_none hreader, hcheck, hdeep, htargets]
    exact ⟨_, rfl⟩

theorem not_isBuilt (h : p.Splits env .unsupported) : ¬ p.IsBuilt env := by
  obtain ⟨hreader, b, noted, hbuild⟩ := h.eq_build
  have hshape := h.shape
  rintro ⟨u, hu⟩
  rw [hbuild] at hu
  cases ht : p.type.core with
  | annotated t ns => exact Ty.core_ne_annotated _ ht
  | plain _ _ | enum _ | union _ _ | literal _ | callable _ _ | generic _ _ _ | ellipsis =>
    rw [ht] at hreader hu
    rw [Ty.build, Ty.readOr_of_none hreader] at hu
    cases hu
  | _ =>
    rw [ht] at hshape
    cases hshape

end Splits

end Part

/-! ### Fields of nested models -/

section Members

variable {env : Env} {place : Place} {deep : Bool} {ms : List (Member Ty)} {m : Member Ty}

/-- There are targets when every field that is not left out has one. -/
theorem exists_targetsOf : (∃ targets, TargetsOf env place deep ms targets) ↔
    ∀ m ∈ ms, m.IsLeftOut env ∨ ∃ t : MemberTarget, t.IsOf env place deep m := by
  constructor
  · rintro ⟨targets, h⟩
    induction h with
    | nil => simp
    | leftOut hm _ ih => exact List.forall_mem_cons.mpr ⟨.inl hm, ih⟩
    | target ht _ ih => exact List.forall_mem_cons.mpr ⟨.inr ⟨_, ht⟩, ih⟩
  · intro h
    induction ms with
    | nil => exact ⟨[], .nil⟩
    | cons m ms ih =>
      obtain ⟨hm, hms⟩ := List.forall_mem_cons.mp h
      obtain ⟨targets, htargets⟩ := ih hms
      obtain hout | ⟨t, ht⟩ := hm
      · exact ⟨targets, .leftOut hout htargets⟩
      · exact ⟨t :: targets, .target ht htargets⟩

/-- The keys of the targets are those that the tags of the fields name. -/
theorem keys_targetsOf {targets : List MemberTarget} (h : TargetsOf env place deep ms targets) :
    targets.map (·.key) = ms.filterMap (·.nestedKey? env) := by
  induction h with
  | nil => rfl
  | leftOut hm _ ih =>
    obtain ⟨tag, htag, hskip⟩ := hm
    rw [List.filterMap_cons_none (by rw [Member.nestedKey?, htag]; exact if_pos hskip), ih]
  | target ht _ ih =>
    obtain ⟨tag, htag, hskip, -, hkey, -⟩ := ht.compiled
    rw [List.filterMap_cons_some (by rw [Member.nestedKey?, htag]; exact if_neg hskip),
      List.map_cons, ih, hkey]

/-- A type is built, in parts that have neither documents nor keys, exactly when it is decodable and
the tag may say of it what it says. -/
def Ty.Characterized (env : Env) (t : Ty) : Prop :=
  ∀ (site : Site) (tag : Tag), tag.content = "" → tag.deepObject = false →
    (Part.IsBuilt env ⟨t, site, tag⟩ ↔
      t.Decodable env site.place ∧ (t.IsComposed env → site.checkCompound tag = .ok ()))

/-- A field is left out or has a target exactly when it is decodable. -/
theorem member_decodable_iff (hm : m.type.Characterized env)
    (hshape : m.type.documentShape ≠ .malformed) :
    (m.IsLeftOut env ∨ ∃ t : MemberTarget, t.IsOf env place false m) ↔ m.Decodable env place := by
  have hfield : ∀ tag : Tag, tag.content = "" → tag.deepObject = false → ∀ key,
      (Part.IsBuilt env ⟨m.type, ⟨m.name, key, place⟩, tag.withoutExplode⟩ ↔
        m.type.Decodable env place ∧
          (place.isBare = true → m.type.IsComposed env → tag.delimiter = ",")) := by
    intro tag hcontent hdeep key
    rw [hm ⟨m.name, key, place⟩ tag.withoutExplode hcontent hdeep, Site.checkCompound_eq_ok]
    exact and_congr_right fun _ => ⟨fun h hbare hcomposed => (h hcomposed hbare).2,
      fun h hcomposed hbare => ⟨rfl, h hbare hcomposed⟩⟩
  have hdocument : ∀ tag : Tag, tag.content ≠ "" → ∀ key,
      (Part.IsBuilt env ⟨m.type, ⟨m.name, key, place⟩, tag.withoutExplode⟩ ↔
        (env.options.fieldDecoder? tag.content).isSome = true) := fun tag hcontent key =>
    Part.isBuilt_document hcontent (Site.explodes_withoutExplode _ tag) hshape
  constructor
  · rintro (⟨tag, htag, hskip⟩ | ⟨t, ht⟩)
    · have hnot : ∀ tag', ¬ m.TakesPart env tag' := by
        rintro tag' ⟨htag', hskip'⟩
        rw [htag] at htag'
        cases htag'
        exact hskip' hskip
      exact ⟨⟨tag, htag⟩, fun tag' h => absurd h (hnot tag'), fun tag' h => absurd h (hnot tag'),
        fun tag' h => absurd h (hnot tag'), fun tag' h => absurd h (hnot tag')⟩
    · obtain ⟨tag, htag, hskip, hdeep, -, hu⟩ := ht.compiled
      have honly : ∀ tag', m.TakesPart env tag' → tag' = tag := by
        rintro tag' ⟨htag', -⟩
        exact Except.ok.inj (htag'.symm.trans htag)
      have hbuilt : Part.IsBuilt env ⟨m.type, ⟨m.name, t.key, place⟩, tag.withoutExplode⟩ :=
        ⟨_, hu⟩
      refine ⟨⟨tag, htag⟩, fun tag' h => honly tag' h ▸ hdeep, fun tag' h hcontent => ?_,
        fun tag' h hcontent => ?_, fun tag' h hcontent => ?_⟩ <;> obtain rfl := honly tag' h
      · exact (hdocument tag' hcontent t.key).mp hbuilt
      · exact ((hfield tag' hcontent hdeep t.key).mp hbuilt).1
      · exact ((hfield tag' hcontent hdeep t.key).mp hbuilt).2
  · intro h
    obtain ⟨tag, htag⟩ := h.read
    by_cases hskip : tag.base = "-"
    · exact .inl ⟨tag, htag, hskip⟩
    have htakes : m.TakesPart env tag := ⟨htag, hskip⟩
    have hdeep := h.keyless tag htakes
    have hbuilt : Part.IsBuilt env
        ⟨m.type, ⟨m.name, Ty.memberKey tag m.name, place⟩, tag.withoutExplode⟩ := by
      by_cases hcontent : tag.content = ""
      · exact (hfield tag hcontent hdeep _).mpr
          ⟨h.field tag htakes hcontent, h.delimiter tag htakes hcontent⟩
      · exact (hdocument tag hcontent _).mpr (h.documents tag htakes hcontent)
    obtain ⟨u, hu⟩ := hbuilt
    exact .inr ⟨⟨Ty.memberKey tag m.name, m.name, u⟩, rfl, tag, htag, hskip, hdeep, rfl, hu⟩

/-- **Nested models.** Their targets are built exactly when all of their fields are decodable and no
two of them have the same key. -/
theorem exists_buildMembers (hms : ∀ m ∈ ms, m.type.Characterized env)
    (hshape : ∀ m ∈ ms, m.type.documentShape ≠ .malformed) :
    (∃ targets, Ty.buildMembers env ms place false [] = .ok targets) ↔
      (ms.filterMap (·.nestedKey? env)).Nodup ∧ ∀ m ∈ ms, m.Decodable env place := by
  have hall : (∃ targets, TargetsOf env place false ms targets) ↔
      ∀ m ∈ ms, m.Decodable env place := by
    rw [exists_targetsOf]
    exact forall₂_congr fun m hm => member_decodable_iff (hms m hm) (hshape m hm)
  rw [← hall]
  constructor
  · rintro ⟨targets, h⟩
    obtain ⟨htargets, hkeys, -⟩ := Ty.buildMembers_eq_ok.mp h
    exact ⟨keys_targetsOf htargets ▸ hkeys, targets, htargets⟩
  · rintro ⟨hkeys, targets, htargets⟩
    exact ⟨targets, Ty.buildMembers_eq_ok.mpr ⟨htargets, keys_targetsOf htargets ▸ hkeys, by simp⟩⟩

end Members

/-! ### All types -/

namespace Ty

variable {env : Env} {t e : Ty}

/-- A type has no map type without a type for its values in it. -/
def IsTyped (t : Ty) : Prop := ∀ u : Ty, u.In t → u.core.shape ≠ .malformed

theorem IsTyped.part (h : t.IsTyped) (he : e ∈ t.core.shape.parts) : e.IsTyped :=
  fun u hu => h u (.tail hu he)

theorem isTyped_iff : t.IsTyped ↔
    t.core.shape ≠ .malformed ∧ ∀ e ∈ t.core.shape.parts, e.IsTyped := by
  refine ⟨fun h => ⟨h t .refl, fun e he => h.part he⟩, fun ⟨hshape, hparts⟩ u hu => ?_⟩
  obtain rfl | ⟨e, hue, he⟩ := Relation.ReflTransGen.cases_tail hu
  · exact hshape
  · exact hparts e he u hue

theorem IsTyped.documentShape_ne (h : t.IsTyped) : t.documentShape ≠ .malformed :=
  fun hshape => h t .refl (core_shape_of_documentShape nofun nofun hshape)

theorem characterized (h : t.IsTyped) : t.Characterized env := by
  induction hn : sizeOf t using Nat.strong_induction_on generalizing t with
  | _ n ih =>
    intro site tag hcontent hdeep
    have hpart : ∀ e ∈ t.core.shape.parts, e.Characterized env := fun e he =>
      ih _ (hn ▸ sizeOf_lt_of_mem_parts he) (h.part he) rfl
    -- the tag of a part says no more than that of the type, which has been checked
    have hinner : ∀ e ∈ t.core.shape.parts, ∀ tag' : Tag, tag'.content = "" →
        tag'.deepObject = false → site.checkCompound tag' = .ok () →
          (Part.IsBuilt env ⟨e, site, tag'⟩ ↔ e.Decodable env site.place) :=
      fun e he tag' hcontent' hdeep' hcheck' =>
        (hpart e he site tag' hcontent' hdeep').trans (and_iff_left fun _ => hcheck')
    rw [decodable_core, decodable_iff]
    cases hreader : t.core.reader? env.registry with
    | some r =>
      refine iff_of_true (Part.isBuilt_text hcontent hdeep (by rw [hreader]; rfl))
        ⟨.inl rfl, fun hcomposed => ?_⟩
      rw [hcomposed.1] at hreader
      cases hreader
    | none =>
      have hcomposed : t.core.shape.isCompound = true → t.IsComposed env := fun h => ⟨hreader, h⟩
      have hsplits : ∀ s, t.core.shape = s → Part.Splits env ⟨t, site, tag⟩ s := fun s hs =>
        ⟨hcontent, hreader, hs⟩
      rw [or_iff_right (by simp)]
      cases hshape : t.core.shape with
      | primitive s b =>
        refine iff_of_true ((hsplits _ hshape).isBuilt_primitive hdeep)
          ⟨trivial, fun hcomposed => ?_⟩
        have hcompound := hcomposed.2
        rw [hshape] at hcompound
        cases hcompound
      | optional u => exact absurd hshape core_shape_ne_optional
      | slice c e =>
        rw [hshape] at hinner hcomposed
        rw [(hsplits _ hshape).isBuilt_slice hdeep, and_comm, forall_prop_of_true (hcomposed rfl)]
        exact and_congr_left fun hcheck => hinner e List.mem_cons_self _ hcontent hdeep
          (Site.checkCompound_withoutExplode hcheck)
      | array es =>
        rw [hshape] at hinner hcomposed
        rw [(hsplits _ hshape).isBuilt_array hdeep, and_comm, forall_prop_of_true (hcomposed rfl)]
        exact and_congr_left fun hcheck => forall₂_congr fun e he => hinner e he _ hcontent hdeep
          (Site.checkCompound_withoutExplode hcheck)
      | map k v =>
        rw [hshape] at hinner hcomposed
        rw [(hsplits _ hshape).isBuilt_map hdeep, and_comm, forall_prop_of_true (hcomposed rfl)]
        refine and_congr_left fun hcheck => ?_
        have hcheck' := Site.checkCompound_withoutExplode hcheck
        exact and_congr (hinner k List.mem_cons_self _ hcontent rfl hcheck')
          (hinner v (List.mem_cons_of_mem _ List.mem_cons_self) _ hcontent hdeep hcheck')
      | struct head ms =>
        have hmember : ∀ m ∈ ms, m.type ∈ t.core.shape.parts := fun m hm => by
          rw [hshape]
          exact List.mem_map_of_mem hm
        rw [hshape] at hcomposed
        rw [(hsplits _ hshape).isBuilt_struct hdeep, and_comm, forall_prop_of_true (hcomposed rfl)]
        exact and_congr_left fun _ => exists_buildMembers (fun m hm => hpart _ (hmember m hm))
          fun m hm => (h.part (hmember m hm)).documentShape_ne
      | unsupported => exact iff_of_false (hsplits _ hshape).not_isBuilt fun h => h.1
      | malformed => exact absurd hshape (h t .refl)

/-- **Exactly the decodable types compile.** Let a type have no map type without a type for its
values in it, and let a tag give the type as it is: without documents, without keys and, where one
bare text is all there is, in the one way to write lists. Then an unpacker is built exactly when the
type is decodable, and otherwise building fails with an error of a class. -/
theorem compiles_iff_decodable (env : Env) (site : Site) {tag : Tag} (htyped : t.IsTyped)
    (hcontent : tag.content = "") (hdeep : tag.deepObject = false)
    (hbare : site.place.isBare = true → tag.explode = false ∧ tag.delimiter = ",") :
    ((∃ u, t.unpacker env site tag = .ok u) ↔ t.Decodable env site.place) ∧
      (¬ t.Decodable env site.place →
        ∃ e kind, t.unpacker env site tag = .error e ∧ e.kind? = some kind) := by
  have hiff : (∃ u, t.unpacker env site tag = .ok u) ↔ t.Decodable env site.place :=
    (characterized htyped site tag hcontent hdeep).trans
      (and_iff_left fun _ => Site.checkCompound_eq_ok.mpr hbare)
  refine ⟨hiff, fun hnot => ?_⟩
  cases hu : t.unpacker env site tag with
  | ok u => exact absurd (hiff.mp ⟨u, hu⟩) hnot
  | error e =>
    cases hkind : e.kind? with
    | some kind => exact ⟨e, kind, rfl, hkind⟩
    | none =>
      -- only such a map type fails without a class
      rw [CompileError.kind?_eq_none.mp hkind] at hu
      obtain ⟨u, hin, hshape⟩ := (Part.unpacker_eq_missing (p := ⟨t, site, tag⟩).mp hu).exists_in
      exact absurd hshape (htyped u hin)

/-- A shelf has a title, perhaps, and two sizes. A third field is left out, and nothing can be decoded
into its type. -/
def shelf : Ty := .model { cls := { name := "Shelf" } } [
  { name := "title", type := .optional .named .str },
  { name := "sizes", type := .tuple true [.scalar { kind := .int }, .scalar { kind := .int }] },
  { name := "rest", type := .ellipsis, tags := [(defaultTagKey, "-")] }]

/-- A shelf is decodable from a cookie. A list of what nothing can be decoded into is not, and
is refused. -/
theorem shelf_decodable : shelf.IsTyped ∧ shelf.Decodable ⟨{}, []⟩ .cookie ∧
    (sequence .list .ellipsis true).IsTyped ∧
    ∃ e kind, (sequence .list .ellipsis true).unpacker ⟨{}, []⟩ ⟨"shelf", "shelf", .cookie⟩
      { base := "cookie" } = .error e ∧ e.kind? = some kind := by
  have hshelf : shelf.IsTyped := by
    have hatomic : ∀ t : Ty, t.core.shape ≠ .malformed → t.core.shape.parts = [] → t.IsTyped :=
      fun t hshape hparts => isTyped_iff.mpr ⟨hshape, by rw [hparts]; simp⟩
    have hint := hatomic (.scalar { kind := .int }) nofun rfl
    have htitle := hatomic (.optional .named .str) nofun rfl
    have hrest := hatomic .ellipsis nofun rfl
    have hsizes : (tuple true [.scalar { kind := .int }, .scalar { kind := .int }]).IsTyped :=
      isTyped_iff.mpr ⟨nofun, List.forall_mem_cons.mpr ⟨hint, List.forall_mem_singleton.mpr hint⟩⟩
    exact isTyped_iff.mpr ⟨nofun, List.forall_mem_cons.mpr ⟨htitle,
      List.forall_mem_cons.mpr ⟨hsizes, List.forall_mem_singleton.mpr hrest⟩⟩⟩
  have hlist : (sequence .list .ellipsis true).IsTyped :=
    isTyped_iff.mpr ⟨nofun, List.forall_mem_singleton.mpr (isTyped_iff.mpr ⟨nofun, nofun⟩)⟩
  have hbuilds := @compiles_iff_decodable shelf ⟨{}, []⟩ ⟨"shelf", "shelf", .cookie⟩
    { base := "cookie" } hshelf rfl rfl fun _ => ⟨rfl, rfl⟩
  have hfails := @compiles_iff_decodable (.sequence .list .ellipsis true) ⟨{}, []⟩
    ⟨"shelf", "shelf", .cookie⟩ { base := "cookie" } hlist rfl rfl fun _ => ⟨rfl, rfl⟩
  refine ⟨hshelf, hbuilds.1.mp ⟨_, rfl⟩, hlist, hfails.2 fun hdecodable => ?_⟩
  obtain ⟨u, hu⟩ := hfails.1.mpr hdecodable
  cases hu

/-- A size that is to be decoded from documents of a kind that has no decoder. -/
def sizeDocument : Member Ty :=
  { name := "size", type := .scalar { kind := .int },
    tags := [(defaultTagKey, ",content=text/none")] }

/-- The type of the only field is decodable. But its tag asks for documents, and then it is the decoder
of documents that counts. -/
theorem size_document_refused :
    (∃ tag, sizeDocument.TakesPart ⟨{}, []⟩ tag ∧ tag.deepObject = false) ∧
      sizeDocument.type.Decodable ⟨{}, []⟩ .query ∧
      (model { cls := { name := "Sized" } } [sizeDocument]).unpacker ⟨{}, []⟩
        ⟨"box", "box", .query⟩ { base := "query" } =
          .error (.missingDecoder "text/none" (.onField "size")) :=
  ⟨⟨_, ⟨rfl, by decide⟩, rfl⟩, .primitive rfl, rfl⟩

end Ty

end ParamBinding
