import ParamBinding.Proofs.Declaration
import ParamBinding.Proofs.Soundness

/-!
# Builders taken apart

`Ty.build` decides many things at once. Here it is taken apart: notes and optional types around a
type do not count (`Ty.build_core`), a text form goes before everything else (`Ty.readOr_eq_ok`), and
then there is one way to build for each shape. The lemmas of this module say for each shape what was
checked, which parts were built and with which tags, when something was built at all.

Documents are built by the shape of their type, or of the type inside one optional type
(`Ty.build_document`).
-/

namespace ParamBinding

/-! ### Types without what is around them -/

namespace Shape

/-- Whether values of a shape have parts. -/
def isCompound : Shape → Bool
  | slice _ _ | array _ | map _ _ | struct _ _ => true
  | _ => false

/-- Whether values of a shape have any number of parts of one type. -/
def isUniform : Shape → Bool
  | slice _ _ | map _ _ => true
  | _ => false

end Shape

namespace Ty

/-- A type without the notes and the optional types around it, however many there are. -/
def core : Ty → Ty
  | .annotated t _ => t.core
  | .optional _ t => t.core
  | t => t

/-- The shape of a type, or of the type inside an optional one. -/
def documentShape (t : Ty) : Shape :=
  match t.shape with
  | .optional u => u.shape
  | s => s

section Core

variable {t : Ty}

/-- Whether there are notes or an optional type around a type. -/
def isWrapped : Ty → Bool
  | .annotated _ _ | .optional _ _ => true
  | _ => false

theorem isWrapped_core : ∀ t : Ty, t.core.isWrapped = false
  | .annotated t _ => isWrapped_core t
  | .optional _ t => isWrapped_core t
  | .scalar _ | .plain _ _ | .enum _ | .model _ _ | .sequence _ _ _ | .row _ _ _ | .tuple _ _
  | .map _ _ _ _ | .keyedOnly _ | .union _ _ | .literal _ | .callable _ _ | .generic _ _ _
  | .ellipsis => rfl

theorem core_ne_annotated (t : Ty) {u : Ty} {ns : List Note} : t.core ≠ .annotated u ns := by
  intro h
  have hbare := isWrapped_core t
  rw [h] at hbare
  cases hbare

theorem core_ne_optional (t : Ty) {f : OptionalForm} {u : Ty} : t.core ≠ .optional f u := by
  intro h
  have hbare := isWrapped_core t
  rw [h] at hbare
  cases hbare

/-- Notes and optional types around a type do not change what it is built from. -/
theorem build_core (env : Env) (site : Site) (tag : Tag) : ∀ (t : Ty) (b : Option Note)
    (noted : Option Ty), ∃ b' noted',
      build env t site tag (.plain b noted) = build env t.core site tag (.plain b' noted')
  | .annotated t ns, b, noted => by
    obtain ⟨b', noted', h⟩ := build_core env site tag t ((ns.find? Note.isBound).or b)
      (noted.or (some (.annotated t ns)))
    refine ⟨b', noted', ?_⟩
    rw [build]
    exact h
  | .optional f t, b, noted => by
    obtain ⟨b', noted', h⟩ := build_core env site tag t none none
    refine ⟨b', noted', ?_⟩
    rw [build, readOr_of_none rfl]
    exact h
  | .scalar _, b, noted | .plain _ _, b, noted | .enum _, b, noted | .model _ _, b, noted
  | .sequence _ _ _, b, noted | .row _ _ _, b, noted | .tuple _ _, b, noted
  | .map _ _ _ _, b, noted | .keyedOnly _, b, noted | .union _ _, b, noted | .literal _, b, noted
  | .callable _ _, b, noted | .generic _ _ _, b, noted | .ellipsis, b, noted =>
    ⟨b, noted, rfl⟩

theorem bare_core (t : Ty) : t.core.bare = t.core := by
  cases hcore : t.core with
  | annotated u ns => exact absurd hcore (core_ne_annotated t)
  | _ => rfl

theorem reader?_core (t : Ty) (reg : Registry) : t.core.reader? reg = t.core.bareReader? reg := by
  rw [reader?, bare_core]

theorem core_eq_of_slice {c : Collection} {e : Ty} (h : t.core.shape = .slice c e) :
    (∃ n spelled, t.core = .sequence n e spelled ∧ n.gathers = c) ∨
      ∃ b form, t.core = .row b e form ∧ c = .tuple := by
  cases hcore : t.core with
  | sequence n e' spelled =>
    rw [hcore] at h
    cases h
    exact .inl ⟨n, spelled, rfl, rfl⟩
  | row b e' form =>
    rw [hcore] at h
    cases h
    exact .inr ⟨b, form, rfl, rfl⟩
  | annotated u ns => exact absurd hcore (core_ne_annotated t)
  | _ =>
    rw [hcore] at h
    cases h

theorem core_eq_of_array {es : List Ty} (h : t.core.shape = .array es) :
    ∃ b, t.core = .tuple b es := by
  cases hcore : t.core with
  | tuple b es' =>
    rw [hcore] at h
    cases h
    exact ⟨b, rfl⟩
  | annotated u ns => exact absurd hcore (core_ne_annotated t)
  | _ =>
    rw [hcore] at h
    cases h

theorem core_eq_of_map {k v : Ty} (h : t.core.shape = .map k v) :
    ∃ n spelled, t.core = .map n k v spelled := by
  cases hcore : t.core with
  | map n k' v' spelled =>
    rw [hcore] at h
    cases h
    exact ⟨n, spelled, rfl⟩
  | annotated u ns => exact absurd hcore (core_ne_annotated t)
  | _ =>
    rw [hcore] at h
    cases h

theorem core_eq_of_struct {head : ModelHead} {ms : List (Member Ty)}
    (h : t.core.shape = .struct head ms) : t.core = .model head ms := by
  cases hcore : t.core with
  | model head' ms' =>
    rw [hcore] at h
    cases h
    rfl
  | annotated u ns => exact absurd hcore (core_ne_annotated t)
  | _ =>
    rw [hcore] at h
    cases h

end Core

end Ty

/-! ### Builders taken apart -/

section Builders

variable {env : Env} {t : Ty} {site : Site} {tag : Tag} {b : Option Note} {noted : Option Ty}
  {u : Unpacker}

theorem Site.rejectDeepObject_eq_ok :
    site.rejectDeepObject tag = .ok () ↔ tag.deepObject = false := by
  unfold rejectDeepObject
  cases tag.deepObject <;> simp

theorem Site.checkDeepObject_eq_ok : site.checkDeepObject = .ok () ↔ site.place = .query := by
  unfold checkDeepObject
  split <;> simp [*]

/-- A type with a text form is read by it, and cannot have keys. -/
theorem Ty.readOr_eq_ok {other : Except CompileError Unpacker} :
    t.readOr env site tag other = .ok u ↔
      (∃ r, t.bareReader? env.registry = some r ∧ tag.deepObject = false ∧ u = .single r.read) ∨
        (t.bareReader? env.registry = none ∧ other = .ok u) := by
  unfold readOr
  cases hreader : t.bareReader? env.registry with
  | none => simp
  | some r =>
    constructor
    · intro h
      obtain ⟨_, hreject, h⟩ := bind_eq_ok.mp h
      cases h
      exact .inl ⟨r, rfl, Site.rejectDeepObject_eq_ok.mp hreject, rfl⟩
    · rintro (⟨r', hr', hdeep, rfl⟩ | ⟨hnone, -⟩)
      · cases hr'
        dsimp only
        rw [Site.rejectDeepObject_eq_ok.mpr hdeep]
        rfl
      · cases hnone

/-- A type with a text form or without parts is decoded from one text, and cannot have keys. -/
theorem Ty.build_atomic
    (hatomic : (t.core.reader? env.registry).isSome = true ∨ t.core.shape.isCompound = false)
    (h : Ty.build env t site tag (.plain b noted) = .ok u) :
    tag.deepObject = false ∧ ∃ d, u = .single d := by
  obtain ⟨b', noted', hcore⟩ := Ty.build_core env site tag t b noted
  rw [hcore] at h
  rw [Ty.reader?_core] at hatomic
  have hread : ∀ other, t.core.readOr env site tag other = .ok u →
      (t.core.shape.isCompound = false → other = .ok u → tag.deepObject = false ∧ ∃ d, u = .single d) →
      tag.deepObject = false ∧ ∃ d, u = .single d := by
    intro other hu hother
    rcases Ty.readOr_eq_ok.mp hu with ⟨r, -, hdeep, rfl⟩ | ⟨hnone, hu⟩
    · exact ⟨hdeep, r.read, rfl⟩
    · rw [hnone] at hatomic
      exact hother (hatomic.resolve_left Bool.false_ne_true) hu
  cases ht : t.core with
  | annotated t' ns => exact absurd ht (Ty.core_ne_annotated t)
  | optional f t' => exact absurd ht (Ty.core_ne_optional t)
  | keyedOnly k =>
    rw [ht, Ty.build] at h
    cases h
  | scalar s =>
    rw [ht] at h hread
    rw [Ty.build] at h
    refine hread _ h fun _ hu => ?_
    obtain ⟨_, hreject, hu⟩ := bind_eq_ok.mp hu
    cases hu
    exact ⟨Site.rejectDeepObject_eq_ok.mp hreject, _, rfl⟩
  | _ =>
    -- a type with parts has a text form, and any other one has nothing else
    rw [ht] at h hread
    rw [Ty.build] at h
    exact hread _ h nofun

/-- Lists are decoded by the decoder of one element. -/
theorem Ty.build_slice {c : Collection} {e : Ty} (hreader : t.core.reader? env.registry = none)
    (hshape : t.core.shape = .slice c e)
    (h : Ty.build env t site tag (.plain b noted) = .ok u) :
    site.checkCompound tag = .ok () ∧ tag.deepObject = false ∧
      ∃ eu elem, Ty.build env e site tag.withoutExplode .own = .ok eu ∧
        site.element e eu = .ok elem ∧ u = site.listUnpacker tag (gather c elem) := by
  obtain ⟨b', noted', hcore⟩ := Ty.build_core env site tag t b noted
  rw [Ty.reader?_core] at hreader
  have hlist : (do
      site.checkCompound tag
      if tag.deepObject then .error (site.tagError .deepObjectOnSequence)
      else
        let eu ← Ty.build env e site tag.withoutExplode .own
        let elem ← site.element e eu
        .ok (site.listUnpacker tag (gather c elem))) = .ok u := by
    rcases Ty.core_eq_of_slice hshape with ⟨n, spelled, ht, rfl⟩ | ⟨builtin, form, ht, rfl⟩
    all_goals
      rw [ht] at hcore hreader
      rw [hcore, Ty.build, Ty.readOr_of_none hreader] at h
      exact h
  obtain ⟨_, hcheck, h⟩ := bind_eq_ok.mp hlist
  refine ⟨hcheck, ?_⟩
  by_cases hdeep : tag.deepObject = true
  · rw [if_pos hdeep] at h
    cases h
  · rw [if_neg hdeep] at h
    obtain ⟨eu, heu, h⟩ := bind_eq_ok.mp h
    obtain ⟨elem, helem, h⟩ := bind_eq_ok.mp h
    cases h
    exact ⟨Bool.eq_false_of_not_eq_true hdeep, eu, elem, heu, helem, rfl⟩

/-- Tuples are decoded by one decoder for each place. -/
theorem Ty.build_array {es : List Ty} (hreader : t.core.reader? env.registry = none)
    (hshape : t.core.shape = .array es)
    (h : Ty.build env t site tag (.plain b noted) = .ok u) :
    site.checkCompound tag = .ok () ∧ tag.deepObject = false ∧
      ∃ slots, Ty.buildSlots env es site tag.withoutExplode = .ok slots ∧
        u = site.listUnpacker tag (fillTuple slots) := by
  obtain ⟨b', noted', hcore⟩ := Ty.build_core env site tag t b noted
  obtain ⟨builtin, ht⟩ := Ty.core_eq_of_array hshape
  rw [Ty.reader?_core, ht] at hreader
  rw [hcore, ht, Ty.build, Ty.readOr_of_none hreader] at h
  obtain ⟨_, hcheck, h⟩ := bind_eq_ok.mp h
  refine ⟨hcheck, ?_⟩
  by_cases hdeep : tag.deepObject = true
  · rw [if_pos hdeep] at h
    cases h
  · rw [if_neg hdeep] at h
    obtain ⟨slots, hslots, h⟩ := bind_eq_ok.mp h
    cases h
    exact ⟨Bool.eq_false_of_not_eq_true hdeep, slots, hslots, rfl⟩

/-- Maps are decoded by the decoder of a key and that of a value, which may take several texts when
the map takes keys. -/
theorem Ty.build_keyValue {k v : Ty} (hreader : t.core.reader? env.registry = none)
    (hshape : t.core.shape = .map k v)
    (h : Ty.build env t site tag (.plain b noted) = .ok u) :
    site.checkCompound tag = .ok () ∧
      ∃ ku key, Ty.build env k site tag.withoutExplode.withoutDeepObject .own = .ok ku ∧
        site.element k ku = .ok key ∧
        ((tag.deepObject = true ∧ site.place = .query ∧
            ∃ vu, Ty.build env v site tag.withoutDeepObject .own = .ok vu ∧
              u = .deepObject fun keys => (gatherKeys key vu [] keys).map .map) ∨
          (tag.deepObject = false ∧
            ∃ vu value, Ty.build env v site tag.withoutExplode .own = .ok vu ∧
              vu.single? = some value ∧ u = site.tokenUnpacker tag (unpackMap key value))) := by
  obtain ⟨b', noted', hcore⟩ := Ty.build_core env site tag t b noted
  obtain ⟨n, spelled, ht⟩ := Ty.core_eq_of_map hshape
  rw [Ty.reader?_core, ht] at hreader
  rw [hcore, ht, Ty.build, Ty.readOr_of_none hreader] at h
  obtain ⟨_, hcheck, h⟩ := bind_eq_ok.mp h
  obtain ⟨ku, hku, h⟩ := bind_eq_ok.mp h
  obtain ⟨key, hkey, h⟩ := bind_eq_ok.mp h
  obtain ⟨vu, hvu, h⟩ := bind_eq_ok.mp h
  refine ⟨hcheck, ku, key, hku, hkey, ?_⟩
  by_cases hdeep : tag.deepObject = true
  · rw [if_pos hdeep] at h hvu
    obtain ⟨_, hquery, h⟩ := bind_eq_ok.mp h
    cases h
    exact .inl ⟨hdeep, Site.checkDeepObject_eq_ok.mp hquery, vu, hvu, rfl⟩
  · rw [if_neg hdeep] at h hvu
    cases hsingle : vu.single? with
    | none =>
      rw [hsingle] at h
      cases h
    | some value =>
      rw [hsingle] at h
      cases h
      exact .inr ⟨Bool.eq_false_of_not_eq_true hdeep, vu, value, hvu, hsingle, rfl⟩

/-- Nested models are decoded by the decoders of their fields. -/
theorem Ty.build_struct {head : ModelHead} {ms : List (Member Ty)}
    (hreader : t.core.reader? env.registry = none) (hshape : t.core.shape = .struct head ms)
    (h : Ty.build env t site tag (.plain b noted) = .ok u) :
    site.checkCompound tag = .ok () ∧
      ∃ d : StructDecoder,
        Ty.buildMembers env ms site.place tag.deepObject [] = .ok d.targets ∧
        ((tag.deepObject = true ∧ site.place = .query ∧ u = .deepObject d.unpackKeys) ∨
          (tag.deepObject = false ∧ u = site.tokenUnpacker tag d.unpackTokens)) := by
  obtain ⟨b', noted', hcore⟩ := Ty.build_core env site tag t b noted
  have ht := Ty.core_eq_of_struct hshape
  rw [Ty.reader?_core, ht] at hreader
  rw [hcore, ht, Ty.build, Ty.readOr_of_none hreader] at h
  obtain ⟨_, hcheck, h⟩ := bind_eq_ok.mp h
  obtain ⟨targets, htargets, h⟩ := bind_eq_ok.mp h
  refine ⟨hcheck, ⟨site.place, env.options.strict, head.newInstance ms, targets⟩, htargets, ?_⟩
  dsimp only at h
  by_cases hdeep : tag.deepObject = true
  · rw [if_pos hdeep] at h
    obtain ⟨_, hquery, h⟩ := bind_eq_ok.mp h
    cases h
    exact .inl ⟨hdeep, Site.checkDeepObject_eq_ok.mp hquery, rfl⟩
  · rw [if_neg hdeep] at h
    cases h
    exact .inr ⟨Bool.eq_false_of_not_eq_true hdeep, rfl⟩

/-- Only maps and nested models of the query can have keys, and only without a text form. -/
theorem Ty.build_keys (hdeep : tag.deepObject = true)
    (h : Ty.build env t site tag (.plain b noted) = .ok u) :
    site.place = .query ∧ t.core.reader? env.registry = none ∧
      ((∃ k v, t.core.shape = .map k v) ∨ ∃ head ms, t.core.shape = .struct head ms) ∧
      ∃ d, u = .deepObject d := by
  have hno : tag.deepObject ≠ false := by
    rw [hdeep]
    exact Bool.noConfusion
  cases hreader : t.core.reader? env.registry with
  | some r =>
    obtain ⟨hfalse, -⟩ := Ty.build_atomic (.inl (by rw [hreader]; rfl)) h
    exact absurd hfalse hno
  | none =>
    cases hshape : t.core.shape with
    | slice c e =>
      obtain ⟨-, hfalse, -⟩ := Ty.build_slice hreader hshape h
      exact absurd hfalse hno
    | array es =>
      obtain ⟨-, hfalse, -⟩ := Ty.build_array hreader hshape h
      exact absurd hfalse hno
    | map k v =>
      obtain ⟨-, ku, key, -, -, ⟨-, hquery, vu, -, hu⟩ | ⟨hfalse, -⟩⟩ :=
        Ty.build_keyValue hreader hshape h
      · exact ⟨hquery, rfl, .inl ⟨k, v, rfl⟩, _, hu⟩
      · exact absurd hfalse hno
    | struct head ms =>
      obtain ⟨-, d, -, ⟨-, hquery, hu⟩ | ⟨hfalse, -⟩⟩ := Ty.build_struct hreader hshape h
      · exact ⟨hquery, rfl, .inr ⟨head, ms, rfl⟩, _, hu⟩
      · exact absurd hfalse hno
    | primitive _ _ | optional _ | unsupported | malformed =>
      obtain ⟨hfalse, -⟩ := Ty.build_atomic (.inr (by rw [hshape]; rfl)) h
      exact absurd hfalse hno

end Builders

/-! ### Documents -/

section Documents

variable {env : Env} {site : Site} {tag : Tag} {d : Decoder} {whole : Ty} {u : Unpacker}

/-- The unpacker of documents: one for each element of a list or map that is exploded, or else one
for the whole type. -/
def Shape.documents (env : Env) (site : Site) (tag : Tag) (d : Decoder) (whole : Ty) :
    Shape → Except CompileError Unpacker
  | .slice c e => Ty.documentList site tag d whole c e
  | .map k v =>
    if site.explodes tag then do
      let ku ← Ty.build env k site tag.withoutExplode.withoutContent.withoutDeepObject .own
      let key ← site.element k ku
      let value ← Ty.documentElement site tag.withoutExplode d v
      .ok (.multi fun vs => unpackMap key value (resplit vs))
    else .ok (.single (site.decodeDocument tag.content d whole))
  | .malformed => .error .missingTypeArgument
  | _ => .ok (.single (site.decodeDocument tag.content d whole))

/-- Inside an optional type only what is directly there counts. -/
theorem Ty.build_inside (env : Env) (site : Site) (tag : Tag) (d : Decoder) (whole : Ty) :
    ∀ t : Ty, build env t site tag (.document d whole true) =
      t.shape.documents env site tag d whole
  | .annotated t ns => by
    rw [build, build_inside env site tag d whole t, shape, shape, bare]
    cases t.bare <;> rfl
  | .optional _ _ | .scalar _ | .plain _ _ | .enum _ | .model _ _ | .sequence _ _ _ | .row _ _ _
  | .tuple _ _ | .map _ _ _ _ | .keyedOnly _ | .union _ _ | .literal _ | .callable _ _
  | .generic _ _ _ | .ellipsis => by
    rw [build]
    rfl

/-- Documents are taken apart by the shape of their type. -/
theorem Ty.build_document (env : Env) (site : Site) (tag : Tag) (d : Decoder) (whole : Ty) :
    ∀ t : Ty, build env t site tag (.document d whole false) =
      t.documentShape.documents env site tag d whole
  | .annotated t ns => by
    rw [build, build_document env site tag d whole t, documentShape, documentShape, shape, shape,
      bare]
    cases t.bare <;> rfl
  | .optional _ t => by
    rw [build, if_neg Bool.false_ne_true, build_inside]
    rfl
  | .scalar _ | .plain _ _ | .enum _ | .model _ _ | .sequence _ _ _ | .row _ _ _
  | .tuple _ _ | .map _ _ _ _ | .keyedOnly _ | .union _ _ | .literal _ | .callable _ _
  | .generic _ _ _ | .ellipsis => by
    rw [build]
    rfl

theorem Ty.isMalformed_iff {t : Ty} : t.isMalformed = true ↔ t.documentShape = .malformed := by
  unfold isMalformed documentShape
  cases hshape : t.shape with
  | optional t' =>
    dsimp only
    cases t'.shape <;> simp
  | _ => simp

/-- A type that is decoded from a document, or the error that there is no decoder for it. -/
theorem Ty.unpacker_document {t : Ty} (hcontent : tag.content ≠ "") :
    t.unpacker env site tag = match env.options.fieldDecoder? tag.content with
      | some d => t.documentShape.documents env site tag d t
      | none => .error (.missingDecoder tag.content (.onField site.field)) := by
  rw [unpacker, Env.mode, if_neg hcontent]
  cases env.options.fieldDecoder? tag.content with
  | none => rfl
  | some d => exact build_document env site tag d t t

theorem Ty.unpacker_plain {t : Ty} (hcontent : tag.content = "") :
    t.unpacker env site tag = Ty.build env t site tag .own := by
  rw [unpacker, Env.mode, if_pos hcontent]
  rfl

/-- What occurs once is one document. -/
theorem Shape.documents_once (honce : site.explodes tag = false) :
    ∀ s : Shape, s ≠ .malformed →
      s.documents env site tag d whole = .ok (.single (site.decodeDocument tag.content d whole))
  | .slice c e, _ => by
    rw [documents, Ty.documentList, honce]
    rfl
  | .map k v, _ => by
    rw [documents, honce]
    rfl
  | .malformed, h => absurd rfl h
  | .primitive _ _, _ | .optional _, _ | .array _, _ | .struct _ _, _ | .unsupported, _ => rfl

/-- A single element is decoded as any other type with its tag. -/
theorem Ty.documentElement_eq {t : Ty} (hcontent : tag.content ≠ "")
    (hd : env.options.fieldDecoder? tag.content = some d)
    (honce : site.explodes tag = false) :
    documentElement site tag d t = t.unpacker env site tag >>= site.element t := by
  rw [unpacker_document hcontent, hd, documentElement]
  dsimp only
  by_cases hmalformed : t.isMalformed = true
  · rw [if_pos hmalformed, isMalformed_iff.mp hmalformed]
    rfl
  · rw [if_neg hmalformed,
      Shape.documents_once honce _ fun h => hmalformed (isMalformed_iff.mpr h)]
    rfl

end Documents

end ParamBinding
