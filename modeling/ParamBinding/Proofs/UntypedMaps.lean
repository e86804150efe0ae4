import ParamBinding.Proofs.BuilderFailures
import ParamBinding.Proofs.OptionLegality

/-!
# Maps without a type for their values

Where a map type without a type for its values keeps a model from being compiled can be said
exactly. Building a part leads to one part after the other, as long as everything before is in order
(`Part.Leads`), and it fails in the way that no class of errors stands for when it leads to such a
map type (`Part.unpacker_eq_missing`). So a model is compiled, declined or rejected with an error of
a class unless the first thing that is wrong with it is such a map type (`Ty.compile_answers`).
-/

namespace ParamBinding

/-! ### Ways to such a map type -/

namespace Part

/-- A map type without a type for its values, where the shape of a type is looked at. -/
inductive IsUntyped (env : Env) (q : Part) : Prop where
  | own (hcontent : q.tag.content = "") (hshape : q.type.core.shape = .malformed)
  | document (hcontent : q.tag.content ≠ "")
      (hdecoder : (env.options.fieldDecoder? q.tag.content).isSome)
      (hshape : q.type.documentShape = .malformed)

/-- A part can be built. -/
def IsBuilt (env : Env) (q : Part) : Prop := ∃ u, q.unpacker env = .ok u

/-- A part that building another one leads to: everything that comes before it is in order. -/
inductive Leads (env : Env) (p : Part) : Part → Prop where
  | element {c : Collection} {e : Ty} (h : p.Splits env (.slice c e))
      (hcheck : p.site.checkCompound p.tag = .ok ()) (hdeep : p.tag.deepObject = false) :
    Leads env p ⟨e, p.site, p.tag.withoutExplode⟩
  | place {before : List Ty} {e : Ty} {after : List Ty}
      (h : p.Splits env (.array (before ++ e :: after)))
      (hcheck : p.site.checkCompound p.tag = .ok ()) (hdeep : p.tag.deepObject = false)
      (hbefore : ∀ e' ∈ before, IsBuilt env ⟨e', p.site, p.tag.withoutExplode⟩) :
    Leads env p ⟨e, p.site, p.tag.withoutExplode⟩
  | key {k v : Ty} (h : p.Splits env (.map k v))
      (hcheck : p.site.checkCompound p.tag = .ok ()) :
    Leads env p ⟨k, p.site, p.tag.withoutExplode.withoutDeepObject⟩
  | value {k v : Ty} (h : p.Splits env (.map k v))
      (hcheck : p.site.checkCompound p.tag = .ok ())
      (hkey : IsBuilt env ⟨k, p.site, p.tag.withoutExplode.withoutDeepObject⟩) :
    Leads env p ⟨v, p.site,
      if p.tag.deepObject then p.tag.withoutDeepObject else p.tag.withoutExplode⟩
  | member {head : ModelHead} {before : List (Member Ty)} {m : Member Ty}
      {after : List (Member Ty)} (h : p.Splits env (.struct head (before ++ m :: after)))
      (hcheck : p.site.checkCompound p.tag = .ok ()) {targets : List MemberTarget}
      (hbefore : Ty.buildMembers env before p.site.place p.tag.deepObject [] = .ok targets)
      {tag : Tag} (htag : Tag.read true ((m.tag? env.options.tagKey).getD "") = .ok tag)
      (hskip : tag.base ≠ "-") (hkey : Ty.memberKey tag m.name ∉ targets.map (·.key))
      (hdeep : tag.deepObject = false) :
    Leads env p ⟨m.type, ⟨m.name, Ty.memberKey tag m.name, p.site.place⟩,
      if p.tag.deepObject then tag else tag.withoutExplode⟩
  | documentElement {c : Collection} {e : Ty} (h : p.SplitsDocuments (.slice c e))
      (hdecoder : (env.options.fieldDecoder? p.tag.content).isSome) :
    Leads env p ⟨e, p.site, p.tag.withoutExplode⟩
  | documentKey {k v : Ty} (h : p.SplitsDocuments (.map k v))
      (hdecoder : (env.options.fieldDecoder? p.tag.content).isSome) :
    Leads env p ⟨k, p.site, p.tag.withoutExplode.withoutContent.withoutDeepObject⟩
  | documentValue {k v : Ty} (h : p.SplitsDocuments (.map k v))
      (hdecoder : (env.options.fieldDecoder? p.tag.content).isSome)
      (hkey : IsBuilt env ⟨k, p.site, p.tag.withoutExplode.withoutContent.withoutDeepObject⟩) :
    Leads env p ⟨v, p.site, p.tag.withoutExplode⟩

variable {env : Env} {p q : Part} {c : Collection} {e k v : Ty} {es : List Ty} {head : ModelHead}
  {ms : List (Member Ty)}

/-! #### Parts of a type that splits -/

namespace Splits

/-- A type that splits is built as it is without what is around it. -/
theorem eq_build {s : Shape} (h : p.Splits env s) :
    p.type.core.bareReader? env.registry = none ∧ ∃ b noted,
      p.unpacker env = Ty.build env p.type.core p.site p.tag (.plain b noted) := by
  obtain ⟨b, noted, hcore⟩ := Ty.build_core env p.site p.tag p.type none none
  refine ⟨by rw [← Ty.reader?_core, h.reader], b, noted, ?_⟩
  rw [unpacker, Ty.unpacker_plain h.content]
  exact hcore

/-- What is in a part of a type that splits is not given as documents. -/
theorem part_eq {s : Shape} (h : p.Splits env s) {tag : Tag} (htag : tag.content = p.tag.content) :
    (Part.mk e p.site tag).unpacker env = Ty.build env e p.site tag .own :=
  Ty.unpacker_plain (htag.trans h.content)

theorem slice_eq_missing (h : p.Splits env (.slice c e)) :
    p.unpacker env = .error .missingTypeArgument ↔
      p.site.checkCompound p.tag = .ok () ∧ p.tag.deepObject = false ∧
        (Part.mk e p.site p.tag.withoutExplode).unpacker env = .error .missingTypeArgument := by
  obtain ⟨hreader, b, noted, hbuild⟩ := h.eq_build
  have hpart : (Part.mk e p.site p.tag.withoutExplode).unpacker env =
      Ty.build env e p.site p.tag.withoutExplode .own := h.part_eq rfl
  have hf : ∀ u, (do
      let elem ← p.site.element e u
      .ok (p.site.listUnpacker p.tag (gather c elem))) ≠ .error .missingTypeArgument := by
    intro u hu
    obtain ⟨_, -, hu⟩ := (bind_eq_missing (Site.element_ne_missing u)).mp hu
    cases hu
  rw [hbuild, hpart]
  rcases Ty.core_eq_of_slice h.shape with ⟨n, spelled, ht, rfl⟩ | ⟨builtin, form, ht, rfl⟩
  all_goals
    rw [ht] at hreader ⊢
    rw [Ty.build, Ty.readOr_of_none hreader]
    exact buildSequence_eq_missing hf

theorem array_eq_missing (h : p.Splits env (.array es)) :
    p.unpacker env = .error .missingTypeArgument ↔
      p.site.checkCompound p.tag = .ok () ∧ p.tag.deepObject = false ∧
        ∃ before e after, es = before ++ e :: after ∧
          (∀ e' ∈ before, IsBuilt env ⟨e', p.site, p.tag.withoutExplode⟩) ∧
          (Part.mk e p.site p.tag.withoutExplode).unpacker env = .error .missingTypeArgument := by
  obtain ⟨hreader, b, noted, hbuild⟩ := h.eq_build
  obtain ⟨builtin, ht⟩ := Ty.core_eq_of_array h.shape
  have hpart : ∀ e : Ty, (Part.mk e p.site p.tag.withoutExplode).unpacker env =
      Ty.build env e p.site p.tag.withoutExplode .own := fun e => h.part_eq rfl
  have hsequence : p.unpacker env = .error .missingTypeArgument ↔
      p.site.checkCompound p.tag = .ok () ∧ p.tag.deepObject = false ∧
        Ty.buildSlots env es p.site p.tag.withoutExplode = .error .missingTypeArgument := by
    rw [ht] at hreader
    rw [hbuild, ht, Ty.build, Ty.readOr_of_none hreader]
    exact buildSequence_eq_missing (by rintro slots ⟨⟩)
  rw [hsequence]
  refine and_congr_right fun _ => and_congr_right fun hdeep => ?_
  simp only [IsBuilt, hpart]
  exact Ty.buildSlots_eq_missing (Site.explodes_withoutExplode _ _) hdeep

theorem map_eq_missing (h : p.Splits env (.map k v)) :
    p.unpacker env = .error .missingTypeArgument ↔
      p.site.checkCompound p.tag = .ok () ∧
        ((Part.mk k p.site p.tag.withoutExplode.withoutDeepObject).unpacker env =
            .error .missingTypeArgument ∨
          IsBuilt env ⟨k, p.site, p.tag.withoutExplode.withoutDeepObject⟩ ∧
            (Part.mk v p.site
              (if p.tag.deepObject then p.tag.withoutDeepObject else p.tag.withoutExplode)).unpacker
                env = .error .missingTypeArgument) := by
  obtain ⟨hreader, b, noted, hbuild⟩ := h.eq_build
  obtain ⟨n, spelled, ht⟩ := Ty.core_eq_of_map h.shape
  have hkey : (Part.mk k p.site p.tag.withoutExplode.withoutDeepObject).unpacker env =
      Ty.build env k p.site p.tag.withoutExplode.withoutDeepObject .own := h.part_eq rfl
  have hvalue : (Part.mk v p.site
      (if p.tag.deepObject then p.tag.withoutDeepObject else p.tag.withoutExplode)).unpacker env =
      Ty.build env v p.site
        (if p.tag.deepObject then p.tag.withoutDeepObject else p.tag.withoutExplode) .own :=
    h.part_eq (by split <;> rfl)
  rw [ht] at hreader
  rw [IsBuilt, hkey, hvalue, hbuild, ht, Ty.build, Ty.readOr_of_none hreader]
  exact buildMap_eq_missing

theorem struct_eq_missing (h : p.Splits env (.struct head ms)) :
    p.unpacker env = .error .missingTypeArgument ↔
      p.site.checkCompound p.tag = .ok () ∧
        Ty.buildMembers env ms p.site.place p.tag.deepObject [] =
          .error .missingTypeArgument := by
  obtain ⟨hreader, b, noted, hbuild⟩ := h.eq_build
  have ht := Ty.core_eq_of_struct h.shape
  rw [ht] at hreader
  rw [hbuild, ht, Ty.build, Ty.readOr_of_none hreader,
    bind_eq_missing Site.checkCompound_ne_missing]
  constructor
  · rintro ⟨_, hcheck, h⟩
    refine ⟨hcheck, ?_⟩
    obtain h | ⟨targets, -, h⟩ := bind_eq_error.mp h
    · exact h
    dsimp only at h
    split at h
    · obtain ⟨_, -, h⟩ := (bind_eq_missing Site.checkDeepObject_ne_missing).mp h
      cases h
    · cases h
  · rintro ⟨hcheck, h⟩
    exact ⟨(), hcheck, bind_eq_error.mpr (.inl h)⟩

end Splits

/-! #### Parts of documents -/

namespace SplitsDocuments

variable {d : Decoder}

/-- A type whose documents are given one by one is built by its shape. -/
theorem eq_documents {s : Shape} (h : p.SplitsDocuments s)
    (hd : env.options.fieldDecoder? p.tag.content = some d) :
    p.unpacker env = s.documents env p.site p.tag d p.type := by
  rw [unpacker, Ty.unpacker_document h.content, hd, h.shape]

/-- What is wrong with a single element is wrong with it as a part. -/
theorem element_eq_missing {s : Shape} (h : p.SplitsDocuments s)
    (hd : env.options.fieldDecoder? p.tag.content = some d) :
    Ty.documentElement p.site p.tag.withoutExplode d e = .error .missingTypeArgument ↔
      (Part.mk e p.site p.tag.withoutExplode).unpacker env = .error .missingTypeArgument := by
  have hcontent : p.tag.withoutExplode.content ≠ "" := h.content
  rw [Ty.documentElement_eq hcontent hd (Site.explodes_withoutExplode _ _), bind_eq_error]
  exact or_iff_left fun ⟨u, _, hu⟩ => Site.element_ne_missing u hu

theorem slice_eq_missing (h : p.SplitsDocuments (.slice c e))
    (hd : env.options.fieldDecoder? p.tag.content = some d) :
    p.unpacker env = .error .missingTypeArgument ↔
      (Part.mk e p.site p.tag.withoutExplode).unpacker env = .error .missingTypeArgument := by
  rw [h.eq_documents hd, Shape.documents, Ty.documentList, if_pos h.explodes, bind_eq_error,
    h.element_eq_missing hd]
  exact or_iff_left (by rintro ⟨_, _, ⟨⟩⟩)

theorem map_eq_missing (h : p.SplitsDocuments (.map k v))
    (hd : env.options.fieldDecoder? p.tag.content = some d) :
    p.unpacker env = .error .missingTypeArgument ↔
      (Part.mk k p.site p.tag.withoutExplode.withoutContent.withoutDeepObject).unpacker env =
          .error .missingTypeArgument ∨
        IsBuilt env ⟨k, p.site, p.tag.withoutExplode.withoutContent.withoutDeepObject⟩ ∧
          (Part.mk v p.site p.tag.withoutExplode).unpacker env = .error .missingTypeArgument := by
  have hkey : (Part.mk k p.site
      p.tag.withoutExplode.withoutContent.withoutDeepObject).unpacker env =
      Ty.build env k p.site p.tag.withoutExplode.withoutContent.withoutDeepObject .own :=
    Ty.unpacker_plain rfl
  rw [h.eq_documents hd, Shape.documents, if_pos h.explodes, documentMap_eq_missing,
    h.element_eq_missing hd, IsBuilt, hkey]

end SplitsDocuments

/-! #### Any part -/

/-- Such a map type fails wherever its shape is looked at. -/
theorem IsUntyped.eq_missing (h : q.IsUntyped env) :
    q.unpacker env = .error .missingTypeArgument := by
  cases h with
  | own hcontent hshape =>
    rw [unpacker, Ty.unpacker_plain hcontent]
    exact Ty.build_malformed hshape
  | document hcontent hdecoder hshape =>
    obtain ⟨d, hd⟩ := Option.isSome_iff_exists.mp hdecoder
    rw [unpacker, Ty.unpacker_document hcontent, hd, hshape]
    rfl

/-- What a part leads to fails the part. -/
theorem Leads.eq_missing (h : Leads env p q) (hq : q.unpacker env = .error .missingTypeArgument) :
    p.unpacker env = .error .missingTypeArgument := by
  cases h with
  | element h hcheck hdeep => exact h.slice_eq_missing.mpr ⟨hcheck, hdeep, hq⟩
  | place h hcheck hdeep hbefore =>
    exact h.array_eq_missing.mpr ⟨hcheck, hdeep, _, _, _, rfl, hbefore, hq⟩
  | key h hcheck => exact h.map_eq_missing.mpr ⟨hcheck, .inl hq⟩
  | value h hcheck hkey => exact h.map_eq_missing.mpr ⟨hcheck, .inr ⟨hkey, hq⟩⟩
  | member h hcheck hbefore htag hskip hkey hdeep =>
    refine h.struct_eq_missing.mpr ⟨hcheck, Ty.buildMembers_eq_missing.mpr ?_⟩
    exact ⟨_, _, _, _, _, rfl, hbefore, htag, hskip, hkey, hdeep, hq⟩
  | documentElement h hdecoder =>
    obtain ⟨d, hd⟩ := Option.isSome_iff_exists.mp hdecoder
    exact (h.slice_eq_missing hd).mpr hq
  | documentKey h hdecoder =>
    obtain ⟨d, hd⟩ := Option.isSome_iff_exists.mp hdecoder
    exact (h.map_eq_missing hd).mpr (.inl hq)
  | documentValue h hdecoder hkey =>
    obtain ⟨d, hd⟩ := Option.isSome_iff_exists.mp hdecoder
    exact (h.map_eq_missing hd).mpr (.inr ⟨hkey, hq⟩)

/-- A part without documents that fails is such a map type, or leads to a part that fails. -/
theorem exists_leads_of_own (hcontent : p.tag.content = "")
    (hp : p.unpacker env = .error .missingTypeArgument) :
    p.IsUntyped env ∨ ∃ q, Leads env p q ∧ q.unpacker env = .error .missingTypeArgument := by
  have hbuild := hp
  rw [unpacker, Ty.unpacker_plain hcontent] at hbuild
  have hsplits : ∀ {s : Shape}, p.type.core.shape = s → s.isCompound = true →
      p.Splits env s := by
    intro s hshape hs
    refine ⟨hcontent, ?_, hshape⟩
    cases hreader : p.type.core.reader? env.registry with
    | none => rfl
    | some r =>
      refine absurd hbuild (Ty.build_ne_missing (.inl (by rw [hreader]; rfl)) ?_)
      rw [hshape]
      rintro rfl
      cases hs
  cases hshape : p.type.core.shape with
  | slice c e =>
    have h := hsplits hshape rfl
    obtain ⟨hcheck, hdeep, hq⟩ := h.slice_eq_missing.mp hp
    exact .inr ⟨_, .element h hcheck hdeep, hq⟩
  | array es =>
    have h := hsplits hshape rfl
    obtain ⟨hcheck, hdeep, before, e, after, rfl, hbefore, hq⟩ := h.array_eq_missing.mp hp
    exact .inr ⟨_, .place h hcheck hdeep hbefore, hq⟩
  | map k v =>
    have h := hsplits hshape rfl
    obtain ⟨hcheck, hq | ⟨hkey, hq⟩⟩ := h.map_eq_missing.mp hp
    · exact .inr ⟨_, .key h hcheck, hq⟩
    · exact .inr ⟨_, .value h hcheck hkey, hq⟩
  | struct head ms =>
    have h := hsplits hshape rfl
    obtain ⟨hcheck, hmembers⟩ := h.struct_eq_missing.mp hp
    obtain ⟨before, m, after, targets, tag, rfl, hbefore, htag, hskip, hkey, hdeep, hq⟩ :=
      Ty.buildMembers_eq_missing.mp hmembers
    exact .inr ⟨_, .member h hcheck hbefore htag hskip hkey hdeep, hq⟩
  | malformed => exact .inl (.own hcontent hshape)
  | primitive _ _ | optional _ | unsupported =>
    refine absurd hbuild (Ty.build_ne_missing (.inr ?_) ?_) <;> rw [hshape]
    · rfl
    · rintro ⟨⟩

/-- A part given as documents that fails is such a map type, or leads to a part that fails. -/
theorem exists_leads_of_document (hcontent : p.tag.content ≠ "")
    (hp : p.unpacker env = .error .missingTypeArgument) :
    p.IsUntyped env ∨ ∃ q, Leads env p q ∧ q.unpacker env = .error .missingTypeArgument := by
  have hdocuments := hp
  rw [unpacker, Ty.unpacker_document hcontent] at hdocuments
  cases hd : env.options.fieldDecoder? p.tag.content with
  | none =>
    rw [hd] at hdocuments
    cases hdocuments
  | some d =>
    rw [hd] at hdocuments
    dsimp only at hdocuments
    have hdecoder : (env.options.fieldDecoder? p.tag.content).isSome := by
      rw [hd]
      rfl
    by_cases hmalformed : p.type.documentShape = .malformed
    · exact .inl (.document hcontent hdecoder hmalformed)
    cases hexplodes : p.site.explodes p.tag with
    | false =>
      rw [Shape.documents_once hexplodes _ hmalformed] at hdocuments
      cases hdocuments
    | true =>
      cases hshape : p.type.documentShape with
      | slice c e =>
        have h : p.SplitsDocuments (.slice c e) := ⟨hcontent, hexplodes, hshape⟩
        exact .inr ⟨_, .documentElement h hdecoder, (h.slice_eq_missing hd).mp hp⟩
      | map k v =>
        have h : p.SplitsDocuments (.map k v) := ⟨hcontent, hexplodes, hshape⟩
        obtain hq | ⟨hkey, hq⟩ := (h.map_eq_missing hd).mp hp
        · exact .inr ⟨_, .documentKey h hdecoder, hq⟩
        · exact .inr ⟨_, .documentValue h hdecoder hkey, hq⟩
      | malformed => exact absurd hshape hmalformed
      | _ =>
        rw [hshape] at hdocuments
        cases hdocuments

/-- **One step.** A part fails in this way when it is such a map type, or leads to a part that
fails. -/
theorem exists_leads (hp : p.unpacker env = .error .missingTypeArgument) :
    p.IsUntyped env ∨ ∃ q, Leads env p q ∧ q.unpacker env = .error .missingTypeArgument := by
  by_cases hcontent : p.tag.content = ""
  · exact exists_leads_of_own hcontent hp
  · exact exists_leads_of_document hcontent hp

end Part

/-! ### All steps

The parts of a type are smaller than the type, so the steps come to an end. -/

namespace Shape

/-- The types of the parts of a shape. -/
def parts : Shape → List Ty
  | slice _ e => [e]
  | array es => es
  | map k v => [k, v]
  | struct _ ms => ms.map (·.type)
  | _ => []

end Shape

namespace Ty

variable {t e : Ty} {s : Shape}

theorem sizeOf_core_le : ∀ t : Ty, sizeOf t.core ≤ sizeOf t
  | .annotated t ns => by
    have h := sizeOf_core_le t
    rw [core, annotated.sizeOf_spec]
    omega
  | .optional f t => by
    have h := sizeOf_core_le t
    rw [core, optional.sizeOf_spec]
    omega
  | .scalar _ | .plain _ _ | .enum _ | .model _ _ | .sequence _ _ _ | .row _ _ _ | .tuple _ _
  | .map _ _ _ _ | .keyedOnly _ | .union _ _ | .literal _ | .callable _ _ | .generic _ _ _
  | .ellipsis => Nat.le_refl _

theorem sizeOf_lt_of_mem_parts (he : e ∈ t.core.shape.parts) : sizeOf e < sizeOf t := by
  refine Nat.lt_of_lt_of_le ?_ (sizeOf_core_le t)
  generalize hshape : t.core.shape = s at he
  cases s with
  | slice c e' =>
    obtain rfl := List.mem_singleton.mp he
    obtain ⟨n, spelled, ht, -⟩ | ⟨builtin, form, ht, -⟩ := core_eq_of_slice hshape
    · rw [ht, sequence.sizeOf_spec]
      omega
    · rw [ht, row.sizeOf_spec]
      omega
  | array es =>
    obtain ⟨builtin, ht⟩ := core_eq_of_array hshape
    have hlt : sizeOf e < sizeOf es := List.sizeOf_lt_of_mem he
    rw [ht, tuple.sizeOf_spec]
    omega
  | map k v =>
    obtain ⟨n, spelled, ht⟩ := core_eq_of_map hshape
    rw [ht, map.sizeOf_spec]
    obtain rfl | rfl := List.mem_pair.mp he <;> omega
  | struct head ms =>
    obtain ⟨m, hm, rfl⟩ := List.mem_map.mp he
    have hlt := List.sizeOf_lt_of_mem hm
    have htype : sizeOf m.type < sizeOf m := by
      cases m
      rw [Member.mk.sizeOf_spec]
      dsimp only
      omega
    rw [core_eq_of_struct hshape, model.sizeOf_spec]
    omega
  | _ => cases he

/-- Notes around a type only tell something about the numbers it reads. -/
theorem shape_of_annotated {ns : List Note} (h : (annotated t ns).shape = s)
    (hs : ∀ k b, s ≠ .primitive k b) : t.shape = s := by
  rw [shape, bare] at h
  rw [shape]
  cases hbare : t.bare with
  | scalar k =>
    rw [hbare] at h
    exact absurd h.symm (hs _ _)
  | _ =>
    rw [hbare] at h
    exact h

/-- What is inside an optional type is what is left without it. -/
theorem core_of_shape_optional {u : Ty} : ∀ {t : Ty}, t.shape = .optional u → t.core = u.core
  | .annotated t ns, h => core_of_shape_optional (t := t) (shape_of_annotated h nofun)
  | .optional f t, h => by
    cases h
    rfl
  | .scalar _, h | .plain _ _, h | .enum _, h | .model _ _, h | .sequence _ _ _, h
  | .row _ _ _, h | .tuple _ _, h | .map _ _ _ _, h | .keyedOnly _, h | .union _ _, h
  | .literal _, h | .callable _ _, h | .generic _ _ _, h | .ellipsis, h => by cases h

section Outer

variable (hnumber : ∀ k b, s ≠ .primitive k b) (hoptional : ∀ u, s ≠ .optional u)
include hnumber hoptional

/-- Other shapes than those of numbers and optional types are those of the type without what is
around it. -/
theorem core_shape_of_shape : ∀ {t : Ty}, t.shape = s → t.core.shape = s
  | .annotated t _, h => core_shape_of_shape (t := t) (shape_of_annotated h hnumber)
  | .optional _ t, h => absurd h.symm (hoptional t)
  | .scalar _, h | .plain _ _, h | .enum _, h | .model _ _, h | .sequence _ _ _, h
  | .row _ _ _, h | .tuple _ _, h | .map _ _ _ _, h | .keyedOnly _, h | .union _ _, h
  | .literal _, h | .callable _ _, h | .generic _ _ _, h | .ellipsis, h => h

theorem core_shape_of_documentShape (h : t.documentShape = s) : t.core.shape = s := by
  rw [documentShape] at h
  cases hshape : t.shape with
  | optional u =>
    rw [hshape] at h
    rw [core_of_shape_optional hshape]
    exact core_shape_of_shape hnumber hoptional h
  | _ =>
    rw [hshape] at h
    exact core_shape_of_shape hnumber hoptional (hshape.trans h)

end Outer

/-- A type is in another one: it is the type itself, or it is in the type of a part. -/
def In : Ty → Ty → Prop := Relation.ReflTransGen fun e t => e ∈ t.core.shape.parts

end Ty

namespace Part

variable {env : Env} {p q : Part}

/-- What a part leads to is a part of its type. -/
theorem Leads.mem_parts (h : Leads env p q) : q.type ∈ p.type.core.shape.parts := by
  have hdocument : ∀ {s : Shape}, p.SplitsDocuments s → (∀ k b, s ≠ .primitive k b) →
      (∀ u, s ≠ .optional u) → p.type.core.shape = s := fun h hnumber hoptional =>
    Ty.core_shape_of_documentShape hnumber hoptional h.shape
  cases h with
  | element h | key h =>
    rw [h.shape]
    exact List.mem_cons_self
  | place h =>
    rw [h.shape]
    exact List.mem_append_right _ List.mem_cons_self
  | value h =>
    rw [h.shape]
    exact List.mem_cons_of_mem _ List.mem_cons_self
  | member h =>
    rw [h.shape]
    exact List.mem_map_of_mem (List.mem_append_right _ List.mem_cons_self)
  | documentElement h | documentKey h =>
    rw [hdocument h nofun nofun]
    exact List.mem_cons_self
  | documentValue h =>
    rw [hdocument h nofun nofun]
    exact List.mem_cons_of_mem _ List.mem_cons_self

/-- What a part leads to, in any number of steps, is in its type. -/
theorem type_in_of_leads (h : Relation.ReflTransGen (Leads env) p q) : q.type.In p.type := by
  induction h with
  | refl => exact .refl
  | tail _ hleads ih => exact .head hleads.mem_parts ih

/-- Building a part leads to such a map type. -/
def MeetsUntyped (env : Env) (p : Part) : Prop :=
  ∃ q, Relation.ReflTransGen (Leads env) p q ∧ q.IsUntyped env

/-- What building a part leads to is in its type. -/
theorem MeetsUntyped.exists_in (h : p.MeetsUntyped env) :
    ∃ u : Ty, u.In p.type ∧ u.core.shape = .malformed := by
  obtain ⟨q, hreach, hq⟩ := h
  refine ⟨q.type, type_in_of_leads hreach, ?_⟩
  cases hq with
  | own hcontent hshape => exact hshape
  | document hcontent hdecoder hshape =>
    exact Ty.core_shape_of_documentShape nofun nofun hshape

/-- **All steps.** A part fails in this way exactly when building it leads to such a map type. -/
theorem unpacker_eq_missing :
    p.unpacker env = .error .missingTypeArgument ↔ p.MeetsUntyped env := by
  constructor
  · intro hp
    induction hn : sizeOf p.type using Nat.strong_induction_on generalizing p with
    | _ n ih =>
      obtain huntyped | ⟨q, hleads, hq⟩ := exists_leads hp
      · exact ⟨p, .refl, huntyped⟩
      · obtain ⟨r, hreach, hr⟩ := ih _ (hn ▸ Ty.sizeOf_lt_of_mem_parts hleads.mem_parts) hq rfl
        exact ⟨r, .head hleads hreach, hr⟩
  · rintro ⟨q, hreach, hq⟩
    induction hreach using Relation.ReflTransGen.head_induction_on with
    | refl => exact hq.eq_missing
    | head hleads _ ih => exact hleads.eq_missing ih

end Part

/-! ### Models -/

section Models

variable {env : Env} {t : Ty} {h : ModelHead} {ms : List (Member Ty)} {m : Member Ty} {tag : Tag}
  {model : String}

/-- Building a field leads to such a map type, after fields that are in order: it is to be filled
from a parameter that is not taken by them. -/
structure Member.MeetsUntyped (env : Env) (before : List (Member Ty)) (m : Member Ty) (tag : Tag) :
    Prop where
  own : m.ownTag? env.options.tagKey = some tag
  skip : tag.base ≠ "-"
  body : tag.base ≠ "model"
  free : (m.site tag).name ∉
    ((bindings env before).filter (·.place = (m.site tag).place)).map (·.filler.name)
  meets : (m.part tag).MeetsUntyped env

/-- The first thing that is wrong with a type is a map type without a type for its values: the type
itself, or one that building a field of the model leads to. -/
inductive Ty.MeetsUntyped (env : Env) (t : Ty) : Prop where
  | itself (hshape : t.documentShape = .malformed)
  | field {h : ModelHead} {before : List (Member Ty)} {m : Member Ty} {after : List (Member Ty)}
      {tag : Tag} (hmodel : t.documentShape = .struct h (before ++ m :: after))
      (hbefore : InOrder env before) (hfield : m.MeetsUntyped env before tag)

/-- What is wrong with the type is in it. -/
theorem Ty.MeetsUntyped.exists_in (ht : t.MeetsUntyped env) :
    ∃ u : Ty, u.In t ∧ u.core.shape = .malformed := by
  cases ht with
  | itself hshape => exact ⟨t, .refl, core_shape_of_documentShape nofun nofun hshape⟩
  | @field h before m after tag hmodel hbefore hfield =>
    obtain ⟨u, hu, hshape⟩ := hfield.meets.exists_in
    have hcore : t.core.shape = .struct h (before ++ m :: after) :=
      core_shape_of_documentShape nofun nofun hmodel
    refine ⟨u, hu.tail ?_, hshape⟩
    rw [hcore]
    exact List.mem_map_of_mem (List.mem_append_right _ List.mem_cons_self)

/-- A field fails in this way when building it leads to such a map type. -/
theorem Fillers.addMember_eq_missing {before : List (Member Ty)} :
    (declared env before).addMember env model m = .error .missingTypeArgument ↔
      ∃ tag, m.MeetsUntyped env before tag := by
  have hnone : m.ownTag? env.options.tagKey = none → ¬ ∃ tag, m.MeetsUntyped env before tag := by
    rintro hown ⟨tag, htag⟩
    rw [htag.own] at hown
    cases hown
  cases ht : m.tag? env.options.tagKey with
  | none =>
    rw [addMember_untagged ht]
    exact iff_of_false (by rintro ⟨⟩) (hnone (by simp [Member.ownTag?, ht]))
  | some text =>
    cases hr : Tag.read false text with
    | error p =>
      rw [addMember_unreadable ht hr]
      exact iff_of_false (by rintro ⟨⟩) (hnone (by simp [Member.ownTag?, ht, hr, Except.toOption]))
    | ok tag =>
      have hown : m.ownTag? env.options.tagKey = some tag :=
        Member.ownTag?_eq_some.mpr ⟨text, ht, hr⟩
      have honly : (∃ tag', m.MeetsUntyped env before tag') ↔ m.MeetsUntyped env before tag := by
        refine ⟨?_, fun htag => ⟨tag, htag⟩⟩
        rintro ⟨tag', htag'⟩
        obtain rfl := Option.some.inj (htag'.own.symm.trans hown)
        exact htag'
      rw [addMember_tagged ht hr, honly]
      by_cases hskip : tag.base = "-"
      · rw [addTagged, if_pos hskip]
        exact iff_of_false (by rintro ⟨⟩) fun htag => htag.skip hskip
      by_cases hbody : tag.base = "model"
      · rw [addTagged, if_neg hskip, if_pos hbody, addBody]
        exact iff_of_false (by split <;> rintro ⟨⟩) fun htag => htag.body hbody
      have hplace : ∀ s, (m.site tag).place ≠ .other s := place_of_read hr hskip hbody
      have hnames := mem_namesOf_ofBindings env (bodies env before).head? (bindings env before)
        hplace (m.site tag).name
      rw [addTagged_parameter hskip hbody, declared]
      by_cases hfree : (m.site tag).name ∈
          ((bindings env before).filter (·.place = (m.site tag).place)).map (·.filler.name)
      · rw [if_pos (List.contains_iff_mem.mpr (hnames.mpr hfree))]
        exact iff_of_false (by rintro ⟨⟩) fun htag => htag.free hfree
      · rw [if_neg fun h => hfree (hnames.mp (List.contains_iff_mem.mp h)), bind_eq_error]
        constructor
        · rintro (hu | ⟨u, -, ⟨⟩⟩)
          exact ⟨hown, hskip, hbody, hfree, Part.unpacker_eq_missing.mp hu⟩
        · exact fun htag => .inl (Part.unpacker_eq_missing.mpr htag.meets)

/-- The first field that is not in order decides whether a model fails in this way. -/
theorem ModelHead.compile_eq_missing :
    h.compile env ms = .error .missingTypeArgument ↔
      ∃ before m after tag, ms = before ++ m :: after ∧ InOrder env before ∧
        m.MeetsUntyped env before tag := by
  have hfields : h.compile env ms = .error .missingTypeArgument ↔
      Fillers.ofMembers env h.cls.name ms = .error .missingTypeArgument := by
    rw [compile, bind_eq_error]
    refine or_iff_left ?_
    rintro ⟨fs, -, hfs⟩
    -- what is checked last concerns the options only
    split at hfs
    · cases hfs
    obtain hcheck | ⟨_, -, ⟨⟩⟩ := bind_eq_error.mp hfs
    obtain ⟨_, _, ⟨⟩⟩ | ⟨_, ⟨⟩⟩ := Fillers.check_eq_error hcheck
  rw [hfields, Fillers.ofMembers, foldlM_eq_error_iff]
  constructor
  · rintro ⟨before, m, after, fs, rfl, hfs, hm⟩
    obtain ⟨hbefore, rfl⟩ := Fillers.ofMembers_eq_ok.mp hfs
    obtain ⟨tag, htag⟩ := Fillers.addMember_eq_missing.mp hm
    exact ⟨before, m, after, tag, rfl, hbefore, htag⟩
  · rintro ⟨before, m, after, tag, rfl, hbefore, htag⟩
    exact ⟨before, m, after, _, rfl, Fillers.ofMembers_eq_ok.mpr ⟨hbefore, rfl⟩,
      Fillers.addMember_eq_missing.mpr ⟨tag, htag⟩⟩

theorem Ty.compile_eq_missing :
    t.compile env = .error .missingTypeArgument ↔ t.MeetsUntyped env := by
  rw [Ty.compile_eq_compile]
  constructor
  · intro ht
    cases hshape : t.documentShape with
    | malformed => exact .itself hshape
    | struct h ms =>
      rw [hshape] at ht
      obtain ⟨before, m, after, tag, rfl, hbefore, hfield⟩ := ModelHead.compile_eq_missing.mp ht
      exact .field hshape hbefore hfield
    | _ =>
      rw [hshape] at ht
      cases ht
  · rintro (hshape | ⟨hmodel, hbefore, hfield⟩)
    · rw [hshape]
      rfl
    · rw [hmodel]
      exact ModelHead.compile_eq_missing.mpr ⟨_, _, _, _, rfl, hbefore, hfield⟩

end Models

/-- **What compiling answers.** A type is compiled or found to have no binder, or it is rejected
with an error of a class, unless the first thing that is wrong with it is a map type without a type
for its values. What it then fails with is no error of a class. So a type that has no such map type
in it is always answered. -/
theorem Ty.compile_answers (env : Env) (t : Ty) :
    (((∃ c, t.compile env = .ok c) ∨ ∃ e kind, t.compile env = .error e ∧ e.kind? = some kind) ↔
      ¬ t.MeetsUntyped env) ∧
    (t.compile env = .error .missingTypeArgument ↔ t.MeetsUntyped env) ∧
    (t.MeetsUntyped env → ∃ u : Ty, u.In t ∧ u.core.shape = .malformed) := by
  refine ⟨?_, Ty.compile_eq_missing, Ty.MeetsUntyped.exists_in⟩
  rw [← Ty.compile_eq_missing]
  cases hcompile : t.compile env with
  | ok c => exact iff_of_true (.inl ⟨c, rfl⟩) (by rintro ⟨⟩)
  | error e =>
    cases hkind : e.kind? with
    | none =>
      rw [CompileError.kind?_eq_none.mp hkind]
      refine iff_of_false ?_ (fun h => h rfl)
      rintro (⟨c, ⟨⟩⟩ | ⟨e', kind, he', hkind'⟩)
      cases he'
      cases hkind'
    | some kind =>
      refine iff_of_true (.inr ⟨e, kind, rfl, hkind⟩) fun h => ?_
      rw [Except.error.inj h] at hkind
      cases hkind

/-- A model with a parameter of a map type that only says what its keys are. -/
def counted : Ty :=
  .model { cls := { name := "Counted" } }
    [{ name := "totals", type := .keyedOnly .str, tags := [(defaultTagKey, "query")] }]

/-- The model is neither compiled nor rejected with an error of a class. -/
theorem untyped_map_escapes :
    ¬ ∀ (env : Env) (t : Ty), (∃ c, t.compile env = .ok c) ∨
      ∃ e kind, t.compile env = .error e ∧ e.kind? = some kind := by
  intro hall
  have hcompile : counted.compile ⟨{}, []⟩ = .error .missingTypeArgument := rfl
  obtain ⟨c, hc⟩ | ⟨e, kind, he, hkind⟩ := hall ⟨{}, []⟩ counted
  · rw [hcompile] at hc
    cases hc
  · rw [hcompile] at he
    cases he
    cases hkind

end ParamBinding
