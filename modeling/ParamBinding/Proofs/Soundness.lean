import ParamBinding.Proofs.Enumerations
import ParamBinding.Proofs.Pieces
import ParamBinding.Sample

/-!
# Decoders are sound

An unpacker is put together from smaller ones, and at every step what it gives is a value of its
type when the smaller ones give values of theirs. By induction on the type every decoder that can be
built gives values of its type only (`Ty.build_sound`), whatever the texts are and however the tag
wants them written. Zeros, which fill what the texts leave open, have the structure of their types
unless there is no better one than `none`.
-/

namespace ParamBinding

/-! ### Text forms -/

section TextForms

variable {env : Env} {t : Ty} {b : Option Note}

/-- What the text form of a type reads is a value of the type. -/
theorem conforms_of_textForm {reg : Registry} {reader : TextReader}
    (h : t.bare.textForm? reg = some reader) {s : String} {v : Value}
    (hv : reader.read s = .ok v) : Conforms reg t b v := by
  rw [Conforms, Ty.IsReadOr, h]
  exact ⟨s, hv⟩

/-- The values of a type without a text form are those of its structure. -/
theorem conforms_of_formed {reg : Registry} (h : t.bare.textForm? reg = none) {v : Value}
    (hv : Formed reg t b v) : Conforms reg t b v := by
  rw [Conforms, Ty.IsReadOr, h]
  exact hv

/-- The member that a text stands for is declared. -/
theorem TextReader.memberOf?_eq_some {e : EnumType} {s : String} {v : Value}
    (h : memberOf? e s = some v) : ∃ m ∈ e.members, v = .member e.cls.name m.1 := by
  obtain ⟨m, hm, rfl⟩ := exists_of_memberOf? h
  exact ⟨m, e.distinct_sublist.subset hm, rfl⟩

/-- A text form is used wherever there is one. -/
theorem Ty.readOr_of_reader {site : Site} {tag : Tag} {reader : TextReader}
    {other : Except CompileError Unpacker} {u : Unpacker}
    (hreader : t.bareReader? env.registry = some reader)
    (h : t.readOr env site tag other = .ok u) : u = .single reader.read := by
  rw [readOr, hreader] at h
  obtain ⟨_, -, h⟩ := bind_eq_ok.mp h
  cases h
  rfl

theorem Ty.readOr_of_none {site : Site} {tag : Tag} {other : Except CompileError Unpacker}
    (hreader : t.bareReader? env.registry = none) : t.readOr env site tag other = other := by
  rw [readOr, hreader]

/-- A type with a text form is read by it, and any other type as the other decoder says. -/
theorem Ty.readOr_sound (site : Site) (tag : Tag) (hbare : t.bare = t)
    {other : Except CompileError Unpacker} {u : Unpacker}
    (hother : other = .ok u → u.Yields (Formed env.registry t b))
    (h : t.readOr env site tag other = .ok u) : u.Yields (Conforms env.registry t b) := by
  unfold readOr at h
  cases hreader : t.bareReader? env.registry with
  | none =>
    rw [hreader] at h
    have hform := textForm?_of_bareReader?_eq_none hreader
    exact (hother h).imp fun v hv => conforms_of_formed (by rw [hbare, hform]) hv
  | some reader =>
    rw [hreader] at h
    obtain ⟨_, -, h⟩ := bind_eq_ok.mp h
    cases h
    intro s v hv
    -- the text form is the type's own, or that of all enumerations
    rcases Ty.bareReader?_eq_some hreader with hform | ⟨hform, e, rfl, rfl⟩
    · exact conforms_of_textForm (by rw [hbare, hform]) hv
    · refine conforms_of_formed hform ?_
      simp only [TextReader.enum] at hv
      split at hv
      · rename_i w hw
        cases hv
        exact TextReader.memberOf?_eq_some hw
      · cases hv

end TextForms

/-! ### Building -/

/-- Lists of any length are built from the unpacker of their elements. -/
theorem buildList_sound {reg : Registry} {site : Site} {tag : Tag} {t : Ty} {c : Collection}
    {inner : Except CompileError Unpacker} {u : Unpacker}
    (hinner : ∀ eu, inner = .ok eu → eu.Yields (Conforms reg t none))
    (h : (do
      site.checkCompound tag
      if tag.deepObject then .error (site.tagError .deepObjectOnSequence)
      else
        let eu ← inner
        let elem ← site.element t eu
        .ok (site.listUnpacker tag (gather c elem))) = .ok u) :
    u.Yields fun v => ∃ xs, v = c.wrap xs ∧ ∀ x ∈ xs, Conforms reg t none x := by
  obtain ⟨_, -, h⟩ := bind_eq_ok.mp h
  split at h
  · cases h
  obtain ⟨eu, heu, h⟩ := bind_eq_ok.mp h
  obtain ⟨elem, helem, h⟩ := bind_eq_ok.mp h
  cases h
  have hdecode := Site.element_sound (hinner eu heu) helem
  exact Site.listUnpacker_yields fun ss v hv => gather_sound hdecode hv

/-- A nested model is decoded from its keys, or from a list that alternates between keys and values.
Either decoder is built for the fields of the model. -/
theorem buildModel_eq_ok {env : Env} {site : Site} {tag : Tag} {head : ModelHead}
    {ms : List (Member Ty)} {u : Unpacker}
    (h : (do
      site.checkCompound tag
      let targets ← Ty.buildMembers env ms site.place tag.deepObject []
      let d : StructDecoder := ⟨site.place, env.options.strict, head.newInstance ms, targets⟩
      if tag.deepObject then
        site.checkDeepObject
        .ok (Unpacker.deepObject d.unpackKeys)
      else .ok (site.tokenUnpacker tag d.unpackTokens)) = .ok u) :
    ∃ d : StructDecoder, d.BuiltFor env head ms ∧
      (u = .deepObject d.unpackKeys ∨ u = site.tokenUnpacker tag d.unpackTokens) := by
  obtain ⟨_, -, h⟩ := bind_eq_ok.mp h
  obtain ⟨targets, htargets, h⟩ := bind_eq_ok.mp h
  refine ⟨⟨site.place, env.options.strict, head.newInstance ms, targets⟩,
    ⟨rfl, tag.deepObject, htargets⟩, ?_⟩
  dsimp only at h
  split at h
  · obtain ⟨_, -, h⟩ := bind_eq_ok.mp h
    cases h
    exact .inl rfl
  · cases h
    exact .inr rfl

theorem CompileError.ofTag_eq_ok {α : Type} {field text : String} {x : Except Tag.Problem α}
    {a : α} : ofTag field text x = .ok a ↔ x = .ok a := by
  cases x <;> simp [ofTag, Except.mapError]

/-- A tag without a content type leaves texts to the type itself. -/
theorem Env.mode_of_content {env : Env} {site : Site} {tag : Tag} {t : Ty} {mode : Mode}
    (hcontent : tag.content = "") (h : env.mode site tag t = .ok mode) : mode = .own := by
  rw [Env.mode, if_pos hcontent] at h
  cases h
  rfl

mutual

/-- **Soundness.** Whatever the decoder of a type gives is a value of the type. -/
theorem Ty.build_sound (env : Env) : ∀ (t : Ty) {site : Site} {tag : Tag} {b : Option Note}
    {noted : Option Ty} {u : Unpacker}, t.ContentFree env.options.tagKey →
    Ty.build env t site tag (.plain b noted) = .ok u → u.Yields (Conforms env.registry t b)
  | .annotated t ns, site, tag, b, noted, u, hfree, h => by
    rw [Ty.build] at h
    exact (Ty.build_sound env t hfree h).imp fun v hv => hv
  | .optional f t, site, tag, b, noted, u, hfree, h => by
    rw [Ty.build] at h
    refine Ty.readOr_sound site tag rfl (fun h => ?_) h
    exact (Ty.build_sound env t hfree h).imp fun v hv => .inr hv
  | .scalar s, site, tag, b, noted, u, hfree, h => by
    rw [Ty.build] at h
    refine Ty.readOr_sound site tag rfl (fun h => ?_) h
    obtain ⟨_, -, h⟩ := bind_eq_ok.mp h
    cases h
    exact fun s v hv => Scalar.read_exact hv
  | .sequence n t spelled, site, tag, b, noted, u, hfree, h => by
    rw [Ty.build] at h
    refine Ty.readOr_sound site tag rfl (fun h => ?_) h
    exact buildList_sound (fun eu heu => Ty.build_sound env t hfree heu) h
  | .row c t form, site, tag, b, noted, u, hfree, h => by
    rw [Ty.build] at h
    refine Ty.readOr_sound site tag rfl (fun h => ?_) h
    exact buildList_sound (fun eu heu => Ty.build_sound env t hfree heu) h
  | .tuple c ts, site, tag, b, noted, u, hfree, h => by
    rw [Ty.build] at h
    refine Ty.readOr_sound site tag rfl (fun h => ?_) h
    obtain ⟨_, -, h⟩ := bind_eq_ok.mp h
    split at h
    · cases h
    obtain ⟨slots, hslots, h⟩ := bind_eq_ok.mp h
    cases h
    have hfits := Ty.buildSlots_sound env ts hfree hslots
    exact Site.listUnpacker_yields fun _ _ hv => fillTuple_sound hfits hv
  | .map n k t spelled, site, tag, b, noted, u, hfree, h => by
    rw [Ty.build] at h
    refine Ty.readOr_sound site tag rfl (fun h => ?_) h
    obtain ⟨_, -, h⟩ := bind_eq_ok.mp h
    obtain ⟨ku, hku, h⟩ := bind_eq_ok.mp h
    obtain ⟨key, hkey, h⟩ := bind_eq_ok.mp h
    obtain ⟨value, hvalue, h⟩ := bind_eq_ok.mp h
    have hkey := Site.element_sound (Ty.build_sound env k hfree.1 hku) hkey
    have hvalue := Ty.build_sound env t hfree.2 hvalue
    split at h
    · obtain ⟨_, -, h⟩ := bind_eq_ok.mp h
      cases h
      intro keys v hv
      obtain ⟨entries, hentries, rfl⟩ := map_eq_ok.mp hv
      exact ⟨entries, rfl, gatherKeys_sound hkey hvalue (by simp) hentries⟩
    · cases hsingle : value.single? with
      | none =>
        rw [hsingle] at h
        cases h
      | some d =>
        rw [hsingle] at h
        cases h
        have hd := hvalue.of_single? hsingle
        refine Site.tokenUnpacker_yields fun tokens v hv => ?_
        obtain ⟨entries, hentries, rfl⟩ := map_eq_ok.mp hv
        exact ⟨entries, rfl, gatherPairs_sound hkey hd (by simp) hentries⟩
  | .model head ms, site, tag, b, noted, u, hfree, h => by
    rw [Ty.build] at h
    refine Ty.readOr_sound site tag rfl (fun h => ?_) h
    obtain ⟨d, hd, rfl | rfl⟩ := buildModel_eq_ok h
    · obtain ⟨deep, htargets⟩ := hd.targets
      have hfits := Ty.buildMembers_sound env ms hfree htargets
      exact fun keys v hv => StructDecoder.unpackKeys_sound hd.new hfits b hv
    · obtain ⟨deep, htargets⟩ := hd.targets
      have hfits := Ty.buildMembers_sound env ms hfree htargets
      refine Site.tokenUnpacker_yields fun tokens v hv => ?_
      rw [StructDecoder.unpackTokens_eq] at hv
      exact StructDecoder.unpackKeys_sound hd.new hfits b hv
  | .keyedOnly k, site, tag, b, noted, u, hfree, h => by
    rw [Ty.build] at h
    cases h
  | .plain c reader, site, tag, b, noted, u, hfree, h
  | .enum e, site, tag, b, noted, u, hfree, h
  | .union bars ts, site, tag, b, noted, u, hfree, h
  | .literal vs, site, tag, b, noted, u, hfree, h
  | .callable args result, site, tag, b, noted, u, hfree, h
  | .generic n ts spelled, site, tag, b, noted, u, hfree, h
  | .ellipsis, site, tag, b, noted, u, hfree, h => by
    rw [Ty.build] at h
    refine Ty.readOr_sound site tag rfl (fun h => ?_) h
    cases h

/-- Every place of a tuple fits its type. -/
theorem Ty.buildSlots_sound (env : Env) : ∀ (ts : List Ty) {site : Site} {tag : Tag}
    {slots : List Slot}, ContentFreeIn env.options.tagKey ts →
    Ty.buildSlots env ts site tag = .ok slots →
    List.Forall₂ (Slot.Fits env.registry) ts slots
  | [], site, tag, slots, hfree, h => by
    cases h
    exact .nil
  | t :: ts, site, tag, slots, hfree, h => by
    rw [Ty.buildSlots] at h
    obtain ⟨u, hu, h⟩ := bind_eq_ok.mp h
    obtain ⟨d, hd, h⟩ := bind_eq_ok.mp h
    obtain ⟨slots', hslots, h⟩ := bind_eq_ok.mp h
    cases h
    exact .cons ⟨Site.element_sound (Ty.build_sound env t hfree.1 hu) hd, rfl⟩
      (Ty.buildSlots_sound env ts hfree.2 hslots)

/-- Every target of a nested model gives values of the type of its field. -/
theorem Ty.buildMembers_sound (env : Env) : ∀ (ms : List (Member Ty)) {place : Place} {deep : Bool}
    {taken : List String} {targets : List MemberTarget},
    ContentFreeAmong env.options.tagKey ms →
    Ty.buildMembers env ms place deep taken = .ok targets →
    ∀ t ∈ targets, StructDecoder.TargetFits env.registry ms t
  | [], place, deep, taken, targets, hfree, h => by
    cases h
    rintro t ⟨⟩
  | m :: ms, place, deep, taken, targets, hfree, h => by
    rw [Ty.buildMembers] at h
    obtain ⟨tag, htag, h⟩ := bind_eq_ok.mp h
    have hrest : ∀ {taken targets}, Ty.buildMembers env ms place deep taken = .ok targets →
        ∀ t ∈ targets, StructDecoder.TargetFits env.registry (m :: ms) t := by
      intro taken targets h t ht
      refine (Ty.buildMembers_sound env ms hfree.2.2 h t ht).imp fun v hv => ?_
      obtain ⟨m', hm', hv⟩ := hv
      exact ⟨m', List.mem_cons_of_mem m hm', hv⟩
    by_cases hskip : tag.base = "-"
    · rw [if_pos hskip] at h
      exact hrest h
    rw [if_neg hskip] at h
    dsimp only at h
    split at h
    · cases h
    have hcontent : tag.content = "" := hfree.1 tag (CompileError.ofTag_eq_ok.mp htag)
    -- a nested field is only exploded among keys, and its tag still asks for no documents
    generalize htag' : (if deep = true then tag else tag.withoutExplode) = tag' at h
    have hcontent' : tag'.content = "" := by
      rw [← htag']
      split <;> exact hcontent
    by_cases hdeep : tag'.deepObject = true
    · rw [if_pos hdeep] at h
      cases h
    rw [if_neg hdeep] at h
    obtain ⟨mode, hmode, h⟩ := bind_eq_ok.mp h
    obtain ⟨u, hu, h⟩ := bind_eq_ok.mp h
    obtain ⟨targets', htargets, h⟩ := bind_eq_ok.mp h
    cases h
    rw [Env.mode_of_content hcontent' hmode] at hu
    intro t ht
    rcases List.mem_cons.mp ht with rfl | ht
    · exact (Ty.build_sound env m.type hfree.2.1 hu).imp fun v hv =>
        ⟨m, List.mem_cons_self, rfl, hv⟩
    · exact hrest htargets t ht

end

/-! ### Zeros -/

/-- An integer of eight bits and a text. -/
def shortPair : Ty := .tuple true [.annotated (.scalar { kind := .int }) [.intBounds 8 true], .str]

end ParamBinding
