import ParamBinding.Proofs.Capability

/-!
# Failures of builders

Whatever is wrong with a declaration is told by an error of one of five classes. There is one
exception: a map type may have been given a type for its keys only, and then looking at its shape
fails in a way that no class stands for. Nothing that is checked beside a builder fails in this way.
So where a builder does, it is because of something that it builds, after all that it has built
before. The lemmas of this module say so for each builder as an equivalence.
-/

namespace ParamBinding

/-! ### Classes of errors -/

/-- The classes of what is wrong with a declaration. -/
inductive CompileErrorKind where
  | tagParse
  | unsupportedType
  | missingDecoder
  | duplicateParameter
  | configuration
  deriving DecidableEq, Repr

/-- The class of an error. A map type without a type for its values is not told by an error of a
class. -/
def CompileError.kind? : CompileError → Option CompileErrorKind
  | tag _ _ _ => some .tagParse
  | unsupported _ _ _ _ => some .unsupportedType
  | missingDecoder _ _ => some .missingDecoder
  | duplicate _ => some .duplicateParameter
  | misconfigured _ => some .configuration
  | missingTypeArgument => none

theorem CompileError.kind?_eq_none {e : CompileError} :
    e.kind? = none ↔ e = .missingTypeArgument := by
  cases e <;> simp [kind?]

/-! ### Checks

What is checked beside a builder never fails in this way, so it is passed when the whole does. -/

section Checks

variable {env : Env} {site : Site} {tag : Tag} {t : Ty} {α β : Type}

theorem bind_eq_missing {x : Except CompileError α} {f : α → Except CompileError β}
    (hx : x ≠ .error .missingTypeArgument) :
    (x >>= f) = .error .missingTypeArgument ↔
      ∃ a, x = .ok a ∧ f a = .error .missingTypeArgument := by
  rw [bind_eq_error, or_iff_right hx]

theorem Site.checkCompound_ne_missing :
    site.checkCompound tag ≠ .error .missingTypeArgument := by
  unfold checkCompound
  split
  · split
    · rintro ⟨⟩
    · split <;> rintro ⟨⟩
  · rintro ⟨⟩

theorem Site.checkDeepObject_ne_missing : site.checkDeepObject ≠ .error .missingTypeArgument := by
  unfold checkDeepObject
  split <;> rintro ⟨⟩

theorem Site.rejectDeepObject_ne_missing :
    site.rejectDeepObject tag ≠ .error .missingTypeArgument := by
  unfold rejectDeepObject
  split <;> rintro ⟨⟩

theorem Site.element_ne_missing (u : Unpacker) :
    site.element t u ≠ .error .missingTypeArgument := by
  unfold element
  split <;> rintro ⟨⟩

/-- A text form of its own keeps a type from being looked into. -/
theorem Ty.readOr_ne_missing {r : TextReader} (hreader : t.bareReader? env.registry = some r)
    (other : Except CompileError Unpacker) :
    t.readOr env site tag other ≠ .error .missingTypeArgument := by
  rw [readOr, hreader]
  intro h
  obtain ⟨_, -, h⟩ := (bind_eq_missing Site.rejectDeepObject_ne_missing).mp h
  cases h

end Checks

/-! ### Types that are not looked into -/

namespace Ty

variable {env : Env} {site : Site} {tag : Tag} {t : Ty} {b : Option Note} {noted : Option Ty}

theorem core_eq_of_malformed (h : t.core.shape = .malformed) : ∃ k, t.core = .keyedOnly k := by
  cases hcore : t.core with
  | keyedOnly k => exact ⟨k, rfl⟩
  | annotated u ns => exact absurd hcore (core_ne_annotated t)
  | _ =>
    rw [hcore] at h
    cases h

theorem build_malformed (h : t.core.shape = .malformed) :
    build env t site tag (.plain b noted) = .error .missingTypeArgument := by
  obtain ⟨b', noted', hcore⟩ := build_core env site tag t b noted
  obtain ⟨k, ht⟩ := core_eq_of_malformed h
  rw [hcore, ht, build]

/-- A type with a text form or without parts is not looked into. -/
theorem build_ne_missing
    (hatomic : (t.core.reader? env.registry).isSome = true ∨ t.core.shape.isCompound = false)
    (hshape : t.core.shape ≠ .malformed) :
    build env t site tag (.plain b noted) ≠ .error .missingTypeArgument := by
  obtain ⟨b', noted', hcore⟩ := build_core env site tag t b noted
  rw [hcore]
  rw [reader?_core] at hatomic
  have hread : ∀ other, (t.core.shape.isCompound = false → other ≠ .error .missingTypeArgument) →
      t.core.readOr env site tag other ≠ .error .missingTypeArgument := by
    intro other hother
    cases hreader : t.core.bareReader? env.registry with
    | some r => exact readOr_ne_missing hreader other
    | none =>
      rw [readOr_of_none hreader]
      rw [hreader] at hatomic
      exact hother (hatomic.resolve_left Bool.false_ne_true)
  cases ht : t.core with
  | annotated t' ns => exact absurd ht (core_ne_annotated t)
  | optional f t' => exact absurd ht (core_ne_optional t)
  | keyedOnly k =>
    rw [ht] at hshape
    exact absurd rfl hshape
  | scalar s =>
    rw [ht] at hread
    rw [build]
    refine hread _ fun _ h => ?_
    obtain ⟨_, -, h⟩ := (bind_eq_missing Site.rejectDeepObject_ne_missing).mp h
    cases h
  | _ =>
    -- a type with parts has a text form here, and any other one has nothing else
    rw [ht] at hread
    rw [build]
    exact hread _ nofun

end Ty

/-! ### Builders

Where a builder fails in this way, something that it builds does, and everything before has been
built. -/

section Builders

variable {env : Env} {site : Site} {tag : Tag} {t : Ty}

/-- Lists and tuples are checked before their elements are built. -/
theorem buildSequence_eq_missing {α : Type} {x : Except CompileError α}
    {f : α → Except CompileError Unpacker} (hf : ∀ a, f a ≠ .error .missingTypeArgument) :
    (do
      site.checkCompound tag
      if tag.deepObject then .error (site.tagError .deepObjectOnSequence)
      else x >>= f) = .error .missingTypeArgument ↔
      site.checkCompound tag = .ok () ∧ tag.deepObject = false ∧
        x = .error .missingTypeArgument := by
  rw [bind_eq_missing Site.checkCompound_ne_missing]
  constructor
  · rintro ⟨_, hcheck, h⟩
    refine ⟨hcheck, ?_⟩
    by_cases hdeep : tag.deepObject = true
    · rw [if_pos hdeep] at h
      cases h
    rw [if_neg hdeep] at h
    obtain h | ⟨a, -, h⟩ := bind_eq_error.mp h
    · exact ⟨Bool.eq_false_of_not_eq_true hdeep, h⟩
    · exact absurd h (hf a)
  · rintro ⟨hcheck, hdeep, rfl⟩
    refine ⟨(), hcheck, ?_⟩
    rw [hdeep]
    rfl

/-- What has been built for an element is accepted. -/
theorem Ty.exists_element {u : Unpacker} (honce : site.explodes tag = false)
    (hdeep : tag.deepObject = false) (hu : Ty.build env t site tag .own = .ok u) :
    ∃ d, site.element t u = .ok d := by
  cases h : site.element t u with
  | error e => exact absurd h (element_ne_error honce hdeep hu)
  | ok d => exact ⟨d, rfl⟩

/-- The places of a tuple are built one after the other. -/
theorem Ty.buildSlots_eq_missing (honce : site.explodes tag = false)
    (hdeep : tag.deepObject = false) {es : List Ty} :
    Ty.buildSlots env es site tag = .error .missingTypeArgument ↔
      ∃ before e after, es = before ++ e :: after ∧
        (∀ e' ∈ before, ∃ u, Ty.build env e' site tag .own = .ok u) ∧
        Ty.build env e site tag .own = .error .missingTypeArgument := by
  induction es with
  | nil => simp [buildSlots]
  | cons t ts ih =>
    rw [buildSlots]
    constructor
    · intro h
      obtain h | ⟨u, hu, h⟩ := bind_eq_error.mp h
      · exact ⟨[], t, ts, rfl, by simp, h⟩
      obtain ⟨d, -, h⟩ := (bind_eq_missing (Site.element_ne_missing u)).mp h
      obtain h | ⟨slots, -, h⟩ := bind_eq_error.mp h
      · obtain ⟨before, e, after, rfl, hbefore, he⟩ := ih.mp h
        refine ⟨t :: before, e, after, rfl, ?_, he⟩
        rintro e' (_ | ⟨_, he'⟩)
        · exact ⟨u, hu⟩
        · exact hbefore e' he'
      · cases h
    · rintro ⟨before, e, after, hts, hbefore, he⟩
      cases before with
      | nil =>
        cases hts
        rw [he]
        rfl
      | cons t' before =>
        cases hts
        obtain ⟨u, hu⟩ := hbefore t List.mem_cons_self
        have hrest := ih.mpr ⟨before, e, after, rfl,
          fun e' he' => hbefore e' (List.mem_cons_of_mem _ he'), he⟩
        obtain ⟨d, hd⟩ := exists_element honce hdeep hu
        rw [hu]
        exact bind_eq_error.mpr (.inr ⟨u, rfl,
          bind_eq_error.mpr (.inr ⟨d, hd, bind_eq_error.mpr (.inl hrest)⟩)⟩)

theorem buildMap_eq_missing {k v whole : Ty} :
    (do
      site.checkCompound tag
      let ku ← Ty.build env k site tag.withoutExplode.withoutDeepObject .own
      let key ← site.element k ku
      let valueTag := if tag.deepObject then tag.withoutDeepObject else tag.withoutExplode
      let value ← Ty.build env v site valueTag .own
      if tag.deepObject then
        site.checkDeepObject
        .ok (Unpacker.deepObject fun keys => (gatherKeys key value [] keys).map .map)
      else match value.single? with
        | some d => .ok (site.tokenUnpacker tag (unpackMap key d))
        | none => .error (site.unsupported whole .valueNeedsSeveral)) =
        .error .missingTypeArgument ↔
      site.checkCompound tag = .ok () ∧
        (Ty.build env k site tag.withoutExplode.withoutDeepObject .own =
            .error .missingTypeArgument ∨
          (∃ ku, Ty.build env k site tag.withoutExplode.withoutDeepObject .own = .ok ku) ∧
            Ty.build env v site
              (if tag.deepObject then tag.withoutDeepObject else tag.withoutExplode) .own =
                .error .missingTypeArgument) := by
  rw [bind_eq_missing Site.checkCompound_ne_missing]
  constructor
  · rintro ⟨_, hcheck, h⟩
    refine ⟨hcheck, ?_⟩
    obtain h | ⟨ku, hku, h⟩ := bind_eq_error.mp h
    · exact .inl h
    refine .inr ⟨⟨ku, hku⟩, ?_⟩
    obtain ⟨key, -, h⟩ := (bind_eq_missing (Site.element_ne_missing ku)).mp h
    obtain h | ⟨value, -, h⟩ := bind_eq_error.mp h
    · exact h
    by_cases hdeep : tag.deepObject = true
    · rw [if_pos hdeep] at h
      obtain ⟨_, -, h⟩ := (bind_eq_missing Site.checkDeepObject_ne_missing).mp h
      cases h
    · rw [if_neg hdeep] at h
      split at h <;> cases h
  · rintro ⟨hcheck, h | ⟨⟨ku, hku⟩, h⟩⟩
    · exact ⟨(), hcheck, bind_eq_error.mpr (.inl h)⟩
    · have honce : site.explodes tag.withoutExplode.withoutDeepObject = false := Bool.and_false _
      obtain ⟨key, hkey⟩ := Ty.exists_element honce rfl hku
      exact ⟨(), hcheck, bind_eq_error.mpr (.inr ⟨ku, hku,
        bind_eq_error.mpr (.inr ⟨key, hkey, bind_eq_error.mpr (.inl h)⟩)⟩)⟩

theorem documentMap_eq_missing {k v : Ty} {d : Decoder} :
    (do
      let ku ← Ty.build env k site tag.withoutExplode.withoutContent.withoutDeepObject .own
      let key ← site.element k ku
      let value ← Ty.documentElement site tag.withoutExplode d v
      .ok (Unpacker.multi fun vs => unpackMap key value (resplit vs))) =
        .error .missingTypeArgument ↔
      Ty.build env k site tag.withoutExplode.withoutContent.withoutDeepObject .own =
          .error .missingTypeArgument ∨
        (∃ ku, Ty.build env k site tag.withoutExplode.withoutContent.withoutDeepObject .own =
          .ok ku) ∧
          Ty.documentElement site tag.withoutExplode d v = .error .missingTypeArgument := by
  constructor
  · intro h
    obtain h | ⟨ku, hku, h⟩ := bind_eq_error.mp h
    · exact .inl h
    refine .inr ⟨⟨ku, hku⟩, ?_⟩
    obtain ⟨key, -, h⟩ := (bind_eq_missing (Site.element_ne_missing ku)).mp h
    obtain h | ⟨value, -, h⟩ := bind_eq_error.mp h
    · exact h
    · cases h
  · rintro (h | ⟨⟨ku, hku⟩, h⟩)
    · exact bind_eq_error.mpr (.inl h)
    · have honce : site.explodes tag.withoutExplode.withoutContent.withoutDeepObject = false :=
        Bool.and_false _
      obtain ⟨key, hkey⟩ := Ty.exists_element honce rfl hku
      exact bind_eq_error.mpr (.inr ⟨ku, hku,
        bind_eq_error.mpr (.inr ⟨key, hkey, bind_eq_error.mpr (.inl h)⟩)⟩)

section Members

variable {m : Member Ty} {ms : List (Member Ty)} {place : Place} {deep : Bool}
  {taken : List String}

/-- A field is left out. -/
theorem Ty.buildMembers_skip
    (htag : Tag.read true ((m.tag? env.options.tagKey).getD "") = .ok tag)
    (hskip : tag.base = "-") :
    Ty.buildMembers env (m :: ms) place deep taken = Ty.buildMembers env ms place deep taken := by
  rw [buildMembers, CompileError.ofTag_eq_ok.mpr htag]
  exact if_pos hskip

/-- A field is built, and then the others. -/
theorem Ty.buildMembers_take
    (htag : Tag.read true ((m.tag? env.options.tagKey).getD "") = .ok tag) (hskip : tag.base ≠ "-")
    (hkey : memberKey tag m.name ∉ taken) (hdeep : tag.deepObject = false) :
    Ty.buildMembers env (m :: ms) place deep taken =
      m.type.unpacker env ⟨m.name, memberKey tag m.name, place⟩
          (if deep then tag else tag.withoutExplode) >>= fun u =>
        Ty.buildMembers env ms place deep (taken ++ [memberKey tag m.name]) >>= fun targets =>
          .ok (⟨memberKey tag m.name, m.name, u⟩ :: targets) := by
  have hfresh : taken.contains (memberKey tag m.name) = false :=
    Bool.eq_false_iff.mpr fun h => hkey (List.contains_iff_mem.mp h)
  have hplain : (if deep = true then tag else tag.withoutExplode).deepObject = false := by
    split <;> exact hdeep
  rw [buildMembers, CompileError.ofTag_eq_ok.mpr htag]
  simp only [bind, Except.bind, hskip, hfresh, hplain, unpacker, Bool.false_eq_true, if_false]
  cases env.mode _ _ m.type <;> rfl

/-- A field is left out, or it is built, unless something else is wrong with it. -/
theorem Ty.buildMembers_cases (env : Env) (m : Member Ty) (place : Place) (deep : Bool)
    (taken : List String) :
    (∃ tag, Tag.read true ((m.tag? env.options.tagKey).getD "") = .ok tag ∧ tag.base = "-") ∨
      (∃ tag, Tag.read true ((m.tag? env.options.tagKey).getD "") = .ok tag ∧ tag.base ≠ "-" ∧
        memberKey tag m.name ∉ taken ∧ tag.deepObject = false) ∨
      ∃ e, e ≠ .missingTypeArgument ∧
        ∀ ms, Ty.buildMembers env (m :: ms) place deep taken = .error e := by
  cases htag : Tag.read true ((m.tag? env.options.tagKey).getD "") with
  | error p =>
    refine .inr (.inr ⟨.tag p (some m.name) (some ((m.tag? env.options.tagKey).getD "")),
      by rintro ⟨⟩, fun ms => ?_⟩)
    rw [buildMembers, CompileError.ofTag, htag]
    rfl
  | ok tag =>
    by_cases hskip : tag.base = "-"
    · exact .inl ⟨tag, rfl, hskip⟩
    have hread : CompileError.ofTag m.name ((m.tag? env.options.tagKey).getD "")
        (Tag.read true ((m.tag? env.options.tagKey).getD "")) = .ok tag :=
      CompileError.ofTag_eq_ok.mpr htag
    by_cases hkey : memberKey tag m.name ∈ taken
    · refine .inr (.inr ⟨.duplicate (.memberKey (memberKey tag m.name) m.name), by rintro ⟨⟩,
        fun ms => ?_⟩)
      rw [buildMembers, hread]
      exact (if_neg hskip).trans (if_pos (List.contains_iff_mem.mpr hkey))
    have hfresh : ¬ taken.contains (memberKey tag m.name) = true :=
      fun h => hkey (List.contains_iff_mem.mp h)
    cases hdeep : tag.deepObject with
    | false => exact .inr (.inl ⟨tag, rfl, hskip, hkey, hdeep⟩)
    | true =>
      refine .inr (.inr ⟨.tag (.deepObjectOnMember (memberKey tag m.name)) (some m.name) none,
        by rintro ⟨⟩, fun ms => ?_⟩)
      have hplain : (if deep = true then tag else tag.withoutExplode).deepObject = true := by
        split <;> exact hdeep
      rw [buildMembers, hread]
      exact (if_neg hskip).trans ((if_neg hfresh).trans (if_pos hplain))

/-- The fields of a nested model are built one after the other. -/
theorem Ty.buildMembers_eq_missing :
    Ty.buildMembers env ms place deep taken = .error .missingTypeArgument ↔
      ∃ before m after targets tag, ms = before ++ m :: after ∧
        Ty.buildMembers env before place deep taken = .ok targets ∧
        Tag.read true ((m.tag? env.options.tagKey).getD "") = .ok tag ∧ tag.base ≠ "-" ∧
        memberKey tag m.name ∉ taken ++ targets.map (·.key) ∧ tag.deepObject = false ∧
        m.type.unpacker env ⟨m.name, memberKey tag m.name, place⟩
          (if deep then tag else tag.withoutExplode) = .error .missingTypeArgument := by
  induction ms generalizing taken with
  | nil => simp [buildMembers]
  | cons m ms ih =>
    obtain ⟨tag, htag, hskip⟩ | ⟨tag, htag, hskip, hkey, hdeep⟩ | ⟨e, he, herror⟩ :=
      buildMembers_cases env m place deep taken
    · rw [buildMembers_skip htag hskip, ih]
      constructor
      · rintro ⟨before, m', after, targets, tag', rfl, hbefore, hrest⟩
        exact ⟨m :: before, m', after, targets, tag', rfl,
          (buildMembers_skip htag hskip).trans hbefore, hrest⟩
      · rintro ⟨before, m', after, targets, tag', hms, hbefore, htag', hskip', hrest⟩
        cases before with
        | nil =>
          cases hms
          rw [htag] at htag'
          cases htag'
          exact absurd hskip hskip'
        | cons m₀ before =>
          cases hms
          rw [buildMembers_skip htag hskip] at hbefore
          exact ⟨before, m', after, targets, tag', rfl, hbefore, htag', hskip', hrest⟩
    · rw [buildMembers_take htag hskip hkey hdeep]
      constructor
      · intro h
        obtain h | ⟨u, hu, h⟩ := bind_eq_error.mp h
        · exact ⟨[], m, ms, [], tag, rfl, rfl, htag, hskip, by simpa using hkey, hdeep, h⟩
        obtain h | ⟨_, -, h⟩ := bind_eq_error.mp h
        · obtain ⟨before, m', after, targets, tag', rfl, hbefore, htag', hskip', hkey', hrest⟩ :=
            ih.mp h
          refine ⟨m :: before, m', after, ⟨memberKey tag m.name, m.name, u⟩ :: targets, tag', rfl,
            ?_, htag', hskip', ?_, hrest⟩
          · rw [buildMembers_take htag hskip hkey hdeep, hu]
            exact bind_eq_ok.mpr ⟨u, rfl, bind_eq_ok.mpr ⟨targets, hbefore, rfl⟩⟩
          · simpa using hkey'
        · cases h
      · rintro ⟨before, m', after, targets, tag', hms, hbefore, htag', hskip', hkey', hrest⟩
        cases before with
        | nil =>
          cases hms
          rw [htag] at htag'
          cases htag'
          exact bind_eq_error.mpr (.inl hrest.2)
        | cons m₀ before =>
          cases hms
          rw [buildMembers_take htag hskip hkey hdeep] at hbefore
          obtain ⟨u, hu, hbefore⟩ := bind_eq_ok.mp hbefore
          obtain ⟨targets', htargets, hbefore⟩ := bind_eq_ok.mp hbefore
          cases hbefore
          refine bind_eq_error.mpr (.inr ⟨u, hu, bind_eq_error.mpr (.inl (ih.mpr ?_))⟩)
          exact ⟨before, m', after, targets', tag', rfl, htargets, htag', hskip', by
            simpa using hkey', hrest⟩
    · rw [herror ms]
      refine iff_of_false (fun h => he (Except.error.inj h)) ?_
      rintro ⟨before, m', after, targets, tag', hms, hbefore, htag', hskip', hkey', hdeep', hu⟩
      cases before with
      | nil =>
        -- nothing else is wrong with this field
        cases hms
        cases hbefore
        rw [List.map_nil, List.append_nil] at hkey'
        have htake := herror []
        rw [buildMembers_take htag' hskip' hkey' hdeep', hu] at htake
        exact he (Except.error.inj htake).symm
      | cons m₀ before =>
        cases hms
        rw [herror before] at hbefore
        cases hbefore

end Members

end Builders

end ParamBinding
