import Mathlib.Logic.Relation
import ParamBinding.Proofs.Builders

/-!
# What unpackers take

An unpacker takes one text, the texts of all occurrences, or the texts of keys. Those that call it
do not ask which: the element of a list is always decoded from one text, and a path variable as well.
This goes well because what an unpacker takes can be read off the tag and the type alone
(`Ty.unpacker_takes`), and because the tag is changed on its way to the parts of a type in just the
way that their callers need (`Part.serves_of_calls`). By induction on the calls it goes well however
deep a part lies, and the errors that stand for the opposite never happen.
-/

namespace ParamBinding

/-! ### The table -/

/-- What an unpacker takes. -/
inductive Capability where
  /-- One text. -/
  | text
  /-- The texts of all occurrences. -/
  | occurrences
  /-- The texts of keys. -/
  | keys
  deriving DecidableEq, Repr

/-- The one thing that an unpacker takes. -/
def Unpacker.capability : Unpacker → Capability
  | .single _ => .text
  | .multi _ => .occurrences
  | .deepObject _ => .keys

namespace Ty

/-- What the decoder of a type itself takes. Keys go before occurrences, which a type has to have
parts for. -/
def ownCapability (env : Env) (t : Ty) (site : Site) (tag : Tag) : Capability :=
  if tag.deepObject then .keys
  else if site.explodes tag && (t.core.reader? env.registry).isNone && t.core.shape.isCompound then
    .occurrences
  else .text

/-- What a decoder of documents takes. -/
def documentCapability (t : Ty) (site : Site) (tag : Tag) : Capability :=
  if site.explodes tag && t.documentShape.isUniform then .occurrences else .text

/-- What the unpacker of a type takes. -/
def capability (env : Env) (t : Ty) (site : Site) (tag : Tag) : Capability :=
  if tag.content = "" then t.ownCapability env site tag else t.documentCapability site tag

end Ty

section Table

variable {env : Env} {t : Ty} {site : Site} {tag : Tag} {b : Option Note} {noted : Option Ty}
  {u : Unpacker}

@[simp] theorem Site.capability_listUnpacker (d : ListDecoder) :
    (site.listUnpacker tag d).capability = if site.explodes tag then .occurrences else .text := by
  unfold listUnpacker
  split <;> rfl

@[simp] theorem Site.capability_tokenUnpacker (d : ListDecoder) :
    (site.tokenUnpacker tag d).capability = if site.explodes tag then .occurrences else .text := by
  unfold tokenUnpacker
  split <;> rfl

/-- Where texts are read by the type itself, what the unpacker takes is in the table. -/
theorem Ty.build_capability (h : Ty.build env t site tag (.plain b noted) = .ok u) :
    u.capability = t.ownCapability env site tag := by
  rw [ownCapability]
  cases hreader : t.core.reader? env.registry with
  | some r =>
    obtain ⟨hdeep, d, rfl⟩ := Ty.build_atomic (.inl (by rw [hreader]; rfl)) h
    simp [hdeep, Unpacker.capability]
  | none =>
    cases hshape : t.core.shape with
    | slice c e =>
      obtain ⟨-, hdeep, eu, elem, -, -, rfl⟩ := Ty.build_slice hreader hshape h
      simp [hdeep, Shape.isCompound]
    | array es =>
      obtain ⟨-, hdeep, slots, -, rfl⟩ := Ty.build_array hreader hshape h
      simp [hdeep, Shape.isCompound]
    | map k v =>
      obtain ⟨-, ku, key, -, -, ⟨hdeep, -, vu, -, rfl⟩ | ⟨hdeep, vu, value, -, -, rfl⟩⟩ :=
        Ty.build_keyValue hreader hshape h
      · simp [hdeep, Unpacker.capability]
      · simp [hdeep, Shape.isCompound]
    | struct head ms =>
      obtain ⟨-, d, -, ⟨hdeep, -, rfl⟩ | ⟨hdeep, rfl⟩⟩ := Ty.build_struct hreader hshape h
      · simp [hdeep, Unpacker.capability]
      · simp [hdeep, Shape.isCompound]
    | primitive _ _ | optional _ | unsupported | malformed =>
      obtain ⟨hdeep, d, rfl⟩ := Ty.build_atomic (.inr (by rw [hshape]; rfl)) h
      simp [hdeep, Shape.isCompound, Unpacker.capability]

/-- What an unpacker of documents takes is in the table. -/
theorem Shape.capability_documents {s : Shape} {d : Decoder} {whole : Ty}
    (h : s.documents env site tag d whole = .ok u) :
    u.capability = if site.explodes tag && s.isUniform then .occurrences else .text := by
  cases s with
  | slice c e =>
    rw [documents, Ty.documentList] at h
    by_cases hexplodes : site.explodes tag = true
    · rw [if_pos hexplodes] at h
      obtain ⟨elem, -, h⟩ := bind_eq_ok.mp h
      cases h
      simp [hexplodes, isUniform, Unpacker.capability]
    · rw [if_neg hexplodes] at h
      cases h
      simp [hexplodes, Unpacker.capability]
  | map k v =>
    rw [documents] at h
    by_cases hexplodes : site.explodes tag = true
    · rw [if_pos hexplodes] at h
      obtain ⟨ku, -, h⟩ := bind_eq_ok.mp h
      obtain ⟨key, -, h⟩ := bind_eq_ok.mp h
      obtain ⟨value, -, h⟩ := bind_eq_ok.mp h
      cases h
      simp [hexplodes, isUniform, Unpacker.capability]
    · rw [if_neg hexplodes] at h
      cases h
      simp [hexplodes, Unpacker.capability]
  | malformed => cases h
  | _ =>
    cases h
    simp [isUniform, Unpacker.capability]

/-- **The table.** What an unpacker takes can be read off the tag and the type. -/
theorem Ty.unpacker_takes (h : t.unpacker env site tag = .ok u) :
    u.capability = t.capability env site tag := by
  by_cases hcontent : tag.content = ""
  · rw [unpacker_plain hcontent] at h
    rw [capability, if_pos hcontent]
    exact build_capability h
  · rw [unpacker_document hcontent] at h
    rw [capability, if_neg hcontent]
    split at h
    · exact Shape.capability_documents h
    · cases h

end Table

/-! ### Capabilities of parts -/

section Parts

variable {env : Env} {t : Ty} {site : Site} {tag : Tag} {u : Unpacker}

theorem Site.explodes_withoutExplode (site : Site) (tag : Tag) :
    site.explodes tag.withoutExplode = false :=
  Bool.and_false _

/-- What occurs once and has no keys is one text. -/
theorem Ty.ownCapability_eq_text (honce : site.explodes tag = false)
    (hdeep : tag.deepObject = false) : t.ownCapability env site tag = .text := by
  simp [ownCapability, honce, hdeep]

theorem Ty.capability_eq_text (honce : site.explodes tag = false)
    (hdeep : tag.content = "" → tag.deepObject = false) : t.capability env site tag = .text := by
  unfold capability
  split
  · rename_i hcontent
    exact ownCapability_eq_text honce (hdeep hcontent)
  · simp [documentCapability, honce]

/-- What has no keys is one text or several. -/
theorem Ty.capability_mem_texts (hdeep : tag.deepObject = false) :
    t.capability env site tag ∈ [Capability.text, .occurrences] := by
  unfold capability
  split
  · rw [ownCapability, if_neg (by simp [hdeep])]
    split <;> simp
  · rw [documentCapability]
    split <;> simp

/-- Every place of a tuple has a decoder. -/
theorem Ty.exists_of_buildSlots {es : List Ty} {slots : List Slot}
    (h : Ty.buildSlots env es site tag = .ok slots) {e : Ty} (he : e ∈ es) :
    ∃ u, Ty.build env e site tag .own = .ok u := by
  induction es generalizing slots with
  | nil => cases he
  | cons e' es ih =>
    rw [Ty.buildSlots] at h
    obtain ⟨u, hu, h⟩ := bind_eq_ok.mp h
    obtain ⟨d, -, h⟩ := bind_eq_ok.mp h
    obtain ⟨slots', hslots, -⟩ := bind_eq_ok.mp h
    rcases List.mem_cons.mp he with rfl | he
    · exact ⟨u, hu⟩
    · exact ih hslots he

/-- Every field of a nested model that is not left out has an unpacker, which takes no keys. -/
theorem Ty.exists_of_buildMembers {ms : List (Member Ty)} {place : Place} {deep : Bool}
    {taken : List String} {targets : List MemberTarget}
    (h : Ty.buildMembers env ms place deep taken = .ok targets) {m : Member Ty} (hm : m ∈ ms)
    (htag : Tag.read true ((m.tag? env.options.tagKey).getD "") = .ok tag)
    (hskip : tag.base ≠ "-") :
    tag.deepObject = false ∧ ∃ u,
      m.type.unpacker env ⟨m.name, memberKey tag m.name, place⟩
        (if deep then tag else tag.withoutExplode) = .ok u ∧
      ⟨memberKey tag m.name, m.name, u⟩ ∈ targets := by
  induction ms generalizing taken targets with
  | nil => cases hm
  | cons m' ms ih =>
    rw [Ty.buildMembers] at h
    obtain ⟨tag', htag', h⟩ := bind_eq_ok.mp h
    by_cases hskip' : tag'.base = "-"
    · rw [if_pos hskip'] at h
      rcases List.mem_cons.mp hm with rfl | hm
      · rw [CompileError.ofTag_eq_ok, htag] at htag'
        cases htag'
        exact absurd hskip' hskip
      · exact ih h hm
    rw [if_neg hskip'] at h
    dsimp only at h
    split at h
    · cases h
    generalize hwanted : (if deep = true then tag' else tag'.withoutExplode) = wanted at h
    have hkeys : wanted.deepObject = tag'.deepObject := by
      rw [← hwanted]
      split <;> rfl
    by_cases hdeep : wanted.deepObject = true
    · rw [if_pos hdeep] at h
      cases h
    rw [if_neg hdeep] at h
    obtain ⟨mode, hmode, h⟩ := bind_eq_ok.mp h
    obtain ⟨u, hu, h⟩ := bind_eq_ok.mp h
    obtain ⟨targets', htargets, h⟩ := bind_eq_ok.mp h
    cases h
    rcases List.mem_cons.mp hm with rfl | hm
    · rw [CompileError.ofTag_eq_ok, htag] at htag'
      cases htag'
      refine ⟨hkeys ▸ Bool.eq_false_of_not_eq_true hdeep, u, ?_, List.mem_cons_self⟩
      rw [hwanted, unpacker, hmode]
      exact hu
    · obtain ⟨hmember, v, hv, hmem⟩ := ih htargets hm
      exact ⟨hmember, v, hv, List.mem_cons_of_mem _ hmem⟩

end Parts

/-! ### Errors that never happen -/

/-- Errors about decoders that would need several texts. -/
def CompileError.NeedsSeveral : CompileError → Prop
  | .unsupported _ _ _ u => u = .elementNeedsSeveral ∨ u = .valueNeedsSeveral
  | _ => False

section Errors

variable {env : Env} {t : Ty} {site : Site} {tag : Tag} {u : Unpacker} {e : CompileError}

theorem Site.not_needsSeveral_of_checkCompound (h : site.checkCompound tag = .error e) :
    ¬ e.NeedsSeveral := by
  unfold checkCompound at h
  split at h
  · split at h
    · cases h
      exact id
    split at h
    · cases h
      exact id
    · cases h
  · cases h

theorem Site.not_needsSeveral_of_rejectDeepObject (h : site.rejectDeepObject tag = .error e) :
    ¬ e.NeedsSeveral := by
  unfold rejectDeepObject at h
  split at h
  · cases h
    exact id
  · cases h

theorem Site.not_needsSeveral_of_checkDeepObject (h : site.checkDeepObject = .error e) :
    ¬ e.NeedsSeveral := by
  unfold checkDeepObject at h
  split at h
  · cases h
  · cases h
    exact id

theorem Ty.not_needsSeveral_of_readOr {other : Except CompileError Unpacker}
    (hother : other = .error e → ¬ e.NeedsSeveral)
    (h : t.readOr env site tag other = .error e) : ¬ e.NeedsSeveral := by
  unfold readOr at h
  split at h
  · rcases bind_eq_error.mp h with h | ⟨_, -, h⟩
    · exact Site.not_needsSeveral_of_rejectDeepObject h
    · cases h
  · exact hother h

theorem Ty.not_needsSeveral_of_documentElement {d : Decoder}
    (h : documentElement site tag d t = .error e) : ¬ e.NeedsSeveral := by
  unfold documentElement at h
  split at h
  · cases h
    exact id
  · cases h

theorem Ty.not_needsSeveral_of_documentList {d : Decoder} {whole : Ty} {c : Collection}
    (h : documentList site tag d whole c t = .error e) : ¬ e.NeedsSeveral := by
  unfold documentList at h
  split at h
  · rcases bind_eq_error.mp h with h | ⟨_, -, h⟩
    · exact not_needsSeveral_of_documentElement h
    · cases h
  · cases h

theorem Env.not_needsSeveral_of_mode (h : env.mode site tag t = .error e) : ¬ e.NeedsSeveral := by
  unfold mode at h
  split at h
  · cases h
  split at h
  · cases h
  · cases h
    exact id

theorem CompileError.not_needsSeveral_of_ofTag {α : Type} {field text : String}
    {x : Except Tag.Problem α} (h : ofTag field text x = .error e) : ¬ e.NeedsSeveral := by
  cases x with
  | error p =>
    cases h
    exact id
  | ok a => cases h

/-- What is built for an element takes one text, so that the element is accepted. -/
theorem Ty.element_ne_error (honce : site.explodes tag = false) (hdeep : tag.deepObject = false)
    (hu : Ty.build env t site tag .own = .ok u) : site.element t u ≠ .error e := by
  have htakes : u.capability = .text := (Ty.build_capability hu).trans (ownCapability_eq_text honce hdeep)
  cases u with
  | single d => rintro ⟨⟩
  | multi d => cases htakes
  | deepObject d => cases htakes

theorem buildList_not_needsSeveral {c : Collection}
    (hinner : ∀ {e}, Ty.build env t site tag.withoutExplode .own = .error e → ¬ e.NeedsSeveral)
    (h : (do
      site.checkCompound tag
      if tag.deepObject then .error (site.tagError .deepObjectOnSequence)
      else
        let u ← Ty.build env t site tag.withoutExplode .own
        let elem ← site.element t u
        .ok (site.listUnpacker tag (gather c elem))) = .error e) : ¬ e.NeedsSeveral := by
  rcases bind_eq_error.mp h with h | ⟨_, -, h⟩
  · exact Site.not_needsSeveral_of_checkCompound h
  by_cases hdeep : tag.deepObject = true
  · rw [if_pos hdeep] at h
    cases h
    exact id
  rw [if_neg hdeep] at h
  rcases bind_eq_error.mp h with h | ⟨u, hu, h⟩
  · exact hinner h
  rcases bind_eq_error.mp h with h | ⟨_, -, h⟩
  · exact absurd h (Ty.element_ne_error (Site.explodes_withoutExplode _ _)
      (Bool.eq_false_of_not_eq_true hdeep) hu)
  · cases h

variable {k v : Ty}

/-- What is built for a key takes one text, and so does what is built for a value unless it is given
under a key of its own. -/
theorem buildMap_not_needsSeveral (whole : Ty)
    (hkey : ∀ {e}, Ty.build env k site tag.withoutExplode.withoutDeepObject .own = .error e →
      ¬ e.NeedsSeveral)
    (hvalue : ∀ {tag : Tag} {e}, Ty.build env v site tag .own = .error e → ¬ e.NeedsSeveral)
    (h : (do
      site.checkCompound tag
      let ku ← Ty.build env k site tag.withoutExplode.withoutDeepObject .own
      let key ← site.element k ku
      let valueTag := if tag.deepObject then tag.withoutDeepObject else tag.withoutExplode
      let value ← Ty.build env v site valueTag .own
      if tag.deepObject then
        site.checkDeepObject
        .ok (Unpacker.deepObject fun keys => (gatherKeys key value [] keys).map .map)
      else match value.single? with
        | some d => .ok (site.tokenUnpacker tag (unpackMap key d))
        | none => .error (site.unsupported whole .valueNeedsSeveral)) = .error e) :
    ¬ e.NeedsSeveral := by
  have honce : site.explodes tag.withoutExplode.withoutDeepObject = false := Bool.and_false _
  rcases bind_eq_error.mp h with h | ⟨_, -, h⟩
  · exact Site.not_needsSeveral_of_checkCompound h
  rcases bind_eq_error.mp h with h | ⟨ku, hku, h⟩
  · exact hkey h
  rcases bind_eq_error.mp h with h | ⟨_, -, h⟩
  · exact absurd h (Ty.element_ne_error honce rfl hku)
  rcases bind_eq_error.mp h with h | ⟨vu, hvu, h⟩
  · exact hvalue h
  by_cases hdeep : tag.deepObject = true
  · rw [if_pos hdeep] at h
    rcases bind_eq_error.mp h with h | ⟨_, -, h⟩
    · exact Site.not_needsSeveral_of_checkDeepObject h
    · cases h
  · -- the value was built to occur once and without keys
    rw [if_neg hdeep] at h hvu
    have htakes := Ty.build_capability hvu
    rw [Ty.ownCapability_eq_text (Site.explodes_withoutExplode _ _)
      (Bool.eq_false_of_not_eq_true hdeep)] at htakes
    cases vu with
    | single d => cases h
    | multi d => cases htakes
    | deepObject d => cases htakes

/-- So does what is built for a key beside values that are documents. -/
theorem documentMap_not_needsSeveral {d : Decoder}
    (hkey : ∀ {tag : Tag} {e}, Ty.build env k site tag .own = .error e → ¬ e.NeedsSeveral)
    (h : (do
      let ku ← Ty.build env k site tag.withoutExplode.withoutContent.withoutDeepObject .own
      let key ← site.element k ku
      let value ← Ty.documentElement site tag.withoutExplode d v
      .ok (Unpacker.multi fun vs => unpackMap key value (resplit vs))) = .error e) :
    ¬ e.NeedsSeveral := by
  have honce : site.explodes tag.withoutExplode.withoutContent.withoutDeepObject = false :=
    Bool.and_false _
  rcases bind_eq_error.mp h with h | ⟨ku, hku, h⟩
  · exact hkey h
  rcases bind_eq_error.mp h with h | ⟨_, -, h⟩
  · exact absurd h (Ty.element_ne_error honce rfl hku)
  rcases bind_eq_error.mp h with h | ⟨_, -, h⟩
  · exact Ty.not_needsSeveral_of_documentElement h
  · cases h

mutual

/-- No element and no value of a map is ever found to need several texts. -/
theorem Ty.build_not_needsSeveral (env : Env) : ∀ (t : Ty) {site : Site} {tag : Tag} {mode : Mode}
    {e : CompileError}, Ty.build env t site tag mode = .error e → ¬ e.NeedsSeveral
  | .annotated t ns, site, tag, mode, e, h => by
    cases mode <;> rw [Ty.build] at h <;> exact Ty.build_not_needsSeveral env t h
  | .optional f t, site, tag, mode, e, h => by
    cases mode with
    | plain b noted =>
      rw [Ty.build] at h
      exact Ty.not_needsSeveral_of_readOr (fun h => Ty.build_not_needsSeveral env t h) h
    | document d w o =>
      rw [Ty.build] at h
      split at h
      · cases h
      · exact Ty.build_not_needsSeveral env t h
  | .scalar s, site, tag, mode, e, h => by
    cases mode with
    | plain b noted =>
      rw [Ty.build] at h
      refine Ty.not_needsSeveral_of_readOr (fun h => ?_) h
      rcases bind_eq_error.mp h with h | ⟨_, -, h⟩
      · exact Site.not_needsSeveral_of_rejectDeepObject h
      · cases h
    | document d w o =>
      rw [Ty.build] at h
      cases h
  | .sequence n t spelled, site, tag, mode, e, h => by
    cases mode with
    | plain b noted =>
      rw [Ty.build] at h
      exact Ty.not_needsSeveral_of_readOr
        (buildList_not_needsSeveral fun h => Ty.build_not_needsSeveral env t h) h
    | document d w o =>
      rw [Ty.build] at h
      exact Ty.not_needsSeveral_of_documentList h
  | .row c t form, site, tag, mode, e, h => by
    cases mode with
    | plain b noted =>
      rw [Ty.build] at h
      exact Ty.not_needsSeveral_of_readOr
        (buildList_not_needsSeveral fun h => Ty.build_not_needsSeveral env t h) h
    | document d w o =>
      rw [Ty.build] at h
      exact Ty.not_needsSeveral_of_documentList h
  | .tuple c es, site, tag, mode, e, h => by
    cases mode with
    | plain b noted =>
      rw [Ty.build] at h
      refine Ty.not_needsSeveral_of_readOr (fun h => ?_) h
      rcases bind_eq_error.mp h with h | ⟨_, -, h⟩
      · exact Site.not_needsSeveral_of_checkCompound h
      by_cases hdeep : tag.deepObject = true
      · rw [if_pos hdeep] at h
        cases h
        exact id
      rw [if_neg hdeep] at h
      rcases bind_eq_error.mp h with h | ⟨_, -, h⟩
      · exact Ty.buildSlots_not_needsSeveral env es (Site.explodes_withoutExplode _ _)
          (Bool.eq_false_of_not_eq_true hdeep) h
      · cases h
    | document d w o =>
      rw [Ty.build] at h
      cases h
  | .map n k t spelled, site, tag, mode, e, h => by
    cases mode with
    | plain b noted =>
      rw [Ty.build] at h
      exact Ty.not_needsSeveral_of_readOr (buildMap_not_needsSeveral _
        (fun h => Ty.build_not_needsSeveral env k h) fun h => Ty.build_not_needsSeveral env t h) h
    | document d w o =>
      rw [Ty.build] at h
      split at h
      · exact documentMap_not_needsSeveral (fun h => Ty.build_not_needsSeveral env k h) h
      · cases h
  | .model head ms, site, tag, mode, e, h => by
    cases mode with
    | plain b noted =>
      rw [Ty.build] at h
      refine Ty.not_needsSeveral_of_readOr (fun h => ?_) h
      rcases bind_eq_error.mp h with h | ⟨_, -, h⟩
      · exact Site.not_needsSeveral_of_checkCompound h
      rcases bind_eq_error.mp h with h | ⟨_, -, h⟩
      · exact Ty.buildMembers_not_needsSeveral env ms h
      dsimp only at h
      split at h
      · rcases bind_eq_error.mp h with h | ⟨_, -, h⟩
        · exact Site.not_needsSeveral_of_checkDeepObject h
        · cases h
      · cases h
    | document d w o =>
      rw [Ty.build] at h
      cases h
  | .keyedOnly k, site, tag, mode, e, h => by
    rw [Ty.build] at h
    cases h
    exact id
  | .plain _ _, site, tag, mode, e, h | .enum _, site, tag, mode, e, h
  | .union _ _, site, tag, mode, e, h | .literal _, site, tag, mode, e, h
  | .callable _ _, site, tag, mode, e, h | .generic _ _ _, site, tag, mode, e, h
  | .ellipsis, site, tag, mode, e, h => by
    cases mode with
    | plain b noted =>
      rw [Ty.build] at h
      refine Ty.not_needsSeveral_of_readOr (fun h => ?_) h
      cases h
      rintro (h | h) <;> cases h
    | document d w o =>
      rw [Ty.build] at h
      cases h

theorem Ty.buildSlots_not_needsSeveral (env : Env) : ∀ (es : List Ty) {site : Site} {tag : Tag}
    {e : CompileError}, site.explodes tag = false → tag.deepObject = false →
    Ty.buildSlots env es site tag = .error e → ¬ e.NeedsSeveral
  | [], site, tag, e, honce, hdeep, h => by cases h
  | t :: ts, site, tag, e, honce, hdeep, h => by
    rw [Ty.buildSlots] at h
    rcases bind_eq_error.mp h with h | ⟨u, hu, h⟩
    · exact Ty.build_not_needsSeveral env t h
    rcases bind_eq_error.mp h with h | ⟨_, -, h⟩
    · exact absurd h (Ty.element_ne_error honce hdeep hu)
    rcases bind_eq_error.mp h with h | ⟨_, -, h⟩
    · exact Ty.buildSlots_not_needsSeveral env ts honce hdeep h
    · cases h

theorem Ty.buildMembers_not_needsSeveral (env : Env) : ∀ (ms : List (Member Ty)) {place : Place}
    {deep : Bool} {taken : List String} {e : CompileError},
    Ty.buildMembers env ms place deep taken = .error e → ¬ e.NeedsSeveral
  | [], place, deep, taken, e, h => by cases h
  | m :: ms, place, deep, taken, e, h => by
    rw [Ty.buildMembers] at h
    rcases bind_eq_error.mp h with h | ⟨tag, -, h⟩
    · exact CompileError.not_needsSeveral_of_ofTag h
    split at h
    · exact Ty.buildMembers_not_needsSeveral env ms h
    dsimp only at h
    split at h
    · cases h
      exact id
    generalize (if deep = true then tag else tag.withoutExplode) = tag' at h
    split at h
    · cases h
      exact id
    rcases bind_eq_error.mp h with h | ⟨mode, -, h⟩
    · exact Env.not_needsSeveral_of_mode h
    rcases bind_eq_error.mp h with h | ⟨u, -, h⟩
    · exact Ty.build_not_needsSeveral env m.type h
    rcases bind_eq_error.mp h with h | ⟨_, -, h⟩
    · exact Ty.buildMembers_not_needsSeveral env ms h
    · cases h

end

theorem Ty.unpacker_not_needsSeveral (h : t.unpacker env site tag = .error e) :
    ¬ e.NeedsSeveral := by
  rcases bind_eq_error.mp h with h | ⟨mode, -, h⟩
  · exact Env.not_needsSeveral_of_mode h
  · exact Ty.build_not_needsSeveral env t h

end Errors

/-! ### Parts -/

/-- Something to be decoded: its type, the parameter it is decoded from, and the tag. -/
structure Part where
  type : Ty
  site : Site
  tag : Tag

namespace Part

/-- The unpacker of a part. -/
def unpacker (env : Env) (p : Part) : Except CompileError Unpacker :=
  p.type.unpacker env p.site p.tag

/-- A type whose own decoder is put together from those of its parts. -/
structure Splits (env : Env) (p : Part) (s : Shape) : Prop where
  content : p.tag.content = ""
  reader : p.type.core.reader? env.registry = none
  shape : p.type.core.shape = s

/-- A type whose documents are given one element at a time. -/
structure SplitsDocuments (p : Part) (s : Shape) : Prop where
  content : p.tag.content ≠ ""
  explodes : p.site.explodes p.tag = true
  shape : p.type.documentShape = s

/-- The parts that the decoder of a part calls the decoders of, and what these have to take. -/
inductive Calls (env : Env) (p : Part) : Part → List Capability → Prop where
  | element {c : Collection} {e : Ty} (h : p.Splits env (.slice c e)) :
    Calls env p ⟨e, p.site, p.tag.withoutExplode⟩ [.text]
  | place {es : List Ty} (h : p.Splits env (.array es)) {e : Ty} (he : e ∈ es) :
    Calls env p ⟨e, p.site, p.tag.withoutExplode⟩ [.text]
  | key {k v : Ty} (h : p.Splits env (.map k v)) :
    Calls env p ⟨k, p.site, p.tag.withoutExplode.withoutDeepObject⟩ [.text]
  | value {k v : Ty} (h : p.Splits env (.map k v)) (hdeep : p.tag.deepObject = false) :
    Calls env p ⟨v, p.site, p.tag.withoutExplode⟩ [.text]
  | keyedValue {k v : Ty} (h : p.Splits env (.map k v)) (hdeep : p.tag.deepObject = true) :
    Calls env p ⟨v, p.site, p.tag.withoutDeepObject⟩ [.text, .occurrences]
  | member {head : ModelHead} {ms : List (Member Ty)} (h : p.Splits env (.struct head ms))
      {m : Member Ty} (hm : m ∈ ms) {tag : Tag}
      (htag : Tag.read true ((m.tag? env.options.tagKey).getD "") = .ok tag)
      (hskip : tag.base ≠ "-") :
    Calls env p ⟨m.type, ⟨m.name, Ty.memberKey tag m.name, p.site.place⟩,
      if p.tag.deepObject then tag else tag.withoutExplode⟩ [.text, .occurrences]
  | documentElement {c : Collection} {e : Ty} (h : p.SplitsDocuments (.slice c e)) :
    Calls env p ⟨e, p.site, p.tag.withoutExplode⟩ [.text]
  | documentKey {k v : Ty} (h : p.SplitsDocuments (.map k v)) :
    Calls env p ⟨k, p.site, p.tag.withoutExplode.withoutContent.withoutDeepObject⟩ [.text]
  | documentValue {k v : Ty} (h : p.SplitsDocuments (.map k v)) :
    Calls env p ⟨v, p.site, p.tag.withoutExplode⟩ [.text]

variable {env : Env} {p q : Part} {allowed : List Capability} {u : Unpacker}

/-- The decoder of a part that splits is built by the type itself. -/
theorem Splits.build {s : Shape} (h : p.Splits env s) (hu : p.unpacker env = .ok u) :
    Ty.build env p.type p.site p.tag (.plain none none) = .ok u := by
  rw [unpacker, Ty.unpacker_plain h.content] at hu
  exact hu

/-- Its documents are built by their shape, with some decoder for them. -/
theorem SplitsDocuments.build {s : Shape} (h : p.SplitsDocuments s)
    (hu : p.unpacker env = .ok u) :
    ∃ d, env.options.fieldDecoder? p.tag.content = some d ∧
      s.documents env p.site p.tag d p.type = .ok u := by
  rw [unpacker, Ty.unpacker_document h.content, h.shape] at hu
  split at hu
  · rename_i d hd
    exact ⟨d, hd, hu⟩
  · cases hu

/-- The decoder of a single element is that of the element as a part. -/
theorem SplitsDocuments.exists_of_element {s : Shape} (h : p.SplitsDocuments s) {d : Decoder}
    (hd : env.options.fieldDecoder? p.tag.content = some d) {e : Ty} {elem : TextDecoder}
    (he : Ty.documentElement p.site p.tag.withoutExplode d e = .ok elem) :
    ∃ eu, (Part.mk e p.site p.tag.withoutExplode).unpacker env = .ok eu := by
  have hcontent : p.tag.withoutExplode.content ≠ "" := h.content
  rw [Ty.documentElement_eq hcontent hd (Site.explodes_withoutExplode _ _)] at he
  obtain ⟨eu, heu, -⟩ := bind_eq_ok.mp he
  exact ⟨eu, heu⟩

theorem unpacker_own (hcontent : q.tag.content = "")
    (h : Ty.build env q.type q.site q.tag .own = .ok u) : q.unpacker env = .ok u :=
  (Ty.unpacker_plain hcontent).trans h

/-- A part has an unpacker, and this takes something that its caller can give. -/
def Serves (env : Env) (q : Part) (allowed : List Capability) : Prop :=
  ∃ u, q.unpacker env = .ok u ∧ u.capability ∈ allowed

theorem serves_text (h : q.unpacker env = .ok u) (honce : q.site.explodes q.tag = false)
    (hdeep : q.tag.content = "" → q.tag.deepObject = false) : q.Serves env [.text] := by
  refine ⟨u, h, ?_⟩
  rw [Ty.unpacker_takes h, Ty.capability_eq_text honce hdeep]
  exact List.mem_singleton_self _

theorem serves_texts (h : q.unpacker env = .ok u) (hdeep : q.tag.deepObject = false) :
    q.Serves env [.text, .occurrences] := by
  refine ⟨u, h, ?_⟩
  rw [Ty.unpacker_takes h]
  exact Ty.capability_mem_texts hdeep

/-- **One call.** A part that is called serves the one that calls it, when that has an unpacker. -/
theorem serves_of_calls (hp : p.unpacker env = .ok u) (h : Calls env p q allowed) :
    q.Serves env allowed := by
  have honce := Site.explodes_withoutExplode p.site p.tag
  cases h with
  | @element c e h =>
    obtain ⟨-, hdeep, eu, -, heu, -⟩ := Ty.build_slice h.reader h.shape (h.build hp)
    exact serves_text (unpacker_own h.content heu) honce fun _ => hdeep
  | @place es h e he =>
    obtain ⟨-, hdeep, slots, hslots, -⟩ := Ty.build_array h.reader h.shape (h.build hp)
    obtain ⟨eu, heu⟩ := Ty.exists_of_buildSlots hslots he
    exact serves_text (unpacker_own h.content heu) honce fun _ => hdeep
  | @key k v h =>
    obtain ⟨-, ku, -, hku, -, -⟩ := Ty.build_keyValue h.reader h.shape (h.build hp)
    exact serves_text (unpacker_own h.content hku) honce fun _ => rfl
  | @value k v h hdeep =>
    obtain ⟨-, -, -, -, -, ⟨hkeys, -⟩ | ⟨-, vu, -, hvu, -⟩⟩ :=
      Ty.build_keyValue h.reader h.shape (h.build hp)
    · rw [hdeep] at hkeys
      cases hkeys
    · exact serves_text (unpacker_own h.content hvu) honce fun _ => hdeep
  | @keyedValue k v h hdeep =>
    obtain ⟨-, -, -, -, -, ⟨-, -, vu, hvu, -⟩ | ⟨hno, -⟩⟩ :=
      Ty.build_keyValue h.reader h.shape (h.build hp)
    · exact serves_texts (unpacker_own h.content hvu) rfl
    · rw [hdeep] at hno
      cases hno
  | @member head ms h m hm tag htag hskip =>
    obtain ⟨-, d, htargets, -⟩ := Ty.build_struct h.reader h.shape (h.build hp)
    obtain ⟨hdeep, v, hv, -⟩ := Ty.exists_of_buildMembers htargets hm htag hskip
    refine serves_texts hv ?_
    dsimp only
    split <;> exact hdeep
  | @documentElement c e h =>
    obtain ⟨d, hd, hu⟩ := h.build hp
    rw [Shape.documents, Ty.documentList, if_pos h.explodes] at hu
    obtain ⟨elem, helem, -⟩ := bind_eq_ok.mp hu
    obtain ⟨eu, heu⟩ := h.exists_of_element hd helem
    exact serves_text heu honce fun hcontent => absurd hcontent h.content
  | @documentKey k v h =>
    obtain ⟨d, hd, hu⟩ := h.build hp
    rw [Shape.documents, if_pos h.explodes] at hu
    obtain ⟨ku, hku, -⟩ := bind_eq_ok.mp hu
    exact serves_text (unpacker_own rfl hku) honce fun _ => rfl
  | @documentValue k v h =>
    obtain ⟨d, hd, hu⟩ := h.build hp
    rw [Shape.documents, if_pos h.explodes] at hu
    obtain ⟨ku, -, hu⟩ := bind_eq_ok.mp hu
    obtain ⟨key, -, hu⟩ := bind_eq_ok.mp hu
    obtain ⟨value, hvalue, -⟩ := bind_eq_ok.mp hu
    obtain ⟨vu, hvu⟩ := h.exists_of_element hd hvalue
    exact serves_text hvu honce fun hcontent => absurd hcontent h.content

/-- The parts that are reached by calls from a part. -/
def Reaches (env : Env) : Part → Part → Prop :=
  Relation.ReflTransGen fun p q => ∃ allowed, Calls env p q allowed

/-- Every call leads from a part with an unpacker to another one. -/
theorem exists_of_reaches (hp : p.unpacker env = .ok u) (h : Reaches env p q) :
    ∃ v, q.unpacker env = .ok v := by
  induction h with
  | refl => exact ⟨u, hp⟩
  | tail _ hcall ih =>
    obtain ⟨v, hv⟩ := ih
    obtain ⟨allowed, hcall⟩ := hcall
    obtain ⟨w, hw, -⟩ := serves_of_calls hv hcall
    exact ⟨w, hw⟩

/-- **All calls.** However deep a part lies, it serves the one that calls it. -/
theorem serves_of_reaches (hp : p.unpacker env = .ok u) {r : Part} (hreach : Reaches env p q)
    (h : Calls env q r allowed) : r.Serves env allowed := by
  obtain ⟨v, hv⟩ := exists_of_reaches hp hreach
  exact serves_of_calls hv h

end Part

/-! ### Compiled models -/

namespace Member

/-- What is decoded into a field with a tag. -/
def part (m : Member Ty) (tag : Tag) : Part := ⟨m.type, m.site tag, tag⟩

theorem unpacker_of_binding? {env : Env} {m : Member Ty} {x : Binding}
    (h : m.binding? env = some x) : (m.part x.tag).unpacker env = .ok x.filler.unpacker := by
  obtain ⟨tag, -, h⟩ := Option.bind_eq_some_iff.mp h
  split at h
  · cases h
  · obtain ⟨u, hu, rfl⟩ := Option.map_eq_some_iff.mp h
    exact toOption_eq_some.mp hu

end Member

/-- Every decoder that a compiled model calls is there: those of the parameters, as the part of the
request that they belong to calls them, and those of all parts of the types of fields. -/
structure Binder.Served (env : Env) (b : Binder) : Prop where
  path : ∀ f ∈ b.fillers.path, f.unpacker.capability = .text
  cookie : ∀ f ∈ b.fillers.cookie, f.unpacker.capability = .text
  header : ∀ f ∈ b.fillers.header, f.unpacker.capability ∈ [Capability.text, .occurrences]
  query : ∀ f ∈ b.fillers.query, f.unpacker.capability ∈ [Capability.text, .occurrences]
  form : ∀ f ∈ b.fillers.form, f.unpacker.capability ∈ [Capability.text, .occurrences]
  deepObject : ∀ f ∈ b.fillers.deepObject, f.unpacker.capability = .keys
  formDeepObject : ∀ f ∈ b.fillers.formDeepObject, f.unpacker.capability = .keys
  parts : ∀ m ∈ b.members, ∀ x, m.binding? env = some x →
    ∀ q r allowed, Part.Reaches env (m.part x.tag) q → Part.Calls env q r allowed →
      r.Serves env allowed

section Compiled

variable {env : Env} {t : Ty} {b : Binder} {x : Binding}

/-- Only parameters of the query take keys. -/
theorem Ty.query_of_keys {site : Site} {tag : Tag} {u : Unpacker}
    (h : t.unpacker env site tag = .ok u) (hkeys : u.capability = .keys) :
    site.place = .query := by
  have htable := Ty.unpacker_takes h
  rw [hkeys, capability] at htable
  split at htable
  · rename_i hcontent
    rw [unpacker_plain hcontent] at h
    have hdeep : tag.deepObject = true := by
      rw [ownCapability] at htable
      split at htable
      · assumption
      · split at htable <;> cases htable
    exact (Ty.build_keys hdeep h).1
  · rw [documentCapability] at htable
    split at htable <;> cases htable

/-- Only parameters that can be repeated take all occurrences. -/
theorem Ty.explodes_of_occurrences {site : Site} {tag : Tag}
    (h : t.capability env site tag = .occurrences) : site.explodes tag = true := by
  cases hexplodes : site.explodes tag with
  | true => rfl
  | false =>
    rw [capability, ownCapability, documentCapability, hexplodes] at h
    split at h
    · split at h <;> cases h
    · cases h

theorem Binding.mem_texts (hx : x ∈ bindings env b.members) (hplace : x.place ≠ .query) :
    x.filler.unpacker.capability ∈ [Capability.text, .occurrences] := by
  obtain ⟨m, -, hx⟩ := List.mem_filterMap.mp hx
  cases htakes : x.filler.unpacker.capability with
  | keys => exact absurd (Ty.query_of_keys (Member.unpacker_of_binding? hx) htakes) hplace
  | _ => simp

/-- A parameter that cannot be repeated is one text. -/
theorem Binding.capability_eq_text (hx : x ∈ bindings env b.members) (hplace : x.place ≠ .query)
    (hrepeats : x.place.repeats = false) : x.filler.unpacker.capability = .text := by
  rcases List.mem_pair.mp (mem_texts hx hplace) with htext | hoccurrences
  · exact htext
  · obtain ⟨m, -, hx⟩ := List.mem_filterMap.mp hx
    rw [Ty.unpacker_takes (Member.unpacker_of_binding? hx)] at hoccurrences
    have hexplodes := Ty.explodes_of_occurrences hoccurrences
    have honce : (m.part x.tag).site.explodes x.tag = false := by
      show (x.place.repeats && x.tag.explode) = false
      rw [hrepeats, Bool.false_and]
    exact absurd (hexplodes.symm.trans honce) Bool.noConfusion

theorem Binding.isKeyed_iff : x.isKeyed = true ↔ x.filler.unpacker.capability = .keys := by
  unfold isKeyed
  cases x.filler.unpacker <;> simp [Unpacker.deepObject?, Unpacker.capability]

theorem exists_of_mem_table {holds : Binding → Bool} {f : Filler}
    (hf : f ∈ Fillers.table (bindings env b.members) holds) :
    ∃ x ∈ bindings env b.members, holds x = true ∧ x.filler = f := by
  obtain ⟨x, hx, rfl⟩ := List.mem_map.mp hf
  obtain ⟨hx, hholds⟩ := List.mem_filter.mp hx
  exact ⟨x, hx, hholds, rfl⟩

/-- **Compiled models.** Every decoder that is called is there. -/
theorem Binder.served_of_compile (hb : t.compile env = .ok (.binder b)) : b.Served env := by
  have hfillers := Ty.fillers_of_compile hb
  have hkeyed : ∀ {holds : Binding → Bool} {f : Filler},
      f ∈ Fillers.table (bindings env b.members) (fun x => holds x && x.isKeyed) →
      f.unpacker.capability = .keys := by
    intro holds f hf
    obtain ⟨x, -, hx, rfl⟩ := exists_of_mem_table hf
    exact Binding.isKeyed_iff.mp (Bool.and_eq_true_iff.mp hx).2
  have hplain : ∀ {holds : Binding → Bool} {f : Filler},
      f ∈ Fillers.table (bindings env b.members) (fun x => holds x && !x.isKeyed) →
      f.unpacker.capability ∈ [Capability.text, .occurrences] := by
    intro holds f hf
    obtain ⟨x, -, hx, rfl⟩ := exists_of_mem_table hf
    have hno : x.isKeyed = false := by simpa using (Bool.and_eq_true_iff.mp hx).2
    cases htakes : x.filler.unpacker.capability with
    | keys =>
      rw [Binding.isKeyed_iff.mpr htakes] at hno
      cases hno
    | _ => simp
  constructor
  case path =>
    intro f hf
    rw [hfillers] at hf
    obtain ⟨x, hx, rfl⟩ := List.mem_map.mp hf
    obtain ⟨hx, hplace⟩ := List.mem_filter.mp hx
    have hplace : x.place = .path := of_decide_eq_true hplace
    exact Binding.capability_eq_text hx (by rw [hplace]; exact Place.noConfusion)
      (by rw [hplace]; rfl)
  case cookie =>
    intro f hf
    rw [hfillers] at hf
    obtain ⟨x, hx, hplace, rfl⟩ := exists_of_mem_table hf
    have hplace : x.place = .cookie := of_decide_eq_true hplace
    exact Binding.capability_eq_text hx (by rw [hplace]; exact Place.noConfusion)
      (by rw [hplace]; rfl)
  case header =>
    intro f hf
    rw [hfillers] at hf
    obtain ⟨x, hx, hplace, rfl⟩ := exists_of_mem_table hf
    have hplace : x.place = .header := of_decide_eq_true hplace
    exact Binding.mem_texts hx (by rw [hplace]; exact Place.noConfusion)
  case query | form =>
    intro f hf
    rw [hfillers] at hf
    exact hplain hf
  case deepObject | formDeepObject =>
    intro f hf
    rw [hfillers] at hf
    exact hkeyed hf
  case parts =>
    intro m _ x hx q r allowed hreach hcall
    exact Part.serves_of_reaches (Member.unpacker_of_binding? hx) hreach hcall

/-- No model is rejected because an element or a value would need several texts. -/
theorem Ty.compile_not_needsSeveral {e : CompileError} (he : t.compile env = .error e) :
    ¬ e.NeedsSeveral := by
  rcases Ty.compile_eq_error he with rfl | ⟨h, ms, he⟩
  · exact id
  rcases ModelHead.compile_eq_error he with ⟨m, -, fs, he⟩ | ⟨_, _, rfl⟩ | ⟨_, rfl⟩
  · rcases Fillers.addMember_eq_error he with ⟨_, _, rfl⟩ | ⟨_, rfl⟩ | ⟨tag, -, he⟩
    · exact id
    · exact id
    · exact Ty.unpacker_not_needsSeveral he
  · exact id
  · exact id

end Compiled

/-- **Capabilities.** Whatever unpacker is built takes what the table says. So every decoder that is
called is there: that of an element, key, value or field by the decoder of its whole, however deep,
and that of a parameter by the step that fills it. The errors about elements and values that would
need several texts do not happen. -/
theorem Ty.capabilities (env : Env) :
    (∀ (t : Ty) (site : Site) (tag : Tag) (u : Unpacker), t.unpacker env site tag = .ok u →
      u.capability = t.capability env site tag) ∧
    (∀ (p q r : Part) (allowed : List Capability) (u : Unpacker), p.unpacker env = .ok u →
      Part.Reaches env p q → Part.Calls env q r allowed → r.Serves env allowed) ∧
    (∀ (t : Ty) (site : Site) (tag : Tag) (e : CompileError), t.unpacker env site tag = .error e →
      ¬ e.NeedsSeveral) ∧
    (∀ (t : Ty) (b : Binder), t.compile env = .ok (.binder b) → b.Served env) ∧
    ∀ (t : Ty) (e : CompileError), t.compile env = .error e → ¬ e.NeedsSeveral := by
  refine ⟨fun t site tag u h => Ty.unpacker_takes h, ?_,
    fun t site tag e h => Ty.unpacker_not_needsSeveral h,
    fun t b h => Binder.served_of_compile h, fun t e h => Ty.compile_not_needsSeveral h⟩
  intro p q r allowed u hp hreach hcall
  exact Part.serves_of_reaches hp hreach hcall

/-- Lists of numbers by texts. -/
def numbersByKey : Ty := .map .dict .str (.sequence .list (.scalar { kind := .int }) true) true

/-- A model with one field, which takes keys. -/
def tallied (t : Ty) : Ty :=
  .model { cls := { name := "Tallied" } }
    [{ name := "counts", type := t, tags := [(defaultTagKey, "query,deepObject=true")] }]

/-- The parameter of the field, as it is compiled. -/
def talliedPart : Part :=
  ⟨numbersByKey, ⟨"counts", "counts", .query⟩,
    { base := "query", explode := true, deepObject := true }⟩

/-- The numbers in the lists are decoded from one text each, and a field without any decoder is not
rejected for needing several texts. -/
theorem tallied_capabilities :
    (∃ u, talliedPart.unpacker ⟨{}, []⟩ = .ok u ∧ u.capability = .keys) ∧
      (Part.mk (.scalar { kind := .int }) talliedPart.site
        talliedPart.tag.withoutDeepObject.withoutExplode).Serves ⟨{}, []⟩ [.text] ∧
      (∃ e, Ty.ellipsis.unpacker ⟨{}, []⟩ talliedPart.site talliedPart.tag = .error e ∧
        ¬ e.NeedsSeveral) ∧
      (∃ b, (tallied numbersByKey).compile ⟨{}, []⟩ = .ok (.binder b) ∧ b.Served ⟨{}, []⟩) ∧
      ∃ e, (tallied .ellipsis).compile ⟨{}, []⟩ = .error e ∧ ¬ e.NeedsSeveral := by
  obtain ⟨htable, hparts, herror, hcompile, hrejected⟩ := Ty.capabilities ⟨{}, []⟩
  have hu : talliedPart.unpacker ⟨{}, []⟩ = .ok (.deepObject _) := rfl
  have hvalues : talliedPart.Splits ⟨{}, []⟩ (.map _ _) := ⟨rfl, rfl, rfl⟩
  have hcall := Part.Calls.keyedValue hvalues rfl
  have hnumbers : (Part.mk (.sequence .list (.scalar { kind := .int }) true) talliedPart.site
      talliedPart.tag.withoutDeepObject).Splits ⟨{}, []⟩ (.slice _ _) := ⟨rfl, rfl, rfl⟩
  have hreach : Part.Reaches ⟨{}, []⟩ talliedPart _ := .single ⟨_, hcall⟩
  have hbinder : (tallied numbersByKey).compile ⟨{}, []⟩ =
      .ok (.binder (.declared ⟨{}, []⟩ _ _)) := rfl
  have hnone : Ty.ellipsis.unpacker ⟨{}, []⟩ talliedPart.site talliedPart.tag = .error _ := rfl
  have hno : (tallied .ellipsis).compile ⟨{}, []⟩ = .error _ := rfl
  exact ⟨⟨_, hu, htable _ _ _ _ hu⟩, hparts _ _ _ _ _ hu hreach (.element hnumbers),
    ⟨_, hnone, herror _ _ _ _ hnone⟩, ⟨_, hbinder, hcompile _ _ hbinder⟩,
    ⟨_, hno, hrejected _ _ hno⟩⟩

end ParamBinding
