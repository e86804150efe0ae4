import Mathlib.Data.List.Perm.Basic
import ParamBinding.Proofs.Cutting
import ParamBinding.Proofs.TagOptions

/-!
# The grammar of tags

A tag is read from left to right, with an early end at the first problem, and then once more as a
whole. Its grammar has no such order: the text falls into a base and options, every option spells a
setting (`Tag.Spells`), no two of them for the same key, and the settings fit the base and each
other (`Tag.Fits`). The reader accepts exactly the texts of the grammar, and what it gives is
described by the settings (`Tag.Describes`). As neither of the two asks for an order of settings,
the order of options does not count (`Tag.read_grammar`).
-/

namespace ParamBinding

open ParamBinding.Text

namespace Tag

/-! ### The grammar -/

/-- The name of an option. -/
def Key.name : Key → String
  | .flag .explode => "explode"
  | .flag .allowReserved => "allowReserved"
  | .flag .form => "form"
  | .flag .formOnly => "formOnly"
  | .flag .deepObject => "deepObject"
  | .text .name => "name"
  | .text .delimiter => "delimiter"
  | .text .content => "content"

/-- The words for a boolean. -/
def booleanWords : Bool → List String
  | true => ["1", "t", "T", "TRUE", "true", "True"]
  | false => ["0", "f", "F", "FALSE", "false", "False"]

/-- An option spells a setting: a flag alone or with a word for its value, and any other option with
its value as it stands. -/
inductive Spells : String → Setting → Prop where
  | bare (f : Flag) : Spells (Key.flag f).name (.flag f true)
  | flag (f : Flag) (b : Bool) (word : String) (h : word ∈ booleanWords b) :
    Spells ((Key.flag f).name ++ "=" ++ word) (.flag f b)
  | text (t : TextOption) (value : String) :
    Spells ((Key.text t).name ++ "=" ++ value) (.text t value)

/-- What stands in front of the first comma of a tag, without the blanks around it. -/
def writtenBase (s : String) : String := strip ((split "," s).headD "")

/-- The options of a tag, in the order in which they are written. -/
def writtenOptions (s : String) : List String := (split "," s).tail

/-- Settings fit the base of a tag and each other. -/
structure Fits (nested : Bool) (base : String) (settings : List Setting) : Prop where
  known : nested = false → base ∈ bases
  once : (settings.map Setting.key).Nodup
  delimiter : .text .delimiter "" ∉ settings
  form : ¬ (.flag .form true ∈ settings ∧ .flag .formOnly true ∈ settings)
  optionless : nested = false → base = "model" ∨ base = "-" → settings = []
  query : nested = false → base ≠ "query" → ∀ f ∈ queryFlags, .flag f true ∉ settings

/-- The value that settings give to a flag, or the one that it has without them. -/
def FlagIs (settings : List Setting) (f : Flag) (absent b : Bool) : Prop :=
  .flag f b ∈ settings ∨ (∀ c, .flag f c ∉ settings) ∧ b = absent

/-- The value that settings give to a text option, or the one that it has without them. -/
def TextIs (settings : List Setting) (t : TextOption) (absent v : String) : Prop :=
  .text t v ∈ settings ∨ (∀ w, .text t w ∉ settings) ∧ v = absent

/-- A tag says what a base and settings say, and nothing else. -/
structure Describes (nested : Bool) (base : String) (settings : List Setting) (tag : Tag) :
    Prop where
  name : TextIs settings .name "" tag.name
  explode : FlagIs settings .explode (!nested && (base = "query" || base = "header")) tag.explode
  delimiter : ∃ word, TextIs settings .delimiter "," word ∧ tag.delimiter = delimiterOf word
  allowReserved : FlagIs settings .allowReserved false tag.allowReserved
  form : FlagIs settings .form false tag.form
  formOnly : FlagIs settings .formOnly false tag.formOnly
  content : TextIs settings .content "" tag.content
  deepObject : FlagIs settings .deepObject false tag.deepObject
  base : tag.base = base

/-! ### One option -/

theorem Key.ofName?_eq_some {name : String} {key : Key} :
    Key.ofName? name = some key ↔ name = key.name := by
  constructor
  · intro h
    unfold ofName? at h
    repeat' split at h
    all_goals cases h
    all_goals assumption
  · rintro rfl
    cases key with
    | flag f => cases f <;> decide
    | text t => cases t <;> decide

/-- No name of an option has an equals sign, and none is empty. -/
theorem Key.name_bare (key : Key) : '=' ∉ key.name.toList ∧ key.name.toList ≠ [] := by
  cases key with
  | flag f => cases f <;> decide
  | text t => cases t <;> decide

theorem readBool?_eq_some {word : String} {b : Bool} :
    readBool? word = some b ↔ word ∈ booleanWords b := by
  have happart : ∀ word ∈ booleanWords true, word ∉ booleanWords false := by decide
  rw [readBool?, show ["1", "t", "T", "TRUE", "true", "True"] = booleanWords true from rfl,
    show ["0", "f", "F", "FALSE", "false", "False"] = booleanWords false from rfl]
  simp only [List.contains_iff_mem]
  by_cases htrue : word ∈ booleanWords true
  · cases b <;> simp [htrue, happart word htrue]
  · by_cases hfalse : word ∈ booleanWords false <;> cases b <;> simp [htrue, hfalse]

/-- An option with a name, and a value unless it stands alone. -/
def optionText (name : String) : Option String → String
  | none => name
  | some value => name ++ "=" ++ value

theorem cutAt_optionText {name : String} (raw : Option String) (h : '=' ∉ name.toList) :
    cutAt '=' (optionText name raw).toList = (name.toList, raw.map String.toList) := by
  cases raw with
  | none => exact cutAt_eq_none.mpr ⟨rfl, h⟩
  | some value =>
    have hlist : (optionText name (some value)).toList = name.toList ++ '=' :: value.toList := by
      simp [optionText]
    rw [hlist]
    exact cutAt_append _ h

theorem exists_optionText (option : String) :
    ∃ name raw, '=' ∉ name.toList ∧ option = optionText name raw := by
  rcases hcut : cutAt '=' option.toList with ⟨before, behind⟩
  cases behind with
  | none =>
    obtain ⟨hoption, hbare⟩ := cutAt_eq_none.mp hcut
    exact ⟨option, none, hoption ▸ hbare, rfl⟩
  | some value =>
    obtain ⟨hoption, hbare⟩ := cutAt_eq_some.mp hcut
    refine ⟨String.ofList before, some (String.ofList value), by simpa using hbare, ?_⟩
    apply String.toList_injective
    simp [optionText, hoption]

/-- What is read behind the name of an option is what the option spells. -/
theorem spells_of_readSetting {key : Key} {raw : Option String} {st : Setting}
    (h : readSetting key.name raw key = .ok st) :
    Spells (optionText key.name raw) st ∧ st.key = key := by
  cases key with
  | flag f =>
    cases raw with
    | none =>
      cases h
      exact ⟨.bare f, rfl⟩
    | some word =>
      simp only [readSetting] at h
      split at h
      · rename_i b hb
        cases h
        exact ⟨.flag f b word (readBool?_eq_some.mp hb), rfl⟩
      · cases h
  | text t =>
    cases raw with
    | none => cases h
    | some value =>
      cases h
      exact ⟨.text t value, rfl⟩

/-- An option with a known name is read by its key, unless the key was given before. -/
theorem readOption_optionText (seen : List Setting) (key : Key) (raw : Option String) :
    readOption seen (optionText key.name raw).toList =
      if key ∈ seen.map Setting.key then .error (.givenTwice key.name)
      else readSetting key.name raw key := by
  obtain ⟨hbare, hname⟩ := key.name_bare
  have hcut := cutAt_optionText raw hbare
  have hne : (optionText key.name raw).toList.isEmpty = false := by
    rw [List.isEmpty_eq_false_iff]
    intro hnil
    rw [hnil] at hcut
    exact hname (congrArg Prod.fst hcut).symm
  have hseen : (seen.any fun st => decide (st.key = key)) = true ↔ key ∈ seen.map Setting.key := by
    simp
  have hraw : (raw.map String.toList).map String.ofList = raw := by cases raw <;> simp
  rw [readOption, hne, if_neg Bool.false_ne_true, hcut]
  simp only [String.ofList_toList, Key.ofName?_eq_some.mpr rfl, hraw, hseen]

/-- **One option.** An option is read exactly when it spells a setting, and no option before it has
its key. -/
theorem readOption_eq_ok {seen : List Setting} {option : String} {st : Setting} :
    readOption seen option.toList = .ok st ↔
      Spells option st ∧ st.key ∉ seen.map Setting.key := by
  have hread : ∀ (key : Key) (raw : Option String), readSetting key.name raw key = .ok st →
      key ∉ seen.map Setting.key →
      readOption seen (optionText key.name raw).toList = .ok st := by
    intro key raw h hnew
    rw [readOption_optionText, if_neg hnew, h]
  constructor
  · intro h
    obtain ⟨name, raw, hbare, rfl⟩ := exists_optionText option
    have hkey := key_of_readOption h
    rw [optionName, cutAt_optionText raw hbare, String.ofList_toList,
      Key.ofName?_eq_some] at hkey
    subst hkey
    rw [readOption_optionText] at h
    split at h
    · cases h
    · rename_i hnew
      exact ⟨(spells_of_readSetting h).1, hnew⟩
  · rintro ⟨hspells, hnew⟩
    cases hspells with
    | bare f => exact hread (.flag f) none rfl hnew
    | flag f b word hword =>
      refine hread (.flag f) (some word) ?_ hnew
      simp [readSetting, readBool?_eq_some.mpr hword]
    | text t value => exact hread (.text t) (some value) rfl hnew

/-! ### All options -/

/-- **All options.** Options are read exactly when each of them spells a setting and no two of them
have the same key. -/
theorem readOptions_eq_ok {seen settings : List Setting} {options : List String}
    (hseen : (seen.map Setting.key).Nodup) :
    readOptions seen (options.map String.toList) = .ok settings ↔
      ∃ new, settings = seen ++ new ∧ List.Forall₂ Spells options new ∧
        ((seen ++ new).map Setting.key).Nodup := by
  induction options generalizing seen with
  | nil =>
    rw [List.map_nil, readOptions, Except.ok.injEq]
    constructor
    · rintro rfl
      exact ⟨[], by simp, .nil, by simpa using hseen⟩
    · rintro ⟨new, rfl, hnil, -⟩
      cases hnil
      simp
  | cons option options ih =>
    -- the setting of the first option joins those before it
    have hlonger : ∀ st : Setting, st.key ∉ seen.map Setting.key →
        ((seen ++ [st]).map Setting.key).Nodup := by
      intro st hnew
      rw [List.map_append, List.map_singleton]
      exact List.nodup_append.mpr ⟨hseen, by simp, fun k hk k' hk' heq => hnew (by simp_all)⟩
    rw [List.map_cons, readOptions, bind_eq_ok]
    simp only [readOption_eq_ok]
    constructor
    · rintro ⟨st, ⟨hspells, hnew⟩, h⟩
      obtain ⟨new, rfl, hrest, hnodup⟩ := (ih (hlonger st hnew)).mp h
      rw [List.append_assoc, List.singleton_append] at hnodup ⊢
      exact ⟨st :: new, rfl, .cons hspells hrest, hnodup⟩
    · rintro ⟨new, rfl, hspelled, hnodup⟩
      cases hspelled with
      | @cons _ st _ new hspells hrest =>
        have hnew : st.key ∉ seen.map Setting.key := by
          rw [List.map_append, List.nodup_append] at hnodup
          exact fun hmem => hnodup.2.2 _ hmem _ (List.mem_cons_self) rfl
        refine ⟨st, ⟨hspells, hnew⟩, (ih (hlonger st hnew)).mpr ⟨new, ?_, hrest, ?_⟩⟩
        · simp
        · simpa using hnodup

/-! ### Settings as a whole -/

section Settings

variable {settings : List Setting}

/-- The settings of a flag are those that hold its key. -/
theorem flag?_eq_some {f : Flag} {b : Bool} (h : (settings.map Setting.key).Nodup) :
    flag? settings f = some b ↔ .flag f b ∈ settings := by
  unfold flag?
  induction settings with
  | nil => simp
  | cons st rest ih =>
    rw [List.map_cons, List.nodup_cons] at h
    rw [List.findSome?_cons, List.mem_cons]
    cases st with
    | text t v => simpa using ih h.2
    | flag g c =>
      by_cases hg : g = f
      · subst hg
        have hother : .flag g b ∉ rest := fun hmem => h.1 (List.mem_map.mpr ⟨_, hmem, rfl⟩)
        simp [hother, eq_comm]
      · simpa [hg, Ne.symm hg] using ih h.2

/-- The settings of a text option are those that hold its key. -/
theorem text?_eq_some {t : TextOption} {v : String} (h : (settings.map Setting.key).Nodup) :
    text? settings t = some v ↔ .text t v ∈ settings := by
  unfold text?
  induction settings with
  | nil => simp
  | cons st rest ih =>
    rw [List.map_cons, List.nodup_cons] at h
    rw [List.findSome?_cons, List.mem_cons]
    cases st with
    | flag f b => simpa using ih h.2
    | text u w =>
      by_cases hu : u = t
      · subst hu
        have hother : .text u v ∉ rest := fun hmem => h.1 (List.mem_map.mpr ⟨_, hmem, rfl⟩)
        simp [hother, eq_comm]
      · simpa [hu, Ne.symm hu] using ih h.2

variable (h : (settings.map Setting.key).Nodup)
include h

theorem isOn_iff {f : Flag} : isOn settings f = true ↔ .flag f true ∈ settings := by
  rw [← flag?_eq_some h, isOn]
  cases flag? settings f with
  | none => simp
  | some b => simp

/-- What a flag is read as is what the settings say about it. -/
theorem flagIs_iff {f : Flag} {absent b : Bool} :
    FlagIs settings f absent b ↔ b = (flag? settings f).getD absent := by
  unfold FlagIs
  simp only [← flag?_eq_some h]
  cases flag? settings f <;> simp [eq_comm]

theorem textIs_iff {t : TextOption} {absent v : String} :
    TextIs settings t absent v ↔ v = (text? settings t).getD absent := by
  unfold TextIs
  simp only [← text?_eq_some h]
  cases text? settings t <;> simp [eq_comm]

theorem delimiter_iff {d : String} :
    (∃ word, TextIs settings .delimiter "," word ∧ d = delimiterOf word) ↔
      d = ((text? settings .delimiter).map delimiterOf).getD "," := by
  simp only [textIs_iff h, exists_eq_left]
  cases text? settings .delimiter <;> rfl

/-- The tag that is made of settings is the one that they describe. -/
theorem describes_iff {nested : Bool} {base : String} {tag : Tag} :
    Describes nested base settings tag ↔ tag = ofSettings nested base settings := by
  constructor
  · rintro ⟨hname, hexplode, hdelimiter, hreserved, hform, hformOnly, hcontent, hdeep, hbase⟩
    rw [textIs_iff h] at hname hcontent
    rw [flagIs_iff h] at hexplode hreserved hform hformOnly hdeep
    rw [delimiter_iff h] at hdelimiter
    cases tag
    simp only [ofSettings, isOn, Tag.mk.injEq]
    exact ⟨hbase, hname, hexplode, hdelimiter, hreserved, hform, hformOnly, hcontent, hdeep⟩
  · rintro rfl
    constructor
    case name | content => exact (textIs_iff h).mpr rfl
    case delimiter => exact (delimiter_iff h).mpr rfl
    case base => rfl
    all_goals exact (flagIs_iff h).mpr rfl

theorem topLevelProblem?_eq_none {base : String} :
    topLevelProblem? base settings = none ↔
      (base = "model" ∨ base = "-" → settings = []) ∧
        (base ≠ "query" → ∀ f ∈ queryFlags, .flag f true ∉ settings) := by
  have hflags : (queryFlags.find? (isOn settings)).map Problem.onlyForQuery = none ↔
      ∀ f ∈ queryFlags, .flag f true ∉ settings := by
    simp only [Option.map_eq_none_iff, List.find?_eq_none, isOn_iff h]
  unfold topLevelProblem?
  by_cases hgiven : (base = "model" ∨ base = "-") ∧ settings ≠ []
  · rw [if_pos (by simpa using hgiven)]
    simp [hgiven]
  · rw [if_neg (by simpa using hgiven)]
    have hnil : base = "model" ∨ base = "-" → settings = [] := fun hbare =>
      not_not.mp fun hne => hgiven ⟨hbare, hne⟩
    by_cases hquery : base = "query"
    · simp [hquery]
    · rw [if_pos hquery, hflags, and_iff_right hnil, forall_prop_of_true hquery]

theorem problem?_eq_none {nested : Bool} {base : String} :
    problem? nested base settings = none ↔
      .text .delimiter "" ∉ settings ∧ (nested = false → topLevelProblem? base settings = none) ∧
        ¬ (.flag .form true ∈ settings ∧ .flag .formOnly true ∈ settings) := by
  unfold problem?
  rw [← isOn_iff h, ← isOn_iff h, ← text?_eq_some h, ← Bool.and_eq_true]
  by_cases hdelimiter : text? settings .delimiter = some ""
  · simp [hdelimiter]
  · rw [if_neg hdelimiter]
    cases nested <;> cases topLevelProblem? base settings <;> simp [hdelimiter]

/-- Settings fit when the base is known and nothing is wrong with them as a whole. -/
theorem fits_iff {nested : Bool} {base : String} :
    Fits nested base settings ↔
      (nested = false → base ∈ bases) ∧ problem? nested base settings = none := by
  rw [problem?_eq_none h]
  simp only [topLevelProblem?_eq_none h]
  constructor
  · intro hfits
    exact ⟨hfits.known, hfits.delimiter,
      fun htop => ⟨hfits.optionless htop, hfits.query htop⟩, hfits.form⟩
  · rintro ⟨hknown, hdelimiter, htop, hform⟩
    exact ⟨hknown, h, hdelimiter, hform, fun hnested => (htop hnested).1,
      fun hnested => (htop hnested).2⟩

end Settings

/-! ### Reading -/

/-- The reader goes through the options of a tag, and then looks at them as a whole. -/
theorem read_eq (nested : Bool) (s : String) :
    read nested s =
      if !nested && !bases.contains (writtenBase s) then .error (.unknownBase (writtenBase s))
      else readOptions [] ((writtenOptions s).map String.toList) >>= fun settings =>
        match problem? nested (writtenBase s) settings with
        | some p => .error p
        | none => .ok (ofSettings nested (writtenBase s) settings) := by
  obtain ⟨first, rest, hparts⟩ := exists_parts s
  have hsplit : split "," s = String.ofList first :: rest.map String.ofList := by
    show (splitOn [','] s.toList).map String.ofList = _
    rw [hparts, List.map_cons]
  have hbase : writtenBase s = String.ofList (trim isBlank first) := by
    rw [writtenBase, hsplit, List.headD_cons, strip, String.toList_ofList]
  have hoptions : (writtenOptions s).map String.toList = rest := by
    rw [writtenOptions, hsplit, List.tail_cons, List.map_map]
    simp
  rw [read, hparts, hbase, hoptions]
  rfl

/-- A tag is read exactly when its options spell settings that fit, and then these describe it. -/
theorem read_eq_ok_iff {nested : Bool} {s : String} {tag : Tag} :
    read nested s = .ok tag ↔ ∃ settings, List.Forall₂ Spells (writtenOptions s) settings ∧
      Fits nested (writtenBase s) settings ∧ Describes nested (writtenBase s) settings tag := by
  have hoptions : ∀ settings, readOptions [] ((writtenOptions s).map String.toList) = .ok settings ↔
      List.Forall₂ Spells (writtenOptions s) settings ∧ (settings.map Setting.key).Nodup := by
    intro settings
    rw [@readOptions_eq_ok [] _ _ List.nodup_nil]
    simp
  rw [read_eq]
  by_cases hknown : nested = false → writtenBase s ∈ bases
  · rw [if_neg (by simpa using hknown), bind_eq_ok]
    refine exists_congr fun settings => ?_
    rw [hoptions, and_assoc]
    refine and_congr_right fun _ => ?_
    constructor
    · rintro ⟨h, hread⟩
      rw [fits_iff h, describes_iff h]
      split at hread
      · cases hread
      · rename_i hproblem
        exact ⟨⟨hknown, hproblem⟩, (Except.ok.inj hread).symm⟩
    · rintro ⟨hfits, hdescribes⟩
      have h := hfits.once
      rw [((fits_iff h).mp hfits).2, (describes_iff h).mp hdescribes]
      exact ⟨h, rfl⟩
  · rw [if_pos (by simpa using hknown)]
    refine iff_of_false nofun ?_
    rintro ⟨settings, -, hfits, -⟩
    exact hknown hfits.known

/-! ### Options in another order -/

section Order

variable {nested : Bool} {base : String} {settings settings' : List Setting}

theorem Fits.perm (h : Fits nested base settings) (hperm : settings.Perm settings') :
    Fits nested base settings' where
  known := h.known
  once := (hperm.map Setting.key).nodup_iff.mp h.once
  delimiter := fun hmem => h.delimiter (hperm.mem_iff.mpr hmem)
  form := fun hmem => h.form (hmem.imp hperm.mem_iff.mpr hperm.mem_iff.mpr)
  optionless := fun hnested hbase => by
    have hnil := h.optionless hnested hbase
    subst hnil
    exact hperm.nil_eq.symm
  query := fun hnested hbase f hf hmem => h.query hnested hbase f hf (hperm.mem_iff.mpr hmem)

theorem FlagIs.perm {f : Flag} {absent b : Bool} (h : FlagIs settings f absent b)
    (hperm : settings.Perm settings') : FlagIs settings' f absent b := by
  unfold FlagIs at h ⊢
  simpa only [hperm.mem_iff] using h

theorem TextIs.perm {t : TextOption} {absent v : String} (h : TextIs settings t absent v)
    (hperm : settings.Perm settings') : TextIs settings' t absent v := by
  unfold TextIs at h ⊢
  simpa only [hperm.mem_iff] using h

theorem Describes.perm {tag : Tag} (h : Describes nested base settings tag)
    (hperm : settings.Perm settings') : Describes nested base settings' tag where
  name := h.name.perm hperm
  explode := h.explode.perm hperm
  delimiter := h.delimiter.imp fun _ hword => ⟨hword.1.perm hperm, hword.2⟩
  allowReserved := h.allowReserved.perm hperm
  form := h.form.perm hperm
  formOnly := h.formOnly.perm hperm
  content := h.content.perm hperm
  deepObject := h.deepObject.perm hperm
  base := h.base

end Order

/-- An option spells one setting. -/
theorem Spells.unique {option : String} {st st' : Setting} (h : Spells option st)
    (h' : Spells option st') : st = st' := by
  have hread := (@readOption_eq_ok [] _ _).mpr ⟨h, List.not_mem_nil⟩
  rw [(@readOption_eq_ok [] _ _).mpr ⟨h', List.not_mem_nil⟩] at hread
  exact (Except.ok.inj hread).symm

end Tag

end ParamBinding
