import ParamBinding.Binder.Compile
import ParamBinding.Proofs.Fallible

/-!
# What tags say

Two facts about tags. A flag that is written behind a tag is read after all that stands there, and
nothing else changes (`Tag.read_concat`). And the unpacker of a parameter is built from four things
that its tag says: whether it is exploded, with which delimiter, from which documents, and whether
it takes keys (`Ty.unpacker_sameWriting`). Where a form may fill the field is none of them.
-/

namespace ParamBinding

open ParamBinding.Text

/-! ### Pieces of a tag -/

namespace Text

variable {c : Char}

theorem splitFrom_ne_nil (sep cs : List Char) (skip : Nat) : splitFrom sep skip cs ≠ [] := by
  induction cs generalizing skip with
  | nil => cases skip <;> exact List.cons_ne_nil _ _
  | cons x cs ih =>
    cases skip with
    | succ k => exact ih k
    | zero =>
      rw [splitFrom]
      split
      · exact List.cons_ne_nil _ _
      · cases splitFrom sep 0 cs <;> exact List.cons_ne_nil _ _

theorem consFirst_append (x : Char) {ps : List (List Char)} (qs : List (List Char))
    (h : ps ≠ []) : consFirst x (ps ++ qs) = consFirst x ps ++ qs := by
  cases ps with
  | nil => exact absurd rfl h
  | cons p ps => rfl

theorem splitFrom_cons (x : Char) (cs : List Char) :
    splitFrom [c] 0 (x :: cs) =
      if c = x then [] :: splitFrom [c] 0 cs else consFirst x (splitFrom [c] 0 cs) := by
  rw [splitFrom, List.isPrefixOf, List.isPrefixOf, Bool.and_true]
  simp only [beq_iff_eq]
  rfl

/-- A text with a separator in it is cut there, whatever stands before it. -/
theorem splitOn_append (cs ds : List Char) :
    splitOn [c] (cs ++ c :: ds) = splitOn [c] cs ++ splitOn [c] ds := by
  unfold splitOn
  induction cs with
  | nil =>
    rw [List.nil_append, splitFrom_cons, if_pos rfl]
    rfl
  | cons x cs ih =>
    rw [List.cons_append, splitFrom_cons, splitFrom_cons, ih]
    split
    · rfl
    · exact consFirst_append x _ (splitFrom_ne_nil _ _ _)

end Text

namespace Tag

/-- The name of the option that a piece of a tag writes. -/
def optionName (part : List Char) : String := String.ofList (cutAt '=' part).1

/-- The names of the options in a tag. -/
def optionNames (text : String) : List String :=
  (splitOn [','] text.toList).tail.map optionName

/-! ### Reading one option more -/

theorem name_of_formOnly {name : String} (h : Key.ofName? name = some (.flag .formOnly)) :
    name = "formOnly" := by
  unfold Key.ofName? at h
  repeat' split at h
  all_goals cases h
  assumption

/-- An option that is read has the name of its key. -/
theorem key_of_readOption {seen : List Setting} {part : List Char} {s : Setting}
    (h : readOption seen part = .ok s) : Key.ofName? (optionName part) = some s.key := by
  unfold readOption at h
  dsimp only at h
  split at h
  · cases h
  split at h
  · cases h
  · rename_i key hkey
    rw [optionName, hkey]
    split at h
    · cases h
    · -- the setting is read for the key
      unfold readSetting at h
      cases key <;> dsimp only at h <;> repeat' split at h
      all_goals first | cases h; rfl | cases h

/-- Options are read one after another, so each of them has been read from some piece. -/
theorem key_of_readOptions {seen settings : List Setting} {parts : List (List Char)}
    (h : readOptions seen parts = .ok settings) {s : Setting} (hs : s ∈ settings) :
    s ∈ seen ∨ ∃ part ∈ parts, Key.ofName? (optionName part) = some s.key := by
  induction parts generalizing seen with
  | nil =>
    cases h
    exact .inl hs
  | cons part parts ih =>
    obtain ⟨s', hs', h⟩ := bind_eq_ok.mp h
    rcases ih h with hseen | ⟨p, hp, hkey⟩
    · rcases List.mem_append.mp hseen with hseen | hseen
      · exact .inl hseen
      · rw [List.mem_singleton.mp hseen]
        exact .inr ⟨part, List.mem_cons_self, key_of_readOption hs'⟩
    · exact .inr ⟨p, List.mem_cons_of_mem part hp, hkey⟩

theorem readOptions_concat (parts : List (List Char)) (part : List Char) (seen : List Setting) :
    readOptions seen (parts ++ [part]) =
      readOptions seen parts >>= fun settings =>
        readOption settings part >>= fun s => .ok (settings ++ [s]) := by
  induction parts generalizing seen with
  | nil => rfl
  | cons p parts ih =>
    rw [List.cons_append, readOptions, readOptions, bind_assoc]
    exact congrArg _ (funext fun s => ih (seen ++ [s]))

section FormOnly

variable {text : String} {tag : Tag}

/-- What stands behind a tag is one more piece of it. -/
theorem splitOn_concat :
    splitOn [','] (text ++ ",formOnly").toList =
      splitOn [','] text.toList ++ ["formOnly".toList] := by
  have hlist : (text ++ ",formOnly").toList = text.toList ++ ',' :: "formOnly".toList := by
    rw [String.toList_append]
    rfl
  rw [hlist, splitOn_append]
  rfl

/-- The settings with the flag behind them. -/
def withFormOnly (settings : List Setting) : List Setting := settings ++ [.flag .formOnly true]

section Settings

variable {settings : List Setting}

theorem text?_withFormOnly (t : TextOption) :
    text? (withFormOnly settings) t = text? settings t := by
  rw [text?, withFormOnly, List.findSome?_append]
  exact Option.or_none

theorem flag?_withFormOnly (f : Flag) :
    flag? (withFormOnly settings) f =
      (flag? settings f).or (if f = .formOnly then some true else none) := by
  rw [flag?, withFormOnly, List.findSome?_append]
  cases f <;> rfl

theorem flag?_withFormOnly_of_ne {f : Flag} (h : f ≠ .formOnly) :
    flag? (withFormOnly settings) f = flag? settings f := by
  rw [flag?_withFormOnly, if_neg h, Option.or_none]

theorem flag?_eq_none {f : Flag} (h : ∀ s ∈ settings, s.key ≠ .flag f) :
    flag? settings f = none := by
  rw [flag?, List.findSome?_eq_none_iff]
  intro s hs
  cases s with
  | flag g b =>
    refine if_neg fun hg => ?_
    exact h _ hs (congrArg Key.flag hg)
  | text t v => rfl

/-- The flag is on when no setting before it is for it. -/
theorem isOn_withFormOnly (h : ∀ s ∈ settings, s.key ≠ .flag .formOnly) :
    isOn (withFormOnly settings) .formOnly = true := by
  rw [isOn, flag?_withFormOnly, flag?_eq_none h]
  rfl

theorem isOn_withFormOnly_of_ne {f : Flag} (h : f ≠ .formOnly) :
    isOn (withFormOnly settings) f = isOn settings f := by
  rw [isOn, isOn, flag?_withFormOnly_of_ne h]

theorem ofSettings_withFormOnly (base : String)
    (h : ∀ s ∈ settings, s.key ≠ .flag .formOnly) :
    ofSettings false base (withFormOnly settings) =
      { ofSettings false base settings with formOnly := true } := by
  simp only [ofSettings, text?_withFormOnly, isOn_withFormOnly h,
    flag?_withFormOnly_of_ne (f := .explode) (by decide),
    isOn_withFormOnly_of_ne (f := .allowReserved) (by decide),
    isOn_withFormOnly_of_ne (f := .form) (by decide),
    isOn_withFormOnly_of_ne (f := .deepObject) (by decide)]

/-- A query parameter may have the flag, unless it is for both the query and forms. -/
theorem problem?_withFormOnly (hform : isOn settings .form = false)
    (h : problem? false "query" settings = none) :
    problem? false "query" (withFormOnly settings) = none := by
  have htop : ∀ s, topLevelProblem? "query" s = none := by
    intro s
    rfl
  unfold problem? at h ⊢
  rw [text?_withFormOnly]
  split at h
  · cases h
  · rename_i hdelimiter
    rw [if_neg hdelimiter, if_neg (by decide), htop, isOn_withFormOnly_of_ne (by decide), hform]
    rfl

end Settings

/-- A flag that no option of a tag is for can be written behind the tag. -/
theorem readOptions_formOnly {parts : List (List Char)} {settings : List Setting}
    (hfresh : ∀ s ∈ settings, s.key ≠ .flag .formOnly)
    (h : readOptions [] parts = .ok settings) :
    readOptions [] (parts ++ ["formOnly".toList]) = .ok (withFormOnly settings) := by
  have hseen : settings.any (·.key = .flag .formOnly) = false := by
    rw [List.any_eq_false]
    exact fun s hs hkey => hfresh s hs (of_decide_eq_true hkey)
  have hread : readOption settings "formOnly".toList = .ok (.flag .formOnly true) := by
    have hname : cutAt '=' "formOnly".toList = ("formOnly".toList, none) := by decide
    have hkey : Key.ofName? "formOnly" = some (.flag .formOnly) := by decide
    rw [readOption, hname, if_neg (by decide)]
    simp only [String.ofList_toList, hkey, hseen]
    rfl
  rw [readOptions_concat, h]
  show (readOption settings "formOnly".toList >>= fun s => _) = _
  rw [hread]
  rfl

/-- No setting is for the flag when no option has its name. -/
theorem fresh_of_readOptions {parts : List (List Char)} {settings : List Setting}
    (h : readOptions [] parts = .ok settings) (hnew : "formOnly" ∉ parts.map optionName) :
    ∀ s ∈ settings, s.key ≠ .flag .formOnly := by
  intro s hs hkey
  rcases key_of_readOptions h hs with hs | ⟨part, hpart, hname⟩
  · cases hs
  · rw [hkey] at hname
    exact hnew (List.mem_map.mpr ⟨part, hpart, name_of_formOnly hname⟩)

/-- A tag is read when its base is known, its options are read one by one, and nothing is wrong with
them as a whole. -/
theorem read_eq_ok {base : List Char} {options : List (List Char)}
    (hparts : splitOn [','] text.toList = base :: options) :
    read false text = .ok tag ↔ bases.contains (String.ofList (trim isBlank base)) = true ∧
      ∃ settings, readOptions [] options = .ok settings ∧
        problem? false (String.ofList (trim isBlank base)) settings = none ∧
        ofSettings false (String.ofList (trim isBlank base)) settings = tag := by
  unfold read
  simp only [hparts, List.headD_cons, List.tail_cons, Bool.not_false, Bool.true_and]
  cases hbase : bases.contains (String.ofList (trim isBlank base)) with
  | false => simp
  | true =>
    rw [Bool.not_true, if_neg Bool.false_ne_true, bind_eq_ok, and_iff_right rfl]
    refine exists_congr fun settings => and_congr_right fun _ => ?_
    cases problem? false (String.ofList (trim isBlank base)) settings <;> simp

theorem exists_parts (text : String) :
    ∃ base options, splitOn [','] text.toList = base :: options :=
  List.exists_cons_of_ne_nil (splitFrom_ne_nil [','] text.toList 0)

/-- A flag that no option of a tag names is off. -/
theorem formOnly_of_read (h : read false text = .ok tag) (hnew : "formOnly" ∉ optionNames text) :
    tag.formOnly = false := by
  obtain ⟨base, options, hparts⟩ := exists_parts text
  obtain ⟨-, settings, hsettings, -, rfl⟩ := (read_eq_ok hparts).mp h
  rw [optionNames, hparts, List.tail_cons] at hnew
  show isOn settings .formOnly = false
  rw [isOn, flag?_eq_none (fresh_of_readOptions hsettings hnew)]
  rfl

/-- **One flag more.** The tag of a query parameter that is not for forms can be read with
`formOnly` behind it when no option of it has this name, and then it says the same, but that only a
form may fill the field. -/
theorem read_concat (h : read false text = .ok tag) (hquery : tag.base = "query")
    (hform : tag.form = false) (hnew : "formOnly" ∉ optionNames text) :
    read false (text ++ ",formOnly") = .ok { tag with formOnly := true } := by
  obtain ⟨base, options, hparts⟩ := exists_parts text
  have hlonger : splitOn [','] (text ++ ",formOnly").toList =
      base :: (options ++ ["formOnly".toList]) := by
    rw [splitOn_concat, hparts, List.cons_append]
  obtain ⟨hbase, settings, hsettings, hproblem, rfl⟩ := (read_eq_ok hparts).mp h
  rw [optionNames, hparts, List.tail_cons] at hnew
  have hfresh := fresh_of_readOptions hsettings hnew
  replace hquery : String.ofList (trim isBlank base) = "query" := hquery
  rw [hquery] at hproblem hbase ⊢
  refine (read_eq_ok hlonger).mpr ?_
  rw [hquery]
  exact ⟨hbase, _, readOptions_formOnly hfresh hsettings, problem?_withFormOnly hform hproblem,
    ofSettings_withFormOnly "query" hfresh⟩

end FormOnly

/-- Two tags want the texts of a parameter to be written in the same way. -/
structure SameWriting (t u : Tag) : Prop where
  explode : t.explode = u.explode
  delimiter : t.delimiter = u.delimiter
  content : t.content = u.content
  deepObject : t.deepObject = u.deepObject

namespace SameWriting

variable {t u : Tag}

theorem withoutExplode (h : t.SameWriting u) : t.withoutExplode.SameWriting u.withoutExplode :=
  ⟨rfl, h.delimiter, h.content, h.deepObject⟩

theorem withoutContent (h : t.SameWriting u) : t.withoutContent.SameWriting u.withoutContent :=
  ⟨h.explode, h.delimiter, rfl, h.deepObject⟩

theorem withoutDeepObject (h : t.SameWriting u) :
    t.withoutDeepObject.SameWriting u.withoutDeepObject :=
  ⟨h.explode, h.delimiter, h.content, rfl⟩

theorem rejectDeepObject (h : t.SameWriting u) (s : Site) :
    s.rejectDeepObject t = s.rejectDeepObject u := by
  rw [Site.rejectDeepObject, Site.rejectDeepObject, h.deepObject]

theorem checkCompound (h : t.SameWriting u) (s : Site) :
    s.checkCompound t = s.checkCompound u := by
  rw [Site.checkCompound, Site.checkCompound, h.delimiter, h.explode]

theorem explodes (h : t.SameWriting u) (s : Site) : s.explodes t = s.explodes u := by
  rw [Site.explodes, Site.explodes, h.explode]

theorem listUnpacker (h : t.SameWriting u) (s : Site) : s.listUnpacker t = s.listUnpacker u := by
  funext d
  rw [Site.listUnpacker, Site.listUnpacker, h.explodes, h.delimiter]

theorem tokenUnpacker (h : t.SameWriting u) (s : Site) :
    s.tokenUnpacker t = s.tokenUnpacker u := by
  funext d
  rw [Site.tokenUnpacker, Site.tokenUnpacker, h.explodes, h.delimiter]

theorem readOr (h : t.SameWriting u) (env : Env) (s : Site) (type : Ty)
    (other : Except CompileError Unpacker) :
    type.readOr env s t other = type.readOr env s u other := by
  rw [Ty.readOr, Ty.readOr, h.rejectDeepObject]

theorem documentElement (h : t.SameWriting u) (s : Site) (d : Decoder) (type : Ty) :
    Ty.documentElement s t d type = Ty.documentElement s u d type := by
  rw [Ty.documentElement, Ty.documentElement, h.content]

theorem documentList (h : t.SameWriting u) (s : Site) (d : Decoder) (whole : Ty) (c : Collection)
    (elem : Ty) : Ty.documentList s t d whole c elem = Ty.documentList s u d whole c elem := by
  rw [Ty.documentList, Ty.documentList, h.explodes, h.withoutExplode.documentElement, h.content]

theorem mode (h : t.SameWriting u) (env : Env) (s : Site) (type : Ty) :
    env.mode s t type = env.mode s u type := by
  rw [Env.mode, Env.mode, h.content]

end SameWriting

end Tag

/-! ### Building -/

mutual

/-- The unpacker of a parameter is the same for tags that want its texts to be written in the same
way. -/
theorem Ty.build_sameWriting (env : Env) : ∀ (t : Ty) (site : Site) {tag tag' : Tag} (mode : Mode),
    tag.SameWriting tag' → Ty.build env t site tag mode = Ty.build env t site tag' mode
  | .annotated t ns, site, tag, tag', mode, h => by
    cases mode with
    | plain b noted =>
      rw [Ty.build, Ty.build]
      exact Ty.build_sameWriting env t site _ h
    | document d w o =>
      rw [Ty.build, Ty.build]
      exact Ty.build_sameWriting env t site _ h
  | .optional f t, site, tag, tag', mode, h => by
    cases mode with
    | plain b noted => rw [Ty.build, Ty.build, h.readOr, Ty.build_sameWriting env t site _ h]
    | document d w o => rw [Ty.build, Ty.build, h.content, Ty.build_sameWriting env t site _ h]
  | .scalar s, site, tag, tag', mode, h => by
    cases mode with
    | plain b noted => rw [Ty.build, Ty.build, h.readOr, h.rejectDeepObject]
    | document d w o => rw [Ty.build, Ty.build, h.content]
  | .sequence n e spelled, site, tag, tag', mode, h => by
    cases mode with
    | plain b noted =>
      rw [Ty.build, Ty.build, h.readOr, h.checkCompound, h.deepObject, h.listUnpacker,
        Ty.build_sameWriting env e site _ h.withoutExplode]
    | document d w o => rw [Ty.build, Ty.build, h.documentList]
  | .row c e form, site, tag, tag', mode, h => by
    cases mode with
    | plain b noted =>
      rw [Ty.build, Ty.build, h.readOr, h.checkCompound, h.deepObject, h.listUnpacker,
        Ty.build_sameWriting env e site _ h.withoutExplode]
    | document d w o => rw [Ty.build, Ty.build, h.documentList]
  | .tuple c es, site, tag, tag', mode, h => by
    cases mode with
    | plain b noted =>
      rw [Ty.build, Ty.build, h.readOr, h.checkCompound, h.deepObject, h.listUnpacker,
        Ty.buildSlots_sameWriting env es site h.withoutExplode]
    | document d w o => rw [Ty.build, Ty.build, h.content]
  | .map n k v spelled, site, tag, tag', mode, h => by
    have hkey := Ty.build_sameWriting env k site .own h.withoutExplode.withoutDeepObject
    cases mode with
    | plain b noted =>
      have hvalue : Ty.build env v site
            (if tag.deepObject then tag.withoutDeepObject else tag.withoutExplode) .own =
          Ty.build env v site
            (if tag'.deepObject then tag'.withoutDeepObject else tag'.withoutExplode) .own := by
        rw [h.deepObject]
        split
        · exact Ty.build_sameWriting env v site .own h.withoutDeepObject
        · exact Ty.build_sameWriting env v site .own h.withoutExplode
      rw [Ty.build, Ty.build, h.readOr, h.checkCompound, hkey]
      dsimp only
      rw [hvalue, h.deepObject, h.tokenUnpacker]
    | document d w o =>
      rw [Ty.build, Ty.build, h.explodes,
        Ty.build_sameWriting env k site .own h.withoutExplode.withoutContent.withoutDeepObject,
        h.withoutExplode.documentElement, h.content]
  | .model head ms, site, tag, tag', mode, h => by
    cases mode with
    | plain b noted =>
      rw [Ty.build, Ty.build, h.readOr, h.checkCompound, h.deepObject, h.tokenUnpacker]
    | document d w o => rw [Ty.build, Ty.build, h.content]
  | .keyedOnly k, site, tag, tag', mode, h => by
    rw [Ty.build, Ty.build]
  | .plain _ _, site, tag, tag', mode, h | .enum _, site, tag, tag', mode, h
  | .union _ _, site, tag, tag', mode, h | .literal _, site, tag, tag', mode, h
  | .callable _ _, site, tag, tag', mode, h | .generic _ _ _, site, tag, tag', mode, h
  | .ellipsis, site, tag, tag', mode, h => by
    cases mode with
    | plain b noted => rw [Ty.build, Ty.build, h.readOr]
    | document d w o => rw [Ty.build, Ty.build, h.content]

theorem Ty.buildSlots_sameWriting (env : Env) : ∀ (ts : List Ty) (site : Site) {tag tag' : Tag},
    tag.SameWriting tag' → Ty.buildSlots env ts site tag = Ty.buildSlots env ts site tag'
  | [], site, tag, tag', h => by rw [Ty.buildSlots, Ty.buildSlots]
  | t :: ts, site, tag, tag', h => by
    rw [Ty.buildSlots, Ty.buildSlots, Ty.build_sameWriting env t site .own h,
      Ty.buildSlots_sameWriting env ts site h]

end

/-- **Written alike, unpacked alike.** -/
theorem Ty.unpacker_sameWriting (env : Env) (t : Ty) (site : Site) {tag tag' : Tag}
    (h : tag.SameWriting tag') : t.unpacker env site tag = t.unpacker env site tag' := by
  rw [Ty.unpacker, Ty.unpacker, h.mode]
  exact congrArg _ (funext fun mode => Ty.build_sameWriting env t site mode h)

end ParamBinding
