import ParamBinding.Proofs.Cutting
import ParamBinding.Proofs.Schedule

/-!
# Names of keys

A name that no parameter without keys has is looked at for brackets. It is taken for the key of a
parameter just when it is the name of that parameter with the key in brackets behind it, or this with
one line break more (`Urlencoded.bracketed?_eq_some`). So two names may come down to the same key,
but only these two, and then the values of the later one are kept (`Binder.keys_recognised`).
-/

namespace ParamBinding

open ParamBinding.Text

/-! ### Brackets -/

namespace Urlencoded

/-- The name of a key of a parameter. -/
def keyName (root key : String) : String := root ++ "[" ++ key ++ "]"

/-- A root and a key that can be told apart in the name that is made of them. -/
structure Separable (root key : String) : Prop where
  root_ne : root ≠ ""
  root_bare : '[' ∉ root.toList
  key_ne : key ≠ ""
  key_bare : ']' ∉ key.toList

/-- A name is written as a key. -/
def WritesKey (name root key : String) : Prop :=
  name = keyName root key ∨ name = keyName root key ++ "\n"

theorem toList_keyName (root key : String) :
    (keyName root key).toList = root.toList ++ '[' :: (key.toList ++ [']']) := by
  simp [keyName]

theorem writesKey_iff {name root key : String} :
    WritesKey name root key ↔ ∃ behind : List Char, (behind = [] ∨ behind = ['\n']) ∧
      name.toList = root.toList ++ '[' :: (key.toList ++ ']' :: behind) := by
  unfold WritesKey
  rw [← String.toList_inj, ← String.toList_inj, String.toList_append, toList_keyName]
  simp

/-- A name has brackets when it is written as a key of some root. -/
theorem bracketed?_eq_some {name root key : String} :
    bracketed? name = some (root, key) ↔ Separable root key ∧ WritesKey name root key := by
  rw [writesKey_iff]
  unfold bracketed?
  constructor
  · intro h
    split at h
    · cases h
    · rename_i r rest hcut
      obtain ⟨hname, hroot⟩ := cutAt_eq_some.mp hcut
      split at h
      · cases h
      · rename_i k behind hcut
        obtain ⟨hrest, hkey⟩ := cutAt_eq_some.mp hcut
        by_cases hempty : (r.isEmpty || k.isEmpty) = true
        · rw [if_pos hempty] at h
          cases h
        rw [if_neg hempty] at h
        by_cases hbehind : (behind = [] || behind = ['\n']) = true
        · rw [if_pos hbehind] at h
          cases h
          simp only [Bool.or_eq_true, List.isEmpty_iff, decide_eq_true_eq] at hempty hbehind
          rw [not_or] at hempty
          refine ⟨⟨?_, ?_, ?_, ?_⟩, behind, hbehind, ?_⟩
          · simpa using hempty.1
          · simpa using hroot
          · simpa using hempty.2
          · simpa using hkey
          · rw [String.toList_ofList, String.toList_ofList, hname, hrest]
        · rw [if_neg hbehind] at h
          cases h
  · rintro ⟨hsep, behind, hbehind, hname⟩
    rw [hname, cutAt_append _ hsep.root_bare]
    dsimp only
    rw [cutAt_append _ hsep.key_bare]
    have hempty : (root.toList.isEmpty || key.toList.isEmpty) = false := by
      simp [hsep.root_ne, hsep.key_ne]
    have hbehind : (behind = [] || behind = ['\n']) = true := by simpa using hbehind
    dsimp only
    rw [if_neg (Bool.eq_false_iff.mp hempty), if_pos hbehind, String.ofList_toList,
      String.ofList_toList]

/-- Two different names that are written as the same key differ by a line break at the end. -/
theorem WritesKey.eq_or {name other root key : String} (h : WritesKey name root key)
    (ho : WritesKey other root key) (hne : name ≠ other) :
    (name = keyName root key ∧ other = keyName root key ++ "\n") ∨
      (other = keyName root key ∧ name = keyName root key ++ "\n") := by
  rcases h with rfl | rfl <;> rcases ho with rfl | rfl
  · exact absurd rfl hne
  · exact .inl ⟨rfl, rfl⟩
  · exact .inr ⟨rfl, rfl⟩
  · exact absurd rfl hne

end Urlencoded

/-! ### What a name is taken for -/

theorem isSome_lookupFiller {table : List Filler} {name : String} :
    (lookupFiller table name).isSome ↔ name ∈ table.map (·.name) := by
  rw [lookupFiller, List.find?_isSome, List.mem_map]
  simp only [decide_eq_true_eq]

theorem lookupFiller_eq_none {table : List Filler} {name : String} :
    lookupFiller table name = none ↔ name ∉ table.map (·.name) := by
  rw [← isSome_lookupFiller, Option.not_isSome_iff_eq_none]

namespace Binder

open Urlencoded

variable (b : Binder) (part : NamePart)

/-- A part of the request may have a key of a parameter. -/
def TakesKey (root key : String) : Prop :=
  root ∈ (b.keyedTable part).map (·.name) ∧ Separable root key

variable {b part}

/-- **Which names are keys.** A name that no parameter without keys has is a key just when it is
written as one that the part may have. -/
theorem usage_eq_key {name root key : String} (h : name ∉ (b.plainTable part).map (·.name)) :
    b.usage part name = .key root key ↔ b.TakesKey part root key ∧ WritesKey name root key := by
  -- a name is a key when its texts have to wait for the key
  have hkey : b.usage part name = .key root key ↔
      (b.usage part name).waiting? [] = some ⟨root, key, []⟩ := by
    cases b.usage part name <;> simp [NameUse.waiting?]
  rw [hkey, usage, NameUse.waiting?_eq_some, lookupFiller_eq_none, isSome_lookupFiller,
    bracketed?_eq_some, TakesKey]
  simp only [and_true]
  tauto

/-- Any other name is unknown. -/
theorem usage_eq_unknown {name : String} (h : name ∉ (b.plainTable part).map (·.name)) :
    b.usage part name = .unknown ↔
      ∀ root key, ¬ (b.TakesKey part root key ∧ WritesKey name root key) := by
  constructor
  · intro hunknown root key hkey
    rw [(usage_eq_key h).mpr hkey] at hunknown
    cases hunknown
  · intro hnone
    cases huse : b.usage part name with
    | parameter f =>
      have hf := usage_eq_parameter.mp huse
      rw [lookupFiller_eq_none.mpr h] at hf
      cases hf
    | key root key => exact absurd ((usage_eq_key h).mp huse) (hnone root key)
    | unknown => rfl

/-- What is done at once for a name that is not a parameter's: it is refused when it is unknown and
nothing unknown is let through. -/
theorem outcome_of_not_mem {name : String} (h : name ∉ (b.plainTable part).map (·.name))
    (vs : List String) :
    (b.usage part name).outcome b.strict name vs = .fail (.unknownParameter name false) ↔
      b.strict = true ∧ ∀ root key, ¬ (b.TakesKey part root key ∧ WritesKey name root key) := by
  rw [← usage_eq_unknown h]
  cases huse : b.usage part name with
  | parameter f =>
    have hf := usage_eq_parameter.mp huse
    rw [lookupFiller_eq_none.mpr h] at hf
    cases hf
  | key root key => simp [NameUse.outcome]
  | unknown => cases hstrict : b.strict <;> simp [NameUse.outcome]

end Binder

/-! ### What is kept for a key -/

/-- Entries with one changed hold what the change makes of it, and elsewhere what they held. -/
theorem lookup_upsert {κ β : Type} [DecidableEq κ] (init : β) (k : κ) (change : β → β)
    (entries : List (κ × β)) (k' : κ) :
    (upsert init k change entries).lookup k' =
      if k' = k then some (change ((entries.lookup k).getD init)) else entries.lookup k' := by
  induction entries with
  | nil => rw [upsert, lookup_cons_eq_ite, List.lookup_nil, List.lookup_nil, Option.getD_none]
  | cons e rest ih =>
    obtain ⟨ke, v⟩ := e
    rw [upsert]
    by_cases hke : ke = k
    · subst hke
      rw [if_pos rfl, lookup_cons_eq_ite, lookup_cons_eq_ite, lookup_cons_eq_ite, if_pos rfl,
        Option.getD_some]
      by_cases hk : k' = ke
      · rw [if_pos hk, if_pos hk]
      · rw [if_neg hk, if_neg hk, if_neg hk]
    · rw [if_neg hke, lookup_cons_eq_ite, lookup_cons_eq_ite, lookup_cons_eq_ite, ih,
        if_neg (Ne.symm hke)]
      by_cases hk : k' = ke
      · rw [if_pos hk, if_neg (hk ▸ hke), if_pos hk]
      · rw [if_neg hk, if_neg hk]

theorem putKey_eq_upsert (key : String) (vs : List String) (keys : List (String × List String)) :
    putKey key vs keys = upsert [] key (fun _ => vs) keys := by
  induction keys with
  | nil => rfl
  | cons e rest ih => rw [putKey, upsert, ih]

namespace Buffered

/-- The texts that are kept for a key of a parameter. -/
def texts? (kept : Buffered) (root key : String) : Option (List String) :=
  (kept.lookup root).bind (·.lookup key)

/-- **Frame.** Texts that are put in for one key leave those of all others alone. -/
theorem texts?_put (kept : Buffered) (root key : String) (vs : List String) (root' key' : String) :
    (kept.put root key vs).texts? root' key' =
      if root' = root ∧ key' = key then some vs else kept.texts? root' key' := by
  rw [texts?, texts?, put_eq_upsert, lookup_upsert]
  by_cases hroot : root' = root
  · subst hroot
    rw [if_pos rfl, Option.bind_some, putKey_eq_upsert, lookup_upsert]
    by_cases hkey : key' = key
    · rw [if_pos hkey, if_pos ⟨rfl, hkey⟩]
    · rw [if_neg hkey, if_neg fun h => hkey h.2]
      cases kept.lookup root' <;> rfl
  · rw [if_neg hroot, if_neg fun h => hroot h.1]

end Buffered

/-- A name changes what is kept for the key it is, and for no other. -/
theorem NameUse.texts?_keep {use : NameUse} (vs : List String) (kept : Buffered) {root key : String} :
    (use = .key root key → (use.keep vs kept).texts? root key = some vs) ∧
      (use ≠ .key root key → (use.keep vs kept).texts? root key = kept.texts? root key) := by
  cases use with
  | key root' key' =>
    rw [keep, Buffered.texts?_put, NameUse.key.injEq, ne_eq, NameUse.key.injEq]
    constructor
    · rintro ⟨rfl, rfl⟩
      rw [if_pos ⟨rfl, rfl⟩]
    · intro hne
      rw [if_neg fun h => hne ⟨h.1.symm, h.2.symm⟩]
  | parameter f => exact ⟨nofun, fun _ => rfl⟩
  | unknown => exact ⟨nofun, fun _ => rfl⟩

namespace Binder

open Urlencoded

variable (b : Binder) (part : NamePart)

/-- What is kept after some names, each with its texts. -/
def keepAll (values : String → List String) (kept : Buffered) (ns : List String) : Buffered :=
  ns.foldl (fun kept name => (b.usage part name).keep (values name) kept) kept

variable {b part} {values : String → List String} {kept : Buffered} {root key : String}

/-- Names that are not a key leave what is kept for it alone. -/
theorem texts?_keepAll_of_forall {ns : List String} (h : ∀ n ∈ ns, b.usage part n ≠ .key root key) :
    (b.keepAll part values kept ns).texts? root key = kept.texts? root key := by
  induction ns generalizing kept with
  | nil => rfl
  | cons n ns ih =>
    have hstep := (NameUse.texts?_keep (values n) kept).2 (h n List.mem_cons_self)
    exact (ih fun m hm => h m (List.mem_cons_of_mem n hm)).trans hstep

/-- The last name that is a key decides what is kept for it. -/
theorem texts?_keepAll_of_last {before after : List String} {name : String}
    (huse : b.usage part name = .key root key)
    (hafter : ∀ n ∈ after, b.usage part n ≠ .key root key) :
    (b.keepAll part values kept (before ++ name :: after)).texts? root key =
      some (values name) := by
  rw [keepAll, List.foldl_append, List.foldl_cons]
  exact (texts?_keepAll_of_forall hafter).trans ((NameUse.texts?_keep _ _).1 huse)

/-- Among names, some last one is a key, or none is. -/
theorem exists_last_key (ns : List String) :
    (∀ n ∈ ns, b.usage part n ≠ .key root key) ∨
      ∃ before name after, ns = before ++ name :: after ∧ b.usage part name = .key root key ∧
        ∀ n ∈ after, b.usage part n ≠ .key root key := by
  induction ns with
  | nil => exact .inl (by simp)
  | cons n ns ih =>
    rcases ih with hnone | ⟨before, name, after, rfl, huse, hafter⟩
    · by_cases hn : b.usage part n = .key root key
      · exact .inr ⟨[], n, ns, rfl, hn, hnone⟩
      · exact .inl (List.forall_mem_cons.mpr ⟨hn, hnone⟩)
    · exact .inr ⟨n :: before, name, after, rfl, huse, hafter⟩

/-- **What is kept for a key:** the texts of the last name that is this key, or what was kept
before when there is none. -/
theorem texts?_keepAll {ns : List String} {vs : List String} :
    (b.keepAll part values kept ns).texts? root key = some vs ↔
      (∃ before name after, ns = before ++ name :: after ∧ b.usage part name = .key root key ∧
        (∀ n ∈ after, b.usage part n ≠ .key root key) ∧ values name = vs) ∨
      ((∀ n ∈ ns, b.usage part n ≠ .key root key) ∧ kept.texts? root key = some vs) := by
  constructor
  · intro h
    rcases exists_last_key ns with hnone | ⟨before, name, after, rfl, huse, hafter⟩
    · rw [texts?_keepAll_of_forall hnone] at h
      exact .inr ⟨hnone, h⟩
    · rw [texts?_keepAll_of_last huse hafter, Option.some.injEq] at h
      exact .inl ⟨before, name, after, rfl, huse, hafter, h⟩
  · rintro (⟨before, name, after, rfl, huse, hafter, rfl⟩ | ⟨hnone, h⟩)
    · exact texts?_keepAll_of_last huse hafter
    · rw [texts?_keepAll_of_forall hnone, h]

/-- Dealing with pairs is dealing with their names, each with all of its values. -/
theorem sortNames_eq_keepAll (items : List (String × String)) :
    b.sortNames (b.plainTable part) (b.keyedTable part) items kept =
      ⟨(Urlencoded.names items).map fun name =>
          (b.usage part name).outcome b.strict name (valuesOf items name),
        b.keepAll part (valuesOf items) kept (Urlencoded.names items)⟩ := by
  have hrun : ∀ (ns : List String) (s : Sorted),
      (ns.map fun name => (name, valuesOf items name)).foldl
          (fun s i => s.add (b.plainTable part) (b.keyedTable part) b.strict i.1 i.2) s =
        ⟨s.outcomes ++ ns.map fun name =>
            (b.usage part name).outcome b.strict name (valuesOf items name),
          b.keepAll part (valuesOf items) s.buffered ns⟩ := by
    intro ns
    induction ns with
    | nil => simp [keepAll]
    | cons n ns ih =>
      intro s
      rw [List.map_cons, List.foldl_cons, ih, Sorted.add]
      simp [keepAll, usage]
  rw [sortNames, group_eq, hrun, List.nil_append]

/-- **Keys in brackets.** Let the query or a form be dealt with, where some texts may have been kept
before. A name that no parameter without keys has is a key of a parameter just when the parameter
takes the key and the name is `root[key]`, or this with a line break behind it. For every key the
texts of the last name that is this key are kept, and only the two names of a key can meet in this
way. A name that is neither a parameter's nor a key is refused, if the model is strict. -/
theorem keys_recognised (b : Binder) (part : NamePart) (items : List (String × String))
    (kept : Buffered) :
    (∀ name, name ∉ (b.plainTable part).map (·.name) → ∀ root key,
      (b.usage part name = .key root key ↔ b.TakesKey part root key ∧ WritesKey name root key)) ∧
    (∀ root key vs,
      (b.sortNames (b.plainTable part) (b.keyedTable part) items kept).buffered.texts? root key =
          some vs ↔
        (∃ before name after, Urlencoded.names items = before ++ name :: after ∧
          b.usage part name = .key root key ∧
          (∀ other ∈ after, b.usage part other ≠ .key root key) ∧ valuesOf items name = vs) ∨
        ((∀ name ∈ Urlencoded.names items, b.usage part name ≠ .key root key) ∧
          kept.texts? root key = some vs)) ∧
    (∀ name other root key, b.usage part name = .key root key →
      b.usage part other = .key root key → name ≠ other →
        (name = keyName root key ∧ other = keyName root key ++ "\n") ∨
          (other = keyName root key ∧ name = keyName root key ++ "\n")) ∧
    (b.sortNames (b.plainTable part) (b.keyedTable part) items kept).outcomes =
      (Urlencoded.names items).map (fun name =>
        (b.usage part name).outcome b.strict name (valuesOf items name)) ∧
    ∀ name, name ∉ (b.plainTable part).map (·.name) →
      ((b.usage part name).outcome b.strict name (valuesOf items name) =
          .fail (.unknownParameter name false) ↔
        b.strict = true ∧
          ∀ root key, ¬ (b.TakesKey part root key ∧ WritesKey name root key)) := by
  rw [sortNames_eq_keepAll]
  refine ⟨fun name hname root key => usage_eq_key hname, fun root key vs => texts?_keepAll, ?_, rfl,
    fun name hname => outcome_of_not_mem hname _⟩
  intro name other root key hname hother hne
  have hwrites : ∀ n, b.usage part n = .key root key → WritesKey n root key := by
    intro n hn
    have hplain : n ∉ (b.plainTable part).map (·.name) := by
      rw [← lookupFiller_eq_none]
      cases hl : lookupFiller (b.plainTable part) n with
      | none => rfl
      | some f =>
        rw [usage_eq_parameter.mpr hl] at hn
        cases hn
    exact ((usage_eq_key hplain).mp hn).2
  exact (hwrites name hname).eq_or (hwrites other hother) hne

end Binder

/-- Numbers by their keys. -/
def filteredMembers : List (Member Ty) := [
  { name := "filter", type := .map .dict .str (.scalar { kind := .int }) true,
    tags := [(defaultTagKey, "query,deepObject=true")] }]

/-- A strict model takes a name with a line break behind its brackets for a key, although the name
is not that of the key, and its value takes the place of the key's own. -/
theorem line_break_is_key :
    ¬ ∀ (env : Env) (t : Ty) (b : Binder) (part : NamePart) (name root key : String),
      t.compile env = .ok (.binder b) → name ∉ (b.plainTable part).map (·.name) →
      (b.usage part name = .key root key ↔
        b.TakesKey part root key ∧ name = Urlencoded.keyName root key) := by
  intro hall
  have hb : (Ty.model { cls := { name := "Filtered" } } filteredMembers).compile
      ⟨{ strict := true }, []⟩ = .ok (.binder (.declared ⟨{ strict := true }, []⟩ _ _)) := rfl
  have hkey := hall _ _ _ .query "filter[a]\n" "filter" "a" hb (by rintro ⟨⟩)
  have husage := hkey.mp rfl
  exact absurd husage.2 (by decide)

example : (((Binder.declared ⟨{ strict := true }, []⟩ { cls := { name := "Filtered" } }
    filteredMembers).resolve { query := Text.utf8 "filter[a]=1&filter[a]%0A=2" } []).toOption.bind
      (·.get? "filter")).any (Value.same (.map [(.text "a", .int 2)])) = true := by decide +kernel

end ParamBinding
