import Mathlib.Data.List.Induction
import Mathlib.Data.List.Perm.Basic
import ParamBinding.Binder.Resolve

/-!
# Grouping by keys

The values of a name and the keys of a parameter are gathered in lists of entries, each begun where
its name or root comes up for the first time and changed where it comes up again. Both are `upsert`
with a change of their own, and one law says what a run of changes leaves behind (`foldl_upsert`):
the keys in the order of their first appearance, each with the changes that were meant for it, as if
there were no other key.

- `Urlencoded.group_eq`: every name with all its values in order.
- `Buffered.ofEntries_eq`: every root with the keys that belong to it.
-/

namespace ParamBinding

universe u v w

/-! ### First appearances -/

section FirstAppearance

variable {α : Type u} [DecidableEq α]

/-- No value appears for the first time twice. -/
theorem nodup_eraseDups : ∀ xs : List α, xs.eraseDups.Nodup
  | [] => List.nodup_nil
  | x :: xs => by
    rw [List.eraseDups_cons, List.nodup_cons, List.mem_eraseDups, List.mem_filter]
    refine ⟨fun hx => ?_, nodup_eraseDups _⟩
    simp at hx
termination_by xs => xs.length
decreasing_by exact Nat.lt_succ_of_le (List.length_filter_le _ _)

/-- A last value is only new when it has not appeared before. -/
theorem eraseDups_concat (xs : List α) (x : α) :
    (xs ++ [x]).eraseDups = if x ∈ xs then xs.eraseDups else xs.eraseDups ++ [x] := by
  rw [List.eraseDups_append]
  by_cases hx : x ∈ xs
  · simp [hx, List.removeAll]
  · simp [hx, List.removeAll, List.eraseDups_cons]

/-- Values that are left out do not change where the others appear first. -/
theorem eraseDups_filter (xs : List α) (p : α → Bool) :
    (xs.filter p).eraseDups = xs.eraseDups.filter p := by
  induction xs using List.reverseRecOn with
  | nil => rfl
  | append_singleton xs x ih =>
    rw [List.filter_append, eraseDups_concat]
    cases hp : p x with
    | false =>
      have hnil : [x].filter p = [] := by simp [hp]
      rw [hnil, List.append_nil, ih]
      split
      · rfl
      · rw [List.filter_append, hnil, List.append_nil]
    | true =>
      have hself : [x].filter p = [x] := by simp [hp]
      rw [hself, eraseDups_concat, ih]
      by_cases hx : x ∈ xs
      · rw [if_pos hx, if_pos (List.mem_filter.mpr ⟨hx, hp⟩)]
      · rw [if_neg hx, if_neg fun h => hx (List.mem_filter.mp h).1, List.filter_append, hself]

/-- Where every value appears once, it appears for the first time. -/
theorem eraseDups_of_nodup {xs : List α} (h : xs.Nodup) : xs.eraseDups = xs := by
  induction xs using List.reverseRecOn with
  | nil => rfl
  | append_singleton xs x ih =>
    rw [List.nodup_append] at h
    have hx : x ∉ xs := fun hmem => h.2.2 x hmem x (List.mem_singleton.mpr rfl) rfl
    rw [eraseDups_concat, if_neg hx, ih h.1]

/-- Items that are put together by their keys, each key where it appears first, are the same
items. -/
theorem perm_flatMap_filter {β : Type v} (key : β → α) : ∀ items : List β,
    ((items.map key).eraseDups.flatMap fun k => items.filter (key · = k)).Perm items
  | [] => .nil
  | i :: items => by
    let others := items.filter (key · ≠ key i)
    have ih := perm_flatMap_filter key others
    have hkeys : ((i :: items).map key).eraseDups = key i :: (others.map key).eraseDups := by
      rw [List.map_cons, List.eraseDups_cons, List.filter_map]
      congr 3
      refine List.filter_congr fun j _ => ?_
      by_cases h : key j = key i <;> simp [h]
    have hothers : ∀ k ∈ (others.map key).eraseDups,
        (i :: items).filter (key · = k) = others.filter (key · = k) := by
      intro k hk
      obtain ⟨j, hj, rfl⟩ := List.mem_map.mp (List.mem_eraseDups.mp hk)
      have hne : key j ≠ key i := of_decide_eq_true (List.mem_filter.mp hj).2
      rw [List.filter_cons_of_neg (by simpa using Ne.symm hne), List.filter_filter]
      refine List.filter_congr fun j' _ => ?_
      by_cases h : key j' = key j <;> simp [h, hne]
    have hself : ((i :: items).filter (key · ≠ key i)) = others :=
      List.filter_cons_of_neg (by simp)
    rw [hkeys, List.flatMap_cons, List.flatMap_congr hothers]
    refine (ih.append_left _).trans ?_
    rw [← hself]
    simpa using List.filter_append_perm (key · = key i) (i :: items)
termination_by items => items.length
decreasing_by exact Nat.lt_succ_of_le (List.length_filter_le _ _)

end FirstAppearance

/-! ### Lists of entries -/

theorem lookup_cons_eq_ite {κ β : Type} [DecidableEq κ] (k k' : κ) (v : β) (rest : List (κ × β)) :
    ((k', v) :: rest).lookup k = if k = k' then some v else rest.lookup k := by
  rw [List.lookup_cons]
  by_cases hk : k = k'
  · rw [if_pos hk, hk, beq_self_eq_true]
  · rw [if_neg hk, beq_false_of_ne hk]

/-- Where no key is repeated, a key has the value of its entry. -/
theorem lookup_eq_some_of_nodup {κ β : Type} [DecidableEq κ] {entries : List (κ × β)}
    (h : (entries.map (·.1)).Nodup) {k : κ} {v : β} :
    entries.lookup k = some v ↔ (k, v) ∈ entries := by
  induction entries with
  | nil => simp
  | cons e rest ih =>
    obtain ⟨k', v'⟩ := e
    rw [List.map_cons, List.nodup_cons] at h
    rw [lookup_cons_eq_ite, List.mem_cons, Prod.mk.injEq]
    by_cases hk : k = k'
    · subst hk
      rw [if_pos rfl, Option.some.injEq]
      constructor
      · rintro rfl
        exact .inl ⟨rfl, rfl⟩
      · rintro (⟨-, rfl⟩ | hmem)
        · rfl
        · exact absurd (List.mem_map.mpr ⟨_, hmem, rfl⟩) h.1
    · rw [if_neg hk, ih h.2]
      simp [hk]

section Upsert

variable {κ : Type u} {β : Type v} {γ : Type w} [DecidableEq κ]

/-- Entries with the one of a key changed, or begun at the end when there is none. -/
def upsert (init : β) (k : κ) (change : β → β) : List (κ × β) → List (κ × β)
  | [] => [(k, change init)]
  | (k', b) :: rest =>
    if k' = k then (k', change b) :: rest else (k', b) :: upsert init k change rest

/-- What the changes that are meant for a key make of the start. -/
def collect (init : β) (change : γ → β → β) (changes : List (κ × γ)) (k : κ) : β :=
  (changes.filter (·.1 = k)).foldl (fun b c => change c.2 b) init

theorem collect_concat (init : β) (change : γ → β → β) (changes : List (κ × γ)) (c : κ × γ)
    (k : κ) : collect init change (changes ++ [c]) k =
      if c.1 = k then change c.2 (collect init change changes k)
      else collect init change changes k := by
  unfold collect
  rw [List.filter_append, List.foldl_append]
  by_cases h : c.1 = k <;> simp [h]

theorem collect_of_not_mem (init : β) (change : γ → β → β) (changes : List (κ × γ)) {k : κ}
    (hk : k ∉ changes.map (·.1)) : collect init change changes k = init := by
  have hnil : changes.filter (·.1 = k) = [] := by
    rw [List.filter_eq_nil_iff]
    intro c hc hck
    exact hk (List.mem_map.mpr ⟨c, hc, of_decide_eq_true hck⟩)
  rw [collect, hnil]
  rfl

/-- A key that has no entry gets one at the end. -/
theorem upsert_of_not_mem (init : β) (k : κ) (change : β → β) (entries : List (κ × β))
    (hk : k ∉ entries.map (·.1)) :
    upsert init k change entries = entries ++ [(k, change init)] := by
  induction entries with
  | nil => rfl
  | cons e rest ih =>
    rw [List.map_cons, List.mem_cons, not_or] at hk
    rw [upsert, if_neg (Ne.symm hk.1), ih hk.2, List.cons_append]

/-- Keys that are all different keep their entries apart. -/
theorem upsert_of_mem (init : β) (k : κ) (change : β → β) (ks : List κ) (value : κ → β)
    (hks : ks.Nodup) (hk : k ∈ ks) :
    upsert init k change (ks.map fun x => (x, value x)) =
      ks.map fun x => (x, if k = x then change (value x) else value x) := by
  induction ks with
  | nil => cases hk
  | cons x ks ih =>
    rw [List.map_cons, List.map_cons, upsert]
    rw [List.nodup_cons] at hks
    by_cases hx : x = k
    · subst hx
      rw [if_pos rfl, if_pos rfl]
      congr 1
      refine List.map_congr_left fun y hy => ?_
      rw [if_neg]
      rintro rfl
      exact hks.1 hy
    · rw [if_neg hx, if_neg (Ne.symm hx)]
      congr 1
      rcases List.mem_cons.mp hk with rfl | hk
      · exact absurd rfl hx
      · exact ih hks.2 hk

/-- **Changes for different keys do not meet.** A run of changes leaves every key where it appeared
first, with what its own changes make of the start. -/
theorem foldl_upsert (init : β) (change : γ → β → β) (changes : List (κ × γ)) :
    changes.foldl (fun entries c => upsert init c.1 (change c.2) entries) [] =
      (changes.map (·.1)).eraseDups.map fun k => (k, collect init change changes k) := by
  -- on the last change: its key has an entry already, or it gets one at the end
  induction changes using List.reverseRecOn with
  | nil => rfl
  | append_singleton changes c ih =>
    rw [List.foldl_append, List.foldl_cons, List.foldl_nil, ih, List.map_append, List.map_cons,
      List.map_nil, eraseDups_concat]
    by_cases hc : c.1 ∈ changes.map (·.1)
    · rw [if_pos hc, upsert_of_mem _ _ _ _ _ (nodup_eraseDups _) (List.mem_eraseDups.mpr hc)]
      simp only [collect_concat]
    · rw [if_neg hc, upsert_of_not_mem, List.map_append, List.map_cons, List.map_nil,
        collect_concat, if_pos rfl, collect_of_not_mem _ _ _ hc]
      · congr 1
        refine List.map_congr_left fun k hk => ?_
        rw [collect_concat, if_neg]
        rintro rfl
        exact hc (List.mem_eraseDups.mp hk)
      · rw [List.map_map]
        intro hmem
        obtain ⟨k, hk, hkc⟩ := List.mem_map.mp hmem
        exact hc (List.mem_eraseDups.mp (hkc ▸ hk))

/-- Changes that add a value leave a key all the values that are added for it, in order. -/
theorem collect_append (items : List (κ × γ)) (k : κ) :
    collect [] (fun v vs => vs ++ [v]) items k = (items.filter (·.1 = k)).map (·.2) := by
  induction items using List.reverseRecOn with
  | nil => rfl
  | append_singleton items i ih =>
    rw [collect_concat, ih, List.filter_append, List.map_append]
    by_cases h : i.1 = k <;> simp [h]

/-- Changes for keys that are all different begin an entry each. -/
theorem foldl_upsert_of_nodup (init : β) (change : γ → β → β) (changes : List (κ × γ))
    (h : (changes.map (·.1)).Nodup) :
    changes.foldl (fun entries c => upsert init c.1 (change c.2) entries) [] =
      changes.map fun c => (c.1, change c.2 init) := by
  induction changes using List.reverseRecOn with
  | nil => rfl
  | append_singleton changes c ih =>
    rw [List.map_append, List.nodup_append] at h
    have hnew : c.1 ∉ (changes.map fun c => (c.1, change c.2 init)).map (·.1) := by
      rw [List.map_map]
      exact fun hmem => h.2.2 c.1 hmem c.1 (List.mem_singleton.mpr rfl) rfl
    rw [List.foldl_append, List.foldl_cons, List.foldl_nil, ih h.1, upsert_of_not_mem _ _ _ _ hnew,
      List.map_append, List.map_singleton]

end Upsert

/-! ### Values by their names -/

namespace Urlencoded

/-- The values of a name, in order. -/
def valuesOf (items : List (String × String)) (name : String) : List String :=
  (items.filter (·.1 = name)).map (·.2)

/-- The names that occur, in the order of their first appearance. -/
def names (items : List (String × String)) : List String := (items.map (·.1)).eraseDups

theorem addValue_eq_upsert (name value : String) (groups : List (String × List String)) :
    addValue name value groups = upsert [] name (· ++ [value]) groups := by
  induction groups with
  | nil => rfl
  | cons g rest ih => rw [addValue, upsert, ih]

theorem collect_eq_valuesOf (items : List (String × String)) (name : String) :
    collect [] (fun value values => values ++ [value]) items name = valuesOf items name :=
  collect_append items name

/-- Grouping keeps all values of a name, in order, and the names where they appeared first. -/
theorem group_eq (items : List (String × String)) :
    group items = (names items).map fun name => (name, valuesOf items name) := by
  unfold group
  simp only [addValue_eq_upsert]
  rw [foldl_upsert [] (fun value values => values ++ [value]) items]
  simp only [collect_eq_valuesOf, names]

end Urlencoded

/-! ### Texts by their roots and keys -/

/-- The texts of a key of a parameter. -/
structure KeyEntry where
  root : String
  key : String
  values : List String

/-- The keys of a parameter with their texts, where later texts take the place of older ones. -/
def keysOf (entries : List KeyEntry) (root : String) : List (String × List String) :=
  (entries.filter (·.root = root)).foldl (fun keys e => putKey e.key e.values keys) []

namespace Buffered

/-- What is kept after a run of entries. -/
def ofEntries (entries : List KeyEntry) : Buffered :=
  entries.foldl (fun kept e => kept.put e.root e.key e.values) []

theorem put_eq_upsert (root key : String) (vs : List String) (kept : Buffered) :
    kept.put root key vs = upsert [] root (putKey key vs) kept := by
  induction kept with
  | nil => rfl
  | cons e rest ih => rw [put, upsert, ih]

/-- Every root is kept once, where it appeared first, with the keys that belong to it. -/
theorem ofEntries_eq (entries : List KeyEntry) :
    ofEntries entries =
      (entries.map (·.root)).eraseDups.map fun root => (root, keysOf entries root) := by
  have hfold := foldl_upsert ([] : List (String × List String))
    (fun (e : KeyEntry) keys => putKey e.key e.values keys) (entries.map fun e => (e.root, e))
  rw [List.foldl_map, List.map_map] at hfold
  unfold ofEntries
  simp only [put_eq_upsert]
  rw [hfold]
  refine List.map_congr_left fun root _ => ?_
  rw [collect, keysOf, List.filter_map, List.foldl_map]
  rfl

end Buffered

end ParamBinding
