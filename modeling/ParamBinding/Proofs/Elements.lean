import ParamBinding.Content.Xml.Element
import ParamBinding.Proofs.Grouping

/-!
# Values of elements

What an element holds under a name, the text of an attribute and then the values of the children
with that tag, is one value or a list of several (`Gathers`). Putting the parts of an element into
entries one by one is grouping them by their names: an entry stands for the list of what is under
its name so far (`addValue_eq_upsert`). This needs that no part is a list itself, for then an entry
would not tell which list it stands for; and no element has a list as its value
(`Element.toValue_ne_list`).

The value of an element has all of its parts, each once and in order (`Element.toValue_gathers`).
-/

namespace ParamBinding.Xml

/-! ### Several values as one -/

/-- Several values as one: a sole value is itself, and others are a list. -/
def gathered : List Value → Value
  | [v] => v
  | vs => .list vs

/-- The values that are gathered in a value. -/
def partsOf : Value → List Value
  | .list vs => vs
  | v => [v]

/-- A value stands for one or several values. -/
inductive Gathers : List Value → Value → Prop where
  | sole (v : Value) : Gathers [v] v
  | several {vs : List Value} : 2 ≤ vs.length → Gathers vs (.list vs)

section Gathered

variable {v : Value} {vs : List Value}

theorem gathers_gathered (hsome : vs ≠ []) : Gathers vs (gathered vs) := by
  obtain _ | ⟨v, _ | ⟨w, vs⟩⟩ := vs
  · exact absurd rfl hsome
  · exact .sole v
  · exact .several (by simp)

theorem partsOf_of_ne_list (h : ∀ xs, v ≠ .list xs) : partsOf v = [v] := by
  cases v with
  | list xs => exact absurd rfl (h xs)
  | _ => rfl

/-- What is gathered can be told apart again, as long as it holds no lists. -/
theorem partsOf_gathered (h : ∀ v ∈ vs, ∀ xs, v ≠ .list xs) : partsOf (gathered vs) = vs := by
  obtain _ | ⟨v, _ | ⟨w, vs⟩⟩ := vs
  · rfl
  · exact partsOf_of_ne_list (h v List.mem_cons_self)
  · rfl

end Gathered

/-! ### One more value -/

section AddValue

variable {v w : Value} {key name : String} (rest : List (String × Value))

theorem addValue_of_ne (h : name ≠ key) :
    addValue key v ((name, w) :: rest) = (name, w) :: addValue key v rest := by
  cases w <;> exact if_neg h

theorem addValue_list (xs : List Value) :
    addValue key v ((key, .list xs) :: rest) = (key, .list (xs ++ [v])) :: rest :=
  if_pos rfl

theorem addValue_sole (h : ∀ xs, w ≠ .list xs) :
    addValue key v ((key, w) :: rest) = (key, .list [w, v]) :: rest := by
  cases w with
  | list xs => exact absurd rfl (h xs)
  | _ => exact if_pos rfl

end AddValue

/-! ### Entries as groups -/

/-- Values by their names, some for each, none of which is a list. -/
def Grouped (groups : List (String × List Value)) : Prop :=
  ∀ g ∈ groups, g.2 ≠ [] ∧ ∀ v ∈ g.2, ∀ xs, v ≠ .list xs

/-- Groups as entries. -/
def entriesOf (groups : List (String × List Value)) : List (String × Value) :=
  groups.map fun g => (g.1, gathered g.2)

section Entries

variable {groups : List (String × List Value)} {key : String} {v : Value}

theorem grouped_upsert (hgroups : Grouped groups) (hv : ∀ xs, v ≠ .list xs) :
    Grouped (upsert [] key (· ++ [v]) groups) := by
  induction groups with
  | nil =>
    rintro g hg
    obtain rfl := List.mem_singleton.mp hg
    exact ⟨by simp, by simpa using hv⟩
  | cons g rest ih =>
    obtain ⟨⟨hsome, hflat⟩, hrest⟩ := List.forall_mem_cons.mp hgroups
    rw [upsert]
    split
    · refine List.forall_mem_cons.mpr ⟨⟨by simp, fun w hw => ?_⟩, hrest⟩
      obtain hw | hw := List.mem_append.mp hw
      · exact hflat w hw
      · exact List.mem_singleton.mp hw ▸ hv
    · exact List.forall_mem_cons.mpr ⟨⟨hsome, hflat⟩, ih hrest⟩

/-- One more value for a name is one more in its group. -/
theorem addValue_eq_upsert (hgroups : Grouped groups) :
    addValue key v (entriesOf groups) = entriesOf (upsert [] key (· ++ [v]) groups) := by
  induction groups with
  | nil => rfl
  | cons g rest ih =>
    obtain ⟨⟨hsome, hflat⟩, hrest⟩ := List.forall_mem_cons.mp hgroups
    obtain ⟨name, vs⟩ := g
    by_cases hname : name = key
    · subst hname
      rw [upsert, if_pos rfl]
      obtain _ | ⟨w, _ | ⟨w', vs⟩⟩ := vs
      · exact absurd rfl hsome
      · exact addValue_sole _ (hflat w List.mem_cons_self)
      · exact addValue_list _ _
    · rw [upsert, if_neg hname, entriesOf, List.map_cons, addValue_of_ne _ hname]
      exact congrArg _ (ih hrest)

/-- The same holds for a run of values. -/
theorem foldl_addValue (parts : List (String × Value)) (hparts : ∀ p ∈ parts, ∀ xs, p.2 ≠ .list xs)
    (hgroups : Grouped groups) :
    parts.foldl (fun entries p => addValue p.1 p.2 entries) (entriesOf groups) =
        entriesOf (parts.foldl (fun groups p => upsert [] p.1 (· ++ [p.2]) groups) groups) := by
  induction parts generalizing groups with
  | nil => rfl
  | cons p parts ih =>
    obtain ⟨hp, hparts⟩ := List.forall_mem_cons.mp hparts
    rw [List.foldl_cons, List.foldl_cons, addValue_eq_upsert hgroups]
    exact ih hparts (grouped_upsert hgroups hp)

end Entries

/-! ### Parts of elements -/

namespace Element

variable {e : Element}

/-- The names of the attributes. -/
def attributeNames (e : Element) : List String := e.attributes.entries.map (·.1)

/-- The names that an element has something under: those of its attributes, and then the tags of its
children that are not among them, where they appear first. -/
def names (e : Element) : List String :=
  e.attributeNames ++ ((e.children.map tag).filter (· ∉ e.attributeNames)).eraseDups

/-- What an element has under a name: the text of the attribute, if there is one, and then the
values of the children with that tag in the order of the document. -/
def occurrences (e : Element) (name : String) : List Value :=
  ((e.attributes.entries.filter (·.1 = name)).map fun a => .text a.2) ++
    (e.children.filter (·.tag = name)).map toValue

/-- The attributes, each as a value with its name. -/
def attributeParts (e : Element) : List (String × Value) :=
  e.attributes.entries.map fun a => (a.1, .text a.2)

/-- The attributes and then the children of an element, each as a value with its name. -/
def parts (e : Element) : List (String × Value) :=
  e.attributeParts ++ e.children.map fun c => (c.tag, c.toValue)

/-- An element with neither attributes nor children is its text. -/
theorem toValue_bare (hchildren : e.children = []) (hattributes : e.attributes.entries = []) :
    e.toValue = .text (Text.strip e.text) := by
  obtain ⟨tag, attributes, text, children⟩ := e
  cases hchildren
  rw [toValue, show attributes.entries = [] from hattributes]
  rfl

theorem addChildren_eq_foldl (entries : List (String × Value)) (cs : List Element) :
    addChildren entries cs =
      (cs.map fun c => (c.tag, c.toValue)).foldl (fun es p => addValue p.1 p.2 es) entries := by
  induction cs generalizing entries with
  | nil => rfl
  | cons c cs ih => rw [addChildren, ih]; rfl

theorem toValue_full (h : ¬ (e.children = [] ∧ e.attributes.entries = [])) :
    e.toValue = .map ((addChildren e.attributeParts e.children).map
      fun x => (.text x.1, x.2)) := by
  obtain ⟨tag, attributes, text, children⟩ := e
  rw [toValue, if_neg]
  · rfl
  · simpa [Element.children, Element.attributes] using h

/-- No element has a list as its value. -/
theorem toValue_ne_list (e : Element) (xs : List Value) : e.toValue ≠ .list xs := by
  by_cases h : e.children = [] ∧ e.attributes.entries = []
  · rw [toValue_bare h.1 h.2]
    rintro ⟨⟩
  · rw [toValue_full h]
    rintro ⟨⟩

theorem parts_ne_list : ∀ p ∈ e.parts, ∀ xs, p.2 ≠ .list xs := by
  intro p hp xs
  obtain hp | hp := List.mem_append.mp hp
  · obtain ⟨a, -, rfl⟩ := List.mem_map.mp hp
    rintro ⟨⟩
  · obtain ⟨c, -, rfl⟩ := List.mem_map.mp hp
    exact toValue_ne_list c xs

theorem occurrences_eq (name : String) :
    e.occurrences name = (e.parts.filter (·.1 = name)).map (·.2) := by
  rw [occurrences, parts, attributeParts, List.filter_append, List.map_append, List.filter_map,
    List.filter_map, List.map_map, List.map_map]
  rfl

theorem names_eq : e.names = (e.parts.map (·.1)).eraseDups := by
  have hparts : e.parts.map (·.1) = e.attributeNames ++ e.children.map tag := by
    rw [parts, attributeParts, List.map_append, List.map_map, List.map_map]
    rfl
  have hattributes : e.attributeNames.eraseDups = e.attributeNames :=
    eraseDups_of_nodup e.attributes.nodup
  rw [hparts, List.eraseDups_append, hattributes, names]
  congr 2
  refine List.filter_congr fun name _ => ?_
  simp

/-- The attributes, whose names are different, are what a run from nothing makes of them. -/
theorem foldl_attributeParts :
    e.attributeParts.foldl (fun es p => addValue p.1 p.2 es) [] = e.attributeParts := by
  have hnodup : (e.attributeParts.map (·.1)).Nodup := by
    rw [attributeParts, List.map_map]
    exact e.attributes.nodup
  have hflat : ∀ p ∈ e.attributeParts, ∀ xs, p.2 ≠ .list xs := fun p hp =>
    parts_ne_list p (List.mem_append_left _ hp)
  have hgrouped : Grouped [] := by rintro _ ⟨⟩
  show e.attributeParts.foldl _ (entriesOf []) = _
  rw [foldl_addValue e.attributeParts hflat hgrouped,
    foldl_upsert_of_nodup [] (fun v vs => vs ++ [v]) e.attributeParts hnodup, entriesOf,
    List.map_map]
  exact (List.map_congr_left fun p _ => rfl).trans (List.map_id e.attributeParts)

/-- **The entries of an element.** Its parts are put together by their names. -/
theorem entries_eq :
    addChildren e.attributeParts e.children =
      e.names.map fun name => (name, gathered (e.occurrences name)) := by
  have hgrouped : Grouped [] := by rintro _ ⟨⟩
  rw [addChildren_eq_foldl, ← foldl_attributeParts, ← List.foldl_append]
  show e.parts.foldl (fun es p => addValue p.1 p.2 es) (entriesOf []) = _
  rw [foldl_addValue e.parts parts_ne_list hgrouped,
    foldl_upsert [] (fun v vs => vs ++ [v]) e.parts, entriesOf, List.map_map, names_eq]
  refine List.map_congr_left fun name _ => ?_
  simp only [Function.comp_apply, collect_append, occurrences_eq]

theorem nodup_names (e : Element) : e.names.Nodup := by
  rw [names_eq]
  exact nodup_eraseDups _

theorem occurrences_ne_nil {name : String} (h : name ∈ e.names) : e.occurrences name ≠ [] := by
  rw [names_eq, List.mem_eraseDups] at h
  obtain ⟨p, hp, rfl⟩ := List.mem_map.mp h
  rw [occurrences_eq]
  exact List.ne_nil_of_mem (List.mem_map_of_mem (List.mem_filter.mpr ⟨hp, by simp⟩))

theorem occurrences_ne_list {name : String} : ∀ v ∈ e.occurrences name, ∀ xs, v ≠ .list xs := by
  rw [occurrences_eq]
  intro v hv
  obtain ⟨p, hp, rfl⟩ := List.mem_map.mp hv
  exact parts_ne_list p (List.mem_of_mem_filter hp)

theorem partsOf_occurrences (name : String) :
    partsOf (gathered (e.occurrences name)) = e.occurrences name :=
  partsOf_gathered occurrences_ne_list

/-- Under the names of an element are all of its parts, each once. -/
theorem perm_occurrences (e : Element) :
    (e.names.flatMap e.occurrences).Perm (e.parts.map (·.2)) := by
  have hperm := (perm_flatMap_filter (·.1) e.parts).map (·.2)
  rw [List.map_flatMap, ← names_eq] at hperm
  rw [show e.occurrences = fun name => (e.parts.filter (·.1 = name)).map (·.2) from
    funext fun name => occurrences_eq name]
  exact hperm

end Element

/-! ### At any depth -/

/-- Values in which a list is always of several values, and none of these is a list: a value is a
text, or a map with one or several such values under each key. -/
inductive Flat : Value → Prop where
  | text (s : String) : Flat (.text s)
  | map {entries : List (Value × Value)} : (∀ x ∈ entries, Gathers (partsOf x.2) x.2) →
      (∀ x ∈ entries, ∀ v ∈ partsOf x.2, Flat v) → Flat (.map entries)

namespace Element

variable {e : Element}

/-- The value of an element is flat when those of its children are. -/
theorem flat_of_children (h : ∀ c ∈ e.children, Flat c.toValue) : Flat e.toValue := by
  by_cases hbare : e.children = [] ∧ e.attributes.entries = []
  · rw [toValue_bare hbare.1 hbare.2]
    exact .text _
  · rw [toValue_full hbare, entries_eq, List.map_map]
    refine .map (fun x hx => ?_) fun x hx v hv => ?_ <;>
      obtain ⟨name, hname, rfl⟩ := List.mem_map.mp hx
    · exact (partsOf_occurrences name).symm ▸ gathers_gathered (occurrences_ne_nil hname)
    · obtain hv | hv := List.mem_append.mp (partsOf_occurrences name ▸ hv)
      · obtain ⟨a, -, rfl⟩ := List.mem_map.mp hv
        exact .text a.2
      · obtain ⟨c, hc, rfl⟩ := List.mem_map.mp hv
        exact h c (List.mem_of_mem_filter hc)

mutual

theorem flat_toValue : ∀ e : Element, Flat e.toValue
  | .node _ _ _ cs => flat_of_children (flat_children cs)

theorem flat_children : ∀ cs : List Element, ∀ c ∈ cs, Flat c.toValue
  | [] => by simp
  | c :: cs => List.forall_mem_cons.mpr ⟨flat_toValue c, flat_children cs⟩

end

/-- **Values of elements.** An element is a text exactly when it has neither attributes nor
children. Any other element is a map from its names, in order, to what it has under them: a sole
value itself, and several as a list, from which they can be told apart again because none is a list.
So all parts of the element are there, each once; and the same holds for its children, their
children, and so on. -/
theorem toValue_gathers (e : Element) :
    ((∃ s, e.toValue = .text s) ↔ e.children = [] ∧ e.attributes.entries = []) ∧
    (e.children = [] → e.attributes.entries = [] → e.toValue = .text (Text.strip e.text)) ∧
    (¬ (e.children = [] ∧ e.attributes.entries = []) → ∃ entries : List (String × Value),
      e.toValue = .map (entries.map fun x => (.text x.1, x.2)) ∧
      entries.map (·.1) = e.names ∧ e.names.Nodup ∧
      (∀ x ∈ entries, Gathers (e.occurrences x.1) x.2 ∧ partsOf x.2 = e.occurrences x.1) ∧
      (entries.flatMap fun x => partsOf x.2).Perm (e.parts.map (·.2))) ∧
    (∀ c ∈ e.children, ∀ xs, c.toValue ≠ .list xs) ∧ Flat e.toValue := by
  refine ⟨⟨?_, fun h => ⟨_, toValue_bare h.1 h.2⟩⟩, toValue_bare, fun hfull => ?_,
    fun c _ => c.toValue_ne_list, e.flat_toValue⟩
  · rintro ⟨s, hs⟩
    by_contra hfull
    rw [toValue_full hfull] at hs
    cases hs
  · have hvalue := toValue_full hfull
    rw [entries_eq] at hvalue
    refine ⟨_, hvalue, ?_, e.nodup_names, fun x hx => ?_, ?_⟩
    · rw [List.map_map]
      exact List.map_id e.names
    · obtain ⟨name, hname, rfl⟩ := List.mem_map.mp hx
      exact ⟨gathers_gathered (occurrences_ne_nil hname), partsOf_occurrences name⟩
    · rw [List.flatMap_map]
      simp only [partsOf_occurrences]
      exact e.perm_occurrences

example : (Element.node "a" ⟨[("x", "1")], by simp⟩ "" [.node "b" ⟨[], .nil⟩ " 2 " [],
    .node "x" ⟨[], .nil⟩ "3" [], .node "x" ⟨[("y", "4")], by simp⟩ "" []]).toValue =
      .map [(.text "x", .list [.text "1", .text "3", .map [(.text "y", .text "4")]]),
        (.text "b", .text "2")] :=
  rfl

end Element

end ParamBinding.Xml
