import Mathlib.Data.List.Nodup
import ParamBinding.Proofs.Grouping
import ParamBinding.Sample

/-!
# Members of enumerations

Declarations make the members of an enumeration one after another: a declaration whose value equals
that of a member makes no new one, it gives the member one more name (`EnumType.IsAlias`). So every
declared name is that of a member, which it makes or which it is an alias of
(`EnumType.isMember_or_isAlias`).

A text is the text of a value before it is a name. Members are different when their values are, but
different values may have one text; such a text is that of the last of them, and it is the one way
in which a member fails to be read from the text of its value (`TextReader.members_read`).
-/

namespace ParamBinding

namespace EnumType

variable {e : EnumType} {d m : String × Value} {name : String}

/-! ### Declarations -/

/-- A name is an alias of a member: it is declared with a value that equals the member's and that of
no member before it, so that the declaration makes no member of its own. -/
def IsAlias (e : EnumType) (name : String) (m : String × Value) : Prop :=
  ∃ v, (name, v) ∈ e.members ∧ (name, v) ∉ e.distinct ∧
    ∃ before after, e.distinct = before ++ m :: after ∧ v.same m.2 = true ∧
      ∀ k ∈ before, v.same k.2 = false

/-- One declaration gives a member another name, or it makes a member that equals none before. -/
theorem declare_cases (known : List (String × Value)) (d : String × Value) :
    (declare known d = known ∧ ∃ k ∈ known, d.2.same k.2 = true) ∨
      declare known d = known ++ [d] ∧ ∀ k ∈ known, d.2.same k.2 = false := by
  unfold declare
  split
  · rename_i hany
    exact .inl ⟨rfl, List.any_eq_true.mp hany⟩
  · rename_i hany
    exact .inr ⟨rfl, fun k hk => Bool.eq_false_iff.mpr fun hsame =>
      hany (List.any_eq_true.mpr ⟨k, hk, hsame⟩)⟩

/-- Declarations keep the members there are, and those that they make are among them. -/
theorem exists_foldl_declare (known ds : List (String × Value)) :
    ∃ new, ds.foldl declare known = known ++ new ∧ new.Sublist ds := by
  induction ds generalizing known with
  | nil => exact ⟨[], (List.append_nil known).symm, List.Sublist.refl []⟩
  | cons d ds ih =>
    obtain ⟨new, hnew, hsub⟩ := ih (declare known d)
    rw [List.foldl_cons, hnew]
    obtain ⟨hsame, -⟩ | ⟨hadd, -⟩ := declare_cases known d
    · exact ⟨new, by rw [hsame], hsub.cons d⟩
    · exact ⟨d :: new, by rw [hadd, List.append_assoc]; rfl, hsub.cons_cons d⟩

theorem distinct_sublist (e : EnumType) : e.distinct.Sublist e.members := by
  obtain ⟨new, hnew, hsub⟩ := exists_foldl_declare [] e.members
  rw [distinct, hnew]
  exact hsub

/-- What was declared is a member, or its value equals that of a member. -/
theorem mem_foldl_declare (known : List (String × Value)) {ds : List (String × Value)}
    (hd : d ∈ ds) :
    d ∈ ds.foldl declare known ∨ ∃ k ∈ ds.foldl declare known, d.2.same k.2 = true := by
  induction ds generalizing known with
  | nil => cases hd
  | cons d' ds ih =>
    rw [List.foldl_cons]
    obtain rfl | hd := List.mem_cons.mp hd
    · -- later declarations keep what this one has made or found
      obtain ⟨new, hnew, -⟩ := exists_foldl_declare (declare known d) ds
      rw [hnew]
      obtain ⟨hsame, k, hk, hequal⟩ | ⟨hadd, -⟩ := declare_cases known d
      · exact .inr ⟨k, List.mem_append_left new (hsame.symm ▸ hk), hequal⟩
      · exact .inl (List.mem_append_left new (by simp [hadd]))
    · exact ih _ hd

/-- Members that are made after one another do not equal those before them. -/
theorem pairwise_foldl_declare {known : List (String × Value)} (ds : List (String × Value))
    (h : known.Pairwise fun k m => m.2.same k.2 = false) :
    (ds.foldl declare known).Pairwise fun k m => m.2.same k.2 = false := by
  induction ds generalizing known with
  | nil => exact h
  | cons d ds ih =>
    refine ih ?_
    obtain ⟨hsame, -⟩ | ⟨hadd, hnew⟩ := declare_cases known d
    · rwa [hsame]
    · rw [hadd, List.pairwise_append]
      refine ⟨h, List.pairwise_singleton _ d, fun k hk d' hd' => ?_⟩
      rw [List.mem_singleton.mp hd']
      exact hnew k hk

/-- A member equals none before it. -/
theorem same_eq_false_of_before {before after : List (String × Value)}
    (h : e.distinct = before ++ m :: after) : ∀ k ∈ before, m.2.same k.2 = false := by
  have hpairwise := pairwise_foldl_declare e.members List.Pairwise.nil
  change e.distinct.Pairwise _ at hpairwise
  rw [h, List.pairwise_append] at hpairwise
  exact fun k hk => hpairwise.2.2 k hk m List.mem_cons_self

/-- **Every declared name has its member**: the declaration makes one, or its name is an alias. -/
theorem isMember_or_isAlias (hd : d ∈ e.members) :
    d ∈ e.distinct ∨ ∃ m ∈ e.distinct, e.IsAlias d.1 m := by
  by_cases hmember : d ∈ e.distinct
  · exact .inl hmember
  · obtain hown | hsame := mem_foldl_declare [] hd
    · exact absurd hown hmember
    · obtain ⟨m, hm⟩ := Option.isSome_iff_exists.mp (List.find?_isSome.mpr hsame)
      obtain ⟨hequal, before, after, heq, hbefore⟩ := List.find?_eq_some_iff_append.mp hm
      exact .inr ⟨m, List.mem_of_find?_eq_some hm, d.2, hd, hmember, before, after, heq, hequal,
        fun k hk => by simpa using hbefore k hk⟩

/-! ### Names -/

section Names

variable (hnames : (e.members.map (·.1)).Nodup)
include hnames

/-- Different members have different names. -/
theorem name_injOn {k : String × Value} (hk : k ∈ e.distinct) (hm : m ∈ e.members)
    (h : k.1 = m.1) : k = m :=
  List.inj_on_of_nodup_map hnames (e.distinct_sublist.subset hk) hm h

/-- A declared name is that of the first member that has it or has an equal value. -/
theorem byName?_first {v : Value} {before after : List (String × Value)}
    (hdeclared : (name, v) ∈ e.members) (heq : e.distinct = before ++ m :: after)
    (hm : m.1 = name ∨ v.same m.2 = true)
    (hbefore : ∀ k ∈ before, k.1 ≠ name ∧ v.same k.2 = false) :
    e.byName? name = some (e.member m) := by
  have hfirst : e.distinct.find? (fun k => k.1 = name || v.same k.2) = some m := by
    refine List.find?_eq_some_iff_append.mpr ⟨by simpa using hm, before, after, heq, fun k hk => ?_⟩
    simp [hbefore k hk]
  rw [byName?, (lookup_eq_some_of_nodup hnames).mpr hdeclared, Option.bind_some, hfirst]
  rfl

/-- A member has the name that it is declared under. -/
theorem byName?_member (hm : m ∈ e.distinct) : e.byName? m.1 = some (e.member m) := by
  obtain ⟨before, after, heq⟩ := List.append_of_mem hm
  have hnodup := (e.distinct_sublist.map (·.1)).nodup hnames
  rw [heq, List.map_append, List.map_cons, List.nodup_append] at hnodup
  refine byName?_first hnames (e.distinct_sublist.subset hm) heq (.inl rfl) fun k hk => ⟨?_, ?_⟩
  · exact hnodup.2.2 _ (List.mem_map_of_mem hk) _ List.mem_cons_self
  · exact same_eq_false_of_before heq k hk

/-- A member has the names that are aliases of it. -/
theorem byName?_alias (h : e.IsAlias name m) : e.byName? name = some (e.member m) := by
  obtain ⟨v, hdeclared, hnone, before, after, heq, hsame, hbefore⟩ := h
  refine byName?_first hnames hdeclared heq (.inr hsame) fun k hk => ⟨fun hname => ?_, hbefore k hk⟩
  -- a member of this name would be the one that the declaration makes
  have hmem : k ∈ e.distinct := heq ▸ List.mem_append_left (m :: after) hk
  exact hnone (name_injOn hnames hmem hdeclared hname ▸ hmem)

end Names

/-- What has a name is a member. -/
theorem exists_of_byName? {v : Value} (h : e.byName? name = some v) :
    ∃ m ∈ e.distinct, v = e.member m := by
  obtain ⟨w, -, hw⟩ := Option.bind_eq_some_iff.mp h
  obtain ⟨m, hm, rfl⟩ := Option.map_eq_some_iff.mp hw
  exact ⟨m, List.mem_of_find?_eq_some hm, rfl⟩

theorem byName?_eq_none (h : name ∉ e.members.map (·.1)) : e.byName? name = none := by
  have hlookup : e.members.lookup name = none := by
    refine List.lookup_eq_none_iff.mpr fun d hd => ?_
    simp only [bne_iff_ne, ne_eq]
    rintro rfl
    exact h (List.mem_map_of_mem hd)
  rw [byName?, hlookup]
  rfl

end EnumType

/-! ### Texts -/

namespace TextReader

variable {e : EnumType} {m : String × Value} {s : String} {v : Value}

/-- A text that values have is that of the last of them. -/
theorem memberOf?_value {before after : List (String × Value)}
    (h : e.distinct = before ++ m :: after) (hlast : ∀ k ∈ after, k.2.asText ≠ m.2.asText) :
    memberOf? e m.2.asText = some (e.member m) := by
  have hfind : e.distinct.reverse.find? (fun k => k.2.asText = m.2.asText) = some m := by
    refine List.find?_eq_some_iff_append.mpr
      ⟨by simp, after.reverse, before.reverse, by simp [h], fun k hk => ?_⟩
    simp [hlast k (List.mem_reverse.mp hk)]
  rw [memberOf?, hfind]

/-- A text that no value has is a name. -/
theorem memberOf?_name (h : ∀ k ∈ e.distinct, k.2.asText ≠ s) : memberOf? e s = e.byName? s := by
  have hfind : e.distinct.reverse.find? (fun k => k.2.asText = s) = none := by
    refine List.find?_eq_none.mpr fun k hk => ?_
    simp [h k (List.mem_reverse.mp hk)]
  rw [memberOf?, hfind]

theorem exists_of_memberOf? (h : memberOf? e s = some v) : ∃ m ∈ e.distinct, v = e.member m := by
  unfold memberOf? at h
  split at h
  · rename_i m hm
    exact ⟨m, List.mem_reverse.mp (List.mem_of_find?_eq_some hm), (Option.some.inj h).symm⟩
  · exact EnumType.exists_of_byName? h

theorem enum_eq_ok : (enum e).read s = .ok v ↔ memberOf? e s = some v := by
  simp only [enum]
  cases memberOf? e s <;> simp

theorem enum_eq_error (h : memberOf? e s = none) :
    (enum e).read s = .error (.notMember (Text.quoted s) e.cls.name) := by
  simp only [enum, h]

/-- **Texts of members.** Enumerations are read by the standard reader, unless another one is
registered for them. It reads the text of a member's value as the member, unless a member after it
has the same text, and each name of a member as the member, unless a value has the text; any other
text is a fault, and nothing but members is ever read. -/
theorem members_read (e : EnumType) (hnames : (e.members.map (·.1)).Nodup) :
    (∀ (reg : Registry) (t : Ty), t.bare = .enum e →
      t.reader? reg = some ((reg.lookup e.cls.path).getD (enum e))) ∧
    (∀ before m after, e.distinct = before ++ m :: after →
      (∀ k ∈ after, k.2.asText ≠ m.2.asText) → (enum e).read m.2.asText = .ok (e.member m)) ∧
    (∀ m ∈ e.distinct, ∀ name, name = m.1 ∨ e.IsAlias name m →
      (∀ k ∈ e.distinct, k.2.asText ≠ name) → (enum e).read name = .ok (e.member m)) ∧
    (∀ d ∈ e.members, d ∈ e.distinct ∨ ∃ m ∈ e.distinct, e.IsAlias d.1 m) ∧
    (∀ s, (∀ k ∈ e.distinct, k.2.asText ≠ s) → s ∉ e.members.map (·.1) →
      ∃ f, (enum e).read s = .error f ∧ f.kind = .value) ∧
    (∀ s v, (enum e).read s = .ok v → ∃ m ∈ e.distinct, v = e.member m) ∧
    ∀ m ∈ e.distinct, ∀ k ∈ e.distinct, e.member m = e.member k → m = k := by
  refine ⟨fun reg t ht => ?_, fun before m after h hlast => ?_, fun m hm name hname hfree => ?_,
    fun d hd => EnumType.isMember_or_isAlias hd, fun s hvalue hname => ?_, fun s v h => ?_,
    fun m hm k hk h => ?_⟩
  · rw [Ty.reader?, ht]
    simp only [Ty.bareReader?, Ty.ownReader?, Ty.class?, Option.bind_some]
    cases reg.lookup e.cls.path <;> rfl
  · exact enum_eq_ok.mpr (memberOf?_value h hlast)
  · rw [enum_eq_ok, memberOf?_name hfree]
    obtain rfl | halias := hname
    · exact EnumType.byName?_member hnames hm
    · exact EnumType.byName?_alias hnames halias
  · refine ⟨_, enum_eq_error ?_, rfl⟩
    rw [memberOf?_name hvalue, EnumType.byName?_eq_none hname]
  · exact exists_of_memberOf? (enum_eq_ok.mp h)
  · have hname : m.1 = k.1 := by
      injection h
    exact EnumType.name_injOn hnames hm (e.distinct_sublist.subset hk) hname

end TextReader

/-- Levels, two of which have another name, and two of which have values with the text `1`. -/
def level : EnumType where
  cls := { name := "Level" }
  members := [("LOW", .int 1), ("HIGH", .int 2), ("TOP", .int 2), ("YES", .bool true),
    ("TEXT", .text "1")]

/-- A level is read from its value, from its names, and not from the value of an alias. -/
theorem level_read : (level.members.map (·.1)).Nodup ∧
    (TextReader.enum level).read "2" = .ok (.member "Level" "HIGH") ∧
    (TextReader.enum level).read "TOP" = .ok (.member "Level" "HIGH") ∧
    (TextReader.enum level).read "YES" = .ok (.member "Level" "LOW") ∧
    (TextReader.enum level).read "LOW" = .ok (.member "Level" "LOW") ∧
    ∀ v, (TextReader.enum level).read "True" ≠ .ok v := by
  have hnames : (level.members.map (·.1)).Nodup := by decide
  have hdistinct : level.distinct = [("LOW", .int 1), ("HIGH", .int 2), ("TEXT", .text "1")] := rfl
  have hhigh : level.IsAlias "TOP" ("HIGH", .int 2) :=
    ⟨.int 2, by simp [level], by simp [hdistinct], [("LOW", .int 1)], _, hdistinct, rfl,
      by simp; rfl⟩
  have hlow : level.IsAlias "YES" ("LOW", .int 1) :=
    ⟨.bool true, by simp [level], by simp [hdistinct], [], _, hdistinct, rfl, by simp⟩
  have hfree : ∀ s ∉ ["1", "2", "1"], ∀ k ∈ level.distinct, k.2.asText ≠ s := by
    rintro s hs k hk rfl
    exact hs (List.mem_map_of_mem (f := fun k => k.2.asText) hk)
  obtain ⟨-, hvalue, hname, -, hother, -⟩ := TextReader.members_read level hnames
  refine ⟨hnames, hvalue [("LOW", .int 1)] _ [("TEXT", .text "1")] rfl (by simp; decide),
    hname _ (by simp [hdistinct]) "TOP" (.inr hhigh) (hfree "TOP" (by decide)),
    hname _ (by simp [hdistinct]) "YES" (.inr hlow) (hfree "YES" (by decide)),
    hname ("LOW", .int 1) (by simp [hdistinct]) "LOW" (.inl rfl) (hfree "LOW" (by decide)),
    fun v hv => ?_⟩
  obtain ⟨f, hf, -⟩ := hother "True" (hfree "True" (by decide)) (by decide)
  rw [hf] at hv
  cases hv

/-- The text of the value of `LOW` is taken by `TEXT`, which comes after it; and a reader that is
registered for levels takes the place of the standard one, whatever it makes of texts. -/
theorem level_text_taken : (("LOW", Value.int 1) ∈ level.distinct ∧
    (TextReader.enum level).read (Value.int 1).asText = .ok (.member "Level" "TEXT") ∧
    ¬ ∀ m ∈ level.distinct, (TextReader.enum level).read m.2.asText = .ok (level.member m)) ∧
    (Ty.enum level).reader? (Registry.standard.register "Level" Sample.length) =
      some Sample.length ∧
    Sample.length.read (Value.int 2).asText = .ok (.int 1) := by
  have hread : (TextReader.enum level).read (Value.int 1).asText =
      .ok (.member "Level" "TEXT") := rfl
  have hlow : ("LOW", Value.int 1) ∈ level.distinct := .head _
  refine ⟨⟨hlow, hread, fun h => ?_⟩, rfl, rfl⟩
  have hother := hread.symm.trans (h _ hlow)
  simp [EnumType.member] at hother

end ParamBinding
