import Mathlib.Data.Bool.Basic
import ParamBinding.Proofs.Fallible
import ParamBinding.Ty.Shape

/-!
# New instances

A new instance of a model is made field by field, each starting on its own (`Member.start`), and it
is changed field by field afterwards. So what a field holds depends on its own start and on what has
been put into it, and on no other field.

A model has a new instance when the zeros that its fields start with can be made and its constructor
takes them (`ModelHead.newInstance_eq_ok`).
-/

namespace ParamBinding

/-! ### Records -/

namespace Record

variable {α : Type}

/-- The names of the fields. -/
def names (r : Record α) : List String := r.fields.map (·.1)

@[simp] theorem names_set (r : Record α) (field : String) (v : α) :
    (r.set field v).names = r.names := by
  simp only [names, set, List.map_map]
  refine List.map_congr_left fun f _ => ?_
  rw [Function.comp_apply]
  split <;> rfl

/-- **Frame.** A value that is put into one field leaves the others alone. -/
theorem get?_set_of_ne (r : Record α) {field other : String} (v : α) (h : other ≠ field) :
    (r.set field v).get? other = r.get? other := by
  unfold get? set
  induction r.fields with
  | nil => rfl
  | cons f fs ih =>
    obtain ⟨name, w⟩ := f
    rw [List.map_cons]
    by_cases hname : name = field
    · rw [if_pos hname, List.lookup_cons, List.lookup_cons, beq_false_of_ne (hname ▸ h)]
      exact ih
    · rw [if_neg hname, List.lookup_cons, List.lookup_cons]
      cases other == name with
      | true => rfl
      | false => exact ih

/-- A value that is put into a field is found there. -/
theorem get?_set_self (r : Record α) {field : String} (v : α) (h : field ∈ r.names) :
    (r.set field v).get? field = some v := by
  unfold names at h
  unfold get? set
  generalize r.fields = fields at h ⊢
  induction fields with
  | nil => cases h
  | cons f fs ih =>
    obtain ⟨name, w⟩ := f
    rw [List.map_cons]
    by_cases hname : name = field
    · rw [if_pos hname, List.lookup_cons, hname, beq_self_eq_true]
      rfl
    · rw [if_neg hname, List.lookup_cons, beq_false_of_ne (Ne.symm hname)]
      refine ih ?_
      rcases List.mem_cons.mp h with rfl | h
      · exact absurd rfl hname
      · exact h

end Record

/-! ### Starting values -/

/-- What a field of a new instance holds: its own initial value, or else the zero of its type, or
nothing when the constructor does not set it. -/
def Member.start (m : Member Ty) : Except Fault (Option Value) :=
  match m.initial with
  | some v => .ok (some v)
  | none => if m.isParameter then m.type.zero.map some else .ok none

namespace Ty

theorem zeros_eq_mapM (ts : List Ty) : zeros ts = ts.mapM zero := by
  induction ts with
  | nil => rfl
  | cons t ts ih =>
    rw [zeros, ih, List.mapM_cons]
    rfl

theorem newFields_cons (m : Member Ty) (ms : List (Member Ty)) :
    newFields (m :: ms) =
      m.start >>= fun v => newFields ms >>= fun rest => .ok ((m.name, v) :: rest) := by
  rw [newFields, Member.start]
  cases m.initial with
  | some v => rfl
  | none => cases m.isParameter <;> rfl

/-- Every field of a new instance starts on its own. -/
theorem newFields_eq_mapM (ms : List (Member Ty)) :
    newFields ms = ms.mapM fun m => m.start.map fun v => (m.name, v) := by
  induction ms with
  | nil => rfl
  | cons m ms ih =>
    rw [newFields_cons, ih, List.mapM_cons]
    cases m.start <;> rfl

end Ty

section NewInstance

variable {h : ModelHead} {ms : List (Member Ty)} {new : Record Value}

theorem ModelHead.make_eq_ok {fs : List (String × Option Value)} :
    h.make fs = .ok new ↔ h.check fs = .ok () ∧ new = ⟨h.cls.name, h.frozen, fs⟩ := by
  rw [make, map_eq_ok]
  constructor
  · rintro ⟨_, hcheck, rfl⟩
    exact ⟨hcheck, rfl⟩
  · rintro ⟨hcheck, rfl⟩
    exact ⟨(), hcheck, rfl⟩

/-- A model has a new instance when every field has something to start with and the constructor
takes it. -/
theorem ModelHead.newInstance_eq_ok :
    h.newInstance ms = .ok new ↔ Ty.checkStarts ms = .ok () ∧
      ∃ fs, Ty.newFields ms = .ok fs ∧ h.check fs = .ok () ∧
        new = ⟨h.cls.name, h.frozen, fs⟩ := by
  simp only [newInstance, bind_eq_ok, make_eq_ok]
  constructor
  · rintro ⟨_, hstarts, hnew⟩
    exact ⟨hstarts, hnew⟩
  · rintro ⟨hstarts, hnew⟩
    exact ⟨(), hstarts, hnew⟩

/-- Tags have no part in new instances. -/
theorem ModelHead.newInstance_map {g : Member Ty → Member Ty}
    (hg : ∀ m, ∃ tags, g m = { m with tags := tags }) :
    h.newInstance (ms.map g) = h.newInstance ms := by
  have hstarts : Ty.checkStarts (ms.map g) = Ty.checkStarts ms := by
    rw [Ty.checkStarts, Ty.checkStarts, List.filter_map, List.map_map]
    congr 2
    · funext m
      obtain ⟨tags, hm⟩ := hg m
      rw [Function.comp_apply, hm]
    · refine List.filter_congr fun m _ => ?_
      obtain ⟨tags, hm⟩ := hg m
      rw [Function.comp_apply, hm]
  have hfields : Ty.newFields (ms.map g) = Ty.newFields ms := by
    rw [Ty.newFields_eq_mapM, Ty.newFields_eq_mapM, List.mapM_map]
    congr 1
    funext m
    obtain ⟨tags, hm⟩ := hg m
    rw [Function.comp_apply, hm]
    rfl
  rw [newInstance, newInstance, hstarts, hfields]

/-- A new instance has the fields of the model. -/
theorem ModelHead.names_newInstance (hnew : h.newInstance ms = .ok new) :
    new.names = ms.map (·.name) := by
  obtain ⟨-, fs, hfs, -, rfl⟩ := newInstance_eq_ok.mp hnew
  rw [Ty.newFields_eq_mapM, mapM_eq_ok] at hfs
  clear hnew
  simp only [Record.names]
  induction hfs with
  | nil => rfl
  | cons hm _ ih =>
    obtain ⟨v, -, rfl⟩ := map_eq_ok.mp hm
    rw [List.map_cons, List.map_cons, ih]

theorem ModelHead.mem_names_newInstance (hnew : h.newInstance ms = .ok new) {m : Member Ty}
    (hm : m ∈ ms) : m.name ∈ new.names := by
  rw [names_newInstance hnew]
  exact List.mem_map.mpr ⟨m, hm, rfl⟩

/-- Every field of a new instance holds what it starts with. -/
theorem ModelHead.get?_newInstance (hnew : h.newInstance ms = .ok new)
    (hnames : (ms.map (·.name)).Nodup) {m : Member Ty} (hm : m ∈ ms) :
    m.start = .ok (new.get? m.name) := by
  obtain ⟨-, fs, hfs, -, rfl⟩ := newInstance_eq_ok.mp hnew
  rw [Ty.newFields_eq_mapM, mapM_eq_ok] at hfs
  clear hnew
  simp only [Record.get?]
  induction hfs with
  | nil => cases hm
  | @cons x f ms fs hx _ ih =>
    obtain ⟨v, hv, rfl⟩ := map_eq_ok.mp hx
    rw [List.map_cons, List.nodup_cons] at hnames
    rcases List.mem_cons.mp hm with rfl | hm
    · rw [List.lookup_cons, beq_self_eq_true, hv]
      cases v <;> rfl
    · -- an earlier field of the same name would hide this one
      have hne : m.name ≠ x.name := by
        intro hname
        exact hnames.1 (hname ▸ List.mem_map.mpr ⟨m, hm, rfl⟩)
      rw [List.lookup_cons, beq_false_of_ne hne]
      exact ih hnames.2 hm

end NewInstance

end ParamBinding
