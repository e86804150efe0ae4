import Mathlib.Data.List.TakeWhile
import ParamBinding.Proofs.IntegerNumerals
import ParamBinding.Proofs.Magnitudes
import ParamBinding.Reader.Standard

/-!
# Durations and their parts

A duration in parts is a sign, or none, and at least one number with a unit (`DurationText.Form`).
The reader takes one part after another and never goes back (`DurationText.Scans`). It cannot miss
the parts that a text is made of: a number is followed by a letter, so all its digits belong to it,
and a part is followed by a digit or a point, so the `s` behind an `m` does (`part?_chars`). So what
it takes are the parts of the text, there are no others, and a text that it does not come to the end
of has none (`TextReader.durations_read`).

The seconds that parts add up to may be too many, but they are a number (`hasSign_total`), so that a
text with parts is a duration or an overflow.
-/

namespace ParamBinding.DurationText

open ParamBinding.Text

/-! ### Parts -/

/-- A decimal number as it is written: digits, perhaps with a point and further digits behind them,
or a point and digits. -/
inductive IsNumber : List Char → Prop where
  | whole {ds : List Char} : ds ≠ [] → (∀ c ∈ ds, isDigit c = true) → IsNumber ds
  | point {ds places : List Char} : ds ≠ [] → (∀ c ∈ ds, isDigit c = true) →
      (∀ c ∈ places, isDigit c = true) → IsNumber (ds ++ '.' :: places)
  | places {places : List Char} : places ≠ [] → (∀ c ∈ places, isDigit c = true) →
      IsNumber ('.' :: places)

/-- How the units are written. -/
def unitNames : List (List Char × DurationUnit) := [
  (['n', 's'], .nanosecond), (['u', 's'], .microsecond), (['µ', 's'], .microsecond),
  (['m', 's'], .millisecond), (['s'], .second), (['m'], .minute), (['h'], .hour)]

/-- A number with a unit. -/
structure Part where
  number : List Char
  name : List Char
  unit : DurationUnit
  isNumber : IsNumber number
  named : (name, unit) ∈ unitNames

/-- The part as it is written. -/
def Part.chars (p : Part) : List Char := p.number ++ p.name

/-- What the reader takes a part to be. -/
def Part.taken (p : Part) : List Char × DurationUnit := (p.number, p.unit)

/-- What may come behind a part does not begin with a letter of a unit. -/
def Bounded (cs : List Char) : Prop := ∀ c ∈ cs.head?, isDigit c = true ∨ c = '.'

/-- Parts one behind the other. -/
def written (ps : List Part) : List Char := ps.flatMap Part.chars

theorem IsNumber.exists_head {n : List Char} (h : IsNumber n) :
    ∃ c cs, n = c :: cs ∧ (isDigit c = true ∨ c = '.') := by
  cases h with
  | whole hne hdigits =>
    obtain ⟨c, cs, rfl⟩ := List.exists_cons_of_ne_nil hne
    exact ⟨c, cs, rfl, .inl (hdigits c List.mem_cons_self)⟩
  | point hne hdigits _ =>
    obtain ⟨c, cs, rfl⟩ := List.exists_cons_of_ne_nil hne
    exact ⟨c, _, rfl, .inl (hdigits c List.mem_cons_self)⟩
  | places _ _ => exact ⟨'.', _, rfl, .inr rfl⟩

theorem bounded_written (ps : List Part) : Bounded (written ps) := by
  cases ps with
  | nil => exact fun c hc => nomatch hc
  | cons p ps =>
    obtain ⟨c, cs, hn, hc⟩ := p.isNumber.exists_head
    intro c' hc'
    rw [written, List.flatMap_cons, Part.chars, hn] at hc'
    obtain rfl := Option.some.inj hc'
    exact hc

/-! ### Taking a part -/

section Runs

variable {p : Char → Bool} {ds rest : List Char}

theorem takeWhile_run (hds : ∀ c ∈ ds, p c = true) (hrest : ∀ c ∈ rest.head?, p c = false) :
    (ds ++ rest).takeWhile p = ds := by
  rw [List.takeWhile_append_of_pos hds]
  cases rest with
  | nil => exact List.append_nil ds
  | cons c cs => rw [List.takeWhile_cons_of_neg (by simp [hrest c rfl]), List.append_nil]

theorem dropWhile_run (hds : ∀ c ∈ ds, p c = true) (hrest : ∀ c ∈ rest.head?, p c = false) :
    (ds ++ rest).dropWhile p = rest := by
  rw [List.dropWhile_append_of_pos hds]
  cases rest with
  | nil => rfl
  | cons c cs => rw [List.dropWhile_cons_of_neg (by simp [hrest c rfl])]

/-- A text begins with a run of characters of a kind, which may be empty. -/
theorem exists_run (p : Char → Bool) (cs : List Char) : ∃ ds rest, cs = ds ++ rest ∧
    (∀ c ∈ ds, p c = true) ∧ ∀ c ∈ rest.head?, p c = false := by
  refine ⟨cs.takeWhile p, cs.dropWhile p, List.takeWhile_append_dropWhile.symm,
    fun c hc => List.mem_takeWhile_imp hc, fun c hc => ?_⟩
  have hstop := List.head?_dropWhile_not p cs
  rw [Option.mem_def.mp hc] at hstop
  simpa using hstop

end Runs

section Numbers

variable {ds places rest : List Char} (hds : ∀ c ∈ ds, isDigit c = true)
  (hplaces : ∀ c ∈ places, isDigit c = true) (hrest : ∀ c ∈ rest.head?, isDigit c = false)

theorem isDigit_of_mem_head?_point {cs : List Char} :
    ∀ c ∈ ('.' :: cs).head?, isDigit c = false := by
  intro c hc
  obtain rfl := Option.some.inj hc
  decide

include hds hrest in
theorem number?_whole (hne : ds ≠ []) (hpoint : '.' ∉ rest.head?) :
    number? (ds ++ rest) = some (ds, rest) := by
  simp only [number?, takeWhile_run hds hrest, dropWhile_run hds hrest,
    List.isEmpty_eq_false_iff.mpr hne, Bool.false_eq_true, if_false]
  cases rest with
  | nil => rfl
  | cons c cs =>
    have hc : c ≠ '.' := by
      rintro rfl
      exact hpoint rfl
    split
    · rename_i heq
      exact absurd (List.cons.inj heq).1 hc
    · rfl

include hds hplaces hrest in
theorem number?_point (hne : ds ≠ []) :
    number? (ds ++ '.' :: (places ++ rest)) = some (ds ++ '.' :: places, rest) := by
  simp only [number?, takeWhile_run hds isDigit_of_mem_head?_point,
    dropWhile_run hds isDigit_of_mem_head?_point, takeWhile_run hplaces hrest,
    List.isEmpty_eq_false_iff.mpr hne, Bool.false_eq_true, if_false, List.drop_succ_cons,
    List.drop_left]

include hplaces hrest in
theorem number?_places (hne : places ≠ []) :
    number? ('.' :: (places ++ rest)) = some ('.' :: places, rest) := by
  have hpoint : ¬ isDigit '.' = true := by decide
  simp only [number?, List.takeWhile_cons_of_neg hpoint, List.dropWhile_cons_of_neg hpoint,
    takeWhile_run hplaces hrest, List.isEmpty_nil, List.isEmpty_eq_false_iff.mpr hne,
    Bool.false_eq_true, if_false, if_true, List.drop_succ_cons, List.drop_left]

include hrest in
theorem number?_bare_point : number? ('.' :: rest) = none := by
  have hpoint : ¬ isDigit '.' = true := by decide
  have hnil : rest.takeWhile isDigit = [] := @takeWhile_run isDigit [] rest (by simp) hrest
  simp only [number?, List.takeWhile_cons_of_neg hpoint, List.dropWhile_cons_of_neg hpoint, hnil,
    List.isEmpty_nil, if_true]

include hrest in
theorem number?_nothing (hpoint : '.' ∉ rest.head?) : number? rest = none := by
  have hnil : rest.takeWhile isDigit = [] := @takeWhile_run isDigit [] rest (by simp) hrest
  have hdrop : rest.dropWhile isDigit = rest := @dropWhile_run isDigit [] rest (by simp) hrest
  simp only [number?, hnil, hdrop, List.isEmpty_nil, if_true]
  cases rest with
  | nil => rfl
  | cons c cs =>
    rw [if_pos]
    split
    · rename_i heq
      exact absurd (congrArg List.head? heq) (by simpa using hpoint)
    · rfl

end Numbers

/-- A number that no digit or point follows is taken whole. -/
theorem number?_append {n rest : List Char} (hn : IsNumber n)
    (hrest : ∀ c ∈ rest.head?, isDigit c = false) (hpoint : '.' ∉ rest.head?) :
    number? (n ++ rest) = some (n, rest) := by
  cases hn with
  | whole hne hdigits => exact number?_whole hdigits hrest hne hpoint
  | point hne hdigits hplaces =>
    rw [List.append_assoc, List.cons_append]
    exact number?_point hdigits hplaces hrest hne
  | places hne hplaces => exact number?_places hplaces hrest hne

/-- What is taken is a number at the start of the text. -/
theorem isNumber_of_number? {cs n rest : List Char} (h : number? cs = some (n, rest)) :
    IsNumber n ∧ cs = n ++ rest := by
  -- the digits in front, and what stands behind them: a point, or the end of the number
  obtain ⟨ds, tail, rfl, hds, htail⟩ := exists_run isDigit cs
  by_cases hpoint : '.' ∈ tail.head?
  · obtain ⟨tail, rfl⟩ : ∃ tail', tail = '.' :: tail' := ⟨_, (List.cons_head?_tail hpoint).symm⟩
    obtain ⟨places, behind, rfl, hplaces, hbehind⟩ := exists_run isDigit tail
    by_cases hne : ds = []
    · subst hne
      by_cases hsome : places = []
      · subst hsome
        rw [List.nil_append, List.nil_append, number?_bare_point hbehind] at h
        cases h
      · rw [List.nil_append, number?_places hplaces hbehind hsome] at h
        cases h
        exact ⟨.places hsome hplaces, rfl⟩
    · rw [number?_point hds hplaces hbehind hne] at h
      cases h
      exact ⟨.point hne hds hplaces, by rw [List.append_assoc, List.cons_append]⟩
  · by_cases hne : ds = []
    · subst hne
      rw [List.nil_append, number?_nothing htail hpoint] at h
      cases h
    · rw [number?_whole hds htail hne hpoint] at h
      cases h
      exact ⟨.whole hne hds, rfl⟩

/-! ### Units -/

/-- A unit is taken where its name stands, unless this is the `m` of `ms`. -/
theorem take?_append {name rest : List Char} {u : DurationUnit} (hu : (name, u) ∈ unitNames)
    (hrest : 's' ∉ rest.head?) : DurationUnit.take? (name ++ rest) = some (u, rest) := by
  simp only [unitNames, List.mem_cons, Prod.mk.injEq, List.not_mem_nil, or_false] at hu
  rcases hu with ⟨rfl, rfl⟩ | ⟨rfl, rfl⟩ | ⟨rfl, rfl⟩ | ⟨rfl, rfl⟩ | ⟨rfl, rfl⟩ | ⟨rfl, rfl⟩ |
    ⟨rfl, rfl⟩
  case inr.inr.inr.inr.inr.inl =>
    -- the one name that begins another one
    show DurationUnit.take? ('m' :: rest) = _
    unfold DurationUnit.take?
    split <;> simp_all
  all_goals rfl

theorem named_of_take? {cs rest : List Char} {u : DurationUnit}
    (h : DurationUnit.take? cs = some (u, rest)) :
    ∃ name, (name, u) ∈ unitNames ∧ cs = name ++ rest := by
  unfold DurationUnit.take? at h
  split at h <;> cases h
  · exact ⟨['n', 's'], by decide, rfl⟩
  · exact ⟨['u', 's'], by decide, rfl⟩
  · exact ⟨['µ', 's'], by decide, rfl⟩
  · exact ⟨['m', 's'], by decide, rfl⟩
  · exact ⟨['s'], by decide, rfl⟩
  · exact ⟨['m'], by decide, rfl⟩
  · exact ⟨['h'], by decide, rfl⟩

/-- The name of a unit begins with a letter, so no number goes on there. -/
theorem head?_of_named {name : List Char} {u : DurationUnit} (hu : (name, u) ∈ unitNames)
    (rest : List Char) :
    (∀ c ∈ (name ++ rest).head?, isDigit c = false) ∧ '.' ∉ (name ++ rest).head? ∧ name ≠ [] := by
  simp only [unitNames, List.mem_cons, Prod.mk.injEq, List.not_mem_nil, or_false] at hu
  rcases hu with ⟨rfl, -⟩ | ⟨rfl, -⟩ | ⟨rfl, -⟩ | ⟨rfl, -⟩ | ⟨rfl, -⟩ | ⟨rfl, -⟩ | ⟨rfl, -⟩ <;>
    exact ⟨by rintro c ⟨⟩; decide, by simp, by simp⟩

/-- **A part is taken whole**, unless what follows belongs to its unit. -/
theorem part?_chars (p : Part) {rest : List Char} (hrest : Bounded rest) :
    part? (p.chars ++ rest) = some (p.number, p.unit, rest) := by
  obtain ⟨hdigit, hpoint, -⟩ := head?_of_named p.named rest
  have hs : 's' ∉ rest.head? := by
    intro hmem
    rcases hrest 's' hmem with hs | hs <;> revert hs <;> decide
  rw [part?, Part.chars, List.append_assoc, number?_append p.isNumber hdigit hpoint]
  show (DurationUnit.take? (p.name ++ rest) >>= fun x => some (p.number, x.1, x.2)) = _
  rw [take?_append p.named hs]
  rfl

/-- What is taken is a part at the start of the text. -/
theorem exists_part_of_part? {cs n rest : List Char} {u : DurationUnit}
    (h : part? cs = some (n, u, rest)) : ∃ p : Part, p.taken = (n, u) ∧ cs = p.chars ++ rest := by
  obtain ⟨⟨n', rest'⟩, hnumber, h⟩ := Option.bind_eq_some_iff.mp h
  obtain ⟨⟨u', rest''⟩, hunit, h⟩ := Option.bind_eq_some_iff.mp h
  cases h
  obtain ⟨hn, rfl⟩ := isNumber_of_number? hnumber
  obtain ⟨name, hnamed, rfl⟩ := named_of_take? hunit
  exact ⟨⟨n, name, u, hn, hnamed⟩, rfl, (List.append_assoc _ _ _).symm⟩

/-! ### Taking parts -/

/-- The reader has taken some parts from a text, and this is left. -/
inductive Scans : List Char → List (List Char × DurationUnit) → List Char → Prop where
  | start (cs : List Char) : Scans cs [] cs
  | step {cs n rest rest' : List Char} {u : DurationUnit} {ps : List (List Char × DurationUnit)} :
      part? cs = some (n, u, rest) → Scans rest ps rest' → Scans cs ((n, u) :: ps) rest'

section Scanning

variable {cs rest rest' : List Char} {ps ps' : List (List Char × DurationUnit)}

/-- **Progress.** A part that is taken leaves a shorter text. -/
theorem length_of_part? {n : List Char} {u : DurationUnit} (h : part? cs = some (n, u, rest)) :
    rest.length + 2 ≤ cs.length := by
  obtain ⟨p, -, rfl⟩ := exists_part_of_part? h
  obtain ⟨c, number, hnumber, -⟩ := p.isNumber.exists_head
  obtain ⟨-, -, hname⟩ := head?_of_named p.named []
  have hpos := List.length_pos_iff.mpr hname
  rw [Part.chars, hnumber, List.length_append, List.length_append, List.length_cons]
  omega

/-- **The reader comes to an end**: after some parts there is none to take. -/
theorem exists_scans (cs : List Char) : ∃ ps rest, Scans cs ps rest ∧ part? rest = none := by
  cases hpart : part? cs with
  | none => exact ⟨[], cs, .start cs, hpart⟩
  | some taken =>
    obtain ⟨n, u, rest⟩ := taken
    have hlength := length_of_part? hpart
    obtain ⟨ps, rest', hscans, hend⟩ := exists_scans rest
    exact ⟨(n, u) :: ps, rest', .step hpart hscans, hend⟩
termination_by cs.length

/-- There is one end that it comes to. -/
theorem Scans.unique (h : Scans cs ps rest) (h' : Scans cs ps' rest') (hend : part? rest = none)
    (hend' : part? rest' = none) : ps = ps' ∧ rest = rest' := by
  induction h generalizing ps' with
  | start cs =>
    cases h' with
    | start => exact ⟨rfl, rfl⟩
    | step hpart _ =>
      rw [hend] at hpart
      cases hpart
  | step hpart _ ih =>
    cases h' with
    | start =>
      rw [hend'] at hpart
      cases hpart
    | step hpart' h' =>
      rw [hpart] at hpart'
      cases hpart'
      obtain ⟨rfl, hrest⟩ := ih h' hend
      exact ⟨rfl, hrest⟩

theorem scans_nil : Scans [] ps [] ↔ ps = [] := by
  constructor
  · intro h
    cases h with
    | start => rfl
    | step hpart _ => cases hpart
  · rintro rfl
    exact .start []

/-- No text has more parts than characters. -/
theorem partsFrom?_eq_some {fuel : Nat} (hfuel : cs.length ≤ fuel) :
    partsFrom? fuel cs = some ps ↔ Scans cs ps [] := by
  induction fuel generalizing cs ps with
  | zero =>
    obtain rfl := List.length_eq_zero_iff.mp (Nat.le_zero.mp hfuel)
    rw [scans_nil, partsFrom?, Option.some.injEq, eq_comm]
  | succ fuel ih =>
    cases cs with
    | nil => rw [scans_nil, partsFrom?, Option.some.injEq, eq_comm]
    | cons c cs =>
      simp only [partsFrom?]
      constructor
      · intro h
        obtain ⟨⟨n, u, rest⟩, hpart, h⟩ := Option.bind_eq_some_iff.mp h
        obtain ⟨more, hmore, h⟩ := Option.bind_eq_some_iff.mp h
        cases h
        have hlength := length_of_part? hpart
        exact .step hpart ((ih (by omega)).mp hmore)
      · intro h
        cases h with
        | @step _ n rest _ u ps hpart h =>
          have hlength := length_of_part? hpart
          rw [hpart]
          show (partsFrom? fuel rest >>= fun more => some ((n, u) :: more)) = _
          rw [(ih (by omega)).mpr h]
          rfl

/-- The parts that are found are those that the reader takes up to the end of the text. -/
theorem parts?_eq_some : parts? cs = some ps ↔ Scans cs ps [] := partsFrom?_eq_some (Nat.le_refl _)

/-! ### Texts in parts -/

/-- What has been taken are parts at the start of the text. -/
theorem Scans.exists_written (h : Scans cs ps rest) :
    ∃ parts : List Part, parts.map Part.taken = ps ∧ cs = written parts ++ rest := by
  induction h with
  | start cs => exact ⟨[], rfl, rfl⟩
  | step hpart _ ih =>
    obtain ⟨p, htaken, rfl⟩ := exists_part_of_part? hpart
    obtain ⟨parts, rfl, rfl⟩ := ih
    refine ⟨p :: parts, by rw [List.map_cons, htaken], ?_⟩
    rw [written, written, List.flatMap_cons, List.append_assoc]

/-- **The reader finds the parts** of a text that consists of parts. -/
theorem scans_written (parts : List Part) :
    Scans (written parts) (parts.map Part.taken) [] := by
  induction parts with
  | nil => exact .start []
  | cons p parts ih =>
    have hpart := part?_chars p (bounded_written parts)
    rw [written, List.flatMap_cons, List.map_cons]
    exact .step hpart ih

theorem part?_written (p : Part) (parts : List Part) :
    part? (written (p :: parts)) = some (p.number, p.unit, written parts) :=
  part?_chars p (bounded_written parts)

/-- **There is one division** of a text into parts. -/
theorem written_injective : Function.Injective written := by
  intro parts parts' h
  induction parts generalizing parts' with
  | nil =>
    cases parts' with
    | nil => rfl
    | cons p' parts' =>
      have hpart := part?_written p' parts'
      rw [← h] at hpart
      cases hpart
  | cons p parts ih =>
    have hpart := part?_written p parts
    cases parts' with
    | nil =>
      rw [h] at hpart
      cases hpart
    | cons p' parts' =>
      -- the reader takes one part from the text, so both divisions begin with it
      rw [h, part?_written p' parts'] at hpart
      obtain ⟨hnumber, hunit, hrest⟩ : p'.number = p.number ∧ p'.unit = p.unit ∧
          written parts' = written parts := by simpa using hpart
      have hchars : p.number ++ p.name ++ written parts =
          p'.number ++ p'.name ++ written parts' := h
      rw [hnumber, hrest] at hchars
      have hname := List.append_cancel_left (List.append_cancel_right hchars)
      obtain rfl : p = p' := by
        cases p
        cases p'
        simp_all
      rw [ih hrest.symm]

end Scanning

/-! ### Durations in parts -/

/-- A duration as it is written in parts: a sign, or none, and at least one part. -/
structure Form where
  sign : IntText.Sign
  parts : List Part
  ne_nil : parts ≠ []

/-- The duration as it is written. -/
def Form.chars (f : Form) : List Char := f.sign.chars ++ written f.parts

/-- The seconds of the duration, before they are rounded to microseconds. -/
def Form.seconds (f : Form) : Binary64 :=
  (if f.sign = .minus then Binary64.negOne else .one).mul (total (f.parts.map Part.taken))

theorem splitSign_form (f : Form) :
    IntText.splitSign f.chars = (f.sign == .minus, written f.parts) := by
  refine IntText.splitSign_append f.sign fun c hc => ?_
  rcases bounded_written f.parts c hc with hdigit | rfl
  · constructor <;> rintro rfl <;> exact absurd hdigit (by decide)
  · decide

theorem written_ne_nil {parts : List Part} (h : parts ≠ []) : written parts ≠ [] := by
  obtain ⟨p, parts, rfl⟩ := List.exists_cons_of_ne_nil h
  intro hnil
  have hpart := part?_written p parts
  rw [hnil] at hpart
  cases hpart

/-- A text in parts is so in one way. -/
theorem Form.chars_injective : Function.Injective Form.chars := by
  intro f f' h
  have hparts : written f.parts = written f'.parts := by
    have hsplit := congrArg IntText.splitSign h
    rw [splitSign_form, splitSign_form] at hsplit
    exact congrArg Prod.snd hsplit
  have hsigns : f.sign.chars = f'.sign.chars := by
    rw [chars, chars, hparts] at h
    exact List.append_cancel_right h
  have hsign : f.sign = f'.sign := by
    revert hsigns
    cases f.sign <;> cases f'.sign <;> decide
  cases f
  cases f'
  obtain rfl := written_injective hparts
  obtain rfl : _ = _ := hsign
  rfl

/-- **Texts in parts are those that the reader takes to the end**, behind their sign. -/
theorem exists_form_iff {text : List Char} : (∃ f : Form, text = f.chars) ↔
    (IntText.splitSign text).2 ≠ [] ∧ ∃ ps, Scans (IntText.splitSign text).2 ps [] := by
  constructor
  · rintro ⟨f, rfl⟩
    rw [splitSign_form]
    exact ⟨written_ne_nil f.ne_nil, _, scans_written f.parts⟩
  · rintro ⟨hne, ps, hscans⟩
    obtain ⟨parts, -, hwritten⟩ := hscans.exists_written
    rw [List.append_nil] at hwritten
    obtain ⟨sign, hsign⟩ := IntText.exists_sign text
    refine ⟨⟨sign, parts, ?_⟩, ?_⟩
    · rintro rfl
      exact hne hwritten
    · rw [Form.chars, ← hwritten]
      exact hsign

/-! ### Seconds -/

theorem isFactor_seconds (u : DurationUnit) : Binary64.IsFactor u.seconds false := by
  cases u <;> exact ⟨⟨by decide +kernel, by decide +kernel⟩, by decide +kernel, by decide +kernel⟩

/-- The seconds that parts add up to are a number, and a positive one. -/
theorem hasSign_total (ps : List (List Char × DurationUnit)) :
    Binary64.HasSign (total ps) false := by
  have hsum : ∀ sum, Binary64.HasSign sum false → Binary64.HasSign
      (ps.foldl (fun sum p => sum.add ((numberValue p.1).mul p.2.seconds)) sum) false := by
    induction ps with
    | nil => exact fun sum h => h
    | cons p ps ih =>
      intro sum h
      -- a number may be infinite, but no unit is zero
      have hnumber : Binary64.HasSign (numberValue p.1) false := Binary64.hasSign_ofDecimal _ _ _
      exact ih _ (h.add (hnumber.mul (isFactor_seconds p.2)))
  exact hsum .zero ⟨by decide, by decide⟩

/-- A form never stands for a not-a-number value. -/
theorem Form.isNaN_seconds (f : Form) : f.seconds.isNaN = false := by
  have hfactor : Binary64.IsFactor (if f.sign = .minus then Binary64.negOne else .one)
      (f.sign == .minus) := by
    cases f.sign <;>
      exact ⟨⟨by decide +kernel, by decide +kernel⟩, by decide +kernel, by decide +kernel⟩
  rw [seconds, Binary64.mul_comm]
  exact ((hasSign_total _).mul hfactor).defined

theorem ofMicros_cases (n : Int) :
    (∃ d, ofMicros n = .ok d) ∨ ∃ p, ofMicros n = .error p ∧ p.kind = .overflow := by
  unfold ofMicros
  dsimp only
  split
  · exact .inr ⟨_, rfl, rfl⟩
  · split
    · exact .inr ⟨_, rfl, rfl⟩
    · exact .inl ⟨_, rfl⟩

/-- A number of seconds is a duration, or too many. -/
theorem ofSeconds_cases {x : Binary64} (hx : x.isNaN = false) :
    (∃ d, ofSeconds x = .ok d) ∨ ∃ p, ofSeconds x = .error p ∧ p.kind = .overflow := by
  rw [ofSeconds, hx, if_neg Bool.false_ne_true]
  split
  · exact .inr ⟨_, rfl, rfl⟩
  · exact ofMicros_cases _

/-! ### Reading durations -/

section Reading

variable {s : String}
  (hfloat : FloatText.read? (String.ofList (trim isBlank s.toList)) = none)
include hfloat

theorem read_form {f : Form} (hs : trim isBlank s.toList = f.chars) :
    read s = ofSeconds f.seconds := by
  have hparts : parts? (written f.parts) = some (f.parts.map Part.taken) :=
    parts?_eq_some.mpr (scans_written f.parts)
  rw [hs] at hfloat
  simp only [read, hs, hfloat, splitSign_form, hparts,
    List.isEmpty_eq_false_iff.mpr (written_ne_nil f.ne_nil), Bool.false_eq_true, if_false,
    beq_iff_eq]
  rfl

theorem read_of_not_form (h : ∀ f : Form, trim isBlank s.toList ≠ f.chars) :
    read s = .error .form := by
  simp only [read, hfloat]
  split
  · rfl
  · rename_i hsome
    cases hparts : parts? (IntText.splitSign (trim isBlank s.toList)).2 with
    | none => rfl
    | some ps =>
      have hne : (IntText.splitSign (trim isBlank s.toList)).2 ≠ [] := by simpa using hsome
      obtain ⟨f, hf⟩ := exists_form_iff.mpr ⟨hne, ps, parts?_eq_some.mp hparts⟩
      exact absurd hf (h f)

end Reading

end ParamBinding.DurationText

namespace ParamBinding

open Text DurationText

section Outcomes

variable {s : String}
  (hfloat : FloatText.read? (String.ofList (trim isBlank s.toList)) = none)
include hfloat

theorem TextReader.duration_form {f : Form} (hs : trim isBlank s.toList = f.chars) :
    (∃ d, ofSeconds f.seconds = .ok d ∧ duration.read s = .ok (.duration d)) ∨
      ∃ p, ofSeconds f.seconds = .error p ∧ p.kind = .overflow ∧
        duration.read s = .error (.notDuration p s) := by
  simp only [duration, read_form hfloat hs]
  obtain ⟨d, hd⟩ | ⟨p, hp, hkind⟩ := ofSeconds_cases f.isNaN_seconds
  · rw [hd]
    exact .inl ⟨d, rfl, rfl⟩
  · rw [hp]
    exact .inr ⟨p, rfl, hkind, rfl⟩

theorem TextReader.duration_not_form (h : ∀ f : Form, trim isBlank s.toList ≠ f.chars) :
    duration.read s = .error (.notDuration .form s) := by
  simp only [duration, read_of_not_form hfloat h]

end Outcomes

/-- **Durations.** The reader of a text that is not a number comes to one end after some parts. It
is the end of the text exactly when the text is a duration in parts, and then these are its parts,
for there is one way to divide it. A text in parts is read as the seconds of its parts or is an
overflow, and any other text is at fault itself. -/
theorem TextReader.durations_read {s : String}
    (hfloat : FloatText.read? (String.ofList (trim isBlank s.toList)) = none) :
    let text := trim isBlank s.toList
    let rest := (IntText.splitSign text).2
    (∃ ps left, Scans rest ps left ∧ part? left = none ∧
      ∀ ps' left', Scans rest ps' left' → part? left' = none → ps' = ps ∧ left' = left) ∧
    ((∃ f : Form, text = f.chars) ↔ rest ≠ [] ∧ ∃ ps, Scans rest ps []) ∧
    ((∃ f : Form, text = f.chars) ↔ (∃ d, duration.read s = .ok (.duration d)) ∨
      ∃ e, duration.read s = .error e ∧ e.kind = .overflow) ∧
    ((∀ f : Form, text ≠ f.chars) ↔ ∃ e, duration.read s = .error e ∧ e.kind = .value) ∧
    ∀ f : Form, text = f.chars → (∀ f' : Form, text = f'.chars → f' = f) ∧
      Scans rest (f.parts.map Part.taken) [] ∧
      ∀ d, duration.read s = .ok (.duration d) ↔ ofSeconds f.seconds = .ok d := by
  intro text rest
  have houtcome : ∀ f : Form, text = f.chars → (∃ d, duration.read s = .ok (.duration d)) ∨
      ∃ e, duration.read s = .error e ∧ e.kind = .overflow := by
    intro f hf
    obtain ⟨d, -, hd⟩ | ⟨p, -, hkind, hp⟩ := TextReader.duration_form hfloat hf
    · exact .inl ⟨d, hd⟩
    · exact .inr ⟨_, hp, hkind⟩
  have hnone : (∀ f : Form, text ≠ f.chars) → duration.read s = .error (.notDuration .form s) :=
    TextReader.duration_not_form hfloat
  refine ⟨?_, exists_form_iff, ⟨fun ⟨f, hf⟩ => houtcome f hf, fun h => ?_⟩,
    ⟨fun h => ⟨_, hnone h, rfl⟩, fun ⟨e, he, hkind⟩ f hf => ?_⟩, fun f hf =>
      ⟨fun f' hf' => Form.chars_injective (hf'.symm.trans hf), ?_, fun d => ?_⟩⟩
  · obtain ⟨ps, left, hscans, hend⟩ := exists_scans rest
    exact ⟨ps, left, hscans, hend, fun ps' left' h' hend' => h'.unique hscans hend' hend⟩
  · by_contra hform
    rw [hnone fun f hf => hform ⟨f, hf⟩] at h
    obtain ⟨d, ⟨⟩⟩ | ⟨e, ⟨⟩, ⟨⟩⟩ := h
  · -- neither a value nor an overflow is a fault of the text
    obtain ⟨d, hd⟩ | ⟨e', he', hkind'⟩ := houtcome f hf
    · rw [hd] at he
      cases he
    · rw [he'] at he
      cases he
      rw [hkind'] at hkind
      cases hkind
  · have hrest : rest = written f.parts :=
      congrArg Prod.snd ((congrArg IntText.splitSign hf).trans (splitSign_form f))
    rw [hrest]
    exact scans_written f.parts
  · obtain ⟨d', hd', hread⟩ | ⟨p, hp, -, hread⟩ := TextReader.duration_form hfloat hf
    · rw [hread, hd']
      simp
    · rw [hread, hp]
      exact iff_of_false nofun nofun

/-- An hour and a half. -/
def hourAndHalf : Form where
  sign := .absent
  parts := [
    ⟨['1'], ['h'], .hour, .whole (by decide) (List.all_eq_true.mp (by decide)), by decide⟩,
    ⟨['3', '0'], ['m'], .minute, .whole (by decide) (List.all_eq_true.mp (by decide)), by decide⟩]
  ne_nil := by decide

/-- The parts of an hour and a half are found between blanks. -/
theorem hourAndHalf_read :
    FloatText.read? (String.ofList (trim isBlank " 1h30m ".toList)) = none ∧
      Scans "1h30m".toList [(['1'], .hour), (['3', '0'], .minute)] [] ∧
      TextReader.duration.read " 1h30m " = .ok (.duration ⟨5400000000⟩) := by
  have hfloat : FloatText.read? (String.ofList (trim isBlank " 1h30m ".toList)) = none := by decide
  obtain ⟨-, -, -, -, hform⟩ := TextReader.durations_read hfloat
  obtain ⟨-, hscans, hread⟩ := hform hourAndHalf (by decide)
  exact ⟨hfloat, hscans, (hread _).mpr (by decide +kernel)⟩

end ParamBinding
