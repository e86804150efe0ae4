import Mathlib.Data.List.Basic
import ParamBinding.Text.Split

/-!
# Texts cut apart and put together

A text that was put together from pieces is cut into the same pieces again when the separator cannot
be found inside them: for one character the piece in front of it must not have it (`cutAt_eq_some`),
and for a delimiter of several characters no piece may have any of them (`split_join`).
-/

namespace ParamBinding.Text

/-! ### One character -/

section CutAt

variable {c : Char} {cs before behind : List Char}

theorem cutAt_append (behind : List Char) (h : c ∉ before) :
    cutAt c (before ++ c :: behind) = (before, some behind) := by
  induction before with
  | nil => rw [List.nil_append, cutAt, if_pos rfl]
  | cons x before ih =>
    rw [List.mem_cons, not_or] at h
    rw [List.cons_append, cutAt, if_neg (Ne.symm h.1), ih h.2]

/-- The two sides of a character that is found make the text, and it is the first of its kind. -/
theorem eq_of_cutAt (h : cutAt c cs = (before, some behind)) :
    cs = before ++ c :: behind ∧ c ∉ before := by
  induction cs generalizing before with
  | nil => cases h
  | cons x cs ih =>
    rw [cutAt] at h
    by_cases hx : x = c
    · rw [if_pos hx] at h
      cases h
      exact ⟨by rw [hx, List.nil_append], by simp⟩
    · rw [if_neg hx, Prod.mk.injEq] at h
      obtain ⟨rfl, hbehind⟩ := h
      obtain ⟨hcs, hc⟩ := ih (Prod.ext rfl hbehind)
      rw [List.mem_cons, not_or]
      exact ⟨by rw [List.cons_append, ← hcs], Ne.symm hx, hc⟩

theorem cutAt_eq_some :
    cutAt c cs = (before, some behind) ↔ cs = before ++ c :: behind ∧ c ∉ before := by
  constructor
  · exact eq_of_cutAt
  · rintro ⟨rfl, hc⟩
    exact cutAt_append behind hc

/-- A character that is not found leaves the text as it is. -/
theorem cutAt_eq_none : cutAt c cs = (before, none) ↔ cs = before ∧ c ∉ cs := by
  induction cs generalizing before with
  | nil => simp [cutAt, eq_comm]
  | cons x cs ih =>
    rw [cutAt, List.mem_cons, not_or]
    by_cases hx : x = c
    · simp [hx]
    · rw [if_neg hx]
      rcases hcut : cutAt c cs with ⟨front, behind⟩
      constructor
      · rintro ⟨⟩
        obtain ⟨rfl, hc⟩ := ih.mp hcut
        exact ⟨rfl, Ne.symm hx, hc⟩
      · rintro ⟨rfl, -, hc⟩
        rw [ih.mpr ⟨rfl, hc⟩] at hcut
        cases hcut
        rfl

end CutAt

/-- A text is cut at the first equals sign that was put into it. -/
theorem cut_append {c : Char} {s : String} (t : String) (h : c ∉ s.toList) :
    cut c (s ++ String.singleton c ++ t) = (s, t) := by
  have hlist : (s ++ String.singleton c ++ t).toList = s.toList ++ c :: t.toList := by simp
  rw [cut, hlist, cutAt_append _ h]
  simp

/-! ### Delimiters -/

section Delimiters

variable {sep : List Char}

/-- No character of a piece is one of the delimiter's. -/
def Avoids (sep piece : List Char) : Prop := ∀ c ∈ piece, c ∉ sep

theorem not_isPrefixOf_of_not_mem {c : Char} (cs : List Char) (hsep : sep ≠ []) (h : c ∉ sep) :
    sep.isPrefixOf (c :: cs) = false := by
  cases sep with
  | nil => exact absurd rfl hsep
  | cons x sep =>
    have hx : x ≠ c := fun hx => h (hx ▸ List.mem_cons_self)
    rw [List.isPrefixOf, beq_false_of_ne hx, Bool.false_and]

/-- The rest of a delimiter that was found is passed over. -/
theorem splitFrom_skip (skipped rest : List Char) :
    splitFrom sep skipped.length (skipped ++ rest) = splitFrom sep 0 rest := by
  induction skipped with
  | nil => rfl
  | cons c skipped ih => rw [List.length_cons, List.cons_append, splitFrom, ih]

/-- A piece ends where the delimiter begins: no occurrence starts inside it. -/
theorem splitFrom_append {piece : List Char} (rest : List Char) (hsep : sep ≠ [])
    (h : Avoids sep piece) :
    splitFrom sep 0 (piece ++ (sep ++ rest)) = piece :: splitFrom sep 0 rest := by
  induction piece with
  | nil =>
    cases sep with
    | nil => exact absurd rfl hsep
    | cons x tail =>
      have hfound : (x :: tail).isPrefixOf (x :: (tail ++ rest)) = true := by
        rw [List.isPrefixOf_iff_prefix]
        exact ⟨rest, rfl⟩
      rw [List.nil_append, List.cons_append, splitFrom, if_pos hfound]
      exact congrArg _ (splitFrom_skip tail rest)
  | cons c piece ih =>
    have hc : c ∉ sep := h c List.mem_cons_self
    have hpiece : Avoids sep piece := fun d hd => h d (List.mem_cons_of_mem c hd)
    have hnone := not_isPrefixOf_of_not_mem (piece ++ (sep ++ rest)) hsep hc
    rw [List.cons_append, splitFrom, hnone, ih hpiece]
    rfl

theorem splitFrom_piece {piece : List Char} (hsep : sep ≠ []) (h : Avoids sep piece) :
    splitFrom sep 0 piece = [piece] := by
  induction piece with
  | nil => rfl
  | cons c piece ih =>
    have hc : c ∉ sep := h c List.mem_cons_self
    have hpiece : Avoids sep piece := fun d hd => h d (List.mem_cons_of_mem c hd)
    rw [splitFrom, not_isPrefixOf_of_not_mem piece hsep hc, ih hpiece]
    rfl

/-- **Pieces are found again.** -/
theorem splitOn_joinWith {pieces : List (List Char)} (hsep : sep ≠ []) (hne : pieces ≠ [])
    (h : ∀ p ∈ pieces, Avoids sep p) : splitOn sep (joinWith sep pieces) = pieces := by
  unfold splitOn
  induction pieces with
  | nil => exact absurd rfl hne
  | cons p pieces ih =>
    have hp := h p List.mem_cons_self
    cases pieces with
    | nil => exact splitFrom_piece hsep hp
    | cons q pieces =>
      have hrest := ih (List.cons_ne_nil q pieces) fun x hx => h x (List.mem_cons_of_mem p hx)
      rw [joinWith, List.append_assoc, splitFrom_append _ hsep hp, hrest]

theorem split_join {sep : String} {pieces : List String} (hsep : sep ≠ "") (hne : pieces ≠ [])
    (h : ∀ p ∈ pieces, Avoids sep.toList p.toList) : split sep (join sep pieces) = pieces := by
  have hsplit : splitOn sep.toList (joinWith sep.toList (pieces.map String.toList)) =
      pieces.map String.toList := by
    refine splitOn_joinWith (by simpa using hsep) (by simpa using hne) ?_
    simpa using h
  rw [split, join, String.toList_ofList, hsplit, List.map_map]
  simp [Function.comp_def]

end Delimiters

end ParamBinding.Text
