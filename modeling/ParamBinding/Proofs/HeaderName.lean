import Mathlib.Data.List.TakeWhile
import ParamBinding.Request.Basic

/-!
# Names of headers

A header is asked for by its name in small letters, and the small letters have to have a Latin-1
form. They do when the name has one: no capital letter of Latin-1 has a small form outside of it
(`latin1Error?_lower`).
-/

namespace ParamBinding

open ParamBinding.Text

theorem toNat_ofNat_of_lt {n : Nat} (h : n < 0x100) : (Char.ofNat n).toNat = n := by
  have hvalid : n.isValidChar := .inl (by omega)
  rw [Char.ofNat, dif_pos hvalid]
  rfl

theorem toLower_latin1 {c : Char} (h : c.toNat < 0x80) : c.toLower.toNat < 0x100 := by
  unfold Char.toLower
  split
  · have hval : c.val.toNat < 0x80 := h
    have hshift : ('a'.val - 'A'.val).toNat = 32 := rfl
    show (c.val + ('a'.val - 'A'.val)).toNat < 0x100
    rw [UInt32.toNat_add, hshift]
    omega
  · omega

/-- No run of capital letters leads out of Latin-1. -/
theorem lowerRuns_latin1 :
    ∀ r ∈ lowerRuns, r.first < 0x100 → (r.last : Int) + r.shift < 0x100 := by
  have hall : lowerRuns.all fun r =>
      decide (r.first < 0x100 → (r.last : Int) + r.shift < 0x100) := by
    decide +kernel
  exact fun r hr => of_decide_eq_true (List.all_eq_true.mp hall r hr)

theorem mapCase_latin1 {n : Nat} (h : n < 0x100) : mapCase lowerRuns n < 0x100 := by
  unfold mapCase
  cases hfind : lowerRuns.find? (·.covers n) with
  | none => exact h
  | some r =>
    have hcovers := List.find?_some hfind
    have hrun := lowerRuns_latin1 r (List.mem_of_find?_eq_some hfind)
    simp only [CaseRun.covers, Bool.and_eq_true, decide_eq_true_eq] at hcovers
    dsimp only
    omega

/-- The small form of a character of Latin-1 is one of Latin-1. -/
theorem lowerChar_latin1 {c : Char} (h : c.toNat < 0x100) :
    ∀ x ∈ lowerChar c, x.toNat < 0x100 := by
  intro x hx
  unfold lowerChar at hx
  dsimp only at hx
  split at hx
  · rename_i hascii
    rw [List.mem_singleton.mp hx]
    exact toLower_latin1 hascii
  · split at hx
    · omega
    · rw [List.mem_singleton.mp hx, toNat_ofNat_of_lt (mapCase_latin1 h)]
      exact mapCase_latin1 h

theorem lowerBehind_latin1 (before : List Char) {cs : List Char} (h : ∀ c ∈ cs, c.toNat < 0x100) :
    ∀ c ∈ lowerBehind before cs, c.toNat < 0x100 := by
  induction cs generalizing before with
  | nil => simp [lowerBehind]
  | cons x cs ih =>
    intro c hc
    rw [lowerBehind, List.mem_append] at hc
    rcases hc with hc | hc
    · have hx := h x List.mem_cons_self
      -- the one letter whose small form depends on its neighbours is not in Latin-1
      have hsigma : x ≠ 'Σ' := by
        rintro rfl
        exact absurd hx (by decide)
      rw [if_neg (by simp [hsigma])] at hc
      exact lowerChar_latin1 hx c hc
    · exact ih _ (fun y hy => h y (List.mem_cons_of_mem x hy)) c hc

/-- A name in Latin-1 can be asked for. -/
theorem latin1Error?_lower {name : String} (h : ∀ c ∈ name.toList, c.toNat < 0x100) :
    latin1Error? (lower name).toList = none := by
  have hlower : ∀ c ∈ (lower name).toList, c.toNat < 0x100 := by
    rw [lower, String.toList_ofList]
    exact lowerBehind_latin1 [] h
  have hall : (lower name).toList.takeWhile (·.toNat < 0x100) = (lower name).toList :=
    List.takeWhile_eq_self_iff.mpr fun c hc => decide_eq_true (hlower c hc)
  simp [latin1Error?, hall, beyondLatin1]

end ParamBinding
