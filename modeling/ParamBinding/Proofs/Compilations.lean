import ParamBinding.Proofs.KeyGathering
import ParamBinding.Service

/-!
# The compilations of a service

Looking up a type compiles it unless that was done before, and preparing several types looks them up
one after the other. Which compilations this takes is read off a service and the types
(`Service.compilations`). All that is used of them is stated once: they are of types that were not
compiled before and end with the first that fails (`Service.Compiles`), and a call keeps and tells
what they come to (`Service.CarriesOut`).
-/

namespace ParamBinding

/-! ### Counters -/

/-- Raising a counter raises that one only. -/
theorem Counters.get_increment (cs : Counters) (label l : String) :
    (cs.increment label).get l = cs.get l + if label = l then 1 else 0 := by
  induction cs with
  | nil =>
    by_cases h : label = l
    · simp [increment, get, h]
    · simp [increment, get, h, lookup_cons_eq_ite, Ne.symm h]
  | cons c rest ih =>
    obtain ⟨k, n⟩ := c
    simp only [get, increment] at ih ⊢
    by_cases hk : k = label
    · subst hk
      rw [if_pos rfl, lookup_cons_eq_ite, lookup_cons_eq_ite]
      by_cases hl : l = k
      · rw [if_pos hl, if_pos hl, if_pos hl.symm, Option.getD_some, Option.getD_some]
      · rw [if_neg hl, if_neg hl, if_neg (Ne.symm hl), Nat.add_zero]
    · rw [if_neg hk, lookup_cons_eq_ite, lookup_cons_eq_ite]
      by_cases hl : l = k
      · subst hl
        rw [if_pos rfl, if_pos rfl, if_neg (Ne.symm hk), Nat.add_zero]
      · rw [if_neg hl, if_neg hl, ih]

/-- Whether something compiled counts as a binder of the model of a name. -/
def Compiled.bears (label : String) (c : Compiled) : Bool :=
  match c.binder? with
  | some b => b.modelName = label
  | none => false

/-! ### Compilations -/

/-- A type that was compiled, and what came of it. -/
structure Compilation where
  type : Ty
  result : Except CompileError Compiled

namespace Compilation

/-- The entry of the cache that a compilation leaves when it runs to the end. -/
def kept? (x : Compilation) : Option (String × Compiled) :=
  match x.result with
  | .ok c => some (x.type.key, c)
  | .error _ => none

/-- What is told about a compilation: nothing if it fails. -/
def log (x : Compilation) : List LogRecord :=
  match x.result with
  | .ok c => c.log
  | .error _ => []

theorem kept?_eq_some {x : Compilation} {k : String} {c : Compiled} :
    x.kept? = some (k, c) ↔ x.result = .ok c ∧ x.type.key = k := by
  obtain ⟨t, result⟩ := x
  cases result with
  | ok c' =>
    simp only [kept?, Option.some.injEq, Prod.mk.injEq, Except.ok.injEq]
    exact and_comm
  | error e => simp [kept?]

end Compilation

namespace Service

/-- A service after a compilation, of which it keeps what has run to the end. -/
def keep (s : Service) (x : Compilation) : Service :=
  match x.result with
  | .ok c => s.remember x.type c
  | .error _ => s

/-- The compilations that looking up several types takes. A type that has been compiled before takes
none, and after a type without a binder no more types are looked up. -/
def compilations (s : Service) : List Ty → List Compilation
  | [] => []
  | t :: ts =>
    let here := match s.cached? t with
      | some _ => []
      | none => [⟨t, t.compile s.env⟩]
    let first := s.require t
    match first.result with
    | .error _ => here
    | .ok _ => here ++ first.service.compilations ts

/-- Compilations that a service may carry out in a row: of types that it has not compiled before, up
to the first compilation that fails. -/
inductive Compiles : Service → List Compilation → Prop
  | none (s : Service) : Compiles s []
  | failed {s : Service} {t : Ty} {e : CompileError} (hnew : s.cached? t = Option.none)
      (h : t.compile s.env = .error e) : Compiles s [⟨t, .error e⟩]
  | done {s : Service} {t : Ty} {c : Compiled} {xs : List Compilation}
      (hnew : s.cached? t = Option.none) (h : t.compile s.env = .ok c)
      (hrest : Compiles (s.remember t c) xs) : Compiles s (⟨t, .ok c⟩ :: xs)

variable {s : Service} {t u : Ty} {c : Compiled} {e : CompileError} {xs : List Compilation}

/-! #### One type -/

/-- What is kept for a type goes before what is compiled later. -/
theorem cached?_remember (s : Service) (t u : Ty) (c : Compiled) :
    (s.remember t c).cached? u = (s.cached? u).or (if u.key = t.key then some c else none) := by
  simp only [cached?, remember, List.lookup_append, lookup_cons_eq_ite, List.lookup_nil]

/-- Looking up a type finds it, compiles it, or fails to compile it. -/
theorem binderFor_cases (s : Service) (t : Ty) :
    (∃ c, s.cached? t = some c ∧ s.binderFor t = ⟨s, [], .ok c.binder?⟩) ∨
      (∃ c, s.cached? t = none ∧ t.compile s.env = .ok c ∧
        s.binderFor t = ⟨s.remember t c, c.log, .ok c.binder?⟩) ∨
      ∃ e, s.cached? t = none ∧ t.compile s.env = .error e ∧
        s.binderFor t = ⟨s, [], .error e⟩ := by
  unfold binderFor
  cases s.cached? t with
  | some c => exact .inl ⟨c, rfl, rfl⟩
  | none =>
    cases t.compile s.env with
    | ok c => exact .inr (.inl ⟨c, rfl, rfl, rfl⟩)
    | error e => exact .inr (.inr ⟨e, rfl, rfl, rfl⟩)

theorem require_of_error (h : (s.binderFor t).result = .error e) :
    (s.require t).result = .error e := by
  simp only [require, h]

theorem require_eq_ok {b : Binder} (h : (s.require t).result = .ok b) :
    (s.binderFor t).result = .ok (some b) := by
  simp only [require] at h
  split at h
  · rename_i b' hresult
    rw [hresult, Except.ok.inj h]
  · cases h
  · cases h

/-- A type that was found to have a binder is kept with it. -/
theorem cached?_of_require {b : Binder} (h : (s.require t).result = .ok b) :
    (s.require t).service.cached? t = some (.binder b) := by
  have hfound := require_eq_ok h
  have hbinder : ∀ {c : Compiled}, c.binder? = some b → c = .binder b := by
    rintro (_ | _ | b') hc
    · cases hc
    · cases hc
    · rw [Option.some.inj hc]
  show (s.binderFor t).service.cached? t = _
  obtain ⟨c, hc, heq⟩ | ⟨c, hnew, -, heq⟩ | ⟨e, -, -, heq⟩ := s.binderFor_cases t
  · rw [heq] at hfound ⊢
    rw [hc, hbinder (Except.ok.inj hfound)]
  · rw [heq] at hfound ⊢
    rw [cached?_remember, hnew, if_pos rfl, Option.none_or, hbinder (Except.ok.inj hfound)]
  · rw [heq] at hfound
    cases hfound

/-! #### Several types -/

theorem compilations_cons_of_cached (ts : List Ty) (h : s.cached? t = some c) :
    s.compilations (t :: ts) =
      match (s.require t).result with
      | .error _ => []
      | .ok _ => s.compilations ts := by
  have hservice : (s.require t).service = s := by
    simp only [require, binderFor, h]
  simp only [compilations, h, hservice, List.nil_append]

theorem compilations_cons_of_new (ts : List Ty) (h : s.cached? t = none) :
    s.compilations (t :: ts) = ⟨t, t.compile s.env⟩ ::
      match (s.require t).result with
      | .error _ => []
      | .ok _ => (s.require t).service.compilations ts := by
  simp only [compilations, h]
  cases (s.require t).result <;> rfl

theorem compiles_compilations (ts : List Ty) : ∀ s : Service, s.Compiles (s.compilations ts) := by
  induction ts with
  | nil => exact .none
  | cons t ts ih =>
    intro s
    obtain ⟨c, hc, -⟩ | ⟨c, hnew, hcompile, heq⟩ | ⟨e, hnew, hcompile, heq⟩ := s.binderFor_cases t
    · rw [compilations_cons_of_cached ts hc]
      split
      · exact .none s
      · exact ih s
    · have hservice : (s.require t).service = s.remember t c := congrArg Reply.service heq
      rw [compilations_cons_of_new ts hnew, hcompile, hservice]
      refine .done hnew hcompile ?_
      split
      · exact .none _
      · exact ih _
    · have hresult : (s.require t).result = .error e := require_of_error (by rw [heq])
      rw [compilations_cons_of_new ts hnew, hcompile, hresult]
      exact .failed hnew hcompile

theorem length_compilations_singleton (s : Service) (t : Ty) :
    (s.compilations [t]).length ≤ 1 := by
  simp only [compilations]
  cases s.cached? t <;> cases (s.require t).result <;> simp

/-- A reply is what compilations come to: the service keeps them, they are what is told, and one
that fails ends the call with its error. -/
structure CarriesOut {α : Type} (s : Service) (xs : List Compilation)
    (reply : Reply CompileError α) : Prop where
  service : reply.service = xs.foldl keep s
  log : reply.log = xs.flatMap Compilation.log
  failed : ∀ x ∈ xs, ∀ e, x.result = .error e → reply.result = .error e

theorem binderFor_carriesOut (s : Service) (t : Ty) :
    s.CarriesOut (s.compilations [t]) (s.binderFor t) := by
  have hlast : ∀ (result : Except CompileError Binder) (s' : Service),
      (match result with | .error _ => [] | .ok _ => s'.compilations []) = [] := by
    rintro (e | b) s' <;> rfl
  obtain ⟨c, hc, heq⟩ | ⟨c, hnew, hcompile, heq⟩ | ⟨e, hnew, hcompile, heq⟩ := s.binderFor_cases t
  · rw [compilations_cons_of_cached [] hc, hlast, heq]
    exact ⟨rfl, rfl, by simp⟩
  · rw [compilations_cons_of_new [] hnew, hlast, hcompile, heq]
    exact ⟨rfl, by simp [Compilation.log], by simp⟩
  · rw [compilations_cons_of_new [] hnew, hlast, hcompile, heq]
    exact ⟨rfl, by simp [Compilation.log], by simp⟩

theorem require_carriesOut (s : Service) (t : Ty) :
    s.CarriesOut (s.compilations [t]) (s.require t) where
  service := (s.binderFor_carriesOut t).service
  log := (s.binderFor_carriesOut t).log
  failed x hx e h := require_of_error ((s.binderFor_carriesOut t).failed x hx e h)

/-- Looking up a type and then others takes the compilations of both, one after the other. -/
theorem compilations_cons (s : Service) (t : Ty) (ts : List Ty) :
    s.compilations (t :: ts) = s.compilations [t] ++
      match (s.require t).result with
      | .error _ => []
      | .ok _ => (s.require t).service.compilations ts := by
  simp only [compilations]
  cases (s.require t).result <;> simp

theorem prepare_carriesOut (ts : List Ty) :
    ∀ s : Service, s.CarriesOut (s.compilations ts) (s.prepare ts) := by
  induction ts with
  | nil => exact fun s => ⟨rfl, rfl, by simp [compilations]⟩
  | cons t ts ih =>
    intro s
    have hfirst := s.require_carriesOut t
    rw [compilations_cons, prepare]
    cases hresult : (s.require t).result with
    | error e =>
      rw [List.append_nil]
      refine ⟨hfirst.service, hfirst.log, fun x hx e' hx' => ?_⟩
      rw [hfirst.failed x hx e' hx'] at hresult
      rw [Except.error.inj hresult]
    | ok b =>
      have hrest := ih (s.require t).service
      refine ⟨?_, ?_, fun x hx e hx' => ?_⟩
      · rw [List.foldl_append, ← hfirst.service]
        exact hrest.service
      · rw [List.flatMap_append, ← hfirst.log, ← hrest.log]
      · obtain hx | hx := List.mem_append.mp hx
        · -- a compilation that fails would have ended the call here
          rw [hfirst.failed x hx e hx'] at hresult
          cases hresult
        · exact hrest.failed x hx e hx'

/-! #### What compilations come to -/

@[simp] theorem keep_ok (s : Service) (t : Ty) (c : Compiled) :
    s.keep ⟨t, .ok c⟩ = s.remember t c := rfl

theorem get_compiled_remember (s : Service) (t : Ty) (c : Compiled) (l : String) :
    (s.remember t c).compiled.get l = s.compiled.get l + if c.bears l then 1 else 0 := by
  cases hb : c.binder? with
  | none => simp [remember, Compiled.bears, hb]
  | some b => simp [remember, Compiled.bears, hb, Counters.get_increment]

/-- Compilations add to the cache what has run to the end, count the binders, and change nothing
else. -/
theorem foldl_keep (xs : List Compilation) : ∀ s : Service,
    (xs.foldl keep s).env = s.env ∧
      (xs.foldl keep s).cache = s.cache ++ xs.filterMap Compilation.kept? ∧
      (∀ l, (xs.foldl keep s).compiled.get l =
        s.compiled.get l + (xs.filterMap Compilation.kept?).countP (·.2.bears l)) ∧
      (xs.foldl keep s).refused = s.refused := by
  induction xs with
  | nil => intro s; simp
  | cons x xs ih =>
    obtain ⟨t, result⟩ := x
    intro s
    cases result with
    | error e => exact ih s
    | ok c =>
      obtain ⟨henv, hcache, hcompiled, hrefused⟩ := ih (s.remember t c)
      refine ⟨henv, ?_, fun l => ?_, hrefused⟩
      · rw [List.foldl_cons, keep_ok, hcache, remember, List.append_assoc]
        rfl
      · rw [List.foldl_cons, keep_ok, hcompiled, get_compiled_remember, Nat.add_assoc,
          Nat.add_comm (if c.bears l then 1 else 0)]
        exact congrArg (s.compiled.get l + ·)
          (@List.countP_cons _ (fun e => e.2.bears l) (t.key, c) _).symm

/-- What is kept for a type stays. -/
theorem cached?_foldl_keep (xs : List Compilation) (h : s.cached? t = some c) :
    (xs.foldl keep s).cached? t = some c := by
  have hlookup : s.cache.lookup t.key = some c := h
  rw [cached?, (foldl_keep xs s).2.1, List.lookup_append, hlookup, Option.some_or]

namespace Compiles

theorem result_eq (h : s.Compiles xs) : ∀ x ∈ xs, x.result = x.type.compile s.env := by
  induction h with
  | none s => simp
  | failed hnew h => simp [h]
  | done hnew h hrest ih =>
    rintro x (_ | ⟨_, hx⟩)
    · exact h.symm
    · exact ih x hx

/-- Only types that were not compiled before are compiled. -/
theorem cached?_eq_none (h : s.Compiles xs) : ∀ x ∈ xs, s.cached? x.type = Option.none := by
  induction h with
  | none s => simp
  | failed hnew h => simp [hnew]
  | done hnew h hrest ih =>
    rintro x (_ | ⟨_, hx⟩)
    · exact hnew
    · have hlater := ih x hx
      rw [cached?_remember, Option.or_eq_none_iff] at hlater
      exact hlater.1

/-- A type is not compiled again after a compilation of it that has run to the end. -/
theorem once (h : s.Compiles xs) : xs.Pairwise fun x y =>
    ∀ c, x.result = .ok c → y.type.key ≠ x.type.key := by
  induction h with
  | none s => exact .nil
  | failed hnew h => exact List.pairwise_singleton ..
  | @done s t c xs hnew h hrest ih =>
    refine List.pairwise_cons.mpr ⟨fun y hy _ _ hkey => ?_, ih⟩
    have hlater := hrest.cached?_eq_none y hy
    rw [cached?_remember, if_pos hkey, Option.or_eq_none_iff] at hlater
    cases hlater.2

/-- A compilation that fails is the last one, and its type stays uncompiled. -/
theorem failed_last (h : s.Compiles xs) {x : Compilation} (hx : x ∈ xs)
    (hresult : x.result = .error e) :
    ∃ done, xs = done ++ [x] ∧ (∀ y ∈ done, ∃ c, y.result = .ok c) ∧
      (xs.foldl keep s).cached? x.type = Option.none ∧ xs.foldl keep s = done.foldl keep s := by
  induction h with
  | none s => cases hx
  | failed hnew h =>
    obtain rfl := List.mem_singleton.mp hx
    exact ⟨[], rfl, by simp, hnew, rfl⟩
  | @done s t c xs hnew h hrest ih =>
    obtain rfl | hx := List.mem_cons.mp hx
    · cases hresult
    · obtain ⟨done, hxs, hdone, hcached, hkept⟩ := ih hx
      refine ⟨⟨t, .ok c⟩ :: done, by rw [hxs, List.cons_append], ?_, hcached, hkept⟩
      rintro y (_ | ⟨_, hy⟩)
      · exact ⟨c, rfl⟩
      · exact hdone y hy

end Compiles

end Service

end ParamBinding
