import ParamBinding.Proofs.Instance
import ParamBinding.Proofs.Schedule

/-!
# What a request can do to an application

Faults of a request are contained: whatever a step of the schedule meets, it reports as a fault that
carries the status of a bad request (`Binder.Fails.isRequestFault`). What is done around the steps
is not watched over in this way. A new model, the name of a header and the address of the request
may each be at fault on their own, and then that fault escapes (`Binder.resolve_answers`). Of these
only the last is in the hands of the client.
-/

namespace ParamBinding

open ParamBinding.Text

/-! ### Steps -/

namespace Outcome

/-- The fault of an outcome, if it has one, is the request's. -/
def IsContained (o : Outcome) : Prop := ∀ f, o.fault? = some f → f.isRequestFault

theorem isContained_skip : skip.IsContained := by
  rintro f ⟨⟩

theorem isContained_fail {f : Fault} : (fail f).IsContained ↔ f.isRequestFault := by
  constructor
  · intro h
    exact h f rfl
  · rintro h _ ⟨⟩
    exact h

end Outcome

namespace Filler

variable (f : Filler) (place : Place)

/-- A fault that is blamed on a field is the request's. -/
theorem isRequestFault_blame (e : Fault) : (f.blame place e).isRequestFault := by
  unfold blame
  split
  · rename_i h
    simp [Fault.isRequestFault, h]
  · rfl

theorem isContained_outcome (v : Except Fault Value) : (f.outcome place v).IsContained := by
  cases v with
  | ok v => rintro _ ⟨⟩
  | error e => exact Outcome.isContained_fail.mpr (f.isRequestFault_blame place e)

theorem isContained_fillText (s : String) : (f.fillText place s).IsContained :=
  f.isContained_outcome place _

theorem isContained_fillList (vs : List String) : (f.fillList place vs).IsContained := by
  unfold fillList
  split
  · exact f.isContained_outcome place _
  · split
    · exact Outcome.isContained_skip
    · exact f.isContained_fillText place _

end Filler

theorem BodyFiller.isContained_fill (f : BodyFiller) (b : Binder) (r : Request) (body : Bytes) :
    (f.fill b r body).IsContained := by
  unfold fill
  dsimp only
  split
  · exact Outcome.isContained_fail.mpr rfl
  · split
    · rintro _ ⟨⟩
    · exact Outcome.isContained_fail.mpr rfl

theorem PathFiller.isContained_fill (f : PathFiller) (v : Option Value) :
    (f.fill v).IsContained := by
  unfold fill
  split
  · exact Outcome.isContained_fail.mpr rfl
  · exact f.isContained_fillText .path _
  · exact f.isContained_outcome .path _

theorem NameUse.isContained_outcome (use : NameUse) (strict : Bool) (name : String)
    (vs : List String) : (use.outcome strict name vs).IsContained := by
  unfold outcome
  split
  · exact Filler.isContained_fillList _ .query vs
  · exact Outcome.isContained_skip
  · split
    · exact Outcome.isContained_fail.mpr rfl
    · exact Outcome.isContained_skip

namespace Binder

variable {b : Binder} {r : Request} {body : Bytes}

/-- What a lookup fails with is the request's, or there is no outcome. -/
theorem isContained_pathOutcome {f : PathFiller} {o : Outcome} (h : b.pathOutcome r f = .ok o) :
    o.IsContained := by
  unfold pathOutcome at h
  split at h
  · cases h
    exact f.isContained_fill _
  · split at h
    · cases h
      exact Outcome.isContained_fail.mpr ‹_›
    · cases h

/-- A body that is no form is reported as such. -/
theorem isRequestFault_of_formPart {f : Fault} (h : b.formPart r body = .error f) :
    f.isRequestFault := by
  unfold formPart formItems at h
  split at h
  · split at h
    · cases h
    · cases h
      rfl
  · cases h

/-- **No step lets a fault escape.** The fault of a step that fails is one of the request. -/
theorem Fails.isRequestFault {s : Step} {f : Fault} (h : b.Fails r body s f)
    (hs : s ∈ b.schedule r body) : f.isRequestFault := by
  unfold Fails at h
  cases s with
  | body bf => exact bf.isContained_fill b r body f h
  | path pf =>
    rw [outcome] at h
    cases ho : b.pathOutcome r pf with
    | ok o =>
      rw [ho] at h
      exact isContained_pathOutcome ho f h
    | error g =>
      rw [ho] at h
      cases h
  | header hf =>
    simp only [outcome] at h
    split at h
    · cases h
    · exact hf.isContained_fillList .header _ f h
  | name part n => exact NameUse.isContained_outcome _ _ _ _ f h
  | brokenForm g =>
    -- the schedule has this step only for what reading the form has reported
    have hform : b.formPart r body = .error g := mem_schedule.mp hs
    cases h
    exact isRequestFault_of_formPart hform
  | keys root =>
    simp only [outcome] at h
    split at h
    · exact Filler.isContained_outcome _ .query _ f h
    · cases h
  | cookie cf =>
    simp only [outcome] at h
    split at h
    · cases h
    · exact cf.isContained_fillText .cookie _ f h

end Binder

/-! ### What escapes -/

/-- A request is answered with a model, or refused as a bad request with a fault of its own. -/
def Answered (result : Except ResolveError (Record Value)) : Prop :=
  (∃ model, result = .ok model) ∨
    ∃ e, result = .error (.bind e) ∧ e.cause.status? = some badRequest ∧ e.status = badRequest

theorem answered_ok (model : Record Value) : Answered (.ok model) := .inl ⟨model, rfl⟩

theorem answered_bind {model : Record Value} {f : Fault} (h : f.isRequestFault) :
    Answered (.error (.bind ⟨model, f⟩)) := by
  have hstatus : f.status? = some badRequest := by rw [Fault.status?, if_pos h]
  refine .inr ⟨_, rfl, hstatus, ?_⟩
  rw [BindError.status, hstatus, Option.getD_some]

theorem not_answered_escaped (f : Fault) : ¬ Answered (.error (.escaped f)) := by
  rintro (⟨model, h⟩ | ⟨e, h, -⟩) <;> cases h

namespace Binder

variable {env : Env} {t : Ty} {b : Binder} {r : Request} {body : Bytes} {new : Record Value}

/-- A model without a new instance serves no request. -/
theorem resolve_of_newInstance {f : Fault} (h : b.head.newInstance b.members = .error f) :
    b.resolve r body = .error (.escaped f) := by
  rw [resolve, h]
  rfl

/-- Neither does one that asks for a header whose name has no Latin-1 form. -/
theorem resolve_of_not_headersNamed (hb : t.compile env = .ok (.binder b)) (body : Bytes)
    (hvars : b.VariablesFound r) (hnew : b.head.newInstance b.members = .ok new)
    (h : ¬ b.HeadersNamed) : ∃ e, b.resolve r body = .error (.escaped (.headerName e)) := by
  obtain ⟨e, he⟩ := headerOutcomes_eq_error (r := r) h
  refine ⟨e, ?_⟩
  rw [resolve, hnew, outcomes, pathOutcomes_eq body (lookups_of_compile hb hvars), he]
  rfl

/-- Where the steps are all that can go wrong, the first fault is answered for if the address can be
read, and it gives way to the fault of the address if not. -/
theorem resolve_of_firstFault? (hread : b.Readable r)
    (hnew : b.head.newInstance b.members = .ok new) {f : Fault}
    (hf : b.firstFault? r body = some f) :
    b.resolve r body = match r.addressPath with
      | .ok _ => .error (.bind ⟨b.filled r body new, f⟩)
      | .error e => .error (.escaped e) := by
  rw [resolve_eq hread hnew, hf]
  cases r.addressPath <;> rfl

theorem fails_of_firstFault? {f : Fault} (h : b.firstFault? r body = some f) :
    ∃ s ∈ b.schedule r body, b.Fails r body s f := by
  obtain ⟨before, s, after, hsplit, hs, -⟩ := firstFault?_eq_some.mp h
  refine ⟨s, ?_, hs⟩
  rw [hsplit]
  exact List.mem_append_right before List.mem_cons_self

/-- Then only the address can escape, and it takes a step that fails. -/
theorem resolve_eq_escaped (hread : b.Readable r)
    (hnew : b.head.newInstance b.members = .ok new) {f : Fault} :
    b.resolve r body = .error (.escaped f) ↔
      r.addressPath = .error f ∧ ∃ s ∈ b.schedule r body, ∃ f', b.Fails r body s f' := by
  cases hfirst : b.firstFault? r body with
  | none =>
    rw [resolve_eq hread hnew, hfirst]
    refine iff_of_false (by rintro ⟨⟩) ?_
    rintro ⟨-, s, hs, f', hfails⟩
    exact firstFault?_eq_none.mp hfirst s hs f' hfails
  | some f' =>
    obtain ⟨s, hs, hfails⟩ := fails_of_firstFault? hfirst
    rw [resolve_of_firstFault? hread hnew hfirst]
    constructor
    · intro h
      cases haddress : r.addressPath with
      | ok path =>
        rw [haddress] at h
        cases h
      | error e =>
        rw [haddress] at h
        cases h
        exact ⟨rfl, s, hs, f', hfails⟩
    · rintro ⟨haddress, -⟩
      rw [haddress]

/-- What does not escape is answered. -/
theorem answered_or_escaped (hread : b.Readable r)
    (hnew : b.head.newInstance b.members = .ok new) :
    Answered (b.resolve r body) ∨ ∃ f, b.resolve r body = .error (.escaped f) := by
  cases hfirst : b.firstFault? r body with
  | none =>
    rw [resolve_eq hread hnew, hfirst]
    exact .inl (answered_ok _)
  | some f =>
    obtain ⟨s, hs, hfails⟩ := fails_of_firstFault? hfirst
    rw [resolve_of_firstFault? hread hnew hfirst]
    cases r.addressPath with
    | ok path => exact .inl (answered_bind (hfails.isRequestFault hs))
    | error e => exact .inr ⟨_, rfl⟩

theorem answered_iff (hread : b.Readable r) (hnew : b.head.newInstance b.members = .ok new) :
    Answered (b.resolve r body) ↔
      (∃ path, r.addressPath = .ok path) ∨
        ∀ s ∈ b.schedule r body, ∀ f, ¬ b.Fails r body s f := by
  constructor
  · intro hanswered
    by_contra! hbad
    obtain ⟨hunread, hfails⟩ := hbad
    cases haddress : r.addressPath with
    | ok path => exact hunread path haddress
    | error e =>
      rw [(resolve_eq_escaped hread hnew).mpr ⟨haddress, hfails⟩] at hanswered
      exact not_answered_escaped _ hanswered
  · intro hgood
    rcases answered_or_escaped hread hnew with hanswered | ⟨f, hescaped⟩
    · exact hanswered
    · obtain ⟨haddress, s, hs, f', hfails⟩ := (resolve_eq_escaped hread hnew).mp hescaped
      rcases hgood with ⟨path, hpath⟩ | hnone
      · rw [haddress] at hpath
        cases hpath
      · exact absurd hfails (hnone s hs f')

/-- **What a request is answered with.** Let the source of path variables be sound. Then a request
is answered exactly when the model has a new instance, the names of headers have a Latin-1 form, and
the address of the request can be read or no step of the schedule fails. What escapes otherwise is
the fault of the new instance, which no request can help, that of the name of a header, or that of the
address. -/
theorem resolve_answers (hb : t.compile env = .ok (.binder b)) (body : Bytes)
    (hvars : b.VariablesFound r) :
    (Answered (b.resolve r body) ↔
      (∃ new, b.head.newInstance b.members = .ok new) ∧ b.HeadersNamed ∧
        ((∃ path, r.addressPath = .ok path) ∨
          ∀ s ∈ b.schedule r body, ∀ f, ¬ b.Fails r body s f)) ∧
      ∀ f, b.resolve r body = .error (.escaped f) →
        b.head.newInstance b.members = .error f ∨ (∃ e, f = .headerName e) ∨
          r.addressPath = .error f := by
  cases hnew : b.head.newInstance b.members with
  | error f =>
    -- the model is made before anything in the request is looked at
    rw [resolve_of_newInstance hnew]
    refine ⟨iff_of_false (not_answered_escaped _) ?_, fun f hf => ?_⟩
    · rintro ⟨⟨new, ⟨⟩⟩, -⟩
    · cases hf
      exact .inl rfl
  | ok new =>
    by_cases hheaders : b.HeadersNamed
    · have hread := readable_of_compile hb hvars hheaders
      refine ⟨?_, fun f hf => ?_⟩
      · rw [answered_iff hread hnew]
        exact ⟨fun h => ⟨⟨new, rfl⟩, hheaders, h⟩, fun h => h.2.2⟩
      · exact .inr (.inr ((resolve_eq_escaped hread hnew).mp hf).1)
    · -- a header that cannot be asked for stops everything, whatever the request is
      obtain ⟨e, he⟩ := resolve_of_not_headersNamed hb body hvars hnew hheaders
      rw [he]
      refine ⟨iff_of_false (not_answered_escaped _) fun h => hheaders h.2.1, fun f hf => ?_⟩
      cases hf
      exact .inr (.inl ⟨e, rfl⟩)

end Binder

theorem probe_answered : ∃ b, probe.compile ⟨{}, []⟩ = .ok (.binder b) ∧
    Answered (b.resolve probeRequest []) := by
  have hb : probe.compile ⟨{}, []⟩ = .ok (.binder (.declared ⟨{}, []⟩ _ _)) := rfl
  refine ⟨_, hb, ?_⟩
  exact (Binder.resolve_answers hb [] (by rintro _ ⟨⟩)).1.mpr
    ⟨⟨_, rfl⟩, probe_headersNamed hb, .inl ⟨_, rfl⟩⟩

/-- A strict model refuses an unknown name, but not when a byte of the query is no UTF-8: then the
log cannot be written and its fault escapes. -/
theorem unreadable_query_escapes :
    ¬ ∀ (env : Env) (t : Ty) (b : Binder) (r : Request) (body : Bytes),
      t.compile env = .ok (.binder b) → b.VariablesFound r → r.ReadsPairs → r.ReadsAddress →
      Answered (b.resolve r body) := by
  intro hall
  have hb : probe.compile ⟨{ strict := true }, []⟩ =
      .ok (.binder (.declared ⟨{ strict := true }, []⟩ _ _)) := rfl
  have hanswered := hall _ _ _ { query := [0xFF] } [] hb (by rintro _ ⟨⟩)
    (Request.readsPairs_standard rfl) (Request.readsAddress_standard rfl)
  exact not_answered_escaped _ hanswered

end ParamBinding
