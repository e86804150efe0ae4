import ParamBinding.Proofs.Declaration
import ParamBinding.Proofs.Grouping
import ParamBinding.Proofs.HeaderName

/-!
# The schedule of a request

Resolving a request is written as a fold over tables, with texts of keys that wait until all names
have been seen. Here the same work is laid out as one list of steps that is known in advance
(`Binder.schedule`): the body, the path variables, the headers, the names of the query, those of the
form, the parameters with keys and the cookies. Every step has an outcome of its own, whatever the
others do (`Binder.outcomes_eq`).

A request is resolved when no step of its schedule fails; otherwise the earliest step that fails is
reported, and all steps have been carried out (`Binder.resolve_schedule`).
-/

namespace ParamBinding

open ParamBinding.Text

/-- The parts of a request in which parameters are found by the names that occur there. -/
inductive NamePart where
  | query
  | form
  deriving DecidableEq, Repr

/-- One thing that is done while a request is resolved. -/
inductive Step where
  | body (f : BodyFiller)
  | path (f : PathFiller)
  | header (f : Filler)
  /-- A name of the query or of a form is dealt with. -/
  | name (part : NamePart) (name : String)
  /-- The body is no form although its content type says so. -/
  | brokenForm (f : Fault)
  /-- A parameter with keys is filled from all of its keys. -/
  | keys (root : String)
  | cookie (f : Filler)

namespace NameUse

/-- The entry that a name with texts leaves for the parameter whose key it is. -/
def waiting? (vs : List String) : NameUse → Option KeyEntry
  | .key root k => some ⟨root, k, vs⟩
  | _ => none

theorem keep_eq (use : NameUse) (vs : List String) (kept : Buffered) :
    use.keep vs kept =
      (use.waiting? vs).toList.foldl (fun kept e => kept.put e.root e.key e.values) kept := by
  cases use <;> rfl

end NameUse

/-! ### What the schedule is made from -/

namespace Binder

variable (b : Binder) (r : Request) (body : Bytes)

/-- The parameters without keys that a part of the request may fill. -/
def plainTable : NamePart → List Filler
  | .query => b.fillers.query
  | .form => b.fillers.form

/-- The parameters with keys that a part of the request may fill. -/
def keyedTable : NamePart → List Filler
  | .query => b.fillers.deepObject
  | .form => b.fillers.formDeepObject

/-- What becomes of a name. -/
def usage (part : NamePart) (name : String) : NameUse :=
  nameUse (b.plainTable part) (b.keyedTable part) name

/-- The form in the body, which is only looked for when a filler needs it and the content type is
that of forms, letter by letter. -/
def formPart : Except Fault (List (String × String)) :=
  if b.fillers.needsForm && r.contentType = formContentType then formItems body else .ok []

/-- The pairs of a part of the request. -/
def items : NamePart → List (String × String)
  | .query => r.queryPairs
  | .form => (b.formPart r body).toOption.getD []

/-- The names of a part of the request, in the order of their first appearance. -/
def names (part : NamePart) : List String := Urlencoded.names (b.items r body part)

/-- The texts that a part of the request has for a name. -/
def values (part : NamePart) (name : String) : List String :=
  Urlencoded.valuesOf (b.items r body part) name

/-- What the names of a part leave for parameters with keys. -/
def keyEntries (part : NamePart) : List KeyEntry :=
  (b.names r body part).filterMap fun name =>
    (b.usage part name).waiting? (b.values r body part name)

/-- What is left for parameters with keys, by the query before the form. -/
def allEntries : List KeyEntry := b.keyEntries r body .query ++ b.keyEntries r body .form

/-- The parameters with keys that have something to be filled from, in the order in which their
first keys arrived. -/
def roots : List String := ((b.allEntries r body).map (·.root)).eraseDups

/-- The steps of the form: its names, or one that fails when it cannot be read. -/
def formSteps : List Step :=
  match b.formPart r body with
  | .ok _ => (b.names r body .form).map (.name .form)
  | .error f => [.brokenForm f]

/-- The steps of a request in order. -/
def schedule : List Step :=
  b.fillers.body.toList.map .body ++ b.fillers.path.map .path ++ b.fillers.header.map .header ++
    (b.names r body .query).map (.name .query) ++ b.formSteps r body ++
    (b.roots r body).map .keys ++ b.fillers.cookie.map .cookie

/-- The outcome of a step. -/
def outcome : Step → Outcome
  | .body f => f.fill b r body
  | .path f => (b.pathOutcome r f).toOption.getD .skip
  | .header f =>
    let vs := r.headersNamed f.name
    if vs.isEmpty then .skip else f.fillList .header vs
  | .name part name => (b.usage part name).outcome b.strict name (b.values r body part name)
  | .brokenForm f => .fail f
  | .keys root => match b.deepFiller? root with
    | some f => f.fillKeys (keysOf (b.allEntries r body) root)
    | none => .skip
  | .cookie f => match Cookie.get? r.cookies f.name with
    | none => .skip
    | some s => f.fillText .cookie s

/-- The source of path variables does not fail, and neither does looking one up. -/
def VariablesFound : Prop :=
  ∀ p, b.pathVars = some p → ∀ name, ∃ v, p.lookup r.pathParams name = .ok v

/-- The names of all headers that fields ask for have a Latin-1 form. -/
def HeadersNamed : Prop := ∀ f ∈ b.fillers.header, latin1Error? (lower f.name).toList = none

/-- Names in Latin-1 will do. -/
theorem headersNamed_of_latin1 {b : Binder}
    (h : ∀ f ∈ b.fillers.header, ∀ c ∈ f.name.toList, c.toNat < 0x100) : b.HeadersNamed :=
  fun f hf => latin1Error?_lower (h f hf)

/-- What fields ask for can be looked up in the request, whether or not it is there: no lookup stops
everything. -/
structure Readable : Prop where
  lookups : ∀ f ∈ b.fillers.path, ∃ o, b.pathOutcome r f = .ok o
  headers : b.HeadersNamed

/-- Without path variables and headers there is nothing to be looked up. -/
theorem readable_of_eq_nil {b : Binder} (hpath : b.fillers.path = []) (hheader : b.fillers.header = [])
    (r : Request) : b.Readable r := by
  constructor
  · rw [hpath]
    rintro f ⟨⟩
  · rw [HeadersNamed, hheader]
    rintro f ⟨⟩

end Binder

/-- The steps of a schedule, by what they do. -/
theorem Binder.mem_schedule {b : Binder} {r : Request} {body : Bytes} {s : Step} :
    s ∈ b.schedule r body ↔ match s with
      | .body f => f ∈ b.fillers.body.toList
      | .path f => f ∈ b.fillers.path
      | .header f => f ∈ b.fillers.header
      | .name part name => name ∈ b.names r body part
      | .brokenForm f => b.formPart r body = .error f
      | .keys root => root ∈ b.roots r body
      | .cookie f => f ∈ b.fillers.cookie := by
  -- a form that cannot be read has one step that fails, and no names
  have hnone : ∀ f, b.formPart r body = .error f → b.names r body .form = [] := by
    intro f hf
    rw [names, items, hf]
    rfl
  unfold schedule formSteps
  cases s with
  | name part n =>
    cases part <;> cases hf : b.formPart r body <;> simp [hnone, hf]
  | brokenForm f => cases b.formPart r body <;> simp [eq_comm]
  | _ => cases b.formPart r body <;> simp

/-! ### Dealing with names -/

section Names

variable (plain deep : List Filler) (strict : Bool) (values : String → List String)

/-- Dealing with names one after another does for each of them what is done for it alone. -/
theorem foldl_add (ns : List String) (s : Sorted) :
    (ns.map fun name => (name, values name)).foldl
        (fun s i => s.add plain deep strict i.1 i.2) s =
      ⟨s.outcomes ++ ns.map fun name =>
          (nameUse plain deep name).outcome strict name (values name),
        (ns.filterMap fun name => (nameUse plain deep name).waiting? (values name)).foldl
          (fun kept e => kept.put e.root e.key e.values) s.buffered⟩ := by
  induction ns generalizing s with
  | nil => simp
  | cons name ns ih =>
    rw [List.map_cons, List.foldl_cons, ih, Sorted.add, NameUse.keep_eq]
    cases h : (nameUse plain deep name).waiting? (values name) <;> simp [h]

end Names

namespace Binder

variable (b : Binder) (r : Request) (body : Bytes)

theorem sortNames_eq (part : NamePart) (kept : Buffered) :
    b.sortNames (b.plainTable part) (b.keyedTable part) (b.items r body part) kept =
      ⟨(b.names r body part).map fun name => b.outcome r body (.name part name),
        (b.keyEntries r body part).foldl (fun kept e => kept.put e.root e.key e.values) kept⟩ := by
  rw [sortNames, Urlencoded.group_eq, foldl_add, List.nil_append]
  rfl

/-- Dealing with the form is carrying out its steps. -/
theorem sortForm_eq (kept : Buffered) :
    b.sortForm r body kept =
      ⟨(b.formSteps r body).map (b.outcome r body),
        (b.keyEntries r body .form).foldl (fun kept e => kept.put e.root e.key e.values) kept⟩ := by
  have hsort := b.sortNames_eq r body .form kept
  unfold sortForm
  unfold formSteps keyEntries names items at *
  -- a body that is not looked at counts as a form without pairs
  by_cases hread : b.fillers.needsForm && r.contentType = formContentType
  · rw [if_pos hread]
    cases hitems : formItems body with
    | ok items =>
      simp only [formPart, hread, hitems, if_true, Except.toOption, Option.getD_some,
        List.map_map] at hsort ⊢
      exact hsort
    | error f =>
      simp [formPart, hread, hitems, Except.toOption, Urlencoded.names, outcome]
  · rw [if_neg hread]
    simp [formPart, hread, Except.toOption, Urlencoded.names]

end Binder

/-! ### Parameters with keys -/

/-- A name is the key of a parameter when no parameter has it for a name, when it has brackets, and
when there is a parameter with keys of the name in front of them. -/
theorem NameUse.waiting?_eq_some {plain deep : List Filler} {name : String} {vs : List String}
    {e : KeyEntry} :
    (nameUse plain deep name).waiting? vs = some e ↔
      lookupFiller plain name = none ∧ Urlencoded.bracketed? name = some (e.root, e.key) ∧
        (lookupFiller deep e.root).isSome ∧ e.values = vs := by
  unfold nameUse
  cases hplain : lookupFiller plain name with
  | some f => simp [waiting?]
  | none =>
    cases hname : Urlencoded.bracketed? name with
    | none => simp [waiting?]
    | some rk =>
      obtain ⟨root, k⟩ := rk
      by_cases hdeep : (lookupFiller deep root).isSome
      · simp only [if_pos hdeep]
        constructor
        · rintro ⟨⟩
          exact ⟨trivial, rfl, hdeep, rfl⟩
        · rintro ⟨-, hrk, -, rfl⟩
          cases hrk
          rfl
      · simp only [if_neg hdeep]
        constructor
        · rintro ⟨⟩
        · rintro ⟨-, hrk, hsome, -⟩
          cases hrk
          exact absurd hsome hdeep

namespace Binder

variable {b : Binder} {r : Request} {body : Bytes}

/-- A name is a parameter's when it is found in the table of those without keys. -/
theorem usage_eq_parameter {part : NamePart} {name : String} {f : Filler} :
    b.usage part name = .parameter f ↔ lookupFiller (b.plainTable part) name = some f := by
  unfold usage nameUse
  cases lookupFiller (b.plainTable part) name with
  | some g => simp
  | none =>
    cases Urlencoded.bracketed? name with
    | none => simp
    | some rk =>
      dsimp only
      split <;> simp

theorem mem_keyEntries {part : NamePart} {e : KeyEntry} :
    e ∈ b.keyEntries r body part ↔ ∃ name ∈ b.names r body part,
      lookupFiller (b.plainTable part) name = none ∧
        Urlencoded.bracketed? name = some (e.root, e.key) ∧
        (lookupFiller (b.keyedTable part) e.root).isSome ∧
          e.values = b.values r body part name := by
  simp only [keyEntries, usage, List.mem_filterMap, NameUse.waiting?_eq_some]

theorem mem_roots {root : String} :
    root ∈ b.roots r body ↔ ∃ e ∈ b.allEntries r body, e.root = root := by
  rw [roots, List.mem_eraseDups, List.mem_map]

/-- Every parameter with keys that something has been kept for has a filler. -/
theorem deepFiller?_of_mem_roots {root : String} (h : root ∈ b.roots r body) :
    ∃ f, b.deepFiller? root = some f := by
  obtain ⟨e, he, rfl⟩ := mem_roots.mp h
  rw [← Option.isSome_iff_exists, deepFiller?, Option.isSome_or, Bool.or_eq_true]
  rcases List.mem_append.mp he with he | he
  · obtain ⟨name, -, -, -, hdeep, -⟩ := mem_keyEntries.mp he
    exact .inl hdeep
  · obtain ⟨name, -, -, -, hdeep, -⟩ := mem_keyEntries.mp he
    exact .inr hdeep

/-- The query, the form and the parameters with keys are filled by the steps of the schedule. -/
theorem queryOutcomes_eq :
    b.queryOutcomes r body =
      .ok (((b.names r body .query).map (Step.name .query) ++ b.formSteps r body ++
        (b.roots r body).map Step.keys).map (b.outcome r body)) := by
  have hquery := b.sortNames_eq r body .query []
  have hform := b.sortForm_eq r body (Buffered.ofEntries (b.keyEntries r body .query))
  -- the form adds to what the query has left: one fold over the entries of both
  have hkept : (b.keyEntries r body .form).foldl (fun kept e => kept.put e.root e.key e.values)
      (Buffered.ofEntries (b.keyEntries r body .query)) =
        (b.roots r body).map fun root => (root, keysOf (b.allEntries r body) root) := by
    rw [Buffered.ofEntries, ← List.foldl_append]
    exact Buffered.ofEntries_eq (b.allEntries r body)
  -- what has been kept for a root finds its filler again
  have hdeep : ((b.roots r body).map fun root => (root, keysOf (b.allEntries r body) root)).mapM
      (fun e => b.deepOutcome e.1 e.2) =
        .ok ((b.roots r body).map fun root => b.outcome r body (.keys root)) := by
    rw [List.mapM_map]
    refine mapM_eq_ok_map fun root hroot => ?_
    obtain ⟨f, hf⟩ := deepFiller?_of_mem_roots hroot
    simp only [Function.comp_apply, deepOutcome, outcome, hf]
  rw [hkept] at hform
  simp only [plainTable, keyedTable, items] at hquery
  unfold Buffered.ofEntries at hform
  rw [queryOutcomes, hquery, hform, hdeep]
  simp [bind, Except.bind, Function.comp_def]

/-- Path variables are looked up by the steps of the schedule. -/
theorem pathOutcomes_eq (body : Bytes)
    (h : ∀ f ∈ b.fillers.path, ∃ o, b.pathOutcome r f = .ok o) :
    b.pathOutcomes r = .ok ((b.fillers.path.map Step.path).map (b.outcome r body)) := by
  rw [pathOutcomes, List.map_map]
  refine mapM_eq_ok_map fun f hf => ?_
  obtain ⟨o, ho⟩ := h f hf
  simp [ho, outcome, Except.toOption]

theorem headerOutcomes_eq (body : Bytes) (h : b.HeadersNamed) :
    b.headerOutcomes r = .ok ((b.fillers.header.map Step.header).map (b.outcome r body)) := by
  rw [headerOutcomes, List.map_map]
  refine mapM_eq_ok_map fun f hf => ?_
  simp [Request.headerValues, h f hf, outcome, Except.map]

/-- A header whose name has no Latin-1 form cannot be asked for. -/
theorem headerOutcomes_eq_error (h : ¬ b.HeadersNamed) :
    ∃ e, b.headerOutcomes r = .error (.headerName e) := by
  cases hout : b.headerOutcomes r with
  | error f =>
    obtain ⟨hf, -, hfail⟩ := mapM_eq_error hout
    rw [map_eq_error, Request.headerValues] at hfail
    split at hfail
    · cases hfail
      exact ⟨_, rfl⟩
    · cases hfail
  | ok os =>
    -- a header that has been looked up has a name in Latin-1
    refine absurd (fun f hf => ?_) h
    obtain ⟨o, -, ho⟩ := exists_mem_of_mapM hout hf
    obtain ⟨vs, hvs, -⟩ := map_eq_ok.mp ho
    rw [Request.headerValues] at hvs
    cases hname : latin1Error? (lower f.name).toList with
    | none => rfl
    | some e =>
      rw [hname] at hvs
      cases hvs

/-- **Every step on its own.** Where everything that fields ask for can be looked up, what is done
for a request is the list of the outcomes of its schedule, each of which depends on the request
alone. -/
theorem outcomes_eq (h : b.Readable r) :
    b.outcomes r body = .ok ((b.schedule r body).map (b.outcome r body)) := by
  rw [outcomes, pathOutcomes_eq body h.lookups, headerOutcomes_eq body h.headers,
    queryOutcomes_eq]
  simp only [bind, Except.bind, schedule, cookieOutcomes, List.map_append, List.map_map,
    List.append_assoc]
  rfl

/-- A request that has outcomes at all has had everything looked up. -/
theorem readable_of_outcomes {os : List Outcome} (h : b.outcomes r body = .ok os) :
    b.Readable r := by
  rw [outcomes] at h
  obtain ⟨path, hpath, h⟩ := bind_eq_ok.mp h
  obtain ⟨header, hheader, -⟩ := bind_eq_ok.mp h
  refine ⟨fun f hf => ?_, ?_⟩
  · obtain ⟨o, -, ho⟩ := exists_mem_of_mapM hpath hf
    exact ⟨o, ho⟩
  · by_contra hheaders
    obtain ⟨e, he⟩ := headerOutcomes_eq_error (r := r) hheaders
    rw [he] at hheader
    cases hheader

end Binder

/-! ### Carrying out the schedule -/

/-- How far the resolving of a request has come: the model, and the first fault so far. -/
structure Progress where
  model : Record Value
  first? : Option Fault

namespace Progress

/-- One step more. It is carried out whether or not there is a fault already. -/
def take (p : Progress) (o : Outcome) : Progress := ⟨o.apply p.model, p.first?.or o.fault?⟩

/-- Steps one after another. -/
def run (p : Progress) (os : List Outcome) : Progress := os.foldl take p

/-- What is reported in the end. -/
def result (p : Progress) : Except ResolveError (Record Value) :=
  match p.first? with
  | none => .ok p.model
  | some f => .error (.bind ⟨p.model, f⟩)

/-- The model has taken all steps. A fault stays the first one, and without one the steps decide. -/
theorem run_eq (p : Progress) (os : List Outcome) :
    p.run os = ⟨os.foldl Outcome.apply p.model, p.first?.or (os.findSome? Outcome.fault?)⟩ := by
  induction os generalizing p with
  | nil => simp [run]
  | cons o os ih =>
    have hstep : p.run (o :: os) = (p.take o).run os := rfl
    rw [hstep, ih, take, Option.or_assoc, List.foldl_cons, List.findSome?_cons]
    cases o.fault? <;> rfl

end Progress

namespace Binder

/-- The model after all steps of a request. -/
def filled (b : Binder) (r : Request) (body : Bytes) (new : Record Value) : Record Value :=
  ((b.schedule r body).map (b.outcome r body)).foldl Outcome.apply new

/-- The fault of the first step that fails. -/
def firstFault? (b : Binder) (r : Request) (body : Bytes) : Option Fault :=
  ((b.schedule r body).map (b.outcome r body)).findSome? Outcome.fault?

/-- A step fails with a fault. -/
def Fails (b : Binder) (r : Request) (body : Bytes) (s : Step) (f : Fault) : Prop :=
  (b.outcome r body s).fault? = some f

variable {b : Binder} {r : Request} {body : Bytes}

theorem firstFault?_eq_none :
    b.firstFault? r body = none ↔ ∀ s ∈ b.schedule r body, ∀ f, ¬ b.Fails r body s f := by
  rw [firstFault?, List.findSome?_map, List.findSome?_eq_none_iff]
  refine forall₂_congr fun s _ => ?_
  rw [Function.comp_apply, Option.eq_none_iff_forall_ne_some]
  rfl

theorem firstFault?_eq_some {f : Fault} :
    b.firstFault? r body = some f ↔
      ∃ before s after, b.schedule r body = before ++ s :: after ∧ b.Fails r body s f ∧
        ∀ s' ∈ before, ∀ f', ¬ b.Fails r body s' f' := by
  rw [firstFault?, List.findSome?_map, List.findSome?_eq_some_iff]
  refine exists_congr fun before => exists_congr fun s => exists_congr fun after => ?_
  refine and_congr_right fun _ => and_congr_right fun _ => forall₂_congr fun s' _ => ?_
  rw [Function.comp_apply, Option.eq_none_iff_forall_ne_some]
  rfl

/-- A compiled model has a source for the path variables that its fields ask for. -/
theorem lookups_of_compile {env : Env} {t : Ty} (hb : t.compile env = .ok (.binder b))
    (hvars : b.VariablesFound r) : ∀ f ∈ b.fillers.path, ∃ o, b.pathOutcome r f = .ok o := by
  obtain ⟨hdeclared, -, hcheck⟩ := Ty.compiled hb
  intro f hf
  have hneeds : b.fillers.needsPath := by
    unfold Fillers.needsPath
    cases hpath : b.fillers.path with
    | nil =>
      rw [hpath] at hf
      cases hf
    | cons f fs => rfl
  -- compiling has refused path fields without a source for them
  have hsome : b.pathVars.isSome := by
    have := (Fillers.check_eq_ok.mp hcheck).2 hneeds
    rw [hdeclared]
    exact this
  obtain ⟨p, hp⟩ := Option.isSome_iff_exists.mp hsome
  obtain ⟨v, hv⟩ := hvars p hp f.name
  have hvalue : b.pathValue r f.name = .ok v := by
    rw [pathValue, hp]
    exact hv
  exact ⟨f.fill v, by rw [pathOutcome, hvalue]⟩

theorem readable_of_compile {env : Env} {t : Ty} (hb : t.compile env = .ok (.binder b))
    (hvars : b.VariablesFound r) (hheaders : b.HeadersNamed) : b.Readable r :=
  ⟨lookups_of_compile hb hvars, hheaders⟩

/-- What becomes of a request when nothing but a step can fail, and after it the log. -/
theorem resolve_eq {new : Record Value} (hread : b.Readable r)
    (hnew : b.head.newInstance b.members = .ok new) :
    b.resolve r body = match b.firstFault? r body with
      | none => .ok (b.filled r body new)
      | some f => (r.addressPath.mapError .escaped) >>= fun _ =>
          .error (.bind ⟨b.filled r body new, f⟩) := by
  rw [resolve, hnew, outcomes_eq hread]
  simp only [Except.mapError, bind, Except.bind]
  rfl

/-- A request is resolved when there is a new model and no step fails. -/
theorem resolve_eq_ok {model : Record Value} :
    b.resolve r body = .ok model ↔
      ∃ new os, b.head.newInstance b.members = .ok new ∧ b.outcomes r body = .ok os ∧
        os.findSome? Outcome.fault? = none ∧ os.foldl Outcome.apply new = model := by
  unfold resolve
  cases b.head.newInstance b.members with
  | error f => simp [Except.mapError]
  | ok new =>
    cases b.outcomes r body with
    | error f => simp [Except.mapError]
    | ok os =>
      cases hfault : os.findSome? Outcome.fault? with
      | none => simp [Except.mapError, hfault, -List.findSome?_eq_none_iff]
      | some f =>
        cases r.addressPath <;> simp [Except.mapError, hfault, -List.findSome?_eq_none_iff]

/-- A request is refused for the first step that fails. -/
theorem cause_of_resolve {e : BindError} (h : b.resolve r body = .error (.bind e)) :
    ∃ os, b.outcomes r body = .ok os ∧ os.findSome? Outcome.fault? = some e.cause := by
  unfold resolve at h
  cases hnew : b.head.newInstance b.members with
  | error f =>
    rw [hnew] at h
    cases h
  | ok new =>
    rw [hnew] at h
    cases hos : b.outcomes r body with
    | error f =>
      rw [hos] at h
      cases h
    | ok os =>
      rw [hos] at h
      simp only [Except.mapError, bind, Except.bind] at h
      cases hfault : os.findSome? Outcome.fault? with
      | none =>
        rw [hfault] at h
        cases h
      | some f =>
        rw [hfault] at h
        cases haddress : r.addressPath with
        | error f' =>
          rw [haddress] at h
          cases h
        | ok path =>
          rw [haddress] at h
          cases h
          exact ⟨os, rfl, hfault⟩

theorem run_schedule (b : Binder) (r : Request) (body : Bytes) (new : Record Value) :
    (⟨new, none⟩ : Progress).run ((b.schedule r body).map (b.outcome r body)) =
      ⟨b.filled r body new, b.firstFault? r body⟩ := by
  rw [Progress.run_eq, Option.none_or]
  rfl

/-- A request is resolved by carrying out its schedule from the new model. -/
theorem resolve_eq_run {new : Record Value} {path : String} (hread : b.Readable r)
    (haddress : r.addressPath = .ok path) (hnew : b.head.newInstance b.members = .ok new) :
    b.resolve r body =
      ((⟨new, none⟩ : Progress).run ((b.schedule r body).map (b.outcome r body))).result := by
  rw [resolve_eq hread hnew, haddress, run_schedule]
  rfl

/-- **The earliest fault wins, and every step is carried out.** Let the source of path variables be
sound, the names of headers have a Latin-1 form, the address of the request be readable and the
model have a new instance. Then the model that the whole schedule fills is the result exactly when
no step fails. Otherwise the request is refused with that model and with the fault of the first step
that fails. The tables that the schedule goes through are those that the model declares. -/
theorem resolve_schedule {env : Env} {t : Ty} {new : Record Value} {path : String}
    (hb : t.compile env = .ok (.binder b)) (body : Bytes) (hvars : b.VariablesFound r)
    (hheaders : b.HeadersNamed) (haddress : r.addressPath = .ok path)
    (hnew : b.head.newInstance b.members = .ok new) :
    b.fillers = .declared env b.members ∧
      (∀ model, b.resolve r body = .ok model ↔
        (∀ s ∈ b.schedule r body, ∀ f, ¬ b.Fails r body s f) ∧ model = b.filled r body new) ∧
      ∀ e, b.resolve r body = .error e ↔
        ∃ before s after f, b.schedule r body = before ++ s :: after ∧ b.Fails r body s f ∧
          (∀ s' ∈ before, ∀ f', ¬ b.Fails r body s' f') ∧ e = .bind ⟨b.filled r body new, f⟩ := by
  have hread := readable_of_compile hb hvars hheaders
  rw [resolve_eq_run hread haddress hnew, run_schedule, Progress.result]
  refine ⟨Ty.fillers_of_compile hb, fun model => ?_, fun e => ?_⟩
  · rw [← firstFault?_eq_none]
    cases b.firstFault? r body with
    | none => simp [eq_comm]
    | some f => simp
  · constructor
    · cases hf : b.firstFault? r body with
      | none =>
        rintro ⟨⟩
      | some f =>
        rintro ⟨⟩
        obtain ⟨before, s, after, hsplit, hs, hbefore⟩ := firstFault?_eq_some.mp hf
        exact ⟨before, s, after, f, hsplit, hs, hbefore, rfl⟩
    · rintro ⟨before, s, after, f, hsplit, hs, hbefore, rfl⟩
      rw [firstFault?_eq_some.mpr ⟨before, s, after, hsplit, hs, hbefore⟩]

end Binder

/-- Two numbers from the query and one from a header. -/
def probeMembers : List (Member Ty) := [
  { name := "limit", type := .scalar { kind := .int }, tags := [(defaultTagKey, "query")] },
  { name := "page", type := .scalar { kind := .int }, tags := [(defaultTagKey, "query")] },
  { name := "depth", type := .scalar { kind := .int }, tags := [(defaultTagKey, "header")] }]

/-- A model of three numbers. -/
def probe : Ty := .model { cls := { name := "Probe" } } probeMembers

/-- A request that gives a header and the first of two parameters no number. -/
def probeRequest : Request where
  query := Text.utf8 "limit=many&page=2"
  headers := [("Depth", "deep")]

theorem probe_headersNamed {b : Binder} (hb : probe.compile ⟨{}, []⟩ = .ok (.binder b)) :
    b.HeadersNamed := by
  cases hb
  refine Binder.headersNamed_of_latin1 fun f hf => ?_
  obtain rfl := List.mem_singleton.mp hf
  show ∀ c ∈ "depth".toList, c.toNat < 0x100
  simp

theorem probe_refused : ∃ b, probe.compile ⟨{}, []⟩ = .ok (.binder b) ∧
    ∃ e, b.resolve probeRequest [] = .error (.bind e) ∧
      e.cause.origin.parameter = some "depth" ∧ e.model.get? "page" = some (.int 2) := by
  have hb : probe.compile ⟨{}, []⟩ = .ok (.binder (.declared ⟨{}, []⟩ _ _)) := rfl
  refine ⟨_, hb, ?_⟩
  obtain ⟨-, -, herror⟩ := Binder.resolve_schedule (r := probeRequest) hb [] (by rintro _ ⟨⟩)
    (probe_headersNamed hb) rfl rfl
  refine ⟨_, (herror _).mpr ⟨[], _, _, _, rfl, rfl, by simp, rfl⟩, ?_, ?_⟩
  · rfl
  · rfl

end ParamBinding
