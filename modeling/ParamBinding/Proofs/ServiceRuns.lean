import ParamBinding.Proofs.Compilations
import ParamBinding.Proofs.Schedule

/-!
# Runs of a service

A service is called in any order and any number of times: models are compiled while an application
is set up, and requests are served by the service itself or by the providers that it has handed out.
A `Session` is a service together with these providers, and an `Event` is what one call has done.

All that a call may change is stated once (`Session.step`). What holds of a run follows by adding
one call after the other (`Session.run_accounted`).
-/

namespace ParamBinding

/-! ### Calls -/

/-- A call of a service, or of the provider with a number among those it has handed out. -/
inductive Call where
  | binderFor (t : Ty)
  | prepare (ts : List Ty)
  | depends (t : Ty)
  | decode (t : Ty) (r : Request) (body : Bytes)
  | provide (i : Nat) (r : Request) (body : Bytes)

/-- What a call ends in. -/
inductive Answer where
  | binder (x : Except CompileError (Option Binder))
  | prepared (x : Except CompileError Unit)
  /-- A provider is handed out, which serves requests with a binder. -/
  | provider (x : Except CompileError Binder)
  | decoded (x : Except ServeError (Record Value))
  /-- The provider of a binder has been called. -/
  | provided (b : Binder) (x : Except ProviderError (Record Value))
  /-- There is no provider of this number. -/
  | noProvider

namespace Answer

/-- The error that a call raises while an application is set up. -/
def raised? : Answer → Option CompileError
  | binder (.error e) | prepared (.error e) | provider (.error e) => some e
  | _ => none

/-- The model for which a provider has refused a request. -/
def refusal? : Answer → Option String
  | provided b (.error (.refused _ _)) => some b.modelName
  | _ => none

end Answer

/-- What a call has done: what it has compiled and told, and what it ends in. -/
structure Event where
  call : Call
  compilations : List Compilation
  log : List LogRecord
  answer : Answer

/-- A service and the binders of the providers that it has handed out. -/
structure Session where
  service : Service
  providers : List Binder := []

namespace Session

/-- A service that has compiled nothing yet, wherever its counters stand. -/
def opened (s : Service) : Session := ⟨{ s with cache := [] }, []⟩

/-- A call. -/
def call (s : Session) (c : Call) : Session × Event :=
  match c with
  | .binderFor t =>
    let reply := s.service.binderFor t
    ({ s with service := reply.service },
      ⟨c, s.service.compilations [t], reply.log, .binder reply.result⟩)
  | .prepare ts =>
    let reply := s.service.prepare ts
    ({ s with service := reply.service },
      ⟨c, s.service.compilations ts, reply.log, .prepared reply.result⟩)
  | .depends t =>
    let reply := s.service.require t
    (⟨reply.service, s.providers ++ reply.result.toOption.toList⟩,
      ⟨c, s.service.compilations [t], reply.log, .provider reply.result⟩)
  | .decode t r body =>
    let reply := s.service.decode t r body
    ({ s with service := reply.service }, ⟨c, [], reply.log, .decoded reply.result⟩)
  | .provide i r body => match s.providers[i]? with
    | none => (s, ⟨c, [], [], .noProvider⟩)
    | some b =>
      let reply := s.service.provide b r body
      ({ s with service := reply.service }, ⟨c, [], reply.log, .provided b reply.result⟩)

/-- A session after a run of calls. -/
def after (s : Session) (calls : List Call) : Session :=
  calls.foldl (fun s c => (s.call c).1) s

/-- What the calls of a run have done. -/
def events (s : Session) : List Call → List Event
  | [] => []
  | c :: calls => (s.call c).2 :: (s.call c).1.events calls

end Session

/-! ### One call -/

/-- A compilation is told about as such. -/
theorem Compilation.filter_log (x : Compilation) :
    x.log.filter (·.channel = .compile) = x.log := by
  obtain ⟨t, _ | _ | m | b⟩ := x <;> rfl

namespace Service

/-- Serving a request tells nothing about compilations. -/
theorem filter_serveLog (b : Binder) (r : Request) (x : Except ResolveError (Record Value)) :
    (serveLog b r x).filter (·.channel = .compile) = [] := by
  unfold serveLog Binder.resolveLog
  split
  · rfl
  · split <;> rfl

/-- The address of a request that cannot be bound has been read. -/
theorem addressPath_of_bind {b : Binder} {r : Request} {body : Bytes} {err : BindError}
    (h : serve b r body = .error (.bind err)) : ∃ path, r.addressPath = .ok path := by
  unfold serve Binder.resolve at h
  obtain h | ⟨new, -, h⟩ := bind_eq_error.mp h
  · cases hnew : b.head.newInstance b.members <;> rw [hnew] at h <;> cases h
  obtain h | ⟨outcomes, -, h⟩ := bind_eq_error.mp h
  · generalize b.outcomes r _ = x at h
    cases x <;> cases h
  dsimp only at h
  split at h
  · cases h
  · cases haddress : r.addressPath with
    | ok path => exact ⟨path, rfl⟩
    | error f =>
      rw [haddress] at h
      cases h

/-- A provider refuses the requests that cannot be bound, as bad ones and with the text of the
error, and counts them. It refuses no others. -/
theorem provide_cases (s : Service) (b : Binder) (r : Request) (body : Bytes) :
    (∃ err path, serve b r body = .error (.bind err) ∧
      s.provide b r body = ⟨{ s with refused := s.refused.increment b.modelName },
        serveLog b r (serve b r body) ++ [.refused b.modelName path err.message],
        .error (.refused badRequest err.message)⟩) ∨
      ∃ x, (∀ err, serve b r body ≠ .error (.bind err)) ∧
        (∀ status detail, x ≠ .error (.refused status detail)) ∧
        s.provide b r body = ⟨s, serveLog b r (serve b r body), x⟩ := by
  rcases hserve : serve b r body with (err | f) | m
  · obtain ⟨path, hpath⟩ := addressPath_of_bind hserve
    have hstatus : err.status = badRequest := by
      unfold BindError.status Fault.status?
      split <;> rfl
    refine .inl ⟨err, path, rfl, ?_⟩
    simp only [provide, hserve, hpath, hstatus]
  · exact .inr ⟨.error (.escaped f), by simp, by simp, by simp only [provide, hserve]⟩
  · exact .inr ⟨.ok m, by simp, by simp, by simp only [provide, hserve]⟩

/-- Decoding leaves a service as it is. -/
theorem decode_service (s : Service) (t : Ty) (r : Request) (body : Bytes) :
    (s.decode t r body).service = s := by
  unfold decode
  split <;> rfl

theorem filter_decode_log (s : Service) (t : Ty) (r : Request) (body : Bytes) :
    (s.decode t r body).log.filter (·.channel = .compile) = [] := by
  unfold decode
  split
  · rfl
  · exact filter_serveLog _ _ _

/-- Decoding asks for a type to be prepared exactly when no binder is kept for it. -/
theorem decode_eq_notPrepared (s : Service) (t : Ty) (r : Request) (body : Bytes) :
    (s.decode t r body).result = .error (.setup (.misconfigured (.notPrepared t.name))) ↔
      ∀ b, s.cached? t ≠ some (.binder b) := by
  unfold decode
  rcases hcached : s.cached? t with _ | _ | m | b
  · simp
  · simp [Compiled.binder?]
  · simp [Compiled.binder?]
  · simp only [Option.bind_some, Compiled.binder?]
    refine iff_of_false ?_ (fun h => h b rfl)
    cases serve b r body <;> rintro ⟨⟩

theorem CarriesOut.refused_eq {α : Type} {s : Service} {xs : List Compilation}
    {reply : Reply CompileError α} (h : s.CarriesOut xs reply) :
    reply.service = { xs.foldl keep s with refused := s.refused } := by
  rw [h.service, ← (foldl_keep xs s).2.2.2]

theorem CarriesOut.filter_log {α : Type} {s : Service} {xs : List Compilation}
    {reply : Reply CompileError α} (h : s.CarriesOut xs reply) :
    reply.log.filter (·.channel = .compile) = xs.flatMap Compilation.log := by
  rw [h.log, List.filter_flatMap]
  exact congrArg (xs.flatMap ·) (funext Compilation.filter_log)

end Service

namespace Session

/-- What a call does to a session: it carries out compilations, tells of them, keeps what they come
to, raises the error of one that fails, and counts a refusal if it ends in one. -/
structure Step (s : Session) (c : Call) : Prop where
  compiles : s.service.Compiles (s.call c).2.compilations
  service : (s.call c).1.service =
    { (s.call c).2.compilations.foldl Service.keep s.service with
      refused := match (s.call c).2.answer.refusal? with
        | some label => s.service.refused.increment label
        | none => s.service.refused }
  log : (s.call c).2.log.filter (·.channel = .compile) =
    (s.call c).2.compilations.flatMap Compilation.log
  failed : ∀ x ∈ (s.call c).2.compilations, ∀ e, x.result = .error e →
    (s.call c).2.answer.raised? = some e

variable {s : Session} {c : Call}

theorem call_provide {i : Nat} {b : Binder} (h : s.providers[i]? = some b) (r : Request)
    (body : Bytes) : s.call (.provide i r body) =
      ({ s with service := (s.service.provide b r body).service },
        ⟨.provide i r body, [], (s.service.provide b r body).log,
          .provided b (s.service.provide b r body).result⟩) := by
  simp only [call, h]

/-- **Every call is a step.** -/
theorem step (s : Session) (c : Call) : s.Step c := by
  cases c with
  | binderFor t =>
    have h := s.service.binderFor_carriesOut t
    refine ⟨s.service.compiles_compilations [t], h.refused_eq, h.filter_log,
      fun x hx e hx' => ?_⟩
    simp only [call, h.failed x hx e hx', Answer.raised?]
  | prepare ts =>
    have h := s.service.prepare_carriesOut ts
    refine ⟨s.service.compiles_compilations ts, h.refused_eq, h.filter_log,
      fun x hx e hx' => ?_⟩
    simp only [call, h.failed x hx e hx', Answer.raised?]
  | depends t =>
    have h := s.service.require_carriesOut t
    refine ⟨s.service.compiles_compilations [t], h.refused_eq, h.filter_log,
      fun x hx e hx' => ?_⟩
    simp only [call, h.failed x hx e hx', Answer.raised?]
  | decode t r body =>
    exact ⟨.none _, s.service.decode_service t r body, s.service.filter_decode_log t r body,
      by simp [call]⟩
  | provide i r body =>
    cases hi : s.providers[i]? with
    | none =>
      have hcall : s.call (.provide i r body) = (s, ⟨.provide i r body, [], [], .noProvider⟩) := by
        simp only [call, hi]
      refine ⟨?_, ?_, ?_, ?_⟩ <;> rw [hcall]
      · exact .none _
      · rfl
      · rfl
      · simp
    | some b =>
      have hlog := Service.filter_serveLog b r (Service.serve b r body)
      obtain ⟨err, path, -, heq⟩ | ⟨x, -, hx, heq⟩ := s.service.provide_cases b r body
      · refine ⟨?_, ?_, ?_, ?_⟩ <;> rw [call_provide hi, heq]
        · exact .none _
        · rfl
        · rw [List.filter_append, hlog]
          rfl
        · simp
      · have hrefusal : (Answer.provided b x).refusal? = none := by
          obtain (⟨status, detail⟩ | f) | m := x
          · exact absurd rfl (hx status detail)
          · rfl
          · rfl
        refine ⟨?_, ?_, ?_, ?_⟩ <;> rw [call_provide hi, heq]
        · exact .none _
        · rw [hrefusal]
          rfl
        · exact hlog
        · simp

/-- The providers after a call serve with binders that the service keeps. -/
theorem providers_call (h : ∀ b ∈ s.providers, ∃ t, s.service.cached? t = some (.binder b)) :
    ∀ b ∈ (s.call c).1.providers, ∃ t, (s.call c).1.service.cached? t = some (.binder b) := by
  have hkept : ∀ t k, s.service.cached? t = some k → (s.call c).1.service.cached? t = some k := by
    intro t k hk
    rw [(s.step c).service]
    exact Service.cached?_foldl_keep _ hk
  have hold : ∀ b ∈ s.providers, ∃ t, (s.call c).1.service.cached? t = some (.binder b) := by
    intro b hb
    obtain ⟨t, ht⟩ := h b hb
    exact ⟨t, hkept t _ ht⟩
  cases c with
  | binderFor t => exact hold
  | prepare ts => exact hold
  | depends t =>
    intro b hb
    obtain hb | hb := List.mem_append.mp hb
    · exact hold b hb
    · rw [Option.mem_toList, toOption_eq_some] at hb
      exact ⟨t, Service.cached?_of_require hb⟩
  | decode t r body => exact hold
  | provide i r body =>
    intro b hb
    refine hold b ?_
    simp only [call] at hb
    split at hb <;> exact hb

/-- A call that a provider refuses is answered as a bad request, with the text of the error. -/
theorem refusal_call {b : Binder} {status : Nat} {detail : String}
    (h : (s.call c).2.answer = .provided b (.error (.refused status detail))) :
    status = badRequest ∧ ∃ i r body err, (s.call c).2.call = .provide i r body ∧
      Service.serve b r body = .error (.bind err) ∧ detail = err.message := by
  cases c with
  | binderFor t => cases h
  | prepare ts => cases h
  | depends t => cases h
  | decode t r body => cases h
  | provide i r body =>
    cases hi : s.providers[i]? with
    | none =>
      simp only [call, hi] at h
      cases h
    | some b' =>
      rw [call_provide hi] at h ⊢
      simp only [Answer.provided.injEq] at h
      obtain ⟨rfl, h⟩ := h
      obtain ⟨err, path, hserve, heq⟩ | ⟨x, -, hx, heq⟩ := s.service.provide_cases b' r body
      · rw [heq] at h
        cases h
        exact ⟨rfl, i, r, body, err, rfl, hserve, rfl⟩
      · rw [heq] at h
        exact absurd h (hx status detail)

/-! ### Runs -/

theorem after_append (s : Session) (calls more : List Call) :
    s.after (calls ++ more) = (s.after calls).after more :=
  List.foldl_append ..

theorem events_append (s : Session) (calls : List Call) (c : Call) :
    s.events (calls ++ [c]) = s.events calls ++ [((s.after calls).call c).2] := by
  induction calls generalizing s with
  | nil => rfl
  | cons d calls ih => exact congrArg (_ :: ·) (ih _)

/-- What holds of a session `s` after the events `es` since it was the session `start`. -/
structure Balanced (start s : Session) (es : List Event) : Prop where
  env : s.service.env = start.service.env
  /-- The cache has what was compiled to the end, and nothing else. -/
  cache : s.service.cache = (es.flatMap Event.compilations).filterMap Compilation.kept?
  results : ∀ x ∈ es.flatMap Event.compilations, x.result = x.type.compile start.service.env
  /-- No type is compiled again after it was compiled to the end. -/
  once : (es.flatMap Event.compilations).Pairwise fun x y =>
    ∀ k, x.result = .ok k → y.type.key ≠ x.type.key
  told : (es.flatMap Event.log).filter (·.channel = .compile) =
    (es.flatMap Event.compilations).flatMap Compilation.log
  compiled : ∀ l, s.service.compiled.get l =
    start.service.compiled.get l + s.service.cache.countP (·.2.bears l)
  refused : ∀ l, s.service.refused.get l =
    start.service.refused.get l + es.countP (·.answer.refusal? = some l)
  refusals : ∀ e ∈ es, ∀ b status detail,
    e.answer = .provided b (.error (.refused status detail)) →
      status = badRequest ∧ ∃ i r body err, e.call = .provide i r body ∧
        Service.serve b r body = .error (.bind err) ∧ detail = err.message
  providers : ∀ b ∈ s.providers, ∃ t, s.service.cached? t = some (.binder b)

theorem balanced_opened (s : Service) : Balanced (opened s) (opened s) [] where
  env := rfl
  cache := rfl
  results := by simp
  once := .nil
  told := rfl
  compiled l := rfl
  refused l := rfl
  refusals := by simp
  providers := by simp [opened]

namespace Balanced

variable {start : Session} {es : List Event}

/-- The keys of the cache are distinct. -/
theorem distinct (h : Balanced start s es) : (s.service.cache.map (·.1)).Nodup := by
  rw [h.cache, List.Nodup, List.pairwise_map, List.pairwise_filterMap]
  refine h.once.imp fun {x y} hxy e he e' he' => ?_
  obtain ⟨hx, hkey⟩ := Compilation.kept?_eq_some.mp he
  obtain ⟨-, hkey'⟩ := Compilation.kept?_eq_some.mp he'
  rw [← hkey, ← hkey']
  exact (hxy e.2 hx).symm

/-- What is kept for a type is what was compiled to the end. -/
theorem cached?_eq_some (h : Balanced start s es) {t : Ty} {k : Compiled} :
    s.service.cached? t = some k ↔
      ∃ x ∈ es.flatMap Event.compilations, x.result = .ok k ∧ x.type.key = t.key := by
  rw [Service.cached?, lookup_eq_some_of_nodup h.distinct, h.cache, List.mem_filterMap]
  simp only [Compilation.kept?_eq_some]

/-- A call keeps the balance. -/
theorem call (h : Balanced start s es) (c : Call) :
    Balanced start (s.call c).1 (es ++ [(s.call c).2]) := by
  have hstep := s.step c
  obtain ⟨henv, hcache, hcompiled, hrefused⟩ :=
    Service.foldl_keep (s.call c).2.compilations s.service
  have hcompilations : (es ++ [(s.call c).2]).flatMap Event.compilations =
      es.flatMap Event.compilations ++ (s.call c).2.compilations := by simp
  refine ⟨?_, ?_, fun x hx => ?_, ?_, ?_, fun l => ?_, fun l => ?_, fun e he => ?_,
    providers_call h.providers⟩
  · rw [hstep.service]
    exact henv.trans h.env
  · rw [hstep.service, hcompilations, List.filterMap_append, ← h.cache]
    exact hcache
  · rw [hcompilations] at hx
    obtain hx | hx := List.mem_append.mp hx
    · exact h.results x hx
    · rw [← h.env]
      exact hstep.compiles.result_eq x hx
  · rw [hcompilations, List.pairwise_append]
    refine ⟨h.once, hstep.compiles.once, fun x hx y hy k hk hkey => ?_⟩
    -- what was compiled to the end is kept, and what is kept is not compiled
    have hkept := h.cached?_eq_some.mpr ⟨x, hx, hk, hkey.symm⟩
    rw [hstep.compiles.cached?_eq_none y hy] at hkept
    cases hkept
  · rw [hcompilations, List.flatMap_append, List.filter_append, List.flatMap_append, h.told,
      ← hstep.log]
    simp
  · rw [hstep.service]
    refine (hcompiled l).trans ?_
    rw [h.compiled, Nat.add_assoc, ← List.countP_append, ← hcache]
  · rw [hstep.service, List.countP_append, ← Nat.add_assoc, ← h.refused]
    cases hrefusal : (s.call c).2.answer.refusal? with
    | none => simp [hrefusal]
    | some label =>
      simp only [Counters.get_increment, List.countP_singleton, hrefusal, Option.some.injEq,
        decide_eq_true_eq]
  · obtain he | he := List.mem_append.mp he
    · exact h.refusals e he
    · obtain rfl := List.mem_singleton.mp he
      exact fun b status detail hanswer => refusal_call hanswer

end Balanced

theorem balanced_after (s : Service) (calls : List Call) :
    Balanced (opened s) ((opened s).after calls) ((opened s).events calls) := by
  induction calls using List.reverseRecOn with
  | nil => exact balanced_opened s
  | append_singleton calls c ih =>
    rw [after_append, events_append]
    exact ih.call c

/-- What is kept for a type stays the same whatever is called. -/
theorem cached?_after {t : Ty} {k : Compiled} (more : List Call) :
    ∀ {s : Session}, s.service.cached? t = some k → (s.after more).service.cached? t = some k := by
  induction more with
  | nil => exact fun h => h
  | cons c more ih =>
    intro s h
    refine ih ?_
    rw [(s.step c).service]
    exact Service.cached?_foldl_keep _ h

/-- How a call is treated. -/
structure Treats (s : Session) (c : Call) : Prop where
  /-- A compilation that fails ends the call with its error. Its type stays uncompiled, and the
  service is left as the compilations before it leave it. Only where several types are prepared are
  there any. -/
  failed : ∀ x ∈ (s.call c).2.compilations, ∀ e, x.result = .error e →
    (s.call c).2.answer.raised? = some e ∧ (s.call c).1.service.cached? x.type = none ∧
      ∃ done, (s.call c).2.compilations = done ++ [x] ∧ (∀ y ∈ done, ∃ k, y.result = .ok k) ∧
        (s.call c).1.service = done.foldl Service.keep s.service ∧
        ((∀ ts, c ≠ .prepare ts) → done = [])
  /-- Decoding changes nothing, and asks for a type to be prepared exactly when no binder is kept
  for it. -/
  decodes : ∀ t r body, c = .decode t r body → (s.call c).1 = s ∧
    ((s.call c).2.answer = .decoded (.error (.setup (.misconfigured (.notPrepared t.name)))) ↔
      ∀ b, s.service.cached? t ≠ some (.binder b))
  /-- A provider refuses every request that cannot be bound. -/
  refuses : ∀ i r body b err, c = .provide i r body → s.providers[i]? = some b →
    Service.serve b r body = .error (.bind err) →
      (s.call c).2.answer = .provided b (.error (.refused badRequest err.message))

theorem length_compilations_le (h : ∀ ts, c ≠ .prepare ts) :
    (s.call c).2.compilations.length ≤ 1 := by
  cases c with
  | binderFor t => exact s.service.length_compilations_singleton t
  | prepare ts => exact absurd rfl (h ts)
  | depends t => exact s.service.length_compilations_singleton t
  | decode t r body => exact Nat.zero_le 1
  | provide i r body =>
    simp only [call]
    split <;> exact Nat.zero_le 1

theorem refusal?_of_raised? {a : Answer} {e : CompileError} (h : a.raised? = some e) :
    a.refusal? = none := by
  cases a with
  | provided b x => cases h
  | _ => rfl

theorem treats (s : Session) (c : Call) : s.Treats c where
  failed x hx e hresult := by
    have hstep := s.step c
    have hraised := hstep.failed x hx e hresult
    have hservice : (s.call c).1.service =
        (s.call c).2.compilations.foldl Service.keep s.service := by
      rw [hstep.service, refusal?_of_raised? hraised,
        ← (Service.foldl_keep (s.call c).2.compilations s.service).2.2.2]
    obtain ⟨done, hdone, hall, hcached, hkept⟩ := hstep.compiles.failed_last hx hresult
    rw [hservice]
    refine ⟨hraised, hcached, done, hdone, hall, hkept, fun hc => ?_⟩
    have hlength := length_compilations_le (s := s) hc
    rw [hdone, List.length_append, List.length_singleton] at hlength
    exact List.length_eq_zero_iff.mp (by omega)
  decodes t r body hc := by
    subst hc
    refine ⟨congrArg (Session.mk · s.providers) (s.service.decode_service t r body), ?_⟩
    rw [← s.service.decode_eq_notPrepared t r body]
    exact ⟨fun h => Answer.decoded.inj h, fun h => congrArg Answer.decoded h⟩
  refuses i r body b err hc hi hserve := by
    subst hc
    rw [call_provide hi]
    obtain ⟨err', path, hserve', heq⟩ | ⟨x, hserve', -, -⟩ := s.service.provide_cases b r body
    · rw [hserve] at hserve'
      cases hserve'
      rw [heq]
    · exact absurd hserve (hserve' err)

/-- What can be said of a service after a run of calls. -/
structure Accounted (start : Session) (calls : List Call) : Prop where
  balanced : Balanced start (start.after calls) (start.events calls)
  /-- The cache has something for a type exactly when the type was compiled to the end. -/
  cached : ∀ t k, (start.after calls).service.cached? t = some k ↔
    ∃ x ∈ (start.events calls).flatMap Event.compilations, x.result = .ok k ∧ x.type.key = t.key
  distinct : ((start.after calls).service.cache.map (·.1)).Nodup
  /-- Nothing in the cache is ever replaced. -/
  kept : ∀ more t k, (start.after calls).service.cached? t = some k →
    (start.after (calls ++ more)).service.cached? t = some k
  next : ∀ c, (start.after calls).Treats c

/-- **What any run of calls comes to.** Each type is compiled to the end at most once, and the cache
has what these compilations have come to. A counter of compilations has grown by the number of types
in the cache with a binder of its model, a counter of refusals by the number of requests that a
provider of its model has refused. -/
theorem run_accounted (s : Service) (calls : List Call) : (opened s).Accounted calls where
  balanced := balanced_after s calls
  cached _ _ := (balanced_after s calls).cached?_eq_some
  distinct := (balanced_after s calls).distinct
  kept more t k h := by
    rw [after_append]
    exact cached?_after more h
  next c := treats _ c

/-- Preparing types stops at the first that cannot be compiled. Later calls find what was compiled
before it. -/
example : let calls := [.prepare [probe, .keyedOnly probe, .optional .named probe],
      .depends (.optional .named probe), .depends probe, .provide 1 probeRequest []]
    let s := (opened ⟨⟨{}, []⟩, [], [], []⟩).after calls
    s.service.cache.length = 2 ∧ s.service.compiled = [("Probe", 2)] ∧
      s.service.refused = [("Probe", 1)] :=
  ⟨rfl, rfl, rfl⟩

end Session

end ParamBinding
