import ParamBinding.Proofs.Channels
import ParamBinding.Proofs.ServiceRuns

/-!
# Reading the body

A service leaves the body of a request alone when no filler of the binder needs it, and resolves the
request as if it had none. Whether the body is needed is settled when a model is compiled
(`Fillers.needsBody`), and by the tags of its fields alone (`Binder.needsBody_iff`). The body is used
later and in two places, each under a condition of its own: as a whole, and as a form if the content
type says so.

The two agree: what is not read would not have made a difference (`Service.serve_eq_resolve`). So a
service and its providers answer as if they read every body (`Session.answers_with_body`).
-/

namespace ParamBinding

/-! ### When the body is needed -/

namespace Fillers

theorem needsForm_eq_false {fs : Fillers} :
    fs.needsForm = false ↔ fs.form = [] ∧ fs.formDeepObject = [] := by
  simp [needsForm]

theorem needsBody_eq_false {fs : Fillers} :
    fs.needsBody = false ↔ fs.body = none ∧ fs.form = [] ∧ fs.formDeepObject = [] := by
  simp [needsBody, needsForm_eq_false]

end Fillers

namespace Binder

variable {env : Env} {t : Ty} {b : Binder}

/-- The body as a whole is needed for a field whose tag asks for it. -/
theorem body_ne_none (hb : t.compile env = .ok (.binder b)) : b.fillers.body ≠ none ↔
    ∃ m ∈ b.members, ∃ tag, m.ownTag? env.options.tagKey = some tag ∧ tag.base = "model" := by
  have hhead : b.fillers.body = (bodies env b.members).head? := by
    rw [Ty.fillers_of_compile hb]
    rfl
  rw [hhead, Ne, List.head?_eq_none_iff, bodies, List.filterMap_eq_nil_iff]
  push Not
  refine exists_congr fun m => and_congr_right fun _ => ?_
  rw [Member.body?, Option.ne_none_iff_exists']
  constructor
  · rintro ⟨f, hf⟩
    obtain ⟨tag, htag, hf⟩ := Option.bind_eq_some_iff.mp hf
    split at hf
    · exact ⟨tag, htag, ‹_›⟩
    · cases hf
  · rintro ⟨tag, htag, hbase⟩
    exact ⟨⟨m.name, m.type⟩, by rw [htag, Option.bind_some, if_pos hbase]⟩

/-- A form is needed for a field whose tag says so. -/
theorem needsForm_iff (hb : t.compile env = .ok (.binder b)) : b.fillers.needsForm = true ↔
    ∃ m ∈ b.members, ∃ tag, m.ownTag? env.options.tagKey = some tag ∧ tag.base = "query" ∧
      (tag.form || tag.formOnly) = true := by
  have hsome : b.fillers.needsForm = true ↔
      ∃ f, f ∈ b.plainTable .form ++ b.keyedTable .form := by
    rw [Fillers.needsForm, Bool.or_eq_true, Bool.not_eq_true', Bool.not_eq_true',
      List.isEmpty_eq_false_iff_exists_mem, List.isEmpty_eq_false_iff_exists_mem, ← exists_or]
    exact exists_congr fun f => List.mem_append.symm
  rw [hsome]
  constructor
  · rintro ⟨f, hf⟩
    obtain ⟨x, hx, haccepts, -⟩ := exists_binding_accepts hb hf
    obtain ⟨m, hm, hbinding⟩ := List.mem_filterMap.mp hx
    simp only [Binding.accepts, Binding.inForm, Binding.place, Place.ofName_eq_query,
      Bool.and_eq_true, decide_eq_true_eq] at haccepts
    exact ⟨m, hm, x.tag, Member.ownTag?_of_binding? hbinding, haccepts⟩
  · rintro ⟨m, hm, tag, htag, hbase, hform⟩
    -- the field compiles, so it has a binding, with keys or without
    obtain ⟨text, htext, hread⟩ := Member.ownTag?_eq_some.mp htag
    obtain ⟨tag', hread', hu⟩ := (Ty.compiled hb).2.1.compiles m hm text htext
    obtain rfl : tag = tag' := Except.ok.inj (hread.symm.trans hread')
    obtain ⟨u, hu⟩ := hu (by simp [hbase]) (by simp [hbase])
    have hx : _ ∈ bindings env b.members := List.mem_filterMap.mpr
      ⟨m, hm, Member.binding?_eq_some htag (by simp [hbase]) (by simp [hbase]) hu⟩
    have haccepts : Binding.accepts
        ⟨tag, m.type, ⟨m.name, (m.site tag).name, u⟩⟩ .form = true := by
      simp only [Binding.accepts, Binding.inForm, Binding.place, Place.ofName_eq_query, hbase, hform,
        decide_true, Bool.true_and]
    cases hkeyed : Binding.isKeyed ⟨tag, m.type, ⟨m.name, (m.site tag).name, u⟩⟩ with
    | false =>
      exact ⟨_, List.mem_append_left _ ((mem_plainTable hb).mpr ⟨_, hx, haccepts, hkeyed, rfl⟩)⟩
    | true =>
      exact ⟨_, List.mem_append_right _ ((mem_keyedTable hb).mpr ⟨_, hx, haccepts, hkeyed, rfl⟩)⟩

/-- **When the body is needed.** The binder of a model needs the body exactly when the tag of some
field lets the body fill it, as a whole or as a form. -/
theorem needsBody_iff (hb : t.compile env = .ok (.binder b)) : b.fillers.needsBody = true ↔
    ∃ m ∈ b.members, ∃ tag, m.ownTag? env.options.tagKey = some tag ∧ tag.fromBody = true := by
  rw [Fillers.needsBody, Bool.or_eq_true, ← Option.ne_none_iff_isSome, body_ne_none hb,
    needsForm_iff hb, ← exists_or]
  refine exists_congr fun m => ?_
  rw [← and_or_left, ← exists_or]
  refine and_congr_right fun _ => exists_congr fun tag => ?_
  rw [← and_or_left]
  simp [Tag.fromBody]

/-! ### Requests whose body is not needed -/

section Unread

variable (h : b.fillers.needsBody = false) (r : Request) (body body' : Bytes)
include h

/-- Without fillers for a form the body is not taken for one, whatever its content type. -/
theorem sortForm_unread (buffered : Buffered) : b.sortForm r body buffered = ⟨[], buffered⟩ := by
  obtain ⟨-, hform, hkeyed⟩ := Fillers.needsBody_eq_false.mp h
  rw [sortForm, Fillers.needsForm_eq_false.mpr ⟨hform, hkeyed⟩, Bool.false_and]
  exact if_neg Bool.false_ne_true

theorem outcomes_unread : b.outcomes r body = b.outcomes r body' := by
  have hquery : b.queryOutcomes r body = b.queryOutcomes r body' := by
    simp only [queryOutcomes, sortForm_unread h]
  simp only [outcomes, hquery, (Fillers.needsBody_eq_false.mp h).1, Option.toList_none,
    List.map_nil]

/-- A binder that does not need the body resolves a request alike whatever its body is: to the same
model, or with the same error and the same part of a model. -/
theorem resolve_unread : b.resolve r body = b.resolve r body' := by
  simp only [resolve, outcomes_unread h r body body']

end Unread

end Binder

/-! ### Services -/

/-- How a provider tells of a request that has not been resolved. -/
def ProviderError.ofResolve : ResolveError → ProviderError
  | .bind e => .refused e.status e.message
  | .escaped f => .escaped f

namespace Service

/-- A request is served as with its body, although the body may have been left alone. -/
theorem serve_eq_resolve (b : Binder) (r : Request) (body : Bytes) :
    serve b r body = b.resolve r body := by
  unfold serve
  cases h : b.fillers.needsBody with
  | true => rfl
  | false => exact b.resolve_unread h r [] body

theorem decode_of_cached {s : Service} {t : Ty} {b : Binder}
    (h : s.cached? t = some (.binder b)) (r : Request) (body : Bytes) :
    s.decode t r body =
      ⟨s, serveLog b r (b.resolve r body), (b.resolve r body).mapError .request⟩ := by
  simp only [decode, h, Option.bind_some, Compiled.binder?, serve_eq_resolve]

theorem provide_result (s : Service) (b : Binder) (r : Request) (body : Bytes) :
    (s.provide b r body).result = (b.resolve r body).mapError .ofResolve := by
  have hserve := serve_eq_resolve b r body
  cases hresolve : b.resolve r body with
  | ok model =>
    simp only [provide, hserve, hresolve]
    rfl
  | error e =>
    cases e with
    | escaped f =>
      simp only [provide, hserve, hresolve]
      rfl
    | bind e =>
      -- the address has been read for the log of the binder, so it can be read once more
      obtain ⟨path, hpath⟩ := addressPath_of_bind (hserve.trans hresolve)
      simp only [provide, hserve, hresolve, hpath]
      rfl

/-- A provider that does not need the body cannot tell two of them apart. -/
theorem provide_unread {b : Binder} (h : b.fillers.needsBody = false) (s : Service) (r : Request)
    (body body' : Bytes) : s.provide b r body = s.provide b r body' := by
  simp only [provide, serve_eq_resolve, b.resolve_unread h r body body']

end Service

namespace Session

/-- **Not reading the body cannot be observed.** After any calls of a service, a request is answered
as the binder of its model resolves it with the real body: by the service, if the model has been
compiled, and by every provider. A binder that does not need the body resolves a request alike with
any two bodies, and its provider also tells and counts the same. -/
theorem answers_with_body (s : Service) (calls : List Call) :
    let now := (opened s).after calls
    (∀ t b, now.service.cached? t = some (.binder b) →
      (∃ u : Ty, u.key = t.key ∧ u.compile s.env = .ok (.binder b)) ∧
        ∀ r body, now.call (.decode t r body) =
          (now, ⟨.decode t r body, [], Service.serveLog b r (b.resolve r body),
            .decoded ((b.resolve r body).mapError .request)⟩)) ∧
    (∀ i b, now.providers[i]? = some b →
      (∃ u : Ty, u.compile s.env = .ok (.binder b)) ∧
        ∀ r body, (now.call (.provide i r body)).2.answer =
            .provided b ((b.resolve r body).mapError .ofResolve) ∧
          (b.fillers.needsBody = false → ∀ body',
            now.service.provide b r body = now.service.provide b r body')) ∧
    ∀ (t : Ty) (b : Binder), t.compile s.env = .ok (.binder b) → b.fillers.needsBody = false →
      ∀ r body body', b.resolve r body = b.resolve r body' := by
  have hbalanced := balanced_after s calls
  have hcompiled : ∀ t b, ((opened s).after calls).service.cached? t = some (.binder b) →
      ∃ u : Ty, u.key = t.key ∧ u.compile s.env = .ok (.binder b) := by
    intro t b hcached
    obtain ⟨x, hx, hresult, hkey⟩ := hbalanced.cached?_eq_some.mp hcached
    exact ⟨x.type, hkey, (hbalanced.results x hx).symm.trans hresult⟩
  refine ⟨fun t b hcached => ⟨hcompiled t b hcached, fun r body => ?_⟩,
    fun i b hi => ⟨?_, fun r body => ⟨?_, fun h body' => Service.provide_unread h _ r body body'⟩⟩,
    fun t b _ h r body body' => b.resolve_unread h r body body'⟩
  · simp only [call, Service.decode_of_cached hcached]
  · obtain ⟨t, hcached⟩ := hbalanced.providers b (List.mem_of_getElem? hi)
    obtain ⟨u, -, hu⟩ := hcompiled t b hcached
    exact ⟨u, hu⟩
  · rw [call_provide hi, Service.provide_result]

/-- A form, sent for a model that no form fills. -/
def probeForm : Request where
  query := Text.utf8 "limit=5&page=2"
  headers := [("Content-Type", formContentType)]

theorem probe_form_unread :
    let now := (opened ⟨⟨{}, []⟩, [], [], []⟩).after [.depends probe]
    let form := Text.utf8 "limit=6"
    ∃ b, now.service.cached? probe = some (.binder b) ∧ now.providers[0]? = some b ∧
      b.fillers.needsBody = false ∧
      (now.call (.decode probe probeForm form)).2.answer =
        .decoded ((b.resolve probeForm form).mapError .request) ∧
      (now.call (.provide 0 probeForm form)).2.answer =
        .provided b ((b.resolve probeForm form).mapError .ofResolve) ∧
      b.resolve probeForm form = b.resolve probeForm [] := by
  obtain ⟨hdecode, hprovide, hunread⟩ :=
    answers_with_body ⟨⟨{}, []⟩, [], [], []⟩ [.depends probe]
  have hb : probe.compile ⟨{}, []⟩ =
      .ok (.binder (.declared ⟨{}, []⟩ { cls := { name := "Probe" } } probeMembers)) := rfl
  refine ⟨_, rfl, rfl, rfl, ?_, ((hprovide 0 _ rfl).2 _ _).1, hunread probe _ hb rfl _ _ _⟩
  rw [(hdecode probe _ rfl).2]

end Session

end ParamBinding
