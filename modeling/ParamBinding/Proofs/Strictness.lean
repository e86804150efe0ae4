import ParamBinding.Proofs.Schedule
import ParamBinding.Proofs.StrictDecoding

/-!
# Strict requests

Compiled for a strict and for a lenient application, a model gets the same fillers up to what its
decoders refuse (`Ty.compile_refines`), and the steps of a request have the same outcomes up to
faults about what nothing receives (`Binder.Refines.outcomes`). So a request that the strict binder
takes is taken by the lenient one with the same result, and one that the lenient binder alone takes
fails for a parameter or a key that nothing receives (`Binder.strict_refines`).
-/

namespace ParamBinding

open ParamBinding.Text

/-! ### Fillers -/

/-- A filler for the same field and name, whose decoder refines that of another one. -/
structure Filler.Refines (s l : Filler) : Prop where
  field : s.field = l.field
  name : s.name = l.name
  unpacker : s.unpacker.Refines l.unpacker

structure PathFiller.Refines (s l : PathFiller) : Prop where
  filler : s.toFiller.Refines l.toFiller
  accept : s.accept = l.accept

/-- Fillers for the same fields, table by table. -/
structure Fillers.Refines (s l : Fillers) : Prop where
  body : s.body = l.body
  path : List.Forall₂ PathFiller.Refines s.path l.path
  header : List.Forall₂ Filler.Refines s.header l.header
  cookie : List.Forall₂ Filler.Refines s.cookie l.cookie
  query : List.Forall₂ Filler.Refines s.query l.query
  deepObject : List.Forall₂ Filler.Refines s.deepObject l.deepObject
  form : List.Forall₂ Filler.Refines s.form l.form
  formDeepObject : List.Forall₂ Filler.Refines s.formDeepObject l.formDeepObject

namespace Fillers.Refines

variable {s l : Fillers} {f g : Filler}

theorem empty : Refines {} {} := ⟨rfl, .nil, .nil, .nil, .nil, .nil, .nil, .nil⟩

theorem count (h : s.Refines l) : s.count = l.count := by
  unfold Fillers.count
  rw [h.body, h.path.length_eq, h.header.length_eq, h.cookie.length_eq, h.query.length_eq,
    h.deepObject.length_eq, h.form.length_eq, h.formDeepObject.length_eq]

theorem isEmpty_eq {α β : Type} {R : α → β → Prop} {xs : List α} {ys : List β}
    (h : List.Forall₂ R xs ys) : xs.isEmpty = ys.isEmpty := by
  cases h <;> rfl

theorem needsForm (h : s.Refines l) : s.needsForm = l.needsForm := by
  rw [Fillers.needsForm, Fillers.needsForm, isEmpty_eq h.form, isEmpty_eq h.formDeepObject]

theorem needsPath (h : s.Refines l) : s.needsPath = l.needsPath := by
  rw [Fillers.needsPath, Fillers.needsPath, isEmpty_eq h.path]

theorem namesOf (h : s.Refines l) (p : Place) : s.namesOf p = l.namesOf p := by
  have hnames : ∀ {fs gs : List Filler}, List.Forall₂ Filler.Refines fs gs →
      fs.map (·.name) = gs.map (·.name) :=
    fun hfs => map_eq_map_of_forall₂ hfs fun _ _ hf => hf.name
  cases p with
  | path => exact map_eq_map_of_forall₂ h.path fun _ _ hf => hf.filler.name
  | query =>
    simp only [Fillers.namesOf, List.map_append, hnames h.query, hnames h.deepObject,
      hnames h.form, hnames h.formDeepObject]
  | header => exact hnames h.header
  | cookie => exact hnames h.cookie
  | other _ => rfl

theorem addQuery (h : s.Refines l) (tag : Tag) (hf : f.Refines g) :
    (s.addQuery tag f).Refines (l.addQuery tag g) := by
  have hadd : ∀ (yes : Bool) {fs gs : List Filler}, List.Forall₂ Filler.Refines fs gs →
      List.Forall₂ Filler.Refines (if yes then fs ++ [f] else fs)
        (if yes then gs ++ [g] else gs) := by
    intro yes fs gs hfs
    cases yes with
    | true => exact List.rel_append hfs (.cons hf .nil)
    | false => exact hfs
  have hkeyed := hf.unpacker.deepObject?
  unfold Fillers.addQuery
  generalize f.unpacker.deepObject? = d at hkeyed ⊢
  generalize g.unpacker.deepObject? = e at hkeyed ⊢
  cases hkeyed with
  | some _ => exact { h with
      deepObject := hadd _ h.deepObject, formDeepObject := hadd _ h.formDeepObject }
  | none => exact { h with query := hadd _ h.query, form := hadd _ h.form }

theorem addParameter (h : s.Refines l) (env : Env) (t : Ty) (site : Site) (tag : Tag)
    {u v : Unpacker} (hu : u.Refines v) :
    (s.addParameter (env.withStrict true) t site tag u).Refines
      (l.addParameter (env.withStrict false) t site tag v) := by
  have hf : Filler.Refines ⟨site.field, site.name, u⟩ ⟨site.field, site.name, v⟩ :=
    ⟨rfl, rfl, hu⟩
  unfold Fillers.addParameter
  cases site.place with
  | path => exact { h with path := List.rel_append h.path (.cons ⟨hf, rfl⟩ .nil) }
  | header => exact { h with header := List.rel_append h.header (.cons hf .nil) }
  | cookie => exact { h with cookie := List.rel_append h.cookie (.cons hf .nil) }
  | query => exact h.addQuery tag hf
  | other _ => exact h

theorem addBody (h : s.Refines l) (model : String) (m : Member Ty) :
    Alike Eq Refines (s.addBody model m) (l.addBody model m) := by
  unfold Fillers.addBody
  rw [h.body]
  cases l.body with
  | some f => exact .error rfl
  | none => exact .ok { h with body := rfl }

theorem addTagged (h : s.Refines l) (env : Env) (model : String) (m : Member Ty) (tag : Tag) :
    Alike Eq Refines (s.addTagged (env.withStrict true) model m tag)
      (l.addTagged (env.withStrict false) model m tag) := by
  unfold Fillers.addTagged
  split
  · exact .ok h
  split
  · exact h.addBody model m
  dsimp only
  generalize (if tag.name = "" then m.name else tag.name) = name
  rw [h.namesOf]
  split
  · exact .error rfl
  · refine (m.type.unpacker_refines env _ tag).bind fun u v hu => ?_
    exact .ok (h.addParameter env _ _ tag hu)

theorem addMember (h : s.Refines l) (env : Env) (model : String) (m : Member Ty) :
    Alike Eq Refines (s.addMember (env.withStrict true) model m)
      (l.addMember (env.withStrict false) model m) := by
  have hkey : ∀ strict, (env.withStrict strict).options.tagKey = env.options.tagKey := fun _ => rfl
  unfold Fillers.addMember
  rw [hkey, hkey]
  cases m.tag? env.options.tagKey with
  | none => exact .ok h
  | some text => exact Alike.bind_same _ (fun _ => rfl) fun tag => h.addTagged env model m tag

theorem check (h : s.Refines l) (env : Env) (model : String) :
    s.check (env.withStrict true).options model = l.check (env.withStrict false).options model := by
  unfold Fillers.check
  rw [h.body, h.needsPath]
  rfl

end Fillers.Refines

theorem Fillers.ofMembers_refines (env : Env) (model : String) (ms : List (Member Ty)) :
    Alike Eq Fillers.Refines (Fillers.ofMembers (env.withStrict true) model ms)
      (Fillers.ofMembers (env.withStrict false) model ms) :=
  Alike.foldlM (fun _ _ m h => h.addMember env model m) ms .empty

/-! ### Compiled models -/

/-- A strict and a lenient binder of the same model, with the same sources and decoders. -/
structure Binder.Refines (s l : Binder) : Prop where
  head : s.head = l.head
  members : s.members = l.members
  fillers : s.fillers.Refines l.fillers
  decoders : s.decoders = l.decoders
  defaultContentType : s.defaultContentType = l.defaultContentType
  pathVars : s.pathVars = l.pathVars
  strict : s.strict = true
  lenient : l.strict = false

/-- What is compiled for a strict and for a lenient application. -/
def Compiled.Refines : Compiled → Compiled → Prop
  | .notModel, .notModel => True
  | .declined m, .declined m' => m = m'
  | .binder s, .binder l => s.Refines l
  | _, _ => False

theorem ModelHead.compile_refines (env : Env) (h : ModelHead) (ms : List (Member Ty)) :
    Alike Eq Compiled.Refines (h.compile (env.withStrict true) ms)
      (h.compile (env.withStrict false) ms) := by
  unfold ModelHead.compile
  refine (Fillers.ofMembers_refines env h.cls.name ms).bind fun fs gs hfs => ?_
  rw [hfs.count]
  split
  · exact .ok rfl
  rw [hfs.check env]
  refine Alike.bind_same _ (fun _ => rfl) fun _ => ?_
  exact .ok ⟨rfl, rfl, hfs, rfl, rfl, rfl, rfl, rfl⟩

theorem Shape.compile_refines (env : Env) (s : Shape) :
    Alike Eq Compiled.Refines (s.compile (env.withStrict true))
      (s.compile (env.withStrict false)) := by
  cases s with
  | struct h ms => exact h.compile_refines env ms
  | malformed => exact .error rfl
  | _ => exact .ok trivial

/-- **Models.** A type that has a binder for a strict application has one for a lenient application,
and the other way round; where there is none the reason is the same. -/
theorem Ty.compile_refines (env : Env) (t : Ty) :
    Alike Eq Compiled.Refines (t.compile (env.withStrict true))
      (t.compile (env.withStrict false)) := by
  unfold Ty.compile
  split
  · exact Shape.compile_refines env _
  · exact Shape.compile_refines env _

/-! ### Outcomes of steps -/

/-- The outcome of a step is that for a lenient binder, or a fault about something that nothing
receives. -/
def Outcome.Refines (s l : Outcome) : Prop :=
  s = l ∨ ∃ name nested, s = .fail (.unknownParameter name nested)

theorem Outcome.Refines.refl (o : Outcome) : o.Refines o := .inl rfl

namespace Filler.Refines

variable {s l : Filler}

/-- A filler does not wrap the fault, and wraps all others alike. -/
theorem outcome (h : s.Refines l) (place : Place) {v v' : Except Fault Value}
    (hv : ParamBinding.Refines v v') : (s.outcome place v).Refines (l.outcome place v') := by
  rcases hv with rfl | ⟨name, nested, rfl⟩
  · refine .inl ?_
    unfold Filler.outcome blame
    rw [h.field, h.name]
  · exact .inr ⟨name, nested, rfl⟩

theorem fillText (h : s.Refines l) (place : Place) (text : String) :
    (s.fillText place text).Refines (l.fillText place text) := by
  refine h.outcome place ?_
  have hsingle := h.unpacker.single?
  generalize s.unpacker.single? = d at hsingle ⊢
  generalize l.unpacker.single? = e at hsingle ⊢
  cases hsingle with
  | none => exact .refl _
  | some hd => exact hd text

theorem fillList (h : s.Refines l) (place : Place) (vs : List String) :
    (s.fillList place vs).Refines (l.fillList place vs) := by
  have hmulti := h.unpacker.multi?
  unfold Filler.fillList
  generalize s.unpacker.multi? = d at hmulti ⊢
  generalize l.unpacker.multi? = e at hmulti ⊢
  cases hmulti with
  | some hd => exact h.outcome place (hd vs)
  | none => cases vs with
    | nil => exact .refl _
    | cons v vs => exact h.fillText place v

theorem fillKeys (h : s.Refines l) (keys : List (String × List String)) :
    (s.fillKeys keys).Refines (l.fillKeys keys) := by
  refine h.outcome .query ?_
  have hkeyed := h.unpacker.deepObject?
  generalize s.unpacker.deepObject? = d at hkeyed ⊢
  generalize l.unpacker.deepObject? = e at hkeyed ⊢
  cases hkeyed with
  | none => exact .refl _
  | some hd => exact hd keys

end Filler.Refines

theorem PathFiller.Refines.fill {s l : PathFiller} (h : s.Refines l) (v : Option Value) :
    (s.fill v).Refines (l.fill v) := by
  unfold PathFiller.fill
  split
  · refine .inl ?_
    rw [h.filler.name, h.filler.field]
  · exact h.filler.fillText .path _
  · rw [h.accept]
    exact h.filler.outcome .path (.refl _)

theorem lookupFiller_refines {fs gs : List Filler} (h : List.Forall₂ Filler.Refines fs gs)
    (name : String) : Option.Rel Filler.Refines (lookupFiller fs name) (lookupFiller gs name) :=
  rel_find?_of_forall₂ h fun f g hf => by rw [hf.name]

/-! ### Names and keys -/

/-- What becomes of a name, given tables of fillers that refine one another. -/
inductive NameUse.Refines : NameUse → NameUse → Prop where
  | parameter {f g : Filler} (h : f.Refines g) : Refines (.parameter f) (.parameter g)
  | key (root key : String) : Refines (.key root key) (.key root key)
  | unknown : Refines .unknown .unknown

theorem nameUse_refines {plain plain' deep deep' : List Filler}
    (hplain : List.Forall₂ Filler.Refines plain plain')
    (hdeep : List.Forall₂ Filler.Refines deep deep') (name : String) :
    (nameUse plain deep name).Refines (nameUse plain' deep' name) := by
  have hfound := lookupFiller_refines hplain name
  unfold nameUse
  generalize lookupFiller plain name = f at hfound ⊢
  generalize lookupFiller plain' name = g at hfound ⊢
  cases hfound with
  | some hf => exact .parameter hf
  | none =>
    cases Urlencoded.bracketed? name with
    | none => exact .unknown
    | some rk =>
      have hroot := lookupFiller_refines hdeep rk.1
      dsimp only
      generalize lookupFiller deep rk.1 = f at hroot ⊢
      generalize lookupFiller deep' rk.1 = g at hroot ⊢
      cases hroot with
      | some _ => exact .key _ _
      | none => exact .unknown

/-- A name that nothing receives fails for a strict binder only. -/
theorem NameUse.Refines.outcome {s l : NameUse} (h : s.Refines l) (name : String)
    (vs : List String) : (s.outcome true name vs).Refines (l.outcome false name vs) := by
  cases h with
  | parameter hf => exact hf.fillList .query vs
  | key root k => exact .refl _
  | unknown => exact .inr ⟨name, false, rfl⟩

theorem NameUse.Refines.keep {s l : NameUse} (h : s.Refines l) (vs : List String)
    (kept : Buffered) : s.keep vs kept = l.keep vs kept := by
  cases h <;> rfl

/-- The same texts are kept, and every name has its outcome. -/
structure Sorted.Refines (s l : Sorted) : Prop where
  outcomes : List.Forall₂ Outcome.Refines s.outcomes l.outcomes
  buffered : s.buffered = l.buffered

theorem Sorted.Refines.add {s l : Sorted} (h : s.Refines l) {plain plain' deep deep' : List Filler}
    (hplain : List.Forall₂ Filler.Refines plain plain')
    (hdeep : List.Forall₂ Filler.Refines deep deep') (name : String) (vs : List String) :
    (s.add plain deep true name vs).Refines (l.add plain' deep' false name vs) := by
  have huse := nameUse_refines hplain hdeep name
  refine ⟨List.rel_append h.outcomes (.cons (huse.outcome name vs) .nil), ?_⟩
  show (nameUse plain deep name).keep vs s.buffered = _
  rw [huse.keep, h.buffered]
  rfl

namespace Binder.Refines

variable {s l : Binder} {r : Request} {body : Bytes}

theorem sortNames (h : s.Refines l) {plain plain' deep deep' : List Filler}
    (hplain : List.Forall₂ Filler.Refines plain plain')
    (hdeep : List.Forall₂ Filler.Refines deep deep') (items : List (String × String))
    (kept : Buffered) :
    (s.sortNames plain deep items kept).Refines (l.sortNames plain' deep' items kept) := by
  have hrun : ∀ (groups : List (String × List String)) {a b : Sorted}, a.Refines b →
      (groups.foldl (fun a i => a.add plain deep true i.1 i.2) a).Refines
        (groups.foldl (fun b i => b.add plain' deep' false i.1 i.2) b) := by
    intro groups
    induction groups with
    | nil => exact fun hab => hab
    | cons i groups ih => exact fun hab => ih (hab.add hplain hdeep i.1 i.2)
  unfold Binder.sortNames
  rw [h.strict, h.lenient]
  exact hrun _ ⟨.nil, rfl⟩

theorem sortForm (h : s.Refines l) (r : Request) (body : Bytes) (kept : Buffered) :
    (s.sortForm r body kept).Refines (l.sortForm r body kept) := by
  unfold Binder.sortForm
  rw [h.fillers.needsForm]
  split
  · cases formItems body with
    | ok items => exact h.sortNames h.fillers.form h.fillers.formDeepObject items kept
    | error f => exact ⟨.cons (.refl _) .nil, rfl⟩
  · exact ⟨.nil, rfl⟩

theorem deepOutcome (h : s.Refines l) (root : String) (keys : List (String × List String)) :
    Alike Eq Outcome.Refines (s.deepOutcome root keys) (l.deepOutcome root keys) := by
  have hquery := lookupFiller_refines h.fillers.deepObject root
  have hform := lookupFiller_refines h.fillers.formDeepObject root
  unfold Binder.deepOutcome deepFiller?
  generalize lookupFiller s.fillers.deepObject root = f at hquery ⊢
  generalize lookupFiller l.fillers.deepObject root = g at hquery ⊢
  cases hquery with
  | some hf => exact .ok (hf.fillKeys keys)
  | none =>
    generalize lookupFiller s.fillers.formDeepObject root = f at hform ⊢
    generalize lookupFiller l.fillers.formDeepObject root = g at hform ⊢
    cases hform with
    | some hf => exact .ok (hf.fillKeys keys)
    | none => exact .error rfl

theorem queryOutcomes (h : s.Refines l) (r : Request) (body : Bytes) :
    Alike Eq (List.Forall₂ Outcome.Refines) (s.queryOutcomes r body) (l.queryOutcomes r body) := by
  have hquery := h.sortNames h.fillers.query h.fillers.deepObject r.queryPairs []
  unfold Binder.queryOutcomes
  dsimp only
  rw [hquery.buffered]
  have hform := h.sortForm r body
    (l.sortNames l.fillers.query l.fillers.deepObject r.queryPairs []).buffered
  rw [hform.buffered]
  have hkeys : ∀ e e' : String × List (String × List String), e = e' →
      Alike Eq Outcome.Refines (s.deepOutcome e.1 e.2) (l.deepOutcome e'.1 e'.2) := by
    rintro e _ rfl
    exact h.deepOutcome e.1 e.2
  refine (Alike.mapM hkeys (List.forall₂_refl _)).bind fun os os' hos => ?_
  exact .ok (List.rel_append (List.rel_append hquery.outcomes hform.outcomes) hos)

theorem pathOutcomes (h : s.Refines l) (r : Request) :
    Alike Eq (List.Forall₂ Outcome.Refines) (s.pathOutcomes r) (l.pathOutcomes r) := by
  refine Alike.mapM (fun f g hf => ?_) h.fillers.path
  have hvalue : s.pathValue r f.name = l.pathValue r g.name := by
    rw [pathValue, pathValue, h.pathVars, hf.filler.name]
  rw [pathOutcome, pathOutcome, hvalue]
  cases l.pathValue r g.name with
  | ok v => exact .ok (hf.fill v)
  | error e =>
    dsimp only
    split
    · exact .ok (.refl _)
    · exact .error rfl

theorem headerOutcomes (h : s.Refines l) (r : Request) :
    Alike Eq (List.Forall₂ Outcome.Refines) (s.headerOutcomes r) (l.headerOutcomes r) := by
  refine Alike.mapM (fun f g hf => ?_) h.fillers.header
  rw [hf.name]
  refine Alike.map_same _ (fun _ => rfl) fun vs => ?_
  split
  · exact .refl _
  · exact hf.fillList .header vs

theorem cookieOutcomes (h : s.Refines l) (r : Request) :
    List.Forall₂ Outcome.Refines (s.cookieOutcomes r) (l.cookieOutcomes r) := by
  refine List.rel_map (fun f g hf => ?_) h.fillers.cookie
  rw [hf.name]
  cases Cookie.get? r.cookies g.name with
  | none => exact .refl _
  | some v => exact hf.fillText .cookie v

/-- **Steps.** Every step of a request has the outcome that it has for the lenient binder, or fails
for something that nothing receives. -/
theorem outcomes (h : s.Refines l) (r : Request) (body : Bytes) :
    Alike Eq (List.Forall₂ Outcome.Refines) (s.outcomes r body) (l.outcomes r body) := by
  unfold Binder.outcomes
  refine (h.pathOutcomes r).bind fun path path' hpath => ?_
  refine (h.headerOutcomes r).bind fun header header' hheader => ?_
  refine (h.queryOutcomes r body).bind fun query query' hquery => ?_
  have hbody : List.Forall₂ Outcome.Refines (s.fillers.body.toList.map fun f => f.fill s r body)
      (l.fillers.body.toList.map fun f => f.fill l r body) := by
    have hfill : ∀ f : BodyFiller, f.fill s r body = f.fill l r body := by
      intro f
      rw [BodyFiller.fill, BodyFiller.fill, h.defaultContentType, h.decoders]
    rw [h.fillers.body, funext hfill]
    exact List.forall₂_same.mpr fun o _ => .refl o
  have hbefore := List.rel_append (List.rel_append (List.rel_append hbody hpath) hheader) hquery
  exact .ok (List.rel_append hbefore (h.cookieOutcomes r))

end Binder.Refines

/-! ### Requests -/

/-- Where no step fails the outcomes are the same. Otherwise the first fault is that of the lenient
outcomes, or one about something that nothing receives. -/
theorem Outcome.firstFault?_refines {ss ls : List Outcome}
    (h : List.Forall₂ Outcome.Refines ss ls) :
    (ss.findSome? fault? = none → ss = ls) ∧
      ∀ f, ss.findSome? fault? = some f →
        ls.findSome? fault? = some f ∨ ∃ name nested, f = .unknownParameter name nested := by
  induction h with
  | nil => exact ⟨fun _ => rfl, by rintro f ⟨⟩⟩
  | @cons s l ss ls hsl _ ih =>
    rcases hsl with rfl | ⟨name, nested, rfl⟩
    · rw [List.findSome?_cons, List.findSome?_cons]
      cases s.fault? with
      | none => exact ⟨fun hnone => by rw [ih.1 hnone], ih.2⟩
      | some e => exact ⟨by rintro ⟨⟩, fun f hf => .inl hf⟩
    · refine ⟨by rintro ⟨⟩, fun f hf => .inr ?_⟩
      cases hf
      exact ⟨name, nested, rfl⟩

/-- **Strict mode refines lenient mode.** A model that is compiled for a strict and for a lenient
application has the same result for every request that the strict binder takes. A request that only
the lenient binder takes is refused for a parameter or a key that nothing receives, and the fault
about it stands on its own, whatever it was found in. -/
theorem Binder.strict_refines {env : Env} {t : Ty} {s l : Binder}
    (hs : t.compile (env.withStrict true) = .ok (.binder s))
    (hl : t.compile (env.withStrict false) = .ok (.binder l)) (r : Request) (body : Bytes) :
    (∀ model, s.resolve r body = .ok model → l.resolve r body = .ok model) ∧
      ∀ model e, l.resolve r body = .ok model → s.resolve r body = .error (.bind e) →
        ∃ name nested, e.cause = .unknownParameter name nested := by
  have hbinder : s.Refines l := by
    have hcompiled := t.compile_refines env
    rw [hs, hl] at hcompiled
    cases hcompiled with
    | ok h => exact h
  have houtcomes := hbinder.outcomes r body
  have hfirst : ∀ ss ls, s.outcomes r body = .ok ss → l.outcomes r body = .ok ls →
      List.Forall₂ Outcome.Refines ss ls := by
    intro ss ls hss hls
    rw [hss, hls] at houtcomes
    cases houtcomes with
    | ok h => exact h
  constructor
  · intro model hmodel
    obtain ⟨new, ss, hnew, hss, hnone, hfilled⟩ := resolve_eq_ok.mp hmodel
    cases hls : l.outcomes r body with
    | error f =>
      rw [hss, hls] at houtcomes
      cases houtcomes
    | ok ls =>
      -- no step fails, so all outcomes are those of the lenient binder
      obtain rfl := (Outcome.firstFault?_refines (hfirst ss ls hss hls)).1 hnone
      rw [hbinder.head, hbinder.members] at hnew
      exact resolve_eq_ok.mpr ⟨new, ss, hnew, hls, hnone, hfilled⟩
  · intro model e hmodel herror
    obtain ⟨ss, hss, hcause⟩ := cause_of_resolve herror
    obtain ⟨_, ls, -, hls, hnone, -⟩ := resolve_eq_ok.mp hmodel
    rcases (Outcome.firstFault?_refines (hfirst ss ls hss hls)).2 _ hcause with hsome | hunknown
    · rw [hnone] at hsome
      cases hsome
    · exact hunknown

/-- A page of results, as keys in brackets. -/
def pagedMembers : List (Member Ty) := [
  { name := "page", tags := [(defaultTagKey, "query,deepObject=true")],
    type := .model { cls := { name := "Page" } } [
      { name := "size", type := .scalar { kind := .int } }] }]

/-- The binder of a model of one page. -/
def paged (strict : Bool) : Binder :=
  .declared (Env.withStrict ⟨{}, []⟩ strict) { cls := { name := "Paged" } } pagedMembers

/-- A request for a page with a key that no field receives. -/
def pageRequest : Request := { query := utf8 "page[size]=2&page[sort]=3" }

/-- The error by which a request is refused. -/
def refusal? : Except ResolveError (Record Value) → Option BindError
  | .error (.bind e) => some e
  | _ => none

theorem refusal?_eq_some {result : Except ResolveError (Record Value)} {e : BindError} :
    refusal? result = some e ↔ result = .error (.bind e) := by
  rcases result with (_ | _) | _ <;> simp [refusal?]

theorem paged_refused :
    (∃ model, (paged false).resolve pageRequest [] = .ok model) ∧
      ∃ e, (paged true).resolve pageRequest [] = .error (.bind e) ∧
        ∃ name nested, e.cause = .unknownParameter name nested := by
  have hcompile : ∀ strict, (Ty.model { cls := { name := "Paged" } } pagedMembers).compile
      (Env.withStrict ⟨{}, []⟩ strict) = .ok (.binder (paged strict)) := by
    intro strict
    cases strict <;> rfl
  have hlenient : ((paged false).resolve pageRequest []).isOk = true := by decide +kernel
  have hstrict : (refusal? ((paged true).resolve pageRequest [])).isSome = true := by
    decide +kernel
  obtain ⟨e, hrefusal⟩ := Option.isSome_iff_exists.mp hstrict
  have herror := refusal?_eq_some.mp hrefusal
  cases hl : (paged false).resolve pageRequest [] with
  | error f =>
    rw [hl] at hlenient
    cases hlenient
  | ok model =>
    have hrefines := Binder.strict_refines (hcompile true) (hcompile false) pageRequest []
    exact ⟨⟨model, rfl⟩, e, herror, hrefines.2 model e hl herror⟩

end ParamBinding
