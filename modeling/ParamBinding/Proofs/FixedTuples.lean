import ParamBinding.Proofs.Decodability
import ParamBinding.Proofs.NestedModels
import ParamBinding.Proofs.SequenceForms
import ParamBinding.Ty.Construct

/-!
# Tuples of a fixed length

The places of a tuple are filled from the left, each by the decoder of its type, and those without a
text hold the zeros of their types. Filling them goes place by place; here it is taken apart into
decoding the texts that there are and then making the zeros that are left (`fillSlots_slotsOf`). So
a tuple has a value exactly when there are not too many texts, every text is decoded by the decoder
of its place, and the places left over have zeros; and it fails with the first of these that goes
wrong (`Ty.tuple_decoding`). That there are too many texts is seen before any of them is decoded.

A tuple type with no places is not among them: it is taken for that of tuples of any length, whose
elements are texts, so no number of texts is too many for it (`empty_tuple_takes_texts`).
-/

namespace ParamBinding

open ParamBinding.Text

/-! ### Places -/

/-- The places of a tuple: their decoders, and the zeros of their types. -/
def slotsOf (ds : List TextDecoder) (es : List Ty) : List Slot :=
  List.zipWith (fun d e => ⟨d, e.zero⟩) ds es

/-- Texts are decoded by the decoders of the places that they stand in. -/
def decodePlaces (ds : List TextDecoder) (vs : List String) : Except Fault (List Value) :=
  (ds.zip vs).mapM fun p => p.1 p.2

section Places

variable {ds : List TextDecoder} {es : List Ty} {vs : List String}

theorem length_slotsOf (h : ds.length = es.length) : (slotsOf ds es).length = es.length := by
  rw [slotsOf, List.length_zipWith, h, Nat.min_self]

/-- Places without a text are left over for the zeros. -/
theorem fillSlots_slotsOf_nil (h : ds.length = es.length) :
    fillSlots (slotsOf ds es) [] = Ty.zeros es := by
  induction ds generalizing es with
  | nil =>
    obtain rfl := List.length_eq_zero_iff.mp h.symm
    rfl
  | cons d ds ih =>
    obtain ⟨e, es, rfl⟩ := List.exists_cons_of_length_eq_add_one h.symm
    show (do let z ← e.zero; let zs ← fillSlots (slotsOf ds es) []; .ok (z :: zs)) = _
    rw [ih (Nat.succ.inj h), Ty.zeros]

/-- **Filling places.** First the texts are decoded, and then the places left over are filled with
zeros. -/
theorem fillSlots_slotsOf (h : ds.length = es.length) (hfits : vs.length ≤ es.length) :
    fillSlots (slotsOf ds es) vs = (do
      let xs ← decodePlaces ds vs
      let zs ← Ty.zeros (es.drop vs.length)
      .ok (xs ++ zs)) := by
  -- every text takes one place, so the induction is on the texts
  induction vs generalizing ds es with
  | nil =>
    rw [fillSlots_slotsOf_nil h, decodePlaces, List.zip_nil_right]
    show _ = (do let zs ← Ty.zeros es; .ok zs)
    cases Ty.zeros es <;> rfl
  | cons v vs ih =>
    obtain ⟨e, es, rfl⟩ := List.exists_cons_of_length_pos (Nat.zero_lt_of_lt hfits)
    obtain ⟨d, ds, rfl⟩ := List.exists_cons_of_length_eq_add_one h
    have hdecode : decodePlaces (d :: ds) (v :: vs) =
        (do let x ← d v; let xs ← decodePlaces ds vs; .ok (x :: xs)) := by
      rw [decodePlaces, List.zip_cons_cons, List.mapM_cons]
      rfl
    show (do let x ← d v; let xs ← fillSlots (slotsOf ds es) vs; .ok (x :: xs)) = _
    rw [ih (Nat.succ.inj h) (Nat.le_of_succ_le_succ hfits), hdecode, List.length_cons,
      List.drop_succ_cons]
    cases d v with
    | error f => rfl
    | ok x =>
      cases decodePlaces ds vs with
      | error f => rfl
      | ok xs => cases Ty.zeros (es.drop vs.length) <;> rfl

/-- Nothing of a tuple is decoded when there are too many texts for it. -/
theorem fillTuple_overflow (h : ds.length = es.length) (hover : es.length < vs.length) :
    fillTuple (slotsOf ds es) vs = .error (.tooManyValues vs.length es.length) := by
  rw [fillTuple, length_slotsOf h, if_pos hover]

theorem fillTuple_slotsOf (h : ds.length = es.length) (hfits : vs.length ≤ es.length) :
    fillTuple (slotsOf ds es) vs = (do
      let xs ← decodePlaces ds vs
      let zs ← Ty.zeros (es.drop vs.length)
      .ok (.tuple (xs ++ zs))) := by
  rw [fillTuple, length_slotsOf h, if_neg (Nat.not_lt.mpr hfits), fillSlots_slotsOf h hfits]
  cases decodePlaces ds vs with
  | error f => rfl
  | ok xs => cases Ty.zeros (es.drop vs.length) <;> rfl

/-- The values of a tuple: those of the texts, and then the zeros of the places left over. -/
structure FillsTuple (ds : List TextDecoder) (es : List Ty) (vs : List String)
    (xs zs : List Value) : Prop where
  decoded : List.Forall₂ (fun p x => p.1 p.2 = .ok x) (ds.zip vs) xs
  zeros : List.Forall₂ (fun e z => e.zero = .ok z) (es.drop vs.length) zs

theorem FillsTuple.lengths {xs zs : List Value} (h : ds.length = es.length)
    (hfits : vs.length ≤ es.length) (hfills : FillsTuple ds es vs xs zs) :
    xs.length = vs.length ∧ (xs ++ zs).length = es.length := by
  have hxs := hfills.decoded.length_eq
  have hzs := hfills.zeros.length_eq
  rw [List.length_zip] at hxs
  rw [List.length_drop] at hzs
  rw [List.length_append]
  omega

theorem fillTuple_eq_ok (h : ds.length = es.length) (hfits : vs.length ≤ es.length) {v : Value} :
    fillTuple (slotsOf ds es) vs = .ok v ↔
      ∃ xs zs, FillsTuple ds es vs xs zs ∧ v = .tuple (xs ++ zs) := by
  rw [fillTuple_slotsOf h hfits]
  simp only [bind_eq_ok, decodePlaces, Ty.zeros_eq_mapM, mapM_eq_ok, Except.ok.injEq]
  constructor
  · rintro ⟨xs, hxs, zs, hzs, rfl⟩
    exact ⟨xs, zs, ⟨hxs, hzs⟩, rfl⟩
  · rintro ⟨xs, zs, ⟨hxs, hzs⟩, rfl⟩
    exact ⟨xs, hxs, zs, hzs, rfl⟩

/-- A fault of a tuple: that of the first text that cannot be decoded, or else that of the first place
left over that has no zero. -/
inductive TupleFault (ds : List TextDecoder) (es : List Ty) (vs : List String) : Fault → Prop where
  | text {before after : List (TextDecoder × String)} {d : TextDecoder} {s : String} {f : Fault} :
      ds.zip vs = before ++ (d, s) :: after → (∀ p ∈ before, ∃ x, p.1 p.2 = .ok x) →
      d s = .error f → TupleFault ds es vs f
  | zero {before after : List Ty} {e : Ty} {f : Fault} :
      (∀ p ∈ ds.zip vs, ∃ x, p.1 p.2 = .ok x) → es.drop vs.length = before ++ e :: after →
      (∀ e' ∈ before, ∃ z, e'.zero = .ok z) → e.zero = .error f → TupleFault ds es vs f

theorem fillTuple_eq_error (h : ds.length = es.length) (hfits : vs.length ≤ es.length) {f : Fault} :
    fillTuple (slotsOf ds es) vs = .error f ↔ TupleFault ds es vs f := by
  have hdecode : decodePlaces ds vs = .error f ↔
      ∃ before p after, ds.zip vs = before ++ p :: after ∧
        (∀ q ∈ before, ∃ x, q.1 q.2 = .ok x) ∧ p.1 p.2 = .error f := mapM_eq_error_iff
  have hall : (∃ xs, decodePlaces ds vs = .ok xs) ↔ ∀ p ∈ ds.zip vs, ∃ x, p.1 p.2 = .ok x :=
    exists_mapM_eq_ok
  have hzero : Ty.zeros (es.drop vs.length) = .error f ↔
      ∃ before e after, es.drop vs.length = before ++ e :: after ∧
        (∀ e' ∈ before, ∃ z, e'.zero = .ok z) ∧ e.zero = .error f := by
    rw [Ty.zeros_eq_mapM]
    exact mapM_eq_error_iff
  rw [fillTuple_slotsOf h hfits, bind_eq_error]
  constructor
  · rintro (herror | ⟨xs, hxs, herror⟩)
    · obtain ⟨before, ⟨d, s⟩, after, hzip, hbefore, hs⟩ := hdecode.mp herror
      exact .text hzip hbefore hs
    · obtain hzeros | ⟨zs, -, hzs⟩ := bind_eq_error.mp herror
      · obtain ⟨before, e, after, hdrop, hbefore, he⟩ := hzero.mp hzeros
        exact .zero (hall.mp ⟨xs, hxs⟩) hdrop hbefore he
      · cases hzs
  · intro hfault
    cases hfault with
    | text hzip hbefore hs => exact .inl (hdecode.mpr ⟨_, _, _, hzip, hbefore, hs⟩)
    | zero hdecoded hdrop hbefore he =>
      obtain ⟨xs, hxs⟩ := hall.mpr hdecoded
      exact .inr ⟨xs, hxs, bind_eq_error.mpr (.inl (hzero.mpr ⟨_, _, _, hdrop, hbefore, he⟩))⟩

end Places

/-! ### Tuple types -/

/-- Decoders of the places of a tuple: each is what the type of its place is built to, and takes one
text. -/
def Ty.PlaceDecoders (env : Env) (site : Site) (tag : Tag) (es : List Ty)
    (ds : List TextDecoder) : Prop :=
  List.Forall₂ (fun e d => e.unpacker env site tag.withoutExplode = .ok (.single d)) es ds

section Types

variable {env : Env} {t : Ty} {site : Site} {tag : Tag} {es : List Ty} {ds : List TextDecoder}

/-- A tuple type that has been given the types of its places is a tuple of a fixed length. -/
theorem Ty.shape_ofTupleArgs (builtin : Bool) (hsome : es ≠ [])
    (hdots : ∀ e, es ≠ [e, .ellipsis]) : (Ty.ofTupleArgs builtin es).shape = .array es := by
  unfold Ty.ofTupleArgs
  split
  · exact absurd rfl hsome
  · exact absurd rfl (hdots _)
  · rfl

theorem Ty.buildSlots_of_placeDecoders (hcontent : tag.content = "")
    (h : Ty.PlaceDecoders env site tag es ds) :
    Ty.buildSlots env es site tag.withoutExplode = .ok (slotsOf ds es) := by
  induction h with
  | nil => rfl
  | @cons e d es ds hd _ ih =>
    have hplain : tag.withoutExplode.content = "" := hcontent
    rw [Ty.buildSlots, Ty.build_of_unpacker hplain hd, ih]
    rfl

/-- **Decoding a tuple.** A tuple that is given the types of its places, at least one, is built from
their decoders, and takes the occurrences of a parameter or what a text is cut into. With more texts
than places it fails, whatever the decoders of the places are. Otherwise it has a value when all
texts have, each in its place, and the places left over have zeros: the tuple of all these, of its
full length. It fails with the fault of the first text that has none, or else with that of the first
place left over that has no zero. -/
theorem Ty.tuple_decoding {builtin : Bool} (ht : t.core = Ty.ofTupleArgs builtin es)
    (hsome : es ≠ []) (hdots : ∀ e, es ≠ [e, .ellipsis]) (hcontent : tag.content = "")
    (hdeep : tag.deepObject = false)
    (hbare : site.place.isBare = true → tag.explode = false ∧ tag.delimiter = ",")
    (hplaces : Ty.PlaceDecoders env site tag es ds) :
    let decode : ListDecoder := fillTuple (slotsOf ds es)
    t.unpacker env site tag = .ok (if site.place.repeats && tag.explode then .multi decode
      else .single fun s => decode (split tag.delimiter s)) ∧
    (∀ vs : List String, es.length < vs.length → ∀ ds' : List TextDecoder, ds'.length = es.length →
      fillTuple (slotsOf ds' es) vs = .error (.tooManyValues vs.length es.length)) ∧
    ∀ vs : List String, vs.length ≤ es.length →
      (∀ v, decode vs = .ok v ↔ ∃ xs zs, FillsTuple ds es vs xs zs ∧
        xs.length = vs.length ∧ (xs ++ zs).length = es.length ∧ v = .tuple (xs ++ zs)) ∧
      ∀ f, decode vs = .error f ↔ TupleFault ds es vs f := by
  have hlength : ds.length = es.length := (List.Forall₂.length_eq hplaces).symm
  refine ⟨?_, fun vs hover ds' hds' => fillTuple_overflow hds' hover, fun vs hfits => ⟨fun v => ?_,
    fun f => fillTuple_eq_error hlength hfits⟩⟩
  · have hshape : t.core.shape = .array es := ht ▸ Ty.shape_ofTupleArgs builtin hsome hdots
    rw [Ty.unpacker_plain hcontent]
    refine (Ty.build_array_eq hshape (Site.checkCompound_eq_ok.mpr hbare) hdeep).trans ?_
    rw [Ty.buildSlots_of_placeDecoders hcontent hplaces]
    rfl
  · refine (fillTuple_eq_ok hlength hfits).trans ⟨?_, ?_⟩
    · rintro ⟨xs, zs, hfills, rfl⟩
      obtain ⟨hxs, hall⟩ := hfills.lengths hlength hfits
      exact ⟨xs, zs, hfills, hxs, hall, rfl⟩
    · rintro ⟨xs, zs, hfills, -, -, rfl⟩
      exact ⟨xs, zs, hfills, rfl⟩

end Types

/-- Reading an integer of eight bits. -/
def readSmall : TextDecoder := Scalar.read { kind := .int } (some (.intBounds 8 true))

/-- A pair of an integer of eight bits and a text is exploded: its second place may be left over. -/
theorem shortPair_filled : ∃ decode,
    shortPair.unpacker ⟨{}, []⟩ ⟨"f", "p", .query⟩ { base := "query", explode := true } =
      .ok (.multi decode) ∧
    decode ["-128"] = .ok (.tuple [.int (-128), .text ""]) ∧
    decode ["128", "a"] = .error (.integerRange "128" true 8) ∧
    decode ["x", "a", "b"] = .error (.tooManyValues 3 2) := by
  have hplaces : Ty.PlaceDecoders ⟨{}, []⟩ ⟨"f", "p", .query⟩ { base := "query", explode := true }
      [.annotated (.scalar { kind := .int }) [.intBounds 8 true], .str] [readSmall, keepText] :=
    .cons rfl (.cons rfl .nil)
  obtain ⟨hunpacker, hover, hfits⟩ := @Ty.tuple_decoding ⟨{}, []⟩ shortPair ⟨"f", "p", .query⟩
    { base := "query", explode := true } _ _ true rfl (by simp) (by simp [Ty.str]) rfl rfl
    (by rintro ⟨⟩) hplaces
  refine ⟨_, hunpacker, ?_, ?_, hover ["x", "a", "b"] (by decide) _ rfl⟩
  · have hread : readSmall "-128" = .ok (.int (-128)) := rfl
    exact ((hfits ["-128"] (by decide)).1 _).mpr
      ⟨[.int (-128)], [.text ""], ⟨.cons hread .nil, .cons rfl .nil⟩, rfl, rfl, rfl⟩
  · have hread : readSmall "128" = .error (.integerRange "128" true 8) := rfl
    have hzip : [readSmall, keepText].zip ["128", "a"] =
        [] ++ (readSmall, "128") :: [(keepText, "a")] := rfl
    exact ((hfits ["128", "a"] (by decide)).2 _).mpr (.text hzip (by rintro _ ⟨⟩) hread)

/-- A tuple with no places is decoded like one of any length, from as many texts as there are; and
a ledger that is left over keeps a tuple from having a value although all texts have theirs. -/
theorem empty_tuple_takes_texts :
    (∃ decode, (Ty.ofTupleArgs false []).unpacker ⟨{}, []⟩ ⟨"f", "p", .query⟩
        { base := "query", explode := true } = .ok (.multi decode) ∧
      decode ["a", "b"] = .ok (.tuple [.text "a", .text "b"])) ∧
    ∃ decode, (Ty.ofTupleArgs false
        [.str, .model { cls := { name := "Ledger" } } ledgerFields]).unpacker ⟨{}, []⟩
        ⟨"f", "p", .query⟩ { base := "query", explode := true } = .ok (.multi decode) ∧
      decode ["a"] = .error .missingTypeArgument :=
  ⟨⟨_, rfl, rfl⟩, _, rfl, rfl⟩

end ParamBinding
