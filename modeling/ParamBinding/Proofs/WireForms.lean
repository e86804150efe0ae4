import ParamBinding.Proofs.Cutting
import ParamBinding.Proofs.Soundness

/-!
# Ways to write pairs

Pairs of keys and values reach a map or a nested model in one of three ways: exploded, with one text
`key=value` for each pair; delimited, with keys and values alternating in one text; or keyed, with
the value of every key under the key itself. The unpackers of the three are built apart from each
other, from other tags and of other kinds, and still they agree (`Ty.wire_forms_agree`).

The texts are cut into the same pairs (`pairs_resplit`, `pairs_split`), the decoders of keys, values
and fields are the same (`Ty.build_single`, `Ty.buildMembers_deep`), and a pair does the same to a
map or a model whichever way it came (`toOption_gatherKeys`, `StructDecoder.unpackTokens_eq`).
-/

namespace ParamBinding

open ParamBinding.Text

/-! ### Pairs as texts -/

/-- One text for each pair. -/
def explodedTexts (ps : List (String × String)) : List String :=
  ps.map fun p => p.1 ++ String.singleton '=' ++ p.2

/-- Keys and values in turn. -/
def alternating (ps : List (String × String)) : List String := ps.flatMap fun p => [p.1, p.2]

/-- All keys and values in one text. -/
def delimitedText (delimiter : String) (ps : List (String × String)) : String :=
  join delimiter (alternating ps)

/-- The value of every key under the key. -/
def keyedTexts (ps : List (String × String)) : List (String × List String) :=
  ps.map fun p => (p.1, [p.2])

/-- Pairs that can be written in all three ways: no key has an equals sign, and neither keys nor
values have a character of the delimiter. -/
structure Writable (delimiter : String) (ps : List (String × String)) : Prop where
  ne_nil : ps ≠ []
  key_equals : ∀ p ∈ ps, '=' ∉ p.1.toList
  key_avoids : ∀ p ∈ ps, Avoids delimiter.toList p.1.toList
  value_avoids : ∀ p ∈ ps, Avoids delimiter.toList p.2.toList

theorem pairs_alternating (ps : List (String × String)) : pairs (alternating ps) = ps := by
  induction ps with
  | nil => rfl
  | cons p ps ih =>
    show (p.1, p.2) :: pairs (alternating ps) = p :: ps
    rw [ih]

theorem resplit_explodedTexts {ps : List (String × String)} (h : ∀ p ∈ ps, '=' ∉ p.1.toList) :
    resplit (explodedTexts ps) = alternating ps := by
  rw [resplit, explodedTexts, alternating, List.flatMap_map]
  refine List.flatMap_congr fun p hp => ?_
  rw [cut_append p.2 (h p hp)]

theorem split_delimitedText {delimiter : String} {ps : List (String × String)}
    (hdelimiter : delimiter ≠ "") (h : Writable delimiter ps) :
    split delimiter (delimitedText delimiter ps) = alternating ps := by
  refine split_join hdelimiter ?_ fun piece hpiece => ?_
  · obtain ⟨p, rest, rfl⟩ := List.exists_cons_of_ne_nil h.ne_nil
    exact List.cons_ne_nil p.1 _
  · obtain ⟨p, hp, hpiece⟩ := List.mem_flatMap.mp hpiece
    rcases List.mem_pair.mp hpiece with rfl | rfl
    · exact h.key_avoids p hp
    · exact h.value_avoids p hp

/-! ### Maps -/

/-- A key is decoded before its value among pairs and after it among keys, so the faults may differ.
Nothing else does. -/
theorem toOption_gatherKeys (key value : TextDecoder) (ps : List (String × String))
    (acc : List (Value × Value)) :
    (gatherKeys key (.single value) acc (keyedTexts ps)).toOption =
      (gatherPairs key value acc ps).toOption := by
  induction ps generalizing acc with
  | nil => rfl
  | cons p ps ih =>
    have hkeys : gatherKeys key (.single value) acc (keyedTexts (p :: ps)) = (do
        let v ← value p.2
        let k ← key p.1
        let acc' ← putEntry acc k v
        gatherKeys key (.single value) acc' (keyedTexts ps)) := rfl
    rw [hkeys, gatherPairs]
    cases hk : key p.1 with
    | error f => cases value p.2 <;> rfl
    | ok k =>
      cases hv : value p.2 with
      | error f => rfl
      | ok v =>
        show (putEntry acc k v >>= fun acc' => _).toOption = (putEntry acc k v >>= _).toOption
        cases putEntry acc k v with
        | error f => rfl
        | ok acc' => exact ih acc'

/-! ### Decoders of one text -/

namespace Ty

/-- A primitive class or a type with a text form, perhaps optional and with notes. -/
def ReadsText (reg : Registry) : Ty → Prop
  | .annotated t _ => t.ReadsText reg
  | .optional _ t => t.ReadsText reg
  | .scalar _ => True
  | t => (t.bareReader? reg).isSome

variable {env : Env} {site : Site} {tag : Tag}

/-- No parameter with keys is read from one text. -/
theorem bareReader?_of_deepObject {t : Ty} {other : Except CompileError Unpacker} {u : Unpacker}
    (hdeep : tag.deepObject = true) (h : t.readOr env site tag other = .ok u) :
    t.bareReader? env.registry = none := by
  cases hreader : t.bareReader? env.registry with
  | none => rfl
  | some reader =>
    rw [readOr, hreader, Site.rejectDeepObject, if_pos hdeep] at h
    cases h

/-- **One text.** A type that reads texts has one decoder for them, whatever the parameter is called
and however its tag wants lists to be written. -/
theorem build_single (env : Env) : ∀ (t : Ty) (b : Option Note), t.ReadsText env.registry →
    ∃ d : TextDecoder, ∀ {site : Site} {tag : Tag} {noted : Option Ty} {u : Unpacker},
      build env t site tag (.plain b noted) = .ok u → u = .single d
  | .annotated t ns, b, h => by
    obtain ⟨d, hd⟩ := build_single env t ((ns.find? Note.isBound).or b) h
    refine ⟨d, fun hu => ?_⟩
    rw [build] at hu
    exact hd hu
  | .optional f t, _, h => by
    obtain ⟨d, hd⟩ := build_single env t none h
    refine ⟨d, fun hu => ?_⟩
    rw [build, readOr_of_none rfl] at hu
    exact hd hu
  | .scalar s, b, _ => by
    cases hreader : (Ty.scalar s).bareReader? env.registry with
    | some reader =>
      refine ⟨reader.read, fun hu => ?_⟩
      rw [build] at hu
      exact readOr_of_reader hreader hu
    | none =>
      refine ⟨s.read b, fun hu => ?_⟩
      rw [build, readOr_of_none hreader] at hu
      obtain ⟨_, -, hu⟩ := bind_eq_ok.mp hu
      cases hu
      rfl
  | .plain _ _, _, h | .enum _, _, h | .model _ _, _, h | .sequence _ _ _, _, h | .row _ _ _, _, h
  | .tuple _ _, _, h | .map _ _ _ _, _, h | .union _ _, _, h | .literal _, _, h
  | .callable _ _, _, h | .generic _ _ _, _, h | .ellipsis, _, h => by
    obtain ⟨reader, hreader⟩ := Option.isSome_iff_exists.mp h
    refine ⟨reader.read, fun hu => ?_⟩
    rw [build] at hu
    exact readOr_of_reader hreader hu
  | .keyedOnly _, _, _ => by
    refine ⟨fun _ => .error absentFunction, fun hu => ?_⟩
    rw [build] at hu
    cases hu

/-! ### Fields of nested models -/

/-- No field of a nested model asks for its occurrences one by one. -/
def NoneExplodes (tagKey : String) (ms : List (Member Ty)) : Prop :=
  ∀ m ∈ ms, ∀ tag, Tag.read true ((m.tag? tagKey).getD "") = .ok tag → tag.explode = false

/-- Such fields are filled from keys as from pairs. -/
theorem buildMembers_deep {ms : List (Member Ty)} (h : NoneExplodes env.options.tagKey ms)
    (place : Place) (deep : Bool) (taken : List String) :
    buildMembers env ms place deep taken = buildMembers env ms place false taken := by
  induction ms generalizing taken with
  | nil => rfl
  | cons m ms ih =>
    have hrest := ih fun m' hm' => h m' (List.mem_cons_of_mem m hm')
    simp only [buildMembers, hrest]
    -- only a tag that can be read matters, and it does not explode
    cases hread : Tag.read true ((m.tag? env.options.tagKey).getD "") with
    | error p => rfl
    | ok tag =>
      have hexplode : tag.explode = false := h m List.mem_cons_self tag hread
      have hsame : tag.withoutExplode = tag := by rw [Tag.withoutExplode, ← hexplode]
      show (if tag.base = "-" then _ else _) = (if tag.base = "-" then _ else _)
      rw [hsame, ite_self, ite_self]

/-! ### Types of pairs -/

/-- A map from texts to texts, or a nested model none of whose fields explodes; either perhaps
optional and with notes. -/
def HoldsPairs (env : Env) : Ty → Prop
  | .annotated t _ => t.HoldsPairs env
  | .optional _ t => t.HoldsPairs env
  | .map _ k v _ => k.ReadsText env.registry ∧ v.ReadsText env.registry
  | .model _ ms => NoneExplodes env.options.tagKey ms
  | _ => False

end Ty

/-- The unpacker of pairs that are decoded from keys or from a list that alternates between keys and
values. -/
def Site.pairUnpacker (site : Site) (tag : Tag) (tokens : ListDecoder) (keys : KeyedDecoder) :
    Unpacker :=
  if tag.deepObject then .deepObject keys else site.tokenUnpacker tag tokens

/-- Two decoders give the same value for the same pairs, or no value. -/
def Agree (tokens : ListDecoder) (keys : KeyedDecoder) : Prop :=
  ∀ ps, (keys (keyedTexts ps)).toOption = (tokens (alternating ps)).toOption

theorem toOption_map {ε α β : Type} (x : Except ε α) (f : α → β) :
    (x.map f).toOption = x.toOption.map f := by
  cases x <;> rfl

theorem agree_map (key value : TextDecoder) :
    Agree (unpackMap key value) fun keys => (gatherKeys key (.single value) [] keys).map .map := by
  intro ps
  rw [unpackMap, pairs_alternating, toOption_map, toOption_map, toOption_gatherKeys]

theorem StructDecoder.agree (d : StructDecoder) : Agree d.unpackTokens d.unpackKeys := by
  intro ps
  rw [unpackTokens_eq, pairs_alternating]
  rfl

namespace Ty

variable {env : Env} {site : Site} {tag : Tag} {b : Option Note} {noted : Option Ty} {u : Unpacker}

/-- A map whose keys and values read texts is unpacked by the decoders of these texts, whatever the
tag. -/
theorem build_map {n : MapName} {k v : Ty} {spelled : Bool} {key value : TextDecoder}
    (hkey : ∀ {site : Site} {tag : Tag} {noted : Option Ty} {u : Unpacker},
      build env k site tag (.plain none noted) = .ok u → u = .single key)
    (hvalue : ∀ {site : Site} {tag : Tag} {noted : Option Ty} {u : Unpacker},
      build env v site tag (.plain none noted) = .ok u → u = .single value)
    (hreader : (Ty.map n k v spelled).bareReader? env.registry = none)
    (h : build env (.map n k v spelled) site tag (.plain b noted) = .ok u) :
    u = site.pairUnpacker tag (unpackMap key value)
      fun keys => (gatherKeys key (.single value) [] keys).map .map := by
  rw [build, readOr_of_none hreader] at h
  obtain ⟨_, -, h⟩ := bind_eq_ok.mp h
  obtain ⟨ku, hku, h⟩ := bind_eq_ok.mp h
  obtain ⟨key', hkey', h⟩ := bind_eq_ok.mp h
  obtain ⟨vu, hvu, h⟩ := bind_eq_ok.mp h
  obtain rfl := hkey hku
  obtain rfl := hvalue hvu
  cases hkey'
  unfold Site.pairUnpacker
  by_cases hdeep : tag.deepObject = true
  · rw [if_pos hdeep] at h ⊢
    obtain ⟨_, -, h⟩ := bind_eq_ok.mp h
    cases h
    rfl
  · rw [if_neg hdeep] at h ⊢
    cases h
    rfl

/-- A nested model none of whose fields explodes is unpacked by the same targets, whatever the
tag. -/
theorem build_model {head : ModelHead} {ms : List (Member Ty)} {targets : List MemberTarget}
    (hexplode : NoneExplodes env.options.tagKey ms)
    (htargets : buildMembers env ms site.place false [] = .ok targets)
    (hreader : (Ty.model head ms).bareReader? env.registry = none)
    (h : build env (.model head ms) site tag (.plain b noted) = .ok u) :
    let d : StructDecoder := ⟨site.place, env.options.strict, head.newInstance ms, targets⟩
    u = site.pairUnpacker tag d.unpackTokens d.unpackKeys := by
  rw [build, readOr_of_none hreader] at h
  obtain ⟨_, -, h⟩ := bind_eq_ok.mp h
  obtain ⟨targets', htargets', h⟩ := bind_eq_ok.mp h
  rw [buildMembers_deep hexplode, htargets] at htargets'
  cases htargets'
  intro d
  unfold Site.pairUnpacker
  by_cases hdeep : tag.deepObject = true
  · rw [if_pos hdeep] at h ⊢
    obtain ⟨_, -, h⟩ := bind_eq_ok.mp h
    cases h
    rfl
  · rw [if_neg hdeep] at h ⊢
    cases h
    rfl

/-- **Two decoders for all tags.** A type of pairs that can be unpacked from keys has one decoder of
keys and one of alternating keys and values, which agree. -/
theorem build_pairs (env : Env) {site : Site} {keyed : Tag} (hdeep : keyed.deepObject = true) :
    ∀ (t : Ty) {b : Option Note} {noted : Option Ty} {u : Unpacker}, t.HoldsPairs env →
      build env t site keyed (.plain b noted) = .ok u →
      ∃ tokens keys, Agree tokens keys ∧
        ∀ {tag : Tag} {noted : Option Ty} {u : Unpacker},
          build env t site tag (.plain b noted) = .ok u → u = site.pairUnpacker tag tokens keys
  | .annotated t ns, b, noted, u, ht, h => by
    rw [build] at h
    obtain ⟨tokens, keys, hagree, hbuild⟩ := build_pairs env hdeep t ht h
    refine ⟨tokens, keys, hagree, fun hu => ?_⟩
    rw [build] at hu
    exact hbuild hu
  | .optional f t, b, noted, u, ht, h => by
    rw [build, readOr_of_none rfl] at h
    obtain ⟨tokens, keys, hagree, hbuild⟩ := build_pairs env hdeep t ht h
    refine ⟨tokens, keys, hagree, fun hu => ?_⟩
    rw [build, readOr_of_none rfl] at hu
    exact hbuild hu
  | .map n k v spelled, b, noted, u, ht, h => by
    obtain ⟨key, hkey⟩ := build_single env k none ht.1
    obtain ⟨value, hvalue⟩ := build_single env v none ht.2
    rw [build] at h
    have hreader := bareReader?_of_deepObject hdeep h
    exact ⟨_, _, agree_map key value, fun hu => build_map hkey hvalue hreader hu⟩
  | .model head ms, b, noted, u, ht, h => by
    rw [build] at h
    have hreader := bareReader?_of_deepObject hdeep h
    rw [readOr_of_none hreader] at h
    obtain ⟨_, -, h⟩ := bind_eq_ok.mp h
    obtain ⟨targets, htargets, -⟩ := bind_eq_ok.mp h
    rw [buildMembers_deep ht] at htargets
    exact ⟨_, _, StructDecoder.agree _, fun hu => build_model ht htargets hreader hu⟩
  | .scalar _, _, _, _, ht, _ | .plain _ _, _, _, _, ht, _ | .enum _, _, _, _, ht, _
  | .sequence _ _ _, _, _, _, ht, _ | .row _ _ _, _, _, _, ht, _ | .tuple _ _, _, _, _, ht, _
  | .keyedOnly _, _, _, _, ht, _ | .union _ _, _, _, _, ht, _ | .literal _, _, _, _, ht, _
  | .callable _ _, _, _, _, ht, _ | .generic _ _ _, _, _, _, ht, _ | .ellipsis, _, _, _, ht, _ =>
    ht.elim

end Ty

/-! ### Tags -/

namespace Tag

/-- The tag of pairs with one text each. -/
structure IsExploded (tag : Tag) : Prop where
  content : tag.content = ""
  explode : tag.explode = true
  deepObject : tag.deepObject = false

/-- The tag of pairs in one text. -/
structure IsDelimited (tag : Tag) : Prop where
  content : tag.content = ""
  explode : tag.explode = false
  deepObject : tag.deepObject = false
  delimiter : tag.delimiter ≠ ""

/-- The tag of pairs under their keys. -/
structure IsKeyed (tag : Tag) : Prop where
  content : tag.content = ""
  deepObject : tag.deepObject = true

end Tag

theorem Ty.build_of_unpacker {env : Env} {t : Ty} {site : Site} {tag : Tag} {u : Unpacker}
    (hcontent : tag.content = "") (h : t.unpacker env site tag = .ok u) :
    build env t site tag .own = .ok u := by
  obtain ⟨mode, hmode, h⟩ := bind_eq_ok.mp h
  rw [Env.mode_of_content hcontent hmode] at h
  exact h

/-- **The wire forms agree.** When a map or a nested model can be unpacked exploded, delimited and
keyed, the three unpackers give the same value for the same pairs, or none of them gives a value;
whether or not keys that nothing receives are faults. The first two give the same faults, too. Pairs
with different keys are a map of keys to their texts. -/
theorem Ty.wire_forms_agree {env : Env} {t : Ty} {site : Site} {exploded delimited keyed : Tag}
    {ue ud uk : Unpacker} (ht : t.HoldsPairs env) (hplace : site.place = .query)
    (hexploded : exploded.IsExploded) (hdelimited : delimited.IsDelimited)
    (hkeyed : keyed.IsKeyed) (hue : t.unpacker env site exploded = .ok ue)
    (hud : t.unpacker env site delimited = .ok ud) (huk : t.unpacker env site keyed = .ok uk) :
    ∃ multi single deepObject, ue = .multi multi ∧ ud = .single single ∧
      uk = .deepObject deepObject ∧
      ∀ ps, Writable delimited.delimiter ps →
        single (delimitedText delimited.delimiter ps) = multi (explodedTexts ps) ∧
        (deepObject (keyedTexts ps)).toOption = (multi (explodedTexts ps)).toOption := by
  replace hue := build_of_unpacker hexploded.content hue
  replace hud := build_of_unpacker hdelimited.content hud
  replace huk := build_of_unpacker hkeyed.content huk
  obtain ⟨tokens, keys, hagree, hbuild⟩ := build_pairs env hkeyed.deepObject t ht huk
  have hmulti : ue = .multi fun vs => tokens (resplit vs) := by
    have hexplodes : site.explodes exploded = true := by
      rw [Site.explodes, hplace, hexploded.explode]
      rfl
    rw [hbuild hue, Site.pairUnpacker, hexploded.deepObject, Site.tokenUnpacker, hexplodes]
    rfl
  have hsingle : ud = .single fun v => tokens (split delimited.delimiter v) := by
    have hwhole : site.explodes delimited = false := by
      rw [Site.explodes, hdelimited.explode, Bool.and_false]
    rw [hbuild hud, Site.pairUnpacker, hdelimited.deepObject, Site.tokenUnpacker, hwhole]
    rfl
  have hkeys : uk = .deepObject keys := by
    rw [hbuild huk, Site.pairUnpacker, hkeyed.deepObject]
    rfl
  refine ⟨_, _, _, hmulti, hsingle, hkeys, fun ps hps => ?_⟩
  rw [split_delimitedText hdelimited.delimiter hps, resplit_explodedTexts hps.key_equals]
  exact ⟨rfl, hagree ps⟩

/-- A map of texts to integers. -/
def counts : Ty := .map .dict .str (.scalar { kind := .int }) true

theorem counts_agree : ∃ multi single deepObject,
    counts.unpacker ⟨{}, []⟩ ⟨"f", "p", .query⟩ { base := "query", explode := true } =
      .ok (.multi multi) ∧
    counts.unpacker ⟨{}, []⟩ ⟨"f", "p", .query⟩ { base := "query", delimiter := "::" } =
      .ok (.single single) ∧
    counts.unpacker ⟨{}, []⟩ ⟨"f", "p", .query⟩ { base := "query", deepObject := true } =
      .ok (.deepObject deepObject) ∧
    multi ["a=1", "b=2"] = .ok (.map [(.text "a", .int 1), (.text "b", .int 2)]) ∧
    single "a::1::b::2" = .ok (.map [(.text "a", .int 1), (.text "b", .int 2)]) ∧
    (deepObject [("a", ["1"]), ("b", ["2"])]).toOption =
      some (.map [(.text "a", .int 1), (.text "b", .int 2)]) := by
  have hue : counts.unpacker ⟨{}, []⟩ ⟨"f", "p", .query⟩ { base := "query", explode := true } =
      .ok (.multi _) := rfl
  have hud : counts.unpacker ⟨{}, []⟩ ⟨"f", "p", .query⟩ { base := "query", delimiter := "::" } =
      .ok (.single _) := rfl
  have huk : counts.unpacker ⟨{}, []⟩ ⟨"f", "p", .query⟩ { base := "query", deepObject := true } =
      .ok (.deepObject _) := rfl
  have hpairs : counts.HoldsPairs ⟨{}, []⟩ := ⟨trivial, trivial⟩
  obtain ⟨multi, single, deepObject, hmulti, hsingle, hdeep, hagree⟩ :=
    Ty.wire_forms_agree hpairs rfl ⟨rfl, rfl, rfl⟩ ⟨rfl, rfl, rfl, by decide⟩ ⟨rfl, rfl⟩ hue hud huk
  have hwritable : Writable "::" [("a", "1"), ("b", "2")] := by
    refine ⟨by decide, by decide, ?_, ?_⟩ <;> simp [Avoids]
  obtain ⟨hwhole, hkeys⟩ := hagree _ hwritable
  have hvalue : multi ["a=1", "b=2"] = .ok (.map [(.text "a", .int 1), (.text "b", .int 2)]) := by
    cases hmulti
    rfl
  refine ⟨multi, single, deepObject, hmulti ▸ hue, hsingle ▸ hud, hdeep ▸ huk, hvalue, ?_, ?_⟩
  · exact hwhole.trans hvalue
  · exact hkeys.trans (congrArg Except.toOption hvalue)

end ParamBinding
