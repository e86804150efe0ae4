import ParamBinding.Proofs.Capability
import ParamBinding.Proofs.KeyRoundTrip
import ParamBinding.Proofs.WireForms

/-!
# Ways to write lists

The texts of a list or a tuple reach it in one of two ways: exploded, as the occurrences of a
parameter, or delimited, as one text that is cut. A tag that explodes and one that does not are
given to builders that differ in this only, for the parts of a sequence are always built without
exploding: there is one decoder of the texts, and the tag says where they come from
(`Ty.exists_listDecoder`). What is cut is what was joined as long as no text has a character of the
delimiter (`Text.split_join`), so both ways give the same value or the same fault
(`Ty.sequence_forms_agree`).

A class that a reader is registered for is read by it from one text, and its texts do not come in
two ways. The texts of a list are given back as they are only where a reader that is registered for
texts does not change them.
-/

namespace ParamBinding

open ParamBinding.Text

/-! ### The decoder of the texts -/

section Sequences

variable {env : Env} {t : Ty} {site : Site} {tag : Tag} {b : Option Note} {noted : Option Ty}

/-- A list of any length or a tuple, perhaps optional and with notes. -/
def Ty.IsSequence (t : Ty) : Prop :=
  (∃ c e, t.core.shape = .slice c e) ∨ ∃ es, t.core.shape = .array es

/-- A list is built from the decoder of one element. -/
theorem Ty.build_slice_eq {c : Collection} {e : Ty} (hreader : t.core.reader? env.registry = none)
    (hshape : t.core.shape = .slice c e) (hcheck : site.checkCompound tag = .ok ())
    (hdeep : tag.deepObject = false) :
    Ty.build env t site tag (.plain b noted) =
      (Ty.build env e site tag.withoutExplode .own >>= site.element e).map
        fun elem => site.listUnpacker tag (gather c elem) := by
  obtain ⟨b', noted', hcore⟩ := Ty.build_core env site tag t b noted
  have hlist : (do
      site.checkCompound tag
      if tag.deepObject then .error (site.tagError .deepObjectOnSequence)
      else
        let eu ← Ty.build env e site tag.withoutExplode .own
        let elem ← site.element e eu
        .ok (site.listUnpacker tag (gather c elem))) =
      (Ty.build env e site tag.withoutExplode .own >>= site.element e).map
        fun elem => site.listUnpacker tag (gather c elem) := by
    rw [hcheck, hdeep]
    cases Ty.build env e site tag.withoutExplode .own with
    | error err => rfl
    | ok eu =>
      show (site.element e eu >>= _) = (site.element e eu).map _
      cases site.element e eu <;> rfl
  rw [Ty.reader?_core] at hreader
  rw [hcore]
  rcases Ty.core_eq_of_slice hshape with ⟨n, spelled, ht, rfl⟩ | ⟨builtin, form, ht, rfl⟩
  all_goals
    rw [ht] at hreader ⊢
    rw [Ty.build, Ty.readOr_of_none hreader]
    exact hlist

/-- No reader is registered for a tuple type. -/
theorem Ty.reader?_of_array {es : List Ty} (hshape : t.core.shape = .array es) :
    t.core.reader? env.registry = none := by
  obtain ⟨builtin, ht⟩ := Ty.core_eq_of_array hshape
  rw [ht]
  rfl

/-- A tuple is built from the decoders of its places. -/
theorem Ty.build_array_eq {es : List Ty} (hshape : t.core.shape = .array es)
    (hcheck : site.checkCompound tag = .ok ()) (hdeep : tag.deepObject = false) :
    Ty.build env t site tag (.plain b noted) =
      (Ty.buildSlots env es site tag.withoutExplode).map
        fun slots => site.listUnpacker tag (fillTuple slots) := by
  obtain ⟨b', noted', hcore⟩ := Ty.build_core env site tag t b noted
  obtain ⟨builtin, ht⟩ := Ty.core_eq_of_array hshape
  rw [hcore, ht, Ty.build, Ty.readOr_of_none rfl, hcheck, hdeep]
  cases Ty.buildSlots env es site tag.withoutExplode <;> rfl

/-- A parameter that may occur several times has lists written in any way. -/
theorem Site.checkCompound_of_repeats (hplace : site.place = .query ∨ site.place = .header) :
    site.checkCompound tag = .ok () := by
  rw [Site.checkCompound]
  rcases hplace with hquery | hheader
  · rw [hquery]
    rfl
  · rw [hheader]
    rfl

/-- **One decoder for both ways.** Whatever a tag says about exploding, a sequence is built from one
decoder of its texts, or is not built for one reason. -/
theorem Ty.exists_listDecoder (ht : t.IsSequence) (hreader : t.core.reader? env.registry = none)
    (hplace : site.place = .query ∨ site.place = .header) (hcontent : tag.content = "")
    (hdeep : tag.deepObject = false) :
    ∃ x : Except CompileError ListDecoder, ∀ tag' : Tag,
      tag'.withoutExplode = tag.withoutExplode →
        t.unpacker env site tag' = x.map (site.listUnpacker tag') := by
  have hcheck : ∀ tag' : Tag, site.checkCompound tag' = .ok () := fun _ =>
    Site.checkCompound_of_repeats hplace
  -- what is built depends on a tag only through what it says of the parts
  suffices hbuild : ∃ x : Except CompileError ListDecoder, ∀ tag' : Tag,
      tag'.withoutExplode = tag.withoutExplode → tag'.deepObject = false →
        Ty.build env t site tag' .own = x.map (site.listUnpacker tag') by
    obtain ⟨x, hx⟩ := hbuild
    refine ⟨x, fun tag' hsame => ?_⟩
    have hcontent' : tag'.content = "" := (congrArg Tag.content hsame).trans hcontent
    rw [Ty.unpacker_plain hcontent']
    exact hx tag' hsame ((congrArg Tag.deepObject hsame).trans hdeep)
  rcases ht with ⟨c, e, hshape⟩ | ⟨es, hshape⟩
  · refine ⟨(Ty.build env e site tag.withoutExplode .own >>= site.element e).map (gather c),
      fun tag' hsame hdeep' => ?_⟩
    refine (Ty.build_slice_eq hreader hshape (hcheck tag') hdeep').trans ?_
    rw [hsame]
    cases Ty.build env e site tag.withoutExplode .own >>= site.element e <;> rfl
  · refine ⟨(Ty.buildSlots env es site tag.withoutExplode).map fillTuple,
      fun tag' hsame hdeep' => ?_⟩
    refine (Ty.build_array_eq hshape (hcheck tag') hdeep').trans ?_
    rw [hsame]
    cases Ty.buildSlots env es site tag.withoutExplode <;> rfl

/-- A sequence type with a reader is read by it, whatever a tag says about exploding. -/
theorem Ty.unpacker_of_reader {reader : TextReader} (ht : t.IsSequence)
    (hreader : t.core.reader? env.registry = some reader) (hcontent : tag.content = "")
    (hdeep : tag.deepObject = false) : t.unpacker env site tag = .ok (.single reader.read) := by
  obtain ⟨b', noted', hcore⟩ := Ty.build_core env site tag t none none
  rcases ht with ⟨c, e, hshape⟩ | ⟨es, hshape⟩
  · rw [Ty.reader?_core] at hreader
    have hread : ∀ other, t.core.readOr env site tag other = .ok (.single reader.read) :=
      fun other => Ty.readOr_eq_ok.mpr (.inl ⟨reader, hreader, hdeep, rfl⟩)
    rw [Ty.unpacker_plain hcontent, Mode.own, hcore]
    rcases Ty.core_eq_of_slice hshape with ⟨n, spelled, ht, -⟩ | ⟨builtin, form, ht, -⟩
    all_goals
      rw [ht] at hread ⊢
      rw [Ty.build]
      exact hread _
  · rw [Ty.reader?_of_array hshape] at hreader
    cases hreader

/-- The texts of a list of texts are read as they are. -/
theorem Ty.unpacker_texts {n : SequenceName} (hkeeps : env.registry.KeepsTexts)
    (hlist : n.gathers = .list) (hplace : site.place = .query ∨ site.place = .header)
    (hcontent : tag.content = "") (hdeep : tag.deepObject = false) :
    (Ty.sequence n .str true).unpacker env site tag = .ok (site.listUnpacker tag keepTexts) := by
  have hstr : Ty.build env .str site tag.withoutExplode .own = .ok (.single keepText) :=
    Ty.build_str hkeeps hdeep
  have hshape : (Ty.sequence n .str true).core.shape = .slice n.gathers .str := rfl
  rw [Ty.unpacker_plain hcontent]
  refine (Ty.build_slice_eq rfl hshape (Site.checkCompound_of_repeats hplace) hdeep).trans ?_
  rw [hstr, hlist, ← gather_keepText]
  rfl

end Sequences

/-! ### Both ways -/

/-- Texts that a delimiter can be put between: there is one, and none has a character of it. -/
structure Joinable (delimiter : String) (vs : List String) : Prop where
  ne_nil : vs ≠ []
  avoids : ∀ v ∈ vs, Avoids delimiter.toList v.toList

theorem Joinable.split_join {delimiter : String} {vs : List String} (h : Joinable delimiter vs)
    (hdelimiter : delimiter ≠ "") : split delimiter (join delimiter vs) = vs :=
  Text.split_join hdelimiter h.ne_nil h.avoids

/-- A tag with which the occurrences of a parameter are taken one by one. -/
def Tag.withExplode (tag : Tag) : Tag := { tag with explode := true }

section Forms

variable {env : Env} {t : Ty} {site : Site} {tag : Tag}

theorem Site.listUnpacker_withExplode (hplace : site.place = .query ∨ site.place = .header)
    (d : ListDecoder) : site.listUnpacker tag.withExplode d = .multi d := by
  rw [Site.listUnpacker, Site.explodes]
  rcases hplace with hquery | hheader
  · rw [hquery]
    rfl
  · rw [hheader]
    rfl

theorem Site.listUnpacker_withoutExplode (d : ListDecoder) :
    site.listUnpacker tag.withoutExplode d = .single fun v => d (split tag.delimiter v) := by
  rw [Site.listUnpacker, Site.explodes_withoutExplode]
  rfl

/-- Without a reader for its type a sequence is built in both ways from one decoder, which takes the
occurrences or what a text is cut into. -/
theorem Ty.exists_forms (ht : t.IsSequence) (hreader : t.core.reader? env.registry = none)
    (hplace : site.place = .query ∨ site.place = .header) (hcontent : tag.content = "")
    (hdeep : tag.deepObject = false) :
    ∃ x : Except CompileError ListDecoder,
      t.unpacker env site tag.withExplode = x.map .multi ∧
      t.unpacker env site tag.withoutExplode =
        x.map fun d => .single fun v => d (split tag.delimiter v) := by
  obtain ⟨x, hx⟩ := Ty.exists_listDecoder ht hreader hplace hcontent hdeep
  refine ⟨x, (hx tag.withExplode rfl).trans ?_, (hx tag.withoutExplode rfl).trans ?_⟩
  · rw [funext (Site.listUnpacker_withExplode hplace)]
  · rw [funext Site.listUnpacker_withoutExplode]

end Forms

/-- **Both ways agree.** A parameter of a list or tuple type is built exploded exactly when it is
built delimited, and fails for the same reason. Unless there is a reader for its type, which then
reads one text either way, the one takes the texts and the other takes them with delimiters between
them, and both give the same value for them or the same fault. A delimited list of texts gives them
back, where a reader that is registered for texts leaves them as they are. -/
theorem Ty.sequence_forms_agree {env : Env} {t : Ty} {site : Site} {tag : Tag}
    (ht : t.IsSequence) (hplace : site.place = .query ∨ site.place = .header)
    (hcontent : tag.content = "") (hdeep : tag.deepObject = false)
    (hdelimiter : tag.delimiter ≠ "") :
    let exploded := t.unpacker env site tag.withExplode
    let delimited := t.unpacker env site tag.withoutExplode
    (∀ e, exploded = .error e ↔ delimited = .error e) ∧
    (∀ ue ud, exploded = .ok ue → delimited = .ok ud →
      (∃ reader, t.core.reader? env.registry = some reader ∧
        ue = .single reader.read ∧ ud = .single reader.read) ∨
      (t.core.reader? env.registry = none ∧
        ∃ multi single, ue = .multi multi ∧ ud = .single single ∧
          ∀ vs, Joinable tag.delimiter vs → single (join tag.delimiter vs) = multi vs)) ∧
    (env.registry.KeepsTexts → ∀ n : SequenceName, n.gathers = .list →
      ∃ single, (Ty.sequence n .str true).unpacker env site tag.withoutExplode =
          .ok (.single single) ∧
        ∀ vs, Joinable tag.delimiter vs →
          single (join tag.delimiter vs) = .ok (.list (vs.map .text))) := by
  have hread : ∀ reader, t.core.reader? env.registry = some reader →
      t.unpacker env site tag.withExplode = .ok (.single reader.read) ∧
        t.unpacker env site tag.withoutExplode = .ok (.single reader.read) := by
    intro reader hreader
    constructor <;> exact Ty.unpacker_of_reader ht hreader hcontent hdeep
  refine ⟨fun e => ?_, fun ue ud hue hud => ?_, fun hkeeps n hlist => ?_⟩
  · cases hreader : t.core.reader? env.registry with
    | some reader => rw [(hread reader hreader).1, (hread reader hreader).2]
    | none =>
      obtain ⟨x, hx, hx'⟩ := Ty.exists_forms ht hreader hplace hcontent hdeep
      rw [hx, hx', map_eq_error, map_eq_error]
  · cases hreader : t.core.reader? env.registry with
    | some reader =>
      rw [(hread reader hreader).1] at hue
      rw [(hread reader hreader).2] at hud
      cases hue
      cases hud
      exact .inl ⟨reader, rfl, rfl, rfl⟩
    | none =>
      obtain ⟨x, hx, hx'⟩ := Ty.exists_forms ht hreader hplace hcontent hdeep
      rw [hx] at hue
      rw [hx'] at hud
      obtain ⟨d, rfl, rfl⟩ := map_eq_ok.mp hue
      cases hud
      refine .inr ⟨rfl, d, _, rfl, rfl, fun vs hvs => ?_⟩
      rw [hvs.split_join hdelimiter]
  · have hbuilt : (Ty.sequence n .str true).unpacker env site tag.withoutExplode =
        .ok (site.listUnpacker tag.withoutExplode keepTexts) :=
      Ty.unpacker_texts hkeeps hlist hplace hcontent hdeep
    rw [Site.listUnpacker_withoutExplode] at hbuilt
    refine ⟨_, hbuilt, fun vs hvs => ?_⟩
    rw [hvs.split_join hdelimiter]
    rfl

/-- A list of integers that may be left out. -/
def sizes : Ty := .optional .named (.sequence .list (.scalar { kind := .int }) true)

/-- Two sizes, written with a delimiter that begins like it ends. -/
theorem sizes_agree : ∃ multi single,
    sizes.unpacker ⟨{}, []⟩ ⟨"f", "p", .header⟩
        { base := "header", delimiter := "|.|", explode := true } = .ok (.multi multi) ∧
      sizes.unpacker ⟨{}, []⟩ ⟨"f", "p", .header⟩
        { base := "header", delimiter := "|.|", explode := false } = .ok (.single single) ∧
      multi ["1", "-2"] = .ok (.list [.int 1, .int (-2)]) ∧
      single "1|.|-2" = .ok (.list [.int 1, .int (-2)]) := by
  have hue : sizes.unpacker ⟨{}, []⟩ ⟨"f", "p", .header⟩
      { base := "header", delimiter := "|.|", explode := true } = .ok (.multi _) := rfl
  have hud : sizes.unpacker ⟨{}, []⟩ ⟨"f", "p", .header⟩
      { base := "header", delimiter := "|.|", explode := false } = .ok (.single _) := rfl
  obtain ⟨-, hagree, -⟩ := @Ty.sequence_forms_agree ⟨{}, []⟩ sizes ⟨"f", "p", .header⟩
    { base := "header", delimiter := "|.|" } (.inl ⟨_, _, rfl⟩) (.inr rfl) rfl rfl (by decide)
  rcases hagree _ _ hue hud with ⟨reader, hreader, -⟩ | ⟨-, multi, single, hmulti, hsingle, hvalue⟩
  · cases hreader
  have hjoinable : Joinable "|.|" ["1", "-2"] := ⟨by decide, by simp [Avoids]⟩
  have hmultiple : multi ["1", "-2"] = .ok (.list [.int 1, .int (-2)]) := by
    cases hmulti
    rfl
  exact ⟨multi, single, hmulti ▸ hue, hsingle ▸ hud, hmultiple,
    (hvalue _ hjoinable).trans hmultiple⟩

/-- With a reader that makes texts their lengths a delimited list does not give its texts back, and
when it is registered for a class of lists there is nothing that takes the texts one by one. -/
theorem lengths_in_place_of_texts :
    (¬ ∀ (env : Env) (site : Site) (tag : Tag) (single : TextDecoder),
      site.place = .query ∨ site.place = .header → tag.content = "" → tag.deepObject = false →
      tag.delimiter ≠ "" →
      (Ty.sequence .list .str true).unpacker env site tag.withoutExplode =
        .ok (.single single) →
      ∀ vs, Joinable tag.delimiter vs →
        single (join tag.delimiter vs) = .ok (.list (vs.map .text))) ∧
    ¬ ∀ (env : Env) (t : Ty) (site : Site) (tag : Tag) (ue : Unpacker),
      t.IsSequence → site.place = .query ∨ site.place = .header → tag.content = "" →
      tag.deepObject = false → tag.delimiter ≠ "" →
      t.unpacker env site tag.withExplode = .ok ue → ∃ multi, ue = .multi multi := by
  constructor
  · intro hall
    have hjoinable : Joinable "," ["x"] := ⟨by decide, by simp [Avoids]⟩
    have hlist := hall ⟨{}, [("str", Sample.length)]⟩ ⟨"f", "p", .query⟩ { base := "query" } _
      (.inl rfl) rfl rfl (by decide) rfl ["x"] hjoinable
    have hlength : (Except.ok (.list [.int 1]) : Except Fault Value) = .ok (.list [.text "x"]) :=
      hlist
    cases hlength
  · intro hall
    obtain ⟨multi, hmulti⟩ := hall ⟨{}, [("list", Sample.length)]⟩
      (.sequence .builtinList .str false) ⟨"f", "p", .query⟩ { base := "query" } (.single Sample.length.read) (.inl ⟨_, _, rfl⟩)
      (.inl rfl) rfl rfl (by decide) rfl
    cases hmulti

end ParamBinding
