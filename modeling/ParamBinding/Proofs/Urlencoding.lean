import ParamBinding.Proofs.Cutting
import ParamBinding.Proofs.Fallible
import ParamBinding.Proofs.Utf8
import ParamBinding.Request.Basic

/-!
# Urlencoded data read back

There are many ways to write a text in a query or in a form, and all of them are read back as the
text (`WritesText`, `decodeText_written`): an ASCII character stands for itself unless it means
something else there, a space may be a plus sign, and any character may be written as the escapes of
its UTF-8 bytes, with digits of either case. So pairs that are written one after another, with
ampersands between them, are read back as these pairs in this order (`parse_written`).

One way to write texts is `encode`, which escapes everything but the characters that never mean
anything else.
-/

namespace ParamBinding.Urlencoded

open ParamBinding.Text

/-! ### How texts are written -/

/-- The characters that mean something else than themselves. -/
def special : List Char := ['%', '+', '&', '=']

theorem not_mem_special {c : Char} :
    c ∉ special ↔ c ≠ '%' ∧ c ≠ '+' ∧ c ≠ '&' ∧ c ≠ '=' := by
  simp [special]

/-- Bytes are written as escapes, with digits of either case. -/
inductive WritesBytes : Bytes → List Char → Prop where
  | nil : WritesBytes [] []
  | cons {b : UInt8} {bs : Bytes} {high low : Char} {cs : List Char}
      (hhigh : hexDigit? high = some (b.toNat / 16)) (hlow : hexDigit? low = some (b.toNat % 16))
      (hrest : WritesBytes bs cs) : WritesBytes (b :: bs) ('%' :: high :: low :: cs)

/-- A character is written as itself, as a plus sign, or as the escapes of its bytes. -/
inductive WritesChar : Char → List Char → Prop where
  | plain {c : Char} (hascii : c.toNat < 128) (hfree : c ∉ special) : WritesChar c [c]
  | plus : WritesChar ' ' ['+']
  | escaped {c : Char} {cs : List Char} (h : WritesBytes (utf8Char c) cs) : WritesChar c cs

/-- A text is written character by character. -/
inductive WritesText : List Char → List Char → Prop where
  | nil : WritesText [] []
  | cons {c : Char} {cs text written : List Char} (hc : WritesChar c cs)
      (hrest : WritesText text written) : WritesText (c :: text) (cs ++ written)

/-- A pair is written as its name, an equals sign and its value. -/
def WritesPair (pair : String × String) (piece : List Char) : Prop :=
  ∃ name value, WritesText pair.1.toList name ∧ WritesText pair.2.toList value ∧
    piece = name ++ '=' :: value

/-- No ampersand or equals sign, and nothing outside ASCII. -/
def Clean (cs : List Char) : Prop := ∀ c ∈ cs, c.toNat < 128 ∧ c ≠ '&' ∧ c ≠ '='

theorem Clean.append {cs ds : List Char} (h : Clean cs) (h' : Clean ds) : Clean (cs ++ ds) :=
  fun c hc => (List.mem_append.mp hc).elim (h c) (h' c)

/-- A hexadecimal digit is in ASCII and means itself. -/
theorem clean_digit {c : Char} {n : Nat} (h : hexDigit? c = some n) :
    c.toNat < 128 ∧ c ∉ special := by
  constructor
  · unfold hexDigit? at h
    simp only [Bool.and_eq_true, decide_eq_true_eq] at h
    repeat' split at h
    all_goals first | omega | cases h
  · intro hspecial
    have hnone : special.all (hexDigit? · = none) := by decide
    rw [of_decide_eq_true (List.all_eq_true.mp hnone c hspecial)] at h
    cases h

theorem WritesBytes.clean {bs : Bytes} {cs : List Char} (h : WritesBytes bs cs) : Clean cs := by
  have hdigit : ∀ {c n}, hexDigit? c = some n → c.toNat < 128 ∧ c ≠ '&' ∧ c ≠ '=' := by
    intro c n hc
    obtain ⟨hascii, hfree⟩ := clean_digit hc
    exact ⟨hascii, (not_mem_special.mp hfree).2.2⟩
  induction h with
  | nil => simp [Clean]
  | cons hhigh hlow _ ih =>
    intro c hc
    rcases List.mem_cons.mp hc with rfl | hc
    · decide
    rcases List.mem_cons.mp hc with rfl | hc
    · exact hdigit hhigh
    rcases List.mem_cons.mp hc with rfl | hc
    · exact hdigit hlow
    · exact ih c hc

theorem WritesText.clean {text written : List Char} (h : WritesText text written) :
    Clean written := by
  induction h with
  | nil => simp [Clean]
  | cons hc _ ih =>
    refine Clean.append ?_ ih
    cases hc with
    | plain hascii hfree =>
      intro c hmem
      rw [List.mem_singleton.mp hmem]
      exact ⟨hascii, (not_mem_special.mp hfree).2.2⟩
    | plus =>
      intro c hmem
      rw [List.mem_singleton.mp hmem]
      decide
    | escaped hbytes => exact hbytes.clean

theorem WritesPair.ne_nil {pair : String × String} {piece : List Char} (h : WritesPair pair piece) :
    piece ≠ [] := by
  obtain ⟨name, value, -, -, rfl⟩ := h
  simp

/-- No pair holds the ampersand that separates pairs, and all are in ASCII. -/
theorem WritesPair.clean {pair : String × String} {piece : List Char} (h : WritesPair pair piece) :
    ∀ c ∈ piece, c.toNat < 128 ∧ c ≠ '&' := by
  obtain ⟨name, value, hname, hvalue, rfl⟩ := h
  intro c hc
  rcases List.mem_append.mp hc with hc | hc
  · obtain ⟨hascii, hfree, -⟩ := hname.clean c hc
    exact ⟨hascii, hfree⟩
  rcases List.mem_cons.mp hc with rfl | hc
  · decide
  · obtain ⟨hascii, hfree, -⟩ := hvalue.clean c hc
    exact ⟨hascii, hfree⟩

/-! ### Reading escapes -/

/-- What a character stands for before escapes are read. -/
def plusToSpace (c : Char) : Char := if c = '+' then ' ' else c

theorem plusToSpace_of_ne {c : Char} (h : c ≠ '+') : plusToSpace c = c := if_neg h

theorem plusToSpace_digit {c : Char} {n : Nat} (h : hexDigit? c = some n) : plusToSpace c = c := by
  refine plusToSpace_of_ne ?_
  rintro rfl
  cases h

/-- An escape is read as its byte, whatever follows it. -/
theorem unescapeFrom_escape {b : UInt8} {high low : Char}
    (hhigh : hexDigit? high = some (b.toNat / 16)) (hlow : hexDigit? low = some (b.toNat % 16))
    (rest : List Char) :
    unescapeFrom 0 ('%' :: high :: low :: rest) = b :: unescapeFrom 0 rest := by
  have hbyte : 16 * (b.toNat / 16) + b.toNat % 16 = b.toNat := Nat.div_add_mod b.toNat 16
  have hescape : escape? (high :: low :: rest) = some b := by
    rw [escape?, hhigh, hlow]
    show some (UInt8.ofNat (16 * (b.toNat / 16) + b.toNat % 16)) = some b
    rw [hbyte, UInt8.ofNat_toNat]
  rw [unescapeFrom, if_pos rfl, hescape]
  rfl

theorem unescapeFrom_bytes {bs : Bytes} {cs : List Char} (h : WritesBytes bs cs)
    (rest : List Char) :
    unescapeFrom 0 ((cs ++ rest).map plusToSpace) =
      bs ++ unescapeFrom 0 (rest.map plusToSpace) := by
  induction h with
  | nil => rfl
  | cons hhigh hlow _ ih =>
    have hpercent : plusToSpace '%' = '%' := rfl
    rw [List.cons_append, List.cons_append, List.cons_append, List.map_cons, List.map_cons,
      List.map_cons, hpercent, plusToSpace_digit hhigh, plusToSpace_digit hlow,
      unescapeFrom_escape hhigh hlow, ih, List.cons_append]

/-- **One character.** What it is written as is read as the bytes of its UTF-8 form. -/
theorem unescapeFrom_char {c : Char} {cs : List Char} (h : WritesChar c cs) (rest : List Char) :
    unescapeFrom 0 ((cs ++ rest).map plusToSpace) =
      utf8Char c ++ unescapeFrom 0 (rest.map plusToSpace) := by
  cases h with
  | plain hascii hfree =>
    obtain ⟨hpercent, hplus, -⟩ := not_mem_special.mp hfree
    rw [List.singleton_append, List.map_cons, plusToSpace_of_ne hplus, unescapeFrom,
      if_neg hpercent, utf8Char_ascii hascii, List.singleton_append]
  | plus => rfl
  | escaped hbytes => exact unescapeFrom_bytes hbytes rest

theorem unescapeFrom_text {text written : List Char} (h : WritesText text written) :
    unescapeFrom 0 (written.map plusToSpace) = utf8List text := by
  induction h with
  | nil => rfl
  | cons hc _ ih => rw [unescapeFrom_char hc, ih, utf8List_cons]

/-- A run of ASCII characters is decoded as a whole. -/
theorem decodeRuns_ascii {cs : List Char} (h : ∀ c ∈ cs, c.toNat < 128) (run : List Char) :
    decodeRuns run cs = decodeRun (run.reverse ++ cs) := by
  induction cs generalizing run with
  | nil => rw [decodeRuns, List.append_nil]
  | cons c cs ih =>
    rw [decodeRuns, if_pos (h c List.mem_cons_self),
      ih fun x hx => h x (List.mem_cons_of_mem c hx), List.reverse_cons, List.append_assoc]
    rfl

/-- **Written texts are read back.** -/
theorem decodeText_written {text written : List Char} (h : WritesText text written) :
    decodeText written = text := by
  have hascii : ∀ c ∈ written.map plusToSpace, c.toNat < 128 := by
    intro c hc
    obtain ⟨d, hd, rfl⟩ := List.mem_map.mp hc
    unfold plusToSpace
    split
    · decide
    · exact (h.clean d hd).1
  show decodeRuns [] (written.map plusToSpace) = text
  rw [decodeRuns_ascii hascii, List.reverse_nil, List.nil_append, decodeRun, unescape,
    unescapeFrom_text h, decodeUtf8Lossy_utf8List]

/-! ### Reading pairs -/

theorem decodePair_written {pair : String × String} {piece : List Char}
    (h : WritesPair pair piece) : decodePair piece = pair := by
  obtain ⟨name, value, hname, hvalue, rfl⟩ := h
  have hbare : '=' ∉ name := fun hmem => (hname.clean '=' hmem).2.2 rfl
  rw [decodePair, cutAt_append value hbare]
  simp only [Option.getD_some, decodeText_written hname, decodeText_written hvalue,
    String.ofList_toList]

section Pairs

variable {items : List (String × String)} {pieces : List (List Char)}
  (h : List.Forall₂ WritesPair items pieces)
include h

/-- Every piece is a pair as it is written. -/
theorem exists_pair_of_mem {piece : List Char} (hpiece : piece ∈ pieces) :
    ∃ item, WritesPair item piece := by
  induction h with
  | nil => cases hpiece
  | cons hfirst _ ih =>
    rcases List.mem_cons.mp hpiece with rfl | hpiece
    · exact ⟨_, hfirst⟩
    · exact ih hpiece

/-- **Written pairs are read back**, in the order in which they stand. -/
theorem parse_written : parse (joinWith ['&'] pieces) = items := by
  by_cases hnil : pieces = []
  · subst hnil
    cases h
    rfl
  have hsplit : splitOn ['&'] (joinWith ['&'] pieces) = pieces := by
    refine splitOn_joinWith (by decide) hnil fun piece hpiece c hc hsep => ?_
    obtain ⟨item, hitem⟩ := exists_pair_of_mem h hpiece
    exact (hitem.clean c hc).2 (List.mem_singleton.mp hsep)
  have hfilter : pieces.filter (!·.isEmpty) = pieces := by
    refine List.filter_eq_self.mpr fun piece hpiece => ?_
    obtain ⟨item, hitem⟩ := exists_pair_of_mem h hpiece
    rw [List.isEmpty_eq_false_iff.mpr hitem.ne_nil]
    rfl
  have hdecode : items.map id = pieces.map decodePair :=
    map_eq_map_of_forall₂ h fun _ _ hitem => (decodePair_written hitem).symm
  rw [parse, hsplit, hfilter, ← hdecode, List.map_id]

end Pairs

theorem joinWith_ascii {pieces : List (List Char)} (h : ∀ p ∈ pieces, ∀ c ∈ p, c.toNat < 128) :
    ∀ c ∈ joinWith ['&'] pieces, c.toNat < 128 := by
  induction pieces with
  | nil => simp [joinWith]
  | cons p pieces ih =>
    have hp := h p List.mem_cons_self
    have hrest := ih fun q hq => h q (List.mem_cons_of_mem p hq)
    cases pieces with
    | nil => exact hp
    | cons q pieces =>
      intro c hc
      rw [joinWith, List.mem_append, List.mem_append, List.mem_singleton] at hc
      rcases hc with (hc | rfl) | hc
      · exact hp c hc
      · decide
      · exact hrest c hc

/-- The pairs of a query are those that are written in it. -/
theorem queryPairs_written {items : List (String × String)} {pieces : List (List Char)}
    (h : List.Forall₂ WritesPair items pieces) {r : Request} (hreads : r.ReadsPairs)
    (hquery : r.query = utf8List (joinWith ['&'] pieces)) : r.queryPairs = items := by
  have hascii : ∀ p ∈ pieces, ∀ c ∈ p, c.toNat < 128 := by
    intro p hp c hc
    obtain ⟨item, hitem⟩ := exists_pair_of_mem h hp
    exact (hitem.clean c hc).1
  rw [hreads, hquery, latin1_utf8List (joinWith_ascii hascii), parse_written h]

/-! ### One way to write texts -/

/-- A hexadecimal digit by its value. -/
def hexDigitOf (n : Nat) : Char := Char.ofNat (if n < 10 then 48 + n else 55 + n)

theorem hexDigit?_hexDigitOf : ∀ n < 16, hexDigit? (hexDigitOf n) = some n := by decide

/-- The escapes of some bytes. -/
def escape (bs : Bytes) : List Char :=
  bs.flatMap fun b => ['%', hexDigitOf (b.toNat / 16), hexDigitOf (b.toNat % 16)]

/-- Whether a character never means anything but itself. -/
def isUnreserved (c : Char) : Bool :=
  c.isAlphanum || ['_', '.', '-', '~'].contains c

/-- A character as it is written by `encode`. -/
def encodeChar (c : Char) : List Char :=
  if isUnreserved c then [c] else if c = ' ' then ['+'] else escape (utf8Char c)

/-- A text with escapes for all but a few characters. -/
def encode (s : String) : List Char := s.toList.flatMap encodeChar

/-- A pair with its name and value encoded. -/
def encodePair (pair : String × String) : List Char := encode pair.1 ++ '=' :: encode pair.2

/-- A query, or the body of a form, with some pairs. -/
def encodePairs (items : List (String × String)) : Bytes :=
  utf8List (joinWith ['&'] (items.map encodePair))

theorem writesBytes_escape (bs : Bytes) : WritesBytes bs (escape bs) := by
  induction bs with
  | nil => exact .nil
  | cons b bs ih =>
    have hb : b.toNat < 256 := b.toNat_lt
    exact .cons (hexDigit?_hexDigitOf _ (by omega)) (hexDigit?_hexDigitOf _ (by omega)) ih

theorem isUnreserved_ascii {c : Char} (h : isUnreserved c = true) :
    c.toNat < 128 ∧ c ∉ special := by
  constructor
  · rw [isUnreserved, Bool.or_eq_true, List.contains_iff_mem] at h
    rcases h with h | h
    · have hranges : c.isAlphanum =
          (decide ('A'.val ≤ c.val ∧ c.val ≤ 'Z'.val) ||
            (decide ('a'.val ≤ c.val) && decide (c.val ≤ 'z'.val)) ||
            (decide ('0'.val ≤ c.val) && decide (c.val ≤ '9'.val))) := rfl
      simp only [hranges, Bool.or_eq_true, Bool.and_eq_true, decide_eq_true_eq,
        UInt32.le_iff_toNat_le] at h
      have hval : c.toNat = c.val.toNat := rfl
      rcases h with (⟨-, h⟩ | ⟨-, h⟩) | ⟨-, h⟩
      · have hz : 'Z'.val.toNat = 90 := rfl
        omega
      · have hz : 'z'.val.toNat = 122 := rfl
        omega
      · have hz : '9'.val.toNat = 57 := rfl
        omega
    · simp only [List.mem_cons, List.not_mem_nil, or_false] at h
      rcases h with rfl | rfl | rfl | rfl <;> decide
  · intro hspecial
    have hnone : special.all (isUnreserved · = false) := by decide
    rw [of_decide_eq_true (List.all_eq_true.mp hnone c hspecial)] at h
    cases h

theorem writesChar_encodeChar (c : Char) : WritesChar c (encodeChar c) := by
  unfold encodeChar
  split
  · rename_i h
    exact .plain (isUnreserved_ascii h).1 (isUnreserved_ascii h).2
  split
  · rename_i h
    subst h
    exact .plus
  · exact .escaped (writesBytes_escape _)

/-- Every text can be written. -/
theorem writesText_encode (s : String) : WritesText s.toList (encode s) := by
  unfold encode
  induction s.toList with
  | nil => exact .nil
  | cons c cs ih => exact .cons (writesChar_encodeChar c) ih

theorem writesPair_encodePair (pair : String × String) : WritesPair pair (encodePair pair) :=
  ⟨_, _, writesText_encode pair.1, writesText_encode pair.2, rfl⟩

theorem writesPairs_encodePairs (items : List (String × String)) :
    List.Forall₂ WritesPair items (items.map encodePair) := by
  rw [List.forall₂_map_right_iff, List.forall₂_same]
  exact fun pair _ => writesPair_encodePair pair

end ParamBinding.Urlencoded
