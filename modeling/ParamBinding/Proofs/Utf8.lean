import ParamBinding.Text.Utf8

/-!
# Reading UTF-8 back

The UTF-8 form of a text is read back as the text, both by the decoder that fails at a flaw and by
the one that puts a replacement for it (`decodeUtf8List_utf8List`, `decodeUtf8Lossy_utf8List`). The
first step of either decoder reads the first character, whatever follows it (`utf8Step_utf8Char`):
one lemma for each number of bytes a character may have. ASCII texts have a byte for each character,
which is also their Latin-1 form.
-/

namespace ParamBinding.Text

/-! ### Bytes by their numbers -/

theorem toNat_byte {n : Nat} (h : n < 256) : (UInt8.ofNat n).toNat = n :=
  UInt8.toNat_ofNat_of_lt' h

theorem byte_lt_iff {n m : Nat} {b : UInt8} (hn : n < 256) (hb : b.toNat = m) :
    UInt8.ofNat n < b ↔ n < m := by
  rw [UInt8.lt_iff_toNat_lt, toNat_byte hn, hb]

theorem isContinuation_iff {b : UInt8} :
    isContinuation b = true ↔ 0x80 ≤ b.toNat ∧ b.toNat < 0xC0 := by
  rw [isContinuation, Bool.and_eq_true, decide_eq_true_eq, decide_eq_true_eq,
    UInt8.le_iff_toNat_le, UInt8.lt_iff_toNat_lt]
  rfl

/-- Which bytes may follow the first byte of a character of three or four bytes: four first bytes
leave out the forms that are too long, the surrogates, and what lies behind the last character. -/
theorem isSecond_iff {a b : UInt8} :
    isSecond a b = true ↔ (0x80 ≤ b.toNat ∧ b.toNat < 0xC0) ∧
      (a.toNat = 0xE0 → 0xA0 ≤ b.toNat) ∧ (a.toNat = 0xED → b.toNat < 0xA0) ∧
      (a.toNat = 0xF0 → 0x90 ≤ b.toNat) ∧ (a.toNat = 0xF4 → b.toNat < 0x90) := by
  have hbyte : ∀ k : UInt8, a = k ↔ a.toNat = k.toNat := fun k => UInt8.toNat_inj.symm
  have hE0 : (0xE0 : UInt8).toNat = 0xE0 := rfl
  have hED : (0xED : UInt8).toNat = 0xED := rfl
  have hF0 : (0xF0 : UInt8).toNat = 0xF0 := rfl
  have hF4 : (0xF4 : UInt8).toNat = 0xF4 := rfl
  have hA0 : (0xA0 : UInt8).toNat = 0xA0 := rfl
  have h90 : (0x90 : UInt8).toNat = 0x90 := rfl
  rw [isSecond, Bool.and_eq_true, isContinuation_iff]
  refine and_congr_right fun _ => ?_
  simp only [beq_iff_eq, hbyte, UInt8.le_iff_toNat_le, UInt8.lt_iff_toNat_lt, hE0, hED, hF0, hF4,
    hA0, h90]
  split
  · simp only [decide_eq_true_eq]
    omega
  split
  · simp only [decide_eq_true_eq]
    omega
  split
  · simp only [decide_eq_true_eq]
    omega
  split
  · simp only [decide_eq_true_eq]
    omega
  · simp only [true_iff]
    omega

/-! ### One character -/

section Char

variable {n : Nat} (rest : Bytes)

theorem utf8Step_one (h : n < 0x80) :
    utf8Step (UInt8.ofNat n) rest = .char (Char.ofNat n) 1 := by
  have ha := toNat_byte (n := n) (by omega)
  have hlow : UInt8.ofNat n < 0x80 := (byte_lt_iff (by omega) rfl).mpr h
  unfold utf8Step
  rw [if_pos hlow, ha]

/-- The bytes of characters of more than one byte that may stand first. -/
theorem not_startByte {a : UInt8} (h : 0xC2 ≤ a.toNat) (h' : a.toNat < 0xF5) :
    ¬ a < 0x80 ∧ ¬ (a < 0xC2 || 0xF5 ≤ a) = true := by
  rw [Bool.or_eq_true, decide_eq_true_eq, decide_eq_true_eq, UInt8.lt_iff_toNat_lt,
    UInt8.lt_iff_toNat_lt, UInt8.le_iff_toNat_le]
  have h80 : (0x80 : UInt8).toNat = 0x80 := rfl
  have hC2 : (0xC2 : UInt8).toNat = 0xC2 := rfl
  have hF5 : (0xF5 : UInt8).toNat = 0xF5 := rfl
  omega

theorem utf8Step_two (h : 0x80 ≤ n) (h' : n < 0x800) :
    utf8Step (UInt8.ofNat (0xC0 + n / 64)) (UInt8.ofNat (0x80 + n % 64) :: rest) =
      .char (Char.ofNat n) 2 := by
  have ha := toNat_byte (n := 0xC0 + n / 64) (by omega)
  have hb := toNat_byte (n := 0x80 + n % 64) (by omega)
  obtain ⟨hlow, hstart⟩ := not_startByte (a := UInt8.ofNat (0xC0 + n / 64)) (by omega) (by omega)
  have hshort : UInt8.ofNat (0xC0 + n / 64) < 0xE0 :=
    (byte_lt_iff (m := 0xE0) (by omega) rfl).mpr (by omega)
  have hcont := (isContinuation_iff (b := UInt8.ofNat (0x80 + n % 64))).mpr (by omega)
  have hn : (0xC0 + n / 64) % 32 * 64 + (0x80 + n % 64) % 64 = n := by omega
  unfold utf8Step
  rw [if_neg hlow, if_neg hstart]
  dsimp only
  rw [if_pos hshort, if_pos hcont, lowBits, ha, hb, hn]

theorem utf8Step_three (h : 0x800 ≤ n) (h' : n < 0x10000) (hvalid : n < 0xD800 ∨ 0xDFFF < n) :
    utf8Step (UInt8.ofNat (0xE0 + n / 4096))
        (UInt8.ofNat (0x80 + n / 64 % 64) :: UInt8.ofNat (0x80 + n % 64) :: rest) =
      .char (Char.ofNat n) 3 := by
  have ha := toNat_byte (n := 0xE0 + n / 4096) (by omega)
  have hb := toNat_byte (n := 0x80 + n / 64 % 64) (by omega)
  have hc := toNat_byte (n := 0x80 + n % 64) (by omega)
  obtain ⟨hlow, hstart⟩ :=
    not_startByte (a := UInt8.ofNat (0xE0 + n / 4096)) (by omega) (by omega)
  have hlong : ¬ UInt8.ofNat (0xE0 + n / 4096) < 0xE0 :=
    mt (byte_lt_iff (m := 0xE0) (by omega) rfl).mp (by omega)
  have hthree : UInt8.ofNat (0xE0 + n / 4096) < 0xF0 :=
    (byte_lt_iff (m := 0xF0) (by omega) rfl).mpr (by omega)
  have hsecond := (isSecond_iff (a := UInt8.ofNat (0xE0 + n / 4096))
    (b := UInt8.ofNat (0x80 + n / 64 % 64))).mpr (by omega)
  have hcont := (isContinuation_iff (b := UInt8.ofNat (0x80 + n % 64))).mpr (by omega)
  have hn : (0xE0 + n / 4096) % 16 * 4096 + (0x80 + n / 64 % 64) % 64 * 64 +
      (0x80 + n % 64) % 64 = n := by omega
  unfold utf8Step
  rw [if_neg hlow, if_neg hstart]
  dsimp only
  rw [if_neg hlong, hsecond, if_neg (by decide), hcont, if_neg (by decide), if_pos hthree, lowBits,
    lowBits, ha, hb, hc, hn]

theorem utf8Step_four (h : 0x10000 ≤ n) (h' : n < 0x110000) :
    utf8Step (UInt8.ofNat (0xF0 + n / 262144))
        (UInt8.ofNat (0x80 + n / 4096 % 64) :: UInt8.ofNat (0x80 + n / 64 % 64) ::
          UInt8.ofNat (0x80 + n % 64) :: rest) =
      .char (Char.ofNat n) 4 := by
  have ha := toNat_byte (n := 0xF0 + n / 262144) (by omega)
  have hb := toNat_byte (n := 0x80 + n / 4096 % 64) (by omega)
  have hc := toNat_byte (n := 0x80 + n / 64 % 64) (by omega)
  have hd := toNat_byte (n := 0x80 + n % 64) (by omega)
  obtain ⟨hlow, hstart⟩ :=
    not_startByte (a := UInt8.ofNat (0xF0 + n / 262144)) (by omega) (by omega)
  have hlong : ¬ UInt8.ofNat (0xF0 + n / 262144) < 0xE0 :=
    mt (byte_lt_iff (m := 0xE0) (by omega) rfl).mp (by omega)
  have hfour : ¬ UInt8.ofNat (0xF0 + n / 262144) < 0xF0 :=
    mt (byte_lt_iff (m := 0xF0) (by omega) rfl).mp (by omega)
  have hsecond := (isSecond_iff (a := UInt8.ofNat (0xF0 + n / 262144))
    (b := UInt8.ofNat (0x80 + n / 4096 % 64))).mpr (by omega)
  have hcont := (isContinuation_iff (b := UInt8.ofNat (0x80 + n / 64 % 64))).mpr (by omega)
  have hlast := (isContinuation_iff (b := UInt8.ofNat (0x80 + n % 64))).mpr (by omega)
  have hn : (0xF0 + n / 262144) % 8 * 262144 + (0x80 + n / 4096 % 64) % 64 * 4096 +
      (0x80 + n / 64 % 64) % 64 * 64 + (0x80 + n % 64) % 64 = n := by omega
  unfold utf8Step
  rw [if_neg hlow, if_neg hstart]
  dsimp only
  rw [if_neg hlong, hsecond, if_neg (by decide), hcont, if_neg (by decide), if_neg hfour]
  rw [if_pos hlast, lowBits, lowBits, lowBits, ha, hb, hc, hd, hn]

end Char

/-- Every character has a first byte. -/
theorem utf8Char_ne_nil (c : Char) : utf8Char c ≠ [] := by
  unfold utf8Char
  dsimp only
  repeat' split
  all_goals exact List.cons_ne_nil _ _

/-- **One character.** What stands first is read as the character whose UTF-8 form it is. -/
theorem utf8Step_utf8Char {c : Char} {b : UInt8} {bs : Bytes} (h : utf8Char c = b :: bs)
    (rest : Bytes) : utf8Step b (bs ++ rest) = .char c (bs.length + 1) := by
  have hvalid : c.toNat < 0xD800 ∨ 0xDFFF < c.toNat ∧ c.toNat < 0x110000 := c.valid
  have hc : Char.ofNat c.toNat = c := c.ofNat_toNat
  unfold utf8Char at h
  dsimp only at h
  split at h
  · cases h
    have hstep := utf8Step_one rest (n := c.toNat) ‹_›
    rwa [hc] at hstep
  split at h
  · cases h
    have hstep := utf8Step_two rest (n := c.toNat) (by omega) ‹_›
    rwa [hc] at hstep
  split at h
  · cases h
    have hstep := utf8Step_three rest (n := c.toNat) (by omega) ‹_› (by omega)
    rwa [hc] at hstep
  · cases h
    have hstep := utf8Step_four rest (n := c.toNat) (by omega) (by omega)
    rwa [hc] at hstep

/-! ### Texts -/

theorem utf8List_cons (c : Char) (cs : List Char) :
    utf8List (c :: cs) = utf8Char c ++ utf8List cs := by
  rw [utf8List, List.flatMap_cons]
  rfl

theorem decodeUtf8From_skip (position : Nat) (skipped rest : Bytes) :
    decodeUtf8From position skipped.length (skipped ++ rest) =
      decodeUtf8From (position + skipped.length) 0 rest := by
  induction skipped generalizing position with
  | nil => rfl
  | cons b skipped ih =>
    rw [List.length_cons, List.cons_append, decodeUtf8From, ih]
    congr 1
    omega

theorem decodeUtf8From_utf8List (position : Nat) (cs : List Char) :
    decodeUtf8From position 0 (utf8List cs) = .ok cs := by
  induction cs generalizing position with
  | nil => rfl
  | cons c cs ih =>
    rw [utf8List_cons]
    obtain ⟨b, bs, hc⟩ := List.exists_cons_of_ne_nil (utf8Char_ne_nil c)
    rw [hc, List.cons_append, decodeUtf8From, utf8Step_utf8Char hc]
    dsimp only
    rw [Nat.add_sub_cancel, decodeUtf8From_skip, ih]
    rfl

/-- A text is read back from its UTF-8 form without a flaw. -/
@[simp] theorem decodeUtf8List_utf8List (cs : List Char) :
    decodeUtf8List (utf8List cs) = .ok cs :=
  decodeUtf8From_utf8List 0 cs

theorem decodeUtf8LossyFrom_skip (skipped rest : Bytes) :
    decodeUtf8LossyFrom skipped.length (skipped ++ rest) = decodeUtf8LossyFrom 0 rest := by
  induction skipped with
  | nil => rfl
  | cons b skipped ih => rw [List.length_cons, List.cons_append, decodeUtf8LossyFrom, ih]

/-- A text is read back from its UTF-8 form without a replacement. -/
@[simp] theorem decodeUtf8Lossy_utf8List (cs : List Char) :
    decodeUtf8Lossy (utf8List cs) = cs := by
  unfold decodeUtf8Lossy
  induction cs with
  | nil => rfl
  | cons c cs ih =>
    rw [utf8List_cons]
    obtain ⟨b, bs, hc⟩ := List.exists_cons_of_ne_nil (utf8Char_ne_nil c)
    rw [hc, List.cons_append, decodeUtf8LossyFrom, utf8Step_utf8Char hc]
    dsimp only
    rw [Nat.add_sub_cancel, decodeUtf8LossyFrom_skip, ih]

/-! ### ASCII -/

theorem utf8Char_ascii {c : Char} (h : c.toNat < 128) : utf8Char c = [UInt8.ofNat c.toNat] := by
  unfold utf8Char
  exact if_pos h

/-- The UTF-8 form of an ASCII text is its Latin-1 form. -/
theorem latin1_utf8List {cs : List Char} (h : ∀ c ∈ cs, c.toNat < 128) :
    latin1 (utf8List cs) = cs := by
  induction cs with
  | nil => rfl
  | cons c cs ih =>
    have hc := h c List.mem_cons_self
    have hbyte : (UInt8.ofNat c.toNat).toNat = c.toNat := toNat_byte (by omega)
    rw [utf8List_cons, utf8Char_ascii hc, latin1, List.map_append, List.map_singleton, hbyte,
      c.ofNat_toNat]
    exact congrArg _ (ih fun x hx => h x (List.mem_cons_of_mem c hx))

end ParamBinding.Text
