import ParamBinding.Proofs.Builders
import ParamBinding.Proofs.Pieces
import ParamBinding.Ty.Construct

/-!
# Integers and their numerals

A numeral is a sign, or none, and at least one digit of ASCII (`Numeral`). The strict reader of
integers takes the numerals and nothing else, and gives the integer that their digits stand for in
base ten, as long as there are not too many of them (`IntText.readList_chars`,
`IntText.readList_eq_notNumeral`). An integer with bounds has to be within them besides. So the
texts that are read as an integer of a number of bits are known exactly, and the decimal form of
every such integer is one of them (`Ty.integers_read`). A parameter of integers has just this
reader for its one text, if no other one is registered (`Ty.unpacker_intOf`).
-/

namespace ParamBinding

open ParamBinding.Text

/-! ### Numerals -/

namespace IntText

/-- A sign that a numeral is written with, if it is written with one. -/
inductive Sign where
  | absent
  | plus
  | minus
  deriving DecidableEq, Repr

/-- How a sign is written. -/
def Sign.chars : Sign → List Char
  | absent => []
  | plus => ['+']
  | minus => ['-']

/-- A numeral of base ten. -/
structure Numeral where
  sign : Sign
  digits : List Char
  ne_nil : digits ≠ []
  decimal : ∀ c ∈ digits, c.isDigit = true

namespace Numeral

/-- The numeral as it is written. -/
def chars (m : Numeral) : List Char := m.sign.chars ++ m.digits

/-- The number that the digits stand for. -/
def magnitude (m : Numeral) : Nat := Nat.ofDigitChars 10 m.digits 0

/-- The integer that the numeral stands for. -/
def value (m : Numeral) : Int :=
  match m.sign with
  | .minus => -m.magnitude
  | _ => m.magnitude

end Numeral

theorem asciiDigit?_eq_some {c : Char} {d : Nat} :
    asciiDigit? c = some d ↔ c.isDigit = true ∧ d = c.toNat - 48 := by
  have hdigit : c.isDigit = true ↔ 48 ≤ c.toNat ∧ c.toNat ≤ 57 := Char.isDigit_iff_toNat
  rw [asciiDigit?, hdigit]
  simp only [Bool.and_eq_true, decide_eq_true_eq]
  split
  · rename_i hc
    rw [Option.some.injEq, eq_comm, and_iff_right hc]
  · rename_i hc
    exact iff_of_false nofun fun h => hc h.1

/-- The values of the characters of a text, if all of them are digits. -/
theorem mapM_asciiDigit? (cs : List Char) :
    cs.mapM asciiDigit? =
      if cs.all Char.isDigit then some (cs.map fun c => c.toNat - 48) else none := by
  induction cs with
  | nil => rfl
  | cons c cs ih =>
    rw [List.mapM_cons, ih, List.all_cons]
    cases hc : c.isDigit with
    | true =>
      rw [asciiDigit?_eq_some.mpr ⟨hc, rfl⟩]
      cases cs.all Char.isDigit <;> rfl
    | false =>
      have hnone : asciiDigit? c = none := by
        rw [Option.eq_none_iff_forall_ne_some]
        intro d hd
        rw [(asciiDigit?_eq_some.mp hd).1] at hc
        cases hc
      rw [hnone]
      rfl

/-- Both ways to put digits together give the same number. -/
theorem ofDigits_toNat (cs : List Char) :
    ofDigits 10 (cs.map fun c => c.toNat - 48) = Nat.ofDigitChars 10 cs 0 := by
  rw [ofDigits, List.foldl_map, Nat.ofDigitChars_eq_foldl]
  refine congrArg (fun step => List.foldl step 0 cs) (funext fun n => funext fun c => ?_)
  rw [Nat.mul_comm]
  rfl

/-- A sign is taken off a text that goes on without one. -/
theorem splitSign_append (sign : Sign) {cs : List Char} (h : ∀ c ∈ cs.head?, c ≠ '-' ∧ c ≠ '+') :
    splitSign (sign.chars ++ cs) = (sign == .minus, cs) := by
  cases sign with
  | absent =>
    show splitSign cs = _
    unfold splitSign
    split
    · exact absurd rfl (h '-' rfl).1
    · exact absurd rfl (h '+' rfl).2
    · rfl
  | plus => rfl
  | minus => rfl

theorem splitSign_chars (m : Numeral) : splitSign m.chars = (m.sign == .minus, m.digits) := by
  refine splitSign_append m.sign fun c hc => ?_
  have hdigit := m.decimal c (List.mem_of_mem_head? hc)
  constructor <;> rintro rfl <;> exact absurd hdigit (by decide)

theorem Numeral.value_eq (m : Numeral) : m.value = signed (m.sign == .minus) m.magnitude := by
  unfold value
  cases m.sign <;> rfl

section Congr

variable {m m' : Numeral} (h : m.chars = m'.chars)
include h

theorem Numeral.digits_congr : m.digits = m'.digits := by
  have hsplit := congrArg splitSign h
  rw [splitSign_chars, splitSign_chars] at hsplit
  exact congrArg Prod.snd hsplit

/-- What a numeral stands for is seen from how it is written. -/
theorem Numeral.value_congr : m.value = m'.value := by
  have hsplit := congrArg splitSign h
  rw [splitSign_chars, splitSign_chars] at hsplit
  have hsign : (m.sign == .minus) = (m'.sign == .minus) := congrArg Prod.fst hsplit
  rw [value_eq, value_eq, hsign, magnitude, magnitude, digits_congr h]

end Congr

/-- A text is a sign, or none, and what is left when it is taken off. -/
theorem exists_sign (cs : List Char) : ∃ sign : Sign, cs = sign.chars ++ (splitSign cs).2 := by
  unfold splitSign
  split
  · exact ⟨.minus, rfl⟩
  · exact ⟨.plus, rfl⟩
  · exact ⟨.absent, rfl⟩

/-- **Reading a numeral.** It gives its integer unless it has too many digits. -/
theorem readList_chars (m : Numeral) : readList m.chars =
    if maxDigits < m.digits.length then .error (.tooManyDigits m.digits.length)
    else .ok m.value := by
  have hempty : (m.digits.map fun c => c.toNat - 48).isEmpty = false := by
    rw [List.isEmpty_map, List.isEmpty_eq_false_iff]
    exact m.ne_nil
  have hall : m.digits.all Char.isDigit = true := List.all_eq_true.mpr m.decimal
  simp only [readList, splitSign_chars, mapM_asciiDigit?, hall, if_true, hempty,
    List.length_map, ofDigits_toNat]
  rw [m.value_eq]
  rfl

/-- Nothing but a numeral is read. -/
theorem readList_eq_notNumeral {cs : List Char} :
    readList cs = .error .notNumeral ↔ ∀ m : Numeral, cs ≠ m.chars := by
  constructor
  · rintro h m rfl
    rw [readList_chars] at h
    split at h <;> cases h
  · intro h
    obtain ⟨sign, hcs⟩ := exists_sign cs
    simp only [readList, mapM_asciiDigit?]
    cases hdigits : (splitSign cs).2.all Char.isDigit with
    | true =>
      -- digits behind a sign would be a numeral, so there are none
      have hnil : (splitSign cs).2 = [] := by
        by_contra hne
        exact h ⟨sign, _, hne, List.all_eq_true.mp hdigits⟩ hcs
      rw [hnil]
      rfl
    | false => rfl

/-! ### Decimal forms -/

/-- The numeral that an integer is written as. -/
def canonical (n : Int) : Numeral where
  sign := if n < 0 then .minus else .absent
  digits := Text.decimal n.natAbs
  ne_nil := Nat.toDigits_ne_nil
  decimal _ hc := Nat.isDigit_of_mem_toDigits (by decide) (by decide) hc

theorem chars_canonical (n : Int) : (canonical n).chars = decimalInt n := by
  unfold canonical Numeral.chars decimalInt
  split <;> rfl

theorem value_canonical (n : Int) : (canonical n).value = n := by
  have hmagnitude : (canonical n).magnitude = n.natAbs := Nat.ofDigitChars_ten_toDigits
  unfold Numeral.value
  rw [hmagnitude]
  by_cases h : n < 0
  · simp only [canonical, if_pos h]
    omega
  · simp only [canonical, if_neg h]
    omega

/-- The decimal forms of two integers differ. -/
theorem decimalInt_injective : Function.Injective decimalInt := by
  intro n n' h
  rw [← chars_canonical, ← chars_canonical] at h
  rw [← value_canonical n, ← value_canonical n', Numeral.value_congr h]

end IntText

/-! ### Integers within bounds -/

section Bounds

open IntText (Numeral maxDigits)

variable {bits : Int} {signed : Bool} {s : String}

theorem inBounds_iff (hbits : 1 ≤ bits) {n : Int} : InBounds (some (.intBounds bits signed)) n ↔
    (if signed then -2 ^ (bits - 1).toNat else 0) ≤ n ∧
      n ≤ (if signed then 2 ^ (bits - 1).toNat else 2 ^ bits.toNat) - 1 := by
  cases signed with
  | false => exact forall_prop_of_true hbits
  | true => exact forall_prop_of_true hbits

/-- An integer passes the check when it is within its bounds. -/
theorem checkInt_of_inBounds (hbits : 1 ≤ bits) {n : Int}
    (h : InBounds (some (.intBounds bits signed)) n) :
    checkInt (some (.intBounds bits signed)) s n = .ok n := by
  obtain ⟨hlow, hhigh⟩ := (inBounds_iff hbits).mp h
  simp only [checkInt, Note.low?_of_le hbits, Note.high?_of_le hbits, boundOr]
  show (if n < _ then _ else if _ < n then _ else _) = Except.ok n
  rw [if_neg (Int.not_lt.mpr hlow), if_neg (Int.not_lt.mpr hhigh)]

theorem checkInt_of_not_inBounds (hbits : 1 ≤ bits) {n : Int}
    (h : ¬ InBounds (some (.intBounds bits signed)) n) :
    checkInt (some (.intBounds bits signed)) s n = .error (.integerRange s signed bits) := by
  rw [inBounds_iff hbits, not_and_or, Int.not_le, Int.not_le] at h
  simp only [checkInt, Note.low?_of_le hbits, Note.high?_of_le hbits, boundOr]
  show (if n < _ then _ else if _ < n then _ else _) = Except.error _
  generalize (if signed = true then -2 ^ (bits - 1).toNat else (0 : Int)) = low at h ⊢
  by_cases hlow : n < low
  · rw [if_pos hlow]
  · rw [if_neg hlow, if_pos (h.resolve_left hlow)]

/-- **Reading an integer of a number of bits.** Either the text is a numeral, with few enough digits
and within the bounds, and its integer is read, or there is a fault about the text. -/
theorem readInt_cases (hbits : 1 ≤ bits) (s : String) :
    (∃ m : Numeral, s.toList = m.chars ∧ m.digits.length ≤ maxDigits ∧
      InBounds (some (.intBounds bits signed)) m.value ∧
      readInt (some (.intBounds bits signed)) s = .ok m.value) ∨
    (∀ m : Numeral, s.toList = m.chars → m.digits.length ≤ maxDigits →
      ¬ InBounds (some (.intBounds bits signed)) m.value) ∧
      ∃ f, readInt (some (.intBounds bits signed)) s = .error f ∧ f.kind = .value := by
  unfold readInt IntText.read
  by_cases hnumeral : ∃ m : Numeral, s.toList = m.chars
  · obtain ⟨m, hs⟩ := hnumeral
    rw [hs, IntText.readList_chars]
    by_cases hmany : maxDigits < m.digits.length
    · rw [if_pos hmany]
      refine .inr ⟨fun m' hm' hfew => ?_, _, rfl, rfl⟩
      rw [IntText.Numeral.digits_congr hm'] at hmany
      exact absurd hmany (Nat.not_lt.mpr hfew)
    · rw [if_neg hmany]
      by_cases hbounds : InBounds (some (.intBounds bits signed)) m.value
      · exact .inl ⟨m, rfl, Nat.not_lt.mp hmany, hbounds, checkInt_of_inBounds hbits hbounds⟩
      · refine .inr ⟨fun m' hm' _ => ?_, _, checkInt_of_not_inBounds hbits hbounds, rfl⟩
        rw [← IntText.Numeral.value_congr hm']
        exact hbounds
  · have hnone : ∀ m : Numeral, s.toList ≠ m.chars := fun m hm => hnumeral ⟨m, hm⟩
    rw [IntText.readList_eq_notNumeral.mpr hnone]
    exact .inr ⟨fun m hm => absurd hm (hnone m), _, rfl, rfl⟩

/-- The texts that are read as an integer are the numerals that stand for it. -/
theorem readInt_eq_ok (hbits : 1 ≤ bits) {n : Int} :
    readInt (some (.intBounds bits signed)) s = .ok n ↔ ∃ m : Numeral, s.toList = m.chars ∧
      m.digits.length ≤ maxDigits ∧ InBounds (some (.intBounds bits signed)) m.value ∧
      n = m.value := by
  obtain ⟨m, hs, hfew, hbounds, hread⟩ | ⟨hnone, f, hread, -⟩ := readInt_cases hbits s
  · rw [hread, Except.ok.injEq]
    constructor
    · rintro rfl
      exact ⟨m, hs, hfew, hbounds, rfl⟩
    · rintro ⟨m', hs', -, -, rfl⟩
      exact IntText.Numeral.value_congr (hs.symm.trans hs')
  · rw [hread]
    refine iff_of_false nofun ?_
    rintro ⟨m, hs, hfew, hbounds, -⟩
    exact hnone m hs hfew hbounds

end Bounds

/-! ### Types of integers -/

/-- A parameter of integers takes one text, which is read within their bounds. -/
theorem Ty.unpacker_intOf {env : Env} {site : Site} {tag : Tag} (bits : Int) (signed : Bool)
    (hreader : env.registry.lookup "int" = none) (hcontent : tag.content = "")
    (hdeep : tag.deepObject = false) : (Ty.intOf bits signed).unpacker env site tag =
      .ok (.single (Scalar.read { kind := .int } (some (.intBounds bits signed)))) := by
  have hnone : (Ty.scalar { kind := .int }).bareReader? env.registry = none := by
    have hclass : (Ty.scalar { kind := .int }).class?.bind (fun c => env.registry.lookup c.path) =
        none := hreader
    simp only [Ty.bareReader?, Ty.ownReader?, hclass]
  rw [Ty.unpacker_plain hcontent, Mode.own, Ty.intOf, Ty.build, Ty.build, Ty.readOr_of_none hnone,
    Site.rejectDeepObject_eq_ok.mpr hdeep]
  rfl

/-- **Integers of a number of bits.** The texts that are read are the numerals, a sign or none and
ASCII digits, with at most 4300 digits and for an integer of so many bits; it is this integer that
they are read as, and any other text is a fault of its own. So the decimal form of such an integer
is read as the integer, if it is not too long, and it is not the decimal form of any other. -/
theorem Ty.integers_read {bits : Int} (signed : Bool) (hbits : 1 ≤ bits) :
    ∃ sc bounds, (Ty.intOf bits signed).shape = .primitive sc bounds ∧
      (∀ s v, sc.read bounds s = .ok v ↔ ∃ m : IntText.Numeral, s.toList = m.chars ∧
        m.digits.length ≤ 4300 ∧
        (if signed then -2 ^ (bits - 1).toNat else 0) ≤ m.value ∧
        m.value ≤ (if signed then 2 ^ (bits - 1).toNat else 2 ^ bits.toNat) - 1 ∧
        v = .int m.value) ∧
      (∀ s, (∃ v, sc.read bounds s = .ok v) ∨
        ∃ f, sc.read bounds s = .error f ∧ f.kind = .value) ∧
      (∀ n, (if signed then -2 ^ (bits - 1).toNat else 0) ≤ n →
        n ≤ (if signed then 2 ^ (bits - 1).toNat else 2 ^ bits.toNat) - 1 →
        (Text.decimal n.natAbs).length ≤ 4300 →
        sc.read bounds (String.ofList (decimalInt n)) = .ok (.int n)) ∧
      ∀ n n', decimalInt n = decimalInt n' → n = n' := by
  have hread : ∀ s, Scalar.read { kind := .int } (some (.intBounds bits signed)) s =
      (readInt (some (.intBounds bits signed)) s).map .int := fun _ => rfl
  refine ⟨{ kind := .int }, some (.intBounds bits signed), rfl, fun s v => ?_, fun s => ?_,
    fun n hlow hhigh hfew => ?_, fun n n' h => IntText.decimalInt_injective h⟩
  · simp only [hread, map_eq_ok, readInt_eq_ok hbits, inBounds_iff hbits]
    constructor
    · rintro ⟨n, ⟨m, hs, hfew, ⟨hlow, hhigh⟩, rfl⟩, rfl⟩
      exact ⟨m, hs, hfew, hlow, hhigh, rfl⟩
    · rintro ⟨m, hs, hfew, hlow, hhigh, rfl⟩
      exact ⟨_, ⟨m, hs, hfew, ⟨hlow, hhigh⟩, rfl⟩, rfl⟩
  · rw [hread]
    obtain ⟨m, -, -, -, hm⟩ | ⟨-, f, hf, hkind⟩ := readInt_cases hbits s
    · exact .inl ⟨_, by rw [hm]; rfl⟩
    · exact .inr ⟨f, by rw [hf]; rfl, hkind⟩
  · rw [hread]
    refine map_eq_ok.mpr ⟨n, (readInt_eq_ok hbits).mpr ⟨IntText.canonical n, ?_, hfew, ?_, ?_⟩, rfl⟩
    · rw [String.toList_ofList, IntText.chars_canonical]
    · rw [IntText.value_canonical]
      exact (inBounds_iff hbits).mpr ⟨hlow, hhigh⟩
    · rw [IntText.value_canonical]

/-- An integer of eight bits may have a sign and zeros in front, and cannot be greater than 127. -/
theorem octets_read : ∃ sc bounds, (Ty.intOf 8 true).shape = .primitive sc bounds ∧
    sc.read bounds "+007" = .ok (.int 7) ∧
    sc.read bounds (String.ofList (decimalInt (-128))) = .ok (.int (-128)) ∧
    ∀ v, sc.read bounds "128" ≠ .ok v := by
  obtain ⟨sc, bounds, hshape, hiff, -, hround, -⟩ := @Ty.integers_read 8 true (by decide)
  refine ⟨sc, bounds, hshape, ?_, hround (-128) (by decide) (by decide) (by decide), ?_⟩
  · let written : IntText.Numeral :=
      ⟨.plus, ['0', '0', '7'], by decide, List.all_eq_true.mp (by decide)⟩
    exact (hiff "+007" _).mpr ⟨written, by decide, by decide, by decide, by decide, rfl⟩
  · intro v hv
    obtain ⟨m, hm, -, -, hhigh, -⟩ := (hiff "128" v).mp hv
    let written : IntText.Numeral :=
      ⟨.absent, ['1', '2', '8'], by decide, List.all_eq_true.mp (by decide)⟩
    have hvalue : m.value = written.value := IntText.Numeral.value_congr hm.symm
    rw [hvalue] at hhigh
    exact absurd hhigh (by decide)

end ParamBinding
