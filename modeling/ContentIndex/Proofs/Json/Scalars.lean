import ContentIndex.Json.Parser
import ContentIndex.Json.Printer
import ContentIndex.Value.Written
import Mathlib.Data.List.Basic

/-!
# Texts and integers in documents

What is written between quotes is read back: a character that is escaped comes back from its
escape, outside the first plane from the two units that stand for it. An integer comes back from
its digits, as long as they are few enough.
-/

namespace ContentIndex

set_option autoImplicit false

namespace Json

/-! ## Code units -/

theorem hexValue?_hexDigit : ∀ n < 16, hexValue? (Text.hexDigit n) = some n := by
  decide

theorem codeUnit?_hexDigits {n : Nat} (h : n < 0x10000) :
    ∃ a b c d, Text.hexDigits 4 n = [a, b, c, d] ∧ codeUnit? a b c d = some n := by
  refine ⟨_, _, _, _, rfl, ?_⟩
  rw [codeUnit?, hexValue?_hexDigit _ (Nat.mod_lt _ (by decide)),
    hexValue?_hexDigit _ (Nat.mod_lt _ (by decide)),
    hexValue?_hexDigit _ (Nat.mod_lt _ (by decide)),
    hexValue?_hexDigit _ (Nat.mod_lt _ (by decide))]
  dsimp only
  congr 1
  omega

attribute [local simp] readChars

variable {start : Nat} {rest : List Char}

/-- No character is half of a pair. -/
theorem not_surrogate (c : Char) :
    isHighSurrogate c.toNat = false ∧ isLowSurrogate c.toNat = false := by
  have hvalid : c.toNat < 0xD800 ∨ 0xDFFF < c.toNat ∧ c.toNat < 0x110000 := c.valid
  simp only [isHighSurrogate, isLowSurrogate, Bool.and_eq_false_iff, decide_eq_false_iff_not]
  omega

theorem charOfUnit_toNat (c : Char) : charOfUnit c.toNat = c := by
  obtain ⟨hhigh, hlow⟩ := not_surrogate c
  rw [charOfUnit, hhigh, hlow]
  exact Char.ofNat_toNat c

/-- A character that one unit stands for is read from it, also where another unit follows. -/
theorem readChars_unitText {c : Char} (hc : c.toNat < 0x10000) (hrest : rest ≠ []) :
    readChars start (unitText c.toNat ++ rest) = push c (readChars start rest) := by
  obtain ⟨x, y, z, w, hdigits, hunit⟩ := codeUnit?_hexDigits hc
  obtain ⟨r, rs, rfl⟩ := List.exists_cons_of_ne_nil hrest
  rw [unitText, hdigits]
  by_cases hpair : ∃ e f g h after, r = '\\' ∧ rs = 'u' :: e :: f :: g :: h :: after
  · obtain ⟨e, f, g, h, after, rfl, rfl⟩ := hpair
    simp [hunit, (not_surrogate c).1, charOfUnit_toNat]
  · have hsingle : ∀ e f g h after, r = '\\' → rs = 'u' :: e :: f :: g :: h :: after → False :=
      fun e f g h after hr hrs => hpair ⟨e, f, g, h, after, hr, hrs⟩
    simp [hunit, charOfUnit_toNat]

/-- A pair of units is read as one character. -/
theorem readChars_pair {high low : Nat} (hhigh : isHighSurrogate high = true)
    (hlow : isLowSurrogate low = true) (hrest : rest ≠ []) :
    readChars start (unitText high ++ unitText low ++ rest) =
      push (Char.ofNat (joinSurrogates high low)) (readChars start rest) := by
  have hbounds : high < 0x10000 ∧ low < 0x10000 := by
    simp only [isHighSurrogate, isLowSurrogate, Bool.and_eq_true, decide_eq_true_eq] at hhigh hlow
    omega
  obtain ⟨x, y, z, w, hdigits, hunit⟩ := codeUnit?_hexDigits hbounds.1
  obtain ⟨e, f, g, h, hdigits', hunit'⟩ := codeUnit?_hexDigits hbounds.2
  rw [unitText, unitText, hdigits, hdigits']
  simp [hunit, hunit', hhigh, hlow, hrest]

theorem readChars_escapeUnits (c : Char) (hrest : rest ≠ []) :
    readChars start (escapeUnits c.toNat ++ rest) = push c (readChars start rest) := by
  rw [escapeUnits]
  split
  · rename_i hc
    exact readChars_unitText hc hrest
  · have hvalid : c.toNat < 0xD800 ∨ 0xDFFF < c.toNat ∧ c.toNat < 0x110000 := c.valid
    have hhigh : isHighSurrogate (0xD800 + (c.toNat - 0x10000) / 0x400) = true := by
      simp only [isHighSurrogate, Bool.and_eq_true, decide_eq_true_eq]
      omega
    have hlow : isLowSurrogate (0xDC00 + (c.toNat - 0x10000) % 0x400) = true := by
      simp only [isLowSurrogate, Bool.and_eq_true, decide_eq_true_eq]
      omega
    have hjoined : joinSurrogates (0xD800 + (c.toNat - 0x10000) / 0x400)
        (0xDC00 + (c.toNat - 0x10000) % 0x400) = c.toNat := by
      unfold joinSurrogates
      omega
    dsimp only
    rw [readChars_pair hhigh hlow hrest, hjoined, Char.ofNat_toNat]

/-! ## Characters between quotes -/

theorem readChars_simpleEscape {c e : Char} (h : simpleEscape? e = some c) :
    readChars start ('\\' :: e :: rest) = push c (readChars start rest) := by
  have hu : e ≠ 'u' := by
    rintro rfl
    cases h
  simp [hu, h]

theorem readChars_plain {c : Char} (hquote : c ≠ '"') (hbackslash : c ≠ '\\') (hc : ¬ c < ' ') :
    readChars start (c :: rest) = push c (readChars start rest) := by
  simp [hbackslash, hc]

theorem readChars_escapeChar (asciiOnly : Bool) (c : Char) (hrest : rest ≠ []) :
    readChars start (escapeChar asciiOnly c ++ rest) = push c (readChars start rest) := by
  rw [escapeChar]
  -- the characters that have an escape of their own
  iterate 7
    split
    · rename_i h
      rw [beq_iff_eq.1 h]
      exact readChars_simpleEscape rfl
  split
  · rename_i hcontrol
    have hc : c.toNat < 0x20 := hcontrol
    exact readChars_unitText (by omega) hrest
  · rename_i hcontrol
    split
    · exact readChars_escapeUnits c hrest
    · rename_i hquote hbackslash _ _ _ _ _ _
      exact readChars_plain (mt beq_iff_eq.2 hquote) (mt beq_iff_eq.2 hbackslash) hcontrol

theorem readChars_quoted (asciiOnly : Bool) (cs : List Char) :
    readChars start (cs.flatMap (escapeChar asciiOnly) ++ '"' :: rest) = .ok (cs, rest) := by
  induction cs with
  | nil => rw [List.flatMap_nil, List.nil_append, readChars]
  | cons c cs ih =>
    rw [List.flatMap_cons, List.append_assoc,
      readChars_escapeChar asciiOnly c (List.append_ne_nil_of_right_ne_nil _ (by simp)), ih]
    rfl

/-! ## No control characters -/

theorem le_hexDigit : ∀ n < 16, ' ' ≤ Text.hexDigit n := by
  decide

theorem le_of_mem_unitText (n : Nat) : ∀ x ∈ unitText n, ' ' ≤ x := by
  have hdigit (m : Nat) : ' ' ≤ Text.hexDigit (m % 16) := le_hexDigit _ (Nat.mod_lt _ (by decide))
  intro x hx
  simp only [unitText, Text.hexDigits, List.nil_append, List.cons_append, List.mem_cons,
    List.not_mem_nil, or_false] at hx
  rcases hx with rfl | rfl | rfl | rfl | rfl | rfl
  · decide
  · decide
  all_goals exact hdigit _

theorem le_of_mem_escapeChar (asciiOnly : Bool) (c : Char) :
    ∀ x ∈ escapeChar asciiOnly c, ' ' ≤ x := by
  rw [escapeChar]
  iterate 7
    split
    · simp
  split
  · exact le_of_mem_unitText _
  · rename_i hcontrol
    split
    · rw [escapeUnits]
      split
      · exact le_of_mem_unitText _
      · exact List.forall_mem_append.2 ⟨le_of_mem_unitText _, le_of_mem_unitText _⟩
    · exact List.forall_mem_singleton.2 (Char.not_lt.1 hcontrol)

theorem le_of_mem_quote (asciiOnly : Bool) (s : String) : ∀ x ∈ quote asciiOnly s, ' ' ≤ x := by
  intro x hx
  rw [quote] at hx
  obtain hx | hx := List.mem_append.1 hx
  · obtain rfl | hx := List.mem_cons.1 hx
    · decide
    · obtain ⟨c, _, hx⟩ := List.mem_flatMap.1 hx
      exact le_of_mem_escapeChar asciiOnly c x hx
  · obtain rfl := List.mem_singleton.1 hx
    decide

/-! ## Integers -/

/-- What may follow a number: nothing that would belong to it. -/
def EndsNumber (s : List Char) : Prop :=
  ∀ c ∈ s.head?, Text.isAsciiDigit c = false ∧ c ≠ '.' ∧ c ≠ 'e' ∧ c ≠ 'E'

theorem isAsciiDigit_of_mem_natDigits {n : Nat} {c : Char} (h : c ∈ Text.natDigits n) :
    Text.isAsciiDigit c = true :=
  Nat.isDigit_of_mem_toDigits (by decide) (by decide) h

theorem exists_natDigits (n : Nat) :
    ∃ d ds, Text.natDigits n = d :: ds ∧ Text.isAsciiDigit d = true := by
  obtain ⟨d, ds, hds⟩ := List.exists_cons_of_ne_nil (Nat.toDigits_ne_nil (n := n) (b := 10))
  have hdigits : Text.natDigits n = d :: ds := hds
  exact ⟨d, ds, hdigits, isAsciiDigit_of_mem_natDigits (hdigits ▸ List.mem_cons_self)⟩

/-- Only zero starts with a zero. -/
theorem eq_zero_of_natDigits {n : Nat} {cs : List Char} (h : Text.natDigits n = '0' :: cs) :
    n = 0 := by
  induction n using Nat.strongRecOn generalizing cs with
  | _ n ih =>
    rw [Text.natDigits, Nat.toDigits_eq_if (by decide)] at h
    split at h
    · rename_i hn
      exact (by decide : ∀ m < 10, m.digitChar = '0' → m = 0) n hn (List.cons.inj h).1
    · rename_i hn
      obtain ⟨d, ds, hds, -⟩ := exists_natDigits (n / 10)
      rw [← Text.natDigits, hds, List.cons_append] at h
      obtain ⟨rfl, -⟩ := List.cons.inj h
      have hzero : n / 10 = 0 := ih (n / 10) (by omega) hds
      omega

theorem letterDigit?_of_isAsciiDigit {c : Char} (h : Text.isAsciiDigit c = true) :
    Text.letterDigit? c = some (c.toNat - 48) :=
  if_pos h

theorem decimalOf_natDigits (n : Nat) : decimalOf (Text.natDigits n) = n := by
  have hvalues : (Text.natDigits n).filterMap Text.letterDigit? =
      (Text.natDigits n).map fun c => c.toNat - '0'.toNat := by
    rw [← List.filterMap_eq_map]
    exact List.filterMap_congr fun c hc =>
      letterDigit?_of_isAsciiDigit (isAsciiDigit_of_mem_natDigits hc)
  rw [decimalOf, hvalues, Text.ofDigits, List.foldl_map]
  simp only [Nat.mul_comm _ 10]
  rw [← Nat.ofDigitChars_eq_foldl]
  exact Nat.ofDigitChars_toDigits (by decide) (by decide)

theorem digitRun_append {ds : List Char} (hds : ∀ c ∈ ds, Text.isAsciiDigit c = true)
    (hrest : EndsNumber rest) : digitRun (ds ++ rest) = (ds, rest) := by
  have hend : rest.takeWhile Text.isAsciiDigit = [] ∧ rest.dropWhile Text.isAsciiDigit = rest := by
    cases rest with
    | nil => exact ⟨rfl, rfl⟩
    | cons c cs =>
      have hc : Text.isAsciiDigit c = false := (hrest c rfl).1
      simp [hc]
  rw [digitRun, List.takeWhile_append_of_pos hds, List.dropWhile_append_of_pos hds, hend.1, hend.2,
    List.append_nil]

theorem readWhole?_natDigits (n : Nat) (hrest : EndsNumber rest) :
    readWhole? (Text.natDigits n ++ rest) = some (Text.natDigits n, rest) := by
  have hrun : digitRun (Text.natDigits n ++ rest) = (Text.natDigits n, rest) :=
    digitRun_append (fun c hc => isAsciiDigit_of_mem_natDigits hc) hrest
  obtain ⟨d, ds, hdigits, hd⟩ := exists_natDigits n
  by_cases hzero : d = '0'
  · subst hzero
    obtain rfl := eq_zero_of_natDigits hdigits
    rfl
  · rw [← hrun, hdigits, List.cons_append, readWhole?.eq_2 _ _ (fun h => hzero h), if_pos hd]

theorem lt_of_log2_lt {n k m : Nat} (h : n.log2 < k) (hm : Nat.pow 2 k ≤ m) : n < m := by
  have hpow : 2 ^ (n.log2 + 1) ≤ Nat.pow 2 k := Nat.pow_le_pow_right (by decide) h
  exact Nat.lt_of_lt_of_le Nat.lt_log2_self (Nat.le_trans hpow hm)

/-- The logarithm that is compared first leaves out no integer with too many digits. -/
theorem natAbs_lt_tooLong {n : Int} (h : Value.isLong n = false) : n.natAbs < Value.tooLong := by
  rw [Value.isLong, Bool.and_eq_false_iff, decide_eq_false_iff_not, decide_eq_false_iff_not] at h
  obtain h | h := h
  · exact lt_of_log2_lt (Nat.not_le.1 h) (by decide +kernel)
  · exact Nat.not_le.1 h

theorem tooLong_eq {k : Nat} (hk : Value.digitLimit = k) : Value.tooLong = Nat.pow 10 k := by
  unfold Value.tooLong
  rw [hk]

theorem length_natDigits_le {n : Nat} (h : n < Value.tooLong) :
    (Text.natDigits n).length ≤ digitLimit := by
  -- a limit that is not known keeps the power from being computed
  have hlimit : ∀ k, Value.digitLimit = k → 0 < k → (Text.natDigits n).length ≤ k := by
    intro k hk hpos
    rw [tooLong_eq hk] at h
    exact (Nat.length_toDigits_le_iff (by decide) hpos).2 h
  exact hlimit digitLimit rfl (by decide)

theorem readFraction_of_endsNumber (hrest : EndsNumber rest) : readFraction rest = ([], rest) := by
  cases rest with
  | nil => rfl
  | cons c cs =>
    have hc : c ≠ '.' := (hrest c rfl).2.1
    unfold readFraction
    split
    · rename_i h
      exact absurd (List.cons.inj h).1 hc
    · rfl

theorem readExponent?_of_endsNumber (hrest : EndsNumber rest) : readExponent? rest = none := by
  cases rest with
  | nil => rfl
  | cons c cs =>
    obtain ⟨-, -, he, hE⟩ := hrest c rfl
    simp [readExponent?, he, hE]

theorem readNumber_signed {n : Nat} (negative : Bool)
    (hlength : (Text.natDigits n).length ≤ digitLimit) (hrest : EndsNumber rest) :
    readNumber (Decimal.signed negative (Text.natDigits n) ++ rest) =
      .ok (.int (if negative then -Int.ofNat n else Int.ofNat n), rest) := by
  unfold readNumber
  split
  rename_i negative' digits hsign
  obtain ⟨rfl, rfl⟩ : negative = negative' ∧ Text.natDigits n ++ rest = digits := by
    cases negative with
    | true => exact Prod.mk.inj hsign
    | false =>
      split at hsign
      · rename_i heq
        obtain ⟨d, ds, hds, hd⟩ := exists_natDigits n
        rw [Decimal.signed, if_neg Bool.false_ne_true, hds, List.cons_append] at heq
        rw [(List.cons.inj heq).1] at hd
        exact absurd hd (by decide)
      · exact Prod.mk.inj hsign
  rw [readWhole?_natDigits n hrest]
  dsimp only
  rw [readFraction_of_endsNumber hrest]
  dsimp only
  rw [readExponent?_of_endsNumber hrest, List.isEmpty_nil, Option.isNone_none, Bool.and_self,
    if_pos rfl, if_neg (Nat.not_lt.2 hlength), decimalOf_natDigits]

/-- No word starts as a number does. -/
theorem readWord?_signed (negative : Bool) (n : Nat) :
    readWord? (Decimal.signed negative (Text.natDigits n) ++ rest) = none := by
  obtain ⟨d, ds, hds, hd⟩ := exists_natDigits n
  have hne : ∀ c, Text.isAsciiDigit c = false → c ≠ d := by
    rintro c hc rfl
    exact absurd (hc.symm.trans hd) (by decide)
  rw [hds]
  cases negative <;> simp [Decimal.signed, readWord?, words, Text.rest?, hne, Text.isAsciiDigit]

theorem readScalar_intText {n : Int} (hn : Value.isLong n = false) (hrest : EndsNumber rest) :
    readScalar (Decimal.intText n ++ rest) = .ok (.int n, rest) := by
  have hvalue : (if decide (n < 0) then -Int.ofNat n.natAbs else Int.ofNat n.natAbs) = n := by
    simp only [decide_eq_true_eq, Int.ofNat_eq_natCast]
    omega
  rw [Decimal.intText, readScalar, readWord?_signed]
  dsimp only
  rw [readNumber_signed _ (length_natDigits_le (natAbs_lt_tooLong hn)) hrest, hvalue]

theorem le_of_mem_intText (n : Int) : ∀ x ∈ Decimal.intText n, ' ' ≤ x := by
  have hdigits : ∀ x ∈ Text.natDigits n.natAbs, ' ' ≤ x := by
    intro x hx
    have hdigit := isAsciiDigit_of_mem_natDigits hx
    rw [Text.isAsciiDigit, Bool.and_eq_true, decide_eq_true_eq] at hdigit
    exact Char.le_trans (by decide) hdigit.1
  rw [Decimal.intText, Decimal.signed]
  split
  · exact List.forall_mem_cons.2 ⟨by decide, hdigits⟩
  · exact hdigits

end Json

end ContentIndex
