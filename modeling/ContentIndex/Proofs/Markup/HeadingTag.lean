import ContentIndex.Markup.Buckets
import ContentIndex.Proofs.Markup.Reading

/-!
# Heading tags

A tag is kept for a heading when the lower case of its name is `h1` to `h6`. No character outside
of ASCII becomes one of these letters and digits, so such a name is one of twelve. A closing tag
that may end an element is just its name between `</` and `>`.
-/

namespace ContentIndex.Markup

set_option autoImplicit false

open Text

def Level.Names (level : Level) (name : List Char) : Prop :=
  name = ['h', level.digit] ∨ name = ['H', level.digit]

theorem lowerRuns_above :
    ∀ run ∈ lowerRuns, run.last < 128 ∨ 104 < (run.first : Int) + run.shift := by
  decide +kernel

theorem toNat_ofNat_eq (n : Nat) : (Char.ofNat n).toNat = n ∨ (Char.ofNat n).toNat = 0 := by
  by_cases h : n.isValidChar
  · rw [Char.ofNat, dif_pos h]
    exact .inl rfl
  · rw [Char.ofNat, dif_neg h]
    exact .inr rfl

theorem lookupCase_lower_above {c x : Char} {w : List Char} (hc : 128 ≤ c.toNat)
    (h : lookupCase lowerLong lowerRuns c = some (x :: w)) : x.toNat = 0 ∨ 104 < x.toNat := by
  unfold lookupCase at h
  split at h
  · rename_i codes hl
    rw [lowerLong, List.lookup_cons] at hl
    split at hl
    · cases hl
      cases h
      exact .inr (by decide)
    · cases hl
  · obtain ⟨code, hcode, he⟩ := Option.map_eq_some_iff.1 h
    cases he
    obtain ⟨run, hr, hs⟩ := List.exists_of_findSome?_eq_some hcode
    have ha := lowerRuns_above run hr
    unfold CaseRun.shift? at hs
    split at hs
    · rename_i hb
      cases hs
      simp only [Bool.and_eq_true, decide_eq_true_eq] at hb
      have hn := toNat_ofNat_eq (Int.ofNat c.toNat + run.shift).toNat
      have hi : Int.ofNat c.toNat = (c.toNat : Int) := rfl
      omega
    · cases hs

theorem lowerChar_eq {c x : Char} {w : List Char} (h : lowerChar c = x :: w)
    (h0 : 0 < x.toNat) (h1 : x.toNat ≤ 104) : c.toNat < 128 ∧ x = c.toLower ∧ w = [] := by
  unfold lowerChar at h
  split at h
  · rename_i hc
    cases h
    exact ⟨hc, rfl, rfl⟩
  · exfalso
    cases hl : lookupCase lowerLong lowerRuns c with
    | none =>
      rw [hl] at h
      cases h
      omega
    | some v =>
      rw [hl] at h
      cases h
      have := lookupCase_lower_above (by omega) hl
      omega

theorem lowerAt_eq {before after : List Char} {c x : Char} {w : List Char}
    (h : lowerAt before c after = x :: w) (h0 : 0 < x.toNat) (h1 : x.toNat ≤ 104) :
    c.toNat < 128 ∧ x = c.toLower ∧ w = [] := by
  unfold lowerAt at h
  split at h
  · exfalso
    split at h
    · cases h
      exact absurd h1 (by decide)
    · cases h
      exact absurd h1 (by decide)
  · exact lowerChar_eq h h0 h1

theorem lookupCase_lower_ne_nil (c : Char) : lookupCase lowerLong lowerRuns c ≠ some [] := by
  intro h
  unfold lookupCase at h
  split at h
  · rename_i codes hl
    rw [lowerLong, List.lookup_cons] at hl
    split at hl
    · cases hl
      cases h
    · cases hl
  · obtain ⟨code, -, he⟩ := Option.map_eq_some_iff.1 h
    cases he

theorem lowerAt_ne_nil (before : List Char) (c : Char) (after : List Char) :
    lowerAt before c after ≠ [] := by
  intro h
  unfold lowerAt at h
  split at h
  · split at h <;> cases h
  · unfold lowerChar at h
    split at h
    · cases h
    · cases hl : lookupCase lowerLong lowerRuns c with
      | none =>
        rw [hl] at h
        cases h
      | some v =>
        rw [hl] at h
        exact lookupCase_lower_ne_nil c (hl.trans (congrArg some h))

/-- What holds of all characters below a code is found by going through the codes. -/
theorem forall_char_lt {bound : Nat} {P : Char → Prop} (h : ∀ n < bound, P (Char.ofNat n))
    {c : Char} (hc : c.toNat < bound) : P c := by
  have hchar := h c.toNat hc
  rwa [Char.ofNat_toNat] at hchar

theorem toLower_ascii {c : Char} (hc : c.toNat < 128) :
    (c.toLower = 'h' → c = 'h' ∨ c = 'H') ∧
      ∀ level ∈ Level.all, c.toLower = level.digit → c = level.digit :=
  forall_char_lt (P := fun c => (c.toLower = 'h' → c = 'h' ∨ c = 'H') ∧
    ∀ level ∈ Level.all, c.toLower = level.digit → c = level.digit) (by decide +kernel) hc

theorem mem_all (level : Level) : level ∈ Level.all := by
  cases level <;> decide

theorem names_of_lower {name : List Char} {level : Level} (h : lower name = level.name) :
    level.Names name := by
  have hd : 0 < level.digit.toNat ∧ level.digit.toNat ≤ 104 := by cases level <;> decide
  rw [lower, Level.name] at h
  -- the first character gives `h` and nothing more, the second one the digit
  match name with
  | [] => cases h
  | [a] =>
    rw [lowerFrom, lowerFrom, List.append_nil] at h
    obtain ⟨-, -, hw⟩ := lowerAt_eq h (by decide) (by decide)
    cases hw
  | a :: b :: rest =>
    obtain ⟨x, w, hx⟩ := List.exists_cons_of_ne_nil (lowerAt_ne_nil [] a (b :: rest))
    obtain ⟨y, v, hy⟩ := List.exists_cons_of_ne_nil (lowerAt_ne_nil [a] b rest)
    rw [lowerFrom, hx, lowerFrom, hy, List.cons_append] at h
    obtain ⟨rfl, h1⟩ := List.cons.inj h
    obtain ⟨ha, ha', rfl⟩ := lowerAt_eq hx (by decide) (by decide)
    rw [List.nil_append, List.cons_append] at h1
    obtain ⟨rfl, h2⟩ := List.cons.inj h1
    obtain ⟨hb, hb', rfl⟩ := lowerAt_eq hy hd.1 hd.2
    have hrest : rest = [] := by
      cases rest with
      | nil => rfl
      | cons c rest =>
        simp [lowerFrom, lowerAt_ne_nil] at h2
    have hdigit : b = level.digit := (toLower_ascii hb).2 level (mem_all level) hb'.symm
    subst hrest
    rw [hdigit]
    rcases (toLower_ascii ha).1 ha'.symm with rfl | rfl
    · exact .inl rfl
    · exact .inr rfl

/-- Tags are kept for headings by twelve names. -/
theorem isAllowed_headingNames {name : List Char} :
    isAllowed headingNames name = true ↔ ∃ level : Level, level.Names name := by
  constructor
  · intro h
    rw [isAllowed, List.contains_iff_mem] at h
    have hm : headingNames.map lower = headingNames := by decide +kernel
    rw [hm, headingNames] at h
    obtain ⟨level, -, hl⟩ := List.mem_map.1 h
    exact ⟨level, names_of_lower hl.symm⟩
  · rintro ⟨level, rfl | rfl⟩ <;> cases level <;> decide +kernel

theorem Level.ofDigit?_digit (level : Level) : Level.ofDigit? level.digit = some level := by
  cases level <;> rfl

theorem Level.digit_of_ofDigit {d : Char} {level : Level} (h : Level.ofDigit? d = some level) :
    level.digit = d := by
  have := List.find?_some h
  simpa using this

theorem Level.names_iff {level : Level} {name : List Char} :
    level.Names name ↔ ∃ h, (h = 'h' ∨ h = 'H') ∧ name = [h, level.digit] := by
  constructor
  · rintro (hn | hn)
    · exact ⟨'h', .inl rfl, hn⟩
    · exact ⟨'H', .inr rfl, hn⟩
  · rintro ⟨h, rfl | rfl, hn⟩
    · exact .inl hn
    · exact .inr hn

/-! ## Closing tags -/

def closingTag (h d : Char) : List Char :=
  ['<', '/', h, d, '>']

theorem Level.dropClosing?_eq_some_iff {level : Level} {s after : List Char} :
    level.dropClosing? s = some after ↔
      ∃ h, (h = 'h' ∨ h = 'H') ∧ s = closingTag h level.digit ++ after := by
  constructor
  · intro hs
    rw [Level.dropClosing?.eq_def] at hs
    split at hs
    · rename_i h d rest
      split at hs
      · rename_i hd
        cases hs
        exact ⟨h, hd.1, by rw [hd.2]; rfl⟩
      · cases hs
    · cases hs
  · rintro ⟨h, hh, rfl⟩
    simp [closingTag, Level.dropClosing?, hh]

theorem isNameChar_digit (level : Level) : isNameChar level.digit = true := by
  cases level <;> decide

theorem Level.Names.isName {level : Level} {name : List Char} (h : level.Names name) :
    IsName name := by
  have hd : isNameChar level.digit = true := isNameChar_digit level
  rcases h with rfl | rfl
  · exact ⟨⟨'h', _, rfl, by decide⟩, by simp [hd]; decide⟩
  · exact ⟨⟨'H', _, rfl, by decide⟩, by simp [hd]; decide⟩

theorem readItem?_closingTag {level : Level} {h : Char} (hh : h = 'h' ∨ h = 'H')
    (rest : List Char) :
    readItem? (closingTag h level.digit ++ rest) =
      some (.tag [h, level.digit] (closingTag h level.digit), rest) := by
  have hn : level.Names [h, level.digit] := Level.names_iff.2 ⟨h, hh, rfl⟩
  have hs : EndsName ('>' :: rest) := by
    intro c hc
    cases hc
    decide
  exact readItem?_closed (.inr rfl) hn.isName hs (by rfl)

/-! ## Places where a heading tag starts -/

/-- A heading tag starts here, whatever follows its name. -/
def StartsHeading (s : List Char) : Prop :=
  ∃ opening name, IsTagOpening opening ∧ (∃ level : Level, level.Names name) ∧
    opening ++ name <+: s

theorem startsHeading_of_dropClosing {level : Level} {s after : List Char}
    (h : level.dropClosing? s = some after) : StartsHeading s := by
  obtain ⟨c, hc, rfl⟩ := Level.dropClosing?_eq_some_iff.1 h
  exact ⟨['<', '/'], [c, level.digit], .inr rfl, ⟨level, Level.names_iff.2 ⟨c, hc, rfl⟩⟩,
    '>' :: after, rfl⟩

theorem startsHeading_of_readHeading {s : List Char} {p : Heading × List Char}
    (h : readHeading? s = some p) : StartsHeading s := by
  unfold readHeading? at h
  split at h
  · rename_i c d rest
    split at h
    · rename_i hc
      split at h
      · cases h
      · rename_i level hd
        have hn : level.Names [c, d] :=
          Level.names_iff.2 ⟨c, hc, by rw [Level.digit_of_ofDigit hd]⟩
        exact ⟨['<'], [c, d], .inl rfl, ⟨level, hn⟩, rest, rfl⟩
    · cases h
  · cases h

theorem StartsHeading.startsMarkup {s : List Char} (h : StartsHeading s) :
    Markup.startsMarkup s = true := by
  obtain ⟨opening, name, ho, ⟨level, hn⟩, rest, rfl⟩ := h
  obtain ⟨c, hc, rfl⟩ := Level.names_iff.1 hn
  rcases ho with rfl | rfl <;> rcases hc with rfl | rfl <;> rfl

theorem not_mem_heading {c : Char} (hc : c = '>' ∨ c = '\n')
    {opening name : List Char} (ho : IsTagOpening opening) {level : Level}
    (hn : level.Names name) : c ∉ opening ++ name := by
  have hd : level.digit ≠ '>' ∧ level.digit ≠ '\n' := by cases level <;> decide
  rcases hn with rfl | rfl <;> rcases ho with rfl | rfl <;> rcases hc with rfl | rfl <;>
    simp [Ne.symm hd.1, Ne.symm hd.2]


end ContentIndex.Markup
