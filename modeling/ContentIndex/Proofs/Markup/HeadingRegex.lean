import ContentIndex.Proofs.Markup.HeadingTag
import ContentIndex.Proofs.Markup.TagRegex

/-!
# Heading elements as a pattern

The pattern of a heading element compares without case. Its attributes are repeated greedily, and
every way in which they end leads to the same `>` or to no match. The line behind them is repeated
reluctantly, so the first closing tag ends the element.
-/

namespace ContentIndex.Markup

set_option autoImplicit false

open Text Regex

/-- What a character is compared by where case does not count. -/
def foldCase (c : Char) : Char :=
  (lowerChar c).headD c

def isLevelDigit (c : Char) : Bool :=
  '1' ≤ c && c ≤ '6'

def closingRegex : Regex :=
  .all [.letter '<', .letter '/', .again 1, .letter '>']

def lineRegex : Regex :=
  .seq (.many false (.one (· != '\n'))) closingRegex

def levelRegex : Regex :=
  .group 1 (.seq (.letter 'h') (.one isLevelDigit))

def headingRegex : Regex :=
  .all [.letter '<', levelRegex, attributesRegex, .letter '>', lineRegex]

/-! ## Characters without case -/

theorem foldCase_eq_iff {c x : Char} (h0 : 0 < x.toNat) (h1 : x.toNat ≤ 104) :
    foldCase c = x ↔ c.toNat < 128 ∧ c.toLower = x := by
  constructor
  · intro h
    cases hl : lowerChar c with
    | nil =>
      rw [foldCase, hl, List.headD_nil] at h
      rw [lowerChar, if_pos (by rw [h]; omega)] at hl
      cases hl
    | cons y w =>
      rw [foldCase, hl, List.headD_cons] at h
      subst h
      obtain ⟨hc, hx, -⟩ := lowerChar_eq hl h0 h1
      exact ⟨hc, hx.symm⟩
  · rintro ⟨hc, rfl⟩
    rw [foldCase, lowerChar, if_pos hc]
    rfl

/-- The characters of the pattern that are not letters. -/
def caseless : List Char :=
  ['"', '\'', '>', '<', '/', '\n', '1', '2', '3', '4', '5', '6']

theorem toLower_eq_caseless {c x : Char} (hc : c.toNat < 128) (hx : x ∈ caseless) :
    c.toLower = x ↔ c = x := by
  have hall : (caseless.all fun x => decide (c.toLower = x ↔ c = x)) = true :=
    forall_char_lt (P := fun c => (caseless.all fun x => decide (c.toLower = x ↔ c = x)) = true)
      (by decide +kernel) hc
  exact of_decide_eq_true (List.all_eq_true.1 hall x hx)

theorem bounds_of_caseless {x : Char} (hx : x ∈ caseless) : 0 < x.toNat ∧ x.toNat ≤ 104 := by
  have hall : (caseless.all fun x => decide (0 < x.toNat ∧ x.toNat ≤ 104)) = true := by decide
  exact of_decide_eq_true (List.all_eq_true.1 hall x hx)

theorem foldCase_caseless {c x : Char} (hx : x ∈ caseless) : foldCase c = x ↔ c = x := by
  obtain ⟨h0, h1⟩ := bounds_of_caseless hx
  rw [foldCase_eq_iff h0 h1]
  constructor
  · rintro ⟨hc, h⟩
    exact (toLower_eq_caseless hc hx).1 h
  · rintro rfl
    have hc : c.toNat < 128 := by omega
    exact ⟨hc, (toLower_eq_caseless hc hx).2 rfl⟩

theorem keepsMarks_foldCase : KeepsMarks foldCase :=
  ⟨fun _ hx _ => foldCase_caseless (List.mem_append_left ['1', '2', '3', '4', '5', '6'] hx)⟩

theorem foldCase_h {c : Char} : foldCase c = 'h' ↔ c = 'h' ∨ c = 'H' := by
  rw [foldCase_eq_iff (by decide) (by decide)]
  constructor
  · rintro ⟨hc, h⟩
    exact (toLower_ascii hc).1 h
  · rintro (rfl | rfl) <;> decide

theorem foldCase_digit (level : Level) {c : Char} :
    foldCase c = level.digit ↔ c = level.digit :=
  foldCase_caseless (by cases level <;> decide)

theorem isLevelDigit_iff {c : Char} : isLevelDigit c = true ↔ ∃ level : Level, level.digit = c := by
  constructor
  · intro h
    have hn : 49 ≤ c.toNat ∧ c.toNat ≤ 54 := by
      simp only [isLevelDigit, Bool.and_eq_true, decide_eq_true_eq, Char.le_def,
        UInt32.le_iff_toNat_le] at h
      exact h
    have hbound : c.toNat < 55 := by omega
    obtain ⟨level, -, hlevel⟩ := forall_char_lt
      (P := fun c => 49 ≤ c.toNat → ∃ level ∈ Level.all, level.digit = c) (by decide) hbound hn.1
    exact ⟨level, hlevel⟩
  · rintro ⟨level, rfl⟩
    cases level <;> decide

theorem isLevelDigit_foldCase (c : Char) :
    isLevelDigit (foldCase c) = (Level.ofDigit? c).isSome := by
  rw [Bool.eq_iff_iff, isLevelDigit_iff]
  constructor
  · rintro ⟨level, h⟩
    rw [(foldCase_digit level).1 h.symm, Level.ofDigit?_digit]
    rfl
  · intro h
    obtain ⟨level, hlevel⟩ := Option.isSome_iff_exists.1 h
    have hdigit := Level.digit_of_ofDigit hlevel
    exact ⟨level, ((foldCase_digit level).2 hdigit.symm).symm⟩

/-! ## Every way through the attributes -/

section Attributes

variable {fold : Char → Char} {g : Groups} {q : Char} {s : List Char}

/-- An open quotation runs to the end, or up to a final line feed. -/
theorem rest_of_unclosed (hk : KeepsMarks fold) (hq : IsQuote q) (hs : q ∉ s) {o : Outcome}
    (ho : o ∈ (quotedRegex q).runs fold g (q :: s)) :
    o.groups = g ∧ (o.rest = [] ∨ o.rest = ['\n']) := by
  have hend : ∀ t, q ∉ t → ∀ o ∈ (Regex.alt (.letter q) .finish).runs fold g t,
      o.groups = g ∧ (o.rest = [] ∨ o.rest = ['\n']) := by
    intro t ht o ho
    have hletter : (letter q).runs fold g t = [] := by
      cases t with
      | nil => rfl
      | cons c t =>
        have hc : c ≠ q := fun he => ht (he ▸ List.mem_cons_self)
        rw [letter, runs_one_cons, if_neg (by simpa [hk.quote hq] using hc)]
    rw [runs_alt, hletter, List.nil_append, runs_finish] at ho
    split at ho
    · rename_i h
      cases List.mem_singleton.1 ho
      exact ⟨rfl, h⟩
    · cases ho
  have hbody : ∀ t, q ∉ t →
      ∀ o ∈ (seq (.many true (.one (· != q))) (.alt (.letter q) .finish)).runs fold g t,
        o.groups = g ∧ (o.rest = [] ∨ o.rest = ['\n']) := by
    intro t ht
    induction t with
    | nil =>
      intro o ho
      rw [runs_seq_many] at ho
      exact hend [] ht o ho
    | cons c t ih =>
      intro o ho
      have hturn : (one (· != q)).runs fold g (c :: t) = [⟨[c], t, g⟩] := by
        rw [runs_one_cons, if_pos (hk.inside hq ht c List.mem_cons_self)]
      rw [runs_greedy_turn _ hturn (Nat.lt_succ_self _), List.mem_append, List.mem_map] at ho
      rcases ho with ⟨o', ho', rfl⟩ | ho
      · exact ih (fun hm => ht (List.mem_cons_of_mem c hm)) o' ho'
      · exact hend _ ht o ho
  have hopen : (fold q == q) = true := beq_iff_eq.2 ((hk.quote hq q).2 rfl)
  rw [quotedRegex, runs_all_cons, letter, runs_seq_one_cons, if_pos hopen] at ho
  obtain ⟨o', ho', rfl⟩ := List.mem_map.1 ho
  exact hbody s hs o' ho'

theorem runs_end_of_ne (hk : KeepsMarks fold) {c : Char} (hc : c ≠ '>') (p : Regex) :
    (seq (letter '>') p).runs fold g (c :: s) = [] :=
  runs_seq_letter_of_ne (mt (hk.end c).1 hc) p

theorem runs_attributes_nil (p : Regex) :
    (seq attributesRegex (seq (letter '>') p)).runs fold g [] = [] :=
  runs_greedy_of_none _ rfl

/-- A character in a tag that is no quote is not given back. -/
theorem runs_attributes_plain (hk : KeepsMarks fold) {c : Char} (hq : ¬ IsQuote c) (hc : c ≠ '>')
    (p : Regex) (s : List Char) :
    (seq attributesRegex (seq (letter '>') p)).runs fold g (c :: s) =
      ((seq attributesRegex (seq (letter '>') p)).runs fold g s).map (Outcome.after [c]) := by
  have hturn : attributeRegex.runs fold g (c :: s) = [⟨[c], s, g⟩] := by
    rw [runs_attribute hk hq, if_neg hc]
  rw [attributesRegex, runs_greedy_turn _ hturn (Nat.lt_succ_self _), runs_end_of_ne hk hc,
    List.append_nil]

/-- A tag does not end behind an open quotation. -/
theorem runs_attributes_unclosed (hk : KeepsMarks fold) (hq : IsQuote q) (hs : q ∉ s) (p : Regex) :
    (seq attributesRegex (seq (letter '>') p)).runs fold g (q :: s) = [] := by
  have hfeed : (seq attributesRegex (seq (letter '>') p)).runs fold g ['\n'] = [] := by
    rw [runs_attributes_plain hk (by decide) (by decide), runs_attributes_nil]
    rfl
  rw [attributesRegex, runs_seq_many, runs_attribute_quote hk hq, runs_end_of_ne hk hq.ne_end,
    if_pos rfl, List.append_nil, List.flatMap_eq_nil_iff]
  intro o ho
  obtain ⟨hg, hrest⟩ := rest_of_unclosed hk hq hs ho
  rw [hg, ← attributesRegex]
  -- neither at the end nor before a final line feed does the tag end
  rcases hrest with hrest | hrest
  · rw [hrest, runs_attributes_nil]
    split <;> rfl
  · rw [hrest, hfeed, runs_end_of_ne hk (by decide)]
    split <;> rfl

/-- A quotation that is closed is not given back. -/
theorem runs_attributes_quoted (hk : KeepsMarks fold) (hq : IsQuote q) {run : List Char}
    (hrun : q ∉ run) (p : Regex) (s : List Char) :
    (seq attributesRegex (seq (letter '>') p)).runs fold g (q :: (run ++ q :: s)) =
      ((seq attributesRegex (seq (letter '>') p)).runs fold g s).map
        (Outcome.after (q :: run ++ [q])) := by
  have hturn : attributeRegex.runs fold g (q :: (run ++ q :: s)) = [⟨q :: run ++ [q], s, g⟩] := by
    rw [runs_attribute_quote hk hq, runs_quoted hk hq hrun]
  have hlt : s.length < (q :: (run ++ q :: s)).length := by
    rw [List.length_cons, List.length_append, List.length_cons]
    omega
  rw [attributesRegex, runs_greedy_turn _ hturn hlt, runs_end_of_ne hk hq.ne_end, List.append_nil]

/-- Attributes that are followed by a `>` end at the first one outside quotes. -/
theorem runs_attributes_end (hk : KeepsMarks fold) (p : Regex) (s : List Char) :
    (seq attributesRegex (seq (letter '>') p)).runs fold g s =
      match tagEnd? none s with
      | some (taken, after) => (p.runs fold g after).map (Outcome.after taken)
      | none => [] := by
  induction s using tagInduction with
  | nil => exact runs_attributes_nil p
  | done s =>
    have hnone : attributeRegex.runs fold g ('>' :: s) = [] :=
      runs_attribute hk (by decide) g s
    have hend : (fold '>' == '>') = true := beq_iff_eq.2 ((hk.end '>').2 rfl)
    rw [attributesRegex, runs_greedy_of_none _ hnone, letter, runs_seq_one_cons, if_pos hend]
    rfl
  | plain c s hq hc ih =>
    rw [runs_attributes_plain hk hq hc, ih, tagEnd?_plain hq hc]
    cases tagEnd? none s with
    | none => rfl
    | some r => simp [Outcome.after_after, Function.comp_def]
  | unclosed q s hq hs => rw [tagEnd?_unclosed hq hs, runs_attributes_unclosed hk hq hs]
  | quoted q run s hq hrun ih =>
    rw [tagEnd?_quoted hq hrun, runs_attributes_quoted hk hq hrun, ih]
    cases tagEnd? none s with
    | none => rfl
    | some r => simp [Outcome.after_after, Function.comp_def]

end Attributes

/-! ## The closing tag -/

/-- What the group of an opening heading tag holds. -/
def levelGroups (h : Char) (level : Level) : Groups :=
  [(1, [h, level.digit])]

section Closing

variable {level : Level} {h : Char} {s : List Char}

theorem mem_runs_mark {x : Char} (hx : x ∈ caseless) {g : Groups} {o : Outcome} :
    o ∈ (letter x).runs foldCase g s ↔ s = x :: o.rest ∧ o = ⟨[x], o.rest, g⟩ := by
  rw [mem_runs_letter]
  constructor
  · rintro ⟨c, hc, hs, ho⟩
    obtain rfl := (foldCase_caseless hx).1 hc
    exact ⟨hs, ho⟩
  · rintro ⟨hs, ho⟩
    exact ⟨x, (foldCase_caseless hx).2 rfl, hs, ho⟩

theorem mem_runs_level (hh : h = 'h' ∨ h = 'H') {o : Outcome} :
    o ∈ (Regex.again 1).runs foldCase (levelGroups h level) s ↔
      ∃ c, (c = 'h' ∨ c = 'H') ∧ s = c :: level.digit :: o.rest ∧
        o = ⟨[c, level.digit], o.rest, levelGroups h level⟩ := by
  have hlookup : (levelGroups h level).lookup 1 = some [h, level.digit] := rfl
  have hfold : [h, level.digit].map foldCase = ['h', level.digit] := by
    rw [List.map_cons, List.map_singleton, foldCase_h.2 hh, (foldCase_digit level).2 rfl]
  rw [mem_runs_again hlookup, hfold]
  constructor
  · rintro ⟨hs, hmap, hg⟩
    obtain ⟨taken, rest, g⟩ := o
    obtain ⟨c, w, rfl, hc, hw⟩ := List.map_eq_cons_iff.1 hmap
    obtain ⟨d, w, rfl, hd, hnil⟩ := List.map_eq_cons_iff.1 hw
    obtain rfl := List.map_eq_nil_iff.1 hnil
    obtain rfl := (foldCase_digit level).1 hd
    cases hg
    exact ⟨c, foldCase_h.1 hc, hs, rfl⟩
  · rintro ⟨c, hc, hs, ho⟩
    rw [ho]
    refine ⟨hs, ?_, rfl⟩
    rw [List.map_cons, List.map_singleton, foldCase_h.2 hc, (foldCase_digit level).2 rfl]

theorem mem_runs_closing (hh : h = 'h' ∨ h = 'H') {o : Outcome} :
    o ∈ closingRegex.runs foldCase (levelGroups h level) s ↔
      ∃ c, (c = 'h' ∨ c = 'H') ∧ s = closingTag c level.digit ++ o.rest ∧
        o = ⟨closingTag c level.digit, o.rest, levelGroups h level⟩ := by
  constructor
  · intro ho
    obtain ⟨o₁, ho₁, p₁, hp₁, rfl⟩ := mem_runs_seq.1 ho
    obtain ⟨rfl, hlt⟩ := (mem_runs_mark (by decide)).1 ho₁
    rw [hlt] at hp₁ ⊢
    obtain ⟨o₂, ho₂, p₂, hp₂, rfl⟩ := mem_runs_seq.1 hp₁
    obtain ⟨hs₂, hslash⟩ := (mem_runs_mark (by decide)).1 ho₂
    rw [hslash] at hp₂ ⊢
    obtain ⟨o₃, ho₃, p₃, hp₃, rfl⟩ := mem_runs_seq.1 hp₂
    obtain ⟨c, hc, hs₃, hlevel⟩ := (mem_runs_level hh).1 ho₃
    rw [hlevel] at hp₃ ⊢
    obtain ⟨hs₄, hgt⟩ := (mem_runs_mark (by decide)).1 hp₃
    rw [hgt]
    refine ⟨c, hc, ?_, rfl⟩
    simp only at hs₂ hs₃ hs₄
    rw [hs₂, hs₃, hs₄]
    rfl
  · rintro ⟨c, hc, rfl, ho⟩
    let g := levelGroups h level
    have hgt : (⟨['>'], o.rest, g⟩ : Outcome) ∈ (letter '>').runs foldCase g ('>' :: o.rest) :=
      (mem_runs_mark (by decide)).2 ⟨rfl, rfl⟩
    have hlevel : (⟨[c, level.digit], '>' :: o.rest, g⟩ : Outcome) ∈
        (Regex.again 1).runs foldCase g (c :: level.digit :: '>' :: o.rest) :=
      (mem_runs_level hh).2 ⟨c, hc, rfl, rfl⟩
    have hslash : (⟨['/'], c :: level.digit :: '>' :: o.rest, g⟩ : Outcome) ∈
        (letter '/').runs foldCase g ('/' :: c :: level.digit :: '>' :: o.rest) :=
      (mem_runs_mark (by decide)).2 ⟨rfl, rfl⟩
    have hlt : (⟨['<'], '/' :: c :: level.digit :: '>' :: o.rest, g⟩ : Outcome) ∈
        (letter '<').runs foldCase g (closingTag c level.digit ++ o.rest) :=
      (mem_runs_mark (by decide)).2 ⟨rfl, rfl⟩
    have hend := mem_runs_seq.2 ⟨_, hlevel, _, hgt, rfl⟩
    have hmiddle := mem_runs_seq.2 ⟨_, hslash, _, hend, rfl⟩
    rw [ho]
    exact mem_runs_seq.2 ⟨_, hlt, _, hmiddle, rfl⟩

theorem head?_runs_closing (hh : h = 'h' ∨ h = 'H') (s : List Char) :
    (closingRegex.runs foldCase (levelGroups h level) s).head? =
      (level.dropClosing? s).map fun after => ⟨s.take 5, after, levelGroups h level⟩ := by
  cases hs : level.dropClosing? s with
  | none =>
    rw [Option.map_none, List.head?_eq_none_iff, List.eq_nil_iff_forall_not_mem]
    intro o ho
    obtain ⟨c, hc, hclosing, -⟩ := (mem_runs_closing hh).1 ho
    cases hs.symm.trans (Level.dropClosing?_eq_some_iff.2 ⟨c, hc, hclosing⟩)
  | some after =>
    obtain ⟨c, hc, rfl⟩ := Level.dropClosing?_eq_some_iff.1 hs
    have hmem : (⟨closingTag c level.digit, after, levelGroups h level⟩ : Outcome) ∈
        closingRegex.runs foldCase (levelGroups h level) (closingTag c level.digit ++ after) :=
      (mem_runs_closing hh).2 ⟨c, hc, rfl, rfl⟩
    obtain ⟨o, os, hos⟩ := List.exists_cons_of_ne_nil (List.ne_nil_of_mem hmem)
    obtain ⟨d, -, hsource, ho⟩ := (mem_runs_closing hh).1 (hos ▸ List.mem_cons_self : o ∈ _)
    obtain ⟨htag, hrest⟩ := List.append_inj hsource rfl
    rw [hos, ho, ← htag, ← hrest]
    rfl

/-- The line behind the opening tag runs through the first closing tag. -/
theorem head?_runs_line (hh : h = 'h' ∨ h = 'H') (s : List Char) :
    (lineRegex.runs foldCase (levelGroups h level) s).head? =
      (level.closing? s).map fun (taken, after) => ⟨taken, after, levelGroups h level⟩ := by
  induction s with
  | nil =>
    rw [lineRegex, runs_reluctant_nil, head?_runs_closing hh]
    rfl
  | cons c s ih =>
    rw [lineRegex, runs_reluctant_cons, List.head?_append, head?_runs_closing hh, Level.closing?]
    cases level.dropClosing? (c :: s) with
    | some after => rfl
    | none =>
      by_cases hc : c = '\n'
      · have hfeed : (foldCase c != '\n') = false := by
          rw [bne_eq_false_iff_eq]
          exact (foldCase_caseless (by decide)).2 hc
        rw [hfeed, if_neg Bool.false_ne_true, if_pos hc]
        rfl
      · have hmore : (foldCase c != '\n') = true :=
          bne_iff_ne.2 (mt (foldCase_caseless (by decide)).1 hc)
        rw [hmore, if_pos rfl, if_neg hc, List.head?_map, ← lineRegex, ih]
        cases level.closing? s <;> rfl

end Closing

/-! ## The element -/

theorem runs_opening_level (p : Regex) (c d : Char) (s : List Char) :
    (seq levelRegex p).runs foldCase [] (c :: d :: s) =
      if c = 'h' ∨ c = 'H' then
        match Level.ofDigit? d with
        | some level => (p.runs foldCase (levelGroups c level) s).map (Outcome.after [c, d])
        | none => []
      else [] := by
  have hlevel : levelRegex.runs foldCase [] (c :: d :: s) =
      if (c = 'h' ∨ c = 'H') ∧ (Level.ofDigit? d).isSome then [⟨[c, d], s, [(1, [c, d])]⟩]
      else [] := by
    rw [levelRegex, runs, letter, runs_seq_one_cons, runs_one_cons, isLevelDigit_foldCase]
    by_cases hc : c = 'h' ∨ c = 'H'
    · rw [if_pos (beq_iff_eq.2 (foldCase_h.2 hc))]
      by_cases hd : (Level.ofDigit? d).isSome = true <;> simp [hc, hd]
    · rw [if_neg (fun h => hc (foldCase_h.1 (beq_iff_eq.1 h)))]
      simp [hc]
  rw [runs_seq, hlevel]
  by_cases hc : c = 'h' ∨ c = 'H'
  · cases hd : Level.ofDigit? d with
    | none => simp [hc]
    | some level => simp [hc, levelGroups, Level.digit_of_ofDigit hd]
  · simp [hc]

def Heading.groups (e : Heading) : Groups :=
  [(1, (e.source.drop 1).take 2)]

theorem runs_heading (c d : Char) (s : List Char) :
    headingRegex.runs foldCase [] ('<' :: c :: d :: s) =
      if c = 'h' ∨ c = 'H' then
        match Level.ofDigit? d, tagEnd? none s with
        | some level, some (attributes, content) =>
          (lineRegex.runs foldCase (levelGroups c level) content).map
            (Outcome.after ('<' :: c :: d :: attributes))
        | _, _ => []
      else [] := by
  have hlt : (foldCase '<' == '<') = true := beq_iff_eq.2 ((foldCase_caseless (by decide)).2 rfl)
  rw [headingRegex, runs_all_cons, letter, runs_seq_one_cons, if_pos hlt]
  change ((seq levelRegex (seq attributesRegex (seq (letter '>') lineRegex))).runs foldCase []
    (c :: d :: s)).map _ = _
  rw [runs_opening_level]
  by_cases hc : c = 'h' ∨ c = 'H'
  · rw [if_pos hc, if_pos hc]
    cases Level.ofDigit? d with
    | none => rfl
    | some level =>
      simp only [runs_attributes_end keepsMarks_foldCase]
      cases tagEnd? none s with
      | none => rfl
      | some r => simp [Outcome.after_after, Function.comp_def]
  · rw [if_neg hc, if_neg hc]
    rfl

/-- Any other text is too short or does not start with a `<`. -/
theorem runs_heading_of_ne {s : List Char} (h : ∀ c d t, s ≠ '<' :: c :: d :: t) :
    headingRegex.runs foldCase [] s = [] := by
  match s with
  | [] => rfl
  | [_] =>
    rw [headingRegex, runs_all_cons, letter, runs_seq_one_cons]
    split <;> rfl
  | [_, c] =>
    have hlevel : levelRegex.runs foldCase [] [c] = [] := by
      rw [levelRegex, runs, letter, runs_seq_one_cons]
      split <;> rfl
    rw [headingRegex, runs_all_cons, letter, runs_seq_one_cons, runs_all_cons, runs_seq, hlevel]
    split <;> rfl
  | b :: c :: d :: t =>
    have hb : b ≠ '<' := by
      rintro rfl
      exact h c d t rfl
    exact runs_seq_letter_of_ne (mt (foldCase_caseless (by decide)).1 hb) _

/-- The element is what the pattern matches first. -/
theorem first?_heading (s : List Char) : headingRegex.first? foldCase s =
    (readHeading? s).map fun (e, after) => ⟨e.source, after, e.groups⟩ := by
  rw [first?]
  unfold readHeading?
  split
  · rename_i c d t
    rw [runs_heading]
    by_cases hc : c = 'h' ∨ c = 'H'
    · rw [if_pos hc, if_pos hc]
      cases hd : Level.ofDigit? d with
      | none => rfl
      | some level =>
        cases tagEnd? none t with
        | none => rfl
        | some r =>
          obtain ⟨attributes, content⟩ := r
          dsimp only
          rw [List.head?_map, head?_runs_line hc, Option.map_map, Option.map_map]
          obtain rfl := Level.digit_of_ofDigit hd
          rfl
    · rw [if_neg hc, if_neg hc]
      rfl
  · rename_i h
    rw [runs_heading_of_ne h]
    rfl

def Piece.part : Piece → Part
  | .body c => .plain c
  | .heading e => .found e.source e.groups

theorem scan_heading (s : List Char) :
    headingRegex.scan foldCase s = (pieces s).map Piece.part := by
  fun_induction pieces s with
  | case1 => exact scan_nil_of_none (first?_heading [])
  | case2 c rest e after h ih =>
    have hfirst := first?_heading (c :: rest)
    rw [h] at hfirst
    rw [scan_of_first hfirst (length_lt_of_readHeading h), ih]
    rfl
  | case3 c rest h ih =>
    have hfirst := first?_heading (c :: rest)
    rw [h] at hfirst
    rw [scan_cons_of_none hfirst, ih]
    rfl

/-! ## The parts of an element -/

/-- A line, up to the first closing tag of the level in it. -/
structure Level.ClosesLine (level : Level) (line closing after : List Char) : Prop where
  isClosing : ∃ h, (h = 'h' ∨ h = 'H') ∧ closing = closingTag h level.digit
  sameLine : '\n' ∉ line
  first : ∀ t, t <:+ line → t ≠ [] → level.dropClosing? (t ++ (closing ++ after)) = none

section Lines

variable {level : Level} {c : Char} {s line taken closing after : List Char}

theorem Level.ClosesLine.nil (hclosing : ∃ h, (h = 'h' ∨ h = 'H') ∧
    closing = closingTag h level.digit) : level.ClosesLine [] closing after :=
  ⟨hclosing, List.not_mem_nil, fun _ ht hne => absurd (List.suffix_nil.1 ht) hne⟩

/-- A line goes on over a character that neither starts a closing tag nor ends the line. -/
theorem Level.closesLine_cons : level.ClosesLine (c :: line) closing after ↔
    level.dropClosing? (c :: (line ++ (closing ++ after))) = none ∧ c ≠ '\n' ∧
      level.ClosesLine line closing after := by
  constructor
  · intro hl
    exact ⟨hl.first (c :: line) List.suffix_rfl (List.cons_ne_nil c line),
      fun he => hl.sameLine (he ▸ List.mem_cons_self), hl.isClosing,
      fun h => hl.sameLine (List.mem_cons_of_mem c h),
      fun t ht => hl.first t (ht.trans (List.suffix_cons c line))⟩
  · rintro ⟨hd, hc, hl⟩
    refine ⟨hl.isClosing, ?_, fun t ht hne => ?_⟩
    · rw [List.mem_cons, not_or]
      exact ⟨Ne.symm hc, hl.sameLine⟩
    · rcases List.suffix_cons_iff.1 ht with rfl | ht
      · exact hd
      · exact hl.first t ht hne

theorem Level.ClosesLine.closing? (hl : level.ClosesLine line closing after) :
    level.closing? (line ++ (closing ++ after)) = some (line ++ closing, after) := by
  induction line with
  | nil =>
    obtain ⟨x, hx, rfl⟩ := hl.isClosing
    have hd : level.dropClosing? (closingTag x level.digit ++ after) = some after :=
      Level.dropClosing?_eq_some_iff.2 ⟨x, hx, rfl⟩
    rw [closingTag, List.cons_append] at hd
    rw [List.nil_append, closingTag, List.cons_append, Level.closing?, hd]
    rfl
  | cons c line ih =>
    obtain ⟨hd, hc, hl⟩ := Level.closesLine_cons.1 hl
    rw [List.cons_append, Level.closing?, hd]
    dsimp only
    rw [if_neg hc, ih hl]
    rfl

theorem Level.exists_closesLine (h : level.closing? s = some (taken, after)) :
    ∃ line closing, level.ClosesLine line closing after ∧ taken = line ++ closing ∧
      s = line ++ (closing ++ after) := by
  induction s generalizing taken with
  | nil => cases h
  | cons c s ih =>
    rw [Level.closing?] at h
    cases hd : level.dropClosing? (c :: s) with
    | some rest =>
      rw [hd] at h
      cases h
      obtain ⟨x, hx, hs⟩ := Level.dropClosing?_eq_some_iff.1 hd
      refine ⟨[], closingTag x level.digit, .nil ⟨x, hx, rfl⟩, ?_, hs⟩
      rw [hs]
      rfl
    | none =>
      rw [hd] at h
      dsimp only at h
      split at h
      · cases h
      · rename_i hc
        obtain ⟨⟨body, rest⟩, hbody, he⟩ := Option.map_eq_some_iff.1 h
        cases he
        obtain ⟨line, closing, hl, rfl, rfl⟩ := ih hbody
        exact ⟨c :: line, closing, Level.closesLine_cons.2 ⟨hd, hc, hl⟩, rfl, rfl⟩

end Lines

/-- How a heading element before `after` is made up. Its attributes run through the first `>`
outside quotes. -/
structure ElementForm (level : Level) (name attributes line closing after : List Char) : Prop where
  names : level.Names name
  ends : tagEnd? none (attributes ++ (line ++ (closing ++ after))) =
    some (attributes, line ++ (closing ++ after))
  closes : level.ClosesLine line closing after

theorem readHeading?_eq_some_iff {level : Level} {s source after : List Char} :
    readHeading? s = some (⟨level, source⟩, after) ↔ ∃ name attributes line closing,
      ElementForm level name attributes line closing after ∧
        source = '<' :: name ++ attributes ++ line ++ closing ∧ s = source ++ after := by
  constructor
  · intro h
    have hs : source ++ after = s := readHeading?_append h
    unfold readHeading? at h
    split at h
    · rename_i c d t
      split at h
      · rename_i hc
        split at h
        · cases h
        · rename_i level' hd
          split at h
          · cases h
          · rename_i attributes content hend
            obtain ⟨⟨taken, rest⟩, hclosing, he⟩ := Option.map_eq_some_iff.1 h
            cases he
            obtain ⟨line, closing, hl, rfl, rfl⟩ := Level.exists_closesLine hclosing
            obtain rfl := Level.digit_of_ofDigit hd
            refine ⟨[c, level.digit], attributes, line, closing, ⟨?_, ?_, hl⟩, ?_, hs.symm⟩
            · exact Level.names_iff.2 ⟨c, hc, rfl⟩
            · rw [tagEnd?_append hend]
              exact hend
            · simp
      · cases h
    · cases h
  · rintro ⟨name, attributes, line, closing, hform, rfl, rfl⟩
    obtain ⟨c, hc, rfl⟩ := Level.names_iff.1 hform.names
    have hs : '<' :: [c, level.digit] ++ attributes ++ line ++ closing ++ after =
        '<' :: c :: level.digit :: (attributes ++ (line ++ (closing ++ after))) := by simp
    rw [hs, readHeading?, if_pos hc, Level.ofDigit?_digit]
    simp [hform.ends, hform.closes.closing?]

theorem first?_heading_iff {s : List Char} {o : Outcome} :
    headingRegex.first? foldCase s = some o ↔ ∃ level name attributes line closing,
      ElementForm level name attributes line closing o.rest ∧
        o.taken = '<' :: name ++ attributes ++ line ++ closing ∧ o.groups = [(1, name)] ∧
        s = o.taken ++ o.rest := by
  rw [first?_heading, Option.map_eq_some_iff]
  constructor
  · rintro ⟨⟨⟨level, source⟩, after⟩, hread, rfl⟩
    obtain ⟨name, attributes, line, closing, hform, rfl, rfl⟩ := readHeading?_eq_some_iff.1 hread
    refine ⟨level, name, attributes, line, closing, hform, rfl, ?_, rfl⟩
    obtain ⟨c, -, rfl⟩ := Level.names_iff.1 hform.names
    rfl
  · rintro ⟨level, name, attributes, line, closing, hform, htaken, hgroups, hs⟩
    refine ⟨(⟨level, o.taken⟩, o.rest), ?_, ?_⟩
    · exact readHeading?_eq_some_iff.2 ⟨name, attributes, line, closing, hform, htaken, hs⟩
    · obtain ⟨c, -, rfl⟩ := Level.names_iff.1 hform.names
      obtain ⟨taken, rest, g⟩ := o
      cases htaken
      cases hgroups
      rfl

/-- Searching with the patterns finds what reading in one pass finds: the items of a text, of which
those stay that are allowed, and the heading elements, each as far as the first closing tag. -/
theorem regex_reads :
    (∀ s, markupRegex.scan id s = (items s).map Item.part) ∧
    (∀ allowed s, markupRegex.replace id (keepAllowed allowed) s = stripTags allowed s) ∧
    (∀ s o, headingRegex.first? foldCase s = some o ↔ ∃ level name attributes line closing,
      ElementForm level name attributes line closing o.rest ∧
        o.taken = '<' :: name ++ attributes ++ line ++ closing ∧ o.groups = [(1, name)] ∧
        s = o.taken ++ o.rest) ∧
    ∀ s, headingRegex.scan foldCase s = (pieces s).map Piece.part :=
  ⟨scan_markup, replace_markup, fun _ _ => first?_heading_iff, scan_heading⟩

end ContentIndex.Markup
