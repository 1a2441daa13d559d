import ContentIndex.Proofs.Markup.Attributes
import ContentIndex.Proofs.Regex.Matching

/-!
# Markup as a pattern

Comments, other directives and tags are what one pattern matches. Its first outcome is the item that
is read in one pass: wherever it has a choice, the first one already leads to a match.
-/

namespace ContentIndex.Markup

set_option autoImplicit false

open Text Regex

def quotedRegex (q : Char) : Regex :=
  .all [.letter q, .many true (.one (· != q)), .alt (.letter q) .finish]

/-- A character of a tag after its name, or a quoted stretch, which may run to the end. -/
def attributeRegex : Regex :=
  .alt (.alt (quotedRegex '"') (quotedRegex '\''))
    (.one fun c => !(c == '"' || c == '\'' || c == '>'))

def attributesRegex : Regex :=
  .many true attributeRegex

def closedRegex : Regex :=
  .alt (.letter '>') .finish

def commentRegex : Regex :=
  .all [.word ['<', '!', '-', '-'], .many false (.one fun _ => true),
    .alt (.word commentEnd) .finish]

def directiveRegex : Regex :=
  .all [.letter '<', .one fun c => c == '!' || c == '?', .many true (.one (· != '>')), closedRegex]

def nameRegex : Regex :=
  .seq (.one isAsciiLetter) (.many true (.one isNameChar))

def openingRegex : Regex :=
  .seq (.letter '<') (.alt (.letter '/') .nothing)

def tagRegex : Regex :=
  .all [openingRegex, .group 1 nameRegex, attributesRegex, closedRegex]

def markupRegex : Regex :=
  .alt (.alt commentRegex directiveRegex) tagRegex

/-! ## The rest of a tag -/

/-- Characters that are compared as such, whether case counts or not. -/
structure KeepsMarks (fold : Char → Char) : Prop where
  fold_eq_iff : ∀ x ∈ ['"', '\'', '>', '<', '/', '\n'], ∀ c, fold c = x ↔ c = x

theorem keepsMarks_id : KeepsMarks id :=
  ⟨fun _ _ _ => Iff.rfl⟩

section Attributes

variable {fold : Char → Char} {g : Groups} {q c : Char} {s : List Char}

theorem KeepsMarks.quote (hk : KeepsMarks fold) (hq : IsQuote q) (c : Char) :
    fold c = q ↔ c = q := by
  rcases hq with rfl | rfl <;> exact hk.fold_eq_iff _ (by simp) c

theorem KeepsMarks.end (hk : KeepsMarks fold) (c : Char) : fold c = '>' ↔ c = '>' :=
  hk.fold_eq_iff _ (by simp) c

/-- How a text is gone through within a tag: to its end, to a `>`, character by character, and over
quoted stretches as a whole. -/
theorem tagInduction {P : List Char → Prop} (nil : P []) (done : ∀ s, P ('>' :: s))
    (plain : ∀ c s, ¬ IsQuote c → c ≠ '>' → P s → P (c :: s))
    (unclosed : ∀ q s, IsQuote q → q ∉ s → P (q :: s))
    (quoted : ∀ q run s, IsQuote q → q ∉ run → P s → P (q :: (run ++ q :: s)))
    (s : List Char) : P s := by
  induction hn : s.length using Nat.strongRecOn generalizing s with
  | ind n ih =>
    cases s with
    | nil => exact nil
    | cons c s =>
      by_cases hend : c = '>'
      · exact hend ▸ done s
      by_cases hquote : IsQuote c
      · by_cases hmem : c ∈ s
        · obtain ⟨run, after, rfl, hrun⟩ := List.eq_append_cons_of_mem hmem
          refine quoted c run after hquote hrun (ih _ ?_ after rfl)
          rw [← hn, List.length_cons, List.length_append, List.length_cons]
          omega
        · exact unclosed c s hquote hmem
      · exact plain c s hquote hend (ih _ (hn ▸ Nat.lt_succ_self _) s rfl)

theorem tagEnd?_plain (hq : ¬ IsQuote c) (hc : c ≠ '>') (s : List Char) :
    tagEnd? none (c :: s) = (tagEnd? none s).map fun (taken, after) => ([c] ++ taken, after) :=
  (Balanced.char hq hc .nil).tagEnd? s

theorem tagEnd?_unclosed (hq : IsQuote q) (hs : q ∉ s) : tagEnd? none (q :: s) = none := by
  have hquote : q = '"' ∨ q = '\'' := hq
  have hopen : quoteAfter? none (q :: s) = some (some q) := by
    rw [quoteAfter?, if_neg hq.ne_end, if_pos hquote, quoteAfter?_of_not_mem hs]
  have hend := tagEnd?_of_quoteAfter hopen []
  rw [List.append_nil] at hend
  rw [hend]
  rfl

theorem tagEnd?_quoted (hq : IsQuote q) {run : List Char} (hrun : q ∉ run) (s : List Char) :
    tagEnd? none (q :: (run ++ q :: s)) =
      (tagEnd? none s).map fun (taken, after) => (q :: run ++ [q] ++ taken, after) := by
  have hend := (Balanced.quoted hq hrun .nil).tagEnd? s
  rw [List.cons_append, List.append_assoc] at hend
  exact hend

/-! ## Attributes -/

theorem KeepsMarks.inside (hk : KeepsMarks fold) (hq : IsQuote q) {run : List Char}
    (hrun : q ∉ run) : ∀ c ∈ run, (fold c != q) = true := by
  intro c hc
  rw [bne_iff_ne, Ne, hk.quote hq]
  exact fun he => hrun (he ▸ hc)

theorem first_quoted_unclosed (hk : KeepsMarks fold) (hq : IsQuote q) (hs : q ∉ s) :
    First fold (quotedRegex q) g (q :: s) ⟨q :: s, [], g⟩ := by
  have hopen : First fold (.letter q) g (q :: s) ⟨[q], s, g⟩ :=
    first_one (by simp [(hk.quote hq q).2 rfl])
  have hrun : First fold (.many true (.one (· != q))) g (s ++ []) ⟨s, [], g⟩ :=
    first_many_run (hk.inside hq hs) nofun
  rw [List.append_nil] at hrun
  have hend : First fold (.alt (.letter q) .finish) g [] ⟨[], [], g⟩ := rfl
  have hall : First fold (quotedRegex q) g (q :: s) _ := hopen.seq (hrun.seq hend)
  simpa using hall

theorem runs_quoted (hk : KeepsMarks fold) (hq : IsQuote q) {run : List Char} (hrun : q ∉ run) :
    (quotedRegex q).runs fold g (q :: (run ++ q :: s)) = [⟨q :: run ++ [q], s, g⟩] := by
  have hquote : fold q = q := (hk.quote hq q).2 rfl
  have hclose : (Regex.alt (.letter q) .finish).runs fold g (q :: s) = [⟨[q], s, g⟩] := by
    have hnewline : q ≠ '\n' := by rcases hq with rfl | rfl <;> decide
    simp [runs_alt, letter, runs_one_cons, runs_finish, hquote, hnewline]
  have hback : ∀ c t, (Regex.alt (.letter q) .finish).runs fold g (c :: t ++ q :: s) = [] ∨
      ¬ c :: t <:+ run := by
    intro c t
    by_cases hsuffix : c :: t <:+ run
    · have hc : c ≠ q := fun he => hrun (hsuffix.subset (he ▸ List.mem_cons_self))
      refine .inl ?_
      simp [runs_alt, letter, runs_one_cons, runs_finish, hk.quote hq, hc]
    · exact .inr hsuffix
  have hstop : ∀ c ∈ (q :: s).head?, (fold c != q) = false := by
    rintro c ⟨⟩
    simp [hquote]
  have hmiddle : (seq (.many true (.one (· != q))) (.alt (.letter q) .finish)).runs fold g
      (run ++ q :: s) = _ := runs_seq_many_run (hk.inside hq hrun) hstop hback
  have hopen : (fold q == q) = true := beq_iff_eq.2 hquote
  rw [quotedRegex, runs_all_cons, letter, runs_seq_one_cons, if_pos hopen]
  change ((seq (.many true (.one (· != q))) (.alt (.letter q) .finish)).runs fold g
    (run ++ q :: s)).map _ = _
  rw [hmiddle, hclose]
  rfl

theorem runs_quoted_of_ne (hk : KeepsMarks fold) (hq : IsQuote q) (hc : c ≠ q) :
    (quotedRegex q).runs fold g (c :: s) = [] :=
  runs_seq_letter_of_ne (mt (hk.quote hq c).1 hc) _

theorem runs_attribute_quote (hk : KeepsMarks fold) (hq : IsQuote q) :
    attributeRegex.runs fold g (q :: s) = (quotedRegex q).runs fold g (q :: s) := by
  have hplain : (Regex.one fun c => !(c == '"' || c == '\'' || c == '>')).runs fold g (q :: s) =
      [] := by
    rw [runs_one_cons, (hk.quote hq q).2 rfl]
    rcases hq with rfl | rfl <;> rfl
  rw [attributeRegex, runs_alt, runs_alt, hplain, List.append_nil]
  rcases hq with rfl | rfl
  · rw [runs_quoted_of_ne hk (.inr rfl) (by decide), List.append_nil]
  · rw [runs_quoted_of_ne hk (.inl rfl) (by decide), List.nil_append]

/-- Behind no quote an attribute goes on by one character, unless the tag ends. -/
theorem runs_attribute (hk : KeepsMarks fold) (hq : ¬ IsQuote c) (g : Groups) (s : List Char) :
    attributeRegex.runs fold g (c :: s) = if c = '>' then [] else [⟨[c], s, g⟩] := by
  have hdouble : c ≠ '"' := fun he => hq (.inl he)
  have hsingle : c ≠ '\'' := fun he => hq (.inr he)
  rw [attributeRegex, runs_alt, runs_alt, runs_quoted_of_ne hk (.inl rfl) hdouble,
    runs_quoted_of_ne hk (.inr rfl) hsingle, runs_one_cons]
  by_cases hc : c = '>'
  · simp [hk.end, hc]
  · simp [hk.quote (.inl rfl), hk.quote (.inr rfl), hk.end, hdouble, hsingle, hc]

/-- What attributes leave: the `>` that ends the tag, or nothing. -/
inductive Leaves (s body : List Char) : List Char → Prop
  | closed {after : List Char} (h : tagEnd? none s = some (body ++ ['>'], after)) :
    Leaves s body ('>' :: after)
  | unclosed (h : tagEnd? none s = none) (hbody : body = s) : Leaves s body []

theorem Leaves.append {t before body rest : List Char}
    (h : tagEnd? none s = (tagEnd? none t).map fun (taken, after) => (before ++ taken, after))
    (hs : s = before ++ t) (hl : Leaves t body rest) : Leaves s (before ++ body) rest := by
  cases hl with
  | closed ht =>
    refine .closed ?_
    rw [h, ht, Option.map_some, List.append_assoc]
  | unclosed ht hbody =>
    refine .unclosed ?_ (by rw [hs, hbody])
    rw [h, ht, Option.map_none]

/-- The attributes are all that stands before the first `>` outside quotes. -/
theorem first_attributes (hk : KeepsMarks fold) (g : Groups) (s : List Char) :
    ∃ body rest, First fold attributesRegex g s ⟨body, rest, g⟩ ∧ Leaves s body rest := by
  have hnothing : First fold attributesRegex g [] ⟨[], [], g⟩ := first_many_of_none rfl
  induction s using tagInduction with
  | nil => exact ⟨[], [], hnothing, .unclosed rfl rfl⟩
  | done s =>
    have hstop : attributeRegex.runs fold g ('>' :: s) = [] :=
      runs_attribute hk (by decide) g s
    exact ⟨[], _, first_many_of_none hstop, .closed rfl⟩
  | plain c s hq hc ih =>
    obtain ⟨body, rest, hmore, hleaves⟩ := ih
    have hfirst : First fold attributeRegex g (c :: s) ⟨[c], s, g⟩ := by
      rw [First, runs_attribute hk hq, if_neg hc]
      rfl
    exact ⟨_, _, hfirst.many (Nat.lt_succ_self _) hmore, hleaves.append (tagEnd?_plain hq hc s) rfl⟩
  | unclosed q s hq hs =>
    have hfirst : First fold attributeRegex g (q :: s) ⟨q :: s, [], g⟩ := by
      rw [First, runs_attribute_quote hk hq]
      exact first_quoted_unclosed hk hq hs
    have hall := hfirst.many (Nat.succ_pos _) hnothing
    rw [Outcome.after_mk, List.append_nil] at hall
    exact ⟨_, _, hall, .unclosed (tagEnd?_unclosed hq hs) rfl⟩
  | quoted q run s hq hrun ih =>
    obtain ⟨body, rest, hmore, hleaves⟩ := ih
    have hfirst : First fold attributeRegex g (q :: (run ++ q :: s)) ⟨q :: run ++ [q], s, g⟩ := by
      rw [First, runs_attribute_quote hk hq, runs_quoted hk hq hrun]
      rfl
    have hlt : s.length < (q :: (run ++ q :: s)).length := by
      rw [List.length_cons, List.length_append, List.length_cons]
      omega
    refine ⟨_, _, hfirst.many hlt hmore, hleaves.append (tagEnd?_quoted hq hrun s) ?_⟩
    simp

end Attributes

/-! ## Items -/

section Items

variable {g : Groups} {s : List Char}

theorem runs_word (w : List Char) (g : Groups) (s : List Char) :
    (word w).runs id g s = ((rest? w s).map fun rest => ⟨w, rest, g⟩).toList := by
  induction w generalizing s with
  | nil => rfl
  | cons c w ih =>
    cases s with
    | nil => cases w <;> rfl
    | cons d s =>
      have hstep : (word (c :: w)).runs id g (d :: s) =
          if d = c then ((word w).runs id g s).map (Outcome.after [d]) else [] := by
        cases w with
        | nil =>
          rw [word, List.map_singleton, all, letter, runs_one_cons]
          by_cases hd : d = c <;> simp [hd, word, all, runs]
        | cons e w =>
          rw [word, List.map_cons, List.map_cons, runs_all_cons, letter, runs_seq_one_cons]
          by_cases hd : d = c <;> simp [hd, word, letter]
      rw [hstep, ih]
      by_cases hd : d = c
      · subst hd
        cases hr : rest? w s <;> simp [rest?, hr]
      · have hne : (c == d) = false := beq_false_of_ne (Ne.symm hd)
        simp [rest?, hd, hne]

theorem readComment_cons {c : Char} {taken rest : List Char}
    (hmark : rest? commentEnd (c :: s) = none) (hlast : c :: s ≠ ['\n'])
    (h : readComment s = (.directive (['<', '!', '-', '-'] ++ taken), rest)) :
    readComment (c :: s) = (.directive (['<', '!', '-', '-'] ++ c :: taken), rest) := by
  unfold readComment at h ⊢
  rw [cut?, hmark]
  cases hcut : cut? commentEnd s with
  | some p =>
    simp only [hcut, Prod.mk.injEq, Item.directive.injEq, List.append_assoc,
      List.append_cancel_left_eq] at h
    simp [← h.1, h.2]
  | none =>
    simp only [hcut] at h
    have hend : (c :: s).getLast? = some '\n' ↔ s.getLast? = some '\n' := by
      cases s with
      | nil => simpa using hlast
      | cons d s => rw [List.getLast?_cons_cons]
    simp only [Option.map_none, hend]
    split
    · rename_i hs
      rw [if_pos hs] at h
      have hne : s ≠ [] := by rintro rfl; cases hs
      simp_all [List.dropLast_cons_of_ne_nil]
    · rename_i hs
      rw [if_neg hs] at h
      simp_all

/-- A comment ends where its end mark, the end of the text or a last line feed comes first. -/
theorem first_commentRest (g : Groups) (s : List Char) :
    ∃ taken rest, readComment s = (.directive (['<', '!', '-', '-'] ++ taken), rest) ∧
      First id (.seq (.many false (.one fun _ => true)) (.alt (word commentEnd) .finish)) g s
        ⟨taken, rest, g⟩ := by
  induction s with
  | nil => exact ⟨[], [], rfl, by rw [First, runs_reluctant_nil]; rfl⟩
  | cons c s ih =>
    cases hmark : rest? commentEnd (c :: s) with
    | some after =>
      refine ⟨commentEnd, after, by simp [readComment, cut?, hmark], ?_⟩
      rw [First, runs_reluctant_cons, runs_alt, runs_word, hmark]
      rfl
    | none =>
      by_cases hlast : c :: s = ['\n']
      · cases hlast
        exact ⟨[], ['\n'], rfl, by rw [First, runs_reluctant_cons]; rfl⟩
      · obtain ⟨taken, rest, hread, hfirst⟩ := ih
        refine ⟨c :: taken, rest, readComment_cons hmark hlast hread, ?_⟩
        have hnone : (Regex.alt (word commentEnd) .finish).runs id g (c :: s) = [] := by
          rw [runs_alt, runs_word, hmark, runs_finish, if_neg]
          · rfl
          · simpa using hlast
        obtain ⟨os, hos⟩ := hfirst.exists_cons
        rw [First, runs_reluctant_cons, hnone, if_pos rfl, hos]
        rfl

theorem first_comment (g : Groups) (s : List Char) :
    ∃ taken rest, readComment s = (.directive taken, rest) ∧
      First id commentRegex g (['<', '!', '-', '-'] ++ s) ⟨taken, rest, g⟩ := by
  obtain ⟨taken, rest, hread, hfirst⟩ := first_commentRest g s
  have hopen : First id (word ['<', '!', '-', '-']) g (['<', '!', '-', '-'] ++ s)
      ⟨['<', '!', '-', '-'], s, g⟩ := by
    rw [First, runs_word, rest?_self_append]
    rfl
  exact ⟨_, rest, hread, hopen.seq hfirst⟩

/-- A tag or directive that is not closed runs to the end. -/
theorem first_closed (g : Groups) (s : List Char) :
    First id closedRegex g ('>' :: s) ⟨['>'], s, g⟩ ∧ First id closedRegex g [] ⟨[], [], g⟩ :=
  ⟨(first_one rfl).left _, rfl⟩

theorem first_directive {opening : List Char} {c : Char} (hc : c = '!' ∨ c = '?')
    (ho : opening = ['<', c]) (g : Groups) (s : List Char) :
    ∃ taken rest, readDirective opening s = (.directive taken, rest) ∧
      First id directiveRegex g (opening ++ s) ⟨taken, rest, g⟩ := by
  subst ho
  have hopen : First id (.letter '<') g ('<' :: c :: s) ⟨['<'], c :: s, g⟩ := first_one rfl
  have hkind : First id (.one fun c => c == '!' || c == '?') g (c :: s) ⟨[c], s, g⟩ :=
    first_one (by simpa using hc)
  have hinside : ∀ run : List Char, '>' ∉ run → ∀ d ∈ run, (id d != '>') = true := by
    intro run hrun d hd
    rw [bne_iff_ne]
    exact fun he => hrun (he ▸ hd)
  by_cases hmem : '>' ∈ s
  · obtain ⟨run, after, rfl, hrun⟩ := List.eq_append_cons_of_mem hmem
    have hmiddle : First id (.many true (.one (· != '>'))) g (run ++ '>' :: after)
        ⟨run, '>' :: after, g⟩ := by
      refine first_many_run (hinside run hrun) fun d hd => ?_
      cases hd
      rfl
    refine ⟨['<', c] ++ run ++ ['>'], after, by rw [readDirective, cut?_first hrun], ?_⟩
    exact hopen.seq (hkind.seq (hmiddle.seq (first_closed g after).1))
  · have hmiddle : First id (.many true (.one (· != '>'))) g (s ++ []) ⟨s, [], g⟩ :=
      first_many_run (hinside s hmem) fun d hd => by cases hd
    rw [List.append_nil] at hmiddle
    have hall : First id directiveRegex g (['<', c] ++ s) _ :=
      hopen.seq (hkind.seq (hmiddle.seq (first_closed g []).2))
    refine ⟨['<', c] ++ s, [], by rw [readDirective, cut?_of_not_mem hmem], ?_⟩
    simpa using hall

theorem first_name {c : Char} (hc : isAsciiLetter c = true) (g : Groups) (s : List Char) :
    First id nameRegex g (c :: s)
      ⟨(c :: s).takeWhile isNameChar, (c :: s).dropWhile isNameChar, g⟩ := by
  have hname : isNameChar c = true := isNameChar_of_isAsciiLetter hc
  have hrest : First id (.many true (.one isNameChar)) g
      (s.takeWhile isNameChar ++ s.dropWhile isNameChar)
      ⟨s.takeWhile isNameChar, s.dropWhile isNameChar, g⟩ := by
    refine first_many_run (List.all_eq_true.1 List.all_takeWhile) fun d hd => ?_
    have hhead := List.head?_dropWhile_not isNameChar s
    rw [hd] at hhead
    simpa using hhead
  rw [List.takeWhile_append_dropWhile] at hrest
  rw [List.takeWhile_cons_of_pos hname, List.dropWhile_cons_of_pos hname]
  exact (first_one (s := s) hc).seq hrest

theorem first_opening {opening : List Char} {c : Char} (ho : IsTagOpening opening)
    (hc : isAsciiLetter c = true) (g : Groups) (s : List Char) :
    First id openingRegex g (opening ++ c :: s) ⟨opening, c :: s, g⟩ := by
  have hslash : c ≠ '/' := by rintro rfl; exact absurd hc (by decide)
  have hlt : ∀ s, First id (.letter '<') g ('<' :: s) ⟨['<'], s, g⟩ := fun s => first_one rfl
  rcases ho with rfl | rfl
  · have hnone : (Regex.letter '/').runs id g (c :: s) = [] := by
      rw [letter, runs_one_cons, if_neg (by simpa using hslash)]
    have hnothing : First id .nothing g (c :: s) ⟨[], c :: s, g⟩ := rfl
    exact (hlt (c :: s)).seq (.right hnone hnothing)
  · have hfirst : First id (.letter '/') g ('/' :: c :: s) ⟨['/'], c :: s, g⟩ := first_one rfl
    exact (hlt ('/' :: c :: s)).seq (hfirst.left _)

theorem first_tag {opening : List Char} {c : Char} (ho : IsTagOpening opening)
    (hc : isAsciiLetter c = true) (s : List Char) :
    ∃ name taken rest, readTag opening (c :: s) = (.tag name taken, rest) ∧
      First id tagRegex [] (opening ++ c :: s) ⟨taken, rest, [(1, name)]⟩ := by
  have hname := (first_name hc [] s).group 1
  obtain ⟨body, rest, hbody, hleaves⟩ := first_attributes keepsMarks_id
    [(1, (c :: s).takeWhile isNameChar)] ((c :: s).dropWhile isNameChar)
  have hopening := first_opening ho hc [] s
  let name := (c :: s).takeWhile isNameChar
  cases hleaves with
  | @closed after hend =>
    refine ⟨name, opening ++ name ++ (body ++ ['>']), after, by simp only [readTag, hend, name], ?_⟩
    have hall : First id tagRegex [] (opening ++ c :: s) _ :=
      hopening.seq (hname.seq (hbody.seq (first_closed _ _).1))
    simpa [name] using hall
  | unclosed hend hbody' =>
    refine ⟨name, opening ++ name ++ body, [], by simp only [readTag, hend, name, hbody'], ?_⟩
    have hall : First id tagRegex [] (opening ++ c :: s) _ :=
      hopening.seq (hname.seq (hbody.seq (first_closed _ []).2))
    simpa [name] using hall

/-! ## Where no alternative starts -/

theorem runs_comment_of_none (h : rest? ['<', '!', '-', '-'] s = none) :
    commentRegex.runs id g s = [] := by
  rw [commentRegex, runs_all_cons, runs_seq, runs_word, h]
  rfl

theorem runs_directive_of_ne {c : Char} (hc : c ≠ '!' ∧ c ≠ '?') :
    directiveRegex.runs id g ('<' :: c :: s) = [] := by
  have hkind : (id c == '!' || id c == '?') = false := by simpa using hc
  rw [directiveRegex, runs_all_cons, letter, runs_seq_one_cons, runs_all_cons, runs_seq_one_cons,
    hkind]
  rfl

theorem runs_opening_slash (g : Groups) (s : List Char) :
    openingRegex.runs id g ('<' :: '/' :: s) = [⟨['<', '/'], s, g⟩, ⟨['<'], '/' :: s, g⟩] := rfl

theorem runs_opening {c : Char} (hc : c ≠ '/') :
    openingRegex.runs id g ('<' :: c :: s) = [⟨['<'], c :: s, g⟩] := by
  have hslash : (Regex.letter '/').runs id g (c :: s) = [] := by
    rw [letter, runs_one_cons, if_neg (by simpa using hc)]
  rw [openingRegex, letter, runs_seq_one_cons, runs_alt, hslash]
  rfl

/-- A name starts with a letter. -/
theorem runs_name_of_not_letter (h : ∀ c ∈ s.head?, isAsciiLetter c = false) :
    (all [.group 1 nameRegex, attributesRegex, closedRegex]).runs id g s = [] := by
  have hname : nameRegex.runs id g s = [] := by
    cases s with
    | nil => rfl
    | cons c s => rw [nameRegex, runs_seq_one_cons, if_neg (by simp [h c rfl])]
  rw [runs_all_cons, runs_seq, runs, hname]
  rfl

theorem runs_tag_of_none {c : Char} (h : startsMarkup ('<' :: c :: s) = false) :
    tagRegex.runs id g ('<' :: c :: s) = [] := by
  rw [tagRegex, runs_all_cons, runs_seq]
  by_cases hc : c = '/'
  · subst hc
    have hletter : ∀ d ∈ s.head?, isAsciiLetter d = false := by
      intro d hd
      cases s with
      | nil => cases hd
      | cons e s =>
        cases hd
        exact h
    have hslash : ∀ d ∈ ('/' :: s).head?, isAsciiLetter d = false := by
      rintro d ⟨⟩
      decide
    simp [runs_opening_slash, runs_name_of_not_letter hletter, runs_name_of_not_letter hslash]
  · have hletter : ∀ d ∈ (c :: s).head?, isAsciiLetter d = false := by
      rintro d ⟨⟩
      rw [startsMarkup.eq_def] at h
      split at h <;> simp_all
    simp [runs_opening hc, runs_name_of_not_letter hletter]

theorem runs_of_ne_lt {c : Char} (hc : c ≠ '<') :
    directiveRegex.runs id g (c :: s) = [] ∧ tagRegex.runs id g (c :: s) = [] := by
  have hopening : openingRegex.runs id g (c :: s) = [] := runs_seq_letter_of_ne hc _
  refine ⟨runs_seq_letter_of_ne hc _, ?_⟩
  rw [tagRegex, runs_all_cons, runs_seq, hopening]
  rfl

/-- Where no item starts nothing matches. -/
theorem runs_markup_of_none (h : startsMarkup s = false) : markupRegex.runs id [] s = [] := by
  have hcomment : commentRegex.runs id [] s = [] := by
    refine runs_comment_of_none ?_
    cases hr : rest? ['<', '!', '-', '-'] s with
    | none => rfl
    | some rest =>
      rw [rest?_eq_some hr] at h
      cases h
  rw [markupRegex, runs_alt, runs_alt, hcomment]
  match s with
  | [] => rfl
  | c :: s =>
    by_cases hlt : c = '<'
    · subst hlt
      match s with
      | [] => rfl
      | d :: s =>
        have hkind : d ≠ '!' ∧ d ≠ '?' := by
          refine ⟨?_, ?_⟩ <;> (rintro rfl; cases h)
        rw [runs_directive_of_ne hkind, runs_tag_of_none h]
        rfl
    · rw [(runs_of_ne_lt hlt).1, (runs_of_ne_lt hlt).2]
      rfl

theorem IsDirective.opening {opening t : List Char} (h : IsDirective opening t) :
    ∃ c, (c = '!' ∨ c = '?') ∧ opening = ['<', c] := by
  rcases h with ⟨ho, -⟩ | ho
  · exact ⟨'!', .inl rfl, ho⟩
  · exact ⟨'?', .inr rfl, ho⟩

theorem IsDirective.rest?_comment {opening t : List Char} (h : IsDirective opening t) :
    rest? ['<', '!', '-', '-'] (opening ++ t) = none := by
  cases hr : rest? ['<', '!', '-', '-'] (opening ++ t) with
  | none => rfl
  | some rest =>
    have hs : opening ++ t = ['<', '!', '-', '-'] ++ rest := rest?_eq_some hr
    rcases h with ⟨rfl, ht⟩ | rfl
    · simp only [List.cons_append, List.nil_append, List.cons.injEq, true_and] at hs
      exact absurd hs (ht rest)
    · cases hs

/-- Where a tag starts, neither a comment nor a directive does. -/
theorem runs_of_tag {opening : List Char} {c : Char} (ho : IsTagOpening opening)
    (hc : isAsciiLetter c = true) (g : Groups) (t : List Char) :
    commentRegex.runs id g (opening ++ c :: t) = [] ∧
      directiveRegex.runs id g (opening ++ c :: t) = [] := by
  have hletter : c ≠ '!' ∧ c ≠ '?' := by
    refine ⟨?_, ?_⟩ <;> (rintro rfl; exact absurd hc (by decide))
  rcases ho with rfl | rfl
  · have hmark : ('!' == c) = false := beq_false_of_ne (Ne.symm hletter.1)
    exact ⟨runs_comment_of_none (by simp [rest?, hmark]), runs_directive_of_ne hletter⟩
  · exact ⟨runs_comment_of_none rfl, runs_directive_of_ne (by decide)⟩

end Items

/-! ## Matches are items -/

def Item.groups : Item → Groups
  | .tag name _ => [(1, name)]
  | _ => []

def Item.part : Item → Part
  | .plain c => .plain c
  | .directive s => .found s []
  | .tag name s => .found s [(1, name)]

theorem first?_markup (s : List Char) :
    markupRegex.first? id s = (readItem? s).map fun (i, after) => ⟨i.source, after, i.groups⟩ := by
  cases h : readItem? s with
  | none =>
    rw [first?, runs_markup_of_none (readItem?_eq_none_iff.1 h)]
    rfl
  | some p =>
    obtain ⟨i, after⟩ := p
    rcases readItem?_cases h with
      ⟨t, rfl, ht⟩ | ⟨opening, t, rfl, ho, ht⟩ | ⟨opening, c, t, rfl, ho, hc, ht⟩
    · obtain ⟨taken, rest, hread, hfirst⟩ := first_comment [] t
      cases hread.symm.trans ht
      exact (hfirst.left _).left _
    · have hnone : commentRegex.runs id [] (opening ++ t) = [] :=
        runs_comment_of_none (ho.rest?_comment)
      obtain ⟨c, hc, rfl⟩ := ho.opening
      obtain ⟨taken, rest, hread, hfirst⟩ := first_directive hc rfl [] t
      cases hread.symm.trans ht
      exact (hfirst.right hnone).left _
    · obtain ⟨hcomment, hdirective⟩ := runs_of_tag ho hc [] t
      obtain ⟨name, taken, rest, hread, hfirst⟩ := first_tag ho hc t
      cases hread.symm.trans ht
      refine hfirst.right ?_
      rw [runs_alt, hcomment, hdirective]
      rfl

theorem scan_markup (s : List Char) : markupRegex.scan id s = (items s).map Item.part := by
  fun_induction items s with
  | case1 => exact scan_nil_of_none (first?_markup [])
  | case2 c rest i after h ih =>
    have hfirst := first?_markup (c :: rest)
    rw [h] at hfirst
    rw [scan_of_first hfirst (length_lt_of_readItem h), ih, List.map_cons]
    have hpart : i.part = .found i.source i.groups := by
      cases i with
      | plain d => exact absurd rfl (isMarkup_of_readItem? h d)
      | directive t => rfl
      | tag name t => rfl
    rw [hpart]
    rfl
  | case3 c rest h ih =>
    have hfirst := first?_markup (c :: rest)
    rw [h] at hfirst
    rw [scan_cons_of_none hfirst, ih]
    rfl

/-- A tag of an allowed name stays, whatever else matches goes. -/
def keepAllowed (allowed : List (List Char)) (taken : List Char) (g : Groups) : List Char :=
  match g.lookup 1 with
  | some name => if isAllowed allowed name then taken else []
  | none => []

theorem replace_markup (allowed : List (List Char)) (s : List Char) :
    markupRegex.replace id (keepAllowed allowed) s = stripTags allowed s := by
  rw [Regex.replace, scan_markup, List.flatMap_map, stripTags]
  induction items s with
  | nil => rfl
  | cons i is ih =>
    rw [List.flatMap_cons, ih]
    cases i with
    | plain c => rfl
    | directive t => rfl
    | tag name t =>
      by_cases hname : isAllowed allowed name = true
      · simp [Item.part, Part.replaced, keepAllowed, Item.kept, Item.source, hname]
      · simp [Item.part, Part.replaced, keepAllowed, Item.kept, hname]

end ContentIndex.Markup
