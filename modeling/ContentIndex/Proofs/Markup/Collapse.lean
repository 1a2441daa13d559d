import ContentIndex.Proofs.Markup.Spacing

/-!
# Blanks and words

Collapsing keeps the words of a text, the word behind any character and the spaces around tags.
Padding a text that has those spaces and collapsing it again changes nothing.
-/

namespace ContentIndex.Markup

set_option autoImplicit false

open Text

/-! ## Words -/

theorem wordsFrom_append {c : Char} (hc : isBlank c = true) (current s t : List Char) :
    wordsFrom current (s ++ c :: t) = wordsFrom current s ++ words t := by
  induction s generalizing current with
  | nil =>
    rw [List.nil_append, wordsFrom, wordsFrom, if_pos hc]
    split <;> rfl
  | cons d s ih =>
    rw [List.cons_append, wordsFrom, wordsFrom]
    split
    · split
      · exact ih []
      · rw [ih [], List.cons_append]
    · exact ih (d :: current)

/-- A blank between two texts keeps their words apart. -/
theorem words_append {c : Char} (hc : isBlank c = true) (s t : List Char) :
    words (s ++ c :: t) = words s ++ words t :=
  wordsFrom_append hc [] s t

theorem words_cons_of_blank {c : Char} (hc : isBlank c = true) (s : List Char) :
    words (c :: s) = words s :=
  words_append hc [] s

theorem words_flatMap_space {α : Type} (f : α → List Char) (s : List Char) (xs : List α) :
    words (s ++ xs.flatMap fun x => ' ' :: f x) = words s ++ xs.flatMap fun x => words (f x) := by
  induction xs using List.reverseRecOn with
  | nil => rw [List.flatMap_nil, List.flatMap_nil, List.append_nil, List.append_nil]
  | append_singleton xs x ih =>
    rw [List.flatMap_append, List.flatMap_append, List.flatMap_singleton, List.flatMap_singleton,
      ← List.append_assoc, words_append (by decide), ih, List.append_assoc]

theorem wordsFrom_collapseBlanks (current s : List Char) :
    wordsFrom current (collapseBlanks s) = wordsFrom current s := by
  have hsp : isBlank ' ' = true := by decide
  fun_induction collapseBlanks s generalizing current with
  | case1 => rfl
  | case2 c => cases hc : isBlank c <;> simp [wordsFrom, hc, hsp]
  | case3 c d s hc hd ih => simp [wordsFrom, ih, hc, hd]
  | case4 c d s hc hd ih => simp [wordsFrom, ih, hc, hsp]
  | case5 c d s hc ih => simp [wordsFrom, ih, hc]

theorem words_collapseBlanks (s : List Char) : words (collapseBlanks s) = words s :=
  wordsFrom_collapseBlanks [] s

/-! ## Collapsed texts -/

/-- Single spaces are the only blanks. -/
structure Collapsed (s : List Char) : Prop where
  runs : s.IsChain fun c d => ¬ (isBlank c = true ∧ isBlank d = true)
  spaces : ∀ c ∈ s, isBlank c = true → c = ' '

theorem collapseBlanks_cons {c : Char} (s : List Char) (hc : isBlank c = false) :
    collapseBlanks (c :: s) = c :: collapseBlanks s := by
  cases s with
  | nil => simp [collapseBlanks, hc]
  | cons d s => simp [collapseBlanks, hc]

theorem collapseBlanks_concat {c : Char} (s : List Char) (hc : isBlank c = false) :
    collapseBlanks (s ++ [c]) = collapseBlanks s ++ [c] := by
  fun_induction collapseBlanks s with
  | case1 => simp [collapseBlanks, hc]
  | case2 d => cases hd : isBlank d <;> simp [collapseBlanks, hc, hd]
  | case3 d e s hd he ih => simpa [collapseBlanks, hd, he] using ih
  | case4 d e s hd he ih => simpa [collapseBlanks, hd, he] using ih
  | case5 d e s hd ih => simpa [collapseBlanks, hd] using ih

theorem head?_collapseBlanks (c : Char) (s : List Char) :
    (collapseBlanks (c :: s)).head? = some (if isBlank c then ' ' else c) := by
  induction s generalizing c with
  | nil => rfl
  | cons d s ih =>
    rw [collapseBlanks]
    split
    · rename_i hc
      split
      · rename_i hd
        rw [ih d, if_pos hd]
      · rfl
    · rfl

theorem collapsed_collapseBlanks (s : List Char) : Collapsed (collapseBlanks s) := by
  have hsp : isBlank ' ' = true := by decide
  fun_induction collapseBlanks s with
  | case1 => exact ⟨.nil, by simp⟩
  | case2 c =>
    refine ⟨.singleton _, ?_⟩
    cases hc : isBlank c <;> simp [hc]
  | case3 c d s hc hd ih => exact ih
  | case4 c d s hc hd ih =>
    constructor
    · rw [List.isChain_cons]
      refine ⟨?_, ih.runs⟩
      intro e he
      rw [head?_collapseBlanks, if_neg hd] at he
      cases he
      simp [hd]
    · intro e he
      rcases List.mem_cons.1 he with rfl | he
      · exact fun _ => rfl
      · exact ih.spaces e he
  | case5 c d s hc ih =>
    constructor
    · rw [List.isChain_cons]
      exact ⟨fun e _ h => hc h.1, ih.runs⟩
    · intro e he
      rcases List.mem_cons.1 he with rfl | he
      · exact fun h => absurd h hc
      · exact ih.spaces e he

theorem chain_collapseBlanks {s : List Char} (h : s.IsChain Apart) :
    (collapseBlanks s).IsChain Apart := by
  fun_induction collapseBlanks s with
  | case1 => exact .nil
  | case2 c => exact .singleton _
  | case3 c d s hc hd ih => exact ih h.tail
  | case4 c d s hc hd ih =>
    rw [List.isChain_cons]
    exact ⟨fun e _ => apart_space e, ih h.tail⟩
  | case5 c d s hc ih =>
    rw [List.isChain_cons]
    refine ⟨?_, ih h.tail⟩
    intro e he
    rw [head?_collapseBlanks] at he
    cases he
    split
    · exact apart_of_space c
    · exact (List.isChain_cons_cons.1 h).1

theorem Spaced.collapseBlanks {s : List Char} (h : Spaced s) : Spaced (collapseBlanks s) := by
  have hb : isBlank '|' = false := by decide
  have hc := chain_collapseBlanks h
  rwa [collapseBlanks_cons _ hb, collapseBlanks_concat _ hb] at hc

theorem word_collapseBlanks (s : List Char) :
    (collapseBlanks s).takeWhile (!isBlank ·) = s.takeWhile (!isBlank ·) := by
  have hsp : isBlank ' ' = true := by decide
  fun_induction collapseBlanks s with
  | case1 => rfl
  | case2 c => cases hc : isBlank c <;> simp [hc, hsp]
  | case3 c d s hc hd ih => simpa [hc, hd] using ih
  | case4 c d s hc hd ih => simp [hc, hsp]
  | case5 c d s hc ih => simpa [hc] using ih

theorem collapseBlanks_blanks {c : Char} (s : List Char) (hc : isBlank c = true) :
    collapseBlanks (' ' :: c :: s) = collapseBlanks (c :: s) := by
  rw [Markup.collapseBlanks, if_pos (by decide), if_pos hc]

theorem collapseBlanks_of_collapsed {c d : Char} {s : List Char} (h : Collapsed (c :: d :: s))
    (t : List Char) :
    Markup.collapseBlanks (c :: d :: t) = c :: Markup.collapseBlanks (d :: t) := by
  cases hc : isBlank c with
  | false => exact collapseBlanks_cons (d :: t) hc
  | true =>
    have hd : ¬ isBlank d = true := fun hd => (List.isChain_cons_cons.1 h.runs).1 ⟨hc, hd⟩
    rw [Markup.collapseBlanks, if_pos hc, if_neg hd, h.spaces c (by simp) hc]

/-- Behind any character, padding adds blanks only where there are some. -/
theorem collapseBlanks_pad_cons {c : Char} {s : List Char}
    (hs : (c :: (s ++ ['|'])).IsChain Apart) (hc : Collapsed (c :: s)) :
    Markup.collapseBlanks (c :: pad s) = c :: s := by
  have hgt : isBlank '>' = false := by decide
  have hlt : isBlank '<' = false := by decide
  induction s generalizing c with
  | nil =>
    have hsp := hc.spaces c (by simp)
    cases hb : isBlank c with
    | true => simp [pad, Markup.collapseBlanks, hsp hb]
    | false => simp [pad, Markup.collapseBlanks, hb]
  | cons d s ih =>
    rw [List.cons_append, List.isChain_cons_cons] at hs
    have hc' : Collapsed (d :: s) := ⟨hc.runs.tail, fun e he => hc.spaces e (.tail c he)⟩
    have hd := ih hs.2 hc'
    by_cases h1 : d = '<'
    · -- the space before it is there already
      subst h1
      have hsp : c = ' ' := hs.1.1 rfl
      rw [pad, if_pos rfl, hsp, collapseBlanks_blanks _ (by decide), Markup.collapseBlanks,
        if_pos (by decide), if_neg (by simp [hlt]), hd]
    · by_cases h2 : d = '>'
      · -- so is the space after it, which padding doubles
        subst h2
        cases s with
        | nil => exact absurd ((List.isChain_cons_cons.1 hs.2).1.2 rfl) (by decide)
        | cons e s =>
          have he : e = ' ' := (List.isChain_cons_cons.1 hs.2).1.2 rfl
          subst he
          have hp : pad ('>' :: ' ' :: s) = '>' :: ' ' :: ' ' :: pad s := rfl
          have hd' : Markup.collapseBlanks ('>' :: ' ' :: ' ' :: pad s) = '>' :: ' ' :: s := by
            rw [collapseBlanks_cons _ hgt, collapseBlanks_blanks _ (by decide),
              ← collapseBlanks_cons _ hgt]
            exact hd
          rw [hp, collapseBlanks_of_collapsed hc, hd']
      · have hp : pad (d :: s) = d :: pad s := by rw [pad, if_neg h1, if_neg h2]
        rw [hp, collapseBlanks_of_collapsed hc, hd]

theorem collapseBlanks_pad {s : List Char} (hs : Spaced s) (hc : Collapsed s) :
    Markup.collapseBlanks (pad s) = s := by
  have hb : isBlank '|' = false := by decide
  have hc' : Collapsed ('|' :: s) := by
    refine ⟨?_, ?_⟩
    · rw [List.isChain_cons]
      exact ⟨fun d _ h => absurd h.1 (by simp [hb]), hc.runs⟩
    · intro d hd
      rcases List.mem_cons.1 hd with rfl | hd
      · exact fun h => absurd h (by simp [hb])
      · exact hc.spaces d hd
  have h : Markup.collapseBlanks ('|' :: pad s) = '|' :: s := collapseBlanks_pad_cons hs hc'
  rw [collapseBlanks_cons _ hb] at h
  exact (List.cons.inj h).2

/-! ## Texts without markup -/

def NoMarkup (s : List Char) : Prop :=
  ∀ t, t <:+ s → startsMarkup t = false

theorem noMarkup_nil : NoMarkup [] := by
  intro t ht
  rw [List.suffix_nil.1 ht]
  rfl

theorem noMarkup_cons {c : Char} {s : List Char} :
    NoMarkup (c :: s) ↔ startsMarkup (c :: s) = false ∧ NoMarkup s := by
  constructor
  · intro h
    exact ⟨h _ List.suffix_rfl, fun t ht => h t (ht.trans (List.suffix_cons c s))⟩
  · rintro ⟨hc, hs⟩ t ht
    rcases List.suffix_cons_iff.1 ht with rfl | ht
    · exact hc
    · exact hs t ht

theorem noMarkup_iff_reads {s : List Char} : NoMarkup s ↔ Reads (s.map .plain) [] := by
  induction s with
  | nil => exact ⟨fun _ => trivial, fun _ => noMarkup_nil⟩
  | cons c s ih =>
    rw [noMarkup_cons, ih, List.map_cons, Reads, sourceOf_map_plain, List.append_nil]
    rfl

theorem startsMarkup_singleton (c : Char) : startsMarkup [c] = false := by
  by_cases hc : c = '<'
  · rw [hc]
    rfl
  · exact firm_of_ne hc []

theorem startsMarkup_of_isBlank {c : Char} (s : List Char) (hc : isBlank c = true) :
    startsMarkup (c :: s) = false := by
  refine firm_of_ne ?_ s
  rintro rfl
  exact absurd hc (by decide)

theorem noMarkup_collapseBlanks {s : List Char} :
    NoMarkup (Markup.collapseBlanks s) ↔ NoMarkup s := by
  fun_induction Markup.collapseBlanks s with
  | case1 => rfl
  | case2 c => simp [noMarkup_cons, startsMarkup_singleton, noMarkup_nil]
  | case3 c d s hc hd ih =>
    rw [noMarkup_cons (c := c), ih]
    simp [startsMarkup_of_isBlank _ hc]
  | case4 c d s hc hd ih =>
    rw [noMarkup_cons, noMarkup_cons (c := c), ih, startsMarkup_of_isBlank _ hc,
      startsMarkup_of_isBlank _ (by decide)]
  | case5 c d s hc ih =>
    have hw : startsMarkup (c :: Markup.collapseBlanks (d :: s)) = startsMarkup (c :: d :: s) := by
      by_cases h : c = '<'
      · rw [h]
        exact startsMarkup_congr (word_collapseBlanks _)
      · exact (firm_of_ne h _).trans (firm_of_ne h _).symm
    rw [noMarkup_cons, noMarkup_cons (c := c), ih, hw]

end ContentIndex.Markup
