import ContentIndex.Indexing
import ContentIndex.Proofs.Markup.BlockBuckets

/-!
# No word is lost or doubled

Elements go to the buckets of their levels, which tears the text apart at their tags. Around every
tag of a padded text there are blanks, so no word is torn there and none grows together. Where the
elements are those that the tags make up, the buckets have the words of the stripped text.
-/

namespace ContentIndex.Markup

set_option autoImplicit false

open Text

/-- Neighbours among the items of a text with spaces around its tags. -/
structure Beside (i j : Item) : Prop where
  space : j.IsMarkup → i = .plain ' '
  blank : i.IsMarkup → ∃ c, j = .plain c ∧ isBlank c = true

theorem Item.Stands.apart {i j : Item} {rest : List Char} (hi : i.Stands (j.source ++ rest))
    (hj : j.Stands rest) (hc : (i.source ++ (j.source ++ rest)).IsChain Apart) : Beside i j := by
  have hne : j.source ++ rest ≠ [] := List.append_ne_nil_of_left_ne_nil hj.source_ne_nil rest
  obtain ⟨d, u, hd⟩ := List.exists_cons_of_ne_nil hj.source_ne_nil
  -- what stands before the first character of `j`
  have hlast : ∀ c, i.source.getLast? = some c → Apart c d := by
    intro c hl
    refine (List.isChain_append.1 hc).2.2 c hl d ?_
    rw [hd]
    rfl
  constructor
  · intro hp
    obtain ⟨v, hv⟩ := hj.source_eq hp
    rw [hd] at hv
    cases hv
    rcases i.plain_or with ⟨c, rfl⟩ | hi'
    · rw [(hlast c rfl).1 rfl]
    · exfalso
      rcases hi.closed hi' with ⟨-, hl⟩ | hn | hn
      · exact absurd ((hlast '>' hl).2 rfl) (by decide)
      · exact hne hn
      · rw [hd, List.cons_append] at hn
        exact absurd (List.cons.inj hn).1 (by decide)
  · intro hp
    have hb : isBlank d = true := by
      rcases hi.closed hp with ⟨-, hl⟩ | hn | hn
      · rw [(hlast '>' hl).2 rfl]
        decide
      · exact absurd hn hne
      · rw [hd, List.cons_append] at hn
        rw [(List.cons.inj hn).1]
        decide
    rcases j.plain_or with ⟨c, rfl⟩ | hj'
    · cases hd
      exact ⟨d, rfl, hb⟩
    · exfalso
      obtain ⟨v, hv⟩ := hj.source_eq hj'
      rw [hd] at hv
      cases hv
      exact absurd hb (by decide)

theorem Reads.beside {i : Item} {is : List Item} (h : Reads (i :: is) [])
    (hc : (Markup.sourceOf (i :: is)).IsChain Apart) : (i :: is).IsChain Beside := by
  induction is generalizing i with
  | nil => exact .singleton i
  | cons j is ih =>
    obtain ⟨hi, hr⟩ := h
    rw [List.append_nil, sourceOf_cons] at hi
    have hj := hr.1
    rw [List.append_nil] at hj
    rw [sourceOf_cons, sourceOf_cons] at hc
    rw [List.isChain_cons_cons]
    refine ⟨hi.apart hj hc, ih hr ?_⟩
    rw [sourceOf_cons]
    exact hc.right_of_append

/-- The bar stands for the start of the text. -/
theorem beside_keptItems (s : List Char) :
    (Item.plain '|' :: keptItems s).IsChain Beside := by
  apply Reads.beside
  · exact ⟨firm_of_ne (by decide) _, reads_keptItems s⟩
  · rw [sourceOf_cons, sourceOf_keptItems]
    have hs : Spaced (stripTags headingNames (pad s)) :=
      (thinned_stripTags headingNames (pad s)).spaced (spaced_pad s)
    have hs' : (('|' :: stripTags headingNames (pad s)) ++ ['|']).IsChain Apart := hs
    exact hs'.left_of_append

/-! ## Words of blocks -/

theorem words_plainText_append {z : Item} {is js : List Item} (hz : z.IsMarkup)
    (hc : (z :: js).IsChain Beside) :
    words (plainText (is ++ js)) = words (plainText is) ++ words (plainText js) := by
  rw [plainText_append]
  cases js with
  | nil => simp [plainText, words, wordsFrom]
  | cons j js =>
    obtain ⟨c, rfl, hb⟩ := (List.isChain_cons_cons.1 hc).1.blank hz
    have hp : plainText (.plain c :: js) = c :: plainText js := rfl
    rw [hp, words_append hb, words_cons_of_blank hb]

/-- No word is open where an element starts, and none goes on behind its closing tag `z`. -/
theorem words_of_element {breaks : Item → Bool} {i : Item} {is after : List Item} {e : Element}
    (h : i.element? breaks is = some (e, after)) (hc : (i :: is).IsChain Beside) :
    ∃ z : Item, z.IsMarkup ∧ (z :: after).IsChain Beside ∧
      words (plainText (i :: is)) = words (plainText e.items) ++ words (plainText after) := by
  obtain ⟨taken, -, hi, ht⟩ := Item.element?_eq_some h
  obtain ⟨inner, z, rfl, hz⟩ := Level.closingItems?_concat ht
  have hs : i :: is = e.items ++ after := by
    rw [hi, List.cons_append, Level.closingItems?_append ht]
  have hz' : z.IsMarkup := Item.isMarkup_of_closes hz
  have hafter : (z :: after).IsChain Beside := by
    have hc' : ((i :: inner) ++ (z :: after)).IsChain Beside := by
      rw [hs, hi] at hc
      simpa using hc
    exact hc'.right_of_append
  refine ⟨z, hz', hafter, ?_⟩
  rw [hs, words_plainText_append hz' hafter]

theorem wordsFrom_blocks {breaks : Item → Bool} {prev : Item} {is : List Item}
    {current : List Char} (hc : (prev :: is).IsChain Beside)
    (hp : prev = .plain ' ' → current = []) :
    (wordsFrom current (plainText is)).Perm
      (wordsFrom current (plainText (looseItems (blocks breaks is))) ++
        (elementsOf (blocks breaks is)).flatMap fun e => words (plainText e.items)) := by
  fun_induction blocks breaks is generalizing prev current with
  | case1 => simp [looseItems, elementsOf, plainText]
  | case2 i is e after h ih =>
    obtain ⟨taken, ho, -, -⟩ := Item.element?_eq_some h
    have hcur : current = [] :=
      hp ((List.isChain_cons_cons.1 hc).1.space (Item.isMarkup_of_opens ho))
    obtain ⟨z, hz, hafter, hw⟩ := words_of_element h hc.tail
    have hwords : (words (plainText after)).Perm
        (words (plainText (looseItems (blocks breaks after))) ++
          (elementsOf (blocks breaks after)).flatMap fun e => words (plainText e.items)) :=
      ih hafter fun hs => absurd hs (hz ' ')
    subst hcur
    change (words (plainText (i :: is))).Perm
      (words (plainText (looseItems (blocks breaks after))) ++
        (words (plainText e.items) ++
          (elementsOf (blocks breaks after)).flatMap fun e => words (plainText e.items)))
    rw [hw]
    exact (hwords.append_left _).trans (List.perm_append_comm_assoc _ _ _)
  | case3 i is h ih =>
    have hc' : (i :: is).IsChain Beside := hc.tail
    rcases i.plain_or with ⟨c, rfl⟩ | hi
    · change (wordsFrom current (c :: plainText is)).Perm
        (wordsFrom current (c :: plainText (looseItems (blocks breaks is))) ++ _)
      rw [wordsFrom, wordsFrom]
      cases hb : isBlank c with
      | true =>
        simp only [if_true]
        split
        · exact ih hc' fun _ => rfl
        · exact (ih hc' fun _ => rfl).cons _
      | false =>
        simp only [Bool.false_eq_true, if_false]
        apply ih hc'
        intro hs
        cases hs
        exact absurd hb (by decide)
    · change (wordsFrom current (plainText (i :: is))).Perm
        (wordsFrom current (plainText (i :: looseItems (blocks breaks is))) ++ _)
      rw [plainText_cons hi, plainText_cons hi]
      exact ih hc' fun hs => absurd hs (hi ' ')

/-! ## Words of buckets -/

/-- Elements that are grouped by their level are still the same elements. -/
theorem perm_flatMap_filter {levels : List Level} (hn : levels.Nodup) (es : List Element) :
    (levels.flatMap fun level => es.filter (·.level = level)).Perm
      (es.filter (·.level ∈ levels)) := by
  induction levels with
  | nil => simp
  | cons level levels ih =>
    obtain ⟨hl, hn⟩ := List.nodup_cons.1 hn
    -- first the elements of this level, then those of the others
    have h1 : (es.filter (·.level ∈ level :: levels)).filter (·.level = level) =
        es.filter (·.level = level) := by
      rw [List.filter_filter]
      congr 1
      funext e
      by_cases he : e.level = level <;> simp [he]
    have h2 : (es.filter (·.level ∈ level :: levels)).filter (fun e => !decide (e.level = level)) =
        es.filter (·.level ∈ levels) := by
      rw [List.filter_filter]
      congr 1
      funext e
      by_cases he : e.level = level
      · simp [he, hl]
      · simp [he]
    have hp := List.filter_append_perm (·.level = level) (es.filter (·.level ∈ level :: levels))
    rw [h1, h2] at hp
    exact ((ih hn).append_left _).trans hp

theorem perm_elements (es : List Element) :
    ((elementLevels es).flatMap fun level => es.filter (·.level = level)).Perm es := by
  have hp := perm_flatMap_filter (nodup_eraseDups (es.map Element.level)) es
  have hf : es.filter (·.level ∈ elementLevels es) = es := by
    rw [List.filter_eq_self]
    intro e he
    rw [decide_eq_true_iff, elementLevels, List.mem_eraseDups]
    exact List.mem_map_of_mem he
  rw [elementLevels] at hf
  rwa [hf] at hp

theorem words_blockBuckets (bs : List Block) :
    ((blockBuckets bs).flatMap fun part => words part.2).Perm
      (words (plainText (looseItems bs)) ++
        (elementsOf bs).flatMap fun e => words (plainText e.items)) := by
  rw [blockBuckets, List.flatMap_cons, words_collapseBlanks]
  apply List.Perm.append_left
  rw [List.flatMap_map]
  simp only [words_collapseBlanks, words_elementText]
  rw [← List.flatMap_assoc]
  exact (perm_elements _).flatMap_right _

theorem plainText_keptItems (s : List Char) :
    plainText (keptItems s) = stripTags [] (pad s) := by
  rw [stripTags_nil, keptItems, plainText_filter_kept]

/-- No heading tag of the padded text has a further `<`. -/
def FlatHeadings (s : List Char) : Prop :=
  ∀ name source, .tag name source ∈ items (pad s) → isAllowed headingNames name = true →
    '<' ∉ source.tail

theorem FlatHeadings.flat {s : List Char} (h : FlatHeadings s) : ∀ i ∈ keptItems s, i.Flat := by
  intro i hi
  obtain ⟨hm, hk⟩ := List.mem_filter.1 hi
  cases i with
  | plain c => exact flat_of_not_mem List.not_mem_nil
  | directive t => cases hk
  | tag name t => exact flat_of_not_mem (h name t hm hk)

/-- The words of all buckets together are those of the padded text without its tags. -/
theorem words_htmlBuckets (s : String) (h : FlatHeadings s.toList) :
    ∃ parts, Indexing.htmlBuckets (.str s) = .ok parts ∧
      (parts.flatMap fun (_, text) => words text.toList).Perm
        (words (stripTags [] (pad s.toList))) := by
  refine ⟨Indexing.textBuckets s, rfl, ?_⟩
  have hw : ((Indexing.textBuckets s).flatMap fun (_, text) => words text.toList) =
      (buckets s.toList).flatMap fun part => words part.2 := by
    rw [Indexing.textBuckets, List.flatMap_map]
    simp only [String.toList_ofList]
  rw [hw, buckets_of_flat h.flat, ← plainText_keptItems]
  refine (words_blockBuckets _).trans (List.Perm.symm ?_)
  exact wordsFrom_blocks (beside_keptItems s.toList) fun hs => by cases hs

/-- Nested, unclosed and stray tags, a heading over two lines, and a comment without an end. -/
theorem words_htmlBuckets_malformed :
    FlatHeadings "a<h1>b<h2>c</h1>d</h2><h3>e\nf</h3>1 < 2<h4 t='>'>g</H4><!-- h".toList ∧
    ∃ parts, Indexing.htmlBuckets
        (.str "a<h1>b<h2>c</h1>d</h2><h3>e\nf</h3>1 < 2<h4 t='>'>g</H4><!-- h") = .ok parts ∧
      (parts.flatMap fun (_, text) => words text.toList).Perm
        [['a'], ['b'], ['c'], ['d'], ['e'], ['f'], ['1'], ['<'], ['2'], ['g']] := by
  have hi : ∀ i ∈ items
      (pad "a<h1>b<h2>c</h1>d</h2><h3>e\nf</h3>1 < 2<h4 t='>'>g</H4><!-- h".toList),
      i.kept headingNames = true → '<' ∉ i.source.tail := by decide +kernel
  have hw : words (stripTags []
      (pad "a<h1>b<h2>c</h1>d</h2><h3>e\nf</h3>1 < 2<h4 t='>'>g</H4><!-- h".toList)) =
      [['a'], ['b'], ['c'], ['d'], ['e'], ['f'], ['1'], ['<'], ['2'], ['g']] := by decide +kernel
  have hs : FlatHeadings "a<h1>b<h2>c</h1>d</h2><h3>e\nf</h3>1 < 2<h4 t='>'>g</H4><!-- h".toList :=
    fun name source hm hk => hi (.tag name source) hm hk
  have h := words_htmlBuckets _ hs
  rw [hw] at h
  exact ⟨hs, h⟩

end ContentIndex.Markup
