import ContentIndex.Markup.Strip

/-!
# Reading items before another rest

`Reads is rest` says that the items are read off their own source when `rest` stands behind it. A
closed item is read so before every rest, a lone `<` as long as the word that it starts stays the
same. Items that are not closed run to the end of the text, or to a final line feed.

This module does not say how texts are put together; spaces around tags are a matter of spacing.
-/

namespace ContentIndex.Markup

set_option autoImplicit false

open Text

/-- A tag or a directive starts here. -/
def startsMarkup : List Char → Bool
  | '<' :: '!' :: _ => true
  | '<' :: '?' :: _ => true
  | '<' :: '/' :: c :: _ => isAsciiLetter c
  | '<' :: c :: _ => isAsciiLetter c
  | _ => false

theorem isSome_readItem? (s : List Char) : (readItem? s).isSome = startsMarkup s := by
  unfold readItem?
  split
  · rfl
  · rfl
  · rfl
  · rename_i c s
    cases h : isAsciiLetter c <;> simp [startsMarkup, h]
  · rename_i c s h1 h2 h3
    rw [startsMarkup.eq_def]
    split <;> simp_all
  · rename_i h1 h2 h3 h4 h5
    rw [startsMarkup.eq_def]
    split <;> simp_all

theorem readItem?_eq_none_iff {s : List Char} : readItem? s = none ↔ startsMarkup s = false := by
  rw [← isSome_readItem?, Option.isSome_eq_false_iff, Option.isNone_iff_eq_none]

def IsTagOpening (s : List Char) : Prop :=
  s = ['<'] ∨ s = ['<', '/']

/-- A directive that is no comment. -/
def IsDirective (opening s : List Char) : Prop :=
  (opening = ['<', '!'] ∧ ∀ t, s ≠ '-' :: '-' :: t) ∨ opening = ['<', '?']

/-- What is read at a place: a comment, another directive or a tag. -/
theorem readItem?_cases {s after : List Char} {i : Item} (h : readItem? s = some (i, after)) :
    (∃ t, s = ['<', '!', '-', '-'] ++ t ∧ readComment t = (i, after)) ∨
    (∃ opening t, s = opening ++ t ∧ IsDirective opening t ∧ readDirective opening t = (i, after)) ∨
    (∃ opening c t, s = opening ++ c :: t ∧ IsTagOpening opening ∧ isAsciiLetter c = true ∧
      readTag opening (c :: t) = (i, after)) := by
  unfold readItem? at h
  split at h
  · exact .inl ⟨_, rfl, Option.some.inj h⟩
  · rename_i s hs
    exact .inr (.inl ⟨['<', '!'], s, rfl, .inl ⟨rfl, hs⟩, Option.some.inj h⟩)
  · exact .inr (.inl ⟨['<', '?'], _, rfl, .inr rfl, Option.some.inj h⟩)
  · split at h
    · rename_i hc
      exact .inr (.inr ⟨['<', '/'], _, _, rfl, .inr rfl, hc, Option.some.inj h⟩)
    · cases h
  · split at h
    · rename_i hc
      exact .inr (.inr ⟨['<'], _, _, rfl, .inl rfl, hc, Option.some.inj h⟩)
    · cases h
  · cases h

theorem exists_directive_of_readComment (s : List Char) :
    ∃ t, (readComment s).1 = .directive t := by
  unfold readComment
  dsimp only
  split
  · exact ⟨_, rfl⟩
  · split <;> exact ⟨_, rfl⟩

theorem exists_directive_of_readDirective (opening s : List Char) :
    ∃ t, (readDirective opening s).1 = .directive t := by
  unfold readDirective
  split <;> exact ⟨_, rfl⟩

theorem exists_tag_of_readTag (opening s : List Char) :
    ∃ name t, (readTag opening s).1 = .tag name t := by
  unfold readTag
  dsimp only
  split <;> exact ⟨_, _, rfl⟩

/-- The item is a tag or a directive. -/
def Item.IsMarkup (i : Item) : Prop :=
  ∀ c, i ≠ .plain c

theorem Item.plain_or (i : Item) : (∃ c, i = .plain c) ∨ i.IsMarkup := by
  cases i with
  | plain c => exact .inl ⟨c, rfl⟩
  | directive s => exact .inr fun c h => Item.noConfusion h
  | tag name s => exact .inr fun c h => Item.noConfusion h

theorem isMarkup_of_readItem? {s after : List Char} {i : Item}
    (h : readItem? s = some (i, after)) : i.IsMarkup := by
  rintro c rfl
  rcases readItem?_cases h with ⟨t, -, ht⟩ | ⟨opening, t, -, -, ht⟩ | ⟨opening, d, t, -, -, -, ht⟩
  · obtain ⟨u, hu⟩ := exists_directive_of_readComment t
    rw [ht] at hu
    cases hu
  · obtain ⟨u, hu⟩ := exists_directive_of_readDirective opening t
    rw [ht] at hu
    cases hu
  · obtain ⟨name, u, hu⟩ := exists_tag_of_readTag opening (d :: t)
    rw [ht] at hu
    cases hu

def sourceOf (is : List Item) : List Char :=
  is.flatMap Item.source

@[simp] theorem sourceOf_nil : sourceOf [] = [] := rfl

@[simp] theorem sourceOf_cons (i : Item) (is : List Item) :
    sourceOf (i :: is) = i.source ++ sourceOf is := List.flatMap_cons

@[simp] theorem sourceOf_append (is js : List Item) :
    sourceOf (is ++ js) = sourceOf is ++ sourceOf js := List.flatMap_append

@[simp] theorem sourceOf_map_plain (s : List Char) : sourceOf (s.map .plain) = s := by
  induction s with
  | nil => rfl
  | cons c s ih => rw [List.map_cons, sourceOf_cons, ih]; rfl

/-- The item is read off its own source before `rest`. -/
def Item.Stands (rest : List Char) : Item → Prop
  | .plain c => startsMarkup (c :: rest) = false
  | .directive s => readItem? (s ++ rest) = some (.directive s, rest)
  | .tag name s => readItem? (s ++ rest) = some (.tag name s, rest)

def Reads : List Item → List Char → Prop
  | [], _ => True
  | i :: is, rest => i.Stands (sourceOf is ++ rest) ∧ Reads is rest

theorem reads_append {is js : List Item} {rest : List Char} :
    Reads (is ++ js) rest ↔ Reads is (sourceOf js ++ rest) ∧ Reads js rest := by
  induction is with
  | nil => simp [Reads]
  | cons i is ih => simp [Reads, ih, and_assoc]

theorem Item.Stands.items_eq {i : Item} {rest : List Char} (h : i.Stands rest) :
    items (i.source ++ rest) = i :: items rest := by
  cases i with
  | plain c => exact items_of_plain (readItem?_eq_none_iff.2 h)
  | directive s => exact items_of_read h
  | tag name s => exact items_of_read h

theorem Reads.items_eq {is : List Item} {rest : List Char} (h : Reads is rest) :
    items (sourceOf is ++ rest) = is ++ items rest := by
  induction is with
  | nil => rfl
  | cons i is ih =>
    obtain ⟨hi, his⟩ := h
    rw [sourceOf_cons, List.append_assoc, hi.items_eq, ih his, List.cons_append]

theorem stands_of_readItem? {s after : List Char} {i : Item} (h : readItem? s = some (i, after)) :
    i.Stands after := by
  have hs : i.source ++ after = s := readItem?_append h
  cases i with
  | plain c => exact absurd rfl (isMarkup_of_readItem? h c)
  | directive t => rw [← hs] at h; exact h
  | tag name t => rw [← hs] at h; exact h

/-- The items of a text are read off it, to its end. -/
theorem reads_items (s : List Char) : Reads (items s) [] := by
  fun_induction items s with
  | case1 => trivial
  | case2 c rest i after h ih =>
    refine ⟨?_, ih⟩
    rw [sourceOf, source_items, List.append_nil]
    exact stands_of_readItem? h
  | case3 c rest h ih =>
    refine ⟨?_, ih⟩
    rw [sourceOf, source_items, List.append_nil]
    exact readItem?_eq_none_iff.1 h

/-! ## Tags and their parts -/

/-- The quote that is open after `s` within a tag, unless the tag ends before. -/
def quoteAfter? (quote : Option Char) : List Char → Option (Option Char)
  | [] => some quote
  | c :: rest =>
    match quote with
    | some q => quoteAfter? (if c = q then none else some q) rest
    | none =>
      if c = '>' then none else quoteAfter? (if c = '"' ∨ c = '\'' then some c else none) rest

theorem tagEnd?_of_quoteAfter {quote quote' : Option Char} {s : List Char}
    (h : quoteAfter? quote s = some quote') (rest : List Char) :
    tagEnd? quote (s ++ rest) =
      (tagEnd? quote' rest).map fun (taken, after) => (s ++ taken, after) := by
  induction s generalizing quote with
  | nil =>
    cases h
    simp
  | cons c s ih =>
    rw [List.cons_append, tagEnd?.eq_def]
    rw [quoteAfter?.eq_def] at h
    cases quote with
    | some q =>
      simp only at h ⊢
      rw [ih h, Option.map_map]
      rfl
    | none =>
      simp only at h ⊢
      split at h
      · cases h
      · rename_i hc
        rw [if_neg hc, ih h, Option.map_map]
        rfl

/-- A tag that is closed stays the same before every rest. -/
theorem tagEnd?_stays {quote : Option Char} {s taken after : List Char}
    (h : tagEnd? quote s = some (taken, after)) (rest : List Char) :
    tagEnd? quote (taken ++ rest) = some (taken, rest) := by
  induction s generalizing quote taken with
  | nil => cases h
  | cons c s ih =>
    rw [tagEnd?.eq_def] at h
    cases quote with
    | some q =>
      obtain ⟨⟨t, a⟩, ht, he⟩ := Option.map_eq_some_iff.1 h
      cases he
      rw [List.cons_append, tagEnd?.eq_def]
      simp [ih ht]
    | none =>
      dsimp only at h
      split at h
      · rename_i hc
        cases h
        simp [tagEnd?]
      · rename_i hc
        obtain ⟨⟨t, a⟩, ht, he⟩ := Option.map_eq_some_iff.1 h
        cases he
        rw [List.cons_append, tagEnd?.eq_def]
        simp [hc, ih ht]

structure IsName (name : List Char) : Prop where
  letter : ∃ c rest, name = c :: rest ∧ isAsciiLetter c = true
  chars : ∀ c ∈ name, isNameChar c = true

def EndsName (s : List Char) : Prop :=
  ∀ c ∈ s.head?, isNameChar c = false

theorem readItem?_opening {opening : List Char} {c : Char} {rest : List Char}
    (ho : IsTagOpening opening) (hc : isAsciiLetter c = true) :
    readItem? (opening ++ c :: rest) = some (readTag opening (c :: rest)) := by
  have h1 : c ≠ '!' := by rintro rfl; exact absurd hc (by decide)
  have h2 : c ≠ '?' := by rintro rfl; exact absurd hc (by decide)
  have h3 : c ≠ '/' := by rintro rfl; exact absurd hc (by decide)
  rcases ho with rfl | rfl
  · rw [List.singleton_append, readItem?.eq_def]
    split <;> simp_all
  · simp [readItem?, hc]

theorem takeWhile_name {name s : List Char} (hn : ∀ c ∈ name, isNameChar c = true)
    (hs : EndsName s) : (name ++ s).takeWhile isNameChar = name := by
  rw [List.takeWhile_append_of_pos hn]
  cases s with
  | nil => simp
  | cons c rest => simp [hs c (by simp)]

theorem dropWhile_name {name s : List Char} (hn : ∀ c ∈ name, isNameChar c = true)
    (hs : EndsName s) : (name ++ s).dropWhile isNameChar = s := by
  rw [List.dropWhile_append_of_pos hn]
  cases s with
  | nil => simp
  | cons c rest => simp [hs c (by simp)]

theorem readItem?_closed {opening name s taken after : List Char} (ho : IsTagOpening opening)
    (hn : IsName name) (hs : EndsName s) (h : tagEnd? none s = some (taken, after)) :
    readItem? (opening ++ name ++ s) = some (.tag name (opening ++ name ++ taken), after) := by
  obtain ⟨c, rest, hc, hl⟩ := hn.letter
  rw [List.append_assoc, hc, List.cons_append, readItem?_opening ho hl, ← List.cons_append, ← hc,
    readTag]
  simp only [takeWhile_name hn.chars hs, dropWhile_name hn.chars hs, h]

theorem readItem?_unclosed {opening name s : List Char} (ho : IsTagOpening opening)
    (hn : IsName name) (hs : EndsName s) (h : tagEnd? none s = none) :
    readItem? (opening ++ name ++ s) = some (.tag name (opening ++ name ++ s), []) := by
  obtain ⟨c, rest, hc, hl⟩ := hn.letter
  rw [List.append_assoc, hc, List.cons_append, readItem?_opening ho hl, ← List.cons_append, ← hc,
    readTag]
  simp only [takeWhile_name hn.chars hs, dropWhile_name hn.chars hs, h, List.append_assoc]

/-- How a tag that is read before `rest` is made up: it is closed, or there is no rest. -/
structure TagForm (name source rest opening attributes : List Char) : Prop where
  opening_eq : IsTagOpening opening
  isName : IsName name
  endsName : EndsName attributes
  source_eq : source = opening ++ name ++ attributes
  closed : tagEnd? none attributes = some (attributes, []) ∨
    (tagEnd? none attributes = none ∧ rest = [])

theorem isNameChar_of_bounds {c : Char} (hn : 48 ≤ c.toNat ∧ c.toNat ≤ 122) (hc : c ≠ '>') :
    isNameChar c = true := by
  have hb : isBlank c = false := by
    simp only [isBlank, Bool.or_eq_false_iff, Bool.and_eq_false_iff, decide_eq_false_iff_not,
      beq_eq_false_iff_ne]
    omega
  have hslash : c ≠ '/' := by rintro rfl; exact absurd hn.1 (by decide)
  simp [isNameChar, hb, hslash, hc]

theorem isNameChar_of_isAsciiLetter {c : Char} (h : isAsciiLetter c = true) :
    isNameChar c = true := by
  have hn : 65 ≤ c.toNat ∧ c.toNat ≤ 122 := by
    simp only [isAsciiLetter, Bool.or_eq_true, Bool.and_eq_true, decide_eq_true_eq, Char.le_def,
      UInt32.le_iff_toNat_le] at h
    have h1 : c.val.toNat = c.toNat := rfl
    have h2 : 'a'.val.toNat = 97 := rfl
    have h3 : 'A'.val.toNat = 65 := rfl
    have h4 : 'z'.val.toNat = 122 := rfl
    have h5 : 'Z'.val.toNat = 90 := rfl
    omega
  exact isNameChar_of_bounds ⟨by omega, hn.2⟩ (by rintro rfl; exact absurd h (by decide))

theorem tagForm_of_readTag {opening s : List Char} {c : Char} {name source after : List Char}
    (ho : IsTagOpening opening) (hc : isAsciiLetter c = true)
    (h : readTag opening (c :: s) = (.tag name source, after)) :
    ∃ attributes, TagForm name source after opening attributes := by
  have hn : isNameChar c = true := isNameChar_of_isAsciiLetter hc
  have hname : IsName ((c :: s).takeWhile isNameChar) := by
    refine ⟨⟨c, s.takeWhile isNameChar, by simp [hn], hc⟩, fun d hd => ?_⟩
    exact List.all_eq_true.1 List.all_takeWhile d hd
  have hends : EndsName ((c :: s).dropWhile isNameChar) := by
    intro d hd
    have := List.head?_dropWhile_not isNameChar (c :: s)
    rw [Option.mem_def.1 hd] at this
    simpa using this
  rw [readTag] at h
  split at h
  · rename_i taken rest ht
    cases h
    have hr : taken ++ after = (c :: s).dropWhile isNameChar := tagEnd?_append ht
    have hclosed : tagEnd? none (taken ++ []) = some (taken, []) := tagEnd?_stays ht []
    rw [List.append_nil] at hclosed
    refine ⟨taken, ho, hname, ?_, rfl, .inl hclosed⟩
    cases taken with
    | nil => cases hclosed
    | cons d t =>
      intro e he
      exact hends e (by rw [← hr]; exact he)
  · rename_i ht
    cases h
    exact ⟨_, ho, hname, hends, rfl, .inr ⟨ht, rfl⟩⟩

theorem Item.Stands.tagForm {name source rest : List Char}
    (h : (Item.tag name source).Stands rest) :
    ∃ opening attributes, TagForm name source rest opening attributes := by
  rcases readItem?_cases h with ⟨t, -, ht⟩ | ⟨opening, t, -, -, ht⟩ | ⟨opening, c, t, -, ho, hc, ht⟩
  · obtain ⟨d, hd⟩ := exists_directive_of_readComment t
    rw [ht] at hd
    cases hd
  · obtain ⟨d, hd⟩ := exists_directive_of_readDirective opening t
    rw [ht] at hd
    cases hd
  · exact ⟨opening, tagForm_of_readTag ho hc ht⟩

/-! ## Items that are closed -/

theorem rest?_append {mark u : List Char} (h : mark.length ≤ u.length) (v : List Char) :
    rest? mark (u ++ v) = (rest? mark u).map (· ++ v) := by
  induction mark generalizing u with
  | nil => rfl
  | cons m mark ih =>
    cases u with
    | nil => cases h
    | cons c u =>
      rw [List.cons_append, rest?, rest?]
      split
      · exact ih (Nat.le_of_succ_le_succ h)
      · rfl

/-- The first mark stays the first, whatever follows it. -/
theorem cut?_stays {mark s before after : List Char} (h : cut? mark s = some (before, after))
    (hm : mark ≠ []) (v : List Char) : cut? mark (before ++ mark ++ v) = some (before, v) := by
  induction s generalizing before with
  | nil =>
    rw [cut?, List.isEmpty_eq_false_iff.2 hm] at h
    cases h
  | cons c s ih =>
    rw [cut?.eq_def] at h
    dsimp only at h
    split at h
    · cases h
      obtain ⟨m, mark', rfl⟩ := List.exists_cons_of_ne_nil hm
      rw [List.nil_append, List.cons_append, cut?, ← List.cons_append, rest?_self_append]
    · rename_i hr
      obtain ⟨⟨b, a⟩, hb, he⟩ := Option.map_eq_some_iff.1 h
      cases he
      have hs : c :: s = (c :: (b ++ mark)) ++ a := by
        simp [cut?_eq_some hb]
      rw [hs, rest?_append (by simp; omega), Option.map_eq_none_iff] at hr
      have hv : rest? mark (c :: (b ++ mark ++ v)) = none := by
        rw [← List.cons_append, rest?_append (by simp; omega), hr]
        rfl
      rw [List.cons_append, List.cons_append, cut?, hv]
      simp only
      rw [ih hb]
      rfl

def Item.Firm (i : Item) : Prop :=
  ∀ rest, i.Stands rest

theorem firm_of_ne {c : Char} (h : c ≠ '<') : (Item.plain c).Firm := by
  intro rest
  change startsMarkup (c :: rest) = false
  rw [startsMarkup.eq_def]
  split <;> simp_all

theorem TagForm.firm {name source rest opening attributes : List Char}
    (h : TagForm name source rest opening attributes)
    (hc : tagEnd? none attributes = some (attributes, [])) : (Item.tag name source).Firm := by
  intro v
  have hv : tagEnd? none (attributes ++ v) = some (attributes, v) := tagEnd?_stays hc v
  have he : EndsName (attributes ++ v) := by
    cases attributes with
    | nil => cases hc
    | cons c t => exact h.endsName
  change readItem? (source ++ v) = some (.tag name source, v)
  rw [h.source_eq, List.append_assoc]
  exact readItem?_closed h.opening_eq h.isName he hv

theorem getLast?_of_tagEnd {quote : Option Char} {s taken after : List Char}
    (h : tagEnd? quote s = some (taken, after)) : taken.getLast? = some '>' := by
  induction s generalizing quote taken with
  | nil => cases h
  | cons c s ih =>
    rw [tagEnd?.eq_def] at h
    dsimp only at h
    split at h
    · obtain ⟨⟨t, a⟩, ht, he⟩ := Option.map_eq_some_iff.1 h
      cases he
      simp [List.getLast?_cons, ih ht]
    · split at h
      · cases h
        rfl
      · obtain ⟨⟨t, a⟩, ht, he⟩ := Option.map_eq_some_iff.1 h
        cases he
        simp [List.getLast?_cons, ih ht]

theorem readItem?_directive {opening s : List Char} (h : IsDirective opening s) :
    readItem? (opening ++ s) = some (readDirective opening s) := by
  rcases h with ⟨rfl, hs⟩ | rfl
  · exact readItem?.eq_2 s hs
  · rfl

/-- A closed directive stays the same before every rest. -/
theorem directive_closed {opening s rest : List Char} {i : Item} (hd : IsDirective opening s)
    (h : readDirective opening s = (i, rest)) :
    (i.Firm ∧ i.source.getLast? = some '>') ∨ rest = [] := by
  unfold readDirective at h
  split at h
  · rename_i body after hc
    cases h
    refine .inl ⟨fun v => ?_, by simp [Item.source]⟩
    have hv : cut? ['>'] (body ++ ['>'] ++ v) = some (body, v) := cut?_stays hc (by simp) v
    have hb : IsDirective opening (body ++ ['>'] ++ v) := by
      rcases hd with ⟨ho, hs⟩ | ho
      · refine .inl ⟨ho, fun t ht => ?_⟩
        rw [cut?_eq_some hc] at hs
        cases body with
        | nil => simp at ht
        | cons c body =>
          cases body with
          | nil => simp at ht
          | cons d body =>
            simp only [List.cons_append, List.cons.injEq] at ht
            exact hs (body ++ ['>'] ++ rest) (by simp [ht.1, ht.2.1])
      · exact .inr ho
    change readItem? (opening ++ body ++ ['>'] ++ v) = _
    rw [List.append_assoc, List.append_assoc, ← List.append_assoc body, readItem?_directive hb,
      readDirective, hv]
  · cases h
    exact .inr rfl

theorem comment_closed {s rest : List Char} {i : Item} (h : readComment s = (i, rest)) :
    (i.Firm ∧ i.source.getLast? = some '>') ∨ rest = [] ∨ rest = ['\n'] := by
  unfold readComment at h
  dsimp only at h
  split at h
  · rename_i body after hc
    cases h
    refine .inl ⟨fun v => ?_, by rw [Item.source, List.getLast?_append]; rfl⟩
    have hv : cut? commentEnd (body ++ commentEnd ++ v) = some (body, v) :=
      cut?_stays hc (by simp [commentEnd]) v
    change some (readComment (body ++ commentEnd ++ v)) = _
    rw [readComment, hv]
  · split at h
    · cases h
      exact .inr (.inr rfl)
    · cases h
      exact .inr (.inl rfl)

/-- A tag or directive that does not run to the end is closed. -/
theorem Item.Stands.closed {i : Item} {rest : List Char} (h : i.Stands rest)
    (hi : i.IsMarkup) :
    (i.Firm ∧ i.source.getLast? = some '>') ∨ rest = [] ∨ rest = ['\n'] := by
  cases i with
  | plain c => exact absurd rfl (hi c)
  | directive s =>
    rcases readItem?_cases h with
      ⟨t, hs, ht⟩ | ⟨opening, t, hs, ho, ht⟩ | ⟨opening, c, t, -, -, -, ht⟩
    · exact comment_closed ht
    · exact (directive_closed ho ht).imp id .inl
    · obtain ⟨name, u, hu⟩ := exists_tag_of_readTag opening (c :: t)
      rw [ht] at hu
      cases hu
  | tag name s =>
    obtain ⟨opening, attributes, hf⟩ := h.tagForm
    rcases hf.closed with hc | ⟨-, hr⟩
    · refine .inl ⟨hf.firm hc, ?_⟩
      rw [Item.source, hf.source_eq, List.getLast?_append, getLast?_of_tagEnd hc]
      rfl
    · exact .inr (.inl hr)

theorem startsMarkup_append {s : List Char} (h : 2 ≤ s.length) (rest : List Char) :
    startsMarkup ('<' :: (s ++ rest)) = startsMarkup ('<' :: s) := by
  match s, h with
  | c :: d :: s, _ =>
    by_cases hc : c = '!' ∨ c = '?' ∨ c = '/'
    · rcases hc with rfl | rfl | rfl <;> rfl
    · rw [not_or, not_or] at hc
      rw [List.cons_append, List.cons_append, startsMarkup, startsMarkup] <;> simp [hc]

/-- Items are read alike before any two texts that start with the same two characters. -/
theorem Reads.extend {is : List Item} {u rest : List Char} (h : Reads is (u ++ rest))
    (hu : 2 ≤ u.length) (v : List Char) : Reads is (u ++ v) := by
  induction is with
  | nil => trivial
  | cons i is ih =>
    obtain ⟨hi, h⟩ := h
    refine ⟨?_, ih h⟩
    rw [← List.append_assoc] at hi ⊢
    have hlen : 2 ≤ (Markup.sourceOf is ++ u).length := by
      rw [List.length_append]
      omega
    rcases i.plain_or with ⟨d, rfl⟩ | hp
    · by_cases hd : d = '<'
      · subst hd
        change startsMarkup ('<' :: (Markup.sourceOf is ++ u ++ rest)) = false at hi
        change startsMarkup ('<' :: (Markup.sourceOf is ++ u ++ v)) = false
        rw [startsMarkup_append hlen] at hi ⊢
        exact hi
      · exact firm_of_ne hd _
    · rcases hi.closed hp with ⟨hf, -⟩ | hn | hn
      · exact hf _
      · have hl := congrArg List.length hn
        rw [List.length_append, List.length_nil] at hl
        omega
      · have hl := congrArg List.length hn
        rw [List.length_append, List.length_singleton] at hl
        omega

end ContentIndex.Markup
