import ContentIndex.Markup.Buckets
import ContentIndex.Proofs.Markup.Reading
import Mathlib.Data.List.Chain

/-!
# Spaces around tags

Padding puts a space before every `<` and after every `>`. Leaving out stretches that start with a
`<` keeps it so, and it keeps the words that the remaining `<` start. Hence what is left after tags
have gone is read as the items that have stayed, and no new one appears.
-/

namespace ContentIndex.Markup

set_option autoImplicit false

open Text

/-- `t` is `s` without some stretches, each of which starts with an element of `p`. -/
inductive Thinned {α : Type} (p : α → Prop) : List α → List α → Prop where
  | nil : Thinned p [] []
  | keep {s t : List α} (a : α) : Thinned p s t → Thinned p (a :: s) (a :: t)
  | drop {s t : List α} {a : α} (u : List α) : p a → Thinned p s t → Thinned p (a :: u ++ s) t

theorem Thinned.keepAll {α : Type} {p : α → Prop} {s t : List α} (u : List α)
    (h : Thinned p s t) : Thinned p (u ++ s) (u ++ t) := by
  induction u with
  | nil => exact h
  | cons a u ih => exact .keep a ih

theorem Thinned.eq_of_not {α : Type} {p : α → Prop} {s t : List α} (h : Thinned p s t)
    (hs : ∀ a ∈ s, ¬ p a) : t = s := by
  induction h with
  | nil => rfl
  | keep a _ ih => rw [ih fun b hb => hs b (List.mem_cons_of_mem a hb)]
  | drop u ha _ _ => exact absurd ha (hs _ (by simp))

/-- Neighbours in a text with spaces around its tags. -/
def Apart (a b : Char) : Prop :=
  (b = '<' → a = ' ') ∧ (a = '>' → b = ' ')

theorem apart_space (c : Char) : Apart ' ' c :=
  ⟨fun _ => rfl, fun h => absurd h (by decide)⟩

theorem apart_of_space (c : Char) : Apart c ' ' :=
  ⟨fun h => absurd h (by decide), fun _ => rfl⟩

/-- A space before every `<` and after every `>`; the bars stand for the ends. -/
def Spaced (s : List Char) : Prop :=
  ('|' :: (s ++ ['|'])).IsChain Apart

theorem Thinned.chain {s t : List Char} (h : Thinned (· = '<') s t) {a : Char} {z : List Char}
    (hs : (a :: (s ++ z)).IsChain Apart) : (a :: (t ++ z)).IsChain Apart := by
  induction h generalizing a with
  | nil => exact hs
  | keep c _ ih =>
    rw [List.cons_append, List.isChain_cons_cons] at hs ⊢
    exact ⟨hs.1, ih hs.2⟩
  | @drop s t c u hc _ ih =>
    subst hc
    have ha : a = ' ' := by
      rw [List.cons_append, List.cons_append, List.isChain_cons_cons] at hs
      exact hs.1.1 rfl
    have hz : (s ++ z).IsChain Apart := by
      have hs' : ((a :: '<' :: u) ++ (s ++ z)).IsChain Apart := by simpa using hs
      exact hs'.right_of_append
    apply ih
    rw [ha, List.isChain_cons]
    exact ⟨fun c _ => apart_space c, hz⟩

theorem Thinned.spaced {s t : List Char} (h : Thinned (· = '<') s t) (hs : Spaced s) : Spaced t :=
  h.chain hs

/-- The word at the start of what follows a character other than a space stays. -/
theorem Thinned.word_eq {s t : List Char} (h : Thinned (· = '<') s t) {a : Char}
    (hs : (a :: s).IsChain Apart) (ha : a ≠ ' ') :
    t.takeWhile (!isBlank ·) = s.takeWhile (!isBlank ·) := by
  induction h generalizing a with
  | nil => rfl
  | keep c _ ih =>
    rw [List.isChain_cons_cons] at hs
    cases hc : isBlank c with
    | true => simp [hc]
    | false =>
      have hne : c ≠ ' ' := by rintro rfl; exact absurd hc (by decide)
      simp [hc, ih hs.2 hne]
  | drop u hc _ _ =>
    rw [List.cons_append, List.isChain_cons_cons] at hs
    exact absurd (hs.1.1 hc) ha

theorem isAsciiLetter_eq_false_of_isBlank {c : Char} (h : isBlank c = true) :
    isAsciiLetter c = false := by
  cases hl : isAsciiLetter c with
  | false => rfl
  | true =>
    have hn : isNameChar c = true := isNameChar_of_isAsciiLetter hl
    simp [isNameChar, h] at hn

theorem startsMarkup_blank {c : Char} (s : List Char) (h : isBlank c = true) :
    startsMarkup ('<' :: c :: s) = false := by
  have hl : isAsciiLetter c = false := isAsciiLetter_eq_false_of_isBlank h
  rw [startsMarkup.eq_def]
  split
  · rename_i hc
    cases hc
    exact absurd h (by decide)
  · rename_i hc
    cases hc
    exact absurd h (by decide)
  · rename_i hc
    cases hc
    exact absurd h (by decide)
  · rename_i hc
    cases hc
    exact hl
  · rfl

theorem startsMarkup_word (s : List Char) :
    startsMarkup ('<' :: s.takeWhile (!isBlank ·)) = startsMarkup ('<' :: s) := by
  cases s with
  | nil => rfl
  | cons c s =>
    cases hc : isBlank c with
    | true =>
      rw [List.takeWhile_cons_of_neg (by simp [hc]), startsMarkup_blank s hc]
      rfl
    | false =>
      rw [List.takeWhile_cons_of_pos (by simp [hc])]
      by_cases hs : c = '/'
      · subst hs
        cases s with
        | nil => rfl
        | cons d s =>
          cases hd : isBlank d with
          | true =>
            rw [List.takeWhile_cons_of_neg (by simp [hd])]
            exact (isAsciiLetter_eq_false_of_isBlank hd).symm
          | false =>
            rw [List.takeWhile_cons_of_pos (by simp [hd])]
            rfl
      · -- past `<` and one character other than `/` nothing matters
        rw [startsMarkup.eq_def, startsMarkup.eq_def]
        split <;> simp_all

theorem startsMarkup_congr {s t : List Char}
    (h : s.takeWhile (!isBlank ·) = t.takeWhile (!isBlank ·)) :
    startsMarkup ('<' :: s) = startsMarkup ('<' :: t) := by
  rw [← startsMarkup_word s, ← startsMarkup_word t, h]

theorem startsMarkup_cons {c : Char} {s : List Char} (h : startsMarkup (c :: s) = true) :
    c = '<' := by
  by_cases hc : c = '<'
  · exact hc
  · have hf : startsMarkup (c :: s) = false := firm_of_ne hc s
    rw [hf] at h
    cases h

theorem Item.Stands.readItem?_eq {i : Item} {rest : List Char} (h : i.Stands rest)
    (hi : i.IsMarkup) : readItem? (i.source ++ rest) = some (i, rest) := by
  cases i with
  | plain c => exact absurd rfl (hi c)
  | directive s => exact h
  | tag name s => exact h

theorem Item.Stands.source_eq {i : Item} {rest : List Char} (h : i.Stands rest)
    (hi : i.IsMarkup) : ∃ u, i.source = '<' :: u := by
  have hr : readItem? (i.source ++ rest) = some (i, rest) := h.readItem?_eq hi
  have hs : startsMarkup (i.source ++ rest) = true := by
    rw [← isSome_readItem?, hr]
    rfl
  obtain ⟨c, u, hu⟩ := List.exists_cons_of_ne_nil (source_ne_nil_of_readItem hr)
  rw [hu] at hs ⊢
  exact ⟨u, by rw [startsMarkup_cons hs]⟩

theorem Item.Stands.source_ne_nil {i : Item} {rest : List Char} (h : i.Stands rest) :
    i.source ≠ [] := by
  rcases i.plain_or with ⟨c, rfl⟩ | hi
  · exact List.cons_ne_nil c []
  · obtain ⟨u, hu⟩ := h.source_eq hi
    rw [hu]
    exact List.cons_ne_nil _ _

theorem Reads.sourceOf_ne_nil {is : List Item} {rest : List Char} (h : Reads is rest)
    (hi : is ≠ []) : Markup.sourceOf is ≠ [] := by
  obtain ⟨i, js, rfl⟩ := List.exists_cons_of_ne_nil hi
  rw [sourceOf_cons]
  exact List.append_ne_nil_of_left_ne_nil h.1.source_ne_nil _

/-- Only a `<` of its own looks at what follows it. -/
theorem Item.Stands.thinned_of_ne {i : Item} {s t : List Char} (h : i.Stands s)
    (ht : Thinned (· = '<') s t) (hi : i ≠ .plain '<') : i.Stands t := by
  rcases i.plain_or with ⟨c, rfl⟩ | hm
  · exact firm_of_ne (fun hc => hi (congrArg Item.plain hc)) t
  · rcases h.closed hm with ⟨hf, -⟩ | rfl | rfl
    · exact hf t
    · rw [ht.eq_of_not (by simp)]
      exact h
    · rw [ht.eq_of_not (by simp)]
      exact h

theorem Item.Stands.thinned {i : Item} {s t : List Char} (h : i.Stands s)
    (ht : Thinned (· = '<') s t) (hs : (i.source ++ s).IsChain Apart) : i.Stands t := by
  by_cases hi : i = .plain '<'
  · subst hi
    have hw : t.takeWhile (!isBlank ·) = s.takeWhile (!isBlank ·) :=
      ht.word_eq hs (by decide)
    exact (startsMarkup_congr hw).trans h
  · exact h.thinned_of_ne ht hi

theorem Thinned.sourceOf {is js : List Item} {rest : List Char}
    (h : Thinned Item.IsMarkup is js) (hr : Reads is rest) :
    Thinned (· = '<') (sourceOf is) (sourceOf js) := by
  induction h with
  | nil => exact .nil
  | keep i _ ih => exact (ih hr.2).keepAll _
  | @drop is js i us hi _ ih =>
    obtain ⟨u, hu⟩ := hr.1.source_eq hi
    obtain ⟨-, hr'⟩ := reads_append.1 hr
    rw [sourceOf_append, sourceOf_cons, hu, List.append_assoc, List.cons_append, ← List.append_assoc,
      ← List.cons_append]
    exact .drop _ rfl (ih hr')

/-- Items are still read as they were when others have gone. -/
theorem Reads.thinned {is js : List Item} (h : Thinned Item.IsMarkup is js)
    (hr : Reads is []) (hs : (Markup.sourceOf is).IsChain Apart) : Reads js [] := by
  induction h with
  | nil => trivial
  | keep i ht ih =>
    obtain ⟨hi, hr⟩ := hr
    rw [List.append_nil] at hi
    refine ⟨?_, ih hr hs.right_of_append⟩
    rw [List.append_nil]
    exact hi.thinned (ht.sourceOf hr) hs
  | drop us hi _ ih =>
    rw [sourceOf_append] at hs
    exact ih (reads_append.1 hr).2 hs.right_of_append

theorem thinned_filter (allowed : List (List Char)) (is : List Item) :
    Thinned Item.IsMarkup is (is.filter (Item.kept allowed)) := by
  induction is with
  | nil => exact .nil
  | cons i is ih =>
    cases hi : i.kept allowed with
    | true =>
      rw [List.filter_cons_of_pos hi]
      exact .keep i ih
    | false =>
      rw [List.filter_cons_of_neg (by simp [hi])]
      refine .drop [] ?_ ih
      rintro c rfl
      cases hi

theorem thinned_stripTags (allowed : List (List Char)) (s : List Char) :
    Thinned (· = '<') s (stripTags allowed s) := by
  have h := (thinned_filter allowed (items s)).sourceOf (reads_items s)
  rwa [sourceOf, source_items] at h

/-- What is left of a text with spaces around its tags is read as the items that were kept. -/
theorem items_stripTags {s : List Char} (allowed : List (List Char)) (hs : s.IsChain Apart) :
    items (stripTags allowed s) = (items s).filter (Item.kept allowed) := by
  have hr : Reads ((items s).filter (Item.kept allowed)) [] := by
    apply (reads_items s).thinned (thinned_filter allowed (items s))
    rwa [sourceOf, source_items]
  have h := hr.items_eq
  rwa [List.append_nil, items_nil, List.append_nil] at h

/-! ## Plain characters -/

def plainText (is : List Item) : List Char :=
  is.filterMap fun
    | .plain c => some c
    | _ => none

theorem filter_kept_nil (is : List Item) :
    is.filter (Item.kept []) = (plainText is).map .plain := by
  induction is with
  | nil => rfl
  | cons i is ih =>
    cases i with
    | plain c => exact congrArg (Item.plain c :: ·) ih
    | directive s => exact ih
    | tag name s => exact ih

theorem plainText_append (is js : List Item) :
    plainText (is ++ js) = plainText is ++ plainText js :=
  List.filterMap_append

theorem plainText_cons {i : Item} (h : i.IsMarkup) (is : List Item) :
    plainText (i :: is) = plainText is := by
  cases i with
  | plain c => exact absurd rfl (h c)
  | directive s => rfl
  | tag name s => rfl

theorem plainText_filter_kept (allowed : List (List Char)) (is : List Item) :
    plainText (is.filter (Item.kept allowed)) = plainText is := by
  induction is with
  | nil => rfl
  | cons i is ih =>
    cases hi : i.kept allowed with
    | true =>
      rw [List.filter_cons_of_pos hi]
      exact (plainText_append [i] _).trans ((congrArg _ ih).trans (plainText_append [i] is).symm)
    | false =>
      rw [List.filter_cons_of_neg (by simp [hi]), ih, plainText_cons]
      rintro c rfl
      cases hi

theorem plainText_eq_nil {is : List Item} (h : ∀ i ∈ is, i.IsMarkup) :
    plainText is = [] := by
  rw [plainText, List.filterMap_eq_nil_iff]
  intro i hi
  cases i with
  | plain c => exact absurd rfl (h _ hi c)
  | directive s => rfl
  | tag name s => rfl

theorem stripTags_nil (s : List Char) : stripTags [] s = plainText (items s) := by
  rw [stripTags, filter_kept_nil]
  exact sourceOf_map_plain _

/-! ## Padded texts -/

theorem chain_pad {a : Char} (s : List Char) (ha : a ≠ '>') :
    (a :: (pad s ++ ['|'])).IsChain Apart := by
  induction s generalizing a with
  | nil => simp [pad, Apart, ha]
  | cons c s ih =>
    rw [pad]
    split
    · have h := ih (a := '<') (by decide)
      simp only [List.cons_append, List.isChain_cons_cons]
      exact ⟨⟨fun h => absurd h (by decide), fun h => absurd h ha⟩, apart_space '<', h⟩
    · rename_i hc
      split
      · have h := ih (a := ' ') (by decide)
        simp only [List.cons_append, List.isChain_cons_cons]
        exact ⟨⟨fun h => absurd h (by decide), fun h => absurd h ha⟩, ⟨by decide, fun _ => rfl⟩, h⟩
      · rename_i hc'
        simp only [List.cons_append, List.isChain_cons_cons]
        exact ⟨⟨fun h => absurd h hc, fun h => absurd h ha⟩, ih hc'⟩

theorem spaced_pad (s : List Char) : Spaced (pad s) :=
  chain_pad s (by decide)

theorem Spaced.isChain {s : List Char} (h : Spaced s) : s.IsChain Apart :=
  (List.IsChain.tail h).left_of_append

/-! ## Text outside heading elements -/

def bodyText (ps : List Piece) : List Char :=
  ps.flatMap fun
    | .body c => [c]
    | .heading _ => []

theorem source_of_readHeading {s after : List Char} {heading : Heading}
    (h : readHeading? s = some (heading, after)) : ∃ u, heading.source = '<' :: u := by
  unfold readHeading? at h
  split at h
  · split at h
    · split at h
      · cases h
      · split at h
        · cases h
        · obtain ⟨⟨t, a⟩, -, he⟩ := Option.map_eq_some_iff.1 h
          cases he
          exact ⟨_, rfl⟩
    · cases h
  · cases h

theorem thinned_bodyText (s : List Char) : Thinned (· = '<') s (bodyText (pieces s)) := by
  fun_induction pieces s with
  | case1 => exact .nil
  | case2 c rest heading after h ih =>
    obtain ⟨u, hu⟩ := source_of_readHeading h
    rw [← readHeading?_append h, hu]
    exact .drop u rfl ih
  | case3 c rest h ih => exact .keep c ih

end ContentIndex.Markup
