import ContentIndex.Proofs.Markup.Spacing

/-!
# Stripping a stripped text

Where spaces stand around the tags, what is left is read as the items that were kept. So stripping
twice there is stripping once, of all but the names that are allowed both times.

In other texts an item that goes can leave a `<` of its own in front of new characters, and the two
are then read as markup. Nothing else makes a stripped text differ from what was kept of it.
-/

namespace ContentIndex.Markup

set_option autoImplicit false

open Text

/-- The names among `allowed` that `others` has too, in whatever case. -/
def namesInBoth (allowed others : List (List Char)) : List (List Char) :=
  allowed.filter (isAllowed others)

theorem isAllowed_iff {allowed : List (List Char)} {name : List Char} :
    isAllowed allowed name = true ↔ ∃ other ∈ allowed, lower other = lower name := by
  rw [isAllowed, List.contains_iff_mem, List.mem_map]

theorem isAllowed_namesInBoth (allowed others : List (List Char)) (name : List Char) :
    isAllowed (namesInBoth allowed others) name =
      (isAllowed others name && isAllowed allowed name) := by
  rw [Bool.eq_iff_iff, Bool.and_eq_true, isAllowed_iff, isAllowed_iff, isAllowed_iff]
  constructor
  · rintro ⟨a, ha, hname⟩
    obtain ⟨hmem, hboth⟩ := List.mem_filter.1 ha
    obtain ⟨b, hb, heq⟩ := isAllowed_iff.1 hboth
    exact ⟨⟨b, hb, heq.trans hname⟩, a, hmem, hname⟩
  · rintro ⟨⟨b, hb, hother⟩, a, ha, hname⟩
    refine ⟨a, List.mem_filter.2 ⟨ha, ?_⟩, hname⟩
    exact isAllowed_iff.2 ⟨b, hb, hother.trans hname.symm⟩

theorem kept_namesInBoth (allowed others : List (List Char)) (i : Item) :
    i.kept (namesInBoth allowed others) = (i.kept others && i.kept allowed) := by
  cases i with
  | plain c => rfl
  | directive s => rfl
  | tag name s => exact isAllowed_namesInBoth allowed others name

/-- Of a text with spaces around its tags, the second stripping reads just the items that the first
one kept, and the two leave what one stripping leaves that allows the names which both of them
allow. -/
theorem stripTags_stripTags_pad (s : List Char) (allowed others : List (List Char)) :
    stripTags others (stripTags allowed (pad s)) =
      stripTags (namesInBoth allowed others) (pad s) ∧
    items (stripTags allowed (pad s)) = (items (pad s)).filter (Item.kept allowed) := by
  have hread := items_stripTags allowed (spaced_pad s).isChain
  refine ⟨?_, hread⟩
  have hkept : ((items (pad s)).filter (Item.kept allowed)).filter (Item.kept others) =
      (items (pad s)).filter (Item.kept (namesInBoth allowed others)) := by
    rw [List.filter_filter]
    exact List.filter_congr fun i _ => (kept_namesInBoth allowed others i).symm
  rw [stripTags, hread, hkept]
  rfl

/-! ## Texts that stay as they are -/

theorem length_sourceOf_filter_le (p : Item → Bool) (is : List Item) :
    (sourceOf (is.filter p)).length ≤ (sourceOf is).length := by
  induction is with
  | nil => exact Nat.le_refl _
  | cons i is ih =>
    cases hi : p i with
    | true =>
      rw [List.filter_cons_of_pos hi, sourceOf_cons, sourceOf_cons, List.length_append,
        List.length_append]
      exact Nat.add_le_add_left ih _
    | false =>
      rw [List.filter_cons_of_neg (by simp [hi]), sourceOf_cons, List.length_append]
      exact Nat.le_add_left_of_le ih

/-- No item is without characters, so a text from which nothing is gone has lost no item. -/
theorem Reads.forall_of_sourceOf_filter {is : List Item} {rest : List Char} {p : Item → Bool}
    (h : Reads is rest) (he : Markup.sourceOf (is.filter p) = Markup.sourceOf is) :
    ∀ i ∈ is, p i = true := by
  induction is with
  | nil => exact fun i hi => absurd hi List.not_mem_nil
  | cons i is ih =>
    cases hi : p i with
    | true =>
      rw [List.filter_cons_of_pos hi, sourceOf_cons, sourceOf_cons] at he
      exact List.forall_mem_cons.2 ⟨hi, ih h.2 (List.append_cancel_left he)⟩
    | false =>
      rw [List.filter_cons_of_neg (by simp [hi]), sourceOf_cons] at he
      have hlength := congrArg List.length he
      have hle := length_sourceOf_filter_le p is
      have hpos := List.length_pos_iff.2 h.1.source_ne_nil
      rw [List.length_append] at hlength
      omega

theorem stripTags_eq_self_iff {allowed : List (List Char)} {s : List Char} :
    stripTags allowed s = s ↔ ∀ i ∈ items s, i.kept allowed = true := by
  refine ⟨fun h => ?_, stripTags_eq_self⟩
  apply (reads_items s).forall_of_sourceOf_filter
  change stripTags allowed s = sourceOf (items s)
  rw [h, sourceOf, source_items]

/-! ## New neighbours of a `<` -/

/-- A `<` of its own opens markup once the items behind it that are not allowed are gone. -/
def Exposes (allowed : List (List Char)) (is : List Item) : Prop :=
  ∃ before after, is = before ++ .plain '<' :: after ∧
    startsMarkup ('<' :: sourceOf (after.filter (Item.kept allowed))) = true

theorem not_exposes_nil (allowed : List (List Char)) : ¬ Exposes allowed [] := by
  rintro ⟨before, after, h, -⟩
  exact List.append_ne_nil_of_right_ne_nil before (List.cons_ne_nil _ after) h.symm

theorem exposes_cons {allowed : List (List Char)} {i : Item} {is : List Item} :
    Exposes allowed (i :: is) ↔
      (i = .plain '<' ∧
        startsMarkup ('<' :: sourceOf (is.filter (Item.kept allowed))) = true) ∨
      Exposes allowed is := by
  constructor
  · rintro ⟨before, after, h, hs⟩
    cases before with
    | nil =>
      cases h
      exact .inl ⟨rfl, hs⟩
    | cons j before =>
      cases h
      exact .inr ⟨before, after, rfl, hs⟩
  · rintro (⟨rfl, hs⟩ | ⟨before, after, rfl, hs⟩)
    · exact ⟨[], is, rfl, hs⟩
    · exact ⟨i :: before, after, rfl, hs⟩

/-- What is kept is read as such unless a `<` is exposed. -/
theorem reads_filter_iff {allowed : List (List Char)} {is : List Item} (h : Reads is []) :
    Reads (is.filter (Item.kept allowed)) [] ↔ ¬ Exposes allowed is := by
  induction is with
  | nil => exact iff_of_true trivial (not_exposes_nil allowed)
  | cons i is ih =>
    obtain ⟨hi, hr⟩ := h
    rw [List.append_nil] at hi
    rw [exposes_cons, not_or, ← ih hr]
    by_cases hlt : i = .plain '<'
    · subst hlt
      rw [List.filter_cons_of_pos rfl, Reads, List.append_nil]
      simp [Item.Stands]
    · have hthin := (thinned_filter allowed is).sourceOf hr
      rw [and_iff_right fun h => hlt h.1]
      cases hkept : i.kept allowed with
      | true =>
        rw [List.filter_cons_of_pos hkept, Reads, List.append_nil]
        exact and_iff_right (hi.thinned_of_ne hthin hlt)
      | false => rw [List.filter_cons_of_neg (by simp [hkept])]

theorem items_stripTags_iff {allowed : List (List Char)} {s : List Char} :
    items (stripTags allowed s) = (items s).filter (Item.kept allowed) ↔
      ¬ Exposes allowed (items s) := by
  rw [← reads_filter_iff (reads_items s)]
  constructor
  · intro h
    rw [← h]
    exact reads_items _
  · intro h
    have hread := h.items_eq
    rwa [List.append_nil, items_nil, List.append_nil] at hread

/-! ## Where a `<` is exposed -/

/-- What is not allowed stands right behind a `<` of its own, or behind a slash after it. -/
def Joins (allowed : List (List Char)) (is : List Item) : Prop :=
  ∃ before i after, i.kept allowed = false ∧
    (is = before ++ .plain '<' :: i :: after ∨
      is = before ++ .plain '<' :: .plain '/' :: i :: after)

theorem startsMarkup_second {c : Char} (hc : c ≠ '/') (s t : List Char) :
    startsMarkup ('<' :: c :: s) = startsMarkup ('<' :: c :: t) := by
  rw [startsMarkup.eq_def, startsMarkup.eq_def]
  split <;> simp_all

/-- Kept neighbours of a `<` do not change: only the first two characters behind it count, and the
second one only after a slash. -/
theorem joins_of_exposes {allowed : List (List Char)} {is : List Item} (h : Reads is [])
    (he : Exposes allowed is) : Joins allowed is := by
  obtain ⟨before, after, rfl, hs⟩ := he
  obtain ⟨-, hlone, hr⟩ := reads_append.1 h
  rw [List.append_nil] at hlone
  change startsMarkup ('<' :: sourceOf after) = false at hlone
  cases after with
  | nil => cases hs
  | cons i after =>
    cases hi : i.kept allowed with
    | false => exact ⟨before, i, after, hi, .inl rfl⟩
    | true =>
      rw [List.filter_cons_of_pos hi, sourceOf_cons] at hs
      rw [sourceOf_cons] at hlone
      rcases i.plain_or with ⟨c, rfl⟩ | hm
      · by_cases hc : c = '/'
        · subst hc
          cases after with
          | nil => cases hs
          | cons j after =>
            cases hj : j.kept allowed with
            | false => exact ⟨before, j, after, hj, .inr rfl⟩
            | true =>
              obtain ⟨d, u, hu⟩ := List.exists_cons_of_ne_nil hr.2.1.source_ne_nil
              rw [List.filter_cons_of_pos hj, sourceOf_cons, hu] at hs
              rw [sourceOf_cons, hu] at hlone
              exact absurd (hs.symm.trans hlone) Bool.noConfusion
        · have heq := startsMarkup_second hc (sourceOf (after.filter (Item.kept allowed)))
            (sourceOf after)
          exact absurd (hs.symm.trans (heq.trans hlone)) Bool.noConfusion
      · obtain ⟨u, hu⟩ := hr.1.source_eq hm
        rw [hu] at hs
        cases hs

/-- Where nothing is allowed, what is read after a stripping that changes no more is what was
kept. -/
theorem items_of_plain_only {s : List Char}
    (h : ∀ i ∈ items (stripTags [] s), i.kept [] = true) :
    items (stripTags [] s) = (items s).filter (Item.kept []) := by
  have hself : stripTags [] (stripTags [] s) = stripTags [] s := stripTags_eq_self h
  rw [stripTags_nil (stripTags [] s), stripTags_nil s] at hself
  rw [stripTags_nil s] at h ⊢
  calc items (plainText (items s))
      = (items (plainText (items s))).filter (Item.kept []) := (List.filter_eq_self.2 h).symm
    _ = (plainText (items (plainText (items s)))).map .plain := filter_kept_nil _
    _ = (plainText (items s)).map .plain := by rw [hself]
    _ = (items s).filter (Item.kept []) := (filter_kept_nil _).symm

/-- All markup of a stripped text is allowed just if stripping it again leaves it as it is. What is
read in it is what was kept, and so allowed, just if no `<` is exposed. Where nothing is allowed
there is no other way for all of it to be so; and a `<` is exposed only where what goes stands right
behind it or behind its slash. -/
theorem stripTags_again (allowed : List (List Char)) (s : List Char) :
    ((∀ i ∈ items (stripTags allowed s), i.kept allowed = true) ↔
      stripTags allowed (stripTags allowed s) = stripTags allowed s) ∧
    (items (stripTags allowed s) = (items s).filter (Item.kept allowed) ↔
      ¬ Exposes allowed (items s)) ∧
    (¬ Exposes allowed (items s) →
      stripTags allowed (stripTags allowed s) = stripTags allowed s) ∧
    (stripTags [] (stripTags [] s) = stripTags [] s ↔ ¬ Exposes [] (items s)) ∧
    (Exposes allowed (items s) → Joins allowed (items s)) := by
  have hagain : ∀ names, ¬ Exposes names (items s) →
      stripTags names (stripTags names s) = stripTags names s := by
    intro names h
    apply stripTags_eq_self
    rw [items_stripTags_iff.2 h]
    intro i hi
    exact (List.mem_filter.1 hi).2
  refine ⟨stripTags_eq_self_iff.symm, items_stripTags_iff, hagain allowed, ?_, ?_⟩
  · refine ⟨fun h => ?_, hagain []⟩
    exact items_stripTags_iff.1 (items_of_plain_only (stripTags_eq_self_iff.1 h))
  · exact joins_of_exposes (reads_items s)

/-- A tag is left where one goes behind a `<`. -/
theorem stripTags_joined :
    stripTags [] "<<b>b>".toList = "<b>".toList ∧
    ¬ (∀ i ∈ items (stripTags [] "<<b>b>".toList), i.kept [] = true) ∧
    stripTags [] (stripTags [] "<<b>b>".toList) ≠ stripTags [] "<<b>b>".toList := by
  refine ⟨by decide +kernel, by decide +kernel, by decide +kernel⟩

end ContentIndex.Markup
