import ContentIndex.Proofs.Markup.HeadingTag
import ContentIndex.Proofs.Markup.Spacing

/-!
# Finding heading elements by their tags

The search for heading elements goes through characters, and it would find an element that stands
in an attribute. `blocks` looks at items as wholes instead: a heading tag opens an element, and the
first closing tag of its level ends it, unless something breaks the line before. `pieces_sourceOf`
says that both find the same where no heading tag starts within another.
-/

namespace ContentIndex.Markup

set_option autoImplicit false

/-- The level of a heading element that may start with the item. -/
def Item.opens? : Item → Option Level
  | .tag _ ('<' :: h :: d :: attributes) =>
    if (h = 'h' ∨ h = 'H') ∧ (tagEnd? none attributes).isSome then Level.ofDigit? d else none
  | _ => none

def Item.closes (level : Level) (i : Item) : Bool :=
  level.dropClosing? i.source = some []

/-- Items through the first closing tag on this line, and the items after it. -/
def Level.closingItems? (breaks : Item → Bool) (level : Level) :
    List Item → Option (List Item × List Item)
  | [] => none
  | i :: is =>
    if i.closes level then some ([i], is)
    else if breaks i then none
    else (level.closingItems? breaks is).map fun (taken, after) => (i :: taken, after)

structure Element where
  level : Level
  items : List Item
  deriving DecidableEq, Repr

/-- The element that starts with `i` when `is` follow, and the items after it. -/
def Item.element? (breaks : Item → Bool) (i : Item) (is : List Item) :
    Option (Element × List Item) :=
  i.opens?.bind fun level =>
    (level.closingItems? breaks is).map fun (taken, after) => (⟨level, i :: taken⟩, after)

theorem Item.isMarkup_of_opens {i : Item} {level : Level} (h : i.opens? = some level) :
    i.IsMarkup := by
  rintro c rfl
  cases h

theorem Level.closingItems?_append {breaks : Item → Bool} {level : Level}
    {is taken after : List Item} (h : level.closingItems? breaks is = some (taken, after)) :
    taken ++ after = is := by
  induction is generalizing taken with
  | nil => cases h
  | cons i is ih =>
    rw [Level.closingItems?] at h
    split at h
    · cases h
      rfl
    · split at h
      · cases h
      · obtain ⟨⟨t, a⟩, ht, he⟩ := Option.map_eq_some_iff.1 h
        cases he
        rw [List.cons_append, ih ht]

theorem Item.element?_eq_some {breaks : Item → Bool} {i : Item} {is after : List Item}
    {e : Element} (h : i.element? breaks is = some (e, after)) :
    ∃ taken, i.opens? = some e.level ∧ e.items = i :: taken ∧
      e.level.closingItems? breaks is = some (taken, after) := by
  obtain ⟨level, hl, h⟩ := Option.bind_eq_some_iff.1 h
  obtain ⟨⟨taken, a⟩, ht, he⟩ := Option.map_eq_some_iff.1 h
  cases he
  exact ⟨taken, hl, rfl, ht⟩

theorem length_lt_of_element {breaks : Item → Bool} {i : Item} {is after : List Item}
    {e : Element} (h : i.element? breaks is = some (e, after)) :
    after.length < (i :: is).length := by
  obtain ⟨taken, -, -, ht⟩ := Item.element?_eq_some h
  have hs := congrArg List.length (Level.closingItems?_append ht)
  rw [List.length_append] at hs
  rw [List.length_cons]
  omega

inductive Block where
  | loose (i : Item)
  | element (e : Element)
  deriving DecidableEq, Repr

/-- Cuts items at the elements that they make up, the first one first. -/
def blocks (breaks : Item → Bool) : List Item → List Block
  | [] => []
  | i :: is =>
    match _h : i.element? breaks is with
    | some (e, after) => .element e :: blocks breaks after
    | none => .loose i :: blocks breaks is
termination_by is => is.length
decreasing_by
  · exact length_lt_of_element _h
  · simp

theorem blocks_of_element {breaks : Item → Bool} {i : Item} {is after : List Item} {e : Element}
    (h : i.element? breaks is = some (e, after)) :
    blocks breaks (i :: is) = .element e :: blocks breaks after := by
  rw [blocks]
  split
  · rename_i e' after' h'
    rw [h] at h'
    cases h'
    rfl
  · rename_i h'
    rw [h] at h'
    cases h'

theorem blocks_of_loose {breaks : Item → Bool} {i : Item} {is : List Item}
    (h : i.element? breaks is = none) :
    blocks breaks (i :: is) = .loose i :: blocks breaks is := by
  rw [blocks]
  split
  · rename_i e after h'
    rw [h] at h'
    cases h'
  · rfl

/-- What the block is for the search over characters. -/
def Block.pieces : Block → List Piece
  | .loose i => i.source.map .body
  | .element e => [.heading ⟨e.level, sourceOf e.items⟩]

/-! ## Items that the search over characters sees as wholes -/

/-- No further heading tag starts in the item. -/
def Item.Flat (i : Item) : Prop :=
  ∀ u w, i.source.tail = u ++ w → ¬ StartsHeading w

def Item.breaksLine (i : Item) : Bool :=
  '\n' ∈ i.source

theorem StartsHeading.head {c : Char} {s : List Char} (h : StartsHeading (c :: s)) : c = '<' :=
  startsMarkup_cons h.startsMarkup

theorem flat_of_not_mem {i : Item} (h : '<' ∉ i.source.tail) : i.Flat := by
  intro u w hs hw
  cases w with
  | nil => cases hw.startsMarkup
  | cons c w =>
    rw [hs, hw.head] at h
    exact h (List.mem_append_right u List.mem_cons_self)

/-- No heading tag starts in a flat item, not even one that reaches over its end. -/
theorem Item.Stands.not_startsHeading {i : Item} {rest u w : List Char} (hi : i.Stands rest)
    (hf : i.Flat) (hs : i.source.tail = u ++ w) (hw : w ≠ []) : ¬ StartsHeading (w ++ rest) := by
  rintro ⟨opening, name, ho, ⟨level, hn⟩, hp⟩
  have hle : ¬ (opening ++ name).length ≤ w.length := fun hl =>
    hf u w hs ⟨opening, name, ho, ⟨level, hn⟩,
      List.prefix_of_prefix_length_le hp (List.prefix_append w rest) hl⟩
  have hne : i.IsMarkup := by
    rintro c rfl
    exact hw (List.append_eq_nil_iff.1 hs.symm).2
  rcases hi.closed hne with ⟨-, hl⟩ | rfl | rfl
  · have hpre : w <+: opening ++ name :=
      List.prefix_of_prefix_length_le (List.prefix_append w rest) hp (by omega)
    have hgt : '>' ∈ w := by
      obtain ⟨c, v, hv⟩ := List.exists_cons_of_ne_nil hi.source_ne_nil
      rw [hv, List.tail_cons] at hs
      rw [hv, hs, ← List.cons_append, List.getLast?_append_of_ne_nil _ hw] at hl
      exact List.mem_of_getLast? hl
    exact not_mem_heading (.inl rfl) ho hn (hpre.subset hgt)
  · rw [List.append_nil] at hp
    exact hle hp.length_le
  · have hpre : w ++ ['\n'] <+: opening ++ name :=
      List.prefix_of_prefix_length_le (List.prefix_refl _) hp (by simp at hle ⊢; omega)
    exact not_mem_heading (.inr rfl) ho hn (hpre.subset (by simp))

/-- Nothing between here and `rest` starts a heading tag. -/
def Quiet (u rest : List Char) : Prop :=
  ∀ v w, u = v ++ w → w ≠ [] → ¬ StartsHeading (w ++ rest)

theorem quiet_cons {c : Char} {u rest : List Char} (h : Quiet (c :: u) rest) :
    ¬ StartsHeading (c :: (u ++ rest)) ∧ Quiet u rest := by
  refine ⟨h [] (c :: u) rfl (List.cons_ne_nil c u), fun v w hu hw => ?_⟩
  exact h (c :: v) w (by rw [hu, List.cons_append]) hw

theorem Item.Stands.quiet {i : Item} {rest u : List Char} {c : Char} (hi : i.Stands rest)
    (hf : i.Flat) (hs : i.source = c :: u) : Quiet u rest := by
  intro v w hu hw
  exact hi.not_startsHeading hf (by rw [hs, List.tail_cons, hu]) hw

theorem Level.closing?_of_quiet {level : Level} {u rest : List Char} (h : Quiet u rest) :
    level.closing? (u ++ rest) =
      if '\n' ∈ u then none
      else (level.closing? rest).map fun (taken, after) => (u ++ taken, after) := by
  induction u with
  | nil => simp
  | cons c u ih =>
    obtain ⟨hs, hu⟩ := quiet_cons h
    have hd : level.dropClosing? (c :: (u ++ rest)) = none := by
      cases hd : level.dropClosing? (c :: (u ++ rest)) with
      | none => rfl
      | some after => exact absurd (startsHeading_of_dropClosing hd) hs
    rw [List.cons_append, Level.closing?, hd]
    simp only
    by_cases hc : c = '\n'
    · simp [hc]
    · rw [if_neg hc, ih hu]
      by_cases hm : '\n' ∈ u
      · simp [hm]
      · simp [hm, Ne.symm hc, Function.comp_def]

theorem pieces_of_readHeading {s after : List Char} {e : Heading}
    (h : readHeading? s = some (e, after)) : pieces s = .heading e :: pieces after := by
  cases s with
  | nil => cases h
  | cons c rest =>
    rw [Markup.pieces]
    split
    · rename_i e' a h'
      rw [h] at h'
      cases h'
      rfl
    · rename_i h'
      rw [h] at h'
      cases h'

theorem pieces_of_body {c : Char} {rest : List Char} (h : readHeading? (c :: rest) = none) :
    pieces (c :: rest) = .body c :: pieces rest := by
  rw [Markup.pieces]
  split
  · rename_i e' a h'
    rw [h] at h'
    cases h'
  · rfl

theorem pieces_of_quiet {u rest : List Char} (h : Quiet u rest) :
    pieces (u ++ rest) = u.map .body ++ pieces rest := by
  induction u with
  | nil => rfl
  | cons c u ih =>
    obtain ⟨hs, hu⟩ := quiet_cons h
    have hr : readHeading? (c :: (u ++ rest)) = none := by
      cases hr : readHeading? (c :: (u ++ rest)) with
      | none => rfl
      | some p => exact absurd (startsHeading_of_readHeading hr) hs
    rw [List.cons_append, pieces_of_body hr, ih hu, List.map_cons, List.cons_append]

/-! ## Closing tags -/

theorem Item.closes_iff {level : Level} {i : Item} :
    i.closes level = true ↔ ∃ h, (h = 'h' ∨ h = 'H') ∧ i.source = closingTag h level.digit := by
  rw [Item.closes, decide_eq_true_iff, Level.dropClosing?_eq_some_iff]
  simp

theorem Item.isMarkup_of_closes {i : Item} {level : Level} (h : i.closes level = true) :
    i.IsMarkup := by
  rintro c rfl
  obtain ⟨d, -, hs⟩ := Item.closes_iff.1 h
  cases hs

theorem Item.Stands.eq_of_closes {i : Item} {level : Level} {rest : List Char}
    (h : i.Stands rest) (hc : i.closes level = true) :
    ∃ c, (c = 'h' ∨ c = 'H') ∧ i = .tag [c, level.digit] (closingTag c level.digit) := by
  obtain ⟨c, hch, hs⟩ := Item.closes_iff.1 hc
  refine ⟨c, hch, ?_⟩
  have hr := h.readItem?_eq (Item.isMarkup_of_closes hc)
  rw [hs, readItem?_closingTag hch] at hr
  cases hr
  rfl

/-- A closing tag that stands somewhere is one of the items there. -/
theorem Item.Stands.dropClosing? {i : Item} {rest : List Char} (h : i.Stands rest)
    (level : Level) :
    level.dropClosing? (i.source ++ rest) = if i.closes level then some rest else none := by
  split
  · rename_i hc
    obtain ⟨c, hch, hs⟩ := Item.closes_iff.1 hc
    exact Level.dropClosing?_eq_some_iff.2 ⟨c, hch, by rw [hs]⟩
  · rename_i hc
    cases hd : level.dropClosing? (i.source ++ rest) with
    | none => rfl
    | some after =>
      exfalso
      rcases i.plain_or with ⟨d, rfl⟩ | hi
      · have hs : startsMarkup (d :: rest) = true := (startsHeading_of_dropClosing hd).startsMarkup
        have hf : startsMarkup (d :: rest) = false := h
        rw [hs] at hf
        cases hf
      · obtain ⟨c, hch, hs⟩ := Level.dropClosing?_eq_some_iff.1 hd
        have hr := h.readItem?_eq hi
        rw [hs, readItem?_closingTag hch] at hr
        cases hr
        exact hc (Item.closes_iff.2 ⟨c, hch, rfl⟩)

theorem closing?_sourceOf {is : List Item} (hr : Reads is []) (hf : ∀ i ∈ is, i.Flat)
    (level : Level) :
    level.closing? (sourceOf is) =
      (level.closingItems? Item.breaksLine is).map
        fun (taken, after) => (sourceOf taken, sourceOf after) := by
  induction is with
  | nil => rfl
  | cons i is ih =>
    obtain ⟨hi, hr⟩ := hr
    rw [List.append_nil] at hi
    have ih := ih hr fun j hj => hf j (List.mem_cons_of_mem i hj)
    have hd := hi.dropClosing? level
    obtain ⟨c, u, hu⟩ := List.exists_cons_of_ne_nil hi.source_ne_nil
    have hq : Quiet u (sourceOf is) := hi.quiet (hf i List.mem_cons_self) hu
    rw [sourceOf_cons, Level.closingItems?]
    rw [hu, List.cons_append] at hd ⊢
    rw [Level.closing?, hd]
    -- past its first character no closing tag can start in the item
    by_cases hc : i.closes level = true
    · obtain ⟨h, -, hs⟩ := Item.closes_iff.1 hc
      rw [hu, closingTag] at hs
      cases hs
      simp [hc, hu]
    · simp only [hc, Bool.false_eq_true, if_false]
      rw [Level.closing?_of_quiet hq, ih, Item.breaksLine, hu]
      by_cases hn : c = '\n'
      · simp [hn]
      · by_cases hm : '\n' ∈ u
        · simp [hm]
        · simp [hm, hn, Ne.symm hn, hu, Function.comp_def]

/-! ## Opening tags -/

theorem readHeading?_of_plain {c : Char} {rest : List Char} (h : (Item.plain c).Stands rest) :
    readHeading? (c :: rest) = none := by
  cases hr : readHeading? (c :: rest) with
  | none => rfl
  | some p =>
    have hs : startsMarkup (c :: rest) = true := (startsHeading_of_readHeading hr).startsMarkup
    have hf : startsMarkup (c :: rest) = false := h
    rw [hs] at hf
    cases hf

/-- The tags that are kept have no more than a letter and a digit in their name. -/
theorem readHeading?_of_kept {i : Item} {rest : List Char} (hi : i.Stands rest)
    (hk : i.kept headingNames = true) :
    readHeading? (i.source ++ rest) =
      i.opens?.bind fun level =>
        (level.closing? rest).map fun (taken, after) => (⟨level, i.source ++ taken⟩, after) := by
  cases i with
  | plain c => exact readHeading?_of_plain hi
  | directive s => cases hk
  | tag name s =>
    obtain ⟨opening, attributes, hf⟩ := hi.tagForm
    obtain ⟨level, hl⟩ := isAllowed_headingNames.1 hk
    obtain ⟨c, hc, hn⟩ := Level.names_iff.1 hl
    have hs := hf.source_eq
    rw [hn] at hs
    subst hs
    rcases hf.opening_eq with rfl | rfl
    · have hl' := Level.ofDigit?_digit level
      change readHeading? ('<' :: c :: level.digit :: (attributes ++ rest)) = _
      simp only [Item.source, List.cons_append, List.nil_append]
      rw [readHeading?, Item.opens?, if_pos hc, hl']
      simp only
      rcases hf.closed with ht | ⟨ht, rfl⟩
      · rw [tagEnd?_stays ht rest, ht]
        simp [hc]
      · rw [List.append_nil, ht]
        simp
    · simp [Item.source, Item.opens?, readHeading?]

/-- Here both searches find the same element, or none. -/
theorem readHeading?_sourceOf {i : Item} {is : List Item} (hi : i.Stands (sourceOf is))
    (hk : i.kept headingNames = true) (hr : Reads is []) (hf : ∀ j ∈ is, j.Flat) :
    readHeading? (i.source ++ sourceOf is) =
      (i.element? Item.breaksLine is).map
        fun (e, after) => (⟨e.level, sourceOf e.items⟩, sourceOf after) := by
  rw [readHeading?_of_kept hi hk, Item.element?]
  cases i.opens? with
  | none => rfl
  | some level =>
    rw [Option.bind_some, Option.bind_some, closing?_sourceOf hr hf, Option.map_map,
      Option.map_map]
    rfl

/-- Both searches find the same elements. -/
theorem pieces_sourceOf {is : List Item} (hr : Reads is [])
    (hk : ∀ i ∈ is, i.kept headingNames = true) (hf : ∀ i ∈ is, i.Flat) :
    pieces (sourceOf is) = (blocks Item.breaksLine is).flatMap Block.pieces := by
  fun_induction blocks Item.breaksLine is with
  | case1 => simp [Markup.pieces]
  | case2 i is e after h ih =>
    obtain ⟨hi, hr⟩ := hr
    rw [List.append_nil] at hi
    have hf' : ∀ j ∈ is, j.Flat := fun j hj => hf j (List.mem_cons_of_mem i hj)
    have hread := readHeading?_sourceOf hi (hk i List.mem_cons_self) hr hf'
    rw [h] at hread
    obtain ⟨taken, -, -, ht⟩ := Item.element?_eq_some h
    rw [← Level.closingItems?_append ht] at hr hk hf'
    rw [sourceOf_cons, pieces_of_readHeading hread, ih (reads_append.1 hr).2
      (fun j hj => hk j (List.mem_cons_of_mem i (List.mem_append_right taken hj)))
      (fun j hj => hf' j (List.mem_append_right taken hj))]
    rfl
  | case3 i is h ih =>
    obtain ⟨hi, hr⟩ := hr
    rw [List.append_nil] at hi
    have hf' : ∀ j ∈ is, j.Flat := fun j hj => hf j (List.mem_cons_of_mem i hj)
    have hread := readHeading?_sourceOf hi (hk i List.mem_cons_self) hr hf'
    obtain ⟨c, u, hu⟩ := List.exists_cons_of_ne_nil hi.source_ne_nil
    rw [h, hu, List.cons_append] at hread
    -- no element starts with the item, and none within it
    rw [sourceOf_cons, List.flatMap_cons, Block.pieces, hu, List.cons_append, pieces_of_body hread,
      pieces_of_quiet (hi.quiet (hf i List.mem_cons_self) hu),
      ih hr (fun j hj => hk j (List.mem_cons_of_mem i hj)) hf']
    rfl

end ContentIndex.Markup
