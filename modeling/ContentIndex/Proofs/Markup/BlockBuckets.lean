import ContentIndex.Proofs.Markup.Blocks
import ContentIndex.Proofs.Markup.Parts

/-!
# Buckets of blocks

Where the search over characters finds the elements that the items make up, the buckets are told by
the plain characters of the blocks alone: stripping the parts again leaves these. Both kinds of part
are read as the items that they consist of, since what lies between two loose items starts with a
tag, and since the closing tag of an element keeps what follows from its items.
-/

namespace ContentIndex.Markup

set_option autoImplicit false

open Text

def looseItems (bs : List Block) : List Item :=
  bs.flatMap fun
    | .loose i => [i]
    | .element _ => []

def elementsOf (bs : List Block) : List Element :=
  bs.filterMap fun
    | .loose _ => none
    | .element e => some e

/-- Plain characters of an element, after a space. -/
def Element.text (e : Element) : List Char :=
  ' ' :: plainText e.items

def Element.heading (e : Element) : Heading :=
  ⟨e.level, sourceOf e.items⟩

/-- Levels in order of their first element. -/
def elementLevels (es : List Element) : List Level :=
  (es.map Element.level).eraseDups

def elementText (es : List Element) (level : Level) : List Char :=
  (es.filter (·.level = level)).flatMap Element.text

def blockBuckets (bs : List Block) : Parts :=
  (.text, collapseBlanks (plainText (looseItems bs))) ::
    (elementLevels (elementsOf bs)).map fun level =>
      (.heading level, collapseBlanks (elementText (elementsOf bs) level))

theorem looseItems_append (bs cs : List Block) :
    looseItems (bs ++ cs) = looseItems bs ++ looseItems cs :=
  List.flatMap_append

theorem elementsOf_append (bs cs : List Block) :
    elementsOf (bs ++ cs) = elementsOf bs ++ elementsOf cs :=
  List.filterMap_append

theorem bodyText_pieces (bs : List Block) :
    bodyText (bs.flatMap Block.pieces) = sourceOf (looseItems bs) := by
  induction bs with
  | nil => rfl
  | cons b bs ih =>
    have hb : bodyText b.pieces = sourceOf (looseItems [b]) := by
      cases b with
      | loose i => simp [Block.pieces, bodyText, looseItems, List.flatMap_map]
      | element e => rfl
    have hl : looseItems (b :: bs) = looseItems [b] ++ looseItems bs := looseItems_append [b] bs
    rw [List.flatMap_cons, bodyText, List.flatMap_append, hl, sourceOf_append, ← ih, ← hb]
    rfl

theorem headingsOf_pieces (bs : List Block) :
    headingsOf (bs.flatMap Block.pieces) = (elementsOf bs).map Element.heading := by
  induction bs with
  | nil => rfl
  | cons b bs ih =>
    rw [List.flatMap_cons, headingsOf, List.filterMap_append]
    change headingsOf b.pieces ++ headingsOf (bs.flatMap Block.pieces) = _
    rw [ih]
    cases b with
    | loose i =>
      have hi : headingsOf (i.source.map .body) = [] := by
        rw [headingsOf, List.filterMap_map, List.filterMap_eq_nil_iff]
        exact fun c _ => rfl
      rw [Block.pieces, hi]
      rfl
    | element e => rfl

theorem levelText_heading (es : List Element) (level : Level) :
    levelText (es.map Element.heading) level =
      sourceOf ((es.filter (·.level = level)).flatMap fun e => .plain ' ' :: e.items) := by
  rw [levelText, List.filter_map, List.flatMap_map, sourceOf, List.flatMap_assoc]
  rfl

theorem levelsOf_heading (es : List Element) :
    levelsOf (es.map Element.heading) = elementLevels es := by
  rw [levelsOf, List.map_map]
  rfl

/-! ## Loose items -/

theorem thinned_looseItems (breaks : Item → Bool) (is : List Item) :
    Thinned Item.IsMarkup is (looseItems (blocks breaks is)) := by
  fun_induction blocks breaks is with
  | case1 => exact .nil
  | case2 i is e after h ih =>
    obtain ⟨taken, ho, -, ht⟩ := Item.element?_eq_some h
    rw [← Level.closingItems?_append ht]
    exact .drop taken (Item.isMarkup_of_opens ho) ih
  | case3 i is h ih => exact .keep i ih

/-! ## Elements -/

/-- Before a closing tag, items are read as they are whatever follows the tag. -/
theorem Reads.of_closing {is : List Item} {z : Item} {level : Level} {rest : List Char}
    (h : Reads (is ++ [z]) rest) (hz : z.closes level = true) (v : List Char) :
    Reads (is ++ [z]) v := by
  rw [reads_append] at h ⊢
  obtain ⟨his, hs, -⟩ := h
  obtain ⟨c, hc, rfl⟩ := hs.eq_of_closes hz
  refine ⟨his.extend ?_ v, readItem?_closingTag hc _, trivial⟩
  simp [Item.source, closingTag]

theorem Level.closingItems?_concat {breaks : Item → Bool} {level : Level}
    {is taken after : List Item} (h : level.closingItems? breaks is = some (taken, after)) :
    ∃ inner z, taken = inner ++ [z] ∧ z.closes level = true := by
  induction is generalizing taken with
  | nil => cases h
  | cons i is ih =>
    rw [Level.closingItems?] at h
    split at h
    · rename_i hc
      cases h
      exact ⟨[], i, rfl, hc⟩
    · split at h
      · cases h
      · obtain ⟨⟨t, a⟩, ht, he⟩ := Option.map_eq_some_iff.1 h
        cases he
        obtain ⟨inner, z, rfl, hz⟩ := ih ht
        exact ⟨i :: inner, z, rfl, hz⟩

theorem reads_of_mem_elementsOf {breaks : Item → Bool} {is : List Item} (hr : Reads is [])
    {e : Element} (he : e ∈ elementsOf (blocks breaks is)) (v : List Char) : Reads e.items v := by
  fun_induction blocks breaks is with
  | case1 => cases he
  | case2 i is e' after h ih =>
    obtain ⟨taken, ho, hi, ht⟩ := Item.element?_eq_some h
    have hs : i :: is = e'.items ++ after := by
      rw [hi, List.cons_append, Level.closingItems?_append ht]
    rw [hs, reads_append] at hr
    rcases List.mem_cons.1 he with rfl | he
    · obtain ⟨inner, z, rfl, hz⟩ := Level.closingItems?_concat ht
      have hr' := hr.1
      rw [hi, ← List.cons_append] at hr' ⊢
      exact hr'.of_closing hz v
    · exact ih hr.2 he
  | case3 i is h ih => exact ih hr.2 he

theorem reads_flatMap_elements {es : List Element} (h : ∀ e ∈ es, ∀ v, Reads e.items v)
    (v : List Char) : Reads (es.flatMap fun e => .plain ' ' :: e.items) v := by
  induction es with
  | nil => trivial
  | cons e es ih =>
    rw [List.flatMap_cons, reads_append]
    refine ⟨⟨firm_of_ne (by decide) _, h e List.mem_cons_self _⟩, ?_⟩
    exact ih fun e' he => h e' (List.mem_cons_of_mem e he)

theorem plainText_flatMap_elements (es : List Element) :
    plainText (es.flatMap fun e => .plain ' ' :: e.items) = es.flatMap Element.text := by
  rw [plainText, List.filterMap_flatMap]
  rfl

/-! ## Buckets -/

theorem Reads.cleanPart {is : List Item} (h : Reads is []) :
    Markup.cleanPart (Markup.sourceOf is) = collapseBlanks (plainText is) := by
  have hi := h.items_eq
  rw [List.append_nil, items_nil, List.append_nil] at hi
  rw [Markup.cleanPart, stripTags_nil, hi]

theorem words_elementText (es : List Element) (level : Level) :
    words (elementText es level) =
      (es.filter (·.level = level)).flatMap fun e => words (plainText e.items) :=
  words_flatMap_space (fun e : Element => plainText e.items) [] _

/-- What is left of a text before headings are looked for. -/
def keptItems (s : List Char) : List Item :=
  (items (pad s)).filter (Item.kept headingNames)

theorem sourceOf_keptItems (s : List Char) :
    sourceOf (keptItems s) = stripTags headingNames (pad s) := rfl

theorem reads_keptItems (s : List Char) : Reads (keptItems s) [] := by
  apply (reads_items (pad s)).thinned (thinned_filter headingNames _)
  rw [sourceOf, source_items]
  exact (spaced_pad s).isChain

theorem chain_keptItems (s : List Char) : (sourceOf (keptItems s)).IsChain Apart := by
  rw [sourceOf_keptItems]
  exact ((thinned_stripTags headingNames (pad s)).spaced (spaced_pad s)).isChain

theorem buckets_of_pieces {s : List Char} {breaks : Item → Bool}
    (h : pieces (stripTags headingNames (pad s)) =
      (blocks breaks (keptItems s)).flatMap Block.pieces) :
    buckets s = blockBuckets (blocks breaks (keptItems s)) := by
  have hr : Reads (keptItems s) [] := reads_keptItems s
  have hloose : Reads (looseItems (blocks breaks (keptItems s))) [] :=
    hr.thinned (thinned_looseItems breaks _) (chain_keptItems s)
  rw [buckets, h, partsOf_eq, bodyText_pieces, headingsOf_pieces, levelsOf_heading, blockBuckets]
  simp only [List.map_cons, List.map_map]
  rw [hloose.cleanPart]
  congr 1
  apply List.map_congr_left
  intro level _
  have he : Reads (((elementsOf (blocks breaks (keptItems s))).filter (·.level = level)).flatMap
      fun e => .plain ' ' :: e.items) [] :=
    reads_flatMap_elements
      (fun e he v => reads_of_mem_elementsOf hr (List.mem_of_mem_filter he) v) []
  simp only [Function.comp_apply]
  rw [levelText_heading, he.cleanPart, plainText_flatMap_elements]
  rfl

/-- Where no heading tag starts within another, the buckets are told by the tags. -/
theorem buckets_of_flat {s : List Char} (h : ∀ i ∈ keptItems s, i.Flat) :
    buckets s = blockBuckets (blocks Item.breaksLine (keptItems s)) := by
  apply buckets_of_pieces
  rw [← sourceOf_keptItems]
  exact pieces_sourceOf (reads_keptItems s) (fun i hi => (List.mem_filter.1 hi).2) h

end ContentIndex.Markup
