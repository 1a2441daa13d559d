import ContentIndex.Indexing
import ContentIndex.Proofs.Markup.Attributes
import ContentIndex.Proofs.Markup.BlockBuckets

/-!
# Attribute values and buckets

Two texts that differ between the quotes of one attribute are read as the same items, one tag apart.
A tag other than a heading tag goes before anything is searched. The value in a heading tag is out
of sight where the elements are those that the tags make up, with nothing between their quotes; it
is not where a heading tag or a line end stands in the value.
-/

namespace ContentIndex.Markup

set_option autoImplicit false

open Text

/-- What stands outside of quotes, and the quotes; `quote` is the open quote. -/
def unquoted (quote : Option Char) : List Char → List Char
  | [] => []
  | c :: rest =>
    match quote with
    | some q => if c = q then c :: unquoted none rest else unquoted (some q) rest
    | none => c :: unquoted (if c = '"' ∨ c = '\'' then some c else none) rest

theorem unquoted_cons {c : Char} (hc : ¬ IsQuote c) (s : List Char) :
    unquoted none (c :: s) = c :: unquoted none s := by
  have hc' : ¬ (c = '"' ∨ c = '\'') := hc
  rw [unquoted, if_neg hc']

theorem exists_of_unquoted_cons {s t : List Char} {c : Char} (hc : ¬ IsQuote c)
    (h : unquoted none s = c :: t) : ∃ s', s = c :: s' ∧ unquoted none s' = t := by
  cases s with
  | nil => cases h
  | cons d s =>
    have hd : d = c := (List.cons.inj h).1
    subst hd
    rw [unquoted_cons hc] at h
    exact ⟨s, rfl, (List.cons.inj h).2⟩

theorem unquoted_quoted {q : Char} {value : List Char} (hq : IsQuote q) (hv : q ∉ value)
    (rest : List Char) :
    unquoted none (q :: (value ++ q :: rest)) = q :: q :: unquoted none rest := by
  have hq' : q = '"' ∨ q = '\'' := hq
  have hs : unquoted (some q) (value ++ q :: rest) = q :: unquoted none rest := by
    induction value with
    | nil => rw [List.nil_append, unquoted, if_pos rfl]
    | cons c value ih =>
      rw [List.mem_cons, not_or] at hv
      rw [List.cons_append, unquoted, if_neg (Ne.symm hv.1), ih hv.2]
  rw [unquoted, if_pos hq', hs]

theorem Balanced.unquoted_append {s : List Char} (h : Balanced s) (t : List Char) :
    unquoted none (s ++ t) = unquoted none s ++ unquoted none t := by
  induction h with
  | nil => rfl
  | char hq _ _ ih => rw [List.cons_append, unquoted_cons hq, unquoted_cons hq, ih, List.cons_append]
  | quoted hq hv _ ih =>
    rw [List.cons_append, List.append_assoc, List.cons_append, unquoted_quoted hq hv,
      unquoted_quoted hq hv, ih]
    rfl

theorem isSome_tagEnd?_unquoted (quote : Option Char) (s : List Char) :
    (tagEnd? quote (unquoted quote s)).isSome = (tagEnd? quote s).isSome := by
  induction s generalizing quote with
  | nil => rfl
  | cons c s ih =>
    cases quote with
    | some q =>
      rw [unquoted]
      by_cases hc : c = q
      · rw [if_pos hc, tagEnd?, tagEnd?, if_pos hc, Option.isSome_map, Option.isSome_map, ih]
      · rw [if_neg hc, tagEnd?, if_neg hc, Option.isSome_map, ih]
    | none =>
      rw [unquoted, tagEnd?, tagEnd?]
      by_cases hc : c = '>'
      · rw [if_pos hc, if_pos hc]
        rfl
      · rw [if_neg hc, if_neg hc, Option.isSome_map, Option.isSome_map, ih]

/-! ## Items without their attribute values -/

def Item.bare : Item → Item
  | .tag name source => .tag name (unquoted none source)
  | i => i

theorem not_isQuote_digit (level : Level) : ¬ IsQuote level.digit := by
  cases level <;> decide

theorem not_isQuote_letter {h : Char} (hh : h = 'h' ∨ h = 'H') : ¬ IsQuote h := by
  rcases hh with rfl | rfl <;> decide

theorem Item.opens?_eq_some_iff {i : Item} {level : Level} :
    i.opens? = some level ↔ ∃ name h attributes,
      i = .tag name ('<' :: h :: level.digit :: attributes) ∧ (h = 'h' ∨ h = 'H') ∧
        (tagEnd? none attributes).isSome = true := by
  constructor
  · intro hi
    unfold Item.opens? at hi
    split at hi
    · rename_i name h d attributes
      split at hi
      · rename_i hc
        rw [← Level.digit_of_ofDigit hi]
        exact ⟨name, h, attributes, rfl, hc⟩
      · cases hi
    · cases hi
  · rintro ⟨name, h, attributes, rfl, hc⟩
    rw [Item.opens?, if_pos hc, Level.ofDigit?_digit]

theorem Item.opens?_bare (i : Item) : i.bare.opens? = i.opens? := by
  apply Option.ext
  intro level
  rw [Item.opens?_eq_some_iff, Item.opens?_eq_some_iff]
  constructor
  · rintro ⟨name, h, attributes, hi, hh, ht⟩
    cases i with
    | plain c => cases hi
    | directive s => cases hi
    | tag name' source =>
      obtain ⟨rfl, hs⟩ := Item.tag.inj hi
      obtain ⟨s1, rfl, hs1⟩ := exists_of_unquoted_cons (by decide) hs
      obtain ⟨s2, rfl, hs2⟩ := exists_of_unquoted_cons (not_isQuote_letter hh) hs1
      obtain ⟨s3, rfl, rfl⟩ := exists_of_unquoted_cons (not_isQuote_digit level) hs2
      rw [isSome_tagEnd?_unquoted] at ht
      exact ⟨name', h, s3, rfl, hh, ht⟩
  · rintro ⟨name, h, attributes, rfl, hh, ht⟩
    refine ⟨name, h, unquoted none attributes, ?_, hh, ?_⟩
    · rw [Item.bare, unquoted_cons (by decide), unquoted_cons (not_isQuote_letter hh),
        unquoted_cons (not_isQuote_digit level)]
    · rw [isSome_tagEnd?_unquoted]
      exact ht

theorem unquoted_closingTag {h : Char} (hh : h = 'h' ∨ h = 'H') (level : Level) :
    unquoted none (closingTag h level.digit) = closingTag h level.digit := by
  rcases hh with rfl | rfl <;> cases level <;> rfl

theorem eq_of_unquoted {s : List Char} (h : ∀ c ∈ unquoted none s, ¬ IsQuote c) :
    unquoted none s = s := by
  induction s with
  | nil => rfl
  | cons c s ih =>
    have hc : ¬ IsQuote c := h c List.mem_cons_self
    rw [unquoted_cons hc] at h ⊢
    rw [ih fun d hd => h d (List.mem_cons_of_mem c hd)]

theorem Item.closes_bare (level : Level) (i : Item) : i.bare.closes level = i.closes level := by
  cases i with
  | plain c => rfl
  | directive s => rfl
  | tag name source =>
    rw [Bool.eq_iff_iff, Item.closes_iff, Item.closes_iff]
    constructor
    · rintro ⟨h, hh, hs⟩
      refine ⟨h, hh, ?_⟩
      have hq : ∀ c ∈ unquoted none source, ¬ IsQuote c := by
        intro c hc
        change unquoted none source = _ at hs
        rw [hs] at hc
        have hm : c = '<' ∨ c = '/' ∨ c = h ∨ c = level.digit ∨ c = '>' := by
          simpa [closingTag] using hc
        rcases hm with rfl | rfl | rfl | rfl | rfl
        · decide
        · decide
        · exact not_isQuote_letter hh
        · exact not_isQuote_digit level
        · decide
      exact (eq_of_unquoted hq).symm.trans hs
    · rintro ⟨h, hh, hs⟩
      refine ⟨h, hh, ?_⟩
      change unquoted none source = _
      have hs : source = closingTag h level.digit := hs
      rw [hs, unquoted_closingTag hh]

/-! ## Blocks without attribute values -/

def Element.bare (e : Element) : Element :=
  ⟨e.level, e.items.map Item.bare⟩

def Block.bare : Block → Block
  | .loose i => .loose i.bare
  | .element e => .element e.bare

theorem Level.closingItems?_bare {breaks : Item → Bool} {is : List Item}
    (h : ∀ i ∈ is, breaks i.bare = breaks i) (level : Level) :
    level.closingItems? breaks (is.map Item.bare) =
      (level.closingItems? breaks is).map
        fun (taken, after) => (taken.map Item.bare, after.map Item.bare) := by
  induction is with
  | nil => rfl
  | cons i is ih =>
    rw [List.map_cons, Level.closingItems?, Level.closingItems?, Item.closes_bare,
      h i List.mem_cons_self, ih fun j hj => h j (List.mem_cons_of_mem i hj)]
    split
    · rfl
    · split
      · rfl
      · rw [Option.map_map, Option.map_map]
        rfl

theorem Item.element?_bare {breaks : Item → Bool} {is : List Item} (i : Item)
    (h : ∀ j ∈ is, breaks j.bare = breaks j) :
    i.bare.element? breaks (is.map Item.bare) =
      (i.element? breaks is).map fun (e, after) => (e.bare, after.map Item.bare) := by
  rw [Item.element?, Item.element?, Item.opens?_bare]
  cases i.opens? with
  | none => rfl
  | some level =>
    rw [Option.bind_some, Option.bind_some, Level.closingItems?_bare h, Option.map_map,
      Option.map_map]
    rfl

theorem blocks_bare {breaks : Item → Bool} {is : List Item}
    (h : ∀ i ∈ is, breaks i.bare = breaks i) :
    blocks breaks (is.map Item.bare) = (blocks breaks is).map Block.bare := by
  fun_induction blocks breaks is with
  | case1 => simp [blocks]
  | case2 i is e after he ih =>
    have his : ∀ j ∈ is, breaks j.bare = breaks j := fun j hj => h j (List.mem_cons_of_mem i hj)
    have hb := Item.element?_bare i his
    rw [he] at hb
    obtain ⟨taken, -, -, ht⟩ := Item.element?_eq_some he
    rw [← Level.closingItems?_append ht] at his
    rw [List.map_cons, blocks_of_element hb, ih fun j hj => his j (List.mem_append_right taken hj)]
    rfl
  | case3 i is he ih =>
    have his : ∀ j ∈ is, breaks j.bare = breaks j := fun j hj => h j (List.mem_cons_of_mem i hj)
    have hb := Item.element?_bare i his
    rw [he] at hb
    rw [List.map_cons, blocks_of_loose hb, ih his]
    rfl

theorem plainText_bare (is : List Item) : plainText (is.map Item.bare) = plainText is := by
  rw [plainText, plainText, List.filterMap_map]
  congr 1
  funext i
  cases i <;> rfl

theorem looseItems_bare (bs : List Block) :
    looseItems (bs.map Block.bare) = (looseItems bs).map Item.bare := by
  rw [looseItems, looseItems, List.flatMap_map, List.map_flatMap]
  congr 1
  funext b
  cases b <;> rfl

theorem elementsOf_bare (bs : List Block) :
    elementsOf (bs.map Block.bare) = (elementsOf bs).map Element.bare := by
  rw [elementsOf, elementsOf, List.filterMap_map, List.map_filterMap]
  congr 1
  funext b
  cases b <;> rfl

theorem elementText_bare (es : List Element) (level : Level) :
    elementText (es.map Element.bare) level = elementText es level := by
  rw [elementText, List.filter_map, List.flatMap_map, elementText]
  congr 1
  funext e
  exact congrArg (' ' :: ·) (plainText_bare e.items)

/-- Attribute values do not show in the buckets of blocks. -/
theorem blockBuckets_bare (bs : List Block) :
    blockBuckets (bs.map Block.bare) = blockBuckets bs := by
  have hl : elementLevels ((elementsOf bs).map Element.bare) = elementLevels (elementsOf bs) := by
    rw [elementLevels, List.map_map]
    rfl
  rw [blockBuckets, looseItems_bare, plainText_bare, elementsOf_bare, hl]
  simp only [elementText_bare]
  rfl

/-! ## Buckets that the tags tell -/

/-- The buckets when elements are found by their tags and no attribute has a value. -/
def tagBuckets (s : List Char) : Parts :=
  blockBuckets (blocks Item.breaksLine ((keptItems s).map Item.bare))

/-- The search for headings sees nothing of the attribute values. -/
def Faithful (s : List Char) : Prop :=
  buckets s = tagBuckets s

/-- No heading tag starts within a heading tag, and no line ends between its quotes. -/
structure Confined (s : List Char) : Prop where
  flat : ∀ i ∈ items (pad s), i.kept headingNames = true → i.Flat
  line : ∀ i ∈ items (pad s), i.kept headingNames = true → i.bare.breaksLine = i.breaksLine

theorem Confined.faithful {s : List Char} (h : Confined s) : Faithful s := by
  have hflat : ∀ i ∈ keptItems s, i.Flat := by
    intro i hi
    obtain ⟨hm, hk⟩ := List.mem_filter.1 hi
    exact h.flat i hm hk
  have hline : ∀ i ∈ keptItems s, i.bare.breaksLine = i.breaksLine := by
    intro i hi
    obtain ⟨hm, hk⟩ := List.mem_filter.1 hi
    exact h.line i hm hk
  rw [Faithful, tagBuckets, blocks_bare hline, blockBuckets_bare, buckets_of_flat hflat]

/-! ## Texts that differ in an attribute value -/

/-- Once it is padded, the text ends within a tag, past its name and outside of quotes. -/
def EndsInTag (name before : List Char) : Prop :=
  ∃ done opening attributes,
    items (pad before) = done ++ [.tag name (opening ++ name ++ attributes)] ∧
      IsTagOpening opening ∧ attributes ≠ [] ∧ Balanced attributes

/-- Two texts that differ at most between the quotes of one attribute value of a tag. -/
inductive Requoted (name : List Char) : List Char → List Char → Prop where
  | intro {before after v w : List Char} {q : Char} :
      EndsInTag name before → IsQuote q → q ∉ v → q ∉ w →
        Requoted name (before ++ q :: (v ++ q :: after)) (before ++ q :: (w ++ q :: after))

theorem TagForm.unique {name source rest opening opening' attributes attributes' : List Char}
    (h : TagForm name source rest opening attributes) (ho : IsTagOpening opening')
    (hs : source = opening' ++ name ++ attributes') : opening' = opening ∧ attributes' = attributes := by
  obtain ⟨c, n, hn, hl⟩ := h.isName.letter
  have hc : c ≠ '/' := by rintro rfl; exact absurd hl (by decide)
  rw [h.source_eq, hn] at hs
  rcases h.opening_eq with rfl | rfl <;> rcases ho with rfl | rfl
  · simp at hs
    exact ⟨rfl, hs.symm⟩
  · simp [hc] at hs
  · simp [Ne.symm hc] at hs
  · simp at hs
    exact ⟨rfl, hs.symm⟩

/-- The end of a tag of which the attributes go on with `s`, and the items behind it. -/
def tagTail (s : List Char) : List Char × List Item :=
  match tagEnd? none s with
  | some (taken, after) => (taken, items after)
  | none => (s, [])

theorem items_in_tag {opening name attributes s : List Char} (ho : IsTagOpening opening)
    (hn : IsName name) (ha : EndsName (attributes ++ s)) (hb : Balanced attributes) :
    items (opening ++ name ++ (attributes ++ s)) =
      .tag name (opening ++ name ++ attributes ++ (tagTail s).1) :: (tagTail s).2 := by
  have hend := hb.tagEnd? s
  rw [tagTail]
  cases ht : tagEnd? none s with
  | none =>
    rw [ht] at hend
    rw [items_of_read (readItem?_unclosed ho hn ha hend), items_nil, List.append_assoc _ attributes]
  | some p =>
    obtain ⟨taken, after⟩ := p
    rw [ht] at hend
    rw [items_of_read (readItem?_closed ho hn ha hend), List.append_assoc _ attributes]

/-- What the value is does not matter for what is read before and behind the tag. -/
theorem EndsInTag.items_eq {name before : List Char} (h : EndsInTag name before) :
    ∃ done opening attributes, IsTagOpening opening ∧ Balanced attributes ∧
      ∀ q v after, IsQuote q → q ∉ v →
        items (pad (before ++ q :: (v ++ q :: after))) =
          done ++ .tag name (opening ++ name ++ attributes ++
            q :: (pad v ++ q :: (tagTail (pad after)).1)) :: (tagTail (pad after)).2 := by
  obtain ⟨done, opening, attributes, hi, ho, hne, hb⟩ := h
  have hr := reads_items (pad before)
  rw [hi, reads_append] at hr
  obtain ⟨hdone, htag, -⟩ := hr
  obtain ⟨opening', attributes', hf⟩ := htag.tagForm
  obtain ⟨rfl, rfl⟩ := hf.unique ho rfl
  obtain ⟨c, n, hn, -⟩ := hf.isName.letter
  have hlen : 2 ≤ (opening ++ name ++ attributes).length := by
    rw [hn]
    rcases ho with rfl | rfl <;> simp
  have hsource : pad before = sourceOf done ++ (opening ++ name ++ attributes) := by
    have hs : sourceOf (items (pad before)) = pad before := source_items (pad before)
    rw [hi, sourceOf_append] at hs
    rw [← hs]
    simp [Item.source]
  refine ⟨done, opening, attributes, ho, hb, fun q v after hq hv => ?_⟩
  have hvalue : Balanced (q :: (pad v ++ [q])) := .quoted hq (hq.not_mem_pad hv) .nil
  have hends : EndsName (attributes ++ q :: (pad v ++ [q]) ++ pad after) := by
    obtain ⟨d, u, rfl⟩ := List.exists_cons_of_ne_nil hne
    exact hf.endsName
  have hreads : Reads done (opening ++ name ++ (attributes ++ q :: (pad v ++ [q]) ++ pad after)) := by
    rw [sourceOf_cons, sourceOf_nil, List.append_nil] at hdone
    have hd : Reads done
        (opening ++ name ++ attributes ++ (q :: (pad v ++ [q]) ++ pad after)) :=
      hdone.extend hlen _
    rwa [List.append_assoc _ attributes, ← List.append_assoc attributes] at hd
  have hs : pad (before ++ q :: (v ++ q :: after)) =
      sourceOf done ++ (opening ++ name ++ (attributes ++ q :: (pad v ++ [q]) ++ pad after)) := by
    rw [pad_append, hq.pad_quoted, hsource]
    simp
  rw [hs, hreads.items_eq, items_in_tag ho hf.isName hends (hb.append hvalue)]
  simp

theorem balanced_of_forall {s : List Char} (h : ∀ c ∈ s, ¬ IsQuote c ∧ c ≠ '>') : Balanced s := by
  induction s with
  | nil => exact .nil
  | cons c s ih =>
    obtain ⟨hq, hc⟩ := h c List.mem_cons_self
    exact .char hq hc (ih fun d hd => h d (List.mem_cons_of_mem c hd))

theorem balanced_heading {opening name : List Char} (ho : IsTagOpening opening) {level : Level}
    (hn : level.Names name) : Balanced (opening ++ name) := by
  apply balanced_of_forall
  intro c hc
  refine ⟨?_, fun he => not_mem_heading (.inl he) ho hn hc⟩
  obtain ⟨h, hh, rfl⟩ := Level.names_iff.1 hn
  have hm : c = '<' ∨ c = '/' ∨ c = h ∨ c = level.digit := by
    rcases ho with rfl | rfl <;> simp at hc <;> tauto
  rcases hm with rfl | rfl | rfl | rfl
  · decide
  · decide
  · exact not_isQuote_letter hh
  · exact not_isQuote_digit level

theorem Requoted.keptItems_eq {name x y : List Char} (h : Requoted name x y)
    (hn : isAllowed headingNames name = false) : keptItems x = keptItems y := by
  obtain ⟨hb, hq, hv, hw⟩ := h
  obtain ⟨done, opening, attributes, -, -, hi⟩ := hb.items_eq
  have hk : ∀ source, (Item.tag name source).kept headingNames ≠ true := fun source => by
    rw [Item.kept, hn]
    decide
  rw [keptItems, keptItems, hi _ _ _ hq hv, hi _ _ _ hq hw, List.filter_append, List.filter_append,
    List.filter_cons_of_neg (hk _), List.filter_cons_of_neg (hk _)]

/-- Without the values of their attributes, the same items are left. -/
theorem Requoted.bare_keptItems {name x y : List Char} (h : Requoted name x y) :
    (keptItems x).map Item.bare = (keptItems y).map Item.bare := by
  cases hn : isAllowed headingNames name with
  | false => rw [h.keptItems_eq hn]
  | true =>
    obtain ⟨hb, hq, hv, hw⟩ := h
    obtain ⟨level, hl⟩ := isAllowed_headingNames.1 hn
    obtain ⟨done, opening, attributes, ho, ha, hi⟩ := hb.items_eq
    have hbal : Balanced (opening ++ name ++ attributes) := (balanced_heading ho hl).append ha
    have hk : ∀ source, (Item.tag name source).kept headingNames = true := fun _ => hn
    rw [keptItems, keptItems, hi _ _ _ hq hv, hi _ _ _ hq hw, List.filter_append,
      List.filter_append, List.filter_cons_of_pos (hk _), List.filter_cons_of_pos (hk _),
      List.map_append, List.map_append, List.map_cons, List.map_cons, Item.bare, Item.bare,
      hbal.unquoted_append, hbal.unquoted_append, unquoted_quoted hq (hq.not_mem_pad hv),
      unquoted_quoted hq (hq.not_mem_pad hw)]

theorem buckets_congr {x y : List Char} (h : keptItems x = keptItems y) :
    buckets x = buckets y := by
  rw [buckets, buckets, ← sourceOf_keptItems, ← sourceOf_keptItems, h]

theorem Requoted.buckets_eq_iff {name x y : List Char} (h : Requoted name x y)
    (hx : Faithful x) : buckets x = buckets y ↔ Faithful y := by
  have ht : tagBuckets x = tagBuckets y := by rw [tagBuckets, tagBuckets, h.bare_keptItems]
  rw [hx, ht]
  exact eq_comm

theorem Bucket.name_injective : Function.Injective Bucket.name := by
  rintro (_ | a) (_ | b) h
  · rfl
  · cases b <;> cases h
  · cases a <;> cases h
  · cases a <;> cases b <;> first | rfl | cases h

theorem htmlBuckets_eq_iff {x y : String} :
    Indexing.htmlBuckets (.str x) = Indexing.htmlBuckets (.str y) ↔
      buckets x.toList = buckets y.toList := by
  constructor
  · intro h
    have ht : Indexing.textBuckets x = Indexing.textBuckets y := Except.ok.inj h
    have hi : Function.Injective fun p : Bucket × List Char =>
        (String.ofList p.1.name, String.ofList p.2) := by
      rintro ⟨a, s⟩ ⟨b, t⟩ h
      obtain ⟨h1, h2⟩ := Prod.mk.inj h
      have hb : a = b := Bucket.name_injective (String.ofList_injective h1)
      have hs : s = t := String.ofList_injective h2
      rw [hb, hs]
    exact List.map_injective_iff.2 hi ht
  · intro h
    change Except.ok (Indexing.textBuckets x) = Except.ok (Indexing.textBuckets y)
    rw [Indexing.textBuckets, Indexing.textBuckets, h]

/-- An attribute value of a tag other than a heading tag never reaches a bucket, and that of a
heading tag does not where the search for headings sees nothing of the attribute values. -/
theorem htmlBuckets_requoted {name : List Char} {x y : String}
    (h : Requoted name x.toList y.toList) :
    (isAllowed headingNames name = false →
      Indexing.htmlBuckets (.str x) = Indexing.htmlBuckets (.str y)) ∧
    (Confined x.toList → Confined y.toList →
      Indexing.htmlBuckets (.str x) = Indexing.htmlBuckets (.str y)) ∧
    (Faithful x.toList →
      (Indexing.htmlBuckets (.str x) = Indexing.htmlBuckets (.str y) ↔ Faithful y.toList)) := by
  refine ⟨fun hn => ?_, fun hx hy => ?_, fun hx => ?_⟩
  · exact htmlBuckets_eq_iff.2 (buckets_congr (h.keptItems_eq hn))
  · exact htmlBuckets_eq_iff.2 ((h.buckets_eq_iff hx.faithful).2 hy.faithful)
  · exact htmlBuckets_eq_iff.trans (h.buckets_eq_iff hx)

theorem endsInTag_title : EndsInTag ['h', '1'] "<h1 title=".toList :=
  ⟨[.plain ' '], ['<'], [' ', 't', 'i', 't', 'l', 'e', '='], by decide +kernel, .inl rfl,
    List.cons_ne_nil _ _, balanced_of_forall (by simp [IsQuote])⟩

/-- A `>` in the value of a heading tag. -/
theorem htmlBuckets_requoted_angle :
    Requoted ['h', '1'] "<h1 title='a>b'>c</h1>".toList "<h1 title=''>c</h1>".toList ∧
    Indexing.htmlBuckets (.str "<h1 title='a>b'>c</h1>") =
      Indexing.htmlBuckets (.str "<h1 title=''>c</h1>") := by
  have h : Requoted ['h', '1'] "<h1 title='a>b'>c</h1>".toList "<h1 title=''>c</h1>".toList :=
    @Requoted.intro _ _ ">c</h1>".toList "a>b".toList [] '\'' endsInTag_title (.inr rfl) (by decide)
      (by decide)
  have hx : Confined "<h1 title='a>b'>c</h1>".toList := by
    have hf : ∀ i ∈ items (pad "<h1 title='a>b'>c</h1>".toList), i.kept headingNames = true →
        '<' ∉ i.source.tail := by decide +kernel
    exact ⟨fun i hi hk => flat_of_not_mem (hf i hi hk), by decide +kernel⟩
  have hy : Confined "<h1 title=''>c</h1>".toList := by
    have hf : ∀ i ∈ items (pad "<h1 title=''>c</h1>".toList), i.kept headingNames = true →
        '<' ∉ i.source.tail := by decide +kernel
    exact ⟨fun i hi hk => flat_of_not_mem (hf i hi hk), by decide +kernel⟩
  exact ⟨h, (htmlBuckets_requoted h).2.1 hx hy⟩

/-- A heading in the value of a heading tag gets a bucket of its own. -/
theorem htmlBuckets_requoted_heading :
    Requoted ['h', '1'] "<h1 title='<h2>secret</h2>'>text".toList "<h1 title=''>text".toList ∧
    Indexing.htmlBuckets (.str "<h1 title='<h2>secret</h2>'>text") =
      .ok [("text", " text"), ("h2", " secret ")] ∧
    Indexing.htmlBuckets (.str "<h1 title=''>text") = .ok [("text", " text")] := by
  refine ⟨?_, congrArg Except.ok (by decide +kernel), congrArg Except.ok (by decide +kernel)⟩
  exact @Requoted.intro _ _ ">text".toList "<h2>secret</h2>".toList [] '\'' endsInTag_title
    (.inr rfl) (by decide) (by decide)

-- a line end in the value breaks the heading around the tag
example : Indexing.textBuckets "<h1>a<h2 t='b\nc'>d</h1>" ≠
    Indexing.textBuckets "<h1>a<h2 t='b c'>d</h1>" := by decide +kernel

end ContentIndex.Markup
