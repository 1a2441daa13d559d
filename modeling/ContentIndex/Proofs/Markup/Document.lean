import ContentIndex.Indexing
import ContentIndex.Proofs.Markup.Attributes
import ContentIndex.Proofs.Markup.BlockBuckets

/-!
# Buckets of a document

A document is made of passages with headings between them, and a passage of text between tags.
Reading the padded document gives these parts back, so that the search for headings finds just
those of the document: the words of its passages and of its headings are the words of its buckets.
-/

namespace ContentIndex.Markup

set_option autoImplicit false

open Text

/-- Text between two tags. -/
structure Run where
  text : List Char
  plain : ∀ c ∈ text, c ≠ '<' ∧ c ≠ '>'

/-- A complete tag. Its attributes are all that stands between its name and its last character. -/
structure Tag where
  closing : Bool
  name : List Char
  attributes : List Char
  letter : ∃ c rest, name = c :: rest ∧ isAsciiLetter c = true
  chars : ∀ c ∈ name, isAsciiLetter c = true ∨ isAsciiDigit c = true
  follows : ∀ c ∈ attributes.head?, isBlank c = true ∨ c = '/'
  balanced : Balanced attributes
  single : '<' ∉ attributes

/-- Runs of text with tags between them. -/
structure Passage where
  first : Run
  rest : List (Tag × Run)

structure Body extends Passage where
  noHeading : ∀ p ∈ rest, ∀ level : Level, ¬ level.Names p.1.name

def Tag.opening (t : Tag) : List Char :=
  if t.closing then ['<', '/'] else ['<']

def Tag.source (t : Tag) : List Char :=
  t.opening ++ t.name ++ t.attributes ++ ['>']

def Passage.source (p : Passage) : List Char :=
  p.first.text ++ p.rest.flatMap fun (t, r) => t.source ++ r.text

/-- A heading on one line: no tag within it has the name of its level. -/
structure Title where
  level : Level
  opening : Tag
  content : Passage
  closing : Tag
  opens : opening.closing = false ∧ level.Names opening.name
  closes : closing.closing = true ∧ level.Names closing.name ∧ closing.attributes = []
  line : '\n' ∉ content.source
  others : ∀ p ∈ content.rest, ¬ level.Names p.1.name

def Title.source (t : Title) : List Char :=
  t.opening.source ++ t.content.source ++ t.closing.source

structure Document where
  first : Body
  rest : List (Title × Body)

def Document.source (d : Document) : List Char :=
  d.first.source ++ d.rest.flatMap fun (t, b) => t.source ++ b.source

/-- Words of each run; no word reaches over a tag. -/
def Passage.words (p : Passage) : List (List Char) :=
  Text.words p.first.text ++ p.rest.flatMap fun (_, r) => Text.words r.text

def Document.words (d : Document) : List (List Char) :=
  d.first.words ++ d.rest.flatMap fun (_, b) => b.words

def Document.titles (d : Document) : List Title :=
  d.rest.map Prod.fst

/-- Levels in order of their first heading. -/
def Document.levels (d : Document) : List Level :=
  (d.titles.map Title.level).eraseDups

def Document.titleWords (d : Document) (level : Level) : List (List Char) :=
  (d.titles.filter (·.level = level)).flatMap fun t => t.content.words

/-! ## Items of a tag -/

/-- The tag as it is read in the padded document. -/
def Tag.item (t : Tag) : Item :=
  .tag t.name (t.opening ++ t.name ++ pad t.attributes ++ ['>'])

/-- The tag and the spaces that are put around it. -/
def Tag.items (t : Tag) : List Item :=
  [.plain ' ', t.item, .plain ' ']

theorem isNameChar_of_isAsciiDigit {c : Char} (h : isAsciiDigit c = true) :
    isNameChar c = true := by
  have hn : 48 ≤ c.toNat ∧ c.toNat ≤ 57 := by
    simp only [isAsciiDigit, Bool.and_eq_true, decide_eq_true_eq, Char.le_def,
      UInt32.le_iff_toNat_le] at h
    exact h
  exact isNameChar_of_bounds ⟨hn.1, by omega⟩ (by rintro rfl; exact absurd h (by decide))

theorem Tag.isNameChar {t : Tag} {c : Char} (h : c ∈ t.name) : Markup.isNameChar c = true := by
  rcases t.chars c h with hl | hd
  · exact isNameChar_of_isAsciiLetter hl
  · exact isNameChar_of_isAsciiDigit hd

theorem Tag.isName (t : Tag) : IsName t.name :=
  ⟨t.letter, fun _ h => Tag.isNameChar h⟩

theorem Tag.isTagOpening (t : Tag) : IsTagOpening t.opening := by
  rw [Tag.opening]
  split
  · exact .inr rfl
  · exact .inl rfl

/-- Nothing that follows the name belongs to it. -/
theorem Tag.endsName (t : Tag) (s : List Char) : EndsName (pad t.attributes ++ '>' :: s) := by
  intro c hc
  cases ha : t.attributes with
  | nil =>
    rw [ha] at hc
    cases hc
    decide
  | cons d rest =>
    have hd : Markup.isNameChar d = false := by
      rcases t.follows d (by rw [ha]; rfl) with hb | rfl
      · simp [Markup.isNameChar, hb]
      · decide
    have h1 : d ≠ '<' := by
      rintro rfl
      exact t.single (by rw [ha]; exact List.mem_cons_self)
    have h2 : d ≠ '>' := by
      rintro rfl
      have hq := t.balanced.quoteAfter
      rw [ha] at hq
      cases hq
    rw [ha, pad_cons rest h1 h2] at hc
    cases hc
    exact hd

theorem Tag.tagEnd? (t : Tag) (s : List Char) :
    Markup.tagEnd? none (pad t.attributes ++ '>' :: s) = some (pad t.attributes ++ ['>'], s) := by
  rw [t.balanced.pad.tagEnd?, Markup.tagEnd?, if_pos rfl]
  rfl

theorem Tag.firm (t : Tag) : t.item.Firm := by
  intro s
  change readItem? (t.opening ++ t.name ++ pad t.attributes ++ ['>'] ++ s) =
    some (.tag t.name (t.opening ++ t.name ++ pad t.attributes ++ ['>']), s)
  rw [List.append_assoc, List.append_assoc, List.singleton_append,
    readItem?_closed t.isTagOpening t.isName (t.endsName s) (t.tagEnd? s), ← List.append_assoc]

theorem pad_name {s : List Char} (h : ∀ c ∈ s, Markup.isNameChar c = true) (hs : '<' ∉ s) :
    pad s = s := by
  apply pad_eq_self
  intro c hc
  refine ⟨fun he => hs (he ▸ hc), ?_⟩
  rintro rfl
  exact absurd (h _ hc) (by decide)

theorem Tag.not_mem_name (t : Tag) : '<' ∉ t.name := by
  intro h
  rcases t.chars _ h with hc | hc <;> exact absurd hc (by decide)

theorem Tag.sourceOf_items (t : Tag) : sourceOf t.items = pad t.source := by
  have hn : pad t.name = t.name := pad_name (fun _ h => Tag.isNameChar h) t.not_mem_name
  have ho : pad t.opening = ' ' :: t.opening := by
    rw [Tag.opening]
    split <;> rfl
  have he : pad ['>'] = ['>', ' '] := rfl
  rw [Tag.source, pad_append, pad_append, pad_append, hn, ho, he]
  simp [Tag.items, Tag.item, Item.source]

theorem Tag.flat (t : Tag) : t.item.Flat := by
  have ha : '<' ∉ pad t.attributes := by
    intro h
    rcases mem_pad h with h | h
    · exact absurd h (by decide)
    · exact t.single h
  have hn : '<' ∉ t.name := t.not_mem_name
  apply flat_of_not_mem
  rw [Tag.item, Item.source, Tag.opening]
  split <;> simp [ha, hn]

/-! ## Items of a document -/

theorem reads_of_firm {is : List Item} (h : ∀ i ∈ is, i.Firm) (rest : List Char) :
    Reads is rest := by
  induction is with
  | nil => trivial
  | cons i is ih =>
    exact ⟨h i List.mem_cons_self _, ih fun j hj => h j (List.mem_cons_of_mem i hj)⟩

/-- An item of a document is read alike everywhere, and is seen as a whole. -/
structure Item.Solid (i : Item) : Prop where
  firm : i.Firm
  flat : i.Flat

theorem solid_plain {c : Char} (h : c ≠ '<') : (Item.plain c).Solid :=
  ⟨firm_of_ne h, flat_of_not_mem List.not_mem_nil⟩

def Run.items (r : Run) : List Item :=
  r.text.map .plain

theorem Run.solid {r : Run} {i : Item} (h : i ∈ r.items) : i.Solid := by
  obtain ⟨c, hc, rfl⟩ := List.mem_map.1 h
  exact solid_plain (r.plain c hc).1

theorem Run.sourceOf_items (r : Run) : sourceOf r.items = pad r.text := by
  rw [pad_eq_self r.plain, Run.items, sourceOf_map_plain]

theorem Tag.solid {t : Tag} {i : Item} (h : i ∈ t.items) : i.Solid := by
  rcases List.mem_cons.1 h with rfl | h
  · exact solid_plain (by decide)
  · rcases List.mem_cons.1 h with rfl | h
    · exact ⟨t.firm, t.flat⟩
    · rw [List.mem_singleton.1 h]
      exact solid_plain (by decide)

def Passage.items (p : Passage) : List Item :=
  p.first.items ++ p.rest.flatMap fun (t, r) => t.items ++ r.items

theorem sourceOf_flatMap {α : Type} {f : α → List Item} {g : α → List Char}
    (h : ∀ a, sourceOf (f a) = pad (g a)) (as : List α) :
    sourceOf (as.flatMap f) = pad (as.flatMap g) := by
  induction as with
  | nil => rfl
  | cons a as ih =>
    rw [List.flatMap_cons, List.flatMap_cons, sourceOf_append, pad_append, h, ih]

theorem Passage.sourceOf_items (p : Passage) : sourceOf p.items = pad p.source := by
  rw [Passage.items, Passage.source, sourceOf_append, pad_append, Run.sourceOf_items]
  congr 1
  apply sourceOf_flatMap
  rintro ⟨t, r⟩
  rw [sourceOf_append, pad_append, Tag.sourceOf_items, Run.sourceOf_items]

theorem Passage.mem_items {p : Passage} {i : Item} (h : i ∈ p.items) :
    (∃ c, i = .plain c) ∨ ∃ q ∈ p.rest, i = q.1.item := by
  rcases List.mem_append.1 h with h | h
  · obtain ⟨c, -, rfl⟩ := List.mem_map.1 h
    exact .inl ⟨c, rfl⟩
  · obtain ⟨⟨t, r⟩, hq, h⟩ := List.mem_flatMap.1 h
    rcases List.mem_append.1 h with h | h
    · rcases List.mem_cons.1 h with rfl | h
      · exact .inl ⟨_, rfl⟩
      · rcases List.mem_cons.1 h with rfl | h
        · exact .inr ⟨_, hq, rfl⟩
        · exact .inl ⟨_, List.mem_singleton.1 h⟩
    · obtain ⟨c, -, rfl⟩ := List.mem_map.1 h
      exact .inl ⟨c, rfl⟩

theorem Passage.solid {p : Passage} {i : Item} (h : i ∈ p.items) : i.Solid := by
  rcases List.mem_append.1 h with h | h
  · exact Run.solid h
  · obtain ⟨⟨t, r⟩, -, h⟩ := List.mem_flatMap.1 h
    rcases List.mem_append.1 h with h | h
    · exact Tag.solid h
    · exact Run.solid h

def Title.items (t : Title) : List Item :=
  t.opening.items ++ t.content.items ++ t.closing.items

theorem Title.sourceOf_items (t : Title) : sourceOf t.items = pad t.source := by
  rw [Title.items, Title.source, sourceOf_append, sourceOf_append, pad_append, pad_append,
    Tag.sourceOf_items, Tag.sourceOf_items, Passage.sourceOf_items]

theorem Title.solid {t : Title} {i : Item} (h : i ∈ t.items) : i.Solid := by
  rcases List.mem_append.1 h with h | h
  · rcases List.mem_append.1 h with h | h
    · exact Tag.solid h
    · exact Passage.solid h
  · exact Tag.solid h

def Document.items (d : Document) : List Item :=
  d.first.items ++ d.rest.flatMap fun (t, b) => t.items ++ b.items

theorem Document.sourceOf_items (d : Document) : sourceOf d.items = pad d.source := by
  rw [Document.items, Document.source, sourceOf_append, pad_append, Passage.sourceOf_items]
  congr 1
  apply sourceOf_flatMap
  rintro ⟨t, b⟩
  rw [sourceOf_append, pad_append, Title.sourceOf_items, Passage.sourceOf_items]

theorem Document.solid {d : Document} {i : Item} (h : i ∈ d.items) : i.Solid := by
  rcases List.mem_append.1 h with h | h
  · exact Passage.solid h
  · obtain ⟨⟨t, b⟩, -, h⟩ := List.mem_flatMap.1 h
    rcases List.mem_append.1 h with h | h
    · exact Title.solid h
    · exact Passage.solid h

/-- The padded document is read as its parts. -/
theorem Document.items_pad (d : Document) : Markup.items (pad d.source) = d.items := by
  have hr : Reads d.items [] := reads_of_firm (fun i hi => (Document.solid hi).firm) []
  have h := hr.items_eq
  rwa [List.append_nil, items_nil, List.append_nil, Document.sourceOf_items] at h

/-! ## Elements of a document -/

theorem kept_tag_iff {t : Tag} :
    t.item.kept headingNames = true ↔ ∃ level : Level, level.Names t.name :=
  isAllowed_headingNames

theorem Body.filter_kept (b : Body) :
    b.items.filter (Item.kept headingNames) = (plainText b.items).map .plain := by
  rw [← filter_kept_nil]
  apply List.filter_congr
  intro i hi
  rcases Passage.mem_items hi with ⟨c, rfl⟩ | ⟨q, hq, rfl⟩
  · rfl
  · have hk : q.1.item.kept headingNames ≠ true := by
      rw [Ne, kept_tag_iff]
      rintro ⟨level, hl⟩
      exact b.noHeading q hq level hl
    rw [Bool.eq_false_iff.2 hk]
    rfl

/-- What is left of the content of a heading before elements are looked for. -/
def Title.inner (t : Title) : List Item :=
  .plain ' ' :: t.content.items.filter (Item.kept headingNames) ++ [.plain ' ']

def Title.element (t : Title) : Element :=
  ⟨t.level, t.opening.item :: (t.inner ++ [t.closing.item])⟩

theorem Title.filter_kept (t : Title) :
    t.items.filter (Item.kept headingNames) = .plain ' ' :: t.element.items ++ [.plain ' '] := by
  have ho : t.opening.item.kept headingNames = true := kept_tag_iff.2 ⟨t.level, t.opens.2⟩
  have hc : t.closing.item.kept headingNames = true := kept_tag_iff.2 ⟨t.level, t.closes.2.1⟩
  have hs : (Item.plain ' ').kept headingNames = true := rfl
  rw [Title.items, Tag.items, Tag.items, List.filter_append, List.filter_append]
  simp [ho, hc, hs, Title.element, Title.inner]

theorem Title.opens?_opening (t : Title) : t.opening.item.opens? = some t.level := by
  obtain ⟨c, hc, hn⟩ := Level.names_iff.1 t.opens.2
  have ht := t.opening.tagEnd? []
  rw [Tag.item, Tag.opening, t.opens.1, hn]
  simp [Item.opens?, hc, ht, Level.ofDigit?_digit]

theorem Title.closes_closing (t : Title) : t.closing.item.closes t.level = true := by
  obtain ⟨c, hc, hn⟩ := Level.names_iff.1 t.closes.2.1
  rw [Item.closes_iff]
  refine ⟨c, hc, ?_⟩
  rw [Tag.item, Tag.opening, t.closes.1, t.closes.2.2, hn]
  rfl

theorem Title.not_closes {t : Title} {i : Item} (h : i ∈ t.inner) : i.closes t.level = false := by
  rw [Bool.eq_false_iff]
  intro hc
  have hp : i.IsMarkup := Item.isMarkup_of_closes hc
  rw [Title.inner, List.mem_append, List.mem_cons, List.mem_singleton] at h
  rcases h with (h | h) | h
  · exact hp _ h
  · rcases Passage.mem_items (List.mem_of_mem_filter h) with ⟨c, rfl⟩ | ⟨q, hq, rfl⟩
    · exact hp c rfl
    · obtain ⟨c, hch, hi⟩ := (q.1.firm []).eq_of_closes hc
      have hn : q.1.name = [c, t.level.digit] := (Item.tag.inj hi).1
      exact t.others q hq (Level.names_iff.2 ⟨c, hch, hn⟩)
  · exact hp _ h

theorem Title.not_breaks {t : Title} {i : Item} (h : i ∈ t.inner) : i.breaksLine = false := by
  rw [Item.breaksLine, decide_eq_false_iff_not]
  intro hn
  rw [Title.inner, List.mem_append, List.mem_cons, List.mem_singleton] at h
  rcases h with (rfl | h) | rfl
  · exact absurd hn (by decide)
  · have hs : '\n' ∈ sourceOf t.content.items :=
      List.mem_flatMap.2 ⟨i, List.mem_of_mem_filter h, hn⟩
    rw [Passage.sourceOf_items] at hs
    rcases mem_pad hs with hs | hs
    · exact absurd hs (by decide)
    · exact t.line hs
  · exact absurd hn (by decide)

theorem Level.closingItems?_of_inner {breaks : Item → Bool} {level : Level} {is : List Item}
    {z : Item} (h : ∀ i ∈ is, i.closes level = false ∧ breaks i = false)
    (hz : z.closes level = true) (after : List Item) :
    level.closingItems? breaks (is ++ z :: after) = some (is ++ [z], after) := by
  induction is with
  | nil => rw [List.nil_append, Level.closingItems?, if_pos hz, List.nil_append]
  | cons i is ih =>
    obtain ⟨hc, hb⟩ := h i List.mem_cons_self
    rw [List.cons_append, Level.closingItems?, hc, hb,
      ih fun j hj => h j (List.mem_cons_of_mem i hj)]
    rfl

theorem Title.blocks_element (t : Title) (after : List Item) :
    blocks Item.breaksLine (t.element.items ++ after) =
      .element t.element :: blocks Item.breaksLine after := by
  have hs : t.element.items ++ after = t.opening.item :: (t.inner ++ t.closing.item :: after) := by
    simp [Title.element]
  rw [hs]
  apply blocks_of_element
  rw [Item.element?, t.opens?_opening, Option.bind_some,
    Level.closingItems?_of_inner (fun i hi => ⟨Title.not_closes hi, Title.not_breaks hi⟩)
      t.closes_closing]
  rfl

def plainBlocks (s : List Char) : List Block :=
  s.map fun c => .loose (.plain c)

theorem blocks_plain (breaks : Item → Bool) (s : List Char) (is : List Item) :
    blocks breaks (s.map .plain ++ is) = plainBlocks s ++ blocks breaks is := by
  induction s with
  | nil => rfl
  | cons c s ih =>
    rw [List.map_cons, List.cons_append, blocks_of_loose rfl, ih]
    rfl

theorem looseItems_plain (s : List Char) : looseItems (plainBlocks s) = s.map .plain := by
  rw [looseItems, plainBlocks, List.flatMap_map, List.map_eq_flatMap]

theorem elementsOf_plain (s : List Char) : elementsOf (plainBlocks s) = [] := by
  rw [elementsOf, plainBlocks, List.filterMap_map, List.filterMap_eq_nil_iff]
  exact fun c _ => rfl

/-- A heading and the text behind it. -/
def Title.blocks (t : Title) (b : Body) : List Block :=
  plainBlocks [' '] ++ .element t.element :: plainBlocks (' ' :: plainText b.items)

theorem blocks_titles (rest : List (Title × Body)) :
    blocks Item.breaksLine
        ((rest.flatMap fun (t, b) => t.items ++ b.items).filter (Item.kept headingNames)) =
      rest.flatMap fun (t, b) => t.blocks b := by
  induction rest with
  | nil => rw [List.flatMap_nil, List.filter_nil, Markup.blocks, List.flatMap_nil]
  | cons p rest ih =>
    obtain ⟨t, b⟩ := p
    rw [List.flatMap_cons, List.filter_append, List.filter_append, Title.filter_kept,
      Body.filter_kept, List.flatMap_cons, ← ih]
    generalize (rest.flatMap fun (t, b) => t.items ++ b.items).filter (Item.kept headingNames) = R
    have hs : Item.plain ' ' :: t.element.items ++ [.plain ' '] ++ (plainText b.items).map .plain ++
        R = [' '].map .plain ++ (t.element.items ++
          ((' ' :: plainText b.items).map .plain ++ R)) := by simp
    rw [hs, blocks_plain, t.blocks_element, blocks_plain]
    simp only [Title.blocks, List.append_assoc, List.cons_append]

theorem Document.blocks_eq (d : Document) :
    blocks Item.breaksLine (keptItems d.source) =
      plainBlocks (plainText d.first.items) ++ d.rest.flatMap fun (t, b) => t.blocks b := by
  rw [keptItems, d.items_pad, Document.items, List.filter_append, Body.filter_kept, blocks_plain,
    blocks_titles]

theorem Document.looseItems_eq (d : Document) :
    looseItems (blocks Item.breaksLine (keptItems d.source)) =
      (plainText d.first.items ++
        d.rest.flatMap fun (_, b) => ' ' :: ' ' :: plainText b.items).map .plain := by
  rw [d.blocks_eq, looseItems_append, looseItems_plain, List.map_append]
  congr 1
  induction d.rest with
  | nil => rfl
  | cons p rest ih =>
    obtain ⟨t, b⟩ := p
    rw [List.flatMap_cons, List.flatMap_cons, List.map_append, looseItems_append, ih]
    congr 1
    simp only [Title.blocks]
    rw [looseItems_append, looseItems_plain]
    exact congrArg ([' '].map .plain ++ ·) (looseItems_plain _)

theorem Document.elementsOf_eq (d : Document) :
    elementsOf (blocks Item.breaksLine (keptItems d.source)) = d.titles.map Title.element := by
  rw [d.blocks_eq, elementsOf_append, elementsOf_plain, List.nil_append, Document.titles]
  induction d.rest with
  | nil => rfl
  | cons p rest ih =>
    obtain ⟨t, b⟩ := p
    rw [List.flatMap_cons, elementsOf_append, ih, List.map_cons, List.map_cons]
    simp only [Title.blocks]
    rw [elementsOf_append, elementsOf_plain, List.nil_append]
    exact congrArg (t.element :: · ++ _) (elementsOf_plain _)

/-! ## Words of a document -/

theorem plainText_map_plain (s : List Char) : plainText (s.map .plain) = s := by
  rw [plainText, List.filterMap_map]
  exact List.filterMap_some

theorem Passage.words_plainText (p : Passage) : Text.words (plainText p.items) = p.words := by
  have hp : plainText p.items =
      p.first.text ++ p.rest.flatMap fun (_, r) => ' ' :: ' ' :: r.text := by
    rw [Passage.items, plainText_append, Run.items, plainText_map_plain]
    congr 1
    induction p.rest with
    | nil => rfl
    | cons q rest ih =>
      obtain ⟨t, r⟩ := q
      rw [List.flatMap_cons, List.flatMap_cons, plainText_append, plainText_append, ih, Run.items,
        plainText_map_plain]
      rfl
  rw [hp, Passage.words]
  have h := words_flatMap_space (fun q : Tag × Run => ' ' :: q.2.text) p.first.text p.rest
  simp only [words_cons_of_blank (c := ' ') (by decide)] at h
  exact h

theorem Document.words_loose (d : Document) :
    Text.words (plainText (looseItems (blocks Item.breaksLine (keptItems d.source)))) =
      d.words := by
  rw [d.looseItems_eq, plainText_map_plain, Document.words]
  have h := words_flatMap_space (fun q : Title × Body => ' ' :: plainText q.2.items)
    (plainText d.first.items) d.rest
  simp only [words_cons_of_blank (c := ' ') (by decide), Passage.words_plainText] at h
  exact h

theorem Title.words_element (t : Title) :
    Text.words (plainText t.element.items) = t.content.words := by
  have hp : plainText t.element.items = (' ' :: plainText t.content.items) ++ ' ' :: [] := by
    have hi : plainText t.inner = ' ' :: plainText t.content.items ++ [' '] := by
      rw [Title.inner, plainText_append, ← plainText_filter_kept headingNames t.content.items]
      rfl
    rw [Title.element, plainText_cons (fun c h => Item.noConfusion h), plainText_append, hi]
    simp [plainText, Tag.item]
  rw [hp, words_append (by decide), words_cons_of_blank (by decide), Passage.words_plainText]
  exact List.append_nil _

theorem Document.words_titles (d : Document) (level : Level) :
    Text.words (elementText (d.titles.map Title.element) level) = d.titleWords level := by
  rw [words_elementText, List.filter_map, List.flatMap_map]
  simp only [Title.words_element]
  rfl

/-- The words of a document are in the buckets where they belong, in their order. -/
theorem htmlBuckets_document (d : Document) :
    ∃ parts, Indexing.htmlBuckets (.str (String.ofList d.source)) = .ok parts ∧
      parts.map (fun (name, text) => (name, words text.toList)) =
        ("text", d.words) ::
          d.levels.map fun level => (String.ofList level.name, d.titleWords level) := by
  refine ⟨Indexing.textBuckets (String.ofList d.source), rfl, ?_⟩
  have hf : ∀ i ∈ keptItems d.source, i.Flat := by
    intro i hi
    rw [keptItems, d.items_pad] at hi
    exact (Document.solid (List.mem_of_mem_filter hi)).flat
  have hl : elementLevels (d.titles.map Title.element) = d.levels := by
    rw [elementLevels, List.map_map]
    rfl
  rw [Indexing.textBuckets, String.toList_ofList, buckets_of_flat hf, blockBuckets,
    d.elementsOf_eq, hl]
  simp only [List.map_cons, List.map_map, Function.comp_def, String.toList_ofList,
    words_collapseBlanks, d.words_loose, d.words_titles]
  rfl

end ContentIndex.Markup
