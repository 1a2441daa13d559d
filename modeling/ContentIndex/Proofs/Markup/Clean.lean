import ContentIndex.Indexing
import ContentIndex.Proofs.Markup.HeadingTag
import ContentIndex.Proofs.Markup.Parts

/-!
# Buckets are clean

Whatever the text, no bucket holds markup or a blank that could be collapsed, and splitting a
bucket again gives it back. Heading elements may be cut out of the middle of a tag, so their last
`>` is the one place without a space behind it; no element ends in a plain character.
-/

namespace ContentIndex.Markup

set_option autoImplicit false

open Text

structure Clean (s : List Char) : Prop extends Collapsed s where
  noMarkup : NoMarkup s

/-! ## Splitting a clean text -/

theorem NoMarkup.items_eq {s : List Char} (h : NoMarkup s) : items s = s.map .plain := by
  have hr := (noMarkup_iff_reads.1 h).items_eq
  rwa [sourceOf_map_plain, List.append_nil, items_nil, List.append_nil] at hr

theorem NoMarkup.stripTags_eq {s : List Char} (h : NoMarkup s) (allowed : List (List Char)) :
    stripTags allowed s = s := by
  apply stripTags_eq_self
  rw [h.items_eq]
  intro i hi
  obtain ⟨c, -, rfl⟩ := List.mem_map.1 hi
  rfl

theorem NoMarkup.pieces_eq {s : List Char} (h : NoMarkup s) : pieces s = s.map .body := by
  fun_induction pieces s with
  | case1 => rfl
  | case2 c rest heading after hr ih =>
    have hs : startsMarkup (c :: rest) = true := (startsHeading_of_readHeading hr).startsMarkup
    rw [(noMarkup_cons.1 h).1] at hs
    cases hs
  | case3 c rest hr ih => rw [ih (noMarkup_cons.1 h).2, List.map_cons]

theorem partsOf_map_body (s : List Char) : partsOf (s.map .body) = [(.text, s)] := by
  have hh : headingsOf (s.map .body) = [] := by
    induction s with
    | nil => rfl
    | cons c s ih => exact ih
  have ht : bodyText (s.map .body) = s := by
    induction s with
    | nil => rfl
    | cons c s ih => exact congrArg (c :: ·) (ih hh)
  rw [partsOf_eq, hh, ht]
  rfl

theorem buckets_of_clean {s : List Char} (hs : Spaced s) (hc : Clean s) :
    buckets s = [(.text, s)] := by
  have hp : NoMarkup (pad s) := by
    rw [← noMarkup_collapseBlanks, collapseBlanks_pad hs hc.toCollapsed]
    exact hc.noMarkup
  rw [buckets, hp.stripTags_eq, hp.pieces_eq, partsOf_map_body]
  simp only [List.map_cons, List.map_nil, cleanPart, hp.stripTags_eq]
  rw [collapseBlanks_pad hs hc.toCollapsed]

/-! ## Cleaning a part -/

theorem noMarkup_stripTags {s : List Char} (hs : s.IsChain Apart) :
    NoMarkup (stripTags [] s) := by
  have hi : items (stripTags [] s) = (stripTags [] s).map .plain := by
    rw [items_stripTags [] hs, filter_kept_nil, stripTags_nil]
  rw [noMarkup_iff_reads, ← hi]
  exact reads_items _

theorem clean_cleanPart {s : List Char} (hs : s.IsChain Apart) : Clean (cleanPart s) := by
  refine ⟨collapsed_collapseBlanks _, ?_⟩
  rw [cleanPart, noMarkup_collapseBlanks]
  exact noMarkup_stripTags hs

/-- A part whose plain characters have spaces around them where tags had them. -/
structure Settled (s : List Char) : Prop where
  chain : s.IsChain Apart
  spaced : Spaced (stripTags [] s)

theorem Spaced.settled {s : List Char} (hs : Spaced s) : Settled s :=
  ⟨hs.isChain, (thinned_stripTags [] s).spaced hs⟩

theorem Settled.clean {s : List Char} (hs : Settled s) :
    Clean (cleanPart s) ∧ buckets (cleanPart s) = [(.text, cleanPart s)] := by
  have hc : Clean (cleanPart s) := clean_cleanPart hs.chain
  exact ⟨hc, buckets_of_clean hs.spaced.collapseBlanks hc⟩

/-! ## Heading elements -/

/-- The text ends in a closing tag whose name is no more than a letter and one other character. -/
def EndsClosing (s : List Char) : Prop :=
  ∃ u h d, s = u ++ closingTag h d ∧ isAsciiLetter h = true ∧ d ≠ '>'

theorem closing_of_closing? {level : Level} {s taken after : List Char}
    (h : level.closing? s = some (taken, after)) :
    ∃ u c, taken = u ++ closingTag c level.digit ∧ (c = 'h' ∨ c = 'H') := by
  induction s generalizing taken with
  | nil => cases h
  | cons c s ih =>
    rw [Level.closing?] at h
    split at h
    · rename_i rest hd
      cases h
      obtain ⟨b, hb, hs⟩ := Level.dropClosing?_eq_some_iff.1 hd
      exact ⟨[], b, by rw [hs]; rfl, hb⟩
    · split at h
      · cases h
      · obtain ⟨⟨t, a⟩, ht, he⟩ := Option.map_eq_some_iff.1 h
        cases he
        obtain ⟨u, d, hu, hd⟩ := ih ht
        exact ⟨c :: u, d, by rw [hu, List.cons_append], hd⟩

theorem endsClosing_of_readHeading {s after : List Char} {heading : Heading}
    (h : readHeading? s = some (heading, after)) : EndsClosing heading.source := by
  unfold readHeading? at h
  split at h
  · rename_i a d rest
    split at h
    · split at h
      · cases h
      · rename_i level hl
        split at h
        · cases h
        · rename_i attributes content ht
          obtain ⟨⟨t, b⟩, hc, he⟩ := Option.map_eq_some_iff.1 h
          cases he
          obtain ⟨u, c, hu, hc'⟩ := closing_of_closing? hc
          refine ⟨'<' :: a :: d :: attributes ++ u, c, level.digit, ?_, ?_, ?_⟩
          · rw [hu, List.append_assoc]
          · rcases hc' with rfl | rfl <;> rfl
          · cases level <;> decide
    · cases h
  · cases h

theorem getLast?_ne_of_closing {v t : List Char} {h d : Char} (hc : closingTag h d = v ++ t)
    (ht : t ≠ []) (hh : h ≠ '>') (hd : d ≠ '>') : v.getLast? ≠ some '>' := by
  intro hl
  have hi : v ++ t.dropLast = ['<', '/', h, d] := by
    rw [← List.dropLast_append_of_ne_nil ht, ← hc]
    rfl
  have hm : '>' ∈ ['<', '/', h, d] := by
    rw [← hi]
    exact List.mem_append_left _ (List.mem_of_getLast? hl)
  simp [Ne.symm hh, Ne.symm hd] at hm

/-- No item ends within a closing tag. -/
theorem Item.Stands.not_within_closing {i : Item} {rest u v : List Char} {h d : Char}
    (hi : i.Stands rest) (hs : i.source = u ++ v) (hv : v ≠ []) (hr : rest ≠ [])
    (hc : closingTag h d = v ++ rest) (hh : isAsciiLetter h = true) (hd : d ≠ '>') : False := by
  have hgt : h ≠ '>' := by rintro rfl; exact absurd hh (by decide)
  rcases i.plain_or with ⟨c, rfl⟩ | hp
  · rcases List.append_eq_singleton_iff.1 hs.symm with ⟨-, rfl⟩ | ⟨-, rfl⟩
    · have hf : startsMarkup (c :: rest) = false := hi
      have hc' : c :: rest = closingTag h d := hc.symm
      rw [hc', closingTag, startsMarkup, hh] at hf
      cases hf
    · exact hv rfl
  · rcases hi.closed hp with ⟨-, hl⟩ | hn | hn
    · rw [hs, List.getLast?_append_of_ne_nil _ hv] at hl
      exact getLast?_ne_of_closing hc hr hgt hd hl
    · exact hr hn
    · rw [hn] at hc
      have hl := congrArg List.getLast? hc
      simp [closingTag] at hl

/-- The last item of a text that ends in a closing tag reaches at least through this tag. -/
theorem exists_concat_of_reads {is : List Item} (hr : Reads is []) {u : List Char} {h d : Char}
    (hs : sourceOf is = u ++ closingTag h d) (hh : isAsciiLetter h = true) (hd : d ≠ '>') :
    ∃ js i, is = js ++ [i] ∧ i.IsMarkup := by
  induction is generalizing u with
  | nil => simp [closingTag] at hs
  | cons i is ih =>
    obtain ⟨hi, hr⟩ := hr
    rw [List.append_nil] at hi
    rw [sourceOf_cons] at hs
    by_cases his : is = []
    · subst his
      refine ⟨[], i, rfl, ?_⟩
      rintro c rfl
      have hl := congrArg List.length hs
      simp [closingTag, Item.source] at hl
    · have hne : sourceOf is ≠ [] := hr.sourceOf_ne_nil his
      have hrest : ∀ v, sourceOf is = v ++ closingTag h d →
          ∃ js j, i :: is = js ++ [j] ∧ j.IsMarkup := by
        intro v hv
        obtain ⟨js, j, rfl, hj⟩ := ih hr hv
        exact ⟨i :: js, j, rfl, hj⟩
      rcases List.append_eq_append_iff.1 hs with ⟨v, -, hv⟩ | ⟨v, hv, hc⟩
      · exact hrest v hv
      · -- `v` is what the item has of the closing tag
        by_cases hv0 : v = []
        · exact hrest [] (by rw [hc, hv0, List.nil_append, List.nil_append])
        · exact (hi.not_within_closing hv hv0 hne hc hh hd).elim

theorem head?_flatMap_space {hs : List Heading} {c : Char}
    (h : (hs.flatMap fun e => ' ' :: e.source).head? = some c) : c = ' ' := by
  cases hs with
  | nil => cases h
  | cons e hs =>
    cases h
    rfl

theorem chain_flatMap_space {hs : List Heading} (h : ∀ e ∈ hs, e.source.IsChain Apart) (a : Char) :
    (a :: hs.flatMap fun e => ' ' :: e.source).IsChain Apart := by
  induction hs generalizing a with
  | nil => exact .singleton a
  | cons e hs ih =>
    have he : e.source.IsChain Apart := h e List.mem_cons_self
    have hr := (ih (fun e he => h e (List.mem_cons_of_mem _ he)) ' ').tail
    have hes : (e.source ++ hs.flatMap fun e => ' ' :: e.source).IsChain Apart := by
      refine he.append hr ?_
      intro b _ c hc
      rw [head?_flatMap_space hc]
      exact apart_of_space b
    rw [List.flatMap_cons, List.cons_append, List.isChain_cons_cons, List.isChain_cons]
    exact ⟨apart_of_space a, fun c _ => apart_space c, hes⟩

/-- Where a tag starts, the text may as well end. -/
theorem chain_bar {s v : List Char} (h : (s ++ '<' :: v).IsChain Apart) :
    (s ++ ['|']).IsChain Apart := by
  refine h.left_of_append.append (.singleton _) ?_
  intro a ha b hb
  cases hb
  have hlt : Apart a '<' := (List.isChain_append.1 h).2.2 a ha '<' rfl
  rw [hlt.1 rfl]
  exact apart_space '|'

theorem EndsClosing.settled {s : List Char} (hs : EndsClosing s)
    (hc : ('|' :: s).IsChain Apart) : Settled s := by
  obtain ⟨u, h, d, hs, hh, hd⟩ := hs
  have hsrc : sourceOf (items s) = s := source_items s
  obtain ⟨js, i, hi, hp⟩ := exists_concat_of_reads (reads_items s) (hsrc.trans hs) hh hd
  have hr : Reads js i.source := by
    have := reads_items s
    rw [hi, reads_append] at this
    simpa using this.1
  obtain ⟨v, hv⟩ : ∃ v, i.source = '<' :: v := by
    have := reads_items s
    rw [hi, reads_append] at this
    exact this.2.1.source_eq hp
  have hjs : Spaced (sourceOf js) := by
    rw [← hsrc, hi, sourceOf_append, sourceOf_cons, sourceOf_nil, List.append_nil, hv] at hc
    exact chain_bar (s := '|' :: sourceOf js) hc
  have hstrip : stripTags [] s = plainText js := by
    have hnil : plainText [i] = [] := by
      apply plainText_eq_nil
      intro j hj
      rw [List.mem_singleton.1 hj]
      exact hp
    rw [stripTags_nil, hi, plainText_append, hnil, List.append_nil]
  refine ⟨hc.tail, ?_⟩
  rw [hstrip]
  have ht := (thinned_filter [] js).sourceOf hr
  rw [filter_kept_nil, sourceOf_map_plain] at ht
  exact ht.spaced hjs

theorem settled_levelText {hs : List Heading} {level : Level}
    (h : ∀ e ∈ hs, EndsClosing e.source ∧ e.source.IsChain Apart) :
    Settled (levelText hs level) := by
  have hf : ∀ e ∈ hs.filter (·.level = level), EndsClosing e.source ∧ e.source.IsChain Apart :=
    fun e he => h e (List.mem_of_mem_filter he)
  rw [levelText]
  generalize hs.filter (·.level = level) = fs at hf
  have hchain := chain_flatMap_space (fun e he => (hf e he).2) '|'
  rcases List.eq_nil_or_concat fs with rfl | ⟨gs, e, rfl⟩
  · apply Spaced.settled
    exact List.isChain_pair.2 ⟨fun h => absurd h (by decide), fun h => absurd h (by decide)⟩
  · obtain ⟨u, a, d, hu, ha, hd⟩ := (hf e (by simp)).1
    refine EndsClosing.settled ⟨gs.flatMap (fun e => ' ' :: e.source) ++ ' ' :: u, a, d, ?_, ha, hd⟩
      hchain
    rw [List.concat_eq_append, List.flatMap_append, List.flatMap_singleton, hu]
    simp

/-! ## Every part of a text -/

theorem endsClosing_of_mem {s : List Char} {e : Heading} (h : e ∈ headingsOf (pieces s)) :
    EndsClosing e.source ∧ e.source <:+: s := by
  fun_induction pieces s with
  | case1 => cases h
  | case2 c rest heading after hr ih =>
    have hs : heading.source ++ after = c :: rest := readHeading?_append hr
    rcases List.mem_cons.1 h with rfl | h
    · exact ⟨endsClosing_of_readHeading hr, [], after, hs⟩
    · obtain ⟨he, hi⟩ := ih h
      exact ⟨he, hi.trans ⟨heading.source, [], by rw [List.append_nil, hs]⟩⟩
  | case3 c rest hr ih =>
    obtain ⟨he, hi⟩ := ih h
    exact ⟨he, hi.trans (List.suffix_cons c rest).isInfix⟩

theorem settled_of_mem {s : List Char} (hs : Spaced s) {b : Bucket} {part : List Char}
    (h : (b, part) ∈ partsOf (pieces s)) : Settled part := by
  rw [partsOf_eq] at h
  rcases List.mem_cons.1 h with he | he
  · cases he
    exact ((thinned_bodyText s).spaced hs).settled
  · obtain ⟨level, -, hl⟩ := List.mem_map.1 he
    cases hl
    apply settled_levelText
    intro e he
    obtain ⟨hf, hi⟩ := endsClosing_of_mem he
    exact ⟨hf, hs.isChain.infix hi⟩

theorem buckets_clean {s : List Char} {b : Bucket} {t : List Char} (h : (b, t) ∈ buckets s) :
    Clean t ∧ buckets t = [(.text, t)] := by
  obtain ⟨⟨b, part⟩, hp, he⟩ := List.mem_map.1 h
  cases he
  have hs : Spaced (stripTags headingNames (pad s)) :=
    (thinned_stripTags headingNames (pad s)).spaced (spaced_pad s)
  exact (settled_of_mem hs hp).clean

/-! ## Buckets of a value -/

theorem htmlBuckets_str (s : String) :
    Indexing.htmlBuckets (.str s) = .ok (Indexing.textBuckets s) := rfl

theorem exists_textBuckets_of_htmlBuckets {v : Value} {parts : List (String × String)}
    (h : Indexing.htmlBuckets v = .ok parts) : ∃ s, parts = Indexing.textBuckets s := by
  unfold Indexing.htmlBuckets at h
  split at h
  · cases h
    exact ⟨"", rfl⟩
  · cases hw : v.written with
    | error e =>
      rw [hw] at h
      cases h
    | ok s =>
      rw [hw] at h
      cases h
      exact ⟨s, rfl⟩

/-- Every bucket of every value is clean, and splitting it again leaves it as it is. -/
theorem clean_of_mem_htmlBuckets {v : Value} {parts : List (String × String)}
    (h : Indexing.htmlBuckets v = .ok parts) {name text : String} (hm : (name, text) ∈ parts) :
    Clean text.toList ∧ Indexing.htmlBuckets (.str text) = .ok [("text", text)] := by
  obtain ⟨s, rfl⟩ := exists_textBuckets_of_htmlBuckets h
  obtain ⟨⟨b, t⟩, hb, he⟩ := List.mem_map.1 hm
  cases he
  obtain ⟨hc, hs⟩ := buckets_clean hb
  rw [htmlBuckets_str, Indexing.textBuckets, String.toList_ofList, hs]
  exact ⟨hc, rfl⟩

/-- A heading that is cut out of an attribute, a lone `<` and a comment that is not closed. -/
theorem clean_of_mem_htmlBuckets_cut :
    Indexing.htmlBuckets (.str "<h1 title='<h2>x</h2>'>1 <\n2<!-- y") =
      .ok [("text", " 1 < 2 "), ("h2", " x ")] ∧
    ("text", " 1 < 2 ") ∈ [("text", " 1 < 2 "), ("h2", " x ")] ∧
    Clean " 1 < 2 ".toList ∧
    Indexing.htmlBuckets (.str " 1 < 2 ") = .ok [("text", " 1 < 2 ")] := by
  have h : Indexing.htmlBuckets (.str "<h1 title='<h2>x</h2>'>1 <\n2<!-- y") =
      .ok [("text", " 1 < 2 "), ("h2", " x ")] :=
    (htmlBuckets_str _).trans (congrArg Except.ok (by decide +kernel))
  have hm : ("text", " 1 < 2 ") ∈ [("text", " 1 < 2 "), ("h2", " x ")] := List.mem_cons_self
  exact ⟨h, hm, clean_of_mem_htmlBuckets h hm⟩

end ContentIndex.Markup
