import ContentIndex.Proofs.Markup.Collapse

/-!
# Parts of a text that is cut at its headings

The parts come from a fold over the pieces; `partsOf_eq` says at once what they are: the text
outside the heading elements, then for each level, in order of its first element, the elements of
that level, each after a space.
-/

namespace ContentIndex.Markup

set_option autoImplicit false

def headingsOf (ps : List Piece) : List Heading :=
  ps.filterMap fun
    | .body _ => none
    | .heading element => some element

/-- The elements of a level, each after a space. -/
def levelText (hs : List Heading) (level : Level) : List Char :=
  (hs.filter (·.level = level)).flatMap fun h => ' ' :: h.source

/-- Levels in order of their first element. -/
def levelsOf (hs : List Heading) : List Level :=
  (hs.map Heading.level).eraseDups

theorem nodup_eraseDups {α : Type} [BEq α] [LawfulBEq α] (as : List α) : as.eraseDups.Nodup := by
  induction h : as.length using Nat.strong_induction_on generalizing as with
  | _ n ih =>
    cases as with
    | nil => exact .nil
    | cons a as =>
      rw [List.eraseDups_cons, List.nodup_cons]
      constructor
      · rw [List.mem_eraseDups]
        simp
      · apply ih _ _ _ rfl
        rw [← h]
        exact Nat.lt_succ_of_le (List.length_filter_le _ as)

theorem append_of_not_mem {f : Level → List Char} {ls : List Level} {level : Level}
    (h : level ∉ ls) (addition : List Char) :
    Parts.append (ls.map fun l => (Bucket.heading l, f l)) (.heading level) addition =
      (ls.map fun l => (Bucket.heading l, f l)) ++ [(.heading level, addition)] := by
  induction ls with
  | nil => rfl
  | cons l ls ih =>
    rw [List.mem_cons, not_or] at h
    have hl : Bucket.heading l ≠ .heading level := fun he => h.1 (Bucket.heading.inj he).symm
    rw [List.map_cons, Parts.append, if_neg hl, ih h.2, List.cons_append]

theorem append_of_mem {f : Level → List Char} {ls : List Level} {level : Level}
    (h : level ∈ ls) (hn : ls.Nodup) (addition : List Char) :
    Parts.append (ls.map fun l => (Bucket.heading l, f l)) (.heading level) addition =
      ls.map fun l => (Bucket.heading l, f l ++ if l = level then addition else []) := by
  induction ls with
  | nil => cases h
  | cons l ls ih =>
    rw [List.nodup_cons] at hn
    rw [List.map_cons, Parts.append, List.map_cons]
    by_cases hl : l = level
    · subst hl
      have hls : ∀ k ∈ ls, k ≠ l := fun k hk he => hn.1 (he ▸ hk)
      rw [if_pos rfl, if_pos rfl]
      congr 1
      apply List.map_congr_left
      intro k hk
      rw [if_neg (hls k hk), List.append_nil]
    · have hb : Bucket.heading l ≠ .heading level := fun he => hl (Bucket.heading.inj he)
      have hm : level ∈ ls := (List.mem_cons.1 h).resolve_left fun he => hl he.symm
      rw [if_neg hb, if_neg hl, List.append_nil, ih hm hn.2]

theorem levelText_concat (hs : List Heading) (h : Heading) (level : Level) :
    levelText (hs ++ [h]) level =
      levelText hs level ++ if level = h.level then ' ' :: h.source else [] := by
  by_cases hl : h.level = level
  · simp [levelText, List.filter_append, hl]
  · simp [levelText, List.filter_append, hl, Ne.symm hl]

theorem levelText_eq_nil {hs : List Heading} {level : Level} (h : level ∉ levelsOf hs) :
    levelText hs level = [] := by
  have hf : hs.filter (·.level = level) = [] := by
    rw [List.filter_eq_nil_iff]
    intro e he hl
    apply h
    rw [levelsOf, List.mem_eraseDups]
    exact List.mem_map.2 ⟨e, he, of_decide_eq_true hl⟩
  rw [levelText, hf]
  rfl

theorem levelsOf_concat_of_mem {hs : List Heading} {h : Heading} (hm : h.level ∈ levelsOf hs) :
    levelsOf (hs ++ [h]) = levelsOf hs := by
  rw [levelsOf, List.mem_eraseDups] at hm
  have hr : [h.level].removeAll (hs.map Heading.level) = [] := by
    rw [List.removeAll, List.filter_cons_of_neg (by simpa using hm), List.filter_nil]
  rw [levelsOf, List.map_append, List.eraseDups_append]
  change _ ++ ([h.level].removeAll (hs.map Heading.level)).eraseDups = _
  rw [hr, List.eraseDups_nil, List.append_nil]
  rfl

theorem levelsOf_concat_of_not_mem {hs : List Heading} {h : Heading}
    (hm : h.level ∉ levelsOf hs) : levelsOf (hs ++ [h]) = levelsOf hs ++ [h.level] := by
  rw [levelsOf, List.mem_eraseDups] at hm
  have hr : [h.level].removeAll (hs.map Heading.level) = [h.level] := by
    rw [List.removeAll, List.filter_cons_of_pos (by simpa using hm), List.filter_nil]
  rw [levelsOf, List.map_append, List.eraseDups_append]
  change _ ++ ([h.level].removeAll (hs.map Heading.level)).eraseDups = _
  rw [hr]
  rfl

theorem foldl_add_eq (hs : List Heading) :
    (hs.map Piece.heading).foldl Parts.add [] =
      (levelsOf hs).map fun l => (Bucket.heading l, levelText hs l) := by
  induction hs using List.reverseRecOn with
  | nil => rfl
  | append_singleton hs h ih =>
    rw [List.map_append, List.foldl_append, ih]
    simp only [List.map_cons, List.map_nil, List.foldl_cons, List.foldl_nil, Parts.add]
    by_cases hm : h.level ∈ levelsOf hs
    · rw [append_of_mem hm (nodup_eraseDups _), levelsOf_concat_of_mem hm]
      simp only [levelText_concat]
    · rw [append_of_not_mem hm, levelsOf_concat_of_not_mem hm, List.map_append]
      congr 1
      · apply List.map_congr_left
        intro l hl
        have hne : l ≠ h.level := fun he => hm (he ▸ hl)
        rw [levelText_concat, if_neg hne, List.append_nil]
      · rw [List.map_cons, List.map_nil, levelText_concat, if_pos rfl, levelText_eq_nil hm,
          List.nil_append]

theorem filter_eq_map_headingsOf (ps : List Piece) :
    (ps.filter fun
      | .body _ => false
      | .heading _ => true) = (headingsOf ps).map Piece.heading := by
  induction ps with
  | nil => rfl
  | cons p ps ih =>
    cases p with
    | body c => exact ih
    | heading element => exact congrArg (Piece.heading element :: ·) ih

theorem partsOf_eq (ps : List Piece) :
    partsOf ps = (.text, bodyText ps) ::
      (levelsOf (headingsOf ps)).map fun l => (.heading l, levelText (headingsOf ps) l) := by
  rw [← foldl_add_eq, ← filter_eq_map_headingsOf]
  rfl

end ContentIndex.Markup
