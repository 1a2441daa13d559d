import ContentIndex.Text.Identifier
import ContentIndex.Text.Split

/-!
# Items of a marked-up text

One pass from left to right. A comment runs through its first end mark, or up to the end of the
text before a final line feed. Any other directive runs through the next `>`, a tag through the
first `>` outside quotes, and both to the end of the text when there is none. Every other
character stands for itself. `source_items` says that the items make up the text.
-/

namespace ContentIndex.Markup

set_option autoImplicit false

open Text

inductive Item where
  | plain (c : Char)
  | directive (source : List Char)
  | tag (name source : List Char)
  deriving DecidableEq, Repr

def Item.source : Item → List Char
  | .plain c => [c]
  | .directive s => s
  | .tag _ s => s

/-- Text through the first `>` outside quotes and the text after it; `quote` is the open quote. -/
def tagEnd? (quote : Option Char) : List Char → Option (List Char × List Char)
  | [] => none
  | c :: rest =>
    match quote with
    | some q =>
      (tagEnd? (if c = q then none else some q) rest).map fun (taken, after) => (c :: taken, after)
    | none =>
      if c = '>' then some (['>'], rest)
      else
        (tagEnd? (if c = '"' ∨ c = '\'' then some c else none) rest).map
          fun (taken, after) => (c :: taken, after)

def isNameChar (c : Char) : Bool :=
  !(isBlank c || c == '/' || c == '>')

/-- A tag whose name starts here, after `opening`. -/
def readTag (opening s : List Char) : Item × List Char :=
  let name := s.takeWhile isNameChar
  let rest := s.dropWhile isNameChar
  match tagEnd? none rest with
  | some (taken, after) => (.tag name (opening ++ name ++ taken), after)
  | none => (.tag name (opening ++ name ++ rest), [])

def readDirective (opening s : List Char) : Item × List Char :=
  match cut? ['>'] s with
  | some (body, after) => (.directive (opening ++ body ++ ['>']), after)
  | none => (.directive (opening ++ s), [])

def commentEnd : List Char := ['-', '-', '>']

def readComment (s : List Char) : Item × List Char :=
  let opening := ['<', '!', '-', '-']
  match cut? commentEnd s with
  | some (body, after) => (.directive (opening ++ body ++ commentEnd), after)
  | none =>
    if s.getLast? = some '\n' then (.directive (opening ++ s.dropLast), ['\n'])
    else (.directive (opening ++ s), [])

/-- The item that starts at a `<`, unless that is a character of its own. -/
def readItem? : List Char → Option (Item × List Char)
  | '<' :: '!' :: '-' :: '-' :: s => some (readComment s)
  | '<' :: '!' :: s => some (readDirective ['<', '!'] s)
  | '<' :: '?' :: s => some (readDirective ['<', '?'] s)
  | '<' :: '/' :: c :: s => if isAsciiLetter c then some (readTag ['<', '/'] (c :: s)) else none
  | '<' :: c :: s => if isAsciiLetter c then some (readTag ['<'] (c :: s)) else none
  | _ => none

theorem tagEnd?_append {quote : Option Char} {s taken after : List Char}
    (h : tagEnd? quote s = some (taken, after)) : taken ++ after = s := by
  induction s generalizing quote taken with
  | nil => cases h
  | cons c rest ih =>
    unfold tagEnd? at h
    split at h
    · obtain ⟨⟨t, a⟩, ht, he⟩ := Option.map_eq_some_iff.1 h
      cases he
      simp [ih ht]
    · split at h
      · rename_i hc
        cases h
        simp [hc]
      · obtain ⟨⟨t, a⟩, ht, he⟩ := Option.map_eq_some_iff.1 h
        cases he
        simp [ih ht]

theorem readTag_append (opening s : List Char) :
    (readTag opening s).1.source ++ (readTag opening s).2 = opening ++ s := by
  unfold readTag
  dsimp only
  have hs : s.takeWhile isNameChar ++ s.dropWhile isNameChar = s := List.takeWhile_append_dropWhile
  split
  · rename_i taken after h
    simp [Item.source, tagEnd?_append h, hs]
  · simp [Item.source, hs]

theorem readDirective_append (opening s : List Char) :
    (readDirective opening s).1.source ++ (readDirective opening s).2 = opening ++ s := by
  unfold readDirective
  split
  · rename_i body after h
    simp [Item.source, cut?_eq_some h]
  · simp [Item.source]

theorem readComment_append (s : List Char) :
    (readComment s).1.source ++ (readComment s).2 = ['<', '!', '-', '-'] ++ s := by
  unfold readComment
  dsimp only
  split
  · rename_i body after h
    simp [Item.source, cut?_eq_some h]
  · split
    · rename_i h
      have hs : s.dropLast ++ ['\n'] = s := by
        have hne : s ≠ [] := by intro he; simp [he] at h
        rw [List.getLast?_eq_some_getLast hne, Option.some.injEq] at h
        rw [← h]
        exact List.dropLast_concat_getLast hne
      simp [Item.source, hs]
    · simp [Item.source]

theorem readItem?_append {s after : List Char} {item : Item}
    (h : readItem? s = some (item, after)) : item.source ++ after = s := by
  unfold readItem? at h
  split at h
  · rename_i s
    simpa [Option.some.inj h] using readComment_append s
  · rename_i s _
    simpa [Option.some.inj h] using readDirective_append ['<', '!'] s
  · rename_i s
    simpa [Option.some.inj h] using readDirective_append ['<', '?'] s
  · rename_i c s
    split at h
    · simpa [Option.some.inj h] using readTag_append ['<', '/'] (c :: s)
    · cases h
  · rename_i c s _ _ _ _
    split at h
    · simpa [Option.some.inj h] using readTag_append ['<'] (c :: s)
    · cases h
  · cases h

theorem source_ne_nil_of_readTag (opening s : List Char) (h : opening ≠ []) :
    (readTag opening s).1.source ≠ [] := by
  unfold readTag
  dsimp only
  split <;> simp [Item.source, h]

theorem source_ne_nil_of_readDirective (opening s : List Char) (h : opening ≠ []) :
    (readDirective opening s).1.source ≠ [] := by
  unfold readDirective
  split <;> simp [Item.source, h]

theorem source_ne_nil_of_readComment (s : List Char) : (readComment s).1.source ≠ [] := by
  unfold readComment
  dsimp only
  split
  · simp [Item.source]
  · split <;> simp [Item.source]

theorem source_ne_nil_of_readItem {s after : List Char} {item : Item}
    (h : readItem? s = some (item, after)) : item.source ≠ [] := by
  unfold readItem? at h
  split at h
  · rename_i s
    simpa [Option.some.inj h] using source_ne_nil_of_readComment s
  · rename_i s _
    simpa [Option.some.inj h] using source_ne_nil_of_readDirective ['<', '!'] s (by simp)
  · rename_i s
    simpa [Option.some.inj h] using source_ne_nil_of_readDirective ['<', '?'] s (by simp)
  · rename_i c s
    split at h
    · simpa [Option.some.inj h] using source_ne_nil_of_readTag ['<', '/'] (c :: s) (by simp)
    · cases h
  · rename_i c s _ _ _ _
    split at h
    · simpa [Option.some.inj h] using source_ne_nil_of_readTag ['<'] (c :: s) (by simp)
    · cases h
  · cases h

theorem length_lt_of_readItem {s after : List Char} {item : Item}
    (h : readItem? s = some (item, after)) : after.length < s.length := by
  have hs := congrArg List.length (readItem?_append h)
  have hn := List.length_pos_iff.2 (source_ne_nil_of_readItem h)
  simp only [List.length_append] at hs
  omega

def items : List Char → List Item
  | [] => []
  | c :: rest =>
    match _h : readItem? (c :: rest) with
    | some (item, after) => item :: items after
    | none => .plain c :: items rest
termination_by s => s.length
decreasing_by
  · exact length_lt_of_readItem _h
  · simp

theorem items_nil : items [] = [] := by
  rw [items]

theorem items_of_read {s after : List Char} {item : Item} (h : readItem? s = some (item, after)) :
    items s = item :: items after := by
  cases s with
  | nil => cases h
  | cons c rest =>
    rw [items]
    split
    · rename_i i a h'
      rw [h] at h'
      cases h'
      rfl
    · rename_i h'
      rw [h] at h'
      cases h'

theorem items_of_plain {c : Char} {rest : List Char} (h : readItem? (c :: rest) = none) :
    items (c :: rest) = .plain c :: items rest := by
  rw [items]
  split
  · rename_i i a h'
    rw [h] at h'
    cases h'
  · rfl

theorem source_items (s : List Char) : (items s).flatMap Item.source = s := by
  fun_induction items s with
  | case1 => rfl
  | case2 c rest item after h ih =>
    rw [List.flatMap_cons, ih]
    exact readItem?_append h
  | case3 c rest h ih => simp [Item.source, ih]

end ContentIndex.Markup
