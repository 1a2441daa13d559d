import ContentIndex.Text.Blank

/-!
# Cutting texts at separators

Occurrences are taken from the left and do not overlap. `join_splitOn` says that joining the
pieces with the separator gives the text back.
-/

namespace ContentIndex.Text

set_option autoImplicit false

/-- What follows the mark in a text that starts with it. -/
def rest? : List Char → List Char → Option (List Char)
  | [], s => some s
  | _ :: _, [] => none
  | m :: mark, c :: s => if m == c then rest? mark s else none

/-- What stands before and after the first occurrence of `mark`. -/
def cut? (mark : List Char) : List Char → Option (List Char × List Char)
  | [] => if mark.isEmpty then some ([], []) else none
  | c :: rest =>
    match rest? mark (c :: rest) with
    | some after => some ([], after)
    | none => (cut? mark rest).map fun (before, after) => (c :: before, after)

/-- At most `limit` cuts. -/
def splitAtMost (mark : List Char) : Nat → List Char → List (List Char)
  | 0, s => [s]
  | limit + 1, s =>
    match cut? mark s with
    | none => [s]
    | some (before, after) => before :: splitAtMost mark limit after

def splitOn (mark s : List Char) : List (List Char) :=
  splitAtMost mark s.length s

/-- At most `limit` cuts, counted from the right. -/
def splitAtMostFromEnd (mark : List Char) (limit : Nat) (s : List Char) : List (List Char) :=
  ((splitAtMost mark.reverse limit s.reverse).map List.reverse).reverse

def join (mark : List Char) : List (List Char) → List Char
  | [] => []
  | [piece] => piece
  | piece :: rest => piece ++ mark ++ join mark rest

/-- Words, of which at most `limit` are cut off; what follows keeps its trailing blanks. -/
def splitBlank : Nat → List Char → List (List Char)
  | 0, s =>
    let rest := s.dropWhile isBlank
    if rest.isEmpty then [] else [rest]
  | limit + 1, s =>
    let rest := s.dropWhile isBlank
    if rest.isEmpty then []
    else rest.takeWhile (!isBlank ·) :: splitBlank limit (rest.dropWhile (!isBlank ·))

def splitBlankFromEnd (limit : Nat) (s : List Char) : List (List Char) :=
  ((splitBlank limit s.reverse).map List.reverse).reverse

/-- Lines of a text, each with its line end if `keepEnds`; `current` is the open line, reversed. -/
def linesFrom (keepEnds : Bool) (current : List Char) : List Char → List (List Char)
  | [] => if current.isEmpty then [] else [current.reverse]
  | '\r' :: '\n' :: rest =>
    (current.reverse ++ if keepEnds then ['\r', '\n'] else []) :: linesFrom keepEnds [] rest
  | c :: rest =>
    if isLineBreak c then
      (current.reverse ++ if keepEnds then [c] else []) :: linesFrom keepEnds [] rest
    else linesFrom keepEnds (c :: current) rest

def lines (keepEnds : Bool) (s : List Char) : List (List Char) :=
  linesFrom keepEnds [] s

/-- Puts `mark` before each of the first `limit` characters, and after the last one. -/
def interleave (mark : List Char) : Nat → List Char → List Char
  | 0, s => s
  | _ + 1, [] => mark
  | limit + 1, c :: rest => mark ++ c :: interleave mark limit rest

/-- Replaces at most `limit` occurrences; an empty text occurs before and after every character. -/
def replaceAtMost (old new : List Char) (limit : Nat) (s : List Char) : List Char :=
  if old.isEmpty then interleave new limit s else join new (splitAtMost old limit s)

/-- More cuts than a text of this length allows. -/
def unlimited (s : List Char) : Nat :=
  s.length + 1

def replace (old new s : List Char) : List Char :=
  replaceAtMost old new (unlimited s) s

/-- Occurrences that do not overlap. -/
def countOf (mark s : List Char) : Nat :=
  if mark.isEmpty then s.length + 1 else (splitOn mark s).length - 1

def find? (mark s : List Char) : Option Nat :=
  (cut? mark s).map (·.1.length)

theorem rest?_eq_some {mark s rest : List Char} (h : rest? mark s = some rest) :
    s = mark ++ rest := by
  induction mark generalizing s with
  | nil => simpa [rest?] using h
  | cons m ms ih =>
    cases s with
    | nil => simp [rest?] at h
    | cons c cs =>
      by_cases hc : m = c
      · subst hc
        simp only [rest?, beq_self_eq_true, if_true] at h
        simp [ih h]
      · simp [rest?, hc] at h

theorem rest?_self_append (mark v : List Char) : rest? mark (mark ++ v) = some v := by
  induction mark with
  | nil => rfl
  | cons m mark ih => simp [rest?, ih]

theorem cut?_eq_some {mark s before after : List Char} (h : cut? mark s = some (before, after)) :
    s = before ++ mark ++ after := by
  induction s generalizing before with
  | nil =>
    unfold cut? at h
    split at h
    · rename_i hm
      simp only [Option.some.injEq, Prod.mk.injEq] at h
      simp [← h.1, ← h.2, List.isEmpty_iff.1 hm]
    · cases h
  | cons c rest ih =>
    unfold cut? at h
    split at h
    · rename_i r hr
      simp only [Option.some.injEq, Prod.mk.injEq] at h
      obtain ⟨rfl, rfl⟩ := h
      simpa using rest?_eq_some hr
    · obtain ⟨⟨b, a⟩, hb, he⟩ := Option.map_eq_some_iff.1 h
      simp only [Prod.mk.injEq] at he
      obtain ⟨rfl, rfl⟩ := he
      simp [ih hb]

/-- A text is cut at the first occurrence of a character. -/
theorem cut?_first {x : Char} {before : List Char} (h : x ∉ before) (after : List Char) :
    cut? [x] (before ++ x :: after) = some (before, after) := by
  induction before with
  | nil => simp [cut?, rest?]
  | cons c cs ih =>
    obtain ⟨hc, hcs⟩ := not_or.1 (mt List.mem_cons.2 h)
    have hne : (x == c) = false := beq_eq_false_iff_ne.2 hc
    rw [List.cons_append, cut?, rest?, if_neg (by simp [hne]), ih hcs]
    rfl

theorem cut?_of_not_mem {x : Char} {s : List Char} (h : x ∉ s) : cut? [x] s = none := by
  induction s with
  | nil => rfl
  | cons c cs ih =>
    obtain ⟨hc, hcs⟩ := not_or.1 (mt List.mem_cons.2 h)
    have hne : (x == c) = false := beq_eq_false_iff_ne.2 hc
    rw [cut?, rest?, if_neg (by simp [hne]), ih hcs]
    rfl

theorem splitAtMost_ne_nil (mark : List Char) (limit : Nat) (s : List Char) :
    splitAtMost mark limit s ≠ [] := by
  cases limit with
  | zero => simp [splitAtMost]
  | succ n => unfold splitAtMost; split <;> simp

theorem join_splitAtMost (mark : List Char) (limit : Nat) (s : List Char) :
    join mark (splitAtMost mark limit s) = s := by
  induction limit generalizing s with
  | zero => rfl
  | succ n ih =>
    unfold splitAtMost
    split
    · rfl
    · rename_i before after h
      have hne := splitAtMost_ne_nil mark n after
      cases hs : splitAtMost mark n after with
      | nil => exact absurd hs hne
      | cons p ps =>
        rw [join, ← hs, ih]
        · exact (cut?_eq_some h).symm
        · simp

theorem join_splitOn (mark s : List Char) : join mark (splitOn mark s) = s :=
  join_splitAtMost mark s.length s

end ContentIndex.Text
