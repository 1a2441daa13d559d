import ContentIndex.Markup.Item

/-!
# Heading elements

A heading element is an opening heading tag, through its first `>` outside quotes, followed on
the same line by the first closing tag of its level. Nothing is required between the level and
the rest of the opening tag.
-/

namespace ContentIndex.Markup

set_option autoImplicit false

open Text

inductive Level where
  | h1
  | h2
  | h3
  | h4
  | h5
  | h6
  deriving DecidableEq, Repr

def Level.all : List Level := [.h1, .h2, .h3, .h4, .h5, .h6]

def Level.digit : Level → Char
  | .h1 => '1'
  | .h2 => '2'
  | .h3 => '3'
  | .h4 => '4'
  | .h5 => '5'
  | .h6 => '6'

def Level.name (level : Level) : List Char :=
  ['h', level.digit]

def Level.ofDigit? (c : Char) : Option Level :=
  Level.all.find? (·.digit == c)

/-- What follows a closing tag of the level, if one stands here. -/
def Level.dropClosing? (level : Level) : List Char → Option (List Char)
  | '<' :: '/' :: h :: d :: '>' :: rest =>
    if (h = 'h' ∨ h = 'H') ∧ d = level.digit then some rest else none
  | _ => none

/-- Text through the first closing tag on this line and the text after it. -/
def Level.closing? (level : Level) : List Char → Option (List Char × List Char)
  | [] => none
  | c :: rest =>
    match level.dropClosing? (c :: rest) with
    | some after => some ((c :: rest).take 5, after)
    | none =>
      if c = '\n' then none
      else (level.closing? rest).map fun (taken, after) => (c :: taken, after)

structure Heading where
  level : Level
  source : List Char
  deriving DecidableEq, Repr

/-- The heading element that starts here, and the text after it. -/
def readHeading? : List Char → Option (Heading × List Char)
  | '<' :: h :: d :: rest =>
    if h = 'h' ∨ h = 'H' then
      match Level.ofDigit? d with
      | none => none
      | some level =>
        match tagEnd? none rest with
        | none => none
        | some (attributes, content) =>
          (level.closing? content).map fun (taken, after) =>
            (⟨level, '<' :: h :: d :: attributes ++ taken⟩, after)
    else none
  | _ => none

theorem Level.dropClosing?_eq_some {level : Level} {s after : List Char}
    (h : level.dropClosing? s = some after) : s.take 5 ++ after = s := by
  unfold Level.dropClosing? at h
  split at h
  · split at h
    · cases h; simp
    · cases h
  · cases h

theorem Level.closing?_append {level : Level} {s taken after : List Char}
    (h : level.closing? s = some (taken, after)) : taken ++ after = s := by
  induction s generalizing taken with
  | nil => cases h
  | cons c rest ih =>
    unfold Level.closing? at h
    split at h
    · rename_i r hr
      cases h
      exact Level.dropClosing?_eq_some hr
    · split at h
      · cases h
      · obtain ⟨⟨t, a⟩, ht, he⟩ := Option.map_eq_some_iff.1 h
        cases he
        simp [ih ht]

theorem readHeading?_append {s after : List Char} {heading : Heading}
    (h : readHeading? s = some (heading, after)) : heading.source ++ after = s := by
  unfold readHeading? at h
  split at h
  · rename_i a d rest
    split at h
    · split at h
      · cases h
      · rename_i level _
        split at h
        · cases h
        · rename_i attributes content ht
          obtain ⟨⟨t, b⟩, hc, he⟩ := Option.map_eq_some_iff.1 h
          cases he
          have h1 := tagEnd?_append ht
          have h2 := Level.closing?_append hc
          simp [h1, h2]
    · cases h
  · cases h

theorem length_lt_of_readHeading {s after : List Char} {heading : Heading}
    (h : readHeading? s = some (heading, after)) : after.length < s.length := by
  have hs := congrArg List.length (readHeading?_append h)
  have hp : 0 < heading.source.length := by
    unfold readHeading? at h
    split at h
    · split at h
      · split at h
        · cases h
        · split at h
          · cases h
          · obtain ⟨⟨t, b⟩, _, he⟩ := Option.map_eq_some_iff.1 h
            cases he
            simp
      · cases h
    · cases h
  simp only [List.length_append] at hs
  omega

inductive Piece where
  | body (c : Char)
  | heading (element : Heading)
  deriving DecidableEq, Repr

def Piece.source : Piece → List Char
  | .body c => [c]
  | .heading element => element.source

/-- Cuts a text at its heading elements, the leftmost first. -/
def pieces : List Char → List Piece
  | [] => []
  | c :: rest =>
    match _h : readHeading? (c :: rest) with
    | some (element, after) => .heading element :: pieces after
    | none => .body c :: pieces rest
termination_by s => s.length
decreasing_by
  · exact length_lt_of_readHeading _h
  · simp

theorem source_pieces (s : List Char) : (pieces s).flatMap Piece.source = s := by
  fun_induction pieces s with
  | case1 => rfl
  | case2 c rest element after h ih =>
    rw [List.flatMap_cons, ih]
    exact readHeading?_append h
  | case3 c rest h ih => simp [Piece.source, ih]

end ContentIndex.Markup
