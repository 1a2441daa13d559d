import ContentIndex.Evaluator
import ContentIndex.Proofs.Run
import Mathlib.Data.List.Basic
import Mathlib.Data.List.TakeWhile

/-!
# Wrapped expressions

An expression may be wrapped: without the blanks around it the text begins with the opening and ends
with the closing brace. The wrapper can also be told as a pattern that is matched with greedy runs
and with going back where they have taken too much; whatever stands between the braces, there is one
way to match it. So an expression evaluates as it does with a wrapper around it, up to the text that
an error names.
-/

namespace ContentIndex

set_option autoImplicit false

/-! ## Blanks around a text -/

namespace Text

variable {left right s : List Char}

def AreBlank (s : List Char) : Prop :=
  ∀ c ∈ s, isBlank c = true

theorem trimStart_append (h : AreBlank left) (s : List Char) :
    trimStart isBlank (left ++ s) = trimStart isBlank s :=
  List.dropWhile_append_of_pos h

theorem trimEnd_append (h : AreBlank right) (s : List Char) :
    trimEnd isBlank (s ++ right) = trimEnd isBlank s := by
  have hreverse : AreBlank right.reverse := fun c hc => h c (List.mem_reverse.1 hc)
  rw [trimEnd, List.reverse_append, List.dropWhile_append_of_pos hreverse]
  rfl

theorem trim_append (hl : AreBlank left) (hr : AreBlank right) (s : List Char) :
    trim isBlank (left ++ s ++ right) = trim isBlank s := by
  rw [List.append_assoc, trim, trimStart_append hl, trimStart, List.dropWhile_append]
  split
  · rename_i hnone
    have hright : right.dropWhile isBlank = [] := List.dropWhile_eq_nil_iff.2 hr
    rw [hright, trim, trimStart, List.isEmpty_iff.1 hnone]
  · exact trimEnd_append hr _

theorem areBlank_takeWhile (s : List Char) : AreBlank (s.takeWhile isBlank) :=
  fun _ hc => List.mem_takeWhile_imp hc

theorem exists_trimEnd (s : List Char) :
    ∃ right, AreBlank right ∧ s = trimEnd isBlank s ++ right := by
  refine ⟨(s.reverse.takeWhile isBlank).reverse, fun c hc => ?_, ?_⟩
  · exact areBlank_takeWhile _ c (List.mem_reverse.1 hc)
  · rw [trimEnd, ← List.reverse_append, List.takeWhile_append_dropWhile, List.reverse_reverse]

/-- What trimming drops. -/
theorem exists_trim (s : List Char) :
    ∃ left right, AreBlank left ∧ AreBlank right ∧ s = left ++ trim isBlank s ++ right := by
  obtain ⟨right, hr, hright⟩ := exists_trimEnd (trimStart isBlank s)
  refine ⟨s.takeWhile isBlank, right, areBlank_takeWhile s, hr, ?_⟩
  rw [trim, List.append_assoc, ← hright, trimStart, List.takeWhile_append_dropWhile]

end Text

/-! ## The wrapped form -/

namespace Expr

open Text

variable {s inner : List Char}

def closing : List Char := ['\x7d']

/-- Without the blanks around it the text is an opening, something inside, and a closing brace. -/
def Wraps (s inner : List Char) : Prop :=
  trim isBlank s = opening ++ inner ++ closing

theorem trim_wrapper (inner : List Char) :
    trim isBlank (opening ++ inner ++ closing) = opening ++ inner ++ closing := by
  have hstart : trimStart isBlank (opening ++ inner ++ closing) = opening ++ inner ++ closing := rfl
  have hreverse : (opening ++ inner ++ closing).reverse = '\x7d' :: (opening ++ inner).reverse := by
    rw [List.reverse_append]
    rfl
  have hend : isBlank '\x7d' = false := rfl
  rw [trim, hstart, trimEnd, hreverse, List.dropWhile_cons, hend, if_neg Bool.false_ne_true,
    ← hreverse, List.reverse_reverse]

theorem wraps_iff : Wraps s inner ↔ ∃ left right, AreBlank left ∧ AreBlank right ∧
    s = left ++ (opening ++ inner ++ closing) ++ right := by
  constructor
  · intro h
    obtain ⟨left, right, hl, hr, hs⟩ := exists_trim s
    rw [Wraps.eq_1] at h
    exact ⟨left, right, hl, hr, h ▸ hs⟩
  · rintro ⟨left, right, hl, hr, rfl⟩
    rw [Wraps, trim_append hl hr, trim_wrapper]

theorem Wraps.unique {other : List Char} (h : Wraps s inner) (h' : Wraps s other) :
    inner = other :=
  List.append_cancel_left (List.append_cancel_right (h.symm.trans h'))

theorem wrapped?_eq_some_iff :
    wrapped? s = some inner ↔ s = opening ++ inner ++ closing := by
  constructor
  · intro h
    rw [wrapped?] at h
    split at h
    · rename_i rest hrest
      split at h
      · rename_i hlast
        cases h
        rw [rest?_eq_some hrest, List.append_assoc]
        exact congrArg _ (List.dropLast_append_getLast? _ hlast).symm
      · cases h
    · cases h
  · rintro rfl
    rw [wrapped?, List.append_assoc, rest?_self_append]
    simp [closing]

theorem unwrap_of_wraps (h : Wraps s inner) : unwrap s = trim isBlank inner := by
  rw [unwrap, wrapped?_eq_some_iff.2 h]

theorem unwrap_of_not_wraps (h : ∀ inner, ¬ Wraps s inner) : unwrap s = trim isBlank s := by
  have hnone : wrapped? (trim isBlank s) = none :=
    Option.eq_none_iff_forall_ne_some.2 fun inner hinner => h inner (wrapped?_eq_some_iff.1 hinner)
  rw [unwrap, hnone]

/-! ## The wrapper as a pattern -/

/-- Ways to take a run of such characters off a text, the longest first: what has been taken, and
what is left. -/
def runs (p : Char → Bool) : List Char → List (List Char × List Char)
  | [] => [([], [])]
  | c :: rest =>
    (if p c then (runs p rest).map fun r => (c :: r.1, r.2) else []) ++ [([], c :: rest)]

/-- Nothing is left, or one line feed. -/
def atEnd (s : List Char) : Bool :=
  s == [] || s == ['\n']

/-- What the ways of matching the wrapper have inside it, the preferred ones first: blanks, the
opening, any characters, the closing brace, blanks and the end. -/
def matchedInside (s : List Char) : List (List Char) :=
  (runs isBlank s).flatMap fun blanks =>
    (rest? opening blanks.2).toList.flatMap fun opened =>
      (runs (fun _ => true) opened).flatMap fun inside =>
        (rest? closing inside.2).toList.flatMap fun closed =>
          ((runs isBlank closed).filter fun blanks => atEnd blanks.2).map fun _ => inside.1

theorem mem_runs {p : Char → Bool} {taken rest : List Char} :
    (taken, rest) ∈ runs p s ↔ s = taken ++ rest ∧ ∀ c ∈ taken, p c = true := by
  induction s generalizing taken with
  | nil =>
    rw [runs, List.mem_singleton, Prod.mk.injEq, eq_comm (a := []), List.append_eq_nil_iff]
    constructor
    · rintro ⟨rfl, rfl⟩
      exact ⟨⟨rfl, rfl⟩, List.forall_mem_nil _⟩
    · exact And.left
  | cons c s ih =>
    rw [runs, List.mem_append, List.mem_singleton, Prod.mk.injEq]
    cases taken with
    | nil =>
      have hnone : ([], rest) ∉
          if p c = true then (runs p s).map fun r => (c :: r.1, r.2) else [] := by
        split <;> simp
      constructor
      · intro hmem
        exact ⟨((or_iff_right hnone).1 hmem).2.symm, List.forall_mem_nil _⟩
      · rintro ⟨hs, -⟩
        exact .inr ⟨rfl, hs.symm⟩
    | cons d taken =>
      by_cases hc : p c = true
      · simp only [hc, if_true, List.mem_map, Prod.mk.injEq, List.cons.injEq, Prod.exists,
          reduceCtorEq, false_and, or_false, List.cons_append, List.forall_mem_cons]
        constructor
        · rintro ⟨more, left, hmem, ⟨rfl, rfl⟩, rfl⟩
          obtain ⟨rfl, hall⟩ := ih.1 hmem
          exact ⟨⟨rfl, rfl⟩, hc, hall⟩
        · rintro ⟨⟨rfl, rfl⟩, -, hall⟩
          exact ⟨taken, rest, ih.2 ⟨rfl, hall⟩, ⟨rfl, rfl⟩, rfl⟩
      · simp only [hc, Bool.false_eq_true, if_false, List.not_mem_nil, reduceCtorEq, false_and,
          or_false, false_iff, List.cons_append, List.cons.injEq, List.forall_mem_cons]
        rintro ⟨⟨rfl, -⟩, hd, -⟩
        exact hc hd

theorem mem_rest? {mark rest : List Char} :
    rest ∈ (rest? mark s).toList ↔ s = mark ++ rest := by
  rw [Option.mem_toList]
  exact ⟨rest?_eq_some, fun h => h ▸ rest?_self_append mark rest⟩

theorem atEnd_iff : atEnd s = true ↔ s = [] ∨ s = ['\n'] := by
  simp [atEnd]

/-- Whatever stands inside, there is a match exactly if the text is wrapped. -/
theorem mem_matchedInside : inner ∈ matchedInside s ↔ Wraps s inner := by
  simp only [matchedInside, List.mem_flatMap, List.mem_map, List.mem_filter, Prod.exists, mem_runs,
    mem_rest?, atEnd_iff]
  rw [wraps_iff]
  constructor
  · rintro ⟨left, _, ⟨rfl, hl⟩, _, rfl, _, _, ⟨rfl, -⟩, _, rfl, right, last, ⟨⟨rfl, hr⟩, hlast⟩,
      rfl⟩
    have hlast : AreBlank last := by
      obtain rfl | rfl := hlast
      · exact List.forall_mem_nil _
      · exact fun c hc => List.mem_singleton.1 hc ▸ rfl
    refine ⟨left, right ++ last, hl, fun c hc => ?_, by simp⟩
    exact (List.mem_append.1 hc).elim (hr c) (hlast c)
  · rintro ⟨left, right, hl, hr, rfl⟩
    exact ⟨left, opening ++ (inner ++ (closing ++ right)), ⟨by simp, hl⟩, _, rfl, inner, _,
      ⟨rfl, fun _ _ => trivial⟩, right, rfl, right, [], ⟨⟨by simp, hr⟩, .inl rfl⟩, rfl⟩

/-- The preferred match decides, and any other would do as well. -/
theorem unwrap_eq_matched (s : List Char) :
    unwrap s = trim isBlank ((matchedInside s).head?.getD s) := by
  cases hmatched : matchedInside s with
  | nil =>
    refine unwrap_of_not_wraps fun inner h => ?_
    exact List.not_mem_nil (hmatched ▸ mem_matchedInside.2 h)
  | cons inner rest =>
    have hmem : inner ∈ matchedInside s := by
      rw [hmatched]
      exact List.mem_cons_self
    exact unwrap_of_wraps (mem_matchedInside.1 hmem)

end Expr

/-! ## Evaluation with a wrapper -/

/-- The same value, or the same error up to the text of the expression that it names. -/
inductive SameButText {α : Type} : Except Error α → Except Error α → Prop
  | ok (v : α) : SameButText (.ok v) (.ok v)
  | error (e : Error) : SameButText (.error e) (.error e)
  | expression (text other : String) (p : ExpressionProblem) :
    SameButText (.error (.expression text p)) (.error (.expression other p))

section Texts

variable {text other : String}

theorem preparationError_cases (text other : String) (e : Expr) :
    preparationError? text e = preparationError? other e ∨
      ∃ p, preparationError? text e = some (.expression text p) ∧
        preparationError? other e = some (.expression other p) := by
  unfold preparationError?
  split
  · exact .inl rfl
  · split
    · exact .inl rfl
    · split
      · exact .inl rfl
      · exact .inr ⟨_, rfl, rfl⟩

theorem sameButText_read (h : Expr.unwrap text.toList = Expr.unwrap other.toList) :
    SameButText (readExpression text) (readExpression other) := by
  unfold readExpression
  rw [h]
  dsimp only
  split
  · exact .error _
  · split
    · exact .expression _ _ _
    · rename_i e _
      split
      · exact .error _
      · split
        · exact .error _
        · split
          · exact .expression _ _ _
          · obtain hprep | ⟨p, htext, hother⟩ := preparationError_cases text other e
            · rw [hprep]
              split
              · exact .error _
              · exact .ok e
            · rw [htext, hother]
              exact .expression _ _ p

theorem sameButText_reportFault (e : Error) :
    SameButText (α := Value) (.error (reportFault text e)) (.error (reportFault other e)) := by
  cases e with
  | fault f => exact .expression _ _ _
  | _ => exact .error _

/-- Only what is left without the wrapper and the blanks counts. -/
theorem sameButText_evaluate (h : Expr.unwrap text.toList = Expr.unwrap other.toList)
    (builtins : List Builtin) (bindings : List (String × Value)) (st : Store) :
    SameButText (evaluate builtins text bindings st).1 (evaluate builtins other bindings st).1 ∧
      (evaluate builtins text bindings st).2 = (evaluate builtins other bindings st).2 := by
  have hread := sameButText_read h
  unfold evaluate
  generalize readExpression text = read at hread
  generalize readExpression other = read' at hread
  cases hread with
  | error e => exact ⟨.error e, rfl⟩
  | expression _ _ p => exact ⟨.expression _ _ p, rfl⟩
  | ok e =>
    dsimp only
    rw [run_bind, run_bind]
    split
    · split
      · exact ⟨.ok _, rfl⟩
      · exact ⟨sameButText_reportFault _, rfl⟩
    · exact ⟨.error _, rfl⟩

end Texts

end ContentIndex
