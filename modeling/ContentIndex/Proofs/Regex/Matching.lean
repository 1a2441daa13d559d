/-!
# Matching by trying

What a pattern takes from the front of a text, in the order in which a matcher that goes back on
its choices tries it: alternatives from the left, a greedy repetition with as many turns as
possible first, a reluctant one with as few. The first outcome is the match. `fold` is what
characters are compared by: themselves, or their small letters where case does not count.

A search goes from left to right and goes on where the last match ended.
-/

namespace ContentIndex

set_option autoImplicit false

/-- Patterns. `finish` stands at the end and before a final line feed, `again` for what a group has
taken. -/
inductive Regex where
  | one (test : Char → Bool)
  | finish
  | nothing
  | seq (p q : Regex)
  | alt (p q : Regex)
  | many (greedy : Bool) (p : Regex)
  | group (n : Nat) (p : Regex)
  | again (n : Nat)

namespace Regex

abbrev Groups := List (Nat × List Char)

/-- What has been taken, what is left, and what the groups have taken so far. -/
structure Outcome where
  taken : List Char
  rest : List Char
  groups : Groups
  deriving DecidableEq

def Outcome.after (before : List Char) (o : Outcome) : Outcome :=
  { o with taken := before ++ o.taken }

/-- Turns of a repetition. A turn that takes nothing is the last one. -/
def turns (greedy : Bool) (body : Groups → List Char → List Outcome) (g : Groups)
    (s : List Char) : List Outcome :=
  let more := (body g s).flatMap fun o =>
    if o.rest.length < s.length then (turns greedy body o.groups o.rest).map (.after o.taken)
    else [o]
  if greedy then more ++ [⟨[], s, g⟩] else ⟨[], s, g⟩ :: more
termination_by s.length

def runs (fold : Char → Char) : Regex → Groups → List Char → List Outcome
  | one _, _, [] => []
  | one test, g, c :: s => if test (fold c) then [⟨[c], s, g⟩] else []
  | finish, g, s => if s = [] ∨ s = ['\n'] then [⟨[], s, g⟩] else []
  | nothing, g, s => [⟨[], s, g⟩]
  | seq p q, g, s =>
    (p.runs fold g s).flatMap fun o => (q.runs fold o.groups o.rest).map (.after o.taken)
  | alt p q, g, s => p.runs fold g s ++ q.runs fold g s
  | many greedy p, g, s => turns greedy (p.runs fold) g s
  | group n p, g, s => (p.runs fold g s).map fun o => { o with groups := (n, o.taken) :: o.groups }
  | again n, g, s =>
    match g.lookup n with
    | none => []
    | some t =>
      if (s.take t.length).map fold = t.map fold then [⟨s.take t.length, s.drop t.length, g⟩]
      else []

/-- One pattern after the other. -/
def all : List Regex → Regex
  | [] => nothing
  | [p] => p
  | p :: ps => seq p (all ps)

def letter (c : Char) : Regex :=
  one (· == c)

def word (w : List Char) : Regex :=
  all (w.map letter)

/-- The match at the front of a text. -/
def first? (fold : Char → Char) (p : Regex) (s : List Char) : Option Outcome :=
  (p.runs fold [] s).head?

/-- A part of a searched text: a character of no match, or a match with its groups. -/
inductive Part where
  | plain (c : Char)
  | found (taken : List Char) (groups : Groups)
  deriving DecidableEq

def Outcome.part (o : Outcome) : Part :=
  .found o.taken o.groups

/-- The first outcome that takes something. -/
def proper? (fold : Char → Char) (p : Regex) (s : List Char) : Option Outcome :=
  (p.runs fold [] s).find? fun o => o.rest.length < s.length

/-- The matches in a text with what stands between them. Where the match takes nothing it counts,
and the search goes on with the first outcome that does take something, or one character on. -/
def scan (fold : Char → Char) (p : Regex) (s : List Char) : List Part :=
  let empty := (p.first? fold s).filter fun o => s.length ≤ o.rest.length
  empty.toList.map Outcome.part ++
    match _h : p.proper? fold s with
    | some o => o.part :: p.scan fold o.rest
    | none =>
      match s with
      | [] => []
      | c :: rest => .plain c :: p.scan fold rest
termination_by s.length
decreasing_by
  · simpa using List.find?_some _h
  · simp

def Part.replaced (f : List Char → Groups → List Char) : Part → List Char
  | .plain c => [c]
  | .found taken g => f taken g

/-- The text with something else in place of each match. -/
def replace (fold : Char → Char) (p : Regex) (f : List Char → Groups → List Char)
    (s : List Char) : List Char :=
  (p.scan fold s).flatMap (Part.replaced f)

@[simp] theorem Outcome.after_taken (before : List Char) (o : Outcome) :
    (o.after before).taken = before ++ o.taken := rfl

@[simp] theorem Outcome.after_rest (before : List Char) (o : Outcome) :
    (o.after before).rest = o.rest := rfl

@[simp] theorem Outcome.after_groups (before : List Char) (o : Outcome) :
    (o.after before).groups = o.groups := rfl

@[simp] theorem Outcome.after_mk (before taken rest : List Char) (g : Groups) :
    Outcome.after before ⟨taken, rest, g⟩ = ⟨before ++ taken, rest, g⟩ := rfl

theorem Outcome.after_after (s t : List Char) (o : Outcome) :
    (o.after t).after s = o.after (s ++ t) := by
  simp [Outcome.after]

section Runs

variable {fold : Char → Char} {g : Groups} {s : List Char}

theorem runs_one_cons (test : Char → Bool) (c : Char) :
    (one test).runs fold g (c :: s) = if test (fold c) then [⟨[c], s, g⟩] else [] := rfl

theorem runs_seq (p q : Regex) : (seq p q).runs fold g s =
    (p.runs fold g s).flatMap fun o => (q.runs fold o.groups o.rest).map (Outcome.after o.taken) := rfl

theorem runs_alt (p q : Regex) :
    (alt p q).runs fold g s = p.runs fold g s ++ q.runs fold g s := rfl

theorem runs_all_cons (p q : Regex) (qs : List Regex) :
    (all (p :: q :: qs)).runs fold g s = (seq p (all (q :: qs))).runs fold g s := rfl

theorem runs_finish : finish.runs fold g s = if s = [] ∨ s = ['\n'] then [⟨[], s, g⟩] else [] := rfl

/-- A sequence whose first part is a character. -/
theorem runs_seq_one_cons (test : Char → Bool) (q : Regex) (c : Char) :
    (seq (one test) q).runs fold g (c :: s) =
      if test (fold c) then (q.runs fold g s).map (Outcome.after [c]) else [] := by
  rw [runs_seq, runs_one_cons]
  split <;> simp

theorem runs_seq_letter_of_ne {c x : Char} (h : fold c ≠ x) (q : Regex) :
    (seq (letter x) q).runs fold g (c :: s) = [] := by
  rw [letter, runs_seq_one_cons, if_neg (by simpa using h)]

theorem mem_runs_seq {p q : Regex} {o : Outcome} : o ∈ (seq p q).runs fold g s ↔
    ∃ o₁ ∈ p.runs fold g s, ∃ o₂ ∈ q.runs fold o₁.groups o₁.rest, o₂.after o₁.taken = o := by
  rw [runs_seq, List.mem_flatMap]
  simp only [List.mem_map]

theorem mem_runs_letter {x : Char} {o : Outcome} : o ∈ (letter x).runs fold g s ↔
    ∃ c, fold c = x ∧ s = c :: o.rest ∧ o = ⟨[c], o.rest, g⟩ := by
  cases s with
  | nil => simp [letter, runs]
  | cons c s =>
    rw [letter, runs_one_cons]
    by_cases hc : fold c = x
    · simp only [hc, beq_self_eq_true, if_true, List.mem_singleton]
      constructor
      · rintro rfl
        exact ⟨c, hc, rfl, rfl⟩
      · rintro ⟨d, -, hs, ho⟩
        cases hs
        exact ho
    · simp only [beq_eq_false_iff_ne.2 hc, Bool.false_eq_true, if_false, List.not_mem_nil, false_iff]
      rintro ⟨d, hd, hs, -⟩
      cases hs
      exact hc hd

theorem mem_runs_again {n : Nat} {t : List Char} (ht : g.lookup n = some t) {o : Outcome} :
    o ∈ (again n).runs fold g s ↔
      s = o.taken ++ o.rest ∧ o.taken.map fold = t.map fold ∧ o.groups = g := by
  have hruns : (again n).runs fold g s = if (s.take t.length).map fold = t.map fold then
      [⟨s.take t.length, s.drop t.length, g⟩] else [] := by
    rw [runs, ht]
  rw [hruns]
  constructor
  · intro ho
    split at ho
    · rename_i h
      cases List.mem_singleton.1 ho
      exact ⟨(List.take_append_drop t.length s).symm, h, rfl⟩
    · cases ho
  · rintro ⟨rfl, hmap, rfl⟩
    have hlen : t.length = o.taken.length := by simpa using (congrArg List.length hmap).symm
    rw [hlen, List.take_left, List.drop_left, if_pos hmap]
    exact List.mem_singleton.2 rfl

/-! ## Repetitions -/

theorem map_after_nil (os : List Outcome) : os.map (Outcome.after []) = os :=
  List.map_id os

theorem runs_many (greedy : Bool) (p : Regex) : (many greedy p).runs fold g s =
    let more := (p.runs fold g s).flatMap fun o =>
      if o.rest.length < s.length then
        ((many greedy p).runs fold o.groups o.rest).map (Outcome.after o.taken)
      else [o]
    if greedy then more ++ [⟨[], s, g⟩] else ⟨[], s, g⟩ :: more := by
  rw [runs, turns]
  rfl

/-- A sequence whose first part is repeated, by the first turn. -/
theorem runs_seq_many (greedy : Bool) (p q : Regex) : (seq (many greedy p) q).runs fold g s =
    let more := (p.runs fold g s).flatMap fun o =>
      if o.rest.length < s.length then
        ((seq (many greedy p) q).runs fold o.groups o.rest).map (Outcome.after o.taken)
      else (q.runs fold o.groups o.rest).map (Outcome.after o.taken)
    if greedy then more ++ q.runs fold g s else q.runs fold g s ++ more := by
  have hmore : ((p.runs fold g s).flatMap fun o =>
      if o.rest.length < s.length then
        ((many greedy p).runs fold o.groups o.rest).map (Outcome.after o.taken)
      else [o]).flatMap (fun o => (q.runs fold o.groups o.rest).map (Outcome.after o.taken)) =
      (p.runs fold g s).flatMap fun o =>
        if o.rest.length < s.length then
          ((seq (many greedy p) q).runs fold o.groups o.rest).map (Outcome.after o.taken)
        else (q.runs fold o.groups o.rest).map (Outcome.after o.taken) := by
    rw [List.flatMap_assoc]
    congr 1
    funext o
    split
    · rw [List.flatMap_map, runs_seq, List.map_flatMap]
      congr 1
      funext o'
      rw [List.map_map]
      congr 1
      funext o''
      exact (Outcome.after_after ..).symm
    · simp
  rw [runs_seq, runs_many]
  cases greedy <;> simp only [Bool.false_eq_true, if_false, if_true, List.flatMap_append,
    List.flatMap_cons, List.flatMap_nil, List.append_nil, hmore, map_after_nil]

/-- A greedy repetition whose next turn can go one way only. -/
theorem runs_greedy_turn {p : Regex} {o : Outcome} (q : Regex) (h : p.runs fold g s = [o])
    (hlt : o.rest.length < s.length) : (seq (many true p) q).runs fold g s =
      ((seq (many true p) q).runs fold o.groups o.rest).map (Outcome.after o.taken) ++
        q.runs fold g s := by
  rw [runs_seq_many, h, List.flatMap_singleton, if_pos hlt]
  rfl

theorem runs_greedy_of_none {p : Regex} (q : Regex) (h : p.runs fold g s = []) :
    (seq (many true p) q).runs fold g s = q.runs fold g s := by
  rw [runs_seq_many, h]
  rfl

/-- A greedy repetition of a character gives nothing back where what follows could not go on. -/
theorem runs_seq_many_run {test : Char → Bool} {p : Regex} {run : List Char}
    (hrun : ∀ c ∈ run, test (fold c) = true) (hs : ∀ c ∈ s.head?, test (fold c) = false)
    (hp : ∀ c t, p.runs fold g (c :: t ++ s) = [] ∨ ¬ c :: t <:+ run) :
    (seq (many true (one test)) p).runs fold g (run ++ s) =
      (p.runs fold g s).map (Outcome.after run) := by
  induction run with
  | nil =>
    have hone : (one test).runs fold g s = [] := by
      cases s with
      | nil => rfl
      | cons c s => rw [runs_one_cons, if_neg (by simp [hs c rfl])]
    rw [List.nil_append, runs_greedy_of_none p hone]
    exact (map_after_nil _).symm
  | cons c run ih =>
    obtain ⟨hc, hrun⟩ := List.forall_mem_cons.1 hrun
    have hmore := ih hrun fun d t => (hp d t).imp id (mt (·.trans (List.suffix_cons c run)))
    have hnone : p.runs fold g (c :: run ++ s) = [] :=
      (hp c run).resolve_right fun h => h List.suffix_rfl
    have hturn : (one test).runs fold g (c :: run ++ s) = [⟨[c], run ++ s, g⟩] := by
      rw [List.cons_append, runs_one_cons, if_pos hc]
    rw [runs_greedy_turn p hturn (Nat.lt_succ_self _), hnone, hmore]
    simp [Outcome.after_after, Function.comp_def]

/-- A reluctant repetition of a character gives way to what follows before every turn. -/
theorem runs_reluctant_cons (test : Char → Bool) (q : Regex) (c : Char) :
    (seq (many false (one test)) q).runs fold g (c :: s) =
      q.runs fold g (c :: s) ++
        if test (fold c) then
          ((seq (many false (one test)) q).runs fold g s).map (Outcome.after [c])
        else [] := by
  rw [runs_seq_many, runs_one_cons]
  by_cases hc : test (fold c) = true <;> simp [hc]

theorem runs_reluctant_nil (test : Char → Bool) (q : Regex) :
    (seq (many false (one test)) q).runs fold g [] = q.runs fold g [] := by
  rw [runs_seq_many]
  exact List.append_nil _

end Runs

/-! ## First outcomes -/

/-- The outcome that is tried first. -/
def First (fold : Char → Char) (p : Regex) (g : Groups) (s : List Char) (o : Outcome) : Prop :=
  (p.runs fold g s).head? = some o

section First

variable {fold : Char → Char} {p q : Regex} {g : Groups} {s : List Char} {o o' : Outcome}

theorem First.exists_cons (h : First fold p g s o) : ∃ os, p.runs fold g s = o :: os :=
  List.head?_eq_some_iff.1 h

theorem First.seq (hp : First fold p g s o) (hq : First fold q o.groups o.rest o') :
    First fold (seq p q) g s (o'.after o.taken) := by
  obtain ⟨os, hos⟩ := hp.exists_cons
  obtain ⟨os', hos'⟩ := hq.exists_cons
  simp [First, runs_seq, hos, hos']

theorem First.left (h : First fold p g s o) (q : Regex) : First fold (alt p q) g s o := by
  obtain ⟨os, hos⟩ := h.exists_cons
  simp [First, runs_alt, hos]

theorem First.right (hnone : p.runs fold g s = []) (h : First fold q g s o) :
    First fold (alt p q) g s o := by
  rw [First, runs_alt, hnone]
  exact h

theorem First.group (h : First fold p g s o) (n : Nat) :
    First fold (group n p) g s { o with groups := (n, o.taken) :: o.groups } := by
  obtain ⟨os, hos⟩ := h.exists_cons
  simp [First, runs, hos]

theorem First.many (h : First fold p g s o) (hlt : o.rest.length < s.length)
    (hmore : First fold (many true p) o.groups o.rest o') :
    First fold (Regex.many true p) g s (o'.after o.taken) := by
  obtain ⟨os, hos⟩ := h.exists_cons
  obtain ⟨os', hos'⟩ := hmore.exists_cons
  rw [First, runs_many, hos, List.flatMap_cons, if_pos hlt, hos']
  rfl

theorem first_many_of_none (h : p.runs fold g s = []) :
    First fold (many true p) g s ⟨[], s, g⟩ := by
  rw [First, runs_many, h]
  rfl

theorem first_one {test : Char → Bool} {c : Char} (h : test (fold c) = true) :
    First fold (one test) g (c :: s) ⟨[c], s, g⟩ := by
  simp [First, runs_one_cons, h]

/-- A greedy repetition of a character takes all there are. -/
theorem first_many_run {test : Char → Bool} {run : List Char}
    (hrun : ∀ c ∈ run, test (fold c) = true) (hs : ∀ c ∈ s.head?, test (fold c) = false) :
    First fold (many true (one test)) g (run ++ s) ⟨run, s, g⟩ := by
  induction run with
  | nil =>
    refine first_many_of_none ?_
    cases s with
    | nil => rfl
    | cons c s => rw [List.nil_append, runs_one_cons, hs c rfl, if_neg Bool.false_ne_true]
  | cons c run ih =>
    obtain ⟨hc, hrun⟩ := List.forall_mem_cons.1 hrun
    exact (first_one hc).many (Nat.lt_succ_self _) (ih hrun)

end First

/-! ## Searching -/

section Scan

variable {fold : Char → Char} {p : Regex} {s : List Char}

theorem scan_of_first {o : Outcome} (h : p.first? fold s = some o)
    (hlt : o.rest.length < s.length) : p.scan fold s = o.part :: p.scan fold o.rest := by
  have hproper : p.proper? fold s = some o := by
    obtain ⟨os, hos⟩ := List.head?_eq_some_iff.1 h
    rw [proper?, hos, List.find?_cons_of_pos (by simpa using hlt)]
  rw [scan]
  split
  · rename_i o' ho'
    obtain rfl : o = o' := Option.some.inj (hproper.symm.trans ho')
    simp [h, hlt]
  · rename_i hnone
    cases hproper.symm.trans hnone

theorem proper?_of_none (h : p.first? fold s = none) : p.proper? fold s = none := by
  rw [proper?, List.head?_eq_none_iff.1 h, List.find?_nil]

theorem scan_cons_of_none {c : Char} (h : p.first? fold (c :: s) = none) :
    p.scan fold (c :: s) = .plain c :: p.scan fold s := by
  rw [scan]
  split
  · rename_i o ho
    cases (proper?_of_none h).symm.trans ho
  · simp [h]

theorem scan_nil_of_none (h : p.first? fold [] = none) : p.scan fold [] = [] := by
  rw [scan]
  split
  · rename_i o ho
    cases (proper?_of_none h).symm.trans ho
  · simp [h]

end Scan

end Regex

end ContentIndex
