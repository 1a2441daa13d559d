import ContentIndex.Index.Document
import ContentIndex.Proofs.Changes
import ContentIndex.Proofs.Index.Turns

/-!
# What has been noted does not matter

Building a document gives the same result and changes the repository in the same way whatever the
log holds. This is so for every evaluator, since a step on the store starts with an empty log.
Setups that differ in whether unindexed properties are warned of differ in what they note only.
-/

namespace ContentIndex.Index

set_option autoImplicit false

def Extraction.withLog (x : Extraction) (log : List LogRecord) : Extraction :=
  { x with store := x.store.withLog log }

/-- The second computation differs from the first one in nothing but what it notes, and what has
been noted before has no influence on either. -/
def Alike {α : Type} (a b : Extract α) : Prop :=
  ∀ x log, ∃ log', b (x.withLog log) = ((a x).1, (a x).2.withLog log')

/-- The log has no influence: not on the result, and of the state on nothing but the log. -/
abbrev Deaf {α : Type} (a : Extract α) : Prop :=
  Alike a a

namespace Alike

variable {α β : Type}

theorem bind {a b : Extract α} {f g : α → Extract β} (hab : Alike a b)
    (hfg : ∀ v, Alike (f v) (g v)) : Alike (a >>= f) (b >>= g) := by
  intro x log
  obtain ⟨log', h⟩ := hab x log
  simp only [run_bind, h]
  cases a x with
  | mk r y =>
    cases r with
    | ok v => exact hfg v y log'
    | error e => exact ⟨log', rfl⟩

theorem pure (v : α) : Deaf (pure v : Extract α) :=
  fun _ log => ⟨log, rfl⟩

theorem throw (e : Error) : Deaf (throw e : Extract α) :=
  fun _ log => ⟨log, rfl⟩

theorem lift (action : Eval α) : Deaf (Index.lift action) :=
  fun _ log => ⟨log ++ _, rfl⟩

theorem liftFault (r : Except Fault α) : Deaf (Index.liftFault r) := by
  cases r with
  | ok v => exact pure v
  | error f => exact throw (.fault f)

theorem ofExcept (r : Except Error α) : Deaf (Index.ofExcept r) := by
  cases r with
  | ok v => exact pure v
  | error e => exact throw e

theorem modify {f : Extraction → Extraction}
    (h : ∀ x log, f (x.withLog log) = (f x).withLog log) : Deaf (modify f : Extract Unit) := by
  intro x log
  refine ⟨log, ?_⟩
  simp only [run_modify, h]

/-- A step that looks at the state, but not at the log in it. -/
theorem get_bind {f g : Extraction → Extract α} (hfg : ∀ x, Alike (f x) (g x))
    (h : ∀ x log, g (x.withLog log) = g x) : Alike (get >>= f) (get >>= g) := by
  intro x log
  simp only [run_bind, run_get, h]
  exact hfg x x log

end Alike

theorem deaf_commonVariables (s : Setup) : Deaf (commonVariables s) :=
  .get_bind (fun _ => .bind (.lift _) fun _ => .bind (.modify fun _ _ => rfl) fun _ => .pure _)
    fun _ _ => rfl

theorem deaf_evaluateRule (s : Setup) (id : Nat) (name rule value : Value) :
    Deaf (evaluateRule s id name rule value) :=
  .bind (deaf_commonVariables s) fun _ =>
    .get_bind (fun _ => .bind (.modify fun _ _ => rfl) fun _ => .lift _) fun _ _ => rfl

theorem deaf_evaluateFor (s : Setup) (id : Nat) (name rule : Value) :
    Deaf (evaluateFor s id name rule) :=
  .get_bind (fun _ => deaf_evaluateRule s id name rule _) fun _ _ => rfl

theorem bucketText_withLog (x : Extraction) (log : List LogRecord) (v : Value) :
    bucketText (x.withLog log).store v = bucketText x.store v := by
  have hnow : (x.withLog log).store.current v = x.store.current v := by
    have hread : (x.withLog log).store.refresh v = x.store.refresh v :=
      x.store.refresh_withLog log v
    unfold Store.current
    rw [hread]
    rfl
  cases v with
  | none => rfl
  | _ => rw [bucketText, bucketText, hnow] <;> exact nofun

theorem deaf_addToBuckets (entries : Entries) : Deaf (addToBuckets entries) := by
  induction entries with
  | nil => exact .pure ()
  | cons e rest ih =>
    obtain ⟨bucket, v⟩ := e
    intro x log
    simp only [addToBuckets_cons]
    have hb : bucketsWith (x.withLog log).store (x.withLog log).buckets bucket v =
        bucketsWith x.store x.buckets bucket v := by
      rw [bucketsWith, bucketsWith, bucketText_withLog]
      rfl
    rw [hb]
    cases bucketsWith x.store x.buckets bucket v with
    | error f => exact ⟨log, rfl⟩
    | ok buckets => exact ih { x with buckets := buckets } log

theorem deaf_addFulltext (s : Setup) (id : Nat) (name extractor : Value) :
    Deaf (addFulltext s id name extractor) := by
  unfold addFulltext
  split
  · exact .pure ()
  · refine .bind (deaf_evaluateFor s id name extractor) fun result => ?_
    split
    · exact deaf_addToBuckets _
    · exact .get_bind (fun _ => .throw _) fun _ _ => rfl

/-! ## Ways to deal with unindexed properties -/

/-- The same way, or ways that do no more than note. -/
def Unindexed.Notes (way other : Unindexed) : Prop :=
  way = other ∨ (way ≠ .collect ∧ other ≠ .collect)

section Ways

variable (s : Setup) {way : Unindexed} (hway : s.unindexed.Notes way)
include hway

theorem alike_report (id : Nat) (name : Value) :
    Alike (report s id name) (report { s with unindexed := way } id name) := by
  obtain ⟨settings, evaluator, own⟩ := s
  unfold report
  refine .get_bind (fun _ => .bind (.lift _) fun _ => ?_) fun _ _ => rfl
  cases own with
  | collect =>
    rcases hway with rfl | ⟨hcollect, -⟩
    · exact .modify fun _ _ => rfl
    · exact absurd rfl hcollect
  | _ =>
    intro x log
    cases way with
    | collect => rcases hway with heq | ⟨-, hcollect⟩ <;> contradiction
    | _ => exact ⟨_, rfl⟩

theorem alike_storedEntry (id : Nat) (name : Value) (rule : Rule) :
    Alike (storedEntry s id name rule) (storedEntry { s with unindexed := way } id name rule) := by
  unfold storedEntry
  refine .bind (.liftFault _) fun effective => ?_
  split
  · exact .bind (alike_report s hway id name) fun _ => .pure _
  · split
    · exact .pure _
    · exact .bind (deaf_evaluateFor s id name _) fun _ => .pure _

theorem alike_extractProperty (id : Nat) (fulltext : Bool) (name : Value) (rule : Rule) :
    Alike (extractProperty s id fulltext name rule)
      (extractProperty { s with unindexed := way } id fulltext name rule) := by
  intro x log
  simp only [extractProperty_eq]
  refine Alike.bind (alike_storedEntry s hway id name rule) (fun entry => ?_) x log
  refine .bind ?_ fun _ => .pure _
  unfold fulltextStep
  split
  · exact deaf_addFulltext s id name _
  · exact .pure ()

theorem alike_extractAll (id : Nat) (fulltext : Bool) (ps : List (Value × Rule)) :
    Alike (extractAll s id fulltext ps)
      (extractAll { s with unindexed := way } id fulltext ps) := by
  induction ps with
  | nil => exact .pure []
  | cons p rest ih =>
    exact .bind (alike_extractProperty s hway id fulltext p.1 p.2) fun _ =>
      .bind ih fun _ => .pure _

theorem alike_extract (id : Nat) :
    Alike (extract s id) (extract { s with unindexed := way } id) := by
  refine .get_bind (fun x => ?_) fun _ _ => rfl
  dsimp only
  split
  · exact .pure []
  · split
    · exact .pure []
    · exact alike_extractAll s hway id _ _

/-- What is built of a node does not depend on the log, nor on warnings. -/
theorem alike_build (id : Nat) (target : Option String) :
    Alike (build s id target) (build { s with unindexed := way } id target) := by
  refine .bind (.modify fun _ _ => rfl) fun _ =>
    .bind (alike_extract s hway id) fun stored => ?_
  refine .get_bind (fun x => ?_) fun _ _ => rfl
  cases x.store.node? id with
  | none => exact .throw _
  | some n => exact .bind (.ofExcept _) fun _ => .pure _

end Ways

/-- What is built of a node does not depend on the log. -/
theorem deaf_build (s : Setup) (id : Nat) (target : Option String) : Deaf (build s id target) :=
  alike_build s (.inl rfl) id target

end ContentIndex.Index
