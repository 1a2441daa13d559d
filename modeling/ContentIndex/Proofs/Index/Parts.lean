import ContentIndex.Index.Document
import ContentIndex.Proofs.Index.Turns

/-!
# What an extraction leaves alone

A part of the state that evaluating a rule leaves alone is left alone by a whole extraction. The
buckets are such a part until an extractor has answered; what the repository holds in place is one
under rules that change nothing in place.
-/

namespace ContentIndex.Index

set_option autoImplicit false

/-- A part of the state that is no account of the extraction and that no rule changes. -/
structure LeftAlone {γ : Type} (s : Setup) (part : Extraction → γ) : Prop where
  common : ∀ built, Preserves part (lift (Context.get s.settings.context built))
  evaluator : ∀ rule bindings, Preserves part (lift (s.evaluator rule bindings))
  note : ∀ level message, Preserves part (lift (Eval.note level message))
  account : ∀ (x : Extraction) bindings calls reported,
    part { x with bindings := bindings, calls := calls, reported := reported } = part x

theorem preserves_liftFault {α γ : Type} (part : Extraction → γ) (r : Except Fault α) :
    Preserves part (liftFault r) := by
  cases r with
  | ok v => exact .pure v
  | error f => exact .throw (Error.fault f)

theorem preserves_ofExcept {α γ : Type} (part : Extraction → γ) (r : Except Error α) :
    Preserves part (ofExcept r) := by
  cases r with
  | ok v => exact .pure v
  | error e => exact .throw e

namespace LeftAlone

variable {γ : Type} {s : Setup} {part : Extraction → γ}

theorem commonVariables (h : LeftAlone s part) : Preserves part (commonVariables s) :=
  .bind .get fun _ => .bind (h.common _) fun bindings =>
    .bind (.modify fun x => h.account x (some bindings) x.calls x.reported) fun _ => .pure _

theorem evaluateRule (h : LeftAlone s part) (id : Nat) (name rule value : Value) :
    Preserves part (evaluateRule s id name rule value) :=
  .bind h.commonVariables fun _ => .bind .get fun _ =>
    .bind (.modify fun x => h.account x x.bindings (x.calls ++ [_]) x.reported) fun _ =>
      h.evaluator _ _

theorem evaluateFor (h : LeftAlone s part) (id : Nat) (name rule : Value) :
    Preserves part (evaluateFor s id name rule) :=
  .bind .get fun _ => h.evaluateRule id name rule _

theorem report (h : LeftAlone s part) (id : Nat) (name : Value) :
    Preserves part (report s id name) := by
  unfold Index.report
  refine .bind .get fun _ => .bind (h.note _ _) fun _ => ?_
  split
  · exact .pure ()
  · exact .modify fun x => h.account x x.bindings x.calls (x.reported ++ [name])
  · exact h.note _ _

theorem storedEntry (h : LeftAlone s part) (id : Nat) (name : Value) (rule : Rule) :
    Preserves part (storedEntry s id name rule) := by
  unfold Index.storedEntry
  refine .bind (preserves_liftFault part _) fun effective => ?_
  split
  · exact .bind (h.report id name) fun _ => .pure _
  · split
    · exact .pure _
    · exact .bind (h.evaluateFor id name _) fun _ => .pure _

/-! ## Whole extractions, for parts without the buckets -/

section Buckets

variable (h : LeftAlone s part)
  (hb : ∀ (x : Extraction) buckets, part { x with buckets := buckets } = part x)
include h hb

theorem addFulltext (id : Nat) (name extractor : Value) :
    Preserves part (addFulltext s id name extractor) := by
  unfold Index.addFulltext
  split
  · exact .pure ()
  · refine .bind (h.evaluateFor id name extractor) fun result => ?_
    split
    · intro x
      obtain ⟨buckets, hx⟩ := addToBuckets_buckets _ x
      rw [hx, hb]
    · exact .bind .get fun _ => .throw _

theorem extractProperty (id : Nat) (fulltext : Bool) (name : Value) (rule : Rule) :
    Preserves part (extractProperty s id fulltext name rule) := by
  intro x
  rw [extractProperty_eq]
  refine Preserves.bind (h.storedEntry id name rule) (fun entry => ?_) x
  refine .bind ?_ fun _ => .pure _
  unfold fulltextStep
  split
  · exact h.addFulltext hb id name _
  · exact .pure ()

theorem extractAll (id : Nat) (fulltext : Bool) (ps : List (Value × Rule)) :
    Preserves part (extractAll s id fulltext ps) := by
  induction ps with
  | nil => exact .pure []
  | cons p rest ih =>
    exact .bind (h.extractProperty hb id fulltext p.1 p.2) fun _ => .bind ih fun _ => .pure _

theorem extract (id : Nat) : Preserves part (extract s id) := by
  refine .bind .get fun x => ?_
  dsimp only
  split
  · exact .pure []
  · split
    · exact .pure []
    · exact h.extractAll hb id _ _

theorem build (id : Nat) (target : Option String) : Preserves part (build s id target) := by
  refine .bind (.modify fun x => hb x []) fun _ => .bind (h.extract hb id) fun stored =>
    .bind .get fun x => ?_
  split
  · exact .throw _
  · exact .bind (preserves_ofExcept part _) fun _ => .pure _

end Buckets

end LeftAlone

end ContentIndex.Index
