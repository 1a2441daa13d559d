import ContentIndex.Context
import ContentIndex.Proofs.Eval.AccessCheck
import ContentIndex.Proofs.Eval.Scopes
import ContentIndex.Proofs.Marks

/-!
# What an expression can see of its context

A name refers to the variable of the context that has it, or else to the built-in function of that
name, if that function may be used. Evaluation depends on what the names of an expression refer to
and on nothing else of the context or of the built-in functions.
-/

namespace ContentIndex

set_option autoImplicit false

/-- What a name refers to. -/
def referent? (builtins : List Builtin) (bindings : List (String × Value)) (id : String) :
    Option Value :=
  (bindings.lookup id).or ((builtins.find? fun b => b.name == id).map .builtin)

/-- A context of values that have been given out, each with the mark that tells which one it is, as
`isContext_variablesOf` finds them, and with nothing in the place of the built-in functions. -/
structure IsContext (bindings : List (String × Value)) : Prop where
  marked : ∀ binding ∈ bindings, binding.2.isUnmarked = false
  plain : bindings.lookup builtinsVariable = none

/-- The variables that entries give which have been given out. -/
theorem isContext_variablesOf {entries : Entries} {next : Nat} (hnext : 0 < next)
    (hplain : (Context.variablesOf (Value.withMarksEntries entries [] next).1).lookup
      builtinsVariable = none) :
    IsContext (Context.variablesOf (Value.withMarksEntries entries [] next).1) where
  marked binding hbinding := by
    obtain ⟨entry, hentry, hbinding⟩ := List.mem_filterMap.1 hbinding
    obtain ⟨name, -, rfl⟩ := Option.map_eq_some_iff.1 hbinding
    exact Value.marked_withMarksEntries hnext (List.forall_mem_nil _) entry hentry
  plain := hplain

section Lookup

/-- Look-up in a table made of the keys that have a value. -/
theorem lookup_filterMap {α : Type} (f : String → Option α) (ids : List String) (id : String) :
    (ids.filterMap fun x => (f x).map fun v => (x, v)).lookup id =
      if id ∈ ids then f id else none := by
  induction ids with
  | nil => rfl
  | cons x rest ih =>
    rw [List.filterMap_cons]
    by_cases hx : id = x
    · subst hx
      cases hf : f id with
      | none => simp [ih, hf]
      | some v => simp
    · cases f x with
      | none => simp [ih, hx]
      | some v => simp [List.lookup_cons, beq_false_of_ne hx, ih, hx]

/-- In the scope of an expression its names stand for what they refer to. -/
theorem lookup_scope (builtins : List Builtin) {bindings : List (String × Value)}
    (hplain : bindings.lookup builtinsVariable = none) {ids : List String} {id : String}
    (hid : id ∈ ids) :
    (Scope.ofValues bindings ++ builtinScope builtins bindings ids).lookup id =
      (referent? builtins bindings id).map .value := by
  have hvalues : (Scope.ofValues bindings).lookup id = (bindings.lookup id).map .value :=
    Table.lookup_map Slot.value bindings id
  have hbuiltins : (builtinScope builtins bindings ids).lookup id =
      (builtins.find? fun b => b.name == id).map fun b => .value (.builtin b) := by
    rw [builtinScope, lookup_filterMap, if_pos (List.mem_eraseDups.2 hid), hplain, builtinSlot?]
  rw [List.lookup_append, hvalues, hbuiltins, referent?]
  cases bindings.lookup id with
  | some v => rfl
  | none => cases builtins.find? fun b => b.name == id <;> rfl

end Lookup

section Reading

variable {text : String} {e : Expr}

theorem parses_of_read (h : readExpression text = .ok e) :
    Parses text e ∧ e.firstOffender? = none := by
  unfold readExpression at h
  dsimp only at h
  split at h
  · cases h
  rename_i hnull
  split at h
  · cases h
  rename_i hparsed
  split at h
  · cases h
  rename_i hchain
  split at h
  · cases h
  rename_i hlevels
  split at h
  · cases h
  rename_i hnone
  split at h
  · cases h
  · cases h
    exact ⟨⟨fun h => hnull (List.contains_iff_mem.2 h), hparsed, Nat.le_of_not_lt hchain,
      Nat.le_of_not_lt hlevels⟩, hnone⟩

/-- An expression that is evaluated has no name that is off limits. -/
theorem not_isForbiddenName (h : e.firstOffender? = none) {id : String} (hid : id ∈ e.names) :
    ¬ IsForbiddenName id := by
  intro hforbidden
  have hlabel := (Expr.firstOffender?_eq_none_iff e).1 h _ (Expr.mem_names_iff.1 hid)
  rw [Label.offender?, if_pos (isBlockedName_iff.2 hforbidden)] at hlabel
  cases hlabel

end Reading

theorem freshBindings_eq {bindings : List (String × Value)}
    (h : ∀ binding ∈ bindings, binding.2.isUnmarked = false) :
    Eval.freshBindings bindings = pure bindings := by
  induction bindings with
  | nil => rfl
  | cons binding rest ih =>
    have hfresh : Eval.fresh binding.2 = pure binding.2 := by
      simp [Eval.fresh, h binding List.mem_cons_self]
    rw [Eval.freshBindings, hfresh, ih fun b hb => h b (List.mem_cons_of_mem binding hb)]
    rfl

section Contexts

variable {text : String} {builtins builtins' : List Builtin}
  {bindings bindings' : List (String × Value)}

/-- Evaluation is the same computation if the names refer to the same. -/
theorem evaluate_congr (h : IsContext bindings) (h' : IsContext bindings')
    (hagree : ∀ e, Parses text e → ∀ id ∈ e.names, ¬ IsForbiddenName id →
      referent? builtins bindings id = referent? builtins' bindings' id) :
    evaluate builtins text bindings = evaluate builtins' text bindings' := by
  unfold evaluate
  cases hread : readExpression text with
  | error error => rfl
  | ok e =>
    obtain ⟨hparses, hnone⟩ := parses_of_read hread
    have hscope : Scope.AgreeFor (Scope.ofValues bindings ++ builtinScope builtins bindings e.names)
        (Scope.ofValues bindings' ++ builtinScope builtins' bindings' e.names) e := fun id hid => by
      rw [lookup_scope builtins h.plain hid, lookup_scope builtins' h'.plain hid,
        hagree e hparses id hid (not_isForbiddenName hnone hid)]
    simp only [freshBindings_eq h.marked, freshBindings_eq h'.marked, pure_bind, Eval.standard,
      Eval.seesNames_interp Eval.steps hscope]

theorem lookup_filter {p : String × Value → Bool} {id : String} (hp : ∀ v, p (id, v) = true) :
    (bindings.filter p).lookup id = bindings.lookup id := by
  induction bindings with
  | nil => rfl
  | cons binding rest ih =>
    obtain ⟨x, v⟩ := binding
    by_cases hx : id = x
    · subst hx
      simp [hp]
    · rw [List.filter_cons, List.lookup_cons, beq_false_of_ne hx]
      split
      · rw [List.lookup_cons, beq_false_of_ne hx]
        exact ih
      · exact ih

theorem IsContext.filter (h : IsContext bindings) (p : String × Value → Bool) :
    IsContext (bindings.filter p) where
  marked binding hbinding := h.marked binding (List.mem_of_mem_filter hbinding)
  plain := List.lookup_eq_none_iff.2 fun binding hbinding =>
    List.lookup_eq_none_iff.1 h.plain binding (List.mem_of_mem_filter hbinding)

/-- What a context holds for the names of an expression, without those that are off limits. -/
def visible (e : Expr) (bindings : List (String × Value)) : List (String × Value) :=
  bindings.filter fun binding => e.names.contains binding.1 && !isBlockedName binding.1

def mentioned (e : Expr) (builtins : List Builtin) : List Builtin :=
  builtins.filter fun b => e.names.contains b.name

theorem referent?_visible {e : Expr} {id : String} (hid : id ∈ e.names)
    (hallowed : ¬ IsForbiddenName id) :
    referent? (mentioned e builtins) (visible e bindings) id = referent? builtins bindings id := by
  have hblocked : isBlockedName id = false :=
    Bool.eq_false_iff.2 fun h => hallowed (isBlockedName_iff.1 h)
  have hvariable : (visible e bindings).lookup id = bindings.lookup id :=
    lookup_filter fun _ => by simp [hid, hblocked]
  have hbuiltin : (mentioned e builtins).find? (fun b => b.name == id) =
      builtins.find? fun b => b.name == id := by
    rw [mentioned, List.find?_filter]
    congr
    funext b
    by_cases hb : b.name = id <;> simp [hb, hid]
  rw [referent?, hvariable, hbuiltin, referent?]

end Contexts

end ContentIndex
