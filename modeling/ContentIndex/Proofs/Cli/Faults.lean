import ContentIndex.Proofs.Cli.Kept
import ContentIndex.Proofs.Index.Fulltext
import ContentIndex.Proofs.Loading.Documented

/-!
# Faults of a document

Failures of expressions are reported with the expression, and cycles of types and results that are
no buckets have errors of their own. A bare fault that ends the building of a document comes from
the few steps that nothing reports: making the variables of every expression, reading a rule,
writing a value into a bucket, and taking the path of a node apart.
-/

namespace ContentIndex

set_option autoImplicit false

/-! ## Sorting texts -/

namespace Eval

section Sorting

/-- Values of which any two can be ordered. -/
def Ordered (before : Value → Value → Except Fault Bool) (p : Value → Prop) : Prop :=
  ∀ a b, p a → p b → ∃ r, before a b = .ok r

variable {before : Value → Value → Except Fault Bool} {p : Value → Prop} (h : Ordered before p)

include h

theorem exists_mergeRuns {xs ys : List Keyed} (hx : ∀ x ∈ xs, p x.1) (hy : ∀ y ∈ ys, p y.1) :
    ∃ zs, mergeRuns before xs ys = .ok zs ∧ ∀ z ∈ zs, p z.1 := by
  fun_induction mergeRuns before xs ys with
  | case1 ys => exact ⟨ys, rfl, hy⟩
  | case2 xs => exact ⟨xs, rfl, hx⟩
  | case3 x xs y ys ihleft ihright =>
    obtain ⟨hx₁, hxs⟩ := List.forall_mem_cons.1 hx
    obtain ⟨hy₁, hys⟩ := List.forall_mem_cons.1 hy
    obtain ⟨r, hr⟩ := h y.1 x.1 hy₁ hx₁
    simp only [hr, bind, Except.bind]
    cases r with
    | true =>
      obtain ⟨zs, hzs, hz⟩ := ihleft hx hys
      exact ⟨y :: zs, by simp [hzs, pure, Except.pure], List.forall_mem_cons.2 ⟨hy₁, hz⟩⟩
    | false =>
      obtain ⟨zs, hzs, hz⟩ := ihright hxs hy
      exact ⟨x :: zs, by simp [hzs, pure, Except.pure], List.forall_mem_cons.2 ⟨hx₁, hz⟩⟩

theorem exists_mergePairs {runs : List (List Keyed)} (hruns : ∀ run ∈ runs, ∀ x ∈ run, p x.1) :
    ∃ merged, mergePairs before runs = .ok merged ∧ ∀ run ∈ merged, ∀ x ∈ run, p x.1 := by
  fun_induction mergePairs before runs with
  | case1 a b rest ih =>
    obtain ⟨ha, hmore⟩ := List.forall_mem_cons.1 hruns
    obtain ⟨hb, hrest⟩ := List.forall_mem_cons.1 hmore
    obtain ⟨run, hrun, hkeys⟩ := exists_mergeRuns h ha hb
    obtain ⟨merged, hmerged, hall⟩ := ih hrest
    exact ⟨run :: merged, by simp [hrun, hmerged, bind, Except.bind, pure, Except.pure],
      List.forall_mem_cons.2 ⟨hkeys, hall⟩⟩
  | case2 runs => exact ⟨runs, rfl, hruns⟩

theorem exists_mergeAll (fuel : Nat) {runs : List (List Keyed)}
    (hruns : ∀ run ∈ runs, ∀ x ∈ run, p x.1) :
    ∃ sorted, mergeAll before fuel runs = .ok sorted := by
  fun_induction mergeAll before fuel runs with
  | case1 runs => exact ⟨_, rfl⟩
  | case2 => exact ⟨_, rfl⟩
  | case3 => exact ⟨_, rfl⟩
  | case4 fuel runs _ _ ih =>
    obtain ⟨merged, hmerged, hall⟩ := exists_mergePairs h hruns
    obtain ⟨sorted, hsorted⟩ := ih merged hall
    exact ⟨sorted, by simp [hmerged, hsorted, bind, Except.bind]⟩

end Sorting

/-- Texts can always be sorted. -/
theorem exists_sortKeyed {items : List Keyed} (h : ∀ x ∈ items, ∃ s, x.1 = .str s) :
    ∃ sorted, sortKeyed false items = .ok sorted := by
  have hless : Ordered less fun v => ∃ s, v = .str s := by
    rintro _ _ ⟨a, rfl⟩ ⟨b, rfl⟩
    exact ⟨_, rfl⟩
  refine exists_mergeAll hless items.length fun run hrun x hx => ?_
  obtain ⟨y, hy, rfl⟩ := List.mem_map.1 hrun
  obtain rfl := List.mem_singleton.1 hx
  exact h x hy

end Eval

/-! ## Variables of every expression -/

namespace Context

theorem textKeys_build {paths entries : Entries}
    (h : Entries.Each (fun key _ => isTextKey key = true) paths) (hb : build paths = .ok entries) :
    Entries.Each (fun key _ => isTextKey key = true) entries := by
  induction paths generalizing entries with
  | nil =>
    cases hb
    exact List.forall_mem_nil _
  | cons e rest ih =>
    obtain ⟨name, path⟩ := e
    obtain ⟨hname, hrest⟩ := List.forall_mem_cons.1 h
    rw [build] at hb
    split at hb
    · cases hb
    · simp only [bind, Except.bind] at hb
      split at hb
      · cases hb
      split at hb
      · cases hb
      split at hb
      · cases hb
      rename_i others hothers
      cases hb
      exact List.forall_mem_cons.2 ⟨hname, ih hrest hothers⟩

theorem exists_builtMessage {entries : Entries}
    (h : Entries.Each (fun key _ => isTextKey key = true) entries) :
    ∃ message, builtMessage entries = .ok message := by
  have hkeys : ∀ x ∈ entries.map (fun e => (e.1, e.1)), ∃ s, x.1 = .str s := by
    intro x hx
    obtain ⟨e, he, rfl⟩ := List.mem_map.1 hx
    exact exists_of_isTextKey (h e he)
  obtain ⟨sorted, hsorted⟩ := Eval.exists_sortKeyed hkeys
  exact ⟨_, by simp only [builtMessage, hsorted, bind, Except.bind]; rfl⟩

/-- Making the variables fails only where what a path stands for cannot be made. -/
theorem build_of_get {paths : List (String × String)} {built : Option Variables} {st : Store}
    {e : Error} (h : (get paths built st).1 = .error e) :
    build (pathEntries paths) = .error e := by
  cases built with
  | some bindings => cases h
  | none =>
    simp only [get, buildAll, run_bind] at h
    cases hb : build (pathEntries paths) with
    | error e' =>
      rw [hb] at h
      cases h
      rfl
    | ok entries =>
      have hpaths : Entries.Each (fun key _ => isTextKey key = true) (pathEntries paths) := by
        intro e he
        obtain ⟨pair, -, rfl⟩ := List.mem_map.1 he
        rfl
      have hmarked := Entries.Each.withMarks (P := fun key _ => isTextKey key = true)
        marks_isTextKey (textKeys_build hpaths hb) (List.forall_mem_nil _) st.next
      obtain ⟨message, hmessage⟩ := exists_builtMessage hmarked
      rw [hb] at h
      simp only [run_bind, run_get, run_modify, hmessage, Eval.ofFault, Eval.note, run_pure] at h
      cases h

end Context

/-! ## Expressions -/

namespace Eval

theorem exists_fresh (v : Value) (st : Store) :
    ∃ w next, fresh v st = (.ok w, { st with next := next }) ∧
      (w = v ∨ w = (v.withMarks st.next).1) := by
  unfold fresh
  split
  · exact ⟨_, _, rfl, .inr rfl⟩
  · exact ⟨v, st.next, rfl, .inl rfl⟩

theorem exists_freshBindings (bindings : List (String × Value)) (st : Store) :
    ∃ bound st', freshBindings bindings st = (.ok bound, st') := by
  induction bindings generalizing st with
  | nil => exact ⟨[], st, rfl⟩
  | cons binding rest ih =>
    obtain ⟨w, next, hfresh, -⟩ := exists_fresh binding.2 st
    obtain ⟨bound, st', hrest⟩ := ih { st with next := next }
    refine ⟨(binding.1, w) :: bound, st', ?_⟩
    simp only [freshBindings, run_bind, hfresh, hrest, run_pure]

end Eval

theorem reportFault_ne (text : String) (e : Error) (f : Fault) : reportFault text e ≠ .fault f := by
  cases e <;> exact nofun

/-- A fault comes from reading an expression; what is raised while it is evaluated is reported with
the expression. -/
theorem readExpression_of_evaluate {builtins : List Builtin} {text : String}
    {bindings : List (String × Value)} {st : Store} {f : Fault}
    (h : (evaluate builtins text bindings st).1 = .error (.fault f)) :
    readExpression text = .error (.fault f) := by
  unfold evaluate at h
  cases hread : readExpression text with
  | error e =>
    rw [hread] at h
    cases h
    rfl
  | ok e =>
    exfalso
    rw [hread] at h
    obtain ⟨bound, st', hbound⟩ := Eval.exists_freshBindings bindings st
    simp only [run_bind, hbound] at h
    split at h
    · cases h
    · exact reportFault_ne text _ f (Except.error.inj h)

/-! ## Cycles -/

namespace Hierarchy

section Cycles

variable {types : Array NodeType}

def TextNames (types : Array NodeType) : Prop :=
  ∀ t ∈ types, ∃ s, t.name = .ofText s

/-- The names of a cycle are names of types, if those on the way are. -/
theorem exists_of_mem_cycleAt {ancestry : List Name} {name n : Name}
    (h : n ∈ cycleAt ancestry name) : n = name ∨ n ∈ ancestry := by
  rw [cycleAt, List.mem_cons, List.mem_append, List.mem_singleton, List.mem_reverse] at h
  rcases h with hstart | hbelow | hlast
  · cases hfind : ancestry.find? fun n => n.key == name.key with
    | none =>
      rw [hfind] at hstart
      exact .inl hstart
    | some m =>
      rw [hfind] at hstart
      exact .inr (hstart ▸ List.mem_of_find?_eq_some hfind)
  · exact .inr ((List.takeWhile_sublist _).mem hbelow)
  · exact .inl hlast

theorem exists_text_of_run (htypes : TextNames types)
    {w : Walk} {names : List Name} (hw : ∀ n ∈ w.ancestry, ∃ s, n = .ofText s)
    (h : Walk.run types w = .error names) : ∀ n ∈ names, ∃ s, n = .ofText s := by
  fun_induction Walk.run types w with
  | case1 => cases h
  | case2 names ancestry rest ih => exact ih (fun n hn => hw n (List.mem_of_mem_drop hn)) h
  | case3 names ancestry id supers rest _ ih => exact ih hw h
  | case4 names ancestry id supers rest t ht _ =>
    cases h
    intro n hn
    rcases exists_of_mem_cycleAt hn with rfl | hn
    · exact htypes t (Array.mem_of_getElem? ht)
    · exact hw n hn
  | case5 names ancestry id supers rest t ht _ _ ih => exact ih hw h
  | case6 names ancestry id supers rest t ht _ _ ih =>
    exact ih (List.forall_mem_cons.2 ⟨htypes t (Array.mem_of_getElem? ht), hw⟩) h

/-- A cycle of types with texts as names is reported. -/
theorem exists_cycle_of_flatten (htypes : TextNames types)
    {root : Nat} {names : List Name} (h : flatten types root = .error names) :
    ∃ texts, cycleError names = .cycle texts := by
  unfold flatten at h
  split at h
  · cases h
  · rename_i t ht
    have hroot : ∀ n ∈ [t.name], ∃ s, n = .ofText s :=
      List.forall_mem_singleton.2 (htypes t (Array.mem_of_getElem? ht))
    have htexts : ∀ n ∈ names, (n.value.asString?).isSome = true := by
      intro n hn
      obtain ⟨s, rfl⟩ := exists_text_of_run htypes hroot h n hn
      rfl
    obtain ⟨texts, hmap, -⟩ := exists_mapM htexts
    exact ⟨texts, by rw [cycleError, hmap]⟩

end Cycles

end Hierarchy

/-! ## What a step may end with -/

namespace Index

/-- Texts that are evaluated: rules of properties, which are of the given kind, and defaults. -/
def IsRule (settings : Settings) (q : String → Bool) (text : String) : Prop :=
  q text = true ∨ ∃ type, settings.ruleFor type = .ok (some text)

/-- The bare faults that building a document may end with. -/
inductive Unreported (settings : Settings) (q : String → Bool) : Fault → Prop
  | context {f : Fault}
      (h : Context.build (Context.pathEntries settings.context) = .error (.fault f)) :
      Unreported settings q f
  | rule {text : String} {f : Fault} (hrule : IsRule settings q text)
      (h : readExpression text = .error (.fault f)) : Unreported settings q f
  | digits : Unreported settings q Value.exceedsDigits
  | path {v : Value} {f : Fault} (h : Node.pathChars v = .error f) : Unreported settings q f

/-- The repository as it was, but for configurations and what nodes hold, and texts in the
buckets. -/
structure Sound (c : Files × List NodeType × Nat) (x : Extraction) : Prop where
  fixed : x.store.fixed = c
  texts : AllTexts x.buckets

/-- A step keeps the repository and the texts in the buckets, unless it fails; if it fails with a
bare fault, it is one of those given. -/
structure Ends {α : Type} (c : Files × List NodeType × Nat) (F : Fault → Prop) (a : Extract α) :
    Prop where
  keeps : ∀ {x v y}, Sound c x → a x = (.ok v, y) → Sound c y
  fault : ∀ {x f y}, Sound c x → a x = (.error (.fault f), y) → F f

namespace Ends

variable {α β : Type} {c : Files × List NodeType × Nat} {F : Fault → Prop}

theorem pure (v : α) : Ends c F (pure v : Extract α) where
  keeps hx h := by
    cases h
    exact hx
  fault _ h := by cases h

theorem throw {e : Error} (he : ∀ f, e = .fault f → F f) : Ends c F (throw e : Extract α) where
  keeps _ h := by cases h
  fault _ h := by
    cases h
    exact he _ rfl

theorem bind {a : Extract α} {b : α → Extract β} (ha : Ends c F a) (hb : ∀ v, Ends c F (b v)) :
    Ends c F (a >>= b) where
  keeps hx h := by
    rcases run_bind_cases h with ⟨e, -, heq⟩ | ⟨v, z, hrun, hrest⟩
    · cases heq
    · exact (hb v).keeps (ha.keeps hx hrun) hrest
  fault hx h := by
    rcases run_bind_cases h with ⟨e, hrun, heq⟩ | ⟨v, z, hrun, hrest⟩
    · cases heq
      exact ha.fault hx hrun
    · exact (hb v).fault (ha.keeps hx hrun) hrest

/-- What follows a look at the state may use what holds of it. -/
theorem read {b : Extraction → Extract β} (hb : ∀ x, Sound c x → Ends c F (b x)) :
    Ends c F (get >>= b) where
  keeps hx h := (hb _ hx).keeps hx h
  fault hx h := (hb _ hx).fault hx h

theorem modify {f : Extraction → Extraction} (hf : ∀ x, Sound c x → Sound c (f x)) :
    Ends c F (modify f) where
  keeps hx h := by
    cases h
    exact hf _ hx
  fault _ h := by cases h

/-- A step that leaves repository and buckets alone. -/
theorem of_preserves {a : Extract α} (hstore : Preserves (fun x => x.store.fixed) a)
    (hbuckets : Preserves (fun x => x.buckets) a)
    (hfault : ∀ x f, (a x).1 = .error (.fault f) → F f) : Ends c F a where
  keeps {x _ y} hx h := by
    have hs := hstore x
    have hb := hbuckets x
    rw [h] at hs hb
    have hy : y.buckets = x.buckets := hb
    exact ⟨hs.trans hx.fixed, hy ▸ hx.texts⟩
  fault {x f _} _ h := hfault x f (congrArg Prod.fst h)

end Ends

/-! ## Rules -/

section Rules

variable {settings : Settings} {unindexed : Unindexed} {q : String → Bool} {rule : Rule}
  {c : Files × List NodeType × Nat}

/-- A setup with the evaluator of expressions. -/
abbrev evaluating (settings : Settings) (unindexed : Unindexed) : Setup :=
  ⟨settings, RuleEvaluator.standard, unindexed⟩

theorem build_of_commonVariables {s : Setup} {x : Extraction} {e : Error}
    (h : (commonVariables s x).1 = .error e) :
    Context.build (Context.pathEntries s.settings.context) = .error e := by
  simp only [commonVariables, run_bind, run_get] at h
  cases hget : lift (Context.get s.settings.context x.bindings) x with
  | mk r y =>
    rw [hget] at h
    cases r with
    | error e' =>
      cases h
      exact Context.build_of_get (congrArg Prod.fst hget)
    | ok bindings => cases h

theorem unreported_of_evaluateFor {text : String} (hrule : IsRule settings q text) {id : Nat}
    {name : Value} {x : Extraction} {f : Fault}
    (h : (evaluateFor (evaluating settings unindexed) id name (.str text) x).1 =
      .error (.fault f)) : Unreported settings q f := by
  simp only [evaluateFor, evaluateRule, run_bind, run_get] at h
  cases hcommon : commonVariables (evaluating settings unindexed) x with
  | mk r y =>
    rw [hcommon] at h
    cases r with
    | error e =>
      cases h
      exact .context (build_of_commonVariables (congrArg Prod.fst hcommon))
    | ok common => exact .rule hrule (readExpression_of_evaluate h)

theorem ends_evaluateFor {text : String} (hrule : IsRule settings q text) (id : Nat)
    (name : Value) :
    Ends c (Unreported settings q)
      (evaluateFor (evaluating settings unindexed) id name (.str text)) :=
  .of_preserves ((Cli.leftAlone_fixed settings unindexed).evaluateFor id name _)
    ((leftAlone_buckets _).evaluateFor id name _) fun _ _ h => unreported_of_evaluateFor hrule h

/-- A text as a rule, or none at all, where the rules of a property are texts. -/
theorem effectiveRule_of_isTextual (settings : Settings) (h : rule.isTextual q = true) :
    effectiveRule settings rule = .ok .none ∨
      ∃ text, effectiveRule settings rule = .ok (.str text) ∧ IsRule settings q text := by
  simp only [Rule.isTextual, Bool.and_eq_true] at h
  obtain ⟨⟨htype, hindexing⟩, -⟩ := h
  unfold effectiveRule
  cases hi : rule.indexing with
  | none =>
    cases ht : rule.type with
    | none => exact .inl rfl
    | str t =>
      cases hr : (settings.types.lookup t).bind (·.indexing) with
      | none => exact .inl (by simp only [Settings.ruleFor, hr]; rfl)
      | some text =>
        have hfor : settings.ruleFor (.str t) = .ok (some text) := by
          simp only [Settings.ruleFor, hr]
        exact .inr ⟨text, by simp only [hfor]; rfl, .inr ⟨_, hfor⟩⟩
    | _ =>
      rw [ht] at htype
      cases htype
  | str text =>
    rw [hi] at hindexing
    exact .inr ⟨text, rfl, .inl hindexing⟩
  | _ =>
    rw [hi] at hindexing
    cases hindexing

theorem ends_report (s : Setup) (hs : LeftAlone s fun x => x.store.fixed) (id : Nat) (name : Value)
    (F : Fault → Prop) : Ends c F (report s id name) := by
  refine .of_preserves (hs.report id name) ((leftAlone_buckets s).report id name) ?_
  intro x f h
  simp only [report, run_bind, run_get, lift_note] at h
  cases hway : s.unindexed with
  | ignore => rw [hway] at h; cases h
  | collect => rw [hway] at h; cases h
  | warn => rw [hway] at h; cases h

theorem ends_storedEntry (h : rule.isTextual q = true) (id : Nat) (name : Value) :
    Ends c (Unreported settings q)
      (storedEntry (evaluating settings unindexed) id name rule) := by
  have hpure : ∀ {α : Type} (v : Value) (b : Value → Extract α),
      (liftFault (.ok v) >>= b) = b v := fun v b => pure_bind v b
  unfold storedEntry
  rcases effectiveRule_of_isTextual settings h with hnone | ⟨text, htext, hrule⟩
  · rw [hnone, hpure]
    exact .bind (ends_report _ (Cli.leftAlone_fixed settings unindexed) id name _) fun _ => .pure _
  · rw [htext, hpure]
    dsimp only
    split
    · exact .pure _
    · exact .bind (ends_evaluateFor hrule id name) fun _ => .pure _

end Rules

/-! ## Buckets -/

section Buckets

variable {settings : Settings} {unindexed : Unindexed} {q : String → Bool}
  {c : Files × List NodeType × Nat}

/-- A bucket takes every value but an integer with too many digits, and has a text afterwards. -/
theorem bucketsWith_outcome {buckets : Entries} (hb : AllTexts buckets) (st : Store)
    (bucket v : Value) :
    (∃ after, bucketsWith st buckets bucket v = .ok after ∧ AllTexts after) ∨
      bucketsWith st buckets bucket v = .error Value.exceedsDigits := by
  by_cases hw : IsWritten st v
  · obtain ⟨after, hrun, hgain⟩ := bucketsWith_gains hb bucket hw
    exact .inl ⟨after, hrun, hgain.allTexts hb⟩
  · obtain ⟨hne, hunwritten⟩ := Classical.not_imp.1 hw
    have hlong : (st.current v).hasLongInt = true := by
      by_contra hshort
      exact hunwritten ⟨_, by rw [Value.written, if_neg hshort]⟩
    have htext : bucketText st v = .error Value.exceedsDigits := by
      cases v with
      | none => exact absurd rfl hne
      | _ => simp only [bucketText, Value.written, hlong, if_true]
    exact .inr (by rw [bucketsWith, htext]; rfl)

theorem ends_addToBuckets {F : Fault → Prop} (hF : F Value.exceedsDigits) (entries : Entries) :
    Ends c F (addToBuckets entries) := by
  induction entries with
  | nil => exact .pure ()
  | cons e rest ih =>
    obtain ⟨bucket, v⟩ := e
    constructor
    · intro x w y hx h
      rw [addToBuckets_cons] at h
      rcases bucketsWith_outcome hx.texts x.store bucket v with ⟨after, hrun, hafter⟩ | hrun
      · rw [hrun] at h
        exact ih.keeps (x := { x with buckets := after }) ⟨hx.fixed, hafter⟩ h
      · rw [hrun] at h
        cases h
    · intro x f y hx h
      rw [addToBuckets_cons] at h
      rcases bucketsWith_outcome hx.texts x.store bucket v with ⟨after, hrun, hafter⟩ | hrun
      · rw [hrun] at h
        exact ih.fault (x := { x with buckets := after }) ⟨hx.fixed, hafter⟩ h
      · rw [hrun] at h
        cases h
        exact hF

theorem ends_addFulltext {text : String} (hrule : IsRule settings q text) (id : Nat)
    (name : Value) :
    Ends c (Unreported settings q)
      (addFulltext (evaluating settings unindexed) id name (.str text)) := by
  unfold addFulltext
  split
  · exact .pure ()
  · refine .bind (ends_evaluateFor hrule id name) fun result => ?_
    split
    · exact ends_addToBuckets .digits _
    · exact .read fun _ _ => .throw nofun

end Buckets

/-! ## Documents -/

section Documents

variable {settings : Settings} {unindexed : Unindexed} {q : String → Bool}
  {c : Files × List NodeType × Nat}

theorem ends_extractProperty {rule : Rule} (h : rule.isTextual q = true) (id : Nat)
    (fulltext : Bool) (name : Value) :
    Ends c (Unreported settings q)
      (extractProperty (evaluating settings unindexed) id fulltext name rule) := by
  have hhalves := funext (extractProperty_eq (evaluating settings unindexed) id fulltext name rule)
  rw [hhalves]
  refine .bind (ends_storedEntry h id name) fun entry => .bind ?_ fun _ => .pure entry
  have hextractor : rule.extractor.isTextIf q = true := (Bool.and_eq_true_iff.1 h).2
  unfold fulltextStep
  split
  · rename_i hasked
    cases he : rule.extractor with
    | none =>
      rw [he] at hasked
      cases (Bool.and_eq_true_iff.1 hasked).2
    | str text =>
      rw [he] at hextractor
      exact ends_addFulltext (.inl hextractor) id name
    | _ =>
      rw [he] at hextractor
      cases hextractor
  · exact .pure ()

theorem ends_extractAll (id : Nat) (fulltext : Bool) {rules : List (Value × Rule)}
    (h : ∀ e ∈ rules, e.2.isTextual q = true) :
    Ends c (Unreported settings q)
      (extractAll (evaluating settings unindexed) id fulltext rules) := by
  induction rules with
  | nil => exact .pure []
  | cons e rest ih =>
    obtain ⟨hrule, hrest⟩ := List.forall_mem_cons.1 h
    exact .bind (ends_extractProperty hrule id fulltext e.1) fun _ =>
      .bind (ih hrest) fun _ => .pure _

/-- The types of a repository are those that were loaded, but for configurations. -/
theorem Sound.hasTexts (hc : ∀ t ∈ c.2.1, t.HasTexts q) {x : Extraction} (hx : Sound c x)
    {t : NodeType} (ht : t ∈ x.store.types) : t.HasTexts q := by
  have hmem : { t with configuration := [] } ∈ c.2.1 := by
    rw [← hx.fixed]
    exact List.mem_map_of_mem (Array.mem_toList_iff.2 ht)
  exact ⟨(hc _ hmem).name, (hc _ hmem).rules⟩

theorem ends_extract (hc : ∀ t ∈ c.2.1, t.HasTexts q) (id : Nat) :
    Ends c (Unreported settings q) (extract (evaluating settings unindexed) id) := by
  refine .read fun x hx => ?_
  dsimp only
  split
  · exact .pure []
  · split
    · exact .pure []
    · rename_i t ht
      exact ends_extractAll id _ (hx.hasTexts hc (Array.mem_of_getElem? ht)).rules

/-- Of what a node says of itself only its path can be at fault. -/
theorem pathChars_of_withNodeData {st : Store} (hst : Hierarchy.TextNames st.types) {n : Node}
    {stored : Entries} {f : Fault} (h : withNodeData st n stored = .error (.fault f)) :
    Node.pathChars n.path = .error f := by
  cases hpath : Node.pathChars n.path with
  | error f' =>
    have hancestors : ancestorPaths n = .error f' := by
      simp only [ancestorPaths, Node.parentPath, hpath]
      rfl
    simp only [withNodeData, hancestors] at h
    cases h
    rfl
  | ok cs =>
    exfalso
    obtain ⟨v, hancestors⟩ : ∃ v, ancestorPaths n = .ok v := by
      simp only [ancestorPaths, Node.parentPath, hpath, Except.map, bind, Except.bind]
      cases NodePath.parent? cs with
      | none => exact ⟨_, rfl⟩
      | some parent =>
        have hprefixes : ∃ v, Indexing.pathPrefixes (.chars parent) = .ok v := by
          unfold Indexing.pathPrefixes
          split
          · exact ⟨_, rfl⟩
          · exact ⟨_, rfl⟩
        exact hprefixes
    simp only [withNodeData, hancestors, Indexing.typeNames, Store.typeValue] at h
    cases hflat : Hierarchy.flatten st.types n.type with
    | ok names =>
      rw [hflat] at h
      cases h
    | error names =>
      obtain ⟨texts, hcycle⟩ := Hierarchy.exists_cycle_of_flatten hst hflat
      rw [hflat] at h
      dsimp only at h
      rw [hcycle] at h
      cases h

theorem ends_build (hc : ∀ t ∈ c.2.1, t.HasTexts q) {id : Nat} (hid : id < c.2.2) :
    Ends c (Unreported settings q) (build (evaluating settings unindexed) id none) := by
  have hempty : AllTexts [] := nofun
  refine .bind (.modify fun x hx => ⟨hx.fixed, hempty⟩) fun _ => ?_
  refine .bind (ends_extract hc id) fun stored => .read fun x hx => ?_
  have hsize : id < x.store.nodes.size := by
    rw [← hx.fixed] at hid
    exact hid
  have hnode : x.store.node? id = some x.store.nodes[id] := Array.getElem?_eq_getElem hsize
  simp only [hnode]
  have hnames : Hierarchy.TextNames x.store.types := fun t ht => (hx.hasTexts hc ht).name
  cases hdata : withNodeData x.store x.store.nodes[id] stored with
  | ok properties => exact .bind (.pure properties) fun _ => .pure _
  | error e =>
    refine .bind (.throw fun f hf => ?_) fun _ => .pure _
    subst hf
    exact .path (pathChars_of_withNodeData hnames hdata)

end Documents

end Index

/-! ## All documents -/

namespace Cli

open Index

theorem ends_buildAll {settings : Settings} {unindexed : Unindexed} {q : String → Bool}
    {c : Files × List NodeType × Nat} (hc : ∀ t ∈ c.2.1, t.HasTexts q) {nodes : List Nat}
    (hnodes : ∀ id ∈ nodes, id < c.2.2) :
    Ends c (Unreported settings q) (buildAll (evaluating settings unindexed) nodes) := by
  induction nodes with
  | nil => exact .pure []
  | cons id rest ih =>
    obtain ⟨hid, hrest⟩ := List.forall_mem_cons.1 hnodes
    exact .bind (ends_build hc hid) fun _ => .bind (ih hrest) fun _ => .pure _

end Cli

end ContentIndex
