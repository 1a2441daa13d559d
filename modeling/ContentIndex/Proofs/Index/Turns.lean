import ContentIndex.Index.Extraction
import ContentIndex.Proofs.Run

/-!
# What one property asks for

The parts of an extraction, for an evaluator that answers by the rule and its variables alone. Each
part is told by the rules that it has evaluated and the properties that it has reported; of the
repository it changes nothing but the log and the next mark.
-/

namespace ContentIndex

set_option autoImplicit false

namespace Context

/-- The variables do not depend on the log; building them takes marks and notes one message. -/
theorem get_run (paths : List (String × String)) (built : Option Variables) (st : Store) :
    ∃ r next notes, (∀ n ∈ notes, n.level = LogLevel.debug) ∧
      ∀ log, get paths built { st with log := log } =
        (r, { st with next := next, log := log ++ notes }) := by
  cases built with
  | some bindings =>
    refine ⟨.ok bindings, st.next, [], by simp, fun log => ?_⟩
    simp only [get, run_pure, List.append_nil]
  | none =>
    simp only [get, buildAll, run_bind]
    cases build (pathEntries paths) with
    | error e =>
      refine ⟨.error e, st.next, [], by simp, fun log => ?_⟩
      simp only [run_throw, List.append_nil]
    | ok entries =>
      cases hm : builtMessage (Value.withMarksEntries entries [] st.next).1 with
      | error f =>
        refine ⟨.error (.fault f), (Value.withMarksEntries entries [] st.next).2, [], by simp, ?_⟩
        intro log
        simp only [run_bind, run_get, run_modify, hm, Eval.ofFault, Eval.fault, run_throw,
          List.append_nil]
      | ok message =>
        refine ⟨.ok (variablesOf (Value.withMarksEntries entries [] st.next).1),
          (Value.withMarksEntries entries [] st.next).2, [⟨.debug, message⟩], by simp, ?_⟩
        intro log
        simp only [run_bind, run_get, run_modify, hm, Eval.ofFault, Eval.note, run_pure, Store.note]

end Context

namespace Index

/-- An evaluator whose answer depends on the rule and its variables alone. -/
def RuleEvaluator.ofFunction (answer : Value → Context.Variables → Except Error Value) :
    RuleEvaluator :=
  fun rule bindings st => (answer rule bindings, st)

/-- The variables of every expression are there or can be built, and are these. -/
def Ready (s : Setup) (common : Context.Variables) (x : Extraction) : Prop :=
  (Context.get s.settings.context x.bindings x.store).1 = .ok common

def warnings (log : List LogRecord) : List String :=
  (log.filter (·.level = .warning)).map (·.message)

/-- What a way of treating properties without a rule gets to know of them. -/
def handed (s : Setup) (way : Unindexed) (names : List Value) : List Value :=
  if s.unindexed = way then names else []

/-- Between two states of an extraction these rules were evaluated and these properties reported.
The repository is the same, and so are the variables of every expression. -/
structure Passed (s : Setup) (common : Context.Variables) (calls : List RuleCall)
    (names : List Value) (x y : Extraction) : Prop where
  store : ∃ next log, y.store = { x.store with next := next, log := log }
  ready : Ready s common y
  calls : y.calls = x.calls ++ calls
  reported : y.reported = x.reported ++ handed s .collect names
  warned : warnings y.store.log =
    warnings x.store.log ++ (handed s .warn names).map Indexing.unindexedMessage

section Passed

variable {s : Setup} {common : Context.Variables} {x y z : Extraction}

theorem handed_append (s : Setup) (way : Unindexed) (names others : List Value) :
    handed s way (names ++ others) = handed s way names ++ handed s way others := by
  unfold handed
  split <;> simp

theorem handed_nil (s : Setup) (way : Unindexed) : handed s way [] = [] := by
  unfold handed
  split <;> rfl

theorem warnings_append (log notes : List LogRecord) :
    warnings (log ++ notes) = warnings log ++ warnings notes := by
  simp [warnings]

theorem warnings_of_debug {notes : List LogRecord} (h : ∀ n ∈ notes, n.level = .debug) :
    warnings notes = [] := by
  simp only [warnings, List.map_eq_nil_iff, List.filter_eq_nil_iff, decide_eq_true_eq]
  intro n hn
  rw [h n hn]
  decide

theorem Passed.refl (h : Ready s common x) : Passed s common [] [] x x where
  store := ⟨x.store.next, x.store.log, rfl⟩
  ready := h
  calls := (List.append_nil _).symm
  reported := by rw [handed_nil, List.append_nil]
  warned := by rw [handed_nil, List.map_nil, List.append_nil]

theorem Passed.trans {calls more : List RuleCall} {names others : List Value}
    (h : Passed s common calls names x y) (h' : Passed s common more others y z) :
    Passed s common (calls ++ more) (names ++ others) x z := by
  constructor
  · obtain ⟨next, log, hy⟩ := h.store
    obtain ⟨next', log', hz⟩ := h'.store
    exact ⟨next', log', by rw [hz, hy]⟩
  · exact h'.ready
  · rw [h'.calls, h.calls, List.append_assoc]
  · rw [h'.reported, h.reported, handed_append, List.append_assoc]
  · rw [h'.warned, h.warned, handed_append, List.map_append, List.append_assoc]

/-- The buckets are no part of the account. -/
theorem Passed.withBuckets {calls : List RuleCall} {names : List Value}
    (h : Passed s common calls names x y) (buckets : Entries) :
    Passed s common calls names x { y with buckets := buckets } where
  store := h.store
  ready := h.ready
  calls := h.calls
  reported := h.reported
  warned := h.warned

end Passed

/-! ## The variables of a rule -/

/-- Variables of every expression with those of a property over them. -/
structure Overlaid (common : Context.Variables) (node name value : Value)
    (bindings : Context.Variables) : Prop where
  node : bindings.lookup "node" = some node
  name : bindings.lookup "propertyName" = some name
  value : bindings.lookup "value" = some value
  other : ∀ id, id ∉ ["node", "propertyName", "value"] → bindings.lookup id = common.lookup id

theorem overlaid_ruleVariables (common : Context.Variables) (node name value : Value) :
    Overlaid common node name value (ruleVariables common node name value) := by
  unfold ruleVariables
  constructor
  · rw [Table.lookup_put_of_ne _ _ (by decide), Table.lookup_put_of_ne _ _ (by decide),
      Table.lookup_put_self]
  · rw [Table.lookup_put_of_ne _ _ (by decide), Table.lookup_put_self]
  · rw [Table.lookup_put_self]
  · intro id hid
    simp only [List.mem_cons, List.not_mem_nil, or_false, not_or] at hid
    rw [Table.lookup_put_of_ne _ _ hid.2.2, Table.lookup_put_of_ne _ _ hid.2.1,
      Table.lookup_put_of_ne _ _ hid.1]

/-- What a rule for a property of a node is evaluated with. -/
def variablesFor (common : Context.Variables) (st : Store) (id : Nat) (name : Value) :
    Context.Variables :=
  ruleVariables common (st.nodeValue id) name (heldValue st id name)

section Steps

variable {s : Setup} {common : Context.Variables} {x y : Extraction}
  {answer : Value → Context.Variables → Except Error Value}

theorem Passed.variablesFor_eq {calls : List RuleCall} {names : List Value}
    (h : Passed s common calls names x y) (id : Nat) :
    variablesFor common y.store id = variablesFor common x.store id := by
  obtain ⟨next, log, hy⟩ := h.store
  rw [hy]
  rfl

theorem Passed.pathOf_eq {calls : List RuleCall} {names : List Value}
    (h : Passed s common calls names x y) (id : Nat) : pathOf y.store id = pathOf x.store id := by
  obtain ⟨next, log, hy⟩ := h.store
  rw [hy]
  rfl

theorem commonVariables_passed (h : Ready s common x) :
    ∃ y, commonVariables s x = (.ok common, y) ∧ Passed s common [] [] x y := by
  obtain ⟨r, next, notes, hn, hg⟩ := Context.get_run s.settings.context x.bindings x.store
  have hr : r = .ok common := by
    rw [← h]
    exact (congrArg Prod.fst (hg x.store.log)).symm
  subst hr
  refine ⟨{ x with
    store := { x.store with next := next, log := x.store.log ++ notes }
    bindings := some common }, ?_, ?_⟩
  · simp only [commonVariables, lift, run_bind, run_get, run_modify, run_pure, hg, List.nil_append]
  · constructor
    · exact ⟨next, x.store.log ++ notes, rfl⟩
    · rfl
    · exact (List.append_nil _).symm
    · rw [handed_nil, List.append_nil]
    · rw [handed_nil, List.map_nil, warnings_append, warnings_of_debug hn]

theorem evaluateRule_passed (hs : s.evaluator = .ofFunction answer) (h : Ready s common x)
    (id : Nat) (name rule value : Value) :
    ∃ y, evaluateRule s id name rule value x =
        (answer rule (ruleVariables common (x.store.nodeValue id) name value), y) ∧
      Passed s common [⟨rule, ruleVariables common (x.store.nodeValue id) name value⟩] [] x y := by
  obtain ⟨y, hy, hp⟩ := commonVariables_passed h
  have hv : y.store.nodeValue id = x.store.nodeValue id := by
    obtain ⟨next, log, hst⟩ := hp.store
    rw [hst]
    rfl
  let call : RuleCall := ⟨rule, ruleVariables common (x.store.nodeValue id) name value⟩
  refine ⟨{ y with calls := y.calls ++ [call] }, ?_, ?_⟩
  · simp only [evaluateRule, run_bind, run_get, run_modify, hy, hs, RuleEvaluator.ofFunction, lift,
      hv, call, List.append_nil]
  · exact ⟨hp.store, hp.ready, by rw [hp.calls, List.append_nil], hp.reported, hp.warned⟩

theorem evaluateFor_passed (hs : s.evaluator = .ofFunction answer) (h : Ready s common x)
    (id : Nat) (name rule : Value) :
    ∃ y, evaluateFor s id name rule x = (answer rule (variablesFor common x.store id name), y) ∧
      Passed s common [⟨rule, variablesFor common x.store id name⟩] [] x y := by
  obtain ⟨y, hy, hp⟩ := evaluateRule_passed hs h id name rule (heldValue x.store id name)
  refine ⟨y, ?_, hp⟩
  simp only [evaluateFor, run_bind, run_get]
  exact hy

theorem lift_note (level : LogLevel) (message : String) (x : Extraction) :
    lift (Eval.note level message) x =
      (.ok (), { x with store := x.store.note level message }) := by
  simp only [lift, Eval.note, run_modify, Store.note, List.nil_append]

theorem warnings_note_debug (st : Store) (message : String) :
    warnings (st.note .debug message).log = warnings st.log := by
  simp [warnings, Store.note]

theorem Ready.note (h : Ready s common x) (level : LogLevel) (message : String) :
    Ready s common { x with store := x.store.note level message } := by
  obtain ⟨r, next, notes, -, hg⟩ := Context.get_run s.settings.context x.bindings x.store
  unfold Ready at h ⊢
  rw [← h]
  exact (congrArg Prod.fst (hg _)).trans (congrArg Prod.fst (hg x.store.log)).symm

theorem report_passed (h : Ready s common x) (id : Nat) (name : Value) :
    ∃ y, report s id name x = (.ok (), y) ∧ Passed s common [] [name] x y := by
  have hd := h.note .debug (unindexedNote (pathOf x.store id) name)
  have hw := warnings_note_debug x.store (unindexedNote (pathOf x.store id) name)
  simp only [report, run_bind, run_get, lift_note]
  cases hu : s.unindexed with
  | ignore =>
    refine ⟨_, rfl, ⟨_, _, rfl⟩, hd, (List.append_nil _).symm, ?_, ?_⟩
    · simp [handed, hu]
    · simp [handed, hu, hw]
  | collect =>
    refine ⟨_, rfl, ⟨_, _, rfl⟩, hd, (List.append_nil _).symm, ?_, ?_⟩
    · simp [handed, hu]
    · simp [handed, hu, hw]
  | warn =>
    refine ⟨_, rfl, ⟨_, _, rfl⟩, hd.note _ _, (List.append_nil _).symm, ?_, ?_⟩
    · simp [handed, hu]
    · simp [handed, hu, Store.note, warnings]

/-! ## Buckets -/

/-- What one entry of a dictionary makes of the buckets. -/
def bucketsWith (st : Store) (buckets : Entries) (bucket v : Value) : Except Fault Entries :=
  do addToBucket (withBucket buckets bucket) bucket (← bucketText st v)

theorem addToBuckets_cons (bucket v : Value) (rest : Entries) (x : Extraction) :
    addToBuckets ((bucket, v) :: rest) x =
      match bucketsWith x.store x.buckets bucket v with
      | .ok buckets => addToBuckets rest { x with buckets := buckets }
      | .error f => (.error (.fault f), { x with buckets := withBucket x.buckets bucket }) := by
  simp only [addToBuckets, run_bind, run_modify, run_get, run_set]
  cases h : bucketsWith x.store x.buckets bucket v <;> rw [bucketsWith] at h <;> rw [h] <;> rfl

theorem addToBuckets_buckets (entries : Entries) (x : Extraction) :
    ∃ buckets, (addToBuckets entries x).2 = { x with buckets := buckets } := by
  induction entries generalizing x with
  | nil => exact ⟨x.buckets, rfl⟩
  | cons e rest ih =>
    rw [addToBuckets_cons]
    cases bucketsWith x.store x.buckets e.1 e.2 with
    | error f => exact ⟨withBucket x.buckets e.1, rfl⟩
    | ok buckets =>
      obtain ⟨more, h⟩ := ih { x with buckets := buckets }
      exact ⟨more, h⟩

end Steps

/-! ## The two halves of a turn -/

/-- Whether a rule is one to evaluate, neither null nor empty. -/
def isAsked : Value → Bool
  | .none => false
  | .str s => !s.isEmpty
  | _ => true

theorem rule_cases (v : Value) :
    v = .none ∨ v = .str "" ∨ (isAsked v = true ∧ isEmptyRule v = false ∧ v ≠ .none) := by
  cases v with
  | none => exact .inl rfl
  | str t =>
    by_cases ht : t = ""
    · exact .inr (.inl (by rw [ht]))
    · exact .inr (.inr ⟨by simpa [isAsked] using ht, by simpa [isEmptyRule] using ht, nofun⟩)
  | _ => exact .inr (.inr ⟨rfl, rfl, nofun⟩)

theorem isEmptyRule_of_asked {v : Value} (h : isAsked v = true) : isEmptyRule v = false := by
  rcases rule_cases v with rfl | rfl | ⟨-, hb, -⟩
  · cases h
  · cases h
  · exact hb

/-- The half of a turn in which the extractor adds to the buckets. -/
def fulltextStep (s : Setup) (id : Nat) (fulltext : Bool) (name extractor : Value) :
    Extract Unit :=
  if fulltext && isAsked extractor then addFulltext s id name extractor else pure ()

theorem extractProperty_eq (s : Setup) (id : Nat) (fulltext : Bool) (name : Value) (rule : Rule)
    (x : Extraction) :
    extractProperty s id fulltext name rule x =
      (storedEntry s id name rule >>= fun entry =>
        fulltextStep s id fulltext name rule.extractor >>= fun _ => pure entry : Extract _) x := by
  simp only [extractProperty, fulltextStep, run_bind]
  cases storedEntry s id name rule x with
  | mk r y =>
    cases r with
    | error e => rfl
    | ok entry =>
      cases fulltext with
      | false => rfl
      | true =>
        rcases rule_cases rule.extractor with hn | hn | ⟨ha, hb, hn⟩
        · simp [hn, isAsked, run_pure]
        · simp [hn, isAsked, run_pure, run_bind, addFulltext, isEmptyRule]
        · simp [ha, run_pure, run_bind]

/-! ## A node to look at -/

/-- Properties of a known type, of an unknown one, with the empty rule, with a rule that fails, and
behind that. -/
def sampleType : NodeType :=
  ⟨Name.ofText "Page", [],
    [(.str "search", .dict [(.str "fulltext", .dict [(.str "enable", .bool true)] 0)] 0)],
    [(.str "title", ⟨.str "string", .none, .str "words"⟩),
      (.str "layout", ⟨.str "Layout", .none, .str "words"⟩),
      (.str "secret", ⟨.str "string", .str "", .str ""⟩),
      (.str "body", ⟨.none, .str "broken", .str "words"⟩),
      (.str "late", ⟨.none, .none, .none⟩)], 0⟩

def sampleNode : Node :=
  ⟨.str "n", .str "/n", 0, .str "Page", [(.str "title", .str "Home")], 0⟩

def sampleStart : Extraction :=
  ⟨{ Store.empty (Files.empty []) with types := #[sampleType], nodes := #[sampleNode] },
    none, [], [], []⟩

def sampleAnswer (rule : Value) (bindings : Context.Variables) : Except Error Value :=
  let value := (bindings.lookup "value").getD .none
  match rule with
  | .str "broken" => .error (.fault (.divisionByZero "division by zero"))
  | .str "words" => .ok (.dict [(.str "text", value)] 0)
  | _ => .ok value

def sampleSetup : Setup :=
  ⟨Settings.standard, .ofFunction sampleAnswer, .collect⟩

/-- The variables are the one helper that the settings name. -/
def isIndexingHelper : Except Error Context.Variables → Bool
  | .ok [("Indexing", .helper 16)] => true
  | _ => false

theorem ready_sampleStart : Ready sampleSetup [("Indexing", .helper 16)] sampleStart := by
  have h : isIndexingHelper (Context.get Settings.standard.context none sampleStart.store).1 =
      true := by decide +kernel
  unfold isIndexingHelper at h
  split at h
  · assumption
  · cases h

end Index

end ContentIndex
