import ContentIndex.Node
import ContentIndex.Proofs.Index.Turns

/-!
# Rules and their order

The properties of a type are gone through in order. For each of them the evaluator is asked for the
rule that holds, and with fulltext for the extractor; the rule alone decides whether the property is
stored, reported or left out. The first failure ends the extraction: nothing after it is asked or
reported.
-/

namespace ContentIndex

set_option autoImplicit false

theorem NodeType.isFulltextEnabled_iff (t : NodeType) :
    t.isFulltextEnabled = true ↔ t.config? "search.fulltext.enable" = some (.bool true) := by
  unfold NodeType.isFulltextEnabled
  split
  · rename_i b hb
    rw [hb]
    simp
  · rename_i hne
    constructor
    · exact nofun
    · exact fun h => absurd h (hne true)

namespace Index

/-- The rule that holds for a property: its own unless that is null, or else the default of its
type, null where there is none. -/
def effective (settings : Settings) (rule : Rule) : Value :=
  match rule.indexing, rule.type with
  | .none, .str type => (((settings.types.lookup type).bind (·.indexing)).map Value.str).getD .none
  | .none, _ => .none
  | own, _ => own

/-- Whether a default can be looked up for the type of a property. -/
def isTyped (rule : Rule) : Bool :=
  rule.type.key?.isSome

/-- What an extraction goes by. -/
structure Inquiry where
  settings : Settings
  answer : Value → Context.Variables → Except Error Value
  fulltext : Bool
  /-- The variables that the rules for a property see. -/
  scope : Value → Context.Variables

namespace Inquiry

variable (q : Inquiry)

def asked (name rule : Value) : List RuleCall :=
  if isAsked rule then [⟨rule, q.scope name⟩] else []

def ruleCalls (p : Value × Rule) : List RuleCall :=
  q.asked p.1 (effective q.settings p.2)

def extractorCalls (p : Value × Rule) : List RuleCall :=
  if q.fulltext then q.asked p.1 p.2.extractor else []

/-- What the evaluator is asked for a property: first its rule, then its extractor. -/
def calls (p : Value × Rule) : List RuleCall :=
  q.ruleCalls p ++ q.extractorCalls p

def answerTo (c : RuleCall) : Except Error Value :=
  q.answer c.rule c.bindings

/-- The entry that is stored for a property, if there is one. -/
def stored? (p : Value × Rule) : Option (Value × Value) :=
  if isAsked (effective q.settings p.2) then
    (q.answer (effective q.settings p.2) (q.scope p.1)).toOption.map fun v => (p.1, v)
  else none

/-- Whether a property has no rule at all. -/
def isReported (p : Value × Rule) : Bool :=
  match effective q.settings p.2 with
  | .none => isTyped p.2
  | _ => false

def reports (ps : List (Value × Rule)) : List Value :=
  (ps.filter q.isReported).map (·.1)

def Answers (c : RuleCall) : Prop :=
  ∃ v, q.answerTo c = .ok v

/-- Nothing ends the extraction at a property. -/
structure Passes (p : Value × Rule) : Prop where
  typed : p.2.indexing = .none → isTyped p.2 = true
  answers : ∀ c ∈ q.calls p, q.Answers c
  dictionary : ∀ c ∈ q.extractorCalls p, ∃ entries mark, q.answerTo c = .ok (.dict entries mark)

/-- What ends the extraction at a property, after which of its calls, and with which error: a type
that no default can be looked up for, the first call that fails, an extractor that gives no
dictionary, or one with a value that has no text. -/
inductive Ends (path : Value) (p : Value × Rule) : List RuleCall → Error → Prop where
  | untyped : p.2.indexing = .none → isTyped p.2 = false →
      Ends path p [] (.fault (.wrongType ("unhashable type: '" ++ p.2.type.typeName ++ "'")))
  | failed {done rest : List RuleCall} {c : RuleCall} {e : Error} :
      q.calls p = done ++ c :: rest → (∀ d ∈ done, q.Answers d) → q.answerTo c = .error e →
      Ends path p (done ++ [c]) e
  | other {c : RuleCall} {v : Value} : q.extractorCalls p = [c] →
      (∀ d ∈ q.calls p, q.Answers d) → q.answerTo c = .ok v → v.entries? = none →
      Ends path p (q.calls p) (.invalidFulltext p.1 path p.2.extractor)
  | textless {c : RuleCall} {entries : Entries} {mark : Nat} {x y : Extraction} {e : Error} :
      q.extractorCalls p = [c] → (∀ d ∈ q.calls p, q.Answers d) →
      q.answerTo c = .ok (.dict entries mark) → addToBuckets entries x = (.error e, y) →
      Ends path p (q.calls p) e

/-- How an extraction of properties ends, and what it did until then: all properties pass, or one
of them ends it. -/
inductive Outcome (s : Setup) (common : Context.Variables) (path : Value)
    (ps : List (Value × Rule)) (x : Extraction) : Except Error Entries → Extraction → Prop where
  | complete {y : Extraction} : (∀ p ∈ ps, q.Passes p) →
      Passed s common (ps.flatMap q.calls) (q.reports ps) x y →
      Outcome s common path ps x (.ok (ps.filterMap q.stored?)) y
  | ended {done rest : List (Value × Rule)} {p : Value × Rule} {calls : List RuleCall} {e : Error}
      {y : Extraction} : ps = done ++ p :: rest → (∀ d ∈ done, q.Passes d) →
      q.Ends path p calls e →
      Passed s common (done.flatMap q.calls ++ calls) (q.reports (done ++ [p])) x y →
      Outcome s common path ps x (.error e) y

/-- The inquiry is about the properties of a node of the store. -/
structure About (s : Setup) (common : Context.Variables) (st : Store) (id : Nat) : Prop where
  settings : q.settings = s.settings
  evaluator : s.evaluator = .ofFunction q.answer
  scope : q.scope = variablesFor common st id

end Inquiry

/-! ## Rules -/

theorem effectiveRule_typed {settings : Settings} {rule : Rule}
    (h : rule.indexing = .none → isTyped rule = true) :
    effectiveRule settings rule = .ok (effective settings rule) := by
  obtain ⟨type, indexing, extractor⟩ := rule
  cases indexing with
  | none =>
    obtain ⟨key, hk⟩ := Option.isSome_iff_exists.1 (h rfl)
    cases type with
    | str t => cases settings.types.lookup t <;> rfl
    | _ => simp_all [effectiveRule, effective, Settings.ruleFor, Except.map]
  | _ => rfl

theorem effectiveRule_untyped {settings : Settings} {rule : Rule} (hi : rule.indexing = .none)
    (ht : isTyped rule = false) : effectiveRule settings rule =
      .error (.wrongType ("unhashable type: '" ++ rule.type.typeName ++ "'")) := by
  obtain ⟨type, indexing, extractor⟩ := rule
  subst hi
  have hk : type.key? = none := by simpa [isTyped] using ht
  cases type with
  | none => cases ht
  | str t => cases ht
  | _ => simp_all [effectiveRule, Settings.ruleFor, Except.map]

theorem indexing_of_effective {settings : Settings} {rule : Rule}
    (h : effective settings rule = .none) : rule.indexing = .none := by
  obtain ⟨type, indexing, extractor⟩ := rule
  cases indexing with
  | none => rfl
  | _ => cases h

namespace Inquiry

variable {q : Inquiry} {s : Setup} {common : Context.Variables} {x y : Extraction} {id : Nat}

theorem asked_of_isAsked {name rule : Value} (h : isAsked rule = true) :
    q.asked name rule = [⟨rule, q.scope name⟩] :=
  if_pos h

theorem About.of_passed {calls : List RuleCall} {names : List Value}
    (h : q.About s common x.store id) (hp : Passed s common calls names x y) :
    q.About s common y.store id :=
  ⟨h.settings, h.evaluator, by rw [h.scope, hp.variablesFor_eq]⟩

theorem evaluateFor_turn (hq : q.About s common x.store id) (h : Ready s common x) (name : Value)
    {rule : Value} (ha : isAsked rule = true) :
    ∃ y, evaluateFor s id name rule x = (q.answer rule (q.scope name), y) ∧
      Passed s common (q.asked name rule) [] x y := by
  rw [asked_of_isAsked ha, hq.scope]
  exact evaluateFor_passed hq.evaluator h id name rule

theorem isReported_of_ne {p : Value × Rule} (h : effective q.settings p.2 ≠ .none) :
    q.isReported p = false := by
  unfold isReported
  cases he : effective q.settings p.2 with
  | none => exact absurd he h
  | _ => rfl

theorem isReported_of_untyped {p : Value × Rule} (h : isTyped p.2 = false) :
    q.isReported p = false := by
  unfold isReported
  rw [h]
  split <;> rfl

theorem reports_of_not {p : Value × Rule} (h : q.isReported p = false) : q.reports [p] = [] := by
  simp [reports, h]

theorem reports_append (ps others : List (Value × Rule)) :
    q.reports (ps ++ others) = q.reports ps ++ q.reports others := by
  simp [reports]

/-! ## The turn of one property -/

theorem storedEntry_of_ne {name v : Value} {rule : Rule}
    (he : effectiveRule s.settings rule = .ok v) (hn : v ≠ .none) :
    storedEntry s id name rule x =
      (if isEmptyRule v then pure none
        else evaluateFor s id name v >>= fun w => pure (some (name, w)) : Extract _) x := by
  simp only [storedEntry, run_bind, he, liftFault, run_pure]

/-- The half of a turn in which a property is stored or reported. -/
theorem storedEntry_turn (hq : q.About s common x.store id) (h : Ready s common x)
    {p : Value × Rule} (ht : p.2.indexing = .none → isTyped p.2 = true) :
    ∃ r y, storedEntry s id p.1 p.2 x = (r, y) ∧
      Passed s common (q.ruleCalls p) (q.reports [p]) x y ∧
      ((r = .ok (q.stored? p) ∧ ∀ c ∈ q.ruleCalls p, q.Answers c) ∨
        ∃ c e, q.ruleCalls p = [c] ∧ q.answerTo c = .error e ∧ r = .error e) := by
  have he : effectiveRule s.settings p.2 = .ok (effective q.settings p.2) := by
    rw [hq.settings]
    exact effectiveRule_typed ht
  unfold ruleCalls
  rcases rule_cases (effective q.settings p.2) with hn | hn | ⟨ha, hb, hn⟩
  · obtain ⟨y, hy, hp⟩ := report_passed h id p.1
    have hr : q.reports [p] = [p.1] := by
      simp [reports, isReported, hn, ht (indexing_of_effective hn)]
    refine ⟨.ok none, y, ?_, ?_, .inl ⟨?_, ?_⟩⟩
    · simp only [storedEntry, run_bind, he, hn, liftFault, run_pure, hy]
    · rw [hn, hr]
      exact hp
    · simp [stored?, hn, isAsked]
    · simp [asked, hn, isAsked]
  · have hne : effective q.settings p.2 ≠ .none := by simp [hn]
    refine ⟨.ok none, x, ?_, ?_, .inl ⟨?_, ?_⟩⟩
    · rw [storedEntry_of_ne he hne, hn]
      rfl
    · rw [reports_of_not (isReported_of_ne hne), hn]
      exact .refl h
    · simp [stored?, hn, isAsked]
    · simp [asked, hn, isAsked]
  · obtain ⟨y, hy, hp⟩ := evaluateFor_turn hq h p.1 ha
    rw [storedEntry_of_ne he hn, reports_of_not (isReported_of_ne hn)]
    simp only [hb, Bool.false_eq_true, if_false, run_bind, hy]
    cases hv : q.answer (effective q.settings p.2) (q.scope p.1) with
    | ok v =>
      refine ⟨.ok (some (p.1, v)), y, rfl, hp, .inl ⟨?_, ?_⟩⟩
      · simp [stored?, ha, hv, Except.toOption]
      · rw [asked_of_isAsked ha]
        simpa [Answers, answerTo] using ⟨v, hv⟩
    | error e => exact ⟨.error e, y, rfl, hp, .inr ⟨_, e, asked_of_isAsked ha, hv, rfl⟩⟩

theorem addFulltext_turn (hq : q.About s common x.store id) (h : Ready s common x)
    {p : Value × Rule} {c : RuleCall} (hc : q.extractorCalls p = [c])
    (ha : isAsked p.2.extractor = true) (hcall : c = ⟨p.2.extractor, q.scope p.1⟩) :
    ∃ r y, addFulltext s id p.1 p.2.extractor x = (r, y) ∧
      Passed s common (q.extractorCalls p) [] x y ∧
      ((∃ entries mark, r = .ok () ∧ q.answerTo c = .ok (.dict entries mark)) ∨
        ∃ e, r = .error e ∧ (q.answerTo c = .error e ∨ (q.Answers c ∧
          ((∀ d ∈ q.calls p, q.Answers d) → q.Ends (pathOf x.store id) p (q.calls p) e)))) := by
  obtain ⟨y, hy, hp⟩ := evaluateFor_turn hq h p.1 ha
  rw [asked_of_isAsked ha, ← hcall, ← hc] at hp
  have hans : q.answerTo c = q.answer p.2.extractor (q.scope p.1) := by rw [hcall]; rfl
  rw [← hans] at hy
  simp only [addFulltext, isEmptyRule_of_asked ha, Bool.false_eq_true, if_false, run_bind, hy]
  cases hv : q.answerTo c with
  | error e => exact ⟨.error e, y, rfl, hp, .inr ⟨e, rfl, .inl rfl⟩⟩
  | ok v =>
    cases hd : v.entries? with
    | none =>
      refine ⟨.error (.invalidFulltext p.1 (pathOf y.store id) p.2.extractor), y, ?_, hp, ?_⟩
      · simp only [hd, run_bind, run_get, run_throw]
      · rw [hp.pathOf_eq]
        exact .inr ⟨_, rfl, .inr ⟨⟨v, hv⟩, fun hall => .other hc hall hv hd⟩⟩
    | some entries =>
      obtain ⟨mark, rfl⟩ : ∃ mark, v = .dict entries mark := by
        cases v with
        | dict entries' mark => cases hd; exact ⟨mark, rfl⟩
        | _ => cases hd
      obtain ⟨buckets, hadd⟩ := addToBuckets_buckets entries y
      cases hr : addToBuckets entries y with
      | mk r z =>
        have hz : z = { y with buckets := buckets } := by rw [← hadd, hr]
        refine ⟨r, z, hr, hz ▸ hp.withBuckets buckets, ?_⟩
        cases r with
        | ok u => exact .inl ⟨entries, mark, rfl, rfl⟩
        | error e =>
          exact .inr ⟨e, rfl, .inr ⟨⟨_, hv⟩, fun hall => .textless hc hall hv hr⟩⟩

theorem fulltextStep_turn (hq : q.About s common x.store id) (h : Ready s common x)
    (p : Value × Rule) :
    ∃ r y, fulltextStep s id q.fulltext p.1 p.2.extractor x = (r, y) ∧
      Passed s common (q.extractorCalls p) [] x y ∧
      ((r = .ok () ∧ ∀ c ∈ q.extractorCalls p,
          ∃ entries mark, q.answerTo c = .ok (.dict entries mark)) ∨
        ∃ c e, q.extractorCalls p = [c] ∧ r = .error e ∧
          (q.answerTo c = .error e ∨ (q.Answers c ∧ ((∀ d ∈ q.calls p, q.Answers d) →
            q.Ends (pathOf x.store id) p (q.calls p) e)))) := by
  cases hb : q.fulltext && isAsked p.2.extractor with
  | false =>
    have hc : q.extractorCalls p = [] := by
      rcases Bool.and_eq_false_iff.1 hb with hf | ha
      · simp [extractorCalls, hf]
      · simp [extractorCalls, asked, ha]
    rw [fulltextStep, hb, hc]
    exact ⟨.ok (), x, rfl, .refl h, .inl ⟨rfl, List.forall_mem_nil _⟩⟩
  | true =>
    obtain ⟨hf, ha⟩ := Bool.and_eq_true_iff.1 hb
    have hc : q.extractorCalls p = [⟨p.2.extractor, q.scope p.1⟩] := by
      rw [extractorCalls, if_pos hf, asked_of_isAsked ha]
    obtain ⟨r, y, hy, hp, hr⟩ := addFulltext_turn hq h hc ha rfl
    refine ⟨r, y, ?_, hp, ?_⟩
    · rw [fulltextStep, if_pos hb]
      exact hy
    · rcases hr with ⟨entries, mark, rfl, hd⟩ | ⟨e, rfl, he⟩
      · refine .inl ⟨rfl, ?_⟩
        rw [hc]
        simpa using ⟨entries, mark, hd⟩
      · exact .inr ⟨_, e, hc, rfl, he⟩

/-- A property whose type cannot be looked up ends the extraction before anything is asked. -/
theorem extractProperty_untyped (q : Inquiry) (id : Nat) (h : Ready s common x)
    {p : Value × Rule} (hi : p.2.indexing = .none) (ht : isTyped p.2 = false) :
    ∃ e, extractProperty s id q.fulltext p.1 p.2 x = (.error e, x) ∧
      q.Ends (pathOf x.store id) p [] e ∧ Passed s common [] (q.reports [p]) x x := by
  refine ⟨_, ?_, .untyped hi ht, ?_⟩
  · rw [extractProperty_eq]
    simp only [storedEntry, run_bind, effectiveRule_untyped hi ht, liftFault, run_throw]
  · rw [reports_of_not (isReported_of_untyped ht)]
    exact .refl h

/-- The turn of a property: it passes, or it ends the extraction. -/
theorem extractProperty_turn (hq : q.About s common x.store id) (h : Ready s common x)
    (p : Value × Rule) :
    ∃ r y, extractProperty s id q.fulltext p.1 p.2 x = (r, y) ∧
      ((r = .ok (q.stored? p) ∧ q.Passes p ∧ Passed s common (q.calls p) (q.reports [p]) x y) ∨
        ∃ calls e, r = .error e ∧ q.Ends (pathOf x.store id) p calls e ∧
          Passed s common calls (q.reports [p]) x y) := by
  by_cases ht : p.2.indexing = .none → isTyped p.2 = true
  · rw [extractProperty_eq]
    obtain ⟨r, y, hy, hp, ⟨rfl, hans⟩ | ⟨c, e, hc, he, rfl⟩⟩ := storedEntry_turn hq h ht
    · obtain ⟨r, z, hz, hp', hr⟩ := fulltextStep_turn (hq.of_passed hp) hp.ready p
      have hall : Passed s common (q.calls p) (q.reports [p]) x z := by
        have ht := hp.trans hp'
        rwa [List.append_nil] at ht
      have hrun : (storedEntry s id p.1 p.2 >>= fun entry =>
          fulltextStep s id q.fulltext p.1 p.2.extractor >>= fun _ => pure entry : Extract _) x =
          (r.map fun _ => q.stored? p, z) := by
        simp only [run_bind, hy, hz]
        cases r <;> rfl
      refine ⟨_, z, hrun, ?_⟩
      rcases hr with ⟨rfl, hd⟩ | ⟨c, e, hc, rfl, he | ⟨hc', hends⟩⟩
      · refine .inl ⟨rfl, ⟨ht, ?_, hd⟩, hall⟩
        intro c hc
        rcases List.mem_append.1 hc with hc | hc
        · exact hans c hc
        · obtain ⟨entries, mark, hv⟩ := hd c hc
          exact ⟨_, hv⟩
      · have hcalls : q.calls p = q.ruleCalls p ++ [c] := by rw [calls, hc]
        exact .inr ⟨_, e, rfl, .failed hcalls hans he, hcalls ▸ hall⟩
      · refine .inr ⟨_, e, rfl, ?_, hall⟩
        rw [← hp.pathOf_eq]
        apply hends
        intro d hd
        rcases List.mem_append.1 hd with hd | hd
        · exact hans d hd
        · rw [hc, List.mem_singleton] at hd
          exact hd ▸ hc'
    · refine ⟨.error e, y, ?_, .inr ⟨[c], e, rfl, ?_, hc ▸ hp⟩⟩
      · simp only [run_bind, hy]
      · have hcalls : q.calls p = [] ++ c :: q.extractorCalls p := by
          rw [calls, hc]
          rfl
        exact .failed hcalls nofun he
  · obtain ⟨hi, ht⟩ := Classical.not_imp.1 ht
    obtain ⟨e, hx, hends, hp⟩ := extractProperty_untyped q id h hi (Bool.eq_false_iff.2 ht)
    exact ⟨.error e, x, hx, .inr ⟨[], e, rfl, hends, hp⟩⟩

/-! ## All properties -/

theorem extractAll_outcome (hq : q.About s common x.store id) (h : Ready s common x)
    (ps : List (Value × Rule)) :
    ∃ r y, extractAll s id q.fulltext ps x = (r, y) ∧
      q.Outcome s common (pathOf x.store id) ps x r y := by
  induction ps generalizing x with
  | nil => exact ⟨.ok [], x, rfl, .complete nofun (.refl h)⟩
  | cons p rest ih =>
    obtain ⟨r, y, hy, ⟨rfl, hpass, hp⟩ | ⟨calls, e, rfl, hends, hp⟩⟩ := extractProperty_turn hq h p
    · obtain ⟨r, z, hz, hout⟩ := ih (hq.of_passed hp) hp.ready
      refine ⟨r.map fun entries => (q.stored? p).toList ++ entries, z, ?_, ?_⟩
      · simp only [extractAll, run_bind, hy, hz]
        cases r <;> rfl
      · rw [hp.pathOf_eq] at hout
        cases hout with
        | complete hall hp' =>
          have hs : (q.stored? p).toList ++ rest.filterMap q.stored? =
              (p :: rest).filterMap q.stored? := by
            cases hst : q.stored? p <;> simp [hst]
          rw [Except.map, hs]
          refine .complete ?_ ?_
          · exact List.forall_mem_cons.2 ⟨hpass, hall⟩
          · rw [List.flatMap_cons, ← List.singleton_append, reports_append]
            exact hp.trans hp'
        | @ended done rest' p' calls e _ hsplit hdone hends hp' =>
          have hsplit' : p :: rest = (p :: done) ++ p' :: rest' := by
            rw [hsplit]
            rfl
          refine .ended hsplit' ?_ hends ?_
          · exact List.forall_mem_cons.2 ⟨hpass, hdone⟩
          · rw [List.flatMap_cons, List.append_assoc, List.cons_append, ← List.singleton_append,
              reports_append]
            exact hp.trans hp'
    · have hsplit : p :: rest = [] ++ p :: rest := rfl
      refine ⟨.error e, y, ?_, .ended hsplit nofun hends hp⟩
      simp only [extractAll, run_bind, hy]

end Inquiry

/-- Extraction goes through the declared properties in order. A property is stored exactly if the
rule that holds for it is neither null nor empty, with what the evaluator answers; it is reported
exactly if no rule holds; the evaluator is asked for the rule, for the extractor where fulltext is
switched on by a true that is no other value, and for nothing else; and the first failure is the
last thing that happens. -/
theorem extract_outcome {s : Setup} {answer : Value → Context.Variables → Except Error Value}
    {common : Context.Variables} {x : Extraction} {id : Nat} {n : Node} {t : NodeType}
    (hs : s.evaluator = .ofFunction answer) (hc : Ready s common x)
    (hn : x.store.node? id = some n) (ht : x.store.type? n.type = some t) :
    ∃ q : Inquiry, q.settings = s.settings ∧ q.answer = answer ∧
      (q.fulltext = true ↔ t.config? "search.fulltext.enable" = some (.bool true)) ∧
      (∀ name, Overlaid common (x.store.nodeValue id) name
        (((name.key?).bind (Entries.find? n.properties)).getD .none) (q.scope name)) ∧
      ∃ r y, extract s id x = (r, y) ∧ q.Outcome s common n.path t.properties x r y := by
  let q : Inquiry := ⟨s.settings, answer, t.isFulltextEnabled, variablesFor common x.store id⟩
  have hq : q.About s common x.store id := ⟨rfl, hs, rfl⟩
  refine ⟨q, rfl, rfl, t.isFulltextEnabled_iff, ?_, ?_⟩
  · intro name
    have hv : heldValue x.store id name =
        ((name.key?).bind (Entries.find? n.properties)).getD .none := by
      simp only [heldValue, Store.propertiesOf, hn, Option.map_some, Option.getD_some]
    rw [← hv]
    exact overlaid_ruleVariables common (x.store.nodeValue id) name _
  · obtain ⟨r, y, hy, hout⟩ := Inquiry.extractAll_outcome hq hc t.properties
    refine ⟨r, y, ?_, ?_⟩
    · simp only [extract, run_bind, run_get, hn, ht]
      exact hy
    · have hpath : pathOf x.store id = n.path := by
        simp only [pathOf, hn, Option.map_some, Option.getD_some]
      rwa [hpath] at hout

/-- The evaluator is asked for the title, the two extractors and the failing rule, and the property
of the unknown type alone is reported. -/
theorem extract_outcome_sample :
    sampleSetup.evaluator = .ofFunction sampleAnswer ∧
      Ready sampleSetup [("Indexing", .helper 16)] sampleStart ∧
      sampleStart.store.node? 0 = some sampleNode ∧
      sampleStart.store.type? sampleNode.type = some sampleType ∧
      ∃ q : Inquiry, q.fulltext = true ∧
        ∃ r y, extract sampleSetup 0 sampleStart = (r, y) ∧
          q.Outcome sampleSetup [("Indexing", .helper 16)] (.str "/n") sampleType.properties
            sampleStart r y ∧
          y.calls.map (fun c => c.rule.asString?) =
            [some "$\x7bvalue\x7d", some "words", some "words", some "broken"] ∧
          y.reported.map Value.asString? = [some "layout"] := by
  have hn : sampleStart.store.node? 0 = some sampleNode := rfl
  have ht : sampleStart.store.type? sampleNode.type = some sampleType := rfl
  obtain ⟨q, -, -, hf, -, r, y, hy, hout⟩ := extract_outcome rfl ready_sampleStart hn ht
  have hc : (extract sampleSetup 0 sampleStart).2.calls.map (fun c => c.rule.asString?) =
      [some "$\x7bvalue\x7d", some "words", some "words", some "broken"] := by decide +kernel
  have hr : (extract sampleSetup 0 sampleStart).2.reported.map Value.asString? =
      [some "layout"] := by decide +kernel
  rw [hy] at hc hr
  exact ⟨rfl, ready_sampleStart, hn, ht, q, hf.2 rfl, r, y, hy, hout, hc, hr⟩

end Index

end ContentIndex
