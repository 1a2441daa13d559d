import ContentIndex.Proofs.Entries
import ContentIndex.Proofs.Index.Parts

/-!
# What the buckets gain

Buckets only grow at their end. What a bucket has gained after an extraction, also after one that
failed, are the texts that the results of the extractors name it for, in the order of the
properties, each with a space before it.
-/

namespace ContentIndex.Index

set_option autoImplicit false

/-- What stands in a bucket after texts have been added; without any it may still be absent. -/
def grown (before : Option Value) : List String → Option Value
  | [] => before
  | texts => some (.str ((before.bind Value.asString?).getD "" ++ String.join texts))

/-- Buckets that hold texts only. -/
def AllTexts (buckets : Entries) : Prop :=
  ∀ key v, Entries.find? buckets key = some v → ∃ text, v = .str text

/-- A property whose turn it is, and the state in which the turn starts. -/
structure Turn where
  name : Value
  rule : Rule
  start : Extraction

/-- The turns of properties, up to the first one that fails. -/
def turns (s : Setup) (id : Nat) (fulltext : Bool) :
    List (Value × Rule) → Extraction → List Turn
  | [], _ => []
  | (name, rule) :: rest, x =>
    ⟨name, rule, x⟩ ::
      match extractProperty s id fulltext name rule x with
      | (.ok _, y) => turns s id fulltext rest y
      | (.error _, _) => []

/-- A dictionary that an extractor has given, and the store at that time. -/
structure Extracted where
  entries : Entries
  store : Store

/-- The text for a value: none for null, else the value as it is now, written out. -/
def textOf (st : Store) : Value → String
  | .none => ""
  | v => ((st.current v).written).toOption.getD ""

/-- The value has a text. -/
def IsWritten (st : Store) (v : Value) : Prop :=
  v ≠ .none → ∃ text, (st.current v).written = .ok text

/-- What a bucket gains from the entries that name it. -/
def Extracted.textsFor (c : Extracted) (key : Key) : List String :=
  (c.entries.filter (·.1.hasKey key)).map fun e => " " ++ textOf c.store e.2

/-- The dictionary that a run has ended with, unless it has failed or ended with anything else. -/
def Extracted.ofRun? : Except Error Value × Extraction → Option Extracted
  | (.ok (.dict entries _), y) => some ⟨entries, y.store⟩
  | _ => none

/-- What the extractor of a property gives in its turn, after its rule has been seen to. -/
def Turn.extracted? (s : Setup) (id : Nat) (fulltext : Bool) (t : Turn) : Option Extracted :=
  if fulltext && isAsked t.rule.extractor then
    Extracted.ofRun? ((storedEntry s id t.name t.rule >>= fun _ =>
      evaluateFor s id t.name t.rule.extractor : Extract Value) t.start)
  else none

/-- What the extractors of a node give in an extraction. -/
def extracted (s : Setup) (id : Nat) (x : Extraction) : List Extracted :=
  match (x.store.node? id).bind fun n => x.store.type? n.type with
  | some t =>
    (turns s id t.isFulltextEnabled t.properties x).filterMap
      (Turn.extracted? s id t.isFulltextEnabled)
  | none => []

/-! ## Growing -/

theorem grown_grown {before : Option Value} (texts more : List String) :
    grown (grown before texts) more = grown before (texts ++ more) := by
  cases texts with
  | nil => rfl
  | cons t ts =>
    cases more with
    | nil => simp [grown]
    | cons m ms =>
      have hjoin : String.join (t :: (ts ++ m :: ms)) =
          String.join (t :: ts) ++ String.join (m :: ms) := by
        rw [← String.join_append, List.cons_append]
      simp only [grown, List.cons_append, Option.bind_some, Value.asString?, Option.getD_some,
        hjoin, String.append_assoc]

/-- Every bucket has gained its texts. -/
def Gains (before : Entries) (texts : Key → List String) (after : Entries) : Prop :=
  ∀ key, Entries.find? after key = grown (Entries.find? before key) (texts key)

namespace Gains

variable {before between after : Entries} {texts more : Key → List String}

theorem refl (buckets : Entries) : Gains buckets (fun _ => []) buckets :=
  fun _ => rfl

theorem trans (h : Gains before texts between) (h' : Gains between more after) :
    Gains before (fun key => texts key ++ more key) after := by
  intro key
  rw [h' key, h key, grown_grown]

theorem allTexts (h : Gains before texts after) (hb : AllTexts before) : AllTexts after := by
  intro key v hv
  rw [h key] at hv
  cases htexts : texts key with
  | nil =>
    rw [htexts] at hv
    exact hb key v hv
  | cons t ts =>
    rw [htexts] at hv
    cases hv
    exact ⟨_, rfl⟩

end Gains

/-! ## One dictionary -/

/-- The text in a bucket, none if it is absent. -/
def textIn (buckets : Entries) (bucket : Value) : String :=
  (((bucket.key?).bind (Entries.find? buckets)).bind Value.asString?).getD ""

theorem addToBucket_withBucket {buckets : Entries} (hb : AllTexts buckets) (bucket : Value)
    (text : String) : addToBucket (withBucket buckets bucket) bucket text =
      .ok (Entries.insert (withBucket buckets bucket) bucket
        (.str (textIn buckets bucket ++ (" " ++ text)))) := by
  have hcurrent : (((bucket.key?).bind (Entries.find? (withBucket buckets bucket))).getD
      (.str "")) = .str (textIn buckets bucket) := by
    cases hk : bucket.key? with
    | none => simp [textIn, hk]
    | some key =>
      cases hf : Entries.find? buckets key with
      | none =>
        have hself := Entries.find?_insert_self hk buckets (.str "")
        simp [withBucket, textIn, hk, hf, hself]
      | some v =>
        obtain ⟨old, rfl⟩ := hb key v hf
        simp [withBucket, textIn, hk, hf, Value.asString?]
  unfold addToBucket
  rw [hcurrent]
  rfl

theorem find?_withBucket_of_ne {bucket : Value} {key : Key} (h : bucket.key? ≠ some key)
    (buckets : Entries) :
    Entries.find? (withBucket buckets bucket) key = Entries.find? buckets key := by
  unfold withBucket
  split
  · rfl
  · exact Entries.find?_insert_of_ne h buckets _

theorem bucketText_eq {st : Store} {v : Value} (h : IsWritten st v) :
    bucketText st v = .ok (textOf st v) := by
  cases v with
  | none => rfl
  | _ =>
    obtain ⟨text, ht⟩ := h (by simp)
    simp only [bucketText, textOf, ht, Except.toOption, Option.getD_some]

/-- One entry adds its text to the bucket that it names, and to no other. -/
theorem bucketsWith_gains {buckets : Entries} (hb : AllTexts buckets) (bucket : Value)
    {st : Store} {v : Value} (hv : IsWritten st v) :
    ∃ after, bucketsWith st buckets bucket v = .ok after ∧
      Gains buckets (fun key => if bucket.hasKey key then [" " ++ textOf st v] else []) after := by
  have hrun : bucketsWith st buckets bucket v =
      .ok (Entries.insert (withBucket buckets bucket) bucket
        (.str (textIn buckets bucket ++ (" " ++ textOf st v)))) := by
    rw [bucketsWith, bucketText_eq hv]
    exact addToBucket_withBucket hb bucket (textOf st v)
  refine ⟨_, hrun, ?_⟩
  intro key
  dsimp only
  by_cases hk : bucket.key? = some key
  · have htext : textIn buckets bucket =
        ((Entries.find? buckets key).bind Value.asString?).getD "" := by
      rw [textIn, hk, Option.bind_some]
    rw [Entries.find?_insert_self hk, if_pos (Entries.hasKey_iff.2 hk), htext]
    simp [grown, String.join]
  · have hne : ¬ bucket.hasKey key = true := fun h => hk (Entries.hasKey_iff.1 h)
    rw [Entries.find?_insert_of_ne hk, find?_withBucket_of_ne hk, if_neg hne]
    rfl

/-- All entries of a dictionary are added, in their order. -/
theorem addToBuckets_gains (entries : Entries) {x : Extraction} (hb : AllTexts x.buckets)
    (hw : ∀ e ∈ entries, IsWritten x.store e.2) :
    ∃ after, addToBuckets entries x = (.ok (), { x with buckets := after }) ∧
      Gains x.buckets (Extracted.textsFor ⟨entries, x.store⟩) after := by
  induction entries generalizing x with
  | nil => exact ⟨x.buckets, rfl, .refl _⟩
  | cons e rest ih =>
    obtain ⟨bucket, v⟩ := e
    obtain ⟨between, hstep, hgain⟩ := bucketsWith_gains hb bucket (hw _ List.mem_cons_self)
    obtain ⟨after, hrest, hmore⟩ := ih (x := { x with buckets := between }) (hgain.allTexts hb)
      fun e he => hw e (List.mem_cons_of_mem _ he)
    refine ⟨after, ?_, ?_⟩
    · rw [addToBuckets_cons, hstep]
      exact hrest
    · intro key
      rw [(hgain.trans hmore) key]
      by_cases hk : bucket.hasKey key = true <;> simp [Extracted.textsFor, hk]

/-- Until an extractor has answered nothing touches the buckets. -/
theorem leftAlone_buckets (s : Setup) : LeftAlone s fun x => x.buckets where
  common _ := fun _ => rfl
  evaluator _ _ := fun _ => rfl
  note _ _ := fun _ => rfl
  account _ _ _ _ := rfl

/-! ## The turns -/

variable {s : Setup} {id : Nat} {fulltext : Bool} {x y z : Extraction}

/-- What a bucket gains from what was extracted. -/
def textsOf (cs : List Extracted) (key : Key) : List String :=
  cs.flatMap (·.textsFor key)

theorem gains_none {before after : Entries} (h : after = before) :
    Gains before (textsOf (none : Option Extracted).toList) after :=
  h ▸ .refl after

/-- What one extractor gives is added, and nothing if it fails or gives no dictionary. -/
theorem addFulltext_gains (hb : AllTexts y.buckets) (name : Value) {extractor : Value}
    (ha : isAsked extractor = true)
    (hw : ∀ c ∈ Extracted.ofRun? (evaluateFor s id name extractor y),
      ∀ e ∈ c.entries, IsWritten c.store e.2) :
    Gains y.buckets (textsOf (Extracted.ofRun? (evaluateFor s id name extractor y)).toList)
      (addFulltext s id name extractor y).2.buckets := by
  have hkeep := (leftAlone_buckets s).evaluateFor id name extractor y
  simp only [addFulltext, isEmptyRule_of_asked ha, Bool.false_eq_true, if_false, run_bind]
  cases hrun : evaluateFor s id name extractor y with
  | mk r z =>
    rw [hrun] at hkeep hw
    cases r with
    | error e => exact gains_none hkeep
    | ok v =>
      cases v with
      | dict entries mark =>
        obtain ⟨after, hadd, hgain⟩ := addToBuckets_gains entries (hkeep ▸ hb) (hw _ rfl)
        have hadd' : addToBuckets entries z = (.ok (), { z with buckets := after }) := hadd
        simp only [Value.entries?, hadd']
        intro key
        rw [hgain key, hkeep]
        simp [textsOf, Extracted.ofRun?]
      | _ => exact gains_none hkeep

/-- The buckets gain what the extractor of the property gives, also if the turn fails. -/
theorem extractProperty_gains (hb : AllTexts x.buckets) (name : Value) (rule : Rule)
    (hw : ∀ c ∈ Turn.extracted? s id fulltext ⟨name, rule, x⟩,
      ∀ e ∈ c.entries, IsWritten c.store e.2) :
    Gains x.buckets (textsOf (Turn.extracted? s id fulltext ⟨name, rule, x⟩).toList)
      (extractProperty s id fulltext name rule x).2.buckets := by
  have hkeep := (leftAlone_buckets s).storedEntry id name rule x
  rw [extractProperty_eq]
  simp only [fulltextStep, Turn.extracted?, run_bind] at hw ⊢
  cases hstore : storedEntry s id name rule x with
  | mk r y =>
    rw [hstore] at hkeep hw
    cases hasked : fulltext && isAsked rule.extractor with
    | false =>
      cases r with
      | error e => exact gains_none hkeep
      | ok entry => exact gains_none hkeep
    | true =>
      rw [hasked] at hw
      cases r with
      | error e => exact gains_none hkeep
      | ok entry =>
        have hy : AllTexts y.buckets := hkeep ▸ hb
        have hgain := addFulltext_gains hy name (Bool.and_eq_true_iff.1 hasked).2 hw
        rw [hkeep] at hgain
        cases hadd : addFulltext s id name rule.extractor y with
        | mk q z =>
          rw [hadd] at hgain
          simp only [if_true, hadd]
          cases q <;> exact hgain

theorem textsOf_append (cs more : List Extracted) (key : Key) :
    textsOf (cs ++ more) key = textsOf cs key ++ textsOf more key :=
  List.flatMap_append

/-- The state after all turns is the one after the others, unless the first one fails. -/
theorem extractAll_cons_state (name : Value) (rule : Rule) (rest : List (Value × Rule)) :
    (extractAll s id fulltext ((name, rule) :: rest) x).2 =
      match extractProperty s id fulltext name rule x with
      | (.ok _, y) => (extractAll s id fulltext rest y).2
      | (.error _, y) => y := by
  simp only [extractAll, run_bind]
  cases extractProperty s id fulltext name rule x with
  | mk r y =>
    cases r with
    | error e => rfl
    | ok entry =>
      dsimp only
      cases extractAll s id fulltext rest y with
      | mk q z => cases q <;> rfl

theorem filterMap_turns_cons (name : Value) (rule : Rule) (rest : List (Value × Rule)) :
    (turns s id fulltext ((name, rule) :: rest) x).filterMap (Turn.extracted? s id fulltext) =
      (Turn.extracted? s id fulltext ⟨name, rule, x⟩).toList ++
        match extractProperty s id fulltext name rule x with
        | (.ok _, y) => (turns s id fulltext rest y).filterMap (Turn.extracted? s id fulltext)
        | (.error _, _) => [] := by
  rw [turns, List.filterMap_cons]
  cases extractProperty s id fulltext name rule x with
  | mk r y => cases r <;> cases Turn.extracted? s id fulltext ⟨name, rule, x⟩ <;> rfl

theorem extractAll_gains (ps : List (Value × Rule)) (hb : AllTexts x.buckets)
    (hw : ∀ c ∈ (turns s id fulltext ps x).filterMap (Turn.extracted? s id fulltext),
      ∀ e ∈ c.entries, IsWritten c.store e.2) :
    Gains x.buckets (textsOf ((turns s id fulltext ps x).filterMap (Turn.extracted? s id fulltext)))
      (extractAll s id fulltext ps x).2.buckets := by
  induction ps generalizing x with
  | nil => exact .refl _
  | cons p rest ih =>
    obtain ⟨name, rule⟩ := p
    rw [filterMap_turns_cons] at hw ⊢
    rw [extractAll_cons_state]
    have hturn := extractProperty_gains hb name rule fun c hc =>
      hw c (List.mem_append_left _ (Option.mem_toList.2 hc))
    have hrest := fun c hc => hw c (List.mem_append_right _ hc)
    cases hrun : extractProperty s id fulltext name rule x with
    | mk r y =>
      rw [hrun] at hturn hrest
      cases r with
      | error e =>
        dsimp only
        rw [List.append_nil]
        exact hturn
      | ok entry =>
        have hmore := ih (hturn.allTexts hb) hrest
        intro key
        rw [textsOf_append]
        exact (hturn.trans hmore) key

/-- After an extraction, also after one that failed, a bucket holds what it held before and behind
it what each result that names it has added, in the order of the properties. A bucket that was not
there is there exactly if some result names it. -/
theorem buckets_extract (hb : AllTexts x.buckets)
    (hw : ∀ c ∈ extracted s id x, ∀ e ∈ c.entries, IsWritten c.store e.2) (key : Key) :
    Entries.find? (extract s id x).2.buckets key =
      grown (Entries.find? x.buckets key) (textsOf (extracted s id x) key) := by
  unfold extracted at hw ⊢
  simp only [extract, run_bind, run_get]
  cases hn : x.store.node? id with
  | none => rfl
  | some n =>
    rw [hn] at hw
    simp only [Option.bind_some] at hw ⊢
    cases ht : x.store.type? n.type with
    | none => rfl
    | some t =>
      rw [ht] at hw
      exact extractAll_gains t.properties hb hw key

/-- The extraction fails in the end; until then two properties have added to the bucket, the second
one, which is not set, the space alone. -/
theorem buckets_extract_sample :
    let x : Extraction := { sampleStart with buckets := [(.str "text", .str "seen")] }
    AllTexts x.buckets ∧
      (∀ c ∈ extracted sampleSetup 0 x, ∀ e ∈ c.entries, IsWritten c.store e.2) ∧
      (extract sampleSetup 0 x).1.toOption = none ∧
      textsOf (extracted sampleSetup 0 x) [.str "text"] = [" Home", " "] ∧
      Entries.find? (extract sampleSetup 0 x).2.buckets [.str "text"] =
        some (.str "seen Home ") := by
  intro x
  have hb : AllTexts x.buckets := by
    intro key v hv
    simp only [x, Entries.find?] at hv
    split at hv
    · cases hv
      exact ⟨_, rfl⟩
    · cases hv
  have hall : ((extracted sampleSetup 0 x).all fun c => c.entries.all fun e =>
      (c.store.current e.2).written.isOk) = true := by decide +kernel
  have hw : ∀ c ∈ extracted sampleSetup 0 x, ∀ e ∈ c.entries, IsWritten c.store e.2 := by
    intro c hc e he hne
    have h := List.all_eq_true.1 (List.all_eq_true.1 hall c hc) e he
    cases hwritten : (c.store.current e.2).written with
    | ok text => exact ⟨text, rfl⟩
    | error f =>
      rw [hwritten] at h
      cases h
  have htexts : textsOf (extracted sampleSetup 0 x) [.str "text"] = [" Home", " "] := by
    decide +kernel
  refine ⟨hb, hw, ?_, htexts, ?_⟩
  · have h : (extract sampleSetup 0 x).1.toOption.isNone = true := by decide +kernel
    exact Option.isNone_iff_eq_none.1 h
  · rw [buckets_extract hb hw, htexts]
    rfl

end ContentIndex.Index
