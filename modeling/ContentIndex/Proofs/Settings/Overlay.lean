import ContentIndex.Proofs.Entries
import ContentIndex.Proofs.Tables
import ContentIndex.Settings

/-!
# Settings over the shipped ones

The entries of the section for types are laid over the shipped entries one whole entry at a time.
So an entry that is given takes the place of the shipped one in all of its parts, and the rule of
a type is the shipped one only where nothing at all is given for the type.
-/

namespace ContentIndex

set_option autoImplicit false

namespace Settings

variable {type : String} {key key' v w : Value} {e : Value × Value} {given default : Entries}

/-! ## Entries for a type -/

/-- Whether a key is the name of a type, as a text or as the bytes that encode it. -/
def names (type : String) (key : Value) : Bool :=
  match textOf key with
  | .ok t => t == type
  | .error _ => false

theorem names_iff : names type key = true ↔ textOf key = .ok type := by
  rw [names]
  cases textOf key with
  | ok t => simp
  | error kind => simp

def entriesFor (type : String) (entries : Entries) : Entries :=
  entries.filter fun e => names type e.1

/-- What the section for types gives, under the first of its names that is there; null gives as
little as no section. -/
def givenTypes (data : Value) : Entries :=
  ((data.entries?.bind fun entries => sectionOf entries typeNames.1 typeNames.2).bind
    fun found => found.2.entries?).getD []

/-- What an entry for a type says of the rule: nothing at all, null, or a text. -/
inductive Gives (entry : Entries) : Option String → Prop
  | nothing (h : Entries.findText? entry "indexing" = none) : Gives entry none
  | null (h : Entries.findText? entry "indexing" = some .none) : Gives entry none
  | text {v : Value} {rule : String} (h : Entries.findText? entry "indexing" = some v)
      (htext : textOf v = .ok rule) : Gives entry (some rule)

/-! ## Laying entries over entries -/

theorem isText_of_names (h : names type key = true) :
    (∃ s, key = .str s) ∨ ∃ b, key = .bytes b := by
  rw [names_iff] at h
  unfold textOf at h
  split at h
  · exact .inl ⟨_, rfl⟩
  · exact .inr ⟨_, rfl⟩
  · cases h

/-- Values with the same key are read as the same text. -/
theorem names_congr (h : key.key? = key'.key?) : names type key = names type key' := by
  rw [Bool.eq_iff_iff]
  constructor
  · intro hkey
    rw [← Value.eq_of_key? (isText_of_names hkey) h.symm] at hkey
    exact hkey
  · intro hkey
    rw [← Value.eq_of_key? (isText_of_names hkey) h] at hkey
    exact hkey

theorem entriesFor_insert_of_names (hkey : names type key = true) (entries : Entries) :
    entriesFor type (Entries.insert entries key v) =
      Entries.insert (entriesFor type entries) key v := by
  induction entries with
  | nil => simp [entriesFor, Entries.insert, hkey]
  | cons e rest ih =>
    obtain ⟨k, w⟩ := e
    by_cases hk : k.key? = key.key?
    · have hnames : names type k = true := (names_congr hk).trans hkey
      simp [entriesFor, Entries.insert, hk, hnames]
    · rw [entriesFor] at ih
      cases hnames : names type k <;> simp [entriesFor, Entries.insert, hk, hnames, ih]

theorem entriesFor_insert_of_not_names (hkey : names type key = false) (entries : Entries) :
    entriesFor type (Entries.insert entries key v) = entriesFor type entries := by
  induction entries with
  | nil => simp [entriesFor, Entries.insert, hkey]
  | cons e rest ih =>
    obtain ⟨k, w⟩ := e
    rw [entriesFor, entriesFor] at ih
    by_cases hk : k.key? = key.key?
    · have hnames : names type k = false := (names_congr hk).trans hkey
      simp [entriesFor, Entries.insert, hk, hnames]
    · simp [entriesFor, Entries.insert, hk, List.filter_cons, ih]

/-- What is given, laid over what is there. -/
def laid (default given : Entries) : Entries :=
  given.foldl (fun d (k, w) => Entries.insert d k w) default

/-- What is laid over other types has no part in the entries for a type. -/
theorem entriesFor_laid (type : String) (default given : Entries) :
    entriesFor type (laid default given) =
      laid (entriesFor type default) (entriesFor type given) := by
  induction given generalizing default with
  | nil => rfl
  | cons e rest ih =>
    obtain ⟨k, w⟩ := e
    rw [laid, List.foldl_cons, ← laid, ih]
    cases hnames : names type k with
    | true =>
      rw [entriesFor_insert_of_names hnames]
      simp [entriesFor, laid, hnames]
    | false =>
      rw [entriesFor_insert_of_not_names hnames]
      simp [entriesFor, laid, hnames]

/-! ## Reading the entries -/

section Reading

variable {α : Type} {read : List Value → Value → Except (List Problem) α} {loc : List Value}
  {entries : Entries} {results : List (String × α)}

/-- Without a problem every entry has a text as its key, and its value can be read. -/
theorem readEntries_cons (hfails : ∀ loc v, read loc v ≠ .error []) {rest : Entries}
    (h : readEntries read loc (e :: rest) = (results, [])) :
    ∃ name a others, textOf e.1 = .ok name ∧ read (loc ++ [step e.1]) e.2 = .ok a ∧
      readEntries read loc rest = (others, []) ∧ results = (name, a) :: others := by
  obtain ⟨k, v⟩ := e
  rcases hrest : readEntries read loc rest with ⟨others, problems⟩
  simp only [readEntries, hrest] at h
  cases hname : textOf k with
  | error kind => cases hread : read (loc ++ [step k]) v <;> simp [hname, hread] at h
  | ok name =>
    cases hread : read (loc ++ [step k]) v with
    | error ps =>
      simp only [hname, hread, Prod.mk.injEq, List.append_eq_nil_iff] at h
      exact absurd (h.2.1 ▸ hread) (hfails _ v)
    | ok a =>
      simp only [hname, hread, Prod.mk.injEq] at h
      obtain ⟨rfl, rfl⟩ := h
      exact ⟨name, a, others, rfl, rfl, rfl, rfl⟩

/-- The last of the entries with a name is what is found under the name. -/
theorem lookup_readEntries (hfails : ∀ loc v, read loc v ≠ .error [])
    (h : readEntries read loc entries = (results, [])) (type : String) :
    (entriesFor type entries = [] → results.reverse.lookup type = none) ∧
      ∀ e ∈ (entriesFor type entries).getLast?,
        ∃ loc a, read loc e.2 = .ok a ∧ results.reverse.lookup type = some a := by
  induction entries generalizing results with
  | nil =>
    obtain ⟨rfl, -⟩ := Prod.mk.inj h
    exact ⟨fun _ => rfl, nofun⟩
  | cons e rest ih =>
    obtain ⟨name, a, others, hname, hread, hrest, rfl⟩ := readEntries_cons hfails h
    obtain ⟨hnone, hlast⟩ := ih hrest
    rw [List.reverse_cons, List.lookup_append]
    by_cases heq : name = type
    · subst heq
      have hfor : entriesFor name (e :: rest) = e :: entriesFor name rest :=
        List.filter_cons_of_pos (names_iff.2 hname)
      rw [hfor]
      refine ⟨nofun, fun e' he' => ?_⟩
      rw [List.getLast?_cons] at he'
      cases hl : (entriesFor name rest).getLast? with
      | none =>
        rw [hl] at he'
        obtain rfl : e = e' := Option.some.inj he'
        rw [hnone (List.getLast?_eq_none_iff.1 hl)]
        exact ⟨_, a, hread, by simp⟩
      | some last =>
        rw [hl] at he'
        obtain rfl : last = e' := Option.some.inj he'
        obtain ⟨loc, b, hb, hlookup⟩ := hlast last hl
        exact ⟨loc, b, hb, by rw [hlookup]; rfl⟩
    · have hother : names type e.1 = false := by
        rw [Bool.eq_false_iff, Ne, names_iff, hname]
        exact fun h => heq (Except.ok.inj h)
      have hfor : entriesFor type (e :: rest) = entriesFor type rest :=
        List.filter_cons_of_neg (by simp [hother])
      have hne : (type == name) = false := beq_false_of_ne (Ne.symm heq)
      have hlookup : [(name, a)].lookup type = none := by simp [List.lookup_cons, hne]
      rw [hfor, hlookup, Option.or_none]
      exact ⟨hnone, hlast⟩

end Reading

theorem readRule_findText? (loc : List Value) (entry : Entries) :
    (∃ rule, readRule loc (Entries.findText? entry "indexing") = .ok rule ∧ Gives entry rule) ∨
      ∃ problem, readRule loc (Entries.findText? entry "indexing") = .error [problem] := by
  cases hfound : Entries.findText? entry "indexing" with
  | none => exact .inl ⟨none, rfl, .nothing hfound⟩
  | some v =>
    by_cases hv : v = .none
    · subst hv
      exact .inl ⟨none, rfl, .null hfound⟩
    · have hread : readRule loc (some v) = (readText loc v).map some := by
        cases v <;> first | rfl | exact absurd rfl hv
      rw [hread, readText]
      cases htext : textOf v with
      | ok rule => exact .inl ⟨some rule, rfl, .text hfound htext⟩
      | error kind => exact .inr ⟨(loc, kind), rfl⟩

/-- An entry for a type is read whole, or else there is a problem to tell. -/
theorem readTypeDefaults_cases (loc : List Value) (v : Value) :
    (∃ d entry, readTypeDefaults loc v = .ok d ∧ v.entries? = some entry ∧
        Gives entry d.indexing) ∨
      ∃ problem problems, readTypeDefaults loc v = .error (problem :: problems) := by
  rw [readTypeDefaults]
  cases hentry : v.entries? with
  | none => exact .inr ⟨_, [], rfl⟩
  | some entry =>
    dsimp only
    rcases readRule_findText? (loc ++ [.str "indexing"]) entry with
      ⟨rule, hrule, hgives⟩ | ⟨problem, hrule⟩
    · rw [hrule]
      cases keyProblems loc (Entries.eraseText entry "indexing") with
      | nil => exact .inl ⟨⟨rule, _⟩, entry, rfl, rfl, hgives⟩
      | cons problem problems => exact .inr ⟨problem, problems, rfl⟩
    · rw [hrule]
      exact .inr ⟨problem, _, rfl⟩

theorem readTypeDefaults_ne (loc : List Value) (v : Value) :
    readTypeDefaults loc v ≠ .error [] := by
  intro h
  rcases readTypeDefaults_cases loc v with ⟨d, entry, hok, -⟩ | ⟨problem, problems, herror⟩
  · cases hok.symm.trans h
  · cases herror.symm.trans h

theorem gives_of_readTypeDefaults {loc : List Value} {d : TypeDefaults}
    (h : readTypeDefaults loc v = .ok d) :
    ∃ entry, v.entries? = some entry ∧ Gives entry d.indexing := by
  rcases readTypeDefaults_cases loc v with
    ⟨d', entry, hok, hentry, hgives⟩ | ⟨problem, problems, herror⟩
  · obtain rfl := Except.ok.inj (hok.symm.trans h)
    exact ⟨entry, hentry, hgives⟩
  · cases herror.symm.trans h

/-! ## The rule of a type -/

/-- Look-up in a list with distinct names. -/
theorem filter_eq_lookup {α : Type} (l : List (String × α)) (hdistinct : (l.map (·.1)).Nodup)
    (type : String) :
    l.filter (fun e => e.1 == type) = ((l.lookup type).map fun a => (type, a)).toList := by
  induction l with
  | nil => rfl
  | cons e rest ih =>
    obtain ⟨name, a⟩ := e
    obtain ⟨hnew, hrest⟩ := List.nodup_cons.1 hdistinct
    by_cases heq : name = type
    · subst heq
      have hnone : rest.lookup name = none := by
        rw [List.lookup_eq_none_iff]
        intro e he
        rw [bne_iff_ne]
        rintro rfl
        exact hnew (List.mem_map.2 ⟨e, he, rfl⟩)
      simp [ih hrest, hnone]
    · have hne : (type == name) = false := beq_false_of_ne (Ne.symm heq)
      simp [List.lookup_cons, hne, heq, ih hrest]

/-- Of the shipped entries at most one is for a type, with the shipped rule. -/
theorem entriesFor_standard (type : String) :
    entriesFor type Catalogue.standardTypeDefaults =
      ((Catalogue.standardRules.lookup type).map fun rule =>
        (Value.str type, Catalogue.ofPairs [("indexing", rule)])).toList := by
  have hfilter := filter_eq_lookup Catalogue.standardRules (by decide) type
  have hnames : ((fun e : Value × Value => names type e.1) ∘ fun e : String × String =>
      (Value.str e.1, Catalogue.ofPairs [("indexing", e.2)])) = fun e => e.1 == type := by
    funext e
    rfl
  rw [entriesFor, Catalogue.standardTypeDefaults, List.filter_map]
  rw [hnames, hfilter]
  cases Catalogue.standardRules.lookup type <;> rfl

theorem eq_of_gives_ofPairs {rule : String} {entry : Entries} {said : Option String}
    (hentry : (Catalogue.ofPairs [("indexing", rule)]).entries? = some entry)
    (h : Gives entry said) : said = some rule := by
  obtain rfl := Option.some.inj hentry
  have hfound : Entries.findText? [(Value.str "indexing", Value.str rule)] "indexing" =
      some (.str rule) := by
    simp [Entries.findText?, Entries.find?, Value.hasKey, Value.key?]
  cases h with
  | nothing h => cases hfound.symm.trans h
  | null h => cases hfound.symm.trans h
  | text h htext =>
    obtain rfl := Option.some.inj (hfound.symm.trans h)
    rw [Except.ok.inj htext]

/-- After an insertion the last entry has the new value, or it is the one that was last before. -/
theorem getLast?_insert (entries : Entries) (key v : Value) :
    (∃ k, (Entries.insert entries key v).getLast? = some (k, v)) ∨
      2 ≤ entries.length ∧ (Entries.insert entries key v).getLast? = entries.getLast? := by
  induction entries with
  | nil => exact .inl ⟨key, rfl⟩
  | cons e rest ih =>
    obtain ⟨k, w⟩ := e
    rw [Entries.insert]
    split
    · cases rest with
      | nil => exact .inl ⟨k, rfl⟩
      | cons e' rest' => exact .inr ⟨by simp, by simp [List.getLast?_cons_cons]⟩
    · rcases ih with ⟨k', hlast⟩ | ⟨htwo, hlast⟩
      · exact .inl ⟨k', by rw [List.getLast?_cons, hlast]; rfl⟩
      · refine .inr ⟨by rw [List.length_cons]; omega, ?_⟩
        rw [List.getLast?_cons, List.getLast?_cons, hlast]

/-- Once a given value stands last, a given value stands last after each further insertion. -/
theorem getLast_laid_of_last {values : List Value}
    (hlast : ∃ e ∈ default.getLast?, e.2 ∈ values) (hgiven : ∀ e ∈ given, e.2 ∈ values) :
    ∃ e ∈ (laid default given).getLast?, e.2 ∈ values := by
  induction given generalizing default with
  | nil => exact hlast
  | cons e rest ih =>
    obtain ⟨k, v⟩ := e
    refine ih ?_ fun e he => hgiven e (List.mem_cons_of_mem _ he)
    rcases getLast?_insert default k v with ⟨k', hnew⟩ | ⟨-, hold⟩
    · exact ⟨(k', v), hnew, hgiven (k, v) List.mem_cons_self⟩
    · rw [hold]
      exact hlast

/-- Over at most one entry, a given value comes last. -/
theorem getLast_laid (hdefault : default.length ≤ 1) (hgiven : given ≠ []) :
    ∃ e ∈ (laid default given).getLast?, e.2 ∈ given.map (·.2) := by
  obtain ⟨⟨k, v⟩, rest, rfl⟩ := List.exists_cons_of_ne_nil hgiven
  rw [laid, List.foldl_cons, ← laid]
  refine getLast_laid_of_last ?_ ?_
  · rcases getLast?_insert default k v with ⟨k', hnew⟩ | ⟨htwo, -⟩
    · exact ⟨(k', v), hnew, List.mem_map.2 ⟨(k, v), List.mem_cons_self, rfl⟩⟩
    · omega
  · intro e he
    exact List.mem_map_of_mem (List.mem_cons_of_mem _ he)

theorem readEntries_of_readDict {α : Type}
    {read : List Value → Value → Except (List Problem) α} {loc : List Value} {entries : Entries}
    {mark : Nat} {table : List (String × α)}
    (h : readDict read loc (.dict entries mark) = .ok table) :
    ∃ results, readEntries read loc entries = (results, []) ∧ table = Table.ofList results := by
  rw [readDict, Value.entries?] at h
  dsimp only at h
  split at h
  · next results hread => exact ⟨results, hread, (Except.ok.inj h).symm⟩
  · cases h

theorem types_of_ofValue {data : Value} {s : Settings} (h : ofValue data = .ok s) :
    ∃ loc results, readEntries readTypeDefaults loc
        (laid Catalogue.standardTypeDefaults (givenTypes data)) = (results, []) ∧
      s.types = Table.ofList results := by
  unfold ofValue at h
  split at h
  · next entries hentries =>
    have hread : readSection entries typeNames Catalogue.standardTypeDefaults readTypeDefaults =
        .ok s.types := by
      unfold ofEntries at h
      dsimp only at h
      split at h
      · next hcontext htypes =>
        rw [htypes, ← Except.ok.inj h]
      all_goals cases h
    unfold readSection at hread
    have hgiven : givenTypes data =
      ((sectionOf entries typeNames.1 typeNames.2).bind fun found => found.2.entries?).getD [] := by
      rw [givenTypes, hentries]
      rfl
    rw [hgiven]
    cases hsection : sectionOf entries typeNames.1 typeNames.2 with
    | none =>
      rw [hsection] at hread
      exact ⟨_, readEntries_of_readDict hread⟩
    | some found =>
      obtain ⟨name, v⟩ := found
      rw [hsection] at hread
      cases v with
      | none => exact ⟨_, readEntries_of_readDict hread⟩
      | dict given mark => exact ⟨_, readEntries_of_readDict hread⟩
      | _ => cases hread
  · cases h

/-- The rule of a type of properties is what the entry that is given for the type says of it, and
no rule if the entry does not say anything; the shipped rule counts only where no entry is given
for the type. -/
theorem ruleFor_ofValue {data : Value} {s : Settings} (h : ofValue data = .ok s) (type : String) :
    ∃ rule, s.ruleFor (.str type) = .ok rule ∧
      (entriesFor type (givenTypes data) = [] → rule = Catalogue.standardRules.lookup type) ∧
      (entriesFor type (givenTypes data) ≠ [] →
        ∃ e ∈ entriesFor type (givenTypes data), ∃ entry, e.2.entries? = some entry ∧
          Gives entry rule) := by
  obtain ⟨loc, results, hread, htypes⟩ := types_of_ofValue h
  obtain ⟨hnone, hlast⟩ := lookup_readEntries readTypeDefaults_ne hread type
  rw [entriesFor_laid, entriesFor_standard] at hnone hlast
  refine ⟨_, rfl, ?_, ?_⟩
  · intro hempty
    rw [htypes, Table.lookup_ofList]
    rw [hempty, laid, List.foldl_nil] at hnone hlast
    cases hshipped : Catalogue.standardRules.lookup type with
    | none =>
      rw [hshipped] at hnone
      rw [hnone rfl]
      rfl
    | some rule =>
      rw [hshipped] at hlast
      obtain ⟨loc, d, hd, hfound⟩ := hlast _ rfl
      obtain ⟨entry, hentry, hgives⟩ := gives_of_readTypeDefaults hd
      rw [hfound]
      exact eq_of_gives_ofPairs hentry hgives
  · intro hgiven
    have hone : ((Catalogue.standardRules.lookup type).map fun rule =>
        (Value.str type, Catalogue.ofPairs [("indexing", rule)])).toList.length ≤ 1 :=
      Option.length_toList_le
    obtain ⟨e, he, hvalue⟩ := getLast_laid hone hgiven
    obtain ⟨loc, d, hd, hfound⟩ := hlast e he
    obtain ⟨entry, hentry, hgives⟩ := gives_of_readTypeDefaults hd
    obtain ⟨e', he', hsame⟩ := List.mem_map.1 hvalue
    rw [htypes, Table.lookup_ofList, hfound]
    exact ⟨e', he', entry, hsame ▸ hentry, hgives⟩

/-- Settings whose entry for texts sets another field only. -/
def boosted : Value :=
  .dict [(.str "defaultConfigurationPerType",
    .dict [(.str "string", .dict [(.str "boost", .int 2)] 0)] 0)] 0

theorem boosted_read : ∃ s, ofValue boosted = .ok s ∧ s.ruleFor (.str "string") = .ok none := by
  have hread : (ofValue boosted).toOption.bind
      (fun s => (s.ruleFor (.str "string")).toOption) = some none := by decide +kernel
  cases hs : ofValue boosted with
  | error problems =>
    rw [hs] at hread
    cases hread
  | ok s =>
    rw [hs] at hread
    cases hrule : s.ruleFor (.str "string") with
    | error e =>
      rw [Except.toOption, Option.bind_some, hrule] at hread
      cases hread
    | ok rule =>
      rw [Except.toOption, Option.bind_some, hrule] at hread
      exact ⟨s, rfl, by rw [hrule, Option.some.inj hread]⟩

/-- Texts have lost their shipped rule; for every other type it is still there. -/
theorem ruleFor_ofValue_boosted :
    ∃ s, ofValue boosted = .ok s ∧ ∃ rule, s.ruleFor (.str "boolean") = .ok rule ∧
      rule = Catalogue.standardRules.lookup "boolean" := by
  obtain ⟨s, hs, -⟩ := boosted_read
  obtain ⟨rule, hrule, hshipped, -⟩ := ruleFor_ofValue hs "boolean"
  exact ⟨s, hs, rule, hrule, hshipped (by decide +kernel)⟩

/-- The entry for texts does not say anything of the rule, and the shipped one is not kept. -/
theorem boosted_without_rule :
    Catalogue.standardRules.lookup "string" = some "$\x7bvalue\x7d" ∧
      ∃ s, ofValue boosted = .ok s ∧ s.ruleFor (.str "string") = .ok none :=
  ⟨by decide +kernel, boosted_read⟩

end Settings

end ContentIndex
