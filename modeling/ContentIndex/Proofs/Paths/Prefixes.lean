import ContentIndex.Indexing
import ContentIndex.Proofs.Paths.Segments
import Mathlib.Data.List.Destutter
import Mathlib.Data.List.TakeWhile

/-!
# The prefixes of any path

A path may have slashes anywhere: several before its first name, several between two names, some
behind its last name. Between any two slashes behind the first name stands a name, if only an empty
one, and an empty one repeats the prefix before it. Apart from these repeats the prefixes climb from
the first to the whole path. A path of slashes alone has nothing to climb; if it is not the root, an
empty text is listed.
-/

namespace ContentIndex.NodePath

set_option autoImplicit false

/-- `path` begins with `start` and goes on. -/
def Begins (start path : List Char) : Prop :=
  start <+: path ∧ start ≠ path

theorem Begins.trans {a b c : List Char} (hab : Begins a b) (hbc : Begins b c) : Begins a c := by
  refine ⟨hab.1.trans hbc.1, ?_⟩
  rintro rfl
  exact hbc.2 (hbc.1.eq_of_length (Nat.le_antisymm hbc.1.length_le hab.1.length_le))

/-- What comes before the names: the root, or nothing for a relative path. -/
def rootOf (path : List Char) : List Char :=
  if path.head? = some '/' then ['/'] else []

/-- The path with one slash for those that it starts with and without those that it ends in. -/
def normal (path : List Char) : List Char :=
  rootOf path ++ dropSlashes (Text.trimStart isSlash path)

/-- The steps lead up to the path: they are distinct texts, each of which goes on where the one
before it ends; the root is the first of them for an absolute path only. -/
structure Climbs (path : List Char) (steps : List (List Char)) : Prop where
  ne_nil : [] ∉ steps
  nodup : steps.Nodup
  grows : steps.IsChain Begins
  head : steps.head? = some ['/'] ↔ path.head? = some '/'
  last : steps.getLast? = some (normal path)

/-- The steps lead up to the path as well, but some of them may stay where they are. -/
structure Leads (path start : List Char) (steps : List (List Char)) : Prop where
  ne_nil : start ≠ []
  head : start = ['/'] ↔ path.head? = some '/'
  last : (start :: steps).getLast? = some (normal path)
  chain : (start :: steps).IsChain (· <+: ·)

/-- Steps that grow are distinct, and only the first of them could be empty. -/
theorem Leads.climbs {path start : List Char} {steps : List (List Char)}
    (h : Leads path start steps) (hgrows : (start :: steps).IsChain Begins) :
    Climbs path (start :: steps) := by
  have : Trans Begins Begins Begins := ⟨Begins.trans⟩
  have hpairs : (start :: steps).Pairwise Begins := List.isChain_iff_pairwise.1 hgrows
  refine ⟨?_, hpairs.imp And.right, hgrows, ?_, h.last⟩
  · intro hmem
    rcases List.mem_cons.1 hmem with heq | hmem
    · exact h.ne_nil heq.symm
    · have hbegins := (List.pairwise_cons.1 hpairs).1 [] hmem
      exact h.ne_nil (List.prefix_nil.1 hbegins.1)
  · rw [List.head?_cons, Option.some.injEq]
    exact h.head

/-! ## Leaving out the repeats -/

theorem destutter_of_prefixes {a : List Char} {l : List (List Char)}
    (h : (a :: l).IsChain (· <+: ·)) :
    ∃ rest, l.destutter' (· ≠ ·) a = a :: rest ∧ (a :: rest).IsChain Begins ∧
      (a :: rest).getLast? = (a :: l).getLast? := by
  induction l generalizing a with
  | nil => exact ⟨[], rfl, List.isChain_singleton a, rfl⟩
  | cons b l ih =>
    obtain ⟨hab, hl⟩ := List.isChain_cons_cons.1 h
    obtain ⟨rest, hrest, hgrows, hlast⟩ := ih hl
    by_cases hne : a ≠ b
    · refine ⟨b :: rest, ?_, ?_, ?_⟩
      · rw [List.destutter'_cons_pos l hne, hrest]
      · exact List.isChain_cons_cons.2 ⟨⟨hab, hne⟩, hgrows⟩
      · rw [List.getLast?_cons_cons, List.getLast?_cons_cons, hlast]
    · obtain rfl := not_not.1 hne
      refine ⟨rest, ?_, hgrows, ?_⟩
      · rw [List.destutter'_cons_neg l hne, hrest]
      · rw [List.getLast?_cons_cons, hlast]

/-! ## From one prefix to the next -/

theorem prefix_dropSlashes (path : List Char) : dropSlashes path <+: path := by
  have h : path.reverse.dropWhile isSlash <:+ path.reverse := List.dropWhile_suffix isSlash
  rw [← List.reverse_prefix, List.reverse_reverse] at h
  exact h

section Step

variable {name : List Char} {names : List (List Char)}

/-- Another name goes on with a path; an empty one only puts another slash behind it. -/
theorem dropSlashes_next (current : List Char) (h : '/' ∉ name) :
    dropSlashes (current ++ name ++ ['/']) =
      if name = [] then dropSlashes current else current ++ name := by
  rw [dropSlashes_concat]
  split
  · rename_i hempty
    rw [hempty, List.append_nil]
  · rename_i hne
    exact dropSlashes_segment current ⟨hne, h⟩

theorem prefix_next (current : List Char) (h : '/' ∉ name) :
    dropSlashes current <+: dropSlashes (current ++ name ++ ['/']) := by
  rw [dropSlashes_next current h]
  split
  · exact List.prefix_rfl
  · exact (prefix_dropSlashes current).trans (List.prefix_append current name)

theorem begins_next_iff (current : List Char) (h : '/' ∉ name) :
    Begins (dropSlashes current) (dropSlashes (current ++ name ++ ['/'])) ↔ name ≠ [] := by
  constructor
  · rintro ⟨-, hne⟩ rfl
    exact hne (by rw [dropSlashes_next current h, if_pos rfl])
  · intro hname
    refine ⟨prefix_next current h, fun heq => ?_⟩
    rw [dropSlashes_next current h, if_neg hname] at heq
    have hlength := congrArg List.length heq
    have hle := (prefix_dropSlashes current).length_le
    have hpos := List.length_pos_iff.2 hname
    rw [List.length_append] at hlength
    omega

theorem chain_prefixesFrom (current : List Char) (h : ∀ name ∈ names, '/' ∉ name) :
    (dropSlashes current :: prefixesFrom current names).IsChain (· <+: ·) := by
  induction names generalizing current with
  | nil => exact List.isChain_singleton _
  | cons name names ih =>
    obtain ⟨hname, hnames⟩ := List.forall_mem_cons.1 h
    exact List.isChain_cons_cons.2 ⟨prefix_next current hname, ih _ hnames⟩

theorem grows_prefixesFrom_iff (current : List Char) (h : ∀ name ∈ names, '/' ∉ name) :
    (dropSlashes current :: prefixesFrom current names).IsChain Begins ↔
      ∀ name ∈ names, name ≠ [] := by
  induction names generalizing current with
  | nil => exact iff_of_true (List.isChain_singleton _) fun _ hname => absurd hname List.not_mem_nil
  | cons name names ih =>
    obtain ⟨hname, hnames⟩ := List.forall_mem_cons.1 h
    rw [List.forall_mem_cons, ← ih (current ++ name ++ ['/']) hnames,
      ← begins_next_iff current hname]
    exact List.isChain_cons_cons

theorem getLast?_prefixesFrom (current : List Char) (names : List (List Char)) :
    (dropSlashes current :: prefixesFrom current names).getLast? =
      some (dropSlashes (current ++ names.flatMap (· ++ ['/']))) := by
  induction names generalizing current with
  | nil => rw [List.flatMap_nil, List.append_nil]; rfl
  | cons name names ih =>
    rw [prefixesFrom, List.getLast?_cons_cons, ih, List.flatMap_cons]
    simp only [List.append_assoc]

end Step

/-! ## The names of a path -/

theorem not_mem_of_mem_splitAtMost {limit : Nat} {s piece : List Char} (hs : s.length ≤ limit)
    (h : piece ∈ Text.splitAtMost ['/'] limit s) : '/' ∉ piece := by
  induction limit generalizing s with
  | zero =>
    rw [List.length_eq_zero_iff.1 (Nat.le_zero.1 hs)] at h
    rw [List.mem_singleton.1 h]
    exact List.not_mem_nil
  | succ limit ih =>
    rw [Text.splitAtMost] at h
    by_cases hslash : '/' ∈ s
    · obtain ⟨before, after, rfl, hbefore⟩ := List.eq_append_cons_of_mem hslash
      rw [Text.cut?_first hbefore] at h
      rcases List.mem_cons.1 h with rfl | hmem
      · exact hbefore
      · refine ih ?_ hmem
        rw [List.length_append, List.length_cons] at hs
        omega
    · rw [Text.cut?_of_not_mem hslash] at h
      rw [List.mem_singleton.1 h]
      exact hslash

/-- The text between any two slashes behind those that the path starts with. -/
def namesOf (path : List Char) : List (List Char) :=
  Text.splitOn ['/'] (Text.trimStart isSlash path)

theorem not_mem_of_mem_namesOf {path name : List Char} (h : name ∈ namesOf path) : '/' ∉ name :=
  not_mem_of_mem_splitAtMost (Nat.le_refl _) h

theorem join_namesOf (path : List Char) :
    Text.join ['/'] (namesOf path) = Text.trimStart isSlash path :=
  Text.join_splitOn _ _

theorem flatMap_namesOf (path : List Char) :
    (namesOf path).flatMap (· ++ ['/']) = Text.trimStart isSlash path ++ ['/'] := by
  rw [← join_namesOf]
  obtain ⟨start, name, h⟩ := (namesOf path).eq_nil_or_concat'.resolve_left
    (Text.splitAtMost_ne_nil _ _ _)
  rw [h, join_concat]
  simp

/-- The path has a name: it does not consist of slashes. -/
def HasName (path : List Char) : Prop :=
  ∃ c ∈ path, c ≠ '/'

theorem HasName.exists_trimStart {path : List Char} (h : HasName path) :
    ∃ c rest, Text.trimStart isSlash path = c :: rest ∧ c ≠ '/' := by
  obtain ⟨d, hd, hne⟩ := h
  have hrest : Text.trimStart isSlash path ≠ [] := by
    intro hnil
    have hall := List.dropWhile_eq_nil_iff.1 hnil d hd
    exact hne (beq_iff_eq.1 hall)
  obtain ⟨c, rest, hcons⟩ := List.exists_cons_of_ne_nil hrest
  refine ⟨c, rest, hcons, ?_⟩
  have hhead := List.head?_dropWhile_not isSlash path
  rw [show path.dropWhile isSlash = c :: rest from hcons] at hhead
  exact fun hc => absurd hhead (by simp [isSlash, hc])

theorem HasName.exists_first {path : List Char} (h : HasName path) :
    ∃ first rest, namesOf path = first :: rest ∧ first ≠ [] := by
  obtain ⟨first, rest, hnames⟩ := List.exists_cons_of_ne_nil
    (Text.splitAtMost_ne_nil ['/'] (Text.trimStart isSlash path).length
      (Text.trimStart isSlash path))
  refine ⟨first, rest, hnames, ?_⟩
  rintro rfl
  have hjoin := join_namesOf path
  obtain ⟨c, body, hbody, hc⟩ := h.exists_trimStart
  rw [show namesOf path = [] :: rest from hnames, hbody] at hjoin
  cases rest with
  | nil => cases hjoin
  | cons name rest =>
    rw [join_cons _ (List.cons_ne_nil _ _)] at hjoin
    exact hc (List.cons.inj hjoin).1.symm

theorem dropSlashes_append {rest : List Char} (before : List Char) (h : dropSlashes rest ≠ []) :
    dropSlashes (before ++ rest) = before ++ dropSlashes rest := by
  have hreverse : rest.reverse.dropWhile isSlash ≠ [] := fun hnil => h (congrArg List.reverse hnil)
  rw [dropSlashes, Text.trimEnd, List.reverse_append, List.dropWhile_append,
    if_neg (by simpa using hreverse), List.reverse_append, List.reverse_reverse]
  rfl

theorem HasName.dropSlashes_ne_nil {path : List Char} (h : HasName path) :
    dropSlashes path ≠ [] := by
  obtain ⟨c, hc, hne⟩ := h
  intro hnil
  have hall := List.dropWhile_eq_nil_iff.1 (List.reverse_eq_nil_iff.1 hnil) c
    (List.mem_reverse.2 hc)
  exact hne (beq_iff_eq.1 hall)

theorem HasName.trimStart {path : List Char} (h : HasName path) :
    HasName (Text.trimStart isSlash path) := by
  obtain ⟨c, rest, hrest, hc⟩ := h.exists_trimStart
  exact ⟨c, by rw [hrest]; exact List.mem_cons_self, hc⟩

/-- Behind the root comes the first name, and every further name leads to one prefix more. -/
theorem HasName.prefixes_eq {path first : List Char} {rest : List (List Char)} (h : HasName path)
    (hnames : namesOf path = first :: rest) :
    prefixes path = (if path.head? = some '/' then [['/']] else []) ++
      dropSlashes (rootOf path ++ first ++ ['/']) ::
        prefixesFrom (rootOf path ++ first ++ ['/']) rest := by
  obtain ⟨c, hc, hne⟩ := h
  have hempty : path.isEmpty = false := List.isEmpty_eq_false_iff.2 (List.ne_nil_of_mem hc)
  have hroot : (path == ['/']) = false := by
    rw [beq_eq_false_iff_ne]
    rintro rfl
    exact hne (List.mem_singleton.1 hc)
  unfold namesOf at hnames
  rw [prefixes, hempty, hroot, hnames, rootOf]
  by_cases habsolute : path.head? = some '/'
  · simp [habsolute, prefixesFrom]
  · simp [habsolute, prefixesFrom]

theorem HasName.dropSlashes_names {path first : List Char} {rest : List (List Char)}
    (h : HasName path) (hnames : namesOf path = first :: rest) :
    dropSlashes (rootOf path ++ first ++ ['/'] ++ rest.flatMap (· ++ ['/'])) = normal path := by
  have hall := flatMap_namesOf path
  rw [hnames, List.flatMap_cons] at hall
  rw [List.append_assoc (rootOf path), List.append_assoc (rootOf path), hall,
    ← List.append_assoc, dropSlashes_concat,
    dropSlashes_append _ h.trimStart.dropSlashes_ne_nil, normal]

/-- The prefixes lead from the root, or the first name, to the whole path, and grow with each name
that is not empty. -/
theorem HasName.exists_leads {path : List Char} (h : HasName path) :
    ∃ start steps, prefixes path = start :: steps ∧ Leads path start steps ∧
      ((start :: steps).IsChain Begins ↔ ∀ name ∈ namesOf path, name ≠ []) := by
  obtain ⟨first, rest, hnames, hfirst⟩ := h.exists_first
  have hslashes : ∀ name ∈ first :: rest, '/' ∉ name := by
    intro name hname
    exact not_mem_of_mem_namesOf (hnames ▸ hname)
  obtain ⟨hslash, hrest⟩ := List.forall_mem_cons.1 hslashes
  have heq := h.prefixes_eq hnames
  have hcurrent := dropSlashes_next (rootOf path) hslash
  rw [if_neg hfirst] at hcurrent
  have hlast := getLast?_prefixesFrom (rootOf path ++ first ++ ['/']) rest
  have hchain := chain_prefixesFrom (rootOf path ++ first ++ ['/']) hrest
  have hgrows := grows_prefixesFrom_iff (rootOf path ++ first ++ ['/']) hrest
  have hall : (∀ name ∈ namesOf path, name ≠ []) ↔ ∀ name ∈ rest, name ≠ [] := by
    rw [hnames, List.forall_mem_cons]
    exact and_iff_right hfirst
  rw [h.dropSlashes_names hnames] at hlast
  rw [hcurrent] at heq hlast hchain hgrows
  by_cases habsolute : path.head? = some '/'
  · -- the root comes first, and the first name goes on with it
    have hroot : rootOf path = ['/'] := if_pos habsolute
    have hbegins : Begins ['/'] (rootOf path ++ first) := by
      rw [hroot]
      refine ⟨List.prefix_append _ _, fun h => hfirst ?_⟩
      exact (List.cons.inj h).2.symm
    rw [if_pos habsolute, List.singleton_append] at heq
    refine ⟨['/'], _, heq, ⟨List.cons_ne_nil _ _, iff_of_true rfl habsolute, ?_, ?_⟩, ?_⟩
    · rw [List.getLast?_cons_cons, hlast]
    · exact List.isChain_cons_cons.2 ⟨hbegins.1, hchain⟩
    · rw [hall, ← hgrows, List.isChain_cons_cons]
      exact and_iff_right hbegins
  · have hroot : rootOf path = [] := if_neg habsolute
    have hne : [] ++ first ≠ ['/'] := by
      rintro rfl
      exact hslash List.mem_cons_self
    rw [if_neg habsolute, List.nil_append] at heq
    rw [hroot] at heq hlast hchain hgrows
    refine ⟨_, _, heq, ⟨hfirst, iff_of_false hne habsolute, hlast, hchain⟩, ?_⟩
    rw [hall, ← hgrows]

/-! ## All prefixes -/

theorem pathPrefixes_text (path : List Char) :
    Indexing.pathPrefixes (.str (String.ofList path)) = .ok (.ofTexts (prefixes path)) := by
  cases path with
  | nil => rfl
  | cons c rest =>
    have htruth : (Value.str (String.ofList (c :: rest))).truth = true := by simp [Value.truth]
    rw [Indexing.pathPrefixes, htruth]
    simp

theorem HasName.climbs_iff {path : List Char} (h : HasName path) :
    Climbs path (prefixes path) ↔ ∀ name ∈ namesOf path, name ≠ [] := by
  obtain ⟨start, steps, heq, hleads, hgrows⟩ := h.exists_leads
  rw [heq, ← hgrows]
  exact ⟨Climbs.grows, hleads.climbs⟩

theorem HasName.climbs_destutter {path : List Char} (h : HasName path) :
    (prefixes path).IsChain (· <+: ·) ∧ Climbs path ((prefixes path).destutter (· ≠ ·)) := by
  obtain ⟨start, steps, heq, hleads, -⟩ := h.exists_leads
  obtain ⟨rest, hrest, hgrows, hlast⟩ := destutter_of_prefixes hleads.chain
  have hshort : Leads path start rest :=
    ⟨hleads.ne_nil, hleads.head, hlast.trans hleads.last, hgrows.imp fun _ _ => And.left⟩
  rw [heq, List.destutter_cons', hrest]
  exact ⟨hleads.chain, hshort.climbs hgrows⟩

theorem eq_replicate_of_not_hasName {path : List Char} (h : ¬ HasName path) :
    path = List.replicate path.length '/' := by
  apply List.eq_replicate_of_mem
  intro c hc
  exact by_contra fun hne => h ⟨c, hc, hne⟩

theorem prefixes_slashes (k : Nat) : prefixes (List.replicate (k + 2) '/') = [['/'], []] := by
  have htrim : Text.trimStart isSlash (List.replicate (k + 2) '/') = [] := by
    apply List.dropWhile_eq_nil_iff.2
    intro c hc
    rw [List.eq_of_mem_replicate hc]
    rfl
  rw [prefixes, htrim]
  rfl

theorem climbs_root : Climbs ['/'] (prefixes ['/']) :=
  Leads.climbs ⟨List.cons_ne_nil _ _, iff_of_true rfl rfl, rfl, List.isChain_singleton _⟩
    (List.isChain_singleton _)

section Joined

variable {segments : List (List Char)}

theorem hasName_join (k : Nat) (h : AreSegments segments) (hne : segments ≠ []) :
    HasName (List.replicate k '/' ++ Text.join ['/'] segments) := by
  obtain ⟨segment, rest, rfl⟩ := List.exists_cons_of_ne_nil hne
  obtain ⟨hfirst, hslash⟩ := h segment List.mem_cons_self
  obtain ⟨c, cs, rfl⟩ := List.exists_cons_of_ne_nil hfirst
  refine ⟨c, List.mem_append_right _ ?_, fun hc => hslash (hc ▸ List.mem_cons_self)⟩
  cases rest with
  | nil => exact List.mem_cons_self
  | cons next rest =>
    rw [join_cons _ (List.cons_ne_nil _ _)]
    exact List.mem_cons_self

theorem namesOf_join (k : Nat) (h : AreSegments segments) (hne : segments ≠ []) :
    namesOf (List.replicate k '/' ++ Text.join ['/'] segments) = segments := by
  have htrim : Text.trimStart isSlash (List.replicate k '/' ++ Text.join ['/'] segments) =
      Text.join ['/'] segments := by
    rw [Text.trimStart, List.dropWhile_append_of_pos]
    · exact trimStart_absolute h
    · intro c hc
      rw [List.eq_of_mem_replicate hc]
      rfl
  rw [namesOf, htrim, splitOn_join h hne]

end Joined

/-- A path with its names joined again, behind as many slashes as it starts with. -/
theorem exists_join (path : List Char) :
    ∃ k, path = List.replicate k '/' ++ Text.join ['/'] (namesOf path) := by
  refine ⟨(path.takeWhile isSlash).length, ?_⟩
  have hslashes : path.takeWhile isSlash = List.replicate (path.takeWhile isSlash).length '/' := by
    apply List.eq_replicate_of_mem
    intro c hc
    have hslash : isSlash c = true := List.mem_takeWhile_imp hc
    exact beq_iff_eq.1 hslash
  rw [← hslashes, join_namesOf]
  exact List.takeWhile_append_dropWhile.symm

/-- The prefixes of a path can always be listed. They climb to the path just if it is the root or
names joined by single slashes, with any slashes before the first of them. If the path has a name,
each prefix begins with the one before it, and without the repeats they climb; a path of several
slashes has the root and an empty text for prefixes. -/
theorem prefixes_climb (path : List Char) :
    Indexing.pathPrefixes (.str (String.ofList path)) = .ok (.ofTexts (prefixes path)) ∧
    (Climbs path (prefixes path) ↔ path = ['/'] ∨
      ∃ k segments, segments ≠ [] ∧ AreSegments segments ∧
        path = List.replicate k '/' ++ Text.join ['/'] segments) ∧
    (HasName path → (prefixes path).IsChain (· <+: ·) ∧
      Climbs path ((prefixes path).destutter (· ≠ ·))) ∧
    ∀ k, path = List.replicate (k + 2) '/' → prefixes path = [['/'], []] := by
  refine ⟨pathPrefixes_text path, ⟨fun hclimbs => ?_, ?_⟩, HasName.climbs_destutter, ?_⟩
  · by_cases hname : HasName path
    · obtain ⟨k, hpath⟩ := exists_join path
      have hne := hname.climbs_iff.1 hclimbs
      obtain ⟨first, rest, hnames, -⟩ := hname.exists_first
      refine .inr ⟨k, namesOf path, ?_, fun name hmem => ?_, hpath⟩
      · rw [hnames]
        exact List.cons_ne_nil _ _
      · exact ⟨hne name hmem, not_mem_of_mem_namesOf hmem⟩
    · left
      rw [eq_replicate_of_not_hasName hname] at hclimbs ⊢
      match path.length, hclimbs with
      | 0, hclimbs => cases hclimbs.last
      | 1, _ => rfl
      | k + 2, hclimbs =>
        have hempty := hclimbs.ne_nil
        rw [prefixes_slashes] at hempty
        exact absurd (by simp) hempty
  · rintro (rfl | ⟨k, segments, hne, hsegments, rfl⟩)
    · exact climbs_root
    · rw [(hasName_join k hsegments hne).climbs_iff, namesOf_join k hsegments hne]
      exact fun name hmem => (hsegments name hmem).1
  · rintro k rfl
    exact prefixes_slashes k

/-- Two slashes have an empty prefix, and a slash at the end repeats a prefix. -/
theorem not_climbs_slashes :
    ¬ Climbs "//".toList (prefixes "//".toList) ∧
    ¬ Climbs "/a/".toList (prefixes "/a/".toList) := by
  constructor
  · intro h
    exact h.ne_nil (by decide)
  · intro h
    exact absurd h.nodup (by decide)

end ContentIndex.NodePath
