import ContentIndex.Proofs.Paths.Prefixes

/-!
# Going up from any path

Taking the parent keeps how a path starts. An absolute path gets shorter with every step until the
root is reached, which has no parent. A relative path never gets there: its first name is what it
takes for its own parent.
-/

namespace ContentIndex.NodePath

set_option autoImplicit false

/-- The path so many parents up. -/
def above? : Nat → List Char → Option (List Char)
  | 0, path => some path
  | k + 1, path => (parent? path).bind (above? k)

/-- The prefixes of the parent. -/
def parentPrefixes (path : List Char) : List (List Char) :=
  ((parent? path).map prefixes).getD []

section Parent

variable {path parent : List Char}

theorem parent?_eq_none_iff : parent? path = none ↔ path = [] ∨ path = ['/'] := by
  rw [parent?]
  split
  · rename_i h
    rw [Bool.or_eq_true, List.isEmpty_iff, beq_iff_eq] at h
    exact iff_of_true rfl h
  · rename_i h
    rw [Bool.or_eq_true, List.isEmpty_iff, beq_iff_eq] at h
    exact iff_of_false (Option.some_ne_none _) h

/-- Without a slash nothing is split off. -/
theorem splitLast_of_not_mem (h : '/' ∉ path) : splitLast path = (path, path) := by
  have hname : path.reverse.takeWhile (!isSlash ·) = path.reverse :=
    List.takeWhile_eq_self_iff.2 (not_isSlash_of_not_mem h)
  unfold splitLast
  simp [hname]

/-- What the parent of a path is: the root, the only name there is, or what comes before the last
name. -/
theorem parent?_cases (h : parent? path = some parent) :
    (dropSlashes path = [] ∧ parent = ['/']) ∨
    (dropSlashes path ≠ [] ∧ '/' ∉ dropSlashes path ∧ parent = dropSlashes path) ∨
    ∃ before name, dropSlashes path = before ++ '/' :: name ∧ '/' ∉ name ∧
      parent = if before.isEmpty then ['/'] else before := by
  rw [parent?] at h
  split at h
  · cases h
  · cases h
    by_cases hslash : '/' ∈ dropSlashes path
    · obtain ⟨name, before, hreverse, hname⟩ :=
        List.eq_append_cons_of_mem (List.mem_reverse.2 hslash)
      have hpath : dropSlashes path = before.reverse ++ '/' :: name.reverse := by
        rw [← List.reverse_reverse (dropSlashes path), hreverse]
        simp
      have hout : '/' ∉ name.reverse := fun hmem => hname (List.mem_reverse.1 hmem)
      refine .inr (.inr ⟨before.reverse, name.reverse, hpath, hout, ?_⟩)
      rw [hpath, splitLast_segment hout]
    · rw [splitLast_of_not_mem hslash]
      by_cases hempty : dropSlashes path = []
      · exact .inl ⟨hempty, by rw [hempty]; rfl⟩
      · refine .inr (.inl ⟨hempty, hslash, ?_⟩)
        rw [List.isEmpty_eq_false_iff.2 hempty]
        rfl

theorem head?_of_prefix {start : List Char} (h : start <+: path) (hne : start ≠ []) :
    start.head? = path.head? := by
  obtain ⟨rest, rfl⟩ := h
  rw [List.head?_append_of_ne_nil _ hne]

theorem not_hasName_of_dropSlashes (h : dropSlashes path = []) : ¬ HasName path :=
  fun hname => hname.dropSlashes_ne_nil h

/-- A parent starts as the path does. -/
theorem head?_parent (h : parent? path = some parent) : parent.head? = path.head? := by
  have hne : path ≠ [] := by
    rintro rfl
    cases h
  have hstart := prefix_dropSlashes path
  rcases parent?_cases h with ⟨hempty, rfl⟩ | ⟨hnames, -, rfl⟩ | ⟨before, name, hpath, -, rfl⟩
  · have hslashes := eq_replicate_of_not_hasName (not_hasName_of_dropSlashes hempty)
    obtain ⟨k, hk⟩ := Nat.exists_eq_succ_of_ne_zero (mt List.length_eq_zero_iff.1 hne)
    rw [hslashes, hk]
    rfl
  · exact head?_of_prefix hstart hnames
  · rw [hpath] at hstart
    by_cases hbefore : before = []
    · subst hbefore
      have hhead := head?_of_prefix hstart (List.cons_ne_nil '/' name)
      exact hhead
    · rw [List.isEmpty_eq_false_iff.2 hbefore]
      exact head?_of_prefix ((List.prefix_append _ _).trans hstart) hbefore

theorem two_le_length_of_parent (h : parent? path = some parent) (hslash : '/' ∈ path) :
    2 ≤ path.length := by
  match path, hslash with
  | [c], hslash =>
    rw [← List.mem_singleton.1 hslash] at h
    cases h
  | _ :: _ :: _, _ => exact Nat.le_add_left 2 _

/-- A path that is a name is its own parent. -/
theorem parent?_segment (h : IsSegment path) : parent? path = some path := by
  have hdrop : dropSlashes path = path := dropSlashes_segment [] h
  have hroot : (path == ['/']) = false := by
    rw [beq_eq_false_iff_ne]
    rintro rfl
    exact h.2 List.mem_cons_self
  have hempty := List.isEmpty_eq_false_iff.2 h.1
  rw [parent?, hempty, hroot, hdrop, splitLast_of_not_mem h.2]
  simp [h.1]

/-- Every other parent is shorter. -/
theorem length_parent_lt_iff (h : parent? path = some parent) :
    parent.length < path.length ↔ ¬ IsSegment path := by
  constructor
  · intro hlt hsegment
    rw [parent?_segment hsegment] at h
    cases h
    exact Nat.lt_irrefl _ hlt
  · intro hsegment
    have hstart := prefix_dropSlashes path
    rcases parent?_cases h with ⟨hempty, rfl⟩ | ⟨hnames, hout, rfl⟩ | ⟨before, name, hpath, -, rfl⟩
    · have hslashes := eq_replicate_of_not_hasName (not_hasName_of_dropSlashes hempty)
      have hslash : '/' ∈ path := by
        rw [hslashes, List.mem_replicate]
        refine ⟨fun hlength => ?_, rfl⟩
        rw [List.length_eq_zero_iff.1 hlength] at h
        cases h
      exact two_le_length_of_parent h hslash
    · refine lt_of_le_of_ne hstart.length_le fun hlength => hsegment ?_
      have hself : dropSlashes path = path := hstart.eq_of_length hlength
      rw [hself] at hnames hout
      exact ⟨hnames, hout⟩
    · rw [hpath] at hstart
      have hle := hstart.length_le
      rw [List.length_append, List.length_cons] at hle
      split
      · refine two_le_length_of_parent h (hstart.subset ?_)
        exact List.mem_append_right _ List.mem_cons_self
      · omega

end Parent

/-! ## Going all the way up -/

theorem above?_eq_none_of_absolute {path : List Char} (h : path.head? = some '/') :
    ∃ k, above? k path = none := by
  induction hlength : path.length using Nat.strong_induction_on generalizing path with
  | _ length ih =>
    cases hparent : parent? path with
    | none => exact ⟨1, by rw [above?, hparent]; rfl⟩
    | some parent =>
      have hsegment : ¬ IsSegment path := fun hsegment => hsegment.2 (List.mem_of_mem_head? h)
      have hlt := (length_parent_lt_iff hparent).2 hsegment
      obtain ⟨k, hk⟩ := ih parent.length (hlength ▸ hlt) ((head?_parent hparent).trans h) rfl
      exact ⟨k + 1, by rw [above?, hparent]; exact hk⟩

/-- A relative path has relative paths above it, however far up. -/
theorem exists_above_of_relative {path : List Char} {c : Char} (h : path.head? = some c)
    (hc : c ≠ '/') (k : Nat) : ∃ higher, above? k path = some higher := by
  induction k generalizing path with
  | zero => exact ⟨path, rfl⟩
  | succ k ih =>
    cases hparent : parent? path with
    | none =>
      rcases parent?_eq_none_iff.1 hparent with rfl | rfl
      · cases h
      · exact absurd (Option.some.inj h).symm hc
    | some parent =>
      obtain ⟨higher, hhigher⟩ := ih ((head?_parent hparent).trans h)
      exact ⟨higher, by rw [above?, hparent]; exact hhigher⟩

theorem exists_above_eq_none_iff (path : List Char) :
    (∃ k, above? k path = none) ↔ path = [] ∨ path.head? = some '/' := by
  constructor
  · rintro ⟨k, hk⟩
    cases hhead : path.head? with
    | none => exact .inl (List.head?_eq_none_iff.1 hhead)
    | some c =>
      by_cases hc : c = '/'
      · exact .inr (congrArg some hc)
      · obtain ⟨higher, hhigher⟩ := exists_above_of_relative hhead hc k
        rw [hk] at hhigher
        cases hhigher
  · rintro (rfl | habsolute)
    · exact ⟨1, rfl⟩
    · exact above?_eq_none_of_absolute habsolute

/-! ## The prefixes of the parent -/

theorem length_normal_le (path : List Char) : (normal path).length ≤ path.length := by
  have hnames := (prefix_dropSlashes (Text.trimStart isSlash path)).length_le
  rw [normal, List.length_append]
  by_cases habsolute : path.head? = some '/'
  · obtain ⟨rest, rfl⟩ := List.head?_eq_some_iff.1 habsolute
    have htrim : Text.trimStart isSlash ('/' :: rest) = rest.dropWhile isSlash := rfl
    have hrest : (rest.dropWhile isSlash).length ≤ rest.length :=
      (List.dropWhile_suffix isSlash).length_le
    rw [htrim] at hnames
    rw [rootOf, if_pos habsolute, htrim, List.length_singleton, List.length_cons]
    omega
  · have htrim : (Text.trimStart isSlash path).length ≤ path.length :=
      (List.dropWhile_suffix isSlash).length_le
    rw [rootOf, if_neg habsolute, List.length_nil]
    omega

/-- No prefix is longer than the path. -/
theorem length_le_of_mem_prefixes {path start : List Char} (h : start ∈ prefixes path) :
    start.length ≤ path.length := by
  by_cases hname : HasName path
  · obtain ⟨first, steps, heq, hleads, -⟩ := hname.exists_leads
    obtain ⟨init, hinit⟩ := List.getLast?_eq_some_iff.1 hleads.last
    have : Trans (α := List Char) (· <+: ·) (· <+: ·) (· <+: ·) := ⟨List.IsPrefix.trans⟩
    have hpairs := List.isChain_iff_pairwise.1 hleads.chain
    rw [heq, hinit] at h
    rw [hinit] at hpairs
    refine Nat.le_trans ?_ (length_normal_le path)
    rcases List.mem_append.1 h with hmem | hmem
    · exact ((List.pairwise_append.1 hpairs).2.2 start hmem _ List.mem_cons_self).length_le
    · rw [List.mem_singleton.1 hmem]
  · rw [eq_replicate_of_not_hasName hname] at h ⊢
    match path.length, h with
    | 0, h => cases h
    | 1, h =>
      rw [List.mem_singleton.1 h]
      exact Nat.le_refl _
    | k + 2, h =>
      rw [prefixes_slashes] at h
      rcases List.mem_pair.1 h with rfl | rfl
      · simp
      · exact Nat.zero_le _

/-- For names joined by single slashes these are the paths above. -/
theorem parentPrefixes_absolute {segments : List (List Char)} (h : AreSegments segments) :
    parentPrefixes (absolute segments) = ancestors segments := by
  rcases segments.eq_nil_or_concat' with rfl | ⟨start, segment, rfl⟩
  · rfl
  · have hstart : AreSegments start := fun s hs => h s (List.mem_append_left _ hs)
    rw [parentPrefixes, parent?_concat h.of_concat, ancestors_concat hstart]
    rfl

/-- A path is among the prefixes of its parent only if it is a name. -/
theorem mem_parentPrefixes_iff (path : List Char) : path ∈ parentPrefixes path ↔ IsSegment path := by
  constructor
  · intro h
    rw [parentPrefixes] at h
    cases hparent : parent? path with
    | none =>
      rw [hparent] at h
      cases h
    | some parent =>
      rw [hparent] at h
      by_contra hsegment
      have hlt := (length_parent_lt_iff hparent).2 hsegment
      exact absurd (length_le_of_mem_prefixes h) (Nat.not_le.2 hlt)
  · intro h
    have hsegments : AreSegments [path] := by
      intro segment hmem
      rw [List.mem_singleton.1 hmem]
      exact h
    have hname : HasName path := hasName_join 0 hsegments (List.cons_ne_nil _ _)
    have hnames : namesOf path = [path] := namesOf_join 0 hsegments (List.cons_ne_nil _ _)
    have hroot : path.head? ≠ some '/' := fun hhead => h.2 (List.mem_of_mem_head? hhead)
    rw [parentPrefixes, parent?_segment h, Option.map_some, Option.getD_some,
      hname.prefixes_eq hnames, if_neg hroot, rootOf, if_neg hroot, dropSlashes_next _ h.2,
      if_neg h.1]
    exact List.mem_cons_self

end ContentIndex.NodePath
