import ContentIndex.NodePath
import Mathlib.Data.List.Nodup
import Mathlib.Data.List.Range

/-!
# Paths and their segments

An absolute path is a slash with names behind it, a slash between any two of them. Its parent is
the path of all names but the last, and its prefixes are the paths of the first names of each
number, the whole path being the last of them.
-/

namespace ContentIndex.NodePath

set_option autoImplicit false

/-- A name in a path: some text without a slash. -/
def IsSegment (segment : List Char) : Prop :=
  segment ≠ [] ∧ '/' ∉ segment

def AreSegments (segments : List (List Char)) : Prop :=
  ∀ segment ∈ segments, IsSegment segment

/-- The path with these names; without any it is the root. -/
def absolute (segments : List (List Char)) : List Char :=
  '/' :: Text.join ['/'] segments

/-- The path with a slash behind every name, to put another name there. -/
def opened (segments : List (List Char)) : List Char :=
  '/' :: segments.flatMap (· ++ ['/'])

/-- The paths above a path, from the root down: those of its first names, for every number of names
but all. -/
def ancestors (segments : List (List Char)) : List (List Char) :=
  (List.range segments.length).map fun n => absolute (segments.take n)

section Cutting

variable {segment before rest : List Char}

theorem dropSlashes_concat (path : List Char) : dropSlashes (path ++ ['/']) = dropSlashes path := by
  simp [dropSlashes, Text.trimEnd, isSlash]

/-- A path that ends in a name has no slashes to drop. -/
theorem dropSlashes_segment (path : List Char) (h : IsSegment segment) :
    dropSlashes (path ++ segment) = path ++ segment := by
  obtain ⟨start, c, rfl⟩ := List.eq_nil_or_concat segment |>.resolve_left h.1
  have hc : isSlash c = false := by
    rw [isSlash, beq_eq_false_iff_ne]
    rintro rfl
    exact h.2 (by simp)
  simp [dropSlashes, Text.trimEnd, hc]

theorem not_isSlash_of_not_mem (h : '/' ∉ segment) :
    ∀ c ∈ segment.reverse, (!isSlash c) = true := by
  intro c hc
  rw [isSlash, Bool.not_eq_true', beq_eq_false_iff_ne]
  rintro rfl
  exact h (List.mem_reverse.1 hc)

/-- A path is split at its last slash. -/
theorem splitLast_segment (h : '/' ∉ segment) :
    splitLast (before ++ '/' :: segment) = (before, segment) := by
  have hname : (before ++ '/' :: segment).reverse.takeWhile (!isSlash ·) = segment.reverse := by
    rw [List.reverse_append, List.reverse_cons, List.append_assoc,
      List.takeWhile_append_of_pos (not_isSlash_of_not_mem h)]
    simp [isSlash]
  have hlength : (before ++ '/' :: segment).length - segment.length - 1 = before.length := by
    simp only [List.length_append, List.length_cons]
    omega
  unfold splitLast
  simp only [hname, List.reverse_reverse, hlength, List.take_left]
  rw [if_neg]
  simp only [List.length_append, List.length_cons, beq_iff_eq]
  omega

end Cutting

section Joining

variable {segments others : List (List Char)} {segment : List Char}

theorem join_cons (segment : List Char) (h : segments ≠ []) :
    Text.join ['/'] (segment :: segments) = segment ++ '/' :: Text.join ['/'] segments := by
  rw [Text.join, List.append_assoc]
  · rfl
  · exact h

theorem join_concat (segments : List (List Char)) (segment : List Char) :
    Text.join ['/'] (segments ++ [segment]) = segments.flatMap (· ++ ['/']) ++ segment := by
  induction segments with
  | nil => rfl
  | cons first rest ih =>
    rw [List.cons_append, join_cons _ (by simp), ih, List.flatMap_cons]
    simp

theorem absolute_concat (segments : List (List Char)) (segment : List Char) :
    absolute (segments ++ [segment]) = opened segments ++ segment := by
  rw [absolute, join_concat, opened, List.cons_append]

theorem opened_concat (segments : List (List Char)) (segment : List Char) :
    opened (segments ++ [segment]) = absolute (segments ++ [segment]) ++ ['/'] := by
  rw [absolute_concat]
  simp [opened]

/-- Only the root ends in the slash that another name comes behind. -/
theorem exists_opened (segments : List (List Char)) :
    ∃ before, opened segments = before ++ ['/'] ∧
      (if before.isEmpty then ['/'] else before) = absolute segments := by
  rcases segments.eq_nil_or_concat' with rfl | ⟨start, segment, rfl⟩
  · exact ⟨[], rfl, rfl⟩
  · exact ⟨absolute (start ++ [segment]), opened_concat start segment, rfl⟩

theorem AreSegments.of_concat (h : AreSegments (segments ++ [segment])) : IsSegment segment :=
  h segment (by simp)

theorem AreSegments.tail (h : AreSegments (segment :: segments)) : AreSegments segments :=
  fun s hs => h s (List.mem_cons_of_mem _ hs)

theorem join_ne_nil (h : AreSegments segments) (hne : segments ≠ []) :
    Text.join ['/'] segments ≠ [] := by
  obtain ⟨start, segment, rfl⟩ := segments.eq_nil_or_concat'.resolve_left hne
  rw [join_concat]
  exact List.append_ne_nil_of_right_ne_nil _ h.of_concat.1

/-- Cutting at the slashes gives the names back. -/
theorem splitAtMost_join (h : AreSegments segments) (hne : segments ≠ []) {limit : Nat}
    (hlimit : segments.length ≤ limit + 1) :
    Text.splitAtMost ['/'] limit (Text.join ['/'] segments) = segments := by
  induction segments generalizing limit with
  | nil => exact absurd rfl hne
  | cons segment rest ih =>
    have hslash : '/' ∉ segment := (h segment List.mem_cons_self).2
    cases rest with
    | nil =>
      cases limit with
      | zero => rfl
      | succ limit => rw [Text.join, Text.splitAtMost, Text.cut?_of_not_mem hslash]
    | cons next rest =>
      cases limit with
      | zero => simp at hlimit
      | succ limit =>
        rw [join_cons _ (by simp), Text.splitAtMost, Text.cut?_first hslash]
        exact congrArg (segment :: ·) (ih h.tail (by simp) (Nat.le_of_succ_le_succ hlimit))

theorem length_le_join (segments : List (List Char)) :
    segments.length ≤ (Text.join ['/'] segments).length + 1 := by
  induction segments with
  | nil => exact Nat.zero_le _
  | cons segment rest ih =>
    cases rest with
    | nil => exact Nat.le_add_left _ _
    | cons next rest =>
      rw [join_cons _ (by simp), List.length_append]
      simp only [List.length_cons] at ih ⊢
      omega

theorem splitOn_join (h : AreSegments segments) (hne : segments ≠ []) :
    Text.splitOn ['/'] (Text.join ['/'] segments) = segments :=
  splitAtMost_join h hne (length_le_join segments)

theorem absolute_injective (h : AreSegments segments) (ho : AreSegments others)
    (heq : absolute segments = absolute others) : segments = others := by
  have hjoin := (List.cons.inj heq).2
  by_cases hne : segments = []
  · subst hne
    by_cases hone : others = []
    · exact hone.symm
    · exact absurd hjoin.symm (join_ne_nil ho hone)
  · by_cases hone : others = []
    · subst hone
      exact absurd hjoin (join_ne_nil h hne)
    · rw [← splitOn_join h hne, hjoin, splitOn_join ho hone]

/-! ## The parent -/

theorem absolute_ne_root (h : IsSegment segment) : absolute (segments ++ [segment]) ≠ ['/'] := by
  rw [absolute_concat, opened, List.cons_append]
  intro heq
  exact h.1 (List.append_eq_nil_iff.1 (List.cons.inj heq).2).2

theorem parent?_concat (h : IsSegment segment) :
    parent? (absolute (segments ++ [segment])) = some (absolute segments) := by
  have hroot : (absolute (segments ++ [segment]) == ['/']) = false :=
    beq_eq_false_iff_ne.2 (absolute_ne_root h)
  obtain ⟨before, hopened, hbefore⟩ := exists_opened segments
  have hsplit : splitLast (dropSlashes (absolute (segments ++ [segment]))) = (before, segment) := by
    rw [absolute_concat, dropSlashes_segment _ h, hopened, List.append_assoc]
    exact splitLast_segment h.2
  have hempty : (absolute (segments ++ [segment])).isEmpty = false := rfl
  rw [parent?, hroot, hempty, hsplit]
  exact congrArg some hbefore

/-! ## The prefixes -/

theorem prefixesFrom_opened (done : List (List Char)) (h : AreSegments segments) :
    prefixesFrom (opened done) segments =
      (List.range segments.length).map fun n => absolute (done ++ segments.take (n + 1)) := by
  induction segments generalizing done with
  | nil => rfl
  | cons segment rest ih =>
    have hsegment : IsSegment segment := h segment List.mem_cons_self
    have hnext : opened done ++ segment ++ ['/'] = opened (done ++ [segment]) := by
      rw [opened_concat, absolute_concat]
    have hfirst : dropSlashes (opened (done ++ [segment])) = absolute (done ++ [segment]) := by
      rw [opened_concat, dropSlashes_concat, absolute_concat, dropSlashes_segment _ hsegment]
    rw [prefixesFrom, hnext, hfirst, ih (done ++ [segment]) h.tail, List.length_cons,
      List.range_succ_eq_map, List.map_cons, List.map_map]
    simp [Function.comp_def]

theorem trimStart_absolute (h : AreSegments segments) :
    Text.trimStart isSlash (absolute segments) = Text.join ['/'] segments := by
  have hslash : Text.trimStart isSlash (absolute segments) =
      (Text.join ['/'] segments).dropWhile isSlash := rfl
  rw [hslash]
  cases segments with
  | nil => rfl
  | cons segment rest =>
    obtain ⟨hne, hout⟩ := h segment List.mem_cons_self
    obtain ⟨c, cs, rfl⟩ := List.exists_cons_of_ne_nil hne
    have hc : isSlash c = false :=
      beq_eq_false_iff_ne.2 fun heq => hout (heq ▸ List.mem_cons_self)
    cases rest with
    | nil => simp [Text.join, hc]
    | cons next rest => simp [Text.join, hc]

theorem prefixes_absolute (h : AreSegments segments) :
    prefixes (absolute segments) = ancestors segments ++ [absolute segments] := by
  have hall : ancestors segments ++ [absolute segments] =
      (List.range (segments.length + 1)).map fun n => absolute (segments.take n) := by
    rw [List.range_succ, List.map_append, ancestors, List.map_singleton, List.take_length]
  rw [hall]
  by_cases hne : segments = []
  · subst hne
    rfl
  · obtain ⟨start, segment, rfl⟩ := segments.eq_nil_or_concat'.resolve_left hne
    have hroot : (absolute (start ++ [segment]) == ['/']) = false :=
      beq_eq_false_iff_ne.2 (absolute_ne_root h.of_concat)
    generalize start ++ [segment] = segments at *
    have hempty : (absolute segments).isEmpty = false := rfl
    have hhead : ((absolute segments).head? == some '/') = true := rfl
    rw [prefixes, hempty, hroot, trimStart_absolute h, splitOn_join h hne]
    simp only [hhead, Bool.false_eq_true, if_false, if_true]
    rw [List.range_succ_eq_map, List.map_cons, List.map_map]
    exact congrArg (['/'] :: ·) (prefixesFrom_opened [] h)

/-! ## The paths above a path -/

theorem ancestors_concat (h : AreSegments segments) (segment : List Char) :
    ancestors (segments ++ [segment]) = prefixes (absolute segments) := by
  have hlength : (segments ++ [segment]).length = segments.length + 1 := by simp
  have htake : ∀ n ∈ List.range (segments.length + 1),
      absolute ((segments ++ [segment]).take n) = absolute (segments.take n) := by
    intro n hn
    rw [List.take_append_of_le_length (Nat.lt_succ_iff.1 (List.mem_range.1 hn))]
  rw [prefixes_absolute h, ancestors, hlength, List.map_congr_left htake, List.range_succ,
    List.map_append, List.map_singleton, List.take_length, ancestors]

theorem AreSegments.take (h : AreSegments segments) (n : Nat) : AreSegments (segments.take n) :=
  fun s hs => h s (List.mem_of_mem_take hs)

theorem nodup_ancestors (h : AreSegments segments) : (ancestors segments).Nodup := by
  refine List.Nodup.map_on ?_ List.nodup_range
  intro m hm n hn heq
  have htake := absolute_injective (h.take m) (h.take n) heq
  have hlength := congrArg List.length htake
  rw [List.mem_range] at hm hn
  simp only [List.length_take] at hlength
  omega

theorem mem_ancestors_iff (h : AreSegments segments) (ho : AreSegments others) :
    absolute others ∈ ancestors segments ↔ others <+: segments ∧ others ≠ segments := by
  rw [ancestors, List.mem_map]
  constructor
  · rintro ⟨n, hn, heq⟩
    rw [List.mem_range] at hn
    have htake := absolute_injective (h.take n) ho heq
    subst htake
    refine ⟨List.take_prefix n segments, fun hall => ?_⟩
    have hlength := congrArg List.length hall
    rw [List.length_take] at hlength
    omega
  · rintro ⟨hbegins, hne⟩
    refine ⟨others.length, ?_, ?_⟩
    · rw [List.mem_range]
      refine lt_of_le_of_ne hbegins.length_le fun hlength => ?_
      exact hne (hbegins.eq_of_length hlength)
    · rw [← List.prefix_iff_eq_take.1 hbegins]

end Joining

end ContentIndex.NodePath
