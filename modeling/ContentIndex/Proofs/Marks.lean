import ContentIndex.Value.Marks
import ContentIndex.Value.Written

/-!
# What has been given out is marked

Marks are given out in ascending order. A value that has been given out no longer waits for a mark,
as long as zero is not given out, and so it is for the values of a dictionary. Apart from its marks
it stays what it was.
-/

namespace ContentIndex.Value

set_option autoImplicit false

/-- Giving out marks goes up, and leaves nothing to wait for. -/
theorem withMarks_marked (v : Value) (next : Nat) :
    next ≤ (v.withMarks next).2 ∧ (0 < next → (v.withMarks next).1.isUnmarked = false) := by
  refine withMarks.induct_unfolding
    (fun _ next r => next ≤ r.2 ∧ (0 < next → r.1.isUnmarked = false))
    (fun _ _ next r => next ≤ r.2) (fun _ _ next r => next ≤ r.2)
    ?notNumber ?float ?nan ?list ?tuple ?set ?dict ?range ?view ?moment ?rule ?asset ?helper
    ?constant ?object ?method ?closure ?settled ?noItems ?item ?noEntries ?entry v next
  case constant =>
    intro next typeName hconstant
    refine ⟨Nat.le_refl _, fun _ => ?_⟩
    obtain h | h := Bool.or_eq_true_iff.1 hconstant <;> simp [isUnmarked, beq_iff_eq.1 h]
  case settled =>
    -- a value of one of the other kinds, or with a mark already
    intro next v
    cases v <;> simp_all [isUnmarked]
  all_goals
    intros
    simp_all [isUnmarked] <;> omega

theorem marked_withMarksEntries {entries done : List (Value × Value)} {next : Nat}
    (hnext : 0 < next) (hdone : ∀ entry ∈ done, entry.2.isUnmarked = false) :
    ∀ entry ∈ (withMarksEntries entries done next).1, entry.2.isUnmarked = false := by
  induction entries generalizing done next with
  | nil => simpa [withMarksEntries] using hdone
  | cons entry rest ih =>
    obtain ⟨k, v⟩ := entry
    have hk := (k.withMarks_marked next).1
    have hv := v.withMarks_marked (k.withMarks next).2
    refine ih (by omega) fun entry hentry => ?_
    obtain rfl | hentry := List.mem_cons.1 hentry
    · exact hv.2 (by omega)
    · exact hdone entry hentry

/-! ## Values apart from their marks -/

mutual
/-- The value with mark zero wherever marks are given out. -/
def unmarked : Value → Value
  | .float x => if x.isNaN then .nan 0 else .float x
  | .nan _ => .nan 0
  | .list items _ => .list (unmarkedAll items) 0
  | .tuple items _ => .tuple (unmarkedAll items) 0
  | .set items _ => .set (unmarkedAll items) 0
  | .dict entries _ => .dict (unmarkedEntries entries) 0
  | .range start stop step _ => .range start stop step 0
  | .view kind entries owner _ => .view kind entries owner 0
  | .moment t _ => .moment t 0
  | .rule name type indexing extractor _ => .rule name type indexing extractor 0
  | .asset a _ => .asset a 0
  | .helper _ => .helper 0
  | .object typeName _ => .object typeName 0
  | .method receiver name _ => .method receiver name 0
  | .closure params body defaults keywordDefaults scope _ =>
    .closure params body defaults keywordDefaults scope 0
  | v => v

def unmarkedAll : List Value → List Value
  | [] => []
  | v :: vs => unmarked v :: unmarkedAll vs

def unmarkedEntries : List (Value × Value) → List (Value × Value)
  | [] => []
  | (k, v) :: rest => (unmarked k, unmarked v) :: unmarkedEntries rest
end

theorem unmarkedAll_eq_map (items : List Value) : unmarkedAll items = items.map unmarked := by
  induction items with
  | nil => rfl
  | cons v vs ih => rw [unmarkedAll, ih, List.map_cons]

theorem unmarkedEntries_eq_map (entries : Entries) :
    unmarkedEntries entries = entries.map fun e => (e.1.unmarked, e.2.unmarked) := by
  induction entries with
  | nil => rfl
  | cons e rest ih => rw [unmarkedEntries, ih, List.map_cons]

/-- Giving out marks changes nothing else. -/
theorem unmarked_withMarks (v : Value) (next : Nat) :
    (v.withMarks next).1.unmarked = v.unmarked := by
  refine withMarks.induct_unfolding
    (fun v _ r => r.1.unmarked = v.unmarked)
    (fun entries done _ r => unmarkedEntries r.1 =
      unmarkedEntries done.reverse ++ unmarkedEntries entries)
    (fun items done _ r => unmarkedAll r.1 = unmarkedAll done.reverse ++ unmarkedAll items)
    ?notNumber ?float ?nan ?list ?tuple ?set ?dict ?range ?view ?moment ?rule ?asset ?helper
    ?constant ?object ?method ?closure ?settled ?noItems ?item ?noEntries ?entry v next
  all_goals
    intros
    simp_all [unmarked, unmarkedAll_eq_map, unmarkedEntries_eq_map]

theorem unmarked_withMarksEntries (entries : Entries) (next : Nat) :
    unmarkedEntries (withMarksEntries entries [] next).1 = unmarkedEntries entries := by
  have hdict := unmarked_withMarks (.dict entries 0) next
  rw [withMarks.eq_def] at hdict
  exact (Value.dict.inj hdict).1

mutual
theorem nesting_unmarked (v : Value) : v.unmarked.nesting = v.nesting := by
  cases v with
  | float x =>
    rw [unmarked]
    split <;> rfl
  | list items mark => rw [unmarked, nesting, nesting, nestingAll_unmarkedAll items]
  | tuple items mark => rw [unmarked, nesting, nesting, nestingAll_unmarkedAll items]
  | set items mark => rw [unmarked, nesting, nesting, nestingAll_unmarkedAll items]
  | dict entries mark => rw [unmarked, nesting, nesting, nestingEntries_unmarkedEntries entries]
  | _ => rfl

theorem nestingAll_unmarkedAll (vs : List Value) : nestingAll (unmarkedAll vs) = nestingAll vs := by
  cases vs with
  | nil => rfl
  | cons v rest =>
    rw [unmarkedAll, nestingAll, nestingAll, nesting_unmarked v, nestingAll_unmarkedAll rest]

theorem nestingEntries_unmarkedEntries (entries : List (Value × Value)) :
    nestingEntries (unmarkedEntries entries) = nestingEntries entries := by
  match entries with
  | [] => rfl
  | (k, v) :: rest =>
    rw [unmarkedEntries, nestingEntries, nestingEntries, nesting_unmarked k, nesting_unmarked v,
      nestingEntries_unmarkedEntries rest]
end

theorem nesting_withMarks (v : Value) (next : Nat) : (v.withMarks next).1.nesting = v.nesting := by
  rw [← nesting_unmarked, unmarked_withMarks, nesting_unmarked]

end ContentIndex.Value
