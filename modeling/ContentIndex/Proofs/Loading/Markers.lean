import ContentIndex.Loading.Nodes
import ContentIndex.Proofs.Marks
import Mathlib.Data.List.Forall2

/-!
# Markers in properties

The parts of a property are told by positions in lists, one list in another. A property that is
loaded differs from what was given for it at the positions of markers only, as far as there is room
for its lists.
-/

namespace ContentIndex

set_option autoImplicit false

namespace Value

/-- The elements of a list. -/
def inner : Value → List Value
  | .list items _ => items
  | _ => []

/-- The part at a position in lists. -/
def part? : Value → List Nat → Option Value
  | v, [] => some v
  | v, i :: path => v.inner[i]?.bind fun w => part? w path

/-- At most `room` lists stand one in another. -/
def Fits (room : Nat) (v : Value) : Prop :=
  ∀ path items mark, v.part? path = some (.list items mark) → path.length < room

def IsList : Value → Prop
  | .list .. => True
  | _ => False

section Parts

variable {v part : Value} {items : List Value} {mark room : Nat} {path : List Nat}

theorem part?_cons_eq_some_iff {i : Nat} :
    v.part? (i :: path) = some part ↔ ∃ w, v.inner[i]? = some w ∧ w.part? path = some part := by
  rw [part?, Option.bind_eq_some_iff]

theorem inner_of_not_list (h : ¬ v.IsList) : v.inner = [] := by
  cases v with
  | list items mark => exact absurd trivial h
  | _ => rfl

theorem part?_of_not_list (h : ¬ v.IsList) (hpart : v.part? path = some part) :
    path = [] ∧ part = v := by
  cases path with
  | nil => exact ⟨rfl, (Option.some.inj hpart).symm⟩
  | cons i path =>
    obtain ⟨w, hw, -⟩ := part?_cons_eq_some_iff.1 hpart
    rw [inner_of_not_list h] at hw
    cases hw

theorem part?_item {w : Value} (hw : w ∈ items) (hpart : w.part? path = some part)
    (mark : Nat) : ∃ i, (list items mark).part? (i :: path) = some part := by
  obtain ⟨i, hi⟩ := List.mem_iff_getElem?.1 hw
  exact ⟨i, part?_cons_eq_some_iff.2 ⟨w, hi, hpart⟩⟩

theorem fits_of_not_list (h : ¬ v.IsList) (room : Nat) : v.Fits room := by
  intro path items mark hpart
  obtain ⟨-, rfl⟩ := part?_of_not_list h hpart
  exact absurd trivial h

theorem not_fits_zero : ¬ (list items mark).Fits 0 :=
  fun h => absurd (h [] items mark rfl) (Nat.not_lt_zero _)

theorem fits_list : (list items mark).Fits (room + 1) ↔ ∀ v ∈ items, v.Fits room := by
  constructor
  · intro h v hv path inner m hpart
    obtain ⟨i, hi⟩ := part?_item hv hpart mark
    exact Nat.lt_of_succ_lt_succ (h (i :: path) inner m hi)
  · intro h path inner m hpart
    cases path with
    | nil => exact Nat.succ_pos room
    | cons i path =>
      obtain ⟨w, hw, hrest⟩ := part?_cons_eq_some_iff.1 hpart
      exact Nat.succ_lt_succ (h w (List.mem_of_getElem? hw) path inner m hrest)

end Parts

/-! ## Parts apart from marks -/

theorem inner_unmarked (v : Value) : v.unmarked.inner = v.inner.map unmarked := by
  cases v with
  | list items mark => exact unmarkedAll_eq_map items
  | float x =>
    rw [unmarked]
    split <;> rfl
  | _ => rfl

theorem part?_unmarked (v : Value) (path : List Nat) :
    v.unmarked.part? path = (v.part? path).map unmarked := by
  induction path generalizing v with
  | nil => rfl
  | cons i path ih =>
    rw [part?, part?, inner_unmarked, List.getElem?_map]
    cases v.inner[i]? with
    | none => rfl
    | some w => exact ih w

theorem exists_list_of_unmarked {v : Value} {items : List Value} {mark : Nat}
    (h : v.unmarked = (list items mark).unmarked) :
    ∃ others m, v = .list others m ∧ others.length = items.length := by
  cases v with
  | list others m =>
    rw [unmarked, unmarked, unmarkedAll_eq_map, unmarkedAll_eq_map] at h
    have hlength := congrArg List.length (Value.list.inj h).1
    rw [List.length_map, List.length_map] at hlength
    exact ⟨others, m, rfl, hlength⟩
  | float x =>
    rw [unmarked] at h
    split at h <;> cases h
  | _ => cases h

theorem exists_asset_of_unmarked {v : Value} {a : Asset} {mark : Nat}
    (h : v.unmarked = (asset a mark).unmarked) : ∃ m, v = .asset a m := by
  cases v with
  | asset b m =>
    cases h
    exact ⟨m, rfl⟩
  | float x =>
    rw [unmarked] at h
    split at h <;> cases h
  | _ => cases h

end Value

namespace Loading

/-- The markers in a property hold texts. -/
def MarksTexts (v : Value) : Prop :=
  ∀ path part marker, v.part? path = some part → marked? part = some marker →
    ∃ s, marker = .str s

/-- Where the file of a marker lies. -/
def fileAt (base : Option FilePath) (s : String) : FilePath :=
  let p := FilePath.ofText s
  match base with
  | some b => if p.isAbsolute then p else ⟨b.root, b.names ++ p.names⟩
  | none => p

/-- What is loaded for a part: for a list one of the same length, for a marker its file, and for
anything else the same again. -/
inductive Converted (base : Option FilePath) : Value → Value → Prop
  | list {items items' : List Value} {mark mark' : Nat} (h : items.length = items'.length) :
    Converted base (.list items mark) (.list items' mark')
  | marker {v : Value} {s : String} {mark : Nat} (h : marked? v = some (.str s)) :
    Converted base v (.asset (Asset.ofFile (fileAt base s) "") mark)
  | kept {v w : Value} (hlist : ¬ v.IsList) (hmarker : marked? v = none)
      (h : w.unmarked = v.unmarked) : Converted base v w

/-- The value is converted at all positions. -/
def Converts (base : Option FilePath) (v w : Value) : Prop :=
  ∀ path, Option.Rel (Converted base) (v.part? path) (w.part? path)

section Converting

variable {base : Option FilePath} {v w w' : Value} {items items' : List Value} {mark mark' : Nat}

theorem MarksTexts.item (h : MarksTexts (.list items mark)) (hv : v ∈ items) : MarksTexts v := by
  intro path part marker hpart hmarker
  obtain ⟨i, hi⟩ := Value.part?_item hv hpart mark
  exact h (i :: path) part marker hi hmarker

theorem rel_getElem? {R : Value → Value → Prop} (h : List.Forall₂ R items items') (i : Nat) :
    Option.Rel R items[i]? items'[i]? := by
  induction h generalizing i with
  | nil => exact .none
  | cons hv _ ih =>
    cases i with
    | zero => exact .some hv
    | succ i => exact ih i

theorem Converts.list (h : List.Forall₂ (Converts base) items items') :
    Converts base (.list items mark) (.list items' mark') := by
  intro path
  cases path with
  | nil => exact .some (.list h.length_eq)
  | cons i path =>
    have hitem := rel_getElem? h i
    rw [Value.part?, Value.part?, Value.inner, Value.inner]
    generalize items[i]? = v at hitem ⊢
    generalize items'[i]? = w at hitem ⊢
    cases hitem with
    | none => exact .none
    | some hvw => exact hvw path

/-- A value that is no list has only itself as a part. -/
theorem Converts.leaf (hv : ¬ v.IsList) (hw : ¬ w.IsList) (h : Converted base v w) :
    Converts base v w := by
  intro path
  cases path with
  | nil => exact .some h
  | cons i path =>
    rw [Value.part?, Value.part?, Value.inner_of_not_list hv, Value.inner_of_not_list hw]
    exact .none

theorem Converted.of_unmarked (h : Converted base v w) (hw : w'.unmarked = w.unmarked) :
    Converted base v w' := by
  cases h with
  | @list items items' mark mark' hlength =>
    obtain ⟨others, m, rfl, hothers⟩ := Value.exists_list_of_unmarked hw
    exact .list (hlength.trans hothers.symm)
  | @marker _ s mark hmarker =>
    obtain ⟨m, rfl⟩ := Value.exists_asset_of_unmarked hw
    exact .marker hmarker
  | kept hlist hmarker h => exact .kept hlist hmarker (hw.trans h)

/-- What has been loaded is marked later on. -/
theorem Converts.of_unmarked (h : Converts base v w) (hw : w'.unmarked = w.unmarked) :
    Converts base v w' := by
  intro path
  have hparts : (w'.part? path).map Value.unmarked = (w.part? path).map Value.unmarked := by
    rw [← Value.part?_unmarked, ← Value.part?_unmarked, hw]
  have hpath := h path
  cases hpart : w.part? path with
  | none =>
    rw [hpart] at hpath hparts
    rw [Option.map_eq_none_iff.1 hparts]
    exact hpath
  | some part =>
    rw [hpart] at hpath hparts
    obtain ⟨part', hpart', hsame⟩ := Option.map_eq_some_iff.1 hparts
    rw [hpart']
    cases hv : v.part? path with
    | none =>
      rw [hv] at hpath
      cases hpath
    | some given =>
      rw [hv] at hpath
      cases hpath with
      | some hconverted => exact .some (hconverted.of_unmarked hsame)

end Converting

/-! ## Loading a property -/

section Loading

variable {base : Option FilePath} {v : Value} {vs : List Value} {room : Nat}

theorem fileAsset_text (base : Option FilePath) (s : String) :
    fileAsset base (.str s) = .ok (.asset (Asset.ofFile (fileAt base s) "") 0) := by
  cases base <;> rfl

theorem propertyValue_of_not_list (base : Option FilePath) (room : Nat) (h : ¬ v.IsList) :
    propertyValue base room v =
      match marked? v with
      | some path => fileAsset base path
      | none => .ok v := by
  rw [propertyValue.eq_def]
  split
  · exact absurd trivial h
  · exact absurd trivial h
  · rfl

theorem propertyValue_leaf (base : Option FilePath) (room : Nat) (hlist : ¬ v.IsList)
    (h : MarksTexts v) : ∃ w, propertyValue base room v = .ok w ∧ Converts base v w := by
  rw [propertyValue_of_not_list base room hlist]
  cases hmarked : marked? v with
  | none => exact ⟨v, rfl, .leaf hlist hlist (.kept hlist hmarked rfl)⟩
  | some marker =>
    obtain ⟨s, rfl⟩ := h [] v marker rfl hmarked
    exact ⟨_, fileAsset_text base s, .leaf hlist id (.marker hmarked)⟩

mutual
/-- A property is converted if there is room for its lists, and is refused if there is not. -/
theorem propertyValue_outcome (base : Option FilePath) (room : Nat) (v : Value)
    (h : MarksTexts v) :
    (v.Fits room ∧ ∃ w, propertyValue base room v = .ok w ∧ Converts base v w) ∨
      ¬ v.Fits room ∧ propertyValue base room v = .error .tooDeep := by
  cases v with
  | list items mark =>
    cases room with
    | zero => exact .inr ⟨Value.not_fits_zero, rfl⟩
    | succ room =>
      rw [propertyValue]
      rcases propertyValues_outcome base room items fun v hv => h.item hv with
        ⟨hfits, ws, hws, hconverts⟩ | ⟨hfits, hws⟩
      · refine .inl ⟨Value.fits_list.2 hfits, .list ws 0, ?_, .list hconverts⟩
        rw [hws]
        rfl
      · refine .inr ⟨mt Value.fits_list.1 hfits, ?_⟩
        rw [hws]
        rfl
  | _ => exact .inl ⟨Value.fits_of_not_list id room, propertyValue_leaf base room id h⟩

theorem propertyValues_outcome (base : Option FilePath) (room : Nat) (vs : List Value)
    (h : ∀ v ∈ vs, MarksTexts v) :
    ((∀ v ∈ vs, v.Fits room) ∧ ∃ ws, propertyValues base room vs = .ok ws ∧
        List.Forall₂ (Converts base) vs ws) ∨
      (¬ ∀ v ∈ vs, v.Fits room) ∧ propertyValues base room vs = .error .tooDeep := by
  cases vs with
  | nil => exact .inl ⟨List.forall_mem_nil _, [], rfl, .nil⟩
  | cons v rest =>
    obtain ⟨hv, hrest⟩ := List.forall_mem_cons.1 h
    rw [propertyValues, List.forall_mem_cons]
    rcases propertyValue_outcome base room v hv with ⟨hfits, w, hw, hconverts⟩ | ⟨hfits, hw⟩
    · rw [hw]
      dsimp only
      rcases propertyValues_outcome base room rest hrest with
        ⟨hall, ws, hws, hothers⟩ | ⟨hall, hws⟩
      · refine .inl ⟨⟨hfits, hall⟩, w :: ws, ?_, .cons hconverts hothers⟩
        rw [hws]
      · refine .inr ⟨fun hboth => hall hboth.2, ?_⟩
        rw [hws]
    · refine .inr ⟨fun hboth => hfits hboth.1, ?_⟩
      rw [hw]
end

end Loading

end Loading

end ContentIndex
