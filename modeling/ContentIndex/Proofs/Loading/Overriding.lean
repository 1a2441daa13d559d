import ContentIndex.Indexing
import ContentIndex.Proofs.Loading.Merging
import Mathlib.Data.List.Nodup
import Mathlib.Logic.ExistsUnique

/-!
# What an override leaves of a base

Where a path leads in a merged dictionary is decided at the last place on it where the override has
something. A dictionary there lets the base show behind it, or is merged with a dictionary of the
base at the same place; anything else replaces what the base has and cuts off what stood below.
-/

namespace ContentIndex

set_option autoImplicit false

namespace Value

variable {v w : Value} {before : Option Value} {key : Key} {path front rest : List Key}

theorem at?_append (v : Value) (front rest : List Key) :
    v.at? (front ++ rest) = (v.at? front).bind fun w => w.at? rest := by
  induction front generalizing v with
  | nil => rw [List.nil_append, at?_nil, Option.bind_some]
  | cons key front ih =>
    rw [List.cons_append, at?, at?, Option.bind_assoc (v.entries?.bind _)]
    exact congrArg _ (funext fun w => ih w)

/-- Names are followed as the keys that they are. -/
theorem lookup?_eq_at? (v : Value) (names : List String) :
    v.lookup? names = v.at? (names.map fun name => [.str name]) := by
  induction names generalizing v with
  | nil => rw [lookup?, List.map_nil, at?_nil]
  | cons name names ih =>
    rw [lookup?, List.map_cons, at?]
    cases v.entries? with
    | none => rfl
    | some entries =>
      rw [Option.bind_some, ← Entries.findText?]
      dsimp only
      cases Entries.findText? entries name with
      | none => rfl
      | some w => exact ih w

theorem AllDistinct.at? (h : v.AllDistinct) (hw : v.at? front = some w) : w.AllDistinct := by
  intro path entries mark hpath
  refine h (front ++ path) entries mark ?_
  rw [at?_append, hw]
  exact hpath

/-! ## How far a path leads -/

/-- The part of a path up to which there is something. -/
structure Farthest (v : Value) (path front : List Key) : Prop where
  isPrefix : front <+: path
  stands : (v.at? front).isSome
  longest : ∀ other, other <+: path → (v.at? other).isSome → other <+: front

theorem exists_farthest (v : Value) (path : List Key) : ∃ front, v.Farthest path front := by
  induction path generalizing v with
  | nil =>
    refine ⟨[], List.prefix_rfl, ?_, fun _ hother _ => hother⟩
    rw [at?_nil]
    rfl
  | cons key path ih =>
    have hcons : ∀ rest, v.at? (key :: rest) = (v.at? [key]).bind fun w => w.at? rest :=
      at?_append v [key]
    cases hkey : v.at? [key] with
    | none =>
      refine ⟨[], List.nil_prefix, by rw [at?_nil]; rfl, fun other hother hstands => ?_⟩
      cases other with
      | nil => exact List.prefix_rfl
      | cons key' other =>
        obtain rfl := (List.cons_prefix_cons.1 hother).1
        rw [hcons, hkey] at hstands
        cases hstands
    | some w =>
      obtain ⟨front, hfront⟩ := ih w
      have hbelow : ∀ rest, v.at? (key :: rest) = w.at? rest := fun rest => by
        rw [hcons, hkey, Option.bind_some]
      refine ⟨key :: front, List.cons_prefix_cons.2 ⟨rfl, hfront.isPrefix⟩, ?_, ?_⟩
      · rw [hbelow]
        exact hfront.stands
      · intro other hother hstands
        cases other with
        | nil => exact List.nil_prefix
        | cons key' other =>
          obtain ⟨rfl, hrest⟩ := List.cons_prefix_cons.1 hother
          rw [hbelow] at hstands
          exact List.cons_prefix_cons.2 ⟨rfl, hfront.longest other hrest hstands⟩

theorem Farthest.unique {other : List Key} (h : v.Farthest path front)
    (h' : v.Farthest path other) : front = other :=
  (h'.longest front h.isPrefix h.stands).eq_of_length_le
    (h.longest other h'.isPrefix h'.stands).length_le

theorem farthest_self (h : v.at? path = some w) : v.Farthest path path :=
  ⟨List.prefix_rfl, Option.isSome_of_eq_some h, fun _ hother _ => hother⟩

theorem farthest_of_stops (h : v.at? front = some w)
    (hkey : v.at? (front ++ [key]) = Option.none) (rest : List Key) :
    v.Farthest (front ++ key :: rest) front := by
  refine ⟨List.prefix_append _ _, Option.isSome_of_eq_some h, fun other hother hstands => ?_⟩
  obtain hfront | ⟨below, rfl⟩ := List.prefix_or_prefix_of_prefix hother (List.prefix_append _ _)
  · exact hfront
  · rw [List.prefix_append_right_inj] at hother
    cases below with
    | nil => exact (List.append_nil front).symm ▸ List.prefix_rfl
    | cons key' below =>
      obtain rfl := (List.cons_prefix_cons.1 hother).1
      rw [← List.singleton_append, ← List.append_assoc, at?_append, hkey] at hstands
      cases hstands

/-- Past the farthest place there is nothing under the next key. -/
theorem Farthest.stops (h : v.Farthest path front) (hne : front ≠ path) :
    ∃ key rest, path = front ++ key :: rest ∧ v.at? (front ++ [key]) = Option.none := by
  obtain ⟨rest, rfl⟩ := h.isPrefix
  cases rest with
  | nil => exact absurd (List.append_nil front).symm hne
  | cons key rest =>
    refine ⟨key, rest, rfl, Option.not_isSome_iff_eq_none.1 fun hstands => ?_⟩
    have hprefix : front ++ [key] <+: front ++ key :: rest := ⟨rest, by simp⟩
    have hlength := (h.longest _ hprefix hstands).length_le
    rw [List.length_append, List.length_singleton] at hlength
    omega

/-! ## Merging along a path -/

theorem mergeValue_dict_dict (base override : Entries) (m m' : Nat) :
    mergeValue (some (.dict base m)) (.dict override m') = .dict (mergeEntries base override) 0 :=
  rfl

/-- What the override has somewhere has been merged into what stood there. -/
theorem at?_mergeValue_of_stands (hv : v.AllDistinct) (h : v.at? front = some w) :
    (mergeValue before v).at? front =
      some (mergeValue (before.bind fun a => a.at? front) w) := by
  induction front generalizing before v with
  | nil =>
    rw [at?_nil] at h
    cases h
    cases before <;> simp
  | cons key front ih =>
    rcases before with _ | a
    · rw [mergeValue_none, h, Option.bind_none, mergeValue_none]
    cases hdict : a.isDict with
    | false =>
      rw [mergeValue_dict_of_not_dict hdict, h, Option.bind_some, at?_of_not_dict hdict,
        mergeValue_none]
    | true =>
      obtain ⟨base, m, rfl⟩ := exists_dict hdict
      cases hover : v.isDict with
      | false =>
        rw [at?_of_not_dict hover] at h
        cases h
      | true =>
        obtain ⟨override, m', rfl⟩ := exists_dict hover
        rw [at?_dict] at h
        obtain ⟨x, hx, hfront⟩ := Option.bind_eq_some_iff.1 h
        rw [mergeValue_dict_dict, at?_dict, Entries.find?_merge (hv [] _ _ (at?_nil _)), hx]
        exact ih (hv.find? hx) hfront

/-- Under a key that the override lacks the base shows, unless the override is no dictionary. -/
theorem at?_mergeValue_of_stops (hw : w.AllDistinct) (hkey : w.at? [key] = Option.none) :
    (mergeValue before w).at? (key :: rest) =
      if w.isDict then before.bind fun a => a.at? (key :: rest) else Option.none := by
  have hbelow : w.at? (key :: rest) = Option.none := by
    rw [← List.singleton_append, at?_append, hkey, Option.bind_none]
  cases hdict : w.isDict with
  | false =>
    rw [mergeValue_of_not_dict hdict, hbelow]
    rfl
  | true =>
    rw [if_pos rfl]
    rcases before with _ | a
    · rw [mergeValue_none, hbelow, Option.bind_none]
    cases hbase : a.isDict with
    | false =>
      rw [mergeValue_dict_of_not_dict hbase, hbelow, Option.bind_some, at?_of_not_dict hbase]
    | true =>
      obtain ⟨base, m, rfl⟩ := exists_dict hbase
      obtain ⟨override, m', rfl⟩ := exists_dict hdict
      have hnone : Entries.find? override key = Option.none := by
        rw [at?_dict] at hkey
        cases hf : Entries.find? override key with
        | none => rfl
        | some x =>
          rw [hf, Option.bind_some, at?_nil] at hkey
          cases hkey
      rw [mergeValue_dict_dict, at?_dict, Entries.find?_merge (hw [] _ _ (at?_nil _)), hnone,
        Option.bind_some, at?_dict]

/-- The keys of the base in its order, then the new ones of the override in its order. -/
theorem names_mergeEntries {base override : Entries} (hbase : base.Distinct)
    (hover : override.Distinct) :
    Entries.names (mergeEntries base override) =
      Entries.names base ++
        (Entries.names override).filter fun k => k.key? ∉ (Entries.names base).map key? := by
  rw [hbase.names_merge, firsts_append, firsts_of_nodup hbase, firsts_of_nodup hover]
  exact congrArg _ (List.filter_congr fun _ _ => decide_eq_decide.2 Iff.rfl)

/-- Where a path leads after a merge, by what the override has at the last place on the path where
it has something. Dictionaries that meet are merged again, with the keys of the base first. -/
theorem merge_at_path {base override : Entries} {m m' : Nat}
    (hbase : (dict base m).AllDistinct) (hover : (dict override m').AllDistinct) :
    let lower := dict base m
    let upper := dict override m'
    let merged := dict (mergeEntries base override) 0
    (∀ I st, Indexing.mergeDicts I lower upper st = (.ok merged, st)) ∧
    (∀ path, merged.getPath? path =
      merged.at? ((pathSegments path).map fun name => [.str name])) ∧
    (∀ path, ∃! front, upper.Farthest path front) ∧
    (∀ path front w, upper.Farthest path front → upper.at? front = some w →
      (w.isDict = false → front = path → merged.at? path = some w) ∧
      (w.isDict = false → front ≠ path → merged.at? path = Option.none) ∧
      (w.isDict = true → front ≠ path → merged.at? path = lower.at? path) ∧
      (∀ os n', w = dict os n' → front = path →
        (∀ es n, lower.at? path = some (dict es n) →
          merged.at? path = some (dict (mergeEntries es os) 0)) ∧
        ((∀ es n, lower.at? path ≠ some (dict es n)) → merged.at? path = some w))) ∧
    (∀ path es os n n', lower.at? path = some (dict es n) → upper.at? path = some (dict os n') →
      Entries.names (mergeEntries es os) =
        Entries.names es ++
          (Entries.names os).filter fun k => k.key? ∉ (Entries.names es).map key?) := by
  intro lower upper merged
  have hmerged : merged = mergeValue (some lower) upper := rfl
  have hstands {front : List Key} {w : Value} (hw : upper.at? front = some w) :
      merged.at? front = some (mergeValue (lower.at? front) w) := by
    rw [hmerged, at?_mergeValue_of_stands hover hw, Option.bind_some]
  refine ⟨fun _ _ => rfl, fun path => lookup?_eq_at? _ _, fun path => ?_, ?_, ?_⟩
  · obtain ⟨front, hfront⟩ := exists_farthest upper path
    exact ⟨front, hfront, fun _ hother => hother.unique hfront⟩
  · intro path front w hfront hw
    have hstops (hne : front ≠ path) :
        merged.at? path = if w.isDict then lower.at? path else Option.none := by
      obtain ⟨key, rest, rfl, hkey⟩ := hfront.stops hne
      rw [at?_append, hw, Option.bind_some] at hkey
      rw [at?_append, hstands hw, Option.bind_some,
        at?_mergeValue_of_stops (hover.at? hw) hkey, at?_append]
    refine ⟨?_, ?_, ?_, ?_⟩
    · rintro hdict rfl
      rw [hstands hw, mergeValue_of_not_dict hdict]
    · intro hdict hne
      rw [hstops hne, hdict, if_neg Bool.false_ne_true]
    · intro hdict hne
      rw [hstops hne, hdict, if_pos rfl]
    · rintro os n' rfl rfl
      rw [hstands hw]
      constructor
      · intro es n hes
        rw [hes, mergeValue_dict_dict]
      · intro hnone
        cases ha : lower.at? front with
        | none => rw [mergeValue_none]
        | some a =>
          have hdict : a.isDict = false := by
            refine Bool.eq_false_iff.2 fun hdict => ?_
            obtain ⟨es, n, rfl⟩ := exists_dict hdict
            exact hnone es n ha
          rw [mergeValue_dict_of_not_dict hdict]
  · intro path es os n n' hes hos
    exact names_mergeEntries (hbase path es n hes) (hover path os n' hos)

/-- A section on both sides, a section in the place of a number, and a number that is new. -/
theorem merge_at_path_sections :
    let base := [(.str "a", dict [(.str "x", .int 1)] 1), (.str "b", .int 2)]
    let override := [(.str "c", .int 3), (.str "a", dict [(.str "y", .int 4)] 2),
      (.str "b", dict [] 3)]
    let merged := dict (mergeEntries base override) 0
    (dict base 4).AllDistinct ∧ (dict override 5).AllDistinct ∧
    merged.getPath? "a.x" = some (.int 1) ∧ merged.getPath? "b" = some (dict [] 3) ∧
    merged.getPath? "c.z" = Option.none ∧
    Entries.names (mergeEntries base override) = [.str "a", .str "b", .str "c"] := by
  intro base override merged
  have hleaf (v : Value) (h : v.isDict = false) (name : String) (mark : Nat) :
      (dict [(.str name, v)] mark).AllDistinct := by
    have hkeys : Entries.Distinct [(.str name, v)] := List.nodup_singleton _
    exact .dict hkeys (List.forall_mem_singleton.2 (.of_not_dict h)) mark
  have hbase : (dict base 4).AllDistinct := by
    refine .dict (by decide) (List.forall_mem_cons.2 ⟨hleaf (.int 1) rfl _ _, ?_⟩) 4
    exact List.forall_mem_singleton.2 (.of_not_dict rfl)
  have hover : (dict override 5).AllDistinct := by
    refine .dict (by decide) (List.forall_mem_cons.2 ⟨.of_not_dict rfl, ?_⟩) 5
    refine List.forall_mem_cons.2 ⟨hleaf (.int 4) rfl _ _, List.forall_mem_singleton.2 ?_⟩
    exact .dict (by decide) (List.forall_mem_nil _) 3
  obtain ⟨-, hget, -, hpaths, hnames⟩ := merge_at_path hbase hover
  have hbehind : (dict override 5).Farthest ([[.str "a"]] ++ [[.str "x"]]) [[.str "a"]] :=
    farthest_of_stops rfl rfl []
  have hbelow : (dict override 5).Farthest ([[.str "c"]] ++ [[.str "z"]]) [[.str "c"]] :=
    farthest_of_stops rfl rfl []
  have hkept := (hpaths _ _ _ hbehind rfl).2.2.1 rfl (by decide)
  have htaken := ((hpaths [[.str "b"]] [[.str "b"]] _ (farthest_self rfl) rfl).2.2.2 [] 3 rfl
    rfl).2 (fun _ _ => nofun)
  have hcut := (hpaths _ _ _ hbelow rfl).2.1 rfl (by decide)
  exact ⟨hbase, hover, (hget "a.x").trans hkept, (hget "b").trans htaken, (hget "c.z").trans hcut,
    hnames [] base override 4 5 rfl rfl⟩

end Value

end ContentIndex
