/-!
# Tables

Keys with values, in the order in which the keys were first put. Putting a key again replaces its
value in place.
-/

namespace ContentIndex

set_option autoImplicit false

abbrev Table (κ α : Type) := List (κ × α)

namespace Table

variable {κ α : Type} [BEq κ]

def put (t : Table κ α) (key : κ) (a : α) : Table κ α :=
  match t with
  | [] => [(key, a)]
  | (k, b) :: rest => if key == k then (key, a) :: rest else (k, b) :: put rest key a

def erase (t : Table κ α) (key : κ) : Table κ α :=
  t.filter fun e => !(key == e.1)

def ofList (entries : List (κ × α)) : Table κ α :=
  entries.foldl (fun t (k, a) => put t k a) []

theorem lookup_map {β : Type} (f : α → β) (t : Table κ α) (key : κ) :
    (t.map fun e => (e.1, f e.2)).lookup key = (t.lookup key).map f := by
  induction t with
  | nil => rfl
  | cons e rest ih =>
    obtain ⟨k, a⟩ := e
    cases h : key == k <;> simp [List.lookup_cons, h, ih]

theorem lookup_put_self [LawfulBEq κ] (t : Table κ α) (key : κ) (a : α) :
    (put t key a).lookup key = some a := by
  induction t with
  | nil => simp [put]
  | cons e rest ih =>
    obtain ⟨k, b⟩ := e
    cases h : key == k <;> simp [put, h, List.lookup_cons, ih]

theorem lookup_put_of_ne [LawfulBEq κ] (t : Table κ α) {key other : κ} (a : α)
    (hne : other ≠ key) : (put t key a).lookup other = t.lookup other := by
  have hne' : (other == key) = false := beq_false_of_ne hne
  induction t with
  | nil => simp [put, List.lookup_cons, hne']
  | cons e rest ih =>
    obtain ⟨k, b⟩ := e
    cases h : key == k with
    | true => simp [put, List.lookup_cons, hne', ← eq_of_beq h]
    | false => simp [put, h, List.lookup_cons, ih]

theorem lookup_erase_self [LawfulBEq κ] (t : Table κ α) (key : κ) :
    (erase t key).lookup key = none := by
  unfold erase
  induction t with
  | nil => rfl
  | cons e rest ih =>
    obtain ⟨k, b⟩ := e
    cases h : key == k <;> simp [h, List.lookup_cons, ih]

theorem lookup_erase_of_ne [LawfulBEq κ] (t : Table κ α) {key other : κ} (hne : other ≠ key) :
    (erase t key).lookup other = t.lookup other := by
  have hne' : (other == key) = false := beq_false_of_ne hne
  unfold erase
  induction t with
  | nil => rfl
  | cons e rest ih =>
    obtain ⟨k, b⟩ := e
    cases h : key == k with
    | true => simp [List.lookup_cons, ih, hne', ← eq_of_beq h]
    | false => simp [h, List.lookup_cons, ih]

/-- The keys after putting one: the same, or with the new one at the end. -/
theorem keys_put [LawfulBEq κ] (t : Table κ α) (key : κ) (a : α) :
    (put t key a).map (·.1) =
      if key ∈ t.map (·.1) then t.map (·.1) else t.map (·.1) ++ [key] := by
  induction t with
  | nil => simp [put]
  | cons e rest ih =>
    obtain ⟨k, b⟩ := e
    by_cases h : key = k
    · subst h; simp [put]
    · simp only [put, beq_iff_eq, h, if_false, List.map_cons, List.mem_cons, false_or, ih]
      split <;> simp

theorem mem_put {t : Table κ α} {key : κ} {a : α} {e : κ × α} (h : e ∈ put t key a) :
    e ∈ t ∨ e = (key, a) := by
  induction t with
  | nil => exact .inr (List.mem_singleton.1 h)
  | cons e' rest ih =>
    obtain ⟨k, b⟩ := e'
    unfold put at h
    split at h
    · rcases List.mem_cons.1 h with rfl | h
      · exact .inr rfl
      · exact .inl (List.mem_cons_of_mem _ h)
    · rcases List.mem_cons.1 h with rfl | h
      · exact .inl List.mem_cons_self
      · exact (ih h).imp (List.mem_cons_of_mem _) id

theorem mem_of_mem_erase {t : Table κ α} {key : κ} {e : κ × α} (h : e ∈ erase t key) : e ∈ t :=
  (List.mem_filter.1 h).1

end Table

end ContentIndex
