import ContentIndex.Files

/-!
# What writing a file changes

A file that has been written has the new content, and every other file the one it had; a text comes
back from its content.
-/

namespace ContentIndex.Files

set_option autoImplicit false

variable {fs files : Files} {path : FilePath} {names other : List String} {bytes : ByteArray}

/-- The content under some names replaced, if there is any. -/
def replaced (names : List String) (bytes : ByteArray) (e : List String × ByteArray) :
    List String × ByteArray :=
  if e.1 == names then (names, bytes) else e

theorem lookup_replaced_self {entries : List (List String × ByteArray)}
    (h : (entries.lookup names).isSome = true) :
    (entries.map (replaced names bytes)).lookup names = some bytes := by
  induction entries with
  | nil => cases h
  | cons e rest ih =>
    obtain ⟨k, b⟩ := e
    by_cases hk : names = k
    · subst hk
      simp [replaced]
    · have hne : (names == k) = false := beq_false_of_ne hk
      rw [List.lookup_cons, hne] at h
      simp [replaced, List.lookup_cons, hne, Ne.symm hk, ih h]

theorem lookup_replaced_of_ne (entries : List (List String × ByteArray))
    (h : other ≠ names) :
    (entries.map (replaced names bytes)).lookup other = entries.lookup other := by
  induction entries with
  | nil => rfl
  | cons e rest ih =>
    obtain ⟨k, b⟩ := e
    by_cases hk : k = names
    · subst hk
      have hne : (other == k) = false := beq_false_of_ne h
      simp [replaced, List.lookup_cons, hne, ih]
    · simp [replaced, hk, List.lookup_cons, ih]

theorem content?_put_self (fs : Files) (names : List String) (bytes : ByteArray) :
    (fs.put names bytes).content? names = some bytes := by
  unfold put
  split
  · next h => exact lookup_replaced_self h
  · next h =>
    have hnone : fs.entries.lookup names = none := Option.not_isSome_iff_eq_none.1 h
    simp [content?, List.lookup_append, hnone]

theorem content?_put_of_ne (fs : Files) (bytes : ByteArray) (h : other ≠ names) :
    (fs.put names bytes).content? other = fs.content? other := by
  unfold put
  split
  · exact lookup_replaced_of_ne fs.entries h
  · have hne : (other == names) = false := beq_false_of_ne h
    simp [content?, List.lookup_append, List.lookup_cons, hne]

/-- A text without carriage returns comes back as it was written. -/
theorem readText_of_read {s : String} (hread : fs.read path = .ok s.toUTF8)
    (h : '\r' ∉ s.toList) : fs.readText path = .ok s := by
  have hvalid : String.fromUTF8? s.toUTF8 = some s := dif_pos s.isValidUTF8
  rw [readText, hread, Except.bind, textOf, hvalid]
  dsimp only
  rw [Text.unifyLineEnds_eq_self h, String.ofList_toList]

/-! ## Reading what has been written -/

theorem follow_eq_settle {start place : List String} (h : fs.follow start names = .inl place) :
    place = settle start names := by
  induction names generalizing start with
  | nil => exact (Sum.inl.inj h).symm
  | cons name rest ih =>
    rw [follow] at h
    rw [settle, List.foldl_cons]
    by_cases hname : (name == "..") = true
    · rw [if_pos hname] at h ⊢
      exact ih h
    · rw [if_neg hname] at h ⊢
      dsimp only at h
      split at h
      · rename_i hrest
        rw [List.isEmpty_iff.1 hrest]
        exact (Sum.inl.inj h).symm
      · split at h
        · exact ih h
        · split at h <;> cases h

/-- What leads somewhere does so when there are more directories. -/
theorem follow_mono {start place : List String}
    (hmore : ∀ names, fs.isDirectory names = true → files.isDirectory names = true)
    (h : fs.follow start names = .inl place) : files.follow start names = .inl place := by
  induction names generalizing start with
  | nil => exact h
  | cons name rest ih =>
    rw [follow] at h ⊢
    by_cases hname : (name == "..") = true
    · rw [if_pos hname] at h ⊢
      exact ih h
    · rw [if_neg hname] at h ⊢
      dsimp only at h ⊢
      split at h
      · rename_i hrest
        rw [if_pos hrest]
        exact h
      · rename_i hrest
        rw [if_neg hrest]
        split at h
        · rename_i hdirectory
          rw [if_pos (hmore _ hdirectory)]
          exact ih h
        · split at h <;> cases h

theorem start_put (fs : Files) (names : List String) (bytes : ByteArray) (path : FilePath) :
    (fs.put names bytes).start path = fs.start path := by
  unfold put
  split <;> rfl

theorem isDirectory_put (bytes : ByteArray) (h : fs.isDirectory other = true) :
    (fs.put names bytes).isDirectory other = true := by
  unfold isDirectory at h ⊢
  unfold put
  split
  · -- the entries keep their names
    have hany : ((fs.entries.map fun e => if e.1 == names then (names, bytes) else e).any
        fun e => other.isPrefixOf e.1 && other.length < e.1.length) =
        fs.entries.any fun e => other.isPrefixOf e.1 && other.length < e.1.length := by
      rw [List.any_map]
      congr 1
      funext e
      by_cases he : e.1 = names
      · simp [he]
      · simp [he]
    dsimp only
    rw [hany]
    exact h
  · dsimp only
    rw [List.any_append, ← Bool.or_assoc, h, Bool.true_or]

theorem write_eq (h : fs.write path bytes = .ok files) :
    hasNull path = false ∧
      (fs.withFolders path).follow (fs.start path) path.names = .inl (fs.resolve path) ∧
      files = (fs.withFolders path).put (fs.resolve path) bytes := by
  unfold write at h
  split at h
  · cases h
  · rename_i hnull
    dsimp only at h
    split at h
    · cases h
    · cases h
    · rename_i place _ hfollow
      obtain rfl : place = fs.resolve path := follow_eq_settle hfollow
      split at h <;> cases h
      · exact ⟨Bool.eq_false_iff.2 hnull, hfollow, rfl⟩

theorem content?_write_self (h : fs.write path bytes = .ok files) :
    files.content? (fs.resolve path) = some bytes := by
  obtain ⟨-, -, rfl⟩ := write_eq h
  exact content?_put_self _ _ bytes

theorem content?_write_of_ne (h : fs.write path bytes = .ok files)
    (hother : other ≠ fs.resolve path) : files.content? other = fs.content? other := by
  obtain ⟨-, -, rfl⟩ := write_eq h
  exact content?_put_of_ne _ bytes hother

/-- A file that has been written is read under the same path. -/
theorem read_write_self (h : fs.write path bytes = .ok files) : files.read path = .ok bytes := by
  obtain ⟨hnull, hfollow, rfl⟩ := write_eq h
  have hreached : ((fs.withFolders path).put (fs.resolve path) bytes).follow
      (fs.start path) path.names = .inl (fs.resolve path) :=
    follow_mono (fun _ => isDirectory_put bytes) hfollow
  have hfind : ((fs.withFolders path).put (fs.resolve path) bytes).find path = .file bytes := by
    have hstart : (fs.withFolders path).start path = fs.start path := rfl
    rw [find, start_put, hstart, hreached]
    dsimp only
    rw [placeAt, content?_put_self]
  rw [read, hnull, hfind]
  rfl

end ContentIndex.Files
