import ContentIndex.JsonFile
import ContentIndex.Proofs.Entries
import ContentIndex.Proofs.Files
import ContentIndex.Proofs.Json.Documents
import ContentIndex.Proofs.Marks
import Mathlib.Data.List.Nodup

/-!
# A file that was written is read as the same value

Data are what JSON has a form for: null, truth values, integers, texts, lists, and dictionaries
under texts. They are written in every style and come back with their entries in order, apart from
the marks that tell one value from another that looks alike. Two limits are set: integers have at
most 4300 digits, and of the collections one in another 982 are written and 980 read.
-/

namespace ContentIndex

set_option autoImplicit false

open Json (Plain Style)

namespace Value

/-- Entries under texts. -/
def textEntries (members : List (String × Value)) : Entries :=
  members.map fun m => (.str m.1, m.2)

/-- Values that JSON has a form for. -/
inductive IsData : Value → Prop
  | none : IsData .none
  | bool (b : Bool) : IsData (.bool b)
  | int (n : Int) : IsData (.int n)
  | str (s : String) : IsData (.str s)
  | list {items : List Value} (mark : Nat) (h : ∀ v ∈ items, IsData v) : IsData (.list items mark)
  | dict {members : List (String × Value)} (mark : Nat) (hdistinct : (members.map (·.1)).Nodup)
    (h : ∀ m ∈ members, IsData m.2) : IsData (.dict (textEntries members) mark)

/-- The document says the same as the value. -/
structure Represents (v : Value) (j : Json) : Prop where
  plain : Plain j
  depth : j.depth = v.nesting
  value : ofJson j = v.unmarked

structure RepresentsAll (vs : List Value) (js : List Json) : Prop where
  plain : ∀ j ∈ js, Plain j
  depth : Json.depthAll js = nestingAll vs
  values : ofJsonAll js = unmarkedAll vs

structure RepresentsMembers (entries : Entries) (ms : List (String × Json)) : Prop where
  plain : ∀ m ∈ ms, Plain m.2
  depth : Json.depthMembers ms = nestingEntries entries
  values : ofJsonMembers ms = unmarkedEntries entries

/-- Within the limits there is a document; otherwise one that is exceeded is named. -/
def WrittenAs {α : Type} (long : Bool) (nesting room : Nat) (represented : α → Prop)
    (result : Except Fault α) : Prop :=
  long = false ∧ nesting ≤ room ∧ (∃ a, result = .ok a ∧ represented a) ∨
    long = true ∧ result = .error exceedsDigits ∨ room < nesting ∧ result = .error .tooDeep

section

variable {α β γ : Type} {long others : Bool} {nesting deeper room : Nat} {represented : α → Prop}
  {represents : β → Prop} {result : Except Fault α} {rest : Except Fault β}

/-- Around what is written stands one collection more. -/
theorem WrittenAs.map (h : WrittenAs long nesting room represented result) (f : α → β)
    (hf : ∀ a, represented a → represents (f a)) :
    WrittenAs long (nesting + 1) (room + 1) represents (result.map f) := by
  obtain ⟨hshort, hnesting, a, rfl, ha⟩ | ⟨hlong, rfl⟩ | ⟨hdeep, rfl⟩ := h
  · exact .inl ⟨hshort, by omega, f a, rfl, hf a ha⟩
  · exact .inr (.inl ⟨hlong, rfl⟩)
  · exact .inr (.inr ⟨by omega, rfl⟩)

/-- Of two things side by side the first one decides what is named. -/
theorem WrittenAs.both (h : WrittenAs long nesting room represented result)
    (hrest : WrittenAs others deeper room represents rest) (f : α → β → γ) {both : γ → Prop}
    (hf : ∀ a b, represented a → represents b → both (f a b)) :
    WrittenAs (long || others) (max nesting deeper) room both
      (result.bind fun a => rest.map (f a)) := by
  obtain ⟨hshort, hnesting, a, rfl, ha⟩ | ⟨hlong, rfl⟩ | ⟨hdeep, rfl⟩ := h
  · obtain ⟨hshorts, hdeeper, b, rfl, hb⟩ | ⟨hlong, rfl⟩ | ⟨hdeep, rfl⟩ := hrest
    · exact .inl ⟨by rw [hshort, hshorts]; rfl, by omega, f a b, rfl, hf a b ha hb⟩
    · exact .inr (.inl ⟨by rw [hlong, Bool.or_true], rfl⟩)
    · exact .inr (.inr ⟨by omega, rfl⟩)
  · exact .inr (.inl ⟨by rw [hlong, Bool.true_or], rfl⟩)
  · exact .inr (.inr ⟨by omega, rfl⟩)

end

theorem toJsonAll_cons (room : Nat) (v : Value) (vs : List Value) :
    toJsonAll room (v :: vs) =
      (v.toJson room).bind fun j => (toJsonAll room vs).map (j :: ·) := by
  rw [toJsonAll]
  cases v.toJson room <;> cases toJsonAll room vs <;> rfl

theorem toJsonMembers_cons (room : Nat) (name : String) (v : Value) (rest : Entries) :
    toJsonMembers room ((.str name, v) :: rest) =
      (v.toJson room).bind fun j => (toJsonMembers room rest).map ((name, j) :: ·) := by
  rw [toJsonMembers, memberName]
  cases v.toJson room <;> cases toJsonMembers room rest <;> rfl

theorem writtenAs_toJsonAll {items : List Value} {room : Nat}
    (h : ∀ v ∈ items, WrittenAs v.hasLongInt v.nesting room v.Represents (v.toJson room)) :
    WrittenAs (anyLongInt items) (nestingAll items) room (RepresentsAll items)
      (toJsonAll room items) := by
  induction items with
  | nil => exact .inl ⟨rfl, Nat.zero_le _, [], rfl, ⟨by simp, rfl, rfl⟩⟩
  | cons v vs ih =>
    obtain ⟨hv, hvs⟩ := List.forall_mem_cons.1 h
    rw [anyLongInt, nestingAll, toJsonAll_cons]
    refine hv.both (ih hvs) List.cons fun j js hj hjs => ?_
    exact ⟨List.forall_mem_cons.2 ⟨hj.plain, hjs.plain⟩,
      by rw [Json.depthAll, nestingAll, hj.depth, hjs.depth],
      by rw [ofJsonAll, unmarkedAll, hj.value, hjs.values]⟩

theorem writtenAs_toJsonMembers {members : List (String × Value)} {room : Nat}
    (h : ∀ m ∈ members,
      WrittenAs m.2.hasLongInt m.2.nesting room m.2.Represents (m.2.toJson room)) :
    WrittenAs (entryLongInt (textEntries members)) (nestingEntries (textEntries members)) room
      (RepresentsMembers (textEntries members)) (toJsonMembers room (textEntries members)) := by
  induction members with
  | nil => exact .inl ⟨rfl, Nat.zero_le _, [], rfl, ⟨by simp, rfl, rfl⟩⟩
  | cons m rest ih =>
    obtain ⟨name, v⟩ := m
    obtain ⟨hv, hrest⟩ := List.forall_mem_cons.1 h
    have hentries : textEntries ((name, v) :: rest) = (.str name, v) :: textEntries rest := rfl
    have hlong : entryLongInt ((.str name, v) :: textEntries rest) =
        (v.hasLongInt || entryLongInt (textEntries rest)) := by
      have hname : (Value.str name).hasLongInt = false := rfl
      rw [entryLongInt, hname, Bool.false_or]
    have hnesting : nestingEntries ((.str name, v) :: textEntries rest) =
        max v.nesting (nestingEntries (textEntries rest)) := by
      have hname : (Value.str name).nesting = 0 := rfl
      rw [nestingEntries, hname, Nat.zero_max]
    rw [hentries, hlong, hnesting, toJsonMembers_cons]
    refine hv.both (ih hrest) (fun j ms => (name, j) :: ms) fun j ms hj hms => ?_
    exact ⟨List.forall_mem_cons.2 ⟨hj.plain, hms.plain⟩,
      by rw [Json.depthMembers, hnesting, hj.depth, hms.depth],
      by rw [ofJsonMembers, unmarkedEntries, hj.value, hms.values]; rfl⟩

/-- Entries under distinct texts stay as they are, when they are read one after the other. -/
theorem ofList_unmarkedEntries {members : List (String × Value)}
    (hdistinct : (members.map (·.1)).Nodup) :
    Entries.ofList (unmarkedEntries (textEntries members)) =
      unmarkedEntries (textEntries members) := by
  have hkeys : ((unmarkedEntries (textEntries members)).map fun e => e.1.key?) =
      (members.map (·.1)).map fun name => some [.str name] := by
    rw [unmarkedEntries_eq_map, textEntries, List.map_map, List.map_map, List.map_map]
    exact List.map_congr_left fun m _ => by simp [unmarked, key?]
  have hinjective : Function.Injective fun name : String => some [KeyAtom.str name] :=
    fun a b hab => by simpa using hab
  refine Entries.ofList_of_distinct (fun e he => ?_) ?_
  · have hmem : e.1.key? ∈ (members.map (·.1)).map fun name => some [.str name] :=
      hkeys ▸ List.mem_map_of_mem he
    obtain ⟨name, _, hname⟩ := List.mem_map.1 hmem
    rw [← hname]
    rfl
  · rw [hkeys]
    exact hdistinct.map hinjective

/-- The limits decide whether a value has a document. -/
theorem writtenAs_toJson {v : Value} (h : v.IsData) (room : Nat) :
    WrittenAs v.hasLongInt v.nesting room v.Represents (v.toJson room) := by
  induction h generalizing room with
  | none => exact .inl ⟨rfl, Nat.zero_le _, .null, by cases room <;> rfl, ⟨.null, rfl, rfl⟩⟩
  | bool b =>
    exact .inl ⟨rfl, Nat.zero_le _, .bool b, by cases room <;> rfl, ⟨.bool b, rfl, rfl⟩⟩
  | int n =>
    have hint : (Value.int n).toJson room =
        if isLong n then .error exceedsDigits else .ok (.int n) := by
      cases room <;> rw [toJson]
    by_cases hlong : isLong n = true
    · exact .inr (.inl ⟨hlong, hint.trans (if_pos hlong)⟩)
    · exact .inl ⟨Bool.eq_false_iff.2 hlong, Nat.zero_le _, .int n, hint.trans (if_neg hlong),
        ⟨.int (Bool.eq_false_iff.2 hlong), rfl, rfl⟩⟩
  | str s =>
    exact .inl ⟨rfl, Nat.zero_le _, .str s, by cases room <;> rfl, ⟨.str s, rfl, rfl⟩⟩
  | @list items mark _ ih =>
    rw [hasLongInt, nesting]
    cases room with
    | zero => exact .inr (.inr ⟨Nat.succ_pos _, rfl⟩)
    | succ room =>
      have hitems := writtenAs_toJsonAll fun v hv => ih v hv room
      rw [toJson]
      refine hitems.map Json.array fun js hjs => ?_
      exact ⟨.array hjs.plain, by rw [Json.depth, nesting, hjs.depth],
        by rw [ofJson, unmarked, hjs.values]⟩
  | @dict members mark hdistinct _ ih =>
    rw [hasLongInt, nesting]
    cases room with
    | zero => exact .inr (.inr ⟨Nat.succ_pos _, rfl⟩)
    | succ room =>
      have hmembers := writtenAs_toJsonMembers fun m hm => ih m hm room
      rw [toJson]
      refine hmembers.map Json.object fun ms hms => ?_
      exact ⟨.object hms.plain, by rw [Json.depth, nesting, hms.depth],
        by rw [ofJson, unmarked, hms.values, ofList_unmarkedEntries hdistinct]⟩

end Value

namespace JsonFile

variable {v : Value} {j : Json} {files files' : Files} {path : FilePath}

theorem text_of_toJson (style : Style) (h : v.toJson Value.writingLimit = .ok j) :
    text style v = .ok (j.text style) := by
  rw [text, h]
  rfl

theorem text_of_error {f : Fault} (style : Style) (h : v.toJson Value.writingLimit = .error f) :
    text style v = .error f := by
  rw [text, h]
  rfl

theorem write_of_error {style : Style} {f : Fault} (h : text style v = .error f) :
    write files path style v = .error f := by
  rw [write, h]
  rfl

theorem write_of_text {style : Style} {s : String} (htext : text style v = .ok s)
    (hfiles : files.write path s.toUTF8 = .ok files') :
    write files path style v = .ok files' := by
  simp only [write, htext, bind, Except.bind, hfiles]

/-- What is read from a file in which a document has been written. -/
theorem read_of_write {style : Style} (hplain : j.Plain)
    (hfiles : files.write path (j.text style).toUTF8 = .ok files') :
    j.depth ≤ Json.nestingLimit ∧ read files' path = .ok (.ofJson j) ∨
      Json.nestingLimit < j.depth ∧ read files' path = .error (.fault .tooDeep) := by
  have htext : files'.readText path = .ok (j.text style) :=
    Files.readText_of_read (Files.read_write_self hfiles)
      (Json.carriageReturn_notMem_text hplain style)
  rw [read, htext]
  dsimp only
  obtain ⟨hshallow, hparse⟩ | ⟨hdeep, f, hparse, hf⟩ := Json.parse_text hplain style
  · rw [hparse]
    exact .inl ⟨hshallow, rfl⟩
  · rw [hparse]
    dsimp only
    rw [documentError, hf]
    exact .inr ⟨hdeep, rfl⟩

/-- A value that is written wherever its text may be, and what is read from there. -/
def IsReadAs (style : Style) (v : Value) (result : Except Error Value) : Prop :=
  ∃ s, text style v = .ok s ∧
    ∀ {files files' : Files} {path : FilePath}, files.write path s.toUTF8 = .ok files' →
      write files path style v = .ok files' ∧ read files' path = result

theorem exists_toJson (h : v.IsData) (hshort : v.hasLongInt = false)
    (hnesting : v.nesting ≤ Value.writingLimit) :
    ∃ j, v.toJson Value.writingLimit = .ok j ∧ v.Represents j := by
  obtain ⟨-, -, hdocument⟩ | ⟨hlong, -⟩ | ⟨hdeep, -⟩ := Value.writtenAs_toJson h Value.writingLimit
  · exact hdocument
  · rw [hshort] at hlong
    cases hlong
  · omega

/-- Data without integers that are too long, nested no deeper than is read, are read unchanged. -/
theorem isReadAs_unmarked (h : v.IsData) (style : Style) (hshort : v.hasLongInt = false)
    (hnesting : v.nesting ≤ Json.nestingLimit) : IsReadAs style v (.ok v.unmarked) := by
  obtain ⟨j, hj, hrepresents⟩ :=
    exists_toJson h hshort (Nat.le_trans hnesting (Nat.le_add_right _ _))
  have htext := text_of_toJson style hj
  refine ⟨_, htext, fun hfiles => ⟨write_of_text htext hfiles, ?_⟩⟩
  rw [← hrepresents.depth] at hnesting
  obtain ⟨-, hread⟩ | ⟨hdeep, -⟩ := read_of_write hrepresents.plain hfiles
  · rw [hread, hrepresents.value]
  · omega

/-- The deepest data that are written are not read. -/
theorem isReadAs_tooDeep (h : v.IsData) (style : Style) (hshort : v.hasLongInt = false)
    (hdeep : Json.nestingLimit < v.nesting) (hnesting : v.nesting ≤ Value.writingLimit) :
    IsReadAs style v (.error (.fault .tooDeep)) := by
  obtain ⟨j, hj, hrepresents⟩ := exists_toJson h hshort hnesting
  have htext := text_of_toJson style hj
  refine ⟨_, htext, fun hfiles => ⟨write_of_text htext hfiles, ?_⟩⟩
  rw [← hrepresents.depth] at hdeep
  obtain ⟨hshallow, -⟩ | ⟨-, hread⟩ := read_of_write hrepresents.plain hfiles
  · omega
  · exact hread

/-- What is not written exceeds the limit that is named. -/
theorem write_beyond (h : v.IsData) (style : Style) (files : Files) (path : FilePath)
    (hlimit : v.hasLongInt = true ∨ Value.writingLimit < v.nesting) :
    v.hasLongInt = true ∧ write files path style v = .error Value.exceedsDigits ∨
      Value.writingLimit < v.nesting ∧ write files path style v = .error .tooDeep := by
  obtain ⟨hshort, hnesting, -⟩ | ⟨hlong, herror⟩ | ⟨hdeep, herror⟩ :=
    Value.writtenAs_toJson h Value.writingLimit
  · rw [hshort] at hlimit
    obtain hlong | hdeep := hlimit
    · cases hlong
    · omega
  · exact .inl ⟨hlong, write_of_error (text_of_error style herror)⟩
  · exact .inr ⟨hdeep, write_of_error (text_of_error style herror)⟩

/-- A dictionary under names that are escaped. -/
def sample : Value :=
  .dict (Value.textEntries
    [("b\né", .list [.int (-120), .bool true, .none, .str "\x7f😀\r"] 3),
      ("a", .dict (Value.textEntries []) 2)]) 1

theorem sample_isData : sample.IsData := by
  refine .dict 1 (by decide) ?_
  simp only [List.forall_mem_cons]
  refine ⟨.list 3 ?_, .dict 2 List.nodup_nil (by simp), by simp⟩
  simp only [List.forall_mem_cons]
  exact ⟨.int _, .bool _, .none, .str _, by simp⟩

/-- Lists one in another. -/
def nested : Nat → Value
  | 0 => .none
  | n + 1 => .list [nested n] 0

theorem nested_isData (n : Nat) : (nested n).IsData := by
  induction n with
  | zero => exact .none
  | succ n ih => exact .list 0 (List.forall_mem_singleton.2 ih)

theorem nesting_nested (n : Nat) : (nested n).nesting = n := by
  induction n with
  | zero => rfl
  | succ n ih => rw [nested, Value.nesting, Value.nestingAll, Value.nestingAll, ih, Nat.max_zero]

theorem hasLongInt_nested (n : Nat) : (nested n).hasLongInt = false := by
  induction n with
  | zero => rfl
  | succ n ih => rw [nested, Value.hasLongInt, Value.anyLongInt, Value.anyLongInt, ih]; rfl

end JsonFile

end ContentIndex
