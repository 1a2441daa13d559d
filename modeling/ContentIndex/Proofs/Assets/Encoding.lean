import ContentIndex.Attachment

/-!
# Encoded assets can be read back

Encoding keeps how assets are nested, and what has been encoded gives every asset back. It fails
with the first leaf from the left that is neither null nor an asset that can be read, and with
lists nested too deep.
-/

namespace ContentIndex.Attachment

set_option autoImplicit false

/-- Nested assets, with lists and tuples alike. -/
inductive Nesting where
  | nothing
  | content (bytes : List UInt8)
  | row (parts : List Nesting)

mutual
/-- How the assets of a value are nested, if it holds nothing else. -/
def nestingOf? (files : Files) : Value → Option Nesting
  | .none => some .nothing
  | .list items _ => (nestingsOf? files items).map .row
  | .tuple items _ => (nestingsOf? files items).map .row
  | .asset a _ => (content files a).toOption.map .content
  | _ => none

def nestingsOf? (files : Files) : List Value → Option (List Nesting)
  | [] => some []
  | v :: vs => (nestingOf? files v).bind fun n => (nestingsOf? files vs).map fun ns => n :: ns
end

mutual
/-- What an encoded value says: lists, and base64 in them. -/
def readBack? : Value → Option Nesting
  | .none => some .nothing
  | .list items _ => (readBackAll? items).map .row
  | .str s => (Text.Base64.decode? s.toList).map .content
  | _ => none

def readBackAll? : List Value → Option (List Nesting)
  | [] => some []
  | v :: vs => (readBack? v).bind fun n => (readBackAll? vs).map fun ns => n :: ns
end

mutual
/-- What stands in lists and tuples, from the left. -/
def leaves : Value → List Value
  | .list items _ => leavesAll items
  | .tuple items _ => leavesAll items
  | v => [v]

def leavesAll : List Value → List Value
  | [] => []
  | v :: vs => leaves v ++ leavesAll vs
end

mutual
/-- Lists and tuples one in another. -/
def depth : Value → Nat
  | .list items _ => depthAll items + 1
  | .tuple items _ => depthAll items + 1
  | _ => 0

def depthAll : List Value → Nat
  | [] => 0
  | v :: vs => max (depth v) (depthAll vs)
end

/-- Why a leaf cannot be encoded. -/
def refusal? (files : Files) : Value → Option Error
  | .none => none
  | .asset a _ =>
    match content files a with
    | .ok _ => none
    | .error f => some (.fault f)
  | v => some (.unsupportedAsset v.typeName)

section Encoding

variable {files : Files} {room mark : Nat} {v w : Value} {vs ws : List Value}

/-! ## Reading back -/

/-- An encoded value says how a value is nested and what its assets hold. -/
def Says (files : Files) (w v : Value) : Prop :=
  ∃ n, nestingOf? files v = some n ∧ readBack? w = some n

def SayAll (files : Files) (ws vs : List Value) : Prop :=
  ∃ ns, nestingsOf? files vs = some ns ∧ readBackAll? ws = some ns

theorem Says.list (h : SayAll files ws vs) : Says files (.list ws 0) (.list vs mark) := by
  obtain ⟨ns, hnesting, hread⟩ := h
  exact ⟨.row ns, by rw [nestingOf?, hnesting]; rfl, by rw [readBack?, hread]; rfl⟩

theorem Says.tuple (h : SayAll files ws vs) : Says files (.list ws 0) (.tuple vs mark) := by
  obtain ⟨ns, hnesting, hread⟩ := h
  exact ⟨.row ns, by rw [nestingOf?, hnesting]; rfl, by rw [readBack?, hread]; rfl⟩

theorem Says.asset {a : Asset} {bytes : List UInt8} (h : content files a = .ok bytes) :
    Says files (.chars (Text.Base64.encode bytes)) (.asset a mark) := by
  refine ⟨.content bytes, by rw [nestingOf?, h]; rfl, ?_⟩
  rw [Value.chars, readBack?, String.toList_ofList, Text.Base64.decode?_encode, Option.map_some]

theorem Says.cons (h : Says files w v) (hrest : SayAll files ws vs) :
    SayAll files (w :: ws) (v :: vs) := by
  obtain ⟨n, hnesting, hread⟩ := h
  obtain ⟨ns, hnestings, hreads⟩ := hrest
  refine ⟨n :: ns, ?_, ?_⟩
  · rw [nestingsOf?, hnesting, hnestings]
    rfl
  · rw [readBackAll?, hread, hreads]
    rfl

theorem exists_row {r : Except Error (List Value)}
    (h : (r.map fun ws => Value.list ws 0) = .ok w) : ∃ ws, r = .ok ws ∧ w = .list ws 0 := by
  cases r with
  | error e => cases h
  | ok ws =>
    cases h
    exact ⟨ws, rfl, rfl⟩

/-- Whatever has been encoded can be read back. -/
theorem says_of_encodeWithin (h : encodeWithin files room v = .ok w) : Says files w v := by
  refine encodeWithin.induct_unfolding files (fun _ v r => ∀ w, r = .ok w → Says files w v)
    (fun _ vs r => ∀ ws, r = .ok ws → SayAll files ws vs)
    ?none ?deepList ?deepTuple ?list ?tuple ?asset ?unread ?other ?nil ?first ?rest ?all room v w h
  case none =>
    rintro _ _ ⟨⟩
    exact ⟨.nothing, rfl, rfl⟩
  case deepList => exact fun _ _ _ => nofun
  case deepTuple => exact fun _ _ _ => nofun
  case list =>
    intro room items mark ih w hw
    obtain ⟨ws, hws, rfl⟩ := exists_row hw
    exact .list (ih ws hws)
  case tuple =>
    intro room items mark ih w hw
    obtain ⟨ws, hws, rfl⟩ := exists_row hw
    exact .tuple (ih ws hws)
  case asset =>
    rintro _ a mark bytes hbytes _ ⟨⟩
    exact .asset hbytes
  case unread => exact fun _ _ _ _ _ _ => nofun
  case other => exact fun _ _ _ _ _ _ _ _ _ => nofun
  case nil =>
    rintro _ _ ⟨⟩
    exact ⟨[], rfl, rfl⟩
  case first => exact fun _ _ _ _ _ _ _ => nofun
  case rest => exact fun _ _ _ _ _ _ _ _ _ _ => nofun
  case all =>
    rintro _ v vs w hw ws hws ih ihrest _ ⟨⟩
    exact (ih w hw).cons (ihrest ws hws)

/-! ## Failing -/

/-- What becomes of a value by its first refused leaf and by how deep it is. -/
inductive Decided (refusal : Option Error) (depth room : Nat) {α : Type} : Except Error α → Prop
  | done (a : α) : refusal = none → depth ≤ room → Decided refusal depth room (.ok a)
  | refused {e : Error} : refusal = some e → Decided refusal depth room (.error e)
  | deep : room < depth → Decided refusal depth room (.error (.fault .tooDeep))

namespace Decided

variable {α β : Type} {refusal others : Option Error} {depth below : Nat} {result : Except Error α}

theorem row (h : Decided refusal depth room result) (f : α → β) :
    Decided refusal (depth + 1) (room + 1) (result.map f) := by
  cases h with
  | done a hnone hle => exact .done (f a) hnone (Nat.succ_le_succ hle)
  | refused he => exact .refused he
  | deep hlt => exact .deep (Nat.succ_lt_succ hlt)

/-- Where the first one fails, the rest is not looked at. -/
theorem stop {e : Error} (h : Decided refusal depth room (.error e : Except Error α))
    (others : Option Error) (below : Nat) :
    Decided (refusal.or others) (max depth below) room (.error e : Except Error β) := by
  cases h with
  | refused he => exact .refused (by rw [he, Option.some_or])
  | deep hlt => exact .deep (Nat.lt_of_lt_of_le hlt (Nat.le_max_left _ _))

/-- Where the first one is done, the rest decides. -/
theorem next {w : Value} {rest : Except Error α} (h : Decided refusal depth room (.ok w))
    (hrest : Decided others below room rest) (f : α → β) :
    Decided (refusal.or others) (max depth below) room (rest.map f) := by
  cases h with
  | done _ hnone hle =>
    rw [hnone, Option.none_or]
    cases hrest with
    | done a hothers hbelow => exact .done (f a) hothers (Nat.max_le.2 ⟨hle, hbelow⟩)
    | refused he => exact .refused he
    | deep hlt => exact .deep (Nat.lt_of_lt_of_le hlt (Nat.le_max_right _ _))

theorem eq_refused {e : Error} (h : Decided refusal depth room result) (he : refusal = some e)
    (hle : depth ≤ room) : result = .error e := by
  cases h with
  | done _ hnone => exact absurd (hnone.symm.trans he) nofun
  | refused he' => exact congrArg _ (Option.some.inj (he'.symm.trans he))
  | deep hlt => exact absurd hle (Nat.not_le.2 hlt)

theorem eq_deep (h : Decided refusal depth room result) (hnone : refusal = none)
    (hlt : room < depth) : result = .error (.fault .tooDeep) := by
  cases h with
  | done _ _ hle => exact absurd hle (Nat.not_le.2 hlt)
  | refused he => exact absurd (hnone.symm.trans he) nofun
  | deep => rfl

theorem exists_ok (h : Decided refusal depth room result) (hnone : refusal = none)
    (hle : depth ≤ room) : ∃ a, result = .ok a := by
  cases h with
  | done a => exact ⟨a, rfl⟩
  | refused he => exact absurd (hnone.symm.trans he) nofun
  | deep hlt => exact absurd hle (Nat.not_le.2 hlt)

end Decided

/-- The first refused leaf decides, or else the depth. -/
theorem decided_encodeWithin (files : Files) (room : Nat) (v : Value) :
    Decided ((leaves v).findSome? (refusal? files)) (depth v) room
      (encodeWithin files room v) := by
  refine encodeWithin.induct_unfolding files
    (fun room v r => Decided ((leaves v).findSome? (refusal? files)) (depth v) room r)
    (fun room vs r => Decided ((leavesAll vs).findSome? (refusal? files)) (depthAll vs) room r)
    ?none ?deepList ?deepTuple ?list ?tuple ?asset ?unread ?other ?nil ?first ?rest ?all room v
  case none => exact fun _ => .done _ rfl (Nat.zero_le _)
  case deepList => exact fun _ _ => .deep (Nat.succ_pos _)
  case deepTuple => exact fun _ _ => .deep (Nat.succ_pos _)
  case list => exact fun _ _ _ ih => ih.row _
  case tuple => exact fun _ _ _ ih => ih.row _
  case asset =>
    intro _ a mark bytes hbytes
    exact .done _ (by simp [leaves, refusal?, hbytes]) (Nat.zero_le _)
  case unread =>
    intro _ a mark f hf
    exact .refused (by simp [leaves, refusal?, hf])
  case other =>
    intro room v hnone hdeepList hdeepTuple hlist htuple hasset
    cases v with
    | none => exact (hnone rfl).elim
    | list items mark =>
      cases room with
      | zero => exact (hdeepList items mark rfl rfl).elim
      | succ room => exact (hlist room items mark rfl rfl).elim
    | tuple items mark =>
      cases room with
      | zero => exact (hdeepTuple items mark rfl rfl).elim
      | succ room => exact (htuple room items mark rfl rfl).elim
    | asset a mark => exact (hasset a mark rfl).elim
    | _ => exact .refused rfl
  case nil => exact fun _ => .done _ rfl (Nat.zero_le _)
  case first =>
    intro room v vs e he ih
    rw [he] at ih
    rw [leavesAll, List.findSome?_append, depthAll]
    exact ih.stop _ _
  case rest =>
    intro room v vs w hw e he ih ihrest
    rw [hw] at ih
    rw [he] at ihrest
    rw [leavesAll, List.findSome?_append, depthAll]
    exact ih.next ihrest (w :: ·)
  case all =>
    intro room v vs w hw ws hws ih ihrest
    rw [hw] at ih
    rw [hws] at ihrest
    rw [leavesAll, List.findSome?_append, depthAll]
    exact ih.next ihrest (w :: ·)

/-- What keeps a value from being encoded is a leaf, or how deep it is. -/
theorem exists_refusal_of_encode {e : Error} (h : encode files v = .error e) :
    e = .fault .tooDeep ∨ ∃ leaf, refusal? files leaf = some e := by
  have hdecided := decided_encodeWithin files nestingLimit v
  rw [encode] at h
  rw [h] at hdecided
  cases hdecided with
  | refused he =>
    obtain ⟨leaf, -, hleaf⟩ := List.exists_of_findSome?_eq_some he
    exact .inr ⟨leaf, hleaf⟩
  | deep => exact .inl rfl

end Encoding

/-- Null in so many lists. -/
def nested : Nat → Value
  | 0 => .none
  | n + 1 => .list [nested n] 0

theorem leaves_nested (n : Nat) : leaves (nested n) = [.none] := by
  induction n with
  | zero => rfl
  | succ n ih => rw [nested, leaves, leavesAll, leavesAll, ih, List.append_nil]

theorem depth_nested (n : Nat) : depth (nested n) = n := by
  induction n with
  | zero => rfl
  | succ n ih => rw [nested, depth, depthAll, depthAll, ih, Nat.max_zero]

end ContentIndex.Attachment
