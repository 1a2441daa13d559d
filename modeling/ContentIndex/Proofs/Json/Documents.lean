import ContentIndex.Proofs.Json.Scalars

/-!
# Documents are read as they were written

A document without floats and without integers that are too long comes back from its text, in any
style, as long as its arrays and objects are not nested too deeply; otherwise reading says so.
-/

namespace ContentIndex.Json

set_option autoImplicit false

mutual
/-- Arrays and objects one in another. -/
def depth : Json → Nat
  | .array items => depthAll items + 1
  | .object members => depthMembers members + 1
  | _ => 0

def depthAll : List Json → Nat
  | [] => 0
  | j :: js => max (depth j) (depthAll js)

def depthMembers : List (String × Json) → Nat
  | [] => 0
  | (_, j) :: rest => max (depth j) (depthMembers rest)
end

/-- A document without floats whose integers are not too long. -/
inductive Plain : Json → Prop
  | null : Plain .null
  | bool (b : Bool) : Plain (.bool b)
  | int {n : Int} (h : Value.isLong n = false) : Plain (.int n)
  | str (s : String) : Plain (.str s)
  | array {items : List Json} (h : ∀ j ∈ items, Plain j) : Plain (.array items)
  | object {members : List (String × Json)} (h : ∀ m ∈ members, Plain m.2) :
    Plain (.object members)

/-- What reading gives for something written: it, with what stands behind, unless it is nested
too deeply. -/
def ReadAs {α : Type} (depth levels : Nat) (a : α) (rest : List Char) (result : Result α) : Prop :=
  depth ≤ levels ∧ result = .ok (a, rest) ∨
    levels < depth ∧ ∃ left, result = .error ⟨.shallow, left⟩

attribute [local simp] render renderItems renderMembers

variable {style : Style} {j : Json} {s rest : List Char}

/-! ## Blanks -/

theorem skipSpace_cons {c : Char} (h : isSpace c = false) : skipSpace (c :: s) = c :: s := by
  rw [skipSpace, List.dropWhile_cons_of_neg (by rw [h]; exact Bool.false_ne_true)]

theorem skipSpace_append (h : ∀ c ∈ s, isSpace c = true) : skipSpace (s ++ rest) = skipSpace rest :=
  List.dropWhile_append_of_pos h

theorem isSpace_of_mem_break (d : Nat) : ∀ c ∈ style.break d, isSpace c = true := by
  rw [Style.break]
  split
  · refine List.forall_mem_cons.2 ⟨rfl, fun c hc => ?_⟩
    rw [List.eq_of_mem_replicate hc]
    rfl
  · simp

/-- A separator is a comma and blanks. -/
theorem exists_separator (style : Style) (d : Nat) :
    ∃ blanks, style.separator d = ',' :: blanks ∧ ∀ c ∈ blanks, isSpace c = true := by
  rw [Style.separator]
  split
  · exact ⟨_, rfl, isSpace_of_mem_break d⟩
  · exact ⟨[' '], rfl, List.forall_mem_singleton.2 rfl⟩

theorem isSpace_iff {c : Char} :
    isSpace c = true ↔ ((c = ' ' ∨ c = '\t') ∨ c = '\n') ∨ c = '\r' := by
  simp only [isSpace, Bool.or_eq_true, beq_iff_eq]

/-- After a number stand blanks, a comma or a closing bracket. -/
theorem endsNumber_cons {c : Char} (h : isSpace c = true ∨ c ∈ [',', ']', '\x7d']) :
    EndsNumber (c :: s) := by
  rintro c' hc'
  obtain rfl : c = c' := Option.some.inj hc'
  obtain h | h := h
  · obtain ((rfl | rfl) | rfl) | rfl := isSpace_iff.1 h <;> decide
  · simp only [List.mem_cons, List.not_mem_nil, or_false] at h
    obtain rfl | rfl | rfl := h <;> decide

theorem endsNumber_break (d : Nat) {c : Char} (hc : c ∈ [',', ']', '\x7d']) :
    EndsNumber (style.break d ++ c :: s) := by
  cases hblanks : style.break d with
  | nil => exact endsNumber_cons (.inr hc)
  | cons b bs =>
    exact endsNumber_cons (.inl (isSpace_of_mem_break d b (hblanks ▸ List.mem_cons_self)))

/-! ## What a document starts with -/

/-- A number starts with a sign or a digit. -/
theorem exists_intText (n : Int) :
    ∃ c cs, Decimal.intText n = c :: cs ∧ (c = '-' ∨ Text.isAsciiDigit c = true) := by
  obtain ⟨c, cs, hcs, hc⟩ := exists_natDigits n.natAbs
  rw [Decimal.intText, Decimal.signed, hcs]
  split
  · exact ⟨'-', _, rfl, .inl rfl⟩
  · exact ⟨c, cs, rfl, .inr hc⟩

theorem ne_of_starts {c c' : Char} (h : c = '-' ∨ Text.isAsciiDigit c = true) (hminus : c' ≠ '-')
    (hdigit : Text.isAsciiDigit c' = false) : c ≠ c' := by
  rintro rfl
  obtain rfl | h := h
  · exact hminus rfl
  · exact absurd (hdigit.symm.trans h) (by decide)

theorem exists_render (h : Plain j) (style : Style) (d : Nat) :
    ∃ c cs, render style d j = c :: cs ∧ isSpace c = false ∧ c ≠ ']' ∧ c ≠ '\uFEFF' := by
  cases h with
  | null => exact ⟨'n', _, rfl, by decide⟩
  | bool b => cases b <;> exact ⟨_, _, rfl, by decide⟩
  | @int n =>
    obtain ⟨c, cs, hcs, hc⟩ := exists_intText n
    have hspace : isSpace c = false := by
      refine Bool.eq_false_iff.2 fun hspace => ?_
      obtain ((rfl | rfl) | rfl) | rfl := isSpace_iff.1 hspace <;> revert hc <;> decide
    exact ⟨c, cs, hcs, hspace, ne_of_starts hc (by decide) (by decide),
      ne_of_starts hc (by decide) (by decide)⟩
  | str s => exact ⟨'"', _, rfl, by decide⟩
  | @array items => cases items <;> exact ⟨'[', _, rfl, by decide⟩
  | @object members => cases members <;> exact ⟨'\x7b', _, rfl, by decide⟩

theorem render_length_pos (h : Plain j) (style : Style) (d : Nat) :
    0 < (render style d j).length := by
  obtain ⟨c, cs, hcs, -⟩ := exists_render h style d
  rw [hcs]
  exact Nat.succ_pos _

theorem skipSpace_render (h : Plain j) (style : Style) (d : Nat) :
    skipSpace (render style d j ++ rest) = render style d j ++ rest := by
  obtain ⟨c, cs, hcs, hc, -⟩ := exists_render h style d
  rw [hcs, List.cons_append, skipSpace_cons hc]

/-! ## One step of reading -/

section Steps

attribute [local simp] readValue readItems readMembers

variable {fuel levels : Nat} {item : Json} {tail after : List Char} {p : Problem}

theorem readItems_of_error (h : readValue fuel levels s = .error p) :
    readItems (fuel + 1) levels s = .error p := by
  simp [h]

theorem readItems_of_close (h : readValue fuel levels s = .ok (item, tail))
    (htail : skipSpace tail = ']' :: after) :
    readItems (fuel + 1) levels s = .ok ([item], after) := by
  simp [h, htail]

theorem readItems_of_comma (h : readValue fuel levels s = .ok (item, tail))
    (htail : skipSpace tail = ',' :: after) :
    readItems (fuel + 1) levels s =
      (readItems fuel levels (skipSpace after)).map fun r => (item :: r.1, r.2) := by
  cases hmore : readItems fuel levels (skipSpace after) <;>
    simp [h, htail, hmore, Except.map]

theorem readValue_array_of_close (h : skipSpace s = ']' :: after) :
    readValue (fuel + 1) (levels + 1) ('[' :: s) = .ok (.array [], after) := by
  simp [h]

theorem readValue_array_of_item (h : skipSpace s = tail) (hitem : ∀ cs, tail ≠ ']' :: cs) :
    readValue (fuel + 1) (levels + 1) ('[' :: s) =
      (readItems fuel levels tail).map fun r => (.array r.1, r.2) := by
  cases hitems : readItems fuel levels tail <;>
    simp [h, hitems, Except.map]

theorem readValue_array_zero : readValue (fuel + 1) 0 ('[' :: s) = fail .shallow ('[' :: s) := by
  simp

theorem quote_append (asciiOnly : Bool) (name : String) :
    quote asciiOnly name ++ s =
      '"' :: (name.toList.flatMap (escapeChar asciiOnly) ++ '"' :: s) := by
  simp [quote]

theorem skipSpace_colon : skipSpace (':' :: s) = ':' :: s :=
  skipSpace_cons rfl

theorem skipSpace_space : skipSpace (' ' :: s) = skipSpace s :=
  skipSpace_append (s := [' ']) (List.forall_mem_singleton.2 rfl)

variable {asciiOnly : Bool} {name : String}

theorem readMembers_of_error (h : readValue fuel levels (skipSpace s) = .error p) :
    readMembers (fuel + 1) levels (quote asciiOnly name ++ ':' :: ' ' :: s) = .error p := by
  simp [quote_append, readChars_quoted, skipSpace_colon, skipSpace_space, h]

theorem readMembers_of_close (h : readValue fuel levels (skipSpace s) = .ok (item, tail))
    (htail : skipSpace tail = '\x7d' :: after) :
    readMembers (fuel + 1) levels (quote asciiOnly name ++ ':' :: ' ' :: s) =
      .ok ([(name, item)], after) := by
  simp [quote_append, readChars_quoted, skipSpace_colon, skipSpace_space, h, htail]

theorem readMembers_of_comma (h : readValue fuel levels (skipSpace s) = .ok (item, tail))
    (htail : skipSpace tail = ',' :: after) :
    readMembers (fuel + 1) levels (quote asciiOnly name ++ ':' :: ' ' :: s) =
      (readMembers fuel levels (skipSpace after)).map fun r => ((name, item) :: r.1, r.2) := by
  cases hmore : readMembers fuel levels (skipSpace after) <;>
    simp [quote_append, readChars_quoted, skipSpace_colon, skipSpace_space, h, htail, hmore,
      Except.map]

theorem readValue_object_of_close (h : skipSpace s = '\x7d' :: after) :
    readValue (fuel + 1) (levels + 1) ('\x7b' :: s) = .ok (.object [], after) := by
  simp [h]

theorem readValue_object_of_member (h : skipSpace s = tail) (hmember : ∀ cs, tail ≠ '\x7d' :: cs) :
    readValue (fuel + 1) (levels + 1) ('\x7b' :: s) =
      (readMembers fuel levels tail).map fun r => (.object r.1, r.2) := by
  cases hmembers : readMembers fuel levels tail <;>
    simp [h, hmembers, Except.map]

theorem readValue_object_zero :
    readValue (fuel + 1) 0 ('\x7b' :: s) = fail .shallow ('\x7b' :: s) := by
  simp

theorem readValue_of_starts {c : Char} (h : c = '-' ∨ Text.isAsciiDigit c = true) :
    readValue (fuel + 1) levels (c :: s) = readScalar (c :: s) := by
  have hquote : c ≠ '"' := ne_of_starts h (by decide) (by decide)
  have hbracket : c ≠ '[' := ne_of_starts h (by decide) (by decide)
  have hbrace : c ≠ '\x7b' := ne_of_starts h (by decide) (by decide)
  simp [hquote, hbracket, hbrace]

theorem readValue_quote :
    readValue (fuel + 1) levels (quote asciiOnly name ++ s) = .ok (.str name, s) := by
  simp [quote_append, readChars_quoted]

end Steps

/-! ## Reading what has been written -/

theorem ReadAs.map {α β : Type} {depth levels outer above : Nat} {a : α} {result : Result α}
    (h : ReadAs depth levels a rest result) (f : α → β) (hdepth : outer ≤ above ↔ depth ≤ levels) :
    ReadAs outer above (f a) rest (result.map fun r => (f r.1, r.2)) := by
  obtain ⟨hshallow, rfl⟩ | ⟨hdeep, left, rfl⟩ := h
  · exact .inl ⟨hdepth.2 hshallow, rfl⟩
  · exact .inr ⟨by omega, left, rfl⟩

/-- A document is read wherever a number would end behind it. -/
def IsRead (style : Style) (d : Nat) (j : Json) : Prop :=
  ∀ (fuel levels : Nat) (rest : List Char), 2 * (render style d j).length ≤ fuel →
    EndsNumber rest →
    ReadAs j.depth levels j rest (readValue fuel levels (render style d j ++ rest))

/-- What closes or goes on behind an item ends a number. -/
theorem endsNumber_renderItems (style : Style) (d close : Nat) (items : List Json)
    (rest : List Char) :
    EndsNumber (renderItems style d items ++ (style.break close ++ ']' :: rest)) := by
  cases items with
  | nil => exact endsNumber_break close (by decide)
  | cons item items =>
    obtain ⟨blanks, hseparator, -⟩ := exists_separator style d
    rw [renderItems, hseparator]
    exact endsNumber_cons (.inr (by decide))

/-- Items are read up to the bracket that closes them. -/
theorem readItems_render {d close : Nat} {first : Json} {items : List Json}
    (hplain : ∀ j ∈ first :: items, Plain j) (hread : ∀ j ∈ first :: items, IsRead style d j)
    {fuel levels : Nat}
    (hfuel : 2 * ((render style d first).length + (renderItems style d items).length) < fuel) :
    ReadAs (depthAll (first :: items)) levels (first :: items) rest
      (readItems fuel levels (render style d first ++
        (renderItems style d items ++ (style.break close ++ ']' :: rest)))) := by
  induction items generalizing first fuel with
  | nil =>
    obtain ⟨fuel, rfl⟩ : ∃ n, fuel = n + 1 := ⟨fuel - 1, by omega⟩
    rw [depthAll, depthAll]
    obtain ⟨hdepth, hfirst⟩ | ⟨hdepth, left, hfirst⟩ :=
      hread first List.mem_cons_self fuel levels _ (by omega)
        (endsNumber_renderItems style d close [] rest)
    · refine .inl ⟨by omega, readItems_of_close hfirst ?_⟩
      rw [renderItems, List.nil_append, skipSpace_append (isSpace_of_mem_break close)]
      exact skipSpace_cons rfl
    · exact .inr ⟨by omega, left, readItems_of_error hfirst⟩
  | cons second more ih =>
    obtain ⟨fuel, rfl⟩ : ∃ n, fuel = n + 1 := ⟨fuel - 1, by omega⟩
    obtain ⟨hfirstPlain, hmorePlain⟩ := List.forall_mem_cons.1 hplain
    obtain ⟨hfirstRead, hmoreRead⟩ := List.forall_mem_cons.1 hread
    obtain ⟨blanks, hseparator, hblanks⟩ := exists_separator style d
    have hlength := render_length_pos hfirstPlain style d
    rw [renderItems, hseparator, List.length_append, List.length_append, List.length_cons] at hfuel
    rw [depthAll]
    obtain ⟨hdepth, hfirst⟩ | ⟨hdepth, left, hfirst⟩ :=
      hfirstRead fuel levels _ (by omega)
        (endsNumber_renderItems style d close (second :: more) rest)
    · have hcomma : skipSpace (renderItems style d (second :: more) ++
          (style.break close ++ ']' :: rest)) =
          ',' :: (blanks ++ (render style d second ++
            (renderItems style d more ++ (style.break close ++ ']' :: rest)))) := by
        rw [renderItems, hseparator]
        simp only [List.cons_append, List.append_assoc]
        exact skipSpace_cons rfl
      rw [readItems_of_comma hfirst hcomma, skipSpace_append hblanks,
        skipSpace_render (hmorePlain second List.mem_cons_self)]
      exact (ih hmorePlain hmoreRead (by omega)).map (first :: ·) (by omega)
    · exact .inr ⟨by omega, left, readItems_of_error hfirst⟩

theorem endsNumber_renderMembers (style : Style) (d close : Nat) (members : List (String × Json))
    (rest : List Char) :
    EndsNumber (renderMembers style d members ++ (style.break close ++ '\x7d' :: rest)) := by
  cases members with
  | nil => exact endsNumber_break close (by decide)
  | cons member members =>
    obtain ⟨blanks, hseparator, -⟩ := exists_separator style d
    rw [renderMembers, hseparator]
    exact endsNumber_cons (.inr (by decide))

/-- Members are read up to the brace that closes them. -/
theorem readMembers_render {d close : Nat} {name : String} {value : Json}
    {members : List (String × Json)} (hplain : ∀ m ∈ (name, value) :: members, Plain m.2)
    (hread : ∀ m ∈ (name, value) :: members, IsRead style d m.2) {fuel levels : Nat}
    (hfuel : 2 * ((render style d value).length + (renderMembers style d members).length) < fuel) :
    ReadAs (depthMembers ((name, value) :: members)) levels ((name, value) :: members) rest
      (readMembers fuel levels (quote style.asciiOnly name ++ ':' :: ' ' ::
        (render style d value ++
          (renderMembers style d members ++ (style.break close ++ '\x7d' :: rest))))) := by
  induction members generalizing name value fuel with
  | nil =>
    obtain ⟨fuel, rfl⟩ : ∃ n, fuel = n + 1 := ⟨fuel - 1, by omega⟩
    have hvaluePlain : Plain value := hplain _ List.mem_cons_self
    have hvalueRead : IsRead style d value := hread _ List.mem_cons_self
    have hvalue := hvalueRead fuel levels _ (by omega)
      (endsNumber_renderMembers style d close [] rest)
    rw [← skipSpace_render hvaluePlain] at hvalue
    rw [depthMembers, depthMembers]
    obtain ⟨hdepth, hvalue⟩ | ⟨hdepth, left, hvalue⟩ := hvalue
    · refine .inl ⟨by omega, readMembers_of_close hvalue ?_⟩
      rw [renderMembers, List.nil_append, skipSpace_append (isSpace_of_mem_break close)]
      exact skipSpace_cons rfl
    · exact .inr ⟨by omega, left, readMembers_of_error hvalue⟩
  | cons second more ih =>
    obtain ⟨name', value'⟩ := second
    obtain ⟨fuel, rfl⟩ : ∃ n, fuel = n + 1 := ⟨fuel - 1, by omega⟩
    obtain ⟨hvaluePlain, hmorePlain⟩ : Plain value ∧ ∀ m ∈ (name', value') :: more, Plain m.2 :=
      List.forall_mem_cons.1 hplain
    obtain ⟨hvalueRead, hmoreRead⟩ :
        IsRead style d value ∧ ∀ m ∈ (name', value') :: more, IsRead style d m.2 :=
      List.forall_mem_cons.1 hread
    obtain ⟨blanks, hseparator, hblanks⟩ := exists_separator style d
    have hlength := render_length_pos hvaluePlain style d
    rw [renderMembers, hseparator] at hfuel
    simp only [List.length_append, List.length_cons] at hfuel
    have hvalue := hvalueRead fuel levels _ (by omega)
      (endsNumber_renderMembers style d close ((name', value') :: more) rest)
    rw [← skipSpace_render hvaluePlain] at hvalue
    rw [depthMembers]
    obtain ⟨hdepth, hvalue⟩ | ⟨hdepth, left, hvalue⟩ := hvalue
    · have hcomma : skipSpace (renderMembers style d ((name', value') :: more) ++
          (style.break close ++ '\x7d' :: rest)) =
          ',' :: (blanks ++ (quote style.asciiOnly name' ++ ':' :: ' ' ::
            (render style d value' ++
              (renderMembers style d more ++ (style.break close ++ '\x7d' :: rest))))) := by
        rw [renderMembers, hseparator]
        simp only [List.cons_append, List.append_assoc]
        exact skipSpace_cons rfl
      rw [readMembers_of_comma hvalue hcomma, skipSpace_append hblanks, quote_append,
        skipSpace_cons rfl, ← quote_append]
      exact (ih hmorePlain hmoreRead (by omega)).map ((name, value) :: ·) (by omega)
    · exact .inr ⟨by omega, left, readMembers_of_error hvalue⟩

/-- What is not nested is read at every level. -/
theorem isRead_of_scalar {style : Style} {d : Nat} (hplain : Plain j) (hdepth : j.depth = 0)
    (h : ∀ {fuel levels : Nat} {rest : List Char}, EndsNumber rest →
      readValue (fuel + 1) levels (render style d j ++ rest) = .ok (j, rest)) :
    IsRead style d j := by
  intro fuel levels rest hfuel hrest
  have hlength := render_length_pos hplain style d
  obtain ⟨fuel, rfl⟩ : ∃ n, fuel = n + 1 := ⟨fuel - 1, by omega⟩
  exact .inl ⟨by omega, h hrest⟩

theorem isRead_array {items : List Json} {style : Style} {d : Nat}
    (hplain : ∀ j ∈ items, Plain j) (hread : ∀ j ∈ items, IsRead style (d + 1) j) :
    IsRead style d (.array items) := by
  intro fuel levels rest hfuel _
  cases items with
  | nil =>
    rw [render, List.length_cons] at hfuel
    obtain ⟨fuel, rfl⟩ : ∃ n, fuel = n + 1 := ⟨fuel - 1, by omega⟩
    rw [depth, depthAll, render]
    cases levels with
    | zero => exact .inr ⟨by omega, _, readValue_array_zero⟩
    | succ levels => exact .inl ⟨by omega, readValue_array_of_close (skipSpace_cons rfl)⟩
  | cons first more =>
    have hfirst : Plain first := hplain first List.mem_cons_self
    have htext : render style d (.array (first :: more)) ++ rest =
        '[' :: (style.break (d + 1) ++ (render style (d + 1) first ++
          (renderItems style (d + 1) more ++ (style.break d ++ ']' :: rest)))) := by
      simp
    have hskip : skipSpace (style.break (d + 1) ++ (render style (d + 1) first ++
          (renderItems style (d + 1) more ++ (style.break d ++ ']' :: rest)))) =
        render style (d + 1) first ++
          (renderItems style (d + 1) more ++ (style.break d ++ ']' :: rest)) := by
      rw [skipSpace_append (isSpace_of_mem_break _), skipSpace_render hfirst]
    have hitem (cs : List Char) : render style (d + 1) first ++
        (renderItems style (d + 1) more ++ (style.break d ++ ']' :: rest)) ≠ ']' :: cs := by
      obtain ⟨c, cs', hcs, -, hc, -⟩ := exists_render hfirst style (d + 1)
      rw [hcs]
      exact fun h => hc (List.cons.inj h).1
    simp only [render, List.length_append, List.length_cons] at hfuel
    obtain ⟨fuel, rfl⟩ : ∃ n, fuel = n + 1 := ⟨fuel - 1, by omega⟩
    rw [htext, depth]
    cases levels with
    | zero => exact .inr ⟨by omega, _, readValue_array_zero⟩
    | succ levels =>
      rw [readValue_array_of_item hskip hitem]
      exact (readItems_render hplain hread (by omega)).map Json.array (by omega)

theorem isRead_object {members : List (String × Json)} {style : Style} {d : Nat}
    (hplain : ∀ m ∈ members, Plain m.2) (hread : ∀ m ∈ members, IsRead style (d + 1) m.2) :
    IsRead style d (.object members) := by
  intro fuel levels rest hfuel _
  cases members with
  | nil =>
    rw [render, List.length_cons] at hfuel
    obtain ⟨fuel, rfl⟩ : ∃ n, fuel = n + 1 := ⟨fuel - 1, by omega⟩
    rw [depth, depthMembers, render]
    cases levels with
    | zero => exact .inr ⟨by omega, _, readValue_object_zero⟩
    | succ levels => exact .inl ⟨by omega, readValue_object_of_close (skipSpace_cons rfl)⟩
  | cons first more =>
    obtain ⟨name, value⟩ := first
    have htext : render style d (.object ((name, value) :: more)) ++ rest =
        '\x7b' :: (style.break (d + 1) ++ (quote style.asciiOnly name ++ ':' :: ' ' ::
          (render style (d + 1) value ++
            (renderMembers style (d + 1) more ++ (style.break d ++ '\x7d' :: rest))))) := by
      simp
    have hskip : skipSpace (style.break (d + 1) ++ (quote style.asciiOnly name ++ ':' :: ' ' ::
          (render style (d + 1) value ++
            (renderMembers style (d + 1) more ++ (style.break d ++ '\x7d' :: rest))))) =
        quote style.asciiOnly name ++ ':' :: ' ' :: (render style (d + 1) value ++
          (renderMembers style (d + 1) more ++ (style.break d ++ '\x7d' :: rest))) := by
      rw [skipSpace_append (isSpace_of_mem_break _), quote_append, skipSpace_cons rfl]
    have hmember (cs : List Char) : quote style.asciiOnly name ++ ':' :: ' ' ::
        (render style (d + 1) value ++
          (renderMembers style (d + 1) more ++ (style.break d ++ '\x7d' :: rest))) ≠
        '\x7d' :: cs := by
      rw [quote_append]
      exact fun h => absurd (List.cons.inj h).1 (by decide)
    simp only [render, List.length_append, List.length_cons] at hfuel
    obtain ⟨fuel, rfl⟩ : ∃ n, fuel = n + 1 := ⟨fuel - 1, by omega⟩
    rw [htext, depth]
    cases levels with
    | zero => exact .inr ⟨by omega, _, readValue_object_zero⟩
    | succ levels =>
      rw [readValue_object_of_member hskip hmember]
      exact (readMembers_render hplain hread (by omega)).map Json.object (by omega)

theorem isRead (h : Plain j) (style : Style) (d : Nat) : IsRead style d j := by
  induction h generalizing d with
  | null =>
    refine isRead_of_scalar .null rfl fun _ => ?_
    simp [readValue, readScalar, readWord?, words, Text.rest?]
  | bool b =>
    refine isRead_of_scalar (.bool b) rfl fun _ => ?_
    cases b <;> simp [readValue, readScalar, readWord?, words, Text.rest?]
  | @int n hn =>
    refine isRead_of_scalar (.int hn) rfl fun hrest => ?_
    obtain ⟨c, cs, hcs, hc⟩ := exists_intText n
    rw [render, ← readScalar_intText hn hrest, hcs]
    exact readValue_of_starts hc
  | str s =>
    refine isRead_of_scalar (.str s) rfl fun _ => ?_
    rw [render, readValue_quote]
  | array hitems ih => exact isRead_array hitems fun j hj => ih j hj (d + 1)
  | object hmembers ih => exact isRead_object hmembers fun m hm => ih m hm (d + 1)

/-! ## No control characters but line ends -/

/-- A character that is shown or ends a line. -/
def IsShown (c : Char) : Prop :=
  ' ' ≤ c ∨ c = '\n'

theorem isShown_of_mem_break (d : Nat) : ∀ c ∈ style.break d, IsShown c := by
  rw [Style.break]
  split
  · refine List.forall_mem_cons.2 ⟨.inr rfl, fun c hc => ?_⟩
    rw [List.eq_of_mem_replicate hc]
    exact .inl (by decide)
  · simp

theorem isShown_of_mem_separator (style : Style) (d : Nat) :
    ∀ c ∈ style.separator d, IsShown c := by
  rw [Style.separator]
  split
  · exact List.forall_mem_cons.2 ⟨.inl (by decide), isShown_of_mem_break d⟩
  · simp [IsShown]

theorem isShown_of_mem_renderItems {d : Nat} {items : List Json}
    (h : ∀ j ∈ items, ∀ c ∈ render style d j, IsShown c) :
    ∀ c ∈ renderItems style d items, IsShown c := by
  induction items with
  | nil => simp
  | cons item items ih =>
    obtain ⟨hitem, hitems⟩ := List.forall_mem_cons.1 h
    rw [renderItems]
    simp only [List.forall_mem_append]
    exact ⟨⟨isShown_of_mem_separator style d, hitem⟩, ih hitems⟩

theorem isShown_of_mem_member {d : Nat} (name : String) {value : Json}
    (h : ∀ c ∈ render style d value, IsShown c) :
    ∀ c ∈ quote style.asciiOnly name ++ ':' :: ' ' :: render style d value, IsShown c := by
  simp only [List.forall_mem_append, List.forall_mem_cons]
  exact ⟨fun c hc => .inl (le_of_mem_quote _ name c hc), .inl (by decide), .inl (by decide), h⟩

theorem isShown_of_mem_renderMembers {d : Nat} {members : List (String × Json)}
    (h : ∀ m ∈ members, ∀ c ∈ render style d m.2, IsShown c) :
    ∀ c ∈ renderMembers style d members, IsShown c := by
  induction members with
  | nil => simp
  | cons member members ih =>
    obtain ⟨name, value⟩ := member
    obtain ⟨hvalue, hmembers⟩ := List.forall_mem_cons.1 h
    have hmember := isShown_of_mem_member name hvalue
    rw [renderMembers]
    simp only [List.forall_mem_append] at hmember ⊢
    exact ⟨⟨⟨isShown_of_mem_separator style d, hmember.1⟩, hmember.2⟩, ih hmembers⟩

theorem isShown_of_mem_render (h : Plain j) (style : Style) (d : Nat) :
    ∀ c ∈ render style d j, IsShown c := by
  have hbreak (d : Nat) : ∀ c ∈ style.break d, IsShown c := isShown_of_mem_break d
  induction h generalizing d with
  | null =>
    simp [IsShown]
  | bool b =>
    cases b <;> simp [IsShown]
  | @int n => exact fun c hc => .inl (le_of_mem_intText n c hc)
  | str s => exact fun c hc => .inl (le_of_mem_quote _ s c hc)
  | @array items _ ih =>
    cases items with
    | nil =>
      simp [IsShown]
    | cons first more =>
      have hfirst := ih first List.mem_cons_self (d + 1)
      have hmore := isShown_of_mem_renderItems fun j hj =>
        ih j (List.mem_cons_of_mem first hj) (d + 1)
      simp only [render, List.forall_mem_append, List.forall_mem_cons]
      exact ⟨⟨⟨⟨⟨.inl (by decide), hbreak (d + 1)⟩, hfirst⟩, hmore⟩, hbreak d⟩,
        by simp [IsShown]⟩
  | @object members _ ih =>
    cases members with
    | nil =>
      simp [IsShown]
    | cons first more =>
      obtain ⟨name, value⟩ := first
      have hmember := isShown_of_mem_member name (ih (name, value) List.mem_cons_self (d + 1))
      have hmore := isShown_of_mem_renderMembers fun m hm =>
        ih m (List.mem_cons_of_mem (name, value) hm) (d + 1)
      simp only [render, List.forall_mem_append, List.forall_mem_cons] at hmember ⊢
      exact ⟨⟨⟨⟨⟨⟨.inl (by decide), hbreak (d + 1)⟩, hmember.1⟩, hmember.2⟩, hmore⟩, hbreak d⟩,
        by simp [IsShown]⟩

/-! ## Whole documents -/

theorem readDocument_render (h : Plain j) (style : Style) :
    j.depth ≤ nestingLimit ∧ readDocument (render style 0 j) = .ok j ∨
      nestingLimit < j.depth ∧
        ∃ left, readDocument (render style 0 j) = .error ⟨.shallow, left⟩ := by
  obtain ⟨c, cs, hcs, -, -, hmark⟩ := exists_render h style 0
  have hhead : ((render style 0 j).head? == some '\uFEFF') = false := by
    rw [hcs, List.head?_cons, beq_eq_false_iff_ne]
    exact fun hc => hmark (Option.some.inj hc)
  have hskip : skipSpace (render style 0 j ++ []) = render style 0 j ++ [] :=
    skipSpace_render h style 0
  have hread := isRead h style 0 (2 * (render style 0 j).length + 2) nestingLimit [] (by omega)
    (by simp [EndsNumber])
  rw [List.append_nil] at hskip hread
  rw [readDocument, hhead, if_neg Bool.false_ne_true, hskip]
  obtain ⟨hshallow, hvalue⟩ | ⟨hdeep, left, hvalue⟩ := hread
  · rw [hvalue]
    exact .inl ⟨hshallow, rfl⟩
  · rw [hvalue]
    exact .inr ⟨hdeep, left, rfl⟩

/-- The text of a document is read as the document, unless it is nested too deeply. -/
theorem parse_text (h : Plain j) (style : Style) :
    j.depth ≤ nestingLimit ∧ parse (j.text style) = .ok j ∨
      nestingLimit < j.depth ∧ ∃ f, parse (j.text style) = .error f ∧ f.expected = .shallow := by
  rw [parse, text, String.toList_ofList]
  obtain ⟨hshallow, hdocument⟩ | ⟨hdeep, left, hdocument⟩ := readDocument_render h style
  · rw [hdocument]
    exact .inl ⟨hshallow, rfl⟩
  · rw [hdocument]
    exact .inr ⟨hdeep, _, rfl, rfl⟩

theorem carriageReturn_notMem_text (h : Plain j) (style : Style) :
    '\r' ∉ (j.text style).toList := by
  rw [text, String.toList_ofList]
  intro hmem
  obtain hshown | hline := isShown_of_mem_render h style 0 '\r' hmem
  · exact absurd hshown (by decide)
  · exact absurd hline (by decide)

end ContentIndex.Json
