import ContentIndex.Markup.Buckets
import ContentIndex.Proofs.Markup.Reading

/-!
# Attributes of a tag

Attributes with balanced quotes end no tag, whatever stands between their quotes. Padding keeps
them balanced: it puts spaces into the values, and no quotes.
-/

namespace ContentIndex.Markup

set_option autoImplicit false

def IsQuote (q : Char) : Prop :=
  q = '"' ∨ q = '\''

instance : DecidablePred IsQuote := fun q =>
  inferInstanceAs (Decidable (q = '"' ∨ q = '\''))

theorem IsQuote.ne_end {q : Char} (hq : IsQuote q) : q ≠ '>' := by
  rcases hq with rfl | rfl <;> decide

/-- Every quote is closed, and no `>` stands outside of quotes. -/
inductive Balanced : List Char → Prop where
  | nil : Balanced []
  | char {c : Char} {rest : List Char} :
      ¬ IsQuote c → c ≠ '>' → Balanced rest → Balanced (c :: rest)
  | quoted {q : Char} {value rest : List Char} :
      IsQuote q → q ∉ value → Balanced rest → Balanced (q :: (value ++ q :: rest))

theorem quoteAfter?_append {quote quote' : Option Char} {s : List Char}
    (h : quoteAfter? quote s = some quote') (t : List Char) :
    quoteAfter? quote (s ++ t) = quoteAfter? quote' t := by
  induction s generalizing quote with
  | nil =>
    cases h
    rfl
  | cons c s ih =>
    rw [quoteAfter?.eq_def] at h
    rw [List.cons_append, quoteAfter?.eq_def]
    cases quote with
    | some q => exact ih h
    | none =>
      dsimp only at h ⊢
      split at h
      · cases h
      · rename_i hc
        rw [if_neg hc]
        exact ih h

theorem quoteAfter?_of_not_mem {q : Char} {value : List Char} (h : q ∉ value) :
    quoteAfter? (some q) value = some (some q) := by
  induction value with
  | nil => rfl
  | cons c value ih =>
    rw [List.mem_cons, not_or] at h
    rw [quoteAfter?, if_neg (Ne.symm h.1)]
    exact ih h.2

theorem quoteAfter?_quoted {q : Char} {value : List Char} (hq : IsQuote q) (hv : q ∉ value)
    (rest : List Char) : quoteAfter? none (q :: (value ++ q :: rest)) = quoteAfter? none rest := by
  have hq' : q = '"' ∨ q = '\'' := hq
  rw [quoteAfter?, if_neg hq.ne_end, if_pos hq', quoteAfter?_append (quoteAfter?_of_not_mem hv),
    quoteAfter?, if_pos rfl]

theorem Balanced.quoteAfter {s : List Char} (h : Balanced s) : quoteAfter? none s = some none := by
  induction h with
  | nil => rfl
  | @char c rest hq hc _ ih =>
    have hq' : ¬ (c = '"' ∨ c = '\'') := hq
    rw [quoteAfter?, if_neg hc, if_neg hq', ih]
  | quoted hq hv _ ih => rw [quoteAfter?_quoted hq hv, ih]

theorem Balanced.append {s t : List Char} (hs : Balanced s) (ht : Balanced t) :
    Balanced (s ++ t) := by
  induction hs with
  | nil => exact ht
  | char hq hc _ ih => exact .char hq hc ih
  | quoted hq hv _ ih =>
    rw [List.cons_append, List.append_assoc, List.cons_append]
    exact .quoted hq hv ih

theorem Balanced.tagEnd? {s : List Char} (h : Balanced s) (rest : List Char) :
    Markup.tagEnd? none (s ++ rest) =
      (Markup.tagEnd? none rest).map fun (taken, after) => (s ++ taken, after) :=
  tagEnd?_of_quoteAfter h.quoteAfter rest

/-! ## Padding -/

theorem pad_append (s t : List Char) : pad (s ++ t) = pad s ++ pad t := by
  induction s with
  | nil => rfl
  | cons c s ih =>
    rw [List.cons_append, pad, pad, ih]
    split
    · rfl
    · split <;> rfl

theorem pad_cons {c : Char} (s : List Char) (h1 : c ≠ '<') (h2 : c ≠ '>') :
    pad (c :: s) = c :: pad s := by
  rw [pad, if_neg h1, if_neg h2]

theorem mem_pad {c : Char} {s : List Char} (h : c ∈ pad s) : c = ' ' ∨ c ∈ s := by
  induction s with
  | nil => cases h
  | cons d s ih =>
    rw [pad] at h
    split at h
    · rename_i hd
      rcases List.mem_cons.1 h with rfl | h
      · exact .inl rfl
      · rcases List.mem_cons.1 h with rfl | h
        · exact .inr (by rw [hd]; exact List.mem_cons_self)
        · exact (ih h).imp id (List.mem_cons_of_mem d)
    · split at h
      · rename_i hd
        rcases List.mem_cons.1 h with rfl | h
        · exact .inr (by rw [hd]; exact List.mem_cons_self)
        · rcases List.mem_cons.1 h with rfl | h
          · exact .inl rfl
          · exact (ih h).imp id (List.mem_cons_of_mem d)
      · rcases List.mem_cons.1 h with rfl | h
        · exact .inr List.mem_cons_self
        · exact (ih h).imp id (List.mem_cons_of_mem d)

theorem pad_eq_self {s : List Char} (h : ∀ c ∈ s, c ≠ '<' ∧ c ≠ '>') : pad s = s := by
  induction s with
  | nil => rfl
  | cons c s ih =>
    obtain ⟨h1, h2⟩ := h c List.mem_cons_self
    rw [pad_cons s h1 h2, ih fun d hd => h d (List.mem_cons_of_mem c hd)]

theorem IsQuote.not_mem_pad {q : Char} {value : List Char} (hq : IsQuote q) (h : q ∉ value) :
    q ∉ Markup.pad value := by
  intro hm
  rcases mem_pad hm with rfl | hm
  · rcases hq with hq | hq <;> exact absurd hq (by decide)
  · exact h hm

theorem IsQuote.pad_quoted {q : Char} (hq : IsQuote q) (value rest : List Char) :
    Markup.pad (q :: (value ++ q :: rest)) = q :: (Markup.pad value ++ q :: Markup.pad rest) := by
  have h1 : q ≠ '<' := by rcases hq with rfl | rfl <;> decide
  rw [pad_cons _ h1 hq.ne_end, pad_append, pad_cons _ h1 hq.ne_end]

theorem Balanced.pad {s : List Char} (h : Balanced s) : Balanced (Markup.pad s) := by
  induction h with
  | nil => exact .nil
  | @char c rest hq hc _ ih =>
    rw [Markup.pad]
    split
    · exact .char (by decide) (by decide) (.char (by decide) (by decide) ih)
    · exact .char hq hc ih
  | quoted hq hv _ ih =>
    rw [hq.pad_quoted]
    exact .quoted hq (hq.not_mem_pad hv) ih

end ContentIndex.Markup
