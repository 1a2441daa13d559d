import ContentIndex.Text.PrintableTable
import ContentIndex.Text.Ranges

/-!
# Characters with a visible form
-/

namespace ContentIndex.Text

set_option autoImplicit false

def isPrintable (c : Char) : Bool :=
  if c.toNat < 127 then decide (32 ≤ c.toNat) else !inRanges unprintableBounds c.toNat

end ContentIndex.Text
