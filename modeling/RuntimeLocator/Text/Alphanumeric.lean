/-
Letters and numbers: the characters that a bare variable name is made of.
-/

import RuntimeLocator.Text.Alphanumeric.Table
import RuntimeLocator.Text.Ranges

namespace RuntimeLocator.Alphanumeric

/-- Whether a character is a letter or a number of any script. -/
def isAlphanumeric (c : Char) : Bool :=
  inRanges ranges c.toNat

end RuntimeLocator.Alphanumeric
