/-
**Names that ignore case.**

Predicates, bot properties, word sets, maps and pattern references are found under a canonical name:
two names mean the same thing exactly if they agree after trimming and lowering.
-/

import Dialogue.Text.Blank
import Dialogue.Text.Casing

namespace Dialogue.Text

/-- The form under which a name is stored and looked up. -/
def canonical (name : String) : String := lower (trim name)

end Dialogue.Text
