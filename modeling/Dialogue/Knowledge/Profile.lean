/-
**The profile of a bot.**

Properties that never change, found under the canonical form of their names. Of two entries with one
name the later one holds.
-/

import Dialogue.Table
import Dialogue.Text.Name

namespace Dialogue

/-- The properties of a bot, by canonical name. -/
structure Profile where
  properties : Table String String := []
deriving DecidableEq, Repr

namespace Profile

/-- The profile of some entries. -/
def ofEntries (entries : List (String × String)) : Profile :=
  ⟨Table.ofEntries (entries.map fun entry => (Text.canonical entry.1, entry.2))⟩

def get? (profile : Profile) (name : String) : Option String :=
  profile.properties.get? (Text.canonical name)

def size (profile : Profile) : Nat := profile.properties.length

end Profile

end Dialogue
