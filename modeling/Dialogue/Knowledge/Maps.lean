/-
**Maps.**

A map sends a text to a text. Maps are found under the canonical form of their names.

* `successor`, `predecessor`: the maps that are always there. They step the integer of sixty-four
  bits that the trimmed argument writes, and are empty on everything else and at the end of the
  range;
* `Maps.register`, `Maps.registerTable`: further maps, each in place of one of the same name;
* `Maps.call?`: the image of an argument, if the map exists.
-/

import Dialogue.Numeral
import Dialogue.Table
import Dialogue.Text.Name
import Dialogue.Text.Quoted

namespace Dialogue

open Text

/-- The integer that a text writes, moved by a step, if both are in range; else nothing. -/
def stepInteger (step : Int) (argument : String) : String :=
  match Numeral.readInt64? (trim argument) with
  | none => ""
  | some value =>
    if Numeral.leastInt64 ≤ value + step ∧ value + step ≤ Numeral.greatestInt64 then
      Numeral.writeInteger (value + step)
    else ""

def successor (argument : String) : String := stepInteger 1 argument

def predecessor (argument : String) : String := stepInteger (-1) argument

/-- The map that looks canonical arguments up in a table and is empty elsewhere. -/
def tableMap (table : Table String String) (argument : String) : String :=
  (table.get? (canonical argument)).getD ""

/-- The maps of a bot, by canonical name. -/
structure Maps where
  functions : Table String (String → String) :=
    [("successor", successor), ("predecessor", predecessor)]

namespace Maps

/-- The maps with one under a name. -/
def register (name : String) (function : String → String) (maps : Maps) : Maps :=
  ⟨maps.functions.set (canonical name) function⟩

/-- The maps with one under a name that sends canonical arguments to what the entries say. -/
def registerTable (name : String) (entries : List (String × String)) (maps : Maps) : Maps :=
  maps.register name
    (tableMap (Table.ofEntries (entries.map fun entry => (canonical entry.1, entry.2))))

/-- Whether there is a map of a name. -/
def contains (maps : Maps) (name : String) : Bool := maps.functions.has (canonical name)

/-- The image of an argument under the map of a name. -/
def call? (maps : Maps) (name argument : String) : Option String :=
  (maps.functions.get? (canonical name)).map fun function => function argument

/-- The names in ascending order. -/
def names (maps : Maps) : List String :=
  (maps.functions.map Prod.fst).mergeSort fun first second => first ≤ second

def describe (maps : Maps) : String :=
  "MapRegistry \x7b functions: [" ++ ", ".intercalate (maps.names.map quote) ++ "] \x7d"

end Maps

end Dialogue
