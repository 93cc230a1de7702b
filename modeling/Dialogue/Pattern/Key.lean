/-
**The key of a category.**

A category is stored under three token lists: the pattern of the input, the pattern of the previous
response (`that`) and the pattern of the topic. A context that is missing or has no token means any,
which is the star.

* `Key.ofTokens`: the key with missing contexts filled in;
* `Key.text`: its written form.
-/

import Dialogue.Pattern.Token

namespace Dialogue

/-- The three token lists under which a category is stored. -/
structure Key where
  pattern : List Token
  that : List Token
  topic : List Token
deriving DecidableEq, Repr

namespace Key

/-- A context, or the star if it is missing or has no token. -/
def orAny : Option (List Token) → List Token
  | none | some [] => [.star]
  | some (token :: tokens) => token :: tokens

/-- The key of a pattern with its optional contexts. -/
def ofTokens (pattern : List Token) (that topic : Option (List Token)) : Key :=
  ⟨pattern, orAny that, orAny topic⟩

/-- The written form of a key. -/
def text (key : Key) : String :=
  patternText key.pattern ++ " <that> " ++ patternText key.that ++ " <topic> " ++
    patternText key.topic

/-- A context that is filled in has a token. -/
theorem orAny_ne_nil (tokens : Option (List Token)) : orAny tokens ≠ [] := by
  rcases tokens with _ | _ | _ <;> simp [orAny]

end Key

end Dialogue
