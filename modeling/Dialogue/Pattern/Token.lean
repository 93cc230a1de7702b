/-
**The tokens of a pattern.**

* `Token`: a word, a reference to a set, a bot property or a predicate, or one of four wildcards;
* `Token.isCapturing`: whether a match records what the token consumed;
* `patternText`: the written form of a token list.
-/

import Dialogue.Text.Blank

namespace Dialogue

/-- One element of a pattern, of a context or of a topic. -/
inductive Token where
  /-- Exactly this word. -/
  | word (key : String)
  /-- Exactly this word, tried before everything else. -/
  | priority (key : String)
  /-- One word of the named set. -/
  | set (name : String)
  /-- One word, the value of the named bot property. -/
  | bot (name : String)
  /-- One word, the present value of the named predicate. -/
  | predicate (name : String)
  /-- One or more words, tried last. -/
  | star
  /-- One or more words, tried before exact words. -/
  | underscore
  /-- Any number of words, tried before exact words. -/
  | hash
  /-- Any number of words, tried after exact words. -/
  | caret
deriving DecidableEq, Repr

namespace Token

/-- Whether a match records the words the token consumed. -/
def isCapturing : Token → Bool
  | .set _ | .star | .underscore | .hash | .caret => true
  | .word _ | .priority _ | .bot _ | .predicate _ => false

/-- The written form of a token. -/
def text : Token → String
  | .word key => key
  | .priority key => "$" ++ key
  | .set name => "<set>" ++ name ++ "</set>"
  | .bot name => "<bot name=\"" ++ name ++ "\"/>"
  | .predicate name => "<get name=\"" ++ name ++ "\"/>"
  | .star => "*"
  | .underscore => "_"
  | .hash => "#"
  | .caret => "^"

end Token

/-- The written form of a pattern. -/
def patternText (tokens : List Token) : String := Text.unwords (tokens.map Token.text)

end Dialogue
