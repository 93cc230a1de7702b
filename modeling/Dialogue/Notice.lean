/-
**Notices.**

What happens while a bot is built and while it answers is noted, in order, for whoever runs it. A
notice is a fact with its level; the wording is `Notice.message`.
-/

import Dialogue.Fault
import Dialogue.Pattern.Key
import Dialogue.Pattern.Reference

namespace Dialogue

open Text

/-- How urgent a notice is. -/
inductive Level where
  | warning
  | information
  | detail
deriving DecidableEq, Repr

/-- Where a category comes from. -/
inductive Origin where
  /-- It was there when the bot was built, or its owner added it. -/
  | loaded
  /-- The bot learned it in conversation. -/
  | learned
deriving DecidableEq, Repr

/-- The word for an origin in notices. -/
def Origin.word : Origin → String
  | .loaded => "Loaded"
  | .learned => "Learned"

/-- A fact that is worth noting. -/
inductive Notice where
  | skippedCategory (fault : CategoryFault)
  | unnamedReference (kind : Pattern.ReferenceKind) (pattern : String)
  | unknownMap (name : String)
  | malformedLesson (fault : CategoryFault)
  | redirectLimitReached (limit : Nat) (query : String)
  | loopLimitReached (limit : Nat)
  | turnAborted (input : String) (interruption : Interruption)
  | invalidDateFormat (format : String)
  | invalidTimezone (timezone : String)
  | fileLoaded (path : String)
  | categoryLearned (key : Key)
  | categoriesUnlearned (count : Nat)
  | categoryRedefined (key : Key)
  | built (categories sets : Nat)
  | unmatched (sentence : String)
  | matched (sentence : String) (key : Key)
  | redirected (depth : Nat) (query : String)
  | classified (sentence replacement : String)
  | categoryReplaced (origin : Origin) (key : Key)
  | categoryRestored (key : Key)
  | localeIgnored (locale : String)
deriving DecidableEq, Repr

namespace Notice

/-- The level of a notice. -/
def level : Notice → Level
  | .skippedCategory _ | .unnamedReference .. | .unknownMap _ | .malformedLesson _
  | .redirectLimitReached .. | .loopLimitReached _ | .turnAborted .. | .invalidDateFormat _
  | .invalidTimezone _ => .warning
  | .fileLoaded _ | .categoryLearned _ | .categoriesUnlearned _ => .information
  | .categoryRedefined _ | .built .. | .unmatched _ | .matched .. | .redirected .. | .classified ..
  | .categoryReplaced .. | .categoryRestored _ | .localeIgnored _ => .detail

/-- Whether a notice is about a date. -/
def isAboutDate : Notice → Bool
  | .invalidDateFormat _ | .invalidTimezone _ | .localeIgnored _ => true
  | _ => false

/-- Whether a notice is about what a bot learns and forgets. -/
def isAboutRepertoire : Notice → Bool
  | .categoryLearned _ | .categoriesUnlearned _ | .categoryReplaced .. | .categoryRestored _ => true
  | _ => false

/-- Whether a notice is neither about what a bot learns and forgets nor about a redirection that is
followed. -/
def isAside : Notice → Bool
  | .redirected .. => false
  | notice => !notice.isAboutRepertoire

theorem isAboutRepertoire_of_isAside {notice : Notice} (aside : notice.isAside) :
    notice.isAboutRepertoire = false := by
  cases notice <;> first | rfl | cases aside

/-- What is about a date is aside. -/
theorem isAside_of_isAboutDate {notice : Notice} (date : notice.isAboutDate) :
    notice.isAside := by
  cases notice <;> first | rfl | cases date

def message : Notice → String
  | .skippedCategory fault => "Skipping category: " ++ fault.message
  | .unnamedReference kind pattern =>
    "Ignoring unnamed <" ++ kind.tag ++ "> in pattern " ++ quote pattern
  | .unknownMap name => unknownMapMessage name
  | .malformedLesson fault => malformedLessonMessage fault.message
  | .redirectLimitReached limit query =>
    "srai depth " ++ Numeral.writeNat limit ++ " reached at " ++ quote query
  | .loopLimitReached limit => "condition looped more than " ++ Numeral.writeNat limit ++ " times"
  | .turnAborted input interruption =>
    "Turn aborted for " ++ quote input ++ ": " ++ interruption.message
  | .invalidDateFormat format => "Invalid date format: " ++ quote format
  | .invalidTimezone timezone => "Invalid timezone: " ++ quote timezone
  | .fileLoaded path => "Loaded " ++ path
  | .categoryLearned key => "Learned category: " ++ key.text
  | .categoriesUnlearned count => "Unlearned " ++ Numeral.writeNat count ++ " categories"
  | .categoryRedefined key => "Category " ++ key.text ++ " redefined"
  | .built categories sets =>
    "Built brain with " ++ Numeral.writeNat categories ++ " categories, " ++
      Numeral.writeNat sets ++ " sets"
  | .unmatched sentence => "No match for " ++ quote sentence
  | .matched sentence key => "Matched " ++ quote sentence ++ " -> " ++ key.text
  | .redirected depth query => "srai[" ++ Numeral.writeNat depth ++ "] " ++ quote query
  | .classified sentence replacement =>
    "Classifier mapped " ++ quote sentence ++ " to " ++ quote replacement
  | .categoryReplaced origin key => "Replaced " ++ origin.word ++ " category " ++ key.text
  | .categoryRestored key => "Restored loaded category " ++ key.text
  | .localeIgnored locale => "Ignoring date locale " ++ quote locale

end Notice

end Dialogue
