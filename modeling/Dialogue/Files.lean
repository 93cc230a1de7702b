/-
**Files.**

A tree of files is given by the contents under their paths, and its directories are the paths'
proper beginnings. Looking a path up follows its parts one by one:

* an empty part or a single dot stays, and two dots go up; both need a directory to start from;
* the empty path leads nowhere, and a path from the root leads out of the tree;
* a path has fewer than 4096 bytes, none of them null, and a part of it at most 255.

`Files.read` gives the text under a path, `fileStem?` the name of a file without its extension.
-/

import Dialogue.Fault

namespace Dialogue

/-- A tree of files, given by the parts of their paths. -/
structure Files where
  contents : List (List String × ByteArray) := []

/-- The parts of a path. -/
def pathParts (path : String) : List String :=
  (path.toList.splitOnP (· == '/')).map String.ofList

namespace Files

/-- The tree with these contents under these paths. -/
def ofEntries (entries : List (String × ByteArray)) : Files :=
  ⟨entries.map fun entry =>
    ((pathParts entry.1).filter fun part => part ≠ "" ∧ part ≠ ".", entry.2)⟩

/-- The content of the file at a place. -/
def content? (files : Files) (place : List String) : Option ByteArray :=
  (files.contents.find? fun entry => entry.1 = place).map Prod.snd

/-- Whether a place is a directory: above the tree, the tree itself, or the beginning of a file's
path. -/
def isDirectory (files : Files) (place : List String) : Bool :=
  place.all (· = "..") ||
    files.contents.any fun entry => place.length < entry.1.length && place.isPrefixOf entry.1

/-- The directory above a place. -/
def parent (place : List String) : List String :=
  if place.all (· = "..") then place ++ [".."] else place.dropLast

/-- The place that the parts of a path lead to. -/
def follow (files : Files) (place : List String) : List String → Except FileFault (List String)
  | [] => .ok place
  | part :: parts =>
    if !files.isDirectory place then .error .notDirectory
    else if part = "" ∨ part = "." then files.follow place parts
    else if part = ".." then files.follow (parent place) parts
    else if 255 < part.utf8ByteSize then .error .tooLong
    else
      let next := place ++ [part]
      if files.isDirectory next || (files.content? next).isSome then files.follow next parts
      else .error .missing

/-- The place that a path leads to. -/
def locate (files : Files) (path : String) : Except FileFault (List String) :=
  if path.toList.contains '\x00' then .error .nullCharacter
  else if 4096 ≤ path.utf8ByteSize then .error .tooLong
  else
    match pathParts path with
    | [""] => .error .missing
    | "" :: parts =>
      if parts.all fun part => part = "" || part = "." || part = ".." then .ok []
      else .error .missing
    | parts => files.follow [] parts

/-- The text of the file under a path. -/
def read (files : Files) (path : String) : Except FileFault String := do
  let place ← files.locate path
  match files.content? place with
  | none => .error .isDirectory
  | some content =>
    match String.fromUTF8? content with
    | none => .error .malformed
    | some text => .ok text

end Files

/-- A name without its extension, which starts at the last dot that is not the first character. -/
def withoutExtension (name : List Char) : List Char :=
  match (name.reverse.dropWhile (· != '.')) with
  | [] => name
  | _ :: stem => if stem.isEmpty then name else stem.reverse

/-- The name of the file that a path leads to, without its extension. -/
def fileStem? (path : String) : Option String :=
  match ((pathParts path).filter fun part => part ≠ "" ∧ part ≠ ".").getLast? with
  | none => none
  | some name => if name = ".." then none else some (String.ofList (withoutExtension name.toList))

end Dialogue
