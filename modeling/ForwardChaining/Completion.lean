import ForwardChaining.Text.Basic

/-!
# Completion

The word under the cursor of a command line is completed to a command if nothing but blanks
stands before it, and to a keyword otherwise.  Places in a line are counted in the bytes of
its UTF-8 form, and the word begins one byte after the last blank.
-/

namespace ForwardChaining

/-- Completes the words of a command line. -/
structure Completer where
  /-- The words offered as arguments. -/
  keywords : List String
  deriving DecidableEq

/-- What is offered for a word. -/
structure Completion where
  /-- The byte at which the word begins. -/
  start : Nat
  candidates : List String
  deriving DecidableEq

/-- The words offered as commands. -/
def commandWords : List String :=
  ["step", "iterate", "run", "memory", "rules", "pending", "history", "rewind", "why", "trace",
    "save", "help", "quit"]

/-- The number of bytes of a text in UTF-8. -/
def byteSize : List Char → Nat
  | [] => 0
  | c :: rest => c.utf8Size + byteSize rest

/-- The first `n` bytes of a text and the rest; there are none if byte `n` is within a
character or beyond the end. -/
def splitBytes? : Nat → List Char → Option (List Char × List Char)
  | 0, cs => some ([], cs)
  | _, [] => none
  | n, c :: rest =>
    if c.utf8Size ≤ n then
      (splitBytes? (n - c.utf8Size) rest).map fun (before, after) => (c :: before, after)
    else none

/-- The byte at which the last word of `head` begins: one after the last blank, or zero. -/
def wordStart (head : List Char) : Nat :=
  let word := (head.reverse.takeWhile (!Text.isBlank ·)).reverse
  if word.length = head.length then 0
  else byteSize (head.take (head.length - word.length - 1)) + 1

/-- The completions of the word that ends at byte `position`.  There are none, not even an
empty list, if that or the byte at which the word begins lies within a character. -/
def Completer.complete (c : Completer) (line : String) (position : Nat) : Option Completion := do
  let (head, _) ← splitBytes? position line.toList
  let start := wordStart head
  let (before, word) ← splitBytes? start head
  let pool := if (Text.trim before).isEmpty then commandWords else c.keywords
  return { start := start, candidates := pool.filter fun w => word.isPrefixOf w.toList }

end ForwardChaining
