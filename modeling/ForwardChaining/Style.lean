/-!
# Styles

Texts on a terminal are set off by an escape sequence before them and another one after
them.
-/

namespace ForwardChaining

/-- The escape sequences written before the texts of each sort, and the one after them.  An
empty sequence leaves the text as it is. -/
structure Styles where
  /-- A rule that is examined without firing. -/
  current : String
  /-- A rule that fires. -/
  performed : String
  /-- A fact that is asserted. -/
  fact : String
  heading : String
  /-- The verdict of success. -/
  success : String
  /-- The verdict of failure, and errors. -/
  failure : String
  /-- Secondary texts. -/
  dim : String
  /-- Ends a styled text. -/
  reset : String
  deriving DecidableEq

namespace Styles

/-- Styles of a terminal with colours. -/
def ansi : Styles where
  current := "\x1b[33m"
  performed := "\x1b[1;32m"
  fact := "\x1b[36m"
  heading := "\x1b[1m"
  success := "\x1b[1;32m"
  failure := "\x1b[31m"
  dim := "\x1b[2m"
  reset := "\x1b[0m"

/-- No escape sequences. -/
def plain : Styles where
  current := ""
  performed := ""
  fact := ""
  heading := ""
  success := ""
  failure := ""
  dim := ""
  reset := ""

/-- The text in the given style, which is one of the sequences of `s`. -/
def paint (s : Styles) (style text : String) : String :=
  if style.isEmpty then text else style ++ text ++ s.reset

/-- A text is painted by what is written before and after it: in it the text stands as it is. -/
theorem paint_eq (s : Styles) (style text : String) :
  s.paint style text = style ++ text ++ (if style.isEmpty then "" else s.reset)
  := by
  unfold paint
  split
  · rename_i unstyled
    rw [String.isEmpty_iff.mp unstyled, String.empty_append, String.append_empty]
  · rfl

end Styles

end ForwardChaining
