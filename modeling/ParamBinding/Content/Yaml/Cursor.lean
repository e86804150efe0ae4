/-!
# Places in a text

A cursor is a place in a text, with its line and column, and the text that follows it. Behind the
last character stands `endMark`, which no document holds.
-/

namespace ParamBinding.Yaml

/-- What stands behind the last character. -/
def endMark : Char := '\x00'

/-- Whether a character breaks a line. -/
def isBreak (c : Char) : Bool :=
  c = '\n' || c = '\r' || c = '\u0085' || c = '\u2028' || c = '\u2029'

/-- Whether a line ends at a character. -/
def isBreakOrEnd (c : Char) : Bool := isBreak c || c = endMark

/-- Whether a character separates words: a space or the end of a line. -/
def isSpaceOrEnd (c : Char) : Bool := c = ' ' || isBreakOrEnd c

/-- Whether a character separates words, tabs included. -/
def isGapOrEnd (c : Char) : Bool := c = '\t' || isSpaceOrEnd c

/-- A place in a text. -/
structure Cursor where
  rest : List Char
  index : Nat := 0
  line : Nat := 0
  column : Nat := 0

namespace Cursor

/-- The character at a distance. -/
def peek (c : Cursor) (distance : Nat) : Char := (c.rest[distance]?).getD endMark

/-- The next character. -/
def next (c : Cursor) : Char := c.peek 0

/-- Whether a text stands here. -/
def isAt (c : Cursor) (s : String) : Bool := s.toList.isPrefixOf c.rest

/-- The place behind the next character. A line ends behind its last break character; byte order
marks take no column. -/
def step (c : Cursor) : Cursor :=
  match c.rest with
  | [] => c
  | x :: rest =>
    if isBreak x && !(x = '\r' && rest.head? = some '\n') then ⟨rest, c.index + 1, c.line + 1, 0⟩
    else ⟨rest, c.index + 1, c.line, if x = '\uFEFF' then c.column else c.column + 1⟩

/-- The place behind a number of characters. -/
def advance : Nat → Cursor → Cursor
  | 0, c => c
  | n + 1, c => advance n c.step

/-- The characters from here on that have a property, and the place behind them. -/
def take (p : Char → Bool) (c : Cursor) : List Char × Cursor :=
  let cs := c.rest.takeWhile p
  (cs, c.advance cs.length)

/-- The place behind the characters that have a property. -/
def skip (p : Char → Bool) (c : Cursor) : Cursor := (c.take p).2

/-- The line break that stands here, as it counts, and the place behind it. Two kinds of break are
kept, all others count as `\n`. -/
def lineBreak (c : Cursor) : List Char × Cursor :=
  let x := c.next
  if x = '\r' && c.peek 1 = '\n' then (['\n'], c.advance 2)
  else if x = '\r' || x = '\n' || x = '\u0085' then (['\n'], c.step)
  else if x = '\u2028' || x = '\u2029' then ([x], c.step)
  else ([], c)

/-- The place behind spaces and a comment. -/
def skipComment (c : Cursor) : Cursor :=
  let c := c.skip (· = ' ')
  if c.next = '#' then c.skip (!isBreakOrEnd ·) else c

/-- The start of the next line, when nothing but spaces and a comment stands before it. -/
def endLine? (c : Cursor) : Option Cursor :=
  let c := c.skipComment
  if isBreakOrEnd c.next then some c.lineBreak.2 else none

/-- Whether a mark between documents stands here. -/
def isAtSeparator (c : Cursor) : Bool := (c.isAt "---" || c.isAt "...") && isGapOrEnd (c.peek 3)

end Cursor

end ParamBinding.Yaml
