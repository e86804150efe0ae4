import ParamBinding.Content.Yaml.Cursor
import ParamBinding.Content.Yaml.Problem

/-!
# Scalars as they are written

A scalar is written in one of five ways: plain, between single or double quotes, or as a block of
lines, which is kept literally or folded. Each way has its own rule for line breaks.
-/

namespace ParamBinding.Yaml

open ParamBinding.Text

/-- A break between two parts of a text: one alone is a space, of several the first one is left
out. -/
def foldBreak (first others : List Char) : List Char :=
  if first ≠ ['\n'] then first ++ others else if others.isEmpty then [' '] else others

/-! ### Plain scalars -/

/-- Breaks and spaces at the start of lines, up to a mark between documents: the breaks, and whether
there is such a mark. The fuel bounds their number. -/
def plainBreaks : Nat → Cursor → List Char × Bool × Cursor
  | 0, c => ([], false, c)
  | fuel + 1, c =>
    if c.next = ' ' then plainBreaks fuel c.step
    else if isBreak c.next then
      let (b, c') := c.lineBreak
      if c'.isAtSeparator then ([], true, c')
      else
        let (bs, s, c'') := plainBreaks fuel c'
        (b ++ bs, s, c'')
    else ([], false, c)

/-- The blanks between two parts of a plain scalar, and whether there is a line break in them. In
front of a mark between documents there are none. -/
def plainSpaces (c : Cursor) : List Char × Bool × Cursor :=
  let (spaces, c) := c.take (· = ' ')
  if isBreak c.next then
    let (first, c') := c.lineBreak
    if c'.isAtSeparator then ([], true, c')
    else
      let (others, separator, c'') := plainBreaks (c'.rest.length + 1) c'
      if separator then ([], true, c'') else (foldBreak first others, true, c'')
  else (spaces, false, c)

/-- The length of the next part of a plain scalar. -/
def plainLength (inFlow : Bool) : List Char → Nat
  | [] => 0
  | x :: rest =>
    let after := rest.headD endMark
    if isGapOrEnd x || (inFlow && ",?[]\x7b\x7d".toList.contains x) ||
        (x = ':' && (isGapOrEnd after || (inFlow && ",[]\x7b\x7d".toList.contains after)))
    then 0 else plainLength inFlow rest + 1

/-- A plain scalar behind its parts so far: the text, and whether it ends with a line break. Lines
have to be indented, except in flow collections. The fuel bounds the number of parts. -/
def plainFrom (inFlow : Bool) (indent : Int) :
    Nat → List Char → Bool → Cursor → List Char × Bool × Cursor
  | 0, _, crossed, c => ([], crossed, c)
  | fuel + 1, blanks, crossed, c =>
    let n := if c.next = '#' then 0 else plainLength inFlow c.rest
    if n = 0 then ([], crossed, c)
    else
      let part := blanks ++ c.rest.take n
      let (spaces, crossed', c') := plainSpaces (c.advance n)
      if spaces.isEmpty || c'.next = '#' || (!inFlow && (c'.column : Int) < indent) then
        (part, crossed', c')
      else
        let (text, crossed'', c'') := plainFrom inFlow indent fuel spaces crossed' c'
        (part ++ text, crossed'', c'')

/-- A plain scalar. -/
def plain (inFlow : Bool) (indent : Int) (c : Cursor) : List Char × Bool × Cursor :=
  plainFrom inFlow indent (c.rest.length + 1) [] false c

/-! ### Quoted scalars -/

/-- The characters that have escapes of one letter. -/
def shortEscapes : List (Char × Char) := [
  ('0', '\x00'), ('a', '\x07'), ('b', '\x08'), ('t', '\t'), ('\t', '\t'), ('n', '\n'),
  ('v', '\x0b'), ('f', '\x0c'), ('r', '\r'), ('e', '\x1b'), (' ', ' '), ('"', '"'), ('\\', '\\'),
  ('/', '/'), ('N', '\u0085'), ('_', '\u00A0'), ('L', '\u2028'), ('P', '\u2029')]

/-- How many hexadecimal digits an escape has. -/
def escapeDigits : List (Char × Nat) := [('x', 2), ('u', 4), ('U', 8)]

/-- Line breaks inside quotes, with the blanks around them. No mark between documents may follow.
The fuel bounds their number. -/
def quotedBreaks : Nat → Cursor → Except Problem (List Char × Cursor)
  | 0, _ => .error .malformed
  | fuel + 1, c =>
    if c.isAtSeparator then .error .malformed
    else
      let c := c.skip fun x => x = ' ' || x = '\t'
      if isBreak c.next then
        let (b, c') := c.lineBreak
        (quotedBreaks fuel c').map fun (bs, c'') => (b ++ bs, c'')
      else .ok ([], c)

/-- The character with a number. -/
def charOfCode (code : Nat) : Except Problem Char :=
  if code.isValidChar then .ok (Char.ofNat code) else .error (.escape code)

/-- The character of an escape, or nothing for one that joins two lines. The cursor is behind the
backslash. -/
def escape (c : Cursor) : Except Problem (List Char × Cursor) :=
  match shortEscapes.lookup c.next with
  | some x => .ok ([x], c.step)
  | none => match escapeDigits.lookup c.next with
    | some n => do
      let digits := (c.step.rest.take n).filterMap hexDigit?
      require (digits.length = n)
      let x ← charOfCode (ofDigits 16 digits)
      .ok ([x], c.advance (n + 1))
    | none =>
      if isBreak c.next then
        let c' := c.lineBreak.2
        quotedBreaks (c'.rest.length + 1) c'
      else .error .malformed

/-- Whether a character between quotes stands for itself. -/
def isQuotedText (x : Char) : Bool := !(x = '\'' || x = '"' || x = '\\' || isGapOrEnd x)

/-- Blanks between quotes: those inside a line stay, those around line breaks do not. -/
def quotedBlanks (c : Cursor) : Except Problem (List Char × Cursor) := do
  let (blanks, c) := c.take fun x => x = ' ' || x = '\t'
  if c.next = endMark then .error .malformed
  else if isBreak c.next then
    let (first, c') := c.lineBreak
    let (others, c'') ← quotedBreaks (c'.rest.length + 1) c'
    .ok (foldBreak first others, c'')
  else .ok (blanks, c)

/-- A text up to its closing quote. The fuel bounds its parts. -/
def quotedFrom (isDouble : Bool) : Nat → Cursor → Except Problem (List Char × Cursor)
  | 0, _ => .error .malformed
  | fuel + 1, c => do
    let x := c.next
    if x = (if isDouble then '"' else '\'') && (isDouble || c.peek 1 ≠ '\'') then .ok ([], c.step)
    else
      let (part, c) ←
        if isQuotedText x then .ok (c.take isQuotedText)
        else if isDouble && x = '\\' then escape c.step
        else if !isDouble && x = '\'' then .ok ([x], c.advance 2)
        else if isGapOrEnd x then quotedBlanks c
        else .ok ([x], c.step)
      let (text, c) ← quotedFrom isDouble fuel c
      .ok (part ++ text, c)

/-- A text between quotes. The cursor is at the opening one. -/
def quoted (isDouble : Bool) (c : Cursor) : Except Problem (List Char × Cursor) :=
  quotedFrom isDouble (c.rest.length + 1) c.step

/-! ### Blocks -/

/-- What becomes of the line breaks at the end of a block. -/
inductive Chomping where
  | strip
  | clip
  | keep
  deriving DecidableEq

/-- The chomping that a character asks for. -/
def Chomping.ofChar? (x : Char) : Option Chomping :=
  if x = '+' then some .keep else if x = '-' then some .strip else none

/-- The indentation that a digit asks for. -/
def increment? (x : Char) : Option Nat :=
  (asciiDigit? x).filter (0 < ·)

/-- What stands behind the mark of a block: chomping and indentation in either order, both of them
optional. -/
def blockHeader (c : Cursor) : Chomping × Option Nat × Cursor :=
  match Chomping.ofChar? c.next with
  | some ch => match increment? c.step.next with
    | some n => (ch, some n, c.advance 2)
    | none => (ch, none, c.step)
  | none => match increment? c.next with
    | some n => match Chomping.ofChar? c.step.next with
      | some ch => (ch, some n, c.advance 2)
      | none => (.clip, some n, c.step)
    | none => (.clip, none, c)

/-- The breaks in front of the first line of a block, and the widest indentation among them. The
fuel bounds their number. -/
def blockIndentation : Nat → Nat → Cursor → List Char × Nat × Cursor
  | 0, widest, c => ([], widest, c)
  | fuel + 1, widest, c =>
    if c.next = ' ' then
      let c' := c.step
      blockIndentation fuel (max widest c'.column) c'
    else if isBreak c.next then
      let (b, c') := c.lineBreak
      let (bs, w, c'') := blockIndentation fuel widest c'
      (b ++ bs, w, c'')
    else ([], widest, c)

/-- The place behind spaces up to a column. The fuel bounds their number. -/
def skipIndent (indent : Nat) : Nat → Cursor → Cursor
  | 0, c => c
  | fuel + 1, c =>
    if c.column < indent && c.next = ' ' then skipIndent indent fuel c.step else c

/-- The breaks of empty lines inside a block. The fuel bounds their number. -/
def blockBreaks (indent : Nat) : Nat → Cursor → List Char × Cursor
  | 0, c => ([], c)
  | fuel + 1, c =>
    let c := skipIndent indent indent c
    if isBreak c.next then
      let (b, c') := c.lineBreak
      let (bs, c'') := blockBreaks indent fuel c'
      (b ++ bs, c'')
    else ([], c)

/-- Whether a line starts with something else than a blank. -/
def startsText (c : Cursor) : Bool := !(c.next = ' ' || c.next = '\t')

/-- The lines of a block: their text, the last line break, the breaks of the empty lines at the end,
and the place behind. The fuel bounds their number. -/
def blockLines (folded : Bool) (indent : Nat) :
    Nat → List Char → Cursor → List Char × List Char × List Char × Cursor
  | 0, breaks, c => ([], [], breaks, c)
  | fuel + 1, breaks, c =>
    let (line, c') := c.take (!isBreakOrEnd ·)
    let (last, c') := c'.lineBreak
    let (breaks', c') := blockBreaks indent (c'.rest.length + 1) c'
    if c'.column = indent && c'.next ≠ endMark then
      let joint :=
        if folded && last = ['\n'] && startsText c && startsText c' then
          if breaks'.isEmpty then [' '] else []
        else last
      let (text, rest) := blockLines folded indent fuel breaks' c'
      (breaks ++ line ++ joint ++ text, rest)
    else (breaks ++ line, last, breaks', c')

/-- A block. The cursor is at its mark; the indentation is that of the collection around it. -/
def block? (folded : Bool) (outer : Int) (c : Cursor) : Option (List Char × Cursor) := do
  let (chomping, increment, c) := blockHeader c.step
  let c ← if isSpaceOrEnd c.next then c.endLine? else none
  let least := (max (outer + 1) 1).toNat
  let (indent, breaks, c) := match increment with
    | some n =>
      let indent := least + n - 1
      let (breaks, c) := blockBreaks indent (c.rest.length + 1) c
      (indent, breaks, c)
    | none =>
      let (breaks, widest, c) := blockIndentation (c.rest.length + 1) 0 c
      (max least widest, breaks, c)
  let (text, last, tail, c) :=
    if c.column = indent && c.next ≠ endMark then
      blockLines folded indent (c.rest.length + 1) breaks c
    else ([], [], breaks, c)
  match chomping with
  | .strip => some (text, c)
  | .clip => some (text ++ last, c)
  | .keep => some (text ++ last ++ tail, c)

end ParamBinding.Yaml
