import ParamBinding.Content.Yaml.Property
import ParamBinding.Content.Yaml.Scalar

/-!
# The tokens of a text

A scan goes through a text and collects its tokens. Outside flow collections it keeps the columns of
the blocks around it, so that lines that are indented less end them. That a scalar or a collection
is a key is only seen at the colon behind it; until then the scan remembers where a key may have
begun, and puts the token for it there later.
-/

namespace ParamBinding.Yaml

/-- A place where a key may have begun. -/
structure KeyStart where
  /-- How many tokens stand in front of it. -/
  token : Nat
  /-- Whether anything but a key is an error. -/
  required : Bool
  index : Nat
  line : Nat
  column : Nat

/-- A key is no longer possible on another line, or more than 1024 characters later. -/
def KeyStart.isStale (k : KeyStart) (c : Cursor) : Bool :=
  k.line ≠ c.line || k.index + 1024 < c.index

/-- How far a scan has come. -/
structure Scan where
  cursor : Cursor
  tokens : Array Token := #[]
  /-- The column of the innermost block. -/
  indent : Int := -1
  /-- The columns of the blocks around it. -/
  outer : List Int := []
  /-- Whether a key may begin here. -/
  keyAllowed : Bool := true
  /-- Where a key may have begun in the innermost collection. -/
  keyStart : Option KeyStart := none
  /-- The same for the collections around it, as far as they are flow collections, and the block
  around those. -/
  enclosing : List (Option KeyStart) := []

namespace Scan

/-- Whether the scan is inside a flow collection. -/
def inFlow (s : Scan) : Bool := !s.enclosing.isEmpty

/-- The scan with another token. -/
def push (s : Scan) (t : Token) : Scan := { s with tokens := s.tokens.push t }

/-! ### Keys -/

/-- A place for a key, or none when there can be no key any more. -/
def fresh (c : Cursor) : Option KeyStart → Except Problem (Option KeyStart)
  | none => .ok none
  | some k =>
    if !k.isStale c then .ok (some k) else if k.required then .error .malformed else .ok none

/-- The scan without places where there can be no key any more. -/
def dropStale (s : Scan) : Except Problem Scan := do
  let keyStart ← fresh s.cursor s.keyStart
  let enclosing ← s.enclosing.mapM (fresh s.cursor)
  .ok { s with keyStart, enclosing }

/-- There is no key after all. -/
def forgetKey (s : Scan) : Except Problem Scan :=
  match s.keyStart with
  | some k => if k.required then .error .malformed else .ok { s with keyStart := none }
  | none => .ok s

/-- A key may begin here, if one is allowed. In a block, what begins in the column of the block has
to be a key. -/
def noteKey (s : Scan) : Except Problem Scan :=
  if s.keyAllowed then do
    let s ← s.forgetKey
    -- what stands in the column of a block goes on with it, and only a key can
    let required := !s.inFlow && s.indent = s.cursor.column
    .ok { s with
      keyStart := some ⟨s.tokens.size, required, s.cursor.index, s.cursor.line, s.cursor.column⟩ }
  else .ok s

/-! ### Blocks -/

/-- The blocks that go beyond a column end. -/
def endBlocks (column : Int) : List Int → Scan → Scan
  | [], s => s
  | i :: outer, s =>
    if column < s.indent then endBlocks column outer { s.push .blockEnd with indent := i, outer }
    else s

/-- Outside flow collections, the blocks that go beyond a column end. -/
def unwind (column : Int) (s : Scan) : Scan := if s.inFlow then s else endBlocks column s.outer s

/-- A block begins in a column unless the innermost block has that column already; its token takes
the given place. -/
def beginBlock (t : Token) (position column : Nat) (s : Scan) : Scan :=
  if s.indent < column then
    { s with
      outer := s.indent :: s.outer
      indent := column
      tokens := s.tokens.insertIdxIfInBounds position t }
  else s

/-- An entry of a block is here, so the block begins now at the latest. -/
def enterBlock (t : Token) (s : Scan) : Except Problem Scan :=
  if s.inFlow then .ok s
  else if s.keyAllowed then .ok (s.beginBlock t s.tokens.size s.cursor.column)
  else .error .malformed

/-! ### The ways to go on -/

/-- The place of the next token. Line breaks on the way allow keys in blocks. The fuel bounds the
number of lines. -/
def skipBlanks : Nat → Scan → Scan
  | 0, s => s
  | fuel + 1, s =>
    let c := s.cursor.skipComment
    if isBreak c.next then
      skipBlanks fuel { s with cursor := c.lineBreak.2, keyAllowed := s.keyAllowed || !s.inFlow }
    else { s with cursor := c }

/-- A byte order mark at the start of a text does not count. -/
def skipByteOrderMark (s : Scan) : Scan :=
  if s.cursor.index = 0 && s.cursor.next = '\uFEFF' then { s with cursor := s.cursor.step } else s

/-- A token of one character. -/
def single (t : Token) (s : Scan) : Scan := { s.push t with cursor := s.cursor.step }

/-- The end of all blocks, and of the key that may have begun. -/
def leaveBlocks (s : Scan) : Except Problem Scan := do
  let s ← (s.unwind (-1)).forgetKey
  .ok { s with keyAllowed := false }

/-- The end of the text. -/
def finish (s : Scan) : Except Problem (Array Token) := do
  let s ← s.leaveBlocks
  .ok (s.push .streamEnd).tokens

/-- A directive. -/
def directive (s : Scan) : Except Problem Scan := do
  let s ← s.leaveBlocks
  let (t, cursor) ← orMalformed (directive? s.cursor)
  .ok { s.push t with cursor }

/-- A mark between documents. -/
def separator (t : Token) (s : Scan) : Except Problem Scan := do
  let s ← s.leaveBlocks
  .ok { s.push t with cursor := s.cursor.advance 3 }

/-- The start of a flow collection. -/
def openFlow (t : Token) (s : Scan) : Except Problem Scan := do
  let s ← s.noteKey
  .ok { s.single t with
    keyAllowed := true, keyStart := none, enclosing := s.keyStart :: s.enclosing }

/-- The end of a flow collection. -/
def closeFlow (t : Token) (s : Scan) : Except Problem Scan := do
  let s ← s.forgetKey
  match s.enclosing with
  | [] => .error .malformed
  | keyStart :: enclosing => .ok { s.single t with keyAllowed := false, keyStart, enclosing }

/-- The comma of a flow collection. -/
def flowEntry (s : Scan) : Except Problem Scan := do
  let s ← s.forgetKey
  .ok { s.single .flowEntry with keyAllowed := true }

/-- The hyphen of a block sequence. -/
def blockEntry (s : Scan) : Except Problem Scan := do
  let s ← s.enterBlock .blockSequence
  let s ← s.forgetKey
  .ok { s.single .blockEntry with keyAllowed := true }

/-- The mark of a key. -/
def key (s : Scan) : Except Problem Scan := do
  let s ← s.enterBlock .blockMapping
  let s ← s.forgetKey
  .ok { s.single .key with keyAllowed := !s.inFlow }

/-- The mark of a value, which tells that a key has begun where one may have. -/
def value (s : Scan) : Except Problem Scan :=
  match s.keyStart with
  | some k =>
    -- the key is marked where it began, and so is the mapping that it is the first key of
    let s := { s with tokens := s.tokens.insertIdxIfInBounds k.token .key, keyStart := none }
    let s := if s.inFlow then s else s.beginBlock .blockMapping k.token k.column
    .ok { s.single .value with keyAllowed := false }
  | none => do
    let s ← s.enterBlock .blockMapping
    .ok { s.single .value with keyAllowed := !s.inFlow }

/-- A token that a key may begin with. -/
def keyToken (t : Token) (cursor : Cursor) (s : Scan) : Except Problem Scan := do
  let s ← s.noteKey
  .ok { s.push t with cursor, keyAllowed := false }

/-- A scalar in a block of lines. -/
def block (folded : Bool) (s : Scan) : Except Problem Scan := do
  let s ← s.forgetKey
  let (text, cursor) ← orMalformed (block? folded s.indent s.cursor)
  .ok { s.push (.scalar (String.ofList text) false) with cursor, keyAllowed := true }

/-- A scalar between quotes. -/
def quotedScalar (isDouble : Bool) (s : Scan) : Except Problem Scan := do
  let (text, cursor) ← quoted isDouble s.cursor
  s.keyToken (.scalar (String.ofList text) false) cursor

/-- A plain scalar. A key may follow it when it ends with a line break. -/
def plainScalar (s : Scan) : Except Problem Scan := do
  let (text, crossed, cursor) := plain s.inFlow (s.indent + 1) s.cursor
  let s ← s.keyToken (.scalar (String.ofList text) true) cursor
  .ok { s with keyAllowed := crossed }

/-- Whether a plain scalar begins at a place. -/
def beginsPlain (s : Scan) : Bool :=
  let x := s.cursor.next
  !(isGapOrEnd x || "-?:,[]\x7b\x7d#&*!|>'\"%@\x60".toList.contains x) ||
    (!isGapOrEnd (s.cursor.peek 1) && (x = '-' || (!s.inFlow && (x = '?' || x = ':'))))

/-- The scan behind the token that is here. -/
def fetch (s : Scan) : Except Problem Scan :=
  let c := s.cursor
  let x := c.next
  let isMark := isGapOrEnd (c.peek 1)
  if x = '%' && c.column = 0 then s.directive
  else if c.column = 0 && c.isAtSeparator then
    s.separator (if x = '-' then .documentStart else .documentEnd)
  else if x = '[' then s.openFlow .flowSequence
  else if x = '\x7b' then s.openFlow .flowMapping
  else if x = ']' then s.closeFlow .flowSequenceEnd
  else if x = '\x7d' then s.closeFlow .flowMappingEnd
  else if x = ',' then s.flowEntry
  else if x = '-' && isMark then s.blockEntry
  else if x = '?' && (s.inFlow || isMark) then s.key
  else if x = ':' && (s.inFlow || isMark) then s.value
  else if x = '*' then do
    let (name, cursor) ← orMalformed (nodeName? c)
    s.keyToken (.alias name) cursor
  else if x = '&' then do
    let (name, cursor) ← orMalformed (nodeName? c)
    s.keyToken (.anchor name) cursor
  else if x = '!' then do
    let (t, cursor) ← orMalformed (tag? c)
    s.keyToken t cursor
  else if x = '|' && !s.inFlow then s.block false
  else if x = '>' && !s.inFlow then s.block true
  else if x = '\'' then s.quotedScalar false
  else if x = '"' then s.quotedScalar true
  else if s.beginsPlain then s.plainScalar
  else .error .malformed

/-- The scan behind the next token, or all tokens when there are no more. -/
def advance (s : Scan) : Except Problem (Scan ⊕ Array Token) := do
  let s ← (s.skipByteOrderMark.skipBlanks (s.cursor.rest.length + 1)).dropStale
  let s := s.unwind s.cursor.column
  if s.cursor.next = endMark then (s.finish).map .inr else (s.fetch).map .inl

/-- How many tokens are known for certain: in front of those where a key may have begun there may
still be one. -/
def settled (s : Scan) : Nat :=
  let starts := (s.keyStart :: s.enclosing).filterMap id
  (starts.filter (!·.isStale s.cursor)).foldl (fun n k => min n k.token) s.tokens.size

/-- The tokens of a scan that cannot go on. -/
def breakOff (s : Scan) (p : Problem) : Array Token := (s.tokens.take s.settled).push (.broken p)

/-- The tokens of a scan and of the rest of the text. Every token takes a character at least, so
the length of the text bounds their number. -/
def run : Nat → Scan → Array Token
  | 0, s => s.breakOff .malformed
  | fuel + 1, s => match s.advance with
    | .ok (.inl s) => run fuel s
    | .ok (.inr tokens) => tokens
    | .error p => s.breakOff p

end Scan

/-- The tokens of a text. -/
def tokens (cs : List Char) : List Token :=
  (Scan.run (cs.length + 1) { cursor := { rest := cs } }).toList

end ParamBinding.Yaml
