import ParamBinding.Content.Yaml.Cursor
import ParamBinding.Content.Yaml.Token
import ParamBinding.Text.Utf8

/-!
# Names, tags and directives

A node may have a name and a tag, and other nodes may refer to it by the name. A tag is written out
between angle brackets, or behind a handle that stands for its beginning. Directives say what the
handles stand for.
-/

namespace ParamBinding.Yaml

open ParamBinding.Text

/-- Whether a character may be part of a name. -/
def isNameChar (c : Char) : Bool := c.isAlphanum || c = '-' || c = '_'

/-- A name at a place. -/
def name? (c : Cursor) : Option (String × Cursor) :=
  let (name, c') := c.take isNameChar
  if name.isEmpty then none else some (String.ofList name, c')

/-- Whether a character may stand behind the name of a node. -/
def endsName (c : Char) : Bool := isGapOrEnd c || "?:,]\x7d%@\x60".toList.contains c

/-- The name of a node, behind its mark. -/
def nodeName? (c : Cursor) : Option (String × Cursor) :=
  (name? c.step).filter fun (_, c') => endsName c'.next

/-! ### Tags -/

/-- Whether a character may be part of a tag. -/
def isTagChar (c : Char) : Bool :=
  c.isAlphanum || "-;/?:@&=+$,_.!~*'()[]%".toList.contains c

/-- Bytes that are written in hexadecimal behind percent signs. The fuel bounds their number. -/
def tagBytes? : Nat → Cursor → Option (Bytes × Cursor)
  | 0, _ => none
  | fuel + 1, c =>
    if c.next = '%' then do
      let high ← hexDigit? (c.peek 1)
      let low ← hexDigit? (c.peek 2)
      let (bs, c') ← tagBytes? fuel (c.advance 3)
      some (UInt8.ofNat (high * 16 + low) :: bs, c')
    else some ([], c)

/-- The characters of a tag. The fuel bounds the number of its parts. -/
def tagCharsFrom? : Nat → Cursor → Option (List Char × Cursor)
  | 0, _ => none
  | fuel + 1, c =>
    if c.next = '%' then do
      let (bs, c) ← tagBytes? (c.rest.length + 1) c
      let part ← (decodeUtf8List bs).toOption
      let (text, c) ← tagCharsFrom? fuel c
      some (part ++ text, c)
    else if isTagChar c.next then do
      let (part, c) := c.take fun x => isTagChar x && x ≠ '%'
      let (text, c) ← tagCharsFrom? fuel c
      some (part ++ text, c)
    else some ([], c)

/-- The characters of a tag, at least one. -/
def tagText? (c : Cursor) : Option (String × Cursor) :=
  if isTagChar c.next then
    (tagCharsFrom? (c.rest.length + 1) c).map fun (cs, c') => (String.ofList cs, c')
  else none

/-- A handle: an exclamation mark, or a name between two of them. -/
def handle? (c : Cursor) : Option (String × Cursor) :=
  if c.next ≠ '!' then none
  else if c.peek 1 = ' ' then some ("!", c.step)
  else
    let (name, c') := c.step.take isNameChar
    if c'.next = '!' then some (String.ofList ('!' :: name ++ ['!']), c'.step) else none

/-- A tag, behind its handle if it has one. The cursor is at its exclamation mark. -/
def tagParts? (c : Cursor) : Option (Option String × String × Cursor) :=
  if c.peek 1 = '<' then do
    let (text, c) ← tagText? (c.advance 2)
    if c.next = '>' then some (none, text, c.step) else none
  else if isGapOrEnd (c.peek 1) then some (none, "!", c.step)
  else do
    let (handle, c) ←
      if (c.step.rest.takeWhile (!isSpaceOrEnd ·)).contains '!' then handle? c
      else some ("!", c.step)
    let (text, c) ← tagText? c
    some (some handle, text, c)

/-- A tag and the place behind it, where a space or the end of the line has to be. -/
def tag? (c : Cursor) : Option (Token × Cursor) := do
  let (handle, suffix, c) ← tagParts? c
  if isSpaceOrEnd c.next then some (.tag handle suffix, c) else none

/-! ### Directives -/

/-- A number at a place. -/
def number? (c : Cursor) : Option (Nat × Cursor) :=
  let (digits, c') := c.take isAsciiDigit
  if digits.isEmpty then none else some (ofDigits 10 (digits.filterMap asciiDigit?), c')

/-- What a directive for the version says. -/
def version? (c : Cursor) : Option (Token × Cursor) := do
  let (major, c) ← number? (c.skip (· = ' '))
  if c.next = '.' then
    let (_, c) ← number? c.step
    if isSpaceOrEnd c.next then some (.version major, c) else none
  else none

/-- What a directive for a handle says. -/
def handleMeaning? (c : Cursor) : Option (Token × Cursor) := do
  let (name, c) ← handle? (c.skip (· = ' '))
  if c.next = ' ' then
    let (expansion, c) ← tagText? (c.skip (· = ' '))
    if isSpaceOrEnd c.next then some (.handle name expansion, c) else none
  else none

/-- A directive and the next line. The cursor is at its percent sign. -/
def directive? (c : Cursor) : Option (Token × Cursor) := do
  let (name, c) ← name? c.step
  if isSpaceOrEnd c.next then
    let (token, c) ←
      if name = "YAML" then version? c
      else if name = "TAG" then handleMeaning? c
      else some (.reserved, c.skip (!isBreakOrEnd ·))
    let c ← c.endLine?
    some (token, c)
  else none

end ParamBinding.Yaml
