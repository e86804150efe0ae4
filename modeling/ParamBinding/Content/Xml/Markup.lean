import ParamBinding.Content.Xml.Name
import ParamBinding.Text.Digit
import ParamBinding.Text.Split

/-!
# Markup

The content of an element is cut into tokens: tags, characters, references to entities, and parts
that have no meaning here, which are comments and instructions. Line breaks have been made uniform
before, so `\n` is the only one.
-/

namespace ParamBinding.Xml

open ParamBinding.Text

/-- Drop a text from the start of another one. -/
def dropText? (start : String) (cs : List Char) : Option (List Char) :=
  if start.toList.isPrefixOf cs then some (cs.drop start.length) else none

/-- What stands before the first occurrence of a text and what stands behind it. -/
def cutText? (mark : List Char) : List Char → Option (List Char × List Char)
  | [] => none
  | c :: cs =>
    if mark.isPrefixOf (c :: cs) then some ([], (c :: cs).drop mark.length)
    else (cutText? mark cs).map fun (before, behind) => (c :: before, behind)

/-- What a reference refers to. -/
inductive Reference where
  | char (c : Char)
  | entity (name : List Char)

/-- The character with a number, if documents may hold it. -/
def charOf? (n : Nat) : Option Char :=
  if n < 0x110000 && !(0xD800 ≤ n && n ≤ 0xDFFF) && isChar (Char.ofNat n) then some (Char.ofNat n)
  else none

/-- The number that digits write in a base. Zeros in front do not count; beyond seven other digits
it is too large for any character. -/
def refNumber? (digit? : Char → Option Nat) (base : Nat) (ds : List Char) : Option Nat :=
  if ds.isEmpty then none
  else if 7 < (ds.dropWhile (· = '0')).length then none
  else (ds.mapM digit?).map (ofDigits base)

/-- The entities that need no declaration. -/
def predefined : List (String × Char) :=
  [("lt", '<'), ("gt", '>'), ("amp", '&'), ("quot", '"'), ("apos", '\'')]

/-- The reference at the start of a text, behind its ampersand, and what follows it. -/
def reference? (cs : List Char) : Option (Reference × List Char) :=
  match cs with
  | '#' :: 'x' :: rest => do
    let (ds, rest') ← cutText? [';'] rest
    let c ← (refNumber? hexDigit? 16 ds).bind charOf?
    some (.char c, rest')
  | '#' :: rest => do
    let (ds, rest') ← cutText? [';'] rest
    let c ← (refNumber? asciiDigit? 10 ds).bind charOf?
    some (.char c, rest')
  | _ => do
    let (name, rest) ← name? cs
    let rest' ← dropText? ";" rest
    match predefined.lookup (String.ofList name) with
    | some c => some (.char c, rest')
    | none => some (.entity name, rest')

/-- A comment at the start of a text, behind `<!--`: what follows it. Two hyphens end it. -/
def comment? (cs : List Char) : Option (List Char) := do
  let (_, rest) ← cutText? ['-', '-'] cs
  dropText? ">" rest

/-- An instruction at the start of a text, behind `<?`: what follows it. -/
def instruction? (cs : List Char) : Option (List Char) := do
  let (target, rest) ← name? cs
  if target.map Char.toLower = ['x', 'm', 'l'] then none
  else match dropText? "?>" rest, rest with
    | some rest', _ => some rest'
    | none, c :: _ => if isSpace c then (cutText? ['?', '>'] rest).map (·.2) else none
    | none, [] => none

/-- A value between quotes at the start of a text, and what follows it. -/
def quoted? (cs : List Char) : Option (List Char × List Char) :=
  match cs with
  | '"' :: rest => cutText? ['"'] rest
  | '\'' :: rest => cutText? ['\''] rest
  | _ => none

/-- An attribute as it is written. -/
structure RawAttribute where
  name : QName
  value : List Char

/-- The parts of content. -/
inductive Token where
  | start (name : QName) (attributes : List RawAttribute) (isEmpty : Bool)
  | stop (name : QName)
  | char (c : Char)
  /-- A blank that stands for itself. -/
  | blank (c : Char)
  | entity (name : List Char)
  /-- The start of characters without markup. -/
  | unparsed
  | nothing

/-- One attribute at the start of a text, and what follows it. -/
def attribute? (cs : List Char) : Option (RawAttribute × List Char) := do
  let (name, rest) ← qname? cs
  let rest ← dropText? "=" (rest.dropWhile isSpace)
  let (value, rest) ← quoted? (rest.dropWhile isSpace)
  if value.contains '<' then none else some (⟨name, value⟩, rest)

/-- The attributes of a start tag behind its name, whether the tag is one of an empty element, and
what follows it. The fuel bounds the number of attributes. -/
def attributes? : Nat → List Char → Option (List RawAttribute × Bool × List Char)
  | 0, _ => none
  | fuel + 1, cs =>
    let rest := cs.dropWhile isSpace
    match rest with
    | '>' :: rest' => some ([], false, rest')
    | '/' :: '>' :: rest' => some ([], true, rest')
    | _ =>
      if rest.length = cs.length then none
      else do
        let (a, rest') ← attribute? rest
        let (as, e, rest'') ← attributes? fuel rest'
        some (a :: as, e, rest'')

/-- The markup at the start of a text, behind its `<`, and what follows it. -/
def markup? (cs : List Char) : Option (List Token × List Char) :=
  match dropText? "!--" cs with
  | some rest => (comment? rest).map fun r => ([.nothing], r)
  | none => match dropText? "![CDATA[" cs with
    | some rest => (cutText? [']', ']', '>'] rest).map fun (t, r) =>
        (.unparsed :: t.map .char, r)
    | none => match cs with
      | '?' :: rest => (instruction? rest).map fun r => ([.nothing], r)
      | '/' :: rest => do
        let (name, rest') ← qname? rest
        let rest'' ← dropText? ">" (rest'.dropWhile isSpace)
        some ([.stop name], rest'')
      | _ => do
        let (name, rest) ← qname? cs
        let (as, e, rest') ← attributes? (rest.length + 1) rest
        some ([.start name as e], rest')

/-- The tokens at the start of a text that is not empty, and how many characters behind its first
one belong to them. -/
def tokens? (c : Char) (cs : List Char) : Option (List Token × Nat) :=
  let counted (x : List Token × List Char) : List Token × Nat := (x.1, cs.length - x.2.length)
  if c = '<' then (markup? cs).map counted
  else if c = '&' then (reference? cs).map fun
    | (.char x, rest) => counted ([.char x], rest)
    | (.entity name, rest) => counted ([.entity name], rest)
  else if [']', ']', '>'].isPrefixOf (c :: cs) then none
  else some ([if isSpace c then .blank c else .char c], 0)

/-- The tokens of content, the first `skip` characters belonging to what was read before. -/
def contentFrom : Nat → List Char → Option (List Token)
  | _, [] => some []
  | k + 1, _ :: cs => contentFrom k cs
  | 0, c :: cs =>
    match tokens? c cs with
    | some (ts, n) => (contentFrom n cs).map (ts ++ ·)
    | none => none

/-- The tokens of content. -/
def content? (cs : List Char) : Option (List Token) := contentFrom 0 cs

end ParamBinding.Xml
