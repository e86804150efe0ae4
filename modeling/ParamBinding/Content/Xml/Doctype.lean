import ParamBinding.Content.Xml.Markup
import ParamBinding.Text.Utf8

/-!
# Document types

A document may declare entities, elements, attributes and notations in front of its root. Elements
and notations are checked for their grammar and then forgotten; entities and the attributes of
elements are kept, the first declaration of a name counting. Nothing outside the document is read.
-/

namespace ParamBinding.Xml

open ParamBinding.Text

/-- A declared attribute: the element that has it, whether its values are kept as they are, and the
value it has by default. -/
structure AttributeRule where
  element : QName
  name : QName
  isVerbatim : Bool
  default : Option (List Char)

/-- What a document declares. -/
structure Declarations where
  /-- Entities and the texts they stand for; none for those outside the document. -/
  entities : List (List Char × Option (List Char)) := []
  rules : List AttributeRule := []
  /-- Whether there may be declarations that are not read. -/
  isIncomplete : Bool := false
  /-- Whether declarations are still taken in. -/
  isOpen : Bool := true

/-- How much text references to entities may stand for, in any document. -/
def maxExpansion : Nat := 8388607

/-! ### Values of attributes -/

/-- The parts of an attribute's value. Blanks become spaces. The first `skip` characters belong to
what was read before. -/
def valuePartsFrom : Nat → List Char → Option (List Reference)
  | _, [] => some []
  | k + 1, _ :: cs => valuePartsFrom k cs
  | 0, c :: cs =>
    if c = '<' then none
    else if c = '&' then
      match reference? cs with
      | some (r, rest) => (valuePartsFrom (cs.length - rest.length) cs).map (r :: ·)
      | none => none
    else (valuePartsFrom 0 cs).map (.char (if isSpace c then ' ' else c) :: ·)

namespace Declarations

/-- A value that is read in part: its characters, the last one first, and how much text references
to entities may still stand for. -/
structure Expansion where
  chars : List Char := []
  budget : Nat

/-- The value with further parts behind it. The fuel bounds how deep entities are nested. -/
def expand (d : Declarations) : Nat → Expansion → List Reference → Option Expansion
  | 0, _, _ => none
  | fuel + 1, x, parts => parts.foldlM (fun x part => match part with
    | .char c => some { x with chars := c :: x.chars }
    | .entity name => match d.entities.lookup name with
      | some (some text) =>
        -- every reference is paid for in full, so that nesting cannot multiply text without end
        if x.budget < utf8Length text then none
        else (valuePartsFrom 0 text).bind
          (d.expand fuel { x with budget := x.budget - utf8Length text })
      | some none => none
      | none => if d.isIncomplete then some x else none) x

/-- How deep entities can be nested without one that contains itself. -/
def depth (d : Declarations) : Nat := d.entities.length + 1

/-- The value of an attribute as it is written, and what is left of the budget. -/
def value? (d : Declarations) (budget : Nat) (raw : List Char) : Option (List Char × Nat) := do
  let parts ← valuePartsFrom 0 raw
  let x ← d.expand (d.depth + 1) { budget } parts
  some (x.chars.reverse, x.budget)

/-- A value without spaces at its ends and without spaces behind spaces. -/
def collapse (cs : List Char) : List Char :=
  joinWith [' '] ((splitOn [' '] cs).filter (!·.isEmpty))

end Declarations

/-! ### Pieces of declarations -/

/-- One blank or more at the start of a text, and what follows. -/
def spaces? (cs : List Char) : Option (List Char) :=
  match cs with
  | c :: rest => if isSpace c then some (rest.dropWhile isSpace) else none
  | [] => none

/-- A word with a blank behind it at the start of a text, and what follows. -/
def word? (w : String) (cs : List Char) : Option (List Char) := (dropText? w cs).bind spaces?

/-- The end of a declaration at the start of a text, and what follows. -/
def declarationEnd? (cs : List Char) : Option (List Char) := dropText? ">" (cs.dropWhile isSpace)

/-- Whether a public identifier may hold a character. -/
def isPublicChar (c : Char) : Bool :=
  c.isAlphanum || " \r\n-'()+,./:=?;!*#@$_%".toList.contains c

/-- A public identifier at the start of a text, and what follows. -/
def publicId? (cs : List Char) : Option (List Char) := do
  let (id, rest) ← quoted? cs
  if id.all isPublicChar then some rest else none

/-- The identifier of something outside the document at the start of a text, and what follows. -/
def externalId? (cs : List Char) : Option (List Char) :=
  match word? "SYSTEM" cs with
  | some rest => (quoted? rest).map (·.2)
  | none => do
    let rest ← word? "PUBLIC" cs
    let rest ← publicId? rest
    let rest ← spaces? rest
    (quoted? rest).map (·.2)

/-- Names between bars, up to a closing bracket, and what follows. The fuel bounds their number. -/
def alternatives? (item : List Char → Option (List Char)) : Nat → List Char → Option (List Char)
  | 0, _ => none
  | fuel + 1, cs => do
    let rest ← item (cs.dropWhile isSpace)
    match rest.dropWhile isSpace with
    | '|' :: rest' => alternatives? item fuel rest'
    | ')' :: rest' => some rest'
    | _ => none

/-- A name token, which may start with any character of a name. -/
def nameToken? (cs : List Char) : Option (List Char) :=
  let isPart (c : Char) : Bool := isNameChar c || c = ':'
  if (cs.takeWhile isPart).isEmpty then none else some (cs.dropWhile isPart)

/-! ### Elements -/

/-- A mark behind a part of a content model. -/
def dropMark (cs : List Char) : List Char :=
  match cs with
  | c :: rest => if c = '?' || c = '*' || c = '+' then rest else cs
  | [] => []

/-- A content model behind its opening bracket, and what follows. The separator is fixed once there
is one. The fuel bounds its parts. -/
def group? : Nat → Option Char → List Char → Option (List Char)
  | 0, _, _ => none
  | fuel + 1, separator, cs => do
    let rest ← match cs.dropWhile isSpace with
      | '(' :: rest => group? fuel none rest
      | cs => (qname? cs).map fun (_, rest) => dropMark rest
    match rest.dropWhile isSpace with
    | ')' :: rest' => some (dropMark rest')
    | c :: rest' =>
      if (c = ',' || c = '|') && (separator = none || separator = some c) then
        group? fuel (some c) rest'
      else none
    | [] => none

/-- What an element may hold, and what follows. -/
def contentModel? (cs : List Char) : Option (List Char) :=
  match dropText? "EMPTY" cs with
  | some rest => some rest
  | none => match dropText? "ANY" cs with
    | some rest => some rest
    | none => do
      let rest ← dropText? "(" cs
      match dropText? "#PCDATA" (rest.dropWhile isSpace) with
      | none => group? (rest.length + 1) none rest
      | some rest' => match rest'.dropWhile isSpace with
        | ')' :: '*' :: rest'' => some rest''
        | ')' :: rest'' => some rest''
        | '|' :: rest'' => do
          let end_ ← alternatives? (fun cs => (qname? cs).map (·.2)) (rest''.length + 1) rest''
          dropText? "*" end_
        | _ => none

/-- The declaration of an element behind its keyword, and what follows. -/
def elementRule? (cs : List Char) : Option (List Char) := do
  let rest ← spaces? cs
  let (_, rest) ← qname? rest
  let rest ← spaces? rest
  let rest ← contentModel? rest
  declarationEnd? rest

/-! ### Attributes -/

/-- The types of attributes that are words; the values of the first one are kept as they are. -/
def attributeTypes : List String :=
  ["CDATA", "IDREFS", "IDREF", "ID", "ENTITY", "ENTITIES", "NMTOKENS", "NMTOKEN"]

/-- The type of an attribute, whether its values are kept as they are, and what follows. -/
def attributeType? (cs : List Char) : Option (Bool × List Char) :=
  match cs with
  | '(' :: rest => (alternatives? nameToken? (rest.length + 1) rest).map fun r => (false, r)
  | _ => match word? "NOTATION" cs with
    | some rest => do
      let rest ← dropText? "(" rest
      let r ← alternatives? (fun cs => (name? cs).map (·.2)) (rest.length + 1) rest
      some (false, r)
    | none => attributeTypes.findSome? fun w => (dropText? w cs).map fun r => (w = "CDATA", r)

/-- What an attribute is by default, and what follows. -/
def attributeDefault? (cs : List Char) : Option (Option (List Char) × List Char) :=
  match dropText? "#REQUIRED" cs with
  | some rest => some (none, rest)
  | none => match dropText? "#IMPLIED" cs with
    | some rest => some (none, rest)
    | none => do
      let (value, rest) ← quoted? ((word? "#FIXED" cs).getD cs)
      some (some value, rest)

/-- The attributes that a declaration lists for an element, and what follows. The fuel bounds their
number. -/
def attributeRules? (element : QName) : Nat → List Char → Option (List AttributeRule × List Char)
  | 0, _ => none
  | fuel + 1, cs =>
    match declarationEnd? cs with
    | some rest => some ([], rest)
    | none => do
      let rest ← spaces? cs
      let (name, rest) ← qname? rest
      let rest ← spaces? rest
      let (isVerbatim, rest) ← attributeType? rest
      let rest ← spaces? rest
      let (default, rest) ← attributeDefault? rest
      let (rules, rest) ← attributeRules? element fuel rest
      some (⟨element, name, isVerbatim, default⟩ :: rules, rest)

/-! ### Entities -/

/-- The text of an entity: its references to characters are resolved, those to entities are kept. A
percent sign is not allowed. The first `skip` characters belong to what was read before. -/
def entityTextFrom : Nat → List Char → Option (List Char)
  | _, [] => some []
  | k + 1, _ :: cs => entityTextFrom k cs
  | 0, c :: cs =>
    if c = '%' then none
    else if c = '&' then
      match reference? cs with
      | none => none
      | some (r, rest) =>
        -- characters by number are resolved, those with names are kept like entities
        let text := match r, cs with
          | .char x, '#' :: _ => [x]
          | _, _ => '&' :: cs.take (cs.length - rest.length)
        (entityTextFrom (cs.length - rest.length) cs).map (text ++ ·)
    else (entityTextFrom 0 cs).map (c :: ·)

/-- What an entity stands for, and what follows. The text of one that is not taken in is not looked
at. -/
def entityBody? (isOpen isParameter : Bool) (cs : List Char) :
    Option (Option (List Char) × List Char) :=
  match quoted? cs with
  | some (value, rest) =>
    if isOpen then (entityTextFrom 0 value).map fun t => (some t, rest) else some (some value, rest)
  | none => do
    let rest ← externalId? cs
    match (spaces? rest).bind (word? "NDATA") with
    | some rest' => if isParameter then none else (name? rest').map fun (_, r) => (none, r)
    | none => some (none, rest)

/-- The declaration of an entity behind its keyword, and what follows. Entities for declarations
have no name here. -/
def entityRule? (isOpen : Bool) (cs : List Char) :
    Option (Option (List Char) × Option (List Char) × List Char) := do
  let rest ← spaces? cs
  let (isParameter, rest) := match word? "%" rest with
    | some rest' => (true, rest')
    | none => (false, rest)
  let (name, rest) ← name? rest
  let rest ← spaces? rest
  let (body, rest) ← entityBody? isOpen isParameter rest
  let rest ← declarationEnd? rest
  some (if isParameter then none else some name, body, rest)

/-- The declaration of a notation behind its keyword, and what follows. -/
def notationRule? (cs : List Char) : Option (List Char) := do
  let rest ← spaces? cs
  let (_, rest) ← name? rest
  let rest ← spaces? rest
  match externalId? rest with
  | some rest' => declarationEnd? rest'
  | none => do
    let rest ← word? "PUBLIC" rest
    let rest ← publicId? rest
    declarationEnd? rest

/-! ### The document type -/

namespace Declarations

/-- Declarations with an entity. -/
def addEntity (d : Declarations) (name : List Char) (text : Option (List Char)) : Declarations :=
  if d.isOpen && (d.entities.lookup name).isNone then
    { d with entities := d.entities ++ [(name, text)] }
  else d

/-- Whether an attribute is declared. -/
def hasRule (d : Declarations) (r : AttributeRule) : Bool :=
  d.rules.any fun s => s.element = r.element && s.name = r.name

/-- Declarations with an attribute. The entities in its value have to be declared before. -/
def addRule? (d : Declarations) (r : AttributeRule) : Option Declarations := do
  let value ← match r.default with
    | some raw => (d.value? maxExpansion raw).map fun v => some v.1
    | none => some none
  let kept := if r.isVerbatim then value else value.map collapse
  some (if d.hasRule r then d else { d with rules := d.rules ++ [{ r with default := kept }] })

/-- Declarations with several attributes. -/
def addRules? (d : Declarations) (rules : List AttributeRule) : Option Declarations :=
  if d.isOpen then rules.foldlM addRule? d else some d

end Declarations

/-- One declaration behind its `<`, and what follows. -/
def declaration? (d : Declarations) (cs : List Char) : Option (Declarations × List Char) :=
  match dropText? "!--" cs, dropText? "?" cs, dropText? "!ENTITY" cs with
  | some rest, _, _ => (comment? rest).map fun r => (d, r)
  | _, some rest, _ => (instruction? rest).map fun r => (d, r)
  | _, _, some rest => do
    let (name, text, rest) ← entityRule? d.isOpen rest
    some (match name with
      | some n => d.addEntity n text
      | none => d, rest)
  | _, _, _ => match dropText? "!ATTLIST" cs, dropText? "!ELEMENT" cs, dropText? "!NOTATION" cs with
    | some rest, _, _ => do
      let rest ← spaces? rest
      let (element, rest) ← qname? rest
      let (rules, rest) ← attributeRules? element (rest.length + 1) rest
      let d' ← d.addRules? rules
      some (d', rest)
    | _, some rest, _ => (elementRule? rest).map fun r => (d, r)
    | _, _, some rest => (notationRule? rest).map fun r => (d, r)
    | _, _, _ => none

/-- The declarations up to a closing bracket, and what follows. Behind a reference to declarations
elsewhere, further ones are not taken in unless the document stands alone. The fuel bounds their
number. -/
def declarations? (standalone : Bool) :
    Nat → Declarations → List Char → Option (Declarations × List Char)
  | 0, _, _ => none
  | fuel + 1, d, cs =>
    match cs.dropWhile isSpace with
    | ']' :: rest => some (d, rest)
    | '<' :: rest => do
      let (d', rest') ← declaration? d rest
      declarations? standalone fuel d' rest'
    | '%' :: rest => do
      let (_, rest) ← name? rest
      let rest ← dropText? ";" rest
      -- what is referred to is not read, and it may have been first to declare what follows
      let d := { d with isIncomplete := !standalone, isOpen := standalone }
      declarations? standalone fuel d rest
    | _ => none

/-- The document type behind `<!DOCTYPE`, and what follows. -/
def doctype? (standalone : Bool) (cs : List Char) : Option (Declarations × List Char) := do
  let rest ← spaces? cs
  let (_, rest) ← qname? rest
  let (d, rest) ← match (spaces? rest).bind externalId? with
    | some rest' => some (({ isIncomplete := !standalone } : Declarations), rest')
    | none =>
      let d : Declarations := {}
      some (d, rest)
  match rest.dropWhile isSpace with
  | '>' :: rest' => some (d, rest')
  | '[' :: rest' => do
    let (d', rest'') ← declarations? standalone (rest'.length + 1) d rest'
    let end_ ← dropText? ">" (rest''.dropWhile isSpace)
    some (d', end_)
  | _ => none

end ParamBinding.Xml
