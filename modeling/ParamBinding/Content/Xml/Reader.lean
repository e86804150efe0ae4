import ParamBinding.Content.Xml.Doctype
import ParamBinding.Content.Xml.Element
import ParamBinding.Content.Xml.Encoding

/-!
# Reading documents

The tokens of a document are put together by a machine that keeps the elements that are open.
References to entities are replaced by the content they stand for, which has to close what it opens.
Names with a namespace are written with its identifier in braces.
-/

namespace ParamBinding.Xml

open ParamBinding.Text

/-! ### Attributes -/

namespace Declarations

/-- Whether the values of an attribute are kept as they are. -/
def isVerbatim (d : Declarations) (element name : QName) : Bool :=
  match d.rules.find? fun r => r.element = element && r.name = name with
  | some r => r.isVerbatim
  | none => true

/-- Attributes of an element with their values, and what is left of the budget. -/
def givenAttributes? (d : Declarations) (element : QName) :
    Nat → List RawAttribute → Option (List (QName × List Char) × Nat)
  | budget, [] => some ([], budget)
  | budget, a :: as => do
    let (v, budget) ← d.value? budget a.value
    let (rest, budget) ← d.givenAttributes? element budget as
    some ((a.name, if d.isVerbatim element a.name then v else collapse v) :: rest, budget)

/-- The attributes that an element has by default, apart from those that are given. -/
def defaults (d : Declarations) (element : QName) (given : List RawAttribute) :
    List (QName × List Char) :=
  d.rules.filterMap fun r => match r.default with
    | some v =>
      if r.element = element && !given.any (·.name = r.name) then some (r.name, v) else none
    | none => none

/-- All attributes of an element, and what is left of the budget. None is given twice. -/
def attributes? (d : Declarations) (element : QName) (budget : Nat) (given : List RawAttribute) :
    Option (List (QName × List Char) × Nat) :=
  if (given.map (·.name)).eraseDups.length < given.length then none
  else (d.givenAttributes? element budget given).map fun (as, left) =>
    (as ++ d.defaults element given, left)

end Declarations

/-! ### Namespaces -/

/-- Namespaces by what stands for them in names; nothing stands for the default namespace. -/
abbrev Scope := List (List Char × List Char)

/-- The namespace that is always there. -/
def xmlSpace : List Char := "http:".toList ++ "//www.w3.org/XML/1998/namespace".toList

/-- The namespace of declarations of namespaces. -/
def declarationSpace : List Char := "http:".toList ++ "//www.w3.org/2000/xmlns/".toList

/-- The scope of the root. -/
def rootScope : Scope := [("xml".toList, xmlSpace)]

/-- What an attribute declares to stand for a namespace; an attribute may be no declaration. -/
def declared? (name : QName) : Option (List Char) :=
  if name.space = "xmlns".toList then some name.base
  else if name.space.isEmpty && name.base = "xmlns".toList then some []
  else none

/-- Whether something may stand for a namespace. -/
def isBindable (short uri : List Char) : Bool :=
  short ≠ "xmlns".toList && !(uri.isEmpty && !short.isEmpty) &&
    (short = "xml".toList) == (uri = xmlSpace) && uri ≠ declarationSpace && !uri.contains '\x7d'

/-- The scope inside an element with the given attributes. -/
def Scope.enter? (scope : Scope) (attributes : List (QName × List Char)) : Option Scope := do
  let bindings := attributes.filterMap fun a => (declared? a.1).map fun short => (short, a.2)
  if bindings.all fun b => isBindable b.1 b.2 then some (bindings ++ scope) else none

/-- A name with its namespace, empty for none. -/
structure UniversalName where
  space : List Char
  base : List Char
  deriving DecidableEq

/-- The text of a name. -/
def UniversalName.text (n : UniversalName) : String :=
  String.ofList (if n.space.isEmpty then n.base else '\x7b' :: n.space ++ '\x7d' :: n.base)

/-- The name of an element in a scope. -/
def Scope.elementName? (scope : Scope) (name : QName) : Option UniversalName :=
  match scope.lookup name.space with
  | some uri => some ⟨uri, name.base⟩
  | none => if name.space.isEmpty then some ⟨[], name.base⟩ else none

/-- The name of an attribute in a scope. The default namespace does not count. -/
def Scope.attributeName? (scope : Scope) (name : QName) : Option UniversalName :=
  if name.space.isEmpty then some ⟨[], name.base⟩
  else (scope.lookup name.space).map fun uri => ⟨uri, name.base⟩

/-! ### Elements -/

/-- An element that is open: its name, its parts so far, the last ones first, and the scope inside
it. -/
structure OpenElement where
  name : QName
  tag : String
  attributes : Attributes
  scope : Scope
  text : List Char := []
  children : List Element := []

/-- The element with its parts in order. -/
def OpenElement.close (o : OpenElement) : Element :=
  .node o.tag o.attributes (String.ofList o.text.reverse) o.children.reverse

/-- A document that has been read in part. -/
structure Tree where
  openElements : List OpenElement := []
  root : Option Element := none
  /-- How much text references to entities may still stand for. -/
  budget : Nat

namespace Tree

/-- Open an element. There is one root. -/
def start? (t : Tree) (d : Declarations) (name : QName) (given : List RawAttribute) :
    Option Tree := do
  let scope := match t.openElements with
    | o :: _ => o.scope
    | [] => rootScope
  if t.openElements.isEmpty && t.root.isSome then none
  else do
    let (attributes, budget) ← d.attributes? name t.budget given
    let inner ← scope.enter? attributes
    let tag ← inner.elementName? name
    let kept := attributes.filter fun a => (declared? a.1).isNone
    let names ← kept.mapM fun a => inner.attributeName? a.1
    let own ← Attributes.ofList? ((names.zip kept).map fun (n, a) => (n.text, String.ofList a.2))
    let opened : OpenElement := { name, tag := tag.text, attributes := own, scope := inner }
    some { t with openElements := opened :: t.openElements, budget }

/-- Close the innermost element. -/
def stop? (t : Tree) (name : QName) : Option Tree :=
  match t.openElements with
  | [] => none
  | o :: rest =>
    if o.name = name then
      match rest with
      | [] => some { t with openElements := [], root := some o.close }
      | p :: more => some { t with
          openElements := { p with children := o.close :: p.children } :: more }
    else none

/-- Put a character into the innermost element. Only the text in front of the first child counts. -/
def char? (t : Tree) (c : Char) : Option Tree :=
  match t.openElements with
  | [] => none
  | o :: rest =>
    if o.children.isEmpty then
      some { t with openElements := { o with text := c :: o.text } :: rest }
    else some t

/-- Read one token. What the root of an entity opens, `floor` elements deep, it has to close. -/
def step? (d : Declarations) (floor : Nat) (entity : Tree → List Char → Option Tree) (t : Tree)
    (token : Token) : Option Tree :=
  match token with
  | .start name given isEmpty =>
    (t.start? d name given).bind fun t' => if isEmpty then t'.stop? name else some t'
  | .stop name => if t.openElements.length ≤ floor then none else t.stop? name
  | .char c => t.char? c
  | .blank c => if t.openElements.isEmpty then some t else t.char? c
  | .entity name => if t.openElements.isEmpty then none else entity t name
  | .unparsed => if t.openElements.isEmpty then none else some t
  | .nothing => some t

/-- Read several tokens. The fuel bounds how deep entities are nested. -/
def read? (d : Declarations) : Nat → Nat → Tree → List Token → Option Tree
  | 0, _, _, _ => none
  | fuel + 1, floor, t, tokens =>
    tokens.foldlM (step? d floor fun t name =>
      match d.entities.lookup name with
      | some (some text) =>
        if t.budget < utf8Length text then none
        else do
          let tokens ← content? text
          let height := t.openElements.length
          let t' ← read? d fuel height { t with budget := t.budget - utf8Length text } tokens
          if t'.openElements.length = height then some t' else none
      | _ => none) t

end Tree

/-! ### Documents -/

/-- What stands in front of the root: blanks, comments, instructions and at most one document type.
Gives the declarations and what follows. The fuel bounds the number of parts. -/
def prolog? (standalone : Bool) :
    Nat → Option Declarations → List Char → Option (Declarations × List Char)
  | 0, _, _ => none
  | fuel + 1, d, cs =>
    let cs := cs.dropWhile isSpace
    match dropText? "<!--" cs with
    | some rest => (comment? rest).bind (prolog? standalone fuel d)
    | none => match dropText? "<?" cs with
      | some rest => (instruction? rest).bind (prolog? standalone fuel d)
      | none => match dropText? "<!DOCTYPE" cs with
        | some rest =>
          if d.isSome then none
          else (doctype? standalone rest).bind fun (d', rest') =>
            prolog? standalone fuel (some d') rest'
        | none => some (d.getD {}, cs)

/-- How much text the references of a document may stand for: with them it may be a hundred times
as long as it is, or as long as any document. -/
def expansionBudget (cs : List Char) : Nat :=
  let length := utf8Length cs
  max maxExpansion (100 * length) - length

/-- The root of a document. -/
def root? (cs : List Char) : Option Element := do
  if cs.all isChar then
    let (p, rest) ← splitPrologue cs
    let text := uniformBreaks false rest
    let (d, content) ← prolog? p.standalone (text.length + 1) none text
    let tokens ← content? content
    let t ← Tree.read? d (d.depth + 1) 0 { budget := expansionBudget cs } tokens
    if t.openElements.isEmpty then t.root else none
  else none

/-- Why a document cannot be read. -/
abbrev Problem := EncodingProblem

/-- The root of a document. -/
def read (bs : Bytes) : Except Problem Element := do
  let cs ← decode bs
  match root? cs with
  | some e => .ok e
  | none => .error .malformed

end ParamBinding.Xml
