import ParamBinding.Text.Blank
import ParamBinding.Value.Equality

/-!
# Elements as values

An element with neither children nor attributes is the value of its text, without the blanks around
it. Any other element is a map from the names of its attributes and the tags of its children; what
occurs several times becomes a list, in the order of the document.
-/

namespace ParamBinding.Xml

/-- The attributes of an element with their texts. No two of them have the same name. -/
structure Attributes where
  entries : List (String × String)
  nodup : (entries.map (·.1)).Nodup

/-- Attributes with their texts, when no two of them have the same name. -/
def Attributes.ofList? (entries : List (String × String)) : Option Attributes :=
  if nodup : (entries.map (·.1)).Nodup then some ⟨entries, nodup⟩ else none

/-- An element: its tag, its attributes, the text in front of its first child, and its children. -/
inductive Element where
  | node (tag : String) (attributes : Attributes) (text : String) (children : List Element)

/-- Entries with one more value for a key. A second value makes a list of both; further values are
added to it. -/
def addValue (key : String) (v : Value) : List (String × Value) → List (String × Value)
  | [] => [(key, v)]
  | (k, w) :: rest =>
    if k = key then
      match w with
      | .list xs => (k, .list (xs ++ [v])) :: rest
      | w => (k, .list [w, v]) :: rest
    else (k, w) :: addValue key v rest

namespace Element

/-- The tag of an element. -/
def tag : Element → String
  | node t _ _ _ => t

/-- The attributes of an element. -/
def attributes : Element → Attributes
  | node _ as _ _ => as

/-- The text of an element. -/
def text : Element → String
  | node _ _ s _ => s

/-- The children of an element. -/
def children : Element → List Element
  | node _ _ _ cs => cs

mutual

/-- The value of an element. -/
def toValue : Element → Value
  | .node _ attributes text children =>
    if children.isEmpty && attributes.entries.isEmpty then .text (Text.strip text)
    else .map ((addChildren (attributes.entries.map fun a => (a.1, .text a.2)) children).map
      fun e => (.text e.1, e.2))

/-- Entries with those of several children. -/
def addChildren : List (String × Value) → List Element → List (String × Value)
  | entries, [] => entries
  | entries, c :: cs => addChildren (addValue c.tag (toValue c) entries) cs

end

end Element

end ParamBinding.Xml
