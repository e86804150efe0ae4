/-!
# Nodes

A document is a tree of nodes: scalars, sequences and mappings, each with a tag that tells what kind
of value it stands for. A node that another one refers to is in the tree wherever it is referred
to, but not inside itself.
-/

namespace ParamBinding.Yaml

/-- What kind of value a node stands for. -/
inductive NodeTag where
  | null
  | bool
  | int
  | float
  | binary
  | timestamp
  | omap
  | pairs
  | set
  | str
  | seq
  | map
  /-- The key whose value is a mapping that is merged into the one around it. -/
  | merge
  /-- The key of the value that a mapping stands for where a scalar is wanted. -/
  | value
  /-- A tag that no value has. -/
  | unknown
  deriving DecidableEq, Repr

namespace NodeTag

/-- What the tags of the language begin with. -/
def core : String := "tag:yaml.org,2002:"

/-- The tags of the language. -/
def names : List (String × NodeTag) := [
  ("null", null), ("bool", bool), ("int", int), ("float", float), ("binary", binary),
  ("timestamp", timestamp), ("omap", omap), ("pairs", pairs), ("set", set), ("str", str),
  ("seq", seq), ("map", map), ("merge", merge), ("value", value)]

/-- The tag that is written in full. -/
def ofText (s : String) : NodeTag :=
  ((names.find? fun n => core ++ n.1 == s).map (·.2)).getD unknown

end NodeTag

/-- A node. -/
inductive Node where
  | scalar (tag : NodeTag) (text : String)
  | sequence (tag : NodeTag) (items : List Node)
  | mapping (tag : NodeTag) (entries : List (Node × Node))
  /-- A reference to a collection inside that collection. -/
  | loop
  deriving Repr

namespace Node

/-- The tag of a node. -/
def tag : Node → NodeTag
  | scalar t _ | sequence t _ | mapping t _ => t
  | loop => .seq

/-- What stands where a node is left out. -/
def empty : Node := .scalar .null ""

end Node

end ParamBinding.Yaml
