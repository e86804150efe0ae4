import ParamBinding.Fault

/-!
# Types of fields

The types that the fields of a model can have: primitive classes and classes with a text form,
enumerations, models, collections, maps, optional types and unions. Types that no request parameter
can be decoded into are kept as well, so that a model which has one can be rejected or can leave the
field alone.

Several spellings denote the same kind of type, such as `list[int]` and `List[int]`. The spelling is
part of a type because error messages show it.

Classes are described as far as decoding looks at them. What the constructor of a class does is known
by what it refuses (`Scalar.check`, `ModelHead.check`), so no constructor puts other values into the
fields of a model than those it is given. A type is a finite tree: no model occurs in the types of its
own fields, save where a field is left out by its tag and only its starting value counts. The members
of an enumeration are those that are declared, as none of them combines others, and each of their
values has a text. The arguments of a generic type are types.
-/

namespace ParamBinding

/-- How values of a class are read. -/
structure TextReader where
  /-- The value of a text. -/
  read : String → Except Fault Value
  /-- What becomes of a value that is given in place of a text. -/
  accept : Value → Except Fault Value

/-- The name of a class and the module it belongs to, which is empty for a built-in class. -/
structure ClassName where
  module : String := ""
  name : String
  deriving DecidableEq, Repr

/-- The name of a class behind its module. -/
def ClassName.path (c : ClassName) : String :=
  if c.module = "" then c.name else c.module ++ "." ++ c.name

/-- The primitive classes. -/
inductive Primitive where
  | bool
  | int
  | float
  | complex
  | text
  | bytes
  deriving DecidableEq, Repr

/-- A primitive class or a subclass of one with a name, perhaps with a text form of its own. -/
structure Scalar where
  kind : Primitive
  subclass : Option ClassName := none
  reader : Option TextReader := none
  /-- Whether the constructor of the subclass takes a value, or takes none. -/
  check : Option Value → Except Fault Unit := fun _ => .ok ()

/-- An enumeration: its members with their values, in the order of their declaration. A member whose
value equals that of an earlier one is another name of that member. -/
structure EnumType where
  cls : ClassName
  members : List (String × Value)
  /-- The primitive class that all members belong to, if the enumeration has one. -/
  base : Option Primitive := none

/-- What is written beside a type without changing its values. -/
inductive Note where
  /-- Integers are to fit into a number of bits. -/
  | intBounds (bits : Int) (signed : Bool)
  /-- Floats are to fit into a format of a number of bits. -/
  | floatBits (bits : Int)
  | text (s : String)
  deriving DecidableEq, Repr

/-- The collections that lists of values are gathered into. -/
inductive Collection where
  | list
  | tuple
  | set
  | frozenSet
  deriving DecidableEq, Repr

/-- A field of a model: its type, its tags by the keys they are filed under, and its value in a new
instance. A field without a value of its own starts with the zero of its type, or unset when it is
not a parameter of the constructor. -/
structure Member (τ : Type) where
  name : String
  type : τ
  tags : List (String × String) := []
  initial : Option Value := none
  isParameter : Bool := true

/-- The tag that is filed under a key. -/
def Member.tag? {τ : Type} (m : Member τ) (key : String) : Option String := m.tags.lookup key

/-- The name of a model, and what all its instances have in common. -/
structure ModelHead where
  cls : ClassName
  frozen : Bool := false
  reader : Option TextReader := none
  /-- Whether the constructor takes the values that the fields start with. -/
  check : List (String × Option Value) → Except Fault Unit := fun _ => .ok ()

/-- The spellings of types whose values are lists of any length. -/
inductive SequenceName where
  | builtinList
  | builtinSet
  | builtinFrozenSet
  | list
  | set
  | frozenSet
  | sequence
  | mutableSequence
  | iterable
  | collection
  | abstractSet
  | mutableSet
  deriving DecidableEq, Repr

/-- The spellings of types whose values are maps. -/
inductive MapName where
  | builtinDict
  | dict
  | mapping
  | mutableMapping
  deriving DecidableEq, Repr

/-- The spellings of generic types that nothing can be decoded into. -/
inductive GenericName where
  | iterator
  | builtinDeque
  | deque
  | orderedDict
  | optional
  | union
  | literal
  | callable
  deriving DecidableEq, Repr

/-- How the elements of a tuple of any length are written. -/
inductive RowForm where
  | bare
  | dots
  | empty
  deriving DecidableEq, Repr

/-- How an optional type is written: `Optional[T]`, `T | None` or `None | T`. -/
inductive OptionalForm where
  | named
  | barAfter
  | barBefore
  deriving DecidableEq, Repr

/-- A type. -/
inductive Ty where
  | scalar (s : Scalar)
  /-- A class without a structure that is known here. -/
  | plain (cls : ClassName) (reader : Option TextReader)
  | enum (e : EnumType)
  | model (head : ModelHead) (members : List (Member Ty))
  /-- Lists of any length; without an element type the elements are texts. -/
  | sequence (name : SequenceName) (elem : Ty) (spelled : Bool)
  /-- Tuples of any length. -/
  | row (builtin : Bool) (elem : Ty) (form : RowForm)
  /-- Tuples with one element of each of the given types. -/
  | tuple (builtin : Bool) (elems : List Ty)
  /-- Maps; without types keys and values are texts. -/
  | map (name : MapName) (key value : Ty) (spelled : Bool)
  /-- A map type that says what its keys are, and not what its values are. -/
  | keyedOnly (key : Ty)
  | optional (form : OptionalForm) (inner : Ty)
  /-- A choice of several types that is not just an optional type. -/
  | union (bars : Bool) (choices : List Ty)
  | annotated (inner : Ty) (notes : List Note)
  | literal (choices : List Value)
  | callable (args : List Ty) (result : Ty)
  | generic (name : GenericName) (args : List Ty) (spelled : Bool)
  | ellipsis

namespace SequenceName

/-- What the elements of a list are gathered into. -/
def gathers : SequenceName → Collection
  | builtinList | list | sequence | mutableSequence | iterable | collection => .list
  | builtinSet | set | mutableSet => .set
  | builtinFrozenSet | frozenSet | abstractSet => .frozenSet

/-- The class or alias of a spelling. -/
def cls : SequenceName → ClassName
  | builtinList => { name := "list" }
  | builtinSet => { name := "set" }
  | builtinFrozenSet => { name := "frozenset" }
  | list => ⟨"typing", "List"⟩
  | set => ⟨"typing", "Set"⟩
  | frozenSet => ⟨"typing", "FrozenSet"⟩
  | sequence => ⟨"typing", "Sequence"⟩
  | mutableSequence => ⟨"typing", "MutableSequence"⟩
  | iterable => ⟨"typing", "Iterable"⟩
  | collection => ⟨"typing", "Collection"⟩
  | abstractSet => ⟨"typing", "AbstractSet"⟩
  | mutableSet => ⟨"typing", "MutableSet"⟩

/-- All spellings. -/
def all : List SequenceName :=
  [builtinList, builtinSet, builtinFrozenSet, list, set, frozenSet, sequence, mutableSequence,
    iterable, collection, abstractSet, mutableSet]

end SequenceName

namespace MapName

/-- The class or alias of a spelling. -/
def cls : MapName → ClassName
  | builtinDict => { name := "dict" }
  | dict => ⟨"typing", "Dict"⟩
  | mapping => ⟨"typing", "Mapping"⟩
  | mutableMapping => ⟨"typing", "MutableMapping"⟩

/-- All spellings. -/
def all : List MapName := [builtinDict, dict, mapping, mutableMapping]

end MapName

namespace GenericName

/-- The class or alias of a spelling. -/
def cls : GenericName → ClassName
  | iterator => ⟨"typing", "Iterator"⟩
  | builtinDeque => ⟨"collections", "deque"⟩
  | deque => ⟨"typing", "Deque"⟩
  | orderedDict => ⟨"typing", "OrderedDict"⟩
  | optional => ⟨"typing", "Optional"⟩
  | union => ⟨"typing", "Union"⟩
  | literal => ⟨"typing", "Literal"⟩
  | callable => ⟨"typing", "Callable"⟩

/-- All spellings. -/
def all : List GenericName :=
  [iterator, builtinDeque, deque, orderedDict, optional, union, literal, callable]

end GenericName

namespace Primitive

/-- The name of a primitive class. -/
def name : Primitive → String
  | bool => "bool"
  | int => "int"
  | float => "float"
  | complex => "complex"
  | text => "str"
  | bytes => "bytes"

/-- The value that a primitive class has without any data. -/
def zero : Primitive → Value
  | bool => .bool false
  | int => .int 0
  | float => .float .zero
  | complex => .complex .zero .zero
  | text => .text ""
  | bytes => .bytes []

end Primitive

namespace Scalar

/-- The class itself. -/
def cls (s : Scalar) : ClassName := s.subclass.getD { name := s.kind.name }

/-- A value of the primitive class as an instance of the subclass, if there is one. -/
def wrap (s : Scalar) (v : Value) : Value :=
  match s.subclass with
  | some c => .sub c.name v
  | none => v

/-- An instance of the class with a value of the primitive class, made from what its constructor is
given. -/
def make (s : Scalar) (given : Option Value) (v : Value) : Except Fault Value :=
  match s.subclass with
  | some _ => (s.check given).map fun _ => s.wrap v
  | none => .ok v

/-- An instance of the class made from a value of the primitive class. -/
def ofValue (s : Scalar) (v : Value) : Except Fault Value := s.make (some v) v

end Scalar

/-- A new instance with the values that its fields start with. -/
def ModelHead.make (h : ModelHead) (fields : List (String × Option Value)) :
    Except Fault (Record Value) :=
  (h.check fields).map fun _ => ⟨h.cls.name, h.frozen, fields⟩

namespace EnumType

/-- Members after one more declaration. A value that equals that of a member makes no new one. -/
def declare (members : List (String × Value)) (m : String × Value) : List (String × Value) :=
  if members.any fun k => m.2.same k.2 then members else members ++ [m]

/-- The different members, in the order of their declaration, with their values. -/
def distinct (e : EnumType) : List (String × Value) := e.members.foldl declare []

/-- The name of the member with a value. -/
def canonical (e : EnumType) (v : Value) : Option String :=
  (e.distinct.find? fun m => v.same m.2).map (·.1)

/-- A member as a value. -/
def member (e : EnumType) (m : String × Value) : Value := .member e.cls.name m.1

/-- The member under one of its names: the one that is declared there, or else the one with an equal
value. A number may be undefined and equal nothing, but it is declared under its name all the
same. -/
def byName? (e : EnumType) (name : String) : Option Value :=
  (e.members.lookup name).bind fun v =>
    (e.distinct.find? fun m => m.1 = name || v.same m.2).map e.member

end EnumType

namespace Note

/-- Whether a note bounds numbers. -/
def isBound : Note → Bool
  | intBounds _ _ | floatBits _ => true
  | text _ => false

/-- How many integers a number of bits writes; none when the number is negative. -/
def capacity? (bits : Int) : Option Int := if bits < 0 then none else some (Int.pow 2 bits.toNat)

/-- The least integer of a number of bits, one of which is the sign unless all are positive. -/
def low? (bits : Int) (signed : Bool) : Option Int :=
  if signed then (capacity? (bits - 1)).map fun n => -n else some 0

/-- The greatest integer of a number of bits. -/
def high? (bits : Int) (signed : Bool) : Option Int :=
  (capacity? (if signed then bits - 1 else bits)).map fun n => n - 1

end Note

namespace Ty

/-- The type of nothing but `none`. -/
def noneType : Ty := .plain { name := "NoneType" } none

/-- The class of texts. -/
def str : Ty := .scalar { kind := .text }

/-- Whether a type is that of `none`. -/
def isNone : Ty → Bool
  | .plain c _ => c = { name := "NoneType" }
  | _ => false

/-- A type without its notes. -/
def bare : Ty → Ty
  | .annotated t _ => t.bare
  | t => t

/-- The notes of a type, from the innermost. -/
def notes : Ty → List Note
  | .annotated t ns => t.notes ++ ns
  | _ => []

/-- The name of the class that a type is, when it is one class. -/
def class? : Ty → Option ClassName
  | .scalar s => some s.cls
  | .plain c _ => some c
  | .enum e => some e.cls
  | .model h _ => some h.cls
  | .sequence n _ false => if n.cls.module = "" then some n.cls else none
  | .row true _ .bare => some { name := "tuple" }
  | .map n _ _ false => if n.cls.module = "" then some n.cls else none
  | .generic .builtinDeque _ false => some GenericName.builtinDeque.cls
  | _ => none

end Ty

end ParamBinding
