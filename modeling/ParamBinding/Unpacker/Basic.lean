import ParamBinding.CompileError
import ParamBinding.Options
import ParamBinding.Place
import ParamBinding.Reader.Registry
import ParamBinding.Ty.Shape

/-!
# Unpackers

An unpacker turns the raw texts of one parameter into a value. It is of one of three kinds, by what
it takes: one text, the texts of all occurrences, or the texts of a parameter's keys.

This module holds the pieces that unpackers are made of: gathering elements, filling tuples, maps
and nested models. All of them stop at the first fault.
-/

namespace ParamBinding

open ParamBinding.Text

/-- Decoding one text. -/
abbrev TextDecoder := String → Except Fault Value

/-- Decoding the texts of all occurrences of a parameter. -/
abbrev ListDecoder := List String → Except Fault Value

/-- Decoding the texts of the keys of a parameter. -/
abbrev KeyedDecoder := List (String × List String) → Except Fault Value

/-- The decoder of a parameter. -/
inductive Unpacker where
  | single (decode : TextDecoder)
  | multi (decode : ListDecoder)
  | deepObject (decode : KeyedDecoder)

namespace Unpacker

/-- The decoder of one text, if the unpacker takes one text. -/
def single? : Unpacker → Option TextDecoder
  | single d => some d
  | _ => none

/-- The decoder of all occurrences, if the unpacker takes them. -/
def multi? : Unpacker → Option ListDecoder
  | multi d => some d
  | _ => none

/-- The decoder of keys, if the unpacker takes keys. -/
def deepObject? : Unpacker → Option KeyedDecoder
  | deepObject d => some d
  | _ => none

end Unpacker

/-- The fault of a function that is called although there is none. -/
def absentFunction : Fault := .raised .type "'NoneType' object is not callable"

/-! ### Texts -/

/-- Texts of the form `key=value` as a list that alternates between keys and values. -/
def resplit (vs : List String) : List String :=
  vs.flatMap fun v => [(cut '=' v).1, (cut '=' v).2]

/-- The pairs in a list that alternates between keys and values; a last value that is missing is
empty. -/
def pairs : List String → List (String × String)
  | [] => []
  | [k] => [(k, "")]
  | k :: v :: rest => (k, v) :: pairs rest

/-! ### Collections -/

/-- Put decoded values into a set one after another. -/
def gatherInto (elem : TextDecoder) : List Value → List String → Except Fault (List Value)
  | acc, [] => .ok acc
  | acc, s :: ss => do
    let v ← elem s
    match v.unhashable? with
    | some u => .error (.unhashable u)
    | none => gatherInto elem (Value.insertElement acc v) ss

/-- Decode the elements of a collection. -/
def gather (c : Collection) (elem : TextDecoder) (vs : List String) : Except Fault Value :=
  match c with
  | .list | .tuple => (vs.mapM elem).map c.wrap
  | .set | .frozenSet => (gatherInto elem [] vs).map c.wrap

/-- One place of a tuple: how it is decoded, and what it holds without a text. -/
structure Slot where
  decode : TextDecoder
  zero : Except Fault Value

/-- Fill places from the left, and put zeros into those that are left over. -/
def fillSlots : List Slot → List String → Except Fault (List Value)
  | [], _ => .ok []
  | slot :: slots, [] => do
    let v ← slot.zero
    let vs ← fillSlots slots []
    .ok (v :: vs)
  | slot :: slots, s :: ss => do
    let v ← slot.decode s
    let vs ← fillSlots slots ss
    .ok (v :: vs)

/-- Decode the places of a tuple. More texts than places are a fault. -/
def fillTuple (slots : List Slot) (vs : List String) : Except Fault Value :=
  if slots.length < vs.length then .error (.tooManyValues vs.length slots.length)
  else (fillSlots slots vs).map .tuple

/-! ### Maps -/

/-- Put a decoded value into a map under a decoded key. -/
def putEntry (entries : List (Value × Value)) (k v : Value) :
    Except Fault (List (Value × Value)) :=
  match k.unhashable? with
  | some u => .error (.unhashable u)
  | none => .ok (Value.insertEntry entries k v)

/-- Decode pairs into a map, each key before its value. -/
def gatherPairs (key value : TextDecoder) :
    List (Value × Value) → List (String × String) → Except Fault (List (Value × Value))
  | acc, [] => .ok acc
  | acc, (k, s) :: rest => do
    let kv ← key k
    let v ← value s
    let acc' ← putEntry acc kv v
    gatherPairs key value acc' rest

/-- Decode a list that alternates between keys and values. -/
def unpackMap (key value : TextDecoder) (tokens : List String) : Except Fault Value :=
  (gatherPairs key value [] (pairs tokens)).map .map

/-- Decode the texts of one key with whatever decoder there is for them. -/
def unpackValues (u : Unpacker) (vs : List String) : Except Fault Value :=
  match u with
  | .single d => d (vs.headD "")
  | .multi d => d vs
  | .deepObject _ => .error absentFunction

/-- Decode keys into a map, each value before its key. -/
def gatherKeys (key : TextDecoder) (value : Unpacker) :
    List (Value × Value) → List (String × List String) → Except Fault (List (Value × Value))
  | acc, [] => .ok acc
  | acc, (k, vs) :: rest => do
    let v ← unpackValues value vs
    let kv ← key k
    let acc' ← putEntry acc kv v
    gatherKeys key value acc' rest

/-! ### Nested models -/

/-- A field of a nested model: the key it is filled under, and its unpacker. -/
structure MemberTarget where
  key : String
  field : String
  unpacker : Unpacker

/-- A nested model that can be filled. -/
structure StructDecoder where
  place : Place
  strict : Bool
  new : Except Fault (Record Value)
  targets : List MemberTarget

namespace StructDecoder

/-- The field that is filled under a key. -/
def target? (d : StructDecoder) (key : String) : Option MemberTarget :=
  d.targets.find? (·.key = key)

/-- A fault of a field; one that says itself which part of the request is wrong stays as it is. -/
def blame (d : StructDecoder) (field : String) (f : Fault) : Fault :=
  if f.isRequestFault then f
  else .decode (.memberField field) { source := some d.place.name, field := some field } f

/-- A record with the outcome of a decoder put into a field. -/
def fill (d : StructDecoder) (field : String) (r : Record Value) (v : Except Fault Value) :
    Except Fault (Record Value) :=
  match v with
  | .ok v => .ok (r.set field v)
  | .error f => .error (d.blame field f)

/-- What a key that no field has does. -/
def unknown (d : StructDecoder) (key : String) (r : Record Value) : Except Fault (Record Value) :=
  if d.strict then .error (.unknownParameter key true) else .ok r

/-- Fill one field from one text. -/
def putPair (d : StructDecoder) (r : Record Value) (key s : String) :
    Except Fault (Record Value) :=
  match d.target? key with
  | none => d.unknown key r
  | some t => d.fill t.field r <| match t.unpacker with
    | .single f => f s
    | .multi f => f [s]
    | .deepObject _ => .error absentFunction

/-- Fill one field from several texts. Without a text nothing happens. -/
def putValues (d : StructDecoder) (r : Record Value) (key : String) (vs : List String) :
    Except Fault (Record Value) :=
  match d.target? key with
  | none => d.unknown key r
  | some t => match t.unpacker with
    | .single f => match vs with
      | [] => .ok r
      | s :: _ => d.fill t.field r (f s)
    | .multi f => d.fill t.field r (f vs)
    | .deepObject _ => d.fill t.field r (.error absentFunction)

/-- Fill fields from pairs, one after another. -/
def putPairs (d : StructDecoder) : Record Value → List (String × String) →
    Except Fault (Record Value)
  | r, [] => .ok r
  | r, (k, s) :: rest => do
    let r' ← d.putPair r k s
    d.putPairs r' rest

/-- Fill fields from keys, one after another. -/
def putKeys (d : StructDecoder) : Record Value → List (String × List String) →
    Except Fault (Record Value)
  | r, [] => .ok r
  | r, (k, vs) :: rest => do
    let r' ← d.putValues r k vs
    d.putKeys r' rest

/-- A new model filled from a list that alternates between keys and values. -/
def unpackTokens (d : StructDecoder) (tokens : List String) : Except Fault Value := do
  let r ← d.new
  let r' ← d.putPairs r (pairs tokens)
  .ok (.model r')

/-- A new model filled from keys. -/
def unpackKeys (d : StructDecoder) (keys : List (String × List String)) : Except Fault Value := do
  let r ← d.new
  let r' ← d.putKeys r keys
  .ok (.model r')

end StructDecoder

end ParamBinding
