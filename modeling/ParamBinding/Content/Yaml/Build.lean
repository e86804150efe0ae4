import ParamBinding.Content.Yaml.Base64
import ParamBinding.Content.Yaml.Problem
import ParamBinding.Content.Yaml.Resolve
import ParamBinding.Number.FloatText
import ParamBinding.Text.Case
import ParamBinding.Value.Equality

/-!
# The values of nodes

A scalar is read as its tag says; sequences and mappings become lists, maps and sets. Mappings are
merged into the mappings around them first.

A document is built level by level: scalars when the collection around them is filled, which
happens after everything that is not as deep. So of several problems the one that is least deep
counts, and of those the first.
-/

namespace ParamBinding.Yaml

open ParamBinding.Text

/-! ### Scalars -/

/-- A truth value. -/
def readBool (text : String) : Except Problem Value :=
  let word := lower text
  match boolWords.lookup word with
  | some b => .ok (.bool b)
  | none => .error (.notBoolean word)

/-- A number without its underscores: whether it is negative, and what follows the sign. -/
def splitNumber (text : String) : Except Problem (Bool × List Char) :=
  let cs := text.toList.filter (· ≠ '_')
  if cs.isEmpty then .error .emptyNumber else .ok (IntText.splitSign cs)

/-- A whole number in a base. Only in base ten there can be too many digits. -/
def readDigits (base : Nat) (cs : List Char) : Except Problem Int :=
  match IntText.readLenient? base cs with
  | none => .error (.notInteger base (String.ofList cs))
  | some n =>
    let count := (cs.filter isDigit).length
    if base = 10 && IntText.maxDigits < count then .error (.tooManyDigits count) else .ok n

/-- A whole number. -/
def readInt (text : String) : Except Problem Value := do
  let (minus, body) ← splitNumber text
  let n ← match body with
    | [] => .error .emptyNumber
    | ['0'] => .ok 0
    | '0' :: 'b' :: rest => readDigits 2 rest
    | '0' :: 'x' :: rest => readDigits 16 rest
    | '0' :: _ => readDigits 8 body
    | _ =>
      if body.contains ':' then do
        let parts ← (splitOn [':'] body).mapM (readDigits 10)
        .ok (parts.foldl (fun n d => n * 60 + d) 0)
      else readDigits 10 body
  .ok (.int (if minus then -n else n))

/-- A number with a point. -/
def readPart (cs : List Char) : Except Problem Binary64 :=
  let s := String.ofList cs
  match FloatText.read? s with
  | some x => .ok x
  | none => .error (.notFloat s)

/-- A sum and the parts of a number in base sixty, the last one first. -/
def addSixtieths (sum : Binary64) (unit : Int) : List Binary64 → Except Problem Binary64
  | [] => .ok sum
  | x :: xs =>
    let scale := Binary64.ofInt unit
    if scale.isFinite then addSixtieths (sum.add (x.mul scale)) (unit * 60) xs
    else .error .beyondFloat

/-- A number with a point, with an exponent, or in base sixty, or one that is not finite. -/
def readFloat (text : String) : Except Problem Value := do
  let (minus, body) ← splitNumber (lower text)
  let signed (x : Binary64) : Value := .float (if minus then x.neg else x)
  if body = ".inf".toList then .ok (signed (.infinity false))
  else if body = ".nan".toList then .ok (.float (.nan false))
  else if body.contains ':' then do
    let parts ← (splitOn [':'] body).mapM readPart
    let sum ← addSixtieths .zero 1 parts.reverse
    .ok (signed sum)
  else do
    let x ← readPart body
    .ok (signed x)

/-- The microseconds that the decimals of a second make, as far as they are that fine. -/
def microseconds (fraction : List Nat) : Nat :=
  let ds := fraction.take 6
  ofDigits 10 (ds ++ List.replicate (6 - ds.length) 0)

/-- The offset of a zone, in microseconds; it has to be less than a day. -/
def ZoneText.offset (z : ZoneText) : Except Problem Int :=
  let minutes : Int := z.hours * 60 + z.minutes
  let micros := (if z.minus then -minutes else minutes) * 60000000
  if minutes < 1440 then .ok micros else .error (.calendar (.offset ⟨micros⟩))

/-- A range problem of numbers makes a problem of the document. -/
def inCalendar {α : Type} (x : Except CalendarProblem α) : Except Problem α :=
  x.mapError .calendar

/-- A date, or a date and a time. -/
def readTimestamp (text : String) : Except Problem Value := do
  let cs := text.toList
  let cs := if cs.getLast? = some '\n' then cs.dropLast else cs
  match timestamp? cs with
  | none => .error .notTimestamp
  | some t => match t.clock with
    | none => (inCalendar (Date.ofNumbers t.year t.month t.day)).map .date
    | some c => do
      let offset ← c.zone.mapM ZoneText.offset
      let date ← inCalendar (Date.ofNumbers t.year t.month t.day)
      let time ← inCalendar
        (TimeOfDay.ofNumbers c.hour c.minute c.second (microseconds c.fraction) offset)
      .ok (.dateTime ⟨date, time⟩)

/-- A text as its tag says. The tags of collections do not say how to read one. -/
def readScalar (tag : NodeTag) (text : String) : Except Problem Value :=
  match tag with
  | .null => .ok .none
  | .bool => readBool text
  | .int => readInt text
  | .float => readFloat text
  | .binary => (orMalformed (Base64.decode? text.toList)).map .bytes
  | .timestamp => readTimestamp text
  | .str => .ok (.text text)
  | _ => .error .malformed

/-! ### Trees -/

/-- Whether the tag of a node asks for a scalar. -/
def NodeTag.isScalar (t : NodeTag) : Bool :=
  [null, bool, int, float, binary, timestamp, str].contains t

/-- Whether the tag of a node asks for a collection. -/
def NodeTag.isCollection (t : NodeTag) : Bool := [omap, pairs, set, seq, map].contains t

/-- A value and what is wrong with it: problems with their depths. -/
structure Built where
  value : Value
  problems : List (Nat × Problem) := []
  /-- Whether it is a collection inside itself. -/
  isLoop : Bool := false

namespace Built

/-- What is built from a scalar, or the problem with it. -/
def ofScalar : Except Problem Value → Built
  | .ok v => { value := v }
  | .error p => { value := .none, problems := [(0, p)] }

/-- The problems of a part of a collection. -/
def deeper (b : Built) : List (Nat × Problem) := b.problems.map fun p => (p.1 + 1, p.2)

/-- A collection inside itself. It equals nothing. -/
def loop : Built := { value := .object "loop" .none, isLoop := true }

/-- A collection that cannot be filled. -/
def unfilled : Built := { value := .list [], problems := [(1, .malformed)] }

/-- A list of parts. -/
def list (parts : List Built) : Built where
  value := .list (parts.map (·.value))
  problems := parts.flatMap deeper

/-- A list of pairs. -/
def pairs (parts : List (Option (Built × Built))) : Built where
  value := .list (parts.map fun p => match p with
    | some (k, v) => .tuple [k.value, v.value]
    | none => .none)
  problems := parts.flatMap fun p => match p with
    | some (k, v) => k.deeper ++ v.deeper
    | none => [(1, .malformed)]

/-- The problems of the entries of a mapping, whose keys have to be hashable. -/
def entryProblems (entries : List (Built × Built)) : List (Nat × Problem) :=
  entries.flatMap fun (k, v) =>
    let isMutable := k.isLoop || k.value.unhashable?.isSome
    k.deeper ++ (if isMutable then [(1, .malformed)] else []) ++ v.deeper

/-- A map of entries, of which later ones take the place of earlier ones. -/
def map (entries : List (Built × Built)) : Built where
  value := .map (entries.foldl (fun es e => Value.insertEntry es e.1.value e.2.value) [])
  problems := entryProblems entries

/-- A set of the keys of entries. -/
def set (entries : List (Built × Built)) : Built where
  value := .set (entries.foldl (fun xs e => Value.insertElement xs e.1.value) [])
  problems := entryProblems entries

/-- Of two problems the one that is less deep, the first one if they are equally deep. -/
def firstProblem : List (Nat × Problem) → Option (Nat × Problem)
  | [] => none
  | p :: ps => match firstProblem ps with
    | some q => if q.1 < p.1 then some q else some p
    | none => some p

/-- The value, unless there is a problem. -/
def result (b : Built) : Except Problem Value :=
  match firstProblem b.problems with
  | some p => .error p.2
  | none => .ok b.value

end Built

/-- The entries of mappings, the last mapping first. -/
def reversed {α : Type} (xs : List (List α)) : List α := xs.reverse.flatten

mutual

/-- The text of a scalar, or of the scalar that a mapping stands for. -/
def Node.text? : Node → Option String
  | .scalar _ s => some s
  | .mapping _ es => textOfEntries? es
  | .sequence _ _ | .loop => none

/-- The text of the value of the first key that is meant for it. -/
def textOfEntries? : List (Node × Node) → Option String
  | [] => none
  | (k, v) :: es => if k.tag = .value then v.text? else textOfEntries? es

end

mutual

/-- The value of a node. -/
def Node.build : Node → Built
  | .scalar tag s =>
    if tag.isCollection then .unfilled else .ofScalar (readScalar tag s)
  | .sequence tag xs =>
    match tag with
    | .seq => .list (buildAll xs)
    | .omap | .pairs => .pairs (buildPairs xs)
    | .map | .set => .unfilled
    | _ => .ofScalar (.error .malformed)
  | .mapping tag es =>
    match tag with
    | .map => match mergedEntries es with
      | some (merged, own) => .map (merged ++ own)
      | none => .unfilled
    | .set => match mergedEntries es with
      | some (merged, own) => .set (merged ++ own)
      | none => .unfilled
    | .seq | .omap | .pairs => .unfilled
    | _ => .ofScalar (if tag.isScalar then do
        let s ← orMalformed (textOfEntries? es)
        if tag = .timestamp then .error .notText else readScalar tag s
      else .error .malformed)
  | .loop => .loop

/-- The values of several nodes. -/
def buildAll : List Node → List Built
  | [] => []
  | x :: xs => x.build :: buildAll xs

/-- The pairs that mappings with one entry each stand for. -/
def buildPairs : List Node → List (Option (Built × Built))
  | [] => []
  | .mapping _ [(k, v)] :: xs => some (k.build, v.build) :: buildPairs xs
  | _ :: xs => none :: buildPairs xs

/-- The entries of a mapping: those that are merged into it, and its own. -/
def mergedEntries : List (Node × Node) → Option (List (Built × Built) × List (Built × Built))
  | [] => some ([], [])
  | (k, v) :: es => do
    let (merged, own) ← mergedEntries es
    if k.tag = .merge then do
      let more ← v.sources
      some (more ++ merged, own)
    else
      let key := if k.tag = .value then .ofScalar ((orMalformed k.text?).map .text) else k.build
      some (merged, (key, v.build) :: own)

/-- The entries that a node contributes where it is merged: those of a mapping, or those of several
mappings, of which earlier ones count more. A mapping contributes nothing to itself. -/
def Node.sources : Node → Option (List (Built × Built))
  | .mapping _ es => (mergedEntries es).map fun (merged, own) => merged ++ own
  | .sequence _ xs => (sourcesOfAll xs).map reversed
  | .loop => some []
  | .scalar _ _ => none

/-- The entries of several mappings. -/
def sourcesOfAll : List Node → Option (List (List (Built × Built)))
  | [] => some []
  | .mapping _ es :: xs => do
    let (merged, own) ← mergedEntries es
    let more ← sourcesOfAll xs
    some ((merged ++ own) :: more)
  | .loop :: xs => sourcesOfAll xs
  | _ :: _ => none

end

end ParamBinding.Yaml
