import ParamBinding.Text.Split
import ParamBinding.Text.Utf8

/-!
# Urlencoded data

The form of query strings and of simple form bodies: pairs `name=value` between ampersands, with
`+` for a space and `%XX` for a byte of UTF-8. Reading never fails: a percent sign without two
hexadecimal digits stands for itself, and bytes that are no UTF-8 are replaced.
-/

namespace ParamBinding.Urlencoded

open ParamBinding.Text

/-- The byte that an escape stands for, given what follows its percent sign. -/
def escape? : List Char → Option UInt8
  | a :: b :: _ => do
    let x ← hexDigit? a
    let y ← hexDigit? b
    some (UInt8.ofNat (16 * x + y))
  | _ => none

/-- The bytes that ASCII characters with escapes stand for, the first `skip` characters belonging to
what was read before. -/
def unescapeFrom : Nat → List Char → Bytes
  | _, [] => []
  | k + 1, _ :: cs => unescapeFrom k cs
  | 0, c :: cs =>
    if c = '%' then
      match escape? cs with
      | some b => b :: unescapeFrom 2 cs
      -- the percent sign itself
      | none => 37 :: unescapeFrom 0 cs
    else UInt8.ofNat c.toNat :: unescapeFrom 0 cs

/-- The bytes that ASCII characters with escapes stand for. -/
def unescape (cs : List Char) : Bytes := unescapeFrom 0 cs

/-- The text that a run of ASCII characters stands for. -/
def decodeRun (run : List Char) : List Char := decodeUtf8Lossy (unescape run)

/-- Decode each run of ASCII characters on its own and keep the other characters. The run that is
being read is given in reverse. -/
def decodeRuns : List Char → List Char → List Char
  | run, [] => decodeRun run.reverse
  | run, c :: cs =>
    if c.toNat < 128 then decodeRuns (c :: run) cs
    else decodeRun run.reverse ++ c :: decodeRuns [] cs

/-- The text that a name or a value stands for. -/
def decodeText (cs : List Char) : List Char :=
  -- plus signs go first: one that is escaped stays
  decodeRuns [] (cs.map fun c => if c = '+' then ' ' else c)

/-- The pair that one piece writes. Without an equals sign the value is empty. -/
def decodePair (piece : List Char) : String × String :=
  let (name, value) := cutAt '=' piece
  (String.ofList (decodeText name), String.ofList (decodeText (value.getD [])))

/-- The pairs of a text, in order. Empty pieces are none. -/
def parse (cs : List Char) : List (String × String) :=
  ((splitOn ['&'] cs).filter (!·.isEmpty)).map decodePair

/-- Add a value to those of its name, or begin a new name at the end. -/
def addValue (name value : String) : List (String × List String) → List (String × List String)
  | [] => [(name, [value])]
  | (n, vs) :: rest =>
    if n = name then (n, vs ++ [value]) :: rest else (n, vs) :: addValue name value rest

/-- The values of each name in order, the names in the order of their first appearance. -/
def group (items : List (String × String)) : List (String × List String) :=
  items.foldl (fun groups i => addValue i.1 i.2 groups) []

/-- A name of the form `root[key]`: a root without an opening bracket, and a key without a closing
one, neither of them empty. One line break may follow. -/
def bracketed? (name : String) : Option (String × String) :=
  match cutAt '[' name.toList with
  | (_, none) => none
  | (root, some rest) =>
    match cutAt ']' rest with
    | (_, none) => none
    | (key, some behind) =>
      if root.isEmpty || key.isEmpty then none
      else if behind = [] || behind = ['\n'] then some (String.ofList root, String.ofList key)
      else none

end ParamBinding.Urlencoded
