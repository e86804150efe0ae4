import ParamBinding.Number.IntText
import ParamBinding.Text.Split

/-!
# Universally unique identifiers

An identifier is a number of 128 bits, written with 32 hexadecimal digits. The words `urn:` and
`uuid:`, hyphens anywhere and braces around are ignored.
-/

namespace ParamBinding.Uuid

open ParamBinding.Text

/-- Why a text is not an identifier. -/
inductive Problem where
  /-- There are not 32 characters. -/
  | wrongLength
  /-- The characters are not a hexadecimal numeral. -/
  | notNumeral (text : String)
  deriving DecidableEq, Repr

/-- The characters of a text that count. -/
def bare (s : String) : List Char :=
  let unnamed := replace "uuid:" "" (replace "urn:" "" s)
  (trim (fun c => c = '\x7b' || c = '\x7d') unnamed.toList).filter (· ≠ '-')

/-- The identifier that a text writes. -/
def read (s : String) : Except Problem Nat :=
  let cs := bare s
  if cs.length ≠ 32 then .error .wrongLength
  else match IntText.readLenient? 16 cs with
    | some n => .ok n.toNat
    | none => .error (.notNumeral (String.ofList cs))

/-- The text of an identifier: its digits in five groups. -/
def write (n : Nat) : String :=
  let ds := hex 32 n
  let group (first length : Nat) := (ds.drop first).take length
  String.ofList
    (joinWith ['-'] [group 0 8, group 8 4, group 12 4, group 16 4, group 20 12])

end ParamBinding.Uuid
