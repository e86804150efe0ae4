import ParamBinding.Number.ComplexText
import ParamBinding.Number.Uuid
import ParamBinding.Text.Printable
import ParamBinding.Value.Basic

/-!
# Values as texts

The text of a value, as it stands where a text is asked for and a value of another class is given:
a text is itself, and inside a collection it is quoted.
-/

namespace ParamBinding.Value

open ParamBinding.Text

mutual

/-- The text of a value inside a collection. -/
def shown : Value → String
  | .none => "None"
  | .bool b => if b then "True" else "False"
  | .int n => String.ofList (decimalInt n)
  | .float x => FloatText.write x
  | .complex re im => ComplexText.write re im
  | .text s => quoted s
  | .bytes bs => String.ofList (quotedBytes bs)
  | .list xs => "[" ++ ", ".intercalate (shownList xs) ++ "]"
  | .tuple xs => match xs with
    | [x] => "(" ++ shown x ++ ",)"
    | xs => "(" ++ ", ".intercalate (shownList xs) ++ ")"
  | .map es => "\x7b" ++ ", ".intercalate (shownEntries es) ++ "\x7d"
  | .sub _ v => shown v
  | v => v.className

/-- The texts of several values. -/
def shownList : List Value → List String
  | [] => []
  | x :: xs => shown x :: shownList xs

/-- The texts of the entries of a map. -/
def shownEntries : List (Value × Value) → List String
  | [] => []
  | (k, v) :: es => (shown k ++ ": " ++ shown v) :: shownEntries es

end

/-- The text of a value. -/
def asText : Value → String
  | .text s | .sub _ (.text s) => s
  | .uuid n => Uuid.write n
  | .decimal d => String.ofList d.text
  | .dateTime d => String.ofList (d.date.text ++ ' ' :: d.time.text)
  | .date d => String.ofList d.text
  | .time t => String.ofList t.text
  | .duration d => String.ofList d.text
  | v => v.shown

end ParamBinding.Value
