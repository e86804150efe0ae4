import ParamBinding.Tag.Basic
import ParamBinding.Text.Blank

/-!
# Reading tags

`Tag.read` reads a tag from left to right and reports the first problem. Problems of single options
come before those of the tag as a whole.
-/

namespace ParamBinding

open ParamBinding.Text

/-- The boolean that a word stands for. -/
def readBool? (s : String) : Option Bool :=
  if ["1", "t", "T", "TRUE", "true", "True"].contains s then some true
  else if ["0", "f", "F", "FALSE", "false", "False"].contains s then some false
  else none

namespace Tag

/-- The delimiter that a word stands for: three have names, any other text stands for itself. -/
def delimiterOf (s : String) : String :=
  if s = "comma" then "," else if s = "pipe" then "|" else if s = "space" then " " else s

/-- The value of an option, with `raw` the text behind its equals sign if there is one. -/
def readSetting (name : String) (raw : Option String) : Key → Except Problem Setting
  | .flag f =>
    match raw with
    | none => .ok (.flag f true)
    | some r =>
      match readBool? r with
      | some b => .ok (.flag f b)
      | none => .error (.notBoolean name r)
  | .text t =>
    match raw with
    | none => .error (.valueMissing name)
    | some r => .ok (.text t r)

/-- One option, given those that were read before it. -/
def readOption (seen : List Setting) (part : List Char) : Except Problem Setting :=
  if part.isEmpty then .error .emptyOption
  else
    let (before, behind) := cutAt '=' part
    let name := String.ofList before
    match Key.ofName? name with
    | none => .error (.unknownOption name)
    | some key =>
      if seen.any (·.key = key) then .error (.givenTwice name)
      else readSetting name (behind.map String.ofList) key

/-- All options, from left to right. -/
def readOptions : List Setting → List (List Char) → Except Problem (List Setting)
  | seen, [] => .ok seen
  | seen, part :: parts => do
    let s ← readOption seen part
    readOptions (seen ++ [s]) parts

/-- The value that a list of settings gives to a flag. -/
def flag? (settings : List Setting) (f : Flag) : Option Bool :=
  settings.findSome? fun
    | .flag g b => if g = f then some b else none
    | _ => none

/-- The value that a list of settings gives to a text option. -/
def text? (settings : List Setting) (t : TextOption) : Option String :=
  settings.findSome? fun
    | .text u s => if u = t then some s else none
    | _ => none

/-- The flags that only query parameters have, in the order in which they are checked. -/
def queryFlags : List Flag := [.allowReserved, .form, .formOnly, .deepObject]

/-- Whether a flag is given and on. -/
def isOn (settings : List Setting) (f : Flag) : Bool := (flag? settings f).getD false

/-- The problem of the settings of a top level tag as a whole. -/
def topLevelProblem? (base : String) (settings : List Setting) : Option Problem :=
  if (base = "model" || base = "-") && !settings.isEmpty then some (.takesNoOptions base)
  else if base ≠ "query" then (queryFlags.find? (isOn settings)).map .onlyForQuery
  else none

/-- The problem of settings as a whole. -/
def problem? (nested : Bool) (base : String) (settings : List Setting) : Option Problem :=
  if text? settings .delimiter = some "" then some .emptyDelimiter
  else
    match if nested then none else topLevelProblem? base settings with
    | some p => some p
    | none =>
      if isOn settings .form && isOn settings .formOnly then some .formAndFormOnly else none

/-- The tag with a base and settings. Lists of top level query and header parameters repeat the
parameter unless the tag says otherwise. -/
def ofSettings (nested : Bool) (base : String) (settings : List Setting) : Tag where
  base := base
  name := (text? settings .name).getD ""
  explode := (flag? settings .explode).getD (!nested && (base = "query" || base = "header"))
  delimiter := ((text? settings .delimiter).map delimiterOf).getD ","
  allowReserved := isOn settings .allowReserved
  form := isOn settings .form
  formOnly := isOn settings .formOnly
  content := (text? settings .content).getD ""
  deepObject := isOn settings .deepObject

/-- The tag that a text writes, at top level or in a nested model. -/
def read (nested : Bool) (s : String) : Except Problem Tag :=
  let parts := splitOn [','] s.toList
  let base := String.ofList (trim isBlank (parts.headD []))
  -- in a nested model the base is the key of the field, so it may be anything
  if !nested && !bases.contains base then .error (.unknownBase base)
  else do
    let settings ← readOptions [] parts.tail
    match problem? nested base settings with
    | some p => .error p
    | none => .ok (ofSettings nested base settings)

end Tag

end ParamBinding
