import ParamBinding.Content.Decoder
import ParamBinding.Reader.Primitive
import ParamBinding.Text.Case

/-!
# Sample classes and decoders

A few classes with text forms of their own and a few decoders of documents, of the kind that an
application brings along: a text in capitals, a text in quotes, a version number, a point, and a
class whose reader fails in every way there is.
-/

namespace ParamBinding.Sample

open ParamBinding.Text

/-- The name of a sample class. -/
def cls (name : String) : ClassName := ⟨"m", name⟩

/-- A number of one or more ASCII digits. -/
def digits? (s : String) : Option Nat :=
  let cs := s.toList
  if cs.isEmpty then none else (cs.mapM asciiDigit?).map (ofDigits 10)

/-- Two numbers with a separator between them. -/
def pair? (separator : Char) (s : String) : Option (Nat × Nat) := do
  let (left, right) := cut separator s
  let x ← digits? left
  let y ← digits? right
  some (x, y)

/-- A text, kept in capitals. -/
def capitals : TextReader where
  read s := .ok (.object "Upper" (.text (upper s)))
  accept v := .error (noMethod v "upper")

/-- A text between tildes. -/
def tildes : TextReader where
  read s := .ok (.sub "Tilde" (.text ("~" ++ s ++ "~")))
  accept v := .error (.raised .type
    ("can only concatenate str (not \"" ++ v.className ++ "\") to str"))

/-- A text that starts with `ok`. Two other texts fail as if they were faults of the request. -/
def picky : TextReader where
  read s :=
    if s = "unknown" then .error (.unknownParameter "unknown" false)
    else if s = "decode" then .error (.rejected (.stated "picky decode")
      { source := some "s", parameter := some "p", field := some "f" })
    else if s.startsWith "ok" then .ok (.object "Picky" (.text s))
    else .error (.raised .value ("not ok: " ++ s))
  accept v := .error (noMethod v "startswith")

/-- The record of a version. -/
def versionRecord (major minor : Nat) : Value :=
  .model ⟨"Version", false, [("major", some (.int major)), ("minor", some (.int minor))]⟩

/-- A version number `major.minor`. -/
def version : TextReader where
  read s := match pair? '.' s with
    | some (x, y) => .ok (versionRecord x y)
    | none => .error (.raised .value ("bad version " ++ s))
  accept v := .error (noMethod v "partition")

/-- A point `x:y`. -/
def point : TextReader where
  read s := match pair? ':' s with
    | some (x, y) => .ok (.object "Point" (.list [.int x, .int y]))
    | none => .error (.raised .value ("bad point " ++ s))
  accept v := .error (noMethod v "partition")

/-- The length of a text. -/
def length : TextReader where
  read s := .ok (.int s.length)
  accept v := match v with
    | .list xs => .ok (.int xs.length)
    | .map es => .ok (.int es.length)
    | _ => .error (.raised .type ("object of type '" ++ v.className ++ "' has no len()"))

/-- The model of version numbers. -/
def versionType : Ty :=
  .model { cls := cls "Version", reader := some version } [
    { name := "major", type := .scalar { kind := .int }, initial := some (.int 0) },
    { name := "minor", type := .scalar { kind := .int }, initial := some (.int 0) }]

/-- A subclass of a primitive class, perhaps with a reader of its own. -/
def subclass (name : String) (kind : Primitive) (reader : Option TextReader) : Ty :=
  .scalar { kind, subclass := some (cls name), reader }

/-- The sample classes by their names. -/
def types : List (String × Ty) := [
  ("Upper", .plain (cls "Upper") (some capitals)),
  ("Tilde", subclass "Tilde" .text (some tildes)),
  ("Picky", .plain (cls "Picky") (some picky)),
  ("Version", versionType),
  ("Name", subclass "Name" .text none),
  ("MyInt", subclass "MyInt" .int none),
  ("MyFloat", subclass "MyFloat" .float none),
  ("MyComplex", subclass "MyComplex" .complex none),
  ("MyBytes", subclass "MyBytes" .bytes none),
  ("Point", .plain (cls "Point") none),
  ("Plain", .plain (cls "Plain") none)]

/-- The sample readers that can be registered for a class, by their names. -/
def readers : List (String × TextReader) := [("colon", point), ("length", length)]

/-- A decoder that reads a text and puts it in capitals, whatever the type. -/
def upperDecoder : Decoder where
  name := "upper"
  decode bs _ := match decodeUtf8 bs with
    | .ok s => .ok (.text (upper s))
    | .error e => .error (.notUtf8 e)

/-- A decoder that always fails. -/
def failDecoder : Decoder where
  name := "fail"
  decode _ _ := .error (.raised .runtime "boom")

/-- A decoder that always gives the same number. -/
def constDecoder : Decoder where
  name := "const"
  decode _ _ := .ok (.int 7)

/-- The sample decoders. -/
def decoders : List Decoder := [upperDecoder, failDecoder, constDecoder]

end ParamBinding.Sample
