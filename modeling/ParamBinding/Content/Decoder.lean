import ParamBinding.Content.Fit.Document
import ParamBinding.Content.Json
import ParamBinding.Content.Xml.Reader
import ParamBinding.Content.Yaml.Reader

/-!
# Decoders of documents

A decoder reads a document and fits its value to a type. Whether a type has documents at all is
found out before a JSON or YAML document is read, but after an XML document is.
-/

namespace ParamBinding

/-- A decoder of documents into values of a type. -/
structure Decoder where
  name : String
  decode : Bytes → Ty → Except Fault Value

namespace Decoder

/-- There have to be documents for a type. -/
def checkType (t : Ty) : Except Fault Unit :=
  match t.schemaFault? with
  | none => .ok ()
  | some f => .error f

/-- JSON documents. -/
def json : Decoder where
  name := "json"
  decode bs t := do
    checkType t
    match Json.read? bs with
    | none => .error .misfit
    | some v => t.ofDocument .json v

/-- The fault of an XML document that cannot be read. -/
def xmlFault : Xml.Problem → Fault
  | .malformed => .malformedXml
  | .unknown name => .raised .lookup ("unknown encoding: " ++ name)
  | .multiByte => .raised .value "multi-byte encodings are not supported"
  | .notText name => .raised .lookup
      ("'" ++ name ++ "' is not a text encoding; use codecs.decode() to handle arbitrary codecs")
  | .failing name reason => .raised .unicode
      ("decoding with '" ++ name ++ "' codec failed (UnicodeError: " ++ reason ++ ")")
  | .asciiOnly => .raised .unicodeDecode
      "'ascii' codec can't decode byte 0x80 in position 82: ordinal not in range(128)"

/-- XML documents. -/
def xml : Decoder where
  name := "xml"
  decode bs t := do
    let root ← (Xml.read bs).mapError xmlFault
    checkType t
    t.ofDocument .plain root.toValue

/-- The fault of a YAML document that has no value. -/
def yamlFault : Yaml.Problem → Fault
  | .malformed => .malformedYaml
  | .escape code =>
    if code < 0x110000 then .misfit
    else if code < Nat.pow 2 31 then .raised .value "chr() arg not in range(0x110000)"
    else .raised .overflow "Python int too large to convert to C int"
  | .notBoolean word => .raised .key (Text.quoted word)
  | .emptyNumber => .raised .index "string index out of range"
  | .notInteger base text => .raised .value (IntText.notNumeral base text)
  | .tooManyDigits n => .tooManyDigits n
  | .notFloat text => .notFloat text
  | .beyondFloat => .raised .overflow "int too large to convert to float"
  | .notText => .raised .type "expected string or bytes-like object, got 'list'"
  | .notTimestamp => .raised .attribute "'NoneType' object has no attribute 'groupdict'"
  | .calendar p => .raised .value p.message

/-- YAML documents. -/
def yaml : Decoder where
  name := "yaml"
  decode bs t := do
    checkType t
    let v ← (Yaml.read bs).mapError yamlFault
    t.ofDocument .plain v

/-- The decoders that fields may name without any registration. -/
def builtin : List (String × Decoder) :=
  [("application/json", json), ("application/xml", xml), ("application/yaml", yaml),
    ("text/yaml", yaml)]

end Decoder

end ParamBinding
