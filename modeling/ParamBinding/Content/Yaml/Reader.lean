import ParamBinding.Content.Yaml.Build
import ParamBinding.Content.Yaml.Parser
import ParamBinding.Content.Yaml.Scanner

/-!
# Documents

From bytes to a value: characters, tokens, a node, its value. A document without any content has no
value, which is a value too.
-/

namespace ParamBinding.Yaml

open ParamBinding.Text

/-- The characters of 16-bit units. -/
def ofUtf16? (bigEndian : Bool) : Bytes → Option (List Char)
  | [] => some []
  | [_] => none
  | a :: b :: rest =>
    let unit (x y : UInt8) : Nat :=
      if bigEndian then x.toNat * 256 + y.toNat else y.toNat * 256 + x.toNat
    let u := unit a b
    if 0xD800 ≤ u && u < 0xDC00 then
      match rest with
      | c :: d :: rest' =>
        let v := unit c d
        if 0xDC00 ≤ v && v < 0xE000 then
          (ofUtf16? bigEndian rest').map
            (Char.ofNat (0x10000 + (u - 0xD800) * 0x400 + (v - 0xDC00)) :: ·)
        else none
      | _ => none
    else if 0xDC00 ≤ u && u < 0xE000 then none
    else (ofUtf16? bigEndian rest).map (Char.ofNat u :: ·)

/-- Whether a document may have a character. -/
def isAllowed (c : Char) : Bool :=
  let n := c.toNat
  c = '\t' || c = '\n' || c = '\r' || (0x20 ≤ n && n ≤ 0x7E) || n = 0x85 ||
    (0xA0 ≤ n && n ≤ 0xFFFD) || 0x10000 ≤ n

/-- The characters of a document: UTF-16 behind a byte order mark, UTF-8 otherwise. -/
def characters? (bs : Bytes) : Option (List Char) :=
  let cs := match bs with
    | 0xFF :: 0xFE :: _ => ofUtf16? false bs
    | 0xFE :: 0xFF :: _ => ofUtf16? true bs
    | _ => (decodeUtf8List bs).toOption
  cs.filter (·.all isAllowed)

/-- The value of a document. -/
def read (bs : Bytes) : Except Problem Value := do
  let cs ← orMalformed (characters? bs)
  match ← parse (tokens cs) with
  | none => .ok .none
  | some n => n.build.result

end ParamBinding.Yaml
