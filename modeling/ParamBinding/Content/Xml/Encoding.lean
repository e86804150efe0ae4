import ParamBinding.Content.Xml.Codepage.Named
import ParamBinding.Content.Xml.Name
import ParamBinding.Text.Split
import ParamBinding.Text.Utf8

/-!
# Encodings of documents

A document starts with a declaration, or without one, in a form of ASCII or of UTF-16. The
declaration may name the encoding of the rest. Line breaks become `\n`, whatever they are in the
document.
-/

namespace ParamBinding.Xml

open ParamBinding.Text

/-- Why a document has no characters. -/
inductive EncodingProblem where
  | malformed
  | unknown (name : String)
  | multiByte
  /-- The name is that of an encoding, but not of texts. -/
  | notText (name : String)
  /-- The encoding fails on bytes that mean nothing. -/
  | failing (name reason : String)
  /-- The encoding fails on bytes beyond ASCII. -/
  | asciiOnly
  deriving DecidableEq, Repr

/-- What the declaration of a document says. -/
structure Prologue where
  encoding : Option String := none
  standalone : Bool := false

/-! ### The declaration -/

/-- A pseudo attribute at the start of a text, and what follows it; none at the end. -/
def pseudoAttribute? (cs : List Char) :
    Option (Option (List Char × List Char) × List Char) :=
  let rest := cs.dropWhile isSpace
  if rest.isEmpty then some (none, [])
  else if rest.length = cs.length then none
  else
    let (before, behind) := cutAt '=' rest
    let name := before.reverse.dropWhile isSpace |>.reverse
    if name.isEmpty || name.any isSpace then none
    else match behind with
      | none => none
      | some value => match value.dropWhile isSpace with
        | q :: text =>
          if q = '"' || q = '\'' then
            match cutAt q text with
            | (v, some rest') =>
              if v.all fun c => c.isAlphanum || c = '.' || c = '-' || c = '_' then
                some (some (name, v), rest')
              else none
            | _ => none
          else none
        | [] => none

/-- The end of a declaration: whether the document stands alone, if that is said, and nothing
else. -/
def standalone? (item : Option (List Char × List Char)) (rest : List Char) : Option Bool :=
  match item with
  | none => some false
  | some (name, value) =>
    if name = "standalone".toList && rest.all isSpace then
      if value = "yes".toList then some true else if value = "no".toList then some false else none
    else none

/-- What stands between `<?xml` and `?>`: a version, then perhaps an encoding, then perhaps whether
the document stands alone. -/
def prologue? (cs : List Char) : Option Prologue := do
  let (version, rest) ← pseudoAttribute? cs
  let (versionName, _) ← version
  if versionName = "version".toList then
    let (second, rest') ← pseudoAttribute? rest
    match second with
    | none => some {}
    | some (name, value) =>
      if name = "encoding".toList then
        if value.head?.any Char.isAlpha then
          let (third, rest'') ← pseudoAttribute? rest'
          let alone ← standalone? third rest''
          some ⟨some (String.ofList value), alone⟩
        else none
      else do
        let alone ← standalone? second rest'
        some ⟨none, alone⟩
  else none

/-- The declaration at the start of a text and what follows it, if there is one. -/
def splitPrologue (cs : List Char) : Option (Prologue × List Char) :=
  if "<?xml".toList.isPrefixOf cs && (cs[5]?.any fun c => isSpace c || c = '?') then
    match splitOn ['?', '>'] (cs.drop 5) with
    | inside :: rest :: more =>
      (prologue? inside).map fun p => (p, joinWith ['?', '>'] (rest :: more))
    | _ => none
  else some ({}, cs)

/-! ### Characters -/

/-- A text with `\n` for each of its line breaks. -/
def uniformBreaks : Bool → List Char → List Char
  | _, [] => []
  | afterReturn, c :: cs =>
    if c = '\n' then if afterReturn then uniformBreaks false cs else '\n' :: uniformBreaks false cs
    else if c = '\r' then '\n' :: uniformBreaks true cs
    else c :: uniformBreaks false cs

/-- The 16-bit units of a byte string. A last byte alone is left out. -/
def units16 (bigEndian : Bool) : Bytes → List Nat
  | a :: b :: rest =>
    (if bigEndian then a.toNat * 256 + b.toNat else b.toNat * 256 + a.toNat) ::
      units16 bigEndian rest
  | _ => []

/-- The characters that 16-bit units write. The unit behind the first one of a pair counts as the
second one, whatever its high bits are. -/
def ofUnits16? : List Nat → Option (List Char)
  | [] => some []
  | u :: rest =>
    if 0xD800 ≤ u && u < 0xDC00 then
      match rest with
      | v :: rest' =>
        (ofUnits16? rest').map (Char.ofNat (0x10000 + (u - 0xD800) * 0x400 + v % 0x400) :: ·)
      | [] => none
    else if 0xDC00 ≤ u && u < 0xE000 then none
    else (ofUnits16? rest).map (Char.ofNat u :: ·)

/-- What a document's declaration says about its encoding. -/
inductive Named where
  /-- Nothing, or what the document starts with already. -/
  | utf8
  | utf16 (bigEndian : Option Bool)
  /-- One byte for each character. -/
  | page (start : Nat) (chars : Array Char)

/-- The encoding with a name, if documents can use it. -/
def Encoding.named (e : Encoding) (name : String) : Except EncodingProblem Named :=
  match e.meaning with
  | .page start rows => .ok (.page start (pageChars rows))
  | .foreign => .error .malformed
  | .wide => .error .multiByte
  | .notText => .error (.notText name)
  | .strict => .error (.failing name "Unsupported error handling replace")
  | .asciiOnly => .error .asciiOnly
  | .undefined => .error (.failing name "undefined encoding")

/-- The encoding with a name. -/
def Named.ofName (name : Option String) : Except EncodingProblem Named :=
  match name with
  | none => .ok .utf8
  | some n => match String.ofList (n.toList.map Char.toLower) with
    | "utf-8" => .ok .utf8
    | "utf-16" => .ok (.utf16 none)
    | "utf-16be" => .ok (.utf16 (some true))
    | "utf-16le" => .ok (.utf16 (some false))
    | _ => match encodingNamed? n with
      | some e => e.named n
      | none => .error (.unknown n)

/-- The declaration at the start of a document, given by its codes as far as they are ASCII. -/
def declaredEncoding (codes : List Nat) : Except EncodingProblem (Bool × Named) :=
  match splitPrologue (codes.map fun n => if n < 128 then Char.ofNat n else '\x00') with
  | none => .error .malformed
  | some (p, _) => (Named.ofName p.encoding).map fun n => (p.encoding.isSome, n)

/-- The characters of a document in a form of ASCII. -/
def decodeBytes (bs : Bytes) : Except EncodingProblem (List Char) := do
  let (_, encoding) ← declaredEncoding (bs.map UInt8.toNat)
  match encoding with
  | .utf8 => (decodeUtf8List bs).mapError fun _ => .malformed
  | .utf16 _ => .error .malformed
  | .page start chars => match bs.mapM (pageChar? start chars) with
    | some cs => .ok cs
    | none => .error .malformed

/-- The characters of a document in UTF-16. -/
def decodeUnits (bigEndian : Bool) (bs : Bytes) : Except EncodingProblem (List Char) := do
  let units := units16 bigEndian bs
  let (isNamed, encoding) ← declaredEncoding units
  let fits := match encoding with
    | .utf8 => !isNamed
    | .utf16 none => true
    | .utf16 (some big) => big == bigEndian
    | .page _ _ => false
  match fits && bs.length % 2 = 0, ofUnits16? units with
  | true, some cs => .ok cs
  | _, _ => .error .malformed

/-- The characters of a document. -/
def decode (bs : Bytes) : Except EncodingProblem (List Char) :=
  match bs with
  | 0xFE :: 0xFF :: rest => decodeUnits true rest
  | 0xFF :: 0xFE :: rest => decodeUnits false rest
  | 0xEF :: 0xBB :: 0xBF :: rest => decodeBytes rest
  | 0x00 :: 0x3C :: _ => decodeUnits true bs
  | 0x3C :: 0x00 :: _ => decodeUnits false bs
  | _ => decodeBytes bs

end ParamBinding.Xml
