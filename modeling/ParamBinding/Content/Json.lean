import ParamBinding.Number.IntText
import ParamBinding.Value.Equality

/-!
# JSON documents

A document is cut into tokens, and the tokens are put together by a machine with one frame for each
container that is open. Besides the standard grammar the words `NaN`, `Infinity` and `-Infinity` are
numbers. Containers may be nested `maxDepth` deep. An object may repeat a name; the entries are kept
as they come.
-/

namespace ParamBinding.Json

open ParamBinding.Text

/-- How deep containers with something in them may be nested. -/
def maxDepth : Nat := 200

/-- The parts of a document. -/
inductive Token where
  | openArray
  | closeArray
  | openObject
  | closeObject
  | comma
  | colon
  /-- A number, text or word. -/
  | scalar (v : Value)

/-! ### Tokens -/

/-- The blanks between tokens. -/
def isSpace (c : Char) : Bool := c = ' ' || c = '\t' || c = '\n' || c = '\r'

/-- The number that four hexadecimal digits at the start of a text write. -/
def hex4? : List Char → Option Nat
  | a :: b :: c :: d :: _ => ([a, b, c, d].mapM hexDigit?).map (ofDigits 16)
  | _ => none

/-- The character that an escape stands for and the length of what stands behind the backslash.
Characters beyond the basic plane are written as two escapes. -/
def escape? : List Char → Option (Char × Nat)
  | '"' :: _ => some ('"', 1)
  | '\\' :: _ => some ('\\', 1)
  | '/' :: _ => some ('/', 1)
  | 'b' :: _ => some ('\x08', 1)
  | 'f' :: _ => some ('\x0c', 1)
  | 'n' :: _ => some ('\n', 1)
  | 'r' :: _ => some ('\r', 1)
  | 't' :: _ => some ('\t', 1)
  | 'u' :: rest => do
    let n ← hex4? rest
    if n < 0xD800 || 0xDFFF < n then some (Char.ofNat n, 5)
    else if 0xDBFF < n then none
    else match rest.drop 4 with
      | '\\' :: 'u' :: rest' => do
        let m ← hex4? rest'
        if 0xDC00 ≤ m && m ≤ 0xDFFF then
          some (Char.ofNat (0x10000 + (n - 0xD800) * 0x400 + (m - 0xDC00)), 11)
        else none
      | _ => none
  | _ => none

/-- A text up to its closing quote and the length of what is read, the first `skip` characters
belonging to what was read before. -/
def textFrom : Nat → List Char → Option (List Char × Nat)
  | _, [] => none
  | k + 1, _ :: cs => (textFrom k cs).map fun (t, n) => (t, n + 1)
  | 0, c :: cs =>
    if c = '"' then some ([], 1)
    else if c = '\\' then
      match escape? cs with
      | some (x, k) => (textFrom k cs).map fun (t, n) => (x :: t, n + 1)
      | none => none
    else if c.toNat < 0x20 then none
    else (textFrom 0 cs).map fun (t, n) => (c :: t, n + 1)

/-- The digits at the start of a text, if there are any. -/
def digits? (cs : List Char) : Option (List Char) :=
  match cs.takeWhile isAsciiDigit with
  | [] => none
  | ds => some ds

/-- The digits of a whole number: zero alone, or digits that start with another one. -/
def whole? (cs : List Char) : Option (List Char) :=
  match cs with
  | '0' :: _ => some ['0']
  | _ => digits? cs

/-- The places behind a point and the length of point and places; none without a point. -/
def places? (cs : List Char) : Option (List Char × Nat) :=
  match cs with
  | '.' :: rest => (digits? rest).map fun ds => (ds, ds.length + 1)
  | _ => some ([], 0)

/-- An exponent and its length; zero without the letter `e`. -/
def exponent? (cs : List Char) : Option (Int × Nat) :=
  match cs with
  | c :: rest =>
    if c = 'e' || c = 'E' then
      let (minus, rest') := IntText.splitSign rest
      let sign := rest.length - rest'.length
      (digits? rest').map fun ds =>
        (IntText.signed minus (ofDigits 10 (ds.filterMap asciiDigit?)), ds.length + sign + 1)
    else some (0, 0)
  | [] => some (0, 0)

/-- A number without its sign, and its length. Digits in front of the point are bounded in number,
the sign counting as one of them. -/
def number? (minus : Bool) (cs : List Char) : Option (Value × Nat) := do
  let ds ← whole? cs
  let rest := cs.drop ds.length
  let (ps, n) ← places? rest
  let (e, m) ← exponent? (rest.drop n)
  let value := ofDigits 10 ((ds ++ ps).filterMap asciiDigit?)
  if IntText.maxDigits < ds.length + (if minus then 1 else 0) then none
  else if n = 0 && m = 0 then some (.int (IntText.signed minus value), ds.length)
  else some (.float (.ofDecimal minus value (e - ps.length)), ds.length + n + m)

/-- The words of the grammar. -/
def words : List (List Char × Value) := [
  ("true".toList, .bool true), ("false".toList, .bool false), ("null".toList, .none),
  ("NaN".toList, .float (.nan false)), ("Infinity".toList, .float (.infinity false)),
  ("-Infinity".toList, .float (.infinity true))]

/-- The token at the start of a text that starts with no blank, and its length. -/
def token? (cs : List Char) : Option (Token × Nat) :=
  match cs with
  | [] => none
  | '[' :: _ => some (.openArray, 1)
  | ']' :: _ => some (.closeArray, 1)
  | '{' :: _ => some (.openObject, 1)
  | '}' :: _ => some (.closeObject, 1)
  | ',' :: _ => some (.comma, 1)
  | ':' :: _ => some (.colon, 1)
  | '"' :: rest => (textFrom 0 rest).map fun (t, n) =>
      (.scalar (.text (String.ofList t)), n + 1)
  | c :: rest =>
    match words.find? fun w => w.1.isPrefixOf cs with
    | some (w, v) => some (.scalar v, w.length)
    | none =>
      if c = '-' then (number? true rest).map fun (v, n) => (.scalar v, n + 1)
      else (number? false cs).map fun (v, n) => (.scalar v, n)

/-- The tokens of a text, the first `skip` characters belonging to what was read before. -/
def tokensFrom : Nat → List Char → Option (List Token)
  | _, [] => some []
  | k + 1, _ :: cs => tokensFrom k cs
  | 0, c :: cs =>
    if isSpace c then tokensFrom 0 cs
    else match token? (c :: cs) with
      | some (t, n) => (tokensFrom (n - 1) cs).map (t :: ·)
      | none => none

/-! ### Values -/

/-- A container that is open: what it holds so far, the last element first. -/
inductive Frame where
  | array (xs : List Value)
  | object (entries : List (Value × Value)) (key : Value)

/-- What may come next. -/
inductive Expected where
  | value
  | valueOrClose
  | key
  | keyOrClose
  | colon
  | commaOrClose
  | finished (v : Value)

/-- A document that has been read in part. -/
structure Partial where
  frames : List Frame
  expected : Expected

/-- Put a complete value into the innermost open container. -/
def close (frames : List Frame) (v : Value) : Partial :=
  match frames with
  | [] => ⟨[], .finished v⟩
  | .array xs :: rest => ⟨.array (v :: xs) :: rest, .commaOrClose⟩
  | .object es k :: rest => ⟨.object ((k, v) :: es) .none :: rest, .commaOrClose⟩

/-- Begin a value with a token. -/
def begin (frames : List Frame) (t : Token) : Option Partial :=
  if maxDepth < frames.length then none
  else match t with
    | .scalar v => some (close frames v)
    | .openArray => some ⟨.array [] :: frames, .valueOrClose⟩
    | .openObject => some ⟨.object [] .none :: frames, .keyOrClose⟩
    | _ => none

/-- Begin an entry with a token. -/
def beginEntry (frames : List Frame) (t : Token) : Option Partial :=
  if maxDepth < frames.length then none
  else match frames, t with
    | .object es _ :: rest, .scalar (.text k) => some ⟨.object es (.text k) :: rest, .colon⟩
    | _, _ => none

/-- Close the innermost container with a token. -/
def finish (frames : List Frame) (t : Token) : Option Partial :=
  match frames, t with
  | .array xs :: rest, .closeArray => some (close rest (.list xs.reverse))
  | .object es _ :: rest, .closeObject => some (close rest (.map es.reverse))
  | _, _ => none

/-- Read one more token. -/
def Partial.step (p : Partial) (t : Token) : Option Partial :=
  match p.expected with
  | .value => begin p.frames t
  | .valueOrClose => (finish p.frames t).or (begin p.frames t)
  | .key => beginEntry p.frames t
  | .keyOrClose => (finish p.frames t).or (beginEntry p.frames t)
  | .colon => match t with
    | .colon => some { p with expected := .value }
    | _ => none
  | .commaOrClose => match t, p.frames with
    | .comma, .array _ :: _ => some { p with expected := .value }
    | .comma, _ => some { p with expected := .key }
    | t, _ => finish p.frames t
  | .finished _ => none

/-- The value that tokens write. -/
def ofTokens? (ts : List Token) : Option Value := do
  let p ← ts.foldlM Partial.step ⟨[], .value⟩
  match p.expected with
  | .finished v => some v
  | _ => none

/-- The value that a document in UTF-8 writes. -/
def read? (bs : Bytes) : Option Value :=
  match decodeUtf8List bs with
  | .error _ => none
  | .ok cs => (tokensFrom 0 cs).bind ofTokens?

end ParamBinding.Json
