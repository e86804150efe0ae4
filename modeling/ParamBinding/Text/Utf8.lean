import ParamBinding.Text.Digit

/-!
# Texts as bytes

UTF-8 and Latin-1. Decoding UTF-8 either fails at the first ill-formed sequence, saying where and
why, or puts `U+FFFD` for each maximal ill-formed sequence.
-/

namespace ParamBinding

/-- A byte string. -/
abbrev Bytes := List UInt8

namespace Text

/-- The UTF-8 form of a character. -/
def utf8Char (c : Char) : Bytes :=
  let n := c.toNat
  let byte (k : Nat) : UInt8 := UInt8.ofNat k
  if n < 0x80 then [byte n]
  else if n < 0x800 then [byte (0xC0 + n / 64), byte (0x80 + n % 64)]
  else if n < 0x10000 then
    [byte (0xE0 + n / 4096), byte (0x80 + n / 64 % 64), byte (0x80 + n % 64)]
  else
    [byte (0xF0 + n / 262144), byte (0x80 + n / 4096 % 64), byte (0x80 + n / 64 % 64),
      byte (0x80 + n % 64)]

/-- The UTF-8 form of a text. -/
def utf8List (cs : List Char) : Bytes := cs.flatMap utf8Char

/-- The length of the UTF-8 form of a text. -/
def utf8Length (cs : List Char) : Nat := cs.foldl (fun n c => n + c.utf8Size) 0

/-- The UTF-8 form of a string. -/
def utf8 (s : String) : Bytes := utf8List s.toList

/-- Why a sequence of bytes is no UTF-8. -/
inductive Utf8Flaw where
  | startByte
  | continuationByte
  | endOfData
  deriving DecidableEq, Repr

/-- An ill-formed sequence: its first byte, where it stands, how many bytes it has, and what is
wrong with it. -/
structure Utf8Error where
  byte : UInt8
  position : Nat
  length : Nat
  flaw : Utf8Flaw
  deriving DecidableEq, Repr

/-- What stands at the start of a byte string: a character of a certain length, or an ill-formed
sequence of a certain length. -/
inductive Utf8Step where
  | char (c : Char) (length : Nat)
  | flaw (f : Utf8Flaw) (length : Nat)

/-- Whether a byte continues a character. -/
def isContinuation (b : UInt8) : Bool := 0x80 ≤ b && b < 0xC0

/-- Whether `b` may follow the first byte `a` of a character of three or four bytes. -/
def isSecond (a b : UInt8) : Bool :=
  isContinuation b &&
    (if a == 0xE0 then 0xA0 ≤ b else if a == 0xED then b < 0xA0
     else if a == 0xF0 then 0x90 ≤ b else if a == 0xF4 then b < 0x90 else true)

/-- The six low bits of a continuation byte. -/
def lowBits (b : UInt8) : Nat := b.toNat % 64

/-- The first character of a non-empty byte string, or the flaw that is there instead. -/
def utf8Step (a : UInt8) (rest : Bytes) : Utf8Step :=
  if a < 0x80 then .char (Char.ofNat a.toNat) 1
  else if a < 0xC2 || 0xF5 ≤ a then .flaw .startByte 1
  else match rest with
    | [] => .flaw .endOfData 1
    | b :: rest' =>
      if a < 0xE0 then
        if isContinuation b then .char (Char.ofNat (a.toNat % 32 * 64 + lowBits b)) 2
        else .flaw .continuationByte 1
      else if !isSecond a b then .flaw .continuationByte 1
      else match rest' with
        | [] => .flaw .endOfData 2
        | c :: rest'' =>
          if !isContinuation c then .flaw .continuationByte 2
          else if a < 0xF0 then
            .char (Char.ofNat (a.toNat % 16 * 4096 + lowBits b * 64 + lowBits c)) 3
          else match rest'' with
            | [] => .flaw .endOfData 3
            | d :: _ =>
              if isContinuation d then
                .char (Char.ofNat (a.toNat % 8 * 262144 + lowBits b * 4096 + lowBits c * 64 +
                  lowBits d)) 4
              else .flaw .continuationByte 3

/-- Decode UTF-8, the first `skip` bytes belonging to what was read before. -/
def decodeUtf8From (position : Nat) : Nat → Bytes → Except Utf8Error (List Char)
  | _, [] => .ok []
  | k + 1, _ :: bs => decodeUtf8From (position + 1) k bs
  | 0, b :: bs =>
    match utf8Step b bs with
    | .char c n => (decodeUtf8From (position + 1) (n - 1) bs).map (c :: ·)
    | .flaw f n => .error ⟨b, position, n, f⟩

/-- Decode UTF-8, failing at the first flaw. -/
def decodeUtf8List (bs : Bytes) : Except Utf8Error (List Char) := decodeUtf8From 0 0 bs

/-- `decodeUtf8List` on strings. -/
def decodeUtf8 (bs : Bytes) : Except Utf8Error String :=
  (decodeUtf8List bs).map String.ofList

/-- The character that stands for an ill-formed sequence. -/
def replacementChar : Char := Char.ofNat 0xFFFD

/-- Decode UTF-8 with a replacement for each flaw, the first `skip` bytes belonging to what was
read before. -/
def decodeUtf8LossyFrom : Nat → Bytes → List Char
  | _, [] => []
  | k + 1, _ :: bs => decodeUtf8LossyFrom k bs
  | 0, b :: bs =>
    match utf8Step b bs with
    | .char c n => c :: decodeUtf8LossyFrom (n - 1) bs
    | .flaw _ n => replacementChar :: decodeUtf8LossyFrom (n - 1) bs

/-- Decode UTF-8 with a replacement for each flaw. -/
def decodeUtf8Lossy (bs : Bytes) : List Char := decodeUtf8LossyFrom 0 bs

/-- The character of each byte. -/
def latin1 (bs : Bytes) : List Char := bs.map fun b => Char.ofNat b.toNat

/-- The Latin-1 form of a text whose characters are below `U+0100`. -/
def toLatin1? (cs : List Char) : Option Bytes :=
  cs.mapM fun c => if c.toNat < 0x100 then some (UInt8.ofNat c.toNat) else none

namespace Utf8Flaw

/-- The name of a flaw in an error message. -/
def message : Utf8Flaw → String
  | .startByte => "invalid start byte"
  | .continuationByte => "invalid continuation byte"
  | .endOfData => "unexpected end of data"

end Utf8Flaw

namespace Utf8Error

/-- The error message: the byte, or the positions when the sequence is longer. -/
def message (e : Utf8Error) : String :=
  let place := if e.length = 1 then
      s!"byte 0x{String.ofList (hex 2 e.byte.toNat)} in position {e.position}"
    else s!"bytes in position {e.position}-{e.position + e.length - 1}"
  s!"'utf-8' codec can't decode {place}: {e.flaw.message}"

end Utf8Error

end Text

end ParamBinding
