import ParamBinding.Text.Split

/-!
# Encodings with one byte for each character

An encoding has a name and further names that mean the same. What its bytes mean is a page of
characters, or the reason why documents cannot use it.
-/

namespace ParamBinding.Xml

/-- What the bytes of an encoding mean. -/
inductive Meaning where
  /-- Bytes before `start` are the characters with their numbers. The others are the characters of
  the rows, where the replacement character stands for no character; there are none behind them. -/
  | page (start : Nat) (rows : List String)
  /-- Bytes that markup is written with are other characters. -/
  | foreign
  /-- Some characters take several bytes. -/
  | wide
  /-- Bytes mean no characters at all. -/
  | notText
  /-- Bytes that mean nothing cannot be passed over. -/
  | strict
  /-- Bytes beyond ASCII cannot be passed over. -/
  | asciiOnly
  /-- No bytes mean anything. -/
  | undefined

/-- An encoding. -/
structure Encoding where
  name : String
  aliases : List String
  meaning : Meaning

/-- The characters of the bytes of a page, from its first row on. -/
def pageChars (rows : List String) : Array Char := (rows.flatMap String.toList).toArray

/-- The character of a byte on a page whose rows hold the given characters. -/
def pageChar? (start : Nat) (chars : Array Char) (b : UInt8) : Option Char :=
  if b.toNat < start then some (Char.ofNat b.toNat)
  else match chars[b.toNat - start]? with
    | some c => if c = '\ufffd' then none else some c
    | none => none

end ParamBinding.Xml
