import ParamBinding.Text.Utf8

/-!
# Bytes in base 64

Four characters write three bytes, six bits each. Characters beyond the alphabet do not count.
Padding ends the bytes when it completes a group of four characters that has two of them at least;
padding anywhere else does not count either.
-/

namespace ParamBinding.Base64

/-- The six bits of a character. -/
def sextet? (c : Char) : Option Nat :=
  let n := c.toNat
  if 65 ≤ n && n ≤ 90 then some (n - 65)
  else if 97 ≤ n && n ≤ 122 then some (n - 71)
  else if 48 ≤ n && n ≤ 57 then some (n + 4)
  else if c = '+' then some 62
  else if c = '/' then some 63
  else none

/-- The bytes that two or three characters of a group write. -/
def bytesOf : List Nat → Bytes
  | [a, b] => [UInt8.ofNat (a * 4 + b / 16)]
  | [a, b, c] => [UInt8.ofNat (a * 4 + b / 16), UInt8.ofNat (b % 16 * 16 + c / 4)]
  | _ => []

/-- The bytes of a text behind the characters of a group and some padding. A group may not stay
unfinished. -/
def decodeFrom? : List Nat → Nat → List Char → Option Bytes
  | group, _, [] => if group.isEmpty then some [] else none
  | group, pads, '=' :: cs =>
    if 2 ≤ group.length then
      if 4 ≤ group.length + pads + 1 then some (bytesOf group) else decodeFrom? group (pads + 1) cs
    else decodeFrom? group pads cs
  | group, pads, c :: cs =>
    match sextet? c with
    | none => decodeFrom? group pads cs
    | some n =>
      if group.length = 3 then
        (decodeFrom? [] 0 cs).map fun bs =>
          bytesOf group ++ UInt8.ofNat ((group[2]?).getD 0 % 4 * 64 + n) :: bs
      else decodeFrom? (group ++ [n]) 0 cs

/-- The bytes that a text writes. -/
def decode? (cs : List Char) : Option Bytes :=
  if cs.all (·.toNat < 128) then decodeFrom? [] 0 cs else none

end ParamBinding.Base64
