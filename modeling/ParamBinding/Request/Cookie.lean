import ParamBinding.Text.Blank
import ParamBinding.Text.Digit
import ParamBinding.Text.Split

/-!
# Cookies

A cookie header holds pairs `name=value` between semicolons. A value between double quotes may hold
escapes: a backslash with three octal digits, or in front of any other character but a line break.
-/

namespace ParamBinding.Cookie

open ParamBinding.Text

/-- The value of an octal digit. -/
def octalDigit? (c : Char) : Option Nat :=
  (asciiDigit? c).filter (· < 8)

/-- The character that three octal digits below 400 stand for. -/
def octalChar? (a b c : Char) : Option Char := do
  let x ← (octalDigit? a).filter (· < 4)
  let y ← octalDigit? b
  let z ← octalDigit? c
  some (Char.ofNat (64 * x + 8 * y + z))

/-- The character that an escape stands for and the length of what makes it, given what follows its
backslash. -/
def escape? : List Char → Option (Char × Nat)
  | [] => none
  | a :: rest =>
    -- three octal digits go before a single character
    let octal := match rest with
      | b :: c :: _ => octalChar? a b c
      | _ => none
    match octal with
    | some x => some (x, 3)
    | none => if a = '\n' then none else some (a, 1)

/-- The text that characters with escapes stand for, the first `skip` characters belonging to what
was read before. -/
def unescapeFrom : Nat → List Char → List Char
  | _, [] => []
  | k + 1, _ :: cs => unescapeFrom k cs
  | 0, c :: cs =>
    if c = '\\' then
      match escape? cs with
      | some (x, n) => x :: unescapeFrom n cs
      | none => c :: unescapeFrom 0 cs
    else c :: unescapeFrom 0 cs

/-- The text that characters with escapes stand for. -/
def unescape (cs : List Char) : List Char := unescapeFrom 0 cs

/-- A value without its quotes and escapes. -/
def unquote (cs : List Char) : List Char :=
  match cs with
  | '"' :: rest => if rest.getLast? = some '"' then unescape rest.dropLast else cs
  | _ => cs

/-- The pair that one piece writes. Without an equals sign the name is empty. -/
def decodePair (piece : List Char) : List Char × List Char :=
  match cutAt '=' piece with
  | (value, none) => ([], trim isBlank value)
  | (name, some value) => (trim isBlank name, trim isBlank value)

/-- The cookies of a header. Pieces without any text are none. -/
def parse (header : String) : List (String × String) :=
  (((splitOn [';'] header.toList).map decodePair).filter fun p => !(p.1.isEmpty && p.2.isEmpty)).map
    fun p => (String.ofList p.1, String.ofList (unquote p.2))

/-- The value of a cookie: the last one that is given. -/
def get? (cookies : List (String × String)) (name : String) : Option String :=
  cookies.reverse.lookup name

end ParamBinding.Cookie
