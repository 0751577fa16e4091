import TypeProjection.Text.Point

/-!
Double-quoted literals in ASCII. Every code point outside the printable ASCII range is escaped, a
character beyond the basic plane as the two halves of its surrogate pair, so a literal reads back as
the text it was written from, if that has no such halves one after another.
-/

namespace TypeProjection.Text

/-- The hexadecimal digit of a number below sixteen. -/
def hexDigit (n : Nat) : Char :=
  if n < 10 then Char.ofNat ('0'.toNat + n) else Char.ofNat ('a'.toNat + (n - 10))

/-- A number as `count` hexadecimal digits, the upper ones dropped. -/
def hexDigits : Nat → Nat → List Char
  | 0, _ => []
  | count + 1, n => hexDigits count (n / 16) ++ [hexDigit (n % 16)]

/-- One unit of sixteen bits as an escape. -/
def unitEscape (n : Nat) : List Char := '\\' :: 'u' :: hexDigits 4 n

/-- The text inside the quotes for one character. -/
def quotedChar (c : Char) : List Char :=
  let n := c.toNat
  if n == 34 then ['\\', '"']
  else if n == 92 then ['\\', '\\']
  else if 32 ≤ n && n ≤ 126 then [c]
  else if n == 10 then ['\\', 'n']
  else if n == 13 then ['\\', 'r']
  else if n == 9 then ['\\', 't']
  else if n == 12 then ['\\', 'f']
  else if n == 8 then ['\\', 'b']
  else if n < 0x10000 then unitEscape n
  else unitEscape (0xd800 + (n - 0x10000) / 0x400) ++ unitEscape (0xdc00 + (n - 0x10000) % 0x400)

/-- The text inside the quotes for one code point. -/
def quotedPoint : Point → List Char
  | .char c => quotedChar c
  | .surrogate s => unitEscape s.code

/-- A text with escapes for the surrogates in it. -/
def escaped (ps : List Point) : String :=
  String.ofList (ps.flatMap fun
    | .char c => [c]
    | .surrogate s => unitEscape s.code)

/-- Code points between double quotes, in ASCII. -/
def quote (ps : List Point) : String := String.ofList ('"' :: ps.flatMap quotedPoint ++ ['"'])

end TypeProjection.Text
