import TypeProjection.Text.Quoted

/-!
Text in bytes. A text has one encoding; bytes that are none are refused at the first sequence that
goes wrong, with its place and length. A surrogate has no encoding, but one may be let pass.
-/

namespace TypeProjection.Text

/-- Why a sequence of bytes writes no character. -/
inductive Undecodable where
  | badStart (byte : UInt8) (position : Nat)
  /-- The first `length` bytes fit and the next one does not. -/
  | badContinuation (byte : UInt8) (position length : Nat)
  /-- The bytes end within a sequence, of which `length` bytes are there. -/
  | truncated (byte : UInt8) (position length : Nat)
  deriving DecidableEq, Repr

namespace Undecodable

/-- Two hexadecimal digits. -/
def hexByte (b : UInt8) : String :=
  let digit (n : Nat) : Char := Char.ofNat (if n < 10 then 48 + n else 87 + n)
  String.ofList [digit (b.toNat / 16), digit (b.toNat % 16)]

/-- Where a sequence goes wrong: one byte is shown, several are counted. -/
def place (byte : UInt8) (position length : Nat) : String :=
  if length == 1 then "byte 0x" ++ hexByte byte ++ " in position " ++ toString position
  else "bytes in position " ++ toString position ++ "-" ++ toString (position + length - 1)

/-- The wording of a refusal. -/
def message : Undecodable → String
  | badStart byte position =>
    "'utf-8' codec can't decode " ++ place byte position 1 ++ ": invalid start byte"
  | badContinuation byte position length =>
    "'utf-8' codec can't decode " ++ place byte position length ++ ": invalid continuation byte"
  | truncated byte position length =>
    "'utf-8' codec can't decode " ++ place byte position length ++ ": unexpected end of data"

end Undecodable

/-- Does a byte continue a sequence? -/
def isContinuation (b : UInt8) : Bool := 128 ≤ b && b < 192

/-- May `b` follow a first byte `a` of three? Shorter forms and surrogates are left out. -/
def fitsThree (a b : UInt8) : Bool :=
  isContinuation b && (a != 224 || 160 ≤ b) && (a != 237 || b < 160)

/-- May `b` follow a first byte `a` of four? Shorter forms and codes past the last are left out. -/
def fitsFour (a b : UInt8) : Bool :=
  isContinuation b && (a != 240 || 144 ≤ b) && (a != 244 || b < 144)

/-- The part of a code that a continuation byte carries. -/
def payload (b : UInt8) : Nat := b.toNat % 64

/-- Reads characters from a position, given the ones before in reverse. -/
def decodeFrom : Nat → List Char → List UInt8 → Except Undecodable (List Char)
  | _, done, [] => .ok done.reverse
  | n, done, a :: rest =>
    if a < 128 then decodeFrom (n + 1) (Char.ofNat a.toNat :: done) rest
    else if a < 194 then .error (.badStart a n)
    else if a < 224 then
      match rest with
      | [] => .error (.truncated a n 1)
      | b :: rest =>
        if isContinuation b then
          decodeFrom (n + 2) (Char.ofNat (a.toNat % 32 * 64 + payload b) :: done) rest
        else .error (.badContinuation a n 1)
    else if a < 240 then
      match rest with
      | [] => .error (.truncated a n 1)
      | [b] =>
        if fitsThree a b then .error (.truncated a n 2) else .error (.badContinuation a n 1)
      | b :: c :: rest =>
        if !fitsThree a b then .error (.badContinuation a n 1)
        else if !isContinuation c then .error (.badContinuation a n 2)
        else
          decodeFrom (n + 3)
            (Char.ofNat (a.toNat % 16 * 4096 + payload b * 64 + payload c) :: done) rest
    else if a < 245 then
      match rest with
      | [] => .error (.truncated a n 1)
      | [b] => if fitsFour a b then .error (.truncated a n 2) else .error (.badContinuation a n 1)
      | [b, c] =>
        if !fitsFour a b then .error (.badContinuation a n 1)
        else if isContinuation c then .error (.truncated a n 3)
        else .error (.badContinuation a n 2)
      | b :: c :: d :: rest =>
        if !fitsFour a b then .error (.badContinuation a n 1)
        else if !isContinuation c then .error (.badContinuation a n 2)
        else if !isContinuation d then .error (.badContinuation a n 3)
        else
          decodeFrom (n + 4)
            (Char.ofNat (a.toNat % 8 * 262144 + payload b * 4096 + payload c * 64 + payload d) ::
              done) rest
    else .error (.badStart a n)

/-- The text that bytes write. -/
def decode (bytes : List UInt8) : Except Undecodable (List Char) := decodeFrom 0 [] bytes

/-- Do three bytes write a surrogate, if one is let pass? -/
def writesSurrogate (a b c : UInt8) : Bool := a == 237 && 160 ≤ b && isContinuation b && isContinuation c

/-- What is said of bytes that end at a surrogate. -/
def Undecodable.beforeMore : Undecodable → Undecodable
  | truncated byte position length => badContinuation byte position length
  | u => u

/-- The code points that bytes from a position on write, surrogates among them; `run` are the bytes
from there that have been seen already, reversed. -/
def decodePassing : Nat → List UInt8 → List UInt8 → Except Undecodable (List Point)
  | n, run, a :: b :: c :: rest =>
    if writesSurrogate a b c then
      match decodeFrom n [] run.reverse with
      | .error u => .error u.beforeMore
      | .ok cs => do
        let p := Point.ofCode (a.toNat % 16 * 4096 + payload b * 64 + payload c)
        return cs.map .char ++ p :: (← decodePassing (n + run.length + 3) [] rest)
    else decodePassing n (a :: run) (b :: c :: rest)
  | n, run, bs => do return (← decodeFrom n [] (run.reverse ++ bs)).map .char

/-- The code points that bytes write; surrogates are let pass if asked to. -/
def decodePoints (pass : Bool) (bytes : List UInt8) : Except Undecodable (List Point) :=
  if pass then decodePassing 0 [] bytes else do return (← decode bytes).map .char

/-- What is said of code points that cannot be written, because of the surrogates among them. -/
def unencodableMessage (ps : List Point) : String :=
  let (first, count) := surrogateRun ps
  let place :=
    if count == 1 then
      let code := ((ps[first]?).map Point.code).getD 0
      "character '\\u" ++ String.ofList (hexDigits 4 code) ++ "' in position " ++ toString first
    else "characters in position " ++ toString first ++ "-" ++ toString (first + count - 1)
  "'utf-8' codec can't encode " ++ place ++ ": surrogates not allowed"

/-- The bytes that write a text. -/
def encode (s : String) : List UInt8 := s.toUTF8.toList

end TypeProjection.Text
