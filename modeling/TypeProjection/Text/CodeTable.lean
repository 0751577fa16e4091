import Std.Data.HashMap

/-!
Tables from one code point to several, written as text: entries `a=b+c` in hexadecimal, with
blanks between two entries.
-/

namespace TypeProjection.Text

/-- The value of a hexadecimal digit, zero for any other character. -/
def hexValue (c : Char) : Nat :=
  if c.isDigit then c.toNat - '0'.toNat
  else if 'a' ≤ c && c ≤ 'f' then c.toNat - 'a'.toNat + 10
  else if 'A' ≤ c && c ≤ 'F' then c.toNat - 'A'.toNat + 10
  else 0

/-- What has been read of the current entry: its key, the finished values in reverse, and the
number being read. -/
structure EntryReader where
  key : Option Nat
  values : List Nat
  number : Nat

/-- The entries of a written table, added to `table`. -/
def readEntries : List Char → EntryReader → Std.HashMap Nat (List Nat) →
    Std.HashMap Nat (List Nat)
  | [], r, table =>
    match r.key with
    | some k => table.insert k (r.number :: r.values).reverse
    | none => table
  | c :: rest, r, table =>
    if c == '=' then readEntries rest ⟨some r.number, [], 0⟩ table
    else if c == '+' then readEntries rest ⟨r.key, r.number :: r.values, 0⟩ table
    else if c == ' ' || c == '\n' then
      match r.key with
      | some k => readEntries rest ⟨none, [], 0⟩ (table.insert k (r.number :: r.values).reverse)
      | none => readEntries rest ⟨none, [], 0⟩ table
    else readEntries rest { r with number := r.number * 16 + hexValue c } table

/-- The table that a text writes down. -/
def codeTable (written : String) : Std.HashMap Nat (List Nat) :=
  readEntries written.toList ⟨none, [], 0⟩ ∅

end TypeProjection.Text
