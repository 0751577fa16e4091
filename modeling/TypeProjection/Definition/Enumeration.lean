import TypeProjection.Annotation.Evaluate
import TypeProjection.Definition.Basic
import TypeProjection.Text.Case
import TypeProjection.Text.Utf8

/-!
Enumerations: which value each name gets, and which names are further names of one member. A base
that holds data converts every value to its kind; a value in turn follows from the values before
it; and a name whose value is taken already stands for the member that has it.
-/

namespace TypeProjection.Definition

open Annotation

/-- What the values of an enumeration are converted to. -/
inductive DataKind where
  | anything | integer | text | strictText | float | bytes
  deriving DecidableEq, Repr

/-- How values follow in turn. -/
inductive Numbering where
  | counting | flags | names
  deriving DecidableEq, Repr

/-- The name of a literal's kind. -/
def kindName : Literal → String
  | .none => "NoneType"
  | .bool _ => "bool"
  | .int _ => "int"
  | .float _ => "float"
  | .str _ => "str"
  | .bytes _ => "bytes"
  | .list _ => "list"
  | .tuple _ => "tuple"
  | .other _ => "object"

/-- The digits of a written integer; single underscores may stand between them. -/
def plainDigits : List Char → Option (List Char)
  | [] => some []
  | [c] => if c.isDigit then some [c] else none
  | c :: '_' :: d :: rest =>
    if c.isDigit && d.isDigit then (plainDigits (d :: rest)).map (c :: ·) else none
  | c :: d :: rest => if c.isDigit then (plainDigits (d :: rest)).map (c :: ·) else none

/-- The integer that a text writes. -/
def integerOf? (s : String) : Option Int :=
  let (negative, cs) := match Text.strip s.toList with
    | '-' :: rest => (true, rest)
    | '+' :: rest => (false, rest)
    | cs => (false, cs)
  match plainDigits cs with
  | some (d :: ds) =>
    let n : Int := ((d :: ds).foldl (fun n c => n * 10 + (c.toNat - 48)) 0 : Nat)
    some (if negative then -n else n)
  | _ => none

/-- A floating point number cut to an integer. -/
def truncated (x : Binary64) : Except Fault Int :=
  match x.toQuotient? with
  | some (num, den) => .ok (num.tdiv den)
  | none =>
    if x.equals x then
      .error (.raised (.named "OverflowError") "cannot convert float infinity to integer")
    else .error (.wrongValue "cannot convert float NaN to integer")

/-- A value as an integer. -/
def toInteger (v : Literal) : Except Fault Int :=
  match v with
  | .int n => .ok n
  | .bool b => .ok (if b then 1 else 0)
  | .float x => truncated x
  | .str ps =>
    match (Text.ofPoints? ps).bind integerOf? with
    | some n => .ok n
    | none =>
      .error (.wrongValue ("invalid literal for int() with base 10: " ++ Text.displayPoints ps))
  | .bytes bs =>
    match integerOf? (String.ofList (bs.map Char.ofNat)) with
    | some n => .ok n
    | none =>
      .error (.wrongValue ("invalid literal for int() with base 10: " ++ Text.displayBytes bs))
  | v =>
    .error (.wrongType ("int() argument must be a string, a bytes-like object or a real number, " ++
      "not " ++ Text.display (kindName v)))

/-- A value as a floating point number. -/
def toFloat (v : Literal) : Except Fault Binary64 :=
  match v with
  | .float x => .ok x
  | .int n => .ok (.ofInt n)
  | .bool b => .ok (.ofInt (if b then 1 else 0))
  | .str ps =>
    match (Text.ofPoints? ps).bind fun s => Binary64.ofText? (Text.stripString s) with
    | some x => .ok x
    | none => .error (.wrongValue ("could not convert string to float: " ++ Text.displayPoints ps))
  | v =>
    .error (.wrongType ("float() argument must be a string or a real number, not " ++
      Text.display (kindName v)))

/-- The arguments that a value makes. -/
def argumentsOf : Literal → List Literal
  | .tuple items => items
  | v => [v]

/-- The text that bytes write, by the name of an encoding and of what is done about surrogates. -/
def decoded (bytes : List Nat) (encoding : String) (errors : String) :
    Except Fault (List Text.Point) :=
  let bs := bytes.map UInt8.ofNat
  if encoding != "utf-8" then
    .error (.raised (.named "LookupError") ("unknown encoding: " ++ encoding))
  else if errors == "strict" || errors == "surrogatepass" then
    match Text.decodePoints (errors == "surrogatepass") bs with
    | .ok ps => .ok ps
    | .error u => .error (.notDecodable u.message)
  else .error (.raised (.named "LookupError") ("unknown error handler name " ++ Text.display errors))

/-- The text that several arguments make: bytes, an encoding, and what is done about surrogates. -/
def decodedFrom : List Literal → Except Fault (List Text.Point)
  | [.bytes bs, .str encoding] =>
    decoded bs ((Text.ofPoints? encoding).getD "") "strict"
  | [.bytes bs, .str encoding, .str errors] =>
    decoded bs ((Text.ofPoints? encoding).getD "") ((Text.ofPoints? errors).getD "")
  | .bytes _ :: v :: _ =>
    .error (.wrongType ("str() argument 'encoding' must be str, not " ++ kindName v))
  | .str _ :: _ => .error (.wrongType "decoding str is not supported")
  | v :: _ =>
    .error (.wrongType ("decoding to str: need a bytes-like object, " ++ kindName v ++ " found"))
  | [] => .ok []

/-- A value converted to a kind. -/
def converted (kind : DataKind) (v : Literal) : Except Fault Literal :=
  match kind, argumentsOf v with
  | .anything, _ => .ok v
  | .integer, [] => .ok (.int 0)
  | .integer, [x] => do return .int (← toInteger x)
  | .integer, _ => .error (.wrongType "int() can't convert non-string with explicit base")
  | .text, [] | .strictText, [] => .ok (.str [])
  | .text, [x] => .ok (.str x.text)
  | .strictText, [.str s] => .ok (.str s)
  | .strictText, [x] => .error (.wrongType (x.display ++ " is not a string"))
  | .text, xs | .strictText, xs => do return .str (← decodedFrom xs)
  | .float, [] => .ok (.float (.ofInt 0))
  | .float, [x] => do return .float (← toFloat x)
  | .float, xs =>
    .error (.wrongType ("float expected at most 1 argument, got " ++ toString xs.length))
  | .bytes, [] => .ok (.bytes [])
  | .bytes, [.bytes bs] => .ok (.bytes bs)
  | .bytes, [.int n] => .ok (.bytes (List.replicate n.toNat 0))
  | .bytes, _ => .error (.wrongType "string argument without an encoding")

/-- Does a value come before another? Values of different kinds have no order. -/
def comesBefore? (x y : Literal) : Option Bool :=
  match x.number?, y.number? with
  | some (.inl n), some (.inl m) => some (n < m)
  | some (.inl n), some (.inr b) => some ((Binary64.ofInt n).less b)
  | some (.inr a), some (.inl m) => some (a.less (.ofInt m))
  | some (.inr a), some (.inr b) => some (a.less b)
  | _, _ =>
    match x, y with
    | .str s, .str t => some (decide (s.map Text.Point.code < t.map Text.Point.code))
    | .bytes s, .bytes t => some (decide (s < t))
    | _, _ => none

/-- A value put behind all of a sorted list that are not greater, if they can be compared. -/
def inserted? (v : Literal) : List Literal → Option (List Literal)
  | [] => some [v]
  | x :: xs =>
    match comesBefore? v x with
    | none => none
    | some true => some (v :: x :: xs)
    | some false => (inserted? v xs).map (x :: ·)

/-- Values sorted as far as they can be compared, and whether all could be. -/
def sortedAsFar (done : List Literal) : List Literal → List Literal × Bool
  | [] => (done, true)
  | v :: vs =>
    match inserted? v done with
    | some more => sortedAsFar more vs
    | none => (done ++ v :: vs, false)

/-- How many values after the first go on rising or falling, if they can be compared. -/
def runLength? (falling : Bool) : Literal → List Literal → Option Nat
  | _, [] => some 0
  | v, x :: xs =>
    match comesBefore? x v with
    | none => none
    | some b => if b == falling then (runLength? falling x xs).map (· + 1) else some 0

/-- Values in order, or as far in order as they could be compared: a leading run is taken as it is,
and every later value is put in its place. -/
def arranged (vs : List Literal) : List Literal × Bool :=
  match vs with
  | v :: x :: rest =>
    match comesBefore? x v with
    | none => (vs, false)
    | some falling =>
      match runLength? falling x rest with
      | none => (vs, false)
      | some n =>
        let run := vs.take (n + 2)
        sortedAsFar (if falling then run.reverse else run) (vs.drop (n + 2))
  | _ => (vs, true)

/-- The value after a number. -/
def successor? (v : Literal) : Option Literal :=
  match v.number? with
  | some (.inl n) => some (.int (n + 1))
  | some (.inr x) => some (.float (x.add (.ofInt 1)))
  | none => none

/-- The next value when counting: after the last value if it is the greatest, and otherwise after
the first in order that can be counted. -/
def nextCount (previous : List Literal) : Literal :=
  match previous.getLast? with
  | none => .int 1
  | some last =>
    let (sorted, complete) := arranged previous
    let isGreatest := complete && ((sorted.getLast?).map fun m => m.equals last).getD false
    match if isGreatest then successor? last else none with
    | some v => v
    | none => (sorted.findSome? successor?).getD (.int 1)

/-- The number of binary digits of an integer. -/
def bitLength (n : Int) : Nat := if n == 0 then 0 else n.natAbs.log2 + 1

/-- The greatest of integers. -/
def greatest (n : Int) : List Int → Int
  | [] => n
  | m :: ms => greatest (max n m) ms

/-- The next flag: one that is above all bits of the greatest value. -/
def nextFlag (previous : List Literal) : Except Fault Literal :=
  let integers := previous.mapM fun v =>
    match v.number? with
    | some (.inl n) => some n
    | _ => none
  match integers with
  | some [] => .ok (.int 1)
  | some (n :: ns) => .ok (.int (Nat.pow 2 (bitLength (greatest n ns))))
  | none =>
    .error (.wrongType ("invalid flag value " ++
      ((previous.getLast?).map Literal.display).getD "None"))

/-- The next value in turn. -/
def nextValue (numbering : Numbering) (name : String) (previous : List Literal) :
    Except Fault Literal :=
  match numbering with
  | .counting => .ok (nextCount previous)
  | .flags => nextFlag previous
  | .names => .ok (.str (Text.points (Text.lower name)))

/-- Is the name one of a single underscore at each end, which are kept for later use? -/
def isReserved (name : String) : Bool :=
  let cs := name.toList
  2 < cs.length && cs.head? == some '_' && cs.getLast? == some '_' &&
    cs[1]? != some '_' && cs.reverse[1]? != some '_'

/-- Is the name one of two underscores at each end, which never name members? -/
def isSpecial (name : String) : Bool :=
  let cs := name.toList
  4 < cs.length && cs.take 2 == ['_', '_'] && cs.reverse.take 2 == ['_', '_'] &&
    cs[2]? != some '_' && cs.reverse[2]? != some '_'

/-- Is the name private to the enumeration? -/
def isPrivateTo (owner name : String) : Bool :=
  Text.startsWith name.toList ("_" ++ owner ++ "__").toList &&
    (name.length > owner.length + 3) && !(name.toList.reverse.take 2 == ['_', '_'])

/-- The names of an enumeration with the values they are given. -/
def assignedValues (owner : String) (numbering : Numbering) :
    List (String × Literal) → List Literal → List (String × MemberValue) →
    Except Fault (List (String × Literal))
  | given, _, [] => .ok given
  | given, previous, (written, value) :: rest => do
    let name := privateName owner (Text.normalForm written)
    if isPrivateTo owner name || isSpecial name then
      assignedValues owner numbering given previous rest
    else if isReserved name then
      .error (.wrongValue ("_sunder_ names, such as " ++ Text.display name ++
        ", are reserved for future Enum use"))
    else
      match given.lookup name with
      | some v =>
        .error (.wrongType (Text.display name ++ " already defined as " ++ v.display))
      | none =>
        let v ← match value with
          | .written v => pure v
          | .automatic => nextValue numbering name previous
        assignedValues owner numbering (given ++ [(name, v)]) (previous ++ [v]) rest

/-- Names with their members: a value that is there already belongs to the first member with it. -/
def namedMembers (kind : DataKind) :
    List (String × String × Literal) → List (String × Literal) →
    Except Fault (List (String × String × Literal))
  | done, [] => .ok done
  | done, (name, value) :: rest => do
    let v ← converted kind value
    let entry := match done.find? (fun m => m.2.2.equals v) with
      | some m => (name, m.2)
      | none => (name, name, v)
    namedMembers kind (done ++ [entry]) rest

/-- The base of sets of flags that are integers, and of the other kinds. -/
def dataKinds : List (ClassRef × DataKind) :=
  [(.library "enum" "StrEnum", .strictText), (builtin "int", .integer), (builtin "str", .text),
    (builtin "float", .float), (builtin "bytes", .bytes)]

/-- What the values are converted to behind some bases. -/
def dataKindOf (w : World) (bases : List ClassRef) : DataKind :=
  let all := bases.flatMap w.ancestorsOf
  ((dataKinds.find? fun k => all.contains k.1).map (·.2)).getD .anything

/-- How values follow in turn behind some bases. -/
def numberingOf (w : World) (bases : List ClassRef) : Numbering :=
  let all := bases.flatMap w.ancestorsOf
  if all.contains World.flagRoot then .flags
  else if all.contains (.library "enum" "StrEnum") then .names
  else .counting

/-- Checks that an enumeration can have some bases. -/
def checkEnumBases (w : World) (name : String) (bases : List ClassRef) : Except Fault Unit :=
  let all := bases.flatMap w.ancestorsOf
  match all.find? fun c => w.isEnumeration c && !(w.membersOf c).isEmpty with
  | some c =>
    .error (.wrongType ("<enum " ++ Text.display name ++ "> cannot extend " ++ w.displayClass c))
  | none =>
    if (bases.getLast?.map w.isEnumeration).getD false then .ok ()
    else
      .error (.wrongType ("new enumerations should be created as " ++
        "`EnumName([mixin_type, ...] [data_type,] enum_type)`"))

/-- The members of an enumeration. -/
def enumMembers (w : World) (d : EnumDefinition) (bases : List ClassRef) :
    Except Fault (List (String × String × Literal)) := do
  checkEnumBases w d.name bases
  let values ← assignedValues d.name (numberingOf w bases) [] [] d.members
  if values.any fun v => v.1 == "mro" then
    .error (.wrongValue "invalid enum member name(s) 'mro'")
  else namedMembers (dataKindOf w bases) [] values

end TypeProjection.Definition
