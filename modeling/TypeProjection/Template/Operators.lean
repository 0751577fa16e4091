import TypeProjection.Template.Syntax
import TypeProjection.Template.Value
import TypeProjection.Text.Blank

/-!
Computing with values. An operation on values that it does not apply to fails with the names of
their classes, and one on something undefined fails with what is undefined.
-/

namespace TypeProjection.Template

/-- A fault about the classes of two operands. -/
def unsupported (symbol : String) (x y : Value) : Fault :=
  .wrongType ("unsupported operand type(s) for " ++ symbol ++ ": '" ++ x.className ++ "' and '" ++
    y.className ++ "'")

/-- The sign that writes an operator, as messages name it. -/
def BinaryOp.symbol : BinaryOp → String
  | .add => "+"
  | .sub => "-"
  | .mul => "*"
  | .div => "/"
  | .floorDiv => "//"
  | .mod => "%"
  | .pow => "** or pow()"

/-- A number as a floating point one. -/
def asFloat : Int ⊕ Binary64 → Binary64
  | .inl n => Binary64.ofInt n
  | .inr x => x

/-- The quotient of two floating point numbers, rounded down to an integer. -/
def floorQuotient (x y : Binary64) : Binary64 :=
  match x.toQuotient?, y.toQuotient? with
  | some (n, d), some (m, e) => Binary64.ofInt (Int.fdiv (n * e) (m * d))
  | _, _ => .nan

/-- A power with a natural exponent. -/
def floatPower (x : Binary64) : Nat → Binary64
  | 0 => Binary64.ofInt 1
  | n + 1 => (floatPower x n).mul x

/-- An operation on two integers. -/
def integerOperation (op : BinaryOp) (n m : Int) : Except Fault Value :=
  match op with
  | .add => .ok (.int (n + m))
  | .sub => .ok (.int (n - m))
  | .mul => .ok (.int (n * m))
  | .div =>
    if m == 0 then .error (.zeroDivisor "division by zero")
    else .ok (.float (Binary64.ofQuotient ((n < 0) != (m < 0) && n != 0) n.natAbs m.natAbs))
  | .floorDiv =>
    if m == 0 then .error (.zeroDivisor "integer division or modulo by zero")
    else .ok (.int (Int.fdiv n m))
  | .mod =>
    if m == 0 then .error (.zeroDivisor "integer modulo by zero")
    else .ok (.int (Int.fmod n m))
  | .pow =>
    if 0 ≤ m then .ok (.int (Int.pow n m.toNat))
    else if n == 0 then
      .error (.zeroDivisor "0.0 cannot be raised to a negative power")
    else .ok (.float ((Binary64.ofInt 1).div (Binary64.ofInt (Int.pow n m.natAbs))))

/-- An operation on two numbers, at least one of which is a floating point number. -/
def floatOperation (op : BinaryOp) (x y : Binary64) : Except Fault Value :=
  match op with
  | .add => .ok (.float (x.add y))
  | .sub => .ok (.float (x.add y.neg))
  | .mul => .ok (.float (x.mul y))
  | .div =>
    if y.isZero then .error (.zeroDivisor "float division by zero") else .ok (.float (x.div y))
  | .floorDiv =>
    if y.isZero then .error (.zeroDivisor "float floor division by zero")
    else .ok (.float (floorQuotient x y))
  | .mod =>
    if y.isZero then .error (.zeroDivisor "float modulo")
    else .ok (.float (x.add ((floorQuotient x y).mul y).neg))
  | .pow =>
    match y.toInt? with
    | some m =>
      if 0 ≤ m then .ok (.float (floatPower x m.toNat))
      else .ok (.float ((Binary64.ofInt 1).div (floatPower x m.natAbs)))
    | none => .ok (.float .nan)

/-- A list of items taken several times. -/
def repeated {α : Type} (n : Int) (items : List α) : List α :=
  (List.replicate n.toNat items).flatten

/-- A sequence taken several times, if the value is a sequence. -/
def times? (n : Int) : Value → Option Value
  | .str ps => some (.str (repeated n ps))
  | .list items => some (.list (repeated n items))
  | .tuple items => some (.tuple (repeated n items))
  | _ => none

/-- Is the value a sequence with joining and repetition? -/
def isSequence : Value → Bool
  | .str _ | .list _ | .tuple _ => true
  | _ => false

/-- The integer that a value counts as. -/
def integer? (v : Value) : Option Int :=
  match v.number? with
  | some (.inl n) => some n
  | _ => none

/-- An operation on values that are not both numbers. -/
def otherOperation (op : BinaryOp) (x y : Value) : Except Fault Value :=
  match op, x, y with
  | .add, .str s, .str t => .ok (.str (s ++ t))
  | .add, .list s, .list t => .ok (.list (s ++ t))
  | .add, .tuple s, .tuple t => .ok (.tuple (s ++ t))
  | .add, x, y =>
    if isSequence x then
      .error (.wrongType ("can only concatenate " ++ x.className ++ " (not \"" ++ y.className ++
        "\") to " ++ x.className))
    else .error (unsupported "+" x y)
  | .mul, x, y =>
    match integer? x, integer? y with
    | _, some n =>
      match times? n x with
      | some v => .ok v
      | none => .error (unsupported "*" x y)
    | some n, _ =>
      match times? n y with
      | some v => .ok v
      | none => .error (unsupported "*" x y)
    | none, none =>
      if isSequence x then
        .error (.wrongType ("can't multiply sequence by non-int of type '" ++ y.className ++ "'"))
      else if isSequence y then
        .error (.wrongType ("can't multiply sequence by non-int of type '" ++ x.className ++ "'"))
      else .error (unsupported "*" x y)
  | op, x, y => .error (unsupported op.symbol x y)

/-- An operation on two values. -/
def operate (op : BinaryOp) (x y : Value) : Except Fault Value :=
  match x, y with
  | .undefined m, _ => .error (.undefined m)
  | _, .undefined m => .error (.undefined m)
  | _, _ =>
    match x.number?, y.number? with
    | some (.inl n), some (.inl m) => integerOperation op n m
    | some n, some m => floatOperation op (asFloat n) (asFloat m)
    | _, _ => otherOperation op x y

/-- A value with the opposite sign, or with its own. -/
def signed (negative : Bool) (v : Value) : Except Fault Value :=
  match v with
  | .undefined m => .error (.undefined m)
  | _ =>
    match v.number? with
    | some (.inl n) => .ok (.int (if negative then -n else n))
    | some (.inr x) => .ok (.float (if negative then x.neg else x))
    | none =>
      .error (.wrongType ("bad operand type for unary " ++ (if negative then "-" else "+") ++
        ": '" ++ v.className ++ "'"))

/-- Does a number come before another? -/
def numberLess : Int ⊕ Binary64 → Int ⊕ Binary64 → Bool
  | .inl n, .inl m => n < m
  | n, m => (asFloat n).less (asFloat m)

/-- A comparison that needs an order, by `<` on the operands in either order. -/
structure OrderTest where
  symbol : String
  swapped : Bool
  orEqual : Bool

/-- Does an order hold between two values? -/
def orderHolds (o : OrderTest) : Nat → Value → Value → Except Fault Bool
  | 0, _, _ => .error .tooDeep
  | fuel + 1, x, y =>
    let refused : Except Fault Bool :=
      .error (.wrongType ("'" ++ o.symbol ++ "' not supported between instances of '" ++
        x.className ++ "' and '" ++ y.className ++ "'"))
    let sequences (xs ys : List Value) : Except Fault Bool :=
      match (xs.zip ys).find? fun p => !p.1.equals p.2 with
      | some (a, b) => orderHolds o fuel a b
      | none =>
        .ok (if o.orEqual && xs.length == ys.length then true
          else if o.swapped then ys.length < xs.length else xs.length < ys.length)
    match x, y with
    | .undefined m, _ => .error (.undefined m)
    | _, .undefined m => .error (.undefined m)
    | .str s, .str t =>
      let (cs, ds) := (s.map Text.Point.code, t.map Text.Point.code)
      .ok ((if o.swapped then decide (ds < cs) else decide (cs < ds)) || (o.orEqual && s == t))
    | .list xs, .list ys => sequences xs ys
    | .tuple xs, .tuple ys => sequences xs ys
    | _, _ =>
      match x.number?, y.number? with
      | some n, some m =>
        .ok ((if o.swapped then numberLess m n else numberLess n m) ||
          (o.orEqual && Literal.sameNumber n m))
      | _, _ => refused

/-- Does an order hold between two values? Sequences are compared to a fixed depth. -/
def ordered (o : OrderTest) (x y : Value) : Except Fault Bool := orderHolds o 100 x y

/-- Is the first value among the items of the second? -/
def isInside (x y : Value) : Except Fault Bool :=
  match y with
  | .str t =>
    match x with
    | .str s => .ok (Text.contains s t)
    | _ =>
      .error (.wrongType ("'in <string>' requires string as left operand, not " ++ x.className))
  | _ =>
    match y.items? with
    | some items => .ok (items.any fun i => x.equals i)
    | none => .error (.wrongType ("argument of type '" ++ y.className ++ "' is not iterable"))

/-- Does a comparison hold? -/
def compared (c : Comparison) (x y : Value) : Except Fault Bool :=
  match c with
  | .eq => .ok (x.equals y)
  | .ne => .ok (!x.equals y)
  | .lt => ordered ⟨"<", false, false⟩ x y
  | .le => ordered ⟨"<=", false, true⟩ x y
  | .gt => ordered ⟨">", true, false⟩ x y
  | .ge => ordered ⟨">=", true, true⟩ x y
  | .inside => isInside x y
  | .outside => (isInside x y).map not

/-- The methods of texts. -/
def textMethods : List String :=
  ["upper", "lower", "strip", "lstrip", "rstrip", "startswith", "endswith", "replace", "split",
    "join"]

/-- An attribute of a value, if it has it. -/
def attribute? (v : Value) (name : String) : Option Value :=
  match v with
  | .record _ _ _ fields => fields.lookup name
  | .str _ => if textMethods.contains name then some (.method v name) else none
  | .dict _ =>
    if name == "items" || name == "keys" || name == "values" then some (.method v name) else none
  | _ => none

/-- The item at a place, counted from the end if the place is negative. -/
def atPlace? {α : Type} (items : List α) (n : Int) : Option α :=
  if 0 ≤ n then items[n.toNat]? else
    if n.natAbs ≤ items.length then items[items.length - n.natAbs]? else none

/-- A bound of a range, brought between two limits. -/
def clampBound (size n : Int) (least most : Int) : Int :=
  let m := if n < 0 then n + size else n
  if m < least then least else if most < m then most else m

/-- The places of a range, one step after another. -/
def placesFrom (start stop step : Int) : Nat → List Nat
  | 0 => []
  | fuel + 1 =>
    if (0 < step && start < stop) || (step < 0 && stop < start) then
      start.toNat :: placesFrom (start + step) stop step fuel
    else []

/-- The items of a range of places. -/
def sliced {α : Type} (items : List α) (start stop step : Option Int) : Except Fault (List α) :=
  let size : Int := items.length
  let step := step.getD 1
  if step == 0 then .error (.wrongValue "slice step cannot be zero")
  else
    let (least, most) := if 0 < step then (0, size) else (-1, size - 1)
    let first := match start with
      | some n => clampBound size n least most
      | none => if 0 < step then least else most
    let last := match stop with
      | some n => clampBound size n least most
      | none => if 0 < step then most else least
    .ok ((placesFrom first last step (items.length + 1)).filterMap fun i => items[i]?)

/-- An attribute of a value, which an entry with that name stands for too. -/
def getAttribute (v : Value) (name : String) : Except Fault Value :=
  match v with
  | .undefined m => .error (.undefined m)
  | _ =>
    match attribute? v name with
    | some found => .ok found
    | none =>
      match v with
      | .dict entries =>
        .ok (((entries.find? fun e => e.1.equals (.ofString name)).map (·.2)).getD
          (v.lacksAttribute (Text.points name)))
      | _ => .ok (v.lacksAttribute (Text.points name))

/-- What stands for an item that a value lacks: an attribute, if the index is a text. -/
def missingItem (v index : Value) : Value :=
  match index with
  | .str name => ((Text.ofPoints? name).bind (attribute? v)).getD (v.lacksAttribute name)
  | _ => .undefined (v.described ++ " has no element " ++ index.display)

/-- The item of a value at an index. -/
def getItem (v index : Value) : Except Fault Value :=
  let sequence (items : List Value) (whole : List Value → Value) : Except Fault Value :=
    match index with
    | .range start stop step => (sliced items start stop step).map whole
    | _ =>
      match integer? index with
      | some n => .ok ((atPlace? items n).getD (missingItem v index))
      | none => .ok (missingItem v index)
  match v with
  | .undefined m => .error (.undefined m)
  | .list items => sequence items .list
  | .tuple items => sequence items .tuple
  | .str ps => sequence (ps.map fun p => .str [p]) fun items => .str (items.flatMap Value.text)
  | .dict entries =>
    match entries.find? fun e => e.1.equals index with
    | some e => .ok e.2
    | none => .ok (missingItem v index)
  | _ => .ok (missingItem v index)

end TypeProjection.Template
