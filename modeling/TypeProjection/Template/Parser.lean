import TypeProjection.Template.Syntax
import TypeProjection.Template.Token

/-!
Reading a template from its tokens. A tag opens a block, whose body is read up to one of the tags
that end it; what the reader knows of the open blocks is only used to say what is missing.
-/

namespace TypeProjection.Template

/-- What a reader knows: the tokens ahead, the open blocks, and the tags that would end each. -/
structure Reading where
  ahead : List Token
  blocks : List String
  endings : List (List String)

/-- Reads from the tokens, or fails. -/
abbrev Read := StateT Reading (Except Fault)

namespace Read

/-- The token that comes next, unless the template ends. A fault is met when it comes next. -/
def peek : Read (Option Token) := do return (← get).ahead.head?

/-- Goes to the next token. -/
def skip : Read Unit := do
  match (← get).ahead with
  | _ :: .fault cause :: _ => throw cause
  | _ :: rest => modify fun r => { r with ahead := rest }
  | [] => return

/-- Takes the next token. -/
def next : Read (Option Token) := do
  let t ← peek
  skip
  return t

/-- The token after the next one. A fault is met there too. -/
def peekSecond : Read (Option Token) := do
  match (← get).ahead with
  | _ :: .fault cause :: _ => throw cause
  | _ :: t :: _ => return some t
  | _ => return none

/-- What comes next, as messages name it. -/
def describeNext : Read String := do
  match ← peek with
  | some t => return t.describe
  | none => return "end of template"

/-- Is the token an operator? -/
def isOp (symbol : String) : Option Token → Bool
  | some (.op s) => s == symbol
  | _ => false

/-- Is the token a word? -/
def isWord (word : String) : Option Token → Bool
  | some (.name s) => s == word
  | _ => false

/-- Does the token end a tag? -/
def isBlockEnd : Option Token → Bool
  | some .blockEnd => true
  | _ => false

/-- Does the token end an output? -/
def isOutputEnd : Option Token → Bool
  | some .outputEnd => true
  | _ => false

/-- Is the token a name? -/
def isName : Option Token → Bool
  | some (.name _) => true
  | _ => false

/-- Fails because something else was expected. -/
def unexpected {α : Type} (expected : String) : Read α := do
  match ← peek with
  | none => throw (.endedBefore expected)
  | some t => throw (.expectedToken expected t.describe)

/-- Takes a token that must come. -/
def expect (is : Option Token → Bool) (expected : String) : Read Unit := do
  if is (← peek) then skip else unexpected expected

/-- Takes an operator that must come. -/
def expectOp (symbol : String) : Read Unit := expect (isOp symbol) symbol

/-- Takes a word that must come. -/
def expectWord (word : String) : Read Unit := expect (isWord word) word

/-- Takes a name that must come. -/
def expectName : Read String := do
  match ← peek with
  | some (.name s) => skip; return s
  | _ => unexpected "name"

/-- Takes a token if it comes, and says whether it did. -/
def takeIf (is : Option Token → Bool) : Read Bool := do
  if is (← peek) then skip; return true
  else return false

/-- Takes an operator if it comes. -/
def takeOp (symbol : String) : Read Bool := takeIf (isOp symbol)

/-- Takes a word if it comes. -/
def takeWord (word : String) : Read Bool := takeIf (isWord word)

/-- The comparison that an operator writes. -/
def comparison? : Option Token → Option Comparison
  | some (.op "==") => some .eq
  | some (.op "!=") => some .ne
  | some (.op "<") => some .lt
  | some (.op "<=") => some .le
  | some (.op ">") => some .gt
  | some (.op ">=") => some .ge
  | _ => none

/-- How a list of expressions is read: what each of them may be. -/
inductive ItemForm where
  | whole | plain | target
  deriving DecidableEq

/-- The kind of an expression, as messages name it. -/
def kindName : Expr → String
  | .none | .bool _ | .int _ | .float _ | .str _ => "const"
  | .name _ => "name"
  | .tuple _ => "tuple"
  | .list _ => "list"
  | .dict _ => "dict"
  | .attribute _ _ => "getattr"
  | .item _ _ => "getitem"
  | .slice _ _ _ => "slice"
  | .call _ _ _ => "call"
  | .filter _ _ _ _ => "filter"
  | .test _ _ _ _ => "test"
  | .binary .add _ _ => "add"
  | .binary .sub _ _ => "sub"
  | .binary .mul _ _ => "mul"
  | .binary .div _ _ => "div"
  | .binary .floorDiv _ _ => "floordiv"
  | .binary .mod _ _ => "mod"
  | .binary .pow _ _ => "pow"
  | .negative _ => "neg"
  | .positive _ => "pos"
  | .concat _ => "concat"
  | .compare _ _ => "compare"
  | .and _ _ => "and"
  | .or _ _ => "or"
  | .not _ => "not"
  | .choose _ _ _ => "condexpr"

mutual

/-- What an expression can bind, if it can. -/
def targetOf? : Expr → Option Target
  | .name n => some (.name n)
  | .tuple items => (targetsOf? items).map .tuple
  | _ => none

/-- What the items of a tuple can bind. -/
def targetsOf? : List Expr → Option (List Target)
  | [] => some []
  | e :: rest => do return (← targetOf? e) :: (← targetsOf? rest)

end

/-- What an expression binds; it must be able to. -/
def asTarget (e : Expr) : Read Target :=
  match targetOf? e with
  | some t => return t
  | none => throw (.unassignable (kindName e))

/-- Takes a name that can be bound. -/
def bindingName : Read String := do
  let n ← expectName
  if ["true", "false", "none", "True", "False", "None"].contains n then
    throw (.unassignable "name")
  else return n

/-- The value of adjacent quoted texts. -/
def adjacentTexts : Nat → Read (List Text.Point)
  | 0 => return []
  | fuel + 1 => do
    match ← peek with
    | some (.string ps) => skip; return ps ++ (← adjacentTexts fuel)
    | _ => return []

/-- Does a list of expressions end here? -/
def atListEnd (extra : List String) : Read Bool := do
  let t ← peek
  return isOutputEnd t || isBlockEnd t || isOp ")" t || extra.any fun w => isWord w t

/-- Reads operands with operators of one level between them, grouped from the left. -/
def leftAssoc (fuel : Nat) (operand : Read Expr)
    (op? : Option Token → Option (Expr → Expr → Expr)) (left : Expr) : Read Expr := do
  match fuel with
  | 0 => throw .tooDeep
  | fuel + 1 =>
    match op? (← peek) with
    | some combine =>
      skip
      leftAssoc fuel operand op? (combine left (← operand))
    | none => return left

/-- Addition and subtraction. -/
def sumOp? : Option Token → Option (Expr → Expr → Expr)
  | some (.op "+") => some (.binary .add)
  | some (.op "-") => some (.binary .sub)
  | _ => none

/-- Multiplication and the divisions. -/
def productOp? : Option Token → Option (Expr → Expr → Expr)
  | some (.op "*") => some (.binary .mul)
  | some (.op "/") => some (.binary .div)
  | some (.op "//") => some (.binary .floorDiv)
  | some (.op "%") => some (.binary .mod)
  | _ => none

/-- Powers. -/
def powerOp? : Option Token → Option (Expr → Expr → Expr)
  | some (.op "**") => some (.binary .pow)
  | _ => none

/-- Conjunctions. -/
def andOp? : Option Token → Option (Expr → Expr → Expr)
  | some (.name "and") => some .and
  | _ => none

/-- Disjunctions. -/
def orOp? : Option Token → Option (Expr → Expr → Expr)
  | some (.name "or") => some .or
  | _ => none

/-- Can the token start the argument of a test? -/
def startsArgument : Option Token → Bool
  | some (.name n) => n != "else" && n != "or" && n != "and"
  | some (.string _) | some (.integer _) | some (.float _) => true
  | some (.op s) => s == "(" || s == "[" || s == "\x7b"
  | _ => false

mutual

/-- Reads an expression; a choice between two only if allowed. -/
def expression (fuel : Nat) (choices : Bool) : Read Expr := do
  match fuel with
  | 0 => throw .tooDeep
  | fuel + 1 =>
    let first ← disjunction fuel
    if choices then choiceRest fuel first else return first

/-- Reads what may follow the first expression of a choice. -/
def choiceRest (fuel : Nat) (yes : Expr) : Read Expr := do
  match fuel with
  | 0 => throw .tooDeep
  | fuel + 1 =>
    if ← takeWord "if" then
      let condition ← disjunction fuel
      let no ← if ← takeWord "else" then (do return some (← expression fuel true)) else pure none
      choiceRest fuel (.choose condition yes no)
    else return yes

/-- Reads a disjunction. -/
def disjunction (fuel : Nat) : Read Expr := do
  match fuel with
  | 0 => throw .tooDeep
  | fuel + 1 => leftAssoc fuel (conjunction fuel) orOp? (← conjunction fuel)

/-- Reads a conjunction. -/
def conjunction (fuel : Nat) : Read Expr := do
  match fuel with
  | 0 => throw .tooDeep
  | fuel + 1 => leftAssoc fuel (negation fuel) andOp? (← negation fuel)

/-- Reads a negation or what may stand in its place. -/
def negation (fuel : Nat) : Read Expr := do
  match fuel with
  | 0 => throw .tooDeep
  | fuel + 1 =>
    if ← takeWord "not" then return .not (← negation fuel)
    else
      let first ← sum fuel
      match ← comparisonRest fuel with
      | [] => return first
      | rest => return .compare first rest

/-- Reads the comparisons after a first operand. -/
def comparisonRest (fuel : Nat) : Read (List (Comparison × Expr)) := do
  match fuel with
  | 0 => throw .tooDeep
  | fuel + 1 =>
    let t ← peek
    match comparison? t with
    | some c =>
      skip
      let operand ← sum fuel
      return (c, operand) :: (← comparisonRest fuel)
    | none =>
      if isWord "in" t then
        skip
        let operand ← sum fuel
        return (.inside, operand) :: (← comparisonRest fuel)
      else if isWord "not" t then
        if isWord "in" (← peekSecond) then
          skip
          skip
          let operand ← sum fuel
          return (.outside, operand) :: (← comparisonRest fuel)
        else return []
      else return []

/-- Reads a sum. -/
def sum (fuel : Nat) : Read Expr := do
  match fuel with
  | 0 => throw .tooDeep
  | fuel + 1 => leftAssoc fuel (concatenation fuel) sumOp? (← concatenation fuel)

/-- Reads texts joined by tildes. -/
def concatenation (fuel : Nat) : Read Expr := do
  match fuel with
  | 0 => throw .tooDeep
  | fuel + 1 =>
    let first ← product fuel
    match ← concatenationRest fuel with
    | [] => return first
    | rest => return .concat (first :: rest)

/-- Reads the operands after tildes. -/
def concatenationRest (fuel : Nat) : Read (List Expr) := do
  match fuel with
  | 0 => throw .tooDeep
  | fuel + 1 =>
    if ← takeOp "~" then
      let operand ← product fuel
      return operand :: (← concatenationRest fuel)
    else return []

/-- Reads a product. -/
def product (fuel : Nat) : Read Expr := do
  match fuel with
  | 0 => throw .tooDeep
  | fuel + 1 => leftAssoc fuel (power fuel) productOp? (← power fuel)

/-- Reads a power. -/
def power (fuel : Nat) : Read Expr := do
  match fuel with
  | 0 => throw .tooDeep
  | fuel + 1 => leftAssoc fuel (unary fuel true) powerOp? (← unary fuel true)

/-- Reads a signed or plain operand with all that may follow it; filters only if allowed. -/
def unary (fuel : Nat) (filters : Bool) : Read Expr := do
  match fuel with
  | 0 => throw .tooDeep
  | fuel + 1 =>
    let operand ←
      if ← takeOp "-" then (do return Expr.negative (← unary fuel false))
      else if ← takeOp "+" then (do return Expr.positive (← unary fuel false))
      else primary fuel
    let operand ← postfixes fuel operand
    if filters then filtersAfter fuel operand else return operand

/-- Reads an operand. -/
def primary (fuel : Nat) : Read Expr := do
  match fuel with
  | 0 => throw .tooDeep
  | fuel + 1 =>
    match ← peek with
    | some (.name n) =>
      skip
      if n == "true" || n == "True" then return .bool true
      else if n == "false" || n == "False" then return .bool false
      else if n == "none" || n == "None" then return .none
      else return .name n
    | some (.string ps) =>
      skip
      return .str (ps ++ (← adjacentTexts (← get).ahead.length))
    | some (.integer n) => skip; return .int n
    | some (.float x) => skip; return .float x
    | some (.op "(") =>
      skip
      let e ← items fuel .whole [] true
      expectOp ")"
      return e
    | some (.op "[") => skip; return .list (← listItems fuel true)
    | some (.op "\x7b") => skip; return .dict (← dictEntries fuel true)
    | _ => throw (.unexpectedToken (← describeNext))

/-- Reads one expression, or a tuple if commas separate several. Only in parentheses may there be
none. -/
def items (fuel : Nat) (form : ItemForm) (extra : List String) (parentheses : Bool) :
    Read Expr := do
  match fuel with
  | 0 => throw .tooDeep
  | fuel + 1 =>
    if ← atListEnd extra then
      if parentheses then return .tuple []
      else throw (.expectedExpression (← describeNext))
    else
      let first ← item fuel form
      if isOp "," (← peek) then return .tuple (first :: (← moreItems fuel form extra))
      else return first

/-- Reads one of a list of expressions. -/
def item (fuel : Nat) (form : ItemForm) : Read Expr := do
  match fuel with
  | 0 => throw .tooDeep
  | fuel + 1 =>
    match form with
    | .whole => expression fuel true
    | .plain => expression fuel false
    | .target => primary fuel

/-- Reads the items after the first. -/
def moreItems (fuel : Nat) (form : ItemForm) (extra : List String) : Read (List Expr) := do
  match fuel with
  | 0 => throw .tooDeep
  | fuel + 1 =>
    expectOp ","
    if ← atListEnd extra then return []
    else
      let e ← item fuel form
      if isOp "," (← peek) then return e :: (← moreItems fuel form extra) else return [e]

/-- Reads the items of a list and its closing bracket. -/
def listItems (fuel : Nat) (first : Bool) : Read (List Expr) := do
  match fuel with
  | 0 => throw .tooDeep
  | fuel + 1 =>
    if ← takeOp "]" then return []
    else
      if !first then expectOp ","
      if ← takeOp "]" then return []
      else
        let e ← expression fuel true
        return e :: (← listItems fuel false)

/-- Reads the entries of a dictionary and its closing brace. -/
def dictEntries (fuel : Nat) (first : Bool) : Read (List (Expr × Expr)) := do
  match fuel with
  | 0 => throw .tooDeep
  | fuel + 1 =>
    if ← takeOp "\x7d" then return []
    else
      if !first then expectOp ","
      if ← takeOp "\x7d" then return []
      else
        let key ← expression fuel true
        expectOp ":"
        let value ← expression fuel true
        return (key, value) :: (← dictEntries fuel false)

/-- Reads attributes, items and calls after an operand. -/
def postfixes (fuel : Nat) (e : Expr) : Read Expr := do
  match fuel with
  | 0 => throw .tooDeep
  | fuel + 1 =>
    let t ← peek
    if isOp "." t then
      skip
      match ← next with
      | some (.name n) => postfixes fuel (.attribute e n)
      | some (.integer n) => postfixes fuel (.item e (.int n))
      | _ => throw .expectedNameOrNumber
    else if isOp "[" t then
      skip
      match ← subscripts fuel true with
      | [index] => postfixes fuel (.item e index)
      | several => postfixes fuel (.item e (.tuple several))
    else if isOp "(" t then
      let (arguments, named) ← callArguments fuel
      postfixes fuel (.call e arguments named)
    else return e

/-- Reads the subscripts up to a closing bracket. -/
def subscripts (fuel : Nat) (first : Bool) : Read (List Expr) := do
  match fuel with
  | 0 => throw .tooDeep
  | fuel + 1 =>
    if ← takeOp "]" then return []
    else
      if !first then expectOp ","
      let e ← subscript fuel
      return e :: (← subscripts fuel false)

/-- Reads one subscript: an expression or a range. -/
def subscript (fuel : Nat) : Read Expr := do
  match fuel with
  | 0 => throw .tooDeep
  | fuel + 1 =>
    if ← takeOp ":" then sliceRest fuel none
    else
      let first ← expression fuel true
      if ← takeOp ":" then sliceRest fuel (some first) else return first

/-- Reads the rest of a range after its first colon. -/
def sliceRest (fuel : Nat) (start : Option Expr) : Read Expr := do
  match fuel with
  | 0 => throw .tooDeep
  | fuel + 1 =>
    let stop ← sliceBound fuel
    let step ← if ← takeOp ":" then sliceBound fuel else pure none
    return .slice start stop step

/-- Reads a bound of a range, if one stands here. -/
def sliceBound (fuel : Nat) : Read (Option Expr) := do
  match fuel with
  | 0 => throw .tooDeep
  | fuel + 1 =>
    let t ← peek
    if isOp ":" t || isOp "]" t || isOp "," t then return none
    else return some (← expression fuel true)

/-- Reads the arguments of a call, with their parentheses. -/
def callArguments (fuel : Nat) : Read (List Expr × List (String × Expr)) := do
  match fuel with
  | 0 => throw .tooDeep
  | fuel + 1 =>
    expectOp "("
    argumentList fuel true [] []

/-- Reads further arguments and the closing parenthesis. Named ones come last. -/
def argumentList (fuel : Nat) (first : Bool) (arguments : List Expr)
    (named : List (String × Expr)) : Read (List Expr × List (String × Expr)) := do
  match fuel with
  | 0 => throw .tooDeep
  | fuel + 1 =>
    if ← takeOp ")" then return (arguments, named)
    else
      if !first then expectOp ","
      if ← takeOp ")" then return (arguments, named)
      else
        match ← peek with
        | some (.name n) =>
          if isOp "=" (← peekSecond) then
            skip
            skip
            let value ← expression fuel true
            argumentList fuel false arguments (named ++ [(n, value)])
          else positional fuel arguments named
        | _ => positional fuel arguments named

/-- Reads an argument without a name and those after it. -/
def positional (fuel : Nat) (arguments : List Expr) (named : List (String × Expr)) :
    Read (List Expr × List (String × Expr)) := do
  match fuel with
  | 0 => throw .tooDeep
  | fuel + 1 =>
    if !named.isEmpty then throw .badArguments
    else
      let value ← expression fuel true
      argumentList fuel false (arguments ++ [value]) named

/-- Reads the filters, tests and calls after an operand. -/
def filtersAfter (fuel : Nat) (e : Expr) : Read Expr := do
  match fuel with
  | 0 => throw .tooDeep
  | fuel + 1 =>
    let t ← peek
    if isOp "|" t then
      skip
      let name ← dottedName fuel
      let (arguments, named) ←
        if isOp "(" (← peek) then callArguments fuel else pure ([], [])
      filtersAfter fuel (.filter e name arguments named)
    else if isWord "is" t then
      skip
      let negated ← takeWord "not"
      let name ← dottedName fuel
      let (arguments, named) ← testArguments fuel
      let tested := Expr.test e name arguments named
      filtersAfter fuel (if negated then .not tested else tested)
    else if isOp "(" t then
      let (arguments, named) ← callArguments fuel
      filtersAfter fuel (.call e arguments named)
    else return e

/-- Reads the arguments of a test: in parentheses, or one operand. -/
def testArguments (fuel : Nat) : Read (List Expr × List (String × Expr)) := do
  match fuel with
  | 0 => throw .tooDeep
  | fuel + 1 =>
    let t ← peek
    if isOp "(" t then callArguments fuel
    else if startsArgument t then
      if isWord "is" t then throw .chainedTests
      else
        let operand ← primary fuel
        return ([← postfixes fuel operand], [])
    else return ([], [])

/-- Reads a name with points in it. -/
def dottedName (fuel : Nat) : Read String := do
  match fuel with
  | 0 => throw .tooDeep
  | fuel + 1 =>
    let n ← expectName
    if ← takeOp "." then return n ++ "." ++ (← dottedName fuel) else return n

end

/-- Fails at a tag that is not known here, or at the end of the template. -/
def unknownTag {α : Type} (tag : Option String) (endings : List (List String)) : Read α := do
  let known := match tag with
    | some t => endings.any fun e => e.contains t
    | none => false
  throw (.unknownTag tag (endings.head?.getD []) known (← get).blocks.head?)

/-- Reads the parameters of a macro and the closing parenthesis. -/
def parameters : Nat → List (String × Option Expr) → Read (List (String × Option Expr))
  | 0, _ => throw .tooDeep
  | fuel + 1, done => do
    if ← takeOp ")" then return done
    else
      if !done.isEmpty then expectOp ","
      let n ← bindingName
      if ← takeOp "=" then
        let value ← expression fuel true
        parameters fuel (done ++ [(n, some value)])
      else if done.any fun p => p.2.isSome then throw .missingDefault
      else parameters fuel (done ++ [(n, none)])

/-- Reads what an assignment binds. -/
def assignmentTarget (fuel : Nat) (extra : List String) : Read Target := do
  asTarget (← items fuel .target extra false)

mutual

/-- Reads the nodes up to one of the ending tags, or up to the end of the template. -/
def nodes (fuel : Nat) (ending : Option (List String)) : Read (List Node) := do
  match fuel with
  | 0 => throw .tooDeep
  | fuel + 1 =>
    match ← peek with
    | none => return []
    | some (.text s) =>
      skip
      return .text s :: (← nodes fuel ending)
    | some .outputBegin =>
      skip
      let e ← items fuel .whole [] false
      expect isOutputEnd "end of print statement"
      return .output e :: (← nodes fuel ending)
    | some .blockBegin =>
      skip
      let t ← peek
      if (ending.getD []).any fun w => isWord w t then return []
      else
        let node ← statement fuel
        expect isBlockEnd "end of statement block"
        return node :: (← nodes fuel ending)
    | some t => throw (.unexpectedToken t.describe)

/-- Reads the body of a block up to one of its ending tags. -/
def body (fuel : Nat) (ending : List String) : Read (List Node) := do
  match fuel with
  | 0 => throw .tooDeep
  | fuel + 1 =>
    let _ ← takeOp ":"
    expect isBlockEnd "end of statement block"
    let outer := (← get).endings
    modify fun r => { r with endings := ending :: r.endings }
    let result ← nodes fuel (some ending)
    modify fun r => { r with endings := outer }
    if (← peek).isNone then unknownTag none (ending :: outer) else return result

/-- Reads the body of a block and its ending tag. -/
def lastBody (fuel : Nat) (ending : List String) : Read (List Node) := do
  match fuel with
  | 0 => throw .tooDeep
  | fuel + 1 =>
    let result ← body fuel ending
    skip
    return result

/-- Reads a tag and its block. -/
def statement (fuel : Nat) : Read Node := do
  match fuel with
  | 0 => throw .tooDeep
  | fuel + 1 =>
    match ← peek with
    | some (.name tag) =>
      if ["for", "if", "set", "macro", "include"].contains tag then
        skip
        let outer := (← get).blocks
        modify fun r => { r with blocks := tag :: r.blocks }
        let node ←
          if tag == "for" then loopStatement fuel
          else if tag == "if" then branchStatement fuel []
          else if tag == "set" then setStatement fuel
          else if tag == "macro" then macroStatement fuel
          else includeStatement fuel
        modify fun r => { r with blocks := outer }
        return node
      else unknownTag (some tag) (← get).endings
    | _ => throw .tagExpected

/-- Reads a loop after its first word. -/
def loopStatement (fuel : Nat) : Read Node := do
  match fuel with
  | 0 => throw .tooDeep
  | fuel + 1 =>
    let target ← assignmentTarget fuel ["in"]
    expectWord "in"
    let range ← items fuel .plain ["recursive"] false
    let test ← if ← takeWord "if" then (do return some (← expression fuel true)) else pure none
    let repeated ← body fuel ["endfor", "else"]
    let last ← next
    let otherwise ← if isWord "endfor" last then pure [] else lastBody fuel ["endfor"]
    return .loop target range test repeated otherwise

/-- Reads a branch after its first word. -/
def branchStatement (fuel : Nat) (cases : List (Expr × List Node)) : Read Node := do
  match fuel with
  | 0 => throw .tooDeep
  | fuel + 1 =>
    let condition ← items fuel .plain [] false
    let taken ← body fuel ["elif", "else", "endif"]
    let cases := cases ++ [(condition, taken)]
    let last ← next
    if isWord "elif" last then branchStatement fuel cases
    else if isWord "else" last then return .branch cases (← lastBody fuel ["endif"])
    else return .branch cases []

/-- Reads an assignment after its first word. -/
def setStatement (fuel : Nat) : Read Node := do
  match fuel with
  | 0 => throw .tooDeep
  | fuel + 1 =>
    let target ← assignmentTarget fuel []
    if ← takeOp "=" then return .assign target (← items fuel .whole [] false)
    else return .capture target (← lastBody fuel ["endset"])

/-- Reads a macro after its first word. -/
def macroStatement (fuel : Nat) : Read Node := do
  match fuel with
  | 0 => throw .tooDeep
  | fuel + 1 =>
    let name ← bindingName
    expectOp "("
    let ps ← parameters fuel []
    return .macroDef name ps (← lastBody fuel ["endmacro"])

/-- Reads an inclusion after its first word. -/
def includeStatement (fuel : Nat) : Read Node := do
  match fuel with
  | 0 => throw .tooDeep
  | fuel + 1 =>
    let name ← expression fuel true
    let ignore ←
      if isWord "ignore" (← peek) then
        if isWord "missing" (← peekSecond) then (do skip; skip; return true) else pure false
      else pure false
    let t ← peek
    if isWord "with" t || isWord "without" t then
      if isWord "context" (← peekSecond) then
        skip
        skip
    return .include_ name ignore

end

end Read

/-- The nodes that some tokens write. -/
def nodesOf (ts : List Token) : Except Fault (List Node) :=
  match ts with
  | .fault cause :: _ => .error cause
  | _ =>
    let fuel := 20 * ts.length + 40
    ((Read.nodes fuel none).run ⟨ts, [], []⟩).map (·.1)

end TypeProjection.Template
