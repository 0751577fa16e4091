import TypeProjection.Template.Filter
import TypeProjection.Template.Syntax

/-!
What must be known before a template runs: the filters and tests that it names, those apart that
stand under a condition. Such a one is only missed when it is reached.
-/

namespace TypeProjection.Template

mutual

/-- The first unknown filter or test that an expression names unconditionally. -/
def Expr.unknown? : Expr → Option Fault
  | .none | .bool _ | .int _ | .float _ | .str _ | .name _ => Option.none
  | .tuple items | .list items | .concat items => unknownIn? items
  | .dict entries => unknownInEntries? entries
  | .attribute of _ | .negative of | .positive of | .not of => of.unknown?
  | .item of index => of.unknown? <|> index.unknown?
  | .slice start stop step =>
    unknownInOption? start <|> unknownInOption? stop <|> unknownInOption? step
  | .call callee arguments named => callee.unknown? <|> unknownIn? arguments <|> unknownNamed? named
  | .filter of name arguments named =>
    if filterNames.contains name then of.unknown? <|> unknownIn? arguments <|> unknownNamed? named
    else some (.unknownFilter name)
  | .test of name arguments named =>
    if testNames.contains name then of.unknown? <|> unknownIn? arguments <|> unknownNamed? named
    else some (.unknownTest name)
  | .binary _ left right | .and left right | .or left right => left.unknown? <|> right.unknown?
  | .compare first rest => first.unknown? <|> unknownCompared? rest
  | .choose _ _ _ => Option.none

/-- The first unknown filter or test of several expressions. -/
def unknownIn? : List Expr → Option Fault
  | [] => none
  | e :: rest => e.unknown? <|> unknownIn? rest

/-- The first unknown filter or test of an expression that may be left out. -/
def unknownInOption? : Option Expr → Option Fault
  | none => none
  | some e => e.unknown?

/-- The first unknown filter or test of the entries of a dictionary. -/
def unknownInEntries? : List (Expr × Expr) → Option Fault
  | [] => none
  | (k, v) :: rest => k.unknown? <|> v.unknown? <|> unknownInEntries? rest

/-- The first unknown filter or test of named arguments. -/
def unknownNamed? : List (String × Expr) → Option Fault
  | [] => none
  | (_, e) :: rest => e.unknown? <|> unknownNamed? rest

/-- The first unknown filter or test of compared operands. -/
def unknownCompared? : List (Comparison × Expr) → Option Fault
  | [] => none
  | (_, e) :: rest => e.unknown? <|> unknownCompared? rest

end

/-- The first unknown filter or test of an expression, unless it stands under a condition. -/
def unknownUnless? (conditional : Bool) (e : Expr) : Option Fault :=
  if conditional then none else e.unknown?

mutual

/-- The first unknown filter or test of a node. -/
def Node.unknown? (conditional : Bool) : Node → Option Fault
  | .text _ => none
  | .output e | .assign _ e | .include_ e _ => unknownUnless? conditional e
  | .loop _ items test body otherwise =>
    unknownInOption? test <|> unknownUnless? conditional items <|> unknownInNodes? false body <|>
      unknownInNodes? false otherwise
  | .branch cases otherwise => unknownInCases? cases <|> unknownInNodes? true otherwise
  | .capture _ body => unknownInNodes? false body
  | .macroDef _ parameters body =>
    parameters.findSome? (fun p => unknownInOption? p.2) <|> unknownInNodes? false body

/-- The first unknown filter or test of several nodes. -/
def unknownInNodes? (conditional : Bool) : List Node → Option Fault
  | [] => none
  | n :: rest => n.unknown? conditional <|> unknownInNodes? conditional rest

/-- The first unknown filter or test in the bodies of a branch. -/
def unknownInCases? : List (Expr × List Node) → Option Fault
  | [] => none
  | (_, body) :: rest => unknownInNodes? true body <|> unknownInCases? rest

end

end TypeProjection.Template
