import TypeProjection.Literal

/-!
Why a template cannot be rendered. Most causes belong to the template: its text cannot be read, or
it asks for something that is not there. The others come from computing with values, and are told
apart by `isTemplateError`.
-/

namespace TypeProjection.Template

/-- Why a template cannot be rendered. -/
inductive Fault where
  | strayCharacter (c : Char) (place : Nat)
  | openComment
  | openRaw
  | strayCloser (closer : String) (expected : Option String)
  | badIdentifier
  | badEscape (reason : String)
  | expectedToken (expected found : String)
  | endedBefore (expected : String)
  | tagExpected
  | expectedExpression (found : String)
  | unexpectedToken (found : String)
  | expectedNameOrNumber
  | expectedSubscript
  | badArguments
  | missingDefault
  | chainedTests
  | unassignable (kind : String)
  /-- A tag that is not known where it stands, or the end of the template without a tag.
  `wanted` are the tags that would end the innermost block, `outer` says that the tag would end
  an outer one, and `innermost` is the block itself. -/
  | unknownTag (tag : Option String) (wanted : List String) (outer : Bool)
      (innermost : Option String)
  | unknownFilter (name : String)
  | unknownTest (name : String)
  | absentFilter (name : List Text.Point)
  | absentTest (name : String)
  | notFound (name : List Text.Point) (searchPath : String)
  | refusedName (name : List Text.Point)
  | noneFound (names : List (List Text.Point))
  /-- Something undefined was used, with the wording of what is undefined. -/
  | undefined (message : String)
  | badFilterArgument (message : String)
  | wrongType (message : String)
  | wrongValue (message : String)
  | zeroDivisor (message : String)
  /-- The bytes of a template file are no text. -/
  | notText (message : String)
  | tooDeep
  deriving Repr

namespace Fault

/-- Is the cause the template itself? -/
def isTemplateError : Fault → Bool
  | .wrongType _ | .wrongValue _ | .zeroDivisor _ | .notText _ | .tooDeep => false
  | _ => true

/-- Words in quotation marks with `or` between them. -/
def alternatives (words : List String) : String :=
  String.intercalate " or " (words.map Text.display)

/-- The wording of an unknown tag or a missing one. -/
def tagMessage (tag : Option String) (wanted : List String) (outer : Bool)
    (innermost : Option String) : String :=
  let start := match tag with
    | none => "Unexpected end of template."
    | some t => "Encountered unknown tag " ++ Text.display t ++ "."
  let hint :=
    if wanted.isEmpty then ""
    else if outer then
      " You probably made a nesting mistake." ++
        " Jinja is expecting this tag, but currently looking for " ++ alternatives wanted ++ "."
    else " Jinja was looking for the following tags: " ++ alternatives wanted ++ "."
  let block := match innermost with
    | none => ""
    | some b => " The innermost block that needs to be closed is " ++ Text.display b ++ "."
  start ++ hint ++ block

/-- The wording of a cause. A surrogate in it is escaped, as it is where errors are printed. -/
def message : Fault → String
  | .strayCharacter c place =>
    "unexpected char " ++ Text.display (String.singleton c) ++ " at " ++ toString place
  | .openComment => "Missing end of comment tag"
  | .openRaw => "Missing end of raw directive"
  | .strayCloser closer none => "unexpected '" ++ closer ++ "'"
  | .strayCloser closer (some e) => "unexpected '" ++ closer ++ "', expected '" ++ e ++ "'"
  | .badIdentifier => "Invalid character in identifier"
  | .badEscape reason => reason
  | .expectedToken expected found =>
    "expected token " ++ Text.display expected ++ ", got " ++ Text.display found
  | .endedBefore expected => "unexpected end of template, expected " ++ Text.display expected ++ "."
  | .tagExpected => "tag name expected"
  | .expectedExpression found => "Expected an expression, got " ++ Text.display found
  | .unexpectedToken found => "unexpected " ++ Text.display found
  | .expectedNameOrNumber => "expected name or number"
  | .expectedSubscript => "expected subscript expression"
  | .badArguments => "invalid syntax for function call expression"
  | .missingDefault => "non-default argument follows default argument"
  | .chainedTests => "You cannot chain multiple tests with is"
  | .unassignable kind => "can't assign to " ++ Text.display kind
  | .unknownTag tag wanted outer innermost => tagMessage tag wanted outer innermost
  | .unknownFilter name => "No filter named " ++ Text.display name ++ "."
  | .unknownTest name => "No test named " ++ Text.display name ++ "."
  | .absentFilter name => "No filter named " ++ Text.displayPoints name ++ " found."
  | .absentTest name => "No test named " ++ Text.display name ++ " found."
  | .notFound name searchPath =>
    Text.displayPoints name ++ " not found in search path: " ++ Text.display searchPath
  | .refusedName name => Text.escaped name
  | .noneFound names =>
    "none of the templates given were found: " ++ String.intercalate ", " (names.map Text.escaped)
  | .undefined m => m
  | .badFilterArgument m => m
  | .wrongType m => m
  | .wrongValue m => m
  | .zeroDivisor m => m
  | .notText m => m
  | .tooDeep => "maximum recursion depth exceeded"

end Fault

end TypeProjection.Template
