import TypeProjection.Pairs
import TypeProjection.Text.Blank

/-!
Files of replacements: a line gives the display name of a type, a colon, and the reference that
replaces it. Lines without a colon, comments, and lines with either side missing say nothing.
-/

namespace TypeProjection.TypeMap

/-- What a line says. -/
def entry? (line : List Char) : Option (String × String) :=
  match Text.strip line with
  | [] | '#' :: _ => none
  | cs =>
    match Text.cutAt ':' cs with
    | none => none
    | some (key, value) =>
      let key := Text.strip key
      let value := Text.strip value
      if key.isEmpty || value.isEmpty then none
      else some (String.ofList key, String.ofList value)

/-- The replacements that a text gives, the last one for each name. -/
def read (text : String) : List (String × String) :=
  putPairs [] ((Text.lines text.toList).filterMap entry?)

end TypeProjection.TypeMap
