import Reprint.Text.Age
import Reprint.Text.Segment

/-!
# Sets of characters by name

Properties, categories, scripts, ages and break classes are known by names,
which are compared loosely.
-/

namespace Reprint.Text

/-- The set under a name of a table. -/
def lookUp? (table : List (List String × Ranges)) (name : String) : Option Ranges :=
  (table.find? (·.1.contains name)).map (·.2)

/-- A name without what does not count: case, blanks, hyphens, underscores,
characters beyond the first 128, and a leading `is`.  `isc` is a name of its own. -/
def looseName (cs : List Char) : String :=
  let plain (cs : List Char) : List Char :=
    (cs.filter fun c => c.toNat < 128 && c != ' ' && c != '_' && c != '-').map Char.toLower
  match cs with
  | a :: b :: rest =>
    if a.toLower == 'i' && b.toLower == 's' then
      if plain rest == ['c'] then "isc" else .ofList (plain rest)
    else .ofList (plain cs)
  | _ => .ofList (plain cs)

/-- The characters with a property that is given by its name alone: a binary
property, a category or a script. -/
def property? (written : List Char) : Option Ranges :=
  let name := looseName written
  lookUp? binaryProperties name <|> lookUp? categoryNames name <|> (script? name).map (·.chars)

/-- The characters with this value of a property. -/
def propertyValue? (written value : List Char) : Option Ranges :=
  let value := looseName value
  match looseName written with
  | "gc" | "generalcategory" => lookUp? categoryNames value
  | "sc" | "script" => (script? value).map (·.chars)
  | "scx" | "scriptextensions" => (script? value).map (·.extended)
  | "age" => assignedBy? value
  | "gcb" | "graphemeclusterbreak" => lookUp? clusterClasses value
  | "wb" | "wordbreak" => lookUp? wordClasses value
  | "sb" | "sentencebreak" => lookUp? sentenceClasses value
  | _ => none

end Reprint.Text
