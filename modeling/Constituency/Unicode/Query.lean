import Constituency.Unicode.Age
import Constituency.Unicode.Segment

/-!
# Asking for characters by property

A set of characters is asked for by one name, that of a property, a general category or a script,
or by the name of a property and one of its values. Names are loose: case, blanks, low lines,
hyphens and a leading `is` make no difference.
-/
namespace Constituency.Unicode

/-- What remains of a name when all that makes no difference is gone. -/
def looseName (name : List Char) : String :=
  let lower (text : List Char) : List Char :=
    (text.filter fun c => c.toNat < 128 && c != ' ' && c != '_' && c != '-').map Char.toLower
  match name with
  | i :: s :: rest =>
    if i.toLower = 'i' ∧ s.toLower = 's' then
      -- `isc` names a property of its own, and not the category `c`.
      if lower rest = ['c'] then "isc" else String.ofList (lower rest)
    else String.ofList (lower name)
  | _ => String.ofList (lower name)

/-- Short names of categories that are short names of properties too, and mean the category. -/
def categoryFirst : List String := ["cf", "lc", "sc"]

def named? (name : List Char) : Option CharSet :=
  let name := looseName name
  let property := if categoryFirst.contains name then none else propertyNamed? name
  (property.or (categoryNamed? name)).or (scriptNamed? name)

/-- The characters for which a property has a value. -/
def withValue? (property value : List Char) : Option CharSet :=
  let property := looseName property
  let value := looseName value
  if property = "gc" ∨ property = "generalcategory" then categoryNamed? value
  else if property = "sc" ∨ property = "script" then scriptNamed? value
  else if property = "scx" ∨ property = "scriptextensions" then scriptExtensionNamed? value
  else if property = "age" then ageNamed? value
  else if property = "gcb" ∨ property = "graphemeclusterbreak" then
    classNamed? graphemeClasses value
  else if property = "wb" ∨ property = "wordbreak" then classNamed? wordClasses value
  else if property = "sb" ∨ property = "sentencebreak" then classNamed? sentenceClasses value
  else none

/-! ## The classes with a letter of their own -/

def digit : CharSet := inCategories ["Nd"]

/-- A word character is a letter, a mark, a decimal digit, a connector or a joiner. -/
def word : CharSet :=
  (alphabetic.union (inCategories ["Mn", "Mc", "Me", "Nd", "Pc"])).union joinControl

example : looseName ['I', 's', 'S', 'c', 'r', 'i', 'p', 't', '_', 'E', 'x'] = "scriptex" := by
  decide +kernel

end Constituency.Unicode
