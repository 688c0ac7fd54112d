import Predictive.Unicode.Segment.Basic
import Predictive.Unicode.Version
/-!
# Asking for characters by property

A name alone stands for a binary property, a general category or a script, in this order, and a name
with a value for the characters whose property has that value.
-/
namespace Predictive.Unicode

/-- Names that could be short for a property with values, and mean a category here. -/
def categoryNames : List String := ["cf", "sc", "lc"]

def charactersNamed (name : Text) : Option Ranges :=
  let name := looseName name
  (if categoryNames.contains name then none else membersOf name properties).or
    ((membersOf name categories).or (charactersOfScript name))

def charactersWith (property value : Text) : Option Ranges :=
  let value := looseName value
  match looseName property with
  | "gc" | "generalcategory" => membersOf value categories
  | "sc" | "script" => charactersOfScript value
  | "scx" | "scriptextensions" => charactersUsedWith value
  | "age" => charactersOfVersion value
  | "gcb" | "graphemeclusterbreak" => membersOf value clusterClasses
  | "wb" | "wordbreak" => membersOf value wordClasses
  | "sb" | "sentencebreak" => membersOf value sentenceClasses
  | _ => none

end Predictive.Unicode
