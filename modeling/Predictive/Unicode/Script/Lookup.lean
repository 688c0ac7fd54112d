import Predictive.Unicode.Script.FromM
import Predictive.Unicode.Script.ToL
/-!
# Finding a script

The characters that belong to a script, and those that are used with it.
-/
namespace Predictive.Unicode

def scripts : List Script := scriptsToL ++ scriptsFromM

def findScript (name : String) : Option Script := scripts.find? (fun s => s.names.contains name)

def charactersOfScript (name : String) : Option Ranges := (findScript name).map (fun s => s.members)

/-- The characters that no script borrows are left to the common and the inherited script. -/
def Script.users (s : Script) : Ranges :=
  if s.names.contains "common" || s.names.contains "inherited" then
    Ranges.diff s.members (Ranges.unions (scripts.map Script.borrowed))
  else Ranges.union s.members s.borrowed

/-- The characters that are used with a script. -/
def charactersUsedWith (name : String) : Option Ranges := (findScript name).map Script.users

end Predictive.Unicode
