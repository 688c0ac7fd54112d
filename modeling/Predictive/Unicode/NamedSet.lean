import Predictive.Text.Blank
import Predictive.Text.RangeSet
/-!
# Named sets of characters

Names of sets are compared in their loose form: without regard to case, spaces, hyphens and
underscores, and without a leading `is`.
-/
namespace Predictive.Unicode

/-- A set of characters with all its names, which are given in their loose form. -/
structure NamedSet where
  names : List String
  members : Ranges

/-- The members of the first set that goes by a name. -/
def membersOf (name : String) (sets : List NamedSet) : Option Ranges :=
  (sets.find? (fun s => s.names.contains name)).map NamedSet.members

/-- The letters, digits and signs of a name that count. -/
def significant (name : Text) : Text :=
  (name.filter (fun c => c.toNat < 0x80 && c ≠ ' ' && c ≠ '_' && c ≠ '-')).map Char.toLower

/-- The loose form of a name. The name `isc` keeps its first letters, since what is left of it means
something else. -/
def looseName (name : Text) : String :=
  match name with
  | i :: s :: rest =>
    if i.toLower = 'i' && s.toLower = 's' then
      let rest := significant rest
      String.ofList (if rest = ['c'] then ['i', 's', 'c'] else rest)
    else String.ofList (significant name)
  | _ => String.ofList (significant name)

end Predictive.Unicode
