import Predictive.Unicode.NamedSet
/-!
# Scripts

A character belongs to one script. The characters that several scripts share belong to the common
or the inherited script, and each of these scripts borrows them.
-/
namespace Predictive.Unicode

structure Script extends NamedSet where
  borrowed : Ranges

end Predictive.Unicode
