import Predictive.Text.CaseFold
/-!
# Classes by name

The classes that a name in `[:name:]` stands for, all within ASCII.
-/
namespace Predictive

namespace Regex

def ofLimits (limits : List (Char × Char)) : Ranges := limits.map (fun r => (r.1.toNat, r.2.toNat))

def classNamed (name : String) : Option Ranges :=
  match name with
  | "alnum" => some (ofLimits [('0', '9'), ('A', 'Z'), ('a', 'z')])
  | "alpha" => some (ofLimits [('A', 'Z'), ('a', 'z')])
  | "ascii" => some (ofLimits [('\x00', '\x7f')])
  | "blank" => some (ofLimits [('\t', '\t'), (' ', ' ')])
  | "cntrl" => some (ofLimits [('\x00', '\x1f'), ('\x7f', '\x7f')])
  | "digit" => some (ofLimits [('0', '9')])
  | "graph" => some (ofLimits [('!', '~')])
  | "lower" => some (ofLimits [('a', 'z')])
  | "print" => some (ofLimits [(' ', '~')])
  | "punct" => some (ofLimits [('!', '/'), (':', '@'), ('[', '\x60'), ('\x7b', '~')])
  | "space" => some (ofLimits [('\t', '\r'), (' ', ' ')])
  | "upper" => some (ofLimits [('A', 'Z')])
  | "word" => some (ofLimits [('0', '9'), ('A', 'Z'), ('_', '_'), ('a', 'z')])
  | "xdigit" => some (ofLimits [('0', '9'), ('A', 'F'), ('a', 'f')])
  | _ => none

end Regex

end Predictive
