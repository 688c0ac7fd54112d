import Predictive.Regex.Members
import Predictive.Regex.Reader
/-!
# The meaning of a pattern

A phrase means a regular expression under given flags. A change of flags holds for what follows it,
in later branches too, up to the end of the group around it.
-/
namespace Predictive

namespace Regex

namespace Flags

/-- A single character. A byte beyond ASCII is no character without the flag `u`. -/
def literal (f : Flags) (isByte : Bool) (c : Char) : Option Regex :=
  if !f.unicode && isByte && 0x80 ≤ c.toNat then none
  else if f.ignoreCase && f.admits c then
    some (ofClass f.unicode (f.foldCase (Ranges.single c)))
  else some (.literal [c])

/-- The members of the dot. -/
def dot (f : Flags) : Option Ranges :=
  if !f.unicode then none
  else if f.dotAll then some Ranges.all
  else if f.returns then some (Ranges.compl [(0xA, 0xA), (0xD, 0xD)])
  else some (Ranges.compl [(0xA, 0xA)])

def anchor (f : Flags) (a : Anchor) : Assertion :=
  match a with
  | .caret =>
    if !f.multiLine then .textStart else if f.returns then .returnLineStart else .lineStart
  | .dollar => if !f.multiLine then .textEnd else if f.returns then .returnLineEnd else .lineEnd
  | .textStart => .textStart
  | .textEnd => .textEnd
  | .word edge => .word f.unicode edge

end Flags

namespace Phrase

mutual

/-- The regular expression of a phrase, with the flags that hold behind it. -/
def meaning (f : Flags) : Phrase → Option (Regex × Flags)
  | empty => some (.empty, f)
  | flags change => some (.empty, f.apply change)
  | literal isByte c => (f.literal isByte c).map (fun r => (r, f))
  | shorthand negated s => (f.shorthand negated s).map (fun a => (ofClass f.unicode a, f))
  | property negated q => (f.property negated q).map (fun a => (ofClass f.unicode a, f))
  | dot => f.dot.map (fun a => (ofClass f.unicode a, f))
  | anchor a => some (.assertion (f.anchor a), f)
  | bracket negated contents =>
    (contents.members f).bind (fun a =>
      (f.negate negated (f.foldCase a)).map (fun a => (ofClass f.unicode a, f)))
  | repeated min max greedy body =>
    (body.meaning f).map (fun r => (r.1.repeated min max (greedy != r.2.swapGreed), r.2))
  | group index change body =>
    (body.meaning (f.apply change)).map (fun r =>
      (match index with
        | some n => .capture n r.1
        | none => r.1, f))
  | sequence parts => (meanings f parts).map (fun r => (concat r.1, r.2))
  | choice branches => (meanings f branches).map (fun r => (Regex.choice r.1, r.2))

def meanings (f : Flags) : List Phrase → Option (List Regex × Flags)
  | [] => some ([], f)
  | phrase :: phrases =>
    match phrase.meaning f with
    | none => none
    | some (r, f) => (meanings f phrases).map (fun rest => (r :: rest.1, rest.2))

end

end Phrase

/-- The regular expression of a pattern. -/
def ofText (pattern : Text) : Option Regex :=
  (Phrase.ofText pattern).bind (fun p => (p.meaning {}).map Prod.fst)

end Regex

end Predictive
