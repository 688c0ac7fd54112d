import Predictive.Analysis.Basic
/-!
# Predictive tables

A cell of the table, given by a head and a lookahead, holds the production to apply there. A grammar
has a table only if no cell would hold two different productions.
-/
namespace Predictive

structure Cell where
  head : Symbol
  lookahead : Symbol
deriving DecidableEq

namespace Cell

/-- Cells are ordered by head, then by lookahead. -/
def order : Cell → Cell → Ordering := compareLex (compareOn head) (compareOn lookahead)

instance : Ord Cell := ⟨order⟩

instance : Std.TransOrd Cell :=
  inferInstanceAs (Std.TransCmp (compareLex (compareOn head) (compareOn lookahead)))

instance : Std.ReflOrd Cell :=
  inferInstanceAs (Std.ReflCmp (compareLex (compareOn head) (compareOn lookahead)))

instance : Std.LawfulEqOrd Cell where
  eq_of_compare {a b} h := by
    have h' : compareLex (compareOn head) (compareOn lookahead) a b = .eq := h
    rw [compareLex_eq_eq] at h'
    have h₁ : a.head = b.head := Std.LawfulEqOrd.eq_of_compare h'.1
    have h₂ : a.lookahead = b.lookahead := Std.LawfulEqOrd.eq_of_compare h'.2
    cases a
    cases b
    simp_all

end Cell

/-- Two different productions for one cell. -/
structure Conflict where
  cell : Cell
  existing : Production
  attempted : Production
deriving DecidableEq

def Conflict.message (c : Conflict) : String :=
  "ambiguity at [" ++ c.cell.head.label ++ ", " ++ c.cell.lookahead.label ++
    "]: already mapped to \"" ++ c.existing.text ++ "\" but tried to insert \"" ++
    c.attempted.text ++ "\""

structure Table where
  cells : OrderedMap Cell Production
deriving DecidableEq

namespace Table

def empty : Table := ⟨∅⟩

def get? (t : Table) (head lookahead : Symbol) : Option Production :=
  t.cells.get? ⟨head, lookahead⟩

theorem ext_get? (t u : Table)
    (h : ∀ head a p, t.get? head a = some p ↔ u.get? head a = some p) : t = u := by
  have hcells : t.cells = u.cells := by
    apply OrderedMap.ext_get?
    intro cell
    apply Option.ext
    exact h cell.head cell.lookahead
  cases t
  cases u
  exact congrArg Table.mk hcells

def size (t : Table) : Nat := t.cells.size

def isEmpty (t : Table) : Bool := t.cells.entries.isEmpty

def entries (t : Table) : List (Cell × Production) := t.cells.entries

/-- Fills a cell, which may be filled again with the production that it already holds. -/
def insert (t : Table) (lookahead : Symbol) (p : Production) : Except Conflict Table :=
  match t.get? p.head lookahead with
  | none => .ok ⟨t.cells.insert ⟨p.head, lookahead⟩ p⟩
  | some existing =>
    if existing = p then .ok t else .error ⟨⟨p.head, lookahead⟩, existing, p⟩

/-- What filling a cell changes: that cell holds the production, and all others stay. -/
theorem get?_of_insert (t t' : Table) (lookahead : Symbol) (p : Production)
    (h : t.insert lookahead p = .ok t') (head a : Symbol) :
    t'.get? head a = if head = p.head ∧ a = lookahead then some p else t.get? head a := by
  unfold insert at h
  split at h
  · injection h with h
    subst h
    simp only [get?, OrderedMap.get?_insert, Cell.mk.injEq]
  · next existing he =>
    split at h
    · next hp =>
      injection h with h
      subst h
      split
      · next hc => rw [hc.1, hc.2, he, hp]
      · rfl
    · cases h

/-- Fills cells in the order given, up to the first conflict. -/
def insertAll (t : Table) : List (Symbol × Production) → Except Conflict Table
  | [] => .ok t
  | (lookahead, p) :: rest =>
    match t.insert lookahead p with
    | .error c => .error c
    | .ok t => t.insertAll rest

end Table

namespace Analysis

/-- The lookaheads that call for a production: FIRST of its body in order, and if the body can
become empty also FOLLOW of its head in order, with the end of the input last. -/
def predicted (a : Analysis) (p : Production) : List Symbol :=
  let first := a.firstOfBody p.body
  let follow := a.followOf p.head
  (first.erase Symbol.epsilon).toList ++
    if Symbol.epsilon ∈ first then
      (follow.filter (fun s => !s.isEpsilon && !s.isEndMarker)).toList ++
        if Symbol.endMarker ∈ follow then [Symbol.endMarker] else []
    else []

end Analysis

namespace Grammar

/-- The table of the grammar for the given sets, which may belong to another grammar. -/
def tableWith (g : Grammar) (a : Analysis) : Except Conflict Table :=
  Table.empty.insertAll (g.productions.flatMap (fun p => (a.predicted p).map (fun s => (s, p))))

def table (g : Grammar) : Except Conflict Table := g.tableWith g.analysis

end Grammar

end Predictive
