import Predictive.Symbol
/-!
# Context-free grammars

A grammar lists its heads in the order in which they were first registered, each with its
alternatives. The first head is the start symbol, and a symbol without a rule is a terminal.
-/
namespace Predictive

structure Rule where
  head : Symbol
  alternatives : List Body
deriving DecidableEq

structure Grammar where
  rules : List Rule
  heads_nodup : (rules.map Rule.head).Nodup
deriving DecidableEq

namespace Rule

/-- Gives the alternatives to the rule of the head, which becomes the last rule if it is new. -/
def assign (head : Symbol) (alternatives : List Body) : List Rule → List Rule
  | [] => [⟨head, alternatives⟩]
  | r :: rs =>
    if r.head = head then ⟨head, alternatives⟩ :: rs else r :: assign head alternatives rs

theorem heads_assign (head : Symbol) (alternatives : List Body) (rs : List Rule) :
    (assign head alternatives rs).map Rule.head =
      if head ∈ rs.map Rule.head then rs.map Rule.head else rs.map Rule.head ++ [head] := by
  induction rs with
  | nil => simp [assign]
  | cons r rs ih =>
    by_cases h : r.head = head
    · simp [assign, h]
    · have h' : ¬head = r.head := fun e => h e.symm
      rw [assign, if_neg h, List.map_cons, ih, List.map_cons]
      by_cases hm : head ∈ rs.map Rule.head
      · rw [if_pos hm, if_pos (List.mem_cons_of_mem _ hm)]
      · rw [if_neg hm, if_neg (by simp only [List.mem_cons, not_or]; exact ⟨h', hm⟩),
          List.cons_append]

private theorem heads_assign_nodup (head : Symbol) (alternatives : List Body) (rs : List Rule)
    (h : (rs.map Rule.head).Nodup) : ((assign head alternatives rs).map Rule.head).Nodup := by
  rw [heads_assign]
  split
  · exact h
  · next hm =>
    refine List.nodup_append.2 ⟨h, List.nodup_cons.2 ⟨List.not_mem_nil, List.nodup_nil⟩, ?_⟩
    intro a ha b hb e
    rw [List.mem_singleton] at hb
    exact hm (hb ▸ e ▸ ha)

def productions (r : Rule) : List Production := r.alternatives.map (fun body => ⟨r.head, body⟩)

end Rule

namespace Grammar

def empty : Grammar := ⟨[], List.nodup_nil⟩

/-- Registers the alternatives of a head over any earlier ones. -/
def assign (g : Grammar) (head : Symbol) (alternatives : List Body) : Grammar :=
  ⟨Rule.assign head alternatives g.rules,
    Rule.heads_assign_nodup head alternatives g.rules g.heads_nodup⟩

def ofRules (rules : List (Symbol × List Body)) : Grammar :=
  rules.foldl (fun g r => g.assign r.1 r.2) empty

def heads (g : Grammar) : List Symbol := g.rules.map Rule.head

def start? (g : Grammar) : Option Symbol := g.heads.head?

/-- The alternatives of a symbol, none for a terminal. -/
def alternatives (g : Grammar) (s : Symbol) : List Body :=
  match g.rules.find? (fun r => r.head = s) with
  | some r => r.alternatives
  | none => []

/-- Registers further alternatives of a head after the ones that it has. -/
def extend (g : Grammar) (head : Symbol) (alternatives : List Body) : Grammar :=
  g.assign head (g.alternatives head ++ alternatives)

def isTerminal (g : Grammar) (s : Symbol) : Bool := s ∉ g.heads

/-- All productions, rule by rule. -/
def productions (g : Grammar) : List Production := g.rules.flatMap Rule.productions

def bodySymbols (g : Grammar) : List Symbol := g.productions.flatMap Production.body

/-- The terminals that some body mentions, `empty` left out. -/
def terminals (g : Grammar) : SymbolSet :=
  OrderedSet.ofList (g.bodySymbols.filter (fun s => !s.isEpsilon && g.isTerminal s))

theorem heads_assign (g : Grammar) (head : Symbol) (bodies : List Body) :
    (g.assign head bodies).heads = if head ∈ g.heads then g.heads else g.heads ++ [head] :=
  Rule.heads_assign head bodies g.rules

private theorem find?_assign (head s : Symbol) (bodies : List Body) (rs : List Rule) :
    (Rule.assign head bodies rs).find? (fun r => r.head = s) =
      if s = head then some ⟨head, bodies⟩ else rs.find? (fun r => r.head = s) := by
  induction rs with
  | nil =>
    by_cases h : s = head
    · simp [Rule.assign, h]
    · have h' : ¬head = s := fun e => h e.symm
      simp [Rule.assign, h, h']
  | cons r rs ih =>
    by_cases hr : r.head = head
    · by_cases h : s = head
      · simp [Rule.assign, hr, h]
      · have h' : ¬head = s := fun e => h e.symm
        simp [Rule.assign, hr, h, h']
    · by_cases h : r.head = s
      · have hs : ¬s = head := fun e => hr (h.trans e)
        simp [Rule.assign, h, hs]
      · rw [Rule.assign, if_neg hr, List.find?_cons_of_neg (by simpa using h), ih,
          List.find?_cons_of_neg (by simpa using h)]

theorem alternatives_assign (g : Grammar) (head s : Symbol) (bodies : List Body) :
    (g.assign head bodies).alternatives s = if s = head then bodies else g.alternatives s := by
  unfold alternatives assign
  rw [find?_assign]
  by_cases h : s = head <;> simp [h]

end Grammar

end Predictive
