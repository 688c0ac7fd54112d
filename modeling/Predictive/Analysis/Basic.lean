import Predictive.Grammar.Basic
import Predictive.Ordered.Map
/-!
# Nullable symbols, FIRST and FOLLOW

Each of the three is the least solution of its equations. It is reached from a seed by passes over
the grammar that only ever add symbols, until a pass adds nothing.
-/
namespace Predictive

/-- Makes a step for each item in turn and reports whether any step changed something. -/
def sweep {α γ : Type} (step : α → γ → α × Bool) : List γ → α → α × Bool
  | [], x => (x, false)
  | c :: cs, x =>
    let (next, here) := step x c
    let (last, later) := sweep step cs next
    (last, here || later)

/-- Repeats a pass as long as it reports a change, at most as often as the limit says. -/
def stabilise {α : Type} (pass : α → α × Bool) : Nat → α → α
  | 0, x => x
  | limit + 1, x =>
    let (next, changed) := pass x
    if changed then stabilise pass limit next else next

abbrev SymbolSets := OrderedMap Symbol SymbolSet

@[ext] structure Analysis where
  nullable : SymbolSet
  first : SymbolSets
  follow : SymbolSets
deriving DecidableEq

namespace SymbolSets

/-- FIRST of a symbol. A symbol without an entry is a terminal and starts with itself. -/
def firstOf (first : SymbolSets) (s : Symbol) : SymbolSet :=
  (first.get? s).getD (OrderedSet.singleton s)

/-- FIRST of a body: `empty` belongs to it if every symbol of the body can become empty. -/
def firstOfBody (first : SymbolSets) : Body → SymbolSet
  | [] => OrderedSet.singleton Symbol.epsilon
  | s :: rest =>
    let here := first.firstOf s
    if Symbol.epsilon ∈ here then here.erase Symbol.epsilon ∪ first.firstOfBody rest else here

/-- The set of a symbol, empty if there is no entry. -/
def entry (sets : SymbolSets) (s : Symbol) : SymbolSet := (sets.get? s).getD ∅

/-- What a body starts with by the entries of its symbols, `empty` left out. -/
def scan (first : SymbolSets) : Body → SymbolSet
  | [] => ∅
  | s :: rest =>
    let here := first.entry s
    if Symbol.epsilon ∈ here then here.erase Symbol.epsilon ∪ first.scan rest
    else here.erase Symbol.epsilon

def scanAll (first : SymbolSets) (bodies : List Body) : SymbolSet :=
  bodies.foldl (fun found body => found ∪ first.scan body) ∅

/-- Adds symbols to the entry of a symbol. -/
def enlarge (sets : SymbolSets) (s : Symbol) (more : SymbolSet) : SymbolSets :=
  sets.insert s (sets.entry s ∪ more)

/-- Adds symbols to the entry of a symbol and reports whether its size has changed. -/
def grow (sets : SymbolSets) (s : Symbol) (more : SymbolSet) : SymbolSets × Bool :=
  (sets.enlarge s more, (sets.entry s ∪ more).size ≠ (sets.entry s).size)

theorem get?_enlarge (sets : SymbolSets) (s k : Symbol) (more : SymbolSet) :
    (sets.enlarge s more).get? k = if k = s then some (sets.entry s ∪ more) else sets.get? k :=
  OrderedMap.get?_insert sets s k _

theorem mem_entry_enlarge (sets : SymbolSets) (s k a : Symbol) (more : SymbolSet) :
    a ∈ (sets.enlarge s more).entry k ↔ a ∈ sets.entry k ∨ k = s ∧ a ∈ more := by
  unfold entry
  rw [get?_enlarge]
  by_cases h : k = s
  · subst h
    simp [entry]
  · simp [h]

theorem firstOf_enlarge (sets : SymbolSets) (s k : Symbol) (more : SymbolSet) :
    (sets.enlarge s more).firstOf k = if k = s then sets.entry s ∪ more else sets.firstOf k := by
  unfold firstOf
  rw [get?_enlarge]
  by_cases h : k = s <;> simp [h]

theorem firstOf_eq_entry (sets : SymbolSets) (s : Symbol) (h : (sets.get? s).isSome = true) :
    sets.firstOf s = sets.entry s := by
  obtain ⟨e, he⟩ := Option.isSome_iff_exists.1 h
  simp [firstOf, entry, he]

theorem enlarge_eq_self (sets : SymbolSets) (s : Symbol) (more : SymbolSet)
    (h : (sets.get? s).isSome = true) (hmore : ∀ a ∈ more, a ∈ sets.entry s) :
    sets.enlarge s more = sets := by
  obtain ⟨e, he⟩ := Option.isSome_iff_exists.1 h
  apply OrderedMap.ext_get?
  intro k
  rw [get?_enlarge]
  by_cases hk : k = s
  · subst hk
    have hentry : sets.entry k = e := by simp [entry, he]
    rw [if_pos rfl, he, hentry]
    congr 1
    apply OrderedSet.ext_mem
    intro a
    rw [OrderedSet.mem_union]
    exact ⟨fun ha => ha.elim id (fun ha => hentry ▸ hmore a ha), Or.inl⟩
  · rw [if_neg hk]

theorem grow_eq_false_iff (sets : SymbolSets) (s : Symbol) (more : SymbolSet) :
    (sets.grow s more).2 = false ↔ ∀ a ∈ more, a ∈ sets.entry s := by
  simp [grow, OrderedSet.size_union_eq_iff]

theorem mem_scanAll (first : SymbolSets) (bodies : List Body) (a : Symbol) :
    a ∈ first.scanAll bodies ↔ ∃ body ∈ bodies, a ∈ first.scan body := by
  have hfold (found : SymbolSet) :
      a ∈ bodies.foldl (fun found body => found ∪ first.scan body) found ↔
        a ∈ found ∨ ∃ body ∈ bodies, a ∈ first.scan body := by
    induction bodies generalizing found with
    | nil => simp
    | cons body bodies ih =>
      rw [List.foldl_cons, ih, OrderedSet.mem_union, or_assoc]
      simp
  simpa [scanAll] using hfold ∅

theorem scan_eq (first : SymbolSets) (s : Body) (h : ∀ x ∈ s, (first.get? x).isSome = true) :
    first.scan s = (first.firstOfBody s).erase Symbol.epsilon := by
  apply OrderedSet.ext_mem
  intro a
  induction s with
  | nil => simp [scan, firstOfBody]
  | cons x s ih =>
    obtain ⟨hx, hs⟩ := List.forall_mem_cons.1 h
    specialize ih hs
    rw [OrderedSet.mem_erase] at ih ⊢
    simp only [scan, firstOfBody, first.firstOf_eq_entry x hx]
    by_cases hnil : Symbol.epsilon ∈ first.entry x
    · rw [if_pos hnil, if_pos hnil, OrderedSet.mem_union, OrderedSet.mem_union, ih,
        OrderedSet.mem_erase]
      grind
    · rw [if_neg hnil, if_neg hnil, OrderedSet.mem_erase]

theorem epsilon_mem_firstOfBody (first : SymbolSets) (s : Body) :
    Symbol.epsilon ∈ first.firstOfBody s ↔ ∀ x ∈ s, Symbol.epsilon ∈ first.firstOf x := by
  induction s with
  | nil => simp [firstOfBody]
  | cons x s ih =>
    simp only [firstOfBody]
    by_cases h : Symbol.epsilon ∈ first.firstOf x <;> simp [h, ih]

theorem mem_firstOfBody_cons (first : SymbolSets) (a : Symbol) (ha : a ≠ Symbol.epsilon)
    (x : Symbol) (s : Body) : a ∈ first.firstOfBody (x :: s) ↔
      a ∈ first.firstOf x ∨ Symbol.epsilon ∈ first.firstOf x ∧ a ∈ first.firstOfBody s := by
  simp only [firstOfBody]
  by_cases h : Symbol.epsilon ∈ first.firstOf x <;> simp [h, ha]

theorem mem_firstOfBody_append (first : SymbolSets) (a : Symbol) (ha : a ≠ Symbol.epsilon)
    (s t : Body) : a ∈ first.firstOfBody (s ++ t) ↔
      a ∈ first.firstOfBody s ∨
        Symbol.epsilon ∈ first.firstOfBody s ∧ a ∈ first.firstOfBody t := by
  induction s with
  | nil => simp [firstOfBody, ha]
  | cons x s ih =>
    rw [List.cons_append, mem_firstOfBody_cons first a ha, mem_firstOfBody_cons first a ha, ih,
      epsilon_mem_firstOfBody, epsilon_mem_firstOfBody, List.forall_mem_cons]
    grind

theorem firstOfBody_singleton (first : SymbolSets) (x : Symbol) :
    first.firstOfBody [x] = first.firstOf x := by
  apply OrderedSet.ext_mem
  intro a
  by_cases ha : a = Symbol.epsilon
  · subst ha
    rw [epsilon_mem_firstOfBody, List.forall_mem_singleton]
  · rw [mem_firstOfBody_cons first a ha]
    simp [firstOfBody, ha]

theorem firstOfBody_replace (first : SymbolSets) (before after s t : Body)
    (h : ∀ a ∈ first.firstOfBody s, a ∈ first.firstOfBody t) (a : Symbol)
    (ha : a ∈ first.firstOfBody (before ++ (s ++ after))) :
    a ∈ first.firstOfBody (before ++ (t ++ after)) := by
  have hnil (hs : ∀ x ∈ s, Symbol.epsilon ∈ first.firstOf x) :
      ∀ x ∈ t, Symbol.epsilon ∈ first.firstOf x :=
    (epsilon_mem_firstOfBody first t).1 (h _ ((epsilon_mem_firstOfBody first s).2 hs))
  by_cases hne : a = Symbol.epsilon
  · subst hne
    simp only [epsilon_mem_firstOfBody, List.forall_mem_append] at ha ⊢
    exact ⟨ha.1, hnil ha.2.1, ha.2.2⟩
  · simp only [mem_firstOfBody_append first a hne, epsilon_mem_firstOfBody] at ha ⊢
    exact ha.imp id (And.imp id (Or.imp (h a) (And.imp hnil id)))

/-- FIRST of a body comes from a symbol behind symbols that can become empty. -/
theorem mem_firstOfBody_iff (first : SymbolSets) (a : Symbol) (ha : a ≠ Symbol.epsilon) (s : Body) :
    a ∈ first.firstOfBody s ↔ ∃ before x after, s = before ++ x :: after ∧
      (∀ y ∈ before, Symbol.epsilon ∈ first.firstOf y) ∧ a ∈ first.firstOf x := by
  constructor
  · intro h
    induction s with
    | nil => simp [firstOfBody, ha] at h
    | cons x s ih =>
      rcases (mem_firstOfBody_cons first a ha x s).1 h with h | ⟨hx, h⟩
      · exact ⟨[], x, s, rfl, by simp, h⟩
      · obtain ⟨before, y, after, rfl, hbefore, hy⟩ := ih h
        exact ⟨x :: before, y, after, rfl, List.forall_mem_cons.2 ⟨hx, hbefore⟩, hy⟩
  · rintro ⟨before, x, after, rfl, hbefore, hx⟩
    rw [mem_firstOfBody_append first a ha]
    right
    exact ⟨(epsilon_mem_firstOfBody first before).2 hbefore,
      (mem_firstOfBody_cons first a ha x after).2 (Or.inl hx)⟩

end SymbolSets

/-- A search for nullable symbols: those known so far, and the productions not settled yet. -/
structure NullableSearch where
  known : SymbolSet
  pending : List Production

/-- An occurrence of a head in a body: the head of the production, the symbol, and what stands
behind it. -/
structure Occurrence where
  head : Symbol
  symbol : Symbol
  rest : Body
deriving DecidableEq

namespace Grammar

/-- The production makes its head nullable, given the nullable symbols known so far. -/
def makesNullable (known : SymbolSet) (p : Production) : Bool :=
  Body.isEmptyAlternative p.body || p.body.all (fun s => s ∈ known)

/-- Settles a production that makes its head nullable. Any other stays pending. -/
def settle (c : NullableSearch) (p : Production) : NullableSearch × Bool :=
  if makesNullable c.known p then
    ({ c with known := c.known.insert p.head }, p.head ∉ c.known)
  else ({ c with pending := c.pending ++ [p] }, false)

def nullablePass (c : NullableSearch) : NullableSearch × Bool :=
  sweep settle c.pending { c with pending := [] }

/-- The symbols that can become empty, `empty` itself among them. -/
def nullable (g : Grammar) : SymbolSet :=
  (stabilise nullablePass (g.heads.length + 1)
    ⟨OrderedSet.singleton Symbol.epsilon, g.productions⟩).known

/-- A bound on the number of passes that add entries to FIRST or FOLLOW, and one pass more. -/
def passLimit (g : Grammar) : Nat := g.heads.length * (g.bodySymbols.length + 2) + 1

/-- The terminals of all bodies start with themselves, a nullable head with `empty`. -/
def firstSeed (g : Grammar) (nullable : SymbolSet) : SymbolSets :=
  let terminals := g.bodySymbols.filter g.isTerminal
  let known := terminals.foldl (fun sets t => sets.insert t (OrderedSet.singleton t)) ∅
  g.heads.foldl
    (fun sets h => sets.insert h (if h ∈ nullable then OrderedSet.singleton Symbol.epsilon else ∅))
    known

/-- Adds to the head of the rule what its bodies start with. -/
def addFirst (first : SymbolSets) (r : Rule) : SymbolSets × Bool :=
  first.grow r.head (first.scanAll r.alternatives)

def firstPass (g : Grammar) (first : SymbolSets) : SymbolSets × Bool := sweep addFirst g.rules first

def firstSets (g : Grammar) (nullable : SymbolSet) : SymbolSets :=
  stabilise g.firstPass g.passLimit (g.firstSeed nullable)

/-- The start symbol is followed by the end of the input. -/
def followSeed (g : Grammar) : SymbolSets :=
  let blank := g.heads.foldl (fun sets h => sets.insert h ∅) ∅
  match g.start? with
  | none => blank
  | some start => blank.enlarge start (OrderedSet.singleton Symbol.endMarker)

/-- The occurrences of heads in a body, from left to right. -/
def occurrencesIn (g : Grammar) (head : Symbol) : Body → List Occurrence
  | [] => []
  | s :: rest =>
    if g.isTerminal s then g.occurrencesIn head rest
    else ⟨head, s, rest⟩ :: g.occurrencesIn head rest

def occurrences (g : Grammar) : List Occurrence :=
  g.productions.flatMap (fun p => g.occurrencesIn p.head p.body)

/-- What can follow an occurrence: what the rest behind it starts with, and what follows the head of
the production if the rest can become empty. -/
def followers (first follow : SymbolSets) (o : Occurrence) : SymbolSet :=
  let next := first.firstOfBody o.rest
  if Symbol.epsilon ∈ next then next.erase Symbol.epsilon ∪ follow.entry o.head else next

def addFollow (first follow : SymbolSets) (o : Occurrence) : SymbolSets × Bool :=
  follow.grow o.symbol (followers first follow o)

def followPass (g : Grammar) (first follow : SymbolSets) : SymbolSets × Bool :=
  sweep (addFollow first) g.occurrences follow

def followSets (g : Grammar) (first : SymbolSets) : SymbolSets :=
  stabilise (g.followPass first) g.passLimit g.followSeed

def analysis (g : Grammar) : Analysis :=
  let nullable := g.nullable
  let first := g.firstSets nullable
  ⟨nullable, first, g.followSets first⟩

end Grammar

namespace Analysis

def isNullable (a : Analysis) (s : Symbol) : Bool := s ∈ a.nullable

def firstOf (a : Analysis) (s : Symbol) : SymbolSet := a.first.firstOf s

def firstOfBody (a : Analysis) (body : Body) : SymbolSet := a.first.firstOfBody body

/-- FOLLOW of a symbol. A symbol that is not a head is followed by nothing. -/
def followOf (a : Analysis) (s : Symbol) : SymbolSet := a.follow.entry s

end Analysis

end Predictive
