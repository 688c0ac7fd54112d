import Predictive.Proofs.Parser.Run
import Predictive.Proofs.Variants.Inclusion
/-!
# The spelling of empty alternatives does not matter

An alternative derives the same strings when every `empty` is left out of it. If `empty` is no head
then a grammar and its solid form, in which no body holds an `empty`, have the same sets, and a
table without conflicts for the one is such a table for the other, unless two alternatives of a head
differ in their `empty` symbols only. The parsers build the same trees.
-/
namespace Predictive

namespace Body

private theorem solid_append (s t : Body) :
    solid (s ++ t) = solid s ++ solid t := List.filter_append ..

private theorem solid_cons_of_ne (s : Symbol) (rest : Body) (h : s ≠ Symbol.epsilon) :
    solid (s :: rest) = s :: solid rest := by
  simp [solid, h]

@[simp] theorem solid_epsilon_cons (rest : Body) : solid (Symbol.epsilon :: rest) = solid rest := by
  simp [solid]

@[simp] theorem solid_solid (s : Body) : solid (solid s) = solid s := by
  simp [solid]

end Body

namespace Production

/-- The production without the `empty` symbols of its body. -/
def solid (p : Production) : Production := ⟨p.head, p.pushed⟩

@[simp] theorem head_solid (p : Production) : p.solid.head = p.head := rfl

@[simp] theorem pushed_solid (p : Production) : p.solid.pushed = p.pushed := Body.solid_solid p.body

end Production

def Rule.solid (r : Rule) : Rule := ⟨r.head, r.alternatives.map Body.solid⟩

namespace Table

/-- The table with solid productions in the same cells. -/
def solid (t : Table) : Table := ⟨t.cells.map Production.solid⟩

private theorem get?_solid (t : Table) (head a : Symbol) :
    t.solid.get? head a = (t.get? head a).map Production.solid :=
  OrderedMap.get?_map Production.solid t.cells ⟨head, a⟩

private theorem entries_solid (t : Table) :
    t.solid.entries = t.entries.map (fun e => (e.1, e.2.solid)) := rfl

private theorem widestPush_solid (t : Table) : Parser.widestPush t.solid = Parser.widestPush t := by
  simp [Parser.widestPush, entries_solid, Function.comp_def]

end Table

namespace Grammar

/-- The grammar with every `empty` left out of every body. -/
def solid (g : Grammar) : Grammar :=
  ⟨g.rules.map Rule.solid, by simpa [Rule.solid, Function.comp_def] using g.heads_nodup⟩

variable (g : Grammar)

private theorem heads_solid : g.solid.heads = g.heads := by
  simp [heads, solid, Rule.solid, Function.comp_def]

private theorem isTerminal_solid (s : Symbol) : g.solid.isTerminal s = g.isTerminal s := by
  rw [isTerminal, isTerminal, heads_solid]

private theorem start?_solid : g.solid.start? = g.start? := by
  rw [start?, start?, heads_solid]

private theorem productions_solid : g.solid.productions = g.productions.map Production.solid := by
  simp [productions, solid, List.flatMap_map, List.map_flatMap, Rule.productions, Rule.solid,
    Function.comp_def, Production.solid, Production.pushed]

private theorem alternatives_solid (s : Symbol) :
    g.solid.alternatives s = (g.alternatives s).map Body.solid := by
  have hfind : g.solid.rules.find? (fun r => r.head = s) =
      (g.rules.find? (fun r => r.head = s)).map Rule.solid := List.find?_map ..
  rw [alternatives, alternatives, hfind]
  cases g.rules.find? (fun r => r.head = s) <;> rfl

private theorem Derives.of_solid (s t : Body) (h : g.solid.Derives s t) : g.Derives s t := by
  induction h with
  | refl s => exact .refl s
  | step s t u first _ ih =>
    cases first with
    | expand before after p hp =>
      rw [productions_solid] at hp
      obtain ⟨q, hq, rfl⟩ := List.mem_map.mp hp
      have hpushed := g.derives_pushed q hq before after
      rw [← List.append_assoc] at hpushed
      exact hpushed.trans g _ _ _ ih
    | vanish before after => exact .step _ _ _ (.vanish before after) ih

private theorem included_of_solid : g.solid.Included g where
  start := g.start?_solid
  heads s := by rw [heads_solid]
  derives := ⟨fun _ => true, fun _ _ => rfl, fun s t h => by simpa using h.of_solid g s t⟩

section Terminal

variable (hε : g.isTerminal Symbol.epsilon = true)

include hε

private theorem ne_epsilon_of_mem_heads (s : Symbol) (hs : s ∈ g.heads) : s ≠ Symbol.epsilon := by
  intro h
  subst h
  exact (g.isTerminal_iff Symbol.epsilon).mp hε hs

/-- Every step is one of the solid form once all `empty` symbols are left out. -/
theorem Derives.solid (s t : Body) (h : g.Derives s t) :
    g.solid.Derives (Body.solid s) (Body.solid t) := by
  induction h with
  | refl s => exact .refl _
  | step s t u first _ ih =>
    cases first with
    | expand before after p hp =>
      have hne := g.ne_epsilon_of_mem_heads hε p.head (g.head_mem_heads p hp)
      have hp' : p.solid ∈ g.solid.productions := by
        rw [productions_solid]
        exact List.mem_map.mpr ⟨p, hp, rfl⟩
      refine .step _ _ _ ?_ ih
      rw [Body.solid_append, Body.solid_append, Body.solid_append, Body.solid_cons_of_ne _ _ hne]
      exact .expand (Body.solid before) (Body.solid after) p.solid hp'
    | vanish before after =>
      rw [Body.solid_append, Body.solid_epsilon_cons, ← Body.solid_append]
      exact ih

private theorem included_solid : g.Included g.solid where
  start := g.start?_solid.symm
  heads s := by rw [heads_solid]
  derives := by
    refine ⟨fun s => s ≠ Symbol.epsilon, ?_, ?_⟩
    · intro s hs
      simpa using hs.elim (g.ne_epsilon_of_mem_heads hε s) id
    · intro s t h
      exact (g.solid.derives_solid s).trans _ _ _ _ (h.solid g hε s t)

private theorem alike_solid : g.analysis.Alike g.solid.analysis :=
  (g.included_solid hε).alike g.included_of_solid

private theorem mem_firstOfBody_solid (s : Body) (a : Symbol) :
    a ∈ g.analysis.firstOfBody (Body.solid s) ↔ a ∈ g.analysis.firstOfBody s := by
  by_cases ha : a = Symbol.epsilon
  · subst ha
    rw [epsilon_mem_firstOfBody_iff, epsilon_mem_firstOfBody_iff]
    constructor
    · intro h x hx
      by_cases hne : x = Symbol.epsilon
      · exact hne ▸ g.epsilon_mem_nullable
      · exact h x (List.mem_filter.mpr ⟨hx, by simpa using hne⟩)
    · exact fun h x hx => h x (List.mem_filter.mp hx).1
  · induction s with
    | nil => rfl
    | cons x s ih =>
      unfold Analysis.firstOfBody at ih ⊢
      rw [SymbolSets.mem_firstOfBody_cons _ a ha]
      by_cases hx : x = Symbol.epsilon
      · subst hx
        rw [Body.solid_epsilon_cons, ih, g.firstSound.terminal _ hε]
        simp [ha]
      · rw [Body.solid_cons_of_ne x s hx, SymbolSets.mem_firstOfBody_cons _ a ha, ih]

private theorem predicts_solid_iff (head : Symbol) (body : Body) (a : Symbol) :
    g.solid.analysis.Predicts head (Body.solid body) a ↔ g.analysis.Predicts head body a := by
  rw [← (g.alike_solid hε).predicts_iff, Analysis.Predicts, Analysis.Predicts,
    g.mem_firstOfBody_solid hε, g.mem_firstOfBody_solid hε]

private theorem predictsApart_solid (h : g.PredictsApart g.analysis) :
    g.solid.PredictsApart g.solid.analysis := by
  intro head
  simp only [alternatives_solid, List.forall_mem_map]
  intro b hb c hc hne a
  rw [g.predicts_solid_iff hε, g.predicts_solid_iff hε]
  exact h head b hb c hc (fun heq => hne (congrArg Body.solid heq)) a

private theorem table_solid (t : Table) (ht : g.table = .ok t) : g.solid.table = .ok t.solid := by
  have hapart := g.predictsApart_solid hε ((g.exists_table_iff g.analysis).mp ⟨t, ht⟩)
  obtain ⟨t', ht'⟩ := (g.solid.exists_table_iff g.solid.analysis).mpr hapart
  have hsame : t' = t.solid := by
    apply Table.ext_get?
    intro head a p
    rw [g.solid.get?_tableWith_iff_predicts _ t' ht', Table.get?_solid, Option.map_eq_some_iff,
      alternatives_solid]
    constructor
    · intro h
      obtain ⟨hhead, hbody, hpredicts⟩ := h
      obtain ⟨b, hb, hsolid⟩ := List.mem_map.mp hbody
      rw [← hsolid, g.predicts_solid_iff hε] at hpredicts
      refine ⟨⟨head, b⟩, ?_, ?_⟩
      · exact (g.get?_tableWith_iff_predicts _ t ht head a _).mpr ⟨rfl, hb, hpredicts⟩
      · cases p with
        | mk _ body =>
          subst hhead hsolid
          rfl
    · intro h
      obtain ⟨q, hq, hsolid⟩ := h
      obtain ⟨hhead, hbody, hpredicts⟩ := (g.get?_tableWith_iff_predicts _ t ht head a q).mp hq
      subst hsolid
      exact ⟨hhead, List.mem_map.mpr ⟨q.body, hbody, rfl⟩,
        (g.predicts_solid_iff hε head q.body a).mpr hpredicts⟩
  rw [table, ht', hsame]

private theorem exists_table_of_solid (h : ∃ t, g.solid.table = .ok t)
    (hdistinct : ∀ head, ∀ b ∈ g.alternatives head, ∀ c ∈ g.alternatives head,
      Body.solid b = Body.solid c → b = c) : ∃ t, g.table = .ok t := by
  apply (g.exists_table_iff g.analysis).mpr
  have hapart := (g.solid.exists_table_iff g.solid.analysis).mp h
  intro head b hb c hc hne a
  rw [← g.predicts_solid_iff hε, ← g.predicts_solid_iff hε]
  rw [PredictsApart] at hapart
  simp only [alternatives_solid, List.forall_mem_map] at hapart
  exact hapart head b hb c hc (fun heq => hne (hdistinct head b hb c hc heq)) a

end Terminal

private theorem sameRuns_solid (t : Table) :
    Parser.SameRuns (Parser.mk g t) (Parser.mk g.solid t.solid) Parser.grower where
  start := g.start?_solid.symm
  limit := by
    apply Parser.stepLimit_eq
    · rw [heads_solid]
    · exact t.widestPush_solid.symm
  step state c := by
    obtain ⟨stack, input⟩ := c
    cases stack with
    | nil => rfl
    | cons entry below =>
      simp only [Parser.step, isTerminal_solid, Table.get?_solid]
      cases t.get? entry.1 (Config.current ⟨entry :: below, input⟩).symbol with
      | none => rfl
      | some q => simp [Parser.grower]

/-- With `empty` no head, a grammar and its solid form have the same sets, and the solid form has
the solid form of the table, by which the parser builds the same trees. Conversely, a table of the
solid form shows that the grammar has one, if no two alternatives of a head become the same. -/
theorem epsilon_spelling_irrelevant (hε : g.isTerminal Symbol.epsilon = true) :
    g.analysis.Alike g.solid.analysis ∧
    (∀ t, g.table = .ok t → g.solid.table = .ok t.solid ∧
      ∀ tokens, (Parser.mk g t).tree tokens = (Parser.mk g.solid t.solid).tree tokens) ∧
    ((∃ t, g.solid.table = .ok t) →
      (∀ head, ∀ b ∈ g.alternatives head, ∀ c ∈ g.alternatives head,
        Body.solid b = Body.solid c → b = c) → ∃ t, g.table = .ok t) := by
  refine ⟨g.alike_solid hε, ?_, g.exists_table_of_solid hε⟩
  intro t ht
  exact ⟨g.table_solid hε t ht, fun tokens => (g.sameRuns_solid t).tree_eq _ _ tokens⟩

/-- Alternatives with `empty` in front, in the middle, at the end and alone. -/
def spelled : Grammar := Grammar.ofRules
  [(⟨"S"⟩, [[Symbol.epsilon, ⟨"A"⟩, Symbol.epsilon, ⟨"x"⟩], [Symbol.epsilon, Symbol.epsilon]]),
    (⟨"A"⟩, [[⟨"a"⟩, Symbol.epsilon], [Symbol.epsilon]])]

def spelledTable : Table := spelled.table.toOption.getD Table.empty

theorem epsilon_spelling_spelled : spelled.isTerminal Symbol.epsilon = true ∧
    spelled.table = .ok spelledTable ∧ spelled.solid.table = .ok spelledTable.solid ∧
    (Parser.mk spelled spelledTable).tree (["a", "x"].map Token.ofLabel) =
      (Parser.mk spelled.solid spelledTable.solid).tree (["a", "x"].map Token.ofLabel) ∧
    ∃ t, spelled.table = .ok t := by
  have hε : spelled.isTerminal Symbol.epsilon = true := by decide +kernel
  have htable : spelled.table = .ok spelledTable := by decide +kernel
  have hheads : ∀ head ∈ spelled.heads, ∀ b ∈ spelled.alternatives head,
      ∀ c ∈ spelled.alternatives head, Body.solid b = Body.solid c → b = c := by decide +kernel
  have hdistinct : ∀ head, ∀ b ∈ spelled.alternatives head, ∀ c ∈ spelled.alternatives head,
      Body.solid b = Body.solid c → b = c := by
    intro head
    by_cases hhead : head ∈ spelled.heads
    · exact hheads head hhead
    · simp [spelled.alternatives_of_new head hhead]
  obtain ⟨-, hforth, hback⟩ := epsilon_spelling_irrelevant spelled hε
  obtain ⟨hsolid, htree⟩ := hforth spelledTable htable
  exact ⟨hε, htable, hsolid, htree _, hback ⟨_, hsolid⟩ hdistinct⟩

end Grammar

end Predictive
