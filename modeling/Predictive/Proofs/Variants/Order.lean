import Predictive.Proofs.Parser.Run
import Predictive.Proofs.Variants.Inclusion
/-!
# The order of registration does not matter

Two grammars with the same start symbol, the same heads and the same alternatives for each head
derive the same strings. They have the same analysis and the same table, whatever the order in which
the rules and their alternatives come and however often an alternative is repeated.
-/
namespace Predictive

namespace Grammar

/-- The grammars start with the same head, and have the same heads with the same alternatives. -/
structure SameRules (g g' : Grammar) : Prop where
  start : g.start? = g'.start?
  heads : ∀ s, s ∈ g.heads ↔ s ∈ g'.heads
  alternatives : ∀ s body, body ∈ g.alternatives s ↔ body ∈ g'.alternatives s

private theorem sameRules_iff (g g' : Grammar) : g.SameRules g' ↔
    g.start? = g'.start? ∧ g.heads ⊆ g'.heads ∧ g'.heads ⊆ g.heads ∧
      ∀ s ∈ g.heads, g.alternatives s ⊆ g'.alternatives s ∧
        g'.alternatives s ⊆ g.alternatives s := by
  constructor
  · intro h
    exact ⟨h.start, fun s => (h.heads s).mp, fun s => (h.heads s).mpr,
      fun s _ => ⟨fun b => (h.alternatives s b).mp, fun b => (h.alternatives s b).mpr⟩⟩
  · intro h
    obtain ⟨hstart, hheads, hheads', halternatives⟩ := h
    refine ⟨hstart, fun s => ⟨@hheads s, @hheads' s⟩, ?_⟩
    intro s body
    by_cases hs : s ∈ g.heads
    · exact ⟨@(halternatives s hs).1 body, @(halternatives s hs).2 body⟩
    · have hs' : s ∉ g'.heads := fun hmem => hs (hheads' hmem)
      rw [g.alternatives_of_new s hs, g'.alternatives_of_new s hs']

instance (g g' : Grammar) : Decidable (g.SameRules g') :=
  decidable_of_iff _ (sameRules_iff g g').symm

namespace SameRules

variable {g g' : Grammar}

theorem symm (h : g.SameRules g') : g'.SameRules g where
  start := h.start.symm
  heads s := (h.heads s).symm
  alternatives s body := (h.alternatives s body).symm

theorem mem_productions_iff (h : g.SameRules g') (p : Production) :
    p ∈ g.productions ↔ p ∈ g'.productions := by
  rw [g.mem_productions_iff, g'.mem_productions_iff, h.alternatives]

private theorem mem_bodySymbols_iff (h : g.SameRules g') (s : Symbol) :
    s ∈ g.bodySymbols ↔ s ∈ g'.bodySymbols := by
  simp only [bodySymbols, List.mem_flatMap, h.mem_productions_iff]

theorem derives (h : g.SameRules g') (s t : Body) (hst : g.Derives s t) : g'.Derives s t := by
  induction hst with
  | refl s => exact .refl s
  | step s t u first _ ih =>
    refine .step s t u ?_ ih
    cases first with
    | expand before after p hp => exact .expand before after p ((h.mem_productions_iff p).mp hp)
    | vanish before after => exact .vanish before after

private theorem included (h : g.SameRules g') : g.Included g' where
  start := h.start
  heads := h.heads
  derives := ⟨fun _ => true, fun _ _ => rfl, fun s t hst => by simpa using h.derives s t hst⟩

private theorem analysis_eq (h : g.SameRules g') : g.analysis = g'.analysis := by
  have halike := h.included.alike h.symm.included
  have hfirst : g.analysis.first = g'.analysis.first := by
    apply OrderedMap.ext_getD _ _ OrderedSet.singleton
    · intro s
      rw [g.firstSound.present, g'.firstSound.present, h.heads, h.mem_bodySymbols_iff]
    · exact halike.first
  have hfollow : g.analysis.follow = g'.analysis.follow := by
    apply OrderedMap.ext_getD _ _ (fun _ => ∅)
    · intro s
      rw [g.followSound.present, g'.followSound.present, h.heads]
    · exact halike.follow
  exact Analysis.ext halike.nullable hfirst hfollow

private theorem predictsApart (h : g.SameRules g') (A : Analysis) (hapart : g.PredictsApart A) :
    g'.PredictsApart A := by
  intro head b hb c hc
  exact hapart head b ((h.alternatives head b).mpr hb) c ((h.alternatives head c).mpr hc)

private theorem table_eq_of_ok (h : g.SameRules g') (t : Table) (ht : g.table = .ok t) :
    g'.table = .ok t := by
  rw [table, h.analysis_eq] at ht
  have hapart := (g.exists_table_iff g'.analysis).mp ⟨t, ht⟩
  obtain ⟨t', ht'⟩ := (g'.exists_table_iff g'.analysis).mpr (h.predictsApart _ hapart)
  have hsame : t' = t := by
    apply Table.ext_get?
    intro head a p
    rw [g.get?_tableWith_iff_predicts g'.analysis t ht,
      g'.get?_tableWith_iff_predicts g'.analysis t' ht', h.alternatives]
  rw [table, ht', hsame]

private theorem length_heads (h : g.SameRules g') : g.heads.length = g'.heads.length :=
  ((List.perm_ext_iff_of_nodup g.heads_nodup g'.heads_nodup).mpr h.heads).length_eq

private theorem sameRuns {σ ι : Type} (h : g.SameRules g') (t : Table) (o : Observer σ ι) :
    Parser.SameRuns (Parser.mk g t) (Parser.mk g' t) o where
  start := h.start
  limit := Parser.stepLimit_eq _ _ h.length_heads rfl
  step state c := by simp only [Parser.step, h.included.isTerminal_eq]

end SameRules

/-- Grammars with the same rules have the same sets. They have the same table or both a conflict,
and with one table their parsers do the same with all tokens. -/
theorem registration_order_irrelevant (g g' : Grammar) (h : g.SameRules g') :
    g.analysis = g'.analysis ∧
    (∀ t, g.table = .ok t ↔ g'.table = .ok t) ∧
    ((∃ c, g.table = .error c) ↔ ∃ c, g'.table = .error c) ∧
    ∀ t tokens, (Parser.mk g t).trace tokens = (Parser.mk g' t).trace tokens ∧
      (Parser.mk g t).tree tokens = (Parser.mk g' t).tree tokens := by
  have htable (t : Table) : g.table = .ok t ↔ g'.table = .ok t :=
    ⟨h.table_eq_of_ok t, h.symm.table_eq_of_ok t⟩
  refine ⟨h.analysis_eq, htable, ?_, ?_⟩
  · have herror (e : Except Conflict Table) : (∃ c, e = .error c) ↔ ¬∃ t, e = .ok t := by
      cases e <;> simp
    simp only [herror, htable]
  · intro t tokens
    exact ⟨(h.sameRuns t Parser.recorder).trace_eq _ _ tokens,
      (h.sameRuns t Parser.grower).tree_eq _ _ tokens⟩

/-- Lists in parentheses. -/
def nested : Grammar := Grammar.ofRules
  [(⟨"L"⟩, [[⟨"("⟩, ⟨"M"⟩, ⟨")"⟩]]), (⟨"M"⟩, [[⟨"E"⟩, ⟨"M"⟩], [Symbol.epsilon]]),
    (⟨"E"⟩, [[⟨"x"⟩], [⟨"L"⟩]])]

/-- The same rules in another order, some of them twice. -/
def nestedShuffled : Grammar := Grammar.ofRules
  [(⟨"L"⟩, [[⟨"("⟩, ⟨"M"⟩, ⟨")"⟩], [⟨"("⟩, ⟨"M"⟩, ⟨")"⟩]]), (⟨"E"⟩, [[⟨"L"⟩], [⟨"x"⟩]]),
    (⟨"M"⟩, [[Symbol.epsilon], [⟨"E"⟩, ⟨"M"⟩], [Symbol.epsilon]])]

def nestedTable : Table := nested.table.toOption.getD Table.empty

theorem registration_order_nested : nested.SameRules nestedShuffled ∧
    nested.analysis = nestedShuffled.analysis ∧ nestedShuffled.table = .ok nestedTable ∧
    (Parser.mk nested nestedTable).tree (["(", "x", "(", ")", ")"].map Token.ofLabel) =
      (Parser.mk nestedShuffled nestedTable).tree
        (["(", "x", "(", ")", ")"].map Token.ofLabel) := by
  have hrules : nested.SameRules nestedShuffled := by decide +kernel
  have htable : nested.table = .ok nestedTable := by decide +kernel
  obtain ⟨hanalysis, htables, -, hparse⟩ :=
    registration_order_irrelevant nested nestedShuffled hrules
  exact ⟨hrules, hanalysis, (htables nestedTable).mp htable, (hparse nestedTable _).2⟩

end Grammar

end Predictive
