import Mathlib.Control.Monad.Basic
import Mathlib.Logic.ExistsUnique
import Predictive.Proofs.Table.Prediction
/-!
# What follows a nullable head does not start it

Under a table without conflicts, the alternative by which a head becomes empty is predicted for all
that follows the head. So it is the only one of its kind, and no alternative starts with a symbol
that also follows the head.
-/
namespace Predictive

namespace Grammar

private theorem predicted_of_follow (g : Grammar) (head a : Symbol) (body : Body)
    (hbody : body ∈ g.alternatives head)
    (hnil : Symbol.epsilon ∈ g.analysis.firstOfBody body) (ha : a ∈ g.analysis.followOf head) :
    (⟨head, body⟩ : Production) ∈ g.productions ∧
      a ∈ g.analysis.predicted ⟨head, body⟩ := by
  refine ⟨(g.mem_productions_iff ⟨head, body⟩).mpr hbody, ?_⟩
  exact g.predicted_of_vanishing ⟨head, body⟩ a ((g.epsilon_mem_firstOfBody_iff body).mp hnil) ha

private theorem exists_vanishing_alternative (g : Grammar) (n : Nat) (head : Symbol)
    (h : g.VanishesBy n head) :
    ∃ body ∈ g.alternatives head, Symbol.epsilon ∈ g.analysis.firstOfBody body := by
  cases n with
  | zero => exact False.elim h
  | succ n =>
    obtain ⟨p, hp, rfl, hpushed⟩ := h
    refine ⟨p.body, (g.mem_productions_iff p).mp hp, ?_⟩
    exact (g.epsilon_mem_firstOfBody_iff p.body).mpr (g.mem_nullable_of_pushed n p hpushed)

/-- FIRST and FOLLOW of a nullable head have no symbol in common. If anything follows the head then
exactly one of its alternatives can become empty. -/
theorem nullable_head_separates (g : Grammar) (t : Table) (ht : g.table = .ok t)
    (hε : g.isTerminal Symbol.epsilon = true) (head : Symbol) (hhead : head ∈ g.heads)
    (hnull : g.analysis.isNullable head = true) :
    (∀ a, ¬(a ∈ g.analysis.firstOf head ∧ a ∈ g.analysis.followOf head)) ∧
    (g.analysis.followOf head ≠ ∅ →
      ∃! body, body ∈ g.alternatives head ∧ Symbol.epsilon ∈ g.analysis.firstOfBody body) := by
  have hne : head ≠ Symbol.epsilon := by
    rintro rfl
    exact (g.isTerminal_iff _).mp hε hhead
  have hmem : head ∈ g.nullable := of_decide_eq_true hnull
  have hvanish := (g.vanishesBy_of_mem_nullable head hmem).resolve_left hne
  constructor
  · rintro a ⟨hfirst, hfollow⟩
    exact g.not_mem_firstOf_of_vanishesBy t ht hε _ head hvanish a hfollow hfirst
  · intro hsome
    obtain ⟨a, ha⟩ := OrderedSet.exists_mem_of_ne_empty _ hsome
    obtain ⟨body, hbody, hnil⟩ := g.exists_vanishing_alternative _ head hvanish
    refine ⟨body, ⟨hbody, hnil⟩, ?_⟩
    rintro other ⟨hother, hothernil⟩
    obtain ⟨hp, hap⟩ := g.predicted_of_follow head a other hother hothernil ha
    obtain ⟨hq, haq⟩ := g.predicted_of_follow head a body hbody hnil ha
    exact congrArg Production.body (g.predicted_unique t ht _ _ hp hq rfl a hap haq)

/-- A head that becomes empty through two other heads. -/
def nestedOptions : Grammar := Grammar.ofRules
  [(⟨"S"⟩, [[⟨"A"⟩, ⟨"c"⟩]]), (⟨"A"⟩, [[⟨"a"⟩, ⟨"A"⟩], [⟨"B"⟩, Symbol.epsilon, ⟨"D"⟩]]),
    (⟨"B"⟩, [[⟨"b"⟩], []]), (⟨"D"⟩, [[⟨"d"⟩], [Symbol.epsilon]])]

def nestedOptionsTable : Table := nestedOptions.table.toOption.getD Table.empty

theorem nullable_head_separates_nested :
    nestedOptions.table = .ok nestedOptionsTable ∧
    nestedOptions.isTerminal Symbol.epsilon = true ∧ (⟨"A"⟩ : Symbol) ∈ nestedOptions.heads ∧
    nestedOptions.analysis.isNullable ⟨"A"⟩ = true ∧
    nestedOptions.analysis.followOf ⟨"A"⟩ = OrderedSet.singleton ⟨"c"⟩ ∧
    (∀ a, ¬(a ∈ nestedOptions.analysis.firstOf ⟨"A"⟩ ∧
      a ∈ nestedOptions.analysis.followOf ⟨"A"⟩)) ∧
    ∃! body, body ∈ nestedOptions.alternatives ⟨"A"⟩ ∧
      Symbol.epsilon ∈ nestedOptions.analysis.firstOfBody body := by
  have ht : nestedOptions.table = .ok nestedOptionsTable := by decide
  have hε : nestedOptions.isTerminal Symbol.epsilon = true := by decide
  have hhead : (⟨"A"⟩ : Symbol) ∈ nestedOptions.heads := by decide
  have hnull : nestedOptions.analysis.isNullable ⟨"A"⟩ = true := by decide
  have hfollow : nestedOptions.analysis.followOf ⟨"A"⟩ = OrderedSet.singleton ⟨"c"⟩ := by decide
  have hsome : nestedOptions.analysis.followOf ⟨"A"⟩ ≠ ∅ := by decide
  obtain ⟨hapart, hone⟩ :=
    nullable_head_separates nestedOptions nestedOptionsTable ht hε ⟨"A"⟩ hhead hnull
  exact ⟨ht, hε, hhead, hnull, hfollow, hapart, hone hsome⟩

end Grammar

end Predictive
