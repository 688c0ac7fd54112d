import Mathlib.Data.List.Basic
import Predictive.Proofs.Grammar.Leftmost
import Predictive.Proofs.Table.Prediction
/-!
# The table determines leftmost derivations

What a leftmost derivation applies next is predicted for the next symbol of the string that it leads
to. A table without conflicts predicts one production there, so the grammar is unambiguous.
-/
namespace Predictive

namespace Grammar

/-- A leftmost derivation applies a production that is predicted for the next symbol. -/
theorem predicted_of_yields (g : Grammar) (start : Symbol) (hstart : g.start? = some start)
    (q : Production) (hq : q ∈ g.productions) (before rest w : Body) (ps : List Production)
    (hreach : g.Derives [start] (before ++ q.head :: rest))
    (h : g.Yields (q.pushed ++ rest) ps w) (hε : Symbol.epsilon ∉ w) :
    w.headD Symbol.endMarker ∈ g.analysis.predicted q := by
  have hterm := h.isTerminal _ ps w
  have hhead := g.head_mem_heads q hq
  obtain ⟨ps₁, ps₂, w₁, w₂, rfl, rfl, h₁, h₂⟩ := h.split q.pushed rest ps w
  have hbody : g.Derives q.body w₁ := (g.derives_solid q.body).trans g _ _ _ (h₁.derives _ _ _)
  have hrest : g.Derives [start] ((before ++ [q.head]) ++ w₂) := by
    have hkept := (Derives.refl (before ++ [q.head])).concat g _ _ rest w₂ (h₂.derives _ _ _)
    refine hreach.trans g _ _ _ ?_
    simpa using hkept
  apply (g.analysis.mem_predicted q _).mpr
  cases w₁ with
  | cons a w₁ =>
    have ha : a ≠ Symbol.epsilon := fun e => hε (by simp [e])
    exact ⟨ha, Or.inl (g.mem_firstOfBody_of_derives q.body w₁ a (hterm a (by simp)) ha hbody)⟩
  | nil =>
    have hnil := (g.epsilon_mem_firstOfBody_iff q.body).mpr ((g.derives_nil_iff q.body).mp hbody)
    cases w₂ with
    | cons a w₂ =>
      have ha : a ≠ Symbol.epsilon := fun e => hε (by simp [e])
      refine ⟨ha, Or.inr ⟨hnil, ?_⟩⟩
      apply g.mem_followOf_of_derives start q.head a before w₂ hhead (hterm a (by simp)) ha
      simpa using hrest
    | nil =>
      refine ⟨by decide, Or.inr ⟨hnil, ?_⟩⟩
      apply g.endMarker_mem_followOf_of_derives start q.head before hhead hstart
      simpa using hrest

private theorem yields_unique (g : Grammar) (t : Table) (ht : g.table = .ok t) (start : Symbol)
    (hstart : g.start? = some start) (s : Body) (ps : List Production) (w : Body)
    (h : g.Yields s ps w) (before : Body) (hreach : g.Derives [start] (before ++ s))
    (hε : Symbol.epsilon ∉ w) (qs : List Production) (h' : g.Yields s qs w) : ps = qs := by
  induction h generalizing before qs with
  | nil =>
    cases h'
    rfl
  | terminal x rest ps w hx _ ih =>
    have hrest : Symbol.epsilon ∉ w := fun h => hε (List.mem_cons_of_mem _ h)
    cases h' with
    | terminal _ _ _ _ _ tail => exact ih (before ++ [x]) (by simpa using hreach) hrest qs tail
    | expand p _ _ _ hp _ => exact absurd (g.head_mem_heads p hp) ((g.isTerminal_iff _).mp hx)
  | expand p rest ps w hp tail ih =>
    obtain ⟨q, qs, hq, hhead, rfl, tail'⟩ := h'.of_head _ _ _ _ (g.head_mem_heads p hp)
    -- Both derivations replace the head in front, and both productions are predicted for `w`.
    have hreach' : g.Derives [start] (before ++ q.head :: rest) := hhead ▸ hreach
    have hpq : p = q := g.predicted_unique t ht p q hp hq hhead.symm _
      (g.predicted_of_yields start hstart p hp before rest w ps hreach tail hε)
      (g.predicted_of_yields start hstart q hq before rest w qs hreach' tail' hε)
    subst hpq
    have hreach'' := hreach.trans g _ _ _ (g.derives_pushed p hp before rest)
    rw [ih before hreach'' hε qs tail']

/-- A grammar whose table has no conflicts is unambiguous: a string of terminals has at most one
leftmost derivation from the start symbol. -/
theorem leftDerives_unique (g : Grammar) (t : Table) (ht : g.table = .ok t)
    (hε : g.isTerminal Symbol.epsilon = true) (start : Symbol) (hstart : g.start? = some start)
    (w : Body) (hw : ∀ s ∈ w, g.isTerminal s = true) (ps qs : List Production)
    (h : g.LeftDerives [start] ps w) (h' : g.LeftDerives [start] qs w) : ps = qs := by
  have hyields := h.yields _ _ _ hw
  have hne := g.epsilon_not_mem_start hε start hstart
  exact g.yields_unique t ht start hstart [start] ps w hyields [] (.refl [start])
    (hyields.epsilon_not_mem _ _ _ hne) qs (h'.yields _ _ _ hw)

/-- Sums of at least one summand. -/
def sums : Grammar := Grammar.ofRules
  [(⟨"E"⟩, [[⟨"T"⟩, ⟨"R"⟩]]), (⟨"R"⟩, [[⟨"+"⟩, ⟨"T"⟩, ⟨"R"⟩], [Symbol.epsilon]]),
    (⟨"T"⟩, [[⟨"id"⟩]])]

def sumsTable : Table := sums.table.toOption.getD Table.empty

def twoSummands : List Production :=
  [⟨⟨"E"⟩, [⟨"T"⟩, ⟨"R"⟩]⟩, ⟨⟨"T"⟩, [⟨"id"⟩]⟩, ⟨⟨"R"⟩, [⟨"+"⟩, ⟨"T"⟩, ⟨"R"⟩]⟩,
    ⟨⟨"T"⟩, [⟨"id"⟩]⟩, ⟨⟨"R"⟩, [Symbol.epsilon]⟩]

private theorem leftDerives_twoSummands :
    sums.LeftDerives [⟨"E"⟩] twoSummands [⟨"id"⟩, ⟨"+"⟩, ⟨"id"⟩] := by
  refine .step [] [] ⟨⟨"E"⟩, [⟨"T"⟩, ⟨"R"⟩]⟩ _ _ (by simp) (by decide +kernel) ?_
  refine .step [] [⟨"R"⟩] ⟨⟨"T"⟩, [⟨"id"⟩]⟩ _ _ (by simp) (by decide +kernel) ?_
  refine .step [⟨"id"⟩] [] ⟨⟨"R"⟩, [⟨"+"⟩, ⟨"T"⟩, ⟨"R"⟩]⟩ _ _ (by decide +kernel)
    (by decide +kernel) ?_
  refine .step [⟨"id"⟩, ⟨"+"⟩] [⟨"R"⟩] ⟨⟨"T"⟩, [⟨"id"⟩]⟩ _ _ (by decide +kernel)
    (by decide +kernel) ?_
  refine .step [⟨"id"⟩, ⟨"+"⟩, ⟨"id"⟩] [] ⟨⟨"R"⟩, [Symbol.epsilon]⟩ _ _ (by decide +kernel)
    (by decide +kernel) ?_
  exact .refl _

theorem leftDerives_twoSummands_unique : sums.table = .ok sumsTable ∧
    sums.LeftDerives [⟨"E"⟩] twoSummands [⟨"id"⟩, ⟨"+"⟩, ⟨"id"⟩] ∧
    ∀ qs, sums.LeftDerives [⟨"E"⟩] qs [⟨"id"⟩, ⟨"+"⟩, ⟨"id"⟩] → qs = twoSummands := by
  have htable : sums.table = .ok sumsTable := by decide +kernel
  refine ⟨htable, leftDerives_twoSummands, ?_⟩
  intro qs hqs
  exact leftDerives_unique sums sumsTable htable (by decide +kernel) ⟨"E"⟩ (by decide +kernel) _
    (by decide +kernel) qs twoSummands hqs leftDerives_twoSummands

end Grammar

end Predictive
