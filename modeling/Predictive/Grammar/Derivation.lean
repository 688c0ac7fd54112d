import Predictive.Grammar.Basic
/-!
# Derivations

What the productions of a grammar mean. A step of a derivation replaces a head by one of its
alternatives or drops an `empty`. A leftmost derivation drops every `empty` at once and replaces the
leftmost head only, so it is known by the productions that it applies.
-/
namespace Predictive

namespace Grammar

inductive Step (g : Grammar) : Body → Body → Prop
  | expand (before after : Body) (p : Production) (h : p ∈ g.productions) :
    Step g (before ++ p.head :: after) (before ++ p.body ++ after)
  | vanish (before after : Body) : Step g (before ++ Symbol.epsilon :: after) (before ++ after)

/-- Any number of steps. -/
inductive Derives (g : Grammar) : Body → Body → Prop
  | refl (s : Body) : Derives g s s
  | step (s t u : Body) (first : Step g s t) (rest : Derives g t u) : Derives g s u

/-- A derivation that applies the given productions in order, each to the leftmost head. -/
inductive LeftDerives (g : Grammar) : Body → List Production → Body → Prop
  | refl (s : Body) : LeftDerives g s [] s
  | step (before after : Body) (p : Production) (ps : List Production) (t : Body)
    (terminals : ∀ s ∈ before, g.isTerminal s = true) (h : p ∈ g.productions)
    (rest : LeftDerives g (before ++ p.pushed ++ after) ps t) :
    LeftDerives g (before ++ p.head :: after) (p :: ps) t

/-- The sentences of the grammar: the strings of terminals that the start symbol derives. -/
def IsSentence (g : Grammar) (w : Body) : Prop :=
  (∀ s ∈ w, g.isTerminal s = true) ∧ ∃ start ps, g.start? = some start ∧ g.LeftDerives [start] ps w

theorem Step.append (g : Grammar) (s t left right : Body) (h : g.Step s t) :
    g.Step (left ++ s ++ right) (left ++ t ++ right) := by
  cases h with
  | expand before after p h =>
    have := Step.expand (left ++ before) (after ++ right) p h
    simpa [List.append_assoc] using this
  | vanish before after =>
    have := Step.vanish (g := g) (left ++ before) (after ++ right)
    simpa [List.append_assoc] using this

theorem Derives.trans (g : Grammar) (s t u : Body) (h₁ : g.Derives s t) (h₂ : g.Derives t u) :
    g.Derives s u := by
  induction h₁ with
  | refl => exact h₂
  | step s t _ first _ ih => exact .step s t u first (ih h₂)

theorem Derives.append (g : Grammar) (s t left right : Body) (h : g.Derives s t) :
    g.Derives (left ++ s ++ right) (left ++ t ++ right) := by
  induction h with
  | refl => exact .refl _
  | step s t u first _ ih => exact .step _ _ _ (first.append g s t left right) ih

theorem Derives.concat (g : Grammar) (s s' t t' : Body) (hs : g.Derives s s')
    (ht : g.Derives t t') : g.Derives (s ++ t) (s' ++ t') := by
  have h₁ := hs.append g s s' [] t
  have h₂ := ht.append g t t' s' []
  simp only [List.nil_append, List.append_nil] at h₁ h₂
  exact h₁.trans g _ _ _ h₂

end Grammar

end Predictive
