import Predictive.Proofs.Grammar.Leftmost
/-!
# Unfolding the front of a string

A string unfolds as long as productions are applied to the symbol in front. This is what a stack
machine does to its stack between two matches. Whatever a derivation brings to the front of a string
is also brought there by unfolding, since all other steps can wait.
-/
namespace Predictive

namespace Grammar

/-- Replaces the symbol in front by the given productions, time after time. -/
inductive Unfolds (g : Grammar) : Body → List Production → Body → Prop
  | refl (s : Body) : Unfolds g s [] s
  | expand (p : Production) (rest : Body) (ps : List Production) (t : Body)
    (h : p ∈ g.productions) (tail : Unfolds g (p.pushed ++ rest) ps t) :
    Unfolds g (p.head :: rest) (p :: ps) t

variable {g : Grammar}

theorem Unfolds.append (s : Body) (ps : List Production) (t : Body) (h : g.Unfolds s ps t)
    (below : Body) : g.Unfolds (s ++ below) ps (t ++ below) := by
  induction h with
  | refl s => exact .refl _
  | expand p rest ps t hp _ ih =>
    rw [List.append_assoc] at ih
    exact .expand p (rest ++ below) ps (t ++ below) hp ih

theorem Unfolds.trans (s : Body) (ps : List Production) (t : Body) (qs : List Production) (u : Body)
    (h : g.Unfolds s ps t) (h' : g.Unfolds t qs u) : g.Unfolds s (ps ++ qs) u := by
  induction h with
  | refl => exact h'
  | expand p rest ps t hp _ ih => exact .expand p rest (ps ++ qs) u hp (ih h')

theorem Unfolds.split (s below : Body) (ps : List Production) (u : Body)
    (h : g.Unfolds (s ++ below) ps u) :
    (∃ t, g.Unfolds s ps t ∧ u = t ++ below) ∨
      ∃ qs rs, g.Unfolds s qs [] ∧ g.Unfolds below rs u := by
  generalize hs : s ++ below = v at h
  induction h generalizing s with
  | refl => exact Or.inl ⟨s, .refl s, hs.symm⟩
  | expand p rest ps t hp tail ih =>
    cases s with
    | nil =>
      rw [List.nil_append] at hs
      subst hs
      exact Or.inr ⟨[], p :: ps, .refl [], .expand p rest ps t hp tail⟩
    | cons x s =>
      obtain ⟨rfl, hrest⟩ := List.cons.inj hs
      have hpushed : (p.pushed ++ s) ++ below = p.pushed ++ rest :=
        (List.append_assoc _ _ _).trans (congrArg (p.pushed ++ ·) hrest)
      rcases ih (p.pushed ++ s) hpushed with ⟨t', ht', rfl⟩ | ⟨qs, rs, hqs, hrs⟩
      · exact Or.inl ⟨t', .expand p s ps t' hp ht', rfl⟩
      · exact Or.inr ⟨p :: qs, rs, .expand p s qs [] hp hqs, hrs⟩

theorem Unfolds.derives (s : Body) (ps : List Production) (t : Body) (h : g.Unfolds s ps t) :
    g.Derives s t := by
  induction h with
  | refl s => exact .refl s
  | expand p rest ps t hp _ ih => exact (g.derives_pushed p hp [] rest).trans g _ _ _ ih

theorem Unfolds.yields (s : Body) (ps : List Production) (t : Body) (h : g.Unfolds s ps t)
    (qs : List Production) (w : Body) (hw : g.Yields t qs w) : g.Yields s (ps ++ qs) w := by
  induction h with
  | refl => exact hw
  | expand p rest ps t hp _ ih => exact .expand p rest (ps ++ qs) w hp (ih hw)

/-- A step anywhere in a string can wait until the symbol that it replaces comes to the front. -/
private theorem unfolds_of_solidStep (s t : Body) (hst : g.SolidStep s t) (ps : List Production)
    (x : Symbol) (v : Body) (h : g.Unfolds t ps (x :: v)) : ∃ qs u, g.Unfolds s qs (x :: u) := by
  cases hst with
  | expand before after p hp =>
    rw [List.append_assoc] at h
    have hwait (qs rs : List Production) (u : Body) (hbefore : g.Unfolds before qs [])
        (hafter : g.Unfolds (p.pushed ++ after) rs u) :
        g.Unfolds (before ++ p.head :: after) (qs ++ p :: rs) u :=
      (hbefore.append _ _ _ (p.head :: after)).trans _ _ _ _ _ (.expand p after rs u hp hafter)
    rcases h.split before (p.pushed ++ after) with ⟨t, ht, hu⟩ | ⟨qs, rs, hqs, hrs⟩
    · cases t with
      | nil => exact ⟨_, v, hwait ps [] (x :: v) ht (hu ▸ .refl _)⟩
      | cons y t =>
        obtain ⟨rfl, -⟩ := List.cons.inj hu
        exact ⟨ps, _, ht.append _ _ _ (p.head :: after)⟩
    · exact ⟨_, v, hwait qs rs (x :: v) hqs hrs⟩

theorem unfolds_of_solidDerives (s : Body) (x : Symbol) (v : Body)
    (h : g.SolidDerives s (x :: v)) : ∃ ps u, g.Unfolds s ps (x :: u) := by
  generalize ht : x :: v = t at h
  induction h with
  | refl => exact ⟨[], v, ht ▸ .refl _⟩
  | step s t _ first _ ih =>
    obtain ⟨ps, u, hu⟩ := ih ht
    exact unfolds_of_solidStep s t first ps x u hu

theorem SolidDerives.derives (s t : Body) (h : g.SolidDerives s t) : g.Derives s t := by
  induction h with
  | refl s => exact .refl s
  | step s t u first _ ih =>
    cases first with
    | expand before after p hp =>
      have hpushed := g.derives_pushed p hp before after
      rw [← List.append_assoc] at hpushed
      exact hpushed.trans g _ _ _ ih

theorem SolidDerives.epsilon_not_mem (s t : Body) (h : g.SolidDerives s t)
    (hs : Symbol.epsilon ∉ s) : Symbol.epsilon ∉ t := by
  induction h with
  | refl => exact hs
  | step s t u first _ ih =>
    cases first with
    | expand before after p hp =>
      apply ih
      simp only [List.mem_append, List.mem_cons, not_or] at hs ⊢
      exact ⟨⟨hs.1, p.epsilon_not_mem_pushed⟩, hs.2.2⟩

end Grammar

end Predictive
