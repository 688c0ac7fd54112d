import Predictive.Proofs.Grammar.Derivation
/-!
# Leftmost derivations of terminal strings

A derivation step may replace any head by the solid part of one of its bodies. If such steps lead to
a string of terminals, then steps that always replace the leftmost head lead there as well. The link
is the relation `Grammar.Yields`, which reads a string from left to right the way a stack machine
does.
-/
namespace Predictive

namespace Grammar

/-- Replaces one occurrence of a head by the body of an alternative without its `empty` symbols. -/
inductive SolidStep (g : Grammar) : Body → Body → Prop
  | expand (before after : Body) (p : Production) (h : p ∈ g.productions) :
    SolidStep g (before ++ p.head :: after) (before ++ p.pushed ++ after)

inductive SolidDerives (g : Grammar) : Body → Body → Prop
  | refl (s : Body) : SolidDerives g s s
  | step (s t u : Body) (first : SolidStep g s t) (rest : SolidDerives g t u) : SolidDerives g s u

/-- A string yields a string of terminals by the given productions, applied from left to right. -/
inductive Yields (g : Grammar) : Body → List Production → Body → Prop
  | nil : Yields g [] [] []
  | terminal (s : Symbol) (rest : Body) (ps : List Production) (w : Body)
    (h : g.isTerminal s = true) (tail : Yields g rest ps w) : Yields g (s :: rest) ps (s :: w)
  | expand (p : Production) (rest : Body) (ps : List Production) (w : Body)
    (h : p ∈ g.productions) (tail : Yields g (p.pushed ++ rest) ps w) :
    Yields g (p.head :: rest) (p :: ps) w

variable {g : Grammar}

theorem Yields.refl (w : Body) (hw : ∀ s ∈ w, g.isTerminal s = true) : g.Yields w [] w := by
  induction w with
  | nil => exact .nil
  | cons s w ih =>
    exact .terminal s w [] w (hw s List.mem_cons_self)
      (ih (fun x hx => hw x (List.mem_cons_of_mem _ hx)))

theorem Yields.append (s t : Body) (ps qs : List Production) (w v : Body)
    (hs : g.Yields s ps w) (ht : g.Yields t qs v) : g.Yields (s ++ t) (ps ++ qs) (w ++ v) := by
  induction hs with
  | nil => exact ht
  | terminal x rest ps w hx _ ih => exact .terminal x (rest ++ t) (ps ++ qs) (w ++ v) hx ih
  | expand p rest ps w hp _ ih =>
    rw [List.append_assoc] at ih
    exact .expand p (rest ++ t) (ps ++ qs) (w ++ v) hp ih

/-- What two strings yield together comes from the two apart. -/
theorem Yields.split (s t : Body) (ps : List Production) (w : Body) (h : g.Yields (s ++ t) ps w) :
    ∃ ps₁ ps₂ w₁ w₂, ps = ps₁ ++ ps₂ ∧ w = w₁ ++ w₂ ∧ g.Yields s ps₁ w₁ ∧ g.Yields t ps₂ w₂ := by
  generalize hst : s ++ t = u at h
  induction h generalizing s with
  | nil =>
    obtain ⟨rfl, rfl⟩ := List.append_eq_nil_iff.mp hst
    exact ⟨[], [], [], [], rfl, rfl, .nil, .nil⟩
  | terminal x rest ps w hx tail ih =>
    cases s with
    | nil =>
      rw [List.nil_append] at hst
      subst hst
      exact ⟨[], ps, [], x :: w, rfl, rfl, .nil, .terminal x rest ps w hx tail⟩
    | cons y s =>
      obtain ⟨rfl, hrest⟩ := List.cons.inj hst
      obtain ⟨ps₁, ps₂, w₁, w₂, rfl, rfl, h₁, h₂⟩ := ih s hrest
      exact ⟨ps₁, ps₂, y :: w₁, w₂, rfl, rfl, .terminal y s ps₁ w₁ hx h₁, h₂⟩
  | expand p rest ps w hp tail ih =>
    cases s with
    | nil =>
      rw [List.nil_append] at hst
      subst hst
      exact ⟨[], p :: ps, [], w, rfl, rfl, .nil, .expand p rest ps w hp tail⟩
    | cons y s =>
      obtain ⟨rfl, hrest⟩ := List.cons.inj hst
      have hpushed : (p.pushed ++ s) ++ t = p.pushed ++ rest :=
        (List.append_assoc _ _ _).trans (congrArg (p.pushed ++ ·) hrest)
      obtain ⟨ps₁, ps₂, w₁, w₂, rfl, rfl, h₁, h₂⟩ := ih (p.pushed ++ s) hpushed
      exact ⟨p :: ps₁, ps₂, w₁, w₂, rfl, rfl, .expand p s ps₁ w₁ hp h₁, h₂⟩

theorem Yields.isTerminal (s : Body) (ps : List Production) (w : Body) (h : g.Yields s ps w) :
    ∀ x ∈ w, g.isTerminal x = true := by
  induction h with
  | nil => simp
  | terminal x rest ps w hx _ ih => exact List.forall_mem_cons.mpr ⟨hx, ih⟩
  | expand _ _ _ _ _ _ ih => exact ih

/-- Productions push no `empty`, so none comes up in the end. -/
theorem Yields.epsilon_not_mem (s : Body) (ps : List Production) (w : Body) (h : g.Yields s ps w)
    (hs : Symbol.epsilon ∉ s) : Symbol.epsilon ∉ w := by
  induction h with
  | nil => exact hs
  | terminal x rest ps w _ _ ih =>
    obtain ⟨hx, hrest⟩ := not_or.mp (fun h => hs (List.mem_cons.mpr h))
    exact fun h => (List.mem_cons.mp h).elim hx (ih hrest)
  | expand p rest ps w _ _ ih =>
    apply ih
    intro h
    rcases List.mem_append.mp h with h | h
    · exact p.epsilon_not_mem_pushed h
    · exact hs (List.mem_cons_of_mem _ h)

theorem Yields.derives (s : Body) (ps : List Production) (w : Body) (h : g.Yields s ps w) :
    g.Derives s w := by
  induction h with
  | nil => exact .refl []
  | terminal x rest ps w _ _ ih => exact (Derives.refl [x]).concat g [x] [x] rest w ih
  | expand p rest ps w hp _ ih => exact (g.derives_pushed p hp [] rest).trans g _ _ _ ih

theorem Yields.solidDerives (s : Body) (ps : List Production) (w : Body) (h : g.Yields s ps w)
    (before : Body) : g.SolidDerives (before ++ s) (before ++ w) := by
  induction h generalizing before with
  | nil => exact .refl _
  | terminal x rest ps w _ _ ih => simpa using ih (before ++ [x])
  | expand p rest ps w hp _ ih =>
    refine .step _ _ _ (.expand before rest p hp) ?_
    simpa [List.append_assoc] using ih before

theorem Yields.leftDerives (s : Body) (ps : List Production) (w : Body) (h : g.Yields s ps w)
    (before : Body) (hbefore : ∀ x ∈ before, g.isTerminal x = true) :
    g.LeftDerives (before ++ s) ps (before ++ w) := by
  induction h generalizing before with
  | nil => exact .refl _
  | terminal x rest ps w hx _ ih =>
    have hall : ∀ y ∈ before ++ [x], g.isTerminal y = true :=
      List.forall_mem_append.mpr ⟨hbefore, List.forall_mem_singleton.mpr hx⟩
    simpa using ih (before ++ [x]) hall
  | expand p rest ps w hp _ ih =>
    refine .step before rest p ps _ hbefore hp ?_
    simpa [List.append_assoc] using ih before hbefore

private theorem yields_of_solidStep (s t : Body) (hst : g.SolidStep s t) (ps : List Production)
    (w : Body) (h : g.Yields t ps w) : ∃ qs, g.Yields s qs w := by
  cases hst with
  | expand before after p hp =>
    rw [List.append_assoc] at h
    obtain ⟨ps₁, ps₂, w₁, w₂, rfl, rfl, h₁, h₂⟩ := h.split before (p.pushed ++ after)
    exact ⟨_, h₁.append _ _ _ _ _ _ (.expand p after ps₂ w₂ hp h₂)⟩

/-- Derivations of terminal strings can be put in order from left to right. -/
theorem yields_of_solidDerives (s w : Body) (h : g.SolidDerives s w)
    (hw : ∀ x ∈ w, g.isTerminal x = true) : ∃ ps, g.Yields s ps w := by
  induction h with
  | refl w => exact ⟨[], .refl w hw⟩
  | step s t w first _ ih =>
    obtain ⟨ps, hps⟩ := ih hw
    exact yields_of_solidStep s t first ps w hps

theorem Yields.of_terminals (s : Body) (ps : List Production) (w : Body) (h : g.Yields s ps w)
    (hs : ∀ x ∈ s, g.isTerminal x = true) : ps = [] ∧ w = s := by
  induction h with
  | nil => exact ⟨rfl, rfl⟩
  | terminal x rest ps w _ _ ih =>
    obtain ⟨rfl, rfl⟩ := ih (fun y hy => hs y (List.mem_cons_of_mem _ hy))
    exact ⟨rfl, rfl⟩
  | expand p rest ps w hp _ _ =>
    exact absurd (g.head_mem_heads p hp) ((g.isTerminal_iff _).mp (hs _ List.mem_cons_self))

theorem Yields.of_terminal (s : Symbol) (rest : Body) (ps : List Production) (w : Body)
    (h : g.Yields (s :: rest) ps w) (hs : g.isTerminal s = true) :
    ∃ v, w = s :: v ∧ g.Yields rest ps v := by
  cases h with
  | terminal _ _ _ v _ tail => exact ⟨v, rfl, tail⟩
  | expand p _ _ _ hp _ => exact absurd (g.head_mem_heads p hp) ((g.isTerminal_iff _).mp hs)

theorem Yields.of_head (s : Symbol) (rest : Body) (ps : List Production) (w : Body)
    (h : g.Yields (s :: rest) ps w) (hs : s ∈ g.heads) :
    ∃ p qs, p ∈ g.productions ∧ p.head = s ∧ ps = p :: qs ∧ g.Yields (p.pushed ++ rest) qs w := by
  cases h with
  | terminal _ _ _ _ hterm _ => exact absurd hs ((g.isTerminal_iff s).mp hterm)
  | expand p _ qs _ hp tail => exact ⟨p, qs, hp, rfl, rfl, tail⟩

theorem LeftDerives.trans (s : Body) (ps : List Production) (t : Body) (qs : List Production)
    (u : Body) (h : g.LeftDerives s ps t) (h' : g.LeftDerives t qs u) :
    g.LeftDerives s (ps ++ qs) u := by
  induction h with
  | refl => exact h'
  | step before after p ps t hbefore hp _ ih =>
    exact .step before after p (ps ++ qs) u hbefore hp (ih h')

theorem LeftDerives.derives (s : Body) (ps : List Production) (t : Body)
    (h : g.LeftDerives s ps t) : g.Derives s t := by
  induction h with
  | refl s => exact .refl s
  | step before after p ps t _ hp _ ih =>
    have hpushed := g.derives_pushed p hp before after
    rw [← List.append_assoc] at hpushed
    exact hpushed.trans g _ _ _ ih

/-- A leftmost derivation of a string of terminals reads it from left to right. -/
theorem LeftDerives.yields (s : Body) (ps : List Production) (w : Body)
    (h : g.LeftDerives s ps w) (hw : ∀ x ∈ w, g.isTerminal x = true) : g.Yields s ps w := by
  induction h with
  | refl w => exact .refl w hw
  | step before after p ps w hbefore hp _ ih =>
    have hyields := ih hw
    rw [List.append_assoc] at hyields
    obtain ⟨ps₁, ps₂, w₁, w₂, rfl, rfl, h₁, h₂⟩ := hyields.split before (p.pushed ++ after)
    obtain ⟨rfl, rfl⟩ := h₁.of_terminals _ _ _ hbefore
    exact h₁.append _ _ _ _ _ _ (.expand p after ps₂ w₂ hp h₂)

end Grammar

end Predictive
