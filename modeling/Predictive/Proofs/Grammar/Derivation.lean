import Predictive.Grammar.Derivation
/-!
# Laws of derivations

Heads and terminals of a grammar, and derivations put together from derivations of single symbols.
-/
namespace Predictive

theorem Production.epsilon_not_mem_pushed (p : Production) : Symbol.epsilon ∉ p.pushed := by
  simp [pushed, Body.solid]

namespace Grammar

theorem isTerminal_iff (g : Grammar) (s : Symbol) : g.isTerminal s = true ↔ s ∉ g.heads := by
  simp [isTerminal]

theorem isTerminal_eq_false_iff (g : Grammar) (s : Symbol) :
    g.isTerminal s = false ↔ s ∈ g.heads := by
  simp [isTerminal]

theorem head_mem_heads (g : Grammar) (p : Production) (h : p ∈ g.productions) :
    p.head ∈ g.heads := by
  obtain ⟨r, hr, hp⟩ := List.mem_flatMap.mp h
  obtain ⟨body, _, rfl⟩ := List.mem_map.mp hp
  exact List.mem_map.mpr ⟨r, hr, rfl⟩

private theorem find?_rule (rs : List Rule) (h : (rs.map Rule.head).Nodup) (r : Rule)
    (hr : r ∈ rs) : rs.find? (fun x => x.head = r.head) = some r := by
  induction rs with
  | nil => exact absurd hr List.not_mem_nil
  | cons x rs ih =>
    obtain ⟨hx, hrs⟩ := List.nodup_cons.mp h
    rcases List.mem_cons.mp hr with rfl | hr
    · simp
    · have hne : x.head ≠ r.head := fun e => hx (e ▸ List.mem_map.mpr ⟨r, hr, rfl⟩)
      rw [List.find?_cons_of_neg (by simpa using hne)]
      exact ih hrs hr

theorem mem_productions_iff (g : Grammar) (p : Production) :
    p ∈ g.productions ↔ p.body ∈ g.alternatives p.head := by
  constructor
  · intro h
    obtain ⟨r, hr, hp⟩ := List.mem_flatMap.mp h
    obtain ⟨body, hbody, rfl⟩ := List.mem_map.mp hp
    simpa [alternatives, find?_rule g.rules g.heads_nodup r hr] using hbody
  · intro h
    unfold alternatives at h
    split at h
    · next r hr =>
      have hhead : r.head = p.head := by simpa using List.find?_some hr
      refine List.mem_flatMap.mpr ⟨r, List.mem_of_find?_eq_some hr, ?_⟩
      exact List.mem_map.mpr ⟨p.body, h, by rw [hhead]⟩
    · exact absurd h List.not_mem_nil

theorem alternatives_of_new (g : Grammar) (head : Symbol) (h : head ∉ g.heads) :
    g.alternatives head = [] := by
  have hnone : g.rules.find? (fun r => r.head = head) = none := by
    apply List.find?_eq_none.mpr
    intro r hr heq
    exact h (List.mem_map.mpr ⟨r, hr, by simpa using heq⟩)
  rw [alternatives, hnone]

theorem start_mem_heads (g : Grammar) (start : Symbol) (h : g.start? = some start) :
    start ∈ g.heads := List.mem_of_head? h

theorem epsilon_not_mem_start (g : Grammar) (hε : g.isTerminal Symbol.epsilon = true)
    (start : Symbol) (h : g.start? = some start) : Symbol.epsilon ∉ [start] := by
  intro hmem
  rw [List.mem_singleton.mp hmem] at hε
  exact (g.isTerminal_iff start).mp hε (g.start_mem_heads start h)

theorem mem_bodySymbols (g : Grammar) (p : Production) (h : p ∈ g.productions) (s : Symbol)
    (hs : s ∈ p.body) : s ∈ g.bodySymbols :=
  List.mem_flatMap.mpr ⟨p, h, hs⟩

theorem Derives.single (g : Grammar) (s t : Body) (h : g.Step s t) : g.Derives s t :=
  .step s t t h (.refl t)

theorem derives_body (g : Grammar) (p : Production) (h : p ∈ g.productions) :
    g.Derives [p.head] p.body := by
  have hstep := Step.expand (g := g) [] [] p h
  simp only [List.nil_append, List.append_nil] at hstep
  exact .single g _ _ hstep

theorem derives_epsilon_nil (g : Grammar) : g.Derives [Symbol.epsilon] [] :=
  .single g _ _ (Step.vanish [] [])

theorem derives_nil_of_forall (g : Grammar) (s : Body) (h : ∀ x ∈ s, g.Derives [x] []) :
    g.Derives s [] := by
  induction s with
  | nil => exact .refl []
  | cons x s ih =>
    have hx := h x List.mem_cons_self
    have hs := ih (fun y hy => h y (List.mem_cons_of_mem _ hy))
    exact hx.concat g [x] [] s [] hs

/-- Every `empty` can be dropped. -/
theorem derives_solid (g : Grammar) (s : Body) : g.Derives s (Body.solid s) := by
  induction s with
  | nil => exact .refl []
  | cons x s ih =>
    by_cases hx : x = Symbol.epsilon
    · subst hx
      have hsolid : Body.solid (Symbol.epsilon :: s) = [] ++ Body.solid s := by simp [Body.solid]
      rw [hsolid]
      exact (g.derives_epsilon_nil).concat g [Symbol.epsilon] [] s _ ih
    · have hsolid : Body.solid (x :: s) = [x] ++ Body.solid s := by simp [Body.solid, hx]
      rw [hsolid]
      exact (Derives.refl [x]).concat g [x] [x] s _ ih

/-- What a step of the parser puts in place of a head is derived from it. -/
theorem derives_pushed (g : Grammar) (p : Production) (h : p ∈ g.productions)
    (before after : Body) :
    g.Derives (before ++ p.head :: after) (before ++ (p.pushed ++ after)) := by
  have hpushed := (g.derives_body p h).trans g _ _ _ (g.derives_solid p.body)
  simpa [Production.pushed] using hpushed.append g _ _ before after

end Grammar

end Predictive
