import Predictive.Proofs.Table.Conflict
/-!
# Grammars that derive the same strings have the same analysis

Nullable symbols, FIRST and FOLLOW are known by the strings that a grammar derives. So if a grammar
derives all that another one does, apart from symbols `empty` that it leaves out, then its sets hold
at least as much, and two grammars that include each other predict the same.
-/
namespace Predictive

/-- The two analyses answer every question alike. -/
structure Analysis.Alike (A B : Analysis) : Prop where
  nullable : A.nullable = B.nullable
  first : ∀ s, A.firstOf s = B.firstOf s
  firstOfBody : ∀ s, A.firstOfBody s = B.firstOfBody s
  follow : ∀ s, A.followOf s = B.followOf s

theorem Analysis.Alike.predicts_iff {A B : Analysis} (h : A.Alike B) (head : Symbol) (body : Body)
    (a : Symbol) : A.Predicts head body a ↔ B.Predicts head body a := by
  simp only [Predicts, h.firstOfBody, h.follow]

namespace Grammar

/-- The second grammar has the heads and the start symbol of the first one, and derives all that the
first one does, apart from symbols `empty` that are left out. -/
structure Included (g g' : Grammar) : Prop where
  start : g.start? = g'.start?
  heads : ∀ s, s ∈ g.heads ↔ s ∈ g'.heads
  derives : ∃ keeps : Symbol → Bool, (∀ s, s ∈ g.heads ∨ s ≠ Symbol.epsilon → keeps s = true) ∧
    ∀ s t, g.Derives s t → g'.Derives s (t.filter keeps)

namespace Included

variable {g g' : Grammar}

theorem isTerminal_eq (h : g.Included g') (s : Symbol) : g.isTerminal s = g'.isTerminal s := by
  simp [isTerminal, h.heads s]

private theorem mem_nullable (h : g.Included g') (s : Symbol) (hs : s ∈ g.nullable) :
    s ∈ g'.nullable := by
  obtain ⟨keeps, -, hderives⟩ := h.derives
  have hnil := hderives [s] [] ((g.derives_nil_iff [s]).mpr (by simpa using hs))
  simpa using (g'.derives_nil_iff [s]).mp hnil

theorem mem_firstOfBody (h : g.Included g') (s : Body) (a : Symbol)
    (ha : a ∈ g.analysis.firstOfBody s) : a ∈ g'.analysis.firstOfBody s := by
  by_cases hne : a = Symbol.epsilon
  · subst hne
    rw [epsilon_mem_firstOfBody_iff] at ha ⊢
    exact fun x hx => h.mem_nullable x (ha x hx)
  · obtain ⟨keeps, hkeeps, hderives⟩ := h.derives
    obtain ⟨hterm, u, hu⟩ := g.derives_of_mem_firstOfBody s a ha hne
    have hderived := hderives s (a :: u) hu
    rw [List.filter_cons_of_pos (hkeeps a (Or.inr hne))] at hderived
    exact g'.mem_firstOfBody_of_derives s _ a (h.isTerminal_eq a ▸ hterm) hne hderived

theorem followedBy (h : g.Included g') (s a : Symbol) (hs : s ∈ g.heads)
    (ha : g.FollowedBy s a) : g'.FollowedBy s a := by
  obtain ⟨keeps, hkeeps, hderives⟩ := h.derives
  have hkept := hkeeps s (Or.inl hs)
  cases ha with
  | inl hend =>
    obtain ⟨hmark, start, u, hstart, hu⟩ := hend
    have hderived := hderives [start] (u ++ [s]) hu
    rw [List.filter_append, List.filter_cons_of_pos hkept] at hderived
    exact Or.inl ⟨hmark, start, u.filter keeps, h.start ▸ hstart, hderived⟩
  | inr hnext =>
    obtain ⟨hterm, hne, head, hhead, u, v, huv⟩ := hnext
    have hderived := hderives [head] (u ++ s :: a :: v) huv
    rw [List.filter_append, List.filter_cons_of_pos hkept,
      List.filter_cons_of_pos (hkeeps a (Or.inr hne))] at hderived
    exact Or.inr ⟨h.isTerminal_eq a ▸ hterm, hne, head, (h.heads head).mp hhead,
      u.filter keeps, v.filter keeps, hderived⟩

private theorem mem_followOf (h : g.Included g') (s a : Symbol) (ha : a ∈ g.analysis.followOf s) :
    a ∈ g'.analysis.followOf s := by
  have hs := g.mem_heads_of_mem_followOf s a ha
  have hs' := (h.heads s).mp hs
  cases h.followedBy s a hs (g.followSound.follows s a ha) with
  | inl hend =>
    obtain ⟨rfl, start, u, hstart, hu⟩ := hend
    exact g'.endMarker_mem_followOf_of_derives start s u hs' hstart hu
  | inr hnext =>
    obtain ⟨hterm, hne, head, -, u, v, huv⟩ := hnext
    exact g'.mem_followOf_of_derives head s a u v hs' hterm hne huv

/-- Grammars that include each other have sets with the same members. -/
theorem alike (h : g.Included g') (h' : g'.Included g) : g.analysis.Alike g'.analysis := by
  have hbody (s : Body) : g.analysis.firstOfBody s = g'.analysis.firstOfBody s := by
    apply OrderedSet.ext_mem
    intro a
    exact ⟨h.mem_firstOfBody s a, h'.mem_firstOfBody s a⟩
  constructor
  · apply OrderedSet.ext_mem
    intro s
    exact ⟨h.mem_nullable s, h'.mem_nullable s⟩
  · intro s
    have hs := hbody [s]
    simp only [Analysis.firstOfBody, SymbolSets.firstOfBody_singleton] at hs
    exact hs
  · exact hbody
  · intro s
    apply OrderedSet.ext_mem
    intro a
    exact ⟨h.mem_followOf s a, h'.mem_followOf s a⟩

end Included

end Grammar

end Predictive
