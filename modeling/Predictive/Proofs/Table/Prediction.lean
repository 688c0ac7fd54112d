import Predictive.Proofs.Analysis.Follow
import Predictive.Table.Basic
/-!
# The table holds exactly the predictions

A table without conflicts holds a production in a cell just if the production is predicted there, so
two predictions for one cell are one production. Hence a symbol that can become empty and stands
before a lookahead does not also start with it.
-/
namespace Predictive

namespace Table

private theorem get?_insert_of_some (t t' : Table) (a : Symbol) (p : Production)
    (h : t.insert a p = .ok t') (head b : Symbol) (q : Production) (hq : t.get? head b = some q) :
    t'.get? head b = some q := by
  rw [get?_of_insert t t' a p h head b]
  split
  · next hcell =>
    rw [hcell.1, hcell.2] at hq
    rw [insert, hq] at h
    dsimp only at h
    split at h
    · next hqp => rw [hqp]
    · cases h
  · exact hq

/-- Filling cells without a conflict changes no filled cell and fills all those that are listed. -/
theorem get?_insertAll_iff (t t' : Table) (fills : List (Symbol × Production))
    (h : t.insertAll fills = .ok t') (head a : Symbol) (p : Production) :
    t'.get? head a = some p ↔
      t.get? head a = some p ∨ p.head = head ∧ (a, p) ∈ fills := by
  induction fills generalizing t with
  | nil =>
    cases h
    simp
  | cons fill fills ih =>
    obtain ⟨b, q⟩ := fill
    rw [insertAll] at h
    split at h
    · cases h
    · next t₁ hinsert =>
      rw [ih t₁ h, get?_of_insert t t₁ b q hinsert head a]
      constructor
      · rintro (hcell | ⟨hhead, hmem⟩)
        · split at hcell
          · next hnew =>
            cases hcell
            exact Or.inr ⟨hnew.1.symm, by simp [hnew.2]⟩
          · exact Or.inl hcell
        · exact Or.inr ⟨hhead, List.mem_cons_of_mem _ hmem⟩
      · rintro (hcell | ⟨hhead, hmem⟩)
        · left
          have hkept := get?_insert_of_some t t₁ b q hinsert head a p hcell
          rwa [get?_of_insert t t₁ b q hinsert head a] at hkept
        · rcases List.mem_cons.mp hmem with heq | hmem
          · cases heq
            exact Or.inl (if_pos ⟨hhead.symm, rfl⟩)
          · exact Or.inr ⟨hhead, hmem⟩

end Table

namespace Analysis

theorem mem_predicted (A : Analysis) (p : Production) (a : Symbol) :
    a ∈ A.predicted p ↔ a ≠ Symbol.epsilon ∧ (a ∈ A.firstOfBody p.body ∨
      Symbol.epsilon ∈ A.firstOfBody p.body ∧ a ∈ A.followOf p.head) := by
  have hend : Symbol.endMarker ≠ Symbol.epsilon := by decide
  unfold predicted
  by_cases hnil : Symbol.epsilon ∈ A.firstOfBody p.body
  · by_cases ha : a = Symbol.endMarker
    · subst ha
      by_cases hf : Symbol.endMarker ∈ A.followOf p.head <;>
        simp [hnil, hf, hend, Symbol.isEndMarker]
    · by_cases hf : Symbol.endMarker ∈ A.followOf p.head <;>
        simp [hnil, hf, ha, Symbol.isEndMarker, Symbol.isEpsilon] <;> grind
  · simp [hnil, and_comm]

end Analysis

namespace Grammar

theorem get?_tableWith_iff (g : Grammar) (A : Analysis) (t : Table) (h : g.tableWith A = .ok t)
    (head a : Symbol) (p : Production) :
    t.get? head a = some p ↔ p ∈ g.productions ∧ p.head = head ∧ a ∈ A.predicted p := by
  rw [Table.get?_insertAll_iff Table.empty t _ h head a p]
  simp only [Table.get?, Table.empty, OrderedMap.get?_empty, reduceCtorEq, false_or,
    List.mem_flatMap, List.mem_map, Prod.mk.injEq]
  constructor
  · rintro ⟨hhead, q, hq, b, hb, rfl, rfl⟩
    exact ⟨hq, hhead, hb⟩
  · rintro ⟨hp, hhead, ha⟩
    exact ⟨hhead, p, hp, a, ha, rfl, rfl⟩

theorem head_of_get? (g : Grammar) (A : Analysis) (t : Table) (ht : g.tableWith A = .ok t)
    (head a : Symbol) (p : Production) (h : t.get? head a = some p) : p.head = head :=
  ((g.get?_tableWith_iff A t ht head a p).mp h).2.1

theorem production_of_get? (g : Grammar) (t : Table) (ht : g.table = .ok t) (head a : Symbol)
    (p : Production) (h : t.get? head a = some p) : p ∈ g.productions ∧ p.head = head :=
  have hcell := (g.get?_tableWith_iff g.analysis t ht head a p).mp h
  ⟨hcell.1, hcell.2.1⟩

/-- Two productions of one head that are predicted for one lookahead are the same. -/
theorem predicted_unique (g : Grammar) (t : Table) (ht : g.table = .ok t) (p q : Production)
    (hp : p ∈ g.productions) (hq : q ∈ g.productions) (hhead : p.head = q.head) (a : Symbol)
    (hap : a ∈ g.analysis.predicted p) (haq : a ∈ g.analysis.predicted q) : p = q := by
  have hcell := (g.get?_tableWith_iff g.analysis t ht p.head a p).mpr ⟨hp, rfl, hap⟩
  rw [(g.get?_tableWith_iff g.analysis t ht p.head a q).mpr ⟨hq, hhead.symm, haq⟩] at hcell
  exact (Option.some.inj hcell).symm

/-- Lookaheads of the table are terminals or the end of the input. -/
theorem lookahead_of_predicted (g : Grammar) (p : Production) (a : Symbol)
    (h : a ∈ g.analysis.predicted p) : g.isTerminal a = true ∨ a = Symbol.endMarker := by
  obtain ⟨hne, hfirst | ⟨-, hfollow⟩⟩ := (g.analysis.mem_predicted p a).mp h
  · exact Or.inl (g.derives_of_mem_firstOfBody p.body a hfirst hne).1
  · rcases g.followSound.follows p.head a hfollow with ⟨hend, -⟩ | ⟨hterm, -⟩
    · exact Or.inr hend
    · exact Or.inl hterm

theorem StartsBy.mem_firstOf (g : Grammar) (a : Symbol) (hterm : g.isTerminal a = true)
    (ha : a ≠ Symbol.epsilon) (n : Nat) (s : Symbol) (h : g.StartsBy a n s) :
    a ∈ g.analysis.firstOf s := by
  obtain ⟨u, hu⟩ := h.derives g a n s
  rw [Analysis.firstOf, ← SymbolSets.firstOfBody_singleton]
  exact g.mem_firstOfBody_of_derives [s] u a hterm ha hu

private theorem exists_production_of_mem_firstOf (g : Grammar) (s a : Symbol) (hs : s ∈ g.heads)
    (ha : a ≠ Symbol.epsilon) (h : a ∈ g.analysis.firstOf s) :
    ∃ p ∈ g.productions, p.head = s ∧ a ∈ g.analysis.firstOfBody p.body := by
  obtain ⟨hterm, hstart⟩ := g.firstSound.starts s hs a h ha
  cases hn : g.heads.length with
  | zero =>
    rw [hn] at hstart
    exact False.elim hstart
  | succ n =>
    rw [hn] at hstart
    obtain ⟨p, hp, hhead, before, x, after, hbody, hbefore, hx⟩ := hstart
    refine ⟨p, hp, hhead, ?_⟩
    rw [hbody]
    apply g.mem_firstOfBody_of_split a ha before after x hbefore
    rcases hx with rfl | hx
    · exact g.mem_firstOf_self x hterm
    · exact StartsBy.mem_firstOf g a hterm ha n x hx

theorem predicted_of_vanishing (g : Grammar) (p : Production) (a : Symbol)
    (hnil : ∀ x ∈ p.body, x ∈ g.nullable) (ha : a ∈ g.analysis.followOf p.head) :
    a ∈ g.analysis.predicted p := by
  have hne : a ≠ Symbol.epsilon := by
    rintro rfl
    exact g.epsilon_not_mem_followOf p.head ha
  apply (g.analysis.mem_predicted p a).mpr
  exact ⟨hne, Or.inr ⟨(g.epsilon_mem_firstOfBody_iff p.body).mpr hnil, ha⟩⟩

theorem mem_nullable_of_pushed (g : Grammar) (n : Nat) (p : Production)
    (h : ∀ x ∈ p.pushed, g.VanishesBy n x) : ∀ x ∈ p.body, x ∈ g.nullable := by
  intro x hx
  by_cases hne : x = Symbol.epsilon
  · subst hne
    exact g.epsilon_mem_nullable
  · have hv := h x (List.mem_filter.mpr ⟨hx, by simpa using hne⟩)
    exact (g.derives_nil_iff [x]).mp (hv.derives_nil g n x) x List.mem_cons_self

private theorem mem_followOf_of_nullable_body (g : Grammar) (p : Production)
    (hp : p ∈ g.productions) (hnil : ∀ x ∈ p.body, x ∈ g.nullable) (a : Symbol)
    (ha : a ∈ g.analysis.followOf p.head) (x : Symbol) (hx : x ∈ p.body) (hhead : x ∈ g.heads) :
    a ∈ g.analysis.followOf x := by
  obtain ⟨before, after, hbody⟩ := List.append_of_mem hx
  have ho : (⟨p.head, x, after⟩ : Occurrence) ∈ g.occurrences :=
    (g.mem_occurrences _).mpr ⟨hhead, p, hp, rfl, before, hbody⟩
  apply g.mem_followOf_occurrence _ ho a
  right
  refine ⟨(g.epsilon_mem_firstOfBody_iff after).mpr ?_, ha⟩
  exact fun y hy => hnil y (by simp [hbody, hy])

theorem predicted_of_split (g : Grammar) (p : Production) (a : Symbol) (ha : a ≠ Symbol.epsilon)
    (before after : Body) (x : Symbol) (hbody : p.body = before ++ x :: after)
    (hbefore : ∀ y ∈ before, y ∈ g.nullable) (hx : a ∈ g.analysis.firstOf x) :
    a ∈ g.analysis.predicted p := by
  apply (g.analysis.mem_predicted p a).mpr
  refine ⟨ha, Or.inl ?_⟩
  rw [hbody]
  exact g.mem_firstOfBody_of_split a ha before after x hbefore hx

theorem ne_epsilon_of_mem_firstOf (g : Grammar) (hε : g.isTerminal Symbol.epsilon = true)
    (x a : Symbol) (ha : a ≠ Symbol.epsilon) (h : a ∈ g.analysis.firstOf x) :
    x ≠ Symbol.epsilon := by
  rintro rfl
  rw [Analysis.firstOf, g.firstSound.terminal _ hε, OrderedSet.mem_singleton] at h
  exact ha h

/-- A head that can become empty does not start with what follows it. -/
theorem not_mem_firstOf_of_vanishesBy (g : Grammar) (t : Table) (ht : g.table = .ok t)
    (hε : g.isTerminal Symbol.epsilon = true) (n : Nat) (s : Symbol) (hs : g.VanishesBy n s)
    (a : Symbol) (hfollow : a ∈ g.analysis.followOf s) : ¬a ∈ g.analysis.firstOf s := by
  intro hfirst
  induction n generalizing s with
  | zero => exact False.elim hs
  | succ n ih =>
    have hhead := hs.mem_heads g _ s
    have hne : a ≠ Symbol.epsilon := by
      rintro rfl
      exact g.epsilon_not_mem_followOf s hfollow
    obtain ⟨p, hp, rfl, hpushed⟩ := hs
    obtain ⟨q, hq, hqhead, hqfirst⟩ :=
      g.exists_production_of_mem_firstOf p.head a hhead hne hfirst
    have hnil := g.mem_nullable_of_pushed n p hpushed
    -- Both productions are predicted, so the body that becomes empty also starts with the symbol.
    have hqp : q = p := g.predicted_unique t ht q p hq hp hqhead a
      ((g.analysis.mem_predicted q a).mpr ⟨hne, Or.inl hqfirst⟩)
      (g.predicted_of_vanishing p a hnil hfollow)
    subst hqp
    obtain ⟨before, x, after, hbody, -, hx⟩ :=
      (SymbolSets.mem_firstOfBody_iff _ a hne q.body).mp hqfirst
    have hmem : x ∈ q.body := by simp [hbody]
    have hxne := g.ne_epsilon_of_mem_firstOf hε x a hne hx
    have hv := hpushed x (List.mem_filter.mpr ⟨hmem, by simpa using hxne⟩)
    exact ih x hv (g.mem_followOf_of_nullable_body q hp hnil a hfollow x hmem
      (VanishesBy.mem_heads g n x hv)) hx

end Grammar

end Predictive
