import Mathlib.Data.List.Basic
import Predictive.Proofs.Table.Prediction
/-!
# The table is the relation of prediction, and its conflicts come first

For any sets, the table exists just if no symbol is predicted for two different alternatives of one
head, and then it holds these predictions and nothing else. Otherwise the conflict reported is the
first one: no earlier production clashes with one before it, no earlier lookahead of the production
attempted does, and the existing production is the first one that is predicted there.
-/
namespace Predictive

namespace Table

private theorem insertAll_append (t : Table) (xs ys : List (Symbol × Production)) :
    t.insertAll (xs ++ ys) = (t.insertAll xs).bind (fun t' => t'.insertAll ys) := by
  induction xs generalizing t with
  | nil => rfl
  | cons x xs ih =>
    obtain ⟨a, p⟩ := x
    rw [List.cons_append, insertAll, insertAll]
    cases t.insert a p with
    | error c => rfl
    | ok t' => exact ih t'

private theorem insert_eq_error (t : Table) (a : Symbol) (p : Production) (c : Conflict)
    (h : t.insert a p = .error c) :
    c.cell = ⟨p.head, a⟩ ∧ c.attempted = p ∧ t.get? p.head a = some c.existing ∧
      c.existing ≠ p := by
  unfold insert at h
  split at h
  · cases h
  · next existing hcell =>
    split at h
    · cases h
    · next hne =>
      cases h
      exact ⟨rfl, rfl, hcell, hne⟩

private theorem insertAll_eq_error (t : Table) (fills : List (Symbol × Production)) (c : Conflict)
    (h : t.insertAll fills = .error c) :
    ∃ before a p after t', fills = before ++ (a, p) :: after ∧ t.insertAll before = .ok t' ∧
      t'.insert a p = .error c := by
  induction fills generalizing t with
  | nil => cases h
  | cons fill fills ih =>
    obtain ⟨b, q⟩ := fill
    rw [insertAll] at h
    split at h
    · next c' hinsert =>
      cases h
      exact ⟨[], b, q, fills, t, rfl, rfl, hinsert⟩
    · next t₁ hinsert =>
      obtain ⟨before, a, p, after, t', hfills, hbefore, hconflict⟩ := ih t₁ h
      refine ⟨(b, q) :: before, a, p, after, t', by rw [hfills]; rfl, ?_, hconflict⟩
      rw [insertAll, hinsert]
      exact hbefore

end Table

namespace Analysis

/-- The prediction of a body for a lookahead: FIRST of the body, and FOLLOW of its head if the body
can become empty, `empty` left out of both. -/
def Predicts (A : Analysis) (head : Symbol) (body : Body) (a : Symbol) : Prop :=
  a ≠ Symbol.epsilon ∧
    (a ∈ A.firstOfBody body ∨ Symbol.epsilon ∈ A.firstOfBody body ∧ a ∈ A.followOf head)

/-- The round in which a lookahead of a production comes: FIRST of its body, then FOLLOW of its
head, then the end of the input. -/
def round (A : Analysis) (p : Production) (a : Symbol) : Nat :=
  if a ∈ A.firstOfBody p.body then 0 else if a = Symbol.endMarker then 2 else 1

/-- Lookaheads come round by round, and in ascending order within a round. -/
def Sooner (A : Analysis) (p : Production) (a b : Symbol) : Prop :=
  A.round p a < A.round p b ∨ A.round p a = A.round p b ∧ compare a b = .lt

/-- A production is predicted for a lookahead for which an earlier, different one of its head is. -/
def Clashes (A : Analysis) (earlier : List Production) (p : Production) (a : Symbol) : Prop :=
  A.Predicts p.head p.body a ∧
    ∃ q ∈ earlier, q.head = p.head ∧ q ≠ p ∧ A.Predicts q.head q.body a

/-- The cells that a production fills, in order. -/
def fillsOf (A : Analysis) (p : Production) : List (Symbol × Production) :=
  (A.predicted p).map (fun a => (a, p))

private theorem mem_fillsOf (A : Analysis) (ps : List Production) (a : Symbol) (p : Production) :
    (a, p) ∈ ps.flatMap A.fillsOf ↔ p ∈ ps ∧ A.Predicts p.head p.body a := by
  have hpredicts : A.Predicts p.head p.body a ↔ a ∈ A.predicted p := (A.mem_predicted p a).symm
  rw [hpredicts]
  simp only [fillsOf, List.mem_flatMap, List.mem_map, Prod.mk.injEq]
  constructor
  · rintro ⟨q, hq, b, hb, rfl, rfl⟩
    exact ⟨hq, hb⟩
  · rintro ⟨hp, ha⟩
    exact ⟨p, hp, a, ha, rfl, rfl⟩

private theorem ne_endMarker_of_mem_filter (follow : SymbolSet) (a : Symbol)
    (h : a ∈ (follow.filter (fun s => !s.isEpsilon && !s.isEndMarker)).toList) :
    a ≠ Symbol.endMarker := by
  rintro rfl
  have hmem := (OrderedSet.mem_filter _ _ _).mp h
  simp [Symbol.isEndMarker] at hmem

private theorem predicted_rounds (A : Analysis) (p : Production) :
    ∃ later, A.predicted p = ((A.firstOfBody p.body).erase Symbol.epsilon).toList ++ later ∧
      later.Pairwise (fun a b => a ∉ A.firstOfBody p.body → b ∉ A.firstOfBody p.body →
        A.Sooner p a b) := by
  refine ⟨_, rfl, ?_⟩
  split
  · refine List.pairwise_append.mpr ⟨?_, ?_, ?_⟩
    · refine (OrderedSet.ascending _).imp_of_mem ?_
      intro a b ha hb hlt hafirst hbfirst
      have hane := ne_endMarker_of_mem_filter _ a ha
      have hbne := ne_endMarker_of_mem_filter _ b hb
      exact Or.inr ⟨by simp [round, hafirst, hbfirst, hane, hbne], hlt⟩
    · split <;> simp
    · intro a ha b hb hafirst hbfirst
      have hane := ne_endMarker_of_mem_filter _ a ha
      have hend : b = Symbol.endMarker := by
        split at hb
        · exact List.mem_singleton.mp hb
        · exact absurd hb List.not_mem_nil
      subst hend
      exact Or.inl (by simp [round, hafirst, hbfirst, hane])
  · exact List.Pairwise.nil

private theorem sooner_of_split (A : Analysis) (p : Production) (l r : List Symbol) (a b : Symbol)
    (hsplit : A.predicted p = l ++ a :: r) (ha : a ∉ l) (hb : b ∈ A.predicted p) (hbl : b ∉ l)
    (hba : b ≠ a) : A.Sooner p a b := by
  obtain ⟨later, hrounds, hlater⟩ := A.predicted_rounds p
  have hfirst (x : Symbol) (hx : x ∈ A.predicted p) (hxfirst : x ∈ A.firstOfBody p.body) :
      x ∈ ((A.firstOfBody p.body).erase Symbol.epsilon).toList :=
    (OrderedSet.mem_erase x _ _).mpr ⟨hxfirst, ((A.mem_predicted p x).mp hx).1⟩
  have hamem : a ∈ A.predicted p := by simp [hsplit]
  have hbehind (xs : List Symbol) (hbx : b ∈ l ++ a :: xs) : b ∈ xs :=
    (List.mem_cons.mp ((List.mem_append.mp hbx).resolve_left hbl)).resolve_left hba
  have hbr : b ∈ r := hbehind r (hsplit ▸ hb)
  rw [hrounds] at hsplit
  rcases Grammar.split_append_eq _ _ l r a hsplit with ⟨rest, hround, rfl⟩ | ⟨skipped, hround, rfl⟩
  · -- The lookahead listed first belongs to the first round.
    have hafirst : a ∈ A.firstOfBody p.body := by
      have hmem : a ∈ ((A.firstOfBody p.body).erase Symbol.epsilon).toList := by simp [hround]
      exact ((OrderedSet.mem_erase a _ _).mp hmem).1
    by_cases hbfirst : b ∈ A.firstOfBody p.body
    · have hbrest := hbehind rest (hround ▸ hfirst b hb hbfirst)
      have hascending := ((A.firstOfBody p.body).erase Symbol.epsilon).ascending
      rw [hround] at hascending
      have htail := (List.pairwise_append.mp hascending).2.1
      exact Or.inr ⟨by simp [round, hafirst, hbfirst], (List.pairwise_cons.mp htail).1 b hbrest⟩
    · left
      simp only [round, if_pos hafirst, if_neg hbfirst]
      split <;> decide
  · have hafirst : a ∉ A.firstOfBody p.body :=
      fun h => ha (List.mem_append_left _ (hfirst a hamem h))
    have hbfirst : b ∉ A.firstOfBody p.body := fun h => hbl (List.mem_append_left _ (hfirst b hb h))
    rw [hround] at hlater
    have htail := (List.pairwise_append.mp hlater).2.1
    exact (List.pairwise_cons.mp htail).1 b hbr hafirst hbfirst

end Analysis

namespace Grammar

/-- No symbol is predicted for two different alternatives of a head. -/
def PredictsApart (g : Grammar) (A : Analysis) : Prop :=
  ∀ head, ∀ b ∈ g.alternatives head, ∀ c ∈ g.alternatives head, b ≠ c →
    ∀ a, A.Predicts head b a → ¬A.Predicts head c a

/-- The conflict is the first one that the productions lead to, in the order in which they are
registered and their lookaheads come. -/
structure FirstConflict (g : Grammar) (A : Analysis) (c : Conflict) : Prop where
  head : c.cell.head = c.attempted.head
  attempted : ∃ before after, g.productions = before ++ c.attempted :: after ∧
    (∀ earlier p later, before = earlier ++ p :: later → ∀ a, ¬A.Clashes earlier p a) ∧
    A.Clashes before c.attempted c.cell.lookahead ∧
    ∀ a, A.Clashes before c.attempted a → a ≠ c.cell.lookahead →
      A.Sooner c.attempted c.cell.lookahead a
  existing : ∃ before after, g.productions = before ++ c.existing :: after ∧
    c.existing.head = c.cell.head ∧ c.existing ≠ c.attempted ∧
    A.Predicts c.existing.head c.existing.body c.cell.lookahead ∧
    ∀ p ∈ before, p.head = c.cell.head → ¬A.Predicts p.head p.body c.cell.lookahead

private theorem exists_production_of_error (A : Analysis) (t : Table) (ps : List Production)
    (c : Conflict) (h : t.insertAll (ps.flatMap A.fillsOf) = .error c) :
    ∃ before after t', ps = before ++ c.attempted :: after ∧
      t.insertAll (before.flatMap A.fillsOf) = .ok t' ∧
      t'.insertAll (A.fillsOf c.attempted) = .error c := by
  induction ps generalizing t with
  | nil => cases h
  | cons p ps ih =>
    rw [List.flatMap_cons, Table.insertAll_append] at h
    cases hfill : t.insertAll (A.fillsOf p) with
    | error d =>
      rw [hfill] at h
      cases h
      obtain ⟨before, a, q, after, t', hsplit, -, hinsert⟩ := t.insertAll_eq_error _ c hfill
      have hmem : (a, q) ∈ A.fillsOf p := by simp [hsplit]
      obtain ⟨b, -, hbq⟩ := List.mem_map.mp hmem
      cases hbq
      rw [(t'.insert_eq_error a p c hinsert).2.1]
      exact ⟨[], ps, t, rfl, rfl, hfill⟩
    | ok t₁ =>
      rw [hfill] at h
      obtain ⟨before, after, t', rfl, hbefore, herror⟩ := ih t₁ h
      refine ⟨p :: before, after, t', rfl, ?_, herror⟩
      rw [List.flatMap_cons, Table.insertAll_append, hfill]
      exact hbefore

/-- What is in the table when it comes to a conflict: all predictions of the productions before, and
those of the production attempted for the lookaheads before. -/
private theorem exists_filled_of_error (g : Grammar) (A : Analysis) (c : Conflict)
    (h : g.tableWith A = .error c) :
    ∃ before after l r, ∃ t : Table, g.productions = before ++ c.attempted :: after ∧
      A.predicted c.attempted = l ++ c.cell.lookahead :: r ∧ c.cell.head = c.attempted.head ∧
      t.get? c.attempted.head c.cell.lookahead = some c.existing ∧ c.existing ≠ c.attempted ∧
      ∀ head b q, t.get? head b = some q ↔ q.head = head ∧
        (q ∈ before ∧ A.Predicts q.head q.body b ∨ q = c.attempted ∧ b ∈ l) := by
  obtain ⟨before, after, t₁, hps, hbefore, herror⟩ :=
    exists_production_of_error A Table.empty g.productions c h
  obtain ⟨fills, a, p, rest, t₂, hsplit, hfills, hinsert⟩ := t₁.insertAll_eq_error _ c herror
  obtain ⟨hcell, hattempted, hget, hne⟩ := t₂.insert_eq_error a p c hinsert
  obtain ⟨l, r', hpredicted, hl, hr'⟩ := List.map_eq_append_iff.mp hsplit
  obtain ⟨b, r, rfl, hb, -⟩ := List.map_eq_cons_iff.mp hr'
  cases hb
  refine ⟨before, after, l, r, t₂, hps, ?_, by rw [hcell], ?_, hne, ?_⟩
  · rw [hcell]
    exact hpredicted
  · rw [hcell]
    exact hget
  · intro head b q
    have hfilled : Table.empty.insertAll (before.flatMap A.fillsOf ++ fills) = .ok t₂ := by
      rw [Table.insertAll_append, hbefore]
      exact hfills
    have hlist : (b, q) ∈ fills ↔ q = c.attempted ∧ b ∈ l := by
      rw [← hl]
      simp only [List.mem_map, Prod.mk.injEq]
      constructor
      · rintro ⟨x, hx, rfl, rfl⟩
        exact ⟨rfl, hx⟩
      · rintro ⟨rfl, hb⟩
        exact ⟨b, hb, rfl, rfl⟩
    rw [Table.get?_insertAll_iff Table.empty t₂ _ hfilled, List.mem_append, A.mem_fillsOf, hlist]
    simp [Table.get?, Table.empty]

private theorem firstConflict_of_error (g : Grammar) (A : Analysis) (c : Conflict)
    (h : g.tableWith A = .error c) : g.FirstConflict A c := by
  obtain ⟨before, after, l, r, t, hps, hpredicted, hhead, hget, hne, hfilled⟩ :=
    g.exists_filled_of_error A c h
  have hunique (q q' : Production) (b : Symbol) (hq : t.get? q.head b = some q)
      (hq' : t.get? q'.head b = some q') (hqq' : q.head = q'.head) : q = q' := by
    rw [hqq', hq'] at hq
    exact (Option.some.inj hq).symm
  have hlisted (q : Production) (b : Symbol) (hq : q ∈ before) (hb : A.Predicts q.head q.body b) :
      t.get? q.head b = some q := (hfilled q.head b q).mpr ⟨rfl, Or.inl ⟨hq, hb⟩⟩
  have hnot (b : Symbol) (hclash : A.Clashes before c.attempted b) : b ∉ l := by
    intro hb
    obtain ⟨-, q, hq, hqhead, hqne, hqb⟩ := hclash
    have hattempted := (hfilled c.attempted.head b c.attempted).mpr ⟨rfl, Or.inr ⟨rfl, hb⟩⟩
    exact hqne (hunique q c.attempted b (hlisted q b hq hqb) hattempted hqhead)
  obtain ⟨hexhead, hexisting⟩ := (hfilled _ _ _).mp hget
  obtain ⟨hexmem, hexpredicts⟩ := hexisting.resolve_right (fun h => hne h.1)
  have hclash : A.Clashes before c.attempted c.cell.lookahead := by
    refine ⟨(A.mem_predicted _ _).mp (by simp [hpredicted]), ?_⟩
    exact ⟨c.existing, hexmem, hexhead, hne, hexpredicts⟩
  refine ⟨hhead, ⟨before, after, hps, ?_, hclash, ?_⟩, ?_⟩
  · rintro earlier p later rfl a ⟨hp, q, hq, hqhead, hqne, hqa⟩
    exact hqne (hunique q p a (hlisted q a (by simp [hq]) hqa) (hlisted p a (by simp) hp) hqhead)
  · intro b hb hbne
    exact A.sooner_of_split c.attempted l r c.cell.lookahead b hpredicted (hnot _ hclash)
      ((A.mem_predicted _ b).mpr hb.1) (hnot b hb) hbne
  · -- Every production that is predicted for the lookahead is the one in its cell.
    classical
    obtain ⟨p, first, last, hfirst, hp, rfl, -⟩ :=
      List.exists_of_eraseP (p := fun q => decide (q.head = c.cell.head ∧
        A.Predicts q.head q.body c.cell.lookahead)) hexmem
        (decide_eq_true ⟨hexhead.trans hhead.symm, hexpredicts⟩)
    obtain ⟨hphead, hpredicts⟩ := of_decide_eq_true hp
    have hpcell := hlisted p c.cell.lookahead (by simp) hpredicts
    rw [hphead, hhead, hget] at hpcell
    cases hpcell
    refine ⟨first, last ++ c.attempted :: after, by simp [hps], hphead, hne, hpredicts, ?_⟩
    intro q hq hqhead hqpredicts
    exact hfirst q hq (decide_eq_true ⟨hqhead, hqpredicts⟩)

theorem get?_tableWith_iff_predicts (g : Grammar) (A : Analysis) (t : Table)
    (ht : g.tableWith A = .ok t) (head a : Symbol) (p : Production) :
    t.get? head a = some p ↔
      p.head = head ∧ p.body ∈ g.alternatives head ∧ A.Predicts head p.body a := by
  have hpredicts : a ∈ A.predicted p ↔ A.Predicts p.head p.body a := A.mem_predicted p a
  rw [g.get?_tableWith_iff A t ht, g.mem_productions_iff, hpredicts]
  constructor
  · rintro ⟨hbody, rfl, ha⟩
    exact ⟨rfl, hbody, ha⟩
  · rintro ⟨rfl, hbody, ha⟩
    exact ⟨hbody, rfl, ha⟩

private theorem FirstConflict.not_predictsApart (g : Grammar) (A : Analysis) (c : Conflict)
    (h : g.FirstConflict A c) : ¬g.PredictsApart A := by
  intro hapart
  obtain ⟨before, after, hps, -, ⟨hp, q, hq, hqhead, hqne, hqa⟩, -⟩ := h.attempted
  have hbody := (g.mem_productions_iff c.attempted).mp (by simp [hps])
  have hqbody := (g.mem_productions_iff q).mp (by simp [hps, hq])
  rw [hqhead] at hqbody hqa
  have hne : q.body ≠ c.attempted.body := fun e => hqne (congrArg₂ Production.mk hqhead e)
  exact hapart _ _ hqbody _ hbody hne _ hqa hp

theorem exists_table_iff (g : Grammar) (A : Analysis) :
    (∃ t, g.tableWith A = .ok t) ↔ g.PredictsApart A := by
  constructor
  · rintro ⟨t, ht⟩ head b hb c hc hne a hba hca
    have hbcell := (g.get?_tableWith_iff_predicts A t ht head a ⟨head, b⟩).mpr ⟨rfl, hb, hba⟩
    rw [(g.get?_tableWith_iff_predicts A t ht head a ⟨head, c⟩).mpr ⟨rfl, hc, hca⟩] at hbcell
    cases hbcell
    exact hne rfl
  · intro hapart
    cases h : g.tableWith A with
    | ok t => exact ⟨t, rfl⟩
    | error c => exact absurd hapart (g.firstConflict_of_error A c h).not_predictsApart

/-- The table is exactly the relation of prediction if that allows for one production in each cell,
and otherwise the first conflict is reported. -/
theorem tableWith_exact (g : Grammar) (A : Analysis) :
    ((∃ t, g.tableWith A = .ok t) ↔ g.PredictsApart A) ∧
    (∀ t, g.tableWith A = .ok t → ∀ head a p, t.get? head a = some p ↔
      p.head = head ∧ p.body ∈ g.alternatives head ∧ A.Predicts head p.body a) ∧
    (¬g.PredictsApart A → ∃ c, g.tableWith A = .error c ∧ g.FirstConflict A c) := by
  refine ⟨g.exists_table_iff A, g.get?_tableWith_iff_predicts A, ?_⟩
  intro hnot
  cases h : g.tableWith A with
  | ok t => exact absurd ((g.exists_table_iff A).mp ⟨t, h⟩) hnot
  | error c => exact ⟨c, rfl, g.firstConflict_of_error A c h⟩

/-- The grammar of conditionals in which a branch `e` may belong to either of two conditions. -/
def danglingElse : Grammar := Grammar.ofRules
  [(⟨"S"⟩, [[⟨"i"⟩, ⟨"E"⟩, ⟨"t"⟩, ⟨"S"⟩, ⟨"S'"⟩], [⟨"a"⟩]]),
    (⟨"S'"⟩, [[⟨"e"⟩, ⟨"S"⟩], [Symbol.epsilon]]), (⟨"E"⟩, [[⟨"b"⟩]])]

theorem tableWith_danglingElse : ∃ c,
    danglingElse.tableWith danglingElse.analysis = .error c ∧
    c = ⟨⟨⟨"S'"⟩, ⟨"e"⟩⟩, ⟨⟨"S'"⟩, [⟨"e"⟩, ⟨"S"⟩]⟩, ⟨⟨"S'"⟩, [Symbol.epsilon]⟩⟩ ∧
    danglingElse.FirstConflict danglingElse.analysis c := by
  have herror : danglingElse.tableWith danglingElse.analysis =
      .error ⟨⟨⟨"S'"⟩, ⟨"e"⟩⟩, ⟨⟨"S'"⟩, [⟨"e"⟩, ⟨"S"⟩]⟩, ⟨⟨"S'"⟩, [Symbol.epsilon]⟩⟩ := by
    decide +kernel
  obtain ⟨hiff, -, hconflict⟩ := tableWith_exact danglingElse danglingElse.analysis
  have hnot : ¬danglingElse.PredictsApart danglingElse.analysis := by
    intro hapart
    obtain ⟨t, ht⟩ := hiff.mpr hapart
    rw [herror] at ht
    cases ht
  obtain ⟨c, hc, hfirst⟩ := hconflict hnot
  refine ⟨c, hc, ?_, hfirst⟩
  rw [herror] at hc
  exact (Except.error.inj hc).symm

end Grammar

end Predictive
