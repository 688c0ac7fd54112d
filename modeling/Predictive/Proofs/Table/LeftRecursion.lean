import Predictive.Proofs.Grammar.Unfolding
import Predictive.Proofs.Table.Leftmost
/-!
# Left recursion is rejected

A head that derives a string beginning with itself unfolds to such a string. If every head is
reachable and productive then all productions on the way are predicted for a lookahead with which
the head also yields a string of terminals. Under a table without conflicts a derivation of that
string would have to go through the same unfolding for ever.
-/
namespace Predictive

namespace Grammar

/-- The head derives a string of terminals. -/
def Productive (g : Grammar) (s : Symbol) : Prop :=
  ∃ w, (∀ x ∈ w, g.isTerminal x = true) ∧ g.SolidDerives [s] w

/-- The start symbol derives a string with the symbol in it. -/
def Reachable (g : Grammar) (s : Symbol) : Prop :=
  ∃ start before after, g.start? = some start ∧ g.SolidDerives [start] (before ++ s :: after)

/-- The symbol derives a string beginning with itself in one or more steps. -/
def LeftRecursive (g : Grammar) (s : Symbol) : Prop :=
  ∃ t rest, g.SolidStep [s] t ∧ g.SolidDerives t (s :: rest)

section Unfolding

variable {g : Grammar}

private theorem LeftRecursive.unfolds (s : Symbol) (h : g.LeftRecursive s) :
    ∃ ps rest, ps ≠ [] ∧ g.Unfolds [s] ps (s :: rest) := by
  obtain ⟨t, rest, hstep, hderives⟩ := h
  obtain ⟨ps, u, hu⟩ := unfolds_of_solidDerives t s rest hderives
  generalize hs : [s] = v at hstep
  cases hstep with
  | expand before after p hp =>
    obtain ⟨rfl, rfl, rfl⟩ : before = [] ∧ s = p.head ∧ after = [] := by
      cases before with
      | nil => simpa using hs
      | cons x before => simp at hs
    exact ⟨p :: ps, u, by simp, .expand p [] ps _ hp (by simpa using hu)⟩

theorem exists_yields (hprod : ∀ s ∈ g.heads, g.Productive s) (v : Body) :
    ∃ ps w, g.Yields v ps w := by
  induction v with
  | nil => exact ⟨[], [], .nil⟩
  | cons x v ih =>
    obtain ⟨ps, w, hv⟩ := ih
    by_cases hx : x ∈ g.heads
    · obtain ⟨u, hterm, hu⟩ := hprod x hx
      obtain ⟨qs, hqs⟩ := yields_of_solidDerives [x] u hu hterm
      exact ⟨_, _, hqs.append [x] v qs ps u w hv⟩
    · exact ⟨_, _, .terminal x v ps w ((g.isTerminal_iff x).mpr hx) hv⟩

end Unfolding

section Loop

variable (g : Grammar) (start : Symbol) (hstart : g.start? = some start)

include hstart in
/-- The productions of an unfolding are predicted for whatever the unfolded string yields. -/
theorem Unfolds.predicted (s : Body) (ps : List Production) (u : Body) (h : g.Unfolds s ps u)
    (before : Body) (hreach : g.Derives [start] (before ++ s)) (qs : List Production) (w : Body)
    (hw : g.Yields u qs w) (hε : Symbol.epsilon ∉ w) :
    ∀ p ∈ ps, w.headD Symbol.endMarker ∈ g.analysis.predicted p := by
  induction h with
  | refl => simp
  | expand p rest ps u hp tail ih =>
    have hfront := g.predicted_of_yields start hstart p hp before rest w _ hreach
      (tail.yields _ _ _ qs w hw) hε
    have hreach' := hreach.trans g _ _ _ (g.derives_pushed p hp before rest)
    exact List.forall_mem_cons.mpr ⟨hfront, ih hreach' hw⟩

variable (t : Table) (ht : g.table = .ok t)

include hstart ht in
private theorem Unfolds.forced (s : Body) (ps : List Production) (u : Body) (h : g.Unfolds s ps u)
    (before : Body) (hreach : g.Derives [start] (before ++ s)) (qs : List Production) (w : Body)
    (hw : g.Yields s qs w) (hε : Symbol.epsilon ∉ w)
    (hpredicted : ∀ p ∈ ps, w.headD Symbol.endMarker ∈ g.analysis.predicted p) :
    ∃ rs, qs = ps ++ rs ∧ g.Yields u rs w := by
  induction h generalizing qs with
  | refl => exact ⟨qs, rfl, hw⟩
  | expand p rest ps u hp _ ih =>
    obtain ⟨hfront, hlater⟩ := List.forall_mem_cons.mp hpredicted
    obtain ⟨q, qs, hq, hhead, rfl, tail⟩ := hw.of_head _ _ _ _ (g.head_mem_heads p hp)
    have hqreach : g.Derives [start] (before ++ q.head :: rest) := hhead ▸ hreach
    have hqfront := g.predicted_of_yields start hstart q hq before rest w qs hqreach tail hε
    have hpq : p = q := g.predicted_unique t ht p q hp hq hhead.symm _ hfront hqfront
    subst hpq
    have hreach' := hreach.trans g _ _ _ (g.derives_pushed p hp before rest)
    obtain ⟨rs, rfl, hrs⟩ := ih hreach' qs tail hlater
    exact ⟨rs, rfl, hrs⟩

include hstart ht in
/-- A head that unfolds to a string beginning with itself yields nothing for which this unfolding is
predicted, since each derivation would contain a shorter one. -/
private theorem not_yields_of_loop (s : Symbol) (ps : List Production) (rest : Body) (hne : ps ≠ [])
    (hloop : g.Unfolds [s] ps (s :: rest)) (w : Body) (hε : Symbol.epsilon ∉ w)
    (hpredicted : ∀ p ∈ ps, w.headD Symbol.endMarker ∈ g.analysis.predicted p)
    (before below : Body) (hreach : g.Derives [start] (before ++ s :: below))
    (qs : List Production) : ¬g.Yields (s :: below) qs w := by
  -- The induction is on the number of productions; what stands below the head grows with each turn.
  induction hn : qs.length using Nat.strongRecOn generalizing below qs with
  | ind n ih =>
    subst hn
    intro hw
    have hunfolds := hloop.append _ _ _ below
    obtain ⟨rs, rfl, hrs⟩ :=
      hunfolds.forced g start hstart t ht _ _ _ before hreach qs w hw hε hpredicted
    have hagain := (hunfolds.derives _ _ _).append g _ _ before []
    simp only [List.append_nil] at hagain
    have hpos := List.length_pos_iff.mpr hne
    have hshorter : rs.length < (ps ++ rs).length := by simp only [List.length_append]; omega
    exact ih rs.length hshorter (rest ++ below) (hreach.trans g _ _ _ hagain) rs rfl hrs

end Loop

private theorem exists_yields_same_lookahead (g : Grammar) (hprod : ∀ s ∈ g.heads, g.Productive s)
    (s : Symbol) (ps : List Production) (rest below : Body) (hloop : g.Unfolds [s] ps (s :: rest)) :
    ∃ qs w rs v, g.Yields (s :: below) qs w ∧ g.Yields (s :: (rest ++ below)) rs v ∧
      w.headD Symbol.endMarker = v.headD Symbol.endMarker := by
  obtain ⟨restBy, r, hrest⟩ := exists_yields hprod rest
  obtain ⟨belowBy, d, hbelow⟩ := exists_yields hprod below
  have hboth := hrest.append _ _ _ _ _ _ hbelow
  by_cases hsome : ∃ qs a w, g.Yields [s] qs (a :: w)
  · obtain ⟨headBy, a, w, hhead⟩ := hsome
    exact ⟨_, _, _, _, hhead.append _ _ _ _ _ _ hbelow, hhead.append _ _ _ _ _ _ hboth, rfl⟩
  · -- The head yields the empty string only, and so does what stands behind its recurrence.
    obtain ⟨headBy, w, hhead⟩ := exists_yields hprod [s]
    have hnil (qs : List Production) (u : Body) (hu : g.Yields [s] qs u) : u = [] := by
      cases u with
      | nil => rfl
      | cons a u => exact absurd ⟨qs, a, u, hu⟩ hsome
    have hw := hnil headBy w hhead
    have hr := hnil _ _ (hloop.yields _ _ _ _ _ (hhead.append _ _ _ _ _ _ hrest))
    subst hw
    obtain rfl : r = [] := by simpa using hr
    exact ⟨_, _, _, _, hhead.append _ _ _ _ _ _ hbelow, hhead.append _ _ _ _ _ _ hboth, rfl⟩

/-- A grammar of reachable and productive heads with a left-recursive one has no table. -/
theorem table_error_of_leftRecursive (g : Grammar) (hε : g.isTerminal Symbol.epsilon = true)
    (hreach : ∀ s ∈ g.heads, g.Reachable s) (hprod : ∀ s ∈ g.heads, g.Productive s) (s : Symbol)
    (hs : s ∈ g.heads) (hleft : g.LeftRecursive s) : ∃ c, g.table = .error c := by
  cases ht : g.table with
  | error c => exact ⟨c, rfl⟩
  | ok t =>
    obtain ⟨start, before, below, hstart, hderives⟩ := hreach s hs
    obtain ⟨ps, rest, hne, hloop⟩ := hleft.unfolds
    obtain ⟨qs, w, rs, v, hw, hv, hsame⟩ :=
      g.exists_yields_same_lookahead hprod s ps rest below hloop
    have hunfolds := hloop.append _ _ _ below
    have hform := hderives.epsilon_not_mem _ _ (g.epsilon_not_mem_start hε start hstart)
    have hsolid : Symbol.epsilon ∉ s :: below := fun h => hform (List.mem_append_right _ h)
    have hback := hderives.derives _ _
    have hpredicted := hunfolds.predicted g start hstart _ _ _ before hback rs v hv
      ((hunfolds.yields _ _ _ rs v hv).epsilon_not_mem _ _ _ hsolid)
    rw [← hsame] at hpredicted
    exact absurd hw (g.not_yields_of_loop start hstart t ht s ps rest hne hloop w
      (hw.epsilon_not_mem _ _ _ hsolid) hpredicted before below hback qs)

/-- Left recursion through another head and behind a nullable prefix. -/
def hiddenRecursion : Grammar := Grammar.ofRules
  [(⟨"S"⟩, [[⟨"N"⟩, ⟨"T"⟩, ⟨"+"⟩], [⟨"x"⟩]]), (⟨"T"⟩, [[⟨"S"⟩]]), (⟨"N"⟩, [[Symbol.epsilon]])]

private theorem hiddenRecursion_reachable :
    ∀ s ∈ hiddenRecursion.heads, hiddenRecursion.Reachable s := by
  have hstart : hiddenRecursion.start? = some ⟨"S"⟩ := by decide +kernel
  have hstep : hiddenRecursion.SolidStep [⟨"S"⟩] [⟨"N"⟩, ⟨"T"⟩, ⟨"+"⟩] :=
    .expand [] [] ⟨⟨"S"⟩, [⟨"N"⟩, ⟨"T"⟩, ⟨"+"⟩]⟩ (by decide +kernel)
  have hheads : hiddenRecursion.heads = [⟨"S"⟩, ⟨"T"⟩, ⟨"N"⟩] := by decide +kernel
  rw [hheads]
  intro s hs
  simp only [List.mem_cons, List.not_mem_nil, or_false] at hs
  rcases hs with rfl | rfl | rfl
  · exact ⟨_, [], [], hstart, .refl _⟩
  · exact ⟨_, [⟨"N"⟩], [⟨"+"⟩], hstart, .step _ _ _ hstep (.refl _)⟩
  · exact ⟨_, [], [⟨"T"⟩, ⟨"+"⟩], hstart, .step _ _ _ hstep (.refl _)⟩

private theorem hiddenRecursion_productive :
    ∀ s ∈ hiddenRecursion.heads, hiddenRecursion.Productive s := by
  have hterm : ∀ s ∈ [(⟨"x"⟩ : Symbol)], hiddenRecursion.isTerminal s = true := by decide +kernel
  have hS : hiddenRecursion.SolidStep [⟨"S"⟩] [⟨"x"⟩] :=
    .expand [] [] ⟨⟨"S"⟩, [⟨"x"⟩]⟩ (by decide +kernel)
  have hT : hiddenRecursion.SolidStep [⟨"T"⟩] [⟨"S"⟩] :=
    .expand [] [] ⟨⟨"T"⟩, [⟨"S"⟩]⟩ (by decide +kernel)
  have hN : hiddenRecursion.SolidStep [⟨"N"⟩] [] :=
    .expand [] [] ⟨⟨"N"⟩, [Symbol.epsilon]⟩ (by decide +kernel)
  have hheads : hiddenRecursion.heads = [⟨"S"⟩, ⟨"T"⟩, ⟨"N"⟩] := by decide +kernel
  rw [hheads]
  intro s hs
  simp only [List.mem_cons, List.not_mem_nil, or_false] at hs
  rcases hs with rfl | rfl | rfl
  · exact ⟨_, hterm, .step _ _ _ hS (.refl _)⟩
  · exact ⟨_, hterm, .step _ _ _ hT (.step _ _ _ hS (.refl _))⟩
  · exact ⟨[], by simp, .step _ _ _ hN (.refl _)⟩

private theorem hiddenRecursion_leftRecursive : hiddenRecursion.LeftRecursive ⟨"S"⟩ := by
  refine ⟨[⟨"N"⟩, ⟨"T"⟩, ⟨"+"⟩], [⟨"+"⟩], ?_, ?_⟩
  · exact .expand [] [] ⟨⟨"S"⟩, [⟨"N"⟩, ⟨"T"⟩, ⟨"+"⟩]⟩ (by decide +kernel)
  · refine .step _ [⟨"T"⟩, ⟨"+"⟩] _ ?_ (.step _ [⟨"S"⟩, ⟨"+"⟩] _ ?_ (.refl _))
    · exact .expand [] [⟨"T"⟩, ⟨"+"⟩] ⟨⟨"N"⟩, [Symbol.epsilon]⟩ (by decide +kernel)
    · exact .expand [] [⟨"+"⟩] ⟨⟨"T"⟩, [⟨"S"⟩]⟩ (by decide +kernel)

theorem table_error_hiddenRecursion : hiddenRecursion.isTerminal Symbol.epsilon = true ∧
    (∀ s ∈ hiddenRecursion.heads, hiddenRecursion.Reachable s) ∧
    (∀ s ∈ hiddenRecursion.heads, hiddenRecursion.Productive s) ∧
    hiddenRecursion.LeftRecursive ⟨"S"⟩ ∧ ∃ c, hiddenRecursion.table = .error c := by
  have hε : hiddenRecursion.isTerminal Symbol.epsilon = true := by decide +kernel
  exact ⟨hε, hiddenRecursion_reachable, hiddenRecursion_productive, hiddenRecursion_leftRecursive,
    table_error_of_leftRecursive hiddenRecursion hε hiddenRecursion_reachable
      hiddenRecursion_productive ⟨"S"⟩ (by decide +kernel) hiddenRecursion_leftRecursive⟩

end Grammar

end Predictive
