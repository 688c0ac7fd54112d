import Mathlib.Tactic.Ring
import Predictive.Proofs.Parser.Run
import Predictive.Proofs.Table.Prediction
/-!
# The parser always stops

As long as the lookahead stays, a symbol on the stack that does not start with it either stops the
machine or vanishes by a derivation without repeated heads, and the first symbol that starts with it
leads to a match by a chain of heads without repetition. Both bounds rest on the table having no
conflicts. They add up to the limit that the parser gives to its runs, whatever the tokens are.
-/
namespace Predictive

namespace Parser

variable {σ ι : Type}

/-- The machine stops within the given number of steps from every stack of the given symbols. -/
def Halts (p : Parser) (o : Observer σ ι) (n : Nat) (symbols : Body) (input : List Token) : Prop :=
  ∀ state stack, stack.map Prod.fst = symbols → p.StopsWithin o n state ⟨stack, input⟩

theorem Halts.mono (p : Parser) (o : Observer σ ι) (m n : Nat) (hmn : m ≤ n) (symbols : Body)
    (input : List Token) (h : p.Halts o m symbols input) : p.Halts o n symbols input :=
  fun state stack hstack => (h state stack hstack).mono p o m n hmn state _

theorem halts_nil (p : Parser) (o : Observer σ ι) (input : List Token) : p.Halts o 1 [] input := by
  intro state stack hstack
  have hnil : stack = [] := List.map_eq_nil_iff.mp hstack
  subst hnil
  intro state' c' hstep
  have hmove := p.moves_step o state ⟨[], input⟩
  rw [hstep] at hmove
  cases hmove with
  | matched _ _ _ hstack => cases hstack
  | expanded _ _ _ _ _ _ hstack => cases hstack

theorem halts_end (p : Parser) (o : Observer σ ι) (below : Body) (input : List Token) :
    p.Halts o 1 (Symbol.endMarker :: below) input := by
  intro state stack hstack state' c' hstep
  obtain ⟨⟨top, slot⟩, rest, rfl, htop, rfl⟩ := List.map_eq_cons_iff.mp hstack
  dsimp only at htop
  subst htop
  rw [p.step_end o state slot rest input] at hstep
  cases hstep

/-- The machine stops from a stack if it does after a match and after every expansion of the top. -/
theorem halts_cons (p : Parser) (o : Observer σ ι) (ho : Aligned o) (n : Nat) (top : Symbol)
    (below : Body) (input : List Token)
    (hmatch : top ≠ Symbol.endMarker → top = lookahead input → p.Halts o n below input.tail)
    (hexpand : top ≠ lookahead input → p.grammar.isTerminal top = false →
      ∀ q, p.table.get? top (lookahead input) = some q → p.Halts o n (q.pushed ++ below) input) :
    p.Halts o (n + 1) (top :: below) input := by
  intro state stack hstack state' c' hstep
  have hmove := p.moves_step o state ⟨stack, input⟩
  rw [hstep] at hmove
  cases hmove with
  | matched top' slot below' hstack' hend htop =>
    dsimp only at hstack'
    subst hstack'
    obtain ⟨rfl, rfl⟩ := List.cons.inj hstack
    exact hmatch hend htop _ below' rfl
  | expanded top' slot below' q state' slots hstack' hend htop hhead hcell hq =>
    dsimp only at hstack'
    subst hstack'
    obtain ⟨rfl, rfl⟩ := List.cons.inj hstack
    apply hexpand htop hhead q hcell
    exact map_fst_zip_append q slots below' (ho state slot q _ slots hq)

private theorem le_foldl_max (ns : List Nat) (m n : Nat) (h : n ≤ m ∨ n ∈ ns) :
    n ≤ ns.foldl max m := by
  induction ns generalizing m with
  | nil => exact h.resolve_right List.not_mem_nil
  | cons k ns ih =>
    apply ih (max m k)
    rcases h with h | h
    · exact Or.inl (by omega)
    · rcases List.mem_cons.mp h with rfl | h
      · exact Or.inl (by omega)
      · exact Or.inr h

theorem length_pushed_le_widestPush (t : Table) (head a : Symbol) (q : Production)
    (h : t.get? head a = some q) : q.pushed.length ≤ widestPush t := by
  apply le_foldl_max _ 0
  right
  exact List.mem_map.mpr ⟨(⟨head, a⟩, q), t.cells.mem_entries_of_get? ⟨head, a⟩ q h, rfl⟩

/-- The steps that suffice for a symbol that vanishes within the given number of levels. -/
def vanishCost (p : Parser) (n : Nat) : Nat := (widestPush p.table + 1) ^ n

theorem vanishCost_pos (p : Parser) (n : Nat) : 0 < p.vanishCost n :=
  Nat.pow_pos (Nat.succ_pos _)

theorem vanishCost_succ (p : Parser) (n : Nat) :
    widestPush p.table * p.vanishCost n + 1 ≤ p.vanishCost (n + 1) := by
  have hpos := p.vanishCost_pos n
  have hsucc : p.vanishCost (n + 1) = widestPush p.table * p.vanishCost n + p.vanishCost n := by
    simp only [vanishCost]
    ring
  omega

/-- Symbols that each vanish at a cost vanish one after the other. -/
theorem halts_append (p : Parser) (o : Observer σ ι) (input : List Token) (cost k : Nat)
    (symbols below : Body)
    (h : ∀ s ∈ symbols, ∀ k below, p.Halts o k below input →
      p.Halts o (cost + k) (s :: below) input)
    (hbelow : p.Halts o k below input) :
    p.Halts o (symbols.length * cost + k) (symbols ++ below) input := by
  induction symbols with
  | nil => simpa using hbelow
  | cons s symbols ih =>
    have hrest := ih (fun x hx => h x (List.mem_cons_of_mem _ hx))
    have hs := h s List.mem_cons_self _ _ hrest
    have hcost : (s :: symbols).length * cost + k = cost + (symbols.length * cost + k) := by
      rw [List.length_cons]
      ring
    rw [hcost]
    exact hs

section Rounds

variable (p : Parser) (hp : p.grammar.table = .ok p.table)
  (hε : p.grammar.isTerminal Symbol.epsilon = true) (o : Observer σ ι) (ho : Aligned o)

/-- A symbol for which the table can have cells. -/
def IsColumn (g : Grammar) (a : Symbol) : Prop :=
  a ≠ Symbol.epsilon ∧ (g.isTerminal a = true ∨ a = Symbol.endMarker)

include hp in
private theorem column_of_cell (head a : Symbol) (q : Production) (h : p.table.get? head a = some q) :
    IsColumn p.grammar a := by
  have hpredicted := ((p.grammar.get?_tableWith_iff _ p.table hp head a q).mp h).2.2
  exact ⟨((p.grammar.analysis.mem_predicted q a).mp hpredicted).1,
    p.grammar.lookahead_of_predicted q a hpredicted⟩

private theorem ne_lookahead_of_head (a s : Symbol) (ha : IsColumn p.grammar a)
    (hs : s ∈ p.grammar.heads) (hend : s ≠ Symbol.endMarker) : s ≠ a := by
  rintro rfl
  rcases ha.2 with hterm | hmark
  · exact (p.grammar.isTerminal_iff s).mp hterm hs
  · exact hend hmark

include hp in
private theorem cell_of_vanishing (q : Production) (hq : q ∈ p.grammar.productions)
    (hnil : ∀ x ∈ q.body, x ∈ p.grammar.nullable) (a : Symbol)
    (hfirst : ¬a ∈ p.grammar.analysis.firstOf q.head) (r : Production)
    (hr : p.table.get? q.head a = some r) : r = q := by
  obtain ⟨hmem, hhead, hpredicted⟩ := (p.grammar.get?_tableWith_iff _ p.table hp q.head a r).mp hr
  obtain ⟨hne, hbody | ⟨-, hfollow⟩⟩ := (p.grammar.analysis.mem_predicted r a).mp hpredicted
  · exact absurd (hhead ▸ p.grammar.mem_firstOf_head r hmem a hbody) hfirst
  · rw [hhead] at hfollow
    exact p.grammar.predicted_unique p.table hp r q hmem hq hhead a hpredicted
      (p.grammar.predicted_of_vanishing q a hnil hfollow)

include hp ho in
private theorem halts_vanishing (input : List Token) (hcol : IsColumn p.grammar (lookahead input))
    (n : Nat) (s : Symbol) (hs : p.grammar.VanishesBy n s)
    (hfirst : ¬lookahead input ∈ p.grammar.analysis.firstOf s) (k : Nat) (below : Body)
    (hbelow : p.Halts o k below input) :
    p.Halts o (p.vanishCost n + k) (s :: below) input := by
  induction n generalizing s k below with
  | zero => exact False.elim hs
  | succ n ih =>
    have hhead := hs.mem_heads p.grammar _ s
    obtain ⟨q, hq, rfl, hpushed⟩ := hs
    have hnil := p.grammar.mem_nullable_of_pushed n q hpushed
    have hpart (x : Symbol) (hx : x ∈ q.pushed) :
        ¬lookahead input ∈ p.grammar.analysis.firstOf x := by
      intro hmem
      apply hfirst
      apply p.grammar.mem_firstOf_head q hq
      obtain ⟨before, after, hbody⟩ := List.append_of_mem (List.mem_filter.mp hx).1
      rw [hbody]
      exact p.grammar.mem_firstOfBody_of_split _ hcol.1 before after x
        (fun y hy => hnil y (by simp [hbody, hy])) hmem
    have hcost := p.vanishCost_succ n
    apply Halts.mono p o (widestPush p.table * p.vanishCost n + k + 1) _ (by omega)
    apply p.halts_cons o ho
    · exact fun hend htop => absurd htop (ne_lookahead_of_head p _ _ hcol hhead hend)
    · intro _ _ r hr
      have hrq := cell_of_vanishing p hp q hq hnil _ hfirst r hr
      subst hrq
      have hlen := length_pushed_le_widestPush p.table _ _ r hr
      have hmul := Nat.mul_le_mul_right (p.vanishCost n) hlen
      apply Halts.mono p o (r.pushed.length * p.vanishCost n + k) _ (by omega)
      exact p.halts_append o input _ k r.pushed below
        (fun x hx => ih x (hpushed x hx) (hpart x hx)) hbelow

/-- The machine stops within the given number of steps once it has matched the current token from a
stack that is not too high. -/
def MatchHalts (p : Parser) (o : Observer σ ι) (n height : Nat) (input : List Token) : Prop :=
  lookahead input ≠ Symbol.endMarker →
    ∀ below : Body, below.length ≤ height → p.Halts o n below input.tail

theorem MatchHalts.lower (p : Parser) (o : Observer σ ι) (n low height : Nat)
    (input : List Token) (hlow : low ≤ height) (h : p.MatchHalts o n height input) :
    p.MatchHalts o n low input :=
  fun hend below hbelow => h hend below (Nat.le_trans hbelow hlow)

include ho in
private theorem halts_lookahead (input : List Token) (n : Nat) (below : Body)
    (hmatch : p.MatchHalts o n below.length input) :
    p.Halts o (n + 1) (lookahead input :: below) input := by
  apply p.halts_cons o ho
  · exact fun hend _ => hmatch hend below (Nat.le_refl _)
  · exact fun htop => absurd rfl htop

include hp hε in
private theorem not_mem_firstOf_before (q : Production) (hq : q ∈ p.grammar.productions)
    (a : Symbol) (hne : a ≠ Symbol.epsilon) (before after : Body) (x : Symbol)
    (hbody : q.body = before ++ x :: after) (hbefore : ∀ y ∈ before, y ∈ p.grammar.nullable)
    (hx : a ∈ p.grammar.analysis.firstOf x) (y : Symbol) (hy : y ∈ before)
    (hv : p.grammar.VanishesBy p.grammar.heads.length y) :
    ¬a ∈ p.grammar.analysis.firstOf y := by
  apply p.grammar.not_mem_firstOf_of_vanishesBy p.table hp hε _ y hv a
  obtain ⟨left, right, hsplit⟩ := List.append_of_mem hy
  have ho : (⟨q.head, y, right ++ x :: after⟩ : Occurrence) ∈ p.grammar.occurrences :=
    (p.grammar.mem_occurrences _).mpr ⟨hv.mem_heads p.grammar _ y, q, hq, rfl, left,
      by simp [hbody, hsplit]⟩
  apply p.grammar.mem_followOf_occurrence _ ho a
  left
  refine ⟨p.grammar.mem_firstOfBody_of_split a hne right after x ?_ hx, hne⟩
  exact fun z hz => hbefore z (by simp [hsplit, hz])

include hp hε ho in
private theorem halts_starting (input : List Token) (hcol : IsColumn p.grammar (lookahead input))
    (hterm : p.grammar.isTerminal (lookahead input) = true) (m : Nat) (s : Symbol)
    (hs : p.grammar.StartsBy (lookahead input) m s) (n : Nat) (below : Body)
    (hmatch : p.MatchHalts o n (below.length + m * widestPush p.table) input) :
    p.Halts o (m * (widestPush p.table * p.vanishCost p.grammar.heads.length) + n + 1)
      (s :: below) input := by
  induction m generalizing s below with
  | zero => exact False.elim hs
  | succ m ih =>
    have hhead := hs.mem_heads p.grammar _ _ s
    obtain ⟨q, hq, rfl, before, x, after, hbody, hbefore, hx⟩ := hs
    have hxfirst : lookahead input ∈ p.grammar.analysis.firstOf x := by
      rcases hx with rfl | hx
      · exact p.grammar.mem_firstOf_self _ hterm
      · exact Grammar.StartsBy.mem_firstOf p.grammar _ hterm hcol.1 m x hx
    have hxne := p.grammar.ne_epsilon_of_mem_firstOf hε x _ hcol.1 hxfirst
    have hpredicted := p.grammar.predicted_of_split q _ hcol.1 before after x hbody hbefore hxfirst
    have hcell : p.table.get? q.head (lookahead input) = some q :=
      (p.grammar.get?_tableWith_iff _ p.table hp _ _ q).mpr ⟨hq, rfl, hpredicted⟩
    have hpushed : q.pushed = Body.solid before ++ x :: Body.solid after := by
      simp [Production.pushed, Body.solid, hbody, hxne]
    have hlen := length_pushed_le_widestPush p.table _ _ q hcell
    rw [hpushed, List.length_append, List.length_cons] at hlen
    have hpos := p.vanishCost_pos p.grammar.heads.length
    have hmul := Nat.mul_le_mul_right (p.vanishCost p.grammar.heads.length)
      (show (Body.solid before).length + 1 ≤ widestPush p.table by omega)
    rw [Nat.succ_mul] at hmul ⊢
    apply Halts.mono p o ((Body.solid before).length * p.vanishCost p.grammar.heads.length +
      (m * (widestPush p.table * p.vanishCost p.grammar.heads.length) + n + 1) + 1) _ (by omega)
    apply p.halts_cons o ho
    · exact fun hend htop => absurd htop (ne_lookahead_of_head p _ _ hcol hhead hend)
    · intro _ _ r hr
      rw [hcell] at hr
      cases hr
      rw [hpushed, List.append_assoc]
      apply p.halts_append o input
      · intro y hy k below' hbelow'
        have hv := p.grammar.vanishesBy_of_mem_solid before hbefore y hy
        have hyfirst := not_mem_firstOf_before p hp hε q hq _ hcol.1 before after x hbody hbefore
          hxfirst y (List.mem_filter.mp hy).1 hv
        exact halts_vanishing p hp o ho input hcol _ y hv hyfirst k below' hbelow'
      · have hmatch' : p.MatchHalts o n
            ((Body.solid after ++ below).length + m * widestPush p.table) input := by
          apply hmatch.lower p o n _ _ input
          rw [List.length_append, Nat.succ_mul]
          omega
        rcases hx with rfl | hx
        · apply Halts.mono p o (n + 1) _ (by omega)
          apply halts_lookahead p o ho input n
          exact hmatch'.lower p o n _ _ input (Nat.le_add_right _ _)
        · exact ih x hx (Body.solid after ++ below) hmatch'

include hp hε ho in
private theorem halts_idle (input : List Token) (hcol : IsColumn p.grammar (lookahead input))
    (s : Symbol) (hfirst : ¬lookahead input ∈ p.grammar.analysis.firstOf s)
    (hv : ¬p.grammar.VanishesBy p.grammar.heads.length s) (below : Body) :
    p.Halts o 1 (s :: below) input := by
  apply p.halts_cons o ho
  · intro hend htop
    subst htop
    rcases hcol.2 with hterm | hmark
    · exact absurd (p.grammar.mem_firstOf_self _ hterm) hfirst
    · exact absurd hmark hend
  · intro _ hhead r hr
    obtain ⟨hmem, rfl, hpredicted⟩ := (p.grammar.get?_tableWith_iff _ p.table hp s _ r).mp hr
    rcases ((p.grammar.analysis.mem_predicted r _).mp hpredicted).2 with hbody | ⟨hnil, -⟩
    · exact absurd (p.grammar.mem_firstOf_head r hmem _ hbody) hfirst
    · have hnull := p.grammar.head_mem_nullable r hmem
        ((p.grammar.epsilon_mem_firstOfBody_iff r.body).mp hnil)
      rcases p.grammar.vanishesBy_of_mem_nullable r.head hnull with he | hv'
      · rw [he, hε] at hhead
        cases hhead
      · exact absurd hv' hv

include hp hε ho in
/-- While the lookahead stays, the machine takes a bounded number of steps for each symbol that does
not start with it, and a bounded number for the first one that does. -/
private theorem halts_round (input : List Token) (hcol : IsColumn p.grammar (lookahead input))
    (n : Nat) (symbols : Body) (hmatch : p.MatchHalts o n
      (symbols.length + p.grammar.heads.length * widestPush p.table) input) :
    p.Halts o ((symbols.length + p.grammar.heads.length * widestPush p.table) *
      p.vanishCost p.grammar.heads.length + n + 1) symbols input := by
  have hpos := p.vanishCost_pos p.grammar.heads.length
  induction symbols with
  | nil => exact (p.halts_nil o input).mono p o _ _ (by omega) _ _
  | cons s below ih =>
    by_cases hfirst : lookahead input ∈ p.grammar.analysis.firstOf s
    · obtain ⟨hterm, hs⟩ := p.grammar.firstSound.mem_firstOf s _ hfirst hcol.1
      have hlow := hmatch.lower p o n
        (below.length + p.grammar.heads.length * widestPush p.table) _ input (by simp)
      rcases hs with rfl | hs
      · have hstop := halts_lookahead p o ho input n below
          (hlow.lower p o n _ _ input (Nat.le_add_right _ _))
        exact hstop.mono p o _ _ (by omega) _ _
      · have hstop := halts_starting p hp hε o ho input hcol hterm _ s hs n below hlow
        apply hstop.mono p o
        rw [← Nat.mul_assoc, Nat.add_mul]
        omega
    · have hbelow := ih (hmatch.lower p o n _ _ input (by simp))
      have hcost : ((s :: below).length + p.grammar.heads.length * widestPush p.table) *
          p.vanishCost p.grammar.heads.length + n + 1 =
          p.vanishCost p.grammar.heads.length +
            ((below.length + p.grammar.heads.length * widestPush p.table) *
              p.vanishCost p.grammar.heads.length + n + 1) := by
        rw [List.length_cons]
        ring
      rw [hcost]
      by_cases hv : p.grammar.VanishesBy p.grammar.heads.length s
      · exact halts_vanishing p hp o ho input hcol _ s hv hfirst _ below hbelow
      · have hstop := halts_idle p hp hε o ho input hcol s hfirst hv below
        exact hstop.mono p o _ _ (by omega) _ _

include hp ho in
private theorem halts_off_column (input : List Token)
    (hcol : ¬IsColumn p.grammar (lookahead input)) (n : Nat) (symbols : Body)
    (hmatch : p.MatchHalts o n symbols.length input) : p.Halts o (n + 1) symbols input := by
  cases symbols with
  | nil => exact (p.halts_nil o input).mono p o _ _ (by omega) _ _
  | cons s below =>
    apply p.halts_cons o ho
    · intro hend htop
      exact hmatch (htop ▸ hend) below (by simp)
    · exact fun _ _ r hr => absurd (column_of_cell p hp s _ r hr) hcol

/-- The steps that suffice from a stack of the given height when the given number of tokens can
still be matched. -/
def haltCost (reached height : Nat) : Nat :=
  (reached + 1) * ((height + (reached + 1) * (p.grammar.heads.length * widestPush p.table)) *
    p.vanishCost p.grammar.heads.length + 1)

theorem haltCost_zero (height : Nat) : p.haltCost 0 height =
    (height + p.grammar.heads.length * widestPush p.table) *
      p.vanishCost p.grammar.heads.length + 1 := by
  simp [haltCost]

theorem haltCost_succ (reached height : Nat) :
    (height + p.grammar.heads.length * widestPush p.table) * p.vanishCost p.grammar.heads.length +
      p.haltCost reached (height + p.grammar.heads.length * widestPush p.table) + 1 ≤
    p.haltCost (reached + 1) height := by
  simp only [haltCost]
  generalize p.grammar.heads.length * widestPush p.table = d
  generalize p.vanishCost p.grammar.heads.length = v
  have hle : (height + d) * v ≤ (height + (reached + 1 + 1) * d) * v := by
    apply Nat.mul_le_mul_right
    rw [Nat.succ_mul]
    omega
  have hheight : height + d + (reached + 1) * d = height + (reached + 1 + 1) * d := by ring
  rw [hheight, Nat.succ_mul (reached + 1) ((height + (reached + 1 + 1) * d) * v + 1)]
  omega

theorem haltCost_le_stepLimit (tokens : List Token) :
    p.haltCost (reach tokens) 1 ≤ p.stepLimit tokens := by
  simp only [haltCost, stepLimit, vanishCost, Nat.mul_assoc]
  apply Nat.le_succ_of_le
  apply Nat.mul_le_mul_left
  apply Nat.succ_le_succ
  exact Nat.mul_le_mul_right _ (by omega)

include hp hε ho in
private theorem halts_at_end (input : List Token) (hend : lookahead input = Symbol.endMarker)
    (height : Nat) (symbols : Body) (hlen : symbols.length ≤ height) :
    p.Halts o (p.haltCost 0 height) symbols input := by
  have hcol : IsColumn p.grammar (lookahead input) := by
    rw [hend]
    exact ⟨by decide, Or.inr rfl⟩
  have hround := halts_round p hp hε o ho input hcol 0 symbols (fun h => absurd hend h)
  apply hround.mono p o
  rw [haltCost_zero]
  have hle := Nat.mul_le_mul_right (p.vanishCost p.grammar.heads.length)
    (Nat.add_le_add_right hlen (p.grammar.heads.length * widestPush p.table))
  omega

include hp hε ho in
/-- Every configuration stops within a number of steps that the tokens to match and the height of
the stack determine. -/
private theorem halts (input : List Token) (height : Nat) (symbols : Body)
    (hlen : symbols.length ≤ height) :
    p.Halts o (p.haltCost (reach input) height) symbols input := by
  induction input generalizing height symbols with
  | nil => exact halts_at_end p hp hε o ho [] rfl height symbols hlen
  | cons token rest ih =>
    by_cases hend : token.symbol = Symbol.endMarker
    · have hreach : reach (token :: rest) = 0 := by simp [reach, hend]
      rw [hreach]
      exact halts_at_end p hp hε o ho (token :: rest) hend height symbols hlen
    · have hreach : reach (token :: rest) = reach rest + 1 := by simp [reach, hend]
      have hcost := p.haltCost_succ (reach rest) height
      have hmatch : p.MatchHalts o
          (p.haltCost (reach rest) (height + p.grammar.heads.length * widestPush p.table))
          (symbols.length + p.grammar.heads.length * widestPush p.table) (token :: rest) :=
        fun _ below hbelow => ih _ below (by omega)
      rw [hreach]
      by_cases hcol : IsColumn p.grammar (lookahead (token :: rest))
      · have hround := halts_round p hp hε o ho (token :: rest) hcol _ symbols hmatch
        apply hround.mono p o
        have hle := Nat.mul_le_mul_right (p.vanishCost p.grammar.heads.length)
          (Nat.add_le_add_right hlen (p.grammar.heads.length * widestPush p.table))
        omega
      · have hstop := halts_off_column p hp o ho (token :: rest) hcol _ symbols
          (hmatch.lower p o _ _ _ _ (Nat.le_add_right _ _))
        exact hstop.mono p o _ _ (by omega) _ _

include hp hε ho in
theorem stopsWithin_stepLimit (start : Symbol) (slot : ι) (state : σ) (tokens : List Token) :
    p.StopsWithin o (p.stepLimit tokens) state ⟨[(start, slot)], tokens⟩ := by
  have hstop := halts p hp hε o ho tokens 1 [start] (by simp)
  exact (hstop state [(start, slot)] rfl).mono p o _ _ (p.haltCost_le_stepLimit tokens) state _

include hp hε in
theorem trace_ne_unending (tokens : List Token) : (p.trace tokens).2 ≠ .error .unending := by
  unfold trace
  split
  · simp
  · next start _ =>
    exact run_ne_unending p recorder recorder_ne_unending _ _ _
      (stopsWithin_stepLimit p hp hε recorder recorder_aligned start () [] tokens)

include hp hε in
private theorem tree_ne_unending (tokens : List Token) : p.tree tokens ≠ .error .unending := by
  unfold tree observe
  split
  · simp
  · next start _ =>
    have hne := run_ne_unending p grower grower_ne_unending _ _ _
      (stopsWithin_stepLimit p hp hε grower grower_aligned start Tree.root
        (Tree.new (Token.textless start)) tokens)
    split
    · next e heq =>
      rw [heq] at hne
      simpa using hne
    · simp

end Rounds

/-- On a grammar whose table has no conflicts the parser stops for every list of tokens, whether it
traces or builds a tree. -/
theorem parser_stops (g : Grammar) (t : Table) (ht : g.table = .ok t)
    (hε : g.isTerminal Symbol.epsilon = true) (tokens : List Token) :
    (∀ start, g.start? = some start →
      (∃ n, (Parser.mk g t).StopsWithin recorder n [] ⟨[(start, ())], tokens⟩) ∧
      (∃ n, (Parser.mk g t).StopsWithin grower n (Tree.new (Token.textless start))
        ⟨[(start, Tree.root)], tokens⟩)) ∧
    ((Parser.mk g t).trace tokens).2 ≠ .error .unending ∧
    (Parser.mk g t).tree tokens ≠ .error .unending := by
  refine ⟨fun start _ => ⟨?_, ?_⟩, trace_ne_unending (Parser.mk g t) ht hε tokens,
    tree_ne_unending (Parser.mk g t) ht hε tokens⟩
  · exact ⟨_, stopsWithin_stepLimit (Parser.mk g t) ht hε recorder recorder_aligned start () []
      tokens⟩
  · exact ⟨_, stopsWithin_stepLimit (Parser.mk g t) ht hε grower grower_aligned start Tree.root
      (Tree.new (Token.textless start)) tokens⟩

/-- A grammar with heads that derive themselves and no string of terminals. -/
def unproductive : Grammar := Grammar.ofRules
  [(⟨"S"⟩, [[⟨"a"⟩, ⟨"S"⟩], [⟨"U"⟩]]), (⟨"U"⟩, [[⟨"U"⟩, ⟨"b"⟩]]), (⟨"V"⟩, [[⟨"V"⟩]])]

def unproductiveTable : Table := unproductive.table.toOption.getD Table.empty

theorem parser_stops_unproductive :
    unproductive.table = .ok unproductiveTable ∧
    unproductive.isTerminal Symbol.epsilon = true ∧
    (∃ n, (Parser.mk unproductive unproductiveTable).StopsWithin recorder n []
      ⟨[(⟨"S"⟩, ())], ["a", "U", "$", "empty", "?"].map Token.ofLabel⟩) ∧
    (Parser.mk unproductive unproductiveTable).tree
      (["a", "U", "$", "empty", "?"].map Token.ofLabel) ≠ .error .unending := by
  have htable : unproductive.table = .ok unproductiveTable := by decide +kernel
  have hε : unproductive.isTerminal Symbol.epsilon = true := by decide +kernel
  obtain ⟨hstart, -, htree⟩ := parser_stops unproductive unproductiveTable htable hε
    (["a", "U", "$", "empty", "?"].map Token.ofLabel)
  exact ⟨htable, hε, (hstart ⟨"S"⟩ (by decide +kernel)).1, htree⟩

end Parser

end Predictive
