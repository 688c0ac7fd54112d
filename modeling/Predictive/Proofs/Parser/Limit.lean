import Predictive.Proofs.Parser.Termination
/-!
# The limit cuts off no run that ends

The table may be the one of any grammar, so some runs go on for ever. As long as the lookahead
stays, a run that ends never meets a head below itself: a symbol either drains away by a derivation
without repeated heads, or leads to the next match by a chain of heads without repetition. The bound
on runs under a table without conflicts therefore holds for every run that ends.
-/
namespace Predictive

namespace Parser

variable (p : Parser) (a : Symbol)

/-- The machine replaces the symbol by what a production pushes when it looks at `a`. -/
def Expands (s : Symbol) (q : Production) : Prop :=
  s ≠ Symbol.endMarker ∧ s ≠ a ∧ p.grammar.isTerminal s = false ∧ p.table.get? s a = some q

/-- A symbol drains away if the symbols that replace it do. -/
def drainRule (drains : Symbol → Prop) (s : Symbol) : Prop :=
  ∃ q, p.Expands a s q ∧ ∀ x ∈ q.pushed, drains x

def DrainsBy (n : Nat) (s : Symbol) : Prop := level (p.drainRule a) n s

/-- A symbol leads to where no production applies if one of the symbols that replace it does, and
those in front of that one drain away. -/
def leadRule (leads : Symbol → Prop) (s : Symbol) : Prop :=
  ∃ q before x after, p.Expands a s q ∧ q.pushed = before ++ x :: after ∧
    (∀ y ∈ before, p.DrainsBy a p.grammar.heads.length y) ∧ ((∀ r, ¬p.Expands a x r) ∨ leads x)

def LeadsBy (n : Nat) (s : Symbol) : Prop := level (p.leadRule a) n s

theorem Expands.mem_heads (s : Symbol) (q : Production) (h : p.Expands a s q) :
    s ∈ p.grammar.heads := (p.grammar.isTerminal_eq_false_iff s).mp h.2.2.1

theorem Expands.unique (s : Symbol) (q r : Production) (h : p.Expands a s q)
    (h' : p.Expands a s r) : q = r := Option.some.inj (h.2.2.2.symm.trans h'.2.2.2)

private theorem drainRule_mono (P Q : Symbol → Prop) (hPQ : ∀ x, P x → Q x) (s : Symbol)
    (h : p.drainRule a P s) : p.drainRule a Q s := by
  obtain ⟨q, hq, hall⟩ := h
  exact ⟨q, hq, fun x hx => hPQ x (hall x hx)⟩

theorem DrainsBy.le_heads (n : Nat) (s : Symbol) (h : p.DrainsBy a n s) :
    p.DrainsBy a p.grammar.heads.length s := by
  apply level_saturates (p.drainRule_mono a) p.grammar.heads ?_ n s h
  intro P x hx
  obtain ⟨q, hq, -⟩ := hx
  exact hq.mem_heads p a x q

private theorem leadRule_mono (P Q : Symbol → Prop) (hPQ : ∀ x, P x → Q x) (s : Symbol)
    (h : p.leadRule a P s) : p.leadRule a Q s := by
  obtain ⟨q, before, x, after, hq, hpushed, hbefore, hx⟩ := h
  exact ⟨q, before, x, after, hq, hpushed, hbefore, hx.imp_right (hPQ x)⟩

theorem LeadsBy.le_heads (n : Nat) (s : Symbol) (h : p.LeadsBy a n s) :
    p.LeadsBy a p.grammar.heads.length s := by
  apply level_saturates (p.leadRule_mono a) p.grammar.heads ?_ n s h
  intro P x hx
  obtain ⟨q, -, -, -, hq, -⟩ := hx
  exact hq.mem_heads p a x q

private theorem forall_or_first {α : Type} (P : α → Prop) (xs : List α) :
    (∀ x ∈ xs, P x) ∨ ∃ before x after, xs = before ++ x :: after ∧ (∀ y ∈ before, P y) ∧ ¬P x := by
  classical
  cases hfind : xs.find? (fun x => decide (¬P x)) with
  | none => exact Or.inl (by simpa using hfind)
  | some x =>
    obtain ⟨hx, before, after, hsplit, hbefore⟩ := List.find?_eq_some_iff_append.mp hfind
    exact Or.inr ⟨before, x, after, hsplit, by simpa using hbefore, by simpa using hx⟩

section Ending

variable (input : List Token)

/-- Some trace from a stack of the given symbols stops on its own within the given number of
steps. -/
def Ends (n : Nat) (symbols : Body) (input : List Token) : Prop :=
  ∃ events stack, stack.map Prod.fst = symbols ∧ p.StopsWithin recorder n events ⟨stack, input⟩

private theorem Ends.of_expands (n : Nat) (s : Symbol) (q : Production) (below : Body)
    (hq : p.Expands (lookahead input) s q) (h : p.Ends (n + 1) (s :: below) input) :
    p.Ends n (q.pushed ++ below) input := by
  obtain ⟨events, stack, hstack, hstop⟩ := h
  obtain ⟨⟨top, slot⟩, rest, rfl, rfl, rfl⟩ := List.map_eq_cons_iff.mp hstack
  obtain ⟨hend, htop, hhead, hcell⟩ := hq
  have hstep := p.step_expand recorder events top slot rest input q _ _ hend htop hhead hcell rfl
  exact ⟨_, _, map_fst_zip_append q _ rest (by simp), hstop _ _ hstep⟩

private theorem Ends.of_match (n : Nat) (below : Body) (hend : lookahead input ≠ Symbol.endMarker)
    (h : p.Ends (n + 1) (lookahead input :: below) input) : p.Ends n below input.tail := by
  obtain ⟨events, stack, hstack, hstop⟩ := h
  obtain ⟨⟨top, slot⟩, rest, rfl, htop, rfl⟩ := List.map_eq_cons_iff.mp hstack
  cases input with
  | nil => exact absurd rfl hend
  | cons token tokens =>
    dsimp only at htop
    subst htop
    exact ⟨_, rest, rfl, hstop _ _ (p.step_match recorder events slot rest token tokens hend)⟩

private theorem Ends.of_drains (n : Nat) (symbols below : Body)
    (hsymbols : ∀ s ∈ symbols, ∃ m, p.DrainsBy (lookahead input) m s)
    (h : p.Ends n (symbols ++ below) input) : p.Ends n below input := by
  induction n generalizing symbols with
  | zero =>
    obtain ⟨events, stack, -, hstop⟩ := h
    exact False.elim hstop
  | succ n ih =>
    cases symbols with
    | nil => exact h
    | cons s symbols =>
      obtain ⟨⟨m, hs⟩, hrest⟩ := List.forall_mem_cons.mp hsymbols
      cases m with
      | zero => exact False.elim hs
      | succ m =>
        obtain ⟨q, hq, hall⟩ := hs
        have hnext := Ends.of_expands p input n s q (symbols ++ below) hq h
        rw [← List.append_assoc] at hnext
        have hpushed : ∀ x ∈ q.pushed ++ symbols, ∃ m, p.DrainsBy (lookahead input) m x :=
          List.forall_mem_append.mpr ⟨fun x hx => ⟨m, hall x hx⟩, hrest⟩
        obtain ⟨events, stack, hstack, hstop⟩ := ih (q.pushed ++ symbols) hpushed hnext
        exact ⟨events, stack, hstack, hstop.mono p recorder n (n + 1) (by omega) events _⟩

/-- The symbol on top of a stack from which the machine stops drains away, or no production applies
to it, or it leads to such a symbol. -/
private theorem Ends.kinds (n : Nat) (s : Symbol) (below : Body) (h : p.Ends n (s :: below) input) :
    p.DrainsBy (lookahead input) p.grammar.heads.length s ∨
      (∀ q, ¬p.Expands (lookahead input) s q) ∨ ∃ m, p.LeadsBy (lookahead input) m s := by
  induction n generalizing s below with
  | zero =>
    obtain ⟨events, stack, -, hstop⟩ := h
    exact False.elim hstop
  | succ n ih =>
    by_cases hnone : ∀ q, ¬p.Expands (lookahead input) s q
    · exact Or.inr (Or.inl hnone)
    · obtain ⟨q, hq⟩ := Classical.not_forall.mp hnone
      have hq := Classical.not_not.mp hq
      have hnext := Ends.of_expands p input n s q below hq h
      rcases forall_or_first (p.DrainsBy (lookahead input) p.grammar.heads.length) q.pushed with
        hall | ⟨before, x, after, hsplit, hbefore, hx⟩
      · exact Or.inl (DrainsBy.le_heads p _ (p.grammar.heads.length + 1) s ⟨q, hq, hall⟩)
      · rw [hsplit, List.append_assoc] at hnext
        have hreached := Ends.of_drains p input n before _ (fun y hy => ⟨_, hbefore y hy⟩) hnext
        rcases (ih x _ hreached).resolve_left hx with hstop | ⟨m, hm⟩
        · exact Or.inr (Or.inr ⟨1, q, before, x, after, hq, hsplit, hbefore, Or.inl hstop⟩)
        · exact Or.inr (Or.inr ⟨m + 1, q, before, x, after, hq, hsplit, hbefore, Or.inr hm⟩)

end Ending

section Costs

variable (input : List Token)

private theorem halts_draining (n : Nat) (s : Symbol) (hs : p.DrainsBy (lookahead input) n s)
    (k : Nat) (below : Body) (hbelow : p.Halts recorder k below input) :
    p.Halts recorder (p.vanishCost n + k) (s :: below) input := by
  induction n generalizing s k below with
  | zero => exact False.elim hs
  | succ n ih =>
    obtain ⟨q, hq, hall⟩ := hs
    have hcost := p.vanishCost_succ n
    apply Halts.mono p recorder (widestPush p.table * p.vanishCost n + k + 1) _ (by omega)
    apply p.halts_cons recorder recorder_aligned
    · exact fun _ htop => absurd htop hq.2.1
    · intro htop hhead r hr
      obtain rfl := hq.unique p _ s q r ⟨hq.1, htop, hhead, hr⟩
      have hlen := length_pushed_le_widestPush p.table _ _ q hr
      have hmul := Nat.mul_le_mul_right (p.vanishCost n) hlen
      apply Halts.mono p recorder (q.pushed.length * p.vanishCost n + k) _ (by omega)
      exact p.halts_append recorder input _ k q.pushed below
        (fun x hx => ih x (hall x hx)) hbelow

/-- The machine stops within the given number of steps once it has matched the current token, if it
stops at all and the stack is not too high. -/
def MatchEnds (n height : Nat) (input : List Token) : Prop :=
  lookahead input ≠ Symbol.endMarker → ∀ below : Body, below.length ≤ height →
    (∃ m, p.Ends m below input.tail) → p.Halts recorder n below input.tail

theorem MatchEnds.lower (n low height : Nat) (hlow : low ≤ height)
    (h : p.MatchEnds n height input) : p.MatchEnds n low input :=
  fun hend below hbelow => h hend below (Nat.le_trans hbelow hlow)

private theorem halts_unexpanding (s : Symbol)
    (hs : ∀ q, ¬p.Expands (lookahead input) s q) (m n : Nat) (below : Body)
    (hends : p.Ends m (s :: below) input) (hmatch : p.MatchEnds n below.length input) :
    p.Halts recorder (n + 1) (s :: below) input := by
  by_cases hend : s = Symbol.endMarker
  · subst hend
    exact (p.halts_end recorder below input).mono p recorder _ _ (by omega) _ _
  · apply p.halts_cons recorder recorder_aligned
    · intro _ htop
      subst htop
      cases m with
      | zero =>
        obtain ⟨events, stack, -, hstop⟩ := hends
        exact False.elim hstop
      | succ m =>
        exact hmatch hend below (Nat.le_refl _) ⟨m, Ends.of_match p input m below hend hends⟩
    · exact fun htop hhead q hq => absurd ⟨hend, htop, hhead, hq⟩ (hs q)

private theorem halts_leading (k : Nat) (s : Symbol) (hs : p.LeadsBy (lookahead input) k s)
    (m n : Nat) (below : Body) (hends : p.Ends m (s :: below) input)
    (hmatch : p.MatchEnds n (below.length + k * widestPush p.table) input) :
    p.Halts recorder (k * (widestPush p.table * p.vanishCost p.grammar.heads.length) + n + 1)
      (s :: below) input := by
  induction k generalizing s m below with
  | zero => exact False.elim hs
  | succ k ih =>
    obtain ⟨q, before, x, after, hq, hpushed, hbefore, hx⟩ := hs
    have hlen := length_pushed_le_widestPush p.table _ _ q hq.2.2.2
    rw [hpushed, List.length_append, List.length_cons] at hlen
    have hpos := p.vanishCost_pos p.grammar.heads.length
    have hmul := Nat.mul_le_mul_right (p.vanishCost p.grammar.heads.length)
      (show before.length + 1 ≤ widestPush p.table by omega)
    rw [Nat.succ_mul] at hmul ⊢
    cases m with
    | zero =>
      obtain ⟨events, stack, -, hstop⟩ := hends
      exact False.elim hstop
    | succ m =>
      have hnext := Ends.of_expands p input m s q below hq hends
      rw [hpushed, List.append_assoc] at hnext
      have hreached := Ends.of_drains p input m before _ (fun y hy => ⟨_, hbefore y hy⟩) hnext
      have hmatch' : p.MatchEnds n ((after ++ below).length + k * widestPush p.table) input := by
        apply hmatch.lower p input n
        rw [List.length_append, Nat.succ_mul]
        omega
      have hx' : p.Halts recorder
          (k * (widestPush p.table * p.vanishCost p.grammar.heads.length) + n + 1)
          (x :: (after ++ below)) input := by
        rcases hx with hstop | hx
        · have hlow := hmatch'.lower p input n _ _ (Nat.le_add_right _ _)
          have hstopped := halts_unexpanding p input x hstop m n _ hreached hlow
          exact hstopped.mono p recorder _ _ (by omega) _ _
        · exact ih x hx m (after ++ below) hreached hmatch'
      apply Halts.mono p recorder (before.length * p.vanishCost p.grammar.heads.length +
        (k * (widestPush p.table * p.vanishCost p.grammar.heads.length) + n + 1) + 1) _ (by omega)
      apply p.halts_cons recorder recorder_aligned
      · exact fun _ htop => absurd htop hq.2.1
      · intro htop hhead r hr
        obtain rfl := hq.unique p _ s q r ⟨hq.1, htop, hhead, hr⟩
        rw [hpushed, List.append_assoc]
        exact p.halts_append recorder input _ _ before _
          (fun y hy => halts_draining p input _ y (hbefore y hy)) hx'

/-- While the lookahead stays, a run that ends takes a bounded number of steps for each symbol that
drains away, and a bounded number for the first one that does not. -/
private theorem halts_while (m n : Nat) (symbols : Body) (hends : p.Ends m symbols input)
    (hmatch : p.MatchEnds n
      (symbols.length + p.grammar.heads.length * widestPush p.table) input) :
    p.Halts recorder ((symbols.length + p.grammar.heads.length * widestPush p.table) *
      p.vanishCost p.grammar.heads.length + n + 1) symbols input := by
  have hpos := p.vanishCost_pos p.grammar.heads.length
  induction symbols generalizing m with
  | nil => exact (p.halts_nil recorder input).mono p recorder _ _ (by omega) _ _
  | cons s below ih =>
    have hlow := hmatch.lower p input n
      (below.length + p.grammar.heads.length * widestPush p.table) _ (by simp)
    rcases hends.kinds p input m s below with hdrains | hstop | ⟨k, hleads⟩
    · have hrest := ih m (Ends.of_drains p input m [s] below (by simpa using ⟨_, hdrains⟩) hends)
        hlow
      have hcost : ((s :: below).length + p.grammar.heads.length * widestPush p.table) *
          p.vanishCost p.grammar.heads.length + n + 1 =
          p.vanishCost p.grammar.heads.length +
            ((below.length + p.grammar.heads.length * widestPush p.table) *
              p.vanishCost p.grammar.heads.length + n + 1) := by
        rw [List.length_cons]
        ring
      rw [hcost]
      exact halts_draining p input _ s hdrains _ below hrest
    · have hstopped := halts_unexpanding p input s hstop m n below hends
        (hlow.lower p input n _ _ (Nat.le_add_right _ _))
      exact hstopped.mono p recorder _ _ (by omega) _ _
    · have hstopped := halts_leading p input _ s (hleads.le_heads p _ k s) m n below hends hlow
      apply hstopped.mono p recorder
      rw [← Nat.mul_assoc, Nat.add_mul]
      omega

end Costs

private theorem halts_while_at_end (input : List Token)
    (hend : lookahead input = Symbol.endMarker) (height m : Nat) (symbols : Body)
    (hlen : symbols.length ≤ height) (hends : p.Ends m symbols input) :
    p.Halts recorder (p.haltCost 0 height) symbols input := by
  have hstop := halts_while p input m 0 symbols hends (fun h => absurd hend h)
  apply hstop.mono p recorder
  rw [haltCost_zero]
  have hle := Nat.mul_le_mul_right (p.vanishCost p.grammar.heads.length)
    (Nat.add_le_add_right hlen (p.grammar.heads.length * widestPush p.table))
  omega

private theorem halts_of_ends (input : List Token) (height m : Nat) (symbols : Body)
    (hlen : symbols.length ≤ height) (hends : p.Ends m symbols input) :
    p.Halts recorder (p.haltCost (reach input) height) symbols input := by
  induction input generalizing height m symbols with
  | nil => exact halts_while_at_end p [] rfl height m symbols hlen hends
  | cons token rest ih =>
    by_cases hend : token.symbol = Symbol.endMarker
    · have hreach : reach (token :: rest) = 0 := by simp [reach, hend]
      rw [hreach]
      exact halts_while_at_end p (token :: rest) hend height m symbols hlen hends
    · have hreach : reach (token :: rest) = reach rest + 1 := by simp [reach, hend]
      have hcost := p.haltCost_succ (reach rest) height
      have hmatch : p.MatchEnds
          (p.haltCost (reach rest) (height + p.grammar.heads.length * widestPush p.table))
          (symbols.length + p.grammar.heads.length * widestPush p.table) (token :: rest) :=
        fun _ below hbelow hsome => hsome.elim (fun j hj => ih _ j below (by omega) hj)
      have hstop := halts_while p (token :: rest) m _ symbols hends hmatch
      rw [hreach]
      apply hstop.mono p recorder
      have hle := Nat.mul_le_mul_right (p.vanishCost p.grammar.heads.length)
        (Nat.add_le_add_right hlen (p.grammar.heads.length * widestPush p.table))
      omega

/-- The run of a trace from the start symbol stops on its own. -/
def Stops (tokens : List Token) : Prop :=
  ∀ start, p.grammar.start? = some start →
    ∃ n, p.StopsWithin recorder n [] ⟨[(start, ())], tokens⟩

/-- A trace is cut off just if it would go on for ever. -/
theorem stops_iff (tokens : List Token) :
    p.Stops tokens ↔ (p.trace tokens).2 ≠ .error .unending := by
  cases hstart : p.grammar.start? with
  | none => simp [Stops, trace, hstart]
  | some start =>
    rw [p.trace_of_start start hstart]
    constructor
    · intro h
      obtain ⟨n, hn⟩ := h start hstart
      have hends : p.Ends n [start] tokens := ⟨[], [(start, ())], rfl, hn⟩
      have hstop := p.halts_of_ends tokens 1 n [start] (by simp) hends [] [(start, ())] rfl
      exact p.run_ne_unending recorder recorder_ne_unending _ _ _
        (hstop.mono p recorder _ _ (p.haltCost_le_stepLimit tokens) [] _)
    · intro h s hs
      obtain rfl : start = s := Option.some.inj (hstart.symm.trans hs)
      exact ⟨_, p.stopsWithin_of_run recorder _ _ _ h⟩

end Parser

end Predictive
