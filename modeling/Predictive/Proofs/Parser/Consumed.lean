import Predictive.Proofs.Parser.Invariant
/-!
# The tokens that a run matches

The machine never matches a token that marks the end of the input. So a run that succeeds has
matched exactly the tokens before the first such token.
-/
namespace Predictive

namespace Parser

variable {σ ι : Type}

/-- What every iteration of the machine keeps holds where a run ends, however it ends. -/
theorem run_keeps (p : Parser) (o : Observer σ ι) (P : σ → Config ι → Prop)
    (hP : ∀ state c state' c', P state c → p.step o state c = .next state' c' → P state' c')
    (n : Nat) (state : σ) (c : Config ι) (h : P state c) : ∃ c', P (p.run o n state c).1 c' := by
  induction n generalizing state c with
  | zero => exact ⟨c, h⟩
  | succ n ih =>
    rw [run]
    split
    · exact ⟨c, h⟩
    · next state' c' hstep => exact ih state' c' (hP state c state' c' h hstep)

/-- The tokens before the first one that marks the end of the input. -/
def beforeEnd (tokens : List Token) : List Token :=
  tokens.takeWhile (fun token => token.symbol ≠ Symbol.endMarker)

/-- The tokens matched so far stand before the end of the input. -/
def MatchesInside (events : List Event) : Prop :=
  ∀ token ∈ matchedTokens events, token.symbol ≠ Symbol.endMarker

theorem MatchesInside.step (p : Parser) (o : Observer σ ι) (events : σ → List Event)
    (ho : Tells o events) (state : σ) (c : Config ι) (state' : σ) (c' : Config ι)
    (h : MatchesInside (events state)) (hstep : p.step o state c = .next state' c') :
    MatchesInside (events state') := by
  cases p.advances_of_next o state c state' c' hstep with
  | matched slot below token rest hend =>
    rw [ho.onMatch, MatchesInside, matchedTokens_append]
    intro x hx
    rcases List.mem_append.mp hx with hold | hnew
    · exact h x hold
    · rw [List.mem_singleton.mp hnew]
      exact hend
  | expanded top slot below input q _ slots hend htop hhead hcell hq =>
    rw [ho.onProduction _ _ _ _ _ hq, MatchesInside, matchedTokens_append]
    simpa using fun token => h token

private theorem matchesInside_trace (p : Parser) (tokens : List Token) :
    MatchesInside (p.trace tokens).1 := by
  cases hstart : p.grammar.start? with
  | none => simp [trace, hstart, MatchesInside]
  | some start =>
    rw [p.trace_of_start start hstart]
    obtain ⟨_, hkept⟩ := p.run_keeps recorder (fun events _ => MatchesInside events.reverse)
      (fun events c events' c' h hstep => h.step p recorder _ recorder_tells events c events' c' hstep)
      (p.stepLimit tokens) [] ⟨[(start, ())], tokens⟩ (by simp [MatchesInside])
    exact hkept

private theorem take_eq_beforeEnd (tokens : List Token) (k : Nat)
    (hbefore : ∀ token ∈ tokens.take k, token.symbol ≠ Symbol.endMarker)
    (hend : ((tokens[k]?).getD Token.endOfInput).symbol = Symbol.endMarker) :
    tokens.take k = beforeEnd tokens := by
  have hrest : (tokens.drop k).takeWhile (fun token => token.symbol ≠ Symbol.endMarker) = [] := by
    rw [← List.head?_drop] at hend
    cases hdrop : tokens.drop k with
    | nil => rfl
    | cons token rest =>
      rw [hdrop] at hend
      exact List.takeWhile_cons_of_neg (by simpa using hend)
  conv_rhs => rw [beforeEnd, ← List.take_append_drop k tokens]
  rw [List.takeWhile_append_of_pos (by simpa using hbefore), hrest, List.append_nil]

theorem matchedTokens_of_trace_ok (p : Parser)
    (hheads : ∀ head a q, p.table.get? head a = some q → q.head = head) (tokens : List Token)
    (h : (p.trace tokens).2 = .ok ()) :
    matchedTokens (p.trace tokens).1 = beforeEnd tokens := by
  cases hstart : p.grammar.start? with
  | none => simp [trace, hstart] at h
  | some start =>
    obtain ⟨n, c, hafter, hstop⟩ := p.exists_traceAfter start hstart tokens (by simp [h])
    have hunderway := (underway_start start () tokens).after p hheads recorder _ recorder_tells start
      tokens n [] _ _ c hafter
    rw [List.reverse_reverse] at hunderway
    have hend : c.current.symbol = Symbol.endMarker := by
      rw [h] at hstop
      rcases p.exits_of_stop recorder _ c _ hstop with hexits | ⟨slot, q, e, hq, -⟩
      · cases hexits with
        | accepted _ hcurrent => exact hcurrent
      · cases hq
    rw [hunderway.current] at hend
    have hinside := p.matchesInside_trace tokens
    rw [MatchesInside, hunderway.consumed] at hinside
    rw [hunderway.consumed]
    exact take_eq_beforeEnd tokens _ hinside hend

end Parser

end Predictive
