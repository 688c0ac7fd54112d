import Mathlib.Data.List.Basic
import Predictive.Proofs.Parser.Run
import Predictive.Proofs.Table.Prediction
/-!
# What every iteration of the machine keeps

The tokens matched so far are the first tokens of the input, and together with the stack they are
the string that the productions applied so far make of the start symbol. This takes no more of the
table than that each cell holds a production of its head, so the table may belong to any grammar. It
holds for every observer that gives a slot to each symbol pushed.
-/
namespace Predictive

def Event.token? : Event → Option Token
  | .matched token => some token
  | .applied _ => none

/-- An observer that keeps the events, the last one first, next to what another one has seen. -/
def Observer.traced {σ ι : Type} (o : Observer σ ι) : Observer (List Event × σ) ι where
  onMatch seen slot token := (.matched token :: seen.1, o.onMatch seen.2 slot token)
  onProduction seen slot production :=
    match o.onProduction seen.2 slot production with
    | .error e => .error e
    | .ok (state, slots) => .ok ((.applied production :: seen.1, state), slots)

namespace Parser

variable {σ ι : Type}

/-- The tokens that the events match, in order. -/
def matchedTokens (events : List Event) : List Token := events.filterMap Event.token?

/-- What the events make of a string whose first symbols, as many as given, are matched already. A
production rewrites the symbol right behind those, which has to be its head. -/
def rewrite (matched : Nat) (s : Body) : List Event → Option Body
  | [] => some s
  | .matched _ :: events => rewrite (matched + 1) s events
  | .applied p :: events =>
    if s[matched]? = some p.head then
      rewrite matched (s.take matched ++ p.pushed ++ s.drop (matched + 1)) events
    else none

@[simp] theorem matchedTokens_nil : matchedTokens [] = [] := rfl

@[simp] theorem matchedTokens_matched (token : Token) (events : List Event) :
    matchedTokens (.matched token :: events) = token :: matchedTokens events := rfl

@[simp] theorem matchedTokens_applied (p : Production) (events : List Event) :
    matchedTokens (.applied p :: events) = matchedTokens events := rfl

@[simp] theorem matchedTokens_append (first second : List Event) :
    matchedTokens (first ++ second) = matchedTokens first ++ matchedTokens second :=
  List.filterMap_append

private theorem rewrite_append (matched : Nat) (s : Body) (first second : List Event) :
    rewrite matched s (first ++ second) = (rewrite matched s first).bind
      (fun t => rewrite (matched + (matchedTokens first).length) t second) := by
  induction first generalizing matched s with
  | nil => rfl
  | cons event first ih =>
    cases event with
    | matched token =>
      have hlen : matched + (matchedTokens (.matched token :: first)).length =
          matched + 1 + (matchedTokens first).length := by
        rw [matchedTokens_matched, List.length_cons]
        omega
      rw [List.cons_append, rewrite, rewrite, ih, hlen]
    | applied p =>
      rw [List.cons_append, rewrite, rewrite, matchedTokens_applied]
      split
      · exact ih _ _
      · rfl

private theorem rewrite_applied (before below : Body) (p : Production) :
    rewrite before.length (before ++ p.head :: below) [.applied p] =
      some (before ++ (p.pushed ++ below)) := by
  have hdrop : (before ++ p.head :: below).drop (before.length + 1) = below :=
    List.drop_length_add_append 1
  simp [rewrite, hdrop]

/-- The machine after the given number of iterations, if it gets that far. -/
def after (p : Parser) (o : Observer σ ι) : Nat → σ → Config ι → Option (σ × Config ι)
  | 0, state, c => some (state, c)
  | n + 1, state, c =>
    match p.step o state c with
    | .stop _ => none
    | .next state c => p.after o n state c

/-- What every iteration keeps holds after any number of them. -/
theorem after_keeps (p : Parser) (o : Observer σ ι) (P : σ → Config ι → Prop)
    (hP : ∀ state c state' c', P state c → p.step o state c = .next state' c' → P state' c')
    (n : Nat) (state : σ) (c : Config ι) (h : P state c) (state' : σ) (c' : Config ι)
    (hafter : p.after o n state c = some (state', c')) : P state' c' := by
  induction n generalizing state c with
  | zero =>
    cases hafter
    exact h
  | succ n ih =>
    rw [after] at hafter
    split at hafter
    · cases hafter
    · next state₁ c₁ hstep => exact ih state₁ c₁ (hP state c state₁ c₁ h hstep) hafter

/-- What the events so far say about the machine. -/
structure Underway (start : Symbol) (tokens : List Token) (events : List Event) (c : Config ι) :
    Prop where
  consumed : matchedTokens events = tokens.take (matchedTokens events).length
  rewritten : rewrite 0 [start] events =
    some ((matchedTokens events).map Token.symbol ++ c.stack.map Prod.fst)
  current : c.current = (tokens[(matchedTokens events).length]?).getD Token.endOfInput
  unread : c.input = tokens.drop (matchedTokens events).length

/-- The results that are right for a machine that stops in the given configuration. -/
inductive Exits (p : Parser) (c : Config ι) : Except ParseError Unit → Prop
  | accepted (hstack : ∀ top ∈ c.stack.head?, top.1 = Symbol.endMarker)
    (hcurrent : c.current.symbol = Symbol.endMarker) : Exits p c (.ok ())
  | leftover (hstack : ∀ top ∈ c.stack.head?, top.1 = Symbol.endMarker)
    (hcurrent : c.current.symbol ≠ Symbol.endMarker) :
    Exits p c (.error (.leftoverInput c.current))
  | unexpected (top : Symbol) (slot : ι) (below : List (Symbol × ι))
    (hstack : c.stack = (top, slot) :: below) (hend : top ≠ Symbol.endMarker)
    (htop : top ≠ c.current.symbol) (hterm : p.grammar.isTerminal top = true) :
    Exits p c (.error (.unexpectedToken top c.current))
  | stuck (top : Symbol) (slot : ι) (below : List (Symbol × ι))
    (hstack : c.stack = (top, slot) :: below) (hend : top ≠ Symbol.endMarker)
    (htop : top ≠ c.current.symbol) (hhead : p.grammar.isTerminal top = false)
    (hcell : p.table.get? top c.current.symbol = none) :
    Exits p c (.error (.emptyCell top c.current))

/-- An observer from whose state the events so far can be read. -/
structure Tells (o : Observer σ ι) (events : σ → List Event) : Prop where
  aligned : Aligned o
  onMatch : ∀ state slot token,
    events (o.onMatch state slot token) = events state ++ [.matched token]
  onProduction : ∀ state slot q state' slots, o.onProduction state slot q = .ok (state', slots) →
    events state' = events state ++ [.applied q]

theorem recorder_tells : Tells recorder List.reverse where
  aligned := recorder_aligned
  onMatch events _ token := List.reverse_cons
  onProduction events _ q _ _ h := by
    cases h
    exact List.reverse_cons

theorem traced_tells (o : Observer σ ι) (ho : Aligned o) :
    Tells o.traced (fun seen => seen.1.reverse) where
  aligned := by
    intro seen slot q seen' slots h
    simp only [Observer.traced] at h
    split at h
    · cases h
    · next state slots' hq =>
      cases h
      exact ho _ _ _ _ _ hq
  onMatch seen slot token := List.reverse_cons
  onProduction seen slot q seen' slots h := by
    simp only [Observer.traced] at h
    split at h
    · cases h
    · cases h
      exact List.reverse_cons

private theorem current_of_unread (c : Config ι) (tokens : List Token) (k : Nat)
    (h : c.input = tokens.drop k) : c.current = (tokens[k]?).getD Token.endOfInput := by
  rw [Config.current, h, List.headD_eq_head?_getD, List.head?_drop]

theorem underway_start (start : Symbol) (slot : ι) (tokens : List Token) :
    Underway start tokens [] ⟨[(start, slot)], tokens⟩ where
  consumed := rfl
  rewritten := rfl
  current := current_of_unread _ tokens 0 rfl
  unread := rfl

theorem Underway.matched (start : Symbol) (tokens : List Token) (events : List Event)
    (slot : ι) (below : List (Symbol × ι)) (token : Token) (rest : List Token)
    (h : Underway start tokens events ⟨(token.symbol, slot) :: below, token :: rest⟩) :
    Underway start tokens (events ++ [.matched token]) (⟨below, rest⟩ : Config ι) := by
  have hlen : (matchedTokens (events ++ [.matched token])).length =
      (matchedTokens events).length + 1 := by simp
  have hunread := h.unread
  dsimp only at hunread
  have hnext : tokens[(matchedTokens events).length]? = some token := by
    rw [← List.head?_drop, ← hunread]
    rfl
  have hrest : rest = tokens.drop ((matchedTokens events).length + 1) := by
    rw [← List.tail_drop, ← hunread]
    rfl
  refine ⟨?_, ?_, ?_, ?_⟩
  · rw [hlen, List.take_add_one, ← h.consumed, hnext]
    simp
  · -- The symbol only moves from the top of the stack to the tokens matched.
    rw [rewrite_append, h.rewritten]
    simp [rewrite]
  · rw [hlen]
    exact current_of_unread _ tokens _ hrest
  · rw [hlen]
    exact hrest

theorem Underway.applied (start : Symbol) (tokens : List Token) (events : List Event)
    (slot : ι) (below : List (Symbol × ι)) (input : List Token) (q : Production) (slots : List ι)
    (hslots : slots.length = q.pushed.length)
    (h : Underway start tokens events ⟨(q.head, slot) :: below, input⟩) :
    Underway start tokens (events ++ [.applied q])
      (⟨q.pushed.zip slots ++ below, input⟩ : Config ι) := by
  have hmatched : matchedTokens (events ++ [.applied q]) = matchedTokens events := by simp
  refine ⟨by rw [hmatched]; exact h.consumed, ?_, by rw [hmatched]; exact h.current,
    by rw [hmatched]; exact h.unread⟩
  have hplace : ((matchedTokens events).map Token.symbol).length = (matchedTokens events).length :=
    List.length_map _
  rw [rewrite_append, h.rewritten, hmatched, map_fst_zip_append q slots below hslots, Nat.zero_add,
    ← hplace]
  exact rewrite_applied _ _ q

section Iterations

variable (p : Parser) (hheads : ∀ head a q, p.table.get? head a = some q → q.head = head)

include hheads in
/-- An iteration keeps what the events so far say about the machine. -/
theorem Underway.step (o : Observer σ ι) (events : σ → List Event) (ho : Tells o events)
    (start : Symbol) (tokens : List Token) (state : σ) (c : Config ι)
    (h : Underway start tokens (events state) c) (state' : σ) (c' : Config ι)
    (hstep : p.step o state c = .next state' c') : Underway start tokens (events state') c' := by
  cases p.advances_of_next o state c state' c' hstep with
  | matched slot below token rest hend =>
    rw [ho.onMatch]
    exact h.matched start tokens _ slot below token rest
  | expanded top slot below input q _ slots hend htop hhead hcell hq =>
    obtain rfl := hheads _ _ _ hcell
    rw [ho.onProduction _ _ _ _ _ hq]
    exact h.applied start tokens _ slot below input q slots (ho.aligned _ _ _ _ _ hq)

include hheads in
theorem Underway.after (o : Observer σ ι) (events : σ → List Event) (ho : Tells o events)
    (start : Symbol) (tokens : List Token) (n : Nat) (state : σ) (c : Config ι)
    (h : Underway start tokens (events state) c) (state' : σ) (c' : Config ι)
    (hafter : p.after o n state c = some (state', c')) :
    Underway start tokens (events state') c' := by
  apply p.after_keeps o (fun state c => Underway start tokens (events state) c) ?_ n state c h _ _
    hafter
  intro state c state' c' hkept hstep
  exact hkept.step p hheads o events ho start tokens state c state' c' hstep

end Iterations

private theorem exits_finish (p : Parser) (c : Config ι)
    (hstack : ∀ top ∈ c.stack.head?, top.1 = Symbol.endMarker) : p.Exits c (finish c.current) := by
  unfold finish
  split
  · next hcurrent => exact .accepted hstack hcurrent
  · next hcurrent => exact .leftover hstack hcurrent

/-- Where the machine stops, its result is right unless the observer has refused a production. -/
theorem exits_of_stop (p : Parser) (o : Observer σ ι) (state : σ) (c : Config ι)
    (r : Except ParseError Unit) (h : p.step o state c = .stop r) :
    p.Exits c r ∨ ∃ slot q e, o.onProduction state slot q = .error e ∧ r = .error e := by
  have hmove := p.moves_step o state c
  rw [h] at hmove
  cases hmove with
  | emptied hstack => exact Or.inl (p.exits_finish c (by simp [hstack]))
  | ended slot below hstack => exact Or.inl (p.exits_finish c (by simp [hstack]))
  | unexpected top slot below hstack hend htop hterm =>
    exact Or.inl (.unexpected top slot below hstack hend htop hterm)
  | stuck top slot below hstack hend htop hhead hcell =>
    exact Or.inl (.stuck top slot below hstack hend htop hhead hcell)
  | refused top slot below q e _ _ _ _ _ hq => exact Or.inr ⟨slot, q, e, hq, rfl⟩

theorem exists_after_of_run (p : Parser) (o : Observer σ ι) (n : Nat) (state : σ) (c : Config ι)
    (hrun : (p.run o n state c).2 ≠ .error .unending) :
    ∃ k c', p.after o k state c = some ((p.run o n state c).1, c') ∧
      p.step o (p.run o n state c).1 c' = .stop (p.run o n state c).2 := by
  induction n generalizing state c with
  | zero => exact absurd rfl hrun
  | succ n ih =>
    rw [run] at hrun ⊢
    cases hstep : p.step o state c with
    | stop r => exact ⟨0, c, rfl, hstep⟩
    | next state₁ c₁ =>
      rw [hstep] at hrun
      obtain ⟨k, c', hafter, hstop⟩ := ih state₁ c₁ hrun
      refine ⟨k + 1, c', ?_, hstop⟩
      rw [Parser.after, hstep]
      exact hafter

private theorem step_traced (p : Parser) (o : Observer σ ι) (state : σ) (c : Config ι) (state' : σ)
    (c' : Config ι) (h : p.step o state c = .next state' c') (events : List Event) :
    ∃ event, p.step o.traced (events, state) c = .next (event :: events, state') c' := by
  cases p.advances_of_next o state c state' c' h with
  | matched slot below token rest hend =>
    exact ⟨_, p.step_match o.traced _ slot below token rest hend⟩
  | expanded top slot below input q _ slots hend htop hhead hcell hq =>
    have hq' : o.traced.onProduction (events, state) slot q =
        .ok ((.applied q :: events, state'), slots) := by
      simp only [Observer.traced, hq]
    exact ⟨_, p.step_expand o.traced _ top slot below input q _ slots hend htop hhead hcell hq'⟩

private theorem stop_traced (p : Parser) (o : Observer σ ι) (state : σ) (c : Config ι)
    (r : Except ParseError Unit) (h : p.step o state c = .stop r) (events : List Event) :
    p.step o.traced (events, state) c = .stop r := by
  have hmove := p.moves_step o state c
  rw [h] at hmove
  obtain ⟨stack, input⟩ := c
  cases hmove with
  | emptied hstack =>
    dsimp only at hstack
    subst hstack
    rfl
  | ended slot below hstack =>
    dsimp only at hstack
    subst hstack
    exact p.step_end o.traced _ slot below input
  | unexpected top slot below hstack hend htop hterm =>
    dsimp only at hstack
    subst hstack
    exact p.step_unexpected o.traced _ top slot below input hend htop hterm
  | stuck top slot below hstack hend htop hhead hcell =>
    dsimp only at hstack
    subst hstack
    exact p.step_stuck o.traced _ top slot below input hend htop hhead hcell
  | refused top slot below q e hstack hend htop hhead hcell hq =>
    dsimp only at hstack
    subst hstack
    have hq' : o.traced.onProduction (events, state) slot q = .error e := by
      simp only [Observer.traced, hq]
    exact p.step_refuse o.traced _ top slot below input q e hend htop hhead hcell hq'

private theorem after_traced (p : Parser) (o : Observer σ ι) (n : Nat) (state : σ) (c : Config ι)
    (state' : σ) (c' : Config ι) (h : p.after o n state c = some (state', c'))
    (events : List Event) :
    ∃ events', p.after o.traced n (events, state) c = some ((events', state'), c') := by
  induction n generalizing events state c with
  | zero =>
    cases h
    exact ⟨events, rfl⟩
  | succ n ih =>
    rw [after] at h
    split at h
    · cases h
    · next state₁ c₁ hstep =>
      obtain ⟨event, htraced⟩ := p.step_traced o state c state₁ c₁ hstep events
      rw [after, htraced]
      exact ih state₁ c₁ h (event :: events)

theorem run_traced (p : Parser) (o : Observer σ ι) (n : Nat) (state : σ) (c : Config ι)
    (events : List Event) :
    (p.run o.traced n (events, state) c).1.2 = (p.run o n state c).1 ∧
      (p.run o.traced n (events, state) c).2 = (p.run o n state c).2 := by
  induction n generalizing events state c with
  | zero => exact ⟨rfl, rfl⟩
  | succ n ih =>
    rw [run, run]
    cases hstep : p.step o state c with
    | stop r =>
      rw [p.stop_traced o state c r hstep events]
      exact ⟨rfl, rfl⟩
    | next state' c' =>
      obtain ⟨event, htraced⟩ := p.step_traced o state c state' c' hstep events
      rw [htraced]
      exact ih state' c' (event :: events)

/-- A trace after the given number of iterations, the last event first. -/
def traceAfter (p : Parser) (start : Symbol) (tokens : List Token) (n : Nat) :
    Option (List Event × Config Unit) :=
  p.after recorder n [] ⟨[(start, ())], tokens⟩

/-- The tree after the given number of iterations. -/
def treeAfter (p : Parser) (start : Symbol) (tokens : List Token) (n : Nat) :
    Option (Tree × Config NodeId) :=
  p.after grower n (Tree.new (Token.textless start)) ⟨[(start, Tree.root)], tokens⟩

/-- The tree after the given number of iterations, with the events that made it, the last one
first. -/
def growthAfter (p : Parser) (start : Symbol) (tokens : List Token) (n : Nat) :
    Option ((List Event × Tree) × Config NodeId) :=
  p.after grower.traced n ([], Tree.new (Token.textless start)) ⟨[(start, Tree.root)], tokens⟩

theorem exists_traceAfter (p : Parser) (start : Symbol) (hstart : p.grammar.start? = some start)
    (tokens : List Token) (h : (p.trace tokens).2 ≠ .error .unending) :
    ∃ n c, p.traceAfter start tokens n = some ((p.trace tokens).1.reverse, c) ∧
      p.step recorder (p.trace tokens).1.reverse c = .stop (p.trace tokens).2 := by
  rw [p.trace_of_start start hstart] at h ⊢
  rw [List.reverse_reverse]
  exact p.exists_after_of_run recorder _ _ _ h

private theorem exists_treeAfter (p : Parser) (start : Symbol)
    (hstart : p.grammar.start? = some start) (tokens : List Token)
    (h : p.tree tokens ≠ .error .unending) :
    ∃ n tree c, p.treeAfter start tokens n = some (tree, c) ∧
      p.step grower tree c = .stop ((p.tree tokens).map (fun _ => ())) := by
  rw [p.tree_of_start start hstart] at h ⊢
  have hrun := p.exists_after_of_run grower (p.stepLimit tokens) (Tree.new (Token.textless start))
    ⟨[(start, Tree.root)], tokens⟩
  generalize p.run grower (p.stepLimit tokens) (Tree.new (Token.textless start))
    ⟨[(start, Tree.root)], tokens⟩ = result at h hrun ⊢
  obtain ⟨tree, r⟩ := result
  cases r with
  | error e =>
    obtain ⟨n, c, hafter, hstop⟩ := hrun (by simpa using h)
    exact ⟨n, tree, c, hafter, hstop⟩
  | ok u =>
    obtain ⟨n, c, hafter, hstop⟩ := hrun (by simp)
    exact ⟨n, tree, c, hafter, hstop⟩

theorem grower_refuses (t : Tree) (id : NodeId) (q : Production) (e : ParseError)
    (h : grower.onProduction t id q = .error e) : ∃ cause, e = .refusedChild cause := by
  simp only [grower] at h
  split at h
  · next cause _ =>
    cases h
    exact ⟨cause, rfl⟩
  · cases h

/-- After every iteration the events so far say where the machine is, whether it traces or grows a
tree, and it stops only with a result that is right there. The table may be the one of any grammar.
Traces and trees end where the machine stops, unless their limit cuts them off. -/
theorem run_invariant (p : Parser) (g : Grammar) (A : Analysis)
    (ht : g.tableWith A = .ok p.table) (start : Symbol) (hstart : p.grammar.start? = some start)
    (tokens : List Token) :
    (∀ n events c, p.traceAfter start tokens n = some (events, c) →
      Underway start tokens events.reverse c ∧
      ∀ r, p.step recorder events c = .stop r → p.Exits c r) ∧
    (∀ n tree c, p.treeAfter start tokens n = some (tree, c) →
      (∃ events, p.growthAfter start tokens n = some ((events, tree), c) ∧
        Underway start tokens events.reverse c) ∧
      ∀ r, p.step grower tree c = .stop r →
        p.Exits c r ∨ ∃ cause, r = .error (.refusedChild cause)) ∧
    ((p.trace tokens).2 ≠ .error .unending → ∃ n c,
      p.traceAfter start tokens n = some ((p.trace tokens).1.reverse, c) ∧
      p.step recorder (p.trace tokens).1.reverse c = .stop (p.trace tokens).2) ∧
    (p.tree tokens ≠ .error .unending → ∃ n tree c,
      p.treeAfter start tokens n = some (tree, c) ∧
      p.step grower tree c = .stop ((p.tree tokens).map (fun _ => ()))) := by
  have hheads (head a : Symbol) (q : Production) (h : p.table.get? head a = some q) :
      q.head = head := ((g.get?_tableWith_iff A p.table ht head a q).mp h).2.1
  refine ⟨?_, ?_, p.exists_traceAfter start hstart tokens, p.exists_treeAfter start hstart tokens⟩
  · intro n events c hafter
    refine ⟨(underway_start start () tokens).after p hheads recorder _ recorder_tells start tokens n
      [] _ events c hafter, ?_⟩
    intro r hstop
    rcases p.exits_of_stop recorder events c r hstop with hexits | ⟨slot, q, e, hq, -⟩
    · exact hexits
    · cases hq
  · intro n tree c hafter
    constructor
    · -- A tree does not tell its events apart, so they are kept next to it.
      obtain ⟨events, htraced⟩ := p.after_traced grower n _ _ tree c hafter []
      refine ⟨events, htraced, ?_⟩
      have htells := traced_tells grower grower_aligned
      exact Underway.after p hheads grower.traced _ htells start tokens n
        ([], Tree.new (Token.textless start)) _ (underway_start start Tree.root tokens) _ c htraced
    · intro r hstop
      rcases p.exits_of_stop grower tree c r hstop with hexits | ⟨slot, q, e, hq, rfl⟩
      · exact Or.inl hexits
      · obtain ⟨cause, rfl⟩ := grower_refuses tree slot q e hq
        exact Or.inr ⟨cause, rfl⟩

/-- A grammar whose table has the end of the input within a body. -/
def endWithin : Grammar := Grammar.ofRules [(⟨"S"⟩, [[⟨"("⟩, Symbol.endMarker, ⟨")"⟩]])]

def endWithinTable : Table := endWithin.table.toOption.getD Table.empty

/-- A parser with the table of another grammar. -/
def mixedParser : Parser :=
  ⟨Grammar.ofRules [(⟨"S"⟩, [[⟨"("⟩, ⟨"S"⟩, ⟨")"⟩], [Symbol.epsilon]])], endWithinTable⟩

theorem run_invariant_mixedParser :
    endWithin.tableWith endWithin.analysis = .ok mixedParser.table ∧
    mixedParser.grammar.start? = some ⟨"S"⟩ ∧
    ∃ events c, mixedParser.traceAfter ⟨"S"⟩ [Token.ofLabel "("] 2 = some (events, c) ∧
      c.stack.map Prod.fst = [Symbol.endMarker, ⟨")"⟩] ∧
      Underway ⟨"S"⟩ [Token.ofLabel "("] events.reverse c ∧ mixedParser.Exits c (.ok ()) := by
  have htable : endWithin.tableWith endWithin.analysis = .ok mixedParser.table := by decide +kernel
  have hstart : mixedParser.grammar.start? = some ⟨"S"⟩ := by decide +kernel
  obtain ⟨htrace, -, -, -⟩ := run_invariant mixedParser endWithin endWithin.analysis htable ⟨"S"⟩
    hstart [Token.ofLabel "("]
  have hafter : mixedParser.traceAfter ⟨"S"⟩ [Token.ofLabel "("] 2 =
      some ([.matched (Token.ofLabel "("),
        .applied ⟨⟨"S"⟩, [⟨"("⟩, Symbol.endMarker, ⟨")"⟩]⟩],
        ⟨[(Symbol.endMarker, ()), (⟨")"⟩, ())], []⟩) := by rfl
  obtain ⟨hunderway, hexits⟩ := htrace 2 _ _ hafter
  exact ⟨htable, hstart, _, _, hafter, rfl, hunderway, hexits (.ok ()) rfl⟩

end Parser

end Predictive
