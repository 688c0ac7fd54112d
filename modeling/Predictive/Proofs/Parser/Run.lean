import Predictive.Parser.Build
import Predictive.Parser.Trace
/-!
# Steps and runs of the machine

What a step can do, case by case, and runs that stop on their own. More steps than such a run needs
change nothing about it.
-/
namespace Predictive

namespace Parser

variable {σ ι : Type}

/-- Everything that a step of the machine can do. -/
inductive Moves (p : Parser) (o : Observer σ ι) (state : σ) (c : Config ι) : Step σ ι → Prop
  | emptied (hstack : c.stack = []) : Moves p o state c (.stop (finish c.current))
  | ended (slot : ι) (below : List (Symbol × ι))
    (hstack : c.stack = (Symbol.endMarker, slot) :: below) :
    Moves p o state c (.stop (finish c.current))
  | matched (top : Symbol) (slot : ι) (below : List (Symbol × ι))
    (hstack : c.stack = (top, slot) :: below) (hend : top ≠ Symbol.endMarker)
    (htop : top = c.current.symbol) :
    Moves p o state c (.next (o.onMatch state slot c.current) ⟨below, c.input.tail⟩)
  | unexpected (top : Symbol) (slot : ι) (below : List (Symbol × ι))
    (hstack : c.stack = (top, slot) :: below) (hend : top ≠ Symbol.endMarker)
    (htop : top ≠ c.current.symbol) (hterm : p.grammar.isTerminal top = true) :
    Moves p o state c (.stop (.error (.unexpectedToken top c.current)))
  | stuck (top : Symbol) (slot : ι) (below : List (Symbol × ι))
    (hstack : c.stack = (top, slot) :: below) (hend : top ≠ Symbol.endMarker)
    (htop : top ≠ c.current.symbol) (hhead : p.grammar.isTerminal top = false)
    (hcell : p.table.get? top c.current.symbol = none) :
    Moves p o state c (.stop (.error (.emptyCell top c.current)))
  | refused (top : Symbol) (slot : ι) (below : List (Symbol × ι)) (q : Production) (e : ParseError)
    (hstack : c.stack = (top, slot) :: below) (hend : top ≠ Symbol.endMarker)
    (htop : top ≠ c.current.symbol) (hhead : p.grammar.isTerminal top = false)
    (hcell : p.table.get? top c.current.symbol = some q)
    (hq : o.onProduction state slot q = .error e) : Moves p o state c (.stop (.error e))
  | expanded (top : Symbol) (slot : ι) (below : List (Symbol × ι)) (q : Production) (state' : σ)
    (slots : List ι) (hstack : c.stack = (top, slot) :: below) (hend : top ≠ Symbol.endMarker)
    (htop : top ≠ c.current.symbol) (hhead : p.grammar.isTerminal top = false)
    (hcell : p.table.get? top c.current.symbol = some q)
    (hq : o.onProduction state slot q = .ok (state', slots)) :
    Moves p o state c (.next state' ⟨q.pushed.zip slots ++ below, c.input⟩)

theorem moves_step (p : Parser) (o : Observer σ ι) (state : σ) (c : Config ι) :
    p.Moves o state c (p.step o state c) := by
  unfold step
  split
  · next hstack => exact .emptied hstack
  · next top slot below hstack =>
    split
    · next hend =>
      subst hend
      exact .ended slot below hstack
    · next hend =>
      split
      · next htop => exact .matched top slot below hstack hend htop
      · next htop =>
        split
        · next hterm => exact .unexpected top slot below hstack hend htop hterm
        · next hterm =>
          have hhead : p.grammar.isTerminal top = false := by simpa using hterm
          split
          · next hcell => exact .stuck top slot below hstack hend htop hhead hcell
          · next q hcell =>
            split
            · next e hq => exact .refused top slot below q e hstack hend htop hhead hcell hq
            · next state' slots hq =>
              exact .expanded top slot below q state' slots hstack hend htop hhead hcell hq

/-- The symbol that a machine with this input looks at. -/
def lookahead (input : List Token) : Symbol := (input.headD Token.endOfInput).symbol

theorem step_lookahead (p : Parser) (o : Observer σ ι) (state : σ) (slot : ι)
    (below : List (Symbol × ι)) (input : List Token) (hend : lookahead input ≠ Symbol.endMarker) :
    p.step o state ⟨(lookahead input, slot) :: below, input⟩ =
      .next (o.onMatch state slot (input.headD Token.endOfInput)) ⟨below, input.tail⟩ := by
  rw [lookahead] at hend ⊢
  simp only [step, Config.current, if_neg hend, if_true]

theorem step_match (p : Parser) (o : Observer σ ι) (state : σ) (slot : ι)
    (below : List (Symbol × ι)) (token : Token) (rest : List Token)
    (hend : token.symbol ≠ Symbol.endMarker) :
    p.step o state ⟨(token.symbol, slot) :: below, token :: rest⟩ =
      .next (o.onMatch state slot token) ⟨below, rest⟩ :=
  p.step_lookahead o state slot below (token :: rest) hend

theorem step_expand (p : Parser) (o : Observer σ ι) (state : σ) (top : Symbol) (slot : ι)
    (below : List (Symbol × ι)) (input : List Token) (q : Production) (state' : σ) (slots : List ι)
    (hend : top ≠ Symbol.endMarker) (htop : top ≠ lookahead input)
    (hhead : p.grammar.isTerminal top = false)
    (hcell : p.table.get? top (lookahead input) = some q)
    (hq : o.onProduction state slot q = .ok (state', slots)) :
    p.step o state ⟨(top, slot) :: below, input⟩ =
      .next state' ⟨q.pushed.zip slots ++ below, input⟩ := by
  rw [lookahead] at htop hcell
  simp only [step, Config.current, if_neg hend, if_neg htop, hhead, hcell, hq, Bool.false_eq_true,
    if_false]

theorem step_end (p : Parser) (o : Observer σ ι) (state : σ) (slot : ι) (below : List (Symbol × ι))
    (input : List Token) : p.step o state ⟨(Symbol.endMarker, slot) :: below, input⟩ =
      .stop (finish (input.headD Token.endOfInput)) := by
  simp [step, Config.current]

theorem step_unexpected (p : Parser) (o : Observer σ ι) (state : σ) (top : Symbol) (slot : ι)
    (below : List (Symbol × ι)) (input : List Token) (hend : top ≠ Symbol.endMarker)
    (htop : top ≠ lookahead input) (hterm : p.grammar.isTerminal top = true) :
    p.step o state ⟨(top, slot) :: below, input⟩ =
      .stop (.error (.unexpectedToken top (input.headD Token.endOfInput))) := by
  rw [lookahead] at htop
  simp only [step, Config.current, if_neg hend, if_neg htop, hterm, if_true]

theorem step_stuck (p : Parser) (o : Observer σ ι) (state : σ) (top : Symbol) (slot : ι)
    (below : List (Symbol × ι)) (input : List Token) (hend : top ≠ Symbol.endMarker)
    (htop : top ≠ lookahead input) (hhead : p.grammar.isTerminal top = false)
    (hcell : p.table.get? top (lookahead input) = none) :
    p.step o state ⟨(top, slot) :: below, input⟩ =
      .stop (.error (.emptyCell top (input.headD Token.endOfInput))) := by
  rw [lookahead] at htop hcell
  simp only [step, Config.current, if_neg hend, if_neg htop, hhead, hcell, Bool.false_eq_true,
    if_false]

theorem step_refuse (p : Parser) (o : Observer σ ι) (state : σ) (top : Symbol) (slot : ι)
    (below : List (Symbol × ι)) (input : List Token) (q : Production) (e : ParseError)
    (hend : top ≠ Symbol.endMarker) (htop : top ≠ lookahead input)
    (hhead : p.grammar.isTerminal top = false)
    (hcell : p.table.get? top (lookahead input) = some q)
    (hq : o.onProduction state slot q = .error e) :
    p.step o state ⟨(top, slot) :: below, input⟩ = .stop (.error e) := by
  rw [lookahead] at htop hcell
  simp only [step, Config.current, if_neg hend, if_neg htop, hhead, hcell, hq, Bool.false_eq_true,
    if_false]

/-- Everything that a step can do after which the machine goes on. -/
inductive Advances (p : Parser) (o : Observer σ ι) (state : σ) : Config ι → σ → Config ι → Prop
  | matched (slot : ι) (below : List (Symbol × ι)) (token : Token) (rest : List Token)
    (hend : token.symbol ≠ Symbol.endMarker) :
    Advances p o state ⟨(token.symbol, slot) :: below, token :: rest⟩
      (o.onMatch state slot token) ⟨below, rest⟩
  | expanded (top : Symbol) (slot : ι) (below : List (Symbol × ι)) (input : List Token)
    (q : Production) (state' : σ) (slots : List ι) (hend : top ≠ Symbol.endMarker)
    (htop : top ≠ lookahead input) (hhead : p.grammar.isTerminal top = false)
    (hcell : p.table.get? top (lookahead input) = some q)
    (hq : o.onProduction state slot q = .ok (state', slots)) :
    Advances p o state ⟨(top, slot) :: below, input⟩ state' ⟨q.pushed.zip slots ++ below, input⟩

theorem advances_of_next (p : Parser) (o : Observer σ ι) (state : σ) (c : Config ι) (state' : σ)
    (c' : Config ι) (h : p.step o state c = .next state' c') : p.Advances o state c state' c' := by
  have hmove := p.moves_step o state c
  rw [h] at hmove
  obtain ⟨stack, input⟩ := c
  cases hmove with
  | matched top slot below hstack hend htop =>
    dsimp only at hstack
    subst hstack
    cases input with
    | nil => exact absurd htop hend
    | cons token rest =>
      change top = token.symbol at htop
      subst htop
      exact .matched slot below token rest hend
  | expanded top slot below q _ slots hstack hend htop hhead hcell hq =>
    dsimp only at hstack
    subst hstack
    exact .expanded top slot below input q state' slots hend htop hhead hcell hq

/-- The machine stops on its own within the given number of steps. -/
def StopsWithin (p : Parser) (o : Observer σ ι) : Nat → σ → Config ι → Prop
  | 0, _, _ => False
  | n + 1, state, c => ∀ state' c', p.step o state c = .next state' c' → p.StopsWithin o n state' c'

theorem StopsWithin.mono (p : Parser) (o : Observer σ ι) (m n : Nat) (hmn : m ≤ n) (state : σ)
    (c : Config ι) (h : p.StopsWithin o m state c) : p.StopsWithin o n state c := by
  induction m generalizing n state c with
  | zero => exact False.elim h
  | succ m ih =>
    cases n with
    | zero => omega
    | succ n => exact fun state' c' hstep => ih n (by omega) state' c' (h state' c' hstep)

private theorem finish_ne_unending (found : Token) : finish found ≠ .error .unending := by
  unfold finish
  split <;> simp

/-- A run that stops on its own is not cut off by its limit. -/
theorem run_ne_unending (p : Parser) (o : Observer σ ι)
    (ho : ∀ state slot q, o.onProduction state slot q ≠ .error .unending) (n : Nat) (state : σ)
    (c : Config ι) (h : p.StopsWithin o n state c) :
    (p.run o n state c).2 ≠ .error .unending := by
  induction n generalizing state c with
  | zero => exact False.elim h
  | succ n ih =>
    rw [run]
    have hmove := p.moves_step o state c
    split
    · next result hstep =>
      rw [hstep] at hmove
      cases hmove with
      | emptied => exact finish_ne_unending c.current
      | ended => exact finish_ne_unending c.current
      | unexpected => simp
      | stuck => simp
      | refused _ slot _ q e _ _ _ _ _ hq =>
        rintro ⟨⟩
        exact ho state slot q hq
    · next state' c' hstep => exact ih state' c' (h state' c' hstep)

theorem stopsWithin_of_run (p : Parser) (o : Observer σ ι) (n : Nat) (state : σ) (c : Config ι)
    (h : (p.run o n state c).2 ≠ .error .unending) : p.StopsWithin o n state c := by
  induction n generalizing state c with
  | zero => exact absurd rfl h
  | succ n ih =>
    intro state' c' hstep
    rw [run, hstep] at h
    exact ih state' c' h

/-- Parsers whose runs an observer cannot tell apart. -/
structure SameRuns (p p' : Parser) (o : Observer σ ι) : Prop where
  start : p.grammar.start? = p'.grammar.start?
  limit : ∀ tokens, p.stepLimit tokens = p'.stepLimit tokens
  step : ∀ state c, p.step o state c = p'.step o state c

private theorem SameRuns.run_eq (p p' : Parser) (o : Observer σ ι) (h : SameRuns p p' o) (n : Nat)
    (state : σ) (c : Config ι) : p.run o n state c = p'.run o n state c := by
  induction n generalizing state c with
  | zero => rfl
  | succ n ih =>
    rw [run, run, h.step]
    split
    · rfl
    · exact ih _ _

theorem SameRuns.trace_eq (p p' : Parser) (h : SameRuns p p' recorder) (tokens : List Token) :
    p.trace tokens = p'.trace tokens := by
  simp only [trace, observe, h.start, h.limit, h.run_eq]

theorem SameRuns.tree_eq (p p' : Parser) (h : SameRuns p p' grower) (tokens : List Token) :
    p.tree tokens = p'.tree tokens := by
  simp only [tree, observe, h.start, h.limit, h.run_eq]

theorem stepLimit_eq (p p' : Parser) (hheads : p.grammar.heads.length = p'.grammar.heads.length)
    (hwidth : widestPush p.table = widestPush p'.table) (tokens : List Token) :
    p.stepLimit tokens = p'.stepLimit tokens := by
  simp only [stepLimit, hheads, hwidth]

/-- An observer that gives a slot to every symbol pushed. -/
def Aligned (o : Observer σ ι) : Prop :=
  ∀ state slot q state' slots, o.onProduction state slot q = .ok (state', slots) →
    slots.length = q.pushed.length

theorem map_fst_zip_append (q : Production) (slots : List ι) (below : List (Symbol × ι))
    (h : slots.length = q.pushed.length) :
    (q.pushed.zip slots ++ below).map Prod.fst = q.pushed ++ below.map Prod.fst := by
  rw [List.map_append, List.map_fst_zip (by omega)]

theorem recorder_aligned : Aligned recorder := by
  intro state slot q state' slots h
  cases h
  simp

private theorem length_addChildren (t : Tree) (parent : NodeId) (body : Body) :
    (addChildren t parent body).2.length = body.length := by
  induction body generalizing t with
  | nil => rfl
  | cons s rest ih =>
    rw [addChildren]
    exact congrArg Nat.succ (ih _)

theorem grower_aligned : Aligned grower := by
  intro t id q t' slots h
  have hlen := length_addChildren t id q.pushed
  simp only [grower] at h
  split at h
  · cases h
  · cases h
    exact hlen

theorem recorder_ne_unending (state : List Event) (slot : Unit) (q : Production) :
    recorder.onProduction state slot q ≠ .error .unending := by
  simp [recorder]

theorem grower_ne_unending (t : Tree) (id : NodeId) (q : Production) :
    grower.onProduction t id q ≠ .error .unending := by
  simp only [grower]
  split <;> simp

theorem trace_of_start (p : Parser) (start : Symbol) (hstart : p.grammar.start? = some start)
    (tokens : List Token) : p.trace tokens =
      ((p.run recorder (p.stepLimit tokens) [] ⟨[(start, ())], tokens⟩).1.reverse,
        (p.run recorder (p.stepLimit tokens) [] ⟨[(start, ())], tokens⟩).2) := by
  rw [trace, hstart]
  rfl

theorem tree_of_start (p : Parser) (start : Symbol) (hstart : p.grammar.start? = some start)
    (tokens : List Token) : p.tree tokens =
      match p.run grower (p.stepLimit tokens) (Tree.new (Token.textless start))
        ⟨[(start, Tree.root)], tokens⟩ with
      | (_, .error e) => .error e
      | (t, .ok ()) => .ok t := by
  rw [tree, hstart]
  rfl

theorem tree_eq_map (p : Parser) (start : Symbol) (hstart : p.grammar.start? = some start)
    (tokens : List Token) (t : Tree) (result : Except ParseError Unit)
    (hrun : p.run grower (p.stepLimit tokens) (Tree.new (Token.textless start))
      ⟨[(start, Tree.root)], tokens⟩ = (t, result)) :
    p.tree tokens = result.map (fun _ => t) := by
  rw [tree_of_start p start hstart, hrun]
  cases result <;> rfl

end Parser

end Predictive
