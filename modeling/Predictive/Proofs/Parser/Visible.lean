import Predictive.Proofs.Parser.Invariant
import Predictive.Proofs.Parser.Language
import Predictive.Proofs.Parser.Limit
import Predictive.Proofs.Tree.Forgetting
/-!
# What the machine can see of its input

The machine looks at symbols only, and never behind the first end of the input, which it does not
match even if a `$` of a body is on top. Two runs over inputs that look alike up to there take the
same steps. What they report differs in texts at most, and not at all if the tokens are the same.
-/
namespace Predictive

/-- The error with the token found seen through a function. -/
def ParseError.mapFound (g : Token → Token) : ParseError → ParseError
  | noStart => noStart
  | unexpectedToken expected found => unexpectedToken expected (g found)
  | emptyCell head found => emptyCell head (g found)
  | leftoverInput found => leftoverInput (g found)
  | refusedChild cause => refusedChild cause
  | unending => unending

@[simp] theorem ParseError.mapFound_id (e : ParseError) : e.mapFound id = e := by cases e <;> rfl

def ParseError.forgetText (e : ParseError) : ParseError := e.mapFound Token.forgetText

def Event.forgetText : Event → Event
  | matched token => matched token.forgetText
  | applied p => applied p

namespace Parser

/-- The tokens up to the first end of the input, which an exhausted input has behind it. -/
def visible : List Token → List Token
  | [] => [Token.endOfInput]
  | token :: rest => if token.symbol = Symbol.endMarker then [token] else token :: visible rest

section Visible

variable (tokens : List Token)

private theorem head?_visible : (visible tokens).head? = some (tokens.headD Token.endOfInput) := by
  cases tokens with
  | nil => rfl
  | cons token rest =>
    rw [visible]
    split <;> rfl

private theorem visible_of_lookahead (h : lookahead tokens ≠ Symbol.endMarker) :
    visible tokens = tokens.headD Token.endOfInput :: visible tokens.tail := by
  cases tokens with
  | nil => exact absurd rfl h
  | cons token rest => exact if_neg h

private theorem length_visible : (visible tokens).length = reach tokens + 1 := by
  induction tokens with
  | nil => rfl
  | cons token rest ih =>
    rw [visible]
    split
    · next h => simp [reach, h]
    · next h => simpa [reach, h] using ih

private theorem visible_append_end (rest : List Token) :
    visible (tokens ++ Token.endOfInput :: rest) = visible tokens := by
  induction tokens with
  | nil => rfl
  | cons token tokens ih => rw [List.cons_append, visible, visible, ih]

private theorem visible_forgetText (others : List Token)
    (h : others.map Token.symbol = tokens.map Token.symbol) :
    (visible others).map Token.forgetText = (visible tokens).map Token.forgetText := by
  induction tokens generalizing others with
  | nil =>
    obtain rfl := List.map_eq_nil_iff.mp h
    rfl
  | cons token tokens ih =>
    obtain ⟨other, others, rfl, hsymbol, hrest⟩ := List.map_eq_cons_iff.mp h
    have hforget : other.forgetText = token.forgetText := congrArg Token.textless hsymbol
    rw [visible, visible, hsymbol]
    split <;> simp [hforget, ih others hrest]

end Visible

variable {σ τ ι : Type}

/-- Seen through `f`, what the observer has seen depends on tokens only as seen through `g`. -/
structure Blurs (o : Observer σ ι) (g : Token → Token) (f : σ → τ) : Prop where
  onMatch : ∀ s s' slot token token', f s = f s' → g token = g token' →
    f (o.onMatch s slot token) = f (o.onMatch s' slot token')
  onProduction : ∀ s s' slot q, f s = f s' →
    (o.onProduction s slot q).map (fun r => (f r.1, r.2)) =
      (o.onProduction s' slot q).map (fun r => (f r.1, r.2))

private theorem finish_blurred (g : Token → Token) (hg : ∀ token, (g token).symbol = token.symbol)
    (token token' : Token) (h : g token = g token') :
    (finish token).mapError (ParseError.mapFound g) =
      (finish token').mapError (ParseError.mapFound g) := by
  have hsymbol : token.symbol = token'.symbol := by rw [← hg, h, hg]
  unfold finish
  rw [hsymbol]
  split
  · rfl
  · simp [Except.mapError, ParseError.mapFound, h]

section Runs

variable (p : Parser) (o : Observer σ ι) (g : Token → Token) (f : σ → τ)
  (hg : ∀ token, (g token).symbol = token.symbol) (hb : Blurs o g f)

include hg hb

/-- A step over inputs that look alike. -/
private theorem step_blurred (s s' : σ) (stack : List (Symbol × ι)) (input input' : List Token)
    (hs : f s = f s') (hinput : (visible input).map g = (visible input').map g) :
    (∃ r r', p.step o s ⟨stack, input⟩ = .stop r ∧ p.step o s' ⟨stack, input'⟩ = .stop r' ∧
      r.mapError (ParseError.mapFound g) = r'.mapError (ParseError.mapFound g)) ∨
    ∃ u u' below rest rest', p.step o s ⟨stack, input⟩ = .next u ⟨below, rest⟩ ∧
      p.step o s' ⟨stack, input'⟩ = .next u' ⟨below, rest'⟩ ∧ f u = f u' ∧
      (visible rest).map g = (visible rest').map g := by
  have hcurrent : g (input.headD Token.endOfInput) = g (input'.headD Token.endOfInput) := by
    have hheads := congrArg List.head? hinput
    rw [List.head?_map, List.head?_map, head?_visible, head?_visible] at hheads
    exact Option.some.inj hheads
  have hsymbol : lookahead input = lookahead input' := by
    rw [lookahead, ← hg, hcurrent, hg, lookahead]
  have hmove := p.moves_step o s ⟨stack, input⟩
  generalize p.step o s ⟨stack, input⟩ = next at hmove
  cases hmove with
  | emptied hstack =>
    dsimp only at hstack
    subst hstack
    exact Or.inl ⟨_, _, rfl, rfl, finish_blurred g hg _ _ hcurrent⟩
  | ended slot below hstack =>
    dsimp only at hstack
    subst hstack
    exact Or.inl ⟨_, _, rfl, p.step_end o s' slot below input', finish_blurred g hg _ _ hcurrent⟩
  | matched top slot below hstack hend htop =>
    dsimp only at hstack
    subst hstack
    change top = lookahead input at htop
    subst htop
    have hstep := p.step_lookahead o s' slot below input' (hsymbol ▸ hend)
    rw [← hsymbol] at hstep
    refine Or.inr ⟨_, _, below, _, _, rfl, hstep, hb.onMatch s s' slot _ _ hs hcurrent, ?_⟩
    rw [visible_of_lookahead input hend, visible_of_lookahead input' (hsymbol ▸ hend)] at hinput
    exact (List.cons.inj hinput).2
  | unexpected top slot below hstack hend htop hterm =>
    dsimp only at hstack
    subst hstack
    have hstep := p.step_unexpected o s' top slot below input' hend (hsymbol ▸ htop) hterm
    refine Or.inl ⟨_, _, rfl, hstep, ?_⟩
    simp only [Except.mapError, ParseError.mapFound, Config.current, hcurrent]
  | stuck top slot below hstack hend htop hhead hcell =>
    dsimp only at hstack
    subst hstack
    have hstep := p.step_stuck o s' top slot below input' hend (hsymbol ▸ htop) hhead
      (hsymbol ▸ hcell)
    refine Or.inl ⟨_, _, rfl, hstep, ?_⟩
    simp only [Except.mapError, ParseError.mapFound, Config.current, hcurrent]
  | refused top slot below q e hstack hend htop hhead hcell hq =>
    dsimp only at hstack
    subst hstack
    have hsame := hb.onProduction s s' slot q hs
    rw [hq] at hsame
    cases hq' : o.onProduction s' slot q with
    | ok r => simp [hq', Except.map] at hsame
    | error e' =>
      rw [hq'] at hsame
      obtain rfl : e = e' := Except.error.inj hsame
      have hstep := p.step_refuse o s' top slot below input' q e hend (hsymbol ▸ htop) hhead
        (hsymbol ▸ hcell) hq'
      exact Or.inl ⟨_, _, rfl, hstep, rfl⟩
  | expanded top slot below q u slots hstack hend htop hhead hcell hq =>
    dsimp only at hstack
    subst hstack
    have hsame := hb.onProduction s s' slot q hs
    rw [hq] at hsame
    cases hq' : o.onProduction s' slot q with
    | error e' => simp [hq', Except.map] at hsame
    | ok r =>
      obtain ⟨u', slots'⟩ := r
      rw [hq'] at hsame
      obtain ⟨hu, rfl⟩ := Prod.mk.inj (Except.ok.inj hsame)
      have hstep := p.step_expand o s' top slot below input' q u' slots hend (hsymbol ▸ htop) hhead
        (hsymbol ▸ hcell) hq'
      exact Or.inr ⟨u, u', _, input, input', rfl, hstep, hu, hinput⟩

private theorem run_blurred (n : Nat) (s s' : σ) (stack : List (Symbol × ι))
    (input input' : List Token) (hs : f s = f s')
    (hinput : (visible input).map g = (visible input').map g) :
    f (p.run o n s ⟨stack, input⟩).1 = f (p.run o n s' ⟨stack, input'⟩).1 ∧
      (p.run o n s ⟨stack, input⟩).2.mapError (ParseError.mapFound g) =
        (p.run o n s' ⟨stack, input'⟩).2.mapError (ParseError.mapFound g) := by
  induction n generalizing s s' stack input input' with
  | zero => exact ⟨hs, rfl⟩
  | succ n ih =>
    rw [run, run]
    rcases p.step_blurred o g f hg hb s s' stack input input' hs hinput with
      ⟨r, r', hstep, hstep', hr⟩ | ⟨u, u', below, rest, rest', hstep, hstep', hu, hrest⟩
    · rw [hstep, hstep']
      exact ⟨hs, hr⟩
    · rw [hstep, hstep']
      exact ih u u' below rest rest' hu hrest

end Runs

/-- Nothing but what is visible of the input makes a difference. -/
private theorem run_congr (p : Parser) (o : Observer σ ι) (n : Nat) (s : σ)
    (stack : List (Symbol × ι)) (input input' : List Token) (h : visible input = visible input') :
    p.run o n s ⟨stack, input⟩ = p.run o n s ⟨stack, input'⟩ := by
  have hplain : Blurs o id (fun s : σ => s) := by
    constructor
    · rintro s _ slot token _ rfl rfl
      rfl
    · rintro s _ slot q rfl
      rfl
  have hresult (r : Except ParseError Unit) : r.mapError (ParseError.mapFound id) = r := by
    cases r <;> simp [Except.mapError]
  obtain ⟨hsame, hsame'⟩ := p.run_blurred o id _ (fun _ => rfl) hplain n s s stack input input' rfl
    (congrArg (List.map id) h)
  rw [hresult, hresult] at hsame'
  exact Prod.ext hsame hsame'

private theorem recorder_blurs :
    Blurs recorder Token.forgetText (fun events => events.map Event.forgetText) where
  onMatch events events' _ token token' hevents htoken := by
    simp only [recorder, List.map_cons, Event.forgetText, htoken, hevents]
  onProduction events events' _ q hevents := by
    simp only [recorder, Except.map, List.map_cons, Event.forgetText, hevents]

private theorem addChildren_forgetText (t : Tree) (parent : NodeId) (body : Body) :
    addChildren t.forgetText parent body =
      ((addChildren t parent body).1.forgetText, (addChildren t parent body).2) := by
  induction body generalizing t with
  | nil => rfl
  | cons s body ih =>
    have hcreate : t.forgetText.create (Token.textless s) (some parent) =
        ((t.create (Token.textless s) (some parent)).1.forgetText,
          (t.create (Token.textless s) (some parent)).2) :=
      Prod.ext (t.forgetText_create (Token.textless s) (some parent)).symm t.size_forgetText
    simp only [addChildren, hcreate, ih]

private theorem grower_forgetText (t : Tree) (id : NodeId) (q : Production) :
    grower.onProduction t.forgetText id q =
      (grower.onProduction t id q).map (fun r => (r.1.forgetText, r.2)) := by
  simp only [grower, addChildren_forgetText, Tree.forgetText_replaceChildren]
  cases (addChildren t id q.pushed).1.replaceChildren id (addChildren t id q.pushed).2 <;> rfl

private theorem grower_blurs : Blurs grower Token.forgetText Tree.forgetText where
  onMatch t t' slot token token' ht _ := by
    simp only [grower, Tree.forgetText_setText, ht]
  onProduction t t' slot q ht := by
    rw [← grower_forgetText, ht, grower_forgetText]

/-- The events and the result of a trace that is cut off after `n` steps. -/
def traceWithin (p : Parser) (n : Nat) (tokens : List Token) :
    List Event × Except ParseError Unit :=
  match p.grammar.start? with
  | none => ([], .error .noStart)
  | some start =>
    let (events, result) := p.run recorder n [] ⟨[(start, ())], tokens⟩
    (events.reverse, result)

/-- The tree of a parse that is cut off after `n` steps. -/
def treeWithin (p : Parser) (n : Nat) (tokens : List Token) : Except ParseError Tree :=
  match p.grammar.start? with
  | none => .error .noStart
  | some start =>
    match p.run grower n (Tree.new (Token.textless start)) ⟨[(start, Tree.root)], tokens⟩ with
    | (_, .error e) => .error e
    | (t, .ok ()) => .ok t

private theorem trace_eq_traceWithin (p : Parser) (tokens : List Token) :
    p.trace tokens = p.traceWithin (p.stepLimit tokens) tokens := rfl

private theorem tree_eq_treeWithin (p : Parser) (tokens : List Token) :
    p.tree tokens = p.treeWithin (p.stepLimit tokens) tokens := rfl

private theorem stepLimit_eq_of_visible (p : Parser) (tokens others : List Token)
    (h : (visible others).length = (visible tokens).length) :
    p.stepLimit others = p.stepLimit tokens := by
  rw [length_visible, length_visible] at h
  simp only [stepLimit, Nat.succ.inj h]

/-- Two inputs whose parses are the same, whether they are cut off or not. -/
structure SameParses (p : Parser) (tokens others : List Token) : Prop where
  traceWithin : ∀ n, p.traceWithin n others = p.traceWithin n tokens
  treeWithin : ∀ n, p.treeWithin n others = p.treeWithin n tokens
  trace : p.trace others = p.trace tokens
  tree : p.tree others = p.tree tokens
  stops : p.Stops others ↔ p.Stops tokens

private theorem sameParses_of_visible (p : Parser) (tokens others : List Token)
    (h : visible others = visible tokens) : p.SameParses tokens others := by
  have htrace : ∀ n, p.traceWithin n others = p.traceWithin n tokens := by
    intro n
    simp only [traceWithin, fun start => p.run_congr recorder n [] [(start, ())] others tokens h]
  have htree : ∀ n, p.treeWithin n others = p.treeWithin n tokens := by
    intro n
    simp only [treeWithin, fun start => p.run_congr grower n (Tree.new (Token.textless start))
      [(start, Tree.root)] others tokens h]
  have hlimit := p.stepLimit_eq_of_visible tokens others (congrArg List.length h)
  have hsame : p.trace others = p.trace tokens := by
    rw [trace_eq_traceWithin, hlimit, htrace, trace_eq_traceWithin]
  refine ⟨htrace, htree, hsame, ?_, ?_⟩
  · rw [tree_eq_treeWithin, hlimit, htree, tree_eq_treeWithin]
  · rw [stops_iff, stops_iff, hsame]

/-- Traces of the same productions and equally many matches, whose results are the same but for the
text of the token found. -/
structure TracesAlike (trace trace' : List Event × Except ParseError Unit) : Prop where
  events : trace.1.map Event.forgetText = trace'.1.map Event.forgetText
  applied : applied trace.1 = applied trace'.1
  matched : (matchedTokens trace.1).length = (matchedTokens trace'.1).length
  result : trace.2.mapError ParseError.forgetText = trace'.2.mapError ParseError.forgetText

/-- Trees with the same nodes, links and symbols, or errors that are the same but for the text of
the token found. -/
def TreesAlike (tree tree' : Except ParseError Tree) : Prop :=
  (tree.map Tree.forgetText).mapError ParseError.forgetText =
    (tree'.map Tree.forgetText).mapError ParseError.forgetText

/-- Two inputs whose parses are the same but for texts, whether they are cut off or not. -/
structure AlikeParses (p : Parser) (tokens others : List Token) : Prop where
  traceWithin : ∀ n, TracesAlike (p.traceWithin n others) (p.traceWithin n tokens)
  treeWithin : ∀ n, TreesAlike (p.treeWithin n others) (p.treeWithin n tokens)
  trace : TracesAlike (p.trace others) (p.trace tokens)
  tree : TreesAlike (p.tree others) (p.tree tokens)
  stops : p.Stops others ↔ p.Stops tokens

private theorem applied_map_forgetText (events : List Event) :
    applied (events.map Event.forgetText) = applied events := by
  induction events with
  | nil => rfl
  | cons event events ih => cases event <;> simp [Event.forgetText, ih]

private theorem matchedTokens_map_forgetText (events : List Event) :
    matchedTokens (events.map Event.forgetText) = (matchedTokens events).map Token.forgetText := by
  induction events with
  | nil => rfl
  | cons event events ih =>
    cases event with
    | matched token => exact congrArg (token.forgetText :: ·) ih
    | applied q => exact ih

private theorem tracesAlike_of_events (trace trace' : List Event × Except ParseError Unit)
    (hevents : trace.1.map Event.forgetText = trace'.1.map Event.forgetText)
    (hresult : trace.2.mapError ParseError.forgetText = trace'.2.mapError ParseError.forgetText) :
    TracesAlike trace trace' := by
  refine ⟨hevents, ?_, ?_, hresult⟩
  · rw [← applied_map_forgetText, hevents, applied_map_forgetText]
  · have htokens := congrArg (fun events => (matchedTokens events).length) hevents
    simpa only [matchedTokens_map_forgetText, List.length_map] using htokens

private theorem TracesAlike.unending_iff (trace trace' : List Event × Except ParseError Unit)
    (h : TracesAlike trace trace') :
    trace.2 = .error .unending ↔ trace'.2 = .error .unending := by
  have hkind (r : Except ParseError Unit) :
      r = .error .unending ↔ r.mapError ParseError.forgetText = .error .unending := by
    cases r with
    | ok => simp [Except.mapError]
    | error e => cases e <;> simp [Except.mapError, ParseError.forgetText, ParseError.mapFound]
  rw [hkind trace.2, hkind trace'.2, h.result]

section Texts

variable (p : Parser) (tokens others : List Token)
  (h : (visible others).map Token.forgetText = (visible tokens).map Token.forgetText)

include h

private theorem traceWithin_alike (n : Nat) :
    TracesAlike (p.traceWithin n others) (p.traceWithin n tokens) := by
  unfold traceWithin
  split
  · exact ⟨rfl, rfl, rfl, rfl⟩
  · next start _ =>
    obtain ⟨hevents, hresult⟩ := p.run_blurred recorder Token.forgetText _ (fun _ => rfl)
      recorder_blurs n [] [] [(start, ())] others tokens rfl h
    refine tracesAlike_of_events _ _ ?_ hresult
    simpa only [List.map_reverse] using congrArg List.reverse hevents

private theorem treeWithin_alike (n : Nat) :
    TreesAlike (p.treeWithin n others) (p.treeWithin n tokens) := by
  unfold treeWithin
  split
  · rfl
  · next start _ =>
    obtain ⟨htree, hresult⟩ := p.run_blurred grower Token.forgetText _ (fun _ => rfl)
      grower_blurs n (Tree.new (Token.textless start)) _ [(start, Tree.root)] others tokens rfl h
    generalize p.run grower n _ ⟨_, others⟩ = run at htree hresult
    generalize p.run grower n _ ⟨_, tokens⟩ = run' at htree hresult
    obtain ⟨t, r⟩ := run
    obtain ⟨t', r'⟩ := run'
    cases r with
    | ok =>
      cases r' with
      | ok => exact congrArg Except.ok htree
      | error e => cases hresult
    | error e =>
      cases r' with
      | ok => cases hresult
      | error e' => exact congrArg Except.error (Except.error.inj hresult)

private theorem alikeParses_of_visible : p.AlikeParses tokens others := by
  have hlen : (visible others).length = (visible tokens).length := by
    simpa only [List.length_map] using congrArg List.length h
  have hlimit := p.stepLimit_eq_of_visible tokens others hlen
  have htrace := p.traceWithin_alike tokens others h
  have htree := p.treeWithin_alike tokens others h
  have hsame : TracesAlike (p.trace others) (p.trace tokens) := by
    rw [trace_eq_traceWithin, hlimit]
    exact htrace _
  refine ⟨htrace, htree, hsame, ?_, ?_⟩
  · rw [tree_eq_treeWithin, hlimit]
    exact htree _
  · rw [stops_iff, stops_iff, Ne, hsame.unending_iff]

end Texts

/-- The machine looks at symbols only, up to the first end of the input. An end put behind the
tokens changes nothing, whatever follows it, and other texts change nothing but texts. -/
theorem looks_at_symbols_up_to_the_end (p : Parser) (tokens : List Token) :
    (∀ rest, p.SameParses tokens (tokens ++ [Token.endOfInput]) ∧
      p.SameParses tokens (tokens ++ [Token.endOfInput] ++ rest)) ∧
    ∀ others, others.map Token.symbol = tokens.map Token.symbol → p.AlikeParses tokens others := by
  refine ⟨fun rest => ⟨?_, ?_⟩, fun others hsymbols => ?_⟩
  · exact p.sameParses_of_visible tokens _ (visible_append_end tokens [])
  · rw [List.append_assoc]
    exact p.sameParses_of_visible tokens _ (visible_append_end tokens rest)
  · exact p.alikeParses_of_visible tokens others (visible_forgetText tokens others hsymbols)

/-- An input with the given text for its parenthesis. It ends before its last token. -/
def spelled (text : String) : List Token :=
  [⟨⟨"("⟩, some text⟩, Token.endOfInput, Token.ofLabel ")"]

theorem looks_at_symbols_up_to_the_end_mixed :
    endWithin.tableWith endWithin.analysis = .ok mixedParser.table ∧
    (spelled "begin").map Token.symbol = (spelled "do").map Token.symbol ∧
    mixedParser.AlikeParses (spelled "do") (spelled "begin") ∧
    mixedParser.SameParses [Token.ofLabel "("]
      ([Token.ofLabel "("] ++ [Token.endOfInput] ++ spelled "do") ∧
    (mixedParser.trace (spelled "do")).2 = .ok () ∧
    mixedParser.trace (spelled "do") ≠ mixedParser.trace (spelled "begin") := by
  have hsymbols : (spelled "begin").map Token.symbol = (spelled "do").map Token.symbol := by decide
  obtain ⟨-, halike⟩ := looks_at_symbols_up_to_the_end mixedParser (spelled "do")
  obtain ⟨hsame, -⟩ := looks_at_symbols_up_to_the_end mixedParser [Token.ofLabel "("]
  exact ⟨by decide +kernel, hsymbols, halike _ hsymbols, (hsame (spelled "do")).2,
    by decide +kernel, by decide +kernel⟩

end Parser

end Predictive
