import Predictive.Proofs.Parser.Consumed
import Predictive.Proofs.Table.Grid
/-!
# Labels of matched tokens

The top of the stack is compared with the current token before it matters whether it is a terminal.
So a token labelled with a head is matched where that head is the next symbol. It gets there without
a production, since no cell of the table has a head for its lookahead: all symbols up to that place
have to be there already. All other matched tokens are terminals of the grammar.
-/
namespace Predictive

namespace Parser

variable {σ ι : Type}

/-- What a token can be that is matched behind the given events. A head comes right behind a token,
or is the first, and takes its own place in the string made of the start symbol. -/
inductive TakenAs (g : Grammar) (before : List Event) (s : Symbol) : Prop
  | terminal (h : s ∈ g.terminals)
  | head (start : Symbol) (below : Body) (hs : s ∈ g.heads)
    (hbefore : ∀ q, before.getLast? ≠ some (.applied q)) (hstart : g.start? = some start)
    (hplace : rewrite 0 [start] before =
      some ((matchedTokens before).map Token.symbol ++ s :: below))

/-- The symbols on the stack are heads or terminals of some body, no production is applied while the
current token is labelled with a head, and every token so far is taken as one of the two. -/
structure Labelled (g : Grammar) (events : List Event) (c : Config ι) : Prop where
  known : ∀ e ∈ c.stack, e.1 ∈ g.heads ∨ e.1 ∈ g.terminals
  fresh : c.current.symbol ∈ g.heads → c.current.symbol ≠ Symbol.endMarker →
    ∀ q, events.getLast? ≠ some (.applied q)
  taken : ∀ before token after, events = before ++ .matched token :: after →
    TakenAs g before token.symbol

private theorem pushed_known (g : Grammar) (q : Production) (hq : q ∈ g.productions) (s : Symbol)
    (hs : s ∈ q.pushed) : s ∈ g.heads ∨ s ∈ g.terminals := by
  by_cases hhead : s ∈ g.heads
  · exact Or.inl hhead
  · right
    refine (g.mem_terminals s).mpr ⟨?_, ?_, (g.isTerminal_iff s).mpr hhead⟩
    · exact g.mem_bodySymbols q hq s (List.mem_filter.mp hs).1
    · exact fun heq => q.epsilon_not_mem_pushed (heq ▸ hs)

private theorem labelled_start (g : Grammar) (start : Symbol) (hstart : g.start? = some start)
    (slot : ι) (tokens : List Token) : Labelled g [] ⟨[(start, slot)], tokens⟩ where
  known := by
    intro e he
    rw [List.mem_singleton.mp he]
    exact Or.inl (g.start_mem_heads start hstart)
  fresh := by simp
  taken := by simp

private theorem taken_concat (g : Grammar) (events : List Event) (e : Event)
    (h : ∀ before token after, events = before ++ .matched token :: after →
      TakenAs g before token.symbol)
    (he : ∀ token, e = .matched token → TakenAs g events token.symbol) (before : List Event)
    (token : Token) (after : List Event)
    (hsplit : events ++ [e] = before ++ .matched token :: after) :
    TakenAs g before token.symbol := by
  rcases after.eq_nil_or_concat with rfl | ⟨after, last, rfl⟩
  · obtain ⟨rfl, hlast⟩ := List.append_inj' hsplit rfl
    exact he token (List.cons.inj hlast).1
  · rw [List.concat_eq_append, ← List.cons_append, ← List.append_assoc] at hsplit
    exact h before token after (List.append_inj' hsplit rfl).1

/-- A step keeps what the labels say. -/
theorem Labelled.step (p : Parser) (hp : p.grammar.table = .ok p.table) (start : Symbol)
    (hstart : p.grammar.start? = some start) (tokens : List Token) (o : Observer σ ι)
    (events : σ → List Event) (ho : Tells o events) (state : σ) (c : Config ι)
    (h : Labelled p.grammar (events state) c) (hunderway : Underway start tokens (events state) c)
    (state' : σ) (c' : Config ι) (hstep : p.step o state c = .next state' c') :
    Labelled p.grammar (events state') c' := by
  cases p.advances_of_next o state c state' c' hstep with
  | matched slot below token rest hend =>
    obtain ⟨htop, hbelow⟩ := List.forall_mem_cons.mp h.known
    rw [ho.onMatch]
    refine ⟨hbelow, by simp, taken_concat p.grammar _ _ h.taken ?_⟩
    rintro _ ⟨⟩
    rcases htop with hhead | hterm
    · exact .head start (below.map Prod.fst) hhead (h.fresh hhead hend) hstart hunderway.rewritten
    · exact .terminal hterm
  | expanded top slot below input q _ slots hend htop hhead hcell hq =>
    obtain ⟨hmem, -, hpredicted⟩ := (p.grammar.get?_tableWith_iff _ p.table hp top _ q).mp hcell
    rw [ho.onProduction _ _ _ _ _ hq]
    refine ⟨?_, ?_, taken_concat p.grammar _ _ h.taken (by simp)⟩
    · intro e he
      rcases List.mem_append.mp he with hnew | hold
      · exact pushed_known p.grammar q hmem e.1 (List.of_mem_zip hnew).1
      · exact h.known e (List.mem_cons_of_mem _ hold)
    · intro hlabel hmark
      rcases p.grammar.lookahead_of_predicted q _ hpredicted with hterm | hlast
      · exact absurd hlabel ((p.grammar.isTerminal_iff _).mp hterm)
      · exact absurd hlast hmark

/-- Every matched token is a terminal of the grammar or stands in the place of the head that it is
labelled with, in which case no production was applied since the token before it. If no token is
labelled with a head, the matched tokens are terminals throughout. -/
theorem matched_terminal_or_head (p : Parser) (hp : p.grammar.table = .ok p.table)
    (tokens : List Token) :
    (∀ before token after, (p.trace tokens).1 = before ++ .matched token :: after →
      TakenAs p.grammar before token.symbol) ∧
    ((∀ token ∈ tokens, p.grammar.isTerminal token.symbol = true) →
      ∀ token ∈ matchedTokens (p.trace tokens).1, token.symbol ∈ p.grammar.terminals) := by
  cases hstart : p.grammar.start? with
  | none => simp [trace, hstart]
  | some start =>
    have hheads := p.grammar.head_of_get? _ p.table hp
    obtain ⟨c, hlabelled, hunderway⟩ := p.run_keeps recorder
      (fun events c => Labelled p.grammar events.reverse c ∧
        Underway start tokens events.reverse c)
      (fun events c events' c' hkept hstep =>
        ⟨hkept.1.step p hp start hstart tokens recorder _ recorder_tells events c hkept.2 events' c'
          hstep,
        hkept.2.step p hheads recorder _ recorder_tells start tokens events c events' c' hstep⟩)
      (p.stepLimit tokens) [] ⟨[(start, ())], tokens⟩
      ⟨labelled_start p.grammar start hstart () tokens, underway_start start () tokens⟩
    rw [p.trace_of_start start hstart]
    refine ⟨hlabelled.taken, ?_⟩
    intro hterminals token htoken
    have hinput : token ∈ tokens := by
      rw [hunderway.consumed] at htoken
      exact List.mem_of_mem_take htoken
    obtain ⟨event, hevent, hmatched⟩ := List.mem_filterMap.mp htoken
    obtain ⟨before, after, hsplit⟩ := List.append_of_mem hevent
    cases event with
    | applied q => cases hmatched
    | matched _ =>
      cases hmatched
      cases hlabelled.taken before token after hsplit with
      | terminal h => exact h
      | head _ _ hs => exact absurd hs ((p.grammar.isTerminal_iff _).mp (hterminals token hinput))

/-- A head behind a letter. -/
def letterThenHead : Grammar :=
  Grammar.ofRules [(⟨"S"⟩, [[⟨"a"⟩, ⟨"B"⟩]]), (⟨"B"⟩, [[⟨"b"⟩]])]

def letterThenHeadParser : Parser :=
  ⟨letterThenHead, letterThenHead.table.toOption.getD Table.empty⟩

theorem matched_terminal_or_head_letters :
    letterThenHead.table = .ok letterThenHeadParser.table ∧
    (letterThenHeadParser.trace (["a", "B"].map Token.ofLabel)).1 =
      [.applied ⟨⟨"S"⟩, [⟨"a"⟩, ⟨"B"⟩]⟩, .matched (Token.ofLabel "a"),
        .matched (Token.ofLabel "B")] ∧
    TakenAs letterThenHead [.applied ⟨⟨"S"⟩, [⟨"a"⟩, ⟨"B"⟩]⟩, .matched (Token.ofLabel "a")] ⟨"B"⟩ ∧
    (∀ token ∈ ["a", "b"].map Token.ofLabel, letterThenHead.isTerminal token.symbol = true) ∧
    ∀ token ∈ matchedTokens (letterThenHeadParser.trace (["a", "b"].map Token.ofLabel)).1,
      token.symbol ∈ letterThenHead.terminals := by
  have htable : letterThenHead.table = .ok letterThenHeadParser.table := by decide +kernel
  have htrace : (letterThenHeadParser.trace (["a", "B"].map Token.ofLabel)).1 =
      [.applied ⟨⟨"S"⟩, [⟨"a"⟩, ⟨"B"⟩]⟩, .matched (Token.ofLabel "a"),
        .matched (Token.ofLabel "B")] := by decide +kernel
  have hletters : ∀ token ∈ ["a", "b"].map Token.ofLabel,
      letterThenHead.isTerminal token.symbol = true := by decide +kernel
  refine ⟨htable, htrace, ?_, hletters, ?_⟩
  · exact (matched_terminal_or_head letterThenHeadParser htable _).1
      [.applied ⟨⟨"S"⟩, [⟨"a"⟩, ⟨"B"⟩]⟩, .matched (Token.ofLabel "a")] (Token.ofLabel "B") [] htrace
  · exact (matched_terminal_or_head letterThenHeadParser htable _).2 hletters

/-- A token labelled with the start symbol makes up for a whole sentence. -/
theorem head_matched : letterThenHead.table = .ok letterThenHeadParser.table ∧
    letterThenHead.isTerminal Symbol.epsilon = true ∧
    letterThenHead.isTerminal Symbol.endMarker = true ∧
    Symbol.endMarker ∉ letterThenHead.bodySymbols ∧
    letterThenHeadParser.trace [Token.ofLabel "S"] = ([.matched (Token.ofLabel "S")], .ok ()) ∧
    letterThenHead.isTerminal (Token.ofLabel "S").symbol = false := by
  decide +kernel

end Parser

end Predictive
