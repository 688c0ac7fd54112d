import Predictive.Proofs.Parser.Invariant
import Predictive.Proofs.Parser.Language
import Predictive.Proofs.Table.LeftRecursion
/-!
# Errors come as early as they can

A wrong lookahead may have productions applied to it that become empty, but it is never matched. As
long as the input reads like a sentence, the stack yields the rest of that sentence, and the machine
goes on. So where it fails, no sentence reads like the input up to the failing token.
-/
namespace Predictive

/-- The token at which the machine could not go on. -/
def ParseError.found? : ParseError → Option Token
  | unexpectedToken _ found => some found
  | emptyCell _ found => some found
  | leftoverInput found => some found
  | noStart | refusedChild _ | unending => none

namespace Parser

variable {σ ι : Type}

/-- The events of a parse into a tree. -/
def growth (p : Parser) (tokens : List Token) : List Event :=
  match p.grammar.start? with
  | none => []
  | some start =>
    let tree := Tree.new (Token.textless start)
    (p.observe grower.traced start Tree.root ([], tree) tokens).1.1.reverse

/-- The events so far are a leftmost derivation of what is matched and what is on the stack. -/
structure Leftmost (g : Grammar) (start : Symbol) (tokens : List Token) (events : List Event)
    (c : Config ι) : Prop where
  underway : Underway start tokens events c
  derived : g.LeftDerives [start] (applied events)
    ((matchedTokens events).map Token.symbol ++ c.stack.map Prod.fst)

/-- The string reads like the tokens at all places up to the given one, where both read `$` past
their end. -/
def ReadsLike (w : Body) (tokens : List Token) (k : Nat) : Prop :=
  ∀ m ≤ k, (w.drop m).headD Symbol.endMarker = lookahead (tokens.drop m)

/-- As long as no more tokens are matched than given, the stack yields the rest of the string. -/
def YieldsRest (g : Grammar) (w : Body) (k : Nat) (events : List Event) (c : Config ι) : Prop :=
  (matchedTokens events).length ≤ k →
    ∃ ps, g.Yields (c.stack.map Prod.fst) ps (w.drop (matchedTokens events).length)

private theorem readsLike_self (tokens : List Token) (k : Nat) :
    ReadsLike (tokens.map Token.symbol) tokens k := by
  intro m _
  rw [← List.map_drop, headD_map_symbol]

private theorem readsLike_of_begins (w : Body) (tokens : List Token) (k : Nat)
    (hk : k < tokens.length) (h : (tokens.take (k + 1)).map Token.symbol <+: w) :
    ReadsLike w tokens k := by
  intro m hm
  obtain ⟨v, rfl⟩ := h
  have hlt : m < ((tokens.take (k + 1)).map Token.symbol).length := by
    simp only [List.length_map, List.length_take]
    omega
  have hlt' : m < tokens.length := by omega
  rw [List.drop_append_of_le_length (by omega), List.drop_eq_getElem_cons hlt,
    List.drop_eq_getElem_cons hlt', List.getElem_map, List.getElem_take]
  rfl

private theorem Underway.lookahead_eq (start : Symbol) (tokens : List Token) (events : List Event)
    (c : Config ι) (h : Underway start tokens events c) :
    c.current.symbol = lookahead (tokens.drop (matchedTokens events).length) := by
  rw [Config.current, h.unread]
  rfl

section Machine

variable (p : Parser) (hp : p.grammar.table = .ok p.table)
  (start : Symbol) (hstart : p.grammar.start? = some start)
  (tokens : List Token) (htokens : Plain p.grammar tokens)
  (o : Observer σ ι) (events : σ → List Event) (ho : Tells o events)

include htokens in
theorem Underway.terminals (seen : List Event) (c : Config ι)
    (h : Underway start tokens seen c) :
    ∀ s ∈ (matchedTokens seen).map Token.symbol, p.grammar.isTerminal s = true := by
  intro s hs
  obtain ⟨token, htoken, rfl⟩ := List.mem_map.mp hs
  rw [h.consumed] at htoken
  exact (htokens token (List.mem_of_mem_take htoken)).1

include hp htokens ho in
/-- A match moves a symbol from the stack to the tokens matched, and a production is one more step
of the derivation. -/
theorem Leftmost.step (state : σ) (c : Config ι)
    (h : Leftmost p.grammar start tokens (events state) c) (state' : σ) (c' : Config ι)
    (hstep : p.step o state c = .next state' c') :
    Leftmost p.grammar start tokens (events state') c' := by
  have hheads (head a : Symbol) (q : Production) (hq : p.table.get? head a = some q) :
      q.head = head := (p.grammar.production_of_get? p.table hp head a q hq).2
  refine ⟨h.underway.step p hheads o events ho start tokens state c state' c' hstep, ?_⟩
  have hderived := h.derived
  have hterminals := h.underway.terminals p start tokens htokens (events state) c
  cases p.advances_of_next o state c state' c' hstep with
  | matched slot below token rest hend =>
    rw [ho.onMatch]
    simpa using hderived
  | expanded top slot below input q _ slots hend htop hhead hcell hq =>
    obtain ⟨hmem, rfl⟩ := p.grammar.production_of_get? p.table hp top _ q hcell
    have hlast := Grammar.LeftDerives.step _ (below.map Prod.fst) q [] _ hterminals hmem (.refl _)
    have htrans := hderived.trans _ _ _ _ _ hlast
    rw [ho.onProduction _ _ _ _ _ hq]
    dsimp only
    rw [map_fst_zip_append q slots below (ho.aligned _ _ _ _ _ hq)]
    simpa using htrans

include hp hstart in
private theorem cell_of_yields (before rest v : Body) (top : Symbol) (ps : List Production)
    (htop : p.grammar.isTerminal top = false)
    (hreach : p.grammar.Derives [start] (before ++ top :: rest))
    (h : p.grammar.Yields (top :: rest) ps v) (hε : Symbol.epsilon ∉ v) :
    ∃ q qs, p.table.get? top (v.headD Symbol.endMarker) = some q ∧
      p.grammar.Yields (q.pushed ++ rest) qs v := by
  obtain ⟨q, qs, hq, rfl, -, tail⟩ :=
    h.of_head _ _ _ _ ((p.grammar.isTerminal_eq_false_iff top).mp htop)
  have hpredicted := p.grammar.predicted_of_yields start hstart q hq before rest v qs hreach tail hε
  exact ⟨q, qs, (p.grammar.get?_tableWith_iff _ p.table hp _ _ q).mpr ⟨hq, rfl, hpredicted⟩, tail⟩

variable (w : Body) (hε : Symbol.epsilon ∉ w) (k : Nat) (hreads : ReadsLike w tokens k)

include hp hstart htokens ho hε hreads in
/-- While the tokens read like a sentence, the stack goes on to yield the rest of it. -/
theorem YieldsRest.step (state : σ) (c : Config ι)
    (hleft : Leftmost p.grammar start tokens (events state) c)
    (h : YieldsRest p.grammar w k (events state) c) (state' : σ) (c' : Config ι)
    (hstep : p.step o state c = .next state' c') :
    YieldsRest p.grammar w k (events state') c' := by
  have hlook := hleft.underway.lookahead_eq start tokens (events state) c
  have hreach := hleft.derived.derives _ _ _
  cases p.advances_of_next o state c state' c' hstep with
  | matched slot below token rest hend =>
    have hunread := hleft.underway.unread
    have htoken : token ∈ tokens := by
      apply List.mem_of_mem_drop
      rw [← hunread]
      exact List.mem_cons_self
    rw [ho.onMatch]
    intro hk
    rw [matchedTokens_append, List.length_append] at hk ⊢
    obtain ⟨ps, hps⟩ := h (Nat.le_of_succ_le hk)
    obtain ⟨v, hv, tail⟩ := hps.of_terminal _ _ _ _ (htokens token htoken).1
    refine ⟨ps, ?_⟩
    rw [← List.drop_drop, hv]
    exact tail
  | expanded top slot below input q _ slots hend htop hhead hcell hq =>
    rw [ho.onProduction _ _ _ _ _ hq]
    intro hk
    rw [matchedTokens_append, matchedTokens_applied, matchedTokens_nil, List.append_nil] at hk ⊢
    obtain ⟨ps, hps⟩ := h hk
    have hrest : Symbol.epsilon ∉ w.drop (matchedTokens (events state)).length :=
      fun hmem => hε (List.mem_of_mem_drop hmem)
    obtain ⟨r, qs, hr, tail⟩ := cell_of_yields p hp start hstart _ _ _ top ps hhead hreach hps hrest
    rw [hreads _ hk, ← hlook] at hr
    obtain rfl : q = r := Option.some.inj (hcell.symm.trans hr)
    dsimp only
    rw [map_fst_zip_append q slots below (ho.aligned _ _ _ _ _ hq)]
    exact ⟨qs, tail⟩

include hp hstart hε hreads in
private theorem not_yieldsRest_of_exits (seen : List Event) (c : Config ι) (e : ParseError)
    (found : Token) (hfound : e.found? = some found) (hexits : p.Exits c (.error e))
    (hend : p.grammar.isTerminal Symbol.endMarker = true)
    (hleft : Leftmost p.grammar start tokens seen c) (hk : (matchedTokens seen).length ≤ k) :
    ¬YieldsRest p.grammar w k seen c := by
  intro h
  obtain ⟨ps, hps⟩ := h hk
  have hlook := hleft.underway.lookahead_eq start tokens seen c
  rw [← hreads _ hk] at hlook
  have hreach := hleft.derived.derives _ _ _
  cases hexits with
  | leftover hstack hcurrent =>
    apply hcurrent
    rw [hlook]
    cases hc : c.stack with
    | nil =>
      rw [hc] at hps
      obtain ⟨-, hnil⟩ := hps.of_terminals _ _ _ (by simp)
      rw [hnil]
      rfl
    | cons entry below =>
      have htop : entry.1 = Symbol.endMarker := hstack entry (by rw [hc]; rfl)
      rw [hc, List.map_cons, htop] at hps
      obtain ⟨v, hv, -⟩ := hps.of_terminal _ _ _ _ hend
      rw [hv]
      rfl
  | unexpected top slot below hstack hend htop hterm =>
    rw [hstack, List.map_cons] at hps
    obtain ⟨v, hv, -⟩ := hps.of_terminal _ _ _ _ hterm
    rw [hv] at hlook
    exact htop hlook.symm
  | stuck top slot below hstack hend htop hhead hcell =>
    rw [hstack, List.map_cons] at hps hreach
    have hrest : Symbol.epsilon ∉ w.drop (matchedTokens seen).length :=
      fun hmem => hε (List.mem_of_mem_drop hmem)
    obtain ⟨q, qs, hq, -⟩ := cell_of_yields p hp start hstart _ _ _ top ps hhead hreach hps hrest
    rw [← hlook, hcell] at hq
    cases hq

end Machine

/-- The error at the given token comes as early as it can after the events: what is matched is the
beginning of a sentence as far as the heads allow it, but with the token it is not. -/
structure Earliest (g : Grammar) (tokens : List Token) (events : List Event) (found : Token) :
    Prop where
  matched : matchedTokens events = tokens.take (matchedTokens events).length
  found : found = (tokens[(matchedTokens events).length]?).getD Token.endOfInput
  excluded : (matchedTokens events).length < tokens.length → ∀ w, g.IsSentence w →
    ¬(tokens.take ((matchedTokens events).length + 1)).map Token.symbol <+: w
  ended : (matchedTokens events).length = tokens.length → ¬g.IsSentence (tokens.map Token.symbol)
  viable : (∀ s ∈ g.heads, g.Productive s) →
    ∃ v, g.IsSentence ((matchedTokens events).map Token.symbol ++ v)

section Errors

variable (p : Parser) (hp : p.grammar.table = .ok p.table)
  (hε : p.grammar.isTerminal Symbol.epsilon = true)
  (hend : p.grammar.isTerminal Symbol.endMarker = true)
  (start : Symbol) (hstart : p.grammar.start? = some start)
  (tokens : List Token) (htokens : Plain p.grammar tokens)
  (o : Observer σ ι) (events : σ → List Event) (ho : Tells o events)

private theorem leftmost_start (slot : ι) (state : σ) (hstate : events state = []) :
    Leftmost p.grammar start tokens (events state) ⟨[(start, slot)], tokens⟩ := by
  rw [hstate]
  exact ⟨underway_start start slot tokens, .refl [start]⟩

include hp hε hend hstart htokens ho in
/-- No sentence reads like the tokens up to the one at which the machine cannot go on. -/
private theorem not_readsLike_of_exits (slot : ι) (state : σ) (hstate : events state = []) (n : Nat)
    (state' : σ) (c : Config ι)
    (hafter : p.after o n state ⟨[(start, slot)], tokens⟩ = some (state', c)) (e : ParseError)
    (found : Token) (hfound : e.found? = some found) (hexits : p.Exits c (.error e)) (w : Body)
    (hw : p.grammar.IsSentence w) :
    ¬ReadsLike w tokens (matchedTokens (events state')).length := by
  intro hreads
  obtain ⟨hterm, s, ps, hs, hderives⟩ := hw
  obtain rfl : start = s := Option.some.inj (hstart.symm.trans hs)
  have hyields := hderives.yields _ _ _ hterm
  have hsolid := hyields.epsilon_not_mem _ _ _ (p.grammar.epsilon_not_mem_start hε start hstart)
  have hfirst : YieldsRest p.grammar w (matchedTokens (events state')).length (events state)
      ⟨[(start, slot)], tokens⟩ := by
    rw [hstate]
    exact fun _ => ⟨ps, hyields⟩
  -- Each iteration keeps both that the events are a derivation and that the stack yields the rest.
  obtain ⟨hleft, hrest⟩ : Leftmost p.grammar start tokens (events state') c ∧
      YieldsRest p.grammar w (matchedTokens (events state')).length (events state') c := by
    refine p.after_keeps o (fun state₁ c₁ => Leftmost p.grammar start tokens (events state₁) c₁ ∧
      YieldsRest p.grammar w (matchedTokens (events state')).length (events state₁) c₁) ?_ n state _
      ⟨leftmost_start p start tokens events slot state hstate, hfirst⟩ state' c hafter
    intro state₁ c₁ state₂ c₂ hkept hstep
    refine ⟨hkept.1.step p hp start tokens htokens o events ho state₁ c₁ state₂ c₂ hstep, ?_⟩
    exact hkept.2.step p hp start hstart tokens htokens o events ho w hsolid _ hreads state₁ c₁
      hkept.1 state₂ c₂ hstep
  exact not_yieldsRest_of_exits p hp start hstart tokens w hsolid _ hreads _ c e found hfound hexits
    hend hleft (Nat.le_refl _) hrest

include hp hε hend hstart htokens ho in
private theorem earliest_of_run
    (horefuse : ∀ state slot q e, o.onProduction state slot q = .error e → e.found? = none)
    (slot : ι) (state : σ) (hstate : events state = []) (n : Nat) (e : ParseError)
    (herror : (p.run o n state ⟨[(start, slot)], tokens⟩).2 = .error e) (found : Token)
    (hfound : e.found? = some found) :
    Earliest p.grammar tokens (events (p.run o n state ⟨[(start, slot)], tokens⟩).1) found := by
  have hunending : (p.run o n state ⟨[(start, slot)], tokens⟩).2 ≠ .error .unending := by
    rw [herror]
    rintro ⟨⟩
    cases hfound
  obtain ⟨m, c, hafter, hstop⟩ := p.exists_after_of_run o n state _ hunending
  rw [herror] at hstop
  generalize (p.run o n state ⟨[(start, slot)], tokens⟩).1 = state' at hafter hstop
  have hexits : p.Exits c (.error e) := by
    rcases p.exits_of_stop o state' c _ hstop with hexits | ⟨slot', q, e', hq, he⟩
    · exact hexits
    · obtain rfl : e = e' := Except.error.inj he
      rw [horefuse _ _ _ _ hq] at hfound
      cases hfound
  have hleft := p.after_keeps o (fun state c => Leftmost p.grammar start tokens (events state) c)
    (fun state c state' c' h => h.step p hp start tokens htokens o events ho state c state' c') m
    state _ (leftmost_start p start tokens events slot state hstate) state' c hafter
  have hnot := not_readsLike_of_exits p hp hε hend start hstart tokens htokens o events ho slot
    state hstate m state' c hafter e found hfound hexits
  refine ⟨hleft.underway.consumed, ?_, ?_, ?_, ?_⟩
  · rw [← hleft.underway.current]
    cases hexits <;> exact (Option.some.inj hfound).symm
  · exact fun hlt w hw hbegins => hnot w hw (readsLike_of_begins w tokens _ hlt hbegins)
  · exact fun _ hw => hnot _ hw (readsLike_self tokens _)
  · intro hprod
    obtain ⟨ps, v, hv⟩ := Grammar.exists_yields hprod (c.stack.map Prod.fst)
    have hterminals := hleft.underway.terminals p start tokens htokens _ c
    have hlast := hv.leftDerives _ _ _ _ hterminals
    refine ⟨v, ?_, start, _, hstart, hleft.derived.trans _ _ _ _ _ hlast⟩
    exact List.forall_mem_append.mpr ⟨hterminals, hv.isTerminal _ _ _⟩

end Errors

private theorem found?_of_refused (seen : List Event × Tree) (id : NodeId) (q : Production)
    (e : ParseError) (h : grower.traced.onProduction seen id q = .error e) : e.found? = none := by
  simp only [Observer.traced] at h
  split at h
  · next e' hq =>
    obtain ⟨cause, rfl⟩ := grower_refuses _ _ _ _ hq
    cases h
    rfl
  · cases h

private theorem growth_error_of_tree (p : Parser) (start : Symbol)
    (hstart : p.grammar.start? = some start) (tokens : List Token) (e : ParseError)
    (h : p.tree tokens = .error e) :
    (p.run grower.traced (p.stepLimit tokens) ([], Tree.new (Token.textless start))
      ⟨[(start, Tree.root)], tokens⟩).2 = .error e := by
  rw [(p.run_traced grower _ _ _ _).2]
  cases hrun : p.run grower (p.stepLimit tokens) (Tree.new (Token.textless start))
      ⟨[(start, Tree.root)], tokens⟩ with
  | mk t result =>
    rw [p.tree_eq_map start hstart tokens t result hrun] at h
    cases result with
    | ok u => cases h
    | error e' =>
      cases h
      rfl

/-- On a grammar whose table has no conflicts every error at a token, be it in a trace or in a parse
into a tree, comes as early as it can. -/
theorem error_earliest (g : Grammar) (t : Table) (ht : g.table = .ok t)
    (hε : g.isTerminal Symbol.epsilon = true) (hend : g.isTerminal Symbol.endMarker = true)
    (tokens : List Token) (htokens : Plain g tokens) (e : ParseError) (found : Token)
    (hfound : e.found? = some found) :
    (((Parser.mk g t).trace tokens).2 = .error e →
      Earliest g tokens ((Parser.mk g t).trace tokens).1 found) ∧
    ((Parser.mk g t).tree tokens = .error e →
      Earliest g tokens ((Parser.mk g t).growth tokens) found) := by
  cases hstart : g.start? with
  | none =>
    rw [trace, tree, hstart]
    constructor
    · rintro ⟨⟩
      cases hfound
    · rintro ⟨⟩
      cases hfound
  | some start =>
    constructor
    · rw [trace_of_start (Parser.mk g t) start hstart]
      intro herror
      exact earliest_of_run (Parser.mk g t) ht hε hend start hstart tokens htokens recorder
        List.reverse recorder_tells (by rintro _ _ _ _ ⟨⟩) () [] rfl _ e herror found hfound
    · intro htree
      have herror := growth_error_of_tree (Parser.mk g t) start hstart tokens e htree
      rw [growth, hstart]
      exact earliest_of_run (Parser.mk g t) ht hε hend start hstart tokens htokens grower.traced _
        (traced_tells grower grower_aligned) found?_of_refused Tree.root _ rfl _ e herror found
        hfound

/-- A closing parenthesis too many. -/
def unbalancedTokens : List Token := ["(", ")", ")"].map Token.ofLabel

private theorem parens_productive : ∀ s ∈ parens.heads, parens.Productive s := by
  have hstep : parens.SolidStep [⟨"S"⟩] [] :=
    .expand [] [] ⟨⟨"S"⟩, [Symbol.epsilon]⟩ (by decide +kernel)
  have hheads : parens.heads = [⟨"S"⟩] := by decide +kernel
  rw [hheads]
  exact List.forall_mem_singleton.mpr ⟨[], by simp, .step _ _ _ hstep (.refl _)⟩

theorem error_earliest_unbalanced : parens.table = .ok parensTable ∧
    Plain parens unbalancedTokens ∧
    ((Parser.mk parens parensTable).trace unbalancedTokens).2 =
      .error (.leftoverInput (Token.ofLabel ")")) ∧
    (∀ w, parens.IsSentence w → ¬[(⟨"("⟩ : Symbol), ⟨")"⟩, ⟨")"⟩] <+: w) ∧
    (Parser.mk parens parensTable).tree unbalancedTokens =
      .error (.leftoverInput (Token.ofLabel ")")) ∧
    ∃ v, parens.IsSentence ([(⟨"("⟩ : Symbol), ⟨")"⟩] ++ v) := by
  have htable : parens.table = .ok parensTable := by decide +kernel
  have htokens : Plain parens unbalancedTokens := by
    unfold Plain
    decide +kernel
  obtain ⟨htrace, htree⟩ := error_earliest parens parensTable htable (by decide +kernel)
    (by decide +kernel) unbalancedTokens htokens (.leftoverInput (Token.ofLabel ")")) _ rfl
  have herror : ((Parser.mk parens parensTable).trace unbalancedTokens).2 =
      .error (.leftoverInput (Token.ofLabel ")")) := by decide +kernel
  have herror' : (Parser.mk parens parensTable).tree unbalancedTokens =
      .error (.leftoverInput (Token.ofLabel ")")) := by decide +kernel
  have hevents : matchedTokens ((Parser.mk parens parensTable).trace unbalancedTokens).1 =
      unbalancedTokens.take 2 := by decide +kernel
  have hgrowth : matchedTokens ((Parser.mk parens parensTable).growth unbalancedTokens) =
      unbalancedTokens.take 2 := by decide +kernel
  have hexcluded := (htrace herror).excluded
  have hviable := (htree herror').viable
  rw [hevents] at hexcluded
  rw [hgrowth] at hviable
  exact ⟨htable, htokens, herror, hexcluded (by decide), herror', hviable parens_productive⟩

end Parser

end Predictive
