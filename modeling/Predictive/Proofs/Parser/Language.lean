import Predictive.Parser.Trace
import Predictive.Proofs.Parser.Termination
import Predictive.Proofs.Table.Leftmost
/-!
# The parser accepts the language of its grammar

The stack is what the start symbol still has to yield. What the machine applies up to its success is
a leftmost derivation of the input. Conversely the table predicts every production that a leftmost
derivation of the input applies, so the machine follows the derivation to its end.
-/
namespace Predictive

def Event.production? : Event → Option Production
  | .matched _ => none
  | .applied production => some production

namespace Parser

/-- The productions that the events apply, in order. -/
def applied (events : List Event) : List Production := events.filterMap Event.production?

@[simp] theorem applied_nil : applied [] = [] := rfl

@[simp] theorem applied_matched (token : Token) (events : List Event) :
    applied (.matched token :: events) = applied events := rfl

@[simp] theorem applied_applied (p : Production) (events : List Event) :
    applied (.applied p :: events) = p :: applied events := rfl

@[simp] theorem applied_append (first second : List Event) :
    applied (first ++ second) = applied first ++ applied second := List.filterMap_append

private theorem finish_eq_ok_iff (found : Token) :
    finish found = .ok () ↔ found.symbol = Symbol.endMarker := by
  unfold finish
  split <;> simp_all

/-- Tokens of terminals, none of which is the end of the input. -/
def Plain (g : Grammar) (tokens : List Token) : Prop :=
  ∀ token ∈ tokens, g.isTerminal token.symbol = true ∧ token.symbol ≠ Symbol.endMarker

theorem Plain.tail (g : Grammar) (token : Token) (rest : List Token) (h : Plain g (token :: rest)) :
    Plain g rest := fun x hx => h x (List.mem_cons_of_mem _ hx)

private theorem Plain.eq_nil_of_lookahead (g : Grammar) (tokens : List Token) (h : Plain g tokens)
    (hend : lookahead tokens = Symbol.endMarker) : tokens = [] := by
  cases tokens with
  | nil => rfl
  | cons token rest => exact absurd hend (h token List.mem_cons_self).2

private theorem Plain.isTerminal_lookahead (g : Grammar) (tokens : List Token) (h : Plain g tokens)
    (hend : g.isTerminal Symbol.endMarker = true) : g.isTerminal (lookahead tokens) = true := by
  cases tokens with
  | nil => exact hend
  | cons token rest => exact (h token List.mem_cons_self).1

theorem headD_map_symbol (tokens : List Token) :
    (tokens.map Token.symbol).headD Symbol.endMarker = lookahead tokens := by
  cases tokens with
  | nil => rfl
  | cons token rest => rfl

section Acceptance

variable (p : Parser) (hp : p.grammar.table = .ok p.table)

include hp in
private theorem yields_of_run_eq_ok (hbody : Symbol.endMarker ∉ p.grammar.bodySymbols) (n : Nat)
    (events : List Event) (stack : List (Symbol × Unit)) (input : List Token)
    (hinput : Plain p.grammar input) (hstack : Symbol.endMarker ∉ stack.map Prod.fst)
    (hok : (p.run recorder n events ⟨stack, input⟩).2 = .ok ()) :
    ∃ later, (p.run recorder n events ⟨stack, input⟩).1 = later.reverse ++ events ∧
      p.grammar.Yields (stack.map Prod.fst) (applied later) (input.map Token.symbol) := by
  induction n generalizing events stack input with
  | zero => cases hok
  | succ n ih =>
    have hmove := p.moves_step recorder events ⟨stack, input⟩
    rw [run] at hok ⊢
    generalize p.step recorder events ⟨stack, input⟩ = next at hmove hok ⊢
    cases hmove with
    | emptied hnil =>
      dsimp only at hnil hok ⊢
      subst hnil
      have hrest := hinput.eq_nil_of_lookahead _ _ ((finish_eq_ok_iff _).mp hok)
      subst hrest
      exact ⟨[], rfl, .nil⟩
    | ended slot below htop =>
      dsimp only at htop
      subst htop
      exact absurd List.mem_cons_self hstack
    | matched top slot below hcons hend htop =>
      dsimp only at hcons hok ⊢
      subst hcons
      cases input with
      | nil => exact absurd htop hend
      | cons token rest =>
        change top = token.symbol at htop
        subst htop
        have hbelow : Symbol.endMarker ∉ below.map Prod.fst :=
          fun h => hstack (List.mem_cons_of_mem _ h)
        obtain ⟨later, hlater, hyields⟩ := ih _ below rest
          (hinput.tail _ token rest) hbelow hok
        refine ⟨.matched token :: later, ?_, ?_⟩
        · refine hlater.trans ?_
          rw [List.reverse_cons, List.append_assoc]
          rfl
        · exact .terminal _ _ _ _ (hinput token List.mem_cons_self).1 hyields
    | unexpected => cases hok
    | stuck => cases hok
    | refused => cases hok
    | expanded top slot below q state' slots hcons hend htop hhead hcell hq =>
      dsimp only at hcons hok ⊢
      subst hcons
      obtain ⟨hmem, rfl⟩ := p.grammar.production_of_get? p.table hp top _ q hcell
      have hpushed := map_fst_zip_append q slots below (recorder_aligned _ _ _ _ _ hq)
      have hnew : Symbol.endMarker ∉ (q.pushed.zip slots ++ below).map Prod.fst := by
        rw [hpushed]
        intro h
        rcases List.mem_append.mp h with h | h
        · exact hbody (p.grammar.mem_bodySymbols q hmem _ (List.mem_filter.mp h).1)
        · exact hstack (List.mem_cons_of_mem _ h)
      obtain ⟨later, hlater, hyields⟩ := ih _ _ input hinput hnew hok
      rw [hpushed] at hyields
      cases hq
      refine ⟨.applied q :: later, ?_, .expand q _ _ _ hmem hyields⟩
      refine hlater.trans ?_
      rw [List.reverse_cons, List.append_assoc]
      rfl

include hp in
private theorem run_eq_ok_of_yields (hend : p.grammar.isTerminal Symbol.endMarker = true)
    (start : Symbol) (hstart : p.grammar.start? = some start) (symbols w : Body)
    (ps : List Production) (h : p.grammar.Yields symbols ps w) (before : Body)
    (hreach : p.grammar.Derives [start] (before ++ symbols)) (hε : Symbol.epsilon ∉ w) (n : Nat)
    (events : List Event) (stack : List (Symbol × Unit)) (input : List Token)
    (hinput : Plain p.grammar input) (hstack : stack.map Prod.fst = symbols)
    (hw : input.map Token.symbol = w) (hstop : p.StopsWithin recorder n events ⟨stack, input⟩) :
    (p.run recorder n events ⟨stack, input⟩).2 = .ok () := by
  induction h generalizing before n events stack input with
  | nil =>
    have hnil := List.map_eq_nil_iff.mp hstack
    have hempty := List.map_eq_nil_iff.mp hw
    subst hnil
    subst hempty
    cases n with
    | zero => exact False.elim hstop
    | succ n => rfl
  | terminal s rest ps w hs _ ih =>
    obtain ⟨⟨top, slot⟩, below, rfl, rfl, hbelow⟩ := List.map_eq_cons_iff.mp hstack
    obtain ⟨token, tokens, rfl, htoken, htokens⟩ := List.map_eq_cons_iff.mp hw
    dsimp only at htoken
    subst htoken
    have hstep := p.step_match recorder events slot below token tokens
      (hinput token List.mem_cons_self).2
    cases n with
    | zero => exact False.elim hstop
    | succ n =>
      rw [run, hstep]
      have hreach' : p.grammar.Derives [start] ((before ++ [token.symbol]) ++ rest) := by
        simpa using hreach
      exact ih (before ++ [token.symbol]) hreach' (fun h => hε (List.mem_cons_of_mem _ h)) n _ below
        tokens (hinput.tail _ token tokens) hbelow htokens (hstop _ _ hstep)
  | expand q rest ps w hq tail ih =>
    obtain ⟨⟨top, slot⟩, below, rfl, htop, hbelow⟩ := List.map_eq_cons_iff.mp hstack
    dsimp only at htop
    subst htop
    have hhead := (p.grammar.isTerminal_eq_false_iff q.head).mpr (p.grammar.head_mem_heads q hq)
    have hne (a : Symbol) (ha : p.grammar.isTerminal a = true) : q.head ≠ a := by
      rintro rfl
      rw [ha] at hhead
      cases hhead
    have hpredicted := p.grammar.predicted_of_yields start hstart q hq before rest w ps hreach tail
      hε
    rw [← hw, headD_map_symbol] at hpredicted
    have hcell := (p.grammar.get?_tableWith_iff _ p.table hp _ _ q).mpr ⟨hq, rfl, hpredicted⟩
    have hstep := p.step_expand recorder events q.head slot below input q _ _ (hne _ hend)
      (hne _ (hinput.isTerminal_lookahead _ _ hend)) hhead hcell rfl
    have hreach' := hreach.trans _ _ _ _ (p.grammar.derives_pushed q hq before rest)
    cases n with
    | zero => exact False.elim hstop
    | succ n =>
      rw [run, hstep]
      apply ih before hreach' hε n _ _ input hinput ?_ hw (hstop _ _ hstep)
      rw [map_fst_zip_append q _ below (by simp), hbelow]

include hp in
private theorem yields_of_trace_eq_ok (hend : p.grammar.isTerminal Symbol.endMarker = true)
    (hbody : Symbol.endMarker ∉ p.grammar.bodySymbols) (tokens : List Token)
    (htokens : Plain p.grammar tokens) (hok : (p.trace tokens).2 = .ok ()) :
    ∃ start, p.grammar.start? = some start ∧
      p.grammar.Yields [start] (applied (p.trace tokens).1) (tokens.map Token.symbol) := by
  cases hstart : p.grammar.start? with
  | none =>
    rw [trace, hstart] at hok
    cases hok
  | some start =>
    rw [trace_of_start p start hstart] at hok ⊢
    have hhead := p.grammar.start_mem_heads start hstart
    have hne : Symbol.endMarker ∉ [(start, ())].map Prod.fst := by
      intro h
      rw [List.mem_singleton.mp h] at hend
      exact (p.grammar.isTerminal_iff start).mp hend hhead
    obtain ⟨later, hlater, hyields⟩ := yields_of_run_eq_ok p hp hbody _ [] _ tokens htokens hne hok
    refine ⟨start, rfl, ?_⟩
    rw [hlater, List.append_nil, List.reverse_reverse]
    exact hyields

include hp in
private theorem trace_eq_ok_of_yields (hε : p.grammar.isTerminal Symbol.epsilon = true)
    (hend : p.grammar.isTerminal Symbol.endMarker = true) (tokens : List Token)
    (htokens : Plain p.grammar tokens) (start : Symbol) (hstart : p.grammar.start? = some start)
    (ps : List Production) (h : p.grammar.Yields [start] ps (tokens.map Token.symbol)) :
    (p.trace tokens).2 = .ok () := by
  have hne := p.grammar.epsilon_not_mem_start hε start hstart
  rw [trace_of_start p start hstart]
  exact run_eq_ok_of_yields p hp hend start hstart [start] _ ps h [] (.refl [start])
    (h.epsilon_not_mem _ _ _ hne) _ [] _ tokens htokens rfl rfl
    (stopsWithin_stepLimit p hp hε recorder recorder_aligned start () [] tokens)

end Acceptance

/-- On a grammar whose table has no conflicts the parser accepts the strings that the start symbol
derives and no others, and the productions that it applies are a leftmost derivation. -/
theorem trace_ok_iff_derives (g : Grammar) (t : Table) (ht : g.table = .ok t)
    (hε : g.isTerminal Symbol.epsilon = true) (hend : g.isTerminal Symbol.endMarker = true)
    (hbody : Symbol.endMarker ∉ g.bodySymbols) (tokens : List Token)
    (htokens : ∀ token ∈ tokens,
      g.isTerminal token.symbol = true ∧ token.symbol ≠ Symbol.endMarker) :
    (((Parser.mk g t).trace tokens).2 = .ok () ↔
      ∃ start, g.start? = some start ∧ g.SolidDerives [start] (tokens.map Token.symbol)) ∧
    ((¬∃ start, g.start? = some start ∧ g.SolidDerives [start] (tokens.map Token.symbol)) →
      ∃ e, e ≠ .unending ∧ ((Parser.mk g t).trace tokens).2 = .error e) ∧
    (((Parser.mk g t).trace tokens).2 = .ok () → ∃ start, g.start? = some start ∧
      g.LeftDerives [start] (applied ((Parser.mk g t).trace tokens).1)
        (tokens.map Token.symbol)) := by
  have hsound := yields_of_trace_eq_ok (Parser.mk g t) ht hend hbody tokens htokens
  have hiff : ((Parser.mk g t).trace tokens).2 = .ok () ↔
      ∃ start, g.start? = some start ∧ g.SolidDerives [start] (tokens.map Token.symbol) := by
    constructor
    · intro hok
      obtain ⟨start, hstart, hyields⟩ := hsound hok
      exact ⟨start, hstart, hyields.solidDerives _ _ _ []⟩
    · rintro ⟨start, hstart, h⟩
      have hterm : ∀ s ∈ tokens.map Token.symbol, g.isTerminal s = true := by
        intro s hs
        obtain ⟨token, htoken, rfl⟩ := List.mem_map.mp hs
        exact (htokens token htoken).1
      obtain ⟨ps, hyields⟩ := Grammar.yields_of_solidDerives [start] _ h hterm
      exact trace_eq_ok_of_yields (Parser.mk g t) ht hε hend tokens htokens start hstart ps hyields
  refine ⟨hiff, ?_, ?_⟩
  · intro hnot
    cases hresult : ((Parser.mk g t).trace tokens).2 with
    | ok u => exact absurd (hiff.mp hresult) hnot
    | error e =>
      refine ⟨e, ?_, rfl⟩
      rintro rfl
      exact trace_ne_unending (Parser.mk g t) ht hε tokens hresult
  · intro hok
    obtain ⟨start, hstart, hyields⟩ := hsound hok
    exact ⟨start, hstart, hyields.leftDerives _ _ _ [] (by simp)⟩

def parens : Grammar :=
  Grammar.ofRules [(⟨"S"⟩, [[⟨"("⟩, ⟨"S"⟩, ⟨")"⟩, ⟨"S"⟩], [Symbol.epsilon]])]

def parensTable : Table := parens.table.toOption.getD Table.empty

def parensTokens : List Token := ["(", ")", "(", ")"].map Token.ofLabel

theorem trace_parens : parens.table = .ok parensTable ∧ Plain parens parensTokens ∧
    ((Parser.mk parens parensTable).trace parensTokens).2 = .ok () ∧
    ∃ start, parens.start? = some start ∧
      parens.LeftDerives [start] (applied ((Parser.mk parens parensTable).trace parensTokens).1)
        (parensTokens.map Token.symbol) := by
  have htable : parens.table = .ok parensTable := by decide +kernel
  have htokens : ∀ token ∈ parensTokens,
      parens.isTerminal token.symbol = true ∧ token.symbol ≠ Symbol.endMarker := by decide +kernel
  obtain ⟨-, -, hleft⟩ := trace_ok_iff_derives parens parensTable htable (by decide +kernel)
    (by decide +kernel) (by decide +kernel) parensTokens htokens
  have hok : ((Parser.mk parens parensTable).trace parensTokens).2 = .ok () := by decide +kernel
  exact ⟨htable, htokens, hok, hleft hok⟩

end Parser

end Predictive
