import Predictive.Proofs.Parser.Growth
import Predictive.Proofs.Parser.Invariant
import Predictive.Proofs.Parser.Language
import Predictive.Proofs.Parser.Limit
/-!
# Trees and traces tell the same story

A run that grows a tree and a run that traces take the same steps. While the tree grows, a walk of
it meets first the nodes of the events so far, in their order, and then the nodes on the stack.
-/
namespace Predictive

namespace Event

/-- What a tree keeps of an event: a matched token has its label as text if it has none, and a body
is kept without its `empty` symbols. -/
def stored : Event → Event
  | matched token => matched ⟨token.symbol, some token.lexemeOrLabel⟩
  | applied p => applied ⟨p.head, p.pushed⟩

end Event

namespace Tree

/-- The symbols of the nodes. -/
def symbols (t : Tree) (ids : List NodeId) : Body :=
  ids.filterMap (fun id => (t.token? id).map Token.symbol)

/-- The event that a node stands for: a match if the node holds text, and otherwise a production
from its symbol to those of its children. -/
def event? (t : Tree) (id : NodeId) : Option Event :=
  (t.token? id).map (fun token =>
    match token.lexeme with
    | some _ => .matched token
    | none => .applied ⟨token.symbol, t.symbols (t.children id)⟩)

private theorem symbols_congr (t t' : Tree) (ids : List NodeId)
    (h : ∀ id ∈ ids, (t'.token? id).map Token.symbol = (t.token? id).map Token.symbol) :
    t'.symbols ids = t.symbols ids := List.filterMap_congr h

private theorem symbol_setText (t : Tree) (id j : NodeId) (lexeme : String) :
    ((t.setText id lexeme).token? j).map Token.symbol = (t.token? j).map Token.symbol := by
  rw [token?_setText]
  split <;> cases t.token? j <;> rfl

private theorem event?_setText_of_ne (t : Tree) (id j : NodeId) (lexeme : String) (hj : j ≠ id) :
    (t.setText id lexeme).event? j = t.event? j := by
  rw [event?, event?, token?_setText, if_neg hj, children_setText,
    symbols_congr t _ _ (fun c _ => t.symbol_setText id c lexeme)]

private theorem event?_setText (t : Tree) (id : NodeId) (s : Symbol) (lexeme : String)
    (hid : t.token? id = some (Token.textless s)) :
    (t.setText id lexeme).event? id = some (.matched ⟨s, some lexeme⟩) := by
  rw [event?, token?_setText, if_pos rfl, hid]
  rfl

section Sprouting

variable (t : Tree) (id : NodeId) (body : Body) (t' : Tree) (hs : t.Sprouts id body t')

include hs

private theorem Sprouts.symbols_new :
    t'.symbols (List.range' t.size body.length) = body := by
  have hmap : (List.range' t.size body.length).map (fun j => (t'.token? j).map Token.symbol) =
      body.map some := by
    apply List.ext_getElem
    · simp
    · intro i hi _
      rw [List.getElem_map, List.getElem_range', List.getElem_map, Nat.one_mul,
        hs.new i (by simpa using hi)]
      rfl
  have hsymbols (ids : List NodeId) : t'.symbols ids =
      (ids.map (fun j => (t'.token? j).map Token.symbol)).filterMap (fun s => s) := by
    rw [List.filterMap_map]
    rfl
  rw [hsymbols, hmap, List.filterMap_map]
  exact List.filterMap_some

private theorem Sprouts.event?_of_ne (h : t.WellLinked) (j : NodeId) (hj : j < t.size)
    (hne : j ≠ id) : t'.event? j = t.event? j := by
  have hsame := symbols_congr t t' (t.children j)
    (fun c hc => congrArg (Option.map Token.symbol) (hs.old c (h.child_lt j c hc)))
  rw [event?, event?, hs.old j hj, hs.children, if_neg hne, hsame]

private theorem Sprouts.event?_self (hid : id < t.size) (s : Symbol)
    (htoken : t.token? id = some (Token.textless s)) :
    t'.event? id = some (.applied ⟨s, body⟩) := by
  rw [event?, hs.old id hid, htoken, hs.children, if_pos rfl, Sprouts.symbols_new t id body t' hs]
  rfl

end Sprouting

end Tree

namespace Parser

/-- What is on the stack without the nodes. -/
def bare (stack : List (Symbol × NodeId)) : List (Symbol × Unit) := stack.map (fun e => (e.1, ()))

/-- The number of symbols that the events push. -/
def pushes (events : List Event) : Nat := ((applied events).map (fun q => q.pushed.length)).sum

@[simp] theorem pushes_matched (events : List Event) (token : Token) :
    pushes (events ++ [.matched token]) = pushes events := by simp [pushes]

@[simp] theorem pushes_applied (events : List Event) (q : Production) :
    pushes (events ++ [.applied q]) = pushes events + q.pushed.length := by simp [pushes]

/-- The tree that the events so far have made, with the stack. -/
structure Grown (start : Symbol) (events : List Event) (t : Tree)
    (stack : List (Symbol × NodeId)) : Prop where
  linked : t.WellLinked
  size : t.size = 1 + pushes events
  start : (t.token? Tree.root).map Token.symbol = some start
  waiting : ∀ e ∈ stack, t.token? e.2 = some (Token.textless e.1) ∧ t.children e.2 = []
  walk : ∃ seen, t.descendants Tree.root = seen ++ stack.map Prod.snd ∧
    seen.map t.event? = events.map (fun e => some e.stored)
  complete : ∀ id < t.size, id ∈ t.descendants Tree.root

theorem grown_start (start : Symbol) :
    Grown start [] (Tree.new (Token.textless start)) [(start, Tree.root)] where
  linked := Tree.wellLinked_new _
  size := rfl
  start := rfl
  waiting := by
    intro e he
    obtain rfl := List.mem_singleton.mp he
    exact ⟨rfl, rfl⟩
  walk := ⟨[], rfl, rfl⟩
  complete := by
    intro id hid
    obtain rfl : id = Tree.root := Nat.lt_one_iff.mp hid
    exact List.mem_singleton.mpr rfl

namespace Grown

variable (start : Symbol) (events : List Event) (t : Tree)

theorem root_lt (stack : List (Symbol × NodeId)) (h : Grown start events t stack) :
    Tree.root < t.size := by
  rw [h.size, Nat.add_comm]
  exact Nat.succ_pos _

theorem lt_size (stack : List (Symbol × NodeId)) (h : Grown start events t stack) (id : NodeId)
    (hid : id ∈ t.descendants Tree.root) : id < t.size :=
  h.linked.lt_size_of_mem_descendants Tree.root id (h.root_lt start events t stack) hid

private theorem mem_descendants (stack : List (Symbol × NodeId)) (h : Grown start events t stack)
    (e : Symbol × NodeId) (he : e ∈ stack) : e.2 ∈ t.descendants Tree.root := by
  obtain ⟨seen, hwalk, -⟩ := h.walk
  rw [hwalk]
  exact List.mem_append_right _ (List.mem_map_of_mem he)

theorem top_lt (s : Symbol) (id : NodeId) (below : List (Symbol × NodeId))
    (h : Grown start events t ((s, id) :: below)) : id < t.size :=
  h.lt_size start events t _ id (h.mem_descendants start events t _ _ List.mem_cons_self)

private theorem top_fresh (s : Symbol) (id : NodeId) (below : List (Symbol × NodeId))
    (h : Grown start events t ((s, id) :: below)) (seen : List NodeId)
    (hwalk : t.descendants Tree.root = seen ++ id :: below.map Prod.snd) :
    id ∉ seen ∧ ∀ e ∈ below, e.2 ≠ id := by
  have hroot := h.root_lt start events t _
  have hnodup := h.linked.nodup_descendants Tree.root hroot
  rw [hwalk] at hnodup
  obtain ⟨-, hbelow, hapart⟩ := List.nodup_append.mp hnodup
  refine ⟨fun hid => hapart id hid id List.mem_cons_self rfl, ?_⟩
  intro e he heq
  have hmem : e.2 ∈ below.map Prod.snd := List.mem_map_of_mem he
  exact (List.nodup_cons.mp hbelow).1 (heq ▸ hmem)

theorem matched (token : Token) (id : NodeId) (below : List (Symbol × NodeId))
    (h : Grown start events t ((token.symbol, id) :: below)) :
    Grown start (events ++ [.matched token]) (t.setText id token.lexemeOrLabel) below := by
  obtain ⟨seen, hwalk, hseen⟩ := h.walk
  rw [List.map_cons] at hwalk
  have hroot := h.root_lt start events t _
  have hwalk' := (h.linked.descendants_setText id Tree.root token.lexemeOrLabel hroot).trans hwalk
  obtain ⟨hnew, hbelow⟩ := h.top_fresh start events t token.symbol id below seen hwalk
  obtain ⟨htop, hrest⟩ := List.forall_mem_cons.mp h.waiting
  refine ⟨h.linked.setText id _, ?_, ?_, ?_, ⟨seen ++ [id], ?_, ?_⟩, ?_⟩
  · rw [Tree.size_setText, pushes_matched]
    exact h.size
  · rw [Tree.symbol_setText]
    exact h.start
  · intro e he
    rw [Tree.token?_setText, if_neg (hbelow e he), Tree.children_setText]
    exact hrest e he
  · rw [hwalk', List.append_assoc]
    rfl
  · have hkept : seen.map (t.setText id token.lexemeOrLabel).event? = seen.map t.event? := by
      apply List.map_congr_left
      intro j hj
      exact t.event?_setText_of_ne id j _ (fun heq => hnew (heq ▸ hj))
    rw [List.map_append, List.map_append, hkept, hseen, List.map_singleton, List.map_singleton,
      t.event?_setText id token.symbol _ htop.1]
    rfl
  · intro j hj
    rw [Tree.size_setText] at hj
    rw [hwalk', ← hwalk]
    exact h.complete j hj

section Applied

variable (q : Production) (id : NodeId) (below : List (Symbol × NodeId)) (t' : Tree)
  (hs : t.Sprouts id q.pushed t') (h : Grown start events t ((q.head, id) :: below))

include hs h

private theorem waiting_applied :
    ∀ e ∈ q.pushed.zip (List.range' t.size q.pushed.length) ++ below,
      t'.token? e.2 = some (Token.textless e.1) ∧ t'.children e.2 = [] := by
  obtain ⟨seen, hwalk, -⟩ := h.walk
  have hid := h.top_lt start events t q.head id below
  obtain ⟨-, hbelow⟩ := h.top_fresh start events t q.head id below seen hwalk
  obtain ⟨-, hrest⟩ := List.forall_mem_cons.mp h.waiting
  intro e he
  rcases List.mem_append.mp he with hzip | hold
  · obtain ⟨i, hi, rfl⟩ := List.getElem_of_mem hzip
    have hi' : i < q.pushed.length := by simpa using hi
    have hchild : t.size + i ≠ id := fun heq => absurd hid (by rw [← heq]; simp)
    rw [List.getElem_zip, List.getElem_range', Nat.one_mul]
    refine ⟨hs.new i hi', ?_⟩
    rw [hs.children, if_neg hchild]
    exact t.children_eq_nil _ (Nat.le_add_right _ _)
  · have hlt := h.lt_size start events t _ e.2
      (h.mem_descendants start events t _ e (List.mem_cons_of_mem _ hold))
    rw [hs.old e.2 hlt, hs.children, if_neg (hbelow e hold)]
    exact hrest e hold

private theorem seen_applied (seen : List NodeId)
    (hwalk : t.descendants Tree.root = seen ++ id :: below.map Prod.snd) :
    seen.map t'.event? = seen.map t.event? := by
  obtain ⟨hnew, -⟩ := h.top_fresh start events t q.head id below seen hwalk
  apply List.map_congr_left
  intro j hj
  have hlt := h.lt_size start events t _ j (by simp [hwalk, hj])
  exact hs.event?_of_ne t id q.pushed t' h.linked j hlt (fun heq => hnew (heq ▸ hj))

end Applied

theorem applied (q : Production) (id : NodeId) (below : List (Symbol × NodeId)) (t' : Tree)
    (hs : t.Sprouts id q.pushed t') (h : Grown start events t ((q.head, id) :: below)) :
    Grown start (events ++ [.applied q]) t'
      (q.pushed.zip (List.range' t.size q.pushed.length) ++ below) := by
  obtain ⟨seen, hwalk, hseen⟩ := h.walk
  rw [List.map_cons] at hwalk
  have hroot := h.root_lt start events t _
  have hid := h.top_lt start events t q.head id below
  have hwaiting := waiting_applied start events t q id below t' hs h
  have hkept := seen_applied start events t q id below t' hs h seen hwalk
  obtain ⟨⟨htop, hleaf⟩, -⟩ := List.forall_mem_cons.mp h.waiting
  have hwalk' := hs.descendants id q.pushed t' h.linked hleaf Tree.root hroot seen _ hwalk
  refine ⟨hs.linked, ?_, ?_, hwaiting, ⟨seen ++ [id], ?_, ?_⟩, ?_⟩
  · rw [hs.size, pushes_applied, h.size, Nat.add_assoc]
  · rw [hs.old Tree.root hroot]
    exact h.start
  · rw [hwalk', List.map_append, List.map_snd_zip (by simp), List.append_assoc]
    rfl
  · rw [List.map_append, List.map_append, hkept, hseen, List.map_singleton, List.map_singleton,
      hs.event?_self t id q.pushed t' hid q.head htop]
    rfl
  · intro j hj
    rw [hwalk']
    by_cases hold : j < t.size
    · have hmem := h.complete j hold
      rw [hwalk] at hmem
      simp only [List.mem_append, List.mem_cons] at hmem ⊢
      rcases hmem with hmem | hmem | hmem
      · exact Or.inl hmem
      · exact Or.inr (Or.inl hmem)
      · exact Or.inr (Or.inr (Or.inr hmem))
    · have hrange : j ∈ List.range' t.size q.pushed.length :=
        List.mem_range'_1.mpr ⟨Nat.not_lt.mp hold, hs.size ▸ hj⟩
      simp [hrange]

end Grown

/-- The symbol is pushed by a production of the table. -/
def Pushes (p : Parser) (s : Symbol) : Prop :=
  ∃ head a q, p.table.get? head a = some q ∧ s ∈ q.pushed

/-- What a run that traces and a run that grows a tree have in common at their end. -/
structure SameEnd (p : Parser) (start : Symbol) (stack : List (Symbol × NodeId))
    (traced : List Event × Except ParseError Unit) (grown : Tree × Except ParseError Unit)
    (last : List (Symbol × NodeId)) : Prop where
  result : grown.2 = traced.2
  unrefused : ∀ cause, traced.2 ≠ .error (.refusedChild cause)
  grown : Grown start traced.1.reverse grown.1 last
  halted : traced.2 = .ok () → ∀ e ∈ last.head?, e.1 = Symbol.endMarker
  symbols : ∀ s ∈ last.map Prod.fst, s ∈ stack.map Prod.fst ∨ p.Pushes s

section Runs

variable (p : Parser) (hheads : ∀ head a q, p.table.get? head a = some q → q.head = head)

private theorem bare_append (q : Production) (ids : List NodeId) (below : List (Symbol × NodeId))
    (hids : ids.length = q.pushed.length) : bare (q.pushed.zip ids ++ below) =
      q.pushed.zip (q.pushed.map (fun _ => ())) ++ bare below := by
  have hzip : (q.pushed.zip ids).map (fun e => (e.1, ())) =
      q.pushed.zip (q.pushed.map (fun _ => ())) := by
    apply List.ext_getElem
    · simp [hids]
    · intro i _ _
      simp
  rw [bare, List.map_append, hzip, bare]

include hheads in
/-- An iteration is the same whether it traces or grows a tree. -/
private theorem step_agrees (start : Symbol) (events : List Event) (t : Tree)
    (stack : List (Symbol × NodeId)) (input : List Token) (h : Grown start events.reverse t stack) :
    (∃ r, p.step grower t ⟨stack, input⟩ = .stop r ∧
      p.step recorder events ⟨bare stack, input⟩ = .stop r) ∨
    ∃ event t' stack' input', p.step grower t ⟨stack, input⟩ = .next t' ⟨stack', input'⟩ ∧
      p.step recorder events ⟨bare stack, input⟩ = .next (event :: events) ⟨bare stack', input'⟩ ∧
      Grown start (event :: events).reverse t' stack' ∧
      ∀ s ∈ stack'.map Prod.fst, s ∈ stack.map Prod.fst ∨ p.Pushes s := by
  have hmove := p.moves_step grower t ⟨stack, input⟩
  generalize p.step grower t ⟨stack, input⟩ = next at hmove
  cases hmove with
  | emptied hstack =>
    dsimp only at hstack
    subst hstack
    exact Or.inl ⟨_, rfl, rfl⟩
  | ended slot below hstack =>
    dsimp only at hstack
    subst hstack
    exact Or.inl ⟨_, rfl, p.step_end recorder events () (bare below) input⟩
  | matched top slot below hstack hend htop =>
    dsimp only at hstack
    subst hstack
    cases input with
    | nil => exact absurd htop hend
    | cons token rest =>
      change top = token.symbol at htop
      subst htop
      refine Or.inr ⟨.matched token, _, below, rest, rfl, ?_, ?_, ?_⟩
      · exact p.step_match recorder events () (bare below) token rest hend
      · rw [List.reverse_cons]
        exact h.matched start _ t token slot below
      · exact fun s hs => Or.inl (List.mem_cons_of_mem _ hs)
  | unexpected top slot below hstack hend htop hterm =>
    dsimp only at hstack
    subst hstack
    exact Or.inl ⟨_, rfl,
      p.step_unexpected recorder events top () (bare below) input hend htop hterm⟩
  | stuck top slot below hstack hend htop hhead hcell =>
    dsimp only at hstack
    subst hstack
    exact Or.inl ⟨_, rfl,
      p.step_stuck recorder events top () (bare below) input hend htop hhead hcell⟩
  | refused top slot below q e hstack hend htop hhead hcell hq =>
    dsimp only at hstack
    subst hstack
    obtain ⟨t', ht', -⟩ := onProduction_sprouts t slot q h.linked
      (h.top_lt start _ t top slot below)
    rw [ht'] at hq
    cases hq
  | expanded top slot below q t' slots hstack hend htop hhead hcell hq =>
    dsimp only at hstack
    subst hstack
    obtain rfl := hheads _ _ _ hcell
    obtain ⟨t'', ht'', hs⟩ := onProduction_sprouts t slot q h.linked
      (h.top_lt start _ t q.head slot below)
    rw [ht''] at hq
    obtain ⟨rfl, rfl⟩ := Prod.mk.inj (Except.ok.inj hq)
    refine Or.inr ⟨.applied q, t'', _, input, rfl, ?_, ?_, ?_⟩
    · rw [bare_append q _ below (by simp)]
      exact p.step_expand recorder events q.head () (bare below) input q _ _ hend htop hhead hcell
        rfl
    · rw [List.reverse_cons]
      exact h.applied start _ t q slot below t'' hs
    · intro s hmem
      rw [map_fst_zip_append q _ below (by simp)] at hmem
      rcases List.mem_append.mp hmem with hpushed | hold
      · exact Or.inr ⟨q.head, _, q, hcell, hpushed⟩
      · exact Or.inl (List.mem_cons_of_mem _ hold)

private theorem sameEnd_of_stop (start : Symbol) (events : List Event) (t : Tree)
    (stack : List (Symbol × NodeId)) (input : List Token)
    (h : Grown start events.reverse t stack) (r : Except ParseError Unit)
    (hstop : p.step recorder events ⟨bare stack, input⟩ = .stop r) :
    p.SameEnd start stack (events, r) (t, r) stack := by
  have hexits := (p.exits_of_stop recorder events _ r hstop).resolve_right (by
    rintro ⟨slot, q, e, hq, -⟩
    cases hq)
  refine ⟨rfl, ?_, h, ?_, fun s hs => Or.inl hs⟩
  · intro cause hr
    dsimp only at hr
    rw [hr] at hexits
    cases hexits
  · intro hr e he
    dsimp only at hr
    rw [hr] at hexits
    cases hexits with
    | accepted hstack _ =>
      apply hstack (e.1, ())
      rw [bare, List.head?_map, Option.mem_def.mp he]
      rfl

include hheads in
private theorem run_agrees (n : Nat) (start : Symbol) (events : List Event) (t : Tree)
    (stack : List (Symbol × NodeId)) (input : List Token) (h : Grown start events.reverse t stack) :
    ∃ last, p.SameEnd start stack (p.run recorder n events ⟨bare stack, input⟩)
      (p.run grower n t ⟨stack, input⟩) last := by
  induction n generalizing events t stack input with
  | zero =>
    refine ⟨stack, rfl, ?_, h, ?_, fun s hs => Or.inl hs⟩
    · rintro cause ⟨⟩
    · rintro ⟨⟩
  | succ n ih =>
    rw [run, run]
    rcases p.step_agrees hheads start events t stack input h with ⟨r, hgrow, htrace⟩ |
      ⟨event, t', stack', input', hgrow, htrace, hgrown, hsymbols⟩
    · rw [hgrow, htrace]
      exact ⟨stack, p.sameEnd_of_stop start events t stack input h r htrace⟩
    · rw [hgrow, htrace]
      obtain ⟨last, hlast⟩ := ih (event :: events) t' stack' input' hgrown
      refine ⟨last, hlast.result, hlast.unrefused, hlast.grown, hlast.halted, ?_⟩
      intro s hs
      rcases hlast.symbols s hs with hmem | hpush
      · exact hsymbols s hmem
      · exact Or.inr hpush

end Runs

private theorem SameEnd.last_eq_nil (p : Parser) (start : Symbol)
    (traced : List Event × Except ParseError Unit) (grown : Tree × Except ParseError Unit)
    (last : List (Symbol × NodeId))
    (h : p.SameEnd start [(start, Tree.root)] traced grown last) (hok : traced.2 = .ok ())
    (hstart : start ≠ Symbol.endMarker)
    (hbody : ∀ head a q, p.table.get? head a = some q → Symbol.endMarker ∉ q.body) :
    last = [] := by
  cases last with
  | nil => rfl
  | cons e rest =>
    have htop : e.1 = Symbol.endMarker := h.halted hok e rfl
    rcases h.symbols e.1 (by simp) with hmem | ⟨head, a, q, hq, hpush⟩
    · exact absurd ((List.mem_singleton.mp hmem).symm.trans htop) hstart
    · rw [htop] at hpush
      exact absurd (List.mem_filter.mp hpush).1 (hbody head a q hq)

theorem exists_sameEnd (p : Parser)
    (hheads : ∀ head a q, p.table.get? head a = some q → q.head = head) (start : Symbol)
    (hstart : p.grammar.start? = some start) (tokens : List Token) :
    ∃ t last, p.tree tokens = (p.trace tokens).2.map (fun _ => t) ∧
      p.SameEnd start [(start, Tree.root)] ((p.trace tokens).1.reverse, (p.trace tokens).2)
        (t, (p.trace tokens).2) last := by
  obtain ⟨last, hsame⟩ := p.run_agrees hheads (p.stepLimit tokens) start [] _ _ tokens
    (grown_start start)
  have hresult := hsame.result
  cases hrun : p.run grower (p.stepLimit tokens) (Tree.new (Token.textless start))
      ⟨[(start, Tree.root)], tokens⟩ with
  | mk t result =>
    rw [hrun] at hsame hresult
    dsimp only at hresult
    subst hresult
    rw [p.tree_eq_map start hstart tokens t _ hrun, p.trace_of_start start hstart,
      List.reverse_reverse]
    exact ⟨t, last, rfl, hsame⟩

/-- A parse into a tree fails just as a trace does, and the tree of a success holds each event of
the trace at one node, in the order of a walk. -/
theorem tree_agrees_with_trace (p : Parser) (g : Grammar) (A : Analysis)
    (ht : g.tableWith A = .ok p.table) (tokens : List Token) (hstops : p.Stops tokens) :
    (p.tree tokens).map (fun _ => ()) = (p.trace tokens).2 ∧
    (p.trace tokens).2 ≠ .error .unending ∧
    (∀ cause, p.tree tokens ≠ .error (.refusedChild cause)) ∧
    ∀ t, p.tree tokens = .ok t → ∃ start, p.grammar.start? = some start ∧
      (t.token? Tree.root).map Token.symbol = some start ∧
      t.size = 1 + pushes (p.trace tokens).1 ∧
      (t.descendants Tree.root).Nodup ∧
      (∀ id, id ∈ t.descendants Tree.root ↔ id < t.size) ∧
      (start ≠ Symbol.endMarker →
        (∀ head a q, p.table.get? head a = some q → Symbol.endMarker ∉ q.body) →
        (t.descendants Tree.root).map t.event? =
          (p.trace tokens).1.map (fun e => some e.stored)) := by
  have hheads : ∀ head a q, p.table.get? head a = some q → q.head = head :=
    fun head a q hq => ((g.get?_tableWith_iff A p.table ht head a q).mp hq).2.1
  have hunending := (p.stops_iff tokens).mp hstops
  cases hstart : p.grammar.start? with
  | none => simp [tree, trace, hstart, Except.map]
  | some start =>
    obtain ⟨t, last, htree, hsame⟩ := p.exists_sameEnd hheads start hstart tokens
    rw [htree]
    cases hend : (p.trace tokens).2 with
    | error e =>
      refine ⟨rfl, hend ▸ hunending, ?_, by simp [Except.map]⟩
      intro cause hcause
      cases hcause
      exact hsame.unrefused cause hend
    | ok u =>
      refine ⟨rfl, hend ▸ hunending, by simp [Except.map], ?_⟩
      intro t' ht'
      obtain rfl : t = t' := Except.ok.inj ht'
      have hgrown := hsame.grown
      rw [List.reverse_reverse] at hgrown
      have hroot := hgrown.root_lt start _ t last
      have hnodup := hgrown.linked.nodup_descendants _ hroot
      refine ⟨start, rfl, hgrown.start, hgrown.size, hnodup, ?_, ?_⟩
      · exact fun id => ⟨hgrown.lt_size start _ t last id, hgrown.complete id⟩
      · intro hne hbody
        obtain rfl := hsame.last_eq_nil p start _ _ last hend hne hbody
        obtain ⟨seen, hwalk, hseen⟩ := hgrown.walk
        rw [List.map_nil, List.append_nil] at hwalk
        rw [hwalk]
        exact hseen

/-- A grammar that holds `parens` below another start symbol. -/
def program : Grammar :=
  Grammar.ofRules [(⟨"P"⟩, [[⟨";"⟩, ⟨"S"⟩]]),
    (⟨"S"⟩, [[⟨"("⟩, ⟨"S"⟩, ⟨")"⟩, ⟨"S"⟩], [Symbol.epsilon]])]

/-- A parser from `S` with the table of `program`. -/
def innerParser : Parser := ⟨parens, program.table.toOption.getD Table.empty⟩

def innerTokens : List Token := [Token.textless ⟨"("⟩, ⟨⟨")"⟩, some "end"⟩]

theorem tree_agrees_with_trace_inner :
    program.tableWith program.analysis = .ok innerParser.table ∧ innerParser.Stops innerTokens ∧
    ∃ t, innerParser.tree innerTokens = .ok t ∧ t.size = 5 ∧
      (t.descendants Tree.root).map t.event? =
        (innerParser.trace innerTokens).1.map (fun e => some e.stored) := by
  have htable : program.tableWith program.analysis = .ok innerParser.table := by decide +kernel
  have hstops : innerParser.Stops innerTokens :=
    (innerParser.stops_iff innerTokens).mpr (by decide +kernel)
  obtain ⟨hsame, -, -, hgrown⟩ := tree_agrees_with_trace innerParser program program.analysis htable
    innerTokens hstops
  have hok : (innerParser.trace innerTokens).2 = .ok () := by decide +kernel
  rw [hok] at hsame
  cases htree : innerParser.tree innerTokens with
  | error e =>
    rw [htree] at hsame
    cases hsame
  | ok t =>
    obtain ⟨start, hstart, -, hsize, -, -, hread⟩ := hgrown t htree
    have hpushes : pushes (innerParser.trace innerTokens).1 = 4 := by decide +kernel
    have hS : start = ⟨"S"⟩ := Option.some.inj (hstart.symm.trans (by decide +kernel))
    refine ⟨htable, hstops, t, rfl, by rw [hsize, hpushes], hread (by rw [hS]; decide) ?_⟩
    intro head a q hq
    have hbody : Symbol.endMarker ∉ program.bodySymbols := by decide +kernel
    have hcell := program.get?_tableWith_iff program.analysis _ htable head a q
    exact fun hmem => hbody (program.mem_bodySymbols q (hcell.mp hq).1 _ hmem)

end Parser

end Predictive
