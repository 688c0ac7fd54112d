import Predictive.Proofs.Parser.Agreement
import Predictive.Proofs.Parser.Consumed
import Predictive.Proofs.Tree.Pruning
/-!
# The text of a parse tree

While a tree grows, text is written to leaves only, and a walk meets the nodes with text in the order
of the tokens. So the leaves of a finished tree hold the tokens before the end of the input.
-/
namespace Predictive

namespace Token

/-- The token with its label as text if it has none. -/
def filled (t : Token) : Token := ⟨t.symbol, some t.lexemeOrLabel⟩

end Token

namespace Tree

/-- What a node with text holds. -/
def held? (t : Tree) (id : NodeId) : Option Token :=
  (t.token? id).filter (fun token => token.lexeme.isSome)

private theorem held?_eq_event? (t : Tree) (id : NodeId) :
    t.held? id = (t.event? id).bind Event.token? := by
  simp only [held?, event?]
  cases t.token? id with
  | none => rfl
  | some token =>
    obtain ⟨symbol, lexeme⟩ := token
    cases lexeme <;> rfl

private theorem held?_eq_none_iff (t : Tree) (id : NodeId) :
    t.held? id = none ↔ t.lexeme? id = none := by
  rw [held?, lexeme?_eq]
  cases t.token? id with
  | none => simp
  | some token => cases hlexeme : token.lexeme <;> simp [Option.filter, hlexeme]

private theorem lexeme?_eq_held? (t : Tree) (id : NodeId) :
    t.lexeme? id = (t.held? id).bind Token.lexeme := by
  rw [held?, lexeme?_eq]
  cases t.token? id with
  | none => rfl
  | some token => cases hlexeme : token.lexeme <;> simp [Option.filter, hlexeme]

private theorem filterMap_lexeme?_of_held? (t : Tree) (ids : List NodeId) (tokens : List Token)
    (h : ids.filterMap t.held? = tokens.map Token.filled) :
    ids.filterMap t.lexeme? = tokens.map Token.lexemeOrLabel := by
  have hsplit : ids.filterMap t.lexeme? = (ids.filterMap t.held?).filterMap Token.lexeme := by
    rw [List.filterMap_filterMap]
    exact List.filterMap_congr (fun id _ => t.lexeme?_eq_held? id)
  rw [hsplit, h, List.filterMap_map]
  exact congrFun (List.filterMap_eq_map (f := Token.lexemeOrLabel)) _

section Writing

variable {t : Tree} (hleaves : t.TextOnLeaves)

include hleaves

theorem TextOnLeaves.setText (id : NodeId) (lexeme : String) (hid : t.children id = []) :
    (t.setText id lexeme).TextOnLeaves := by
  intro j hj
  rw [children_setText] at hj
  have hne : j ≠ id := fun heq => hj (heq ▸ hid)
  rw [lexeme?_eq, token?_setText, if_neg hne, ← lexeme?_eq]
  exact hleaves j hj

private theorem TextOnLeaves.sprouts (id : NodeId) (symbols : Body) (t' : Tree) (hid : id < t.size)
    (htext : t.lexeme? id = none) (hs : t.Sprouts id symbols t') : t'.TextOnLeaves := by
  intro j hj
  rw [hs.children] at hj
  split at hj
  · next heq =>
    rw [heq, lexeme?_eq, hs.old id hid, ← lexeme?_eq]
    exact htext
  · have hlt : j < t.size := Nat.lt_of_not_le (fun hle => hj (t.children_eq_nil j hle))
    rw [lexeme?_eq, hs.old j hlt, ← lexeme?_eq]
    exact hleaves j hj

end Writing

end Tree

namespace Parser

open Predictive.Tree

private theorem filterMap_held? (t : Tree) (seen : List NodeId) (events : List Event)
    (h : seen.map t.event? = events.map (fun e => some e.stored)) :
    seen.filterMap t.held? = (matchedTokens events).map Token.filled := by
  have hseen : seen.filterMap t.held? =
      (seen.map t.event?).filterMap (fun e => e.bind Event.token?) := by
    rw [List.filterMap_map]
    exact List.filterMap_congr (fun id _ => t.held?_eq_event? id)
  rw [hseen, h, List.filterMap_map, matchedTokens, List.map_filterMap]
  apply List.filterMap_congr
  intro e _
  cases e <;> rfl

private theorem Grown.filterMap_held? (start : Symbol) (events : List Event) (t : Tree)
    (stack : List (Symbol × NodeId)) (h : Grown start events t stack) :
    (t.descendants Tree.root).filterMap t.held? = (matchedTokens events).map Token.filled := by
  obtain ⟨seen, hwalk, hseen⟩ := h.walk
  have hstack : (stack.map Prod.snd).filterMap t.held? = [] := by
    rw [List.filterMap_eq_nil_iff]
    intro id hid
    obtain ⟨e, he, rfl⟩ := List.mem_map.mp hid
    rw [held?, (h.waiting e he).1]
    rfl
  rw [hwalk, List.filterMap_append, hstack, List.append_nil,
    Parser.filterMap_held? t seen events hseen]

section Growing

variable (p : Parser) (hheads : ∀ head a q, p.table.get? head a = some q → q.head = head)

include hheads in
private theorem textOnLeaves_step (start : Symbol) (events : List Event) (t : Tree)
    (c : Config NodeId) (hgrown : Grown start events t c.stack) (hleaves : t.TextOnLeaves)
    (t' : Tree) (c' : Config NodeId) (hstep : p.step grower t c = .next t' c') :
    (∃ events', Grown start events' t' c'.stack) ∧ t'.TextOnLeaves := by
  cases p.advances_of_next grower t c t' c' hstep with
  | matched id below token rest hend =>
    obtain ⟨-, hleaf⟩ := hgrown.waiting _ List.mem_cons_self
    exact ⟨⟨_, hgrown.matched start events t token id below⟩,
      hleaves.setText id token.lexemeOrLabel hleaf⟩
  | expanded top id below input q _ slots hend htop hhead hcell hq =>
    obtain rfl := hheads _ _ _ hcell
    have hid := hgrown.top_lt start events t q.head id below
    have htext : t.lexeme? id = none := by
      rw [lexeme?_eq, (hgrown.waiting _ List.mem_cons_self).1]
      rfl
    obtain ⟨t'', ht'', hs⟩ := onProduction_sprouts t id q hgrown.linked hid
    rw [ht''] at hq
    obtain ⟨rfl, rfl⟩ := Prod.mk.inj (Except.ok.inj hq)
    exact ⟨⟨_, hgrown.applied start events t q id below t'' hs⟩,
      hleaves.sprouts id q.pushed t'' hid htext hs⟩

include hheads in
private theorem textOnLeaves_tree (tokens : List Token) (t : Tree) (h : p.tree tokens = .ok t) :
    t.TextOnLeaves := by
  cases hstart : p.grammar.start? with
  | none => simp [tree, hstart] at h
  | some start =>
    have hnew : (Tree.new (Token.textless start)).TextOnLeaves := by
      intro id hid
      cases id <;> exact absurd rfl hid
    obtain ⟨_, -, hleaves⟩ := p.run_keeps grower
      (fun t c => (∃ events, Grown start events t c.stack) ∧ t.TextOnLeaves)
      (fun t c t' c' hkept hstep => hkept.1.elim (fun events hgrown =>
        p.textOnLeaves_step hheads start events t c hgrown hkept.2 t' c' hstep))
      (p.stepLimit tokens) (Tree.new (Token.textless start)) ⟨[(start, Tree.root)], tokens⟩
      ⟨⟨[], grown_start start⟩, hnew⟩
    rw [p.tree_of_start start hstart] at h
    split at h
    · cases h
    · next t' hrun =>
      obtain rfl := Except.ok.inj h
      rw [hrun] at hleaves
      exact hleaves

include hheads in
private theorem filterMap_held?_tree (tokens : List Token) (t : Tree) (h : p.tree tokens = .ok t) :
    (t.descendants Tree.root).filterMap t.held? = (beforeEnd tokens).map Token.filled := by
  cases hstart : p.grammar.start? with
  | none => simp [tree, hstart] at h
  | some start =>
    obtain ⟨t', last, htree, hsame⟩ := p.exists_sameEnd hheads start hstart tokens
    rw [h] at htree
    cases hok : (p.trace tokens).2 with
    | error e => simp [hok, Except.map] at htree
    | ok u =>
      rw [hok] at htree
      obtain rfl := Except.ok.inj htree
      have hgrown := hsame.grown
      rw [List.reverse_reverse] at hgrown
      rw [hgrown.filterMap_held?, p.matchedTokens_of_trace_ok hheads tokens hok]

end Growing

/-- The leaves of a parse tree that hold text are the tokens before the end of the input, in order
and with their labels where they have no text. No other nodes hold text, and the text of the tree is
made of the texts of these tokens. -/
theorem tree_yields_tokens (p : Parser) (g : Grammar) (A : Analysis)
    (ht : g.tableWith A = .ok p.table) (tokens : List Token) (t : Tree)
    (h : p.tree tokens = .ok t) :
    (t.leaves Tree.root).filterMap t.held? = (beforeEnd tokens).map Token.filled ∧
    (∀ id, t.children id ≠ [] → t.lexeme? id = none) ∧
    t.yield = " ".intercalate
      (((beforeEnd tokens).map Token.lexemeOrLabel).filter (fun lexeme => lexeme ≠ "")) := by
  have hheads := g.head_of_get? A p.table ht
  have hleaves : t.TextOnLeaves := p.textOnLeaves_tree hheads tokens t h
  have hheld := p.filterMap_held?_tree hheads tokens t h
  have htexts : (t.leaves Tree.root).filterMap t.lexeme? =
      (beforeEnd tokens).map Token.lexemeOrLabel := by
    rw [filterMap_leaves t t.lexeme? hleaves]
    exact t.filterMap_lexeme?_of_held? _ _ hheld
  refine ⟨?_, hleaves, by rw [yield, yieldAt, htexts]⟩
  rw [filterMap_leaves t t.held? (fun id hid => (t.held?_eq_none_iff id).mpr (hleaves id hid))]
  exact hheld

/-- The first token has no text, the second one an empty text, and the last one comes too late. -/
def markedTokens : List Token :=
  [Token.textless ⟨"("⟩, ⟨⟨")"⟩, some ""⟩, Token.endOfInput, Token.ofLabel "("]

theorem tree_yields_tokens_marked :
    program.tableWith program.analysis = .ok innerParser.table ∧
    ∃ t, innerParser.tree markedTokens = .ok t ∧
      (t.leaves Tree.root).filterMap t.held? = [Token.ofLabel "(", ⟨⟨")"⟩, some ""⟩] ∧
      t.yield = "(" := by
  have htable : program.tableWith program.analysis = .ok innerParser.table := by decide +kernel
  have hok : (innerParser.tree markedTokens).toOption.isSome = true := by decide +kernel
  cases htree : innerParser.tree markedTokens with
  | error e =>
    rw [htree] at hok
    cases hok
  | ok t =>
    obtain ⟨hheld, -, hyield⟩ := tree_yields_tokens innerParser program program.analysis htable
      markedTokens t htree
    exact ⟨htable, t, rfl, hheld, hyield.trans (by decide +kernel)⟩

end Parser

namespace Tree

/-- Pruning comes to an end and takes exactly the nodes below the root that hold no text anywhere in
their subtree. If only leaves hold text, as in every parse tree, the text of the tree stays and each
leaf that is left holds text. -/
theorem prune_exact (t : Tree) (h : t.Built) :
    (∀ limit ≥ t.size, t.pruneWithin limit = t.prune) ∧ t.prune.1.emptyNodes = [] ∧
    t.prune.1.descendants root =
      (t.descendants root).filter (fun id => id = root || t.holdsText id) ∧
    t.prune.2 = ((t.descendants root).filter (fun id => !(id = root || t.holdsText id))).length ∧
    (∀ id, t.prune.1.token? id = t.token? id) ∧
    t.prune.1.prune = (t.prune.1, 0) ∧
    (t.TextOnLeaves → t.prune.1.yield = t.yield ∧
      ∀ id ∈ t.prune.1.leaves root, id ≠ root → t.prune.1.lexeme? id ≠ none) ∧
    ∀ (p : Parser) (g : Grammar) (A : Analysis), g.tableWith A = .ok p.table →
      ∀ tokens, p.tree tokens = .ok t → t.TextOnLeaves := by
  have hlinked := h.wellLinked
  have hroot := h.root_lt
  have hlimit : (t.descendants root).length ≤ t.size :=
    t.length_le_size _ (hlinked.nodup_descendants root hroot)
      (fun x hx => hlinked.lt_size_of_mem_descendants root x hroot hx)
  obtain ⟨gone, hgone, hcount, hsettled⟩ := pruned_pruneWithin hlinked hroot t.size hlimit
  refine ⟨fun limit hle => pruneWithin_eq t.size limit hle hsettled, hsettled,
    hgone.descendants_eq_filter hlinked hroot hsettled,
    hcount.trans (hgone.length_eq hlinked hroot hsettled), hgone.token,
    pruneWithin_eq 0 _ (Nat.zero_le _) hsettled, ?_, ?_⟩
  · intro hleaves
    refine ⟨hgone.yield_eq hlinked hroot hleaves, ?_⟩
    intro id hid hne htext
    obtain ⟨hmem, hleaf⟩ := List.mem_filter.mp hid
    have hempty : id ∈ t.prune.1.emptyNodes :=
      List.mem_filter.mpr ⟨hmem, by simp [hne, hleaf, htext]⟩
    have hnone : t.prune.1.emptyNodes = [] := hsettled
    simp [hnone] at hempty
  · intro p g A ht tokens htree
    exact p.textOnLeaves_tree (g.head_of_get? A p.table ht) tokens t htree

/-- A node without text above two others, next to a node with text. -/
def hollowing : List Edit :=
  [.create (Token.textless ⟨"A"⟩) (some 0), .create (Token.ofLabel "w") (some 0),
    .create (Token.textless ⟨"B"⟩) (some 1), .create (Token.textless ⟨"C"⟩) none,
    .replaceChildren 0 [1, 2], .replaceChildren 1 [3, 4]]

def hollowed : Tree := hollowing.foldl Edit.apply (new (Token.textless ⟨"S"⟩))

theorem prune_exact_hollowed : hollowed.Built ∧ hollowed.TextOnLeaves ∧
    hollowed.descendants root = [0, 1, 3, 4, 2] ∧ hollowed.prune.1.descendants root = [0, 2] ∧
    hollowed.prune.2 = 3 ∧ hollowed.prune.1.prune = (hollowed.prune.1, 0) ∧
    hollowed.prune.1.yield = "w" := by
  have hbuilt : hollowed.Built := Built.foldl _ (.new _) hollowing (by decide +kernel)
  have hinside : ∀ id < hollowed.size, hollowed.children id ≠ [] → hollowed.lexeme? id = none := by
    decide +kernel
  have hleaves : hollowed.TextOnLeaves := fun id hid =>
    hinside id (Nat.lt_of_not_le (fun hle => hid (hollowed.children_eq_nil id hle))) hid
  obtain ⟨-, -, hkept, hcount, -, hagain, htext, -⟩ := prune_exact hollowed hbuilt
  have hyield : hollowed.yield = "w" := by decide +kernel
  exact ⟨hbuilt, hleaves, by decide +kernel, hkept.trans (by decide +kernel),
    hcount.trans (by decide +kernel), hagain, (htext hleaves).1.trans hyield⟩

end Tree

end Predictive
