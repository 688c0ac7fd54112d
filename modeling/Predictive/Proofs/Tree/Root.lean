import Predictive.Proofs.Parser.Consumed
import Predictive.Proofs.Parser.Growth
import Predictive.Proofs.Tree.Pruning
/-!
# The parent of the root

The root starts without a parent. A node refuses the root as a child only if the root is above it,
so a node outside the tree of the root may take the root for a child. Then the root has a parent.
No other edit gives it one, and no edit of a parser does.
-/
namespace Predictive

namespace Tree

namespace Edit

/-- The edit makes the root a child of a node. -/
def AdoptsRoot (t : Tree) : Edit → Prop
  | replaceChildren id new => root ∈ new ∧ firstRefused (t.ancestors id) new = none
  | _ => False

instance (t : Tree) (e : Edit) : Decidable (e.AdoptsRoot t) :=
  match e with
  | replaceChildren id new =>
    inferInstanceAs (Decidable (root ∈ new ∧ firstRefused (t.ancestors id) new = none))
  | create _ _ => inferInstanceAs (Decidable False)
  | setText _ _ => inferInstanceAs (Decidable False)
  | detach _ => inferInstanceAs (Decidable False)
  | prune => inferInstanceAs (Decidable False)

/-- Edits one after the other of which none makes the root a child of a node. -/
def noneAdoptsRoot : Tree → List Edit → Bool
  | _, [] => true
  | t, e :: edits => !decide (e.AdoptsRoot t) && noneAdoptsRoot (e.apply t) edits

end Edit

/-- A tree that edits have made of a single node without making the root a child of any node. -/
inductive Rooted : Tree → Prop
  | new (token : Token) : Rooted (Tree.new token)
  | edit (t : Tree) (e : Edit) (h : Rooted t) (he : e.InRange t) (hroot : ¬e.AdoptsRoot t) :
    Rooted (e.apply t)

private theorem Rooted.built (t : Tree) (h : t.Rooted) : t.Built := by
  induction h with
  | new token => exact .new token
  | edit t e _ he _ ih => exact .edit t e ih he

theorem Rooted.foldl (t : Tree) (h : t.Rooted) (edits : List Edit)
    (hrange : Edit.allInRange t edits = true) (hroot : Edit.noneAdoptsRoot t edits = true) :
    (edits.foldl Edit.apply t).Rooted := by
  induction edits generalizing t with
  | nil => exact h
  | cons e edits ih =>
    obtain ⟨he, hrange⟩ := Bool.and_eq_true_iff.mp hrange
    obtain ⟨hkept, hroot⟩ := Bool.and_eq_true_iff.mp hroot
    exact ih (e.apply t) (.edit t e h (of_decide_eq_true he) (by simpa using hkept)) hrange hroot

section Parentless

variable (t : Tree) (id : NodeId) (h : t.parent? id = none)

include h

private theorem parent?_foldl_detach (ids : List NodeId) :
    (ids.foldl detach t).parent? id = none := by
  induction ids generalizing t with
  | nil => exact h
  | cons x ids ih =>
    apply ih
    rw [parent?_detach]
    split
    · rfl
    · exact h

private theorem parent?_pruneWithin (limit : Nat) : (t.pruneWithin limit).1.parent? id = none := by
  induction limit generalizing t with
  | zero => exact h
  | succ limit ih =>
    rw [pruneWithin]
    split
    · exact h
    · next x ids _ => exact ih _ (t.parent?_foldl_detach id h (x :: ids))

private theorem detach_eq_self : t.detach id = t := by
  rw [detach, h]

end Parentless

/-- An edit gives the root a parent just if it makes it a child of a node. -/
private theorem parent?_root_apply (t : Tree) (h : t.Built) (hroot : t.parent? root = none)
    (e : Edit) (he : e.InRange t) : (e.apply t).parent? root = none ↔ ¬e.AdoptsRoot t := by
  cases e with
  | create token parent =>
    have hne : root ≠ t.size := Nat.ne_of_lt h.root_lt
    simp [Edit.apply, Edit.AdoptsRoot, parent?_create, hne, hroot]
  | setText id lexeme => simp [Edit.apply, Edit.AdoptsRoot, hroot]
  | replaceChildren id new =>
    rw [Edit.apply, Edit.AdoptsRoot]
    split
    · next e heq =>
      have hrefused : firstRefused (t.ancestors id) new ≠ none := by
        intro hnone
        simp [replaceChildren, hnone] at heq
      simp [hroot, hrefused]
    · next t' heq =>
      have hr := t.childrenReplaced id h.wellLinked.agree new he.1 he.2 t' heq
      have hfree := (firstRefused_eq_none_iff (t.ancestors id) new).mpr
        ((t.replaceChildren_eq_ok_iff id new t').mp heq).1
      have hparent := hr.parent root
      rw [hroot, ite_self] at hparent
      simp [hparent, hfree]
  | detach id => simp [Edit.apply, Edit.AdoptsRoot, hroot]
  | prune =>
    have hpruned : t.prune.1.parent? root = none := t.parent?_pruneWithin root hroot t.size
    simp [Edit.apply, Edit.AdoptsRoot, hpruned]

private theorem Rooted.parent?_root (t : Tree) (h : t.Rooted) : t.parent? root = none := by
  induction h with
  | new token => rfl
  | edit t e h he hroot ih => exact (t.parent?_root_apply (h.built t) ih e he).mpr hroot

private theorem Lineage.getLast?_eq {t : Tree} (id : NodeId) (line : List NodeId)
    (h : t.Lineage id line) (x : NodeId) (hx : x ∈ line) (htop : t.parent? x = none) :
    line.getLast? = some x := by
  obtain ⟨below, above, rfl, hline⟩ := h.of_mem id line x hx
  have hend := hline.unique x above [x] (.top x htop)
  rw [hend, List.getLast?_concat]

private theorem WellLinked.getLast?_ancestors {t : Tree} (h : t.WellLinked) (hlt : root < t.size)
    (hroot : t.parent? root = none) (x : NodeId) (hx : x ∈ t.descendants root) :
    (t.ancestors x).getLast? = some root := by
  have hline := h.lineage_ancestors x (h.lt_size_of_mem_descendants root x hlt hx)
  exact hline.getLast?_eq x _ root (h.mem_ancestors_of_mem_descendants root x hlt hx) hroot

/-- As long as no node takes the root for a child, the root has no parent, all nodes below it lead up
to it and it cannot be detached. Only new children that are not refused can change that, and only
those of a node that is not below the root. -/
theorem root_stays (t : Tree) (h : t.Rooted) :
    t.parent? root = none ∧
    (∀ x ∈ t.descendants root, (t.ancestors x).getLast? = some root) ∧
    t.detach root = t ∧
    (∀ e : Edit, e.InRange t → ((e.apply t).parent? root = none ↔ ¬e.AdoptsRoot t)) ∧
    ∀ id new, (Edit.replaceChildren id new).AdoptsRoot t → id ∉ t.descendants root := by
  have hbuilt := h.built t
  have hlinked := hbuilt.wellLinked
  have hroot := h.parent?_root t
  refine ⟨hroot, hlinked.getLast?_ancestors hbuilt.root_lt hroot, t.detach_eq_self root hroot,
    t.parent?_root_apply hbuilt hroot, ?_⟩
  intro id new hadopts hbelow
  obtain ⟨-, hfree⟩ := (firstRefused_eq_none_iff (t.ancestors id) new).mp hadopts.2
  exact hfree root hadopts.1
    (hlinked.mem_ancestors_of_mem_descendants root id hbuilt.root_lt hbelow)

/-- The root is refused as a child of a node below it, and nothing in that tree takes it. -/
theorem root_stays_regrafted : regrafted.Rooted ∧ regrafted.parent? root = none ∧
    3 ∈ regrafted.descendants root ∧ (regrafted.ancestors 3).getLast? = some root ∧
    regrafted.detach root = regrafted ∧
    ((Edit.replaceChildren 3 [0]).apply regrafted).parent? root = none ∧
    (Edit.replaceChildren 2 [0]).AdoptsRoot regrafted ∧ 2 ∉ regrafted.descendants root := by
  have hrooted : regrafted.Rooted :=
    Rooted.foldl _ (.new _) regrafting (by decide +kernel) (by decide +kernel)
  have hbelow : 3 ∈ regrafted.descendants root := by decide +kernel
  have hadopts : (Edit.replaceChildren 2 [0]).AdoptsRoot regrafted := by decide +kernel
  obtain ⟨hroot, hup, hdetach, hedits, houtside⟩ := root_stays regrafted hrooted
  refine ⟨hrooted, hroot, hbelow, hup 3 hbelow, hdetach, ?_, hadopts, houtside 2 [0] hadopts⟩
  exact (hedits (.replaceChildren 3 [0]) (by decide +kernel)).mpr (by decide +kernel)

/-- A node without a parent takes the root for a child. -/
def uprooting : List Edit := [.create (Token.textless ⟨"A"⟩) none, .replaceChildren 1 [0]]

def uprooted : Tree := uprooting.foldl Edit.apply (new (Token.textless ⟨"S"⟩))

theorem root_taken : uprooted.Built ∧ uprooted.parent? root = some 1 ∧
    root ∈ uprooted.descendants root ∧ (uprooted.ancestors root).getLast? ≠ some root ∧
    uprooted.detach root ≠ uprooted :=
  ⟨Built.foldl _ (.new _) uprooting (by decide +kernel), by decide +kernel, by decide +kernel,
    by decide +kernel, by decide +kernel⟩

end Tree

namespace Parser

open Predictive.Tree

private theorem rooted_addChildren (t : Tree) (parent : NodeId) (body : Body) (h : t.Rooted)
    (hparent : parent < t.size) : (addChildren t parent body).1.Rooted := by
  induction body generalizing t with
  | nil => exact h
  | cons s body ih =>
    have hcreated : (t.create (Token.textless s) (some parent)).1.Rooted :=
      .edit t (.create (Token.textless s) (some parent)) h
        (by simpa [Edit.InRange] using hparent) id
    have hsize := t.size_create (Token.textless s) (some parent)
    exact ih _ hcreated (hsize.symm ▸ Nat.lt_succ_of_lt hparent)

private theorem rooted_onProduction (t : Tree) (id : NodeId) (q : Production) (h : t.Rooted)
    (hid : id < t.size) (t' : Tree) (slots : List NodeId)
    (hq : grower.onProduction t id q = .ok (t', slots)) : t'.Rooted := by
  have hlinked := (h.built t).wellLinked
  have hrooted := rooted_addChildren t id q.pushed h hid
  obtain ⟨hids, -, hsize, -⟩ := addChildren_spec t id q.pushed hlinked hid
  simp only [grower] at hq
  split at hq
  · cases hq
  · next heq =>
    cases hq
    have hmade : (Edit.replaceChildren id (addChildren t id q.pushed).2).apply
        (addChildren t id q.pushed).1 = t' := by
      rw [Edit.apply, heq]
    rw [← hmade]
    have hnew : ∀ c ∈ (addChildren t id q.pushed).2,
        t.size ≤ c ∧ c < (addChildren t id q.pushed).1.size := by
      intro c hc
      rw [hids] at hc
      rw [hsize]
      exact List.mem_range'_1.mp hc
    refine .edit _ _ hrooted ⟨?_, fun c hc => (hnew c hc).2⟩ ?_
    · rw [hsize]
      exact Nat.lt_of_lt_of_le hid (Nat.le_add_right _ _)
    · intro hadopts
      exact absurd (hnew root hadopts.1).1 (Nat.not_le.mpr (h.built t).root_lt)

private theorem rooted_step (p : Parser) (t : Tree) (c : Config NodeId) (t' : Tree)
    (c' : Config NodeId) (h : t.Rooted) (hstack : ∀ e ∈ c.stack, e.2 < t.size)
    (hstep : p.step grower t c = .next t' c') : t'.Rooted ∧ ∀ e ∈ c'.stack, e.2 < t'.size := by
  cases p.advances_of_next grower t c t' c' hstep with
  | matched id below token rest hend =>
    obtain ⟨hid, hbelow⟩ := List.forall_mem_cons.mp hstack
    refine ⟨.edit t (.setText id token.lexemeOrLabel) h hid (fun hadopts => hadopts), ?_⟩
    intro e he
    exact (t.size_setText id _).symm ▸ hbelow e he
  | expanded top id below input q _ slots hend htop hhead hcell hq =>
    obtain ⟨hid, hbelow⟩ := List.forall_mem_cons.mp hstack
    have hrooted := rooted_onProduction t id q h hid t' slots hq
    obtain ⟨_, heq, hs⟩ := onProduction_sprouts t id q (h.built t).wellLinked hid
    rw [hq] at heq
    cases heq
    refine ⟨hrooted, ?_⟩
    intro e he
    rw [hs.size]
    rcases List.mem_append.mp he with hnew | hold
    · exact (List.mem_range'_1.mp (List.of_mem_zip hnew).2).2
    · exact Nat.lt_of_lt_of_le (hbelow e hold) (Nat.le_add_right _ _)

/-- The trees that a parser makes are among those whose root stays without a parent. -/
theorem rooted_tree (p : Parser) (tokens : List Token) (t : Tree)
    (h : p.tree tokens = .ok t) : t.Rooted := by
  cases hstart : p.grammar.start? with
  | none => simp [tree, hstart] at h
  | some start =>
    rw [p.tree_of_start start hstart] at h
    obtain ⟨c, hrooted, -⟩ := p.run_keeps grower
      (fun t c => t.Rooted ∧ ∀ e ∈ c.stack, e.2 < t.size)
      (fun t c t' c' hkept hstep => p.rooted_step t c t' c' hkept.1 hkept.2 hstep)
      (p.stepLimit tokens) (Tree.new (Token.textless start)) ⟨[(start, Tree.root)], tokens⟩
      ⟨.new _, fun e he => List.mem_singleton.mp he ▸ Nat.one_pos⟩
    split at h
    · cases h
    · next t₁ hrun =>
      cases h
      rwa [hrun] at hrooted

end Parser

end Predictive
