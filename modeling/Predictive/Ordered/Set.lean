/-!
# Finite sets in ascending order

A set is the strictly ascending list of its members, so two sets with the same members are equal
(`OrderedSet.ext_mem`) and the list of members is the order in which they are shown.
-/
namespace Predictive

structure OrderedSet (α : Type) [Ord α] where
  toList : List α
  ascending : toList.Pairwise (fun a b => compare a b = .lt)
deriving DecidableEq

namespace OrderedSet

variable {α : Type} [Ord α]

/-- Puts a value into an ascending list at its place; a value that is there already stays once. -/
def place (a : α) : List α → List α
  | [] => [a]
  | b :: bs =>
    match compare a b with
    | .lt => a :: b :: bs
    | .eq => b :: bs
    | .gt => b :: place a bs

theorem mem_place [Std.LawfulEqOrd α] (a x : α) (bs : List α) :
    x ∈ place a bs ↔ x = a ∨ x ∈ bs := by
  induction bs with
  | nil => simp [place]
  | cons b bs ih =>
    simp only [place]
    split
    · simp
    · next h =>
      have hab : a = b := Std.LawfulEqOrd.eq_of_compare h
      subst hab
      simp
    · simp only [List.mem_cons, ih]
      constructor
      · rintro (h | h | h) <;> simp [h]
      · rintro (h | h | h) <;> simp [h]

theorem place_ascending [Std.TransOrd α] [Std.LawfulEqOrd α] (a : α) (bs : List α)
    (h : bs.Pairwise (fun a b => compare a b = .lt)) :
    (place a bs).Pairwise (fun a b => compare a b = .lt) := by
  induction bs with
  | nil => simp [place]
  | cons b bs ih =>
    simp only [place]
    split
    · next hab =>
      refine List.pairwise_cons.2 ⟨?_, h⟩
      intro x hx
      rcases List.mem_cons.1 hx with rfl | hx
      · exact hab
      · exact Std.TransCmp.lt_trans hab ((List.pairwise_cons.1 h).1 x hx)
    · exact h
    · next hab =>
      refine List.pairwise_cons.2 ⟨?_, ih (List.pairwise_cons.1 h).2⟩
      intro x hx
      rcases (mem_place a x bs).1 hx with rfl | hx
      · exact Std.OrientedCmp.gt_iff_lt.1 hab
      · exact (List.pairwise_cons.1 h).1 x hx

instance : Membership α (OrderedSet α) := ⟨fun s a => a ∈ s.toList⟩

@[simp] theorem mem_toList (a : α) (s : OrderedSet α) : a ∈ s.toList ↔ a ∈ s := Iff.rfl

instance [DecidableEq α] (a : α) (s : OrderedSet α) : Decidable (a ∈ s) :=
  inferInstanceAs (Decidable (a ∈ s.toList))

def empty : OrderedSet α := ⟨[], List.Pairwise.nil⟩

instance : EmptyCollection (OrderedSet α) := ⟨empty⟩

def singleton (a : α) : OrderedSet α := ⟨[a], List.pairwise_singleton _ a⟩

def filter (p : α → Bool) (s : OrderedSet α) : OrderedSet α :=
  ⟨s.toList.filter p, s.ascending.filter p⟩

def erase [DecidableEq α] (s : OrderedSet α) (a : α) : OrderedSet α :=
  s.filter (fun b => b ≠ a)

def size (s : OrderedSet α) : Nat := s.toList.length

def map {β : Type} (f : α → β) (s : OrderedSet α) : List β := s.toList.map f

variable [Std.TransOrd α] [Std.LawfulEqOrd α]

def insert (s : OrderedSet α) (a : α) : OrderedSet α :=
  ⟨place a s.toList, place_ascending a s.toList s.ascending⟩

def insertAll (s : OrderedSet α) (as : List α) : OrderedSet α := as.foldl insert s

def ofList (as : List α) : OrderedSet α := insertAll ∅ as

instance : Union (OrderedSet α) := ⟨fun s t => s.insertAll t.toList⟩

omit [Std.TransOrd α] [Std.LawfulEqOrd α] in
@[simp] theorem not_mem_empty (a : α) : ¬a ∈ (∅ : OrderedSet α) := List.not_mem_nil

omit [Std.TransOrd α] [Std.LawfulEqOrd α] in
@[simp] theorem mem_singleton (a b : α) : a ∈ singleton b ↔ a = b := List.mem_singleton

omit [Std.TransOrd α] [Std.LawfulEqOrd α] in
@[simp] theorem mem_filter (p : α → Bool) (a : α) (s : OrderedSet α) :
    a ∈ s.filter p ↔ a ∈ s ∧ p a = true := List.mem_filter

omit [Std.TransOrd α] [Std.LawfulEqOrd α] in
@[simp] theorem mem_erase [DecidableEq α] (a b : α) (s : OrderedSet α) :
    a ∈ s.erase b ↔ a ∈ s ∧ a ≠ b := by
  simp [erase]

@[simp] theorem mem_insert (a b : α) (s : OrderedSet α) : a ∈ s.insert b ↔ a = b ∨ a ∈ s :=
  mem_place b a s.toList

@[simp] theorem mem_insertAll (a : α) (as : List α) (s : OrderedSet α) :
    a ∈ s.insertAll as ↔ a ∈ as ∨ a ∈ s := by
  induction as generalizing s with
  | nil => simp [insertAll]
  | cons b bs ih =>
    have h : s.insertAll (b :: bs) = (s.insert b).insertAll bs := rfl
    rw [h, ih]
    simp only [mem_insert, List.mem_cons]
    constructor
    · rintro (h | h | h) <;> simp [h]
    · rintro ((h | h) | h) <;> simp [h]

@[simp] theorem mem_ofList (a : α) (as : List α) : a ∈ ofList as ↔ a ∈ as := by
  simp [ofList]

@[simp] theorem mem_union (a : α) (s t : OrderedSet α) : a ∈ s ∪ t ↔ a ∈ s ∨ a ∈ t := by
  have h : a ∈ s ∪ t ↔ a ∈ t.toList ∨ a ∈ s := mem_insertAll a t.toList s
  rw [h, mem_toList]
  exact Or.comm

omit [Std.LawfulEqOrd α] in
private theorem toList_ext (as bs : List α)
    (ha : as.Pairwise (fun a b => compare a b = .lt))
    (hb : bs.Pairwise (fun a b => compare a b = .lt)) (h : ∀ x, x ∈ as ↔ x ∈ bs) : as = bs := by
  induction as generalizing bs with
  | nil =>
    cases bs with
    | nil => rfl
    | cons b bs => exact absurd ((h b).2 (List.mem_cons_self)) List.not_mem_nil
  | cons a as ih =>
    cases bs with
    | nil => exact absurd ((h a).1 (List.mem_cons_self)) List.not_mem_nil
    | cons b bs =>
      have ha' := List.pairwise_cons.1 ha
      have hb' := List.pairwise_cons.1 hb
      have hirr : ∀ x : α, compare x x ≠ .lt := fun x hx => by
        have := Std.OrientedCmp.gt_iff_lt.2 hx
        rw [hx] at this
        cases this
      have hasym : ∀ x y : α, compare x y = .lt → compare y x = .lt → False := fun x y h₁ h₂ =>
        hirr x (Std.TransCmp.lt_trans h₁ h₂)
      have hab : a = b := by
        rcases List.mem_cons.1 ((h a).1 List.mem_cons_self) with e | hmem
        · exact e
        · rcases List.mem_cons.1 ((h b).2 List.mem_cons_self) with e | hmem'
          · exact e.symm
          · exact (hasym b a (hb'.1 a hmem) (ha'.1 b hmem')).elim
      subst hab
      congr 1
      apply ih bs ha'.2 hb'.2
      intro x
      constructor
      · intro hx
        rcases List.mem_cons.1 ((h x).1 (List.mem_cons_of_mem _ hx)) with rfl | hx'
        · exact (hirr x (ha'.1 x hx)).elim
        · exact hx'
      · intro hx
        rcases List.mem_cons.1 ((h x).2 (List.mem_cons_of_mem _ hx)) with rfl | hx'
        · exact (hirr x (hb'.1 x hx)).elim
        · exact hx'

omit [Std.LawfulEqOrd α] in
theorem ext_mem (s t : OrderedSet α) (h : ∀ a, a ∈ s ↔ a ∈ t) : s = t := by
  cases s with
  | mk as ha =>
    cases t with
    | mk bs hb =>
      have : as = bs := toList_ext as bs ha hb h
      subst this
      rfl

omit [Std.LawfulEqOrd α] in
theorem nodup_toList (s : OrderedSet α) : s.toList.Nodup := by
  refine s.ascending.imp ?_
  rintro a b hab rfl
  rw [Std.ReflOrd.compare_self] at hab
  cases hab

omit [Std.LawfulEqOrd α] in
theorem exists_mem_of_ne_empty (s : OrderedSet α) (h : s ≠ ∅) : ∃ a, a ∈ s := by
  refine Classical.byContradiction fun hnone => h ?_
  apply ext_mem
  intro a
  exact iff_of_false (fun ha => hnone ⟨a, ha⟩) (not_mem_empty a)

theorem size_union_eq_iff (s t : OrderedSet α) : (s ∪ t).size = s.size ↔ ∀ a ∈ t, a ∈ s := by
  constructor
  · intro hsize a ha
    refine Classical.byContradiction fun hnew => ?_
    have hnodup : (a :: s.toList).Nodup := List.nodup_cons.2 ⟨hnew, s.nodup_toList⟩
    have hsub : a :: s.toList ⊆ (s ∪ t).toList := by
      intro b hb
      rcases List.mem_cons.1 hb with rfl | hb
      · exact (mem_union b s t).2 (Or.inr ha)
      · exact (mem_union b s t).2 (Or.inl hb)
    have hle := hnodup.length_le_of_subset hsub
    have hlt : (s ∪ t).toList.length < (a :: s.toList).length :=
      Nat.lt_succ_of_le (Nat.le_of_eq hsize)
    exact Nat.not_lt_of_le hle hlt
  · intro h
    have heq : s ∪ t = s := by
      apply ext_mem
      intro a
      rw [mem_union]
      exact ⟨fun ha => ha.elim id (h a), Or.inl⟩
    rw [heq]

end OrderedSet

end Predictive
