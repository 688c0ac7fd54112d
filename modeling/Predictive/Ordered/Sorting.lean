import Predictive.Ordered.Set
/-!
# Sorted lists without repetition

A list can be made a set by sorting it and leaving out what is repeated. This gives the members in
the order in which a set lists them (`Sorting.sortUnique_eq`).
-/
namespace Predictive

namespace Sorting

variable {α : Type} [Ord α]

def sort (as : List α) : List α := as.mergeSort (fun a b => (compare a b).isLE)

variable [DecidableEq α]

/-- The values from `a` on, without those that repeat the value in front of them. -/
def uniqueFrom (a : α) : List α → List α
  | [] => [a]
  | b :: bs => if a = b then uniqueFrom a bs else a :: uniqueFrom b bs

def unique : List α → List α
  | [] => []
  | a :: as => uniqueFrom a as

def sortUnique (as : List α) : List α := unique (sort as)

omit [Ord α] in
private theorem mem_uniqueFrom (a x : α) (as : List α) : x ∈ uniqueFrom a as ↔ x = a ∨ x ∈ as := by
  induction as generalizing a with
  | nil => simp [uniqueFrom]
  | cons b bs ih =>
    rw [uniqueFrom]
    split
    · next h =>
      subst h
      simp [ih]
    · simp [ih]

omit [Ord α] in
private theorem mem_unique (x : α) (as : List α) : x ∈ unique as ↔ x ∈ as := by
  cases as with
  | nil => rfl
  | cons a as => rw [unique, mem_uniqueFrom, List.mem_cons]

private theorem mem_sortUnique (x : α) (as : List α) : x ∈ sortUnique as ↔ x ∈ as := by
  rw [sortUnique, mem_unique, sort, List.mem_mergeSort]

variable [Std.TransOrd α] [Std.LawfulEqOrd α]

omit [DecidableEq α] [Std.LawfulEqOrd α] in
private theorem pairwise_sort (as : List α) :
    (sort as).Pairwise (fun a b => (compare a b).isLE = true) := by
  apply List.pairwise_mergeSort
  · exact fun a b c hab hbc => Std.TransCmp.isLE_trans hab hbc
  · intro a b
    have hswap : compare b a = (compare a b).swap := Std.OrientedCmp.eq_swap
    rw [hswap]
    cases compare a b <;> rfl

private theorem ascending_uniqueFrom (a : α) (as : List α)
    (h : (a :: as).Pairwise (fun a b => (compare a b).isLE = true)) :
    (uniqueFrom a as).Pairwise (fun a b => compare a b = .lt) := by
  induction as generalizing a with
  | nil => exact List.pairwise_singleton _ a
  | cons b bs ih =>
    obtain ⟨ha, hrest⟩ := List.pairwise_cons.mp h
    rw [uniqueFrom]
    split
    · next hab =>
      subst hab
      exact ih a hrest
    · next hab =>
      have hlt : compare a b = .lt := by
        have hle := ha b List.mem_cons_self
        cases hc : compare a b with
        | lt => rfl
        | eq => exact absurd (Std.LawfulEqOrd.eq_of_compare hc) hab
        | gt => simp [hc] at hle
      refine List.pairwise_cons.mpr ⟨?_, ih b hrest⟩
      intro c hc
      rcases (mem_uniqueFrom b c bs).mp hc with rfl | hc
      · exact hlt
      · exact Std.TransCmp.lt_of_lt_of_isLE hlt ((List.pairwise_cons.mp hrest).1 c hc)

private theorem ascending_sortUnique (as : List α) :
    (sortUnique as).Pairwise (fun a b => compare a b = .lt) := by
  have hsorted := pairwise_sort as
  unfold sortUnique
  cases hs : sort as with
  | nil => exact List.Pairwise.nil
  | cons a rest => exact ascending_uniqueFrom a rest (hs ▸ hsorted)

theorem sortUnique_eq (as : List α) : sortUnique as = (OrderedSet.ofList as).toList := by
  have hsets : (⟨sortUnique as, ascending_sortUnique as⟩ : OrderedSet α) = OrderedSet.ofList as := by
    apply OrderedSet.ext_mem
    intro a
    rw [OrderedSet.mem_ofList]
    exact mem_sortUnique a as
  exact congrArg OrderedSet.toList hsets

end Sorting

end Predictive
