/-!
# Finite maps in ascending order of their keys

A map is the list of its entries with strictly ascending keys. `OrderedMap.get?_insert` says what
an insertion changes.
-/
namespace Predictive

structure OrderedMap (κ : Type) (ν : Type) [Ord κ] where
  entries : List (κ × ν)
  ascending : entries.Pairwise (fun a b => compare a.1 b.1 = .lt)
deriving DecidableEq

namespace OrderedMap

variable {κ ν : Type} [Ord κ]

/-- Puts an entry into an ascending list at its place, over an entry with the same key. -/
def place (k : κ) (v : ν) : List (κ × ν) → List (κ × ν)
  | [] => [(k, v)]
  | e :: es =>
    match compare k e.1 with
    | .lt => (k, v) :: e :: es
    | .eq => (k, v) :: es
    | .gt => e :: place k v es

theorem mem_place (k : κ) (v : ν) (e : κ × ν) (es : List (κ × ν)) (h : e ∈ place k v es) :
    e = (k, v) ∨ e ∈ es := by
  induction es with
  | nil => simpa [place] using h
  | cons d ds ih =>
    simp only [place] at h
    split at h
    · simpa using h
    · rcases List.mem_cons.1 h with h | h
      · exact .inl h
      · exact .inr (List.mem_cons_of_mem _ h)
    · rcases List.mem_cons.1 h with h | h
      · exact .inr (h ▸ List.mem_cons_self)
      · exact (ih h).imp id (List.mem_cons_of_mem _)

theorem place_ascending [Std.TransOrd κ] [Std.LawfulEqOrd κ] (k : κ) (v : ν) (es : List (κ × ν))
    (h : es.Pairwise (fun a b => compare a.1 b.1 = .lt)) :
    (place k v es).Pairwise (fun a b => compare a.1 b.1 = .lt) := by
  induction es with
  | nil => simp [place]
  | cons d ds ih =>
    have hd := List.pairwise_cons.1 h
    simp only [place]
    split
    · next hk =>
      refine List.pairwise_cons.2 ⟨?_, h⟩
      intro e he
      rcases List.mem_cons.1 he with rfl | he
      · exact hk
      · exact Std.TransCmp.lt_trans hk (hd.1 e he)
    · next hk =>
      have hkd : k = d.1 := Std.LawfulEqOrd.eq_of_compare hk
      subst hkd
      exact List.pairwise_cons.2 ⟨hd.1, hd.2⟩
    · next hk =>
      refine List.pairwise_cons.2 ⟨?_, ih hd.2⟩
      intro e he
      rcases mem_place k v e ds he with rfl | he
      · exact Std.OrientedCmp.gt_iff_lt.1 hk
      · exact hd.1 e he

def empty : OrderedMap κ ν := ⟨[], List.Pairwise.nil⟩

instance : EmptyCollection (OrderedMap κ ν) := ⟨empty⟩

def size (m : OrderedMap κ ν) : Nat := m.entries.length

def keys (m : OrderedMap κ ν) : List κ := m.entries.map Prod.fst

/-- The value of the first entry with the given key. -/
def find [DecidableEq κ] (k : κ) : List (κ × ν) → Option ν
  | [] => none
  | e :: es => if k = e.1 then some e.2 else find k es

def get? [DecidableEq κ] (m : OrderedMap κ ν) (k : κ) : Option ν := find k m.entries

variable [Std.TransOrd κ] [Std.LawfulEqOrd κ]

def insert (m : OrderedMap κ ν) (k : κ) (v : ν) : OrderedMap κ ν :=
  ⟨place k v m.entries, place_ascending k v m.entries m.ascending⟩

omit [Std.TransOrd κ] [Std.LawfulEqOrd κ] in
@[simp] theorem get?_empty [DecidableEq κ] (k : κ) : (∅ : OrderedMap κ ν).get? k = none := rfl

omit [Std.TransOrd κ] in
private theorem find_place [DecidableEq κ] (k l : κ) (v : ν) (es : List (κ × ν)) :
    find l (place k v es) = if l = k then some v else find l es := by
  induction es with
  | nil => simp [place, find]
  | cons d ds ih =>
    simp only [place]
    split
    · simp [find]
    · next hk =>
      have hkd : k = d.1 := Std.LawfulEqOrd.eq_of_compare hk
      by_cases h : l = k
      · simp [find, h]
      · have hd : l ≠ d.1 := hkd ▸ h
        simp [find, h, hd]
    · next hk =>
      have hkd : d.1 ≠ k := by
        intro e
        rw [e, Std.ReflOrd.compare_self] at hk
        cases hk
      by_cases hl : l = d.1
      · subst hl
        simp [find, hkd]
      · simp [find, hl, ih]

theorem get?_insert [DecidableEq κ] (m : OrderedMap κ ν) (k l : κ) (v : ν) :
    (m.insert k v).get? l = if l = k then some v else m.get? l :=
  find_place k l v m.entries

/-- What a run of insertions leaves behind when the value depends on the key alone. -/
theorem get?_foldl_insert [DecidableEq κ] (f : κ → ν) (ks : List κ) (m : OrderedMap κ ν) (l : κ) :
    (ks.foldl (fun m k => m.insert k (f k)) m).get? l =
      if l ∈ ks then some (f l) else m.get? l := by
  induction ks generalizing m with
  | nil => simp
  | cons k ks ih =>
    rw [List.foldl_cons, ih, get?_insert]
    by_cases hks : l ∈ ks
    · simp [hks]
    · by_cases hk : l = k
      · simp [hk]
      · simp [hks, hk]

omit [Ord κ] [Std.TransOrd κ] [Std.LawfulEqOrd κ] in
private theorem mem_of_find [DecidableEq κ] (k : κ) (v : ν) (es : List (κ × ν))
    (h : find k es = some v) : (k, v) ∈ es := by
  induction es with
  | nil => cases h
  | cons d ds ih =>
    rw [find] at h
    split at h
    · next hk =>
      cases h
      exact List.mem_cons.2 (Or.inl (by rw [hk]))
    · exact List.mem_cons_of_mem _ (ih h)

omit [Std.TransOrd κ] [Std.LawfulEqOrd κ] in
theorem mem_entries_of_get? [DecidableEq κ] (m : OrderedMap κ ν) (k : κ) (v : ν)
    (h : m.get? k = some v) : (k, v) ∈ m.entries :=
  mem_of_find k v m.entries h

omit [Std.LawfulEqOrd κ] in
private theorem find_eq_none_of_lt [DecidableEq κ] (k : κ) (es : List (κ × ν))
    (h : ∀ e ∈ es, compare k e.1 = .lt) : find k es = none := by
  induction es with
  | nil => rfl
  | cons d ds ih =>
    have hd : k ≠ d.1 := by
      intro e
      have hk := h d List.mem_cons_self
      rw [← e, Std.ReflOrd.compare_self] at hk
      cases hk
    rw [find, if_neg hd]
    exact ih (fun e he => h e (List.mem_cons_of_mem _ he))

omit [Std.LawfulEqOrd κ] in
private theorem find_least_eq_none [DecidableEq κ] (a b : κ × ν) (bs : List (κ × ν))
    (h : (b :: bs).Pairwise (fun a b => compare a.1 b.1 = .lt)) (hab : compare a.1 b.1 = .lt) :
    find a.1 (b :: bs) = none := by
  apply find_eq_none_of_lt
  intro e he
  rcases List.mem_cons.1 he with rfl | he
  · exact hab
  · exact Std.TransCmp.lt_trans hab ((List.pairwise_cons.1 h).1 e he)

omit [Std.TransOrd κ] in
private theorem find_of_mem [DecidableEq κ] (k : κ) (v : ν) (es : List (κ × ν))
    (h : es.Pairwise (fun a b => compare a.1 b.1 = .lt)) (hmem : (k, v) ∈ es) :
    find k es = some v := by
  induction es with
  | nil => exact absurd hmem List.not_mem_nil
  | cons d ds ih =>
    rcases List.mem_cons.1 hmem with rfl | hmem
    · simp [find]
    · have hne : k ≠ d.1 := by
        rintro rfl
        have hlt := (List.pairwise_cons.1 h).1 _ hmem
        rw [Std.ReflOrd.compare_self] at hlt
        cases hlt
      rw [find, if_neg hne]
      exact ih (List.pairwise_cons.1 h).2 hmem

omit [Std.TransOrd κ] in
theorem get?_eq_some_iff [DecidableEq κ] (m : OrderedMap κ ν) (k : κ) (v : ν) :
    m.get? k = some v ↔ (k, v) ∈ m.entries :=
  ⟨m.mem_entries_of_get? k v, find_of_mem k v m.entries m.ascending⟩

omit [Std.TransOrd κ] in
theorem mem_keys_iff [DecidableEq κ] (m : OrderedMap κ ν) (k : κ) :
    k ∈ m.keys ↔ (m.get? k).isSome = true := by
  rw [keys, List.mem_map, Option.isSome_iff_exists]
  constructor
  · rintro ⟨e, he, rfl⟩
    exact ⟨e.2, (m.get?_eq_some_iff e.1 e.2).mpr he⟩
  · rintro ⟨v, hv⟩
    exact ⟨(k, v), m.mem_entries_of_get? k v hv, rfl⟩

omit [Std.TransOrd κ] in
theorem nodup_keys (m : OrderedMap κ ν) : m.keys.Nodup := by
  refine List.pairwise_map.2 (m.ascending.imp ?_)
  intro a b hlt heq
  rw [heq, Std.ReflOrd.compare_self] at hlt
  cases hlt

private theorem entries_ext [DecidableEq κ] (as bs : List (κ × ν))
    (ha : as.Pairwise (fun a b => compare a.1 b.1 = .lt))
    (hb : bs.Pairwise (fun a b => compare a.1 b.1 = .lt)) (h : ∀ k, find k as = find k bs) :
    as = bs := by
  induction as generalizing bs with
  | nil =>
    cases bs with
    | nil => rfl
    | cons b bs => simpa [find] using h b.1
  | cons a as ih =>
    cases bs with
    | nil => simpa [find] using h a.1
    | cons b bs =>
      have hab : a.1 = b.1 := by
        cases hc : compare a.1 b.1 with
        | lt =>
          have hf := h a.1
          rw [find_least_eq_none a b bs hb hc] at hf
          simp [find] at hf
        | eq => exact Std.LawfulEqOrd.eq_of_compare hc
        | gt =>
          have hf := h b.1
          rw [find_least_eq_none b a as ha (Std.OrientedCmp.gt_iff_lt.1 hc)] at hf
          simp [find] at hf
      have hv : a.2 = b.2 := by simpa [find, hab] using h a.1
      have hrest : as = bs := by
        apply ih bs (List.pairwise_cons.1 ha).2 (List.pairwise_cons.1 hb).2
        intro k
        by_cases hk : k = a.1
        · subst hk
          rw [find_eq_none_of_lt a.1 as (List.pairwise_cons.1 ha).1, hab,
            find_eq_none_of_lt b.1 bs (List.pairwise_cons.1 hb).1]
        · have hk' : k ≠ b.1 := fun e => hk (e.trans hab.symm)
          simpa [find, hk, hk'] using h k
      rw [hrest, Prod.ext hab hv]

theorem ext_get? [DecidableEq κ] (m n : OrderedMap κ ν) (h : ∀ k, m.get? k = n.get? k) :
    m = n := by
  cases m with
  | mk as ha =>
    cases n with
    | mk bs hb =>
      have : as = bs := entries_ext as bs ha hb h
      subst this
      rfl

theorem ext_getD [DecidableEq κ] (m n : OrderedMap κ ν) (default : κ → ν)
    (hkeys : ∀ k, (m.get? k).isSome = true ↔ (n.get? k).isSome = true)
    (hvalues : ∀ k, (m.get? k).getD (default k) = (n.get? k).getD (default k)) : m = n := by
  apply ext_get?
  intro k
  have hkey := hkeys k
  have hvalue := hvalues k
  cases hm : m.get? k with
  | none =>
    cases hn : n.get? k with
    | none => rfl
    | some w => simp [hm, hn] at hkey
  | some v =>
    cases hn : n.get? k with
    | none => simp [hm, hn] at hkey
    | some w => simpa [hm, hn] using hvalue

/-- The map with a function applied to every value. -/
def map {μ : Type} (f : ν → μ) (m : OrderedMap κ ν) : OrderedMap κ μ :=
  ⟨m.entries.map (fun e => (e.1, f e.2)), List.pairwise_map.2 m.ascending⟩

omit [Std.TransOrd κ] [Std.LawfulEqOrd κ] in
theorem get?_map [DecidableEq κ] {μ : Type} (f : ν → μ) (m : OrderedMap κ ν) (k : κ) :
    (m.map f).get? k = (m.get? k).map f := by
  have hfind (es : List (κ × ν)) :
      find k (es.map (fun e => (e.1, f e.2))) = (find k es).map f := by
    induction es with
    | nil => rfl
    | cons e es ih => by_cases h : k = e.1 <;> simp [find, h, ih]
  exact hfind m.entries

end OrderedMap

end Predictive
