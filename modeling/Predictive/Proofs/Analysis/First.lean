import Predictive.Proofs.Analysis.Nullable
/-!
# FIRST is exact

A terminal other than `empty` belongs to FIRST of a string just if the string derives a string that
begins with it, and `empty` belongs to it just if the string derives the empty string. The passes
keep the invariant that every member of the set of a head is reached by the rule that a head starts
with what its productions start with behind nullable symbols.
-/
namespace Predictive

namespace Grammar

/-- A head starts with a symbol if one of its bodies does behind nullable symbols, or holds there
another head that starts with it. -/
def startRule (g : Grammar) (a : Symbol) (starts : Symbol → Prop) (s : Symbol) : Prop :=
  ∃ p ∈ g.productions, p.head = s ∧ ∃ before x after, p.body = before ++ x :: after ∧
    (∀ y ∈ before, y ∈ g.nullable) ∧ (x = a ∨ starts x)

private theorem startRule_mono (g : Grammar) (a : Symbol) (P Q : Symbol → Prop)
    (hPQ : ∀ x, P x → Q x) (s : Symbol) (h : g.startRule a P s) : g.startRule a Q s := by
  obtain ⟨p, hp, hhead, before, x, after, hbody, hbefore, hx⟩ := h
  exact ⟨p, hp, hhead, before, x, after, hbody, hbefore, hx.imp id (hPQ x)⟩

/-- The heads that start with a symbol within the given number of levels. -/
def StartsBy (g : Grammar) (a : Symbol) (n : Nat) (s : Symbol) : Prop := level (g.startRule a) n s

theorem StartsBy.mem_heads (g : Grammar) (a : Symbol) (n : Nat) (s : Symbol)
    (h : g.StartsBy a n s) : s ∈ g.heads := by
  cases n with
  | zero => exact False.elim h
  | succ n =>
    obtain ⟨p, hp, rfl, -⟩ := h
    exact g.head_mem_heads p hp

theorem StartsBy.le_heads (g : Grammar) (a : Symbol) (n : Nat) (s : Symbol)
    (h : g.StartsBy a n s) : g.StartsBy a g.heads.length s := by
  apply level_saturates (g.startRule_mono a) g.heads ?_ n s h
  rintro P x ⟨p, hp, rfl, -⟩
  exact g.head_mem_heads p hp

theorem StartsBy.mem_bodySymbols (g : Grammar) (a : Symbol) (n : Nat) (s : Symbol)
    (h : g.StartsBy a n s) : a ∈ g.bodySymbols := by
  induction n generalizing s with
  | zero => exact False.elim h
  | succ n ih =>
    obtain ⟨p, hp, -, before, x, after, hbody, -, rfl | hx⟩ := h
    · exact g.mem_bodySymbols p hp x (by simp [hbody])
    · exact ih x hx

private theorem derives_behind_nullable (g : Grammar) (before after : Body) (x a : Symbol)
    (hbefore : ∀ y ∈ before, y ∈ g.nullable) (h : ∃ u, g.Derives [x] (a :: u)) :
    ∃ u, g.Derives (before ++ x :: after) (a :: u) := by
  have hnil : g.Derives before [] := (g.derives_nil_iff before).mpr hbefore
  obtain ⟨u, hu⟩ := h
  refine ⟨u ++ after, ?_⟩
  exact hnil.concat g before [] (x :: after) _ (hu.concat g [x] _ after after (.refl after))

theorem StartsBy.derives (g : Grammar) (a : Symbol) (n : Nat) (s : Symbol)
    (h : g.StartsBy a n s) : ∃ u, g.Derives [s] (a :: u) := by
  induction n generalizing s with
  | zero => exact False.elim h
  | succ n ih =>
    obtain ⟨p, hp, rfl, before, x, after, hbody, hbefore, hx⟩ := h
    have hbegin : ∃ u, g.Derives [x] (a :: u) := by
      rcases hx with rfl | hx
      · exact ⟨[], .refl [x]⟩
      · exact ih x hx
    obtain ⟨u, hu⟩ := g.derives_behind_nullable before after x a hbefore hbegin
    exact ⟨u, (g.derives_body p hp).trans g _ _ _ (hbody ▸ hu)⟩

/-- What the passes for FIRST keep. -/
structure FirstSound (g : Grammar) (sets : SymbolSets) : Prop where
  terminal : ∀ t, g.isTerminal t = true → sets.firstOf t = OrderedSet.singleton t
  present : ∀ s, (sets.get? s).isSome = true ↔ s ∈ g.heads ∨ s ∈ g.bodySymbols
  epsilon : ∀ s ∈ g.heads, (Symbol.epsilon ∈ sets.firstOf s ↔ s ∈ g.nullable)
  starts : ∀ s ∈ g.heads, ∀ a ∈ sets.firstOf s, a ≠ Symbol.epsilon →
    g.isTerminal a = true ∧ g.StartsBy a g.heads.length s

namespace FirstSound

variable {g : Grammar} {sets : SymbolSets}

private theorem epsilon_mem_firstOf (hs : g.FirstSound sets) (x : Symbol) :
    Symbol.epsilon ∈ sets.firstOf x ↔ x ∈ g.nullable := by
  by_cases hx : x ∈ g.heads
  · exact hs.epsilon x hx
  · rw [hs.terminal x ((g.isTerminal_iff x).mpr hx), OrderedSet.mem_singleton]
    constructor
    · rintro rfl
      exact g.epsilon_mem_nullable
    · intro h
      rcases g.vanishesBy_of_mem_nullable x h with rfl | ⟨⟩
      · rfl
      · next hv => exact absurd (VanishesBy.mem_heads g _ x hv) hx

theorem mem_firstOf (hs : g.FirstSound sets) (x a : Symbol) (h : a ∈ sets.firstOf x)
    (ha : a ≠ Symbol.epsilon) :
    g.isTerminal a = true ∧ (x = a ∨ g.StartsBy a g.heads.length x) := by
  by_cases hx : x ∈ g.heads
  · exact (hs.starts x hx a h ha).imp id Or.inr
  · have hterm := (g.isTerminal_iff x).mpr hx
    rw [hs.terminal x hterm, OrderedSet.mem_singleton] at h
    subst h
    exact ⟨hterm, Or.inl rfl⟩

theorem mem_firstOfBody (hs : g.FirstSound sets) (s : Body) (a : Symbol)
    (h : a ∈ sets.firstOfBody s) (ha : a ≠ Symbol.epsilon) :
    g.isTerminal a = true ∧ ∃ before x after, s = before ++ x :: after ∧
      (∀ y ∈ before, y ∈ g.nullable) ∧ (x = a ∨ g.StartsBy a g.heads.length x) := by
  obtain ⟨before, x, after, rfl, hbefore, hx⟩ := (sets.mem_firstOfBody_iff a ha s).mp h
  obtain ⟨hterm, hstart⟩ := hs.mem_firstOf x a hx ha
  exact ⟨hterm, before, x, after, rfl,
    fun y hy => (hs.epsilon_mem_firstOf y).mp (hbefore y hy), hstart⟩

/-- Every symbol of a body has an entry, so a rule adds FIRST of its bodies. -/
theorem mem_scanAll (hs : g.FirstSound sets) (r : Rule) (hr : r ∈ g.rules) (a : Symbol) :
    a ∈ sets.scanAll r.alternatives ↔ a ≠ Symbol.epsilon ∧
      ∃ p ∈ g.productions, p ∈ r.productions ∧ a ∈ sets.firstOfBody p.body := by
  have hscan (p : Production) (hp : p ∈ g.productions) :
      sets.scan p.body = (sets.firstOfBody p.body).erase Symbol.epsilon :=
    sets.scan_eq p.body (fun x hx => (hs.present x).mpr (Or.inr (g.mem_bodySymbols p hp x hx)))
  rw [SymbolSets.mem_scanAll]
  constructor
  · rintro ⟨body, hbody, ha⟩
    have hpr : (⟨r.head, body⟩ : Production) ∈ r.productions := List.mem_map.mpr ⟨body, hbody, rfl⟩
    have hp := List.mem_flatMap.mpr ⟨r, hr, hpr⟩
    rw [hscan _ hp, OrderedSet.mem_erase] at ha
    exact ⟨ha.2, _, hp, hpr, ha.1⟩
  · rintro ⟨hne, p, hp, hpr, ha⟩
    obtain ⟨body, hbody, rfl⟩ := List.mem_map.mp hpr
    refine ⟨body, hbody, ?_⟩
    rw [hscan _ hp, OrderedSet.mem_erase]
    exact ⟨ha, hne⟩

theorem addFirst (hs : g.FirstSound sets) (r : Rule) (hr : r ∈ g.rules) :
    g.FirstSound (addFirst sets r).1 := by
  have hhead : r.head ∈ g.heads := List.mem_map.mpr ⟨r, hr, rfl⟩
  have hpresent := (hs.present r.head).mpr (Or.inl hhead)
  have hentry := sets.firstOf_eq_entry r.head hpresent
  have hmore := hs.mem_scanAll r hr
  refine ⟨?_, ?_, ?_, ?_⟩
  · intro t ht
    have hne : t ≠ r.head := fun e => (g.isTerminal_iff t).mp ht (e ▸ hhead)
    rw [Grammar.addFirst, SymbolSets.grow, SymbolSets.firstOf_enlarge, if_neg hne]
    exact hs.terminal t ht
  · intro s
    rw [Grammar.addFirst, SymbolSets.grow, SymbolSets.get?_enlarge]
    split
    · next h => exact iff_of_true rfl (Or.inl (h ▸ hhead))
    · exact hs.present s
  · intro s hsh
    rw [Grammar.addFirst, SymbolSets.grow, SymbolSets.firstOf_enlarge]
    split
    · next h =>
      subst h
      rw [← hentry, OrderedSet.mem_union, hs.epsilon r.head hsh, hmore]
      simp
    · exact hs.epsilon s hsh
  · intro s hsh a ha hne
    rw [Grammar.addFirst, SymbolSets.grow, SymbolSets.firstOf_enlarge] at ha
    split at ha
    · next h =>
      subst h
      rw [← hentry, OrderedSet.mem_union, hmore] at ha
      rcases ha with ha | ⟨-, p, hp, hpr, ha⟩
      · exact hs.starts r.head hsh a ha hne
      · obtain ⟨hterm, hsplit⟩ := hs.mem_firstOfBody p.body a ha hne
        obtain ⟨body, -, rfl⟩ := List.mem_map.mp hpr
        exact ⟨hterm, StartsBy.le_heads g a (g.heads.length + 1) r.head ⟨_, hp, rfl, hsplit⟩⟩
    · exact hs.starts s hsh a ha hne

end FirstSound

/-- The entries that passes can add to FIRST or FOLLOW. -/
def entryPool (g : Grammar) : List (Symbol × Symbol) :=
  g.heads.flatMap
    (fun s => (g.bodySymbols ++ [Symbol.epsilon, Symbol.endMarker]).map (fun a => (s, a)))

theorem length_entryPool_lt (g : Grammar) : g.entryPool.length < g.passLimit := by
  simp only [entryPool, passLimit, List.length_flatMap, List.length_map, List.length_append,
    List.length_cons, List.length_nil, List.map_const', List.sum_replicate_nat]
  exact Nat.lt_succ_self _

theorem mem_entryPool (g : Grammar) (s a : Symbol) (hs : s ∈ g.heads)
    (ha : a ∈ g.bodySymbols ∨ a = Symbol.epsilon ∨ a = Symbol.endMarker) :
    (s, a) ∈ g.entryPool := by
  refine List.mem_flatMap.mpr ⟨s, hs, List.mem_map.mpr ⟨a, ?_, rfl⟩⟩
  simpa using ha

/-- The passes for FIRST. -/
def firstFilling (g : Grammar) : Filling SymbolSets (Symbol × Symbol) Rule :=
  SymbolSets.growing g.rules Rule.head (fun sets r => sets.scanAll r.alternatives) g.FirstSound
    g.entryPool (fun _ hs r hr => hs.addFirst r hr)
    (fun _ hs r hr => (hs.present r.head).mpr (Or.inl (List.mem_map.mpr ⟨r, hr, rfl⟩)))
    (by
      intro sets hs r hr a ha
      obtain ⟨hne, p, hp, -, hfirst⟩ := (hs.mem_scanAll r hr a).mp ha
      obtain ⟨-, before, x, after, hbody, -, hx⟩ := hs.mem_firstOfBody p.body a hfirst hne
      apply g.mem_entryPool r.head a (List.mem_map.mpr ⟨r, hr, rfl⟩)
      left
      rcases hx with hx | hx
      · exact g.mem_bodySymbols p hp a (by simp [hbody, hx])
      · exact hx.mem_bodySymbols g a _ x)

private theorem get?_firstSeed (g : Grammar) (nullable : SymbolSet) (s : Symbol) :
    (g.firstSeed nullable).get? s =
      if s ∈ g.heads then
        some (if s ∈ nullable then OrderedSet.singleton Symbol.epsilon else ∅)
      else if s ∈ g.bodySymbols then some (OrderedSet.singleton s)
      else none := by
  unfold firstSeed
  rw [OrderedMap.get?_foldl_insert
    (fun s => if s ∈ nullable then OrderedSet.singleton Symbol.epsilon else ∅),
    OrderedMap.get?_foldl_insert OrderedSet.singleton]
  by_cases hs : s ∈ g.heads
  · rw [if_pos hs, if_pos hs]
  · simp [hs, List.mem_filter, g.isTerminal_iff]

theorem firstSound_seed (g : Grammar) : g.FirstSound (g.firstSeed g.nullable) := by
  refine ⟨?_, ?_, ?_, ?_⟩
  · intro t ht
    rw [SymbolSets.firstOf, get?_firstSeed, if_neg ((g.isTerminal_iff t).mp ht)]
    split <;> rfl
  · intro s
    rw [get?_firstSeed]
    by_cases hs : s ∈ g.heads
    · simp [hs]
    · by_cases hb : s ∈ g.bodySymbols <;> simp [hs, hb]
  · intro s hs
    rw [SymbolSets.firstOf, get?_firstSeed, if_pos hs]
    by_cases hn : s ∈ g.nullable <;> simp [hn]
  · intro s hs a ha hne
    rw [SymbolSets.firstOf, get?_firstSeed, if_pos hs] at ha
    by_cases hn : s ∈ g.nullable <;> simp [hn, hne] at ha

theorem firstSound (g : Grammar) : g.FirstSound g.analysis.first :=
  g.firstFilling.inv_stabilise g.passLimit _ g.firstSound_seed

/-- Where the loop for FIRST ends, no rule adds anything. -/
theorem addFirst_analysis (g : Grammar) (r : Rule) (hr : r ∈ g.rules) :
    addFirst g.analysis.first r = (g.analysis.first, false) :=
  g.firstFilling.step_stabilise g.passLimit g.length_entryPool_lt _ g.firstSound_seed r hr

/-- FIRST of a head holds what its bodies start with. -/
theorem mem_firstOf_head (g : Grammar) (p : Production) (hp : p ∈ g.productions) (a : Symbol)
    (h : a ∈ g.analysis.firstOfBody p.body) : a ∈ g.analysis.firstOf p.head := by
  have hhead := g.head_mem_heads p hp
  by_cases ha : a = Symbol.epsilon
  · subst ha
    apply (g.firstSound.epsilon_mem_firstOf p.head).mpr
    apply g.head_mem_nullable p hp
    intro x hx
    have hall := (SymbolSets.epsilon_mem_firstOfBody g.analysis.first p.body).mp h
    exact (g.firstSound.epsilon_mem_firstOf x).mp (hall x hx)
  · obtain ⟨r, hr, hpr⟩ := List.mem_flatMap.mp hp
    have hquiet := (g.analysis.first.grow_eq_false_iff r.head _).mp
      (congrArg Prod.snd (g.addFirst_analysis r hr))
    have hrh : p.head = r.head := by
      obtain ⟨body, -, rfl⟩ := List.mem_map.mp hpr
      rfl
    have hpresent := (g.firstSound.present r.head).mpr (Or.inl (hrh ▸ hhead))
    rw [Analysis.firstOf, hrh, g.analysis.first.firstOf_eq_entry r.head hpresent]
    exact hquiet a ((g.firstSound.mem_scanAll r hr a).mpr ⟨ha, p, hp, hpr, h⟩)

theorem mem_firstOf_self (g : Grammar) (t : Symbol) (h : g.isTerminal t = true) :
    t ∈ g.analysis.firstOf t := by
  rw [Analysis.firstOf, g.firstSound.terminal t h]
  exact (OrderedSet.mem_singleton t t).mpr rfl

/-- A string starts with what a symbol behind nullable symbols starts with. -/
theorem mem_firstOfBody_of_split (g : Grammar) (a : Symbol) (ha : a ≠ Symbol.epsilon)
    (before after : Body) (x : Symbol) (hbefore : ∀ y ∈ before, y ∈ g.nullable)
    (hx : a ∈ g.analysis.firstOf x) : a ∈ g.analysis.firstOfBody (before ++ x :: after) :=
  (SymbolSets.mem_firstOfBody_iff _ a ha _).mpr ⟨before, x, after, rfl,
    fun y hy => (g.firstSound.epsilon_mem_firstOf y).mpr (hbefore y hy), hx⟩

theorem epsilon_mem_firstOfBody_iff (g : Grammar) (s : Body) :
    Symbol.epsilon ∈ g.analysis.firstOfBody s ↔ ∀ x ∈ s, x ∈ g.nullable := by
  rw [Analysis.firstOfBody, SymbolSets.epsilon_mem_firstOfBody]
  exact forall₂_congr (fun x _ => g.firstSound.epsilon_mem_firstOf x)

/-- A step of a derivation adds nothing to FIRST. -/
theorem mem_firstOfBody_of_step (g : Grammar) (s t : Body) (h : g.Step s t) (a : Symbol)
    (ha : a ∈ g.analysis.firstOfBody t) : a ∈ g.analysis.firstOfBody s := by
  unfold Analysis.firstOfBody at ha ⊢
  cases h with
  | expand before after p hp =>
    rw [List.append_assoc] at ha
    rw [← List.singleton_append]
    apply SymbolSets.firstOfBody_replace _ before after p.body [p.head] ?_ a ha
    intro b hb
    rw [SymbolSets.firstOfBody_singleton]
    exact g.mem_firstOf_head p hp b hb
  | vanish before after =>
    rw [← List.nil_append after] at ha
    rw [← List.singleton_append]
    apply SymbolSets.firstOfBody_replace _ before after [] [Symbol.epsilon] ?_ a ha
    intro b hb
    rw [SymbolSets.firstOfBody, OrderedSet.mem_singleton] at hb
    subst hb
    apply (g.epsilon_mem_firstOfBody_iff [Symbol.epsilon]).mpr
    simpa using g.epsilon_mem_nullable

theorem mem_firstOfBody_of_derives (g : Grammar) (s u : Body) (a : Symbol)
    (hterm : g.isTerminal a = true) (ha : a ≠ Symbol.epsilon) (h : g.Derives s (a :: u)) :
    a ∈ g.analysis.firstOfBody s := by
  generalize ht : a :: u = t at h
  induction h with
  | refl =>
    subst ht
    exact g.mem_firstOfBody_of_split a ha [] u a (by simp) (g.mem_firstOf_self a hterm)
  | step s t _ first _ ih => exact g.mem_firstOfBody_of_step s t first a (ih ht)

theorem derives_of_mem_firstOfBody (g : Grammar) (s : Body) (a : Symbol)
    (h : a ∈ g.analysis.firstOfBody s) (ha : a ≠ Symbol.epsilon) :
    g.isTerminal a = true ∧ ∃ u, g.Derives s (a :: u) := by
  obtain ⟨hterm, before, x, after, rfl, hbefore, hx⟩ := g.firstSound.mem_firstOfBody s a h ha
  refine ⟨hterm, g.derives_behind_nullable before after x a hbefore ?_⟩
  rcases hx with rfl | hx
  · exact ⟨[], .refl [x]⟩
  · exact hx.derives g a _ x

/-- FIRST is exact, for strings and for symbols. -/
theorem first_exact (g : Grammar) :
    (∀ (s : Body) (a : Symbol), a ≠ Symbol.epsilon →
      (a ∈ g.analysis.firstOfBody s ↔ g.isTerminal a = true ∧ ∃ u, g.Derives s (a :: u))) ∧
    (∀ s : Body, (Symbol.epsilon ∈ g.analysis.firstOfBody s ↔ g.Derives s []) ∧
      (g.Derives s [] ↔ ∀ x ∈ s, g.analysis.isNullable x = true)) ∧
    (∀ head ∈ g.heads, g.analysis.firstOf head = g.analysis.firstOfBody [head]) ∧
    (∀ t, g.isTerminal t = true → g.analysis.firstOf t = OrderedSet.singleton t) := by
  have hnullable (s : Body) :
      g.Derives s [] ↔ ∀ x ∈ s, g.analysis.isNullable x = true := by
    simp only [Analysis.isNullable, decide_eq_true_eq]
    exact g.derives_nil_iff s
  refine ⟨?_, ?_, ?_, g.firstSound.terminal⟩
  · intro s a ha
    constructor
    · intro h
      exact g.derives_of_mem_firstOfBody s a h ha
    · rintro ⟨hterm, u, hu⟩
      exact g.mem_firstOfBody_of_derives s u a hterm ha hu
  · intro s
    refine ⟨?_, hnullable s⟩
    rw [g.epsilon_mem_firstOfBody_iff, g.derives_nil_iff]
  · intro head _
    exact (SymbolSets.firstOfBody_singleton g.analysis.first head).symm

end Grammar

end Predictive
