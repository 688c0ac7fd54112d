import Predictive.Proofs.Analysis.First
/-!
# FOLLOW is exact

FOLLOW of a head holds the terminals that stand right behind it in a string that some head derives,
and the end of the input if the start symbol derives a string that ends in it. Soundness is an
invariant of the passes. Completeness is an invariant of derivations: in every string derived from a
head, what the part behind a head can start with belongs to FOLLOW of that head, and so does FOLLOW
of the first symbol if that part can become empty.
-/
namespace Predictive

namespace Grammar

/-- A symbol stands behind a head in some derived string, or ends the input behind it. -/
def FollowedBy (g : Grammar) (s a : Symbol) : Prop :=
  (a = Symbol.endMarker ∧ ∃ start u, g.start? = some start ∧ g.Derives [start] (u ++ [s])) ∨
    (g.isTerminal a = true ∧ a ≠ Symbol.epsilon ∧
      ∃ head ∈ g.heads, ∃ u v, g.Derives [head] (u ++ s :: a :: v))

private theorem mem_occurrencesIn (g : Grammar) (head : Symbol) (body : Body) (o : Occurrence) :
    o ∈ g.occurrencesIn head body ↔
      o.head = head ∧ o.symbol ∈ g.heads ∧ ∃ before, body = before ++ o.symbol :: o.rest := by
  induction body with
  | nil => simp [occurrencesIn]
  | cons s rest ih =>
    constructor
    · intro h
      rw [occurrencesIn] at h
      split at h
      · obtain ⟨hhead, hsymbol, before, rfl⟩ := ih.mp h
        exact ⟨hhead, hsymbol, s :: before, rfl⟩
      · next hs =>
        rcases List.mem_cons.mp h with rfl | h
        · have hmem : s ∈ g.heads := (g.isTerminal_eq_false_iff s).mp (by simpa using hs)
          exact ⟨rfl, hmem, [], rfl⟩
        · obtain ⟨hhead, hsymbol, before, rfl⟩ := ih.mp h
          exact ⟨hhead, hsymbol, s :: before, rfl⟩
    · rintro ⟨hhead, hsymbol, before, hbody⟩
      rw [occurrencesIn]
      cases before with
      | nil =>
        obtain ⟨rfl, rfl⟩ := List.cons.inj hbody
        rw [if_neg (by simpa [g.isTerminal_iff] using hsymbol)]
        exact List.mem_cons.mpr (Or.inl (by cases o; cases hhead; rfl))
      | cons t before =>
        obtain ⟨rfl, hrest⟩ := List.cons.inj hbody
        have hmem := ih.mpr ⟨hhead, hsymbol, before, hrest⟩
        split
        · exact hmem
        · exact List.mem_cons_of_mem _ hmem

theorem mem_occurrences (g : Grammar) (o : Occurrence) :
    o ∈ g.occurrences ↔ o.symbol ∈ g.heads ∧ ∃ p ∈ g.productions, o.head = p.head ∧
      ∃ before, p.body = before ++ o.symbol :: o.rest := by
  simp only [occurrences, List.mem_flatMap, mem_occurrencesIn]
  constructor
  · rintro ⟨p, hp, hhead, hsymbol, hbody⟩
    exact ⟨hsymbol, p, hp, hhead, hbody⟩
  · rintro ⟨hsymbol, p, hp, hhead, hbody⟩
    exact ⟨p, hp, hhead, hsymbol, hbody⟩

private theorem followedBy_of_rest (g : Grammar) (o : Occurrence) (ho : o ∈ g.occurrences)
    (a : Symbol) (h : a ∈ g.analysis.firstOfBody o.rest) (ha : a ≠ Symbol.epsilon) :
    g.FollowedBy o.symbol a := by
  obtain ⟨-, p, hp, hhead, before, hbody⟩ := (g.mem_occurrences o).mp ho
  obtain ⟨hterm, u, hu⟩ := g.derives_of_mem_firstOfBody o.rest a h ha
  refine Or.inr ⟨hterm, ha, p.head, g.head_mem_heads p hp, before, u, ?_⟩
  have hbegin : g.Derives (before ++ [o.symbol] ++ o.rest) (before ++ [o.symbol] ++ (a :: u)) :=
    (Derives.refl (before ++ [o.symbol])).concat g _ _ _ _ hu
  have hp' := g.derives_body p hp
  rw [hbody] at hp'
  simp only [List.append_assoc, List.singleton_append] at hbegin
  exact hp'.trans g _ _ _ hbegin

/-- A head in a derived string can be replaced by an occurrence in one of its bodies whose rest has
become empty. -/
private theorem derives_occurrence (g : Grammar) (o : Occurrence) (ho : o ∈ g.occurrences)
    (hrest : ∀ x ∈ o.rest, x ∈ g.nullable) (s u v : Body)
    (h : g.Derives s (u ++ o.head :: v)) : ∃ u', g.Derives s (u' ++ o.symbol :: v) := by
  obtain ⟨-, p, hp, hhead, before, hbody⟩ := (g.mem_occurrences o).mp ho
  have hstep : g.Derives (u ++ [p.head] ++ v) (u ++ p.body ++ v) :=
    (g.derives_body p hp).append g _ _ u v
  have hnil : g.Derives o.rest [] := (g.derives_nil_iff o.rest).mpr hrest
  have hvanish : g.Derives (u ++ before ++ [o.symbol] ++ o.rest ++ v)
      (u ++ before ++ [o.symbol] ++ [] ++ v) := hnil.append g _ _ (u ++ before ++ [o.symbol]) v
  rw [hbody] at hstep
  rw [hhead] at h
  simp only [List.append_assoc, List.nil_append, List.cons_append] at hstep hvanish h
  exact ⟨u ++ before, by
    simpa only [List.append_assoc] using (h.trans g _ _ _ hstep).trans g _ _ _ hvanish⟩

private theorem FollowedBy.occurrence (g : Grammar) (o : Occurrence) (ho : o ∈ g.occurrences)
    (a : Symbol) (hrest : ∀ x ∈ o.rest, x ∈ g.nullable) (h : g.FollowedBy o.head a) :
    g.FollowedBy o.symbol a := by
  rcases h with ⟨rfl, start, u, hstart, hu⟩ | ⟨hterm, ha, head, hhead, u, v, huv⟩
  · obtain ⟨u', hu'⟩ := g.derives_occurrence o ho hrest _ u [] hu
    exact Or.inl ⟨rfl, start, u', hstart, hu'⟩
  · obtain ⟨u', hu'⟩ := g.derives_occurrence o ho hrest _ u (a :: v) huv
    exact Or.inr ⟨hterm, ha, head, hhead, u', v, hu'⟩

private theorem mem_followers (first follow : SymbolSets) (o : Occurrence) (a : Symbol) :
    a ∈ followers first follow o ↔ a ∈ first.firstOfBody o.rest ∧ a ≠ Symbol.epsilon ∨
      Symbol.epsilon ∈ first.firstOfBody o.rest ∧ a ∈ follow.entry o.head := by
  unfold followers
  by_cases hnil : Symbol.epsilon ∈ first.firstOfBody o.rest
  · simp [hnil]
  · have hne : a ∈ first.firstOfBody o.rest → a ≠ Symbol.epsilon := by
      rintro h rfl
      exact hnil h
    simp only [hnil, if_false, false_and, or_false]
    exact ⟨fun h => ⟨h, hne h⟩, And.left⟩

/-- What the passes for FOLLOW keep. -/
structure FollowSound (g : Grammar) (sets : SymbolSets) : Prop where
  present : ∀ s, (sets.get? s).isSome = true ↔ s ∈ g.heads
  known : ∀ s, ∀ a ∈ sets.entry s, a ∈ g.bodySymbols ∨ a = Symbol.endMarker
  follows : ∀ s, ∀ a ∈ sets.entry s, g.FollowedBy s a

theorem FollowSound.followers {g : Grammar} {sets : SymbolSets} (hs : g.FollowSound sets)
    (o : Occurrence) (ho : o ∈ g.occurrences) (a : Symbol)
    (ha : a ∈ followers g.analysis.first sets o) :
    (a ∈ g.bodySymbols ∨ a = Symbol.endMarker) ∧ g.FollowedBy o.symbol a := by
  obtain ⟨-, p, hp, -, before, hbody⟩ := (g.mem_occurrences o).mp ho
  rcases (mem_followers g.analysis.first sets o a).mp ha with ⟨hfirst, hne⟩ | ⟨hnil, ha⟩
  · refine ⟨Or.inl ?_, g.followedBy_of_rest o ho a hfirst hne⟩
    obtain ⟨-, left, x, right, hsplit, -, hx⟩ := g.firstSound.mem_firstOfBody o.rest a hfirst hne
    rcases hx with rfl | hx
    · exact g.mem_bodySymbols p hp x (by simp [hbody, hsplit])
    · exact hx.mem_bodySymbols g a _ x
  · exact ⟨hs.known o.head a ha, (hs.follows o.head a ha).occurrence g o ho a
      ((g.epsilon_mem_firstOfBody_iff o.rest).mp hnil)⟩

theorem FollowSound.addFollow {g : Grammar} {sets : SymbolSets} (hs : g.FollowSound sets)
    (o : Occurrence) (ho : o ∈ g.occurrences) :
    g.FollowSound (addFollow g.analysis.first sets o).1 := by
  have hsymbol := ((g.mem_occurrences o).mp ho).1
  refine ⟨?_, ?_, ?_⟩
  · intro s
    rw [Grammar.addFollow, SymbolSets.grow, SymbolSets.get?_enlarge]
    split
    · next h => simp [h, hsymbol]
    · exact hs.present s
  · intro s a ha
    rcases (sets.mem_entry_enlarge o.symbol s a _).mp ha with ha | ⟨-, ha⟩
    · exact hs.known s a ha
    · exact (hs.followers o ho a ha).1
  · intro s a ha
    rcases (sets.mem_entry_enlarge o.symbol s a _).mp ha with hold | ⟨rfl, hmore⟩
    · exact hs.follows s a hold
    · exact (hs.followers o ho a hmore).2

/-- The passes for FOLLOW. -/
def followFilling (g : Grammar) : Filling SymbolSets (Symbol × Symbol) Occurrence :=
  SymbolSets.growing g.occurrences Occurrence.symbol (followers g.analysis.first) g.FollowSound
    g.entryPool (fun _ hs o ho => hs.addFollow o ho)
    (fun _ hs o ho => (hs.present o.symbol).mpr ((g.mem_occurrences o).mp ho).1)
    (fun _ hs o ho a ha => g.mem_entryPool o.symbol a ((g.mem_occurrences o).mp ho).1
      ((hs.followers o ho a ha).1.imp id Or.inr))

private theorem get?_followBlank (g : Grammar) (s : Symbol) :
    (g.heads.foldl (fun sets h => sets.insert h ∅) ∅ : SymbolSets).get? s =
      if s ∈ g.heads then some ∅ else none :=
  OrderedMap.get?_foldl_insert (fun _ => ∅) g.heads ∅ s

private theorem mem_followSeed (g : Grammar) (s a : Symbol) :
    a ∈ g.followSeed.entry s ↔ g.start? = some s ∧ a = Symbol.endMarker := by
  have hblank : ¬a ∈ (g.heads.foldl (fun sets h => sets.insert h ∅) ∅ : SymbolSets).entry s := by
    rw [SymbolSets.entry, get?_followBlank]
    split <;> exact OrderedSet.not_mem_empty a
  unfold followSeed
  cases hstart : g.start? with
  | none => simpa using hblank
  | some start =>
    simp only [SymbolSets.mem_entry_enlarge, OrderedSet.mem_singleton, Option.some.injEq, hblank,
      false_or, eq_comm]

theorem followSound_seed (g : Grammar) : g.FollowSound g.followSeed := by
  refine ⟨?_, ?_, ?_⟩
  · intro s
    unfold followSeed
    cases hstart : g.start? with
    | none =>
      rw [get?_followBlank]
      by_cases hs : s ∈ g.heads <;> simp [hs]
    | some start =>
      have hmem := g.start_mem_heads start hstart
      dsimp only
      rw [SymbolSets.get?_enlarge, get?_followBlank]
      by_cases hs : s = start
      · simp [hs, hmem]
      · by_cases hh : s ∈ g.heads <;> simp [hs, hh]
  · intro s a ha
    exact Or.inr ((g.mem_followSeed s a).mp ha).2
  · intro s a ha
    obtain ⟨hstart, rfl⟩ := (g.mem_followSeed s a).mp ha
    exact Or.inl ⟨rfl, s, [], hstart, .refl [s]⟩

theorem followSound (g : Grammar) : g.FollowSound g.analysis.follow :=
  g.followFilling.inv_stabilise g.passLimit _ g.followSound_seed

theorem mem_heads_of_mem_followOf (g : Grammar) (s a : Symbol) (h : a ∈ g.analysis.followOf s) :
    s ∈ g.heads := by
  apply (g.followSound.present s).mp
  cases hs : g.analysis.follow.get? s with
  | none => simp [Analysis.followOf, SymbolSets.entry, hs] at h
  | some e => rfl

private theorem endMarker_mem_followOf_start (g : Grammar) (start : Symbol)
    (h : g.start? = some start) : Symbol.endMarker ∈ g.analysis.followOf start := by
  have hseed : Symbol.endMarker ∈ g.followSeed.entry start :=
    (g.mem_followSeed start _).mpr ⟨h, rfl⟩
  have hmem := g.followFilling.keeps_stabilise g.passLimit _ g.followSound_seed
    (start, Symbol.endMarker) (decide_eq_true hseed)
  exact of_decide_eq_true hmem

/-- Where the loop for FOLLOW ends, no occurrence adds anything. -/
theorem addFollow_analysis (g : Grammar) (o : Occurrence) (ho : o ∈ g.occurrences) :
    addFollow g.analysis.first g.analysis.follow o = (g.analysis.follow, false) :=
  g.followFilling.step_stabilise g.passLimit g.length_entryPool_lt _ g.followSound_seed o ho

/-- FOLLOW of a symbol holds what its occurrences add. -/
theorem mem_followOf_occurrence (g : Grammar) (o : Occurrence) (ho : o ∈ g.occurrences) (a : Symbol)
    (h : a ∈ g.analysis.firstOfBody o.rest ∧ a ≠ Symbol.epsilon ∨
      Symbol.epsilon ∈ g.analysis.firstOfBody o.rest ∧ a ∈ g.analysis.followOf o.head) :
    a ∈ g.analysis.followOf o.symbol := by
  have hquiet := (g.analysis.follow.grow_eq_false_iff o.symbol _).mp
    (congrArg Prod.snd (g.addFollow_analysis o ho))
  exact hquiet a ((mem_followers g.analysis.first g.analysis.follow o a).mpr h)

/-- Behind every head of a string derived from a head stands only what FOLLOW allows for. -/
def FollowClosed (g : Grammar) (head : Symbol) (w : Body) : Prop :=
  ∀ u s v, w = u ++ s :: v → s ∈ g.heads →
    (∀ a ∈ g.analysis.firstOfBody v, a ≠ Symbol.epsilon → a ∈ g.analysis.followOf s) ∧
      (Symbol.epsilon ∈ g.analysis.firstOfBody v →
        ∀ a ∈ g.analysis.followOf head, a ∈ g.analysis.followOf s)

private theorem followClosed_singleton (g : Grammar) (head : Symbol) :
    g.FollowClosed head [head] := by
  intro u s v hw _
  cases u with
  | nil =>
    obtain ⟨rfl, rfl⟩ := List.cons.inj hw
    refine ⟨?_, fun _ a ha => ha⟩
    intro a ha hne
    exact absurd ((OrderedSet.mem_singleton a _).mp ha) hne
  | cons t u => simp at hw

theorem split_append_eq (s t u v : Body) (x : Symbol) (h : s ++ t = u ++ x :: v) :
    (∃ v', s = u ++ x :: v' ∧ v = v' ++ t) ∨ (∃ u', t = u' ++ x :: v ∧ u = s ++ u') := by
  rcases List.append_eq_append_iff.mp h with ⟨u', hu, ht⟩ | ⟨c, hs, hc⟩
  · exact Or.inr ⟨u', ht, hu⟩
  · cases c with
    | nil => exact Or.inr ⟨[], by simpa using hc.symm, by simpa using hs.symm⟩
    | cons y c =>
      obtain ⟨rfl, hv⟩ := List.cons.inj hc
      exact Or.inl ⟨c, hs, hv⟩

private theorem followClosed_shrink (g : Grammar) (head : Symbol) (u v v' : Body) (s : Symbol)
    (hw : g.FollowClosed head (u ++ s :: v)) (hs : s ∈ g.heads)
    (hsub : ∀ a ∈ g.analysis.firstOfBody v', a ∈ g.analysis.firstOfBody v) :
    (∀ a ∈ g.analysis.firstOfBody v', a ≠ Symbol.epsilon → a ∈ g.analysis.followOf s) ∧
      (Symbol.epsilon ∈ g.analysis.firstOfBody v' →
        ∀ a ∈ g.analysis.followOf head, a ∈ g.analysis.followOf s) := by
  obtain ⟨hfirst, hnil⟩ := hw u s v rfl hs
  exact ⟨fun a ha => hfirst a (hsub a ha), fun h => hnil (hsub _ h)⟩

private theorem followClosed_body (g : Grammar) (head : Symbol) (before after : Body)
    (p : Production) (hp : p ∈ g.productions)
    (hw : g.FollowClosed head (before ++ p.head :: after)) (u v : Body) (s : Symbol)
    (hbody : p.body = u ++ s :: v) (hs : s ∈ g.heads) :
    (∀ a ∈ g.analysis.firstOfBody (v ++ after), a ≠ Symbol.epsilon →
        a ∈ g.analysis.followOf s) ∧
      (Symbol.epsilon ∈ g.analysis.firstOfBody (v ++ after) →
        ∀ a ∈ g.analysis.followOf head, a ∈ g.analysis.followOf s) := by
  obtain ⟨hfirst, hnil⟩ := hw before p.head after rfl (g.head_mem_heads p hp)
  have ho : (⟨p.head, s, v⟩ : Occurrence) ∈ g.occurrences :=
    (g.mem_occurrences _).mpr ⟨hs, p, hp, rfl, u, hbody⟩
  have hinherit (hv : Symbol.epsilon ∈ g.analysis.firstOfBody v) (a : Symbol)
      (ha : a ∈ g.analysis.followOf p.head) : a ∈ g.analysis.followOf s :=
    g.mem_followOf_occurrence _ ho a (Or.inr ⟨hv, ha⟩)
  constructor
  · intro a ha hne
    rcases (SymbolSets.mem_firstOfBody_append _ a hne v after).mp ha with ha | ⟨hv, ha⟩
    · exact g.mem_followOf_occurrence _ ho a (Or.inl ⟨ha, hne⟩)
    · exact hinherit hv a (hfirst a ha hne)
  · intro h a ha
    have hall := (SymbolSets.epsilon_mem_firstOfBody _ (v ++ after)).mp h
    obtain ⟨hv, hafter⟩ := List.forall_mem_append.mp hall
    apply hinherit ((SymbolSets.epsilon_mem_firstOfBody _ v).mpr hv)
    exact hnil ((SymbolSets.epsilon_mem_firstOfBody _ after).mpr hafter) a ha

private theorem followClosed_step (g : Grammar) (head : Symbol) (w w' : Body) (h : g.Step w w')
    (hw : g.FollowClosed head w) : g.FollowClosed head w' := by
  intro u s v heq hs
  cases h with
  | expand before after p hp =>
    rw [List.append_assoc] at heq
    rcases split_append_eq _ _ u v s heq with ⟨v', rfl, rfl⟩ | ⟨u', hright, rfl⟩
    · -- The head stands before the symbol replaced.
      apply g.followClosed_shrink head u (v' ++ p.head :: after) _ s (by simpa using hw) hs
      rw [← List.append_assoc]
      exact g.mem_firstOfBody_of_step _ _ (Step.expand v' after p hp)
    · rcases split_append_eq _ _ u' v s hright with ⟨v', hbody, rfl⟩ | ⟨u'', rfl, rfl⟩
      · exact g.followClosed_body head before after p hp hw u' v' s hbody hs
      · exact hw (before ++ p.head :: u'') s v (by simp) hs
  | vanish before after =>
    rcases split_append_eq _ _ u v s heq with ⟨v', rfl, rfl⟩ | ⟨u', rfl, rfl⟩
    · apply g.followClosed_shrink head u (v' ++ Symbol.epsilon :: after) _ s (by simpa using hw) hs
      exact g.mem_firstOfBody_of_step _ _ (Step.vanish v' after)
    · exact hw (before ++ Symbol.epsilon :: u') s v (by simp) hs

private theorem followClosed_of_derives (g : Grammar) (head : Symbol) (w w' : Body)
    (h : g.Derives w w') (hw : g.FollowClosed head w) : g.FollowClosed head w' := by
  induction h with
  | refl => exact hw
  | step s t _ first _ ih => exact ih (g.followClosed_step head s t first hw)

theorem mem_followOf_of_derives (g : Grammar) (head s a : Symbol) (u v : Body) (hs : s ∈ g.heads)
    (hterm : g.isTerminal a = true) (ha : a ≠ Symbol.epsilon)
    (h : g.Derives [head] (u ++ s :: a :: v)) : a ∈ g.analysis.followOf s := by
  have hclosed := g.followClosed_of_derives head _ _ h (g.followClosed_singleton head)
  apply (hclosed u s (a :: v) rfl hs).1 a ?_ ha
  exact g.mem_firstOfBody_of_derives (a :: v) v a hterm ha (.refl (a :: v))

theorem endMarker_mem_followOf_of_derives (g : Grammar) (start s : Symbol) (u : Body)
    (hs : s ∈ g.heads) (hstart : g.start? = some start) (h : g.Derives [start] (u ++ [s])) :
    Symbol.endMarker ∈ g.analysis.followOf s := by
  have hclosed := g.followClosed_of_derives start _ _ h (g.followClosed_singleton start)
  apply (hclosed u s [] rfl hs).2 ?_ _ (g.endMarker_mem_followOf_start start hstart)
  exact (OrderedSet.mem_singleton _ _).mpr rfl

theorem epsilon_not_mem_followOf (g : Grammar) (s : Symbol) :
    ¬Symbol.epsilon ∈ g.analysis.followOf s := by
  intro h
  rcases g.followSound.follows s _ h with ⟨hend, -⟩ | ⟨-, hne, -⟩
  · exact absurd hend (by decide)
  · exact hne rfl

/-- FOLLOW is exact. -/
theorem follow_exact (g : Grammar) :
    (∀ s ∈ g.heads,
      (∀ a, a ≠ Symbol.endMarker →
        (a ∈ g.analysis.followOf s ↔ g.isTerminal a = true ∧ a ≠ Symbol.epsilon ∧
          ∃ head ∈ g.heads, ∃ u v, g.Derives [head] (u ++ s :: a :: v))) ∧
      (Symbol.endMarker ∈ g.analysis.followOf s ↔
        (∃ start u, g.start? = some start ∧ g.Derives [start] (u ++ [s])) ∨
          (g.isTerminal Symbol.endMarker = true ∧
            ∃ head ∈ g.heads, ∃ u v, g.Derives [head] (u ++ s :: Symbol.endMarker :: v)))) ∧
    (∀ s, ¬Symbol.epsilon ∈ g.analysis.followOf s) ∧
    (∀ s, s ∉ g.heads → g.analysis.followOf s = ∅) := by
  have hend : Symbol.endMarker ≠ Symbol.epsilon := by decide
  refine ⟨fun s hs => ⟨fun a ha => ⟨?_, ?_⟩, ⟨?_, ?_⟩⟩, g.epsilon_not_mem_followOf, ?_⟩
  · intro h
    rcases g.followSound.follows s a h with ⟨rfl, -⟩ | hfollows
    · exact absurd rfl ha
    · exact hfollows
  · rintro ⟨hterm, hne, head, -, u, v, h⟩
    exact g.mem_followOf_of_derives head s a u v hs hterm hne h
  · intro h
    rcases g.followSound.follows s _ h with ⟨-, hstart⟩ | ⟨hterm, -, hfollows⟩
    · exact Or.inl hstart
    · exact Or.inr ⟨hterm, hfollows⟩
  · rintro (⟨start, u, hstart, h⟩ | ⟨hterm, head, -, u, v, h⟩)
    · exact g.endMarker_mem_followOf_of_derives start s u hs hstart h
    · exact g.mem_followOf_of_derives head s _ u v hs hterm hend h
  · intro s hs
    have hnone : g.analysis.follow.get? s = none := by
      rw [← Option.not_isSome_iff_eq_none, g.followSound.present s]
      exact hs
    rw [Analysis.followOf, SymbolSets.entry, hnone]
    rfl

end Grammar

end Predictive
