import Predictive.Proofs.Analysis.Follow
/-!
# The loops of the analysis

The three loops of the analysis end without any limit, in states that one more pass would leave
alone. The passes for FIRST and FOLLOW look entries up by index. At every point of every pass each
symbol of a body has a FIRST entry and each head has a FOLLOW entry, so a step whose look-ups fail
at a missing entry does the same as one that reads a missing entry as the empty set.
-/
namespace Predictive

namespace SymbolSets

/-- The scan of a body that fails at a symbol without an entry. -/
def strictScan (first : SymbolSets) : Body → Option SymbolSet
  | [] => some ∅
  | s :: rest =>
    match first.get? s with
    | none => none
    | some here =>
      if Symbol.epsilon ∈ here then
        (first.strictScan rest).map (fun found => here.erase Symbol.epsilon ∪ found)
      else some (here.erase Symbol.epsilon)

def strictScanAll (first : SymbolSets) (bodies : List Body) : Option SymbolSet :=
  bodies.foldlM (fun found body => (first.strictScan body).map (fun more => found ∪ more)) ∅

private theorem get?_of_mem_keys (sets : SymbolSets) (s : Symbol) (h : s ∈ sets.keys) :
    sets.get? s = some (sets.entry s) := by
  obtain ⟨e, he⟩ := Option.isSome_iff_exists.mp ((sets.mem_keys_iff s).mp h)
  simp [entry, he]

private theorem strictScan_eq (first : SymbolSets) (body : Body) (h : body ⊆ first.keys) :
    first.strictScan body = some (first.scan body) := by
  induction body with
  | nil => rfl
  | cons s rest ih =>
    obtain ⟨hs, hrest⟩ := List.cons_subset.mp h
    simp only [strictScan, scan, first.get?_of_mem_keys s hs, ih hrest]
    split <;> rfl

private theorem strictScanAll_eq (first : SymbolSets) (bodies : List Body)
    (h : ∀ body ∈ bodies, body ⊆ first.keys) :
    first.strictScanAll bodies = some (first.scanAll bodies) := by
  unfold strictScanAll scanAll
  generalize (∅ : SymbolSet) = found
  induction bodies generalizing found with
  | nil => rfl
  | cons body bodies ih =>
    obtain ⟨hbody, hbodies⟩ := List.forall_mem_cons.mp h
    rw [List.foldlM_cons, first.strictScan_eq body hbody, List.foldl_cons]
    exact ih hbodies (found ∪ first.scan body)

end SymbolSets

namespace Grammar

/-- The step for FIRST with look-ups that fail at a missing entry. -/
def strictAddFirst (first : SymbolSets) (r : Rule) : Option (SymbolSets × Bool) :=
  (first.strictScanAll r.alternatives).map (first.grow r.head)

/-- The step for FOLLOW with a look-up that fails if the head of the production has no entry. -/
def strictAddFollow (first follow : SymbolSets) (o : Occurrence) : Option (SymbolSets × Bool) :=
  let next := first.firstOfBody o.rest
  if Symbol.epsilon ∈ next then
    (follow.get? o.head).map (fun inherited =>
      follow.grow o.symbol (next.erase Symbol.epsilon ∪ inherited))
  else some (follow.grow o.symbol next)

private theorem strictAddFirst_eq (g : Grammar) (sets : SymbolSets) (h : g.bodySymbols ⊆ sets.keys)
    (r : Rule) (hr : r ∈ g.rules) : strictAddFirst sets r = some (addFirst sets r) := by
  have hbodies : ∀ body ∈ r.alternatives, body ⊆ sets.keys := by
    intro body hbody x hx
    have hp : (⟨r.head, body⟩ : Production) ∈ g.productions :=
      List.mem_flatMap.mpr ⟨r, hr, List.mem_map.mpr ⟨body, hbody, rfl⟩⟩
    exact h (g.mem_bodySymbols _ hp x hx)
  rw [strictAddFirst, sets.strictScanAll_eq r.alternatives hbodies]
  rfl

private theorem strictAddFollow_eq (g : Grammar) (first follow : SymbolSets)
    (h : g.heads ⊆ follow.keys) (o : Occurrence) (ho : o ∈ g.occurrences) :
    strictAddFollow first follow o = some (addFollow first follow o) := by
  obtain ⟨-, p, hp, hhead, -⟩ := (g.mem_occurrences o).mp ho
  have hkey : o.head ∈ follow.keys := hhead ▸ h (g.head_mem_heads p hp)
  simp only [strictAddFollow, addFollow, followers, follow.get?_of_mem_keys o.head hkey]
  split <;> rfl

private theorem FirstSound.mem_keys {g : Grammar} {sets : SymbolSets} (hs : g.FirstSound sets)
    (s : Symbol) : s ∈ sets.keys ↔ s ∈ g.heads ∨ s ∈ g.bodySymbols ∧ g.isTerminal s = true := by
  rw [sets.mem_keys_iff, hs.present, g.isTerminal_iff]
  by_cases h : s ∈ g.heads <;> simp [h]

private theorem FollowSound.mem_keys {g : Grammar} {sets : SymbolSets} (hs : g.FollowSound sets)
    (s : Symbol) : s ∈ sets.keys ↔ s ∈ g.heads := by
  rw [sets.mem_keys_iff, hs.present]

/-- The state of the loop for FIRST after some passes and some rules of the next one. -/
def firstPoint (g : Grammar) (passes items : Nat) : SymbolSets :=
  midPass addFirst g.rules items passes (g.firstSeed g.analysis.nullable)

/-- The state of the loop for FOLLOW after some passes and some occurrences of the next one. -/
def followPoint (g : Grammar) (passes items : Nat) : SymbolSets :=
  midPass (addFollow g.analysis.first) g.occurrences items passes g.followSeed

private theorem firstSound_firstPoint (g : Grammar) (passes items : Nat) :
    g.FirstSound (g.firstPoint passes items) :=
  g.firstFilling.inv_midPass items passes _ g.firstSound_seed

private theorem followSound_followPoint (g : Grammar) (passes items : Nat) :
    g.FollowSound (g.followPoint passes items) :=
  g.followFilling.inv_midPass items passes _ g.followSound_seed

private theorem bodySymbols_subset_keys_firstPoint (g : Grammar) (passes items : Nat) :
    g.bodySymbols ⊆ (g.firstPoint passes items).keys := by
  intro s hs
  have hsound := g.firstSound_firstPoint passes items
  exact ((g.firstPoint passes items).mem_keys_iff s).mpr ((hsound.present s).mpr (Or.inr hs))

private theorem heads_subset_keys_followPoint (g : Grammar) (passes items : Nat) :
    g.heads ⊆ (g.followPoint passes items).keys :=
  fun s hs => ((g.followSound_followPoint passes items).mem_keys s).mpr hs

private theorem first_settles (g : Grammar) :
    Settles g.firstPass (g.firstSeed g.analysis.nullable) g.passLimit g.analysis.first :=
  g.firstFilling.settles g.passLimit g.length_entryPool_lt _ g.firstSound_seed

private theorem follow_settles (g : Grammar) :
    Settles (g.followPass g.analysis.first) g.followSeed g.passLimit g.analysis.follow :=
  g.followFilling.settles g.passLimit g.length_entryPool_lt _ g.followSound_seed

/-- No production, no rule and no occurrence adds anything to the sets, whatever the passes are made
of. -/
structure AtRest (g : Grammar) (a : Analysis) : Prop where
  settle : ∀ p ∈ g.productions, ∀ pending, ∃ rest,
    settle ⟨a.nullable, pending⟩ p = (⟨a.nullable, rest⟩, false)
  addFirst : ∀ r ∈ g.rules, addFirst a.first r = (a.first, false)
  addFollow : ∀ o ∈ g.occurrences, addFollow a.first a.follow o = (a.follow, false)

/-- The sets hold all that the productions demand of them. -/
structure Closed (g : Grammar) (a : Analysis) : Prop where
  nullable : ∀ p ∈ g.productions, (∀ x ∈ p.body, x ∈ a.nullable) → p.head ∈ a.nullable
  first : ∀ p ∈ g.productions, ∀ x ∈ a.firstOfBody p.body, x ∈ a.firstOf p.head
  follow : ∀ p ∈ g.productions, ∀ before s rest, p.body = before ++ s :: rest → s ∈ g.heads →
    (∀ x ∈ a.firstOfBody rest, x ≠ Symbol.epsilon → x ∈ a.followOf s) ∧
      (Symbol.epsilon ∈ a.firstOfBody rest → ∀ x ∈ a.followOf p.head, x ∈ a.followOf s)

private theorem atRest_analysis (g : Grammar) : g.AtRest g.analysis where
  settle := g.settle_nullable
  addFirst := g.addFirst_analysis
  addFollow := g.addFollow_analysis

private theorem closed_analysis (g : Grammar) : g.Closed g.analysis where
  nullable := g.head_mem_nullable
  first := g.mem_firstOf_head
  follow := by
    intro p hp before s rest hbody hs
    have ho : ⟨p.head, s, rest⟩ ∈ g.occurrences :=
      (g.mem_occurrences _).mpr ⟨hs, p, hp, rfl, before, hbody⟩
    constructor
    · exact fun x hx hne => g.mem_followOf_occurrence _ ho x (Or.inl ⟨hx, hne⟩)
    · exact fun hnil x hx => g.mem_followOf_occurrence _ ho x (Or.inr ⟨hnil, hx⟩)

/-- The loops of the analysis end in fixed points and never miss an entry that they look up. -/
theorem analysis_settles (g : Grammar) :
    (∃ pending, Settles nullablePass ⟨OrderedSet.singleton Symbol.epsilon, g.productions⟩
      (g.heads.length + 1) ⟨g.analysis.nullable, pending⟩) ∧
    (∃ rest, nullablePass ⟨g.analysis.nullable, g.productions⟩ =
      (⟨g.analysis.nullable, rest⟩, false)) ∧
    Settles g.firstPass (g.firstSeed g.analysis.nullable) g.passLimit g.analysis.first ∧
    Settles (g.followPass g.analysis.first) g.followSeed g.passLimit g.analysis.follow ∧
    g.AtRest g.analysis ∧ g.Closed g.analysis ∧
    (∀ passes items, g.bodySymbols ⊆ (g.firstPoint passes items).keys ∧
      ∀ r ∈ g.rules, strictAddFirst (g.firstPoint passes items) r =
        some (addFirst (g.firstPoint passes items) r)) ∧
    (∀ passes items, g.heads ⊆ (g.followPoint passes items).keys ∧
      ∀ o ∈ g.occurrences, strictAddFollow g.analysis.first (g.followPoint passes items) o =
        some (addFollow g.analysis.first (g.followPoint passes items) o)) ∧
    (∀ s, s ∈ g.analysis.first.keys ↔
      s ∈ g.heads ∨ s ∈ g.bodySymbols ∧ g.isTerminal s = true) ∧
    (∀ s, s ∈ g.analysis.follow.keys ↔ s ∈ g.heads) := by
  refine ⟨g.nullable_settles, ⟨_, g.nullablePass_productions⟩, g.first_settles, g.follow_settles,
    g.atRest_analysis, g.closed_analysis, ?_, ?_, g.firstSound.mem_keys, g.followSound.mem_keys⟩
  · intro passes items
    have hkeys := g.bodySymbols_subset_keys_firstPoint passes items
    exact ⟨hkeys, g.strictAddFirst_eq _ hkeys⟩
  · intro passes items
    have hkeys := g.heads_subset_keys_followPoint passes items
    exact ⟨hkeys, g.strictAddFollow_eq _ _ hkeys⟩

/-- A cycle, left recursion, two ways to read one text, a head without alternatives, and both
reserved labels as heads. -/
def tangled : Grammar := Grammar.ofRules
  [(⟨"S"⟩, [[⟨"S"⟩, ⟨"S"⟩], [⟨"A"⟩, ⟨"x"⟩], [Symbol.epsilon]]), (⟨"A"⟩, [[⟨"B"⟩]]),
    (⟨"B"⟩, [[⟨"A"⟩], [Symbol.endMarker, ⟨"b"⟩]]), (Symbol.epsilon, []),
    (Symbol.endMarker, [[Symbol.epsilon]])]

theorem analysis_settles_tangled :
    (∃ n ≤ 61, Loop tangled.firstPass (tangled.firstSeed tangled.analysis.nullable) n
      tangled.analysis.first) ∧
    ⟨⟨"A"⟩, [[⟨"B"⟩]]⟩ ∈ tangled.rules ∧
    addFirst tangled.analysis.first ⟨⟨"A"⟩, [[⟨"B"⟩]]⟩ = (tangled.analysis.first, false) ∧
    strictAddFirst (tangled.firstPoint 1 2) ⟨⟨"A"⟩, [[⟨"B"⟩]]⟩ =
      some (addFirst (tangled.firstPoint 1 2) ⟨⟨"A"⟩, [[⟨"B"⟩]]⟩) ∧
    tangled.occurrences.length = 8 ∧ tangled.Closed tangled.analysis ∧
    Symbol.epsilon ∈ (tangled.followPoint 1 3).keys := by
  obtain ⟨-, -, hfirst, -, hrest, hclosed, hfirstPoints, hfollowPoints, -⟩ :=
    analysis_settles tangled
  have hlimit : tangled.passLimit ≤ 61 := by decide +kernel
  have hrule : ⟨⟨"A"⟩, [[⟨"B"⟩]]⟩ ∈ tangled.rules := by decide +kernel
  have hoccurrences : tangled.occurrences.length = 8 := by decide +kernel
  have hhead : Symbol.epsilon ∈ tangled.heads := by decide +kernel
  obtain ⟨n, hn, hloop⟩ := hfirst.ends
  exact ⟨⟨n, Nat.le_trans hn hlimit, hloop⟩, hrule, hrest.addFirst _ hrule,
    (hfirstPoints 1 2).2 _ hrule, hoccurrences, hclosed, (hfollowPoints 1 3).1 hhead⟩

end Grammar

end Predictive
