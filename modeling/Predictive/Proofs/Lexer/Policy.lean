import Predictive.Proofs.Lexer.Partition
/-!
# The two policies

The policy has no say in how the input is cut, only in what becomes of a character at which no token
starts. So two runs that differ in the policy go together up to the first such character, where the
one ends and the other goes on.
-/
namespace Predictive

namespace Text

theorem utf8Size_toList (s : String) : utf8Size s.toList = s.utf8ByteSize := by
  rw [← utf8ByteSize_ofList, String.ofList_toList]

end Text

namespace Piece

/-- The tokens among the pieces, each with the byte offset of its text if the pieces begin at the
given one. -/
def found (offset : Nat) : List Piece → List (Nat × Token)
  | [] => []
  | p :: ps => p.token?.toList.map (fun t => (offset, t)) ++ found (offset + Text.utf8Size p.text) ps

theorem found_append (offset : Nat) (first last : List Piece) :
    found offset (first ++ last) =
      found offset first ++ found (offset + Text.utf8Size (first.flatMap text)) last := by
  induction first generalizing offset with
  | nil => rfl
  | cons p first ih =>
    rw [List.cons_append, found, ih, found, List.append_assoc, List.flatMap_cons,
      Text.utf8Size_append, Nat.add_assoc]

theorem map_snd_found (offset : Nat) (ps : List Piece) :
    (found offset ps).map Prod.snd = ps.filterMap token? := by
  induction ps generalizing offset with
  | nil => rfl
  | cons p ps ih =>
    rw [found, List.map_append, ih, List.filterMap_cons]
    cases p.token? <;> rfl

private theorem eq_token_of_token? (p : Piece) (t : Token) (h : p.token? = some t) :
    p = .token t := by
  cases p <;> simp_all [token?]

theorem split_of_mem_found (offset : Nat) (ps : List Piece) (e : Nat × Token)
    (he : e ∈ found offset ps) : ∃ first last, ps = first ++ .token e.2 :: last ∧
      e.1 = offset + Text.utf8Size (first.flatMap text) := by
  induction ps generalizing offset with
  | nil => simp [found] at he
  | cons p ps ih =>
    rcases List.mem_append.mp he with hhere | hlater
    · obtain ⟨t, ht, rfl⟩ := List.mem_map.mp hhere
      rw [Option.mem_toList] at ht
      exact ⟨[], ps, by rw [p.eq_token_of_token? t ht]; rfl, rfl⟩
    · obtain ⟨first, last, rfl, hoffset⟩ := ih _ hlater
      refine ⟨p :: first, last, rfl, ?_⟩
      rw [hoffset, List.flatMap_cons, Text.utf8Size_append, Nat.add_assoc]

private theorem bounds_of_mem_found (offset : Nat) (ps : List Piece) (e : Nat × Token)
    (he : e ∈ found offset ps) : offset ≤ e.1 ∧
      e.1 + (e.2.lexeme.getD "").utf8ByteSize ≤ offset + Text.utf8Size (ps.flatMap text) := by
  obtain ⟨first, last, rfl, hoffset⟩ := split_of_mem_found offset ps e he
  rw [hoffset, ← Text.utf8Size_toList]
  simp only [List.flatMap_append, List.flatMap_cons, Text.utf8Size_append, text]
  omega

/-- The tokens whose text lies before a stray character are those of the pieces in front of it. -/
private theorem filter_found (offset : Nat) (first last : List Piece) (u : Stray)
    (hu : u.offset = offset + Text.utf8Size (first.flatMap text)) :
    (found offset (first ++ stray u :: last)).filter
        (fun e => e.1 + (e.2.lexeme.getD "").utf8ByteSize ≤ u.offset) = found offset first := by
  have hbefore : ∀ e ∈ found offset first,
      e.1 + (e.2.lexeme.getD "").utf8ByteSize ≤ u.offset :=
    fun e he => hu ▸ (bounds_of_mem_found offset first e he).2
  have hbehind : ∀ e ∈ found u.offset (stray u :: last), u.offset < e.1 := by
    intro e he
    have hlow := (bounds_of_mem_found (u.offset + Text.utf8Size [u.character]) last e he).1
    have hpos := u.character.utf8Size_pos
    simp only [Text.utf8Size] at hlow
    omega
  rw [found_append, ← hu, List.filter_append, List.filter_eq_self.mpr (by simpa using hbefore),
    List.filter_eq_nil_iff.mpr, List.append_nil]
  intro e he
  have hlate := hbehind e he
  simp only [decide_eq_true_eq]
  omega

private theorem strayless_or_first (ps : List Piece) : ps.filterMap stray? = [] ∨
    ∃ first u last, ps = first ++ stray u :: last ∧ first.filterMap stray? = [] := by
  induction ps with
  | nil => exact Or.inl rfl
  | cons p ps ih =>
    cases p with
    | stray u => exact Or.inr ⟨[], u, ps, rfl, rfl⟩
    | ignored | token | splitCharacter =>
      rcases ih with hnone | ⟨first, u, last, rfl, hfirst⟩
      · exact Or.inl (by simpa [stray?] using hnone)
      · exact Or.inr ⟨_ :: first, u, last, rfl, by simpa [stray?] using hfirst⟩

end Piece

namespace Lexer

/-- The tokens of the input, each with the byte offset at which it is found. -/
def found (l : Lexer) (input : Text) : List (Nat × Token) :=
  Piece.found 0 (pieces l.ignored l.rules input.length 0 input)

private theorem consume_append (l : Lexer) (first rest : List Piece)
    (hstray : first.filterMap Piece.stray? = [])
    (hwhole : ∀ p ∈ first, ∀ offset, p ≠ .splitCharacter offset) : l.consume (first ++ rest) =
      { l with pending := l.pending ++ first.filterMap Piece.token? }.consume rest := by
  induction first generalizing l with
  | nil => simp
  | cons p first ih =>
    obtain ⟨hp, hfirst⟩ := List.forall_mem_cons.mp hwhole
    cases p with
    | ignored c => exact ih l hstray hfirst
    | token t =>
      rw [List.cons_append, consume, ih _ hstray hfirst]
      simp [Piece.token?]
    | stray u => simp [Piece.stray?] at hstray
    | splitCharacter offset => exact absurd rfl (hp offset)

private theorem consume_abort (l : Lexer) (hpolicy : l.policy = .abort) (first last : List Piece)
    (u : Stray) (hstray : first.filterMap Piece.stray? = [])
    (hwhole : ∀ p ∈ first, ∀ offset, p ≠ .splitCharacter offset) :
    l.consume (first ++ .stray u :: last) =
      ({ l with pending := l.pending ++ first.filterMap Piece.token? }, .error (.stray u)) := by
  rw [l.consume_append first _ hstray hwhole, consume, hpolicy]

theorem whole_and_offset_of_pieces (l : Lexer) (input : Text) (ps : List Piece)
    (hplace : MatchesInPlace l.rules input)
    (hps : pieces l.ignored l.rules input.length 0 input = ps) :
    ps.flatMap Piece.text = input ∧ (∀ p ∈ ps, ∀ offset, p ≠ .splitCharacter offset) ∧
      ∀ first u last, ps = first ++ .stray u :: last →
        u.offset = Text.utf8Size (first.flatMap Piece.text) := by
  obtain ⟨htext, hfit⟩ := l.pieces_partition input.length [] input (Nat.le_refl _) hplace
  rw [Text.utf8Size, hps] at htext hfit
  refine ⟨htext, ?_, ?_⟩
  · intro p hp
    obtain ⟨first, last, hsplit⟩ := List.append_of_mem hp
    exact (hfit first p last hsplit).whole
  · intro first u last hsplit
    exact (((hfit first (.stray u) last hsplit).stray u).mp rfl).1

/-- Two runs from one state that differ in the policy alone. A lexer that skips goes through the
whole input. One that aborts does the same if there is nothing to skip, and otherwise it stops at the
first character that would be skipped, with exactly the tokens pending that lie before it. -/
theorem scan_policies (l : Lexer) (input : Text) (hplace : MatchesInPlace l.rules input) :
    (∀ e ∈ l.found input, ∃ before after,
      input = before ++ ((e.2.lexeme.getD "").toList ++ after) ∧ e.1 = Text.utf8Size before) ∧
    ∃ strays : List Stray,
      (l.setPolicy .skip).scan input = ({ l with
        policy := .skip
        pending := l.pending ++ (l.found input).map Prod.snd
        skipped := l.skipped ++ strays }, .ok ()) ∧
      (((l.setPolicy .abort).scan input).2 = .ok () ↔ strays = []) ∧
      (strays = [] → ((l.setPolicy .abort).scan input).1 =
        { ((l.setPolicy .skip).scan input).1 with policy := .abort }) ∧
      ∀ u later, strays = u :: later → (l.setPolicy .abort).scan input = ({ l with
        policy := .abort
        pending := l.pending ++ ((l.found input).filter
          (fun e => e.1 + (e.2.lexeme.getD "").utf8ByteSize ≤ u.offset)).map Prod.snd },
        .error (.stray u)) := by
  obtain ⟨ps, hps⟩ : ∃ ps, pieces l.ignored l.rules input.length 0 input = ps := ⟨_, rfl⟩
  obtain ⟨htext, hwhole, hoffset⟩ := l.whole_and_offset_of_pieces input ps hplace hps
  have hfound : l.found input = Piece.found 0 ps := congrArg (Piece.found 0) hps
  have hscan (policy : Policy) :
      (l.setPolicy policy).scan input = (l.setPolicy policy).consume ps :=
    congrArg (l.setPolicy policy).consume hps
  have hskip := (l.setPolicy .skip).consume_skip rfl ps hwhole
  rw [hscan, hscan, hfound, hskip]
  refine ⟨?_, ps.filterMap Piece.stray?, ?_, ?_⟩
  · intro e he
    obtain ⟨first, last, rfl, hplaced⟩ := Piece.split_of_mem_found 0 ps e he
    refine ⟨first.flatMap Piece.text, last.flatMap Piece.text, ?_, by simpa using hplaced⟩
    rw [← htext, List.flatMap_append, List.flatMap_cons]
    rfl
  · rw [Piece.map_snd_found]
    rfl
  · rcases Piece.strayless_or_first ps with hnone | ⟨first, u, last, rfl, hfirst⟩
    · have habort := (l.setPolicy .abort).consume_append ps [] hnone hwhole
      rw [List.append_nil] at habort
      rw [habort, hnone]
      simp [consume, setPolicy]
    · have hbefore : ∀ p ∈ first, ∀ offset, p ≠ .splitCharacter offset :=
        fun p hp => hwhole p (List.mem_append_left _ hp)
      have hstrays : (first ++ Piece.stray u :: last).filterMap Piece.stray? =
          u :: last.filterMap Piece.stray? := by
        rw [List.filterMap_append, hfirst]
        rfl
      have hplaced := hoffset first u last rfl
      rw [(l.setPolicy .abort).consume_abort rfl first last u hfirst hbefore, hstrays]
      refine ⟨by simp, by simp, ?_⟩
      intro v later hfront
      obtain rfl := (List.cons.inj hfront).1
      rw [Piece.filter_found 0 first last u (by simpa using hplaced), Piece.map_snd_found]
      rfl

/-- One token pending and one character recorded from an earlier input. -/
def usedLexer : Lexer :=
  { wordLexer with pending := [Token.ofLabel "in"], skipped := [⟨0, '?'⟩] }

theorem scan_policies_words : MatchesInPlace usedLexer.rules "in é into!→".toList ∧
    usedLexer.found "in é into!→".toList =
      [(0, Token.ofLabel "in"), (6, ⟨⟨"word"⟩, some "into"⟩), (11, ⟨⟨"arrow"⟩, some "→"⟩)] ∧
    ((usedLexer.setPolicy .skip).scan "in é into!→".toList).1.skipped =
      [⟨0, '?'⟩, ⟨3, 'é'⟩, ⟨10, '!'⟩] ∧
    (usedLexer.setPolicy .abort).scan "in é into!→".toList = ({ usedLexer with
      policy := .abort
      pending := [Token.ofLabel "in", Token.ofLabel "in"] }, .error (.stray ⟨3, 'é'⟩)) := by
  have hplace : MatchesInPlace usedLexer.rules "in é into!→".toList := by decide +kernel
  obtain ⟨hfound, hskipped⟩ : usedLexer.found "in é into!→".toList =
      [(0, Token.ofLabel "in"), (6, ⟨⟨"word"⟩, some "into"⟩), (11, ⟨⟨"arrow"⟩, some "→"⟩)] ∧
      ((usedLexer.setPolicy .skip).scan "in é into!→".toList).1.skipped =
        [⟨0, '?'⟩, ⟨3, 'é'⟩, ⟨10, '!'⟩] := by decide +kernel
  obtain ⟨-, strays, hskip, -, -, habort⟩ := scan_policies usedLexer _ hplace
  rw [hskip] at hskipped
  have hstrays : strays = [⟨3, 'é'⟩, ⟨10, '!'⟩] := (List.cons.inj hskipped).2
  refine ⟨hplace, hfound, by rw [hskip, hstrays]; rfl, ?_⟩
  rw [habort ⟨3, 'é'⟩ [⟨10, '!'⟩] hstrays, hfound]
  rfl

end Lexer

end Predictive
