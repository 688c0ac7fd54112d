import Predictive.Proofs.Lexer.Policy
import Predictive.Proofs.Regex.Library
/-!
# Tokens at the place of the search

A pattern is tied to the place of the search by the text that is written around it. This works for
every pattern that is well formed on its own, and not for a pattern with a parenthesis that closes
what is written in front of it.
-/
namespace Predictive

namespace Lexer

private theorem SelfContained.matchesInPlace (lib : PatternLibrary) (isWord : Char → Bool)
    (hlib : lib.Documented isWord) (l : Lexer) (h : l.SelfContained lib) (input : Text) :
    MatchesInPlace l.rules input := by
  intro r hr rest _ m hm
  have hbefore := r.before_eq_nil_of_selfContained lib isWord hlib (h r hr) rest m hm
  obtain ⟨pattern, -, hfind⟩ := h r hr
  obtain ⟨after, htext⟩ := hlib.within _ r.find hfind rest m hm
  rw [hbefore] at htext
  exact ⟨hbefore, after, htext.symm⟩

/-- The lexer takes over pieces up to the one that ends its work, if there is one. -/
theorem consume_taken (l : Lexer) (ps : List Piece) : ∃ taken rest, ps = taken ++ rest ∧
    (l.consume ps).1 = { l with
      pending := l.pending ++ taken.filterMap Piece.token?
      skipped := l.skipped ++ taken.filterMap Piece.stray? } ∧
    (((l.consume ps).2 = .ok () ∧ rest = []) ∨
      (∃ u later, (l.consume ps).2 = .error (.stray u) ∧ rest = .stray u :: later ∧
        l.policy = .abort) ∨
      ∃ offset later, (l.consume ps).2 = .error (.splitCharacter offset) ∧
        rest = .splitCharacter offset :: later) := by
  induction ps generalizing l with
  | nil => exact ⟨[], [], rfl, by simp [consume], Or.inl ⟨rfl, rfl⟩⟩
  | cons p ps ih =>
    cases p with
    | ignored c =>
      obtain ⟨taken, rest, rfl, hstate, hend⟩ := ih l
      exact ⟨.ignored c :: taken, rest, rfl, hstate, hend⟩
    | token t =>
      obtain ⟨taken, rest, rfl, hstate, hend⟩ := ih { l with pending := l.pending ++ [t] }
      refine ⟨.token t :: taken, rest, rfl, ?_, hend⟩
      rw [consume, hstate]
      simp [List.filterMap_cons, Piece.token?, Piece.stray?]
    | splitCharacter offset =>
      exact ⟨[], _, rfl, by simp [consume], Or.inr (Or.inr ⟨offset, ps, rfl, rfl⟩)⟩
    | stray u =>
      obtain ⟨ignored, rules, policy, pending, skipped⟩ := l
      cases policy with
      | abort => exact ⟨[], _, rfl, by simp [consume], Or.inr (Or.inl ⟨u, ps, rfl, rfl, rfl⟩)⟩
      | skip =>
        obtain ⟨taken, rest, rfl, hstate, hend⟩ :=
          ih ⟨ignored, rules, .skip, pending, skipped ++ [u]⟩
        refine ⟨.stray u :: taken, rest, rfl, ?_, hend⟩
        rw [consume]
        dsimp only
        rw [hstate]
        simp [List.filterMap_cons, Piece.token?, Piece.stray?]

/-- If all patterns are keywords or well formed on their own, then the pieces that the lexer takes
over lie side by side from the start of the input on, so that the lexeme of a token is the text at
the place where the token is found. Nothing is left out between them: what is no token is an ignored
character or a character at which no token starts. At the end all of the input is taken, or the lexer
aborts at a character of the last kind. -/
theorem scan_in_place (lib : PatternLibrary) (isWord : Char → Bool) (hlib : lib.Documented isWord)
    (l : Lexer) (h : l.SelfContained lib) (input : Text) :
    ∃ ps rest, input = ps.flatMap Piece.text ++ rest ∧
      (l.scan input).1 = { l with
        pending := l.pending ++ ps.filterMap Piece.token?
        skipped := l.skipped ++ ps.filterMap Piece.stray? } ∧
      (∀ first p last, ps = first ++ p :: last →
        l.Fits (first.flatMap Piece.text) (p.text ++ (last.flatMap Piece.text ++ rest)) p) ∧
      (((l.scan input).2 = .ok () ∧ rest = []) ∨
        ∃ u, (l.scan input).2 = .error (.stray u) ∧ l.policy = .abort ∧
          l.Fits (ps.flatMap Piece.text) rest (.stray u)) := by
  have hplace := h.matchesInPlace lib isWord hlib l input
  obtain ⟨htext, hfit⟩ := l.pieces_partition input.length [] input (Nat.le_refl _) hplace
  obtain ⟨taken, rest, hsplit, hstate, hend⟩ :=
    l.consume_taken (pieces l.ignored l.rules input.length 0 input)
  rw [Text.utf8Size, hsplit] at htext hfit
  refine ⟨taken, rest.flatMap Piece.text, ?_, hstate, ?_, ?_⟩
  · rw [← htext, List.flatMap_append]
  · intro first p last hp
    have hfits := hfit first p (last ++ rest) (by rw [hp, List.append_assoc, List.cons_append])
    rwa [List.flatMap_append] at hfits
  · rcases hend with ⟨hok, rfl⟩ | ⟨u, later, herror, rfl, hpolicy⟩ | ⟨offset, later, herror, rfl⟩
    · exact Or.inl ⟨hok, rfl⟩
    · exact Or.inr ⟨u, herror, hpolicy, hfit taken (.stray u) later rfl⟩
    · exact absurd rfl ((hfit taken (.splitCharacter offset) later rfl).whole offset)

private theorem selfContained_wordLexer : wordLexer.SelfContained Regex.library := by
  rw [wordLexer]
  cases hin : new.addKeyword "in".toList with
  | none => exact selfContained_new _
  | some l =>
    have hl := (selfContained_new _).addKeywordOf _ _ l _ hin
    rw [Option.bind_some]
    cases hword : l.addPattern "[a-z]*".toList ⟨"word"⟩ with
    | none => exact selfContained_new _
    | some l' =>
      have hl' := hl.addPatternOf _ _ l' _ _ (Or.inl (by decide +kernel)) hword
      rw [Option.bind_some]
      cases harrow : l'.addPattern "→".toList ⟨"arrow"⟩ with
      | none => exact selfContained_new _
      | some l'' => exact hl'.addPatternOf _ _ l'' _ _ (Or.inl (by decide +kernel)) harrow

theorem scan_in_place_words : Regex.library.Documented isWordChar ∧
    (wordLexer.setPolicy .abort).SelfContained Regex.library ∧
    ∃ (ps : List Piece) (rest : Text), "in é into!→".toList = ps.flatMap Piece.text ++ rest ∧
      ps.filterMap Piece.token? = [Token.ofLabel "in"] ∧
      (wordLexer.setPolicy .abort).Fits (ps.flatMap Piece.text) rest (.stray ⟨3, 'é'⟩) := by
  have hpending : ((wordLexer.setPolicy .abort).scan "in é into!→".toList).1.pending =
      [Token.ofLabel "in"] := by decide +kernel
  have herror : ((wordLexer.setPolicy .abort).scan "in é into!→".toList).2 =
      .error (.stray ⟨3, 'é'⟩) := by decide +kernel
  have hnone : (wordLexer.setPolicy .abort).pending = [] := by decide +kernel
  obtain ⟨ps, rest, htext, hstate, -, hend⟩ := scan_in_place Regex.library isWordChar
    Regex.library_documented (wordLexer.setPolicy .abort) selfContained_wordLexer
    "in é into!→".toList
  rw [hstate] at hpending
  dsimp only at hpending
  rw [hnone, List.nil_append] at hpending
  rw [herror] at hend
  rcases hend with ⟨hok, -⟩ | ⟨u, hu, -, hfits⟩
  · cases hok
  · cases hu
    exact ⟨Regex.library_documented, selfContained_wordLexer, ps, rest, htext, hpending, hfits⟩

/-- The parenthesis in the pattern closes the group around it, so that one branch is not tied to the
place of the search. -/
def looseLexer : Lexer := (new.addPattern "a)|(?:b".toList ⟨"t"⟩).getD new

private theorem madeBy_looseLexer : looseLexer.MadeBy Regex.library := by
  rw [looseLexer]
  cases hadded : new.addPattern "a)|(?:b".toList ⟨"t"⟩ with
  | none => exact madeBy_new _
  | some l => exact (madeBy_new _).addPatternOf _ _ l _ _ hadded

theorem found_elsewhere : looseLexer.MadeBy Regex.library ∧
    looseLexer.rules.map (fun r => (r.find "xb".toList, r.find "b".toList)) =
      [(some ⟨"x".toList, "b".toList⟩, some ⟨[], "b".toList⟩)] ∧
    (looseLexer.scan "xb".toList).1.pending = [⟨⟨"t"⟩, some "b"⟩, ⟨⟨"t"⟩, some "b"⟩] ∧
    (looseLexer.scan "xb".toList).1.skipped = [] ∧
    (0, ⟨⟨"t"⟩, some "b"⟩) ∈ looseLexer.found "xb".toList ∧ ¬"b".toList <+: "xb".toList := by
  refine ⟨madeBy_looseLexer, ?_⟩
  decide +kernel

end Lexer

end Predictive
