import Mathlib.Data.List.Infix
import Predictive.Lexer
/-!
# The pieces make up the input

Under a policy that skips, the pieces of the input put together give the input again, and the place
of a piece decides what it is. This takes no more of the rules than that their matches begin where
the search for them begins and end between two characters.
-/
namespace Predictive

namespace Text

theorem utf8Size_append (front back : Text) :
    utf8Size (front ++ back) = utf8Size front + utf8Size back := by
  induction front with
  | nil => simp [utf8Size]
  | cons c front ih => simp [utf8Size, ih, Nat.add_assoc]

theorem utf8ByteSize_ofList (text : Text) : (String.ofList text).utf8ByteSize = utf8Size text := by
  induction text with
  | nil => rfl
  | cons c text ih =>
    have hsplit : String.ofList (c :: text) = String.singleton c ++ String.ofList text := by
      rw [String.singleton_eq_ofList, ← String.ofList_append, List.singleton_append]
    rw [hsplit, String.utf8ByteSize_append, String.utf8ByteSize_singleton, ih, utf8Size]

theorem dropBytes_append (front back : Text) :
    dropBytes (utf8Size front) (front ++ back) = some back := by
  induction front with
  | nil =>
    rw [utf8Size, List.nil_append]
    cases back <;> rfl
  | cons c front ih =>
    have hpos := c.utf8Size_pos
    obtain ⟨n, hn⟩ : ∃ n, utf8Size (c :: front) = n + 1 := Nat.exists_eq_succ_of_ne_zero (by
      rw [utf8Size]
      omega)
    have hrest : n + 1 - c.utf8Size = utf8Size front := by
      rw [← hn, utf8Size, Nat.add_sub_cancel_left]
    rw [hn, List.cons_append, dropBytes, if_pos (by rw [← hn, utf8Size]; omega), hrest, ih]

end Text

namespace Piece

/-- The part of the input that the piece takes. -/
def text : Piece → Text
  | ignored c => [c]
  | token t => (t.lexeme.getD "").toList
  | stray u => [u.character]
  | splitCharacter _ => []

def token? : Piece → Option Token
  | token t => some t
  | _ => none

def stray? : Piece → Option Stray
  | stray u => some u
  | _ => none

end Piece

/-- A search of the text by the rule finds the given characters, at least one of them. -/
def TokenRule.Takes (r : TokenRule) (text covered : Text) : Prop :=
  ∃ m, r.find text = some m ∧ m.covered = covered ∧ covered ≠ []

namespace Lexer

/-- The text starts with a token of the given rules. The first rule that takes something decides
which token it is. -/
def StartsWith (rules : List TokenRule) (text : Text) (t : Token) : Prop :=
  ∃ earlier r later covered, rules = earlier ++ r :: later ∧ r.Takes text covered ∧
    (∀ e ∈ earlier, ∀ other, ¬e.Takes text other) ∧ t = ⟨r.symbol, some (String.ofList covered)⟩

/-- Wherever the rules are tried on the input, their matches are what the text begins with there. -/
def MatchesInPlace (rules : List TokenRule) (input : Text) : Prop :=
  ∀ r ∈ rules, ∀ rest, rest <:+ input → ∀ m, r.find rest = some m →
    m.before = [] ∧ m.covered <+: rest

instance (rules : List TokenRule) (input : Text) : Decidable (MatchesInPlace rules input) :=
  decidable_of_iff (∀ r ∈ rules, ∀ rest ∈ input.tails, ∀ m ∈ r.find rest,
    m.before = [] ∧ m.covered <+: rest) (by simp [MatchesInPlace, Option.mem_def])

/-- The piece is what its place demands. The place is given by the input in front of the piece and by
the rest of the input, which starts with the piece. -/
structure Fits (l : Lexer) (before rest : Text) (p : Piece) : Prop where
  ignored : ∀ c, p = .ignored c ↔ rest.head? = some c ∧ c ∈ l.ignored
  token : ∀ t, p = .token t ↔ (∃ c, rest.head? = some c ∧ c ∉ l.ignored) ∧
    StartsWith l.rules rest t
  stray : ∀ u, p = .stray u ↔ u.offset = Text.utf8Size before ∧
    rest.head? = some u.character ∧ u.character ∉ l.ignored ∧
    ∀ r ∈ l.rules, ∀ covered, ¬r.Takes rest covered
  whole : ∀ offset, p ≠ .splitCharacter offset

section Rules

variable (rules : List TokenRule) (text : Text)

theorem firstToken_singleton_of_takes (r : TokenRule) (covered : Text)
    (h : r.Takes text covered) :
    firstToken [r] text = some ⟨r.symbol, some (String.ofList covered)⟩ := by
  obtain ⟨m, hfind, rfl, hne⟩ := h
  simp [firstToken, hfind, hne]

theorem firstToken_singleton_eq_none_iff (r : TokenRule) :
    firstToken [r] text = none ↔ ∀ covered, ¬r.Takes text covered := by
  cases hfind : r.find text with
  | none => simp [firstToken, TokenRule.Takes, hfind]
  | some m => by_cases hm : m.covered = [] <;> simp [firstToken, TokenRule.Takes, hfind, hm]

private theorem firstToken_eq_findSome? :
    firstToken rules text = rules.findSome? (fun r => firstToken [r] text) := by
  simp [firstToken]

private theorem firstToken_eq_none_iff :
    firstToken rules text = none ↔ ∀ r ∈ rules, ∀ covered, ¬r.Takes text covered := by
  rw [firstToken_eq_findSome?, List.findSome?_eq_none_iff]
  exact forall₂_congr (fun r _ => firstToken_singleton_eq_none_iff text r)

theorem firstToken_eq_some_iff (t : Token) :
    firstToken rules text = some t ↔ StartsWith rules text t := by
  rw [firstToken_eq_findSome?, List.findSome?_eq_some_iff]
  constructor
  · intro ⟨earlier, r, later, hsplit, hr, hearlier⟩
    have htakes : ∃ covered, r.Takes text covered := by
      by_contra hnot
      simp [(firstToken_singleton_eq_none_iff text r).mpr (not_exists.mp hnot)] at hr
    obtain ⟨covered, htakes⟩ := htakes
    refine ⟨earlier, r, later, covered, hsplit, htakes, ?_, ?_⟩
    · exact fun e he => (firstToken_singleton_eq_none_iff text e).mp (hearlier e he)
    · exact Option.some.inj (hr.symm.trans (firstToken_singleton_of_takes text r covered htakes))
  · intro ⟨earlier, r, later, covered, hsplit, htakes, hearlier, ht⟩
    refine ⟨earlier, r, later, hsplit, ?_, ?_⟩
    · exact ht ▸ firstToken_singleton_of_takes text r covered htakes
    · exact fun e he => (firstToken_singleton_eq_none_iff text e).mpr (hearlier e he)

end Rules

/-- Each of the pieces fits its place behind the given text. -/
def AllFit (l : Lexer) (before : Text) (ps : List Piece) : Prop :=
  ∀ first p last, ps = first ++ p :: last →
    l.Fits (before ++ first.flatMap Piece.text) (p.text ++ last.flatMap Piece.text) p

section Places

variable (l : Lexer) (before : Text) (c : Char) (rest : Text)

private theorem fits_ignored (hc : c ∈ l.ignored) : l.Fits before (c :: rest) (.ignored c) where
  ignored d := by
    simp only [Piece.ignored.injEq, List.head?_cons, Option.some.injEq]
    exact ⟨fun h => ⟨h, h ▸ hc⟩, And.left⟩
  token t := by simp [hc]
  stray u := by
    simp only [reduceCtorEq, List.head?_cons, Option.some.injEq, false_iff]
    intro ⟨_, h, hu, _⟩
    exact hu (h ▸ hc)
  whole offset := by simp

private theorem fits_stray (hc : c ∉ l.ignored) (h : firstToken l.rules (c :: rest) = none) :
    l.Fits before (c :: rest) (.stray ⟨Text.utf8Size before, c⟩) where
  ignored d := by
    simp only [reduceCtorEq, List.head?_cons, Option.some.injEq, false_iff]
    intro ⟨h, hd⟩
    exact hc (h ▸ hd)
  token t := by simp [← firstToken_eq_some_iff, h]
  stray u := by
    obtain ⟨offset, d⟩ := u
    have hnone := (firstToken_eq_none_iff l.rules (c :: rest)).mp h
    simp only [Piece.stray.injEq, Stray.mk.injEq, List.head?_cons, Option.some.injEq]
    constructor
    · intro ⟨hoffset, hd⟩
      exact ⟨hoffset.symm, hd, hd ▸ hc, hnone⟩
    · exact fun h => ⟨h.1.symm, h.2.1⟩
  whole offset := by simp

private theorem fits_token (t : Token) (hc : c ∉ l.ignored)
    (h : firstToken l.rules (c :: rest) = some t) : l.Fits before (c :: rest) (.token t) where
  ignored d := by
    simp only [reduceCtorEq, List.head?_cons, Option.some.injEq, false_iff]
    intro ⟨h, hd⟩
    exact hc (h ▸ hd)
  token s := by simp [← firstToken_eq_some_iff, h, hc]
  stray u := by
    rw [← firstToken_eq_none_iff, h]
    simp
  whole offset := by simp

private theorem allFit_nil : l.AllFit before [] := by
  intro first p last h
  simp at h

private theorem allFit_cons (p : Piece) (ps : List Piece)
    (hp : l.Fits before (p.text ++ ps.flatMap Piece.text) p)
    (hps : l.AllFit (before ++ p.text) ps) : l.AllFit before (p :: ps) := by
  intro first q last h
  cases first with
  | nil =>
    obtain ⟨rfl, rfl⟩ := List.cons.inj h
    simpa using hp
  | cons x first =>
    obtain ⟨rfl, rfl⟩ := List.cons.inj h
    simpa [List.append_assoc] using hps first q last rfl

end Places

private theorem exists_rest_of_firstToken (rules : List TokenRule) (text : Text) (t : Token)
    (hplace : MatchesInPlace rules text) (h : firstToken rules text = some t) :
    ∃ covered after, text = covered ++ after ∧ covered ≠ [] ∧
      t.lexeme = some (String.ofList covered) := by
  obtain ⟨earlier, r, later, covered, rfl, ⟨m, hfind, rfl, hne⟩, -, rfl⟩ :=
    (firstToken_eq_some_iff rules text t).mp h
  obtain ⟨-, after, hsplit⟩ := hplace r (by simp) text List.suffix_rfl m hfind
  exact ⟨m.covered, after, hsplit.symm, hne, rfl⟩

private theorem MatchesInPlace.suffix (rules : List TokenRule) (text rest : Text)
    (h : MatchesInPlace rules text) (hrest : rest <:+ text) : MatchesInPlace rules rest :=
  fun r hr later hlater => h r hr later (hlater.trans hrest)

/-- The first piece of a text fits its place, and the other pieces are those of what follows. -/
private theorem exists_first_piece (l : Lexer) (limit : Nat) (before : Text) (c : Char)
    (rest : Text) (hplace : MatchesInPlace l.rules (c :: rest)) :
    ∃ p after, c :: rest = p.text ++ after ∧ p.text ≠ [] ∧ l.Fits before (c :: rest) p ∧
      pieces l.ignored l.rules (limit + 1) (Text.utf8Size before) (c :: rest) =
        p :: pieces l.ignored l.rules limit (Text.utf8Size (before ++ p.text)) after := by
  have hone : Text.utf8Size (before ++ [c]) = Text.utf8Size before + c.utf8Size := by
    simp [Text.utf8Size_append, Text.utf8Size]
  by_cases hc : c ∈ l.ignored
  · refine ⟨.ignored c, rest, rfl, by simp [Piece.text], l.fits_ignored before c rest hc, ?_⟩
    rw [pieces, if_pos hc, Piece.text, hone]
  · cases ht : firstToken l.rules (c :: rest) with
    | none =>
      refine ⟨.stray ⟨Text.utf8Size before, c⟩, rest, rfl, by simp [Piece.text],
        l.fits_stray before c rest hc ht, ?_⟩
      rw [pieces, if_neg hc, ht, Piece.text, hone]
    | some t =>
      obtain ⟨covered, after, hsplit, hne, hlexeme⟩ :=
        exists_rest_of_firstToken l.rules (c :: rest) t hplace ht
      -- The token takes what the rule has found, so the move by its bytes ends behind that.
      have htext : (Piece.token t).text = covered := by
        rw [Piece.text, hlexeme, Option.getD_some, String.toList_ofList]
      have hsize : (t.lexeme.getD "").utf8ByteSize = Text.utf8Size covered := by
        rw [hlexeme, Option.getD_some, Text.utf8ByteSize_ofList]
      refine ⟨.token t, after, htext ▸ hsplit, htext ▸ hne, l.fits_token before c rest t hc ht, ?_⟩
      rw [pieces, if_neg hc, ht]
      dsimp only
      rw [hsize, hsplit, Text.dropBytes_append, htext, Text.utf8Size_append]

/-- The pieces of a text give the text, each at its place. -/
theorem pieces_partition (l : Lexer) (limit : Nat) (before text : Text)
    (hlimit : text.length ≤ limit) (hplace : MatchesInPlace l.rules text) :
    (pieces l.ignored l.rules limit (Text.utf8Size before) text).flatMap Piece.text = text ∧
    l.AllFit before (pieces l.ignored l.rules limit (Text.utf8Size before) text) := by
  induction limit generalizing before text with
  | zero =>
    obtain rfl := List.length_eq_zero_iff.mp (Nat.le_zero.mp hlimit)
    exact ⟨rfl, l.allFit_nil before⟩
  | succ limit ih =>
    cases text with
    | nil => exact ⟨rfl, l.allFit_nil before⟩
    | cons c rest =>
      obtain ⟨p, after, hsplit, hne, hfits, hpieces⟩ :=
        l.exists_first_piece limit before c rest hplace
      have hlen := congrArg List.length hsplit
      rw [List.length_append] at hlen
      have hpos := List.length_pos_iff.mpr hne
      obtain ⟨hafter, hall⟩ := ih (before ++ p.text) after (by omega)
        (hplace.suffix _ _ after ⟨p.text, hsplit.symm⟩)
      rw [hpieces]
      constructor
      · rw [List.flatMap_cons, hafter, hsplit]
      · apply l.allFit_cons before p _ ?_ hall
        rw [hafter, ← hsplit]
        exact hfits

theorem consume_skip (l : Lexer) (hpolicy : l.policy = .skip) (ps : List Piece)
    (hwhole : ∀ p ∈ ps, ∀ offset, p ≠ .splitCharacter offset) :
    l.consume ps = ({ l with
      pending := l.pending ++ ps.filterMap Piece.token?
      skipped := l.skipped ++ ps.filterMap Piece.stray? }, .ok ()) := by
  obtain ⟨ignored, rules, policy, pending, skipped⟩ := l
  dsimp only at hpolicy
  subst hpolicy
  induction ps generalizing pending skipped with
  | nil => simp [consume]
  | cons p ps ih =>
    obtain ⟨hp, hrest⟩ := List.forall_mem_cons.mp hwhole
    cases p with
    | ignored c => exact ih hrest pending skipped
    | token t =>
      rw [consume, ih hrest (pending ++ [t]) skipped]
      simp [List.filterMap_cons, Piece.token?, Piece.stray?]
    | stray u =>
      rw [consume]
      dsimp only
      rw [ih hrest pending (skipped ++ [u])]
      simp [List.filterMap_cons, Piece.token?, Piece.stray?]
    | splitCharacter offset => exact absurd rfl (hp offset)

/-- A lexer that skips cuts every input into pieces that give the input again, each of which is what
its place demands. The tokens among them become pending and the strays are recorded, in order. -/
theorem scan_partition (l : Lexer) (hpolicy : l.policy = .skip) (input : Text)
    (hplace : MatchesInPlace l.rules input) :
    ∃ ps : List Piece,
      l.scan input = ({ l with
        pending := l.pending ++ ps.filterMap Piece.token?
        skipped := l.skipped ++ ps.filterMap Piece.stray? }, .ok ()) ∧
      ps.flatMap Piece.text = input ∧
      ∀ first p last, ps = first ++ p :: last →
        l.Fits (first.flatMap Piece.text) (p.text ++ last.flatMap Piece.text) p := by
  obtain ⟨htext, hfit⟩ := l.pieces_partition input.length [] input (Nat.le_refl _) hplace
  refine ⟨pieces l.ignored l.rules input.length 0 input, ?_, htext, hfit⟩
  apply l.consume_skip hpolicy
  intro p hp
  obtain ⟨first, last, hsplit⟩ := List.append_of_mem hp
  exact (hfit first p last hsplit).whole

/-- Rules for a keyword, for words, which may be empty, and for a character of several bytes. -/
def wordLexer : Lexer :=
  ((Lexer.new.addKeyword "in".toList).bind (fun l =>
    (l.addPattern "[a-z]*".toList ⟨"word"⟩).bind (fun l =>
      l.addPattern "→".toList ⟨"arrow"⟩))).getD Lexer.new

theorem scan_partition_words : wordLexer.policy = .skip ∧
    MatchesInPlace wordLexer.rules "in é into!→".toList ∧ ∃ ps : List Piece,
      ps.flatMap Piece.text = "in é into!→".toList ∧
      ps.filterMap Piece.token? =
        [Token.ofLabel "in", ⟨⟨"word"⟩, some "into"⟩, ⟨⟨"arrow"⟩, some "→"⟩] ∧
      ps.filterMap Piece.stray? = [⟨3, 'é'⟩, ⟨10, '!'⟩] ∧
      ∀ first p last, ps = first ++ p :: last →
        wordLexer.Fits (first.flatMap Piece.text) (p.text ++ last.flatMap Piece.text) p := by
  have hpolicy : wordLexer.policy = .skip := by decide +kernel
  have hplace : MatchesInPlace wordLexer.rules "in é into!→".toList := by decide +kernel
  obtain ⟨ps, hscan, htext, hfit⟩ := scan_partition wordLexer hpolicy _ hplace
  obtain ⟨hpending, hskipped⟩ : (wordLexer.scan "in é into!→".toList).1.pending =
      [Token.ofLabel "in", ⟨⟨"word"⟩, some "into"⟩, ⟨⟨"arrow"⟩, some "→"⟩] ∧
      (wordLexer.scan "in é into!→".toList).1.skipped = [⟨3, 'é'⟩, ⟨10, '!'⟩] := by decide +kernel
  have hnone : wordLexer.pending = [] ∧ wordLexer.skipped = [] := by decide +kernel
  rw [hscan] at hpending hskipped
  dsimp only at hpending hskipped
  rw [hnone.1, List.nil_append] at hpending
  rw [hnone.2, List.nil_append] at hskipped
  exact ⟨hpolicy, hplace, ps, htext, hpending, hskipped, hfit⟩

end Lexer

end Predictive
