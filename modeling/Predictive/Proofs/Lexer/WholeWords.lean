import Predictive.Proofs.Lexer.Anchoring
/-!
# Keywords and whole words

A keyword has a word boundary on either side, but its pattern is tried on the rest of the input. So
nothing is known of the character in front of a keyword, except where the piece in front of it ends
at the edge of a word.
-/
namespace Predictive

namespace Text

private theorem eq_of_utf8Size_eq (front front' back back' : Text)
    (htext : front ++ back = front' ++ back') (hsize : utf8Size front = utf8Size front') :
    front = front' ∧ back = back' := by
  induction front generalizing front' with
  | nil =>
    cases front' with
    | nil => exact ⟨rfl, htext⟩
    | cons c front' =>
      have hpos := c.utf8Size_pos
      simp only [utf8Size] at hsize
      omega
  | cons c front ih =>
    cases front' with
    | nil =>
      have hpos := c.utf8Size_pos
      simp only [utf8Size] at hsize
      omega
    | cons d front' =>
      obtain ⟨rfl, hrest⟩ := List.cons.inj htext
      obtain ⟨rfl, hback⟩ := ih front' hrest (by simpa [utf8Size] using hsize)
      exact ⟨rfl, hback⟩

private theorem exists_front_of_dropBytes (n : Nat) (text rest : Text)
    (h : dropBytes n text = some rest) (hn : n ≤ utf8Size text) :
    ∃ front, text = front ++ rest ∧ utf8Size front = n := by
  induction text generalizing n with
  | nil =>
    obtain rfl : n = 0 := Nat.le_zero.mp hn
    cases h
    exact ⟨[], rfl, rfl⟩
  | cons c text ih =>
    cases n with
    | zero =>
      cases h
      exact ⟨[], rfl, rfl⟩
    | succ n =>
      rw [dropBytes] at h
      split at h
      · next hc =>
        rw [utf8Size] at hn
        obtain ⟨front, rfl, hfront⟩ := ih _ h (by omega)
        refine ⟨c :: front, rfl, ?_⟩
        rw [utf8Size, hfront]
        omega
      · cases h

end Text

namespace TokenRule

variable (lib : PatternLibrary) (isWord : Char → Bool) (r : TokenRule)

/-- What the rule takes does not end within a word. -/
def StopsAtEdges : Prop :=
  ∀ covered after, r.Takes (covered ++ after) covered →
    ∀ c ∈ covered.getLast?, ∀ d ∈ after.head?, isWord d = true → isWord c = false

private theorem IsKeyword.takes_iff (hlib : lib.Documented isWord) (word : Text)
    (h : r.IsKeyword lib isWord word) (text covered : Text) : r.Takes text covered ↔
      covered = word ∧ ∃ after, text = word ++ after ∧ ∀ c ∈ after.head?, isWord c = false := by
  have hfind := hlib.find_keyword lib isWord word r.find h.find h.nonempty h.wordChars text
  constructor
  · rintro ⟨m, hm, rfl, -⟩
    obtain ⟨rfl, hafter⟩ := (hfind m).mp hm
    exact ⟨rfl, hafter⟩
  · rintro ⟨rfl, hafter⟩
    exact ⟨⟨[], covered⟩, (hfind _).mpr ⟨rfl, hafter⟩, rfl, h.nonempty⟩

private theorem IsKeyword.stopsAtEdges (hlib : lib.Documented isWord) (word : Text)
    (h : r.IsKeyword lib isWord word) : r.StopsAtEdges isWord := by
  intro covered after htakes c _ d hd hword
  obtain ⟨rfl, after', htext, hafter⟩ := (h.takes_iff lib isWord r hlib word _ _).mp htakes
  obtain rfl := List.append_cancel_left htext
  rw [hafter d hd] at hword
  cases hword

end TokenRule

namespace Lexer

private theorem exists_take_of_scan (l : Lexer) (input : Text) : ∃ n,
    (l.scan input).1.pending = l.pending ++ ((l.found input).take n).map Prod.snd := by
  obtain ⟨taken, rest, hsplit, hstate, -⟩ :=
    l.consume_taken (pieces l.ignored l.rules input.length 0 input)
  refine ⟨(Piece.found 0 taken).length, ?_⟩
  rw [scan, hstate, found, hsplit, Piece.found_append, List.take_left, Piece.map_snd_found]

/-- What the rules find is a part of the text that they search. -/
def MatchesWithin (rules : List TokenRule) : Prop :=
  ∀ r ∈ rules, ∀ text m, r.find text = some m → ∃ after, text = m.before ++ (m.covered ++ after)

private theorem MadeBy.matchesWithin (lib : PatternLibrary) (isWord : Char → Bool)
    (hlib : lib.Documented isWord) (l : Lexer) (h : l.MadeBy lib) : MatchesWithin l.rules := by
  intro r hr
  obtain ⟨pattern, hfind⟩ := h r hr
  exact hlib.within _ r.find hfind

private theorem pieces_cons (l : Lexer) (hwithin : MatchesWithin l.rules) (limit offset : Nat)
    (c : Char) (text : Text) :
    ∃ p later, pieces l.ignored l.rules (limit + 1) offset (c :: text) = p :: later ∧
      (∀ t, p = .token t → StartsWith l.rules (c :: text) t) ∧
      ((∃ place, later = [.splitCharacter place]) ∨
        ∃ front rest place, c :: text = front ++ rest ∧
          Text.utf8Size front = Text.utf8Size p.text ∧
          later = pieces l.ignored l.rules limit place rest) := by
  by_cases hc : c ∈ l.ignored
  · rw [pieces, if_pos hc]
    exact ⟨_, _, rfl, by simp, Or.inr ⟨[c], text, _, rfl, rfl, rfl⟩⟩
  · rw [pieces, if_neg hc]
    cases ht : firstToken l.rules (c :: text) with
    | none => exact ⟨_, _, rfl, by simp, Or.inr ⟨[c], text, _, rfl, rfl, rfl⟩⟩
    | some t =>
      have hstarts := (firstToken_eq_some_iff l.rules (c :: text) t).mp ht
      obtain ⟨r, hr, m, hfind, hlexeme⟩ : ∃ r ∈ l.rules, ∃ m, r.find (c :: text) = some m ∧
          t = ⟨r.symbol, some (String.ofList m.covered)⟩ := by
        obtain ⟨_, r, _, _, hrules, ⟨m, hfind, rfl, -⟩, -, ht⟩ := hstarts
        exact ⟨r, by simp [hrules], m, hfind, ht⟩
      have hsize : (t.lexeme.getD "").utf8ByteSize = Text.utf8Size m.covered := by
        rw [hlexeme, Option.getD_some, Text.utf8ByteSize_ofList]
      have hcovered : Text.utf8Size m.covered ≤ Text.utf8Size (c :: text) := by
        obtain ⟨after, htext⟩ := hwithin r hr _ m hfind
        rw [htext, Text.utf8Size_append, Text.utf8Size_append]
        omega
      dsimp only
      cases hrest : Text.dropBytes (t.lexeme.getD "").utf8ByteSize (c :: text) with
      | none => exact ⟨_, _, rfl, by simpa using hstarts, Or.inl ⟨_, rfl⟩⟩
      | some rest =>
        obtain ⟨front, htext, hfront⟩ :=
          Text.exists_front_of_dropBytes _ (c :: text) rest hrest (hsize ▸ hcovered)
        refine ⟨_, _, rfl, by simpa using hstarts, Or.inr ⟨front, rest, _, htext, ?_, rfl⟩⟩
        rw [hfront, Piece.text, Text.utf8Size_toList]

/-- Every token among the pieces is found at a place of the text, even if it is not the text at that
place. -/
private theorem place_of_token (l : Lexer) (hwithin : MatchesWithin l.rules) (limit offset : Nat)
    (text : Text) (first last : List Piece) (t : Token)
    (h : pieces l.ignored l.rules limit offset text = first ++ .token t :: last) :
    ∃ before rest, text = before ++ rest ∧
      Text.utf8Size before = Text.utf8Size (first.flatMap Piece.text) ∧
      StartsWith l.rules rest t := by
  induction limit generalizing offset text first with
  | zero => simp [pieces] at h
  | succ limit ih =>
    cases text with
    | nil => simp [pieces] at h
    | cons c text =>
      obtain ⟨p, later, hpieces, hstarts, hlater⟩ := l.pieces_cons hwithin limit offset c text
      rw [hpieces] at h
      cases first with
      | nil => exact ⟨[], c :: text, rfl, rfl, hstarts t (List.cons.inj h).1⟩
      | cons q first =>
        obtain ⟨rfl, hlast⟩ := List.cons.inj h
        rcases hlater with ⟨place, rfl⟩ | ⟨front, rest, place, htext, hfront, rfl⟩
        · cases first <;> simp at hlast
        · obtain ⟨before, rest', rfl, hbefore, hrest⟩ := ih place rest first hlast
          refine ⟨front ++ before, rest', by rw [htext, List.append_assoc], ?_, hrest⟩
          rw [List.flatMap_cons, Text.utf8Size_append, Text.utf8Size_append, hfront, hbefore]

/-- Up to a place of the input the lexer cuts between words: its rules do not stop within a word, and
no character that it leaves out is part of a word. -/
structure CutsAtEdges (l : Lexer) (isWord : Char → Bool) (input : Text) (place : Nat) : Prop where
  inPlace : MatchesInPlace l.rules input
  rules : ∀ r ∈ l.rules, r.StopsAtEdges isWord
  ignored : ∀ c ∈ l.ignored, isWord c = false
  strays : ∀ u, .stray u ∈ pieces l.ignored l.rules input.length 0 input → u.offset < place →
    isWord u.character = false

/-- In front of a word character there is no word character where the lexer cuts between words. -/
theorem CutsAtEdges.before (l : Lexer) (isWord : Char → Bool) (input : Text)
    (first last : List Piece) (p : Piece)
    (h : l.CutsAtEdges isWord input (Text.utf8Size (first.flatMap Piece.text)))
    (hpieces : pieces l.ignored l.rules input.length 0 input = first ++ p :: last)
    (d : Char) (hd : p.text.head? = some d) (hword : isWord d = true) :
    ∀ c ∈ (first.flatMap Piece.text).getLast?, isWord c = false := by
  rcases List.eq_nil_or_concat first with rfl | ⟨first, q, rfl⟩
  · simp
  · obtain ⟨-, hfit⟩ := l.pieces_partition input.length [] input (Nat.le_refl _) h.inPlace
    rw [List.concat_eq_append] at h hpieces ⊢
    rw [Text.utf8Size, hpieces] at hfit
    have hq := hfit first q (p :: last) (by simp)
    rw [List.nil_append, List.flatMap_cons] at hq
    rw [List.flatMap_append, List.flatMap_singleton] at h ⊢
    cases q with
    | ignored c =>
      have hc := ((hq.ignored c).mp rfl).2
      simpa [Piece.text] using h.ignored c hc
    | stray u =>
      have hoffset := ((hq.stray u).mp rfl).1
      have hplace : u.offset <
          Text.utf8Size (first.flatMap Piece.text ++ (Piece.stray u).text) := by
        have hpos := u.character.utf8Size_pos
        simp only [hoffset, Text.utf8Size_append, Piece.text, Text.utf8Size]
        omega
      simpa [Piece.text] using h.strays u (by simp [hpieces]) hplace
    | token t =>
      obtain ⟨-, _, r, _, covered, hr, htakes, -, rfl⟩ := (hq.token t).mp rfl
      have htext : (Piece.token ⟨r.symbol, some (String.ofList covered)⟩).text = covered :=
        String.toList_ofList
      have hne : covered ≠ [] := by
        obtain ⟨_, _, _, hne⟩ := htakes
        exact hne
      rw [htext] at htakes ⊢
      rw [List.getLast?_append_of_ne_nil _ hne]
      intro c hc
      exact h.rules r (by simp [hr]) covered _ htakes c hc d (by simp [hd]) hword
    | splitCharacter offset => exact absurd rfl (hq.whole offset)

/-- The tokens of a keyword are the keyword itself, and no word goes on behind them. Whether a word
comes to its end in front of them depends on the lexer: it does if the lexer cuts between words up
to there. -/
theorem keyword_whole_word (lib : PatternLibrary) (isWord : Char → Bool)
    (hlib : lib.Documented isWord) (l : Lexer) (hl : l.MadeBy lib) (input word : Text)
    (earlier later : List TokenRule) (k : TokenRule) (hrules : l.rules = earlier ++ k :: later)
    (hk : k.IsKeyword lib isWord word) :
    (∃ n, (l.scan input).1.pending = l.pending ++ ((l.found input).take n).map Prod.snd) ∧
    ∀ e ∈ l.found input, ∃ before rest, input = before ++ rest ∧ e.1 = Text.utf8Size before ∧
      StartsWith l.rules rest e.2 ∧
      ∀ covered, k.Takes rest covered → (∀ r ∈ earlier, ∀ other, ¬r.Takes rest other) →
        e.2 = Token.ofLabel (String.ofList word) ∧
        ∃ after, rest = word ++ after ∧ (∀ c ∈ after.head?, isWord c = false) ∧
          (l.CutsAtEdges isWord input e.1 → ∀ c ∈ before.getLast?, isWord c = false) := by
  refine ⟨l.exists_take_of_scan input, ?_⟩
  intro e he
  obtain ⟨first, last, hpieces, hoffset⟩ := Piece.split_of_mem_found 0 _ e he
  obtain ⟨before, rest, htext, hbefore, hstarts⟩ :=
    l.place_of_token (hl.matchesWithin lib isWord hlib) _ 0 _ first last e.2 hpieces
  rw [Nat.zero_add] at hoffset
  refine ⟨before, rest, htext, hoffset.trans hbefore.symm, hstarts, ?_⟩
  intro covered htakes hearlier
  obtain ⟨rfl, after, hrest, hafter⟩ := (hk.takes_iff lib isWord k hlib word rest covered).mp htakes
  have htoken : e.2 = Token.ofLabel (String.ofList covered) := by
    have hkeyword : StartsWith l.rules rest ⟨k.symbol, some (String.ofList covered)⟩ :=
      ⟨earlier, k, later, covered, hrules, htakes, hearlier, rfl⟩
    rw [hk.symbol] at hkeyword
    rw [← firstToken_eq_some_iff] at hstarts hkeyword
    exact Option.some.inj (hstarts.symm.trans hkeyword)
  refine ⟨htoken, after, hrest, hafter, ?_⟩
  intro hcuts
  obtain ⟨d, word, rfl⟩ := List.exists_cons_of_ne_nil hk.nonempty
  have hhead : (Piece.token e.2).text.head? = some d := by
    rw [htoken, Token.ofLabel, Piece.text, Option.getD_some, String.toList_ofList, List.head?_cons]
  -- Where all matches are in place, the pieces in front of the token are the text in front of it.
  have hfront : before = first.flatMap Piece.text := by
    have hall := (l.whole_and_offset_of_pieces input _ hcuts.inPlace hpieces).1
    rw [List.flatMap_append] at hall
    exact (Text.eq_of_utf8Size_eq _ _ _ _ (htext.symm.trans hall.symm) hbefore).1
  rw [hfront]
  rw [hoffset] at hcuts
  exact hcuts.before l isWord input first last _ hpieces d hhead (hk.wordChars d List.mem_cons_self)

def keywordLexer : Lexer := (new.addKeyword "b".toList).getD new

private theorem exists_rule_keywordLexer : ∃ k, keywordLexer = { new with rules := [k] } ∧
    k.IsKeyword Regex.library isWordChar "b".toList ∧ keywordLexer.MadeBy Regex.library := by
  obtain ⟨l, hl⟩ := Option.isSome_iff_exists.mp
    (show (new.addKeyword "b".toList).isSome by decide +kernel)
  obtain ⟨k, hadded, hk⟩ := exists_rule_of_addKeywordOf Regex.library isWordChar new l "b".toList
    (by decide) (List.all_eq_true.mp (by decide +kernel)) hl
  have hmade := (madeBy_new Regex.library).addKeywordOf _ _ l "b".toList hl
  rw [keywordLexer, hl, Option.getD_some]
  exact ⟨k, hadded, hk, hmade⟩

theorem keyword_whole_word_letter : ∃ k, Regex.library.Documented isWordChar ∧
    keywordLexer.MadeBy Regex.library ∧ keywordLexer.rules = [] ++ k :: [] ∧
    k.IsKeyword Regex.library isWordChar "b".toList ∧
    (2, Token.ofLabel "b") ∈ keywordLexer.found "b(b b".toList ∧
    ∃ before rest, "b(b b".toList = before ++ rest ∧ 2 = Text.utf8Size before ∧
      ∃ after, rest = "b".toList ++ after ∧ (∀ c ∈ after.head?, isWordChar c = false) ∧
        ∀ c ∈ before.getLast?, isWordChar c = false := by
  obtain ⟨k, hadded, hk, hmade⟩ := exists_rule_keywordLexer
  have hrules : keywordLexer.rules = [k] := congrArg Lexer.rules hadded
  have hlib := Regex.library_documented
  have hpieces : pieces keywordLexer.ignored keywordLexer.rules "b(b b".toList.length 0
      "b(b b".toList = [.token (Token.ofLabel "b"), .stray ⟨1, '('⟩, .token (Token.ofLabel "b"),
        .ignored ' ', .token (Token.ofLabel "b")] := by decide +kernel
  have hmem : (2, Token.ofLabel "b") ∈ keywordLexer.found "b(b b".toList := by decide +kernel
  have hcuts : keywordLexer.CutsAtEdges isWordChar "b(b b".toList 2 := by
    refine ⟨by decide +kernel, ?_, ?_, ?_⟩
    · intro r hr
      rw [hrules, List.mem_singleton] at hr
      exact hr ▸ hk.stopsAtEdges _ _ k hlib
    · have hall : new.ignored.all (fun c => isWordChar c = false) = true := by decide +kernel
      rw [hadded]
      simpa using hall
    · intro u hu _
      rw [hpieces] at hu
      obtain rfl : u = ⟨1, '('⟩ := by simpa using hu
      decide +kernel
  obtain ⟨before, rest, htext, hplace, hstarts, hkeyword⟩ :=
    (keyword_whole_word Regex.library isWordChar hlib keywordLexer hmade "b(b b".toList "b".toList
      [] [] k hrules hk).2 _ hmem
  obtain ⟨covered, htakes⟩ : ∃ covered, k.Takes rest covered := by
    obtain ⟨earlier, r, _, covered, hr, htakes, -, -⟩ := hstarts
    have hmem : r ∈ keywordLexer.rules := by simp [hr]
    rw [hrules, List.mem_singleton] at hmem
    exact ⟨covered, hmem ▸ htakes⟩
  obtain ⟨-, after, hrest, hafter, hedge⟩ := hkeyword covered htakes (by simp)
  exact ⟨k, hlib, hmade, hrules, hk, hmem, before, rest, htext, hplace, after, hrest, hafter,
    hedge hcuts⟩

/-- With whatever library, a character in front of a keyword does not keep it from being found: the
character is skipped, and the search that begins behind it knows nothing of it. -/
theorem scan_cons_keyword (lib : PatternLibrary) (isWord : Char → Bool)
    (hlib : lib.Documented isWord) (l : Lexer) (hpolicy : l.policy = .skip) (word : Text)
    (k : TokenRule) (hrules : l.rules = [k]) (hk : k.IsKeyword lib isWord word) (c : Char)
    (hc : c ∉ l.ignored) (hhead : ∀ d ∈ word.head?, d ∉ l.ignored) :
    l.scan (c :: word) = ({ l with
      pending := l.pending ++ [Token.ofLabel (String.ofList word)]
      skipped := l.skipped ++ [⟨0, c⟩] }, .ok ()) := by
  obtain ⟨d, tail, rfl⟩ := List.exists_cons_of_ne_nil hk.nonempty
  -- At the first character the keyword could only be taken with its own last character behind it.
  have hfront : firstToken l.rules (c :: d :: tail) = none := by
    rw [hrules, firstToken_singleton_eq_none_iff]
    intro covered htakes
    obtain ⟨-, after, htext, hbehind⟩ := (hk.takes_iff lib isWord k hlib _ _ covered).mp htakes
    have hlength : after.length = 1 := by
      have hsame := congrArg List.length htext
      simp only [List.length_cons, List.length_append] at hsame
      omega
    obtain ⟨e, rfl⟩ := List.length_eq_one_iff.mp hlength
    have hafter : isWord e = false := hbehind e rfl
    have hlast : e ∈ d :: tail := by
      have hsame := congrArg List.getLast? htext
      rw [List.getLast?_cons_cons, List.getLast?_append_of_ne_nil _ (List.cons_ne_nil e [])] at hsame
      exact List.mem_of_getLast? hsame
    rw [hk.wordChars e hlast] at hafter
    cases hafter
  have hword : firstToken l.rules (d :: tail) =
      some ⟨k.symbol, some (String.ofList (d :: tail))⟩ := by
    rw [hrules]
    apply firstToken_singleton_of_takes
    exact (hk.takes_iff lib isWord k hlib _ _ _).mpr ⟨rfl, [], (List.append_nil _).symm, by simp⟩
  have hdrop : Text.dropBytes (String.ofList (d :: tail)).utf8ByteSize (d :: tail) = some [] := by
    rw [Text.utf8ByteSize_ofList]
    simpa using Text.dropBytes_append (d :: tail) []
  have hend (limit offset : Nat) : pieces l.ignored l.rules limit offset [] = [] := by
    cases limit <;> rfl
  have hpieces : pieces l.ignored l.rules (c :: d :: tail).length 0 (c :: d :: tail) =
      [.stray ⟨0, c⟩, .token ⟨k.symbol, some (String.ofList (d :: tail))⟩] := by
    rw [List.length_cons, pieces, if_neg hc, hfront]
    dsimp only
    rw [List.length_cons, pieces, if_neg (hhead d rfl), hword]
    dsimp only
    rw [Option.getD_some, hdrop]
    dsimp only
    rw [hend]
  rw [scan, hpieces, consume, hpolicy]
  dsimp only
  rw [consume, consume, hk.symbol]
  rfl

/-- The character in front of the keyword is skipped, and so the keyword is found within a word. -/
theorem keyword_within_word : Regex.library.Documented isWordChar ∧
    keywordLexer.MadeBy Regex.library ∧
    (∃ k ∈ keywordLexer.rules, k.IsKeyword Regex.library isWordChar "b".toList) ∧
    isWordChar 'a' = true ∧ keywordLexer.found "ab".toList = [(1, Token.ofLabel "b")] ∧
    (keywordLexer.scan "ab".toList).1.pending = [Token.ofLabel "b"] ∧
    (keywordLexer.scan "ab".toList).1.skipped = [⟨0, 'a'⟩] := by
  obtain ⟨k, hadded, hk, hmade⟩ := exists_rule_keywordLexer
  have hignored : keywordLexer.ignored = new.ignored := by rw [hadded]
  have hhead : ∀ d ∈ "b".toList.head?, d ∉ keywordLexer.ignored := by
    intro d hd
    obtain rfl : 'b' = d := Option.some.inj hd
    rw [hignored]
    decide
  have hscan := scan_cons_keyword Regex.library isWordChar Regex.library_documented keywordLexer
    (congrArg Lexer.policy hadded) "b".toList k (congrArg Lexer.rules hadded) hk 'a'
    (by rw [hignored]; decide) hhead
  rw [show 'a' :: "b".toList = "ab".toList from rfl] at hscan
  refine ⟨Regex.library_documented, hmade, ⟨k, by simp [hadded], hk⟩, by decide +kernel,
    by decide +kernel, ?_, ?_⟩
  · rw [hscan]
    exact congrArg (·.pending ++ [Token.ofLabel "b"]) hadded
  · rw [hscan]
    exact congrArg (·.skipped ++ [⟨0, 'a'⟩]) hadded

end Lexer

end Predictive
