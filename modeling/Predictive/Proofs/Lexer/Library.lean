import Predictive.Lexer.Basic
/-!
# What is known of a library of patterns

The lexer relies on few of the things that a library of regular expressions promises. They are stated
here for any library, and for any notion of what a word character is.
-/
namespace Predictive

/-- A part of a pattern that stands for no more than one text. -/
inductive PatternPart
  | wordBoundary
  | literal (text : Text)

namespace PatternPart

/-- The pattern of the parts one after the other. -/
def source (lib : PatternLibrary) : List PatternPart → Text
  | [] => []
  | wordBoundary :: parts => "\\b".toList ++ source lib parts
  | literal text :: parts => lib.escape text ++ source lib parts

/-- The parts take exactly `covered` where `before` is in front of it and `after` behind it. At a word
boundary there is a word character on one side and none on the other, and the ends of the text count
as none. -/
def Take (isWord : Char → Bool) : List PatternPart → Option Char → Text → Text → Prop
  | [], _, covered, _ => covered = []
  | wordBoundary :: parts, before, covered, after =>
    before.any isWord ≠ (covered ++ after).head?.any isWord ∧
      Take isWord parts before covered after
  | literal text :: parts, before, covered, after =>
    ∃ rest, covered = text ++ rest ∧ Take isWord parts (text.getLast?.or before) rest after

end PatternPart

namespace PatternLibrary

/-- A group behind a caret. -/
def caretGroup (pattern : Text) : Text := '^' :: '(' :: '?' :: ':' :: (pattern ++ [')'])

/-- The library keeps what is documented of regular expressions:
* a match is a part of the text that is searched,
* with a caret in front of a group, a match begins at the start of the text, if the pattern in the
  group is a pattern on its own, so that the group ends behind it,
* word boundaries and escaped texts in such a group find just what they stand for. -/
structure Documented (lib : PatternLibrary) (isWord : Char → Bool) : Prop where
  within : ∀ pattern find, lib.compile pattern = some find → ∀ text m, find text = some m →
    ∃ after, text = m.before ++ (m.covered ++ after)
  caret : ∀ pattern find, (lib.compile pattern).isSome →
    lib.compile (caretGroup pattern) = some find → ∀ text m, find text = some m → m.before = []
  parts : ∀ parts find, lib.compile (caretGroup (PatternPart.source lib parts)) = some find →
    ∀ text m, find text = some m ↔ m.before = [] ∧ ∃ after, text = m.covered ++ after ∧
      PatternPart.Take isWord parts none m.covered after

theorem anchored_eq (pattern : Text) : anchored pattern = caretGroup pattern := rfl

variable (lib : PatternLibrary) (isWord : Char → Bool)

private theorem source_keyword (word : Text) :
    PatternPart.source lib [.wordBoundary, .literal word, .wordBoundary] =
      lib.keywordPattern word := by
  simp [PatternPart.source, keywordPattern]

/-- A keyword of word characters is found where the text starts with it and no word character
follows, and then it is found as it stands. -/
theorem Documented.find_keyword (hlib : lib.Documented isWord) (word : Text)
    (find : Text → Option Match)
    (hfind : lib.compile (anchored (lib.keywordPattern word)) = some find)
    (hne : word ≠ []) (hword : ∀ c ∈ word, isWord c = true) (text : Text) (m : Match) :
    find text = some m ↔ m = ⟨[], word⟩ ∧
      ∃ after, text = word ++ after ∧ ∀ c ∈ after.head?, isWord c = false := by
  have hfirst (after : Text) : (word ++ after).head?.any isWord = true := by
    obtain ⟨c, word, rfl⟩ := List.exists_cons_of_ne_nil hne
    exact hword c List.mem_cons_self
  have hlast : word.getLast?.any isWord = true := by
    rw [List.getLast?_eq_some_getLast hne]
    exact hword _ (List.getLast_mem hne)
  have hbehind (after : Text) : true ≠ after.head?.any isWord ↔
      ∀ c ∈ after.head?, isWord c = false := by
    cases after <;> simp
  -- Both ends of the word are word characters, so the boundaries speak of its neighbours.
  have htake (covered after : Text) :
      PatternPart.Take isWord [.wordBoundary, .literal word, .wordBoundary] none covered after ↔
        covered = word ∧ ∀ c ∈ after.head?, isWord c = false := by
    simp only [PatternPart.Take, Option.or_none, hlast, ← hbehind]
    constructor
    · rintro ⟨-, rest, rfl, hedge, rfl⟩
      exact ⟨List.append_nil word, by simpa using hedge⟩
    · rintro ⟨rfl, hedge⟩
      exact ⟨by rw [hfirst]; simp, [], (List.append_nil _).symm, by simpa using hedge, rfl⟩
  rw [anchored_eq, ← source_keyword] at hfind
  rw [hlib.parts _ find hfind]
  simp only [htake]
  constructor
  · rintro ⟨hbefore, after, htext, hcovered, hedge⟩
    obtain ⟨before, covered⟩ := m
    dsimp only at hbefore hcovered htext
    subst hbefore hcovered
    exact ⟨rfl, after, htext, hedge⟩
  · rintro ⟨rfl, after, htext, hedge⟩
    exact ⟨rfl, after, htext, rfl, hedge⟩

end PatternLibrary

namespace TokenRule

variable (lib : PatternLibrary) (isWord : Char → Bool) (r : TokenRule)

/-- The rule is made from a pattern of the library. -/
def MadeBy : Prop := ∃ pattern, lib.compile (PatternLibrary.anchored pattern) = some r.find

/-- The rule is made from a keyword or from a pattern that is well formed on its own. -/
def SelfContained : Prop := ∃ pattern,
  ((lib.compile pattern).isSome ∨ ∃ word, pattern = lib.keywordPattern word) ∧
    lib.compile (PatternLibrary.anchored pattern) = some r.find

/-- The rule of a keyword that consists of word characters. -/
structure IsKeyword (word : Text) : Prop where
  nonempty : word ≠ []
  wordChars : ∀ c ∈ word, isWord c = true
  find : lib.compile (PatternLibrary.anchored (lib.keywordPattern word)) = some r.find
  symbol : r.symbol = ⟨String.ofList word⟩

theorem before_eq_nil_of_selfContained (hlib : lib.Documented isWord) (h : r.SelfContained lib)
    (text : Text) (m : Match) (hm : r.find text = some m) : m.before = [] := by
  obtain ⟨pattern, hpattern | ⟨word, rfl⟩, hfind⟩ := h
  · rw [PatternLibrary.anchored_eq] at hfind
    exact hlib.caret pattern r.find hpattern hfind text m hm
  · rw [PatternLibrary.anchored_eq, ← PatternLibrary.source_keyword] at hfind
    exact ((hlib.parts _ r.find hfind text m).mp hm).1

end TokenRule

namespace Lexer

variable (lib : PatternLibrary)

/-- All rules are made from patterns of the library. -/
def MadeBy (l : Lexer) : Prop := ∀ r ∈ l.rules, r.MadeBy lib

/-- All rules are made from keywords or from patterns that are well formed on their own. -/
def SelfContained (l : Lexer) : Prop := ∀ r ∈ l.rules, r.SelfContained lib

private theorem exists_rule_of_addPatternOf (l added : Lexer) (pattern : Text) (symbol : Symbol)
    (h : l.addPatternOf lib pattern symbol = some added) :
    ∃ find, lib.compile (PatternLibrary.anchored pattern) = some find ∧
      added = { l with rules := l.rules ++ [⟨find, symbol⟩] } := by
  obtain ⟨find, hfind, rfl⟩ := Option.map_eq_some_iff.mp h
  exact ⟨find, hfind, rfl⟩

private theorem forall_rules_addPatternOf (P : TokenRule → Prop) (l added : Lexer)
    (h : ∀ r ∈ l.rules, P r) (pattern : Text) (symbol : Symbol)
    (hadded : l.addPatternOf lib pattern symbol = some added)
    (hnew : ∀ find, lib.compile (PatternLibrary.anchored pattern) = some find → P ⟨find, symbol⟩) :
    ∀ r ∈ added.rules, P r := by
  obtain ⟨find, hfind, rfl⟩ := exists_rule_of_addPatternOf lib l added pattern symbol hadded
  intro r hr
  rcases List.mem_append.mp hr with hold | hlast
  · exact h r hold
  · rw [List.mem_singleton.mp hlast]
    exact hnew find hfind

theorem madeBy_new : new.MadeBy lib := by
  intro r hr
  cases hr

theorem MadeBy.addPatternOf (l added : Lexer) (h : l.MadeBy lib) (pattern : Text) (symbol : Symbol)
    (hadded : l.addPatternOf lib pattern symbol = some added) : added.MadeBy lib :=
  forall_rules_addPatternOf lib _ l added h pattern symbol hadded
    (fun _ hfind => ⟨pattern, hfind⟩)

theorem MadeBy.addKeywordOf (l added : Lexer) (h : l.MadeBy lib) (word : Text)
    (hadded : l.addKeywordOf lib word = some added) : added.MadeBy lib :=
  h.addPatternOf lib l added (lib.keywordPattern word) ⟨String.ofList word⟩ hadded

theorem selfContained_new : new.SelfContained lib := by
  intro r hr
  cases hr

theorem SelfContained.addPatternOf (l added : Lexer) (h : l.SelfContained lib) (pattern : Text)
    (symbol : Symbol)
    (hpattern : (lib.compile pattern).isSome ∨ ∃ word, pattern = lib.keywordPattern word)
    (hadded : l.addPatternOf lib pattern symbol = some added) : added.SelfContained lib :=
  forall_rules_addPatternOf lib _ l added h pattern symbol hadded
    (fun _ hfind => ⟨pattern, hpattern, hfind⟩)

theorem SelfContained.addKeywordOf (l added : Lexer) (h : l.SelfContained lib) (word : Text)
    (hadded : l.addKeywordOf lib word = some added) : added.SelfContained lib :=
  h.addPatternOf lib l added (lib.keywordPattern word) ⟨String.ofList word⟩
    (Or.inr ⟨word, rfl⟩) hadded

theorem exists_rule_of_addKeywordOf (isWord : Char → Bool) (l added : Lexer) (word : Text)
    (hne : word ≠ []) (hword : ∀ c ∈ word, isWord c = true)
    (h : l.addKeywordOf lib word = some added) :
    ∃ k, added = { l with rules := l.rules ++ [k] } ∧ k.IsKeyword lib isWord word := by
  obtain ⟨find, hfind, rfl⟩ := exists_rule_of_addPatternOf lib l added _ _ h
  exact ⟨_, rfl, hne, hword, hfind, rfl⟩

end Lexer

end Predictive
