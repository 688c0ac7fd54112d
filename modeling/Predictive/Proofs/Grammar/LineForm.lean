import Mathlib.Data.List.Forall2
import Predictive.Grammar.Source
import Predictive.Proofs.Text.Pieces
/-!
# The forms of a line

A line of a grammar is blank, names a head in front of an arrow, or begins with a bar. A line has at
most one of these forms, and its reading follows from the form. A line that is refused either has no
form or begins with a bar where no head stands above it.
-/
namespace Predictive

/-- The words of a text stand between blanks, and each of them is as long as it can be. -/
inductive Text.Words : Text → List Text → Prop
  | blank (text : Text) (h : ∀ c ∈ text, isBlank c = true) : Words text []
  | word (before word after : Text) (ws : List Text) (hbefore : ∀ c ∈ before, isBlank c = true)
    (hne : word ≠ []) (hword : ∀ c ∈ word, isBlank c = false)
    (hend : ∀ c ∈ after.head?, isBlank c = true) (hafter : Words after ws) :
    Words (before ++ (word ++ after)) (word :: ws)

private theorem Text.words_words (text : Text) : Words text (words text) := by
  by_cases hblank : ∀ c ∈ text, isBlank c = true
  · rw [words_of_blanks text hblank]
    exact .blank text hblank
  · obtain ⟨before, word, after, rfl, hbefore, hne, hword, hend, hwords⟩ :=
      exists_first_word text hblank
    rw [hwords]
    exact .word before word after _ hbefore hne hword hend (words_words after)
termination_by text.length
decreasing_by
  have hpos := List.length_pos_iff.mpr hne
  simp only [*, List.length_append]
  omega

private theorem Text.words_eq_iff (text : Text) (ws : List Text) :
    words text = ws ↔ Words text ws := by
  constructor
  · rintro rfl
    exact words_words text
  · intro h
    induction h with
    | blank text h => exact words_of_blanks text h
    | word before word after ws hbefore hne hword hend _ ih =>
      rw [words_blanks_append before _ hbefore]
      cases after with
      | nil => rw [List.append_nil, words_of_solid word hne hword, ← ih]; rfl
      | cons c after =>
        have hc := hend c rfl
        rw [words_append_blank word after c hc, words_of_solid word hne hword, ← ih]
        exact congrArg (word :: ·) (words_append_blank [] after c hc).symm

/-- The alternatives are what stands between the bars, and the symbols of each are named by its
words. -/
theorem Grammar.readAlternatives_eq_iff (text : Text) (bodies : List Body) :
    readAlternatives text = bodies ↔ ∃ pieces : List Text, text = ['|'].intercalate pieces ∧
      pieces ≠ [] ∧ (∀ piece ∈ pieces, '|' ∉ piece) ∧
      List.Forall₂ (fun piece body => ∃ ws, Text.Words piece ws ∧ body = ws.map Symbol.ofWord)
        pieces bodies := by
  constructor
  · rintro rfl
    refine ⟨text.splitOn '|', (List.intercalate_splitOn '|').symm, List.splitOn_ne_nil '|' text,
      fun piece hpiece => (Text.mem_splitOn '|' text piece hpiece).2, ?_⟩
    rw [readAlternatives, List.forall₂_map_right_iff, List.forall₂_same]
    exact fun piece _ => ⟨_, piece.words_words, rfl⟩
  · rintro ⟨pieces, rfl, hne, hbar, hbodies⟩
    rw [readAlternatives, List.splitOn_intercalate '|' hbar hne]
    clear hne hbar
    induction hbodies with
    | nil => rfl
    | cons hbody _ ih =>
      obtain ⟨ws, hws, rfl⟩ := hbody
      rw [List.map_cons, (Text.words_eq_iff _ ws).mpr hws, ih]

/-- What a line of a grammar can say. -/
inductive LineForm
  | blank
  | heading (head : Symbol) (right : Text)
  | continuing (right : Text)

namespace LineForm

/-- The head that the line names. -/
def head? : LineForm → Option Symbol
  | heading head _ => some head
  | _ => none

def alternatives : LineForm → List Body
  | blank => []
  | heading _ right => Grammar.readAlternatives right
  | continuing right => Grammar.readAlternatives right

/-- The form of a line. A head is a word in front of the only arrow of the line, and in a line
without an arrow the first character that is not blank can be a bar. -/
inductive Describes : LineForm → Text → Prop
  | blank (line : Text) (h : ∀ c ∈ line, isBlank c = true) : Describes .blank line
  | heading (left right word : Text) (hleft : Text.Arrowless left) (hright : Text.Arrowless right)
    (htrim : Text.trim left = word) (hne : word ≠ []) (hword : ∀ c ∈ word, isBlank c = false) :
    Describes (.heading (Symbol.ofWord word) right) (left ++ '-' :: '>' :: right)
  | continuing (line right : Text) (harrow : Text.Arrowless line)
    (hbar : Text.trim line = '|' :: right) : Describes (.continuing right) line

variable (line : Text)

private theorem describes_blank_iff : blank.Describes line ↔ line.all isBlank = true := by
  rw [List.all_eq_true]
  constructor
  · intro h
    cases h with
    | blank _ h => exact h
  · exact Describes.blank line

private theorem describes_heading_iff (head : Symbol) (right : Text) :
    (heading head right).Describes line ↔ ∃ left word, Text.splitArrow line = [left, right] ∧
      Text.words left = [word] ∧ head = Symbol.ofWord word := by
  constructor
  · intro h
    cases h with
    | heading left right word hleft hright htrim hne hword =>
      exact ⟨left, word, (Text.splitArrow_eq_pair_iff _ _ _).mpr ⟨rfl, hleft, hright⟩,
        (Text.words_eq_singleton_iff left word).mpr ⟨htrim, hne, hword⟩, rfl⟩
  · intro h
    obtain ⟨left, word, hsplit, hwords, rfl⟩ := h
    obtain ⟨rfl, hleft, hright⟩ := (Text.splitArrow_eq_pair_iff _ _ _).mp hsplit
    obtain ⟨htrim, hne, hword⟩ := (Text.words_eq_singleton_iff left word).mp hwords
    exact .heading left right word hleft hright htrim hne hword

private theorem describes_continuing_iff (right : Text) : (continuing right).Describes line ↔
    Text.splitArrow line = [line] ∧ Text.trim line = '|' :: right := by
  rw [Text.splitArrow_eq_singleton_iff]
  constructor
  · intro h
    cases h with
    | continuing _ _ harrow hbar => exact ⟨⟨rfl, harrow⟩, hbar⟩
  · intro h
    exact .continuing line right h.1.2 h.2

private theorem not_blank_of_heading (head : Symbol) (right : Text)
    (h : (heading head right).Describes line) : ¬line.all isBlank = true := by
  intro hblank
  cases h with
  | heading left right word _ _ _ _ _ =>
    have hdash := List.all_eq_true.mp hblank '-' (by simp)
    exact absurd hdash (by decide)

private theorem not_blank_of_continuing (right : Text) (h : (continuing right).Describes line) :
    ¬line.all isBlank = true := by
  intro hblank
  obtain ⟨-, htrim⟩ := (describes_continuing_iff line right).mp h
  have hmem : '|' ∈ line := (Text.trim_within line).subset (htrim ▸ List.mem_cons_self)
  exact absurd (List.all_eq_true.mp hblank '|' hmem) (by decide)

/-- A line has at most one form. -/
theorem describes_unique : Relator.LeftUnique Describes := by
  intro first second line hfirst hsecond
  cases first with
  | blank =>
    have hblank := (describes_blank_iff line).mp hfirst
    cases second with
    | blank => rfl
    | heading head right => exact absurd hblank (not_blank_of_heading line head right hsecond)
    | continuing right => exact absurd hblank (not_blank_of_continuing line right hsecond)
  | heading head right =>
    obtain ⟨left, word, hsplit, hwords, rfl⟩ := (describes_heading_iff line head right).mp hfirst
    cases second with
    | blank =>
      have hblank := (describes_blank_iff line).mp hsecond
      exact absurd hblank (not_blank_of_heading line _ right hfirst)
    | heading head' right' =>
      obtain ⟨left', word', hsplit', hwords', rfl⟩ :=
        (describes_heading_iff line head' right').mp hsecond
      obtain ⟨rfl, rfl⟩ : left = left' ∧ right = right' := by simpa using hsplit.symm.trans hsplit'
      obtain rfl : word = word' := by simpa using hwords.symm.trans hwords'
      rfl
    | continuing right' =>
      obtain ⟨hone, -⟩ := (describes_continuing_iff line right').mp hsecond
      exact absurd (hsplit.symm.trans hone) (by simp)
  | continuing right =>
    obtain ⟨hone, htrim⟩ := (describes_continuing_iff line right).mp hfirst
    cases second with
    | blank =>
      have hblank := (describes_blank_iff line).mp hsecond
      exact absurd hblank (not_blank_of_continuing line right hfirst)
    | heading head' right' =>
      obtain ⟨left, word, hsplit, -, -⟩ := (describes_heading_iff line head' right').mp hsecond
      exact absurd (hone.symm.trans hsplit) (by simp)
    | continuing right' =>
      obtain ⟨-, htrim'⟩ := (describes_continuing_iff line right').mp hsecond
      obtain rfl : right = right' := by simpa using htrim.symm.trans htrim'
      rfl

end LineForm

namespace Grammar

section Forms

variable (line : Text)

theorem readLine_of_heading (previous : Option Symbol) (head : Symbol) (right : Text)
    (h : (LineForm.heading head right).Describes line) :
    readLine previous line = .ok (some (head, readAlternatives right)) := by
  obtain ⟨left, word, hsplit, hwords, rfl⟩ := (LineForm.describes_heading_iff line head right).mp h
  rw [readLine, if_neg (LineForm.not_blank_of_heading line _ right h), hsplit]
  simp only [hwords]

theorem readLine_of_continuing (head : Symbol) (right : Text)
    (h : (LineForm.continuing right).Describes line) :
    readLine (some head) line = .ok (some (head, readAlternatives right)) := by
  obtain ⟨hsplit, htrim⟩ := (LineForm.describes_continuing_iff line right).mp h
  rw [readLine, if_neg (LineForm.not_blank_of_continuing line right h), hsplit]
  simp only [htrim]

end Forms

/-- What becomes of a line below a line for the head `previous`. -/
inductive Reading (previous : Option Symbol) (line : Text) :
    Except LineFault (Option (Symbol × List Body)) → Prop
  | blank (h : LineForm.blank.Describes line) : Reading previous line (.ok none)
  | heading (head : Symbol) (right : Text) (h : (LineForm.heading head right).Describes line) :
    Reading previous line (.ok (some (head, readAlternatives right)))
  | continuing (head : Symbol) (right : Text) (h : (LineForm.continuing right).Describes line)
    (hprevious : previous = some head) :
    Reading previous line (.ok (some (head, readAlternatives right)))
  | refused (fault : LineFault)
    (h : ∀ form : LineForm, form.Describes line →
      previous = none ∧ ∃ right, form = .continuing right) :
    Reading previous line (.error fault)

private theorem reading_error (previous : Option Symbol) (line : Text) (fault : LineFault)
    (hblank : ¬line.all isBlank = true)
    (hheading : ∀ left right word, Text.splitArrow line = [left, right] → Text.words left ≠ [word])
    (hcontinuing : ∀ right, Text.splitArrow line = [line] → Text.trim line = '|' :: right →
      previous = none) :
    Reading previous line (.error fault) := by
  apply Reading.refused
  intro form hform
  cases form with
  | blank => exact absurd ((LineForm.describes_blank_iff line).mp hform) hblank
  | heading head right =>
    obtain ⟨left, word, hsplit, hword, -⟩ :=
      (LineForm.describes_heading_iff line head right).mp hform
    exact absurd hword (hheading left right word hsplit)
  | continuing right =>
    obtain ⟨hsplit, htrim⟩ := (LineForm.describes_continuing_iff line right).mp hform
    exact ⟨hcontinuing right hsplit htrim, right, rfl⟩

private theorem reading_error_of_pair (previous : Option Symbol) (line left right : Text)
    (fault : LineFault) (hblank : ¬line.all isBlank = true)
    (hsplit : Text.splitArrow line = [left, right]) (hwords : ∀ word, Text.words left ≠ [word]) :
    Reading previous line (.error fault) := by
  apply reading_error previous line fault hblank
  · intro left' right' word hsplit'
    obtain ⟨rfl, -⟩ : left = left' ∧ right = right' := by simpa using hsplit.symm.trans hsplit'
    exact hwords word
  · simp [hsplit]

theorem reading_readLine (previous : Option Symbol) (line : Text) :
    Reading previous line (readLine previous line) := by
  fun_cases readLine previous line with
  | case1 previous hblank => exact .blank ((LineForm.describes_blank_iff line).mpr hblank)
  | case2 previous hblank left right hsplit hwords =>
    exact reading_error_of_pair previous line left right _ hblank hsplit (by simp [hwords])
  | case3 previous hblank left right hsplit word hword =>
    have hheading := (LineForm.describes_heading_iff line (Symbol.ofWord word) right).mpr
      ⟨left, word, hsplit, hword, rfl⟩
    exact .heading _ right hheading
  | case4 previous hblank left right hsplit _ hmany =>
    exact reading_error_of_pair previous line left right _ hblank hsplit hmany
  | case5 hblank only hsplit =>
    exact reading_error none line _ hblank (by simp [hsplit]) (fun _ _ _ => rfl)
  | case6 hblank only hsplit head rest htrim =>
    obtain ⟨rfl, -⟩ := (Text.splitArrow_eq_singleton_iff line only).mp hsplit
    have hcontinuing := (LineForm.describes_continuing_iff line rest).mpr ⟨hsplit, htrim⟩
    exact .continuing head rest hcontinuing rfl
  | case7 hblank only hsplit head hbar =>
    obtain ⟨rfl, -⟩ := (Text.splitArrow_eq_singleton_iff line only).mp hsplit
    apply reading_error (some head) line _ hblank (by simp [hsplit])
    exact fun right _ htrim => (hbar right htrim).elim
  | case8 previous hblank hpair hsingle =>
    apply reading_error previous line _ hblank
    · exact fun left right _ hsplit => (hpair left right hsplit).elim
    · exact fun _ hsplit _ => (hsingle line hsplit).elim

end Grammar

end Predictive
