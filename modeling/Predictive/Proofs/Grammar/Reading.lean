import Mathlib.Data.List.Infix
import Predictive.Proofs.Grammar.Derivation
import Predictive.Proofs.Grammar.LineForm
/-!
# What is read from a text

A text is read just if every line of it fits below the lines above, and the first line that does not
is the one that is reported. What is read lists the heads in the order in which the lines name them,
each with the alternatives of all lines that are about it.
-/
namespace Predictive

/-- The line has a form, and a line that begins with a bar has a head above it. -/
inductive Fits (above : List Text) (line : Text) : Prop
  | blank (h : LineForm.blank.Describes line)
  | heading (head : Symbol) (right : Text) (h : (LineForm.heading head right).Describes line)
  | continuing (right : Text) (h : (LineForm.continuing right).Describes line)
    (hhead : ∃ earlier ∈ above, ∃ head right, (LineForm.heading head right).Describes earlier)

/-- Every line fits below the lines above it. -/
def WellWritten (lines : List Text) : Prop :=
  ∀ above line below, lines = above ++ line :: below → Fits above line

private theorem wellWritten_nil : WellWritten [] := by
  intro above line below h
  exact absurd h (by simp)

theorem WellWritten.concat (above : List Text) (line : Text) (h : WellWritten above)
    (hline : Fits above line) : WellWritten (above ++ [line]) := by
  intro above' line' below heq
  cases List.eq_nil_or_concat below with
  | inl hnil =>
    subst hnil
    obtain ⟨rfl, hsame⟩ := List.append_inj' heq rfl
    exact (List.singleton_inj.mp hsame) ▸ hline
  | inr hlast =>
    obtain ⟨below, last, rfl⟩ := hlast
    have hcut : above ++ [line] = (above' ++ line' :: below) ++ [last] := by simpa using heq
    exact h above' line' below (List.append_inj' hcut rfl).1

namespace LineForm

/-- The head that the last of the lines is about: the last one that the lines name. -/
def subject (forms : List LineForm) : Option Symbol := (forms.filterMap head?).getLast?

/-- The alternatives of the last line, if it is about the symbol. -/
def lastShare (s : Symbol) (forms : List LineForm) : List Body :=
  match forms.getLast? with
  | some form => if subject forms = some s then form.alternatives else []
  | none => []

/-- The alternatives of all lines that are about the symbol. -/
def alternativesOf (s : Symbol) (forms : List LineForm) : List Body :=
  forms.inits.flatMap (lastShare s)

variable (s : Symbol) (forms : List LineForm) (form : LineForm)

private theorem filterMap_head?_concat :
    (forms ++ [form]).filterMap head? = forms.filterMap head? ++ form.head?.toList := by
  cases form <;> simp [head?]

private theorem subject_concat : subject (forms ++ [form]) = form.head?.or (subject forms) := by
  rw [subject, filterMap_head?_concat, List.getLast?_append, subject]
  cases form.head? <;> rfl

private theorem alternativesOf_concat : alternativesOf s (forms ++ [form]) =
    alternativesOf s forms ++
      if subject (forms ++ [form]) = some s then form.alternatives else [] := by
  rw [alternativesOf, List.inits_append, List.flatMap_append, alternativesOf]
  simp [lastShare]

private theorem mem_of_subject (h : subject forms = some s) : s ∈ forms.filterMap head? :=
  List.mem_of_getLast? h

private theorem head?_eq_some_iff (line : Text) (h : form.Describes line) :
    form.head? = some s ↔ ∃ right, (heading s right).Describes line := by
  constructor
  · intro hhead
    cases form with
    | blank => cases hhead
    | heading head right =>
      cases hhead
      exact ⟨right, h⟩
    | continuing right => cases hhead
  · intro hheading
    obtain ⟨right, hright⟩ := hheading
    rw [describes_unique h hright]
    rfl

private theorem mem_filterMap_head?_iff (lines : List Text) (h : List.Forall₂ Describes forms lines) :
    s ∈ forms.filterMap head? ↔ ∃ line ∈ lines, ∃ right, (heading s right).Describes line := by
  rw [List.mem_filterMap]
  induction h with
  | nil => simp
  | @cons form line forms lines hform _ ih =>
    rw [List.exists_mem_cons_iff, List.exists_mem_cons_iff, ih, head?_eq_some_iff s form line hform]

end LineForm

namespace Grammar

/-- The lines have been read into the grammar. -/
structure Loaded (above : List Text) (forms : List LineForm) (g : Grammar) : Prop where
  written : WellWritten above
  described : List.Forall₂ LineForm.Describes forms above
  heads : g.heads = (forms.filterMap LineForm.head?).eraseDups
  alternatives : ∀ s, g.alternatives s = LineForm.alternativesOf s forms

private theorem Loaded.start?_eq (above : List Text) (forms : List LineForm) (g : Grammar)
    (h : Loaded above forms g) : g.start? = (forms.filterMap LineForm.head?).head? := by
  rw [start?, h.heads]
  cases forms.filterMap LineForm.head? with
  | nil => rw [List.eraseDups_nil]
  | cons s names => rw [List.eraseDups_cons]; rfl

/-- What reading lines can come to. -/
inductive Outcome (lines : List Text) : Except SyntaxError Grammar → Prop
  | loaded (forms : List LineForm) (g : Grammar) (h : Loaded lines forms g) : Outcome lines (.ok g)
  | stopped (e : SyntaxError) (above : List Text) (line : Text) (below : List Text)
    (hlines : lines = above ++ line :: below) (hwritten : WellWritten above)
    (hline : ¬Fits above line) (hnumber : e.line = above.length + 1) : Outcome lines (.error e)

section Steps

private theorem eraseDups_concat (names : List Symbol) (s : Symbol) : (names ++ [s]).eraseDups =
    if s ∈ names then names.eraseDups else names.eraseDups ++ [s] := by
  by_cases h : s ∈ names <;> simp [List.eraseDups_append, List.eraseDups_cons, List.removeAll, h]

variable (above : List Text) (forms : List LineForm) (g : Grammar)

private theorem loaded_empty : Loaded [] [] empty where
  written := wellWritten_nil
  described := .nil
  heads := by simp [heads, empty]
  alternatives := by
    intro s
    rfl

variable (h : Loaded above forms g) (line : Text)

include h

theorem Loaded.blank (hline : LineForm.blank.Describes line) :
    Loaded (above ++ [line]) (forms ++ [.blank]) g where
  written := h.written.concat above line (.blank hline)
  described := List.rel_append h.described (.cons hline .nil)
  heads := by
    rw [LineForm.filterMap_head?_concat, h.heads]
    simp [LineForm.head?]
  alternatives := by
    intro s
    simp [LineForm.alternativesOf_concat, LineForm.alternatives, h.alternatives s]

theorem Loaded.extend (form : LineForm) (hform : form.Describes line) (hline : Fits above line)
    (head : Symbol) (hhead : LineForm.subject (forms ++ [form]) = some head) :
    Loaded (above ++ [line]) (forms ++ [form]) (g.extend head form.alternatives) where
  written := h.written.concat above line hline
  described := List.rel_append h.described (.cons hform .nil)
  heads := by
    rw [Grammar.extend, heads_assign, h.heads, LineForm.filterMap_head?_concat]
    rw [LineForm.subject_concat] at hhead
    cases hname : form.head? with
    | none =>
      rw [hname, Option.none_or] at hhead
      have hmem := LineForm.mem_of_subject head forms hhead
      rw [if_pos (List.mem_eraseDups.mpr hmem), Option.toList_none, List.append_nil]
    | some name =>
      obtain rfl : name = head := by simpa [hname] using hhead
      rw [Option.toList_some, eraseDups_concat]
      simp only [List.mem_eraseDups]
  alternatives := by
    intro s
    rw [Grammar.extend, alternatives_assign, LineForm.alternativesOf_concat, hhead,
      ← h.alternatives]
    by_cases hs : s = head
    · subst hs
      simp
    · have hne : ¬head = s := fun heq => hs heq.symm
      simp [hs, hne]

end Steps

section Runs

private theorem outcome_of_refused (above : List Text) (forms : List LineForm) (g : Grammar)
    (h : Loaded above forms g) (line : Text) (rest : List Text) (fault : LineFault)
    (hline : ∀ form : LineForm, form.Describes line →
      LineForm.subject forms = none ∧ ∃ right, form = .continuing right) :
    Outcome (above ++ line :: rest) (.error ⟨above.length + 1, fault⟩) := by
  refine .stopped _ above line rest rfl h.written ?_ rfl
  intro hfits
  cases hfits with
  | blank hform => exact absurd (hline _ hform).2 (by simp)
  | heading head right hform => exact absurd (hline _ hform).2 (by simp)
  | continuing right hform hhead =>
    obtain ⟨hnone, -⟩ := hline _ hform
    obtain ⟨earlier, hmem, head, right, hheading⟩ := hhead
    have hnamed := (LineForm.mem_filterMap_head?_iff head forms above h.described).mpr
      ⟨earlier, hmem, right, hheading⟩
    rw [List.getLast?_eq_none_iff.mp hnone] at hnamed
    exact absurd hnamed List.not_mem_nil

/-- Each line extends what has been read, or it is the first one that does not fit. -/
private theorem outcome_readLines (rest above : List Text) (forms : List LineForm) (g : Grammar)
    (h : Loaded above forms g) :
    Outcome (above ++ rest) (readLines g (LineForm.subject forms) (above.length + 1) rest) := by
  -- on the lines still to be read; `Loaded` says what the lines above have come to
  induction rest generalizing above forms g with
  | nil => exact .loaded forms g (by rwa [List.append_nil])
  | cons line rest ih =>
    have hread := reading_readLine (LineForm.subject forms) line
    have hnext (form : LineForm) (g' : Grammar)
        (hnext : Loaded (above ++ [line]) (forms ++ [form]) g') :
        Outcome (above ++ line :: rest)
          (readLines g' (LineForm.subject (forms ++ [form])) (above.length + 1 + 1) rest) := by
      simpa using ih (above ++ [line]) (forms ++ [form]) g' hnext
    rw [readLines]
    generalize readLine (LineForm.subject forms) line = outcome at hread
    cases hread with
    | blank hline =>
      have hblank := hnext _ g (h.blank above forms g line hline)
      rwa [LineForm.subject_concat] at hblank
    | heading head right hline =>
      have hhead : LineForm.subject (forms ++ [.heading head right]) = some head := by
        rw [LineForm.subject_concat]
        rfl
      have hheading := hnext _ _
        (h.extend above forms g line _ hline (.heading head right hline) head hhead)
      rwa [hhead] at hheading
    | continuing head right hline hsubject =>
      have hhead : LineForm.subject (forms ++ [.continuing right]) = some head := by
        rw [LineForm.subject_concat]
        exact hsubject
      obtain ⟨earlier, hmem, hearlier⟩ :=
        (LineForm.mem_filterMap_head?_iff head forms above h.described).mp
          (LineForm.mem_of_subject head forms hsubject)
      have hfits : Fits above line := .continuing right hline ⟨earlier, hmem, head, hearlier⟩
      have hcontinuing := hnext _ _ (h.extend above forms g line _ hline hfits head hhead)
      rwa [hhead] at hcontinuing
    | refused fault hline => exact outcome_of_refused above forms g h line rest fault hline

private theorem outcome_read (source : String) : Outcome (Text.lines source.toList) (read source) :=
  outcome_readLines (Text.lines source.toList) [] [] empty loaded_empty

end Runs

/-- A text is read just if each of its lines fits below the lines above it, and otherwise the first
line that does not fit is reported. The heads are those that the lines name, in the order in which
they are named first, and the alternatives of a head are those of the lines that are about it. -/
theorem read_exact (source : String) :
    ((∃ g, read source = .ok g) ↔ WellWritten (Text.lines source.toList)) ∧
    (∀ e, read source = .error e → ∃ above line below,
      Text.lines source.toList = above ++ line :: below ∧ WellWritten above ∧ ¬Fits above line ∧
        e.line = above.length + 1) ∧
    ∀ g, read source = .ok g →
      (∃ forms, List.Forall₂ LineForm.Describes forms (Text.lines source.toList)) ∧
      ∀ forms, List.Forall₂ LineForm.Describes forms (Text.lines source.toList) →
        g.heads = (forms.filterMap LineForm.head?).eraseDups ∧
        g.start? = (forms.filterMap LineForm.head?).head? ∧
        ∀ s, g.alternatives s = LineForm.alternativesOf s forms := by
  have houtcome := outcome_read source
  generalize read source = result at houtcome
  generalize Text.lines source.toList = lines at houtcome
  cases houtcome with
  | loaded forms g h =>
    have hunique : ∀ forms', List.Forall₂ LineForm.Describes forms' lines → forms' = forms :=
      fun forms' h' => LineForm.describes_unique.forall₂ h' h.described
    refine ⟨?_, ?_, ?_⟩
    · exact iff_of_true ⟨g, rfl⟩ h.written
    · intro e he
      cases he
    · intro g' hg'
      cases hg'
      refine ⟨⟨forms, h.described⟩, ?_⟩
      intro forms' hforms'
      rw [hunique forms' hforms']
      exact ⟨h.heads, h.start?_eq, h.alternatives⟩
  | stopped e above line below hlines hwritten hline hnumber =>
    refine ⟨?_, ?_, ?_⟩
    · refine iff_of_false ?_ (fun h => hline (h above line below hlines))
      intro h
      obtain ⟨g, hg⟩ := h
      cases hg
    · intro e' he'
      cases he'
      exact ⟨above, line, below, hlines, hwritten, hline, hnumber⟩
    · intro g hg
      cases hg

/-- A head is taken up again below another one, with bars inside its name and pieces without
words. -/
def reopenedSource : String := "A|B -> x | ε\n\n | y |\nC->\nA|B->A|B\n| z"

def reopened : Grammar := Grammar.ofRules
  [(⟨"A|B"⟩, [[⟨"x"⟩], [Symbol.epsilon], [⟨"y"⟩], [], [⟨"A"⟩], [⟨"B"⟩], [⟨"z"⟩]]), (⟨"C"⟩, [[]])]

/-- The fourth line has two words in front of its arrow, and the one below has none. -/
def spacedSource : String := "S -> a\n\n| b\nb c -> d\n-> e"

theorem read_exact_reopened : WellWritten (Text.lines reopenedSource.toList) ∧
    (∃ forms, List.Forall₂ LineForm.Describes forms (Text.lines reopenedSource.toList) ∧
      ∀ s, reopened.alternatives s = LineForm.alternativesOf s forms) ∧
    ∃ above line below, Text.lines spacedSource.toList = above ++ line :: below ∧
      WellWritten above ∧ ¬Fits above line ∧ 4 = above.length + 1 := by
  have hread : read reopenedSource = .ok reopened := by decide +kernel
  have hrefused : read spacedSource = .error ⟨4, .spacedHead⟩ := by decide +kernel
  obtain ⟨hwritten, -, hloaded⟩ := read_exact reopenedSource
  obtain ⟨-, hstopped, -⟩ := read_exact spacedSource
  obtain ⟨⟨forms, hforms⟩, hall⟩ := hloaded reopened hread
  exact ⟨hwritten.mp ⟨reopened, hread⟩, ⟨forms, hforms, (hall forms hforms).2.2⟩,
    hstopped _ hrefused⟩

end Grammar

end Predictive
