import Predictive.Lexer
import Predictive.Proofs.Lexer.Library
import Predictive.Proofs.Regex.Grouping
import Predictive.Proofs.Regex.Start
import Predictive.Proofs.Regex.Straight
/-!
# Regular expressions as a library

The regular expressions keep what the lexer relies on. A pattern of word boundaries and escaped texts
is read as just these, whatever characters the texts have, and its program is a row without forks. So
it can be said exactly what the pattern finds.
-/
namespace Predictive

namespace Regex

section LayOut

private theorem layOut_parts (a : Regex) (program : Program) :
    a.parts.foldl (fun program b => b.layOut program) program = a.layOut program := by
  induction a generalizing program with
  | cat a b _ ihb =>
    rw [parts, List.foldl_cons, ihb]
    rfl
  | _ => rfl

private theorem layOut_pushPart (a : Regex) (rest : List Regex) (program : Program) :
    (pushPart a rest).foldl (fun program b => b.layOut program) program =
      rest.foldl (fun program b => b.layOut program) (a.layOut program) := by
  fun_cases pushPart a rest with
  | case1 s t rest => simp [layOut, List.foldl_append]
  | case2 => rfl

private theorem layOut_ofParts (list : List Regex) (program : Program) :
    (ofParts list).layOut program = list.foldl (fun program b => b.layOut program) program := by
  induction list generalizing program with
  | nil => rfl
  | cons a list ih =>
    cases list with
    | nil => rfl
    | cons b list => exact ih (a.layOut program)

private theorem layOut_concat (list : List Regex) (program : Program) :
    (concat list).layOut program = list.foldl (fun program b => b.layOut program) program := by
  have hpush (list : List Regex) (program : Program) :
      (list.foldr pushPart []).foldl (fun program b => b.layOut program) program =
        list.foldl (fun program b => b.layOut program) program := by
    induction list generalizing program with
    | nil => rfl
    | cons a list ih => rw [List.foldr_cons, layOut_pushPart, ih, List.foldl_cons]
  rw [concat, layOut_ofParts, hpush]
  induction list generalizing program with
  | nil => rfl
  | cons a list ih => rw [List.flatMap_cons, List.foldl_append, layOut_parts, ih, List.foldl_cons]

end LayOut

section Reading

variable (limit levels : Nat) (captures : Captures) (g : Group)

/-- A brace behind the boundary would be read as a part of it. -/
private theorem readGroup_boundary (rest : Text) (hrest : ∀ s, rest ≠ '\x7b' :: s) :
    readGroup (limit + 1) levels false captures g ('\\' :: 'b' :: rest) =
      readGroup limit levels false captures (g.push (.anchor (.word .boundary))) rest := by
  have hboundary : readBoundary false rest = some (.boundary, rest) := by
    simp only [readBoundary]
  simp [readGroup, skip, readPart, readEscape, isEscapable, hboundary, phraseOf]

private theorem isEscapable_of_mem (c : Char) (hc : c ∈ metaChars) : isEscapable c = true := by
  have hall : metaChars.all isEscapable = true := by decide
  exact List.all_eq_true.mp hall c hc

private theorem readGroup_literal (c : Char) (rest : Text) :
    readGroup (limit + 1) levels false captures g (escape [c] ++ rest) =
      readGroup limit levels false captures (g.push (.literal false c)) rest := by
  by_cases hc : c ∈ metaChars
  · have hescape : escape [c] ++ rest = '\\' :: c :: rest := by simp [escape, hc]
    rw [hescape]
    simp [readGroup, skip, readPart, readEscape, isEscapable_of_mem c hc, phraseOf]
  · have hescape : escape [c] ++ rest = c :: rest := by simp [escape, hc]
    rw [hescape]
    simp only [metaChars, List.mem_cons, not_or, List.not_mem_nil] at hc
    simp [readGroup, skip, readPart, hc]

private theorem escape_cons (c : Char) (word : Text) :
    escape (c :: word) = escape [c] ++ escape word := by
  simp [escape]

private theorem readGroup_escape (word rest : Text) :
    readGroup (limit + word.length) levels false captures g (escape word ++ rest) =
      readGroup limit levels false captures
        ⟨g.branches, (word.map (Phrase.literal false)).reverse ++ g.parts⟩ rest := by
  induction word generalizing g with
  | nil => rfl
  | cons c word ih =>
    rw [List.length_cons, ← Nat.add_assoc, escape_cons, List.append_assoc, readGroup_literal, ih]
    simp [Group.push]

end Reading

private theorem length_le_escape (word : Text) : word.length ≤ (escape word).length := by
  induction word with
  | nil => exact Nat.le_refl _
  | cons c word ih =>
    have hone : 1 ≤ (escape [c]).length := by
      by_cases hc : c ∈ metaChars <;> simp [escape, hc]
    rw [escape_cons, List.length_append, List.length_cons]
    omega

private theorem escape_ne_brace (word rest : Text) (hrest : ∀ s, rest ≠ '\x7b' :: s) (s : Text) :
    escape word ++ rest ≠ '\x7b' :: s := by
  cases word with
  | nil => exact hrest s
  | cons c word =>
    rw [escape_cons]
    by_cases hc : c ∈ metaChars
    · simp [escape, hc]
    · have hne : c ≠ '\x7b' := fun heq => hc (heq ▸ by decide)
      simp [escape, hc, hne]

private theorem depths_literals (word : Text) (rest : List Phrase) :
    Phrase.depths (word.map (Phrase.literal false) ++ rest) = Phrase.depths rest := by
  induction word with
  | nil => rfl
  | cons c word ih => simp [Phrase.depths, Phrase.depth, ih]

end Regex

namespace PatternPart

open Regex

/-- The phrases that the parts are read as. -/
private def phrases : List PatternPart → List Phrase
  | [] => []
  | wordBoundary :: parts => .anchor (.word .boundary) :: phrases parts
  | literal text :: parts => text.map (.literal false) ++ phrases parts

private def expressions : List PatternPart → List Regex
  | [] => []
  | wordBoundary :: parts => .assertion (.word true .boundary) :: expressions parts
  | literal text :: parts => text.map (fun c => .literal [c]) ++ expressions parts

/-- The instructions of the parts. -/
private def row : List PatternPart → List Instruction
  | [] => [.accept]
  | wordBoundary :: parts => .assertion (.word true .boundary) :: row parts
  | literal text :: parts => text.map (fun c => .take (Ranges.single c)) ++ row parts

private theorem source_ne_brace (parts : List PatternPart) (rest : Text)
    (hrest : ∀ s, rest ≠ '\x7b' :: s) (s : Text) : source library parts ++ rest ≠ '\x7b' :: s := by
  induction parts generalizing s with
  | nil => exact hrest s
  | cons part parts ih =>
    cases part with
    | wordBoundary => simp [source]
    | literal text =>
      rw [source, List.append_assoc]
      exact escape_ne_brace text _ ih s

private theorem length_phrases_le (parts : List PatternPart) :
    (phrases parts).length ≤ (source library parts).length := by
  induction parts with
  | nil => exact Nat.le_refl _
  | cons part parts ih =>
    cases part with
    | wordBoundary =>
      have hboundary : "\\b".length = 2 := rfl
      simp only [phrases, source, List.length_cons, List.length_append, String.length_toList]
      omega
    | literal text =>
      have htext := length_le_escape text
      simp only [phrases, source, List.length_append, List.length_map]
      exact Nat.add_le_add htext ih

private theorem depths_phrases (parts : List PatternPart) : Phrase.depths (phrases parts) = 0 := by
  induction parts with
  | nil => rfl
  | cons part parts ih =>
    cases part with
    | wordBoundary => simp [phrases, Phrase.depths, Phrase.depth, ih]
    | literal text => rw [phrases, depths_literals, ih]

private theorem readGroup_source (parts : List PatternPart) (limit levels : Nat)
    (captures : Captures) (g : Group) (rest : Text) (hrest : ∀ s, rest ≠ '\x7b' :: s) :
    readGroup (limit + (phrases parts).length) levels false captures g
        (source library parts ++ rest) =
      readGroup limit levels false captures ⟨g.branches, (phrases parts).reverse ++ g.parts⟩
        rest := by
  induction parts generalizing g with
  | nil => rfl
  | cons part parts ih =>
    cases part with
    | wordBoundary =>
      have hsource : source library (wordBoundary :: parts) ++ rest =
        '\\' :: 'b' :: (source library parts ++ rest) := rfl
      rw [hsource, phrases, List.length_cons, ← Nat.add_assoc,
        readGroup_boundary _ _ _ _ _ (source_ne_brace parts rest hrest), ih]
      simp [Group.push]
    | literal text =>
      have hlimit : limit + (phrases (literal text :: parts)).length =
          limit + (phrases parts).length + text.length := by
        simp only [phrases, List.length_append, List.length_map]
        omega
      have hsource : source library (literal text :: parts) ++ rest =
        escape text ++ (source library parts ++ rest) := List.append_assoc _ _ _
      rw [hlimit, hsource, readGroup_escape, ih]
      simp [phrases]

private theorem ofText_source (parts : List PatternPart) :
    Phrase.ofText (source library parts) = some (Phrase.ofParts (phrases parts)) := by
  obtain ⟨extra, hextra⟩ := Nat.exists_eq_add_of_le (length_phrases_le parts)
  have hread : readGroup ((source library parts).length + 1) depthLimit false ⟨0, []⟩ .empty
      (source library parts) = some (Phrase.ofParts (phrases parts), ⟨0, []⟩, []) := by
    have hsource := readGroup_source parts (extra + 1) depthLimit ⟨0, []⟩ .empty [] (by simp)
    have hlimit : (source library parts).length + 1 = extra + 1 + (phrases parts).length := by
      omega
    rw [List.append_nil] at hsource
    rw [hlimit, hsource]
    simp [readGroup, skip, Group.close, Group.branch, Group.empty, Phrase.ofBranches]
  have hdepth : (Phrase.ofParts (phrases parts)).depth ≤ 1 := by
    have hdepths := depths_phrases parts
    generalize phrases parts = list at hdepths
    fun_cases Phrase.ofParts list with
    | case1 => exact Nat.zero_le _
    | case2 part => simp_all [Phrase.depths]
    | case3 => exact Nat.le_of_eq (congrArg (· + 1) hdepths)
  rw [Phrase.ofText, hread]
  exact if_pos (Nat.le_trans hdepth (by decide))

private theorem meanings_phrases (parts : List PatternPart) :
    Phrase.meanings {} (phrases parts) = some (expressions parts, {}) := by
  induction parts with
  | nil => rfl
  | cons part parts ih =>
    cases part with
    | wordBoundary => simp [phrases, expressions, Phrase.meanings, Phrase.meaning, Flags.anchor, ih]
    | literal text =>
      rw [phrases, expressions]
      induction text with
      | nil => simpa using ih
      | cons c text ihc =>
        have hc : Flags.literal {} false c = some (.literal [c]) := by simp [Flags.literal]
        simp [Phrase.meanings, Phrase.meaning, hc, ihc]

private theorem meaning_ofParts (list : List Phrase) (rs : List Regex) (f f' : Flags)
    (h : Phrase.meanings f list = some (rs, f')) :
    ∃ r, (Phrase.ofParts list).meaning f = some (r, f') ∧
      ∀ program, r.layOut program = rs.foldl (fun program b => b.layOut program) program := by
  fun_cases Phrase.ofParts list with
  | case1 =>
    cases h
    exact ⟨.empty, rfl, fun _ => rfl⟩
  | case2 part =>
    rw [Phrase.meanings] at h
    cases hpart : part.meaning f with
    | none => simp [hpart] at h
    | some r =>
      simp only [hpart, Phrase.meanings, Option.map_some, Option.some.injEq, Prod.mk.injEq] at h
      obtain ⟨rfl, rfl⟩ := h
      exact ⟨r.1, rfl, fun _ => rfl⟩
  | case3 => exact ⟨concat rs, by rw [Phrase.meaning, h]; rfl, layOut_concat rs⟩

private theorem layOut_expressions (parts : List PatternPart) (program : Program) :
    (((expressions parts).foldl (fun program b => b.layOut program) program).push .accept).toList =
      program.toList ++ row parts := by
  induction parts generalizing program with
  | nil => simp [expressions, row]
  | cons part parts ih =>
    cases part with
    | wordBoundary =>
      rw [expressions, List.foldl_cons, ih]
      simp [row, layOut]
    | literal text =>
      rw [expressions, row, List.foldl_append, ih, List.foldl_map]
      induction text generalizing program with
      | nil => rfl
      | cons c text ihc =>
        rw [List.foldl_cons, ihc]
        simp [layOut]

end PatternPart

namespace Pattern

open Instruction

private theorem eq_of_find (p : Pattern) (text : Text) (m : Match) (h : p.find text = some m) :
    ∃ after, text = m.before ++ (m.covered ++ after) := by
  obtain ⟨r, -, rfl⟩ := Option.map_eq_some_iff.mp h
  refine ⟨(text.drop r.1).drop (r.2 - r.1), ?_⟩
  rw [List.take_append_drop, List.take_append_drop]

private theorem inRanges_single (c d : Char) :
    inRanges (Ranges.single c) d.toNat = true ↔ d = c := by
  rw [← Char.toNat_inj, Ranges.single, inRanges, inRanges]
  split
  · simp only [Bool.false_eq_true, false_iff]
    omega
  · split
    · simp only [true_iff]
      omega
    · simp only [Bool.false_eq_true, false_iff]
      omega

private theorem program_of_source (parts : List PatternPart) (p : Pattern)
    (hp : ofText (PatternLibrary.caretGroup (PatternPart.source Regex.library parts)) = some p) :
    p.program.toList = assertion .textStart :: PatternPart.row parts := by
  obtain ⟨r, f, hmeaning, rfl⟩ := eq_of_group _ _ p (PatternPart.ofText_source parts) hp
  obtain ⟨r', hr', hlayOut⟩ :=
    PatternPart.meaning_ofParts _ _ {} {} (PatternPart.meanings_phrases parts)
  obtain ⟨rfl, rfl⟩ : r' = r ∧ {} = f := by simpa using hr'.symm.trans hmeaning
  rw [ofRegex, Regex.layOut_concat]
  dsimp only [List.foldl_cons, List.foldl_nil]
  rw [hlayOut, PatternPart.layOut_expressions]
  simp [Regex.layOut]

private theorem isStraight_of_mem_row (parts : List PatternPart) (i : Instruction)
    (hi : i ∈ PatternPart.row parts) : i.isStraight = true := by
  induction parts with
  | nil =>
    rw [List.mem_singleton.mp hi]
    rfl
  | cons part parts ih =>
    cases part with
    | wordBoundary =>
      rcases List.mem_cons.mp hi with rfl | hi
      · rfl
      · exact ih hi
    | literal text =>
      rcases List.mem_append.mp hi with hi | hi
      · obtain ⟨c, -, rfl⟩ := List.mem_map.mp hi
        rfl
      · exact ih hi

private theorem isRow_of_source (parts : List PatternPart) (p : Pattern)
    (hp : ofText (PatternLibrary.caretGroup (PatternPart.source Regex.library parts)) = some p) :
    p.IsRow where
  straight := by
    rw [p.program_of_source parts hp]
    exact List.forall_mem_cons.mpr ⟨rfl, isStraight_of_mem_row parts⟩
  startsText := startsText_of_group _ p (by simp [PatternPart.ofText_source]) hp

private theorem follow_assertion (a : Assertion) (row : List Instruction) (before : Option Char)
    (text : Text) : follow (assertion a :: row) before text =
      if a.holds before text.head? then follow row before text else none := by
  cases text with
  | nil => by_cases h : a.holds before none <;> simp [follow, overstep, h]
  | cons c text => by_cases h : a.holds before (some c) <;> simp [follow, overstep, h]

private theorem follow_take (c : Char) (row : List Instruction) (before : Option Char) (text : Text)
    (n : Nat) : follow (take (Ranges.single c) :: row) before text = some n ↔
      ∃ rest m, text = c :: rest ∧ m + 1 = n ∧ follow row (some c) rest = some m := by
  cases text with
  | nil => simp [follow, overstep]
  | cons d text =>
    by_cases hd : d = c
    · subst hd
      simp [follow, overstep, (inRanges_single d d).mpr rfl, and_comm]
    · simp [follow, overstep, inRanges_single, hd]

/-- One comes to the end of the row just where the parts take what is in front. -/
private theorem follow_row (parts : List PatternPart) (before : Option Char) (text : Text) (n : Nat) :
    follow (PatternPart.row parts) before text = some n ↔ ∃ covered after,
      text = covered ++ after ∧ covered.length = n ∧
        PatternPart.Take isWordChar parts before covered after := by
  induction parts generalizing before text n with
  | nil => cases text <;> simp [PatternPart.row, PatternPart.Take, follow, overstep, eq_comm]
  | cons part parts ih =>
    cases part with
    | wordBoundary =>
      have hboundary : Assertion.holds (.word true .boundary) before text.head? = true ↔
        before.any isWordChar ≠ text.head?.any isWordChar := bne_iff_ne
      rw [PatternPart.row, follow_assertion]
      constructor
      · intro h
        split at h
        · next hholds =>
          obtain ⟨covered, after, rfl, hlength, htake⟩ := (ih before text n).mp h
          exact ⟨covered, after, rfl, hlength, hboundary.mp hholds, htake⟩
        · cases h
      · rintro ⟨covered, after, rfl, hlength, hedge, htake⟩
        rw [if_pos (hboundary.mpr hedge)]
        exact (ih before _ n).mpr ⟨covered, after, rfl, hlength, htake⟩
    | literal word =>
      rw [PatternPart.row]
      induction word generalizing before text n with
      | nil => simp [PatternPart.Take, ih]
      | cons c word ihword =>
        rw [List.map_cons, List.cons_append, follow_take]
        constructor
        · rintro ⟨rest, m, rfl, rfl, h⟩
          obtain ⟨covered, after, rfl, rfl, tail, rfl, htake⟩ := (ihword (some c) rest m).mp h
          refine ⟨c :: (word ++ tail), after, rfl, rfl, tail, rfl, ?_⟩
          rwa [List.getLast?_cons, Option.some_or, ← Option.or_some]
        · rintro ⟨_, after, rfl, rfl, tail, rfl, htake⟩
          refine ⟨_, _, rfl, rfl, (ihword (some c) _ _).mpr ⟨_, after, rfl, rfl, tail, rfl, ?_⟩⟩
          rwa [List.getLast?_cons, Option.some_or, ← Option.or_some] at htake

end Pattern

/-- Regular expressions keep what is documented of them. -/
theorem Regex.library_documented : library.Documented isWordChar where
  within pattern find hfind text m hm := by
    obtain ⟨p, -, rfl⟩ := Option.map_eq_some_iff.mp hfind
    exact p.eq_of_find text m hm
  caret pattern find hpattern hfind text m hm := by
    obtain ⟨p, hp, rfl⟩ := Option.map_eq_some_iff.mp hfind
    have hphrase : (Phrase.ofText pattern).isSome := by
      by_contra hnone
      rw [Option.not_isSome_iff_eq_none] at hnone
      simp [library, Pattern.ofText, Regex.ofText, hnone] at hpattern
    exact p.before_eq_nil_of_startsText (Pattern.startsText_of_group pattern p hphrase hp) text m hm
  parts parts find hfind text m := by
    obtain ⟨p, hp, rfl⟩ := Option.map_eq_some_iff.mp hfind
    have hstart : Assertion.holds .textStart none text.head? = true := rfl
    rw [p.find_row (p.isRow_of_source parts hp), p.program_of_source parts hp,
      Pattern.follow_assertion, if_pos hstart, Option.map_eq_some_iff]
    simp only [Pattern.follow_row]
    constructor
    · rintro ⟨_, ⟨covered, after, rfl, rfl, htake⟩, rfl⟩
      exact ⟨rfl, after, by simpa using htake⟩
    · rintro ⟨hbefore, after, rfl, htake⟩
      refine ⟨_, ⟨m.covered, after, rfl, rfl, htake⟩, ?_⟩
      rw [List.take_left, ← hbefore]

end Predictive
