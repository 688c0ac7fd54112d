import Mathlib.Data.List.Chain
import Mathlib.Data.List.DropRight
import Predictive.Text.Lines
/-!
# Putting texts together and taking them apart

Words that stand with spaces between them are the words of the text, lines that stand with line
feeds between them are its lines, and a text that holds no arrow goes through `splitArrow` as it is.
What is taken apart in turn holds none of the separators.
-/
namespace Predictive

namespace Text

theorem mem_intercalate (separator : Text) (pieces : List Text) (c : Char)
    (h : c ∈ separator.intercalate pieces) : c ∈ separator ∨ ∃ piece ∈ pieces, c ∈ piece := by
  induction pieces with
  | nil => exact absurd h List.not_mem_nil
  | cons piece pieces ih =>
    cases pieces with
    | nil => exact Or.inr ⟨piece, List.mem_cons_self, by simpa using h⟩
    | cons next rest =>
      rw [List.intercalate_cons_cons] at h
      simp only [List.mem_append] at h
      rcases h with (h | h) | h
      · exact Or.inr ⟨piece, List.mem_cons_self, h⟩
      · exact Or.inl h
      · rcases ih h with h | ⟨piece', hpiece', h⟩
        · exact Or.inl h
        · exact Or.inr ⟨piece', List.mem_cons_of_mem _ hpiece', h⟩

theorem intercalate_flatMap {α : Type} (separator : String) (xs : List α) (f : α → List String)
    (h : ∀ x ∈ xs, f x ≠ []) :
    separator.intercalate (xs.map (fun x => separator.intercalate (f x))) =
      separator.intercalate (xs.flatMap f) := by
  induction xs with
  | nil => rfl
  | cons x xs ih =>
    obtain ⟨hx, hxs⟩ := List.forall_mem_cons.mp h
    cases xs with
    | nil => simp
    | cons y xs =>
      have hne : (y :: xs).flatMap f ≠ [] := by
        rw [List.flatMap_cons]
        exact List.append_ne_nil_of_left_ne_nil (hxs y List.mem_cons_self) _
      have hjoin := String.intercalate_append_of_ne_nil (s := separator) hx hne
      rw [List.map_cons, String.intercalate_cons_of_ne_nil (by simp), ih hxs]
      exact hjoin.symm

private theorem intercalate_eq_empty_iff (separator : String) (texts : List String)
    (h : ∀ text ∈ texts, text ≠ "") : separator.intercalate texts = "" ↔ texts = [] := by
  cases texts with
  | nil => simp
  | cons text rest =>
    have htext := h text List.mem_cons_self
    cases rest with
    | nil => simpa using htext
    | cons next rest =>
      rw [String.intercalate_cons_of_ne_nil (by simp), String.append_assoc,
        String.append_eq_empty_iff]
      simp [htext]

private theorem flatMap_filter_ne_nil {α : Type} (xs : List α) (f : α → List String) :
    xs.flatMap f = (xs.filter (fun x => f x ≠ [])).flatMap f := by
  induction xs with
  | nil => rfl
  | cons x xs ih =>
    rw [List.flatMap_cons, ih]
    by_cases hx : f x = [] <;> simp [hx]

theorem intercalate_nonempty {α : Type} (separator : String) (xs : List α) (f : α → List String)
    (h : ∀ x ∈ xs, ∀ text ∈ f x, text ≠ "") :
    separator.intercalate
        ((xs.map (fun x => separator.intercalate (f x))).filter (fun text => text ≠ "")) =
      separator.intercalate (xs.flatMap f) := by
  have hkept : xs.filter (fun x => separator.intercalate (f x) ≠ "") =
      xs.filter (fun x => f x ≠ []) := by
    apply List.filter_congr
    intro x hx
    simp [intercalate_eq_empty_iff separator (f x) (h x hx)]
  rw [List.filter_map, flatMap_filter_ne_nil xs f,
    ← intercalate_flatMap separator (xs.filter (fun x => f x ≠ [])) f (by simp), ← hkept]
  rfl

theorem toList_join_lines {α : Type} (xs : List α) (row : α → String) :
    (String.join (xs.map (fun x => row x ++ "\n"))).toList =
      ['\n'].intercalate (xs.map (fun x => (row x).toList) ++ [[]]) := by
  induction xs with
  | nil => rfl
  | cons x xs ih =>
    obtain ⟨next, rest, hrest⟩ : ∃ next rest,
        xs.map (fun x => (row x).toList) ++ [[]] = next :: rest :=
      List.exists_cons_of_ne_nil (by simp)
    rw [hrest] at ih
    rw [List.map_cons, String.join_cons, String.toList_append, ih, List.map_cons, List.cons_append,
      hrest, List.intercalate_cons_cons, String.toList_append]
    rfl

theorem toList_pushn (s : String) (c : Char) (n : Nat) :
    (s.pushn c n).toList = s.toList ++ List.replicate n c := by
  induction n with
  | zero => simp [String.pushn, Nat.repeat]
  | succ n ih =>
    change ((s.pushn c n).push c).toList = _
    rw [String.toList_push, ih, List.append_assoc, List.replicate_succ']

theorem isBlank_of_mem_replicate (n : Nat) : ∀ c ∈ List.replicate n ' ', isBlank c = true := by
  intro c hc
  rw [List.eq_of_mem_replicate hc]
  decide

section Words

theorem words_blanks_append (blanks text : Text) (h : ∀ c ∈ blanks, isBlank c = true) :
    words (blanks ++ text) = words text := by
  induction blanks with
  | nil => rfl
  | cons c blanks ih =>
    obtain ⟨hc, hblanks⟩ := List.forall_mem_cons.mp h
    exact (words_append_blank [] (blanks ++ text) c hc).trans (ih hblanks)

theorem words_of_blanks (blanks : Text) (h : ∀ c ∈ blanks, isBlank c = true) :
    words blanks = [] := by
  have happend := words_blanks_append blanks [] h
  rwa [List.append_nil] at happend

theorem words_append_blanks (text blanks : Text) (h : ∀ c ∈ blanks, isBlank c = true) :
    words (text ++ blanks) = words text := by
  cases blanks with
  | nil => rw [List.append_nil]
  | cons c blanks =>
    obtain ⟨hc, hblanks⟩ := List.forall_mem_cons.mp h
    rw [words_append_blank text blanks c hc, words_of_blanks blanks hblanks, List.append_nil]

private theorem exists_run (p : Char → Bool) (text : Text) : ∃ run rest, text = run ++ rest ∧
    (∀ c ∈ run, p c = true) ∧ ∀ c ∈ rest.head?, p c = false := by
  induction text with
  | nil => exact ⟨[], [], rfl, by simp, by simp⟩
  | cons c text ih =>
    by_cases hc : p c = true
    · obtain ⟨run, rest, rfl, hrun, hrest⟩ := ih
      exact ⟨c :: run, rest, rfl, List.forall_mem_cons.mpr ⟨hc, hrun⟩, hrest⟩
    · exact ⟨[], c :: text, rfl, by simp, by simpa using hc⟩

theorem exists_first_word (text : Text) (h : ¬∀ c ∈ text, isBlank c = true) :
    ∃ before word after, text = before ++ (word ++ after) ∧ (∀ c ∈ before, isBlank c = true) ∧
      word ≠ [] ∧ (∀ c ∈ word, isBlank c = false) ∧ (∀ c ∈ after.head?, isBlank c = true) ∧
      words text = word :: words after := by
  obtain ⟨before, text, rfl, hbefore, hhead⟩ := exists_run isBlank text
  obtain ⟨word, after, rfl, hword, hafter⟩ := exists_run (!isBlank ·) text
  have hsolid : ∀ c ∈ word, isBlank c = false := fun c hc => by simpa using hword c hc
  have hne : word ≠ [] := by
    intro hnil
    subst hnil
    cases after with
    | nil => exact h (by simpa using hbefore)
    | cons c after => exact absurd (hhead c rfl) (by simpa using hafter c rfl)
  refine ⟨before, word, after, rfl, hbefore, hne, hsolid, by simpa using hafter, ?_⟩
  rw [words_blanks_append before _ hbefore]
  cases after with
  | nil => rw [List.append_nil, words_of_solid word hne hsolid]; rfl
  | cons c after =>
    have hc : isBlank c = true := by simpa using hafter c rfl
    rw [words_append_blank word after c hc, words_of_solid word hne hsolid]
    exact congrArg (word :: ·) (words_append_blank [] after c hc).symm

private theorem words_eq_nil_iff (text : Text) :
    words text = [] ↔ ∀ c ∈ text, isBlank c = true := by
  constructor
  · intro hnil
    by_contra h
    obtain ⟨_, _, _, _, _, _, _, _, hwords⟩ := exists_first_word text h
    exact absurd (hwords.symm.trans hnil) (by simp)
  · exact words_of_blanks text

theorem words_intercalate (ws : List Text)
    (h : ∀ w ∈ ws, w ≠ [] ∧ ∀ c ∈ w, isBlank c = false) : words ([' '].intercalate ws) = ws := by
  induction ws with
  | nil => exact words_of_blanks [] (by simp)
  | cons w ws ih =>
    obtain ⟨⟨hne, hw⟩, hws⟩ := List.forall_mem_cons.mp h
    have hword := words_of_solid w hne hw
    cases ws with
    | nil => rwa [List.intercalate_singleton]
    | cons next rest =>
      have hblank : isBlank ' ' = true := by decide
      have hsplit : [' '].intercalate (w :: next :: rest) =
          w ++ ' ' :: [' '].intercalate (next :: rest) := by simp [List.intercalate_cons_cons]
      rw [hsplit, words_append_blank _ _ _ hblank, hword, ih hws]
      rfl

end Words

section Trimming

theorem trim_eq_rdropWhile (text : Text) :
    trim text = (text.dropWhile isBlank).rdropWhile isBlank := rfl

theorem trim_blanks_append (blanks : Text) (c : Char) (text : Text)
    (hblanks : ∀ b ∈ blanks, isBlank b = true) (hc : isBlank c = false) :
    trim (blanks ++ c :: text) = c :: text.rdropWhile isBlank := by
  rw [trim_eq_rdropWhile, List.dropWhile_append_of_pos hblanks,
    List.dropWhile_cons_of_neg (by simp [hc])]
  simp only [List.rdropWhile, List.reverse_cons, List.dropWhile_append]
  split
  · next hnil =>
    rw [List.isEmpty_iff.mp hnil, List.dropWhile_cons_of_neg (by simp [hc])]
    rfl
  · simp

theorem words_rdropWhile (text : Text) : words (text.rdropWhile isBlank) = words text := by
  have hsplit : text.rdropWhile isBlank ++ text.rtakeWhile isBlank = text :=
    List.rdropWhile_append_rtakeWhile
  have hblanks : ∀ c ∈ text.rtakeWhile isBlank, isBlank c = true :=
    fun c hc => List.mem_rtakeWhile_imp hc
  rw [← words_append_blanks _ _ hblanks, hsplit]

private theorem words_trim (text : Text) : words (trim text) = words text := by
  have hblanks : ∀ c ∈ text.takeWhile isBlank, isBlank c = true :=
    fun c hc => List.mem_takeWhile_imp hc
  have hsplit := words_blanks_append (text.takeWhile isBlank) (text.dropWhile isBlank) hblanks
  rw [List.takeWhile_append_dropWhile] at hsplit
  rw [trim_eq_rdropWhile, words_rdropWhile, hsplit]

theorem trim_word (before word after : Text) (hbefore : ∀ c ∈ before, isBlank c = true)
    (hne : word ≠ []) (hword : ∀ c ∈ word, isBlank c = false)
    (hafter : ∀ c ∈ after, isBlank c = true) : trim (before ++ (word ++ after)) = word := by
  obtain ⟨c, rest, rfl⟩ := List.exists_cons_of_ne_nil hne
  obtain ⟨hc, hrest⟩ := List.forall_mem_cons.mp hword
  have hkeep : rest.rdropWhile isBlank = rest := by
    apply List.rdropWhile_eq_self_iff.mpr
    intro hne
    simp [hrest _ (List.getLast_mem hne)]
  rw [List.cons_append, trim_blanks_append before c _ hbefore hc, List.rdropWhile,
    List.reverse_append, List.dropWhile_append_of_pos (by simpa using hafter)]
  exact congrArg (c :: ·) hkeep

/-- A text has a single word just if trimming leaves that word. -/
theorem words_eq_singleton_iff (text word : Text) :
    words text = [word] ↔ trim text = word ∧ word ≠ [] ∧ ∀ c ∈ word, isBlank c = false := by
  constructor
  · intro h
    have hblank : ¬∀ c ∈ text, isBlank c = true := by
      intro hall
      rw [words_of_blanks text hall] at h
      cases h
    obtain ⟨before, first, after, htext, hbefore, hne, hfirst, -, hwords⟩ :=
      exists_first_word text hblank
    obtain ⟨rfl, hafter⟩ := List.cons.inj (hwords.symm.trans h)
    rw [htext]
    exact ⟨trim_word before first after hbefore hne hfirst ((words_eq_nil_iff after).mp hafter),
      hne, hfirst⟩
  · intro h
    obtain ⟨htrim, hne, hword⟩ := h
    rw [← words_trim, htrim, words_of_solid word hne hword]

theorem trim_within (text : Text) : trim text <:+: text :=
  (List.rdropWhile_prefix isBlank _).isInfix.trans (List.dropWhile_suffix isBlank).isInfix

end Trimming

section Lines

private theorem closeLines_eq_self (ls : List Text) (h : ∀ l ∈ ls, l ≠ [] ∧ '\r' ∉ l) :
    closeLines ls = ls := by
  induction ls with
  | nil => rfl
  | cons l ls ih =>
    obtain ⟨⟨hne, hreturn⟩, hls⟩ := List.forall_mem_cons.mp h
    cases ls with
    | nil => rw [closeLines, if_neg hne]
    | cons next rest =>
      have hlast : l.getLast? ≠ some '\r' := fun hlast => hreturn (List.mem_of_getLast? hlast)
      rw [closeLines, stripReturn, if_neg hlast, ih hls]

theorem lines_intercalate_eq_closeLines (ls : List Text) (h : ∀ l ∈ ls, '\n' ∉ l) :
    lines (['\n'].intercalate ls) = closeLines ls := by
  by_cases hnil : ls = []
  · subst hnil
    rfl
  · rw [lines, List.splitOn_intercalate '\n' h hnil]

theorem lines_intercalate (ls : List Text) (h : ∀ l ∈ ls, l ≠ [] ∧ '\n' ∉ l ∧ '\r' ∉ l) :
    lines (['\n'].intercalate ls) = ls := by
  rw [lines_intercalate_eq_closeLines ls (fun l hl => (h l hl).2.1)]
  exact closeLines_eq_self ls (fun l hl => ⟨(h l hl).1, (h l hl).2.2⟩)

end Lines

section Arrows

/-- No `-` with a `>` behind it. -/
def Arrowless (text : Text) : Prop := text.IsChain (fun a b => ¬(a = '-' ∧ b = '>'))

theorem arrowless_iff (text : Text) : Arrowless text ↔ ¬['-', '>'] <:+: text := by
  rw [Arrowless, List.isChain_iff_forall_rel_of_append_cons_cons]
  constructor
  · rintro h ⟨before, after, rfl⟩
    exact @h '-' '>' before after (by simp) ⟨rfl, rfl⟩
  · rintro h a b before after rfl ⟨rfl, rfl⟩
    exact h ⟨before, after, by simp⟩

theorem arrowless_append (before after : Text) (hbefore : Arrowless before)
    (hafter : Arrowless after) (h : before.getLast? ≠ some '-' ∨ after.head? ≠ some '>') :
    Arrowless (before ++ after) := by
  apply List.isChain_append.mpr
  refine ⟨hbefore, hafter, ?_⟩
  rintro a ha b hb ⟨rfl, rfl⟩
  exact h.elim (fun h => h ha) (fun h => h hb)

theorem arrowless_of_not_mem (text : Text) (h : '-' ∉ text) : Arrowless text := by
  rw [arrowless_iff]
  exact fun harrow => h (harrow.subset List.mem_cons_self)

theorem arrowless_append_of_not_mem (before after : Text) (hbefore : '-' ∉ before)
    (hafter : Arrowless after) : Arrowless (before ++ after) := by
  apply arrowless_append before after (arrowless_of_not_mem before hbefore) hafter
  exact Or.inl (fun hlast => hbefore (List.mem_of_getLast? hlast))

theorem arrowless_intercalate (pieces : List Text) (h : ∀ piece ∈ pieces, Arrowless piece) :
    Arrowless ([' '].intercalate pieces) := by
  induction pieces with
  | nil => exact .nil
  | cons piece pieces ih =>
    obtain ⟨hpiece, hpieces⟩ := List.forall_mem_cons.mp h
    cases pieces with
    | nil => rwa [List.intercalate_singleton]
    | cons next rest =>
      rw [List.intercalate_cons_cons, List.append_assoc]
      have hspaced := arrowless_append_of_not_mem [' '] _ (by decide) (ih hpieces)
      exact arrowless_append piece _ hpiece hspaced (Or.inr (by simp))

theorem splitArrow_ne_nil (text : Text) : splitArrow text ≠ [] := by
  fun_cases splitArrow text <;> simp

private theorem splitArrow_cons (c : Char) (text : Text) (h : ¬(c = '-' ∧ text.head? = some '>')) :
    ∃ piece pieces, splitArrow text = piece :: pieces ∧
      splitArrow (c :: text) = (c :: piece) :: pieces := by
  obtain ⟨piece, pieces, hrest⟩ := List.exists_cons_of_ne_nil (splitArrow_ne_nil text)
  refine ⟨piece, pieces, hrest, ?_⟩
  rw [splitArrow.eq_3 c text (fun rest hc htext => h ⟨hc, by rw [htext]; rfl⟩), hrest]

private theorem splitArrow_append (left right : Text) (h : Arrowless left) :
    splitArrow (left ++ '-' :: '>' :: right) = left :: splitArrow right := by
  induction left with
  | nil => rw [List.nil_append, splitArrow]
  | cons c left ih =>
    obtain ⟨hhead, hleft⟩ := List.isChain_cons.mp h
    have hnot : ¬(c = '-' ∧ (left ++ '-' :: '>' :: right).head? = some '>') := by
      cases left with
      | nil => simp
      | cons d left =>
        rintro ⟨hc, hd⟩
        exact hhead d rfl ⟨hc, by simpa using hd⟩
    obtain ⟨piece, pieces, hrest, hcons⟩ := splitArrow_cons c _ hnot
    obtain ⟨rfl, rfl⟩ := List.cons.inj ((ih hleft).symm.trans hrest)
    exact hcons

theorem splitArrow_of_arrowless (text : Text) (h : Arrowless text) : splitArrow text = [text] := by
  induction text with
  | nil => rw [splitArrow]
  | cons c text ih =>
    obtain ⟨hhead, htext⟩ := List.isChain_cons.mp h
    obtain ⟨piece, pieces, hrest, hcons⟩ :=
      splitArrow_cons c text (fun hc => hhead '>' hc.2 ⟨hc.1, rfl⟩)
    obtain ⟨rfl, rfl⟩ := List.cons.inj ((ih htext).symm.trans hrest)
    exact hcons

private theorem intercalate_splitArrow (text : Text) :
    ['-', '>'].intercalate (splitArrow text) = text := by
  induction text using splitArrow.induct with
  | case1 => rfl
  | case2 text ih =>
    obtain ⟨piece, pieces, hrest⟩ := List.exists_cons_of_ne_nil (splitArrow_ne_nil text)
    rw [splitArrow, hrest, List.intercalate_cons_cons, ← hrest, ih]
    rfl
  | case3 c text _ hnil _ => exact absurd hnil (splitArrow_ne_nil text)
  | case4 c text hc piece pieces hrest ih =>
    rw [splitArrow.eq_3 c text hc, hrest]
    rw [hrest] at ih
    cases pieces with
    | nil =>
      rw [List.intercalate_singleton] at ih ⊢
      exact congrArg (c :: ·) ih
    | cons next rest =>
      rw [List.intercalate_cons_cons] at ih ⊢
      exact congrArg (c :: ·) ih

end Arrows

section Pieces

/-- What the pieces of a text have in common: they lie in the text, the first one at its beginning,
and they are free of what separates them. -/
structure Pieces (free : Text → Prop) (text first : Text) (rest : List Text) : Prop where
  begins : first <+: text
  within : ∀ piece ∈ first :: rest, piece <:+: text
  separated : ∀ piece ∈ first :: rest, free piece

variable (free : Text → Prop)

theorem Pieces.cons (c : Char) (text first : Text) (rest : List Text)
    (h : Pieces free text first rest) (hfree : free (c :: first)) :
    Pieces free (c :: text) (c :: first) rest where
  begins := List.cons_prefix_cons.mpr ⟨rfl, h.begins⟩
  within := by
    obtain ⟨-, hrest⟩ := List.forall_mem_cons.mp h.within
    refine List.forall_mem_cons.mpr ⟨?_, fun piece hpiece => List.infix_cons (hrest piece hpiece)⟩
    exact (List.cons_prefix_cons.mpr ⟨rfl, h.begins⟩).isInfix
  separated :=
    List.forall_mem_cons.mpr ⟨hfree, (List.forall_mem_cons.mp h.separated).2⟩

private theorem Pieces.cut (separator text first : Text) (rest : List Text)
    (h : Pieces free text first rest) (hfree : free []) :
    Pieces free (separator ++ text) [] (first :: rest) where
  begins := List.nil_prefix
  within := by
    refine List.forall_mem_cons.mpr ⟨List.nil_infix, ?_⟩
    exact fun piece hpiece => (h.within piece hpiece).trans (List.suffix_append _ _).isInfix
  separated := List.forall_mem_cons.mpr ⟨hfree, h.separated⟩

private theorem pieces_splitOnP (p : Char → Bool) (text : Text) :
    ∃ first rest, text.splitOnP p = first :: rest ∧
      Pieces (fun piece => ∀ c ∈ piece, p c = false) text first rest := by
  induction text with
  | nil => exact ⟨[], [], List.splitOnP_nil, List.nil_prefix, by simp, by simp⟩
  | cons c text ih =>
    obtain ⟨first, rest, hsplit, hpieces⟩ := ih
    rw [List.splitOnP_cons_eq_if_modifyHead, hsplit]
    split
    · exact ⟨[], first :: rest, rfl, hpieces.cut _ [c] text first rest (by simp)⟩
    · next hc =>
      refine ⟨c :: first, rest, rfl, hpieces.cons _ c text first rest ?_⟩
      have hfirst := hpieces.separated first List.mem_cons_self
      exact List.forall_mem_cons.mpr ⟨by simpa using hc, hfirst⟩

private theorem pieces_splitArrow (text : Text) :
    ∃ first rest, splitArrow text = first :: rest ∧ Pieces Arrowless text first rest := by
  induction text using splitArrow.induct with
  | case1 => exact ⟨[], [], rfl, List.nil_prefix, by simp, List.forall_mem_singleton.mpr .nil⟩
  | case2 text ih =>
    obtain ⟨first, rest, hsplit, hpieces⟩ := ih
    refine ⟨[], first :: rest, by rw [splitArrow, hsplit], ?_⟩
    exact hpieces.cut _ ['-', '>'] text first rest .nil
  | case3 c text _ hnil _ => exact absurd hnil (splitArrow_ne_nil text)
  | case4 c text hc piece pieces hrest ih =>
    obtain ⟨first, rest, hsplit, hpieces⟩ := ih
    rw [splitArrow.eq_3 c text hc, hsplit]
    refine ⟨c :: first, rest, rfl, hpieces.cons _ c text first rest ?_⟩
    apply List.isChain_cons.mpr
    refine ⟨?_, hpieces.separated first List.mem_cons_self⟩
    rintro b hb ⟨rfl, rfl⟩
    obtain ⟨after, rfl⟩ := hpieces.begins
    cases first with
    | nil => cases hb
    | cons d first =>
      obtain rfl : d = '>' := Option.some.inj hb
      exact hc (first ++ after) rfl rfl

private theorem arrowless_of_mem_splitArrow (text piece : Text) (h : piece ∈ splitArrow text) :
    Arrowless piece := by
  obtain ⟨first, rest, hsplit, hpieces⟩ := pieces_splitArrow text
  exact hpieces.separated piece (hsplit ▸ h)

theorem splitArrow_eq_singleton_iff (text only : Text) :
    splitArrow text = [only] ↔ text = only ∧ Arrowless only := by
  constructor
  · intro h
    refine ⟨?_, arrowless_of_mem_splitArrow text only (by simp [h])⟩
    rw [← intercalate_splitArrow text, h, List.intercalate_singleton]
  · intro h
    rw [h.1, splitArrow_of_arrowless only h.2]

theorem splitArrow_eq_pair_iff (text left right : Text) : splitArrow text = [left, right] ↔
    text = left ++ '-' :: '>' :: right ∧ Arrowless left ∧ Arrowless right := by
  constructor
  · intro h
    refine ⟨?_, arrowless_of_mem_splitArrow text left (by simp [h]),
      arrowless_of_mem_splitArrow text right (by simp [h])⟩
    rw [← intercalate_splitArrow text, h]
    simp [List.intercalate_cons_cons]
  · intro h
    rw [h.1, splitArrow_append left right h.2.1, splitArrow_of_arrowless right h.2.2]

theorem mem_splitOn (x : Char) (text piece : Text) (h : piece ∈ text.splitOn x) :
    piece <:+: text ∧ x ∉ piece := by
  obtain ⟨first, rest, hsplit, hpieces⟩ := pieces_splitOnP (· == x) text
  rw [List.splitOn_eq_splitOnP, hsplit] at h
  refine ⟨hpieces.within piece h, ?_⟩
  intro hx
  simpa using hpieces.separated piece h x hx

theorem mem_words (text word : Text) (h : word ∈ words text) :
    word <:+: text ∧ word ≠ [] ∧ ∀ c ∈ word, isBlank c = false := by
  obtain ⟨first, rest, hsplit, hpieces⟩ := pieces_splitOnP isBlank text
  rw [words, hsplit] at h
  obtain ⟨hmem, hne⟩ := List.mem_filter.mp h
  exact ⟨hpieces.within word hmem, by simpa using hne, hpieces.separated word hmem⟩

end Pieces

end Text

end Predictive
