import Mathlib.Data.List.Basic
import Predictive.Regex.Program
/-!
# A parenthesis behind a pattern

Every function of the reader reads the text of a pattern in the same way whether or not a closing
parenthesis follows at its end. There is one exception: where blanks are skipped, a comment at the
end takes in the parenthesis. So one compares the readings of two texts of which the second is the
first one, perhaps with a parenthesis behind it.
-/
namespace Predictive

namespace Regex

private theorem length_skipBlanks_le (isOpen : Bool) (text : Text) :
    (skipBlanks isOpen text).length ≤ text.length := by
  fun_induction skipBlanks isOpen text <;> simp_all <;> omega

private theorem length_skip_le (extended : Bool) (text : Text) :
    (skip extended text).length ≤ text.length := by
  rw [skip]
  split
  · exact length_skipBlanks_le false text
  · exact Nat.le_refl _

/-- The second text is the first one, with or without a closing parenthesis behind it. -/
inductive Enclosed : Text → Text → Prop
  | same : Enclosed [] []
  | closed : Enclosed [] [')']
  | cons (c : Char) {r r' : Text} (h : Enclosed r r') : Enclosed (c :: r) (c :: r')

theorem enclosed_append (text : Text) : Enclosed text (text ++ [')']) := by
  induction text with
  | nil => exact .closed
  | cons c text ih => exact ih.cons c

/-- Unless one of two readings fails, they give the same and leave the rest of the one enclosed in
the rest of the other. -/
def Agree {α : Type} (a b : Option (α × Text)) : Prop :=
  ∀ ⦃x r y r'⦄, a = some (x, r) → b = some (y, r') → x = y ∧ Enclosed r r'

namespace Agree

variable {α β : Type}

theorem left (b : Option (α × Text)) : Agree none b := by
  intro x r y r' h
  cases h

theorem right (a : Option (α × Text)) : Agree a none := by
  intro x r y r' _ h
  cases h

theorem both (x : α) {r r' : Text} (h : Enclosed r r') : Agree (some (x, r)) (some (x, r')) := by
  intro _ _ _ _ hx hy
  cases hx
  cases hy
  exact ⟨rfl, h⟩

@[elab_as_elim]
theorem elim {motive : Option (α × Text) → Option (α × Text) → Prop} {a b : Option (α × Text)}
    (h : Agree a b) (left : ∀ b, motive none b) (right : ∀ a, motive a none)
    (both : ∀ x r r', Enclosed r r' → motive (some (x, r)) (some (x, r'))) : motive a b := by
  cases a with
  | none => exact left b
  | some a =>
    cases b with
    | none => exact right _
    | some b =>
      obtain ⟨x, r⟩ := a
      obtain ⟨y, r'⟩ := b
      obtain ⟨rfl, hrest⟩ := h rfl rfl
      exact both x r r' hrest

theorem map {a b : Option (α × Text)} (h : Agree a b) (f : α → β) :
    Agree (a.map (fun p => (f p.1, p.2))) (b.map (fun p => (f p.1, p.2))) :=
  h.elim (fun _ => left _) (fun _ => right _) (fun x _ _ hrest => both (f x) hrest)

end Agree

namespace Enclosed

variable {r r' : Text}

theorem starts (h : Enclosed r r') (c : Char) (hc : c ≠ ')') :
    (∃ s s', r = c :: s ∧ r' = c :: s' ∧ Enclosed s s') ∨
      ((∀ s, r ≠ c :: s) ∧ ∀ s, r' ≠ c :: s) := by
  cases h with
  | same => simp
  | closed => simp [hc.symm]
  | @cons d s s' h =>
    by_cases hd : d = c
    · exact Or.inl ⟨s, s', by rw [hd], by rw [hd], h⟩
    · simp [hd]

theorem starts_pair (h : Enclosed r r') (c d : Char) (hc : c ≠ ')') (hd : d ≠ ')') :
    (∃ s s', r = c :: d :: s ∧ r' = c :: d :: s' ∧ Enclosed s s') ∨
      ((∀ s, r ≠ c :: d :: s) ∧ ∀ s, r' ≠ c :: d :: s) := by
  obtain ⟨s, s', rfl, rfl, hs⟩ | ⟨hr, hr'⟩ := h.starts c hc
  · obtain ⟨u, u', rfl, rfl, hu⟩ | ⟨hs, hs'⟩ := hs.starts d hd
    · exact Or.inl ⟨u, u', rfl, rfl, hu⟩
    · exact Or.inr ⟨by simp [hs], by simp [hs']⟩
  · exact Or.inr ⟨fun s => hr (d :: s), fun s => hr' (d :: s)⟩

protected theorem head? (h : Enclosed r r') :
    r'.head? = r.head? ∨ (r.head? = none ∧ r'.head? = some ')') := by
  cases h with
  | same => exact Or.inl rfl
  | closed => exact Or.inr ⟨rfl, rfl⟩
  | cons c h => exact Or.inl rfl

protected theorem dropWhile (h : Enclosed r r') (f : Char → Bool) :
    Enclosed (r.dropWhile f) (r'.dropWhile f) := by
  induction h with
  | same => exact same
  | closed =>
    rw [List.dropWhile_cons]
    split
    · exact same
    · exact closed
  | cons c h ih =>
    rw [List.dropWhile_cons, List.dropWhile_cons]
    split
    · exact ih
    · exact h.cons c

protected theorem takeWhile (h : Enclosed r r') (f : Char → Bool) (hr : r.dropWhile f ≠ []) :
    r.takeWhile f = r'.takeWhile f := by
  induction h with
  | same | closed => exact absurd rfl hr
  | cons c h ih =>
    rw [List.dropWhile_cons] at hr
    rw [List.takeWhile_cons, List.takeWhile_cons]
    split
    · next hc => rw [ih (by simpa [hc] using hr)]
    · rfl

protected theorem skipBlanks (h : Enclosed r r') (isOpen : Bool) :
    Enclosed (skipBlanks isOpen r) (skipBlanks isOpen r') := by
  induction h generalizing isOpen with
  | same => cases isOpen <;> exact same
  | closed =>
    cases isOpen with
    | false => exact closed
    | true => exact same
  | cons c h ih =>
    cases isOpen with
    | true => exact ih _
    | false =>
      simp only [skipBlanks]
      split
      · exact ih _
      · split
        · exact ih _
        · exact h.cons c

protected theorem skip (h : Enclosed r r') (extended : Bool) :
    Enclosed (skip extended r) (skip extended r') := by
  simp only [skip]
  split
  · exact h.skipBlanks false
  · exact h

section Escapes

variable (extended : Bool)

protected theorem readHexDigits (h : Enclosed r r') (count code : Nat) :
    Agree (readHexDigits extended count code r) (readHexDigits extended count code r') := by
  induction count generalizing code r r' with
  | zero =>
    simp only [readHexDigits]
    cases charOfCode code with
    | none => exact Agree.left _
    | some c => exact Agree.both c h
  | succ count ih =>
    cases h with
    | same | closed => exact Agree.left _
    | cons c h =>
      simp only [readHexDigits]
      cases hexValue c with
      | none => exact Agree.left _
      | some digit => exact ih (h.skip extended) _

protected theorem readBraced (h : Enclosed r r') (limit limit' : Nat) :
    Agree (readBraced extended limit r) (readBraced extended limit' r') := by
  induction limit generalizing limit' r r' with
  | zero => exact Agree.left _
  | succ limit ih =>
    cases limit' with
    | zero => exact Agree.right _
    | succ limit' =>
      have hskip := h.skip extended
      simp only [readBraced]
      generalize skip extended r = t, skip extended r' = t' at hskip ⊢
      obtain ⟨s, s', rfl, rfl, hs⟩ | ⟨ht, ht'⟩ := hskip.starts '\x7d' (by decide)
      · exact Agree.both [] hs
      · cases hskip with
        | same | closed => exact Agree.left _
        | cons c hrest =>
          have hc : c ≠ '\x7d' := fun heq => ht _ (congrArg (List.cons · _) heq)
          simp only
          exact (ih hrest limit').map _

protected theorem readHex (h : Enclosed r r') (count : Nat) :
    Agree (readHex extended count r) (readHex extended count r') := by
  simp only [readHex]
  obtain ⟨s, s', ht, ht', hs⟩ | ⟨ht, ht'⟩ := (h.skip extended).starts '\x7b' (by decide)
  · simp only [ht, ht']
    refine (hs.readBraced extended (s.length + 1) (s'.length + 1)).elim
      (fun _ => Agree.left _) (fun _ => Agree.right _) ?_
    intro digits u u' hu
    simp only
    split
    · exact Agree.left _
    · cases (hexCode digits).bind charOfCode with
      | none => exact Agree.left _
      | some code => exact Agree.both _ hu
  · simp only
    exact ((h.skip extended).readHexDigits extended count 0).map _

protected theorem readProperty (h : Enclosed r r') (negated : Bool) :
    Agree (readProperty extended negated r) (readProperty extended negated r') := by
  have hskip := h.skip extended
  simp only [readProperty]
  generalize skip extended r = t, skip extended r' = t' at hskip ⊢
  cases hskip with
  | same | closed => exact Agree.left _
  | cons c hrest =>
    by_cases hbackslash : c = '\\'
    · subst hbackslash
      exact Agree.left _
    · by_cases hbrace : c = '\x7b'
      · subst hbrace
        exact (hrest.readBraced extended _ _).map _
      · simp only
        exact Agree.both _ hrest

protected theorem readBoundary (h : Enclosed r r') :
    Agree (readBoundary extended r) (readBoundary extended r') := by
  simp only [readBoundary]
  obtain ⟨s, s', rfl, rfl, hs⟩ | ⟨hr, hr'⟩ := h.starts '\x7b' (by decide)
  · have hskip := hs.skip extended
    simp only
    generalize skip extended s = t, skip extended s' = t' at hskip ⊢
    cases hskip with
    | same | closed => exact Agree.left _
    | cons c hrest =>
      simp only
      split
      · refine (hs.readBraced extended (s.length + 1) (s'.length + 1)).elim
          (fun _ => Agree.left _) (fun _ => Agree.right _) ?_
        intro name u u' hu
        simp only
        split
        · exact Agree.both _ hu
        · exact Agree.both _ hu
        · exact Agree.both _ hu
        · exact Agree.both _ hu
        · exact Agree.left _
      · exact Agree.both _ h
  · simp only
    exact Agree.both _ h

protected theorem readEscape (h : Enclosed r r') :
    Agree (readEscape extended r) (readEscape extended r') := by
  cases h with
  | same | closed => exact Agree.left _
  | cons c h =>
    simp only [readEscape]
    split
    · exact Agree.both _ h
    · split
      case h_1 => exact h.readHex extended 2
      case h_2 => exact h.readHex extended 4
      case h_3 => exact h.readHex extended 8
      case h_4 => exact h.readProperty extended false
      case h_5 => exact h.readProperty extended true
      case h_23 => exact (h.readBoundary extended).map (fun edge => Escape.anchor (.word edge))
      case h_24 => exact Agree.left _
      all_goals exact Agree.both _ h

end Escapes

section Bounds

variable (extended : Bool)

/-- Limits that suffice for the texts do not cut the digits off. -/
protected theorem digitsFrom (h : Enclosed r r') (limit limit' : Nat) (hlimit : r.length ≤ limit)
    (hlimit' : r'.length ≤ limit') :
    (readDecimal.digitsFrom extended limit r).1 = (readDecimal.digitsFrom extended limit' r').1 ∧
      Enclosed (readDecimal.digitsFrom extended limit r).2
        (readDecimal.digitsFrom extended limit' r').2 := by
  induction limit generalizing limit' r r' with
  | zero =>
    cases h with
    | same | closed => cases limit' <;> exact ⟨rfl, by constructor⟩
    | cons c h => cases hlimit
  | succ limit ih =>
    cases h with
    | same | closed => cases limit' <;> exact ⟨rfl, by constructor⟩
    | @cons c s s' h =>
      cases limit' with
      | zero => cases hlimit'
      | succ limit' =>
        have hs := Nat.le_trans (length_skip_le extended s) (Nat.le_of_succ_le_succ hlimit)
        have hs' := Nat.le_trans (length_skip_le extended s') (Nat.le_of_succ_le_succ hlimit')
        obtain ⟨hdigits, hbehind⟩ := ih (h.skip extended) limit' hs hs'
        simp only [readDecimal.digitsFrom]
        split
        · exact ⟨congrArg (List.cons c) hdigits, hbehind⟩
        · exact ⟨rfl, h.cons c⟩

protected theorem blanksFrom (h : Enclosed r r') (limit limit' : Nat) (hlimit : r.length ≤ limit)
    (hlimit' : r'.length ≤ limit') :
    Enclosed (readDecimal.blanksFrom extended limit r)
      (readDecimal.blanksFrom extended limit' r') := by
  induction limit generalizing limit' r r' with
  | zero =>
    cases h with
    | same | closed => cases limit' <;> constructor
    | cons c h => cases hlimit
  | succ limit ih =>
    cases h with
    | same | closed => cases limit' <;> constructor
    | @cons c s s' h =>
      cases limit' with
      | zero => cases hlimit'
      | succ limit' =>
        have hs := Nat.le_trans (length_skip_le extended s) (Nat.le_of_succ_le_succ hlimit)
        have hs' := Nat.le_trans (length_skip_le extended s') (Nat.le_of_succ_le_succ hlimit')
        simp only [readDecimal.blanksFrom]
        split
        · exact ih (h.skip extended) limit' hs hs'
        · exact h.cons c

protected theorem readDecimal (h : Enclosed r r') :
    Agree (readDecimal extended r) (readDecimal extended r') := by
  have hstart := h.dropWhile isBlank
  simp only [readDecimal]
  generalize r.dropWhile isBlank = t, r'.dropWhile isBlank = t' at hstart ⊢
  obtain ⟨hdigits, hrest⟩ := hstart.digitsFrom extended _ _ (Nat.le_refl _) (Nat.le_refl _)
  rw [hdigits]
  split
  · exact Agree.left _
  · split
    · exact Agree.both _ (hrest.blanksFrom extended _ _ (Nat.le_refl _) (Nat.le_refl _))
    · exact Agree.left _

protected theorem readBounds (h : Enclosed r r') {min min' : Nat} {max max' : Option Nat}
    {s s' : Text} (hr : readBounds extended r = some (min, max, s))
    (hr' : readBounds extended r' = some (min', max', s')) :
    min = min' ∧ max = max' ∧ Enclosed s s' := by
  simp only [readBounds] at hr hr'
  revert hr hr'
  refine ((h.skip extended).readDecimal extended).elim (by simp) (by simp) ?_
  intro low u u' hu hr hr'
  obtain ⟨t, t', rfl, rfl, ht⟩ | ⟨hcomma, -⟩ := hu.starts ',' (by decide)
  · have hskip := ht.skip extended
    simp only at hr hr'
    generalize skip extended t = v, skip extended t' = v' at hskip hr hr'
    obtain ⟨w, w', rfl, rfl, hw⟩ | ⟨hopen, hopen'⟩ := hskip.starts '\x7d' (by decide)
    · cases hr
      cases hr'
      exact ⟨rfl, rfl, hw⟩
    · simp only at hr hr'
      revert hr hr'
      refine (hskip.readDecimal extended).elim (by simp) (by simp) ?_
      intro high w w' hw hr hr'
      split at hr
      · next heq =>
        cases heq
        cases hw with
        | cons _ hw =>
          simp only at hr'
          split at hr
          · next hle =>
            rw [if_pos hle] at hr'
            cases hr
            cases hr'
            exact ⟨rfl, rfl, hw⟩
          · cases hr
      · cases hr
  · split at hr
    · next heq => cases heq
    · next heq =>
      cases heq
      exact absurd rfl (hcomma _)
    · next heq =>
      cases heq
      cases hu with
      | cons _ hu =>
        cases hr
        cases hr'
        exact ⟨rfl, rfl, hu⟩
    · cases hr

protected theorem repeatLast (h : Enclosed r r') (g : Group) (min : Nat) (max : Option Nat) :
    Agree (repeatLast g min max r) (repeatLast g min max r') := by
  simp only [repeatLast]
  split
  · exact Agree.left _
  · exact Agree.left _
  · obtain ⟨s, s', rfl, rfl, hs⟩ | ⟨hr, hr'⟩ := h.starts '?' (by decide)
    · exact Agree.both _ hs
    · simp only
      exact Agree.both _ h

end Bounds

section Brackets

protected theorem readName (h : Enclosed r r') (negated : Bool) :
    (readName negated r = none ∧ readName negated r' = none) ∨
      ∃ item s s', readName negated r = some (item, s) ∧ readName negated r' = some (item, s') ∧
        Enclosed s s' := by
  simp only [readName]
  obtain ⟨s, s', hs, hs', hrest⟩ | ⟨hs, hs'⟩ :=
    (h.dropWhile (fun c => c ≠ ':')).starts ':' (by decide)
  · rw [← h.takeWhile _ (by rw [hs]; exact List.cons_ne_nil _ _), hs, hs']
    obtain ⟨u, u', rfl, rfl, hu⟩ | ⟨hu, hu'⟩ := hrest.starts ']' (by decide)
    · cases classNamed (String.ofList (r.takeWhile (fun c => c ≠ ':'))) with
      | none => exact Or.inl ⟨rfl, rfl⟩
      | some members => exact Or.inr ⟨_, u, u', rfl, rfl, hu⟩
    · simp [hu, hu']
  · left
    split
    · next heq => exact absurd heq (hs _)
    · split
      · next heq => exact absurd heq (hs' _)
      · exact ⟨rfl, rfl⟩

private theorem readNamed_eq_none (hr : ∀ s, r ≠ ':' :: s) : readNamed r = none := by
  cases r with
  | nil => rfl
  | cons c r =>
    have hc : c ≠ ':' := fun heq => hr r (congrArg (List.cons · r) heq)
    simp [readNamed, hc]

/-- Here a failure has to be the same on both sides, since a bracket that does not start a named class
is read as a bracket within the bracket. -/
protected theorem readNamed (h : Enclosed r r') :
    (readNamed r = none ∧ readNamed r' = none) ∨
      ∃ item s s', readNamed r = some (item, s) ∧ readNamed r' = some (item, s') ∧
        Enclosed s s' := by
  obtain ⟨s, s', rfl, rfl, hs⟩ | ⟨hr, hr'⟩ := h.starts ':' (by decide)
  · obtain ⟨u, u', rfl, rfl, hu⟩ | ⟨hu, hu'⟩ := hs.starts '^' (by decide)
    · exact hu.readName true
    · simp only [readNamed]
      exact hs.readName false
  · exact Or.inl ⟨readNamed_eq_none hr, readNamed_eq_none hr'⟩

variable (extended : Bool)

private theorem readHyphens_end (limit : Nat) (items : List SetPhrase) (h : Enclosed [] r) :
    readHyphens extended limit items r = (items, r) := by
  cases limit with
  | zero => rfl
  | succ limit => cases h <;> cases extended <;> rfl

protected theorem readHyphens (h : Enclosed r r') (limit limit' : Nat) (hlimit : r.length ≤ limit)
    (hlimit' : r'.length ≤ limit') (items : List SetPhrase) :
    ∃ more s s', readHyphens extended limit items r = (more, s) ∧
      readHyphens extended limit' items r' = (more, s') ∧ Enclosed s s' := by
  induction limit generalizing limit' r r' items with
  | zero =>
    obtain rfl := List.length_eq_zero_iff.mp (Nat.le_zero.mp hlimit)
    exact ⟨items, [], r', readHyphens_end extended 0 items same,
      readHyphens_end extended limit' items h, h⟩
  | succ limit ih =>
    cases limit' with
    | zero =>
      obtain rfl := List.length_eq_zero_iff.mp (Nat.le_zero.mp hlimit')
      cases h
      exact ⟨items, [], [], readHyphens_end extended _ items same, rfl, same⟩
    | succ limit' =>
      have hsize := length_skip_le extended r
      have hsize' := length_skip_le extended r'
      simp only [readHyphens]
      obtain ⟨s, s', hs, hs', hrest⟩ | ⟨hs, hs'⟩ := (h.skip extended).starts '-' (by decide)
      · simp only [hs, hs', List.length_cons] at hsize hsize' ⊢
        exact ih hrest limit' (by omega) (by omega) (.literal '-' :: items)
      · simp only
        exact ⟨items, _, _, rfl, rfl, h.skip extended⟩

protected theorem readOpening (h : Enclosed r r') :
    ∃ negated items s s', readOpening extended r = (negated, items, s) ∧
      readOpening extended r' = (negated, items, s') ∧ Enclosed s s' := by
  obtain ⟨t, t', ht, ht', hrest⟩ | ⟨ht, ht'⟩ := (h.skip extended).starts '^' (by decide)
  case' inl => simp only [readOpening, ht, ht']
  case' inr =>
    have hrest := h.skip extended
    simp only [readOpening]
  -- A circumflex may be read or not; what follows is read in the same way.
  all_goals
    obtain ⟨items, s, s', hs, hs', hbehind⟩ :=
      hrest.readHyphens extended _ _ (Nat.le_refl _) (Nat.le_refl _) []
    rw [hs, hs']
    cases items with
    | cons item items => exact ⟨_, _, s, s', rfl, rfl, hbehind⟩
    | nil =>
      obtain ⟨u, u', rfl, rfl, hu⟩ | ⟨hu, hu'⟩ := hbehind.starts ']' (by decide)
      · exact ⟨_, _, u, u', rfl, rfl, hu⟩
      · exact ⟨_, [], s, s', by simp [hu]; rfl, by simp [hu'], hbehind⟩

protected theorem readElement (h : Enclosed r r') :
    Agree (readElement extended r) (readElement extended r') := by
  cases h with
  | same | closed => exact Agree.left _
  | cons c h =>
    by_cases hc : c = '\\'
    · subst hc
      exact h.readEscape extended
    · simp only [readElement]
      exact Agree.both _ h

protected theorem behindHyphen (h : Enclosed r r') :
    behindHyphen extended r' = behindHyphen extended r ∨
      (behindHyphen extended r = none ∧ behindHyphen extended r' = some ')') := by
  simp only [behindHyphen]
  split
  · obtain ⟨s, s', hs, hs', hrest⟩ | ⟨hs, hs'⟩ := (h.dropWhile isBlank).starts '#' (by decide)
    · rw [hs, hs']
      exact (hrest.dropWhile isBlank).head?
    · simp only
      exact (h.dropWhile isBlank).head?
  · exact h.head?

protected theorem endsRange (h : Enclosed r r') :
    endsRange extended r' = endsRange extended r := by
  simp only [endsRange]
  rcases h.behindHyphen extended with heq | ⟨hr, hr'⟩
  · rw [heq]
  · rw [hr, hr']
    rfl

protected theorem readItem (h : Enclosed r r') :
    Agree (readItem extended r) (readItem extended r') := by
  have hitem (e : Escape) {s s' : Text} (hs : Enclosed s s') :
      Agree ((itemOf e).map (fun item => (item, s))) ((itemOf e).map (fun item => (item, s'))) := by
    cases itemOf e with
    | none => exact Agree.left _
    | some item => exact Agree.both item hs
  simp only [readItem]
  refine (h.readElement extended).elim (fun _ => Agree.left _) (fun _ => Agree.right _) ?_
  intro first s s' hs
  simp only
  obtain ⟨t, t', ht, ht', hrest⟩ | ⟨ht, ht'⟩ := (hs.skip extended).starts '-' (by decide)
  · simp only [ht, ht', hrest.endsRange extended]
    split
    · exact hitem first (hrest.cons '-')
    · refine ((hrest.skip extended).readElement extended).elim
        (fun _ => Agree.left _) (fun _ => Agree.right _) ?_
      intro last u u' hu
      simp only
      split
      · split
        · exact Agree.both _ hu
        · exact Agree.left _
      · exact Agree.left _
  · simp only
    exact hitem first (hs.skip extended)

protected theorem readContents (h : Enclosed r r') (limit limit' levels : Nat)
    (pending : Option (SetOperator × SetPhrase)) (items : List SetPhrase) :
    Agree (readContents extended limit levels pending items r)
      (readContents extended limit' levels pending items r') := by
  induction limit generalizing limit' r r' levels pending items with
  | zero => exact Agree.left _
  | succ limit ih =>
    cases limit' with
    | zero => exact Agree.right _
    | succ limit' =>
      have hskip := h.skip extended
      simp only [readContents]
      generalize skip extended r = t, skip extended r' = t' at hskip ⊢
      obtain ⟨s, s', rfl, rfl, hs⟩ | ⟨hclose, hclose'⟩ := hskip.starts ']' (by decide)
      · exact Agree.both _ hs
      obtain ⟨s, s', rfl, rfl, hs⟩ | ⟨hinter, hinter'⟩ :=
        hskip.starts_pair '&' '&' (by decide) (by decide)
      · exact ih hs limit' levels _ []
      obtain ⟨s, s', rfl, rfl, hs⟩ | ⟨hdiff, hdiff'⟩ :=
        hskip.starts_pair '-' '-' (by decide) (by decide)
      · exact ih hs limit' levels _ []
      obtain ⟨s, s', rfl, rfl, hs⟩ | ⟨hsymm, hsymm'⟩ :=
        hskip.starts_pair '~' '~' (by decide) (by decide)
      · exact ih hs limit' levels _ []
      obtain ⟨s, s', rfl, rfl, hs⟩ | ⟨hopen, hopen'⟩ := hskip.starts '[' (by decide)
      · simp only
        obtain ⟨hn, hn'⟩ | ⟨item, u, u', hn, hn', hu⟩ := hs.readNamed
        · simp only [hn, hn']
          cases levels with
          | zero => exact Agree.left _
          | succ inner =>
            obtain ⟨negated, first, v, v', hv, hv', hinner⟩ := hs.readOpening extended
            simp only [hv, hv']
            refine (ih hinner limit' inner none first).elim
              (fun _ => Agree.left _) (fun _ => Agree.right _) ?_
            intro contents w w' hw
            exact ih hw limit' _ pending _
        · simp only [hn, hn']
          exact ih hu limit' levels pending _
      · have hitem := hskip.readItem extended
        cases hskip with
        | same | closed => exact Agree.left _
        | @cons c s s' hs =>
          have hsome : c :: s ≠ [] := List.cons_ne_nil c s
          have hsome' : c :: s' ≠ [] := List.cons_ne_nil c s'
          generalize c :: s = t, c :: s' = t' at *
          simp only
          refine hitem.elim (fun _ => Agree.left _) (fun _ => Agree.right _) ?_
          intro item u u' hu
          exact ih hu limit' levels pending _

protected theorem readBracket (h : Enclosed r r') :
    Agree (readBracket extended r) (readBracket extended r') := by
  obtain ⟨negated, items, s, s', hs, hs', hrest⟩ := h.readOpening extended
  simp only [readBracket, hs, hs']
  exact (hrest.readContents extended _ _ depthLimit none items).map _

end Brackets

end Enclosed

end Regex

end Predictive
