import Mathlib.Data.List.Infix
import Predictive.Latex
import Predictive.Proofs.Text.Pieces
/-!
# The layout of LaTeX rows

Two backslashes side by side end a row, and an ampersand without a backslash in front of it ends a
cell. An escaped text holds neither, and does not end in a backslash, so it can be put together with
others of its kind. In a text that is laid out from such parts and row ends, two backslashes stand
side by side in the row ends only.
-/
namespace Predictive

namespace Latex

/-- The ampersands of a text that do not stand behind a backslash, given the character in front of
the text. -/
def separatorsBehind (front : Char) : Text → Nat
  | [] => 0
  | c :: text => (if c = '&' ∧ front ≠ '\\' then 1 else 0) + separatorsBehind c text

/-- The ampersands of a row that do not stand behind a backslash. -/
def separators (row : String) : Nat := separatorsBehind '\n' row.toList

/-- No two backslashes stand side by side. -/
def Apart (text : Text) : Prop := text.IsChain (fun a b => ¬(a = '\\' ∧ b = '\\'))

instance (text : Text) : Decidable (Apart text) :=
  inferInstanceAs (Decidable (text.IsChain _))

/-- A text without row ends, with the given number of separators, that leaves alone what is written
behind it. -/
structure Fragment (s : String) (n : Nat) : Prop where
  apart : Apart s.toList
  closed : s.toList.getLast? ≠ some '\\'
  count : separators s = n

instance (s : String) (n : Nat) : Decidable (Fragment s n) :=
  decidable_of_iff (Apart s.toList ∧ s.toList.getLast? ≠ some '\\' ∧ separators s = n)
    ⟨fun h => ⟨h.1, h.2.1, h.2.2⟩, fun h => ⟨h.apart, h.closed, h.count⟩⟩

private theorem separatorsBehind_append (front : Char) (left right : Text) :
    separatorsBehind front (left ++ right) =
      separatorsBehind front left + separatorsBehind (left.getLast?.getD front) right := by
  induction left generalizing front with
  | nil => simp [separatorsBehind]
  | cons c left ih =>
    rw [List.cons_append, separatorsBehind, separatorsBehind, ih, Nat.add_assoc,
      List.getLast?_cons]
    rfl

private theorem separatorsBehind_congr (front : Char) (h : front ≠ '\\') (text : Text) :
    separatorsBehind front text = separatorsBehind '\n' text := by
  cases text with
  | nil => rfl
  | cons c text => simp [separatorsBehind, h]

namespace Fragment

theorem empty : Fragment "" 0 := by decide

theorem append {s t : String} {m n : Nat} (hs : Fragment s m) (ht : Fragment t n) :
    Fragment (s ++ t) (m + n) := by
  have hend (c : Char) (hc : s.toList.getLast? = some c) : c ≠ '\\' :=
    fun heq => hs.closed (heq ▸ hc)
  refine ⟨?_, ?_, ?_⟩
  · rw [String.toList_append]
    refine List.isChain_append.mpr ⟨hs.apart, ht.apart, ?_⟩
    exact fun a ha b _ hab => hend a ha hab.1
  · rw [String.toList_append, List.getLast?_append]
    cases hlast : t.toList.getLast? with
    | none => exact hs.closed
    | some c => exact fun heq => ht.closed (hlast.trans heq)
  · have hfront : s.toList.getLast?.getD '\n' ≠ '\\' := by
      cases hlast : s.toList.getLast? with
      | none => decide
      | some c => exact hend c hlast
    rw [separators, String.toList_append, separatorsBehind_append, separatorsBehind_congr _ hfront]
    exact congrArg₂ (· + ·) hs.count ht.count

/-- Pieces without separators, with the same separator between any two of them. -/
theorem intercalate (s : String) (n : Nat) (hs : Fragment s n) (pieces : List String)
    (h : ∀ piece ∈ pieces, Fragment piece 0) :
    Fragment (s.intercalate pieces) (n * (pieces.length - 1)) := by
  induction pieces with
  | nil => exact empty
  | cons piece pieces ih =>
    obtain ⟨hpiece, hpieces⟩ := List.forall_mem_cons.mp h
    cases pieces with
    | nil => simpa using hpiece
    | cons next rest =>
      have hjoined := ((hpiece.append hs).append (ih hpieces))
      rw [String.intercalate_cons_of_ne_nil (by simp)]
      convert hjoined using 1
      simp only [List.length_cons, Nat.add_sub_cancel, Nat.mul_add, Nat.mul_one]
      omega

theorem intercalate_map {α : Type} (s : String) (hs : Fragment s 0) (xs : List α) (f : α → String)
    (h : ∀ x, Fragment (f x) 0) : Fragment (s.intercalate (xs.map f)) 0 := by
  have hjoined := intercalate s 0 hs (xs.map f) (List.forall_mem_map.mpr (fun x _ => h x))
  rwa [Nat.zero_mul] at hjoined

theorem join (pieces : List String) (h : ∀ piece ∈ pieces, Fragment piece 0) :
    Fragment (String.join pieces) 0 := by
  induction pieces with
  | nil => exact empty
  | cons piece pieces ih =>
    obtain ⟨hpiece, hpieces⟩ := List.forall_mem_cons.mp h
    rw [String.join_cons]
    exact hpiece.append (ih hpieces)

end Fragment

section Escapes

private theorem fragment_singleton (c : Char) (hamp : c ≠ '&') (hback : c ≠ '\\') :
    Fragment (String.singleton c) 0 := by
  refine ⟨?_, ?_, ?_⟩
  · rw [String.toList_singleton]
    exact List.isChain_singleton c
  · simpa using hback
  · simp [separators, separatorsBehind, hamp]

private theorem fragment_escapeChar (c : Char) : Fragment (escapeChar c) 0 := by
  unfold escapeChar
  split
  case h_16 => exact fragment_singleton c (by assumption) (by assumption)
  all_goals decide

theorem fragment_escape (s : String) : Fragment (escape s) 0 := by
  unfold escape
  induction s.toList with
  | nil => exact .empty
  | cons c cs ih =>
    rw [escapeChars]
    apply Fragment.append (m := 0) (n := 0) ?_ ih
    split
    · decide
    · exact fragment_escapeChar c

theorem fragment_upright (s : String) : Fragment (upright s) 0 := by
  have hopen : Fragment "\\text\x7b" 0 := by decide
  have hclose : Fragment "\x7d" 0 := by decide
  exact (hopen.append (fragment_escape s)).append hclose

end Escapes

/-- The end of a row, which may have a line below it. -/
inductive RowEnd
  | plain
  | ruled

/-- What stands in a row end behind its first two backslashes. -/
def RowEnd.tail : RowEnd → String
  | plain => "\n"
  | ruled => "\\hline\n"

/-- What a text is laid out from: row ends, and pieces such as the rows. -/
inductive Part
  | piece (text : String)
  | ending (e : RowEnd)

namespace Part

def text : Part → String
  | piece text => text
  | ending e => "\\\\" ++ e.tail

theorem text_piece (s : String) : (piece s).text = s := rfl

theorem text_plain : (ending .plain).text = "\\\\\n" := by decide

theorem text_ruled : (ending .ruled).text = "\\\\\\hline\n" := by decide

/-- The parts one behind the other. -/
def layOut (parts : List Part) : String := String.join (parts.map text)

theorem layOut_append (left right : List Part) :
    layOut (left ++ right) = layOut left ++ layOut right := by
  rw [layOut, List.map_append, String.join_append, layOut, layOut]

theorem layOut_nil : layOut [] = "" := rfl

theorem layOut_cons (part : Part) (parts : List Part) :
    layOut (part :: parts) = part.text ++ layOut parts := by
  rw [layOut, List.map_cons, String.join_cons, layOut]

/-- The pieces have no row ends of their own. -/
def Tidy : Part → Prop
  | piece text => ∃ n, Fragment text n
  | ending _ => True

@[simp] theorem tidy_piece (s : String) : (piece s).Tidy ↔ ∃ n, Fragment s n := Iff.rfl

@[simp] theorem tidy_ending (e : RowEnd) : (ending e).Tidy := trivial

end Part

/-- The text is laid out from the parts, and two backslashes stand side by side only where a row end
begins, or one character further in a row end with a line. -/
structure Laid (text : String) (parts : List Part) : Prop where
  text_eq : text = Part.layOut parts
  doubled : ∀ front back, text.toList = front ++ '\\' :: '\\' :: back →
    ∃ before e after, parts = before ++ Part.ending e :: after ∧
      (front = (Part.layOut before).toList ∨
        e = .ruled ∧ front = (Part.layOut before).toList ++ ['\\'])

section Doubled

private theorem fragment_tail (e : RowEnd) : Fragment e.tail 0 := by
  cases e <;> decide

private theorem doubled_behind (s : String) (n : Nat) (hs : Fragment s n) (rest front back : Text)
    (h : s.toList ++ rest = front ++ '\\' :: '\\' :: back) :
    ∃ front', front = s.toList ++ front' ∧ rest = front' ++ '\\' :: '\\' :: back := by
  rcases List.append_eq_append_iff.mp h with ⟨front', hfront, hrest⟩ | ⟨inside, hinside, hback⟩
  · exact ⟨front', hfront, hrest⟩
  · match inside with
    | [] => exact ⟨[], by simpa using hinside.symm, by simpa using hback.symm⟩
    | [c] =>
      obtain rfl : c = '\\' := (List.cons.inj hback).1.symm
      exact absurd (by simp [hinside]) hs.closed
    | c :: d :: inside =>
      obtain ⟨hc, hback⟩ := List.cons.inj hback
      obtain ⟨hd, -⟩ := List.cons.inj hback
      have hapart := hs.apart
      rw [Apart, hinside, List.isChain_append] at hapart
      exact absurd ⟨hc.symm, hd.symm⟩ (List.isChain_cons_cons.mp hapart.2.1).1

/-- A text that is laid out from row ends and tidy pieces doubles backslashes in the row ends
only. -/
theorem laid_of_tidy (parts : List Part) (htidy : ∀ part ∈ parts, part.Tidy) :
    Laid (Part.layOut parts) parts := by
  refine ⟨rfl, ?_⟩
  intro front back h
  induction parts generalizing front with
  | nil => simp [Part.layOut] at h
  | cons part parts ih =>
    obtain ⟨hpart, hparts⟩ := List.forall_mem_cons.mp htidy
    -- What is found behind the first part is found in the parts behind it.
    have hlater (front' : Text) (hfront : front = part.text.toList ++ front')
        (hrest : (Part.layOut parts).toList = front' ++ '\\' :: '\\' :: back) :
        ∃ before e after, part :: parts = before ++ Part.ending e :: after ∧
          (front = (Part.layOut before).toList ∨
            e = .ruled ∧ front = (Part.layOut before).toList ++ ['\\']) := by
      obtain ⟨before, e, after, hsplit, hplace⟩ := ih hparts front' hrest
      refine ⟨part :: before, e, after, by rw [hsplit, List.cons_append], ?_⟩
      rw [Part.layOut_cons, String.toList_append, List.append_assoc, hfront]
      exact hplace.imp (congrArg _) (And.imp_right (congrArg _))
    rw [Part.layOut_cons, String.toList_append] at h
    cases part with
    | piece s =>
      obtain ⟨n, hs⟩ := hpart
      obtain ⟨front', hfront, hrest⟩ := doubled_behind s n hs _ front back h
      exact hlater front' hfront hrest
    | ending e =>
      have hbegin : (Part.ending e).text.toList = '\\' :: '\\' :: e.tail.toList := by
        rw [Part.text, String.toList_append]
        rfl
      rw [hbegin] at h hlater
      match front with
      | [] => exact ⟨[], e, parts, rfl, Or.inl rfl⟩
      | [c] =>
        obtain ⟨rfl, htail⟩ := List.cons.inj h
        cases e with
        | plain => cases (List.cons.inj htail).2
        | ruled => exact ⟨[], .ruled, parts, rfl, Or.inr ⟨rfl, rfl⟩⟩
      | c :: d :: front =>
        obtain ⟨rfl, hnext⟩ := List.cons.inj h
        obtain ⟨rfl, htail⟩ := List.cons.inj hnext
        obtain ⟨front', rfl, hrest⟩ := doubled_behind e.tail 0 (fragment_tail e) _ front back htail
        exact hlater front' rfl hrest

end Doubled

namespace Part

/-- The pieces with the same parts between any two of them. -/
def between (parts : List Part) (pieces : List String) : List Part :=
  parts.intercalate (pieces.map (fun s => [piece s]))

theorem layOut_between (parts : List Part) (pieces : List String) :
    layOut (between parts pieces) = (layOut parts).intercalate pieces := by
  unfold between
  induction pieces with
  | nil => rfl
  | cons s pieces ih =>
    cases pieces with
    | nil => simp [layOut, text]
    | cons next rest =>
      rw [String.intercalate_cons_cons, ← ih]
      simp only [List.map_cons, List.intercalate_cons_cons, layOut_append, layOut_cons, text]
      simp [layOut, String.append_assoc]

theorem tidy_between (parts : List Part) (hparts : ∀ part ∈ parts, part.Tidy)
    (pieces : List String) (hpieces : ∀ s ∈ pieces, ∃ n, Fragment s n) :
    ∀ part ∈ between parts pieces, part.Tidy := by
  unfold between
  induction pieces with
  | nil => simp
  | cons s pieces ih =>
    obtain ⟨hs, hrest⟩ := List.forall_mem_cons.mp hpieces
    cases pieces with
    | nil => simpa using hs
    | cons next rest =>
      rw [List.map_cons, List.map_cons, List.intercalate_cons_cons]
      refine List.forall_mem_append.mpr ⟨List.forall_mem_append.mpr ⟨?_, hparts⟩, ih hrest⟩
      simpa using hs

end Part

end Latex

end Predictive
