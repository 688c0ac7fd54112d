import Predictive.Proofs.Regex.Enclosed
/-!
# Patterns within a group

A pattern is put into a group by writing text around it, so a stray parenthesis in the pattern can
close that group too early. A pattern that is well formed on its own does not do that: if the whole
is well formed too, then the pattern is the body of the group.
-/
namespace Predictive

namespace Regex

namespace Enclosed

variable {r r' : Text} (extended : Bool)

protected theorem readPart (h : Enclosed r r') (g : Group) (c : Char) :
    Agree (readPart extended g c r) (readPart extended g c r') := by
  simp only [readPart]
  split
  · exact h.repeatLast g 0 (some 1)
  · exact h.repeatLast g 0 none
  · exact h.repeatLast g 1 none
  · cases hb : readBounds extended r with
    | none => exact Agree.left _
    | some b =>
      cases hb' : readBounds extended r' with
      | none => exact Agree.right _
      | some b' =>
        obtain ⟨min, max, s⟩ := b
        obtain ⟨min', max', s'⟩ := b'
        obtain ⟨rfl, rfl, hs⟩ := h.readBounds extended hb hb'
        exact (hs.skip extended).repeatLast g min max
  · exact (h.readBracket extended).map _
  · exact Agree.both _ h
  · exact Agree.both _ h
  · exact Agree.both _ h
  · exact (h.readEscape extended).map (fun e => g.push (phraseOf e))
  · exact Agree.both _ h

protected theorem readGroupName (h : Enclosed r r') :
    Agree (readGroupName r) (readGroupName r') := by
  simp only [readGroupName]
  obtain ⟨s, s', hs, hs', hrest⟩ | ⟨hs, hs'⟩ :=
    (h.dropWhile (fun c => c ≠ '>')).starts '>' (by decide)
  · rw [← h.takeWhile _ (by rw [hs]; exact List.cons_ne_nil _ _), hs, hs']
    cases r.takeWhile (fun c => c ≠ '>') with
    | nil => exact Agree.left _
    | cons c cs =>
      split
      · next heq heq' =>
        cases heq
        cases heq'
        split
        · exact Agree.both _ hrest
        · exact Agree.left _
      · exact Agree.left _
  · split
    · next heq _ => exact absurd heq (hs _)
    · exact Agree.left _

protected theorem readFlags (h : Enclosed r r') (seen : Text) (change : FlagChange) :
    Agree (readFlags seen change r) (readFlags seen change r') := by
  induction h generalizing seen change with
  | same | closed => exact Agree.left _
  | cons c h ih =>
    simp only [readFlags]
    split
    · split
      · exact Agree.left _
      · exact Agree.both _ (h.cons c)
    · split
      · exact Agree.left _
      · split
        · exact ih _ _
        · cases Flag.ofLetter c with
          | none => exact Agree.left _
          | some flag => exact ih _ _

/-- Openings of one kind with the text behind the one enclosed in the text behind the other. -/
inductive Opened : Opening → Opening → Prop
  | capture (name : Option Text) {s s' : Text} (h : Enclosed s s') :
    Opened (.capture name s) (.capture name s')
  | group (change : FlagChange) {s s' : Text} (h : Enclosed s s') :
    Opened (.group change s) (.group change s')
  | flags (change : FlagChange) {s s' : Text} (h : Enclosed s s') :
    Opened (.flags change s) (.flags change s')

protected theorem readParenthesis (h : Enclosed r r') {o o' : Opening}
    (ho : readParenthesis extended r = some o) (ho' : readParenthesis extended r' = some o') :
    Opened o o' := by
  have hskip := h.skip extended
  simp only [readParenthesis] at ho ho'
  generalize skip extended r = t, skip extended r' = t' at hskip ho ho'
  obtain ⟨s, s', rfl, rfl, hs⟩ | ⟨ht, ht'⟩ := hskip.starts '?' (by decide)
  · have hname {u u' : Text} (hu : Enclosed u u')
        (ho : (readGroupName u).map (fun r => Opening.capture (some r.1) r.2) = some o)
        (ho' : (readGroupName u').map (fun r => Opening.capture (some r.1) r.2) = some o') :
        Opened o o' := by
      obtain ⟨⟨name, v⟩, hv, rfl⟩ := Option.map_eq_some_iff.mp ho
      obtain ⟨⟨name', v'⟩, hv', rfl⟩ := Option.map_eq_some_iff.mp ho'
      obtain ⟨rfl, hrest⟩ := hu.readGroupName hv hv'
      exact .capture (some name) hrest
    obtain ⟨u, u', rfl, rfl, hu⟩ | ⟨hahead, hahead'⟩ := hs.starts '=' (by decide)
    · cases ho
    obtain ⟨u, u', rfl, rfl, hu⟩ | ⟨hnot, hnot'⟩ := hs.starts '!' (by decide)
    · cases ho
    obtain ⟨u, u', rfl, rfl, hu⟩ | ⟨hp, hp'⟩ := hs.starts_pair 'P' '<' (by decide) (by decide)
    · exact hname hu ho ho'
    obtain ⟨u, u', rfl, rfl, hu⟩ | ⟨hangle, hangle'⟩ := hs.starts '<' (by decide)
    · obtain ⟨v, v', rfl, rfl, hv⟩ | ⟨hbehind, hbehind'⟩ := hu.starts '=' (by decide)
      · cases ho
      obtain ⟨v, v', rfl, rfl, hv⟩ | ⟨hnot, hnot'⟩ := hu.starts '!' (by decide)
      · cases ho
      simp only at ho ho'
      exact hname hu ho ho'
    · simp only [hangle, imp_self, implies_true] at ho
      simp only [hangle', imp_self, implies_true] at ho'
      revert ho ho'
      refine (hs.readFlags [] []).elim (by simp) (by simp) ?_
      intro change u u' hu ho ho'
      split at ho
      · next heq =>
        cases heq
        cases hu with
        | cons _ hu =>
          cases ho
          cases ho'
          exact .group change hu
      · cases ho
      · next heq =>
        cases heq
        cases hu with
        | cons _ hu =>
          cases ho
          cases change with
          | nil => cases ho'
          | cons flag change =>
            cases ho'
            exact .flags (flag :: change) hu
      · cases ho
  · simp only [ht, imp_self, implies_true, Option.some.injEq] at ho
    simp only [ht', imp_self, implies_true, Option.some.injEq] at ho'
    subst ho
    subst ho'
    exact .capture none hskip

/-- The levels need not be the same, since they matter only where a reading fails. -/
protected theorem readGroup (h : Enclosed r r') {limit limit' levels levels' : Nat}
    {captures after after' : Captures} {g : Group} {body body' : Phrase} {s s' : Text}
    (hr : readGroup limit levels extended captures g r = some (body, after, s))
    (hr' : readGroup limit' levels' extended captures g r' = some (body', after', s')) :
    body = body' ∧ after = after' ∧ Enclosed s s' := by
  -- The limits go down together; what a group within leaves is enclosed again, so that the reading
  -- goes on behind it.
  induction limit generalizing r r' extended limit' levels levels' captures g body body' after
    after' s s' with
  | zero => cases hr
  | succ limit ih =>
    cases limit' with
    | zero => cases hr'
    | succ limit' =>
      have hskip := h.skip extended
      simp only [readGroup] at hr hr'
      generalize skip extended r = t, skip extended r' = t' at hskip hr hr'
      cases hskip with
      | same =>
        cases hr
        cases hr'
        exact ⟨rfl, rfl, same⟩
      | closed =>
        cases hr
        cases hr'
        exact ⟨rfl, rfl, closed⟩
      | @cons c u u' hu =>
        by_cases hclose : c = ')'
        · subst hclose
          cases hr
          cases hr'
          exact ⟨rfl, rfl, hu.cons _⟩
        by_cases hbar : c = '|'
        · subst hbar
          exact ih extended hu hr hr'
        by_cases hparen : c = '('
        · subst hparen
          simp only at hr hr'
          cases ho : readParenthesis extended u with
          | none => simp [ho] at hr
          | some o =>
            cases ho' : readParenthesis extended u' with
            | none => simp [ho'] at hr'
            | some o' =>
              rw [ho] at hr
              rw [ho'] at hr'
              cases hu.readParenthesis extended ho ho' with
              | flags change hs => exact ih _ hs hr hr'
              | group change hs =>
                cases levels with
                | zero => cases hr
                | succ inner =>
                  cases levels' with
                  | zero => cases hr'
                  | succ inner' =>
                    simp only at hr hr'
                    split at hr
                    · next hin =>
                      split at hr'
                      · next hin' =>
                        obtain ⟨rfl, rfl, hbehind⟩ := ih _ hs hin hin'
                        cases hbehind with
                        | cons _ hrest => exact ih extended hrest hr hr'
                      · cases hr'
                    · cases hr
              | capture name hs =>
                cases levels with
                | zero => cases hr
                | succ inner =>
                  cases levels' with
                  | zero => cases hr'
                  | succ inner' =>
                    simp only at hr hr'
                    split at hr
                    · cases hr
                    · next hopened =>
                      rw [hopened] at hr'
                      simp only at hr'
                      split at hr
                      · next hin =>
                        split at hr'
                        · next hin' =>
                          obtain ⟨rfl, rfl, hbehind⟩ := ih extended hs hin hin'
                          cases hbehind with
                          | cons _ hrest => exact ih extended hrest hr hr'
                        · cases hr'
                      · cases hr
        · simp only at hr hr'
          revert hr hr'
          refine (hu.readPart extended g c).elim (by simp) (by simp) ?_
          intro g s s' hs hr hr'
          exact ih extended hs hr hr'

end Enclosed

private theorem readGroup_opened (limit levels : Nat) (captures : Captures) (text : Text) :
    readGroup (limit + 2) (levels + 1) false captures .empty ('^' :: '(' :: '?' :: ':' :: text) =
      match readGroup limit levels false captures .empty text with
      | some (body, captures, ')' :: rest) =>
        readGroup limit (levels + 1) false captures
          ⟨[], [.group none [] body, .anchor .caret]⟩ rest
      | _ => none := rfl

private theorem readGroup_of_ofText (pattern : Text) (p : Phrase)
    (h : Phrase.ofText pattern = some p) :
    ∃ captures, readGroup (pattern.length + 1) depthLimit false ⟨0, []⟩ .empty pattern =
      some (p, captures, []) := by
  rw [Phrase.ofText] at h
  split at h
  · next q captures hread =>
    by_cases hdepth : q.depth ≤ depthLimit
    · rw [if_pos hdepth] at h
      cases h
      exact ⟨captures, hread⟩
    · rw [if_neg hdepth] at h
      cases h
  · cases h

/-- A pattern that is well formed on its own is the body of the group that is put around it. -/
private theorem ofText_group (pattern : Text) (body whole : Phrase)
    (hbody : Phrase.ofText pattern = some body)
    (hwhole : Phrase.ofText ("^(?:".toList ++ pattern ++ ")".toList) = some whole) :
    whole = .sequence [.anchor .caret, .group none [] body] := by
  obtain ⟨captures, hread⟩ := readGroup_of_ofText pattern body hbody
  obtain ⟨after, hgroup⟩ := readGroup_of_ofText _ whole hwhole
  have hlength : ("^(?:".toList ++ pattern ++ ")".toList).length + 1 = pattern.length + 4 + 2 := by
    simp
  have htext : "^(?:".toList ++ pattern ++ ")".toList =
      '^' :: '(' :: '?' :: ':' :: (pattern ++ [')']) := rfl
  rw [hlength, htext, depthLimit, readGroup_opened] at hgroup
  split at hgroup
  · next hinner =>
    obtain ⟨rfl, rfl, hrest⟩ := (enclosed_append pattern).readGroup false hread hinner
    cases hrest
    cases hgroup
    rfl
  · cases hgroup

private theorem meaning_group (body : Phrase) :
    (Phrase.sequence [.anchor .caret, .group none [] body]).meaning {} =
      (body.meaning {}).map (fun r => (concat [assertion .textStart, r.1], {})) := by
  have hcaret : Flags.anchor {} .caret = .textStart := rfl
  have happly : Flags.apply {} [] = {} := rfl
  simp only [Phrase.meaning, Phrase.meanings, hcaret, happly]
  cases body.meaning {} <;> rfl

private theorem startsText_concat (rest : List Regex) :
    (concat (assertion .textStart :: rest)).startsText = true := by
  have hparts : (assertion .textStart :: rest).flatMap parts =
      assertion .textStart :: rest.flatMap parts := rfl
  rw [concat, hparts, List.foldr_cons]
  cases (rest.flatMap parts).foldr pushPart [] with
  | nil => rfl
  | cons a list => rfl

end Regex

namespace Pattern

theorem eq_of_group (pattern : Text) (body : Regex.Phrase) (p : Pattern)
    (hbody : Regex.Phrase.ofText pattern = some body)
    (hp : ofText ("^(?:".toList ++ pattern ++ ")".toList) = some p) :
    ∃ r f, body.meaning {} = some (r, f) ∧
      p = ofRegex (Regex.concat [.assertion .textStart, r]) := by
  generalize htext : "^(?:".toList ++ pattern ++ ")".toList = text at hp
  rw [ofText, Regex.ofText] at hp
  cases hwhole : Regex.Phrase.ofText text with
  | none => simp [hwhole] at hp
  | some whole =>
    obtain rfl := Regex.ofText_group pattern body whole hbody (htext ▸ hwhole)
    cases hmeaning : body.meaning {} with
    | none => simp [hwhole, Regex.meaning_group, hmeaning] at hp
    | some r =>
      simp only [hwhole, Regex.meaning_group, hmeaning, Option.bind_some, Option.map_some] at hp
      split at hp
      · cases hp
        exact ⟨r.1, r.2, rfl, rfl⟩
      · cases hp

theorem startsText_of_group (pattern : Text) (p : Pattern)
    (hbody : (Regex.Phrase.ofText pattern).isSome)
    (hp : ofText ("^(?:".toList ++ pattern ++ ")".toList) = some p) : p.startsText = true := by
  obtain ⟨body, hbody⟩ := Option.isSome_iff_exists.mp hbody
  obtain ⟨r, f, -, rfl⟩ := eq_of_group pattern body p hbody hp
  exact Regex.startsText_concat [r]

end Pattern

end Predictive
