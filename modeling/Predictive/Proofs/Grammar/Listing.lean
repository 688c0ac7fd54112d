import Mathlib.Data.List.Infix
import Predictive.Grammar.Listing
import Predictive.Proofs.Grammar.Derivation
import Predictive.Proofs.Grammar.LineForm
import Predictive.Proofs.Text.Columns
/-!
# A listing reads back as its grammar

Each line of a listing is read as the alternative that it shows, so the rules come back one after
the other. What is read from a text can in turn be listed, since words between blanks, bars and
arrows hold none of these.
-/
namespace Predictive

/-- The symbol can be written as a word that stands for it. -/
structure Symbol.Writable (s : Symbol) : Prop where
  nonempty : s.label ≠ ""
  unbroken : ∀ c ∈ s.label.toList, isBlank c = false
  arrowless : ¬['-', '>'] <:+: s.label.toList
  named : s.label ≠ "ε" ∧ s.label ≠ "ϵ"

private theorem Symbol.writable_iff (s : Symbol) : s.Writable ↔
    s.label ≠ "" ∧ s.label.toList.all (fun c => !isBlank c) = true ∧
      ¬['-', '>'] <:+: s.label.toList ∧ s.label ≠ "ε" ∧ s.label ≠ "ϵ" := by
  constructor
  · intro h
    exact ⟨h.nonempty, by simpa using h.unbroken, h.arrowless, h.named⟩
  · rintro ⟨hne, hblank, harrow, hnamed⟩
    exact ⟨hne, by simpa using hblank, harrow, hnamed⟩

instance (s : Symbol) : Decidable s.Writable :=
  decidable_of_iff _ s.writable_iff.symm

/-- The body can be written between bars. -/
def Body.Listable (body : Body) : Prop := ∀ s ∈ body, s.Writable ∧ '|' ∉ s.label.toList

instance (body : Body) : Decidable body.Listable :=
  inferInstanceAs (Decidable (∀ s ∈ body, s.Writable ∧ '|' ∉ s.label.toList))

structure Rule.Listable (r : Rule) : Prop where
  head : r.head.Writable
  alternatives : r.alternatives ≠ []
  bodies : ∀ body ∈ r.alternatives, body.Listable

instance (r : Rule) : Decidable r.Listable :=
  decidable_of_iff (r.head.Writable ∧ r.alternatives ≠ [] ∧ ∀ body ∈ r.alternatives, body.Listable)
    ⟨fun h => ⟨h.1, h.2.1, h.2.2⟩, fun h => ⟨h.1, h.2, h.3⟩⟩

/-- A grammar whose listing shows all of it. -/
def Grammar.Listable (g : Grammar) : Prop := ∀ r ∈ g.rules, r.Listable

instance (g : Grammar) : Decidable g.Listable :=
  inferInstanceAs (Decidable (∀ r ∈ g.rules, r.Listable))

namespace Symbol

theorem Writable.ofWord (s : Symbol) (h : s.Writable) : Symbol.ofWord s.label.toList = s := by
  have hword (c : Char) (hc : s.label.toList = [c]) : s.label = String.ofList [c] :=
    String.toList_inj.mp (hc.trans String.toList_ofList.symm)
  rw [Symbol.ofWord, if_neg, String.ofList_toList]
  rintro (hc | hc)
  · exact h.named.1 (hword _ hc)
  · exact h.named.2 (hword _ hc)

theorem Writable.word (s : Symbol) (h : s.Writable) :
    s.label.toList ≠ [] ∧ ∀ c ∈ s.label.toList, isBlank c = false :=
  ⟨fun hnil => h.nonempty (String.toList_inj.mp hnil), h.unbroken⟩

private theorem writable_ofWord (word : Text) (hne : word ≠ [])
    (hword : ∀ c ∈ word, isBlank c = false) (harrow : Text.Arrowless word) :
    (Symbol.ofWord word).Writable := by
  unfold Symbol.ofWord
  split
  · decide
  · next hnamed =>
    obtain ⟨hε, hϵ⟩ := not_or.mp hnamed
    refine ⟨?_, ?_, ?_, ?_, ?_⟩
    · intro h
      exact hne (by simpa using congrArg String.toList h)
    · simpa using hword
    · simpa using (Text.arrowless_iff word).mp harrow
    · intro h
      exact hε (by simpa using congrArg String.toList h)
    · intro h
      exact hϵ (by simpa using congrArg String.toList h)

private theorem bar_not_mem_ofWord (word : Text) (h : '|' ∉ word) :
    '|' ∉ (Symbol.ofWord word).label.toList := by
  unfold Symbol.ofWord
  split
  · decide
  · simpa using h

end Symbol

namespace Body

variable (body : Body)

private theorem toList_text :
    (Body.text body).toList = [' '].intercalate (body.map (fun s => s.label.toList)) := by
  rw [Body.text, String.toList_intercalate, List.map_map]
  rfl

theorem mem_text (c : Char) (h : c ∈ (Body.text body).toList) :
    c = ' ' ∨ ∃ s ∈ body, c ∈ s.label.toList := by
  rw [toList_text] at h
  rcases Text.mem_intercalate _ _ _ h with h | ⟨piece, hpiece, h⟩
  · exact Or.inl (List.mem_singleton.mp h)
  · obtain ⟨s, hs, rfl⟩ := List.mem_map.mp hpiece
    exact Or.inr ⟨s, hs, h⟩

variable (h : body.Listable)

include h

private theorem Listable.words_text :
    (Text.words (Body.text body).toList).map Symbol.ofWord = body := by
  have hwords : Text.words (Body.text body).toList = body.map (fun s => s.label.toList) := by
    rw [toList_text]
    apply Text.words_intercalate
    intro w hw
    obtain ⟨s, hs, rfl⟩ := List.mem_map.mp hw
    exact (h s hs).1.word
  rw [hwords, List.map_map]
  exact (List.map_congr_left (fun s hs => (h s hs).1.ofWord)).trans (List.map_id body)

private theorem Listable.arrowless_text : Text.Arrowless (Body.text body).toList := by
  rw [toList_text]
  apply Text.arrowless_intercalate
  intro piece hpiece
  obtain ⟨s, hs, rfl⟩ := List.mem_map.mp hpiece
  exact (Text.arrowless_iff _).mpr (h s hs).1.arrowless

private theorem Listable.bar_not_mem_text : '|' ∉ (Body.text body).toList := by
  intro hbar
  rcases body.mem_text _ hbar with hc | ⟨s, hs, hc⟩
  · exact absurd hc (by decide)
  · exact (h s hs).2 hc

private theorem Listable.blank_text (c : Char) (hc : c ∈ (Body.text body).toList)
    (hblank : isBlank c = true) : c = ' ' := by
  rcases body.mem_text c hc with hc | ⟨s, hs, hc⟩
  · exact hc
  · exact absurd hblank (by simp [(h s hs).1.unbroken c hc])

theorem Listable.readAlternatives (text : Text) (hbar : '|' ∉ text)
    (hwords : Text.words text = Text.words (Body.text body).toList) :
    Grammar.readAlternatives text = [body] := by
  rw [Grammar.readAlternatives, List.splitOn_eq_singleton hbar, List.map_singleton, hwords,
    h.words_text]

end Body

namespace Rule

private theorem assign_assign (head : Symbol) (first second : List Body) (rs : List Rule) :
    assign head second (assign head first rs) = assign head second rs := by
  induction rs with
  | nil => simp [assign]
  | cons r rs ih =>
    by_cases h : r.head = head
    · simp [assign, h]
    · simp [assign, h, ih]

private theorem assign_of_new (head : Symbol) (alternatives : List Body) (rs : List Rule)
    (h : head ∉ rs.map Rule.head) : assign head alternatives rs = rs ++ [⟨head, alternatives⟩] := by
  induction rs with
  | nil => rfl
  | cons r rs ih =>
    obtain ⟨hr, hrs⟩ := not_or.mp (fun hmem => h (List.mem_cons.mpr hmem))
    rw [assign, if_neg (fun heq => hr heq.symm), ih hrs, List.cons_append]

private theorem mem_assign (head : Symbol) (alternatives : List Body) (rs : List Rule) (r : Rule)
    (h : r ∈ assign head alternatives rs) : r = ⟨head, alternatives⟩ ∨ r ∈ rs := by
  induction rs with
  | nil => exact Or.inl (List.mem_singleton.mp h)
  | cons x rs ih =>
    rw [assign] at h
    split at h
    · exact (List.mem_cons.mp h).imp_right (List.mem_cons_of_mem x)
    · rcases List.mem_cons.mp h with rfl | h
      · exact Or.inr List.mem_cons_self
      · exact (ih h).imp_right (List.mem_cons_of_mem x)

variable (width : Nat) (r : Rule) (body : Body)

theorem toList_leadingText : (r.leadingText width body).toList =
    (List.replicate (width - r.head.label.length) ' ' ++ (r.head.label.toList ++ [' '])) ++
      '-' :: '>' :: ' ' :: (Body.text body).toList := by
  simp [leadingText, Column.toList_alignRight]

theorem toList_continuingText : (continuingText width body).toList =
    (List.replicate width ' ' ++ [' ', ' ']) ++ '|' :: ' ' :: (Body.text body).toList := by
  simp [continuingText, Column.toList_alignRight]

theorem lines_eq_nil_iff : r.lines width = [] ↔ r.alternatives = [] := by
  unfold lines
  split <;> simp_all

private theorem Listable.exists_lines (hr : r.Listable) : ∃ body bodies,
    r.alternatives = body :: bodies ∧ body.Listable ∧ (∀ b ∈ bodies, b.Listable) ∧
      r.lines width = r.leadingText width body :: bodies.map (continuingText width) := by
  obtain ⟨body, bodies, hcons⟩ := List.exists_cons_of_ne_nil hr.alternatives
  have hbodies := hr.bodies
  rw [hcons] at hbodies
  obtain ⟨hbody, hrest⟩ := List.forall_mem_cons.mp hbodies
  exact ⟨body, bodies, hcons, hbody, hrest, by rw [lines, hcons]⟩

private theorem Listable.blank_lines (hr : r.Listable) : ∀ line ∈ r.lines width,
    line.toList ≠ [] ∧ ∀ c ∈ line.toList, isBlank c = true → c = ' ' := by
  obtain ⟨body, bodies, -, hbody, hbodies, hlines⟩ := hr.exists_lines width r
  intro line hline
  rw [hlines] at hline
  rcases List.mem_cons.mp hline with rfl | hline
  · rw [toList_leadingText]
    refine ⟨by simp, ?_⟩
    intro c hc hblank
    simp only [List.mem_append, List.mem_cons, List.not_mem_nil, or_false] at hc
    rcases hc with (hc | hc | hc) | rfl | rfl | hc | hc
    · exact List.eq_of_mem_replicate hc
    · exact absurd hblank (by simp [hr.head.unbroken c hc])
    · exact hc
    · exact absurd hblank (by decide)
    · exact absurd hblank (by decide)
    · exact hc
    · exact hbody.blank_text body c hc hblank
  · obtain ⟨later, hlater, rfl⟩ := List.mem_map.mp hline
    rw [toList_continuingText]
    refine ⟨by simp, ?_⟩
    intro c hc hblank
    simp only [List.mem_append, List.mem_cons, List.not_mem_nil, or_false] at hc
    rcases hc with (hc | hc | hc) | rfl | hc | hc
    · exact List.eq_of_mem_replicate hc
    · exact hc
    · exact hc
    · exact absurd hblank (by decide)
    · exact hc
    · exact (hbodies later hlater).blank_text later c hc hblank

end Rule

namespace Grammar

private theorem assign_assign (g : Grammar) (head : Symbol) (first second : List Body) :
    (g.assign head first).assign head second = g.assign head second := by
  simp only [assign, Rule.assign_assign]

section Lines

variable (previous : Option Symbol) (width : Nat) (r : Rule) (body : Body) (hbody : body.Listable)

include hbody

private theorem readLine_leading (hhead : r.head.Writable) :
    readLine previous (r.leadingText width body).toList = .ok (some (r.head, [body])) := by
  rw [r.toList_leadingText]
  generalize hleft : List.replicate (width - r.head.label.length) ' ' ++
    (r.head.label.toList ++ [' ']) = left
  have htrim : Text.trim left = r.head.label.toList := by
    rw [← hleft]
    exact Text.trim_word _ _ _ (Text.isBlank_of_mem_replicate _) hhead.word.1 hhead.word.2
      (Text.isBlank_of_mem_replicate 1)
  have harrowless : Text.Arrowless left := by
    rw [← hleft]
    apply Text.arrowless_append_of_not_mem _ _ (by simp)
    exact Text.arrowless_append _ _ ((Text.arrowless_iff _).mpr hhead.arrowless)
      (Text.arrowless_of_not_mem [' '] (by decide)) (Or.inr (by decide))
  have hright : Text.Arrowless (' ' :: (Body.text body).toList) :=
    Text.arrowless_append_of_not_mem [' '] _ (by decide) hbody.arrowless_text
  have hheading := LineForm.Describes.heading left _ _ harrowless hright htrim hhead.word.1
    hhead.word.2
  rw [readLine_of_heading _ previous _ _ hheading, hhead.ofWord, hbody.readAlternatives]
  · simpa using hbody.bar_not_mem_text
  · exact Text.words_append_blank [] _ ' ' (by decide)

private theorem readLine_continuing (head : Symbol) :
    readLine (some head) (Rule.continuingText width body).toList = .ok (some (head, [body])) := by
  rw [Rule.toList_continuingText]
  generalize hblanks : List.replicate width ' ' ++ [' ', ' '] = blanks
  have hblank : ∀ c ∈ blanks, isBlank c = true := by
    rw [← hblanks]
    exact List.forall_mem_append.mpr
      ⟨Text.isBlank_of_mem_replicate width, Text.isBlank_of_mem_replicate 2⟩
  have hdash : '-' ∉ blanks := fun hmem => absurd (hblank '-' hmem) (by decide)
  have harrowless : Text.Arrowless (blanks ++ '|' :: ' ' :: (Body.text body).toList) := by
    apply Text.arrowless_append_of_not_mem _ _ hdash
    exact Text.arrowless_append_of_not_mem ['|', ' '] _ (by decide) hbody.arrowless_text
  have htrim := Text.trim_blanks_append blanks '|' (' ' :: (Body.text body).toList) hblank
    (by decide)
  have hcontinuing := LineForm.Describes.continuing _ _ harrowless htrim
  rw [readLine_of_continuing _ head _ hcontinuing, hbody.readAlternatives]
  · intro hbar
    have hmem := (List.rdropWhile_prefix isBlank _).subset hbar
    exact hbody.bar_not_mem_text body (by simpa using hmem)
  · rw [Text.words_rdropWhile]
    exact Text.words_append_blank [] _ ' ' (by decide)

end Lines

private theorem readLines_some (g g' : Grammar) (previous : Option Symbol) (number : Nat)
    (line : Text) (rest : List Text) (head : Symbol) (alternatives : List Body)
    (hline : readLine previous line = .ok (some (head, alternatives)))
    (hg : g.extend head alternatives = g') :
    readLines g previous number (line :: rest) = readLines g' (some head) (number + 1) rest := by
  rw [readLines, hline, ← hg]

private theorem readLines_continuing (g : Grammar) (head : Symbol) (width number : Nat)
    (before bodies : List Body) (hbodies : ∀ body ∈ bodies, body.Listable) (rest : List Text) :
    readLines (g.assign head before) (some head) number
        (bodies.map (fun body => (Rule.continuingText width body).toList) ++ rest) =
      readLines (g.assign head (before ++ bodies)) (some head) (number + bodies.length) rest := by
  induction bodies generalizing number before with
  | nil => rw [List.append_nil]; rfl
  | cons body bodies ih =>
    obtain ⟨hbody, hbodies⟩ := List.forall_mem_cons.mp hbodies
    have hextend : (g.assign head before).extend head [body] =
        g.assign head (before ++ [body]) := by
      rw [extend, alternatives_assign, if_pos rfl, assign_assign]
    rw [List.map_cons, List.cons_append, readLines_some _ _ _ _ _ _ _ _
      (readLine_continuing width body hbody head) hextend, ih _ _ hbodies, List.append_assoc,
      List.length_cons, Nat.add_assoc, Nat.add_comm 1]
    rfl

private theorem readLines_rule (g : Grammar) (previous : Option Symbol) (width number : Nat)
    (r : Rule) (hr : r.Listable) (hnew : r.head ∉ g.heads) (rest : List Text) :
    readLines g previous number ((r.lines width).map String.toList ++ rest) =
      readLines (g.assign r.head r.alternatives) (some r.head) (number + r.alternatives.length)
        rest := by
  obtain ⟨body, bodies, hcons, hbody, hbodies, hlines⟩ := hr.exists_lines width r
  have hextend : g.extend r.head [body] = g.assign r.head [body] := by
    rw [extend, g.alternatives_of_new r.head hnew, List.nil_append]
  have htexts : (r.lines width).map String.toList = (r.leadingText width body).toList ::
      bodies.map (fun body => (Rule.continuingText width body).toList) := by
    rw [hlines, List.map_cons, List.map_map]
    rfl
  rw [htexts, List.cons_append, readLines_some _ _ _ _ _ _ _ _
    (readLine_leading previous width r body hbody hr.head) hextend,
    readLines_continuing g r.head width (number + 1) [body] bodies hbodies rest, hcons,
    List.length_cons, Nat.add_assoc, Nat.add_comm 1]
  rfl

private theorem readLines_listing (g : Grammar) (previous : Option Symbol) (width number : Nat)
    (rules : List Rule) (hrules : ∀ r ∈ rules, r.Listable)
    (hnodup : ((g.rules ++ rules).map Rule.head).Nodup) :
    ∃ g', readLines g previous number ((rules.flatMap (Rule.lines width)).map String.toList) =
      .ok g' ∧ g'.rules = g.rules ++ rules := by
  induction rules generalizing g previous number with
  | nil => exact ⟨g, rfl, (List.append_nil _).symm⟩
  | cons r rules ih =>
    obtain ⟨hr, hrules⟩ := List.forall_mem_cons.mp hrules
    have hnew : r.head ∉ g.heads := by
      intro hmem
      rw [List.map_append, List.map_cons] at hnodup
      exact (List.nodup_append.mp hnodup).2.2 _ hmem _ List.mem_cons_self rfl
    have hassign : (g.assign r.head r.alternatives).rules = g.rules ++ [r] :=
      Rule.assign_of_new r.head r.alternatives g.rules hnew
    have happend : (g.rules ++ [r]) ++ rules = g.rules ++ r :: rules := by simp
    rw [List.flatMap_cons, List.map_append,
      g.readLines_rule previous width number r hr hnew]
    obtain ⟨g', hread, hg'⟩ := ih (g.assign r.head r.alternatives) (some r.head) _ hrules
      (by rw [hassign, happend]; exact hnodup)
    exact ⟨g', hread, by rw [hg', hassign, happend]⟩

private theorem blank_listing (g : Grammar) (hg : g.Listable) (width : Nat) :
    ∀ line ∈ (g.rules.flatMap (Rule.lines width)).map String.toList,
      line ≠ [] ∧ ∀ c ∈ line, isBlank c = true → c = ' ' := by
  intro line hline
  obtain ⟨text, htext, rfl⟩ := List.mem_map.mp hline
  obtain ⟨r, hr, htext⟩ := List.mem_flatMap.mp htext
  exact (hg r hr).blank_lines width r text htext

private theorem lines_listingText (g : Grammar) (hg : g.Listable) :
    Text.lines g.listingText.toList =
      (g.rules.flatMap (Rule.lines g.listingWidth)).map String.toList := by
  have hflat : g.listingText = "\n".intercalate (g.rules.flatMap (Rule.lines g.listingWidth)) := by
    apply Text.intercalate_flatMap
    intro r hr hnil
    exact (hg r hr).alternatives (r.lines_eq_nil_iff _ |>.mp hnil)
  have hblank := g.blank_listing hg g.listingWidth
  rw [hflat, String.toList_intercalate]
  apply Text.lines_intercalate
  intro line hline
  refine ⟨(hblank line hline).1, ?_, ?_⟩
  · exact fun hfeed => absurd ((hblank line hline).2 _ hfeed (by decide)) (by decide)
  · exact fun hreturn => absurd ((hblank line hline).2 _ hreturn (by decide)) (by decide)

private theorem read_of_listable (g : Grammar) (hg : g.Listable) : read g.listingText = .ok g := by
  obtain ⟨g', hread, hrules⟩ := readLines_listing empty none g.listingWidth 1 g.rules hg
    g.heads_nodup
  have heq : g' = g := by
    cases g'
    cases g
    simpa [empty] using hrules
  rw [read, g.lines_listingText hg, hread, heq]

section Reading

private theorem listable_readAlternatives (text : Text) (h : Text.Arrowless text) :
    readAlternatives text ≠ [] ∧ ∀ body ∈ readAlternatives text, body.Listable := by
  constructor
  · intro hnil
    exact List.splitOn_ne_nil _ _ (List.map_eq_nil_iff.mp hnil)
  · intro body hbody s hs
    obtain ⟨piece, hpiece, rfl⟩ := List.mem_map.mp hbody
    obtain ⟨word, hword, rfl⟩ := List.mem_map.mp hs
    obtain ⟨hwithin, hbar⟩ := Text.mem_splitOn '|' text piece hpiece
    obtain ⟨hinside, hne, hsolid⟩ := Text.mem_words piece word hword
    have harrowless := List.IsChain.infix h (hinside.trans hwithin)
    exact ⟨Symbol.writable_ofWord word hne hsolid harrowless,
      Symbol.bar_not_mem_ofWord word (fun hmem => hbar (hinside.subset hmem))⟩

private theorem listable_of_readLine (previous : Option Symbol)
    (hprevious : ∀ s ∈ previous, s.Writable) (line : Text) (head : Symbol)
    (alternatives : List Body) (h : readLine previous line = .ok (some (head, alternatives))) :
    head.Writable ∧ alternatives ≠ [] ∧ ∀ body ∈ alternatives, body.Listable := by
  have hread := reading_readLine previous line
  rw [h] at hread
  cases hread with
  | heading _ right hline =>
    cases hline with
    | heading left _ word hleft hright htrim hne hword =>
      have hinside : word <:+: left := htrim ▸ Text.trim_within left
      have harrowless := List.IsChain.infix hleft hinside
      exact ⟨Symbol.writable_ofWord word hne hword harrowless,
        listable_readAlternatives right hright⟩
  | continuing _ right hline hhead =>
    cases hline with
    | continuing _ _ harrow hbar =>
      have hsuffix : right <:+ Text.trim line := hbar ▸ List.suffix_cons '|' right
      have hinside : right <:+: line := hsuffix.isInfix.trans (Text.trim_within line)
      have hright := List.IsChain.infix harrow hinside
      exact ⟨hprevious head hhead, listable_readAlternatives right hright⟩

theorem Listable.extend (g : Grammar) (hg : g.Listable) (head : Symbol) (hhead : head.Writable)
    (alternatives : List Body) (hne : alternatives ≠ [])
    (hbodies : ∀ body ∈ alternatives, body.Listable) : (g.extend head alternatives).Listable := by
  intro r hr
  rcases Rule.mem_assign head _ g.rules r hr with rfl | hr
  · refine ⟨hhead, List.append_ne_nil_of_right_ne_nil _ hne, ?_⟩
    intro body hbody
    rcases List.mem_append.mp hbody with hbody | hbody
    case inr => exact hbodies body hbody
    have hproduction := (g.mem_productions_iff ⟨head, body⟩).mpr hbody
    obtain ⟨old, hold, hmem⟩ := List.mem_flatMap.mp hproduction
    obtain ⟨body', hbody', heq⟩ := List.mem_map.mp hmem
    cases heq
    exact (hg old hold).bodies body hbody'
  · exact hg r hr

private theorem listable_of_readLines (g : Grammar) (hg : g.Listable) (previous : Option Symbol)
    (hprevious : ∀ s ∈ previous, s.Writable) (number : Nat) (lines : List Text) (g' : Grammar)
    (h : readLines g previous number lines = .ok g') : g'.Listable := by
  induction lines generalizing g previous number with
  | nil =>
    cases h
    exact hg
  | cons line lines ih =>
    rw [readLines] at h
    split at h
    · cases h
    · exact ih g hg previous hprevious _ h
    · next head alternatives hline =>
      obtain ⟨hhead, hne, hbodies⟩ := listable_of_readLine previous hprevious line _ _ hline
      apply ih _ (hg.extend g head hhead alternatives hne hbodies) (some head) ?_ _ h
      intro s hs
      exact Option.some.inj hs ▸ hhead

end Reading

/-- Listings read back as their grammars, and every grammar that is read from a text can be listed,
so listing it and reading the listing changes nothing. -/
theorem read_listingText :
    (∀ g : Grammar, g.Listable → read g.listingText = .ok g) ∧
    ∀ source g, read source = .ok g → g.Listable ∧ read g.listingText = .ok g := by
  refine ⟨read_of_listable, ?_⟩
  intro source g h
  have hempty : empty.Listable := fun r hr => absurd hr List.not_mem_nil
  have hg := listable_of_readLines empty hempty none (by simp) 1 _ g h
  exact ⟨hg, read_of_listable g hg⟩

/-- Labels with bars, dashes, angles and letters of several bytes, and alternatives without
symbols. -/
def awkward : Grammar := Grammar.ofRules
  [(⟨"A|B"⟩, [[⟨"-"⟩, ⟨">"⟩], [], [⟨"é"⟩, Symbol.epsilon]]), (⟨"größe-"⟩, [[], [⟨"größe-"⟩]])]

/-- A text that is laid out in another way than a listing. -/
def looseSource : String := "S->a ϵ|\r\n\n  | b\t|\nA -> S\n| "

def loose : Grammar := Grammar.ofRules
  [(⟨"S"⟩, [[⟨"a"⟩, Symbol.epsilon], [], [⟨"b"⟩], []]), (⟨"A"⟩, [[⟨"S"⟩], []])]

theorem read_listingText_awkward : awkward.Listable ∧ read awkward.listingText = .ok awkward ∧
    read looseSource = .ok loose ∧ read loose.listingText = .ok loose := by
  have hawkward : awkward.Listable := by decide +kernel
  have hloose : read looseSource = .ok loose := by decide +kernel
  exact ⟨hawkward, read_listingText.1 awkward hawkward, hloose,
    (read_listingText.2 looseSource loose hloose).2⟩

end Grammar

end Predictive
