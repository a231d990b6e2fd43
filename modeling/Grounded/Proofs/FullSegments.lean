import Grounded.Proofs.Segments

/-!
# Full segments

A segment is closed where the next paragraph finds no room behind it. What is measured is the open segment, and
the overlap at its start may begin with blanks: these count, although the closed segment does not have them.
So between two neighbouring segments the bound is exceeded only if the blanks that the first one has lost are
counted with it (`segment_leaves_no_room`). The first segment never loses any, and no other one does unless its
overlap has at least two characters. Where blanks are lost, a paragraph may be put into a segment of its own
that would still have had room (`not_segment_takes_what_fits`).
-/

namespace Grounded.Segmenter

open Text

/--
The blanks that the segments have lost, by their places: the first of them so many, and each other one by what
it takes over in front of its group. The groups are those behind the first segment.
-/
def lostAt (g : Segmenter) (first : Nat) (segments : List (List Char))
    (groups : List (List (List Char))) : Nat → Nat
  | 0 => first
  | n + 1 => g.lostBlanks (segments.getD n []) ((groups.getD n []).headD [])

/-- A segment loses fewer blanks than the overlap has characters, since it keeps a part of the overlap. -/
theorem lostBlanks_le {g : Segmenter} {closed : List Char} (hne : closed ≠ []) (ht : Trimmed closed)
    (first : List Char) : g.lostBlanks closed first ≤ g.overlapChars - 1 := by
  rw [lostBlanks]
  split
  · rename_i htaken
    have hkept : 0 < (trimStart (g.overlapOf closed)).length :=
      List.length_pos_iff.mpr (trimStart_overlapOf_ne_nil htaken.1 hne ht)
    have hparts : ((g.overlapOf closed).takeWhile isBlank).length
        + (trimStart (g.overlapOf closed)).length = (g.overlapOf closed).length := by
      rw [trimStart, ← List.length_append, List.takeWhile_append_dropWhile]
    have hcut : (g.overlapOf closed).length ≤ g.overlapChars := by
      rw [overlapOf, List.length_drop]
      omega
    omega
  · exact Nat.zero_le _

/-- Each segment was too full for what comes next. -/
theorem Filled.no_room {g : Segmenter} {lost : Nat} {closed : List Char}
    {groups : List (List (List Char))} (h : g.Filled lost closed groups) {n : Nat} {s : List Char}
    {group : List (List Char)} (hs : (closed :: g.segmentsAfter closed groups)[n]? = some s)
    (hgroup : groups[n]? = some group) :
    g.maxChars < s.length + g.lostAt lost (closed :: g.segmentsAfter closed groups) groups n + 2
      + (group.headD []).length := by
  induction groups generalizing lost closed n with
  | nil => cases hgroup
  | cons first groups ih =>
      cases n with
      | zero =>
          obtain rfl := Option.some.inj hs
          obtain rfl := Option.some.inj hgroup
          exact h.1
      | succ n =>
          have hnext := ih h.2 hs hgroup
          -- the blanks of the next segment are given where it is the first one, else they are read off
          cases n with
          | zero => exact hnext
          | succ n => exact hnext

/--
**A segment is closed only where there is no room left,** if what its overlap has lost is counted. For the
groups that give the segments of a text: a segment with the blanks that it has lost, a blank line and the first
paragraph of the next group exceed the bound. Of the overlap, at least one character is not lost.
-/
theorem segment_leaves_no_room (g : Segmenter) (text : List Char) :
    ∃ groups : List (List (List Char)), groups.flatten = tidy (betweenBreaks text) ∧
      (∀ group ∈ groups, group ≠ []) ∧ g.segment text = g.segmentsOf groups ∧
      ∀ n s group, (g.segment text)[n]? = some s → groups[n + 1]? = some group →
        g.maxChars < s.length + g.lostAt 0 (g.segment text) groups.tail n + 2
          + (group.headD []).length ∧
        g.lostAt 0 (g.segment text) groups.tail n ≤ g.overlapChars - 1 := by
  obtain ⟨groups, hflat, hgroups, hsegment, hsound, hfilled⟩ := g.segment_filled text
  rw [paragraphs_eq] at hflat
  refine ⟨groups, hflat, hgroups, hsegment, fun n s group hs hgroup => ?_⟩
  cases groups with
  | nil => cases hgroup
  | cons first groups =>
      refine ⟨?_, ?_⟩
      · rw [hsegment] at hs ⊢
        exact hfilled.no_room hs hgroup
      · cases n with
        | zero => exact Nat.zero_le _
        | succ n =>
            obtain ⟨hlt, _⟩ := List.getElem?_eq_some_iff.mp hs
            have hlt' : n < (g.segment text).length := by omega
            have hgood := hsound.get (by rw [hsound.length_eq]; exact hlt') hlt'
            rw [lostAt, List.getD_eq_getElem?_getD, List.getElem?_eq_getElem hlt']
            exact lostBlanks_le hgood.nonempty hgood.trimmed _

/--
Not every segment takes what fits: the overlap in front of the second of three segments begins with a blank,
and without it there is room for one more paragraph.
-/
theorem not_segment_takes_what_fits :
    ¬ ∀ (g : Segmenter) (text : List Char), ∃ groups : List (List (List Char)),
      groups.flatten = tidy (betweenBreaks text) ∧ (∀ group ∈ groups, group ≠ []) ∧
      g.segment text = g.segmentsOf groups ∧
      ∀ n s group, (g.segment text)[n]? = some s → groups[n + 1]? = some group →
        g.maxChars < s.length + 2 + (group.headD []).length := by
  intro h
  obtain ⟨groups, hflat, hgroups, hsegment, hroom⟩ := h ⟨7, 2⟩ "aaa b\n\nc\n\nd".toList
  have hsegments : (⟨7, 2⟩ : Segmenter).segment "aaa b\n\nc\n\nd".toList
      = ["aaa b".toList, "b\n\nc".toList, "c\n\nd".toList] := by cbv
  have hparagraphs : paragraphs "aaa b\n\nc\n\nd".toList = ["aaa b".toList, ['c'], ['d']] := by cbv
  -- three groups for three segments: each of them is one paragraph
  have hlength : groups.length = 3 := by
    rw [← length_segmentsOf, ← hsegment, hsegments]
    rfl
  obtain ⟨a, b, c, rfl⟩ := List.length_eq_three.mp hlength
  rw [← paragraphs_eq, hparagraphs] at hflat
  obtain ⟨p, ps, rfl⟩ := List.exists_cons_of_ne_nil (hgroups a (by simp))
  obtain ⟨q, qs, rfl⟩ := List.exists_cons_of_ne_nil (hgroups b (by simp))
  obtain ⟨r, rs, rfl⟩ := List.exists_cons_of_ne_nil (hgroups c (by simp))
  have hcount : ps.length + qs.length + rs.length = 0 := by
    have hsum := congrArg List.length hflat
    simp only [List.flatten_cons, List.flatten_nil, List.length_append, List.length_cons,
      List.length_nil] at hsum
    omega
  obtain rfl : ps = [] := List.length_eq_zero_iff.mp (by omega)
  obtain rfl : qs = [] := List.length_eq_zero_iff.mp (by omega)
  obtain rfl : r = ['d'] := by
    simp only [List.flatten_cons, List.cons_append, List.nil_append, List.cons.injEq] at hflat
    exact hflat.2.2.1
  have hsecond : 7 < "b\n\nc".toList.length + 2 + 1 :=
    hroom 1 "b\n\nc".toList _ (by rw [hsegments]; rfl) rfl
  exact absurd hsecond (by decide)

end Grounded.Segmenter
