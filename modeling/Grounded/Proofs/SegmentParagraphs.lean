import Grounded.Proofs.ParagraphJoins
import Grounded.Proofs.Segments

/-!
# Paragraphs within segments

A segmenter sees nothing of a text but its paragraphs, and it never cuts one: every paragraph stands whole
in one of the segments.
-/

namespace Grounded.Segmenter

open Text

/-! ## Texts that differ in their blanks -/

theorem segment_congr (g : Segmenter) {s t : List Char} (h : paragraphs s = paragraphs t) :
    g.segment s = g.segment t := by
  rw [segment, segment, h]

theorem segment_trim (g : Segmenter) (s : List Char) : g.segment (trim s) = g.segment s :=
  g.segment_congr (paragraphs_trim s)

theorem segment_nil (g : Segmenter) : g.segment [] = [] := by rw [segment, paragraphs_nil]

/-! ## Whole paragraphs -/

theorem infix_joined {group : List (List Char)} {p : List Char} (h : p ∈ group) : p <:+: joined group := by
  induction group with
  | nil => cases h
  | cons q group ih =>
      cases group with
      | nil =>
          have hjoined : p = joined [q] := by rw [List.mem_singleton.mp h, joined_singleton]
          exact hjoined ▸ List.infix_rfl
      | cons r group =>
          rw [joined_cons q (List.cons_ne_nil r group)]
          rcases List.mem_cons.mp h with rfl | h
          · exact (List.prefix_append _ _).isInfix
          · exact (ih h).trans ((List.suffix_append _ _).trans (List.suffix_append _ _)).isInfix

theorem exists_segmentAfter (g : Segmenter) {groups : List (List (List Char))}
    {group : List (List Char)} (h : group ∈ groups) (closed : List Char) :
    ∃ s ∈ g.segmentsAfter closed groups, joined group <:+ s := by
  induction groups generalizing closed with
  | nil => cases h
  | cons first groups ih =>
      rw [segmentsAfter]
      rcases List.mem_cons.mp h with rfl | h
      · exact ⟨_, List.mem_cons_self, List.suffix_append _ _⟩
      · obtain ⟨s, hs, hsuffix⟩ := ih h (g.lead closed (first.headD []) ++ joined first)
        exact ⟨s, List.mem_cons_of_mem _ hs, hsuffix⟩

/-- The segment of a group ends with the group. -/
theorem exists_segmentOf (g : Segmenter) {groups : List (List (List Char))}
    {group : List (List Char)} (h : group ∈ groups) :
    ∃ s ∈ g.segmentsOf groups, joined group <:+ s := by
  cases groups with
  | nil => cases h
  | cons first groups =>
      rw [segmentsOf]
      rcases List.mem_cons.mp h with rfl | h
      · exact ⟨_, List.mem_cons_self, List.suffix_rfl⟩
      · obtain ⟨s, hs, hsuffix⟩ := g.exists_segmentAfter h (joined first)
        exact ⟨s, List.mem_cons_of_mem _ hs, hsuffix⟩

/-- **No paragraph is cut:** it stands whole in one of the segments. -/
theorem exists_segment_of_paragraph (g : Segmenter) {text p : List Char} (h : p ∈ paragraphs text) :
    ∃ s ∈ g.segment text, p <:+: s := by
  obtain ⟨groups, hflat, _, hsegment, _⟩ := g.segment_eq text
  rw [← hflat] at h
  obtain ⟨group, hgroup, hp⟩ := List.mem_flatten.mp h
  obtain ⟨s, hs, hsuffix⟩ := g.exists_segmentOf hgroup
  rw [hsegment]
  exact ⟨s, hs, (infix_joined hp).trans hsuffix.isInfix⟩

end Grounded.Segmenter
