import Grounded.Proofs.SegmentParagraphs

/-!
# Texts that grow

When something is added to a text behind a blank line, the segments that were closed stay as they were. The two
runs of the segmenter go side by side: the paragraphs of the longer text begin with those of the shorter one, in
whatever blanks the two parts end and begin, so that the same segment is open in both until the shorter text is
read. There it is closed, and in the longer text it may still take more (`pack_starts`). `Grown` is the relation
of the segments before and after.
-/

namespace Grounded.Segmenter

open Text

/-- All segments but the last one are kept, and the last one is the start of what stands in its place. -/
def Grown (before after : List (List Char)) : Prop :=
  ∃ closed last more later, before = closed ++ [last] ∧ after = closed ++ (last ++ more) :: later

theorem Grown.cons {before after : List (List Char)} (h : Grown before after) (s : List Char) :
    Grown (s :: before) (s :: after) := by
  obtain ⟨closed, last, more, later, rfl, rfl⟩ := h
  exact ⟨s :: closed, last, more, later, rfl, rfl⟩

theorem Grown.dropLast_isPrefix {before after : List (List Char)} (h : Grown before after) :
    before.dropLast <+: after := by
  obtain ⟨closed, last, more, later, rfl, rfl⟩ := h
  rw [List.dropLast_concat]
  exact List.prefix_append _ _

theorem Grown.last_isPrefix {before after : List (List Char)} (h : Grown before after) {last : List Char}
    (hlast : before.getLast? = some last) :
    ∃ grown, after[before.length - 1]? = some grown ∧ last <+: grown := by
  obtain ⟨closed, found, more, later, rfl, rfl⟩ := h
  rw [List.getLast?_concat, Option.some.injEq] at hlast
  refine ⟨found ++ more, ?_, hlast ▸ List.prefix_append _ _⟩
  rw [List.length_append, List.length_singleton, Nat.add_sub_cancel,
    List.getElem?_append_right (Nat.le_refl _), Nat.sub_self]
  rfl

/-- What is open is the start of a segment, whatever paragraphs are still to come. -/
theorem pack_starts (g : Segmenter) {ps : List (List Char)} (hps : ∀ p ∈ ps, p ≠ [] ∧ Trimmed p)
    {current lead : List Char} {group : List (List Char)} (h : g.Opened current lead group) :
    ∃ more later, g.pack current ps = (trim current ++ more) :: later := by
  obtain ⟨added, groups, _, _, hpack, _⟩ := g.pack_eq hps h
  rw [hpack, h.trim_eq]
  cases added with
  | nil =>
      refine ⟨[], g.segmentsAfter (lead ++ joined group) groups, ?_⟩
      rw [List.append_nil, List.append_nil]
  | cons p added =>
      rw [joined_append h.nonempty (List.cons_ne_nil p added), ← List.append_assoc lead]
      exact ⟨_, _, rfl⟩

/-- **With more paragraphs to come, the same segments are closed,** and the last one is at least as far. -/
theorem grown_pack (g : Segmenter) {ps qs : List (List Char)} (hps : ∀ p ∈ ps, p ≠ [] ∧ Trimmed p)
    (hqs : ∀ q ∈ qs, q ≠ [] ∧ Trimmed q) {current lead : List Char} {group : List (List Char)}
    (h : g.Opened current lead group) : Grown (g.pack current ps) (g.pack current (ps ++ qs)) := by
  induction ps generalizing current lead group with
  | nil =>
      obtain ⟨more, later, hpack⟩ := g.pack_starts hqs h
      exact ⟨[], trim current, more, later, by rw [pack, List.nil_append], hpack⟩
  | cons p ps ih =>
      obtain ⟨⟨hne, hp⟩, hrest⟩ := List.forall_mem_cons.mp hps
      by_cases hlong : g.maxChars < current.length + p.length + 2
      · rw [List.cons_append, pack, pack, if_pos hlong, if_pos hlong]
        exact (ih hrest (g.opened_seed h.sound.nonempty h.sound.trimmed hne hp)).cons _
      · rw [List.cons_append, pack, pack, if_neg hlong, if_neg hlong]
        exact ih hrest (h.append hne hp hlong)

theorem segment_eq_pack (g : Segmenter) {text p : List Char} {ps : List (List Char)}
    (h : paragraphs text = p :: ps) : g.segment text = g.pack p ps := by
  rw [segment, h]

/--
**What is added to a text leaves its segments in place.** For a text and another one behind it, with a blank line
between and any blanks at their ends: all segments of the first text but the last are the first segments of the
whole, and its last segment is the start of the one in the same place.
-/
theorem segment_grown (g : Segmenter) (a b : List Char) :
    (g.segment a).dropLast <+: g.segment (a ++ (blankLine ++ b)) ∧
      ∀ last, (g.segment a).getLast? = some last →
        ∃ grown, (g.segment (a ++ (blankLine ++ b)))[(g.segment a).length - 1]? = some grown ∧
          last <+: grown := by
  have hparagraphs := paragraphs_append_blankLine a b
  have hqs : ∀ q ∈ paragraphs b, q ≠ [] ∧ Trimmed q := fun q hq => of_mem_paragraphs hq
  cases hps : paragraphs a with
  | nil =>
      have hnone : g.segment a = [] := by rw [segment, hps]
      rw [hnone]
      exact ⟨List.nil_prefix, fun last hlast => by cases hlast⟩
  | cons p ps =>
      have hall : ∀ q ∈ p :: ps, q ≠ [] ∧ Trimmed q := hps ▸ fun q hq => of_mem_paragraphs hq
      obtain ⟨⟨hne, hp⟩, hrest⟩ := List.forall_mem_cons.mp hall
      rw [hps, List.cons_append] at hparagraphs
      rw [g.segment_eq_pack hps, g.segment_eq_pack hparagraphs]
      have hgrown := g.grown_pack hrest hqs (g.opened_first hne hp)
      exact ⟨hgrown.dropLast_isPrefix, fun last hlast => hgrown.last_isPrefix hlast⟩

/-- A text that ends in blanks grows by one that begins with blanks, and its last segment takes a paragraph. -/
theorem segment_grown_blanks :
    ((⟨8, 2⟩ : Segmenter).segment "aaaa\n\nbbb\n\nc \n".toList).getLast? = some "bb\n\nc".toList ∧
      ∃ grown, ((⟨8, 2⟩ : Segmenter).segment
          ("aaaa\n\nbbb\n\nc \n".toList ++ (blankLine ++ "\t\nd\n\nee".toList)))[2]? = some grown ∧
        "bb\n\nc".toList <+: grown := by
  have hsegments : (⟨8, 2⟩ : Segmenter).segment "aaaa\n\nbbb\n\nc \n".toList
      = ["aaaa".toList, "aa\n\nbbb".toList, "bb\n\nc".toList] := by cbv
  have hlast : ((⟨8, 2⟩ : Segmenter).segment "aaaa\n\nbbb\n\nc \n".toList).getLast?
      = some "bb\n\nc".toList := by
    rw [hsegments]
    rfl
  have hgrown := (segment_grown ⟨8, 2⟩ "aaaa\n\nbbb\n\nc \n".toList "\t\nd\n\nee".toList).2 _ hlast
  rw [hsegments] at hgrown
  exact ⟨hlast, hgrown⟩

end Grounded.Segmenter
