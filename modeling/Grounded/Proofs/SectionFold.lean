import Grounded.Proofs.SegmentParagraphs
import Grounded.Chunk.Section

/-!
# The sections of a stream at once

Sections are drawn one at a time from a stream that keeps a heading and the text collected under it.
Read at once, they are those of a fold over the blocks: every heading, and the end, closes a section.
A section gives the chunks of the text that was collected for it.
-/

namespace Grounded

open Text

namespace SectionStream

/-- The sections of blocks that come behind a heading and text collected under it. -/
def collect (heading body : List Char) : List Block → List Section
  | [] => (pending? heading body).toList
  | .heading next :: blocks => (pending? heading body).toList ++ collect next [] blocks
  | .body text :: blocks => collect heading (body ++ text ++ blankLine) blocks

/-- The sections still to be drawn. -/
def remaining (s : SectionStream) : List Section :=
  if s.done then [] else collect s.heading s.body s.blocks

/-- Reading up to the next section takes that one off and leaves the others. -/
theorem collect_advance (heading body : List Char) (blocks : List Block) :
    collect heading body blocks
      = (advance heading body blocks).1.toList ++ (advance heading body blocks).2.remaining := by
  fun_induction advance heading body blocks with
  | case1 heading body => exact (List.append_nil _).symm
  | case2 heading body next blocks s hs => rw [collect, hs]; rfl
  | case3 heading body next blocks hs ih => rw [collect, hs, ih]; rfl
  | case4 heading body text blocks ih => exact ih

/-- A stream that gives no section has none left. -/
theorem remaining_of_none {heading body : List Char} {blocks : List Block}
    (h : (advance heading body blocks).1 = none) :
    (advance heading body blocks).2.remaining = [] := by
  fun_induction advance heading body blocks with
  | case1 heading body => rfl
  | case2 heading body next blocks s hs => cases h
  | case3 heading body next blocks hs ih => exact ih h
  | case4 heading body text blocks ih => exact ih h

theorem remaining_next (s : SectionStream) :
    s.remaining = s.next.1.toList ++ s.next.2.remaining := by
  rw [next]
  by_cases hdone : s.done = true
  · rw [if_pos hdone]
    rfl
  · rw [if_neg hdone, ← collect_advance, remaining, if_neg hdone]

/-- A call that gives nothing leaves nothing. -/
theorem remaining_next_of_none {s : SectionStream} (h : s.next.1 = none) : s.next.2.remaining = [] := by
  rw [next] at h ⊢
  by_cases hdone : s.done = true
  · rw [if_pos hdone, remaining, if_pos hdone]
  · rw [if_neg hdone] at h ⊢
    exact remaining_of_none h

/-- **Drawing until the end gives all sections that remain.** -/
theorem drain_eq (s : SectionStream) : s.drain.1 = s.remaining := by
  fun_induction drain s with
  | case1 s final hnext =>
      have hnone := remaining_next_of_none (congrArg Prod.fst hnext)
      rw [hnext] at hnone
      rw [remaining_next, hnext, hnone]
      rfl
  | case2 s x after hnext xs final hdrain ih =>
      rw [remaining_next, hnext, ← ih, hdrain]
      rfl

/-- Text collected under a heading gives the chunks of its segments: if it is blank it has none. -/
theorem chunks_pending? (g : Segmenter) (minChars : Nat) (source : String) (kind : ChunkKind)
    (heading text : List Char) : (pending? heading text).toList.flatMap (·.chunks g minChars source kind)
      = ((g.segment text).filter (minChars < ·.length)).map fun piece =>
          ⟨String.ofList piece, source, String.ofList heading, kind⟩ := by
  rw [← g.segment_trim text, pending?]
  cases trim text with
  | nil => rw [g.segment_nil]; rfl
  | cons c text => exact List.append_nil _

end SectionStream

theorem sections_eq (defaultHeading : List Char) (blocks : List Block) :
    sections defaultHeading blocks = SectionStream.collect defaultHeading [] blocks :=
  SectionStream.drain_eq (SectionStream.ofBlocks defaultHeading blocks)

end Grounded
