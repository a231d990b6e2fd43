import Mathlib.Data.List.Basic
import Mathlib.Logic.Function.Iterate
import Grounded.Proofs.SectionFold

/-!
# Sections by groups of blocks

A stream of blocks can be cut at its headings into groups, each with the bodies below its heading; what comes
before the first heading is a group under the default heading. `Grouping` says what such a cut is, and there is
only one (`grouping_iff`). Drawn one after the other, the sections of the stream are those of its groups, and
when there are no more of them every further call gives none.

The stream itself knows no groups. It keeps a heading and the text collected under it, and gives out what
`remaining` says is still to come: a call takes the first of these sections and leaves the others
(`next_eq_head?`, `remaining_next_eq_tail`), so that the call of number `n` finds the section of that number.
-/

namespace Grounded

open Text

/-- A heading and the bodies below it, up to the next heading. -/
structure BlockGroup where
  heading : List Char
  bodies : List (List Char)
deriving DecidableEq, Repr

namespace BlockGroup

/-- The bodies, as blocks. -/
def below (g : BlockGroup) : List Block := g.bodies.map .body

/-- The group as it stands in a stream. -/
def blocks (g : BlockGroup) : List Block := .heading g.heading :: g.below

/-- The text of the bodies, with a blank line behind each. -/
def text (g : BlockGroup) : List Char := g.bodies.flatMap (· ++ blankLine)

/-- The section of the group, if trimming leaves any text. -/
def section? (g : BlockGroup) : Option Section :=
  if trim g.text = [] then none else some ⟨g.heading, trim g.text⟩

theorem section?_eq_pending? (g : BlockGroup) :
    g.section? = SectionStream.pending? g.heading g.text := by
  rw [section?, SectionStream.pending?]
  cases trim g.text with
  | nil => rfl
  | cons c text => exact if_neg (List.cons_ne_nil c text)

end BlockGroup

/-- The blocks are those of the groups. Only the first group has no heading among them: its heading is given. -/
def Grouping (defaultHeading : List Char) (blocks : List Block) (groups : List BlockGroup) : Prop :=
  ∃ first rest, groups = first :: rest ∧ first.heading = defaultHeading ∧
    blocks = first.below ++ rest.flatMap BlockGroup.blocks

/-- The groups of blocks that come behind a heading and bodies that stand below it. -/
def blockGroupsBehind (heading : List Char) (bodies : List (List Char)) : List Block → List BlockGroup
  | [] => [⟨heading, bodies⟩]
  | .heading next :: blocks => ⟨heading, bodies⟩ :: blockGroupsBehind next [] blocks
  | .body text :: blocks => blockGroupsBehind heading (bodies ++ [text]) blocks

/-- The groups of a stream of blocks. -/
def blockGroups (defaultHeading : List Char) (blocks : List Block) : List BlockGroup :=
  blockGroupsBehind defaultHeading [] blocks

/-! ## There is one way to cut -/

theorem grouping_groupsBehind (heading : List Char) (bodies : List (List Char)) (blocks : List Block) :
    Grouping heading (bodies.map .body ++ blocks) (blockGroupsBehind heading bodies blocks) := by
  induction blocks generalizing heading bodies with
  | nil => exact ⟨⟨heading, bodies⟩, [], rfl, rfl, rfl⟩
  | cons block blocks ih =>
      cases block with
      | heading next =>
          obtain ⟨first, rest, hgroups, hheading, hblocks⟩ := ih next []
          refine ⟨⟨heading, bodies⟩, first :: rest, ?_, rfl, ?_⟩
          · rw [blockGroupsBehind, hgroups]
          · rw [List.flatMap_cons, BlockGroup.blocks, hheading, List.cons_append, ← hblocks]
            rfl
      | body text =>
          have hmore := ih heading (bodies ++ [text])
          rw [List.map_append, List.append_assoc] at hmore
          exact hmore

/-- Bodies go to the group that they stand in. -/
theorem groupsBehind_below (heading : List Char) (bodies more : List (List Char)) (blocks : List Block) :
    blockGroupsBehind heading bodies (more.map .body ++ blocks)
      = blockGroupsBehind heading (bodies ++ more) blocks := by
  induction more generalizing bodies with
  | nil => rw [List.append_nil]; rfl
  | cons text more ih =>
      rw [List.map_cons, List.cons_append, blockGroupsBehind, ih, List.append_assoc]
      rfl

theorem groups_of_grouping (first : BlockGroup) (rest : List BlockGroup) :
    blockGroups first.heading (first.below ++ rest.flatMap BlockGroup.blocks) = first :: rest := by
  induction rest generalizing first with
  | nil =>
      rw [blockGroups, BlockGroup.below, groupsBehind_below]
      rfl
  | cons next rest ih =>
      have hnext := ih next
      rw [blockGroups, BlockGroup.below, groupsBehind_below]
      exact congrArg (first :: ·) hnext

/-- **The blocks of a stream fall into groups in one way.** -/
theorem grouping_iff {defaultHeading : List Char} {blocks : List Block} {gs : List BlockGroup} :
    Grouping defaultHeading blocks gs ↔ gs = blockGroups defaultHeading blocks := by
  constructor
  · rintro ⟨first, rest, rfl, rfl, rfl⟩
    exact (groups_of_grouping first rest).symm
  · rintro rfl
    exact grouping_groupsBehind defaultHeading [] blocks

/-! ## The sections of the groups -/

/-- The text collected under a heading is that of the bodies so far. -/
theorem SectionStream.collect_groupsBehind (heading : List Char) (bodies : List (List Char))
    (blocks : List Block) : collect heading (bodies.flatMap (· ++ blankLine)) blocks
      = (blockGroupsBehind heading bodies blocks).flatMap (·.section?.toList) := by
  have hpending : ∀ heading bodies, pending? heading (bodies.flatMap (· ++ blankLine))
      = BlockGroup.section? ⟨heading, bodies⟩ :=
    fun heading bodies => (BlockGroup.section?_eq_pending? ⟨heading, bodies⟩).symm
  induction blocks generalizing heading bodies with
  | nil => rw [collect, hpending, blockGroupsBehind, List.flatMap_singleton]
  | cons block blocks ih =>
      cases block with
      | heading next =>
          have hnext := ih next []
          rw [List.flatMap_nil] at hnext
          rw [collect, hpending, hnext, blockGroupsBehind, List.flatMap_cons]
      | body text =>
          have hmore := ih heading (bodies ++ [text])
          rw [List.flatMap_append, List.flatMap_singleton] at hmore
          rw [collect, blockGroupsBehind, ← hmore, List.append_assoc]

/-- **The sections of a stream are those of its groups.** -/
theorem sections_eq_groups (defaultHeading : List Char) (blocks : List Block) :
    sections defaultHeading blocks = (blockGroups defaultHeading blocks).filterMap BlockGroup.section? := by
  rw [sections_eq, List.filterMap_eq_flatMap_toList]
  exact SectionStream.collect_groupsBehind defaultHeading [] blocks

/-! ## Calls one by one -/

namespace SectionStream

/-- What a call gives that comes behind `n` others. -/
def call (s : SectionStream) (n : Nat) : Option Section := ((fun s => s.next.2)^[n] s).next.1

/-- A call gives the first of the sections that remain, and leaves the others. -/
theorem next_eq_head? (s : SectionStream) :
    s.next.1 = s.remaining.head? ∧ s.next.2.remaining = s.remaining.tail := by
  rw [s.remaining_next]
  cases h : s.next.1 with
  | none =>
      rw [remaining_next_of_none h]
      exact ⟨rfl, rfl⟩
  | some x => exact ⟨rfl, rfl⟩

theorem remaining_iterate (s : SectionStream) (n : Nat) :
    ((fun s => s.next.2)^[n] s).remaining = s.remaining.drop n := by
  induction n generalizing s with
  | zero => rfl
  | succ n ih => rw [Function.iterate_succ_apply, ih, s.next_eq_head?.2, List.drop_tail]

theorem call_eq_getElem? (s : SectionStream) (n : Nat) : s.call n = s.remaining[n]? := by
  rw [call, (next_eq_head? _).1, remaining_iterate, List.head?_drop]

/--
**Call by call the stream gives the sections of its groups.** The blocks can be cut at the headings in one way.
The sections are those of the groups whose text is not blank, in order, and each call gives the next of them:
the call of number `n` the section of that number, and none if there are not so many.
-/
theorem call_by_group (defaultHeading : List Char) (blocks : List Block) :
    (∀ gs, Grouping defaultHeading blocks gs ↔ gs = blockGroups defaultHeading blocks) ∧
      sections defaultHeading blocks = (blockGroups defaultHeading blocks).filterMap BlockGroup.section? ∧
      ∀ n, (ofBlocks defaultHeading blocks).call n
        = ((blockGroups defaultHeading blocks).filterMap BlockGroup.section?)[n]? := by
  have hsections := sections_eq_groups defaultHeading blocks
  refine ⟨fun gs => grouping_iff, hsections, fun n => ?_⟩
  rw [call_eq_getElem?, ← hsections, sections, drain_eq]

-- headings that are alike stay apart, and one without text below it is passed over
example : sections ['P'] [.heading ['A'], .body ['x'], .heading ['B'], .body [' '], .heading ['A'], .body ['y']]
    = [⟨['A'], ['x']⟩, ⟨['A'], ['y']⟩] := by cbv

end SectionStream

end Grounded
