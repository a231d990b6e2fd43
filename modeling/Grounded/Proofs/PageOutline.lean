import Grounded.Html.Extract
import Grounded.Proofs.SectionGroups

/-!
# Pages by their headings

A page is read as a list of content elements, and its headings cut this list into parts: each part has its
heading and the elements below it, and only the first part has none. An element below a heading counts if its
text is long enough, while the heading of a part stands whatever it shows. So the blocks of the parts are a
grouping of the blocks of the page, and the chunks of a page are those of its parts, each under the title of
the part.
-/

namespace Grounded.Html

open Text

/-- A part of a page: its heading, which the first part has not, and the content elements below. -/
structure PagePart where
  heading : Option ContentElement
  below : List ContentElement

namespace PagePart

/-- All content elements of the part. -/
def all (p : PagePart) : List ContentElement := p.heading.toList ++ p.below

/-- What the heading of the part shows; the first part is headed by the name of the page. -/
def title (name : List Char) (p : PagePart) : List Char := (p.heading.map (·.text)).getD name

/-- The texts below the heading that are long enough. -/
def bodies (minFragment : Nat) (p : PagePart) : List (List Char) :=
  (p.below.map (·.text)).filter (minFragment < ·.length)

/-- What is to be found in the part. -/
def group (name : List Char) (minFragment : Nat) (p : PagePart) : BlockGroup :=
  ⟨p.title name, p.bodies minFragment⟩

/-- The part begins with a heading. -/
def Headed (p : PagePart) : Prop := ∃ h, p.heading = some h ∧ sectionNames.contains h.name = true

/-- No element below is a heading. -/
def Plain (p : PagePart) : Prop := ∀ e ∈ p.below, sectionNames.contains e.name = false

theorem all_of_first {p : PagePart} (h : p.heading = none) : p.all = p.below := by
  rw [all, h]
  rfl

theorem all_of_heading {p : PagePart} {h : ContentElement} (heq : p.heading = some h) :
    p.all = h :: p.below := by
  rw [all, heq]
  rfl

end PagePart

/-- The content elements of a page cut at its headings. -/
structure PageOutline (elements : List ContentElement) (parts : List PagePart) : Prop where
  whole : parts.flatMap PagePart.all = elements
  first : ∃ p rest, parts = p :: rest ∧ p.heading = none ∧ ∀ q ∈ rest, q.Headed
  plain : ∀ p ∈ parts, p.Plain

theorem exists_pageOutline (elements : List ContentElement) : ∃ parts, PageOutline elements parts := by
  induction elements with
  | nil =>
      refine ⟨[⟨none, []⟩], rfl, ⟨_, [], rfl, rfl, fun q hq => absurd hq List.not_mem_nil⟩, ?_⟩
      intro p hp
      rw [List.mem_singleton.mp hp]
      exact fun e he => absurd he List.not_mem_nil
  | cons e elements ih =>
      obtain ⟨_, hwhole, ⟨first, rest, rfl, hfirst, hrest⟩, hplain⟩ := ih
      obtain ⟨hbelow, hplain⟩ := List.forall_mem_cons.mp hplain
      rw [List.flatMap_cons, PagePart.all_of_first hfirst] at hwhole
      by_cases he : sectionNames.contains e.name = true
      · -- the elements that had no heading yet come below this one
        refine ⟨⟨none, []⟩ :: ⟨some e, first.below⟩ :: rest, ?_, ?_, ?_⟩
        · rw [← hwhole]
          rfl
        · exact ⟨_, _, rfl, rfl, List.forall_mem_cons.mpr ⟨⟨e, rfl, he⟩, hrest⟩⟩
        · exact List.forall_mem_cons.mpr ⟨fun e he => absurd he List.not_mem_nil,
            List.forall_mem_cons.mpr ⟨hbelow, hplain⟩⟩
      · refine ⟨⟨none, e :: first.below⟩ :: rest, ?_, ⟨_, rest, rfl, rfl, hrest⟩, ?_⟩
        · rw [← hwhole]
          rfl
        · rw [Bool.not_eq_true] at he
          exact List.forall_mem_cons.mpr ⟨List.forall_mem_cons.mpr ⟨he, hbelow⟩, hplain⟩

/-! ## Blocks of the parts -/

/-- The elements below a heading give the blocks of their texts. -/
theorem PagePart.Plain.blocks_below {p : PagePart} (h : p.Plain) (minFragment : Nat) :
    p.below.filterMap (Page.block? minFragment) = (p.bodies minFragment).map .body := by
  obtain ⟨heading, below⟩ := p
  induction below with
  | nil => rfl
  | cons e below ih =>
      obtain ⟨he, hbelow⟩ := List.forall_mem_cons.mp h
      have hrest := ih hbelow
      have hblock : Page.block? minFragment e
          = if minFragment < e.text.length then some (.body e.text) else none := by
        rw [Page.block?, he]
        rfl
      rw [bodies] at hrest ⊢
      rw [List.filterMap_cons, hblock, List.map_cons, List.filter_cons]
      by_cases hlong : minFragment < e.text.length
      · rw [if_pos hlong, if_pos (decide_eq_true hlong), List.map_cons, ← hrest]
      · rw [if_neg hlong, if_neg (by rwa [decide_eq_true_eq]), ← hrest]

theorem PagePart.blocks_all {p : PagePart} (hheaded : p.Headed) (hplain : p.Plain) (name : List Char)
    (minFragment : Nat) :
    p.all.filterMap (Page.block? minFragment) = (p.group name minFragment).blocks := by
  obtain ⟨h, heq, hname⟩ := hheaded
  have hblock : Page.block? minFragment h = some (.heading h.text) := if_pos hname
  rw [all_of_heading heq, List.filterMap_cons, hblock, hplain.blocks_below, BlockGroup.blocks, group,
    title, heq]
  rfl

theorem PageOutline.grouping {elements : List ContentElement} {parts : List PagePart}
    (h : PageOutline elements parts) (name : List Char) (minFragment : Nat) :
    Grouping name (elements.filterMap (Page.block? minFragment))
      (parts.map (PagePart.group name minFragment)) := by
  obtain ⟨rfl, ⟨first, rest, rfl, hfirst, hrest⟩, hplain⟩ := h
  obtain ⟨hbelow, hplain⟩ := List.forall_mem_cons.mp hplain
  refine ⟨first.group name minFragment, rest.map (PagePart.group name minFragment), rfl, ?_, ?_⟩
  · rw [PagePart.group, PagePart.title, hfirst]
    rfl
  · have hblocks : ∀ q ∈ rest, q.all.filterMap (Page.block? minFragment)
        = (q.group name minFragment).blocks :=
      fun q hq => q.blocks_all (hrest q hq) (hplain q hq) name minFragment
    rw [List.flatMap_cons, List.filterMap_append, PagePart.all_of_first hfirst, hbelow.blocks_below,
      List.filterMap_flatMap, List.flatMap_map]
    exact congrArg _ (List.flatMap_congr hblocks)

/-! ## Chunks of the parts -/

/-- The chunks of the text of a part, under its title. -/
def Extractor.partChunks (e : Extractor) (name : String) (p : PagePart) : List Chunk :=
  ((e.segmenter.segment (p.group name.toList e.minFragment).text).filter (e.minChars < ·.length)).map
    fun piece => ⟨String.ofList piece, name, String.ofList (p.title name.toList), .docs⟩

/-- **The chunks of a page are those of its parts,** in order. -/
theorem Extractor.chunks_pageOutline {page : Page} {parts : List PagePart}
    (h : PageOutline page.elements parts) (e : Extractor) (name : String) :
    e.chunks page name = parts.flatMap (e.partChunks name) := by
  have hgroups := grouping_iff.mp (h.grouping name.toList e.minFragment)
  rw [chunks, Page.blocks, sections_eq_groups, ← hgroups, List.filterMap_eq_flatMap_toList, chunkSections,
    List.flatMap_assoc, List.flatMap_map]
  refine List.flatMap_congr fun p _ => ?_
  rw [BlockGroup.section?_eq_pending?]
  exact SectionStream.chunks_pending? e.segmenter e.minChars name .docs _ _

end Grounded.Html
