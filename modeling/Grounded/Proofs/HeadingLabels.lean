import Grounded.Proofs.Blanks
import Grounded.Proofs.MarkdownLines
import Grounded.Proofs.NestedContent
import Grounded.Proofs.PageOutline

/-!
# Labels and the headings behind them

The label of a chunk names its source and, if the chunk has a heading, also the part of the source it is from.
The heading is the title of the part, and a title is never blank without being empty: that of a page shows
texts with something in each of them (`Html.Page.text_eq_nil_or`), and that of a document is trimmed. So a
chunk is without a heading exactly if it comes from below a heading that shows nothing, whatever the page or
the document is called. Such headings are there: an empty element, or a line of number signs, takes the place
of the heading before it all the same.
-/

namespace Grounded

open Text

/-! ## Chunks with and without headings -/

namespace Chunk

/-- The chunk tells the part of its source that it is from. -/
structure Named (c : Chunk) : Prop where
  shown : ¬ Blank c.heading.toList
  label : c.label = c.source ++ " > " ++ c.heading

/-- The chunk has no heading, and its label is the source alone. -/
structure Unnamed (c : Chunk) : Prop where
  heading : c.heading = ""
  label : c.label = c.source

theorem named_of_shown {c : Chunk} (h : ¬ Blank c.heading.toList) : c.Named := by
  refine ⟨h, if_neg ?_⟩
  rw [String.isEmpty_iff]
  intro hempty
  rw [hempty] at h
  exact h fun x hx => absurd hx List.not_mem_nil

theorem unnamed_of_empty {c : Chunk} (h : c.heading = "") : c.Unnamed :=
  ⟨h, if_pos (String.isEmpty_iff.mpr h)⟩

end Chunk

/--
The chunks are those of the parts, in order, and a chunk has a heading unless it is from an untitled part.
-/
structure LabelledByPart {Part : Type} (untitled : Part → Prop) (chunksOf : Part → List Chunk)
    (parts : List Part) (chunks : List Chunk) : Prop where
  whole : chunks = parts.flatMap chunksOf
  named : ∀ p ∈ parts, ¬ untitled p → ∀ c ∈ chunksOf p, c.Named
  unnamed : ∀ p ∈ parts, untitled p → ∀ c ∈ chunksOf p, c.Unnamed

/-- It is enough that the chunks of a part have its title, and that only untitled parts have a blank one. -/
theorem labelledByPart_of_titles {Part : Type} {untitled : Part → Prop} {chunksOf : Part → List Chunk}
    {parts : List Part} {chunks : List Chunk} {title : Part → List Char}
    (hwhole : chunks = parts.flatMap chunksOf)
    (hheading : ∀ p ∈ parts, ∀ c ∈ chunksOf p, c.heading = String.ofList (title p))
    (htitled : ∀ p ∈ parts, ¬ untitled p → ¬ Blank (title p))
    (huntitled : ∀ p ∈ parts, untitled p → title p = []) :
    LabelledByPart untitled chunksOf parts chunks := by
  refine ⟨hwhole, fun p hp h c hc => Chunk.named_of_shown ?_, fun p hp h c hc => Chunk.unnamed_of_empty ?_⟩
  · rw [hheading p hp c hc, String.toList_ofList]
    exact htitled p hp h
  · rw [hheading p hp c hc, huntitled p hp h, String.ofList_nil]

/-! ## Titles of pages -/

namespace Html

/-- A text that is read is not blank. -/
theorem Node.not_blank_of_piece? {place : List Nat} {n : Node} {piece : List Char}
    (h : n.piece? place = some piece) : ¬ Blank piece := by
  induction place generalizing n with
  | nil =>
      cases n with
      | element serial name children => cases h
      | text content =>
          rw [piece?] at h
          cases htrim : trim content with
          | nil => rw [htrim] at h; cases h
          | cons c rest =>
              have htrimmed := trimmed_trim content
              rw [htrim] at h htrimmed
              obtain rfl := Option.some.inj h
              intro hblank
              cases htrimmed.eq_nil_of_blank hblank
  | cons i place ih =>
      cases n with
      | text content => cases h
      | element serial name children =>
          rw [piece?] at h
          obtain ⟨child, _, hchild⟩ := Option.bind_eq_some_iff.mp h
          exact ih hchild

theorem Page.not_blank_of_piece? {p : Page} {place : List Nat} {piece : List Char}
    (h : p.piece? place = some piece) : ¬ Blank piece := by
  cases place with
  | nil => cases h
  | cons i place =>
      rw [piece?] at h
      obtain ⟨n, _, hn⟩ := Option.bind_eq_some_iff.mp h
      exact n.not_blank_of_piece? hn

/-- **An element shows nothing at all or something that is not blank.** -/
theorem Page.text_eq_nil_or {p : Page} {e : ContentElement} (h : e ∈ p.elements) :
    e.text = [] ∨ ¬ Blank e.text := by
  rw [← p.map_trace] at h
  obtain ⟨t, ht, rfl⟩ := List.mem_map.mp h
  rw [(p.readFrom_trace ht).text]
  have hpieces : ∀ piece ∈ t.places.filterMap p.piece?, ¬ Blank piece := by
    intro piece hpiece
    obtain ⟨place, _, hplace⟩ := List.mem_filterMap.mp hpiece
    exact Page.not_blank_of_piece? hplace
  cases hcases : t.places.filterMap p.piece? with
  | nil => exact .inl rfl
  | cons piece pieces =>
      right
      intro hblank
      have hfirst : ¬ Blank piece := hpieces piece (hcases ▸ List.mem_cons_self)
      refine hfirst fun c hc => hblank c ?_
      cases pieces with
      | nil => exact hc
      | cons next pieces => exact List.mem_append_left _ (List.mem_append_left _ hc)

/-- The part stands below a heading that shows nothing. -/
def PagePart.Untitled (p : PagePart) : Prop := ∃ h, p.heading = some h ∧ h.text = []

theorem PagePart.title_of_untitled {p : PagePart} (h : p.Untitled) (name : List Char) :
    p.title name = [] := by
  obtain ⟨heading, heq, htext⟩ := h
  rw [title, heq]
  exact htext

theorem PagePart.not_blank_title {page : Page} {parts : List PagePart}
    (houtline : PageOutline page.elements parts) {p : PagePart} (hp : p ∈ parts) (h : ¬ p.Untitled)
    {name : List Char} (hname : ¬ Blank name) : ¬ Blank (p.title name) := by
  rw [title]
  cases hheading : p.heading with
  | none => exact hname
  | some heading =>
      have hmem : heading ∈ page.elements := by
        rw [← houtline.whole]
        exact List.mem_flatMap.mpr ⟨p, hp, by rw [all_of_heading hheading]; exact List.mem_cons_self⟩
      rcases Page.text_eq_nil_or hmem with hnone | hshown
      · exact absurd ⟨heading, hheading, hnone⟩ h
      · exact hshown

theorem Extractor.labelled {page : Page} {parts : List PagePart}
    (houtline : PageOutline page.elements parts) (e : Extractor) {name : String}
    (hname : ¬ Blank name.toList) :
    LabelledByPart PagePart.Untitled (e.partChunks name) parts (e.chunks page name) := by
  refine labelledByPart_of_titles (e.chunks_pageOutline houtline name) ?_
    (fun p hp h => PagePart.not_blank_title houtline hp h hname)
    (fun p _ h => PagePart.title_of_untitled h name.toList)
  intro p _ c hc
  obtain ⟨piece, _, rfl⟩ := List.mem_map.mp hc
  rfl

end Html

/-! ## Titles of documents -/

namespace Markdown

/-- The part begins with a heading line whose title is empty. -/
def Part.Untitled (p : Part) : Prop := ∃ line, p.line = some line ∧ Heading line []

theorem Heading.trimmed {line title : List Char} (h : Heading line title) : Trimmed title := by
  cases h
  exact trimmed_trim _

theorem Heading.unique {line title other : List Char} (h : Heading line title)
    (hother : Heading line other) : title = other :=
  Option.some.inj ((title?_eq_some_iff.mpr h).symm.trans (title?_eq_some_iff.mpr hother))

variable {defaultHeading : List Char} {lines : List (List Char)} {parts : List Part} {p : Part}

/-- The heading of a part is given, or read off its line. -/
theorem Outline.title_cases (h : Outline defaultHeading lines parts) (hp : p ∈ parts) :
    p.line = none ∧ p.title = defaultHeading ∨ p.Headed := by
  obtain ⟨first, rest, rfl, hline, htitle, hrest⟩ := h.first
  rcases List.mem_cons.mp hp with rfl | hp
  · exact .inl ⟨hline, htitle⟩
  · exact .inr (hrest p hp)

theorem Outline.title_of_untitled (h : Outline defaultHeading lines parts) (hp : p ∈ parts)
    (huntitled : p.Untitled) : p.title = [] := by
  obtain ⟨line, hline, hheading⟩ := huntitled
  rcases h.title_cases hp with ⟨hnone, _⟩ | ⟨other, hother, htitle⟩
  · rw [hnone] at hline
    cases hline
  · rw [hother] at hline
    obtain rfl := Option.some.inj hline
    exact htitle.unique hheading

theorem Outline.not_blank_title (h : Outline defaultHeading lines parts) (hp : p ∈ parts)
    (htitled : ¬ p.Untitled) (hdefault : ¬ Blank defaultHeading) : ¬ Blank p.title := by
  rcases h.title_cases hp with ⟨_, htitle⟩ | ⟨line, hline, hheading⟩
  · rw [htitle]
    exact hdefault
  · intro hblank
    rw [hheading.trimmed.eq_nil_of_blank hblank] at hheading
    exact htitled ⟨line, hline, hheading⟩

/-- The chunks of the text of a part, under its title. -/
def Extractor.partChunks (e : Extractor) (source : String) (p : Part) : List Chunk :=
  ((e.segmenter.segment p.text).filter (e.minChars < ·.length)).map fun piece =>
    ⟨String.ofList piece, source, String.ofList p.title, .design⟩

theorem Extractor.labelled {content defaultHeading : String} {parts : List Part}
    (houtline : Outline defaultHeading.toList (splitLines content.toList) parts)
    (hblocks : blocks content.toList = parts.flatMap Part.blocks) (e : Extractor)
    (hdefault : ¬ Blank defaultHeading.toList) (source : String) :
    LabelledByPart Part.Untitled (e.partChunks source) parts (e.chunks content defaultHeading source) := by
  have hwhole : e.chunks content defaultHeading source = parts.flatMap (e.partChunks source) := by
    rw [chunks, sections_outline houtline hblocks, chunkSections, List.flatMap_assoc]
    exact List.flatMap_congr fun p _ => chunks_section? _ _ _ _ p
  refine labelledByPart_of_titles hwhole ?_
    (fun p hp h => houtline.not_blank_title hp h hdefault)
    (fun p hp h => houtline.title_of_untitled hp h)
  intro p _ c hc
  obtain ⟨piece, _, rfl⟩ := List.mem_map.mp hc
  rfl

end Markdown

/-! ## Both formats -/

/--
**A chunk tells the part it is from unless the heading there shows nothing.** Pages and documents are cut at
their headings, and the chunks are those of the parts. If the name of the page and the default heading of the
document are not blank, then the chunks of a part below a heading without any text have no heading, and their
label is the source alone; all others have a heading that is not blank, and it stands in their label.
-/
theorem labelled_by_headings (e : Html.Extractor) (page : Html.Page) {name : String}
    (hname : ¬ Blank name.toList) (m : Markdown.Extractor) (content : String) {defaultHeading : String}
    (hdefault : ¬ Blank defaultHeading.toList) (source : String) :
    (∃ parts, Html.PageOutline page.elements parts ∧
      LabelledByPart Html.PagePart.Untitled (e.partChunks name) parts (e.chunks page name)) ∧
    ∃ parts, Markdown.Outline defaultHeading.toList (splitLines content.toList) parts ∧
      LabelledByPart Markdown.Part.Untitled (m.partChunks source) parts
        (m.chunks content defaultHeading source) := by
  constructor
  · obtain ⟨parts, houtline⟩ := Html.exists_pageOutline page.elements
    exact ⟨parts, houtline, e.labelled houtline hname⟩
  · obtain ⟨parts, houtline, hblocks⟩ := Markdown.exists_outline defaultHeading.toList content.toList
    exact ⟨parts, houtline, m.labelled houtline hblocks hdefault source⟩

/-- A page whose heading has no text. -/
def bareHeadingPage : String :=
  "<h1></h1><p>Action Gravity slows down operations that cannot be undone.</p>"

/-- A document whose heading is a number sign. -/
def bareHeadingDocument : String := "# #\nAction Gravity slows down operations that cannot be undone."

theorem labelled_by_headings_bare :
    ¬ Blank "Page".toList ∧ ¬ Blank "Doc".toList ∧
    (∃ parts, Html.PageOutline (Html.parse bareHeadingPage).elements parts ∧
      LabelledByPart Html.PagePart.Untitled (Html.Extractor.partChunks ⟨⟨1500, 100⟩, 50, 20⟩ "Page") parts
        (Html.Extractor.chunks ⟨⟨1500, 100⟩, 50, 20⟩ (Html.parse bareHeadingPage) "Page")) ∧
    ∃ parts, Markdown.Outline "Doc".toList (splitLines bareHeadingDocument.toList) parts ∧
      LabelledByPart Markdown.Part.Untitled (Markdown.Extractor.partChunks ⟨⟨1500, 100⟩, 50⟩ "doc.md") parts
        (Markdown.Extractor.chunks ⟨⟨1500, 100⟩, 50⟩ bareHeadingDocument "Doc" "doc.md") := by
  have hname : ¬ Blank "Page".toList := by decide
  have hdefault : ¬ Blank "Doc".toList := by decide
  exact ⟨hname, hdefault, labelled_by_headings ⟨⟨1500, 100⟩, 50, 20⟩ (Html.parse bareHeadingPage) hname
    ⟨⟨1500, 100⟩, 50⟩ bareHeadingDocument hdefault "doc.md"⟩

theorem chunks_bareHeadingPage :
    Html.Extractor.chunks ⟨⟨1500, 100⟩, 50, 20⟩ (Html.parse bareHeadingPage) "Page"
      = [⟨"Action Gravity slows down operations that cannot be undone.", "Page", "", .docs⟩] := by
  have helements : (Html.parse bareHeadingPage).elements
      = [⟨4, "h1", []⟩, ⟨5, "p", "Action Gravity slows down operations that cannot be undone.".toList⟩] := by
    have hcontent : Html.contentOf (Html.parse bareHeadingPage).document
          ++ (Html.parse bareHeadingPage).detached.flatMap Html.Node.contentBelow
        = [⟨4, "h1", []⟩, ⟨5, "p", "Action Gravity slows down operations that cannot be undone.".toList⟩] := by
      decide +kernel
    rw [Html.Page.elements, hcontent]
    exact List.mergeSort_of_pairwise (by decide)
  rw [Html.Extractor.chunks, Html.Page.blocks, helements]
  decide +kernel

/-- A name or a default heading that is not blank does not help below a heading that shows nothing. -/
theorem not_shown_of_default :
    (¬ ∀ (e : Html.Extractor) (text name : String), ¬ Blank name.toList →
      ∀ c ∈ e.chunks (Html.parse text) name, ¬ Blank c.heading.toList) ∧
    ¬ ∀ (e : Markdown.Extractor) (content defaultHeading source : String),
      ¬ Blank defaultHeading.toList →
        ∀ c ∈ e.chunks content defaultHeading source, ¬ Blank c.heading.toList := by
  constructor
  · intro h
    have hchunk := h ⟨⟨1500, 100⟩, 50, 20⟩ bareHeadingPage "Page" (by decide)
    rw [chunks_bareHeadingPage, List.forall_mem_singleton] at hchunk
    exact hchunk (by decide)
  · intro h
    have hchunk := h ⟨⟨1500, 100⟩, 50⟩ bareHeadingDocument "Doc" "doc.md" (by decide)
    have hchunks : Markdown.Extractor.chunks ⟨⟨1500, 100⟩, 50⟩ bareHeadingDocument "Doc" "doc.md"
        = [⟨"Action Gravity slows down operations that cannot be undone.", "doc.md", "", .design⟩] := by
      decide +kernel
    rw [hchunks, List.forall_mem_singleton] at hchunk
    exact hchunk (by decide)

end Grounded
