import Grounded.Html.Extract
import Mathlib.Order.Monotone.Basic

/-!
# Texts without influence

Navigation, scripts and the like are to contribute no text. An element inside of them does not count,
but the text of an element that counts is all the text below it, whatever it is inside of. So what
matters is which element comes first on the way down from the root. A text below an excluded element
that is met before any content element is never read, and pages that differ in such texts only have the
same chunks. The title of an icon in a paragraph is read with the paragraph.
-/

namespace Grounded.Html

/-! ## Pages without some of their texts -/

mutual

/-- What is left of a node without its texts. -/
def Node.textless : Node → List Node
  | .text _ => []
  | .element serial name children => [.element serial name (textlessOf children)]

/-- What is left of several nodes without their texts. -/
def textlessOf : List Node → List Node
  | [] => []
  | n :: rest => n.textless ++ textlessOf rest

end

mutual

/-- The node without the texts below excluded elements, other than those inside a `spared` element. -/
def Node.stripped (spared : List String) : Node → Node
  | .text content => .text content
  | .element serial name children =>
    .element serial name
      (if spared.contains name then children
       else if excludedNames.contains name then textlessOf children
       else strippedOf spared children)

/-- The nodes without the texts below excluded elements, other than those inside a `spared` element. -/
def strippedOf (spared : List String) : List Node → List Node
  | [] => []
  | n :: rest => n.stripped spared :: strippedOf spared rest

end

/-- The same for a tree that was cut off: its root is no content element, so it spares nothing. -/
def Node.strippedBelow (spared : List String) : Node → Node
  | .text content => .text content
  | .element serial name children =>
    .element serial name
      (if excludedNames.contains name then textlessOf children else strippedOf spared children)

/-- The page without the texts below excluded elements, other than those inside a `spared` element. -/
def Page.stripped (spared : List String) (p : Page) : Page where
  document := strippedOf spared p.document
  detached := p.detached.map (Node.strippedBelow spared)

/-! ## Pages with other numbers -/

mutual

/-- The node with its elements numbered anew. -/
def Node.renumbered (f : Nat → Nat) : Node → Node
  | .text content => .text content
  | .element serial name children => .element (f serial) name (renumberedOf f children)

/-- The nodes with their elements numbered anew. -/
def renumberedOf (f : Nat → Nat) : List Node → List Node
  | [] => []
  | n :: rest => n.renumbered f :: renumberedOf f rest

end

/-- The page with its elements numbered anew. -/
def Page.renumbered (f : Nat → Nat) (p : Page) : Page where
  document := renumberedOf f p.document
  detached := renumberedOf f p.detached

/--
The pages differ at most in the numbers of their elements, and not in the order of these. Texts take
up numbers too, so a text more or less shifts those of all elements after it.
-/
def Page.Alike (p q : Page) : Prop :=
  ∃ f g : Nat → Nat, StrictMono f ∧ StrictMono g ∧ p.renumbered f = q.renumbered g

/-- The element under another number. -/
def ContentElement.renumbered (f : Nat → Nat) (e : ContentElement) : ContentElement :=
  { e with serial := f e.serial }

/-! ## Content elements without the stripped texts -/

mutual

theorem Node.content_stripped : ∀ n : Node, (n.stripped contentNames).content = n.content
  | .text _ => rfl
  | .element serial name children => by
    unfold Node.stripped Node.content
    -- a content element keeps all of its text; nothing below an excluded one counts
    by_cases hc : contentNames.contains name = true
    · simp only [if_pos hc]
    · by_cases hx : excludedNames.contains name = true
      · simp only [if_neg hc, if_pos hx]
      · simp only [if_neg hc, if_neg hx, contentOf_stripped children]

theorem contentOf_stripped : ∀ l : List Node, contentOf (strippedOf contentNames l) = contentOf l
  | [] => rfl
  | n :: rest => by
    rw [strippedOf, contentOf, contentOf, n.content_stripped, contentOf_stripped rest]

end

theorem Node.contentBelow_strippedBelow (n : Node) :
    (n.strippedBelow contentNames).contentBelow = n.contentBelow := by
  cases n with
  | text _ => rfl
  | element serial name children =>
    unfold Node.strippedBelow Node.contentBelow
    by_cases hx : excludedNames.contains name = true
    · simp only [if_pos hx]
    · simp only [if_neg hx, contentOf_stripped children]

/-- **What is stripped does not count,** as no content element that counts has it below it. -/
theorem Page.elements_stripped (p : Page) : (p.stripped contentNames).elements = p.elements := by
  simp only [Page.elements, Page.stripped, contentOf_stripped, List.flatMap_map,
    Node.contentBelow_strippedBelow]

/-! ## Content elements under other numbers -/

mutual

theorem Node.pieces_renumbered (f : Nat → Nat) : ∀ n : Node, (n.renumbered f).pieces = n.pieces
  | .text _ => rfl
  | .element _ _ children => by
    rw [Node.renumbered, Node.pieces, Node.pieces, piecesOf_renumbered f children]

theorem piecesOf_renumbered (f : Nat → Nat) : ∀ l : List Node, piecesOf (renumberedOf f l) = piecesOf l
  | [] => rfl
  | n :: rest => by
    rw [renumberedOf, piecesOf, piecesOf, n.pieces_renumbered f, piecesOf_renumbered f rest]

end

mutual

theorem Node.content_renumbered (f : Nat → Nat) :
    ∀ n : Node, (n.renumbered f).content = n.content.map (ContentElement.renumbered f)
  | .text _ => rfl
  | .element serial name children => by
    simp only [Node.renumbered, Node.content, piecesOf_renumbered, contentOf_renumbered f children,
      List.map_append]
    split <;> split <;> rfl

theorem contentOf_renumbered (f : Nat → Nat) :
    ∀ l : List Node, contentOf (renumberedOf f l) = (contentOf l).map (ContentElement.renumbered f)
  | [] => rfl
  | n :: rest => by
    rw [renumberedOf, contentOf, contentOf, n.content_renumbered f, contentOf_renumbered f rest,
      List.map_append]

end

theorem Node.contentBelow_renumbered (f : Nat → Nat) (n : Node) :
    (n.renumbered f).contentBelow = n.contentBelow.map (ContentElement.renumbered f) := by
  cases n with
  | text _ => rfl
  | element serial name children =>
    simp only [Node.renumbered, Node.contentBelow, contentOf_renumbered]
    split <;> rfl

theorem flatMap_contentBelow_renumbered (f : Nat → Nat) (l : List Node) :
    (renumberedOf f l).flatMap Node.contentBelow
      = (l.flatMap Node.contentBelow).map (ContentElement.renumbered f) := by
  induction l with
  | nil => rfl
  | cons n rest ih =>
    rw [renumberedOf, List.flatMap_cons, List.flatMap_cons, n.contentBelow_renumbered f, ih,
      List.map_append]

namespace Page

/-- Numbers that keep their order keep the order of the content elements. -/
theorem elements_renumbered {f : Nat → Nat} (hf : StrictMono f) (p : Page) :
    (p.renumbered f).elements = p.elements.map (ContentElement.renumbered f) := by
  unfold Page.elements Page.renumbered
  rw [contentOf_renumbered, flatMap_contentBelow_renumbered, ← List.map_append]
  refine (List.map_mergeSort fun a _ b _ => ?_).symm
  simp only [ContentElement.renumbered, hf.le_iff_le]

/-- Blocks carry no numbers. -/
theorem blocks_renumbered {f : Nat → Nat} (hf : StrictMono f) (minFragment : Nat) (p : Page) :
    (p.renumbered f).blocks minFragment = p.blocks minFragment := by
  unfold Page.blocks
  rw [elements_renumbered hf, List.filterMap_map]
  rfl

theorem Alike.blocks_eq {p q : Page} (h : p.Alike q) (minFragment : Nat) :
    p.blocks minFragment = q.blocks minFragment := by
  obtain ⟨f, g, hf, hg, hfg⟩ := h
  rw [← blocks_renumbered hf, hfg, blocks_renumbered hg]

end Page

/-! ## The chunks of a page -/

namespace Extractor

/--
**Text below an excluded element has no influence, unless a content element lies above that.** Two
pages that are alike once such texts are taken out have the same chunks under the same sections.
-/
theorem chunks_of_stripped_alike (e : Extractor) (name : String) {p q : Page}
    (h : (p.stripped contentNames).Alike (q.stripped contentNames)) :
    e.chunks p name = e.chunks q name := by
  have helements : ∀ p : Page, (p.stripped contentNames).blocks e.minFragment = p.blocks e.minFragment := by
    intro p
    unfold Page.blocks
    rw [p.elements_stripped]
  have hblocks : p.blocks e.minFragment = q.blocks e.minFragment := by
    rw [← helements p, h.blocks_eq, helements q]
  unfold Extractor.chunks
  rw [hblocks]

/-- A page with nothing in its head. -/
def bodyPage (body : List Node) : Page :=
  ⟨[.element 1 "html" [.element 2 "head" [], .element 3 "body" body]], []⟩

/-- Pages of this kind are cut at 1500 characters, with short pieces and fragments dropped. -/
def sampleExtractor : Extractor := ⟨⟨1500, 100⟩, 50, 20⟩

/-- A sentence that is long enough for a chunk. -/
def sentence : List Char := "Action Gravity slows down operations that cannot be undone.".toList

/-- A page whose only paragraph holds an icon. -/
def iconPage (title : List Node) : Page :=
  bodyPage [.element 4 "p" [.text sentence, .element 6 "svg" [.element 7 "title" title]]]

/-- An empty menu instead of a filled one shifts the numbers and changes no chunk. -/
theorem chunks_of_empty_menu :
    let p := bodyPage [.element 4 "nav" [.text "All of the menu".toList], .element 6 "p" [.text sentence]]
    let q := bodyPage [.element 4 "nav" [], .element 5 "p" [.text sentence]]
    (p.stripped contentNames).Alike (q.stripped contentNames) ∧
      sampleExtractor.chunks p "Page" = sampleExtractor.chunks q "Page" := by
  intro p q
  have hg : StrictMono fun n : Nat => if n < 5 then n else n + 1 := by
    intro a b hab
    dsimp only
    split <;> split <;> omega
  have h : (p.stripped contentNames).Alike (q.stripped contentNames) :=
    ⟨id, fun n => if n < 5 then n else n + 1, strictMono_id, hg, rfl⟩
  exact ⟨h, chunks_of_stripped_alike sampleExtractor "Page" h⟩

/-- With nothing spared this fails: the title of an icon is read with the paragraph that holds the icon. -/
theorem not_chunks_of_stripped_alike :
    ¬ ∀ (e : Extractor) (name : String) (p q : Page), (p.stripped []).Alike (q.stripped []) →
      e.chunks p name = e.chunks q name := by
  intro h
  have hstripped : ((iconPage [.text "Icon title".toList]).stripped []).Alike
      ((iconPage []).stripped []) :=
    ⟨id, id, strictMono_id, strictMono_id, rfl⟩
  have hchunks : sampleExtractor.chunks (iconPage [.text "Icon title".toList]) "Page"
      ≠ sampleExtractor.chunks (iconPage []) "Page" := by decide +kernel
  exact hchunks (h sampleExtractor "Page" _ _ hstripped)

end Extractor

end Grounded.Html
