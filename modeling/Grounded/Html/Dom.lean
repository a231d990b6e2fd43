import Grounded.Html.Token
import Grounded.Html.Tree

/-!
# Documents under construction

While a page is read, its nodes are kept in the order of their creation, with links to parents and
children, because nodes are moved about. Node 0 is the document.
-/

namespace Grounded.Html

/-- The vocabulary that an element belongs to. -/
inductive Vocabulary where
  | html
  | mathml
  | svg
deriving DecidableEq, Repr

/-- What a node is. -/
inductive NodeContent where
  | document
  | element (vocabulary : Vocabulary) (name : String)
  | text (content : String)
  | comment
deriving DecidableEq, Repr

/-- A node with its links. -/
structure DomNode where
  content : NodeContent
  parent : Option Nat
  children : Array Nat

/-- The nodes of a document, by creation. -/
structure Dom where
  nodes : Array DomNode

namespace Dom

/-- The document without content. -/
def start : Dom := ⟨#[⟨.document, none, #[]⟩]⟩

/-- The node of that number. -/
def node (d : Dom) (i : Nat) : DomNode := d.nodes.getD i ⟨.comment, none, #[]⟩

/-- A new node outside the tree, and its number. -/
def create (d : Dom) (content : NodeContent) : Nat × Dom :=
  (d.nodes.size, ⟨d.nodes.push ⟨content, none, #[]⟩⟩)

/-- The document with one node changed. -/
def change (d : Dom) (i : Nat) (f : DomNode → DomNode) : Dom := ⟨d.nodes.modify i f⟩

/-- Cuts a node off its parent. -/
def detach (d : Dom) (i : Nat) : Dom :=
  match (d.node i).parent with
  | none => d
  | some p =>
    (d.change p fun n => { n with children := n.children.filter (· != i) }).change i
      fun n => { n with parent := none }

/-- Makes a node the last child of another. -/
def append (d : Dom) (parent child : Nat) : Dom :=
  ((d.detach child).change parent fun n => { n with children := n.children.push child }).change child
    fun n => { n with parent := some parent }

/-- The children with `child` in front of `sibling`. -/
def insertChild (children : Array Nat) (sibling child : Nat) : Array Nat :=
  let before := children.toList.takeWhile (· != sibling)
  let after := children.toList.dropWhile (· != sibling)
  (before ++ child :: after).toArray

/-- Puts a node in front of a sibling, if that has a parent. -/
def insertBefore (d : Dom) (sibling child : Nat) : Dom :=
  match (d.node sibling).parent with
  | none => d
  | some p =>
    ((d.detach child).change p fun n =>
      { n with children := insertChild n.children sibling child }).change child
      fun n => { n with parent := some p }

/-- Adds to the text of a node. -/
def extend (d : Dom) (i : Nat) (s : String) : Dom :=
  d.change i fun n =>
    match n.content with
    | .text content => { n with content := .text (content ++ s) }
    | _ => n

/-- Whether the node is text. -/
def isText (d : Dom) (i : Nat) : Bool :=
  match (d.node i).content with
  | .text _ => true
  | _ => false

/-- Adds text at the end of a node, to the text that is there or as a new node. -/
def appendText (d : Dom) (parent : Nat) (s : String) : Dom :=
  match (d.node parent).children.back? with
  | some last =>
    if d.isText last then d.extend last s
    else
      let (i, d) := d.create (.text s)
      d.append parent i
  | none =>
    let (i, d) := d.create (.text s)
    d.append parent i

/-- The node in front of another with the same parent. -/
def before? (d : Dom) (i : Nat) : Option Nat :=
  (d.node i).parent.bind fun p => ((d.node p).children.toList.takeWhile (· != i)).getLast?

/-- Adds text in front of a sibling, to the text that is there or as a new node. -/
def insertTextBefore (d : Dom) (sibling : Nat) (s : String) : Dom :=
  match (d.before? sibling).filter d.isText with
  | some last => d.extend last s
  | none =>
    let (i, d) := d.create (.text s)
    d.insertBefore sibling i

/-- Moves all children of one node to the end of another. -/
def moveChildren (d : Dom) (source target : Nat) : Dom :=
  (d.node source).children.foldl (fun d child => d.append target child) d

/-- The tree below a node; comments are left out. `fuel` is more than its depth. -/
def tree? (d : Dom) : Nat → Nat → Option Node
  | 0, _ => none
  | fuel + 1, i =>
    let n := d.node i
    match n.content with
    | .text content => some (.text content.toList)
    | .element _ name => some (.element i name (n.children.toList.filterMap (d.tree? fuel)))
    | .document | .comment => none

/-- The trees of several nodes. -/
def trees (d : Dom) (nodes : List Nat) : List Node := nodes.filterMap (d.tree? (d.nodes.size + 1))

/-- The finished page. -/
def page (d : Dom) : Page where
  document := d.trees (d.node 0).children.toList
  detached := d.trees ((List.range d.nodes.size).filter fun i => i != 0 && (d.node i).parent.isNone)

end Dom

end Grounded.Html
