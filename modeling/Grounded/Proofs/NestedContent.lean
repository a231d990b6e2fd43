import Grounded.Html.Extract
import Mathlib.Data.List.Basic

/-!
# Texts inside several content elements

The text of a content element is all the text below it. So a text node has a part in the block of every
content element around it: the paragraph of a list item is read once with the item and once on its own.
To say which texts a block was made of, the walk over a page is repeated here with the place of each
text node beside its text. `Node.traced` is that walk and `Page.elements_trace` says that it is the same
one. What a place contributes to is then counted from the page alone, by `Page.enclosing`.
-/

namespace Grounded.Html

open Text

/-! ## Texts by their places -/

/--
The text at a place, trimmed, unless that leaves nothing. A place says which child comes next, from the
node down to a text.
-/
def Node.piece? : List Nat → Node → Option (List Char)
  | [], .text content =>
    match trim content with
    | [] => none
    | piece => some piece
  | [], .element _ _ _ => none
  | _ :: _, .text _ => none
  | i :: place, .element _ _ children => (children[i]?).bind (Node.piece? place)

mutual

/-- The texts of a node that are not blank, each with its place. -/
def Node.located : Node → List (List Nat × List Char)
  | .text content =>
    match trim content with
    | [] => []
    | piece => [([], piece)]
  | .element _ _ children => locatedOf 0 children

/-- The texts of several nodes, the first of which is the child of number `i`. -/
def locatedOf (i : Nat) : List Node → List (List Nat × List Char)
  | [] => []
  | n :: rest => n.located.map (Prod.map (i :: ·) id) ++ locatedOf (i + 1) rest

end

mutual

theorem Node.map_located : ∀ n : Node, n.located.map (·.2) = n.pieces
  | .text content => by
    rw [Node.located, Node.pieces]
    cases trim content with
    | nil => rfl
    | cons c piece => rfl
  | .element _ _ children => by rw [Node.located, Node.pieces, map_locatedOf 0 children]

theorem map_locatedOf : ∀ (i : Nat) (l : List Node), (locatedOf i l).map (·.2) = piecesOf l
  | _, [] => rfl
  | i, n :: rest => by
    have hplace : (fun p : List Nat × List Char => p.2) ∘ Prod.map (i :: ·) id = (·.2) := rfl
    rw [locatedOf, piecesOf, List.map_append, List.map_map, hplace, n.map_located,
      map_locatedOf (i + 1) rest]

end

/-- A place among several nodes goes by way of the node it begins with. -/
theorem mem_locatedOf {i : Nat} {l : List Node} {place : List Nat} {piece : List Char} :
    (place, piece) ∈ locatedOf i l ↔
      ∃ k n below, l[k]? = some n ∧ place = (i + k) :: below ∧ (below, piece) ∈ n.located := by
  induction l generalizing i with
  | nil => simp [locatedOf]
  | cons m rest ih =>
      rw [locatedOf, List.mem_append, ih]
      constructor
      · rintro (h | ⟨k, n, below, hn, rfl, hb⟩)
        · obtain ⟨⟨below, piece'⟩, hb, heq⟩ := List.mem_map.mp h
          obtain ⟨rfl, rfl⟩ := Prod.mk.inj heq
          exact ⟨0, m, below, rfl, rfl, hb⟩
        · exact ⟨k + 1, n, below, hn, by rw [Nat.add_assoc, Nat.add_comm 1 k], hb⟩
      · rintro ⟨k, n, below, hn, rfl, hb⟩
        cases k with
        | zero =>
            obtain rfl := Option.some.inj hn
            exact .inl (List.mem_map.mpr ⟨(below, piece), hb, rfl⟩)
        | succ k => exact .inr ⟨k, n, below, hn, by rw [Nat.add_assoc, Nat.add_comm 1 k], hb⟩

/-- **The walk finds each text at its place.** -/
theorem Node.mem_located {place : List Nat} {piece : List Char} {n : Node} :
    (place, piece) ∈ n.located ↔ n.piece? place = some piece := by
  induction place generalizing n with
  | nil =>
      cases n with
      | text content =>
          rw [located, piece?]
          cases trim content with
          | nil => simp
          | cons c piece => simp [eq_comm]
      | element serial name children => simp [located, piece?, mem_locatedOf]
  | cons i place ih =>
      cases n with
      | text content =>
          rw [located, piece?]
          cases trim content with
          | nil => simp
          | cons c piece => simp
      | element serial name children =>
          simp only [located, piece?, mem_locatedOf, Nat.zero_add, List.cons.injEq,
            Option.bind_eq_some_iff]
          constructor
          · rintro ⟨_, n, _, hn, ⟨rfl, rfl⟩, hb⟩
            exact ⟨n, hn, ih.mp hb⟩
          · rintro ⟨n, hn, hb⟩
            exact ⟨i, n, place, hn, ⟨rfl, rfl⟩, ih.mpr hb⟩

/-! ## Content elements by the texts they are made of -/

/-- A content element with the places of its texts, in the order in which they are joined. -/
structure TracedElement where
  element : ContentElement
  places : List (List Nat)

/-- The element as it is found below the child of that number. -/
def TracedElement.under (i : Nat) (t : TracedElement) : TracedElement :=
  { t with places := t.places.map (i :: ·) }

mutual

/-- The content elements of a node that is outside of all excluded elements, with their texts. -/
def Node.traced : Node → List TracedElement
  | .text _ => []
  | .element serial name children =>
    let own :=
      if contentNames.contains name then
        [⟨⟨serial, name, joinWith [' '] (piecesOf children)⟩, (locatedOf 0 children).map (·.1)⟩]
      else []
    own ++ if excludedNames.contains name then [] else tracedOf 0 children

/-- The same for several nodes, the first of which is the child of number `i`. -/
def tracedOf (i : Nat) : List Node → List TracedElement
  | [] => []
  | n :: rest => n.traced.map (·.under i) ++ tracedOf (i + 1) rest

end

/-- The content elements below the root of a tree that was cut off, with their texts. -/
def Node.tracedBelow : Node → List TracedElement
  | .text _ => []
  | .element _ name children => if excludedNames.contains name then [] else tracedOf 0 children

/-- What `f` traces in each of several trees, the first of which has the number `i`. -/
def numbered (f : Node → List TracedElement) (i : Nat) : List Node → List TracedElement
  | [] => []
  | n :: rest => (f n).map (·.under i) ++ numbered f (i + 1) rest

theorem tracedOf_eq (i : Nat) (l : List Node) : tracedOf i l = numbered Node.traced i l := by
  induction l generalizing i with
  | nil => rfl
  | cons n rest ih => rw [tracedOf, numbered, ih]

/--
The content elements around a place that count: those outside of all excluded elements. The outermost
comes first.
-/
def Node.enclosing : List Nat → Node → List ContentElement
  | [], _ => []
  | _ :: _, .text _ => []
  | i :: place, .element serial name children =>
    let own :=
      if contentNames.contains name then [⟨serial, name, joinWith [' '] (piecesOf children)⟩] else []
    own ++ if excludedNames.contains name then []
      else ((children[i]?).map (Node.enclosing place)).getD []

/-- The same in a tree that was cut off, whose root does not count. -/
def Node.enclosingBelow : List Nat → Node → List ContentElement
  | [], _ => []
  | _ :: _, .text _ => []
  | i :: place, .element _ name children =>
    if excludedNames.contains name then [] else ((children[i]?).map (Node.enclosing place)).getD []

namespace Page

/-- The text at a place of a page: the first number is that of a tree, those cut off coming last. -/
def piece? (p : Page) : List Nat → Option (List Char)
  | [] => none
  | i :: place => ((p.document ++ p.detached)[i]?).bind (Node.piece? place)

/-- The content elements of a page, in order, with their texts. -/
def trace (p : Page) : List TracedElement :=
  (tracedOf 0 p.document ++ numbered Node.tracedBelow p.document.length p.detached).mergeSort fun a b =>
    a.element.serial ≤ b.element.serial

/-- Those that make a block, one each. -/
def contributors (minFragment : Nat) (p : Page) : List TracedElement :=
  p.trace.filter fun t => (block? minFragment t.element).isSome

/-- The content elements around a place of a page that count. -/
def enclosing (p : Page) : List Nat → List ContentElement
  | [] => []
  | i :: place =>
    match p.document[i]? with
    | some n => n.enclosing place
    | none => ((p.detached[i - p.document.length]?).map (Node.enclosingBelow place)).getD []

end Page

/-! ## The walk is that over the page -/

mutual

theorem Node.map_traced : ∀ n : Node, n.traced.map (·.element) = n.content
  | .text _ => rfl
  | .element serial name children => by
    rw [Node.traced, Node.content, List.map_append]
    congr 1
    · split <;> rfl
    · split
      · rfl
      · exact map_tracedOf 0 children

theorem map_tracedOf : ∀ (i : Nat) (l : List Node), (tracedOf i l).map (·.element) = contentOf l
  | _, [] => rfl
  | i, n :: rest => by
    rw [tracedOf, contentOf, List.map_append, List.map_map, ← n.map_traced,
      ← map_tracedOf (i + 1) rest]
    rfl

end

theorem Node.map_tracedBelow (n : Node) : n.tracedBelow.map (·.element) = n.contentBelow := by
  cases n with
  | text _ => rfl
  | element serial name children =>
      rw [tracedBelow, contentBelow]
      split
      · rfl
      · exact map_tracedOf 0 children

theorem map_numbered (f : Node → List TracedElement) (i : Nat) (l : List Node) :
    (numbered f i l).map (·.element) = l.flatMap fun n => (f n).map (·.element) := by
  induction l generalizing i with
  | nil => rfl
  | cons n rest ih =>
      rw [numbered, List.map_append, ih, List.map_map, List.flatMap_cons]
      rfl

/-- **The elements of the walk are those of the page,** in the same order. -/
theorem Page.map_trace (p : Page) : p.trace.map (·.element) = p.elements := by
  have hparts : (tracedOf 0 p.document
        ++ numbered Node.tracedBelow p.document.length p.detached).map (·.element)
      = contentOf p.document ++ p.detached.flatMap Node.contentBelow := by
    simp only [List.map_append, map_tracedOf, map_numbered, Node.map_tracedBelow]
  rw [trace, elements, ← hparts]
  exact List.map_mergeSort (fun _ _ _ _ => rfl)

/-- Each contributor makes one block, and there are no other blocks. -/
theorem Page.map_contributors (minFragment : Nat) (p : Page) :
    (p.contributors minFragment).map (fun t => block? minFragment t.element)
      = (p.blocks minFragment).map some := by
  rw [contributors, blocks, ← p.map_trace, List.filterMap_map]
  induction p.trace with
  | nil => rfl
  | cons t rest ih =>
      rw [List.filter_cons, List.filterMap_cons]
      cases hb : block? minFragment t.element with
      | none => simp only [hb, Option.isSome_none, Bool.false_eq_true, if_false, Function.comp_apply, ih]
      | some b => simp only [hb, Option.isSome_some, if_true, Function.comp_apply, List.map_cons, ih]

/-! ## What an element is made of -/

/-- The element's text is that of its places joined, and there is a text at each of them. -/
structure TracedElement.ReadFrom (texts : List Nat → Option (List Char)) (t : TracedElement) : Prop where
  text : t.element.text = joinWith [' '] (t.places.filterMap texts)
  found : ∀ place ∈ t.places, (texts place).isSome

theorem TracedElement.ReadFrom.under {texts above : List Nat → Option (List Char)} {t : TracedElement}
    (h : t.ReadFrom texts) {i : Nat} (habove : ∀ place, above (i :: place) = texts place) :
    (t.under i).ReadFrom above := by
  constructor
  · have hsame : above ∘ (i :: ·) = texts := funext habove
    rw [TracedElement.under, List.filterMap_map, hsame]
    exact h.text
  · intro place hplace
    obtain ⟨below, hbelow, rfl⟩ := List.mem_map.mp hplace
    rw [habove]
    exact h.found below hbelow

theorem mem_numbered {f : Node → List TracedElement} {i : Nat} {l : List Node} {t : TracedElement}
    (h : t ∈ numbered f i l) : ∃ k n below, l[k]? = some n ∧ below ∈ f n ∧ t = below.under (i + k) := by
  induction l generalizing i with
  | nil => cases h
  | cons n rest ih =>
      rcases List.mem_append.mp h with h | h
      · obtain ⟨below, hb, rfl⟩ := List.mem_map.mp h
        exact ⟨0, n, below, rfl, hb, rfl⟩
      · obtain ⟨k, m, below, hm, hb, rfl⟩ := ih h
        exact ⟨k + 1, m, below, hm, hb, by rw [Nat.add_assoc, Nat.add_comm 1 k]⟩

/-- The places of a node's texts give its texts. -/
theorem Node.filterMap_located (n : Node) :
    (n.located.map (·.1)).filterMap (fun place => n.piece? place) = n.pieces := by
  rw [List.filterMap_map, ← n.map_located]
  refine List.filterMap_eq_map_iff_forall_eq_some.mpr ?_
  rintro ⟨place, piece⟩ h
  exact mem_located.mp h

/-- A content element is made of the texts below it. -/
theorem readFrom_own (serial : Nat) (name : String) (children : List Node) :
    TracedElement.ReadFrom (fun place => (Node.element serial name children).piece? place)
      ⟨⟨serial, name, joinWith [' '] (piecesOf children)⟩, (locatedOf 0 children).map (·.1)⟩ := by
  constructor
  · exact congrArg (joinWith [' ']) (Node.filterMap_located (.element serial name children)).symm
  · intro place hplace
    obtain ⟨⟨_, piece⟩, h, rfl⟩ := List.mem_map.mp hplace
    rw [Node.mem_located.mp h]
    rfl

theorem Node.readFrom_traced (n : Node) {t : TracedElement} (h : t ∈ n.traced) :
    t.ReadFrom (fun place => n.piece? place) := by
  match n with
  | .text content => cases h
  | .element serial name children =>
    rcases List.mem_append.mp h with h | h
    · split at h
      · rw [List.mem_singleton.mp h]
        exact readFrom_own serial name children
      · cases h
    · split at h
      · cases h
      · rw [tracedOf_eq] at h
        obtain ⟨k, m, below, hm, hb, rfl⟩ := mem_numbered h
        have hmem : m ∈ children := List.mem_of_getElem? hm
        refine (m.readFrom_traced hb).under ?_
        intro place
        rw [piece?, Nat.zero_add, hm, Option.bind_some]
termination_by sizeOf n
decreasing_by
  have := List.sizeOf_lt_of_mem hmem
  simp only [Node.element.sizeOf_spec]
  omega

theorem Node.readFrom_tracedBelow (n : Node) {t : TracedElement} (h : t ∈ n.tracedBelow) :
    t.ReadFrom (fun place => n.piece? place) := by
  cases n with
  | text content => cases h
  | element serial name children =>
      rw [tracedBelow] at h
      split at h
      · cases h
      · rw [tracedOf_eq] at h
        obtain ⟨k, m, below, hm, hb, rfl⟩ := mem_numbered h
        refine (m.readFrom_traced hb).under ?_
        intro place
        rw [piece?, Nat.zero_add, hm, Option.bind_some]

theorem Page.readFrom_trace (p : Page) {t : TracedElement} (h : t ∈ p.trace) :
    t.ReadFrom p.piece? := by
  rcases List.mem_append.mp (List.mem_mergeSort.mp h) with h | h
  · rw [tracedOf_eq] at h
    obtain ⟨k, n, below, hn, hb, rfl⟩ := mem_numbered h
    refine (n.readFrom_traced hb).under ?_
    intro place
    obtain ⟨hlt, _⟩ := List.getElem?_eq_some_iff.mp hn
    rw [piece?, Nat.zero_add, List.getElem?_append_left hlt, hn, Option.bind_some]
  · obtain ⟨k, n, below, hn, hb, rfl⟩ := mem_numbered h
    refine (n.readFrom_tracedBelow hb).under ?_
    intro place
    rw [piece?, List.getElem?_append_right (Nat.le_add_right _ _), Nat.add_sub_cancel_left, hn,
      Option.bind_some]

/-! ## How many blocks a text is part of -/

/-- Whether the element is one that `keep` keeps and is made of the text at that place. -/
def TracedElement.has (keep : ContentElement → Bool) (place : List Nat) (t : TracedElement) : Bool :=
  keep t.element && t.places.contains place

theorem TracedElement.has_under (keep : ContentElement → Bool) (i j : Nat) (place : List Nat)
    (t : TracedElement) :
    (t.under i).has keep (j :: place) = (decide (i = j) && t.has keep place) := by
  have hplaces : (t.places.map (i :: ·)).contains (j :: place)
      = (decide (i = j) && t.places.contains place) := by
    rw [Bool.eq_iff_iff]
    simp [and_comm]
  rw [has, has, under, hplaces, Bool.and_left_comm]

theorem countP_under (keep : ContentElement → Bool) (i j : Nat) (place : List Nat)
    (ts : List TracedElement) : (ts.map (·.under i)).countP (·.has keep (j :: place))
      = if i = j then ts.countP (·.has keep place) else 0 := by
  rw [List.countP_map]
  by_cases hij : i = j
  · rw [if_pos hij]
    refine List.countP_congr ?_
    intro t _
    rw [Function.comp_apply, TracedElement.has_under, decide_eq_true hij, Bool.true_and]
  · rw [if_neg hij, List.countP_eq_zero]
    intro t _
    rw [Function.comp_apply, TracedElement.has_under, decide_eq_false hij, Bool.false_and]
    decide

/-- A text is part only of what is traced in its own tree. -/
theorem countP_numbered (keep : ContentElement → Bool) (f : Node → List TracedElement) (i j : Nat)
    (place : List Nat) (l : List Node) : (numbered f i l).countP (·.has keep (j :: place))
      = if j < i then 0
        else ((l[j - i]?).map fun n => (f n).countP (·.has keep place)).getD 0 := by
  induction l generalizing i with
  | nil => simp [numbered]
  | cons n rest ih =>
      rw [numbered, List.countP_append, countP_under, ih]
      rcases Nat.lt_trichotomy j i with hlt | rfl | hgt
      · rw [if_neg (by omega), if_pos (by omega), if_pos hlt]
      · rw [if_pos rfl, if_pos (by omega), if_neg (by omega), Nat.sub_self]
        rfl
      · obtain ⟨k, rfl⟩ : ∃ k, j = i + 1 + k := ⟨j - (i + 1), by omega⟩
        have hrest : i + 1 + k - i = k + 1 := by omega
        rw [if_neg (by omega), if_neg (by omega), if_neg (by omega), Nat.add_sub_cancel_left, hrest,
          List.getElem?_cons_succ, Nat.zero_add]

/-- Where there is no text, nothing has one. -/
theorem countP_of_readFrom {texts : List Nat → Option (List Char)} {ts : List TracedElement}
    (h : ∀ t ∈ ts, t.ReadFrom texts) (keep : ContentElement → Bool) {place : List Nat}
    (hnone : texts place = none) : ts.countP (·.has keep place) = 0 := by
  rw [List.countP_eq_zero]
  intro t ht hhas
  rw [TracedElement.has, Bool.and_eq_true, List.contains_iff_mem] at hhas
  have hfound := (h t ht).found place hhas.2
  rw [hnone] at hfound
  cases hfound

/-- **A text is part of every content element around it that counts,** once each. -/
theorem Node.countP_traced (keep : ContentElement → Bool) {place : List Nat} {n : Node}
    (h : (n.piece? place).isSome) :
    n.traced.countP (·.has keep place) = (n.enclosing place).countP keep := by
  induction place generalizing n with
  | nil =>
      cases n with
      | text content => rfl
      | element serial name children => cases h
  | cons i place ih =>
      cases n with
      | text content => rfl
      | element serial name children =>
          rw [piece?] at h
          cases hn : children[i]? with
          | none => rw [hn] at h; cases h
          | some n =>
              rw [hn, Option.bind_some] at h
              have hbelow : (tracedOf 0 children).countP (·.has keep (i :: place))
                  = (n.enclosing place).countP keep := by
                rw [tracedOf_eq, countP_numbered, if_neg (Nat.not_lt_zero i), Nat.sub_zero, hn, ← ih h]
                rfl
              have hhas : ((locatedOf 0 children).map (·.1)).contains (i :: place) = true := by
                rw [List.contains_iff_mem, List.mem_map]
                obtain ⟨piece, hpiece⟩ := Option.isSome_iff_exists.mp h
                refine ⟨(i :: place, piece), mem_locatedOf.mpr ?_, rfl⟩
                exact ⟨i, n, place, hn, by rw [Nat.zero_add], mem_located.mpr hpiece⟩
              rw [traced, enclosing, List.countP_append, List.countP_append, hn]
              congr 1
              · split
                · simp only [List.countP_singleton, TracedElement.has, hhas, Bool.and_true]
                · rfl
              · split
                · rfl
                · exact hbelow

theorem Node.countP_tracedBelow (keep : ContentElement → Bool) {place : List Nat} {n : Node}
    (h : (n.piece? place).isSome) :
    n.tracedBelow.countP (·.has keep place) = (n.enclosingBelow place).countP keep := by
  cases n with
  | text content => cases place <;> rfl
  | element serial name children =>
      cases place with
      | nil => cases h
      | cons i place =>
          rw [piece?] at h
          rw [tracedBelow, enclosingBelow]
          split
          · rfl
          · rw [tracedOf_eq, countP_numbered, if_neg (Nat.not_lt_zero i), Nat.sub_zero]
            cases hn : children[i]? with
            | none => rfl
            | some n =>
                rw [hn, Option.bind_some] at h
                exact n.countP_traced keep h

namespace Page

theorem countP_trace (keep : ContentElement → Bool) {p : Page} {place : List Nat}
    (h : (p.piece? place).isSome) :
    p.trace.countP (·.has keep place) = (p.enclosing place).countP keep := by
  cases place with
  | nil => cases h
  | cons i place =>
      rw [piece?] at h
      rw [trace, (List.mergeSort_perm _ _).countP_eq, List.countP_append, tracedOf_eq,
        countP_numbered, countP_numbered, if_neg (Nat.not_lt_zero i), Nat.sub_zero, enclosing]
      cases hn : p.document[i]? with
      | some n =>
          obtain ⟨hlt, _⟩ := List.getElem?_eq_some_iff.mp hn
          rw [List.getElem?_append_left hlt, hn, Option.bind_some] at h
          rw [if_pos hlt, Nat.add_zero]
          exact n.countP_traced keep h
      | none =>
          have hle : p.document.length ≤ i := List.getElem?_eq_none_iff.mp hn
          rw [List.getElem?_append_right hle] at h
          rw [if_neg (Nat.not_lt.mpr hle)]
          cases hm : p.detached[i - p.document.length]? with
          | none => rfl
          | some n =>
              rw [hm, Option.bind_some] at h
              rw [Option.map_none, Option.getD_none, Nat.zero_add]
              exact n.countP_tracedBelow keep h

/-- In how many blocks of a page the text at a place has a part. -/
def uses (minFragment : Nat) (p : Page) (place : List Nat) : Nat :=
  (p.contributors minFragment).countP (·.places.contains place)

theorem uses_eq (minFragment : Nat) (p : Page) (place : List Nat) :
    p.uses minFragment place
      = p.trace.countP (·.has (fun e => (block? minFragment e).isSome) place) := by
  rw [uses, contributors, List.countP_filter]
  refine List.countP_congr ?_
  intro t _
  rw [TracedElement.has, Bool.and_comm]

/--
**A text has a part in one block for each content element around it** that is outside of all excluded
elements and makes a block. The blocks are those of `contributors`, each made of the texts at its
places and of no others; so a text is repeated exactly if several such elements are around it.
-/
theorem uses_eq_enclosing (minFragment : Nat) (p : Page) :
    (p.contributors minFragment).map (fun t => block? minFragment t.element)
        = (p.blocks minFragment).map some ∧
    (∀ t ∈ p.contributors minFragment,
      t.element.text = joinWith [' '] (t.places.filterMap p.piece?)) ∧
    ∀ place, p.uses minFragment place
      = if (p.piece? place).isSome then
          (p.enclosing place).countP fun e => (block? minFragment e).isSome
        else 0 := by
  refine ⟨p.map_contributors minFragment, ?_, ?_⟩
  · intro t ht
    exact (p.readFrom_trace (List.mem_filter.mp ht).1).text
  · intro place
    rw [uses_eq]
    split
    · rename_i h
      exact countP_trace _ h
    · rename_i h
      rw [Option.not_isSome_iff_eq_none] at h
      exact countP_of_readFrom (fun t ht => p.readFrom_trace ht) _ h

/-- A page with a list whose only item is a paragraph. -/
def itemPage : Page where
  document :=
    [.element 1 "html" [.element 2 "head" [], .element 3 "body" [.element 4 "ul" [.element 5 "li"
      [.element 6 "p" [.text "Action Gravity slows down operations that cannot be undone.".toList]]]]]]
  detached := []

/-- So it is not true that no text is repeated: a paragraph in a list item is part of two blocks. -/
theorem not_uses_le_one :
    ¬ ∀ (minFragment : Nat) (p : Page) (place : List Nat), p.uses minFragment place ≤ 1 := by
  intro h
  have hfound : (itemPage.piece? [0, 1, 0, 0, 0, 0]).isSome := by decide +kernel
  have htwice : itemPage.uses 20 [0, 1, 0, 0, 0, 0] = 2 := by
    rw [uses_eq, countP_trace _ hfound]
    decide +kernel
  exact absurd (h 20 itemPage [0, 1, 0, 0, 0, 0]) (by rw [htwice]; decide)

end Page

end Grounded.Html
