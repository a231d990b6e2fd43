import Grounded.Proofs.TextLines
import Grounded.Source.CodeItem

/-!
# Items by looking back

The reader of a source file goes from line to line and carries along the docs that nothing has claimed and
whether the file has given an item. Here nothing is carried: `docAbove` reads the docs at a place off the
lines above it, `itemAt?` says what a line gives there, and `lookBack` collects this over the lines of a file
and adds the docs that are left at its end.

What the reader carries is at every line what looking back finds (`ofLines_cons`), and so it gives the same
items.
-/

namespace Grounded

open Text

/-! ## Kinds of lines -/

/-- The kinds of lines in front of the tests. -/
inductive LineKind where
  | doc
  | declaration
  | neutral
  | other
deriving DecidableEq, Repr

namespace LineKind

/-- The line begins with `start`, blanks aside. -/
def begins (start : String) (line : List Char) : Bool := start.toList.isPrefixOf (trim line)

def opensTests (line : List Char) : Bool := begins "#[cfg(test)]" line

/-- Comments other than docs are neutral, and so are attributes. -/
def ofLine (line : List Char) : LineKind :=
  if begins "//!" line || begins "///" line then .doc
  else if begins "pub " line then .declaration
  else if begins "//" line || begins "#[" line then .neutral
  else .other

/-- What a doc line says, behind the three characters that make it one. -/
def docText (line : List Char) : List Char := trim ((trim line).drop 3)

/-- What a declaration shows of itself. -/
def signatureOf (line : List Char) : List Char := Signature.truncate (trim line)

/-- The reader's line for a line of each kind. -/
def codeLine (line : List Char) : LineKind → CodeLine
  | .doc => .doc (docText line)
  | .declaration => .declaration (signatureOf line)
  | .neutral => .neutral
  | .other => .other

theorem docText?_eq (line : List Char) : CodeLine.docText? (trim line)
    = if begins "//!" line || begins "///" line then some (docText line) else none := by
  have hstarts : CodeLine.docText? (trim line)
      = ((if begins "//!" line then some ((trim line).drop 3) else none).orElse fun _ =>
          if begins "///" line then some ((trim line).drop 3) else none).map trim := rfl
  rw [hstarts]
  cases begins "//!" line <;> cases begins "///" line <;> rfl

/-- The reader knows the same kinds, and the tests. -/
theorem codeLine_ofLine (line : List Char) : CodeLine.ofLine line
    = if opensTests line then .tests else codeLine line (ofLine line) := by
  have hreader : CodeLine.ofLine line =
      if opensTests line then .tests
      else (CodeLine.docText? (trim line)).elim
        (if begins "pub " line then .declaration (signatureOf line)
          else if begins "//" line || begins "#[" line then .neutral
          else .other) CodeLine.doc := by
    rw [CodeLine.ofLine]
    cases CodeLine.docText? (trim line) <;> rfl
  rw [hreader, docText?_eq, ofLine]
  cases opensTests line
  · cases begins "//!" line || begins "///" line
    · cases begins "pub " line
      · cases begins "//" line || begins "#[" line <;> rfl
      · rfl
    · rfl
  · rfl

end LineKind

namespace CodeItem

open LineKind

/-! ## Looking back -/

/-- Docs above a declaration, or above any other line of code, do not reach below it. -/
def keepsDocs (line : List Char) : Bool := ofLine line = .doc || ofLine line = .neutral

/--
The doc texts since the last line that ends them, in their order; empty ones do not count. The lines `above`
are given as they are met looking back, the nearest first.
-/
def docsAbove (above : List (List Char)) : List (List Char) :=
  ((((above.takeWhile keepsDocs).filter (ofLine · = .doc)).map docText).filter (!·.isEmpty)).reverse

def docAbove (above : List (List Char)) : List Char := joinWith ['\n'] (docsAbove above)

variable (file domain : String)

/--
The item of a line, from the lines above it and whether it would be the first one. A declaration needs docs
or a signature of some length; any other line of code gives the docs above it only if there is no item yet.
-/
def itemAt? (above : List (List Char)) (first : Bool) (line : List Char) : Option CodeItem :=
  match ofLine line with
  | .declaration =>
    if docAbove above ≠ [] ∨ 10 < (signatureOf line).length then
      some ⟨docAbove above, signatureOf line, domain, file⟩
    else none
  | .other => if docAbove above ≠ [] ∧ first then some ⟨docAbove above, [], domain, file⟩ else none
  | .doc | .neutral => none

/-- The items of lines, the nearest line first. -/
def itemsAbove : List (List Char) → List CodeItem
  | [] => []
  | line :: above =>
    itemsAbove above ++ (itemAt? file domain above (itemsAbove above).isEmpty line).toList

/-- The docs at the end of the lines are an item of their own. -/
def lastItem? (above : List (List Char)) : Option CodeItem :=
  if docAbove above ≠ [] then some ⟨docAbove above, [], domain, file⟩ else none

/-- The items of a file with these lines. -/
def lookBack (lines : List (List Char)) : List CodeItem :=
  itemsAbove file domain lines.reverse ++ (lastItem? file domain lines.reverse).toList

/-! ## Docs at a place -/

variable {file domain}

theorem docsAbove_cons (line : List Char) (above : List (List Char)) : docsAbove (line :: above) =
    match ofLine line with
    | .doc => if (docText line).isEmpty then docsAbove above else docsAbove above ++ [docText line]
    | .neutral => docsAbove above
    | .declaration | .other => [] := by
  rw [docsAbove, docsAbove]
  cases hkind : ofLine line with
  | doc =>
      rw [List.takeWhile_cons_of_pos (by rw [keepsDocs, hkind]; rfl),
        List.filter_cons_of_pos (p := (ofLine · = .doc)) (decide_eq_true hkind), List.map_cons]
      cases hempty : (docText line).isEmpty with
      | true => exact congrArg _ (List.filter_cons_of_neg (by rw [hempty]; decide))
      | false =>
          rw [List.filter_cons_of_pos (by rw [hempty]; rfl), List.reverse_cons]
          rfl
  | neutral =>
      rw [List.takeWhile_cons_of_pos (by rw [keepsDocs, hkind]; rfl),
        List.filter_cons_of_neg (by rw [hkind]; decide)]
  | declaration =>
      rw [List.takeWhile_cons_of_neg (by rw [keepsDocs, hkind]; decide)]
      rfl
  | other =>
      rw [List.takeWhile_cons_of_neg (by rw [keepsDocs, hkind]; decide)]
      rfl

theorem ne_nil_of_mem_docsAbove {above : List (List Char)} {text : List Char}
    (h : text ∈ docsAbove above) : text ≠ [] := by
  rw [docsAbove, List.mem_reverse, List.mem_filter, Bool.not_eq_true', List.isEmpty_eq_false_iff] at h
  exact h.2

/-- There is a doc text where the reader has doc lines. -/
theorem docAbove_ne_nil_iff {above : List (List Char)} :
    docAbove above ≠ [] ↔ (docsAbove above).isEmpty = false := by
  rw [List.isEmpty_eq_false_iff]
  constructor
  · intro h hdocs
    exact h (by rw [docAbove, hdocs]; rfl)
  · exact fun h => joinWith_ne_nil h fun _ => ne_nil_of_mem_docsAbove

/-! ## What the reader carries -/

/-- At the end, and in front of the tests, the reader gives the docs at hand. -/
theorem ofLines_end (above : List (List Char)) :
    (if (docsAbove above).isEmpty then [] else [⟨joinDoc (docsAbove above), [], domain, file⟩])
      = (lastItem? file domain above).toList := by
  rw [lastItem?]
  simp only [docAbove_ne_nil_iff]
  cases (docsAbove above).isEmpty <;> rfl

/--
**One line.** With the docs above at hand, and told whether there was an item, the reader gives what the
line gives looking back, and goes on with what is above the next line.
-/
theorem ofLines_cons (line : List Char) (above : List (List Char)) (rest : List CodeLine) :
    ofLines file domain (docsAbove above) (!(itemsAbove file domain above).isEmpty)
        (codeLine line (ofLine line) :: rest)
      = (itemAt? file domain above (itemsAbove file domain above).isEmpty line).toList ++
          ofLines file domain (docsAbove (line :: above))
            (!(itemsAbove file domain (line :: above)).isEmpty) rest := by
  have hitems : ∀ i : CodeItem, (itemsAbove file domain above ++ [i]).isEmpty = false := fun i =>
    List.isEmpty_eq_false_iff.mpr (List.append_ne_nil_of_right_ne_nil _ (List.cons_ne_nil i []))
  rw [itemsAbove, itemAt?, docsAbove_cons]
  cases hkind : ofLine line with
  | doc => rw [codeLine, ofLines, Option.toList_none, List.append_nil, List.nil_append]
  | neutral => rw [codeLine, ofLines, Option.toList_none, List.append_nil, List.nil_append]
  | declaration =>
      have hcount : (!(docsAbove above).isEmpty || decide (10 < (signatureOf line).length)) = true
          ↔ docAbove above ≠ [] ∨ 10 < (signatureOf line).length := by
        rw [Bool.or_eq_true, Bool.not_eq_true', decide_eq_true_eq, docAbove_ne_nil_iff]
      dsimp only
      rw [codeLine, ofLines, shortSignature]
      by_cases hgives : docAbove above ≠ [] ∨ 10 < (signatureOf line).length
      · rw [if_pos hgives, if_pos (hcount.mpr hgives), Option.toList_some, hitems]
        rfl
      · rw [if_neg hgives, if_neg (mt hcount.mp hgives), Option.toList_none, List.append_nil,
          List.nil_append]
  | other =>
      have hcount : (!(docsAbove above).isEmpty && !!(itemsAbove file domain above).isEmpty) = true
          ↔ docAbove above ≠ [] ∧ (itemsAbove file domain above).isEmpty = true := by
        rw [Bool.and_eq_true, Bool.not_eq_true', Bool.not_not, docAbove_ne_nil_iff]
      dsimp only
      rw [codeLine, ofLines]
      by_cases hgives : docAbove above ≠ [] ∧ (itemsAbove file domain above).isEmpty = true
      · rw [if_pos hgives, if_pos (hcount.mpr hgives), Option.toList_some, hitems]
        rfl
      · rw [if_neg hgives, if_neg (mt hcount.mp hgives), Option.toList_none, List.append_nil,
          List.nil_append]

/--
**All lines.** Behind the lines above, the reader gives what is missing of the items that looking back finds
in the lines up to the tests.
-/
theorem itemsAbove_append_ofLines (above lines : List (List Char)) :
    itemsAbove file domain above ++
        ofLines file domain (docsAbove above) (!(itemsAbove file domain above).isEmpty)
          (lines.map CodeLine.ofLine)
      = lookBack file domain (above.reverse ++ lines.takeWhile (!opensTests ·)) := by
  have hend : lookBack file domain above.reverse
      = itemsAbove file domain above ++ (lastItem? file domain above).toList := by
    rw [lookBack, List.reverse_reverse]
  induction lines generalizing above with
  | nil => rw [List.map_nil, ofLines, ofLines_end, List.takeWhile_nil, List.append_nil, hend]
  | cons line lines ih =>
      rw [List.map_cons, codeLine_ofLine]
      cases htests : opensTests line with
      | true =>
          rw [List.takeWhile_cons_of_neg (by rw [htests]; decide), List.append_nil, hend, if_pos rfl,
            ofLines, ofLines_end]
      | false =>
          have hnext := ih (line :: above) (by rw [lookBack, List.reverse_reverse])
          rw [List.reverse_cons, List.append_assoc, List.singleton_append] at hnext
          rw [List.takeWhile_cons_of_pos (by rw [htests]; rfl), ← hnext, if_neg (by decide),
            ofLines_cons, itemsAbove, List.append_assoc]

/--
**A file gives what looking back finds.** Only the lines in front of the tests count: whatever is changed
from there on, the items stay the same.
-/
theorem ofSource_eq_lookBack (domains : DomainTable) (content : List Char) (file : String) :
    ofSource domains content file
        = lookBack file (domains.classify file) ((lines content).takeWhile (!opensTests ·)) ∧
      ∀ changed, (lines changed).takeWhile (!opensTests ·) = (lines content).takeWhile (!opensTests ·) →
        ofSource domains changed file = ofSource domains content file := by
  have hall : ∀ text, ofSource domains text file
      = lookBack file (domains.classify file) ((lines text).takeWhile (!opensTests ·)) :=
    fun text => itemsAbove_append_ofLines [] (lines text)
  exact ⟨hall content, fun changed h => by rw [hall, hall, h]⟩

end CodeItem

end Grounded
