import Grounded.Proofs.DomainTexts
import Grounded.Proofs.LookBack

/-!
# Items stand whole in the segments

An item of a source file is rendered as some lines, none of them blank: its docs are doc lines that say
something, and its signature is a single line. So a rendered item is one paragraph of the text of its domain,
and paragraphs are not cut. Whatever the bounds are, each item stands whole in a segment, its signature below
its docs.
-/

namespace Grounded

open Text

/-! ## Signatures -/

namespace Signature

theorem beforeEnd?_prefix {afterWord : Bool} {s before : List Char}
    (h : beforeEnd? afterWord s = some before) : before <+: s := by
  induction s generalizing afterWord before with
  | nil => cases h
  | cons c s ih =>
      rw [beforeEnd?] at h
      split at h
      · rw [← Option.some.inj h]
        exact List.nil_prefix
      · obtain ⟨rest, hrest, rfl⟩ := Option.map_eq_some_iff.mp h
        exact (List.prefix_cons_inj c).mpr (ih hrest)

/-- What is left of a declaration still begins with its first character. -/
theorem solid_truncate {line : List Char} (h : SolidLine line) : SolidLine (truncate line) := by
  rw [truncate]
  split
  · rename_i c before hbefore
    obtain ⟨rest, rfl⟩ := beforeEnd?_prefix hbefore
    refine ⟨?_, trimmed_trim _, fun hmem => h.oneLine ?_⟩
    · rw [← List.isEmpty_eq_false_iff, ← Bool.not_eq_true, trim_isEmpty_iff]
      intro hblank
      have hvisible : isBlank c = false := h.trimmed.head c rfl
      rw [hblank c List.mem_cons_self] at hvisible
      cases hvisible
    · exact List.mem_append_left rest ((isInfix_trim _).subset hmem)
  · exact h

end Signature

namespace CodeItem

open LineKind

theorem solid_trim {line : List Char} (hline : '\n' ∉ line) (hne : trim line ≠ []) :
    SolidLine (trim line) :=
  ⟨hne, trimmed_trim line, fun h => hline ((isInfix_trim line).subset h)⟩

theorem solid_docText {line : List Char} (hline : '\n' ∉ line) (hne : docText line ≠ []) :
    SolidLine (docText line) :=
  solid_trim (fun h => hline ((isInfix_trim line).subset (List.mem_of_mem_drop h))) hne

/-- A declaration is not blank, since it begins with its keyword. -/
theorem solid_signatureOf {line : List Char} (hline : '\n' ∉ line) (h : ofLine line = .declaration) :
    SolidLine (signatureOf line) := by
  refine Signature.solid_truncate (solid_trim hline ?_)
  intro hblank
  have hnone : ∀ start : String, start.toList ≠ [] → begins start line = false := by
    intro start hne
    rw [begins, hblank, ← Bool.not_eq_true, List.isPrefixOf_iff_prefix, List.prefix_nil]
    exact hne
  rw [ofLine, hnone _ (by decide), hnone _ (by decide), hnone _ (by decide), hnone _ (by decide),
    hnone _ (by decide)] at h
  cases h

/-! ## Lines of an item -/

/-- The item is shown as lines, none of them blank. -/
def Solid (i : CodeItem) : Prop :=
  ∃ shown : List (List Char), shown ≠ [] ∧ (∀ line ∈ shown, SolidLine line) ∧
    i.render = joinWith ['\n'] shown

theorem solid_of_mem_docsAbove {above : List (List Char)} (h : ∀ line ∈ above, '\n' ∉ line)
    {text : List Char} (htext : text ∈ docsAbove above) : SolidLine text := by
  have hne := ne_nil_of_mem_docsAbove htext
  rw [docsAbove, List.mem_reverse, List.mem_filter, List.mem_map] at htext
  obtain ⟨⟨line, hmem, rfl⟩, _⟩ := htext
  exact solid_docText (h line ((List.takeWhile_sublist _).subset (List.mem_of_mem_filter hmem))) hne

variable {file domain : String} {above : List (List Char)}

/-- Docs on their own are shown as their lines. -/
theorem solid_docs (h : ∀ line ∈ above, '\n' ∉ line) (hdocs : docAbove above ≠ []) :
    Solid ⟨docAbove above, [], domain, file⟩ := by
  refine ⟨docsAbove above, ?_, fun _ => solid_of_mem_docsAbove h, ?_⟩
  · rw [docAbove_ne_nil_iff, List.isEmpty_eq_false_iff] at hdocs
    exact hdocs
  · rw [render, if_neg (by rw [List.isEmpty_eq_false_iff.mpr hdocs]; decide)]
    rfl

/-- A signature is one more line below the docs. -/
theorem solid_declaration (h : ∀ line ∈ above, '\n' ∉ line) {signature : List Char}
    (hsignature : SolidLine signature) : Solid ⟨docAbove above, signature, domain, file⟩ := by
  refine ⟨docsAbove above ++ [signature], List.append_ne_nil_of_right_ne_nil _ (List.cons_ne_nil _ _),
    ?_, ?_⟩
  · intro line hline
    rcases List.mem_append.mp hline with hdoc | hlast
    · exact solid_of_mem_docsAbove h hdoc
    · rw [List.mem_singleton.mp hlast]
      exact hsignature
  · rw [render]
    by_cases hdocs : docAbove above = []
    · have hnone : docsAbove above = [] := by
        by_contra hsome
        exact docAbove_ne_nil_iff.mpr (List.isEmpty_eq_false_iff.mpr hsome) hdocs
      rw [hnone, if_pos (List.isEmpty_iff.mpr hdocs)]
      rfl
    · have hsome : docsAbove above ≠ [] := List.isEmpty_eq_false_iff.mp (docAbove_ne_nil_iff.mp hdocs)
      rw [if_neg (by rw [List.isEmpty_eq_false_iff.mpr hdocs]; decide),
        if_neg (by rw [List.isEmpty_eq_false_iff.mpr hsignature.nonempty]; decide),
        joinWith_append_singleton hsome]
      rfl

theorem solid_of_itemAt? {line : List Char} {first : Bool} {i : CodeItem}
    (h : ∀ l ∈ line :: above, '\n' ∉ l) (hi : itemAt? file domain above first line = some i) :
    i.Solid := by
  obtain ⟨hline, habove⟩ := List.forall_mem_cons.mp h
  rw [itemAt?] at hi
  split at hi
  · rename_i hkind
    obtain ⟨_, hi⟩ := Option.ite_none_right_eq_some.mp hi
    rw [← Option.some.inj hi]
    exact solid_declaration habove (solid_signatureOf hline hkind)
  · obtain ⟨hdocs, hi⟩ := Option.ite_none_right_eq_some.mp hi
    rw [← Option.some.inj hi]
    exact solid_docs habove hdocs.1
  · cases hi
  · cases hi

theorem solid_of_mem_itemsAbove {i : CodeItem} (h : ∀ line ∈ above, '\n' ∉ line)
    (hi : i ∈ itemsAbove file domain above) : i.Solid := by
  induction above with
  | nil => cases hi
  | cons line above ih =>
      rcases List.mem_append.mp hi with hearlier | hhere
      · exact ih (List.forall_mem_cons.mp h).2 hearlier
      · exact solid_of_itemAt? h (Option.mem_toList.mp hhere)

/-- **Every item of a source file is shown as lines, none of them blank.** -/
theorem solid_of_mem_ofSource {domains : DomainTable} {content : List Char} {i : CodeItem}
    (hi : i ∈ ofSource domains content file) : i.Solid := by
  have hlines : ∀ line ∈ ((lines content).takeWhile (!opensTests ·)).reverse, '\n' ∉ line :=
    fun line h => not_mem_of_mem_lines ((List.takeWhile_sublist _).subset (List.mem_reverse.mp h))
  have hlook : ofSource domains content file = _ := itemsAbove_append_ofLines [] (lines content)
  rw [hlook] at hi
  rcases List.mem_append.mp hi with hline | hlast
  · exact solid_of_mem_itemsAbove hlines hline
  · obtain ⟨hdocs, hi⟩ := Option.ite_none_right_eq_some.mp (Option.mem_toList.mp hlast)
    rw [← Option.some.inj hi]
    exact solid_docs hlines hdocs

theorem Solid.paragraphs_render {i : CodeItem} (h : i.Solid) : paragraphs i.render = [i.render] := by
  obtain ⟨shown, hne, hsolid, hrender⟩ := h
  rw [hrender]
  exact paragraphs_solid hne hsolid

end CodeItem

namespace CodeExtractor

/-! ## Segments of a domain -/

/-- The item comes from some source file. -/
def Extracted (i : CodeItem) : Prop :=
  ∃ domains content file, i ∈ CodeItem.ofSource domains content file

theorem Extracted.paragraphs_render {i : CodeItem} (h : Extracted i) :
    paragraphs i.render = [i.render] := by
  obtain ⟨domains, content, file, hi⟩ := h
  exact (CodeItem.solid_of_mem_ofSource hi).paragraphs_render

/-- Items fall into groups as their renderings do. -/
theorem exists_groups {items : List CodeItem} {groups : List (List (List Char))}
    (h : groups.flatten = items.map (·.render)) :
    ∃ parts : List (List CodeItem), parts.flatten = items ∧ groups = parts.map (·.map (·.render)) := by
  induction groups generalizing items with
  | nil =>
      rw [List.flatten_nil, eq_comm, List.map_eq_nil_iff] at h
      exact ⟨[], h.symm, rfl⟩
  | cons group groups ih =>
      rw [List.flatten_cons, eq_comm, List.map_eq_append_iff] at h
      obtain ⟨part, rest, rfl, rfl, hrest⟩ := h
      obtain ⟨parts, rfl, rfl⟩ := ih hrest.symm
      exact ⟨part :: parts, rfl, rfl⟩

/--
**No item is cut.** Among whatever other items, and for all bounds, an item of a source file stands whole in
a segment of the text of its domain. Where all items come from source files, they fall into groups, one for
each segment, and a segment is the items of its group behind what it takes over from the one before it.
-/
theorem segment_domainText_whole (g : Segmenter) (items : List CodeItem) :
    (∀ i ∈ items, Extracted i → ∃ s ∈ g.segment (domainText items), i.render <:+: s) ∧
    ((∀ i ∈ items, Extracted i) → ∃ groups : List (List CodeItem), groups.flatten = items ∧
      (∀ group ∈ groups, group ≠ []) ∧
      g.segment (domainText items) = g.segmentsOf (groups.map (·.map (·.render)))) := by
  refine ⟨fun i hi hextracted => ?_, fun hall => ?_⟩
  · refine g.exists_segment_of_paragraph ?_
    rw [paragraphs_domainText, List.mem_flatMap]
    exact ⟨i, hi, by rw [hextracted.paragraphs_render]; exact List.mem_singleton_self _⟩
  · obtain ⟨groups, hflat, hgroups, hsegment, _⟩ := g.segment_eq (domainText items)
    have hparagraphs : paragraphs (domainText items) = items.map (·.render) := by
      rw [paragraphs_domainText, List.map_eq_flatMap]
      exact List.flatMap_congr fun i hi => (hall i hi).paragraphs_render
    rw [hparagraphs] at hflat
    obtain ⟨parts, hparts, rfl⟩ := exists_groups hflat
    refine ⟨parts, hparts, fun part hpart hempty => ?_, hsegment⟩
    refine hgroups _ (List.mem_map_of_mem hpart) ?_
    rw [hempty]
    rfl

/-- A source file with two documented items. -/
def keySource : String :=
  "/// Derive the master key.\n/// Use it once.\npub fn derive() -> Key \x7b\n\x7d\n\n" ++
  "/// Forget it.\npub fn forget(key: Key);\n"

def keyItems : List CodeItem := CodeItem.ofSource ⟨[]⟩ keySource.toList "vault/src/lib.rs"

theorem segment_domainText_whole_keys :
    keyItems.map (·.render) = ["Derive the master key.\nUse it once.\npub fn derive() -> Key".toList,
      "Forget it.\npub fn forget(key: Key)".toList] ∧
    (∀ i ∈ keyItems, Extracted i) ∧
    (∀ i ∈ keyItems, ∃ s ∈ (⟨10, 5⟩ : Segmenter).segment (domainText keyItems), i.render <:+: s) ∧
    ∃ groups : List (List CodeItem), groups.flatten = keyItems ∧ (∀ group ∈ groups, group ≠ []) ∧
      (⟨10, 5⟩ : Segmenter).segment (domainText keyItems)
        = (⟨10, 5⟩ : Segmenter).segmentsOf (groups.map (·.map (·.render))) := by
  have hall : ∀ i ∈ keyItems, Extracted i := fun i hi => ⟨_, _, _, hi⟩
  obtain ⟨hwhole, hgroups⟩ := segment_domainText_whole ⟨10, 5⟩ keyItems
  exact ⟨by decide +kernel, hall, fun i hi => hwhole i hi (hall i hi), hgroups hall⟩

end CodeExtractor

end Grounded
