import Mathlib.Data.List.Forall2
import Grounded.Source.CodeItem

/-!
# Items in the order of their lines

The reader of a source file keeps the doc lines that no declaration has claimed. Each item that it gives is
made of the lines since the item before it, so the lines fall into stretches, one for each item and in
their order, and a stretch alone gives its item.
-/

namespace Grounded.CodeItem

open Text

/-- Consecutive stretches of the lines give the items, one each and in order. -/
def FromLines (file domain : String) (lines : List CodeLine) (items : List CodeItem) : Prop :=
  ∃ cuts : List (List CodeLine), cuts.flatten <+: lines ∧
    List.Forall₂ (fun cut i => ∃ emitted, ofLines file domain [] emitted cut = [i]) cuts items

namespace FromLines

variable {file domain : String} {cut lines : List CodeLine} {i : CodeItem} {items : List CodeItem}

theorem nil (file domain : String) (lines : List CodeLine) : FromLines file domain lines [] :=
  ⟨[], List.nil_prefix, .nil⟩

theorem cons {emitted : Bool} (hcut : ofLines file domain [] emitted cut = [i])
    (h : FromLines file domain lines items) : FromLines file domain (cut ++ lines) (i :: items) := by
  obtain ⟨cuts, hprefix, hitems⟩ := h
  refine ⟨cut :: cuts, ?_, .cons ⟨emitted, hcut⟩ hitems⟩
  rw [List.flatten_cons]
  exact (List.prefix_append_right_inj cut).mpr hprefix

/-- The last item may leave lines over. -/
theorem single {emitted : Bool} (hcut : ofLines file domain [] emitted cut = [i]) :
    FromLines file domain (cut ++ lines) [i] := cons hcut (nil file domain lines)

end FromLines

/--
The reader has come through the lines `since` after its last item. They give no item by themselves and
leave the doc lines `pending`.
-/
def Leaves (file domain : String) (emitted : Bool) (since : List CodeLine) (pending : List (List Char)) :
    Prop :=
  ∀ rest, ofLines file domain [] emitted (since ++ rest) = ofLines file domain pending emitted rest

/-- One more line, if it gives no item. -/
theorem Leaves.step {file domain : String} {emitted : Bool} {since : List CodeLine}
    {pending pending' : List (List Char)} (h : Leaves file domain emitted since pending) {line : CodeLine}
    (hline : ∀ rest, ofLines file domain pending emitted (line :: rest)
      = ofLines file domain pending' emitted rest) :
    Leaves file domain emitted (since ++ [line]) pending' := by
  intro rest
  rw [List.append_assoc, List.singleton_append, h, hline]

/-- Docs that stay unclaimed to the end are an item, made of what was read since the last one. -/
theorem Leaves.fromLines_end {file domain : String} {emitted : Bool} {since : List CodeLine}
    {pending : List (List Char)} (h : Leaves file domain emitted since pending) (rest : List CodeLine) :
    FromLines file domain (since ++ rest)
      (if pending.isEmpty then [] else [⟨joinDoc pending, [], domain, file⟩]) := by
  have hend := h []
  rw [List.append_nil, ofLines] at hend
  split
  · exact .nil file domain _
  · rename_i hpending
    rw [if_neg hpending] at hend
    exact .single hend

/-- An item that a line gives is made of this line and of what was read since the last one. -/
theorem Leaves.fromLines_cons {file domain : String} {emitted : Bool} {since : List CodeLine}
    {pending : List (List Char)} (h : Leaves file domain emitted since pending) {line : CodeLine}
    {i : CodeItem} (hline : ∀ rest, ofLines file domain pending emitted (line :: rest)
      = i :: ofLines file domain [] true rest) {lines : List CodeLine} {items : List CodeItem}
    (hrest : FromLines file domain lines items) :
    FromLines file domain (since ++ line :: lines) (i :: items) := by
  have hcut : ofLines file domain [] emitted (since ++ [line]) = [i] := by
    rw [h, hline]
    rfl
  rw [List.append_cons]
  exact .cons hcut hrest

theorem leaves_nil (file domain : String) (emitted : Bool) : Leaves file domain emitted [] [] :=
  fun _ => rfl

/-- **The reader gives its items in the order of the lines.** -/
theorem Leaves.fromLines {file domain : String} {emitted : Bool} {since : List CodeLine}
    {pending : List (List Char)} (h : Leaves file domain emitted since pending) (lines : List CodeLine) :
    FromLines file domain (since ++ lines) (ofLines file domain pending emitted lines) := by
  -- a line that gives no item is one more since the last item
  have hkeep : ∀ {emitted since pending line lines} (pending' : List (List Char)),
      Leaves file domain emitted since pending →
      (∀ rest, ofLines file domain pending emitted (line :: rest)
        = ofLines file domain pending' emitted rest) →
      (∀ {emitted since pending}, Leaves file domain emitted since pending →
        FromLines file domain (since ++ lines) (ofLines file domain pending emitted lines)) →
      FromLines file domain (since ++ line :: lines)
        (ofLines file domain pending emitted (line :: lines)) := by
    intro emitted since pending line lines pending' h hline ih
    rw [hline, List.append_cons]
    exact ih (h.step hline)
  induction lines generalizing emitted since pending with
  | nil =>
      rw [ofLines]
      exact h.fromLines_end []
  | cons line lines ih =>
      cases line with
      | doc text => exact hkeep _ h (fun _ => by rw [ofLines]) ih
      | neutral => exact hkeep _ h (fun _ => by rw [ofLines]) ih
      | tests =>
          rw [ofLines]
          exact h.fromLines_end _
      | declaration signature =>
          by_cases hcount : (!pending.isEmpty || decide (shortSignature < signature.length)) = true
          · have hline : ∀ rest, ofLines file domain pending emitted (.declaration signature :: rest)
                = ⟨joinDoc pending, signature, domain, file⟩ :: ofLines file domain [] true rest :=
              fun _ => by rw [ofLines, if_pos hcount]
            rw [hline]
            exact h.fromLines_cons hline (ih (leaves_nil file domain true))
          · exact hkeep _ h (fun _ => by rw [ofLines, if_neg hcount]) ih
      | other =>
          by_cases hcount : (!pending.isEmpty && !emitted) = true
          · have hline : ∀ rest, ofLines file domain pending emitted (.other :: rest)
                = ⟨joinDoc pending, [], domain, file⟩ :: ofLines file domain [] true rest :=
              fun _ => by rw [ofLines, if_pos hcount]
            rw [hline]
            exact h.fromLines_cons hline (ih (leaves_nil file domain true))
          · exact hkeep _ h (fun _ => by rw [ofLines, if_neg hcount]) ih

theorem fromLines_ofSource (domains : DomainTable) (content : List Char) (file : String) :
    FromLines file (domains.classify file) ((lines content).map CodeLine.ofLine)
      (ofSource domains content file) := (leaves_nil file _ false).fromLines _

/-- **An item carries its file and the domain of the file.** -/
theorem of_mem_ofLines {file domain : String} {pending : List (List Char)} {emitted : Bool}
    {lines : List CodeLine} {i : CodeItem} (h : i ∈ ofLines file domain pending emitted lines) :
    i.file = file ∧ i.domain = domain := by
  have hends : ∀ {pending : List (List Char)},
      i ∈ (if pending.isEmpty then [] else [⟨joinDoc pending, [], domain, file⟩] : List CodeItem) →
      i.file = file ∧ i.domain = domain := by
    intro pending hi
    split at hi
    · cases hi
    · rw [List.mem_singleton.mp hi]
      exact ⟨rfl, rfl⟩
  have hitem : ∀ {doc signature : List Char} {rest : List CodeItem},
      i ∈ ⟨doc, signature, domain, file⟩ :: rest →
      (i ∈ rest → i.file = file ∧ i.domain = domain) → i.file = file ∧ i.domain = domain := by
    intro doc signature rest hi hrest
    rcases List.mem_cons.mp hi with rfl | hi
    · exact ⟨rfl, rfl⟩
    · exact hrest hi
  induction lines generalizing pending emitted with
  | nil =>
      rw [ofLines] at h
      exact hends h
  | cons line lines ih =>
      cases line with
      | doc text => rw [ofLines] at h; exact ih h
      | neutral => rw [ofLines] at h; exact ih h
      | tests => rw [ofLines] at h; exact hends h
      | declaration signature =>
          rw [ofLines] at h
          split at h
          · exact hitem h ih
          · exact ih h
      | other =>
          rw [ofLines] at h
          split at h
          · exact hitem h ih
          · exact ih h

end Grounded.CodeItem
