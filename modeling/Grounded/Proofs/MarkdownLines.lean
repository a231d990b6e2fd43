import Grounded.Proofs.MarkdownOutline

/-!
# Documents line by line

The blocks of a document are found in a scan that looks for a heading wherever a line begins. Reading the
lines one by one gives the same blocks: `title?` tells the headings among them by the line alone, and the lines
between two headings make a body. So bodies and headings take turns, and nothing that a document shows is lost
or added, if neither blanks nor number signs are counted.
-/

namespace Grounded

open Text

namespace Markdown

/-! ## Reading lines -/

/--
The title of a heading line: behind one to three number signs and a space or tab there is more. Spaces and tabs
around the title are left out, then the number signs around it, then all blanks.
-/
def title? (line : List Char) : Option (List Char) :=
  let level := (line.takeWhile (· == '#')).length
  match line.dropWhile (· == '#') with
  | gap :: c :: rest =>
    if 1 ≤ level ∧ level ≤ 3 ∧ isGap gap then
      some (trim (stripBoth (· == '#') (stripBoth isGap (gap :: c :: rest))))
    else none
  | _ => none

/-- The blocks of lines, with the lines since the last heading put by. -/
def blocksOfLines (since : List (List Char)) : List (List Char) → List Block
  | [] => [.body (trim (joinWith ['\n'] since))]
  | line :: lines =>
    match title? line with
    | some title => .body (trim (joinWith ['\n'] since)) :: .heading title :: blocksOfLines [] lines
    | none => blocksOfLines (since ++ [line]) lines

theorem title?_eq_some_iff {line title : List Char} : title? line = some title ↔ Heading line title := by
  rw [title?]
  constructor
  · intro h
    split at h
    · rename_i gap c rest hrest
      obtain ⟨⟨hpos, hle, hgap⟩, htitle⟩ := Option.ite_none_right_eq_some.mp h
      have hline : line = List.replicate (line.takeWhile (· == '#')).length '#' ++ gap :: c :: rest := by
        rw [← takeWhile_eq_replicate, ← hrest, List.takeWhile_append_dropWhile]
      rw [hline, ← Option.some.inj htitle]
      exact .intro hpos hle hgap
    · cases h
  · rintro ⟨hpos, hle, hgap⟩
    rename_i n gap c rest
    obtain ⟨htake, hdrop⟩ := takeWhile_signs hgap n (c :: rest)
    rw [htake, hdrop, List.length_replicate]
    exact if_pos ⟨hpos, hle, hgap⟩

theorem title?_eq_none_iff {line : List Char} : title? line = none ↔ ∀ title, ¬ Heading line title := by
  rw [Option.eq_none_iff_forall_ne_some]
  exact forall_congr' fun title => not_congr title?_eq_some_iff

/-! ## Lines of a part -/

theorem blocksOfLines_append {body : List (List Char)} (h : ∀ line ∈ body, title? line = none)
    (since lines : List (List Char)) :
    blocksOfLines since (body ++ lines) = blocksOfLines (since ++ body) lines := by
  induction body generalizing since with
  | nil => rw [List.nil_append, List.append_nil]
  | cons line body ih =>
      obtain ⟨hline, hbody⟩ := List.forall_mem_cons.mp h
      rw [List.cons_append, blocksOfLines, hline]
      dsimp only
      rw [ih hbody, List.append_assoc, List.singleton_append]

/-- The lines of parts, each with its heading, give the blocks of the parts. -/
theorem blocksOfLines_parts {parts : List Part} (h : ∀ p ∈ parts, p.Headed ∧ p.Plain)
    (since : List (List Char)) : blocksOfLines since (parts.flatMap Part.all)
      = .body (trim (joinWith ['\n'] since)) :: parts.flatMap Part.blocks := by
  induction parts generalizing since with
  | nil => rfl
  | cons p parts ih =>
      obtain ⟨⟨⟨line, hline, hheading⟩, hplain⟩, hrest⟩ := List.forall_mem_cons.mp h
      have hbody : ∀ l ∈ p.lines, title? l = none := fun l hl => title?_eq_none_iff.mpr (hplain l hl)
      rw [List.flatMap_cons, List.flatMap_cons, Part.all_of_line hline, List.cons_append, blocksOfLines,
        title?_eq_some_iff.mpr hheading]
      dsimp only
      rw [blocksOfLines_append hbody, List.nil_append, ih hrest, Part.blocks_of_line hline]
      rfl

/-- **The scan finds what is read line by line.** -/
theorem blocks_eq_blocksOfLines (content : List Char) :
    blocks content = blocksOfLines [] (splitLines content) := by
  obtain ⟨parts, houtline, hblocks⟩ := exists_outline [] content
  obtain ⟨first, rest, rfl, hline, _, hrest⟩ := houtline.first
  obtain ⟨hfirst, hplain⟩ := List.forall_mem_cons.mp houtline.plain
  have hbody : ∀ l ∈ first.lines, title? l = none := fun l hl => title?_eq_none_iff.mpr (hfirst l hl)
  rw [hblocks, ← houtline.whole, List.flatMap_cons, List.flatMap_cons, Part.all_of_first hline,
    Part.blocks_of_first hline, blocksOfLines_append hbody, List.nil_append,
    blocksOfLines_parts fun p hp => ⟨hrest p hp, hplain p hp⟩]
  rfl

/-! ## Bodies and headings in turn -/

/-- A body is first and last, and a heading stands between each two bodies. -/
inductive InTurn : List Block → Prop where
  | last (body : List Char) : InTurn [.body body]
  | next (body title : List Char) {rest : List Block} : InTurn rest →
      InTurn (.body body :: .heading title :: rest)

theorem inTurn_blocksOfLines (since lines : List (List Char)) : InTurn (blocksOfLines since lines) := by
  induction lines generalizing since with
  | nil => exact .last _
  | cons line lines ih =>
      rw [blocksOfLines]
      split
      · exact .next _ _ (ih [])
      · exact ih _

/-! ## What a document shows -/

/-- Blanks and number signs may get lost around bodies and titles. -/
def isShown (c : Char) : Bool := !isBlank c && c != '#'

theorem not_isShown_of_isBlank {c : Char} (h : isBlank c = true) : isShown c = false := by
  rw [isShown, h]
  rfl

theorem isBlank_of_isGap {c : Char} (h : isGap c = true) : isBlank c = true := by
  rw [isGap, Bool.or_eq_true, beq_iff_eq, beq_iff_eq] at h
  rcases h with rfl | rfl <;> decide

theorem not_isShown_of_sign {c : Char} (h : (c == '#') = true) : isShown c = false := by
  rw [eq_of_beq h]
  decide

theorem filter_dropWhile {p q : Char → Bool} (h : ∀ c, p c = true → q c = false) (s : List Char) :
    (s.dropWhile p).filter q = s.filter q := by
  have hnone : (s.takeWhile p).filter q = [] := by
    rw [List.filter_eq_nil_iff]
    intro c hc
    rw [h c (List.mem_takeWhile_imp hc)]
    decide
  conv => rhs; rw [← List.takeWhile_append_dropWhile (p := p) (l := s)]
  rw [List.filter_append, hnone, List.nil_append]

/-- Stripping characters that do not count leaves what counts. -/
theorem filter_stripBoth {p q : Char → Bool} (h : ∀ c, p c = true → q c = false) (s : List Char) :
    (stripBoth p s).filter q = s.filter q := by
  rw [stripBoth, List.filter_reverse, filter_dropWhile h, List.filter_reverse, List.reverse_reverse,
    filter_dropWhile h]

theorem filter_trim (s : List Char) : (trim s).filter isShown = s.filter isShown :=
  filter_stripBoth (fun _ => not_isShown_of_isBlank) s

theorem filter_joinWith (lines : List (List Char)) :
    (joinWith ['\n'] lines).filter isShown = lines.flatMap (·.filter isShown) := by
  induction lines with
  | nil => rfl
  | cons line lines ih =>
      cases lines with
      | nil => rw [joinWith, List.flatMap_singleton]
      | cons next lines =>
          rw [joinWith_cons, List.filter_append, List.filter_cons_of_neg (by decide), ih]
          rfl

/-- A heading shows its title. -/
theorem Heading.filter_eq {line title : List Char} (h : Heading line title) :
    title.filter isShown = line.filter isShown := by
  cases h
  rename_i n gap c rest _ _ hgap
  have hsigns : (List.replicate n '#').filter isShown = [] := by
    rw [List.filter_eq_nil_iff]
    intro d hd
    rw [List.eq_of_mem_replicate hd]
    decide
  rw [label, filter_trim, filter_stripBoth fun _ => not_isShown_of_sign,
    filter_stripBoth fun _ h => not_isShown_of_isBlank (isBlank_of_isGap h), List.filter_append, hsigns,
    List.nil_append]

end Markdown

/-- The text of a block. -/
def Block.text : Block → List Char
  | .heading text => text
  | .body text => text

namespace Markdown

theorem filter_blocksOfLines (since lines : List (List Char)) :
    ((blocksOfLines since lines).flatMap Block.text).filter isShown
      = (since ++ lines).flatMap (·.filter isShown) := by
  induction lines generalizing since with
  | nil =>
      rw [blocksOfLines, List.flatMap_singleton, Block.text, filter_trim, filter_joinWith,
        List.append_nil]
  | cons line lines ih =>
      rw [blocksOfLines]
      split
      · rename_i title htitle
        have hline := (title?_eq_some_iff.mp htitle).filter_eq
        rw [List.flatMap_cons, List.flatMap_cons, Block.text, Block.text, List.filter_append,
          List.filter_append, filter_trim, filter_joinWith, hline, ih [], List.nil_append,
          List.flatMap_append, List.flatMap_cons]
      · rw [ih, List.append_assoc, List.singleton_append]

/--
**A document is read line by line.** Its blocks are those of its lines: the heading lines, each by its title,
and between them the bodies, each the trimmed text of the lines since the last heading. Bodies and headings
take turns, a body first and last. Together they show what the document shows, in its order.
-/
theorem blocks_by_line (content : List Char) :
    blocks content = blocksOfLines [] (splitLines content) ∧ InTurn (blocks content) ∧
      ((blocks content).flatMap Block.text).filter isShown = content.filter isShown := by
  have hblocks := blocks_eq_blocksOfLines content
  refine ⟨hblocks, ?_, ?_⟩
  · rw [hblocks]
    exact inTurn_blocksOfLines [] _
  · rw [hblocks, filter_blocksOfLines, List.nil_append, ← filter_joinWith, splitLines,
      joinWith_splitOn]

-- a gap and one more character are enough, and the title may be empty then; a fourth sign is too much
example : blocks "# \t\n#### a\n## b #\r\nc".toList
    = [.body [], .heading [], .body "#### a".toList, .heading "b #".toList, .body ['c']] := by cbv

end Markdown

end Grounded
