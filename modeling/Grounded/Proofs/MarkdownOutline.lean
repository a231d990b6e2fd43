import Grounded.Proofs.SectionFold
import Grounded.Proofs.SegmentParagraphs
import Grounded.Proofs.TextLines
import Grounded.Source.Markdown

/-!
# Documents by their headings

A document is scanned character by character, with the text since the last heading put by. Here it is read
by lines: `Heading` says which lines are headings and `Outline` cuts the lines of a document at them, so
that each part has its heading and the lines below it. The scan finds the blocks of these parts, and so
the chunks of a document are the long segments of its parts, each filed under the heading of its part.
-/

namespace Grounded.Markdown

open Text

/-! ## Heading lines -/

/--
The line is a heading with that title: one to three number signs, a space or tab, and more. The title is
the label of all that stands behind the number signs.
-/
inductive Heading : List Char → List Char → Prop where
  | intro {n : Nat} {gap c : Char} {rest : List Char} : 1 ≤ n → n ≤ 3 → isGap gap = true →
      Heading (List.replicate n '#' ++ gap :: c :: rest) (label (gap :: c :: rest))

/-- What comes after a line: nothing, or a line feed and other lines. -/
def LineEnd (tail : List Char) : Prop := tail = [] ∨ ∃ rest, tail = '\n' :: rest

theorem takeWhile_line {line tail : List Char} (hline : '\n' ∉ line) (htail : LineEnd tail) :
    (line ++ tail).takeWhile (· != '\n') = line ∧ (line ++ tail).dropWhile (· != '\n') = tail := by
  have hall : ∀ c ∈ line, (c != '\n') = true := by
    intro c hc
    rw [bne_iff_ne]
    rintro rfl
    exact hline hc
  rw [List.takeWhile_append_of_pos hall, List.dropWhile_append_of_pos hall]
  rcases htail with rfl | ⟨rest, rfl⟩
  · exact ⟨List.append_nil line, rfl⟩
  · rw [List.takeWhile_cons_of_neg (by decide), List.dropWhile_cons_of_neg (by decide), List.append_nil]
    exact ⟨rfl, rfl⟩

theorem ne_sign_of_isGap {gap : Char} (h : isGap gap = true) : ¬ (gap == '#') = true := by
  rw [beq_iff_eq]
  rintro rfl
  exact absurd h (by decide)

theorem takeWhile_signs {gap : Char} (hgap : isGap gap = true) (n : Nat) (rest : List Char) :
    (List.replicate n '#' ++ gap :: rest).takeWhile (· == '#') = List.replicate n '#' ∧
      (List.replicate n '#' ++ gap :: rest).dropWhile (· == '#') = gap :: rest := by
  have hall : ∀ c ∈ List.replicate n '#', (c == '#') = true := by
    intro c hc
    rw [List.eq_of_mem_replicate hc]
    decide
  rw [List.takeWhile_append_of_pos hall, List.dropWhile_append_of_pos hall,
    List.takeWhile_cons_of_neg (p := (· == '#')) (ne_sign_of_isGap hgap),
    List.dropWhile_cons_of_neg (p := (· == '#')) (ne_sign_of_isGap hgap), List.append_nil]
  exact ⟨rfl, rfl⟩

theorem takeWhile_eq_replicate (s : List Char) :
    s.takeWhile (· == '#') = List.replicate (s.takeWhile (· == '#')).length '#' :=
  List.eq_replicate_of_mem fun _ hc => eq_of_beq (List.mem_takeWhile_imp (p := (· == '#')) hc)

/-- A text in front of which a heading is read. -/
theorem heading?_signs {n : Nat} (hpos : 1 ≤ n) (hle : n ≤ 3) {gap : Char} (hgap : isGap gap = true)
    {c : Char} (hc : c ≠ '\n') (rest : List Char) :
    heading? (List.replicate n '#' ++ gap :: c :: rest)
      = some (label (gap :: c :: rest.takeWhile (· != '\n')), rest.dropWhile (· != '\n')) := by
  have hlevel : ¬ (decide (n = 0) || decide (3 < n)) = true := by
    rw [Bool.or_eq_true, decide_eq_true_eq, decide_eq_true_eq]
    omega
  have hrest : (isGap gap && c != '\n') = true := by
    rw [hgap, Bool.true_and, bne_iff_ne]
    exact hc
  rw [heading?, (takeWhile_signs hgap n (c :: rest)).1, List.length_replicate, if_neg hlevel,
    List.drop_left' List.length_replicate]
  exact if_pos hrest

theorem of_heading? {s title after : List Char} (h : heading? s = some (title, after)) :
    ∃ n gap c rest, 1 ≤ n ∧ n ≤ 3 ∧ isGap gap = true ∧ c ≠ '\n' ∧
      s = List.replicate n '#' ++ gap :: c :: rest := by
  rw [heading?] at h
  split at h
  · cases h
  · rename_i hlevel
    rw [Bool.or_eq_true, decide_eq_true_eq, decide_eq_true_eq, not_or] at hlevel
    split at h
    · rename_i gap c rest hdrop
      split at h
      · rename_i hgap
        rw [Bool.and_eq_true, bne_iff_ne] at hgap
        refine ⟨(s.takeWhile (· == '#')).length, gap, c, rest, by omega, by omega, hgap.1, hgap.2, ?_⟩
        rw [← hdrop, ← takeWhile_eq_replicate]
        conv => lhs; rw [← List.take_append_drop (s.takeWhile (· == '#')).length s]
        rw [← List.prefix_iff_eq_take.mp (List.takeWhile_prefix _)]
      · cases h
    · cases h

/-- **A heading is read off its line,** and the end of the line is left. -/
theorem heading?_of_heading {line title tail : List Char} (h : Heading line title)
    (hline : '\n' ∉ line) (htail : LineEnd tail) : heading? (line ++ tail) = some (title, tail) := by
  obtain ⟨hpos, hle, hgap⟩ := h
  rename_i n gap c rest
  have hc : c ≠ '\n' := by
    rintro rfl
    exact hline (by simp)
  have hrest : '\n' ∉ rest := fun hmem => hline (by simp [hmem])
  obtain ⟨htake, hdrop⟩ := takeWhile_line hrest htail
  rw [List.append_assoc, List.cons_append, List.cons_append, heading?_signs hpos hle hgap hc, htake,
    hdrop]

/-- On other lines no heading is read. -/
theorem heading?_of_not_heading {line tail : List Char} (h : ∀ title, ¬ Heading line title)
    (hline : '\n' ∉ line) (htail : LineEnd tail) : heading? (line ++ tail) = none := by
  cases hread : heading? (line ++ tail) with
  | none => rfl
  | some found =>
      obtain ⟨n, gap, c, rest, hpos, hle, hgap, hc, heq⟩ := of_heading? hread
      have hgapLine : (gap != '\n') = true := by
        rw [bne_iff_ne]
        rintro rfl
        exact absurd hgap (by decide)
      have hfirst : line = List.replicate n '#' ++ gap :: c :: rest.takeWhile (· != '\n') := by
        rw [← (takeWhile_line hline htail).1, heq, List.takeWhile_append_of_pos,
          List.takeWhile_cons_of_pos (p := (· != '\n')) hgapLine,
          List.takeWhile_cons_of_pos (p := (· != '\n')) (bne_iff_ne.mpr hc)]
        intro d hd
        rw [List.eq_of_mem_replicate hd]
        decide
      exact absurd (hfirst ▸ Heading.intro hpos hle hgap) (h _)

/-! ## Documents by their lines -/

/-- A part of a document: its heading line, which the first part has not, its title, and the lines below. -/
structure Part where
  line : Option (List Char)
  title : List Char
  lines : List (List Char)

namespace Part

/-- All lines of the part. -/
def all (p : Part) : List (List Char) := p.line.toList ++ p.lines

/-- The text below the heading. -/
def text (p : Part) : List Char := joinWith ['\n'] p.lines

/-- The part begins with a heading of its title. -/
def Headed (p : Part) : Prop := ∃ line, p.line = some line ∧ Heading line p.title

/-- No line below is a heading. -/
def Plain (p : Part) : Prop := ∀ line ∈ p.lines, ∀ title, ¬ Heading line title

/-- The blocks that are to be found in the part. -/
def blocks (p : Part) : List Block :=
  (p.line.map fun _ => Block.heading p.title).toList ++ [.body (trim p.text)]

theorem all_of_first {p : Part} (h : p.line = none) : p.all = p.lines := by
  rw [all, h]
  rfl

theorem blocks_of_first {p : Part} (h : p.line = none) : p.blocks = [.body (trim p.text)] := by
  rw [blocks, h]
  rfl

theorem all_of_line {p : Part} {line : List Char} (h : p.line = some line) : p.all = line :: p.lines := by
  rw [all, h]
  rfl

theorem blocks_of_line {p : Part} {line : List Char} (h : p.line = some line) :
    p.blocks = [.heading p.title, .body (trim p.text)] := by
  rw [blocks, h]
  rfl

end Part

/-- The lines of a document cut at its headings. Only the first part has none: its title is given. -/
structure Outline (defaultHeading : List Char) (lines : List (List Char)) (parts : List Part) : Prop where
  whole : parts.flatMap Part.all = lines
  first : ∃ p rest, parts = p :: rest ∧ p.line = none ∧ p.title = defaultHeading ∧ ∀ q ∈ rest, q.Headed
  plain : ∀ p ∈ parts, p.Plain

/-! ## The scan, line by line -/

theorem scan_step {lineStart : Bool} {c : Char} {rest : List Char}
    (h : lineStart = true → heading? (c :: rest) = none) (before : List Char) :
    scan before lineStart (c :: rest) = scan (c :: before) (c == '\n') rest := by
  have hnone : (if lineStart then heading? (c :: rest) else none) = none := by
    by_cases hstart : lineStart = true
    · rw [if_pos hstart, h hstart]
    · rw [if_neg hstart]
  rw [scan]
  split
  · rename_i title after hsome
    rw [hnone] at hsome
    cases hsome
  · rfl

theorem of_not_mem_cons {c : Char} {line : List Char} (h : '\n' ∉ c :: line) :
    (c == '\n') = false ∧ '\n' ∉ line := by
  rw [List.mem_cons, not_or] at h
  exact ⟨beq_eq_false_iff_ne.mpr (Ne.symm h.1), h.2⟩

theorem scan_within {line : List Char} (hline : '\n' ∉ line) (before tail : List Char) :
    scan before false (line ++ tail) = scan (line.reverse ++ before) false tail := by
  induction line generalizing before with
  | nil => rfl
  | cons c line ih =>
      obtain ⟨hc, hrest⟩ := of_not_mem_cons hline
      rw [List.cons_append, scan_step (fun h => by cases h), hc, ih hrest, List.reverse_cons,
        List.append_assoc]
      rfl

/-- A heading closes the body in front of it. -/
theorem scan_heading {line title tail : List Char} (h : Heading line title) (hline : '\n' ∉ line)
    (htail : LineEnd tail) (before : List Char) : scan before true (line ++ tail)
      = .body (trim before.reverse) :: .heading title :: scan [] false tail := by
  have hread := heading?_of_heading h hline htail
  obtain ⟨c, rest, hne⟩ : ∃ c rest, line ++ tail = c :: rest := by
    cases h
    rename_i n gap c rest _ _ _
    exact List.exists_cons_of_ne_nil (List.append_ne_nil_of_left_ne_nil
      (List.append_ne_nil_of_right_ne_nil _ (List.cons_ne_nil _ _)) _)
  rw [hne] at hread ⊢
  rw [scan]
  split
  · rename_i found after hsome
    rw [if_pos rfl, hread] at hsome
    obtain ⟨rfl, rfl⟩ := Prod.mk.inj (Option.some.inj hsome)
    rfl
  · rename_i hnone
    rw [if_pos rfl, hread] at hnone
    cases hnone

/-- Any other line goes to the body, with the line feed behind it. -/
theorem scan_plain {line : List Char} (h : ∀ title, ¬ Heading line title) (hline : '\n' ∉ line)
    (before rest : List Char) : scan before true (line ++ '\n' :: rest)
      = scan ('\n' :: (line.reverse ++ before)) true rest := by
  have hread := heading?_of_not_heading h hline (.inr ⟨rest, rfl⟩)
  cases line with
  | nil => exact scan_step (fun _ => hread) before
  | cons c line =>
      obtain ⟨hc, hrest⟩ := of_not_mem_cons hline
      rw [List.cons_append] at hread ⊢
      rw [scan_step (fun _ => hread), hc, scan_within hrest, scan_step (fun h => by cases h),
        List.reverse_cons, List.append_assoc]
      rfl

/-- The last line ends the body and the document. -/
theorem scan_last {line : List Char} (h : ∀ title, ¬ Heading line title) (hline : '\n' ∉ line)
    (before : List Char) : scan before true line = [.body (trim (before.reverse ++ line))] := by
  have hread := heading?_of_not_heading h hline (.inl rfl)
  rw [List.append_nil] at hread
  cases line with
  | nil => rw [scan, List.append_nil]
  | cons c line =>
      obtain ⟨hc, hrest⟩ := of_not_mem_cons hline
      have hpass := scan_within hrest (c :: before) []
      rw [List.append_nil] at hpass
      rw [scan_step (fun _ => hread), hc, hpass, scan, List.reverse_append, List.reverse_reverse,
        List.reverse_cons, List.append_assoc]
      rfl

/-- Lines with a line feed behind each. -/
def ended (lines : List (List Char)) : List Char := lines.flatMap (· ++ ['\n'])

theorem joinWith_concat (lines : List (List Char)) (line : List Char) :
    joinWith ['\n'] (lines ++ [line]) = ended lines ++ line := by
  induction lines with
  | nil => rfl
  | cons first lines ih =>
      obtain ⟨next, rest, hne⟩ : ∃ next rest, lines ++ [line] = next :: rest :=
        List.exists_cons_of_ne_nil (List.append_ne_nil_of_right_ne_nil _ (List.cons_ne_nil _ _))
      rw [hne] at ih
      rw [List.cons_append, hne, ended, List.flatMap_cons, List.append_assoc _ _ line, ← ended, ← ih]
      rfl

/-- The last line feed is a blank, and so is what stands before the first line. -/
theorem trim_ended {lead : List Char} (hlead : ∀ c ∈ lead, isBlank c = true)
    (lines : List (List Char)) : trim (lead ++ ended lines) = trim (joinWith ['\n'] lines) := by
  rw [trim_blanks_append hlead]
  rcases List.eq_nil_or_concat lines with rfl | ⟨front, line, rfl⟩
  · rfl
  · have hended : ended (front ++ [line]) = joinWith ['\n'] (front ++ [line]) ++ ['\n'] := by
      rw [joinWith_concat, ended, List.flatMap_append, List.append_assoc]
      exact congrArg _ (List.append_nil _)
    rw [List.concat_eq_append, hended, trim_append_blanks _ blank_lineFeed]

/--
**The scan finds the blocks of the parts.** It stands at the start of a line, with some lines of the
part read; the body that it closes next is that of these and further lines up to a heading.
-/
theorem scan_lines {line : List Char} {lines : List (List Char)}
    (hlines : ∀ l ∈ line :: lines, '\n' ∉ l) (lead : List Char)
    (hlead : ∀ c ∈ lead, isBlank c = true) (read : List (List Char)) :
    ∃ (body : List (List Char)) (rest : List Part), line :: lines = body ++ rest.flatMap Part.all ∧
      (∀ l ∈ body, ∀ title, ¬ Heading l title) ∧ (∀ q ∈ rest, q.Headed ∧ q.Plain) ∧
      scan (lead ++ ended read).reverse true (joinWith ['\n'] (line :: lines))
        = .body (trim (joinWith ['\n'] (read ++ body))) :: rest.flatMap Part.blocks := by
  have hnone : ∀ l ∈ ([] : List (List Char)), ∀ title, ¬ Heading l title :=
    fun l hl => absurd hl List.not_mem_nil
  induction lines generalizing line lead read with
  | nil =>
      have hline := hlines line List.mem_cons_self
      by_cases h : ∃ title, Heading line title
      · obtain ⟨title, h⟩ := h
        have hscan := scan_heading h hline (.inl rfl) (lead ++ ended read).reverse
        rw [List.append_nil, List.reverse_reverse, trim_ended hlead, scan] at hscan
        refine ⟨[], [⟨some line, title, []⟩], rfl, hnone, ?_, ?_⟩
        · intro q hq
          rw [List.mem_singleton.mp hq]
          exact ⟨⟨line, rfl, h⟩, hnone⟩
        · rw [List.append_nil]
          exact hscan
      · have hplain : ∀ title, ¬ Heading line title := fun title ht => h ⟨title, ht⟩
        have hscan := scan_last hplain hline (lead ++ ended read).reverse
        rw [List.reverse_reverse, List.append_assoc, trim_blanks_append hlead, ← joinWith_concat]
          at hscan
        refine ⟨[line], [], rfl, ?_, fun q hq => absurd hq List.not_mem_nil, hscan⟩
        intro l hl
        rw [List.mem_singleton.mp hl]
        exact hplain
  | cons next lines ih =>
      obtain ⟨hline, hrest⟩ := List.forall_mem_cons.mp hlines
      by_cases h : ∃ title, Heading line title
      · -- another part begins; the line feed behind its heading stands before its first line
        obtain ⟨title, h⟩ := h
        obtain ⟨body, rest, hwhole, hbody, hparts, hscan⟩ := ih hrest ['\n'] blank_lineFeed []
        refine ⟨[], ⟨some line, title, body⟩ :: rest, ?_, hnone, ?_, ?_⟩
        · rw [hwhole]
          rfl
        · exact List.forall_mem_cons.mpr ⟨⟨⟨line, rfl, h⟩, hbody⟩, hparts⟩
        · have hclose := scan_heading h hline (.inr ⟨joinWith ['\n'] (next :: lines), rfl⟩)
            (lead ++ ended read).reverse
          rw [List.reverse_reverse, trim_ended hlead, scan_step (fun h => by cases h)] at hclose
          rw [List.append_nil, joinWith_cons]
          refine hclose.trans ?_
          rw [List.flatMap_cons]
          exact congrArg (fun blocks => Block.body _ :: Block.heading title :: blocks) hscan
      · have hplain : ∀ title, ¬ Heading line title := fun title ht => h ⟨title, ht⟩
        obtain ⟨body, rest, hwhole, hbody, hparts, hscan⟩ := ih hrest lead hlead (read ++ [line])
        refine ⟨line :: body, rest, by rw [hwhole]; rfl,
          List.forall_mem_cons.mpr ⟨hplain, hbody⟩, hparts, ?_⟩
        have hread : (lead ++ ended (read ++ [line])).reverse
            = '\n' :: (line.reverse ++ (lead ++ ended read).reverse) := by
          simp [ended]
        rw [hread, List.append_assoc] at hscan
        rw [joinWith_cons]
        exact (scan_plain hplain hline _ _).trans hscan

/-- The blocks of a document are those of its parts. -/
theorem exists_outline (defaultHeading content : List Char) :
    ∃ parts, Outline defaultHeading (splitLines content) parts ∧
      blocks content = parts.flatMap Part.blocks := by
  obtain ⟨line, lines, hsplit⟩ := List.exists_cons_of_ne_nil (splitOn_ne_nil '\n' content)
  have hlines : ∀ l ∈ line :: lines, '\n' ∉ l :=
    fun l hl => not_mem_of_mem_splitOn (hsplit ▸ hl)
  obtain ⟨body, rest, hwhole, hbody, hparts, hscan⟩ :=
    scan_lines hlines [] (fun c hc => absurd hc List.not_mem_nil) []
  refine ⟨⟨none, defaultHeading, body⟩ :: rest, ⟨?_, ?_, ?_⟩, ?_⟩
  · rw [splitLines, hsplit, hwhole]
    rfl
  · exact ⟨_, rest, rfl, rfl, rfl, fun q hq => (hparts q hq).1⟩
  · exact List.forall_mem_cons.mpr ⟨hbody, fun q hq => (hparts q hq).2⟩
  · rw [← hsplit, joinWith_splitOn] at hscan
    exact hscan

/-! ## Sections and chunks of the parts -/

/-- The section of a part, if there is any text below its heading. -/
def Part.section? (p : Part) : Option Section := SectionStream.pending? p.title p.text

theorem pending?_body (title text : List Char) :
    SectionStream.pending? title ([] ++ trim text ++ blankLine) = SectionStream.pending? title text := by
  have htrim : trim ([] ++ trim text ++ blankLine) = trim text := by
    have htrimmed := trimmed_trim text
    rw [List.nil_append, trim_append_blanks _ blank_blankLine, trim_of_last htrimmed.last,
      trimStart_of_head htrimmed.head]
  rw [SectionStream.pending?, SectionStream.pending?, htrim]

theorem collect_parts {rest : List Part} (hrest : ∀ q ∈ rest, q.Headed) (title text : List Char) :
    SectionStream.collect title [] (.body (trim text) :: rest.flatMap Part.blocks)
      = (SectionStream.pending? title text).toList ++ rest.flatMap (·.section?.toList) := by
  induction rest generalizing title text with
  | nil =>
      rw [List.flatMap_nil, List.flatMap_nil, SectionStream.collect, SectionStream.collect,
        pending?_body, List.append_nil]
  | cons q rest ih =>
      obtain ⟨⟨line, hline, _⟩, hrest⟩ := List.forall_mem_cons.mp hrest
      have hnext := ih hrest q.title q.text
      rw [List.flatMap_cons, List.flatMap_cons, Part.blocks_of_line hline, SectionStream.collect, List.cons_append,
        SectionStream.collect, pending?_body]
      exact congrArg _ hnext

/-- **The sections of a document are those of its parts,** in order. -/
theorem sections_outline {defaultHeading content : List Char} {parts : List Part}
    (h : Outline defaultHeading (splitLines content) parts)
    (hblocks : blocks content = parts.flatMap Part.blocks) :
    sections defaultHeading (blocks content) = parts.flatMap (·.section?.toList) := by
  obtain ⟨p, rest, rfl, hline, htitle, hrest⟩ := h.first
  have hcollect := collect_parts hrest p.title p.text
  rw [sections_eq, hblocks, List.flatMap_cons, List.flatMap_cons, Part.blocks_of_first hline, ← htitle]
  exact hcollect

/-- A part gives the chunks of its text. -/
theorem chunks_section? (g : Segmenter) (minChars : Nat) (source : String) (kind : ChunkKind) (p : Part) :
    p.section?.toList.flatMap (·.chunks g minChars source kind)
      = ((g.segment p.text).filter (minChars < ·.length)).map fun piece =>
          ⟨String.ofList piece, source, String.ofList p.title, kind⟩ :=
  SectionStream.chunks_pending? g minChars source kind p.title p.text

/--
**Every chunk is filed under the heading above its text.** The lines of a document are cut at its headings,
and the chunks are those segments of the text of each part that are long enough, part after part and
segment after segment, under the title of the part. The segments of a part come from groups of its own
paragraphs, overlap included, and each of these paragraphs stands whole in one of them.
-/
theorem Extractor.chunks_by_heading (e : Extractor) (content defaultHeading source : String) :
    ∃ parts, Outline defaultHeading.toList (splitLines content.toList) parts ∧
      e.chunks content defaultHeading source
        = parts.flatMap (fun p =>
            ((e.segmenter.segment p.text).filter (e.minChars < ·.length)).map fun piece =>
              ⟨String.ofList piece, source, String.ofList p.title, .design⟩) ∧
      (∀ c ∈ e.chunks content defaultHeading source,
        e.minChars < c.text.toList.length ∧ c.source = source ∧ c.kind = .design ∧
        ∃ p ∈ parts, c.heading = String.ofList p.title ∧ c.text.toList ∈ e.segmenter.segment p.text) ∧
      ∀ p ∈ parts,
        (∃ groups : List (List (List Char)), groups.flatten = tidy (betweenBreaks p.text) ∧
          (∀ group ∈ groups, group ≠ []) ∧
          e.segmenter.segment p.text = e.segmenter.segmentsOf groups) ∧
        ∀ paragraph ∈ tidy (betweenBreaks p.text),
          ∃ s ∈ e.segmenter.segment p.text, paragraph <:+: s := by
  obtain ⟨parts, houtline, hblocks⟩ := exists_outline defaultHeading.toList content.toList
  have hchunks : e.chunks content defaultHeading source
      = parts.flatMap (fun p =>
          ((e.segmenter.segment p.text).filter (e.minChars < ·.length)).map fun piece =>
            ⟨String.ofList piece, source, String.ofList p.title, .design⟩) := by
    rw [chunks, sections_outline houtline hblocks, chunkSections, List.flatMap_assoc]
    exact congrArg (List.flatMap · parts) (funext (chunks_section? _ _ _ _))
  refine ⟨parts, houtline, hchunks, ?_, ?_⟩
  · intro c hc
    rw [hchunks] at hc
    obtain ⟨p, hp, hc⟩ := List.mem_flatMap.mp hc
    obtain ⟨piece, hpiece, rfl⟩ := List.mem_map.mp hc
    obtain ⟨hmem, hlong⟩ := List.mem_filter.mp hpiece
    rw [decide_eq_true_eq] at hlong
    rw [String.toList_ofList]
    exact ⟨hlong, rfl, rfl, p, hp, rfl, hmem⟩
  · intro p _
    obtain ⟨groups, hflat, hgroups, hsegment, _⟩ := e.segmenter.segment_eq p.text
    rw [← paragraphs_eq]
    exact ⟨⟨groups, hflat, hgroups, hsegment⟩,
      fun paragraph h => e.segmenter.exists_segment_of_paragraph h⟩

end Grounded.Markdown
