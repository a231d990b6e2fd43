import Mathlib.Data.List.Chain
import Mathlib.Data.List.TakeWhile
import Grounded.Proofs.TemplateText

/-!
# Templates in parts

A template is literal stretches with placeholders between them. `Parted` says what such a division is, without
the renderer: put together again, the parts are the template; a placeholder is a word in double braces; no
stretch holds a whole placeholder, and no two stretches are neighbours. Every template can be divided in one
way only (`parted_iff`), and the renderer fills in the parts of that division one by one. So what stands where
is settled by the template before any value is known.

A division is the pieces of the template with the characters between two placeholders taken together. Both
directions rest on where a placeholder can begin: at its own first brace (`placeholder?_written`), and nowhere
in a stretch, not even across its end (`placeholder?_of_plain`).
-/

namespace Grounded

open Text

/-- A part of a template. -/
inductive TemplatePart where
  | stretch (text : List Char)
  | placeholder (name : List Char)
deriving DecidableEq, Repr

namespace TemplatePart

open Template

/-- The part as it stands in the template. -/
def written : TemplatePart → List Char
  | stretch text => text
  | placeholder name => '\x7b' :: '\x7b' :: name ++ ['\x7d', '\x7d']

/-- What stands for the part: a stretch stays, a placeholder has its value, or stays if it has none. -/
def filled (vars : Variables) : TemplatePart → List Char
  | stretch text => text
  | placeholder name => ((vars.lookup (String.ofList name)).map String.toList).getD
      (placeholder name).written

/-- The pieces that make up the part. -/
def pieces : TemplatePart → List TemplatePiece
  | stretch text => text.map .literal
  | placeholder name => [.placeholder name]

/-- Whether a part can stand before another one. Two stretches in a row are one stretch. -/
def Before : TemplatePart → TemplatePart → Prop
  | stretch _, stretch _ => False
  | _, _ => True

end TemplatePart

namespace Template

/-- The name of a placeholder is a word. -/
def Word (name : List Char) : Prop := name ≠ [] ∧ ∀ c ∈ name, isWord c = true

/-- The text holds no whole placeholder. -/
def Plain (text : List Char) : Prop :=
  ∀ name, Word name → ¬ (TemplatePart.placeholder name).written <:+: text

/-- The parts are a division of the template. -/
structure Parted (parts : List TemplatePart) (template : List Char) : Prop where
  whole : parts.flatMap TemplatePart.written = template
  words : ∀ name, .placeholder name ∈ parts → Word name
  plain : ∀ text, .stretch text ∈ parts → text ≠ [] ∧ Plain text
  apart : parts.IsChain TemplatePart.Before

variable {name rest s text : List Char} {parts : List TemplatePart} {part : TemplatePart}

/-! ## Where a placeholder begins -/

theorem not_mem_word (h : Word name) : '\x7b' ∉ name ∧ '\x7d' ∉ name :=
  ⟨fun hm => absurd (h.2 _ hm) (by decide), fun hm => absurd (h.2 _ hm) (by decide)⟩

theorem word_of_placeholder? (h : placeholder? s = some (name, rest)) : Word name := by
  rw [placeholder?] at h
  simp only [Option.bind_eq_bind, Option.bind_eq_some_iff] at h
  obtain ⟨inner, -, h⟩ := h
  split at h
  · cases h
  · rename_i hne
    obtain ⟨after, -, h⟩ := Option.bind_eq_some_iff.mp h
    cases h
    exact ⟨fun he => hne (List.isEmpty_iff.mpr he), fun c hc => List.mem_takeWhile_imp hc⟩

theorem placeholder?_written (h : Word name) (rest : List Char) :
    placeholder? ((TemplatePart.placeholder name).written ++ rest) = some (name, rest) := by
  have hopen : (TemplatePart.placeholder name).written ++ rest
      = ['\x7b', '\x7b'] ++ (name ++ (['\x7d', '\x7d'] ++ rest)) := by
    simp only [TemplatePart.written, List.cons_append, List.nil_append, List.append_assoc]
  have hclose : isWord '\x7d' = false := by decide
  have htake : (name ++ (['\x7d', '\x7d'] ++ rest)).takeWhile isWord = name := by
    rw [List.takeWhile_append_of_pos h.2, List.cons_append,
      List.takeWhile_cons_of_neg (by rw [hclose]; decide), List.append_nil]
  have hdrop : (name ++ (['\x7d', '\x7d'] ++ rest)).dropWhile isWord = ['\x7d', '\x7d'] ++ rest := by
    rw [List.dropWhile_append_of_pos h.2, List.cons_append,
      List.dropWhile_cons_of_neg (by rw [hclose]; decide)]
  rw [hopen, placeholder?, afterStart?_append]
  simp only [Option.bind_eq_bind, Option.bind_some]
  rw [htake, hdrop, if_neg (by rw [List.isEmpty_iff]; exact h.1), afterStart?_append, Option.bind_some]

/--
**No placeholder begins in a plain text,** if what follows the text is nothing or begins with two braces:
within a placeholder no second pair of braces opens.
-/
theorem placeholder?_of_plain {v : List Char} (hv : v ≠ [])
    (hplain : ∀ name, Word name → ¬ (TemplatePart.placeholder name).written <+: v)
    (hrest : rest = [] ∨ ['\x7b', '\x7b'] <+: rest) : placeholder? (v ++ rest) = none := by
  cases h : placeholder? (v ++ rest) with
  | none => rfl
  | some found =>
      obtain ⟨name, after⟩ := found
      have hword := word_of_placeholder? h
      have hw : '\x7b' :: '\x7b' :: name ++ ['\x7d', '\x7d'] ++ after = v ++ rest := of_placeholder? h
      obtain ⟨hopen, -⟩ := not_mem_word hword
      rcases List.append_eq_append_iff.mp hw with ⟨x, hx, -⟩ | ⟨x, hx, hr⟩
      · exact absurd ⟨x, hx.symm⟩ (hplain name hword)
      · -- the placeholder goes on in what follows, which then opens another one
        rcases hrest with rfl | ⟨tail, rfl⟩
        · obtain ⟨rfl, -⟩ := List.append_eq_nil_iff.mp hr.symm
          rw [List.append_nil] at hx
          exact absurd ⟨[], by rw [List.append_nil]; exact hx⟩ (hplain name hword)
        · cases x with
          | nil =>
              rw [List.append_nil] at hx
              exact absurd ⟨[], by rw [List.append_nil]; exact hx⟩ (hplain name hword)
          | cons c x =>
              obtain rfl : '\x7b' = c := (List.cons.inj hr).1
              match v, hv with
              | [_], _ =>
                  obtain ⟨d, name, rfl⟩ := List.exists_cons_of_ne_nil hword.1
                  obtain rfl : d :: name ++ ['\x7d', '\x7d'] = x :=
                    (List.cons.inj (List.cons.inj hx).2).2
                  obtain rfl : '\x7b' = d := (List.cons.inj (List.cons.inj hr).2).1
                  exact absurd List.mem_cons_self hopen
              | _ :: _ :: v, _ =>
                  have hinner : name ++ ['\x7d', '\x7d'] = v ++ '\x7b' :: x :=
                    (List.cons.inj (List.cons.inj hx).2).2
                  have hmem : '\x7b' ∈ name ++ ['\x7d', '\x7d'] := by
                    rw [hinner]
                    exact List.mem_append_right v List.mem_cons_self
                  rcases List.mem_append.mp hmem with hmem | hmem
                  · exact absurd hmem hopen
                  · exact absurd hmem (by decide)

/-! ## Parts of pieces -/

/-- A piece in front of parts. A character goes to the stretch that it stands before. -/
def push : TemplatePiece → List TemplatePart → List TemplatePart
  | .literal c, .stretch text :: parts => .stretch (c :: text) :: parts
  | .literal c, parts => .stretch [c] :: parts
  | .placeholder name, parts => .placeholder name :: parts

/-- The pieces with the characters between two placeholders taken together. -/
def group (ps : List TemplatePiece) : List TemplatePart := ps.foldr push []

theorem flatMap_pieces_push (p : TemplatePiece) (parts : List TemplatePart) :
    (push p parts).flatMap TemplatePart.pieces = p :: parts.flatMap TemplatePart.pieces := by
  cases p with
  | placeholder name => rfl
  | literal c => rcases parts with _ | ⟨text | name, parts⟩ <;> rfl

/-- Nothing of the pieces is lost in the parts. -/
theorem flatMap_pieces_group (ps : List TemplatePiece) :
    (group ps).flatMap TemplatePart.pieces = ps := by
  induction ps with
  | nil => rfl
  | cons p ps ih => rw [group, List.foldr_cons, flatMap_pieces_push, ← group, ih]

theorem before_stretch_iff (text text' : List Char) (part : TemplatePart) :
    TemplatePart.Before (.stretch text) part ↔ TemplatePart.Before (.stretch text') part := by
  cases part <;> rfl

theorem isChain_push (p : TemplatePiece) (h : parts.IsChain TemplatePart.Before) :
    (push p parts).IsChain TemplatePart.Before := by
  cases p with
  | placeholder name => exact h.cons fun _ _ => trivial
  | literal c =>
      rcases parts with _ | ⟨text | name, parts⟩
      · exact .singleton _
      · obtain ⟨hhead, htail⟩ := List.isChain_cons.mp h
        exact htail.cons fun part hpart => (before_stretch_iff text (c :: text) part).mp (hhead part hpart)
      · exact .cons_cons trivial h

theorem isChain_group (ps : List TemplatePiece) : (group ps).IsChain TemplatePart.Before := by
  induction ps with
  | nil => exact .nil
  | cons p ps ih => exact isChain_push p ih

theorem forall_stretch_push (p : TemplatePiece) (h : ∀ text, .stretch text ∈ parts → text ≠ []) :
    ∀ text, .stretch text ∈ push p parts → text ≠ [] := by
  intro text htext
  cases p with
  | placeholder name =>
      rcases List.mem_cons.mp htext with he | hmem
      · cases he
      · exact h text hmem
  | literal c =>
      rcases parts with _ | ⟨found | name, parts⟩ <;> rcases List.mem_cons.mp htext with he | hmem
      · cases he
        exact List.cons_ne_nil c []
      · cases hmem
      · cases he
        exact List.cons_ne_nil c found
      · exact h text (List.mem_cons_of_mem _ hmem)
      · cases he
        exact List.cons_ne_nil c []
      · exact h text hmem

theorem ne_nil_of_mem_group (ps : List TemplatePiece) : ∀ text, .stretch text ∈ group ps → text ≠ [] := by
  induction ps with
  | nil => exact fun text h => absurd h List.not_mem_nil
  | cons p ps ih => exact forall_stretch_push p ih

/-- A stretch in front of parts that begin with no stretch is one part. -/
theorem group_stretch_append {ps : List TemplatePiece} (hne : text ≠ [])
    (h : ∀ part ∈ (group ps).head?, TemplatePart.Before (.stretch text) part) :
    group (text.map .literal ++ ps) = .stretch text :: group ps := by
  induction text with
  | nil => exact absurd rfl hne
  | cons c text ih =>
      cases text with
      | nil =>
          show push (.literal c) (group ps) = _
          cases hgroup : group ps with
          | nil => rfl
          | cons part parts =>
              cases part with
              | placeholder name => rfl
              | stretch found => exact absurd (h _ (by rw [hgroup]; rfl)) id
      | cons d text =>
          have hrest := ih (List.cons_ne_nil d text)
            fun part hpart => (before_stretch_iff _ _ part).mp (h part hpart)
          show push (.literal c) (group ((d :: text).map .literal ++ ps)) = _
          rw [hrest]
          rfl

/-- **A division can be read off the pieces** that it is made of. -/
theorem group_flatMap_pieces (hne : ∀ text, .stretch text ∈ parts → text ≠ [])
    (h : parts.IsChain TemplatePart.Before) : group (parts.flatMap TemplatePart.pieces) = parts := by
  induction parts with
  | nil => rfl
  | cons part parts ih =>
      obtain ⟨hhead, htail⟩ := List.isChain_cons.mp h
      have hrest := ih (fun text hmem => hne text (List.mem_cons_of_mem _ hmem)) htail
      cases part with
      | placeholder name => exact congrArg (TemplatePart.placeholder name :: ·) hrest
      | stretch text =>
          rw [List.flatMap_cons]
          have hgroup : group (text.map .literal ++ parts.flatMap TemplatePart.pieces)
              = .stretch text :: group (parts.flatMap TemplatePart.pieces) :=
            group_stretch_append (hne text List.mem_cons_self) (by rw [hrest]; exact hhead)
          rw [hrest] at hgroup
          exact hgroup

/-! ## The division of a template -/

theorem pieces_of_placeholder? (h : placeholder? s = some (name, rest)) :
    pieces s = .placeholder name :: pieces rest := by
  cases s with
  | nil => cases h
  | cons c s =>
      rw [pieces]
      split
      · rename_i found after hfound
        rw [h] at hfound
        cases hfound
        rfl
      · rename_i hnone
        rw [h] at hnone
        cases hnone

theorem pieces_of_none {c : Char} (h : placeholder? (c :: s) = none) :
    pieces (c :: s) = .literal c :: pieces s := by
  rw [pieces]
  split
  · rename_i found after hfound
    rw [h] at hfound
    cases hfound
  · rfl

/-- A text in which no placeholder begins is read character by character. -/
theorem pieces_append_of_none (h : ∀ v, v <:+ text → v ≠ [] → placeholder? (v ++ rest) = none) :
    pieces (text ++ rest) = text.map .literal ++ pieces rest := by
  induction text with
  | nil => rfl
  | cons c text ih =>
      have hhere := h _ List.suffix_rfl (List.cons_ne_nil c text)
      rw [List.cons_append] at hhere ⊢
      rw [pieces_of_none hhere, ih fun v hv => h v (hv.trans (List.suffix_cons c text))]
      rfl

/-- **The pieces of a template are those of its parts,** in any division of it. -/
theorem Parted.pieces_eq (h : Parted parts s) : pieces s = parts.flatMap TemplatePart.pieces := by
  obtain ⟨rfl, hwords, hplain, happart⟩ := h
  induction parts with
  | nil => exact pieces.eq_1
  | cons part parts ih =>
      obtain ⟨hhead, htail⟩ := List.isChain_cons.mp happart
      have hrest := ih (fun name hmem => hwords name (List.mem_cons_of_mem _ hmem))
        (fun text hmem => hplain text (List.mem_cons_of_mem _ hmem)) htail
      rw [List.flatMap_cons, List.flatMap_cons, ← hrest]
      cases part with
      | placeholder name =>
          exact pieces_of_placeholder? (placeholder?_written (hwords name List.mem_cons_self) _)
      | stretch text =>
          -- behind a stretch there is nothing, or a placeholder
          have hnext : parts.flatMap TemplatePart.written = [] ∨
              ['\x7b', '\x7b'] <+: parts.flatMap TemplatePart.written := by
            cases parts with
            | nil => exact .inl rfl
            | cons next parts =>
                cases next with
                | stretch other => exact absurd (hhead _ rfl) id
                | placeholder name => exact .inr ⟨_, rfl⟩
          refine pieces_append_of_none fun v hv hne => placeholder?_of_plain hne ?_ hnext
          intro name hname hhere
          exact (hplain text List.mem_cons_self).2 name hname (hhere.isInfix.trans hv.isInfix)

/-- What follows some pieces of a template is read in the same way on its own. -/
theorem pieces_of_append {before after : List TemplatePiece} (h : pieces s = before ++ after) :
    pieces (after.flatMap written) = after := by
  induction before generalizing s with
  | nil =>
      rw [List.nil_append] at h
      rw [← h, flatMap_written, h]
  | cons p before ih =>
      cases s with
      | nil => rw [pieces] at h; cases h
      | cons c s =>
          cases hfound : placeholder? (c :: s) with
          | none =>
              rw [pieces_of_none hfound] at h
              exact ih (List.cons.inj h).2
          | some found =>
              rw [pieces_of_placeholder? hfound] at h
              exact ih (List.cons.inj h).2

theorem word_of_mem_pieces (h : .placeholder name ∈ pieces s) : Word name := by
  fun_induction pieces s with
  | case1 => cases h
  | case2 c rest found after hfound ih =>
      rcases List.mem_cons.mp h with he | hmem
      · cases he
        exact word_of_placeholder? hfound
      · exact ih hmem
  | case3 c rest hnone ih =>
      rcases List.mem_cons.mp h with he | hmem
      · cases he
      · exact ih hmem

theorem flatMap_written_literals (text : List Char) :
    (text.map TemplatePiece.literal).flatMap written = text := by
  rw [List.flatMap_map]
  exact List.flatMap_singleton' text

/-- Literal characters of a template do not make up a placeholder. -/
theorem plain_of_pieces {before after : List TemplatePiece}
    (h : pieces s = before ++ text.map .literal ++ after) : Plain text := by
  rintro name hname ⟨u, v, rfl⟩
  -- what begins with the placeholder would be read as one
  rw [List.map_append, List.map_append, List.append_assoc, List.append_assoc, List.append_assoc,
    ← List.append_assoc before] at h
  have hread := pieces_of_append h
  rw [List.flatMap_append, flatMap_written_literals,
    pieces_of_placeholder? (placeholder?_written hname _)] at hread
  cases hread

theorem flatMap_written_pieces (part : TemplatePart) : part.pieces.flatMap written = part.written := by
  cases part with
  | stretch text => exact flatMap_written_literals text
  | placeholder name => exact List.append_nil _

theorem flatMap_fill_pieces (vars : Variables) (part : TemplatePart) :
    part.pieces.flatMap (fill vars) = part.filled vars := by
  cases part with
  | stretch text =>
      rw [TemplatePart.pieces, List.flatMap_map]
      exact List.flatMap_singleton' text
  | placeholder name =>
      rw [TemplatePart.pieces, List.flatMap_singleton, TemplatePart.filled]
      cases hvalue : vars.lookup (String.ofList name) with
      | some value => exact fill_of_bound hvalue
      | none => exact fill_of_unbound hvalue

/-- **The pieces of a template, taken together, are a division of it.** -/
theorem parted_group (s : List Char) : Parted (group (pieces s)) s where
  whole := by
    calc (group (pieces s)).flatMap TemplatePart.written
        = (group (pieces s)).flatMap (fun part => part.pieces.flatMap written) := by
          simp only [flatMap_written_pieces]
      _ = (pieces s).flatMap written := by
          rw [← List.flatMap_assoc, flatMap_pieces_group]
      _ = s := flatMap_written s
  words := by
    intro name hname
    have hmem : .placeholder name ∈ (group (pieces s)).flatMap TemplatePart.pieces :=
      List.mem_flatMap.mpr ⟨_, hname, List.mem_singleton_self _⟩
    rw [flatMap_pieces_group] at hmem
    exact word_of_mem_pieces hmem
  plain := by
    intro text htext
    refine ⟨ne_nil_of_mem_group _ text htext, ?_⟩
    obtain ⟨before, after, hparts⟩ := List.append_of_mem htext
    have hpieces := flatMap_pieces_group (pieces s)
    rw [hparts, List.flatMap_append, List.flatMap_cons, ← List.append_assoc] at hpieces
    exact plain_of_pieces hpieces.symm
  apart := isChain_group _

/-- **There is one division of a template.** -/
theorem parted_iff : Parted parts s ↔ parts = group (pieces s) := by
  constructor
  · intro h
    rw [h.pieces_eq]
    exact (group_flatMap_pieces (fun text htext => (h.plain text htext).1) h.apart).symm
  · rintro rfl
    exact parted_group s

/-! ## Rendering part by part -/

/-- Each part of the template is filled in by itself. -/
theorem Parted.render_eq {template : String} (h : Parted parts template.toList) (vars : Variables) :
    (render template vars).toList = parts.flatMap (TemplatePart.filled vars) := by
  rw [render, String.toList_ofList, h.pieces_eq, List.flatMap_assoc]
  simp only [flatMap_fill_pieces]

/-- Only the values of names count, not how they are kept. -/
theorem render_congr {vars others : Variables} (h : ∀ name, vars.lookup name = others.lookup name)
    (template : String) : render template vars = render template others := by
  have hfill : fill vars = fill others := by
    funext piece
    cases piece with
    | literal c => rfl
    | placeholder name => rw [fill, fill, h]
  rw [render, render, hfill]

/--
**Rendering is one pass.** Every template has one division into plain stretches and placeholders. Whatever the
variables are, what is rendered are the parts of that division in their order: a stretch as it is, a
placeholder as its value, unchanged, or as it is written if it has none. Prompts with customized variables
render with both together, in whatever order they are kept, where a supplied value goes before a customized one.
-/
theorem render_in_parts (template : String) :
    ∃ parts, Parted parts template.toList ∧ (∀ other, Parted other template.toList → other = parts) ∧
      (∀ vars, (render template vars).toList = parts.flatMap (TemplatePart.filled vars)) ∧
      ∀ (p : Prompts) (vars both : Variables),
        (∀ name, both.lookup name = (vars.lookup name).or (p.bindings.lookup name)) →
        p.render template vars = render template both := by
  have hparted := parted_group template.toList
  refine ⟨_, hparted, fun other => parted_iff.mp, hparted.render_eq, ?_⟩
  intro p vars both hboth
  exact render_congr (fun name => by rw [List.lookup_append, hboth]) template

/-- Prompts with a value that is supplied again and one that is not. -/
def customized : Prompts := { bindings := [("a", "x"), ("b", "y")] }

/-- A brace in front of a placeholder, a value that looks like a placeholder, and a name without a value. -/
theorem render_in_parts_braced :
    (∀ name, [("b", "y"), ("a", "\x7b\x7bb\x7d\x7d")].lookup name
      = ([("a", "\x7b\x7bb\x7d\x7d")].lookup name).or (customized.bindings.lookup name)) ∧
    Parted [.stretch ['\x7b'], .placeholder ['a'], .placeholder ['c'], .stretch "\x7b\x7bb\x7d".toList]
      "\x7b\x7b\x7ba\x7d\x7d\x7b\x7bc\x7d\x7d\x7b\x7bb\x7d".toList ∧
    (customized.render "\x7b\x7b\x7ba\x7d\x7d\x7b\x7bc\x7d\x7d\x7b\x7bb\x7d"
      [("a", "\x7b\x7bb\x7d\x7d")]).toList
      = "\x7b\x7b\x7bb\x7d\x7d\x7b\x7bc\x7d\x7d\x7b\x7bb\x7d".toList := by
  have hboth : ∀ name, [("b", "y"), ("a", "\x7b\x7bb\x7d\x7d")].lookup name
      = ([("a", "\x7b\x7bb\x7d\x7d")].lookup name).or (customized.bindings.lookup name) := by
    intro name
    by_cases ha : name = "a"
    · subst ha
      simp [List.lookup_cons]
    · have ha : (name == "a") = false := beq_eq_false_iff_ne.mpr ha
      have hbindings : customized.bindings = [("a", "x"), ("b", "y")] := rfl
      simp [List.lookup_cons, hbindings, ha]
  have hparted : Parted [.stretch ['\x7b'], .placeholder ['a'], .placeholder ['c'],
      .stretch "\x7b\x7bb\x7d".toList]
      "\x7b\x7b\x7ba\x7d\x7d\x7b\x7bc\x7d\x7d\x7b\x7bb\x7d".toList := by
    rw [parted_iff]
    decide +kernel
  obtain ⟨parts, -, hunique, hrender, hcustom⟩ :=
    render_in_parts "\x7b\x7b\x7ba\x7d\x7d\x7b\x7bc\x7d\x7d\x7b\x7bb\x7d"
  refine ⟨hboth, hparted, ?_⟩
  rw [hcustom _ _ _ hboth, hrender, ← hunique _ hparted]
  decide

end Template

end Grounded
