import Grounded.Config.Prompts
import Grounded.Proofs.TextSearch

/-!
# Texts of templates

The pieces of a template, each written as it stands, are the template. So a text that is made by filling in
the pieces differs from the template only where a placeholder has a value, and there the value stands as it
is: the pieces are those of the template, whatever the values are.
-/

namespace Grounded

namespace Template

/-- A piece as it stands in the template. -/
def written : TemplatePiece → List Char
  | .literal c => [c]
  | .placeholder name => '\x7b' :: '\x7b' :: name ++ ['\x7d', '\x7d']

/-- No placeholder of the template has a value. -/
def Settled (vars : Variables) (template : String) : Prop :=
  ∀ name, .placeholder name ∈ pieces template.toList → vars.lookup (String.ofList name) = none

variable {vars : Variables} {name rest s : List Char} {value : String}

theorem fill_of_bound (h : vars.lookup (String.ofList name) = some value) :
    fill vars (.placeholder name) = value.toList := by
  simp only [fill, h]

theorem fill_of_unbound (h : vars.lookup (String.ofList name) = none) :
    fill vars (.placeholder name) = written (.placeholder name) := by
  simp only [fill, h, written]

/-- A placeholder is a name in double braces. -/
theorem of_placeholder? (h : placeholder? s = some (name, rest)) :
    written (.placeholder name) ++ rest = s := by
  rw [placeholder?] at h
  simp only [Option.bind_eq_bind, Option.bind_eq_some_iff] at h
  obtain ⟨inner, hopen, h⟩ := h
  split at h
  · cases h
  · obtain ⟨after, hclose, h⟩ := Option.bind_eq_some_iff.mp h
    cases h
    rw [Text.afterStart?_eq_some_iff] at hopen hclose
    have hinner : inner.takeWhile Text.isWord ++ (['\x7d', '\x7d'] ++ rest) = inner := by
      rw [hclose, List.takeWhile_append_dropWhile]
    calc written (.placeholder (inner.takeWhile Text.isWord)) ++ rest
        = ['\x7b', '\x7b'] ++ (inner.takeWhile Text.isWord ++ (['\x7d', '\x7d'] ++ rest)) := by
          simp only [written, List.cons_append, List.append_assoc, List.nil_append]
      _ = s := by rw [hinner, hopen]

/-- Nothing of a template is lost in its pieces. -/
theorem flatMap_written (s : List Char) : (pieces s).flatMap written = s := by
  fun_induction pieces s with
  | case1 => rfl
  | case2 c rest name after h ih =>
      rw [List.flatMap_cons, ih]
      exact of_placeholder? h
  | case3 c rest h ih =>
      rw [List.flatMap_cons, ih]
      rfl

/-- A template without values for its placeholders is its own text. -/
theorem render_of_settled {template : String} (h : Settled vars template) :
    render template vars = template := by
  have hpieces : (pieces template.toList).flatMap (fill vars)
      = (pieces template.toList).flatMap written := by
    rw [List.flatMap_def, List.flatMap_def]
    refine congrArg List.flatten (List.map_congr_left ?_)
    intro piece hpiece
    cases piece with
    | literal c => rfl
    | placeholder name => exact fill_of_unbound (h name hpiece)
  rw [render, hpieces, flatMap_written, String.ofList_toList]

/-- What a literal text does not hold is read off its characters. -/
theorem not_mem_ofList {c : Char} {cs : List Char} (h : c ∉ cs) : c ∉ (String.ofList cs).toList := by
  rw [String.toList_ofList]
  exact h

/-- Without braces there is no placeholder. -/
theorem settled_of_not_mem {template : String} (h : '\x7b' ∉ template.toList) :
    Settled vars template := by
  intro name hname
  have hbrace : '\x7b' ∈ (pieces template.toList).flatMap written :=
    List.mem_flatMap.mpr ⟨_, hname, List.mem_cons_self⟩
  rw [flatMap_written] at hbrace
  exact absurd hbrace h

end Template

namespace Prompts

open Template

/--
The text is the template filled in: where a placeholder with a value stands in the template, its value
stands in the text. A value that is supplied goes before a customized one.
-/
structure Fills (p : Prompts) (template : String) (vars : Variables) (text : String) : Prop where
  rendered : text = p.render template vars
  resolved : ∀ before name after value,
    pieces template.toList = before ++ .placeholder name :: after →
    (vars.lookup (String.ofList name)).or (p.bindings.lookup (String.ofList name)) = some value →
    text.toList = before.flatMap (fill (vars ++ p.bindings)) ++ value.toList ++
      after.flatMap (fill (vars ++ p.bindings))

theorem fills_render (p : Prompts) (template : String) (vars : Variables) :
    p.Fills template vars (p.render template vars) where
  rendered := rfl
  resolved := by
    intro before name after value hpieces hvalue
    rw [← List.lookup_append] at hvalue
    rw [render, Template.render, String.toList_ofList, hpieces, List.flatMap_append,
      List.flatMap_cons, fill_of_bound hvalue, List.append_assoc]

end Prompts

end Grounded
