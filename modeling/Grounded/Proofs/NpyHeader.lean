import Grounded.Index.Npy
import Grounded.Proofs.Numeral
import Grounded.Proofs.TextSearch
import Grounded.Proofs.Trimming

/-!
# The header of a matrix file

The header is a short text between binary parts. The writer formats it and pads it with spaces; the
reader looks for three things in it, each of them anywhere. So that what was written is read back, none
of the three may be found too early: no occurrence of the searched word may begin in the fixed opening
of the header, nor straddle its end. `Text.clears` is that condition, and it is decided on the fixed part
alone.
-/

namespace Grounded

namespace Npy

open Text

/-! ## What the writer makes -/

/-- The header up to the shape. -/
def opening : List Char := "\x7b'descr': '<f4', 'fortran_order': False, ".toList

/-- What stands before the numbers of the shape. -/
def shapeOpening : List Char := "'shape': (".toList

/-- The number of spaces that bring a preamble of ten bytes and a dictionary up to the alignment. -/
def padding (rows dims : Nat) : Nat :=
  (alignment - (magic.length + 4 + (dictionary rows dims).length + 1) % alignment) % alignment

/-- What follows the shape. -/
def closing (rows dims : Nat) : List Char :=
  "), \x7d".toList ++ List.replicate (padding rows dims) ' ' ++ ['\n']

theorem header_eq (rows dims : Nat) : header rows dims =
    opening ++ (shapeOpening ++ (Nat.toDigits 10 rows ++ (", ".toList ++
      (Nat.toDigits 10 dims ++ closing rows dims)))) := by
  have hd : dictionary rows dims = opening ++ (shapeOpening ++ (Nat.toDigits 10 rows ++
      (", ".toList ++ (Nat.toDigits 10 dims ++ "), \x7d".toList)))) := by
    have ho : "\x7b'descr': '<f4', 'fortran_order': False, 'shape': (".toList
        = opening ++ shapeOpening := by decide
    rw [dictionary]
    simp only [String.toList_append, Nat.toString_eq_repr, Nat.toList_repr, ho, List.append_assoc]
  rw [header, ← padding, hd, closing]
  simp only [List.append_assoc]

theorem length_header (rows dims : Nat) :
    (header rows dims).length = (dictionary rows dims).length + padding rows dims + 1 := by
  rw [header, ← padding]
  simp only [List.length_append, List.length_replicate, List.length_singleton]

/-- A number of a machine word has at most twenty digits. -/
theorem length_toDigits_le {n : Nat} (h : n < wordBound) : (Nat.toDigits 10 n).length ≤ 20 := by
  rw [Nat.length_toDigits_le_iff (by decide) (by decide)]
  exact Nat.lt_trans h (by decide)

/-- **The header is never too long** for the two bytes of its length. -/
theorem length_header_lt {rows dims : Nat} (hr : rows < wordBound) (hd : dims < wordBound) :
    (header rows dims).length < 0x10000 := by
  have h1 := length_toDigits_le hr
  have h2 := length_toDigits_le hd
  have h3 : padding rows dims < alignment := Nat.mod_lt _ (by decide)
  have h4 : opening.length = 41 := by decide
  have h5 : shapeOpening.length = 10 := by decide
  have h6 : ", ".toList.length = 2 := by decide
  have h7 : "), \x7d".toList.length = 4 := by decide
  simp only [header_eq, closing, List.length_append, List.length_replicate, List.length_singleton,
    h4, h5, h6, h7]
  unfold alignment at h3
  omega

/-- The numbers start at a multiple of the alignment. -/
theorem header_aligned (rows dims : Nat) : (10 + (header rows dims).length) % alignment = 0 := by
  rw [length_header, padding, alignment, show magic.length = 6 from rfl]
  omega

theorem getLast?_header (rows dims : Nat) : (header rows dims).getLast? = some '\n' := by
  rw [header, List.getLast?_append]
  rfl

/-- Whether a fixed text is ASCII is decided character by character. -/
theorem ascii_of_all {s : List Char} (h : s.all (·.toNat < 0x80) = true) :
    ∀ c ∈ s, c.toNat < 0x80 := by
  intro c hc
  exact of_decide_eq_true (List.all_eq_true.mp h c hc)

theorem toDigits_ascii {n : Nat} {c : Char} (h : c ∈ Nat.toDigits 10 n) : c.toNat < 0x80 := by
  have hb := toNat_bounds_of_isAsciiDigit (isAsciiDigit_of_mem_toDigits h)
  omega

/-- The header has a byte for each character. -/
theorem header_ascii (rows dims : Nat) : ∀ c ∈ header rows dims, c.toNat < 0x80 := by
  have h1 : ∀ c ∈ opening, c.toNat < 0x80 := ascii_of_all (by decide)
  have h2 : ∀ c ∈ shapeOpening, c.toNat < 0x80 := ascii_of_all (by decide)
  have h3 : ∀ c ∈ ", ".toList, c.toNat < 0x80 := ascii_of_all (by decide)
  have h4 : ∀ c ∈ "), \x7d".toList, c.toNat < 0x80 := ascii_of_all (by decide)
  intro c hc
  rw [header_eq, closing] at hc
  simp only [List.mem_append, List.mem_replicate, List.mem_singleton] at hc
  rcases hc with hc | hc | hc | hc | hc | (hc | ⟨_, rfl⟩) | rfl
  · exact h1 c hc
  · exact h2 c hc
  · exact toDigits_ascii hc
  · exact h3 c hc
  · exact toDigits_ascii hc
  · exact h4 c hc
  · decide
  · decide

/-! ## What the reader finds -/

theorem shapeHere?_eq_none {s : List Char} (h : ¬ "'shape'".toList <+: s) : shapeHere? s = none := by
  rw [← List.isPrefixOf_iff_prefix, Bool.not_eq_true] at h
  unfold shapeHere? afterStart?
  rw [h]
  rfl

theorem shape?_append_of_clears {s : List Char} (h : clears "'shape'".toList s = true)
    (rest : List Char) : shape? (s ++ rest) = shape? rest := by
  induction s with
  | nil => rfl
  | cons c s ih =>
      obtain ⟨⟨hlonger, hshorter⟩, hs⟩ := clears_cons h
      have hnone := not_prefix_append hlonger hshorter rest
      rw [List.cons_append] at hnone ⊢
      rw [shape?, shapeHere?_eq_none hnone]
      exact ih hs

/-- A digit is no blank. -/
theorem isBlank_of_isAsciiDigit {c : Char} (h : isAsciiDigit c = true) : isBlank c = false := by
  have hb := toNat_bounds_of_isAsciiDigit h
  have h1 : ¬ c.toNat < 0x09 := by omega
  have h2 : ¬ c.toNat ≤ 0x0D := by omega
  have h3 : ¬ c.toNat < 0x20 := by omega
  have h4 : ¬ c.toNat ≤ 0x20 := by omega
  have h5 : c.toNat < 0x85 := by omega
  simp only [isBlank, blankRanges, Ranges.has, h1, h2, h3, h4, h5, if_true, if_false, decide_false,
    Bool.or_false]

theorem trimStart_toDigits (n : Nat) (rest : List Char) :
    trimStart (Nat.toDigits 10 n ++ rest) = Nat.toDigits 10 n ++ rest := by
  refine trimStart_of_head ?_
  intro c hc
  cases hd : Nat.toDigits 10 n with
  | nil => exact absurd hd Nat.toDigits_ne_nil
  | cons d ds =>
      rw [hd] at hc
      cases hc
      exact isBlank_of_isAsciiDigit (isAsciiDigit_of_mem_toDigits (hd ▸ List.mem_cons_self))

/-- The numbers of a shape that is written without superfluous blanks. -/
theorem shapeHere?_written (rows dims : Nat) (rest : List Char) :
    shapeHere? (shapeOpening ++ (Nat.toDigits 10 rows ++ (", ".toList ++
      (Nat.toDigits 10 dims ++ ')' :: rest))))
      = some (Nat.toDigits 10 rows, Nat.toDigits 10 dims) := by
  have hrow := takeWhile_toDigits_append (p := isDecimalDigit) (n := rows)
    (", ".toList ++ (Nat.toDigits 10 dims ++ ')' :: rest))
    (fun c => isDecimalDigit_of_mem_toDigits) (by intro c hc; cases hc; decide)
  have hdim := takeWhile_toDigits_append (p := isDecimalDigit) (n := dims) (')' :: rest)
    (fun c => isDecimalDigit_of_mem_toDigits) (by intro c hc; cases hc; decide)
  have hne : (Nat.toDigits 10 rows).isEmpty = false := by
    rw [List.isEmpty_eq_false_iff]; exact Nat.toDigits_ne_nil
  -- the rests get names, so that no step looks into the digits
  generalize hX : Nat.toDigits 10 rows ++ (", ".toList ++ (Nat.toDigits 10 dims ++ ')' :: rest)) = X
    at hrow
  have htrim : trimStart X = X := by rw [← hX]; exact trimStart_toDigits rows _
  generalize hY : Nat.toDigits 10 dims ++ ')' :: rest = Y at hrow hdim
  have htrimY : trimStart Y = Y := by rw [← hY]; exact trimStart_toDigits dims _
  unfold shapeHere?
  rw [show shapeOpening ++ X = "'shape'".toList ++ (':' :: ' ' :: '(' :: X) from rfl,
    afterStart?_append]
  simp only [Option.bind_eq_bind, Option.bind_some]
  rw [show trimStart (':' :: ' ' :: '(' :: X) = [':'] ++ (' ' :: '(' :: X) from rfl,
    afterStart?_append]
  simp only [Option.bind_some]
  rw [show trimStart (' ' :: '(' :: X) = ['('] ++ X from rfl, afterStart?_append]
  simp only [Option.bind_some]
  rw [htrim, hrow.1, hrow.2, if_neg (by rw [hne]; decide)]
  rw [show trimStart (", ".toList ++ Y) = [','] ++ (' ' :: Y) from rfl, afterStart?_append]
  simp only [Option.bind_some]
  rw [show trimStart (' ' :: Y) = trimStart Y from rfl, htrimY, hdim.1, hdim.2,
    show trimStart (')' :: rest) = [')'] ++ rest from rfl, afterStart?_append]
  rfl

/-- **The reader finds the shape that was written.** -/
theorem declaredShape_header {rows dims : Nat} (hr : rows < wordBound) (hd : dims < wordBound) :
    declaredShape (header rows dims) = .ok (rows, dims) := by
  generalize hX : Nat.toDigits 10 rows ++ (", ".toList ++
    (Nat.toDigits 10 dims ++ closing rows dims)) = X
  have hhead : header rows dims = opening ++ (shapeOpening ++ X) := by rw [header_eq, hX]
  -- behind the opening of the shape there is no quote left
  have hquote : '\'' ∉ X := by
    intro h
    rw [← hX, closing] at h
    simp only [List.mem_append, List.mem_replicate, List.mem_singleton] at h
    rcases h with h | h | h | (h | ⟨_, h⟩) | h
    · exact absurd (isAsciiDigit_of_mem_toDigits h) (by decide)
    · exact absurd h (by decide)
    · exact absurd (isAsciiDigit_of_mem_toDigits h) (by decide)
    · exact absurd h (by decide)
    · exact absurd h (by decide)
    · exact absurd h (by decide)
  have hsingles : includes "'<f4'".toList (header rows dims) = true := by
    rw [hhead]
    exact includes_append_left (by decide) _
  -- not in the two fixed parts, and not behind them without a quote
  have horder : includes "'fortran_order': True".toList (header rows dims) = false := by
    rw [hhead, includes_append_of_clears (by decide), includes_append_of_clears (by decide)]
    exact includes_eq_false_of_not_mem hquote
  have hshape : shape? (header rows dims)
      = some (Nat.toDigits 10 rows, Nat.toDigits 10 dims) := by
    rw [hhead, shape?_append_of_clears (by decide)]
    have hhere : shapeHere? (shapeOpening ++ X)
        = some (Nat.toDigits 10 rows, Nat.toDigits 10 dims) := by
      rw [← hX]; exact shapeHere?_written rows dims _
    rw [show shapeOpening ++ X = '\'' :: ("shape': (".toList ++ X) from rfl] at hhere ⊢
    rw [shape?, hhere]
  have hne : (Nat.toDigits 10 dims).isEmpty = false := by
    rw [List.isEmpty_eq_false_iff]; exact Nat.toDigits_ne_nil
  unfold declaredShape
  rw [hsingles, horder, hshape]
  simp only [Bool.not_true, Bool.false_eq_true, ↓reduceIte, natural?_toDigits hr,
    natural?_toDigits hd, hne]
  rfl

end Npy

end Grounded
