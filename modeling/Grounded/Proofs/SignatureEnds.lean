import Grounded.Proofs.Blanks
import Grounded.Source.CodeItem

/-!
# Where signatures end

A declaration is cut at its first brace, semicolon or keyword. `EndAt` says of a place in a line, by what stands
before and behind it, that it is such an end: the keyword counts as a whole word only, so that an identifier
that contains it is none (`WholeWord.not_endAt`). `FirstEnd` is the first end of a line and `Endless` a line
without any. Each line has a first end or is endless, and the scan tells which (`endless_or_firstEnd`).

What is in front of the first end has no end of its own, although the cut takes away what stood behind it: a
keyword could only come to stand free at the end if a word went on behind it, and no end begins within a word.
Trimming takes away blanks, which part words as well as the ends of a text do. So nothing is left to cut.
-/

namespace Grounded.Signature

open Text

/-- The word stands there as a whole: it does not go on to either side. -/
structure WholeWord (before word behind : List Char) : Prop where
  letters : ∀ c ∈ word, isWord c = true
  before : ∀ c ∈ before.getLast?, isWord c = false
  behind : ∀ c ∈ behind.head?, isWord c = false

/-- A signature ends between the two texts. -/
inductive EndAt (before : List Char) : List Char → Prop where
  | brace (rest : List Char) : EndAt before ('\x7b' :: rest)
  | semicolon (rest : List Char) : EndAt before (';' :: rest)
  | keyword {rest : List Char} : WholeWord before whereWord rest → EndAt before (whereWord ++ rest)

/-- There is no end in the line. -/
def Endless (line : List Char) : Prop := ∀ before rest, before ++ rest = line → ¬ EndAt before rest

/-- The line has its first end there. -/
structure FirstEnd (line before rest : List Char) : Prop where
  whole : before ++ rest = line
  here : EndAt before rest
  first : ∀ u v, u ++ v = line → u.length < before.length → ¬ EndAt u v

variable {before word behind line rest left right s u v : List Char} {c : Char}

/-! ## Ends -/

theorem EndAt.ne_nil (h : EndAt before rest) : rest ≠ [] := by
  cases h with
  | brace rest => exact List.cons_ne_nil _ _
  | semicolon rest => exact List.cons_ne_nil _ _
  | keyword h => exact List.cons_ne_nil _ _

theorem letters_whereWord : ∀ c ∈ whereWord, isWord c = true := List.all_eq_true.mp (by decide)

theorem startsWhere_iff : startsWhere s = true ↔
    ∃ rest, whereWord ++ rest = s ∧ ∀ c ∈ rest.head?, isWord c = false := by
  rw [startsWhere, Bool.and_eq_true, List.isPrefixOf_iff_prefix, Bool.not_eq_true',
    Option.any_eq_false]
  constructor
  · rintro ⟨⟨rest, rfl⟩, hbehind⟩
    rw [List.drop_left] at hbehind
    exact ⟨rest, rfl, fun c hc => Bool.not_eq_true _ ▸ hbehind c hc⟩
  · rintro ⟨rest, rfl, hbehind⟩
    rw [List.drop_left]
    exact ⟨List.prefix_append _ _, fun c hc => Bool.not_eq_true _ ▸ hbehind c hc⟩

/-- What the scan asks at a character, with what it has passed in front. -/
theorem endAt_cons_iff : EndAt before (c :: rest) ↔
    (c == '\x7b' || c == ';' || (!before.getLast?.any isWord && startsWhere (c :: rest))) = true := by
  rw [Bool.or_eq_true, Bool.or_eq_true, Bool.and_eq_true, beq_iff_eq, beq_iff_eq, Bool.not_eq_true',
    Option.any_eq_false, startsWhere_iff]
  constructor
  · intro h
    generalize hs : c :: rest = s at h
    cases h with
    | brace rest => exact .inl (.inl (List.cons.inj hs).1)
    | semicolon rest => exact .inl (.inr (List.cons.inj hs).1)
    | keyword h =>
        exact .inr ⟨fun d hd => Bool.not_eq_true _ ▸ h.before d hd, _, rfl, h.behind⟩
  · rintro ((rfl | rfl) | ⟨hbefore, behind, hs, hbehind⟩)
    · exact .brace rest
    · exact .semicolon rest
    · rw [← hs]
      exact .keyword ⟨letters_whereWord, fun d hd => Bool.not_eq_true _ ▸ hbefore d hd, hbehind⟩

/-- An end that begins with a word character is the keyword. -/
theorem EndAt.keyword_of_isWord (h : EndAt before (c :: rest)) (hc : isWord c = true) :
    ∃ behind, whereWord ++ behind = c :: rest ∧ WholeWord before whereWord behind := by
  generalize hs : c :: rest = s at h
  cases h with
  | brace rest =>
      obtain rfl := (List.cons.inj hs).1
      exact absurd hc (by decide)
  | semicolon rest =>
      obtain rfl := (List.cons.inj hs).1
      exact absurd hc (by decide)
  | keyword h => exact ⟨_, rfl, h⟩

/-! ## The scan -/

/-- No end is at the first `n` places of the text that comes behind `passed`. -/
def NoEndWithin (n : Nat) (passed s : List Char) : Prop :=
  ∀ u v, u ++ v = s → u.length < n → ¬ EndAt (passed ++ u) v

theorem NoEndWithin.cons {n : Nat} {passed : List Char} (hhere : ¬ EndAt passed (c :: s))
    (h : NoEndWithin n (passed ++ [c]) s) : NoEndWithin (n + 1) passed (c :: s) := by
  intro u v huv hlt
  cases u with
  | nil =>
      obtain rfl : v = c :: s := huv
      rw [List.append_nil]
      exact hhere
  | cons d u =>
      obtain ⟨rfl, htail⟩ := List.cons.inj huv
      have hnext := h u v htail (Nat.lt_of_succ_lt_succ hlt)
      rw [List.append_assoc] at hnext
      exact hnext

/-- Where the scan stops, it has found an end, and where it has passed there is none. -/
theorem of_beforeEnd?_some (passed : List Char)
    (h : beforeEnd? (passed.getLast?.any isWord) s = some before) :
    ∃ rest, before ++ rest = s ∧ EndAt (passed ++ before) rest ∧
      NoEndWithin before.length passed s := by
  induction s generalizing passed before with
  | nil => cases h
  | cons c s ih =>
      rw [beforeEnd?] at h
      split at h
      · rename_i hend
        obtain rfl := Option.some.inj h
        refine ⟨c :: s, rfl, ?_, fun u v _ hlt => absurd hlt (Nat.not_lt_zero _)⟩
        rw [List.append_nil]
        exact endAt_cons_iff.mpr hend
      · rename_i hnone
        obtain ⟨before, hbefore, rfl⟩ := Option.map_eq_some_iff.mp h
        obtain ⟨rest, rfl, hhere, hfirst⟩ := ih (passed ++ [c]) (by simpa using hbefore)
        rw [List.append_assoc] at hhere
        exact ⟨rest, rfl, hhere, .cons (endAt_cons_iff.not.mpr hnone) hfirst⟩

theorem of_beforeEnd?_none (passed : List Char)
    (h : beforeEnd? (passed.getLast?.any isWord) s = none) :
    NoEndWithin (s.length + 1) passed s := by
  induction s generalizing passed with
  | nil =>
      intro u v huv _ hend
      exact hend.ne_nil (List.append_eq_nil_iff.mp huv).2
  | cons c s ih =>
      rw [beforeEnd?] at h
      split at h
      · cases h
      · rename_i hnone
        have hrest := ih (passed ++ [c]) (by simpa using h)
        exact .cons (endAt_cons_iff.not.mpr hnone) hrest

/-- A line has one first end. -/
theorem FirstEnd.unique (h : FirstEnd line before rest) (hother : FirstEnd line u v) : before = u := by
  have hlength : before.length = u.length := by
    rcases Nat.lt_trichotomy before.length u.length with hlt | heq | hgt
    · exact absurd h.here (hother.first before rest h.whole hlt)
    · exact heq
    · exact absurd hother.here (h.first u v hother.whole hgt)
  exact List.append_inj_left (h.whole.trans hother.whole.symm) hlength

theorem endless_or_firstEnd (line : List Char) :
    beforeEnd? false line = none ∧ Endless line ∨
      ∃ before rest, beforeEnd? false line = some before ∧ FirstEnd line before rest := by
  cases h : beforeEnd? false line with
  | none =>
      refine .inl ⟨rfl, fun u v huv => of_beforeEnd?_none [] h u v huv ?_⟩
      rw [← huv, List.length_append]
      omega
  | some before =>
      obtain ⟨rest, hwhole, hhere, hfirst⟩ := of_beforeEnd?_some [] h
      exact .inr ⟨before, rest, rfl, hwhole, hhere, hfirst⟩

theorem beforeEnd?_of_endless (h : Endless line) : beforeEnd? false line = none := by
  rcases endless_or_firstEnd line with ⟨hscan, _⟩ | ⟨before, rest, _, hfirst⟩
  · exact hscan
  · exact absurd hfirst.here (h before rest hfirst.whole)

theorem FirstEnd.beforeEnd?_eq (h : FirstEnd line before rest) : beforeEnd? false line = some before := by
  rcases endless_or_firstEnd line with ⟨_, hnone⟩ | ⟨u, v, hscan, hfirst⟩
  · exact absurd h.here (hnone before rest h.whole)
  · rw [hscan, h.unique hfirst]

theorem truncate_of_endless (h : Endless line) : truncate line = line := by
  rw [truncate, beforeEnd?_of_endless h]

theorem FirstEnd.truncate_eq (h : FirstEnd line before rest) :
    truncate line = if before = [] then line else trim before := by
  rw [truncate, h.beforeEnd?_eq]
  cases before with
  | nil => rfl
  | cons c before => exact (if_neg (List.cons_ne_nil c before)).symm

/-! ## No end is left -/

/-- More text behind an end leaves it an end, unless it makes a word longer. -/
theorem EndAt.append_right (h : EndAt u v)
    (hright : (∀ c ∈ v.getLast?, isWord c = true) → ∀ c ∈ right.head?, isWord c = false) :
    EndAt u (v ++ right) := by
  cases h with
  | brace rest => exact .brace (rest ++ right)
  | semicolon rest => exact .semicolon (rest ++ right)
  | @keyword rest h =>
      rw [List.append_assoc]
      refine .keyword ⟨letters_whereWord, h.before, fun c hc => ?_⟩
      cases rest with
      | nil => exact hright (fun d hd => letters_whereWord d (List.mem_of_getLast? hd)) c hc
      | cons d rest => exact h.behind c hc

/-- More text in front of an end leaves it an end, unless a word reaches up to it. -/
theorem EndAt.append_left (h : EndAt u v) (hleft : ∀ c ∈ left.getLast?, isWord c = false) :
    EndAt (left ++ u) v := by
  cases h with
  | brace rest => exact .brace rest
  | semicolon rest => exact .semicolon rest
  | keyword h =>
      refine .keyword ⟨letters_whereWord, fun c hc => ?_, h.behind⟩
      rw [List.getLast?_append, Option.mem_def, Option.or_eq_some_iff] at hc
      rcases hc with hlast | ⟨_, hlast⟩
      · exact h.before c hlast
      · exact hleft c hlast

/-- **What stands in front of the first end is endless.** -/
theorem FirstEnd.endless (h : FirstEnd line before rest) : Endless before := by
  rintro u v rfl hend
  have hvisible := hend.ne_nil
  refine h.first u (v ++ rest) ?_ ?_ (hend.append_right ?_)
  · rw [← List.append_assoc]
    exact h.whole
  · have hpos := List.length_pos_iff.mpr hvisible
    rw [List.length_append]
    omega
  · -- a word at the end of the kept text does not go on: only the keyword could be next, and it is free
    intro hword c hc
    rw [← Bool.not_eq_true]
    intro hnext
    obtain ⟨tail, rfl⟩ := List.head?_eq_some_iff.mp hc
    obtain ⟨_, _, hkeyword⟩ := h.here.keyword_of_isWord hnext
    have hlast : v.getLast hvisible ∈ (u ++ v).getLast? := by
      rw [List.getLast?_append, List.getLast?_eq_some_getLast hvisible]
      rfl
    have hno := hkeyword.before _ hlast
    rw [hword _ (List.getLast?_eq_some_getLast hvisible)] at hno
    cases hno

theorem Endless.trim (h : Endless line) : Endless (trim line) := by
  obtain ⟨left, right, hleft, hright, hwhole⟩ := exists_blanks_trim line
  rintro u v huv hend
  refine h (left ++ u) (v ++ right) ?_ (EndAt.append_left (hend.append_right ?_) ?_)
  · rw [← hwhole, ← huv, List.append_assoc, List.append_assoc]
  · exact fun _ c hc => isWord_of_isBlank (hright c (List.mem_of_mem_head? hc))
  · exact fun c hc => isWord_of_isBlank (hleft c (List.mem_of_getLast? hc))

theorem truncate_truncate (line : List Char) : truncate (truncate line) = truncate line := by
  rcases endless_or_firstEnd line with ⟨_, h⟩ | ⟨before, rest, _, h⟩
  · rw [truncate_of_endless h, truncate_of_endless h]
  · by_cases hbefore : before = []
    · have hsame : truncate line = line := by rw [h.truncate_eq, if_pos hbefore]
      rw [hsame, hsame]
    · rw [h.truncate_eq, if_neg hbefore, truncate_of_endless h.endless.trim]

/-! ## Words -/

theorem WholeWord.takeWhile (h : WholeWord before word behind) :
    (word ++ behind).takeWhile isWord = word := by
  rw [List.takeWhile_append_of_pos h.letters]
  cases behind with
  | nil => exact List.append_nil word
  | cons c behind =>
      have hc : isWord c = false := h.behind c rfl
      rw [List.takeWhile_cons_of_neg (by rw [hc]; decide), List.append_nil]

/-- **No word but the keyword is cut,** whatever it contains. -/
theorem WholeWord.not_endAt (h : WholeWord before word behind) (hne : word ≠ whereWord)
    (huv : u ++ v = word) (hv : v ≠ []) : ¬ EndAt (before ++ u) (v ++ behind) := by
  obtain ⟨c, v, rfl⟩ := List.exists_cons_of_ne_nil hv
  subst huv
  have hc : isWord c = true := h.letters c (List.mem_append_right u List.mem_cons_self)
  intro hend
  obtain ⟨rest, hs, hkeyword⟩ := hend.keyword_of_isWord hc
  rcases List.eq_nil_or_concat u with rfl | ⟨front, last, rfl⟩
  · -- the keyword begins where the word does, so both are the word that stands there
    have htake : (whereWord ++ rest).takeWhile isWord = c :: v := by
      rw [hs]
      exact h.takeWhile
    rw [hkeyword.takeWhile] at htake
    exact hne htake.symm
  · have hlast : isWord last = true := h.letters last (by simp)
    have hno := hkeyword.before last (by simp)
    rw [hlast] at hno
    cases hno

/--
**A signature is cut at its first end.** A line is endless or has a first end. An endless line is left as it is,
and so is one that begins with an end; of any other line the text in front of its first end is kept, trimmed.
What is kept is endless, so that no keyword has come to stand free at its end. No end is in a word other than
the keyword, even if the word contains the keyword. Cutting again changes nothing.
-/
theorem truncate_at_first_end (line : List Char) :
    (Endless line ∨ ∃ before rest, FirstEnd line before rest) ∧
    (Endless line → truncate line = line) ∧
    (∀ before rest, FirstEnd line before rest →
      (truncate line = if before = [] then line else trim before) ∧ Endless (trim before)) ∧
    (∀ before word behind, before ++ (word ++ behind) = line → WholeWord before word behind →
      word ≠ whereWord → ∀ u v, u ++ v = word → v ≠ [] → ¬ EndAt (before ++ u) (v ++ behind)) ∧
    truncate (truncate line) = truncate line := by
  refine ⟨?_, truncate_of_endless, fun before rest h => ⟨h.truncate_eq, h.endless.trim⟩,
    fun before word behind _ h hne u v huv hv => h.not_endAt hne huv hv, truncate_truncate line⟩
  rcases endless_or_firstEnd line with ⟨_, h⟩ | ⟨before, rest, _, h⟩
  · exact .inl h
  · exact .inr ⟨before, rest, h⟩

-- the keyword within other words is passed over, and the blanks in front of the first end are left out
example : truncate "pub fn somewhere<T>() -> u8 where T: Nowhere \x7b".toList
    = "pub fn somewhere<T>() -> u8".toList := by decide

end Grounded.Signature
