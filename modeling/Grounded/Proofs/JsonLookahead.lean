import Grounded.Proofs.JsonRoundTrip

/-!
# How far the reader of JSON looks

A string, a list or a record shows where it ends, a number only by what follows it. So a value that is
read from a text is read from every longer text in the same way, with as much fuel or more, unless it is
a number that the text ends with. A list that is cut short is therefore no value at all: it would be
read in the same way from the whole list, which has more to it.
-/

namespace Grounded.Json

open Text

/-! ## Parts of a value -/

/-- What stops at a character stops there whatever follows. -/
theorem dropWhile_append_more {p : Char → Bool} {s : List Char} (h : s.dropWhile p ≠ [])
    (more : List Char) : (s ++ more).dropWhile p = s.dropWhile p ++ more := by
  rw [List.dropWhile_append, if_neg]
  rw [List.isEmpty_iff]
  exact h

theorem takeWhile_append_more {p : Char → Bool} {s : List Char} (h : s.dropWhile p ≠ [])
    (more : List Char) : (s ++ more).takeWhile p = s.takeWhile p := by
  have hsplit : (s.takeWhile p).length + (s.dropWhile p).length = s.length := by
    rw [← List.length_append, List.takeWhile_append_dropWhile]
  have hpos : 0 < (s.dropWhile p).length := List.length_pos_iff.mpr h
  rw [List.takeWhile_append, if_neg (by omega)]

theorem skipBlanks_append_of_ne_nil {s : List Char} (h : skipBlanks s ≠ []) (more : List Char) :
    skipBlanks (s ++ more) = skipBlanks s ++ more := dropWhile_append_more h more

theorem skipBlanks_append {s t : List Char} {c : Char} (h : skipBlanks s = c :: t)
    (more : List Char) : skipBlanks (s ++ more) = c :: (t ++ more) := by
  have hne : skipBlanks s ≠ [] := by
    rw [h]
    exact List.cons_ne_nil c t
  rw [skipBlanks_append_of_ne_nil hne, h, List.cons_append]

theorem word?_append {word : String} {s rest : List Char} (h : word? word s = some rest)
    (more : List Char) : word? word (s ++ more) = some (rest ++ more) := by
  unfold word? at h ⊢
  split at h
  · rename_i hword
    rw [List.isPrefixOf_iff_prefix] at hword
    have hlen : word.length ≤ s.length := by
      rw [← String.length_toList]
      exact hword.length_le
    cases h
    rw [if_pos (List.isPrefixOf_iff_prefix.mpr (hword.trans (List.prefix_append s more))),
      List.drop_append_of_le_length hlen]
  · cases h

theorem units?_append {s rest : List Char} {us : List StringUnit}
    (h : units? s = some (us, rest)) (more : List Char) :
    units? (s ++ more) = some (us, rest ++ more) := by
  fun_induction units? s generalizing us rest with
  | case1 => cases h
  | case2 after =>
      cases h
      rfl
  | case3 a b c d after ih =>
      obtain ⟨n, hn, h⟩ := Option.bind_eq_some_iff.mp h
      obtain ⟨⟨tail, left⟩, htail, h⟩ := Option.bind_eq_some_iff.mp h
      cases h
      simp only [List.cons_append]
      rw [units?_long hn, ih htail]
      rfl
  | case4 e after _ ih =>
      obtain ⟨c, hc, h⟩ := Option.bind_eq_some_iff.mp h
      obtain ⟨⟨tail, left⟩, htail, h⟩ := Option.bind_eq_some_iff.mp h
      cases h
      -- the long escape is no short one, so too few digits stay too few
      have he : e ≠ 'u' := by
        rintro rfl
        cases hc
      simp only [List.cons_append]
      rw [units?_short he hc, ih htail]
      rfl
  | case5 => cases h
  | case6 c after hquote _ _ hplain ih =>
      obtain ⟨⟨tail, left⟩, htail, h⟩ := Option.bind_eq_some_iff.mp h
      cases h
      rw [Bool.or_eq_true, decide_eq_true_eq, beq_iff_eq, not_or] at hplain
      rw [List.cons_append, units?_char hquote hplain.2 (Nat.le_of_not_lt hplain.1), ih htail]
      rfl

theorem string?_append {s rest : List Char} {text : Option String}
    (h : string? s = some (text, rest)) (more : List Char) :
    string? (s ++ more) = some (text, rest ++ more) := by
  obtain ⟨⟨us, left⟩, hus, h⟩ := Option.map_eq_some_iff.mp h
  cases h
  rw [string?, units?_append hus]
  rfl

/-! ### Numbers -/

theorem fraction?_append {s digits rest : List Char} (h : fraction? s = some (digits, rest))
    (hrest : rest ≠ []) (more : List Char) :
    fraction? (s ++ more) = some (digits, rest ++ more) := by
  unfold fraction? at h
  split at h
  · rename_i after
    dsimp only at h
    split at h
    · cases h
    · rename_i hdigits
      cases h
      rw [List.cons_append, fraction?, takeWhile_append_more hrest, dropWhile_append_more hrest, if_neg hdigits]
  · rename_i hpoint
    cases h
    obtain ⟨c, t, rfl⟩ := List.exists_cons_of_ne_nil hrest
    unfold fraction?
    split
    · rename_i he
      injection he with hc _
      exact absurd (congrArg (· :: t) hc) (hpoint t)
    · rfl

/-- The sign in front of the digits of an exponent, and what follows it. -/
def sign (s : List Char) : Bool × List Char :=
  if s.head? = some '+' then (false, s.tail)
  else if s.head? = some '-' then (true, s.tail)
  else (false, s)

/-- The digits of an exponent with its sign, and what follows them. -/
def signed? (negative : Bool) (s : List Char) : Option (Int × List Char) :=
  let digits := s.takeWhile isAsciiDigit
  let value : Int := Decimal.valueOf digits
  if digits.isEmpty then none
  else some (if negative then -value else value, s.dropWhile isAsciiDigit)

theorem exponent?_letter {c : Char} (hc : (c == 'e' || c == 'E') = true) (s : List Char) :
    exponent? (c :: s) = signed? (sign s).1 (sign s).2 := by
  unfold exponent?
  dsimp only
  rw [if_pos hc]
  split
  · rfl
  · rfl
  · rename_i hplus hminus
    have hnone : sign s = (false, s) := by
      cases s with
      | nil => rfl
      | cons d t =>
          rw [sign, if_neg, if_neg]
          · intro hd
            cases hd
            exact hminus t rfl
          · intro hd
            cases hd
            exact hplus t rfl
    rw [hnone]
    rfl

theorem sign_append {s : List Char} (h : s ≠ []) (more : List Char) :
    sign (s ++ more) = ((sign s).1, (sign s).2 ++ more) := by
  obtain ⟨c, t, rfl⟩ := List.exists_cons_of_ne_nil h
  rw [sign, sign, List.cons_append, List.head?_cons, List.head?_cons]
  by_cases hplus : some c = some '+'
  · rw [if_pos hplus, if_pos hplus]
    rfl
  · rw [if_neg hplus, if_neg hplus]
    by_cases hminus : some c = some '-'
    · rw [if_pos hminus, if_pos hminus]
      rfl
    · rw [if_neg hminus, if_neg hminus]
      rfl

theorem signed?_append {negative : Bool} {s rest : List Char} {value : Int}
    (h : signed? negative s = some (value, rest)) (hrest : rest ≠ []) (more : List Char) :
    signed? negative (s ++ more) = some (value, rest ++ more) := by
  unfold signed? at h
  dsimp only at h
  split at h
  · cases h
  · rename_i hdigits
    cases h
    rw [signed?, takeWhile_append_more hrest, dropWhile_append_more hrest]
    exact if_neg hdigits

theorem exponent?_append {s rest : List Char} {value : Int} (h : exponent? s = some (value, rest))
    (hrest : rest ≠ []) (more : List Char) :
    exponent? (s ++ more) = some (value, rest ++ more) := by
  cases s with
  | nil =>
      cases h
      exact absurd rfl hrest
  | cons c t =>
      by_cases hc : (c == 'e' || c == 'E') = true
      · rw [exponent?_letter hc] at h
        rw [List.cons_append, exponent?_letter hc]
        have ht : t ≠ [] := by
          rintro rfl
          cases h
        rw [sign_append ht]
        exact signed?_append h hrest more
      · unfold exponent? at h ⊢
        dsimp only [List.cons_append] at h ⊢
        rw [if_neg hc] at h ⊢
        cases h
        rfl

/-- A number after its sign, and what follows it. -/
def unsigned? (negative : Bool) (s : List Char) : Option (Json × List Char) := do
  let digits := s.takeWhile isAsciiDigit
  let rest := s.dropWhile isAsciiDigit
  if digits.isEmpty || (digits.head? == some '0' && digits.length ≠ 1) then none
  let (fraction, afterFraction) ← fraction? rest
  let (exponent, after) ← exponent? afterFraction
  let whole := after.length == rest.length && !(negative && Decimal.valueOf digits == 0)
  some (.number (Decimal.ofParts negative digits fraction exponent) whole, after)

theorem number?_eq (s : List Char) : number? s
    = unsigned? (s.head? == some '-') (if s.head? == some '-' then s.tail else s) := rfl

theorem unsigned?_append {negative : Bool} {s rest : List Char} {v : Json}
    (h : unsigned? negative s = some (v, rest)) (hrest : rest ≠ []) (more : List Char) :
    unsigned? negative (s ++ more) = some (v, rest ++ more) := by
  unfold unsigned? at h
  dsimp only at h
  split at h
  · cases h
  · rename_i hdigits
    obtain ⟨⟨fraction, t⟩, hfraction, h⟩ := Option.bind_eq_some_iff.mp h
    obtain ⟨⟨exponent, after⟩, hexponent, h⟩ := Option.bind_eq_some_iff.mp h
    cases h
    -- there is something left after each part, because there is after the last one
    have ht : t ≠ [] := by
      rintro rfl
      cases hexponent
      exact hrest rfl
    have hs : s.dropWhile isAsciiDigit ≠ [] := by
      intro he
      rw [he] at hfraction
      cases hfraction
      exact ht rfl
    have hwhole : ((after ++ more).length == (s.dropWhile isAsciiDigit ++ more).length)
        = (after.length == (s.dropWhile isAsciiDigit).length) := by
      rw [Bool.eq_iff_iff, beq_iff_eq, beq_iff_eq, List.length_append, List.length_append]
      omega
    unfold unsigned?
    dsimp only
    rw [takeWhile_append_more hs, dropWhile_append_more hs, if_neg hdigits,
      fraction?_append hfraction ht]
    simp only [Option.bind_eq_bind, Option.bind_some]
    rw [exponent?_append hexponent hrest]
    simp only [Option.bind_some]
    rw [hwhole]

theorem number_of_unsigned? {negative : Bool} {s rest : List Char} {v : Json}
    (h : unsigned? negative s = some (v, rest)) : ∃ x whole, v = .number x whole := by
  unfold unsigned? at h
  dsimp only at h
  split at h
  · cases h
  · obtain ⟨_, _, h⟩ := Option.bind_eq_some_iff.mp h
    obtain ⟨_, _, h⟩ := Option.bind_eq_some_iff.mp h
    cases h
    exact ⟨_, _, rfl⟩

/-- **A number with more behind it is read in the same way** whatever comes after that. -/
theorem number?_append {s rest : List Char} {v : Json} (h : number? s = some (v, rest))
    (hrest : rest ≠ []) (more : List Char) : number? (s ++ more) = some (v, rest ++ more) := by
  cases s with
  | nil => cases h
  | cons c t =>
      rw [number?_eq, List.head?_cons] at h
      rw [number?_eq, List.cons_append, List.head?_cons]
      have h := unsigned?_append h hrest more
      split at h
      · rename_i hsign
        rw [if_pos hsign]
        exact h
      · rename_i hsign
        rw [if_neg hsign]
        exact h

/-! ## Values -/

theorem of_items? {fuel : Nat} {s rest : List Char} {items : List Json}
    (h : items? (fuel + 1) s = some (items, rest)) :
    ∃ item t, value? fuel s = some (item, t) ∧
      ((skipBlanks t = ']' :: rest ∧ items = [item]) ∨
        ∃ more tail, skipBlanks t = ',' :: more ∧ items? fuel more = some (tail, rest) ∧
          items = item :: tail) := by
  rw [items?] at h
  obtain ⟨⟨item, t⟩, hv, h⟩ := Option.bind_eq_some_iff.mp h
  refine ⟨item, t, hv, ?_⟩
  dsimp only at h
  split at h
  · rename_i more ht
    obtain ⟨⟨tail, after⟩, htail, h⟩ := Option.bind_eq_some_iff.mp h
    cases h
    exact Or.inr ⟨more, tail, ht, htail, rfl⟩
  · rename_i after ht
    cases h
    exact Or.inl ⟨ht, rfl⟩
  · cases h

theorem of_members? {fuel : Nat} {s rest : List Char} {members : List (Option String × Json)}
    (h : members? (fuel + 1) s = some (members, rest)) :
    ∃ body key u after value t, skipBlanks s = '"' :: body ∧ string? body = some (key, u) ∧
      skipBlanks u = ':' :: after ∧ value? fuel after = some (value, t) ∧
      ((skipBlanks t = '\x7d' :: rest ∧ members = [(key, value)]) ∨
        ∃ more tail, skipBlanks t = ',' :: more ∧ members? fuel more = some (tail, rest) ∧
          members = (key, value) :: tail) := by
  rw [members?] at h
  split at h
  · rename_i body hs
    obtain ⟨⟨key, u⟩, hk, h⟩ := Option.bind_eq_some_iff.mp h
    dsimp only at h
    split at h
    · rename_i after hu
      obtain ⟨⟨value, t⟩, hv, h⟩ := Option.bind_eq_some_iff.mp h
      refine ⟨body, key, u, after, value, t, hs, hk, hu, hv, ?_⟩
      dsimp only at h
      split at h
      · rename_i more ht
        obtain ⟨⟨tail, left⟩, htail, h⟩ := Option.bind_eq_some_iff.mp h
        cases h
        exact Or.inr ⟨more, tail, ht, htail, rfl⟩
      · rename_i left ht
        cases h
        exact Or.inl ⟨ht, rfl⟩
      · cases h
    · cases h
  · cases h

/-- The text shows where the value ends: something follows it, or it is no number. -/
def Ends (v : Json) (rest : List Char) : Prop := rest = [] → ∀ x whole, v ≠ .number x whole

theorem ends_of_skipBlanks {v : Json} {s t : List Char} {c : Char} (h : skipBlanks s = c :: t) :
    v.Ends s := by
  rintro rfl
  cases h

/-- What the reader makes of a value, of items and of members with this fuel, it makes of longer texts. -/
structure Stable (fuel : Nat) : Prop where
  value : ∀ {s rest v}, value? fuel s = some (v, rest) → v.Ends rest → ∀ {fuel'}, fuel ≤ fuel' →
    ∀ more, value? fuel' (s ++ more) = some (v, rest ++ more)
  items : ∀ {s rest is}, items? fuel s = some (is, rest) → ∀ {fuel'}, fuel ≤ fuel' →
    ∀ more, items? fuel' (s ++ more) = some (is, rest ++ more)
  members : ∀ {s rest ms}, members? fuel s = some (ms, rest) → ∀ {fuel'}, fuel ≤ fuel' →
    ∀ more, members? fuel' (s ++ more) = some (ms, rest ++ more)

theorem items?_succ_append {fuel fuel' : Nat} (ih : Stable fuel) {s rest : List Char}
    {items : List Json} (h : items? (fuel + 1) s = some (items, rest)) (hle : fuel ≤ fuel')
    (more : List Char) : items? (fuel' + 1) (s ++ more) = some (items, rest ++ more) := by
  obtain ⟨item, t, hv, hend⟩ := of_items? h
  rcases hend with ⟨ht, rfl⟩ | ⟨next, tail, ht, htail, rfl⟩
  · have hvalue := ih.value hv (ends_of_skipBlanks ht) hle more
    exact items?_last hvalue (skipBlanks_append ht more)
  · have hvalue := ih.value hv (ends_of_skipBlanks ht) hle more
    rw [items?_more hvalue (skipBlanks_append ht more), ih.items htail hle more]
    rfl

theorem members?_succ_append {fuel fuel' : Nat} (ih : Stable fuel) {s rest : List Char}
    {members : List (Option String × Json)} (h : members? (fuel + 1) s = some (members, rest))
    (hle : fuel ≤ fuel') (more : List Char) :
    members? (fuel' + 1) (s ++ more) = some (members, rest ++ more) := by
  obtain ⟨body, key, u, after, value, t, hs, hk, hu, hv, hend⟩ := of_members? h
  have hs := skipBlanks_append hs more
  have hk := string?_append hk more
  have hu := skipBlanks_append hu more
  rcases hend with ⟨ht, rfl⟩ | ⟨next, tail, ht, htail, rfl⟩
  · have hvalue := ih.value hv (ends_of_skipBlanks ht) hle more
    exact members?_last hs hk hu hvalue (skipBlanks_append ht more)
  · have hvalue := ih.value hv (ends_of_skipBlanks ht) hle more
    rw [members?_more hs hk hu hvalue (skipBlanks_append ht more), ih.members htail hle more]
    rfl

/-- There is neither an item nor a member at the end of a text. -/
theorem items?_nil (fuel : Nat) : items? fuel [] = none := by
  cases fuel with
  | zero => rw [items?]
  | succ fuel =>
      cases h : items? (fuel + 1) [] with
      | none => rfl
      | some found =>
          obtain ⟨item, t, hv, _⟩ := of_items? h
          cases fuel with
          | zero => rw [value?] at hv; cases hv
          | succ fuel => rw [value?] at hv; cases hv

theorem members?_nil (fuel : Nat) : members? fuel [] = none := by
  cases fuel with
  | zero => rw [members?]
  | succ fuel => rw [members?]; rfl

/-- What is behind a bracket, if it holds items, does not begin with the closing one. -/
theorem ne_close_append {s : List Char} {close : Char} (hs : s ≠ [])
    (h : ∀ rest, s = close :: rest → False) (more rest : List Char) :
    s ++ more ≠ close :: rest := by
  obtain ⟨c, t, rfl⟩ := List.exists_cons_of_ne_nil hs
  intro he
  injection he with hc _
  exact h t (congrArg (· :: t) hc)

/-- One step of the reader: each form of a value on its own, by its first character. -/
theorem value?_succ_append {fuel fuel' : Nat} (ih : Stable fuel) {s rest : List Char} {v : Json}
    (h : value? (fuel + 1) s = some (v, rest)) (hend : v.Ends rest) (hle : fuel ≤ fuel')
    (more : List Char) : value? (fuel' + 1) (s ++ more) = some (v, rest ++ more) := by
  rw [value?] at h
  split at h
  -- the three words and the strings
  · rename_i t hs
    obtain ⟨after, hword, h⟩ := Option.map_eq_some_iff.mp h
    cases h
    simp only [value?, skipBlanks_append hs more, word?_append hword, Option.map_some]
  · rename_i t hs
    obtain ⟨after, hword, h⟩ := Option.map_eq_some_iff.mp h
    cases h
    simp only [value?, skipBlanks_append hs more, word?_append hword, Option.map_some]
  · rename_i t hs
    obtain ⟨after, hword, h⟩ := Option.map_eq_some_iff.mp h
    cases h
    simp only [value?, skipBlanks_append hs more, word?_append hword, Option.map_some]
  · rename_i t hs
    obtain ⟨⟨text, after⟩, hstring, h⟩ := Option.map_eq_some_iff.mp h
    cases h
    simp only [value?, skipBlanks_append hs more, string?_append hstring, Option.map_some]
  -- lists and records, empty or not
  · rename_i t hs
    split at h
    · rename_i after ht
      cases h
      simp only [value?, skipBlanks_append hs more, skipBlanks_append ht more]
    · rename_i hclose
      obtain ⟨⟨items, after⟩, hitems, h⟩ := Option.map_eq_some_iff.mp h
      cases h
      have hne : skipBlanks t ≠ [] := by
        intro he
        rw [he, items?_nil] at hitems
        cases hitems
      have hopen : value? (fuel' + 1) (s ++ more) = value? (fuel' + 1) ('[' :: (t ++ more)) :=
        value?_congr (skipBlanks_append hs more)
      rw [hopen, value?_list (skipBlanks_append_of_ne_nil hne more) (ne_close_append hne hclose more),
        ih.items hitems hle more]
      rfl
  · rename_i t hs
    split at h
    · rename_i after ht
      cases h
      simp only [value?, skipBlanks_append hs more, skipBlanks_append ht more]
    · rename_i hclose
      obtain ⟨⟨members, after⟩, hmembers, h⟩ := Option.map_eq_some_iff.mp h
      cases h
      have hne : skipBlanks t ≠ [] := by
        intro he
        rw [he, members?_nil] at hmembers
        cases hmembers
      have hopen : value? (fuel' + 1) (s ++ more) = value? (fuel' + 1) ('\x7b' :: (t ++ more)) :=
        value?_congr (skipBlanks_append hs more)
      rw [hopen, value?_record (skipBlanks_append_of_ne_nil hne more)
        (ne_close_append hne hclose more), ih.members hmembers hle more]
      rfl
  -- a number
  · rename_i hn ht hf hstring hlist hrecord
    have hne : skipBlanks s ≠ [] := by
      intro he
      rw [he] at h
      cases h
    have hrest : rest ≠ [] := by
      intro hnil
      rw [number?_eq] at h
      obtain ⟨x, whole, hv⟩ := number_of_unsigned? h
      exact hend hnil x whole hv
    rw [value?, skipBlanks_append_of_ne_nil hne]
    split
    · exact absurd (by assumption) (ne_close_append hne hn more _)
    · exact absurd (by assumption) (ne_close_append hne ht more _)
    · exact absurd (by assumption) (ne_close_append hne hf more _)
    · exact absurd (by assumption) (ne_close_append hne hstring more _)
    · exact absurd (by assumption) (ne_close_append hne hlist more _)
    · exact absurd (by assumption) (ne_close_append hne hrecord more _)
    · exact number?_append h hrest more

/-- **The reader looks no further than its value,** however much text and fuel there is. -/
theorem stable (fuel : Nat) : Stable fuel := by
  induction fuel with
  | zero =>
      refine ⟨?_, ?_, ?_⟩
      · intro s rest v h
        rw [value?] at h
        cases h
      · intro s rest items h
        rw [items?] at h
        cases h
      · intro s rest members h
        rw [members?] at h
        cases h
  | succ fuel ih =>
      have hmore : ∀ {fuel'}, fuel + 1 ≤ fuel' → ∃ f, fuel' = f + 1 ∧ fuel ≤ f := by
        intro fuel' hle
        exact ⟨fuel' - 1, by omega, by omega⟩
      refine ⟨?_, ?_, ?_⟩
      · intro s rest v h hend fuel' hle more
        obtain ⟨f, rfl, hf⟩ := hmore hle
        exact value?_succ_append ih h hend hf more
      · intro s rest items h fuel' hle more
        obtain ⟨f, rfl, hf⟩ := hmore hle
        exact items?_succ_append ih h hf more
      · intro s rest members h fuel' hle more
        obtain ⟨f, rfl, hf⟩ := hmore hle
        exact members?_succ_append ih h hf more

/-! ## Lists that are cut short -/

/-- The pretty form of a list begins with its bracket. -/
theorem pretty_array (level : Nat) (items : List Json) :
    ∃ t, (Json.array items).pretty level = '[' :: t := by
  by_cases h : items = []
  · subst h
    exact ⟨[']'], by rw [pretty]⟩
  · exact ⟨_, pretty_list level h⟩

/-- What begins with a bracket is no number. -/
theorem ends_of_bracket {fuel : Nat} {s rest : List Char} {v : Json}
    (h : value? fuel ('[' :: s) = some (v, rest)) : v.Ends rest := by
  intro _ x whole he
  cases fuel with
  | zero => rw [value?] at h; cases h
  | succ fuel =>
      have hopen : skipBlanks ('[' :: s) = '[' :: s := rfl
      simp only [value?, hopen] at h
      split at h
      · cases h
        cases he
      · obtain ⟨_, _, h⟩ := Option.map_eq_some_iff.mp h
        cases h
        cases he

/-- **A list that is cut before its end is no value.** -/
theorem parse?_eq_none_of_cut {items : List Json} (hplain : (Json.array items).Plain) (level : Nat)
    {p : List Char} (hp : p <+: (Json.array items).pretty level)
    (hcut : p ≠ (Json.array items).pretty level) : parse? (String.ofList p) = none := by
  obtain ⟨more, hmore⟩ := hp
  have hread : value? (2 * p.length + 2) p = none := by
    cases hv : value? (2 * p.length + 2) p with
    | none => rfl
    | some found =>
        obtain ⟨v, rest⟩ := found
        -- it would be read from the whole list as well, with something left
        obtain ⟨t, ht⟩ := pretty_array level items
        have hends : v.Ends rest := by
          cases p with
          | nil => rw [value?] at hv; cases hv
          | cons c p =>
              rw [ht, List.cons_append] at hmore
              injection hmore with hc _
              subst hc
              exact ends_of_bracket hv
        have hlong := (stable _).value hv hends
          (Nat.le_add_right _ ((Json.array items).pretty level).length) more
        have hwhole := readsBack hplain level
          (2 * p.length + 2 + ((Json.array items).pretty level).length) [] (by omega) stops_nil
        rw [hmore] at hlong
        rw [List.append_nil, hlong] at hwhole
        injection hwhole with hwhole
        injection hwhole with _ hrest
        rw [(List.append_eq_nil_iff.mp hrest).2, List.append_nil] at hmore
        exact absurd hmore hcut
  unfold parse?
  rw [String.toList_ofList]
  dsimp only
  rw [hread]

end Grounded.Json
