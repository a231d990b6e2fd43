import Grounded.Json.Read
import Grounded.Json.Write
import Grounded.Proofs.Numeral

/-!
# JSON read back

Everything that an index stores as JSON is `Plain`: lists, records with texts as keys, texts and natural
numbers. The pretty form of a plain value is read as that value, at any level of indentation and with
anything behind it that may follow a value in a list or record.

The reader is bounded by fuel. A value needs no more of it than its pretty form has characters: every
list or record costs the reader two steps and the writer two brackets, every item one step and one line
break. So the length of the text is the measure that the induction carries, and no separate cost of a
value is needed.
-/

namespace Grounded.Json

open Text

/-! ## Texts -/

/-- A unit in front of what is read from the rest of a string. -/
def before (u : StringUnit) (r : Option (List StringUnit × List Char)) :
    Option (List StringUnit × List Char) :=
  r.bind fun (us, rest) => some (u :: us, rest)

theorem units?_short {e c : Char} (he : e ≠ 'u') (hc : shortEscape? e = some c) (s : List Char) :
    units? ('\\' :: e :: s) = before (.char c) (units? s) := by
  rw [units?]
  · rw [hc]
    rfl
  · intro a b c d rest h _
    exact he h

theorem units?_long {a b c d : Char} {n : Nat} (hn : digitsValue? 16 [a, b, c, d] = some n)
    (s : List Char) :
    units? ('\\' :: 'u' :: a :: b :: c :: d :: s) = before (.escape n) (units? s) := by
  rw [units?, hn]
  rfl

theorem units?_char {c : Char} (h1 : c ≠ '"') (h2 : c ≠ '\\') (h3 : 0x20 ≤ c.toNat)
    (s : List Char) : units? (c :: s) = before (.char c) (units? s) := by
  rw [units?]
  · rw [if_neg]
    · rfl
    · rw [Bool.or_eq_true, decide_eq_true_eq, beq_iff_eq]
      rintro (h | h)
      · omega
      · exact h2 h
  · exact h1
  · intro a b c d rest h _
    exact h2 h
  · intro e rest h _
    exact h2 h

/-- The four digits of the escape of a control character. -/
theorem digitsValue?_control {n : Nat} (h : n < 0x20) :
    digitsValue? 16 ['0', '0', Nat.digitChar (n / 16), Nat.digitChar (n % 16)] = some n := by
  revert n
  decide

/-- **An escaped character is read as one unit, which spells it.** -/
theorem units?_escapeChar (c : Char) (s : List Char) :
    ∃ u, units? (escapeChar c ++ s) = before u (units? s) ∧
      ∀ us, spell? (u :: us) = (spell? us).map (c :: ·) := by
  unfold escapeChar
  split
  · exact ⟨.char '"', units?_short (by decide) rfl s, fun us => rfl⟩
  · exact ⟨.char '\\', units?_short (by decide) rfl s, fun us => rfl⟩
  · exact ⟨.char '\x08', units?_short (by decide) rfl s, fun us => rfl⟩
  · exact ⟨.char '\x0c', units?_short (by decide) rfl s, fun us => rfl⟩
  · exact ⟨.char '\n', units?_short (by decide) rfl s, fun us => rfl⟩
  · exact ⟨.char '\r', units?_short (by decide) rfl s, fun us => rfl⟩
  · exact ⟨.char '\t', units?_short (by decide) rfl s, fun us => rfl⟩
  -- a control character is spelled by its number, which is no half of a pair
  · rename_i hquote hslash _ _ _ _ _
    split
    · rename_i hcontrol
      refine ⟨.escape c.toNat, units?_long (digitsValue?_control hcontrol) s, ?_⟩
      intro us
      have hhigh : isHighSurrogate c.toNat = false := by
        unfold isHighSurrogate
        rw [Bool.and_eq_false_iff]
        left
        rw [decide_eq_false_iff_not]
        omega
      have hlow : isLowSurrogate c.toNat = false := by
        unfold isLowSurrogate
        rw [Bool.and_eq_false_iff]
        left
        rw [decide_eq_false_iff_not]
        omega
      rw [spell?.eq_def]
      dsimp only
      rw [hhigh, hlow, Char.ofNat_toNat]
      rfl
    · rename_i hcontrol
      exact ⟨.char c, units?_char hquote hslash (Nat.le_of_not_lt hcontrol) s, fun us => rfl⟩

/-- **Every text is read back from its quoted form,** whatever characters it holds. -/
theorem string?_quote (text : String) (rest : List Char) :
    string? (text.toList.flatMap escapeChar ++ '"' :: rest) = some (some text, rest) := by
  have hunits : ∀ cs : List Char, ∃ us, units? (cs.flatMap escapeChar ++ '"' :: rest)
      = some (us, rest) ∧ spell? us = some cs := by
    intro cs
    induction cs with
    | nil => exact ⟨[], rfl, rfl⟩
    | cons c cs ih =>
        obtain ⟨us, hus, hs⟩ := ih
        obtain ⟨u, hu, hspell⟩ := units?_escapeChar c (cs.flatMap escapeChar ++ '"' :: rest)
        refine ⟨u :: us, ?_, ?_⟩
        · rw [List.flatMap_cons, List.append_assoc, hu, hus]
          rfl
        · rw [hspell, hs]
          rfl
  obtain ⟨us, hus, hs⟩ := hunits text.toList
  rw [string?, hus, Option.map_some]
  dsimp only
  rw [hs, Option.map_some, String.ofList_toList]

/-! ## Numbers -/

/-- What may follow a value in a list or a record: nothing, a comma or a line break. -/
def Stops (rest : List Char) : Prop := ∀ c ∈ rest.head?, c = ',' ∨ c = '\n'

theorem stops_nil : Stops [] := by
  intro c hc
  cases hc

theorem stops_comma (rest : List Char) : Stops (',' :: rest) := by
  intro c hc
  cases hc
  exact Or.inl rfl

theorem stops_breakLine (level : Nat) (rest : List Char) : Stops (breakLine level ++ rest) := by
  intro c hc
  cases hc
  exact Or.inr rfl

/-- Only zero is written with a leading zero. -/
theorem head?_toDigits_ne_zero {n : Nat} (h : n ≠ 0) : (Nat.toDigits 10 n).head? ≠ some '0' := by
  induction n using Nat.strongRecOn with
  | ind n ih =>
      by_cases hn : n < 10
      · rw [Nat.toDigits_of_lt_base hn, List.head?_cons]
        intro he
        exact h (Nat.digitChar_eq_zero.mp (Option.some.inj he))
      -- a longer number begins with the digits of its tenth
      · have hq : n / 10 ≠ 0 := by omega
        rw [Nat.toDigits_of_base_le (by decide) (by omega), List.head?_append]
        cases hd : (Nat.toDigits 10 (n / 10)).head? with
        | none => exact absurd (List.head?_eq_none_iff.mp hd) Nat.toDigits_ne_nil
        | some c =>
            have hc := ih (n / 10) (by omega) hq
            rw [hd] at hc
            exact hc

theorem leadingZero_toDigits (n : Nat) :
    ((Nat.toDigits 10 n).isEmpty || ((Nat.toDigits 10 n).head? == some '0' &&
      decide ((Nat.toDigits 10 n).length ≠ 1))) = false := by
  have hne : (Nat.toDigits 10 n).isEmpty = false := by
    rw [List.isEmpty_eq_false_iff]; exact Nat.toDigits_ne_nil
  rw [hne, Bool.false_or, Bool.and_eq_false_iff]
  by_cases h : n = 0
  · subst h
    exact Or.inr rfl
  · left
    rw [beq_eq_false_iff_ne]
    exact head?_toDigits_ne_zero h

/-- Digits differ from all that are none. -/
theorem ne_of_isAsciiDigit {c d : Char} (hc : isAsciiDigit c = true) (hd : isAsciiDigit d = false) :
    c ≠ d := by
  rintro rfl
  rw [hc] at hd
  cases hd

/-- A character that may follow a value is not part of a number. -/
theorem stops_not {p : Char → Bool} {rest : List Char} (h : Stops rest) (hcomma : p ',' = false)
    (hline : p '\n' = false) : ∀ c ∈ rest.head?, p c = false := by
  intro c hc
  rcases h c hc with rfl | rfl
  · exact hcomma
  · exact hline

/-- **A written natural number is read back,** up to what may follow a value. -/
theorem number?_toDigits (n : Nat) {rest : List Char} (h : Stops rest) :
    number? (Nat.toDigits 10 n ++ rest) = some (ofNat n, rest) := by
  have hdigits := takeWhile_toDigits_append (p := isAsciiDigit) (n := n) _
    (fun c => isAsciiDigit_of_mem_toDigits) (stops_not h rfl rfl)
  have hsign : ((Nat.toDigits 10 n ++ rest).head? == some '-') = false := by
    rw [beq_eq_false_iff_ne]
    cases hd : Nat.toDigits 10 n with
    | nil => exact absurd hd Nat.toDigits_ne_nil
    | cons d ds =>
        have hmem : isAsciiDigit d = true := isAsciiDigit_of_mem_toDigits (hd ▸ List.mem_cons_self)
        intro he
        exact ne_of_isAsciiDigit hmem rfl (Option.some.inj he)
  -- neither a comma nor a line break begins a fraction or an exponent
  have hfraction : fraction? rest = some ([], rest) := by
    unfold fraction?
    split
    · rcases h '.' rfl with he | he
      · exact absurd he (by decide)
      · exact absurd he (by decide)
    · rfl
  have hexponent : exponent? rest = some (0, rest) := by
    cases rest with
    | nil => rfl
    | cons c rest =>
        have hc := stops_not (p := fun c => c == 'e' || c == 'E') h rfl rfl c rfl
        unfold exponent?
        dsimp only
        rw [hc]
        rfl
  unfold number?
  dsimp only
  rw [hsign]
  simp only [Bool.false_eq_true, if_false, hdigits.1, hdigits.2]
  rw [leadingZero_toDigits, if_neg (by decide), hfraction]
  simp only [Option.bind_eq_bind, Option.bind_some]
  rw [hexponent]
  simp only [Option.bind_some]
  rw [Decimal.ofParts, List.append_nil, Decimal.valueOf_toDigits, ofNat, beq_self_eq_true]
  rfl

theorem pretty_ofNat (level n : Nat) : (ofNat n).pretty level = Nat.toDigits 10 n := by
  rw [ofNat, pretty, Decimal.plain, if_neg (Int.lt_irrefl 0)]
  simp only [Decimal.sign, String.toList_append, Nat.toString_eq_repr, Nat.toList_repr]
  rw [show n * Nat.pow 10 (0 : Int).natAbs = n from Nat.mul_one n]
  rfl

/-! ## Values -/

/-- The values that an index stores: lists, records and what they hold at last. -/
inductive Plain : Json → Prop where
  | null : Plain .null
  | bool (b : Bool) : Plain (.bool b)
  | nat (n : Nat) : Plain (ofNat n)
  | text (s : String) : Plain (ofText s)
  | list (items : List Json) : (∀ j ∈ items, Plain j) → Plain (.array items)
  | record (fields : List (String × Json)) : (∀ f ∈ fields, Plain f.2) → Plain (ofFields fields)

theorem skipBlanks_breakLine (level : Nat) (s : List Char) :
    skipBlanks (breakLine level ++ s) = skipBlanks s := by
  have hspaces : ∀ n, skipBlanks (List.replicate n ' ' ++ s) = skipBlanks s := by
    intro n
    induction n with
    | zero => rfl
    | succ n ih =>
        rw [List.replicate_succ, List.cons_append]
        exact ih
  exact hspaces (2 * level)

/-- The text begins with a character that is no blank and closes nothing. -/
def Begins (s : List Char) : Prop :=
  ∃ c t, s = c :: t ∧ (c == ' ' || c == '\n' || c == '\t' || c == '\r') = false ∧
    c ≠ ']' ∧ c ≠ '\x7d'

theorem Begins.ne_close {s : List Char} (h : Begins s) :
    (∀ rest, s ≠ ']' :: rest) ∧ ∀ rest, s ≠ '\x7d' :: rest := by
  obtain ⟨c, t, rfl, _, hlist, hrecord⟩ := h
  constructor
  · intro rest he
    injection he with hc _
    exact hlist hc
  · intro rest he
    injection he with hc _
    exact hrecord hc

theorem skipBlanks_of_begins {s : List Char} (h : Begins s) : skipBlanks s = s := by
  obtain ⟨c, t, rfl, hc, _, _⟩ := h
  exact List.dropWhile_cons_of_neg (by rw [hc]; decide)

theorem begins_of_isAsciiDigit {c : Char} (h : isAsciiDigit c = true) (t : List Char) :
    Begins (c :: t) := by
  refine ⟨c, t, rfl, ?_, ne_of_isAsciiDigit h rfl, ne_of_isAsciiDigit h rfl⟩
  simp only [Bool.or_eq_false_iff, beq_eq_false_iff_ne]
  exact ⟨⟨⟨ne_of_isAsciiDigit h rfl, ne_of_isAsciiDigit h rfl⟩, ne_of_isAsciiDigit h rfl⟩,
    ne_of_isAsciiDigit h rfl⟩

theorem begins_toDigits (n : Nat) (rest : List Char) : Begins (Nat.toDigits 10 n ++ rest) := by
  cases hd : Nat.toDigits 10 n with
  | nil => exact absurd hd Nat.toDigits_ne_nil
  | cons d ds =>
      exact begins_of_isAsciiDigit (isAsciiDigit_of_mem_toDigits (hd ▸ List.mem_cons_self)) _

/-- A pretty form begins with its value. -/
theorem begins_pretty {j : Json} (h : Plain j) (level : Nat) (rest : List Char) :
    Begins (j.pretty level ++ rest) := by
  cases h with
  | null => exact ⟨'n', _, rfl, by decide, by decide, by decide⟩
  | bool b =>
      cases b with
      | true => exact ⟨'t', _, rfl, by decide, by decide, by decide⟩
      | false => exact ⟨'f', _, rfl, by decide, by decide, by decide⟩
  | nat n => rw [pretty_ofNat]; exact begins_toDigits n rest
  | text s => exact ⟨'"', _, rfl, by decide, by decide, by decide⟩
  | list items _ =>
      cases items with
      | nil => exact ⟨'[', _, rfl, by decide, by decide, by decide⟩
      | cons item items => exact ⟨'[', _, rfl, by decide, by decide, by decide⟩
  | record fields _ =>
      cases fields with
      | nil => exact ⟨'\x7b', _, rfl, by decide, by decide, by decide⟩
      | cons f fields => exact ⟨'\x7b', _, rfl, by decide, by decide, by decide⟩

/-- Blanks in front of a value do not matter. -/
theorem value?_congr {fuel : Nat} {s t : List Char} (h : skipBlanks s = skipBlanks t) :
    value? fuel s = value? fuel t := by
  cases fuel with
  | zero => rw [value?, value?]
  | succ fuel => rw [value?, value?, h]

theorem value?_space (fuel : Nat) (s : List Char) : value? fuel (' ' :: s) = value? fuel s :=
  value?_congr rfl

/-- A digit begins a number. -/
theorem value?_digit {c : Char} (h : isAsciiDigit c = true) (fuel : Nat) (t : List Char) :
    value? (fuel + 1) (c :: t) = number? (c :: t) := by
  rw [value?, skipBlanks_of_begins (begins_of_isAsciiDigit h t)]
  split
  -- every other value begins with a character of its own, which is no digit
  all_goals first
    | rfl
    | rename_i he
      injection he with he _
      exact absurd he (ne_of_isAsciiDigit h rfl)

/-- The value is read back from its pretty form at a level, whatever may follow it. -/
def ReadsBack (level : Nat) (j : Json) : Prop :=
  ∀ (fuel : Nat) (rest : List Char), (j.pretty level).length ≤ fuel → Stops rest →
    value? fuel (j.pretty level ++ rest) = some (j, rest)

/-! ### The steps of the reader -/

theorem items?_last {fuel : Nat} {s t rest : List Char} {item : Json}
    (hv : value? fuel s = some (item, t)) (ht : skipBlanks t = ']' :: rest) :
    items? (fuel + 1) s = some ([item], rest) := by
  simp only [items?, hv, Option.bind_eq_bind, Option.bind_some, ht]

theorem items?_more {fuel : Nat} {s t more : List Char} {item : Json}
    (hv : value? fuel s = some (item, t)) (ht : skipBlanks t = ',' :: more) :
    items? (fuel + 1) s = (items? fuel more).bind fun (items, rest) => some (item :: items, rest) := by
  simp only [items?, hv, Option.bind_eq_bind, Option.bind_some, ht]

theorem members?_last {fuel : Nat} {s body u after t rest : List Char} {key : Option String}
    {value : Json} (hs : skipBlanks s = '"' :: body) (hk : string? body = some (key, u))
    (hu : skipBlanks u = ':' :: after) (hv : value? fuel after = some (value, t))
    (ht : skipBlanks t = '\x7d' :: rest) :
    members? (fuel + 1) s = some ([(key, value)], rest) := by
  simp only [members?, hs, hk, hv, ht, hu, Option.bind_eq_bind, Option.bind_some]

theorem members?_more {fuel : Nat} {s body u after t more : List Char} {key : Option String}
    {value : Json} (hs : skipBlanks s = '"' :: body) (hk : string? body = some (key, u))
    (hu : skipBlanks u = ':' :: after) (hv : value? fuel after = some (value, t))
    (ht : skipBlanks t = ',' :: more) : members? (fuel + 1) s
      = (members? fuel more).bind fun (members, rest) => some ((key, value) :: members, rest) := by
  simp only [members?, hs, hk, hv, hu, ht, Option.bind_eq_bind, Option.bind_some]

theorem value?_list {fuel : Nat} {s t : List Char} (hs : skipBlanks s = t)
    (ht : ∀ rest, t ≠ ']' :: rest) : value? (fuel + 1) ('[' :: s)
      = (items? fuel t).map fun (items, rest) => (.array items, rest) := by
  have hopen : skipBlanks ('[' :: s) = '[' :: s := rfl
  simp only [value?, hopen, hs]

theorem value?_record {fuel : Nat} {s t : List Char} (hs : skipBlanks s = t)
    (ht : ∀ rest, t ≠ '\x7d' :: rest) : value? (fuel + 1) ('\x7b' :: s)
      = (members? fuel t).map fun (members, rest) => (.object members, rest) := by
  have hopen : skipBlanks ('\x7b' :: s) = '\x7b' :: s := rfl
  simp only [value?, hopen, hs]

/-! ### The steps of the writer -/

theorem prettyItems_cons (level : Nat) (item : Json) {items : List Json} (h : items ≠ []) :
    prettyItems level (item :: items)
      = breakLine level ++ (item.pretty level ++ ',' :: prettyItems level items) := by
  cases items with
  | nil => exact absurd rfl h
  | cons next items => rw [prettyItems, List.append_assoc]; simp

/-- The members of a record as the writer takes them. -/
def membersOf (fields : List (String × Json)) : List (Option String × Json) :=
  fields.map fun (key, value) => (some key, value)

theorem prettyMembers_last (level : Nat) (key : String) (value : Json) :
    prettyMembers level (membersOf [(key, value)])
      = breakLine level ++ (quote key ++ ':' :: ' ' :: value.pretty level) := by
  rw [membersOf, List.map_cons, List.map_nil, prettyMembers, quote?, List.append_assoc]

theorem prettyMembers_cons (level : Nat) (key : String) (value : Json)
    {fields : List (String × Json)} (h : fields ≠ []) :
    prettyMembers level (membersOf ((key, value) :: fields))
      = breakLine level ++ (quote key ++ ':' :: ' ' ::
        (value.pretty level ++ ',' :: prettyMembers level (membersOf fields))) := by
  cases fields with
  | nil => exact absurd rfl h
  | cons next fields =>
      rw [membersOf, List.map_cons, prettyMembers, ← membersOf, quote?]
      · simp only [List.append_assoc, List.cons_append]
      · exact List.cons_ne_nil _ _

theorem quote_append (key : String) (rest : List Char) :
    quote key ++ rest = '"' :: (key.toList.flatMap escapeChar ++ '"' :: rest) := by
  simp only [quote, List.cons_append, List.append_assoc, List.nil_append]

/-! ### The two together -/

/-- The items of a list, from the next one on. -/
theorem items?_prettyItems {level outer : Nat} (items : List Json) (hne : items ≠ [])
    (hitems : ∀ j ∈ items, ReadsBack level j) (fuel : Nat) (s rest : List Char)
    (hfuel : (prettyItems level items).length ≤ fuel)
    (hs : skipBlanks s
      = skipBlanks (prettyItems level items ++ (breakLine outer ++ ']' :: rest))) :
    items? fuel s = some (items, rest) := by
  induction items generalizing fuel s with
  | nil => exact absurd rfl hne
  | cons item items ih =>
      have hitem := hitems item (by simp)
      -- the last item is followed by the closing bracket, every other one by a comma
      by_cases hlast : items = []
      · subst hlast
        rw [prettyItems, List.append_assoc, skipBlanks_breakLine] at hs
        rw [prettyItems, List.length_append, breakLine, List.length_cons] at hfuel
        obtain ⟨fuel, rfl⟩ : ∃ f, fuel = f + 1 := ⟨fuel - 1, by omega⟩
        have hvalue := hitem fuel _ (by omega) (stops_breakLine outer (']' :: rest))
        rw [← value?_congr hs] at hvalue
        exact items?_last hvalue (skipBlanks_breakLine outer _)
      · rw [prettyItems_cons level item hlast] at hs hfuel
        simp only [List.append_assoc, List.cons_append, skipBlanks_breakLine] at hs
        simp only [List.length_append, breakLine, List.length_cons] at hfuel
        obtain ⟨fuel, rfl⟩ : ∃ f, fuel = f + 1 := ⟨fuel - 1, by omega⟩
        have hvalue := hitem fuel _ (by omega)
          (stops_comma (prettyItems level items ++ (breakLine outer ++ ']' :: rest)))
        rw [← value?_congr hs] at hvalue
        have hrest := ih hlast (fun j hj => hitems j (List.mem_cons_of_mem _ hj)) fuel
          (prettyItems level items ++ (breakLine outer ++ ']' :: rest)) (by omega) rfl
        rw [items?_more hvalue rfl, hrest]
        rfl

/-- The members of a record, from the next one on. -/
theorem members?_prettyMembers {level outer : Nat} (fields : List (String × Json))
    (hne : fields ≠ []) (hfields : ∀ f ∈ fields, ReadsBack level f.2) (fuel : Nat)
    (s rest : List Char) (hfuel : (prettyMembers level (membersOf fields)).length ≤ fuel)
    (hs : skipBlanks s = skipBlanks (prettyMembers level (membersOf fields) ++
      (breakLine outer ++ '\x7d' :: rest))) :
    members? fuel s = some (membersOf fields, rest) := by
  induction fields generalizing fuel s with
  | nil => exact absurd rfl hne
  | cons f fields ih =>
      obtain ⟨key, value⟩ := f
      have hvalue : ReadsBack level value := hfields (key, value) (by simp)
      -- as for items, with a key and a space before each value
      by_cases hlast : fields = []
      · subst hlast
        rw [prettyMembers_last] at hs hfuel
        simp only [List.append_assoc, List.cons_append, skipBlanks_breakLine, quote_append] at hs
        simp only [List.length_append, breakLine, List.length_cons] at hfuel
        obtain ⟨fuel, rfl⟩ : ∃ f, fuel = f + 1 := ⟨fuel - 1, by omega⟩
        have hread := hvalue fuel _ (by omega) (stops_breakLine outer ('\x7d' :: rest))
        rw [← value?_space] at hread
        exact members?_last hs (string?_quote key _) rfl hread (skipBlanks_breakLine outer _)
      · rw [prettyMembers_cons level key value hlast] at hs hfuel
        simp only [List.append_assoc, List.cons_append, skipBlanks_breakLine, quote_append] at hs
        simp only [List.length_append, breakLine, List.length_cons] at hfuel
        obtain ⟨fuel, rfl⟩ : ∃ f, fuel = f + 1 := ⟨fuel - 1, by omega⟩
        have hread := hvalue fuel _ (by omega) (stops_comma
          (prettyMembers level (membersOf fields) ++ (breakLine outer ++ '\x7d' :: rest)))
        rw [← value?_space] at hread
        have hrest := ih hlast (fun f hf => hfields f (List.mem_cons_of_mem _ hf)) fuel
          (prettyMembers level (membersOf fields) ++ (breakLine outer ++ '\x7d' :: rest))
          (by omega) rfl
        rw [members?_more hs (string?_quote key _) rfl hread rfl, hrest]
        rfl

theorem begins_prettyItems {items : List Json} (hne : items ≠ []) (h : ∀ j ∈ items, Plain j)
    (level : Nat) (rest : List Char) : Begins (skipBlanks (prettyItems level items ++ rest)) := by
  cases items with
  | nil => exact absurd rfl hne
  | cons item items =>
      have hitem := h item (by simp)
      by_cases hlast : items = []
      · subst hlast
        rw [prettyItems, List.append_assoc, skipBlanks_breakLine,
          skipBlanks_of_begins (begins_pretty hitem level rest)]
        exact begins_pretty hitem level rest
      · rw [prettyItems_cons level item hlast, List.append_assoc, skipBlanks_breakLine,
          List.append_assoc, skipBlanks_of_begins (begins_pretty hitem level _)]
        exact begins_pretty hitem level _

theorem begins_prettyMembers {fields : List (String × Json)} (hne : fields ≠ [])
    (level : Nat) (rest : List Char) :
    Begins (skipBlanks (prettyMembers level (membersOf fields) ++ rest)) := by
  have hquote : ∀ (key : String) (more : List Char), Begins (skipBlanks (quote key ++ more)) := by
    intro key more
    rw [quote_append]
    exact ⟨'"', _, rfl, by decide, by decide, by decide⟩
  cases fields with
  | nil => exact absurd rfl hne
  | cons f fields =>
      obtain ⟨key, value⟩ := f
      by_cases hlast : fields = []
      · subst hlast
        rw [prettyMembers_last, List.append_assoc, skipBlanks_breakLine, List.append_assoc]
        exact hquote key _
      · rw [prettyMembers_cons level key value hlast, List.append_assoc, skipBlanks_breakLine,
          List.append_assoc]
        exact hquote key _

theorem pretty_record (level : Nat) {fields : List (String × Json)} (h : fields ≠ []) :
    (ofFields fields).pretty level
      = '\x7b' :: (prettyMembers (level + 1) (membersOf fields) ++ (breakLine level ++ ['\x7d'])) := by
  cases fields with
  | nil => exact absurd rfl h
  | cons f fields =>
      rw [ofFields, ← membersOf, pretty, List.cons_append, List.cons_append, List.append_assoc]
      exact List.cons_ne_nil _ _

theorem pretty_list (level : Nat) {items : List Json} (h : items ≠ []) :
    (Json.array items).pretty level
      = '[' :: (prettyItems (level + 1) items ++ (breakLine level ++ [']'])) := by
  cases items with
  | nil => exact absurd rfl h
  | cons item items => rw [pretty, List.cons_append, List.cons_append, List.append_assoc]; simp

/-- **Every plain value is read back.** -/
theorem readsBack {j : Json} (h : Plain j) : ∀ level, ReadsBack level j := by
  induction h with
  | null =>
      intro level fuel rest hfuel _
      obtain ⟨fuel, rfl⟩ : ∃ f, fuel = f + 1 := ⟨fuel - 1, by
        have h4 : (pretty level .null).length = 4 := by rw [pretty]; rfl
        omega⟩
      rw [pretty]
      rfl
  | bool b =>
      intro level fuel rest hfuel _
      rw [pretty] at hfuel ⊢
      cases b with
      | true =>
          obtain ⟨fuel, rfl⟩ : ∃ f, fuel = f + 1 := ⟨fuel - 1, by
            have h4 : "true".toList.length = 4 := rfl
            rw [if_pos rfl] at hfuel; omega⟩
          rfl
      | false =>
          obtain ⟨fuel, rfl⟩ : ∃ f, fuel = f + 1 := ⟨fuel - 1, by
            have h5 : "false".toList.length = 5 := rfl
            rw [if_neg (by decide)] at hfuel; omega⟩
          rfl
  | nat n =>
      intro level fuel rest hfuel hrest
      rw [pretty_ofNat] at hfuel ⊢
      have hpos : 0 < (Nat.toDigits 10 n).length := Nat.length_toDigits_pos
      obtain ⟨fuel, rfl⟩ : ∃ f, fuel = f + 1 := ⟨fuel - 1, by omega⟩
      rw [← number?_toDigits n hrest]
      cases hd : Nat.toDigits 10 n with
      | nil => exact absurd hd Nat.toDigits_ne_nil
      | cons d ds =>
          exact value?_digit (isAsciiDigit_of_mem_toDigits (hd ▸ List.mem_cons_self)) fuel _
  | text s =>
      intro level fuel rest hfuel _
      rw [ofText, pretty, quote?] at hfuel ⊢
      have hpos : 0 < (quote s).length := by
        rw [quote, List.cons_append, List.length_cons]; omega
      obtain ⟨fuel, rfl⟩ : ∃ f, fuel = f + 1 := ⟨fuel - 1, by omega⟩
      have hskip : skipBlanks (quote s ++ rest)
          = '"' :: (s.toList.flatMap escapeChar ++ '"' :: rest) := by
        rw [quote_append]
        rfl
      simp only [value?, hskip, string?_quote, Option.map_some]
  -- a step for the bracket, and the items have what fuel is left
  | list items hplain ih =>
      intro level fuel rest hfuel _
      by_cases hnil : items = []
      · subst hnil
        rw [pretty] at hfuel ⊢
        obtain ⟨fuel, rfl⟩ : ∃ f, fuel = f + 1 := ⟨fuel - 1, by
          simp only [List.length_cons] at hfuel; omega⟩
        rfl
      · rw [pretty_list level hnil] at hfuel ⊢
        simp only [List.length_append, List.length_cons, List.length_nil] at hfuel
        obtain ⟨fuel, rfl⟩ : ∃ f, fuel = f + 1 := ⟨fuel - 1, by omega⟩
        have hbegins := begins_prettyItems hnil hplain (level + 1) (breakLine level ++ ']' :: rest)
        have hitems := items?_prettyItems items hnil (fun j hj => ih j hj (level + 1)) fuel _ rest
          (by omega) (skipBlanks_of_begins hbegins)
        rw [List.cons_append, List.append_assoc, List.append_assoc, List.singleton_append,
          value?_list rfl hbegins.ne_close.1, hitems]
        rfl
  | record fields hplain ih =>
      intro level fuel rest hfuel _
      by_cases hnil : fields = []
      · subst hnil
        rw [ofFields, List.map_nil, pretty] at hfuel ⊢
        obtain ⟨fuel, rfl⟩ : ∃ f, fuel = f + 1 := ⟨fuel - 1, by
          simp only [List.length_cons] at hfuel; omega⟩
        rfl
      · rw [pretty_record level hnil] at hfuel ⊢
        simp only [List.length_append, List.length_cons, List.length_nil] at hfuel
        obtain ⟨fuel, rfl⟩ : ∃ f, fuel = f + 1 := ⟨fuel - 1, by omega⟩
        have hbegins := begins_prettyMembers hnil (level + 1) (breakLine level ++ '\x7d' :: rest)
        have hmembers := members?_prettyMembers fields hnil (fun f hf => ih f hf (level + 1)) fuel
          _ rest (by omega) (skipBlanks_of_begins hbegins)
        rw [List.cons_append, List.append_assoc, List.append_assoc, List.singleton_append,
          value?_record rfl hbegins.ne_close.2, hmembers]
        rfl

/-- **The pretty form of a plain value is read as that value.** -/
theorem parse?_pretty {j : Json} (h : Plain j) (level : Nat) :
    parse? (String.ofList (j.pretty level)) = some j := by
  have hread := readsBack h level (2 * (j.pretty level).length + 2) [] (by omega) stops_nil
  rw [List.append_nil] at hread
  unfold parse?
  rw [String.toList_ofList]
  dsimp only
  rw [hread]
  rfl

end Grounded.Json
