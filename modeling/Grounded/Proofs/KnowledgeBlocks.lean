import Grounded.Proofs.Blanks
import Grounded.Proofs.TextSearch
import Grounded.Source.Page

/-!
# Knowledge blocks

A knowledge block is a list of entries between an opening and a closing sign. The reader cuts the page at the
first closing sign behind the opening and then looks for entries in what it has cut out. `Block` is a block as
it is written. What is read from it are its entries, in order, up to the first one whose text holds the closing
sign: this entry is cut within its text, and a text that is not closed is no entry (`exists_content`). The
reader takes a first character before it looks for the closing sign, so an empty block is not closed by its own
sign (`block?_of_empty`). The length that is asked of a text comes last, so that an entry without text is one
that is too short.
-/

namespace Grounded.Page

open Text

/-! ## Blocks as they are written -/

/-- The sign that closes a block. -/
def closing : List Char := ['\x7d', ';']

/-- An entry of a block, with the blanks behind its colon and what stands between it and the next entry. -/
structure Entry where
  key : List Char
  gap : List Char
  text : List Char
  after : List Char
deriving DecidableEq

namespace Entry

def written (e : Entry) : List Char :=
  e.key ++ ':' :: (e.gap ++ '\x60' :: (e.text ++ '\x60' :: e.after))

/-- The key is a word, the text holds no backquote, and the next entry follows after blanks and commas. -/
structure Sound (e : Entry) : Prop where
  key : e.key ≠ [] ∧ ∀ c ∈ e.key, isWord c = true
  gap : Blank e.gap
  text : '\x60' ∉ e.text
  after : ∀ c ∈ e.after, isBlank c = true ∨ c = ','

instance (e : Entry) : Decidable e.Sound :=
  decidable_of_iff (e.key ≠ [] ∧ e.key.all isWord = true ∧ Blank e.gap ∧ '\x60' ∉ e.text ∧
      e.after.all (fun c => isBlank c || c == ',') = true) <| by
    simp only [List.all_eq_true, Bool.or_eq_true, beq_iff_eq]
    exact ⟨fun ⟨hne, hword, gap, text, after⟩ => ⟨⟨hne, hword⟩, gap, text, after⟩,
      fun h => ⟨h.key.1, h.key.2, h.gap, h.text, h.after⟩⟩

/-- The text without blanks at its ends, and with one space for every run of blanks in it. -/
def plain (e : Entry) : List Char := collapseBlanks (trim e.text)

/-- The text goes on behind a closing sign. -/
def Closes (e : Entry) : Prop := includes closing e.text = true

instance (e : Entry) : Decidable e.Closes := inferInstanceAs (Decidable (_ = _))

/-- The chunk that is due for the entry. -/
def chunk (source : String) (e : Entry) : Chunk :=
  ⟨String.ofList e.plain, source, String.ofList (titleCase e.key), .docs⟩

end Entry

/-- A block with the blanks around its equals sign and before its first entry. -/
structure Block where
  gap : List Char
  space : List Char
  lead : List Char
  entries : List Entry
deriving DecidableEq

namespace Block

/-- What stands between the braces. -/
def body (b : Block) : List Char := b.lead ++ b.entries.flatMap Entry.written

def written (b : Block) (name : List Char) : List Char :=
  "const ".toList ++ (name ++ (b.gap ++ '=' :: (b.space ++ '\x7b' :: (b.body ++ closing))))

structure Sound (b : Block) : Prop where
  gap : Blank b.gap
  space : Blank b.space
  lead : Blank b.lead
  entries : ∀ e ∈ b.entries, e.Sound

instance (b : Block) : Decidable b.Sound :=
  decidable_of_iff (Blank b.gap ∧ Blank b.space ∧ Blank b.lead ∧ ∀ e ∈ b.entries, e.Sound)
    ⟨fun ⟨gap, space, lead, es⟩ => ⟨gap, space, lead, es⟩, fun h => ⟨h.gap, h.space, h.lead, h.entries⟩⟩

end Block

/-- A block called `name` is opened right here. -/
def Opens (name s : List Char) : Prop :=
  ∃ gap space rest, Blank gap ∧ Blank space ∧
    s = "const ".toList ++ (name ++ (gap ++ '=' :: (space ++ '\x7b' :: rest)))

/-! ## Entries in a text -/

section Entries

variable {key gap text rest s after : List Char}

/-- An entry that is read stands there. -/
theorem of_entry? (h : entry? s = some (key, text, rest)) :
    ∃ gap, Blank gap ∧ s = key ++ ':' :: (gap ++ '\x60' :: (text ++ '\x60' :: rest)) := by
  unfold entry? at h
  simp only [Option.bind_eq_bind] at h
  split at h
  · cases h
  obtain ⟨colon, hcolon, h⟩ := Option.bind_eq_some_iff.mp h
  obtain ⟨opened, hopen, h⟩ := Option.bind_eq_some_iff.mp h
  split at h
  · cases h
  obtain ⟨closed, hclose, h⟩ := Option.bind_eq_some_iff.mp h
  cases h
  rw [afterStart?_eq_some_iff] at hcolon hopen hclose
  obtain ⟨gap, hgap, hblank⟩ := exists_blank_append colon
  rw [← hopen] at hblank
  refine ⟨gap, hgap, ?_⟩
  calc s = s.takeWhile isWord ++ s.dropWhile isWord := List.takeWhile_append_dropWhile.symm
    _ = s.takeWhile isWord ++ ':' :: colon := by rw [← hcolon]; rfl
    _ = s.takeWhile isWord ++ ':' :: (gap ++ '\x60' :: opened) := by rw [← hblank]; rfl
    _ = s.takeWhile isWord ++ ':' :: (gap ++ '\x60' ::
          (opened.takeWhile (· != '\x60') ++ '\x60' :: rest)) := by
        rw [show '\x60' :: rest = opened.dropWhile (· != '\x60') from hclose,
          List.takeWhile_append_dropWhile]

/-- An entry that stands there is read, unless it has no text. -/
theorem entry?_written (hkey : key ≠ [] ∧ ∀ c ∈ key, isWord c = true) (hgap : Blank gap)
    (htext : '\x60' ∉ text) (rest : List Char) :
    entry? (key ++ ':' :: (gap ++ '\x60' :: (text ++ '\x60' :: rest)))
      = if text.isEmpty then none else some (key, text, rest) := by
  have hcolon : isWord ':' = false := by decide
  have hplain : ∀ c ∈ text, (c != '\x60') = true := fun c hc =>
    bne_iff_ne.mpr fun he => htext (he ▸ hc)
  unfold entry?
  simp only [Option.bind_eq_bind]
  rw [List.takeWhile_append_of_pos hkey.2, List.takeWhile_cons_of_neg (by rw [hcolon]; decide),
    List.append_nil, if_neg (by rw [List.isEmpty_iff]; exact hkey.1),
    List.dropWhile_append_of_pos hkey.2, List.dropWhile_cons_of_neg (by rw [hcolon]; decide)]
  rw [afterStart?_singleton_cons, Option.bind_some, trimStart_blank_cons hgap (by decide)]
  rw [afterStart?_singleton_cons, Option.bind_some, List.takeWhile_append_of_pos hplain,
    List.takeWhile_cons_of_neg (by decide), List.append_nil, List.dropWhile_append_of_pos hplain,
    List.dropWhile_cons_of_neg (by decide)]
  rw [afterStart?_singleton_cons, Option.bind_some]
  split <;> rfl

/-- An entry takes two backquotes. -/
theorem entry?_of_count (h : s.count '\x60' ≤ 1) : entry? s = none := by
  cases hfound : entry? s with
  | none => rfl
  | some found =>
      obtain ⟨key, text, rest⟩ := found
      obtain ⟨gap, -, rfl⟩ := of_entry? hfound
      simp only [List.count_append, List.count_cons] at h
      simp at h
      omega

theorem entry?_of_not_word {c : Char} (h : isWord c = false) (s : List Char) : entry? (c :: s) = none := by
  unfold entry?
  rw [List.takeWhile_cons_of_neg (by rw [h]; decide)]
  rfl

/-- The fuel is enough. -/
theorem entriesWithin_eq {fuel : Nat} (h : s.length ≤ fuel) : entriesWithin fuel s = entries s := by
  have hsame : ∀ (n m : Nat) (s : List Char), s.length ≤ n → s.length ≤ m →
      entriesWithin n s = entriesWithin m s := by
    intro n
    induction n with
    | zero =>
        intro m s hn hm
        obtain rfl := List.eq_nil_of_length_eq_zero (Nat.le_zero.mp hn)
        cases m <;> rfl
    | succ n ih =>
        intro m s hn hm
        cases s with
        | nil => cases m <;> rfl
        | cons c s =>
            obtain ⟨m, rfl⟩ : ∃ k, m = k + 1 := ⟨m - 1, by simp only [List.length_cons] at hm; omega⟩
            simp only [List.length_cons, Nat.add_le_add_iff_right] at hn hm
            rw [entriesWithin, entriesWithin]
            cases hfound : entry? (c :: s) with
            | none => exact ih m s hn hm
            | some found =>
                obtain ⟨key, text, rest⟩ := found
                have hrest : rest.length < s.length := by
                  obtain ⟨gap, -, heq⟩ := of_entry? hfound
                  have hlength := congrArg List.length heq
                  simp only [List.length_append, List.length_cons] at hlength
                  omega
                exact congrArg ((key, text) :: ·) (ih m rest (by omega) (by omega))
  exact hsame _ _ s h (Nat.le_refl _)

theorem entries_of_some {c : Char} (h : entry? (c :: s) = some (key, text, rest)) :
    entries (c :: s) = (key, text) :: entries rest := by
  have hrest : rest.length ≤ s.length := by
    obtain ⟨gap, -, heq⟩ := of_entry? h
    have hlength := congrArg List.length heq
    simp only [List.length_append, List.length_cons] at hlength
    omega
  rw [entries, List.length_cons, entriesWithin, h]
  exact congrArg ((key, text) :: ·) (entriesWithin_eq hrest)

theorem entries_of_none {c : Char} (h : entry? (c :: s) = none) : entries (c :: s) = entries s := by
  rw [entries, List.length_cons, entriesWithin, h]
  rfl

/-- Signs and blanks are passed over. -/
theorem entries_append_of_not_word (h : ∀ c ∈ s, isWord c = false) (rest : List Char) :
    entries (s ++ rest) = entries rest := by
  induction s with
  | nil => rfl
  | cons c s ih =>
      rw [List.cons_append, entries_of_none (entry?_of_not_word (h c List.mem_cons_self) _)]
      exact ih fun x hx => h x (List.mem_cons_of_mem c hx)

theorem entries_of_count (h : s.count '\x60' ≤ 1) : entries s = [] := by
  induction s with
  | nil => rfl
  | cons c s ih =>
      rw [entries_of_none (entry?_of_count h)]
      exact ih (Nat.le_trans List.count_le_count_cons h)

/-- **A written entry is read,** unless it has no text, and reading goes on behind it. -/
theorem entries_written {e : Entry} (he : e.Sound) (rest : List Char) :
    entries (e.written ++ rest)
      = (if e.text.isEmpty then [] else [(e.key, e.text)]) ++ entries rest := by
  obtain ⟨hkey, hgap, htext, hafter⟩ := he
  have hpassed : ∀ c ∈ e.after, isWord c = false := by
    intro c hc
    rcases hafter c hc with hblank | rfl
    · exact isWord_of_isBlank hblank
    · decide
  have hwritten : e.written ++ rest
      = e.key ++ ':' :: (e.gap ++ '\x60' :: (e.text ++ '\x60' :: (e.after ++ rest))) := by
    simp only [Entry.written, List.append_assoc, List.cons_append]
  have hread := entry?_written hkey hgap htext (e.after ++ rest)
  rw [hwritten]
  by_cases hempty : e.text.isEmpty = true
  · -- no part of the key is the key of an entry either
    have hnone : ∀ key, (∀ c ∈ key, isWord c = true) →
        entries (key ++ ':' :: (e.gap ++ '\x60' :: (e.text ++ '\x60' :: (e.after ++ rest))))
          = entries (':' :: (e.gap ++ '\x60' :: (e.text ++ '\x60' :: (e.after ++ rest)))) := by
      intro key hwords
      induction key with
      | nil => rfl
      | cons c key ih =>
          have hhere := entry?_written ⟨List.cons_ne_nil c key, hwords⟩ hgap htext (e.after ++ rest)
          rw [if_pos hempty, List.cons_append] at hhere
          rw [List.cons_append, entries_of_none hhere]
          exact ih fun x hx => hwords x (List.mem_cons_of_mem c hx)
    have hsigns : ∀ c ∈ ':' :: (e.gap ++ '\x60' :: '\x60' :: e.after), isWord c = false := by
      simp only [List.mem_cons, List.mem_append]
      rintro c (rfl | hc | rfl | rfl | hc)
      · decide
      · exact isWord_of_isBlank (hgap c hc)
      · decide
      · decide
      · exact hpassed c hc
    rw [hnone e.key hkey.2, if_pos hempty, List.isEmpty_iff.mp hempty, List.nil_append, List.nil_append,
      ← entries_append_of_not_word hsigns rest]
    simp only [List.append_assoc, List.cons_append]
  · rw [if_neg hempty] at hread ⊢
    obtain ⟨c, key, hcons⟩ := List.exists_cons_of_ne_nil hkey.1
    rw [hcons, List.cons_append] at hread ⊢
    rw [entries_of_some hread, entries_append_of_not_word hpassed]
    rfl

end Entries

/-! ## What is cut out of a page -/

section Blocks

variable {name s : List Char} {e : Entry} {es : List Entry} {b : Block}

/-- What stands in front of the text of an entry. -/
def Entry.head (e : Entry) : List Char := e.key ++ ':' :: (e.gap ++ ['\x60'])

theorem Entry.written_eq (e : Entry) : e.written = e.head ++ (e.text ++ ['\x60']) ++ e.after := by
  simp only [written, head, List.append_assoc, List.cons_append, List.nil_append]

theorem Entry.Sound.clears_head (he : e.Sound) : clears closing e.head = true := by
  refine clears_of_not_mem ?_
  simp only [Entry.head, List.mem_append, List.mem_cons, List.not_mem_nil, or_false, not_or]
  refine ⟨fun hm => ?_, by decide, he.gap.not_mem (by decide), by decide⟩
  exact absurd (he.key.2 _ hm) (by decide)

/-- No block is closed by an entry whose text does not close it. -/
theorem Entry.Sound.clears_written (he : e.Sound) (hopen : ¬ e.Closes) :
    clears closing e.written = true := by
  have htext : clears closing (e.text ++ ['\x60']) = true :=
    clears_concat (by decide) (Bool.not_eq_true _ ▸ hopen)
  have hafter : clears closing e.after = true := by
    refine clears_of_not_mem fun hm => ?_
    rcases he.after _ hm with h | h
    · exact absurd h (by decide)
    · cases h
  rw [e.written_eq]
  exact clears_append (clears_append he.clears_head htext) hafter

/-- An entry that is cut within its text has no second backquote, and is none. -/
theorem Entry.Sound.entries_cut (he : e.Sound) {text : List Char} (h : '\x60' ∉ text) :
    entries (e.head ++ text) = [] := by
  have hkey : '\x60' ∉ e.key := fun hm => absurd (he.key.2 _ hm) (by decide)
  have hgap : '\x60' ∉ e.gap := he.gap.not_mem (by decide)
  refine entries_of_count (Nat.le_of_eq ?_)
  rw [Entry.head, List.count_append, List.count_append, List.count_cons, List.count_append,
    List.count_eq_zero.mpr hkey, List.count_eq_zero.mpr hgap, List.count_eq_zero.mpr h]
  rfl

theorem Entry.Sound.exists_cut (he : e.Sound) (hcloses : e.Closes) (rest : List Char) :
    ∃ text after, cutFirst closing (e.written ++ rest) = some (e.head ++ text, after) ∧ '\x60' ∉ text := by
  obtain ⟨text, after, hcut⟩ := exists_cutFirst_of_includes hcloses
  refine ⟨text, after ++ ('\x60' :: e.after ++ rest), ?_, fun hm =>
    he.text (append_of_cutFirst hcut ▸ List.mem_append_left _ hm)⟩
  rw [e.written_eq, List.append_assoc, List.append_assoc, List.append_assoc,
    cutFirst_append_of_apart (apart_of_clears he.clears_head), cutFirst_append_of_some hcut]
  rfl

/-- **What is read from entries up to the first closing sign:** those in front of the first one whose text
closes the block. -/
theorem exists_content (hes : ∀ e ∈ es, e.Sound) (after : List Char) :
    ∃ content rest, cutFirst closing (es.flatMap Entry.written ++ (closing ++ after)) = some (content, rest) ∧
      entries content
        = ((es.takeWhile fun e => ¬ e.Closes).filter fun e => ¬ e.text.isEmpty).map
          fun e => (e.key, e.text) := by
  induction es with
  | nil => exact ⟨[], after, cutFirst_self (by decide) after, rfl⟩
  | cons e es ih =>
      have he : e.Sound := hes e List.mem_cons_self
      rw [List.flatMap_cons, List.append_assoc]
      by_cases hcloses : e.Closes
      · obtain ⟨text, rest, hcut, htext⟩ := he.exists_cut hcloses (es.flatMap Entry.written ++ (closing ++ after))
        refine ⟨e.head ++ text, rest, hcut, ?_⟩
        rw [List.takeWhile_cons_of_neg (by simpa using hcloses)]
        exact he.entries_cut htext
      · obtain ⟨content, rest, hcut, hread⟩ := ih fun x hx => hes x (List.mem_cons_of_mem e hx)
        refine ⟨e.written ++ content, rest, ?_, ?_⟩
        · rw [cutFirst_append_of_apart (apart_of_clears (he.clears_written hcloses)), hcut]
          rfl
        · rw [entries_written he, hread, List.takeWhile_cons_of_pos (by simpa using hcloses)]
          by_cases hempty : e.text.isEmpty = true
          · rw [if_pos hempty, List.filter_cons_of_neg (by simpa using hempty)]
            rfl
          · rw [if_neg hempty, List.filter_cons_of_pos (by simpa using hempty)]
            rfl

theorem blockContent?_of_cutFirst {content rest : List Char} (hne : s ≠ [])
    (hhead : ∀ c ∈ s.head?, c ≠ '\x7d') (h : cutFirst closing s = some (content, rest)) :
    blockContent? s = some content := by
  obtain ⟨c, s, rfl⟩ := List.exists_cons_of_ne_nil hne
  have hopen : ¬ closing <+: c :: s := fun hp => hhead c rfl (List.cons_prefix_cons.mp hp).1.symm
  rw [cutFirst, if_neg (by rwa [List.isPrefixOf_iff_prefix])] at h
  obtain ⟨⟨first, rest⟩, hcut, heq⟩ := Option.map_eq_some_iff.mp h
  cases heq
  rw [blockContent?, ← closing, hcut]
  rfl

/-- A block that is not empty does not begin with its closing sign. -/
theorem Block.Sound.head?_body (hb : b.Sound) : ∀ c ∈ b.body.head?, c ≠ '\x7d' := by
  obtain ⟨gap, space, lead, es⟩ := b
  obtain ⟨-, -, hlead, hes⟩ := hb
  cases lead with
  | cons x lead =>
      rintro c ⟨⟩ rfl
      exact absurd (hlead _ List.mem_cons_self) (by decide)
  | nil =>
      cases es with
      | nil => exact nofun
      | cons e es =>
          have hkey := (hes e List.mem_cons_self).key
          obtain ⟨x, key, hcons⟩ := List.exists_cons_of_ne_nil hkey.1
          rw [body, List.flatMap_cons, Entry.written, hcons]
          rintro c ⟨⟩ rfl
          exact absurd (hkey.2 _ (hcons ▸ List.mem_cons_self)) (by decide)

theorem exists_blockContent (hb : b.Sound) (hne : b.body ≠ []) (after : List Char) :
    ∃ content, blockContent? (b.body ++ (closing ++ after)) = some content ∧
      entries content
        = ((b.entries.takeWhile fun e => ¬ e.Closes).filter fun e => ¬ e.text.isEmpty).map
          fun e => (e.key, e.text) := by
  obtain ⟨content, rest, hcut, hread⟩ := exists_content hb.entries after
  have hlead : clears closing b.lead = true := clears_of_not_mem (hb.lead.not_mem (by decide))
  have hbody : cutFirst closing (b.body ++ (closing ++ after)) = some (b.lead ++ content, rest) := by
    rw [Block.body, List.append_assoc, cutFirst_append_of_apart (apart_of_clears hlead), hcut]
    rfl
  refine ⟨b.lead ++ content, blockContent?_of_cutFirst ?_ ?_ hbody, ?_⟩
  · exact List.append_ne_nil_of_left_ne_nil hne _
  · rw [List.head?_append_of_ne_nil _ hne]
    exact hb.head?_body
  · rw [entries_append_of_not_word (fun c hc => isWord_of_isBlank (hb.lead c hc)), hread]

theorem Block.entries_of_body_nil (b : Block) (h : b.body = []) : b.entries = [] := by
  obtain ⟨gap, space, lead, es⟩ := b
  cases es with
  | nil => rfl
  | cons e es => simp [body, Entry.written] at h

theorem Block.written_append (b : Block) (name after : List Char) :
    b.written name ++ after = "const ".toList ++
      (name ++ (b.gap ++ '=' :: (b.space ++ '\x7b' :: (b.body ++ (closing ++ after))))) := by
  delta written
  -- the word gets a name, so that no step looks into it
  generalize "const ".toList = word
  simp only [List.append_assoc, List.cons_append]

theorem openBlock?_written (hb : b.Sound) (name after : List Char) :
    openBlock? name (b.written name ++ after) = some (b.body ++ (closing ++ after)) := by
  rw [openBlock?, b.written_append]
  generalize "const ".toList = word
  simp only [Option.bind_eq_bind]
  rw [← List.append_assoc, afterStart?_append, Option.bind_some, trimStart_blank_cons hb.gap (by decide),
    afterStart?_singleton_cons, Option.bind_some, trimStart_blank_cons hb.space (by decide),
    afterStart?_singleton_cons]

/-- What is opened stands there. -/
theorem of_openBlock? {rest : List Char} (h : openBlock? name s = some rest) :
    ∃ gap space, Blank gap ∧ Blank space ∧
      s = "const ".toList ++ (name ++ (gap ++ '=' :: (space ++ '\x7b' :: rest))) := by
  rw [openBlock?] at h
  generalize "const ".toList = word at h ⊢
  simp only [Option.bind_eq_bind] at h
  obtain ⟨named, hname, h⟩ := Option.bind_eq_some_iff.mp h
  obtain ⟨given, hgiven, hbrace⟩ := Option.bind_eq_some_iff.mp h
  rw [afterStart?_eq_some_iff] at hname hgiven hbrace
  obtain ⟨gap, hgap, hnamed⟩ := exists_blank_append named
  obtain ⟨space, hspace, hblank⟩ := exists_blank_append given
  rw [← hgiven] at hnamed
  rw [← hbrace] at hblank
  refine ⟨gap, space, hgap, hspace, ?_⟩
  calc s = word ++ (name ++ named) := by rw [← hname, List.append_assoc]
    _ = word ++ (name ++ (gap ++ '=' :: given)) := by rw [← hnamed]; rfl
    _ = word ++ (name ++ (gap ++ '=' :: (space ++ '\x7b' :: rest))) := by rw [← hblank]; rfl

theorem not_opens_of_clears {before : List Char} (h : clears "const ".toList before = true) :
    ∀ t, t <:+ before → t ≠ [] → ¬ Opens name (t ++ s) := by
  rintro t ht hne ⟨gap, space, rest, -, -, heq⟩
  obtain ⟨hlonger, hshorter⟩ := apart_of_clears h t ht hne
  exact not_prefix_append hlonger hshorter s ⟨_, heq.symm⟩

/-- What stands in front of the first block that is opened is passed over. -/
theorem block?_append {before : List Char}
    (hfirst : ∀ t, t <:+ before → t ≠ [] → ¬ Opens name (t ++ s)) :
    block? name (before ++ s) = block? name s := by
  induction before with
  | nil => rfl
  | cons c before ih =>
      have hnone : openBlock? name (c :: (before ++ s)) = none := by
        cases hopen : openBlock? name (c :: (before ++ s)) with
        | none => rfl
        | some rest =>
            obtain ⟨gap, space, hgap, hspace, heq⟩ := of_openBlock? hopen
            exact absurd ⟨gap, space, rest, hgap, hspace, heq⟩
              (hfirst _ List.suffix_rfl (List.cons_ne_nil c before))
      rw [List.cons_append, block?, hnone]
      exact ih fun t ht => hfirst t (ht.trans (List.suffix_cons c before))

/-- A block with content that is opened right here is the one that is read. -/
theorem block?_of_here {content : List Char} (h : (openBlock? name s).bind blockContent? = some content) :
    block? name s = some content := by
  cases s with
  | nil =>
      obtain ⟨rest, hopen, -⟩ := Option.bind_eq_some_iff.mp h
      obtain ⟨gap, space, -, -, heq⟩ := of_openBlock? hopen
      exact absurd heq.symm (List.append_ne_nil_of_left_ne_nil (by decide) _)
  | cons c s => rw [block?, h]

theorem block?_eq_none (h : ∀ t, t <:+ s → (openBlock? name t).bind blockContent? = none) :
    block? name s = none := by
  induction s with
  | nil => rfl
  | cons c s ih =>
      rw [block?, h _ List.suffix_rfl]
      exact ih fun t ht => h t (ht.trans (List.suffix_cons c s))

theorem includes_of_blockContent? {content : List Char} (h : blockContent? s = some content) :
    ∃ c rest, s = c :: rest ∧ closing <:+: rest := by
  cases s with
  | nil => cases h
  | cons c rest =>
      obtain ⟨⟨first, after⟩, hcut, -⟩ := Option.map_eq_some_iff.mp h
      exact ⟨c, rest, rfl, first, after, by rw [List.append_assoc]; exact append_of_cutFirst hcut⟩

/-- **An empty block has no content,** if no other closing sign follows. -/
theorem block?_of_empty (hb : b.Sound) (hempty : b.body = []) {after : List Char}
    (hafter : includes closing after = false) : block? name (b.written name ++ after) = none := by
  refine block?_eq_none fun t ht => Option.eq_none_iff_forall_ne_some.mpr fun content h => ?_
  obtain ⟨opened, hopen, hcontent⟩ := Option.bind_eq_some_iff.mp h
  obtain ⟨gap, space, -, -, rfl⟩ := of_openBlock? hopen
  obtain ⟨c, rest, rfl, hclosing⟩ := includes_of_blockContent? hcontent
  rw [b.written_append, hempty] at ht
  generalize "const ".toList = word at ht
  rw [List.nil_append] at ht
  -- the opening brace stands behind the word and the name, and is the brace of the block or behind it
  have hvalue : '\x7b' :: c :: rest <:+ b.gap ++ '=' :: (b.space ++ '\x7b' :: (closing ++ after)) := by
    refine List.suffix_of_suffix_length_le (List.IsSuffix.trans ?_ ht)
      (List.suffix_append_of_suffix (List.suffix_append name _)) ?_
    · exact ⟨word ++ (name ++ (gap ++ '=' :: space)), by simp⟩
    · have hlength := ht.length_le
      simp only [List.length_append, List.length_cons] at hlength ⊢
      omega
  have hbrace : '\x7b' :: c :: rest <:+ '\x7b' :: (closing ++ after) := by
    have hfree : '\x7b' ∉ b.gap ++ '=' :: b.space := by
      simp only [List.mem_append, List.mem_cons, not_or]
      exact ⟨hb.gap.not_mem (by decide), by decide, hb.space.not_mem (by decide)⟩
    refine suffix_of_not_mem hfree ?_
    simpa only [List.append_assoc, List.cons_append] using hvalue
  have hbehind : rest <:+ ';' :: after := suffix_of_cons_suffix_cons (suffix_of_cons_suffix_cons hbrace)
  have hsign := includes_iff_infix.mpr (hclosing.trans hbehind.isInfix)
  rw [show ';' :: after = [';'] ++ after from rfl, includes_append_of_clears (by decide), hafter] at hsign
  cases hsign

theorem filterMap_entryChunk? (minChars : Nat) (source : String) (es : List Entry) :
    ((es.filter fun e => ¬ e.text.isEmpty).map fun e => (e.key, e.text)).filterMap
        (entryChunk? minChars source)
      = (es.filter fun e => minChars < e.plain.length).map (Entry.chunk source) := by
  induction es with
  | nil => rfl
  | cons e es ih =>
      have hchunk : entryChunk? minChars source (e.key, e.text)
          = if minChars < e.plain.length then some (e.chunk source) else none := rfl
      by_cases hempty : e.text.isEmpty = true
      · have hplain : e.plain = [] := by
          rw [Entry.plain, List.isEmpty_iff.mp hempty]
          exact collapseBlanks.eq_1
        rw [List.filter_cons_of_neg (by simpa using hempty), ih, List.filter_cons_of_neg]
        simp [hplain]
      · rw [List.filter_cons_of_pos (by simpa using hempty), List.map_cons, List.filterMap_cons, hchunk,
          ih, List.filter_cons]
        by_cases hlong : minChars < e.plain.length
        · rw [if_pos hlong, if_pos (decide_eq_true hlong)]
          rfl
        · rw [if_neg hlong, if_neg (by simpa using hlong)]

end Blocks

/-! ## Which chunks are read -/

/--
**The chunks of a block** are those of its entries in front of the first one whose text closes the block: one
for each entry with more than `minChars` characters, in order, and none from outside of the block.
-/
theorem knowledgeChunks_of_block {minChars : Nat} {page name source : String} {before after : List Char}
    {b : Block} (hpage : page.toList = before ++ (b.written name.toList ++ after)) (hb : b.Sound)
    (hempty : b.body = [] → includes closing after = false)
    (hfirst : ∀ t, t <:+ before → t ≠ [] → ¬ Opens name.toList (t ++ (b.written name.toList ++ after))) :
    knowledgeChunks minChars page name source
      = ((b.entries.takeWhile fun e => ¬ e.Closes).filter fun e => minChars < e.plain.length).map
        (Entry.chunk source) := by
  rw [knowledgeChunks, hpage, block?_append hfirst]
  by_cases hbody : b.body = []
  · rw [block?_of_empty hb hbody (hempty hbody), b.entries_of_body_nil hbody]
    rfl
  · obtain ⟨content, hcontent, hread⟩ := exists_blockContent hb hbody after
    have hblock : block? name.toList (b.written name.toList ++ after) = some content := by
      refine block?_of_here ?_
      rw [openBlock?_written hb, Option.bind_some, hcontent]
    rw [hblock]
    calc (entries content).filterMap (entryChunk? minChars source)
        = (((b.entries.takeWhile fun e => ¬ e.Closes).filter fun e => ¬ e.text.isEmpty).map
            fun e => (e.key, e.text)).filterMap (entryChunk? minChars source) := by rw [hread]
      _ = _ := filterMap_entryChunk? minChars source _

/-- A block of four entries. The second one has no text, and the text of the third one closes the block. -/
def closedEarly : Block where
  gap := [' ']
  space := [' ']
  lead := ['\n']
  entries :=
    [⟨"alpha".toList, [' '], "Alpha  comes\nfirst.".toList, [',', '\n']⟩, ⟨"beta".toList, [' '], [], [',', '\n']⟩,
      ⟨"gamma".toList, [], "if x \x7b y \x7d;".toList, [',', '\n']⟩, ⟨"delta".toList, [' '], "Last.".toList, []⟩]

theorem knowledgeChunks_of_block_closedEarly :
    let page := "let n = 1;\n".toList ++ (closedEarly.written "K".toList ++ " run();".toList)
    (String.ofList page).toList = page ∧ closedEarly.Sound ∧
      knowledgeChunks 0 (String.ofList page) "K" "page"
        = [⟨"Alpha comes first.", "page", "Alpha", .docs⟩] := by
  have hsound : closedEarly.Sound := by decide
  refine ⟨String.toList_ofList, hsound, ?_⟩
  rw [knowledgeChunks_of_block String.toList_ofList hsound (by decide) (not_opens_of_clears (by decide))]
  decide +kernel

/-- Not every entry with a text that is long enough gives a chunk: this one and all behind it are lost when its
text closes the block. -/
theorem not_chunk_of_entry :
    ¬ ∀ (minChars : Nat) (page name source : String) (b : Block),
      page.toList = b.written name.toList → b.Sound →
      knowledgeChunks minChars page name source
        = (b.entries.filter fun e => minChars < e.plain.length).map (Entry.chunk source) := by
  intro h
  have hchunks := h 0 (String.ofList (closedEarly.written "K".toList)) "K" "page" closedEarly
    String.toList_ofList (by decide)
  revert hchunks
  decide +kernel

/-- An empty block runs on to the next closing sign, and what stands between is read. -/
example : block? ['K'] "const K = \x7b\x7d; const L = \x7b a: \x60x\x60 \x7d;".toList
    = some "\x7d; const L = \x7b a: \x60x\x60 ".toList := by decide

end Grounded.Page
