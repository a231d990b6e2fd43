import Grounded.Proofs.Blanks
import Grounded.Proofs.NpyRoundTrip

/-!
# Headers as dictionaries

The header of a matrix file is a dictionary with three entries. It may be written in many ways: the entries in
any order, with blanks wherever two signs meet, and the type of the numbers as a word or as a list of named
fields. `WrittenDictionary` is that grammar. The reader does not parse it but looks for three texts in it, so
what it accepts is found out from where these texts can stand: a quoted word that is found in a dictionary is
the key of an entry or a word of the type (`of_suffix_entries`), since what follows a closing quote is a sign
and never a letter (`isSign`).

The type and the shape are recognised in all spellings. The order of the numbers is not: only one spelling of
a column-major order is looked for.
-/

namespace Grounded.Npy

open Text

/-! ## How a dictionary is written -/

/-- A part of a type: a word in quotes of one kind, or a character outside of quotes. -/
inductive Token where
  | quoted (quote : Char) (word : List Char)
  | outer (c : Char)
deriving DecidableEq

def isQuote (c : Char) : Bool := c == '\'' || c == '"'

/-- What a type consists of outside of quotes: brackets, commas, digits and blanks. -/
def isOuter (c : Char) : Bool := ['(', ')', '[', ']', ','].contains c || isAsciiDigit c || isBlank c

/-- What may stand right behind a closing quote. -/
def isSign (c : Char) : Bool := isOuter c || isQuote c || c == ':' || c == '\x7d'

namespace Token

def written : Token → List Char
  | quoted quote word => quote :: (word ++ [quote])
  | outer c => [c]

def Sound : Token → Prop
  | quoted quote word => isQuote quote = true ∧ ∀ c ∈ word, isQuote c = false
  | outer c => isOuter c = true

instance : DecidablePred Sound
  | quoted _ word => @instDecidableAnd _ _ _ (List.decidableBAll _ word)
  | outer _ => inferInstanceAs (Decidable (_ = _))

end Token

/-- What one entry of a header says. -/
inductive Field where
  | descr (type : List Token)
  | order (columnMajor : Bool)
  | shape (lengths : List Nat)
deriving DecidableEq

def Field.key : Field → List Char
  | descr _ => "descr".toList
  | order _ => "fortran_order".toList
  | shape _ => "shape".toList

/-- The lengths of a shape between its parentheses. The last one may have a comma behind it. -/
inductive WrittenLengths : List Nat → List Char → Prop where
  | nil {w : List Char} : Blank w → WrittenLengths [] w
  | last {n : Nat} {u v : List Char} : Blank u → Blank v →
      WrittenLengths [n] (u ++ (Nat.toDigits 10 n ++ v))
  | cons {n : Nat} {ns : List Nat} {u v rest : List Char} : Blank u → Blank v → WrittenLengths ns rest →
      WrittenLengths (n :: ns) (u ++ (Nat.toDigits 10 n ++ (v ++ ',' :: rest)))

/-- The values of the entries. -/
inductive Field.Value : Field → List Char → Prop where
  | descr {type : List Token} : (∀ token ∈ type, token.Sound) →
      Value (.descr type) (type.flatMap Token.written)
  | order (columnMajor : Bool) : Value (.order columnMajor) (if columnMajor then "True" else "False").toList
  | shape {lengths : List Nat} {inner : List Char} : WrittenLengths lengths inner →
      Value (.shape lengths) ('(' :: (inner ++ [')']))

/-- An entry with the quotes of its key and the blanks before and behind its colon. -/
structure Entry where
  field : Field
  quote : Char
  gap : List Char
  space : List Char
deriving DecidableEq

/-- The entry is spelled as the writer does it: no blank before the colon and one space behind it. -/
def Entry.Tight (e : Entry) : Prop := e.quote = '\'' ∧ e.gap = [] ∧ e.space = [' ']

/-- The text of an entry, with blanks around it. -/
inductive Entry.Written (e : Entry) : List Char → Prop where
  | intro {before value after : List Char} : isQuote e.quote = true → Blank before → Blank e.gap →
      Blank e.space → Blank after → e.field.Value value →
      Written e (before ++ e.quote :: (e.field.key ++ e.quote ::
        (e.gap ++ ':' :: (e.space ++ (value ++ after)))))

/-- The text of entries behind the opening brace, with commas between them and perhaps one behind the last. -/
inductive WrittenEntries : List Entry → List Char → Prop where
  | nil {w after : List Char} : Blank w → Blank after → WrittenEntries [] (w ++ '\x7d' :: after)
  | last {e : Entry} {text after : List Char} : e.Written text → Blank after →
      WrittenEntries [e] (text ++ '\x7d' :: after)
  | cons {e : Entry} {es : List Entry} {text rest : List Char} : e.Written text → WrittenEntries es rest →
      WrittenEntries (e :: es) (text ++ ',' :: rest)

/-- The text of a dictionary, with blanks around it. -/
def WrittenDictionary (entries : List Entry) (text : List Char) : Prop :=
  ∃ before body, text = before ++ '\x7b' :: body ∧ Blank before ∧ WrittenEntries entries body

/-! ## Where a quoted word can stand -/

section Words

variable {u v w rest s : List Char} {d : Char}

theorem eq_of_append_quote {a b : List Char} {q : Char} (hs : q ∉ s) (hw : q ∉ w)
    (h : s ++ q :: a = w ++ q :: b) : s = w ∧ a = b := by
  induction s generalizing w with
  | nil =>
      cases w with
      | nil => exact ⟨rfl, (List.cons.inj h).2⟩
      | cons c w =>
          obtain ⟨rfl, -⟩ := List.cons.inj h
          exact absurd List.mem_cons_self hw
  | cons c s ih =>
      cases w with
      | nil =>
          obtain ⟨rfl, -⟩ := List.cons.inj h
          exact absurd List.mem_cons_self hs
      | cons c' w =>
          obtain ⟨rfl, htail⟩ := List.cons.inj h
          obtain ⟨rfl, rfl⟩ := ih (fun hm => hs (List.mem_cons_of_mem c hm))
            (fun hm => hw (List.mem_cons_of_mem c hm)) htail
          exact ⟨rfl, rfl⟩

/-- A quoted word does not begin in a text without quotes. -/
theorem suffix_of_unquoted (hu : '\'' ∉ u) (hv : v <:+ u ++ rest) (hword : '\'' :: w <+: v) :
    v <:+ rest := by
  obtain ⟨tail, rfl⟩ := hword
  exact suffix_of_not_mem hu hv

/-- **A quoted word that is found at another one or behind it** is that one, or is found behind it. -/
theorem suffix_of_quoted (hs : '\'' ∉ s) (hw : '\'' ∉ d :: w) (hd : isSign d = false)
    (hrest : ∀ c ∈ rest.head?, isSign c = true) (hv : v <:+ '\'' :: (s ++ '\'' :: rest))
    (hword : '\'' :: (d :: w ++ ['\'']) <+: v) :
    (s = d :: w ∧ v = '\'' :: (d :: w ++ '\'' :: rest)) ∨ v <:+ rest := by
  rcases List.suffix_cons_iff.mp hv with rfl | hv
  · obtain ⟨tail, htail⟩ := (List.cons_prefix_cons.mp hword).2
    rw [List.append_assoc] at htail
    obtain ⟨rfl, -⟩ := eq_of_append_quote hs hw htail.symm
    exact .inl ⟨rfl, rfl⟩
  · rcases List.suffix_cons_iff.mp (suffix_of_unquoted hs hv hword) with rfl | hv
    · -- the closing quote opens no word, for the word would begin with a sign
      obtain ⟨tail, htail⟩ := (List.cons_prefix_cons.mp hword).2
      have hsign := hrest d (by rw [← htail]; rfl)
      rw [hd] at hsign
      cases hsign
    · exact .inr hv

end Words

theorem isSign_of_isQuote {c : Char} (h : isQuote c = true) : isSign c = true := by
  rw [isSign, h, Bool.or_true]
  rfl

theorem isSign_of_isOuter {c : Char} (h : isOuter c = true) : isSign c = true := by
  rw [isSign, h]
  rfl

theorem isOuter_of_isBlank {c : Char} (h : isBlank c = true) : isOuter c = true := by
  rw [isOuter, h, Bool.or_true]

theorem isSign_head?_blank_append {w rest : List Char} (hw : Blank w)
    (hrest : ∀ c ∈ rest.head?, isSign c = true) : ∀ c ∈ (w ++ rest).head?, isSign c = true := by
  cases w with
  | nil => exact hrest
  | cons x w =>
      rintro c ⟨⟩
      exact isSign_of_isOuter (isOuter_of_isBlank (hw _ List.mem_cons_self))

theorem not_mem_blank {w : List Char} (hw : Blank w) : '\'' ∉ w := hw.not_mem (by decide)

section Types

variable {type : List Token} {v w rest : List Char} {d : Char}

theorem isSign_head?_type (hsound : ∀ token ∈ type, token.Sound)
    (hrest : ∀ c ∈ rest.head?, isSign c = true) :
    ∀ c ∈ (type.flatMap Token.written ++ rest).head?, isSign c = true := by
  cases type with
  | nil => exact hrest
  | cons token type =>
      have htoken := hsound token List.mem_cons_self
      cases token with
      | outer x =>
          rintro c ⟨⟩
          exact isSign_of_isOuter htoken
      | quoted quote word =>
          rintro c ⟨⟩
          exact isSign_of_isQuote htoken.1

/-- A quoted word that is found in a type, or behind it, is a word of the type or is found behind it. -/
theorem suffix_of_type (hsound : ∀ token ∈ type, token.Sound) (hw : '\'' ∉ d :: w)
    (hd : isSign d = false) (hrest : ∀ c ∈ rest.head?, isSign c = true)
    (hv : v <:+ type.flatMap Token.written ++ rest) (hword : '\'' :: (d :: w ++ ['\'']) <+: v) :
    (∃ before after, type = before ++ .quoted '\'' (d :: w) :: after ∧
      v = '\'' :: (d :: w ++ '\'' :: (after.flatMap Token.written ++ rest))) ∨ v <:+ rest := by
  induction type with
  | nil => exact .inr hv
  | cons token type ih =>
      have htoken := hsound token List.mem_cons_self
      have htype : ∀ token ∈ type, token.Sound := fun t ht => hsound t (List.mem_cons_of_mem _ ht)
      rw [List.flatMap_cons, List.append_assoc] at hv
      -- the word is this token, or else it is found behind it
      have hstep : (token = .quoted '\'' (d :: w) ∧
          v = '\'' :: (d :: w ++ '\'' :: (type.flatMap Token.written ++ rest))) ∨
          v <:+ type.flatMap Token.written ++ rest := by
        cases token with
        | outer c =>
            refine .inr (suffix_of_unquoted ?_ hv hword)
            intro hm
            obtain rfl : '\'' = c := List.mem_singleton.mp hm
            exact absurd (show isOuter '\'' = true from htoken) (by decide)
        | quoted quote word =>
            obtain ⟨hquote, hplain⟩ := htoken
            have hfree : '\'' ∉ word := fun hm => absurd (hplain _ hm) (by decide)
            rw [isQuote, Bool.or_eq_true, beq_iff_eq, beq_iff_eq] at hquote
            rcases hquote with rfl | rfl
            · rw [Token.written, List.cons_append, List.append_assoc] at hv
              rcases suffix_of_quoted hfree hw hd (isSign_head?_type htype hrest) hv hword with
                ⟨rfl, rfl⟩ | hv
              · exact .inl ⟨rfl, rfl⟩
              · exact .inr hv
            · refine .inr (suffix_of_unquoted ?_ hv hword)
              simp only [Token.written, List.mem_cons, List.mem_append, List.not_mem_nil, or_false,
                not_or]
              exact ⟨by decide, hfree, by decide⟩
      rcases hstep with ⟨rfl, rfl⟩ | hv
      · exact .inl ⟨[], type, rfl, rfl⟩
      · rcases ih htype hv with ⟨before, after, rfl, rfl⟩ | hv
        · exact .inl ⟨token :: before, after, rfl, rfl⟩
        · exact .inr hv

end Types

section Entries

variable {e : Entry} {v w rest text : List Char} {d : Char}

theorem not_mem_lengths {lengths : List Nat} {inner : List Char} (h : WrittenLengths lengths inner) :
    '\'' ∉ inner := by
  have hdigits : ∀ n, '\'' ∉ Nat.toDigits 10 n := fun n hm =>
    absurd (isAsciiDigit_of_mem_toDigits hm) (by decide)
  induction h with
  | nil hw => exact not_mem_blank hw
  | last hu hv =>
      simp only [List.mem_append, not_or]
      exact ⟨not_mem_blank hu, hdigits _, not_mem_blank hv⟩
  | cons hu hv _ ih =>
      simp only [List.mem_append, List.mem_cons, not_or]
      exact ⟨not_mem_blank hu, hdigits _, not_mem_blank hv, by decide, ih⟩

theorem not_mem_key (field : Field) : '\'' ∉ field.key := by
  cases field with
  | descr type => exact (by decide : '\'' ∉ "descr".toList)
  | order columnMajor => exact (by decide : '\'' ∉ "fortran_order".toList)
  | shape lengths => exact (by decide : '\'' ∉ "shape".toList)

/-- What is found of a quoted word in an entry: its key, or a word of its type. -/
inductive Found (w : List Char) (e : Entry) : List Char → Prop where
  | key {value after rest : List Char} : e.quote = '\'' → e.field.key = w → Blank e.gap →
      Blank e.space → e.field.Value value → Blank after → (∀ c ∈ rest.head?, c = ',' ∨ c = '\x7d') →
      Found w e ('\'' :: (w ++ '\'' :: (e.gap ++ ':' :: (e.space ++ (value ++ (after ++ rest))))))
  | type {before after : List Token} {blanks rest : List Char} :
      e.field = .descr (before ++ .quoted '\'' w :: after) → (∀ token ∈ after, token.Sound) →
      Blank blanks → (∀ c ∈ rest.head?, c = ',' ∨ c = '\x7d') →
      Found w e ('\'' :: (w ++ '\'' :: (after.flatMap Token.written ++ (blanks ++ rest))))

/-- **A quoted word that is found in an entry,** or behind it, is its key or a word of its type, or is found
behind it. -/
theorem found_of_entry (he : e.Written text) (hw : '\'' ∉ d :: w) (hd : isSign d = false)
    (hrest : ∀ c ∈ rest.head?, c = ',' ∨ c = '\x7d') (hv : v <:+ text ++ rest)
    (hword : '\'' :: (d :: w ++ ['\'']) <+: v) : Found (d :: w) e v ∨ v <:+ rest := by
  have hsign : ∀ c ∈ rest.head?, isSign c = true := by
    intro c hc
    rcases hrest c hc with rfl | rfl <;> decide
  obtain ⟨hquote, hbefore, hgap, hspace, hafter, hvalue⟩ := he
  rename_i before value after
  simp only [List.append_assoc, List.cons_append] at hv
  replace hv := suffix_of_unquoted (not_mem_blank hbefore) hv hword
  rw [isQuote, Bool.or_eq_true, beq_iff_eq, beq_iff_eq] at hquote
  -- the key
  have hkey : Found (d :: w) e v ∨
      v <:+ e.gap ++ ':' :: (e.space ++ (value ++ (after ++ rest))) := by
    rcases hquote with hquote | hquote
    · rw [hquote] at hv
      have hcolon : ∀ c ∈ (e.gap ++ ':' :: (e.space ++ (value ++ (after ++ rest)))).head?,
          isSign c = true := isSign_head?_blank_append hgap (by rintro c ⟨⟩; decide)
      rcases suffix_of_quoted (not_mem_key _) hw hd hcolon hv hword with ⟨hkey, rfl⟩ | hv
      · exact .inl (.key hquote hkey hgap hspace hvalue hafter hrest)
      · exact .inr hv
    · rw [hquote] at hv
      have hfree : '\'' ∉ '"' :: (e.field.key ++ ['"']) := by
        simp only [List.mem_cons, List.mem_append, List.not_mem_nil, or_false, not_or]
        exact ⟨by decide, not_mem_key _, by decide⟩
      refine .inr (suffix_of_unquoted hfree ?_ hword)
      simpa only [List.append_assoc, List.cons_append, List.nil_append] using hv
  rcases hkey with hfound | hv
  · exact .inl hfound
  -- the colon
  replace hv := suffix_of_unquoted (not_mem_blank hgap) hv hword
  replace hv := suffix_of_unquoted (u := [':']) (by decide) hv hword
  replace hv := suffix_of_unquoted (not_mem_blank hspace) hv hword
  -- the value
  have hvalue' : Found (d :: w) e v ∨ v <:+ after ++ rest := by
    cases hfield : e.field with
    | descr type =>
        rw [hfield] at hvalue
        obtain ⟨hsound⟩ := hvalue
        rcases suffix_of_type hsound hw hd (isSign_head?_blank_append hafter hsign) hv hword with
          ⟨before, behind, rfl, rfl⟩ | hv
        · exact .inl (.type hfield (fun t ht => hsound t (by simp [ht])) hafter hrest)
        · exact .inr hv
    | order columnMajor =>
        rw [hfield] at hvalue
        cases hvalue
        exact .inr (suffix_of_unquoted (by cases columnMajor <;> decide) hv hword)
    | shape lengths =>
        rw [hfield] at hvalue
        obtain ⟨⟩ | ⟨⟩ | ⟨hlengths⟩ := hvalue
        refine .inr (suffix_of_unquoted ?_ hv hword)
        simp only [List.mem_cons, List.mem_append, List.not_mem_nil, or_false, not_or]
        exact ⟨by decide, not_mem_lengths hlengths, by decide⟩
  rcases hvalue' with hfound | hv
  · exact .inl hfound
  · exact .inr (suffix_of_unquoted (not_mem_blank hafter) hv hword)

theorem found_of_entries {entries : List Entry} (h : WrittenEntries entries text) (hw : '\'' ∉ d :: w)
    (hd : isSign d = false) (hv : v <:+ text) (hword : '\'' :: (d :: w ++ ['\'']) <+: v) :
    ∃ e ∈ entries, Found (d :: w) e v := by
  -- no word is found behind the closing brace
  have hclose : ∀ {after : List Char}, Blank after → v <:+ '\x7d' :: after → False := by
    intro after hafter hv
    have hv := suffix_of_unquoted (u := ['\x7d']) (by decide) hv hword
    have hmem : '\'' ∈ after := hv.subset (hword.subset List.mem_cons_self)
    exact not_mem_blank hafter hmem
  induction h with
  | nil hb hafter =>
      exact (hclose hafter (suffix_of_unquoted (not_mem_blank hb) hv hword)).elim
  | last he hafter =>
      rcases found_of_entry he hw hd (by rintro c ⟨⟩; exact .inr rfl) hv hword with hfound | hv
      · exact ⟨_, List.mem_singleton_self _, hfound⟩
      · exact (hclose hafter hv).elim
  | cons he _ ih =>
      rcases found_of_entry he hw hd (by rintro c ⟨⟩; exact .inl rfl) hv hword with hfound | hv
      · exact ⟨_, List.mem_cons_self, hfound⟩
      · obtain ⟨e, hmem, hfound⟩ := ih (suffix_of_unquoted (u := [',']) (by decide) hv hword)
        exact ⟨e, List.mem_cons_of_mem _ hmem, hfound⟩

/-- **A quoted word that is found in a dictionary** is the key of an entry or a word of the type. -/
theorem found_of_dictionary {entries : List Entry} (h : WrittenDictionary entries text)
    (hw : '\'' ∉ d :: w) (hd : isSign d = false) (hv : v <:+ text)
    (hword : '\'' :: (d :: w ++ ['\'']) <+: v) : ∃ e ∈ entries, Found (d :: w) e v := by
  obtain ⟨before, body, rfl, hbefore, hbody⟩ := h
  refine found_of_entries hbody hw hd ?_ hword
  exact suffix_of_unquoted (u := ['\x7b']) (by decide)
    (suffix_of_unquoted (not_mem_blank hbefore) hv hword) hword

end Entries

end Grounded.Npy
