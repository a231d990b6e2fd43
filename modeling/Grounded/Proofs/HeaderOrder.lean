import Grounded.Proofs.HeaderDictionary

/-!
# Which headers are accepted

A matrix is read from a file with a dictionary in its header only if the type in it is `<f4`, or a list of
fields that names `<f4`, and the shape has two lengths, or a single zero. A column-major file is turned away if
it is spelled as the writer would spell it, but only then: with another number of blanks around the colon, or
with other quotes around the key, it is read as if it were row-major.
-/

namespace Grounded.Npy

open Text

/-! ## The header of a file -/

/-- A file has one preamble. -/
theorem Preamble.eq_of_append {pre pre' rest rest' : List UInt8} {n n' : Nat} (h : Preamble pre n)
    (h' : Preamble pre' n') (heq : pre ++ rest = pre' ++ rest') : pre = pre' ∧ n = n' := by
  -- the version decides how many bytes the length has
  cases h with
  | narrow minor len hl =>
      cases h' with
      | narrow minor' len' hl' =>
          obtain ⟨hpre, -⟩ := List.append_inj heq (by simp [hl, hl'])
          obtain ⟨-, rfl⟩ := List.append_inj hpre rfl
          exact ⟨hpre, rfl⟩
      | wide version minor' len' hv hl' =>
          have hversion : 1 = version := by
            have hbyte := congrArg (·[6]?) heq
            exact Option.some.inj hbyte
          subst hversion
          exact absurd hv (by decide)
  | wide version minor len hv hl =>
      cases h' with
      | narrow minor' len' hl' =>
          have hversion : version = 1 := by
            have hbyte := congrArg (·[6]?) heq
            exact Option.some.inj hbyte
          subst hversion
          exact absurd hv (by decide)
      | wide version' minor' len' hv' hl' =>
          obtain ⟨hpre, -⟩ := List.append_inj heq (by simp [hl, hl'])
          obtain ⟨-, rfl⟩ := List.append_inj hpre rfl
          exact ⟨hpre, rfl⟩

/-- A file that is read has the shape of the matrix in its header. -/
theorem declaredShape_of_decode {pre text body : List UInt8} {m : Matrix}
    (hp : Preamble pre text.length) (h : decode (pre ++ (text ++ body)) = .ok m) :
    declaredShape (decodeLossy text) = .ok (m.rows, m.dims) := by
  obtain ⟨pre', text', body', heq, hp', hshape, -⟩ := of_decode h
  obtain ⟨rfl, hlength⟩ := hp.eq_of_append hp' heq
  obtain ⟨rfl, -⟩ := List.append_inj (List.append_cancel_left heq) hlength
  exact hshape

theorem includes_of_declaredShape {text : List Char} {shape : Nat × Nat}
    (h : declaredShape text = .ok shape) : includes "'<f4'".toList text = true ∧
      includes "'fortran_order': True".toList text = false := by
  unfold declaredShape at h
  generalize includes "'<f4'".toList text = singles at h
  generalize includes "'fortran_order': True".toList text = columns at h
  cases singles with
  | false => cases h
  | true =>
      cases columns with
      | true => cases h
      | false => exact ⟨rfl, rfl⟩

/-! ## The shape in a dictionary -/

theorem exists_of_shape? {s : List Char} {found : List Char × List Char} (h : shape? s = some found) :
    ∃ v, v <:+ s ∧ shapeHere? v = some found := by
  induction s with
  | nil => cases h
  | cons c s ih =>
      rw [shape?] at h
      split at h
      · rename_i here hhere
        cases h
        exact ⟨_, List.suffix_rfl, hhere⟩
      · obtain ⟨v, hv, hfound⟩ := ih h
        exact ⟨v, hv.trans (List.suffix_cons c s), hfound⟩

theorem prefix_of_shapeHere? {v : List Char} {found : List Char × List Char}
    (h : shapeHere? v = some found) : "'shape'".toList <+: v := by
  by_contra hnone
  rw [shapeHere?_eq_none hnone] at h
  cases h

/-- A colon follows the key of a shape. -/
theorem colon_of_shapeHere? {rest : List Char} {found : List Char × List Char}
    (h : shapeHere? ("'shape'".toList ++ rest) = some found) : (trimStart rest).head? = some ':' := by
  rw [shapeHere?, afterStart?_append] at h
  simp only [Option.bind_eq_bind, Option.bind_some] at h
  obtain ⟨after, hcolon, -⟩ := Option.bind_eq_some_iff.mp h
  rw [← afterStart?_eq_some_iff.mp hcolon]
  rfl

/-- The digits of the lengths, from behind the parenthesis that opens a shape. -/
def lengthsHere? (s : List Char) : Option (List Char × List Char) := do
  let rest := trimStart s
  let rows := rest.takeWhile isDecimalDigit
  if rows.isEmpty then none
  let rest ← afterStart? [','] (trimStart (rest.dropWhile isDecimalDigit))
  let rest := trimStart rest
  let _ ← afterStart? [')'] (trimStart (rest.dropWhile isDecimalDigit))
  some (rows, rest.takeWhile isDecimalDigit)

theorem shapeHere?_key {gap space : List Char} (hgap : Blank gap) (hspace : Blank space)
    (rest : List Char) : shapeHere? ("'shape'".toList ++ (gap ++ ':' :: (space ++ '(' :: rest)))
      = lengthsHere? rest := by
  rw [shapeHere?, afterStart?_append]
  simp only [Option.bind_eq_bind, Option.bind_some]
  rw [trimStart_blank_cons hgap (by decide)]
  rw [afterStart?_singleton_cons, Option.bind_some, trimStart_blank_cons hspace (by decide),
    afterStart?_singleton_cons]
  rfl

/-- A length is read with the blanks around it. -/
theorem length_here {n : Nat} {u v : List Char} (hu : Blank u) (hv : Blank v) {c : Char}
    (hblank : isBlank c = false) (hdigit : isDecimalDigit c = false) (rest : List Char) :
    (trimStart (u ++ (Nat.toDigits 10 n ++ (v ++ c :: rest)))).takeWhile isDecimalDigit
      = Nat.toDigits 10 n ∧
    trimStart ((trimStart (u ++ (Nat.toDigits 10 n ++ (v ++ c :: rest)))).dropWhile isDecimalDigit)
      = c :: rest := by
  have hdigits := takeWhile_toDigits_append (p := isDecimalDigit) (n := n) (v ++ c :: rest)
    (fun x => isDecimalDigit_of_mem_toDigits)
    (head?_blank_cons hv (fun x => isDecimalDigit_of_isBlank) hdigit rest)
  rw [trimStart_blank_append hu, trimStart_toDigits, hdigits.1, hdigits.2,
    trimStart_blank_cons hv hblank]
  exact ⟨rfl, rfl⟩

/-- **The reader takes two lengths, or one with a comma behind it.** -/
theorem of_lengthsHere? {lengths : List Nat} {inner rest : List Char} {found : List Char × List Char}
    (hw : WrittenLengths lengths inner) (h : lengthsHere? (inner ++ ')' :: rest) = some found) :
    (∃ n k, lengths = [n, k] ∧ found = (Nat.toDigits 10 n, Nat.toDigits 10 k)) ∨
      ∃ n, lengths = [n] ∧ found = (Nat.toDigits 10 n, []) := by
  have hparen : isBlank ')' = false ∧ isDecimalDigit ')' = false := by decide
  have hcomma : isBlank ',' = false ∧ isDecimalDigit ',' = false := by decide
  have hne : ∀ n, ¬ (Nat.toDigits 10 n).isEmpty = true := fun n he =>
    Nat.toDigits_ne_nil (List.isEmpty_iff.mp he)
  rw [lengthsHere?] at h
  simp only [Option.bind_eq_bind] at h
  cases hw with
  | nil hb =>
      rw [trimStart_blank_cons hb hparen.1, List.takeWhile_cons_of_neg (by rw [hparen.2]; decide)] at h
      cases h
  | last hu hv =>
      simp only [List.append_assoc] at h
      obtain ⟨hdigits, hrest⟩ := length_here hu hv hparen.1 hparen.2 rest
      rw [hdigits, hrest, if_neg (hne _)] at h
      cases h
  | cons hu hv hns =>
      rename_i n ns u v t
      simp only [List.append_assoc, List.cons_append] at h
      obtain ⟨hdigits, hrest⟩ := length_here (n := n) hu hv hcomma.1 hcomma.2 (t ++ ')' :: rest)
      rw [hdigits, hrest, if_neg (hne _), afterStart?_singleton_cons, Option.bind_some] at h
      -- the second length
      cases hns with
      | nil hb =>
          rw [trimStart_blank_cons hb hparen.1, List.takeWhile_cons_of_neg (by rw [hparen.2]; decide),
            List.dropWhile_cons_of_neg (by rw [hparen.2]; decide)] at h
          cases h
          exact .inr ⟨n, rfl, rfl⟩
      | last hu' hv' =>
          rename_i k u' v'
          simp only [List.append_assoc] at h
          obtain ⟨hdigits', hrest'⟩ := length_here (n := k) hu' hv' hparen.1 hparen.2 rest
          rw [hdigits', hrest'] at h
          cases h
          exact .inl ⟨n, k, rfl, rfl⟩
      | cons hu' hv' hks =>
          rename_i k ks u' v' t'
          simp only [List.append_assoc, List.cons_append] at h
          obtain ⟨hdigits', hrest'⟩ := length_here (n := k) hu' hv' hcomma.1 hcomma.2
            (t' ++ ')' :: rest)
          rw [hdigits', hrest'] at h
          cases h

theorem eq_of_natural?_toDigits {bound n k : Nat} (h : natural? bound (Nat.toDigits 10 n) = some k) :
    k = n := by
  rw [natural?_of_digitsValue? Nat.toDigits_ne_nil (digitsValue?_toDigits n)] at h
  split at h
  · exact (Option.some.inj h).symm
  · cases h

/-- No colon follows a word of a type. -/
theorem head?_after_word {type : List Token} {blanks rest : List Char}
    (hsound : ∀ token ∈ type, token.Sound) (hb : Blank blanks)
    (hrest : ∀ c ∈ rest.head?, c = ',' ∨ c = '\x7d') :
    (trimStart (type.flatMap Token.written ++ (blanks ++ rest))).head? ≠ some ':' := by
  have hsign : ∀ c s, isBlank c = false → c ≠ ':' → (trimStart (c :: s)).head? ≠ some ':' := by
    intro c s hblank hc hhead
    rw [trimStart, List.dropWhile_cons_of_neg (by rw [hblank]; decide)] at hhead
    exact hc (Option.some.inj hhead)
  induction type with
  | nil =>
      rw [List.flatMap_nil, List.nil_append, trimStart_blank_append hb]
      cases rest with
      | nil => exact (Option.some_ne_none ':').symm
      | cons c rest =>
          rcases hrest c rfl with rfl | rfl
          · exact hsign _ _ (by decide) (by decide)
          · exact hsign _ _ (by decide) (by decide)
  | cons token type ih =>
      have htoken := hsound token List.mem_cons_self
      have hnext := ih fun t ht => hsound t (List.mem_cons_of_mem _ ht)
      rw [List.flatMap_cons, List.append_assoc]
      cases token with
      | outer c =>
          by_cases hc : isBlank c = true
          · rwa [Token.written, trimStart_blank_append (fun x hx => List.mem_singleton.mp hx ▸ hc)]
          · refine hsign _ _ (Bool.not_eq_true _ ▸ hc) fun he => ?_
            rw [he] at htoken
            exact absurd (show isOuter ':' = true from htoken) (by decide)
      | quoted quote word =>
          have hquote : isQuote quote = true := htoken.1
          rw [isQuote, Bool.or_eq_true, beq_iff_eq, beq_iff_eq] at hquote
          rcases hquote with rfl | rfl
          · exact hsign _ _ (by decide) (by decide)
          · exact hsign _ _ (by decide) (by decide)

section Accepted

variable {entries : List Entry} {text : List Char}

/-- The shape that is found in a dictionary is that of one of its entries. -/
theorem lengths_of_shape? (hw : WrittenDictionary entries text) {found : List Char × List Char}
    (h : shape? text = some found) : ∃ e ∈ entries, ∃ lengths, e.field = .shape lengths ∧
      ((∃ n k, lengths = [n, k] ∧ found = (Nat.toDigits 10 n, Nat.toDigits 10 k)) ∨
        ∃ n, lengths = [n] ∧ found = (Nat.toDigits 10 n, [])) := by
  obtain ⟨v, hv, hhere⟩ := exists_of_shape? h
  obtain ⟨e, he, hfound⟩ := found_of_dictionary hw (d := 's') (w := "hape".toList) (by decide)
    (by decide) hv (prefix_of_shapeHere? hhere)
  refine ⟨e, he, ?_⟩
  cases hfound with
  | key hquote hkey hgap hspace hvalue hafter hrest =>
      rename_i value after rest
      cases hfield : e.field with
      | descr type => rw [hfield] at hkey; exact absurd hkey (by decide : "descr".toList ≠ _)
      | order columnMajor =>
          rw [hfield] at hkey
          exact absurd hkey (by decide : "fortran_order".toList ≠ _)
      | shape lengths =>
          rw [hfield] at hvalue
          obtain ⟨⟩ | ⟨⟩ | ⟨hlengths⟩ := hvalue
          rename_i inner
          have hlater : lengthsHere? (inner ++ ')' :: (after ++ rest)) = some found := by
            rw [← hhere, ← shapeHere?_key hgap hspace]
            simp only [List.append_assoc, List.cons_append, List.nil_append]
            rfl
          exact ⟨lengths, rfl, of_lengthsHere? hlengths hlater⟩
  | type hfield hsound hb hrest =>
      rename_i before after blanks rest
      replace hhere : shapeHere? ("'shape'".toList ++ (after.flatMap Token.written ++ (blanks ++ rest)))
          = some found := hhere
      exact absurd (colon_of_shapeHere? hhere) (head?_after_word hsound hb hrest)

/-- A dictionary with the type of singles in it names that type in the entry for the type. -/
theorem singles_of_includes (hw : WrittenDictionary entries text)
    (h : includes "'<f4'".toList text = true) :
    ∃ e ∈ entries, ∃ type, e.field = .descr type ∧ .quoted '\'' "<f4".toList ∈ type := by
  obtain ⟨before, after, htext⟩ := includes_iff_infix.mp h
  obtain ⟨e, he, hfound⟩ := found_of_dictionary hw (d := '<') (w := "f4".toList) (by decide) (by decide)
    (v := "'<f4'".toList ++ after) ⟨before, by rw [← htext, List.append_assoc]⟩ ⟨after, rfl⟩
  generalize "'<f4'".toList ++ after = v at hfound
  refine ⟨e, he, ?_⟩
  cases hfound with
  | key hquote hkey =>
      cases hfield : e.field with
      | descr type => rw [hfield] at hkey; exact absurd hkey (by decide : "descr".toList ≠ _)
      | order columnMajor =>
          rw [hfield] at hkey
          exact absurd hkey (by decide : "fortran_order".toList ≠ _)
      | shape lengths => rw [hfield] at hkey; exact absurd hkey (by decide : "shape".toList ≠ _)
  | type hfield =>
      exact ⟨_, hfield, List.mem_append_right _ List.mem_cons_self⟩

theorem infix_of_mem_entries (h : WrittenEntries entries text) {e : Entry} (he : e ∈ entries) :
    ∃ part, e.Written part ∧ part <:+: text := by
  induction h with
  | nil => cases he
  | last hwritten =>
      obtain rfl := List.mem_singleton.mp he
      exact ⟨_, hwritten, (List.prefix_append _ _).isInfix⟩
  | cons hwritten _ ih =>
      rcases List.mem_cons.mp he with rfl | he
      · exact ⟨_, hwritten, (List.prefix_append _ _).isInfix⟩
      · obtain ⟨part, hpart, hinfix⟩ := ih he
        exact ⟨part, hpart, hinfix.trans ((List.suffix_cons _ _).trans (List.suffix_append _ _)).isInfix⟩

/-- A column-major order that is spelled tightly has one spelling. -/
theorem infix_of_tight {e : Entry} (h : e.Written text) (hfield : e.field = .order true) (ht : e.Tight) :
    "'fortran_order': True".toList <:+: text := by
  obtain ⟨hquote, hgap, hspace⟩ := ht
  obtain ⟨-, -, -, -, -, hvalue⟩ := h
  rename_i before value after
  rw [hfield] at hvalue
  cases hvalue
  rw [hfield, hquote, hgap, hspace]
  have hspelled : "'fortran_order': True".toList
      = '\'' :: ("fortran_order".toList ++ '\'' :: ':' :: ' ' :: "True".toList) := by decide
  have hkey : (Field.order true).key = "fortran_order".toList := rfl
  have htrue : (if true = true then "True" else "False").toList = "True".toList := rfl
  refine ⟨before, after, ?_⟩
  rw [hspelled, hkey, htrue]
  -- the words get names, so that no step looks into them
  generalize "fortran_order".toList = key
  generalize "True".toList = value
  simp only [List.append_assoc, List.cons_append, List.nil_append]

/-- The order is recognised in that spelling. -/
theorem includes_of_tight (hw : WrittenDictionary entries text) {e : Entry} (he : e ∈ entries)
    (hfield : e.field = .order true) (ht : e.Tight) :
    includes "'fortran_order': True".toList text = true := by
  obtain ⟨before, body, rfl, -, hbody⟩ := hw
  obtain ⟨part, hpart, hinfix⟩ := infix_of_mem_entries hbody he
  have hbody : body <:+ before ++ '\x7b' :: body :=
    (List.suffix_cons _ body).trans (List.suffix_append before _)
  exact includes_iff_infix.mpr (((infix_of_tight hpart hfield ht).trans hinfix).trans hbody.isInfix)

end Accepted

/-! ## Which files are accepted -/

/--
**What a dictionary says when a matrix is read from its file.** The type is that of singles, or a compound
type that names it; the shape is that of the matrix, or the single length zero for an empty one; and the
numbers are row by row, unless the entry that says otherwise is not spelled tightly.
-/
theorem decode_of_dictionary {pre text body : List UInt8} {m : Matrix} {entries : List Entry}
    {type : List Token} {columnMajor : Bool} {lengths : List Nat} (hp : Preamble pre text.length)
    (hw : WrittenDictionary entries (decodeLossy text))
    (hfields : (entries.map Entry.field).Perm [.descr type, .order columnMajor, .shape lengths])
    (h : decode (pre ++ (text ++ body)) = .ok m) :
    (type = [.quoted '\'' "<f4".toList] ∨ 1 < type.length ∧ .quoted '\'' "<f4".toList ∈ type) ∧
    (columnMajor = true → ∃ e ∈ entries, e.field = .order true ∧ ¬ e.Tight) ∧
    (lengths = [m.rows, m.dims] ∨ lengths = [0] ∧ m.rows = 0 ∧ m.dims = 0) := by
  have hshape := declaredShape_of_decode hp h
  obtain ⟨hsingles, horder⟩ := includes_of_declaredShape hshape
  have hfield : ∀ e ∈ entries, e.field ∈ [.descr type, .order columnMajor, .shape lengths] :=
    fun e he => hfields.subset (List.mem_map_of_mem he)
  refine ⟨?_, ?_, ?_⟩
  -- the type
  · obtain ⟨e, he, found, hdescr, hmem⟩ := singles_of_includes hw hsingles
    obtain rfl : found = type := by
      have hone := hfield e he
      rw [hdescr] at hone
      simpa using hone
    match found, hmem with
    | [token], hmem => exact .inl (by rw [List.mem_singleton.mp hmem])
    | _ :: _ :: _, hmem => exact .inr ⟨by simp, hmem⟩
  -- the order
  · rintro rfl
    have hmem : .order true ∈ entries.map Entry.field :=
      hfields.mem_iff.mpr (List.mem_cons_of_mem _ List.mem_cons_self)
    obtain ⟨e, he, hentry⟩ := List.mem_map.mp hmem
    refine ⟨e, he, hentry, fun ht => ?_⟩
    rw [includes_of_tight hw he hentry ht] at horder
    cases horder
  -- the shape
  · obtain ⟨rowDigits, dimDigits, hfound, hrows, hdims⟩ := of_declaredShape hshape
    obtain ⟨e, he, found, hlengths, hdigits⟩ := lengths_of_shape? hw hfound
    obtain rfl : found = lengths := by
      have hone := hfield e he
      rw [hlengths] at hone
      simpa using hone
    rcases hdigits with ⟨n, k, rfl, heq⟩ | ⟨n, rfl, heq⟩
    · obtain ⟨rfl, rfl⟩ := Prod.mk.inj heq
      rcases hdims with ⟨hnil, -⟩ | hdims
      · exact absurd hnil Nat.toDigits_ne_nil
      · exact .inl (by rw [eq_of_natural?_toDigits hrows, eq_of_natural?_toDigits hdims])
    · obtain ⟨rfl, rfl⟩ := Prod.mk.inj heq
      rcases hdims with ⟨-, hzero, hdims⟩ | hdims
      · have hn := eq_of_natural?_toDigits hrows
        exact .inr ⟨by rw [← hn, hzero], hzero, hdims⟩
      · cases hdims

/-! ## A column-major file that is read -/

/-- The header of a column-major matrix, with no blank behind the colon of its order. -/
def columnHeader : List Char :=
  '\x7b' :: ("'descr': '<f4'".toList ++ ',' :: (" 'fortran_order':True".toList ++
    ',' :: (" 'shape': (2, 2)".toList ++ '\x7d' :: ['\n'])))

def columnEntries : List Entry :=
  [⟨.descr [.quoted '\'' "<f4".toList], '\'', [], [' ']⟩, ⟨.order true, '\'', [], []⟩,
    ⟨.shape [2, 2], '\'', [], [' ']⟩]

theorem written_columnHeader : WrittenDictionary columnEntries columnHeader := by
  have hnone : Blank [] := nofun
  have hspace : Blank [' '] := by decide
  have htype : (columnEntries[0]).Written "'descr': '<f4'".toList :=
    @Entry.Written.intro _ [] "'<f4'".toList [] rfl hnone hnone hspace hnone
      (.descr (by decide))
  have horder : (columnEntries[1]).Written " 'fortran_order':True".toList :=
    @Entry.Written.intro _ [' '] "True".toList [] rfl hspace hnone hnone hnone (.order true)
  have hshape : (columnEntries[2]).Written " 'shape': (2, 2)".toList :=
    @Entry.Written.intro _ [' '] "(2, 2)".toList [] rfl hspace hnone hspace hnone
      (.shape (.cons hnone hnone (.last hspace hnone)))
  exact ⟨[], _, rfl, hnone, .cons htype (.cons horder (.last hshape (by decide)))⟩

/-- The matrix that is read, with the numbers from one to four row by row. -/
def rowMajor : Matrix := ⟨2, 2, #[⟨0x3F800000⟩, ⟨0x40000000⟩, ⟨0x40400000⟩, ⟨0x40800000⟩], rfl⟩

/-- The preamble of the file. -/
def columnPreamble : List UInt8 := magic ++ [1, 0] ++ [56, 0]

/-- The header as bytes. -/
def columnText : List UInt8 := columnHeader.map (·.toNat.toUInt8)

theorem preamble_column : Preamble columnPreamble columnText.length := .narrow 0 [56, 0] rfl

theorem decodeLossy_columnText : decodeLossy columnText = columnHeader :=
  decodeLossy_ascii (ascii_of_all (by decide))

theorem decode_column :
    decode (columnPreamble ++ (columnText ++ payload rowMajor.data)) = .ok rowMajor := by
  refine decode_of_declared preamble_column (by decide) ?_ (by decide) rfl ?_
  · rw [decodeLossy_columnText]
    rfl
  · rw [payload_eq, singles_bytesOf]

theorem decode_of_dictionary_column :
    Preamble columnPreamble columnText.length ∧
    WrittenDictionary columnEntries (decodeLossy columnText) ∧
    (columnEntries.map Entry.field).Perm
      [.descr [.quoted '\'' "<f4".toList], .order true, .shape [2, 2]] ∧
    decode (columnPreamble ++ (columnText ++ payload rowMajor.data)) = .ok rowMajor ∧
    ∃ e ∈ columnEntries, e.field = .order true ∧ ¬ e.Tight := by
  have hw : WrittenDictionary columnEntries (decodeLossy columnText) :=
    decodeLossy_columnText ▸ written_columnHeader
  have hfields : (columnEntries.map Entry.field).Perm
      [.descr [.quoted '\'' "<f4".toList], .order true, .shape [2, 2]] := .refl _
  exact ⟨preamble_column, hw, hfields, decode_column,
    (decode_of_dictionary preamble_column hw hfields decode_column).2.1 rfl⟩

/-- Not every matrix that is read is row-major in its file: the numbers of this one are by columns. -/
theorem not_rowMajor_of_decode :
    ¬ ∀ (pre text body : List UInt8) (m : Matrix) (entries : List Entry) (type : List Token)
      (columnMajor : Bool) (lengths : List Nat), Preamble pre text.length →
      WrittenDictionary entries (decodeLossy text) →
      (entries.map Entry.field).Perm [.descr type, .order columnMajor, .shape lengths] →
      decode (pre ++ (text ++ body)) = .ok m → columnMajor = false := by
  intro h
  have hw : WrittenDictionary columnEntries (decodeLossy columnText) :=
    decodeLossy_columnText ▸ written_columnHeader
  cases h _ _ _ _ _ _ true _ preamble_column hw (.refl _) decode_column

end Grounded.Npy
