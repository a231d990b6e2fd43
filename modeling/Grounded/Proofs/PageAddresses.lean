import Grounded.Proofs.Utf8Text
import Grounded.Source.Ingestor

/-!
# Addresses of pages

The address of a site names a directory on a server, be it written with a slash at its end, with many or
with none (`Url.directory`), and a page stands right below it (`Url.below`). The page's address is made by
putting one slash after the site's and joining the two. A slash at the end is one more segment, and an
empty one (`segments_concat`); a walk over it steps nowhere (`walk_concat`). A plain name is one segment
that is kept as it is, and so comes in the place of the empty one.
-/

namespace Grounded

open Text

/-! ## Texts that go on -/

namespace Text

theorem cutFirst_append {sep : Char} {s before after : List Char}
    (h : cutFirst [sep] s = some (before, after)) (more : List Char) :
    cutFirst [sep] (s ++ more) = some (before, after ++ more) := by
  induction s generalizing before with
  | nil => cases h
  | cons c s ih =>
      rw [cutFirst] at h
      rw [List.cons_append, cutFirst]
      by_cases hc : [sep].isPrefixOf (c :: s) = true
      · have hc' : [sep].isPrefixOf (c :: (s ++ more)) = true := by
          rwa [List.isPrefixOf, List.isPrefixOf] at hc ⊢
        rw [if_pos hc] at h
        rw [if_pos hc']
        cases h
        rfl
      · have hc' : ¬ [sep].isPrefixOf (c :: (s ++ more)) = true := by
          rwa [List.isPrefixOf, List.isPrefixOf] at hc ⊢
        rw [if_neg hc] at h
        rw [if_neg hc']
        obtain ⟨⟨before', after'⟩, hcut, heq⟩ := Option.map_eq_some_iff.mp h
        cases heq
        rw [ih hcut, Option.map_some]

theorem cutFirst_of_not_mem {sep : Char} {s : List Char} (h : sep ∉ s) : cutFirst [sep] s = none := by
  induction s with
  | nil => rfl
  | cons c s ih =>
      rw [List.mem_cons, not_or] at h
      obtain ⟨hc, hs⟩ := h
      have hne : ¬ [sep].isPrefixOf (c :: s) = true := by
        rw [List.isPrefixOf, Bool.and_eq_true, beq_iff_eq]
        exact fun hpre => hc hpre.1
      rw [cutFirst, if_neg hne, ih hs, Option.map_none]

/-- What comes after the first occurrence is an end of the text. -/
theorem suffix_of_cutFirst {sep : Char} {s before after : List Char}
    (h : cutFirst [sep] s = some (before, after)) : after <:+ s := by
  induction s generalizing before with
  | nil => cases h
  | cons c s ih =>
      rw [cutFirst] at h
      split at h
      · cases h
        exact List.suffix_cons c s
      · obtain ⟨⟨before', after'⟩, hcut, heq⟩ := Option.map_eq_some_iff.mp h
        cases heq
        exact (ih hcut).trans (List.suffix_cons c s)

theorem dropWhile_concat {s : List Char} {p : Char → Bool} {c : Char}
    (h : s.dropWhile p ≠ [] ∨ p c = false) : (s ++ [c]).dropWhile p = s.dropWhile p ++ [c] := by
  rw [List.dropWhile_append]
  split
  case isTrue hempty =>
    rw [List.isEmpty_iff] at hempty
    have hc : ¬ p c = true := Bool.eq_false_iff.mp (h.resolve_left (fun hne => hne hempty))
    rw [hempty, List.dropWhile_cons_of_neg hc, List.nil_append]
  case isFalse => rfl

theorem takeWhile_concat (s : List Char) {p : Char → Bool} {c : Char} (h : p c = false) :
    (s ++ [c]).takeWhile p = s.takeWhile p := by
  have hc : ¬ p c = true := Bool.eq_false_iff.mp h
  rw [List.takeWhile_append, List.takeWhile_cons_of_neg hc, List.append_nil]
  split
  case isTrue hall => rw [(List.takeWhile_prefix p).eq_of_length hall]
  case isFalse => rfl

end Text

namespace Url

/-! ## Segments -/

theorem segments_ne_nil (s : List Char) : segments s ≠ [] := by
  cases s with
  | nil => exact List.cons_ne_nil _ _
  | cons c s =>
      rw [segments]
      split
      · exact List.cons_ne_nil _ _
      · split <;> exact List.cons_ne_nil _ _

/-- A slash at the end is one more segment, without anything in it. -/
theorem segments_concat (s : List Char) : segments (s ++ ['/']) = segments s ++ [[]] := by
  induction s with
  | nil => rfl
  | cons c s ih =>
      rw [List.cons_append, segments, segments, ih]
      by_cases hc : isSlash c = true
      · rw [if_pos hc, if_pos hc, List.cons_append]
      · rw [if_neg hc, if_neg hc]
        cases hs : segments s with
        | nil => exact absurd hs (segments_ne_nil s)
        | cons first rest => rfl

theorem segments_of_noSlash {s : List Char} (h : ∀ c ∈ s, isSlash c = false) :
    segments s = [s] := by
  induction s with
  | nil => rfl
  | cons c s ih =>
      obtain ⟨hc, hs⟩ := List.forall_mem_cons.mp h
      rw [segments, if_neg (Bool.eq_false_iff.mp hc), ih hs]

/-- Another character at the end belongs to the last segment. -/
theorem segments_concat_of_noSlash {c : Char} (hc : isSlash c = false) (s : List Char) :
    ∃ front last, segments (s ++ [c]) = front ++ [last ++ [c]] := by
  induction s with
  | nil => exact ⟨[], [], segments_of_noSlash (List.forall_mem_singleton.mpr hc)⟩
  | cons d s ih =>
      obtain ⟨front, last, hseg⟩ := ih
      rw [List.cons_append, segments, hseg]
      by_cases hd : isSlash d = true
      · exact ⟨[] :: front, last, if_pos hd⟩
      · rw [if_neg hd]
        cases front with
        | nil => exact ⟨[], d :: last, rfl⟩
        | cons first front => exact ⟨(d :: first) :: front, last, rfl⟩

/-! ## Walks -/

/-- The parts of a path without the empty one that a slash at its end makes. -/
def withoutSlash (path : List (List Char)) : List (List Char) :=
  if path.getLast? = some [] then path.dropLast else path

theorem withoutSlash_concat_nil (path : List (List Char)) : withoutSlash (path ++ [[]]) = path := by
  rw [withoutSlash, if_pos List.getLast?_concat, List.dropLast_concat]

theorem withoutSlash_concat (path : List (List Char)) {last : List Char} (h : last ≠ []) :
    withoutSlash (path ++ [last]) = path ++ [last] := by
  rw [withoutSlash, List.getLast?_concat, if_neg (fun heq => h (Option.some.inj heq))]

theorem encodeChar_ne_nil (c : Char) : encodeChar c ≠ [] := by
  obtain ⟨b, bytes, hbytes⟩ : ∃ b bytes, String.utf8EncodeChar c = b :: bytes := by
    refine List.exists_cons_of_length_pos ?_
    rw [String.length_utf8EncodeChar]
    exact c.utf8Size_pos
  rw [encodeChar, toList_toUTF8, String.toList_singleton, List.flatMap_singleton, hbytes,
    List.flatMap_cons]
  exact List.cons_ne_nil _ _

theorem encode_ne_nil {allowed : Char → Bool} {s : List Char} (h : s ≠ []) : encode allowed s ≠ [] := by
  cases s with
  | nil => exact absurd rfl h
  | cons c s =>
      rw [encode, List.flatMap_cons]
      refine List.append_ne_nil_of_left_ne_nil ?_ _
      split
      · exact List.cons_ne_nil _ _
      · exact encodeChar_ne_nil c

/-- **A slash at the end of a path is the last step of the walk, and leads nowhere else.** -/
theorem walk_concat (dir front : List (List Char)) {last : List Char} (h : last ≠ []) :
    walk dir (front ++ [last] ++ [[]]) = withoutSlash (walk dir (front ++ [last])) ++ [[]] := by
  have hstay : ∀ dir, walk dir [[]] = dir ++ [[]] := fun _ => rfl
  -- only the step that was the last one differs: a step up or to the same place then makes no empty part
  induction front generalizing dir with
  | nil =>
      rw [List.nil_append, List.singleton_append, walk, walk, hstay, hstay, hstay]
      · by_cases hup : isUp last = true
        · rw [if_pos hup, if_pos hup, withoutSlash_concat_nil]
        · rw [if_neg hup, if_neg hup]
          by_cases hhere : isHere last = true
          · rw [if_pos hhere, if_pos hhere, withoutSlash_concat_nil]
          · rw [if_neg hhere, if_neg hhere, withoutSlash_concat _ (encode_ne_nil h)]
      · exact List.cons_ne_nil _ _
  | cons s front ih =>
      have hmore : front ++ [last] ≠ [] := List.append_ne_nil_of_right_ne_nil _ (List.cons_ne_nil _ _)
      have hlonger : front ++ [last] ++ [[]] ≠ [] :=
        List.append_ne_nil_of_right_ne_nil _ (List.cons_ne_nil _ _)
      rw [List.cons_append, List.cons_append, walk, walk]
      · by_cases hup : isUp s = true
        · rw [if_pos hup, if_pos hup, ih]
        · rw [if_neg hup, if_neg hup]
          by_cases hhere : isHere s = true
          · rw [if_pos hhere, if_pos hhere, ih]
          · rw [if_neg hhere, if_neg hhere, ih]
      · exact hmore
      · exact hlonger

/-! ## Addresses -/

/-- No slash stands at the end. -/
def EndsOpen (s : List Char) : Prop := ∀ c, s.getLast? = some c → isSlash c = false

theorem EndsOpen.suffix {s t : List Char} (h : EndsOpen t) (hsuffix : s <:+ t) : EndsOpen s := by
  intro c hc
  obtain ⟨front, rfl⟩ := hsuffix
  refine h c ?_
  rw [List.getLast?_append, hc]
  rfl

theorem cutQuery_plain {s : List Char} (hquery : '?' ∉ s) (hfragment : '#' ∉ s) :
    cutQuery s = (s, none) := by
  have hall : s.takeWhile (· != '#') = s := by
    rw [List.takeWhile_eq_self_iff]
    intro c hc
    rw [bne_iff_ne]
    rintro rfl
    exact hfragment hc
  rw [cutQuery, hall, cutFirst_of_not_mem hquery]

/-- The address of the directory that an address names, be there a slash at its end or not. -/
def directory (u : Url) : Url := { u with path := withoutSlash u.path ++ [[]] }

/-- The address of a page right below the directory that an address names. -/
def below (u : Url) (page : String) : Url :=
  { u with path := withoutSlash u.path ++ [page.toList] }

/-- A path without a slash at its end, and the same path with one. -/
theorem segments_path_concat {s : List Char} (hends : EndsOpen s)
    (hfirst : ∀ c, s.head? = some c → isSlash c = true) :
    walk [] ((segments (s ++ ['/'])).drop 1) = withoutSlash (walk [] ((segments s).drop 1)) ++ [[]] := by
  cases s with
  | nil => rfl
  | cons d rest =>
      have hd : isSlash d = true := hfirst d rfl
      cases hlast : rest.getLast? with
      | none =>
          rw [List.getLast?_eq_none_iff] at hlast
          subst hlast
          exact absurd hd (Bool.eq_false_iff.mp (hends d rfl))
      | some c =>
          have hc : isSlash c = false := hends.suffix (List.suffix_cons d rest) c hlast
          obtain ⟨init, rfl⟩ := List.getLast?_eq_some_iff.mp hlast
          obtain ⟨front, last, hseg⟩ := segments_concat_of_noSlash hc init
          have hne : last ++ [c] ≠ [] := List.append_ne_nil_of_right_ne_nil _ (List.cons_ne_nil _ _)
          rw [segments_concat, segments, if_pos hd, hseg, List.cons_append, List.drop_one,
            List.drop_one, List.tail_cons, List.tail_cons]
          exact walk_concat [] front hne

theorem slash_of_endsAuthority {c : Char} (h : endsAuthority c = true) (hquery : c ≠ '?')
    (hfragment : c ≠ '#') : isSlash c = true := by
  rw [endsAuthority, beq_false_of_ne hquery, beq_false_of_ne hfragment, Bool.or_false,
    Bool.or_false] at h
  exact h

theorem authority?_nil (rules : NameRules) (scheme : List Char) : authority? rules scheme [] = none := rfl

theorem afterScheme?_eq (rules : NameRules) (scheme s : List Char) : afterScheme? rules scheme s =
    if schemes.contains scheme = true then
      (authority? rules scheme ((s.dropWhile isSlash).takeWhile (!endsAuthority ·))).map fun authority =>
        { scheme, authority
          path := walk []
            ((segments (cutQuery ((s.dropWhile isSlash).dropWhile (!endsAuthority ·))).1).drop 1)
          query := (cutQuery ((s.dropWhile isSlash).dropWhile (!endsAuthority ·))).2 }
    else none := rfl

/-- The slash comes to stand at the end of the path, as the authority has ended before. -/
theorem afterScheme?_concat {rules : NameRules} {scheme s : List Char} {u : Url} (hends : EndsOpen s)
    (hquery : '?' ∉ s) (hfragment : '#' ∉ s) (h : afterScheme? rules scheme s = some u) :
    afterScheme? rules scheme (s ++ ['/']) = some u.directory ∧ u.query = none := by
  rw [afterScheme?_eq] at h ⊢
  obtain ⟨hknown, h⟩ : schemes.contains scheme = true ∧ _ := Option.ite_none_right_eq_some.mp h
  rw [if_pos hknown]
  -- without a host the slash would be one of those before it
  have hhost : s.dropWhile isSlash ≠ [] := by
    intro hnil
    rw [hnil, List.takeWhile_nil, authority?_nil] at h
    cases h
  rw [dropWhile_concat (.inl hhost)]
  have hsuffix : s.dropWhile isSlash <:+ s := List.dropWhile_suffix _
  generalize s.dropWhile isSlash = rest at h hsuffix
  have hslash : (!endsAuthority '/') = false := rfl
  rw [takeWhile_concat rest hslash, dropWhile_concat (.inr hslash)]
  -- what is left is empty or begins with a slash
  have hpath : rest.dropWhile (!endsAuthority ·) <:+ s := (List.dropWhile_suffix _).trans hsuffix
  have hfirst : ∀ c, (rest.dropWhile (!endsAuthority ·)).head? = some c → isSlash c = true := by
    intro c hc
    have hnot := List.head?_dropWhile_not (!endsAuthority ·) rest
    rw [hc] at hnot
    have hmem : c ∈ s := hpath.subset (List.mem_of_mem_head? hc)
    refine slash_of_endsAuthority ((Bool.not_eq_false' _).mp hnot) ?_ ?_
    · rintro rfl
      exact hquery hmem
    · rintro rfl
      exact hfragment hmem
  generalize rest.dropWhile (!endsAuthority ·) = path at h hpath hfirst
  have hq : '?' ∉ path := fun hmem => hquery (hpath.subset hmem)
  have hf : '#' ∉ path := fun hmem => hfragment (hpath.subset hmem)
  have hcut := cutQuery_plain hq hf
  have hcut' : cutQuery (path ++ ['/']) = (path ++ ['/'], none) := by
    refine cutQuery_plain ?_ ?_
    · rw [List.mem_append, not_or]
      exact ⟨hq, by decide⟩
    · rw [List.mem_append, not_or]
      exact ⟨hf, by decide⟩
  rw [hcut] at h
  rw [hcut']
  obtain ⟨authority, hauthority, rfl⟩ := Option.map_eq_some_iff.mp h
  rw [hauthority, Option.map_some, segments_path_concat (hends.suffix hpath) hfirst]
  exact ⟨rfl, rfl⟩

/-- A text that ends in a character that is kept loses nothing at its end. -/
theorem stripBoth_concat (p : Char → Bool) (s : List Char) {c : Char} (hc : p c = false) :
    stripBoth p (s ++ [c]) = s.dropWhile p ++ [c] := by
  rw [stripBoth, dropWhile_concat (.inr hc), List.reverse_concat,
    List.dropWhile_cons_of_neg (Bool.eq_false_iff.mp hc), List.reverse_cons, List.reverse_reverse]

/-- A character within a text that is no tab and ends no line. -/
def isKept (c : Char) : Bool := !(['\t', '\n', '\r'].contains c)

theorem clean_eq (s : List Char) : clean s = (stripBoth (· ≤ ' ') s).filter isKept := rfl

theorem isKept_of_visible {c : Char} (h : ' ' < c) : isKept c = true := by
  have hbreaks : ['\t', '\n', '\r'].all (· ≤ ' ') = true := by decide
  rw [isKept, Bool.not_eq_true', Bool.eq_false_iff, ne_eq, List.contains_iff_mem]
  intro hmem
  exact absurd (of_decide_eq_true (List.all_eq_true.mp hbreaks c hmem)) (Char.not_le.mpr h)

theorem not_blank_of_visible {c : Char} (h : ' ' < c) : decide (c ≤ ' ') = false :=
  decide_eq_false (Char.not_le.mpr h)

/-- A visible character at the end stays there. -/
theorem clean_concat (s : List Char) {c : Char} (hc : ' ' < c) :
    clean (s ++ [c]) = (s.dropWhile (· ≤ ' ')).filter isKept ++ [c] := by
  have hlast : [c].filter isKept = [c] :=
    List.filter_eq_self.mpr (List.forall_mem_singleton.mpr (isKept_of_visible hc))
  rw [clean_eq, stripBoth_concat _ _ (not_blank_of_visible hc), List.filter_append, hlast]

/-- A slash behind a visible character is kept, and nothing else changes by it. -/
theorem clean_concat_slash (s : List Char) {c : Char} (hc : ' ' < c) :
    clean (s ++ [c] ++ ['/']) = clean (s ++ [c]) ++ ['/'] := by
  have hlast : [c].filter isKept = [c] :=
    List.filter_eq_self.mpr (List.forall_mem_singleton.mpr (isKept_of_visible hc))
  rw [clean_concat (s ++ [c]) (by decide), clean_concat s hc,
    dropWhile_concat (.inr (not_blank_of_visible hc)), List.filter_append, hlast]

theorem clean_of_visible {s : List Char} (h : ∀ c ∈ s, ' ' < c) : clean s = s := by
  cases hlast : s.getLast? with
  | none => rw [List.getLast?_eq_none_iff.mp hlast]; rfl
  | some c =>
      obtain ⟨front, rfl⟩ := List.getLast?_eq_some_iff.mp hlast
      obtain ⟨hfront, hc⟩ := List.forall_mem_append.mp h
      have hdrop : front.dropWhile (· ≤ ' ') = front := by
        rw [List.dropWhile_eq_self_iff]
        intro hpos
        rw [not_blank_of_visible (hfront _ (List.getElem_mem hpos))]
        exact Bool.false_ne_true
      rw [clean_concat _ (hc c List.mem_cons_self), hdrop,
        List.filter_eq_self.mpr fun d hd => isKept_of_visible (hfront d hd)]

theorem cutScheme?_eq (s : List Char) : cutScheme? s = (cutFirst [':'] s).bind fun cut =>
    cut.1.head?.bind fun first =>
      if (first.isAlpha && cut.1.all fun c => c.isAlphanum || ['+', '-', '.'].contains c) = true then
        some (cut.1.map Char.toLower, cut.2)
      else none := rfl

theorem cutScheme?_append {s scheme rest : List Char} (h : cutScheme? s = some (scheme, rest))
    (more : List Char) : cutScheme? (s ++ more) = some (scheme, rest ++ more) := by
  rw [cutScheme?_eq] at h ⊢
  obtain ⟨cut, hcut, h⟩ := Option.bind_eq_some_iff.mp h
  obtain ⟨first, hfirst, h⟩ := Option.bind_eq_some_iff.mp h
  rw [cutFirst_append hcut, Option.bind_some, hfirst, Option.bind_some]
  split at h
  case isTrue hscheme =>
    cases h
    exact if_pos hscheme
  case isFalse => cases h

theorem suffix_of_cutScheme? {s scheme rest : List Char} (h : cutScheme? s = some (scheme, rest)) :
    rest <:+ s := by
  rw [cutScheme?_eq] at h
  obtain ⟨cut, hcut, h⟩ := Option.bind_eq_some_iff.mp h
  obtain ⟨first, _, h⟩ := Option.bind_eq_some_iff.mp h
  split at h
  · cases h
    exact suffix_of_cutFirst hcut
  · cases h

/--
**One slash more names the directory,** if the address ends in a visible character that is no slash, and
has neither a query nor a fragment.
-/
theorem parse?_concat {rules : NameRules} {s : List Char} {u : Url} (hends : EndsOpen s)
    (hvisible : ∀ c, s.getLast? = some c → ' ' < c) (hquery : '?' ∉ s) (hfragment : '#' ∉ s)
    (h : parse? rules s = some u) :
    parse? rules (s ++ ['/']) = some u.directory ∧ u.query = none := by
  cases hlast : s.getLast? with
  | none =>
      rw [List.getLast?_eq_none_iff.mp hlast] at h
      cases h
  | some c =>
      obtain ⟨front, rfl⟩ := List.getLast?_eq_some_iff.mp hlast
      have hc := hvisible c hlast
      have hclean : clean (front ++ [c]) ⊆ front ++ [c] := by
        rw [clean_concat front hc]
        have hfront : ((front.dropWhile (· ≤ ' ')).filter isKept).Sublist front :=
          List.filter_sublist.trans (List.dropWhile_suffix _).sublist
        exact (hfront.append_right [c]).subset
      rw [parse?] at h ⊢
      rw [clean_concat_slash front hc]
      cases hscheme : cutScheme? (clean (front ++ [c])) with
      | none => rw [hscheme] at h; cases h
      | some cut =>
          obtain ⟨scheme, rest⟩ := cut
          rw [hscheme] at h
          rw [cutScheme?_append hscheme]
          have hrest := suffix_of_cutScheme? hscheme
          refine afterScheme?_concat ?_ ?_ ?_ h
          · refine EndsOpen.suffix ?_ hrest
            intro d hd
            rw [clean_concat front hc, List.getLast?_concat] at hd
            exact hends d (hlast.trans hd)
          · exact fun hmem => hquery (hclean (hrest.subset hmem))
          · exact fun hmem => hfragment (hclean (hrest.subset hmem))

/-! ## Names of pages -/

/-- A character that a page name may hold: an ASCII letter, a digit, a hyphen, an underscore or a dot. -/
def isPlain (c : Char) : Bool := c.isAlphanum || ['-', '_', '.'].contains c

end Url

/-- A plain name of a page. -/
structure PageName (name : String) : Prop where
  nonempty : name.toList ≠ []
  plain : ∀ c ∈ name.toList, Url.isPlain c = true
  notHere : name ≠ "."
  notAbove : name ≠ ".."

namespace Url

/-- What a plain character is, is not, and becomes in lower case. -/
structure Plain (c : Char) : Prop where
  visible : ' ' < c
  inPath : inPath c = true
  noSlash : isSlash c = false
  noColon : c ≠ ':'
  noQuery : c ≠ '?'
  noFragment : c ≠ '#'
  lowerNoPercent : c.toLower ≠ '%'
  lowerDot : c.toLower = '.' → c = '.'

theorem toNat_lt_of_isPlain {c : Char} (h : isPlain c = true) : c.toNat < 128 := by
  rw [isPlain, Bool.or_eq_true, List.contains_iff_mem] at h
  rcases h with hletter | hmark
  · have hranges : ((decide (c.val ≥ 'A'.val ∧ c.val ≤ 'Z'.val) ||
        (decide (c.val ≥ 'a'.val) && decide (c.val ≤ 'z'.val))) ||
          (decide (c.val ≥ '0'.val) && decide (c.val ≤ '9'.val))) = true := hletter
    simp only [Bool.or_eq_true, Bool.and_eq_true, decide_eq_true_eq, ge_iff_le,
      UInt32.le_iff_toNat_le] at hranges
    have hupper : 'Z'.val.toNat = 90 := rfl
    have hlower : 'z'.val.toNat = 122 := rfl
    have hdigit : '9'.val.toNat = 57 := rfl
    show c.val.toNat < 128
    omega
  · have hmarks : ['-', '_', '.'].all (·.toNat < 128) = true := by decide
    exact of_decide_eq_true (List.all_eq_true.mp hmarks c hmark)

theorem plain_of_isPlain {c : Char} (h : isPlain c = true) : Plain c := by
  -- there are few enough of them to look at each
  have hall : ∀ n < 128, isPlain (Char.ofNat n) = true →
      ' ' < Char.ofNat n ∧ inPath (Char.ofNat n) = true ∧ isSlash (Char.ofNat n) = false ∧
        Char.ofNat n ≠ ':' ∧ Char.ofNat n ≠ '?' ∧ Char.ofNat n ≠ '#' ∧
        (Char.ofNat n).toLower ≠ '%' ∧ ((Char.ofNat n).toLower = '.' → Char.ofNat n = '.') := by
    decide +kernel
  have hc := hall c.toNat (toNat_lt_of_isPlain h)
  rw [Char.ofNat_toNat] at hc
  obtain ⟨hvisible, hpath, hslash, hcolon, hquery, hfragment, hpercent, hdot⟩ := hc h
  exact ⟨hvisible, hpath, hslash, hcolon, hquery, hfragment, hpercent, hdot⟩

end Url

namespace PageName

open Url

variable {name : String} (h : PageName name)

include h

theorem plainly {c : Char} (hc : c ∈ name.toList) : Plain c := plain_of_isPlain (h.plain c hc)

theorem fileName : Path.FileName name := by
  refine ⟨h.nonempty, ?_, h.notHere, h.notAbove⟩
  intro hslash
  exact absurd (h.plainly hslash).noSlash (by decide)

/-- Whatever its case, the name is not a text with a percent sign. -/
theorem lower_ne_of_percent {s : List Char} (hs : '%' ∈ s) : name.toList.map Char.toLower ≠ s := by
  rintro rfl
  obtain ⟨c, hc, hlower⟩ := List.mem_map.mp hs
  exact (h.plainly hc).lowerNoPercent hlower

/-- Dots have no other case. -/
theorem eq_of_lower_dots {s : List Char} (hs : ∀ c ∈ s, c = '.')
    (heq : name.toList.map Char.toLower = s) : name.toList = s := by
  have hdots : ∀ c ∈ name.toList, c.toLower = c := by
    intro c hc
    have hdot : c.toLower = '.' := hs _ (by rw [← heq]; exact List.mem_map_of_mem hc)
    rw [hdot, (h.plainly hc).lowerDot hdot]
  rw [← heq]
  exact ((List.map_congr_left hdots).trans (List.map_id _)).symm

theorem not_isHere : isHere name.toList = false := by
  rw [isHere, Bool.or_eq_false_iff, beq_eq_false_iff_ne, beq_eq_false_iff_ne]
  refine ⟨?_, h.lower_ne_of_percent (by decide)⟩
  intro heq
  exact h.notHere (String.toList_injective heq)

theorem not_isUp : isUp name.toList = false := by
  rw [isUp, Bool.eq_false_iff, ne_eq, List.contains_iff_mem, List.mem_cons]
  rintro (hdots | hpercent)
  · refine h.notAbove (String.toList_injective (h.eq_of_lower_dots ?_ hdots))
    exact List.forall_mem_cons.mpr ⟨rfl, List.forall_mem_singleton.mpr rfl⟩
  · have hmem : ∀ s ∈ [".%2e".toList, "%2e.".toList, "%2e%2e".toList], '%' ∈ s := by decide
    exact h.lower_ne_of_percent (hmem _ hpercent) rfl

theorem encode_inPath : encode inPath name.toList = name.toList := by
  have hkept : ∀ s : List Char, (∀ c ∈ s, Plain c) → encode inPath s = s := by
    intro s hs
    induction s with
    | nil => rfl
    | cons c s ih =>
        obtain ⟨hc, hrest⟩ := List.forall_mem_cons.mp hs
        rw [encode, List.flatMap_cons, if_pos hc.inPath, ← encode, ih hrest, List.singleton_append]
  exact hkept name.toList fun c hc => h.plainly hc

/-- **Joined with a directory, a plain name names what stands right below it.** -/
theorem join_directory (rules : NameRules) {u : Url} (hquery : u.query = none) :
    u.directory.join rules name.toList = some (u.below name) := by
  have hclean : clean name.toList = name.toList := clean_of_visible fun c hc => (h.plainly hc).visible
  have hscheme : cutScheme? name.toList = none := by
    rw [cutScheme?_eq, cutFirst_of_not_mem fun hmem => (h.plainly hmem).noColon rfl]
    rfl
  have hcut : cutQuery name.toList = (name.toList, none) :=
    cutQuery_plain (fun hmem => (h.plainly hmem).noQuery rfl) fun hmem => (h.plainly hmem).noFragment rfl
  have hsegments : segments name.toList = [name.toList] :=
    segments_of_noSlash fun c hc => (h.plainly hc).noSlash
  rw [join, hclean, hscheme]
  dsimp only
  rw [relative, hcut]
  cases hname : name.toList with
  | nil => exact absurd hname h.nonempty
  | cons c rest =>
      have hc : ¬ isSlash c = true :=
        Bool.eq_false_iff.mp (h.plainly (by rw [hname]; exact List.mem_cons_self)).noSlash
      dsimp only
      rw [if_neg hc, ← hname, hsegments, walk, if_neg (Bool.eq_false_iff.mp h.not_isUp),
        if_neg (Bool.eq_false_iff.mp h.not_isHere), h.encode_inPath, directory, below,
        List.dropLast_concat, hquery]

end PageName

/-! ## Sites -/

/--
The address of a site, without slashes at its end: an address with neither a query nor a fragment, whose
last character is visible. The rules for names are those of its server.
-/
structure Url.IsSite (rules : NameRules) (root : List Char) (base : Url) : Prop where
  parsed : parse? rules root = some base
  /-- Slashes at the end are written behind; a backslash is one too. -/
  endsOpen : EndsOpen root
  /-- Blanks at the end are no part of an address. -/
  visible : ∀ c, root.getLast? = some c → ' ' < c
  noQuery : '?' ∉ root
  noFragment : '#' ∉ root

namespace Ingestor

theorem trimmed_slashes {root : List Char} (h : Url.EndsOpen root) (count : Nat) :
    ((root ++ List.replicate count '/').reverse.dropWhile (· == '/')).reverse = root := by
  have hslashes : ∀ c ∈ List.replicate count '/', (c == '/') = true := by
    intro c hc
    rw [List.eq_of_mem_replicate hc]
    rfl
  rw [List.reverse_append, List.reverse_replicate, List.dropWhile_append_of_pos hslashes]
  cases hlast : root.getLast? with
  | none => rw [List.getLast?_eq_none_iff.mp hlast]; rfl
  | some c =>
      obtain ⟨front, rfl⟩ := List.getLast?_eq_some_iff.mp hlast
      have hc : ¬ (c == '/') = true := by
        intro heq
        rw [beq_iff_eq] at heq
        subst heq
        exact absurd (h '/' hlast) (by decide)
      have hstays : (c :: front.reverse).dropWhile (· == '/') = c :: front.reverse :=
        List.dropWhile_cons_of_neg hc
      rw [List.reverse_concat, hstays, List.reverse_cons, List.reverse_reverse]

/-- **The address of a page** is right below the directory that the site's address names. -/
theorem pageUrl?_eq {rules : NameRules} {site page : String} {root : List Char} {count : Nat}
    {base : Url} (hsite : site.toList = root ++ List.replicate count '/')
    (hroot : Url.IsSite rules root base) (hpage : PageName page) :
    pageUrl? rules site page = some (base.below page) := by
  obtain ⟨hdirectory, hnoQuery⟩ :=
    Url.parse?_concat hroot.endsOpen hroot.visible hroot.noQuery hroot.noFragment hroot.parsed
  rw [pageUrl?, hsite, trimmed_slashes hroot.endsOpen, hdirectory]
  exact hpage.join_directory rules hnoQuery

end Ingestor

end Grounded
