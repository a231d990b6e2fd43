import Grounded.Proofs.CutFiles
import Grounded.Text.Utf8

/-!
# Decoding what was encoded

The lossy decoder replaces only what no text is encoded to: the bytes of a text are read as that text.
-/

namespace Grounded.Text

/-! ## Bytes that complete a character -/

-- the library states these two with the constant `UInt8.size`, of which omega knows nothing

theorem toNat_ofNat_byte {n : Nat} (h : n < 256) : (UInt8.ofNat n).toNat = n :=
  UInt8.toNat_ofNat_of_lt' h

theorem ofNat_le_ofNat_byte {m n : Nat} (hm : m < 256) (hn : n < 256) :
    UInt8.ofNat m ≤ UInt8.ofNat n ↔ m ≤ n :=
  UInt8.ofNat_le_iff_le hm hn

/-- A byte within the bounds gives the next six bits of a character. -/
theorem complete_cons (low high : Nat) {a : Nat} (hlow : low ≤ a + 128) (hhigh : a + 128 ≤ high)
    (ha : a < 64) (hbyte : high < 256) (value more : Nat) (rest : List UInt8) :
    complete value (UInt8.ofNat low) (UInt8.ofNat high) (more + 1) (UInt8.ofNat (a + 128) :: rest)
      = complete (value * 64 + a) 0x80 0xBF more rest := by
  have hl : UInt8.ofNat low ≤ UInt8.ofNat (a + 128) :=
    (ofNat_le_ofNat_byte (by omega) (by omega)).mpr hlow
  have hh : UInt8.ofNat (a + 128) ≤ UInt8.ofNat high :=
    (ofNat_le_ofNat_byte (by omega) hbyte).mpr hhigh
  have hbits : (a + 128) % 64 = a := by omega
  rw [complete, if_pos (by rw [decide_eq_true hl, decide_eq_true hh]; rfl),
    toNat_ofNat_byte (by omega), hbits]

/-- After the second byte the bounds are always the same. -/
theorem complete_next {a : Nat} (ha : a < 64) (value more : Nat) (rest : List UInt8) :
    complete value 0x80 0xBF (more + 1) (UInt8.ofNat (a + 128) :: rest)
      = complete (value * 64 + a) 0x80 0xBF more rest :=
  complete_cons 0x80 0xBF (by omega) (by omega) ha (by omega) value more rest

/-! ## First bytes -/

theorem sequence?_two {n : Nat} (h : n < 0x1E) :
    sequence? (UInt8.ofNat (n + 0xC2)) = some (UInt8.ofNat 0x80, UInt8.ofNat 0xBF, 1) := by
  decide +revert

theorem sequence?_three {n : Nat} (h : n < 0x10) : sequence? (UInt8.ofNat (n + 0xE0))
    = some (UInt8.ofNat (if n = 0 then 0xA0 else 0x80),
        UInt8.ofNat (if n = 0x0D then 0x9F else 0xBF), 2) := by
  decide +revert

theorem sequence?_four {n : Nat} (h : n < 5) : sequence? (UInt8.ofNat (n + 0xF0))
    = some (UInt8.ofNat (if n = 0 then 0x90 else 0x80),
        UInt8.ofNat (if n = 4 then 0x8F else 0xBF), 3) := by
  decide +revert

theorem decodeLossy_sequence {first low high : UInt8} {more : Nat} (hfirst : 0x80 ≤ first)
    (h : sequence? first = some (low, high, more)) (rest : List UInt8) :
    decodeLossy (first :: rest) =
      (complete (if more = 1 then first.toNat % 32 else if more = 2 then first.toNat % 16
        else first.toNat % 8) low high more rest).1 ::
      decodeLossy (complete (if more = 1 then first.toNat % 32 else if more = 2 then first.toNat % 16
        else first.toNat % 8) low high more rest).2 := by
  have hlarge : ¬ first < 0x80 := UInt8.not_lt.mpr hfirst
  rw [decodeLossy, if_neg hlarge, h]

theorem decodeLossy_two {n a : Nat} (hn : n < 0x1E) (ha : a < 64) (rest : List UInt8) :
    decodeLossy (UInt8.ofNat (n + 0xC2) :: UInt8.ofNat (a + 128) :: rest)
      = Char.ofNat ((n + 2) * 64 + a) :: decodeLossy rest := by
  have hfirst : UInt8.ofNat 0x80 ≤ UInt8.ofNat (n + 0xC2) :=
    (ofNat_le_ofNat_byte (by omega) (by omega)).mpr (by omega)
  have hbits : (n + 0xC2) % 32 = n + 2 := by omega
  rw [decodeLossy_sequence hfirst (sequence?_two hn), if_pos rfl, toNat_ofNat_byte (by omega), hbits,
    complete_cons _ _ (by omega) (by omega) ha (by omega), complete]

theorem decodeLossy_three {n a b : Nat} (hn : n < 0x10) (ha : a < 64) (hb : b < 64)
    (hlow : n = 0 → 32 ≤ a) (hhigh : n = 0x0D → a < 32) (rest : List UInt8) :
    decodeLossy (UInt8.ofNat (n + 0xE0) :: UInt8.ofNat (a + 128) :: UInt8.ofNat (b + 128) :: rest)
      = Char.ofNat ((n * 64 + a) * 64 + b) :: decodeLossy rest := by
  have hfirst : UInt8.ofNat 0x80 ≤ UInt8.ofNat (n + 0xE0) :=
    (ofNat_le_ofNat_byte (by omega) (by omega)).mpr (by omega)
  have hbits : (n + 0xE0) % 16 = n := by omega
  have hsecond : (if n = 0 then 0xA0 else 0x80) ≤ a + 128 ∧
      a + 128 ≤ (if n = 0x0D then 0x9F else 0xBF) := by
    split <;> split <;> omega
  rw [decodeLossy_sequence hfirst (sequence?_three hn), if_neg (by decide), if_pos rfl,
    toNat_ofNat_byte (by omega), hbits, complete_cons _ _ hsecond.1 hsecond.2 ha (by split <;> omega),
    complete_next hb, complete]

theorem decodeLossy_four {n a b c : Nat} (hn : n < 5) (ha : a < 64) (hb : b < 64) (hc : c < 64)
    (hlow : n = 0 → 16 ≤ a) (hhigh : n = 4 → a < 16) (rest : List UInt8) :
    decodeLossy (UInt8.ofNat (n + 0xF0) :: UInt8.ofNat (a + 128) :: UInt8.ofNat (b + 128) ::
      UInt8.ofNat (c + 128) :: rest)
      = Char.ofNat (((n * 64 + a) * 64 + b) * 64 + c) :: decodeLossy rest := by
  have hfirst : UInt8.ofNat 0x80 ≤ UInt8.ofNat (n + 0xF0) :=
    (ofNat_le_ofNat_byte (by omega) (by omega)).mpr (by omega)
  have hbits : (n + 0xF0) % 8 = n := by omega
  have hsecond : (if n = 0 then 0x90 else 0x80) ≤ a + 128 ∧
      a + 128 ≤ (if n = 4 then 0x8F else 0xBF) := by
    split <;> split <;> omega
  rw [decodeLossy_sequence hfirst (sequence?_four hn), if_neg (by decide), if_neg (by decide),
    toNat_ofNat_byte (by omega), hbits, complete_cons _ _ hsecond.1 hsecond.2 ha (by split <;> omega),
    complete_next hb, complete_next hc, complete]

/-! ## Texts -/

/-- **The bytes of a character are read as that character.** -/
theorem decodeLossy_utf8EncodeChar (c : Char) (rest : List UInt8) :
    decodeLossy (String.utf8EncodeChar c ++ rest) = c :: decodeLossy rest := by
  have hchar : Char.ofNat c.val.toNat = c := Char.ofNat_toNat c
  have hvalid : c.val.toNat < 0xD800 ∨ 0xDFFF < c.val.toNat ∧ c.val.toNat < 0x110000 := c.valid
  rw [String.utf8EncodeChar]
  generalize c.val.toNat = v at hchar hvalid
  -- by the number of bytes; the bounds of the second byte keep out surrogates and what has shorter forms
  split
  case isTrue hone =>
    have hlt : UInt8.ofNat v < 0x80 := by
      rw [UInt8.lt_iff_toNat_lt, toNat_ofNat_byte (by omega)]
      exact Nat.lt_succ_of_le hone
    rw [List.singleton_append, decodeLossy, if_pos hlt, toNat_ofNat_byte (by omega), hchar]
  case isFalse hone =>
    split
    case isTrue htwo =>
      have hfirst : v / 64 % 32 + 192 = (v / 64 - 2) + 0xC2 := by omega
      have hvalue : (v / 64 - 2 + 2) * 64 + v % 64 = v := by omega
      rw [hfirst, List.cons_append, List.singleton_append, decodeLossy_two (by omega) (by omega),
        hvalue, hchar]
    case isFalse htwo =>
      split
      case isTrue hthree =>
        have hfirst : v / 4096 % 16 + 224 = v / 4096 + 0xE0 := by omega
        have hvalue : (v / 4096 * 64 + v / 64 % 64) * 64 + v % 64 = v := by omega
        rw [hfirst, List.cons_append, List.cons_append, List.singleton_append,
          decodeLossy_three (by omega) (by omega) (by omega) (by omega) (by omega), hvalue, hchar]
      case isFalse hthree =>
        have hfirst : v / 262144 % 8 + 240 = v / 262144 + 0xF0 := by omega
        have hvalue :
            ((v / 262144 * 64 + v / 4096 % 64) * 64 + v / 64 % 64) * 64 + v % 64 = v := by omega
        rw [hfirst, List.cons_append, List.cons_append, List.cons_append, List.singleton_append,
          decodeLossy_four (by omega) (by omega) (by omega) (by omega) (by omega) (by omega), hvalue,
          hchar]

theorem decodeLossy_flatMap (s : List Char) : decodeLossy (s.flatMap String.utf8EncodeChar) = s := by
  induction s with
  | nil => rw [List.flatMap_nil, decodeLossy]
  | cons c s ih => rw [List.flatMap_cons, decodeLossy_utf8EncodeChar, ih]

theorem toList_toUTF8 (text : String) :
    text.toUTF8.toList = text.toList.flatMap String.utf8EncodeChar := by
  rw [String.toUTF8_eq_toByteArray, ← String.utf8Encode_toList, List.utf8Encode, Disk.toList_eq,
    List.data_toByteArray, List.toList_toArray]

/-- **The bytes of a text are read as that text.** -/
theorem decodeLossy_toUTF8 (text : String) : decodeLossy text.toUTF8.toList = text.toList := by
  rw [toList_toUTF8, decodeLossy_flatMap]

end Grounded.Text
