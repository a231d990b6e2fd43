import Grounded.Proofs.NpyHeader

/-!
# Matrix files read back

A file is a preamble, a header and the numbers. `Preamble` says which preambles announce a header of a
given length; with it, reading a file splits into one equation for the files that have a preamble and
one inversion for those that are accepted. Both directions of the round trip follow: what is written is
read back bit for bit, and what is read holds exactly the numbers that would be written, right behind
the header that it declares.
-/

namespace Grounded

namespace Text

/-- ASCII bytes are read one character each. -/
theorem decodeLossy_ascii {s : List Char} (h : ∀ c ∈ s, c.toNat < 0x80) :
    decodeLossy (s.map (·.toNat.toUInt8)) = s := by
  induction s with
  | nil => rw [List.map_nil, decodeLossy]
  | cons c s ih =>
      have hc : c.toNat < 0x80 := h c (by simp)
      have hb : c.toNat.toUInt8.toNat = c.toNat := by
        rw [Nat.toUInt8, UInt8.toNat_ofNat', Nat.mod_eq_of_lt (by omega)]
      have hlt : c.toNat.toUInt8 < 0x80 := by
        rw [UInt8.lt_iff_toNat_lt, hb]
        exact hc
      rw [List.map_cons, decodeLossy, if_pos hlt, hb, Char.ofNat_toNat,
        ih (fun x hx => h x (by simp [hx]))]

end Text

namespace Npy

open Text

/-! ## Numbers as bytes -/

theorem length_toLittleEndian (count n : Nat) : (toLittleEndian count n).length = count := by
  induction count generalizing n with
  | zero => rfl
  | succ count ih => rw [toLittleEndian, List.length_cons, ih]

/-- The least number that so many bytes cannot spell. -/
def byteBound : Nat → Nat
  | 0 => 1
  | count + 1 => 256 * byteBound count

theorem littleEndian_toLittleEndian {count n : Nat} (h : n < byteBound count) :
    littleEndian (toLittleEndian count n) = n := by
  induction count generalizing n with
  | zero =>
      have hn : n = 0 := Nat.lt_one_iff.mp h
      subst hn
      rfl
  | succ count ih =>
      have hq : n / 256 < byteBound count := by
        rw [byteBound] at h
        omega
      rw [toLittleEndian, littleEndian, ih hq, Nat.toUInt8, UInt8.toNat_ofNat']
      omega

theorem toLittleEndian_littleEndian (bytes : List UInt8) :
    toLittleEndian bytes.length (littleEndian bytes) = bytes := by
  induction bytes with
  | nil => rfl
  | cons b bytes ih =>
      have hb : b.toNat < 256 := b.toNat_lt
      have hq : (b.toNat + 256 * littleEndian bytes) / 256 = littleEndian bytes := by omega
      have hr : (b.toNat + 256 * littleEndian bytes).toUInt8 = b := by
        rw [← UInt8.toNat_inj, Nat.toUInt8, UInt8.toNat_ofNat']
        omega
      rw [List.length_cons, littleEndian, toLittleEndian, hq, hr, ih]

theorem littleEndian_lt (bytes : List UInt8) : littleEndian bytes < byteBound bytes.length := by
  induction bytes with
  | nil => decide
  | cons b bytes ih =>
      have hb : b.toNat < 256 := b.toNat_lt
      rw [littleEndian, List.length_cons, byteBound]
      omega

/-- The bytes of the numbers of a list. -/
def bytesOf (xs : List Single) : List UInt8 := xs.flatMap fun x => toLittleEndian 4 x.bits.toNat

theorem payload_eq (data : Array Single) : payload data = bytesOf data.toList := rfl

theorem length_bytesOf (xs : List Single) : (bytesOf xs).length = 4 * xs.length := by
  induction xs with
  | nil => rfl
  | cons x xs ih =>
      rw [bytesOf, List.flatMap_cons, List.length_append, length_toLittleEndian, ← bytesOf, ih,
        List.length_cons]
      omega

theorem length_payload (m : Matrix) : (payload m.data).length = 4 * (m.rows * m.dims) := by
  rw [payload_eq, length_bytesOf, Array.length_toList, m.size_data]

/-- Every bit pattern survives, those of NaNs included. -/
theorem singles_bytesOf (xs : List Single) : singles (bytesOf xs) = xs := by
  induction xs with
  | nil => rfl
  | cons x xs ih =>
      have hx : x.bits.toNat < byteBound 4 := x.bits.toNat_lt
      have hb := littleEndian_toLittleEndian hx
      simp only [toLittleEndian] at hb
      rw [bytesOf, List.flatMap_cons, ← bytesOf]
      simp only [toLittleEndian, List.cons_append, List.nil_append, singles]
      rw [hb, ih]
      congr 2
      exact UInt32.ofNat_toNat

theorem bytesOf_singles {n : Nat} {bytes : List UInt8} (h : bytes.length = n * 4) :
    bytesOf (singles bytes) = bytes := by
  induction n generalizing bytes with
  | zero =>
      have hb : bytes = [] := List.eq_nil_of_length_eq_zero (by omega)
      subst hb
      rfl
  | succ n ih =>
      -- the bytes are read in fours, so there are at least four of them
      match bytes, h with
      | [], h | [_], h | [_, _], h | [_, _, _], h => simp at h <;> omega
      | a :: b :: c :: d :: rest, h =>
          have hrest : rest.length = n * 4 := by simp only [List.length_cons] at h; omega
          have hlt : littleEndian [a, b, c, d] < UInt32.size := littleEndian_lt [a, b, c, d]
          have hword : (littleEndian [a, b, c, d]).toUInt32.toNat = littleEndian [a, b, c, d] := by
            rw [Nat.toUInt32, UInt32.toNat_ofNat', Nat.mod_eq_of_lt hlt]
          have hfour := toLittleEndian_littleEndian [a, b, c, d]
          rw [singles, bytesOf, List.flatMap_cons, ← bytesOf, ih hrest, hword]
          exact congrArg (· ++ rest) hfour

/-! ## Reading step by step -/

theorem take_append {count : Nat} {first : List UInt8} (h : first.length = count)
    (rest : List UInt8) : take count (first ++ rest) = .ok (first, rest) := by
  unfold take
  rw [← h, List.splitAt_eq, List.take_left, List.drop_left]
  exact if_pos rfl

theorem of_take {count : Nat} {bytes first rest : List UInt8}
    (h : take count bytes = .ok (first, rest)) : bytes = first ++ rest ∧ first.length = count := by
  unfold take at h
  rw [List.splitAt_eq] at h
  dsimp only at h
  split at h
  · injection h with h
    injection h with h1 h2
    subst h1; subst h2
    exact ⟨(List.take_append_drop count bytes).symm, by assumption⟩
  · exact absurd h (by simp)

/-- `Preamble pre n`: a file that begins with `pre` announces a header of `n` bytes right behind it. -/
inductive Preamble : List UInt8 → Nat → Prop where
  /-- Version 1 has two bytes for the length. -/
  | narrow (minor : UInt8) (len : List UInt8) : len.length = 2 →
      Preamble (magic ++ [1, minor] ++ len) (littleEndian len)
  /-- Versions 2 and 3 have four. -/
  | wide (version minor : UInt8) (len : List UInt8) : version = 2 ∨ version = 3 →
      len.length = 4 → Preamble (magic ++ [version, minor] ++ len) (littleEndian len)

theorem size_singles {rows dims : Nat} {body : List UInt8} (h : body.length = rows * dims * 4) :
    (singles body).toArray.size = rows * dims := length_singles _ h

/-- What is made of a shape and of what follows it. -/
def ofShape (rows dims : Nat) (body : List UInt8) : Except Fault Matrix :=
  if wordBound ≤ rows * dims * 4 then .error (.tooLarge rows dims)
  else if h : body.length = rows * dims * 4 then
    .ok ⟨rows, dims, (singles body).toArray, size_singles h⟩
  else .error (.wrongSize (rows * dims * 4) rows dims body.length)

/-- The shape that a file declares, and what follows its header. -/
def opened (bytes : List UInt8) : Except Fault ((Nat × Nat) × List UInt8) := do
  let (preamble, rest) ← take 8 bytes
  if preamble.take 6 != magic then throw .badMagic
  let (length, rest) ← headerLength (preamble.getD 6 0) rest
  if maxHeader < length then throw (.headerTooLarge length)
  let (text, body) ← take length rest
  let shape ← declaredShape (decodeLossy text)
  return (shape, body)

/-- **A file is read by its shape.** -/
theorem decode_eq (bytes : List UInt8) : decode bytes
    = match opened bytes with
      | .error fault => .error fault
      | .ok ((rows, dims), body) => ofShape rows dims body := by
  unfold decode opened
  -- the same checks in the same order, up to the shape
  cases take 8 bytes with
  | error fault => rfl
  | ok split =>
      obtain ⟨preamble, rest⟩ := split
      simp only [bind, Except.bind]
      by_cases hmagic : (preamble.take 6 != magic) = true
      · rw [if_pos hmagic, if_pos hmagic]
        rfl
      · rw [if_neg hmagic, if_neg hmagic]
        cases headerLength (preamble.getD 6 0) rest with
        | error fault => rfl
        | ok split =>
            obtain ⟨length, rest⟩ := split
            dsimp only
            by_cases hmax : maxHeader < length
            · rw [if_pos hmax, if_pos hmax]
              rfl
            · rw [if_neg hmax, if_neg hmax]
              cases take length rest with
              | error fault => rfl
              | ok split =>
                  obtain ⟨text, body⟩ := split
                  dsimp only
                  cases declaredShape (decodeLossy text) with
                  | error fault => rfl
                  | ok shape =>
                      obtain ⟨rows, dims⟩ := shape
                      rfl

/-- The preamble leads to the header. -/
theorem headerLength_of_preamble {pre : List UInt8} {n : Nat} (hp : Preamble pre n)
    (rest : List UInt8) : ∃ first len : List UInt8, pre = first ++ len ∧ first.length = 8 ∧
      first.take 6 = magic ∧ headerLength (first.getD 6 0) (len ++ rest) = .ok (n, rest) := by
  cases hp with
  | narrow minor len hl =>
      refine ⟨magic ++ [1, minor], len, rfl, rfl, rfl, ?_⟩
      rw [show (magic ++ [1, minor]).getD 6 0 = 1 from rfl, headerLength,
        if_pos (by decide), take_append hl]
      rfl
  | wide version minor len hv hl =>
      refine ⟨magic ++ [version, minor], len, rfl, rfl, rfl, ?_⟩
      rw [show (magic ++ [version, minor]).getD 6 0 = version from rfl, headerLength]
      rcases hv with rfl | rfl
      · rw [if_neg (by decide), if_pos (by decide), take_append hl]
        rfl
      · rw [if_neg (by decide), if_pos (by decide), take_append hl]
        rfl

theorem preamble_of_headerLength {first rest after : List UInt8} {n : Nat}
    (h8 : first.length = 8) (hm : first.take 6 = magic)
    (h : headerLength (first.getD 6 0) rest = .ok (n, after)) :
    ∃ len, rest = len ++ after ∧ Preamble (first ++ len) n := by
  -- eight bytes that begin with the magic have two more
  obtain ⟨version, minor, hf⟩ : ∃ version minor, first = magic ++ [version, minor] := by
    have hd : (first.drop 6).length = 2 := by rw [List.length_drop, h8]
    match hab : first.drop 6, hd with
    | [a, b], _ => exact ⟨a, b, by rw [← List.take_append_drop 6 first, hm, hab]⟩
  subst hf
  rw [show (magic ++ [version, minor]).getD 6 0 = version from rfl, headerLength] at h
  split at h
  · rename_i hv
    cases ht : take 2 rest with
    | error e => rw [ht] at h; exact absurd h (by simp [bind, Except.bind])
    | ok split =>
        rw [ht] at h
        injection h with h
        injection h with hn ha
        obtain ⟨hr, hl⟩ := of_take ht
        refine ⟨split.1, by rw [← ha]; exact hr, ?_⟩
        rw [← hn, eq_of_beq hv]
        exact .narrow minor split.1 hl
  · split at h
    · rename_i hv
      cases ht : take 4 rest with
      | error e => rw [ht] at h; exact absurd h (by simp [bind, Except.bind])
      | ok split =>
          rw [ht] at h
          injection h with h
          injection h with hn ha
          obtain ⟨hr, hl⟩ := of_take ht
          refine ⟨split.1, by rw [← ha]; exact hr, ?_⟩
          rw [← hn]
          rw [Bool.or_eq_true, beq_iff_eq, beq_iff_eq] at hv
          exact .wide version minor split.1 hv hl
    · exact absurd h (by simp [throw, throwThe, MonadExceptOf.throw])

/-- **The shape of a file that has a preamble** is the one that its header declares. -/
theorem opened_append {pre text : List UInt8} (hp : Preamble pre text.length)
    (hmax : text.length ≤ maxHeader) (body : List UInt8) :
    opened (pre ++ (text ++ body)) = (declaredShape (decodeLossy text)).map (·, body) := by
  obtain ⟨first, len, hpre, h8, hm, hh⟩ := headerLength_of_preamble hp (text ++ body)
  subst hpre
  unfold opened
  rw [List.append_assoc, take_append h8]
  simp only [bind, Except.bind]
  rw [if_neg (by rw [hm]; decide), hh]
  dsimp only
  rw [if_neg (Nat.not_lt.mpr hmax), take_append rfl]
  dsimp only
  cases declaredShape (decodeLossy text) with
  | error fault => rfl
  | ok shape => rfl

/-- **Every file with a shape has a preamble** and a header that declares the shape. -/
theorem of_opened {bytes body : List UInt8} {shape : Nat × Nat}
    (h : opened bytes = .ok (shape, body)) :
    ∃ pre text, bytes = pre ++ (text ++ body) ∧ Preamble pre text.length ∧
      text.length ≤ maxHeader ∧ declaredShape (decodeLossy text) = .ok shape := by
  unfold opened at h
  simp only [bind, Except.bind] at h
  cases ht : take 8 bytes with
  | error e => rw [ht] at h; cases h
  | ok split =>
      obtain ⟨first, rest⟩ := split
      obtain ⟨hb, h8⟩ := of_take ht
      rw [ht] at h
      dsimp only at h
      split at h
      · cases h
      · rename_i hm
        have hm : first.take 6 = magic := by simpa using hm
        cases hl : headerLength (first.getD 6 0) rest with
        | error e => rw [hl] at h; cases h
        | ok split =>
            obtain ⟨n, after⟩ := split
            obtain ⟨len, hr, hp⟩ := preamble_of_headerLength h8 hm hl
            rw [hl] at h
            dsimp only at h
            split at h
            · cases h
            · rename_i hmax
              cases hn : take n after with
              | error e => rw [hn] at h; cases h
              | ok split =>
                  obtain ⟨text, found⟩ := split
                  obtain ⟨ha, htext⟩ := of_take hn
                  rw [hn] at h
                  dsimp only at h
                  cases hs : declaredShape (decodeLossy text) with
                  | error e => rw [hs] at h; cases h
                  | ok declared =>
                      rw [hs] at h
                      cases h
                      subst htext
                      refine ⟨first ++ len, text, ?_, hp, Nat.le_of_not_lt hmax, hs⟩
                      rw [hb, hr, ha, List.append_assoc]

/-- What has been checked of a shape and of the numbers behind it when there is a matrix. -/
theorem of_ofShape {rows dims : Nat} {body : List UInt8} {m : Matrix}
    (h : ofShape rows dims body = .ok m) :
    m.rows = rows ∧ m.dims = dims ∧ m.rows * m.dims * 4 < wordBound ∧
      body.length = m.rows * m.dims * 4 ∧ m.data = (singles body).toArray := by
  unfold ofShape at h
  split at h
  · cases h
  · rename_i hbound
    split at h
    · rename_i hlen
      cases h
      exact ⟨rfl, rfl, Nat.lt_of_not_le hbound, hlen, rfl⟩
    · cases h

theorem ofShape_of_fits {body : List UInt8} {m : Matrix} (hb : m.rows * m.dims * 4 < wordBound)
    (hl : body.length = m.rows * m.dims * 4) (hd : m.data = (singles body).toArray) :
    ofShape m.rows m.dims body = .ok m := by
  unfold ofShape
  rw [if_neg (Nat.not_le.mpr hb), dif_pos hl]
  cases m
  dsimp only at hd
  subst hd
  rfl

/-- **Reading a file that declares the shape of the matrix** and holds its numbers. -/
theorem decode_of_declared {pre text body : List UInt8} {m : Matrix}
    (hp : Preamble pre text.length) (hmax : text.length ≤ maxHeader)
    (hs : declaredShape (decodeLossy text) = .ok (m.rows, m.dims))
    (hb : m.rows * m.dims * 4 < wordBound) (hl : body.length = m.rows * m.dims * 4)
    (hd : m.data = (singles body).toArray) : decode (pre ++ (text ++ body)) = .ok m := by
  rw [decode_eq, opened_append hp hmax, hs]
  exact ofShape_of_fits hb hl hd

/-- **What a file has that is read as a matrix:** a preamble, a header with the shape, and the numbers. -/
theorem of_decode {bytes : List UInt8} {m : Matrix} (h : decode bytes = .ok m) :
    ∃ pre text body, bytes = pre ++ (text ++ body) ∧ Preamble pre text.length ∧
      declaredShape (decodeLossy text) = .ok (m.rows, m.dims) ∧
      m.rows * m.dims * 4 < wordBound ∧ body.length = m.rows * m.dims * 4 ∧
      m.data = (singles body).toArray := by
  rw [decode_eq] at h
  cases ho : opened bytes with
  | error fault => rw [ho] at h; cases h
  | ok found =>
      obtain ⟨⟨rows, dims⟩, body⟩ := found
      rw [ho] at h
      obtain ⟨rfl, rfl, hbound, hlen, hdata⟩ := of_ofShape h
      obtain ⟨pre, text, hb, hp, _, hs⟩ := of_opened ho
      exact ⟨pre, text, body, hb, hp, hs, hbound, hlen, hdata⟩

/-- What a header says when the reader takes a shape from it. -/
theorem of_declaredShape {text : List Char} {rows dims : Nat}
    (h : declaredShape text = .ok (rows, dims)) :
    ∃ rowDigits dimDigits, shape? text = some (rowDigits, dimDigits) ∧
      natural? wordBound rowDigits = some rows ∧
      (dimDigits = [] ∧ rows = 0 ∧ dims = 0 ∨ natural? wordBound dimDigits = some dims) := by
  unfold declaredShape at h
  generalize includes "'<f4'".toList text = singles at h
  generalize includes "'fortran_order': True".toList text = columns at h
  cases singles with
  | false => cases h
  | true =>
      cases columns with
      | true => cases h
      | false =>
          rw [if_neg (by decide), if_neg (by decide)] at h
          cases hs : shape? text with
          | none => rw [hs] at h; cases h
          | some found =>
              obtain ⟨rowDigits, dimDigits⟩ := found
              rw [hs] at h
              dsimp only at h
              refine ⟨rowDigits, dimDigits, rfl, ?_⟩
              cases hr : natural? wordBound rowDigits with
              | none => rw [hr] at h; cases h
              | some r =>
                  rw [hr] at h
                  dsimp only at h
                  split at h
                  · -- a shape of one number
                    rename_i hempty
                    split at h
                    · rename_i hzero
                      cases h
                      exact ⟨rfl, Or.inl ⟨List.isEmpty_iff.mp hempty, hzero, rfl⟩⟩
                    · cases h
                  · cases hd : natural? wordBound dimDigits with
                    | none => rw [hd] at h; cases h
                    | some d =>
                        rw [hd] at h
                        cases h
                        exact ⟨rfl, Or.inr rfl⟩

/-- A declared shape consists of machine words. -/
theorem declaredShape_lt {text : List Char} {rows dims : Nat}
    (h : declaredShape text = .ok (rows, dims)) : rows < wordBound ∧ dims < wordBound := by
  obtain ⟨rowDigits, dimDigits, _, hr, hd⟩ := of_declaredShape h
  refine ⟨lt_of_natural? hr, ?_⟩
  rcases hd with ⟨_, _, hz⟩ | hd
  · rw [hz]; decide
  · exact lt_of_natural? hd

end Npy

/-- The shape of the matrix and the size of its payload are machine words, as in any memory. -/
structure Matrix.Addressable (m : Matrix) : Prop where
  rows : m.rows < Text.wordBound
  dims : m.dims < Text.wordBound
  bytes : m.rows * m.dims * 4 < Text.wordBound

namespace Npy

open Text

/-! ## The round trip -/

/-- Where the numbers of a file start, by its version and its length field. -/
def payloadStart (bytes : List UInt8) : Nat :=
  if bytes.getD 6 0 = 1 then 10 + littleEndian ((bytes.drop 8).take 2)
  else 12 + littleEndian ((bytes.drop 8).take 4)

/-- The preamble that is written. -/
def writtenPreamble (m : Matrix) : List UInt8 :=
  magic ++ [1, 0] ++ toLittleEndian 2 (header m.rows m.dims).length

/-- The header that is written, as bytes. -/
def writtenHeader (m : Matrix) : List UInt8 := (header m.rows m.dims).map (·.toNat.toUInt8)

/-- The file that is written. -/
def written (m : Matrix) : List UInt8 := writtenPreamble m ++ (writtenHeader m ++ payload m.data)

/-- **No header is too long to be written.** -/
theorem encode_eq {m : Matrix} (h : m.Addressable) : encode m = .ok (written m) := by
  unfold encode
  dsimp only
  rw [if_neg (Nat.not_le.mpr (length_header_lt h.rows h.dims)), written, writtenPreamble,
    writtenHeader]
  simp only [List.append_assoc]

theorem preamble_written {m : Matrix} (h : m.Addressable) :
    Preamble (writtenPreamble m) (writtenHeader m).length := by
  have hlt := length_header_lt h.rows h.dims
  have hp := Preamble.narrow 0 (toLittleEndian 2 (header m.rows m.dims).length)
    (length_toLittleEndian 2 _)
  rw [littleEndian_toLittleEndian hlt] at hp
  rwa [writtenHeader, List.length_map]

/-- **What is written is read back.** -/
theorem decode_written {m : Matrix} (h : m.Addressable) : decode (written m) = .ok m := by
  have hmax : (writtenHeader m).length ≤ maxHeader := by
    have hlt := length_header_lt h.rows h.dims
    rw [writtenHeader, List.length_map]
    exact Nat.le_of_lt hlt
  rw [written]
  refine decode_of_declared (preamble_written h) hmax ?_ h.bytes ?_ ?_
  · rw [writtenHeader, decodeLossy_ascii (header_ascii m.rows m.dims)]
    exact declaredShape_header h.rows h.dims
  · rw [length_payload]; omega
  · rw [payload_eq, singles_bytesOf]

/-- What is read is addressable. -/
theorem addressable_of_decode {bytes : List UInt8} {m : Matrix} (h : decode bytes = .ok m) :
    m.Addressable := by
  obtain ⟨_, _, _, _, _, hs, hb, _, _⟩ := of_decode h
  obtain ⟨hr, hd⟩ := declaredShape_lt hs
  exact ⟨hr, hd, hb⟩

/-- The numbers start right behind the header that the preamble announces. -/
theorem payloadStart_append {pre text : List UInt8} {n : Nat} (hp : Preamble pre n)
    (ht : text.length = n) (body : List UInt8) :
    payloadStart (pre ++ (text ++ body)) = (pre ++ text).length := by
  rw [List.length_append, ht]
  cases hp with
  | narrow minor len hl =>
      have hlen : ((magic ++ [1, minor] ++ len ++ (text ++ body)).drop 8).take 2 = len := by
        rw [List.append_assoc]
        exact List.take_left' hl
      have hversion : (magic ++ [1, minor] ++ len ++ (text ++ body)).getD 6 0 = 1 := rfl
      rw [payloadStart, if_pos hversion, hlen, List.length_append, hl]
      rfl
  | wide version minor len hv hl =>
      have hversion : (magic ++ [version, minor] ++ len ++ (text ++ body)).getD 6 0 = version := rfl
      have hlen : ((magic ++ [version, minor] ++ len ++ (text ++ body)).drop 8).take 4 = len := by
        rw [List.append_assoc]
        exact List.take_left' hl
      have hne : version ≠ 1 := by rcases hv with rfl | rfl <;> decide
      rw [payloadStart, hversion, if_neg hne, hlen, List.length_append, hl]
      rfl

/--
**The codec is a round trip in both directions.** Every addressable matrix is written, with its numbers
at a multiple of 64 behind a line feed, and read back bit for bit. Every file that is read ends in exactly
the numbers that would be written for it, right behind the header it declares, and what would be
written is read as the same matrix.
-/
theorem npy_round_trip :
    (∀ m : Matrix, m.Addressable → ∃ front, encode m = .ok (front ++ payload m.data) ∧
      64 ∣ front.length ∧ front.getLast? = some 0x0A ∧
      decode (front ++ payload m.data) = .ok m) ∧
    (∀ (bytes : List UInt8) (m : Matrix), decode bytes = .ok m →
      (payload m.data).length = 4 * (m.rows * m.dims) ∧
      (∃ front, bytes = front ++ payload m.data ∧ front.length = payloadStart bytes) ∧
      ∃ written, encode m = .ok written ∧ decode written = .ok m) := by
  constructor
  -- from a matrix to its file
  · intro m h
    refine ⟨writtenPreamble m ++ writtenHeader m, ?_, ?_, ?_, ?_⟩
    · rw [encode_eq h, written, List.append_assoc]
    · rw [Nat.dvd_iff_mod_eq_zero, List.length_append, writtenPreamble, List.length_append,
        length_toLittleEndian, writtenHeader, List.length_map]
      exact header_aligned m.rows m.dims
    · rw [List.getLast?_append, writtenHeader, List.getLast?_map, getLast?_header]
      rfl
    · rw [List.append_assoc]
      exact decode_written h
  -- from a file to its matrix
  · intro bytes m h
    obtain ⟨pre, text, body, hb, hp, _, _, hl, hd⟩ := of_decode h
    have haddr := addressable_of_decode h
    refine ⟨length_payload m, ⟨pre ++ text, ?_, ?_⟩, _, encode_eq haddr, decode_written haddr⟩
    · rw [payload_eq, hd, bytesOf_singles hl, List.append_assoc]
      exact hb
    · rw [hb, payloadStart_append hp rfl]

/-- A matrix whose one number is a NaN with a payload. -/
def nanCell : Matrix := ⟨1, 1, #[⟨0x7FC00001⟩], rfl⟩

/-- The header of an empty matrix with one dimension. -/
def flatHeader : List Char :=
  "\x7b'descr': '<f4', 'fortran_order': False, 'shape': (0,), \x7d\n".toList

/-- A file of the third version with that header. -/
def flatFile : List UInt8 :=
  magic ++ [3, 0] ++ [58, 0, 0, 0] ++ (flatHeader.map (·.toNat.toUInt8) ++ [])

theorem npy_round_trip_cells :
    (∃ front, encode nanCell = .ok (front ++ payload nanCell.data) ∧ 64 ∣ front.length ∧
      front.getLast? = some 0x0A ∧ decode (front ++ payload nanCell.data) = .ok nanCell) ∧
    decode flatFile = .ok .empty ∧
    ∃ front, flatFile = front ++ payload Matrix.empty.data ∧
      front.length = payloadStart flatFile := by
  have hcell : nanCell.Addressable := ⟨by decide, by decide, by decide⟩
  have hread : decode flatFile = .ok .empty := by
    have hp : Preamble (magic ++ [3, 0] ++ [58, 0, 0, 0])
        (flatHeader.map (·.toNat.toUInt8)).length := .wide 3 0 [58, 0, 0, 0] (Or.inr rfl) rfl
    rw [flatFile]
    refine decode_of_declared hp (by decide) ?_ (by decide) rfl rfl
    rw [decodeLossy_ascii (ascii_of_all (by decide))]
    rfl
  exact ⟨npy_round_trip.1 nanCell hcell, hread, (npy_round_trip.2 flatFile .empty hread).2.1⟩

end Npy

end Grounded
