import Grounded.Proofs.NpyRoundTrip

/-!
# Damaged matrix files

A write that stops early leaves the first part of a file, and a second write behind a first one leaves a file
with something after it. A reader can tell both from the length: the preamble says how long the header is, the
header says how many numbers there are, and each of the two must be there exactly. A cut within the preamble
or the header ends the file too early (`opened_of_cut`); any other damage leaves the shape as it was and a
wrong number of bytes behind it (`decode_of_wrong_size`).
-/

namespace Grounded.Npy

open Text

/-! ## Cuts within the preamble and the header -/

theorem take_of_short {count : Nat} {bytes : List UInt8} (h : bytes.length < count) :
    take count bytes = .error .unexpectedEnd := by
  have hshort : (bytes.take count).length ≠ count := by
    rw [List.length_take]
    omega
  rw [take, List.splitAt_eq]
  exact if_neg hshort

/-- The length of the header is read as a whole or not at all. -/
theorem headerLength_of_short {first len more : List UInt8} {n : Nat} (hp : Preamble (first ++ len) n)
    (h8 : first.length = 8) (hshort : more.length < len.length) :
    headerLength (first.getD 6 0) more = .error .unexpectedEnd := by
  generalize hpre : first ++ len = pre at hp
  cases hp with
  | narrow minor found hl =>
      obtain ⟨rfl, rfl⟩ := List.append_inj hpre h8
      rw [show (magic ++ [1, minor]).getD 6 0 = 1 from rfl, headerLength, if_pos (by decide),
        take_of_short (hl ▸ hshort)]
      rfl
  | wide version minor found hv hl =>
      obtain ⟨rfl, rfl⟩ := List.append_inj hpre h8
      have hwide : (version == 1) = false ∧ (version == 2 || version == 3) = true := by
        rcases hv with rfl | rfl <;> decide
      rw [show (magic ++ [version, minor]).getD 6 0 = version from rfl, headerLength, hwide.1,
        hwide.2, if_neg (by decide), if_pos rfl, take_of_short (hl ▸ hshort)]
      rfl

/-- **A file that is cut within its preamble or its header ends too early,** whatever the header says. -/
theorem opened_of_cut {pre text kept : List UInt8} (hp : Preamble pre text.length)
    (hmax : text.length ≤ maxHeader) (hkept : kept <+: pre ++ text)
    (hshort : kept.length < (pre ++ text).length) : opened kept = .error .unexpectedEnd := by
  obtain ⟨first, len, rfl, h8, hm, -⟩ := headerLength_of_preamble hp []
  unfold opened
  by_cases hfirst : kept.length < 8
  · rw [take_of_short hfirst]
    rfl
  · -- the first eight bytes are there, and behind them a part of what follows
    rw [List.append_assoc] at hkept hshort
    have hopen : first <+: kept :=
      List.prefix_of_prefix_length_le (List.prefix_append first _) hkept (by omega)
    obtain ⟨more, rfl⟩ := hopen
    rw [List.prefix_append_right_inj] at hkept
    simp only [List.length_append] at hshort
    rw [take_append h8]
    simp only [bind, Except.bind]
    rw [if_neg (by rw [hm]; decide)]
    by_cases hlen : more.length < len.length
    · rw [headerLength_of_short hp h8 hlen]
    · have hmore : len <+: more :=
        List.prefix_of_prefix_length_le (List.prefix_append len _) hkept (by omega)
      obtain ⟨part, rfl⟩ := hmore
      obtain ⟨first', len', hpre, h8', -, hh⟩ := headerLength_of_preamble hp part
      obtain ⟨rfl, rfl⟩ := List.append_inj hpre (by rw [h8, h8'])
      rw [hh]
      dsimp only
      rw [if_neg (Nat.not_lt.mpr hmax),
        take_of_short (by simp only [List.length_append] at hshort; omega)]

/-! ## Too few numbers and too many -/

/-- **A file with another number of bytes behind its header than the shape needs** is corrupt. -/
theorem decode_of_wrong_size {pre text body : List UInt8} {rows dims : Nat}
    (hp : Preamble pre text.length) (hmax : text.length ≤ maxHeader)
    (hs : declaredShape (decodeLossy text) = .ok (rows, dims)) (hb : rows * dims * 4 < wordBound)
    (hl : body.length ≠ rows * dims * 4) : decode (pre ++ (text ++ body))
      = .error (.wrongSize (rows * dims * 4) rows dims body.length) := by
  rw [decode_eq, opened_append hp hmax, hs]
  show ofShape rows dims body = _
  rw [ofShape, if_neg (Nat.not_le.mpr hb), dif_neg hl]

variable {m : Matrix}

theorem length_writtenHeader_le (h : m.Addressable) : (writtenHeader m).length ≤ maxHeader := by
  have hlt := length_header_lt h.rows h.dims
  rw [writtenHeader, List.length_map]
  exact Nat.le_of_lt hlt

/-- With the header of a matrix, only the numbers of the matrix are right. -/
theorem decode_of_written_header (h : m.Addressable) {body : List UInt8}
    (hl : body.length ≠ (payload m.data).length) :
    decode (writtenPreamble m ++ (writtenHeader m ++ body))
      = .error (.wrongSize (m.rows * m.dims * 4) m.rows m.dims body.length) := by
  have hshape : declaredShape (decodeLossy (writtenHeader m)) = .ok (m.rows, m.dims) := by
    rw [writtenHeader, decodeLossy_ascii (header_ascii m.rows m.dims)]
    exact declaredShape_header h.rows h.dims
  refine decode_of_wrong_size (preamble_written h) (length_writtenHeader_le h) hshape h.bytes ?_
  rwa [length_payload, Nat.mul_comm] at hl

/--
**A damaged matrix file is never loaded.** Every addressable matrix has a file, and a part of that file which
leaves anything out at its end is refused: the file ends too early if the cut is before the numbers, and it is
corrupt if the cut is within them. With anything more behind it, the file is corrupt too.
-/
theorem decode_of_damaged (h : m.Addressable) :
    ∃ bytes, encode m = .ok bytes ∧
      (∀ kept lost, kept ++ lost = bytes → lost ≠ [] → kept.length < payloadStart bytes →
        (decode kept).mapError Fault.toError = .error (.file .unexpectedEof)) ∧
      (∀ kept lost, kept ++ lost = bytes → lost ≠ [] → payloadStart bytes ≤ kept.length →
        ∃ message, (decode kept).mapError Fault.toError = .error (.indexCorrupt message)) ∧
      ∀ extra, extra ≠ [] →
        ∃ message, (decode (bytes ++ extra)).mapError Fault.toError = .error (.indexCorrupt message) := by
  have hstart : payloadStart (written m) = (writtenPreamble m ++ writtenHeader m).length :=
    payloadStart_append (preamble_written h) rfl _
  refine ⟨written m, encode_eq h, ?_, ?_, ?_⟩
  -- cut before the numbers
  · intro kept lost heq _ hcut
    rw [hstart] at hcut
    rw [written, ← List.append_assoc] at heq
    have hkept : kept <+: writtenPreamble m ++ writtenHeader m :=
      List.prefix_of_prefix_length_le ⟨lost, heq⟩ (List.prefix_append _ _) (Nat.le_of_lt hcut)
    rw [decode_eq, opened_of_cut (preamble_written h) (length_writtenHeader_le h) hkept hcut]
    rfl
  -- cut within the numbers
  · intro kept lost heq hlost hcut
    rw [hstart] at hcut
    rw [written, ← List.append_assoc] at heq
    have hopen : writtenPreamble m ++ writtenHeader m <+: kept :=
      List.prefix_of_prefix_length_le (List.prefix_append _ _) ⟨lost, heq⟩ hcut
    obtain ⟨body, rfl⟩ := hopen
    rw [List.append_assoc, List.append_cancel_left_eq] at heq
    have hbody : body.length ≠ (payload m.data).length := by
      have hpos := List.length_pos_iff.mpr hlost
      rw [← heq, List.length_append]
      omega
    rw [List.append_assoc, decode_of_written_header h hbody]
    exact ⟨_, rfl⟩
  -- something behind the numbers
  · intro extra hextra
    have hbody : (payload m.data ++ extra).length ≠ (payload m.data).length := by
      have hpos := List.length_pos_iff.mpr hextra
      rw [List.length_append]
      omega
    rw [written, List.append_assoc, List.append_assoc, decode_of_written_header h hbody]
    exact ⟨_, rfl⟩

/-- The cuts of a file with one number: within the length of the header, before the number and within it. -/
theorem decode_of_damaged_nanCell : nanCell.Addressable ∧ ∃ bytes, encode nanCell = .ok bytes ∧
    (decode (bytes.take 9)).mapError Fault.toError = .error (.file .unexpectedEof) ∧
    (∃ message, (decode (bytes.take 128)).mapError Fault.toError = .error (.indexCorrupt message)) ∧
    ∃ message, (decode (bytes ++ [0])).mapError Fault.toError = .error (.indexCorrupt message) := by
  have hcell : nanCell.Addressable := ⟨by decide, by decide, by decide⟩
  obtain ⟨bytes, hbytes, hbefore, hwithin, hbehind⟩ := decode_of_damaged hcell
  have hfile : bytes = written nanCell := Except.ok.inj (hbytes.symm.trans (encode_eq hcell))
  have hstart : payloadStart bytes = 128 := by rw [hfile]; decide +kernel
  have hlength : bytes.length = 132 := by rw [hfile]; decide +kernel
  have hlost : ∀ n, n < 132 → bytes.drop n ≠ [] := by
    intro n hn hnil
    have hdrop := congrArg List.length hnil
    rw [List.length_drop, hlength, List.length_nil] at hdrop
    omega
  refine ⟨hcell, bytes, hbytes, ?_, ?_, hbehind [0] (List.cons_ne_nil _ _)⟩
  · refine hbefore _ _ (List.take_append_drop 9 bytes) (hlost 9 (by decide)) ?_
    rw [List.length_take, hstart, hlength]
    decide
  · refine hwithin _ _ (List.take_append_drop 128 bytes) (hlost 128 (by decide)) ?_
    rw [List.length_take, hstart, hlength]
    decide

end Grounded.Npy
