/-!
# Lossy decoding

Bytes that are meant to be UTF-8 but need not be are read with a replacement character for every
maximal stretch that begins a character without finishing it, and for every byte that begins none.
-/

namespace Grounded.Text

/-- The bounds of the second byte of a character, and how many bytes follow the first. -/
def sequence? (first : UInt8) : Option (UInt8 × UInt8 × Nat) :=
  if 0xC2 ≤ first && first ≤ 0xDF then some (0x80, 0xBF, 1)
  else if first == 0xE0 then some (0xA0, 0xBF, 2)
  else if first == 0xED then some (0x80, 0x9F, 2)
  else if 0xE1 ≤ first && first ≤ 0xEF then some (0x80, 0xBF, 2)
  else if first == 0xF0 then some (0x90, 0xBF, 3)
  else if 0xF1 ≤ first && first ≤ 0xF3 then some (0x80, 0xBF, 3)
  else if first == 0xF4 then some (0x80, 0x8F, 3)
  else none

/--
Reads the bytes that complete a character: `value` is what the bytes so far spell, and the next byte has
to be within the bounds. Gives the character, or the replacement if they stop early, with the rest.
-/
def complete (value : Nat) (low high : UInt8) : Nat → List UInt8 → Char × List UInt8
  | 0, rest => (Char.ofNat value, rest)
  | _ + 1, [] => ('\ufffd', [])
  | more + 1, b :: rest =>
    if low ≤ b && b ≤ high then complete (value * 64 + b.toNat % 64) 0x80 0xBF more rest
    else ('\ufffd', b :: rest)

theorem length_complete_le (value : Nat) (low high : UInt8) (more : Nat) (bytes : List UInt8) :
    (complete value low high more bytes).2.length ≤ bytes.length := by
  induction bytes generalizing value low high more with
  | nil => cases more <;> simp [complete]
  | cons b rest ih =>
    cases more with
    | zero => simp [complete]
    | succ more =>
      simp only [complete]
      split
      · exact Nat.le_succ_of_le (ih ..)
      · simp

/-- The text that the bytes spell, with replacements. -/
def decodeLossy (bytes : List UInt8) : List Char :=
  match bytes with
  | [] => []
  | b :: rest =>
    if b < 0x80 then Char.ofNat b.toNat :: decodeLossy rest
    else
      match sequence? b with
      | none => '\ufffd' :: decodeLossy rest
      | some (low, high, more) =>
        let value := if more = 1 then b.toNat % 32 else if more = 2 then b.toNat % 16 else b.toNat % 8
        let done := complete value low high more rest
        done.1 :: decodeLossy done.2
termination_by bytes.length
decreasing_by
  · simp
  · simp
  · exact Nat.lt_succ_of_le (length_complete_le ..)

end Grounded.Text
