import Grounded.Index.Matrix
import Grounded.Text.Blank
import Grounded.Text.Digit
import Grounded.Text.Digits
import Grounded.Text.Find
import Grounded.Text.Utf8

/-!
# Matrix files

A matrix is stored in the `.npy` format: a preamble with the length of a header, the header, which is
a dictionary that names type, order and shape, and the numbers, four bytes each, low byte first. The
header is padded so that the numbers start at a multiple of 64.
-/

namespace Grounded.Npy

open Text

/-- The bytes that such a file begins with. -/
def magic : List UInt8 := [0x93, 0x4E, 0x55, 0x4D, 0x50, 0x59]

/-- The numbers start at a multiple of this. -/
def alignment : Nat := 64

/-- The longest header that is read. -/
def maxHeader : Nat := 64 * 1024

/-- Why a file holds no matrix. -/
inductive Fault where
  /-- The file ends within the preamble or the header. -/
  | unexpectedEnd
  | badMagic
  | unsupportedVersion (version : Nat)
  | headerTooLarge (length : Nat)
  | headerTooLong
  | notSingles
  | columnMajor
  | noShape (header : List Char)
  | badRows
  | badDims
  | notTwoDimensional
  | tooLarge (rows dims : Nat)
  | wrongSize (expected rows dims found : Nat)
deriving DecidableEq, Repr

/-- The error that a fault is shown as. -/
def Fault.toError : Fault → Error
  | unexpectedEnd => .file .unexpectedEof
  | badMagic => .indexCorrupt "not an npy file"
  | unsupportedVersion v => .indexCorrupt s!"unsupported npy version {v}"
  | headerTooLarge n => .indexCorrupt s!"npy header of {n} bytes is too large"
  | headerTooLong => .indexCorrupt "npy header too long"
  | notSingles => .indexCorrupt "embedding matrix must be little-endian float32"
  | columnMajor => .indexCorrupt "embedding matrix must be C-ordered"
  | noShape header => .indexCorrupt ("unreadable npy shape: " ++ String.ofList (trim header))
  | badRows => .indexCorrupt "bad row count"
  | badDims => .indexCorrupt "bad dimension count"
  | notTwoDimensional => .indexCorrupt "embedding matrix must be two-dimensional"
  | tooLarge r d => .indexCorrupt s!"npy shape ({r}, {d}) is too large"
  | wrongSize n r d found =>
    .indexCorrupt s!"expected {n} bytes of data for shape ({r}, {d}), found {found}"

/-- The number that bytes spell, low byte first. -/
def littleEndian : List UInt8 → Nat
  | [] => 0
  | b :: rest => b.toNat + 256 * littleEndian rest

/-- The bytes of a number, low byte first, as many as asked for. -/
def toLittleEndian : Nat → Nat → List UInt8
  | 0, _ => []
  | count + 1, n => n.toUInt8 :: toLittleEndian count (n / 256)

/-! ## Writing -/

/-- The dictionary of the header. -/
def dictionary (rows dims : Nat) : List Char :=
  ("\x7b'descr': '<f4', 'fortran_order': False, 'shape': (" ++ toString rows ++ ", " ++
    toString dims ++ "), \x7d").toList

/-- The header, padded for a preamble of ten bytes. -/
def header (rows dims : Nat) : List Char :=
  let dict := dictionary rows dims
  let unpadded := magic.length + 4 + dict.length + 1
  dict ++ List.replicate ((alignment - unpadded % alignment) % alignment) ' ' ++ ['\n']

/-- The bytes of the numbers. -/
def payload (data : Array Single) : List UInt8 :=
  data.toList.flatMap fun x => toLittleEndian 4 x.bits.toNat

/-- The file of a matrix. -/
def encode (m : Matrix) : Except Fault (List UInt8) :=
  let text := header m.rows m.dims
  if 0x10000 ≤ text.length then .error .headerTooLong
  else
    .ok (magic ++ [1, 0] ++ toLittleEndian 2 text.length ++ text.map (·.toNat.toUInt8) ++
      payload m.data)

/-! ## Reading -/

/-- The first bytes, as many as asked for, and the rest. -/
def take (count : Nat) (bytes : List UInt8) : Except Fault (List UInt8 × List UInt8) :=
  let (first, rest) := bytes.splitAt count
  if first.length = count then .ok (first, rest) else .error .unexpectedEnd

/-- The digits of rows and columns in a shape that stands right here. -/
def shapeHere? (s : List Char) : Option (List Char × List Char) := do
  let rest ← afterStart? "'shape'".toList s
  let rest ← afterStart? [':'] (trimStart rest)
  let rest ← afterStart? ['('] (trimStart rest)
  let rest := trimStart rest
  let rows := rest.takeWhile isDecimalDigit
  if rows.isEmpty then none
  let rest ← afterStart? [','] (trimStart (rest.dropWhile isDecimalDigit))
  let rest := trimStart rest
  let _ ← afterStart? [')'] (trimStart (rest.dropWhile isDecimalDigit))
  some (rows, rest.takeWhile isDecimalDigit)

/-- The digits of rows and columns in the first shape of a header. -/
def shape? : List Char → Option (List Char × List Char)
  | [] => none
  | c :: rest =>
    match shapeHere? (c :: rest) with
    | some found => some found
    | none => shape? rest

/-- The numbers of four bytes each. -/
def singles : List UInt8 → List Single
  | a :: b :: c :: d :: rest => ⟨(littleEndian [a, b, c, d]).toUInt32⟩ :: singles rest
  | _ => []

theorem length_singles : ∀ (n : Nat) {bytes : List UInt8}, bytes.length = n * 4 →
    (singles bytes).length = n
  | 0, bytes, h => by
    have : bytes = [] := List.eq_nil_of_length_eq_zero (by omega)
    simp [this, singles]
  | n + 1, bytes, h => by
    match bytes with
    | [] | [_] | [_, _] | [_, _, _] => simp at h <;> omega
    | a :: b :: c :: d :: rest =>
      have h' : rest.length = n * 4 := by simp only [List.length_cons] at h; omega
      simp [singles, length_singles n h']

/-- The length of the header, by the version of the format, and what follows. -/
def headerLength (version : UInt8) (bytes : List UInt8) : Except Fault (Nat × List UInt8) := do
  if version == 1 then
    let (length, rest) ← take 2 bytes
    return (littleEndian length, rest)
  else if version == 2 || version == 3 then
    let (length, rest) ← take 4 bytes
    return (littleEndian length, rest)
  else throw (.unsupportedVersion version.toNat)

/-- The shape that a header declares. -/
def declaredShape (text : List Char) : Except Fault (Nat × Nat) := do
  if !includes "'<f4'".toList text then throw .notSingles
  if includes "'fortran_order': True".toList text then throw .columnMajor
  match shape? text with
  | none => throw (.noShape text)
  | some (rowDigits, dimDigits) =>
    match natural? wordBound rowDigits with
    | none => throw .badRows
    | some rows =>
      if dimDigits.isEmpty then
        if rows = 0 then return (rows, 0) else throw .notTwoDimensional
      else
        match natural? wordBound dimDigits with
        | none => throw .badDims
        | some dims => return (rows, dims)

/-- The matrix of a file. -/
def decode (bytes : List UInt8) : Except Fault Matrix := do
  let (preamble, rest) ← take 8 bytes
  if preamble.take 6 != magic then throw .badMagic
  let (length, rest) ← headerLength (preamble.getD 6 0) rest
  if maxHeader < length then throw (.headerTooLarge length)
  let (text, body) ← take length rest
  let (rows, dims) ← declaredShape (decodeLossy text)
  if wordBound ≤ rows * dims * 4 then throw (.tooLarge rows dims)
  if h : body.length = rows * dims * 4 then
    return ⟨rows, dims, (singles body).toArray, by simp [length_singles _ h]⟩
  else throw (.wrongSize (rows * dims * 4) rows dims body.length)

end Grounded.Npy
