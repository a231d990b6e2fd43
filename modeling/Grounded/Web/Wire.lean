import Grounded.Json.Write
import Grounded.Web.Exchange
import Grounded.Web.Url

/-!
# Messages on a connection

A request is written as a line, the fields of its header, an empty line and its body. The connection is
for one exchange, so that the answer is all that arrives before it is closed. The body of the answer is
what its header says: the last of the chunks that it is cut into ends it, or a number of bytes, or the end
of the connection. An answer that breaks off before is none.
-/

namespace Grounded

open Text

namespace HttpRequest

/-- A field of a header. -/
def field (name value : String) : String := name ++ ": " ++ value ++ "\r\n"

/-- The request as it is sent to the server of an address. -/
def toWire (r : HttpRequest) (u : Url) : String :=
  let body := (r.body.map fun j => String.ofList j.compact).getD ""
  String.join
    [r.method, " ", String.ofList u.target, " HTTP/1.1\r\n", field "host" (String.ofList u.server),
      field "accept" "*/*", field "connection" "close",
      (r.authorization.map (field "authorization")).getD "",
      if r.body.isSome then field "content-type" "application/json" else "",
      if r.body.isSome then field "content-length" (toString body.utf8ByteSize) else "", "\r\n", body]

end HttpRequest

namespace HttpResponse

/-! ## The header -/

/-- The first line without its end, a byte being a character, and the bytes that follow. -/
def cutLine? : List UInt8 → Option (List Char × List UInt8)
  | [] => none
  | 0x0A :: rest => some ([], rest)
  | 0x0D :: 0x0A :: rest => some ([], rest)
  | b :: rest => (cutLine? rest).map fun (line, after) => (Char.ofNat b.toNat :: line, after)

theorem length_lt_of_cutLine? {bytes after : List UInt8} {line : List Char}
    (h : cutLine? bytes = some (line, after)) : after.length < bytes.length := by
  fun_induction cutLine? bytes generalizing line with
  | case1 => cases h
  | case2 rest =>
    cases h
    exact Nat.lt_succ_self _
  | case3 rest =>
    cases h
    exact Nat.lt_succ_of_lt (Nat.lt_succ_self _)
  | case4 b rest _ _ ih =>
    obtain ⟨cut, hcut, heq⟩ := Option.map_eq_some_iff.1 h
    cases heq
    exact Nat.lt_succ_of_lt (ih hcut)

/-- The fields of a header, with their names in lower case, and the bytes after its empty line. -/
def header? (bytes : List UInt8) : Option (List (List Char × List Char) × List UInt8) :=
  match h : cutLine? bytes with
  | none => none
  | some ([], rest) => some ([], rest)
  | some (line, rest) =>
    have := length_lt_of_cutLine? h
    match cutFirst [':'] line, header? rest with
    | some (name, value), some (fields, body) =>
      some ((name.map Char.toLower, trim value) :: fields, body)
    | _, _ => none
termination_by bytes.length

/-- The status that the first line of an answer tells. -/
def status? (line : List Char) : Option Nat :=
  match splitOn ' ' line with
  | version :: code :: _ =>
    if "HTTP/1.".toList.isPrefixOf version && code.length == 3 then digitsValue? 10 code else none
  | _ => none

/-! ## The body -/

/-- The size that stands before a chunk, after which there may be remarks. -/
def chunkSize? (line : List Char) : Option Nat :=
  let digits := trim (line.takeWhile (· != ';'))
  if digits.isEmpty then none else digitsValue? 16 digits

/-- The bytes of the chunks up to the empty one. -/
def unchunk? (bytes : List UInt8) : Option (List UInt8) :=
  match h : cutLine? bytes with
  | none => none
  | some (line, rest) =>
    match chunkSize? line with
    | none => none
    | some 0 => some []
    | some size =>
      if rest.length < size then none
      else
        match hEnd : cutLine? (rest.drop size) with
        | some ([], more) =>
          have := length_lt_of_cutLine? h
          have := length_lt_of_cutLine? hEnd
          (unchunk? more).map (rest.take size ++ ·)
        | _ => none
termination_by bytes.length
decreasing_by simp only [List.length_drop] at this; omega

/-- The body that stands after a header with some fields. -/
def body? (fields : List (List Char × List Char)) (bytes : List UInt8) : Option (List UInt8) :=
  match fields.lookup "transfer-encoding".toList, fields.lookup "content-length".toList with
  | some coding, _ => if coding.map Char.toLower == "chunked".toList then unchunk? bytes else none
  | none, some digits => do
    let size ← natural? wordBound digits
    if bytes.length < size then none else some (bytes.take size)
  | none, none => some bytes

/-- The answer that the bytes of a connection are. -/
def ofWire? (bytes : List UInt8) : Option HttpResponse := do
  let (line, rest) ← cutLine? bytes
  let (fields, rest) ← header? rest
  return ⟨← status? line, ← body? fields rest⟩

end HttpResponse

end Grounded
