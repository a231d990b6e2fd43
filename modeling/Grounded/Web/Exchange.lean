import Grounded.Json.Write
import Grounded.Text.Utf8

/-!
# Requests and responses

The library does not open connections. It is handed a transport, which answers a request with a response
or with the reason why there is none.
-/

namespace Grounded

/-- A request for the resource at an address. -/
structure HttpRequest where
  method : String
  url : String
  /-- The value of the header that holds the credential. -/
  authorization : Option String := none
  body : Option Json := none
  /-- How long the answer may take, in seconds. -/
  timeoutSecs : Nat

/-- The characters that stand for six bits. -/
def base64Digits : List Char :=
  "ABCDEFGHIJKLMNOPQRSTUVWXYZabcdefghijklmnopqrstuvwxyz0123456789+/".toList

/-- The character that stands for the last six bits of a number. -/
def base64Digit (n : Nat) : Char := base64Digits.getD (n % 64) '='

/-- Bytes as characters, three bytes as four of them; signs of equality fill up the last four. -/
def base64 : List UInt8 → List Char
  | [] => []
  | [a] =>
    let n := a.toNat * 0x10
    [base64Digit (n / 0x40), base64Digit n, '=', '=']
  | [a, b] =>
    let n := (a.toNat * 0x100 + b.toNat) * 4
    [base64Digit (n / 0x1000), base64Digit (n / 0x40), base64Digit n, '=']
  | a :: b :: c :: rest =>
    let n := (a.toNat * 0x100 + b.toNat) * 0x100 + c.toNat
    [base64Digit (n / 0x40000), base64Digit (n / 0x1000), base64Digit (n / 0x40), base64Digit n] ++
      base64 rest

namespace HttpRequest

/-- The credential that is a user with a password. -/
def basicCredential (user password : String) : String :=
  "Basic " ++ String.ofList (base64 (user ++ ":" ++ password).toUTF8.toList)

end HttpRequest

/-- The answer to a request. -/
structure HttpResponse where
  status : Nat
  body : List UInt8
deriving DecidableEq, Repr

namespace HttpResponse

/-- Whether the request was done. -/
def succeeded (r : HttpResponse) : Bool := 200 ≤ r.status && r.status < 300

/-- Whether the request was refused, or the server failed. -/
def refused (r : HttpResponse) : Bool := 400 ≤ r.status

/-- The text of the body. -/
def text (r : HttpResponse) : List Char := Text.decodeLossy r.body

end HttpResponse

/-- What answers requests; a request that is not answered fails for a reason. -/
abbrev Transport (m : Type → Type) := HttpRequest → m (Except String HttpResponse)

namespace Transport

/-- The reason why a request could not be sent. -/
def unsent (request : HttpRequest) : String :=
  "error sending request for url (" ++ request.url ++ ")"

/-- The transport that reaches nobody. -/
def unreachable {m : Type → Type} [Monad m] : Transport m := fun request =>
  return .error (unsent request)

end Transport

end Grounded
