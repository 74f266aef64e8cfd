-- SUMMARY: Percent-encoding: which characters each part of a URL escapes, and decoding.
import WebhookRelay.Text.Digits
import WebhookRelay.Text.Utf8

/-!
# Percent-encoding

Each part of a URL has its own set of characters that are written as `%XX`. The
sets grow from one another; characters beyond ASCII are always escaped, byte by
byte of their UTF-8 form.
-/

namespace WebhookRelay.Url

/-- Controls and everything beyond ASCII. -/
def inControlSet (c : Char) : Bool :=
  c.toNat < 0x20 || 0x7E < c.toNat

/-- Escaped in fragments. -/
def inFragmentSet (c : Char) : Bool :=
  inControlSet c || " \"<>`".toList.contains c

/-- Escaped in queries. -/
def inQuerySet (c : Char) : Bool :=
  inControlSet c || " \"#<>".toList.contains c

/-- Escaped in the queries of special schemes. -/
def inSpecialQuerySet (c : Char) : Bool :=
  inQuerySet c || c == '\''

/-- Escaped in path segments. -/
def inPathSet (c : Char) : Bool :=
  inFragmentSet c || "#?\x7b\x7d".toList.contains c

/-- Escaped in user names and passwords. -/
def inUserinfoSet (c : Char) : Bool :=
  inPathSet c || "/:;=@[\\]^|".toList.contains c

/-- The UTF-8 bytes of a character. -/
def utf8Bytes (c : Char) : List UInt8 :=
  (String.singleton c).toUTF8.toList

/-- One byte as `%XX`. -/
def escapeByte (b : UInt8) : List Char :=
  '%' :: Text.upperAscii (Text.hexDigits 2 b.toNat)

/-- Escapes the characters of a set. -/
def percentEncode (inSet : Char → Bool) (cs : List Char) : List Char :=
  cs.flatMap fun c => if inSet c then (utf8Bytes c).flatMap escapeByte else [c]

/-- The bytes of a text in which `%XX` stands for a byte; other `%` stand for themselves. -/
def percentDecode : List Char → List UInt8
  | [] => []
  | '%' :: a :: b :: rest =>
    match Text.natOfDigits? 16 [a, b] with
    | some n => n.toUInt8 :: percentDecode rest
    | none => utf8Bytes '%' ++ percentDecode (a :: b :: rest)
  | c :: rest => utf8Bytes c ++ percentDecode rest

/-- The text that escaped bytes write, if they are UTF-8. -/
def percentDecodeText? (cs : List Char) : Option String :=
  String.fromUTF8? (percentDecode cs).toByteArray

/-- The text that escaped bytes write, with `U+FFFD` for what is not UTF-8. -/
def percentDecodeLossy (cs : List Char) : String :=
  Text.lossy (percentDecode cs).toByteArray

end WebhookRelay.Url
