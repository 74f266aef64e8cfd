-- SUMMARY: Records as JSON: fixed fields, read from an object or an array and written in order.
import WebhookRelay.Json.Term
import WebhookRelay.Json.Writer

/-!
# Records

A record has a fixed list of field names. It is written as an object with its
fields in that order. It is read from an object in which every field occurs once
and further members are passed over unread, or from an array of exactly the
field values in order.
-/

namespace WebhookRelay.Json

/-- The text of a record. -/
def recordText (fields : List (String × Json)) : String :=
  String.ofList ('{' :: (memberChars fields ++ ['}']))

/-- The members of an object with their keys as text. -/
def keyedMembers? (members : List (List StringUnit × Term)) : Option (List (String × Term)) :=
  members.mapM fun member => (textOf? member.1).map (·, member.2)

/-- The value of a field that occurs exactly once. -/
def fieldOf? (members : List (String × Term)) (name : String) : Option Term :=
  match members.filter (·.1 == name) with
  | [member] => some member.2
  | _ => none

/-- The field values of a record, in the order of the names. -/
def fieldsOf? (names : List String) : Term → Option (List Term)
  | .array items => if items.length = names.length then some items else none
  | .object members => (keyedMembers? members).bind fun members => names.mapM (fieldOf? members)
  | _ => none

/-- A string. -/
def Term.text? : Term → Option String
  | .string units => textOf? units
  | _ => none

/-- A truth value. -/
def Term.bool? : Term → Option Bool
  | .bool b => some b
  | _ => none

/-- An unsigned 64-bit integer, written without fraction and exponent. -/
def Term.word? : Term → Option UInt64
  | .number l =>
    match l.number? with
    | some (.integer n) => if 0 ≤ n then some n.toNat.toUInt64 else none
    | _ => none
  | _ => none

/-- A list of values of one kind. -/
def Term.list? (item? : Term → Option α) : Term → Option (List α)
  | .array items => items.mapM item?
  | _ => none

/-- One of a closed set of names: the name alone, or an object with the name as
its only key and null as its value. -/
def Term.variant? : Term → Option String
  | .string units => textOf? units
  | .object [(key, .null)] => textOf? key
  | _ => none

end WebhookRelay.Json
