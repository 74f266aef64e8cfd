-- SUMMARY: JSON values: integers kept apart from doubles, object members in key order.

/-!
# JSON values

A value as the relay keeps it. Integers of 64 bits stay integers, every other
number is a double. The members of an object stand in strictly increasing key
order; `Members.insert` is the only way members are added, so the last value
given for a key is the one that stays.
-/

namespace WebhookRelay

/-- A JSON number: an integer of 64 bits (signed when negative), or a double. -/
inductive Json.Number where
  | integer (value : Int)
  | float (value : Float)
  deriving DecidableEq

/-- A JSON value. -/
inductive Json where
  | null
  | bool (value : Bool)
  | number (value : Json.Number)
  | string (value : String)
  | array (items : List Json)
  | object (members : List (String × Json))
  deriving Inhabited

namespace Json

/-- Object members in strictly increasing key order. -/
abbrev Members := List (String × Json)

/-- Sets a key, replacing the value it had. -/
def Members.insert (key : String) (value : Json) : Members → Members
  | [] => [(key, value)]
  | (k, v) :: rest =>
    if key < k then (key, value) :: (k, v) :: rest
    else if key = k then (key, value) :: rest
    else (k, v) :: Members.insert key value rest

/-- The value of a key. -/
def Members.find? (key : String) (members : Members) : Option Json :=
  members.lookup key

/-- Builds members from pairs in any order; of two pairs with one key the later counts. -/
def Members.ofList (pairs : List (String × Json)) : Members :=
  pairs.foldl (fun members pair => Members.insert pair.1 pair.2 members) []

/-- Numbers are equal within their kind; doubles as the machine compares them,
so both zeros are equal. -/
def Number.same : Number → Number → Bool
  | .integer a, .integer b => a == b
  | .float a, .float b => a == b
  | _, _ => false

mutual

/-- Equality of values, numbers compared by `Number.same`. -/
def same : Json → Json → Bool
  | .null, .null => true
  | .bool a, .bool b => a == b
  | .number a, .number b => Number.same a b
  | .string a, .string b => a == b
  | .array a, .array b => sameItems a b
  | .object a, .object b => sameMembers a b
  | _, _ => false

/-- Equality of lists of values. -/
def sameItems : List Json → List Json → Bool
  | [], [] => true
  | a :: as, b :: bs => same a b && sameItems as bs
  | _, _ => false

/-- Equality of lists of members. -/
def sameMembers : List (String × Json) → List (String × Json) → Bool
  | [], [] => true
  | (k, a) :: as, (l, b) :: bs => k == l && same a b && sameMembers as bs
  | _, _ => false

end

instance : BEq Json := ⟨same⟩

end Json
end WebhookRelay
