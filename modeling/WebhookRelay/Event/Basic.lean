-- SUMMARY: Indexer events: decoding a queue message, validity, and the body that webhooks receive.
import WebhookRelay.Event.Category
import WebhookRelay.Json.Reader
import WebhookRelay.Json.Writer

/-!
# Events

Three members of a message are interpreted: `chainId`, `address` and `type`. All
others are kept in `extra`. An event read from the queue also keeps the exact
text it came in, and that text is what webhooks receive; an event made in place
is written out instead.

Members are judged in the order of the text, so of two faults the first one in
the text is reported, even when the text later breaks off.
-/

namespace WebhookRelay

/-- What is wrong with a text that should be an event. -/
inductive JsonFault where
  /-- The text is no JSON object with the members in their places. -/
  | malformed (detail : String)
  /-- The chain id is neither a string nor a number nor null. -/
  | chainId (value : Json)

/-- The wording of the fault. -/
def JsonFault.message : JsonFault → String
  | .malformed detail => detail
  | .chainId value => "invalid chainId: " ++ value.text

/-- Why a message is rejected. -/
inductive EventError where
  | invalidUtf8
  | invalidJson (fault : JsonFault)
  | missingField (name : String)

/-- The text of the error. -/
def EventError.message : EventError → String
  | .invalidUtf8 => "Message is not valid UTF-8"
  | .invalidJson fault => "Message is not a JSON object: " ++ fault.message
  | .missingField name => "Missing required field: " ++ name

/-- An event published by the indexer. -/
structure Event where
  chainId : String
  /-- The account the event is about; empty when there is none. -/
  address : String
  /-- The name of the category. -/
  type : String
  /-- All other members. -/
  extra : Json.Members
  /-- The text the event was read from. -/
  raw : Option String

namespace Event

/-- An event without further members. -/
def new (chainId type address : String) : Event :=
  ⟨chainId, address, type, [], none⟩

/-- Sets a further member. The text the event was read from stays as it is. -/
def withField (e : Event) (key : String) (value : Json) : Event :=
  { e with extra := Json.Members.insert key value e.extra }

/-- The category, unless the name is unknown. -/
def category (e : Event) : Option Category :=
  Category.ofName? e.type

/-- The text of an event: the three interpreted members, then the others. -/
def encode (e : Event) : String :=
  String.ofList <| '{' :: (Json.memberChars
    (("chainId", .string e.chainId) :: ("address", .string e.address)
      :: ("type", .string e.type) :: e.extra) ++ ['}'])

/-- What webhooks receive. -/
def body (e : Event) : String :=
  e.raw.getD e.encode

/-- Every event that is relayed names its chain and its type. -/
def validate (e : Event) : Except EventError Unit :=
  if e.chainId = "" then .error (.missingField "chainId")
  else if e.type = "" then .error (.missingField "type")
  else .ok ()

/-- Equality, member values compared as JSON values. -/
def same (a b : Event) : Bool :=
  a.chainId == b.chainId && a.address == b.address && a.type == b.type
    && Json.sameMembers a.extra b.extra && a.raw == b.raw

instance : BEq Event := ⟨same⟩

end Event

-- ---------------------------------------------------------------------------
-- Decoding
-- ---------------------------------------------------------------------------

/-- The members of an event read so far. -/
structure Event.Draft where
  chainId : Option String
  address : Option String
  type : Option String
  /-- The other members, in the order of the text. The texts that they embed are
  looked into when the last one is there. -/
  others : List (List Json.StringUnit × Json.Term)

namespace Event.Draft

/-- Nothing read yet. -/
def empty : Draft :=
  ⟨none, none, none, []⟩

/-- The fault of a text that is not what the grammar or a member's type asks for. -/
def malformed : EventError :=
  .invalidJson (.malformed "malformed object")

/-- A chain id: a string as it is, a number as JSON writes it, null as the empty string. -/
def chainIdOf (t : Json.Term) : Except EventError String :=
  match t.read? (Json.maxDepth - 1) with
  | some (.string s) => .ok s
  | some (.number n) => .ok n.text
  | some .null => .ok ""
  | some other => .error (.invalidJson (.chainId other))
  | none => .error malformed

/-- A string, or null for the empty string. -/
def textOrNull : Json.Term → Except EventError String
  | .null => .ok ""
  | .string units => (Json.textOf? units).elim (.error malformed) .ok
  | _ => .error malformed

/-- Takes up one member. The interpreted ones must not repeat. -/
def add (d : Draft) (member : List Json.StringUnit × Json.Term) : Except EventError Draft := do
  match Json.textOf? member.1 with
  | none => throw malformed
  | some "chainId" =>
    if d.chainId.isSome then throw malformed
    return { d with chainId := some (← chainIdOf member.2) }
  | some "address" =>
    if d.address.isSome then throw malformed
    return { d with address := some (← textOrNull member.2) }
  | some "type" =>
    if d.type.isSome then throw malformed
    return { d with type := some (← textOrNull member.2) }
  | some _ =>
    match member.2.value? (Json.maxDepth - 1) with
    | some _ => return { d with others := d.others ++ [member] }
    | none => throw malformed

/-- The event with the members read; absent ones are empty. Of the others the last
value per key counts. -/
def finish (d : Draft) : Except EventError Event :=
  match Json.memberReadings? (Json.maxDepth - 1) d.others with
  | some extra =>
    .ok ⟨d.chainId.getD "", d.address.getD "", d.type.getD "", Json.Members.ofList extra, none⟩
  | none => .error malformed

end Event.Draft

namespace Event

/-- Decodes a text without asking for validity and without keeping it. -/
def decode (text : String) : Except EventError Event :=
  match Json.scanObject? text with
  | none => .error Draft.malformed
  | some (members, complete) => do
    let draft ← members.foldlM Draft.add Draft.empty
    if complete then draft.finish else throw Draft.malformed

/-- Decodes a text into a valid event that keeps the text as its body. -/
def ofText (text : String) : Except EventError Event := do
  let event ← decode text
  event.validate
  return { event with raw := some text }

/-- Decodes a queue message. -/
def ofPayload (payload : ByteArray) : Except EventError Event :=
  match String.fromUTF8? payload with
  | some text => ofText text
  | none => .error .invalidUtf8

end Event
end WebhookRelay
