-- SUMMARY: Registration requests: validation, and the subscriptions they make or change.
import WebhookRelay.Subscription.Basic
import WebhookRelay.Url.Reader

/-!
# Registration requests

A request is checked field by field, and the first violation in the order below
is reported. Only a request without violation makes a subscription or changes
one; a change replaces everything but the id.
-/

namespace WebhookRelay

/-- What is wrong with a request. -/
inductive Violation where
  | emptyDescription
  | descriptionTooLong
  | urlTooLong
  | invalidUrl (url : String)
  | tooManyAddresses
  | invalidAddress (address : String)
  | noEvents
  | unknownEvent (name : String)
  deriving DecidableEq, Repr

/-- The greatest number of characters in a description and in a url. -/
def maxFieldLength : Nat := 300

/-- The greatest number of addresses. -/
def maxAddresses : Nat := 100

/-- The text of the violation. -/
def Violation.message : Violation → String
  | .emptyDescription => "Description must not be empty"
  | .descriptionTooLong => "Description must not exceed 300 characters"
  | .urlTooLong => "Url must not exceed 300 characters"
  | .invalidUrl url => "Invalid webhook URL: " ++ url
  | .tooManyAddresses => "A maximum of 100 addresses is allowed"
  | .invalidAddress address => "Invalid Ethereum address: " ++ address
  | .noEvents => "At least one event group is required"
  | .unknownEvent name => "Unknown event group: " ++ name

/-- `0x` and forty hexadecimal digits. -/
def isEthereumAddress (s : String) : Bool :=
  match s.toList with
  | '0' :: 'x' :: digits => digits.length == 40 && digits.all (Text.hexValue? · |>.isSome)
  | _ => false

/-- An http or https URL that can be read. -/
def isWebhookUrl (s : String) : Bool :=
  ("http://".isPrefixOf s || "https://".isPrefixOf s) && (Url.parse? s).isSome

/-- What a client asks for when it registers a webhook or changes one. -/
structure Registration where
  description : String
  url : String
  isActive : Bool
  authorization : String
  chains : List UInt64
  addresses : List String
  /-- Names of groups. -/
  events : List String
  deriving DecidableEq, Repr

namespace Registration

/-- The groups that a list of names stands for, or the first name that is none. -/
def groupsOf : List String → Except Violation (List Group)
  | [] => .ok []
  | name :: names =>
    match Group.ofName? name with
    | none => .error (.unknownEvent name)
    | some g => (groupsOf names).map (g :: ·)

/-- The requested groups. -/
def groups (r : Registration) : Except Violation (List Group) :=
  groupsOf r.events

/-- The first violation. -/
def validate (r : Registration) : Except Violation Unit :=
  if r.description.isEmpty then .error .emptyDescription
  else if r.description.length > maxFieldLength then .error .descriptionTooLong
  else if r.url.length > maxFieldLength then .error .urlTooLong
  else if !isWebhookUrl r.url then .error (.invalidUrl r.url)
  else if r.addresses.length > maxAddresses then .error .tooManyAddresses
  else
    match r.addresses.find? (!isEthereumAddress ·) with
    | some address => .error (.invalidAddress address)
    | none =>
      if r.events.isEmpty then .error .noEvents
      else r.groups.map fun _ => ()

/-- Replaces everything but the id of a subscription. -/
def applyTo (r : Registration) (s : Subscription) : Except Violation Subscription := do
  r.validate
  let groups ← r.groups
  return {
    id := s.id
    url := r.url
    description := r.description
    isActive := r.isActive
    authorization := r.authorization
    chains := r.chains.map fun n => toString n.toNat
    addresses := r.addresses
    sends := .ofGroups groups }

/-- The subscription that a request makes. -/
def toSubscription (r : Registration) (id : WebhookId) : Except Violation Subscription :=
  r.applyTo (.new id r.url)

-- ---------------------------------------------------------------------------
-- JSON form
-- ---------------------------------------------------------------------------

/-- The names of the fields, in the order they are written. -/
def fieldNames : List String :=
  ["description", "url", "is_active", "authorization", "chains", "addresses", "events"]

/-- The fields with their values. -/
def fields (r : Registration) : List (String × Json) :=
  fieldNames.zip
    [.string r.description, .string r.url, .bool r.isActive, .string r.authorization,
      .array (r.chains.map fun n => .number (.integer n.toNat)), .array (r.addresses.map .string),
      .array (r.events.map .string)]

/-- The text of a request. -/
def encode (r : Registration) : String :=
  Json.recordText r.fields

/-- The request that a term writes. -/
def ofTerm? (t : Json.Term) : Option Registration := do
  let texts := Json.Term.list? Json.Term.text?
  match ← Json.fieldsOf? fieldNames t with
  | [description, url, isActive, authorization, chains, addresses, events] =>
    return {
      description := ← description.text?
      url := ← url.text?
      isActive := ← isActive.bool?
      authorization := ← authorization.text?
      chains := ← Json.Term.list? Json.Term.word? chains
      addresses := ← texts addresses
      events := ← texts events }
  | _ => none

/-- The request that a text writes. -/
def decode? (text : String) : Option Registration :=
  (Json.termOf? text).bind ofTerm?

end Registration
end WebhookRelay
