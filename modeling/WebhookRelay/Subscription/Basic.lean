-- SUMMARY: Subscriptions: what a webhook wants to hear of, and which events are relevant to it.
import WebhookRelay.Event.Basic
import WebhookRelay.Json.Record
import WebhookRelay.Subscription.Id

/-!
# Subscriptions

A subscription is the durable record of a webhook. Nine switches, one per group
of categories, and a list of chains decide which events are relevant; an empty
list stands for every chain. The addresses are kept for the registration API and
take no part in that decision.
-/

namespace WebhookRelay

/-- One switch per group. -/
structure Switches where
  confirmations : Bool
  multisigTxs : Bool
  etherTransfers : Bool
  tokenTransfers : Bool
  moduleTransactions : Bool
  safeCreations : Bool
  messages : Bool
  reorgs : Bool
  delegates : Bool
  deriving DecidableEq, Repr

namespace Switches

/-- The same position for every switch. -/
def all (on : Bool) : Switches :=
  ⟨on, on, on, on, on, on, on, on, on⟩

/-- The position of a group's switch. -/
def get (s : Switches) : Group → Bool
  | .confirmations => s.confirmations
  | .multisigTxs => s.multisigTxs
  | .etherTransfers => s.etherTransfers
  | .tokenTransfers => s.tokenTransfers
  | .moduleTransactions => s.moduleTransactions
  | .safeCreations => s.safeCreations
  | .messages => s.messages
  | .reorgs => s.reorgs
  | .delegates => s.delegates

/-- Sets a group's switch. -/
def set (s : Switches) (g : Group) (on : Bool) : Switches :=
  match g with
  | .confirmations => { s with confirmations := on }
  | .multisigTxs => { s with multisigTxs := on }
  | .etherTransfers => { s with etherTransfers := on }
  | .tokenTransfers => { s with tokenTransfers := on }
  | .moduleTransactions => { s with moduleTransactions := on }
  | .safeCreations => { s with safeCreations := on }
  | .messages => { s with messages := on }
  | .reorgs => { s with reorgs := on }
  | .delegates => { s with delegates := on }

/-- On exactly for the listed groups. -/
def ofGroups (groups : List Group) : Switches :=
  Group.all.foldl (fun s g => s.set g (groups.contains g)) (all false)

/-- The groups that are on, in their order. -/
def enabled (s : Switches) : List Group :=
  Group.all.filter s.get

@[simp] theorem get_all (on : Bool) (g : Group) : (all on).get g = on := by
  cases g <;> rfl

@[simp] theorem get_set (s : Switches) (g h : Group) (on : Bool) :
    (s.set g on).get h = if h = g then on else s.get h := by
  cases g <;> cases h <;> rfl

@[simp] theorem get_ofGroups (groups : List Group) (g : Group) :
    (ofGroups groups).get g = groups.contains g := by
  cases g <;> rfl

end Switches

/-- The durable record of a webhook. -/
structure Subscription where
  id : WebhookId
  url : String
  description : String
  isActive : Bool
  /-- Sent as the `Authorization` header; empty for none. -/
  authorization : String
  /-- Decimal chain ids; empty for every chain. -/
  chains : List String
  addresses : List String
  sends : Switches
  deriving DecidableEq

namespace Subscription

/-- An active subscription to everything. -/
def new (id : WebhookId) (url : String) : Subscription :=
  ⟨id, url, "", true, "", [], [], .all true⟩

/-- Sets the switch of a group. -/
def setSends (s : Subscription) (g : Group) (on : Bool) : Subscription :=
  { s with sends := s.sends.set g on }

/-- Switches exactly the listed groups on. -/
def withGroups (s : Subscription) (groups : List Group) : Subscription :=
  { s with sends := .ofGroups groups }

/-- Whether a chain is one the webhook wants to hear of. -/
def wantsChain (s : Subscription) (chainId : String) : Bool :=
  s.chains.isEmpty || s.chains.contains chainId

/-- Whether a category is known and its group is on. -/
def wantsCategory (s : Subscription) : Option Category → Bool
  | some c => s.sends.get c.group
  | none => false

/-- Whether an event is delivered to the webhook. -/
def isRelevant (s : Subscription) (e : Event) : Bool :=
  s.wantsChain e.chainId && s.wantsCategory e.category

-- ---------------------------------------------------------------------------
-- JSON form
-- ---------------------------------------------------------------------------

/-- The names of the fields, in the order they are written. -/
def fieldNames : List String :=
  ["id", "url", "description", "is_active", "authorization", "chains", "addresses",
    "send_confirmations", "send_multisig_txs", "send_ether_transfers", "send_token_transfers",
    "send_module_transactions", "send_safe_creations", "send_messages", "send_reorgs",
    "send_delegates"]

/-- The fields with their values. -/
def fields (s : Subscription) : List (String × Json) :=
  fieldNames.zip <|
    [.string s.id.text, .string s.url, .string s.description, .bool s.isActive,
      .string s.authorization, .array (s.chains.map .string), .array (s.addresses.map .string)]
    ++ Group.all.map fun g => .bool (s.sends.get g)

/-- The text of a subscription. -/
def encode (s : Subscription) : String :=
  Json.recordText s.fields

/-- The subscription that a term writes. -/
def ofTerm? (t : Json.Term) : Option Subscription := do
  let texts := Json.Term.list? Json.Term.text?
  match ← Json.fieldsOf? fieldNames t with
  | [id, url, description, isActive, authorization, chains, addresses, a, b, c, d, e, f, g, h, i] =>
    return {
      id := ← (← id.text?) |> WebhookId.ofText?
      url := ← url.text?
      description := ← description.text?
      isActive := ← isActive.bool?
      authorization := ← authorization.text?
      chains := ← texts chains
      addresses := ← texts addresses
      sends := ⟨← a.bool?, ← b.bool?, ← c.bool?, ← d.bool?, ← e.bool?, ← f.bool?, ← g.bool?,
        ← h.bool?, ← i.bool?⟩ }
  | _ => none

/-- The subscription that a text writes. -/
def decode? (text : String) : Option Subscription :=
  (Json.termOf? text).bind ofTerm?

end Subscription
end WebhookRelay
