-- SUMMARY: The closed sets of event categories and of the groups subscribers switch on and off.

/-!
# Categories and groups

Every event carries the name of a category. Subscribers do not choose single
categories but groups of them. Both sets are closed: a name outside them is an
error for a subscriber and uninteresting for delivery.
-/

namespace WebhookRelay

/-- What happened, as the indexer names it. -/
inductive Category where
  | newConfirmation
  | confirmationRequest
  | pendingMultisigTransaction
  | executedMultisigTransaction
  | deletedMultisigTransaction
  | incomingEther
  | outgoingEther
  | incomingToken
  | outgoingToken
  | moduleTransaction
  | safeCreated
  | messageCreated
  | messageConfirmation
  | reorgDetected
  | newDelegate
  | updatedDelegate
  | deletedDelegate
  deriving DecidableEq, Repr

/-- What a subscriber can switch on: a group of related categories. -/
inductive Group where
  | confirmations
  | multisigTxs
  | etherTransfers
  | tokenTransfers
  | moduleTransactions
  | safeCreations
  | messages
  | reorgs
  | delegates
  deriving DecidableEq, Repr

/-- A name that belongs to no category or group. -/
structure UnknownName where
  name : String
  deriving DecidableEq, Repr

/-- The text of the error. -/
def UnknownName.message (e : UnknownName) : String :=
  "Unknown name: " ++ e.name

namespace Category

/-- All categories, in the order they are listed in. -/
def all : List Category :=
  [.newConfirmation, .confirmationRequest, .pendingMultisigTransaction,
    .executedMultisigTransaction, .deletedMultisigTransaction, .incomingEther,
    .outgoingEther, .incomingToken, .outgoingToken, .moduleTransaction, .safeCreated,
    .messageCreated, .messageConfirmation, .reorgDetected, .newDelegate, .updatedDelegate,
    .deletedDelegate]

/-- The name on the wire. -/
def name : Category → String
  | .newConfirmation => "NEW_CONFIRMATION"
  | .confirmationRequest => "CONFIRMATION_REQUEST"
  | .pendingMultisigTransaction => "PENDING_MULTISIG_TRANSACTION"
  | .executedMultisigTransaction => "EXECUTED_MULTISIG_TRANSACTION"
  | .deletedMultisigTransaction => "DELETED_MULTISIG_TRANSACTION"
  | .incomingEther => "INCOMING_ETHER"
  | .outgoingEther => "OUTGOING_ETHER"
  | .incomingToken => "INCOMING_TOKEN"
  | .outgoingToken => "OUTGOING_TOKEN"
  | .moduleTransaction => "MODULE_TRANSACTION"
  | .safeCreated => "SAFE_CREATED"
  | .messageCreated => "MESSAGE_CREATED"
  | .messageConfirmation => "MESSAGE_CONFIRMATION"
  | .reorgDetected => "REORG_DETECTED"
  | .newDelegate => "NEW_DELEGATE"
  | .updatedDelegate => "UPDATED_DELEGATE"
  | .deletedDelegate => "DELETED_DELEGATE"

/-- The group that switches the category. -/
def group : Category → Group
  | .newConfirmation | .confirmationRequest => .confirmations
  | .pendingMultisigTransaction | .executedMultisigTransaction
  | .deletedMultisigTransaction => .multisigTxs
  | .incomingEther | .outgoingEther => .etherTransfers
  | .incomingToken | .outgoingToken => .tokenTransfers
  | .moduleTransaction => .moduleTransactions
  | .safeCreated => .safeCreations
  | .messageCreated | .messageConfirmation => .messages
  | .reorgDetected => .reorgs
  | .newDelegate | .updatedDelegate | .deletedDelegate => .delegates

/-- The category with a name. -/
def ofName? (s : String) : Option Category :=
  all.find? (·.name == s)

/-- The category with a name, or the error that there is none. -/
def ofName (s : String) : Except UnknownName Category :=
  (ofName? s).elim (.error ⟨s⟩) .ok

theorem mem_all (c : Category) : c ∈ all := by
  cases c <;> decide

theorem ofName?_name (c : Category) : ofName? c.name = some c := by
  cases c <;> decide

theorem ofName?_eq_some_iff {s : String} {c : Category} : ofName? s = some c ↔ c.name = s := by
  constructor
  · intro h
    simpa using List.find?_some h
  · rintro rfl
    exact ofName?_name c

end Category

namespace Group

/-- All groups, in the order they are listed in. -/
def all : List Group :=
  [.confirmations, .multisigTxs, .etherTransfers, .tokenTransfers, .moduleTransactions,
    .safeCreations, .messages, .reorgs, .delegates]

/-- The name on the wire. -/
def name : Group → String
  | .confirmations => "SEND_CONFIRMATIONS"
  | .multisigTxs => "SEND_MULTISIG_TXS"
  | .etherTransfers => "SEND_ETHER_TRANSFERS"
  | .tokenTransfers => "SEND_TOKEN_TRANSFERS"
  | .moduleTransactions => "SEND_MODULE_TXS"
  | .safeCreations => "SEND_SAFE_CREATIONS"
  | .messages => "SEND_MESSAGES"
  | .reorgs => "SEND_REORGS"
  | .delegates => "SEND_DELEGATES"

/-- The categories that the group switches. -/
def categories : Group → List Category
  | .confirmations => [.newConfirmation, .confirmationRequest]
  | .multisigTxs =>
    [.pendingMultisigTransaction, .executedMultisigTransaction, .deletedMultisigTransaction]
  | .etherTransfers => [.incomingEther, .outgoingEther]
  | .tokenTransfers => [.incomingToken, .outgoingToken]
  | .moduleTransactions => [.moduleTransaction]
  | .safeCreations => [.safeCreated]
  | .messages => [.messageCreated, .messageConfirmation]
  | .reorgs => [.reorgDetected]
  | .delegates => [.newDelegate, .updatedDelegate, .deletedDelegate]

/-- The group with a name. -/
def ofName? (s : String) : Option Group :=
  all.find? (·.name == s)

/-- The group with a name, or the error that there is none. -/
def ofName (s : String) : Except UnknownName Group :=
  (ofName? s).elim (.error ⟨s⟩) .ok

theorem mem_all (g : Group) : g ∈ all := by
  cases g <;> decide

theorem ofName?_name (g : Group) : ofName? g.name = some g := by
  cases g <;> decide

theorem ofName?_eq_some_iff {s : String} {g : Group} : ofName? s = some g ↔ g.name = s := by
  constructor
  · intro h
    simpa using List.find?_some h
  · rintro rfl
    exact ofName?_name g

end Group

/-- The two tables agree: a group lists exactly the categories that name it. -/
theorem Group.mem_categories_iff (g : Group) (c : Category) : c ∈ g.categories ↔ c.group = g := by
  cases g <;> cases c <;> decide

end WebhookRelay
