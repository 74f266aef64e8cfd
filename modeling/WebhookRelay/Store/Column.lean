-- SUMMARY: The columns of the subscription table, and which of them each statement names.
import WebhookRelay.Event.Category
import WebhookRelay.Subscription.Id

/-!
# Columns

Each statement on the table names its columns in a list of its own: those that an
insert writes, those that it replaces when the id is there already, and those that a
query gives back. The values of an insert are told apart by their places alone, the
columns of a query by their names.
-/

namespace WebhookRelay

/-- A column of the table. -/
inductive Column where
  | id
  | url
  | description
  | isActive
  | authorization
  | chains
  | addresses
  | sends (g : Group)
  deriving DecidableEq

/-- What stands in one column of a row. -/
inductive Cell where
  | uuid (id : WebhookId)
  | text (text : String)
  | flag (on : Bool)
  | integers (ns : List Int)
  | texts (texts : List String)
  deriving DecidableEq

/-- Columns with what stands in them. -/
abbrev Record := List (Column × Cell)

namespace Column

/-- The columns that an insert writes, in the order of its values. -/
def written : List Column :=
  [.id, .url, .description, .isActive, .authorization, .chains, .addresses,
    .sends .confirmations, .sends .multisigTxs, .sends .etherTransfers, .sends .tokenTransfers,
    .sends .moduleTransactions, .sends .safeCreations, .sends .messages, .sends .reorgs,
    .sends .delegates]

/-- The columns that an insert replaces in the row that has its id. -/
def replaced : List Column :=
  [.url, .description, .isActive, .authorization, .chains, .addresses,
    .sends .confirmations, .sends .multisigTxs, .sends .etherTransfers, .sends .tokenTransfers,
    .sends .moduleTransactions, .sends .safeCreations, .sends .messages, .sends .reorgs,
    .sends .delegates]

/-- The columns that a query gives back. -/
def selected : List Column :=
  [.id, .url, .description, .isActive, .authorization, .chains, .addresses,
    .sends .confirmations, .sends .multisigTxs, .sends .etherTransfers, .sends .tokenTransfers,
    .sends .moduleTransactions, .sends .safeCreations, .sends .messages, .sends .reorgs,
    .sends .delegates]

end Column

namespace Record

/-- The id in a column. -/
def uuid? (r : Record) (c : Column) : Option WebhookId :=
  match r.lookup c with
  | some (.uuid id) => some id
  | _ => none

/-- The text in a column. -/
def text? (r : Record) (c : Column) : Option String :=
  match r.lookup c with
  | some (.text text) => some text
  | _ => none

/-- The truth value in a column. -/
def flag? (r : Record) (c : Column) : Option Bool :=
  match r.lookup c with
  | some (.flag on) => some on
  | _ => none

/-- The integers in a column. -/
def integers? (r : Record) (c : Column) : Option (List Int) :=
  match r.lookup c with
  | some (.integers ns) => some ns
  | _ => none

/-- The texts in a column. -/
def texts? (r : Record) (c : Column) : Option (List String) :=
  match r.lookup c with
  | some (.texts texts) => some texts
  | _ => none

end Record
end WebhookRelay
