-- SUMMARY: The subscription table of a database: its statements and what a save refuses.
import WebhookRelay.Decimal.Reader
import WebhookRelay.Error
import WebhookRelay.Store.Column
import WebhookRelay.Store.Rows
import WebhookRelay.Subscription.Basic

/-!
# The subscription table

A row holds a subscription whose chains are signed 64-bit integers. The table is
keyed by id, and no two rows have one URL. It is used through four statements;
`Table.execute` says what each does, column by column as the statement lists them,
and refuses a row whose URL another id has.

A subscription becomes a row by reading its chains as integers. A chain that is
no such integer is refused before any statement is made, so a refused save is
the same with and without a database (`saveStatement`).
-/

namespace WebhookRelay

/-- A row of the table. -/
structure Row where
  id : WebhookId
  url : String
  description : String
  isActive : Bool
  authorization : String
  /-- Each between `Decimal.int64Min` and `Decimal.int64Max`. -/
  chains : List Int
  addresses : List String
  sends : Switches
  deriving DecidableEq

namespace Row

/-- Reads chains as signed 64-bit integers; the first that is none is refused by name. -/
def readChains : List String → Except InfraError (List Int)
  | [] => .ok []
  | chain :: rest =>
    match Decimal.readInt64? chain with
    | none => .error (.configuration ("Invalid chain id: " ++ chain))
    | some n => (readChains rest).map (n :: ·)

/-- The row of a subscription. -/
def ofSubscription (s : Subscription) : Except InfraError Row :=
  (readChains s.chains).map fun chains =>
    ⟨s.id, s.url, s.description, s.isActive, s.authorization, chains, s.addresses, s.sends⟩

/-- The subscription of a row, its chains in plain decimal. -/
def toSubscription (r : Row) : Subscription :=
  ⟨r.id, r.url, r.description, r.isActive, r.authorization, r.chains.map toString, r.addresses,
    r.sends⟩

/-- What stands in a column. -/
def cell (r : Row) : Column → Cell
  | .id => .uuid r.id
  | .url => .text r.url
  | .description => .text r.description
  | .isActive => .flag r.isActive
  | .authorization => .text r.authorization
  | .chains => .integers r.chains
  | .addresses => .texts r.addresses
  | .sends g => .flag (r.sends.get g)

/-- Some columns of a row. -/
def record (r : Row) (columns : List Column) : Record :=
  columns.map fun c => (c, r.cell c)

/-- The values that an insert of a row is given, in their order. -/
def values (r : Row) : List Cell :=
  [.uuid r.id, .text r.url, .text r.description, .flag r.isActive, .text r.authorization,
    .integers r.chains, .texts r.addresses, .flag r.sends.confirmations,
    .flag r.sends.multisigTxs, .flag r.sends.etherTransfers, .flag r.sends.tokenTransfers,
    .flag r.sends.moduleTransactions, .flag r.sends.safeCreations, .flag r.sends.messages,
    .flag r.sends.reorgs, .flag r.sends.delegates]

/-- The row with some columns; `none` when one is missing or has no value of its type. -/
def ofRecord? (record : Record) : Option Row := do
  return {
    id := ← record.uuid? .id
    url := ← record.text? .url
    description := ← record.text? .description
    isActive := ← record.flag? .isActive
    authorization := ← record.text? .authorization
    chains := ← record.integers? .chains
    addresses := ← record.texts? .addresses
    sends := ⟨← record.flag? (.sends .confirmations), ← record.flag? (.sends .multisigTxs),
      ← record.flag? (.sends .etherTransfers), ← record.flag? (.sends .tokenTransfers),
      ← record.flag? (.sends .moduleTransactions), ← record.flag? (.sends .safeCreations),
      ← record.flag? (.sends .messages), ← record.flag? (.sends .reorgs),
      ← record.flag? (.sends .delegates)⟩ }

/-- The row with one column as another row has it. -/
def replace (excluded : Row) (r : Row) : Column → Row
  | .id => { r with id := excluded.id }
  | .url => { r with url := excluded.url }
  | .description => { r with description := excluded.description }
  | .isActive => { r with isActive := excluded.isActive }
  | .authorization => { r with authorization := excluded.authorization }
  | .chains => { r with chains := excluded.chains }
  | .addresses => { r with addresses := excluded.addresses }
  | .sends g => { r with sends := r.sends.set g (excluded.sends.get g) }

end Row

/-- Rows keyed by id. -/
structure Table where
  rows : List Row
  ordered : rows.Pairwise (·.id < ·.id)

/-- What the store asks of the database. -/
inductive Statement where
  /-- All active rows. -/
  | selectActive
  /-- The row of an id. -/
  | selectById (id : WebhookId)
  /-- Inserts a row, or replaces the row with its id. -/
  | upsert (row : Row)
  /-- Switches the active row of an id off. -/
  | deactivate (id : WebhookId)
  deriving DecidableEq

/-- What a statement gives back. -/
inductive StatementResult where
  /-- The selected columns of some rows. -/
  | rows (records : List Record)
  | affected (count : Nat)
  deriving DecidableEq

namespace Table

/-- A table without rows. -/
def empty : Table :=
  ⟨[], .nil⟩

/-- The row of an id. -/
def find? (t : Table) (id : WebhookId) : Option Row :=
  t.rows.find? (·.id = id)

/-- Places a row, replacing the row with its id. -/
def place (t : Table) (row : Row) : Table :=
  ⟨insertRow (·.id) row t.rows, pairwise_insertRow t.ordered⟩

/-- Whether a row other than that of `id` has a URL. -/
def isTaken (t : Table) (id : WebhookId) (url : String) : Bool :=
  t.rows.any fun r => r.id ≠ id ∧ r.url = url

/-- What an insert makes of a row: the row itself, or the row that has its id with the
replaced columns. -/
def merge (t : Table) (row : Row) : Row :=
  match t.find? row.id with
  | some old => Column.replaced.foldl row.replace old
  | none => row

/-- Carries a statement out; `none` when it would give two rows one URL. -/
def execute (t : Table) : Statement → Option (StatementResult × Table)
  | .selectActive => some (.rows ((t.rows.filter (·.isActive)).map (·.record Column.selected)), t)
  | .selectById id => some (.rows ((t.find? id).toList.map (·.record Column.selected)), t)
  | .upsert row => do
    let row := t.merge (← Row.ofRecord? (Column.written.zip row.values))
    if t.isTaken row.id row.url then none else some (.affected 1, t.place row)
  | .deactivate id =>
    match t.find? id with
    | some r =>
      if r.isActive then some (.affected 1, t.place { r with isActive := false })
      else some (.affected 0, t)
    | none => some (.affected 0, t)

end Table

/-- The statement that saves a subscription. -/
def saveStatement (s : Subscription) : Except InfraError Statement :=
  (Row.ofSubscription s).map .upsert

end WebhookRelay
