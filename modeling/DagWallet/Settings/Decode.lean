import DagWallet.Settings.Document
import DagWallet.Wallet.Config
import DagWallet.Text.Shortest

namespace DagWallet

namespace Settings

abbrev Decoded (α : Type) := Except DecodeError α

/-- JSON documents: a missing value is `null`, floats take the shortest digits written
positionally for leading exponents from -5 to 15 (ties to even) and with a signed exponent
otherwise, and a sequence read as a record may not be longer than the record. -/
def jsonDialect : Dialect :=
  ⟨"null", Shortest.Layout.render ⟨-5, 16, true, true⟩, true⟩

/-- TOML documents: floats take the shortest digits, always positional (ties upwards), and a
sequence read as a record may be longer than the record. -/
def tomlDialect : Dialect :=
  ⟨"unit value", Shortest.Layout.render ⟨-400, 400, false, false⟩, false⟩

def fail {α : Type} (span : Option Span) (msg : String) : Decoded α := .error ⟨msg, span⟩

/-- An unsigned integer below `bound`, called `name` in messages. -/
def unsigned (d : Dialect) (name : String) (bound : Nat) (v : Value) (span : Option Span) :
    Decoded Nat :=
  match v.bare span with
  | (.int n, s) =>
    if n < 0 ∨ bound ≤ n then fail s s!"invalid value: integer `{n}`, expected {name}"
    else .ok n.toNat
  | (w, s) => fail s s!"invalid type: {w.unexpected d}, expected {name}"

/-- A field of a record: its name, and how a value changes the record. -/
structure Field (α : Type) where
  name : String
  read : Value → Option Span → Decoded (α → α)

/-- One entry of a table read into a record, refusing a field named twice. -/
def readEntry {α : Type} (fields : List (Field α)) (s : Option Span) (st : α × List String)
    (kv : String × Value) : Decoded (α × List String) :=
  match fields.find? (·.name == kv.1) with
  | none => .ok st
  | some f =>
    if st.2.contains kv.1 then fail s s!"duplicate field `{kv.1}`"
    else (f.read kv.2 s).map fun g => (g st.1, kv.1 :: st.2)

/-- One element of a sequence read into the record field at its position. -/
def readPositional {α : Type} (s : Option Span) (acc : α) (fv : Field α × Value) : Decoded α :=
  (fv.1.read fv.2 s).map fun g => g acc

/-- A record whose fields all have defaults. A table sets the fields it names, in its own
order, and skips names it does not know; a sequence sets the fields by position. -/
def record {α : Type} (d : Dialect) (name : String) (fields : List (Field α)) (init : α)
    (v : Value) (span : Option Span) : Decoded α :=
  match v.bare span with
  | (.table entries, s) => (entries.foldlM (readEntry fields s) (init, [])).map (·.1)
  | (.array items, s) => do
    let r ← (fields.zip items).foldlM (readPositional s) init
    if d.strictLength && items.length > fields.length then
      fail s s!"invalid length {items.length}, expected fewer elements in array"
    else pure r
  | (.datetime _, _) => .ok init
  | (w, s) => fail s s!"invalid type: {w.unexpected d}, expected struct {name}"

/-- A field holding an unsigned integer of the given width. -/
def numberField {α : Type} (d : Dialect) (name kind : String) (bits : Nat)
    (set : Nat → α → α) : Field α :=
  ⟨name, fun v s => (unsigned d kind (Nat.pow 2 bits) v s).map set⟩

def poolFields (d : Dialect) : List (Field PoolConfig) :=
  [numberField d "request_timeout_ms" "u64" 64 fun n c => { c with requestTimeoutMs := n.toUInt64 },
   numberField d "transport_retries" "u32" 32 fun n c => { c with transportRetries := n.toUInt32 },
   numberField d "initial_retry_delay_ms" "u64" 64
     fun n c => { c with initialRetryDelayMs := n.toUInt64 },
   numberField d "max_retry_delay_ms" "u64" 64 fun n c => { c with maxRetryDelayMs := n.toUInt64 }]

def retryFields (d : Dialect) : List (Field RetryConfig) :=
  [numberField d "interval_secs" "u64" 64 fun n c => { c with intervalSecs := n.toUInt64 },
   numberField d "max_attempts" "u32" 32 fun n c => { c with maxAttempts := n.toUInt32 }]

def searchFields (d : Dialect) : List (Field SearchConfig) :=
  [numberField d "max_pages_per_address" "usize" 64
     fun n c => { c with maxPagesPerAddress := n.toUInt64 },
   numberField d "max_concurrent_requests" "usize" 64
     fun n c => { c with maxConcurrentRequests := n.toUInt64 }]

def selectionFields (d : Dialect) : List (Field SelectionConfig) :=
  [numberField d "max_inputs" "usize" 64 fun n c => { c with maxInputs := n.toUInt64 }]

def configFields (d : Dialect) : List (Field Config) :=
  [⟨"pool", fun v s => (record d "PoolConfig" (poolFields d) {} v s).map
      fun p c => { c with pool := p }⟩,
   ⟨"retry", fun v s => (record d "RetryConfig" (retryFields d) {} v s).map
      fun r c => { c with retry := r }⟩,
   ⟨"search", fun v s => (record d "SearchConfig" (searchFields d) {} v s).map
      fun r c => { c with search := r }⟩,
   ⟨"selection", fun v s => (record d "SelectionConfig" (selectionFields d) {} v s).map
      fun r c => { c with selection := r }⟩,
   numberField d "network_id" "u64" 64 fun n c => { c with networkId := n.toUInt64 }]

/-- The configuration a document describes; what it leaves out keeps its default. -/
def readConfig (d : Dialect) (v : Value) : Decoded Config :=
  record d "Config" (configFields d) {} v none

end Settings

end DagWallet
