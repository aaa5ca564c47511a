import DagWallet.Settings.Toml.Values
import DagWallet.Settings.Decode

namespace DagWallet

namespace Settings

namespace Toml

/-- The tables read so far: the document's root, the table that the last header opened
with its path, and whether that header opened an element of an array of tables. Before the
first header the open table is the root itself, with the empty path. -/
structure Tables where
  root : Node
  current : Node
  path : List Key
  isArray : Bool

/-- The node that the keys lead to, entering the last element of an array of tables on the
way, as the walk of a header does. -/
def reached : List Key → Node → Option Node
  | [], n => some n
  | k :: rest, .table entries _ _ _ =>
    match entries.lookup k.name with
    | some (.tables items _) => items.getLast?.bind (reached rest)
    | some c => reached rest c
    | none => none
  | _ :: _, _ => none

namespace Tables

def empty : Tables := ⟨.table [] false false none, .table [] false false none, [], false⟩

/-- The open table put in its place. An element of an array of tables is appended to it; a
table takes the place of one made on the way to a deeper header; any other table or value of
the same name is a duplicate. -/
def close (t : Tables) : Except Problem Node :=
  match t.path.getLast? with
  | none => .ok t.current
  | some key =>
    let parent := t.path.dropLast
    let dup := Problem.duplicateKey (Key.shown key.name) (some (parent.map (·.name)))
    let place := fun (p : Node) => match p with
      | .table entries imp dot span =>
        let put := fun (n : Node) => Except.ok (Node.table (setEntry entries key.name n) imp dot span)
        match entries.lookup key.name, t.isArray, t.current with
        | none, true, c => put (.tables [c] key.span)
        | some (.tables items sp), true, c => put (.tables (items ++ [c]) sp)
        | none, false, c => put c
        | some (.table _ true _ _), false, c => put c
        | _, _, _ => .error dup
      | _ => .error dup
    descend false place parent parent 0 t.root

/-- A header opens a new table once the open one is in its place. The table it names is looked
up at once, so that a table defined twice is reported at its second header. Only a table made
on the way to a deeper header may be opened by a header again: it keeps what it holds and moves
to the end of its parent when it is closed. The first element of an array of tables makes the
array. -/
def header (t : Tables) (path : List Key) (isArray : Bool) (span : Span) : Except Problem Tables := do
  let root ← t.close
  let parent := path.dropLast
  let opened := fun (entries : List (String × Node)) => Node.table entries false false (some span)
  match path.getLast? with
  | none => pure ⟨root, opened [], path, isArray⟩
  | some key =>
    let dup := Problem.duplicateKey (Key.shown key.name) (some (parent.map (·.name)))
    let existing := fun (p : Node) => match p with
      | .table entries _ _ _ => entries.lookup key.name
      | _ => none
    let look := fun (p : Node) => match p, existing p, isArray with
      | .table entries imp dot sp, none, true => .ok (.table (entries ++ [(key.name, .tables [] key.span)]) imp dot sp)
      | p, none, false => .ok p
      | p, some (.tables _ _), true => .ok p
      | .table entries imp dot sp, some (.table _ true false _), false =>
        .ok (.table (entries.filter (·.1 != key.name)) imp dot sp)
      | _, _, _ => .error dup
    let root' ← descend false look parent parent 0 root
    let kept := match isArray, (reached parent root).bind existing with
      | false, some (.table entries true false _) => entries
      | _, _ => []
    pure ⟨root', opened kept, path, isArray⟩

/-- A key-value pair of the open table. The table's span grows to the end of the value. -/
def keyval (t : Tables) (keys : List Key) (v : Value) (vspan : Span) : Except Problem Tables :=
  match keys.getLast? with
  | none => .ok t
  | some key =>
    let path := keys.dropLast
    let current := match t.current with
      | .table entries imp dot (some sp) => .table entries imp dot (some ⟨sp.start, vspan.stop⟩)
      | c => c
    let insert := insertKey (!path.isEmpty) key v (some (t.path.map (·.name)))
    (descend true insert path path 0 current).map fun c => { t with current := c }

end Tables

/-- `table = std-table / array-table` at `i`: the keys, whether it opens an element of an
array of tables, its span and the position after its line. Telling the two apart looks at two
bytes, so a bracket that ends the text is no header. -/
def header (s : Input) (i : Nat) : Except Failure (List Key × Bool × Span × Nat) :=
  (do
    if s.size < i + 2 then throw (Failure.stuck i)
    let isArray := s[i + 1]? == some 0x5B
    let start := if isArray then i + 2 else i + 1
    let (keys, j) ← committed (key s start)
    let close : List UInt8 := if isArray then [0x5D, 0x5D] else [0x5D]
    if !startsWith s j close then
      throw ((Failure.stuck j).final.expecting "`.`" |>.expecting (if isArray then "`]]`" else "`]`"))
    let k := j + close.length
    let m ← lineTrailing s k
    pure (keys, isArray, (⟨i, k⟩ : Span), m)).mapError (Failure.labelled "table header")

/-- `keyval = key keyval-sep val` at `i`, with the rest of its line: the keys, the value and
its span, and the position after the line. -/
def keyval (s : Input) (i : Nat) : Except Failure (List Key × Value × Span × Nat) := do
  let (keys, j) ← committed (key s i)
  if s[j]? != some 0x3D then throw ((Failure.stuck j).final.expecting "`.`" |>.expecting "`=`")
  let k := ws s (j + 1)
  let (v, e) ← committed (value s 0 (4 * s.size + 16) k)
  let m ← lineTrailing s e
  pure (keys, v, ⟨k, e⟩, m)

/-- The character at a position, or nothing at the end of the text: what a failure there
points at. -/
def failureSpan (s : Input) (pos : Nat) : Span :=
  match s[pos]? with
  | none => ⟨pos, pos⟩
  | some b => ⟨pos, pos + (if b < 0x80 then 1 else if b < 0xE0 then 2 else if b < 0xF0 then 3 else 4)⟩

def failed {α : Type} (s : Input) (f : Failure) : Except DecodeError α :=
  .error ⟨f.message, some (failureSpan s f.pos)⟩

/-- The lines of the document from `i` on: comments, headers, key-value pairs and blank
lines, each followed by blanks. -/
def lines (s : Input) : Nat → Nat → Tables → Except DecodeError Tables
  | 0, _, t => .ok t
  | fuel + 1, i, t =>
    match s[i]? with
    | none => .ok t
    | some 0x23 =>
      let j := comment s i
      match lineEnding s j with
      | some k => lines s fuel (ws s k) t
      | none => failed s (Failure.stuck j)
    | some 0x5B =>
      match header s i with
      | .error f => failed s f
      | .ok (keys, isArray, span, k) =>
        match t.header keys isArray span with
        | .ok t => lines s fuel (ws s k) t
        | .error p => failed s ((Failure.stuck i).labelled "table header" |>.because p.message)
    | some 0x0A | some 0x0D =>
      match newline s i with
      | some k => lines s fuel (ws s k) t
      | none => failed s (Failure.stuck i)
    | some _ =>
      match keyval s i with
      | .error f => failed s f
      | .ok (keys, v, span, k) =>
        match t.keyval keys v span with
        | .ok t => lines s fuel (ws s k) t
        | .error p => failed s ((Failure.stuck i).because p.message)

/-- The document a text holds, as one table. A table found defined twice only once the whole
text is read is reported without a place. -/
def read (text : String) : Except DecodeError Value := do
  let s := text.toUTF8.data
  let start := if startsWith s 0 [0xEF, 0xBB, 0xBF] then 3 else 0
  let t ← lines s (s.size + 1) (ws s start) Tables.empty
  match t.close with
  | .ok root => pure root.toValue
  | .error p => throw ⟨p.message, none⟩

/-- Line and column, from zero, of a byte offset. The column counts the characters before
the offset on its line, or the bytes when the offset falls inside a character; an offset past
the end lies past the last byte. -/
def position (s : Input) (index : Nat) : Nat × Nat :=
  if s.size = 0 then (0, index)
  else
    let safe := min index (s.size - 1)
    let before := (s.extract 0 safe).toList
    let lineStart := before.length - (before.reverse.takeWhile (· != 0x0A)).length
    let line := ((s.extract 0 lineStart).toList.filter (· == 0x0A)).length
    let boundary := match s[safe + 1]? with
      | some b => b < 0x80 || 0xC0 ≤ b
      | none => true
    let column :=
      if boundary then ((s.extract lineStart (safe + 1)).toList.filter fun b => b < 0x80 || 0xC0 ≤ b).length - 1
      else safe - lineStart
    (line, column + (index - safe))

def spaces (n : Nat) : String := String.ofList (List.replicate n ' ')

/-- The report of an error in a document: where it is, the line it is on with the offending
part underlined, and the message. -/
def report (text : String) (e : DecodeError) : String :=
  match e.span with
  | none => e.message ++ "\n"
  | some sp =>
    let (line, column) := position text.toUTF8.data sp.start
    let number := toString (line + 1)
    let content := ((text.splitOn "\n")[line]?).getD ""
    let width := min (sp.stop - sp.start) (content.utf8ByteSize - column)
    let col := column + 1
    s!"TOML parse error at line {number}, column {col}\n" ++ spaces (number.length + 1) ++ "|\n" ++
      number ++ " | " ++ content ++ "\n" ++ spaces (number.length + 1) ++ "|" ++ spaces col ++
      String.ofList (List.replicate (max width 1) '^') ++ "\n" ++ e.message ++ "\n"

end Toml

/-- The configuration a TOML text describes, then validated. A text that is no TOML, or does
not describe a configuration, is reported with the place of the error. -/
def configOfToml (text : String) : Except WalletError Config := do
  let parsed := match Toml.read text with
    | .ok v => readConfig tomlDialect v
    | .error e => .error e
  match parsed with
  | .ok c =>
    c.validate
    pure c
  | .error e =>
    let shown := Toml.report text e
    throw (.config s!"Failed to parse config: {shown}")

end Settings

end DagWallet
