import DagWallet.Settings.Toml.Scan
import DagWallet.Settings.Document

namespace DagWallet

namespace Settings

namespace Toml

/-- Why a table cannot take a key: the table rules of the format, or a limit. -/
inductive Problem where
  | duplicateKey (key : String) (table : Option (List String))
  | extendWrongType (path : List String) (actual : String)
  | outOfRange

def Problem.message : Problem → String
  | .duplicateKey k none => s!"duplicate key `{k}`"
  | .duplicateKey k (some []) => s!"duplicate key `{k}` in document root"
  | .duplicateKey k (some path) =>
    let table := ".".intercalate path
    s!"duplicate key `{k}` in table `{table}`"
  | .extendWrongType path actual =>
    let key := ".".intercalate path
    s!"dotted key `{key}` attempted to extend non-table type ({actual})"
  | .outOfRange => "value is out of range"

/-- A table while it is assembled: a finished value, a table with its entries in order of
definition, or an array of tables. A table records whether it only came into being on the
way to a deeper key (`implicit`), whether by a dotted key, and the text it spans. A table made
on the way, and an array of tables, are placed at the key that made them. -/
inductive Node where
  | leaf (v : Value)
  | table (entries : List (String × Node)) (implicit dotted : Bool) (span : Option Span)
  | tables (items : List Node) (span : Span)

/-- A value with its place, unless it has none. -/
def placed (span : Option Span) (v : Value) : Value :=
  match span with
  | some sp => .spanned sp v
  | none => v

mutual

def Node.toValue : Node → Value
  | .leaf v => v
  | .table entries _ _ span => placed span (.table (entriesToValues entries))
  | .tables items span => .spanned span (.array (nodesToValues items))

def entriesToValues : List (String × Node) → List (String × Value)
  | [] => []
  | (k, n) :: rest => (k, n.toValue) :: entriesToValues rest

def nodesToValues : List Node → List Value
  | [] => []
  | n :: rest => n.toValue :: nodesToValues rest

end

/-- How the format names the type of a value. -/
def typeName (v : Value) : String :=
  match v.bare none with
  | (.str _, _) => "string"
  | (.int _, _) => "integer"
  | (.float _, _) => "float"
  | (.bool _, _) => "boolean"
  | (.datetime _, _) => "datetime"
  | (.array _, _) => "array"
  | (.table _, _) => "inline table"
  | _ => "value"

/-- Replaces the entry of `k`, or appends it. -/
def setEntry (entries : List (String × Node)) (k : String) (n : Node) : List (String × Node) :=
  if entries.any (·.1 == k) then entries.map fun (k', n') => if k' == k then (k, n) else (k', n')
  else entries ++ [(k, n)]

/-- Walks down the keys `path` from table `t` and changes the table reached with `f`.
Missing tables are made on the way; the last table of an array of tables is entered; a value
in the way, or a table defined by a header when the walk follows a dotted key, is refused.
`full` is the whole path and `i` the position of the first key of `path` in it. -/
def descend (dotted : Bool) (f : Node → Except Problem Node) (full : List Key) :
    List Key → Nat → Node → Except Problem Node
  | [], _, t => f t
  | k :: rest, i, .table entries imp dot span => do
    let put := fun (c : Node) => Node.table (setEntry entries k.name c) imp dot span
    match (entries.lookup k.name).getD (.table [] true dotted (some k.span)) with
    | .leaf v => throw (.extendWrongType ((full.take (i + 1)).map (·.name)) (typeName v))
    | .tables items sp =>
      match items.getLast? with
      | some last =>
        let last ← descend dotted f full rest (i + 1) last
        pure (put (.tables (items.dropLast ++ [last]) sp))
      | none => throw (.duplicateKey k.name none)
    | .table ces cimp cdot cspan =>
      if dotted && !cimp then throw (.duplicateKey k.name none)
      else pure (put (← descend dotted f full rest (i + 1) (.table ces cimp cdot cspan)))
  | k :: _, _, _ => throw (.duplicateKey k.name none)

/-- Walks down a dotted key inside an inline table. Tables made on the way are implicit and
dotted; an inline table written out is refused, and so is any other value. -/
def descendInline (f : Node → Except Problem Node) (full : List Key) :
    List Key → Nat → Node → Except Problem Node
  | [], _, t => f t
  | k :: rest, i, .table entries imp dot span => do
    let put := fun (c : Node) => Node.table (setEntry entries k.name c) imp dot span
    match (entries.lookup k.name).getD (.table [] true true (some k.span)) with
    | .leaf v =>
      match v.bare none with
      | (.table _, _) => throw (.duplicateKey k.name none)
      | _ => throw (.extendWrongType ((full.take (i + 1)).map (·.name)) (typeName v))
    | .table ces cimp cdot cspan =>
      if !cimp then throw (.duplicateKey k.name none)
      else pure (put (← descendInline f full rest (i + 1) (.table ces cimp cdot cspan)))
    | .tables _ _ => throw (.duplicateKey k.name none)
  | k :: _, _, _ => throw (.duplicateKey k.name none)

/-- Puts `key = v` into the table reached. A dotted key may not add to a table that was not
made by dotted keys, nor a plain key to one that was; a key may be defined once. -/
def insertKey (dottedPath : Bool) (key : Key) (v : Value) (tablePath : Option (List String)) :
    Node → Except Problem Node
  | .table entries imp dot span =>
    if dot != dottedPath then .error (.duplicateKey key.name none)
    else if entries.any (·.1 == key.name) then .error (.duplicateKey key.name tablePath)
    else .ok (.table (entries ++ [(key.name, .leaf v)]) imp dot span)
  | _ => .error (.duplicateKey key.name none)

/-- An inline table from its key-value pairs, in order. -/
def inlineTable (pairs : List (List Key × Value)) : Except Problem Node :=
  pairs.foldlM (fun t (keys, v) =>
    match keys.getLast? with
    | some key =>
      let path := keys.dropLast
      descendInline (insertKey (!path.isEmpty) key v none) path path 0 t
    | none => .ok t) (.table [] false false none)

/-- The number a run of digits in base `base` stands for, underscores left out. -/
def digitsValue (base : Nat) (digits : List UInt8) : Nat :=
  digits.foldl (fun acc b =>
    if b == 0x5F then acc
    else acc * base + (if isDigit b then b.toNat - 0x30 else (b.toNat ||| 0x20) - 0x61 + 10)) 0

/-- Digits of a class with single underscores between them, after the first digit at `i`.
An underscore must be followed by a digit. -/
def digitRun (s : Input) (digit : UInt8 → Bool) : Nat → Nat → Except Failure Nat
  | 0, i => .ok i
  | fuel + 1, i =>
    match s[i]? with
    | some b =>
      if digit b then digitRun s digit fuel (i + 1)
      else if b == 0x5F then
        match s[i + 1]? with
        | some c =>
          if digit c then digitRun s digit fuel (i + 2)
          else .error ((Failure.stuck (i + 1)).final.expecting "digit")
        | none => .error ((Failure.stuck (i + 1)).final.expecting "digit")
      else .ok i
    | none => .ok i

/-- `dec-int = [ minus / plus ] unsigned-dec-int`: the position after it. -/
def decInt (s : Input) (i : Nat) : Except Failure Nat :=
  let k := match s[i]? with
    | some 0x2B => i + 1
    | some 0x2D => i + 1
    | _ => i
  (match s[k]? with
    | some b =>
      if 0x31 ≤ b && b ≤ 0x39 then digitRun s isDigit (s.size + 1) (k + 1)
      else if b == 0x30 then .ok (k + 1)
      else .error (Failure.stuck k)
    | none => .error (Failure.stuck k)).mapError (Failure.labelled "integer")

/-- `zero-prefixable-int = DIGIT *( DIGIT / underscore DIGIT )`. -/
def zeroPrefixableInt (s : Input) (i : Nat) : Except Failure Nat :=
  match s[i]? with
  | some b => if isDigit b then digitRun s isDigit (s.size + 1) (i + 1) else .error (Failure.stuck i)
  | none => .error (Failure.stuck i)

/-- `exp = "e" float-exp-part`. -/
def exponent (s : Input) (i : Nat) : Except Failure Nat :=
  match s[i]? with
  | some 0x65 | some 0x45 =>
    let k := match s[i + 1]? with
      | some 0x2B => i + 2
      | some 0x2D => i + 2
      | _ => i + 1
    (zeroPrefixableInt s k).mapError Failure.final
  | _ => .error (Failure.stuck i)

/-- `frac = decimal-point zero-prefixable-int`. -/
def fraction (s : Input) (i : Nat) : Except Failure Nat :=
  if s[i]? == some 0x2E then
    (zeroPrefixableInt s (i + 1)).mapError fun f => f.final.expecting "digit"
  else .error (Failure.stuck i)

/-- A failure stops the alternatives when it is final; otherwise the next one is tried. -/
def alternatively {α : Type} (x : Except Failure α) (y : Unit → Except Failure α) : Except Failure α :=
  match x with
  | .error f => if f.cut then .error f else y ()
  | ok => ok

/-- The value of a decimal float text: sign, digits, fraction and exponent. -/
def decimalFloat (text : List UInt8) : Float :=
  let text := text.filter (· != 0x5F)
  let (negative, text) := match text with
    | 0x2D :: rest => (true, rest)
    | 0x2B :: rest => (false, rest)
    | rest => (false, rest)
  let whole := text.takeWhile isDigit
  let rest := text.drop whole.length
  let frac := match rest with
    | 0x2E :: more => more.takeWhile isDigit
    | _ => []
  let rest := match rest with
    | 0x2E :: more => more.drop frac.length
    | more => more
  let exp : Int := match rest with
    | _ :: 0x2D :: digits => -(digitsValue 10 digits : Int)
    | _ :: 0x2B :: digits => digitsValue 10 digits
    | _ :: digits => digitsValue 10 digits
    | [] => 0
  let m := digitsValue 10 (whole ++ frac)
  let e := exp - frac.length
  let x := if e < 0 then Float.ofScientific m true e.natAbs else Float.ofScientific m false e.toNat
  if negative then -x else x

/-- `special-float = [ minus / plus ] ( inf / nan )`. -/
def specialFloat (s : Input) (i : Nat) : Except Failure (Float × Nat) :=
  let (negative, k) := match s[i]? with
    | some 0x2B => (false, i + 1)
    | some 0x2D => (true, i + 1)
    | _ => (false, i)
  let sign := fun (x : Float) => if negative then -x else x
  if startsWith s k [0x69, 0x6E, 0x66] then .ok (sign (1.0 / 0.0), k + 3)
  else if startsWith s k [0x6E, 0x61, 0x6E] then .ok (sign (0.0 / 0.0), k + 3)
  else .error (Failure.stuck k)

/-- `float = float-int-part ( exp / frac [ exp ] ) / special-float`. A value too large for
a float is refused. -/
def float (s : Input) (i : Nat) : Except Failure (Float × Nat) :=
  (alternatively
    (do
      let j ← decInt s i
      let k ← alternatively (exponent s j) fun _ => do
        let k ← fraction s j
        alternatively (exponent s k) fun _ => pure k
      let x := decimalFloat (s.extract i k).toList
      if x == 1.0 / 0.0 then throw (Failure.stuck i).final else pure (x, k))
    fun _ => specialFloat s i).mapError (Failure.labelled "floating-point number")

/-- A 64-bit signed integer, or the reason it does not fit. -/
def signed64 (n : Int) (pos : Nat) : Except Failure Int :=
  if n ≥ 9223372036854775808 then .error ((Failure.stuck pos).final.because "number too large to fit in target type")
  else if n < -9223372036854775808 then
    .error ((Failure.stuck pos).final.because "number too small to fit in target type")
  else .ok n

/-- `hex-int`, `oct-int` or `bin-int` after its prefix at `i`. -/
def prefixedInt (s : Input) (i : Nat) (base : Nat) (digit : UInt8 → Bool) (name : String) :
    Except Failure (Int × Nat) := do
  let digits : Except Failure Nat := match s[i + 2]? with
    | some b => if digit b then digitRun s digit (s.size + 1) (i + 3) else .error (Failure.stuck (i + 2))
    | none => .error (Failure.stuck (i + 2))
  let j ← digits.mapError fun f => f.final.labelled name
  let n ← signed64 (digitsValue base (s.extract (i + 2) j).toList) i
  pure (n, j)

/-- `integer = dec-int / hex-int / oct-int / bin-int`, a signed 64-bit number. -/
def integer (s : Input) (i : Nat) : Except Failure (Int × Nat) :=
  if startsWith s i [0x30, 0x78] then prefixedInt s i 16 isHexDigit "hexadecimal integer"
  else if startsWith s i [0x30, 0x6F] then
    prefixedInt s i 8 (fun b => 0x30 ≤ b && b ≤ 0x37) "octal integer"
  else if startsWith s i [0x30, 0x62] then
    prefixedInt s i 2 (fun b => b == 0x30 || b == 0x31) "binary integer"
  else do
    let j ← decInt s i
    let text := (s.extract i j).toList
    let magnitude : Int := digitsValue 10 (text.filter isDigit)
    let n ← signed64 (if text.head? == some 0x2D then -magnitude else magnitude) i
    pure (n, j)

/-- Exactly two digits at `i` and their value, if it lies in `lo..hi`. A value out of the
range fails with the reason. -/
def twoDigits (s : Input) (i : Nat) (lo hi : Nat) : Except Failure (Nat × Nat) :=
  match s[i]?, s[i + 1]? with
  | some a, some b =>
    if isDigit a && isDigit b then
      let v := (a.toNat - 0x30) * 10 + (b.toNat - 0x30)
      if lo ≤ v ∧ v ≤ hi then .ok (v, i + 2)
      else .error ((Failure.stuck i).because "value is out of range")
    else .error (Failure.stuck i)
  | _, _ => .error (Failure.stuck i)

def committed {α : Type} (x : Except Failure α) : Except Failure α := x.mapError Failure.final

/-- `partial-time = time-hour ":" time-minute ":" time-second [ time-secfrac ]`. -/
def partialTime (s : Input) (i : Nat) : Except Failure Nat := do
  let (_, j) ← twoDigits s i 0 23
  if s[j]? != some 0x3A then throw (Failure.stuck j)
  let (_, j) ← committed (twoDigits s (j + 1) 0 59)
  if s[j]? != some 0x3A then throw (Failure.stuck j).final
  let (_, j) ← committed (twoDigits s (j + 1) 0 60)
  if s[j]? == some 0x2E then
    match s[j + 1]? with
    | some b => if isDigit b then pure (skipWhile s isDigit (j + 1)) else pure j
    | none => pure j
  else pure j

/-- `time-offset = "Z" / ( "+" / "-" ) time-hour ":" time-minute`. -/
def timeOffset (s : Input) (i : Nat) : Except Failure Nat :=
  let offset : Except Failure Nat := match s[i]? with
    | some 0x5A | some 0x7A => .ok (i + 1)
    | some 0x2B | some 0x2D => committed do
      let (_, j) ← twoDigits s (i + 1) 0 23
      if s[j]? != some 0x3A then throw (Failure.stuck j)
      let (_, j) ← twoDigits s (j + 1) 0 59
      pure j
    | _ => .error (Failure.stuck i)
  offset.mapError (Failure.labelled "time offset")

/-- The days of a month. -/
def daysIn (year month : Nat) : Nat :=
  if month = 2 then (if year % 4 = 0 ∧ (year % 100 ≠ 0 ∨ year % 400 = 0) then 29 else 28)
  else if month = 4 ∨ month = 6 ∨ month = 9 ∨ month = 11 then 30 else 31

/-- `full-date [ time-delim partial-time [ time-offset ] ]`. -/
def dateTime (s : Input) (i : Nat) : Except Failure Nat :=
  (do
    let j := skipWhile s isDigit i
    if j < i + 4 then throw (Failure.stuck i)
    let year := digitsValue 10 (s.extract i (i + 4)).toList
    if s[i + 4]? != some 0x2D then throw (Failure.stuck (i + 4))
    let (month, j) ← committed (twoDigits s (i + 5) 1 12)
    if s[j]? != some 0x2D then throw (Failure.stuck j).final
    let (day, j) ← committed (twoDigits s (j + 1) 1 31)
    if day > daysIn year month then
      throw ((Failure.stuck (j - 2)).final.because "value is out of range")
    match s[j]? with
    | some 0x54 | some 0x74 | some 0x20 =>
      match partialTime s (j + 1) with
      | .ok k => alternatively (timeOffset s k) fun _ => pure k
      | .error f => if f.cut then throw f else pure j
    | _ => pure j).mapError (Failure.labelled "date-time")

/-- A date-time, a float or an integer, tried in this order, from a sign or a digit. -/
def number (s : Input) (i : Nat) : Except Failure (Value × Nat) :=
  alternatively ((dateTime s i).map fun j => (Value.datetime (utf8Text (s.extract i j)), j)) fun _ =>
  alternatively ((partialTime s i).mapError (Failure.labelled "time") |>.map fun j =>
    (Value.datetime (utf8Text (s.extract i j)), j)) fun _ =>
  alternatively ((float s i).map fun (x, j) => (Value.float x, j)) fun _ =>
  (integer s i).map fun (n, j) => (Value.int n, j)

/-- The failure for a value that is no value, as if a string had been meant. -/
def notAValue (f : Failure) : Failure :=
  f.labelled "string" |>.expecting "`\"`" |>.expecting "`'`"

mutual

/-- `val`, at `i`, with its place; `depth` containers around it. -/
def value (s : Input) (depth : Nat) : Nat → Nat → Except Failure (Value × Nat)
  | 0, i => .error (Failure.tooDeep i).final
  | fuel + 1, i =>
    let leaf := fun (r : Except Failure (Value × Nat)) => r.map fun (v, j) => (Value.spanned ⟨i, j⟩ v, j)
    match s[i]? with
    | none => .error (Failure.stuck i)
    | some b =>
      if b == 0x22 || b == 0x27 then leaf ((string s i).map fun (t, j) => (Value.str t, j))
      else if b == 0x5B then
        if nestingLimit ≤ depth + 1 then .error (Failure.tooDeep i).final
        else leaf (array s depth fuel i)
      else if b == 0x7B then
        if nestingLimit ≤ depth + 1 then .error (Failure.tooDeep i).final
        else leaf (inline s depth fuel i)
      else if b == 0x2B || b == 0x2D || isDigit b then leaf (number s i)
      else if b == 0x5F then
        match integer s i with
        | .ok (n, j) => .ok (.spanned ⟨i, j⟩ (.int n), j)
        | .error f => .error (f.expecting "leading digit")
      else if b == 0x2E then
        match float s i with
        | .ok (x, j) => .ok (.spanned ⟨i, j⟩ (.float x), j)
        | .error f => .error (f.expecting "leading digit")
      else if b == 0x74 then
        if startsWith s i [0x74, 0x72, 0x75, 0x65] then .ok (.spanned ⟨i, i + 4⟩ (.bool true), i + 4)
        else .error (notAValue (Failure.stuck i).final)
      else if b == 0x66 then
        if startsWith s i [0x66, 0x61, 0x6C, 0x73, 0x65] then
          .ok (.spanned ⟨i, i + 5⟩ (.bool false), i + 5)
        else .error (notAValue (Failure.stuck i).final)
      else if b == 0x69 || b == 0x6E then
        match specialFloat s i with
        | .ok (x, j) => .ok (.spanned ⟨i, j⟩ (.float x), j)
        | .error _ => .error (notAValue (Failure.stuck i))
      else .error (notAValue (Failure.stuck i))

/-- `array = array-open [ array-values ] ws-comment-newline array-close`, from `[` at `i`.
When the first element fails without being final, the array is read as empty from just after
the bracket; what follows the elements must be blanks, comments and newlines, or the failure is
final. -/
def array (s : Input) (depth : Nat) : Nat → Nat → Except Failure (Value × Nat)
  | 0, i => .error (Failure.tooDeep i).final
  | fuel + 1, i => do
    let (items, j) ← match element s depth fuel (i + 1) with
      | .ok (v, j) => arrayRest s depth fuel j [v]
      | .error f => if f.cut then .error f else .ok ([], i + 1)
    let j := if !items.isEmpty && s[j]? == some 0x2C then j + 1 else j
    let j ← (wsCommentNewline s (s.size + 1) j).mapError Failure.final
    if s[j]? == some 0x5D then pure (.array items, j + 1)
    else throw ((Failure.stuck j).final.labelled "array" |>.expecting "`]`")

/-- `array-value`: one element with the blanks, comments and newlines around it. -/
def element (s : Input) (depth : Nat) : Nat → Nat → Except Failure (Value × Nat)
  | 0, i => .error (Failure.tooDeep i).final
  | fuel + 1, i => do
    let j ← wsCommentNewline s (s.size + 1) i
    let (v, k) ← value s (depth + 1) fuel j
    let m ← wsCommentNewline s (s.size + 1) k
    pure (v, m)

/-- The elements after the first, each after a comma; a comma whose element fails without
being final is left unread. -/
def arrayRest (s : Input) (depth : Nat) : Nat → Nat → List Value → Except Failure (List Value × Nat)
  | 0, i, acc => .ok (acc, i)
  | fuel + 1, i, acc =>
    if s[i]? != some 0x2C then .ok (acc, i)
    else
      match element s depth fuel (i + 1) with
      | .ok (v, j) => arrayRest s depth fuel j (acc ++ [v])
      | .error f => if f.cut then .error f else .ok (acc, i)

/-- `keyval` inside an inline table: the keys, the value, and the position after the blanks
that follow it. -/
def inlineKeyval (s : Input) (depth : Nat) : Nat → Nat → Except Failure ((List Key × Value) × Nat)
  | 0, i => .error (Failure.stuck i)
  | fuel + 1, i => do
    let (keys, j) ← key s i
    if s[j]? != some 0x3D then throw ((Failure.stuck j).final.expecting "`.`" |>.expecting "`=`")
    let (v, k) ← committed (value s (depth + 1) fuel (ws s (j + 1)))
    pure ((keys, v), ws s k)

/-- The key-value pairs after the first, each after a comma. -/
def inlineRest (s : Input) (depth : Nat) : Nat → Nat → List (List Key × Value) →
    Except Failure (List (List Key × Value) × Nat)
  | 0, i, acc => .ok (acc, i)
  | fuel + 1, i, acc =>
    if s[i]? != some 0x2C then .ok (acc, i)
    else
      match inlineKeyval s depth fuel (i + 1) with
      | .ok (kv, j) => inlineRest s depth fuel j (acc ++ [kv])
      | .error f => if f.cut then .error f else .ok (acc, i)

/-- `inline-table = inline-table-open [ inline-table-keyvals ] ws inline-table-close`, from
`\x7b` at `i`. A key defined twice is refused before the closing brace is looked at. -/
def inline (s : Input) (depth : Nat) : Nat → Nat → Except Failure (Value × Nat)
  | 0, i => .error (Failure.tooDeep i).final
  | fuel + 1, i => do
    let (pairs, j) ← match inlineKeyval s depth fuel (i + 1) with
      | .ok (kv, j) => inlineRest s depth fuel j [kv]
      | .error f => if f.cut then .error f else .ok ([], i + 1)
    let j := ws s j
    let t ← match inlineTable pairs with
      | .ok t => pure t
      | .error p => throw ((Failure.stuck (i + 1)).final.because p.message)
    if s[j]? == some 0x7D then pure ((Node.toValue t), j + 1)
    else throw ((Failure.stuck j).final.labelled "inline table" |>.expecting "`\x7d`")

end

end Toml

end Settings

end DagWallet
