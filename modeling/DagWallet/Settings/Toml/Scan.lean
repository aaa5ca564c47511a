import DagWallet.Settings.Document
namespace DagWallet

namespace Settings

namespace Toml

/-- The text being read, as UTF-8 bytes; positions are byte offsets. -/
abbrev Input := Array UInt8

/-- Why the grammar refused the text. `pos` is where reading stopped, `label` names the
innermost construct that failed, `expected` lists what would have fitted, innermost first,
and `cause` is a reason beyond the grammar. A `cut` failure is final: no other alternative is
tried after it. -/
structure Failure where
  pos : Nat
  label : Option String
  expected : List String
  cause : Option String
  cut : Bool

namespace Failure

/-- A failure at `pos` that says nothing yet. -/
def stuck (pos : Nat) : Failure := ⟨pos, none, [], none, false⟩

/-- Names the construct that failed, unless an inner one is named already. -/
def labelled (l : String) (f : Failure) : Failure := { f with label := f.label <|> some l }

/-- Adds what would have fitted. -/
def expecting (e : String) (f : Failure) : Failure := { f with expected := f.expected ++ [e] }

def because (c : String) (f : Failure) : Failure := { f with cause := some c }

/-- The failure made final. -/
def final (f : Failure) : Failure := { f with cut := true }

/-- The message: the construct, what was expected, and the cause, one per line. -/
def message (f : Failure) : String :=
  let parts := (f.label.map fun l => "invalid " ++ l).toList ++
    (if f.expected.isEmpty then [] else ["expected " ++ ", ".intercalate f.expected]) ++
    f.cause.toList
  "\n".intercalate parts

end Failure

/-- `wschar = %x20 / %x09` -/
def isWs (b : UInt8) : Bool := b == 0x20 || b == 0x09

def isDigit (b : UInt8) : Bool := 0x30 ≤ b && b ≤ 0x39

def isHexDigit (b : UInt8) : Bool :=
  isDigit b || (0x41 ≤ b && b ≤ 0x46) || (0x61 ≤ b && b ≤ 0x66)

def isNonAscii (b : UInt8) : Bool := 0x80 ≤ b

/-- `non-eol = %x09 / %x20-7E / non-ascii` -/
def isNonEol (b : UInt8) : Bool := b == 0x09 || (0x20 ≤ b && b ≤ 0x7E) || isNonAscii b

/-- `unquoted-key = 1*( ALPHA / DIGIT / %x2D / %x5F )` -/
def isKeyChar (b : UInt8) : Bool :=
  isDigit b || (0x41 ≤ b && b ≤ 0x5A) || (0x61 ≤ b && b ≤ 0x7A) || b == 0x2D || b == 0x5F

/-- `basic-unescaped = wschar / %x21 / %x23-5B / %x5D-7E / non-ascii` -/
def isBasicUnescaped (b : UInt8) : Bool :=
  isWs b || b == 0x21 || (0x23 ≤ b && b ≤ 0x5B) || (0x5D ≤ b && b ≤ 0x7E) || isNonAscii b

/-- `literal-char = %x09 / %x20-26 / %x28-7E / non-ascii` -/
def isLiteralChar (b : UInt8) : Bool :=
  b == 0x09 || (0x20 ≤ b && b ≤ 0x26) || (0x28 ≤ b && b ≤ 0x7E) || isNonAscii b

/-- The first position from `i` on whose byte `p` refuses. -/
def skipWhile (s : Input) (p : UInt8 → Bool) (i : Nat) : Nat :=
  if h : i < s.size then
    if p s[i] then skipWhile s p (i + 1) else i
  else i
termination_by s.size - i

/-- Whether the bytes of `lit` stand at `i`. -/
def startsWith (s : Input) (i : Nat) (lit : List UInt8) : Bool :=
  lit.zipIdx.all fun (b, k) => s[i + k]? == some b

/-- `ws = *wschar` -/
def ws (s : Input) (i : Nat) : Nat := skipWhile s isWs i

/-- `comment = comment-start-symbol *non-eol`, from the `#` at `i`. -/
def comment (s : Input) (i : Nat) : Nat := skipWhile s isNonEol (i + 1)

/-- `newline = %x0A / %x0D.0A`: the position after it. -/
def newline (s : Input) (i : Nat) : Option Nat :=
  match s[i]?, s[i + 1]? with
  | some 0x0A, _ => some (i + 1)
  | some 0x0D, some 0x0A => some (i + 2)
  | _, _ => none

/-- A newline or the end of the text. -/
def lineEnding (s : Input) (i : Nat) : Option Nat :=
  match newline s i with
  | some j => some j
  | none => if i = s.size then some i else none

/-- Blanks, an optional comment and the end of the line, after a value or a header. -/
def lineTrailing (s : Input) (i : Nat) : Except Failure Nat :=
  let j := ws s i
  let j := if s[j]? == some 0x23 then comment s j else j
  match lineEnding s j with
  | some k => .ok k
  | none => .error ((Failure.stuck j).final.expecting "newline" |>.expecting "`#`")

/-- Blanks, newlines and comments, as between the elements of an array. A comment must end
with a newline; where none follows, the failure lies after the byte that stands in its place. -/
def wsCommentNewline (s : Input) : Nat → Nat → Except Failure Nat
  | 0, i => .ok i
  | fuel + 1, i =>
    let j := ws s i
    let past := fun (k : Nat) => Failure.stuck (if k < s.size then k + 1 else k)
    match s[j]? with
    | some 0x23 =>
      let k := comment s j
      match newline s k with
      | some m => wsCommentNewline s fuel m
      | none => .error (past k)
    | some 0x0A | some 0x0D =>
      match newline s j with
      | some m => wsCommentNewline s fuel m
      | none => .error (past j)
    | _ => .ok j

/-- The text of bytes copied from a valid text. -/
def utf8Text (bytes : Array UInt8) : String :=
  (String.fromUTF8? (ByteArray.mk bytes)).getD ""

/-- The bytes of a Unicode scalar value, if the number is one. -/
def scalarBytes (v : Nat) : Option (Array UInt8) :=
  if v < 0xD800 ∨ (0xE000 ≤ v ∧ v ≤ 0x10FFFF) then some (Char.ofNat v).toString.toUTF8.data
  else none

/-- A count of hexadecimal digits from `k` on, at most `n`, and their value. -/
def hexRun (s : Input) (k : Nat) : Nat → Nat × Nat
  | 0 => (0, 0)
  | n + 1 =>
    match s[k]? with
    | some b =>
      if isHexDigit b then
        let d := if isDigit b then b.toNat - 0x30 else (b.toNat ||| 0x20) - 0x61 + 10
        let (count, v) := hexRun s (k + 1) n
        (count + 1, d * Nat.pow 16 count + v)
      else (0, 0)
    | none => (0, 0)

/-- `escape-seq-char` after a backslash, at `i`: the bytes it stands for and the position
after it; nothing at the end of the text. -/
def escape (s : Input) (i : Nat) : Except Failure (Option (Array UInt8 × Nat)) :=
  let one := fun (b : UInt8) => Except.ok (some (#[b], i + 1))
  let unicode := fun (n : Nat) (name : String) =>
    let (count, v) := hexRun s (i + 1) n
    let f := (Failure.stuck (i + 1)).final.labelled name
    if count ≠ n then Except.error f
    else match scalarBytes v with
      | some bytes => Except.ok (some (bytes, i + 1 + n))
      | none => Except.error (f.because "value is out of range")
  match s[i]? with
  | none => .ok none
  | some 0x62 => one 0x08
  | some 0x66 => one 0x0C
  | some 0x6E => one 0x0A
  | some 0x72 => one 0x0D
  | some 0x74 => one 0x09
  | some 0x5C => one 0x5C
  | some 0x22 => one 0x22
  | some 0x75 => unicode 4 "unicode 4-digit hex code"
  | some 0x55 => unicode 8 "unicode 8-digit hex code"
  | some _ =>
    .error ((["`b`", "`f`", "`n`", "`r`", "`t`", "`u`", "`U`", "`\\`", "`\"`"].foldl
      (fun f e => f.expecting e) ((Failure.stuck (i + 1)).final.labelled "escape sequence")))

/-- `*basic-char` from `i`, appended to `acc`. -/
def basicChars (s : Input) : Nat → Nat → Array UInt8 → Except Failure (Array UInt8 × Nat)
  | 0, i, acc => .ok (acc, i)
  | fuel + 1, i, acc =>
    match s[i]? with
    | none => .ok (acc, i)
    | some b =>
      if isBasicUnescaped b then
        let j := skipWhile s isBasicUnescaped i
        basicChars s fuel j (acc ++ s.extract i j)
      else if b == 0x5C then
        match escape s (i + 1) with
        | .ok (some (bytes, j)) => basicChars s fuel j (acc ++ bytes)
        | .ok none => .ok (acc, i)
        | .error f => .error f
      else .ok (acc, i)

/-- `basic-string = quotation-mark *basic-char quotation-mark`, from the quote at `i`. -/
def basicString (s : Input) (i : Nat) : Except Failure (String × Nat) := do
  let (bytes, j) ← basicChars s (s.size + 1) (i + 1) #[]
  if s[j]? == some 0x22 then pure (utf8Text bytes, j + 1)
  else throw ((Failure.stuck j).final.labelled "basic string")

/-- `mlb-escaped-nl`: a backslash, blanks and at least one newline, then any blanks and
newlines; the position after them. -/
def escapedNewline (s : Input) (i : Nat) : Option Nat :=
  if s[i]? != some 0x5C then none
  else
    match newline s (ws s (i + 1)) with
    | none => none
    | some j => some (wsCommentBlank s (s.size + 1) j)
where
  /-- Blanks and newlines. -/
  wsCommentBlank (s : Input) : Nat → Nat → Nat
    | 0, i => i
    | fuel + 1, i =>
      match s[i]? with
      | some b =>
        if isWs b then wsCommentBlank s fuel (i + 1)
        else match newline s i with
          | some j => wsCommentBlank s fuel j
          | none => i
      | none => i

/-- `mlb-content`: one run of unescaped characters, an escaped newline, an escape, or a
newline; nothing when none stands at `i`. -/
def mlbContent (s : Input) (i : Nat) : Except Failure (Option (Array UInt8 × Nat)) :=
  match s[i]? with
  | none => .ok none
  | some b =>
    if isBasicUnescaped b then .ok (some (s.extract i (skipWhile s isBasicUnescaped i),
      skipWhile s isBasicUnescaped i))
    else
      match escapedNewline s i with
      | some j => .ok (some (#[], j))
      | none =>
        if b == 0x5C then escape s (i + 1)
        else match newline s i with
          | some j => .ok (some (#[0x0A], j))
          | none => .ok none

/-- Runs of `mlb-content` from `i`, appended to `acc`. -/
def mlbContents (s : Input) : Nat → Nat → Array UInt8 → Except Failure (Array UInt8 × Nat)
  | 0, i, acc => .ok (acc, i)
  | fuel + 1, i, acc =>
    match mlbContent s i with
    | .ok (some (bytes, j)) => mlbContents s fuel j (acc ++ bytes)
    | .ok none => .ok (acc, i)
    | .error f => .error f

/-- One or two quotes at `i` followed by what `follows` accepts. -/
def quotes (s : Input) (q : UInt8) (follows : Nat → Bool) (i : Nat) : Option (Nat × Nat) :=
  if s[i]? == some q && s[i + 1]? == some q && follows (i + 2) then some (2, i + 2)
  else if s[i]? == some q && follows (i + 1) then some (1, i + 1)
  else none

/-- `ml-basic-body`: content, quotes followed by more content, and quotes right before the
closing delimiter. -/
def mlBasicBody (s : Input) : Nat → Nat → Array UInt8 → Except Failure (Array UInt8 × Nat)
  | 0, i, acc => .ok (acc, i)
  | fuel + 1, i, acc => do
    let (acc, i) ← mlbContents s (s.size + 1) i acc
    let other := fun (k : Nat) => match s[k]? with
      | some b => b != 0x22
      | none => false
    match quotes s 0x22 other i with
    | some (n, j) =>
      match mlbContent s j with
      | .ok (some _) => mlBasicBody s fuel j (acc ++ Array.replicate n 0x22)
      | .ok none => pure (acc, j)
      | .error f => throw f
    | none =>
      match quotes s 0x22 (fun k => startsWith s k [0x22, 0x22, 0x22]) i with
      | some (n, j) => pure (acc ++ Array.replicate n 0x22, j)
      | none => pure (acc, i)

/-- `ml-basic-string`, from the delimiter at `i`. -/
def mlBasicString (s : Input) (i : Nat) : Except Failure (String × Nat) := do
  let start := (newline s (i + 3)).getD (i + 3)
  let (bytes, j) ← (mlBasicBody s (s.size + 1) start #[]).mapError
    (Failure.labelled "multiline basic string")
  if startsWith s j [0x22, 0x22, 0x22] then pure (utf8Text bytes, j + 3)
  else throw ((Failure.stuck j).final.labelled "multiline basic string")

/-- `literal-string = apostrophe *literal-char apostrophe`, from the apostrophe at `i`. -/
def literalString (s : Input) (i : Nat) : Except Failure (String × Nat) :=
  let j := skipWhile s isLiteralChar (i + 1)
  if s[j]? == some 0x27 then .ok (utf8Text (s.extract (i + 1) j), j + 1)
  else .error ((Failure.stuck j).final.labelled "literal string")

/-- `mll-content = mll-char / newline`: the position after it. -/
def mllContent (s : Input) (i : Nat) : Option Nat :=
  match s[i]? with
  | some b => if isLiteralChar b then some (i + 1) else newline s i
  | none => none

/-- Runs of `mll-content` from `i`. -/
def mllContents (s : Input) : Nat → Nat → Nat
  | 0, i => i
  | fuel + 1, i =>
    match mllContent s i with
    | some j => mllContents s fuel j
    | none => i

/-- `ml-literal-body`: the position after it. -/
def mlLiteralBody (s : Input) : Nat → Nat → Nat
  | 0, i => i
  | fuel + 1, i =>
    let i := mllContents s (s.size + 1) i
    let other := fun (k : Nat) => match s[k]? with
      | some b => b != 0x27
      | none => false
    match quotes s 0x27 other i with
    | some (_, j) =>
      match mllContent s j with
      | some _ => mlLiteralBody s fuel j
      | none => closing i
    | none => closing i
where
  /-- Quotes right before the closing delimiter. -/
  closing (i : Nat) : Nat :=
    match quotes s 0x27 (fun k => startsWith s k [0x27, 0x27, 0x27]) i with
    | some (_, j) => j
    | none => i

/-- The bytes with every carriage return before a line feed left out. -/
def joinLines : List UInt8 → List UInt8
  | 0x0D :: 0x0A :: rest => 0x0A :: joinLines rest
  | b :: rest => b :: joinLines rest
  | [] => []

/-- `ml-literal-string`, from the delimiter at `i`. -/
def mlLiteralString (s : Input) (i : Nat) : Except Failure (String × Nat) :=
  let start := (newline s (i + 3)).getD (i + 3)
  let j := mlLiteralBody s (s.size + 1) start
  if startsWith s j [0x27, 0x27, 0x27] then
    .ok (utf8Text (joinLines (s.extract start j).toList).toArray, j + 3)
  else .error ((Failure.stuck j).final.labelled "multiline literal string")

/-- `string = ml-basic-string / basic-string / ml-literal-string / literal-string`, from the
quote at `i`. -/
def string (s : Input) (i : Nat) : Except Failure (String × Nat) :=
  if startsWith s i [0x22, 0x22, 0x22] then mlBasicString s i
  else if s[i]? == some 0x22 then basicString s i
  else if startsWith s i [0x27, 0x27, 0x27] then mlLiteralString s i
  else literalString s i

/-- A key as it is meant, and where it is written. -/
structure Key where
  name : String
  span : Span

/-- Whether a character may stand in a bare key. -/
def isBareKeyChar (c : Char) : Bool :=
  c.isAlphanum || c == '_' || c == '-'

/-- A character of a basic string as it is written, escaped where it must be or may be
shorter. -/
def basicEscape (c : Char) : String :=
  match c with
  | '\x08' => "\\b"
  | '\t' => "\\t"
  | '\n' => "\\n"
  | '\x0c' => "\\f"
  | '\r' => "\\r"
  | '"' => "\\\""
  | '\\' => "\\\\"
  | c =>
    if c.toNat ≤ 0x1F || c.toNat == 0x7F then
      let hex := Nat.toDigits 16 c.toNat |>.map Char.toUpper
      "\\u" ++ String.ofList (List.replicate (4 - hex.length) '0' ++ hex)
    else c.toString

/-- Whether a literal string shows the text: only for a text with a backslash, which a basic
string would have to double, and without control characters other than tab and newline,
three quotes in a row or a quote at its end. -/
def literalFits (cs : List Char) : Bool :=
  cs.contains '\\' &&
  cs.all (fun c => c == '\t' || c == '\n' || 0x1F < c.toNat) &&
  !(cs.getLast? == some '\'') &&
  !((cs.zip (cs.drop 1)).zip (cs.drop 2)).any fun ((a, b), c) => a == '\'' && b == '\'' && c == '\''

/-- How a key is shown when a message names it: bare when it can be, else as a literal string
when that fits, else as a basic string. -/
def Key.shown (name : String) : String :=
  let cs := name.toList
  if !cs.isEmpty && cs.all isBareKeyChar then name
  else if literalFits cs then "'" ++ name ++ "'"
  else "\"" ++ String.join (cs.map basicEscape) ++ "\""

/-- `simple-key = quoted-key / unquoted-key`, at `i`. -/
def simpleKey (s : Input) (i : Nat) : Except Failure (Key × Nat) := do
  let (name, j) ← match s[i]? with
    | some 0x22 => basicString s i
    | some 0x27 => literalString s i
    | some b =>
      if isKeyChar b then
        let j := skipWhile s isKeyChar i
        pure (utf8Text (s.extract i j), j)
      else throw (Failure.stuck i)
    | none => throw (Failure.stuck i)
  pure (⟨name, ⟨i, j⟩⟩, j)

/-- More keys after dots, from `i`, appended to `acc`. A dot that no key follows is left
unread. -/
def dottedKeys (s : Input) : Nat → Nat → Array Key → Except Failure (Array Key × Nat)
  | 0, i, acc => .ok (acc, i)
  | fuel + 1, i, acc =>
    if s[i]? != some 0x2E then .ok (acc, i)
    else
      match simpleKey s (ws s (i + 1)) with
      | .ok (k, j) => dottedKeys s fuel (ws s j) (acc.push k)
      | .error f => if f.cut then .error f else .ok (acc, i)

/-- Containers around a value, and parts of a dotted key, stay below this many. -/
def nestingLimit : Nat := 80

/-- The failure of reaching the nesting limit at `pos`. -/
def Failure.tooDeep (pos : Nat) : Failure := (Failure.stuck pos).because "recursion limit exceeded"

/-- `key = simple-key / dotted-key`, with the blanks around its parts. A key of as many parts
as the nesting limit fails where it starts. -/
def key (s : Input) (i : Nat) : Except Failure (List Key × Nat) :=
  match simpleKey s (ws s i) with
  | .ok (k, j) =>
    match dottedKeys s (s.size + 1) (ws s j) #[k] with
    | .ok (keys, j) =>
      if nestingLimit ≤ keys.size then .error (Failure.tooDeep i) else .ok (keys.toList, j)
    | .error f => .error (f.labelled "key")
  | .error f => .error (f.labelled "key")

end Toml

end Settings

end DagWallet
