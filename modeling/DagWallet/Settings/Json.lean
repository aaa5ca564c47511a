import DagWallet.Settings.Document

/-!
Reading a JSON text into a configuration value. Integers that fit in 64 bits stay integers;
any other number becomes a double by a fixed recipe: the leading digits that fit in an
unsigned 64-bit word are rounded to a double once, and that double is then multiplied or
divided by the power of ten left over. The recipe is not always the nearest double, and
numbers read with it keep exactly that value. Objects keep one entry per name, the last one
written, sorted by name.
-/

namespace DagWallet

namespace Settings

namespace Json

/-- The text being read, as UTF-8 bytes; positions are byte offsets. -/
abbrev Input := Array UInt8

/-- Why a text is no JSON document, and how many bytes were read when reading stopped. -/
structure Failure where
  pos : Nat
  reason : String

/-- The failure with the line and column of the last byte read: lines count from one, and
the column is the number of bytes read on that line. -/
def Failure.message (s : Input) (f : Failure) : String :=
  let before := (s.extract 0 f.pos).toList
  let line := before.count 0x0A + 1
  let column := (before.reverse.takeWhile (· != 0x0A)).length
  s!"{f.reason} at line {line} column {column}"

/-- The largest unsigned 64-bit word. -/
def wordMax : Nat := Nat.pow 2 64 - 1

/-- The bounds of a signed 32-bit exponent. -/
def expMin : Int := -2147483648
def expMax : Int := 2147483647

/-- The double nearest to `n`, a tie going to the even one: the top 64 bits, with one more
bit set when anything below them is not zero, round the same way as `n` does. -/
def nearestFloat (n : Nat) : Float :=
  if n ≤ wordMax then n.toUInt64.toFloat
  else
    let s := n.log2 - 63
    let sticky := if n % Nat.pow 2 s = 0 then 0 else 1
    ((n >>> s) ||| sticky).toUInt64.toFloat.scaleB s

/-- The double nearest to `10 ^ k`. -/
def pow10 (k : Nat) : Float := nearestFloat (Nat.pow 10 k)

def isDigit (b : UInt8) : Bool := 0x30 ≤ b && b ≤ 0x39

def digitAt (s : Input) (i : Nat) : Option Nat :=
  match s[i]? with
  | some b => if isDigit b then some (b - 0x30).toNat else none
  | none => none

def isExpMark (b : Option UInt8) : Bool := b == some 0x65 || b == some 0x45

/-- The position after a run of digits from `i`. -/
def skipDigits (s : Input) (i : Nat) : Nat :=
  if h : i < s.size then
    if isDigit s[i] then skipDigits s (i + 1) else i
  else i
termination_by s.size - i

/-- `significand * 10 ^ exponent` by the recipe: the significand is rounded to a double, then
scaled by a power of ten at most 308 at a time. A product that overflows is out of range; a
quotient may reach zero. -/
def fromParts (positive : Bool) (significand : Nat) (exponent : Int) (pos : Nat) :
    Except Failure Float :=
  let sign := fun (f : Float) => if positive then f else -f
  let rec scale : Nat → Float → Int → Except Failure Float
    | 0, f, _ => .ok (sign f)
    | fuel + 1, f, e =>
      if e.natAbs ≤ 308 then
        if 0 ≤ e then
          let g := f * pow10 e.natAbs
          if g.isInf then .error ⟨pos, "number out of range"⟩ else .ok (sign g)
        else .ok (sign (f / pow10 e.natAbs))
      else if f == 0 then .ok (sign f)
      else if 0 ≤ e then .error ⟨pos, "number out of range"⟩
      else scale fuel (f / pow10 308) (e + 308)
  scale 4 significand.toUInt64.toFloat exponent

/-- The exponent after `e` or `E` at `i`, added to `start` with saturation. An exponent too
large for 32 bits makes the number zero, or out of range when it is positive and the
significand is not zero. -/
def exponentPart (s : Input) (positive : Bool) (significand : Nat) (start : Int) (i : Nat) :
    Except Failure (Float × Nat) :=
  let (positiveExp, j) := match s[i + 1]? with
    | some 0x2B => (true, i + 2)
    | some 0x2D => (false, i + 2)
    | _ => (true, i + 1)
  let finish := fun (k : Nat) (e : Int) =>
    let total := if positiveExp then start + e else start - e
    (fromParts positive significand (max expMin (min expMax total)) k).map (·, k)
  match s[j]? with
  | none => .error ⟨j, "EOF while parsing a value"⟩
  | some b =>
    if !isDigit b then .error ⟨j + 1, "invalid number"⟩
    else
      let rec more : Nat → Nat → Int → Except Failure (Float × Nat)
        | 0, k, e => finish k e
        | fuel + 1, k, e =>
          match digitAt s k with
          | none => finish k e
          | some d =>
            if e * 10 + d > expMax then
              if significand ≠ 0 && positiveExp then .error ⟨k + 1, "number out of range"⟩
              else .ok (if positive then 0.0 else -0.0, skipDigits s (k + 1))
            else more fuel (k + 1) (e * 10 + d)
      more s.size (j + 1) (b - 0x30).toNat

/-- What follows the significand's digits: an exponent, or the end of the number. -/
def afterDigits (s : Input) (positive : Bool) (significand : Nat) (exponent : Int) (i : Nat) :
    Except Failure (Float × Nat) :=
  if isExpMark s[i]? then exponentPart s positive significand exponent i
  else (fromParts positive significand exponent i).map (·, i)

/-- The fraction after the point at `i`. Its digits join the significand while it fits in 64
bits; the digits after that are skipped. At least one digit must follow the point. -/
def fraction (s : Input) (positive : Bool) (significand : Nat) (before : Int) (i : Nat) :
    Except Failure (Float × Nat) :=
  let close := fun (k m : Nat) (after : Int) =>
    if after = 0 then
      if k < s.size then Except.error ⟨k + 1, "invalid number"⟩
      else .error ⟨k, "EOF while parsing a value"⟩
    else afterDigits s positive m (before + after) k
  let rec go : Nat → Nat → Nat → Int → Except Failure (Float × Nat)
    | 0, k, m, after => close k m after
    | fuel + 1, k, m, after =>
      match digitAt s k with
      | none => close k m after
      | some d =>
        if m * 10 + d > wordMax then afterDigits s positive m (before + after) (skipDigits s k)
        else go fuel (k + 1) (m * 10 + d) (after - 1)
  go s.size (i + 1) significand 0

/-- What follows the integer digits: a fraction, an exponent, or the end of a number that
is then a double. -/
def afterInteger (s : Input) (positive : Bool) (significand : Nat) (exponent : Int) (i : Nat) :
    Except Failure (Float × Nat) :=
  if s[i]? == some 0x2E then fraction s positive significand exponent i
  else afterDigits s positive significand exponent i

/-- An integer without fraction or exponent: unsigned when positive, signed when its
magnitude is at most `2^63`, a double otherwise; minus zero is a double. -/
def integerValue (positive : Bool) (significand : Nat) : Value :=
  if positive then .int significand
  else if significand = 0 then .float (-0.0)
  else if significand ≤ Nat.pow 2 63 then .int (-(significand : Int))
  else .float (-significand.toUInt64.toFloat)

/-- A number at `i`. -/
def number (s : Input) (i : Nat) : Except Failure (Value × Nat) :=
  let positive := s[i]? != some 0x2D
  let j := if positive then i else i + 1
  let asFloat := fun (r : Except Failure (Float × Nat)) => r.map fun (f, k) => (Value.float f, k)
  match s[j]? with
  | none => .error ⟨j, "EOF while parsing a value"⟩
  | some 0x30 =>
    if (digitAt s (j + 1)).isSome then .error ⟨j + 2, "invalid number"⟩
    else if s[j + 1]? == some 0x2E || isExpMark s[j + 1]? then asFloat (afterInteger s positive 0 0 (j + 1))
    else .ok (integerValue positive 0, j + 1)
  | some b =>
    if !isDigit b then .error ⟨j + 1, "invalid number"⟩
    else
      let rec go : Nat → Nat → Nat → Except Failure (Value × Nat)
        | 0, k, m => .ok (integerValue positive m, k)
        | fuel + 1, k, m =>
          match digitAt s k with
          | some d =>
            if m * 10 + d > wordMax then
              -- The digits that do not fit count as powers of ten.
              let stop := skipDigits s k
              asFloat (afterInteger s positive m (stop - k : Nat) stop)
            else go fuel (k + 1) (m * 10 + d)
          | none =>
            if s[k]? == some 0x2E || isExpMark s[k]? then asFloat (afterInteger s positive m 0 k)
            else .ok (integerValue positive m, k)
      go s.size (j + 1) (b - 0x30).toNat

def isBlank (b : UInt8) : Bool := b == 0x20 || b == 0x0A || b == 0x0D || b == 0x09

/-- The position after blanks from `i`. -/
def skipBlanks (s : Input) (i : Nat) : Nat :=
  if h : i < s.size then
    if isBlank s[i] then skipBlanks s (i + 1) else i
  else i
termination_by s.size - i

def hexValue (b : UInt8) : Option Nat :=
  if isDigit b then some (b - 0x30).toNat
  else if 0x61 ≤ b && b ≤ 0x66 then some (b - 0x61 + 10).toNat
  else if 0x41 ≤ b && b ≤ 0x46 then some (b - 0x41 + 10).toNat
  else none

/-- Four hexadecimal digits at `i`, all four read before any is judged. -/
def hex4 (s : Input) (i : Nat) : Except Failure Nat :=
  if s.size < i + 4 then .error ⟨s.size, "EOF while parsing a string"⟩
  else
    match [0, 1, 2, 3].foldlM (fun acc k => (s[i + k]?.bind hexValue).map (acc * 16 + ·)) 0 with
    | some n => .ok n
    | none => .error ⟨i + 4, "invalid escape"⟩

/-- The UTF-8 bytes of a code point. -/
def utf8 (c : Nat) : Array UInt8 := (Char.ofNat c).toString.toUTF8.data

/-- An escape after the backslash at `i`: its bytes and the position after it. A surrogate
escape must be a high one followed by an escaped low one. -/
def escape (s : Input) (i : Nat) : Except Failure (Array UInt8 × Nat) :=
  match s[i + 1]? with
  | none => .error ⟨i + 1, "EOF while parsing a string"⟩
  | some 0x22 => .ok (#[0x22], i + 2)
  | some 0x5C => .ok (#[0x5C], i + 2)
  | some 0x2F => .ok (#[0x2F], i + 2)
  | some 0x62 => .ok (#[0x08], i + 2)
  | some 0x66 => .ok (#[0x0C], i + 2)
  | some 0x6E => .ok (#[0x0A], i + 2)
  | some 0x72 => .ok (#[0x0D], i + 2)
  | some 0x74 => .ok (#[0x09], i + 2)
  | some 0x75 => do
    let hi ← hex4 s (i + 2)
    if 0xDC00 ≤ hi && hi ≤ 0xDFFF then throw ⟨i + 6, "lone leading surrogate in hex escape"⟩
    if 0xD800 ≤ hi && hi ≤ 0xDBFF then
      -- The low half must follow as a backslash and a "u"; the byte that is neither is read.
      match s[i + 6]?, s[i + 7]? with
      | none, _ => throw ⟨i + 6, "EOF while parsing a string"⟩
      | some 0x5C, none => throw ⟨i + 7, "EOF while parsing a string"⟩
      | some 0x5C, some 0x75 => pure ()
      | some 0x5C, some _ => throw ⟨i + 8, "unexpected end of hex escape"⟩
      | some _, _ => throw ⟨i + 7, "unexpected end of hex escape"⟩
      let lo ← hex4 s (i + 8)
      if lo < 0xDC00 || 0xDFFF < lo then throw ⟨i + 12, "lone leading surrogate in hex escape"⟩
      pure (utf8 (0x10000 + (hi - 0xD800) * 0x400 + (lo - 0xDC00)), i + 12)
    else pure (utf8 hi, i + 6)
  | some _ => .error ⟨i + 2, "invalid escape"⟩

/-- The string whose opening quote is at `i`, and the position after its closing quote. -/
def string (s : Input) (i : Nat) : Except Failure (String × Nat) :=
  let rec go : Nat → Nat → Array UInt8 → Except Failure (String × Nat)
    | 0, k, _ => .error ⟨k, "EOF while parsing a string"⟩
    | fuel + 1, k, acc =>
      match s[k]? with
      | none => .error ⟨k, "EOF while parsing a string"⟩
      | some 0x22 => .ok ((String.fromUTF8? (ByteArray.mk acc)).getD "", k + 1)
      | some 0x5C => do
        let (bytes, k) ← escape s k
        go fuel k (acc ++ bytes)
      | some b =>
        if b < 0x20 then .error ⟨k + 1, "control character (\\u0000-\\u001F) found while parsing a string"⟩
        else go fuel (k + 1) (acc.push b)
  go s.size (i + 1) #[]

/-- Containers nest at most this deep, the outermost one counted. -/
def depthLimit : Nat := 127

/-- Entries of an object by name, the last of equal names kept. -/
def sortedEntries (entries : List (String × Value)) : List (String × Value) :=
  let kept := entries.reverse.foldl (fun acc (k, v) =>
    if acc.any (·.1 == k) then acc else acc ++ [(k, v)]) []
  kept.mergeSort fun a b => a.1 ≤ b.1

/-- Matches a literal word whose first letter is at `i`; the letters after it are read one
by one up to the first that differs. -/
def word (s : Input) (i : Nat) (w : String) (v : Value) : Except Failure (Value × Nat) :=
  let bytes := w.toUTF8.data
  match (List.range bytes.size).find? fun k => s[i + k]? != bytes[k]? with
  | none => .ok (v, i + bytes.size)
  | some k => .error (if i + k < s.size then ⟨i + k + 1, "expected ident"⟩
      else ⟨s.size, "EOF while parsing a value"⟩)

mutual

/-- A value at `i`, inside `depth` containers. -/
def value (s : Input) (depth : Nat) : Nat → Nat → Except Failure (Value × Nat)
  | 0, i => .error ⟨i, "recursion limit exceeded"⟩
  | fuel + 1, i =>
    match s[i]? with
    | none => .error ⟨i, "EOF while parsing a value"⟩
    | some 0x6E => word s i "null" .null
    | some 0x74 => word s i "true" (.bool true)
    | some 0x66 => word s i "false" (.bool false)
    | some 0x22 => (string s i).map fun (t, j) => (.str t, j)
    | some 0x5B =>
      if depthLimit ≤ depth then .error ⟨i + 1, "recursion limit exceeded"⟩
      else
        let j := skipBlanks s (i + 1)
        if s[j]? == some 0x5D then .ok (.array [], j + 1)
        else if s.size ≤ j then .error ⟨j, "EOF while parsing a list"⟩
        else (elements s depth fuel j []).map fun (items, k) => (.array items, k)
    | some 0x7B =>
      if depthLimit ≤ depth then .error ⟨i + 1, "recursion limit exceeded"⟩
      else
        let j := skipBlanks s (i + 1)
        if s[j]? == some 0x7D then .ok (.table [], j + 1)
        else (members s depth fuel j []).map fun (entries, k) => (.table (sortedEntries entries), k)
    | some b =>
      if b == 0x2D || isDigit b then number s i
      else .error ⟨i + 1, "expected value"⟩

/-- The elements of an array from the one at `i`, up to the closing bracket; `acc` holds those
read so far, the last first. -/
def elements (s : Input) (depth : Nat) : Nat → Nat → List Value → Except Failure (List Value × Nat)
  | 0, i, _ => .error ⟨i, "recursion limit exceeded"⟩
  | fuel + 1, i, acc => do
    let (v, j) ← value s (depth + 1) fuel i
    let j := skipBlanks s j
    match s[j]? with
    | some 0x2C =>
      let k := skipBlanks s (j + 1)
      if s[k]? == some 0x5D then throw ⟨k + 1, "trailing comma"⟩
      elements s depth fuel k (v :: acc)
    | some 0x5D => pure ((v :: acc).reverse, j + 1)
    | some _ => throw ⟨j + 1, "expected `,` or `]`"⟩
    | none => throw ⟨j, "EOF while parsing a list"⟩

/-- The entries of an object from the one at `i`, up to the closing brace; `acc` holds those read
so far, the last first. -/
def members (s : Input) (depth : Nat) : Nat → Nat → List (String × Value) →
    Except Failure (List (String × Value) × Nat)
  | 0, i, _ => .error ⟨i, "recursion limit exceeded"⟩
  | fuel + 1, i, acc => do
    if s[i]? != some 0x22 then
      throw (if i < s.size then ⟨i + 1, "key must be a string"⟩ else ⟨i, "EOF while parsing an object"⟩)
    let (k, j) ← string s i
    let j := skipBlanks s j
    if s[j]? != some 0x3A then
      throw (if j < s.size then ⟨j + 1, "expected `:`"⟩ else ⟨j, "EOF while parsing an object"⟩)
    let (v, j) ← value s (depth + 1) fuel (skipBlanks s (j + 1))
    let j := skipBlanks s j
    match s[j]? with
    | some 0x2C =>
      let m := skipBlanks s (j + 1)
      if s[m]? == some 0x7D then throw ⟨m + 1, "trailing comma"⟩
      if s.size ≤ m then throw ⟨m, "EOF while parsing a value"⟩
      members s depth fuel m ((k, v) :: acc)
    | some 0x7D => pure (((k, v) :: acc).reverse, j + 1)
    | some _ => throw ⟨j + 1, "expected `,` or `\x7d`"⟩
    | none => throw ⟨j, "EOF while parsing an object"⟩

end

/-- The value that a whole text holds, with blanks around it. -/
def read (text : String) : Except Failure Value := do
  let s := text.toUTF8.data
  let (v, j) ← value s 0 (2 * s.size + 2) (skipBlanks s 0)
  let j := skipBlanks s j
  if j < s.size then throw ⟨j + 1, "trailing characters"⟩
  pure v

/-- The entry of a table with the given name. -/
def member (v : Value) (name : String) : Option Value :=
  match v with
  | .table entries => entries.lookup name
  | .spanned _ w => member w name
  | _ => none

end Json

end Settings

end DagWallet
