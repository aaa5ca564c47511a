import DagWallet.Text.Escape

namespace DagWallet

namespace Settings

/-- A byte range of the text a value was read from. -/
structure Span where
  start : Nat
  stop : Nat
deriving DecidableEq, Repr

/-- A value of a configuration document, whatever its text format. -/
inductive Value where
  | null
  | bool (b : Bool)
  | int (n : Int)
  | float (x : Float)
  | str (s : String)
  | datetime (text : String)
  | array (items : List Value)
  | table (entries : List (String × Value))
  /-- A value with the place of its text. -/
  | spanned (span : Span) (v : Value)

instance : Inhabited Value := ⟨.null⟩

/-- How a text format shows values in error messages, and whether a sequence read as a
record may be longer than the record. -/
structure Dialect where
  nullText : String
  floatText : Float → String
  strictLength : Bool

/-- Why a document does not describe the wanted value, and where. -/
structure DecodeError where
  message : String
  span : Option Span

namespace Value

/-- The value without its place, and the innermost place it had. -/
def bare : Value → Option Span → Value × Option Span
  | .spanned s v, _ => bare v (some s)
  | v, s => (v, s)

/-- How an unexpected value is named in an error message. -/
def unexpected (d : Dialect) : Value → String
  | .null => d.nullText
  | .bool b => s!"boolean `{b}`"
  | .int n => s!"integer `{n}`"
  | .float x => s!"floating point `{d.floatText x}`"
  | .str s => s!"string {Escape.quoteString s}"
  | .datetime _ => "map"
  | .array _ => "sequence"
  | .table _ => "map"
  | .spanned _ v => unexpected d v

end Value

end Settings

end DagWallet
