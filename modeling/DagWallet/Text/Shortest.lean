namespace DagWallet

namespace Shortest

/-- A finite non-negative binary64 value `m * 2^q`. -/
structure Binary where
  m : Nat
  q : Int
  /-- The gap to the value below is half the gap to the value above. -/
  narrowBelow : Bool

/-- The magnitude encoded by the bits of a finite float. -/
def Binary.ofBits (b : UInt64) : Binary :=
  let e := ((b >>> 52) &&& 0x7FF).toNat
  let f := (b &&& 0xFFFFFFFFFFFFF).toNat
  if e == 0 then ⟨f, -1074, false⟩ else ⟨Nat.pow 2 52 + f, (e : Int) - 1075, f == 0 && e > 1⟩

/-- Compares `a * 10^i` with `n * 2^j` exactly. -/
def cmpScaled (a : Nat) (i : Int) (n : Nat) (j : Int) : Ordering :=
  compare (a * Nat.pow 10 i.toNat * Nat.pow 2 (-j).toNat) (n * Nat.pow 2 j.toNat * Nat.pow 10 (-i).toNat)

/-- Whether `digits * 10^exp` lies among the reals that round to the value. -/
def Binary.readsBack (x : Binary) (digits : Nat) (exp : Int) : Bool :=
  let lo := if x.narrowBelow then 4 * x.m - 1 else 4 * x.m - 2
  let hi := 4 * x.m + 2
  let incl := x.m % 2 == 0
  let cl := cmpScaled digits exp lo (x.q - 2)
  let ch := cmpScaled digits exp hi (x.q - 2)
  (cl == .gt || (incl && cl == .eq)) && (ch == .lt || (incl && ch == .eq))

/-- The exponent of the leading decimal digit of a non-zero value: the `e` with
`10^e ≤ m * 2^q < 10^(e+1)`, from an estimate corrected by exact comparisons. -/
def Binary.leadExp (x : Binary) : Int :=
  let guess : Int := ((Nat.log2 x.m : Int) + x.q) * 30103 / 100000
  let down := fun (e : Int) => cmpScaled 1 e x.m x.q == .gt
  let up := fun (e : Int) => cmpScaled 1 (e + 1) x.m x.q != .gt
  let e := (List.range 4).foldl (fun e _ => if down e then e - 1 else e) guess
  (List.range 4).foldl (fun e _ => if up e then e + 1 else e) e

/-- Drops trailing zeros of the digits into the exponent. -/
def strip (digits : Nat) (exp : Int) : Nat × Int :=
  (List.range 20).foldl (fun (d, e) _ =>
    if d != 0 && d % 10 == 0 then (d / 10, e + 1) else (d, e)) (digits, exp)

/-- The neighbour of the value on the grid `10^k` that reads back, the closer of two, a tie
going to the even one or upwards. -/
def Binary.onGrid (x : Binary) (k : Int) (tieToEven : Bool) : Option Nat :=
  let num := x.m * Nat.pow 2 x.q.toNat * Nat.pow 10 (-k).toNat
  let den := Nat.pow 2 (-x.q).toNat * Nat.pow 10 k.toNat
  let lo := num / den
  match x.readsBack lo k, x.readsBack (lo + 1) k with
  | true, true =>
    match compare (2 * num) ((2 * lo + 1) * den) with
    | .lt => some lo
    | .gt => some (lo + 1)
    | .eq => if tieToEven then (if lo % 2 == 0 then some lo else some (lo + 1)) else some (lo + 1)
  | true, false => some lo
  | false, true => some (lo + 1)
  | false, false => none

/-- The fewest digits that read back as a non-zero value, as `digits * 10^exp`. -/
def Binary.shortest (x : Binary) (tieToEven : Bool) : Nat × Int :=
  let e := x.leadExp
  let found := (List.range 17).findSome? fun (n : Nat) =>
    let k := e - (n : Int)
    (x.onGrid k tieToEven).map fun d => (d, k)
  match found with
  | some (d, k) => strip d k
  | none => if x.q ≥ 0 then (x.m * Nat.pow 2 x.q.toNat, 0) else strip (x.m * Nat.pow 5 (-x.q).toNat) x.q

/-- Where a float's text is positional, and how ties between two shortest candidates go. -/
structure Layout where
  /-- Leading-digit exponents `e` with `plainFrom ≤ e < plainBelow` are written positionally,
  with `.0` after an integral value; others as `d.ddde±x`. -/
  plainFrom : Int
  plainBelow : Int
  tieToEven : Bool
  /-- A positive exponent is written with a plus sign. -/
  plusExponent : Bool

/-- Lays out `digits * 10^exp` for the layout. -/
def Layout.place (l : Layout) (digits : Nat) (exp : Int) : String :=
  let ds := (Nat.toDigits 10 digits)
  let n : Int := ds.length
  let lead := n + exp - 1
  if l.plainFrom ≤ lead ∧ lead < l.plainBelow then
    if exp ≥ 0 then String.ofList (ds ++ List.replicate exp.toNat '0') ++ ".0"
    else if lead ≥ 0 then
      String.ofList (ds.take (lead + 1).toNat) ++ "." ++ String.ofList (ds.drop (lead + 1).toNat)
    else "0." ++ String.ofList (List.replicate (-lead - 1).toNat '0' ++ ds)
  else
    let rest := ds.drop 1
    String.ofList (ds.take 1) ++ (if rest.isEmpty then "" else "." ++ String.ofList rest) ++
      "e" ++ (if l.plusExponent && 0 < lead then "+" else "") ++ toString lead

/-- The text of a float: sign, then the shortest digits laid out; `inf` and `NaN` otherwise. -/
def Layout.render (l : Layout) (x : Float) : String :=
  let bits := x.toBits
  let sign := if bits >>> 63 == 1 then "-" else ""
  if x.isNaN then "NaN"
  else if x.isInf then sign ++ "inf"
  else
    let b := Binary.ofBits bits
    if b.m == 0 then sign ++ "0.0"
    else
      let (d, e) := b.shortest l.tieToEven
      sign ++ l.place d e

end Shortest

end DagWallet
