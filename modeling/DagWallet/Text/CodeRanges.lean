namespace DagWallet

namespace CodeRanges

/-- Whether `n` lies in one of the ranges of `table` between indices `lo` and `hi`, found by
halving. The ranges are inclusive pairs, sorted and apart. -/
def search (table : Array (Nat × Nat)) (n : Nat) (lo hi : Nat) : Bool :=
  if _ : lo < hi then
    let mid := (lo + hi) / 2
    match table[mid]? with
    | some (a, b) =>
      if n < a then search table n lo mid
      else if b < n then search table n (mid + 1) hi
      else true
    | none => false
  else false
termination_by hi - lo

/-- Whether `n` lies in one of the ranges of `table`. -/
def contains (table : Array (Nat × Nat)) (n : Nat) : Bool :=
  search table n 0 table.size

end CodeRanges

end DagWallet
