namespace DagWallet

namespace Edwards25519

/-- The prime of the base field. -/
def p : Nat := Nat.pow 2 255 - 19

/-- The order of the base point's group. -/
def order : Nat := Nat.pow 2 252 + 27742317777372353535851937790883648493

/-- The curve constant `-121665 / 121666`. -/
def d : Nat := 37095705934669439343138083508754565189542113879843219016388785533085940283555

/-- A number from its little-endian bytes. -/
def ofLittleEndian (bytes : List UInt8) : Nat :=
  bytes.foldr (fun b acc => acc * 256 + b.toNat) 0

/-- The low 32 bytes of a number, little-endian. -/
def toLittleEndian32 (n : Nat) : Vector UInt8 32 :=
  Vector.ofFn fun i => (n >>> (8 * i.val)).toUInt8

/-- Powers in the field by repeated squaring on the exponent's bits. -/
def powMod (b e m : Nat) : Nat :=
  if h : e = 0 then 1 % m
  else
    let half := powMod (b * b % m) (e / 2) m
    if e % 2 = 1 then half * b % m else half
termination_by e
decreasing_by omega

def inv (x : Nat) : Nat := powMod x (p - 2) p

def sub (a b : Nat) : Nat := (a + p - b % p) % p

/-- A point in extended coordinates: `x = X/Z`, `y = Y/Z`, `x y = T/Z`. -/
structure Point where
  x : Nat
  y : Nat
  z : Nat
  t : Nat

def identity : Point := ⟨0, 1, 1, 0⟩

/-- The base point: the point with `y = 4/5` and even `x`. -/
def base : Point :=
  let bx := 15112221349535400772501151409588531511454012693041857206046113283949847762202
  let by_ := 46316835694926478169428394003475163141307993866256225615783033603165251855960
  ⟨bx, by_, 1, bx * by_ % p⟩

/-- The complete twisted Edwards addition, which also doubles. -/
def add (P Q : Point) : Point :=
  let a := sub P.y P.x * sub Q.y Q.x % p
  let b := (P.y + P.x) * (Q.y + Q.x) % p
  let c := P.t * 2 * d % p * Q.t % p
  let dd := P.z * 2 * Q.z % p
  let e := sub b a
  let f := sub dd c
  let g := (dd + c) % p
  let h := (b + a) % p
  ⟨e * f % p, g * h % p, f * g % p, e * h % p⟩

/-- `n · P`, from the top bit of `n` down. -/
def smul (n : Nat) (P : Point) : Point :=
  (List.range (Nat.log2 n + 1)).foldr (fun i acc =>
    let acc := add acc acc
    if n.testBit i then add acc P else acc) identity

/-- The 32-byte encoding: `y` little-endian, the parity of `x` in the top bit. -/
def encode (P : Point) : Vector UInt8 32 :=
  let zi := inv P.z
  let x := P.x * zi % p
  let y := P.y * zi % p
  toLittleEndian32 (y + (x % 2) * Nat.pow 2 255)

end Edwards25519

end DagWallet
