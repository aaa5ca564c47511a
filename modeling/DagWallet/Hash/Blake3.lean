namespace DagWallet

namespace Blake3

/-- The sixteen words that one compression works on. -/
abbrev State := Vector UInt32 16

/-- The starting chaining value, shared with the first SHA-2 words. -/
def iv : Vector UInt32 8 :=
  #v[0x6A09E667, 0xBB67AE85, 0x3C6EF372, 0xA54FF53A,
     0x510E527F, 0x9B05688C, 0x1F83D9AB, 0x5BE0CD19]

def chunkStart : UInt32 := 1
def chunkEnd : UInt32 := 2
def parent : UInt32 := 4
def root : UInt32 := 8
def deriveKeyContext : UInt32 := 32
def deriveKeyMaterial : UInt32 := 64

/-- Bytes in a block and in a chunk. -/
def blockLen : Nat := 64
def chunkLen : Nat := 1024

def rotr (x : UInt32) (n : UInt32) : UInt32 := (x >>> n) ||| (x <<< (32 - n))

/-- The mixing step on four words of the state and two message words. -/
def mix (v : State) (a b c d : Fin 16) (x y : UInt32) : State :=
  let va := v[a] + v[b] + x
  let vd := rotr (v[d] ^^^ va) 16
  let vc := v[c] + vd
  let vb := rotr (v[b] ^^^ vc) 12
  let va := va + vb + y
  let vd := rotr (vd ^^^ va) 8
  let vc := vc + vd
  let vb := rotr (vb ^^^ vc) 7
  (((v.set a va a.isLt).set b vb b.isLt).set c vc c.isLt).set d vd d.isLt

/-- One round: the four columns, then the four diagonals. -/
def round (v m : State) : State :=
  let v := mix v 0 4 8 12 m[0] m[1]
  let v := mix v 1 5 9 13 m[2] m[3]
  let v := mix v 2 6 10 14 m[4] m[5]
  let v := mix v 3 7 11 15 m[6] m[7]
  let v := mix v 0 5 10 15 m[8] m[9]
  let v := mix v 1 6 11 12 m[10] m[11]
  let v := mix v 2 7 8 13 m[12] m[13]
  mix v 3 4 9 14 m[14] m[15]

/-- The order in which message words move between rounds. -/
def permutation : Vector (Fin 16) 16 :=
  #v[2, 6, 3, 10, 7, 0, 4, 13, 1, 11, 12, 5, 9, 14, 15, 8]

def permute (m : State) : State :=
  Vector.ofFn fun i => m[permutation[i]]

/-- Seven rounds, the message permuted between them. -/
def rounds : Nat → State → State → State
  | 0, v, _ => v
  | n + 1, v, m => let v := round v m; if n = 0 then v else rounds n v (permute m)

/-- The compression function: sixteen output words, of which the first eight are the next
chaining value. -/
def compress (cv : Vector UInt32 8) (m : State) (counter : UInt64) (len : UInt32)
    (flags : UInt32) : State :=
  let v : State := Vector.ofFn fun i =>
    if h : i.val < 8 then cv[i.val]
    else if _ : i.val < 12 then iv[i.val - 8]
    else if i.val = 12 then counter.toUInt32
    else if i.val = 13 then (counter >>> 32).toUInt32
    else if i.val = 14 then len
    else flags
  let v := rounds 7 v m
  Vector.ofFn fun i =>
    if h : i.val < 8 then v[i] ^^^ v[i.val + 8]
    else v[i] ^^^ cv[i.val - 8]

/-- The first eight words of a compression. -/
def chain (s : State) : Vector UInt32 8 :=
  Vector.ofFn fun i => s[i.val]

/-- A little-endian word from four bytes, missing bytes read as zero. -/
def wordAt (bytes : List UInt8) (i : Nat) : UInt32 :=
  let b := fun k => (bytes.getD (4 * i + k) 0).toUInt32
  b 0 ||| (b 1 <<< 8) ||| (b 2 <<< 16) ||| (b 3 <<< 24)

/-- A block of at most 64 bytes as sixteen words, padded with zeros. -/
def blockWords (bytes : List UInt8) : State :=
  Vector.ofFn fun i => wordAt bytes i.val

/-- A chaining value as the sixteen-word message of a parent node. -/
def parentWords (l r : Vector UInt32 8) : State :=
  Vector.ofFn fun i => if h : i.val < 8 then l[i.val] else r[i.val - 8]

/-- Splits bytes into pieces of `n`, keeping at least one (possibly empty) piece. -/
def pieces (n : Nat) (bytes : List UInt8) : List (List UInt8) :=
  if _ : n = 0 then [bytes]
  else
    match _h : bytes.drop n with
    | [] => [bytes]
    | r :: rs => bytes.take n :: pieces n (r :: rs)
termination_by bytes.length
decreasing_by
  have hlen := congrArg List.length _h
  simp only [List.length_drop, List.length_cons] at hlen ⊢
  omega

/-- The blocks of one chunk: the chaining value after all but the last, and the last block's
words, length and flags, which are compressed once more as a node or as the root. -/
def chunkState (key : Vector UInt32 8) (flags : UInt32) (counter : UInt64)
    (blocks : List (List UInt8)) : Vector UInt32 8 × State × UInt32 × UInt32 :=
  go key chunkStart blocks
where
  go (cv : Vector UInt32 8) (start : UInt32) :
      List (List UInt8) → Vector UInt32 8 × State × UInt32 × UInt32
    | [] => (cv, blockWords [], 0, flags ||| start ||| chunkEnd)
    | [b] => (cv, blockWords b, b.length.toUInt32, flags ||| start ||| chunkEnd)
    | b :: rest =>
      go (chain (compress cv (blockWords b) counter 64 (flags ||| start))) 0 rest

/-- What a node of the tree hands to its parent, or to the root: the inputs of its last
compression. -/
structure Node where
  cv : Vector UInt32 8
  words : State
  counter : UInt64
  len : UInt32
  flags : UInt32

def Node.value (n : Node) : Vector UInt32 8 :=
  chain (compress n.cv n.words n.counter n.len n.flags)

def chunkNode (key : Vector UInt32 8) (flags : UInt32) (counter : UInt64)
    (chunk : List UInt8) : Node :=
  let (cv, words, len, fl) := chunkState key flags counter (pieces blockLen chunk)
  ⟨cv, words, counter, len, fl⟩

/-- The largest power of two strictly below `n`, for `n ≥ 2`. -/
def leftCount (n : Nat) : Nat :=
  Nat.pow 2 (Nat.log2 (n - 1))

/-- The node over a run of chunks numbered from `first`: one chunk is a leaf; otherwise the
largest power of two of chunks goes left and the rest right. -/
def treeNode (key : Vector UInt32 8) (flags : UInt32) (first : Nat) :
    List (List UInt8) → Node
  | [] => chunkNode key flags first.toUInt64 []
  | [c] => chunkNode key flags first.toUInt64 c
  | c :: d :: rest =>
    let cs := c :: d :: rest
    let k := leftCount cs.length
    let l := treeNode key flags first (cs.take k)
    let r := treeNode key flags (first + k) (cs.drop k)
    ⟨key, parentWords l.value r.value, 0, 64, flags ||| parent⟩
termination_by cs => cs.length
decreasing_by
  all_goals simp only [List.length_take, List.length_drop, List.length_cons]
  all_goals
    have hpos : 0 < 2 ^ Nat.log2 (rest.length + 1 + 1 - 1) := Nat.two_pow_pos _
    have hle : 2 ^ Nat.log2 (rest.length + 1 + 1 - 1) ≤ rest.length + 1 + 1 - 1 :=
      Nat.log2_self_le (by omega)
    simp only [leftCount, Nat.pow_eq]
    omega

/-- Thirty-two output bytes of the root node, little-endian word by word. -/
def output (n : Node) : Vector UInt8 32 :=
  let out := compress n.cv n.words n.counter n.len (n.flags ||| root)
  Vector.ofFn fun i => (out[i.val / 4] >>> (8 * (i.val % 4)).toUInt32).toUInt8

/-- Hashes bytes under a key and mode flags. -/
def hashWith (key : Vector UInt32 8) (flags : UInt32) (bytes : List UInt8) : Vector UInt8 32 :=
  output (treeNode key flags 0 (pieces chunkLen bytes))

/-- The plain hash of a byte string. -/
def hash (bytes : List UInt8) : Vector UInt8 32 :=
  hashWith iv 0 bytes

/-- A key derived from a context string and key material: the context is hashed in its own
mode, and the result keys the hash of the material. -/
def deriveKey (context : String) (material : List UInt8) : Vector UInt8 32 :=
  let ctx := hashWith iv deriveKeyContext context.toUTF8.toList
  let key : Vector UInt32 8 := Vector.ofFn fun i => wordAt ctx.toList i.val
  hashWith key deriveKeyMaterial material

end Blake3

end DagWallet
