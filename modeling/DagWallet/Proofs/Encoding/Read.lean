import Mathlib
import DagWallet.Ledger.Block

/-!
Reading the canonical encoding back. Every encoding has a reader that takes a value off the
front of a byte string and hands back what follows it: reading `x.encode ++ rest` gives `x` and
`rest`. Only a sequence whose length does not fit in its eight-byte prefix could mislead a
reader, and an encoding shorter than 2⁶⁴ bytes, as every encoding a 64-bit program holds, has
none. So the encodings of blocks, essences and transactions are injective and none is a proper
prefix of another, and an identifier hashed from one of them, by a hash without collisions on
the two encodings at hand, identifies the value it was computed from.
-/

namespace DagWallet

namespace Canonical

variable {α : Type}

/-- Takes a value off the front of a byte string and hands back the rest. -/
abbrev Reader (α : Type) := List UInt8 → Option (α × List UInt8)

/-- `read` takes `x` back off the front of its encoding, whatever follows. -/
def ReadsBack (read : Reader α) (enc : α → List UInt8) (x : α) : Prop :=
  ∀ rest, read (enc x ++ rest) = some (x, rest)

theorem ReadsBack.append_inj {read : Reader α} {enc : α → List UInt8} {x y : α}
    {r r' : List UInt8} (hx : ReadsBack read enc x) (hy : ReadsBack read enc y)
    (h : enc x ++ r = enc y ++ r') : x = y ∧ r = r' := by
  have hr := hx r
  rw [h, hy r', Option.some.injEq, Prod.mk.injEq] at hr
  exact ⟨hr.1.symm, hr.2.symm⟩

/-! ### Readers of the building blocks -/

/-- The number written in the next `n` bytes, least significant first. -/
def readLE : Nat → Reader Nat
  | 0, bs => some (0, bs)
  | _ + 1, [] => none
  | n + 1, b :: bs => (readLE n bs).map fun (x, rest) => (b.toNat + 256 * x, rest)

def readU8 : Reader UInt8
  | [] => none
  | b :: bs => some (b, bs)

def readU16 : Reader UInt16 := fun bs => (readLE 2 bs).map fun (x, rest) => (x.toUInt16, rest)

def readU32 : Reader UInt32 := fun bs => (readLE 4 bs).map fun (x, rest) => (x.toUInt32, rest)

def readU64 : Reader UInt64 := fun bs => (readLE 8 bs).map fun (x, rest) => (x.toUInt64, rest)

/-- The next `n` bytes as they are. -/
def readFixed (n : Nat) : Reader (Vector UInt8 n) := fun bs =>
  if h : n ≤ bs.length then some (⟨(bs.take n).toArray, by simp [h]⟩, bs.drop n) else none

def readDigest : Reader Digest := fun bs => (readFixed 32 bs).map fun (v, rest) => (⟨v⟩, rest)

/-- A byte string: its length, then that many bytes. -/
def readBytes : Reader (List UInt8) := fun bs => do
  let (n, bs) ← readLE 8 bs
  if n ≤ bs.length then some (bs.take n, bs.drop n) else none

/-- `n` values one after the other. -/
def readMany (read : Reader α) : Nat → Reader (List α)
  | 0, bs => some ([], bs)
  | n + 1, bs => do
    let (x, bs) ← read bs
    let (xs, bs) ← readMany read n bs
    pure (x :: xs, bs)

/-- A sequence: its length, then that many values. -/
def readSeq (read : Reader α) : Reader (List α) := fun bs => do
  let (n, bs) ← readLE 8 bs
  readMany read n bs

/-- An optional value: absent after a zero byte, present after a one byte. -/
def readOption (read : Reader α) : Reader (Option α)
  | [] => none
  | b :: bs =>
    if b = 0 then some (none, bs)
    else if b = 1 then (read bs).map fun (a, rest) => (some a, rest)
    else none

theorem littleEndian_succ (n x : Nat) :
    littleEndian (n + 1) x = x.toUInt8 :: littleEndian n (x / 256) := by
  simp only [littleEndian, List.range_succ_eq_map, List.map_cons, List.map_map,
    Nat.mul_zero, Nat.shiftRight_zero, List.cons.injEq, true_and]
  congr 1
  funext i
  simp only [Function.comp_apply, Nat.shiftRight_eq_div_pow, Nat.div_div_eq_div_mul]
  rw [Nat.succ_eq_add_one, Nat.mul_succ, Nat.pow_add, Nat.mul_comm]

@[simp] theorem length_littleEndian (n x : Nat) : (littleEndian n x).length = n := by
  simp [littleEndian]

theorem readLE_littleEndian (n x : Nat) (rest : List UInt8) :
    readLE n (littleEndian n x ++ rest) = some (x % 2 ^ (8 * n), rest) := by
  induction n generalizing x with
  | zero => simp [readLE, littleEndian, Nat.mod_one]
  | succ n ih =>
    rw [littleEndian_succ, List.cons_append, readLE, ih]
    have hpow : 2 ^ (8 * (n + 1)) = 256 * 2 ^ (8 * n) := by
      rw [Nat.mul_succ, Nat.pow_add, Nat.mul_comm]
    simp only [Option.map_some, Nat.toUInt8_eq, UInt8.toNat_ofNat', Nat.reducePow, hpow,
      Nat.mod_mul]

theorem readsBack_littleEndian {n x : Nat} (h : x < 2 ^ (8 * n)) :
    ReadsBack (readLE n) (littleEndian n) x := fun rest => by
  rw [readLE_littleEndian, Nat.mod_eq_of_lt h]

theorem readLE_variant {i : Nat} (h : i < 2 ^ 32) (rest : List UInt8) :
    readLE 4 (variant i ++ rest) = some (i, rest) :=
  readsBack_littleEndian h rest

@[simp] theorem readU8_u8 (x : UInt8) (rest : List UInt8) : readU8 (u8 x ++ rest) = some (x, rest) :=
  rfl

@[simp] theorem readU16_u16 (x : UInt16) (rest : List UInt8) :
    readU16 (u16 x ++ rest) = some (x, rest) := by
  simp [readU16, u16, readLE_littleEndian, Nat.mod_eq_of_lt x.toNat_lt]

@[simp] theorem readU32_u32 (x : UInt32) (rest : List UInt8) :
    readU32 (u32 x ++ rest) = some (x, rest) := by
  simp [readU32, u32, readLE_littleEndian, Nat.mod_eq_of_lt x.toNat_lt]

@[simp] theorem readU64_u64 (x : UInt64) (rest : List UInt8) :
    readU64 (u64 x ++ rest) = some (x, rest) := by
  simp [readU64, u64, readLE_littleEndian, Nat.mod_eq_of_lt x.toNat_lt]

@[simp] theorem readFixed_toList {n : Nat} (v : Vector UInt8 n) (rest : List UInt8) :
    readFixed n (v.toList ++ rest) = some (v, rest) := by
  have hv : (⟨((v.toList ++ rest).take n).toArray, by simp⟩ : Vector UInt8 n) = v := by
    rcases v with ⟨a, rfl⟩
    simp
  rw [readFixed, dif_pos (by simp), hv]
  rcases v with ⟨a, rfl⟩
  simp

@[simp] theorem readDigest_toList (d : Digest) (rest : List UInt8) :
    readDigest (d.toList ++ rest) = some (d, rest) := by
  simp [readDigest, Digest.toList]

theorem readBytes_bytes {bs : List UInt8} (h : bs.length < 2 ^ 64) (rest : List UInt8) :
    readBytes (bytes bs ++ rest) = some (bs, rest) := by
  have hmod : bs.length % 2 ^ (8 * 8) = bs.length := Nat.mod_eq_of_lt h
  simp only [readBytes, bytes, length, List.append_assoc, readLE_littleEndian, hmod]
  simp

theorem readMany_flatMap {read : Reader α} {enc : α → List UInt8} :
    ∀ {xs : List α}, (∀ x ∈ xs, ReadsBack read enc x) → ∀ rest,
      readMany read xs.length (xs.flatMap enc ++ rest) = some (xs, rest)
  | [], _, _ => rfl
  | x :: xs, h, rest => by
    have hx := h x List.mem_cons_self (xs.flatMap enc ++ rest)
    have hxs := readMany_flatMap (fun y hy => h y (List.mem_cons_of_mem x hy)) rest
    simp only [List.length_cons, List.flatMap_cons, List.append_assoc, readMany, hx,
      Option.bind_eq_bind, Option.bind_some, hxs]
    rfl

theorem readsBack_seq {read : Reader α} {enc : α → List UInt8} {xs : List α}
    (hlen : xs.length < 2 ^ 64) (h : ∀ x ∈ xs, ReadsBack read enc x) :
    ReadsBack (readSeq read) (seq enc) xs := fun rest => by
  simp only [readSeq, seq, length, List.append_assoc, readLE_littleEndian,
    Nat.mod_eq_of_lt hlen]
  exact readMany_flatMap h rest

theorem readsBack_option {read : Reader α} {enc : α → List UInt8} {o : Option α}
    (h : ∀ a, o = some a → ReadsBack read enc a) : ReadsBack (readOption read) (option enc) o := by
  intro rest
  cases o with
  | none => rfl
  | some a => simp [readOption, option, h a rfl rest]

theorem seq_bounds {enc : α → List UInt8} (hpos : ∀ x, 0 < (enc x).length) (xs : List α)
    (h : (seq enc xs).length < 2 ^ 64) :
    xs.length < 2 ^ 64 ∧ ∀ x ∈ xs, (enc x).length < 2 ^ 64 := by
  have key : ∀ ys : List α, ys.length ≤ (ys.flatMap enc).length ∧
      ∀ x ∈ ys, (enc x).length ≤ (ys.flatMap enc).length := by
    intro ys
    induction ys with
    | nil => simp
    | cons y ys ih =>
      have hy := hpos y
      simp only [List.length_cons, List.flatMap_cons, List.length_append, List.mem_cons,
        forall_eq_or_imp]
      refine ⟨by omega, by omega, fun x hx => ?_⟩
      have := ih.2 x hx
      omega
  simp only [seq, List.length_append] at h
  obtain ⟨hlen, hmem⟩ := key xs
  exact ⟨by omega, fun x hx => by have := hmem x hx; omega⟩

end Canonical

open Canonical

/-! ### Readers of the ledger's values -/

namespace UnlockCondition

def read : Reader UnlockCondition := fun bs => do
  let (k, bs) ← readLE 4 bs
  match k with
  | 0 => do
    let (owner, bs) ← readDigest bs
    pure (.address ⟨owner⟩, bs)
  | 1 => do
    let (owner, bs) ← readDigest bs
    let (t, bs) ← readU32 bs
    pure (.expiration ⟨owner⟩ t, bs)
  | 2 => do
    let (t, bs) ← readU32 bs
    pure (.timelock t, bs)
  | 3 => do
    let (owner, bs) ← readDigest bs
    let (amount, bs) ← readU64 bs
    pure (.storageDepositReturn ⟨owner⟩ amount, bs)
  | _ => none

theorem length_encode_pos (c : UnlockCondition) : 0 < c.encode.length := by
  cases c <;> simp only [encode, variant, List.length_append, length_littleEndian] <;> omega

theorem readsBack (c : UnlockCondition) : ReadsBack read encode c := by
  intro rest
  cases c <;> simp [read, encode, List.append_assoc, readLE_variant]

end UnlockCondition

namespace Feature

def read : Reader Feature := fun bs => do
  let (k, bs) ← readLE 4 bs
  match k with
  | 0 => do
    let (a, bs) ← readDigest bs
    pure (.sender ⟨a⟩, bs)
  | 1 => do
    let (data, bs) ← readBytes bs
    pure (.metadata data, bs)
  | 2 => do
    let (t, bs) ← readBytes bs
    pure (.tag t, bs)
  | _ => none

theorem length_encode_pos (f : Feature) : 0 < f.encode.length := by
  cases f <;> simp only [encode, variant, List.length_append, length_littleEndian] <;> omega

theorem readsBack (f : Feature) (h : f.encode.length < 2 ^ 64) : ReadsBack read encode f := by
  intro rest
  cases f with
  | sender a => simp [read, encode, List.append_assoc, readLE_variant]
  | metadata d =>
    have hd : d.length < 2 ^ 64 := by simp [encode, bytes, length] at h; omega
    simp [read, encode, List.append_assoc, readLE_variant, readBytes_bytes hd]
  | tag t =>
    have ht : t.length < 2 ^ 64 := by simp [encode, bytes, length] at h; omega
    simp [read, encode, List.append_assoc, readLE_variant, readBytes_bytes ht]

end Feature

namespace Output

def read : Reader Output := fun bs => do
  let (amount, bs) ← readU64 bs
  let (conditions, bs) ← readSeq UnlockCondition.read bs
  let (features, bs) ← readSeq Feature.read bs
  pure (⟨amount, conditions, features⟩, bs)

theorem length_encode_pos (o : Output) : 0 < o.encode.length := by
  simp only [encode, u64, List.length_append, length_littleEndian]
  omega

theorem readsBack (o : Output) (h : o.encode.length < 2 ^ 64) : ReadsBack read encode o := by
  intro rest
  have hc := seq_bounds UnlockCondition.length_encode_pos o.unlockConditions
    (by simp only [encode, List.length_append] at h; omega)
  have hf := seq_bounds Feature.length_encode_pos o.features
    (by simp only [encode, List.length_append] at h; omega)
  simp only [read, encode, List.append_assoc, Option.bind_eq_bind, Option.bind_some, readU64_u64,
    readsBack_seq hc.1 (fun c _ => UnlockCondition.readsBack c) _,
    readsBack_seq hf.1 (fun f hm => Feature.readsBack f (hf.2 f hm)) _]
  rfl

end Output

namespace OutputId

def read : Reader OutputId := fun bs => do
  let (tx, bs) ← readDigest bs
  let (index, bs) ← readU16 bs
  pure (⟨⟨tx⟩, index⟩, bs)

theorem length_encode_pos (o : OutputId) : 0 < o.encode.length := by
  simp [encode, u16]

theorem readsBack (o : OutputId) : ReadsBack read encode o := by
  intro rest
  simp [read, encode, List.append_assoc]

end OutputId

namespace Essence

def read : Reader Essence := fun bs => do
  let (networkId, bs) ← readU64 bs
  let (inputs, bs) ← readSeq OutputId.read bs
  let (outputs, bs) ← readSeq Output.read bs
  pure (⟨networkId, inputs, outputs⟩, bs)

theorem readsBack (e : Essence) (h : e.encode.length < 2 ^ 64) : ReadsBack read encode e := by
  intro rest
  have hi := seq_bounds OutputId.length_encode_pos e.inputs
    (by simp only [encode, List.length_append] at h; omega)
  have ho := seq_bounds Output.length_encode_pos e.outputs
    (by simp only [encode, List.length_append] at h; omega)
  simp only [read, encode, List.append_assoc, Option.bind_eq_bind, Option.bind_some, readU64_u64,
    readsBack_seq hi.1 (fun i _ => OutputId.readsBack i) _,
    readsBack_seq ho.1 (fun o hm => Output.readsBack o (ho.2 o hm)) _]
  rfl

end Essence

namespace Unlock

def read : Reader Unlock := fun bs => do
  let (k, bs) ← readLE 4 bs
  match k with
  | 0 => do
    let (key, bs) ← readFixed 32 bs
    let (sig, bs) ← readBytes bs
    pure (.signature key sig, bs)
  | 1 => do
    let (position, bs) ← readU16 bs
    pure (.reference position, bs)
  | _ => none

theorem length_encode_pos (u : Unlock) : 0 < u.encode.length := by
  cases u <;> simp only [encode, variant, List.length_append, length_littleEndian] <;> omega

theorem readsBack (u : Unlock) (h : u.encode.length < 2 ^ 64) : ReadsBack read encode u := by
  intro rest
  cases u with
  | signature key s =>
    have hs : s.length < 2 ^ 64 := by simp [encode, bytes, length] at h; omega
    simp [read, encode, List.append_assoc, readLE_variant, readBytes_bytes hs]
  | reference i => simp [read, encode, List.append_assoc, readLE_variant]

end Unlock

namespace Transaction

def read : Reader Transaction := fun bs => do
  let (essence, bs) ← Essence.read bs
  let (unlocks, bs) ← readSeq Unlock.read bs
  pure (⟨essence, unlocks⟩, bs)

theorem readsBack (t : Transaction) (h : t.encode.length < 2 ^ 64) : ReadsBack read encode t := by
  intro rest
  have he : t.essence.encode.length < 2 ^ 64 := by
    simp only [encode, List.length_append] at h
    omega
  have hu := seq_bounds Unlock.length_encode_pos t.unlocks
    (by simp only [encode, List.length_append] at h; omega)
  simp only [read, encode, List.append_assoc, Option.bind_eq_bind, Option.bind_some,
    Essence.readsBack _ he _,
    readsBack_seq hu.1 (fun u hm => Unlock.readsBack u (hu.2 u hm)) _]
  rfl

end Transaction

namespace Payload

def read : Reader Payload := fun bs => do
  let (k, bs) ← readLE 4 bs
  match k with
  | 0 => do
    let (t, bs) ← Transaction.read bs
    pure (.transaction t, bs)
  | 1 => do
    let (tag, bs) ← readBytes bs
    let (data, bs) ← readBytes bs
    pure (.taggedData tag data, bs)
  | _ => none

theorem readsBack (p : Payload) (h : p.encode.length < 2 ^ 64) : ReadsBack read encode p := by
  intro rest
  cases p with
  | transaction t =>
    have ht : t.encode.length < 2 ^ 64 := by simp only [encode, List.length_append] at h; omega
    simp [read, encode, List.append_assoc, readLE_variant, Transaction.readsBack t ht _]
  | taggedData tag data =>
    have hl : tag.length < 2 ^ 64 ∧ data.length < 2 ^ 64 := by
      simp [encode, bytes, length] at h
      omega
    simp [read, encode, List.append_assoc, readLE_variant, readBytes_bytes hl.1,
      readBytes_bytes hl.2]

end Payload

namespace BlockId

def read : Reader BlockId := fun bs => (readDigest bs).map fun (d, bs) => (⟨d⟩, bs)

theorem readsBack (p : BlockId) : ReadsBack read (·.digest.toList) p := by
  intro rest
  simp [read]

end BlockId

namespace Block

def read : Reader Block := fun bs => do
  let (version, bs) ← readU8 bs
  let (parents, bs) ← readSeq BlockId.read bs
  let (payload, bs) ← readOption Payload.read bs
  let (nonce, bs) ← readU64 bs
  pure (⟨version, parents, payload, nonce⟩, bs)

theorem readsBack (b : Block) (h : b.encode.length < 2 ^ 64) : ReadsBack read encode b := by
  intro rest
  have hp := seq_bounds (fun p : BlockId => by simp [Digest.toList] : ∀ p : BlockId,
    0 < p.digest.toList.length) b.parents (by simp only [encode, List.length_append] at h; omega)
  have hpay : ∀ p, b.payload = some p → ReadsBack Payload.read Payload.encode p := by
    intro p hb
    refine Payload.readsBack p ?_
    simp only [encode, hb, option, List.length_append, List.length_cons] at h
    omega
  simp only [read, encode, List.append_assoc, Option.bind_eq_bind, Option.bind_some, readU8_u8,
    readsBack_seq hp.1 (fun p _ => BlockId.readsBack p) _, readsBack_option hpay _, readU64_u64]
  rfl

end Block

/-- The canonical encodings are injective and prefix-free: two blocks, essences or
transactions whose encodings, each shorter than 2⁶⁴ bytes, start the same byte string are
equal, and so is what follows them. Hence a block's identifier, a transaction's identifier and
an essence's hash, whenever the hash has no collision on the two encodings compared, identify
the value they were computed from. -/
theorem encodings_prefix_free :
    (∀ (x y : Block) (r r' : List UInt8), x.encode.length < 2 ^ 64 →
      y.encode.length < 2 ^ 64 → x.encode ++ r = y.encode ++ r' → x = y ∧ r = r') ∧
    (∀ (x y : Essence) (r r' : List UInt8), x.encode.length < 2 ^ 64 →
      y.encode.length < 2 ^ 64 → x.encode ++ r = y.encode ++ r' → x = y ∧ r = r') ∧
    (∀ (x y : Transaction) (r r' : List UInt8), x.encode.length < 2 ^ 64 →
      y.encode.length < 2 ^ 64 → x.encode ++ r = y.encode ++ r' → x = y ∧ r = r') ∧
    (∀ x y : Block, x.encode.length < 2 ^ 64 → y.encode.length < 2 ^ 64 →
      (Blake3.hash x.encode = Blake3.hash y.encode → x.encode = y.encode) →
      x.id = y.id → x = y) ∧
    (∀ x y : Transaction, x.encode.length < 2 ^ 64 → y.encode.length < 2 ^ 64 →
      (Blake3.hash x.encode = Blake3.hash y.encode → x.encode = y.encode) →
      x.id = y.id → x = y) ∧
    (∀ x y : Essence, x.encode.length < 2 ^ 64 → y.encode.length < 2 ^ 64 →
      (Blake3.hash x.encode = Blake3.hash y.encode → x.encode = y.encode) →
      x.hash = y.hash → x = y) := by
  refine ⟨fun x y r r' hx hy h => (x.readsBack hx).append_inj (y.readsBack hy) h,
    fun x y r r' hx hy h => (x.readsBack hx).append_inj (y.readsBack hy) h,
    fun x y r r' hx hy h => (x.readsBack hx).append_inj (y.readsBack hy) h,
    fun x y hx hy hcf hid => ?_, fun x y hx hy hcf hid => ?_, fun x y hx hy hcf hid => ?_⟩
  · have he := hcf (by simpa [Block.id, BlockId.ofBytes, Digest.ofBytes] using hid)
    exact ((x.readsBack hx).append_inj (y.readsBack hy)
      (show x.encode ++ [] = y.encode ++ [] by rw [he])).1
  · have he := hcf (by simpa [Transaction.id, TransactionId.ofBytes, Digest.ofBytes] using hid)
    exact ((x.readsBack hx).append_inj (y.readsBack hy)
      (show x.encode ++ [] = y.encode ++ [] by rw [he])).1
  · exact ((x.readsBack hx).append_inj (y.readsBack hy)
      (show x.encode ++ [] = y.encode ++ [] by rw [hcf hid])).1

/-- The genesis block is read back from its encoding followed by anything. -/
theorem genesis_encoding_prefix_free :
    Block.genesis.encode.length < 2 ^ 64 ∧ Block.genesis = Block.genesis ∧
      ([1, 2] : List UInt8) = [1, 2] :=
  ⟨by decide, encodings_prefix_free.1 _ _ [1, 2] [1, 2] (by decide) (by decide) rfl⟩

end DagWallet
