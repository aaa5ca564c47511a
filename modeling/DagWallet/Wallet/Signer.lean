import DagWallet.Wallet.Error
import DagWallet.Signature.Ed25519

namespace DagWallet

/-- An input to be signed: the output it consumes and the key path that owns it. -/
structure SigningInput where
  outputId : OutputId
  output : Output
  account : UInt32
  index : UInt32
deriving DecidableEq

/-- Whoever holds the keys: it gives the address of a key path and the unlocks of an
essence. -/
structure Signer where
  address : UInt32 → UInt32 → Except SignerError Address
  sign : Essence → List SigningInput → Except SignerError (List Unlock)

namespace Seed

/-- The context string that separates address keys from every other use of a seed. -/
def keyContext : String := "ledger-client 2024 ed25519 address key"

/-- The secret key of a key path: derived from the seed, the account and the index, the
last two as four little-endian bytes each. -/
def secretKey (seed : Vector UInt8 32) (account index : UInt32) : List UInt8 :=
  (Blake3.deriveKey keyContext
    (seed.toList ++ Canonical.u32 account ++ Canonical.u32 index)).toList

def publicKey (seed : Vector UInt8 32) (account index : UInt32) : Vector UInt8 32 :=
  Ed25519.publicKey (secretKey seed account index)

/-- An address is the hash of its public key. -/
def address (seed : Vector UInt8 32) (account index : UInt32) : Address :=
  Address.ofBytes (publicKey seed account index).toList

/-- The signing entries name the essence's inputs, in the same order. -/
def entriesMatch (e : Essence) (inputs : List SigningInput) : Bool :=
  inputs.length == e.inputs.length &&
    (inputs.zip e.inputs).all fun (d, id) => d.outputId == id

/-- What a key path gives: its secret key, its public key and the address that key owns. -/
structure PathKeys where
  secret : List UInt8
  publicKey : Vector UInt8 32
  owner : Address

def pathKeys (seed : Vector UInt8 32) (account index : UInt32) : PathKeys :=
  let secret := secretKey seed account index
  let pk := Ed25519.publicKey secret
  ⟨secret, pk, Address.ofBytes pk.toList⟩

/-- The keys of the key paths of the inputs, added to `table`, each path derived once. -/
def keyTable (seed : Vector UInt8 32) :
    List ((UInt32 × UInt32) × PathKeys) → List SigningInput → List ((UInt32 × UInt32) × PathKeys)
  | table, [] => table
  | table, d :: rest =>
    if (table.lookup (d.account, d.index)).isSome then keyTable seed table rest
    else keyTable seed (((d.account, d.index), pathKeys seed d.account d.index) :: table) rest

/-- The keys of an input's key path, from the table when they are there. -/
def keysIn (seed : Vector UInt8 32) (table : List ((UInt32 × UInt32) × PathKeys))
    (d : SigningInput) : PathKeys :=
  match table.lookup (d.account, d.index) with
  | some k => k
  | none => pathKeys seed d.account d.index

/-- Unlocks from position `pos` on, after those `done` so far, latest first. The first input of
each owner carries a signature of the essence hash; a later input of the same owner refers to
that position, kept as a 16-bit number. -/
def unlocks (keys : SigningInput → PathKeys) (hash : List UInt8) :
    Nat → List (Address × UInt16) → List Unlock → List SigningInput →
      Except SignerError (List Unlock)
  | _, _, done, [] => .ok done.reverse
  | pos, signed, done, d :: rest =>
    let k := keys d
    if d.output.owner? != some k.owner then .error (.addressMismatch d.outputId d.account d.index)
    else
      match signed.lookup k.owner with
      | some first => unlocks keys hash (pos + 1) signed (.reference first :: done) rest
      | none =>
        unlocks keys hash (pos + 1) (signed ++ [(k.owner, pos.toUInt16)])
          (.signature k.publicKey (Ed25519.sign k.secret hash) :: done) rest

/-- Signs an essence: entries that do not match its inputs are refused before any key is
looked at. -/
def sign (seed : Vector UInt8 32) (e : Essence) (inputs : List SigningInput) :
    Except SignerError (List Unlock) :=
  if entriesMatch e inputs then
    unlocks (keysIn seed (keyTable seed [] inputs)) e.hash.toList 0 [] [] inputs
  else .error (.inputMismatch inputs.length e.inputs.length)

end Seed

namespace Signer

/-- The signer of a 32-byte seed. -/
def ofSeed (seed : Vector UInt8 32) : Signer :=
  ⟨fun a i => .ok (Seed.address seed a i), Seed.sign seed⟩

/-- A signer whose device refuses: addresses of index `lockedIndex`, and signing when the
first input belongs to index `refusedIndex`. -/
def withFaults (lockedIndex refusedIndex : Option UInt32) (s : Signer) : Signer where
  address a i := if lockedIndex == some i then .error (.backend "device locked") else s.address a i
  sign e inputs :=
    match inputs.head?, refusedIndex with
    | some d, some r => if d.index == r then .error (.backend "signing refused") else s.sign e inputs
    | _, _ => s.sign e inputs

end Signer

end DagWallet
