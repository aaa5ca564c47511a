import DagWallet.Ledger.Id
import DagWallet.Encoding.Canonical

namespace DagWallet

/-- A condition that an output places on whoever spends it. -/
inductive UnlockCondition where
  | address (owner : Address)
  | expiration (returnAddress : Address) (timestamp : UInt32)
  | timelock (timestamp : UInt32)
  | storageDepositReturn (returnAddress : Address) (amount : UInt64)
deriving DecidableEq

/-- Data attached to an output that places no condition. -/
inductive Feature where
  | sender (address : Address)
  | metadata (data : List UInt8)
  | tag (tag : List UInt8)
deriving DecidableEq

/-- An amount of funds with the conditions and features that come with it. -/
structure Output where
  amount : UInt64
  unlockConditions : List UnlockCondition
  features : List Feature
deriving DecidableEq

namespace UnlockCondition

def owner? : UnlockCondition → Option Address
  | .address a => some a
  | _ => none

def isExpiration : UnlockCondition → Bool
  | .expiration .. => true
  | _ => false

def isTimelock : UnlockCondition → Bool
  | .timelock .. => true
  | _ => false

def isStorageDepositReturn : UnlockCondition → Bool
  | .storageDepositReturn .. => true
  | _ => false

def encode : UnlockCondition → List UInt8
  | .address a => Canonical.variant 0 ++ a.digest.toList
  | .expiration r t => Canonical.variant 1 ++ r.digest.toList ++ Canonical.u32 t
  | .timelock t => Canonical.variant 2 ++ Canonical.u32 t
  | .storageDepositReturn r a => Canonical.variant 3 ++ r.digest.toList ++ Canonical.u64 a

end UnlockCondition

namespace Feature

def encode : Feature → List UInt8
  | .sender a => Canonical.variant 0 ++ a.digest.toList
  | .metadata d => Canonical.variant 1 ++ Canonical.bytes d
  | .tag t => Canonical.variant 2 ++ Canonical.bytes t

end Feature

namespace Output

/-- An output of `amount` that only `owner` can spend. -/
def basic (amount : UInt64) (owner : Address) : Output :=
  ⟨amount, [.address owner], []⟩

/-- The owner is the first address condition, if there is one. -/
def owner? (o : Output) : Option Address :=
  o.unlockConditions.findSome? UnlockCondition.owner?

def hasExpiration (o : Output) : Bool := o.unlockConditions.any UnlockCondition.isExpiration

def hasTimelock (o : Output) : Bool := o.unlockConditions.any UnlockCondition.isTimelock

def hasStorageDepositReturn (o : Output) : Bool :=
  o.unlockConditions.any UnlockCondition.isStorageDepositReturn

def encode (o : Output) : List UInt8 :=
  Canonical.u64 o.amount ++ Canonical.seq UnlockCondition.encode o.unlockConditions ++
    Canonical.seq Feature.encode o.features

end Output

/-- Which outputs a search wants: each set field must equal the output's property. -/
structure OutputFilter where
  hasExpiration : Option Bool := none
  hasTimelock : Option Bool := none
  hasStorageDepositReturn : Option Bool := none
deriving DecidableEq

namespace OutputFilter

/-- Outputs with no expiration, timelock or deposit return: what a plain owner can spend. -/
def basic : OutputFilter := ⟨some false, some false, some false⟩

/-- A wanted value, if any, against the actual one. -/
def check (wanted : Option Bool) (actual : Bool) : Bool :=
  match wanted with
  | none => true
  | some w => w == actual

def accepts (f : OutputFilter) (o : Output) : Bool :=
  check f.hasExpiration o.hasExpiration && check f.hasTimelock o.hasTimelock &&
    check f.hasStorageDepositReturn o.hasStorageDepositReturn

end OutputFilter

end DagWallet
