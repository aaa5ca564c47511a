import DagWallet.Curve.Edwards25519
import DagWallet.Hash.Sha512

namespace DagWallet

namespace Ed25519

open Edwards25519

/-- The signing scalar of a 32-byte secret: the low half of its SHA-512 digest with the
three low bits cleared, the top bit cleared and the next one set. -/
def scalar (secret : List UInt8) : Nat :=
  let h := (Sha512.hash secret).take 32
  let a := ofLittleEndian h
  (a - a % 8) % Nat.pow 2 254 + Nat.pow 2 254

/-- The second half of the secret's digest, which seeds every nonce. -/
def noncePrefix (secret : List UInt8) : List UInt8 :=
  (Sha512.hash secret).drop 32

/-- The 32-byte public key of a secret. -/
def publicKey (secret : List UInt8) : Vector UInt8 32 :=
  encode (smul (scalar secret) base)

/-- A digest read as a number modulo the group order. -/
def reduce (digest : List UInt8) : Nat :=
  ofLittleEndian digest % order

/-- The deterministic 64-byte signature of a message: the encoded nonce point, then
`r + k a` modulo the group order. -/
def sign (secret : List UInt8) (message : List UInt8) : List UInt8 :=
  let a := scalar secret
  let pk := (publicKey secret).toList
  let r := reduce (Sha512.hash (noncePrefix secret ++ message))
  let rEnc := (encode (smul r base)).toList
  let k := reduce (Sha512.hash (rEnc ++ pk ++ message))
  rEnc ++ (toLittleEndian32 ((r + k * a) % order)).toList

end Ed25519

end DagWallet
