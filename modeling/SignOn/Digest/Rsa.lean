import SignOn.Digest.Sha256
/-!
# RSA signatures

Verification of PKCS#1 v1.5 signatures over SHA-256: the signature, raised to the public exponent,
must be exactly the padded digest of the message.
-/

namespace SignOn.Rsa

/-- The number of a big-endian byte string. -/
def number (bytes : Bytes) : Nat :=
  bytes.foldl (fun n b => 256 * n + b.toNat) 0

/-- `b ^ e` modulo `m`, one binary digit of `e` at a time; `fuel` is at least their count. -/
def powMod (m : Nat) : Nat → Nat → Nat → Nat → Nat
  | 0, acc, _, _ => acc
  | fuel + 1, acc, b, e =>
    if e = 0 then acc
    else powMod m fuel (if e % 2 = 1 then acc * b % m else acc) (b * b % m) (e / 2)

/-- How many binary digits a number has. -/
def bitLength (n : Nat) : Nat :=
  if n = 0 then 0 else n.log2 + 1

/-- What names SHA-256 before a digest. -/
def digestInfo : Bytes :=
  [0x30, 0x31, 0x30, 0x0d, 0x06, 0x09, 0x60, 0x86, 0x48, 0x01, 0x65, 0x03, 0x04, 0x02, 0x01, 0x05,
   0x00, 0x04, 0x20]

/-- The padded digest of a message, `length` bytes long. -/
def encoded (length : Nat) (message : Bytes) : Bytes :=
  let tail := digestInfo ++ Sha256.digest message
  0x00 :: 0x01 :: List.replicate (length - 3 - tail.length) 0xff ++ 0x00 :: tail

/-- A key that is used at all: 2048 to 8192 bits, with an odd exponent from 3 to below 2^33. -/
def isUsable (n e : Nat) : Bool :=
  2048 ≤ bitLength n && bitLength n ≤ 8192 && n % 2 == 1 && e % 2 == 1 && 3 ≤ e && e < 0x200000000

/-- Whether a signature of a message verifies under modulus and exponent. -/
def verifies (modulus exponent message signature : Bytes) : Bool :=
  let n := number modulus
  let e := number exponent
  let length := (bitLength n + 7) / 8
  let s := number signature
  isUsable n e && signature.length == length && s < n &&
    Sha256.bigEndian length (powMod n (bitLength e) 1 s e) == encoded length message

end SignOn.Rsa
