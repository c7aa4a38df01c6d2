import SignOn.Digest.Sha256
/-!
# Keyed digests

HMAC over SHA-256: the digest of the message behind the key, digested once more behind the key.
-/

namespace SignOn.Hmac

/-- The key as a block of sixty-four bytes; a longer key is digested first. -/
def block (key : Bytes) : Bytes :=
  let key := if 64 < key.length then Sha256.digest key else key
  key ++ List.replicate (64 - key.length) 0

/-- The keyed digest of a message. -/
def sha256 (key message : Bytes) : Bytes :=
  let k := block key
  let inner := Sha256.digest (k.map (· ^^^ 0x36) ++ message)
  Sha256.digest (k.map (· ^^^ 0x5c) ++ inner)

end SignOn.Hmac
