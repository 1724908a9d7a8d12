import SessionServer.Digest.Sha256

/-!
HMAC over SHA-256: a message digest that depends on a secret key.
-/

namespace SessionServer.Digest.Hmac

/-- The key as one block: a key longer than a block is digested first, a shorter one is filled up
with zeros. So two keys that differ only in zeros at the end are the same key. -/
def blockKey (key : Bytes) : Bytes :=
  let short := if 64 < key.length then Sha256.digest key else key
  short ++ List.replicate (64 - short.length) 0

def code (key message : Bytes) : Bytes :=
  let block := blockKey key
  let inner := Sha256.digest (block.map (· ^^^ 0x36) ++ message)
  Sha256.digest (block.map (· ^^^ 0x5c) ++ inner)

end SessionServer.Digest.Hmac
