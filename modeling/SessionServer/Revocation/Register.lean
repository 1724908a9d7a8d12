import SessionServer.Digest.Sha256

/-!
The register of revoked tokens. An entry is kept under the digest of its token, so that the register
holds no credential, and lives until the token's own expiry: then the token fails anyway.
-/

namespace SessionServer.Revocation

/-- What a token is kept under. -/
def digest (token : String) : Bytes := Digest.Sha256.digest (Utf8.ofString token)

/-- Revoked tokens by digest, each with the time at which its entry ends. -/
abbrev Register := List (Bytes × Nat)

namespace Register

def empty : Register := []

def expiry? (register : Register) (key : Bytes) : Option Nat := register.lookup key

/-- Records an entry. The later end counts if there was an entry before. -/
def record : Register → (key : Bytes) → (expiry : Nat) → Register
  | [], key, expiry => [(key, expiry)]
  | entry :: rest, key, expiry =>
      if entry.1 = key then (key, max entry.2 expiry) :: rest
      else entry :: record rest key expiry

/-- Whether there is an entry that ends after `now`. -/
def holds (register : Register) (key : Bytes) (now : Nat) : Bool :=
  match register.expiry? key with
  | some expiry => now < expiry
  | none => false

/-- The register without the entry under a digest. -/
def drop (register : Register) (key : Bytes) : Register := register.filter fun entry => entry.1 ≠ key

/-- The entries that end after `now`. -/
def live (register : Register) (now : Nat) : Register := register.filter fun entry => now < entry.2

/-- How many entries have ended by `now`. -/
def endedCount (register : Register) (now : Nat) : Nat :=
  (register.filter fun entry => entry.2 ≤ now).length

/-- Whether octets come before others, compared from the front. -/
def precedes : Bytes → Bytes → Bool
  | [], _ => true
  | _ :: _, [] => false
  | a :: rest, b :: others => a < b || (a == b && precedes rest others)

/-- The entries in the order of their digests. -/
def sorted (register : Register) : Register :=
  register.mergeSort fun first second => precedes first.1 second.1

theorem live_length_add_endedCount (register : Register) (now : Nat) :
    (register.live now).length + register.endedCount now = register.length := by
  induction register with
  | nil => rfl
  | cons entry rest ih =>
      simp only [live, endedCount, List.filter_cons] at ih ⊢
      by_cases ended : entry.2 ≤ now
      · simp only [ended, Nat.not_lt.mpr ended, decide_true, decide_false, if_true,
          List.length_cons, Bool.false_eq_true, if_false]
        omega
      · simp only [ended, Nat.lt_of_not_le ended, decide_true, decide_false, if_true,
          List.length_cons, Bool.false_eq_true, if_false]
        omega

end Register

end SessionServer.Revocation
