import SessionServer.Proofs.Database.Reopening
import SessionServer.Proofs.Endpoint.Login
import SessionServer.Proofs.Server.Steps
import SessionServer.Proofs.Settings.Bounds
import SessionServer.Proofs.Settings.Secret
import SessionServer.Server.Startup

/-!
What a server can rely on when its command line was accepted. It can wait for its intervals, and it issues
tokens for as long as the clock and the lifetime of a session add up to a time that can be written. Once it
listens, it signs with a key that is long enough and was offered to it.
-/

namespace SessionServer.Server
open Endpoint.Login (authenticate begin?)
open Settings (Arguments)
open Text.Decimal (maxWord maxSigned)

/-- A server that listens signs with 32 octets at least: those of the variable if they are a text, and else
those of the text in the file. -/
theorem secret_of_launch {surroundings : Surroundings} {arguments : Arguments} {state : State}
    {log : List LogEntry} (listens : launch surroundings arguments = (.listening state, log)) :
    let file := arguments.secretFile.map fun path => (path, surroundings.secretFile path)
    let octets := state.site.policy.secret
    32 ≤ octets.length ∧
      ∃ secret, octets = Utf8.ofString secret ∧
        Settings.Secret.Offers surroundings.secret file secret := by
  unfold launch at listens
  simp only at listens
  split at listens
  next => cases listens
  next secret loaded =>
    split at listens
    next => cases listens
    next opened =>
      cases listens
      have policy := (State.isSettled_of_start opened).policy
      rw [State.setup_of_start opened] at policy
      obtain ⟨offers, long⟩ := Settings.Secret.secret_eq_ok_iff.mp loaded
      have octets := congrArg Endpoint.Policy.secret policy
      exact ⟨octets ▸ long, secret, octets, offers⟩

/-- Whatever command line and environment are accepted, no interval is zero, which is all that the timers of
the periodic tasks ask of one. A token can be issued unless it would expire past the largest time, which
happens to no clock that counts seconds in a signed word unless the lifetime is above its range; a login with
an account's credentials fails then, and begins a session otherwise. -/
theorem configuration_workable {arguments : List String} {environment : Settings.Environment}
    {accepted : Arguments} (parsed : Arguments.parse arguments environment = .ok accepted)
    (secret : String) :
    let config := Config.ofArguments accepted secret
    let lifetime := config.policy.sessionLifetime
    0 < config.purgeInterval ∧
      (∀ interval, config.pingInterval = some interval → 0 < interval) ∧
      60 ≤ lifetime ∧
      (∀ principal now tokenId,
        Token.issue config.policy.secret principal now lifetime tokenId = .error .lifetime ↔
          maxWord < now + lifetime) ∧
      ((∀ principal now tokenId, now ≤ maxSigned →
          ∃ issued, Token.issue config.policy.secret principal now lifetime tokenId = .ok issued) ↔
        lifetime ≤ maxSigned + 1) ∧
      ∀ database moment now form account, moment.clock = some now →
        authenticate database form = .ok account →
          (maxWord < now + lifetime →
            begin? config.policy database moment form =
              .error (.internal "Failed to generate token")) ∧
          (now + lifetime ≤ maxWord →
            ∃ begun, begin? config.policy database moment form = .ok begun ∧
              begun.issued.expiresAt = now + lifetime) := by
  intro config lifetime
  have within := Arguments.isWithin_of_parse parsed
  have issues {principal : Principal} {now : Nat} {tokenId : String} (fits : now + lifetime ≤ maxWord) :
      ∃ issued, Token.issue config.policy.secret principal now lifetime tokenId = .ok issued ∧
        issued.expiresAt = now + lifetime :=
    ⟨_, Token.issue_eq_ok_iff.mpr ⟨fits, rfl⟩, rfl⟩
  refine ⟨within.purgeInterval.1, fun interval set => (within.pingInterval interval set).1,
    within.sessionLifetime.1, fun _ _ _ => Token.issue_eq_error_iff, ⟨?_, ?_⟩, ?_⟩
  · intro always
    obtain ⟨issued, good⟩ := always { id := 0, email := "", displayName := "" } maxSigned "" (Nat.le_refl _)
    have fits := (Token.issue_eq_ok_iff.mp good).1
    unfold maxWord at fits
    unfold maxSigned at fits ⊢
    omega
  · intro short principal now tokenId early
    have fits : now + lifetime ≤ maxWord := by
      unfold maxWord
      unfold maxSigned at short early
      omega
    obtain ⟨issued, good, -⟩ := issues fits
    exact ⟨issued, good⟩
  · intro database moment now form account reads known
    refine ⟨Endpoint.Login.begin?_of_late known reads, ?_⟩
    intro fits
    obtain ⟨issued, good, expires⟩ := issues fits
    exact ⟨{ issued := issued, user := account.principal },
      Endpoint.Login.begin?_eq_ok_iff.mpr ⟨account, now, known, reads, rfl, good⟩, expires⟩

/-- Arguments with an hour for a session and some seconds for a socket. -/
def hourly : Arguments := { sessionLifetime := 3600, pingInterval := some 10 }

/-- With a lifetime from the environment and an interval from the command line, a token can be issued at
the last moment of a signed clock. -/
theorem configuration_workable_hourly :
    Arguments.parse ["--ws-ping-interval-secs", "10"] [("PARLEY_SESSION_TTL_SECS", "3600")] =
        .ok hourly ∧
      ∃ issued, Token.issue (Config.ofArguments hourly "secret").policy.secret
        { id := 1, email := "ada@example.org", displayName := "Ada" } 9223372036854775807 3600 "first" =
          .ok issued := by
  have parsed : Arguments.parse ["--ws-ping-interval-secs", "10"]
      [("PARLEY_SESSION_TTL_SECS", "3600")] = .ok hourly :=
    Database.eq_ok_of_toOption (by decide +kernel)
  obtain ⟨-, -, -, -, short, -⟩ := configuration_workable parsed "secret"
  exact ⟨parsed, short.mpr (by decide) _ _ _ (by decide)⟩

/-- Arguments with the longest lifetime that a word can hold. -/
def everlasting : Arguments := { sessionLifetime := 18446744073709551615 }

/-- A lifetime is accepted also where no token can be issued with it. -/
theorem issue_fails_everlasting :
    Arguments.parse ["--session-ttl-secs", "18446744073709551615"] [] = .ok everlasting ∧
      1700000000 ≤ maxSigned ∧
      Token.issue (Config.ofArguments everlasting "secret").policy.secret
        { id := 1, email := "ada@example.org", displayName := "Ada" } 1700000000
        (Config.ofArguments everlasting "secret").policy.sessionLifetime "first" = .error .lifetime := by
  refine ⟨Database.eq_ok_of_toOption (by decide +kernel), by decide, ?_⟩
  exact Token.issue_eq_error_iff.mpr (by decide)

end SessionServer.Server
