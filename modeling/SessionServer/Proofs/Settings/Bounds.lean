import Mathlib.Logic.Relation
import SessionServer.Proofs.Text.Decimal
import SessionServer.Settings.CommandLine

/-!
What holds of every command line that is accepted. Whatever the arguments and the environment are, the
options come of the defaults by being set one after another, and no value is set that is out of its
bounds.
-/

namespace SessionServer.Settings
open Text.Decimal (maxWord)

/-- Whether arguments come of others by setting options, one after another. -/
def Arguments.Leads : Arguments → Arguments → Prop :=
  Relation.ReflTransGen fun before after => ∃ switch value, before.set switch value = .ok after

namespace Arguments.Leads

variable {first second third : Arguments}

theorem refl (arguments : Arguments) : arguments.Leads arguments := Relation.ReflTransGen.refl

theorem set {switch : Switch} {value : String} (sets : first.set switch value = .ok second) :
    first.Leads second :=
  Relation.ReflTransGen.single ⟨switch, value, sets⟩

theorem trans (left : first.Leads second) (right : second.Leads third) : first.Leads third :=
  Relation.ReflTransGen.trans left right

end Arguments.Leads

namespace Progress

variable {progress next : Progress} {option : Description} {switch : Switch} {value : String}

theorem leads_of_settle (settled : progress.settle switch value = .ok next) :
    progress.arguments.Leads next.arguments := by
  unfold settle at settled
  split at settled
  next => cases settled
  next =>
    split at settled
    next changed sets =>
      cases settled
      exact .set sets
    next => cases settled

theorem leads_of_close (closed : progress.close = .ok next) :
    progress.arguments.Leads next.arguments := by
  unfold close at closed
  split at closed
  next =>
    cases closed
    exact .refl _
  next => cases closed
  next switch value _ =>
    have leads := leads_of_settle closed
    exact leads

theorem leads_of_take {attached : Option String} {long : Bool}
    (taken : progress.take option attached long = .ok next) :
    progress.arguments.Leads next.arguments := by
  unfold take at taken
  cases closed : progress.close with
  | error rejection =>
    simp only [closed] at taken
    split at taken <;> cases taken
  | ok rest =>
    have before := leads_of_close closed
    simp only [closed] at taken
    split at taken
    next => cases taken
    next =>
      split at taken
      next => cases taken
      next => exact before.trans (leads_of_settle taken)
    next => exact before.trans (leads_of_settle taken)
    next =>
      cases taken
      exact before

theorem leads_of_takeLong {rest : List Char} (taken : progress.takeLong rest = .ok next) :
    progress.arguments.Leads next.arguments := by
  unfold takeLong at taken
  simp only at taken
  split at taken
  next => exact leads_of_take taken
  next => cases taken

theorem leads_of_takeShort {name : Char} {rest : List Char}
    (taken : progress.takeShort name rest = .ok next) :
    progress.arguments.Leads next.arguments := by
  unfold takeShort at taken
  split at taken
  next => cases taken
  next =>
    split at taken
    next => exact leads_of_take taken
    next =>
      split at taken
      next => exact leads_of_take taken
      next => exact leads_of_take taken
      next => exact leads_of_take taken

theorem leads_of_takeValue (taken : progress.takeValue value = .ok next) :
    progress.arguments.Leads next.arguments := by
  unfold takeValue at taken
  split at taken
  next =>
    cases taken
    exact .refl _
  next => cases taken

theorem leads_of_takeAll {arguments : List String} (taken : progress.takeAll arguments = .ok next) :
    progress.arguments.Leads next.arguments := by
  induction arguments generalizing progress with
  | nil => exact leads_of_close taken
  | cons argument rest ih =>
    unfold takeAll at taken
    simp only at taken
    split at taken
    next =>
      split at taken
      next => exact leads_of_close taken
      next => cases taken
    next =>
      split at taken
      next read =>
        refine Arguments.Leads.trans ?_ (ih taken)
        split at read
        next => exact leads_of_takeLong read
        next => exact leads_of_takeShort read
        next => exact leads_of_takeValue read
      next => cases taken

theorem leads_of_fromEnvironment {environment : Environment} {options : List Description}
    (taken : progress.fromEnvironment environment options = .ok next) :
    progress.arguments.Leads next.arguments := by
  induction options generalizing progress with
  | nil =>
    cases taken
    exact .refl _
  | cons option rest ih =>
    unfold fromEnvironment at taken
    simp only at taken
    split at taken
    next read =>
      refine Arguments.Leads.trans ?_ (ih taken)
      split at read
      next =>
        cases read
        exact .refl _
      next =>
        split at read
        next => exact leads_of_settle read
        next =>
          cases read
          exact .refl _
    next => cases taken

end Progress

/-- Accepted arguments come of the defaults. -/
theorem Arguments.leads_of_parse {arguments : List String} {environment : Environment}
    {accepted : Arguments} (parsed : parse arguments environment = .ok accepted) :
    ({} : Arguments).Leads accepted := by
  unfold parse at parsed
  split at parsed
  next => cases parsed
  next read =>
    split at parsed
    next => cases parsed
    next completed =>
      cases parsed
      exact (Progress.leads_of_takeAll read).trans (Progress.leads_of_fromEnvironment completed)

/-- Whether every number is within the bounds of its option. -/
structure Arguments.IsWithin (arguments : Arguments) : Prop where
  port : arguments.port ≤ maxPort
  sessionLifetime : minLifetime ≤ arguments.sessionLifetime ∧ arguments.sessionLifetime ≤ maxWord
  purgeInterval : minInterval ≤ arguments.purgeInterval ∧ arguments.purgeInterval ≤ maxWord
  pingInterval : ∀ interval, arguments.pingInterval = some interval →
    minInterval ≤ interval ∧ interval ≤ maxWord

theorem Arguments.isWithin_default : ({} : Arguments).IsWithin where
  port := by decide
  sessionLifetime := by decide
  purgeInterval := by decide
  pingInterval _ absent := nomatch absent

theorem le_of_port? {value : String} {n : Nat} (read : port? value = .ok n) : n ≤ maxPort := by
  unfold port? at read
  split at read
  next =>
    split at read
    next fits =>
      cases read
      exact fits
    next => cases read
  next => cases read

theorem le_of_atLeast? {least n : Nat} {value : String} (read : atLeast? least value = .ok n) :
    least ≤ n ∧ n ≤ maxWord := by
  unfold atLeast? at read
  split at read
  next number =>
    split at read
    next enough =>
      cases read
      exact ⟨enough, Text.Decimal.le_of_word? number⟩
    next => cases read
  next => cases read

theorem eq_ok_of_map {α β : Type} {result : Except Rejection α} {f : α → β} {value : β}
    (mapped : result.map f = .ok value) : ∃ found, result = .ok found ∧ f found = value := by
  cases result with
  | error rejection => cases mapped
  | ok found => exact ⟨found, rfl, Except.ok.inj mapped⟩

theorem Arguments.IsWithin.set {arguments changed : Arguments} {switch : Switch} {value : String}
    (within : arguments.IsWithin) (sets : arguments.set switch value = .ok changed) :
    changed.IsWithin := by
  cases switch with
  | port =>
    obtain ⟨n, read, rfl⟩ := eq_ok_of_map sets
    exact { within with port := le_of_port? read }
  | sessionLifetime =>
    obtain ⟨n, read, rfl⟩ := eq_ok_of_map sets
    exact { within with sessionLifetime := le_of_atLeast? read }
  | purgeInterval =>
    obtain ⟨n, read, rfl⟩ := eq_ok_of_map sets
    exact { within with purgeInterval := le_of_atLeast? read }
  | pingInterval =>
    obtain ⟨n, read, rfl⟩ := eq_ok_of_map sets
    refine { within with pingInterval := ?_ }
    rintro interval ⟨⟩
    exact le_of_atLeast? read
  | blacklist | secureCookies | logFormat =>
    obtain ⟨chosen, -, rfl⟩ := eq_ok_of_map sets
    exact { within with }
  | database | secretFile | help =>
    cases sets
    exact { within with }

theorem Arguments.IsWithin.of_leads {before after : Arguments} (within : before.IsWithin)
    (leads : before.Leads after) : after.IsWithin := by
  induction leads with
  | refl => exact within
  | tail _ sets ih =>
    obtain ⟨switch, value, sets⟩ := sets
    exact ih.set sets

/-- Every number of accepted arguments is within its bounds. -/
theorem Arguments.isWithin_of_parse {arguments : List String} {environment : Environment}
    {accepted : Arguments} (parsed : parse arguments environment = .ok accepted) :
    accepted.IsWithin :=
  isWithin_default.of_leads (leads_of_parse parsed)

end SessionServer.Settings
