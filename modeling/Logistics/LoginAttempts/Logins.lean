import Logistics.Auth.Users
import Logistics.Library.Expansion
import Logistics.LoginAttempts.Service

/-!
# Logins over Redis

The requests of the identity services with the attempts counted in Redis: each call of
`assertCanAttempt`, `recordFailedAttempt` or `clear` is the program of the service, so
every call of the client is a step of its own. A login is then in one of five phases,
each known by the call it makes next.
-/

namespace Logistics.LoginAttempts

open Logistics.Library

@[reducible] def loginInterface : Interface :=
  Auth.authInterface.extend AttemptCommand AttemptCommand.Result

abbrev count (c : AttemptCommand) : Program loginInterface c.Result :=
  @Program.perform loginInterface (.inr c)

/-- What the identity services call, answered with the attempt service. -/
def connect (cfg : AttemptConfig) : (c : Auth.Command) → Program loginInterface c.Result
  | .external (.assertCanAttempt identifier) =>
      (assertCanAttempt cfg identifier).expand count
  | .external (.recordFailedAttempt identifier) =>
      (recordFailedAttempt cfg identifier).expand count
  | .external (.clearAttempts identifier) =>
      (clear identifier).expand count
  | c => @Program.perform loginInterface (.inl c)

def executeLogins [Collation] (cfg : AttemptConfig) :
    Backend loginInterface Auth.AuthInput (Auth.AuthStore × AttemptStore)
  | .inl c, input, (s, attempts) =>
      let (answer, s') := Auth.execute c input s
      (answer, s', attempts)
  | .inr c, input, (s, attempts) =>
      let (answer, attempts') := execute cfg c ⟨input.now, input.fault⟩ attempts
      (answer, s, attempts')

def loginSystem [Collation] (P : Auth.Platform) (cfg : AttemptConfig) :
    System loginInterface Auth.Request Auth.Reply Auth.AuthInput (Auth.AuthStore × AttemptStore) :=
  ⟨executeLogins cfg, fun r => (Auth.handle P r).expand (connect cfg)⟩

/-! ## The phases of a login -/

/-- Neither the candidates of a login nor its attempts are asked for. -/
def OffCounter : loginInterface.Command → Prop
  | .inl (.query (.findUsers ..)) | .inr _ => False
  | _ => True

section

variable (cfg : AttemptConfig) (identifier : String) (p : Program loginInterface Auth.Reply)

/-- The rest neither verifies a password nor counts. -/
def Quiet : Prop := p.Issues OffCounter

/-- The first failure is recorded, its window is to be started. -/
def Starting : Prop :=
  ∃ k, p = .call (.inr (.expire (redisKey identifier) cfg.authLoginWindowSeconds)) k ∧
    ∀ x, Quiet (k (.ok x))

/-- The password is verified: the failure is to be recorded, or the attempts cleared. -/
def Recording : Prop :=
  (∃ k, p = .call (.inr (.incr (redisKey identifier))) k ∧ ∀ attempts : ℕ,
      if attempts = 1 then Starting cfg identifier (k (.ok attempts))
      else Quiet (k (.ok attempts))) ∨
    ∃ k, p = .call (.inr (.deleteLocally identifier)) k

/-- The check is passed, the candidates are to be found and the password verified. -/
def Looking : Prop :=
  ∃ filter take k, p = .call (.inl (.query (.findUsers filter take))) k ∧
    (∀ users, Recording cfg identifier (k (.ok users))) ∧ ∀ e, Quiet (k (.error e))

/-- The attempts are to be checked. -/
def Checking : Prop :=
  ∃ k, p = .call (.inr (.get (redisKey identifier))) k ∧ ∀ attempts : Option ℕ,
    if attempts.getD 0 ≥ cfg.authLoginMaxAttempts then Quiet (k (.ok attempts))
    else Looking cfg identifier (k (.ok attempts))

end

/-- The identifier under which the attempts of a login are counted. -/
def loginIdentifier (P : Auth.Platform) (dto : Auth.LoginDto)
    (metadata : Auth.AuthRequestMetadata) : String :=
  Auth.buildIdentifier P (Auth.normalizeEmail P dto.email) metadata.ip (dto.tenantSlug.map trim)

/-! The programs of the attempt service, in the place of the call that they answer. -/

section

variable (cfg : AttemptConfig) (identifier : String) {α : Type}

theorem attempt_assertCanAttempt (f : Except ServiceError Unit → Program loginInterface α) :
    ∃ k, (connect cfg (.external (.assertCanAttempt identifier))).attempt f =
        .call (.inr (.get (redisKey identifier))) k ∧
      ∀ attempts : Option ℕ, k (.ok attempts) =
        f (if attempts.getD 0 ≥ cfg.authLoginMaxAttempts then .error .tooManyRequests
          else .ok ()) := by
  refine ⟨_, rfl, fun attempts => ?_⟩
  by_cases hlocked : attempts.getD 0 ≥ cfg.authLoginMaxAttempts
  · rw [if_pos hlocked]
    simp [Program.attempt, Program.bind, Program.expand, Program.throwIf, hlocked]
  · rw [if_neg hlocked]
    simp [Program.attempt, Program.bind, Program.expand, Program.throwIf, hlocked]

theorem attempt_recordFailedAttempt (f : Except ServiceError Bool → Program loginInterface α) :
    ∃ k, (connect cfg (.external (.recordFailedAttempt identifier))).attempt f =
        .call (.inr (.incr (redisKey identifier))) k ∧
      ∀ attempts : ℕ,
        if attempts = 1 then
          ∃ k', k (.ok attempts) =
              .call (.inr (.expire (redisKey identifier) cfg.authLoginWindowSeconds)) k' ∧
            ∀ x, k' (.ok x) = f (.ok (decide (attempts ≥ cfg.authLoginMaxAttempts)))
        else k (.ok attempts) = f (.ok (decide (attempts ≥ cfg.authLoginMaxAttempts))) := by
  refine ⟨_, rfl, fun attempts => ?_⟩
  by_cases hfirst : attempts = 1
  · rw [if_pos hfirst]
    subst hfirst
    exact ⟨_, rfl, fun _ => rfl⟩
  · rw [if_neg hfirst]
    simp [Program.attempt, Program.bind, Program.expand, startWindow, hfirst]

theorem attempt_clearAttempts (f : Except ServiceError Unit → Program loginInterface α) :
    ∃ k, (connect cfg (.external (.clearAttempts identifier))).attempt f =
      .call (.inr (.deleteLocally identifier)) k :=
  ⟨_, rfl⟩

end

/-! What a login does besides. -/

/-- A call of the identity services that is not about the candidates or the attempts. -/
def OffAttempts : Auth.Command → Prop
  | .query (.findUsers ..) | .external (.assertCanAttempt _) | .external (.recordFailedAttempt _)
  | .external (.clearAttempts _) => False
  | _ => True

theorem quiet_expand {cfg : AttemptConfig} {p : Program Auth.authInterface Auth.Reply}
    (hp : p.Issues OffAttempts) : Quiet (p.expand (connect cfg)) := by
  refine Program.Issues.expand (P := OffAttempts) hp fun c hc => ?_
  cases c with
  | query q =>
      cases q with
      | findUsers filter take => exact absurd hc id
      | _ => exact Program.Issues.perform trivial
  | write w => exact Program.Issues.perform trivial
  | external e =>
      cases e with
      | assertCanAttempt | recordFailedAttempt | clearAttempts => exact absurd hc id
      | _ => exact Program.Issues.perform trivial

/-- The login goes on with the verification of the password. -/
def Verifies (identifier : String) (p : Program Auth.authInterface Auth.Reply) : Prop :=
  ∃ filter take k, p = .call (.query (.findUsers filter take)) k ∧
    (∀ users, (∃ k', k (.ok users) = .call (.external (.recordFailedAttempt identifier)) k' ∧
        ∀ r, (k' r).Issues OffAttempts) ∨
      ∃ k', k (.ok users) = .call (.external (.clearAttempts identifier)) k') ∧
    ∀ e, (k (.error e)).Issues OffAttempts

theorem handle_login (P : Auth.Platform) (dto : Auth.LoginDto)
    (metadata : Auth.AuthRequestMetadata) :
    ∃ k, Auth.handle P (.login dto metadata) =
        .call (.external (.assertCanAttempt (loginIdentifier P dto metadata))) k ∧
      Verifies (loginIdentifier P dto metadata) (k (.ok ())) ∧
      ∀ e, (k (.error e)).Issues OffAttempts := by
  refine ⟨_, rfl, ⟨_, _, _, rfl, fun users => ?_, fun e => trivial⟩, fun e => ?_⟩
  · dsimp only [Program.bind]
    generalize Option.filter _ _ = verified
    cases verified with
    | some user => exact .inr ⟨_, rfl⟩
    | none =>
        refine .inl ⟨_, rfl, fun r => ?_⟩
        cases r with
        | error e => trivial
        | ok locked => exact ⟨trivial, fun r => by cases r <;> cases locked <;> trivial⟩
  · exact ⟨trivial, fun r => by cases r <;> trivial⟩

theorem looking_expand {cfg : AttemptConfig} {identifier : String}
    {p : Program Auth.authInterface Auth.Reply} (h : Verifies identifier p) :
    Looking cfg identifier (p.expand (connect cfg)) := by
  obtain ⟨filter, take, k, rfl, hverified, hfails⟩ := h
  refine ⟨filter, take, _, rfl, fun users => ?_, fun e => ?_⟩
  · change Recording cfg identifier ((k (.ok users)).expand (connect cfg))
    rcases hverified users with ⟨k', hrejected, hquiet⟩ | ⟨k', hadmitted⟩
    · obtain ⟨k'', hcall, hk''⟩ := attempt_recordFailedAttempt cfg identifier
        fun r => (k' r).expand (connect cfg)
      refine .inl ⟨k'', ?_, fun attempts => ?_⟩
      · rw [← hcall, hrejected]
        rfl
      · have hrecorded := hk'' attempts
        split at hrecorded
        · rw [if_pos ‹_›]
          obtain ⟨k₁, hexpire, hk₁⟩ := hrecorded
          exact ⟨k₁, hexpire, fun x => (hk₁ x).symm ▸ quiet_expand (hquiet _)⟩
        · rw [if_neg ‹_›, hrecorded]
          exact quiet_expand (hquiet _)
    · obtain ⟨k'', hcall⟩ := attempt_clearAttempts cfg identifier
        fun r => (k' r).expand (connect cfg)
      refine .inr ⟨k'', ?_⟩
      rw [← hcall, hadmitted]
      rfl
  · exact quiet_expand (hfails e)

theorem login_checking [Collation] (P : Auth.Platform) (cfg : AttemptConfig)
    (dto : Auth.LoginDto) (metadata : Auth.AuthRequestMetadata) :
    Checking cfg (loginIdentifier P dto metadata)
      ((loginSystem P cfg).handle (.login dto metadata)) := by
  obtain ⟨k, hlogin, hverifies, hrefused⟩ := handle_login P dto metadata
  obtain ⟨k', hcall, hk'⟩ := attempt_assertCanAttempt cfg (loginIdentifier P dto metadata)
    fun r => (k r).expand (connect cfg)
  refine ⟨k', ?_, fun attempts => ?_⟩
  · rw [← hcall]
    exact congrArg (Program.expand (connect cfg)) hlogin
  · rw [hk']
    by_cases hlocked : attempts.getD 0 ≥ cfg.authLoginMaxAttempts
    · rw [if_pos hlocked, if_pos hlocked]
      exact quiet_expand (hrefused _)
    · rw [if_neg hlocked, if_neg hlocked]
      exact looking_expand hverifies

end Logistics.LoginAttempts
