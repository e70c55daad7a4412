import Mathlib.Logic.Function.Basic
import Logistics.Library.Sequential
import Logistics.Schema.Errors
import Logistics.Schema.Scalars

/-!
# Login attempts

`AuthLoginAttemptService` counts the failed logins of an identifier under a key of
Redis, which forgets the key when it expires. Each call of the client may fail; the
service then falls back on a map of its own, whose entries carry their expiry with them.
A call of the client that fails changes nothing.
-/

namespace Logistics.LoginAttempts

open Logistics.Library

/-- The settings, which are positive integers. -/
structure AttemptConfig where
  authLoginMaxAttempts : ℕ
  authLoginWindowSeconds : ℕ
  maxAttempts_pos : 0 < authLoginMaxAttempts
  windowSeconds_pos : 0 < authLoginWindowSeconds

structure LocalAttemptState where
  attempts : ℕ
  expiresAt : Time
  deriving DecidableEq

/-- The number under a key, and when the key expires, if it ever does. -/
structure Counter where
  attempts : ℕ
  expiresAt : Option Time
  deriving DecidableEq

structure AttemptStore where
  redis : String → Option Counter
  localAttempts : String → Option LocalAttemptState

def AttemptStore.empty : AttemptStore := ⟨fun _ => none, fun _ => none⟩

/-- The clock at a call, and whether the client of Redis fails. -/
structure AttemptInput where
  now : Time
  fault : Bool

/-! ## Calls -/

inductive AttemptCommand
  | get (key : String)
  | incr (key : String)
  | expire (key : String) (seconds : ℕ)
  | del (key : String)
  /-- `recordLocalFailedAttempt` -/
  | recordLocally (identifier : String)
  /-- `isLocallyLocked` -/
  | readLocally (identifier : String)
  /-- `localAttempts.delete` -/
  | deleteLocally (identifier : String)
  deriving DecidableEq

/-- The text of a counter is the number that `Number` makes of it. -/
@[reducible] def AttemptCommand.Result : AttemptCommand → Type
  | .get _ => Option ℕ
  | .incr _ => ℕ
  | .expire .. | .del _ | .deleteLocally _ => Unit
  | .recordLocally _ | .readLocally _ => Bool

@[reducible] def attemptInterface : Interface :=
  ⟨AttemptCommand, AttemptCommand.Result, ServiceError⟩

def Counter.live (now : Time) (row : Counter) : Bool :=
  row.expiresAt.all (now < ·)

/-- The key as Redis sees it: one that has expired is absent. -/
def AttemptStore.find (s : AttemptStore) (now : Time) (key : String) : Option Counter :=
  (s.redis key).filter (Counter.live now)

def AttemptStore.setRedis (s : AttemptStore) (key : String) (row : Option Counter) :
    AttemptStore :=
  { s with redis := Function.update s.redis key row }

def AttemptStore.setLocal (s : AttemptStore) (identifier : String)
    (row : Option LocalAttemptState) : AttemptStore :=
  { s with localAttempts := Function.update s.localAttempts identifier row }

@[simp] theorem setRedis_redis (s : AttemptStore) (key : String) (row : Option Counter) :
    (s.setRedis key row).redis = Function.update s.redis key row := rfl

@[simp] theorem setRedis_localAttempts (s : AttemptStore) (key : String) (row : Option Counter) :
    (s.setRedis key row).localAttempts = s.localAttempts := rfl

@[simp] theorem setLocal_redis (s : AttemptStore) (identifier : String)
    (row : Option LocalAttemptState) : (s.setLocal identifier row).redis = s.redis := rfl

@[simp] theorem setLocal_localAttempts (s : AttemptStore) (identifier : String)
    (row : Option LocalAttemptState) :
    (s.setLocal identifier row).localAttempts = Function.update s.localAttempts identifier row :=
  rfl

@[simp] theorem find_setRedis_self (s : AttemptStore) (now : Time) (key : String)
    (row : Option Counter) : (s.setRedis key row).find now key = row.filter (Counter.live now) := by
  simp [AttemptStore.find]

@[simp] theorem find_setRedis_of_ne {s : AttemptStore} {now : Time} {key other : String}
    {row : Option Counter} (h : other ≠ key) :
    (s.setRedis key row).find now other = s.find now other := by
  simp [AttemptStore.find, h]

@[simp] theorem setRedis_setRedis (s : AttemptStore) (key : String) (row row' : Option Counter) :
    (s.setRedis key row).setRedis key row' = s.setRedis key row' := by
  simp [AttemptStore.setRedis]

section

variable (cfg : AttemptConfig)

def recordLocalFailedAttempt (now : Time) (current : Option LocalAttemptState) :
    LocalAttemptState :=
  let next :=
    match current.filter fun current => current.expiresAt > now with
    | some current => current
    | none => ⟨0, now + cfg.authLoginWindowSeconds * 1000⟩
  { next with attempts := next.attempts + 1 }

def isLocallyLocked (s : AttemptStore) (now : Time) (identifier : String) : Bool × AttemptStore :=
  match s.localAttempts identifier with
  | none => (false, s)
  | some current =>
      if current.expiresAt ≤ now then (false, s.setLocal identifier none)
      else (current.attempts ≥ cfg.authLoginMaxAttempts, s)

/-- A call of the client of Redis answers on the keys, unless it fails. -/
def onRedis {α : Type} (input : AttemptInput) (s : AttemptStore) (answer : α)
    (s' : AttemptStore) : Except ServiceError α × AttemptStore :=
  if input.fault then (.error .fault, s) else (.ok answer, s')

def execute : (c : AttemptCommand) → AttemptInput → AttemptStore →
    Response attemptInterface c × AttemptStore
  | .get key, input, s => onRedis input s ((s.find input.now key).map Counter.attempts) s
  | .incr key, input, s =>
      let current := (s.find input.now key).getD ⟨0, none⟩
      let next := { current with attempts := current.attempts + 1 }
      onRedis input s next.attempts (s.setRedis key (some next))
  | .expire key seconds, input, s =>
      onRedis input s () <|
        match s.find input.now key with
        | some current =>
            s.setRedis key (some { current with expiresAt := some (input.now + seconds * 1000) })
        | none => s
  | .del key, input, s => onRedis input s () (s.setRedis key none)
  | .recordLocally identifier, input, s =>
      let next := recordLocalFailedAttempt cfg input.now (s.localAttempts identifier)
      (.ok (decide (next.attempts ≥ cfg.authLoginMaxAttempts)), s.setLocal identifier (some next))
  | .readLocally identifier, input, s =>
      let (locked, s') := isLocallyLocked cfg s input.now identifier
      (.ok locked, s')
  | .deleteLocally identifier, _, s => (.ok (), s.setLocal identifier none)

end

abbrev call (c : AttemptCommand) : Program attemptInterface c.Result :=
  @Program.perform attemptInterface c

/-! ## The service -/

section

variable (cfg : AttemptConfig) (identifier : String)

def redisKey : String := "auth:login-attempts:" ++ identifier

theorem redisKey_injective : Function.Injective redisKey := by
  intro a b h
  unfold redisKey at h
  simpa using h

def isLocked : Program attemptInterface Bool :=
  let onRedis : Program attemptInterface Bool := do
    let attempts ← call (.get (redisKey identifier))
    pure (decide (attempts.getD 0 ≥ cfg.authLoginMaxAttempts))
  Program.tryCatch onRedis fun _ => call (.readLocally identifier)

def assertCanAttempt : Program attemptInterface Unit := do
  let locked ← isLocked cfg identifier
  Program.throwIf (locked = true) .tooManyRequests

/-- The first failure lets the key expire. -/
def startWindow (attempts : ℕ) : Program attemptInterface Unit :=
  if attempts = 1 then call (.expire (redisKey identifier) cfg.authLoginWindowSeconds)
  else pure ()

def recordFailedAttempt : Program attemptInterface Bool :=
  let onRedis : Program attemptInterface Bool := do
    let attempts ← call (.incr (redisKey identifier))
    startWindow cfg identifier attempts
    pure (decide (attempts ≥ cfg.authLoginMaxAttempts))
  Program.tryCatch onRedis fun _ => call (.recordLocally identifier)

def clear : Program attemptInterface Unit := do
  call (.deleteLocally identifier)
  Program.tryCatch (call (.del (redisKey identifier))) fun _ => pure ()

end

inductive Request
  | assertCanAttempt (identifier : String)
  | recordFailedAttempt (identifier : String)
  | clear (identifier : String)

inductive Reply
  | ok
  | locked (isLocked : Bool)
  deriving DecidableEq

def handle (cfg : AttemptConfig) : Request → Program attemptInterface Reply
  | .assertCanAttempt identifier => (fun _ => .ok) <$> assertCanAttempt cfg identifier
  | .recordFailedAttempt identifier => .locked <$> recordFailedAttempt cfg identifier
  | .clear identifier => (fun _ => .ok) <$> clear identifier

def attemptSystem (cfg : AttemptConfig) :
    System attemptInterface Request Reply AttemptInput AttemptStore :=
  ⟨execute cfg, handle cfg⟩

/-- Three attempts within a minute. -/
def minuteOfThree : AttemptConfig := ⟨3, 60, by decide, by decide⟩

end Logistics.LoginAttempts
