import Mathlib.Data.Int.Order.Basic
import Logistics.Library.Window
import Logistics.LoginAttempts.Service

/-!
# The fallback of the login attempts

What the service is for: a window for each identifier, in which failed logins are
counted, and a lock when the tally reaches the maximum (`decide`). With Redis the
windows are keys that expire, without it they are entries of the local map whose expiry
is looked at when they are used. Both decide as the windows do, so they decide alike.
-/

namespace Logistics.LoginAttempts

open Logistics.Library

/-! ## Windows -/

abbrev Windows : Type := String → Option (Window Time)

section

variable (cfg : AttemptConfig)

/-- When a window that is opened now expires. -/
def windowEnd (now : Time) : Time := now + cfg.authLoginWindowSeconds * 1000

/-- The answer to a request, and the windows after it. -/
def decideOn (now : Time) (w : Windows) : Request → Except ServiceError Reply × Windows
  | .assertCanAttempt identifier =>
      (if Window.tally now (w identifier) ≥ cfg.authLoginMaxAttempts then .error .tooManyRequests
        else .ok .ok, w)
  | .recordFailedAttempt identifier =>
      let next := Window.hit now (windowEnd cfg now) (w identifier)
      (.ok (.locked (decide (next.count ≥ cfg.authLoginMaxAttempts))),
        Function.update w identifier (some next))
  | .clear identifier => (.ok .ok, Function.update w identifier none)

/-- The answers to requests at these instants. -/
def decisions : List (Request × Time) → Windows → List (Except ServiceError Reply)
  | [], _ => []
  | (r, now) :: rest, w =>
      (decideOn cfg now w r).1 :: decisions rest (decideOn cfg now w r).2

end

/-! ## The windows of a store -/

def LocalAttemptState.window (row : LocalAttemptState) : Window Time :=
  ⟨row.attempts, row.expiresAt⟩

/-- The key of a window: it expires when the window does. -/
def counterOf (w : Window Time) : Counter := ⟨w.count, some w.expiresAt⟩

/-- What the local map holds of the windows. -/
def MapHolds (now : Time) (s : AttemptStore) (w : Windows) : Prop :=
  ∀ identifier,
    Window.remaining now ((s.localAttempts identifier).map LocalAttemptState.window) =
      Window.remaining now (w identifier)

/-- The keys of Redis are those of the windows that are open, which begin with one. -/
structure KeysHold (now : Time) (s : AttemptStore) (w : Windows) : Prop where
  find : ∀ identifier,
    s.find now (redisKey identifier) = (Window.remaining now (w identifier)).map counterOf
  counted : ∀ identifier window, w identifier = some window → 0 < window.count

theorem MapHolds.later {now later : Time} {s : AttemptStore} {w : Windows} (h : now ≤ later)
    (hs : MapHolds now s w) : MapHolds later s w := by
  intro identifier
  rw [← Window.remaining_remaining h, hs identifier, Window.remaining_remaining h]

/-- A key that is absent does not come back. -/
theorem find_later {now later : Time} (h : now ≤ later) (s : AttemptStore) (key : String) :
    s.find later key = (s.find now key).filter (Counter.live later) := by
  unfold AttemptStore.find
  cases hrow : s.redis key with
  | none => rfl
  | some row =>
      by_cases hlive : row.live now = true
      · simp [Option.filter, hlive]
      · have hdead : row.live later = false := by
          cases hexpiry : row.expiresAt with
          | none => simp [Counter.live, hexpiry] at hlive
          | some expiry =>
              simp only [Counter.live, hexpiry, Option.all_some, decide_eq_true_eq, not_lt,
                decide_eq_false_iff_not] at hlive ⊢
              exact hlive.trans h
        simp [Option.filter, hlive, hdead]

theorem remaining_map_counterOf (later : Time) (w : Option (Window Time)) :
    (w.map counterOf).filter (Counter.live later) = (Window.remaining later w).map counterOf := by
  cases w with
  | none => rfl
  | some w =>
      rcases lt_or_ge later w.expiresAt with hopen | hclosed
      · simp [Window.remaining_of_lt hopen, counterOf, Counter.live, hopen]
      · simp [Window.remaining_of_le hclosed, counterOf, Counter.live, hclosed]

theorem KeysHold.later {now later : Time} {s : AttemptStore} {w : Windows} (h : now ≤ later)
    (hs : KeysHold now s w) : KeysHold later s w where
  find identifier := by
    rw [find_later h, hs.find identifier, remaining_map_counterOf, Window.remaining_remaining h]
  counted := hs.counted

/-! ## One request within one instant -/

section

variable (cfg : AttemptConfig) {now : Time} {s s' : AttemptStore} {w : Windows}

theorem run_assertCanAttempt {input : AttemptInput} {identifier : String} {locked : Bool}
    (h : (isLocked cfg identifier).run (execute cfg) (fun _ => input) s = (.ok locked, s')) :
    (handle cfg (.assertCanAttempt identifier)).run (execute cfg) (fun _ => input) s =
      (if locked then .error .tooManyRequests else .ok .ok, s') := by
  rw [handle, Program.run_map, assertCanAttempt, Program.run_bind_of_run h]
  cases locked <;> rfl

/-! While Redis fails, the local map is asked. -/

theorem run_isLocked_failing (identifier : String) :
    (isLocked cfg identifier).run (execute cfg) (fun _ => ⟨now, true⟩) s =
      (.ok (isLocallyLocked cfg s now identifier).1, (isLocallyLocked cfg s now identifier).2) :=
  rfl

theorem run_recordFailedAttempt_failing (identifier : String) :
    (handle cfg (.recordFailedAttempt identifier)).run (execute cfg) (fun _ => ⟨now, true⟩) s =
      (.ok (.locked (decide ((recordLocalFailedAttempt cfg now
          (s.localAttempts identifier)).attempts ≥ cfg.authLoginMaxAttempts))),
        s.setLocal identifier
          (some (recordLocalFailedAttempt cfg now (s.localAttempts identifier)))) :=
  rfl

theorem MapHolds.current (h : MapHolds now s w) (identifier : String) :
    Window.remaining now (w identifier) =
      ((s.localAttempts identifier).filter fun current => current.expiresAt > now).map
        LocalAttemptState.window := by
  rw [← h identifier]
  cases s.localAttempts identifier with
  | none => rfl
  | some current =>
      rcases lt_or_ge now current.expiresAt with hopen | hclosed
      · simp [Window.remaining, Option.filter, LocalAttemptState.window, hopen]
      · simp [Window.remaining, Option.filter, LocalAttemptState.window]

theorem MapHolds.set (h : MapHolds now s w) (identifier : String)
    (row : Option LocalAttemptState) :
    MapHolds now (s.setLocal identifier row)
      (Function.update w identifier (row.map LocalAttemptState.window)) := by
  intro other
  by_cases hother : other = identifier
  · subst hother
    simp [AttemptStore.setLocal]
  · simpa [AttemptStore.setLocal, hother] using h other

theorem MapHolds.drop (h : MapHolds now s w) {identifier : String}
    (hover : Window.remaining now (w identifier) = none) :
    MapHolds now (s.setLocal identifier none) w := by
  intro other
  by_cases hother : other = identifier
  · subst hother
    rw [hover]
    simp [AttemptStore.setLocal, Window.remaining_none]
  · simpa [AttemptStore.setLocal, hother] using h other

theorem isLocallyLocked_spec (h : MapHolds now s w) (identifier : String) :
    (isLocallyLocked cfg s now identifier).1 =
        decide (Window.tally now (w identifier) ≥ cfg.authLoginMaxAttempts) ∧
      MapHolds now (isLocallyLocked cfg s now identifier).2 w := by
  have hcurrent := h.current identifier
  have hunlocked : false = decide (0 ≥ cfg.authLoginMaxAttempts) :=
    (decide_eq_false (not_le.mpr cfg.maxAttempts_pos)).symm
  unfold isLocallyLocked Window.tally
  cases hrow : s.localAttempts identifier with
  | none =>
      rw [hrow, Option.filter_none, Option.map_none] at hcurrent
      rw [hcurrent]
      exact ⟨hunlocked, h⟩
  | some current =>
      rw [hrow] at hcurrent
      dsimp only
      rcases lt_or_ge now current.expiresAt with hopen | hclosed
      · rw [Option.filter_some, if_pos (decide_eq_true hopen)] at hcurrent
        rw [hcurrent, if_neg (not_le.mpr hopen)]
        exact ⟨rfl, h⟩
      · rw [Option.filter_some_neg (by simp [hclosed]), Option.map_none] at hcurrent
        rw [hcurrent, if_pos hclosed]
        exact ⟨hunlocked, h.drop hcurrent⟩

theorem recordLocalFailedAttempt_window (h : MapHolds now s w) (identifier : String) :
    (recordLocalFailedAttempt cfg now (s.localAttempts identifier)).window =
      Window.hit now (windowEnd cfg now) (w identifier) := by
  rw [Window.hit, h.current identifier, recordLocalFailedAttempt]
  cases (s.localAttempts identifier).filter fun current => current.expiresAt > now <;> rfl

/-- With Redis failing the service decides as the windows do. -/
theorem decides_failing (r : Request) (h : MapHolds now s w) :
    ((handle cfg r).run (execute cfg) (fun _ => ⟨now, true⟩) s).1 = (decideOn cfg now w r).1 ∧
      MapHolds now ((handle cfg r).run (execute cfg) (fun _ => ⟨now, true⟩) s).2
        (decideOn cfg now w r).2 := by
  cases r with
  | assertCanAttempt identifier =>
      obtain ⟨hlocked, hholds⟩ := isLocallyLocked_spec cfg h identifier
      rw [run_assertCanAttempt cfg (run_isLocked_failing cfg identifier), hlocked]
      simp only [decideOn, decide_eq_true_eq]
      exact ⟨trivial, hholds⟩
  | recordFailedAttempt identifier =>
      have hnext := recordLocalFailedAttempt_window cfg h identifier
      rw [run_recordFailedAttempt_failing]
      constructor
      · rw [decideOn, ← hnext]
        rfl
      · rw [decideOn, ← hnext]
        exact h.set identifier _
  | clear identifier => exact ⟨rfl, h.set identifier none⟩

/-! While Redis answers, its keys are asked. -/

theorem run_isLocked_available (identifier : String) :
    (isLocked cfg identifier).run (execute cfg) (fun _ => ⟨now, false⟩) s =
      (.ok (decide (((s.find now (redisKey identifier)).map Counter.attempts).getD 0 ≥
        cfg.authLoginMaxAttempts)), s) :=
  rfl

theorem KeysHold.set (h : KeysHold now s w) {identifier : String} {row : Option Counter}
    {next : Option (Window Time)} (hcounted : ∀ window, next = some window → 0 < window.count)
    (hrow : row.filter (Counter.live now) = (Window.remaining now next).map counterOf) :
    KeysHold now (s.setRedis (redisKey identifier) row) (Function.update w identifier next) := by
  constructor
  · intro other
    by_cases hother : other = identifier
    · subst hother
      simpa using hrow
    · have hkey : redisKey other ≠ redisKey identifier := redisKey_injective.ne hother
      rw [find_setRedis_of_ne hkey, Function.update_of_ne hother]
      exact h.find other
  · intro other window hwindow
    by_cases hother : other = identifier
    · subst hother
      rw [Function.update_self] at hwindow
      exact hcounted window hwindow
    · rw [Function.update_of_ne hother] at hwindow
      exact h.counted other window hwindow

theorem run_recordFailedAttempt_available (h : KeysHold now s w) (identifier : String) :
    (handle cfg (.recordFailedAttempt identifier)).run (execute cfg) (fun _ => ⟨now, false⟩) s =
      (.ok (.locked (decide ((Window.hit now (windowEnd cfg now) (w identifier)).count ≥
          cfg.authLoginMaxAttempts))),
        s.setRedis (redisKey identifier)
          (some (counterOf (Window.hit now (windowEnd cfg now) (w identifier))))) := by
  have hcurrent := h.find identifier
  unfold Window.hit
  cases hopen : Window.remaining now (w identifier) with
  | none =>
      rw [hopen] at hcurrent
      simp [handle, recordFailedAttempt, startWindow, Program.run_map, call, Program.perform_eq,
        Program.run, execute, onRedis, hcurrent, Except.map, windowEnd, counterOf,
        Option.filter_some, Counter.live]
  | some window =>
      rw [hopen] at hcurrent
      have hstarted : window.count ≠ 0 := by
        obtain ⟨hstored, -⟩ := Option.filter_eq_some_iff.mp hopen
        exact (h.counted identifier window hstored).ne'
      simp [handle, recordFailedAttempt, startWindow, Program.run_map, call, Program.perform_eq,
        Program.run, execute, onRedis, hcurrent, Except.map, counterOf, hstarted]

/-- With Redis available the service decides as the windows do. -/
theorem decides_available (r : Request) (h : KeysHold now s w) :
    ((handle cfg r).run (execute cfg) (fun _ => ⟨now, false⟩) s).1 = (decideOn cfg now w r).1 ∧
      KeysHold now ((handle cfg r).run (execute cfg) (fun _ => ⟨now, false⟩) s).2
        (decideOn cfg now w r).2 := by
  cases r with
  | assertCanAttempt identifier =>
      rw [run_assertCanAttempt cfg (run_isLocked_available cfg identifier), h.find identifier]
      simp only [decideOn, decide_eq_true_eq]
      cases hopen : Window.remaining now (w identifier) <;> simp [Window.tally, hopen, counterOf, h]
  | recordFailedAttempt identifier =>
      rw [run_recordFailedAttempt_available cfg h]
      refine ⟨rfl, h.set ?_ ?_⟩
      · intro window hwindow
        rw [← Option.some.inj hwindow]
        exact Window.count_hit_pos now (windowEnd cfg now) (w identifier)
      · rw [← remaining_map_counterOf]
        rfl
  | clear identifier =>
      have hkept : KeysHold now (s.setLocal identifier none) w := ⟨h.find, h.counted⟩
      exact ⟨rfl, hkept.set (by simp) rfl⟩

end

/-! ## Whole runs -/

/-- Requests at these instants, with Redis failing throughout or never. -/
def timed (fault : Bool) (calls : List (Request × Time)) : List (Request × (ℕ → AttemptInput)) :=
  calls.map fun call => (call.1, fun _ => ⟨call.2, fault⟩)

/-- A service that is related to windows, at every instant and after every request, decides
as they do. -/
theorem outcomes_eq_decisions (cfg : AttemptConfig) {fault : Bool}
    {J : Time → AttemptStore → Windows → Prop}
    (hlater : ∀ {now later s w}, now ≤ later → J now s w → J later s w)
    (hstep : ∀ {now s w} r, J now s w →
      ((handle cfg r).run (execute cfg) (fun _ => ⟨now, fault⟩) s).1 = (decideOn cfg now w r).1 ∧
        J now ((handle cfg r).run (execute cfg) (fun _ => ⟨now, fault⟩) s).2
          (decideOn cfg now w r).2) :
    ∀ (calls : List (Request × Time)) {now : Time} {s : AttemptStore} {w : Windows}, J now s w →
      List.IsChain (· ≤ ·) (now :: calls.map Prod.snd) →
      (attemptSystem cfg).outcomes (timed fault calls) s = decisions cfg calls w
  | [], _, _, _, _, _ => rfl
  | (r, at') :: rest, now, s, w, hs, hordered => by
      obtain ⟨hnow, hrest⟩ := List.isChain_cons_cons.mp hordered
      obtain ⟨hanswer, hafter⟩ := hstep r (hlater hnow hs)
      exact congrArg₂ List.cons hanswer (outcomes_eq_decisions cfg (J := J) hlater
        hstep rest hafter hrest)

/-- Whatever is requested and when, the service answers the same with Redis failing
throughout as with Redis available throughout: the same locks, and the same results of
recorded failures. -/
theorem fallback_refines_redis (cfg : AttemptConfig) (calls : List (Request × Time))
    (hordered : List.IsChain (· ≤ ·) (calls.map Prod.snd)) :
    (attemptSystem cfg).outcomes (timed true calls) .empty =
      (attemptSystem cfg).outcomes (timed false calls) .empty := by
  cases calls with
  | nil => rfl
  | cons call rest =>
      have hordered' : List.IsChain (· ≤ ·) (call.2 :: (call :: rest).map Prod.snd) :=
        List.isChain_cons_cons.mpr ⟨le_refl _, hordered⟩
      have hmap : MapHolds call.2 .empty fun _ => none := fun _ => rfl
      have hkeys : KeysHold call.2 .empty fun _ => none := ⟨fun _ => rfl, fun _ _ h => by cases h⟩
      calc
        (attemptSystem cfg).outcomes (timed true (call :: rest)) .empty
            = decisions cfg (call :: rest) fun _ => none :=
          outcomes_eq_decisions cfg (J := MapHolds) MapHolds.later (decides_failing cfg) _ hmap
            hordered'
        _ = (attemptSystem cfg).outcomes (timed false (call :: rest)) .empty :=
          (outcomes_eq_decisions cfg (J := KeysHold) KeysHold.later (decides_available cfg) _
            hkeys hordered').symm

/-- Three failures lock the identifier until the minute is over. -/
def lockedMinute : List (Request × Time) :=
  [(.recordFailedAttempt "ana", 0), (.assertCanAttempt "ana", 10), (.recordFailedAttempt "ana", 10),
    (.recordFailedAttempt "ana", 20), (.assertCanAttempt "bia", 30),
    (.assertCanAttempt "ana", 59999), (.assertCanAttempt "ana", 60000),
    (.recordFailedAttempt "ana", 60000), (.clear "ana", 60001)]

theorem fallback_refines_redis_for_a_minute :
    (attemptSystem minuteOfThree).outcomes (timed true lockedMinute) .empty =
      (attemptSystem minuteOfThree).outcomes (timed false lockedMinute) .empty :=
  fallback_refines_redis minuteOfThree lockedMinute (by decide)

example : (decisions minuteOfThree lockedMinute fun _ => none).map Except.toOption =
    [some (.locked false), some .ok, some (.locked false), some (.locked true), some .ok,
      none, some .ok, some (.locked false), some .ok] := by
  decide

end Logistics.LoginAttempts
