import Logistics.LoginAttempts.Service

/-!
# Login locks expire

A counter is made by one call of the client and given its expiry by the next. Between
the two, and for good when the second fails, the key never expires; apart from that a
key and an entry of the local map expire one window after a failure that was recorded.
-/

namespace Logistics.LoginAttempts

open Logistics.Library

/-- The call records a failure of the identifier. -/
def AttemptCommand.Records (identifier : String) : AttemptCommand → Prop
  | .incr key | .expire key _ => key = redisKey identifier
  | .recordLocally other => other = identifier
  | _ => False

instance (identifier : String) (c : AttemptCommand) : Decidable (c.Records identifier) := by
  unfold AttemptCommand.Records
  split <;> infer_instance

/-- The call makes no key for the identifier and gives it no other expiry. -/
def AttemptCommand.Keeps (cfg : AttemptConfig) (identifier : String) : AttemptCommand → Prop
  | .incr key => key ≠ redisKey identifier
  | .expire key seconds => key = redisKey identifier → seconds = cfg.authLoginWindowSeconds
  | _ => True

/-- An expiry that is set does not fail. -/
def ExpiryGoesThrough : AttemptCommand → AttemptInput → Prop
  | .expire .., input => input.fault = false
  | _, _ => True

instance (c : AttemptCommand) (input : AttemptInput) : Decidable (ExpiryGoesThrough c input) := by
  unfold ExpiryGoesThrough
  split <;> infer_instance

section

variable (cfg : AttemptConfig) (identifier : String) (last : Time)

/-- What is counted for the identifier is gone a window after the last failure. -/
structure GoneAfter (s : AttemptStore) : Prop where
  redis : ∀ row, s.redis (redisKey identifier) = some row →
    ∃ expiresAt, row.expiresAt = some expiresAt ∧
      expiresAt ≤ last + cfg.authLoginWindowSeconds * 1000
  localAttempts : ∀ row, s.localAttempts identifier = some row →
    row.expiresAt ≤ last + cfg.authLoginWindowSeconds * 1000

structure JustCounted (s : AttemptStore) : Prop where
  redis : s.redis (redisKey identifier) = some ⟨1, none⟩
  localAttempts : ∀ row, s.localAttempts identifier = some row →
    row.expiresAt ≤ last + cfg.authLoginWindowSeconds * 1000

end

section

variable {cfg : AttemptConfig} {identifier : String} {last : Time} {s : AttemptStore}

theorem GoneAfter.setRedis (h : GoneAfter cfg identifier last s) {key : String}
    {row : Option Counter} (hrow : key = redisKey identifier → ∀ counter, row = some counter →
      ∃ expiresAt, counter.expiresAt = some expiresAt ∧
        expiresAt ≤ last + cfg.authLoginWindowSeconds * 1000) :
    GoneAfter cfg identifier last (s.setRedis key row) := by
  refine ⟨fun counter hcounter => ?_, h.localAttempts⟩
  by_cases hkey : redisKey identifier = key
  · subst hkey
    rw [setRedis_redis, Function.update_self] at hcounter
    exact hrow rfl counter hcounter
  · rw [setRedis_redis, Function.update_of_ne hkey] at hcounter
    exact h.redis counter hcounter

theorem GoneAfter.setLocal (h : GoneAfter cfg identifier last s) {other : String}
    {row : Option LocalAttemptState} (hrow : other = identifier → ∀ current, row = some current →
      current.expiresAt ≤ last + cfg.authLoginWindowSeconds * 1000) :
    GoneAfter cfg identifier last (s.setLocal other row) := by
  refine ⟨h.redis, fun current hcurrent => ?_⟩
  by_cases hother : identifier = other
  · subst hother
    rw [setLocal_localAttempts, Function.update_self] at hcurrent
    exact hrow rfl current hcurrent
  · rw [setLocal_localAttempts, Function.update_of_ne hother] at hcurrent
    exact h.localAttempts current hcurrent

/-- A recorded failure goes on with the entry, or opens one that lasts a window. -/
theorem recordLocalFailedAttempt_expiresAt {now : Time} {current : Option LocalAttemptState}
    (hnow : now ≤ last) (hcurrent : ∀ row, current = some row →
      row.expiresAt ≤ last + cfg.authLoginWindowSeconds * 1000) :
    (recordLocalFailedAttempt cfg now current).expiresAt ≤
      last + cfg.authLoginWindowSeconds * 1000 := by
  unfold recordLocalFailedAttempt
  cases hopen : current.filter fun current => current.expiresAt > now with
  | none => exact Int.add_le_add_right hnow _
  | some row => exact hcurrent row (Option.filter_eq_some_iff.mp hopen).1

theorem goneAfter_execute (h : GoneAfter cfg identifier last s) {c : AttemptCommand}
    (hc : c.Keeps cfg identifier) {input : AttemptInput}
    (hlast : c.Records identifier → input.now ≤ last) :
    GoneAfter cfg identifier last (execute cfg c input s).2 := by
  cases c with
  | get key =>
      simp only [execute, onRedis]
      split <;> exact h
  | incr key =>
      simp only [execute, onRedis]
      split
      · exact h
      · exact h.setRedis fun hkey => absurd hkey hc
  | expire key seconds =>
      simp only [execute, onRedis]
      split
      · exact h
      · split
        · next current hfound =>
          refine h.setRedis fun hkey counter hcounter => ?_
          obtain rfl := Option.some.inj hcounter
          rw [hc hkey]
          exact ⟨_, rfl, Int.add_le_add_right (hlast hkey) _⟩
        · exact h
  | del key =>
      simp only [execute, onRedis]
      split
      · exact h
      · exact h.setRedis fun _ counter hcounter => by cases hcounter
  | recordLocally other =>
      refine h.setLocal fun hother current hcurrent => ?_
      obtain rfl := Option.some.inj hcurrent
      subst hother
      exact recordLocalFailedAttempt_expiresAt (hlast rfl) h.localAttempts
  | readLocally other =>
      simp only [execute, isLocallyLocked]
      split
      · exact h
      · split
        · exact h.setLocal fun _ current hcurrent => by cases hcurrent
        · exact h
  | deleteLocally other => exact h.setLocal fun _ current hcurrent => by cases hcurrent

theorem goneAfter_incr (h : GoneAfter cfg identifier last s) {input : AttemptInput} {attempts : ℕ}
    (hok : (execute cfg (.incr (redisKey identifier)) input s).1 = .ok attempts) :
    let s' := (execute cfg (.incr (redisKey identifier)) input s).2
    GoneAfter cfg identifier last s' ∨ attempts = 1 ∧ JustCounted cfg identifier last s' := by
  by_cases hfault : input.fault = true
  · simp [execute, onRedis, hfault] at hok
  · simp only [execute, onRedis, hfault, Bool.false_eq_true, if_false, Except.ok.injEq] at hok ⊢
    cases hfound : s.find input.now (redisKey identifier) with
    | none =>
        rw [hfound] at hok
        exact .inr ⟨hok.symm, by simp, h.localAttempts⟩
    | some current =>
        obtain ⟨hstored, -⟩ := Option.filter_eq_some_iff.mp hfound
        refine .inl (h.setRedis fun _ counter hcounter => ?_)
        obtain rfl := Option.some.inj hcounter
        exact h.redis current hstored

/-- The expiry is set within the last failure. -/
theorem JustCounted.expire (h : JustCounted cfg identifier last s) {input : AttemptInput}
    (hfault : input.fault = false) (hlast : input.now ≤ last) :
    GoneAfter cfg identifier last
      (execute cfg (.expire (redisKey identifier) cfg.authLoginWindowSeconds) input s).2 := by
  have hfound : s.find input.now (redisKey identifier) = some ⟨1, none⟩ := by
    rw [AttemptStore.find, h.redis]
    rfl
  simp only [execute, onRedis, hfault, Bool.false_eq_true, if_false, hfound]
  refine ⟨fun counter hcounter => ?_, h.localAttempts⟩
  rw [setRedis_redis, Function.update_self] at hcounter
  obtain rfl := Option.some.inj hcounter
  exact ⟨_, rfl, Int.add_le_add_right hlast _⟩

/-! ## Requests -/

/-- The calls of a run: an expiry that is set goes through, and a failure of the
identifier is recorded by this instant. -/
def RecordsBy (identifier : String) (last : Time) (_ : AttemptStore) (c : AttemptCommand)
    (input : AttemptInput) : Prop :=
  ExpiryGoesThrough c input ∧ (c.Records identifier → input.now ≤ last)

theorem wp_of_keeps {α : Type} {p : Program attemptInterface α}
    (hp : p.Issues (AttemptCommand.Keeps cfg identifier)) (h : GoneAfter cfg identifier last s) :
    p.wp (execute cfg) (RecordsBy identifier last) (fun _ _ _ => True)
      (fun _ s' => GoneAfter cfg identifier last s') s :=
  Program.wp_of_issues hp (fun _ hc _ _ hs hA => ⟨trivial, goneAfter_execute hs hc hA.2⟩) s h

theorem recordFailedAttempt_wp (h : GoneAfter cfg identifier last s) :
    (recordFailedAttempt cfg identifier).wp (execute cfg) (RecordsBy identifier last)
      (fun _ _ _ => True) (fun _ s' => GoneAfter cfg identifier last s') s := by
  apply Program.wp_tryCatch (Q := fun _ s' => GoneAfter cfg identifier last s')
  · apply Program.wp_perform_bind
    intro input hA
    refine ⟨trivial, fun attempts hok => ?_, fun _ hfails => ?_⟩
    · apply Program.wp_bind (Q := fun _ s' => GoneAfter cfg identifier last s')
      · unfold startWindow
        by_cases hfirst : attempts = 1
        · rw [if_pos hfirst]
          apply Program.wp_perform (I := attemptInterface)
            (c := .expire (redisKey identifier) cfg.authLoginWindowSeconds)
          intro input' hA'
          refine ⟨trivial, ?_⟩
          rcases goneAfter_incr h hok with hgone | ⟨-, hcounted⟩
          · apply goneAfter_execute hgone ?_ hA'.2
            exact fun _ => rfl
          · exact hcounted.expire hA'.1 (hA'.2 rfl)
        · rw [if_neg hfirst]
          rcases goneAfter_incr h hok with hgone | ⟨hone, -⟩
          · exact hgone
          · exact absurd hone hfirst
      · exact fun _ _ hs => hs
      · exact fun _ _ hs => hs
    · by_cases hfault : input.fault = true
      · simpa [execute, onRedis, hfault] using h
      · simp [execute, onRedis, hfault] at hfails
  · exact fun _ _ hs => hs
  · exact fun _ _ hs => wp_of_keeps (Program.Issues.perform trivial) hs

theorem handle_wp (r : Request) (h : GoneAfter cfg identifier last s) :
    (handle cfg r).wp (execute cfg) (RecordsBy identifier last) (fun _ _ _ => True)
      (fun _ s' => GoneAfter cfg identifier last s') s := by
  cases r with
  | assertCanAttempt other =>
      apply Program.wp_map
      apply wp_of_keeps ?_ h
      refine Program.Issues.bind (Program.Issues.tryCatch ?_ fun _ => ?_) fun locked => ?_
      · simp [AttemptCommand.Keeps]
      · exact Program.Issues.perform trivial
      · exact Program.Issues.throwIf _ _
  | recordFailedAttempt other =>
      apply Program.wp_map
      by_cases hother : other = identifier
      · subst hother
        exact recordFailedAttempt_wp h
      · have hkey : redisKey other ≠ redisKey identifier := redisKey_injective.ne hother
        apply wp_of_keeps ?_ h
        refine Program.Issues.tryCatch ?_ fun _ => Program.Issues.perform trivial
        refine Program.Issues.bind (Program.Issues.perform hkey) fun attempts => ?_
        refine Program.Issues.bind ?_ fun _ => trivial
        unfold startWindow
        split
        · exact Program.Issues.perform fun h => absurd h hkey
        · trivial
  | clear other =>
      apply Program.wp_map
      apply wp_of_keeps ?_ h
      refine Program.Issues.bind (Program.Issues.perform trivial) fun _ => ?_
      exact Program.Issues.tryCatch (Program.Issues.perform trivial) fun _ => trivial

theorem isLocked_run_of_goneAfter (h : GoneAfter cfg identifier last s) {ω : ℕ → AttemptInput}
    (hlater : ∀ n, last + cfg.authLoginWindowSeconds * 1000 ≤ (ω n).now) :
    ((isLocked cfg identifier).run (execute cfg) ω s).1 = .ok false := by
  have hunlocked : ¬0 ≥ cfg.authLoginMaxAttempts := not_le.mpr cfg.maxAttempts_pos
  by_cases hfault : (ω 0).fault = true
  · have hfails : execute cfg (.get (redisKey identifier)) (ω 0) s = (.error .fault, s) := by
      simp [execute, onRedis, hfault]
    have hlocal : (isLocallyLocked cfg s (ω 1).now identifier).1 = false := by
      unfold isLocallyLocked
      split
      · rfl
      · next current hcurrent =>
        have hover : current.expiresAt ≤ (ω 1).now :=
          Int.le_trans (h.localAttempts current hcurrent) (hlater 1)
        simp [hover]
    rw [isLocked, Program.run_tryCatch_perform_bind_error hfails]
    exact congrArg Except.ok hlocal
  · have hfound : s.find (ω 0).now (redisKey identifier) = none := by
      unfold AttemptStore.find
      cases hrow : s.redis (redisKey identifier) with
      | none => rfl
      | some row =>
          obtain ⟨expiresAt, hexpiry, hle⟩ := h.redis row hrow
          have hover : expiresAt ≤ (ω 0).now := Int.le_trans hle (hlater 0)
          simp [Option.filter_some, Counter.live, hexpiry, hover]
    have hanswer : execute cfg (.get (redisKey identifier)) (ω 0) s = (.ok none, s) := by
      simp [execute, onRedis, hfault, hfound]
    rw [isLocked, Program.run_tryCatch_ok (Program.run_perform_bind_ok hanswer)]
    exact congrArg Except.ok (decide_eq_false hunlocked)

end

/-- Any requests about any identifiers, with any calls of the client failing but those
that set an expiry: a window after the last failure of an identifier that was recorded,
the identifier is not locked, whether Redis is asked or the local map. -/
theorem login_locks_expire (cfg : AttemptConfig) (calls : List (Request × (ℕ → AttemptInput)))
    (hexpiry : (attemptSystem cfg).AlongCalls (fun _ c i => ExpiryGoesThrough c i) calls .empty)
    (identifier : String) (last : Time)
    (hlast : (attemptSystem cfg).AlongCalls (fun _ c i => c.Records identifier → i.now ≤ last)
      calls .empty)
    (ω : ℕ → AttemptInput) (hlater : ∀ n, last + cfg.authLoginWindowSeconds * 1000 ≤ (ω n).now) :
    ((isLocked cfg identifier).run (execute cfg) ω
      ((attemptSystem cfg).runCalls calls .empty)).1 = .ok false := by
  have hempty : GoneAfter cfg identifier last .empty := by
    constructor
    · intro row hrow
      cases hrow
    · intro row hrow
      cases hrow
  have hgone : GoneAfter cfg identifier last ((attemptSystem cfg).runCalls calls .empty) :=
    System.runCalls_invariant (J := GoneAfter cfg identifier last)
      (A := RecordsBy identifier last) (G := fun _ _ _ => True)
      (fun r _ hs => handle_wp r hs) calls AttemptStore.empty hempty
      (System.alongCalls_and calls _ hexpiry hlast)
  exact isLocked_run_of_goneAfter hgone hlater

def threeFailures (faults : ℕ → ℕ → Bool) : List (Request × (ℕ → AttemptInput)) :=
  [0, 1, 2].map fun k : ℕ => (.recordFailedAttempt "ana", fun n => ⟨10 * k + n, faults k n⟩)

theorem login_locks_expire_after_a_minute :
    ((isLocked minuteOfThree "ana").run (execute minuteOfThree) (fun n => ⟨60020 + n, n = 0⟩)
      ((attemptSystem minuteOfThree).runCalls (threeFailures fun k n => k = 1 ∧ n = 0)
        .empty)).1 = .ok false :=
  login_locks_expire minuteOfThree (threeFailures fun k n => k = 1 ∧ n = 0) (by decide +kernel)
    "ana" 20 (by decide +kernel) (fun n => ⟨60020 + n, n = 0⟩) fun n => by
      have hwindow : (20 : ℤ) + (60 : ℕ) * 1000 ≤ 60020 + n := by omega
      exact hwindow

/-- The key is incremented to one and its expiry fails: a year after the third failure
the identifier is still locked. -/
theorem a_lock_without_expiry :
    ((isLocked minuteOfThree "ana").run (execute minuteOfThree) (fun _ => ⟨31536000000, false⟩)
      ((attemptSystem minuteOfThree).runCalls (threeFailures fun k n => k = 0 ∧ n = 1)
        .empty)).1.toOption = some true := by
  decide +kernel

end Logistics.LoginAttempts
