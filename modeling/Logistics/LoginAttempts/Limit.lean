import Logistics.Auth.Discipline
import Logistics.LoginAttempts.Logins

/-!
# The limit of login attempts

A login checks the counter, verifies the password and then counts its failure. As long
as no login is checked while another one is between its check and its count, the counter
says how many have been verified, and the limit holds within a window. Logins that
overlap are all checked against the same count.
-/

namespace Logistics.LoginAttempts

open Logistics.Library

section

variable [Collation]

abbrev LoginThread : Type := Thread loginInterface Auth.Request Auth.Reply

abbrev LoginConfig : Type :=
  Config loginInterface Auth.Request Auth.Reply (Auth.AuthStore × AttemptStore)

abbrev LoginAction : Type := Action Auth.Request Auth.AuthInput

/-! ## What is asked of a run -/

/-- The login has passed its check, and its attempt is not over. -/
def inAttempt (t : LoginThread) : Bool :=
  match t.program with
  | .call (.inl (.query (.findUsers ..))) _ | .call (.inr (.incr _)) _
  | .call (.inr (.deleteLocally _)) _ => true
  | _ => false

/-- A check is made while no attempt is under way. -/
def ChecksAlone (c : LoginConfig) (a : LoginAction) : Prop :=
  match c.nextCall a with
  | some (.inr (.get _), _) => ∀ t ∈ c.threads, inAttempt t = false
  | _ => True

instance (c : LoginConfig) (a : LoginAction) : Decidable (ChecksAlone c a) := by
  unfold ChecksAlone
  split <;> infer_instance

/-- Redis does not fail, and no login succeeds and clears its attempts. -/
def FailsOnly (_ : Auth.AuthStore × AttemptStore) :
    loginInterface.Command → Auth.AuthInput → Prop
  | .inr (.deleteLocally _), _ => False
  | .inr _, input => input.fault = false
  | .inl _, _ => True

instance (s : Auth.AuthStore × AttemptStore) (c : loginInterface.Command) (input : Auth.AuthInput) :
    Decidable (FailsOnly s c input) := by
  unfold FailsOnly
  split <;> infer_instance

/-- What is started is a login that is counted under the identifier. -/
def StartsLogin (P : Auth.Platform) (identifier : String) : LoginAction → Prop
  | .start (.login dto metadata) => loginIdentifier P dto metadata = identifier
  | .start _ => False
  | .step .. => True

instance (P : Auth.Platform) (identifier : String) (a : LoginAction) :
    Decidable (StartsLogin P identifier a) := by
  unfold StartsLogin
  split <;> infer_instance

/-- The candidates of a login are found: it verifies the password. -/
def Verifying (_ : Auth.AuthStore × AttemptStore) :
    loginInterface.Command → Auth.AuthInput → Prop
  | .inl (.query (.findUsers ..)), input => input.fault = false
  | _, _ => False

instance (s : Auth.AuthStore × AttemptStore) (c : loginInterface.Command) (input : Auth.AuthInput) :
    Decidable (Verifying s c input) := by
  unfold Verifying
  split <;> infer_instance

/-! ## Stages -/

/-- No attempt is under way, or that of one thread is. -/
inductive Stage
  | calm
  | looking (i : ℕ)
  | recording (i : ℕ)

def Stage.holder : Stage → Option ℕ
  | .calm => none
  | .looking i | .recording i => some i

section

variable (cfg : AttemptConfig) (identifier : String)

def Idle (p : Program loginInterface Auth.Reply) : Prop :=
  Checking cfg identifier p ∨ Starting cfg identifier p ∨ Quiet p

def Stage.phase : Stage → Program loginInterface Auth.Reply → Prop
  | .calm => Idle cfg identifier
  | .looking _ => Looking cfg identifier
  | .recording _ => Recording cfg identifier

def Stage.Allows (stage : Stage) (i : ℕ) (p : Program loginInterface Auth.Reply) : Prop :=
  if stage.holder = some i then stage.phase cfg identifier p else Idle cfg identifier p

omit [Collation] in
variable {cfg identifier} in
theorem Stage.allows_of_phase {stage : Stage} {i : ℕ} {p : Program loginInterface Auth.Reply}
    (hholder : stage.holder = some i) (hp : stage.phase cfg identifier p) :
    stage.Allows cfg identifier i p := by
  rwa [Stage.Allows, if_pos hholder]

omit [Collation] in
variable {cfg identifier} in
theorem Stage.allows_of_idle {stage : Stage} {i : ℕ} {p : Program loginInterface Auth.Reply}
    (hother : stage.holder ≠ some i) (hp : Idle cfg identifier p) :
    stage.Allows cfg identifier i p := by
  rwa [Stage.Allows, if_neg hother]

structure At (stage : Stage) (c : LoginConfig) : Prop where
  present : ∀ i, stage.holder = some i → i < c.threads.length
  allows : ∀ i t, c.threads[i]? = some t → stage.Allows cfg identifier i t.program

/-- What an action does to the stage and to the counters, at an instant that satisfies `T`. -/
inductive Turn (T : Time → Prop) : Stage → Stage → AttemptStore → AttemptStore → Prop
  | idle (stage : Stage) (s : AttemptStore) : Turn T stage stage s s
  | expire (stage : Stage) (s : AttemptStore) (now : Time) (hT : T now) :
      Turn T stage stage s (execute cfg
        (.expire (redisKey identifier) cfg.authLoginWindowSeconds) ⟨now, false⟩ s).2
  | check (i : ℕ) (s : AttemptStore) (now : Time) (hT : T now)
      (hpassed : ((s.find now (redisKey identifier)).map Counter.attempts).getD 0 <
        cfg.authLoginMaxAttempts) : Turn T .calm (.looking i) s s
  | verify (i : ℕ) (s : AttemptStore) : Turn T (.looking i) (.recording i) s s
  | giveUp (i : ℕ) (s : AttemptStore) : Turn T (.looking i) .calm s s
  | record (i : ℕ) (s : AttemptStore) (now : Time) (hT : T now) :
      Turn T (.recording i) .calm s
        (execute cfg (.incr (redisKey identifier)) ⟨now, false⟩ s).2

end

section

variable {cfg : AttemptConfig} {identifier : String} {stage stage' : Stage} {c : LoginConfig}
  {s : Auth.AuthStore × AttemptStore} {i : ℕ} {t : LoginThread}

theorem At.start (h : At cfg identifier stage c) (ht : Idle cfg identifier t.program) :
    At cfg identifier stage { c with threads := c.threads ++ [t] } := by
  constructor
  · intro j hj
    have hlt := h.present j hj
    simp only [List.length_append, List.length_singleton]
    omega
  · intro j u hu
    rw [List.getElem?_append] at hu
    split at hu
    · exact h.allows j u hu
    · next hnew =>
      obtain rfl := List.mem_singleton.mp (List.mem_of_getElem? hu)
      exact Stage.allows_of_idle (fun hj => hnew (h.present j hj)) ht

theorem At.set (h : At cfg identifier stage c) (hi : i < c.threads.length)
    (ht : stage.Allows cfg identifier i t.program) :
    At cfg identifier stage ⟨s, c.threads.set i t⟩ := by
  constructor
  · intro j hj
    rw [List.length_set]
    exact h.present j hj
  · intro j u hu
    by_cases hij : i = j
    · subst hij
      rw [List.getElem?_set_self hi] at hu
      exact Option.some.inj hu ▸ ht
    · rw [List.getElem?_set_ne hij] at hu
      exact h.allows j u hu

theorem At.turn (h : At cfg identifier stage c) (hi : i < c.threads.length)
    (hbefore : ∀ j, stage.holder = some j → j = i) (hafter : ∀ j, stage'.holder = some j → j = i)
    (ht : stage'.Allows cfg identifier i t.program) :
    At cfg identifier stage' ⟨s, c.threads.set i t⟩ := by
  constructor
  · intro j hj
    rw [List.length_set, hafter j hj]
    exact hi
  · intro j u hu
    by_cases hij : i = j
    · subst hij
      rw [List.getElem?_set_self hi] at hu
      exact Option.some.inj hu ▸ ht
    · rw [List.getElem?_set_ne hij] at hu
      have hidle := h.allows j u hu
      rw [Stage.Allows, if_neg fun hj => hij (hbefore j hj).symm] at hidle
      rwa [Stage.Allows, if_neg fun hj => hij (hafter j hj).symm]

omit [Collation] in
theorem inAttempt_of_phase (hstage : stage.holder = some i)
    (ht : stage.phase cfg identifier t.program) : inAttempt t = true := by
  unfold inAttempt
  cases stage with
  | calm => cases hstage
  | looking j =>
      obtain ⟨filter, take, k, hprogram, -⟩ := ht
      rw [hprogram]
  | recording j =>
      rcases ht with ⟨k, hprogram, -⟩ | ⟨k, hprogram⟩ <;> rw [hprogram]

theorem At.calm_of_alone (h : At cfg identifier stage c)
    (halone : ∀ t ∈ c.threads, inAttempt t = false) : stage.holder = none := by
  cases hholder : stage.holder with
  | none => rfl
  | some i =>
      have hlt := h.present i hholder
      have hphase := h.allows i _ (List.getElem?_eq_getElem hlt)
      rw [Stage.Allows, if_pos hholder] at hphase
      have hout := halone _ (List.getElem_mem hlt)
      rw [inAttempt_of_phase hholder hphase] at hout
      cases hout

end

/-! ## One action -/

/-- The stage after an action, with what it does to the counters. Only the login that the
stage is about verifies a password, and counting its failure ends its attempt. -/
def Turns (cfg : AttemptConfig) (identifier : String) (T : Time → Prop) (stage : Stage)
    (c c' : LoginConfig) (verifying counting : Prop) : Prop :=
  ∃ stage', At cfg identifier stage' c' ∧
    Turn cfg identifier T stage stage' c.store.2 c'.store.2 ∧
    (verifying → ∃ i, stage = .looking i ∧ stage' = .recording i) ∧
    (counting → stage' = .calm)

/-- The call counts a failure under this key. -/
def Counting (key : String) (_ : Auth.AuthStore × AttemptStore) :
    loginInterface.Command → Auth.AuthInput → Prop
  | .inr (.incr other), _ => other = key
  | _, _ => False

instance (key : String) (s : Auth.AuthStore × AttemptStore) (c : loginInterface.Command)
    (input : Auth.AuthInput) : Decidable (Counting key s c input) := by
  unfold Counting
  split <;> infer_instance

section

variable {P : Auth.Platform} {cfg : AttemptConfig} {identifier : String} {T : Time → Prop}
  {stage : Stage} {c : LoginConfig} {i : ℕ} {r : Auth.Request} {h : List (Event loginInterface)}
  {cmd : loginInterface.Command}
  {k : Response loginInterface cmd → Program loginInterface Auth.Reply}
  {input : Auth.AuthInput}

theorem turns_of_idle (hat : At cfg identifier stage c)
    (hi : c.threads[i]? = some ⟨r, h, .call cmd k⟩) (hidle : Idle cfg identifier (.call cmd k))
    (hother : stage.holder ≠ some i) (hfails : FailsOnly c.store cmd input)
    (halone : ∀ key, cmd = .inr (.get key) → ∀ t ∈ c.threads, inAttempt t = false)
    (hT : T input.now) :
    Turns cfg identifier T stage c
      ⟨(executeLogins cfg cmd input c.store).2, c.threads.set i
        (Thread.resume r h cmd k (executeLogins cfg cmd input c.store).1)⟩
      (Verifying c.store cmd input) (Counting (redisKey identifier) c.store cmd input) := by
  have hlt : i < c.threads.length := (List.getElem?_eq_some_iff.mp hi).1
  have hset : ∀ t : LoginThread, Idle cfg identifier t.program →
      ∀ s', At cfg identifier stage ⟨s', c.threads.set i t⟩ := fun t ht s' =>
    hat.set hlt (Stage.allows_of_idle hother ht)
  rcases hidle with ⟨k', hcheck, hk'⟩ | ⟨k', hstart, hk'⟩ | hquiet
  · cases hcheck
    have hcalm := hat.calm_of_alone (halone _ rfl)
    have hanswer : executeLogins cfg (.inr (.get (redisKey identifier))) input c.store =
        (.ok ((c.store.2.find input.now (redisKey identifier)).map Counter.attempts), c.store) := by
      have hfault : input.fault = false := hfails
      simp [executeLogins, execute, onRedis, hfault]
    have hnext := hk' ((c.store.2.find input.now (redisKey identifier)).map Counter.attempts)
    rw [hanswer]
    split at hnext
    · exact ⟨stage, hset _ (.inr (.inr hnext)) _, .idle stage _, fun hv => absurd hv id,
        fun hcounting => absurd hcounting id⟩
    · next hpassed =>
      cases stage with
      | calm =>
          refine ⟨.looking i, hat.turn hlt (fun j hj => by cases hj) (fun j hj => ?_) ?_,
            .check i _ input.now hT (not_le.mp hpassed), fun hv => absurd hv id,
            fun hcounting => absurd hcounting id⟩
          · exact (Option.some.inj hj).symm
          · exact Stage.allows_of_phase rfl hnext
      | looking j => cases hcalm
      | recording j => cases hcalm
  · cases hstart
    have hanswer : executeLogins cfg
        (.inr (.expire (redisKey identifier) cfg.authLoginWindowSeconds)) input c.store =
        (.ok (), c.store.1, (execute cfg
          (.expire (redisKey identifier) cfg.authLoginWindowSeconds) ⟨input.now, false⟩
            c.store.2).2) := by
      have hfault : input.fault = false := hfails
      simp [executeLogins, execute, onRedis, hfault]
    rw [hanswer]
    exact ⟨stage, hset _ (.inr (.inr (hk' ()))) _, .expire stage _ input.now hT,
      fun hv => absurd hv id, fun hcounting => absurd hcounting id⟩
  · cases cmd with
    | inr c' => exact absurd hquiet.1 id
    | inl c' =>
        have hrest : Quiet (k (executeLogins cfg (.inl c') input c.store).1) := hquiet.2 _
        refine ⟨stage, hset _ (.inr (.inr hrest)) _, .idle stage _, fun hv => ?_,
          fun hcounting => absurd hcounting id⟩
        cases c' with
        | query q =>
            cases q with
            | findUsers filter take => exact absurd hquiet.1 id
            | _ => exact absurd hv id
        | _ => exact absurd hv id

theorem turns_of_holder (hat : At cfg identifier stage c)
    (hi : c.threads[i]? = some ⟨r, h, .call cmd k⟩) (hholder : stage.holder = some i)
    (hfails : FailsOnly c.store cmd input) (hT : T input.now) :
    Turns cfg identifier T stage c
      ⟨(executeLogins cfg cmd input c.store).2, c.threads.set i
        (Thread.resume r h cmd k (executeLogins cfg cmd input c.store).1)⟩
      (Verifying c.store cmd input) (Counting (redisKey identifier) c.store cmd input) := by
  have hlt : i < c.threads.length := (List.getElem?_eq_some_iff.mp hi).1
  have hphase := hat.allows i _ hi
  rw [Stage.Allows, if_pos hholder] at hphase
  have hmine : ∀ j, stage.holder = some j → j = i := fun j hj =>
    Option.some.inj (hj.symm.trans hholder)
  cases stage with
  | calm => cases hholder
  | looking j =>
      obtain rfl : j = i := hmine j rfl
      obtain ⟨filter, take, k', hlook, hverified, hfailed⟩ := hphase
      cases hlook
      by_cases hfault : input.fault = true
      · have hanswer : executeLogins cfg (.inl (.query (.findUsers filter take))) input c.store =
            (.error .fault, c.store) := by
          simp [executeLogins, Auth.execute, hfault]
        rw [hanswer]
        refine ⟨.calm, hat.turn hlt hmine (fun j hj => by cases hj) ?_, .giveUp j _, fun hv => ?_,
          fun _ => rfl⟩
        · exact .inr (.inr (hfailed _))
        · rw [Verifying, hfault] at hv
          cases hv
      · have hanswer : ∃ users, executeLogins cfg (.inl (.query (.findUsers filter take))) input
            c.store = (.ok users, c.store) := by
          simp [executeLogins, Auth.execute, hfault]
        obtain ⟨users, hanswer⟩ := hanswer
        rw [hanswer]
        refine ⟨.recording j, hat.turn hlt hmine (fun j' hj' => (Option.some.inj hj').symm) ?_,
          .verify j _, fun _ => ⟨j, rfl, rfl⟩, fun hcounting => absurd hcounting id⟩
        exact Stage.allows_of_phase rfl (hverified users)
  | recording j =>
      obtain rfl : j = i := hmine j rfl
      rcases hphase with ⟨k', hincr, hk'⟩ | ⟨k', hclear⟩
      · cases hincr
        have hanswer : ∃ attempts : ℕ, executeLogins cfg (.inr (.incr (redisKey identifier))) input
            c.store = (.ok attempts, c.store.1,
              (execute cfg (.incr (redisKey identifier)) ⟨input.now, false⟩ c.store.2).2) := by
          have hfault : input.fault = false := hfails
          simp [executeLogins, execute, onRedis, hfault]
        obtain ⟨attempts, hanswer⟩ := hanswer
        rw [hanswer]
        have hnext := hk' attempts
        refine ⟨.calm, hat.turn hlt hmine (fun j hj => by cases hj) ?_, .record j _ input.now hT,
          fun hv => absurd hv id, fun _ => rfl⟩
        split at hnext
        · exact .inr (.inl hnext)
        · exact .inr (.inr hnext)
      · cases hclear
        exact absurd hfails id

end

theorem stage_next (P : Auth.Platform) {cfg : AttemptConfig} {identifier : String}
    {T : Time → Prop} {stage : Stage} {c : LoginConfig} {a : LoginAction}
    (hat : At cfg identifier stage c) (hstarts : StartsLogin P identifier a)
    (hfails : CallCondition FailsOnly c a) (halone : ChecksAlone c a)
    (hT : CallCondition (fun _ _ input => T input.now) c a) :
    Turns cfg identifier T stage c ((loginSystem P cfg).next c a) (MakesCall Verifying c a)
      (MakesCall (Counting (redisKey identifier)) c a) := by
  obtain ⟨r, rfl, hn⟩ | ⟨i, input, r, h, cmd, k, rfl, hi, hcall, hn⟩ | ⟨hn, hcall⟩ :=
    (loginSystem P cfg).next_cases c a
  · rw [hn]
    refine ⟨stage, hat.start ?_, .idle stage _, fun hv => absurd hv id,
      fun hcounting => absurd hcounting id⟩
    cases r with
    | login dto metadata => exact .inl (hstarts ▸ login_checking P cfg dto metadata)
    | _ => exact absurd hstarts id
  · rw [CallCondition, hcall] at hfails hT
    rw [ChecksAlone, hcall] at halone
    rw [hn, MakesCall, MakesCall, hcall]
    by_cases hholder : stage.holder = some i
    · exact turns_of_holder hat hi hholder hfails hT
    · have hidle := hat.allows i _ hi
      rw [Stage.Allows, if_neg hholder] at hidle
      refine turns_of_idle hat hi hidle hholder hfails (fun key hkey => ?_) hT
      subst hkey
      exact halone
  · rw [hn]
    rw [MakesCall, MakesCall, hcall]
    exact ⟨stage, hat, .idle stage _, fun hv => absurd hv id, fun hcounting => absurd hcounting id⟩

/-! ## A window -/

section

variable (cfg : AttemptConfig) (identifier : String) (start : Time)

def InWindow (now : Time) : Prop :=
  start ≤ now ∧ now < start + cfg.authLoginWindowSeconds * 1000

instance (now : Time) : Decidable (InWindow cfg start now) :=
  inferInstanceAs (Decidable (_ ∧ _))

/-- The key counts so many failures, and does not expire within the window. -/
def Counts (attempts : ℕ) (s : AttemptStore) : Prop :=
  ∃ expiresAt, s.redis (redisKey identifier) = some ⟨attempts, expiresAt⟩ ∧
    ∀ expiry, expiresAt = some expiry → start + cfg.authLoginWindowSeconds * 1000 ≤ expiry

/-- How many passwords were verified since the first failure, against what is counted. -/
def Tally (verified attempts : ℕ) : Stage → Prop
  | .calm => verified + 1 ≤ attempts ∧ attempts ≤ cfg.authLoginMaxAttempts
  | .looking _ => verified + 1 ≤ attempts ∧ attempts < cfg.authLoginMaxAttempts
  | .recording _ => verified ≤ attempts ∧ attempts < cfg.authLoginMaxAttempts

end

section

variable {cfg : AttemptConfig} {identifier : String} {start : Time} {s s' : AttemptStore}
  {attempts verified : ℕ} {stage stage' : Stage}

omit [Collation] in
theorem Tally.limit (h : Tally cfg verified attempts stage) :
    verified + 1 ≤ cfg.authLoginMaxAttempts := by
  cases stage <;> simp only [Tally] at h <;> omega

omit [Collation] in
theorem Counts.find (h : Counts cfg identifier start attempts s) {now : Time}
    (hnow : InWindow cfg start now) :
    ∃ expiresAt, s.find now (redisKey identifier) = some ⟨attempts, expiresAt⟩ ∧
      ∀ expiry, expiresAt = some expiry →
        start + cfg.authLoginWindowSeconds * 1000 ≤ expiry := by
  obtain ⟨expiresAt, hrow, hexpiry⟩ := h
  refine ⟨expiresAt, ?_, hexpiry⟩
  rw [AttemptStore.find, hrow, Option.filter_some, if_pos]
  cases expiresAt with
  | none => rfl
  | some expiry => exact decide_eq_true (Int.lt_of_lt_of_le hnow.2 (hexpiry expiry rfl))

omit [Collation] in
theorem Counts.expire (h : Counts cfg identifier start attempts s) {now : Time}
    (hnow : InWindow cfg start now) :
    Counts cfg identifier start attempts (execute cfg
      (.expire (redisKey identifier) cfg.authLoginWindowSeconds) ⟨now, false⟩ s).2 := by
  obtain ⟨expiresAt, hfound, -⟩ := h.find hnow
  refine ⟨some (now + cfg.authLoginWindowSeconds * 1000), ?_, fun expiry hexpiry => ?_⟩
  · simp [execute, onRedis, hfound]
  · rw [← Option.some.inj hexpiry]
    exact Int.add_le_add_right hnow.1 _

omit [Collation] in
theorem Counts.incr (h : Counts cfg identifier start attempts s) {now : Time}
    (hnow : InWindow cfg start now) :
    Counts cfg identifier start (attempts + 1)
      (execute cfg (.incr (redisKey identifier)) ⟨now, false⟩ s).2 := by
  obtain ⟨expiresAt, hfound, hexpiry⟩ := h.find hnow
  refine ⟨expiresAt, ?_, hexpiry⟩
  simp [execute, onRedis, hfound]

omit [Collation] in
/-- What a turn does to the counted failures keeps them ahead of the verified passwords. -/
theorem tally_turn {verifying : Prop} [Decidable verifying]
    (hturn : Turn cfg identifier (InWindow cfg start) stage stage' s s')
    (hcounts : Counts cfg identifier start attempts s) (htally : Tally cfg verified attempts stage)
    (hverifying : verifying → ∃ i, stage = .looking i ∧ stage' = .recording i) :
    ∃ attempts', Counts cfg identifier start attempts' s' ∧
      Tally cfg ((if verifying then 1 else 0) + verified) attempts' stage' := by
  by_cases hv : verifying
  · obtain ⟨i, rfl, rfl⟩ := hverifying hv
    rw [if_pos hv]
    cases hturn with
    | verify => exact ⟨attempts, hcounts, by simp only [Tally] at htally ⊢; omega⟩
  · rw [if_neg hv, Nat.zero_add]
    cases hturn with
    | idle => exact ⟨attempts, hcounts, htally⟩
    | expire _ _ now hnow => exact ⟨attempts, hcounts.expire hnow, htally⟩
    | check i _ now hnow hpassed =>
        obtain ⟨expiresAt, hfound, -⟩ := hcounts.find hnow
        rw [hfound] at hpassed
        exact ⟨attempts, hcounts, htally.1, hpassed⟩
    | verify i => exact ⟨attempts, hcounts, (Nat.le_succ _).trans htally.1, htally.2⟩
    | giveUp i => exact ⟨attempts, hcounts, htally.1, htally.2.le⟩
    | record i _ now hnow =>
        exact ⟨attempts + 1, hcounts.incr hnow, Nat.succ_le_succ htally.1, htally.2⟩

end

/-! ## Runs -/

section

variable (P : Auth.Platform) {cfg : AttemptConfig} {identifier : String}

/-- The conditions on an action. -/
structure Orderly (identifier : String) (c : LoginConfig) (a : LoginAction) : Prop where
  starts : StartsLogin P identifier a
  fails : CallCondition FailsOnly c a
  alone : ChecksAlone c a

theorem orderly_of_run {acts : List LoginAction} {c : LoginConfig}
    (hlogins : ∀ a ∈ acts, StartsLogin P identifier a)
    (hfails : (loginSystem P cfg).AlongActions (CallCondition FailsOnly) c acts)
    (halone : (loginSystem P cfg).AlongActions ChecksAlone c acts) :
    (loginSystem P cfg).AlongActions (Orderly P identifier) c acts :=
  System.alongActions_mono (fun _ _ h => ⟨h.1, h.2.1, h.2.2⟩) acts c
    (System.alongActions_and acts c (System.alongActions_of_mem acts c hlogins)
      (System.alongActions_and acts c hfails halone))

def Positive (identifier : String) (s : AttemptStore) : Prop :=
  ∀ row, s.redis (redisKey identifier) = some row → 0 < row.attempts

omit [Collation] in
theorem positive_turn {T : Time → Prop} {stage stage' : Stage} {s s' : AttemptStore}
    (h : Positive identifier s) (hturn : Turn cfg identifier T stage stage' s s') :
    Positive identifier s' := by
  cases hturn with
  | idle | check | verify | giveUp => exact h
  | expire _ _ now =>
      simp only [execute, onRedis, Bool.false_eq_true, if_false]
      split
      · next current hfound =>
        intro row hrow
        rw [setRedis_redis, Function.update_self] at hrow
        obtain rfl := Option.some.inj hrow
        exact h current (Option.filter_eq_some_iff.mp hfound).1
      · exact h
  | record i _ now =>
      simp only [execute, onRedis, Bool.false_eq_true, if_false]
      intro row hrow
      rw [setRedis_redis, Function.update_self] at hrow
      obtain rfl := Option.some.inj hrow
      exact Nat.succ_pos _

/-- After every run the logins are at a stage. -/
theorem stage_run {c : LoginConfig} {stage : Stage} (hat : At cfg identifier stage c)
    (hpositive : Positive identifier c.store.2) (acts : List LoginAction)
    (horderly : (loginSystem P cfg).AlongActions (Orderly P identifier) c acts) :
    ∃ stage', At cfg identifier stage' ((loginSystem P cfg).runActions c acts) ∧
      Positive identifier ((loginSystem P cfg).runActions c acts).store.2 := by
  refine System.run_invariant
    (J := fun c => ∃ stage, At cfg identifier stage c ∧ Positive identifier c.store.2)
    (fun c a hc hP => ?_) acts c ⟨stage, hat, hpositive⟩ horderly
  obtain ⟨stage, hat, hpositive⟩ := hc
  obtain ⟨stage', hat', hturn, -, -⟩ := stage_next P (T := fun _ => True) hat hP.starts hP.fails
    hP.alone (callCondition_true c a)
  exact ⟨stage', hat', positive_turn hpositive hturn⟩

/-- The key is counted up to one: the failure is the first of its window. -/
def FirstFailure (cfg : AttemptConfig) (identifier : String) (start : Time)
    (s : Auth.AuthStore × AttemptStore) (c : loginInterface.Command) (input : Auth.AuthInput) :
    Prop :=
  Counting (redisKey identifier) s c input ∧ input.now = start ∧
    (execute cfg (.incr (redisKey identifier)) ⟨input.now, input.fault⟩ s.2).1.toOption = some 1

instance (cfg : AttemptConfig) (identifier : String) (start : Time)
    (s : Auth.AuthStore × AttemptStore) (c : loginInterface.Command) (input : Auth.AuthInput) :
    Decidable (FirstFailure cfg identifier start s c input) :=
  inferInstanceAs (Decidable (_ ∧ _ ∧ _))

theorem verified_le {start : Time} :
    ∀ (acts : List LoginAction) {c : LoginConfig} {stage : Stage} {attempts verified : ℕ},
      At cfg identifier stage c → Counts cfg identifier start attempts c.store.2 →
      Tally cfg verified attempts stage →
      (loginSystem P cfg).AlongActions (fun c a => Orderly P identifier c a ∧
        CallCondition (fun _ _ input => InWindow cfg start input.now) c a) c acts →
      (loginSystem P cfg).countActions (MakesCall Verifying) c acts + verified + 1 ≤
        cfg.authLoginMaxAttempts
  | [], c, stage, attempts, verified, _, _, htally, _ => by
      have hlimit := htally.limit
      simpa [System.countActions] using hlimit
  | a :: rest, c, stage, attempts, verified, hat, hcounts, htally, halong => by
      obtain ⟨⟨horderly, hwindow⟩, hrest⟩ := halong
      obtain ⟨stage', hat', hturn, hverifying, -⟩ :=
        stage_next P hat horderly.starts horderly.fails horderly.alone hwindow
      obtain ⟨attempts', hcounts', htally'⟩ := tally_turn hturn hcounts htally hverifying
      have hle := verified_le rest hat' hcounts' htally' hrest
      rw [System.countActions]
      omega

omit [Collation] in
theorem counts_of_firstFailure {start : Time} {s : AttemptStore} {input : AttemptInput}
    (h : Positive identifier s)
    (hfirst : (execute cfg (.incr (redisKey identifier)) input s).1.toOption = some 1) :
    Counts cfg identifier start 1 (execute cfg (.incr (redisKey identifier)) input s).2 := by
  by_cases hfault : input.fault = true
  · simp [execute, onRedis, hfault, Except.toOption] at hfirst
  · simp only [execute, onRedis, hfault, Bool.false_eq_true, if_false, Except.toOption,
      Option.some.injEq] at hfirst ⊢
    cases hfound : s.find input.now (redisKey identifier) with
    | none => exact ⟨none, by simp, fun _ h => by cases h⟩
    | some current =>
        have hpos := h current (Option.filter_eq_some_iff.mp hfound).1
        rw [hfound, Option.getD_some] at hfirst
        have hone : current.attempts + 1 = 1 := hfirst
        omega

/-- After the first failure of a window no attempt is under way, and one is counted. -/
theorem calm_of_firstFailure {start : Time} {c : LoginConfig} {a : LoginAction} {stage : Stage}
    (hat : At cfg identifier stage c) (hpositive : Positive identifier c.store.2)
    (horderly : Orderly P identifier c a)
    (hfirst : MakesCall (FirstFailure cfg identifier start) c a) :
    At cfg identifier .calm ((loginSystem P cfg).next c a) ∧
      Counts cfg identifier start 1 ((loginSystem P cfg).next c a).store.2 := by
  obtain ⟨stage', hat', -, -, hcalm⟩ := stage_next P (T := fun _ => True) hat horderly.starts
    horderly.fails horderly.alone (callCondition_true c a)
  obtain ⟨r, rfl, -⟩ | ⟨i, input, r, h, cmd, k, rfl, -, hcall, hn⟩ | ⟨-, hcall⟩ :=
    (loginSystem P cfg).next_cases c a
  · exact absurd hfirst id
  · rw [MakesCall, hcall] at hfirst hcalm
    obtain ⟨hcounting, -, hone⟩ := hfirst
    refine ⟨hcalm hcounting ▸ hat', ?_⟩
    rw [hn]
    unfold Counting at hcounting
    split at hcounting
    · obtain rfl := hcounting
      exact counts_of_firstFailure hpositive hone
    · exact absurd hcounting id
  · rw [MakesCall, hcall] at hfirst
    exact absurd hfirst id

end

/-- Any number of logins under one identifier that all fail, in any order of their calls,
with Redis answering: if each check is made while no other login is between its check and
the record of its failure, then at most the maximum of them verify a password within the
window of the first failure, that of the first failure among them. -/
theorem login_limit_holds (P : Auth.Platform) (cfg : AttemptConfig) (identifier : String)
    (start : Time) {s : Auth.AuthStore × AttemptStore} (hstored : Positive identifier s.2)
    (pre : List LoginAction) (a : LoginAction) (post : List LoginAction)
    (hlogins : ∀ b ∈ pre ++ a :: post, StartsLogin P identifier b)
    (hfails : (loginSystem P cfg).AlongActions (CallCondition FailsOnly) (Config.initial s)
      (pre ++ a :: post))
    (halone : (loginSystem P cfg).AlongActions ChecksAlone (Config.initial s) (pre ++ a :: post))
    (hfirst : MakesCall (FirstFailure cfg identifier start)
      ((loginSystem P cfg).runActions (Config.initial s) pre) a)
    (hwindow : (loginSystem P cfg).AlongActions
      (CallCondition fun _ _ input => InWindow cfg start input.now)
      ((loginSystem P cfg).runActions (Config.initial s) (pre ++ [a])) post) :
    (loginSystem P cfg).countActions (MakesCall Verifying)
        ((loginSystem P cfg).runActions (Config.initial s) (pre ++ [a])) post + 1 ≤
      cfg.authLoginMaxAttempts := by
  have horderly := orderly_of_run P hlogins hfails halone
  rw [System.alongActions_append] at horderly
  obtain ⟨hpre, ha, hpost⟩ := horderly
  have hinitial : At cfg identifier .calm (Config.initial s) :=
    ⟨fun _ h => (by cases h), fun _ _ h => (by cases h)⟩
  obtain ⟨stage, hat, hpositive⟩ := stage_run P hinitial hstored pre hpre
  obtain ⟨hcalm, hcounts⟩ := calm_of_firstFailure P hat hpositive ha hfirst
  have hnext : (loginSystem P cfg).runActions (Config.initial s) (pre ++ [a]) =
      (loginSystem P cfg).next ((loginSystem P cfg).runActions (Config.initial s) pre) a := by
    rw [System.runActions_append]
    rfl
  rw [hnext] at hwindow ⊢
  have htally : Tally cfg 0 1 .calm := ⟨le_refl 1, cfg.maxAttempts_pos⟩
  exact verified_le P post hcalm hcounts htally
    (System.alongActions_and post _ hpost hwindow)

end

/-! ## Logins that overlap -/

attribute [local instance] foldCase

def wrongPassword : Auth.LoginDto := ⟨"ana@acme", "errado", none⟩

def anaIdentifier : String :=
  loginIdentifier Auth.plainPlatform wrongPassword Auth.noMetadata

def wrongLogin : LoginAction := .start (.login wrongPassword Auth.noMetadata)

def noFailures : Auth.AuthStore × AttemptStore := (Auth.oneUser, .empty)

def loginStep (thread n : ℕ) : LoginAction := .step thread (Auth.drawn thread n)

def firstLogin : List LoginAction := [wrongLogin, loginStep 0 0, loginStep 0 1]

/-- Two logins more, and one that is refused. -/
def laterLogins : List LoginAction :=
  [loginStep 0 3, loginStep 0 4,
    wrongLogin, loginStep 1 0, loginStep 1 1, loginStep 1 2, loginStep 1 3,
    wrongLogin, loginStep 2 0, loginStep 2 1, loginStep 2 2, loginStep 2 3,
    wrongLogin, loginStep 3 0, loginStep 3 1]

theorem login_limit_holds_in_order :
    (loginSystem Auth.plainPlatform minuteOfThree).countActions (MakesCall Verifying)
        ((loginSystem Auth.plainPlatform minuteOfThree).runActions (Config.initial noFailures)
          (firstLogin ++ [loginStep 0 2])) laterLogins + 1 ≤ minuteOfThree.authLoginMaxAttempts :=
  login_limit_holds Auth.plainPlatform minuteOfThree anaIdentifier 2 (fun _ h => by cases h)
    firstLogin (loginStep 0 2) laterLogins (by decide +kernel) (by decide +kernel)
    (by decide +kernel) (by decide +kernel) (by decide +kernel)

/-- Four logins are checked before the first failure is counted. -/
def overlappingLogins : List LoginAction :=
  [wrongLogin, wrongLogin, wrongLogin, wrongLogin, loginStep 0 0, loginStep 1 0, loginStep 2 0,
    loginStep 3 0, loginStep 0 1]

/-- All four verify a password within the window, though three attempts are the limit. -/
theorem overlapping_logins_exceed_the_limit :
    (∀ b ∈ overlappingLogins, StartsLogin Auth.plainPlatform anaIdentifier b) ∧
    (loginSystem Auth.plainPlatform minuteOfThree).AlongActions (CallCondition FailsOnly)
      (Config.initial noFailures)
      (overlappingLogins ++ loginStep 0 2 :: [loginStep 1 1, loginStep 2 1, loginStep 3 1]) ∧
    MakesCall (FirstFailure minuteOfThree anaIdentifier 2)
      ((loginSystem Auth.plainPlatform minuteOfThree).runActions (Config.initial noFailures)
        overlappingLogins) (loginStep 0 2) ∧
    (loginSystem Auth.plainPlatform minuteOfThree).AlongActions
      (CallCondition fun _ _ input => InWindow minuteOfThree 2 input.now)
      ((loginSystem Auth.plainPlatform minuteOfThree).runActions (Config.initial noFailures)
        (overlappingLogins ++ [loginStep 0 2])) [loginStep 1 1, loginStep 2 1, loginStep 3 1] ∧
    (loginSystem Auth.plainPlatform minuteOfThree).countActions (MakesCall Verifying)
      ((loginSystem Auth.plainPlatform minuteOfThree).runActions (Config.initial noFailures)
        (overlappingLogins ++ [loginStep 0 2])) [loginStep 1 1, loginStep 2 1, loginStep 3 1] + 1 =
      4 := by
  decide +kernel

end Logistics.LoginAttempts
