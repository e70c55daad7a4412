import Logistics.Imports.Deliveries

/-!
# A canceled job

A worker looks at the status of its job before each row, and stops when it finds
it canceled. It writes the status without looking when it starts the job, when it
has gone through the rows, and when a call of the run has thrown; what a cancel
has written is lost there.
-/

namespace Logistics.Imports

open Logistics.Library

/-! ## What a worker does after it has looked -/

/-- What is left to a worker that found its job canceled, or could not look. -/
def Stopping : ImportCommand → Prop
  | .emitImportEvent .. | .emitDashboardRefresh .. | .recordAudit _ | .requeueJob _ => True
  | .updateJob _ (.fail _) => True
  | _ => False

/-- A worker that finds its job canceled, or cannot look, stops. -/
def Heeds {α : Type} :
    (c : ImportCommand) → (Response importInterface c → Program importInterface α) → Prop
  | .findStatus _, k => (k (.ok (some .canceled))).Issues Stopping ∧
      ∀ e, (k (.error e)).Issues Stopping
  | _, _ => True

def LooksAway (c : ImportCommand) : Prop := ∀ id, c ≠ .findStatus id

theorem LooksAway.heeds {α : Type} {c : ImportCommand} (hc : LooksAway c)
    (k : Response importInterface c → Program importInterface α) : Heeds c k := by
  cases c with
  | findStatus id => exact absurd rfl (hc id)
  | _ => trivial

theorem Heeds.map {α β : Type} {c : ImportCommand}
    {k : Response importInterface c → Program importInterface α} (h : Heeds c k) (f : α → β) :
    Heeds c fun x => f <$> k x := by
  cases c with
  | findStatus id =>
      exact ⟨(Program.issues_map_iff f _).mpr h.1,
        fun e => (Program.issues_map_iff f _).mpr (h.2 e)⟩
  | _ => trivial

theorem Heeds.tryCatch {α : Type} {c : ImportCommand}
    {k : Response importInterface c → Program importInterface α} (h : Heeds c k)
    {handler : ServiceError → Program importInterface α}
    (hhandler : ∀ e, (handler e).Issues Stopping) :
    Heeds c fun x => (k x).tryCatch handler := by
  cases c with
  | findStatus id => exact ⟨h.1.tryCatch hhandler, fun e => (h.2 e).tryCatch hhandler⟩
  | _ => trivial

def OfUser : ImportCommand → Prop
  | .findStatus _ | .readFile .. | .processRow _ | .createRowResult _ | .takeJob
  | .requeueJob _ => False
  | .updateJob _ patch => patch = .cancel
  | _ => True

section Heeding

variable (P : ImportPlatform)

theorem handle_ofUser {r : Request} (hr : r.ofUser = true) : (handle P r).Issues OfUser := by
  cases r with
  | create context file dto =>
      rw [handle, Program.issues_map_iff]
      unfold create
      simp only [Program.issues_ofExcept_bind_iff, Program.issues_throwIf_bind_iff,
        Program.issues_perform_bind_iff]
      refine fun _ _ _ _ _ => ⟨trivial, fun found => ?_⟩
      cases found with
      | some duplicate => trivial
      | none =>
          simp only [Program.issues_perform_bind_iff]
          exact ⟨trivial, fun _ => ⟨trivial, fun _ => ⟨trivial, fun _ => ⟨trivial, fun _ =>
            trivial⟩⟩⟩⟩
  | cancel context importJobId =>
      rw [handle, Program.issues_map_iff]
      apply cancel_issues <;> intros <;> trivial
  | retry context importJobId dto =>
      rw [handle, Program.issues_map_iff]
      apply retry_issues <;> intros <;> trivial
  | process payload => cases hr
  | work => cases hr

theorem OfUser.looksAway {c : ImportCommand} (hc : OfUser c) : LooksAway c := by
  rintro id rfl
  exact hc

theorem emit_stopping (tenantId userId : Id) (event : ImportProgressEventDto) :
    (emit tenantId userId event).Issues Stopping :=
  emit_issues (fun _ => trivial) trivial

theorem failJob_stopping (payload : ImportQueuePayload) (job : ImportJob) (error : ServiceError) :
    (failJob P payload job error).Issues Stopping := by
  unfold failJob
  simp only [Program.issues_perform_bind_iff]
  exact ⟨trivial, fun _ => ⟨trivial, fun _ => (emit_stopping _ _ _).bind fun _ => trivial⟩⟩

theorem Stopping.looksAway {c : ImportCommand} (hc : Stopping c) : LooksAway c := by
  rintro id rfl
  exact hc

/-- The row loop with what follows it, which a worker that stops comes to at once. -/
theorem processRows_bind_heeds {α : Type} (payload : ImportQueuePayload) (job : ImportJob)
    (totalRows : ℕ) {f : Option RowCounts → Program importInterface α}
    (hnone : (f none).Issues Stopping) (hsome : ∀ counts, (f (some counts)).Throughout Heeds)
    (rows : List ParsedImportRow) (counts : RowCounts) :
    (processRows P payload job totalRows rows counts >>= f).Throughout Heeds := by
  have hbind : ∀ {β : Type} {p : Program importInterface β}
      {g : β → Program importInterface α}, p.Issues Stopping → (∀ b, (g b).Throughout Heeds) →
        (p >>= g).Throughout Heeds :=
    fun hp hg => hp.throughout_bind (fun _ k hc => hc.looksAway.heeds k) hg
  have hstop := fun counts => (emit_stopping payload.tenantId payload.userId
    (eventPayload P job .canceled totalRows counts)).bind fun _ => hnone
  induction rows generalizing counts with
  | nil => exact hsome counts
  | cons row rest ih =>
      unfold processRows
      rw [bind_assoc]
      apply Program.Throughout.perform_bind
      · constructor
        · dsimp only
          rw [if_pos rfl, bind_assoc]
          exact hstop counts
        · exact fun e => trivial
      · intro current
        by_cases hcanceled : current = some .canceled
        · rw [if_pos hcanceled, bind_assoc]
          exact (hstop counts).throughout fun _ k hc => hc.looksAway.heeds k
        · rw [if_neg hcanceled]
          simp only [bind_assoc]
          refine Program.Throughout.perform_bind trivial fun result => ?_
          refine Program.Throughout.perform_bind trivial fun _ => ?_
          refine Program.Throughout.perform_bind trivial fun _ => ?_
          exact hbind (emit_stopping _ _ _) fun _ => ih _

theorem finish_looksAway (payload : ImportQueuePayload) (job : ImportJob) (totalRows : ℕ)
    (counts : RowCounts) : (finish P payload job totalRows counts).Issues LooksAway := by
  unfold finish
  simp only [Program.issues_perform_bind_iff]
  exact ⟨by simp [LooksAway], fun _ => ⟨by simp [LooksAway], fun _ =>
    (emit_stopping _ _ _).mono fun _ hc => hc.looksAway⟩⟩

theorem processJob_heeds (payload : ImportQueuePayload) (job : ImportJob)
    (storedFilename : String) :
    (processJob P payload job storedFilename).Throughout Heeds := by
  have hfile : (processFile P payload job storedFilename).Throughout Heeds := by
    unfold processFile
    refine Program.Throughout.perform_bind trivial fun buffer => ?_
    refine (Program.issues_ofExcept (P := LooksAway) _).throughout_bind
      (fun _ k hc => hc.heeds k) fun parsed => ?_
    apply processRows_bind_heeds P payload job
    · trivial
    · intro counts
      exact (finish_looksAway P payload job _ counts).throughout fun _ k hc => hc.heeds k
  have hfail := failJob_stopping P payload job
  unfold processJob
  refine Program.Throughout.perform_bind trivial fun _ => ?_
  refine Program.Throughout.perform_bind trivial fun _ => ?_
  refine (emit_stopping _ _ _).throughout_bind (fun _ k hc => hc.looksAway.heeds k) fun _ => ?_
  exact hfile.tryCatch (fun _ _ h => h.tryCatch hfail) fun e =>
    (hfail e).throughout fun _ k hc => hc.looksAway.heeds k

theorem process_heeds (payload : ImportQueuePayload) : (process P payload).Throughout Heeds := by
  unfold process
  refine Program.Throughout.perform_bind trivial fun found => ?_
  cases found with
  | none => trivial
  | some found =>
      dsimp only
      split
      · trivial
      · exact processJob_heeds P payload found.job _

theorem work_heeds : (work P).Throughout Heeds := by
  unfold work
  refine Program.Throughout.perform_bind trivial fun taken => ?_
  cases taken with
  | none => trivial
  | some job =>
      have hback : ∀ e : ServiceError, (call (.requeueJob job)).Issues Stopping :=
        fun _ => Program.Issues.perform trivial
      exact (process_heeds P job.payload).tryCatch (fun _ _ h => h.tryCatch hback) fun e =>
        (hback e).throughout fun _ k hc => hc.looksAway.heeds k

theorem handle_heeds (r : Request) : (handle P r).Throughout Heeds := by
  cases r with
  | process payload =>
      exact Program.Throughout.map (process_heeds P payload) fun _ _ h => h.map _
  | work => exact Program.Throughout.map (work_heeds P) fun _ _ h => h.map _
  | _ => exact (handle_ofUser P rfl).throughout fun _ k hc => hc.looksAway.heeds k

end Heeding

/-! ## Workers that look before they finish -/

/-- The status of the job is written by a worker that has just taken it, or by one
whose run has thrown. -/
def Marks (id : Id) : ImportCommand → Prop
  | .updateJob other .start => other = id
  | .updateJob other (.fail _) => other = id
  | _ => False

/-- The status of the job is written by a worker that has gone through its rows. -/
def Finishes (id : Id) : ImportCommand → Prop
  | .updateJob other (.finish ..) => other = id
  | _ => False

instance (id : Id) : ∀ c, Decidable (Marks id c) := by
  intro c
  unfold Marks
  split <;> infer_instance

/-- The status of the job is looked at before it is written at the end of the
rows, unless the job is started or fails before. -/
def LooksFirst {α : Type} (id : Id) : Program importInterface α → Prop
  | .pure _ => True
  | .throw _ => True
  | .call c k => c = .findStatus id ∨
      ¬Finishes id c ∧ ∀ x, (Marks id c → x.isOk = false) → LooksFirst id (k x)

section Looking

variable {α β : Type} {id : Id}

theorem OfUser.spares {c : ImportCommand} (hc : OfUser c) : ¬Finishes id c := by
  intro hfinishes
  unfold Finishes at hfinishes
  split at hfinishes
  · cases hc
  · exact hfinishes

theorem looksFirst_of_issues {p : Program importInterface α}
    (hp : p.Issues fun c => ¬Finishes id c) : LooksFirst id p := by
  induction p with
  | pure a => trivial
  | throw e => trivial
  | call c k ih => exact .inr ⟨hp.1, fun x _ => ih x (hp.2 x)⟩

theorem LooksFirst.bind {p : Program importInterface α} {f : α → Program importInterface β}
    (hp : LooksFirst id p) (hf : ∀ a, LooksFirst id (f a)) : LooksFirst id (p >>= f) := by
  induction p with
  | pure a => exact hf a
  | throw e => trivial
  | call c k ih => exact hp.imp_right fun ⟨hc, hk⟩ => ⟨hc, fun x hx => ih x (hk x hx)⟩

theorem LooksFirst.map {p : Program importInterface α} (hp : LooksFirst id p) (f : α → β) :
    LooksFirst id (f <$> p) := by
  rw [map_eq_pure_bind]
  exact hp.bind fun _ => trivial

theorem LooksFirst.tryCatch {p : Program importInterface α}
    {handler : ServiceError → Program importInterface α} (hp : LooksFirst id p)
    (hhandler : ∀ e, LooksFirst id (handler e)) : LooksFirst id (p.tryCatch handler) := by
  induction p with
  | pure a => trivial
  | throw e => exact hhandler e
  | call c k ih => exact hp.imp_right fun ⟨hc, hk⟩ => ⟨hc, fun x hx => ih x (hk x hx)⟩

theorem looksFirst_perform_bind {c : ImportCommand} {f : c.Result → Program importInterface α}
    (hc : ¬Finishes id c) (hf : ∀ a, ¬Marks id c → LooksFirst id (f a)) :
    LooksFirst id (call c >>= f) := by
  refine .inr ⟨hc, fun x hx => ?_⟩
  cases x with
  | ok a => exact hf a fun hmarks => Bool.noConfusion (hx hmarks)
  | error e => trivial

variable (P : ImportPlatform)

theorem process_looksFirst (payload : ImportQueuePayload) :
    LooksFirst id (process P payload) := by
  unfold process
  refine looksFirst_perform_bind (fun h => h) fun found _ => ?_
  cases found with
  | none => trivial
  | some found =>
      dsimp only
      split
      · trivial
      · next storedFilename _ =>
        by_cases hid : found.job.id = id
        · exact looksFirst_perform_bind (c := .updateJob found.job.id .start) (fun h => h)
            fun _ hmarks => absurd hid hmarks
        · refine looksFirst_of_issues ((processJob_issues P payload found.job _).mono ?_)
          intro c hrun hfinishes
          unfold Finishes at hfinishes
          split at hfinishes
          · exact hid (hrun.1.symm.trans hfinishes)
          · exact hfinishes

/-- A worker that has yet to find its job starts it before anything else. -/
theorem handle_looksFirst (r : Request) : LooksFirst id (handle P r) := by
  cases r with
  | process payload => exact LooksFirst.map (process_looksFirst P payload) _
  | work =>
      refine LooksFirst.map (p := work P) ?_ _
      unfold work
      refine looksFirst_perform_bind (fun h => h) fun taken _ => ?_
      cases taken with
      | none => trivial
      | some job =>
          refine (process_looksFirst P job.payload).tryCatch fun _ => looksFirst_of_issues ?_
          exact Program.Issues.perform (show ¬Finishes id (.requeueJob job) from fun h => h)
  | _ => exact looksFirst_of_issues ((handle_ofUser P rfl).mono fun _ hc => hc.spares)

/-- A program that is over or looks next. -/
def looksNext (id : Id) : Program importInterface α → Bool
  | .call (.findStatus other) _ => other == id
  | .call _ _ => false
  | _ => true

theorem looksFirst_of_looksNext {p : Program importInterface α} (h : looksNext id p = true) :
    LooksFirst id p := by
  unfold looksNext at h
  split at h
  · exact .inl (congrArg ImportCommand.findStatus (beq_iff_eq.mp h))
  · cases h
  · next hnot =>
    cases p with
    | call c k => exact absurd rfl (hnot c k)
    | _ => trivial

end Looking

/-! ## The status of the job -/

def CommitsCancel (P : ImportPlatform) (id : Id) (s : ImportStore)
    (c : importInterface.Command) (i : ImportInput) : Prop :=
  match c with
  | ImportCommand.updateJob other .cancel =>
      other = id ∧ (execute P (.updateJob other .cancel) i s).1.isOk = true
  | _ => False

instance (P : ImportPlatform) (id : Id) (s : ImportStore) (c : importInterface.Command)
    (i : ImportInput) : Decidable (CommitsCancel P id s c i) := by
  apply @ImportCommand.casesOn (fun c => Decidable (CommitsCancel P id s c i)) c
  case updateJob =>
    intro other patch
    apply @JobPatch.casesOn
      (fun patch => Decidable (CommitsCancel P id s (.updateJob other patch) i)) patch <;>
      intros <;> dsimp only [CommitsCancel] <;> infer_instance
  all_goals intros; dsimp only [CommitsCancel]; infer_instance

def NotMarked (id : Id) (_ : ImportStore) (c : importInterface.Command) (i : ImportInput) : Prop :=
  Marks id c → i.fault = true

instance (id : Id) (s : ImportStore) (c : importInterface.Command) (i : ImportInput) :
    Decidable (NotMarked id s c i) :=
  inferInstanceAs (Decidable (_ → _))

def NotRetried (id : Id) (_ : ImportStore) (c : importInterface.Command) (i : ImportInput) :
    Prop :=
  match c with
  | ImportCommand.resetJob other _ _ => other = id → i.fault = true
  | _ => True

instance (id : Id) (s : ImportStore) (c : importInterface.Command) (i : ImportInput) :
    Decidable (NotRetried id s c i) := by
  apply @ImportCommand.casesOn (fun c => Decidable (NotRetried id s c i)) c <;>
    intros <;> dsimp only [NotRetried] <;> infer_instance

section Status

variable {P : ImportPlatform} {c : ImportCommand} {i : ImportInput} {s : ImportStore} {id : Id}

theorem statusOf_cancel (h : CommitsCancel P id s c i) :
    statusOf (execute P c i s).2 id = some .canceled := by
  unfold CommitsCancel at h
  split at h
  · next other =>
    obtain ⟨rfl, hok⟩ := h
    obtain ⟨e, hfailed⟩ | ⟨job, hjob, rfl, hdone⟩ := execute_updateJob P i s other .cancel
    · rw [hfailed] at hok
      cases hok
    · rw [hdone, statusOf_map (JobPatch.apply_id i.now .cancel) rfl hjob,
        if_pos (beq_self_eq_true job.id)]
      rfl
  · exact h.elim

/-- A canceled job stays canceled as long as it is not marked, finished or retried. -/
theorem statusOf_stays (h : statusOf s id = some .canceled) (hfinish : ¬Finishes id c)
    (hmark : NotMarked id s c i) (hretry : NotRetried id s c i) :
    statusOf (execute P c i s).2 id = some .canceled := by
  obtain ⟨job, hjob, rfl, hstatus⟩ := statusOf_eq_some h
  cases c with
  | createJob data =>
      obtain ⟨e, hfailed⟩ | ⟨importJobs, hinsert, hdone⟩ := execute_createJob P i s data
      · rw [hfailed]
        exact h
      · have hmem : job ∈ importJobs.rows := by
          rw [Table.tryInsert_rows hinsert]
          exact List.mem_append_left _ hjob
        rw [hdone, ← hstatus]
        exact statusOf_eq (s := { s with importJobs }) hmem
  | updateJob other patch =>
      obtain ⟨e, hfailed⟩ | ⟨_, -, -, hdone⟩ := execute_updateJob P i s other patch
      · rw [hfailed]
        exact h
      · by_cases hother : job.id = other
        · have hspared : patch.status?.getD job.status = .canceled := by
            cases patch with
            | progress counts percent totalRows => exact hstatus
            | cancel => rfl
            | finish counts totalRows status failureReason => exact absurd hother.symm hfinish
            | start =>
                dsimp only [execute] at hdone
                rw [if_pos (hmark hother.symm)] at hdone
                cases hdone
            | fail failureReason =>
                dsimp only [execute] at hdone
                rw [if_pos (hmark hother.symm)] at hdone
                cases hdone
          rw [hdone, statusOf_map (JobPatch.apply_id i.now patch) rfl hjob,
            if_pos (beq_iff_eq.mpr hother), patch.apply_status, hspared]
        · rw [hdone, statusOf_map (JobPatch.apply_id i.now patch) rfl hjob,
            if_neg fun heq => hother (beq_iff_eq.mp heq), hstatus]
  | resetJob other tenantId data =>
      obtain ⟨e, hfailed⟩ | ⟨_, -, -, hdone⟩ := execute_resetJob P i s other tenantId data
      · rw [hfailed]
        exact h
      · by_cases hother : job.id = other
        · dsimp only [execute] at hdone
          rw [if_pos (hretry hother.symm)] at hdone
          cases hdone
        · rw [hdone, statusOf_map (f := reset i.now data) (fun _ => rfl) rfl hjob,
            if_neg fun heq => hother (beq_iff_eq.mp heq), hstatus]
  | _ =>
      rw [statusOf, execute_importJobs P i s rfl]
      exact h

end Status

/-! ## The runs -/

def isLook (id : Id) : Event importInterface → Bool
  | ⟨.findStatus other, _⟩ => other == id
  | _ => false

/-- How often a thread has looked at the status of the job. -/
def looks (id : Id) (h : List (Event importInterface)) : ℕ := h.countP (isLook id)

/-- How often the thread of this number has looked. -/
def looksOf (id : Id) (c : ImportConfig) (n : ℕ) : ℕ :=
  (c.threads[n]?.map fun t => looks id t.history).getD 0

def passesRow {α : Type} : Program importInterface α → Bool
  | .call (.processRow _) _ => true
  | _ => false

/-- The job is canceled since `c₁`, and no worker that looked at it since is about
to pass a row to the handler. -/
def StaysCanceled (id : Id) (c₁ c : ImportConfig) : Prop :=
  statusOf c.store id = some .canceled ∧
    ∀ n (t : ImportThread), c.threads[n]? = some t → passesRow t.program = true →
      looks id t.history = looksOf id c₁ n

/-- What holds of a thread since the cancel: it has not looked yet and looks before
it finishes, or it stops. -/
def Cooperates (id : Id) (before : ℕ) (t : ImportThread) : Prop :=
  looks id t.history = before ∧ LooksFirst id t.program ∨ t.program.Issues Stopping

structure Canceled (id : Id) (c₁ c : ImportConfig) : Prop where
  later : c₁.threads.length ≤ c.threads.length
  status : statusOf c.store id = some .canceled
  heeds : ∀ t ∈ c.threads, t.program.Throughout Heeds
  cooperates : ∀ n (t : ImportThread), c.threads[n]? = some t →
    Cooperates id (looksOf id c₁ n) t

section Runs

variable {P : ImportPlatform} {id : Id} {c₁ : ImportConfig}

theorem Canceled.spares {c : ImportConfig} (hc : Canceled id c₁ c) {n : ℕ} {r : Request}
    {h : List (Event importInterface)} {cmd : ImportCommand}
    {k : Response importInterface cmd → Program importInterface Reply}
    (ht : c.threads[n]? = some ⟨r, h, .call cmd k⟩) : ¬Finishes id cmd := by
  intro hfinishes
  unfold Finishes at hfinishes
  split at hfinishes
  · obtain ⟨-, hlook | ⟨hnot, -⟩⟩ | hstop := hc.cooperates n _ ht
    · cases hlook
    · exact hnot hfinishes
    · exact hstop.1
  · exact hfinishes

/-- What a thread makes of the answer to its call on a canceled job. -/
theorem Cooperates.resume {before : ℕ} {r : Request} {h : List (Event importInterface)}
    {cmd : ImportCommand} {k : Response importInterface cmd → Program importInterface Reply}
    {s : ImportStore} {i : ImportInput} (hstatus : statusOf s id = some .canceled)
    (hheeds : Heeds cmd k) (hmark : NotMarked id s cmd i)
    (hc : Cooperates id before ⟨r, h, .call cmd k⟩) :
    Cooperates id before (Thread.resume r h cmd k (execute P cmd i s).1) := by
  obtain ⟨hlooks, hnext⟩ | hstop := hc
  · by_cases hlook : cmd = .findStatus id
    · subst hlook
      refine .inr ?_
      show Program.Issues Stopping (k (execute P (.findStatus id) i s).1)
      cases hanswer : (execute P (.findStatus id) i s).1 with
      | error e => exact hheeds.2 e
      | ok status =>
          have hsame := execute_findStatus hanswer
          rw [hstatus] at hsame
          rw [← hsame]
          exact hheeds.1
    · obtain ⟨-, hrest⟩ := hnext.resolve_left hlook
      refine .inl ⟨?_, hrest _ fun hmarks => ?_⟩
      · have hnone : isLook id ⟨cmd, (execute P cmd i s).1⟩ = false := by
          cases cmd with
          | findStatus other => exact beq_eq_false_iff_ne.mpr fun heq => hlook (heq ▸ rfl)
          | _ => rfl
        rw [← hlooks]
        show looks id (h ++ [_]) = looks id h
        rw [looks, List.countP_append, List.countP_singleton, hnone]
        rfl
      · have hfault := hmark hmarks
        cases cmd with
        | updateJob other patch =>
            dsimp only [execute]
            rw [if_pos hfault]
            rfl
        | _ => exact hmarks.elim
  · exact .inr (hstop.2 _)

theorem canceled_next (c : ImportConfig) (a : Action Request ImportInput)
    (hc : Canceled id c₁ c)
    (ha : CallCondition (NotMarked id) c a ∧ CallCondition (NotRetried id) c a) :
    Canceled id c₁ ((importSystem P).next c a) := by
  have hheeds := (importSystem P).throughout_next (handle_heeds P) c a hc.heeds
  obtain ⟨r, rfl, hn⟩ | ⟨n, i, r, h, cmd, k, rfl, ht, hcall, hn⟩ | ⟨hn, -⟩ :=
    (importSystem P).next_cases c a
  · rw [hn] at hheeds ⊢
    refine ⟨?_, hc.status, hheeds, fun m t hm => ?_⟩
    · rw [List.length_append]
      exact hc.later.trans (Nat.le_add_right _ _)
    · by_cases hlt : m < c.threads.length
      · rw [List.getElem?_append_left hlt] at hm
        exact hc.cooperates m t hm
      · -- the thread that was started has not looked, as none of this number has before
        rw [List.getElem?_append_right (by omega)] at hm
        obtain rfl := List.mem_singleton.mp (List.mem_of_getElem? hm)
        refine .inl ⟨?_, handle_looksFirst P r⟩
        have hnone : c₁.threads[m]? = none := by
          have hlater := hc.later
          rw [List.getElem?_eq_none_iff]
          omega
        rw [looksOf, hnone]
        rfl
  · obtain ⟨hmark, hretry⟩ := ha
    rw [CallCondition, hcall] at hmark hretry
    rw [hn] at hheeds ⊢
    refine ⟨?_, statusOf_stays hc.status (hc.spares ht) hmark hretry, hheeds, fun m t hm => ?_⟩
    · rw [List.length_set]
      exact hc.later
    · obtain ⟨rfl, rfl⟩ | ⟨-, hm⟩ := getElem?_set_cases ht hm
      · exact (hc.cooperates n _ ht).resume hc.status (hc.heeds _ (List.mem_of_getElem? ht)).1 hmark
      · exact hc.cooperates m t hm
  · rw [hn]
    exact hc

theorem Canceled.stays {c : ImportConfig} (hc : Canceled id c₁ c) : StaysCanceled id c₁ c := by
  refine ⟨hc.status, fun n t ht hpasses => ?_⟩
  obtain ⟨hlooks, -⟩ | hstop := hc.cooperates n t ht
  · exact hlooks
  · unfold passesRow at hpasses
    split at hpasses
    · next hprogram =>
      rw [hprogram] at hstop
      exact hstop.1.elim
    · cases hpasses

end Runs

theorem handle_obeys_ofUser (P : ImportPlatform) (r : Request) :
    (handle P r).Obeys (fun _ c => r.ofUser = true → OfUser c) (fun _ _ => True) [] := by
  cases hr : r.ofUser with
  | false =>
      exact (Program.issues_true _).obeys_each (fun _ _ _ h => by cases h) []
  | true =>
      exact (handle_ofUser P hr).obeys_each (fun _ hc _ _ => hc) []

/-- A file is imported, a worker makes so many of its calls, and a cancel comes to
the update of the job. -/
def workedOn (calls : ℕ) : List (Action Request ImportInput) :=
  [.start (.create plainContext (some plainUpload) plainDto)] ++ steps 0 5 0 ++
    [.start (.process ⟨"2-0", "tenant", "user"⟩)] ++ steps 1 calls 10 ++
    [.start (.cancel plainContext "2-0")] ++ steps 2 2 20

/-- A cancel is final until the job is retried, if every worker that runs when it is
committed has yet to look at the status before it writes the one at the end, and no
worker starts the job or fails it afterwards. -/
theorem cancel_is_final (P : ImportPlatform) (s : ImportStore) (id : Id)
    (before after : List (Action Request ImportInput)) (a : Action Request ImportInput)
    (hcancel : MakesCall (CommitsCancel P id)
      ((importSystem P).runActions (Config.initial s) before) a)
    (hlook : ∀ t ∈ ((importSystem P).runActions (Config.initial s) (before ++ [a])).threads,
      t.request.ofUser = false → LooksFirst id t.program)
    (hmark : (importSystem P).AlongActions (CallCondition (NotMarked id))
      ((importSystem P).runActions (Config.initial s) (before ++ [a])) after)
    (hretry : (importSystem P).AlongActions (CallCondition (NotRetried id))
      ((importSystem P).runActions (Config.initial s) (before ++ [a])) after) :
    StaysCanceled id ((importSystem P).runActions (Config.initial s) (before ++ [a]))
      ((importSystem P).runActions (Config.initial s) (before ++ [a] ++ after)) := by
  rw [System.runActions_append _ (before ++ [a])]
  generalize hc₁ : (importSystem P).runActions (Config.initial s) (before ++ [a]) = c₁
    at hlook hmark hretry
  refine Canceled.stays ((importSystem P).run_invariant (J := Canceled id c₁) canceled_next after c₁
    ⟨le_rfl, ?_, ?_, fun n t ht => .inl ⟨?_, ?_⟩⟩ ((importSystem P).alongActions_and after c₁ hmark
      hretry))
  · rw [← hc₁, System.runActions_append]
    obtain ⟨r, rfl, hn⟩ | ⟨n, i, r, h, cmd, k, rfl, ht, hcall, hn⟩ | ⟨hn, hcall⟩ :=
      (importSystem P).next_cases ((importSystem P).runActions (Config.initial s) before) a
    · cases hcancel
    · rw [MakesCall, hcall] at hcancel
      rw [System.runActions_cons, System.runActions_nil, hn]
      exact statusOf_cancel hcancel
    · rw [MakesCall, hcall] at hcancel
      exact hcancel.elim
  · rw [← hc₁]
    exact (importSystem P).throughout_run (handle_heeds P) _ _ (by simp [Config.initial])
  · rw [looksOf, ht]
    rfl
  · cases hr : t.request.ofUser with
    | false => exact hlook t (List.mem_of_getElem? ht) hr
    | true =>
        have hobeying := (importSystem P).obeying_run (handle_obeys_ofUser P) (before ++ [a])
          (Config.initial s) (Config.obeying_initial _ _ s)
        rw [hc₁] at hobeying
        have hissues := (hobeying t (List.mem_of_getElem? ht)).issues
        exact looksFirst_of_issues (hissues.mono fun _ hc => (hc hr).spares)

/-- The worker is about to look when the cancel is committed, and stops. -/
theorem cancel_is_final_plain :
    StaysCanceled "2-0"
      ((importSystem plainPlatform).runActions (Config.initial .empty)
        (workedOn 5 ++ [.step 2 (plainInput 22)]))
      ((importSystem plainPlatform).runActions (Config.initial .empty)
        (workedOn 5 ++ [.step 2 (plainInput 22)] ++ (steps 2 1 23 ++ steps 1 3 30))) := by
  have hlook : ∀ t ∈ ((importSystem plainPlatform).runActions (Config.initial .empty)
      (workedOn 5 ++ [.step 2 (plainInput 22)])).threads,
      t.request.ofUser = false → looksNext "2-0" t.program = true := by
    decide +kernel
  apply cancel_is_final plainPlatform .empty "2-0" (workedOn 5) (steps 2 1 23 ++ steps 1 3 30)
  · decide +kernel
  · exact fun t ht hr => looksFirst_of_looksNext (hlook t ht hr)
  · decide +kernel
  · decide +kernel

/-- A worker has found the job when the cancel is committed, and starts it. -/
theorem a_canceled_import_runs_on :
    MakesCall (CommitsCancel plainPlatform "2-0")
        ((importSystem plainPlatform).runActions (Config.initial .empty) (workedOn 1))
        (.step 2 (plainInput 22)) ∧
      (importSystem plainPlatform).AlongActions (CallCondition (NotRetried "2-0"))
        ((importSystem plainPlatform).runActions (Config.initial .empty)
          (workedOn 1 ++ [.step 2 (plainInput 22)])) (steps 1 1 30) ∧
      ¬StaysCanceled "2-0"
        ((importSystem plainPlatform).runActions (Config.initial .empty)
          (workedOn 1 ++ [.step 2 (plainInput 22)]))
        ((importSystem plainPlatform).runActions (Config.initial .empty)
          (workedOn 1 ++ [.step 2 (plainInput 22)] ++ steps 1 1 30)) := by
  refine ⟨by decide +kernel, by decide +kernel, fun h => ?_⟩
  exact absurd h.1 (by decide +kernel)

end Logistics.Imports
