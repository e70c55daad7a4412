import Logistics.Imports.Execution

/-!
# Who answers for a pending job

The job is written before its delivery is added to the queue, and a delivery is
taken before the job is marked as being processed. In between some thread answers
for the job: `Owes` says what such a thread is about to call, `Answers` after
which calls a thread owes, and `Grounded` in which earlier calls of its thread a
call has its identifiers from.
-/

namespace Logistics.Imports

open Logistics.Library

/-! ## Threads that answer for a job -/

def isRunning {α : Type} : Program importInterface α → Bool
  | .call _ _ => true
  | _ => false

section Owing

variable {α β : Type}

/-- Next, the delivery with this payload is handed back. -/
def Requeues (id tenantId : Id) : Program importInterface α → Prop
  | .call (.requeueJob job) _ => job.payload.importJobId = id ∧ job.payload.tenantId = tenantId
  | _ => False

/-- Next, the job is marked as being processed; if that fails, its delivery is
handed back. -/
def Starts (id tenantId : Id) : Program importInterface α → Prop
  | .call (.updateJob other .start) k => other = id ∧ ∀ e, Requeues id tenantId (k (.error e))
  | _ => False

/-- Next, a delivery of the job is added. -/
def Adds (id tenantId : Id) : Program importInterface α → Prop
  | .call (.addJob _ payload) _ => payload.importJobId = id ∧ payload.tenantId = tenantId
  | _ => False

/-- The job is looked up to be started, if it has a file. -/
def LooksUp (id tenantId : Id) : Program importInterface α → Prop
  | .call (.findJob other tenant) k => other = id ∧ tenant = tenantId ∧
      (∀ e, Requeues id tenantId (k (.error e))) ∧
      ∀ found : JobWithUser, found.job.id = id →
        (∃ key, found.job.storedFilename = some key ∧ key ≠ "") →
          Starts id tenantId (k (.ok (some found)))
  | _ => False

/-- What is about to be called brings a delivery of the job, starts it or ends
it. -/
inductive Owes (id tenantId : Id) : Program importInterface α → Prop
  | adds {p} (h : Adds id tenantId p) : Owes id tenantId p
  | clock {k} (h : ∀ now, Adds id tenantId (k (.ok now))) : Owes id tenantId (.call .now k)
  | cancels {k} : Owes id tenantId (.call (.updateJob id .cancel) k)
  | looksUp {p} (h : LooksUp id tenantId p) : Owes id tenantId p
  | starts {p} (h : Starts id tenantId p) : Owes id tenantId p
  | requeues {p} (h : Requeues id tenantId p) : Owes id tenantId p

theorem Requeues.bind {id tenantId : Id} {p : Program importInterface α}
    (h : Requeues id tenantId p) (f : α → Program importInterface β) :
    Requeues id tenantId (p >>= f) := by
  unfold Requeues at h
  split at h
  · exact h
  · exact h.elim

theorem Starts.bind {id tenantId : Id} {p : Program importInterface α}
    (h : Starts id tenantId p) (f : α → Program importInterface β) :
    Starts id tenantId (p >>= f) := by
  unfold Starts at h
  split at h
  · exact ⟨h.1, fun e => (h.2 e).bind f⟩
  · exact h.elim

theorem Adds.bind {id tenantId : Id} {p : Program importInterface α}
    (h : Adds id tenantId p) (f : α → Program importInterface β) :
    Adds id tenantId (p >>= f) := by
  unfold Adds at h
  split at h
  · exact h
  · exact h.elim

theorem LooksUp.bind {id tenantId : Id} {p : Program importInterface α}
    (h : LooksUp id tenantId p) (f : α → Program importInterface β) :
    LooksUp id tenantId (p >>= f) := by
  unfold LooksUp at h
  split at h
  · exact ⟨h.1, h.2.1, fun e => (h.2.2.1 e).bind f, fun found hid hfile =>
      (h.2.2.2 found hid hfile).bind f⟩
  · exact h.elim

theorem Owes.bind {id tenantId : Id} {p : Program importInterface α}
    (h : Owes id tenantId p) (f : α → Program importInterface β) :
    Owes id tenantId (p >>= f) := by
  cases h with
  | adds h => exact .adds (h.bind f)
  | clock h => exact .clock fun now => (h now).bind f
  | cancels => exact .cancels
  | looksUp h => exact .looksUp (h.bind f)
  | starts h => exact .starts (h.bind f)
  | requeues h => exact .requeues (h.bind f)

theorem Owes.isRunning {id tenantId : Id} {p : Program importInterface α}
    (h : Owes id tenantId p) : isRunning p = true := by
  cases p with
  | call c k => rfl
  | pure a =>
      cases h with
      | adds h => exact h.elim
      | looksUp h => exact h.elim
      | starts h => exact h.elim
      | requeues h => exact h.elim
  | throw e =>
      cases h with
      | adds h => exact h.elim
      | looksUp h => exact h.elim
      | starts h => exact h.elim
      | requeues h => exact h.elim

/-- After a call that leaves a job pending without a delivery, the thread
answers for the job. -/
def Answers : (c : ImportCommand) → (Response importInterface c → Program importInterface α) → Prop
  | .createJob data, k => ∀ created : JobWithUser, created.job.tenantId = data.tenantId →
      Owes created.job.id data.tenantId (k (.ok created))
  | .resetJob id tenantId _, k => Owes id tenantId (k (.ok ()))
  | .removeJob jobId, k => ∃ id, jobId = "import:" ++ id ∧ ∀ x tenantId, Owes id tenantId (k x)
  | .takeJob, k => ∀ job : QueuedJob,
      Owes job.payload.importJobId job.payload.tenantId (k (.ok (some job)))
  | _, _ => True

theorem Answers.bind {c : ImportCommand}
    {k : Response importInterface c → Program importInterface α}
    (h : Answers c k) (f : α → Program importInterface β) : Answers c fun x => k x >>= f := by
  cases c with
  | createJob data => exact fun created htenant => (h created htenant).bind f
  | resetJob id tenantId data => exact Owes.bind h f
  | removeJob jobId =>
      obtain ⟨id, hjobId, h⟩ := h
      exact ⟨id, hjobId, fun x tenantId => (h x tenantId).bind f⟩
  | takeJob => exact fun job => (h job).bind f
  | _ => trivial

theorem Answers.map {c : ImportCommand} {k : Response importInterface c → Program importInterface α}
    (h : Answers c k) (f : α → β) : Answers c fun x => f <$> k x := by
  simp only [map_eq_pure_bind]
  exact h.bind _

end Owing

/-! ## The programs -/

section Programs

variable (P : ImportPlatform)

theorem OfProcess.answers {α : Type} {c : ImportCommand} (hc : OfProcess c)
    (k : Response importInterface c → Program importInterface α) : Answers c k := by
  cases c with
  | createJob data =>
      obtain ⟨_, hrun⟩ := hc
      exact hrun.elim
  | resetJob id tenantId data =>
      obtain ⟨_, hrun⟩ := hc
      exact hrun.elim
  | removeJob jobId =>
      obtain ⟨_, hrun⟩ := hc
      exact hrun.elim
  | takeJob =>
      obtain ⟨_, hrun⟩ := hc
      exact hrun.elim
  | _ => trivial

theorem throughout_ofExcept {α : Type} (x : Except ServiceError α) :
    (Program.ofExcept x : Program importInterface α).Throughout Answers := by
  cases x <;> trivial

theorem throughout_throwIf (p : Prop) [Decidable p] (e : ServiceError) :
    (Program.throwIf p e : Program importInterface Unit).Throughout Answers := by
  unfold Program.throwIf
  split <;> trivial

theorem create_answers (context : Context) (file : Option Upload) (dto : CreateImportDto) :
    (create P context file dto).Throughout Answers := by
  have hbind : ∀ {α β : Type} {p : Program importInterface α}
      {f : α → Program importInterface β}, p.Throughout Answers →
        (∀ a, (f a).Throughout Answers) → (p >>= f).Throughout Answers :=
    fun hp hf => hp.bind (fun _ _ h => h.bind _) hf
  unfold create
  refine hbind (throughout_ofExcept _) fun upload => hbind (throughout_ofExcept _) fun parsed =>
    hbind (throughout_throwIf _ _) fun _ => Program.Throughout.perform_bind trivial fun found => ?_
  cases found with
  | some duplicate => trivial
  | none =>
      apply Program.Throughout.perform_bind trivial
      intro stored
      apply Program.Throughout.perform_bind
      · exact fun created _ => .adds ⟨rfl, rfl⟩
      · intro created
        exact Program.Throughout.perform_bind trivial fun _ =>
          Program.Throughout.perform_bind trivial fun _ => trivial

theorem getAuthorizedJob_answers (context : Context) (importJobId : Id) :
    (getAuthorizedJob context importJobId).Throughout Answers :=
  (getAuthorizedJob_issues (Q := OfProcess) context importJobId fun _ _ => trivial).throughout
    fun _ k hc => hc.answers k

theorem cancel_answers (context : Context) (importJobId : Id) :
    (cancel context importJobId).Throughout Answers := by
  unfold cancel
  refine (getAuthorizedJob_answers context importJobId).bind (fun _ _ h => h.bind _) fun found => ?_
  refine (throughout_throwIf _ _).bind (fun _ _ h => h.bind _) fun _ => ?_
  constructor
  · refine ⟨found.job.id, rfl, fun x tenantId => ?_⟩
    cases x with
    | ok _ => exact .cancels
    | error e => exact .cancels
  · intro x
    have hrest : ∀ u : Unit, (do
        let updated ← call (.updateJob found.job.id .cancel)
        call (.recordAudit (audit .importCanceled context.tenantId context.userId found.job.id []))
        pure (presentJob updated) : Program importInterface ImportJobDto).Throughout Answers :=
      fun _ => Program.Throughout.perform_bind trivial fun _ =>
        Program.Throughout.perform_bind trivial fun _ => trivial
    cases x with
    | ok _ => exact hrest ()
    | error e => exact hrest ()

theorem retry_answers (context : Context) (importJobId : Id) (dto : RetryImportDto) :
    (retry P context importJobId dto).Throughout Answers := by
  unfold retry
  refine (getAuthorizedJob_answers context importJobId).bind (fun _ _ h => h.bind _) fun found => ?_
  refine (throughout_throwIf _ _).bind (fun _ _ h => h.bind _) fun _ => ?_
  apply Program.Throughout.perform_bind
  · exact .clock fun now => ⟨rfl, rfl⟩
  · intro _
    refine Program.Throughout.perform_bind trivial fun now => ?_
    refine Program.Throughout.perform_bind trivial fun _ => ?_
    refine Program.Throughout.perform_bind trivial fun _ => ?_
    exact (getAuthorizedJob_answers context _).bind (fun _ _ h => h.bind _) fun _ => trivial

theorem process_looksUp (job : QueuedJob) :
    LooksUp job.payload.importJobId job.payload.tenantId
      ((process P job.payload).tryCatch fun _ => call (.requeueJob job)) := by
  refine ⟨rfl, rfl, fun e => ⟨rfl, rfl⟩, ?_⟩
  rintro found hid ⟨key, hkey, hne⟩
  have hfile : found.job.storedFilename.filter (· ≠ "") = some key := by
    rw [hkey]
    exact Option.filter_some_pos (by simpa using hne)
  dsimp only [Program.bind]
  rw [hfile]
  exact ⟨hid, fun e => ⟨rfl, rfl⟩⟩

theorem work_answers : (work P).Throughout Answers := by
  apply Program.Throughout.perform_bind
  · exact fun job => .looksUp (process_looksUp P job)
  · intro taken
    cases taken with
    | none => trivial
    | some job =>
        have hrun : ((process P job.payload).tryCatch fun _ => call (.requeueJob job)).Issues
            fun c : ImportCommand => OfProcess c ∨ c = .requeueJob job :=
          ((process_issues P job.payload).mono fun _ hc => .inl hc).tryCatch fun _ =>
            Program.Issues.perform (.inr rfl)
        refine hrun.throughout fun c k hc => ?_
        rcases hc with hc | rfl
        · exact hc.answers k
        · trivial

theorem handle_answers (r : Request) : (handle P r).Throughout Answers := by
  cases r with
  | create context file dto => exact (create_answers P context file dto).map fun _ _ h => h.map _
  | cancel context importJobId =>
      exact (cancel_answers context importJobId).map fun _ _ h => h.map _
  | retry context importJobId dto =>
      exact (retry_answers P context importJobId dto).map fun _ _ h => h.map _
  | process payload =>
      refine Program.Throughout.map (L := Answers) ?_ fun _ _ h => h.map _
      exact (process_issues P payload).throughout fun _ k hc => hc.answers k
  | work => exact (work_answers P).map fun _ _ h => h.map _

end Programs

/-! ## What the calls rest on -/

/-- The names under which the deliveries of a job are queued. -/
def NamedFor (jobId : String) (id : Id) : Prop :=
  jobId = "import:" ++ id ∨ ∃ now : Time, jobId = "import:" ++ id ++ ":retry:" ++ toString now

/-- What a call rests on in the earlier calls of its thread. -/
def Grounded (h : List (Event importInterface)) : ImportCommand → Prop
  | .createJob data => ∃ tenantId filename buffer, ∃ stored : StoredImportFile,
      (⟨.saveFile tenantId filename buffer, .ok stored⟩ : Event importInterface) ∈ h ∧
        data.storedFilename = stored.key
  | .addJob jobId payload => NamedFor jobId payload.importJobId
  | .removeJob jobId => ∃ asked tenantId, ∃ found : JobWithUser,
      (⟨.findJob asked tenantId, .ok (some found)⟩ : Event importInterface) ∈ h ∧
        jobId = "import:" ++ found.job.id
  | .resetJob id tenantId _ => ∃ asked, ∃ found : JobWithUser,
      (⟨.findJob asked tenantId, .ok (some found)⟩ : Event importInterface) ∈ h ∧
        found.job.id = id
  | .requeueJob job => (⟨.takeJob, .ok (some job)⟩ : Event importInterface) ∈ h
  | .updateJob _ patch => patch.status? ≠ some .pending
  | _ => True

/-- The same, and that a worker makes the calls of a worker. -/
def Rests (r : Request) (h : List (Event importInterface)) (c : ImportCommand) : Prop :=
  Grounded h c ∧
    match r with
    | .work => OfWorker c
    | .process _ => OfProcess c
    | _ => True

section Rests

variable (P : ImportPlatform)

theorem OfProcess.grounded {c : ImportCommand} (hc : OfProcess c)
    (h : List (Event importInterface)) : Grounded h c := by
  cases c with
  | findJob id tenantId => trivial
  | createJob data =>
      obtain ⟨_, hrun⟩ := hc
      exact hrun.elim
  | addJob jobId payload =>
      obtain ⟨_, hrun⟩ := hc
      exact hrun.elim
  | resetJob id tenantId data =>
      obtain ⟨_, hrun⟩ := hc
      exact hrun.elim
  | removeJob jobId =>
      obtain ⟨_, hrun⟩ := hc
      exact hrun.elim
  | requeueJob job =>
      obtain ⟨_, hrun⟩ := hc
      exact hrun.elim
  | updateJob id patch =>
      obtain ⟨_, -, hrun⟩ := hc
      cases patch with
      | finish counts totalRows status failureReason =>
          simpa [Grounded, JobPatch.status?, JobPatch.ofRun] using hrun
      | cancel => exact hrun.elim
      | _ => simp [Grounded, JobPatch.status?]
  | _ => trivial

theorem getAuthorizedJob_grounded (context : Context) (importJobId : Id)
    (h : List (Event importInterface)) :
    (getAuthorizedJob context importJobId).Obeys Grounded
      (fun h x => ∀ found, x = .ok found →
        (⟨.findJob importJobId context.tenantId, .ok (some found)⟩ : Event importInterface) ∈ h)
      h := by
  unfold getAuthorizedJob
  apply Program.Obeys.perform_bind trivial
  · intro found
    cases found with
    | none =>
        intro found hfound
        cases hfound
    | some found =>
        apply Program.Obeys.throwIf_bind
        · intro _ other hother
          cases hother
        · intro _ other hother
          cases hother
          exact List.mem_append_right _ (List.mem_singleton.mpr rfl)
  · intro e found hfound
    cases hfound

theorem create_grounded (context : Context) (file : Option Upload) (dto : CreateImportDto)
    (h : List (Event importInterface)) :
    (create P context file dto).Obeys Grounded (fun _ _ => True) h := by
  unfold create
  refine Program.Obeys.ofExcept_bind (fun upload _ => ?_) fun _ _ => trivial
  refine Program.Obeys.ofExcept_bind (fun parsed _ => ?_) fun _ _ => trivial
  refine Program.Obeys.throwIf_bind (fun _ => trivial) fun _ => ?_
  refine Program.Obeys.perform_bind trivial (fun found => ?_) fun _ => trivial
  cases found with
  | some duplicate => trivial
  | none =>
      refine Program.Obeys.perform_bind trivial (fun stored => ?_) fun _ => trivial
      apply Program.Obeys.perform_bind ?_ ?_ fun _ => trivial
      · exact ⟨_, _, _, stored, List.mem_append_right _ (List.mem_singleton.mpr rfl), rfl⟩
      · intro created
        refine Program.Obeys.perform_bind (.inl rfl) (fun _ => ?_) fun _ => trivial
        exact Program.Obeys.perform_bind trivial (fun _ => trivial) fun _ => trivial

theorem cancel_grounded (context : Context) (importJobId : Id)
    (h : List (Event importInterface)) :
    (cancel context importJobId).Obeys Grounded (fun _ _ => True) h := by
  unfold cancel
  refine (getAuthorizedJob_grounded context importJobId h).bind (fun h found hfound => ?_)
    fun _ _ _ => trivial
  refine Program.Obeys.throwIf_bind (fun _ => trivial) fun _ => ?_
  have hremove : (Program.tryCatch (call (.removeJob ("import:" ++ found.job.id))) fun _ =>
      pure () : Program importInterface Unit).Obeys Grounded (fun _ _ => True) h := by
    refine ⟨⟨_, _, found, hfound found rfl, rfl⟩, fun x => ?_⟩
    cases x <;> trivial
  refine hremove.bind (fun h _ _ => ?_) fun _ _ _ => trivial
  refine Program.Obeys.perform_bind (by simp [Grounded, JobPatch.status?]) (fun updated => ?_)
    fun _ => trivial
  exact Program.Obeys.perform_bind trivial (fun _ => trivial) fun _ => trivial

theorem retry_grounded (context : Context) (importJobId : Id) (dto : RetryImportDto)
    (h : List (Event importInterface)) :
    (retry P context importJobId dto).Obeys Grounded (fun _ _ => True) h := by
  unfold retry
  refine (getAuthorizedJob_grounded context importJobId h).bind (fun h found hfound => ?_)
    fun _ _ _ => trivial
  refine Program.Obeys.throwIf_bind (fun _ => trivial) fun _ => ?_
  apply Program.Obeys.perform_bind ?_ ?_ fun _ => trivial
  · exact ⟨_, found, hfound found rfl, rfl⟩
  · intro _
    refine Program.Obeys.perform_bind trivial (fun now => ?_) fun _ => trivial
    refine Program.Obeys.perform_bind (.inr ⟨now, rfl⟩) (fun _ => ?_) fun _ => trivial
    refine Program.Obeys.perform_bind trivial (fun _ => ?_) fun _ => trivial
    exact (getAuthorizedJob_grounded context _ _).bind (fun _ _ _ => trivial) fun _ _ _ => trivial

theorem work_grounded (h : List (Event importInterface)) :
    (work P).Obeys Grounded (fun _ _ => True) h := by
  unfold work
  refine Program.Obeys.perform_bind trivial (fun taken => ?_) fun _ => trivial
  cases taken with
  | none => trivial
  | some job =>
      have hrun := (process_issues P job.payload).obeys (P := Grounded)
        (J := fun h => (⟨.takeJob, .ok (some job)⟩ : Event importInterface) ∈ h)
        (fun c hc h _ => hc.grounded h) (fun h e hmem => List.mem_append_left _ hmem)
        (List.mem_append_right h (List.mem_singleton.mpr rfl))
      refine hrun.tryCatch (fun _ _ _ => trivial) fun h e htaken => ?_
      exact ⟨htaken, fun x => by cases x <;> trivial⟩

theorem handle_rests (r : Request) :
    (handle P r).Obeys (Rests r) (fun _ _ => True) [] := by
  have hand : ∀ {α : Type} {p : Program importInterface α} {C : ImportCommand → Prop},
      p.Obeys Grounded (fun _ _ => True) [] → p.Issues C →
        p.Obeys (fun h c => Grounded h c ∧ C c) (fun _ _ => True) [] := fun hp hC =>
    (hp.and (hC.obeys_each (P := fun _ c => _) (fun _ hc _ => hc) [])).mono (fun _ _ h => h)
      fun _ _ _ => trivial
  cases r with
  | create context file dto =>
      exact (hand (create_grounded P context file dto []) (Program.issues_true _)).map
        (fun _ _ _ => trivial) fun _ _ _ => trivial
  | cancel context importJobId =>
      exact (hand (cancel_grounded context importJobId []) (Program.issues_true _)).map
        (fun _ _ _ => trivial) fun _ _ _ => trivial
  | retry context importJobId dto =>
      exact (hand (retry_grounded P context importJobId dto []) (Program.issues_true _)).map
        (fun _ _ _ => trivial) fun _ _ _ => trivial
  | process payload =>
      have hgrounded := (process_issues P payload).obeys_each (P := Grounded)
        (fun c hc h => hc.grounded h) []
      exact (hand hgrounded (process_issues P payload)).map
        (fun _ _ _ => trivial) fun _ _ _ => trivial
  | work =>
      exact (hand (work_grounded P []) (work_issues P)).map
        (fun _ _ _ => trivial) fun _ _ _ => trivial

end Rests

end Logistics.Imports
