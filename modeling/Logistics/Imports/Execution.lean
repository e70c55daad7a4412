import Logistics.Imports.Service

/-!
# What the calls do to imports

One lemma for each call that writes jobs, row results or the queue, which says
all of what it does: it fails and changes nothing, or it commits. Every other
call leaves these as they are. A job stays, with the file it was created for.
-/

namespace Logistics.Imports

open Logistics.Library

/-! ## What is said about a store -/

def statusOf (s : ImportStore) (id : Id) : Option ImportStatus :=
  (s.importJobs.rows.find? fun row => row.id == id).map ImportJob.status

def resultsOf (s : ImportStore) (id : Id) : List ImportRowResult :=
  s.importRowResults.rows.filter fun row => row.importJobId == id

/-- What of a job is never rewritten and tells what it imports. -/
structure JobSource where
  id : Id
  tenantId : Id
  type : ImportType
  fileHash : Option String
  filename : String
  storedFilename : Option String
  deriving DecidableEq

def ImportJob.source (job : ImportJob) : JobSource :=
  ⟨job.id, job.tenantId, job.type, job.fileHash, job.filename, job.storedFilename⟩

@[simp] theorem JobPatch.apply_source (now : Time) (patch : JobPatch) (job : ImportJob) :
    (patch.apply now job).source = job.source := by
  cases patch <;> rfl

@[simp] theorem reset_source (now : Time) (data : RetryData) (job : ImportJob) :
    (reset now data job).source = job.source := rfl

@[simp] theorem reset_status (now : Time) (data : RetryData) (job : ImportJob) :
    (reset now data job).status = .pending := rfl

/-- The status an update writes, if it writes one. -/
def JobPatch.status? : JobPatch → Option ImportStatus
  | .start => some .processing
  | .progress .. => none
  | .finish _ _ status _ => some status
  | .fail _ => some .failed
  | .cancel => some .canceled

theorem JobPatch.apply_status (now : Time) (patch : JobPatch) (job : ImportJob) :
    (patch.apply now job).status = patch.status?.getD job.status := by
  cases patch <;> rfl

theorem eq_of_job_id {s : ImportStore} {a b : ImportJob} (ha : a ∈ s.importJobs.rows)
    (hb : b ∈ s.importJobs.rows) (hid : a.id = b.id) : a = b :=
  s.importJobs.eq_of_key ha hb (List.mem_singleton.mpr rfl) (List.mem_singleton.mpr hid)

theorem find?_job {s : ImportStore} {job : ImportJob} (hjob : job ∈ s.importJobs.rows) :
    (s.importJobs.rows.find? fun row => row.id == job.id) = some job := by
  apply s.importJobs.find?_eq_some hjob (List.mem_singleton.mpr rfl)
  intro row
  rw [beq_iff_eq, List.mem_singleton]
  exact eq_comm

theorem statusOf_eq {s : ImportStore} {job : ImportJob} (hjob : job ∈ s.importJobs.rows) :
    statusOf s job.id = some job.status := by
  rw [statusOf, find?_job hjob]
  rfl

theorem job_of_find? {s : ImportStore} {id : Id} {job : ImportJob}
    (h : (s.importJobs.rows.find? fun row => row.id == id) = some job) :
    job ∈ s.importJobs.rows ∧ job.id = id :=
  ⟨List.mem_of_find?_eq_some h, by simpa using List.find?_some h⟩

theorem statusOf_eq_some {s : ImportStore} {id : Id} {status : ImportStatus}
    (h : statusOf s id = some status) :
    ∃ job ∈ s.importJobs.rows, job.id = id ∧ job.status = status := by
  obtain ⟨job, hfind, hstatus⟩ := Option.map_eq_some_iff.mp h
  exact ⟨job, (job_of_find? hfind).1, (job_of_find? hfind).2, hstatus⟩

theorem statusOf_map {s s' : ImportStore} {job : ImportJob} {other : Id}
    {f : ImportJob → ImportJob} (hf : ∀ job, (f job).id = job.id)
    (hrows : s'.importJobs.rows =
      s.importJobs.rows.map fun row => if row.id == other then f row else row)
    (hjob : job ∈ s.importJobs.rows) :
    statusOf s' job.id = some (if job.id == other then f job else job).status := by
  have hmem : (if job.id == other then f job else job) ∈ s'.importJobs.rows := by
    rw [hrows]
    exact List.mem_map_of_mem hjob
  have hid : (if job.id == other then f job else job).id = job.id := by
    split
    · exact hf job
    · rfl
  rw [← statusOf_eq hmem, hid]

/-! ## Calls that write -/

section Commit

variable (P : ImportPlatform) (i : ImportInput) (s : ImportStore)

theorem execute_createJob (data : ImportJobData) :
    (∃ e, execute P (.createJob data) i s = (.error e, s)) ∨
      ∃ importJobs, s.importJobs.tryInsert (jobRow i data) = some importJobs ∧
        execute P (.createJob data) i s =
          (.ok (withUser s (jobRow i data)), { s with importJobs }) := by
  dsimp only [execute]
  split
  · exact .inl ⟨_, rfl⟩
  · unfold createJob
    split
    · exact .inl ⟨_, rfl⟩
    · next importJobs hinsert => exact .inr ⟨importJobs, hinsert, rfl⟩

theorem execute_updateJob (id : Id) (patch : JobPatch) :
    (∃ e, execute P (.updateJob id patch) i s = (.error e, s)) ∨
      ∃ job ∈ s.importJobs.rows, job.id = id ∧
        execute P (.updateJob id patch) i s =
          (.ok (withUser s (patch.apply i.now job)),
            { s with
              importJobs := s.importJobs.modify (fun row => row.id == id) (patch.apply i.now)
                fun row => by rw [patch.apply_id] }) := by
  dsimp only [execute]
  split
  · exact .inl ⟨_, rfl⟩
  · unfold rewriteJob
    split
    · exact .inl ⟨_, rfl⟩
    · next job hfind => exact .inr ⟨job, (job_of_find? hfind).1, (job_of_find? hfind).2, rfl⟩

theorem execute_resetJob (id tenantId : Id) (data : RetryData) :
    (∃ e, execute P (.resetJob id tenantId data) i s = (.error e, s)) ∨
      ∃ job ∈ s.importJobs.rows, job.id = id ∧
        execute P (.resetJob id tenantId data) i s =
          (.ok (), { s with
            importRowResults := s.importRowResults.delete fun row =>
              row.importJobId == id && row.tenantId == tenantId
            importJobs := s.importJobs.modify (fun row => row.id == id) (reset i.now data) fun _ =>
              rfl }) := by
  dsimp only [execute]
  split
  · exact .inl ⟨_, rfl⟩
  · unfold resetJob
    split
    · exact .inl ⟨_, rfl⟩
    · next job hfind => exact .inr ⟨job, (job_of_find? hfind).1, (job_of_find? hfind).2, rfl⟩

theorem execute_createRowResult (data : RowResultData) :
    (∃ e, execute P (.createRowResult data) i s = (.error e, s)) ∨
      ∃ importRowResults,
        s.importRowResults.tryInsert (rowResultRow i data) = some importRowResults ∧
          execute P (.createRowResult data) i s = (.ok (), { s with importRowResults }) := by
  dsimp only [execute]
  split
  · exact .inl ⟨_, rfl⟩
  · unfold createRowResult
    split
    · exact .inl ⟨_, rfl⟩
    · next importRowResults hinsert => exact .inr ⟨importRowResults, hinsert, rfl⟩

theorem execute_saveFile (tenantId : Id) (filename : String) (buffer : Buffer) :
    (∃ e, execute P (.saveFile tenantId filename buffer) i s = (.error e, s)) ∨
      ∃ extension files, safeExtension P filename = .ok extension ∧
        s.files.tryInsert ⟨tenantId, i.ids 0 ++ extension, buffer⟩ = some files ∧
          execute P (.saveFile tenantId filename buffer) i s =
            (.ok ⟨P.sha256 buffer, i.ids 0 ++ extension, buffer.length⟩, { s with files }) := by
  dsimp only [execute]
  split
  · exact .inl ⟨_, rfl⟩
  · unfold saveFile
    split
    · exact .inl ⟨_, rfl⟩
    · next extension hextension =>
      dsimp only
      split
      · exact .inl ⟨_, rfl⟩
      · next files hinsert => exact .inr ⟨extension, files, hextension, hinsert, rfl⟩

theorem execute_takeJob :
    execute P .takeJob i s = (.ok none, s) ∨
      ∃ job, s.waiting[i.pick]? = some job ∧
        execute P .takeJob i s =
          (.ok (some job), { s with waiting := s.waiting.eraseIdx i.pick }) := by
  dsimp only [execute]
  split
  · exact .inl rfl
  · next job hjob => exact .inr ⟨job, hjob, rfl⟩

theorem execute_addJob (jobId : String) (payload : ImportQueuePayload) :
    (∃ e, execute P (.addJob jobId payload) i s = (.error e, s)) ∨
      jobId ∈ s.known ∧ execute P (.addJob jobId payload) i s = (.ok (), s) ∨
      jobId ∉ s.known ∧ execute P (.addJob jobId payload) i s =
        (.ok (), { s with
          waiting := s.waiting ++ [⟨jobId, payload, 0⟩]
          known := s.known ++ [jobId] }) := by
  dsimp only [execute]
  split
  · exact .inl ⟨_, rfl⟩
  · unfold addJob
    split
    · next hknown => exact .inr (.inl ⟨hknown, rfl⟩)
    · next hknown => exact .inr (.inr ⟨hknown, rfl⟩)

theorem execute_removeJob (jobId : String) :
    (∃ x, execute P (.removeJob jobId) i s = (x, s)) ∨
      execute P (.removeJob jobId) i s =
        (.ok (), { s with
          waiting := s.waiting.filter fun job => job.jobId != jobId
          known := s.known.filter fun other => other != jobId }) := by
  dsimp only [execute]
  split
  · exact .inl ⟨_, rfl⟩
  · unfold removeJob
    split
    · exact .inr rfl
    · split <;> exact .inl ⟨_, rfl⟩

end Commit

def ImportCommand.writesQueue : ImportCommand → Bool
  | .addJob .. | .removeJob _ | .takeJob | .requeueJob _ => true
  | _ => false

/-- What a call that writes makes of the store. -/
inductive Write (P : ImportPlatform) (i : ImportInput) (s : ImportStore) :
    ImportCommand → ImportStore → Prop
  | createJob (data importJobs)
      (hinsert : s.importJobs.tryInsert (jobRow i data) = some importJobs) :
      Write P i s (.createJob data) { s with importJobs }
  | updateJob (id) (patch : JobPatch) :
      Write P i s (.updateJob id patch) { s with
        importJobs := s.importJobs.modify (fun row => row.id == id) (patch.apply i.now)
          fun row => by rw [patch.apply_id] }
  | resetJob (id tenantId data) :
      Write P i s (.resetJob id tenantId data) { s with
        importRowResults := s.importRowResults.delete fun row =>
          row.importJobId == id && row.tenantId == tenantId
        importJobs := s.importJobs.modify (fun row => row.id == id) (reset i.now data) fun _ =>
          rfl }
  | createRowResult (data importRowResults)
      (hinsert : s.importRowResults.tryInsert (rowResultRow i data) = some importRowResults) :
      Write P i s (.createRowResult data) { s with importRowResults }
  | saveFile (tenantId filename buffer extension files)
      (hinsert : s.files.tryInsert ⟨tenantId, i.ids 0 ++ extension, buffer⟩ = some files) :
      Write P i s (.saveFile tenantId filename buffer) { s with files }
  | queue (c waiting known) (hc : c.writesQueue = true) :
      Write P i s c { s with waiting, known }
  | recordAudit (audit) :
      Write P i s (.recordAudit audit) { s with auditLogs := s.auditLogs ++ [audit] }

theorem execute_store (P : ImportPlatform) (c : ImportCommand) (i : ImportInput)
    (s : ImportStore) : (execute P c i s).2 = s ∨ Write P i s c (execute P c i s).2 := by
  cases c with
  | createJob data =>
      obtain ⟨e, h⟩ | ⟨importJobs, hinsert, h⟩ := execute_createJob P i s data
      · exact .inl (congrArg Prod.snd h)
      · rw [h]
        exact .inr (.createJob data importJobs hinsert)
  | updateJob id patch =>
      obtain ⟨e, h⟩ | ⟨_, -, -, h⟩ := execute_updateJob P i s id patch
      · exact .inl (congrArg Prod.snd h)
      · rw [h]
        exact .inr (.updateJob id patch)
  | resetJob id tenantId data =>
      obtain ⟨e, h⟩ | ⟨_, -, -, h⟩ := execute_resetJob P i s id tenantId data
      · exact .inl (congrArg Prod.snd h)
      · rw [h]
        exact .inr (.resetJob id tenantId data)
  | createRowResult data =>
      obtain ⟨e, h⟩ | ⟨importRowResults, hinsert, h⟩ := execute_createRowResult P i s data
      · exact .inl (congrArg Prod.snd h)
      · rw [h]
        exact .inr (.createRowResult data importRowResults hinsert)
  | saveFile tenantId filename buffer =>
      obtain ⟨e, h⟩ | ⟨extension, files, -, hinsert, h⟩ :=
        execute_saveFile P i s tenantId filename buffer
      · exact .inl (congrArg Prod.snd h)
      · rw [h]
        exact .inr (.saveFile tenantId filename buffer extension files hinsert)
  | addJob jobId payload =>
      obtain ⟨e, h⟩ | ⟨-, h⟩ | ⟨-, h⟩ := execute_addJob P i s jobId payload
      · exact .inl (congrArg Prod.snd h)
      · exact .inl (congrArg Prod.snd h)
      · rw [h]
        exact .inr (.queue (.addJob jobId payload) _ _ rfl)
  | removeJob jobId =>
      obtain ⟨x, h⟩ | h := execute_removeJob P i s jobId
      · exact .inl (congrArg Prod.snd h)
      · rw [h]
        exact .inr (.queue (.removeJob jobId) _ _ rfl)
  | takeJob =>
      obtain h | ⟨job, -, h⟩ := execute_takeJob P i s
      · exact .inl (congrArg Prod.snd h)
      · rw [h]
        exact .inr (.queue .takeJob _ _ rfl)
  | requeueJob job =>
      dsimp only [execute]
      unfold requeueJob
      split
      · exact .inr (.queue (.requeueJob job) _ _ rfl)
      · exact .inl rfl
  | recordAudit audit =>
      dsimp only [execute]
      split
      · exact .inl rfl
      · exact .inr (.recordAudit audit)
  | now => exact .inl rfl
  | _ =>
      dsimp only [execute]
      split <;> exact .inl rfl

/-! ## Calls that leave a table alone -/

def ImportCommand.writesJobs : ImportCommand → Bool
  | .createJob _ | .updateJob .. | .resetJob .. => true
  | _ => false

def ImportCommand.writesResults : ImportCommand → Bool
  | .createRowResult _ | .resetJob .. => true
  | _ => false

section Frame

variable (P : ImportPlatform) (i : ImportInput) (s : ImportStore) {c : ImportCommand}

theorem execute_importJobs (hc : c.writesJobs = false) :
    (execute P c i s).2.importJobs = s.importJobs := by
  rcases execute_store P c i s with h | h
  · rw [h]
  · generalize (execute P c i s).2 = s' at h
    cases h with
    | createJob => cases hc
    | updateJob => cases hc
    | resetJob => cases hc
    | _ => rfl

theorem execute_importRowResults (hc : c.writesResults = false) :
    (execute P c i s).2.importRowResults = s.importRowResults := by
  rcases execute_store P c i s with h | h
  · rw [h]
  · generalize (execute P c i s).2 = s' at h
    cases h with
    | createRowResult => cases hc
    | resetJob => cases hc
    | _ => rfl

theorem execute_queue (hc : c.writesQueue = false) :
    (execute P c i s).2.waiting = s.waiting ∧ (execute P c i s).2.known = s.known := by
  rcases execute_store P c i s with h | h
  · rw [h]
    exact ⟨rfl, rfl⟩
  · generalize (execute P c i s).2 = s' at h
    cases h with
    | queue c waiting known hqueue =>
        rw [hc] at hqueue
        cases hqueue
    | _ => exact ⟨rfl, rfl⟩

end Frame

/-! ## What the calls answer -/

section Answers

variable {P : ImportPlatform} {i : ImportInput} {s : ImportStore}

theorem find?_of_execute_findJob {id tenantId : Id} {found : JobWithUser}
    (h : (execute P (.findJob id tenantId) i s).1 = .ok (some found)) :
    found.job ∈ s.importJobs.rows ∧ found.job.id = id ∧ found.job.tenantId = tenantId := by
  dsimp only [execute] at h
  split at h
  · cases h
  · obtain ⟨job, hfind, rfl⟩ := Option.map_eq_some_iff.mp (Except.ok.inj h)
    have hmatch := List.find?_some hfind
    rw [Bool.and_eq_true, beq_iff_eq, beq_iff_eq] at hmatch
    exact ⟨List.mem_of_find?_eq_some hfind, hmatch⟩

theorem execute_findStatus {id : Id} {status : Option ImportStatus}
    (h : (execute P (.findStatus id) i s).1 = .ok status) : statusOf s id = status := by
  dsimp only [execute] at h
  split at h
  · cases h
  · exact Except.ok.inj h

theorem execute_readFile {tenantId : Id} {key : String} {buffer : Buffer}
    (h : (execute P (.readFile tenantId key) i s).1 = .ok buffer) :
    ⟨tenantId, key, buffer⟩ ∈ s.files.rows := by
  dsimp only [execute] at h
  split at h
  · cases h
  · dsimp only at h
    unfold readFile at h
    split at h
    · split at h
      · next file hfind =>
        have hmatch := List.find?_some hfind
        rw [Bool.and_eq_true, beq_iff_eq, beq_iff_eq] at hmatch
        obtain ⟨rfl, rfl⟩ := hmatch
        cases h
        exact List.mem_of_find?_eq_some hfind
      · cases h
    · cases h

end Answers

/-! ## What stays -/

/-- No call removes a job or changes what it imports. -/
theorem execute_job_stays (P : ImportPlatform) (c : ImportCommand) (i : ImportInput)
    {s : ImportStore} {job : ImportJob} (hjob : job ∈ s.importJobs.rows) :
    ∃ job' ∈ (execute P c i s).2.importJobs.rows, job'.source = job.source := by
  rcases execute_store P c i s with h | h
  · rw [h]
    exact ⟨job, hjob, rfl⟩
  · generalize (execute P c i s).2 = s' at h
    cases h with
    | createJob data importJobs hinsert =>
        dsimp only
        rw [Table.tryInsert_rows hinsert]
        exact ⟨job, List.mem_append_left _ hjob, rfl⟩
    | updateJob id patch =>
        refine ⟨_, List.mem_map_of_mem hjob, ?_⟩
        split
        · exact patch.apply_source i.now job
        · rfl
    | resetJob id tenantId data =>
        refine ⟨_, List.mem_map_of_mem hjob, ?_⟩
        split
        · exact reset_source i.now data job
        · rfl
    | _ => exact ⟨job, hjob, rfl⟩

theorem execute_file_stays (P : ImportPlatform) (c : ImportCommand) (i : ImportInput)
    {s : ImportStore} {file : ImportFile} (hfile : file ∈ s.files.rows) :
    file ∈ (execute P c i s).2.files.rows := by
  rcases execute_store P c i s with h | h
  · rw [h]
    exact hfile
  · generalize (execute P c i s).2 = s' at h
    cases h with
    | saveFile tenantId filename buffer extension files hinsert =>
        dsimp only
        rw [Table.tryInsert_rows hinsert]
        exact List.mem_append_left _ hfile
    | _ => exact hfile

/-! ## What the programs call -/

/-- An update that a run makes: not that of a cancel, and never back to pending. -/
def JobPatch.ofRun : JobPatch → Prop
  | .cancel => False
  | .finish _ _ status _ => status ≠ .pending
  | _ => True

/-- A call that a run of this job makes, once it was found. -/
def OfRun (id : Id) : ImportCommand → Prop
  | .findStatus other => other = id
  | .updateJob other patch => other = id ∧ patch.ofRun
  | .createRowResult data => data.importJobId = id
  | .readFile .. | .processRow _ | .recordAudit _ | .emitImportEvent ..
  | .emitDashboardRefresh .. =>
      True
  | _ => False

section Runs

variable (P : ImportPlatform) (payload : ImportQueuePayload) (job : ImportJob)

theorem emit_issues {Q : ImportCommand → Prop} {tenantId userId : Id}
    {event : ImportProgressEventDto}
    (hevent : ∀ name, Q (.emitImportEvent tenantId name event userId))
    (hrefresh : Q (.emitDashboardRefresh tenantId "import")) :
    (emit tenantId userId event).Issues Q := by
  unfold emit
  simp only [Program.issues_perform_bind_iff]
  refine ⟨hevent _, fun _ => ?_⟩
  split
  · exact (Program.issues_perform_iff _).mpr hrefresh
  · trivial

theorem emit_ofRun (id tenantId userId : Id) (event : ImportProgressEventDto) :
    (emit tenantId userId event).Issues (OfRun id) :=
  emit_issues (fun _ => trivial) trivial

theorem processRows_issues (totalRows : ℕ) (rows : List ParsedImportRow) (counts : RowCounts) :
    (processRows P payload job totalRows rows counts).Issues (OfRun job.id) := by
  induction rows generalizing counts with
  | nil => trivial
  | cons row rest ih =>
      unfold processRows
      rw [Program.issues_perform_bind_iff]
      refine ⟨rfl, fun current => ?_⟩
      split
      · exact (emit_ofRun _ _ _ _).bind fun _ => trivial
      · simp only [Program.issues_perform_bind_iff]
        exact ⟨trivial, fun _ => ⟨rfl, fun _ => ⟨⟨rfl, trivial⟩, fun _ =>
          (emit_ofRun _ _ _ _).bind fun _ => ih _⟩⟩⟩

theorem finalStatus_ne_pending (counts : RowCounts) : finalStatus counts ≠ .pending := by
  unfold finalStatus
  split <;> simp

theorem finish_issues (totalRows : ℕ) (counts : RowCounts) :
    (finish P payload job totalRows counts).Issues (OfRun job.id) := by
  unfold finish
  simp only [Program.issues_perform_bind_iff]
  exact ⟨⟨rfl, finalStatus_ne_pending counts⟩, fun _ => ⟨trivial, fun _ => emit_ofRun _ _ _ _⟩⟩

theorem processFile_issues (storedFilename : String) :
    (processFile P payload job storedFilename).Issues (OfRun job.id) := by
  unfold processFile
  simp only [Program.issues_perform_bind_iff, Program.issues_ofExcept_bind_iff]
  refine ⟨trivial, fun _ parsed _ => (processRows_issues P payload job _ _ _).bind fun counts => ?_⟩
  cases counts with
  | none => trivial
  | some counts => exact finish_issues P payload job _ counts

theorem failJob_issues (error : ServiceError) :
    (failJob P payload job error).Issues (OfRun job.id) := by
  unfold failJob
  simp only [Program.issues_perform_bind_iff]
  exact ⟨⟨rfl, trivial⟩, fun _ => ⟨trivial, fun _ => (emit_ofRun _ _ _ _).bind fun _ => trivial⟩⟩

theorem processJob_issues (storedFilename : String) :
    (processJob P payload job storedFilename).Issues (OfRun job.id) := by
  unfold processJob
  simp only [Program.issues_perform_bind_iff]
  refine ⟨⟨rfl, trivial⟩, fun _ => ⟨trivial, fun _ => (emit_ofRun _ _ _ _).bind fun _ => ?_⟩⟩
  exact (processFile_issues P payload job storedFilename).tryCatch (failJob_issues P payload job)

/-- Before the run, `process` looks up the job. -/
def OfProcess : ImportCommand → Prop
  | .findJob .. => True
  | c => ∃ id, OfRun id c

/-- A worker calls for nothing but its deliveries and the runs of their jobs. -/
def OfWorker : ImportCommand → Prop
  | .takeJob | .requeueJob _ => True
  | c => OfProcess c

theorem OfRun.ofProcess {id : Id} {c : ImportCommand} (h : OfRun id c) : OfProcess c := by
  cases c <;> first | exact ⟨id, h⟩ | trivial

theorem OfProcess.ofWorker {c : ImportCommand} (h : OfProcess c) : OfWorker c := by
  cases c <;> first | exact h | trivial

theorem process_issues : (process P payload).Issues OfProcess := by
  unfold process
  rw [Program.issues_perform_bind_iff]
  refine ⟨trivial, fun found => ?_⟩
  cases found with
  | none => trivial
  | some found =>
      dsimp only
      split
      · trivial
      · exact (processJob_issues P payload found.job _).mono fun _ => OfRun.ofProcess

theorem work_issues : (work P).Issues OfWorker := by
  unfold work
  rw [Program.issues_perform_bind_iff]
  refine ⟨trivial, fun taken => ?_⟩
  cases taken with
  | none => trivial
  | some job =>
      exact ((process_issues P job.payload).mono fun _ => OfProcess.ofWorker).tryCatch fun _ =>
        Program.Issues.perform trivial

end Runs

section Requests

variable {Q : ImportCommand → Prop} (context : Context) (importJobId : Id)

theorem getAuthorizedJob_issues (hfind : ∀ id tenantId, Q (.findJob id tenantId)) :
    (getAuthorizedJob context importJobId).Issues Q := by
  unfold getAuthorizedJob
  rw [Program.issues_perform_bind_iff]
  refine ⟨hfind _ _, fun found => ?_⟩
  cases found with
  | none => trivial
  | some found => exact (Program.issues_throwIf_bind_iff _ _ _).mpr fun _ => trivial

theorem cancel_issues (hfind : ∀ id tenantId, Q (.findJob id tenantId))
    (hremove : ∀ jobId, Q (.removeJob jobId)) (hupdate : ∀ id, Q (.updateJob id .cancel))
    (haudit : ∀ input, Q (.recordAudit input)) : (cancel context importJobId).Issues Q := by
  unfold cancel
  refine (getAuthorizedJob_issues context importJobId hfind).bind fun found => ?_
  rw [Program.issues_throwIf_bind_iff]
  intro _
  refine Program.Issues.bind ((Program.Issues.perform (hremove _)).tryCatch fun _ => trivial)
    fun _ => ?_
  simp only [Program.issues_perform_bind_iff]
  exact ⟨hupdate _, fun _ => ⟨haudit _, fun _ => trivial⟩⟩

theorem retry_issues (P : ImportPlatform) (dto : RetryImportDto)
    (hfind : ∀ id tenantId, Q (.findJob id tenantId))
    (hreset : ∀ id tenantId data, Q (.resetJob id tenantId data)) (hnow : Q .now)
    (hadd : ∀ jobId payload, Q (.addJob jobId payload))
    (haudit : ∀ input, Q (.recordAudit input)) : (retry P context importJobId dto).Issues Q := by
  unfold retry
  refine (getAuthorizedJob_issues context importJobId hfind).bind fun found => ?_
  rw [Program.issues_throwIf_bind_iff]
  intro _
  simp only [Program.issues_perform_bind_iff]
  exact ⟨hreset _ _ _, fun _ => ⟨hnow, fun _ => ⟨hadd _ _, fun _ => ⟨haudit _, fun _ =>
    (getAuthorizedJob_issues context _ hfind).bind fun _ => trivial⟩⟩⟩⟩

end Requests

/-! ## A plain import -/

def plainUpload : Upload := ⟨"clientes.csv", "text/csv", plainFile.length, plainFile⟩

def plainDto : CreateImportDto := ⟨.customers, [("name", "nome"), ("document", "documento")], none⟩

def plainContext : Context := ⟨.admin, "tenant", "user"⟩

def plainInput (now : ℕ) : ImportInput where
  now := now
  ids k := toString now ++ "-" ++ toString k
  fault := false
  outcome := .ok ⟨none, none, none, none, none, .success⟩
  pick := 0
  tie _ := 0

def steps (thread count now : ℕ) : List (Action Request ImportInput) :=
  (List.range count).map fun n => .step thread (plainInput (now + n))

end Logistics.Imports
