import Logistics.Imports.Redelivery

/-!
# The outcome of a run

A run of a new job in which no call fails stores what the handler reports of each
row, counts it, and ends with a progress of 100; on its way the progress never goes
back. The status at the end is decided by the rows with an error and those with
success, so a file of skipped and faulty rows fails although some rows did not.
-/

namespace Logistics.Imports

open Logistics.Library

/-! ## Counting outcomes -/

theorem tally_eq (outcomes : List ImportRowStatus) :
    tally outcomes = ⟨outcomes.length, outcomes.count .success, outcomes.count .error,
      outcomes.count .skipped⟩ := by
  induction outcomes using List.reverseRecOn with
  | nil => rfl
  | append_singleton rest outcome ih =>
      rw [tally_append_singleton, ih]
      cases outcome <;> simp [RowCounts.add]

theorem finalStatus_tally_eq_failed_iff (outcomes : List ImportRowStatus) :
    finalStatus (tally outcomes) = .failed ↔ .error ∈ outcomes ∧ .success ∉ outcomes := by
  rw [finalStatus, tally_eq]
  simp [List.count_eq_zero]

/-! ## What is said of a run -/

def jobOf (s : ImportStore) (id : Id) : Option ImportJob :=
  s.importJobs.rows.find? fun row => row.id == id

def progressOf (s : ImportStore) (id : Id) : ℕ :=
  ((jobOf s id).map ImportJob.progress).getD 0

def ImportRowResult.reported (row : ImportRowResult) : ℕ × ImportRowProcessResult :=
  (row.rowNumber, {
    createdResourceId := row.createdResourceId
    errorCode := row.errorCode
    errorMessage := row.errorMessage
    externalReference := row.externalReference
    normalizedData := row.normalizedData
    status := row.status })

/-- No call fails, new identifiers are new, and this is what the handler reports of
each row. The rows of a file have different numbers, so these are any outcomes. -/
def Uneventful (report : ParsedImportRow → ImportRowProcessResult) (s : ImportStore)
    (c : importInterface.Command) (i : ImportInput) : Prop :=
  i.fault = false ∧
    match c with
    | ImportCommand.processRow input => i.outcome = .ok (report input.row)
    | ImportCommand.createRowResult _ => ∀ row ∈ s.importRowResults.rows, row.id ≠ i.ids 0
    | _ => True

instance (report : ParsedImportRow → ImportRowProcessResult) (s : ImportStore)
    (c : importInterface.Command) (i : ImportInput) : Decidable (Uneventful report s c i) := by
  apply @ImportCommand.casesOn (fun c => Decidable (Uneventful report s c i)) c <;>
    intros <;> dsimp only [Uneventful] <;> infer_instance

def Climbs (P : ImportPlatform) (id : Id) (s : ImportStore) (c : importInterface.Command)
    (i : ImportInput) : Prop :=
  progressOf s id ≤ progressOf (execute P c i s).2 id

/-- However the run goes on with these reports, the progress of the job does not go
back, and it ends like this. -/
abbrev Steady {α : Type} (P : ImportPlatform) (report : ParsedImportRow → ImportRowProcessResult)
    (id : Id) (p : Program importInterface α) (Q : Except ServiceError α → ImportStore → Prop)
    (s : ImportStore) : Prop :=
  p.wp (execute P) (Uneventful report) (Climbs P id) Q s

section Calls

variable {P : ImportPlatform} {report : ParsedImportRow → ImportRowProcessResult} {id : Id}
  {s : ImportStore} {i : ImportInput}

theorem climbs_of_same {c : ImportCommand} (hc : c.writesJobs = false) : Climbs P id s c i := by
  rw [Climbs, progressOf, progressOf, jobOf, jobOf, execute_importJobs P i s hc]

theorem Steady.call_bind {α : Type} {c : ImportCommand} (hc : c.writesJobs = false)
    {f : c.Result → Program importInterface α} {Q : Except ServiceError α → ImportStore → Prop}
    (h : ∀ i, Uneventful report s c i →
      ∃ a s', execute P c i s = (.ok a, s') ∧ Steady P report id (f a) Q s') :
    Steady P report id (call c >>= f) Q s :=
  Program.wp_answered_bind fun i hi => ⟨climbs_of_same hc, h i hi⟩

theorem emit_steady {Q : Except ServiceError Unit → ImportStore → Prop} {tenantId userId : Id}
    {event : ImportProgressEventDto} (h : Q (.ok ()) s) :
    Steady P report id (emit tenantId userId event) Q s :=
  emit_wp (fun _ _ _ hi => hi.1) (fun _ _ _ hc => climbs_of_same hc) h

theorem jobOf_eq_some {job : ImportJob} (h : jobOf s id = some job) :
    job ∈ s.importJobs.rows ∧ job.id = id :=
  job_of_find? h

theorem execute_updateJob_of_jobOf (hi : i.fault = false) {job : ImportJob}
    (hjob : jobOf s id = some job) (patch : JobPatch) :
    ∃ updated s', execute P (.updateJob id patch) i s = (.ok updated, s') ∧
      jobOf s' id = some (patch.apply i.now job) ∧
      s'.importRowResults = s.importRowResults ∧ s'.files = s.files := by
  obtain ⟨hmem, rfl⟩ := jobOf_eq_some hjob
  obtain ⟨e, h⟩ | ⟨found, hfound, hsame, h⟩ := execute_updateJob P i s job.id patch
  · rw [jobOf] at hjob
    simp [execute, hi, rewriteJob, hjob] at h
  · refine ⟨_, _, h, ?_, rfl, rfl⟩
    have hrewritten : patch.apply i.now job ∈ (s.importJobs.modify (fun row => row.id == job.id)
        (patch.apply i.now) fun row => by rw [patch.apply_id]).rows := by
      refine List.mem_map.mpr ⟨job, hmem, ?_⟩
      rw [if_pos (beq_self_eq_true job.id)]
    have hfind := find?_job (s := { s with importJobs := _ }) hrewritten
    rw [patch.apply_id] at hfind
    exact hfind

theorem Steady.update_bind {α : Type} {job : ImportJob} (hjob : jobOf s id = some job)
    {patch : JobPatch} (hprogress : ∀ now, job.progress ≤ (patch.apply now job).progress)
    {f : JobWithUser → Program importInterface α} {Q : Except ServiceError α → ImportStore → Prop}
    (h : ∀ now updated s', jobOf s' id = some (patch.apply now job) →
      s'.importRowResults = s.importRowResults → s'.files = s.files →
      Steady P report id (f updated) Q s') :
    Steady P report id (call (.updateJob id patch) >>= f) Q s := by
  intro i hi
  obtain ⟨updated, s', hanswer, hjob', hresults, hfiles⟩ :=
    execute_updateJob_of_jobOf (P := P) hi.1 hjob patch
  refine ⟨?_, ?_⟩
  · rw [Climbs, hanswer, progressOf, progressOf, hjob, hjob']
    exact hprogress i.now
  · rw [hanswer]
    exact h i.now updated s' hjob' hresults hfiles

end Calls

/-! ## The run -/

/-- These rows are done: their reports are stored, and the progress is not ahead of
them. -/
structure Counted (P : ImportPlatform) (report : ParsedImportRow → ImportRowProcessResult)
    (s : ImportStore) (id : Id) (totalRows : ℕ) (done : List ParsedImportRow) : Prop where
  job : ∃ stored, jobOf s id = some stored ∧ stored.status = .processing ∧
    stored.progress ≤ progressPercent P done.length totalRows
  results : (resultsOf s id).map ImportRowResult.reported =
    done.map fun row => (row.rowNumber, report row)

theorem progressPercent_le (P : ImportPlatform) (processedRows totalRows : ℕ) :
    progressPercent P processedRows totalRows ≤ 100 := by
  unfold progressPercent
  split
  · exact Nat.zero_le _
  · exact Nat.min_le_left _ _

theorem progressPercent_mono {P : ImportPlatform}
    (hround : ∀ totalRows, Monotone fun processedRows => P.roundedPercent processedRows totalRows)
    (totalRows : ℕ) : Monotone fun processedRows => progressPercent P processedRows totalRows := by
  intro a b hab
  simp only [progressPercent]
  split
  · exact le_rfl
  · exact min_le_min_left 100 (hround totalRows hab)

section Runs

variable {P : ImportPlatform} {report : ParsedImportRow → ImportRowProcessResult}
  {s : ImportStore} (payload : ImportQueuePayload) (job : ImportJob)

/-- What is counted once these rows are done. -/
def counted (report : ParsedImportRow → ImportRowProcessResult) (done : List ParsedImportRow) :
    RowCounts :=
  tally (done.map fun row => (report row).status)

theorem counted_append_singleton (done : List ParsedImportRow) (row : ParsedImportRow) :
    counted report (done ++ [row]) = (counted report done).add (report row).status := by
  rw [counted, List.map_append]
  exact tally_append_singleton _ _

theorem counted_processedRows (done : List ParsedImportRow) :
    (counted report done).processedRows = done.length := by
  rw [counted, tally_eq, List.length_map]

/-- From the rows that are done the loop comes to the end of the file. -/
theorem processRows_steady
    (hround : ∀ totalRows, Monotone fun processedRows => P.roundedPercent processedRows totalRows)
    (totalRows : ℕ) (rows : List ParsedImportRow) {done : List ParsedImportRow}
    (hnodup : ((done ++ rows).map ParsedImportRow.rowNumber).Nodup)
    (hs : Counted P report s job.id totalRows done) :
    Steady P report job.id (processRows P payload job totalRows rows (counted report done))
      (fun x s' => x = .ok (some (counted report (done ++ rows))) ∧
        Counted P report s' job.id totalRows (done ++ rows)) s := by
  induction rows generalizing done s with
  | nil =>
      rw [List.append_nil]
      exact ⟨rfl, hs⟩
  | cons row rest ih =>
      have hsplit : done ++ row :: rest = (done ++ [row]) ++ rest := by simp
      obtain ⟨⟨stored, hjob, hstatus, hprogress⟩, hresults⟩ := hs
      have hmidway : Midway s job.id (resultsOf s job.id) :=
        ⟨by rw [statusOf, ← jobOf, hjob, Option.map_some, hstatus], rfl⟩
      unfold processRows
      apply Steady.call_bind rfl
      intro i hi
      refine ⟨some .processing, s, by simp [execute, hi.1, ← hmidway.status, statusOf], ?_⟩
      rw [if_neg (by simp)]
      apply Steady.call_bind rfl
      intro i hi
      refine ⟨report row, s, by simp [execute, hi.1, hi.2], ?_⟩
      apply Steady.call_bind rfl
      intro i hi
      rcases hmidway.store (P := P) (show RowResultData.importJobId
          ⟨job.id, row.rowNumber, payload.tenantId, report row⟩ = job.id from rfl) hi with
        ⟨e, -, other, hother, hnumber⟩ | ⟨s₁, hstored, hs₁⟩
      · -- a result has the number of an earlier row
        exfalso
        have hmem := List.mem_map_of_mem (f := Prod.fst)
          (List.mem_map_of_mem (f := ImportRowResult.reported) hother)
        rw [hresults, List.map_map] at hmem
        obtain ⟨earlier, hearlier, heq⟩ := List.mem_map.mp hmem
        rw [List.map_append, List.nodup_append] at hnodup
        exact hnodup.2.2 _ (List.mem_map_of_mem hearlier) row.rowNumber (by simp)
          (heq.trans hnumber)
      · refine ⟨(), s₁, hstored, ?_⟩
        have hjob₁ : jobOf s₁ job.id = some stored := by
          have hsame := execute_importJobs P i s (c := .createRowResult
            ⟨job.id, row.rowNumber, payload.tenantId, report row⟩) rfl
          rw [hstored] at hsame
          rw [jobOf, hsame]
          exact hjob
        have hnext : done.length + 1 = (done ++ [row]).length := by simp
        apply Steady.update_bind hjob₁
        · intro now
          refine hprogress.trans ?_
          change _ ≤ progressPercent P _ totalRows
          rw [← counted_append_singleton, counted_processedRows]
          exact progressPercent_mono hround totalRows (by simp)
        · intro now updated s₂ hjob₂ hresults₂ hfiles₂
          apply Program.wp_bind (emit_steady (Q := fun x s' => x = .ok () ∧ s' = s₂) ⟨rfl, rfl⟩)
          · rintro _ s' ⟨-, rfl⟩
            rw [hsplit] at hnodup ⊢
            rw [← counted_append_singleton]
            refine ih hnodup ⟨⟨_, hjob₂, hstatus, ?_⟩, ?_⟩
            · change progressPercent P _ totalRows ≤ _
              rw [← counted_append_singleton, counted_processedRows]
            · rw [resultsOf, hresults₂, ← resultsOf, hs₁.results, List.map_append, hresults,
                List.map_append]
              rfl
          · rintro e s' ⟨h, -⟩
            cases h

/-- How a run of these rows ends. -/
def EndsCounted (report : ParsedImportRow → ImportRowProcessResult) (s : ImportStore) (id : Id)
    (rows : List ParsedImportRow) : Prop :=
  ∃ stored, jobOf s id = some stored ∧ stored.counts = counted report rows ∧
    stored.progress = 100 ∧ stored.status = finalStatus (counted report rows) ∧
    stored.failureReason = (if finalStatus (counted report rows) = .failed then
      some "Todas as linhas falharam." else none) ∧
    (resultsOf s id).map ImportRowResult.reported = rows.map fun row => (row.rowNumber, report row)

theorem finish_steady (totalRows : ℕ) {rows : List ParsedImportRow}
    (hs : Counted P report s job.id totalRows rows) :
    Steady P report job.id (finish P payload job totalRows (counted report rows))
      (fun x s' => x = .ok () ∧ EndsCounted report s' job.id rows) s := by
  obtain ⟨⟨stored, hjob, -, hprogress⟩, hresults⟩ := hs
  unfold finish
  apply Steady.update_bind hjob
  · exact fun now => hprogress.trans (progressPercent_le P _ _)
  · intro now updated s₁ hjob₁ hresults₁ _
    apply Steady.call_bind rfl
    intro i hi
    refine ⟨(), _, execute_recordAudit hi.1 _, emit_steady ⟨rfl, _, hjob₁, rfl, rfl, rfl, rfl, ?_⟩⟩
    rw [resultsOf, hresults₁, ← resultsOf, hresults]

theorem processFile_steady
    (hround : ∀ totalRows, Monotone fun processedRows => P.roundedPercent processedRows totalRows)
    {key : String} {buffer : Buffer} (hfile : ⟨payload.tenantId, key, buffer⟩ ∈ s.files.rows)
    (hsafe : isSafeKey key = true) {stored : ImportJob} (hjob : jobOf s job.id = some stored)
    (hstatus : stored.status = .processing) (hprogress : stored.progress = 0)
    (hnew : resultsOf s job.id = []) {parsed : ParsedImportFile}
    (hparsed : parse P buffer job.filename = .ok parsed) :
    Steady P report job.id (processFile P payload job key)
      (fun x s' => x = .ok () ∧ EndsCounted report s' job.id parsed.rows) s := by
  unfold processFile
  apply Steady.call_bind rfl
  intro i hi
  have hread : execute P (.readFile payload.tenantId key) i s = (.ok buffer, s) := by
    dsimp only [execute]
    rw [hi.1, if_neg Bool.false_ne_true, readFile_of_mem hfile hsafe]
  refine ⟨buffer, s, hread, ?_⟩
  rw [hparsed]
  have hstart : Counted P report s job.id parsed.rows.length [] := by
    refine ⟨⟨stored, hjob, hstatus, ?_⟩, ?_⟩
    · rw [hprogress]
      exact Nat.zero_le _
    · rw [hnew]
      rfl
  have hnodup : (([] ++ parsed.rows).map ParsedImportRow.rowNumber).Nodup :=
    nodup_rowNumbers (parse_rows hparsed).2
  have hloop := processRows_steady payload job hround parsed.rows.length parsed.rows hnodup hstart
  rw [List.nil_append] at hloop
  change Steady P report job.id
    (processRows P payload job parsed.rows.length parsed.rows .zero >>= _)
    _ s
  refine Program.wp_bind hloop (fun counts s₁ hcounts => ?_) fun e s₁ herror => ?_
  · obtain rfl := Except.ok.inj hcounts.1
    exact finish_steady payload job parsed.rows.length hcounts.2
  · cases herror.1

/-- A run of a job with this file that has no results and no progress yet. -/
theorem process_steady
    (hround : ∀ totalRows, Monotone fun processedRows => P.roundedPercent processedRows totalRows)
    {buffer : Buffer} (hs : Filed s job buffer) (hnew : resultsOf s job.id = [])
    (hprogress : progressOf s job.id = 0) {parsed : ParsedImportFile}
    (hparsed : parse P buffer job.filename = .ok parsed) (userId : Id) :
    Steady P report job.id (process P ⟨job.id, job.tenantId, userId⟩)
      (fun x s' => x = .ok () ∧ EndsCounted report s' job.id parsed.rows) s := by
  obtain ⟨stored, hstored, key, hid, hname, hfind, hfilter, hsafe, hfile⟩ := hs.found
  have hjob : jobOf s stored.id = some stored := find?_job hstored
  rw [← hname] at hparsed
  rw [← hid] at hnew hprogress
  unfold process
  apply Steady.call_bind rfl
  intro i hi
  refine ⟨some (withUser s stored), s, by simp [execute, hi.1, hfind], ?_⟩
  simp only [withUser, hfilter]
  rw [← hid]
  unfold processJob
  apply Steady.update_bind hjob fun now => le_rfl
  intro now updated s₁ hjob₁ hresults₁ hfiles₁
  apply Steady.call_bind rfl
  intro i hi
  refine ⟨(), _, execute_recordAudit hi.1 _, ?_⟩
  apply Program.wp_bind (emit_steady (Q := fun x s' => x = .ok () ∧ s' = _) ⟨rfl, rfl⟩)
  · rintro _ s' ⟨-, rfl⟩
    rw [progressOf, hjob] at hprogress
    rw [resultsOf, ← hresults₁] at hnew
    rw [← hfiles₁] at hfile
    refine Program.wp_tryCatch (Q := fun x s' => x = .ok () ∧
      EndsCounted report s' stored.id parsed.rows) ?_ (fun _ _ hs' => hs') fun e s' hs' => ?_
    · change Steady P report stored.id _ _ _
      apply processFile_steady ⟨stored.id, job.tenantId, userId⟩ stored hround ?_ hsafe
      · exact hjob₁
      · rfl
      · exact hprogress
      · exact hnew
      · exact hparsed
      · exact hfile
    · cases hs'.1
  · rintro e s' ⟨h, -⟩
    cases h

end Runs

/-- Every row is counted and stored as it was reported, and the job has failed if no row
did anything else. -/
def EndsAsReported (report : ParsedImportRow → ImportRowProcessResult) (s : ImportStore)
    (id : Id) (rows : List ParsedImportRow) : Prop :=
  ∃ stored, jobOf s id = some stored ∧ stored.progress = 100 ∧
    stored.counts.processedRows = rows.length ∧
    stored.counts.successRows = rows.countP (fun row => (report row).status = .success) ∧
    stored.counts.errorRows = rows.countP (fun row => (report row).status = .error) ∧
    stored.counts.skippedRows = rows.countP (fun row => (report row).status = .skipped) ∧
    (resultsOf s id).map ImportRowResult.reported =
      rows.map (fun row => (row.rowNumber, report row)) ∧
    ((stored.status = .failed ∧ stored.failureReason = some "Todas as linhas falharam.") ↔
      ∀ row ∈ rows, (report row).status = .error) ∧
    (stored.status = .completed ↔ ¬∀ row ∈ rows, (report row).status = .error)

/-- A row was imported, or none failed, or all did. -/
def TellsFailure (report : ParsedImportRow → ImportRowProcessResult)
    (rows : List ParsedImportRow) : Prop :=
  (∃ row ∈ rows, (report row).status = .success) ∨
    (∀ row ∈ rows, (report row).status ≠ .error) ∨ ∀ row ∈ rows, (report row).status = .error

theorem count_reported (report : ParsedImportRow → ImportRowProcessResult)
    (rows : List ParsedImportRow) (status : ImportRowStatus) :
    (rows.map fun row => (report row).status).count status =
      rows.countP fun row => (report row).status = status := by
  rw [List.count, List.countP_map]
  rfl

theorem finalStatus_counted (report : ParsedImportRow → ImportRowProcessResult)
    (rows : List ParsedImportRow) :
    finalStatus (counted report rows) = .failed ↔
      (∃ row ∈ rows, (report row).status = .error) ∧
        ∀ row ∈ rows, (report row).status ≠ .success := by
  rw [counted, finalStatus_tally_eq_failed_iff]
  simp [List.mem_map]

theorem finalStatus_eq_completed_iff (counts : RowCounts) :
    finalStatus counts = .completed ↔ finalStatus counts ≠ .failed := by
  unfold finalStatus
  split <;> simp

/-- The status at the end tells whether all rows failed, unless some rows were skipped,
the others failed and none was imported. -/
theorem finalStatus_counted_iff {report : ParsedImportRow → ImportRowProcessResult}
    {rows : List ParsedImportRow} (hrows : rows ≠ []) :
    (finalStatus (counted report rows) = .failed ↔
      ∀ row ∈ rows, (report row).status = .error) ↔ TellsFailure report rows := by
  obtain ⟨first, hfirst⟩ := List.exists_mem_of_ne_nil rows hrows
  rw [finalStatus_counted]
  constructor
  · intro h
    by_cases hsuccess : ∃ row ∈ rows, (report row).status = .success
    · exact .inl hsuccess
    · by_cases herror : ∃ row ∈ rows, (report row).status = .error
      · refine .inr (.inr (h.mp ⟨herror, fun row hrow hstatus => ?_⟩))
        exact hsuccess ⟨row, hrow, hstatus⟩
      · exact .inr (.inl fun row hrow hstatus => herror ⟨row, hrow, hstatus⟩)
  · intro h
    constructor
    · rintro ⟨⟨row, hrow, herror⟩, hsuccess⟩
      rcases h with ⟨other, hother, hstatus⟩ | hnone | hall
      · exact absurd hstatus (hsuccess other hother)
      · exact absurd herror (hnone row hrow)
      · exact hall
    · intro hall
      refine ⟨⟨first, hfirst, hall first hfirst⟩, fun row hrow hstatus => ?_⟩
      rw [hall row hrow] at hstatus
      cases hstatus

theorem EndsCounted.asReported_iff {report : ParsedImportRow → ImportRowProcessResult}
    {s : ImportStore} {id : Id} {rows : List ParsedImportRow} (hrows : rows ≠ [])
    (h : EndsCounted report s id rows) :
    EndsAsReported report s id rows ↔ TellsFailure report rows := by
  obtain ⟨stored, hjob, hcounts, hprogress, hstatus, hreason, hresults⟩ := h
  have hfailed : (stored.status = .failed ∧
      stored.failureReason = some "Todas as linhas falharam.") ↔
        finalStatus (counted report rows) = .failed := by
    rw [hstatus, hreason]
    constructor
    · exact fun h => h.1
    · intro h
      rw [if_pos h]
      exact ⟨h, rfl⟩
  rw [← finalStatus_counted_iff hrows]
  constructor
  · rintro ⟨stored', hjob', -, -, -, -, -, -, hiff, -⟩
    obtain rfl := Option.some.inj (hjob'.symm.trans hjob)
    rw [← hfailed]
    exact hiff
  · intro hiff
    refine ⟨stored, hjob, hprogress, ?_, ?_, ?_, ?_, hresults, hfailed.trans hiff, ?_⟩
    · rw [hcounts, counted_processedRows]
    · rw [hcounts, counted, tally_eq]
      exact count_reported report rows _
    · rw [hcounts, counted, tally_eq]
      exact count_reported report rows _
    · rw [hcounts, counted, tally_eq]
      exact count_reported report rows _
    · rw [hstatus, finalStatus_eq_completed_iff, Ne, hiff]

/-- A run of a new job in which no call fails ends as the handler reported on the rows,
and its progress never goes back, exactly when the status can tell whether all rows
failed. -/
theorem a_run_ends_as_reported_iff (P : ImportPlatform)
    (hround : ∀ totalRows, Monotone fun processedRows => P.roundedPercent processedRows totalRows)
    (s : ImportStore) {job : ImportJob} {buffer : Buffer} (hs : Filed s job buffer)
    (hnew : resultsOf s job.id = []) (hprogress : progressOf s job.id = 0)
    {parsed : ParsedImportFile} (hparsed : parse P buffer job.filename = .ok parsed)
    (report : ParsedImportRow → ImportRowProcessResult) (userId : Id) (ω : ℕ → ImportInput)
    (hω : (process P ⟨job.id, job.tenantId, userId⟩).Along (execute P) (Uneventful report) ω s) :
    (((process P ⟨job.id, job.tenantId, userId⟩).run (execute P) ω s).1 = .ok () ∧
        EndsAsReported report ((process P ⟨job.id, job.tenantId, userId⟩).run (execute P) ω s).2
          job.id parsed.rows ∧
        (process P ⟨job.id, job.tenantId, userId⟩).Along (execute P) (Climbs P job.id) ω s) ↔
      TellsFailure report parsed.rows := by
  have hrun : Steady P report job.id (process P ⟨job.id, job.tenantId, userId⟩)
      (fun x s' => x = .ok () ∧ EndsCounted report s' job.id parsed.rows) s :=
    process_steady job hround hs hnew hprogress hparsed userId
  obtain ⟨hok, hends⟩ := Program.wp_run hrun hω
  rw [and_iff_right hok, and_iff_left (Program.wp_along hrun hω),
    hends.asReported_iff (parse_rows hparsed).1]

/-- The handler skips the first row, at the sixth call, and reports this of the other. -/
def twoReports (second : ImportRowStatus) (row : ParsedImportRow) : ImportRowProcessResult :=
  ⟨none, none, none, none, none, if row.rowNumber = 2 then .skipped else second⟩

def twoReportsInput (second : ImportRowStatus) (n : ℕ) : ImportInput :=
  { plainInput (100 + n) with
    outcome := .ok ⟨none, none, none, none, none, if n = 6 then .skipped else second⟩ }

theorem plainPlatform_rounds (totalRows : ℕ) :
    Monotone fun processedRows => plainPlatform.roundedPercent processedRows totalRows := by
  intro a b hab
  exact Nat.div_le_div_right (Nat.add_le_add_right (Nat.mul_le_mul_left 200 hab) totalRows)

/-- The second row is imported. -/
theorem a_run_ends_as_reported_after_a_success :
    EndsAsReported (twoReports .success) ((process plainPlatform
        ⟨importedJob.id, importedJob.tenantId, "user"⟩).run (execute plainPlatform)
        (twoReportsInput .success) importedStore).2 importedJob.id plainParsed.rows :=
  ((a_run_ends_as_reported_iff plainPlatform plainPlatform_rounds importedStore
    importedStore_filed (by decide +kernel) (by decide +kernel) parse_plainFile
    (twoReports .success) "user" (twoReportsInput .success) (by decide +kernel)).mpr
      (.inl ⟨⟨3, [("nome", "Bia"), ("documento", "2")]⟩, by simp [plainParsed], rfl⟩)).2.1

/-- One row is skipped and the other fails; all rows are said to have failed. -/
theorem a_run_of_a_skipped_row_fails :
    (process plainPlatform ⟨importedJob.id, importedJob.tenantId, "user"⟩).Along
        (execute plainPlatform) (Uneventful (twoReports .error)) (twoReportsInput .error)
        importedStore ∧
      ((jobOf ((process plainPlatform ⟨importedJob.id, importedJob.tenantId, "user"⟩).run
        (execute plainPlatform) (twoReportsInput .error) importedStore).2 importedJob.id).map
          fun job => (job.status, job.failureReason, job.counts)) =
        some (.failed, some "Todas as linhas falharam.", ⟨2, 0, 1, 1⟩) := by
  decide +kernel

end Logistics.Imports
