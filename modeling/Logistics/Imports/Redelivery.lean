import Logistics.Imports.Execution

/-!
# A delivery that comes again

The queue delivers a job again when its run threw. The results that the earlier
runs stored are still there, and a row has one result at most: a run that comes to
a row with a result throws as well, so it ends well only when there are none.
-/

namespace Logistics.Imports

open Logistics.Library

def tally (outcomes : List ImportRowStatus) : RowCounts :=
  outcomes.foldl RowCounts.add .zero

theorem tally_append_singleton (outcomes : List ImportRowStatus) (outcome : ImportRowStatus) :
    tally (outcomes ++ [outcome]) = (tally outcomes).add outcome := by
  rw [tally, List.foldl_append]
  rfl

/-- The counts that the results of a job call for. -/
def countsOf (results : List ImportRowResult) : RowCounts :=
  tally (results.map ImportRowResult.status)

theorem countsOf_append_singleton (results : List ImportRowResult) (row : ImportRowResult) :
    countsOf (results ++ [row]) = (countsOf results).add row.status := by
  rw [countsOf, List.map_append]
  exact tally_append_singleton _ _

/-- Every row of the file has its result, and the status follows from the results. -/
def Imported (P : ImportPlatform) (s : ImportStore) (job : ImportJob) (buffer : Buffer) : Prop :=
  ∃ parsed, parse P buffer job.filename = .ok parsed ∧
    ((resultsOf s job.id).map ImportRowResult.rowNumber).Perm
      (parsed.rows.map ParsedImportRow.rowNumber) ∧
    statusOf s job.id = some (finalStatus (countsOf (resultsOf s job.id)))

/-- No call fails for a reason of its own, the handlers report on their rows, and
new identifiers are new. -/
def NoFailure (s : ImportStore) (c : importInterface.Command) (i : ImportInput) : Prop :=
  i.fault = false ∧
    match c with
    | ImportCommand.processRow _ => i.outcome.isOk = true
    | ImportCommand.createRowResult _ => ∀ row ∈ s.importRowResults.rows, row.id ≠ i.ids 0
    | _ => True

instance (s : ImportStore) (c : importInterface.Command) (i : ImportInput) :
    Decidable (NoFailure s c i) := by
  apply @ImportCommand.casesOn (fun c => Decidable (NoFailure s c i)) c <;>
    intros <;> dsimp only [NoFailure] <;> infer_instance

/-- However the run goes on without failures, it ends like this. -/
abbrev Ends {α : Type} (P : ImportPlatform) (p : Program importInterface α)
    (Q : Except ServiceError α → ImportStore → Prop) (s : ImportStore) : Prop :=
  p.wp (execute P) NoFailure (fun _ _ _ => True) Q s

/-- The job is being processed, and has these results. -/
structure Midway (s : ImportStore) (id : Id) (results : List ImportRowResult) : Prop where
  status : statusOf s id = some .processing
  results : resultsOf s id = results

section Calls

variable {P : ImportPlatform} {i : ImportInput} {s : ImportStore} {id : Id}
  {results : List ImportRowResult}

/-- A call that is answered goes on with the answer. -/
theorem Ends.call_bind {α : Type} {c : ImportCommand} {f : c.Result → Program importInterface α}
    {Q : Except ServiceError α → ImportStore → Prop}
    (h : ∀ i, NoFailure s c i → ∃ a s', execute P c i s = (.ok a, s') ∧ Ends P (f a) Q s') :
    Ends P (call c >>= f) Q s :=
  Program.wp_answered_bind fun i hi => ⟨trivial, h i hi⟩

/-- Where no call fails, an announcement changes nothing. -/
theorem emit_wp {A G : ImportStore → ImportCommand → ImportInput → Prop}
    (hcalm : ∀ s c i, A s c i → i.fault = false)
    (hquiet : ∀ s c i, c.writesJobs = false → G s c i)
    {Q : Except ServiceError Unit → ImportStore → Prop} {tenantId userId : Id}
    {event : ImportProgressEventDto} (h : Q (.ok ()) s) :
    (emit tenantId userId event).wp (execute P) A G Q s := by
  unfold emit
  apply Program.wp_answered_bind
  intro i hi
  refine ⟨hquiet _ _ _ rfl, (), s, by simp [execute, hcalm _ _ _ hi], ?_⟩
  split
  · intro i hi
    refine ⟨hquiet _ _ _ rfl, ?_⟩
    simp only [execute, hcalm _ _ _ hi, Bool.false_eq_true, if_false]
    exact h
  · exact h

theorem emit_ends {Q : Except ServiceError Unit → ImportStore → Prop} {tenantId userId : Id}
    {event : ImportProgressEventDto} (h : Q (.ok ()) s) :
    Ends P (emit tenantId userId event) Q s :=
  emit_wp (fun _ _ _ hi => hi.1) (fun _ _ _ _ => trivial) h

theorem execute_recordAudit (hi : i.fault = false) (input : AuditRecordInput) :
    execute P (.recordAudit input) i s =
      (.ok (), { s with auditLogs := s.auditLogs ++ [input] }) := by
  simp [execute, hi]

/-- A job that is there is updated, with the status of the update and no change to
its results. -/
theorem execute_updateJob_of_mem (hi : i.fault = false) {job : ImportJob}
    (hjob : job ∈ s.importJobs.rows) (patch : JobPatch) :
    ∃ updated s', execute P (.updateJob job.id patch) i s = (.ok updated, s') ∧
      statusOf s' job.id = some (patch.status?.getD job.status) ∧
      resultsOf s' job.id = resultsOf s job.id := by
  obtain ⟨e, h⟩ | ⟨found, hfound, hid, h⟩ := execute_updateJob P i s job.id patch
  · simp [execute, hi, rewriteJob, find?_job hjob] at h
  · refine ⟨_, _, h, ?_, rfl⟩
    rw [statusOf_map (JobPatch.apply_id i.now patch) rfl hjob, if_pos (beq_self_eq_true job.id),
      patch.apply_status]

theorem Midway.update (hs : Midway s id results) (hi : i.fault = false) {patch : JobPatch}
    (hpatch : patch.status? = none) :
    ∃ updated s', execute P (.updateJob id patch) i s = (.ok updated, s') ∧
      Midway s' id results := by
  obtain ⟨job, hjob, rfl, hstatus⟩ := statusOf_eq_some hs.status
  obtain ⟨updated, s', h, hstatus', hresults⟩ :=
    execute_updateJob_of_mem (P := P) hi hjob patch
  refine ⟨updated, s', h, ?_, hresults.trans hs.results⟩
  rw [hstatus', hpatch, ← hstatus]
  rfl

theorem Midway.store (hs : Midway s id results) {data : RowResultData} (hid : data.importJobId = id)
    (hi : NoFailure s (.createRowResult data) i) :
    (∃ e, execute P (.createRowResult data) i s = (.error e, s) ∧
        ∃ row ∈ results, row.rowNumber = data.rowNumber) ∨
      ∃ s', execute P (.createRowResult data) i s = (.ok (), s') ∧
        Midway s' id (results ++ [rowResultRow i data]) := by
  obtain ⟨hfault, hfresh⟩ := hi
  dsimp only at hfresh
  dsimp only [execute]
  rw [hfault, if_neg Bool.false_ne_true, createRowResult]
  split
  · next hnone =>
    refine .inl ⟨_, rfl, ?_⟩
    by_contra hnew
    have hinsert := (s.importRowResults.tryInsert_isSome_iff (rowResultRow i data)).mpr
      ⟨by simp [ImportRowResult.keys], ?_⟩
    · rw [hnone] at hinsert
      obtain ⟨_, hsome⟩ := hinsert
      cases hsome
    · intro k hk row hrow hkey
      rcases List.mem_pair.mp hk with rfl | rfl
      · have heq : i.ids 0 = row.id := by simpa [ImportRowResult.keys, rowResultRow] using hkey
        exact hfresh row hrow heq.symm
      · have heq : data.tenantId = row.tenantId ∧ data.importJobId = row.importJobId ∧
            data.rowNumber = row.rowNumber := by
          simpa [ImportRowResult.keys, rowResultRow] using hkey
        apply hnew
        refine ⟨row, ?_, heq.2.2.symm⟩
        rw [← hs.results]
        exact List.mem_filter.mpr ⟨hrow, beq_iff_eq.mpr (heq.2.1.symm.trans hid)⟩
  · next importRowResults hinsert =>
    refine .inr ⟨_, rfl, hs.status, ?_⟩
    rw [resultsOf, Table.tryInsert_rows hinsert, List.filter_append, ← resultsOf, hs.results]
    simp [rowResultRow, hid]

end Calls

/-! ## A run without failures -/

section Runs

variable {P : ImportPlatform} {s : ImportStore} (payload : ImportQueuePayload) (job : ImportJob)

/-- From the rows that are done, the loop comes to the end of the file, or to a row
with an old result. -/
theorem processRows_ends (totalRows : ℕ) (old : List ImportRowResult)
    (rows : List ParsedImportRow) {done : List ParsedImportRow} {new : List ImportRowResult}
    (hnodup : ((done ++ rows).map ParsedImportRow.rowNumber).Nodup)
    (hs : Midway s job.id (old ++ new))
    (hnew : new.map ImportRowResult.rowNumber = done.map ParsedImportRow.rowNumber) :
    Ends P (processRows P payload job totalRows rows (countsOf new))
      (fun x s' =>
        (∃ new', x = .ok (some (countsOf new')) ∧ Midway s' job.id (old ++ new') ∧
          new'.map ImportRowResult.rowNumber =
            (done ++ rows).map ParsedImportRow.rowNumber) ∨
        old ≠ [] ∧ x.isOk = false) s := by
  induction rows generalizing done new s with
  | nil => exact .inl ⟨new, rfl, hs, by rw [hnew, List.append_nil]⟩
  | cons row rest ih =>
      have hsplit : done ++ row :: rest = (done ++ [row]) ++ rest := by simp
      unfold processRows
      apply Ends.call_bind
      intro i hi
      refine ⟨some .processing, s, by simp [execute, hi.1, ← hs.status, statusOf], ?_⟩
      rw [if_neg (by simp)]
      apply Ends.call_bind
      intro i hi
      obtain ⟨result, hresult⟩ : ∃ result, i.outcome = .ok result := by
        cases houtcome : i.outcome with
        | ok result => exact ⟨result, rfl⟩
        | error e =>
            have hok := hi.2
            rw [houtcome] at hok
            cases hok
      refine ⟨result, s, by simp [execute, hi.1, hresult], ?_⟩
      apply Program.wp_perform_bind
      intro i hi
      refine ⟨trivial, ?_⟩
      rcases hs.store (P := P) rfl hi with ⟨e, herror, other, hother, hnumber⟩ | ⟨s₁, hstored, hs₁⟩
      · -- a result of this run has the number of an earlier row
        refine ⟨fun _ hok => ?_, fun e _ => .inr ⟨fun hold => ?_, rfl⟩⟩
        · rw [herror] at hok
          cases hok
        · rw [hold, List.nil_append] at hother
          have hmem := List.mem_map_of_mem (f := ImportRowResult.rowNumber) hother
          rw [hnew, hnumber] at hmem
          rw [List.map_append, List.nodup_append] at hnodup
          exact hnodup.2.2 _ hmem row.rowNumber (by simp) rfl
      · refine ⟨fun _ _ => ?_, fun e herror => ?_⟩
        · rw [hstored]
          apply Ends.call_bind
          intro i hi
          obtain ⟨updated, s₂, hupdated, hs₂⟩ := hs₁.update (P := P) hi.1
            (show (JobPatch.progress _ _ _).status? = none from rfl)
          refine ⟨updated, s₂, hupdated, ?_⟩
          apply Program.wp_bind (emit_ends (Q := fun x s' => x = .ok () ∧ s' = s₂) ⟨rfl, rfl⟩)
          · rintro _ s' ⟨-, rfl⟩
            rw [List.append_assoc] at hs₂
            rw [hsplit] at hnodup ⊢
            have hrest := ih hnodup hs₂ (by simp [hnew, rowResultRow])
            rw [countsOf_append_singleton] at hrest
            exact hrest
          · rintro e s' ⟨h, -⟩
            cases h
        · rw [hstored] at herror
          cases herror

theorem finish_ends (totalRows : ℕ) (counts : RowCounts) {results : List ImportRowResult}
    (hs : Midway s job.id results) :
    Ends P (finish P payload job totalRows counts)
      (fun x s' => x = .ok () ∧ resultsOf s' job.id = results ∧
        statusOf s' job.id = some (finalStatus counts)) s := by
  obtain ⟨stored, hstored, hid, -⟩ := statusOf_eq_some hs.status
  unfold finish
  apply Ends.call_bind
  intro i hi
  obtain ⟨updated, s₁, h, hstatus, hresults⟩ :=
    execute_updateJob_of_mem (P := P) hi.1 hstored (.finish counts totalRows (finalStatus counts)
      (if finalStatus counts = .failed then some "Todas as linhas falharam." else none))
  rw [hid] at h hstatus hresults
  refine ⟨updated, s₁, h, ?_⟩
  apply Ends.call_bind
  intro i hi
  refine ⟨(), _, execute_recordAudit hi.1 _, ?_⟩
  exact emit_ends ⟨rfl, hresults.trans hs.results, hstatus⟩

theorem failJob_ends (error : ServiceError) :
    Ends P (failJob P payload job error) (fun x _ => x.isOk = false) s := by
  unfold failJob
  refine Program.wp_perform_bind fun i _ => ⟨trivial, fun _ _ => ?_, fun _ _ => rfl⟩
  refine Program.wp_perform_bind fun i _ => ⟨trivial, fun _ _ => ?_, fun _ _ => rfl⟩
  exact Program.wp_bind (Program.wp_mono (Program.wp_true _ _) fun _ _ _ => trivial)
    (fun _ _ _ => rfl) fun _ _ _ => rfl

/-- How a run ends that begins with these results: with one more for each row of the
file, or with an exception. -/
def Concludes (P : ImportPlatform) (job : ImportJob) (buffer : Buffer)
    (old : List ImportRowResult) (x : Except ServiceError Unit) (s : ImportStore) : Prop :=
  (∃ parsed new, parse P buffer job.filename = .ok parsed ∧ x = .ok () ∧
    resultsOf s job.id = old ++ new ∧
    new.map ImportRowResult.rowNumber = parsed.rows.map ParsedImportRow.rowNumber ∧
    statusOf s job.id = some (finalStatus (countsOf new))) ∨
  ((∃ parsed, parse P buffer job.filename = .ok parsed) → old ≠ []) ∧ x.isOk = false

theorem readFile_of_mem {tenantId : Id} {key : String} {buffer : Buffer}
    (hfile : ⟨tenantId, key, buffer⟩ ∈ s.files.rows) (hsafe : isSafeKey key = true) :
    readFile s tenantId key = .ok buffer := by
  have hfind := s.files.find?_eq_some (k := (tenantId, key))
    (p := fun row => row.tenantId == tenantId && row.key == key) hfile
    (List.mem_singleton.mpr rfl) fun row => by
      rw [Bool.and_eq_true, beq_iff_eq, beq_iff_eq, List.mem_singleton, Prod.mk.injEq]
      exact and_congr eq_comm eq_comm
  rw [readFile, if_pos hsafe, hfind]

theorem processFile_ends {key : String} {buffer : Buffer} {old : List ImportRowResult}
    (hfile : ⟨payload.tenantId, key, buffer⟩ ∈ s.files.rows) (hsafe : isSafeKey key = true)
    (hs : Midway s job.id old) :
    Ends P (processFile P payload job key) (Concludes P job buffer old) s := by
  unfold processFile
  apply Ends.call_bind
  intro i hi
  have hread : execute P (.readFile payload.tenantId key) i s = (.ok buffer, s) := by
    dsimp only [execute]
    rw [hi.1, if_neg Bool.false_ne_true, readFile_of_mem hfile hsafe]
  refine ⟨buffer, s, hread, ?_⟩
  apply Program.wp_ofExcept_bind
  · intro parsed hparsed
    have hnodup : (([] ++ parsed.rows).map ParsedImportRow.rowNumber).Nodup :=
      nodup_rowNumbers (parse_rows hparsed).2
    have hstart : Midway s job.id (old ++ []) := by
      rw [List.append_nil]
      exact hs
    have hloop := processRows_ends (P := P) payload job parsed.rows.length old parsed.rows hnodup
      hstart rfl
    refine Program.wp_bind hloop (fun counts s₁ hcounts => ?_) fun e s₁ herror => ?_
    · rcases hcounts with ⟨new, hnew, hs₁, hnumbers⟩ | ⟨-, herror⟩
      · obtain rfl := Except.ok.inj hnew
        refine Program.wp_mono (finish_ends payload job parsed.rows.length (countsOf new) hs₁) ?_
        rintro x s₂ ⟨rfl, hresults, hstatus⟩
        exact .inl ⟨parsed, new, hparsed, rfl, hresults, hnumbers, hstatus⟩
      · cases herror
    · rcases herror with ⟨_, h, -⟩ | ⟨hold, -⟩
      · cases h
      · exact .inr ⟨fun _ => hold, rfl⟩
  · intro e herror
    refine .inr ⟨?_, rfl⟩
    rintro ⟨parsed, hparsed⟩
    rw [herror] at hparsed
    cases hparsed

theorem processJob_ends {key : String} {buffer : Buffer} (hjob : job ∈ s.importJobs.rows)
    (hfile : ⟨payload.tenantId, key, buffer⟩ ∈ s.files.rows) (hsafe : isSafeKey key = true) :
    Ends P (processJob P payload job key) (Concludes P job buffer (resultsOf s job.id)) s := by
  unfold processJob
  apply Ends.call_bind
  intro i hi
  obtain ⟨updated, s₁, h, hstatus, hresults⟩ := execute_updateJob_of_mem (P := P) hi.1 hjob .start
  refine ⟨updated, s₁, h, ?_⟩
  have hfiles : s₁.files = s.files := by
    obtain ⟨e, h'⟩ | ⟨_, -, -, h'⟩ := execute_updateJob P i s job.id .start
    · rw [h'] at h
      cases h
    · rw [h'] at h
      rw [← (Prod.mk.inj h).2]
  apply Ends.call_bind
  intro i hi
  refine ⟨(), _, execute_recordAudit hi.1 _, ?_⟩
  apply Program.wp_bind (emit_ends (Q := fun x s' => x = .ok () ∧ s' = _) ⟨rfl, rfl⟩)
  · rintro _ s' ⟨-, rfl⟩
    rw [← hfiles] at hfile
    refine Program.wp_tryCatch (processFile_ends payload job hfile hsafe ⟨hstatus, hresults⟩)
      (fun _ _ hs' => hs') fun e s₂ herror => ?_
    rcases herror with ⟨_, _, -, h, -⟩ | ⟨hold, -⟩
    · cases h
    · exact Program.wp_mono (failJob_ends payload job e) fun x _ hx => .inr ⟨hold, hx⟩
  · rintro e s' ⟨h, -⟩
    cases h

end Runs

/-- The job has this file, which is there to be read. -/
structure Filed (s : ImportStore) (job : ImportJob) (buffer : Buffer) : Prop where
  stored : ∃ stored ∈ s.importJobs.rows, stored.source = job.source
  file : ∃ key, job.storedFilename = some key ∧ key ≠ "" ∧ isSafeKey key = true ∧
    ⟨job.tenantId, key, buffer⟩ ∈ s.files.rows

theorem Filed.stays {P : ImportPlatform} {s : ImportStore} {job : ImportJob} {buffer : Buffer}
    (hs : Filed s job buffer) (c : ImportCommand) (i : ImportInput) :
    Filed (execute P c i s).2 job buffer := by
  obtain ⟨⟨stored, hstored, hsource⟩, key, hkey, hne, hsafe, hfile⟩ := hs
  obtain ⟨stored', hstored', hsource'⟩ := execute_job_stays P c i hstored
  exact ⟨⟨stored', hstored', hsource'.trans hsource⟩, key, hkey, hne, hsafe,
    execute_file_stays P c i hfile⟩

theorem Filed.found {s : ImportStore} {job : ImportJob} {buffer : Buffer}
    (hs : Filed s job buffer) :
    ∃ stored ∈ s.importJobs.rows, ∃ key, stored.id = job.id ∧ stored.filename = job.filename ∧
      (s.importJobs.rows.find? fun row => row.id == job.id && row.tenantId == job.tenantId) =
        some stored ∧
      stored.storedFilename.filter (· ≠ "") = some key ∧ isSafeKey key = true ∧
      ⟨job.tenantId, key, buffer⟩ ∈ s.files.rows := by
  obtain ⟨⟨stored, hstored, hsource⟩, key, hkey, hne, hsafe, hfile⟩ := hs
  have hid : stored.id = job.id := congrArg JobSource.id hsource
  have htenant : stored.tenantId = job.tenantId := congrArg JobSource.tenantId hsource
  have hstoredKey : stored.storedFilename = some key :=
    (congrArg JobSource.storedFilename hsource).trans hkey
  refine ⟨stored, hstored, key, hid, congrArg JobSource.filename hsource, ?_, ?_, hsafe, hfile⟩
  · apply s.importJobs.find?_eq_some_of_key hstored (List.mem_singleton.mpr rfl)
    · simp [hid, htenant]
    · intro row hrow
      rw [Bool.and_eq_true, beq_iff_eq] at hrow
      exact List.mem_singleton.mpr (hid.trans hrow.1.symm)
  · simp [hstoredKey, hne]

theorem process_ends {P : ImportPlatform} {s : ImportStore} {job : ImportJob} {buffer : Buffer}
    (hs : Filed s job buffer) (userId : Id) :
    Ends P (process P ⟨job.id, job.tenantId, userId⟩)
      (Concludes P job buffer (resultsOf s job.id)) s := by
  obtain ⟨stored, hstored, key, hid, hname, hfind, hfilter, hsafe, hfile⟩ := hs.found
  unfold process
  apply Ends.call_bind
  intro i hi
  refine ⟨some (withUser s stored), s, by simp [execute, hi.1, hfind], ?_⟩
  simp only [withUser, hfilter]
  have hsame : Concludes P job buffer (resultsOf s job.id) =
      Concludes P stored buffer (resultsOf s stored.id) := by
    funext x s'
    rw [Concludes, Concludes, hid, hname]
  rw [hsame]
  exact processJob_ends ⟨job.id, job.tenantId, userId⟩ stored hstored hfile hsafe

/-- The run ended well, and every row of the file is imported. -/
def Completes (P : ImportPlatform) (job : ImportJob) (buffer : Buffer)
    (run : Except ServiceError Unit × ImportStore) : Prop :=
  run.1.isOk = true ∧ Imported P run.2 job buffer

theorem Concludes.completes_iff {P : ImportPlatform} {job : ImportJob} {buffer : Buffer}
    {old : List ImportRowResult} {run : Except ServiceError Unit × ImportStore}
    (h : Concludes P job buffer old run.1 run.2) :
    Completes P job buffer run ↔
      (∃ parsed, parse P buffer job.filename = .ok parsed) ∧ old = [] := by
  rcases h with ⟨parsed, new, hparsed, hok, hresults, hnumbers, hstatus⟩ | ⟨hold, herror⟩
  · constructor
    · rintro ⟨-, parsed', hparsed', hperm, -⟩
      refine ⟨⟨parsed, hparsed⟩, ?_⟩
      rw [hparsed] at hparsed'
      obtain rfl := Except.ok.inj hparsed'
      have hlength := hperm.length_eq
      rw [hresults, List.map_append, hnumbers, List.length_append, List.length_map] at hlength
      exact List.length_eq_zero_iff.mp (by omega)
    · rintro ⟨-, rfl⟩
      rw [List.nil_append] at hresults
      rw [Completes, hok]
      refine ⟨rfl, parsed, hparsed, ?_, ?_⟩
      · rw [hresults, hnumbers]
      · rw [hresults]
        exact hstatus
  · constructor
    · rintro ⟨hok, -⟩
      rw [herror] at hok
      cases hok
    · rintro ⟨hparsed, hnone⟩
      exact absurd hnone (hold hparsed)

theorem Filed.runCalls {P : ImportPlatform} {s : ImportStore} {job : ImportJob} {buffer : Buffer}
    (hs : Filed s job buffer) (calls : List (Request × (ℕ → ImportInput))) :
    Filed ((importSystem P).runCalls calls s) job buffer :=
  (importSystem P).runCalls_of_along (J := fun s' => Filed s' job buffer)
    (fun _ c i hs' _ => hs'.stays c i) calls s hs (System.alongCalls_true _ _)

theorem Filed.completes_iff {P : ImportPlatform} {s : ImportStore} {job : ImportJob}
    {buffer : Buffer} (hs : Filed s job buffer) {userId : Id} {ω : ℕ → ImportInput}
    (hω : (process P ⟨job.id, job.tenantId, userId⟩).Along (execute P) NoFailure ω s) :
    Completes P job buffer ((process P ⟨job.id, job.tenantId, userId⟩).run (execute P) ω s) ↔
      (∃ parsed, parse P buffer job.filename = .ok parsed) ∧ resultsOf s job.id = [] :=
  (Program.wp_run (process_ends hs userId) hω).completes_iff

/-- Whatever ran before, deliveries that threw among others: a delivery in which no
call fails completes the import exactly when its file is accepted and no result of the
job is stored yet. -/
theorem a_delivery_completes_iff (P : ImportPlatform) (s : ImportStore) {job : ImportJob}
    {buffer : Buffer} (hs : Filed s job buffer) (earlier : List (Request × (ℕ → ImportInput)))
    (userId : Id) (ω : ℕ → ImportInput)
    (hω : (process P ⟨job.id, job.tenantId, userId⟩).Along (execute P) NoFailure ω
      ((importSystem P).runCalls earlier s)) :
    Completes P job buffer ((process P ⟨job.id, job.tenantId, userId⟩).run (execute P) ω
        ((importSystem P).runCalls earlier s)) ↔
      (∃ parsed, parse P buffer job.filename = .ok parsed) ∧
        resultsOf ((importSystem P).runCalls earlier s) job.id = [] :=
  (hs.runCalls earlier).completes_iff hω

/-! ## An import and its deliveries -/

def importedStore : ImportStore :=
  (importSystem plainPlatform).runCalls
    [(.create plainContext (some plainUpload) plainDto, fun n => plainInput n)] .empty

def importedJob : ImportJob where
  id := "2-0"
  tenantId := "tenant"
  createdById := "user"
  type := .customers
  filename := "clientes.csv"
  fileType := "csv"
  storedFilename := some "1-0.csv"
  mimeType := some "text/csv"
  sizeBytes := plainFile.length
  fileHash := some (plainPlatform.sha256 plainFile)
  status := .pending
  totalRows := 2
  counts := .zero
  progress := 0
  mapping := plainDto.mapping
  duplicateStrategy := some .update
  startedAt := none
  finishedAt := none
  failureReason := none
  createdAt := 2
  updatedAt := 2

theorem importedStore_filed : Filed importedStore importedJob plainFile :=
  ⟨⟨importedJob, by decide +kernel, rfl⟩, "1-0.csv", rfl, by decide +kernel, by decide +kernel,
    by decide +kernel⟩

def plainParsed : ParsedImportFile where
  headers := ["nome", "documento"]
  rows := [⟨2, [("nome", "Ana"), ("documento", "1")]⟩, ⟨3, [("nome", "Bia"), ("documento", "2")]⟩]

theorem parse_plainFile : parse plainPlatform plainFile importedJob.filename = .ok plainParsed := by
  decide +kernel

/-- A delivery of the plain import whose call number `fault` fails, if one is given. -/
def delivery (fault : Option ℕ) (now : ℕ) (n : ℕ) : ImportInput :=
  { plainInput (now + n) with fault := fault == some n }

def failedDelivery (fault : ℕ) : List (Request × (ℕ → ImportInput)) :=
  [(.process ⟨importedJob.id, importedJob.tenantId, "user"⟩, delivery (some fault) 50)]

/-- The file cannot be read at first. -/
theorem a_delivery_completes_after_a_failed_read :
    Completes plainPlatform importedJob plainFile
      ((process plainPlatform ⟨importedJob.id, importedJob.tenantId, "user"⟩).run
        (execute plainPlatform) (delivery none 100)
        ((importSystem plainPlatform).runCalls (failedDelivery 4) importedStore)) :=
  (a_delivery_completes_iff plainPlatform importedStore importedStore_filed (failedDelivery 4)
    "user" (delivery none 100) (by decide +kernel)).mpr
      ⟨⟨_, parse_plainFile⟩, by decide +kernel⟩

/-- The first delivery fails once it has stored the result of the first row. In the
second one no call fails, and it comes to the same row. -/
theorem a_delivery_aborts_at_a_stored_result :
    ((process plainPlatform ⟨importedJob.id, importedJob.tenantId, "user"⟩).run
        (execute plainPlatform) (delivery (some 8) 50) importedStore).1.isOk = false ∧
      (process plainPlatform ⟨importedJob.id, importedJob.tenantId, "user"⟩).Along
        (execute plainPlatform) NoFailure (delivery none 100)
        ((importSystem plainPlatform).runCalls (failedDelivery 8) importedStore) ∧
      ((process plainPlatform ⟨importedJob.id, importedJob.tenantId, "user"⟩).run
        (execute plainPlatform) (delivery none 100)
        ((importSystem plainPlatform).runCalls (failedDelivery 8) importedStore)).1.isOk =
          false := by
  decide +kernel

end Logistics.Imports
