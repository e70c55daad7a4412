import Logistics.Imports.Contributions
import Logistics.Imports.Outcome

/-!
# A completed job

Any number of deliveries of one job may run at once. Its first result is stored only
once, so one worker at most goes past the first row, and what this worker counts is
what is stored. A retry deletes the results: a worker that is still inside a row
then goes on with the rows it has left, and completes the job with them. As long as
no job is reset while a worker is recording its results, a completed job is complete.
-/

namespace Logistics.Imports

open Logistics.Library

/-! ## What is said of a job -/

/-- The file of the job, as it is parsed. -/
def Parses (P : ImportPlatform) (s : ImportStore) (source : JobSource)
    (parsed : ParsedImportFile) : Prop :=
  ∃ key buffer, source.storedFilename = some key ∧
    ⟨source.tenantId, key, buffer⟩ ∈ s.files.rows ∧ parse P buffer source.filename = .ok parsed

/-- The job has one result for each row of its file, and its counts are those of the
results. -/
def Complete (P : ImportPlatform) (s : ImportStore) (job : ImportJob) : Prop :=
  ∃ parsed, Parses P s job.source parsed ∧
    ((resultsOf s job.id).map ImportRowResult.rowNumber).Perm
      (parsed.rows.map ParsedImportRow.rowNumber) ∧
    job.counts.processedRows = (resultsOf s job.id).length ∧
    job.counts.successRows = (resultsOf s job.id).countP (fun row => row.status == .success) ∧
    job.counts.errorRows = (resultsOf s job.id).countP (fun row => row.status == .error) ∧
    job.counts.skippedRows = (resultsOf s job.id).countP (fun row => row.status == .skipped)

/-- Every completed job is complete. -/
def NoneIncomplete (P : ImportPlatform) (s : ImportStore) : Prop :=
  ∀ job ∈ s.importJobs.rows, job.status = .completed → Complete P s job

/-- The results of the job, each with its row and its outcome. -/
def storedOf (s : ImportStore) (id : Id) : List (ℕ × ImportRowStatus) :=
  (resultsOf s id).map fun row => (row.rowNumber, row.status)

/-- The thread has stored results of the job, and may go on with them. -/
def Recording (id : Id) (t : ImportThread) : Prop :=
  recordedOf id t.history ≠ [] ∧ ¬t.program.Issues fun c => ¬Contributes id c

/-- A job is reset only when no thread is recording its results. -/
def ResetsAlone (c : ImportConfig) (a : Action Request ImportInput) : Prop :=
  match c.nextCall a with
  | some (ImportCommand.resetJob id _ _, i) =>
      i.fault = false → ∀ t ∈ c.threads, ¬Recording id t
  | _ => True

section Stores

variable {P : ImportPlatform} {s s' : ImportStore} {source : JobSource}
  {parsed parsed' : ParsedImportFile}

theorem Parses.unique (h : Parses P s source parsed) (h' : Parses P s source parsed') :
    parsed = parsed' := by
  obtain ⟨key, buffer, hkey, hfile, hparse⟩ := h
  obtain ⟨key', buffer', hkey', hfile', hparse'⟩ := h'
  obtain rfl := Option.some.inj (hkey.symm.trans hkey')
  have hsame := s.files.eq_of_key hfile hfile' (List.mem_singleton.mpr rfl)
    (List.mem_singleton.mpr rfl)
  obtain rfl := congrArg ImportFile.buffer hsame
  exact Except.ok.inj (hparse.symm.trans hparse')

/-- The jobs and the files of the store are there later. -/
structure Grows (s s' : ImportStore) : Prop where
  jobs : ∀ job ∈ s.importJobs.rows, ∃ job' ∈ s'.importJobs.rows, job'.source = job.source
  files : ∀ file ∈ s.files.rows, file ∈ s'.files.rows

theorem grows_execute (P : ImportPlatform) (c : ImportCommand) (i : ImportInput)
    (s : ImportStore) : Grows s (execute P c i s).2 :=
  ⟨fun _ hjob => execute_job_stays P c i hjob, fun _ hfile => execute_file_stays P c i hfile⟩

theorem Parses.grows (h : Parses P s source parsed) (hs : Grows s s') :
    Parses P s' source parsed := by
  obtain ⟨key, buffer, hkey, hfile, hparse⟩ := h
  exact ⟨key, buffer, hkey, hs.files _ hfile, hparse⟩

/-- A job whose results are those counted is complete. -/
theorem complete_of_stored {job : ImportJob} (hparses : Parses P s job.source parsed)
    (hrows : parsed.rows.map ParsedImportRow.rowNumber = (storedOf s job.id).map Prod.fst)
    (hcounts : job.counts = tally ((storedOf s job.id).map Prod.snd)) : Complete P s job := by
  have hnumbers : (storedOf s job.id).map Prod.fst =
      (resultsOf s job.id).map ImportRowResult.rowNumber := by
    rw [storedOf, List.map_map]
    rfl
  have houtcomes : (storedOf s job.id).map Prod.snd =
      (resultsOf s job.id).map ImportRowResult.status := by
    rw [storedOf, List.map_map]
    rfl
  rw [houtcomes, tally_eq] at hcounts
  refine ⟨parsed, hparses, ?_, ?_⟩
  · rw [hrows, hnumbers]
  · rw [hcounts]
    simp only [List.length_map, List.count, List.countP_map, true_and]
    exact ⟨rfl, rfl, rfl⟩

theorem Complete.grows {job : ImportJob} (h : Complete P s job) (hs : Grows s s')
    (hresults : resultsOf s' job.id = resultsOf s job.id) : Complete P s' job := by
  obtain ⟨parsed, hparses, hrest⟩ := h
  refine ⟨parsed, hparses.grows hs, ?_⟩
  rw [hresults]
  exact hrest

end Stores

/-! ## What a call does to a job -/

/-- What a call does to the results and the completion of one job. -/
inductive Turn (P : ImportPlatform) (id : Id) (i : ImportInput) (s : ImportStore) :
    ImportCommand → ImportStore → Prop
  | rest (c s') (hrecord : recordOf id ⟨c, (execute P c i s).1⟩ = none)
      (hresults : resultsOf s' id = resultsOf s id)
      (hjobs : ∀ job ∈ s'.importJobs.rows, job.id = id → job.status = .completed →
        job ∈ s.importJobs.rows) : Turn P id i s c s'
  | record (data s') (hid : data.importJobId = id)
      (hanswer : (execute P (.createRowResult data) i s).1 = .ok ())
      (hnew : ∀ row ∈ s.importRowResults.rows, row.tenantId = data.tenantId →
        row.importJobId = id → row.rowNumber ≠ data.rowNumber)
      (hresults : resultsOf s' id = resultsOf s id ++ [rowResultRow i data])
      (hjobs : s'.importJobs = s.importJobs) : Turn P id i s (.createRowResult data) s'
  | reset (tenantId data s') (hfault : i.fault = false)
      (hresults : resultsOf s' id = (resultsOf s id).filter fun row => !(row.tenantId == tenantId))
      (hjobs : ∀ job ∈ s'.importJobs.rows, job.id = id → job.status ≠ .completed) :
      Turn P id i s (.resetJob id tenantId data) s'
  | progress (counts percent totalRows s') (hresults : resultsOf s' id = resultsOf s id)
      (hjobs : ∀ job ∈ s'.importJobs.rows, job.id = id → job.status = .completed →
        ∃ old ∈ s.importJobs.rows, old.id = id ∧ old.status = .completed) :
      Turn P id i s (.updateJob id (.progress counts percent totalRows)) s'
  | finish (counts totalRows status failureReason s')
      (hresults : resultsOf s' id = resultsOf s id)
      (hjobs : ∀ job ∈ s'.importJobs.rows, job.id = id → job.counts = counts) :
      Turn P id i s (.updateJob id (.finish counts totalRows status failureReason)) s'

section Turns

variable (P : ImportPlatform) (i : ImportInput) (s : ImportStore) (id : Id)

theorem turn_of_same {c : ImportCommand} (hrecord : recordOf id ⟨c, (execute P c i s).1⟩ = none)
    {s' : ImportStore} (hs : s' = s) : Turn P id i s c s' := by
  subst hs
  exact .rest c s' hrecord rfl fun job hjob _ _ => hjob

theorem turn_updateJob (other : Id) (patch : JobPatch) :
    Turn P id i s (.updateJob other patch) (execute P (.updateJob other patch) i s).2 := by
  obtain ⟨e, h⟩ | ⟨_, -, -, h⟩ := execute_updateJob P i s other patch
  · refine turn_of_same P i s id rfl ?_
    rw [h]
  · rw [h]
    by_cases hid : other = id
    · subst hid
      -- every job of this identifier was rewritten
      have hrewritten : ∀ job ∈ s.importJobs.rows.map fun row =>
          if row.id == other then patch.apply i.now row else row, job.id = other →
          ∃ old ∈ s.importJobs.rows, old.id = other ∧ job = patch.apply i.now old := by
        intro job hjob hjobId
        obtain ⟨old, hold, rfl⟩ := List.mem_map.mp hjob
        by_cases heq : old.id = other
        · rw [if_pos (beq_iff_eq.mpr heq)]
          exact ⟨old, hold, heq, rfl⟩
        · rw [if_neg (fun h => heq (beq_iff_eq.mp h))] at hjobId
          exact absurd hjobId heq
      cases patch with
      | progress counts percent totalRows =>
          refine .progress counts percent totalRows _ rfl fun job hjob hjobId hstatus => ?_
          obtain ⟨old, hold, holdId, rfl⟩ := hrewritten job hjob hjobId
          exact ⟨old, hold, holdId, hstatus⟩
      | finish counts totalRows status failureReason =>
          refine .finish counts totalRows status failureReason _ rfl fun job hjob hjobId => ?_
          obtain ⟨old, -, -, rfl⟩ := hrewritten job hjob hjobId
          rfl
      | _ =>
          refine .rest _ _ rfl rfl fun job hjob hjobId hstatus => ?_
          obtain ⟨old, -, -, rfl⟩ := hrewritten job hjob hjobId
          cases hstatus
    · refine .rest _ _ rfl rfl fun job hjob hjobId _ => ?_
      obtain ⟨old, hold, rfl⟩ := List.mem_map.mp hjob
      by_cases heq : old.id = other
      · rw [if_pos (beq_iff_eq.mpr heq), patch.apply_id] at hjobId
        exact absurd (heq.symm.trans hjobId) hid
      · rw [if_neg (fun h => heq (beq_iff_eq.mp h))]
        exact hold

theorem turn_resetJob (other tenantId : Id) (data : RetryData) :
    Turn P id i s (.resetJob other tenantId data)
      (execute P (.resetJob other tenantId data) i s).2 := by
  obtain ⟨e, h⟩ | ⟨_, -, -, h⟩ := execute_resetJob P i s other tenantId data
  · refine turn_of_same P i s id rfl ?_
    rw [h]
  · have hfault : i.fault = false := by
      by_contra hfault
      rw [Bool.not_eq_false] at hfault
      dsimp only [execute] at h
      rw [if_pos hfault] at h
      cases h
    rw [h]
    by_cases hid : other = id
    · subst hid
      refine .reset tenantId data _ hfault ?_ fun job hjob hjobId => ?_
      · rw [resultsOf, resultsOf, List.filter_filter]
        dsimp only
        rw [Table.delete_rows, List.filter_filter]
        refine List.filter_congr fun row _ => ?_
        cases row.importJobId == other <;> simp
      · obtain ⟨old, hold, rfl⟩ := List.mem_map.mp hjob
        by_cases heq : old.id = other
        · rw [if_pos (beq_iff_eq.mpr heq)]
          simp
        · rw [if_neg (fun h => heq (beq_iff_eq.mp h))] at hjobId
          exact absurd hjobId heq
    · refine .rest _ _ rfl ?_ fun job hjob hjobId hstatus => ?_
      · rw [resultsOf, resultsOf]
        dsimp only
        rw [Table.delete_rows, List.filter_filter]
        refine List.filter_congr fun row _ => ?_
        by_cases hrow : row.importJobId = id
        · have hother : row.importJobId ≠ other := fun h => hid (h.symm.trans hrow)
          simp [hother]
        · simp [hrow]
      · obtain ⟨old, hold, rfl⟩ := List.mem_map.mp hjob
        by_cases heq : old.id = other
        · rw [if_pos (beq_iff_eq.mpr heq)] at hstatus
          cases hstatus
        · rw [if_neg (fun h => heq (beq_iff_eq.mp h))]
          exact hold

theorem turn_createRowResult (data : RowResultData) :
    Turn P id i s (.createRowResult data) (execute P (.createRowResult data) i s).2 := by
  obtain ⟨e, h⟩ | ⟨importRowResults, hinsert, h⟩ := execute_createRowResult P i s data
  · refine turn_of_same P i s id ?_ ?_
    · rw [h]
      rfl
    · rw [h]
  · have hrows : resultsOf (execute P (.createRowResult data) i s).2 id =
        resultsOf s id ++ [rowResultRow i data].filter fun row => row.importJobId == id := by
      rw [h, resultsOf, resultsOf]
      dsimp only
      rw [Table.tryInsert_rows hinsert, List.filter_append]
    by_cases hid : data.importJobId = id
    · refine .record data _ hid (by rw [h]) (fun row hrow htenant hrowId hnumber => ?_) ?_ ?_
      · have hfresh := Table.fresh_of_tryInsert hinsert
          (.row data.tenantId data.importJobId data.rowNumber)
          (by simp [ImportRowResult.keys, rowResultRow]) row hrow
        apply hfresh
        rw [ImportRowResult.keys, htenant, hrowId, hnumber, hid]
        simp
      · rw [hrows, List.filter_cons_of_pos (by simpa [rowResultRow] using hid)]
        rfl
      · rw [h]
    · refine .rest _ _ ?_ ?_ fun job hjob _ _ => ?_
      · rw [h]
        exact if_neg hid
      · rw [hrows, List.filter_cons_of_neg (by simpa [rowResultRow] using hid)]
        exact List.append_nil _
      · rw [h] at hjob
        exact hjob

theorem turn_createJob (data : ImportJobData) :
    Turn P id i s (.createJob data) (execute P (.createJob data) i s).2 := by
  obtain ⟨e, h⟩ | ⟨importJobs, hinsert, h⟩ := execute_createJob P i s data
  · refine turn_of_same P i s id rfl ?_
    rw [h]
  · rw [h]
    refine .rest _ _ rfl rfl fun job hjob _ hstatus => ?_
    dsimp only at hjob
    rw [Table.tryInsert_rows hinsert] at hjob
    rcases List.mem_append.mp hjob with hold | hnew
    · exact hold
    · obtain rfl := List.mem_singleton.mp hnew
      cases hstatus

/-- What any call does to a job. -/
theorem turn (c : ImportCommand) : Turn P id i s c (execute P c i s).2 := by
  cases c with
  | createJob data => exact turn_createJob P i s id data
  | updateJob other patch => exact turn_updateJob P i s id other patch
  | resetJob other tenantId data => exact turn_resetJob P i s id other tenantId data
  | createRowResult data => exact turn_createRowResult P i s id data
  | _ =>
      refine .rest _ _ rfl ?_ fun job hjob _ _ => ?_
      · rw [resultsOf, execute_importRowResults P i s rfl]
        rfl
      · rw [execute_importJobs P i s rfl] at hjob
        exact hjob

end Turns

/-! ## What the answers tell -/

/-- What a thread knows of its job and its file. -/
def KnowsFile (s : ImportStore) : Event importInterface → Prop
  | ⟨.findJob _ tenantId, .ok (some found)⟩ =>
      ∃ job ∈ s.importJobs.rows, job.source = found.job.source ∧ job.tenantId = tenantId
  | ⟨.readFile tenantId key, .ok buffer⟩ => ⟨tenantId, key, buffer⟩ ∈ s.files.rows
  | _ => True

section Knowing

variable {P : ImportPlatform} {s : ImportStore}

theorem knowsFile_give (c : ImportCommand) (i : ImportInput) :
    KnowsFile (execute P c i s).2 ⟨c, (execute P c i s).1⟩ := by
  cases c with
  | findJob id tenantId =>
      have hsame := execute_importJobs P i s (c := .findJob id tenantId) rfl
      cases hanswer : (execute P (.findJob id tenantId) i s).1 with
      | error e => trivial
      | ok found =>
          cases found with
          | none => trivial
          | some found =>
              obtain ⟨hmem, -, htenant⟩ := find?_of_execute_findJob hanswer
              show ∃ job ∈ _, _
              rw [hsame]
              exact ⟨found.job, hmem, rfl, htenant⟩
  | readFile tenantId key =>
      cases hanswer : (execute P (.readFile tenantId key) i s).1 with
      | error e => trivial
      | ok buffer => exact execute_file_stays P _ i (execute_readFile hanswer)
  | _ => trivial

theorem knowsFile_keep (c : ImportCommand) (i : ImportInput) {e : Event importInterface}
    (h : KnowsFile s e) : KnowsFile (execute P c i s).2 e := by
  obtain ⟨asked, answer⟩ := e
  cases asked with
  | findJob id tenantId =>
      cases answer with
      | error e => trivial
      | ok found =>
          cases found with
          | none => trivial
          | some found =>
              obtain ⟨job, hjob, hsource, htenant⟩ := h
              obtain ⟨job', hjob', hsame⟩ := execute_job_stays P c i hjob
              exact ⟨job', hjob', hsame.trans hsource,
                (congrArg JobSource.tenantId hsame).trans htenant⟩
  | readFile tenantId key =>
      cases answer with
      | error e => trivial
      | ok buffer => exact execute_file_stays P c i h
  | _ => trivial

theorem FromFile.parses {h : List (Event importInterface)} {id tenantId : Id}
    {parsed : ParsedImportFile} (hfile : FromFile P h id tenantId parsed)
    (hknows : ∀ e ∈ h, KnowsFile s e) :
    ∃ job ∈ s.importJobs.rows, job.id = id ∧ job.tenantId = tenantId ∧
      Parses P s job.source parsed := by
  obtain ⟨asked, key, buffer, found, hfound, rfl, hkey, hread, hparse⟩ := hfile
  obtain ⟨job, hjob, hsource, htenant⟩ := hknows _ hfound
  have hfileRow : ⟨tenantId, key, buffer⟩ ∈ s.files.rows := hknows _ hread
  refine ⟨job, hjob, congrArg JobSource.id hsource, htenant, key, buffer, ?_, ?_, ?_⟩
  · rw [hsource]
    exact hkey
  · show ⟨job.tenantId, key, buffer⟩ ∈ s.files.rows
    rw [htenant]
    exact hfileRow
  · rw [hsource]
    exact hparse

end Knowing

/-! ## The threads of a job -/

/-- What holds of the threads whatever they are answered. -/
structure Founded (P : ImportPlatform) (c : ImportConfig) : Prop where
  inOrder : c.Obeying (fun _ => InOrder P) fun _ _ _ => True
  rests : c.Obeying Rests fun _ _ _ => True
  knows : c.Knowing KnowsFile

theorem founded_next {P : ImportPlatform} (c : ImportConfig) (a : Action Request ImportInput)
    (hc : Founded P c) : Founded P ((importSystem P).next c a) :=
  ⟨(importSystem P).obeying_next (handle_inOrder P) c a hc.inOrder,
    (importSystem P).obeying_next (handle_rests P) c a hc.rests,
    (importSystem P).knowing_next (P := fun _ _ _ => True)
      (fun cmd i _ _ => knowsFile_give cmd i) (fun cmd i _ _ _ he => knowsFile_keep cmd i he) c a
      hc.knows (callCondition_true c a)⟩

/-- The file of a job with results begins with a row that has one. -/
structure Begun (P : ImportPlatform) (id : Id) (s : ImportStore) : Prop where
  owned : ∀ row ∈ resultsOf s id, ∃ job ∈ s.importJobs.rows, job.id = id ∧
    job.tenantId = row.tenantId
  first : resultsOf s id ≠ [] → ∃ job ∈ s.importJobs.rows, job.id = id ∧
    ∃ parsed row rest, Parses P s job.source parsed ∧ parsed.rows = row :: rest ∧
      row.rowNumber ∈ (resultsOf s id).map ImportRowResult.rowNumber

/-- One thread at most is recording results of the job, namely those that are stored,
and none once the job is completed; then it is complete. -/
structure Consistent (P : ImportPlatform) (id : Id) (c : ImportConfig) : Prop where
  begun : Begun P id c.store
  recording : ∀ t ∈ c.threads, Recording id t → recordedOf id t.history = storedOf c.store id
  alone : ∀ (m n : ℕ) (t u : ImportThread), c.threads[m]? = some t → c.threads[n]? = some u →
    Recording id t → Recording id u → m = n
  complete : ∀ job ∈ c.store.importJobs.rows, job.id = id → job.status = .completed →
    Complete P c.store job ∧ ∀ t ∈ c.threads, ¬Recording id t

theorem Begun.grows {P : ImportPlatform} {id : Id} {s s' : ImportStore} (h : Begun P id s)
    (hs : Grows s s') (hresults : resultsOf s' id = resultsOf s id) : Begun P id s' := by
  have hjobs : ∀ job ∈ s.importJobs.rows, job.id = id → ∃ job' ∈ s'.importJobs.rows,
      job'.id = id ∧ job'.source = job.source := by
    intro job hjob hid
    obtain ⟨job', hjob', hsource⟩ := hs.jobs job hjob
    exact ⟨job', hjob', (congrArg JobSource.id hsource).trans hid, hsource⟩
  refine ⟨fun row hrow => ?_, fun hsome => ?_⟩
  · rw [hresults] at hrow
    obtain ⟨job, hjob, hid, htenant⟩ := h.owned row hrow
    obtain ⟨job', hjob', hid', hsource⟩ := hjobs job hjob hid
    exact ⟨job', hjob', hid', (congrArg JobSource.tenantId hsource).trans htenant⟩
  · rw [hresults] at hsome ⊢
    obtain ⟨job, hjob, hid, parsed, row, rest, hparses, hrest⟩ := h.first hsome
    obtain ⟨job', hjob', hid', hsource⟩ := hjobs job hjob hid
    refine ⟨job', hjob', hid', parsed, row, rest, ?_, hrest⟩
    rw [hsource]
    exact hparses.grows hs

/-- Whoever is recording results of the job was recording them before. -/
def NoneJoins (id : Id) (c c' : ImportConfig) : Prop :=
  ∀ (m : ℕ) (u : ImportThread), c'.threads[m]? = some u → Recording id u →
    ∃ t : ImportThread, c.threads[m]? = some t ∧ Recording id t ∧
      recordedOf id t.history = recordedOf id u.history

section Steps

variable {P : ImportPlatform} {id : Id} {c c' : ImportConfig}

theorem noneJoins_start (r : Request) (p : Program importInterface Reply) :
    NoneJoins id c { c with threads := c.threads ++ [⟨r, [], p⟩] } := by
  intro m u hu hrecording
  rw [List.getElem?_append] at hu
  split at hu
  · exact ⟨u, hu, hrecording, rfl⟩
  · obtain rfl := List.mem_singleton.mp (List.mem_of_getElem? hu)
    exact absurd rfl hrecording.1

theorem noneJoins_resume {n : ℕ} {r : Request} {h : List (Event importInterface)}
    {cmd : ImportCommand} {k : Response importInterface cmd → Program importInterface Reply}
    (ht : c.threads[n]? = some ⟨r, h, .call cmd k⟩) {x : Response importInterface cmd}
    (hrecord : recordOf id ⟨cmd, x⟩ = none) (s : ImportStore) :
    NoneJoins id c ⟨s, c.threads.set n (Thread.resume r h cmd k x)⟩ := by
  intro m u hu hrecording
  obtain ⟨rfl, rfl⟩ | ⟨-, hu⟩ := getElem?_set_cases ht hu
  · have hsame : recordedOf id (h ++ [⟨cmd, x⟩]) = recordedOf id h :=
      recordedOf_append_none hrecord
    refine ⟨_, ht, ⟨?_, fun hissues => hrecording.2 (hissues.2 x)⟩, hsame.symm⟩
    rw [← hsame]
    exact hrecording.1
  · exact ⟨u, hu, hrecording, rfl⟩

theorem NoneJoins.mem (h : NoneJoins id c c') {u : ImportThread} (hu : u ∈ c'.threads)
    (hrecording : Recording id u) : ∃ t ∈ c.threads, Recording id t ∧
      recordedOf id t.history = recordedOf id u.history := by
  obtain ⟨m, hm⟩ := List.mem_iff_getElem?.mp hu
  obtain ⟨t, ht, hrest⟩ := h m u hm hrecording
  exact ⟨t, List.mem_of_getElem? ht, hrest⟩

theorem NoneJoins.alone (h : NoneJoins id c c') (hc : Consistent P id c) :
    ∀ (m n : ℕ) (t u : ImportThread), c'.threads[m]? = some t → c'.threads[n]? = some u →
      Recording id t → Recording id u → m = n := by
  intro m n t u ht hu hrt hru
  obtain ⟨t', ht', hrt', -⟩ := h m t ht hrt
  obtain ⟨u', hu', hru', -⟩ := h n u hu hru
  exact hc.alone m n t' u' ht' hu' hrt' hru'

/-- A step that leaves the results and the completion of the job as they are. -/
theorem Consistent.rest (hc : Consistent P id c) (hgrows : Grows c.store c'.store)
    (hjoins : NoneJoins id c c') (hresults : resultsOf c'.store id = resultsOf c.store id)
    (hjobs : ∀ job ∈ c'.store.importJobs.rows, job.id = id → job.status = .completed →
      job ∈ c.store.importJobs.rows) : Consistent P id c' := by
  refine ⟨hc.begun.grows hgrows hresults, fun u hu hru => ?_, hjoins.alone hc,
    fun job hjob hid hstatus => ?_⟩
  · obtain ⟨t, ht, hrt, hsame⟩ := hjoins.mem hu hru
    rw [← hsame, hc.recording t ht hrt, storedOf, storedOf, hresults]
  · obtain ⟨hcomplete, hnone⟩ := hc.complete job (hjobs job hjob hid hstatus) hid hstatus
    refine ⟨hcomplete.grows hgrows ?_, fun u hu hru => ?_⟩
    · rw [hid]
      exact hresults
    · obtain ⟨t, ht, hrt, -⟩ := hjoins.mem hu hru
      exact hnone t ht hrt

/-- A step after which no thread is recording results of the job. -/
theorem consistent_of_none (hbegun : Begun P id c'.store)
    (hnone : ∀ t ∈ c'.threads, ¬Recording id t)
    (hcomplete : ∀ job ∈ c'.store.importJobs.rows, job.id = id → job.status = .completed →
      Complete P c'.store job) : Consistent P id c' :=
  ⟨hbegun, fun t ht hrt => absurd hrt (hnone t ht),
    fun _ _ t _ ht _ hrt _ => absurd hrt (hnone t (List.mem_of_getElem? ht)),
    fun job hjob hid hstatus => ⟨hcomplete job hjob hid hstatus, hnone⟩⟩

end Steps

/-! ## One call of a thread -/

section Call

variable {P : ImportPlatform} {id : Id} {c : ImportConfig} {n : ℕ} {r : Request}
  {h : List (Event importInterface)} {i : ImportInput}

/-- A retry has found the job, and deletes all its results. -/
theorem consistent_reset {tenantId : Id} {data : RetryData}
    {k : Response importInterface (.resetJob id tenantId data) → Program importInterface Reply}
    (hf : Founded P c) (hc : Consistent P id c)
    (ht : c.threads[n]? = some ⟨r, h, .call (.resetJob id tenantId data) k⟩)
    (hnone : ∀ t ∈ c.threads, ¬Recording id t) {s' : ImportStore}
    (hresults : resultsOf s' id =
      (resultsOf c.store id).filter fun row => !(row.tenantId == tenantId))
    (hjobs : ∀ job ∈ s'.importJobs.rows, job.id = id → job.status ≠ .completed)
    (x : Response importInterface (.resetJob id tenantId data)) :
    Consistent P id ⟨s', c.threads.set n (Thread.resume r h _ k x)⟩ := by
  have hjoins : NoneJoins id c ⟨s', c.threads.set n (Thread.resume r h _ k x)⟩ :=
    noneJoins_resume ht rfl s'
  have hempty : resultsOf s' id = [] := by
    obtain ⟨asked, found, hfound, hid⟩ := (Config.obeying_call hf.rests ht).1
    obtain ⟨job, hjob, hsource, htenant⟩ := hf.knows _ (List.mem_of_getElem? ht) _ hfound
    rw [hresults, List.filter_eq_nil_iff]
    intro row hrow
    obtain ⟨owner, howner, hownerId, hownerTenant⟩ := hc.begun.owned row hrow
    have hsame : owner = job := by
      apply eq_of_job_id howner hjob
      rw [hownerId, ← hid]
      exact (congrArg JobSource.id hsource).symm
    rw [← hownerTenant, hsame, htenant]
    simp
  refine consistent_of_none ⟨fun row hrow => ?_, fun hsome => absurd hempty hsome⟩
    (fun u hu hru => ?_) fun job hjob hid hstatus => absurd hstatus (hjobs job hjob hid)
  · rw [hempty] at hrow
    cases hrow
  · obtain ⟨t, ht', hrt, -⟩ := hjoins.mem hu hru
    exact hnone t ht' hrt

/-- The results that a thread has stored are the stored ones when it finishes, and
nobody goes on. -/
theorem consistent_finish {counts : RowCounts} {totalRows : ℕ} {status : ImportStatus}
    {failureReason : Option String}
    {k : Response importInterface (.updateJob id (.finish counts totalRows status failureReason)) →
      Program importInterface Reply}
    (hf : Founded P c) (hc : Consistent P id c)
    (ht : c.threads[n]? =
      some ⟨r, h, .call (.updateJob id (.finish counts totalRows status failureReason)) k⟩)
    {s' : ImportStore} (hgrows : Grows c.store s')
    (hresults : resultsOf s' id = resultsOf c.store id)
    (hjobs : ∀ job ∈ s'.importJobs.rows, job.id = id → job.counts = counts)
    (x : Response importInterface
      (.updateJob id (.finish counts totalRows status failureReason))) :
    Consistent P id ⟨s', c.threads.set n (Thread.resume r h _ k x)⟩ := by
  have hmem := List.mem_of_getElem? ht
  obtain ⟨tenantId, ⟨parsed, hfile, hrows⟩, hcounts, -⟩ := Config.obeying_call hf.inOrder ht
  obtain ⟨job, hjob, hid, -, hparses⟩ := hfile.parses (hf.knows _ hmem)
  rw [List.append_nil] at hrows
  have hrt : Recording id (⟨r, h, .call (.updateJob id
      (.finish counts totalRows status failureReason)) k⟩ : ImportThread) := by
    refine ⟨fun hnone => ?_, fun hissues => hissues.1 rfl⟩
    rw [hnone] at hrows
    obtain ⟨key, buffer, -, -, hparse⟩ := hparses
    exact (parse_rows hparse).1 (List.map_eq_nil_iff.mp hrows)
  have hstored := hc.recording _ hmem hrt
  refine consistent_of_none (hc.begun.grows hgrows hresults) (fun u hu hru => ?_)
    fun job' hjob' hid' _ => ?_
  · obtain ⟨m, hm⟩ := List.mem_iff_getElem?.mp hu
    obtain ⟨rfl, rfl⟩ | ⟨hmn, hm⟩ := getElem?_set_cases ht hm
    · refine hru.2 (InOrder.issues_of_finished ((hf.inOrder _ hmem).2 x) ?_)
      exact ⟨_, List.mem_append_right _ (List.mem_singleton.mpr rfl), rfl⟩
    · exact hmn (hc.alone n m _ u ht hm hrt hru)
  · obtain ⟨later, hlater, hsource⟩ := hgrows.jobs job hjob
    have hsame : job' = later := by
      apply eq_of_job_id hjob' hlater
      rw [hid', ← hid]
      exact (congrArg JobSource.id hsource).symm
    have hstored' : storedOf s' job'.id = recordedOf id h := by
      rw [hid', storedOf, hresults]
      exact hstored.symm
    have hparses' : Parses P s' job'.source parsed := by
      rw [hsame, hsource]
      exact hparses.grows hgrows
    apply complete_of_stored hparses'
    · rw [hrows, hstored']
    · rw [hjobs job' hjob' hid', hcounts, hstored']

/-- A thread whose result is stored has stored all that there are, nobody else is
recording, and the job is not completed. -/
theorem recorded_of_new {data : RowResultData}
    {k : Response importInterface (.createRowResult data) → Program importInterface Reply}
    (hf : Founded P c) (hc : Consistent P id c)
    (ht : c.threads[n]? = some ⟨r, h, .call (.createRowResult data) k⟩)
    (hid : data.importJobId = id)
    (hnew : ∀ row ∈ c.store.importRowResults.rows, row.tenantId = data.tenantId →
      row.importJobId = id → row.rowNumber ≠ data.rowNumber) :
    recordedOf id h = storedOf c.store id ∧
      (∀ (m : ℕ) (u : ImportThread), c.threads[m]? = some u → Recording id u → n = m) ∧
      ∀ job ∈ c.store.importJobs.rows, job.id = id → job.status ≠ .completed := by
  have hmem := List.mem_of_getElem? ht
  by_cases hfirst : recordedOf id h = []
  · -- the first row has no result, so there is none
    obtain ⟨rest, counts, ⟨parsed, hfile, hrows⟩, -, -⟩ := Config.obeying_call hf.inOrder ht
    obtain ⟨job, hjob, hjobId, htenant, hparses⟩ := hfile.parses (hf.knows _ hmem)
    rw [hid, hfirst] at hrows
    rw [hid] at hjobId
    have hnone : resultsOf c.store id = [] := by
      by_contra hsome
      obtain ⟨other, hother, hotherId, parsed', row, rest', hparses', hrows', hnumber⟩ :=
        hc.begun.first hsome
      obtain rfl := eq_of_job_id hother hjob (hotherId.trans hjobId.symm)
      obtain rfl := hparses.unique hparses'
      rw [hrows'] at hrows
      obtain ⟨result, hresult, hsame⟩ := List.mem_map.mp hnumber
      obtain ⟨owner, howner, hownerId, hownerTenant⟩ := hc.begun.owned result hresult
      obtain rfl := eq_of_job_id howner hother (hownerId.trans hotherId.symm)
      obtain ⟨hrow, hrowId⟩ := List.mem_filter.mp hresult
      apply hnew result hrow (hownerTenant.symm.trans htenant) (beq_iff_eq.mp hrowId)
      rw [hsame]
      exact (List.cons.inj hrows).1
    have hstored : storedOf c.store id = [] := by
      rw [storedOf, hnone]
      rfl
    refine ⟨hfirst.trans hstored.symm, fun m u hu hru => ?_, fun job' hjob' hid' hstatus => ?_⟩
    · have hrecorded := hc.recording u (List.mem_of_getElem? hu) hru
      exact absurd (hrecorded.trans hstored) hru.1
    · obtain ⟨parsed', hparses', hperm, -⟩ := (hc.complete job' hjob' hid' hstatus).1
      obtain ⟨key, buffer, -, -, hparse⟩ := hparses'
      rw [hid', hnone] at hperm
      exact (parse_rows hparse).1 (List.map_eq_nil_iff.mp hperm.nil_eq.symm)
  · have hrt : Recording id (⟨r, h, .call (.createRowResult data) k⟩ : ImportThread) :=
      ⟨hfirst, fun hissues => hissues.1 hid⟩
    exact ⟨hc.recording _ hmem hrt, fun m u hu hru => hc.alone n m _ u ht hu hrt hru,
      fun job hjob hjobId hstatus => (hc.complete job hjob hjobId hstatus).2 _ hmem hrt⟩

theorem consistent_record {data : RowResultData}
    {k : Response importInterface (.createRowResult data) → Program importInterface Reply}
    (hf : Founded P c) (hc : Consistent P id c)
    (ht : c.threads[n]? = some ⟨r, h, .call (.createRowResult data) k⟩)
    (hid : data.importJobId = id)
    (hnew : ∀ row ∈ c.store.importRowResults.rows, row.tenantId = data.tenantId →
      row.importJobId = id → row.rowNumber ≠ data.rowNumber) {s' : ImportStore}
    (hgrows : Grows c.store s')
    (hresults : resultsOf s' id = resultsOf c.store id ++ [rowResultRow i data])
    (hjobs : s'.importJobs = c.store.importJobs) :
    Consistent P id ⟨s', c.threads.set n (Thread.resume r h _ k (.ok ()))⟩ := by
  have hmem := List.mem_of_getElem? ht
  obtain ⟨hstored, hothers, hopen⟩ := recorded_of_new hf hc ht hid hnew
  obtain ⟨rest, counts, ⟨parsed, hfile, hrows⟩, -, -⟩ := Config.obeying_call hf.inOrder ht
  obtain ⟨job, hjob, hjobId, htenant, hparses⟩ := hfile.parses (hf.knows _ hmem)
  rw [hid] at hrows hjobId
  have hself : ∀ (m : ℕ) (u : ImportThread),
      (c.threads.set n (Thread.resume r h (.createRowResult data) k (.ok ())))[m]? = some u →
        Recording id u → n = m ∧ u = Thread.resume r h (.createRowResult data) k (.ok ()) := by
    intro m u hu hru
    obtain hself | ⟨hmn, hu⟩ := getElem?_set_cases ht hu
    · exact hself
    · exact absurd (hothers m u hu hru) hmn
  refine ⟨⟨fun row hrow => ?_, fun _ => ?_⟩, fun u hu hru => ?_, fun m m' t u ht' hu hrt hru => ?_,
    fun job' hjob' hid' hstatus => ?_⟩
  · rw [hjobs]
    rw [hresults] at hrow
    rcases List.mem_append.mp hrow with hold | hnewRow
    · exact hc.begun.owned row hold
    · obtain rfl := List.mem_singleton.mp hnewRow
      exact ⟨job, hjob, hjobId, htenant⟩
  · rw [hjobs, hresults, List.map_append]
    by_cases hfirst : resultsOf c.store id = []
    · -- this is the first row of the file
      have hrecorded : recordedOf id h = [] := by
        rw [hstored, storedOf, hfirst]
        rfl
      rw [hrecorded] at hrows
      obtain ⟨row, rest', hparsed, hnumber, -⟩ := List.map_eq_cons_iff.mp hrows
      refine ⟨job, hjob, hjobId, parsed, row, rest', hparses.grows hgrows, hparsed, ?_⟩
      refine List.mem_append_right _ (List.mem_singleton.mpr ?_)
      exact hnumber
    · obtain ⟨other, hother, hotherId, parsed', row, rest', hparses', hrows', hnumber⟩ :=
        hc.begun.first hfirst
      exact ⟨other, hother, hotherId, parsed', row, rest', hparses'.grows hgrows, hrows',
        List.mem_append_left _ hnumber⟩
  · obtain ⟨m, hm⟩ := List.mem_iff_getElem?.mp hu
    obtain ⟨rfl, rfl⟩ := hself m u hm hru
    show recordedOf id (h ++ [_]) = storedOf s' id
    rw [recordedOf_append, hstored, storedOf, storedOf, hresults, List.map_append]
    simp [recordedOf, recordOf, hid, rowResultRow]
  · exact (hself m t ht' hrt).1.symm.trans (hself m' u hu hru).1
  · rw [hjobs] at hjob'
    exact absurd hstatus (hopen job' hjob' hid')

end Call

/-! ## The runs -/

section Runs

variable {P : ImportPlatform} {id : Id}

theorem consistent_next (c : ImportConfig) (a : Action Request ImportInput)
    (hc : Founded P c ∧ Consistent P id c) (ha : ResetsAlone c a) :
    Founded P ((importSystem P).next c a) ∧ Consistent P id ((importSystem P).next c a) := by
  obtain ⟨hf, hc⟩ := hc
  refine ⟨founded_next c a hf, ?_⟩
  obtain ⟨r, rfl, hn⟩ | ⟨n, i, r, h, cmd, k, rfl, ht, hcall, hn⟩ | ⟨hn, -⟩ :=
    (importSystem P).next_cases c a
  · rw [hn]
    exact hc.rest ⟨fun job hjob => ⟨job, hjob, rfl⟩, fun _ hfile => hfile⟩
      (noneJoins_start r _) rfl fun _ hjob _ _ => hjob
  · rw [ResetsAlone, hcall] at ha
    rw [hn]
    have hgrows := grows_execute P cmd i c.store
    have hturn := turn P i c.store id cmd
    change Consistent P id ⟨(execute P cmd i c.store).2,
      c.threads.set n (Thread.resume r h cmd k (execute P cmd i c.store).1)⟩
    generalize hs' : (execute P cmd i c.store).2 = s' at hturn hgrows ⊢
    cases hturn with
    | rest _ _ hrecord hresults hjobs =>
        exact hc.rest hgrows (noneJoins_resume ht hrecord _) hresults hjobs
    | record data _ hid hanswer hnew hresults hjobs =>
        rw [hanswer]
        exact consistent_record hf hc ht hid hnew hgrows hresults hjobs
    | reset tenantId data _ hfault hresults hjobs =>
        exact consistent_reset hf hc ht (ha hfault) hresults hjobs _
    | progress counts percent totalRows _ hresults hjobs =>
        refine hc.rest hgrows (noneJoins_resume ht rfl _) hresults fun job hjob hid hstatus => ?_
        -- the thread that counts is recording, so the job is not completed
        obtain ⟨old, hold, holdId, holdStatus⟩ := hjobs job hjob hid hstatus
        have hin := Config.obeying_call hf.inOrder ht
        exact absurd ⟨hin.1, fun hissues => hissues.1 rfl⟩
          ((hc.complete old hold holdId holdStatus).2 _ (List.mem_of_getElem? ht))
    | finish counts totalRows status failureReason _ hresults hjobs =>
        exact consistent_finish hf hc ht hgrows hresults hjobs _
  · rw [hn]
    exact hc

end Runs

/-- As long as no job is reset while a worker is recording its results, every
completed job is complete. -/
theorem a_completed_import_is_complete (P : ImportPlatform) (s : ImportStore)
    (hnew : s.importJobs.rows = []) (hresults : s.importRowResults.rows = [])
    (acts : List (Action Request ImportInput))
    (hreset : (importSystem P).AlongActions ResetsAlone (Config.initial s) acts) :
    NoneIncomplete P ((importSystem P).runActions (Config.initial s) acts).store := by
  intro job hjob hstatus
  have hnone : ∀ id, resultsOf s id = [] := by
    intro id
    rw [resultsOf, hresults]
    rfl
  have hinitial : Founded P (Config.initial s : ImportConfig) ∧
      Consistent P job.id (Config.initial s) := by
    refine ⟨⟨Config.obeying_initial _ _ s, Config.obeying_initial _ _ s,
      Config.knowing_initial _ s⟩, consistent_of_none ⟨fun row hrow => ?_, fun hsome => ?_⟩
        (by simp [Config.initial]) fun other hother => ?_⟩
    · rw [Config.initial, hnone] at hrow
      cases hrow
    · exact absurd (hnone job.id) hsome
    · rw [Config.initial, hnew] at hother
      cases hother
  have hconsistent := (importSystem P).run_invariant
    (J := fun c => Founded P c ∧ Consistent P job.id c) consistent_next acts _ hinitial hreset
  exact (hconsistent.2.complete job hjob rfl hstatus).1

/-- Whoever has stored results of a job that is reset has come to its end. -/
def ResetsAfterwards (c : ImportConfig) (a : Action Request ImportInput) : Prop :=
  match c.nextCall a with
  | some (ImportCommand.resetJob id _ _, _) =>
      ∀ t ∈ c.threads, recordedOf id t.history = [] ∨ isRunning t.program = false
  | _ => True

instance (c : ImportConfig) (a : Action Request ImportInput) :
    Decidable (ResetsAfterwards c a) := by
  unfold ResetsAfterwards
  split <;> infer_instance

theorem ResetsAfterwards.resetsAlone {c : ImportConfig} {a : Action Request ImportInput}
    (h : ResetsAfterwards c a) : ResetsAlone c a := by
  unfold ResetsAfterwards at h
  unfold ResetsAlone
  split
  · next id tenantId data i hcall =>
    rw [hcall] at h
    intro _ t ht hrt
    rcases h t ht with hnone | hended
    · exact hrt.1 hnone
    · apply hrt.2
      cases hprogram : t.program with
      | call c k =>
          rw [hprogram] at hended
          cases hended
      | _ => trivial
  · trivial

/-- A file is imported, a worker makes so many of its calls, and the job is canceled. -/
def canceledAfter (calls : ℕ) : List (Action Request ImportInput) :=
  workedOn calls ++ steps 2 2 22

def retried : List (Action Request ImportInput) :=
  [.start (.retry plainContext "2-0" ⟨none, none⟩)] ++ steps 3 6 50

/-- The worker is between two rows when the job is canceled, and stops. Another one
completes the job that was retried. -/
theorem a_completed_import_is_complete_retried :
    NoneIncomplete plainPlatform ((importSystem plainPlatform).runActions (Config.initial .empty)
      (canceledAfter 10 ++ steps 1 3 30 ++ retried ++
        [.start (.process ⟨"2-0", "tenant", "user"⟩)] ++ steps 4 19 70)).store := by
  apply a_completed_import_is_complete plainPlatform .empty rfl rfl
  apply (importSystem plainPlatform).alongActions_mono fun _ _ h => ResetsAfterwards.resetsAlone h
  decide +kernel

/-- The worker is inside the second row when the job is canceled and retried. It
completes the job with the result of that row alone. -/
theorem a_retried_import_completes_without_a_row :
    ¬NoneIncomplete plainPlatform ((importSystem plainPlatform).runActions (Config.initial .empty)
      (canceledAfter 12 ++ retried ++ steps 1 4 60)).store := by
  have hlacks : ∃ job ∈ ((importSystem plainPlatform).runActions (Config.initial .empty)
      (canceledAfter 12 ++ retried ++ steps 1 4 60)).store.importJobs.rows,
      job.status = .completed ∧ job.counts.processedRows = 2 ∧
        (resultsOf ((importSystem plainPlatform).runActions (Config.initial .empty)
          (canceledAfter 12 ++ retried ++ steps 1 4 60)).store job.id).length = 1 := by
    decide +kernel
  obtain ⟨job, hjob, hstatus, hprocessed, hresults⟩ := hlacks
  intro h
  obtain ⟨_, -, -, hcounts, -⟩ := h job hjob hstatus
  rw [hprocessed, hresults] at hcounts
  cases hcounts

end Logistics.Imports
