import Logistics.Imports.Answering

/-!
# A pending job has a delivery

A job that is pending waits for a worker to take a delivery of it from the queue:
one waits there, or some thread answers for the job. When no request of a user is
under way, only the threads of workers are left to answer.
-/

namespace Logistics.Imports

open Logistics.Library

/-! ## What the answers tell -/

/-- What an answer still tells about the store. -/
def Knows (s : ImportStore) : Event importInterface → Prop
  | ⟨.saveFile .., .ok stored⟩ => stored.key ≠ ""
  | ⟨.findJob _ tenantId, .ok (some found)⟩ =>
      ∃ job ∈ s.importJobs.rows, job.id = found.job.id ∧ job.tenantId = tenantId
  | ⟨.takeJob, .ok (some job)⟩ => NamedFor job.jobId job.payload.importJobId
  | _ => True

/-- Identifiers have no colon, jobs have a file, and deliveries have the names of
their jobs. -/
structure Sound (s : ImportStore) : Prop where
  plain : ∀ job ∈ s.importJobs.rows, ':' ∉ job.id.toList
  filed : ∀ job ∈ s.importJobs.rows, ∃ key, job.storedFilename = some key ∧ key ≠ ""
  named : ∀ w ∈ s.waiting, NamedFor w.jobId w.payload.importJobId

/-- What a call has to respect to keep the store sound. -/
def Respects (i : ImportInput) : ImportCommand → Prop
  | .createJob data => data.storedFilename ≠ "" ∧ ':' ∉ (i.ids 0).toList
  | .addJob jobId payload => NamedFor jobId payload.importJobId
  | .requeueJob job => NamedFor job.jobId job.payload.importJobId
  | _ => True

/-- Generated identifiers have no colon. -/
def PlainIds (_ : ImportStore) (c : importInterface.Command) (i : ImportInput) : Prop :=
  match c with
  | ImportCommand.createJob _ => ':' ∉ (i.ids 0).toList
  | _ => True

instance (s : ImportStore) (c : importInterface.Command) (i : ImportInput) :
    Decidable (PlainIds s c i) := by
  unfold PlainIds
  split <;> infer_instance

section Sound

variable {P : ImportPlatform} {s : ImportStore}

theorem safeExtension_ne {filename extension : String}
    (h : safeExtension P filename = .ok extension) : extension ≠ "" := by
  unfold safeExtension at h
  split at h
  · next hext =>
    cases h
    rcases hext with hext | hext
    · rw [hext]
      decide
    · rw [hext]
      decide
  · cases h

theorem knows_give (hs : Sound s) (c : ImportCommand) (i : ImportInput) :
    Knows (execute P c i s).2 ⟨c, (execute P c i s).1⟩ := by
  cases c with
  | saveFile tenantId filename buffer =>
      obtain ⟨e, h⟩ | ⟨extension, files, hext, -, h⟩ :=
        execute_saveFile P i s tenantId filename buffer
      · rw [h]
        trivial
      · rw [h]
        intro hkey
        have happend : (i.ids 0 ++ extension).toList = [] := by
          rw [show i.ids 0 ++ extension = "" from hkey]
          rfl
        rw [String.toList_append, List.append_eq_nil_iff] at happend
        exact safeExtension_ne hext (String.toList_eq_nil_iff.mp happend.2)
  | findJob id tenantId =>
      have hsame := execute_importJobs P i s (c := .findJob id tenantId) rfl
      cases hanswer : (execute P (.findJob id tenantId) i s).1 with
      | error e => trivial
      | ok found =>
          cases found with
          | none => trivial
          | some found =>
              obtain ⟨hmem, -, htenant⟩ := find?_of_execute_findJob hanswer
              show ∃ job ∈ _, _
              rw [hsame]
              exact ⟨found.job, hmem, rfl, htenant⟩
  | takeJob =>
      obtain h | ⟨job, hjob, h⟩ := execute_takeJob P i s
      · rw [h]
        trivial
      · rw [h]
        exact hs.named job (List.mem_of_getElem? hjob)
  | _ => trivial

theorem knows_keep (c : ImportCommand) (i : ImportInput) {e : Event importInterface}
    (h : Knows s e) : Knows (execute P c i s).2 e := by
  obtain ⟨asked, answer⟩ := e
  cases asked with
  | saveFile tenantId filename buffer =>
      cases answer with
      | error e => trivial
      | ok stored => exact h
  | takeJob =>
      cases answer with
      | error e => trivial
      | ok taken =>
          cases taken with
          | none => trivial
          | some job => exact h
  | findJob id tenantId =>
      cases answer with
      | error e => trivial
      | ok found =>
          cases found with
          | none => trivial
          | some found =>
              obtain ⟨job, hjob, hid, htenant⟩ := h
              obtain ⟨job', hjob', hsource⟩ := execute_job_stays P c i hjob
              refine ⟨job', hjob', ?_, ?_⟩
              · rw [← hid]
                exact congrArg JobSource.id hsource
              · rw [← htenant]
                exact congrArg JobSource.tenantId hsource
  | _ => trivial

theorem respects_of_grounded {h : List (Event importInterface)} {c : ImportCommand}
    {i : ImportInput} (hground : Grounded h c) (hknows : ∀ e ∈ h, Knows s e)
    (hplain : PlainIds s c i) : Respects i c := by
  cases c with
  | createJob data =>
      obtain ⟨_, _, _, stored, hevent, hkey⟩ := hground
      refine ⟨?_, hplain⟩
      rw [hkey]
      exact hknows _ hevent
  | addJob jobId payload => exact hground
  | requeueJob job => exact hknows _ hground
  | _ => trivial

theorem Sound.rewrite (hs : Sound s) (id : Id) {f : ImportJob → ImportJob}
    (hsource : ∀ job, (f job).source = job.source) :
    ∀ job ∈ s.importJobs.rows.map fun row => if row.id == id then f row else row,
      ':' ∉ job.id.toList ∧ ∃ key, job.storedFilename = some key ∧ key ≠ "" := by
  intro job hjob
  obtain ⟨old, hold, rfl⟩ := List.mem_map.mp hjob
  have hsame : (if old.id == id then f old else old).source = old.source := by
    split
    · exact hsource old
    · rfl
  have hid := congrArg JobSource.id hsame
  have hfile := congrArg JobSource.storedFilename hsame
  dsimp only [ImportJob.source] at hid hfile
  rw [hid, hfile]
  exact ⟨hs.plain old hold, hs.filed old hold⟩

theorem sound_execute {c : ImportCommand} {i : ImportInput} (hs : Sound s)
    (hc : Respects i c) : Sound (execute P c i s).2 := by
  cases c with
  | addJob jobId payload =>
      obtain ⟨e, h⟩ | ⟨-, h⟩ | ⟨-, h⟩ := execute_addJob P i s jobId payload
      · rw [h]
        exact hs
      · rw [h]
        exact hs
      · rw [h]
        refine ⟨hs.plain, hs.filed, fun w hw => ?_⟩
        rcases List.mem_append.mp hw with hw | hw
        · exact hs.named w hw
        · obtain rfl := List.mem_singleton.mp hw
          exact hc
  | removeJob jobId =>
      obtain ⟨x, h⟩ | h := execute_removeJob P i s jobId
      · rw [h]
        exact hs
      · rw [h]
        exact ⟨hs.plain, hs.filed, fun w hw => hs.named w (List.mem_of_mem_filter hw)⟩
  | takeJob =>
      obtain h | ⟨job, -, h⟩ := execute_takeJob P i s
      · rw [h]
        exact hs
      · rw [h]
        exact ⟨hs.plain, hs.filed, fun w hw => hs.named w (List.mem_of_mem_eraseIdx hw)⟩
  | requeueJob job =>
      show Sound (requeueJob s job)
      unfold requeueJob
      split
      · refine ⟨hs.plain, hs.filed, fun w hw => ?_⟩
        rcases List.mem_append.mp hw with hw | hw
        · exact hs.named w hw
        · obtain rfl := List.mem_singleton.mp hw
          exact hc
      · exact hs
  | createJob data =>
      obtain ⟨e, h⟩ | ⟨importJobs, hinsert, h⟩ := execute_createJob P i s data
      · rw [h]
        exact hs
      · have hrows : ∀ job ∈ importJobs.rows, job ∈ s.importJobs.rows ∨ job = jobRow i data := by
          intro job hjob
          rw [Table.tryInsert_rows hinsert] at hjob
          exact (List.mem_append.mp hjob).imp_right List.mem_singleton.mp
        rw [h]
        refine ⟨fun job hjob => ?_, fun job hjob => ?_, hs.named⟩
        · rcases hrows job hjob with hold | rfl
          · exact hs.plain job hold
          · exact hc.2
        · rcases hrows job hjob with hold | rfl
          · exact hs.filed job hold
          · exact ⟨data.storedFilename, rfl, hc.1⟩
  | updateJob id patch =>
      obtain ⟨e, h⟩ | ⟨_, -, -, h⟩ := execute_updateJob P i s id patch
      · rw [h]
        exact hs
      · rw [h]
        have hrows := hs.rewrite id (patch.apply_source i.now)
        exact ⟨fun job hjob => (hrows job hjob).1, fun job hjob => (hrows job hjob).2, hs.named⟩
  | resetJob id tenantId data =>
      obtain ⟨e, h⟩ | ⟨_, -, -, h⟩ := execute_resetJob P i s id tenantId data
      · rw [h]
        exact hs
      · rw [h]
        have hrows := hs.rewrite id (reset_source i.now data)
        exact ⟨fun job hjob => (hrows job hjob).1, fun job hjob => (hrows job hjob).2, hs.named⟩
  | _ =>
      rcases execute_store P _ i s with h | h
      · rw [h]
        exact hs
      · generalize (execute P _ i s).2 = s' at h
        cases h with
        | queue _ _ _ hqueue => cases hqueue
        | _ => exact ⟨hs.plain, hs.filed, hs.named⟩

end Sound

/-! ## Pending jobs -/

def For (job : ImportJob) (payload : ImportQueuePayload) : Prop :=
  payload.importJobId = job.id ∧ payload.tenantId = job.tenantId

instance (job : ImportJob) (payload : ImportQueuePayload) : Decidable (For job payload) :=
  inferInstanceAs (Decidable (_ ∧ _))

/-- The job is pending and no delivery of it waits. -/
def Unserved (s : ImportStore) (id : Id) : Prop :=
  ∃ job ∈ s.importJobs.rows, job.id = id ∧ job.status = .pending ∧
    ∀ w ∈ s.waiting, ¬For job w.payload

instance (s : ImportStore) (id : Id) : Decidable (Unserved s id) := by
  unfold Unserved
  infer_instance

/-- For a pending job of which no delivery waits, the queue takes the delivery
that is added, the update of a cancel does not fail, and the delivery that is
handed back has an attempt left. -/
def Delivers (s : ImportStore) (c : importInterface.Command) (i : ImportInput) : Prop :=
  match c with
  | ImportCommand.addJob jobId payload =>
      Unserved s payload.importJobId → i.fault = false ∧ jobId ∉ s.known
  | ImportCommand.updateJob id .cancel => Unserved s id → i.fault = false
  | ImportCommand.requeueJob job =>
      Unserved s job.payload.importJobId → job.attemptsMade + 1 < attempts
  | _ => True

instance (s : ImportStore) (c : importInterface.Command) (i : ImportInput) :
    Decidable (Delivers s c i) := by
  unfold Delivers
  split <;> infer_instance

section Step

variable {P : ImportPlatform} {s : ImportStore} {c : ImportCommand} {i : ImportInput}

/-- A pending job was pending before, was just created, or was just reset. -/
theorem pending_origin (hc : ∀ id patch, c = .updateJob id patch → patch.status? ≠ some .pending)
    {job : ImportJob} (hjob : job ∈ (execute P c i s).2.importJobs.rows)
    (hpending : job.status = .pending) :
    (∃ old ∈ s.importJobs.rows, old.source = job.source ∧ old.status = .pending) ∨
      (∃ data, c = .createJob data ∧ job.tenantId = data.tenantId ∧
        execute P (.createJob data) i s =
          (.ok (withUser s job), (execute P (.createJob data) i s).2)) ∨
      ∃ tenantId data, c = .resetJob job.id tenantId data ∧
        (execute P (.resetJob job.id tenantId data) i s).1 = .ok () := by
  cases c with
  | createJob data =>
      obtain ⟨e, h⟩ | ⟨importJobs, hinsert, h⟩ := execute_createJob P i s data
      · rw [h] at hjob
        exact .inl ⟨job, hjob, rfl, hpending⟩
      · have hrows := hjob
        rw [h] at hrows
        dsimp only at hrows
        rw [Table.tryInsert_rows hinsert] at hrows
        rcases List.mem_append.mp hrows with hold | hnew
        · exact .inl ⟨job, hold, rfl, hpending⟩
        · obtain rfl := List.mem_singleton.mp hnew
          exact .inr (.inl ⟨data, rfl, rfl, by rw [h]⟩)
  | updateJob id patch =>
      obtain ⟨e, h⟩ | ⟨_, -, -, h⟩ := execute_updateJob P i s id patch
      · rw [h] at hjob
        exact .inl ⟨job, hjob, rfl, hpending⟩
      · rw [h] at hjob
        obtain ⟨old, hold, rfl⟩ := List.mem_map.mp hjob
        refine .inl ⟨old, hold, ?_, ?_⟩
        · split
          · exact (patch.apply_source i.now old).symm
          · rfl
        · split at hpending
          · rw [patch.apply_status] at hpending
            cases hstatus : patch.status? with
            | none =>
                rw [hstatus] at hpending
                exact hpending
            | some status =>
                rw [hstatus] at hpending
                exact absurd (hstatus.trans (congrArg some hpending)) (hc id patch rfl)
          · exact hpending
  | resetJob id tenantId data =>
      obtain ⟨e, h⟩ | ⟨_, -, -, h⟩ := execute_resetJob P i s id tenantId data
      · rw [h] at hjob
        exact .inl ⟨job, hjob, rfl, hpending⟩
      · have hrows := hjob
        rw [h] at hrows
        obtain ⟨old, hold, rfl⟩ := List.mem_map.mp hrows
        by_cases hid : old.id = id
        · refine .inr (.inr ⟨tenantId, data, ?_, ?_⟩)
          · rw [if_pos (beq_iff_eq.mpr hid)]
            exact congrArg (fun id => ImportCommand.resetJob id tenantId data) hid.symm
          · rw [if_pos (beq_iff_eq.mpr hid)]
            show (execute P (.resetJob old.id tenantId data) i s).1 = _
            rw [hid, h]
        · rw [if_neg (fun h => hid (beq_iff_eq.mp h))] at hpending ⊢
          exact .inl ⟨old, hold, rfl, hpending⟩
  | _ =>
      rw [execute_importJobs P i s rfl] at hjob
      exact .inl ⟨job, hjob, rfl, hpending⟩

/-- A delivery that waits goes on waiting, is taken, or is removed by its name. -/
theorem waiting_stays {w : QueuedJob} (hw : w ∈ s.waiting) :
    w ∈ (execute P c i s).2.waiting ∨
      (c = .takeJob ∧ (execute P .takeJob i s).1 = .ok (some w)) ∨ c = .removeJob w.jobId := by
  cases c with
  | addJob jobId payload =>
      obtain ⟨e, h⟩ | ⟨-, h⟩ | ⟨-, h⟩ := execute_addJob P i s jobId payload
      · rw [h]
        exact .inl hw
      · rw [h]
        exact .inl hw
      · rw [h]
        exact .inl (List.mem_append_left _ hw)
  | removeJob jobId =>
      by_cases hname : w.jobId = jobId
      · rw [hname]
        exact .inr (.inr rfl)
      · obtain ⟨x, h⟩ | h := execute_removeJob P i s jobId
        · rw [h]
          exact .inl hw
        · rw [h]
          exact .inl (List.mem_filter.mpr ⟨hw, by simpa using hname⟩)
  | takeJob =>
      obtain h | ⟨job, hjob, h⟩ := execute_takeJob P i s
      · rw [h]
        exact .inl hw
      · obtain ⟨j, hj⟩ := List.mem_iff_getElem?.mp hw
        by_cases hpick : j = i.pick
        · subst hpick
          rw [hj] at hjob
          obtain rfl := Option.some.inj hjob
          exact .inr (.inl ⟨rfl, by rw [h]⟩)
        · rw [h]
          exact .inl (List.mem_eraseIdx_iff_getElem?.mpr ⟨j, hpick, hj⟩)
  | requeueJob job =>
      show w ∈ (requeueJob s job).waiting ∨ _
      unfold requeueJob
      split
      · exact .inl (List.mem_append_left _ hw)
      · exact .inl hw
  | _ =>
      rw [(execute_queue P i s rfl).1]
      exact .inl hw

end Step

theorem update_writes (P : ImportPlatform) (s : ImportStore) (i : ImportInput) (id : Id)
    {patch : JobPatch} {status : ImportStatus} (hstatus : patch.status? = some status) :
    (∃ e, execute P (.updateJob id patch) i s = (.error e, s)) ∨
      ∀ job ∈ (execute P (.updateJob id patch) i s).2.importJobs.rows, job.id = id →
        job.status = status := by
  obtain ⟨e, h⟩ | ⟨_, -, -, h⟩ := execute_updateJob P i s id patch
  · exact .inl ⟨e, h⟩
  · rw [h]
    refine .inr fun job hjob hid => ?_
    obtain ⟨old, hold, rfl⟩ := List.mem_map.mp hjob
    by_cases hold : old.id = id
    · rw [if_pos (beq_iff_eq.mpr hold), patch.apply_status, hstatus]
      rfl
    · rw [if_neg fun h => hold (beq_iff_eq.mp h)] at hid
      exact absurd hid hold

/-- Every pending job has a delivery that waits, or a thread that answers for
it. -/
def Served (c : ImportConfig) : Prop :=
  ∀ job ∈ c.store.importJobs.rows, job.status = .pending →
    (∃ w ∈ c.store.waiting, For job w.payload) ∨
      ∃ t ∈ c.threads, Owes job.id job.tenantId t.program

section Step

variable {P : ImportPlatform} {s : ImportStore} {cmd : ImportCommand} {i : ImportInput}
  {k : Response importInterface cmd → Program importInterface Reply}

/-- What became of the pending job of a delivery or a thread. -/
def ServedBy (s : ImportStore) (p : Program importInterface Reply) (job : ImportJob) : Prop :=
  (∃ w ∈ s.waiting, For job w.payload) ∨ Owes job.id job.tenantId p

/-- A thread that answers for a pending job still does after its call, or a
delivery of the job waits. -/
theorem Owes.next (hs : Sound s) (hdeliver : Delivers s cmd i) {job : ImportJob}
    (hjob : job ∈ s.importJobs.rows) (hpending : job.status = .pending)
    (hnone : ∀ w ∈ s.waiting, ¬For job w.payload) (howes : Owes job.id job.tenantId (.call cmd k))
    {job' : ImportJob} (hjob' : job' ∈ (execute P cmd i s).2.importJobs.rows)
    (hid : job'.id = job.id) (hpending' : job'.status = .pending) :
    ServedBy (execute P cmd i s).2 (k (execute P cmd i s).1) job := by
  have hunserved : Unserved s job.id := ⟨job, hjob, rfl, hpending, hnone⟩
  cases howes with
  | adds h =>
      cases cmd with
      | addJob jobId payload =>
          obtain ⟨hfor, htenant⟩ := h
          obtain ⟨hfault, hnew⟩ := hdeliver (by rw [hfor]; exact hunserved)
          left
          refine ⟨⟨jobId, payload, 0⟩, ?_, hfor, htenant⟩
          dsimp only [execute]
          rw [hfault, if_neg Bool.false_ne_true, addJob, if_neg hnew]
          exact List.mem_append_right _ (List.mem_singleton.mpr rfl)
      | _ => exact h.elim
  | clock h => exact .inr (.adds (h i.now))
  | cancels =>
      have hfault := hdeliver hunserved
      obtain ⟨e, h⟩ | hwrites := update_writes P s i job.id
        (show JobPatch.cancel.status? = some .canceled from rfl)
      · dsimp only [execute] at h
        rw [hfault, if_neg Bool.false_ne_true, rewriteJob, find?_job hjob] at h
        cases h
      · have hstatus := hwrites job' hjob' hid
        rw [hpending'] at hstatus
        cases hstatus
  | looksUp h =>
      cases cmd with
      | findJob other tenant =>
          obtain ⟨rfl, rfl, herror, hfound⟩ := h
          cases hanswer : (execute P (.findJob job.id job.tenantId) i s).1 with
          | error e => exact .inr (.requeues (herror e))
          | ok found =>
              cases found with
              | none =>
                  dsimp only [execute] at hanswer
                  split at hanswer
                  · cases hanswer
                  · have hnot := List.find?_eq_none.mp
                      (Option.map_eq_none_iff.mp (Except.ok.inj hanswer)) job hjob
                    simp at hnot
              | some found =>
                  obtain ⟨hmem, hfid, -⟩ := find?_of_execute_findJob hanswer
                  obtain rfl := eq_of_job_id hmem hjob hfid
                  exact .inr (.starts (hfound found rfl (hs.filed _ hjob)))
      | _ => exact h.elim
  | starts h =>
      cases cmd with
      | updateJob other patch =>
          cases patch with
          | start =>
              obtain ⟨rfl, herror⟩ := h
              obtain ⟨e, h⟩ | hwrites := update_writes P s i job.id
                (show JobPatch.start.status? = some .processing from rfl)
              · rw [h]
                exact .inr (.requeues (herror e))
              · have hstatus := hwrites job' hjob' hid
                rw [hpending'] at hstatus
                cases hstatus
          | _ => exact h.elim
      | _ => exact h.elim
  | requeues h =>
      cases cmd with
      | requeueJob queued =>
          obtain ⟨hfor, htenant⟩ := h
          have hleft := hdeliver (by rw [hfor]; exact hunserved)
          left
          refine ⟨{ queued with attemptsMade := queued.attemptsMade + 1 }, ?_, hfor, htenant⟩
          show _ ∈ (requeueJob s queued).waiting
          rw [requeueJob, if_pos hleft]
          exact List.mem_append_right _ (List.mem_singleton.mpr rfl)
      | _ => exact h.elim

end Step

/-! ## The runs -/

theorem append_left_cancel {a b c : String} (h : a ++ b = a ++ c) : b = c := by
  have hlist := congrArg String.toList h
  rw [String.toList_append, String.toList_append] at hlist
  exact String.toList_inj.mp (List.append_cancel_left hlist)

/-- The delivery that is removed under the name of a job is one of this job. -/
theorem id_eq_of_named {id other : Id} (hplain : ':' ∉ id.toList)
    (h : NamedFor ("import:" ++ id) other) : id = other := by
  rcases h with h | ⟨now, h⟩
  · exact append_left_cancel h
  · rw [String.append_assoc, String.append_assoc] at h
    have hid : id = other ++ (":retry:" ++ toString now) := append_left_cancel h
    rw [hid] at hplain
    simp [String.toList_append] at hplain

/-- What holds of every configuration of a run. -/
structure Tended (c : ImportConfig) : Prop where
  rests : c.Obeying Rests fun _ _ _ => True
  answers : ∀ t ∈ c.threads, t.program.Throughout Answers
  knows : c.Knowing Knows
  sound : Sound c.store
  served : Served c

section Runs

variable {P : ImportPlatform}

theorem served_next {c : ImportConfig} (hc : Tended c) {n : ℕ} {i : ImportInput} {r : Request}
    {h : List (Event importInterface)} {cmd : ImportCommand}
    {k : Response importInterface cmd → Program importInterface Reply}
    (ht : c.threads[n]? = some ⟨r, h, .call cmd k⟩) (hdeliver : Delivers c.store cmd i) :
    Served ⟨(execute P cmd i c.store).2,
      c.threads.set n (Thread.resume r h cmd k (execute P cmd i c.store).1)⟩ := by
  have hmem := List.mem_of_getElem? ht
  have hanswers := (hc.answers _ hmem).1
  have hground := (Config.obeying_call hc.rests ht).1
  have hown : Thread.resume r h cmd k (execute P cmd i c.store).1 ∈
      c.threads.set n (Thread.resume r h cmd k (execute P cmd i c.store).1) := by
    obtain ⟨hlt, -⟩ := List.getElem?_eq_some_iff.mp ht
    exact List.mem_iff_getElem?.mpr ⟨n, List.getElem?_set_self hlt⟩
  intro job' hjob' hpending'
  have hnotPending : ∀ id patch, cmd = .updateJob id patch → patch.status? ≠ some .pending := by
    rintro id patch rfl
    exact hground
  rcases pending_origin hnotPending hjob' hpending' with
    ⟨job, hjob, hsource, hpending⟩ | ⟨data, rfl, htenant, hcreated⟩ |
      ⟨tenantId, data, rfl, hreset⟩
  · -- a job that was pending had a delivery or a thread
    have hid : job.id = job'.id := congrArg JobSource.id hsource
    have htenant : job.tenantId = job'.tenantId := congrArg JobSource.tenantId hsource
    by_cases hwaits : ∃ w ∈ c.store.waiting, For job w.payload
    · obtain ⟨w, hw, hfor⟩ := hwaits
      have hfor' : For job' w.payload := ⟨hfor.1.trans hid, hfor.2.trans htenant⟩
      rcases waiting_stays (P := P) (c := cmd) (i := i) hw with
        hstays | ⟨rfl, htaken⟩ | rfl
      · exact .inl ⟨w, hstays, hfor'⟩
      · refine .inr ⟨_, hown, ?_⟩
        rw [← hfor'.1, ← hfor'.2]
        show Owes _ _ (k (execute P .takeJob i c.store).1)
        rw [htaken]
        exact hanswers w
      · obtain ⟨_, _, found, hevent, hname⟩ := hground
        obtain ⟨id, hjobId, howes⟩ := hanswers
        obtain ⟨owner, howner, hownerId, -⟩ := hc.knows _ hmem _ hevent
        have hplain := hc.sound.plain owner howner
        have hnamed := hc.sound.named w hw
        have hsame : id = w.payload.importJobId := by
          rw [hname] at hnamed hjobId
          rw [hownerId] at hplain
          rw [← append_left_cancel hjobId]
          exact id_eq_of_named hplain hnamed
        refine .inr ⟨_, hown, ?_⟩
        rw [← hfor'.1, ← hsame]
        exact howes _ _
    · have hnone : ∀ w ∈ c.store.waiting, ¬For job w.payload := fun w hw hfor =>
        hwaits ⟨w, hw, hfor⟩
      rcases hc.served job hjob hpending with hw | ⟨u, hu, howes⟩
      · exact absurd hw hwaits
      · rcases eq_or_mem_set ht hu (Thread.resume r h cmd k (execute P cmd i c.store).1) with
          rfl | hu
        · rcases howes.next hc.sound hdeliver hjob hpending hnone hjob' hid.symm hpending' with
            ⟨w, hw, hfor⟩ | howes
          · exact .inl ⟨w, hw, hfor.1.trans hid, hfor.2.trans htenant⟩
          · refine .inr ⟨_, hown, ?_⟩
            rw [← hid, ← htenant]
            exact howes
        · refine .inr ⟨u, hu, ?_⟩
          rw [← hid, ← htenant]
          exact howes
  · refine .inr ⟨_, hown, ?_⟩
    rw [htenant]
    have howes := hanswers (withUser c.store job') htenant
    show Owes _ _ (k (execute P (.createJob data) i c.store).1)
    rw [hcreated]
    exact howes
  · obtain ⟨asked, found, hevent, hfound⟩ := hground
    obtain ⟨owner, howner, hownerId, hownerTenant⟩ := hc.knows _ hmem _ hevent
    obtain ⟨owner', howner', hsource⟩ := execute_job_stays P (.resetJob job'.id tenantId data) i
      howner
    have hsame : owner' = job' := by
      apply eq_of_job_id howner' hjob'
      rw [← hfound, ← hownerId]
      exact congrArg JobSource.id hsource
    have htenant : job'.tenantId = tenantId := by
      rw [← hownerTenant, ← hsame]
      exact congrArg JobSource.tenantId hsource
    refine .inr ⟨_, hown, ?_⟩
    rw [htenant]
    show Owes _ _ (k (execute P (.resetJob job'.id tenantId data) i c.store).1)
    rw [hreset]
    exact hanswers

theorem tended_next (c : ImportConfig) (a : Action Request ImportInput) (hc : Tended c)
    (ha : CallCondition PlainIds c a ∧ CallCondition Delivers c a) :
    Tended ((importSystem P).next c a) := by
  have hsoundCall : CallCondition (fun s _ _ => Sound s) c a := by
    unfold CallCondition
    split
    · exact hc.sound
    · trivial
  have hrests := (importSystem P).obeying_next (handle_rests P) c a hc.rests
  have hanswers := (importSystem P).throughout_next (handle_answers P) c a hc.answers
  have hknows := (importSystem P).knowing_next (fun cmd i _ hs => knows_give hs cmd i)
    (fun cmd i _ _ _ he => knows_keep cmd i he) c a hc.knows hsoundCall
  obtain ⟨r, rfl, hn⟩ | ⟨n, i, r, h, cmd, k, rfl, ht, hcall, hn⟩ | ⟨hn, -⟩ :=
    (importSystem P).next_cases c a
  · refine ⟨hrests, hanswers, hknows, ?_, ?_⟩
    · rw [hn]
      exact hc.sound
    · rw [hn]
      intro job hjob hpending
      refine (hc.served job hjob hpending).imp_right ?_
      rintro ⟨t, ht, howes⟩
      exact ⟨t, List.mem_append_left _ ht, howes⟩
  · obtain ⟨hplain, hdeliver⟩ := ha
    rw [CallCondition, hcall] at hplain hdeliver
    have hground := (Config.obeying_call hc.rests ht).1
    have hrespects := respects_of_grounded hground (hc.knows _ (List.mem_of_getElem? ht)) hplain
    refine ⟨hrests, hanswers, hknows, ?_, ?_⟩
    · rw [hn]
      exact sound_execute hc.sound hrespects
    · rw [hn]
      exact served_next hc ht hdeliver
  · rw [hn]
    exact hc

end Runs

/-! ## Between requests -/

def Request.ofUser : Request → Bool
  | .create .. | .cancel .. | .retry .. => true
  | .process _ | .work => false

/-- No request of a user is under way. -/
def BetweenRequests (c : ImportConfig) : Prop :=
  ∀ t ∈ c.threads, t.request.ofUser = true → isRunning t.program = false

def taken (h : List (Event importInterface)) : List QueuedJob :=
  h.filterMap fun
    | ⟨.takeJob, .ok job⟩ => job
    | _ => none

/-- A delivery of the job was taken by this thread, which is still running. -/
def Running (id : Id) (t : ImportThread) : Prop :=
  isRunning t.program = true ∧ ∃ job ∈ taken t.history, job.payload.importJobId = id

/-- Every pending job has a delivery, waiting or running. -/
def NoneLost (c : ImportConfig) : Prop :=
  ∀ job ∈ c.store.importJobs.rows, job.status = .pending →
    (∃ w ∈ c.store.waiting, w.payload.importJobId = job.id) ∨ ∃ t ∈ c.threads, Running job.id t

theorem taken_append (h h' : List (Event importInterface)) :
    taken (h ++ h') = taken h ++ taken h' :=
  List.filterMap_append

theorem mem_taken {h : List (Event importInterface)} {job : QueuedJob}
    (hjob : (⟨.takeJob, .ok (some job)⟩ : Event importInterface) ∈ h) : job ∈ taken h :=
  List.mem_filterMap.mpr ⟨_, hjob, rfl⟩

theorem ofWorker_of_rests {r : Request} (hr : r.ofUser = false) {h : List (Event importInterface)}
    {c : ImportCommand} (hrests : Rests r h c) : OfWorker c := by
  cases r with
  | process payload => exact OfProcess.ofWorker hrests.2
  | work => exact hrests.2
  | _ => cases hr

theorem taken_of_requeues {id tenantId : Id} {r : Request} {h : List (Event importInterface)}
    {p : Program importInterface Reply} (hobeys : p.Obeys (Rests r) (fun _ _ => True) h)
    (hrequeues : Requeues id tenantId p) : ∃ job ∈ taken h, job.payload.importJobId = id := by
  unfold Requeues at hrequeues
  split at hrequeues
  · exact ⟨_, mem_taken hobeys.1.1, hrequeues.1⟩
  · exact hrequeues.elim

/-- Of a worker only a running delivery answers for a job. -/
theorem running_of_owes {id tenantId : Id} {t : ImportThread}
    (hobeys : t.program.Obeys (Rests t.request) (fun _ _ => True) t.history)
    (hr : t.request.ofUser = false) (howes : Owes id tenantId t.program) : Running id t := by
  refine ⟨howes.isRunning, ?_⟩
  obtain ⟨r, h, p⟩ := t
  dsimp only at hobeys hr howes ⊢
  cases howes with
  | adds hadds =>
      unfold Adds at hadds
      split at hadds
      · obtain ⟨_, hrun⟩ := ofWorker_of_rests hr hobeys.1
        exact hrun.elim
      · exact hadds.elim
  | clock =>
      obtain ⟨_, hrun⟩ := ofWorker_of_rests hr hobeys.1
      exact hrun.elim
  | cancels =>
      obtain ⟨_, -, hrun⟩ := ofWorker_of_rests hr hobeys.1
      exact hrun.elim
  | looksUp hlooks =>
      unfold LooksUp at hlooks
      split at hlooks
      · have htaken := taken_of_requeues (hobeys.2 (.error .fault)) (hlooks.2.2.1 .fault)
        rw [taken_append] at htaken
        simpa [taken] using htaken
      · exact hlooks.elim
  | starts hstarts =>
      unfold Starts at hstarts
      split at hstarts
      · have htaken := taken_of_requeues (hobeys.2 (.error .fault)) (hstarts.2 .fault)
        rw [taken_append] at htaken
        simpa [taken] using htaken
      · exact hstarts.elim
  | requeues hrequeues => exact taken_of_requeues hobeys hrequeues

/-- As long as the queue takes the deliveries that are added for pending jobs,
the updates of their cancels do not fail and no delivery of theirs is given up, no
pending job is without a delivery when no request of a user is under way. -/
theorem no_pending_import_is_lost (P : ImportPlatform) (s : ImportStore)
    (hnew : s.importJobs.rows = []) (hqueue : s.waiting = [])
    (acts : List (Action Request ImportInput))
    (hids : (importSystem P).AlongActions (CallCondition PlainIds) (Config.initial s) acts)
    (hdeliver : (importSystem P).AlongActions (CallCondition Delivers) (Config.initial s) acts)
    (hbetween : BetweenRequests ((importSystem P).runActions (Config.initial s) acts)) :
    NoneLost ((importSystem P).runActions (Config.initial s) acts) := by
  have hinitial : Tended (Config.initial s : ImportConfig) := by
    refine ⟨Config.obeying_initial _ _ s, by simp [Config.initial], Config.knowing_initial _ s,
      ⟨?_, ?_, ?_⟩, ?_⟩
    · simp [Config.initial, hnew]
    · simp [Config.initial, hnew]
    · simp [Config.initial, hqueue]
    · intro job hjob
      rw [Config.initial, hnew] at hjob
      cases hjob
  have htended := (importSystem P).run_invariant (J := Tended) tended_next acts _ hinitial
    ((importSystem P).alongActions_and acts _ hids hdeliver)
  intro job hjob hpending
  refine (htended.served job hjob hpending).imp ?_ ?_
  · rintro ⟨w, hw, hfor⟩
    exact ⟨w, hw, hfor.1⟩
  · rintro ⟨t, ht, howes⟩
    refine ⟨t, ht, running_of_owes (htended.rests t ht) ?_ howes⟩
    by_contra huser
    rw [Bool.not_eq_false] at huser
    have hended := hbetween t ht huser
    rw [howes.isRunning] at hended
    cases hended

instance (c : ImportConfig) : Decidable (BetweenRequests c) := by
  unfold BetweenRequests
  infer_instance

instance (c : ImportConfig) : Decidable (NoneLost c) := by
  unfold NoneLost Running
  infer_instance

/-- A job is canceled while it waits and retried, and a worker takes the delivery. -/
theorem no_pending_import_is_lost_plain :
    NoneLost ((importSystem plainPlatform).runActions (Config.initial .empty)
      ([.start (.create plainContext (some plainUpload) plainDto)] ++ steps 0 5 0 ++
        [.start (.cancel plainContext "2-0")] ++ steps 1 4 10 ++
        [.start (.retry plainContext "2-0" ⟨none, none⟩)] ++ steps 2 6 20 ++
        [.start .work] ++ steps 3 1 30)) :=
  no_pending_import_is_lost plainPlatform .empty rfl rfl _ (by decide +kernel)
    (by decide +kernel) (by decide +kernel)

/-- The queue does not take the delivery of a new job. The same file, uploaded
again, is answered with the job, and nothing ever delivers it. -/
theorem a_pending_import_is_lost :
    BetweenRequests ((importSystem plainPlatform).runActions (Config.initial .empty)
      ([.start (.create plainContext (some plainUpload) plainDto)] ++ steps 0 3 0 ++
        [.step 0 { plainInput 3 with fault := true }] ++
        [.start (.create plainContext (some plainUpload) plainDto)] ++ steps 1 1 10)) ∧
      ¬NoneLost ((importSystem plainPlatform).runActions (Config.initial .empty)
        ([.start (.create plainContext (some plainUpload) plainDto)] ++ steps 0 3 0 ++
          [.step 0 { plainInput 3 with fault := true }] ++
          [.start (.create plainContext (some plainUpload) plainDto)] ++ steps 1 1 10)) := by
  decide +kernel

end Logistics.Imports
