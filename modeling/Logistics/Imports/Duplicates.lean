import Logistics.Imports.Execution
import Logistics.Library.Families

/-!
# One live job for a file

A file that is waiting, being processed or imported already is not imported
again: `create` looks for such a job first. A retry and a worker do not look, and
make a job live again that failed or was canceled, whatever was uploaded
meanwhile.
-/

namespace Logistics.Imports

open Logistics.Library

def fileOf (job : ImportJob) : Id × ImportType × Option String :=
  (job.tenantId, job.type, job.fileHash)

def liveJob (job : ImportJob) : Bool := isLive job.status

/-- At most one job of a tenant, a type and a file is pending, processing or
completed. -/
def OneLiveJob (s : ImportStore) : Prop :=
  OneLive fileOf liveJob s.importJobs.rows

instance (s : ImportStore) : Decidable (OneLiveJob s) := by
  unfold OneLiveJob
  infer_instance

def MayRevive (s : ImportStore) (id : Id) : Prop :=
  ∀ job ∈ s.importJobs.rows, job.id = id → liveJob job = false →
    ∀ other ∈ s.importJobs.rows, other.id ≠ id → fileOf other = fileOf job →
      liveJob other = false

instance (s : ImportStore) (id : Id) : Decidable (MayRevive s id) := by
  unfold MayRevive
  infer_instance

/-- A retry, or an update of a worker, that makes a job live finds no other live
job for its file. -/
def RevivesAlone (s : ImportStore) (c : importInterface.Command) (_ : ImportInput) : Prop :=
  match c with
  | ImportCommand.updateJob id patch => patch.status?.any isLive = true → MayRevive s id
  | ImportCommand.resetJob id _ _ => MayRevive s id
  | _ => True

instance (s : ImportStore) (c : importInterface.Command) (i : ImportInput) :
    Decidable (RevivesAlone s c i) := by
  apply @ImportCommand.casesOn (fun c => Decidable (RevivesAlone s c i)) c <;>
    intros <;> dsimp only [RevivesAlone] <;> infer_instance

/-! ## What the calls do to the live jobs -/

theorem fileOf_eq_of_source {a b : ImportJob} (h : a.source = b.source) : fileOf a = fileOf b :=
  congrArg (fun source : JobSource => (source.tenantId, source.type, source.fileHash)) h

theorem OneLiveJob.rewrite {s : ImportStore} (h : OneLiveJob s) {id : Id}
    {f : ImportJob → ImportJob} (hsource : ∀ job, (f job).source = job.source)
    (hrevive : (∀ job, liveJob (f job) = true → liveJob job = true) ∨ MayRevive s id) :
    OneLive fileOf liveJob (s.importJobs.rows.map fun row =>
      if row.id == id then f row else row) := by
  apply h.map_if (s.importJobs.pairwise_of_key (k := id) fun row hrow => ?_)
    (fun row => fileOf_eq_of_source (hsource row))
  · intro job hjob hid hlive
    rcases hrevive with hrevive | hrevive
    · exact .inl (hrevive job hlive)
    · cases hold : liveJob job with
      | true => exact .inl rfl
      | false =>
          refine .inr fun other hother hne hfile => ?_
          exact hrevive job hjob (beq_iff_eq.mp hid) hold other hother (by simpa using hne) hfile
  · exact List.mem_singleton.mpr (beq_iff_eq.mp hrow).symm

theorem oneLiveJob_execute {P : ImportPlatform} {c : ImportCommand} {i : ImportInput}
    {s : ImportStore} (hc : ∀ data, c ≠ .createJob data) (h : OneLiveJob s)
    (halone : RevivesAlone s c i) : OneLiveJob (execute P c i s).2 := by
  rcases execute_store P c i s with hstore | hwrite
  · rw [hstore]
    exact h
  · generalize (execute P c i s).2 = s' at hwrite
    cases hwrite with
    | createJob data => exact absurd rfl (hc data)
    | updateJob id patch =>
        refine h.rewrite (patch.apply_source i.now) ?_
        cases hstatus : patch.status?.any isLive with
        | true => exact .inr (halone hstatus)
        | false =>
            refine .inl fun job hlive => ?_
            rw [liveJob, patch.apply_status] at hlive
            cases hpatch : patch.status? with
            | none =>
                rw [hpatch] at hlive
                exact hlive
            | some status =>
                rw [hpatch] at hlive hstatus
                exact absurd hlive (by simpa using hstatus)
    | resetJob id tenantId data => exact h.rewrite (reset_source i.now data) (.inr halone)
    | _ => exact h

/-! ## The programs -/

theorem OfWorker.ne_createJob {c : ImportCommand} (h : OfWorker c) (data : ImportJobData) :
    c ≠ .createJob data := by
  rintro rfl
  obtain ⟨id, hrun⟩ := h
  exact hrun

def CreatesNothing (c : ImportCommand) : Prop := ∀ data, c ≠ .createJob data

theorem handle_createsNothing (P : ImportPlatform) {r : Request}
    (hr : ∀ context file dto, r ≠ .create context file dto) :
    (handle P r).Issues CreatesNothing := by
  cases r with
  | create context file dto => exact absurd rfl (hr context file dto)
  | cancel context importJobId =>
      rw [handle, Program.issues_map_iff]
      apply cancel_issues <;> intros <;> simp [CreatesNothing]
  | retry context importJobId dto =>
      rw [handle, Program.issues_map_iff]
      apply retry_issues <;> intros <;> simp [CreatesNothing]
  | process payload =>
      rw [handle, Program.issues_map_iff]
      exact (process_issues P payload).mono fun _ hc => hc.ofWorker.ne_createJob
  | work =>
      rw [handle, Program.issues_map_iff]
      exact (work_issues P).mono fun _ hc => hc.ne_createJob

theorem ended_of_findDuplicate {P : ImportPlatform} {i : ImportInput} {s : ImportStore}
    {fileHash : String} {tenantId : Id} {type : ImportType}
    (h : (execute P (.findDuplicate fileHash tenantId type) i s).1 = .ok none) :
    Ended fileOf liveJob (tenantId, type, some fileHash) s.importJobs.rows := by
  dsimp only [execute] at h
  split at h
  · cases h
  · have hsorted := List.head?_eq_none_iff.mp (Option.map_eq_none_iff.mp (Except.ok.inj h))
    have hnone : duplicates s fileHash tenantId type = [] := by
      have hperm := List.perm_insertionSort (fun a b => jobLE i.tie a b)
        (duplicates s fileHash tenantId type)
      rw [hsorted] at hperm
      exact List.nil_perm.mp hperm
    intro job hjob hfile
    by_contra hlive
    rw [Bool.not_eq_false] at hlive
    have hmem : job ∈ duplicates s fileHash tenantId type := by
      refine List.mem_filter.mpr ⟨hjob, ?_⟩
      obtain ⟨rfl, hrest⟩ := Prod.mk.inj hfile
      obtain ⟨rfl, hhash⟩ := Prod.mk.inj hrest
      rw [liveJob] at hlive
      simp [hhash, hlive]
    rw [hnone] at hmem
    cases hmem

section Programs

variable {P : ImportPlatform}

theorem oneLiveJob_of_issues {α : Type} {p : Program importInterface α}
    (hp : p.Issues CreatesNothing) {s : ImportStore} (hs : OneLiveJob s) :
    p.wp (execute P) RevivesAlone (fun s _ _ => OneLiveJob s) (fun _ s' => OneLiveJob s') s :=
  Program.wp_of_issues hp (fun _ hc _ _ hs halone => ⟨hs, oneLiveJob_execute hc hs halone⟩) s hs

theorem insert_oneLiveJob {α : Type} {data : ImportJobData}
    {rest : JobWithUser → Program importInterface α}
    (hrest : ∀ created, (rest created).Issues CreatesNothing) {s : ImportStore}
    (hs : OneLiveJob s)
    (hended : Ended fileOf liveJob (data.tenantId, data.type, some data.fileHash)
      s.importJobs.rows) :
    (call (.createJob data) >>= rest).wp (execute P) RevivesAlone (fun s _ _ => OneLiveJob s)
      (fun _ s' => OneLiveJob s') s := by
  apply Program.wp_perform_bind
  intro i _
  have hstored : OneLiveJob (execute P (.createJob data) i s).2 := by
    obtain ⟨e, h⟩ | ⟨importJobs, hinsert, h⟩ := execute_createJob P i s data
    · rw [h]
      exact hs
    · rw [h]
      unfold OneLiveJob
      dsimp only
      rw [Table.tryInsert_rows hinsert]
      exact OneLive.append_singleton hs hended
  exact ⟨hs, fun created _ => oneLiveJob_of_issues (hrest created) hstored, fun _ _ => hstored⟩

/-- While `create` runs alone, no job comes between its search and its insert. -/
theorem create_oneLiveJob (context : Context) (file : Option Upload) (dto : CreateImportDto)
    {s : ImportStore} (hs : OneLiveJob s) :
    (create P context file dto).wp (execute P) RevivesAlone (fun s _ _ => OneLiveJob s)
      (fun _ s' => OneLiveJob s') s := by
  unfold create
  apply Program.wp_ofExcept_bind ?_ fun _ _ => hs
  intro upload _
  apply Program.wp_ofExcept_bind ?_ fun _ _ => hs
  intro parsed _
  apply Program.wp_throwIf_bind (fun _ => hs)
  intro _
  apply Program.wp_perform_bind
  intro i hi
  have hsame := execute_importJobs P i s
    (c := .findDuplicate (P.sha256 upload.buffer) context.tenantId dto.type) rfl
  have hfirst := oneLiveJob_execute (P := P) (i := i)
    (c := .findDuplicate (P.sha256 upload.buffer) context.tenantId dto.type) (by simp) hs hi
  refine ⟨hs, fun found hfound => ?_, fun _ _ => hfirst⟩
  cases found with
  | some duplicate => exact hfirst
  | none =>
      have hended := ended_of_findDuplicate hfound
      rw [← hsame] at hended
      clear hsame hfound
      generalize (execute P (.findDuplicate (P.sha256 upload.buffer) context.tenantId dto.type) i
        s).2 = s₁ at hfirst hended ⊢
      apply Program.wp_perform_bind
      intro j hj
      have hkept := execute_importJobs P j s₁
        (c := .saveFile context.tenantId upload.originalname upload.buffer) rfl
      have hsecond := oneLiveJob_execute (P := P) (i := j)
        (c := .saveFile context.tenantId upload.originalname upload.buffer) (by simp) hfirst hj
      refine ⟨hfirst, fun stored _ => ?_, fun _ _ => hsecond⟩
      rw [← hkept] at hended
      refine insert_oneLiveJob (fun created => ?_) hsecond hended
      simp only [Program.issues_perform_bind_iff]
      exact ⟨by simp [CreatesNothing], fun _ => ⟨by simp [CreatesNothing], fun _ => trivial⟩⟩

theorem handle_oneLiveJob (r : Request) {s : ImportStore} (hs : OneLiveJob s) :
    (handle P r).wp (execute P) RevivesAlone (fun s _ _ => OneLiveJob s)
      (fun _ s' => OneLiveJob s') s := by
  cases r with
  | create context file dto => exact Program.wp_map (create_oneLiveJob context file dto hs)
  | cancel context importJobId =>
      exact oneLiveJob_of_issues (handle_createsNothing P (by simp)) hs
  | retry context importJobId dto =>
      exact oneLiveJob_of_issues (handle_createsNothing P (by simp)) hs
  | process payload => exact oneLiveJob_of_issues (handle_createsNothing P (by simp)) hs
  | work => exact oneLiveJob_of_issues (handle_createsNothing P (by simp)) hs

end Programs

/-! ## The runs -/

/-- As long as no retry and no worker brings a job back beside another live job
for its file, at most one job of a tenant, a type and a file is live. -/
theorem one_live_job (P : ImportPlatform) (s : ImportStore) (hnew : s.importJobs.rows = [])
    (calls : List (Request × (ℕ → ImportInput)))
    (halone : (importSystem P).AlongCalls RevivesAlone calls s) :
    OneLiveJob ((importSystem P).runCalls calls s) ∧
      (importSystem P).AlongCalls (fun s _ _ => OneLiveJob s) calls s := by
  have hs : OneLiveJob s := by
    unfold OneLiveJob
    rw [hnew]
    exact oneLive_nil
  have hkeep : ∀ r s, OneLiveJob s → ((importSystem P).handle r).wp (importSystem P).backend
      RevivesAlone (fun s _ _ => OneLiveJob s) (fun _ s' => OneLiveJob s') s :=
    fun r _ hs => handle_oneLiveJob r hs
  exact ⟨System.runCalls_invariant hkeep calls s hs halone,
    System.alongCalls_of_invariant hkeep calls s hs halone⟩

/-- A file is imported; its job is canceled while it waits, retried, and the file
is uploaded again before and after a worker has imported it. -/
def plainCalls : List (Request × (ℕ → ImportInput)) :=
  [(.create plainContext (some plainUpload) plainDto, fun n => plainInput n),
    (.cancel plainContext "2-0", fun n => plainInput (10 + n)),
    (.retry plainContext "2-0" ⟨none, none⟩, fun n => plainInput (20 + n)),
    (.create plainContext (some plainUpload) plainDto, fun n => plainInput (30 + n)),
    (.work, fun n => plainInput (40 + n)),
    (.create plainContext (some plainUpload) plainDto, fun n => plainInput (60 + n))]

theorem one_live_job_plain :
    OneLiveJob ((importSystem plainPlatform).runCalls plainCalls .empty) ∧
      (importSystem plainPlatform).AlongCalls (fun s _ _ => OneLiveJob s) plainCalls .empty :=
  one_live_job plainPlatform .empty rfl plainCalls (by decide +kernel)

/-- A job is canceled, its file is uploaded again, and then it is retried. -/
theorem two_live_jobs :
    ¬OneLiveJob ((importSystem plainPlatform).runCalls
      [(.create plainContext (some plainUpload) plainDto, fun n => plainInput n),
        (.cancel plainContext "2-0", fun n => plainInput (10 + n)),
        (.create plainContext (some plainUpload) plainDto, fun n => plainInput (20 + n)),
        (.retry plainContext "2-0" ⟨none, none⟩, fun n => plainInput (30 + n))] .empty) := by
  decide +kernel

end Logistics.Imports
