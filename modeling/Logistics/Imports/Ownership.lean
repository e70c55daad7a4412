import Logistics.Imports.Execution
import Logistics.Imports.Reading

/-!
# What operators receive

A job is of the user who created it, whatever is done with it. What a request
answers with is put together from the answers to its calls, so the jobs an operator
receives are those in these answers. Each of them is looked up by a filter on its
creator, or is compared with the caller before more of it is read, apart from one:
the job that `create` finds for a file.
-/

namespace Logistics.Imports

open Logistics.Library

/-! ## Jobs in answers -/

abbrev ReadingEvent : Type := Event readingInterface

abbrev ReadingConfig : Type := Config readingInterface ReadingRequest ReadingReply ImportStore

def jobsIn : ReadingEvent → List ImportJob
  | ⟨.inl (.findDuplicate ..), .ok found⟩ => found.toList.map JobWithUser.job
  | ⟨.inl (.createJob _), .ok created⟩ => [created.job]
  | ⟨.inl (.findJob ..), .ok found⟩ => found.toList.map JobWithUser.job
  | ⟨.inl (.updateJob ..), .ok updated⟩ => [updated.job]
  | ⟨.inr (.findPage ..), .ok page⟩ => page.1.map JobWithUser.job
  | _ => []

def rowsIn : ReadingEvent → List ImportRowResult
  | ⟨.inr (.findRowPage ..), .ok page⟩ => page.1
  | ⟨.inr (.findRows ..), .ok rows⟩ => rows
  | _ => []

def jobIds (e : ReadingEvent) : List Id :=
  (jobsIn e).map ImportJob.id ++ (rowsIn e).map ImportRowResult.importJobId

def ReadingReply.jobIds : ReadingReply → List Id
  | .base (.job view) => [view.id]
  | .base .done => []
  | .page jobs => jobs.data.map ImportJobDto.id
  | .detail view => [view.job.id]
  | .report _ => []

def Owns (s : ImportStore) (userId id : Id) : Prop :=
  ∃ job ∈ s.importJobs.rows, job.id = id ∧ job.createdById = userId

instance (s : ImportStore) (userId id : Id) : Decidable (Owns s userId id) := by
  unfold Owns
  infer_instance

/-! ## What an answer says -/

def Stored (s : ImportStore) (job : ImportJob) : Prop := Owns s job.createdById job.id

def Fits : ReadingEvent → Prop
  | ⟨.inl (.createJob data), x⟩ =>
      ∀ job ∈ jobsIn ⟨.inl (.createJob data), x⟩, job.createdById = data.createdById
  | ⟨.inl (.findJob id tenantId), x⟩ => ∀ job ∈ jobsIn ⟨.inl (.findJob id tenantId), x⟩, job.id = id
  | ⟨.inl (.updateJob id patch), x⟩ => ∀ job ∈ jobsIn ⟨.inl (.updateJob id patch), x⟩, job.id = id
  | ⟨.inr (.findPage filter skip take), x⟩ =>
      ∀ job ∈ jobsIn ⟨.inr (.findPage filter skip take), x⟩, ∀ userId ∈ filter.createdById,
        job.createdById = userId
  | ⟨.inr (.findRowPage filter skip take), x⟩ =>
      ∀ row ∈ rowsIn ⟨.inr (.findRowPage filter skip take), x⟩,
        row.importJobId = filter.importJobId
  | ⟨.inr (.findRows filter take), x⟩ =>
      ∀ row ∈ rowsIn ⟨.inr (.findRows filter take), x⟩, row.importJobId = filter.importJobId
  | _ => True

structure Backed (s : ImportStore) (e : ReadingEvent) : Prop where
  fits : Fits e
  stored : ∀ job ∈ jobsIn e, Stored s job

section Answers

variable {P : ReadingPlatform} {s : ImportStore}

theorem patch_createdById (now : Time) (patch : JobPatch) (job : ImportJob) :
    (patch.apply now job).createdById = job.createdById := by
  cases patch <;> rfl

theorem Owns.rewrite {userId id : Id} (h : Owns s userId id) (other : Id)
    {f : ImportJob → ImportJob} (hid : ∀ job, (f job).id = job.id)
    (hcreator : ∀ job, (f job).createdById = job.createdById) :
    ∃ job ∈ s.importJobs.rows.map fun row => if row.id == other then f row else row,
      job.id = id ∧ job.createdById = userId := by
  obtain ⟨job, hjob, rfl, rfl⟩ := h
  refine ⟨_, List.mem_map_of_mem hjob, ?_⟩
  split
  · exact ⟨hid job, hcreator job⟩
  · exact ⟨rfl, rfl⟩

/-- No call removes a job or gives it to another user. -/
theorem owns_execute {userId id : Id} (h : Owns s userId id) (P : ImportPlatform)
    (c : ImportCommand) (i : ImportInput) : Owns (execute P c i s).2 userId id := by
  rcases execute_store P c i s with hstore | hwrite
  · rw [hstore]
    exact h
  · generalize (execute P c i s).2 = s' at hwrite
    cases hwrite with
    | createJob data importJobs hinsert =>
        obtain ⟨job, hjob, hrest⟩ := h
        refine ⟨job, ?_, hrest⟩
        rw [Table.tryInsert_rows hinsert]
        exact List.mem_append_left _ hjob
    | updateJob other patch =>
        exact h.rewrite other (patch.apply_id i.now) (patch_createdById i.now patch)
    | resetJob other tenantId data => exact h.rewrite other (fun _ => rfl) fun _ => rfl
    | _ => exact h

theorem owns_next {userId id : Id} (h : Owns s userId id) (c : readingInterface.Command)
    (i : ImportInput) : Owns ((readingSystem P).backend c i s).2 userId id := by
  cases c with
  | inl c => exact owns_execute h P.toImportPlatform c i
  | inr c =>
      change Owns (executeReading P c i s).2 userId id
      unfold executeReading
      split <;> exact h

theorem stored_of_mem {job : ImportJob} (h : job ∈ s.importJobs.rows) : Stored s job :=
  ⟨job, h, rfl, rfl⟩

theorem mem_of_mem_matchingJobs {filter : ImportJobWhereInput} {job : ImportJob}
    (h : job ∈ matchingJobs P s filter) :
    job ∈ s.importJobs.rows ∧ filter.holds P job = true :=
  List.mem_filter.mp ((List.mem_insertionSort _).mp h)

theorem importJobId_of_mem_matchingRows {filter : ImportRowResultWhereInput}
    {row : ImportRowResult} (h : row ∈ matchingRows s filter) :
    row.importJobId = filter.importJobId := by
  have hholds := (List.mem_filter.mp ((List.mem_insertionSort _).mp h)).2
  simp only [ImportRowResultWhereInput.holds, Bool.and_eq_true, beq_iff_eq] at hholds
  exact hholds.1.1

theorem mem_of_mem_findDuplicate {fileHash : String} {tenantId : Id} {type : ImportType}
    {i : ImportInput} {found : JobWithUser}
    {P : ImportPlatform} (h : (execute P (.findDuplicate fileHash tenantId type) i s).1 =
      .ok (some found)) : found.job ∈ s.importJobs.rows := by
  dsimp only [execute] at h
  split at h
  · cases h
  · obtain ⟨job, hhead, rfl⟩ := Option.map_eq_some_iff.mp (Except.ok.inj h)
    have hmem := (List.mem_insertionSort _).mp (List.mem_of_mem_head? hhead)
    exact (List.mem_filter.mp hmem).1

/-- What a call answers with is stored, and is what it asks for. -/
theorem backed_execute (P : ImportPlatform) (c : ImportCommand) (i : ImportInput)
    (s : ImportStore) : Backed (execute P c i s).2 ⟨.inl c, (execute P c i s).1⟩ := by
  cases c with
  | findDuplicate fileHash tenantId type =>
      have hsame := execute_importJobs P i s
        (c := .findDuplicate fileHash tenantId type) rfl
      refine ⟨trivial, ?_⟩
      cases hanswer : (execute P (.findDuplicate fileHash tenantId type) i s).1 with
      | error e => simp [jobsIn]
      | ok found =>
          intro job hjob
          cases found with
          | none => cases hjob
          | some found =>
              obtain rfl := List.mem_singleton.mp hjob
              refine stored_of_mem ?_
              rw [hsame]
              exact mem_of_mem_findDuplicate hanswer
  | createJob data =>
      obtain ⟨e, h⟩ | ⟨importJobs, hinsert, h⟩ :=
        execute_createJob P i s data
      · rw [h]
        exact ⟨by simp [Fits, jobsIn], by simp [jobsIn]⟩
      · rw [h]
        constructor
        · intro job hjob
          obtain rfl := List.mem_singleton.mp hjob
          rfl
        · intro job hjob
          obtain rfl := List.mem_singleton.mp hjob
          refine stored_of_mem ?_
          rw [Table.tryInsert_rows hinsert]
          exact List.mem_append_right _ (List.mem_singleton.mpr rfl)
  | findJob id tenantId =>
      have hsame := execute_importJobs P i s (c := .findJob id tenantId) rfl
      cases hanswer : (execute P (.findJob id tenantId) i s).1 with
      | error e => exact ⟨by simp [Fits, jobsIn], by simp [jobsIn]⟩
      | ok found =>
          cases found with
          | none => exact ⟨by simp [Fits, jobsIn], by simp [jobsIn]⟩
          | some found =>
              obtain ⟨hmem, hid, -⟩ := find?_of_execute_findJob hanswer
              constructor
              · intro job hjob
                obtain rfl := List.mem_singleton.mp hjob
                exact hid
              · intro job hjob
                obtain rfl := List.mem_singleton.mp hjob
                refine stored_of_mem ?_
                rw [hsame]
                exact hmem
  | updateJob id patch =>
      obtain ⟨e, h⟩ | ⟨old, hold, hid, h⟩ := execute_updateJob P i s id patch
      · rw [h]
        exact ⟨by simp [Fits, jobsIn], by simp [jobsIn]⟩
      · rw [h]
        constructor
        · intro job hjob
          obtain rfl := List.mem_singleton.mp hjob
          exact (patch.apply_id i.now old).trans hid
        · intro job hjob
          obtain rfl := List.mem_singleton.mp hjob
          refine stored_of_mem (List.mem_map.mpr ⟨old, hold, ?_⟩)
          exact if_pos (beq_iff_eq.mpr hid)
  | _ =>
      generalize execute P _ i s = answered
      exact ⟨trivial, by simp [jobsIn]⟩

theorem backed_executeReading (P : ReadingPlatform) (c : ReadCommand) (i : ImportInput)
    (s : ImportStore) :
    Backed (executeReading P c i s).2 ⟨.inr c, (executeReading P c i s).1⟩ := by
  unfold executeReading
  split
  · cases c with
    | findPage filter skip take => exact ⟨fun _ h => (nomatch h), fun _ h => nomatch h⟩
    | findRowPage filter skip take => exact ⟨fun _ h => (nomatch h), fun _ h => nomatch h⟩
    | findRows filter take => exact ⟨fun _ h => (nomatch h), fun _ h => nomatch h⟩
  · cases c with
    | findPage filter skip take =>
        have hfound : ∀ job ∈ jobsIn ⟨.inr (.findPage filter skip take),
            .ok (answer P s (.findPage filter skip take))⟩, job ∈ matchingJobs P s filter := by
          intro job hjob
          obtain ⟨_, hmem, rfl⟩ := List.mem_map.mp hjob
          obtain ⟨row, hrow, rfl⟩ := List.mem_map.mp hmem
          exact List.mem_of_mem_drop (List.mem_of_mem_take hrow)
        constructor
        · intro job hjob userId huser
          have hholds := (mem_of_mem_matchingJobs (hfound job hjob)).2
          simp only [ImportJobWhereInput.holds, Bool.and_eq_true] at hholds
          have hcreator := hholds.1.1.1.2
          rw [Option.mem_def.mp huser] at hcreator
          exact beq_iff_eq.mp hcreator
        · intro job hjob
          exact stored_of_mem (mem_of_mem_matchingJobs (hfound job hjob)).1
    | findRowPage filter skip take =>
        refine ⟨fun row hrow => ?_, fun _ h => nomatch h⟩
        exact importJobId_of_mem_matchingRows
          (List.mem_of_mem_drop (List.mem_of_mem_take hrow))
    | findRows filter take =>
        refine ⟨fun row hrow => ?_, fun _ h => nomatch h⟩
        exact importJobId_of_mem_matchingRows (List.mem_of_mem_take hrow)

theorem backed_give (c : readingInterface.Command) (i : ImportInput) (s : ImportStore) :
    Backed ((readingSystem P).backend c i s).2 ⟨c, ((readingSystem P).backend c i s).1⟩ := by
  cases c with
  | inl c => exact backed_execute P.toImportPlatform c i s
  | inr c => exact backed_executeReading P c i s

theorem Backed.next {e : ReadingEvent} (h : Backed s e) (c : readingInterface.Command)
    (i : ImportInput) : Backed ((readingSystem P).backend c i s).2 e :=
  ⟨h.fits, fun job hjob => owns_next (h.stored job hjob) c i⟩

end Answers

/-! ## What an operator's requests call -/

def Request.caller : Request → Option Context
  | .create context _ _ => some context
  | .cancel context _ => some context
  | .retry context _ _ => some context
  | .process _ => none
  | .work => none

def ReadingRequest.caller : ReadingRequest → Option Context
  | .base r => r.caller
  | .list context _ => some context
  | .get context _ _ => some context
  | .errorReport context _ => some context

/-- The user who makes the request, if it is an operator's. -/
def ReadingRequest.operator (r : ReadingRequest) : Option Id :=
  (r.caller.filter fun context => context.role = .operator).map Context.userId

section Operator

variable (userId : Id)

/-- A job of the user was looked up under this identifier, or is this one. -/
def Allowed (h : List ReadingEvent) (id : Id) : Prop :=
  ∃ e ∈ h, ∃ job ∈ jobsIn e, job.createdById = userId ∧
    (job.id = id ∨ ∃ tenantId, e.1 = .inl (.findJob id tenantId))

/-- A call of an operator's request after the calls before it. -/
def Asks (h : List ReadingEvent) : readingInterface.Command → Prop
  | .inl (.createJob data) => data.createdById = userId
  | .inl (.updateJob id _) => Allowed userId h id
  | .inr (.findPage filter _ _) => filter.createdById = some userId
  | .inr (.findRowPage filter _ _) => Allowed userId h filter.importJobId
  | .inr (.findRows filter _) => Allowed userId h filter.importJobId
  | _ => True

/-- A job that was looked up is the user's. -/
def Passed : ReadingEvent → Prop
  | ⟨.inl (.findJob _ _), .ok (some found)⟩ => found.job.createdById = userId
  | _ => True

/-- The calls that lead to an answer naming these jobs. -/
structure Settled (h : List ReadingEvent) (ids : List Id) : Prop where
  passed : ∀ e ∈ h, Passed userId e
  named : ∀ id ∈ ids, ∃ e ∈ h, id ∈ jobIds e

/-- The same of calls of the smaller interface. -/
abbrev AsksBase (h : List (Event importInterface)) (c : ImportCommand) : Prop :=
  Asks userId (h.map extendEvent) (.inl c)

abbrev SettledView (h : List (Event importInterface)) (x : Except ServiceError ImportJobDto) :
    Prop :=
  ∀ view, x = .ok view → Settled userId (h.map extendEvent) [view.id]

variable {userId}

/-- An answer about one job is settled by a call that showed the job. -/
theorem Settled.of_shown {h : List ReadingEvent} {e : ReadingEvent} (job : ImportJob)
    (hpassed : ∀ e ∈ h, Passed userId e) (he : e ∈ h) (hjob : job ∈ jobsIn e) :
    Settled userId h [job.id] := by
  refine ⟨hpassed, fun id hid => ⟨e, he, ?_⟩⟩
  obtain rfl := List.mem_singleton.mp hid
  exact List.mem_append_left _ (List.mem_map_of_mem hjob)

theorem passed_nil :
    ∀ e ∈ (([] : List (Event importInterface)).map extendEvent : List ReadingEvent),
      Passed userId e := List.forall_mem_nil _

theorem passed_concat {h : List (Event importInterface)} {last : Event importInterface}
    (hpassed : ∀ e ∈ (h.map extendEvent : List ReadingEvent), Passed userId e)
    (hlast : Passed userId (extendEvent last)) :
    ∀ e ∈ ((h ++ [last]).map extendEvent : List ReadingEvent), Passed userId e := by
  rw [List.map_append, List.forall_mem_append]
  exact ⟨hpassed, List.forall_mem_singleton.mpr hlast⟩

theorem mem_extended {h : List (Event importInterface)} {e : Event importInterface} :
    extendEvent e ∈ ((h ++ [e]).map extendEvent : List ReadingEvent) :=
  List.mem_map_of_mem (List.mem_append_right _ (List.mem_singleton_self e))

theorem mem_extended_concat {h : List (Event importInterface)} {e : ReadingEvent}
    {last : Event importInterface} (he : e ∈ (h.map extendEvent : List ReadingEvent)) :
    e ∈ ((h ++ [last]).map extendEvent : List ReadingEvent) := by
  rw [List.map_append]
  exact List.mem_append_left _ he

theorem getAuthorizedJob_obeys {α : Type} {context : Context} {importJobId : Id}
    {A : List (Event importInterface) → ImportCommand → Prop}
    {Q : List (Event importInterface) → Except ServiceError α → Prop}
    {f : JobWithUser → Program importInterface α} {h : List (Event importInterface)}
    (hrole : context.role = .operator) (hcall : A h (.findJob importJobId context.tenantId))
    (herr : ∀ h e, Q h (.error e))
    (hok : ∀ found : JobWithUser, found.job.createdById = context.userId →
      (f found).Obeys A Q
        (h ++ [⟨.findJob importJobId context.tenantId, .ok (some found)⟩])) :
    (getAuthorizedJob context importJobId >>= f).Obeys A Q h := by
  unfold getAuthorizedJob
  rw [bind_assoc]
  refine Program.Obeys.perform_bind hcall (fun found => ?_) fun e => herr _ _
  cases found with
  | none => exact herr _ _
  | some found =>
      dsimp only
      rw [bind_assoc]
      refine Program.Obeys.throwIf_bind (fun _ => herr _ _) fun hpass => ?_
      exact hok found (by simpa [hrole] using hpass)

theorem create_obeys (P : ImportPlatform) (context : Context) (file : Option Upload)
    (dto : CreateImportDto) :
    (create P context file dto).Obeys (AsksBase context.userId) (SettledView context.userId)
      [] := by
  unfold create
  refine Program.Obeys.ofExcept_bind (fun upload _ => ?_) fun _ _ => by simp [SettledView]
  refine Program.Obeys.ofExcept_bind (fun parsed _ => ?_) fun _ _ => by simp [SettledView]
  refine Program.Obeys.throwIf_bind (fun _ => by simp [SettledView]) fun _ => ?_
  refine Program.Obeys.perform_bind trivial (fun found => ?_) fun _ => by simp [SettledView]
  cases found with
  | some duplicate =>
      rintro view ⟨⟩
      exact .of_shown duplicate.job (passed_concat passed_nil trivial) mem_extended
        (List.mem_singleton_self _)
  | none =>
      refine Program.Obeys.perform_bind trivial (fun stored => ?_) fun _ => by simp [SettledView]
      refine Program.Obeys.perform_bind rfl (fun created => ?_) fun _ => by simp [SettledView]
      refine Program.Obeys.perform_bind trivial (fun _ => ?_) fun _ => by simp [SettledView]
      refine Program.Obeys.perform_bind trivial (fun _ => ?_) fun _ => by simp [SettledView]
      rintro view ⟨⟩
      exact .of_shown created.job
        (passed_concat (passed_concat (passed_concat (passed_concat (passed_concat passed_nil
          trivial) trivial) trivial) trivial) trivial)
        (mem_extended_concat (mem_extended_concat mem_extended)) (List.mem_singleton_self _)

theorem cancel_obeys {context : Context} (hrole : context.role = .operator) (importJobId : Id) :
    (cancel context importJobId).Obeys (AsksBase context.userId) (SettledView context.userId)
      [] := by
  unfold cancel
  refine getAuthorizedJob_obeys hrole trivial (by simp [SettledView]) fun found hown => ?_
  refine Program.Obeys.throwIf_bind (fun _ => by simp [SettledView]) fun _ => ?_
  refine ⟨trivial, fun removed => ?_⟩
  have hrest : ∀ x : Except ServiceError Unit,
      (call (.updateJob found.job.id .cancel) >>= fun updated =>
        call (.recordAudit (audit .importCanceled context.tenantId context.userId found.job.id
          [])) >>= fun _ => pure (presentJob updated)).Obeys (AsksBase context.userId)
        (SettledView context.userId)
        ([⟨.findJob importJobId context.tenantId, .ok (some found)⟩] ++
          [⟨.removeJob ("import:" ++ found.job.id), x⟩]) := by
    intro x
    refine Program.Obeys.perform_bind ?_ (fun updated => ?_) fun _ => by simp [SettledView]
    · exact ⟨_, List.mem_cons_self, found.job, List.mem_singleton_self _, hown, .inl rfl⟩
    refine Program.Obeys.perform_bind trivial (fun _ => ?_) fun _ => by simp [SettledView]
    rintro view ⟨⟩
    exact .of_shown updated.job
      (passed_concat (passed_concat (passed_concat (passed_concat passed_nil hown) trivial)
        trivial) trivial)
      (mem_extended_concat mem_extended) (List.mem_singleton_self _)
  cases removed with
  | ok _ => exact hrest _
  | error _ => exact hrest _

theorem retry_obeys (P : ImportPlatform) {context : Context} (hrole : context.role = .operator)
    (importJobId : Id) (dto : RetryImportDto) :
    (retry P context importJobId dto).Obeys (AsksBase context.userId)
      (SettledView context.userId) [] := by
  unfold retry
  refine getAuthorizedJob_obeys hrole trivial (by simp [SettledView]) fun found hown => ?_
  refine Program.Obeys.throwIf_bind (fun _ => by simp [SettledView]) fun _ => ?_
  refine Program.Obeys.perform_bind trivial (fun _ => ?_) fun _ => by simp [SettledView]
  refine Program.Obeys.perform_bind trivial (fun now => ?_) fun _ => by simp [SettledView]
  refine Program.Obeys.perform_bind trivial (fun _ => ?_) fun _ => by simp [SettledView]
  refine Program.Obeys.perform_bind trivial (fun _ => ?_) fun _ => by simp [SettledView]
  refine getAuthorizedJob_obeys hrole trivial (by simp [SettledView]) fun again hagain => ?_
  rintro view ⟨⟩
  exact .of_shown again.job
    (passed_concat (passed_concat (passed_concat (passed_concat (passed_concat (passed_concat
      passed_nil hown) trivial) trivial) trivial) trivial) hagain)
    mem_extended (List.mem_singleton_self _)

theorem list_obeys {context : Context} (hrole : context.role = .operator)
    (query : ListImportsDto) :
    (list context query).Obeys (Asks context.userId)
      (fun h x => ∀ page, x = .ok page → Settled context.userId h (page.data.map ImportJobDto.id))
      [] := by
  unfold list read
  refine Program.Obeys.perform_bind ?_ (fun page => ?_) fun _ => by simp
  · simp [Asks, listWhere, hrole]
  rintro view ⟨⟩
  constructor
  · simp [Passed]
  · intro id hid
    obtain ⟨_, hshown, rfl⟩ := List.mem_map.mp hid
    obtain ⟨found, hfound, rfl⟩ := List.mem_map.mp hshown
    refine ⟨_, List.mem_singleton.mpr rfl, List.mem_append_left _ (List.mem_map.mpr ?_)⟩
    exact ⟨found.job, List.mem_map_of_mem hfound, rfl⟩

abbrev lookedUp (context : Context) (importJobId : Id) (found : JobWithUser) :
    List ReadingEvent :=
  [extendEvent ⟨.findJob importJobId context.tenantId, .ok (some found)⟩]

theorem lift_getAuthorizedJob_obeys {α : Type} {context : Context} {importJobId : Id}
    {A : List ReadingEvent → readingInterface.Command → Prop}
    {Q : List ReadingEvent → Except ServiceError α → Prop}
    {f : JobWithUser → Program readingInterface α} (hrole : context.role = .operator)
    (hcall : A [] (.inl (.findJob importJobId context.tenantId)))
    (herr : ∀ h e, Q h (.error e))
    (hok : ∀ found : JobWithUser, found.job.createdById = context.userId →
      (f found).Obeys A Q (lookedUp context importJobId found)) :
    ((getAuthorizedJob context importJobId).lift >>= f).Obeys A Q [] := by
  have hfound : (getAuthorizedJob context importJobId).Obeys
      (fun h c => A (h.map extendEvent) (.inl c))
      (fun h x => ∀ found, x = .ok found → found.job.createdById = context.userId ∧
        h.map extendEvent = lookedUp context importJobId found) [] := by
    rw [← bind_pure (getAuthorizedJob context importJobId)]
    refine getAuthorizedJob_obeys hrole hcall (by simp) fun found hown => ?_
    rintro _ ⟨⟩
    exact ⟨hown, rfl⟩
  refine (Program.Obeys.lift (Q := fun h x => ∀ found, x = .ok found →
    found.job.createdById = context.userId ∧ h = lookedUp context importJobId found)
    hfound).bind (fun h found hpassed => ?_) fun h e _ => herr h e
  obtain ⟨hown, rfl⟩ := hpassed found rfl
  exact hok found hown

theorem get_obeys {context : Context} (hrole : context.role = .operator) (importJobId : Id)
    (query : ImportRowsQueryDto) :
    (get context importJobId query).Obeys (Asks context.userId)
      (fun h x => ∀ view, x = .ok view → Settled context.userId h [view.job.id]) [] := by
  unfold get read
  refine lift_getAuthorizedJob_obeys hrole trivial (by simp) fun found hown => ?_
  refine Program.Obeys.ofExcept_bind (fun status _ => ?_) fun _ _ => by simp
  refine Program.Obeys.perform_bind ?_ (fun rows => ?_) fun _ => by simp
  · exact ⟨_, List.mem_cons_self, found.job, List.mem_singleton_self _, hown,
      .inr ⟨context.tenantId, rfl⟩⟩
  rintro view ⟨⟩
  refine .of_shown (e := extendEvent ⟨.findJob importJobId context.tenantId, .ok (some found)⟩)
    found.job ?_ List.mem_cons_self (List.mem_singleton_self _)
  exact List.forall_mem_cons.mpr ⟨hown, List.forall_mem_singleton.mpr trivial⟩

theorem errorReport_obeys {context : Context} (hrole : context.role = .operator)
    (importJobId : Id) :
    (errorReport context importJobId).Obeys (Asks context.userId)
      (fun h x => ∀ report, x = .ok report → Settled context.userId h []) [] := by
  unfold errorReport read
  refine lift_getAuthorizedJob_obeys hrole trivial (by simp) fun found hown => ?_
  refine Program.Obeys.perform_bind ?_ (fun rows => ?_) fun _ => by simp
  · exact ⟨_, List.mem_cons_self, found.job, List.mem_singleton_self _, hown, .inl rfl⟩
  refine ⟨trivial, fun recorded => ?_⟩
  cases recorded with
  | error e =>
      intro report herror
      cases herror
  | ok _ =>
      rintro report -
      refine ⟨List.forall_mem_cons.mpr ⟨hown, ?_⟩, List.forall_mem_nil _⟩
      exact List.forall_mem_cons.mpr ⟨trivial, List.forall_mem_singleton.mpr trivial⟩

theorem handleReading_obeys (P : ReadingPlatform) {r : ReadingRequest}
    (hr : r.operator = some userId) :
    (handleReading P r).Obeys (Asks userId)
      (fun h x => ∀ reply, x = .ok reply → Settled userId h reply.jobIds) [] := by
  obtain ⟨context, hcontext, rfl⟩ := Option.map_eq_some_iff.mp hr
  obtain ⟨hcaller, hrole⟩ := Option.filter_eq_some_iff.mp hcontext
  replace hrole : context.role = .operator := by simpa using hrole
  cases r with
  | base r =>
      have hbase : (handle P.toImportPlatform r).Obeys (AsksBase context.userId)
          (fun h x => ∀ reply, x = .ok reply →
            Settled context.userId (h.map extendEvent) (ReadingReply.base reply).jobIds) [] := by
        cases r with
        | create other file dto =>
            obtain rfl := Option.some.inj hcaller
            refine (create_obeys P.toImportPlatform _ file dto).map ?_ (by simp)
            rintro h view hview _ ⟨⟩
            exact hview view rfl
        | cancel other importJobId =>
            obtain rfl := Option.some.inj hcaller
            refine (cancel_obeys hrole importJobId).map ?_ (by simp)
            rintro h view hview _ ⟨⟩
            exact hview view rfl
        | retry other importJobId dto =>
            obtain rfl := Option.some.inj hcaller
            refine (retry_obeys P.toImportPlatform hrole importJobId dto).map ?_ (by simp)
            rintro h view hview _ ⟨⟩
            exact hview view rfl
        | process payload => cases hcaller
        | work => cases hcaller
      refine (Program.Obeys.lift (Q := fun h x => ∀ reply, x = .ok reply →
        Settled context.userId h (ReadingReply.base reply).jobIds) hbase).map ?_ (by simp)
      rintro h reply hreply _ ⟨⟩
      exact hreply reply rfl
  | list other query =>
      obtain rfl := Option.some.inj hcaller
      refine (list_obeys hrole query).map ?_ (by simp)
      rintro h page hpage _ ⟨⟩
      exact hpage page rfl
  | get other importJobId query =>
      obtain rfl := Option.some.inj hcaller
      refine (get_obeys hrole importJobId query).map ?_ (by simp)
      rintro h view hview _ ⟨⟩
      exact hview view rfl
  | errorReport other importJobId =>
      obtain rfl := Option.some.inj hcaller
      refine (errorReport_obeys hrole importJobId).map ?_ (by simp)
      rintro h report hreport _ ⟨⟩
      exact hreport report rfl

end Operator

/-! ## The search for a file -/

/-- The job that `create` answers with instead of a new one. -/
def latestDuplicate (s : ImportStore) (tie : Id → ℕ) (fileHash : String) (tenantId : Id)
    (type : ImportType) : Option ImportJob :=
  ((duplicates s fileHash tenantId type).insertionSort fun a b => jobLE tie a b).head?

/-- The search of an operator's `create` comes upon none but the operator's jobs. -/
def FindsOwn (c : ReadingConfig) : Action ReadingRequest ImportInput → Prop
  | .start _ => True
  | .step i input =>
      match c.threads[i]? with
      | some ⟨r, _, .call (.inl (.findDuplicate fileHash tenantId type)) _⟩ =>
          input.fault = false → ∀ userId ∈ r.operator,
            ∀ job ∈ latestDuplicate c.store input.tie fileHash tenantId type,
              job.createdById = userId
      | _ => True

/-- After a search that finds a job, nothing is left but the answer. -/
def EndsWith {α : Type} : (c : ImportCommand) →
    (Response importInterface c → Program importInterface α) → Prop
  | .findDuplicate .., k => ∀ found, ∃ reply, k (.ok (some found)) = .pure reply
  | _, _ => True

def EndsReading {α : Type} : (c : readingInterface.Command) →
    (Response readingInterface c → Program readingInterface α) → Prop
  | .inl (.findDuplicate ..), k => ∀ found, ∃ reply, k (.ok (some found)) = .pure reply
  | _, _ => True

def SearchesNothing (c : ImportCommand) : Prop :=
  ∀ fileHash tenantId type, c ≠ .findDuplicate fileHash tenantId type

theorem SearchesNothing.endsWith {α : Type} {c : ImportCommand} (hc : SearchesNothing c)
    (k : Response importInterface c → Program importInterface α) : EndsWith c k := by
  cases c with
  | findDuplicate fileHash tenantId type => exact absurd rfl (hc fileHash tenantId type)
  | _ => trivial

theorem OfWorker.searchesNothing {c : ImportCommand} (h : OfWorker c) : SearchesNothing c := by
  rintro fileHash tenantId type rfl
  obtain ⟨id, hrun⟩ := h
  exact hrun

theorem EndsWith.map {α β : Type} {f : α → β} (c : ImportCommand)
    (k : Response importInterface c → Program importInterface α) (h : EndsWith c k) :
    EndsWith c fun x => f <$> k x := by
  cases c with
  | findDuplicate fileHash tenantId type =>
      intro found
      obtain ⟨view, hview⟩ := h found
      exact ⟨f view, congrArg (fun p => f <$> p) hview⟩
  | _ => trivial

theorem create_ends (P : ImportPlatform) (context : Context) (file : Option Upload)
    (dto : CreateImportDto) : (create P context file dto).Throughout EndsWith := by
  unfold create
  refine (Program.Issues.ofExcept (P := fun _ => False) _).throughout_bind
    (fun _ _ h => h.elim) fun upload => ?_
  refine (Program.Issues.ofExcept (P := fun _ => False) _).throughout_bind
    (fun _ _ h => h.elim) fun parsed => ?_
  refine (Program.Issues.throwIf (P := fun _ => False) _ _).throughout_bind
    (fun _ _ h => h.elim) fun _ => ?_
  refine Program.Throughout.perform_bind (fun found => ⟨presentJob found, rfl⟩) fun found => ?_
  cases found with
  | some duplicate => trivial
  | none =>
      refine Program.Throughout.perform_bind trivial fun stored => ?_
      refine Program.Throughout.perform_bind trivial fun created => ?_
      refine Program.Throughout.perform_bind trivial fun _ => ?_
      exact Program.Throughout.perform_bind trivial fun _ => trivial

theorem handle_ends (P : ImportPlatform) (r : Request) : (handle P r).Throughout EndsWith := by
  cases r with
  | create context file dto => exact (create_ends P context file dto).map EndsWith.map
  | cancel context importJobId =>
      refine Program.Issues.throughout (C := SearchesNothing) ?_ fun _ k hc => hc.endsWith k
      rw [handle, Program.issues_map_iff]
      apply cancel_issues <;> intros <;> simp [SearchesNothing]
  | retry context importJobId dto =>
      refine Program.Issues.throughout (C := SearchesNothing) ?_ fun _ k hc => hc.endsWith k
      rw [handle, Program.issues_map_iff]
      apply retry_issues <;> intros <;> simp [SearchesNothing]
  | process payload =>
      refine Program.Issues.throughout (C := OfProcess) ?_ fun _ k hc =>
        hc.ofWorker.searchesNothing.endsWith k
      rw [handle, Program.issues_map_iff]
      exact process_issues P payload
  | work =>
      refine Program.Issues.throughout (C := OfWorker) ?_ fun _ k hc =>
        hc.searchesNothing.endsWith k
      rw [handle, Program.issues_map_iff]
      exact work_issues P

def ReadsOnly : readingInterface.Command → Prop
  | .inl c => SearchesNothing c
  | .inr _ => True

theorem ReadsOnly.endsReading {α : Type} {c : readingInterface.Command} (hc : ReadsOnly c)
    (k : Response readingInterface c → Program readingInterface α) : EndsReading c k := by
  rcases c with c | c
  · cases c with
    | findDuplicate fileHash tenantId type => exact absurd rfl (hc fileHash tenantId type)
    | _ => trivial
  · trivial

theorem lift_readsOnly {α : Type} {p : Program importInterface α} (hp : p.Issues SearchesNothing) :
    (p.lift : Program readingInterface α).Issues ReadsOnly := by
  refine (Program.issues_lift hp).mono ?_
  rintro _ ⟨c, rfl, hc⟩
  exact hc

theorem lookUp_readsOnly (context : Context) (importJobId : Id) :
    ((getAuthorizedJob context importJobId).lift :
      Program readingInterface JobWithUser).Issues ReadsOnly :=
  lift_readsOnly (getAuthorizedJob_issues context importJobId (by simp [SearchesNothing]))

theorem EndsWith.lift {α : Type} (c : ImportCommand)
    (k : Response importInterface c → Program importInterface α) (h : EndsWith c k) :
    @EndsReading α (.inl c) fun x => (k x).lift := by
  cases c with
  | findDuplicate fileHash tenantId type =>
      intro found
      obtain ⟨reply, hreply⟩ := h found
      exact ⟨reply, congrArg Program.lift hreply⟩
  | _ => trivial

theorem EndsReading.map {α β : Type} {f : α → β} (c : readingInterface.Command)
    (k : Response readingInterface c → Program readingInterface α) (h : EndsReading c k) :
    EndsReading c fun x => f <$> k x := by
  rcases c with c | c
  · cases c with
    | findDuplicate fileHash tenantId type =>
        intro found
        obtain ⟨reply, hreply⟩ := h found
        exact ⟨f reply, congrArg (fun p => f <$> p) hreply⟩
    | _ => trivial
  · trivial

theorem handleReading_ends (P : ReadingPlatform) (r : ReadingRequest) :
    (handleReading P r).Throughout EndsReading := by
  cases r with
  | base r =>
      exact ((handle_ends P.toImportPlatform r).lift EndsWith.lift).map EndsReading.map
  | list context query =>
      refine Program.Issues.throughout (C := ReadsOnly) ?_ fun _ k hc => hc.endsReading k
      rw [handleReading, Program.issues_map_iff]
      exact (Program.Issues.perform trivial).bind fun _ => trivial
  | get context importJobId query =>
      refine Program.Issues.throughout (C := ReadsOnly) ?_ fun _ k hc => hc.endsReading k
      rw [handleReading, Program.issues_map_iff]
      refine (lookUp_readsOnly context importJobId).bind fun found => ?_
      refine (Program.Issues.ofExcept _).bind fun status => ?_
      exact (Program.Issues.perform trivial).bind fun _ => trivial
  | errorReport context importJobId =>
      refine Program.Issues.throughout (C := ReadsOnly) ?_ fun _ k hc => hc.endsReading k
      rw [handleReading, Program.issues_map_iff]
      refine (lookUp_readsOnly context importJobId).bind fun found => ?_
      refine (Program.Issues.perform trivial).bind fun rows => ?_
      refine (lift_readsOnly (Program.Issues.perform ?_)).bind fun _ => trivial
      simp [SearchesNothing]

/-! ## The runs -/

/-- Every job that the reply to an operator names, and every other job with data in
the answers it was made from, is one that the operator created. -/
def ReceivesOwn (c : ReadingConfig) : Prop :=
  ∀ t ∈ c.threads, ∀ userId ∈ t.request.operator, ∀ reply ∈ t.program.value?,
    ∀ id ∈ reply.jobIds ++ t.history.flatMap jobIds, Owns c.store userId id

instance (c : ReadingConfig) : Decidable (ReceivesOwn c) := by
  unfold ReceivesOwn
  infer_instance

def AsksOf (r : ReadingRequest) (h : List ReadingEvent) (c : readingInterface.Command) : Prop :=
  ∀ userId, r.operator = some userId → Asks userId h c

def SettledOf (r : ReadingRequest) (h : List ReadingEvent)
    (x : Except ServiceError ReadingReply) : Prop :=
  ∀ userId, r.operator = some userId → ∀ reply, x = .ok reply → Settled userId h reply.jobIds

/-- The search for a file, when it found a job, found one of the user's. -/
def FoundOwn (userId : Id) : ReadingEvent → Prop
  | ⟨.inl (.findDuplicate ..), .ok (some found)⟩ => found.job.createdById = userId
  | _ => True

/-- What the condition on the searches keeps. -/
structure Watched (c : ReadingConfig) : Prop where
  obeys : c.Obeying AsksOf SettledOf
  asked : c.ObeyedBefore AsksOf
  backed : c.Knowing Backed
  ends : ∀ t ∈ c.threads, t.program.Throughout EndsReading
  own : ∀ t ∈ c.threads, ∀ userId, t.request.operator = some userId →
    ∀ e ∈ t.history, FoundOwn userId e

section Runs

variable {P : ReadingPlatform}

theorem watched_initial (s : ImportStore) : Watched (Config.initial s) where
  obeys := Config.obeying_initial AsksOf SettledOf s
  asked := Config.obeyedBefore_initial AsksOf s
  backed := Config.knowing_initial Backed s
  ends := by simp [Config.initial]
  own := by simp [Config.initial]

theorem Allowed.append {userId : Id} {h : List ReadingEvent} {id : Id}
    (hallowed : Allowed userId h id) (rest : List ReadingEvent) :
    Allowed userId (h ++ rest) id := by
  obtain ⟨e, he, hrest⟩ := hallowed
  exact ⟨e, List.mem_append_left _ he, hrest⟩

theorem Allowed.owns {userId id : Id} {s : ImportStore} {h : List ReadingEvent}
    (hallowed : Allowed userId h id) (hbacked : ∀ e ∈ h, Backed s e) : Owns s userId id := by
  obtain ⟨e, he, job, hjob, rfl, hid | ⟨tenantId, hfind⟩⟩ := hallowed
  · rw [← hid]
    exact (hbacked e he).stored job hjob
  · obtain ⟨asked, x⟩ := e
    obtain rfl := hfind
    have hid : job.id = id := (hbacked _ he).fits job hjob
    rw [← hid]
    exact (hbacked _ he).stored job hjob

theorem owns_of_event {userId id : Id} {s : ImportStore} {h : List ReadingEvent}
    {e : ReadingEvent} (he : e ∈ h) (hbacked : ∀ e ∈ h, Backed s e)
    (hasked : ∀ before e after, h = before ++ e :: after → Asks userId before e.1)
    (hpassed : Passed userId e) (hfound : FoundOwn userId e) (hid : id ∈ jobIds e) :
    Owns s userId id := by
  obtain ⟨before, after, rfl⟩ := List.mem_iff_append.mp he
  have hasks := hasked before e after rfl
  have hb := hbacked e he
  have hjobs : ∀ job ∈ jobsIn e, job.createdById = userId → job.id = id → Owns s userId id := by
    rintro job hjob rfl rfl
    exact hb.stored job hjob
  have hallowed : ∀ other, Allowed userId before other → Owns s userId other := fun other hother =>
    hother.owns fun e' he' => hbacked e' (List.mem_append_left _ he')
  rcases List.mem_append.mp hid with hid | hid
  · obtain ⟨job, hjob, hjobid⟩ := List.mem_map.mp hid
    obtain ⟨c, x⟩ := e
    rcases c with c | c
    · cases c with
      | findDuplicate fileHash tenantId type =>
          cases x with
          | error e => cases hjob
          | ok found =>
              cases found with
              | none => cases hjob
              | some found =>
                  obtain rfl := List.mem_singleton.mp hjob
                  exact hjobs _ hjob hfound hjobid
      | createJob data => exact hjobs job hjob ((hb.fits job hjob).trans hasks) hjobid
      | findJob other tenantId =>
          cases x with
          | error e => cases hjob
          | ok found =>
              cases found with
              | none => cases hjob
              | some found =>
                  obtain rfl := List.mem_singleton.mp hjob
                  exact hjobs _ hjob hpassed hjobid
      | updateJob other patch =>
          have hsame : job.id = other := hb.fits job hjob
          rw [← hjobid, hsame]
          exact hallowed other hasks
      | _ => cases hjob
    · cases c with
      | findPage filter skip take => exact hjobs job hjob (hb.fits job hjob userId hasks) hjobid
      | _ => cases hjob
  · obtain ⟨row, hrow, rfl⟩ := List.mem_map.mp hid
    obtain ⟨c, x⟩ := e
    rcases c with c | c
    · cases c <;> cases hrow
    · cases c with
      | findPage filter skip take => cases hrow
      | findRowPage filter skip take =>
          have hsame : row.importJobId = filter.importJobId := hb.fits row hrow
          rw [hsame]
          exact hallowed _ hasks
      | findRows filter take =>
          have hsame : row.importJobId = filter.importJobId := hb.fits row hrow
          rw [hsame]
          exact hallowed _ hasks

theorem Watched.receivesOwn {c : ReadingConfig} (hc : Watched c) : ReceivesOwn c := by
  intro t ht userId hoperator reply hreply id hid
  have hsettled : Settled userId t.history reply.jobIds := by
    have hobeys := hc.obeys t ht
    rw [Program.value?_eq_some_iff.mp hreply] at hobeys
    exact hobeys userId hoperator reply rfl
  have hevents : ∀ e ∈ t.history, ∀ id ∈ jobIds e, Owns c.store userId id := fun e he id hid =>
    owns_of_event he (hc.backed t ht)
      (fun before e after h => hc.asked t ht before e after h userId hoperator)
      (hsettled.passed e he) (hc.own t ht userId hoperator e he) hid
  rcases List.mem_append.mp hid with hid | hid
  · obtain ⟨e, he, hshown⟩ := hsettled.named id hid
    exact hevents e he id hshown
  · obtain ⟨e, he, hshown⟩ := List.mem_flatMap.mp hid
    exact hevents e he id hshown

theorem backend_findDuplicate (fileHash : String) (tenantId : Id) (type : ImportType)
    (i : ImportInput) (s : ImportStore) :
    (readingSystem P).backend (.inl (.findDuplicate fileHash tenantId type)) i s =
      (if i.fault then .error .fault
        else .ok ((latestDuplicate s i.tie fileHash tenantId type).map (withUser s)), s) := by
  change execute P.toImportPlatform (.findDuplicate fileHash tenantId type) i s = _
  dsimp only [execute]
  split <;> rfl

theorem foundOwn_next {c : ReadingConfig} {i : ℕ} {input : ImportInput} {r : ReadingRequest}
    {h : List ReadingEvent} {cmd : readingInterface.Command}
    {k : Response readingInterface cmd → Program readingInterface ReadingReply}
    (hi : c.threads[i]? = some ⟨r, h, .call cmd k⟩) (hown : FindsOwn c (.step i input))
    {userId : Id} (hoperator : r.operator = some userId) :
    FoundOwn userId ⟨cmd, ((readingSystem P).backend cmd input c.store).1⟩ := by
  rcases cmd with cmd | cmd
  · cases cmd with
    | findDuplicate fileHash tenantId type =>
        rw [backend_findDuplicate]
        simp only [FindsOwn, hi] at hown
        cases hfault : input.fault with
        | true => trivial
        | false =>
            have hlatest := hown hfault userId hoperator
            cases hjob : latestDuplicate c.store input.tie fileHash tenantId type with
            | none => trivial
            | some job => exact hlatest job hjob
    | _ => trivial
  · trivial

theorem watched_next (c : ReadingConfig) (a : Action ReadingRequest ImportInput)
    (hc : Watched c) (hown : FindsOwn c a) : Watched ((readingSystem P).next c a) where
  obeys := by
    refine (readingSystem P).obeying_next (fun r => ?_) c a hc.obeys
    cases hoperator : r.operator with
    | none =>
        refine ((Program.issues_true (handleReading P r)).obeys_each (P := fun _ _ => True)
          (fun _ _ _ => trivial) []).mono ?_ ?_
        · intro h c _ userId huser
          rw [hoperator] at huser
          cases huser
        · intro h x _ userId huser
          rw [hoperator] at huser
          cases huser
    | some userId =>
        refine (handleReading_obeys P hoperator).mono ?_ ?_
        · intro h c hasks other hother
          obtain rfl := Option.some.inj (hoperator.symm.trans hother)
          exact hasks
        · intro h x hsettled other hother
          obtain rfl := Option.some.inj (hoperator.symm.trans hother)
          exact hsettled
  asked := (readingSystem P).obeyedBefore_next c a hc.obeys hc.asked
  backed :=
    (readingSystem P).knowing_next (P := fun _ _ _ => True)
      (fun cmd i s _ => backed_give cmd i s) (fun cmd i _ _ _ h => h.next cmd i) c a hc.backed
      (callCondition_true c a)
  ends := (readingSystem P).throughout_next (handleReading_ends P) c a hc.ends
  own := by
    intro t ht userId hoperator e he
    obtain ⟨r, rfl, hn⟩ | ⟨i, input, r, h, cmd, k, rfl, hi, -, hn⟩ | ⟨hn, -⟩ :=
      (readingSystem P).next_cases c a
    · rw [hn] at ht
      rcases List.mem_append.mp ht with ht | ht
      · exact hc.own t ht userId hoperator e he
      · obtain rfl := List.mem_singleton.mp ht
        cases he
    · rw [hn] at ht
      rcases List.mem_or_eq_of_mem_set ht with ht | rfl
      · exact hc.own t ht userId hoperator e he
      · rcases List.mem_append.mp he with he | he
        · exact hc.own _ (List.mem_of_getElem? hi) userId hoperator e he
        · obtain rfl := List.mem_singleton.mp he
          exact foundOwn_next hi hown hoperator
    · exact hc.own t (hn ▸ ht) userId hoperator e he

/-- A job of another user that is found for the file is what is answered. -/
theorem findsOwn_of_receivesOwn {c : ReadingConfig} {a : Action ReadingRequest ImportInput}
    (hc : Watched c) (hreceives : ReceivesOwn ((readingSystem P).next c a)) : FindsOwn c a := by
  cases a with
  | start r => trivial
  | step i input =>
      unfold FindsOwn
      dsimp only
      split
      · next r h fileHash tenantId type k hi =>
        intro hfault userId hoperator job hjob
        have hstored : job ∈ c.store.importJobs.rows := by
          have hmem := (List.mem_insertionSort _).mp (List.mem_of_mem_head? hjob)
          exact (List.mem_filter.mp hmem).1
        have hanswer : (readingSystem P).backend (.inl (.findDuplicate fileHash tenantId type))
            input c.store = (.ok (some (withUser c.store job)), c.store) := by
          rw [backend_findDuplicate, hfault, Option.mem_def.mp hjob]
          rfl
        obtain ⟨reply, hreply⟩ := (hc.ends _ (List.mem_of_getElem? hi)).1 (withUser c.store job)
        have hn : (readingSystem P).next c (.step i input) = ⟨c.store, c.threads.set i
            (Thread.resume r h (.inl (.findDuplicate fileHash tenantId type)) k
              (.ok (some (withUser c.store job))))⟩ := by
          simp only [System.next, hi]
          rw [hanswer]
        rw [hn] at hreceives
        have hlt := (List.getElem?_eq_some_iff.mp hi).1
        obtain ⟨other, hother, hid, hcreator⟩ := hreceives _
          (List.mem_of_getElem? (List.getElem?_set_self hlt)) userId hoperator reply
          (Program.value?_eq_some_iff.mpr hreply) job.id
          (List.mem_append_right _ (List.mem_flatMap.mpr
            ⟨⟨.inl (.findDuplicate fileHash tenantId type), .ok (some (withUser c.store job))⟩,
              List.mem_append_right _ (List.mem_singleton.mpr rfl),
              by simp [jobIds, jobsIn, withUser]⟩))
        rw [← eq_of_job_id hother hstored hid]
        exact hcreator
      · trivial

end Runs

/-- Operators receive no jobs but their own throughout a run exactly when no search
of theirs for a file finds a job of another user. -/
theorem operators_receive_their_own (P : ReadingPlatform) (s : ImportStore)
    (acts : List (Action ReadingRequest ImportInput)) :
    (readingSystem P).AlongActions FindsOwn (Config.initial s) acts ↔
      (readingSystem P).AlongActions (fun c a => ReceivesOwn ((readingSystem P).next c a))
        (Config.initial s) acts :=
  (readingSystem P).alongActions_iff (J := Watched) watched_next
    (fun c a hc => ⟨fun hown => (watched_next c a hc hown).receivesOwn,
      findsOwn_of_receivesOwn hc⟩) acts _ (watched_initial s)

def plainReading : ReadingPlatform where
  toImportPlatform := plainPlatform
  collationLE := fun a b => a ≤ b
  contains := fun text part => part.toList <:+: text.toList

/-- One operator imports a file; another one uploads the same file and is answered
with the job of the first. -/
theorem an_operator_receives_a_job_of_another :
    ¬ReceivesOwn ((readingSystem plainReading).runActions (Config.initial .empty)
      (.start (.base (.create ⟨.operator, "tenant", "ana"⟩ (some plainUpload) plainDto)) ::
        (List.range 5).map (fun n => .step 0 (plainInput n)) ++
        [.start (.base (.create ⟨.operator, "tenant", "bia"⟩ (some plainUpload) plainDto)),
          .step 1 (plainInput 5)])) := by
  decide +kernel

end Logistics.Imports
