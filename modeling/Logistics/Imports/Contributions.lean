import Logistics.Imports.Cancellation
import Logistics.Imports.Redelivery

/-!
# What a worker contributes

A worker stores one result after the other and keeps the counts in variables of its
own. What it stores and counts follows from its own calls: the results come in the
order of the rows, and the counts are those of the results it has stored itself,
whoever else stores results of the job.
-/

namespace Logistics.Imports

open Logistics.Library

/-! ## The results a thread has stored -/

/-- The row and the outcome of a result of the job that was stored. -/
def recordOf (id : Id) : Event importInterface → Option (ℕ × ImportRowStatus)
  | ⟨.createRowResult data, .ok _⟩ =>
      if data.importJobId = id then some (data.rowNumber, data.result.status) else none
  | _ => none

/-- The results of the job that a thread has stored. -/
def recordedOf (id : Id) (h : List (Event importInterface)) : List (ℕ × ImportRowStatus) :=
  h.filterMap (recordOf id)

/-- The call stores a result of the job or writes its counts. -/
def Contributes (id : Id) : ImportCommand → Prop
  | .createRowResult data => data.importJobId = id
  | .updateJob other (.progress ..) => other = id
  | .updateJob other (.finish ..) => other = id
  | _ => False

/-- A job was found, and its file was read and parsed. -/
def FromFile (P : ImportPlatform) (h : List (Event importInterface)) (id tenantId : Id)
    (parsed : ParsedImportFile) : Prop :=
  ∃ asked key buffer, ∃ found : JobWithUser,
    (⟨.findJob asked tenantId, .ok (some found)⟩ : Event importInterface) ∈ h ∧
      found.job.id = id ∧ found.job.storedFilename = some key ∧
      (⟨.readFile tenantId key, .ok buffer⟩ : Event importInterface) ∈ h ∧
      parse P buffer found.job.filename = .ok parsed

/-- These rows are left of the file, the others have their results and are counted,
and the job is not finished. -/
structure Through (P : ImportPlatform) (h : List (Event importInterface)) (id tenantId : Id)
    (rest : List ℕ) (counts : RowCounts) : Prop where
  file : ∃ parsed, FromFile P h id tenantId parsed ∧
    parsed.rows.map ParsedImportRow.rowNumber = (recordedOf id h).map Prod.fst ++ rest
  counts : counts = tally ((recordedOf id h).map Prod.snd)
  unfinished : ∀ e ∈ h, ¬Finishes id e.1

/-- What is known of a call from the earlier calls of its thread. -/
def InOrder (P : ImportPlatform) (h : List (Event importInterface)) : ImportCommand → Prop
  | .createRowResult data => ∃ rest counts,
      Through P h data.importJobId data.tenantId (data.rowNumber :: rest) counts
  | .updateJob id (.progress ..) => recordedOf id h ≠ [] ∧ ∀ e ∈ h, ¬Finishes id e.1
  | .updateJob id (.finish counts ..) => ∃ tenantId, Through P h id tenantId [] counts
  | _ => True

/-- Of such a call nothing has to be known. -/
def Apart (c : ImportCommand) : Prop := ∀ id, ¬Contributes id c

theorem Apart.inOrder {P : ImportPlatform} {c : ImportCommand} (hc : Apart c)
    (h : List (Event importInterface)) : InOrder P h c := by
  unfold InOrder
  split
  · exact absurd rfl (hc _)
  · exact absurd rfl (hc _)
  · exact absurd rfl (hc _)
  · trivial

theorem Stopping.apart {c : ImportCommand} (hc : Stopping c) : Apart c := by
  intro id hcontributes
  unfold Contributes at hcontributes
  split at hcontributes <;> first | exact hc | exact hcontributes

theorem OfUser.apart {c : ImportCommand} (hc : OfUser c) : Apart c := by
  intro id hcontributes
  unfold Contributes at hcontributes
  split at hcontributes
  · exact hc
  · cases hc
  · cases hc
  · exact hcontributes

theorem Finishes.contributes {id : Id} {c : ImportCommand} (hc : Finishes id c) :
    Contributes id c := by
  unfold Finishes at hc
  split at hc
  · exact hc
  · exact hc.elim

theorem recordedOf_append (id : Id) (h h' : List (Event importInterface)) :
    recordedOf id (h ++ h') = recordedOf id h ++ recordedOf id h' :=
  List.filterMap_append

theorem recordedOf_append_none {id : Id} {h : List (Event importInterface)}
    {e : Event importInterface} (he : recordOf id e = none) :
    recordedOf id (h ++ [e]) = recordedOf id h := by
  have hnone : recordedOf id [e] = [] := by
    rw [recordedOf, List.filterMap_cons_none he, List.filterMap_nil]
  rw [recordedOf_append, hnone, List.append_nil]

theorem recordOf_eq_none {id : Id} {e : Event importInterface} (he : ¬Contributes id e.1) :
    recordOf id e = none := by
  unfold recordOf
  split
  · exact if_neg he
  · rfl

theorem FromFile.append {P : ImportPlatform} {h : List (Event importInterface)} {id tenantId : Id}
    {parsed : ParsedImportFile} (hfile : FromFile P h id tenantId parsed)
    (e : Event importInterface) : FromFile P (h ++ [e]) id tenantId parsed := by
  obtain ⟨asked, key, buffer, found, hfound, hid, hkey, hread, hparse⟩ := hfile
  exact ⟨asked, key, buffer, found, List.mem_append_left _ hfound, hid, hkey,
    List.mem_append_left _ hread, hparse⟩

section Through

variable {P : ImportPlatform} {h : List (Event importInterface)} {id tenantId : Id}
  {rest : List ℕ} {counts : RowCounts}

theorem Through.append (hs : Through P h id tenantId rest counts) {e : Event importInterface}
    (hrecord : recordOf id e = none) (hfinish : ¬Finishes id e.1) :
    Through P (h ++ [e]) id tenantId rest counts := by
  obtain ⟨⟨parsed, hfile, hrows⟩, hcounts, hunfinished⟩ := hs
  refine ⟨⟨parsed, hfile.append e, ?_⟩, ?_, fun e' he' => ?_⟩
  · rw [recordedOf_append_none hrecord]
    exact hrows
  · rw [recordedOf_append_none hrecord]
    exact hcounts
  · rcases List.mem_append.mp he' with he' | he'
    · exact hunfinished e' he'
    · obtain rfl := List.mem_singleton.mp he'
      exact hfinish

theorem Through.append_apart (hs : Through P h id tenantId rest counts)
    {e : Event importInterface} (he : Apart e.1) : Through P (h ++ [e]) id tenantId rest counts :=
  hs.append (recordOf_eq_none (he id)) fun hfinish => he id hfinish.contributes

theorem Through.record {rowNumber : ℕ}
    (hs : Through P h id tenantId (rowNumber :: rest) counts) (result : ImportRowProcessResult)
    (u : Unit) :
    Through P (h ++ [⟨.createRowResult ⟨id, rowNumber, tenantId, result⟩, .ok u⟩]) id tenantId
      rest (counts.add result.status) := by
  obtain ⟨⟨parsed, hfile, hrows⟩, hcounts, hunfinished⟩ := hs
  have hrecorded : recordedOf id
      [⟨.createRowResult ⟨id, rowNumber, tenantId, result⟩, .ok u⟩] =
        [(rowNumber, result.status)] := by
    simp [recordedOf, recordOf]
  refine ⟨⟨parsed, hfile.append _, ?_⟩, ?_, fun e he => ?_⟩
  · rw [recordedOf_append, hrecorded, hrows]
    simp
  · rw [recordedOf_append, hrecorded, List.map_append, hcounts]
    exact (tally_append_singleton _ _).symm
  · rcases List.mem_append.mp he with he | he
    · exact hunfinished e he
    · obtain rfl := List.mem_singleton.mp he
      exact fun hfinish => hfinish

end Through

/-! ## The programs -/

section Programs

variable (P : ImportPlatform) (payload : ImportQueuePayload) (job : ImportJob)

theorem emit_through {h : List (Event importInterface)} {id : Id} {rest : List ℕ}
    {counts : RowCounts} (hs : Through P h id payload.tenantId rest counts)
    (event : ImportProgressEventDto) :
    (emit payload.tenantId payload.userId event).Obeys (InOrder P)
      (fun h' _ => Through P h' id payload.tenantId rest counts) h :=
  (emit_stopping _ _ _).obeys_growing (fun _ hc h _ => hc.apart.inOrder h)
    (fun _ _ hc hs => hs.append_apart hc.apart) hs

theorem processRows_inOrder (totalRows : ℕ) (rows : List ParsedImportRow)
    {h : List (Event importInterface)} {counts : RowCounts}
    (hs : Through P h job.id payload.tenantId (rows.map ParsedImportRow.rowNumber) counts) :
    (processRows P payload job totalRows rows counts).Obeys (InOrder P)
      (fun h' x => ∀ counts', x = .ok (some counts') →
        Through P h' job.id payload.tenantId [] counts') h := by
  induction rows generalizing h counts with
  | nil =>
      rintro counts' heq
      cases heq
      exact hs
  | cons row rest ih =>
      unfold processRows
      refine Program.Obeys.perform_bind trivial (fun current => ?_) fun e counts' heq => by
        cases heq
      have hlooked := hs.append_apart (e := ⟨.findStatus job.id, .ok current⟩) fun _ hc => hc
      split
      · refine (emit_through P payload hlooked _).bind (fun h' _ _ counts' heq => ?_)
          fun h' e _ counts' heq => ?_
        · cases heq
        · cases heq
      · refine Program.Obeys.perform_bind trivial (fun result => ?_) fun e counts' heq => by
          cases heq
        have hpassed := hlooked.append_apart (e := ⟨.processRow _, .ok result⟩) fun _ hc => hc
        refine Program.Obeys.perform_bind ⟨_, _, hpassed⟩ (fun u => ?_) fun e counts' heq => by
          cases heq
        have hstored := hpassed.record result u
        refine Program.Obeys.perform_bind ⟨?_, hstored.unfinished⟩ (fun updated => ?_)
          fun e counts' heq => by cases heq
        · rw [recordedOf_append]
          simp [recordedOf, recordOf]
        · refine (emit_through P payload
            (hstored.append (e := ⟨.updateJob job.id (.progress _ _ _), .ok updated⟩) rfl
              fun hc => hc) _).bind (fun h' _ hs' => ih hs') fun h' e _ counts' heq => ?_
          cases heq

theorem finish_inOrder (totalRows : ℕ) {h : List (Event importInterface)} {counts : RowCounts}
    (hs : Through P h job.id payload.tenantId [] counts) :
    (finish P payload job totalRows counts).Obeys (InOrder P) (fun _ _ => True) h := by
  unfold finish
  refine Program.Obeys.perform_bind ⟨_, hs⟩ (fun _ => ?_) fun _ => trivial
  refine Program.Obeys.perform_bind trivial (fun _ => ?_) fun _ => trivial
  exact (emit_stopping _ _ _).obeys_each (fun _ hc h => hc.apart.inOrder h) _

/-- The job was found, and none of its results is stored yet. -/
structure Opened (h : List (Event importInterface)) (id tenantId : Id) (found : JobWithUser) :
    Prop where
  found : ∃ asked, (⟨.findJob asked tenantId, .ok (some found)⟩ : Event importInterface) ∈ h
  none : recordedOf id h = []
  unfinished : ∀ e ∈ h, ¬Finishes id e.1

theorem Opened.append {h : List (Event importInterface)} {id tenantId : Id} {found : JobWithUser}
    (hs : Opened h id tenantId found) {e : Event importInterface} (he : Apart e.1) :
    Opened (h ++ [e]) id tenantId found := by
  obtain ⟨⟨asked, hfound⟩, hnone, hunfinished⟩ := hs
  refine ⟨⟨asked, List.mem_append_left _ hfound⟩, ?_, fun e' he' => ?_⟩
  · rw [recordedOf_append_none (recordOf_eq_none (he id))]
    exact hnone
  · rcases List.mem_append.mp he' with he' | he'
    · exact hunfinished e' he'
    · obtain rfl := List.mem_singleton.mp he'
      exact fun hfinish => he id hfinish.contributes

theorem processFile_inOrder {storedFilename : String} {h : List (Event importInterface)}
    {found : JobWithUser} (hs : Opened h found.job.id payload.tenantId found)
    (hstored : found.job.storedFilename = some storedFilename) :
    (processFile P payload found.job storedFilename).Obeys (InOrder P) (fun _ _ => True) h := by
  unfold processFile
  refine Program.Obeys.perform_bind trivial (fun buffer => ?_) fun _ => trivial
  have hread := hs.append (e := ⟨.readFile payload.tenantId storedFilename, .ok buffer⟩)
    fun _ hc => hc
  refine Program.Obeys.ofExcept_bind (fun parsed hparsed => ?_) fun _ _ => trivial
  obtain ⟨asked, hfound⟩ := hread.found
  have hfile : FromFile P (h ++ [⟨.readFile payload.tenantId storedFilename, .ok buffer⟩])
      found.job.id payload.tenantId parsed :=
    ⟨asked, storedFilename, buffer, found, hfound, rfl, hstored,
      List.mem_append_right _ (List.mem_singleton.mpr rfl), hparsed⟩
  have hstart : Through P (h ++ [⟨.readFile payload.tenantId storedFilename, .ok buffer⟩])
      found.job.id payload.tenantId (parsed.rows.map ParsedImportRow.rowNumber) .zero := by
    refine ⟨⟨parsed, hfile, ?_⟩, ?_, hread.unfinished⟩
    · rw [hread.none]
      rfl
    · rw [hread.none]
      rfl
  refine (processRows_inOrder P payload found.job _ parsed.rows hstart).bind
    (fun h' counts hcounts => ?_) fun _ _ _ => trivial
  cases counts with
  | none => trivial
  | some counts => exact finish_inOrder P payload found.job _ (hcounts counts rfl)

theorem processJob_inOrder {storedFilename : String} {h : List (Event importInterface)}
    {found : JobWithUser} (hs : Opened h found.job.id payload.tenantId found)
    (hstored : found.job.storedFilename = some storedFilename) :
    (processJob P payload found.job storedFilename).Obeys (InOrder P) (fun _ _ => True) h := by
  unfold processJob
  refine Program.Obeys.perform_bind trivial (fun updated => ?_) fun _ => trivial
  refine Program.Obeys.perform_bind trivial (fun u => ?_) fun _ => trivial
  have hstarted := (hs.append (e := ⟨.updateJob found.job.id .start, .ok updated⟩)
    fun _ hc => hc).append (e := ⟨.recordAudit _, .ok u⟩) fun _ hc => hc
  have hemit : (emit payload.tenantId payload.userId
      (eventPayload P found.job .processing found.job.totalRows .zero)).Obeys (InOrder P)
      (fun h' _ => Opened h' found.job.id payload.tenantId found) _ :=
    (emit_stopping _ _ _).obeys_growing (fun _ hc h _ => hc.apart.inOrder h)
      (fun _ _ hc hs => hs.append hc.apart) hstarted
  refine hemit.bind (fun h' _ hs' => ?_) fun _ _ _ => trivial
  refine (processFile_inOrder P payload hs' hstored).tryCatch (fun _ _ _ => trivial)
    fun h' e _ => ?_
  exact (failJob_stopping P payload found.job e).obeys_each (fun _ hc h => hc.apart.inOrder h) h'

theorem process_inOrder {h : List (Event importInterface)} (hnew : ∀ e ∈ h, Apart e.1) :
    (process P payload).Obeys (InOrder P) (fun _ _ => True) h := by
  unfold process
  refine Program.Obeys.perform_bind trivial (fun found => ?_) fun _ => trivial
  cases found with
  | none => trivial
  | some found =>
      dsimp only
      split
      · trivial
      · next storedFilename hstored =>
        refine processJob_inOrder P payload ⟨⟨payload.importJobId, ?_⟩, ?_, fun e he => ?_⟩
          (Option.filter_eq_some_iff.mp hstored).1
        · exact List.mem_append_right _ (List.mem_singleton.mpr rfl)
        · refine List.filterMap_eq_nil_iff.mpr fun e he => ?_
          rcases List.mem_append.mp he with he | he
          · exact recordOf_eq_none (hnew e he _)
          · obtain rfl := List.mem_singleton.mp he
            rfl
        · rcases List.mem_append.mp he with he | he
          · exact fun hfinish => hnew e he _ hfinish.contributes
          · obtain rfl := List.mem_singleton.mp he
            exact fun hfinish => hfinish

theorem work_inOrder : (work P).Obeys (InOrder P) (fun _ _ => True) [] := by
  unfold work
  refine Program.Obeys.perform_bind trivial (fun taken => ?_) fun _ => trivial
  cases taken with
  | none => trivial
  | some job =>
      refine (process_inOrder P job.payload fun e he => ?_).tryCatch (fun _ _ _ => trivial)
        fun h e _ => ⟨trivial, fun x => by cases x <;> trivial⟩
      obtain rfl := List.mem_singleton.mp he
      exact fun _ hc => hc

theorem handle_inOrder (r : Request) :
    (handle P r).Obeys (InOrder P) (fun _ _ => True) [] := by
  cases r with
  | process payload =>
      exact (process_inOrder P payload (h := []) (by simp)).map (fun _ _ _ => trivial)
        fun _ _ _ => trivial
  | work => exact (work_inOrder P).map (fun _ _ _ => trivial) fun _ _ _ => trivial
  | _ =>
      exact (handle_ofUser P rfl).obeys_each (fun _ hc h => hc.apart.inOrder h) []

end Programs

/-! ## After a finish -/

/-- A thread that has written the final counts of a job contributes nothing more to
it. -/
theorem InOrder.issues_of_finished {P : ImportPlatform} {id : Id} {α : Type}
    {Q : List (Event importInterface) → Except ServiceError α → Prop}
    {p : Program importInterface α} {h : List (Event importInterface)}
    (hp : p.Obeys (InOrder P) Q h) (hfinished : ∃ e ∈ h, Finishes id e.1) :
    p.Issues fun c => ¬Contributes id c := by
  induction p generalizing h with
  | pure a => trivial
  | throw e => trivial
  | call c k ih =>
      obtain ⟨e, he, hfinish⟩ := hfinished
      refine ⟨fun hc => ?_, fun x => ih x (hp.2 x) ⟨e, List.mem_append_left _ he, hfinish⟩⟩
      have hin := hp.1
      unfold Contributes at hc
      split at hc
      · obtain rfl := hc
        obtain ⟨_, _, hs⟩ := hin
        exact hs.unfinished e he hfinish
      · obtain rfl := hc
        exact hin.2 e he hfinish
      · obtain rfl := hc
        obtain ⟨_, hs⟩ := hin
        exact hs.unfinished e he hfinish
      · exact hc

end Logistics.Imports
