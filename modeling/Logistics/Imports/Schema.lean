import Logistics.Schema.Store

/-!
# Import jobs and their rows

The tables of imports with their unique keys, the stored files, and the queue
that hands the jobs to the workers. Workers change the rows of customers and
carriers through their handlers; those tables are not among these.
-/

namespace Logistics.Imports

open Logistics.Library

abbrev Buffer : Type := List UInt8

inductive ImportDuplicateStrategy
  | skip | update | fail
  deriving DecidableEq, Repr

/-- How many rows were processed, in all and by their outcome. -/
structure RowCounts where
  processedRows : ℕ
  successRows : ℕ
  errorRows : ℕ
  skippedRows : ℕ
  deriving DecidableEq, Repr

def RowCounts.zero : RowCounts := ⟨0, 0, 0, 0⟩

def RowCounts.add (counts : RowCounts) : ImportRowStatus → RowCounts
  | .success => ⟨counts.processedRows + 1, counts.successRows + 1, counts.errorRows,
      counts.skippedRows⟩
  | .error => ⟨counts.processedRows + 1, counts.successRows, counts.errorRows + 1,
      counts.skippedRows⟩
  | .skipped => ⟨counts.processedRows + 1, counts.successRows, counts.errorRows,
      counts.skippedRows + 1⟩

structure ImportUser where
  id : Id
  email : String
  name : String
  deriving DecidableEq

structure ImportJob where
  id : Id
  tenantId : Id
  createdById : Id
  type : ImportType
  filename : String
  fileType : String
  storedFilename : Option String
  mimeType : Option String
  sizeBytes : ℕ
  fileHash : Option String
  status : ImportStatus
  totalRows : ℕ
  /-- The four columns that count rows. -/
  counts : RowCounts
  progress : ℕ
  mapping : List (String × String)
  /-- The strategy in the options, if they hold one. -/
  duplicateStrategy : Option ImportDuplicateStrategy
  startedAt : Option Time
  finishedAt : Option Time
  failureReason : Option String
  createdAt : Time
  updatedAt : Time
  deriving DecidableEq

structure ImportRowResult where
  id : Id
  tenantId : Id
  importJobId : Id
  rowNumber : ℕ
  status : ImportRowStatus
  externalReference : Option String
  normalizedData : Option (List (String × String))
  errorCode : Option String
  errorMessage : Option String
  createdResourceId : Option Id
  createdAt : Time
  deriving DecidableEq

inductive RowResultKey
  | id (id : Id)
  | row (tenantId importJobId : Id) (rowNumber : ℕ)
  deriving DecidableEq

def ImportRowResult.keys (row : ImportRowResult) : List RowResultKey :=
  [.id row.id, .row row.tenantId row.importJobId row.rowNumber]

structure ImportFile where
  tenantId : Id
  key : String
  buffer : Buffer
  deriving DecidableEq

structure ImportQueuePayload where
  importJobId : Id
  tenantId : Id
  userId : Id
  deriving DecidableEq

/-- A job of the queue: a delivery that waits for a worker. -/
structure QueuedJob where
  jobId : String
  payload : ImportQueuePayload
  attemptsMade : ℕ
  deriving DecidableEq

structure ImportStore where
  users : IdTable ImportUser ImportUser.id
  importJobs : IdTable ImportJob ImportJob.id
  importRowResults : Table ImportRowResult RowResultKey ImportRowResult.keys
  files : Table ImportFile (Id × String) fun row => [(row.tenantId, row.key)]
  waiting : List QueuedJob
  /-- The identifiers under which the queue knows a job, waiting or not. -/
  known : List String
  auditLogs : List AuditRecordInput

def ImportStore.empty : ImportStore where
  users := .empty
  importJobs := .empty
  importRowResults := .empty
  files := .empty
  waiting := []
  known := []
  auditLogs := []

structure ImportRowProcessResult where
  createdResourceId : Option Id
  errorCode : Option String
  errorMessage : Option String
  externalReference : Option String
  normalizedData : Option (List (String × String))
  status : ImportRowStatus
  deriving DecidableEq

/-- What the environment decides about one call: the clock, new identifiers,
whether the call fails for a reason of its own, what a handler makes of a row,
the delivery a free worker takes, and the order of jobs created at one instant. -/
structure ImportInput where
  now : Time
  ids : ℕ → Id
  fault : Bool
  outcome : Except ServiceError ImportRowProcessResult
  pick : ℕ
  tie : Id → ℕ

end Logistics.Imports
