import Mathlib.Data.List.Sort
import Logistics.Imports.Parsing
import Logistics.Library.Interleaving

/-!
# The import service and its worker

`create`, `cancel` and `retry` of the import service, and `process`, which a
worker runs for every delivery of the queue. Each of them makes its calls one by
one: a job is written, then queued; a worker reads the job, marks it as being
processed and goes through the rows, looking before each row whether the job was
canceled.
-/

namespace Logistics.Imports

open Logistics.Library

/-! ## What the calls carry -/

structure JobWithUser where
  job : ImportJob
  createdBy : Option ImportUser

structure ImportJobData where
  createdById : Id
  fileHash : String
  fileType : String
  filename : String
  mapping : List (String × String)
  mimeType : String
  duplicateStrategy : ImportDuplicateStrategy
  sizeBytes : ℕ
  storedFilename : String
  tenantId : Id
  totalRows : ℕ
  type : ImportType

/-- The updates of a job. -/
inductive JobPatch
  | start
  | progress (counts : RowCounts) (percent totalRows : ℕ)
  | finish (counts : RowCounts) (totalRows : ℕ) (status : ImportStatus)
      (failureReason : Option String)
  | fail (failureReason : String)
  | cancel
  deriving DecidableEq

structure RetryData where
  mapping : List (String × String)
  duplicateStrategy : ImportDuplicateStrategy

structure ImportRowProcessInput where
  duplicateStrategy : ImportDuplicateStrategy
  mapping : List (String × String)
  row : ParsedImportRow
  tenantId : Id

structure RowResultData where
  importJobId : Id
  rowNumber : ℕ
  tenantId : Id
  result : ImportRowProcessResult

structure ImportProgressEventDto where
  counts : RowCounts
  importJobId : Id
  progress : ℕ
  status : ImportStatus
  totalRows : ℕ
  type : ImportType

structure StoredImportFile where
  hash : String
  key : String
  size : ℕ

/-! ## Calls -/

inductive ImportCommand
  | now
  | findDuplicate (fileHash : String) (tenantId : Id) (type : ImportType)
  | saveFile (tenantId : Id) (filename : String) (buffer : Buffer)
  | readFile (tenantId : Id) (key : String)
  | createJob (data : ImportJobData)
  | findJob (id tenantId : Id)
  | findStatus (id : Id)
  | updateJob (id : Id) (patch : JobPatch)
  | resetJob (id tenantId : Id) (data : RetryData)
  | processRow (input : ImportRowProcessInput)
  | createRowResult (data : RowResultData)
  | addJob (jobId : String) (payload : ImportQueuePayload)
  | removeJob (jobId : String)
  | takeJob
  | requeueJob (job : QueuedJob)
  | recordAudit (input : AuditRecordInput)
  | emitImportEvent (tenantId : Id) (eventName : String) (payload : ImportProgressEventDto)
      (userId : Id)
  | emitDashboardRefresh (tenantId : Id) (reason : String)

@[reducible] def ImportCommand.Result : ImportCommand → Type
  | .now => Time
  | .findDuplicate .. => Option JobWithUser
  | .saveFile .. => StoredImportFile
  | .readFile .. => Buffer
  | .createJob _ => JobWithUser
  | .findJob .. => Option JobWithUser
  | .findStatus _ => Option ImportStatus
  | .updateJob .. => JobWithUser
  | .resetJob .. => Unit
  | .processRow _ => ImportRowProcessResult
  | .createRowResult _ => Unit
  | .addJob .. => Unit
  | .removeJob _ => Unit
  | .takeJob => Option QueuedJob
  | .requeueJob _ => Unit
  | .recordAudit _ => Unit
  | .emitImportEvent .. => Unit
  | .emitDashboardRefresh .. => Unit

@[reducible] def importInterface : Interface := ⟨ImportCommand, ImportCommand.Result, ServiceError⟩

abbrev call (c : ImportCommand) : Program importInterface c.Result :=
  @Program.perform importInterface c

/-! ## Answering the calls -/

def JobPatch.apply (now : Time) : JobPatch → ImportJob → ImportJob
  | .start, job => { job with startedAt := some now, status := .processing, updatedAt := now }
  | .progress counts percent totalRows, job =>
      { job with counts, progress := percent, totalRows, updatedAt := now }
  | .finish counts totalRows status failureReason, job =>
      { job with
        counts, failureReason, status, totalRows
        finishedAt := some now
        progress := 100
        updatedAt := now }
  | .fail failureReason, job =>
      { job with
        failureReason := some failureReason
        finishedAt := some now
        status := .failed
        updatedAt := now }
  | .cancel, job =>
      { job with
        failureReason := some "Cancelado pelo usuario."
        finishedAt := some now
        status := .canceled
        updatedAt := now }

@[simp] theorem JobPatch.apply_id (now : Time) (patch : JobPatch) (job : ImportJob) :
    (patch.apply now job).id = job.id := by
  cases patch <;> rfl

/-- What `retry` writes to the job. -/
def reset (now : Time) (data : RetryData) (job : ImportJob) : ImportJob :=
  { job with
    counts := .zero
    duplicateStrategy := some data.duplicateStrategy
    failureReason := none
    finishedAt := none
    mapping := data.mapping
    progress := 0
    startedAt := none
    status := .pending
    updatedAt := now }

def isLive (status : ImportStatus) : Bool :=
  status == .pending || status == .processing || status == .completed

def withUser (s : ImportStore) (job : ImportJob) : JobWithUser where
  job := job
  createdBy := s.users.rows.find? fun row => row.id == job.createdById

/-- `orderBy: { createdAt: 'desc' }` -/
def jobLE (tie : Id → ℕ) (a b : ImportJob) : Bool :=
  if a.createdAt == b.createdAt then tie a.id ≤ tie b.id else b.createdAt < a.createdAt

def duplicates (s : ImportStore) (fileHash : String) (tenantId : Id) (type : ImportType) :
    List ImportJob :=
  s.importJobs.rows.filter fun row =>
    row.fileHash == some fileHash && isLive row.status && row.tenantId == tenantId &&
      row.type == type

/-- `path.extname` of a name, in lower case. -/
def extname (P : ImportPlatform) (filename : String) : String :=
  match ((split filename '/').getLastD "").toList.splitOn '.' with
  | [] => ""
  | [_] => ""
  | [[], _] => ""
  | pieces => P.toLowerCase (String.ofList ('.' :: pieces.getLastD []))

def safeExtension (P : ImportPlatform) (filename : String) : Except ServiceError String :=
  if extname P filename = ".csv" ∨ extname P filename = ".xlsx" then .ok (extname P filename)
  else .error (.badRequest "Formato nao suportado. Envie CSV ou XLSX.")

def saveFile (P : ImportPlatform) (s : ImportStore) (input : ImportInput) (tenantId : Id)
    (filename : String) (buffer : Buffer) : Except ServiceError StoredImportFile × ImportStore :=
  match safeExtension P filename with
  | .error error => (.error error, s)
  | .ok extension =>
      let key := input.ids 0 ++ extension
      match s.files.tryInsert ⟨tenantId, key, buffer⟩ with
      | none => (.error .fault, s)
      | some files => (.ok ⟨P.sha256 buffer, key, buffer.length⟩, { s with files })

/-- A key with a slash, a backslash or two dots is refused. -/
def isSafeKey (key : String) : Bool :=
  !key.toList.contains '/' && !key.toList.contains '\\' &&
    !decide (['.', '.'] <:+: key.toList)

def readFile (s : ImportStore) (tenantId : Id) (key : String) : Except ServiceError Buffer :=
  if isSafeKey key then
    match s.files.rows.find? fun row => row.tenantId == tenantId && row.key == key with
    | some file => .ok file.buffer
    | none => .error .fault
  else .error (.badRequest "Storage key invalida.")

def jobRow (input : ImportInput) (data : ImportJobData) : ImportJob where
  id := input.ids 0
  tenantId := data.tenantId
  createdById := data.createdById
  type := data.type
  filename := data.filename
  fileType := data.fileType
  storedFilename := some data.storedFilename
  mimeType := some data.mimeType
  sizeBytes := data.sizeBytes
  fileHash := some data.fileHash
  status := .pending
  totalRows := data.totalRows
  counts := .zero
  progress := 0
  mapping := data.mapping
  duplicateStrategy := some data.duplicateStrategy
  startedAt := none
  finishedAt := none
  failureReason := none
  createdAt := input.now
  updatedAt := input.now

def rowResultRow (input : ImportInput) (data : RowResultData) : ImportRowResult where
  id := input.ids 0
  tenantId := data.tenantId
  importJobId := data.importJobId
  rowNumber := data.rowNumber
  status := data.result.status
  externalReference := data.result.externalReference
  normalizedData := data.result.normalizedData
  errorCode := data.result.errorCode
  errorMessage := data.result.errorMessage
  createdResourceId := data.result.createdResourceId
  createdAt := input.now

def createJob (s : ImportStore) (input : ImportInput) (data : ImportJobData) :
    Except ServiceError JobWithUser × ImportStore :=
  match s.importJobs.tryInsert (jobRow input data) with
  | none => (.error .uniqueViolation, s)
  | some importJobs => (.ok (withUser s (jobRow input data)), { s with importJobs })

def rewriteJob (s : ImportStore) (id : Id) (f : ImportJob → ImportJob)
    (hf : ∀ job, (f job).id = job.id) : Except ServiceError JobWithUser × ImportStore :=
  match s.importJobs.rows.find? fun row => row.id == id with
  | none => (.error .recordNotFound, s)
  | some job => (.ok (withUser s (f job)),
      { s with
        importJobs := s.importJobs.modify (fun row => row.id == id) f fun row => by rw [hf] })

/-- The transaction of `retry`: the results of the job go, and it starts again. -/
def resetJob (s : ImportStore) (now : Time) (id tenantId : Id) (data : RetryData) :
    Except ServiceError Unit × ImportStore :=
  match s.importJobs.rows.find? fun row => row.id == id with
  | none => (.error .recordNotFound, s)
  | some _ => (.ok (),
      { s with
        importRowResults := s.importRowResults.delete fun row =>
          row.importJobId == id && row.tenantId == tenantId
        importJobs := s.importJobs.modify (fun row => row.id == id) (reset now data) fun _ =>
          rfl })

/-- A reference of more than the 180 characters of its column is among the faults. -/
def createRowResult (s : ImportStore) (input : ImportInput) (data : RowResultData) :
    Except ServiceError Unit × ImportStore :=
  match s.importRowResults.tryInsert (rowResultRow input data) with
  | none => (.error .uniqueViolation, s)
  | some importRowResults => (.ok (), { s with importRowResults })

/-- A job under an identifier the queue knows already is not added again. BullMQ 5.80.8, the
locked version, refuses identifiers with `:` in other than three parts, and those of `create`
have two and those of `retry` four: where it does, the call is a fault. -/
def addJob (s : ImportStore) (jobId : String) (payload : ImportQueuePayload) : ImportStore :=
  if jobId ∈ s.known then s
  else { s with waiting := s.waiting ++ [⟨jobId, payload, 0⟩], known := s.known ++ [jobId] }

/-- A job that waits is removed; one that a worker has taken is locked. -/
def removeJob (s : ImportStore) (jobId : String) : Except ServiceError Unit × ImportStore :=
  if s.waiting.any fun job => job.jobId == jobId then
    (.ok (),
      { s with
        waiting := s.waiting.filter fun job => job.jobId != jobId
        known := s.known.filter fun other => other != jobId })
  else if jobId ∈ s.known then (.error .fault, s)
  else (.ok (), s)

def attempts : ℕ := 3

/-- After a run that threw, the job waits again, until its attempts are used up. -/
def requeueJob (s : ImportStore) (job : QueuedJob) : ImportStore :=
  if job.attemptsMade + 1 < attempts then
    { s with waiting := s.waiting ++ [{ job with attemptsMade := job.attemptsMade + 1 }] }
  else s

/-- The bookkeeping of the queue with its workers does not fail, nor does the
clock. -/
def execute (P : ImportPlatform) : (c : ImportCommand) → ImportInput → ImportStore →
    Response importInterface c × ImportStore
  | .now, input, s => (.ok input.now, s)
  | .takeJob, input, s =>
      match s.waiting[input.pick]? with
      | none => (.ok none, s)
      | some job => (.ok (some job), { s with waiting := s.waiting.eraseIdx input.pick })
  | .requeueJob job, _, s => (.ok (), requeueJob s job)
  | .findDuplicate fileHash tenantId type, input, s =>
      if input.fault then (.error .fault, s)
      else (.ok ((((duplicates s fileHash tenantId type).insertionSort fun a b =>
        jobLE input.tie a b).head?).map (withUser s)), s)
  | .saveFile tenantId filename buffer, input, s =>
      if input.fault then (.error .fault, s) else saveFile P s input tenantId filename buffer
  | .readFile tenantId key, input, s =>
      if input.fault then (.error .fault, s) else (readFile s tenantId key, s)
  | .createJob data, input, s =>
      if input.fault then (.error .fault, s) else createJob s input data
  | .findJob id tenantId, input, s =>
      if input.fault then (.error .fault, s)
      else (.ok ((s.importJobs.rows.find? fun row =>
        row.id == id && row.tenantId == tenantId).map (withUser s)), s)
  | .findStatus id, input, s =>
      if input.fault then (.error .fault, s)
      else (.ok ((s.importJobs.rows.find? fun row => row.id == id).map ImportJob.status), s)
  | .updateJob id patch, input, s =>
      if input.fault then (.error .fault, s)
      else rewriteJob s id (patch.apply input.now) fun job => patch.apply_id input.now job
  | .resetJob id tenantId data, input, s =>
      if input.fault then (.error .fault, s) else resetJob s input.now id tenantId data
  | .processRow _, input, s =>
      if input.fault then (.error .fault, s) else (input.outcome, s)
  | .createRowResult data, input, s =>
      if input.fault then (.error .fault, s) else createRowResult s input data
  | .addJob jobId payload, input, s =>
      if input.fault then (.error .fault, s) else (.ok (), addJob s jobId payload)
  | .removeJob jobId, input, s =>
      if input.fault then (.error .fault, s) else removeJob s jobId
  | .recordAudit audit, input, s =>
      if input.fault then (.error .fault, s)
      else (.ok (), { s with auditLogs := s.auditLogs ++ [audit] })
  | .emitImportEvent .., input, s => if input.fault then (.error .fault, s) else (.ok (), s)
  | .emitDashboardRefresh .., input, s => if input.fault then (.error .fault, s) else (.ok (), s)

/-! ## Uploads -/

structure ImportFieldDefinition where
  aliases : List String
  key : String
  label : String
  required : Bool

def fields : ImportType → List ImportFieldDefinition
  | .customers => [
      ⟨["nome", "name", "cliente", "razao_social"], "name", "Nome", true⟩,
      ⟨["documento", "cpf_cnpj", "cpf", "cnpj", "document"], "document", "CPF/CNPJ", true⟩,
      ⟨["email", "e_mail"], "email", "E-mail", false⟩,
      ⟨["telefone", "phone", "celular"], "phone", "Telefone", false⟩,
      ⟨["cep", "postal_code"], "postalCode", "CEP", false⟩,
      ⟨["cidade", "city"], "city", "Cidade", false⟩,
      ⟨["estado", "uf", "state"], "state", "Estado", false⟩]
  | .carriers => [
      ⟨["nome", "name", "transportadora", "carrier"], "name", "Nome", true⟩,
      ⟨["codigo", "code", "cod"], "code", "Codigo", true⟩,
      ⟨["cnpj", "documento", "document"], "document", "CNPJ", false⟩,
      ⟨["razao_social", "legal_name"], "legalName", "Razao social", false⟩,
      ⟨["email", "e_mail"], "email", "E-mail", false⟩,
      ⟨["telefone", "phone"], "phone", "Telefone", false⟩,
      ⟨["contato", "contact", "contact_name"], "contactName", "Contato", false⟩,
      ⟨["site", "website"], "site", "Site", false⟩]

def missingRequiredFields (fields : List ImportFieldDefinition)
    (mapping : List (String × String)) : List String :=
  (fields.filter fun field =>
    field.required && (mapping.lookup field.key).all fun header => header == "").map fun field =>
      "Campo obrigatorio sem mapeamento: " ++ field.label ++ "."

def normalizeMapping (P : ImportPlatform) (mapping : List (String × String)) :
    List (String × String) :=
  (mapping.filter fun entry => !isBlank entry.2).map fun entry =>
    (entry.1, normalizeHeader P entry.2)

structure Upload where
  originalname : String
  mimetype : String
  size : ℕ
  buffer : Buffer

def allowedMime : List String :=
  ["text/csv", "application/csv", "application/vnd.ms-excel",
    "application/vnd.openxmlformats-officedocument.spreadsheetml.sheet",
    "application/octet-stream"]

def validateUpload (P : ImportPlatform) : Option Upload → Except ServiceError Upload
  | none => .error (.badRequest "Arquivo obrigatorio.")
  | some file =>
      if file.size = 0 ∨ file.buffer.length = 0 then .error (.badRequest "Arquivo vazio.")
      else if file.size > P.importMaxFileSizeBytes then
        .error (.badRequest "Arquivo excede o tamanho maximo.")
      else if fileExtension P file.originalname ∉ ["csv", "xlsx"] ∨
          file.mimetype ∉ allowedMime then
        .error (.badRequest "Formato de arquivo invalido. Envie CSV ou XLSX.")
      else .ok file

/-- `/[\w.\- ]/` -/
def isFilenameChar (c : Char) : Bool :=
  ('a' ≤ c && c ≤ 'z') || ('A' ≤ c && c ≤ 'Z') || ('0' ≤ c && c ≤ '9') || c == '_' || c == '.' ||
    c == '-' || c == ' '

/-- `replace(/[^\w.\- ]+/g, '_')`; the flag says whether a run is being replaced. -/
def replaceRuns : Bool → List Char → List Char
  | _, [] => []
  | inRun, c :: rest =>
      if isFilenameChar c then c :: replaceRuns false rest
      else if inRun then replaceRuns true rest
      else '_' :: replaceRuns true rest

def sanitizeFilename (filename : String) : String :=
  match (replaceRuns false filename.toList).take 255 with
  | [] => "import.csv"
  | cs => String.ofList cs

/-! ## Operations of the service -/

structure ImportJobDto where
  createdAt : Time
  counts : RowCounts
  failureReason : Option String
  fileType : String
  filename : String
  finishedAt : Option Time
  id : Id
  mimeType : Option String
  progress : ℕ
  sizeBytes : ℕ
  startedAt : Option Time
  status : ImportStatus
  totalRows : ℕ
  type : ImportType
  updatedAt : Time
  user : Option ImportUser

def presentJob (found : JobWithUser) : ImportJobDto where
  createdAt := found.job.createdAt
  counts := found.job.counts
  failureReason := found.job.failureReason
  fileType := found.job.fileType
  filename := found.job.filename
  finishedAt := found.job.finishedAt
  id := found.job.id
  mimeType := found.job.mimeType
  progress := found.job.progress
  sizeBytes := found.job.sizeBytes
  startedAt := found.job.startedAt
  status := found.job.status
  totalRows := found.job.totalRows
  type := found.job.type
  updatedAt := found.job.updatedAt
  user := found.createdBy

structure Context where
  role : UserRole
  tenantId : Id
  userId : Id

structure CreateImportDto where
  type : ImportType
  mapping : List (String × String)
  duplicateStrategy : Option ImportDuplicateStrategy

structure RetryImportDto where
  mapping : Option (List (String × String))
  duplicateStrategy : Option ImportDuplicateStrategy

def audit (action : AuditAction) (tenantId userId importJobId : Id)
    (metadata : List (String × Option String)) : AuditRecordInput where
  action := action
  actorId := some userId
  entityId := some importJobId
  entityType := some "ImportJob"
  metadata := metadata
  tenantId := some tenantId

def ImportType.text : ImportType → String
  | .customers => "CUSTOMERS"
  | .carriers => "CARRIERS"

def create (P : ImportPlatform) (context : Context) (file : Option Upload)
    (dto : CreateImportDto) : Program importInterface ImportJobDto := do
  let upload ← Program.ofExcept (validateUpload P file)
  let parsed ← Program.ofExcept (parse P upload.buffer upload.originalname)
  let mapping := normalizeMapping P dto.mapping
  let structuralErrors := missingRequiredFields (fields dto.type) mapping
  Program.throwIf (structuralErrors ≠ []) (.badRequest (" ".intercalate structuralErrors))
  let fileHash := P.sha256 upload.buffer
  match ← call (.findDuplicate fileHash context.tenantId dto.type) with
  | some duplicate => pure (presentJob duplicate)
  | none => do
      let stored ← call (.saveFile context.tenantId upload.originalname upload.buffer)
      let created ← call (.createJob {
        createdById := context.userId
        fileHash
        fileType := fileExtension P upload.originalname
        filename := sanitizeFilename upload.originalname
        mapping
        mimeType := upload.mimetype
        duplicateStrategy := dto.duplicateStrategy.getD .update
        sizeBytes := stored.size
        storedFilename := stored.key
        tenantId := context.tenantId
        totalRows := parsed.rows.length
        type := dto.type })
      call (.addJob ("import:" ++ created.job.id)
        ⟨created.job.id, context.tenantId, context.userId⟩)
      call (.recordAudit (audit .importCreated context.tenantId context.userId created.job.id
        [("filename", some created.job.filename), ("rows", some (toString created.job.totalRows)),
          ("type", some (ImportType.text created.job.type))]))
      pure (presentJob created)

def getAuthorizedJob (context : Context) (importJobId : Id) :
    Program importInterface JobWithUser := do
  let some found ← call (.findJob importJobId context.tenantId)
    | throw (.notFound "Importacao nao encontrada.")
  Program.throwIf (context.role = .operator ∧ found.job.createdById ≠ context.userId)
    (.forbidden "Voce nao pode acessar esta importacao.")
  pure found

def isCancelableStatus (status : ImportStatus) : Bool :=
  status == .pending || status == .processing

def isRetryableStatus (status : ImportStatus) : Bool :=
  status == .failed || status == .canceled

def cancel (context : Context) (importJobId : Id) : Program importInterface ImportJobDto := do
  let found ← getAuthorizedJob context importJobId
  Program.throwIf (isCancelableStatus found.job.status = false)
    (.badRequest "Somente imports pendentes ou em processamento podem ser cancelados.")
  -- a job that a worker has taken stays, and is stopped by the status
  Program.tryCatch (call (.removeJob ("import:" ++ found.job.id))) fun _ => pure ()
  let updated ← call (.updateJob found.job.id .cancel)
  call (.recordAudit (audit .importCanceled context.tenantId context.userId found.job.id []))
  pure (presentJob updated)

def retry (P : ImportPlatform) (context : Context) (importJobId : Id) (dto : RetryImportDto) :
    Program importInterface ImportJobDto := do
  let found ← getAuthorizedJob context importJobId
  Program.throwIf (isRetryableStatus found.job.status = false)
    (.badRequest "Somente imports com falha ou cancelados podem ser repetidos.")
  call (.resetJob found.job.id context.tenantId {
    mapping := match dto.mapping with
      | some mapping => normalizeMapping P mapping
      | none => found.job.mapping
    duplicateStrategy := dto.duplicateStrategy.getD (found.job.duplicateStrategy.getD .update) })
  let now ← call .now
  call (.addJob ("import:" ++ found.job.id ++ ":retry:" ++ toString now)
    ⟨found.job.id, context.tenantId, context.userId⟩)
  call (.recordAudit (audit .importRetried context.tenantId context.userId found.job.id []))
  let again ← getAuthorizedJob context found.job.id
  pure (presentJob again)

/-! ## The worker -/

def progressPercent (P : ImportPlatform) (processedRows totalRows : ℕ) : ℕ :=
  if totalRows = 0 then 0 else min 100 (P.roundedPercent processedRows totalRows)

def isFinalImportStatus (status : ImportStatus) : Bool :=
  status == .completed || status == .failed || status == .canceled

def eventNameFor : ImportStatus → String
  | .completed => "import.completed"
  | .failed => "import.failed"
  | .canceled => "import.cancelled"
  | .processing => "import.progress"
  | .pending => "import.started"

def eventPayload (P : ImportPlatform) (job : ImportJob) (status : ImportStatus) (totalRows : ℕ)
    (counts : RowCounts) : ImportProgressEventDto where
  counts := counts
  importJobId := job.id
  progress := progressPercent P counts.processedRows totalRows
  status := status
  totalRows := totalRows
  type := job.type

def emit (tenantId userId : Id) (payload : ImportProgressEventDto) :
    Program importInterface Unit := do
  call (.emitImportEvent tenantId (eventNameFor payload.status) payload userId)
  if isFinalImportStatus payload.status then call (.emitDashboardRefresh tenantId "import")
  else pure ()

/-- The row loop; nothing is returned when the job was found canceled. -/
def processRows (P : ImportPlatform) (payload : ImportQueuePayload) (job : ImportJob)
    (totalRows : ℕ) :
    List ParsedImportRow → RowCounts → Program importInterface (Option RowCounts)
  | [], counts => pure (some counts)
  | row :: rest, counts => do
      let current ← call (.findStatus job.id)
      if current = some .canceled then do
        emit payload.tenantId payload.userId (eventPayload P job .canceled totalRows counts)
        pure none
      else do
        let result ← call (.processRow {
          duplicateStrategy := job.duplicateStrategy.getD .update
          mapping := job.mapping
          row
          tenantId := payload.tenantId })
        call (.createRowResult ⟨job.id, row.rowNumber, payload.tenantId, result⟩)
        let _ ← call (.updateJob job.id (.progress (counts.add result.status)
          (progressPercent P (counts.add result.status).processedRows totalRows) totalRows))
        emit payload.tenantId payload.userId
          (eventPayload P job .processing totalRows (counts.add result.status))
        processRows P payload job totalRows rest (counts.add result.status)

def finalStatus (counts : RowCounts) : ImportStatus :=
  if counts.errorRows > 0 ∧ counts.successRows = 0 then .failed else .completed

def countsMetadata (counts : RowCounts) : List (String × Option String) :=
  [("errorRows", some (toString counts.errorRows)),
    ("processedRows", some (toString counts.processedRows)),
    ("skippedRows", some (toString counts.skippedRows)),
    ("successRows", some (toString counts.successRows))]

/-- What follows the row loop. -/
def finish (P : ImportPlatform) (payload : ImportQueuePayload) (job : ImportJob)
    (totalRows : ℕ) (counts : RowCounts) : Program importInterface Unit := do
  let _ ← call (.updateJob job.id (.finish counts totalRows (finalStatus counts)
    (if finalStatus counts = .failed then some "Todas as linhas falharam." else none)))
  call (.recordAudit (audit
    (if finalStatus counts = .completed then .importCompleted else .importFailed)
    payload.tenantId payload.userId job.id (countsMetadata counts)))
  emit payload.tenantId payload.userId (eventPayload P job (finalStatus counts) totalRows counts)

/-- The guarded part of `process`. -/
def processFile (P : ImportPlatform) (payload : ImportQueuePayload) (job : ImportJob)
    (storedFilename : String) : Program importInterface Unit := do
  let buffer ← call (.readFile payload.tenantId storedFilename)
  let parsed ← Program.ofExcept (parse P buffer job.filename)
  match ← processRows P payload job parsed.rows.length parsed.rows .zero with
  | none => pure ()
  | some counts => finish P payload job parsed.rows.length counts

/-- What `process` does with an exception before it throws it again. -/
def failJob (P : ImportPlatform) (payload : ImportQueuePayload) (job : ImportJob)
    (error : ServiceError) : Program importInterface Unit := do
  let message := P.errorMessage error
  let _ ← call (.updateJob job.id (.fail (String.ofList (message.toList.take 500))))
  call (.recordAudit (audit .importFailed payload.tenantId payload.userId job.id
    [("message", some (String.ofList (message.toList.take 160)))]))
  emit payload.tenantId payload.userId (eventPayload P job .failed job.totalRows job.counts)
  throw error

/-- The run of a job that was found with its file. -/
def processJob (P : ImportPlatform) (payload : ImportQueuePayload) (job : ImportJob)
    (storedFilename : String) : Program importInterface Unit := do
  let _ ← call (.updateJob job.id .start)
  call (.recordAudit (audit .importStarted payload.tenantId payload.userId job.id []))
  emit payload.tenantId payload.userId (eventPayload P job .processing job.totalRows .zero)
  Program.tryCatch (processFile P payload job storedFilename) (failJob P payload job)

def process (P : ImportPlatform) (payload : ImportQueuePayload) :
    Program importInterface Unit := do
  match ← call (.findJob payload.importJobId payload.tenantId) with
  | none => pure ()
  | some found =>
      match found.job.storedFilename.filter (· ≠ "") with
      | none => pure ()
      | some storedFilename => processJob P payload found.job storedFilename

/-- One turn of a worker: it takes a delivery, and hands it back if its run throws. -/
def work (P : ImportPlatform) : Program importInterface Unit := do
  match ← call .takeJob with
  | none => pure ()
  | some job => Program.tryCatch (process P job.payload) fun _ => call (.requeueJob job)

inductive Request
  | create (context : Context) (file : Option Upload) (dto : CreateImportDto)
  | cancel (context : Context) (importJobId : Id)
  | retry (context : Context) (importJobId : Id) (dto : RetryImportDto)
  /-- A delivery, however the queue came to it. -/
  | process (payload : ImportQueuePayload)
  | work

inductive Reply
  | job (view : ImportJobDto)
  | done

def handle (P : ImportPlatform) : Request → Program importInterface Reply
  | .create context file dto => Reply.job <$> create P context file dto
  | .cancel context importJobId => Reply.job <$> cancel context importJobId
  | .retry context importJobId dto => Reply.job <$> retry P context importJobId dto
  | .process payload => (fun _ => Reply.done) <$> process P payload
  | .work => (fun _ => Reply.done) <$> work P

def importSystem (P : ImportPlatform) :
    System importInterface Request Reply ImportInput ImportStore :=
  ⟨execute P, handle P⟩

abbrev ImportThread : Type := Thread importInterface Request Reply

abbrev ImportConfig : Type := Config importInterface Request Reply ImportStore

end Logistics.Imports
