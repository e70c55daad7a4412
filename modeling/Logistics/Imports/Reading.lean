import Logistics.Imports.Service
import Logistics.Quoting.Listing

/-!
# Reading imports

`list`, `get` and `errorReport` of the import service, beside its other operations.
An operator is shown the jobs of one user: `list` asks the database for these
only, the other two look at the job first.
-/

namespace Logistics.Imports

open Logistics.Library

open Quoting (PaginatedResult)

/-- How the database compares texts. -/
structure ReadingPlatform extends ImportPlatform where
  collationLE : String → String → Bool
  /-- `LIKE '%…%'` -/
  contains : String → String → Bool

structure ListImportsDto where
  page : ℕ
  perPage : ℕ
  search : Option String
  type : Option ImportType
  status : Option ImportStatus
  userId : Option String

structure ImportRowsQueryDto where
  page : ℕ
  perPage : ℕ
  status : Option String

structure ImportJobWhereInput where
  tenantId : Id
  createdById : Option Id
  status : Option ImportStatus
  type : Option ImportType
  /-- A text that the name contains. -/
  filename : Option String

def ImportJobWhereInput.holds (P : ReadingPlatform) (filter : ImportJobWhereInput)
    (row : ImportJob) : Bool :=
  row.tenantId == filter.tenantId && filter.createdById.all (fun id => row.createdById == id) &&
    filter.status.all (fun status => row.status == status) &&
    filter.type.all (fun type => row.type == type) &&
    filter.filename.all fun text => P.contains row.filename text

structure ImportRowResultWhereInput where
  importJobId : Id
  tenantId : Id
  status : Option ImportRowStatus

def ImportRowResultWhereInput.holds (filter : ImportRowResultWhereInput)
    (row : ImportRowResult) : Bool :=
  row.importJobId == filter.importJobId && row.tenantId == filter.tenantId &&
    filter.status.all fun status => row.status == status

structure ImportRowResultDto where
  createdResourceId : Option Id
  errorCode : Option String
  errorMessage : Option String
  externalReference : Option String
  id : Id
  normalizedData : List (String × String)
  rowNumber : ℕ
  status : ImportRowStatus

structure ImportJobDetailDto where
  job : ImportJobDto
  mapping : List (String × String)
  duplicateStrategy : Option ImportDuplicateStrategy
  rows : PaginatedResult ImportRowResultDto

structure ErrorReport where
  content : String
  filename : String

/-! ## Calls -/

/-- The transactions of `list` and `get`, each for one page and the number of all
rows, and the query of `errorReport`. -/
inductive ReadCommand
  | findPage (filter : ImportJobWhereInput) (skip take : ℕ)
  | findRowPage (filter : ImportRowResultWhereInput) (skip take : ℕ)
  | findRows (filter : ImportRowResultWhereInput) (take : ℕ)

@[reducible] def ReadCommand.Result : ReadCommand → Type
  | .findPage .. => List JobWithUser × ℕ
  | .findRowPage .. => List ImportRowResult × ℕ
  | .findRows .. => List ImportRowResult

@[reducible] def readingInterface : Interface :=
  importInterface.extend ReadCommand ReadCommand.Result

/-- `orderBy: [{ createdAt: 'desc' }, { id: 'desc' }]` -/
def laterLE (P : ReadingPlatform) (a b : ImportJob) : Bool :=
  if a.createdAt = b.createdAt then P.collationLE b.id a.id else b.createdAt < a.createdAt

def matchingJobs (P : ReadingPlatform) (s : ImportStore) (filter : ImportJobWhereInput) :
    List ImportJob :=
  (s.importJobs.rows.filter (filter.holds P)).insertionSort fun a b => laterLE P a b

/-- `orderBy: { rowNumber: 'asc' }` -/
def matchingRows (s : ImportStore) (filter : ImportRowResultWhereInput) : List ImportRowResult :=
  (s.importRowResults.rows.filter filter.holds).insertionSort fun a b => a.rowNumber ≤ b.rowNumber

def answer (P : ReadingPlatform) (s : ImportStore) : (c : ReadCommand) → c.Result
  | .findPage filter skip take =>
      ((((matchingJobs P s filter).drop skip).take take).map (withUser s),
        (matchingJobs P s filter).length)
  | .findRowPage filter skip take =>
      (((matchingRows s filter).drop skip).take take, (matchingRows s filter).length)
  | .findRows filter take => (matchingRows s filter).take take

/-- Any call may be broken off by the database. -/
def executeReading (P : ReadingPlatform) (c : ReadCommand) (input : ImportInput)
    (s : ImportStore) : Except ServiceError c.Result × ImportStore :=
  if input.fault then (.error .fault, s) else (.ok (answer P s c), s)

def read (c : ReadCommand) : Program readingInterface c.Result :=
  @Program.perform readingInterface (.inr c)

/-! ## Operations -/

def listWhere (context : Context) (query : ListImportsDto) : ImportJobWhereInput where
  tenantId := context.tenantId
  createdById :=
    if context.role = .operator then some context.userId else query.userId.filter (· ≠ "")
  status := query.status
  type := query.type
  filename := (query.search.map trim).filter (· ≠ "")

def list (context : Context) (query : ListImportsDto) :
    Program readingInterface (PaginatedResult ImportJobDto) := do
  let page ← read (.findPage (listWhere context query) ((query.page - 1) * query.perPage)
    query.perPage)
  pure {
    data := page.1.map presentJob
    paginationMeta := {
      page := query.page
      perPage := query.perPage
      total := page.2
      totalPages := (page.2 + query.perPage - 1) / query.perPage } }

def presentRow (row : ImportRowResult) : ImportRowResultDto where
  createdResourceId := row.createdResourceId
  errorCode := row.errorCode
  errorMessage := row.errorMessage
  externalReference := row.externalReference
  id := row.id
  normalizedData := row.normalizedData.getD []
  rowNumber := row.rowNumber
  status := row.status

/-- The status a query names; the database client refuses any other text. -/
def rowStatus (status : Option String) : Except ServiceError (Option ImportRowStatus) :=
  match status.filter (· ≠ "") with
  | none => .ok none
  | some "SUCCESS" => .ok (some .success)
  | some "ERROR" => .ok (some .error)
  | some "SKIPPED" => .ok (some .skipped)
  | some _ => .error .fault

def get (context : Context) (importJobId : Id) (query : ImportRowsQueryDto) :
    Program readingInterface ImportJobDetailDto := do
  let found ← (getAuthorizedJob context importJobId).lift
  let status ← Program.ofExcept (rowStatus query.status)
  let rows ← read (.findRowPage ⟨importJobId, context.tenantId, status⟩
    ((query.page - 1) * query.perPage) query.perPage)
  pure {
    job := presentJob found
    mapping := found.job.mapping
    duplicateStrategy := found.job.duplicateStrategy
    rows := {
      data := rows.1.map presentRow
      paginationMeta := {
        page := query.page
        perPage := query.perPage
        total := rows.2
        totalPages := (rows.2 + query.perPage - 1) / query.perPage } } }

def escapeCsv (value : String) : String :=
  if value.toList.any fun c => c == '"' || c == ',' || c == '\n' then
    String.ofList ('"' :: value.toList.flatMap (fun c => if c == '"' then ['"', '"'] else [c]) ++
      ['"'])
  else value

def csvLine (cells : List String) : String := ",".intercalate (cells.map escapeCsv)

def presentReport (importJobId : Id) (rows : List ImportRowResult) : ErrorReport where
  content := "\n".intercalate (csvLine ["linha", "referencia", "codigo", "erro"] ::
    rows.map fun row => csvLine [toString row.rowNumber, row.externalReference.getD "",
      row.errorCode.getD "", row.errorMessage.getD ""])
  filename := "import-" ++ importJobId ++ "-erros.csv"

def errorReport (context : Context) (importJobId : Id) :
    Program readingInterface ErrorReport := do
  let found ← (getAuthorizedJob context importJobId).lift
  let rows ← read (.findRows ⟨found.job.id, context.tenantId, some .error⟩ 5000)
  Program.lift (call (.recordAudit (audit .importFileDownloaded context.tenantId context.userId
    found.job.id [("report", some "errors")])))
  pure (presentReport found.job.id rows)

inductive ReadingRequest
  | base (r : Request)
  | list (context : Context) (query : ListImportsDto)
  | get (context : Context) (importJobId : Id) (query : ImportRowsQueryDto)
  | errorReport (context : Context) (importJobId : Id)

inductive ReadingReply
  | base (reply : Reply)
  | page (jobs : PaginatedResult ImportJobDto)
  | detail (job : ImportJobDetailDto)
  | report (report : ErrorReport)

def handleReading (P : ReadingPlatform) : ReadingRequest → Program readingInterface ReadingReply
  | .base r => ReadingReply.base <$> (handle P.toImportPlatform r).lift
  | .list context query => ReadingReply.page <$> list context query
  | .get context importJobId query => ReadingReply.detail <$> get context importJobId query
  | .errorReport context importJobId =>
      ReadingReply.report <$> errorReport context importJobId

def readingSystem (P : ReadingPlatform) :
    System readingInterface ReadingRequest ReadingReply ImportInput ImportStore :=
  ⟨Backend.extend (execute P.toImportPlatform) (executeReading P), handleReading P⟩

end Logistics.Imports
