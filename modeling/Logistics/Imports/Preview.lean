import Logistics.Imports.Execution
import Logistics.Imports.Handlers
import Logistics.Imports.Headers

/-!
# From the preview to the worker

The preview shows the headers of a file with its first rows and proposes a mapping.
The user chooses a header for each field; `create` normalizes what was chosen and
stores it, and the worker, which parses the file again, looks it up in its rows. A
column that was chosen under its header, or under the cell that the header was made
of, is the one the handlers read.
-/

namespace Logistics.Imports

open Logistics.Library

/-! ## The preview -/

/-- The copy of `normalizeHeader` in the import service. -/
def ImportsService.normalizeHeader (P : ImportPlatform) (value : String) : String :=
  let plain := String.ofList ((P.nfd value).toList.filter fun c => !isCombiningMark c)
  String.ofList (stripUnderscores (underscoreRuns false (P.toLowerCase (trim plain)).toList))

namespace ImportHandlerRegistry

/-- The copy of `normalizeHeader` in the registry of the handlers. -/
def normalizeHeader (P : ImportPlatform) (value : String) : String :=
  let plain := String.ofList ((P.nfd value).toList.filter fun c => !isCombiningMark c)
  String.ofList (stripUnderscores (underscoreRuns false (P.toLowerCase (trim plain)).toList))

/-- Each field with the first of its names that is a header. -/
def autoMapping (P : ImportPlatform) (type : ImportType) (headers : List String) :
    List (String × String) :=
  (fields type).filterMap fun field =>
    let found := (field.key :: field.aliases).find? fun name =>
      decide (normalizeHeader P name ∈ headers)
    (found.filter (· ≠ "")).map fun name => (field.key, normalizeHeader P name)

end ImportHandlerRegistry

structure ImportPreviewDto where
  detectedHeaders : List String
  duplicateHeaders : List String
  fields : List ImportFieldDefinition
  mapping : List (String × String)
  previewRows : List ParsedImportRow
  structuralErrors : List String
  totalRows : ℕ
  type : ImportType

def preview (P : ImportPlatform) (file : Option Upload) (type : ImportType) :
    Except ServiceError ImportPreviewDto := do
  let upload ← validateUpload P file
  let parsed ← parse P upload.buffer upload.originalname
  let mapping := ImportHandlerRegistry.autoMapping P type parsed.headers
  let structuralErrors := missingRequiredFields (fields type) mapping
  pure {
    detectedHeaders := parsed.headers
    duplicateHeaders := []
    fields := fields type
    mapping
    previewRows := parsed.rows.take 10
    structuralErrors
    totalRows := parsed.rows.length
    type }

theorem validateUpload_eq {P : ImportPlatform} {file upload : Upload}
    (h : validateUpload P (some file) = .ok upload) : upload = file := by
  rw [validateUpload] at h
  split at h
  · cases h
  · split at h
    · cases h
    · split at h
      · cases h
      · exact (Except.ok.inj h).symm

theorem preview_eq_ok {P : ImportPlatform} {upload : Upload} {type : ImportType}
    {view : ImportPreviewDto} (h : preview P (some upload) type = .ok view) :
    ∃ parsed, parse P upload.buffer upload.originalname = .ok parsed ∧
      view.detectedHeaders = parsed.headers ∧ view.previewRows = parsed.rows.take 10 ∧
      view.mapping = ImportHandlerRegistry.autoMapping P type parsed.headers := by
  obtain ⟨file, hfile, hrest⟩ := Program.except_bind_eq_ok.mp h
  obtain rfl := validateUpload_eq hfile
  obtain ⟨parsed, hparsed, hview⟩ := Program.except_bind_eq_ok.mp hrest
  obtain rfl := Except.ok.inj hview
  exact ⟨parsed, hparsed, rfl, rfl, rfl⟩

/-- The proposed mapping names headers of the file. -/
theorem mem_headers_of_autoMapping {P : ImportPlatform} {type : ImportType} {headers : List String}
    {entry : String × String} (h : entry ∈ ImportHandlerRegistry.autoMapping P type headers) :
    entry.2 ∈ headers := by
  obtain ⟨field, -, hfield⟩ := List.mem_filterMap.mp h
  obtain ⟨name, hname, rfl⟩ := Option.map_eq_some_iff.mp hfield
  obtain ⟨hfound, -⟩ := Option.filter_eq_some_iff.mp hname
  have hheader := List.find?_some hfound
  exact of_decide_eq_true hheader

/-! ## The columns of a parsed file -/

def headerRecord (P : ImportPlatform) (buffer : Buffer) : ImportFormat → List String
  | .csv => (parseDelimited (stripBom (P.utf8 buffer))).headD []
  | .xlsx => ((P.readSheet buffer).join.getD []).headD []

/-- The headers of the file are those of this record, under which the rows have their
values. -/
def HasHeader (P : ImportPlatform) (record : List String) (parsed : ParsedImportFile) : Prop :=
  parsed.headers = normalizeHeaders P record ∧ parsed.headers.Nodup ∧
    ∀ row ∈ parsed.rows, ∃ cells, row.values = rowValues parsed.headers cells

theorem toParsedFile_spec (P : ImportPlatform) (records : List (List String)) :
    (toParsedFile P records).headers = normalizeHeaders P (records.headD []) ∧
      ∀ row ∈ (toParsedFile P records).rows,
        ∃ cells, row.values = rowValues (toParsedFile P records).headers cells := by
  cases records with
  | nil => exact ⟨rfl, fun row hrow => by cases hrow⟩
  | cons first rest =>
      refine ⟨rfl, fun row hrow => ?_⟩
      obtain ⟨_, cells, -, -, rfl⟩ := mem_toParsedRows_iff.mp hrow
      exact ⟨cells, rfl⟩

theorem parse_hasHeader {P : ImportPlatform} {buffer : Buffer} {filename : String}
    {format : ImportFormat} {parsed : ParsedImportFile}
    (hformat : extensionOf P filename = .ok format) (h : parse P buffer filename = .ok parsed) :
    HasHeader P (headerRecord P buffer format) parsed := by
  obtain ⟨found, hfound, h⟩ := Program.except_bind_eq_ok.mp h
  obtain ⟨read, hread, h⟩ := Program.except_bind_eq_ok.mp h
  obtain ⟨_, hvalid, h⟩ := Program.except_bind_eq_ok.mp h
  obtain rfl := Except.ok.inj h
  obtain rfl := Except.ok.inj (hfound.symm.trans hformat)
  have hnodup := (headers_of_validateParsedFile hvalid).2
  have hfile : ∃ records, read = toParsedFile P records ∧
      records.headD [] = headerRecord P buffer found := by
    cases found with
    | csv => exact ⟨_, (Except.ok.inj hread).symm, rfl⟩
    | xlsx =>
        rw [headerRecord]
        have hsheet : parseXlsx P buffer = .ok read := hread
        unfold parseXlsx at hsheet
        split at hsheet
        · cases hsheet
        · next hnone =>
          rw [hnone]
          exact ⟨[], (Except.ok.inj hsheet).symm, rfl⟩
        · next rows hrows =>
          rw [hrows]
          exact ⟨rows, (Except.ok.inj hsheet).symm, rfl⟩
  obtain ⟨records, rfl, hfirst⟩ := hfile
  obtain ⟨hheaders, hrows⟩ := toParsedFile_spec P records
  exact ⟨by rw [hheaders, hfirst], hnodup, hrows⟩

theorem parse_of_format {P : ImportPlatform} {filename name : String}
    (h : extensionOf P name = extensionOf P filename) (buffer : Buffer) :
    parse P buffer name = parse P buffer filename := by
  rw [parse, parse, h]

theorem HasHeader.lookup {P : ImportPlatform} {record : List String} {parsed : ParsedImportFile}
    (h : HasHeader P record parsed) {header : String} (hheader : header ∈ parsed.headers)
    {row : ParsedImportRow} (hrow : row ∈ parsed.rows) :
    ∃ cell, row.values.lookup header = some (normalizeCell cell) := by
  obtain ⟨index, hindex⟩ := List.mem_iff_getElem?.mp hheader
  obtain ⟨cells, hcells⟩ := h.2.2 row hrow
  rw [hcells]
  exact ⟨_, lookup_rowValues h.2.1 cells hindex⟩

/-! ## Chosen columns -/

/-- The text names the column by its header, or by the cell that the header was made of. -/
def Spells (P : ImportPlatform) (record detected : List String) (text header : String) : Prop :=
  header ∈ detected ∧ (text = header ∨ text ∈ record ∧ columnName P text = header)

variable {P : ImportPlatform}

theorem Spells.normalized (hP : HeaderText P) {record : List String} {text header : String}
    (h : Spells P record (normalizeHeaders P record) text header) :
    normalizeHeader P text = header ∧ header ≠ "" := by
  obtain ⟨hdetected, htext⟩ := h
  obtain ⟨hname, hkept⟩ := List.mem_filter.mp hdetected
  refine ⟨?_, of_decide_eq_true hkept⟩
  rcases htext with rfl | ⟨-, hcell⟩
  · obtain ⟨cell, -, rfl⟩ := List.mem_map.mp hname
    exact normalizeHeader_idempotent hP _
  · rw [← hcell, columnName, normalizeHeader_normalizeCell hP]

theorem lookup_normalizeMapping {mapping : List (String × String)} {field text : String}
    (h : mapping.lookup field = some text) (htext : isBlank text = false) :
    (normalizeMapping P mapping).lookup field = some (normalizeHeader P text) := by
  obtain ⟨before, after, rfl, hbefore⟩ := List.lookup_eq_some_iff.mp h
  rw [List.lookup_eq_some_iff]
  refine ⟨normalizeMapping P before, normalizeMapping P after, ?_, ?_⟩
  · rw [normalizeMapping, List.filter_append, List.map_append,
      List.filter_cons_of_pos (by simp [htext])]
    rfl
  · intro entry hentry
    obtain ⟨old, hold, rfl⟩ := List.mem_map.mp hentry
    exact hbefore old (List.mem_of_mem_filter hold)

/-- The handlers read the trimmed cell under the header that the mapping names. -/
theorem value_of_lookup {input : ImportRowProcessInput} {field header cell : String}
    (hmapping : input.mapping.lookup field = some header) (hheader : header ≠ "")
    (hcell : input.row.values.lookup header = some (normalizeCell cell)) :
    Handlers.value input field = normalizeCell cell := by
  rw [Handlers.value, hmapping]
  dsimp only
  rw [if_neg hheader, hcell, normalizeCell]
  exact trim_trim cell

/-! ## The worker -/

/-- What a call hands to a handler is like this. -/
def HandsOnly (Q : ImportRowProcessInput → Prop) : ImportCommand → Prop
  | .processRow input => Q input
  | _ => True

/-- What a call makes a job of is like this. -/
def CreatesOnly (Q : ImportJobData → Prop) : ImportCommand → Prop
  | .createJob data => Q data
  | _ => True

theorem HandsOnly.imp {Q R : ImportRowProcessInput → Prop} (h : ∀ input, Q input → R input)
    {c : ImportCommand} (hc : HandsOnly Q c) : HandsOnly R c := by
  cases c with
  | processRow input => exact h input hc
  | _ => trivial

theorem CreatesOnly.imp {Q R : ImportJobData → Prop} (h : ∀ data, Q data → R data)
    {c : ImportCommand} (hc : CreatesOnly Q c) : CreatesOnly R c := by
  cases c with
  | createJob data => exact h data hc
  | _ => trivial

/-- The handlers are given the rows under the mapping of the job. -/
theorem processRows_hands (payload : ImportQueuePayload) (job : ImportJob) (totalRows : ℕ)
    (rows : List ParsedImportRow) (counts : RowCounts) :
    (processRows P payload job totalRows rows counts).Issues
      (HandsOnly fun input => input.mapping = job.mapping ∧ input.row ∈ rows) := by
  induction rows generalizing counts with
  | nil => trivial
  | cons row rest ih =>
      unfold processRows
      rw [Program.issues_perform_bind_iff]
      refine ⟨trivial, fun current => ?_⟩
      split
      · exact (emit_issues (fun _ => trivial) trivial).bind fun _ => trivial
      · simp only [Program.issues_perform_bind_iff]
        refine ⟨⟨rfl, List.mem_cons_self⟩, fun _ => ⟨trivial, fun _ => ⟨trivial, fun _ => ?_⟩⟩⟩
        refine (emit_issues (fun _ => trivial) trivial).bind fun _ => ?_
        refine (ih _).mono fun c hc => hc.imp ?_
        rintro input ⟨hmapping, hrow⟩
        exact ⟨hmapping, List.mem_cons_of_mem _ hrow⟩

theorem create_stores (context : Context) (file : Option Upload) (dto : CreateImportDto) :
    (create P context file dto).Issues
      (CreatesOnly fun data => data.mapping = normalizeMapping P dto.mapping) := by
  unfold create
  simp only [Program.issues_ofExcept_bind_iff, Program.issues_throwIf_bind_iff,
    Program.issues_perform_bind_iff]
  refine fun _ _ _ _ _ => ⟨trivial, fun found => ?_⟩
  cases found with
  | some duplicate => trivial
  | none =>
      simp only [Program.issues_perform_bind_iff]
      exact ⟨trivial, fun _ => ⟨rfl, fun _ => ⟨trivial, fun _ => ⟨trivial, fun _ => trivial⟩⟩⟩⟩

/-- The stored mapping addresses the column under this header: it names the header for
the field, and in every row that the worker hands to a handler the value of the field is
that of the column. -/
structure Addresses (P : ImportPlatform) (mapping : List (String × String))
    (parsed : ParsedImportFile) (field header : String) : Prop where
  stored : mapping.lookup field = some header
  handed : ∀ payload job, job.mapping = mapping →
    (processRows P payload job parsed.rows.length parsed.rows .zero).Issues (HandsOnly fun input =>
      input.row ∈ parsed.rows ∧
        input.row.values.lookup header = some (Handlers.value input field))

theorem addresses_of_spells (hP : HeaderText P) {record : List String}
    {parsed : ParsedImportFile} (hparsed : HasHeader P record parsed)
    {mapping : List (String × String)} {field text header : String}
    (htext : mapping.lookup field = some text)
    (hspells : Spells P record parsed.headers text header) :
    Addresses P (normalizeMapping P mapping) parsed field header := by
  have hheader := hspells.1
  rw [hparsed.1] at hspells
  obtain ⟨rfl, hne⟩ := hspells.normalized hP
  have hstored : (normalizeMapping P mapping).lookup field = some (normalizeHeader P text) :=
    lookup_normalizeMapping htext (isBlank_of_normalizeHeader_ne hP hne)
  refine ⟨hstored, fun payload job hjob => ?_⟩
  refine (processRows_hands payload job _ _ _).mono fun c hc => hc.imp ?_
  rintro input ⟨hmapping, hrow⟩
  obtain ⟨cell, hcell⟩ := hparsed.lookup hheader hrow
  refine ⟨hrow, ?_⟩
  rw [value_of_lookup (by rw [hmapping, hjob]; exact hstored) hne hcell]
  exact hcell

/-- Headers are normalized alike by the three copies, and twice like once. So a field
that was mapped to a column of the preview, by its header or by the cell that this was
made of, is read by the worker in the same column. -/
theorem mapped_columns_kept (P : ImportPlatform) (hP : HeaderText P) :
    (∀ text, normalizeHeader P (normalizeHeader P text) = normalizeHeader P text) ∧
      (∀ text, ImportsService.normalizeHeader P text = normalizeHeader P text ∧
        ImportHandlerRegistry.normalizeHeader P text = normalizeHeader P text) ∧
      ∀ upload type view, preview P (some upload) type = .ok view →
        (∀ entry ∈ view.mapping, entry.2 ∈ view.detectedHeaders) ∧
          ∀ format name, extensionOf P upload.originalname = .ok format →
            extensionOf P name = .ok format →
            ∃ parsed, parse P upload.buffer name = .ok parsed ∧
              view.detectedHeaders = parsed.headers ∧ view.previewRows = parsed.rows.take 10 ∧
              ∀ context dto, (create P context (some upload) dto).Issues (CreatesOnly fun data =>
                ∀ field text header, dto.mapping.lookup field = some text →
                  Spells P (headerRecord P upload.buffer format) view.detectedHeaders text header →
                  Addresses P data.mapping parsed field header) := by
  refine ⟨normalizeHeader_idempotent hP, fun text => ⟨rfl, rfl⟩, fun upload type view hview => ?_⟩
  obtain ⟨parsed, hparsed, hheaders, hrows, hmapping⟩ := preview_eq_ok hview
  constructor
  · intro entry hentry
    rw [hmapping] at hentry
    rw [hheaders]
    exact mem_headers_of_autoMapping hentry
  · intro format name hformat hname
    refine ⟨parsed, ?_, hheaders, hrows, fun context dto => ?_⟩
    · rw [parse_of_format (hname.trans hformat.symm)]
      exact hparsed
    · refine (create_stores context (some upload) dto).mono fun c hc => hc.imp ?_
      intro data hmapping field text header htext hspells
      rw [hmapping]
      rw [hheaders] at hspells
      exact addresses_of_spells hP (parse_hasHeader hformat hparsed) htext hspells

/-- A file whose second header is spelled with white space and a capital letter. -/
def spelledUpload : Upload where
  originalname := "Clientes (1).csv"
  mimetype := "text/csv"
  size := 22
  buffer := asciiFile "nome; Documento \nAna;1"

theorem mapped_columns_kept_spelled :
    ∃ view, preview plainPlatform (some spelledUpload) .customers = .ok view ∧
      Spells plainPlatform (headerRecord plainPlatform spelledUpload.buffer .csv)
        view.detectedHeaders " Documento " "documento" ∧
      ∃ parsed, parse plainPlatform spelledUpload.buffer "Clientes _1_.csv" = .ok parsed ∧
        ∀ context dto, (create plainPlatform context (some spelledUpload) dto).Issues
          (CreatesOnly fun data => ∀ field text header, dto.mapping.lookup field = some text →
            Spells plainPlatform (headerRecord plainPlatform spelledUpload.buffer .csv)
              view.detectedHeaders text header →
            Addresses plainPlatform data.mapping parsed field header) := by
  have hread : parse plainPlatform spelledUpload.buffer spelledUpload.originalname =
      .ok ⟨["nome", "documento"], [⟨2, [("nome", "Ana"), ("documento", "1")]⟩]⟩ := by
    decide +kernel
  have hpreview : (preview plainPlatform (some spelledUpload) .customers).isOk = true := by
    decide +kernel
  obtain ⟨view, hview⟩ : ∃ view, preview plainPlatform (some spelledUpload) .customers =
      .ok view := by
    cases houtcome : preview plainPlatform (some spelledUpload) .customers with
    | ok view => exact ⟨view, rfl⟩
    | error error =>
        rw [houtcome] at hpreview
        cases hpreview
  obtain ⟨read, hparsed, hdetected, -⟩ := preview_eq_ok hview
  obtain rfl := Except.ok.inj (hread.symm.trans hparsed)
  have hspells : Spells plainPlatform (headerRecord plainPlatform spelledUpload.buffer .csv)
      view.detectedHeaders " Documento " "documento" := by
    rw [hdetected]
    exact ⟨List.mem_cons_of_mem _ List.mem_cons_self, .inr (by decide +kernel)⟩
  obtain ⟨-, -, hcolumns⟩ := mapped_columns_kept plainPlatform plainPlatform_headerText
  obtain ⟨-, hcolumns⟩ := hcolumns spelledUpload .customers view hview
  obtain ⟨parsed, hagain, -, -, hcreate⟩ :=
    hcolumns .csv "Clientes _1_.csv" (by decide +kernel) (by decide +kernel)
  refine ⟨view, hview, hspells, parsed, hagain, ?_⟩
  assumption

end Logistics.Imports
