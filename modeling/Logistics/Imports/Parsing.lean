import Logistics.Library.Program
import Logistics.Library.Text
import Logistics.Schema.Errors
import Logistics.Imports.Schema

/-!
# Reading an import file

The parser of the import module: CSV text is cut into records of cells, the
first record names the columns, and every other record with a cell that is not
blank becomes a row under its number in the file. A workbook is read by a
library and then goes the same way.
-/

namespace Logistics.Imports

open Logistics.Library

/-- What the imports take from their platform: text encoding, normalization and
letter case, the reader of workbooks, the hash, rounded percentages, the texts of
errors, and the configured limits. -/
structure ImportPlatform where
  utf8 : Buffer → String
  nfd : String → String
  toLowerCase : String → String
  /-- The cells of the first sheet, if there is one; nothing for a broken file. -/
  readSheet : Buffer → Option (Option (List (List String)))
  sha256 : Buffer → String
  roundedPercent : ℕ → ℕ → ℕ
  errorMessage : ServiceError → String
  importMaxRows : ℕ
  importMaxFileSizeBytes : ℕ

structure ParsedImportRow where
  rowNumber : ℕ
  values : List (String × String)
  deriving DecidableEq

structure ParsedImportFile where
  headers : List String
  rows : List ParsedImportRow
  deriving DecidableEq

/-! ## Headers and cells -/

def isCombiningMark (c : Char) : Bool :=
  0x300 ≤ c.toNat && c.toNat ≤ 0x36F

def isHeaderChar (c : Char) : Bool :=
  ('a' ≤ c && c ≤ 'z') || ('0' ≤ c && c ≤ '9')

/-- `replace(/[^a-z0-9]+/g, '_')`; the flag says whether a run is being replaced. -/
def underscoreRuns : Bool → List Char → List Char
  | _, [] => []
  | inRun, c :: rest =>
      if isHeaderChar c then c :: underscoreRuns false rest
      else if inRun then underscoreRuns true rest
      else '_' :: underscoreRuns true rest

def stripUnderscores (cs : List Char) : List Char :=
  (cs.dropWhile (· == '_')).rdropWhile (· == '_')

def normalizeHeader (P : ImportPlatform) (value : String) : String :=
  let plain := String.ofList ((P.nfd value).toList.filter fun c => !isCombiningMark c)
  String.ofList (stripUnderscores (underscoreRuns false (P.toLowerCase (trim plain)).toList))

def normalizeCell (value : String) : String := trim value

def normalizeHeaders (P : ImportPlatform) (cells : List String) : List String :=
  (cells.map fun cell => normalizeHeader P (normalizeCell cell)).filter (· ≠ "")

/-- `Object.fromEntries`: a later entry replaces the value of an earlier one. -/
def fromEntries (entries : List (String × String)) : List (String × String) :=
  entries.foldl (fun record entry =>
    if record.any fun other => other.1 == entry.1 then
      record.map fun other => if other.1 == entry.1 then entry else other
    else record ++ [entry]) []

def toParsedRow (headers : List String) (cells : List String) (rowNumber : ℕ) :
    List ParsedImportRow :=
  let values := fromEntries (headers.mapIdx fun index header =>
    (header, normalizeCell (cells.getD index "")))
  if values.any fun entry => !isBlank entry.2 then [⟨rowNumber, values⟩] else []

/-- The rows of the records after the first, numbered from `rowNumber`. -/
def toParsedRows (headers : List String) : List (List String) → ℕ → List ParsedImportRow
  | [], _ => []
  | cells :: rest, rowNumber =>
      toParsedRow headers cells rowNumber ++ toParsedRows headers rest (rowNumber + 1)

def toParsedFile (P : ImportPlatform) : List (List String) → ParsedImportFile
  | [] => ⟨[], []⟩
  | first :: rest =>
      let headers := normalizeHeaders P first
      ⟨headers, toParsedRows headers rest 2⟩

/-! ## CSV -/

def stripBom (value : String) : String :=
  match value.toList with
  | c :: rest => if c.toNat == 0xFEFF then String.ofList rest else value
  | [] => value

def detectDelimiter (input : List Char) : Char :=
  let firstLine := input.takeWhile (· != '\n')
  if firstLine.count ';' > firstLine.count ',' then ';' else ','

/-- The loop over the characters: inside quotes or not, the cell and the row so
far, and the rows before it, each in reverse. -/
def parseRecords (delimiter : Char) :
    Bool → List Char → List String → List (List String) → List Char → List (List String)
  | _, current, row, rows, [] =>
      ((String.ofList current.reverse :: row).reverse :: rows).reverse
  | true, current, row, rows, '"' :: '"' :: rest =>
      parseRecords delimiter true ('"' :: current) row rows rest
  | quoted, current, row, rows, c :: rest =>
      if c = '"' then parseRecords delimiter (!quoted) current row rows rest
      else if !quoted && c == delimiter then
        parseRecords delimiter quoted [] (String.ofList current.reverse :: row) rows rest
      else if !quoted && (c == '\n' || c == '\r') then
        let rows := (String.ofList current.reverse :: row).reverse :: rows
        match c, rest with
        | '\r', '\n' :: rest => parseRecords delimiter quoted [] [] rows rest
        | _, rest => parseRecords delimiter quoted [] [] rows rest
      else parseRecords delimiter quoted (c :: current) row rows rest

def parseDelimited (input : String) : List (List String) :=
  (parseRecords (detectDelimiter input.toList) false [] [] [] input.toList).filter fun cells =>
    cells.any fun cell => !isBlank cell

def parseCsv (P : ImportPlatform) (buffer : Buffer) : ParsedImportFile :=
  toParsedFile P (parseDelimited (stripBom (P.utf8 buffer)))

def parseXlsx (P : ImportPlatform) (buffer : Buffer) : Except ServiceError ParsedImportFile :=
  match P.readSheet buffer with
  | none => .error (.badRequest "Arquivo XLSX invalido ou corrompido.")
  | some none => .ok ⟨[], []⟩
  | some (some rows) => .ok (toParsedFile P rows)

/-! ## Validation -/

def findDuplicate (values : List String) : Option String :=
  go [] values
where
  go (seen : List String) : List String → Option String
    | [] => none
    | value :: rest => if value ∈ seen then some value else go (value :: seen) rest

/-- `/^[=+\-@]/` on the trimmed cell. -/
def isFormula (value : String) : Bool :=
  match (trim value).toList with
  | c :: _ => c == '=' || c == '+' || c == '-' || c == '@'
  | [] => false

def validateParsedFile (parsed : ParsedImportFile) (maxRows : ℕ) : Except ServiceError Unit :=
  if parsed.headers.length = 0 then
    .error (.badRequest "O arquivo precisa conter cabecalhos.")
  else if parsed.rows.length = 0 then
    .error (.badRequest "O arquivo nao contem linhas de dados.")
  else if parsed.rows.length > maxRows then
    .error (.badRequest ("O arquivo excede o limite de " ++ toString maxRows ++ " linhas."))
  else
    match findDuplicate parsed.headers with
    | some duplicate => .error (.badRequest ("Cabecalho duplicado: " ++ duplicate ++ "."))
    | none =>
        match parsed.rows.find? fun row => row.values.any fun entry => isFormula entry.2 with
        | some row => .error (.badRequest
            ("Formula perigosa detectada na linha " ++ toString row.rowNumber ++ "."))
        | none => .ok ()

/-- What stands after the last dot of a file name, in lower case. -/
def fileExtension (P : ImportPlatform) (filename : String) : String :=
  P.toLowerCase ((split filename '.').getLastD "")

inductive ImportFormat
  | csv | xlsx
  deriving DecidableEq

def extensionOf (P : ImportPlatform) (filename : String) : Except ServiceError ImportFormat :=
  if fileExtension P filename = "csv" then .ok .csv
  else if fileExtension P filename = "xlsx" then .ok .xlsx
  else .error (.badRequest "Formato nao suportado. Envie CSV ou XLSX.")

def parseAs (P : ImportPlatform) (buffer : Buffer) :
    ImportFormat → Except ServiceError ParsedImportFile
  | .csv => .ok (parseCsv P buffer)
  | .xlsx => parseXlsx P buffer

def parse (P : ImportPlatform) (buffer : Buffer) (filename : String) :
    Except ServiceError ParsedImportFile := do
  let extension ← extensionOf P filename
  let parsed ← parseAs P buffer extension
  validateParsedFile parsed P.importMaxRows
  pure parsed

/-! ## Row numbers -/

theorem rowNumber_of_mem_toParsedRows {headers : List String} {records : List (List String)}
    {first : ℕ} {row : ParsedImportRow} (h : row ∈ toParsedRows headers records first) :
    first ≤ row.rowNumber := by
  induction records generalizing first with
  | nil => cases h
  | cons cells rest ih =>
      rcases List.mem_append.mp h with h | h
      · unfold toParsedRow at h
        dsimp only at h
        split at h
        · rw [List.mem_singleton.mp h]
        · cases h
      · exact Nat.le_of_succ_le (ih h)

theorem toParsedRows_pairwise (headers : List String) (records : List (List String))
    (first : ℕ) :
    (toParsedRows headers records first).Pairwise fun a b => a.rowNumber < b.rowNumber := by
  induction records generalizing first with
  | nil => exact .nil
  | cons cells rest ih =>
      rw [toParsedRows, List.pairwise_append]
      refine ⟨?_, ih (first + 1), fun a ha b hb => ?_⟩
      · unfold toParsedRow
        dsimp only
        split
        · exact List.pairwise_singleton _ _
        · exact .nil
      · have hfirst : a.rowNumber = first := by
          unfold toParsedRow at ha
          dsimp only at ha
          split at ha
          · rw [List.mem_singleton.mp ha]
          · cases ha
        have hlater := rowNumber_of_mem_toParsedRows hb
        omega

theorem toParsedFile_pairwise (P : ImportPlatform) (records : List (List String)) :
    (toParsedFile P records).rows.Pairwise fun a b => a.rowNumber < b.rowNumber := by
  cases records with
  | nil => exact .nil
  | cons first rest => exact toParsedRows_pairwise _ rest 2

theorem validateParsedFile_rows {parsed : ParsedImportFile} {maxRows : ℕ}
    (h : validateParsedFile parsed maxRows = .ok ()) : parsed.rows ≠ [] := by
  unfold validateParsedFile at h
  split at h
  · cases h
  · split at h
    · cases h
    · next hrows =>
      rintro hnil
      exact hrows (by rw [hnil]; rfl)

theorem parseXlsx_pairwise {P : ImportPlatform} {buffer : Buffer} {parsed : ParsedImportFile}
    (h : parseXlsx P buffer = .ok parsed) :
    parsed.rows.Pairwise fun a b => a.rowNumber < b.rowNumber := by
  unfold parseXlsx at h
  split at h
  · cases h
  · cases h
    exact .nil
  · cases h
    exact toParsedFile_pairwise P _

theorem parse_rows {P : ImportPlatform} {buffer : Buffer} {filename : String}
    {parsed : ParsedImportFile} (h : parse P buffer filename = .ok parsed) :
    parsed.rows ≠ [] ∧ parsed.rows.Pairwise fun a b => a.rowNumber < b.rowNumber := by
  obtain ⟨format, -, h⟩ := Program.except_bind_eq_ok.mp h
  obtain ⟨read, hread, h⟩ := Program.except_bind_eq_ok.mp h
  obtain ⟨_, hvalid, h⟩ := Program.except_bind_eq_ok.mp h
  cases h
  refine ⟨validateParsedFile_rows hvalid, ?_⟩
  cases format with
  | csv =>
      cases hread
      exact toParsedFile_pairwise P _
  | xlsx => exact parseXlsx_pairwise hread

theorem nodup_rowNumbers {rows : List ParsedImportRow}
    (h : rows.Pairwise fun a b => a.rowNumber < b.rowNumber) :
    (rows.map ParsedImportRow.rowNumber).Nodup :=
  List.pairwise_map.mpr (h.imp fun hlt => Nat.ne_of_lt hlt)

/-- A platform for ASCII files, on which imports can be computed. It knows the hash
of `plainFile`. -/
def plainPlatform : ImportPlatform where
  utf8 buffer := String.ofList (buffer.map fun byte => Char.ofNat byte.toNat)
  nfd := id
  toLowerCase value := String.ofList (value.toList.map Char.toLower)
  readSheet _ := none
  sha256 _ := "dd8a4a96b17de47611e60ff1358e51fd5e71b9ba900f68b7b86f48e2473ff75b"
  roundedPercent processed total := (200 * processed + total) / (2 * total)
  errorMessage
    | .badRequest message => message
    | _ => "Falha desconhecida ao processar importacao."
  importMaxRows := 5000
  importMaxFileSizeBytes := 5242880

def plainFile : Buffer :=
  "nome;documento\nAna;1\nBia;2".toList.map fun c => UInt8.ofNat c.toNat

/-- A quoted delimiter, a doubled quote and a line break inside quotes stay in
their cell. -/
example : parseDelimited "a;b\r\n\"1;\"\"2\";\"x\ny\"\n\n" = [["a", "b"], ["1;\"2", "x\ny"]] := by
  decide +kernel

end Logistics.Imports
