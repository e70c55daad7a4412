import Logistics.Imports.Numbering
import Logistics.Imports.Reading

/-!
# CSV written and read

The error report and the import template are written the same way: the cells are
escaped, the cells of a row joined by commas and the rows by line feeds. The parser
reads such a text back as the table it was written from, unless its first row makes
it look for semicolons.
-/

namespace Logistics.Imports

open Logistics.Library

/-! ## Writing -/

/-- `rows.map((row) => row.map(escapeCsv).join(',')).join('\n')` -/
def encodeCsv (table : List (List String)) : String := "\n".intercalate (table.map csvLine)

def sampleRows : ImportType → List (List String)
  | .customers => [
      ["Mercado Alpha", "11222333000181", "operacoes@mercadoalpha.dev", "11999990000", "20040002",
        "Rio de Janeiro", "RJ"],
      ["Loja Beta", "12345678909", "contato@lojabeta.dev", "21988887777", "30140071",
        "Belo Horizonte", "MG"]]
  | .carriers => [
      ["Rapida Transportes", "RAPIDA", "22333444000191", "Rapida Transportes SA",
        "contato@rapida.dev", "1133334444", "Comercial", "https://rapida.dev"],
      ["Economica Cargo", "ECONOMICA", "33444555000144", "Economica Cargo LTDA",
        "ops@economica.dev", "1133335555", "Operacoes", "https://economica.dev"]]

structure ImportTemplateDto where
  columns : List String
  csv : String
  fields : List ImportFieldDefinition
  type : ImportType

def template (type : ImportType) : ImportTemplateDto :=
  let columns := (fields type).map fun field => field.aliases.headD field.key
  { columns
    csv := encodeCsv (columns :: sampleRows type)
    fields := fields type
    type }

/-- The rows of an error report, under its header. -/
def reportTable (rows : List ImportRowResult) : List (List String) :=
  ["linha", "referencia", "codigo", "erro"] :: rows.map fun row =>
    [toString row.rowNumber, row.externalReference.getD "", row.errorCode.getD "",
      row.errorMessage.getD ""]

theorem presentReport_content (importJobId : Id) (rows : List ImportRowResult) :
    (presentReport importJobId rows).content = encodeCsv (reportTable rows) := by
  rw [encodeCsv, reportTable, List.map_cons, List.map_map]
  rfl

/-! ## The characters of a line -/

def isCsvSpecial (c : Char) : Bool := c == '"' || c == ',' || c == '\n'

def doubleQuotes (cs : List Char) : List Char :=
  cs.flatMap fun c => if c == '"' then ['"', '"'] else [c]

theorem escapeCsv_of_plain {value : String} (h : ∀ c ∈ value.toList, isCsvSpecial c = false) :
    escapeCsv value = value := by
  unfold escapeCsv
  rw [if_neg]
  rw [Bool.not_eq_true, List.any_eq_false]
  intro c hc hspecial
  have hplain := h c hc
  rw [isCsvSpecial, hspecial] at hplain
  cases hplain

theorem escapeCsv_of_special {value : String} (h : ¬∀ c ∈ value.toList, isCsvSpecial c = false) :
    (escapeCsv value).toList = '"' :: (doubleQuotes value.toList ++ ['"']) := by
  unfold escapeCsv
  rw [if_pos, String.toList_ofList]
  · rfl
  · rw [List.any_eq_true]
    by_contra hnone
    refine h fun c hc => ?_
    by_contra hspecial
    rw [Bool.not_eq_false] at hspecial
    exact hnone ⟨c, hc, hspecial⟩

/-! ## Reading a cell -/

section Reading

variable {row : List String} {rows : List (List String)}

theorem parseRecords_plain {delimiter : Char} {current cs : List Char} (rest : List Char)
    (h : ∀ c ∈ cs, c ≠ '"' ∧ c ≠ delimiter ∧ c ≠ '\n' ∧ c ≠ '\r') :
    parseRecords delimiter false current row rows (cs ++ rest) =
      parseRecords delimiter false (cs.reverse ++ current) row rows rest := by
  induction cs generalizing current with
  | nil => rfl
  | cons c cs ih =>
      obtain ⟨hquote, hdelimiter, hfeed, hreturn⟩ := h c List.mem_cons_self
      rw [List.cons_append, parseRecords, if_neg hquote, if_neg (by simpa using hdelimiter),
        if_neg (by simp [hfeed, hreturn]), ih fun d hd => h d (List.mem_cons_of_mem _ hd),
        List.reverse_cons, List.append_assoc, List.singleton_append]
      intro rest' heq
      exact absurd heq Bool.false_ne_true

theorem parseRecords_doubleQuotes {delimiter : Char} {current : List Char} (cs rest : List Char) :
    parseRecords delimiter true current row rows (doubleQuotes cs ++ rest) =
      parseRecords delimiter true (cs.reverse ++ current) row rows rest := by
  induction cs generalizing current with
  | nil => rfl
  | cons c cs ih =>
      rw [doubleQuotes, List.flatMap_cons, ← doubleQuotes, List.append_assoc, List.reverse_cons,
        List.append_assoc, List.singleton_append, ← ih]
      by_cases hquote : c = '"'
      · subst hquote
        rfl
      · rw [if_neg (by simpa using hquote), List.singleton_append, parseRecords, if_neg hquote,
          if_neg (by simp), if_neg (by simp)]
        intro rest' _ heq
        exact absurd heq hquote

theorem parseRecords_open (delimiter : Char) (current rest : List Char) :
    parseRecords delimiter false current row rows ('"' :: rest) =
      parseRecords delimiter true current row rows rest := by
  rw [parseRecords, if_pos rfl]
  · rfl
  · intro rest' heq
    exact absurd heq Bool.false_ne_true

theorem parseRecords_comma (current rest : List Char) :
    parseRecords ',' false current row rows (',' :: rest) =
      parseRecords ',' false [] (String.ofList current.reverse :: row) rows rest := rfl

theorem parseRecords_lineFeed (current rest : List Char) :
    parseRecords ',' false current row rows ('\n' :: rest) =
      parseRecords ',' false [] [] ((String.ofList current.reverse :: row).reverse :: rows) rest :=
  rfl

theorem parseRecords_close {delimiter : Char} {current rest : List Char}
    (hrest : rest.head? ≠ some '"') :
    parseRecords delimiter true current row rows ('"' :: rest) =
      parseRecords delimiter false current row rows rest := by
  cases rest with
  | nil => rfl
  | cons c rest =>
      rw [parseRecords, if_pos rfl]
      · rfl
      · intro rest' _ _ heq
        rw [heq] at hrest
        exact hrest rfl

/-- An escaped cell is read as the cell, up to the delimiter or the end of the line. -/
theorem parseRecords_escapeCsv {value : String} {rest : List Char}
    (hvalue : '\r' ∉ value.toList) (hrest : rest.head? ≠ some '"') :
    parseRecords ',' false [] row rows ((escapeCsv value).toList ++ rest) =
      parseRecords ',' false value.toList.reverse row rows rest := by
  by_cases hplain : ∀ c ∈ value.toList, isCsvSpecial c = false
  · rw [escapeCsv_of_plain hplain, parseRecords_plain, List.append_nil]
    intro c hc
    have hc' := hplain c hc
    simp only [isCsvSpecial, Bool.or_eq_false_iff, beq_eq_false_iff_ne] at hc'
    exact ⟨hc'.1.1, hc'.1.2, hc'.2, fun heq => hvalue (heq ▸ hc)⟩
  · rw [escapeCsv_of_special hplain, List.cons_append, List.append_assoc]
    rw [parseRecords_open, parseRecords_doubleQuotes, List.append_nil]
    exact parseRecords_close hrest

theorem toList_csvLine_cons (cell next : String) (cells : List String) :
    (csvLine (cell :: next :: cells)).toList =
      (escapeCsv cell).toList ++ ',' :: (csvLine (next :: cells)).toList := by
  simp [csvLine]

/-! ## Reading a line and a table -/

/-- A line is read as its cells, whatever `finish` the text behind it makes of a row. -/
theorem parseRecords_csvLine (rows : List (List String)) {rest : List Char}
    (finish : List String → List (List String))
    (hfinish : ∀ current row, parseRecords ',' false current row rows rest =
      finish (row.reverse ++ [String.ofList current.reverse]))
    (hrest : rest.head? ≠ some '"') {cells : List String} (hcells : cells ≠ [])
    (hreturn : ∀ cell ∈ cells, '\r' ∉ cell.toList) (row : List String) :
    parseRecords ',' false [] row rows ((csvLine cells).toList ++ rest) =
      finish (row.reverse ++ cells) := by
  induction cells generalizing row with
  | nil => exact absurd rfl hcells
  | cons cell cells ih =>
      have hcell := hreturn cell List.mem_cons_self
      cases cells with
      | nil =>
          have hline : csvLine [cell] = escapeCsv cell := by simp [csvLine]
          rw [hline, parseRecords_escapeCsv hcell hrest, hfinish, List.reverse_reverse,
            String.ofList_toList]
      | cons next cells =>
          rw [toList_csvLine_cons, List.append_assoc, parseRecords_escapeCsv hcell (by simp),
            List.cons_append, parseRecords_comma, List.reverse_reverse, String.ofList_toList,
            ih (List.cons_ne_nil _ _)
              (fun other hother => hreturn other (List.mem_cons_of_mem _ hother)),
            List.reverse_cons, List.append_assoc, List.singleton_append]

theorem toList_encodeCsv_cons (row next : List String) (table : List (List String)) :
    (encodeCsv (row :: next :: table)).toList =
      (csvLine row).toList ++ '\n' :: (encodeCsv (next :: table)).toList := by
  simp [encodeCsv]

theorem parseRecords_encodeCsv {table : List (List String)} (htable : table ≠ [])
    (hcells : ∀ row ∈ table, row ≠ []) (hreturn : ∀ row ∈ table, ∀ cell ∈ row, '\r' ∉ cell.toList)
    (rows : List (List String)) :
    parseRecords ',' false [] [] rows (encodeCsv table).toList = rows.reverse ++ table := by
  induction table generalizing rows with
  | nil => exact absurd rfl htable
  | cons row table ih =>
      have hrow := hcells row List.mem_cons_self
      have hplain := hreturn row List.mem_cons_self
      cases table with
      | nil =>
          have hend := parseRecords_csvLine rows (fun row => rows.reverse ++ [row])
            (fun current row => by
              rw [parseRecords, List.reverse_cons, List.reverse_cons]) (by simp) hrow hplain []
          rw [List.append_nil] at hend
          have hline : encodeCsv [row] = csvLine row := by simp [encodeCsv]
          rw [hline, hend]
          rfl
      | cons next table =>
          have hline := parseRecords_csvLine rows
            (fun row => parseRecords ',' false [] [] (row :: rows)
              (encodeCsv (next :: table)).toList)
            (fun current row => by rw [parseRecords_lineFeed, List.reverse_cons]) (by simp) hrow
            hplain []
          rw [toList_encodeCsv_cons, hline, List.reverse_nil, List.nil_append,
            ih (List.cons_ne_nil _ _)
              (fun other hother => hcells other (List.mem_cons_of_mem _ hother))
              (fun other hother => hreturn other (List.mem_cons_of_mem _ hother)),
            List.reverse_cons, List.append_assoc]
          rfl

end Reading

/-! ## The delimiter -/

theorem mem_escapeCsv {value : String} {c : Char} (hc : c ∈ (escapeCsv value).toList) :
    c = '"' ∨ c ∈ value.toList := by
  by_cases hplain : ∀ c ∈ value.toList, isCsvSpecial c = false
  · rw [escapeCsv_of_plain hplain] at hc
    exact .inr hc
  · rw [escapeCsv_of_special hplain] at hc
    rcases List.mem_cons.mp hc with rfl | hc
    · exact .inl rfl
    · rcases List.mem_append.mp hc with hc | hc
      · obtain ⟨d, hd, hc⟩ := List.mem_flatMap.mp hc
        split at hc
        · exact .inl (by simpa using hc)
        · exact .inr (by rwa [List.mem_singleton.mp hc])
      · exact .inl (List.mem_singleton.mp hc)

theorem semicolon_not_mem_csvLine {cells : List String} (h : ∀ cell ∈ cells, ';' ∉ cell.toList) :
    ';' ∉ (csvLine cells).toList := by
  induction cells with
  | nil => simp [csvLine]
  | cons cell cells ih =>
      have hcell : ';' ∉ (escapeCsv cell).toList := by
        intro hmem
        rcases mem_escapeCsv hmem with heq | hmem
        · exact absurd heq (by decide)
        · exact h cell List.mem_cons_self hmem
      cases cells with
      | nil => simpa [csvLine] using hcell
      | cons next cells =>
          rw [toList_csvLine_cons, List.mem_append, List.mem_cons, not_or, not_or]
          exact ⟨hcell, by decide, ih fun other hother => h other (List.mem_cons_of_mem _ hother)⟩

theorem mem_of_mem_firstLine {line rest : List Char} (hrest : ∀ c ∈ rest.head?, c = '\n') {c : Char}
    (hc : c ∈ (line ++ rest).takeWhile (· != '\n')) : c ∈ line := by
  induction line with
  | nil =>
      cases rest with
      | nil => cases hc
      | cons d rest =>
          obtain rfl := hrest d rfl
          cases hc
  | cons d line ih =>
      rw [List.cons_append, List.takeWhile_cons] at hc
      split at hc
      · rcases List.mem_cons.mp hc with rfl | hc
        · exact List.mem_cons_self
        · exact List.mem_cons_of_mem _ (ih hc)
      · cases hc

theorem detectDelimiter_encodeCsv {table : List (List String)}
    (hfirst : ∀ row ∈ table.head?, ∀ cell ∈ row, ';' ∉ cell.toList) :
    detectDelimiter (encodeCsv table).toList = ',' := by
  have hnone : ((encodeCsv table).toList.takeWhile (· != '\n')).count ';' = 0 := by
    rw [List.count_eq_zero]
    cases table with
    | nil => simp [encodeCsv]
    | cons row table =>
        have hrow := semicolon_not_mem_csvLine (hfirst row rfl)
        cases table with
        | nil =>
            have hsingle : (encodeCsv [row]).toList = (csvLine row).toList ++ [] := by
              simp [encodeCsv]
            rw [hsingle]
            exact fun hmem => hrow (mem_of_mem_firstLine (by simp) hmem)
        | cons next table =>
            rw [toList_encodeCsv_cons]
            exact fun hmem => hrow (mem_of_mem_firstLine (by simp) hmem)
  rw [detectDelimiter, hnone, if_neg (Nat.not_lt_zero _)]

/-! ## The round trip -/

/-- A table without carriage returns, whose rows each have a cell that is not blank
and whose first row has no semicolons. -/
structure ReadsBack (table : List (List String)) : Prop where
  no_return : ∀ row ∈ table, ∀ cell ∈ row, '\r' ∉ cell.toList
  has_cells : ∀ row ∈ table, hasCells row = true
  first_row : ∀ row ∈ table.head?, ∀ cell ∈ row, ';' ∉ cell.toList

theorem ReadsBack.parseDelimited {table : List (List String)} (h : ReadsBack table) :
    parseDelimited (encodeCsv table) = table := by
  have hrecords : allRecords (encodeCsv table) =
      parseRecords ',' false [] [] [] (encodeCsv table).toList := by
    rw [allRecords, detectDelimiter_encodeCsv h.first_row]
  rw [parseDelimited_eq, hrecords]
  cases table with
  | nil => decide
  | cons row table =>
      rw [parseRecords_encodeCsv (List.cons_ne_nil _ _) ?_ h.no_return, List.reverse_nil,
        List.nil_append]
      · exact List.filter_eq_self.mpr h.has_cells
      · rintro cells hcells rfl
        have hnone := h.has_cells [] hcells
        cases hnone

/-- A table whose first row has no semicolons, whose rows are not blank and whose
cells have no carriage return is read back from the text it is written as, whatever
quotes, commas, semicolons and line feeds its cells hold. -/
theorem parseDelimited_encodeCsv (table : List (List String))
    (hfirst : ∀ row ∈ table.head?, ∀ cell ∈ row, ';' ∉ cell.toList)
    (hcells : ∀ row ∈ table, ∃ cell ∈ row, isBlank cell = false)
    (hreturn : ∀ row ∈ table, ∀ cell ∈ row, '\r' ∉ cell.toList) :
    parseDelimited (encodeCsv table) = table := by
  refine ReadsBack.parseDelimited ⟨hreturn, fun row hrow => ?_, hfirst⟩
  obtain ⟨cell, hcell, hblank⟩ := hcells row hrow
  exact List.any_eq_true.mpr ⟨cell, hcell, by rw [hblank]; rfl⟩

theorem parseDelimited_encodeCsv_quoted :
    parseDelimited (encodeCsv [["nome", "cidade"], ["Ana \"A\"; B", "x,\ny"]]) =
      [["nome", "cidade"], ["Ana \"A\"; B", "x,\ny"]] :=
  parseDelimited_encodeCsv _ (by decide) (by decide) (by decide)

end Logistics.Imports
