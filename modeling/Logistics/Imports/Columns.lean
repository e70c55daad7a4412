import Logistics.Imports.Parsing

/-!
# Columns and their headers

The first record of a file names its columns. A header cell of which nothing is
left when it is normalized gives no name, and is dropped before the names are
joined with the cells of a record, place by place. So a column that stands behind
such a header is read at an earlier place of the record than its own.
-/

namespace Logistics.Imports

open Logistics.Library

/-! ## The values of a row -/

/-- What `toParsedRow` makes of the cells of a record. -/
def rowValues (headers cells : List String) : List (String × String) :=
  fromEntries (headers.mapIdx fun index header => (header, normalizeCell (cells.getD index "")))

def hasData (headers cells : List String) : Bool :=
  (rowValues headers cells).any fun entry => !isBlank entry.2

theorem toParsedRow_eq (headers cells : List String) (rowNumber : ℕ) :
    toParsedRow headers cells rowNumber =
      if hasData headers cells then [⟨rowNumber, rowValues headers cells⟩] else [] := rfl

/-- The rows are those of the records with data, under the numbers of these. -/
theorem mem_toParsedRows_iff {headers : List String} {records : List (List String)} {first : ℕ}
    {row : ParsedImportRow} :
    row ∈ toParsedRows headers records first ↔ ∃ index cells, records[index]? = some cells ∧
      hasData headers cells = true ∧ row = ⟨first + index, rowValues headers cells⟩ := by
  induction records generalizing first with
  | nil => simp [toParsedRows]
  | cons cells rest ih =>
      rw [toParsedRows, List.mem_append, ih, toParsedRow_eq]
      constructor
      · rintro (h | ⟨index, other, hother, hdata, rfl⟩)
        · split at h
          · next hdata => exact ⟨0, cells, rfl, hdata, List.mem_singleton.mp h⟩
          · cases h
        · exact ⟨index + 1, other, hother, hdata, by rw [Nat.add_assoc, Nat.add_comm 1]⟩
      · rintro ⟨index, other, hother, hdata, rfl⟩
        cases index with
        | zero =>
            obtain rfl := Option.some.inj hother
            left
            rw [if_pos hdata]
            exact List.mem_singleton.mpr rfl
        | succ index =>
            right
            exact ⟨index, other, hother, hdata, by rw [Nat.add_assoc, Nat.add_comm 1]⟩

theorem fromEntries_of_nodup {entries : List (String × String)}
    (h : (entries.map Prod.fst).Nodup) : fromEntries entries = entries := by
  have hgo : ∀ record : List (String × String), ((record ++ entries).map Prod.fst).Nodup →
      entries.foldl (fun record entry =>
        if record.any fun other => other.1 == entry.1 then
          record.map fun other => if other.1 == entry.1 then entry else other
        else record ++ [entry]) record = record ++ entries := by
    clear h
    induction entries with
    | nil => intro record _; simp
    | cons entry entries ih =>
        intro record hnodup
        have hfresh : (record.any fun other => other.1 == entry.1) = false := by
          rw [List.any_eq_false]
          intro other hother heq
          rw [List.map_append, List.nodup_append] at hnodup
          exact hnodup.2.2 _ (List.mem_map_of_mem hother) _ List.mem_cons_self
            (beq_iff_eq.mp heq)
        rw [List.foldl_cons, hfresh, if_neg Bool.false_ne_true, ih, List.append_assoc]
        · rfl
        · rwa [List.append_assoc]
  exact hgo [] h

theorem lookup_of_nodup {entries : List (String × String)} (h : (entries.map Prod.fst).Nodup)
    {name value : String} (hmem : (name, value) ∈ entries) :
    entries.lookup name = some value := by
  obtain ⟨before, after, rfl⟩ := List.append_of_mem hmem
  rw [List.lookup_eq_some_iff]
  refine ⟨before, after, rfl, fun entry hentry => ?_⟩
  rw [List.map_append, List.nodup_append] at h
  rw [bne_iff_ne]
  rintro rfl
  exact h.2.2 _ (List.mem_map_of_mem hentry) _ List.mem_cons_self rfl

theorem lookup_rowValues {headers : List String} (h : headers.Nodup) (cells : List String)
    {index : ℕ} {header : String} (hheader : headers[index]? = some header) :
    (rowValues headers cells).lookup header = some (normalizeCell (cells.getD index "")) := by
  have hkeys : (headers.mapIdx fun index header =>
      (header, normalizeCell (cells.getD index ""))).map Prod.fst = headers := by
    apply List.ext_getElem?
    intro i
    rw [List.getElem?_map, List.getElem?_mapIdx, Option.map_map]
    exact Option.map_id'
  rw [rowValues, fromEntries_of_nodup (by rwa [hkeys])]
  apply lookup_of_nodup (by rwa [hkeys])
  rw [List.mem_iff_getElem?]
  exact ⟨index, by rw [List.getElem?_mapIdx, hheader]; rfl⟩

/-! ## Named columns -/

theorem findDuplicate_eq_none_iff {values : List String} :
    findDuplicate values = none ↔ values.Nodup := by
  have hgo : ∀ seen, findDuplicate.go seen values = none ↔
      values.Nodup ∧ ∀ value ∈ values, value ∉ seen := by
    induction values with
    | nil => simp [findDuplicate.go]
    | cons value rest ih =>
        intro seen
        rw [findDuplicate.go]
        split
        · next hseen => simp [hseen]
        · next hseen =>
          rw [ih (value :: seen), List.nodup_cons]
          simp only [List.mem_cons, not_or, forall_eq_or_imp]
          constructor
          · rintro ⟨hrest, hfresh⟩
            exact ⟨⟨fun hmem => (hfresh value hmem).1 rfl, hrest⟩, hseen,
              fun other hother => (hfresh other hother).2⟩
          · rintro ⟨⟨hnot, hrest⟩, -, hfresh⟩
            exact ⟨hrest, fun other hother =>
              ⟨fun heq => hnot (heq ▸ hother), hfresh other hother⟩⟩
  have h := hgo []
  simpa [findDuplicate] using h

theorem headers_of_validateParsedFile {parsed : ParsedImportFile} {maxRows : ℕ}
    (h : validateParsedFile parsed maxRows = .ok ()) :
    parsed.headers ≠ [] ∧ parsed.headers.Nodup := by
  unfold validateParsedFile at h
  split at h
  · cases h
  · next hlength =>
    refine ⟨fun hnil => hlength (by rw [hnil]; rfl), ?_⟩
    split at h
    · cases h
    · split at h
      · cases h
      · split at h
        · cases h
        · next hnone => exact findDuplicate_eq_none_iff.mp hnone

/-- The name that a header cell gives to its column, perhaps empty. -/
def columnName (P : ImportPlatform) (cell : String) : String :=
  normalizeHeader P (normalizeCell cell)

theorem normalizeHeaders_append (P : ImportPlatform) (xs ys : List String) :
    normalizeHeaders P (xs ++ ys) = normalizeHeaders P xs ++ normalizeHeaders P ys := by
  rw [normalizeHeaders, List.map_append, List.filter_append]
  rfl

/-- How many columns with a name stand before this one. -/
def namedBefore (P : ImportPlatform) (header : List String) (column : ℕ) : ℕ :=
  (normalizeHeaders P (header.take column)).length

/-- The name of a column is found among the headers behind those of the named
columns before it. -/
theorem headers_at_namedBefore (P : ImportPlatform) {header : List String} {column : ℕ}
    {cell : String} (hcell : header[column]? = some cell) (hname : columnName P cell ≠ "") :
    (normalizeHeaders P header)[namedBefore P header column]? = some (columnName P cell) := by
  obtain ⟨hlt, rfl⟩ := List.getElem?_eq_some_iff.mp hcell
  have hsplit : header = header.take column ++ header[column] :: header.drop (column + 1) := by
    rw [List.getElem_cons_drop, List.take_append_drop]
  have hrest : normalizeHeaders P (header[column] :: header.drop (column + 1)) =
      columnName P header[column] :: normalizeHeaders P (header.drop (column + 1)) := by
    unfold normalizeHeaders
    rw [List.map_cons]
    exact List.filter_cons_of_pos (decide_eq_true hname)
  conv_lhs => rw [hsplit]
  rw [normalizeHeaders_append, hrest, namedBefore, List.getElem?_append_right ?_]
  · rw [← hsplit, Nat.sub_self]
    rfl
  · rw [← hsplit]

/-! ## Alignment -/

/-- In every row each named column has the value of its own cell in the record the
row was made of. -/
def ColumnsAligned (P : ImportPlatform) (header : List String) (records : List (List String))
    (parsed : ParsedImportFile) : Prop :=
  ∀ row ∈ parsed.rows, ∀ cells, records[row.rowNumber - 2]? = some cells →
    ∀ column cell, header[column]? = some cell → columnName P cell ≠ "" →
      row.values.lookup (columnName P cell) = some (trim (cells.getD column ""))

/-- In every record that becomes a row, the cell of a named column is the same as
the cell at the number of named columns before it. -/
def ShiftsNothing (P : ImportPlatform) (header : List String) (records : List (List String)) :
    Prop :=
  ∀ cells ∈ records, hasData (normalizeHeaders P header) cells = true →
    ∀ column cell, header[column]? = some cell → columnName P cell ≠ "" →
      trim (cells.getD (namedBefore P header column) "") = trim (cells.getD column "")

theorem toParsedFile_aligned_iff (P : ImportPlatform) (header : List String)
    (records : List (List String)) (hnodup : (normalizeHeaders P header).Nodup) :
    ColumnsAligned P header records (toParsedFile P (header :: records)) ↔
      ShiftsNothing P header records := by
  constructor
  · intro h cells hcells hdata column cell hcell hname
    obtain ⟨index, hindex⟩ := List.mem_iff_getElem?.mp hcells
    have hrow : (⟨2 + index, rowValues (normalizeHeaders P header) cells⟩ : ParsedImportRow) ∈
        toParsedRows (normalizeHeaders P header) records 2 :=
      mem_toParsedRows_iff.mpr ⟨index, cells, hindex, hdata, rfl⟩
    have hvalue := h _ hrow cells (by rw [Nat.add_sub_cancel_left]; exact hindex) column cell hcell
      hname
    rw [lookup_rowValues hnodup cells (headers_at_namedBefore P hcell hname)] at hvalue
    exact Option.some.inj hvalue
  · intro h row hrow cells hcells column cell hcell hname
    obtain ⟨index, own, hown, hdata, rfl⟩ := mem_toParsedRows_iff.mp hrow
    rw [Nat.add_sub_cancel_left] at hcells
    obtain rfl := Option.some.inj (hown.symm.trans hcells)
    rw [lookup_rowValues hnodup own (headers_at_namedBefore P hcell hname)]
    exact congrArg some (h own (List.mem_of_getElem? hown) hdata column cell hcell hname)

/-- What an accepted CSV file was read from. -/
theorem parse_csv {P : ImportPlatform} {buffer : Buffer} {filename : String}
    {parsed : ParsedImportFile} (hcsv : extensionOf P filename = .ok .csv)
    (h : parse P buffer filename = .ok parsed) :
    parsed = parseCsv P buffer ∧ parsed.headers ≠ [] ∧ parsed.headers.Nodup := by
  obtain ⟨format, hformat, h⟩ := Program.except_bind_eq_ok.mp h
  obtain ⟨read, hread, h⟩ := Program.except_bind_eq_ok.mp h
  obtain ⟨_, hvalid, h⟩ := Program.except_bind_eq_ok.mp h
  cases h
  obtain rfl := Except.ok.inj (hformat.symm.trans hcsv)
  exact ⟨(Except.ok.inj hread).symm, headers_of_validateParsedFile hvalid⟩

/-- The columns of an accepted CSV file are aligned with their headers exactly when
leaving out the nameless columns moves no text of a record to another column. -/
theorem columns_aligned_iff (P : ImportPlatform) (buffer : Buffer) (filename : String)
    (hcsv : extensionOf P filename = .ok .csv) (parsed : ParsedImportFile)
    (h : parse P buffer filename = .ok parsed) :
    ∃ header records, parseDelimited (stripBom (P.utf8 buffer)) = header :: records ∧
      (ColumnsAligned P header records parsed ↔ ShiftsNothing P header records) := by
  obtain ⟨rfl, hheaders, hnodup⟩ := parse_csv hcsv h
  rw [parseCsv] at hheaders hnodup ⊢
  cases hrecords : parseDelimited (stripBom (P.utf8 buffer)) with
  | nil =>
      rw [hrecords] at hheaders
      exact absurd rfl hheaders
  | cons header records =>
      rw [hrecords] at hnodup
      exact ⟨header, records, rfl, toParsedFile_aligned_iff P header records hnodup⟩

def asciiFile (text : String) : Buffer := text.toList.map fun c => UInt8.ofNat c.toNat

/-- The second and the last column have no name. The cell of the second is that of the
third, so nothing is shifted. -/
theorem columns_aligned_iff_plain :
    extensionOf plainPlatform "clientes.csv" = .ok .csv ∧
      ∃ parsed, parse plainPlatform (asciiFile "nome;;documento;\nAna;1;1;x") "clientes.csv" =
          .ok parsed ∧
        parsed.rows ≠ [] ∧
        ∃ header records, parseDelimited (stripBom (plainPlatform.utf8
            (asciiFile "nome;;documento;\nAna;1;1;x"))) = header :: records ∧
          "" ∈ header ∧ ColumnsAligned plainPlatform header records parsed := by
  have hcsv : extensionOf plainPlatform "clientes.csv" = .ok .csv := by decide +kernel
  have hparse : parse plainPlatform (asciiFile "nome;;documento;\nAna;1;1;x") "clientes.csv" =
      .ok ⟨["nome", "documento"], [⟨2, [("nome", "Ana"), ("documento", "1")]⟩]⟩ := by
    decide +kernel
  have hrecords : parseDelimited (stripBom (plainPlatform.utf8
      (asciiFile "nome;;documento;\nAna;1;1;x"))) =
        [["nome", "", "documento", ""], ["Ana", "1", "1", "x"]] := by
    decide +kernel
  obtain ⟨header, records, hread, hiff⟩ := columns_aligned_iff plainPlatform _ _ hcsv _ hparse
  obtain ⟨rfl, rfl⟩ := List.cons.inj (hrecords.symm.trans hread)
  have hcolumns : ∀ column < 4,
      columnName plainPlatform (["nome", "", "documento", ""].getD column "") ≠ "" →
        trim (["Ana", "1", "1", "x"].getD
          (namedBefore plainPlatform ["nome", "", "documento", ""] column) "") =
            trim (["Ana", "1", "1", "x"].getD column "") := by
    decide +kernel
  refine ⟨hcsv, _, hparse, List.cons_ne_nil _ _, _, _, hread, by decide, hiff.mpr ?_⟩
  intro cells hcells _ column cell hcell hname
  obtain rfl := List.mem_singleton.mp hcells
  obtain ⟨hlt, -⟩ := List.getElem?_eq_some_iff.mp hcell
  refine hcolumns column hlt ?_
  rwa [List.getD_eq_getElem?_getD, hcell]

/-- The second column has no name, so the third is read in its place. -/
theorem columns_are_shifted :
    ¬∀ (P : ImportPlatform) (buffer : Buffer) (filename : String),
      extensionOf P filename = .ok .csv → ∀ parsed, parse P buffer filename = .ok parsed →
        ∀ header records, parseDelimited (stripBom (P.utf8 buffer)) = header :: records →
          ColumnsAligned P header records parsed := by
  intro h
  have hvalue := h plainPlatform (asciiFile "nome;;documento\nAna;x;1") "clientes.csv"
    (by decide +kernel) ⟨["nome", "documento"], [⟨2, [("nome", "Ana"), ("documento", "x")]⟩]⟩
    (by decide +kernel) ["nome", "", "documento"] [["Ana", "x", "1"]] (by decide +kernel)
    ⟨2, [("nome", "Ana"), ("documento", "x")]⟩ List.mem_cons_self ["Ana", "x", "1"] rfl 2
    "documento" rfl (by decide +kernel)
  revert hvalue
  decide +kernel

end Logistics.Imports
