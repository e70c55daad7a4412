import Logistics.Imports.Columns

/-!
# Row numbers

The parser drops the blank records of a file at two places: `parseDelimited` before
the records are numbered, `toParsedRow` afterwards, where a record has no data in
the named columns. So the number of a row is that of its record in the file exactly
when no blank record stands before it.
-/

namespace Logistics.Imports

open Logistics.Library

/-! ## Positions -/

section Positions

variable {α : Type} {p : α → Bool}

theorem split_of_mem_zipIdx_filter {xs : List α} {a b : ℕ} {entry : (α × ℕ) × ℕ}
    (h : entry ∈ ((xs.zipIdx a).filter fun x => p x.1).zipIdx b) :
    ∃ before after, xs = before ++ entry.1.1 :: after ∧ entry.1.2 = a + before.length ∧
      entry.2 = b + before.countP p := by
  induction xs generalizing a b with
  | nil => cases h
  | cons x xs ih =>
      rw [List.zipIdx_cons, List.filter_cons] at h
      split at h
      · next hx =>
        rcases List.mem_cons.mp h with rfl | h
        · exact ⟨[], xs, rfl, rfl, rfl⟩
        · obtain ⟨before, after, rfl, hposition, hnumber⟩ := ih h
          refine ⟨x :: before, after, rfl, ?_, ?_⟩
          · rw [hposition, List.length_cons, Nat.add_right_comm, Nat.add_assoc]
          · rw [hnumber, List.countP_cons_of_pos hx, Nat.add_right_comm, Nat.add_assoc]
      · next hx =>
        obtain ⟨before, after, rfl, hposition, hnumber⟩ := ih h
        refine ⟨x :: before, after, rfl, ?_, ?_⟩
        · rw [hposition, List.length_cons, Nat.add_right_comm, Nat.add_assoc]
        · rw [hnumber, List.countP_cons_of_neg hx]

/-- The two positions agree exactly when everything before is kept. -/
theorem position_eq_iff {xs : List α} {first : ℕ} {entry : (α × ℕ) × ℕ}
    (h : entry ∈ ((xs.zipIdx first).filter fun x => p x.1).zipIdx first) :
    entry.2 = entry.1.2 ↔ ∀ x ∈ xs.take (entry.1.2 - first), p x = true := by
  obtain ⟨before, after, hsplit, hposition, hnumber⟩ := split_of_mem_zipIdx_filter h
  have htake : xs.take (entry.1.2 - first) = before := by
    rw [hposition, Nat.add_sub_cancel_left, hsplit, List.take_left']
    rfl
  rw [htake, ← List.countP_eq_length, hposition, hnumber, Nat.add_left_cancel_iff]

theorem filter_eq_map_zipIdx (xs : List α) (first : ℕ) :
    xs.filter p = ((xs.zipIdx first).filter fun x => p x.1).map Prod.fst := by
  conv_lhs => rw [← List.zipIdx_map_fst first xs]
  exact List.filter_map

end Positions

/-! ## Records -/

/-- All records of a text, the blank ones too. -/
def allRecords (input : String) : List (List String) :=
  parseRecords (detectDelimiter input.toList) false [] [] [] input.toList

def hasCells (cells : List String) : Bool := cells.any fun cell => !isBlank cell

theorem parseDelimited_eq (input : String) :
    parseDelimited input = (allRecords input).filter hasCells := rfl

/-- The positions in the file, counted from 1, of the records that become rows: those
behind the first record that is not blank which have data in a named column. -/
def dataPositions (P : ImportPlatform) (input : String) : List ℕ :=
  match ((allRecords input).zipIdx 1).filter fun record => hasCells record.1 with
  | [] => []
  | header :: rest =>
      (rest.filter fun record => hasData (normalizeHeaders P header.1) record.1).map Prod.snd

theorem toParsedRows_rowNumber (headers : List String) (records : List (List String × ℕ))
    (first : ℕ) :
    (toParsedRows headers (records.map Prod.fst) first).map ParsedImportRow.rowNumber =
      ((records.zipIdx first).filter fun record => hasData headers record.1.1).map Prod.snd := by
  induction records generalizing first with
  | nil => rfl
  | cons record rest ih =>
      rw [List.map_cons, toParsedRows, List.map_append, ih, toParsedRow_eq, List.zipIdx_cons,
        List.filter_cons]
      split <;> rfl

theorem dataPositions_eq (headers : List String) (records : List (List String × ℕ)) (first : ℕ) :
    (records.filter fun record => hasData headers record.1).map Prod.snd =
      ((records.zipIdx first).filter fun record => hasData headers record.1.1).map
        fun record => record.1.2 := by
  rw [filter_eq_map_zipIdx records first, List.map_map]
  rfl

/-- Every row carries the position of its record in the file exactly when no blank
record stands before a record that becomes a row. -/
theorem rowNumbers_eq_iff (P : ImportPlatform) (buffer : Buffer) :
    (parseCsv P buffer).rows.map ParsedImportRow.rowNumber =
        dataPositions P (stripBom (P.utf8 buffer)) ↔
      ∀ position ∈ dataPositions P (stripBom (P.utf8 buffer)),
        ∀ cells ∈ (allRecords (stripBom (P.utf8 buffer))).take (position - 1),
          hasCells cells = true := by
  generalize hinput : stripBom (P.utf8 buffer) = input
  have hrecords : parseDelimited input =
      (((allRecords input).zipIdx 1).filter fun record => hasCells record.1).map Prod.fst := by
    rw [parseDelimited_eq]
    exact filter_eq_map_zipIdx _ 1
  rw [parseCsv, hinput, hrecords, dataPositions]
  have hposition : ∀ entry ∈
      (((allRecords input).zipIdx 1).filter fun record => hasCells record.1).zipIdx 1,
      (entry.2 = entry.1.2 ↔ ∀ cells ∈ (allRecords input).take (entry.1.2 - 1),
        hasCells cells = true) := fun entry => position_eq_iff
  cases hkept : ((allRecords input).zipIdx 1).filter fun record => hasCells record.1 with
  | nil => simp [toParsedFile]
  | cons header rest =>
      rw [hkept] at hposition
      have hrows : (toParsedFile P ((header :: rest).map Prod.fst)).rows =
          toParsedRows (normalizeHeaders P header.1) (rest.map Prod.fst) 2 := rfl
      dsimp only
      rw [hrows, toParsedRows_rowNumber, dataPositions_eq _ rest 2, List.map_inj_left]
      constructor
      · intro hsame position hmem
        obtain ⟨entry, hentry, rfl⟩ := List.mem_map.mp hmem
        have hkeptEntry := List.mem_cons_of_mem (header, 1) (List.mem_of_mem_filter hentry)
        exact (hposition entry hkeptEntry).mp (hsame entry hentry)
      · intro hfull entry hentry
        have hkeptEntry := List.mem_cons_of_mem (header, 1) (List.mem_of_mem_filter hentry)
        exact (hposition entry hkeptEntry).mpr (hfull _ (List.mem_map_of_mem hentry))

/-- The second record is blank, so the row of the third has number 2. -/
theorem a_row_is_numbered_before_its_record :
    ¬∀ (P : ImportPlatform) (buffer : Buffer),
      (parseCsv P buffer).rows.map ParsedImportRow.rowNumber =
        dataPositions P (stripBom (P.utf8 buffer)) := by
  intro h
  have hnumbers := h plainPlatform (asciiFile "nome;documento\n\nAna;1")
  revert hnumbers
  decide +kernel

end Logistics.Imports
