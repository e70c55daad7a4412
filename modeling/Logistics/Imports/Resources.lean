import Logistics.Imports.Conflicts
import Logistics.Imports.Passes

/-!
# A resource and the rows of a file

Rows of one file are told apart by one reference: the document of a customer, the
code of a carrier. A customer is looked for by that reference alone, so no two rows
write the same one. A carrier is looked for by its document too: a row with another
code and the document of a row before it takes the carrier that that row has written.
-/

namespace Logistics.Imports

open Logistics.Library Handlers

/-- The resource that a row has written. -/
def writtenId (result : ImportRowProcessResult) : Option Id :=
  if result.status = .success then result.createdResourceId else none

@[simp] theorem writtenId_error (code message reference : String)
    (normalizedData : List (String × String)) :
    writtenId (error code message reference normalizedData) = none := rfl

@[simp] theorem writtenId_skipped (id : Id) (reference : String)
    (normalizedData : List (String × String)) :
    writtenId (processed .skipped id reference normalizedData) = none := rfl

@[simp] theorem writtenId_success (id : Id) (reference : String)
    (normalizedData : List (String × String)) :
    writtenId (processed .success id reference normalizedData) = some id := rfl

/-- No two rows have written one resource. -/
def OneResourceEach (results : List ImportRowProcessResult) : Prop :=
  (results.filterMap writtenId).Nodup

section

variable [Collation]

/-! ## Rows that find no resource of the pass -/

section

variable {P : HandlerPlatform} {settings : ImportSettings}

/-- If each row writes a resource that the pass has not written yet, then all are
different. -/
theorem Pass.nodup {J : List Id → List String → HandlerStore → Prop}
    (hstep : ∀ (row : ParsedImportRow) (ids : List Id) (seen seen' : List String)
      (ω : ℕ → Input) (s s₁ : HandlerStore) (result : ImportRowProcessResult),
      (processRow P settings.type (settings.input row) seen).run executeQuery ω s =
        (.ok (result, seen'), s₁) → J ids seen s →
      (∀ id ∈ writtenId result, id ∉ ids) ∧ J ((writtenId result).toList ++ ids) seen' s₁)
    {rows : List ParsedImportRow} {seen : List String} {s s' : HandlerStore}
    {results : List ImportRowProcessResult} (hpass : Pass P settings rows seen s results s')
    {ids : List Id} (hids : ids.Nodup) (hJ : J ids seen s) :
    (results.filterMap writtenId ++ ids).Nodup := by
  induction hpass generalizing ids with
  | nil seen s => exact hids
  | stopped row rest seen ω s s' e h => exact hids
  | next row rest seen seen' ω s s₁ s' result results h hrest ih =>
      obtain ⟨hnew, hJ'⟩ := hstep row ids seen seen' ω s s₁ result h hJ
      cases hid : writtenId result with
      | none =>
          rw [hid] at hJ'
          rw [List.filterMap_cons_none hid]
          exact ih hids hJ'
      | some id =>
          rw [hid] at hJ'
          rw [List.filterMap_cons_some hid, List.cons_append, ← List.nodup_middle]
          exact ih (List.nodup_cons.mpr ⟨hnew id hid, hids⟩) hJ'

end

/-! ## Customers -/

namespace CustomerImportHandler

section

variable {input : ImportRowProcessInput} {data : CustomerData} {seen : List String}
  {ω : ℕ → Input} {s s' : HandlerStore}
  {outcome : Except ServiceError (ImportRowProcessResult × List String)}

theorem updated_rows (s : HandlerStore) (now : Time) (id : Id) (data : CustomerData) :
    (updated s now id data).customers.rows = s.customers.rows.map fun row =>
      if row.id == id then (updateInput data).apply now row else row := rfl

theorem mem_updated_iff {now : Time} {id : Id} {row : CustomerRow} :
    row ∈ (updated s now id data).customers.rows ↔ ∃ old ∈ s.customers.rows,
      (if old.id == id then (updateInput data).apply now old else old) = row :=
  List.mem_map

theorem Effect.customer_stays (h : Effect input data seen ω s outcome s') {row : CustomerRow}
    (hrow : row ∈ s.customers.rows) :
    ∃ row' ∈ s'.customers.rows, row'.id = row.id ∧ row'.tenantId = row.tenantId ∧
      row'.document = row.document := by
  have hinserted : ∀ {new : CustomerRow}
      {customers : Table CustomerRow CustomerKey CustomerRow.keys},
      s.customers.tryInsert new = some customers → row ∈ customers.rows := fun hinsert => by
    rw [Table.tryInsert_rows hinsert]
    exact List.mem_append_left _ hrow
  cases h with
  | refused | unread | failed | skipped | notUpdated | notCreated =>
      exact ⟨row, hrow, rfl, rfl, rfl⟩
  | updated h found hfound hstrategy hfits =>
      refine ⟨_, mem_updated_iff.mpr ⟨row, hrow, rfl⟩, ?_⟩
      split
      · exact ⟨rfl, rfl, rfl⟩
      · exact ⟨rfl, rfl, rfl⟩
  | created h hnone hfits customers hinsert => exact ⟨row, hinserted hinsert, rfl, rfl, rfl⟩
  | createdWithAddress h hnone hfits customers hinsert =>
      exact ⟨row, hinserted hinsert, rfl, rfl, rfl⟩
  | addressFailed h hnone hfits customers hinsert => exact ⟨row, hinserted hinsert, rfl, rfl, rfl⟩

/-- What a row writes has the document of the row. It was not there, or had the
document already. -/
theorem Effect.written {result : ImportRowProcessResult} {seen' : List String}
    (h : Effect input data seen ω s (.ok (result, seen')) s') {id : Id}
    (hid : writtenId result = some id) :
    (data.document ∉ seen ∧ seen' = data.document :: seen) ∧
    (∃ row ∈ s'.customers.rows, row.id = id ∧ row.tenantId = input.tenantId ∧
      row.document = some data.document) ∧
    ∀ row ∈ s.customers.rows, row.id = id → row.document = some data.document := by
  have hinserted : ∀ {customers : Table CustomerRow CustomerKey CustomerRow.keys},
      findCustomer s data.document input.tenantId = none →
      s.customers.tryInsert
        ((createInput input.tenantId data).row ((ω 1).ids 0) (ω 1).now) = some customers →
      (∃ row ∈ customers.rows, row.id = (ω 1).ids 0 ∧ row.tenantId = input.tenantId ∧
        row.document = some data.document) ∧
      ∀ row ∈ s.customers.rows, row.id = (ω 1).ids 0 → row.document = some data.document := by
    intro customers hnone hinsert
    refine ⟨⟨(createInput input.tenantId data).row ((ω 1).ids 0) (ω 1).now, ?_, rfl, rfl, rfl⟩,
      fun row hrow hused => ?_⟩
    · rw [Table.tryInsert_rows hinsert]
      exact List.mem_append_right _ (List.mem_singleton_self _)
    · exact absurd hused
        ((tryInsert_customer_isSome_iff hnone _ _).mp ⟨customers, hinsert⟩ row hrow)
  cases h with
  | refused | failed | skipped => cases hid
  | updated h found hfound hstrategy hfits =>
      obtain rfl := Option.some.inj hid
      obtain ⟨hrow, htenant, hdocument⟩ := mem_of_findCustomer hfound
      refine ⟨⟨h.2, rfl⟩, ⟨_, mem_updated_iff.mpr ⟨found, hrow, rfl⟩, ?_⟩,
        fun row hother hused => ?_⟩
      · rw [beq_self_eq_true, if_pos rfl]
        exact ⟨rfl, htenant, hdocument⟩
      · rw [s.customers.eq_of_key (k := .id found.id) hother hrow
          (CustomerRow.id_mem_keys_iff.mpr hused) (CustomerRow.id_mem_keys_iff.mpr rfl)]
        exact hdocument
  | created h hnone hfits customers hinsert =>
      obtain rfl := Option.some.inj hid
      exact ⟨⟨h.2, rfl⟩, hinserted hnone hinsert⟩
  | createdWithAddress h hnone hfits customers hinsert =>
      obtain rfl := Option.some.inj hid
      exact ⟨⟨h.2, rfl⟩, hinserted hnone hinsert⟩

theorem Effect.seen_subset {result : ImportRowProcessResult} {seen' : List String}
    (h : Effect input data seen ω s (.ok (result, seen')) s') : seen ⊆ seen' := by
  cases h with
  | refused => exact fun _ hmem => hmem
  | failed | skipped | updated | created | createdWithAddress => exact List.subset_cons_self _ _

end

/-- The resources of a pass are customers with a document that was seen. -/
def Written (tenantId : Id) (ids : List Id) (seen : List String) (s : HandlerStore) : Prop :=
  ∀ id ∈ ids, ∃ row ∈ s.customers.rows, row.id = id ∧ row.tenantId = tenantId ∧
    ∃ document ∈ seen, row.document = some document

theorem Effect.new_resource {input : ImportRowProcessInput} {data : CustomerData}
    {seen seen' : List String} {ω : ℕ → Input} {s s' : HandlerStore}
    {result : ImportRowProcessResult} (h : Effect input data seen ω s (.ok (result, seen')) s')
    {ids : List Id} (hwritten : Written input.tenantId ids seen s) :
    (∀ id ∈ writtenId result, id ∉ ids) ∧
      Written input.tenantId ((writtenId result).toList ++ ids) seen' s' := by
  have hkept : Written input.tenantId ids seen' s' := by
    intro id hid
    obtain ⟨row, hrow, hrowId, htenant, document, hdocument, hhas⟩ := hwritten id hid
    obtain ⟨row', hrow', hid', htenant', hdocument'⟩ := h.customer_stays hrow
    exact ⟨row', hrow', hid'.trans hrowId, htenant'.trans htenant, document,
      h.seen_subset hdocument, hdocument'.trans hhas⟩
  refine ⟨fun id hid hold => ?_, fun id hid => ?_⟩
  · obtain ⟨⟨hunseen, -⟩, -, hsame⟩ := h.written hid
    obtain ⟨row, hrow, hrowId, -, document, hdocument, hhas⟩ := hwritten id hold
    have heq := hsame row hrow hrowId
    rw [hhas] at heq
    rw [Option.some.inj heq] at hdocument
    exact hunseen hdocument
  · rcases List.mem_append.mp hid with hnew | hold
    · obtain ⟨⟨-, hseen'⟩, ⟨row, hrow, hrowId, htenant, hhas⟩, -⟩ :=
        h.written (Option.mem_toList.mp hnew)
      exact ⟨row, hrow, hrowId, htenant, data.document, by rw [hseen']; exact List.mem_cons_self,
        hhas⟩
    · exact hkept id hold

end CustomerImportHandler

/-! ## Carriers -/

namespace CarrierImportHandler

/-- The rows of a file that the checks admit, each with the codes before it. -/
def accepted (P : HandlerPlatform) (settings : ImportSettings) :
    List ParsedImportRow → List String → List CarrierData
  | [], _ => []
  | row :: rest, seenReferences =>
      let data := readData P (settings.input row)
      if Admitted data seenReferences then
        data :: accepted P settings rest (referenceOf data :: seenReferences)
      else accepted P settings rest seenReferences

def documents (rows : List CarrierData) : List String :=
  rows.filterMap fun data => orNull data.document

section

variable {input : ImportRowProcessInput} {data : CarrierData} {seen : List String}
  {ω : ℕ → Input} {s s' : HandlerStore}

theorem mem_carriers_of_tryUpdate {id : Id} {f : CarrierRow → CarrierRow}
    {carriers : Table CarrierRow CarrierKey CarrierRow.keys}
    (h : s.carriers.tryUpdate (fun other => other.id == id) f = some carriers) {row : CarrierRow} :
    row ∈ carriers.rows ↔ ∃ old ∈ s.carriers.rows,
      (if old.id == id then f old else old) = row := by
  rw [Table.tryUpdate_rows h, List.mem_map]

theorem Effect.new_resource {seen' : List String} {result : ImportRowProcessResult}
    (h : Effect input data seen ω s (.ok (result, seen')) s')
    (hstrategy : input.duplicateStrategy ≠ .update) {ids : List Id}
    (hwritten : ∀ id ∈ ids, ∃ row ∈ s.carriers.rows, row.id = id) :
    (∀ id ∈ writtenId result, id ∉ ids) ∧
      ∀ id ∈ (writtenId result).toList ++ ids, ∃ row ∈ s'.carriers.rows, row.id = id := by
  cases h with
  | refused | failed | skipped => exact ⟨fun id hid => (nomatch hid), hwritten⟩
  | updated h row hfound hupdate => exact absurd hupdate hstrategy
  | created h hnone hfits n carriers hwrite =>
      have hfresh := Table.fresh_of_tryInsert hwrite
      have hrows := Table.tryInsert_rows hwrite
      refine ⟨fun id hid hold => ?_, fun id hid => ?_⟩
      · obtain rfl := Option.some.inj hid
        obtain ⟨row, hrow, hrowId⟩ := hwritten _ hold
        exact hfresh (.id ((ω n).ids 0)) (CarrierRow.id_mem_keys_iff.mpr rfl) row hrow
          (CarrierRow.id_mem_keys_iff.mpr hrowId)
      · rcases List.mem_append.mp hid with hnew | hold
        · obtain rfl := Option.some.inj (Option.mem_toList.mp hnew)
          refine ⟨(payload input.tenantId data).row ((ω n).ids 0) (ω n).now, ?_, rfl⟩
          rw [hrows]
          exact List.mem_append_right _ (List.mem_singleton_self _)
        · obtain ⟨row, hrow, hrowId⟩ := hwritten id hold
          refine ⟨row, ?_, hrowId⟩
          rw [hrows]
          exact List.mem_append_left _ hrow

end

/-- The carriers that the rows before have written under UPDATE, as they wrote them. -/
structure Held (tenantId : Id) (past : List (CarrierData × Id)) (seen : List String)
    (s : HandlerStore) : Prop where
  row : ∀ entry ∈ past, ∃ row ∈ s.carriers.rows, row.id = entry.2 ∧ row.tenantId = tenantId ∧
    row.code = some entry.1.code ∧ row.document = orNull entry.1.document
  seen : ∀ entry ∈ past, entry.1.code ∈ seen
  normalized : ∀ entry ∈ past, entry.1.code.toList.all isCodeChar = true

omit [Collation] in
theorem all_isCodeChar_readData (P : HandlerPlatform) (input : ImportRowProcessInput) :
    (readData P input).code.toList.all isCodeChar = true := by
  rw [List.all_eq_true]
  intro c hc
  change c ∈ (normalizeCode P (value input "code")).toList at hc
  rw [normalizeCode, String.toList_ofList] at hc
  exact (List.mem_filter.mp hc).2

omit [Collation] in
theorem mem_documents_iff {past : List CarrierData} {document : String} :
    document ∈ documents past ↔ ∃ data ∈ past, orNull data.document = some document :=
  List.mem_filterMap

omit [Collation] in
theorem documents_cons_of_none {data : CarrierData} (h : orNull data.document = none)
    (past : List CarrierData) : documents (data :: past) = documents past :=
  List.filterMap_cons_none h

omit [Collation] in
theorem documents_cons_of_some {data : CarrierData} {document : String}
    (h : orNull data.document = some document) (past : List CarrierData) :
    documents (data :: past) = document :: documents past :=
  List.filterMap_cons_some h

omit [Collation] in
theorem nodup_documents_cons_iff {data : CarrierData} {past : List CarrierData} :
    (documents (data :: past)).Nodup ↔
      (∀ document ∈ documents past, orNull data.document ≠ some document) ∧
        (documents past).Nodup := by
  cases hown : orNull data.document with
  | none =>
      rw [documents_cons_of_none hown]
      exact (and_iff_right fun _ _ h => nomatch h).symm
  | some document =>
      rw [documents_cons_of_some hown, List.nodup_cons]
      refine and_congr_left fun _ => ⟨fun hnot other hother heq => ?_, fun hnot hmem => ?_⟩
      · rw [Option.some.inj heq] at hnot
        exact hnot hother
      · exact hnot document hmem rfl

omit [Collation] in
theorem nodup_documents_append_iff {data : CarrierData} {rows past : List CarrierData} :
    (documents (data :: rows) ++ documents past).Nodup ↔
      (documents rows ++ documents (data :: past)).Nodup := by
  cases hown : orNull data.document with
  | none => rw [documents_cons_of_none hown, documents_cons_of_none hown]
  | some document =>
      rw [documents_cons_of_some hown, documents_cons_of_some hown, List.nodup_middle,
        List.cons_append]

section

variable {input : ImportRowProcessInput} {data : CarrierData} {seen : List String}
  {ω : ℕ → Input} {s s' : HandlerStore} {past : List (CarrierData × Id)}

/-- A carrier that a row before has written is found again by its document only. -/
theorem Held.mem_iff_of_found (hheld : Held input.tenantId past seen s) (h : Admitted data seen)
    (hnormalized : data.code.toList.all isCodeChar = true) {row : CarrierRow}
    (hfound : existingCarrier s input.tenantId data = some row) {now : Time}
    {carriers : Table CarrierRow CarrierKey CarrierRow.keys}
    (hwrite : s.carriers.tryUpdate (fun other => other.id == row.id)
      ((payload input.tenantId data).apply now) = some carriers) :
    row.id ∈ past.map Prod.snd ↔
      ∃ document ∈ documents (past.map Prod.fst), orNull data.document = some document := by
  have hrow := (mem_of_existingCarrier hfound).1
  constructor
  · intro hid
    obtain ⟨entry, hentry, hentryId⟩ := List.mem_map.mp hid
    obtain ⟨stored, hstored, hstoredId, -, hcode, hdocument⟩ := hheld.row entry hentry
    obtain rfl : stored = row := eq_of_carrier_id hstored hrow (hstoredId.trans hentryId)
    rcases Option.or_eq_some_iff.mp hfound with hbyCode | ⟨-, hbyDocument⟩
    · obtain ⟨-, -, held, hheldCode, hweight⟩ := mem_of_findCarrierByCode hbyCode
      rw [hcode] at hheldCode
      rw [← Option.some.inj hheldCode] at hweight
      -- normalized codes that the database takes to be equal are the same
      have hsame := Collation.weight_injOn hnormalized (hheld.normalized entry hentry) hweight
      refine absurd (hheld.seen entry hentry) ?_
      rw [← hsame, ← referenceOf_of_valid h.1]
      exact h.2
    · split at hbyDocument
      · cases hbyDocument
      · next hne =>
        have heq := (mem_of_findCarrierByDocument hbyDocument).2.2
        rw [hdocument] at heq
        refine ⟨data.document, mem_documents_iff.mpr ⟨entry.1, ?_, heq⟩, if_neg hne⟩
        exact List.mem_map_of_mem hentry
  · rintro ⟨document, hmem, hown⟩
    obtain ⟨other, hother, hdocument⟩ := mem_documents_iff.mp hmem
    obtain ⟨entry, hentry, rfl⟩ := List.mem_map.mp hother
    obtain ⟨stored, hstored, hstoredId, htenant, -, hhas⟩ := hheld.row entry hentry
    obtain ⟨hne, rfl⟩ := orNull_eq_some_iff.mp hown
    rw [hdocument] at hhas
    have hbyDocument : findCarrierByDocument s data.document input.tenantId = some stored :=
      findCarrierByDocument_of_mem hstored htenant hhas
    have hsame : stored = row := by
      by_contra hother
      cases hbyCode : findCarrierByCode s data.code input.tenantId with
      | none =>
          rw [existingCarrier, hbyCode, if_neg hne, hbyDocument] at hfound
          exact hother (Option.some.inj hfound)
      | some byCode =>
          have heq : byCode = row := by
            rw [existingCarrier, hbyCode] at hfound
            exact Option.some.inj hfound
          have hbroken := (tryUpdate_carrier_eq_none_iff hfound now).mpr
            ⟨hne, byCode, stored, hbyCode, hbyDocument, fun hid =>
              hother (eq_of_carrier_id hstored hrow (hid.trans (congrArg (·.id) heq)))⟩
          rw [hbroken] at hwrite
          cases hwrite
    rw [← hsame, hstoredId]
    exact List.mem_map_of_mem hentry

/-- What one row does to the carriers written so far. -/
theorem Effect.update_step {seen' : List String} {result : ImportRowProcessResult}
    (h : Effect input data seen ω s (.ok (result, seen')) s')
    (hstrategy : input.duplicateStrategy = .update) (hadmitted : Admitted data seen)
    (hnormalized : data.code.toList.all isCodeChar = true)
    (hheld : Held input.tenantId past seen s) :
    seen' = referenceOf data :: seen ∧ ∃ id, writtenId result = some id ∧
      (id ∈ past.map Prod.snd ↔
        ∃ document ∈ documents (past.map Prod.fst), orNull data.document = some document) ∧
      (id ∉ past.map Prod.snd → Held input.tenantId ((data, id) :: past) seen' s') := by
  have hseen : ∀ {id : Id}, ∀ entry ∈ (data, id) :: past,
      entry.1.code ∈ referenceOf data :: seen := by
    intro id entry hentry
    rcases List.mem_cons.mp hentry with rfl | hold
    · rw [referenceOf_of_valid hadmitted.1]
      exact List.mem_cons_self
    · exact List.mem_cons_of_mem _ (hheld.seen entry hold)
  have hcodes : ∀ {id : Id}, ∀ entry ∈ (data, id) :: past,
      entry.1.code.toList.all isCodeChar = true := by
    intro id entry hentry
    rcases List.mem_cons.mp hentry with rfl | hold
    · exact hnormalized
    · exact hheld.normalized entry hold
  cases h with
  | refused code message h => exact absurd hadmitted h
  | failed h row hfound hother | skipped h row hfound hother =>
      rw [hstrategy] at hother
      cases hother
  | updated h row hfound _ hfits n carriers hwrite =>
      obtain ⟨hrow, -⟩ := mem_of_existingCarrier hfound
      refine ⟨rfl, row.id, rfl, hheld.mem_iff_of_found h hnormalized hfound hwrite,
        fun hnew => ⟨?_, hseen, hcodes⟩⟩
      intro entry hentry
      rcases List.mem_cons.mp hentry with rfl | hold
      · refine ⟨(payload input.tenantId data).apply (ω n).now row,
          (mem_carriers_of_tryUpdate hwrite).mpr ⟨row, hrow, ?_⟩, rfl, rfl, rfl, rfl⟩
        rw [beq_self_eq_true, if_pos rfl]
      · obtain ⟨stored, hstored, hstoredId, hrest⟩ := hheld.row entry hold
        refine ⟨stored, (mem_carriers_of_tryUpdate hwrite).mpr ⟨stored, hstored, ?_⟩, hstoredId,
          hrest⟩
        refine if_neg fun hid => hnew ?_
        rw [← beq_iff_eq.mp hid, hstoredId]
        exact List.mem_map_of_mem hold
  | created h hnone hfits n carriers hwrite =>
      have hfresh := Table.fresh_of_tryInsert hwrite
      have hrows := Table.tryInsert_rows hwrite
      refine ⟨rfl, (ω n).ids 0, rfl, iff_of_false ?_ ?_, fun hnew => ⟨?_, hseen, hcodes⟩⟩
      · intro hid
        obtain ⟨entry, hentry, hentryId⟩ := List.mem_map.mp hid
        obtain ⟨stored, hstored, hstoredId, -⟩ := hheld.row entry hentry
        exact hfresh (.id ((ω n).ids 0)) (CarrierRow.id_mem_keys_iff.mpr rfl) stored hstored
          (CarrierRow.id_mem_keys_iff.mpr (hstoredId.trans hentryId))
      · rintro ⟨document, hmem, hown⟩
        obtain ⟨other, hother, hdocument⟩ := mem_documents_iff.mp hmem
        obtain ⟨entry, hentry, rfl⟩ := List.mem_map.mp hother
        obtain ⟨stored, hstored, -, htenant, -, hhas⟩ := hheld.row entry hentry
        rw [hdocument] at hhas
        refine hfresh (.document input.tenantId document) ?_ stored hstored
          (CarrierRow.document_mem_keys_iff.mpr ⟨htenant, hhas⟩)
        exact CarrierRow.document_mem_keys_iff.mpr ⟨rfl, hown⟩
      · intro entry hentry
        rcases List.mem_cons.mp hentry with rfl | hold
        · refine ⟨(payload input.tenantId data).row ((ω n).ids 0) (ω n).now, ?_, rfl, rfl, rfl, rfl⟩
          rw [hrows]
          exact List.mem_append_right _ (List.mem_singleton_self _)
        · obtain ⟨stored, hstored, hrest⟩ := hheld.row entry hold
          refine ⟨stored, ?_, hrest⟩
          rw [hrows]
          exact List.mem_append_left _ hstored

theorem Effect.of_not_admitted {seen' : List String} {result : ImportRowProcessResult}
    (h : Effect input data seen ω s (.ok (result, seen')) s') (hrefused : ¬Admitted data seen) :
    writtenId result = none ∧ seen' = seen ∧ s' = s := by
  cases h with
  | refused => exact ⟨rfl, rfl, rfl⟩
  | failed h | skipped h | updated h | created h => exact absurd h hrefused

end

/-- Under UPDATE the rows of a pass and those before it write different carriers when
their documents differ, and, when all rows have a result, only then. -/
theorem nodup_iff_of_pass {P : HandlerPlatform} {settings : ImportSettings}
    (htype : settings.type = .carriers) (hstrategy : settings.duplicateStrategy = .update)
    {rows : List ParsedImportRow} {seen : List String} {s s' : HandlerStore}
    {results : List ImportRowProcessResult} (hpass : Pass P settings rows seen s results s')
    {past : List (CarrierData × Id)} (hheld : Held settings.tenantId past seen s)
    (hids : (past.map Prod.snd).Nodup) (hdocuments : (documents (past.map Prod.fst)).Nodup) :
    ((documents (accepted P settings rows seen) ++ documents (past.map Prod.fst)).Nodup →
      (results.filterMap writtenId ++ past.map Prod.snd).Nodup) ∧
    (results.length = rows.length → (results.filterMap writtenId ++ past.map Prod.snd).Nodup →
      (documents (accepted P settings rows seen) ++ documents (past.map Prod.fst)).Nodup) := by
  induction hpass generalizing past with
  | nil seen s => exact ⟨fun _ => hids, fun _ _ => hdocuments⟩
  | stopped row rest seen ω s s' e h => exact ⟨fun _ => hids, fun hlength => nomatch hlength⟩
  | next row rest seen seen' ω s s₁ s' result results h hrest ih =>
      have heffect := effect_of_run htype h
      rw [List.length_cons, List.length_cons, Nat.succ_inj]
      by_cases hadmitted : Admitted (readData P (settings.input row)) seen
      · obtain ⟨hseen', id, hid, hmem, hstep⟩ := heffect.update_step hstrategy hadmitted
          (all_isCodeChar_readData P _) hheld
        have haccepted : accepted P settings (row :: rest) seen =
            readData P (settings.input row) :: accepted P settings rest seen' := by
          rw [accepted, if_pos hadmitted, hseen']
        rw [haccepted, List.filterMap_cons_some hid, List.cons_append, ← List.nodup_middle,
          nodup_documents_append_iff]
        by_cases hold : id ∈ past.map Prod.snd
        · obtain ⟨document, hdocument, hown⟩ := hmem.mp hold
          refine ⟨fun hnodup => ?_, fun _ hnodup => ?_⟩
          · have hboth := (nodup_documents_cons_iff.mp (List.Nodup.of_append_right hnodup)).1
            exact absurd hown (hboth document hdocument)
          · exact absurd hold (List.nodup_cons.mp (List.Nodup.of_append_right hnodup)).1
        · have hdocuments' : (documents (((readData P (settings.input row), id) :: past).map
              Prod.fst)).Nodup := nodup_documents_cons_iff.mpr
            ⟨fun document hdocument hown => hold (hmem.mpr ⟨document, hdocument, hown⟩), hdocuments⟩
          exact ih (hstep hold) (List.nodup_cons.mpr ⟨hold, hids⟩) hdocuments'
      · obtain ⟨hnone, hseen', hs₁⟩ := heffect.of_not_admitted hadmitted
        have haccepted : accepted P settings (row :: rest) seen =
            accepted P settings rest seen' := by
          rw [accepted, if_neg hadmitted, hseen']
        rw [haccepted, List.filterMap_cons_none hnone]
        rw [← hseen', ← hs₁] at hheld
        exact ih hheld hids hdocuments

end CarrierImportHandler

/-! ## Runs -/

/-- The rows do not meet in a resource: they are customers, or nothing is updated, or
the documents of the carriers that the checks admit are different. -/
def SeparateDocuments (P : HandlerPlatform) (settings : ImportSettings)
    (rows : List ParsedImportRow) : Prop :=
  settings.type = .customers ∨ settings.duplicateStrategy ≠ .update ∨
    (CarrierImportHandler.documents (CarrierImportHandler.accepted P settings rows [])).Nodup

section

variable {P : HandlerPlatform} {settings : ImportSettings} {rows : List ParsedImportRow}
  {s s' : HandlerStore} {results : List ImportRowProcessResult}

theorem Pass.oneResourceEach_customers (hpass : Pass P settings rows [] s results s')
    (htype : settings.type = .customers) : OneResourceEach results := by
  rw [OneResourceEach, ← List.append_nil (results.filterMap writtenId)]
  refine hpass.nodup (J := CustomerImportHandler.Written settings.tenantId) ?_ List.nodup_nil
    fun id hid => nomatch hid
  intro row ids seen seen' ω s s₁ result h hwritten
  exact (CustomerImportHandler.effect_of_run htype h).new_resource hwritten

theorem Pass.oneResourceEach_carriers (hpass : Pass P settings rows [] s results s')
    (htype : settings.type = .carriers) (hstrategy : settings.duplicateStrategy ≠ .update) :
    OneResourceEach results := by
  rw [OneResourceEach, ← List.append_nil (results.filterMap writtenId)]
  refine hpass.nodup (J := fun ids _ s => ∀ id ∈ ids, ∃ row ∈ s.carriers.rows, row.id = id) ?_
    List.nodup_nil fun id hid => nomatch hid
  intro row ids seen seen' ω s s₁ result h hwritten
  exact (CarrierImportHandler.effect_of_run htype h).new_resource hstrategy hwritten

theorem Pass.oneResourceEach_updated (hpass : Pass P settings rows [] s results s')
    (htype : settings.type = .carriers) (hstrategy : settings.duplicateStrategy = .update) :
    ((CarrierImportHandler.documents (CarrierImportHandler.accepted P settings rows [])).Nodup →
      OneResourceEach results) ∧
    (results.length = rows.length → OneResourceEach results →
      (CarrierImportHandler.documents
        (CarrierImportHandler.accepted P settings rows [])).Nodup) := by
  have hheld : CarrierImportHandler.Held settings.tenantId [] [] s :=
    ⟨fun entry hentry => (nomatch hentry), fun entry hentry => (nomatch hentry),
      fun entry hentry => nomatch hentry⟩
  have hpast := CarrierImportHandler.nodup_iff_of_pass htype hstrategy hpass hheld List.nodup_nil
    List.nodup_nil
  rw [List.map_nil, List.map_nil, show CarrierImportHandler.documents [] = [] from rfl,
    List.append_nil, List.append_nil] at hpast
  exact hpast

theorem Pass.oneResourceEach_iff (hpass : Pass P settings rows [] s results s') :
    (SeparateDocuments P settings rows → OneResourceEach results) ∧
      (results.length = rows.length → OneResourceEach results →
        SeparateDocuments P settings rows) := by
  cases htype : settings.type with
  | customers =>
      exact ⟨fun _ => hpass.oneResourceEach_customers htype, fun _ _ => .inl htype⟩
  | carriers =>
      by_cases hstrategy : settings.duplicateStrategy = .update
      · obtain ⟨henough, hneeded⟩ := hpass.oneResourceEach_updated htype hstrategy
        refine ⟨fun hseparate => henough ?_, fun hlength heach =>
          .inr (.inr (hneeded hlength heach))⟩
        rcases hseparate with hcustomers | hother | hdocuments
        · rw [htype] at hcustomers
          cases hcustomers
        · exact absurd hstrategy hother
        · exact hdocuments
      · exact ⟨fun _ => hpass.oneResourceEach_carriers htype hstrategy,
          fun _ _ => .inr (.inl hstrategy)⟩

end

/-- A run without an exception writes each resource by one row at most exactly when
the rows have separate documents, which is enough for a run with one. -/
theorem one_resource_each_iff (P : HandlerPlatform) (settings : ImportSettings)
    (rows : List ParsedImportRow) (ω : ℕ → Input) (s : HandlerStore) :
    ∃ results, ((importRows P settings rows []).run executeQuery ω s).1 = .ok results ∧
      (SeparateDocuments P settings rows → OneResourceEach results) ∧
      (results.length = rows.length → OneResourceEach results →
        SeparateDocuments P settings rows) := by
  obtain ⟨results, s', hrun, hpass⟩ := importRows_pass P settings rows [] ω s
  exact ⟨results, congrArg Prod.fst hrun, hpass.oneResourceEach_iff⟩

end

attribute [local instance] foldCase

/-- Two codes and one document. -/
def twinRows : List ParsedImportRow :=
  [⟨2, [("nome", "Rapida"), ("codigo", "RAPIDA"), ("cnpj", "22333444000191")]⟩,
    ⟨3, [("nome", "Lenta"), ("codigo", "LENTA"), ("cnpj", "22333444000191")]⟩]

def updatingCarriers : ImportSettings where
  type := .carriers
  tenantId := "t"
  duplicateStrategy := .update
  mapping := [("name", "nome"), ("code", "codigo"), ("document", "cnpj")]

/-- The second row updates the carrier that the first one has created. -/
theorem twin_rows_write_one_carrier :
    ¬∀ (P : HandlerPlatform) (settings : ImportSettings) (rows : List ParsedImportRow)
      (ω : ℕ → Input) (s : HandlerStore) (results : List ImportRowProcessResult),
      ((importRows P settings rows []).run executeQuery ω s).1 = .ok results →
        results.length = rows.length → OneResourceEach results := by
  intro h
  have hwritten : ((importRows asciiPlatform updatingCarriers twinRows []).run executeQuery
      quietInput .empty).1.map (·.map writtenId) = .ok [some "new-2", some "new-2"] := by
    rfl
  cases hrun : ((importRows asciiPlatform updatingCarriers twinRows []).run executeQuery quietInput
      .empty).1 with
  | error e =>
      rw [hrun] at hwritten
      cases hwritten
  | ok results =>
      rw [hrun] at hwritten
      have hids : results.map writtenId = [some "new-2", some "new-2"] := Except.ok.inj hwritten
      have hlength : results.length = twinRows.length := by
        rw [← List.length_map writtenId, hids]
        rfl
      have heach := h _ _ _ _ _ _ hrun hlength
      have hmap : results.filterMap writtenId = (results.map writtenId).filterMap id := by
        rw [List.filterMap_map]
        rfl
      rw [OneResourceEach, hmap, hids] at heach
      exact absurd heach (by decide)

end Logistics.Imports
