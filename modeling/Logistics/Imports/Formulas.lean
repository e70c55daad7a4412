import Logistics.Imports.Conflicts
import Logistics.Imports.Csv
import Logistics.Imports.Ownership

/-!
# Formulas in error reports

The parser refuses a file with a cell that opens a formula. The error report prints
what the handlers have made of the cells: of a document the digits, of a code the
letters, digits, underscores and hyphens. A hyphen that stood behind other characters
can be the first of them. Everything else in a report is a number or one of the
handlers' own texts.
-/

namespace Logistics.Imports

open Logistics.Library Handlers

def opensFormula (cell : String) : Bool :=
  match cell.toList with
  | c :: _ => c == '=' || c == '+' || c == '-' || c == '@'
  | [] => false

/-! ## The cells of an error -/

/-- The codes and messages that the handlers give. -/
def errorTexts : List (String × String) :=
  CustomerImportHandler.refusals ++ CarrierImportHandler.refusals

structure PlainError (reference code message : Option String) : Prop where
  characters : ∀ c ∈ (reference.getD "").toList, isCodeChar c = true
  reference : opensFormula (reference.getD "") = false
  texts : (code.getD "", message.getD "") ∈ errorTexts

/-- If it is an error, its cells open no formula. -/
def ImportRowProcessResult.Prints (result : ImportRowProcessResult) : Prop :=
  result.status = .error →
    PlainError result.externalReference result.errorCode result.errorMessage

def ImportRowResult.Prints (row : ImportRowResult) : Prop :=
  row.status = .error → PlainError row.externalReference row.errorCode row.errorMessage

theorem opensFormula_of_first {cell : String} (h : ∀ c ∈ cell.toList.head?,
    c ≠ '=' ∧ c ≠ '+' ∧ c ≠ '-' ∧ c ≠ '@') : opensFormula cell = false := by
  unfold opensFormula
  split
  · next c rest hcell =>
    obtain ⟨h₁, h₂, h₃, h₄⟩ := h c (by rw [hcell]; rfl)
    simp [h₁, h₂, h₃, h₄]
  · rfl

theorem opensFormula_of_digits {cell : String} (h : ∀ c ∈ cell.toList, c.isDigit = true) :
    opensFormula cell = false := by
  apply opensFormula_of_first
  intro c hc
  have hdigit := h c (List.mem_of_mem_head? hc)
  refine ⟨?_, ?_, ?_, ?_⟩ <;> rintro rfl <;> cases hdigit

theorem PlainError.no_return {reference code message : Option String}
    (h : PlainError reference code message) :
    '\r' ∉ (reference.getD "").toList ∧ '\r' ∉ (code.getD "").toList ∧
      '\r' ∉ (message.getD "").toList := by
  have htexts : ∀ texts ∈ errorTexts, '\r' ∉ texts.1.toList ∧ '\r' ∉ texts.2.toList := by
    decide +kernel
  refine ⟨fun hreturn => ?_, htexts _ h.texts⟩
  have hchar := h.characters _ hreturn
  revert hchar
  decide

theorem PlainError.opensFormula {reference code message : Option String}
    (h : PlainError reference code message) :
    opensFormula (code.getD "") = false ∧ opensFormula (message.getD "") = false := by
  have htexts : ∀ texts ∈ errorTexts,
      Imports.opensFormula texts.1 = false ∧ Imports.opensFormula texts.2 = false := by
    decide +kernel
  exact htexts _ h.texts

theorem isBlank_toString (n : ℕ) : isBlank (toString n) = false := by
  have hne : (toString n).toList ≠ [] := by
    rw [Nat.toString_eq_ofList_toDigits, String.toList_ofList]
    exact Nat.toDigits_ne_nil
  obtain ⟨c, rest, hcons⟩ := List.exists_cons_of_ne_nil hne
  have hdigit : c.isDigit = true :=
    isDigit_of_mem_toString (n := n) (by rw [hcons]; exact List.mem_cons_self)
  rw [isBlank, hcons, List.all_cons, isWhiteSpace_of_isDigit hdigit, Bool.false_and]

theorem readsBack_reportTable {rows : List ImportRowResult}
    (hrows : ∀ row ∈ rows, PlainError row.externalReference row.errorCode row.errorMessage) :
    ReadsBack (reportTable rows) where
  no_return := by
    intro cells hcells
    rcases List.mem_cons.mp hcells with rfl | hmem
    · decide
    · obtain ⟨row, hrow, rfl⟩ := List.mem_map.mp hmem
      obtain ⟨hreference, hcode, hmessage⟩ := (hrows row hrow).no_return
      have hnumber : '\r' ∉ (toString row.rowNumber).toList := fun hreturn =>
        absurd (isDigit_of_mem_toString hreturn) (by decide)
      simp only [List.forall_mem_cons, List.not_mem_nil, IsEmpty.forall_iff, implies_true, and_true]
      exact ⟨hnumber, hreference, hcode, hmessage⟩
  has_cells := by
    intro cells hcells
    rcases List.mem_cons.mp hcells with rfl | hmem
    · decide
    · obtain ⟨row, -, rfl⟩ := List.mem_map.mp hmem
      rw [hasCells, List.any_cons, isBlank_toString, Bool.not_false, Bool.true_or]
  first_row := by
    intro cells hcells
    obtain rfl := Option.some.inj hcells
    decide

/-- The report of such errors reads back as it was written, and no cell of it opens a
formula. -/
theorem presentReport_opens_no_formula (importJobId : Id) {rows : List ImportRowResult}
    (hrows : ∀ row ∈ rows, PlainError row.externalReference row.errorCode row.errorMessage) :
    ∀ cells ∈ parseDelimited (presentReport importJobId rows).content, ∀ cell ∈ cells,
      opensFormula cell = false := by
  rw [presentReport_content, (readsBack_reportTable hrows).parseDelimited]
  intro cells hcells
  rcases List.mem_cons.mp hcells with rfl | hmem
  · decide
  · obtain ⟨row, hrow, rfl⟩ := List.mem_map.mp hmem
    obtain ⟨hcode, hmessage⟩ := (hrows row hrow).opensFormula
    have hnumber : opensFormula (toString row.rowNumber) = false :=
      opensFormula_of_digits fun c => isDigit_of_mem_toString
    simp only [List.forall_mem_cons, List.not_mem_nil, IsEmpty.forall_iff, implies_true, and_true]
    exact ⟨hnumber, (hrows row hrow).reference, hcode, hmessage⟩

/-! ## What the handlers give -/

theorem isCodeChar_of_isDigit {c : Char} (h : c.isDigit = true) :
    isCodeChar c = true := by
  have hdigit : ('0' ≤ c && c ≤ '9') = true := by
    rw [← h, Char.isDigit]
    rfl
  rw [isCodeChar, hdigit, Bool.or_true, Bool.true_or, Bool.true_or]

section

variable [Collation]

/-- A carrier row that ends as an error, and whose code opens a formula. -/
def PrintsFormula (P : HandlerPlatform) (type : ImportType) (input : ImportRowProcessInput)
    (seen : List String) (s : HandlerStore) : Prop :=
  let data := CarrierImportHandler.readData P input
  type = .carriers ∧ opensFormula data.code = true ∧
    (¬CarrierImportHandler.Admitted data seen ∨ input.duplicateStrategy = .fail ∧
      CarrierImportHandler.existingCarrier s input.tenantId data ≠ none)

section

variable {P : HandlerPlatform} {input : ImportRowProcessInput}

omit [Collation] in
theorem CarrierImportHandler.isCodeChar_of_mem_reference {c : Char}
    (hc : c ∈ (referenceOf (readData P input)).toList) : isCodeChar c = true := by
  unfold referenceOf at hc
  split at hc
  · exact isCodeChar_of_isDigit (isDigit_of_mem_onlyDigits _ c hc)
  · change c ∈ (normalizeCode P (value input "code")).toList at hc
    rw [normalizeCode, String.toList_ofList] at hc
    exact (List.mem_filter.mp hc).2

omit [Collation] in
theorem CarrierImportHandler.opensFormula_reference
    (hcode : opensFormula (readData P input).code = false) :
    opensFormula (referenceOf (readData P input)) = false := by
  unfold referenceOf
  split
  · exact opensFormula_of_digits (isDigit_of_mem_onlyDigits _)
  · exact hcode

theorem CustomerImportHandler.Effect.prints {seen seen' : List String} {ω : ℕ → Input}
    {s s' : HandlerStore} {result : ImportRowProcessResult}
    (h : Effect input (readData P input) seen ω s (.ok (result, seen')) s') : result.Prints := by
  have hdigits : ∀ c ∈ (readData P input).document.toList, c.isDigit = true :=
    isDigit_of_mem_onlyDigits _
  have hplain : ∀ {code message : String}, (code, message) ∈ refusals →
      PlainError (some (readData P input).document) (some code) (some message) := fun hknown =>
    ⟨fun c hc => isCodeChar_of_isDigit (hdigits c hc), opensFormula_of_digits hdigits,
      List.mem_append_left _ hknown⟩
  cases h with
  | refused code message h hknown => exact fun _ => hplain hknown
  | failed => exact fun _ => hplain (by simp [refusals])
  | skipped | updated | created | createdWithAddress =>
      intro h
      cases h

theorem CarrierImportHandler.Effect.prints {seen seen' : List String} {ω : ℕ → Input}
    {s s' : HandlerStore} {result : ImportRowProcessResult}
    (h : Effect input (readData P input) seen ω s (.ok (result, seen')) s')
    (hformula : ¬PrintsFormula P .carriers input seen s) : result.Prints := by
  have hplain : ∀ {code message : String}, (code, message) ∈ refusals →
      (¬Admitted (readData P input) seen ∨ input.duplicateStrategy = .fail ∧
        existingCarrier s input.tenantId (readData P input) ≠ none) →
      PlainError (some (referenceOf (readData P input))) (some code) (some message) := by
    intro code message hknown hfails
    refine ⟨fun c => isCodeChar_of_mem_reference, opensFormula_reference ?_,
      List.mem_append_right _ hknown⟩
    rw [← Bool.not_eq_true]
    exact fun hopens => hformula ⟨rfl, hopens, hfails⟩
  cases h with
  | refused code message h hknown => exact fun _ => hplain hknown (.inl h)
  | failed h row hfound hstrategy =>
      refine fun _ => hplain (by simp [refusals]) (.inr ⟨hstrategy, ?_⟩)
      rw [hfound]
      exact Option.some_ne_none row
  | skipped | updated | created =>
      intro h
      cases h

/-- A handler's error opens no formula, unless its code does. -/
theorem processRow_prints {type : ImportType} {seen seen' : List String} {ω : ℕ → Input}
    {s : HandlerStore} {result : ImportRowProcessResult}
    (h : ((processRow P type input seen).run executeQuery ω s).1 = .ok (result, seen'))
    (hformula : ¬PrintsFormula P type input seen s) : result.Prints := by
  cases type with
  | customers =>
      have heffect := CustomerImportHandler.processRow_effect P input seen ω s
      rw [show CustomerImportHandler.processRow P input seen =
        processRow P .customers input seen from rfl, h] at heffect
      exact heffect.prints
  | carriers =>
      have heffect := CarrierImportHandler.processRow_effect P input seen ω s
      rw [show CarrierImportHandler.processRow P input seen =
        processRow P .carriers input seen from rfl, h] at heffect
      exact heffect.prints hformula

end

end

/-! ## What the worker records -/

/-- An answer with errors has none that opens a formula. -/
def Prints : ReadingEvent → Prop
  | ⟨.inl (.processRow _), .ok result⟩ => result.Prints
  | ⟨.inr (.findRows filter take), answer⟩ =>
      filter.status = some .error → ∀ row ∈ rowsIn ⟨.inr (.findRows filter take), answer⟩,
        PlainError row.externalReference row.errorCode row.errorMessage
  | _ => True

/-- After such answers a worker records only such a result. -/
def Records (h : List ReadingEvent) : readingInterface.Command → Prop
  | .inl (.createRowResult data) => (∀ e ∈ h, Prints e) → data.result.Prints
  | _ => True

abbrev RecordsBase (h : List (Event importInterface)) (c : ImportCommand) : Prop :=
  Records (h.map extendEvent) (.inl c)

def RecordsNothing : ImportCommand → Prop
  | .createRowResult _ => False
  | _ => True

theorem RecordsNothing.records {c : ImportCommand} (hc : RecordsNothing c)
    (h : List ReadingEvent) : Records h (.inl c) := by
  cases c with
  | createRowResult data => exact hc.elim
  | _ => trivial

theorem records_of_issues {α : Type} {p : Program importInterface α} (hp : p.Issues RecordsNothing)
    (h : List (Event importInterface)) : p.Obeys RecordsBase (fun _ _ => True) h :=
  hp.obeys_each (fun _ hc _ => hc.records _) h

section

variable (P : ImportPlatform) (payload : ImportQueuePayload) (job : ImportJob)

theorem emit_recordsNothing (tenantId userId : Id) (event : ImportProgressEventDto) :
    (emit tenantId userId event).Issues RecordsNothing :=
  emit_issues (fun _ => trivial) trivial

theorem processRows_records (totalRows : ℕ) (rows : List ParsedImportRow) (counts : RowCounts)
    (h : List (Event importInterface)) :
    (processRows P payload job totalRows rows counts).Obeys RecordsBase (fun _ _ => True) h := by
  induction rows generalizing counts h with
  | nil => trivial
  | cons row rest ih =>
      unfold processRows
      refine Program.Obeys.perform_bind trivial (fun current => ?_) fun _ => trivial
      split
      · refine records_of_issues ((emit_recordsNothing _ _ _).bind fun _ => ?_) _
        trivial
      · refine Program.Obeys.perform_bind trivial (fun result => ?_) fun _ => trivial
        refine Program.Obeys.perform_bind ?_ (fun _ => ?_) fun _ => trivial
        · -- the last answer is the result that is recorded
          intro hprints
          have hlast := hprints _ (List.mem_map_of_mem (List.mem_append_right _
            (List.mem_singleton_self _)))
          exact hlast
        · refine Program.Obeys.perform_bind trivial (fun _ => ?_) fun _ => trivial
          exact (records_of_issues (emit_recordsNothing _ _ _) _).bind (fun _ _ _ => ih _ _)
            fun _ _ _ => trivial

theorem processFile_records (storedFilename : String) (h : List (Event importInterface)) :
    (processFile P payload job storedFilename).Obeys RecordsBase (fun _ _ => True) h := by
  unfold processFile
  refine Program.Obeys.perform_bind trivial (fun buffer => ?_) fun _ => trivial
  refine Program.Obeys.ofExcept_bind (fun parsed _ => ?_) fun _ _ => trivial
  refine (processRows_records P payload job _ _ _ _).bind (fun h counts _ => ?_)
    fun _ _ _ => trivial
  cases counts with
  | none => trivial
  | some counts =>
      refine records_of_issues ?_ _
      unfold finish
      simp only [Program.issues_perform_bind_iff]
      exact ⟨trivial, fun _ => ⟨trivial, fun _ =>
        emit_recordsNothing _ _ _⟩⟩

theorem processJob_records (storedFilename : String) (h : List (Event importInterface)) :
    (processJob P payload job storedFilename).Obeys RecordsBase (fun _ _ => True) h := by
  unfold processJob
  refine Program.Obeys.perform_bind trivial (fun _ => ?_) fun _ => trivial
  refine Program.Obeys.perform_bind trivial (fun _ => ?_) fun _ => trivial
  refine (records_of_issues (emit_recordsNothing _ _ _) _).bind (fun h _ _ => ?_)
    fun _ _ _ => trivial
  refine (processFile_records P payload job storedFilename h).tryCatch (fun _ _ _ => trivial)
    fun h e _ => records_of_issues ?_ h
  unfold failJob
  simp only [Program.issues_perform_bind_iff]
  exact ⟨trivial, fun _ => ⟨trivial, fun _ =>
    (emit_recordsNothing _ _ _).bind fun _ => trivial⟩⟩

theorem process_records (h : List (Event importInterface)) :
    (process P payload).Obeys RecordsBase (fun _ _ => True) h := by
  unfold process
  refine Program.Obeys.perform_bind trivial (fun found => ?_) fun _ => trivial
  cases found with
  | none => trivial
  | some found =>
      dsimp only
      split
      · trivial
      · exact processJob_records P payload found.job _ _

theorem work_records (h : List (Event importInterface)) :
    (work P).Obeys RecordsBase (fun _ _ => True) h := by
  unfold work
  refine Program.Obeys.perform_bind trivial (fun taken => ?_) fun _ => trivial
  cases taken with
  | none => trivial
  | some job =>
      have hrequeue : (call (.requeueJob job)).Issues RecordsNothing :=
        Program.Issues.perform trivial
      exact (process_records P job.payload _).tryCatch (fun _ _ _ => trivial) fun h _ _ =>
        records_of_issues hrequeue h

theorem create_recordsNothing (context : Context) (file : Option Upload) (dto : CreateImportDto) :
    (create P context file dto).Issues RecordsNothing := by
  unfold create
  simp only [Program.issues_ofExcept_bind_iff, Program.issues_throwIf_bind_iff,
    Program.issues_perform_bind_iff]
  refine fun upload _ parsed _ _ => ⟨trivial, fun found => ?_⟩
  cases found with
  | some duplicate => trivial
  | none =>
      simp only [Program.issues_perform_bind_iff]
      exact ⟨trivial, fun _ => ⟨trivial, fun _ => ⟨trivial, fun _ => ⟨trivial, fun _ => trivial⟩⟩⟩⟩

theorem handle_records (r : Request) (h : List (Event importInterface)) :
    (handle P r).Obeys RecordsBase (fun _ _ => True) h := by
  cases r with
  | create context file dto =>
      refine records_of_issues ?_ h
      rw [handle, Program.issues_map_iff]
      exact create_recordsNothing P context file dto
  | cancel context importJobId =>
      refine records_of_issues ?_ h
      rw [handle, Program.issues_map_iff]
      apply cancel_issues <;> intros <;> trivial
  | retry context importJobId dto =>
      refine records_of_issues ?_ h
      rw [handle, Program.issues_map_iff]
      apply retry_issues <;> intros <;> trivial
  | process payload =>
      exact (process_records P payload h).map (fun _ _ _ => trivial) fun _ _ _ => trivial
  | work => exact (work_records P h).map (fun _ _ _ => trivial) fun _ _ _ => trivial

end

/-! ## Replies -/

def ErrorReport.OpensNoFormula (report : ErrorReport) : Prop :=
  ∀ cells ∈ parseDelimited report.content, ∀ cell ∈ cells, opensFormula cell = false

/-- After such answers a report has only such cells. -/
def Replies (h : List ReadingEvent) (x : Except ServiceError ReadingReply) : Prop :=
  ∀ report, x = .ok (.report report) → (∀ e ∈ h, Prints e) → report.OpensNoFormula

theorem reads_record_nothing {α : Type} {p : Program readingInterface α}
    (hp : p.Issues fun c => ∀ h, Records h c) (h : List ReadingEvent) :
    p.Obeys Records (fun _ _ => True) h :=
  hp.obeys_each (fun _ hc => hc) h

theorem lift_getAuthorizedJob_records (context : Context) (importJobId : Id)
    (h : List ReadingEvent) :
    ((getAuthorizedJob context importJobId).lift : Program readingInterface JobWithUser).Obeys
      Records (fun _ _ => True) h := by
  refine reads_record_nothing ((Program.issues_lift (getAuthorizedJob_issues context importJobId
    (Q := RecordsNothing) fun _ _ => trivial)).mono ?_) h
  rintro _ ⟨c, rfl, hc⟩ h
  exact hc.records h

theorem errorReport_replies (context : Context) (importJobId : Id) :
    (errorReport context importJobId).Obeys Records
      (fun h x => ∀ report, x = .ok report → (∀ e ∈ h, Prints e) → report.OpensNoFormula) [] := by
  unfold errorReport read
  refine (lift_getAuthorizedJob_records context importJobId []).bind (fun h found _ => ?_)
    fun _ _ _ _ herror => by cases herror
  refine Program.Obeys.perform_bind trivial (fun rows => ?_) fun _ _ herror => by cases herror
  refine ⟨trivial, fun recorded => ?_⟩
  cases recorded with
  | error e =>
      intro report herror
      cases herror
  | ok _ =>
      rintro report ⟨⟩ hprints
      have hrows := hprints ⟨.inr (.findRows ⟨found.job.id, context.tenantId, some .error⟩ 5000),
        .ok rows⟩ (by simp)
      exact presentReport_opens_no_formula found.job.id (hrows rfl)

theorem replies_error (h : List (Event readingInterface)) (e : ServiceError) :
    Replies h (.error e) := by
  intro report herror
  cases herror

theorem handleReading_replies (P : ReadingPlatform) (r : ReadingRequest) :
    (handleReading P r).Obeys Records Replies [] := by
  cases r with
  | base r =>
      have hbase := Program.Obeys.lift (Q := fun _ _ => True)
        (handle_records P.toImportPlatform r [])
      refine hbase.map ?_ fun h e _ => replies_error h e
      rintro h reply - report ⟨⟩
  | list context query =>
      refine Program.Obeys.map (reads_record_nothing ?_ []) ?_ fun h e _ => replies_error h e
      · exact (Program.Issues.perform fun _ => trivial).bind fun _ => trivial
      · rintro h page - report ⟨⟩
  | get context importJobId query =>
      refine Program.Obeys.map (Q := fun _ _ => True) ?_ ?_ fun h e _ => replies_error h e
      · refine (lift_getAuthorizedJob_records context importJobId []).bind (fun h found _ => ?_)
          fun _ _ _ => trivial
        refine reads_record_nothing ((Program.Issues.ofExcept _).bind fun status => ?_) h
        exact (Program.Issues.perform fun _ => trivial).bind fun _ => trivial
      · rintro h view - report ⟨⟩
  | errorReport context importJobId =>
      refine (errorReport_replies context importJobId).map ?_ fun h e _ => replies_error h e
      rintro h report hreport _ ⟨⟩
      exact hreport report rfl

/-! ## Runs -/

section

variable [Collation]

structure ReportPlatform extends ReadingPlatform, HandlerPlatform

/-- A row is processed by one of the handlers, with some references seen and some
store, that meet a condition. -/
def FromHandler (P : HandlerPlatform)
    (C : ImportType → ImportRowProcessInput → List String → HandlerStore → Prop)
    (_ : ImportStore) : readingInterface.Command → ImportInput → Prop
  | .inl (.processRow input), i => ∃ type seen ω s, C type input seen s ∧
      i.outcome = ((processRow P type input seen).run executeQuery ω s).1.map Prod.fst
  | _, _ => True

/-- No error report that was sent has a cell that opens a formula. -/
def ReportsOpenNoFormula (c : ReadingConfig) : Prop :=
  ∀ t ∈ c.threads, ∀ report, t.program.value? = some (.report report) → report.OpensNoFormula

/-- What the rows recorded, the answers and the programs of the threads say. -/
structure PrintsPlain (c : ReadingConfig) : Prop where
  rows : ∀ row ∈ c.store.importRowResults.rows, row.Prints
  answers : ∀ t ∈ c.threads, ∀ e ∈ t.history, Prints e
  obeys : c.Obeying (fun _ => Records) fun _ => Replies

omit [Collation] in
theorem mem_results_execute {P : ImportPlatform} {c : ImportCommand} {i : ImportInput}
    {s : ImportStore} {row : ImportRowResult}
    (h : row ∈ (execute P c i s).2.importRowResults.rows) :
    row ∈ s.importRowResults.rows ∨
      ∃ data, c = .createRowResult data ∧ row = rowResultRow i data := by
  rcases execute_store P c i s with hsame | hwrite
  · rw [hsame] at h
    exact .inl h
  · generalize (execute P c i s).2 = s' at hwrite h
    cases hwrite with
    | createRowResult data importRowResults hinsert =>
        rw [Table.tryInsert_rows hinsert] at h
        rcases List.mem_append.mp h with hold | hnew
        · exact .inl hold
        · exact .inr ⟨data, rfl, List.mem_singleton.mp hnew⟩
    | resetJob id tenantId data => exact .inl (List.mem_of_mem_filter h)
    | createJob | updateJob | saveFile | queue | recordAudit => exact .inl h

section

variable (P : ReportPlatform)
  (C : ImportType → ImportRowProcessInput → List String → HandlerStore → Prop)

theorem prints_of_answer (hC : ∀ type input seen s, C type input seen s →
      ¬PrintsFormula P.toHandlerPlatform type input seen s)
    (cmd : readingInterface.Command) (i : ImportInput) {s : ImportStore}
    (hrows : ∀ row ∈ s.importRowResults.rows, row.Prints)
    (hcall : FromHandler P.toHandlerPlatform C s cmd i) :
    Prints ⟨cmd, ((readingSystem P.toReadingPlatform).backend cmd i s).1⟩ := by
  rcases cmd with cmd | cmd
  · cases cmd with
    | processRow input =>
        obtain ⟨type, seen, ω, store, hplain, houtcome⟩ := hcall
        change Prints ⟨.inl (.processRow input),
          (if i.fault then (.error .fault, s) else (i.outcome, s) :
            Except ServiceError ImportRowProcessResult × ImportStore).1⟩
        split
        · trivial
        · rw [houtcome]
          cases hrun : ((processRow P.toHandlerPlatform type input seen).run executeQuery ω
              store).1 with
          | error e => trivial
          | ok answer => exact processRow_prints hrun (hC _ _ _ _ hplain)
    | _ => trivial
  · cases cmd with
    | findRows filter take =>
        intro hstatus row hrow
        change row ∈ rowsIn ⟨.inr (.findRows filter take),
          (executeReading P.toReadingPlatform (.findRows filter take) i s).1⟩ at hrow
        unfold executeReading at hrow
        split at hrow
        · cases hrow
        · have hmem : row ∈ matchingRows s filter := List.mem_of_mem_take hrow
          obtain ⟨hstored, hholds⟩ := List.mem_filter.mp ((List.mem_insertionSort _).mp hmem)
          refine hrows row hstored ?_
          rw [ImportRowResultWhereInput.holds, hstatus] at hholds
          simpa using (Bool.and_eq_true_iff.mp hholds).2
    | _ => trivial

omit [Collation] in
/-- A row that is recorded is the result of its thread's call before. -/
theorem prints_of_recorded {c : ReadingConfig} (hc : PrintsPlain c) {j : ℕ} {i : ImportInput}
    {r : ReadingRequest} {h : List ReadingEvent} {cmd : readingInterface.Command}
    {k : Response readingInterface cmd → Program readingInterface ReadingReply}
    (hj : c.threads[j]? = some ⟨r, h, .call cmd k⟩) {row : ImportRowResult}
    (hrow : row ∈ ((readingSystem P.toReadingPlatform).backend cmd i
      c.store).2.importRowResults.rows) : row.Prints := by
  rcases cmd with cmd | cmd
  · rcases mem_results_execute hrow with hold | ⟨data, rfl, rfl⟩
    · exact hc.rows row hold
    · have hrecords : Records h (.inl (.createRowResult data)) :=
        Config.obeying_call (P := fun _ => Records) hc.obeys hj
      exact hrecords (hc.answers _ (List.mem_of_getElem? hj))
  · have hsame :
        ((readingSystem P.toReadingPlatform).backend (.inr cmd) i c.store).2 = c.store := by
      change (executeReading P.toReadingPlatform cmd i c.store).2 = c.store
      unfold executeReading
      split
      · rfl
      · rfl
    rw [hsame] at hrow
    exact hc.rows row hrow

theorem printsPlain_next (hC : ∀ type input seen s, C type input seen s →
      ¬PrintsFormula P.toHandlerPlatform type input seen s)
    (c : ReadingConfig) (a : Action ReadingRequest ImportInput) (hc : PrintsPlain c)
    (hcall : CallCondition (FromHandler P.toHandlerPlatform C) c a) :
    PrintsPlain ((readingSystem P.toReadingPlatform).next c a) where
  rows := by
    obtain ⟨r, rfl, hn⟩ | ⟨j, input, r, h, cmd, k, rfl, hj, -, hn⟩ | ⟨hn, -⟩ :=
      (readingSystem P.toReadingPlatform).next_cases c a
    · rw [hn]
      exact hc.rows
    · rw [hn]
      exact fun row => prints_of_recorded P hc hj
    · rw [hn]
      exact hc.rows
  answers := by
    intro t ht e he
    obtain ⟨r, rfl, hn⟩ | ⟨j, input, r, h, cmd, k, rfl, hj, hnext, hn⟩ | ⟨hn, -⟩ :=
      (readingSystem P.toReadingPlatform).next_cases c a
    · rw [hn] at ht
      rcases List.mem_append.mp ht with ht | ht
      · exact hc.answers t ht e he
      · obtain rfl := List.mem_singleton.mp ht
        cases he
    · rw [CallCondition, hnext] at hcall
      rw [hn] at ht
      rcases List.mem_or_eq_of_mem_set ht with ht | rfl
      · exact hc.answers t ht e he
      · rcases List.mem_append.mp he with he | he
        · exact hc.answers _ (List.mem_of_getElem? hj) e he
        · obtain rfl := List.mem_singleton.mp he
          exact prints_of_answer P C hC cmd input hc.rows hcall
    · exact hc.answers t (hn ▸ ht) e he
  obeys := (readingSystem P.toReadingPlatform).obeying_next
    (fun r => handleReading_replies P.toReadingPlatform r) c a hc.obeys

omit [Collation] in
theorem PrintsPlain.reportsOpenNoFormula {c : ReadingConfig} (hc : PrintsPlain c) :
    ReportsOpenNoFormula c := by
  intro t ht report hreport
  have hobeys := hc.obeys t ht
  rw [Program.value?_eq_some_iff.mp hreport] at hobeys
  exact hobeys report rfl (hc.answers t ht)

end

/-- In every run whose rows are processed by the handlers, and in which no carrier row
with a code that opens a formula ends as an error, the error reports have no cell that
opens a formula. -/
theorem error_reports_open_no_formula (P : ReportPlatform) {s : ImportStore}
    (hempty : s.importRowResults.rows = []) (acts : List (Action ReadingRequest ImportInput))
    (hrows : (readingSystem P.toReadingPlatform).AlongActions
      (CallCondition (FromHandler P.toHandlerPlatform fun type input seen store =>
        ¬PrintsFormula P.toHandlerPlatform type input seen store)) (Config.initial s) acts) :
    ReportsOpenNoFormula
      ((readingSystem P.toReadingPlatform).runActions (Config.initial s) acts) := by
  have hinitial : PrintsPlain (Config.initial s : ReadingConfig) :=
    { rows := by
        intro row hrow
        rw [show (Config.initial s : ReadingConfig).store.importRowResults.rows = [] from hempty]
          at hrow
        cases hrow
      answers := fun t ht => nomatch ht
      obeys := Config.obeying_initial _ _ s }
  exact ((readingSystem P.toReadingPlatform).run_invariant (J := PrintsPlain)
    (fun c a hc hcall => printsPlain_next P _ (fun _ _ _ _ h => h) c a hc hcall) acts _ hinitial
    hrows).reportsOpenNoFormula

end

attribute [local instance] foldCase

/-! ## A file with one carrier -/

def plainReport : ReportPlatform where
  toReadingPlatform := plainReading
  toUpperCase := asciiPlatform.toUpperCase

section

variable (code : String)

def codeFile : Buffer := ("nome,codigo\nX," ++ code).toList.map fun c => UInt8.ofNat c.toNat

def codeRow : ImportRowProcessInput where
  duplicateStrategy := .update
  mapping := [("name", "nome"), ("code", "codigo")]
  row := ⟨2, [("nome", "X"), ("codigo", code)]⟩
  tenantId := "tenant"

def codeInput (now : ℕ) : ImportInput :=
  { plainInput now with
    outcome := ((processRow plainReport.toHandlerPlatform .carriers (codeRow code) []).run
      executeQuery quietInput .empty).1.map Prod.fst }

def codeSteps (thread count now : ℕ) : List (Action ReadingRequest ImportInput) :=
  (List.range count).map fun n => .step thread (codeInput code (now + n))

/-- The file is uploaded, a worker goes through it, and the report is asked for. -/
def codeRun : List (Action ReadingRequest ImportInput) :=
  [.start (.base (.create plainContext
      (some ⟨"lista.csv", "text/csv", (codeFile code).length, codeFile code⟩)
      ⟨.carriers, [("name", "nome"), ("code", "codigo")], none⟩))] ++ codeSteps code 0 5 0 ++
    [.start (.base .work)] ++ codeSteps code 1 14 10 ++
    [.start (.errorReport plainContext "2-0")] ++ codeSteps code 2 3 30

/-- The only row handed to a handler is that of the file. -/
def HandsOver (_ : ImportStore) : readingInterface.Command → ImportInput → Prop
  | .inl (.processRow input), _ =>
      input.duplicateStrategy = (codeRow code).duplicateStrategy ∧
        input.mapping = (codeRow code).mapping ∧ input.row = (codeRow code).row ∧
        input.tenantId = (codeRow code).tenantId
  | _, _ => True

instance (s : ImportStore) (c : readingInterface.Command) (i : ImportInput) :
    Decidable (HandsOver code s c i) := by
  unfold HandsOver
  split <;> infer_instance

variable {code}

theorem codeRun_fromHandler
    {C : ImportType → ImportRowProcessInput → List String → HandlerStore → Prop}
    (hC : C .carriers (codeRow code) [] .empty)
    (hrun : (readingSystem plainReading).AlongActions (CallCondition (HandsOver code))
      (Config.initial .empty) (codeRun code)) :
    (readingSystem plainReading).AlongActions
      (CallCondition (FromHandler plainReport.toHandlerPlatform C)) (Config.initial .empty)
      (codeRun code) := by
  have hinputs : ∀ a ∈ codeRun code, ∀ t i, a = .step t i → ∃ now, i = codeInput code now := by
    rintro a ha t i rfl
    simp only [codeRun, codeSteps, List.mem_append, List.mem_map, List.mem_singleton, reduceCtorEq,
      false_or, or_false] at ha
    rcases ha with (⟨n, -, hstep⟩ | ⟨n, -, hstep⟩) | ⟨n, -, hstep⟩
    · exact ⟨0 + n, (Action.step.inj hstep).2.symm⟩
    · exact ⟨10 + n, (Action.step.inj hstep).2.symm⟩
    · exact ⟨30 + n, (Action.step.inj hstep).2.symm⟩
  have hboth := (readingSystem plainReading).alongActions_and _ _ hrun
    ((readingSystem plainReading).alongActions_of_mem (codeRun code)
      (Config.initial .empty) hinputs)
  refine (readingSystem plainReading).alongActions_mono (fun c a h => ?_) (codeRun code) _ hboth
  obtain ⟨hhands, hinput⟩ := h
  unfold CallCondition at hhands ⊢
  split
  · next cmd i hnext =>
    rw [hnext] at hhands
    dsimp only at hhands
    obtain ⟨now, rfl⟩ : ∃ now, i = codeInput code now := by
      cases a with
      | start r => cases hnext
      | step t input =>
          obtain ⟨now, rfl⟩ := hinput t input rfl
          refine ⟨now, ?_⟩
          unfold Config.nextCall at hnext
          dsimp only at hnext
          split at hnext
          · exact (congrArg Prod.snd (Option.some.inj hnext)).symm
          · cases hnext
    rcases cmd with cmd | cmd
    · cases cmd with
      | processRow input =>
          obtain ⟨hstrategy, hmapping, hrow, htenant⟩ := hhands
          obtain ⟨strategy, mapping, row, tenantId⟩ := input
          obtain rfl := hstrategy
          obtain rfl := hmapping
          obtain rfl := hrow
          obtain rfl := htenant
          exact ⟨.carriers, [], quietInput, .empty, hC, rfl⟩
      | _ => trivial
    · trivial
  · trivial

end

def reportCells (c : ReadingConfig) : List String :=
  c.threads.flatMap fun t =>
    match t.program.value? with
    | some (.report report) => (parseDelimited report.content).flatten
    | _ => []

theorem error_reports_open_no_formula_plain :
    ReportsOpenNoFormula
      ((readingSystem plainReading).runActions (Config.initial .empty) (codeRun "#1")) := by
  have hplain :
      ¬PrintsFormula plainReport.toHandlerPlatform .carriers (codeRow "#1") [] .empty := by
    rintro ⟨-, hopens, -⟩
    revert hopens
    decide +kernel
  have hrun : (readingSystem plainReading).AlongActions (CallCondition (HandsOver "#1"))
      (Config.initial .empty) (codeRun "#1") := by
    decide +kernel
  exact error_reports_open_no_formula plainReport rfl (codeRun "#1")
    (codeRun_fromHandler hplain hrun)

/-- Of `#-1` the handler leaves `-1`. -/
theorem a_hidden_hyphen_opens_a_formula :
    (readingSystem plainReading).AlongActions
        (CallCondition (FromHandler plainReport.toHandlerPlatform fun _ _ _ _ => True))
        (Config.initial .empty) (codeRun "#-1") ∧
      ¬ReportsOpenNoFormula
        ((readingSystem plainReading).runActions (Config.initial .empty) (codeRun "#-1")) := by
  have hrun : (readingSystem plainReading).AlongActions (CallCondition (HandsOver "#-1"))
      (Config.initial .empty) (codeRun "#-1") := by
    decide +kernel
  have hcell : "-1" ∈ reportCells
      ((readingSystem plainReading).runActions (Config.initial .empty) (codeRun "#-1")) := by
    decide +kernel
  refine ⟨codeRun_fromHandler trivial hrun, fun h => ?_⟩
  obtain ⟨t, ht, hmem⟩ := List.mem_flatMap.mp hcell
  split at hmem
  · next report hreport =>
    obtain ⟨cells, hcells, hmem⟩ := List.mem_flatten.mp hmem
    have hplain := h t ht report hreport cells hcells "-1" hmem
    revert hplain
    decide
  · cases hmem

end Logistics.Imports
