import Logistics.Imports.Handlers

/-!
# What a handler does with a row

Each run of a handler on a row is one of a few: the row is refused by the checks, it
is found and left alone, it is written, or a call fails. A run is looked at once, in
`processRow_effect` of each handler; what follows about handlers is a case analysis
over these effects.
-/

namespace Logistics.Imports

open Logistics.Library Handlers

variable [Collation]

/-! ## Single calls -/

section Calls

variable {env : Input} {s : HandlerStore}

theorem executeQuery_of_fault (h : env.fault = true) (c : HandlerCommand) :
    executeQuery c env s = (.error .fault, s) := if_pos h

theorem executeQuery_of_calm (h : env.fault = false) (c : HandlerCommand) :
    executeQuery c env s = answerQuery env s c := by
  rw [executeQuery, if_neg]
  rw [h]
  exact Bool.false_ne_true

theorem mem_of_findCustomer {document : String} {tenantId : Id} {row : CustomerRow}
    (h : findCustomer s document tenantId = some row) :
    row ∈ s.customers.rows ∧ row.tenantId = tenantId ∧ row.document = some document := by
  have hp := List.find?_some h
  rw [Bool.and_eq_true, beq_iff_eq, beq_iff_eq] at hp
  exact ⟨List.mem_of_find?_eq_some h, hp⟩

theorem findCustomer_of_mem {document : String} {tenantId : Id} {row : CustomerRow}
    (hrow : row ∈ s.customers.rows) (htenant : row.tenantId = tenantId)
    (hdocument : row.document = some document) :
    findCustomer s document tenantId = some row := by
  have hkey : ∀ other : CustomerRow,
      (other.tenantId == tenantId && other.document == some document) = true →
        CustomerKey.document tenantId document ∈ other.keys := by
    intro other hother
    rw [Bool.and_eq_true, beq_iff_eq, beq_iff_eq] at hother
    simp [CustomerRow.keys, hother.1, hother.2]
  apply s.customers.find?_eq_some_of_key hrow (hkey row ?_) ?_ hkey
  · simp [htenant, hdocument]
  · simp [htenant, hdocument]

theorem find?_customer {row : CustomerRow} (hrow : row ∈ s.customers.rows) :
    (s.customers.rows.find? fun other => other.id == row.id) = some row := by
  have hkey : ∀ other : CustomerRow, (other.id == row.id) = true →
      CustomerKey.id row.id ∈ other.keys := by
    intro other hother
    rw [← beq_iff_eq.mp hother]
    exact List.mem_cons_self
  exact s.customers.find?_eq_some_of_key hrow List.mem_cons_self (beq_self_eq_true _) hkey

theorem mem_of_findCarrierByCode {code : String} {tenantId : Id} {row : CarrierRow}
    (h : findCarrierByCode s code tenantId = some row) :
    row ∈ s.carriers.rows ∧ row.tenantId = tenantId ∧
      ∃ held, row.code = some held ∧ Collation.weight code = Collation.weight held := by
  have hp := List.find?_some h
  rw [Bool.and_eq_true, beq_iff_eq, Option.any_eq_true] at hp
  obtain ⟨htenant, held, hcode, hsame⟩ := hp
  exact ⟨List.mem_of_find?_eq_some h, htenant, held, hcode, collates_iff.mp hsame⟩

theorem mem_of_findCarrierByDocument {document : String} {tenantId : Id} {row : CarrierRow}
    (h : findCarrierByDocument s document tenantId = some row) :
    row ∈ s.carriers.rows ∧ row.tenantId = tenantId ∧ row.document = some document := by
  have hp := List.find?_some h
  rw [Bool.and_eq_true, beq_iff_eq, beq_iff_eq] at hp
  exact ⟨List.mem_of_find?_eq_some h, hp⟩

theorem find?_carrier {row : CarrierRow} (hrow : row ∈ s.carriers.rows) :
    (s.carriers.rows.find? fun other => other.id == row.id) = some row := by
  have hkey : ∀ other : CarrierRow, (other.id == row.id) = true →
      CarrierKey.id row.id ∈ other.keys := by
    intro other hother
    rw [← beq_iff_eq.mp hother]
    exact List.mem_cons_self
  exact s.carriers.find?_eq_some_of_key hrow List.mem_cons_self (beq_self_eq_true _) hkey

end Calls

/-! ## Customers -/

namespace CustomerImportHandler

/-- A row that passes the checks and whose document was not seen. -/
def Admitted (data : CustomerData) (seenReferences : List String) : Prop :=
  validateCustomer data = none ∧ data.document ∉ seenReferences

instance (data : CustomerData) (seenReferences : List String) :
    Decidable (Admitted data seenReferences) := by
  unfold Admitted
  infer_instance

def refusals : List (String × String) :=
  [("NAME_REQUIRED", "Nome obrigatorio."), ("INVALID_DOCUMENT", "CPF/CNPJ invalido."),
    ("INVALID_EMAIL", "E-mail invalido."), ("INVALID_POSTAL_CODE", "CEP deve possuir 8 digitos."),
    ("INVALID_STATE", "Estado deve possuir UF com 2 letras."),
    ("DUPLICATE_IN_FILE", "Documento duplicado dentro do arquivo."),
    ("DUPLICATE_IN_TENANT", "Cliente ja existe neste tenant.")]

omit [Collation] in
theorem mem_refusals {data : CustomerData} {wrong : String × String}
    (h : validateCustomer data = some wrong) : wrong ∈ refusals := by
  unfold validateCustomer at h
  split at h
  · obtain rfl := Option.some.inj h
    simp [refusals]
  split at h
  · obtain rfl := Option.some.inj h
    simp [refusals]
  split at h
  · obtain rfl := Option.some.inj h
    simp [refusals]
  split at h
  · obtain rfl := Option.some.inj h
    simp [refusals]
  split at h
  · obtain rfl := Option.some.inj h
    simp [refusals]
  · cases h

def updated (s : HandlerStore) (now : Time) (id : Id) (data : CustomerData) : HandlerStore :=
  { s with
    customers := s.customers.modify (fun other => other.id == id) ((updateInput data).apply now)
      fun _ => rfl }

/-- The outcomes of a run, each with the store it leaves. -/
inductive Effect (input : ImportRowProcessInput) (data : CustomerData) (seen : List String)
    (ω : ℕ → Input) (s : HandlerStore) :
    Except ServiceError (ImportRowProcessResult × List String) → HandlerStore → Prop
  | refused (code message : String) (h : ¬Admitted data seen)
      (hknown : (code, message) ∈ refusals) :
      Effect input data seen ω s (.ok (error code message data.document (entries data), seen)) s
  | unread (h : Admitted data seen) (hfault : (ω 0).fault = true) :
      Effect input data seen ω s (.error .fault) s
  | failed (h : Admitted data seen) (row : CustomerRow)
      (hfound : findCustomer s data.document input.tenantId = some row)
      (hstrategy : input.duplicateStrategy = .fail) :
      Effect input data seen ω s (.ok (error "DUPLICATE_IN_TENANT"
        "Cliente ja existe neste tenant." data.document (entries data), data.document :: seen)) s
  | skipped (h : Admitted data seen) (row : CustomerRow)
      (hfound : findCustomer s data.document input.tenantId = some row)
      (hstrategy : input.duplicateStrategy = .skip) :
      Effect input data seen ω s
        (.ok (processed .skipped row.id data.document (entries data), data.document :: seen)) s
  | updated (h : Admitted data seen) (row : CustomerRow)
      (hfound : findCustomer s data.document input.tenantId = some row)
      (hstrategy : input.duplicateStrategy = .update) (hfits : (updateInput data).fits = true) :
      Effect input data seen ω s
        (.ok (processed .success row.id data.document (entries data), data.document :: seen))
        (updated s (ω 1).now row.id data)
  | notUpdated (h : Admitted data seen) (row : CustomerRow)
      (hfound : findCustomer s data.document input.tenantId = some row)
      (hstrategy : input.duplicateStrategy = .update)
      (hfails : (ω 1).fault = true ∨ (updateInput data).fits = false) :
      Effect input data seen ω s (.error .fault) s
  | notCreated (h : Admitted data seen)
      (hnone : findCustomer s data.document input.tenantId = none) (e : ServiceError)
      (hfails : e = .fault ∧
          ((ω 1).fault = true ∨ (createInput input.tenantId data).fits = false) ∨
        e = .uniqueViolation ∧ s.customers.tryInsert
          ((createInput input.tenantId data).row ((ω 1).ids 0) (ω 1).now) = none) :
      Effect input data seen ω s (.error e) s
  | created (h : Admitted data seen)
      (hnone : findCustomer s data.document input.tenantId = none)
      (hfits : (createInput input.tenantId data).fits = true)
      (customers : Table CustomerRow CustomerKey CustomerRow.keys)
      (hinsert : s.customers.tryInsert
        ((createInput input.tenantId data).row ((ω 1).ids 0) (ω 1).now) = some customers)
      (hplain : hasAddress data = false) :
      Effect input data seen ω s
        (.ok (processed .success ((ω 1).ids 0) data.document (entries data), data.document :: seen))
        { s with customers }
  | createdWithAddress (h : Admitted data seen)
      (hnone : findCustomer s data.document input.tenantId = none)
      (hfits : (createInput input.tenantId data).fits = true)
      (customers : Table CustomerRow CustomerKey CustomerRow.keys)
      (hinsert : s.customers.tryInsert
        ((createInput input.tenantId data).row ((ω 1).ids 0) (ω 1).now) = some customers)
      (haddress : hasAddress data = true)
      (hfitsAddress : (addressInput input.tenantId ((ω 1).ids 0) data).fits = true)
      (customerAddresses : IdTable CustomerAddressRow CustomerAddressRow.id)
      (hinsertAddress : s.customerAddresses.tryInsert
        ((addressInput input.tenantId ((ω 1).ids 0) data).row ((ω 2).ids 0) (ω 2).now) =
          some customerAddresses)
      (hcalm : (ω 2).fault = false) :
      Effect input data seen ω s
        (.ok (processed .success ((ω 1).ids 0) data.document (entries data), data.document :: seen))
        { s with customers, customerAddresses }
  | addressFailed (h : Admitted data seen)
      (hnone : findCustomer s data.document input.tenantId = none)
      (hfits : (createInput input.tenantId data).fits = true)
      (customers : Table CustomerRow CustomerKey CustomerRow.keys)
      (hinsert : s.customers.tryInsert
        ((createInput input.tenantId data).row ((ω 1).ids 0) (ω 1).now) = some customers)
      (haddress : hasAddress data = true)
      (e : ServiceError)
      (hfails : e = .fault ∧ ((ω 2).fault = true ∨
          (addressInput input.tenantId ((ω 1).ids 0) data).fits = false) ∨
        e = .uniqueViolation ∧ (addressInput input.tenantId ((ω 1).ids 0) data).fits = true ∧
          s.customerAddresses.tryInsert
            ((addressInput input.tenantId ((ω 1).ids 0) data).row ((ω 2).ids 0) (ω 2).now) = none)
      (hread : (ω 0).fault = false) (hwritten : (ω 1).fault = false) :
      Effect input data seen ω s (.error e) { s with customers }

section

variable (P : HandlerPlatform) (input : ImportRowProcessInput) (seen : List String)
  (ω : ℕ → Input) (s : HandlerStore)

theorem write_existing_effect {data : CustomerData} (h : Admitted data seen) {row : CustomerRow}
    (hfound : findCustomer s data.document input.tenantId = some row) :
    Effect input data seen ω s
      (((write input data (some row)).run executeQuery (fun n => ω (n + 1)) s).1.map
        fun result => (result, data.document :: seen))
      ((write input data (some row)).run executeQuery (fun n => ω (n + 1)) s).2 := by
  unfold write
  cases hstrategy : input.duplicateStrategy with
  | fail => exact .failed h row hfound hstrategy
  | skip => exact .skipped h row hfound hstrategy
  | update =>
      dsimp only
      cases hfault : (ω 1).fault with
      | true =>
          rw [Program.run_perform_bind_error (executeQuery_of_fault hfault _)]
          exact .notUpdated h row hfound hstrategy (.inl hfault)
      | false =>
          have hanswer := executeQuery_of_calm (s := s) hfault
            (.updateCustomer row.id (updateInput data))
          have hrow := find?_customer (mem_of_findCustomer hfound).1
          cases hfits : (updateInput data).fits with
          | true =>
              have hok : executeQuery (.updateCustomer row.id (updateInput data)) (ω 1) s =
                  (.ok ((updateInput data).apply (ω 1).now row),
                    updated s (ω 1).now row.id data) := by
                rw [hanswer, answerQuery, hrow]
                exact if_pos hfits
              rw [Program.run_perform_bind_ok hok]
              exact .updated h row hfound hstrategy hfits
          | false =>
              have herror : executeQuery (.updateCustomer row.id (updateInput data)) (ω 1) s =
                  (.error .fault, s) := by
                rw [hanswer, answerQuery, hrow]
                dsimp only
                rw [hfits, if_neg Bool.false_ne_true]
              rw [Program.run_perform_bind_error herror]
              exact .notUpdated h row hfound hstrategy (.inr hfits)

/-- What follows when a new customer has been created and has an address. -/
theorem address_effect {data : CustomerData} (h : Admitted data seen)
    (hread : (ω 0).fault = false) (hwritten : (ω 1).fault = false)
    (hnone : findCustomer s data.document input.tenantId = none)
    (hfits : (createInput input.tenantId data).fits = true)
    {customers : Table CustomerRow CustomerKey CustomerRow.keys}
    (hinsert : s.customers.tryInsert
      ((createInput input.tenantId data).row ((ω 1).ids 0) (ω 1).now) = some customers)
    (haddress : hasAddress data = true) :
    Effect input data seen ω s
      (((do
        let _ ← query (.createCustomerAddress (addressInput input.tenantId ((ω 1).ids 0) data))
        pure (processed .success ((ω 1).ids 0) data.document (entries data))).run executeQuery
          (fun n => ω (n + 2)) { s with customers }).1.map
        fun result => (result, data.document :: seen))
      ((do
        let _ ← query (.createCustomerAddress (addressInput input.tenantId ((ω 1).ids 0) data))
        pure (processed .success ((ω 1).ids 0) data.document (entries data))).run executeQuery
          (fun n => ω (n + 2)) { s with customers }).2 := by
  cases hfault : (ω 2).fault with
  | true =>
      rw [Program.run_perform_bind_error (executeQuery_of_fault hfault _)]
      exact .addressFailed h hnone hfits customers hinsert haddress .fault
        (.inl ⟨rfl, .inl hfault⟩) hread hwritten
  | false =>
      have hanswer := executeQuery_of_calm (s := { s with customers }) hfault
        (.createCustomerAddress (addressInput input.tenantId ((ω 1).ids 0) data))
      cases hfitsAddress : (addressInput input.tenantId ((ω 1).ids 0) data).fits with
      | false =>
          rw [answerQuery, hfitsAddress, if_neg Bool.false_ne_true] at hanswer
          rw [Program.run_perform_bind_error hanswer]
          exact .addressFailed h hnone hfits customers hinsert haddress .fault
            (.inl ⟨rfl, .inr hfitsAddress⟩) hread hwritten
      | true =>
          rw [answerQuery, hfitsAddress, if_pos rfl] at hanswer
          cases hinsertAddress : s.customerAddresses.tryInsert
              ((addressInput input.tenantId ((ω 1).ids 0) data).row ((ω 2).ids 0) (ω 2).now) with
          | none =>
              rw [hinsertAddress] at hanswer
              rw [Program.run_perform_bind_error hanswer]
              exact .addressFailed h hnone hfits customers hinsert haddress .uniqueViolation
                (.inr ⟨rfl, hfitsAddress, hinsertAddress⟩) hread hwritten
          | some customerAddresses =>
              rw [hinsertAddress] at hanswer
              rw [Program.run_perform_bind_ok hanswer]
              exact .createdWithAddress h hnone hfits customers hinsert haddress hfitsAddress
                customerAddresses hinsertAddress hfault

theorem write_new_effect {data : CustomerData} (h : Admitted data seen)
    (hread : (ω 0).fault = false)
    (hnone : findCustomer s data.document input.tenantId = none) :
    Effect input data seen ω s
      (((write input data none).run executeQuery (fun n => ω (n + 1)) s).1.map
        fun result => (result, data.document :: seen))
      ((write input data none).run executeQuery (fun n => ω (n + 1)) s).2 := by
  unfold write
  cases hfault : (ω 1).fault with
  | true =>
      rw [Program.run_perform_bind_error (executeQuery_of_fault hfault _)]
      exact .notCreated h hnone .fault (.inl ⟨rfl, .inl hfault⟩)
  | false =>
      have hanswer := executeQuery_of_calm (s := s) hfault
        (.createCustomer (createInput input.tenantId data))
      cases hfits : (createInput input.tenantId data).fits with
      | false =>
          have herror : executeQuery (.createCustomer (createInput input.tenantId data)) (ω 1) s =
              (.error .fault, s) := by
            rw [hanswer, answerQuery, hfits, if_neg Bool.false_ne_true]
          rw [Program.run_perform_bind_error herror]
          exact .notCreated h hnone .fault (.inl ⟨rfl, .inr hfits⟩)
      | true =>
          cases hinsert : s.customers.tryInsert
              ((createInput input.tenantId data).row ((ω 1).ids 0) (ω 1).now) with
          | none =>
              have herror :
                  executeQuery (.createCustomer (createInput input.tenantId data)) (ω 1) s =
                  (.error .uniqueViolation, s) := by
                rw [hanswer, answerQuery, hfits, if_pos rfl, hinsert]
              rw [Program.run_perform_bind_error herror]
              exact .notCreated h hnone .uniqueViolation (.inr ⟨rfl, hinsert⟩)
          | some customers =>
              have hok : executeQuery (.createCustomer (createInput input.tenantId data)) (ω 1) s =
                  (.ok ((createInput input.tenantId data).row ((ω 1).ids 0) (ω 1).now),
                    { s with customers }) := by
                rw [hanswer, answerQuery, hfits, if_pos rfl, hinsert]
              rw [Program.run_perform_bind_ok hok]
              cases haddress : hasAddress data with
              | false =>
                  rw [if_neg Bool.false_ne_true]
                  exact .created h hnone hfits customers hinsert haddress
              | true =>
                  rw [if_pos rfl]
                  exact address_effect input seen ω s h hread hfault hnone hfits hinsert haddress

theorem processRow_effect :
    Effect input (readData P input) seen ω s ((processRow P input seen).run executeQuery ω s).1
      ((processRow P input seen).run executeQuery ω s).2 := by
  unfold processRow
  dsimp only
  cases hvalid : validateCustomer (readData P input) with
  | some wrong =>
      exact .refused wrong.1 wrong.2 (fun h => by rw [h.1] at hvalid; cases hvalid)
        (mem_refusals hvalid)
  | none =>
      dsimp only
      by_cases hseen : (readData P input).document ∈ seen
      · rw [if_pos hseen]
        exact .refused _ _ (fun h => h.2 hseen) (by simp [refusals])
      · have h : Admitted (readData P input) seen := ⟨hvalid, hseen⟩
        rw [if_neg hseen]
        cases hfault : (ω 0).fault with
        | true =>
            rw [Program.run_perform_bind_error (executeQuery_of_fault hfault _)]
            exact .unread h hfault
        | false =>
            rw [Program.run_perform_bind_ok (executeQuery_of_calm hfault _), bind_pure_comp,
              Program.run_map]
            cases hfound : findCustomer s (readData P input).document input.tenantId with
            | some row => exact write_existing_effect input seen ω s h hfound
            | none => exact write_new_effect input seen ω s h hfault hfound

end

end CustomerImportHandler

/-! ## Carriers -/

namespace CarrierImportHandler

/-- A row that passes the checks and whose reference was not seen. -/
def Admitted (data : CarrierData) (seenReferences : List String) : Prop :=
  validateCarrier data = none ∧ referenceOf data ∉ seenReferences

instance (data : CarrierData) (seenReferences : List String) :
    Decidable (Admitted data seenReferences) := by
  unfold Admitted
  infer_instance

def refusals : List (String × String) :=
  [("NAME_REQUIRED", "Nome obrigatorio."), ("CODE_REQUIRED", "Codigo obrigatorio."),
    ("INVALID_CNPJ", "CNPJ deve possuir 14 digitos."), ("INVALID_EMAIL", "E-mail invalido."),
    ("INVALID_SITE", "Site deve iniciar com http:// ou https://."),
    ("DUPLICATE_IN_FILE", "Transportadora duplicada dentro do arquivo."),
    ("DUPLICATE_IN_TENANT", "Transportadora ja existe neste tenant.")]

omit [Collation] in
theorem mem_refusals {data : CarrierData} {wrong : String × String}
    (h : validateCarrier data = some wrong) : wrong ∈ refusals := by
  unfold validateCarrier at h
  split at h
  · obtain rfl := Option.some.inj h
    simp [refusals]
  split at h
  · obtain rfl := Option.some.inj h
    simp [refusals]
  split at h
  · obtain rfl := Option.some.inj h
    simp [refusals]
  split at h
  · obtain rfl := Option.some.inj h
    simp [refusals]
  split at h
  · obtain rfl := Option.some.inj h
    simp [refusals]
  · cases h

/-- The carrier that a row is about: the one with its code, or else the one with its
document. -/
def existingCarrier (s : HandlerStore) (tenantId : Id) (data : CarrierData) : Option CarrierRow :=
  (findCarrierByCode s data.code tenantId).or
    (if data.document = "" then none else findCarrierByDocument s data.document tenantId)

/-- The outcomes of a run, each with the store it leaves; `n` counts the calls before
the one that decides. -/
inductive Effect (input : ImportRowProcessInput) (data : CarrierData) (seen : List String)
    (ω : ℕ → Input) (s : HandlerStore) :
    Except ServiceError (ImportRowProcessResult × List String) → HandlerStore → Prop
  | refused (code message : String) (h : ¬Admitted data seen)
      (hknown : (code, message) ∈ refusals) :
      Effect input data seen ω s
        (.ok (error code message (referenceOf data) (entries data), seen)) s
  | unread (h : Admitted data seen) (n : ℕ) (hfault : (ω n).fault = true) :
      Effect input data seen ω s (.error .fault) s
  | failed (h : Admitted data seen) (row : CarrierRow)
      (hfound : existingCarrier s input.tenantId data = some row)
      (hstrategy : input.duplicateStrategy = .fail) :
      Effect input data seen ω s (.ok (error "DUPLICATE_IN_TENANT"
        "Transportadora ja existe neste tenant." (referenceOf data) (entries data),
        referenceOf data :: seen)) s
  | skipped (h : Admitted data seen) (row : CarrierRow)
      (hfound : existingCarrier s input.tenantId data = some row)
      (hstrategy : input.duplicateStrategy = .skip) :
      Effect input data seen ω s
        (.ok (processed .skipped row.id (referenceOf data) (entries data),
          referenceOf data :: seen)) s
  | updated (h : Admitted data seen) (row : CarrierRow)
      (hfound : existingCarrier s input.tenantId data = some row)
      (hstrategy : input.duplicateStrategy = .update)
      (hfits : (payload input.tenantId data).fits = true) (n : ℕ)
      (carriers : Table CarrierRow CarrierKey CarrierRow.keys)
      (hwrite : s.carriers.tryUpdate (fun other => other.id == row.id)
        ((payload input.tenantId data).apply (ω n).now) = some carriers) :
      Effect input data seen ω s
        (.ok (processed .success row.id (referenceOf data) (entries data),
          referenceOf data :: seen))
        { s with carriers }
  | notUpdated (h : Admitted data seen) (row : CarrierRow)
      (hfound : existingCarrier s input.tenantId data = some row)
      (hstrategy : input.duplicateStrategy = .update) (n : ℕ) (e : ServiceError)
      (hfails : e = .fault ∧
          ((ω n).fault = true ∨ (payload input.tenantId data).fits = false) ∨
        e = .uniqueViolation ∧ (payload input.tenantId data).fits = true ∧
          s.carriers.tryUpdate (fun other => other.id == row.id)
            ((payload input.tenantId data).apply (ω n).now) = none) :
      Effect input data seen ω s (.error e) s
  | created (h : Admitted data seen) (hnone : existingCarrier s input.tenantId data = none)
      (hfits : (payload input.tenantId data).fits = true) (n : ℕ)
      (carriers : Table CarrierRow CarrierKey CarrierRow.keys)
      (hwrite : s.carriers.tryInsert
        ((payload input.tenantId data).row ((ω n).ids 0) (ω n).now) = some carriers) :
      Effect input data seen ω s
        (.ok (processed .success ((ω n).ids 0) (referenceOf data) (entries data),
          referenceOf data :: seen)) { s with carriers }
  | notCreated (h : Admitted data seen) (hnone : existingCarrier s input.tenantId data = none)
      (n : ℕ) (e : ServiceError)
      (hfails : e = .fault ∧
          ((ω n).fault = true ∨ (payload input.tenantId data).fits = false) ∨
        e = .uniqueViolation ∧ s.carriers.tryInsert
          ((payload input.tenantId data).row ((ω n).ids 0) (ω n).now) = none) :
      Effect input data seen ω s (.error e) s

omit [Collation] in
theorem code_of_valid {data : CarrierData} (h : validateCarrier data = none) : data.code ≠ "" := by
  intro hcode
  unfold validateCarrier at h
  rw [hcode] at h
  split at h
  · cases h
  · cases h

omit [Collation] in
theorem referenceOf_of_valid {data : CarrierData} (h : validateCarrier data = none) :
    referenceOf data = data.code := if_neg (code_of_valid h)

theorem mem_of_existingCarrier {s : HandlerStore} {tenantId : Id} {data : CarrierData}
    {row : CarrierRow} (h : existingCarrier s tenantId data = some row) :
    row ∈ s.carriers.rows ∧ row.tenantId = tenantId := by
  rcases Option.or_eq_some_iff.mp h with hcode | ⟨-, hdocument⟩
  · exact ⟨(mem_of_findCarrierByCode hcode).1, (mem_of_findCarrierByCode hcode).2.1⟩
  · split at hdocument
    · cases hdocument
    · exact ⟨(mem_of_findCarrierByDocument hdocument).1,
        (mem_of_findCarrierByDocument hdocument).2.1⟩

section

variable {s : HandlerStore} (env : Input) (data : CarrierCreateInput)

theorem executeQuery_updateCarrier {row : CarrierRow} (hrow : row ∈ s.carriers.rows) :
    (∃ e, (e = .fault ∧ (env.fault = true ∨ data.fits = false) ∨
        e = .uniqueViolation ∧ data.fits = true ∧
          s.carriers.tryUpdate (fun other => other.id == row.id) (data.apply env.now) = none) ∧
      executeQuery (.updateCarrier row.id data) env s = (.error e, s)) ∨
    (data.fits = true ∧ ∃ carriers,
      s.carriers.tryUpdate (fun other => other.id == row.id) (data.apply env.now) = some carriers ∧
      executeQuery (.updateCarrier row.id data) env s =
        (.ok (data.apply env.now row), { s with carriers })) := by
  cases hfault : env.fault with
  | true =>
      exact .inl ⟨.fault, .inl ⟨rfl, .inl rfl⟩, executeQuery_of_fault hfault _⟩
  | false =>
      have hanswer := executeQuery_of_calm (s := s) hfault (.updateCarrier row.id data)
      rw [answerQuery, find?_carrier hrow] at hanswer
      dsimp only at hanswer
      cases hfits : data.fits with
      | false =>
          rw [hfits, if_neg Bool.false_ne_true] at hanswer
          exact .inl ⟨.fault, .inl ⟨rfl, .inr rfl⟩, hanswer⟩
      | true =>
          rw [hfits, if_pos rfl] at hanswer
          cases hwrite : s.carriers.tryUpdate (fun other => other.id == row.id)
              (data.apply env.now) with
          | none =>
              rw [hwrite] at hanswer
              exact .inl ⟨.uniqueViolation, .inr ⟨rfl, rfl, rfl⟩, hanswer⟩
          | some carriers =>
              rw [hwrite] at hanswer
              exact .inr ⟨rfl, carriers, rfl, hanswer⟩

theorem executeQuery_createCarrier :
    (∃ e, (e = .fault ∧ (env.fault = true ∨ data.fits = false) ∨
        e = .uniqueViolation ∧ s.carriers.tryInsert (data.row (env.ids 0) env.now) = none) ∧
      executeQuery (.createCarrier data) env s = (.error e, s)) ∨
    (data.fits = true ∧ ∃ carriers,
      s.carriers.tryInsert (data.row (env.ids 0) env.now) = some carriers ∧
      executeQuery (.createCarrier data) env s =
        (.ok (data.row (env.ids 0) env.now), { s with carriers })) := by
  cases hfault : env.fault with
  | true =>
      exact .inl ⟨.fault, .inl ⟨rfl, .inl rfl⟩, executeQuery_of_fault hfault _⟩
  | false =>
      have hanswer := executeQuery_of_calm (s := s) hfault (.createCarrier data)
      rw [answerQuery] at hanswer
      cases hfits : data.fits with
      | false =>
          rw [hfits, if_neg Bool.false_ne_true] at hanswer
          exact .inl ⟨.fault, .inl ⟨rfl, .inr rfl⟩, hanswer⟩
      | true =>
          rw [hfits, if_pos rfl] at hanswer
          cases hwrite : s.carriers.tryInsert (data.row (env.ids 0) env.now) with
          | none =>
              rw [hwrite] at hanswer
              exact .inl ⟨.uniqueViolation, .inr ⟨rfl, rfl⟩, hanswer⟩
          | some carriers =>
              rw [hwrite] at hanswer
              exact .inr ⟨rfl, carriers, rfl, hanswer⟩

end

section

variable (P : HandlerPlatform) (input : ImportRowProcessInput) (seen : List String)
  (ω : ℕ → Input) (s : HandlerStore)

theorem run_findExistingCarrier {α : Type} (tenantId : Id) {data : CarrierData}
    (hcode : data.code ≠ "") (f : Option CarrierRow → Program handlerInterface α) :
    (∃ n, (ω n).fault = true ∧
      (findExistingCarrier tenantId data >>= f).run executeQuery ω s = (.error .fault, s)) ∨
    ∃ n, (findExistingCarrier tenantId data >>= f).run executeQuery ω s =
      (f (existingCarrier s tenantId data)).run executeQuery (fun m => ω (m + n)) s := by
  unfold findExistingCarrier findByDocument existingCarrier
  rw [if_neg hcode, bind_assoc]
  cases hfault : (ω 0).fault with
  | true =>
      exact .inl ⟨0, hfault, Program.run_perform_bind_error (executeQuery_of_fault hfault _)⟩
  | false =>
      rw [Program.run_perform_bind_ok (executeQuery_of_calm hfault _)]
      cases hfound : findCarrierByCode s data.code tenantId with
      | some byCode => exact .inr ⟨1, rfl⟩
      | none =>
          dsimp only
          by_cases hdocument : data.document = ""
          · rw [if_pos hdocument, if_pos hdocument]
            exact .inr ⟨1, rfl⟩
          · rw [if_neg hdocument, if_neg hdocument]
            cases hfault' : (ω 1).fault with
            | true =>
                exact .inl ⟨1, hfault',
                  Program.run_perform_bind_error (executeQuery_of_fault hfault' _)⟩
            | false =>
                rw [Program.run_perform_bind_ok (executeQuery_of_calm hfault' _)]
                exact .inr ⟨2, rfl⟩

theorem write_effect {data : CarrierData} (h : Admitted data seen) (n : ℕ) :
    Effect input data seen ω s
      (((write input data (existingCarrier s input.tenantId data)).run executeQuery
        (fun m => ω (m + n)) s).1.map fun result => (result, referenceOf data :: seen))
      ((write input data (existingCarrier s input.tenantId data)).run executeQuery
        (fun m => ω (m + n)) s).2 := by
  unfold write
  cases hfound : existingCarrier s input.tenantId data with
  | some row =>
      dsimp only
      cases hstrategy : input.duplicateStrategy with
      | fail => exact .failed h row hfound hstrategy
      | skip => exact .skipped h row hfound hstrategy
      | update =>
          have hcall := executeQuery_updateCarrier (ω (0 + n)) (payload input.tenantId data)
            (mem_of_existingCarrier hfound).1
          rcases hcall with ⟨e, hfails, hcall⟩ | ⟨hfits, carriers, hwrite, hcall⟩
          · rw [Program.run_perform_bind_error hcall]
            exact .notUpdated h row hfound hstrategy (0 + n) e hfails
          · rw [Program.run_perform_bind_ok hcall]
            exact .updated h row hfound hstrategy hfits (0 + n) carriers hwrite
  | none =>
      have hcall := executeQuery_createCarrier (s := s) (ω (0 + n)) (payload input.tenantId data)
      rcases hcall with ⟨e, hfails, hcall⟩ | ⟨hfits, carriers, hwrite, hcall⟩
      · rw [Program.run_perform_bind_error hcall]
        exact .notCreated h hfound (0 + n) e hfails
      · rw [Program.run_perform_bind_ok hcall]
        exact .created h hfound hfits (0 + n) carriers hwrite

theorem processRow_effect :
    Effect input (readData P input) seen ω s ((processRow P input seen).run executeQuery ω s).1
      ((processRow P input seen).run executeQuery ω s).2 := by
  unfold processRow
  dsimp only
  cases hvalid : validateCarrier (readData P input) with
  | some wrong =>
      exact .refused wrong.1 wrong.2 (fun h => by rw [h.1] at hvalid; cases hvalid)
        (mem_refusals hvalid)
  | none =>
      dsimp only
      by_cases hseen : referenceOf (readData P input) ∈ seen
      · rw [if_pos hseen]
        exact .refused _ _ (fun h => h.2 hseen) (by simp [refusals])
      · have h : Admitted (readData P input) seen := ⟨hvalid, hseen⟩
        rw [if_neg hseen]
        rcases run_findExistingCarrier ω s input.tenantId (code_of_valid hvalid)
          (fun existing => do
            let result ← write input (readData P input) existing
            pure (result, referenceOf (readData P input) :: seen)) with
        ⟨n, hfault, hrun⟩ | ⟨n, hrun⟩
        · rw [hrun]
          exact .unread h n hfault
        · rw [hrun, bind_pure_comp, Program.run_map]
          exact write_effect input seen ω s h n

end

end CarrierImportHandler

end Logistics.Imports
