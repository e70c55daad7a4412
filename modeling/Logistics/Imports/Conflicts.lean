import Logistics.Imports.Effects

/-!
# Rows and unique keys

A customer row looks for the one key that it writes. A carrier row writes two, its
code and its document, and takes the carrier with the code without looking whether
the document is another's: then the update breaks the key, and the exception ends the
import. Otherwise only a value that is too long for its column makes a row throw.
-/

namespace Logistics.Imports

open Logistics.Library Handlers

section

variable [Collation]

/-- No call is broken off by the database. -/
def Calm (ω : ℕ → Input) : Prop := ∀ n, (ω n).fault = false

/-- A run ends with an exception when a value is too long or a key conflicts. -/
inductive RowEnds {α : Type} (overflows conflicts : Prop) : Except ServiceError α → Prop
  | ok (result : α) (hfits : ¬overflows) (hfree : ¬conflicts) :
      RowEnds overflows conflicts (.ok result)
  | fault (h : overflows) : RowEnds overflows conflicts (.error .fault)
  | uniqueViolation (hfits : ¬overflows) (h : conflicts) :
      RowEnds overflows conflicts (.error .uniqueViolation)

omit [Collation] in
theorem RowEnds.isOk_iff {α : Type} {overflows conflicts : Prop} {outcome : Except ServiceError α}
    (h : RowEnds overflows conflicts outcome) :
    (∃ result, outcome = .ok result) ↔ ¬overflows ∧ ¬conflicts := by
  cases h with
  | ok result hfits hfree => exact iff_of_true ⟨result, rfl⟩ ⟨hfits, hfree⟩
  | fault hover => exact iff_of_false (fun ⟨_, h⟩ => nomatch h) fun h => h.1 hover
  | uniqueViolation hfits hconflict =>
      exact iff_of_false (fun ⟨_, h⟩ => nomatch h) fun h => h.2 hconflict

omit [Collation] in
theorem RowEnds.uniqueViolation_iff {α : Type} {overflows conflicts : Prop}
    {outcome : Except ServiceError α} (h : RowEnds overflows conflicts outcome) :
    outcome = .error .uniqueViolation ↔ ¬overflows ∧ conflicts := by
  cases h with
  | ok result hfits hfree => exact iff_of_false (fun h => nomatch h) fun h => hfree h.2
  | fault hover => exact iff_of_false (fun h => nomatch h) fun h => h.1 hover
  | uniqueViolation hfits hconflict => exact iff_of_true rfl ⟨hfits, hconflict⟩

/-- New identifiers are not in use. -/
structure Fresh (ω : ℕ → Input) (s : HandlerStore) : Prop where
  customers : ∀ n, ∀ row ∈ s.customers.rows, row.id ≠ (ω n).ids 0
  addresses : ∀ n, ∀ row ∈ s.customerAddresses.rows, row.id ≠ (ω n).ids 0
  carriers : ∀ n, ∀ row ∈ s.carriers.rows, row.id ≠ (ω n).ids 0

/-! ## Lengths -/

omit [Collation] in
theorem fitsColumn_of_utf16Length {text : String} {limit : ℕ} (h : utf16Length text ≤ limit) :
    fitsColumn limit text = true := by
  rw [fitsColumn, decide_eq_true_iff]
  exact (length_le_utf16Length text).trans h

/-! ## Keys -/

omit [Collation] in
@[simp] theorem CustomerRow.id_mem_keys_iff {row : CustomerRow} {id : Id} :
    CustomerKey.id id ∈ row.keys ↔ row.id = id := by
  simp [CustomerRow.keys, eq_comm]

omit [Collation] in
@[simp] theorem CustomerRow.document_mem_keys_iff {row : CustomerRow} {tenantId : Id}
    {document : String} : CustomerKey.document tenantId document ∈ row.keys ↔
      row.tenantId = tenantId ∧ row.document = some document := by
  cases h : row.document <;> simp [CustomerRow.keys, h, eq_comm]

@[simp] theorem CarrierRow.id_mem_keys_iff {row : CarrierRow} {id : Id} :
    CarrierKey.id id ∈ row.keys ↔ row.id = id := by
  simp [CarrierRow.keys, eq_comm]

@[simp] theorem CarrierRow.document_mem_keys_iff {row : CarrierRow} {tenantId : Id}
    {document : String} : CarrierKey.document tenantId document ∈ row.keys ↔
      row.tenantId = tenantId ∧ row.document = some document := by
  cases h : row.document <;> simp [CarrierRow.keys, h, eq_comm]

@[simp] theorem CarrierRow.code_mem_keys_iff {row : CarrierRow} {tenantId : Id}
    {weight : String} : CarrierKey.code tenantId weight ∈ row.keys ↔
      row.tenantId = tenantId ∧ ∃ code, row.code = some code ∧ Collation.weight code = weight := by
  cases h : row.code <;> simp [CarrierRow.keys, h, eq_comm]

theorem CarrierRow.nodup_keys (row : CarrierRow) : row.keys.Nodup := by
  cases hdocument : row.document <;> cases hcode : row.code <;>
    simp [CarrierRow.keys, hdocument, hcode]

omit [Collation] in
theorem CustomerRow.nodup_keys (row : CustomerRow) : row.keys.Nodup := by
  cases hdocument : row.document <;> simp [CustomerRow.keys, hdocument]

section Searches

variable {s : HandlerStore}

theorem findCustomer_eq_none_iff {document : String} {tenantId : Id} :
    findCustomer s document tenantId = none ↔
      ∀ row ∈ s.customers.rows, CustomerKey.document tenantId document ∉ row.keys := by
  simp [findCustomer]

theorem findCarrierByCode_eq_none_iff {code : String} {tenantId : Id} :
    findCarrierByCode s code tenantId = none ↔
      ∀ row ∈ s.carriers.rows, CarrierKey.code tenantId (Collation.weight code) ∉ row.keys := by
  rw [findCarrierByCode, List.find?_eq_none]
  refine forall₂_congr fun row _ => not_congr ?_
  rw [Bool.and_eq_true, beq_iff_eq, Option.any_eq_true, CarrierRow.code_mem_keys_iff]
  refine and_congr_right fun _ => exists_congr fun held => and_congr_right fun _ => ?_
  rw [collates_iff, eq_comm]

theorem findCarrierByDocument_eq_none_iff {document : String} {tenantId : Id} :
    findCarrierByDocument s document tenantId = none ↔
      ∀ row ∈ s.carriers.rows, CarrierKey.document tenantId document ∉ row.keys := by
  simp [findCarrierByDocument]

theorem eq_of_carrier_id {a b : CarrierRow} (ha : a ∈ s.carriers.rows) (hb : b ∈ s.carriers.rows)
    (h : a.id = b.id) : a = b :=
  s.carriers.eq_of_key (k := .id b.id) ha hb (CarrierRow.id_mem_keys_iff.mpr h)
    (CarrierRow.id_mem_keys_iff.mpr rfl)

theorem findCarrierByDocument_of_mem {document : String} {tenantId : Id} {row : CarrierRow}
    (hrow : row ∈ s.carriers.rows) (htenant : row.tenantId = tenantId)
    (hdocument : row.document = some document) :
    findCarrierByDocument s document tenantId = some row := by
  apply s.carriers.find?_eq_some_of_key (k := .document tenantId document) hrow
  · exact CarrierRow.document_mem_keys_iff.mpr ⟨htenant, hdocument⟩
  · rw [htenant, hdocument, beq_self_eq_true, beq_self_eq_true, Bool.and_self]
  · intro other hother
    rw [Bool.and_eq_true, beq_iff_eq, beq_iff_eq] at hother
    exact CarrierRow.document_mem_keys_iff.mpr hother

end Searches

/-! ## Customers -/

namespace CustomerImportHandler

def Overflows (input : ImportRowProcessInput) (data : CustomerData) (seen : List String)
    (s : HandlerStore) : Prop :=
  Admitted data seen ∧
    match findCustomer s data.document input.tenantId with
    | some _ => input.duplicateStrategy = .update ∧ (updateInput data).fits = false
    | none => (createInput input.tenantId data).fits = false ∨ fitsColumn 120 data.city = false

omit [Collation] in
theorem addressInput_fits {data : CustomerData} (h : validateCustomer data = none)
    (tenantId customerId : Id) :
    (addressInput tenantId customerId data).fits = fitsColumn 120 data.city := by
  unfold validateCustomer at h
  split at h; · cases h
  split at h; · cases h
  split at h; · cases h
  split at h; · cases h
  next hpostal =>
  split at h; · cases h
  next hstate =>
  have hpostalFits : fitsColumn 16 (orElse data.postalCode "00000000") = true := by
    unfold orElse
    split
    · rfl
    · next hne =>
      apply fitsColumn_of_utf16Length
      have hlength := not_not.mp fun hlength => hpostal ⟨hne, hlength⟩
      omega
  have hstateFits : fitsColumn 2 (orElse data.state "SP") = true := by
    unfold orElse
    split
    · rfl
    · next hne =>
      apply fitsColumn_of_utf16Length
      exact (not_not.mp fun hlength => hstate ⟨hne, hlength⟩).le
  have hcity : fitsColumn 120 (orElse data.city "Nao informado") = fitsColumn 120 data.city := by
    unfold orElse
    split
    · next hempty =>
      rw [hempty]
      rfl
    · rfl
  have hstreet : fitsColumn 160 "Endereco importado" = true := rfl
  have hcountry : fitsColumn 2 "BR" = true := rfl
  unfold CustomerAddressCreateInput.fits addressInput
  rw [hpostalFits, hstateFits, hcity, hstreet, hcountry]
  simp

omit [Collation] in
theorem fitsColumn_city_of_hasAddress {data : CustomerData} (h : hasAddress data = false) :
    fitsColumn 120 data.city = true := by
  have hcity : data.city = "" := by simp_all [hasAddress]
  rw [hcity]
  rfl

theorem tryInsert_customer_isSome_iff {s : HandlerStore} {tenantId : Id} {data : CustomerData}
    (hnone : findCustomer s data.document tenantId = none) (id : Id) (now : Time) :
    (∃ customers, s.customers.tryInsert ((createInput tenantId data).row id now) =
        some customers) ↔
      ∀ row ∈ s.customers.rows, row.id ≠ id := by
  rw [s.customers.tryInsert_isSome_iff, and_iff_right (CustomerRow.nodup_keys _)]
  constructor
  · intro hfree row hrow hid
    exact hfree (.id id) (CustomerRow.id_mem_keys_iff.mpr rfl) row hrow
      (CustomerRow.id_mem_keys_iff.mpr hid)
  · intro hfree k hk row hrow
    cases k with
    | id other =>
        obtain rfl := CustomerRow.id_mem_keys_iff.mp hk
        rw [CustomerRow.id_mem_keys_iff]
        exact hfree row hrow
    | document tenant document =>
        obtain ⟨rfl, hdocument⟩ := CustomerRow.document_mem_keys_iff.mp hk
        obtain rfl := Option.some.inj hdocument
        exact findCustomer_eq_none_iff.mp hnone row hrow

theorem tryInsert_customerAddress_isSome_iff {s : HandlerStore} (data : CustomerAddressCreateInput)
    (id : Id) (now : Time) :
    (∃ customerAddresses, s.customerAddresses.tryInsert (data.row id now) =
        some customerAddresses) ↔
      ∀ row ∈ s.customerAddresses.rows, row.id ≠ id := by
  rw [s.customerAddresses.tryInsert_isSome_iff, and_iff_right (List.nodup_singleton _)]
  simp only [List.mem_singleton, forall_eq]
  exact forall₂_congr fun row _ => not_congr eq_comm

theorem Effect.ends {input : ImportRowProcessInput} {data : CustomerData} {seen : List String}
    {ω : ℕ → Input} {s s' : HandlerStore}
    {outcome : Except ServiceError (ImportRowProcessResult × List String)}
    (h : Effect input data seen ω s outcome s') (hcalm : Calm ω) (hfresh : Fresh ω s) :
    RowEnds (Overflows input data seen s) False outcome := by
  cases h with
  | refused code message h => exact .ok _ (fun hover => h hover.1) id
  | unread h hfault => exact absurd ((hcalm 0).symm.trans hfault) Bool.false_ne_true
  | failed h row hfound hstrategy | skipped h row hfound hstrategy =>
      refine .ok _ (fun hover => ?_) id
      have hlimit := hover.2
      rw [hfound] at hlimit
      have hupdate := hlimit.1
      rw [hstrategy] at hupdate
      cases hupdate
  | updated h row hfound hstrategy hfits =>
      refine .ok _ (fun hover => ?_) id
      have hlimit := hover.2
      rw [hfound] at hlimit
      exact Bool.false_ne_true (hlimit.2.symm.trans hfits)
  | notUpdated h row hfound hstrategy hfails =>
      refine .fault ⟨h, ?_⟩
      rw [hfound]
      rcases hfails with hfault | hlong
      · exact absurd ((hcalm 1).symm.trans hfault) Bool.false_ne_true
      · exact ⟨hstrategy, hlong⟩
  | notCreated h hnone e hfails =>
      rcases hfails with ⟨rfl, hfault | hlong⟩ | ⟨rfl, htaken⟩
      · exact absurd ((hcalm 1).symm.trans hfault) Bool.false_ne_true
      · refine .fault ⟨h, ?_⟩
        rw [hnone]
        exact .inl hlong
      · obtain ⟨customers, hinsert⟩ := (tryInsert_customer_isSome_iff hnone _ (ω 1).now).mpr
          (hfresh.customers 1)
        rw [htaken] at hinsert
        cases hinsert
  | created h hnone hfits customers hinsert hplain =>
      refine .ok _ (fun hover => ?_) id
      have hlimit := hover.2
      rw [hnone] at hlimit
      rcases hlimit with hlong | hlong
      · exact Bool.false_ne_true (hlong.symm.trans hfits)
      · exact Bool.false_ne_true (hlong.symm.trans (fitsColumn_city_of_hasAddress hplain))
  | createdWithAddress h hnone hfits customers hinsert haddress hfitsAddress _ _ _ =>
      refine .ok _ (fun hover => ?_) id
      have hlimit := hover.2
      rw [hnone] at hlimit
      rw [addressInput_fits h.1] at hfitsAddress
      rcases hlimit with hlong | hlong
      · exact Bool.false_ne_true (hlong.symm.trans hfits)
      · exact Bool.false_ne_true (hlong.symm.trans hfitsAddress)
  | addressFailed h hnone hfits customers hinsert haddress e hfails _ _ =>
      rcases hfails with ⟨rfl, hfault | hlong⟩ | ⟨rfl, -, htaken⟩
      · exact absurd ((hcalm 2).symm.trans hfault) Bool.false_ne_true
      · refine .fault ⟨h, ?_⟩
        rw [hnone]
        rw [addressInput_fits h.1] at hlong
        exact .inr hlong
      · obtain ⟨addresses, hinsertAddress⟩ :=
          (tryInsert_customerAddress_isSome_iff _ _ (ω 2).now).mpr
          (hfresh.addresses 2)
        rw [htaken] at hinsertAddress
        cases hinsertAddress

end CustomerImportHandler

/-! ## Carriers -/

namespace CarrierImportHandler

def Overflows (input : ImportRowProcessInput) (data : CarrierData) (seen : List String)
    (s : HandlerStore) : Prop :=
  Admitted data seen ∧
    (existingCarrier s input.tenantId data = none ∨ input.duplicateStrategy = .update) ∧
    (payload input.tenantId data).fits = false

/-- The database takes the code of the row for the code of one carrier, its document is
the document of another, and the row is to update the first. -/
def Conflicts (input : ImportRowProcessInput) (data : CarrierData) (seen : List String)
    (s : HandlerStore) : Prop :=
  Admitted data seen ∧ input.duplicateStrategy = .update ∧ data.document ≠ "" ∧
    ∃ byCode byDocument : CarrierRow,
      findCarrierByCode s data.code input.tenantId = some byCode ∧
      findCarrierByDocument s data.document input.tenantId = some byDocument ∧
      byDocument.id ≠ byCode.id

omit [Collation] in
theorem orNull_eq_some_iff {text other : String} : orNull text = some other ↔
    text ≠ "" ∧ text = other := by
  unfold orNull
  split
  · next h => simp [h]
  · next h => simp [h]

theorem tryInsert_carrier {ω : ℕ → Input} {s : HandlerStore} (hfresh : Fresh ω s)
    {tenantId : Id} {data : CarrierData} (hnone : existingCarrier s tenantId data = none) (n : ℕ) :
    s.carriers.tryInsert ((payload tenantId data).row ((ω n).ids 0) (ω n).now) ≠ none := by
  obtain ⟨hcode, hdocument⟩ := Option.or_eq_none_iff.mp hnone
  rw [Option.ne_none_iff_exists']
  refine (s.carriers.tryInsert_isSome_iff _).mpr ⟨CarrierRow.nodup_keys _, fun k hk row hrow => ?_⟩
  cases k with
  | id id =>
      obtain rfl := CarrierRow.id_mem_keys_iff.mp hk
      rw [CarrierRow.id_mem_keys_iff]
      exact hfresh.carriers n row hrow
  | code tenant weight =>
      obtain ⟨rfl, code, hkey, rfl⟩ := CarrierRow.code_mem_keys_iff.mp hk
      obtain rfl := Option.some.inj hkey
      exact findCarrierByCode_eq_none_iff.mp hcode row hrow
  | document tenant document =>
      obtain ⟨rfl, hkey⟩ := CarrierRow.document_mem_keys_iff.mp hk
      obtain ⟨hne, rfl⟩ := orNull_eq_some_iff.mp hkey
      rw [if_neg hne] at hdocument
      exact findCarrierByDocument_eq_none_iff.mp hdocument row hrow

/-- An update breaks a key exactly when the document is that of another carrier. -/
theorem tryUpdate_carrier_eq_none_iff {s : HandlerStore} {tenantId : Id} {data : CarrierData}
    {row : CarrierRow} (hfound : existingCarrier s tenantId data = some row) (now : Time) :
    s.carriers.tryUpdate (fun other => other.id == row.id) ((payload tenantId data).apply now) =
        none ↔
      data.document ≠ "" ∧ ∃ byCode byDocument : CarrierRow,
        findCarrierByCode s data.code tenantId = some byCode ∧
        findCarrierByDocument s data.document tenantId = some byDocument ∧
        byDocument.id ≠ byCode.id := by
  obtain ⟨hrow, htenant⟩ := mem_of_existingCarrier hfound
  have hiff := s.carriers.tryUpdate_isSome_iff (f := (payload tenantId data).apply now) hrow
    (CarrierRow.id_mem_keys_iff.mpr rfl) (p := fun other => other.id == row.id) fun b hb =>
      ⟨fun h => eq_of_carrier_id hb hrow (beq_iff_eq.mp h), fun h => by rw [h, beq_self_eq_true]⟩
  rw [← not_iff_not, ← ne_eq, Option.ne_none_iff_exists', hiff,
    and_iff_right (CarrierRow.nodup_keys _)]
  constructor
  · rintro hfree ⟨hne, byCode, byDocument, hcode, hdocument, hids⟩
    obtain ⟨hmem, htenant', hheld⟩ := mem_of_findCarrierByDocument hdocument
    have heq : row = byCode := by
      rw [existingCarrier, hcode] at hfound
      exact (Option.some.inj hfound).symm
    refine hfree (.document tenantId data.document) ?_ byDocument hmem ?_ ?_
    · exact CarrierRow.document_mem_keys_iff.mpr ⟨rfl, if_neg hne⟩
    · rintro rfl
      exact hids (congrArg (·.id) heq)
    · exact CarrierRow.document_mem_keys_iff.mpr ⟨htenant', hheld⟩
  · intro hfree k hk b hb hne hkb
    cases k with
    | id id =>
        have hid : ((payload tenantId data).apply now row).id = id :=
          CarrierRow.id_mem_keys_iff.mp hk
        exact hne (eq_of_carrier_id hb hrow ((CarrierRow.id_mem_keys_iff.mp hkb).trans hid.symm))
    | code tenant weight =>
        obtain ⟨rfl, code, hkey, rfl⟩ := CarrierRow.code_mem_keys_iff.mp hk
        obtain rfl : data.code = code := Option.some.inj hkey
        cases hcode : findCarrierByCode s data.code tenantId with
        | none => exact findCarrierByCode_eq_none_iff.mp hcode b hb hkb
        | some byCode =>
            rw [existingCarrier, hcode] at hfound
            obtain rfl := Option.some.inj hfound
            obtain ⟨-, htenant', held, hheld, hweight⟩ := mem_of_findCarrierByCode hcode
            exact hne (s.carriers.eq_of_key hb hrow hkb
              (CarrierRow.code_mem_keys_iff.mpr ⟨htenant', held, hheld, hweight.symm⟩))
    | document tenant document =>
        obtain ⟨rfl, hkey⟩ := CarrierRow.document_mem_keys_iff.mp hk
        obtain ⟨hdocument, rfl⟩ := orNull_eq_some_iff.mp hkey
        cases hfoundBy : findCarrierByDocument s data.document tenantId with
        | none => exact findCarrierByDocument_eq_none_iff.mp hfoundBy b hb hkb
        | some byDocument =>
            obtain ⟨hmem, htenant', hheld⟩ := mem_of_findCarrierByDocument hfoundBy
            have hheldKey := CarrierRow.document_mem_keys_iff.mpr ⟨htenant', hheld⟩
            obtain rfl := s.carriers.eq_of_key hb hmem hkb hheldKey
            cases hcode : findCarrierByCode s data.code tenantId with
            | some byCode =>
                rw [existingCarrier, hcode] at hfound
                obtain rfl := Option.some.inj hfound
                refine hfree ⟨hdocument, byCode, b, hcode, hfoundBy, fun hid => ?_⟩
                exact hne (eq_of_carrier_id hb hrow hid)
            | none =>
                rw [existingCarrier, hcode, if_neg hdocument, hfoundBy] at hfound
                exact hne (Option.some.inj hfound)

theorem Effect.ends {input : ImportRowProcessInput} {data : CarrierData} {seen : List String}
    {ω : ℕ → Input} {s s' : HandlerStore}
    {outcome : Except ServiceError (ImportRowProcessResult × List String)}
    (h : Effect input data seen ω s outcome s') (hcalm : Calm ω) (hfresh : Fresh ω s) :
    RowEnds (Overflows input data seen s) (Conflicts input data seen s) outcome := by
  have hquiet : ∀ n, (ω n).fault ≠ true := fun n hfault =>
    Bool.false_ne_true ((hcalm n).symm.trans hfault)
  cases h with
  | refused code message h => exact .ok _ (fun hover => h hover.1) fun hconflict => h hconflict.1
  | unread h n hfault => exact absurd hfault (hquiet n)
  | failed h row hfound hstrategy | skipped h row hfound hstrategy =>
      have hkept : input.duplicateStrategy ≠ .update := by
        rw [hstrategy]
        exact ImportDuplicateStrategy.noConfusion
      refine .ok _ (fun hover => ?_) fun hconflict => hkept hconflict.2.1
      rcases hover.2.1 with hnone | hupdate
      · rw [hfound] at hnone
        cases hnone
      · exact hkept hupdate
  | updated h row hfound hstrategy hfits n carriers hwrite =>
      refine .ok _ (fun hover => ?_) fun hconflict => ?_
      · exact Bool.false_ne_true (hover.2.2.symm.trans hfits)
      · rw [(tryUpdate_carrier_eq_none_iff hfound (ω n).now).mpr hconflict.2.2] at hwrite
        cases hwrite
  | notUpdated h row hfound hstrategy n e hfails =>
      rcases hfails with ⟨rfl, hfault | hlong⟩ | ⟨rfl, hfits, hbroken⟩
      · exact absurd hfault (hquiet n)
      · exact .fault ⟨h, .inr hstrategy, hlong⟩
      · refine .uniqueViolation (fun hover => ?_) ?_
        · exact Bool.false_ne_true (hover.2.2.symm.trans hfits)
        · exact ⟨h, hstrategy, (tryUpdate_carrier_eq_none_iff hfound (ω n).now).mp hbroken⟩
  | created h hnone hfits n carriers hwrite =>
      refine .ok _ (fun hover => ?_) fun hconflict => ?_
      · exact Bool.false_ne_true (hover.2.2.symm.trans hfits)
      · obtain ⟨-, -, -, byCode, -, hcode, -⟩ := hconflict
        rw [existingCarrier, hcode] at hnone
        cases hnone
  | notCreated h hnone n e hfails =>
      rcases hfails with ⟨rfl, hfault | hlong⟩ | ⟨rfl, htaken⟩
      · exact absurd hfault (hquiet n)
      · exact .fault ⟨h, .inl hnone, hlong⟩
      · exact absurd htaken (tryInsert_carrier hfresh hnone n)

end CarrierImportHandler

/-! ## Both handlers -/

section

variable (P : HandlerPlatform) (type : ImportType) (input : ImportRowProcessInput)
  (seen : List String) (s : HandlerStore)

def Overflows : Prop :=
  match type with
  | .customers =>
      CustomerImportHandler.Overflows input (CustomerImportHandler.readData P input) seen s
  | .carriers => CarrierImportHandler.Overflows input (CarrierImportHandler.readData P input) seen s

/-- A carrier row has the code of one carrier and the document of another. -/
def Conflicts : Prop :=
  match type with
  | .customers => False
  | .carriers => CarrierImportHandler.Conflicts input (CarrierImportHandler.readData P input) seen s

variable {s} {ω : ℕ → Input}

theorem processRow_ends (hcalm : Calm ω) (hfresh : Fresh ω s) :
    RowEnds (Overflows P type input seen s) (Conflicts P type input seen s)
      ((processRow P type input seen).run executeQuery ω s).1 := by
  cases type with
  | customers =>
      exact (CustomerImportHandler.processRow_effect P input seen ω s).ends hcalm hfresh
  | carriers =>
      exact (CarrierImportHandler.processRow_effect P input seen ω s).ends hcalm hfresh

end

end

/-! ## Two carriers and a row with a key of each -/

attribute [local instance] foldCase

def asciiPlatform : HandlerPlatform where
  toImportPlatform := plainPlatform
  toUpperCase value := String.ofList (value.toList.map Char.toUpper)

def quietInput (n : ℕ) : Input where
  now := 0
  ids _ := "new-" ++ toString n
  fault := false
  tie _ := 0

def carrierRow (id name code document : String) : CarrierRow where
  id := id
  tenantId := "t"
  name := name
  active := true
  document := some document
  code := some code
  legalName := none
  email := none
  phone := none
  contactName := none
  site := none
  createdAt := 0
  updatedAt := 0

def twoCarriers : HandlerStore :=
  { HandlerStore.empty with
    carriers :=
      { rows := [carrierRow "a" "Rapida" "rapida" "22333444000191",
          carrierRow "b" "Lenta" "LENTA" "33444555000144"]
        distinct := by decide } }

def crossedRow : ImportRowProcessInput where
  duplicateStrategy := .update
  mapping := [("name", "nome"), ("code", "codigo"), ("document", "cnpj")]
  row := ⟨2, [("nome", "Rapida"), ("codigo", "RAPIDA"), ("cnpj", "33444555000144")]⟩
  tenantId := "t"

theorem fresh_twoCarriers : Fresh quietInput twoCarriers where
  customers n row hrow := nomatch hrow
  addresses n row hrow := nomatch hrow
  carriers n row hrow := by
    have hid : row.id = "a" ∨ row.id = "b" := by
      rcases List.mem_cons.mp hrow with rfl | hrow
      · exact .inl rfl
      · rw [List.mem_singleton.mp hrow]
        exact .inr rfl
    intro heq
    have hchars : row.id.toList = ("new-" ++ toString n).toList := congrArg String.toList heq
    rcases hid with hid | hid
    · rw [hid] at hchars
      simp at hchars
    · rw [hid] at hchars
      simp at hchars

def updatingRow : ImportRowProcessInput :=
  { crossedRow with
    row := ⟨2, [("nome", "Rapida"), ("codigo", "RAPIDA"), ("cnpj", "44555666000199")]⟩ }

end Logistics.Imports
