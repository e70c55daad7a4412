import Logistics.Imports.Conflicts

/-!
# What a failed customer row leaves

A customer and its address are written by two calls of their own. When the second
fails, the first stays: the row has thrown and its customer is there, without an
address. The checks bound every value of the address except the city.
-/

namespace Logistics.Imports

open Logistics.Library Handlers

namespace CustomerImportHandler

section

variable [Collation]

/-- The second write fails: the call breaks off, the city is too long, or the new
identifier is in use. -/
def AddressFails (data : CustomerData) (env : Input) (s : HandlerStore) : Prop :=
  env.fault = true ∨ fitsColumn 120 data.city = false ∨
    ∃ row ∈ s.customerAddresses.rows, row.id = env.ids 0

/-- A new customer is written, and its address is not. -/
def LeavesCustomer (input : ImportRowProcessInput) (data : CustomerData) (seen : List String)
    (ω : ℕ → Input) (s : HandlerStore) : Prop :=
  Admitted data seen ∧ findCustomer s data.document input.tenantId = none ∧
    (ω 0).fault = false ∧ (ω 1).fault = false ∧
    (createInput input.tenantId data).fits = true ∧
    (∀ row ∈ s.customers.rows, row.id ≠ (ω 1).ids 0) ∧
    hasAddress data = true ∧ AddressFails data (ω 2) s

/-- A run that ends with an exception has not changed the tables of the handler. -/
def LeavesNothing (s : HandlerStore)
    (outcome : Except ServiceError (ImportRowProcessResult × List String)) (s' : HandlerStore) :
    Prop :=
  ∀ e, outcome = .error e →
    s'.customers = s.customers ∧ s'.customerAddresses = s.customerAddresses

theorem Effect.leavesNothing_iff {input : ImportRowProcessInput} {data : CustomerData}
    {seen : List String} {ω : ℕ → Input} {s s' : HandlerStore}
    {outcome : Except ServiceError (ImportRowProcessResult × List String)}
    (h : Effect input data seen ω s outcome s') :
    LeavesNothing s outcome s' ↔ ¬LeavesCustomer input data seen ω s := by
  have hfound : ∀ {row}, findCustomer s data.document input.tenantId = some row →
      ¬LeavesCustomer input data seen ω s := fun hrow hleaves =>
    Option.some_ne_none _ (hrow.symm.trans hleaves.2.1)
  cases h with
  | refused code message h => exact iff_of_true (fun _ h => nomatch h) fun hleaves => h hleaves.1
  | unread h hfault =>
      refine iff_of_true (fun _ _ => ⟨rfl, rfl⟩) fun hleaves => ?_
      exact Bool.false_ne_true (hleaves.2.2.1.symm.trans hfault)
  | failed h row hrow hstrategy => exact iff_of_true (fun _ h => nomatch h) (hfound hrow)
  | skipped h row hrow hstrategy => exact iff_of_true (fun _ h => nomatch h) (hfound hrow)
  | updated h row hrow hstrategy hfits => exact iff_of_true (fun _ h => nomatch h) (hfound hrow)
  | notUpdated h row hrow hstrategy hfails =>
      exact iff_of_true (fun _ _ => ⟨rfl, rfl⟩) (hfound hrow)
  | notCreated h hnone e hfails =>
      refine iff_of_true (fun _ _ => ⟨rfl, rfl⟩) fun hleaves => ?_
      obtain ⟨-, -, -, hwritten, hfits, hfree, -⟩ := hleaves
      rcases hfails with ⟨-, hfault | hlong⟩ | ⟨-, htaken⟩
      · exact Bool.false_ne_true (hwritten.symm.trans hfault)
      · exact Bool.false_ne_true (hlong.symm.trans hfits)
      · obtain ⟨customers, hinsert⟩ :=
          (tryInsert_customer_isSome_iff hnone _ (ω 1).now).mpr hfree
        rw [htaken] at hinsert
        cases hinsert
  | created h hnone hfits customers hinsert hplain =>
      refine iff_of_true (fun _ h => nomatch h) fun hleaves => ?_
      obtain ⟨-, -, -, -, -, -, haddress, -⟩ := hleaves
      exact Bool.false_ne_true (hplain.symm.trans haddress)
  | createdWithAddress h hnone hfits customers hinsert haddress hfitsAddress _ hinsertAddress
      hcalm =>
      refine iff_of_true (fun _ h => nomatch h) fun hleaves => ?_
      obtain ⟨-, -, -, -, -, -, -, hfault | hlong | ⟨row, hrow, hid⟩⟩ := hleaves
      · exact Bool.false_ne_true (hcalm.symm.trans hfault)
      · rw [addressInput_fits h.1] at hfitsAddress
        exact Bool.false_ne_true (hlong.symm.trans hfitsAddress)
      · exact (tryInsert_customerAddress_isSome_iff _ _ (ω 2).now).mp ⟨_, hinsertAddress⟩
          row hrow hid
  | addressFailed h hnone hfits customers hinsert haddress e hfails hread hwritten =>
      have hrows : customers ≠ s.customers := by
        rintro rfl
        have hlength := congrArg List.length (Table.tryInsert_rows hinsert)
        rw [List.length_append] at hlength
        simp at hlength
      refine iff_of_false (fun hnothing => hrows (hnothing e rfl).1) (not_not.mpr ?_)
      have hfree := (tryInsert_customer_isSome_iff hnone _ (ω 1).now).mp ⟨customers, hinsert⟩
      refine ⟨h, hnone, hread, hwritten, hfits, hfree, haddress, ?_⟩
      rcases hfails with ⟨-, hfault | hlong⟩ | ⟨-, -, htaken⟩
      · exact .inl hfault
      · rw [addressInput_fits h.1] at hlong
        exact .inr (.inl hlong)
      · refine .inr (.inr ?_)
        by_contra hunused
        obtain ⟨addresses, hinsertAddress⟩ :=
          (tryInsert_customerAddress_isSome_iff _ _ (ω 2).now).mpr fun row hrow hid =>
            hunused ⟨row, hrow, hid⟩
        rw [htaken] at hinsertAddress
        cases hinsertAddress

/-- An exception leaves the tables as they were exactly when it is not the address of
a new customer that fails. -/
theorem failed_row_leaves_nothing_iff (P : HandlerPlatform) (input : ImportRowProcessInput)
    (seen : List String) (ω : ℕ → Input) (s : HandlerStore) :
    LeavesNothing s ((processRow P input seen).run executeQuery ω s).1
        ((processRow P input seen).run executeQuery ω s).2 ↔
      ¬LeavesCustomer input (readData P input) seen ω s :=
  (processRow_effect P input seen ω s).leavesNothing_iff

end

attribute [local instance] foldCase

/-- A customer whose city has 121 letters. -/
def longCityRow : ImportRowProcessInput where
  duplicateStrategy := .update
  mapping := [("name", "nome"), ("document", "cpf"), ("city", "cidade")]
  row := ⟨2, [("nome", "Ana"), ("cpf", "12345678909"),
    ("cidade", String.ofList (List.replicate 121 'a'))]⟩
  tenantId := "t"

/-- The row throws and its customer stays. -/
theorem a_long_city_leaves_its_customer :
    Calm quietInput ∧ Fresh quietInput .empty ∧
      ¬LeavesNothing .empty
        ((processRow asciiPlatform longCityRow []).run executeQuery quietInput .empty).1
        ((processRow asciiPlatform longCityRow []).run executeQuery quietInput .empty).2 := by
  have hends : ((processRow asciiPlatform longCityRow []).run executeQuery quietInput
        HandlerStore.empty).1.isOk = false ∧
      ((processRow asciiPlatform longCityRow []).run executeQuery quietInput
        HandlerStore.empty).2.customers.rows.length = 1 := by
    decide +kernel
  generalize (processRow asciiPlatform longCityRow []).run executeQuery quietInput
    HandlerStore.empty = ended at hends ⊢
  obtain ⟨outcome, left⟩ := ended
  obtain ⟨hthrows, hstays⟩ := hends
  refine ⟨fun _ => rfl, ⟨?_, ?_, ?_⟩, fun h => ?_⟩
  · exact fun _ _ hrow => nomatch hrow
  · exact fun _ _ hrow => nomatch hrow
  · exact fun _ _ hrow => nomatch hrow
  · cases outcome with
    | ok result => cases hthrows
    | error error =>
        rw [(h error rfl).1] at hstays
        cases hstays

end CustomerImportHandler

end Logistics.Imports
