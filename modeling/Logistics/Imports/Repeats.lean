import Logistics.Imports.Resources

/-!
# A file of customers, imported twice

After a run over its rows under UPDATE the store holds what the rows say: each row
that the checks admit has its customer, with the values of the row. A second run
finds each of them by its document and writes the values that are there, and no
address, since it creates no customer.
-/

namespace Logistics.Imports

open Logistics.Library Handlers

section

variable [Collation]

/-- A customer without the time of its last update. -/
def CustomerRow.timeless (row : CustomerRow) : CustomerRow := { row with updatedAt := 0 }

def ImportRowProcessResult.reported (result : ImportRowProcessResult) :
    ImportRowStatus × Option Id :=
  (result.status, result.createdResourceId)

namespace CustomerImportHandler

def Holds (tenantId : Id) (data : CustomerData) (customer : CustomerRow) : Prop :=
  customer.tenantId = tenantId ∧ customer.document = some data.document ∧
    (updateInput data).apply 0 customer = customer

/-- The results of the rows agree with the customers, taken without the times of
their updates. -/
def Settled (P : HandlerPlatform) (settings : ImportSettings) (customers : List CustomerRow) :
    List ParsedImportRow → List String → List ImportRowProcessResult → Prop
  | [], _, results => results = []
  | row :: rest, seenReferences, results =>
      let data := readData P (settings.input row)
      if Admitted data seenReferences then
        ∃ customer ∈ customers, Holds settings.tenantId data customer ∧
          ∃ result later, results = result :: later ∧
            result.reported = (.success, some customer.id) ∧
            Settled P settings customers rest (data.document :: seenReferences) later
      else
        ∃ result later, results = result :: later ∧ result.reported = (.error, none) ∧
          Settled P settings customers rest seenReferences later

section

variable {input : ImportRowProcessInput} {data : CustomerData} {seen : List String}
  {ω : ℕ → Input} {s s' : HandlerStore}
  {outcome : Except ServiceError (ImportRowProcessResult × List String)}

/-- A row does not touch the customer of a row before. -/
theorem Effect.seen_customer_stays (h : Effect input data seen ω s outcome s')
    {customer : CustomerRow} (hcustomer : customer ∈ s.customers.rows) {document : String}
    (hdocument : document ∈ seen) (hhas : customer.document = some document) :
    customer ∈ s'.customers.rows := by
  have hinserted : ∀ {new : CustomerRow}
      {customers : Table CustomerRow CustomerKey CustomerRow.keys},
      s.customers.tryInsert new = some customers → customer ∈ customers.rows := fun hinsert => by
    rw [Table.tryInsert_rows hinsert]
    exact List.mem_append_left _ hcustomer
  cases h with
  | refused | unread | failed | skipped | notUpdated | notCreated => exact hcustomer
  | updated h found hfound hstrategy hfits =>
      refine mem_updated_iff.mpr ⟨customer, hcustomer, if_neg fun hid => ?_⟩
      obtain ⟨hrow, -, hfoundHas⟩ := mem_of_findCustomer hfound
      have heq : customer = found := s.customers.eq_of_key (k := .id found.id) hcustomer hrow
        (CustomerRow.id_mem_keys_iff.mpr (beq_iff_eq.mp hid)) (CustomerRow.id_mem_keys_iff.mpr rfl)
      rw [heq, hfoundHas] at hhas
      rw [← Option.some.inj hhas] at hdocument
      exact h.2 hdocument
  | created h hnone hfits customers hinsert => exact hinserted hinsert
  | createdWithAddress h hnone hfits customers hinsert => exact hinserted hinsert
  | addressFailed h hnone hfits customers hinsert => exact hinserted hinsert

theorem Effect.holds {result : ImportRowProcessResult} {seen' : List String}
    (h : Effect input data seen ω s (.ok (result, seen')) s')
    (hstrategy : input.duplicateStrategy = .update) (hadmitted : Admitted data seen) :
    seen' = data.document :: seen ∧ ∃ customer ∈ s'.customers.rows,
      Holds input.tenantId data customer.timeless ∧
      result.reported = (.success, some customer.id) := by
  have hinserted : ∀ {customers : Table CustomerRow CustomerKey CustomerRow.keys},
      s.customers.tryInsert
        ((createInput input.tenantId data).row ((ω 1).ids 0) (ω 1).now) = some customers →
      (createInput input.tenantId data).row ((ω 1).ids 0) (ω 1).now ∈ customers.rows :=
        fun hinsert => by
    rw [Table.tryInsert_rows hinsert]
    exact List.mem_append_right _ (List.mem_singleton_self _)
  cases h with
  | refused code message h => exact absurd hadmitted h
  | failed h row hfound hother | skipped h row hfound hother =>
      rw [hstrategy] at hother
      cases hother
  | updated h found hfound _ hfits =>
      obtain ⟨hrow, htenant, hdocument⟩ := mem_of_findCustomer hfound
      refine ⟨rfl, (updateInput data).apply (ω 1).now found, mem_updated_iff.mpr ⟨found, hrow, ?_⟩,
        ⟨htenant, hdocument, rfl⟩, rfl⟩
      rw [beq_self_eq_true, if_pos rfl]
  | created h hnone hfits customers hinsert =>
      exact ⟨rfl, _, hinserted hinsert, ⟨rfl, rfl, rfl⟩, rfl⟩
  | createdWithAddress h hnone hfits customers hinsert =>
      exact ⟨rfl, _, hinserted hinsert, ⟨rfl, rfl, rfl⟩, rfl⟩

theorem Effect.of_not_admitted {result : ImportRowProcessResult} {seen' : List String}
    (h : Effect input data seen ω s (.ok (result, seen')) s') (hrefused : ¬Admitted data seen) :
    result.reported = (.error, none) ∧ seen' = seen ∧ s' = s := by
  cases h with
  | refused => exact ⟨rfl, rfl, rfl⟩
  | failed h | skipped h | updated h | created h | createdWithAddress h => exact absurd h hrefused

/-- A row whose values its customer has changes nothing but the time. -/
theorem Effect.repeats {result : ImportRowProcessResult} {seen' : List String}
    (h : Effect input data seen ω s (.ok (result, seen')) s')
    (hstrategy : input.duplicateStrategy = .update) (hadmitted : Admitted data seen)
    {customer : CustomerRow} (hcustomer : customer ∈ s.customers.rows)
    (hholds : Holds input.tenantId data customer.timeless) :
    seen' = data.document :: seen ∧ result.reported = (.success, some customer.id) ∧
      s'.customers.rows.map CustomerRow.timeless = s.customers.rows.map CustomerRow.timeless ∧
      s'.customerAddresses = s.customerAddresses := by
  obtain ⟨htenant, hdocument, hvalues⟩ := hholds
  have hfinds : findCustomer s data.document input.tenantId = some customer :=
    findCustomer_of_mem hcustomer htenant hdocument
  cases h with
  | refused code message h => exact absurd hadmitted h
  | failed h row hfound hother | skipped h row hfound hother =>
      rw [hstrategy] at hother
      cases hother
  | created h hnone | createdWithAddress h hnone =>
      rw [hfinds] at hnone
      cases hnone
  | updated h found hfound _ hfits =>
      obtain rfl : found = customer := Option.some.inj (hfound.symm.trans hfinds)
      refine ⟨rfl, rfl, ?_, rfl⟩
      rw [updated_rows, List.map_map]
      refine List.map_congr_left fun row hrow => ?_
      rw [Function.comp_apply]
      split
      · next hid =>
        have heq : row = found := s.customers.eq_of_key (k := .id found.id) hrow hcustomer
          (CustomerRow.id_mem_keys_iff.mpr (beq_iff_eq.mp hid))
          (CustomerRow.id_mem_keys_iff.mpr rfl)
        rw [heq]
        exact hvalues
      · rfl

end

section

variable {P : HandlerPlatform} {settings : ImportSettings} {rows : List ParsedImportRow}
  {seen : List String} {s s' : HandlerStore} {results : List ImportRowProcessResult}

theorem seen_customer_stays (htype : settings.type = .customers)
    (hpass : Pass P settings rows seen s results s') {customer : CustomerRow}
    (hcustomer : customer ∈ s.customers.rows) {document : String} (hdocument : document ∈ seen)
    (hhas : customer.document = some document) : customer ∈ s'.customers.rows := by
  induction hpass with
  | nil seen s => exact hcustomer
  | stopped row rest seen ω s s' e h =>
      exact (effect_of_run htype h).seen_customer_stays hcustomer hdocument hhas
  | next row rest seen seen' ω s s₁ s' result results h hrest ih =>
      have heffect := effect_of_run htype h
      exact ih (heffect.seen_customer_stays hcustomer hdocument hhas)
        (heffect.seen_subset hdocument)

/-- After a pass without an exception the customers are what the rows say. -/
theorem settled_of_pass (htype : settings.type = .customers)
    (hstrategy : settings.duplicateStrategy = .update)
    (hpass : Pass P settings rows seen s results s') (hlength : results.length = rows.length) :
    Settled P settings (s'.customers.rows.map CustomerRow.timeless) rows seen results := by
  induction hpass with
  | nil seen s => rfl
  | stopped row rest seen ω s s' e h => cases hlength
  | next row rest seen seen' ω s s₁ s' result results h hrest ih =>
      have heffect := effect_of_run htype h
      have hlater := ih (Nat.succ.inj hlength)
      unfold Settled
      dsimp only
      split
      · next hadmitted =>
        obtain ⟨hseen', customer, hcustomer, hholds, hreported⟩ :=
          heffect.holds hstrategy hadmitted
        have hstays : customer ∈ s'.customers.rows := by
          refine seen_customer_stays htype hrest hcustomer ?_ hholds.2.1
          rw [hseen']
          exact List.mem_cons_self
        rw [hseen'] at hlater
        exact ⟨customer.timeless, List.mem_map_of_mem hstays, hholds, result, results, rfl,
          hreported, hlater⟩
      · next hrefused =>
        obtain ⟨hreported, hseen', -⟩ := heffect.of_not_admitted hrefused
        rw [hseen'] at hlater
        exact ⟨result, results, rfl, hreported, hlater⟩

/-- A pass over rows that are settled changes nothing but times, and reports the same. -/
theorem repeats_of_pass (htype : settings.type = .customers)
    (hstrategy : settings.duplicateStrategy = .update)
    (hpass : Pass P settings rows seen s results s') (hlength : results.length = rows.length)
    {before : List ImportRowProcessResult}
    (hsettled : Settled P settings (s.customers.rows.map CustomerRow.timeless) rows seen before) :
    s'.customers.rows.map CustomerRow.timeless = s.customers.rows.map CustomerRow.timeless ∧
      s'.customerAddresses = s.customerAddresses ∧
      results.map ImportRowProcessResult.reported =
        before.map ImportRowProcessResult.reported := by
  induction hpass generalizing before with
  | nil seen s =>
      rw [show before = [] from hsettled]
      exact ⟨rfl, rfl, rfl⟩
  | stopped row rest seen ω s s' e h => cases hlength
  | next row rest seen seen' ω s s₁ s' result results h hrest ih =>
      have heffect := effect_of_run htype h
      unfold Settled at hsettled
      dsimp only at hsettled
      split at hsettled
      · next hadmitted =>
        obtain ⟨_, hmem, hholds, result', later, rfl, hreported, hlater⟩ := hsettled
        obtain ⟨customer, hcustomer, rfl⟩ := List.mem_map.mp hmem
        obtain ⟨hseen', hsame, hcustomers, haddresses⟩ :=
          heffect.repeats hstrategy hadmitted hcustomer hholds
        rw [← hseen', ← hcustomers] at hlater
        obtain ⟨hcustomers', haddresses', hresults⟩ := ih (Nat.succ.inj hlength) hlater
        refine ⟨hcustomers'.trans hcustomers, haddresses'.trans haddresses, ?_⟩
        rw [List.map_cons, List.map_cons, hresults, hsame, hreported]
        rfl
      · next hrefused =>
        obtain ⟨result', later, rfl, hreported, hlater⟩ := hsettled
        obtain ⟨hsame, hseen', hs₁⟩ := heffect.of_not_admitted hrefused
        rw [← hseen', ← hs₁] at hlater
        obtain ⟨hcustomers', haddresses', hresults⟩ := ih (Nat.succ.inj hlength) hlater
        rw [hs₁] at hcustomers' haddresses'
        refine ⟨hcustomers', haddresses', ?_⟩
        rw [List.map_cons, List.map_cons, hresults, hsame, hreported]

end

end CustomerImportHandler

/-- Importing the same customers again under UPDATE leaves the customers, but for the
times of their updates, and the addresses as they are, and reports the same for
every row. -/
theorem customer_import_idempotent (P : HandlerPlatform) (settings : ImportSettings)
    (htype : settings.type = .customers) (hstrategy : settings.duplicateStrategy = .update)
    (rows : List ParsedImportRow) (ω ω' : ℕ → Input) (s s₁ s₂ : HandlerStore)
    {results₁ results₂ : List ImportRowProcessResult}
    (hfirst : (importRows P settings rows []).run executeQuery ω s = (.ok results₁, s₁))
    (hcomplete₁ : results₁.length = rows.length)
    (hsecond : (importRows P settings rows []).run executeQuery ω' s₁ = (.ok results₂, s₂))
    (hcomplete₂ : results₂.length = rows.length) :
    s₂.customers.rows.map CustomerRow.timeless = s₁.customers.rows.map CustomerRow.timeless ∧
      s₂.customerAddresses = s₁.customerAddresses ∧
      results₂.map ImportRowProcessResult.reported =
        results₁.map ImportRowProcessResult.reported := by
  obtain ⟨results, s', hrun, hpass⟩ := importRows_pass P settings rows [] ω s
  rw [hfirst] at hrun
  obtain ⟨hresults, rfl⟩ := Prod.mk.inj hrun
  obtain rfl := Except.ok.inj hresults
  obtain ⟨results, s', hrun, hpass'⟩ := importRows_pass P settings rows [] ω' s₁
  rw [hsecond] at hrun
  obtain ⟨hresults, rfl⟩ := Prod.mk.inj hrun
  obtain rfl := Except.ok.inj hresults
  exact CustomerImportHandler.repeats_of_pass htype hstrategy hpass' hcomplete₂
    (CustomerImportHandler.settled_of_pass htype hstrategy hpass hcomplete₁)

end

attribute [local instance] foldCase

/-- A new customer, one in the store, a document twice, and no name. -/
def mixedRows : List ParsedImportRow :=
  [⟨2, [("nome", "Ana"), ("cpf", "12345678909"), ("uf", "RJ")]⟩,
    ⟨3, [("nome", "Mercado"), ("cpf", "11222333000181"), ("uf", "")]⟩,
    ⟨4, [("nome", "Outra Ana"), ("cpf", "12345678909"), ("uf", "SP")]⟩,
    ⟨5, [("nome", ""), ("cpf", "12345678909"), ("uf", "")]⟩]

def updatingCustomers : ImportSettings where
  type := .customers
  tenantId := "t"
  duplicateStrategy := .update
  mapping := [("name", "nome"), ("document", "cpf"), ("state", "uf")]

def plainCustomer : CustomerRow where
  id := "c"
  tenantId := "t"
  name := "Mercado Alpha"
  active := false
  document := some "11222333000181"
  email := none
  phone := some "11999990000"
  createdAt := 0
  updatedAt := 0

def oneCustomer : HandlerStore :=
  { HandlerStore.empty with
    customers := ⟨[plainCustomer], by decide⟩ }

def afterRun (ω : ℕ → Input) (s : HandlerStore) : List ImportRowProcessResult × HandlerStore :=
  let run := (importRows asciiPlatform updatingCustomers mixedRows []).run executeQuery ω s
  (run.1.toOption.getD [], run.2)

theorem customer_import_idempotent_mixed :
    (afterRun quietInput oneCustomer).1.length = 4 ∧
      (afterRun quietInput (afterRun quietInput oneCustomer).2).1.map
          ImportRowProcessResult.reported =
        (afterRun quietInput oneCustomer).1.map ImportRowProcessResult.reported :=
  ⟨by rfl, (customer_import_idempotent asciiPlatform updatingCustomers rfl rfl mixedRows quietInput
    quietInput oneCustomer (afterRun quietInput oneCustomer).2
    (afterRun quietInput (afterRun quietInput oneCustomer).2).2 (by rfl) (by rfl) (by rfl)
    (by rfl)).2.2⟩

end Logistics.Imports
