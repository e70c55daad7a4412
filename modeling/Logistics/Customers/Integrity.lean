import Logistics.Customers.Service
import Logistics.Library.Ledger

/-!
# What holds of the customers

Requests of any number of tenants run at once, in any interleaving, and any call may be
broken off. Every stored document is a valid one in its digits, and every address belongs
to a customer of its tenant: `cust_addr_customer_fk` asks for the customer only, the
service looks it up within the tenant. The requests of one tenant leave the rows of the
others alone. One request after the other, a customer has at most one main address.
-/

namespace Logistics.Customers

open Logistics.Library

/-! ## What a call does -/

section Calls

variable (c : Command) (input : Input) (s : CustomersStore)

/-- The customers stay in their places, but for one that is updated, or one is added. -/
theorem customers_execute :
    (∃ f : CustomerRow → CustomerRow,
      (executeCustomers c input s).2.customers.rows = s.customers.rows.map f ∧
        ∀ row, f row = row ∨ ∃ data, c = .updateCustomer row.id data ∧
          f row = data.apply input.now row) ∨
      ∃ data, c = .createCustomer data ∧
        (executeCustomers c input s).2.customers.rows =
          s.customers.rows ++ [data.row input] := by
  have hsame : ∀ s' : CustomersStore, s'.customers = s.customers →
      ∃ f : CustomerRow → CustomerRow, s'.customers.rows = s.customers.rows.map f ∧
        ∀ row, f row = row ∨ ∃ data, c = .updateCustomer row.id data ∧
          f row = data.apply input.now row := by
    intro s' hs'
    refine ⟨id, ?_, fun _ => .inl rfl⟩
    rw [hs', List.map_id]
  unfold executeCustomers
  by_cases hfault : input.fault = true
  · rw [if_pos hfault]
    exact .inl (hsame s rfl)
  rw [if_neg hfault]
  cases c with
  | createCustomer data =>
      rw [answer]
      split
      · exact .inl (hsame s rfl)
      · next customers hinsert => exact .inr ⟨data, rfl, Table.tryInsert_rows hinsert⟩
  | updateCustomer id data =>
      rw [answer]
      split
      · exact .inl (hsame s rfl)
      split
      · exact .inl (hsame s rfl)
      · next customers hupdate =>
        refine .inl ⟨_, Table.tryUpdate_rows hupdate, fun row => ?_⟩
        split
        · next hid =>
          rw [beq_iff_eq] at hid
          exact .inr ⟨data, by rw [hid], rfl⟩
        · exact .inl rfl
  | createAddress data =>
      rw [answer]
      split <;> exact .inl (hsame _ rfl)
  | _ => exact .inl (hsame _ rfl)

def cleared (now : Time) (row : CustomerAddress) : CustomerAddress :=
  { row with main := false, updatedAt := now }

/-- The addresses stay in their places, but for the main ones that are cleared, or one
is added. -/
theorem addresses_execute :
    (∃ f : CustomerAddress → CustomerAddress,
      (executeCustomers c input s).2.customerAddresses.rows = s.customerAddresses.rows.map f ∧
        ∀ row, f row = row ∨ c = .clearMain row.tenantId row.customerId ∧
          f row = cleared input.now row) ∨
      ∃ data, c = .createAddress data ∧
        (executeCustomers c input s).2.customerAddresses.rows =
          s.customerAddresses.rows ++ [data.row input] := by
  have hsame : ∀ s' : CustomersStore, s'.customerAddresses = s.customerAddresses →
      ∃ f : CustomerAddress → CustomerAddress,
        s'.customerAddresses.rows = s.customerAddresses.rows.map f ∧
          ∀ row, f row = row ∨ c = .clearMain row.tenantId row.customerId ∧
            f row = cleared input.now row := by
    intro s' hs'
    refine ⟨id, ?_, fun _ => .inl rfl⟩
    rw [hs', List.map_id]
  unfold executeCustomers
  by_cases hfault : input.fault = true
  · rw [if_pos hfault]
    exact .inl (hsame s rfl)
  rw [if_neg hfault]
  cases c with
  | createAddress data =>
      rw [answer]
      split
      · exact .inl (hsame s rfl)
      · next addresses hinsert => exact .inr ⟨data, rfl, Table.tryInsert_rows hinsert⟩
  | clearMain tenantId customerId =>
      refine .inl ⟨_, rfl, fun row => ?_⟩
      dsimp only
      split
      · next hmain =>
        simp only [isMainOf, Bool.and_eq_true, beq_iff_eq] at hmain
        exact .inr ⟨by rw [hmain.1.1, hmain.1.2], rfl⟩
      · exact .inl rfl
  | createCustomer data =>
      rw [answer]
      split <;> exact .inl (hsame _ rfl)
  | updateCustomer id data =>
      rw [answer]
      split
      · exact .inl (hsame s rfl)
      · split <;> exact .inl (hsame _ rfl)
  | _ => exact .inl (hsame _ rfl)

def auditEntry : Event customersInterface → List CustomerChanged
  | ⟨.recordAudit record, .ok _⟩ => [record]
  | _ => []

theorem auditLogs_execute :
    (executeCustomers c input s).2.auditLogs =
      s.auditLogs ++ auditEntry ⟨c, (executeCustomers c input s).1⟩ := by
  unfold executeCustomers
  by_cases hfault : input.fault = true
  · rw [if_pos hfault]
    cases c <;> exact (List.append_nil _).symm
  rw [if_neg hfault]
  cases c with
  | recordAudit record => rfl
  | createCustomer data =>
      refine Eq.trans ?_ (List.append_nil _).symm
      rw [answer]
      split <;> rfl
  | createAddress data =>
      refine Eq.trans ?_ (List.append_nil _).symm
      rw [answer]
      split <;> rfl
  | updateCustomer id data =>
      refine Eq.trans ?_ (List.append_nil _).symm
      rw [answer]
      split
      · rfl
      · split <;> rfl
  | _ => exact (List.append_nil _).symm

/-- No customer is lost, and none changes its tenant. -/
theorem kept_execute {row : CustomerRow} (hrow : row ∈ s.customers.rows) :
    ∃ row' ∈ (executeCustomers c input s).2.customers.rows,
      row'.id = row.id ∧ row'.tenantId = row.tenantId := by
  rcases customers_execute c input s with ⟨f, hrows, hf⟩ | ⟨data, -, hrows⟩
  · refine ⟨f row, hrows ▸ List.mem_map_of_mem hrow, ?_⟩
    rcases hf row with hsame | ⟨data, -, hupdated⟩
    · rw [hsame]
      exact ⟨rfl, rfl⟩
    · rw [hupdated]
      exact ⟨rfl, rfl⟩
  · exact ⟨row, hrows ▸ List.mem_append_left _ hrow, rfl, rfl⟩

end Calls

/-! ## What a request calls -/

/-- A document is a CPF or a CNPJ, written in its digits. -/
def IsNormalDocument (document : Option String) : Prop :=
  ∀ text ∈ document, (∀ c ∈ text.toList, c.isDigit = true) ∧ IsDocument (digitsOf text)

theorem documentColumn_normal {document : Carriers.Property String}
    {column : Option (Option String)} (h : documentColumn document = .ok column) :
    ∀ document ∈ column, IsNormalDocument document := by
  cases document with
  | undefined =>
      rw [← Except.ok.inj h]
      exact fun _ hnone => nomatch hnone
  | null =>
      rw [← Except.ok.inj h]
      intro document hdocument text htext
      rw [← Option.some.inj hdocument] at htext
      cases htext
  | value text =>
      obtain ⟨_, hvalid, hcolumn⟩ := Program.except_bind_eq_ok.mp h
      rw [← Except.ok.inj hcolumn]
      intro document hdocument normal hnormal
      rw [← Option.some.inj hdocument] at hnormal
      rw [Option.mem_def] at hnormal
      have htext : normal = onlyDigits (some text) := by
        rw [normalizeDocument] at hnormal
        split at hnormal
        · exact (Option.some.inj hnormal).symm
        · cases hnormal
      have hdigits : ∀ c ∈ normal.toList, c.isDigit = true := by
        rw [htext]
        exact isDigit_of_mem_onlyDigits _
      rw [hnormal] at hvalid
      exact ⟨hdigits, (validateDocument_iff hdigits).mp hvalid⟩

theorem join_normal {column : Option (Option String)}
    (h : ∀ document ∈ column, IsNormalDocument document) : IsNormalDocument column.join := by
  cases column with
  | none => exact fun _ hnone => nomatch hnone
  | some document => exact h document rfl

def Request.tenantId : Request → Id
  | .get tenantId _ | .create tenantId _ _ | .update tenantId _ _ _ | .updateStatus tenantId _ _ _
  | .listAddresses tenantId _ | .createAddress tenantId _ _ _ => tenantId

def Found (tenantId customerId : Id) (row : CustomerRow)
    (h : List (Event customersInterface)) : Prop :=
  (⟨.findCustomer customerId tenantId, .ok (some row)⟩ : Event customersInterface) ∈ h

/-- What a request calls, after what it has called before. -/
def Lawful (r : Request) (h : List (Event customersInterface)) : Command → Prop
  | .findCustomer _ tenantId | .findAddresses _ tenantId | .clearMain tenantId _ =>
      tenantId = r.tenantId
  | .createCustomer data => data.tenantId = r.tenantId ∧ IsNormalDocument data.document
  | .updateCustomer id data => (∃ customerId row, Found r.tenantId customerId row h ∧ row.id = id) ∧
      ∀ document ∈ data.document, IsNormalDocument document
  | .createAddress data => data.tenantId = r.tenantId ∧
      (∃ row, Found r.tenantId data.customerId row h) ∧
      ∀ c ∈ data.postalCode.toList, c.isDigit = true
  | .recordAudit record => record.tenantId = r.tenantId

theorem getCustomerOrThrow_obeys (r : Request) (customerId : Id)
    (h : List (Event customersInterface)) :
    (getCustomerOrThrow r.tenantId customerId).Obeys (Lawful r)
      (fun h' outcome => ∀ row, outcome = .ok row → Found r.tenantId customerId row h') h := by
  refine Program.Obeys.perform_bind rfl (fun found => ?_) fun _ _ hrow => nomatch hrow
  cases found with
  | none => exact fun _ hrow => nomatch hrow
  | some customer =>
      intro row hrow
      rw [← Except.ok.inj hrow]
      exact List.mem_append_right _ (List.mem_singleton.mpr rfl)

theorem getCustomerOrThrow_bind_obeys {α : Type} (r : Request) {customerId : Id}
    {f : CustomerRow → Program customersInterface α}
    (hf : ∀ row h, Found r.tenantId customerId row h →
      (f row).Obeys (Lawful r) (fun _ _ => True) h) :
    (getCustomerOrThrow r.tenantId customerId >>= f).Obeys (Lawful r) (fun _ _ => True) [] :=
  (getCustomerOrThrow_obeys r customerId []).bind (fun h row hrow => hf row h (hrow row rfl))
    fun _ _ _ => trivial

theorem persisting_obeys {α : Type} {P : List (Event customersInterface) → Command → Prop}
    {Q : List (Event customersInterface) → Except ServiceError α → Prop}
    {p : Program customersInterface α} {h : List (Event customersInterface)} (hp : p.Obeys P Q h)
    (herror : ∀ h' e e', Q h' (.error e) → Q h' (.error e')) :
    (p.tryCatch handleCustomerPersistenceError).Obeys P Q h := by
  refine hp.tryCatch (fun _ _ hQ => hQ) fun h' e hQ => ?_
  unfold handleCustomerPersistenceError
  split
  · exact herror h' e _ hQ
  · exact hQ

theorem create_obeys (tenantId actorId : Id) (input : CreateCustomerDto) :
    (create tenantId actorId input).Obeys (Lawful (.create tenantId actorId input))
      (fun _ _ => True) [] := by
  refine Program.Obeys.ofExcept_bind (fun document hdocument => ?_) fun _ _ => trivial
  refine Program.Obeys.ofExcept_bind (fun email _ => ?_) fun _ _ => trivial
  refine Program.Obeys.ofExcept_bind (fun phone _ => ?_) fun _ _ => trivial
  refine persisting_obeys ?_ fun _ _ _ _ => trivial
  refine Program.Obeys.perform_bind ⟨rfl, join_normal (documentColumn_normal hdocument)⟩
    (fun customer => ?_) fun _ => trivial
  exact Program.Obeys.perform_bind rfl (fun _ => trivial) fun _ => trivial

theorem update_obeys (tenantId actorId customerId : Id) (input : UpdateCustomerDto) :
    (update tenantId actorId customerId input).Obeys
      (Lawful (.update tenantId actorId customerId input)) (fun _ _ => True) [] := by
  refine getCustomerOrThrow_bind_obeys (.update tenantId actorId customerId input)
    fun current h hcurrent => ?_
  refine Program.Obeys.ofExcept_bind (fun document hdocument => ?_) fun _ _ => trivial
  refine Program.Obeys.ofExcept_bind (fun email _ => ?_) fun _ _ => trivial
  refine Program.Obeys.ofExcept_bind (fun name _ => ?_) fun _ _ => trivial
  refine Program.Obeys.ofExcept_bind (fun phone _ => ?_) fun _ _ => trivial
  refine persisting_obeys ?_ fun _ _ _ _ => trivial
  refine Program.Obeys.perform_bind
    ⟨⟨customerId, current, hcurrent, rfl⟩, documentColumn_normal hdocument⟩ (fun customer => ?_)
    fun _ => trivial
  exact Program.Obeys.perform_bind rfl (fun _ => trivial) fun _ => trivial

theorem updateStatus_obeys (tenantId actorId customerId : Id) (active : Bool) :
    (updateStatus tenantId actorId customerId active).Obeys
      (Lawful (.updateStatus tenantId actorId customerId active)) (fun _ _ => True) [] := by
  refine getCustomerOrThrow_bind_obeys (.updateStatus tenantId actorId customerId active)
    fun current h hcurrent => ?_
  refine Program.Obeys.perform_bind
    ⟨⟨customerId, current, hcurrent, rfl⟩, fun _ hnone => nomatch hnone⟩
    (fun customer => ?_) fun _ => trivial
  exact Program.Obeys.perform_bind rfl (fun _ => trivial) fun _ => trivial

section Handle

variable (toUpperCase : String → String)

theorem createAddress_obeys (tenantId actorId customerId : Id) (input : CreateCustomerAddressDto) :
    (createAddress toUpperCase tenantId actorId customerId input).Obeys
      (Lawful (.createAddress tenantId actorId customerId input)) (fun _ _ => True) [] := by
  have hstore : ∀ row h, Found tenantId customerId row h →
      (storeAddress toUpperCase tenantId actorId customerId input).Obeys
        (Lawful (.createAddress tenantId actorId customerId input)) (fun _ _ => True) h := by
    intro row h hrow
    refine Program.Obeys.perform_bind ⟨rfl, ⟨row, hrow⟩, isDigit_of_mem_onlyDigits _⟩
      (fun address => ?_) fun _ => trivial
    exact Program.Obeys.perform_bind rfl (fun _ => trivial) fun _ => trivial
  refine getCustomerOrThrow_bind_obeys (.createAddress tenantId actorId customerId input)
    fun row h hrow => ?_
  by_cases hmain : input.main = some true
  · rw [if_pos hmain]
    refine Program.Obeys.perform_bind rfl (fun _ => ?_) fun _ => trivial
    exact hstore row _ (List.mem_append_left _ hrow)
  · rw [if_neg hmain]
    exact hstore row h hrow

theorem handle_obeys (r : Request) :
    (handle toUpperCase r).Obeys (Lawful r) (fun _ _ => True) [] := by
  cases r with
  | get tenantId customerId =>
      refine Program.Obeys.map (Q := fun _ _ => True) ?_ (fun _ _ _ => trivial)
        fun _ _ _ => trivial
      exact (getCustomerOrThrow_obeys (.get tenantId customerId) customerId []).map
        (fun _ _ _ => trivial) fun _ _ _ => trivial
  | create tenantId actorId input =>
      exact (create_obeys tenantId actorId input).map (fun _ _ _ => trivial) fun _ _ _ => trivial
  | update tenantId actorId customerId input =>
      exact (update_obeys tenantId actorId customerId input).map (fun _ _ _ => trivial)
        fun _ _ _ => trivial
  | updateStatus tenantId actorId customerId active =>
      exact (updateStatus_obeys tenantId actorId customerId active).map (fun _ _ _ => trivial)
        fun _ _ _ => trivial
  | listAddresses tenantId customerId =>
      refine Program.Obeys.map (Q := fun _ _ => True) ?_ (fun _ _ _ => trivial)
        fun _ _ _ => trivial
      refine getCustomerOrThrow_bind_obeys (.listAddresses tenantId customerId) fun row h _ => ?_
      exact Program.Obeys.perform_bind rfl (fun _ => trivial) fun _ => trivial
  | createAddress tenantId actorId customerId input =>
      exact (createAddress_obeys toUpperCase tenantId actorId customerId input).map
        (fun _ _ _ => trivial) fun _ _ _ => trivial

end Handle

/-! ## The answers -/

/-- What an answer still says: the customer that was found is in its tenant. -/
def Tells (s : CustomersStore) : Event customersInterface → Prop
  | ⟨.findCustomer id tenantId, .ok (some row)⟩ =>
      row.id = id ∧ ∃ row' ∈ s.customers.rows, row'.id = id ∧ row'.tenantId = tenantId
  | _ => True

theorem tells_answer (c : Command) (input : Input) (s : CustomersStore) :
    Tells (executeCustomers c input s).2 ⟨c, (executeCustomers c input s).1⟩ := by
  cases c with
  | findCustomer id tenantId =>
      unfold executeCustomers
      by_cases hfault : input.fault = true
      · rw [if_pos hfault]
        trivial
      rw [if_neg hfault, answer]
      cases hfind : s.customers.rows.find? fun row => row.id == id && row.tenantId == tenantId with
      | none => trivial
      | some row =>
          have hrow := List.find?_some hfind
          rw [Bool.and_eq_true, beq_iff_eq, beq_iff_eq] at hrow
          exact ⟨hrow.1, row, List.mem_of_find?_eq_some hfind, hrow.1, hrow.2⟩
  | _ => trivial

theorem tells_execute (c : Command) (input : Input) {s : CustomersStore}
    {e : Event customersInterface} (he : Tells s e) :
    Tells (executeCustomers c input s).2 e := by
  obtain ⟨called, answered⟩ := e
  cases called with
  | findCustomer id tenantId =>
      match answered, he with
      | .error _, _ => trivial
      | .ok none, _ => trivial
      | .ok (some row), ⟨hid, row', hrow', hid', htenant⟩ =>
          obtain ⟨row'', hrow'', hid'', htenant''⟩ := kept_execute c input s hrow'
          exact ⟨hid, row'', hrow'', hid''.trans hid', htenant''.trans htenant⟩
  | _ => trivial

/-! ## Integrity -/

structure Registry (s : CustomersStore) : Prop where
  documents : ∀ row ∈ s.customers.rows, IsNormalDocument row.document
  owned : ∀ address ∈ s.customerAddresses.rows, ∃ row ∈ s.customers.rows,
    row.id = address.customerId ∧ row.tenantId = address.tenantId
  postalCodes : ∀ address ∈ s.customerAddresses.rows,
    ∀ c ∈ address.postalCode.toList, c.isDigit = true

theorem Registry.execute {r : Request} {h : List (Event customersInterface)} {c : Command}
    (input : Input) {s : CustomersStore} (hs : Registry s) (htells : ∀ e ∈ h, Tells s e)
    (hc : Lawful r h c) : Registry (executeCustomers c input s).2 := by
  constructor
  · intro row hrow
    rcases customers_execute c input s with ⟨f, hrows, hf⟩ | ⟨data, rfl, hrows⟩
    · rw [hrows] at hrow
      obtain ⟨before, hbefore, rfl⟩ := List.mem_map.mp hrow
      rcases hf before with hsame | ⟨data, rfl, hupdated⟩
      · rw [hsame]
        exact hs.documents before hbefore
      · rw [hupdated]
        change IsNormalDocument (data.document.getD before.document)
        cases hdocument : data.document with
        | none => exact hs.documents before hbefore
        | some document => exact hc.2 document hdocument
    · rw [hrows] at hrow
      rcases List.mem_append.mp hrow with hold | hnew
      · exact hs.documents row hold
      · rw [List.mem_singleton.mp hnew]
        exact hc.2
  · intro address haddress
    suffices howned : ∃ row ∈ s.customers.rows,
        row.id = address.customerId ∧ row.tenantId = address.tenantId by
      obtain ⟨row, hrow, hid, htenant⟩ := howned
      obtain ⟨row', hrow', hid', htenant'⟩ := kept_execute c input s hrow
      exact ⟨row', hrow', hid'.trans hid, htenant'.trans htenant⟩
    rcases addresses_execute c input s with ⟨f, hrows, hf⟩ | ⟨data, rfl, hrows⟩
    · rw [hrows] at haddress
      obtain ⟨before, hbefore, rfl⟩ := List.mem_map.mp haddress
      rcases hf before with hsame | ⟨-, hcleared⟩
      · rw [hsame]
        exact hs.owned before hbefore
      · rw [hcleared]
        exact hs.owned before hbefore
    · rw [hrows] at haddress
      rcases List.mem_append.mp haddress with hold | hnew
      · exact hs.owned address hold
      · rw [List.mem_singleton.mp hnew]
        obtain ⟨htenant, ⟨row, hfound⟩, -⟩ := hc
        obtain ⟨-, row', hrow', hid', htenant'⟩ := htells _ hfound
        exact ⟨row', hrow', hid', htenant'.trans htenant.symm⟩
  · intro address haddress
    rcases addresses_execute c input s with ⟨f, hrows, hf⟩ | ⟨data, rfl, hrows⟩
    · rw [hrows] at haddress
      obtain ⟨before, hbefore, rfl⟩ := List.mem_map.mp haddress
      rcases hf before with hsame | ⟨-, hcleared⟩
      · rw [hsame]
        exact hs.postalCodes before hbefore
      · rw [hcleared]
        exact hs.postalCodes before hbefore
    · rw [hrows] at haddress
      rcases List.mem_append.mp haddress with hold | hnew
      · exact hs.postalCodes address hold
      · rw [List.mem_singleton.mp hnew]
        exact hc.2.2

theorem registry_empty : Registry .empty :=
  ⟨fun _ hrow => (nomatch hrow), fun _ hrow => (nomatch hrow), fun _ hrow => (nomatch hrow)⟩

/-- In every run every stored document is a valid one in its digits, which no other
customer of the tenant has, and every address has digits for its postal code and belongs
to a customer of its tenant. -/
theorem customers_keep_their_integrity (toUpperCase : String → String)
    (acts : List (Action Request Input)) :
    Registry ((customersSystem toUpperCase).runActions (Config.initial .empty) acts).store ∧
      ∀ row ∈ ((customersSystem toUpperCase).runActions
          (Config.initial .empty) acts).store.customers.rows,
        ∀ other ∈ ((customersSystem toUpperCase).runActions
            (Config.initial .empty) acts).store.customers.rows,
          row.tenantId = other.tenantId → row.document = other.document →
            row.document.isSome = true → row = other := by
  constructor
  · have hrun := (customersSystem toUpperCase).lawful_run (J := Registry) (K := Tells)
      (D := fun _ => True) (handle_obeys toUpperCase)
      (fun r h c input s _ hs htells hc => ⟨hs.execute input htells hc, tells_answer c input s⟩)
      (fun r h c input s e _ _ _ _ he => tells_execute c input he) acts .empty registry_empty
      fun _ _ => trivial
    exact hrun.store
  · intro row hrow other hother htenant hdocument hsome
    obtain ⟨document, hdocument'⟩ := Option.isSome_iff_exists.mp hsome
    refine Table.eq_of_key _ hrow hother (k := .document row.tenantId document) ?_ ?_
    · simp [CustomerRow.keys, hdocument']
    · simp [CustomerRow.keys, ← hdocument, hdocument', htenant]

/-! ## Tenants -/

/-- The customers, the addresses and the audit records of a tenant. -/
def CustomersStore.view (s : CustomersStore) (tenantId : Id) :
    List CustomerRow × List CustomerAddress × List CustomerChanged :=
  (s.customers.rows.filter fun row => row.tenantId == tenantId,
    s.customerAddresses.rows.filter fun row => row.tenantId == tenantId,
    s.auditLogs.filter fun record => record.tenantId == tenantId)

theorem view_execute {tenantId : Id} {r : Request} {h : List (Event customersInterface)}
    {c : Command} (input : Input) {s : CustomersStore} (hr : r.tenantId ≠ tenantId)
    (htells : ∀ e ∈ h, Tells s e) (hc : Lawful r h c) :
    (executeCustomers c input s).2.view tenantId = s.view tenantId := by
  refine Prod.ext ?_ (Prod.ext ?_ ?_)
  · change (executeCustomers c input s).2.customers.rows.filter _ = _
    rcases customers_execute c input s with ⟨f, hrows, hf⟩ | ⟨data, rfl, hrows⟩
    · rw [hrows]
      refine filter_map_of_fixed (fun row _ => ?_) fun row hrow htenant => ?_
      · rcases hf row with hsame | ⟨data, -, hupdated⟩
        · rw [hsame]
        · rw [hupdated]
          rfl
      · refine (hf row).resolve_right ?_
        rintro ⟨data, rfl, -⟩
        -- the customer that is updated was found in another tenant
        obtain ⟨⟨customerId, found, hfound, hid⟩, -⟩ := hc
        obtain ⟨hid', row', hrow', hidRow', htenantRow'⟩ := htells _ hfound
        have hsame : row' = row := s.customers.eq_of_key (k := .id row.id) hrow' hrow
          (by simp [CustomerRow.keys, hidRow', ← hid', hid]) (by simp [CustomerRow.keys])
        rw [hsame] at htenantRow'
        exact hr (htenantRow'.symm.trans (beq_iff_eq.mp htenant))
    · rw [hrows]
      apply filter_append_of_false
      intro row hrow
      rw [List.mem_singleton.mp hrow]
      exact beq_eq_false_iff_ne.mpr fun htenant => hr (hc.1.symm.trans htenant)
  · change (executeCustomers c input s).2.customerAddresses.rows.filter _ = _
    rcases addresses_execute c input s with ⟨f, hrows, hf⟩ | ⟨data, rfl, hrows⟩
    · rw [hrows]
      refine filter_map_of_fixed (fun row _ => ?_) fun row hrow htenant => ?_
      · rcases hf row with hsame | ⟨-, hcleared⟩
        · rw [hsame]
        · rw [hcleared]
          rfl
      · refine (hf row).resolve_right ?_
        rintro ⟨rfl, -⟩
        exact hr (hc.symm.trans (beq_iff_eq.mp htenant))
    · rw [hrows]
      apply filter_append_of_false
      intro row hrow
      rw [List.mem_singleton.mp hrow]
      exact beq_eq_false_iff_ne.mpr fun htenant => hr (hc.1.symm.trans htenant)
  · change (executeCustomers c input s).2.auditLogs.filter _ = _
    rw [auditLogs_execute]
    apply filter_append_of_false
    intro record hrecord
    cases c with
    | recordAudit record' =>
        cases hanswer : (executeCustomers (.recordAudit record') input s).1 with
        | ok _ =>
            rw [hanswer] at hrecord
            rw [List.mem_singleton.mp hrecord]
            exact beq_eq_false_iff_ne.mpr fun htenant => hr (hc.symm.trans htenant)
        | error _ =>
            rw [hanswer] at hrecord
            cases hrecord
    | _ => cases hrecord

/-- The requests of the other tenants leave the customers, the addresses and the audit
records of a tenant as they are, whatever they interleave with one another. -/
theorem other_tenants_keep_off (toUpperCase : String → String) (tenantId : Id)
    (s : CustomersStore) (acts : List (Action Request Input))
    (h : ∀ r, .start r ∈ acts → r.tenantId ≠ tenantId) :
    ((customersSystem toUpperCase).runActions (Config.initial s) acts).store.view tenantId =
      s.view tenantId := by
  have hrun := (customersSystem toUpperCase).lawful_run
    (J := fun s' => s'.view tenantId = s.view tenantId) (K := Tells)
    (D := fun r => r.tenantId ≠ tenantId) (handle_obeys toUpperCase)
    (fun r h c input s' hr hs' htells hc =>
      ⟨(view_execute input hr htells hc).trans hs', tells_answer c input s'⟩)
    (fun r h c input s' e _ _ _ _ he => tells_execute c input he) acts s rfl h
  exact hrun.store

/-- A request of so many calls, each with the next instant. -/
def wholeRequest (thread calls : ℕ) (request : Request) : List (Action Request Input) :=
  .start request :: (List.range calls).map fun n =>
    .step thread ⟨n, fun k => toString thread ++ toString n ++ toString k, false, fun _ => 0⟩

def paulista : CreateCustomerAddressDto where
  label := none
  type := none
  postalCode := "01310-100"
  street := "Avenida Paulista"
  number := none
  complement := none
  district := none
  city := "Sao Paulo"
  state := "SP"
  main := some true
  pickup := none
  delivery := none

/-- A customer of a tenant, with one address. -/
def oneCustomer : CustomersStore :=
  ((customersSystem id).runActions (Config.initial .empty)
    (wholeRequest 0 2 (.create "other" "v" ⟨"Bia", .undefined, .undefined, .undefined⟩) ++
      wholeRequest 1 4 (.createAddress "other" "v" "000" paulista))).store

/-- Another tenant updates that customer by its id and gives it an address. -/
def intruderRequests : List (Action Request Input) :=
  wholeRequest 0 2 (.create "t" "u" ⟨"Ana", .undefined, .undefined, .undefined⟩) ++
    wholeRequest 1 3 (.updateStatus "t" "u" "000" false) ++
    wholeRequest 2 4 (.createAddress "t" "u" "000" paulista)

theorem other_tenants_keep_off_create :
    (oneCustomer.view "other").1.map (fun row => (row.id, row.active)) = [("000", true)] ∧
      (oneCustomer.view "other").2.1.length = 1 ∧
      ((customersSystem id).runActions (Config.initial oneCustomer)
        intruderRequests).store.view "other" = oneCustomer.view "other" := by
  refine ⟨by decide +kernel, by decide +kernel, ?_⟩
  apply other_tenants_keep_off
  intro r hr
  simp [intruderRequests, wholeRequest] at hr
  rcases hr with rfl | rfl | rfl <;> decide

/-! ## The audit trail -/

/-- The records that belong to a request and its reply. -/
def Recorded : Request → Reply → List CustomerChanged → Prop
  | .get .., .customer _, records | .listAddresses .., .addresses _, records => records = []
  | .create tenantId actorId _, .customer customer, records =>
      records = [customerAudit tenantId actorId customer.id "create"]
  | .update tenantId actorId _ _, .customer customer, records =>
      records = [customerAudit tenantId actorId customer.id "update"]
  | .updateStatus tenantId actorId _ active, .customer customer, records =>
      records = [customerAudit tenantId actorId customer.id
        (if active then "activate" else "deactivate")]
  | .createAddress tenantId actorId customerId _, .address address, records =>
      records = [addressAudit tenantId actorId customerId address.id]
  | _, _, _ => False

theorem getCustomerOrThrow_issues {C : Command → Prop} {tenantId customerId : Id}
    (hC : C (.findCustomer customerId tenantId)) :
    (getCustomerOrThrow tenantId customerId).Issues C := by
  refine (Program.Issues.perform hC).bind fun found => ?_
  cases found <;> trivial

theorem ofExcept_issues {C : Command → Prop} {α : Type} (x : Except ServiceError α) :
    (Program.ofExcept x : Program customersInterface α).Issues C := by
  cases x <;> trivial

/-- A customer is stored, and what happened is recorded. -/
theorem recording_obeys {T : CustomerDto → List CustomerChanged → Prop}
    {p : Program customersInterface CustomerRow} {operation : String} {tenantId actorId : Id}
    (hp : p.Issues (Silent auditEntry)) {h : List (Event customersInterface)}
    (hh : h.flatMap auditEntry = []) (hT : ∀ row : CustomerRow, T (presentCustomer row)
      [customerAudit tenantId actorId row.id operation]) :
    (p >>= fun row => do
      call (.recordAudit (customerAudit tenantId actorId row.id operation))
      pure (presentCustomer row)).Obeys (NothingYet auditEntry) (EnteredLast auditEntry T) h := by
  refine silent_bind_obeys hp hh fun row h hh => ?_
  refine entersLast_obeys ?_ ?_ hh
  · exact fun _ => hT row
  · exact fun _ => rfl

theorem handle_entersLast (toUpperCase : String → String) (r : Request) :
    (handle toUpperCase r).Obeys (NothingYet auditEntry) (EnteredLast auditEntry (Recorded r))
      [] := by
  cases r with
  | get tenantId customerId =>
      refine enteredLast_map (enteredLast_map ?_)
      refine quiet_obeys (getCustomerOrThrow_issues fun _ => rfl) ?_ rfl
      exact fun _ => rfl
  | create tenantId actorId input =>
      refine enteredLast_map ?_
      refine silent_bind_obeys (ofExcept_issues _) rfl fun document h hh => ?_
      refine silent_bind_obeys (ofExcept_issues _) hh fun email h hh => ?_
      refine silent_bind_obeys (ofExcept_issues _) hh fun phone h hh => ?_
      refine persisting_obeys ?_ fun _ _ _ hQ => hQ
      refine recording_obeys (Program.Issues.perform fun _ => rfl) hh ?_
      exact fun _ => rfl
  | update tenantId actorId customerId input =>
      refine enteredLast_map ?_
      refine silent_bind_obeys (getCustomerOrThrow_issues fun _ => rfl) rfl fun current h hh => ?_
      refine silent_bind_obeys (ofExcept_issues _) hh fun document h hh => ?_
      refine silent_bind_obeys (ofExcept_issues _) hh fun email h hh => ?_
      refine silent_bind_obeys (ofExcept_issues _) hh fun name h hh => ?_
      refine silent_bind_obeys (ofExcept_issues _) hh fun phone h hh => ?_
      refine persisting_obeys ?_ fun _ _ _ hQ => hQ
      refine recording_obeys (Program.Issues.perform fun _ => rfl) hh ?_
      exact fun _ => rfl
  | updateStatus tenantId actorId customerId active =>
      refine enteredLast_map ?_
      refine silent_bind_obeys (getCustomerOrThrow_issues fun _ => rfl) rfl fun current h hh => ?_
      refine recording_obeys (Program.Issues.perform fun _ => rfl) hh ?_
      exact fun _ => rfl
  | listAddresses tenantId customerId =>
      refine enteredLast_map ?_
      refine silent_bind_obeys (getCustomerOrThrow_issues fun _ => rfl) rfl fun current h hh => ?_
      refine silent_bind_obeys (Program.Issues.perform fun _ => rfl) hh fun addresses h hh => ?_
      refine quiet_obeys ?_ ?_ hh
      · trivial
      · exact fun _ => rfl
  | createAddress tenantId actorId customerId input =>
      have hstore : ∀ h : List (Event customersInterface), h.flatMap auditEntry = [] →
          (storeAddress toUpperCase tenantId actorId customerId input).Obeys
            (NothingYet auditEntry) (EnteredLast auditEntry fun address =>
              Recorded (.createAddress tenantId actorId customerId input)
                (.address address)) h := by
        intro h hh
        refine silent_bind_obeys (Program.Issues.perform fun _ => rfl) hh fun address h hh => ?_
        refine entersLast_obeys ?_ ?_ hh
        · exact fun _ => rfl
        · exact fun _ => rfl
      refine enteredLast_map ?_
      refine silent_bind_obeys (getCustomerOrThrow_issues fun _ => rfl) rfl fun current h hh => ?_
      split
      · exact silent_bind_obeys (Program.Issues.perform fun _ => rfl) hh fun _ h hh => hstore h hh
      · exact hstore h hh

/-- The audit trail is made of the records of the requests: an answered write has made
exactly one, which names the customer or the address that was replied, and a read, or a
request that failed or is not answered yet, none. -/
theorem customer_changes_are_recorded (toUpperCase : String → String) (s : CustomersStore)
    (acts : List (Action Request Input)) :
    (((customersSystem toUpperCase).runActions (Config.initial s) acts).store.auditLogs).Perm
        (s.auditLogs ++
          ((customersSystem toUpperCase).runActions (Config.initial s) acts).entered auditEntry) ∧
      ∀ t ∈ ((customersSystem toUpperCase).runActions (Config.initial s) acts).threads,
        t.Accounted auditEntry (Recorded t.request) :=
  ⟨(customersSystem toUpperCase).ledger_run auditEntry auditLogs_execute acts s,
    (customersSystem toUpperCase).entered_run (handle_entersLast toUpperCase) acts s⟩

/-! ## Main addresses -/

def mainAddresses (s : CustomersStore) (tenantId customerId : Id) : List CustomerAddress :=
  s.customerAddresses.rows.filter (isMainOf tenantId customerId)

def OneMain (s : CustomersStore) : Prop :=
  ∀ tenantId customerId, (mainAddresses s tenantId customerId).length ≤ 1

def MakesNoMain : Command → Prop
  | .createAddress data => data.main = false
  | _ => True

theorem length_filter_map_le {α : Type} {p : α → Bool} {f : α → α} (rows : List α)
    (h : ∀ row, p (f row) = true → p row = true) :
    ((rows.map f).filter p).length ≤ (rows.filter p).length := by
  rw [← List.countP_eq_length_filter, ← List.countP_eq_length_filter, List.countP_map]
  exact List.countP_mono_left fun row _ hrow => h row hrow

theorem mainAddresses_execute_le {c : Command} (hc : MakesNoMain c) (input : Input)
    (s : CustomersStore) (tenantId customerId : Id) :
    (mainAddresses (executeCustomers c input s).2 tenantId customerId).length ≤
      (mainAddresses s tenantId customerId).length := by
  unfold mainAddresses
  rcases addresses_execute c input s with ⟨f, hrows, hf⟩ | ⟨data, rfl, hrows⟩
  · rw [hrows]
    refine length_filter_map_le _ fun row hrow => ?_
    rcases hf row with hsame | ⟨-, hcleared⟩
    · rwa [hsame] at hrow
    · rw [hcleared] at hrow
      simp [isMainOf, cleared] at hrow
  · rw [hrows, filter_append_of_false]
    intro row hrow
    rw [List.mem_singleton.mp hrow]
    change (_ && data.main) = false
    rw [hc, Bool.and_false]

theorem oneMain_execute {c : Command} (hc : MakesNoMain c) (input : Input) {s : CustomersStore}
    (hs : OneMain s) : OneMain (executeCustomers c input s).2 := fun tenantId customerId =>
  (mainAddresses_execute_le hc input s tenantId customerId).trans (hs tenantId customerId)

theorem mainAddresses_clearMain {tenantId customerId : Id} {input : Input} {s : CustomersStore}
    {count : ℕ} (h : (executeCustomers (.clearMain tenantId customerId) input s).1 = .ok count) :
    mainAddresses (executeCustomers (.clearMain tenantId customerId) input s).2 tenantId
      customerId = [] := by
  unfold executeCustomers at h ⊢
  by_cases hfault : input.fault = true
  · rw [if_pos hfault] at h
    cases h
  rw [if_neg hfault, mainAddresses, List.filter_eq_nil_iff]
  intro row hrow
  obtain ⟨before, -, rfl⟩ := List.mem_map.mp hrow
  dsimp only
  split
  · simp [isMainOf]
  · assumption

theorem oneMain_createAddress {data : AddressData} {input : Input} {s : CustomersStore}
    (hs : OneMain s) (hnone : mainAddresses s data.tenantId data.customerId = []) :
    OneMain (executeCustomers (.createAddress data) input s).2 := by
  intro tenantId customerId
  unfold mainAddresses at hnone ⊢
  rcases addresses_execute (.createAddress data) input s with ⟨f, hrows, hf⟩ | ⟨data', hdata, hrows⟩
  · rw [hrows]
    refine (length_filter_map_le _ fun row hrow => ?_).trans (hs tenantId customerId)
    rwa [(hf row).resolve_right fun h => nomatch h.1] at hrow
  · obtain rfl := Command.createAddress.inj hdata
    rw [hrows, List.filter_append, List.length_append]
    by_cases hof : data.tenantId = tenantId ∧ data.customerId = customerId
    · obtain ⟨rfl, rfl⟩ := hof
      rw [hnone]
      exact (Nat.zero_add _).le.trans (List.length_filter_le _ _)
    · have hnew : List.filter (isMainOf tenantId customerId) [data.row input] = [] := by
        rw [List.filter_eq_nil_iff]
        intro row hrow hmain
        rw [List.mem_singleton.mp hrow] at hmain
        simp only [isMainOf, Bool.and_eq_true, beq_iff_eq] at hmain
        exact hof hmain.1
      rw [hnew]
      exact hs tenantId customerId

section Requests

variable (toUpperCase : String → String)

abbrev KeepsOneMain {α : Type} (p : Program customersInterface α) (s : CustomersStore) : Prop :=
  p.wp executeCustomers (fun _ _ _ => True) (fun _ _ _ => True) (fun _ s' => OneMain s') s

theorem keepsOneMain_of_issues {α : Type} {p : Program customersInterface α}
    (hp : p.Issues MakesNoMain) {s : CustomersStore} (hs : OneMain s) : KeepsOneMain p s :=
  Program.wp_of_issues hp (fun _ hc i _ hs _ => ⟨trivial, oneMain_execute hc i hs⟩) s hs

theorem recording_issues {p : Program customersInterface CustomerRow} {operation : String}
    {tenantId actorId : Id} (hp : p.Issues MakesNoMain) :
    (p >>= fun row => do
      call (.recordAudit (customerAudit tenantId actorId row.id operation))
      pure (presentCustomer row)).Issues MakesNoMain :=
  hp.bind fun _ => (Program.Issues.perform trivial).bind fun _ => trivial

theorem persisting_issues {α : Type} {p : Program customersInterface α}
    (hp : p.Issues MakesNoMain) :
    (p.tryCatch handleCustomerPersistenceError).Issues MakesNoMain := by
  refine hp.tryCatch fun e => ?_
  unfold handleCustomerPersistenceError
  split <;> trivial

/-- A new address is stored where no main one is in its way. -/
theorem storeAddress_keeps (tenantId actorId customerId : Id) (input : CreateCustomerAddressDto)
    {s : CustomersStore} (hs : OneMain s)
    (hfree : input.main ≠ some true ∨ mainAddresses s tenantId customerId = []) :
    KeepsOneMain (storeAddress toUpperCase tenantId actorId customerId input) s := by
  have hcreate : ∀ i, OneMain (executeCustomers
      (.createAddress (addressData toUpperCase tenantId customerId input)) i s).2 := by
    intro i
    rcases hfree with hmain | hnone
    · refine oneMain_execute ?_ i hs
      change input.main.getD false = false
      cases hinput : input.main with
      | none => rfl
      | some main => exact Bool.eq_false_iff.mpr fun h => hmain (hinput.trans (congrArg some h))
    · exact oneMain_createAddress hs hnone
  refine Program.wp_perform_bind fun i _ => ⟨trivial, fun address _ => ?_, fun _ _ => hcreate i⟩
  refine keepsOneMain_of_issues ?_ (hcreate i)
  exact (Program.Issues.perform trivial).bind fun _ => trivial

theorem handle_keeps (r : Request) {s : CustomersStore} (hs : OneMain s) :
    KeepsOneMain (handle toUpperCase r) s := by
  cases r with
  | get tenantId customerId =>
      refine keepsOneMain_of_issues ((Program.issues_map_iff _ _).mpr
        ((Program.issues_map_iff _ _).mpr ?_)) hs
      exact getCustomerOrThrow_issues trivial
  | create tenantId actorId input =>
      refine keepsOneMain_of_issues ((Program.issues_map_iff _ _).mpr ?_) hs
      refine (ofExcept_issues _).bind fun document => (ofExcept_issues _).bind fun email =>
        (ofExcept_issues _).bind fun phone => persisting_issues ?_
      exact recording_issues (Program.Issues.perform trivial)
  | update tenantId actorId customerId input =>
      refine keepsOneMain_of_issues ((Program.issues_map_iff _ _).mpr ?_) hs
      refine (getCustomerOrThrow_issues trivial).bind fun current => (ofExcept_issues _).bind
        fun document => (ofExcept_issues _).bind fun email => (ofExcept_issues _).bind fun name =>
          (ofExcept_issues _).bind fun phone => persisting_issues ?_
      exact recording_issues (Program.Issues.perform trivial)
  | updateStatus tenantId actorId customerId active =>
      refine keepsOneMain_of_issues ((Program.issues_map_iff _ _).mpr ?_) hs
      refine (getCustomerOrThrow_issues trivial).bind fun current => ?_
      exact recording_issues (Program.Issues.perform trivial)
  | listAddresses tenantId customerId =>
      refine keepsOneMain_of_issues ((Program.issues_map_iff _ _).mpr ?_) hs
      refine (getCustomerOrThrow_issues trivial).bind fun current => ?_
      exact (Program.Issues.perform trivial).bind fun _ => trivial
  | createAddress tenantId actorId customerId input =>
      refine Program.wp_map ?_
      refine Program.wp_bind (keepsOneMain_of_issues (getCustomerOrThrow_issues trivial) hs)
        (fun _ s hs => ?_) fun _ _ hs => hs
      split
      · refine Program.wp_perform_bind fun i _ => ?_
        have hcleared := oneMain_execute (c := .clearMain tenantId customerId) trivial i hs
        refine ⟨trivial, fun count hcount => ?_, fun _ _ => hcleared⟩
        exact storeAddress_keeps toUpperCase tenantId actorId customerId input hcleared
          (.inr (mainAddresses_clearMain hcount))
      · next hmain =>
        exact storeAddress_keeps toUpperCase tenantId actorId customerId input hs (.inl hmain)

end Requests

/-- One request after the other, whichever of their calls are broken off, a customer has
at most one main address. -/
theorem one_main_address (toUpperCase : String → String)
    (calls : List (Request × (ℕ → Input))) (tenantId customerId : Id) :
    (mainAddresses ((customersSystem toUpperCase).runCalls calls .empty) tenantId
      customerId).length ≤ 1 := by
  exact (customersSystem toUpperCase).runCalls_invariant (J := OneMain)
    (fun r s hs => handle_keeps toUpperCase r hs) calls .empty (fun _ _ => Nat.zero_le 1)
    ((customersSystem toUpperCase).alongCalls_true calls .empty) tenantId customerId

end Logistics.Customers
