import Logistics.Carriers.Service
import Logistics.Customers.Search

/-!
# Administering customers

`create`, `update`, `updateStatus`, `createAddress` and the reads of the customers
service. Each write looks for the customer first, in a call of its own, and is recorded
in the audit trail afterwards. Making an address the main one clears the old one first,
also in a call of its own.
-/

namespace Logistics.Customers

open Logistics.Library
open Logistics.Carriers (Property)

/-! ## Requests -/

structure CreateCustomerDto where
  name : String
  document : Property String
  email : Property String
  phone : Property String

structure UpdateCustomerDto where
  name : Property String
  document : Property String
  email : Property String
  phone : Property String

/-- A text that is not given, or `null`, is absent. -/
structure CreateCustomerAddressDto where
  label : Option String
  type : Option String
  postalCode : String
  street : String
  number : Option String
  complement : Option String
  district : Option String
  city : String
  state : String
  main : Option Bool
  pickup : Option Bool
  delivery : Option Bool

/-! ## Rows -/

inductive CustomerKey
  | id (id : Id)
  | document (tenantId : Id) (document : String)
  deriving DecidableEq

def CustomerRow.keys (row : CustomerRow) : List CustomerKey :=
  .id row.id :: row.document.toList.map (.document row.tenantId)

inductive AddressType
  | main | pickup | delivery | billing | other
  deriving DecidableEq

def AddressType.text : AddressType → String
  | .main => "MAIN"
  | .pickup => "PICKUP"
  | .delivery => "DELIVERY"
  | .billing => "BILLING"
  | .other => "OTHER"

structure CustomerAddress where
  id : Id
  tenantId : Id
  customerId : Id
  type : AddressType
  label : Option String
  postalCode : String
  street : String
  number : Option String
  complement : Option String
  district : Option String
  city : String
  state : String
  country : String
  latitude : Option (Fixed 7)
  longitude : Option (Fixed 7)
  main : Bool
  pickup : Bool
  delivery : Bool
  active : Bool
  createdAt : Time
  updatedAt : Time
  deriving DecidableEq

/-- A record of the action `CUSTOMER_CHANGED`. -/
structure CustomerChanged where
  actorId : Id
  entityId : Id
  entityType : String
  metadata : List (String × String)
  tenantId : Id
  deriving DecidableEq

structure CustomersStore where
  customers : Table CustomerRow CustomerKey CustomerRow.keys
  customerAddresses : IdTable CustomerAddress CustomerAddress.id
  auditLogs : List CustomerChanged

def CustomersStore.empty : CustomersStore := ⟨.empty, .empty, []⟩

/-! ## What is written -/

structure CustomerData where
  tenantId : Id
  name : String
  document : Option String
  email : Option String
  phone : Option String

def CustomerData.row (data : CustomerData) (input : Input) : CustomerRow where
  id := input.ids 0
  tenantId := data.tenantId
  name := data.name
  active := true
  document := data.document
  email := data.email
  phone := data.phone
  createdAt := input.now
  updatedAt := input.now

/-- The columns that an update sets. -/
structure CustomerUpdate where
  name : Option String
  document : Option (Option String)
  email : Option (Option String)
  phone : Option (Option String)
  active : Option Bool

def CustomerUpdate.apply (data : CustomerUpdate) (now : Time) (row : CustomerRow) :
    CustomerRow where
  id := row.id
  tenantId := row.tenantId
  name := data.name.getD row.name
  active := data.active.getD row.active
  document := data.document.getD row.document
  email := data.email.getD row.email
  phone := data.phone.getD row.phone
  createdAt := row.createdAt
  updatedAt := now

structure AddressData where
  tenantId : Id
  customerId : Id
  type : AddressType
  label : Option String
  postalCode : String
  street : String
  number : Option String
  complement : Option String
  district : Option String
  city : String
  state : String
  main : Bool
  pickup : Bool
  delivery : Bool

def AddressData.row (data : AddressData) (input : Input) : CustomerAddress where
  id := input.ids 0
  tenantId := data.tenantId
  customerId := data.customerId
  type := data.type
  label := data.label
  postalCode := data.postalCode
  street := data.street
  number := data.number
  complement := data.complement
  district := data.district
  city := data.city
  state := data.state
  country := "BR"
  latitude := none
  longitude := none
  main := data.main
  pickup := data.pickup
  delivery := data.delivery
  active := true
  createdAt := input.now
  updatedAt := input.now

/-! ## Calls -/

inductive Command
  | findCustomer (id tenantId : Id)
  | createCustomer (data : CustomerData)
  | updateCustomer (id : Id) (data : CustomerUpdate)
  | findAddresses (customerId tenantId : Id)
  /-- `updateMany` of the main addresses of a customer. -/
  | clearMain (tenantId customerId : Id)
  | createAddress (data : AddressData)
  | recordAudit (input : CustomerChanged)

@[reducible] def Command.Result : Command → Type
  | .findCustomer .. => Option CustomerRow
  | .createCustomer _ | .updateCustomer .. => CustomerRow
  | .findAddresses .. => List CustomerAddress
  | .clearMain .. => ℕ
  | .createAddress _ => CustomerAddress
  | .recordAudit _ => Unit

@[reducible] def customersInterface : Interface := ⟨Command, Command.Result, ServiceError⟩

abbrev call (c : Command) : Program customersInterface c.Result :=
  @Program.perform customersInterface c

/-- `orderBy: [{ main: 'desc' }, { pickup: 'desc' }, { delivery: 'desc' }, { createdAt: 'asc' }]` -/
def addressLE (a b : CustomerAddress) : Bool :=
  if a.main ≠ b.main then a.main
  else if a.pickup ≠ b.pickup then a.pickup
  else if a.delivery ≠ b.delivery then a.delivery
  else a.createdAt ≤ b.createdAt

def isMainOf (tenantId customerId : Id) (row : CustomerAddress) : Bool :=
  row.tenantId == tenantId && row.customerId == customerId && row.main

def answer : (c : Command) → Input → CustomersStore →
    Response customersInterface c × CustomersStore
  | .findCustomer id tenantId, _, s =>
      (.ok (s.customers.rows.find? fun row => row.id == id && row.tenantId == tenantId), s)
  | .createCustomer data, input, s =>
      match s.customers.tryInsert (data.row input) with
      | none => (.error .uniqueViolation, s)
      | some customers => (.ok (data.row input), { s with customers })
  | .updateCustomer id data, input, s =>
      match s.customers.rows.find? fun row => row.id == id with
      | none => (.error .recordNotFound, s)
      | some row =>
          match s.customers.tryUpdate (fun other => other.id == id) (data.apply input.now) with
          | none => (.error .uniqueViolation, s)
          | some customers => (.ok (data.apply input.now row), { s with customers })
  | .findAddresses customerId tenantId, _, s =>
      (.ok ((s.customerAddresses.rows.filter fun row =>
        row.customerId == customerId && row.tenantId == tenantId).insertionSort
          fun a b => addressLE a b), s)
  | .clearMain tenantId customerId, input, s =>
      (.ok (s.customerAddresses.rows.countP (isMainOf tenantId customerId)),
        { s with
          customerAddresses := s.customerAddresses.modify (isMainOf tenantId customerId)
            (fun row => { row with main := false, updatedAt := input.now }) fun _ => rfl })
  | .createAddress data, input, s =>
      match s.customerAddresses.tryInsert (data.row input) with
      | none => (.error .uniqueViolation, s)
      | some customerAddresses => (.ok (data.row input), { s with customerAddresses })
  | .recordAudit audit, _, s => (.ok (), { s with auditLogs := s.auditLogs ++ [audit] })

/-- Any call may be broken off by the database. -/
def executeCustomers (c : Command) (input : Input) (s : CustomersStore) :
    Response customersInterface c × CustomersStore :=
  if input.fault then (.error .fault, s) else answer c input s

/-! ## Normal forms -/

def normalizeOptional (value : String) : Option String :=
  if trim value = "" then none else some (trim value)

/-- A property that is `null` has no `trim`. -/
def optionalColumn : Property String → Except ServiceError (Option (Option String))
  | .undefined => .ok none
  | .null => .error .fault
  | .value text => .ok (some (normalizeOptional text))

/-- `normalizeDocument` of a property, and the check of it. -/
def documentColumn (document : Property String) :
    Except ServiceError (Option (Option String)) :=
  match document with
  | .undefined => .ok none
  | .null => .ok (some none)
  | .value text => do
      validateDocument (normalizeDocument text)
      pure (some (normalizeDocument text))

def nameColumn : Property String → Except ServiceError (Option String)
  | .undefined => .ok none
  | .null => .error .fault
  | .value text => .ok (some (trim text))

def toAddressType (value : Option String) : AddressType :=
  match value with
  | none => .other
  | some text =>
      ([AddressType.main, .pickup, .delivery, .billing, .other].find? fun type =>
        type.text == text).getD .other

/-! ## Operations -/

structure CustomerAddressDto where
  active : Bool
  city : String
  complement : Option String
  country : String
  customerId : Id
  delivery : Bool
  district : Option String
  id : Id
  label : Option String
  latitude : Option (Fixed 7)
  longitude : Option (Fixed 7)
  main : Bool
  number : Option String
  pickup : Bool
  postalCode : String
  state : String
  street : String
  type : AddressType

def presentAddress (address : CustomerAddress) : CustomerAddressDto where
  active := address.active
  city := address.city
  complement := address.complement
  country := address.country
  customerId := address.customerId
  delivery := address.delivery
  district := address.district
  id := address.id
  label := address.label
  latitude := address.latitude
  longitude := address.longitude
  main := address.main
  number := address.number
  pickup := address.pickup
  postalCode := address.postalCode
  state := address.state
  street := address.street
  type := address.type

def getCustomerOrThrow (tenantId customerId : Id) : Program customersInterface CustomerRow := do
  let some customer ← call (.findCustomer customerId tenantId)
    | throw (.notFound "Customer was not found.")
  pure customer

def get (tenantId customerId : Id) : Program customersInterface CustomerDto :=
  presentCustomer <$> getCustomerOrThrow tenantId customerId

def handleCustomerPersistenceError {α : Type} (error : ServiceError) :
    Program customersInterface α :=
  if error = .uniqueViolation then
    throw (.conflict "Customer document already exists in this tenant.")
  else throw error

def customerAudit (tenantId actorId entityId : Id) (operation : String) : CustomerChanged where
  actorId := actorId
  entityId := entityId
  entityType := "Customer"
  metadata := [("operation", operation)]
  tenantId := tenantId

def addressAudit (tenantId actorId customerId addressId : Id) : CustomerChanged where
  actorId := actorId
  entityId := customerId
  entityType := "CustomerAddress"
  metadata := [("operation", "create_address"), ("addressId", addressId)]
  tenantId := tenantId

def create (tenantId actorId : Id) (input : CreateCustomerDto) :
    Program customersInterface CustomerDto := do
  let document ← Program.ofExcept (documentColumn input.document)
  let email ← Program.ofExcept (optionalColumn input.email)
  let phone ← Program.ofExcept (optionalColumn input.phone)
  Program.tryCatch (do
    let customer ← call (.createCustomer
      ⟨tenantId, trim input.name, document.join, email.join, phone.join⟩)
    call (.recordAudit (customerAudit tenantId actorId customer.id "create"))
    pure (presentCustomer customer)) handleCustomerPersistenceError

def update (tenantId actorId customerId : Id) (input : UpdateCustomerDto) :
    Program customersInterface CustomerDto := do
  let current ← getCustomerOrThrow tenantId customerId
  let document ← Program.ofExcept (documentColumn input.document)
  let email ← Program.ofExcept (optionalColumn input.email)
  let name ← Program.ofExcept (nameColumn input.name)
  let phone ← Program.ofExcept (optionalColumn input.phone)
  Program.tryCatch (do
    let customer ← call (.updateCustomer current.id ⟨name, document, email, phone, none⟩)
    call (.recordAudit (customerAudit tenantId actorId customer.id "update"))
    pure (presentCustomer customer)) handleCustomerPersistenceError

def updateStatus (tenantId actorId customerId : Id) (active : Bool) :
    Program customersInterface CustomerDto := do
  let current ← getCustomerOrThrow tenantId customerId
  let customer ← call (.updateCustomer current.id ⟨none, none, none, none, some active⟩)
  call (.recordAudit (customerAudit tenantId actorId customer.id
    (if active then "activate" else "deactivate")))
  pure (presentCustomer customer)

def listAddresses (tenantId customerId : Id) :
    Program customersInterface (List CustomerAddressDto) := do
  let _ ← getCustomerOrThrow tenantId customerId
  let addresses ← call (.findAddresses customerId tenantId)
  pure (addresses.map presentAddress)

section

variable (toUpperCase : String → String)

def addressData (tenantId customerId : Id) (input : CreateCustomerAddressDto) : AddressData where
  tenantId := tenantId
  customerId := customerId
  type := toAddressType input.type
  label := normalizeOptional (input.label.getD "")
  postalCode := onlyDigits (some input.postalCode)
  street := trim input.street
  number := normalizeOptional (input.number.getD "")
  complement := normalizeOptional (input.complement.getD "")
  district := normalizeOptional (input.district.getD "")
  city := trim input.city
  state := toUpperCase (trim input.state)
  main := input.main.getD false
  pickup := input.pickup.getD false
  delivery := input.delivery.getD false

/-- What follows when the old main address is out of the way. -/
def storeAddress (tenantId actorId customerId : Id) (input : CreateCustomerAddressDto) :
    Program customersInterface CustomerAddressDto := do
  let address ← call (.createAddress (addressData toUpperCase tenantId customerId input))
  call (.recordAudit (addressAudit tenantId actorId customerId address.id))
  pure (presentAddress address)

def createAddress (tenantId actorId customerId : Id) (input : CreateCustomerAddressDto) :
    Program customersInterface CustomerAddressDto := do
  let _ ← getCustomerOrThrow tenantId customerId
  if input.main = some true then do
    let _ ← call (.clearMain tenantId customerId)
    storeAddress toUpperCase tenantId actorId customerId input
  else storeAddress toUpperCase tenantId actorId customerId input

/-! ## Requests -/

inductive Request
  | get (tenantId customerId : Id)
  | create (tenantId actorId : Id) (input : CreateCustomerDto)
  | update (tenantId actorId customerId : Id) (input : UpdateCustomerDto)
  | updateStatus (tenantId actorId customerId : Id) (active : Bool)
  | listAddresses (tenantId customerId : Id)
  | createAddress (tenantId actorId customerId : Id) (input : CreateCustomerAddressDto)

inductive Reply
  | customer (customer : CustomerDto)
  | addresses (addresses : List CustomerAddressDto)
  | address (address : CustomerAddressDto)

def handle : Request → Program customersInterface Reply
  | .get tenantId customerId => .customer <$> get tenantId customerId
  | .create tenantId actorId input => .customer <$> create tenantId actorId input
  | .update tenantId actorId customerId input =>
      .customer <$> update tenantId actorId customerId input
  | .updateStatus tenantId actorId customerId active =>
      .customer <$> updateStatus tenantId actorId customerId active
  | .listAddresses tenantId customerId => .addresses <$> listAddresses tenantId customerId
  | .createAddress tenantId actorId customerId input =>
      .address <$> createAddress toUpperCase tenantId actorId customerId input

def customersSystem : System customersInterface Request Reply Input CustomersStore :=
  ⟨executeCustomers, handle toUpperCase⟩

end

end Logistics.Customers
