import Logistics.Imports.Documents
import Logistics.Imports.Service
import Logistics.Library.Sequential
import Logistics.Schema.Store

/-!
# The row handlers

`CustomerImportHandler` and `CarrierImportHandler`: each makes data of a row under
the mapping of its job, checks the data, looks for the record that the row is about
and creates or updates it. A run of an import hands its rows to one of them, one
after the other, with the references it has seen, and ends at the first exception.
-/

namespace Logistics.Imports

open Logistics.Library

variable [Collation]

/-! ## Rows -/

structure CustomerRow extends Customer where
  document : Option String
  email : Option String
  phone : Option String
  createdAt : Time
  updatedAt : Time
  deriving DecidableEq

structure CustomerAddressRow where
  id : Id
  tenantId : Id
  customerId : Id
  postalCode : String
  street : String
  city : String
  state : String
  country : String
  main : Bool
  delivery : Bool
  active : Bool
  createdAt : Time
  updatedAt : Time
  deriving DecidableEq

structure CarrierRow extends Carrier where
  document : Option String
  code : Option String
  legalName : Option String
  email : Option String
  phone : Option String
  contactName : Option String
  site : Option String
  createdAt : Time
  updatedAt : Time
  deriving DecidableEq

inductive CustomerKey
  | id (id : Id)
  | document (tenantId : Id) (document : String)
  deriving DecidableEq

def CustomerRow.keys (row : CustomerRow) : List CustomerKey :=
  .id row.id :: row.document.toList.map (.document row.tenantId)

/-- Documents are stored as digits. Codes are stored as they were typed, and the unique
key takes them by their weight. -/
inductive CarrierKey
  | id (id : Id)
  | document (tenantId : Id) (document : String)
  | code (tenantId : Id) (weight : String)
  deriving DecidableEq

def CarrierRow.keys (row : CarrierRow) : List CarrierKey :=
  .id row.id :: (row.document.toList.map (.document row.tenantId) ++
    row.code.toList.map fun code => .code row.tenantId (Collation.weight code))

structure HandlerStore where
  customers : Table CustomerRow CustomerKey CustomerRow.keys
  customerAddresses : IdTable CustomerAddressRow CustomerAddressRow.id
  carriers : Table CarrierRow CarrierKey CarrierRow.keys

def HandlerStore.empty : HandlerStore := ⟨.empty, .empty, .empty⟩

/-! ## Calls -/

structure CustomerCreateInput where
  active : Bool
  document : String
  email : Option String
  name : String
  phone : Option String
  tenantId : Id

structure CustomerUpdateInput where
  active : Bool
  email : Option String
  name : String
  phone : Option String

structure CustomerAddressCreateInput where
  active : Bool
  city : String
  country : String
  customerId : Id
  delivery : Bool
  main : Bool
  postalCode : String
  state : String
  street : String
  tenantId : Id

structure CarrierCreateInput where
  active : Bool
  code : String
  contactName : Option String
  document : Option String
  email : Option String
  legalName : Option String
  name : String
  phone : Option String
  site : Option String
  tenantId : Id

inductive HandlerCommand
  | findCustomer (document : String) (tenantId : Id)
  | updateCustomer (id : Id) (data : CustomerUpdateInput)
  | createCustomer (data : CustomerCreateInput)
  | createCustomerAddress (data : CustomerAddressCreateInput)
  | findCarrierByCode (code : String) (tenantId : Id)
  | findCarrierByDocument (document : String) (tenantId : Id)
  | updateCarrier (id : Id) (data : CarrierCreateInput)
  | createCarrier (data : CarrierCreateInput)

@[reducible] def HandlerCommand.Result : HandlerCommand → Type
  | .findCustomer .. => Option CustomerRow
  | .updateCustomer .. | .createCustomer _ => CustomerRow
  | .createCustomerAddress _ => CustomerAddressRow
  | .findCarrierByCode .. | .findCarrierByDocument .. => Option CarrierRow
  | .updateCarrier .. | .createCarrier _ => CarrierRow

@[reducible] def handlerInterface : Interface :=
  ⟨HandlerCommand, HandlerCommand.Result, ServiceError⟩

abbrev query (c : HandlerCommand) : Program handlerInterface c.Result :=
  @Program.perform handlerInterface c

/-! ## Column limits -/

def CustomerUpdateInput.fits (data : CustomerUpdateInput) : Bool :=
  fitsColumn 160 data.name && data.email.all (fitsColumn 180) && data.phone.all (fitsColumn 40)

def CustomerCreateInput.fits (data : CustomerCreateInput) : Bool :=
  fitsColumn 160 data.name && fitsColumn 32 data.document && data.email.all (fitsColumn 180) &&
    data.phone.all (fitsColumn 40)

def CustomerAddressCreateInput.fits (data : CustomerAddressCreateInput) : Bool :=
  fitsColumn 16 data.postalCode && fitsColumn 160 data.street && fitsColumn 120 data.city &&
    fitsColumn 2 data.state && fitsColumn 2 data.country

def CarrierCreateInput.fits (data : CarrierCreateInput) : Bool :=
  fitsColumn 160 data.name && data.document.all (fitsColumn 32) && fitsColumn 40 data.code &&
    data.legalName.all (fitsColumn 180) && data.email.all (fitsColumn 180) &&
    data.phone.all (fitsColumn 40) && data.contactName.all (fitsColumn 120) &&
    data.site.all (fitsColumn 180)

/-! ## Answering the calls -/

def CustomerCreateInput.row (data : CustomerCreateInput) (id : Id) (now : Time) : CustomerRow where
  id := id
  tenantId := data.tenantId
  name := data.name
  active := data.active
  document := some data.document
  email := data.email
  phone := data.phone
  createdAt := now
  updatedAt := now

def CustomerUpdateInput.apply (data : CustomerUpdateInput) (now : Time) (row : CustomerRow) :
    CustomerRow :=
  { row with
    active := data.active
    email := data.email
    name := data.name
    phone := data.phone
    updatedAt := now }

def CustomerAddressCreateInput.row (data : CustomerAddressCreateInput) (id : Id) (now : Time) :
    CustomerAddressRow where
  id := id
  tenantId := data.tenantId
  customerId := data.customerId
  postalCode := data.postalCode
  street := data.street
  city := data.city
  state := data.state
  country := data.country
  main := data.main
  delivery := data.delivery
  active := data.active
  createdAt := now
  updatedAt := now

def CarrierCreateInput.row (data : CarrierCreateInput) (id : Id) (now : Time) : CarrierRow where
  id := id
  tenantId := data.tenantId
  name := data.name
  active := data.active
  document := data.document
  code := some data.code
  legalName := data.legalName
  email := data.email
  phone := data.phone
  contactName := data.contactName
  site := data.site
  createdAt := now
  updatedAt := now

def CarrierCreateInput.apply (data : CarrierCreateInput) (now : Time) (row : CarrierRow) :
    CarrierRow :=
  { data.row row.id now with createdAt := row.createdAt }

def findCustomer (s : HandlerStore) (document : String) (tenantId : Id) : Option CustomerRow :=
  s.customers.rows.find? fun row => row.tenantId == tenantId && row.document == some document

def findCarrierByCode (s : HandlerStore) (code : String) (tenantId : Id) : Option CarrierRow :=
  s.carriers.rows.find? fun row => row.tenantId == tenantId && row.code.any (collates code)

def findCarrierByDocument (s : HandlerStore) (document : String) (tenantId : Id) :
    Option CarrierRow :=
  s.carriers.rows.find? fun row => row.tenantId == tenantId && row.document == some document

/-- A value that is too long for its column is a fault, found before the keys are
looked at. -/
def answerQuery (env : Input) (s : HandlerStore) :
    (c : HandlerCommand) → Response handlerInterface c × HandlerStore
  | .findCustomer document tenantId => (.ok (findCustomer s document tenantId), s)
  | .updateCustomer id data =>
      match s.customers.rows.find? fun row => row.id == id with
      | none => (.error .recordNotFound, s)
      | some row =>
          if data.fits then
            (.ok (data.apply env.now row),
              { s with
                customers := s.customers.modify (fun other => other.id == id) (data.apply env.now)
                  fun _ => rfl })
          else (.error .fault, s)
  | .createCustomer data =>
      if data.fits then
        match s.customers.tryInsert (data.row (env.ids 0) env.now) with
        | none => (.error .uniqueViolation, s)
        | some customers => (.ok (data.row (env.ids 0) env.now), { s with customers })
      else (.error .fault, s)
  | .createCustomerAddress data =>
      if data.fits then
        match s.customerAddresses.tryInsert (data.row (env.ids 0) env.now) with
        | none => (.error .uniqueViolation, s)
        | some customerAddresses =>
            (.ok (data.row (env.ids 0) env.now), { s with customerAddresses })
      else (.error .fault, s)
  | .findCarrierByCode code tenantId => (.ok (findCarrierByCode s code tenantId), s)
  | .findCarrierByDocument document tenantId => (.ok (findCarrierByDocument s document tenantId), s)
  | .updateCarrier id data =>
      match s.carriers.rows.find? fun row => row.id == id with
      | none => (.error .recordNotFound, s)
      | some row =>
          if data.fits then
            match s.carriers.tryUpdate (fun other => other.id == id) (data.apply env.now) with
            | none => (.error .uniqueViolation, s)
            | some carriers => (.ok (data.apply env.now row), { s with carriers })
          else (.error .fault, s)
  | .createCarrier data =>
      if data.fits then
        match s.carriers.tryInsert (data.row (env.ids 0) env.now) with
        | none => (.error .uniqueViolation, s)
        | some carriers => (.ok (data.row (env.ids 0) env.now), { s with carriers })
      else (.error .fault, s)

/-- Any call may be broken off by the database. -/
def executeQuery (c : HandlerCommand) (env : Input) (s : HandlerStore) :
    Response handlerInterface c × HandlerStore :=
  if env.fault then (.error .fault, s) else answerQuery env s c

/-! ## Reading a row -/

/-- What the handlers take from their platform beyond that of the imports. -/
structure HandlerPlatform extends ImportPlatform where
  toUpperCase : String → String

namespace Handlers

/-- The cell that the mapping names for a field, or nothing. -/
def value (input : ImportRowProcessInput) (field : String) : String :=
  match input.mapping.lookup field with
  | none => ""
  | some source =>
      if source = "" then "" else ((input.row.values.lookup source).map trim).getD ""

/-- `/^[^\s@]+@[^\s@]+\.[^\s@]+$/` -/
def isEmail (text : String) : Bool :=
  text.toList.all (fun c => !isWhiteSpace c) &&
    match text.toList.splitOn '@' with
    | [user, host] => !user.isEmpty && (host.drop 1).dropLast.contains '.'
    | _ => false

/-- `/^https?:\/\//i` -/
def isSite (text : String) : Bool :=
  "http://".toList.isPrefixOf (text.toList.map Char.toLower) ||
    "https://".toList.isPrefixOf (text.toList.map Char.toLower)

def normalizeEmail (P : ImportPlatform) (input : String) : String := P.toLowerCase (trim input)

/-- `text || null` -/
def orNull (text : String) : Option String := if text = "" then none else some text

def error (code message reference : String) (normalizedData : List (String × String)) :
    ImportRowProcessResult where
  createdResourceId := none
  errorCode := some code
  errorMessage := some message
  externalReference := some reference
  normalizedData := some normalizedData
  status := .error

def processed (status : ImportRowStatus) (id : Id) (reference : String)
    (normalizedData : List (String × String)) : ImportRowProcessResult where
  createdResourceId := some id
  errorCode := none
  errorMessage := none
  externalReference := some reference
  normalizedData := some normalizedData
  status := status

end Handlers

open Handlers

/-! ## Customers -/

structure CustomerData where
  city : String
  document : String
  email : String
  name : String
  phone : String
  postalCode : String
  state : String

namespace CustomerImportHandler

def readData (P : HandlerPlatform) (input : ImportRowProcessInput) : CustomerData where
  city := value input "city"
  document := onlyDigits (value input "document")
  email := normalizeEmail P.toImportPlatform (value input "email")
  name := value input "name"
  phone := onlyDigits (value input "phone")
  postalCode := onlyDigits (value input "postalCode")
  state := P.toUpperCase (value input "state")

def entries (data : CustomerData) : List (String × String) :=
  [("city", data.city), ("document", data.document), ("email", data.email), ("name", data.name),
    ("phone", data.phone), ("postalCode", data.postalCode), ("state", data.state)]

/-- The code and the message of what is wrong, if anything is. -/
def validateCustomer (data : CustomerData) : Option (String × String) :=
  if utf16Length data.name < 2 then some ("NAME_REQUIRED", "Nome obrigatorio.")
  else if isValidDocument data.document = false then
    some ("INVALID_DOCUMENT", "CPF/CNPJ invalido.")
  else if data.email ≠ "" ∧ isEmail data.email = false then
    some ("INVALID_EMAIL", "E-mail invalido.")
  else if data.postalCode ≠ "" ∧ utf16Length data.postalCode ≠ 8 then
    some ("INVALID_POSTAL_CODE", "CEP deve possuir 8 digitos.")
  else if data.state ≠ "" ∧ utf16Length data.state ≠ 2 then
    some ("INVALID_STATE", "Estado deve possuir UF com 2 letras.")
  else none

def updateInput (data : CustomerData) : CustomerUpdateInput where
  active := true
  email := orNull data.email
  name := data.name
  phone := orNull data.phone

def createInput (tenantId : Id) (data : CustomerData) : CustomerCreateInput where
  active := true
  document := data.document
  email := orNull data.email
  name := data.name
  phone := orNull data.phone
  tenantId := tenantId

/-- `text || substitute` -/
def orElse (text substitute : String) : String := if text = "" then substitute else text

def addressInput (tenantId customerId : Id) (data : CustomerData) : CustomerAddressCreateInput where
  active := true
  city := orElse data.city "Nao informado"
  country := "BR"
  customerId := customerId
  delivery := true
  main := true
  postalCode := orElse data.postalCode "00000000"
  state := orElse data.state "SP"
  street := "Endereco importado"
  tenantId := tenantId

/-- A row says something of the address. -/
def hasAddress (data : CustomerData) : Bool :=
  data.postalCode ≠ "" || data.city ≠ "" || data.state ≠ ""

/-- The part behind the checks, for a customer that was looked for. -/
def write (input : ImportRowProcessInput) (data : CustomerData) :
    Option CustomerRow → Program handlerInterface ImportRowProcessResult
  | some existing =>
      match input.duplicateStrategy with
      | .fail => pure (error "DUPLICATE_IN_TENANT" "Cliente ja existe neste tenant." data.document
          (entries data))
      | .skip => pure (processed .skipped existing.id data.document (entries data))
      | .update => do
          let customer ← query (.updateCustomer existing.id (updateInput data))
          pure (processed .success customer.id data.document (entries data))
  | none => do
      let customer ← query (.createCustomer (createInput input.tenantId data))
      if hasAddress data then do
        let _ ← query (.createCustomerAddress (addressInput input.tenantId customer.id data))
        pure (processed .success customer.id data.document (entries data))
      else pure (processed .success customer.id data.document (entries data))

def processRow (P : HandlerPlatform) (input : ImportRowProcessInput)
    (seenReferences : List String) :
    Program handlerInterface (ImportRowProcessResult × List String) :=
  let data := readData P input
  match validateCustomer data with
  | some (code, message) => pure (error code message data.document (entries data), seenReferences)
  | none =>
      if data.document ∈ seenReferences then
        pure (error "DUPLICATE_IN_FILE" "Documento duplicado dentro do arquivo." data.document
          (entries data), seenReferences)
      else do
        let existing ← query (.findCustomer data.document input.tenantId)
        let result ← write input data existing
        pure (result, data.document :: seenReferences)

end CustomerImportHandler

/-! ## Carriers -/

structure CarrierData where
  code : String
  contactName : String
  document : String
  email : String
  legalName : String
  name : String
  phone : String
  site : String

namespace CarrierImportHandler

def normalizeCode (P : HandlerPlatform) (input : String) : String :=
  String.ofList ((P.toUpperCase (trim input)).toList.filter isCodeChar)

def readData (P : HandlerPlatform) (input : ImportRowProcessInput) : CarrierData where
  code := normalizeCode P (value input "code")
  contactName := value input "contactName"
  document := onlyDigits (value input "document")
  email := normalizeEmail P.toImportPlatform (value input "email")
  legalName := value input "legalName"
  name := value input "name"
  phone := onlyDigits (value input "phone")
  site := value input "site"

def entries (data : CarrierData) : List (String × String) :=
  [("code", data.code), ("contactName", data.contactName), ("document", data.document),
    ("email", data.email), ("legalName", data.legalName), ("name", data.name),
    ("phone", data.phone), ("site", data.site)]

/-- The code and the message of what is wrong, if anything is. -/
def validateCarrier (data : CarrierData) : Option (String × String) :=
  if utf16Length data.name < 2 then some ("NAME_REQUIRED", "Nome obrigatorio.")
  else if utf16Length data.code < 2 then some ("CODE_REQUIRED", "Codigo obrigatorio.")
  else if data.document ≠ "" ∧ utf16Length data.document ≠ 14 then
    some ("INVALID_CNPJ", "CNPJ deve possuir 14 digitos.")
  else if data.email ≠ "" ∧ isEmail data.email = false then
    some ("INVALID_EMAIL", "E-mail invalido.")
  else if data.site ≠ "" ∧ isSite data.site = false then
    some ("INVALID_SITE", "Site deve iniciar com http:// ou https://.")
  else none

/-- `data.code || data.document` -/
def referenceOf (data : CarrierData) : String := if data.code = "" then data.document else data.code

def payload (tenantId : Id) (data : CarrierData) : CarrierCreateInput where
  active := true
  code := data.code
  contactName := orNull data.contactName
  document := orNull data.document
  email := orNull data.email
  legalName := orNull data.legalName
  name := data.name
  phone := orNull data.phone
  site := orNull data.site
  tenantId := tenantId

/-- The second look, by document. -/
def findByDocument (tenantId : Id) (data : CarrierData) :
    Program handlerInterface (Option CarrierRow) :=
  if data.document = "" then pure none else query (.findCarrierByDocument data.document tenantId)

def findExistingCarrier (tenantId : Id) (data : CarrierData) :
    Program handlerInterface (Option CarrierRow) :=
  if data.code = "" then findByDocument tenantId data
  else do
    match ← query (.findCarrierByCode data.code tenantId) with
    | some byCode => pure (some byCode)
    | none => findByDocument tenantId data

/-- The part behind the checks, for a carrier that was looked for. -/
def write (input : ImportRowProcessInput) (data : CarrierData) :
    Option CarrierRow → Program handlerInterface ImportRowProcessResult
  | some existing =>
      match input.duplicateStrategy with
      | .fail => pure (error "DUPLICATE_IN_TENANT" "Transportadora ja existe neste tenant."
          (referenceOf data) (entries data))
      | .skip => pure (processed .skipped existing.id (referenceOf data) (entries data))
      | .update => do
          let carrier ← query (.updateCarrier existing.id (payload input.tenantId data))
          pure (processed .success carrier.id (referenceOf data) (entries data))
  | none => do
      let carrier ← query (.createCarrier (payload input.tenantId data))
      pure (processed .success carrier.id (referenceOf data) (entries data))

def processRow (P : HandlerPlatform) (input : ImportRowProcessInput)
    (seenReferences : List String) :
    Program handlerInterface (ImportRowProcessResult × List String) :=
  let data := readData P input
  match validateCarrier data with
  | some (code, message) =>
      pure (error code message (referenceOf data) (entries data), seenReferences)
  | none =>
      if referenceOf data ∈ seenReferences then
        pure (error "DUPLICATE_IN_FILE" "Transportadora duplicada dentro do arquivo."
          (referenceOf data) (entries data), seenReferences)
      else do
        let existing ← findExistingCarrier input.tenantId data
        let result ← write input data existing
        pure (result, referenceOf data :: seenReferences)

end CarrierImportHandler

/-! ## A run over the rows -/

/-- The handler of a type. -/
def processRow (P : HandlerPlatform) : ImportType → ImportRowProcessInput → List String →
    Program handlerInterface (ImportRowProcessResult × List String)
  | .customers => CustomerImportHandler.processRow P
  | .carriers => CarrierImportHandler.processRow P

/-- What stays the same from row to row. -/
structure ImportSettings where
  type : ImportType
  tenantId : Id
  duplicateStrategy : ImportDuplicateStrategy
  mapping : List (String × String)

def ImportSettings.input (settings : ImportSettings) (row : ParsedImportRow) :
    ImportRowProcessInput :=
  ⟨settings.duplicateStrategy, settings.mapping, row, settings.tenantId⟩

/-- The row loop of `process`, uninterrupted, with what it does for the rows: the
results up to the first exception, which ends it. -/
def importRows (P : HandlerPlatform) (settings : ImportSettings) :
    List ParsedImportRow → List String → Program handlerInterface (List ImportRowProcessResult)
  | [], _ => pure []
  | row :: rest, seenReferences => do
      let outcome ← Program.tryCatch
        (some <$> processRow P settings.type (settings.input row) seenReferences) fun _ => pure none
      match outcome with
      | none => pure []
      | some (result, seenReferences) => do
          let results ← importRows P settings rest seenReferences
          pure (result :: results)

end Logistics.Imports
