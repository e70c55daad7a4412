import Logistics.Auth.Users
import Logistics.Quoting.Request

/-!
# Administering branches

`create`, `update` and `updateStatus` of the branches service, beside the
identity services, whose registration stores the first main branch of a tenant.
Making a branch the main one clears the old one first, in a call of its own.
-/

namespace Logistics.Branches

open Logistics.Library Logistics.Auth

variable [Collation]

structure CreateBranchDto where
  name : String
  code : String
  postalCode : Option String
  email : Option String
  phone : Option String
  complement : Option String
  country : Option String
  active : Option Bool
  street : Option String
  number : Option String
  district : Option String
  city : Option String
  state : Option String
  main : Option Bool

/-- The checks of the validators; what makes an address of mail is a parameter. -/
def CreateBranchDto.isValid (isEmail : String → Bool) (input : CreateBranchDto) : Bool :=
  Quoting.hasLength 2 120 input.name && Quoting.hasLength 2 40 input.code &&
    input.postalCode.all (Quoting.hasLength 0 16) &&
    input.email.all (fun email => isEmail email && Quoting.hasLength 0 180 email) &&
    input.phone.all (Quoting.hasLength 0 40) && input.complement.all (Quoting.hasLength 0 120) &&
    input.country.all (Quoting.hasLength 0 2) && input.street.all (Quoting.hasLength 0 160) &&
    input.number.all (Quoting.hasLength 0 40) && input.district.all (Quoting.hasLength 0 120) &&
    input.city.all (Quoting.hasLength 0 120) && input.state.all (Quoting.hasLength 2 2)

structure BranchDto where
  active : Bool
  city : Option String
  code : String
  id : Id
  main : Bool
  name : String
  postalCode : Option String
  state : Option String
  street : Option String
  number : Option String
  district : Option String
  email : Option String
  phone : Option String
  complement : Option String
  country : String
  createdAt : Time
  updatedAt : Time

def presentBranch (branch : Branch) : BranchDto where
  active := branch.active
  city := branch.city
  code := branch.code
  id := branch.id
  main := branch.main
  name := branch.name
  postalCode := branch.postalCode
  state := branch.state
  street := branch.street
  number := branch.number
  district := branch.district
  email := branch.email
  phone := branch.phone
  complement := branch.complement
  country := branch.country
  createdAt := branch.createdAt
  updatedAt := branch.updatedAt

/-! ## What is written -/

/-- The columns that a request sets. -/
structure BranchData where
  name : String
  code : String
  postalCode : Option String
  street : Option String
  number : Option String
  complement : Option String
  district : Option String
  city : Option String
  state : Option String
  country : String
  email : Option String
  phone : Option String
  main : Bool
  active : Bool

def normalizePostalCode (value : Option String) : Option String :=
  present (value.map fun text => String.ofList (text.toList.filter Char.isDigit))

def normalizeOptional (value : Option String) : Option String :=
  present (value.map trim)

def normalizeState (P : Platform) (value : Option String) : Option String :=
  present (value.map fun text => P.toUpperCase (trim text))

def branchData (P : Platform) (input : CreateBranchDto) (active : Bool) : BranchData where
  name := trim input.name
  code := trim input.code
  postalCode := normalizePostalCode input.postalCode
  street := normalizeOptional input.street
  number := normalizeOptional input.number
  complement := normalizeOptional input.complement
  district := normalizeOptional input.district
  city := normalizeOptional input.city
  state := normalizeState P input.state
  country := (normalizeState P input.country).getD "BR"
  email := normalizeOptional input.email
  phone := normalizeOptional input.phone
  main := input.main.getD false
  active := active

def BranchData.apply (data : BranchData) (now : Time) (row : Branch) : Branch where
  id := row.id
  tenantId := row.tenantId
  name := data.name
  code := data.code
  postalCode := data.postalCode
  street := data.street
  number := data.number
  complement := data.complement
  district := data.district
  city := data.city
  state := data.state
  country := data.country
  email := data.email
  phone := data.phone
  main := data.main
  active := data.active
  createdAt := row.createdAt
  updatedAt := now

def branchRow (input : AuthInput) (tenantId : Id) (data : BranchData) : Branch where
  id := input.ids 0
  tenantId := tenantId
  name := data.name
  code := data.code
  postalCode := data.postalCode
  street := data.street
  number := data.number
  complement := data.complement
  district := data.district
  city := data.city
  state := data.state
  country := data.country
  email := data.email
  phone := data.phone
  main := data.main
  active := data.active
  createdAt := input.now
  updatedAt := input.now

/-- The columns hold the texts. The validators see to most of them; an upper case state or
country may be longer than the one that was given. -/
def BranchData.fits (data : BranchData) : Bool :=
  fitsColumn 120 data.name && fitsColumn 40 data.code && data.postalCode.all (fitsColumn 16) &&
    data.street.all (fitsColumn 160) && data.number.all (fitsColumn 40) &&
    data.complement.all (fitsColumn 120) && data.district.all (fitsColumn 120) &&
    data.city.all (fitsColumn 120) && data.state.all (fitsColumn 2) &&
    fitsColumn 2 data.country && data.email.all (fitsColumn 180) && data.phone.all (fitsColumn 40)

/-! ## Calls -/

inductive BranchCommand
  | findBranch (id tenantId : Id)
  /-- The main branches of a tenant, save one, are main no longer. -/
  | clearMain (tenantId : Id) (except : Option Id)
  | createBranch (tenantId : Id) (data : BranchData)
  | updateBranch (id : Id) (data : BranchData)
  | setActive (id : Id) (active : Bool)

@[reducible] def BranchCommand.Result : BranchCommand → Type
  | .findBranch .. => Option Branch
  | .clearMain .. => Unit
  | .createBranch .. | .updateBranch .. | .setActive .. => Branch

@[reducible] def branchInterface : Interface :=
  authInterface.extend BranchCommand BranchCommand.Result

abbrev call (c : BranchCommand) : Program branchInterface c.Result :=
  @Program.perform branchInterface (.inr c)

def isMainOf (tenantId : Id) (except : Option Id) (row : Branch) : Bool :=
  row.tenantId == tenantId && row.main && except.all fun id => row.id != id

def clear (now : Time) (row : Branch) : Branch :=
  { row with main := false, updatedAt := now }

def clearMain (s : AuthStore) (now : Time) (tenantId : Id) (except : Option Id) : AuthStore :=
  { s with branches := s.branches.modify (isMainOf tenantId except) (clear now) fun _ => rfl }

def answer : (c : BranchCommand) → AuthInput → AuthStore →
    Except ServiceError c.Result × AuthStore
  | .findBranch id tenantId, _, s =>
      (.ok (s.branches.rows.find? fun row => row.id == id && row.tenantId == tenantId), s)
  | .clearMain tenantId except, input, s => (.ok (), clearMain s input.now tenantId except)
  | .createBranch tenantId data, input, s =>
      let row := branchRow input tenantId data
      -- the columns, and the foreign key of the tenant
      if data.fits && s.tenants.rows.any fun tenant => tenant.id == tenantId then
        match s.branches.tryInsert row with
        | some branches => (.ok row, { s with branches })
        | none => (.error .uniqueViolation, s)
      else (.error .fault, s)
  | .updateBranch id data, input, s =>
      match s.branches.rows.find? fun row => row.id == id with
      | none => (.error .recordNotFound, s)
      | some row =>
          if data.fits then
            match s.branches.tryUpdate (fun row => row.id == id) (data.apply input.now) with
            | some branches => (.ok (data.apply input.now row), { s with branches })
            | none => (.error .uniqueViolation, s)
          else (.error .fault, s)
  | .setActive id active, input, s =>
      let set := fun row : Branch => { row with active, updatedAt := input.now }
      match s.branches.rows.find? fun row => row.id == id with
      | none => (.error .recordNotFound, s)
      | some row =>
          (.ok (set row),
            { s with branches := s.branches.modify (fun row => row.id == id) set fun _ => rfl })

/-- Any call may be broken off by the database. -/
def executeBranches (c : BranchCommand) (input : AuthInput) (s : AuthStore) :
    Except ServiceError c.Result × AuthStore :=
  if input.fault then (.error .fault, s) else answer c input s

/-! ## Operations -/

def branchNotFound : ServiceError := .notFound "Branch was not found."

def create (P : Platform) (tenantId : Id) (input : CreateBranchDto) :
    Program branchInterface BranchDto := do
  if input.main = some true then call (.clearMain tenantId none)
  let branch ← call (.createBranch tenantId (branchData P input (input.active.getD true)))
  pure (presentBranch branch)

def recordChange (tenantId actorId id : Id) (operation : String) :
    Program branchInterface Unit :=
  (recordAudit (auditRecord .adminOperation (some actorId) (some id) (some "Branch")
    [("operation", some operation)] (some tenantId))).lift

def update (P : Platform) (tenantId actorId id : Id) (input : CreateBranchDto) :
    Program branchInterface BranchDto := do
  let some current ← call (.findBranch id tenantId) | throw branchNotFound
  if input.main = some true then call (.clearMain tenantId (some id))
  let branch ← call (.updateBranch id
    (branchData P input (input.active.getD current.active)))
  recordChange tenantId actorId id "update"
  pure (presentBranch branch)

def updateStatus (tenantId actorId id : Id) (active : Bool) :
    Program branchInterface BranchDto := do
  let some branch ← call (.findBranch id tenantId) | throw branchNotFound
  Program.throwIf (active = false ∧ branch.main = true)
    (.notFound "Defina outra filial principal antes de desativar esta filial.")
  let updated ← call (.setActive id active)
  recordChange tenantId actorId id (if active then "activate" else "deactivate")
  pure (presentBranch updated)

inductive Request
  /-- A request to the identity services, among them `registerTenant`. -/
  | identity (r : Auth.Request)
  | create (tenantId : Id) (input : CreateBranchDto)
  | update (tenantId actorId id : Id) (input : CreateBranchDto)
  | updateStatus (tenantId actorId id : Id) (active : Bool)

inductive Reply
  | identity (reply : Auth.Reply)
  | branch (branch : BranchDto)

def handle (P : Platform) : Request → Program branchInterface Reply
  | .identity r => Reply.identity <$> (Auth.handle P r).lift
  | .create tenantId input => Reply.branch <$> create P tenantId input
  | .update tenantId actorId id input =>
      Reply.branch <$> update P tenantId actorId id input
  | .updateStatus tenantId actorId id active =>
      Reply.branch <$> updateStatus tenantId actorId id active

def branchSystem (P : Platform) :
    System branchInterface Request Reply AuthInput AuthStore :=
  ⟨Backend.extend execute executeBranches, handle P⟩

end Logistics.Branches
