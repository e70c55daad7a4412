import Logistics.Quoting.Service

/-!
# The list of quotes

`list` of the freight simulation service: one page of the quotes of a tenant, the
latest first. The lowest price it shows is the price of the first option when
these are ordered by price and deadline.
-/

namespace Logistics.Quoting

open Logistics.Library

structure ListFreightSimulationsDto where
  page : ℕ
  perPage : ℕ
  customerId : Option String
  originPostalCode : Option String
  destinationPostalCode : Option String
  startDate : Option String
  endDate : Option String

def ListFreightSimulationsDto.isValid (P : Platform) (query : ListFreightSimulationsDto) : Bool :=
  1 ≤ query.page && 1 ≤ query.perPage && query.perPage ≤ 100 &&
    query.customerId.all (hasLength 0 36) && query.originPostalCode.all (hasLength 0 16) &&
    query.destinationPostalCode.all (hasLength 0 16) && query.startDate.all P.isDateString &&
    query.endDate.all P.isDateString

structure FreightSimulationWhereInput where
  tenantId : Id
  customerId : Option Id
  originPostalCode : Option String
  destinationPostalCode : Option String
  /-- The bounds of `createdAt`. -/
  gte : Option Time
  lte : Option Time

def FreightSimulationWhereInput.holds (filter : FreightSimulationWhereInput)
    (row : FreightSimulation) : Bool :=
  row.tenantId == filter.tenantId && filter.customerId.all (fun id => row.customerId == some id) &&
    filter.originPostalCode.all (fun code => row.originPostalCode == code) &&
    filter.destinationPostalCode.all (fun code => row.destinationPostalCode == code) &&
    filter.gte.all (fun time => time ≤ row.createdAt) &&
    filter.lte.all fun time => row.createdAt ≤ time

/-- A simulation with its customer and its options in order. -/
structure ListedSimulation where
  simulation : FreightSimulation
  customer : Option Customer
  options : List FreightSimulationOption

structure FreightSimulationListItemDto where
  cargoValue : Fixed 2
  createdAt : Time
  customerName : Option String
  destinationPostalCode : String
  id : Id
  lowestPrice : Option (Fixed 2)
  optionCount : ℕ
  originPostalCode : String
  selectedOption : Option Id
  status : FreightSimulationStatus

structure PaginationMeta where
  page : ℕ
  perPage : ℕ
  total : ℕ
  totalPages : ℕ

structure PaginatedResult (α : Type) where
  data : List α
  paginationMeta : PaginationMeta

/-! ## Calls -/

/-- The transaction of `list`: one page of the simulations and their number. -/
inductive ListCommand
  | findPage (filter : FreightSimulationWhereInput) (skip take : ℕ)

@[reducible] def ListCommand.Result : ListCommand → Type
  | .findPage .. => List ListedSimulation × ℕ

@[reducible] def listInterface : Interface := ⟨ListCommand, ListCommand.Result, ServiceError⟩

def sortedOptions (s : Store) (tie : Id → ℕ) (simulationId : Id) :
    List FreightSimulationOption :=
  (s.freightSimulationOptions.rows.filter fun row =>
    row.simulationId == simulationId).insertionSort (optionLE tie)

def listedSimulation (s : Store) (tie : Id → ℕ) (simulation : FreightSimulation) :
    ListedSimulation where
  simulation := simulation
  customer := simulation.customerId.bind fun id => s.customers.rows.find? fun row => row.id == id
  options := sortedOptions s tie simulation.id

/-- `orderBy: [{ createdAt: 'desc' }, { id: 'desc' }]` -/
def laterLE (P : Platform) (a b : FreightSimulation) : Bool :=
  if a.createdAt = b.createdAt then P.collationLE b.id a.id else b.createdAt < a.createdAt

def executeList (P : Platform) : (c : ListCommand) → Input → Store →
    Response listInterface c × Store
  | .findPage filter skip take, input, s =>
      let simulations := s.freightSimulations.rows.filter filter.holds
      if input.fault then (.error .fault, s)
      else (.ok ((((simulations.insertionSort fun a b => laterLE P a b).drop skip).take take).map
        (listedSimulation s input.tie), simulations.length), s)

/-! ## The operation -/

/-- An instant that the query asks for; a text that makes none is refused by the
database client. -/
def parseInstant (P : Platform) (date : Option String) (clock : String) :
    Except ServiceError (Option Time) :=
  match truthy date with
  | none => pure none
  | some text =>
      match P.parseDate (text ++ clock) with
      | some time => pure (some time)
      | none => throw .fault

def whereInput (P : Platform) (tenantId : Id) (query : ListFreightSimulationsDto) :
    Except ServiceError FreightSimulationWhereInput := do
  let originPostalCode ← normalizeBound query.originPostalCode
  let destinationPostalCode ← normalizeBound query.destinationPostalCode
  let gte ← parseInstant P query.startDate "T00:00:00.000Z"
  let lte ← parseInstant P query.endDate "T23:59:59.999Z"
  pure {
    tenantId
    customerId := truthy query.customerId
    originPostalCode, destinationPostalCode, gte, lte }

def presentListItem (record : ListedSimulation) : FreightSimulationListItemDto where
  cargoValue := record.simulation.cargoValue
  createdAt := record.simulation.createdAt
  customerName := record.customer.map Customer.name
  destinationPostalCode := record.simulation.destinationPostalCode
  id := record.simulation.id
  lowestPrice := record.options.head?.map FreightSimulationOption.totalPrice
  optionCount := record.options.length
  originPostalCode := record.simulation.originPostalCode
  selectedOption := (record.options.find? fun option => option.selected).map
    FreightSimulationOption.id
  status := record.simulation.status

def list (P : Platform) (tenantId : Id) (query : ListFreightSimulationsDto) :
    Program listInterface (PaginatedResult FreightSimulationListItemDto) := do
  let filter ← Program.ofExcept (whereInput P tenantId query)
  let page ← @Program.perform listInterface
    (.findPage filter ((query.page - 1) * query.perPage) query.perPage)
  pure {
    data := page.1.map presentListItem
    paginationMeta := {
      page := query.page
      perPage := query.perPage
      total := page.2
      totalPages := (page.2 + query.perPage - 1) / query.perPage } }

/-! ## The lowest price -/

instance (tie : Id → ℕ) : Std.Total (optionLE tie) where
  total a b := by
    unfold optionLE
    rcases lt_trichotomy a.totalPrice.val b.totalPrice.val with h | h | h
    · exact .inl (.inl h)
    · rcases lt_trichotomy a.deadlineDays b.deadlineDays with h' | h' | h'
      · exact .inl (.inr ⟨h, .inl h'⟩)
      · rcases le_total (tie a.id) (tie b.id) with htie | htie
        · exact .inl (.inr ⟨h, .inr ⟨h', htie⟩⟩)
        · exact .inr (.inr ⟨h.symm, .inr ⟨h'.symm, htie⟩⟩)
      · exact .inr (.inr ⟨h.symm, .inl h'⟩)
    · exact .inr (.inl h)

instance (tie : Id → ℕ) : IsTrans FreightSimulationOption (optionLE tie) where
  trans a b c hab hbc := by
    unfold optionLE at hab hbc ⊢
    rcases hab with hab | ⟨hab, hab'⟩
    · rcases hbc with hbc | ⟨hbc, -⟩
      · exact .inl (hab.trans hbc)
      · exact .inl (hbc ▸ hab)
    · rcases hbc with hbc | ⟨hbc, hbc'⟩
      · exact .inl (hab ▸ hbc)
      · refine .inr ⟨hab.trans hbc, ?_⟩
        rcases hab' with hab' | ⟨hab', htie⟩
        · rcases hbc' with hbc' | ⟨hbc', -⟩
          · exact .inl (hab'.trans hbc')
          · exact .inl (hbc' ▸ hab')
        · rcases hbc' with hbc' | ⟨hbc', htie'⟩
          · exact .inl (hab' ▸ hbc')
          · exact .inr ⟨hab'.trans hbc', htie.trans htie'⟩

/-- The first option in order is one with the lowest price. -/
theorem head?_sortedOptions {s : Store} {tie : Id → ℕ} {simulationId : Id}
    {option : FreightSimulationOption} (hoption : option ∈ s.freightSimulationOptions.rows)
    (hof : option.simulationId = simulationId)
    (hlowest : ∀ other ∈ s.freightSimulationOptions.rows, other.simulationId = simulationId →
      option.totalPrice.val ≤ other.totalPrice.val) :
    (sortedOptions s tie simulationId).head?.map FreightSimulationOption.totalPrice =
      some option.totalPrice := by
  have hmem : ∀ row, row ∈ sortedOptions s tie simulationId ↔
      row ∈ s.freightSimulationOptions.rows ∧ row.simulationId = simulationId := by
    intro row
    rw [sortedOptions, List.mem_insertionSort, List.mem_filter, beq_iff_eq]
  have hsorted : (sortedOptions s tie simulationId).Pairwise (optionLE tie) :=
    List.pairwise_insertionSort _ _
  have hin := (hmem option).mpr ⟨hoption, hof⟩
  cases hrows : sortedOptions s tie simulationId with
  | nil =>
      rw [hrows] at hin
      cases hin
  | cons first rest =>
      rw [hrows] at hin hsorted
      have hfirst := (hmem first).mp (hrows ▸ List.mem_cons_self)
      have hle : first.totalPrice.val ≤ option.totalPrice.val := by
        rcases List.mem_cons.mp hin with rfl | hrest
        · exact le_rfl
        · rcases (List.pairwise_cons.mp hsorted).1 option hrest with hlt | ⟨heq, -⟩
          · exact hlt.le
          · exact heq.le
      have heq : first.totalPrice = option.totalPrice :=
        Subtype.ext (le_antisymm hle (hlowest first hfirst.1 hfirst.2))
      rw [List.head?_cons, Option.map_some, heq]

theorem simulation_of_item {P : Platform} {tenantId : Id} {query : ListFreightSimulationsDto}
    {ω : ℕ → Input} {s s' : Store} {page : PaginatedResult FreightSimulationListItemDto}
    (h : (list P tenantId query).run (executeList P) ω s = (.ok page, s'))
    {item : FreightSimulationListItemDto} (hitem : item ∈ page.data) :
    ∃ simulation ∈ s.freightSimulations.rows,
      item = presentListItem (listedSimulation s (ω 0).tie simulation) := by
  obtain ⟨filter, -, h⟩ := Program.run_ofExcept_bind_eq_ok_iff.mp h
  obtain ⟨found, s₁, hfound, h⟩ := Program.run_perform_bind_eq_ok_iff.mp h
  cases h
  by_cases hfault : (ω 0).fault = true
  · simp [executeList, hfault] at hfound
  · simp only [executeList, hfault, if_false, Bool.false_eq_true, Prod.mk.injEq,
      Except.ok.injEq] at hfound
    obtain ⟨rfl, -⟩ := hfound
    obtain ⟨record, hrecord, rfl⟩ := List.mem_map.mp hitem
    obtain ⟨simulation, hsimulation, rfl⟩ := List.mem_map.mp hrecord
    have hsorted := List.mem_of_mem_drop (List.mem_of_mem_take hsimulation)
    rw [List.mem_insertionSort] at hsorted
    exact ⟨simulation, List.mem_of_mem_filter hsorted, rfl⟩

end Logistics.Quoting
