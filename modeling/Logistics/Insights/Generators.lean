import Logistics.Insights.Schema

/-!
# The insight generators

`CostInsightsGenerator` and `PerformanceInsightsGenerator`: each rule reads the rows of
a tenant in the period and makes candidates of them. Rows are grouped in the order in
which their keys are first met. Where a query asks for no order, the database has its
own (`tie`).
-/

namespace Logistics.Insights

open Logistics.Library

/-- The rows a rule reads for a tenant, and how the runtime writes money. -/
structure GeneratorInput where
  period : Dashboard.InsightGenerationPeriod
  tenantId : Id
  now : Time
  tie : Id → ℕ
  formatMoney : Float → String

def GeneratorInput.current (input : GeneratorInput) : Dashboard.DateTimeFilter :=
  ⟨input.period.currentStart, input.period.currentEnd⟩

def GeneratorInput.previous (input : GeneratorInput) : Dashboard.DateTimeFilter :=
  ⟨input.period.previousStart, input.period.previousEnd⟩

/-! ## Queries -/

section Queries

variable (s : InsightSources) (input : GeneratorInput)

def anyOrder {α : Type} (tie : Id → ℕ) (id : α → Id) (rows : List α) : List α :=
  rows.insertionSort fun a b => tie (id a) ≤ tie (id b)

def simulationsIn (range : Dashboard.DateTimeFilter) : List Dashboard.FreightSimulation :=
  s.freightSimulations.filter fun row =>
    range.holds row.createdAt && row.tenantId == input.tenantId

def optionsIn (range : Dashboard.DateTimeFilter) : List Dashboard.FreightSimulationOption :=
  s.freightSimulationOptions.filter fun row =>
    range.holds row.createdAt && row.tenantId == input.tenantId

/-- `take: 1000`, in no order. -/
def thousandSimulations (rows : List Dashboard.FreightSimulation) :
    List Dashboard.FreightSimulation :=
  (anyOrder input.tie Dashboard.FreightSimulation.id rows).take 1000

def thousandOptions (rows : List Dashboard.FreightSimulationOption) :
    List Dashboard.FreightSimulationOption :=
  (anyOrder input.tie Dashboard.FreightSimulationOption.id rows).take 1000

end Queries

/-! ## Groups -/

structure Sum where
  count : ℕ
  sum : Float

def Sum.average (sum : Sum) : Float := sum.sum / .ofNat sum.count

structure Group where
  average : Float
  count : ℕ
  key : String
  label : String

/-- `aggregate` and `group`: the average of each key, under the label met first. -/
def aggregate {α : Type} (items : List α) (key : α → String) (value : α → Float)
    (label : α → String) : List Group :=
  (items.foldl (fun map item => Dashboard.adjust map (key item) (label item, ⟨0, 0⟩)
    fun current : String × Sum => (current.1, ⟨current.2.count + 1, current.2.sum + value item⟩))
      []).map fun entry => ⟨entry.2.2.average, entry.2.2.count, entry.1, entry.2.1⟩

structure Count where
  count : ℕ
  key : String
  label : String

def countBy {α : Type} (items : List α) (key label : α → String) : List Count :=
  (items.foldl (fun map item => Dashboard.adjust map (key item) (label item, 0)
    fun current : String × ℕ => (current.1, current.2 + 1)) []).map fun entry =>
      ⟨entry.2.2, entry.1, entry.2.1⟩

/-- `sort((a, b) => b.count - a.count)[0]` -/
def mostFrequent (counts : List Count) : Option Count :=
  (counts.insertionSort fun a b => b.count ≤ a.count).head?

/-- The group with the lowest average among those of two or more. -/
def lowestAverage (groups : List Group) : Option Group :=
  ((groups.filter fun group => 2 ≤ group.count).insertionSort fun a b =>
    a.average ≤ b.average).head?

def topKey (counts : List (String × ℕ)) : Option String :=
  ((counts.insertionSort fun a b => b.2 ≤ a.2).head?).map Prod.fst

def nameOrNull : Option String → EvidenceValue
  | some name => .text name
  | none => .null

def figure (value : Float) : EvidenceValue := .number value

def countFigure (count : ℕ) : EvidenceValue := .number (.ofNat count)

def route (simulation : Dashboard.FreightSimulation) : String :=
  simulation.originPostalCode ++ "->" ++ simulation.destinationPostalCode

/-! ## Costs -/

structure Savings where
  occurrences : ℕ
  potentialSavings : Float
  selectedByCarrier : List (String × ℕ)
  cheaperByCarrier : List (String × ℕ)

def cheapestOption (options : List Dashboard.FreightSimulationOption) :
    Option Dashboard.FreightSimulationOption :=
  options.foldl (fun best option =>
    match best with
    | none => some option
    | some other =>
        if option.totalPrice.val < other.totalPrice.val then some option else some other) none

/-- The loop of `savingsOpportunity` for the options of one simulation. -/
def Savings.add (savings : Savings) (options : List Dashboard.FreightSimulationOption) :
    Savings :=
  match options.find? fun option => option.selected, cheapestOption options with
  | some selected, some cheapest =>
      if selected.id = cheapest.id ∨ selected.totalPrice.val ≤ cheapest.totalPrice.val then savings
      else {
        occurrences := savings.occurrences + 1
        potentialSavings :=
          savings.potentialSavings + toNumber (selected.totalPrice.val - cheapest.totalPrice.val)
        selectedByCarrier :=
          Dashboard.adjust savings.selectedByCarrier selected.carrierName 0 (· + 1)
        cheaperByCarrier :=
          Dashboard.adjust savings.cheaperByCarrier cheapest.carrierName 0 (· + 1) }
  | _, _ => savings

structure RouteAverage where
  average : Float
  count : ℕ
  route : String
  deriving DecidableEq

/-- What is compared of a route in the two periods. -/
structure RouteIncrease where
  current : RouteAverage
  prior : RouteAverage
  change : Float
  deriving DecidableEq

structure RoutePrices where
  route : String
  values : List Float
  deriving DecidableEq

def RoutePrices.average (prices : RoutePrices) : Float :=
  prices.values.foldl (· + ·) 0 / .ofNat prices.values.length

def RoutePrices.high (prices : RoutePrices) : List Float :=
  prices.values.filter fun value => prices.average * 1.35 < value

section Cost

variable (s : InsightSources) (input : GeneratorInput)

def savingsOpportunity : List InsightCandidate :=
  let simulations := (Dashboard.latest Dashboard.FreightSimulation.createdAt
    Dashboard.FreightSimulation.id input.tie (simulationsIn s input input.current)).take 500
  let savings := simulations.foldl (fun savings simulation => savings.add
    (anyOrder input.tie Dashboard.FreightSimulationOption.id
      (s.freightSimulationOptions.filter fun row => row.simulationId == simulation.id)))
    (⟨0, 0, [], []⟩ : Savings)
  if savings.occurrences < 2 ∨ savings.potentialSavings ≤ 0 then []
  else [{
    actionUrl := some "/freight/history"
    category := .cost
    comparisonValue := none
    description := "Em " ++ toString savings.occurrences ++ " simulacoes, a opcao selecionada " ++
      "nao foi a mais barata. A economia potencial estimada no periodo e " ++
      input.formatMoney savings.potentialSavings ++ "."
    evidence := [("cheaperCarrier", nameOrNull (topKey savings.cheaperByCarrier)),
      ("occurrences", countFigure savings.occurrences),
      ("selectedCarrier", nameOrNull (topKey savings.selectedByCarrier))]
    metricValue := some (round savings.potentialSavings)
    percentageChange := none
    resourceId := none
    resourceType := some "FreightSimulation"
    severity := .opportunity
    title := "Economia potencial em opcoes nao selecionadas"
    type := "COST_SAVINGS_NOT_SELECTED" }]

def routeAverages (range : Dashboard.DateTimeFilter) : List RouteAverage :=
  ((thousandSimulations input ((simulationsIn s input range).filter fun row =>
    row.estimatedPrice.isSome)).foldl (fun map simulation =>
      Dashboard.adjust map (route simulation) ⟨0, 0⟩ fun current : Sum =>
        ⟨current.count + 1,
          current.sum + (simulation.estimatedPrice.map fun price => toNumber price.val).getD 0⟩)
      []).map fun entry => ⟨entry.2.average, entry.2.count, entry.1⟩

def percentageChange (current previous : Float) : Float :=
  if previous == 0 then 0 else (current - previous) / previous * 100

/-- The route with its average before, when that rose by 15% or more. -/
def increaseOf (previous : List RouteAverage) (current : RouteAverage) : Option RouteIncrease := do
  let prior ← previous.find? fun item => item.route == current.route
  if current.count < 2 ∨ prior.count < 2 ∨ current.average ≤ prior.average then none
  else
    let change := percentageChange current.average prior.average
    if change < 15 then none else some ⟨current, prior, change⟩

/-- The routes that are reported, at most five. -/
def routeIncreases : List RouteIncrease :=
  ((routeAverages s input input.current).filterMap
    (increaseOf (routeAverages s input input.previous))).take 5

/-- The averages and counts of the evidence, which come before the route. -/
def RouteIncrease.measures (increase : RouteIncrease) : Evidence :=
  [("currentAverage", figure (round increase.current.average)),
    ("currentCount", countFigure increase.current.count),
    ("previousAverage", figure (round increase.prior.average)),
    ("previousCount", countFigure increase.prior.count)]

def RouteIncrease.candidate (increase : RouteIncrease) : InsightCandidate where
  actionUrl := some "/freight/history"
  category := .cost
  comparisonValue := some (round increase.prior.average)
  description := "A rota " ++ increase.current.route ++ " teve aumento de " ++
    decimalText (round increase.change) ++ "% no custo medio em relacao ao periodo anterior."
  evidence := increase.measures ++ [("route", .text increase.current.route)]
  metricValue := some (round increase.current.average)
  percentageChange := some (round increase.change)
  resourceId := none
  resourceType := some "Route"
  severity := if increase.change ≥ 30 then .warning else .info
  title := "Custo medio subiu na rota " ++ increase.current.route
  type := "ROUTE_COST_INCREASE"

def routeCostIncrease : List InsightCandidate :=
  (routeIncreases s input).map RouteIncrease.candidate

def cheapestCarrier : List InsightCandidate :=
  match lowestAverage (aggregate (thousandOptions input (optionsIn s input input.current))
    Dashboard.FreightSimulationOption.carrierId (fun option => toNumber option.totalPrice.val)
    Dashboard.FreightSimulationOption.carrierName) with
  | none => []
  | some best => [{
      actionUrl := some "/freight/simulate"
      category := .cost
      comparisonValue := none
      description := best.label ++ " apresentou o menor preco medio entre transportadoras " ++
        "com volume minimo no periodo (" ++ input.formatMoney best.average ++ ")."
      evidence := [("averagePrice", figure (round best.average)),
        ("carrierName", .text best.label), ("optionCount", countFigure best.count)]
      metricValue := some (round best.average)
      percentageChange := none
      resourceId := some best.key
      resourceType := some "Carrier"
      severity := .opportunity
      title := best.label ++ " e a transportadora mais economica no periodo"
      type := "CHEAPEST_CARRIER" }]

/-- The prices of the options with the routes of their simulations. -/
def pricedRoutes : List (String × Float) :=
  (thousandOptions input (optionsIn s input input.current)).filterMap fun option =>
    (s.freightSimulations.find? fun row => row.id == option.simulationId).map fun simulation =>
      (route simulation, toNumber option.totalPrice.val)

def pricesByRoute : List RoutePrices :=
  ((pricedRoutes s input).foldl (fun map priced => Dashboard.adjust map priced.1 [] fun values =>
    values ++ [priced.2]) []).map fun entry => ⟨entry.1, entry.2⟩

/-- The routes that are reported, at most three. -/
def routeOutliers : List RoutePrices :=
  ((pricesByRoute s input).filter fun prices =>
    4 ≤ prices.values.length && prices.high.length ≠ 0).take 3

def RoutePrices.measures (prices : RoutePrices) : Evidence :=
  [("average", figure (round prices.average)), ("outliers", countFigure prices.high.length)]

def RoutePrices.threshold (prices : RoutePrices) : Evidence :=
  [("threshold", figure (round (prices.average * 1.35)))]

def RoutePrices.candidate (prices : RoutePrices) : InsightCandidate where
  actionUrl := some "/freight/history"
  category := .cost
  comparisonValue := none
  description := toString prices.high.length ++ " opcao(oes) da rota " ++ prices.route ++
    " ficaram mais de 35% acima da media da rota."
  evidence := prices.measures ++ ("route", .text prices.route) :: prices.threshold
  metricValue := some (.ofNat prices.high.length)
  percentageChange := none
  resourceId := none
  resourceType := some "Route"
  severity := .warning
  title := "Fretes fora do padrao na rota " ++ prices.route
  type := "FREIGHT_PRICE_OUTLIER"

def freightOutliers : List InsightCandidate :=
  (routeOutliers s input).map RoutePrices.candidate

/-- `CostInsightsGenerator.generate` -/
def costInsights : List InsightCandidate :=
  savingsOpportunity s input ++ routeCostIncrease s input ++ cheapestCarrier s input ++
    freightOutliers s input

end Cost

/-! ## Performance -/

section Performance

variable (s : InsightSources) (input : GeneratorInput)

def fastestCarrier : List InsightCandidate :=
  match lowestAverage (aggregate (thousandOptions input (optionsIn s input input.current))
    Dashboard.FreightSimulationOption.carrierId (fun option => .ofInt option.deadlineDays)
    Dashboard.FreightSimulationOption.carrierName) with
  | none => []
  | some best => [{
      actionUrl := some "/freight/simulate"
      category := .deadline
      comparisonValue := none
      description := best.label ++ " apresentou o menor prazo medio ofertado (" ++
        decimalText (round best.average) ++ " dia(s)) no periodo."
      evidence := [("averageDeadlineDays", figure (round best.average)),
        ("carrierName", .text best.label), ("optionCount", countFigure best.count)]
      metricValue := some (round best.average)
      percentageChange := none
      resourceId := some best.key
      resourceType := some "Carrier"
      severity := .info
      title := best.label ++ " lidera em prazo medio"
      type := "FASTEST_CARRIER" }]

def carrierDependency : List InsightCandidate :=
  let selected := thousandOptions input ((optionsIn s input input.current).filter fun row =>
    row.selected)
  if selected.length < 4 then []
  else
    match mostFrequent (countBy selected Dashboard.FreightSimulationOption.carrierId
      Dashboard.FreightSimulationOption.carrierName) with
    | none => []
    | some top =>
        let share := Float.ofNat top.count / .ofNat selected.length * 100
        if share < 65 then []
        else [{
          actionUrl := some "/freight/history"
          category := .carrier
          comparisonValue := none
          description := decimalText (round share) ++ "% das opcoes selecionadas estao " ++
            "concentradas em " ++ top.label ++
            ". Avalie alternativas para reduzir dependencia operacional."
          evidence := [("carrierName", .text top.label),
            ("selectedCount", countFigure top.count), ("share", figure (round share)),
            ("totalSelected", countFigure selected.length)]
          metricValue := some (round share)
          percentageChange := none
          resourceId := some top.key
          resourceType := some "Carrier"
          severity := if share ≥ 80 then .warning else .info
          title := "Dependencia elevada de " ++ top.label
          type := "CARRIER_DEPENDENCY" }]

def routeConcentration : List InsightCandidate :=
  let simulations := thousandSimulations input (simulationsIn s input input.current)
  match mostFrequent (countBy simulations route route) with
  | none => []
  | some top =>
      if top.count < 3 then []
      else [{
        actionUrl := some "/freight/history"
        category := .route
        comparisonValue := none
        description := "A rota " ++ top.label ++ " concentrou " ++ toString top.count ++
          " simulacoes no periodo. Use esse volume para negociar tabela dedicada."
        evidence := [("route", .text top.label), ("simulationCount", countFigure top.count),
          ("totalSimulations", countFigure simulations.length)]
        metricValue := some (.ofNat top.count)
        percentageChange := none
        resourceId := none
        resourceType := some "Route"
        severity := .opportunity
        title := "Rota recorrente com potencial de negociacao"
        type := "ROUTE_NEGOTIATION_POTENTIAL" }]

def customerName (simulation : Dashboard.FreightSimulation) : String :=
  ((simulation.customerId.bind fun id => s.customers.find? fun row => row.id == id).map
    Customer.name).getD "Cliente sem nome"

def customerVolume : List InsightCandidate :=
  let simulations := thousandSimulations input ((simulationsIn s input input.current).filter
    fun row => row.customerId.isSome)
  match mostFrequent (countBy simulations (fun row => row.customerId.getD "unknown")
    (customerName s)) with
  | none => []
  | some top =>
      if top.count < 2 then []
      else [{
        actionUrl := some "/customers"
        category := .customer
        comparisonValue := none
        description := top.label ++ " concentrou " ++ toString top.count ++ " simulacoes. " ++
          "Vale revisar rotas recorrentes e condicoes comerciais desse cliente."
        evidence := [("customerName", .text top.label),
          ("simulationCount", countFigure top.count)]
        metricValue := some (.ofNat top.count)
        percentageChange := none
        resourceId := some top.key
        resourceType := some "Customer"
        severity := .info
        title := top.label ++ " lidera volume de simulacoes"
        type := "CUSTOMER_SIMULATION_VOLUME" }]

def delayedCount : ℕ :=
  s.shipments.countP fun row => row.estimatedDeliveryAt < input.now &&
    !Dashboard.terminalShipmentStatuses.contains row.status && row.tenantId == input.tenantId

def delayedShipments : List InsightCandidate :=
  let delayed := delayedCount s input
  if delayed = 0 then []
  else [{
    actionUrl := some "/dashboard"
    category := .operation
    comparisonValue := none
    description := toString delayed ++ " shipment(s) estao com previsao vencida e ainda nao " ++
      "possuem status terminal."
    evidence := [("delayedShipments", countFigure delayed)]
    metricValue := some (.ofNat delayed)
    percentageChange := none
    resourceId := none
    resourceType := some "Shipment"
    severity := if delayed ≥ 3 then .critical else .warning
    title := "Shipments atrasados exigem acao"
    type := "DELAYED_SHIPMENTS" }]

def lowConversion : List InsightCandidate :=
  let shipments := s.shipments.countP fun row =>
    input.current.holds row.createdAt && row.tenantId == input.tenantId
  let simulations := (simulationsIn s input input.current).length
  let conversion := Float.ofNat shipments / .ofNat simulations * 100
  if simulations < 3 ∨ 40 ≤ conversion then []
  else [{
    actionUrl := some "/freight/history"
    category := .operation
    comparisonValue := none
    description := "A conversao de simulacoes em shipments foi de " ++
      decimalText (round conversion) ++
      "%. Revise follow-up comercial ou criterios de selecao."
    evidence := [("conversionRate", figure (round conversion)),
      ("shipments", countFigure shipments), ("simulations", countFigure simulations)]
    metricValue := some (round conversion)
    percentageChange := none
    resourceId := none
    resourceType := none
    severity := .opportunity
    title := "Conversao de simulacao em operacao esta baixa"
    type := "LOW_SIMULATION_CONVERSION" }]

def operationRisks : List InsightCandidate :=
  delayedShipments s input ++ lowConversion s input

def errorShare (job : Imports.ImportJob) : Float :=
  .ofNat job.counts.errorRows / .ofNat job.totalRows

def highErrorRate (job : Imports.ImportJob) : List InsightCandidate :=
  if job.totalRows = 0 ∨ errorShare job < 0.2 then []
  else [{
    actionUrl := some ("/imports/" ++ job.id)
    category := .imports
    comparisonValue := none
    description := "O arquivo " ++ job.filename ++ " teve " ++ toString job.counts.errorRows ++
      " erro(s) em " ++ toString job.totalRows ++ " linha(s)."
    evidence := [("errorRate", figure (round (errorShare job * 100))),
      ("errorRows", countFigure job.counts.errorRows), ("filename", .text job.filename),
      ("totalRows", countFigure job.totalRows)]
    metricValue := some (round (errorShare job * 100))
    percentageChange := none
    resourceId := some job.id
    resourceType := some "ImportJob"
    severity := if errorShare job ≥ 0.5 then .warning else .info
    title := "Importacao com alta taxa de erro"
    type := "IMPORT_HIGH_ERROR_RATE" }]

/-- Thirty minutes without an update. -/
def stalledImport (now : Time) (job : Imports.ImportJob) : List InsightCandidate :=
  if job.status = .processing ∧ job.updatedAt < now - 30 * 60 * 1000 then [{
    actionUrl := some ("/imports/" ++ job.id)
    category := .imports
    comparisonValue := none
    description := "O job " ++ job.filename ++
      " esta em processamento ha mais de 30 minutos sem conclusao."
    evidence := [("filename", .text job.filename), ("updatedAt", .text (isoText job.updatedAt))]
    metricValue := none
    percentageChange := none
    resourceId := some job.id
    resourceType := some "ImportJob"
    severity := .warning
    title := "Importacao possivelmente travada"
    type := "IMPORT_STALLED" }]
  else []

def importQuality : List InsightCandidate :=
  let jobs := (anyOrder input.tie Imports.ImportJob.id (s.importJobs.rows.filter fun row =>
    input.current.holds row.createdAt && row.tenantId == input.tenantId)).take 200
  (jobs.flatMap fun job => highErrorRate job ++ stalledImport input.now job).take 5

/-- `PerformanceInsightsGenerator.generate` -/
def performanceInsights : List InsightCandidate :=
  fastestCarrier s input ++ carrierDependency s input ++ routeConcentration s input ++
    customerVolume s input ++ operationRisks s input ++ importQuality s input

end Performance

/-- What the generators of the service make, in order. -/
def generate (s : InsightSources) (input : GeneratorInput) : List InsightCandidate :=
  costInsights s input ++ performanceInsights s input

end Logistics.Insights
