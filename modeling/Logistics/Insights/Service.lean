import Logistics.Insights.Generators
import Logistics.Library.Sequential

/-!
# The insights service

`refresh` makes the candidates of the last thirty days and stores each of them under
its dedupe key: a new row, or the row that has the key already, which is new again.
`markRead` and `dismiss` change the status of a row.
-/

namespace Logistics.Insights

open Logistics.Library

/-! ## Dedupe keys -/

/-- `/[a-zA-Z0-9_-]/` -/
def isKeyChar (c : Char) : Bool :=
  ('a' ≤ c && c ≤ 'z') || ('A' ≤ c && c ≤ 'Z') || ('0' ≤ c && c ≤ '9') || c = '_' || c = '-'

def stableEvidenceKey (evidence : Evidence) : String :=
  let letters := ((jsonEvidence evidence).filter isKeyChar).take 60
  if letters = [] then "global" else String.ofList letters

def dedupeKey (period : Dashboard.InsightGenerationPeriod) (candidate : InsightCandidate) :
    String :=
  String.ofList ((":".intercalate [candidate.type, candidate.resourceType.getD "none",
    candidate.resourceId.getD (stableEvidenceKey candidate.evidence),
    isoDay period.currentStart, isoDay period.currentEnd]).toList.take 180)

/-! ## Calls -/

/-- The calls of the service, and what the rest of the program does to the rows that the
generators read. -/
inductive InsightCommand
  | now
  | generate (tenantId : Id) (period : Dashboard.InsightGenerationPeriod)
  | upsert (tenantId : Id) (period : Dashboard.InsightGenerationPeriod)
      (candidate : InsightCandidate)
  | updateMany (id tenantId : Id) (status : Dashboard.InsightStatus)
  | find (id tenantId : Id)
  | recordAudit (input : AuditRecordInput)
  | writeSources (sources : InsightSources)

@[reducible] def InsightCommand.Result : InsightCommand → Type
  | .now => Time
  | .generate .. => List InsightCandidate
  | .upsert .. => Unit
  | .updateMany .. => ℕ
  | .find .. => Option Insight
  | .recordAudit _ => Unit
  | .writeSources _ => Unit

@[reducible] def insightInterface : Interface :=
  ⟨InsightCommand, InsightCommand.Result, ServiceError⟩

abbrev call (c : InsightCommand) : Program insightInterface c.Result :=
  @Program.perform insightInterface c

/-- A column of four decimal places takes a number as the decimal that it is written as. -/
def storeFigure (value : Float) : Fixed 4 := .store 4 (shortestDecimal value)

def createdRow (input : Input) (tenantId : Id) (period : Dashboard.InsightGenerationPeriod)
    (candidate : InsightCandidate) : Insight where
  id := input.ids 0
  tenantId := tenantId
  dedupeKey := dedupeKey period candidate
  type := candidate.type
  category := candidate.category
  severity := candidate.severity
  title := candidate.title
  description := candidate.description
  evidence := candidate.evidence
  metricValue := candidate.metricValue.map storeFigure
  comparisonValue := candidate.comparisonValue.map storeFigure
  percentageChange := candidate.percentageChange.map storeFigure
  periodStart := period.currentStart
  periodEnd := period.currentEnd
  resourceType := candidate.resourceType
  resourceId := candidate.resourceId
  actionUrl := candidate.actionUrl
  status := .new
  generatedAt := input.now
  readAt := none
  dismissedAt := none

def updatedRow (now : Time) (period : Dashboard.InsightGenerationPeriod)
    (candidate : InsightCandidate) (row : Insight) : Insight :=
  { row with
    severity := candidate.severity
    title := candidate.title
    description := candidate.description
    evidence := candidate.evidence
    metricValue := candidate.metricValue.map storeFigure
    comparisonValue := candidate.comparisonValue.map storeFigure
    percentageChange := candidate.percentageChange.map storeFigure
    periodStart := period.currentStart
    periodEnd := period.currentEnd
    resourceType := candidate.resourceType
    resourceId := candidate.resourceId
    actionUrl := candidate.actionUrl
    status := .new
    generatedAt := now
    readAt := none
    dismissedAt := none }

/-- The texts and figures fit their columns. -/
def fitsColumns (candidate : InsightCandidate) : Bool :=
  candidate.title.length ≤ 180 && candidate.description.length ≤ 700 &&
    candidate.actionUrl.all (fun url => url.length ≤ 255) &&
    candidate.resourceId.all (fun id => id.length ≤ 36) &&
    candidate.metricValue.all (fun value => |shortestDecimal value| < 10 ^ 10) &&
    candidate.comparisonValue.all (fun value => |shortestDecimal value| < 10 ^ 10) &&
    candidate.percentageChange.all fun value => |shortestDecimal value| < 10 ^ 5

def InsightStore.modifyInsights (s : InsightStore) (p : Insight → Bool) (f : Insight → Insight)
    (keys : ∀ row, (f row).keys = row.keys) : InsightStore :=
  { s with insights := s.insights.modify p f keys }

def InsightStore.addAudit (s : InsightStore) (audit : AuditRecordInput) : InsightStore :=
  { s with auditLogs := s.auditLogs ++ [audit] }

/-- `upsert` by the tenant and the dedupe key. -/
def upsertRow (s : InsightStore) (input : Input) (tenantId : Id)
    (period : Dashboard.InsightGenerationPeriod) (candidate : InsightCandidate) :
    Except ServiceError Unit × InsightStore :=
  let hasKey : Insight → Bool := fun row =>
    row.tenantId == tenantId && row.dedupeKey == dedupeKey period candidate
  if !fitsColumns candidate then (.error .fault, s)
  else if s.insights.rows.any hasKey then
    (.ok (), s.modifyInsights hasKey (updatedRow input.now period candidate) fun _ => rfl)
  else
    match s.insights.tryInsert (createdRow input tenantId period candidate) with
    | none => (.error .uniqueViolation, s)
    | some insights => (.ok (), { s with insights })

def withStatus (now : Time) (status : Dashboard.InsightStatus) (row : Insight) : Insight :=
  { row with
    status
    readAt := if status = .read then some now else row.readAt
    dismissedAt := if status = .dismissed then some now else row.dismissedAt }

def answer (formatMoney : Float → String) : (c : InsightCommand) → Input → InsightStore →
    Except ServiceError c.Result × InsightStore
  | .now, input, s => (.ok input.now, s)
  | .generate tenantId period, input, s =>
      (.ok (generate s.sources ⟨period, tenantId, input.now, input.tie, formatMoney⟩), s)
  | .upsert tenantId period candidate, input, s => upsertRow s input tenantId period candidate
  | .updateMany id tenantId status, input, s =>
      (.ok (s.insights.rows.countP fun row => row.id == id && row.tenantId == tenantId),
        s.modifyInsights (fun row => row.id == id && row.tenantId == tenantId)
          (withStatus input.now status) fun _ => rfl)
  | .find id tenantId, _, s =>
      (.ok (s.insights.rows.find? fun row => row.id == id && row.tenantId == tenantId), s)
  | .recordAudit audit, _, s => (.ok (), s.addAudit audit)
  | .writeSources sources, _, s => (.ok (), { s with sources })

/-- Any call may be broken off by the database. -/
def execute (formatMoney : Float → String) (c : InsightCommand) (input : Input)
    (s : InsightStore) : Response insightInterface c × InsightStore :=
  if input.fault then (.error .fault, s) else answer formatMoney c input s

/-! ## Operations -/

structure RefreshInsightsResultDto where
  generated : ℕ
  periodStart : Time
  periodEnd : Time
  deriving DecidableEq

/-- The order in which the database takes calls that are made together. -/
structure Arrangement where
  arrange : List InsightCandidate → List InsightCandidate
  perm : ∀ candidates, (arrange candidates).Perm candidates

def persistCandidates (tenantId : Id) (period : Dashboard.InsightGenerationPeriod) :
    List InsightCandidate → Program insightInterface Unit
  | [] => pure ()
  | candidate :: rest => do
      call (.upsert tenantId period candidate)
      persistCandidates tenantId period rest

/-- The candidates are stored together (`Promise.all`), in any order. -/
def refresh (order : Arrangement) (tenantId actorId : Id) :
    Program insightInterface RefreshInsightsResultDto := do
  let now ← call .now
  let period := Dashboard.buildPeriod now
  let candidates ← call (.generate tenantId period)
  persistCandidates tenantId period (order.arrange candidates)
  call (.recordAudit {
    action := .insightGenerated
    actorId := some actorId
    entityId := none
    entityType := some "Insight"
    metadata := [("generated", some (toString candidates.length)),
      ("periodEnd", some (isoText period.currentEnd)),
      ("periodStart", some (isoText period.currentStart))]
    tenantId := some tenantId })
  pure ⟨candidates.length, period.currentStart, period.currentEnd⟩

def insightNotFound : ServiceError :=
  .notFound "Insight nao encontrado."

def updateTenantInsight (tenantId insightId : Id) (status : Dashboard.InsightStatus) :
    Program insightInterface Insight := do
  let count ← call (.updateMany insightId tenantId status)
  Program.throwIf (count = 0) insightNotFound
  let some insight ← call (.find insightId tenantId) | throw insightNotFound
  pure insight

def insightAudit (action : AuditAction) (tenantId actorId insightId : Id) : InsightCommand :=
  .recordAudit {
    action
    actorId := some actorId
    entityId := some insightId
    entityType := some "Insight"
    metadata := []
    tenantId := some tenantId }

def markRead (tenantId actorId insightId : Id) : Program insightInterface Insight := do
  let insight ← updateTenantInsight tenantId insightId .read
  call (insightAudit .insightRead tenantId actorId insightId)
  pure insight

def dismiss (tenantId actorId insightId : Id) : Program insightInterface Insight := do
  let insight ← updateTenantInsight tenantId insightId .dismissed
  call (insightAudit .insightDismissed tenantId actorId insightId)
  pure insight

/-! ## Requests -/

inductive InsightRequest
  | refresh (order : Arrangement) (tenantId actorId : Id)
  | markRead (tenantId actorId insightId : Id)
  | dismiss (tenantId actorId insightId : Id)
  | writeSources (sources : InsightSources)

inductive InsightReply
  | refreshed (result : RefreshInsightsResultDto)
  | insight (row : Insight)
  | written

def handle : InsightRequest → Program insightInterface InsightReply
  | .refresh order tenantId actorId => .refreshed <$> refresh order tenantId actorId
  | .markRead tenantId actorId insightId => .insight <$> markRead tenantId actorId insightId
  | .dismiss tenantId actorId insightId => .insight <$> dismiss tenantId actorId insightId
  | .writeSources sources => (fun _ => .written) <$> call (.writeSources sources)

end Logistics.Insights
