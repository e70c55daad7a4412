import Logistics.Dashboard.Service
import Logistics.Library.Doubles
import Logistics.Shipping.Service

/-!
# Insights and what they are made from

The rows that the generators read, the candidates they make and the stored insights,
with the texts that numbers and instants are written as. The generators compute with the
numbers of the platform, so their sums and averages are rounded at every step.
-/

namespace Logistics.Insights

open Logistics.Library

/-! ## Rows -/

/-- What an insight rests on: the fields of its evidence, in order. -/
inductive EvidenceValue
  | number (value : Float)
  | text (value : String)
  | null
  deriving DecidableEq

abbrev Evidence : Type := List (String × EvidenceValue)

structure InsightCandidate where
  actionUrl : Option String
  category : Dashboard.InsightCategory
  comparisonValue : Option Float
  description : String
  evidence : Evidence
  metricValue : Option Float
  percentageChange : Option Float
  resourceId : Option Id
  resourceType : Option String
  severity : Dashboard.InsightSeverity
  title : String
  type : String
  deriving DecidableEq

structure Insight where
  id : Id
  tenantId : Id
  dedupeKey : String
  type : String
  category : Dashboard.InsightCategory
  severity : Dashboard.InsightSeverity
  title : String
  description : String
  evidence : Evidence
  metricValue : Option (Fixed 4)
  comparisonValue : Option (Fixed 4)
  percentageChange : Option (Fixed 4)
  periodStart : Time
  periodEnd : Time
  resourceType : Option String
  resourceId : Option Id
  actionUrl : Option String
  status : Dashboard.InsightStatus
  generatedAt : Time
  readAt : Option Time
  dismissedAt : Option Time
  deriving DecidableEq

inductive InsightKey
  | id (id : Id)
  | dedupeKey (tenantId : Id) (dedupeKey : String)
  deriving DecidableEq

def Insight.keys (row : Insight) : List InsightKey :=
  [.id row.id, .dedupeKey row.tenantId row.dedupeKey]

structure InsightSources where
  freightSimulations : List Dashboard.FreightSimulation
  freightSimulationOptions : List Dashboard.FreightSimulationOption
  customers : List Customer
  shipments : List Shipment
  importJobs : IdTable Imports.ImportJob Imports.ImportJob.id

structure InsightStore where
  sources : InsightSources
  insights : Table Insight InsightKey Insight.keys
  auditLogs : List AuditRecordInput

/-! ## Texts -/

/-- The number nearest to a stored price, which has two decimal places. -/
def toNumber (price : Decimal) : Float := ofDecimal 2 ⌊price * 100⌋

/-- `Math.round(value * 100) / 100` -/
def round (value : Float) : Float := mathRound (value * 100) / 100

/-- The year of `toISOString()`: four digits, or a sign and six. -/
def isoYear (year : Int) : String :=
  let digits := toString year.natAbs
  let zeros := fun width => String.ofList (List.replicate (width - digits.length) '0')
  if 0 ≤ year ∧ year ≤ 9999 then zeros 4 ++ digits
  else (if year < 0 then "-" else "+") ++ zeros 6 ++ digits

/-- `toISOString()` -/
def isoText (time : Time) : String :=
  let millisecond := time % 86400000
  isoYear (Shipping.utcFullYear time) ++ "-" ++ Dashboard.monthDay time ++ "T" ++
    Dashboard.twoDigits (millisecond / 3600000) ++ ":" ++
    Dashboard.twoDigits (millisecond / 60000 % 60) ++ ":" ++
    Dashboard.twoDigits (millisecond / 1000 % 60) ++ "." ++
    (if millisecond % 1000 < 100 then "0" else "") ++
    Dashboard.twoDigits (millisecond % 1000) ++ "Z"

/-- `toISOString().slice(0, 10)` -/
def isoDay (time : Time) : String := String.ofList ((isoText time).toList.take 10)

/-- How `JSON.stringify` writes a character of a text. -/
def jsonChar (c : Char) : List Char :=
  if c = '"' then ['\\', '"']
  else if c = '\\' then ['\\', '\\']
  else if c.toNat = 8 then ['\\', 'b']
  else if c.toNat = 9 then ['\\', 't']
  else if c.toNat = 10 then ['\\', 'n']
  else if c.toNat = 12 then ['\\', 'f']
  else if c.toNat = 13 then ['\\', 'r']
  else if c.toNat < 0x20 then
    ['\\', 'u', '0', '0', Nat.digitChar (c.toNat / 16), Nat.digitChar (c.toNat % 16)]
  else [c]

def jsonString (text : String) : List Char :=
  '"' :: text.toList.flatMap jsonChar ++ ['"']

def EvidenceValue.json : EvidenceValue → List Char
  | .number value => (decimalText value).toList
  | .text value => jsonString value
  | .null => "null".toList

/-- `JSON.stringify` of the evidence. -/
def jsonEvidence (evidence : Evidence) : List Char :=
  '{' :: [','].intercalate (evidence.map fun entry => jsonString entry.1 ++ ':' :: entry.2.json) ++
    ['}']

end Logistics.Insights
