import Logistics.Quoting.Snapshot
import Logistics.RateTables.Execution

/-!
# What the requests have checked

A request reads and checks before it writes. Run alone, what it has read is still
stored when it writes, so each of its transactions is `Sound`: it is made with a
table that passed the checks, under a version number computed from the tables
that are stored.
-/

namespace Logistics.RateTables

open Logistics.Library Logistics.Quoting

/-- The coverages that a table for this service may list. -/
def coveragesAmong (s : Store) (tenantId : Id) (ids : List Id) (carrierServiceId : Id) :
    List CarrierCoverage :=
  s.carrierCoverages.rows.filter fun row => row.tenantId == tenantId &&
    ids.contains row.id && row.carrierServiceId == carrierServiceId

/-- The tables of a service, and the highest of their version numbers. -/
def tablesOf (s : Store) (tenantId carrierServiceId : Id) : List FreightRateTable :=
  s.freightRateTables.rows.filter fun row => row.tenantId == tenantId &&
    row.carrierServiceId == carrierServiceId

def latestVersion (s : Store) (tenantId carrierServiceId : Id) : Option ℕ :=
  ((tablesOf s tenantId carrierServiceId).map FreightRateTable.version).max?

/-- The version number that a new table gets. -/
def versionAfter (s : Store) (tenantId carrierServiceId : Id) : Option Id → ℕ
  | some _ => (latestVersion s tenantId carrierServiceId).getD 0 + 1
  | none => 1

/-- The request has passed the checks that storing and replacing a table have in
common. -/
structure Checked (s : Store) (tenantId : Id) (dto : RateTableInputDto) : Prop where
  ranges : validateRanges dto.ranges = .ok ()
  dates : datesInverted dto = false
  coverages : (coveragesAmong s tenantId (dto.coverageIds.getD []) dto.carrierServiceId).length =
    (dto.coverageIds.getD []).length

/-- A request for a new version of a table is the copy of the stored table. -/
def Copied (s : Store) (tenantId : Id) (dto : RateTableInputDto) : Option Id → Prop
  | some id => ∃ tie, ∃ table ∈ s.freightRateTables.rows, table.id = id ∧
      table.tenantId = tenantId ∧ dto = versionInput (loadedRateTable s tie table)
  | none => True

/-- What is known of a transaction that a request makes when it runs alone. -/
def Sound (s : Store) : rateTableInterface.Command → Prop
  | .inr (.storeRateTable tenantId version previousVersionId dto) =>
      Checked s tenantId dto ∧
        version = versionAfter s tenantId dto.carrierServiceId previousVersionId ∧
        Copied s tenantId dto previousVersionId
  | .inr (.replaceRateTable tenantId id status dto) =>
      Checked s tenantId dto ∧
        ∃ current ∈ s.freightRateTables.rows, current.id = id ∧ current.tenantId = tenantId ∧
          status = dto.status.getD current.status
  | .inr (.setStatus id status) => status = .active → rangesOf s id ≠ []
  | _ => True

/-- A call that writes no table. -/
def Spectates : rateTableInterface.Command → Prop
  | .inr (.storeRateTable ..) => False
  | .inr (.replaceRateTable ..) => False
  | .inr (.setStatus ..) => False
  | _ => True

theorem sound_of_spectates (s : Store) {c : rateTableInterface.Command} (h : Spectates c) :
    Sound s c := by
  rcases c with c | c
  · trivial
  · cases c with
    | storeRateTable | replaceRateTable | setStatus => exact h.elim
    | _ => trivial

theorem spectates_of_reads {c : RateTableCommand} (h : Reads c) : Spectates (.inr c) := by
  cases c with
  | storeRateTable | replaceRateTable | setStatus => exact h.elim
  | _ => trivial

theorem answer_reads (P : Platform) {c : RateTableCommand} (hc : Reads c) (input : Input)
    (s : Store) : ∃ a, answer P c input s = (.ok a, s) := by
  cases c with
  | storeRateTable | replaceRateTable | setStatus | storeCoverage | updateCoverage =>
      exact hc.elim
  | _ => exact ⟨_, rfl⟩

theorem execute_reads_cases (P : Platform) {c : RateTableCommand} (hc : Reads c) (input : Input)
    (s : Store) :
    (execute P (.inr c) input s = (.error .fault, s)) ∨
      ∃ a, (answer P c input s).1 = .ok a ∧ execute P (.inr c) input s = (.ok a, s) := by
  by_cases hf : input.fault = true
  · exact .inl (execute_fault P c s hf)
  · obtain ⟨a, ha⟩ := answer_reads P hc input s
    exact .inr ⟨a, congrArg Prod.fst ha, (execute_answer P c s hf).trans ha⟩

section Alone

variable {P : Platform} {s : Store} {A : Store → rateTableInterface.Command → Input → Prop}

theorem wp_read_bind {α : Type} {G : Store → rateTableInterface.Command → Input → Prop}
    {c : RateTableCommand} (hc : Reads c) (hG : ∀ input, G s (.inr c) input)
    {f : c.Result → Program rateTableInterface α} {Q : Except ServiceError α → Store → Prop}
    (hok : ∀ input a, (answer P c input s).1 = .ok a → (f a).wp (execute P) A G Q s)
    (herr : Q (.error .fault) s) : (call c >>= f).wp (execute P) A G Q s := by
  apply Program.wp_perform_bind
  intro input _
  refine ⟨hG input, ?_, ?_⟩
  · intro a ha
    rcases execute_reads_cases P hc input s with h | ⟨b, hb, h⟩
    · rw [h] at ha
      cases ha
    · rw [h] at ha ⊢
      obtain rfl := Except.ok.inj ha
      exact hok input b hb
  · intro e he
    rcases execute_reads_cases P hc input s with h | ⟨b, hb, h⟩
    · rw [h] at he ⊢
      obtain rfl := Except.error.inj he
      exact herr
    · rw [h] at he
      cases he

theorem sound_read_bind {α : Type} {c : RateTableCommand} (hc : Reads c)
    {f : c.Result → Program rateTableInterface α} {Q : Except ServiceError α → Store → Prop}
    (hok : ∀ input a, (answer P c input s).1 = .ok a →
      (f a).wp (execute P) A (fun s c _ => Sound s c) Q s)
    (herr : Q (.error .fault) s) :
    (call c >>= f).wp (execute P) A (fun s c _ => Sound s c) Q s :=
  wp_read_bind hc (fun _ => sound_of_spectates s (spectates_of_reads hc)) hok herr

theorem wp_of_spectates {α : Type} {p : Program rateTableInterface α} (hp : p.Issues Spectates)
    (s' : Store) :
    p.wp (execute P) A (fun s c _ => Sound s c) (fun _ _ => True) s' :=
  Program.wp_of_issues (J := fun _ => True) hp
    (fun _ hc _ s _ _ => ⟨sound_of_spectates s hc, trivial⟩) s' trivial

theorem spectates_getRateTable (tenantId id : Id) :
    (getRateTable tenantId id).Issues Spectates := by
  unfold getRateTable
  apply (Program.Issues.perform trivial).bind
  intro found
  cases found with
  | none => trivial
  | some record => exact (Program.Issues.perform trivial).bind fun _ => trivial

theorem wp_checkInput (tenantId : Id) (input : RateTableInputDto) :
    (checkInput tenantId input).wp (execute P) A (fun s c _ => Sound s c)
      (fun r s' => s' = s ∧ (r = .ok () → Checked s tenantId input)) s := by
  unfold checkInput
  apply Program.wp_ofExcept_bind
  · intro _ hranges
    apply Program.wp_throwIf_bind
    · exact fun _ => ⟨rfl, fun h => by cases h⟩
    · intro hdates
      apply sound_read_bind (by trivial)
      · intro _ service _
        apply Program.wp_throwIf_bind
        · exact fun _ => ⟨rfl, fun h => by cases h⟩
        · intro _
          apply sound_read_bind (by trivial)
          · intro _ coverages hcoverages
            obtain rfl := Except.ok.inj hcoverages
            unfold Program.throwIf
            split
            · exact ⟨rfl, fun h => by cases h⟩
            · next hcount =>
              exact ⟨rfl, fun _ => ⟨hranges, by simpa using hdates, not_not.mp hcount⟩⟩
          · exact ⟨rfl, fun h => by cases h⟩
      · exact ⟨rfl, fun h => by cases h⟩
  · exact fun _ _ => ⟨rfl, fun h => by cases h⟩

theorem wp_nextVersion (tenantId carrierServiceId : Id) (previousVersionId : Option Id) :
    (nextVersion tenantId carrierServiceId previousVersionId).wp (execute P) A
      (fun s c _ => Sound s c)
      (fun r s' => s' = s ∧ ∀ version, r = .ok version →
        version = versionAfter s tenantId carrierServiceId previousVersionId) s := by
  cases previousVersionId with
  | none => exact ⟨rfl, fun version h => (Except.ok.inj h).symm⟩
  | some id =>
      apply sound_read_bind (by trivial)
      · intro _ version hversion
        obtain rfl := Except.ok.inj hversion
        exact ⟨rfl, fun version h => (Except.ok.inj h).symm⟩
      · exact ⟨rfl, fun _ h => by cases h⟩

theorem wp_createRateTable (tenantId actorId : Id) (input : RateTableInputDto)
    {previousVersionId : Option Id} (hcopied : Copied s tenantId input previousVersionId) :
    (createRateTable tenantId actorId input previousVersionId).wp (execute P) A
      (fun s c _ => Sound s c) (fun _ _ => True) s := by
  unfold createRateTable
  apply Program.wp_bind (wp_checkInput tenantId input)
  · rintro _ _ ⟨rfl, hchecked⟩
    apply Program.wp_bind (wp_nextVersion tenantId _ previousVersionId)
    · rintro version _ ⟨rfl, hversion⟩
      apply Program.wp_perform_bind
      intro _ _
      refine ⟨⟨hchecked rfl, hversion version rfl, hcopied⟩, fun table _ => ?_, fun _ _ => trivial⟩
      apply wp_of_spectates
      exact (Program.Issues.perform trivial).bind fun _ => spectates_getRateTable tenantId table.id
    · exact fun _ _ _ => trivial
  · exact fun _ _ _ => trivial

theorem wp_updateRateTable (tenantId actorId id : Id) (input : RateTableInputDto) :
    (updateRateTable tenantId actorId id input).wp (execute P) A (fun s c _ => Sound s c)
      (fun _ _ => True) s := by
  unfold updateRateTable
  apply sound_read_bind (by trivial) ?_ trivial
  intro _ found hfound
  obtain rfl := Except.ok.inj hfound
  cases hcurrent : s.freightRateTables.rows.find? fun row =>
      row.id == id && row.tenantId == tenantId with
  | none => trivial
  | some current =>
      have howner := List.find?_some hcurrent
      simp only [Bool.and_eq_true, beq_iff_eq] at howner
      apply sound_read_bind (by trivial) ?_ trivial
      intro _ used _
      apply Program.wp_throwIf_bind fun _ => trivial
      intro _
      apply Program.wp_bind (wp_checkInput tenantId input)
      · rintro _ _ ⟨rfl, hchecked⟩
        apply Program.wp_perform_bind
        intro _ _
        refine ⟨⟨hchecked rfl, current, List.mem_of_find?_eq_some hcurrent, howner.1, howner.2,
          rfl⟩, fun _ _ => ?_, fun _ _ => trivial⟩
        apply wp_of_spectates
        exact (Program.Issues.perform trivial).bind fun _ => spectates_getRateTable tenantId id
      · exact fun _ _ _ => trivial

theorem wp_updateRateTableStatus (tenantId actorId id : Id) (status : FreightRateTableStatus) :
    (updateRateTableStatus tenantId actorId id status).wp (execute P) A (fun s c _ => Sound s c)
      (fun _ _ => True) s := by
  unfold updateRateTableStatus
  apply sound_read_bind (by trivial) ?_ trivial
  intro input found hfound
  obtain rfl := Except.ok.inj hfound
  cases hcurrent : s.freightRateTables.rows.find? fun row =>
      row.id == id && row.tenantId == tenantId with
  | none => trivial
  | some current =>
      have howner := List.find?_some hcurrent
      simp only [Bool.and_eq_true, beq_iff_eq] at howner
      apply Program.wp_throwIf_bind fun _ => trivial
      intro hnonempty
      apply Program.wp_perform_bind
      intro _ _
      refine ⟨fun hactive hempty => hnonempty ⟨hactive, ?_⟩, fun _ _ => ?_, fun _ _ => trivial⟩
      · rw [loadedRateTable, List.length_insertionSort, howner.1, hempty]
        rfl
      · apply wp_of_spectates
        exact (Program.Issues.perform trivial).bind fun _ => trivial

theorem spectates_createCoverage (tenantId actorId : Id) (input : CoverageDto) :
    (createCoverage tenantId actorId input).Issues Spectates := by
  unfold createCoverage
  apply (Program.Issues.perform trivial).bind
  intro found
  cases found with
  | none => trivial
  | some service =>
      apply (Program.Issues.perform trivial).bind
      intro item
      exact (Program.Issues.perform trivial).bind fun _ => trivial

theorem spectates_updateCoverage (tenantId actorId id : Id) (input : CoverageDto) :
    (updateCoverage tenantId actorId id input).Issues Spectates := by
  unfold updateCoverage
  apply (Program.Issues.perform trivial).bind
  intro current
  cases current with
  | none => trivial
  | some current =>
      apply (Program.Issues.perform trivial).bind
      intro found
      cases found with
      | none => trivial
      | some service =>
          apply (Program.Issues.perform trivial).bind
          intro item
          exact (Program.Issues.perform trivial).bind fun _ => trivial

theorem wp_handle (r : Request) :
    (handle P r).wp (execute P) A (fun s c _ => Sound s c) (fun _ _ => True) s := by
  cases r with
  | createQuote tenantId actorId input =>
      apply Program.wp_map (J := fun _ => True)
      apply wp_of_spectates
      apply (Program.issues_lift (Program.issues_true _)).mono
      rintro _ ⟨c, rfl, -⟩
      trivial
  | createRateTable tenantId actorId input =>
      exact Program.wp_map (J := fun _ => True) (wp_createRateTable tenantId actorId input trivial)
  | updateRateTable tenantId actorId id input =>
      exact Program.wp_map (J := fun _ => True) (wp_updateRateTable tenantId actorId id input)
  | createRateTableVersion tenantId actorId id =>
      apply Program.wp_map (J := fun _ => True)
      unfold createRateTableVersion
      apply sound_read_bind (by trivial) ?_ trivial
      intro input found hfound
      obtain rfl := Except.ok.inj hfound
      cases hcurrent : s.freightRateTables.rows.find? fun row =>
          row.id == id && row.tenantId == tenantId with
      | none => trivial
      | some current =>
          have howner := List.find?_some hcurrent
          simp only [Bool.and_eq_true, beq_iff_eq] at howner
          apply wp_createRateTable
          exact ⟨input.tie, current, List.mem_of_find?_eq_some hcurrent, howner.1, howner.2, rfl⟩
  | updateRateTableStatus tenantId actorId id status =>
      exact Program.wp_map (J := fun _ => True)
        (wp_updateRateTableStatus tenantId actorId id status)
  | createCoverage tenantId actorId input =>
      apply Program.wp_map (J := fun _ => True)
      exact wp_of_spectates (spectates_createCoverage tenantId actorId input) s
  | updateCoverage tenantId actorId id input =>
      apply Program.wp_map (J := fun _ => True)
      exact wp_of_spectates (spectates_updateCoverage tenantId actorId id input) s

end Alone

/-- Whatever every sound call keeps under a condition, every sequence of requests
meeting the condition keeps. -/
theorem runCalls_keep (P : Platform) {J : Store → Prop}
    {A : Store → rateTableInterface.Command → Input → Prop}
    (hkeep : ∀ s c input, J s → Sound s c → A s c input → J (execute P c input s).2)
    (calls : List (Request × (ℕ → Input))) {s : Store} (hs : J s)
    (hA : (rateTableSystem P).AlongCalls A calls s) :
    J ((rateTableSystem P).runCalls calls s) := by
  have hsound := (rateTableSystem P).alongCalls_of_invariant (J := fun _ => True)
    (A := fun _ _ _ => True) (G := fun s c _ => Sound s c) (fun r s _ => wp_handle r) calls s
    trivial ((rateTableSystem P).alongCalls_true calls s)
  exact (rateTableSystem P).runCalls_of_along
    (fun s c input hs hcall => hkeep s c input hs hcall.1 hcall.2) calls s hs
    ((rateTableSystem P).alongCalls_and calls s hsound hA)

/-! ## Two services without tables -/

/-- Two services of a carrier, without rate tables, and a coverage of the first. -/
def twoServices : Store :=
  { oneService with
    carrierServices := ⟨oneService.carrierServices.rows ++ [{
      id := "economy", tenantId := "tenant", carrierId := "carrier", code := "ECO"
      name := "Econômico", cubicFactor := .store 3 300, minWeightKg := none
      maxWeightKg := none, maxLengthCm := none, maxWidthCm := none, maxHeightCm := none
      minimumValue := .store 2 10, status := .active }], by decide +kernel⟩
    freightRateTables := .empty
    freightRateRanges := .empty }

def plainRange (minWeightKg maxWeightKg : Decimal) : RateRangeInputDto where
  minWeightKg := minWeightKg
  maxWeightKg := maxWeightKg
  basePrice := 20
  pricePerKg := 3
  excessPricePerKg := none
  deadlineDays := 2
  priority := none

/-- A table of a service with these ranges, for the coverage of the first service. -/
def plainTable (carrierServiceId : Id) (status : Option FreightRateTableStatus)
    (coverageIds : List Id) (ranges : List RateRangeInputDto) : RateTableInputDto where
  name := "Tabela"
  carrierServiceId := carrierServiceId
  currency := "brl"
  validFrom := some 0
  validTo := none
  notes := none
  status := status
  coverageIds := some coverageIds
  ranges := ranges
  charges := []

/-- The inputs of a request whose new rows get identifiers beginning so. -/
def plainInputs (start : String) (n : ℕ) : Input :=
  ⟨n, fun k => start ++ toString k, false, fun _ => 0⟩

end Logistics.RateTables
