import Logistics.Insights.DedupeKeys
import Logistics.Library.Interleaving

/-!
# Repeated refreshes

Requests run at once, in any interleaving, and the rows that the generators read
change in between. The key of a candidate without a resource is made of what was
measured. A candidate about an earlier subject on the same dates finds the earlier
row as long as its evidence reads the same in the letters that the key shows; when a
count or an amount has moved, it gets a second row.
-/

namespace Logistics.Insights

open Logistics.Library

/-! ## What has been stored -/

def periodDates (period : Dashboard.InsightGenerationPeriod) : String × String :=
  (isoDay period.currentStart, isoDay period.currentEnd)

/-- A candidate that was stored, with the row it was stored in. -/
structure Stored where
  tenantId : Id
  period : Dashboard.InsightGenerationPeriod
  candidate : InsightCandidate
  rowId : Id

def Stored.about (stored : Stored) : Id × Subject × String × String :=
  (stored.tenantId, stored.candidate.subject, periodDates stored.period)

def Stored.key (stored : Stored) : String := dedupeKey stored.period stored.candidate

def Insight.subject (row : Insight) : Subject where
  type := row.type
  resourceType := row.resourceType
  resourceId := row.resourceId
  route := row.evidence.lookup "route"

def Insight.about (row : Insight) : Id × Subject × String × String :=
  (row.tenantId, row.subject, isoDay row.periodStart, isoDay row.periodEnd)

def stored : (c : InsightCommand) → Response insightInterface c × InsightStore → List Stored
  | .upsert tenantId period candidate, (.ok _, s) =>
      ((s.insights.rows.find? fun row => row.tenantId == tenantId &&
        row.dedupeKey == dedupeKey period candidate).map fun row =>
          ⟨tenantId, period, candidate, row.id⟩).toList
  | _, _ => []

/-- The calls answered as before, over the store together with what was stored so far. -/
def recording (formatMoney : Float → String) :
    Backend insightInterface Input (InsightStore × List Stored) :=
  fun c input x =>
    let answer := execute formatMoney c input x.1
    (answer.1, answer.2, x.2 ++ stored c answer)

def insightSystem (formatMoney : Float → String) :
    System insightInterface InsightRequest InsightReply Input (InsightStore × List Stored) :=
  ⟨recording formatMoney, handle⟩

/-- What is stored about an earlier subject on the same dates has a resource, or the
key shows the same of its evidence. -/
def ReadsAlike (x : InsightStore × List Stored) : insightInterface.Command → Input → Prop
  | .upsert tenantId period candidate, _ =>
      ∀ earlier ∈ x.2, earlier.about = (tenantId, candidate.subject, periodDates period) →
        candidate.resourceId.isSome = true ∨
          reading earlier.candidate.evidence = reading candidate.evidence
  | _, _ => True

instance (x : InsightStore × List Stored) (c : insightInterface.Command) (input : Input) :
    Decidable (ReadsAlike x c input) := by
  unfold ReadsAlike
  split <;> infer_instance

/-- What is stored about an earlier subject on the same dates rewrites the earlier row,
which is new again, and no other. -/
def UpdatesEarlier (formatMoney : Float → String) (x : InsightStore × List Stored) :
    insightInterface.Command → Input → Prop
  | .upsert tenantId period candidate, input =>
      ∀ s', execute formatMoney (.upsert tenantId period candidate) input x.1 = (.ok (), s') →
        ∀ earlier ∈ x.2, earlier.about = (tenantId, candidate.subject, periodDates period) →
          ∃ row ∈ x.1.insights.rows, row.id = earlier.rowId ∧
            s'.insights.rows = x.1.insights.rows.map fun other =>
              if other = row then updatedRow input.now period candidate row else other
  | _, _ => True

/-- No two rows of a tenant are about one subject on the same dates. -/
def OnePerSubject (s : InsightStore) : Prop :=
  ∀ row ∈ s.insights.rows, ∀ row' ∈ s.insights.rows, row.about = row'.about → row = row'

instance (s : InsightStore) : Decidable (OnePerSubject s) := by
  unfold OnePerSubject
  infer_instance

/-! ## One call -/

section Calls

variable {formatMoney : Float → String} {s s' : InsightStore} {input : Input}

theorem dedupeKey_of_alike {c c' : InsightCandidate}
    {period period' : Dashboard.InsightGenerationPeriod} (hsubject : c.subject = c'.subject)
    (hdates : periodDates period = periodDates period')
    (halike : c'.resourceId.isSome = true ∨ reading c.evidence = reading c'.evidence) :
    dedupeKey period c = dedupeKey period' c' := by
  obtain ⟨htype, hresourceType, hresourceId, -⟩ := Subject.mk.inj hsubject
  obtain ⟨hstart, hend⟩ := Prod.mk.inj hdates
  have hid : c.resourceId.getD (stableEvidenceKey c.evidence) =
      c'.resourceId.getD (stableEvidenceKey c'.evidence) := by
    rw [hresourceId]
    rcases halike with hsome | hreading
    · obtain ⟨id, hid⟩ := Option.isSome_iff_exists.mp hsome
      rw [hid]
      rfl
    · rw [stableEvidenceKey_eq, stableEvidenceKey_eq, hreading]
  rw [dedupeKey, dedupeKey, htype, hresourceType, hid, hstart, hend]

theorem store_of_upsertRow_error {tenantId : Id} {period : Dashboard.InsightGenerationPeriod}
    {candidate : InsightCandidate} {e : ServiceError}
    (h : upsertRow s input tenantId period candidate = (.error e, s')) : s' = s := by
  unfold upsertRow at h
  dsimp only at h
  split at h
  · exact (Prod.mk.inj h).2.symm
  split at h
  · cases (Prod.mk.inj h).1
  · split at h
    · exact (Prod.mk.inj h).2.symm
    · cases (Prod.mk.inj h).1

/-- A call stores a candidate, or keeps every row what it is about. -/
theorem execute_cases (formatMoney : Float → String) (c : InsightCommand) (input : Input)
    (s : InsightStore) :
    (∃ tenantId period candidate s', c = .upsert tenantId period candidate ∧
      upsertRow s input tenantId period candidate = (.ok (), s') ∧
      execute formatMoney (.upsert tenantId period candidate) input s = (.ok (), s')) ∨
    ((∃ g : Insight → Insight,
        (∀ row, (g row).id = row.id ∧ (g row).dedupeKey = row.dedupeKey ∧
          (g row).about = row.about) ∧
        (execute formatMoney c input s).2.insights.rows = s.insights.rows.map g) ∧
      stored c (execute formatMoney c input s) = []) := by
  have hsame : ∀ s' : InsightStore, s'.insights = s.insights →
      ∃ g : Insight → Insight,
        (∀ row, (g row).id = row.id ∧ (g row).dedupeKey = row.dedupeKey ∧
          (g row).about = row.about) ∧ s'.insights.rows = s.insights.rows.map g := by
    intro s' hs'
    refine ⟨id, fun _ => ⟨rfl, rfl, rfl⟩, ?_⟩
    rw [hs', List.map_id]
  by_cases hfault : input.fault = true
  · rw [execute, if_pos hfault]
    cases c <;> exact .inr ⟨hsame s rfl, rfl⟩
  have hanswer : ∀ c, execute formatMoney c input s = Insights.answer formatMoney c input s :=
    fun c => if_neg hfault
  rw [hanswer]
  cases c with
  | upsert tenantId period candidate =>
      cases hupsert : upsertRow s input tenantId period candidate with
      | mk answer s' =>
          cases answer with
          | ok answer =>
              refine .inl ⟨tenantId, period, candidate, s', rfl, hupsert, ?_⟩
              rw [hanswer]
              exact hupsert
          | error e =>
              have hstore := store_of_upsertRow_error hupsert
              rw [Insights.answer, hupsert]
              exact .inr ⟨hsame s' (by rw [hstore]), rfl⟩
  | updateMany id tenantId status =>
      refine .inr ⟨⟨fun row => if row.id == id && row.tenantId == tenantId then
        withStatus input.now status row else row, fun row => ?_, rfl⟩, rfl⟩
      dsimp only
      split <;> exact ⟨rfl, rfl, rfl⟩
  | now => exact .inr ⟨hsame _ rfl, rfl⟩
  | generate tenantId period => exact .inr ⟨hsame _ rfl, rfl⟩
  | find id tenantId => exact .inr ⟨hsame _ rfl, rfl⟩
  | recordAudit audit => exact .inr ⟨hsame _ rfl, rfl⟩
  | writeSources sources => exact .inr ⟨hsame _ rfl, rfl⟩

theorem stored_of_upsertRow {tenantId : Id} {period : Dashboard.InsightGenerationPeriod}
    {candidate : InsightCandidate}
    (h : upsertRow s input tenantId period candidate = (.ok (), s')) :
    ∃ row ∈ s'.insights.rows, row.tenantId = tenantId ∧
      row.dedupeKey = dedupeKey period candidate ∧
      stored (.upsert tenantId period candidate) (.ok (), s') =
        [⟨tenantId, period, candidate, row.id⟩] := by
  obtain ⟨row, hrow, hholds⟩ := holds_of_upsertRow h
  refine ⟨row, hrow, hholds.tenantId, hholds.dedupeKey, ?_⟩
  have hkey : ∀ other : Insight, (other.tenantId == tenantId &&
      other.dedupeKey == dedupeKey period candidate) = true ↔
        InsightKey.dedupeKey tenantId (dedupeKey period candidate) ∈ other.keys := by
    intro other
    simp only [Bool.and_eq_true, beq_iff_eq, Insight.keys, List.mem_cons, reduceCtorEq,
      InsightKey.dedupeKey.injEq, List.not_mem_nil, or_false, false_or]
    exact and_congr eq_comm eq_comm
  have hfind := s'.insights.find?_eq_some hrow
    ((hkey row).mp (by simp [hholds.tenantId, hholds.dedupeKey])) hkey
  rw [stored, hfind]
  rfl

end Calls

/-! ## What holds of every run -/

section Runs

variable {formatMoney : Float → String}

/-- What is stored is still there, every row shows something stored, and what is about
one subject on the same dates has one key. -/
structure Consistent (x : InsightStore × List Stored) : Prop where
  kinds : ∀ stored ∈ x.2, stored.candidate.kind ∈ ruleKinds.flatten
  keys : ∀ stored ∈ x.2, ∀ stored' ∈ x.2, stored.about = stored'.about → stored.key = stored'.key
  backed : ∀ row ∈ x.1.insights.rows,
    ∃ stored ∈ x.2, row.about = stored.about ∧ row.dedupeKey = stored.key
  kept : ∀ stored ∈ x.2, ∃ row ∈ x.1.insights.rows,
    row.id = stored.rowId ∧ row.tenantId = stored.tenantId ∧ row.dedupeKey = stored.key

theorem Consistent.onePerSubject {x : InsightStore × List Stored} (hx : Consistent x) :
    OnePerSubject x.1 := by
  intro row hrow row' hrow' habout
  obtain ⟨st, hst, hst_about, hst_key⟩ := hx.backed row hrow
  obtain ⟨st', hst', hst_about', hst_key'⟩ := hx.backed row' hrow'
  have hkey : row.dedupeKey = row'.dedupeKey := by
    rw [hst_key, hst_key']
    exact hx.keys st hst st' hst' (hst_about.symm.trans (habout.trans hst_about'))
  have htenant : row.tenantId = row'.tenantId := congrArg Prod.fst habout
  exact x.1.insights.eq_of_key (k := .dedupeKey row.tenantId row.dedupeKey) hrow hrow'
    (by simp [Insight.keys]) (by simp [Insight.keys, htenant, hkey])

/-- The candidate of the call is of a kind that the rules make. -/
def OfKind : InsightCommand → Prop
  | .upsert _ _ candidate => candidate.kind ∈ ruleKinds.flatten
  | _ => True

theorem Consistent.updatesEarlier {x : InsightStore × List Stored} (hx : Consistent x)
    {c : InsightCommand} {input : Input} (hc : ReadsAlike x c input) :
    UpdatesEarlier formatMoney x c input := by
  cases c with
  | upsert tenantId period candidate =>
      intro s' h earlier hearlier habout
      have hkey : earlier.key = dedupeKey period candidate :=
        dedupeKey_of_alike (congrArg (fun about => about.2.1) habout)
          (congrArg (fun about => about.2.2) habout) (hc earlier hearlier habout)
      obtain ⟨row, hrow, hid, htenant, hrowKey⟩ := hx.kept earlier hearlier
      have hrowTenant : row.tenantId = tenantId := htenant.trans (congrArg Prod.fst habout)
      rw [hkey] at hrowKey
      refine ⟨row, hrow, hid, ?_⟩
      obtain ⟨-, rfl⟩ | ⟨hnone, -⟩ := upsertRow_cases (answer_of_execute h)
      · apply List.map_congr_left
        intro other hother
        have hiff : (other.tenantId == tenantId &&
            other.dedupeKey == dedupeKey period candidate) = true ↔ other = row := by
          rw [Bool.and_eq_true, beq_iff_eq, beq_iff_eq]
          constructor
          · rintro ⟨hotherTenant, hotherKey⟩
            exact x.1.insights.eq_of_key (k := .dedupeKey tenantId (dedupeKey period candidate))
              hother hrow (by simp [Insight.keys, hotherTenant, hotherKey])
              (by simp [Insight.keys, hrowTenant, hrowKey])
          · rintro rfl
            exact ⟨hrowTenant, hrowKey⟩
        by_cases hsame : other = row
        · rw [if_pos (hiff.mpr hsame), if_pos hsame, hsame]
        · rw [if_neg (fun h => hsame (hiff.mp h)), if_neg hsame]
      · exact absurd ⟨hrowTenant, hrowKey⟩ (hnone row hrow)
  | _ => trivial

theorem Consistent.keepRows {x : InsightStore × List Stored} (hx : Consistent x)
    {s' : InsightStore} {g : Insight → Insight}
    (hg : ∀ row, (g row).id = row.id ∧ (g row).dedupeKey = row.dedupeKey ∧
      (g row).about = row.about)
    (hrows : s'.insights.rows = x.1.insights.rows.map g) : Consistent (s', x.2) where
  kinds := hx.kinds
  keys := hx.keys
  backed := by
    intro row hrow
    rw [hrows] at hrow
    obtain ⟨old, hold, rfl⟩ := List.mem_map.mp hrow
    obtain ⟨st, hst, habout, hkey⟩ := hx.backed old hold
    exact ⟨st, hst, (hg old).2.2.trans habout, (hg old).2.1.trans hkey⟩
  kept := by
    intro st hst
    obtain ⟨row, hrow, hid, htenant, hkey⟩ := hx.kept st hst
    have htenant' : (g row).tenantId = row.tenantId := congrArg Prod.fst (hg row).2.2
    refine ⟨g row, ?_, (hg row).1.trans hid, htenant'.trans htenant, (hg row).2.1.trans hkey⟩
    rw [hrows]
    exact List.mem_map_of_mem hrow

/-- The rows after a candidate was stored show what was stored before or the candidate. -/
theorem Consistent.about_of_upsertRow {x : InsightStore × List Stored} (hx : Consistent x)
    {s' : InsightStore} {input : Input} {tenantId : Id}
    {period : Dashboard.InsightGenerationPeriod} {candidate : InsightCandidate}
    (hkind : candidate.kind ∈ ruleKinds.flatten)
    (h : upsertRow x.1 input tenantId period candidate = (.ok (), s')) {row : Insight}
    (hrow : row ∈ s'.insights.rows) :
    row ∈ x.1.insights.rows ∨
      row.about = (tenantId, candidate.subject, periodDates period) ∧
        row.dedupeKey = dedupeKey period candidate := by
  obtain ⟨-, rfl⟩ | ⟨-, -, hrows⟩ := upsertRow_cases h
  · obtain ⟨old, hold, rfl⟩ := List.mem_map.mp hrow
    split
    · next hkey =>
      rw [Bool.and_eq_true, beq_iff_eq, beq_iff_eq] at hkey
      obtain ⟨st, hst, habout, hstKey⟩ := hx.backed old hold
      have htype : old.type = candidate.type := by
        have holdType : old.type = st.candidate.type :=
          congrArg (fun about => about.2.1.type) habout
        rw [holdType]
        exact type_eq_of_dedupeKey (hx.kinds st hst) hkind (hstKey.symm.trans hkey.2)
      refine .inr ⟨?_, hkey.2⟩
      rw [← hkey.1]
      simp only [Insight.about, Insight.subject, updatedRow, htype]
      rfl
    · exact .inl hold
  · rw [hrows] at hrow
    rcases List.mem_append.mp hrow with hrow | hrow
    · exact .inl hrow
    · obtain rfl := List.mem_singleton.mp hrow
      exact .inr ⟨rfl, rfl⟩

theorem exists_row_of_upsertRow {s s' : InsightStore} {input : Input} {tenantId : Id}
    {period : Dashboard.InsightGenerationPeriod} {candidate : InsightCandidate}
    (h : upsertRow s input tenantId period candidate = (.ok (), s')) {row : Insight}
    (hrow : row ∈ s.insights.rows) : ∃ row' ∈ s'.insights.rows,
      row'.id = row.id ∧ row'.tenantId = row.tenantId ∧ row'.dedupeKey = row.dedupeKey := by
  obtain ⟨-, rfl⟩ | ⟨-, -, hrows⟩ := upsertRow_cases h
  · refine ⟨_, List.mem_map_of_mem hrow, ?_⟩
    split <;> exact ⟨rfl, rfl, rfl⟩
  · rw [hrows]
    exact ⟨row, List.mem_append_left _ hrow, rfl, rfl, rfl⟩

theorem Consistent.next {x : InsightStore × List Stored} (hx : Consistent x) {c : InsightCommand}
    {input : Input} (hc : ReadsAlike x c input) (hkind : OfKind c) :
    Consistent (recording formatMoney c input x).2 := by
  obtain ⟨tenantId, period, candidate, s', rfl, hupsert, hexecute⟩ | ⟨⟨g, hg, hrows⟩, hnone⟩ :=
    execute_cases formatMoney c input x.1
  · obtain ⟨row, hrow, htenant, hkey, hstored⟩ := stored_of_upsertRow hupsert
    have hnext : (recording formatMoney (.upsert tenantId period candidate) input x).2 =
        (s', x.2 ++ [⟨tenantId, period, candidate, row.id⟩]) := by
      rw [recording, hexecute, hstored]
    have hsame : ∀ st ∈ x.2, st.about = (tenantId, candidate.subject, periodDates period) →
        st.key = dedupeKey period candidate := by
      intro st hst habout
      exact dedupeKey_of_alike (congrArg (fun about => about.2.1) habout)
        (congrArg (fun about => about.2.2) habout) (hc st hst habout)
    rw [hnext]
    refine ⟨?_, ?_, ?_, ?_⟩
    · intro st hst
      rcases List.mem_append.mp hst with hst | hst
      · exact hx.kinds st hst
      · obtain rfl := List.mem_singleton.mp hst
        exact hkind
    · intro st hst st' hst' habout
      rcases List.mem_append.mp hst with hst | hst <;>
        rcases List.mem_append.mp hst' with hst' | hst'
      · exact hx.keys st hst st' hst' habout
      · obtain rfl := List.mem_singleton.mp hst'
        exact hsame st hst habout
      · obtain rfl := List.mem_singleton.mp hst
        exact (hsame st' hst' habout.symm).symm
      · rw [List.mem_singleton.mp hst, List.mem_singleton.mp hst']
    · intro row' hrow'
      rcases hx.about_of_upsertRow hkind hupsert hrow' with hold | ⟨habout, hkey'⟩
      · obtain ⟨st, hst, hbacked⟩ := hx.backed row' hold
        exact ⟨st, List.mem_append_left _ hst, hbacked⟩
      · exact ⟨_, List.mem_append_right _ (List.mem_singleton.mpr rfl), habout, hkey'⟩
    · intro st hst
      rcases List.mem_append.mp hst with hst | hst
      · obtain ⟨old, hold, hid, htenant', hkey'⟩ := hx.kept st hst
        obtain ⟨row', hrow', hid', htenant'', hkey''⟩ := exists_row_of_upsertRow hupsert hold
        exact ⟨row', hrow', hid'.trans hid, htenant''.trans htenant', hkey''.trans hkey'⟩
      · obtain rfl := List.mem_singleton.mp hst
        exact ⟨row, hrow, rfl, htenant, hkey⟩
  · have hnext : (recording formatMoney c input x).2 =
        ((execute formatMoney c input x.1).2, x.2) := by
      rw [recording, hnone, List.append_nil]
    rw [hnext]
    exact hx.keepRows hg hrows

/-! ## Requests at once -/

def StoresGenerated (h : List (Event insightInterface)) : InsightCommand → Prop
  | .upsert tenantId period candidate =>
      ∃ candidates : List InsightCandidate,
        ⟨.generate tenantId period, .ok candidates⟩ ∈ h ∧ candidate ∈ candidates
  | _ => True

theorem persistCandidates_obeys {tenantId : Id} {period : Dashboard.InsightGenerationPeriod}
    (candidates : List InsightCandidate) : ∀ (pending : List InsightCandidate)
    {h : List (Event insightInterface)},
    (⟨.generate tenantId period, .ok candidates⟩ : Event insightInterface) ∈ h →
      (∀ c ∈ pending, c ∈ candidates) →
        (persistCandidates tenantId period pending).Obeys StoresGenerated (fun _ _ => True) h
  | [], _, _, _ => trivial
  | c :: pending, _, hmem, hall =>
      Program.Obeys.perform_bind ⟨candidates, hmem, hall c List.mem_cons_self⟩
        (fun _ => persistCandidates_obeys candidates pending (List.mem_append_left _ hmem)
          fun c' hc' => hall c' (List.mem_cons_of_mem c hc'))
        fun _ => trivial

theorem updateTenantInsight_obeys (tenantId insightId : Id) (status : Dashboard.InsightStatus)
    (h : List (Event insightInterface)) :
    (updateTenantInsight tenantId insightId status).Obeys StoresGenerated (fun _ _ => True) h := by
  refine Program.Obeys.perform_bind trivial (fun count => ?_) fun _ => trivial
  refine Program.Obeys.throwIf_bind (fun _ => trivial) fun _ => ?_
  refine Program.Obeys.perform_bind trivial (fun found => ?_) fun _ => trivial
  cases found <;> trivial

theorem handle_obeys (r : InsightRequest) :
    (handle r).Obeys StoresGenerated (fun _ _ => True) [] := by
  cases r with
  | refresh order tenantId actorId =>
      refine Program.Obeys.map (Q := fun _ _ => True) ?_ (fun _ _ _ => trivial)
        fun _ _ _ => trivial
      refine Program.Obeys.perform_bind trivial (fun now => ?_) fun _ => trivial
      refine Program.Obeys.perform_bind trivial (fun candidates => ?_) fun _ => trivial
      have hpersist := persistCandidates_obeys candidates (order.arrange candidates)
        (List.mem_append_right [(⟨.now, .ok now⟩ : Event insightInterface)]
          (List.mem_singleton.mpr (rfl : (⟨.generate tenantId (Dashboard.buildPeriod now),
            .ok candidates⟩ : Event insightInterface) = _)))
        fun c hc => (order.perm candidates).mem_iff.mp hc
      refine hpersist.bind (fun h _ _ => ?_) fun _ _ _ => trivial
      exact Program.Obeys.perform_bind trivial (fun _ => trivial) fun _ => trivial
  | markRead tenantId actorId insightId =>
      refine Program.Obeys.map (Q := fun _ _ => True) ?_ (fun _ _ _ => trivial)
        fun _ _ _ => trivial
      refine (updateTenantInsight_obeys tenantId insightId .read []).bind (fun h row _ => ?_)
        fun _ _ _ => trivial
      exact Program.Obeys.perform_bind trivial (fun _ => trivial) fun _ => trivial
  | dismiss tenantId actorId insightId =>
      refine Program.Obeys.map (Q := fun _ _ => True) ?_ (fun _ _ _ => trivial)
        fun _ _ _ => trivial
      refine (updateTenantInsight_obeys tenantId insightId .dismissed []).bind (fun h row _ => ?_)
        fun _ _ _ => trivial
      exact Program.Obeys.perform_bind trivial (fun _ => trivial) fun _ => trivial
  | writeSources sources =>
      refine Program.Obeys.map (Q := fun _ _ => True) ?_ (fun _ _ _ => trivial)
        fun _ _ _ => trivial
      refine ⟨trivial, fun answer => ?_⟩
      cases answer <;> trivial

/-- What the generators have answered is of their kinds. -/
def AnsweredKinds (_ : InsightStore × List Stored) : Event insightInterface → Prop
  | ⟨.generate _ _, .ok candidates⟩ =>
      ∀ c ∈ (candidates : List InsightCandidate), c.kind ∈ ruleKinds.flatten
  | _ => True

theorem answeredKinds_recording (c : InsightCommand) (input : Input)
    (x : InsightStore × List Stored) :
    AnsweredKinds (recording formatMoney c input x).2
      ⟨c, (recording formatMoney c input x).1⟩ := by
  cases c with
  | generate tenantId period =>
      by_cases hfault : input.fault = true
      · rw [recording, execute, if_pos hfault]
        trivial
      · rw [recording, execute, if_neg hfault]
        exact fun c hc => kind_mem hc
  | _ => trivial

theorem along_ofKind (acts : List (Action InsightRequest Input))
    (x : InsightStore × List Stored) :
    (insightSystem formatMoney).AlongActions (CallCondition fun _ c _ => OfKind c)
      (Config.initial x) acts := by
  refine (insightSystem formatMoney).along_of_invariant
    (J := fun c => c.Obeying (fun _ => StoresGenerated) (fun _ _ _ => True) ∧
      c.Knowing AnsweredKinds)
    (P := CallCondition fun _ _ _ => True) ?_ ?_ acts _
    ⟨Config.obeying_initial _ _ x, Config.knowing_initial _ x⟩
    ((insightSystem formatMoney).alongActions_callTrue acts _)
  · intro c a hc htrue
    exact ⟨(insightSystem formatMoney).obeying_next handle_obeys c a hc.1,
      (insightSystem formatMoney).knowing_next (fun c i x _ => answeredKinds_recording c i x)
        (fun _ _ _ _ _ h => h) c a hc.2 htrue⟩
  · intro c a hc _
    obtain ⟨r, rfl, -⟩ | ⟨i, input, r, h, cmd, k, rfl, hi, hcall, -⟩ | ⟨-, hcall⟩ :=
      (insightSystem formatMoney).next_cases c a
    · trivial
    · rw [CallCondition, hcall]
      have hstores := Config.obeying_call hc.1 hi
      cases cmd with
      | upsert tenantId period candidate =>
          obtain ⟨candidates, hmem, hcandidate⟩ := hstores
          exact hc.2 _ (List.mem_of_getElem? hi) _ hmem candidate hcandidate
      | _ => trivial
    · rw [CallCondition, hcall]
      trivial

/-- In a run in which the key shows the same of what is stored about a subject on the
same dates, every candidate about an earlier subject rewrites the earlier row, and no
two rows are about one subject. -/
theorem refreshes_onePerSubject (s : InsightStore) (hs : s.insights.rows = [])
    (acts : List (Action InsightRequest Input))
    (h : (insightSystem formatMoney).AlongActions (CallCondition ReadsAlike)
      (Config.initial (s, [])) acts) :
    OnePerSubject ((insightSystem formatMoney).runActions (Config.initial (s, [])) acts).store.1 ∧
      (insightSystem formatMoney).AlongActions (CallCondition (UpdatesEarlier formatMoney))
        (Config.initial (s, [])) acts := by
  have hcalls := (insightSystem formatMoney).alongActions_callAnd acts _ h
    (along_ofKind acts (s, []))
  have hstart : Consistent (s, []) := by
    refine ⟨?_, ?_, ?_, ?_⟩ <;> simp [hs]
  have hkeep : ∀ x c i, Consistent x → ReadsAlike x c i ∧ OfKind c →
      Consistent ((insightSystem formatMoney).backend c i x).2 :=
    fun x c i hx hc => hx.next hc.1 hc.2
  refine ⟨((insightSystem formatMoney).store_run hkeep acts _ hstart hcalls).onePerSubject, ?_⟩
  have halong := (insightSystem formatMoney).store_along hkeep acts _ hstart hcalls
  refine (insightSystem formatMoney).alongActions_mono (fun c a hc => ?_) acts _ halong
  unfold CallCondition at hc ⊢
  split
  · next cmd input hcall =>
    rw [hcall] at hc
    exact hc.1.updatesEarlier hc.2.1
  · trivial

/-! Late shipments, refreshed twice on one day. -/

def lateShipment (id : Id) : Shipment where
  id := id
  tenantId := "t"
  simulationId := id
  selectedOptionId := id
  customerId := none
  branchId := none
  carrierId := "c"
  carrierServiceId := "v"
  createdById := none
  trackingCode := id
  externalReference := none
  realWeightKg := Fixed.store 3 1
  chargeableWeightKg := Fixed.store 3 1
  cargoValue := none
  freightValue := Fixed.store 2 10
  estimatedDeliveryAt := 5100000000
  deliveredAt := none
  status := .created
  createdAt := 1000000000

def lateSources (ids : List Id) : InsightSources where
  freightSimulations := []
  freightSimulationOptions := []
  customers := []
  shipments := ids.map lateShipment
  importJobs := .empty

def anyArrangement : Arrangement := ⟨id, fun _ => List.Perm.refl _⟩

def wholeRequest (thread calls : ℕ) (request : InsightRequest) :
    List (Action InsightRequest Input) :=
  .start request :: List.replicate calls
    (.step thread ⟨5184000000, fun _ => toString thread, false, fun _ => 0⟩)

def refreshedTwice (sources : InsightSources) : List (Action InsightRequest Input) :=
  wholeRequest 0 4 (.refresh anyArrangement "t" "u") ++ wholeRequest 1 1 (.writeSources sources) ++
    wholeRequest 2 4 (.refresh anyArrangement "t" "u")

/-- Another late shipment makes a second row. -/
theorem refreshes_two_rows :
    ¬OnePerSubject ((insightSystem fun _ => "R$ 0,00").runActions
      (Config.initial (⟨lateSources ["a"], .empty, []⟩, []))
      (refreshedTwice (lateSources ["a", "b"]))).store.1 := by
  decide +kernel

theorem refreshes_onePerSubject_same_count :
    OnePerSubject ((insightSystem fun _ => "R$ 0,00").runActions
        (Config.initial (⟨lateSources ["a"], .empty, []⟩, []))
        (refreshedTwice (lateSources ["b"]))).store.1 ∧
      (insightSystem fun _ => "R$ 0,00").AlongActions
        (CallCondition (UpdatesEarlier fun _ => "R$ 0,00"))
        (Config.initial (⟨lateSources ["a"], .empty, []⟩, []))
          (refreshedTwice (lateSources ["b"])) := by
  apply refreshes_onePerSubject ⟨lateSources ["a"], .empty, []⟩ rfl
  decide +kernel

end Runs

end Logistics.Insights
