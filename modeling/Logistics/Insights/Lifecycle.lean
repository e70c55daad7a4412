import Logistics.Insights.Refreshes
import Logistics.Library.Ledger

/-!
# The life of an insight

Refreshes, readings and dismissals run at once, in any interleaving, over sources that
change in between. An insight is never lost, and what its columns say fits together: it
is new exactly when it has been neither read nor dismissed since it was last made. The
requests of one tenant leave the insights of the others alone, and the audit trail
consists of one record for each request that was answered.
-/

namespace Logistics.Insights

open Logistics.Library

def lifeSystem (formatMoney : Float → String) :
    System insightInterface InsightRequest InsightReply Input InsightStore :=
  ⟨execute formatMoney, handle⟩

/-! ## What a call does to the rows -/

/-- The row that a call makes of a row it is about. -/
def Rewrites (input : Input) (row row' : Insight) : InsightCommand → Prop
  | .upsert tenantId period candidate =>
      row.tenantId = tenantId ∧ row' = updatedRow input.now period candidate row
  | .updateMany id tenantId status =>
      row.id = id ∧ row.tenantId = tenantId ∧ row' = withStatus input.now status row
  | _ => False

section Calls

variable (formatMoney : Float → String)

/-- Rows are rewritten in their places, or one is added by an upsert. -/
theorem rows_execute (c : InsightCommand) (input : Input) (s : InsightStore) :
    (∃ f : Insight → Insight, (execute formatMoney c input s).2.insights.rows =
        s.insights.rows.map f ∧ ∀ row, f row = row ∨ Rewrites input row (f row) c) ∨
      ∃ tenantId period candidate, c = .upsert tenantId period candidate ∧
        (execute formatMoney c input s).2.insights.rows =
          s.insights.rows ++ [createdRow input tenantId period candidate] := by
  have hsame : ∀ s' : InsightStore, s'.insights = s.insights →
      ∃ f : Insight → Insight, s'.insights.rows = s.insights.rows.map f ∧
        ∀ row, f row = row ∨ Rewrites input row (f row) c := by
    intro s' hs'
    refine ⟨id, ?_, fun _ => .inl rfl⟩
    rw [hs', List.map_id]
  unfold execute
  by_cases hfault : input.fault = true
  · rw [if_pos hfault]
    exact .inl (hsame s rfl)
  rw [if_neg hfault]
  cases c with
  | upsert tenantId period candidate =>
      rw [answer]
      cases hupsert : upsertRow s input tenantId period candidate with
      | mk reply s' =>
          cases reply with
          | error e =>
              rw [store_of_upsertRow_error hupsert]
              exact .inl (hsame s rfl)
          | ok _ =>
              obtain ⟨-, rfl⟩ | ⟨-, -, hrows⟩ := upsertRow_cases hupsert
              · refine .inl ⟨_, rfl, fun row => ?_⟩
                dsimp only
                split
                · next hkey =>
                  rw [Bool.and_eq_true, beq_iff_eq] at hkey
                  exact .inr ⟨hkey.1, rfl⟩
                · exact .inl rfl
              · exact .inr ⟨tenantId, period, candidate, rfl, hrows⟩
  | updateMany id tenantId status =>
      refine .inl ⟨_, rfl, fun row => ?_⟩
      dsimp only
      split
      · next hrow =>
        rw [Bool.and_eq_true, beq_iff_eq, beq_iff_eq] at hrow
        exact .inr ⟨hrow.1, hrow.2, rfl⟩
      · exact .inl rfl
  | now => exact .inl (hsame _ rfl)
  | generate tenantId period => exact .inl (hsame _ rfl)
  | find id tenantId => exact .inl (hsame _ rfl)
  | recordAudit audit => exact .inl (hsame _ rfl)
  | writeSources sources => exact .inl (hsame _ rfl)

end Calls

/-! ## Statuses -/

/-- What the columns of an insight say of its life. -/
structure Insight.Sound (row : Insight) : Prop where
  new_iff : row.status = .new ↔ row.readAt = none ∧ row.dismissedAt = none
  readAt_of_read : row.status = .read → row.readAt.isSome = true
  dismissedAt_of_dismissed : row.status = .dismissed → row.dismissedAt.isSome = true
  unresolved : row.status ≠ .resolved

theorem Insight.Sound.fresh {row : Insight} (hstatus : row.status = .new)
    (hread : row.readAt = none) (hdismissed : row.dismissedAt = none) : row.Sound where
  new_iff := ⟨fun _ => ⟨hread, hdismissed⟩, fun _ => hstatus⟩
  readAt_of_read h := by rw [hstatus] at h; cases h
  dismissedAt_of_dismissed h := by rw [hstatus] at h; cases h
  unresolved h := by rw [hstatus] at h; cases h

theorem Insight.Sound.withStatus {row : Insight} (now : Time) {status : Dashboard.InsightStatus}
    (hstatus : status = .read ∨ status = .dismissed) :
    (Insights.withStatus now status row).Sound := by
  rcases hstatus with rfl | rfl
  · constructor <;> simp [Insights.withStatus]
  · constructor <;> simp [Insights.withStatus]

/-- The calls that the requests make: no insight is set back or resolved by hand. -/
def Proper : InsightCommand → Prop
  | .updateMany _ _ status => status = .read ∨ status = .dismissed
  | _ => True

/-- What stays of an insight for good. -/
def Insight.identity (row : Insight) : Id × Id × String × String × Dashboard.InsightCategory :=
  (row.id, row.tenantId, row.dedupeKey, row.type, row.category)

theorem identity_of_rewrites {input : Input} {row row' : Insight} {c : InsightCommand}
    (h : Rewrites input row row' c) : row'.identity = row.identity := by
  cases c with
  | upsert tenantId period candidate =>
      rw [h.2]
      rfl
  | updateMany id tenantId status =>
      rw [h.2.2]
      rfl
  | _ => exact h.elim

theorem sound_of_rewrites {input : Input} {row row' : Insight} {c : InsightCommand}
    (hc : Proper c) (h : Rewrites input row row' c) : row'.Sound := by
  cases c with
  | upsert tenantId period candidate =>
      rw [h.2]
      exact .fresh rfl rfl rfl
  | updateMany id tenantId status =>
      rw [h.2.2]
      exact .withStatus input.now hc
  | _ => exact h.elim

def SoundRows (s : InsightStore) : Prop := ∀ row ∈ s.insights.rows, row.Sound

theorem soundRows_execute {formatMoney : Float → String} {c : InsightCommand} (hc : Proper c)
    (input : Input) {s : InsightStore} (hs : SoundRows s) :
    SoundRows (execute formatMoney c input s).2 := by
  intro row hrow
  rcases rows_execute formatMoney c input s with
    ⟨f, hrows, hf⟩ | ⟨tenantId, period, candidate, -, hrows⟩
  · rw [hrows] at hrow
    obtain ⟨before, hbefore, rfl⟩ := List.mem_map.mp hrow
    rcases hf before with hsame | hrewrites
    · rw [hsame]
      exact hs before hbefore
    · exact sound_of_rewrites hc hrewrites
  · rw [hrows] at hrow
    rcases List.mem_append.mp hrow with hold | hnew
    · exact hs row hold
    · obtain rfl := List.mem_singleton.mp hnew
      exact .fresh rfl rfl rfl

theorem kept_execute (formatMoney : Float → String) (c : InsightCommand) (input : Input)
    {s : InsightStore} {row : Insight} (hrow : row ∈ s.insights.rows) :
    ∃ row' ∈ (execute formatMoney c input s).2.insights.rows, row'.identity = row.identity := by
  rcases rows_execute formatMoney c input s with
    ⟨f, hrows, hf⟩ | ⟨tenantId, period, candidate, -, hrows⟩
  · refine ⟨f row, hrows ▸ List.mem_map_of_mem hrow, ?_⟩
    rcases hf row with hsame | hrewrites
    · rw [hsame]
    · exact identity_of_rewrites hrewrites
  · exact ⟨row, hrows ▸ List.mem_append_left _ hrow, rfl⟩

theorem persistCandidates_issues {C : InsightCommand → Prop} {tenantId : Id}
    {period : Dashboard.InsightGenerationPeriod}
    (hC : ∀ candidate, C (.upsert tenantId period candidate)) (candidates : List InsightCandidate) :
    (persistCandidates tenantId period candidates).Issues C := by
  induction candidates with
  | nil => trivial
  | cons candidate rest ih => exact (Program.Issues.perform (hC candidate)).bind fun _ => ih

theorem updateTenantInsight_issues {C : InsightCommand → Prop} {tenantId insightId : Id}
    {status : Dashboard.InsightStatus} (hupdate : C (.updateMany insightId tenantId status))
    (hfind : C (.find insightId tenantId)) :
    (updateTenantInsight tenantId insightId status).Issues C := by
  refine (Program.Issues.perform hupdate).bind fun count => ?_
  refine (Program.Issues.throwIf _ _).bind fun _ => ?_
  refine (Program.Issues.perform hfind).bind fun found => ?_
  cases found <;> trivial

theorem handle_proper (r : InsightRequest) : (handle r).Issues Proper := by
  cases r with
  | refresh order tenantId actorId =>
      refine (Program.issues_map_iff _ _).mpr ?_
      refine (Program.Issues.perform trivial).bind fun now => ?_
      refine (Program.Issues.perform trivial).bind fun candidates => ?_
      refine (persistCandidates_issues (fun _ => trivial) _).bind fun _ => ?_
      exact (Program.Issues.perform trivial).bind fun _ => trivial
  | markRead tenantId actorId insightId =>
      refine (Program.issues_map_iff _ _).mpr ?_
      refine (updateTenantInsight_issues (.inl rfl) trivial).bind fun insight => ?_
      exact (Program.Issues.perform trivial).bind fun _ => trivial
  | dismiss tenantId actorId insightId =>
      refine (Program.issues_map_iff _ _).mpr ?_
      refine (updateTenantInsight_issues (.inr rfl) trivial).bind fun insight => ?_
      exact (Program.Issues.perform trivial).bind fun _ => trivial
  | writeSources sources =>
      exact (Program.issues_map_iff _ _).mpr (Program.Issues.perform trivial)

/-- In every run, each insight fits together and every insight that was ever stored is
still there, with its key, its type and its category. -/
theorem insights_live_on (formatMoney : Float → String) (sources : InsightSources)
    (acts : List (Action InsightRequest Input)) :
    (∀ row ∈ ((lifeSystem formatMoney).runActions
        (Config.initial ⟨sources, .empty, []⟩) acts).store.insights.rows, row.Sound) ∧
      ∀ n, ∀ row ∈ ((lifeSystem formatMoney).runActions
          (Config.initial ⟨sources, .empty, []⟩) (acts.take n)).store.insights.rows,
        ∃ row' ∈ ((lifeSystem formatMoney).runActions
          (Config.initial ⟨sources, .empty, []⟩) acts).store.insights.rows,
          row'.identity = row.identity := by
  constructor
  · refine (lifeSystem formatMoney).store_run (J := SoundRows) (P := fun _ c _ => Proper c)
      (fun s c input hs hc => soundRows_execute hc input hs) acts _
        (fun _ hrow => (nomatch hrow)) ?_
    exact (lifeSystem formatMoney).along_issuing acts _ fun r _ => handle_proper r
  · intro n row hrow
    have hrest : (lifeSystem formatMoney).runActions (Config.initial ⟨sources, .empty, []⟩) acts =
        (lifeSystem formatMoney).runActions ((lifeSystem formatMoney).runActions
          (Config.initial ⟨sources, .empty, []⟩) (acts.take n)) (acts.drop n) := by
      rw [← System.runActions_append, List.take_append_drop]
    rw [hrest]
    exact (lifeSystem formatMoney).store_run
      (J := fun s => ∃ row' ∈ s.insights.rows, row'.identity = row.identity)
      (P := fun _ _ _ => True)
      (fun s c input ⟨row', hrow', hidentity⟩ _ =>
        have ⟨row'', hrow'', hsame⟩ := kept_execute formatMoney c input hrow'
        ⟨row'', hrow'', hsame.trans hidentity⟩)
      (acts.drop n) _ ⟨row, hrow, rfl⟩ ((lifeSystem formatMoney).alongActions_callTrue _ _)

/-! ## The audit trail -/

def auditEntry : Event insightInterface → List AuditRecordInput
  | ⟨.recordAudit input, .ok _⟩ => [input]
  | _ => []

theorem auditLogs_upsertRow (s : InsightStore) (input : Input) (tenantId : Id)
    (period : Dashboard.InsightGenerationPeriod) (candidate : InsightCandidate) :
    (upsertRow s input tenantId period candidate).2.auditLogs = s.auditLogs := by
  unfold upsertRow
  dsimp only
  split
  · rfl
  split
  · rfl
  · split <;> rfl

theorem auditLogs_execute (formatMoney : Float → String) (c : InsightCommand) (input : Input)
    (s : InsightStore) :
    (execute formatMoney c input s).2.auditLogs =
      s.auditLogs ++ auditEntry ⟨c, (execute formatMoney c input s).1⟩ := by
  unfold execute
  by_cases hfault : input.fault = true
  · rw [if_pos hfault]
    cases c <;> exact (List.append_nil _).symm
  rw [if_neg hfault]
  cases c with
  | recordAudit audit => rfl
  | upsert tenantId period candidate =>
      exact (auditLogs_upsertRow s input tenantId period candidate).trans
        (List.append_nil _).symm
  | _ => exact (List.append_nil _).symm

def refreshRecord (tenantId actorId : Id) (result : RefreshInsightsResultDto) :
    AuditRecordInput where
  action := .insightGenerated
  actorId := some actorId
  entityId := none
  entityType := some "Insight"
  metadata := [("generated", some (toString result.generated)),
    ("periodEnd", some (isoText result.periodEnd)),
    ("periodStart", some (isoText result.periodStart))]
  tenantId := some tenantId

/-- The records that belong to a request and its reply. -/
def Recorded : InsightRequest → InsightReply → List AuditRecordInput → Prop
  | .refresh _ tenantId actorId, .refreshed result, records =>
      records = [refreshRecord tenantId actorId result]
  | .markRead tenantId actorId insightId, .insight _, records =>
      records.map .recordAudit = [insightAudit .insightRead tenantId actorId insightId]
  | .dismiss tenantId actorId insightId, .insight _, records =>
      records.map .recordAudit = [insightAudit .insightDismissed tenantId actorId insightId]
  | .writeSources _, .written, records => records = []
  | _, _, _ => False

theorem handle_entersLast (r : InsightRequest) :
    (handle r).Obeys (NothingYet auditEntry) (EnteredLast auditEntry (Recorded r)) [] := by
  cases r with
  | refresh order tenantId actorId =>
      refine enteredLast_map ?_
      refine silent_bind_obeys (Program.Issues.perform fun _ => rfl) rfl fun now h hh => ?_
      refine silent_bind_obeys (Program.Issues.perform fun _ => rfl) hh fun candidates h hh => ?_
      refine silent_bind_obeys (persistCandidates_issues (fun _ _ => rfl) _) hh fun _ h hh => ?_
      refine entersLast_obeys ?_ ?_ hh
      · exact fun _ => rfl
      · exact fun _ => rfl
  | markRead tenantId actorId insightId =>
      refine enteredLast_map ?_
      refine silent_bind_obeys (updateTenantInsight_issues (fun _ => rfl) fun _ => rfl) rfl
        fun insight h hh => ?_
      refine entersLast_obeys ?_ ?_ hh
      · exact fun _ => rfl
      · exact fun _ => rfl
  | dismiss tenantId actorId insightId =>
      refine enteredLast_map ?_
      refine silent_bind_obeys (updateTenantInsight_issues (fun _ => rfl) fun _ => rfl) rfl
        fun insight h hh => ?_
      refine entersLast_obeys ?_ ?_ hh
      · exact fun _ => rfl
      · exact fun _ => rfl
  | writeSources sources =>
      refine enteredLast_map ?_
      refine quiet_obeys (Program.Issues.perform fun _ => rfl) ?_ rfl
      exact fun _ => rfl

/-- The audit trail is made of the records of the requests: an answered refresh, reading
or dismissal has made exactly one, which names its tenant and its actor and says what was
replied, and a request that failed, or is not answered yet, none. -/
theorem audit_trail_is_exact (formatMoney : Float → String) (s : InsightStore)
    (acts : List (Action InsightRequest Input)) :
    (((lifeSystem formatMoney).runActions (Config.initial s) acts).store.auditLogs).Perm
        (s.auditLogs ++
          ((lifeSystem formatMoney).runActions (Config.initial s) acts).entered auditEntry) ∧
      ∀ t ∈ ((lifeSystem formatMoney).runActions (Config.initial s) acts).threads,
        t.Accounted auditEntry (Recorded t.request) :=
  ⟨(lifeSystem formatMoney).ledger_run auditEntry (auditLogs_execute formatMoney) acts s,
    (lifeSystem formatMoney).entered_run handle_entersLast acts s⟩

/-! ## Tenants -/

def InsightRequest.tenantId : InsightRequest → Option Id
  | .refresh _ tenantId _ | .markRead tenantId _ _ | .dismiss tenantId _ _ => some tenantId
  | .writeSources _ => none

def InsightStore.view (s : InsightStore) (tenantId : Id) : List Insight × List AuditRecordInput :=
  (s.insights.rows.filter fun row => row.tenantId == tenantId,
    s.auditLogs.filter fun record => record.tenantId == some tenantId)

def Spares (tenantId : Id) : InsightCommand → Prop
  | .upsert other _ _ | .updateMany _ other _ => other ≠ tenantId
  | .recordAudit record => record.tenantId ≠ some tenantId
  | _ => True

theorem view_execute {formatMoney : Float → String} {tenantId : Id} {c : InsightCommand}
    (hc : Spares tenantId c) (input : Input) (s : InsightStore) :
    (execute formatMoney c input s).2.view tenantId = s.view tenantId := by
  refine Prod.ext ?_ ?_
  · change ((execute formatMoney c input s).2.insights.rows).filter _ = _
    rcases rows_execute formatMoney c input s with
      ⟨f, hrows, hf⟩ | ⟨other, period, candidate, rfl, hrows⟩
    · rw [hrows]
      refine filter_map_of_fixed (fun row _ => ?_) fun row _ htenant => ?_
      · rcases hf row with hsame | hrewrites
        · rw [hsame]
        · have hidentity := identity_of_rewrites hrewrites
          rw [(Prod.mk.inj (Prod.mk.inj hidentity).2).1]
      · refine (hf row).resolve_right fun hrewrites => ?_
        rw [beq_iff_eq] at htenant
        cases c with
        | upsert other period candidate => exact hc (hrewrites.1.symm.trans htenant)
        | updateMany id other status => exact hc (hrewrites.2.1.symm.trans htenant)
        | _ => exact hrewrites
    · rw [hrows]
      apply filter_append_of_false
      intro row hrow
      rw [List.mem_singleton.mp hrow]
      exact beq_eq_false_iff_ne.mpr hc
  · change ((execute formatMoney c input s).2.auditLogs).filter _ = _
    rw [auditLogs_execute]
    apply filter_append_of_false
    intro record hrecord
    cases c with
    | recordAudit record' =>
        cases hanswer : (execute formatMoney (.recordAudit record') input s).1 with
        | ok _ =>
            rw [hanswer] at hrecord
            rw [List.mem_singleton.mp hrecord]
            exact beq_eq_false_iff_ne.mpr hc
        | error _ =>
            rw [hanswer] at hrecord
            cases hrecord
    | _ => cases hrecord

theorem handle_spares {tenantId : Id} {r : InsightRequest} (h : r.tenantId ≠ some tenantId) :
    (handle r).Issues (Spares tenantId) := by
  cases r with
  | refresh order other actorId =>
      have hother : other ≠ tenantId := fun heq => h (congrArg some heq)
      refine (Program.issues_map_iff _ _).mpr ?_
      refine (Program.Issues.perform trivial).bind fun now => ?_
      refine (Program.Issues.perform trivial).bind fun candidates => ?_
      refine (persistCandidates_issues (fun _ => hother) _).bind fun _ => ?_
      exact (Program.Issues.perform h).bind fun _ => trivial
  | markRead other actorId insightId =>
      have hother : other ≠ tenantId := fun heq => h (congrArg some heq)
      refine (Program.issues_map_iff _ _).mpr ?_
      refine (updateTenantInsight_issues hother trivial).bind fun insight => ?_
      exact (Program.Issues.perform h).bind fun _ => trivial
  | dismiss other actorId insightId =>
      have hother : other ≠ tenantId := fun heq => h (congrArg some heq)
      refine (Program.issues_map_iff _ _).mpr ?_
      refine (updateTenantInsight_issues hother trivial).bind fun insight => ?_
      exact (Program.Issues.perform h).bind fun _ => trivial
  | writeSources sources =>
      exact (Program.issues_map_iff _ _).mpr (Program.Issues.perform trivial)

/-- The requests of the other tenants leave a tenant's insights and audit records as
they are. -/
theorem other_tenants_are_spared (formatMoney : Float → String) (tenantId : Id)
    (s : InsightStore) (acts : List (Action InsightRequest Input))
    (h : ∀ r, .start r ∈ acts → r.tenantId ≠ some tenantId) :
    ((lifeSystem formatMoney).runActions (Config.initial s) acts).store.view tenantId =
      s.view tenantId := by
  refine (lifeSystem formatMoney).store_run (J := fun s' => s'.view tenantId = s.view tenantId)
    (P := fun _ c _ => Spares tenantId c) (fun s' c input hs' hc => ?_) acts _ rfl ?_
  · exact (view_execute hc input s').trans hs'
  · exact (lifeSystem formatMoney).along_issuing acts s fun r hr => handle_spares (h r hr)

def oneInsight : InsightStore :=
  ((lifeSystem fun _ => "R$ 0,00").runActions (Config.initial ⟨lateSources ["a"], .empty, []⟩)
    (wholeRequest 0 4 (.refresh anyArrangement "t" "u"))).store

/-- Another tenant marks that insight as read and dismisses it by its id, and refreshes. -/
def intruderRequests : List (Action InsightRequest Input) :=
  wholeRequest 0 2 (.markRead "other" "v" "0") ++ wholeRequest 1 2 (.dismiss "other" "v" "0") ++
    wholeRequest 2 4 (.refresh anyArrangement "other" "v")

theorem other_tenants_are_spared_refresh :
    (oneInsight.view "t").1.map (fun row => (row.id, row.status)) = [("0", .new)] ∧
      ((lifeSystem fun _ => "R$ 0,00").runActions (Config.initial oneInsight)
        intruderRequests).store.view "t" = oneInsight.view "t" := by
  refine ⟨by decide +kernel, ?_⟩
  apply other_tenants_are_spared
  intro r hr
  simp [intruderRequests, wholeRequest] at hr
  rcases hr with rfl | rfl | rfl <;> decide

end Logistics.Insights
