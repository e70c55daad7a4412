import Logistics.Auth.Sessions

/-!
# Refresh families under sequential calls

Calls run one after the other. Between its lookup and its rotation a `refresh`
writes nothing, so every rotation is of a token that is live, and the family of
the token it adds is that token's; every other session starts a family of its
own. `handle_keepsFamilies` shows this of each request, and what a family does
over a sequence of requests follows from it.
-/

namespace Logistics.Auth

open Logistics.Library

section

variable [Collation]

/-- The family drawn for a new session is not in use. -/
def FreshFamily (s : AuthStore) : authInterface.Command → AuthInput → Prop
  | .write (.createRefreshToken data), _ =>
      ∀ row ∈ s.refreshTokens.rows, row.familyId ≠ data.familyId
  | _, _ => True

instance (s : AuthStore) (c : Command) (input : AuthInput) : Decidable (FreshFamily s c input) := by
  unfold FreshFamily
  split <;> infer_instance

/-- The session whose refresh token is presented. -/
def presented (P : Platform) (s : AuthStore) (refreshToken : Option String) :
    Option RefreshTokenRecord :=
  (present refreshToken).bind fun token =>
    (Query.findRefreshTokenByHash (hashRefreshToken P token)).answer s 0

theorem mem_of_presented {P : Platform} {s : AuthStore} {refreshToken : Option String}
    {session : RefreshTokenRecord} (h : presented P s refreshToken = some session) :
    session.token ∈ s.refreshTokens.rows := by
  obtain ⟨token, -, h⟩ := Option.bind_eq_some_iff.mp h
  obtain ⟨row, hrow, h⟩ := Option.bind_eq_some_iff.mp h
  obtain ⟨user, -, h⟩ := Option.bind_eq_some_iff.mp h
  obtain rfl := Option.some.inj h
  exact List.mem_of_find?_eq_some hrow

section Calls

variable {α β : Type} {A G : AuthStore → authInterface.Command → AuthInput → Prop}
  {Q : Except ServiceError α → AuthStore → Prop} {s : AuthStore}

theorem wp_query_bind {q : Query} {f : q.Result → Program authInterface α}
    (hG : ∀ i, A s (.query q) i → G s (.query q) i)
    (hanswer : ∀ i, A s (.query q) i → (f (q.answer s i.now)).wp execute A G Q s)
    (hfault : Q (.error .fault) s) : (query q >>= f).wp execute A G Q s := by
  intro i hi
  refine ⟨hG i hi, ?_⟩
  by_cases hf : i.fault = true
  · simp only [execute, hf, if_true]
    exact hfault
  · rw [Bool.not_eq_true] at hf
    simp only [execute, hf, Bool.false_eq_true, if_false]
    exact hanswer i hi

theorem wp_external_bind {e : External} {f : e.Result → Program authInterface α}
    (hG : ∀ i, A s (.external e) i → G s (.external e) i)
    (hanswer : ∀ i, A s (.external e) i → ∀ a, e.answer i = .ok a →
      (f a).wp execute A G Q s)
    (herror : ∀ i, A s (.external e) i → ∀ error, e.answer i = .error error →
      Q (.error error) s) : (external e >>= f).wp execute A G Q s := by
  refine Program.wp_perform_bind fun i hi => ⟨hG i hi, ?_, ?_⟩
  · exact fun a ha => hanswer i hi a ha
  · exact fun error herr => herror i hi error herr

end Calls

variable (P : Platform)

omit [Collation] in
/-- Apart from `refresh`, no request rotates a token. -/
theorem no_rotation {r : Request}
    (hr : ∀ refreshToken metadata, r ≠ .refresh refreshToken metadata) :
    WriteKind.rotateRefreshToken ∉ r.footprint := by
  cases r with
  | refresh refreshToken metadata => exact absurd rfl (hr refreshToken metadata)
  | _ => simp [Request.footprint]

theorem keepsFamilies_of_within {kinds : List WriteKind} {s : AuthStore} {c : Command}
    {input : AuthInput} (hc : c.Within kinds) (hkinds : WriteKind.rotateRefreshToken ∉ kinds)
    (hfresh : FreshFamily s c input) : KeepsFamilies s c := by
  cases c with
  | query q => trivial
  | external e => trivial
  | write w =>
      cases w with
      | createRefreshToken data => exact hfresh
      | rotateRefreshToken id data => exact absurd hc hkinds
      | _ => trivial

theorem keepsFamilies_of_no_session {kinds : List WriteKind} {s : AuthStore} {c : Command}
    (hcreate : .createRefreshToken ∉ kinds) (hrotate : .rotateRefreshToken ∉ kinds)
    (hc : c.Within kinds) : KeepsFamilies s c := by
  cases c with
  | query q => trivial
  | external e => trivial
  | write w =>
      cases w with
      | createRefreshToken data => exact absurd hc hcreate
      | rotateRefreshToken id data => exact absurd hc hrotate
      | _ => trivial

theorem wp_of_within {α : Type} {kinds : List WriteKind} {p : Program authInterface α}
    (hp : p.Issues (Command.Within kinds)) (hkinds : WriteKind.rotateRefreshToken ∉ kinds)
    (s : AuthStore) :
    p.wp execute FreshFamily (fun s c _ => KeepsFamilies s c) (fun _ _ => True) s :=
  Program.wp_of_issues (J := fun _ => True) hp
    (fun _ hc _ _ _ hfresh => ⟨keepsFamilies_of_within hc hkinds hfresh, trivial⟩) s trivial

/-- What a `refresh` has established when it rotates: the session presented is
live and the store is still the one it was read from. -/
def Validated (s : AuthStore) (refreshToken : Option String)
    (outcome : Except ServiceError RefreshTokenRecord) (s' : AuthStore) : Prop :=
  match outcome with
  | .ok session => s' = s ∧ presented P s refreshToken = some session ∧ session.token.live = true
  | .error error => ∀ session, presented P s refreshToken = some session →
      session.token.live = false → error ≠ .fault →
        EndedFamily session.token.familyId s'

theorem ended_revokeFamily (s : AuthStore) (familyId : Id) (now : Time) :
    EndedFamily familyId (revokeTokens s
      (fun row => row.familyId == familyId && row.revokedAt.isNone) now) := by
  intro row' hrow' hfamily
  obtain ⟨row, -, rfl⟩ := List.mem_map.mp hrow'
  split at hfamily
  · next hrevoke =>
      rw [if_pos hrevoke]
      rfl
  · next hkeep =>
      rw [if_neg hkeep]
      simpa [RefreshToken.live, hfamily, Option.isSome_iff_ne_none] using hkeep

section Refresh

variable {A G : AuthStore → authInterface.Command → AuthInput → Prop}

theorem rejectRefresh_wp
    (hG : ∀ c : Command, c.Within [.revokeTokens, .audit] → ∀ s i, A s c i → G s c i)
    {metadata : AuthRequestMetadata} {tenantId userId : Option Id}
    {s : AuthStore} {Q : Except ServiceError RefreshTokenRecord → AuthStore → Prop}
    (hQ : ∀ error s', s'.refreshTokens = s.refreshTokens → Q (.error error) s') :
    (rejectRefresh P metadata tenantId userId).wp execute A G Q s := by
  refine Program.wp_perform_bind fun i hi => ⟨hG _ ?_ s i hi, fun _ _ => hQ _ _ ?_,
    fun _ _ => hQ _ _ ?_⟩
  · simp [Write.kind]
  all_goals
    obtain ⟨auditLogs, h⟩ := execute_recordAudit _ _ s
    rw [h]

theorem getValidRefreshSession_wp
    (hG : ∀ c : Command, c.Within [.revokeTokens, .audit] → ∀ s i, A s c i → G s c i)
    (refreshToken : Option String) (metadata : AuthRequestMetadata)
    (s : AuthStore) :
    (getValidRefreshSession P refreshToken metadata).wp execute A G
      (Validated P s refreshToken) s := by
  unfold getValidRefreshSession
  cases htoken : present refreshToken with
  | none =>
      refine rejectRefresh_wp P hG fun error s' _ session hsession => ?_
      simp [presented, htoken] at hsession
  | some token =>
      refine wp_query_bind (fun i hi => hG _ (within_query _) s i hi) (fun i _ => ?_)
        fun _ _ _ h => absurd rfl h
      have hpresented : presented P s refreshToken =
          (Query.findRefreshTokenByHash (hashRefreshToken P token)).answer s i.now := by
        simp only [presented, htoken]
        rfl
      cases hanswer : (Query.findRefreshTokenByHash (hashRefreshToken P token)).answer s i.now with
      | none =>
          refine rejectRefresh_wp P hG fun error s' _ session hsession => ?_
          rw [hpresented, hanswer] at hsession
          cases hsession
      | some session =>
          rw [hanswer] at hpresented
          by_cases hrevoked : session.token.revokedAt.isSome = true
          · dsimp only
            rw [if_pos hrevoked]
            refine Program.wp_perform_bind fun i hi => ⟨hG _ ?_ s i hi, fun _ hok => ?_,
              fun e herr => ?_⟩
            · simp [Write.kind]
            · refine rejectRefresh_wp P hG fun error s' hs' session' hsession' _ _ => ?_
              obtain rfl := Option.some.inj (hpresented.symm.trans hsession')
              unfold EndedFamily
              rw [hs']
              by_cases hfault : i.fault = true
              · simp [execute, hfault] at hok
              · rw [Bool.not_eq_true] at hfault
                simp only [execute, hfault, Bool.false_eq_true, if_false, Write.apply]
                exact ended_revokeFamily s _ _
            · intro session' _ _ hne
              by_cases hfault : i.fault = true
              · simp only [execute, hfault, if_true] at herr
                exact absurd (Except.error.inj herr).symm hne
              · simp [execute, hfault, Write.apply] at herr
          · dsimp only
            rw [if_neg hrevoked]
            have hlive : session.token.live = true := by
              simpa [RefreshToken.live] using hrevoked
            have hrejected : ∀ error s', Validated P s refreshToken (.error error) s' := by
              intro error s' session' hsession' hdead
              obtain rfl := Option.some.inj (hpresented.symm.trans hsession')
              rw [hlive] at hdead
              cases hdead
            refine wp_external_bind (fun i hi => hG _ (within_external _) s i hi)
              (fun i _ now _ => ?_)
              fun _ _ error _ => hrejected error s
            split
            · exact rejectRefresh_wp P hG fun error s' _ => hrejected error s'
            · exact ⟨rfl, hpresented, hlive⟩

end Refresh

/-- A refresh rotates only a live token, which it was presented; presented a
revoked one, it ends the family. -/
theorem refresh_wp {A : AuthStore → authInterface.Command → AuthInput → Prop}
    (refreshToken : Option String) (metadata : AuthRequestMetadata) (s : AuthStore) :
    (refresh P refreshToken metadata).wp execute A (fun s c _ => KeepsFamilies s c)
      (fun outcome s' => ∀ session, presented P s refreshToken = some session →
        session.token.live = false → outcome.isOk = false ∧
          (outcome ≠ .error .fault → EndedFamily session.token.familyId s')) s := by
  refine Program.wp_bind (getValidRefreshSession_wp P ?_ refreshToken metadata s)
    (fun session s' h => ?_) fun error s' h session hsession hdead => ⟨rfl, fun hne => ?_⟩
  · exact fun c hc s i _ => keepsFamilies_of_no_session (by simp) (by simp) hc
  · obtain ⟨rfl, hpresented, hlive⟩ := h
    have hrow := mem_of_presented hpresented
    have hissue : (issueSession P session.user metadata "refresh" (some session)).wp execute A
        (fun s c _ => KeepsFamilies s c) (fun _ _ => True) s' := by
      refine issueSession_wp P (J := fun s'' => s'' = s') ?_ ?_ ?_ rfl
      · rintro c hc i _ rfl -
        refine ⟨?_, execute_of_within_nil hc i _⟩
        cases c with
        | write w => cases hc
        | _ => trivial
      · rintro data hdata i _ rfl - row hrow' hid
        obtain rfl := refreshToken_eq_of_id hrow' hrow hid
        exact ⟨hlive, (hdata.familyId session rfl).symm⟩
      · exact fun c hc i s'' _ => keepsFamilies_of_no_session (by simp) (by simp) hc
    refine Program.wp_mono hissue fun outcome s'' _ session' hsession' hdead => ?_
    obtain rfl := Option.some.inj (hpresented.symm.trans hsession')
    rw [hlive] at hdead
    cases hdead
  · exact h session hsession hdead fun herror => hne (congrArg Except.error herror)

/-- Every request keeps the families, if those drawn for new sessions are new. -/
theorem handle_keepsFamilies (r : Request) (s : AuthStore) :
    (handle P r).wp execute FreshFamily (fun s c _ => KeepsFamilies s c) (fun _ _ => True) s := by
  by_cases hr : ∃ refreshToken metadata, r = .refresh refreshToken metadata
  · obtain ⟨refreshToken, metadata, rfl⟩ := hr
    rw [handle, map_eq_pure_bind]
    exact Program.wp_bind (refresh_wp P refreshToken metadata s) (fun _ _ _ => trivial)
      fun _ _ _ => trivial
  · exact wp_of_within (handle_within P r) (no_rotation fun refreshToken metadata h =>
      hr ⟨refreshToken, metadata, h⟩) s

theorem alongCalls_keepsFamilies {calls : List (Request × (ℕ → AuthInput))} {s : AuthStore}
    (hfresh : (authSystem P).AlongCalls FreshFamily calls s) :
    (authSystem P).AlongCalls (fun s c _ => KeepsFamilies s c) calls s :=
  System.alongCalls_of_invariant (J := fun _ => True)
    (fun r s _ => Program.wp_mono (handle_keepsFamilies P r s) fun _ _ h => h)
      calls s trivial hfresh

theorem run_refresh {refreshToken : Option String} {metadata : AuthRequestMetadata}
    {ω : ℕ → AuthInput} {s : AuthStore} {session : RefreshTokenRecord}
    (hsession : presented P s refreshToken = some session) (hdead : session.token.live = false) :
    ((handle P (.refresh refreshToken metadata)).run execute ω s).1.isOk = false ∧
      (((handle P (.refresh refreshToken metadata)).run execute ω s).1 ≠ .error .fault →
        EndedFamily session.token.familyId
          ((handle P (.refresh refreshToken metadata)).run execute ω s).2) := by
  have h : (handle P (.refresh refreshToken metadata)).wp execute (fun _ _ _ => True)
      (fun s c _ => KeepsFamilies s c)
      (fun outcome s' => outcome.isOk = false ∧
        (outcome ≠ .error ServiceError.fault → EndedFamily session.token.familyId s')) s := by
    rw [handle, map_eq_pure_bind]
    refine Program.wp_bind (refresh_wp P refreshToken metadata s)
      (fun result s' h => ?_) fun error s' h => ?_
    · exact absurd (h session hsession hdead).1 (by simp [Except.isOk, Except.toBool])
    · obtain ⟨-, hended⟩ := h session hsession hdead
      exact ⟨rfl, fun hne => hended fun herror => hne (by cases herror; rfl)⟩
  exact Program.wp_run h (Program.along_true _ _ _)

/-- A sequence of requests, each run to its end, in which new sessions draw new
families: between two requests no family has two live tokens; a token once
revoked stays so; and a refresh that is presented a revoked token, unless the
database breaks it off, ends the family: no token of it is live later and no
refresh presenting one of them succeeds. -/
theorem refresh_families {s : AuthStore} (hs : OneLiveToken s)
    {calls : List (Request × (ℕ → AuthInput))}
    (hfresh : (authSystem P).AlongCalls FreshFamily calls s) :
    (∀ pre post, calls = pre ++ post →
      OneLiveToken ((authSystem P).runCalls pre s) ∧
      ∀ id, RevokedToken id ((authSystem P).runCalls pre s) →
        RevokedToken id ((authSystem P).runCalls calls s)) ∧
    ∀ pre refreshToken metadata ω post session,
      calls = pre ++ (.refresh refreshToken metadata, ω) :: post →
      presented P ((authSystem P).runCalls pre s) refreshToken = some session →
      session.token.live = false →
      ((handle P (.refresh refreshToken metadata)).run execute ω
        ((authSystem P).runCalls pre s)).1 ≠ .error .fault →
      EndedFamily session.token.familyId ((authSystem P).runCalls calls s) ∧
      ∀ refreshToken' metadata' ω' session',
        presented P ((authSystem P).runCalls calls s) refreshToken' = some session' →
        session'.token.familyId = session.token.familyId →
        ((handle P (.refresh refreshToken' metadata')).run execute ω'
          ((authSystem P).runCalls calls s)).1.isOk = false := by
  have hkeeps := alongCalls_keepsFamilies P hfresh
  have honeLive : ∀ pre post, calls = pre ++ post →
      OneLiveToken ((authSystem P).runCalls pre s) := by
    rintro pre post rfl
    exact System.runCalls_of_along (J := OneLiveToken)
      (fun _ _ i hs hc => oneLive_execute hs hc i) pre s hs
      ((System.alongCalls_append pre post s).mp hkeeps).1
  refine ⟨fun pre post hcalls => ⟨honeLive pre post hcalls, fun id hrevoked => ?_⟩, ?_⟩
  · rw [hcalls, System.runCalls_append]
    exact System.runCalls_of_along (J := RevokedToken id) (G := fun _ _ _ => True)
      (fun _ c i h _ => revokedToken_execute h c i) post _ hrevoked
      (System.alongCalls_true post _)
  · intro pre refreshToken metadata ω post session hcalls hsession hdead hcompleted
    have hended : EndedFamily session.token.familyId ((authSystem P).runCalls calls s) := by
      have hsplit : calls = (pre ++ [(.refresh refreshToken metadata, ω)]) ++ post := by
        rw [hcalls, List.append_assoc]
        rfl
      -- the family is over once the refresh has returned, and stays so
      have hover : OverFamily session.token.familyId
          ((authSystem P).runCalls (pre ++ [(.refresh refreshToken metadata, ω)]) s) := by
        refine ⟨honeLive _ _ hsplit, ?_, ?_⟩
        · rw [System.runCalls_append]
          exact (run_refresh P hsession hdead).2 hcompleted
        · rw [System.runCalls_append]
          refine System.runCalls_of_along (G := fun _ _ _ => True)
            (J := fun s : AuthStore =>
              ∃ row ∈ s.refreshTokens.rows, row.familyId = session.token.familyId)
            ?_ _ _ ⟨session.token, mem_of_presented hsession, rfl⟩ (System.alongCalls_true _ _)
          rintro s c i ⟨row, hrow, hfamily⟩ -
          obtain ⟨row', hrow', hlater⟩ := exists_later_execute hrow c i
          exact ⟨row', hrow', hlater.familyId.trans hfamily⟩
      rw [hsplit, System.alongCalls_append] at hkeeps
      rw [hsplit, System.runCalls_append]
      exact (System.runCalls_of_along (J := OverFamily session.token.familyId)
        (fun _ _ i h hc => overFamily_execute h hc i) post _ hover hkeeps.2).ended
    refine ⟨hended, fun refreshToken' metadata' ω' session' hsession' hfamily => ?_⟩
    exact (run_refresh P hsession' (hended _ (mem_of_presented hsession') hfamily)).1

end

/-! ## A token presented twice -/

attribute [local instance] foldCase

/-- Instants, identifiers and random bytes that no other request of the example
draws. -/
def drawn (request n : ℕ) : AuthInput where
  now := 10 * request + n
  ids k := toString (100 * request + 10 * n + k)
  fault := false
  bytes k := UInt8.ofNat (65 + request + k)
  uuid := toString (100 * request + n)
  locked := false
  identity := .error .fault

def noMetadata : AuthRequestMetadata := ⟨none, none, none⟩

/-- An active user of one tenant, with the password `segredo`. -/
def oneUser : AuthStore :=
  { AuthStore.empty with
    tenants := ⟨[⟨"tenant", "Acme", "acme", true⟩], by decide⟩
    users := ⟨[{
      id := "ana", tenantId := some "tenant", branchId := none, name := "Ana"
      email := "ana@acme", passwordHash := some "scrypt$sal$segredo", role := .operator
      status := .active, mfaEnabled := false, mfaSecret := none
      passwordChangeRequired := false, lastLoginAt := none, deletedAt := none
      createdAt := 0 }], by decide⟩ }

def drawnToken (request : ℕ) : String :=
  bytesText ((List.range 48).map (drawn request 0).bytes)

/-- A login, and its token exchanged. -/
def exchangedCalls : List (Request × (ℕ → AuthInput)) :=
  [(.login ⟨"ana@acme", "segredo", none⟩ noMetadata, drawn 1),
    (.refresh (some (drawnToken 1)) noMetadata, drawn 2)]

/-- The exchanged token is presented again. -/
def reusedCalls : List (Request × (ℕ → AuthInput)) :=
  exchangedCalls ++ [(.refresh (some (drawnToken 1)) noMetadata, drawn 3)]

def isFault (outcome : Except ServiceError Reply) : Bool :=
  match outcome with
  | .error error => error = .fault
  | .ok _ => false

/-- The exchanged token is presented again: its successor is revoked with it. -/
theorem reusedCalls_ended :
    ∃ session, presented plainPlatform
        ((authSystem plainPlatform).runCalls exchangedCalls oneUser) (some (drawnToken 1)) =
      some session ∧ EndedFamily session.token.familyId
        ((authSystem plainPlatform).runCalls reusedCalls oneUser) := by
  have hfound : ((presented plainPlatform ((authSystem plainPlatform).runCalls exchangedCalls
      oneUser) (some (drawnToken 1))).any fun session => !session.token.live) = true := by
    decide +kernel
  obtain ⟨session, hsession, hdead⟩ := (Option.any_eq_true _ _).mp hfound
  refine ⟨session, hsession, ?_⟩
  have hfresh : (authSystem plainPlatform).AlongCalls FreshFamily reusedCalls oneUser := by
    decide +kernel
  refine ((refresh_families plainPlatform oneLive_nil hfresh).2 exchangedCalls _ _ (drawn 3) []
    session rfl hsession (by simpa using hdead) fun hfault => ?_).1
  have hnot : isFault ((handle plainPlatform (.refresh (some (drawnToken 1)) noMetadata)).run
      execute (drawn 3)
      ((authSystem plainPlatform).runCalls exchangedCalls oneUser)).1 = false := by
    decide +kernel
  rw [hfault] at hnot
  cases hnot

end Logistics.Auth
