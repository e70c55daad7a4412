import Logistics.Auth.Accounts
import Logistics.Auth.Mfa

/-!
# The session gate

`AuthService.issueSession` asks for an active user of an active tenant, and its
paths come with a user read from the store. `UsersService.issueSession` asks for
nothing: the user of an accepted invitation is active, and its tenant is the one
of the invitation, active or not. `sessions_are_gated_iff` says this of every
request.
-/

namespace Logistics.Auth

open Logistics.Library

section

variable [Collation]

def ActiveIn (s : AuthStore) (userId tenantId : Id) : Prop :=
  ∃ user ∈ s.users.rows, user.id = userId ∧ user.status = .active ∧
    user.tenantId = some tenantId ∧ ∃ tenant ∈ s.tenants.rows, tenant.id = tenantId ∧
      tenant.active = true

instance (s : AuthStore) (userId tenantId : Id) : Decidable (ActiveIn s userId tenantId) := by
  unfold ActiveIn
  infer_instance

def Command.session : Command → Option RefreshTokenData
  | .write (.createRefreshToken data) | .write (.rotateRefreshToken _ data) => some data
  | _ => none

def Reply.session? : Reply → Option AuthResult
  | .session result => some result
  | .login (.session result) => some result
  | .redirect answer => answer.session
  | _ => none

/-- An invitation is accepted to an active tenant. -/
def InvitesToActiveTenant (P : Platform) (r : Request) (s : AuthStore) : Prop :=
  match r with
  | .acceptInvite dto _ => ∀ invitation ∈ s.userInvitations.rows,
      invitation.tokenHash = hashOpaqueToken P dto.token →
      ∃ tenant ∈ s.tenants.rows, tenant.id = invitation.tenantId ∧ tenant.active = true
  | _ => True

/-! ## Tenants under the calls -/

theorem apply_tenants (w : Write) (s : AuthStore) (input : AuthInput) :
    Leaves (fun s' => s.tenants.rows ⊆ s'.tenants.rows) (w.apply s input) := by
  cases w with
  | registerTenant data =>
      simp only [Write.apply, registerTenantRows, leaves_bind_iff, leaves_pure, orViolation_eq_ok]
      intro tenants htenants _ _ _ _ _ _ _ _ _ _
      rw [Table.tryInsert_rows htenants]
      exact List.subset_append_left _ _
  | updateUser id change =>
      simp only [Write.apply]
      split
      · exact leaves_error _
      · exact List.Subset.refl _
  | linkAccount | upsertOnboarding | completeOnboardingSettings | upsertInvitation =>
      simp only [Write.apply, linkAccountRows, upsertInvitationRows]
      split <;> simp only [leaves_bind_iff, leaves_pure, leaves_ok] <;> intros <;>
        exact List.Subset.refl _
  | _ =>
      simp only [Write.apply, confirmMfaRows, completeRegistrationRows, createIncompleteRows,
        acceptInvitationRows, leaves_bind_iff, leaves_pure, leaves_ok]
      intros
      exact List.Subset.refl _

/-- No call removes a tenant or changes it. -/
theorem execute_tenants (c : Command) (input : AuthInput) (s : AuthStore) :
    s.tenants.rows ⊆ (execute c input s).2.tenants.rows :=
  execute_of_leaves (List.Subset.refl _) fun w _ => apply_tenants w s input

/-! ## Active users stay active -/

omit [Collation] in
theorem rewrite_activeIn {kinds : List WriteKind} {w : Write} (hw : (Command.write w).Within kinds)
    (hadminister : .administerUser ∉ kinds) (hcomplete : .completeRegistration ∉ kinds)
    (now : Time) (user : User) :
    (w.rewrite now user).status = user.status ∧ (w.rewrite now user).tenantId = user.tenantId := by
  cases w with
  | completeRegistration stateId userId tenantId => exact absurd hw hcomplete
  | updateUser id change =>
      cases change with
      | admin name role status => exact absurd hw hadminister
      | approve role => exact absurd hw hadminister
      | _ => exact ⟨rfl, rfl⟩
  | _ => exact ⟨rfl, rfl⟩

theorem activeIn_execute {K : List WriteKind} {c : Command} (hc : c.Within K)
    (hadminister : .administerUser ∉ K) (hcomplete : .completeRegistration ∉ K)
    {s : AuthStore} {userId tenantId : Id} (h : ActiveIn s userId tenantId) (input : AuthInput) :
    ActiveIn (execute c input s).2 userId tenantId := by
  obtain ⟨user, huser, hid, hstatus, htenantId, tenant, htenant, htenant'⟩ := h
  have htenant'' := execute_tenants c input s htenant
  obtain ⟨user', huser', hid', rfl | ⟨w, rfl, -, -, rfl⟩⟩ := exists_user_execute huser c input
  · exact ⟨user', huser', hid, hstatus, htenantId, tenant, htenant'', htenant'⟩
  · obtain ⟨hstatus', htenantId'⟩ := rewrite_activeIn hc hadminister hcomplete input.now user
    exact ⟨_, huser', hid'.trans hid, hstatus'.trans hstatus, htenantId'.trans htenantId, tenant,
      htenant'', htenant'⟩

/-- The user of the record is active in the tenant for which a session of it is
issued. -/
def Entitled (user : AuthUserRecord) (s : AuthStore) : Prop :=
  ∀ tenant, activeTenant user = some tenant → ActiveIn s user.user.id tenant.id

theorem entitled_userRecord {s : AuthStore} {user : User} (huser : user ∈ s.users.rows) :
    Entitled (userRecord s user) s := by
  intro tenant htenant
  unfold activeTenant at htenant
  split at htenant
  · next hstatus =>
      obtain ⟨hfound, hactive⟩ := Option.filter_eq_some_iff.mp htenant
      obtain ⟨tenantId, htenantId, hfind⟩ := Option.bind_eq_some_iff.mp hfound
      have hid := List.find?_some hfind
      rw [beq_iff_eq] at hid
      subst hid
      exact ⟨user, huser, rfl, hstatus, htenantId, tenant, List.mem_of_find?_eq_some hfind, rfl,
        hactive⟩
  · cases htenant

/-! ## The paths of the authentication service -/

def gateKinds : List WriteKind :=
  [.createOAuthState, .useOAuthState, .linkAccount, .createIncompleteUser, .createMfaChallenge,
    .useMfaChallenge, .useRecoveryCode, .revokeTokens, .updateUser, .audit]

def Gated (s : AuthStore) (c : authInterface.Command) (_ : AuthInput) : Prop :=
  ∀ data, Command.session c = some data → ActiveIn s data.userId data.tenantId

instance (s : AuthStore) (c : Command) (input : AuthInput) : Decidable (Gated s c input) :=
  decidable_of_iff
    ((Command.session c).all (fun data => decide (ActiveIn s data.userId data.tenantId)) = true)
    (by simp only [Gated, Option.all_eq_true, decide_eq_true_eq])

def GatedAnswer (outcome : Except ServiceError AuthResult) (s : AuthStore) : Prop :=
  ∀ result, outcome = .ok result → ActiveIn s result.user.id result.user.tenant.id

omit [Collation] in
theorem session_eq_none {kinds : List WriteKind} {c : Command} (hc : c.Within kinds)
    (hcreate : .createRefreshToken ∉ kinds) (hrotate : .rotateRefreshToken ∉ kinds) :
    c.session = none := by
  cases c with
  | query q => rfl
  | external e => rfl
  | write w =>
      cases w with
      | createRefreshToken data => exact absurd hc hcreate
      | rotateRefreshToken id data => exact absurd hc hrotate
      | _ => rfl

theorem gated_of_within {c : Command} (hc : c.Within gateKinds) (s : AuthStore)
    (input : AuthInput) : Gated s c input := by
  intro data hdata
  rw [session_eq_none hc (by simp [gateKinds]) (by simp [gateKinds])] at hdata
  cases hdata

theorem entitled_execute {c : Command} (hc : c.Within gateKinds) {user : AuthUserRecord}
    {s : AuthStore} (h : Entitled user s) (input : AuthInput) :
    Entitled user (execute c input s).2 := fun tenant htenant =>
  activeIn_execute hc (by simp [gateKinds]) (by simp [gateKinds]) (h tenant htenant) input

section Paths

variable {α : Type} {A : AuthStore → authInterface.Command → AuthInput → Prop}

theorem gated_wp {p : Program authInterface α} (hp : p.Issues (Command.Within gateKinds))
    (s : AuthStore) : p.wp execute A Gated (fun _ _ => True) s :=
  Program.wp_of_issues (J := fun _ => True) hp
    (fun _ hc i s _ _ => ⟨gated_of_within hc s i, trivial⟩) s trivial

theorem entitled_wp {p : Program authInterface α} (hp : p.Issues (Command.Within gateKinds))
    {user : AuthUserRecord} {s : AuthStore} (h : Entitled user s) :
    p.wp execute A Gated (fun _ s' => Entitled user s') s :=
  Program.wp_of_issues hp
    (fun _ hc i s h _ => ⟨gated_of_within hc s i, entitled_execute hc h i⟩) s h

variable (P : Platform)

theorem issueSession_gated {user : AuthUserRecord} {metadata : AuthRequestMetadata}
    {auditResult : String} {rotatedSession : Option RefreshTokenRecord} {s : AuthStore}
    (h : Entitled user s) :
    (issueSession P user metadata auditResult rotatedSession).wp execute A Gated GatedAnswer s := by
  refine Program.wp_mono (issueSession_wp_answer P (J := Entitled user) (K := Entitled user)
    ?_ ?_ ?_ h) fun outcome s' hanswer result hresult => ?_
  · intro c hc i s h _
    have hc' : c.Within gateKinds := hc.mono (List.nil_subset _)
    exact ⟨gated_of_within hc' s i, entitled_execute hc' h i⟩
  · intro data hdata i s h _
    obtain ⟨tenant, htenant, htenantId⟩ := hdata.tenantId
    constructor
    · intro data' hdata'
      have hsame : data = data' := by
        cases rotatedSession <;> exact Option.some.inj hdata'
      rw [← hsame, hdata.userId, htenantId]
      exact h tenant htenant
    · intro tenant htenant
      refine activeIn_execute (K := [.createRefreshToken, .rotateRefreshToken]) ?_ (by simp)
        (by simp) (h tenant htenant) i
      cases rotatedSession <;> simp [storeCommand, Write.kind]
  · intro c hc i s h _
    have hc' : c.Within gateKinds := hc.mono (by simp [gateKinds])
    exact ⟨gated_of_within hc' s i, entitled_execute hc' h i⟩
  · obtain ⟨h, tenant, htenant, huser⟩ := hanswer result hresult
    rw [huser]
    exact h tenant htenant

theorem refresh_gated (refreshToken : Option String) (metadata : AuthRequestMetadata)
    (s : AuthStore) :
    (refresh P refreshToken metadata).wp execute A Gated GatedAnswer s := by
  have hread := getValidRefreshSession_wp P (A := A) (G := Gated)
    (fun c hc s i _ => gated_of_within (hc.mono (by simp [gateKinds])) s i) refreshToken metadata s
  refine Program.wp_bind hread (fun session s₁ h => ?_) fun _ _ _ _ hresult => by cases hresult
  obtain ⟨rfl, hpresented, -⟩ := h
  obtain ⟨token, -, hanswer⟩ := Option.bind_eq_some_iff.mp hpresented
  obtain ⟨row, -, hrest⟩ := Option.bind_eq_some_iff.mp hanswer
  obtain ⟨record, hrecord, hrest⟩ := Option.bind_eq_some_iff.mp hrest
  obtain rfl := Option.some.inj hrest
  obtain ⟨user, huser, rfl⟩ := Option.map_eq_some_iff.mp hrecord
  exact issueSession_gated P (entitled_userRecord (List.mem_of_find?_eq_some huser))

theorem blockNonActiveLogin_entitled {user : AuthUserRecord} (provider : Option OAuthProvider)
    (metadata : AuthRequestMetadata) {s : AuthStore} (h : Entitled user s) :
    (blockNonActiveLogin P user provider metadata).wp execute A Gated
      (fun outcome s' => Entitled user s' ∧ ∀ response, outcome = .ok (some response) →
        (Reply.login response).session? = none) s := by
  unfold blockNonActiveLogin
  split
  · exact ⟨h, fun _ h => by cases h⟩
  · refine ⟨h, fun _ hresponse => ?_⟩
    obtain rfl := Option.some.inj (Except.ok.inj hresponse)
    rfl
  · refine ⟨h, fun _ hresponse => ?_⟩
    obtain rfl := Option.some.inj (Except.ok.inj hresponse)
    rfl
  · refine Program.wp_bind (entitled_wp ?_ h) (fun token s₁ h₁ => ?_) fun _ s₁ h₁ => ?_
    · simp [createCompletionToken, Write.kind, gateKinds]
    · refine ⟨h₁, fun _ hresponse => ?_⟩
      obtain rfl := Option.some.inj (Except.ok.inj hresponse)
      rfl
    · exact ⟨h₁, fun _ hresponse => by cases hresponse⟩
  all_goals exact ⟨h, fun _ hresponse => by cases hresponse⟩

def GatedReply (outcome : Except ServiceError Reply) (s : AuthStore) : Prop :=
  ∀ reply result, outcome = .ok reply → reply.session? = some result →
    ActiveIn s result.user.id result.user.tenant.id

theorem gatedReply_error (error : ServiceError) (s : AuthStore) :
    GatedReply (.error error) s := fun _ _ h => by cases h

theorem gatedReply_silent {reply : Reply} (hreply : reply.session? = none) (s : AuthStore) :
    GatedReply (.ok reply) s := by
  intro reply' result hreply' hsession
  obtain rfl := Except.ok.inj hreply'
  rw [hreply] at hsession
  cases hsession

theorem gatedReply_session {reply : Reply} {result : AuthResult}
    (hreply : reply.session? = some result) {s : AuthStore}
    (h : ActiveIn s result.user.id result.user.tenant.id) : GatedReply (.ok reply) s := by
  intro reply' result' hreply' hsession
  obtain rfl := Except.ok.inj hreply'
  obtain rfl := Option.some.inj (hreply.symm.trans hsession)
  exact h

theorem openLogin_gated {user : AuthUserRecord} (tenant : Tenant) (metadata : AuthRequestMetadata)
    {s : AuthStore} (h : Entitled user s) :
    (openLogin P user tenant metadata).wp execute A Gated
      (fun outcome s' => GatedReply (outcome.map Reply.login) s') s := by
  unfold openLogin
  split
  · refine Program.wp_bind (gated_wp (by simp [randomToken]) s) (fun token s₁ _ => ?_)
      fun error s' _ => gatedReply_error error s'
    refine Program.wp_bind (gated_wp (by simp [expiresIn]) s₁) (fun expiresAt s₂ _ => ?_)
      fun error s' _ => gatedReply_error error s'
    refine Program.wp_bind (gated_wp (Program.Issues.perform ?_) s₂) (fun _ s₃ _ => ?_)
      fun error s' _ => gatedReply_error error s'
    · simp [Write.kind, gateKinds]
    refine Program.wp_bind (gated_wp (by simp [expiresIn]) s₃) (fun shownExpiresAt s₄ _ => ?_)
      fun error s' _ => gatedReply_error error s'
    exact gatedReply_silent rfl s₄
  · refine Program.wp_bind (issueSession_gated P h) (fun session s₁ hsession => ?_)
      fun error s' _ => gatedReply_error error s'
    exact gatedReply_session rfl (hsession session rfl)

theorem login_gated (dto : LoginDto) (metadata : AuthRequestMetadata) (s : AuthStore) :
    (login P dto metadata).wp execute A Gated
      (fun outcome s' => GatedReply (outcome.map Reply.login) s') s := by
  refine Program.wp_bind (gated_wp ?_ s) (fun _ s₁ _ => ?_)
    fun error s' _ => gatedReply_error error s'
  · exact Program.Issues.tryCatch (Program.Issues.perform (within_external _))
      fun _ => by simp [gateKinds]
  refine wp_query_bind (fun i _ => gated_of_within (within_query _) s₁ i) (fun i _ => ?_)
    (gatedReply_error _ _)
  dsimp only
  split
  · next user hcandidate =>
      have hentitled : Entitled user s₁ := by
        obtain ⟨hfound, -⟩ := Option.filter_eq_some_iff.mp hcandidate
        split at hfound
        · next hsingle =>
            obtain rfl := Option.some.inj hfound
            obtain ⟨row, hrow, rfl⟩ := List.mem_map.mp (hsingle ▸ List.mem_singleton_self _)
            exact entitled_userRecord (List.mem_of_mem_filter (List.mem_of_mem_take hrow))
        · cases hfound
      refine wp_external_bind (fun i _ => gated_of_within (within_external _) s₁ i)
        (fun _ _ _ _ => ?_) fun _ _ error _ => gatedReply_error error s₁
      refine Program.wp_bind (blockNonActiveLogin_entitled P none metadata hentitled)
        (fun blocked s₂ h₂ => ?_) fun error s' _ => gatedReply_error error s'
      obtain ⟨hentitled, hblocked⟩ := h₂
      cases blocked with
      | some response => exact gatedReply_silent (hblocked response rfl) s₂
      | none =>
          dsimp only
          split
          · exact openLogin_gated P _ metadata hentitled
          · exact Program.wp_bind (gated_wp (by simp [recordAuthFailure, gateKinds]) s₂)
              (fun _ s₃ _ => gatedReply_error _ s₃) fun error s' _ => gatedReply_error error s'
  · unfold rejectLogin
    refine Program.wp_bind (gated_wp (Program.Issues.perform (within_external _)) s₁)
      (fun isLocked s₂ _ => ?_) fun error s' _ => gatedReply_error error s'
    refine Program.wp_bind (gated_wp (by simp [recordAuthFailure, gateKinds]) s₂)
      (fun _ s₃ _ => ?_) fun error s' _ => gatedReply_error error s'
    exact Program.wp_throwIf_bind (fun _ => gatedReply_error _ s₃)
      fun _ => gatedReply_error _ s₃

theorem verifyMfaLogin_gated (dto : VerifyMfaLoginDto) (metadata : AuthRequestMetadata)
    (s : AuthStore) :
    (verifyMfaLogin P dto metadata).wp execute A Gated GatedAnswer s := by
  have hrejected : ∀ (tenantId actorId : Option Id) (reason : String) (error : ServiceError) s,
      (recordAuthFailure P metadata tenantId actorId reason >>= fun _ =>
        (.throw error : Program authInterface AuthResult)).wp execute A Gated GatedAnswer s := by
    intro tenantId actorId reason error s
    exact Program.wp_bind (gated_wp (by simp [recordAuthFailure, gateKinds]) s)
      (fun _ _ _ _ h => by cases h) fun _ _ _ _ h => by cases h
  refine wp_query_bind (fun i _ => gated_of_within (within_query _) s i) (fun i _ => ?_)
    fun _ h => by cases h
  cases hfound : (Query.findMfaChallenge (hashOpaqueToken P dto.challengeToken)).answer
      s i.now with
  | none => exact hrejected _ _ _ _ s
  | some found =>
      obtain ⟨challenge, -, hrest⟩ := Option.bind_eq_some_iff.mp hfound
      obtain ⟨record, hrecord, hrest⟩ := Option.bind_eq_some_iff.mp hrest
      obtain rfl := Option.some.inj hrest
      obtain ⟨user, huser, rfl⟩ := Option.map_eq_some_iff.mp hrecord
      have hentitled := entitled_userRecord (List.mem_of_find?_eq_some huser)
      dsimp only
      split
      · refine Program.wp_bind (entitled_wp (verifyMfaOrRecovery_within P _ _ _ _ ?_) hentitled)
          (fun verified s₁ h₁ => ?_) fun _ _ _ _ h => by cases h
        · simp [gateKinds]
        split
        · refine Program.wp_bind (entitled_wp (Program.Issues.perform ?_) h₁) (fun _ s₂ h₂ => ?_)
            fun _ _ _ _ h => by cases h
          · simp [Write.kind, gateKinds]
          · exact issueSession_gated P h₂
        · exact hrejected _ _ _ _ s₁
      · exact hrejected _ _ _ _ s

theorem loginLinkedAccount_gated (provider : OAuthProvider) {existing : OAuthAccountRecord}
    (metadata : AuthRequestMetadata) {s : AuthStore} (h : Entitled existing.user s) :
    (loginLinkedAccount P provider existing metadata).wp execute A Gated
      (fun outcome s' => GatedReply (outcome.map Reply.redirect) s') s := by
  refine Program.wp_bind (blockNonActiveLogin_entitled P (some provider) metadata h)
    (fun blocked s₁ h₁ => ?_) fun error s' _ => gatedReply_error error s'
  split
  · exact gatedReply_silent rfl s₁
  · exact gatedReply_silent rfl s₁
  · refine Program.wp_bind (issueSession_gated P h₁.1) (fun session s₂ hsession => ?_)
      fun error s' _ => gatedReply_error error s'
    exact gatedReply_session rfl (hsession session rfl)

theorem handleOAuthCallback_gated (provider : OAuthProvider) (code state : String)
    (metadata : AuthRequestMetadata) (s : AuthStore) :
    (handleOAuthCallback P provider code state metadata).wp execute A Gated
      (fun outcome s' => GatedReply (outcome.map Reply.redirect) s') s := by
  refine wp_query_bind (fun i _ => gated_of_within (within_query _) s i) (fun i _ => ?_)
    (gatedReply_error _ s)
  cases (Query.findOAuthState provider (hashOpaqueToken P state)).answer s i.now with
  | none => exact gatedReply_error _ s
  | some storedState =>
      refine Program.wp_bind (gated_wp (Program.Issues.perform ?_) s) (fun _ s₁ _ => ?_)
        fun error s' _ => gatedReply_error error s'
      · simp [Write.kind, gateKinds]
      refine wp_external_bind (fun i _ => gated_of_within (within_external _) s₁ i)
        (fun _ _ identity _ => ?_) fun _ _ error _ => gatedReply_error error s₁
      split
      · split
        · refine Program.wp_bind (gated_wp ?_ s₁) (fun _ s₂ _ => gatedReply_silent rfl s₂)
            fun error s' _ => gatedReply_error error s'
          simp only [linkProvider, Program.issues_perform_bind_iff, within_query, true_and]
          rintro (_ | found) <;> simp [Write.kind, gateKinds]
        · exact gatedReply_error _ s₁
      · refine wp_query_bind (fun i _ => gated_of_within (within_query _) s₁ i) (fun i _ => ?_)
          (gatedReply_error _ s₁)
        split
        · next existing hexisting =>
            obtain ⟨account, -, hrest⟩ := Option.bind_eq_some_iff.mp hexisting
            obtain ⟨record, hrecord, hrest⟩ := Option.bind_eq_some_iff.mp hrest
            obtain rfl := Option.some.inj hrest
            obtain ⟨user, huser, rfl⟩ := Option.map_eq_some_iff.mp hrecord
            exact loginLinkedAccount_gated P provider metadata
              (entitled_userRecord (List.mem_of_find?_eq_some huser))
        · split
          · refine Program.wp_bind (gated_wp ?_ s₁) (fun _ s₂ _ => gatedReply_silent rfl s₂)
              fun error s' _ => gatedReply_error error s'
            simp [createIncompleteOAuthUser, Write.kind, gateKinds]
          · exact gatedReply_error _ s₁

theorem registerTenant_entitled {data : RegisterTenantData} {s s' : AuthStore} {input : AuthInput}
    {record : AuthUserRecord}
    (h : (Write.registerTenant data).apply s input = .ok (record, s')) : Entitled record s' := by
  simp only [Write.apply, registerTenantRows, Program.except_bind_eq_ok, orViolation_eq_ok] at h
  obtain ⟨tenants, htenants, settings, -, onboardings, -, branches, -, users, husers, -, -,
    hresult⟩ := h
  obtain ⟨rfl, rfl⟩ := Prod.mk.inj (Except.ok.inj hresult)
  intro tenant htenant
  obtain rfl := Option.some.inj htenant
  refine ⟨_, ?_, rfl, rfl, rfl, _, ?_, rfl, rfl⟩
  · rw [Table.tryInsert_rows husers]
    exact List.mem_append_right _ (List.mem_singleton_self _)
  · rw [Table.tryInsert_rows htenants]
    exact List.mem_append_right _ (List.mem_singleton_self _)

theorem registerTenant_gated (dto : RegisterTenantDto) (metadata : AuthRequestMetadata)
    (s : AuthStore) : (registerTenant P dto metadata).wp execute A Gated GatedAnswer s := by
  have hthrown : ∀ (error : ServiceError) s', GatedAnswer (.error error) s' :=
    fun _ _ _ h => by cases h
  unfold registerTenant
  generalize assertStrongPassword dto.password dto.passwordConfirmation = accepted
  have hslugs : (uniqueTenantSlug P dto.companyName).Issues (Command.Within gateKinds) :=
    uniqueTenantSlug_within P _
  generalize uniqueTenantSlug P dto.companyName = slugs at hslugs ⊢
  refine Program.wp_ofExcept_bind (fun _ _ => ?_) fun error _ => hthrown error s
  refine Program.wp_throwIf_bind (fun _ => hthrown _ s) fun _ => ?_
  refine Program.wp_bind (gated_wp (Program.Issues.perform (within_query _)) s)
    (fun existingUser s₁ _ => ?_) fun error s' _ => hthrown error s'
  refine Program.wp_throwIf_bind (fun _ => hthrown _ s₁) fun _ => ?_
  refine Program.wp_bind (gated_wp (by simp [newPasswordHash]) s₁)
    (fun passwordHash s₂ _ => ?_) fun error s' _ => hthrown error s'
  refine Program.wp_bind (gated_wp hslugs s₂) (fun slug s₃ _ => ?_)
    fun error s' _ => hthrown error s'
  refine Program.wp_perform_bind fun i _ => ⟨fun _ h => (by cases h), fun user hok => ?_,
    fun error _ => hthrown error _⟩
  exact issueSession_gated P (registerTenant_entitled (apply_of_write_ok hok))

end Paths

/-! ## Accepted invitations -/

omit [Collation] in
theorem Users.issueSession_wp (P : Platform) {S : Type} {b : Backend authInterface AuthInput S}
    {A G : S → authInterface.Command → AuthInput → Prop} {J K : S → Prop} {user : User}
    {tenant : Tenant} {metadata : AuthRequestMetadata}
    (hread : ∀ c : Command, c.Within [] → ∀ i s, J s → A s c i → G s c i ∧ J (b c i s).2)
    (hstore : ∀ data : RefreshTokenData, data.userId = user.id → data.tenantId = tenant.id →
      ∀ i s, J s → A s (.write (.createRefreshToken data)) i →
        G s (.write (.createRefreshToken data)) i ∧
          K (b (.write (.createRefreshToken data)) i s).2)
    {s : S} (hs : J s) :
    (Users.issueSession P user tenant metadata).wp b A G
      (fun outcome s' => ∀ result, outcome = .ok result →
        K s' ∧ result.user = presentUser user tenant) s := by
  have hreads : ∀ {β : Type} {p : Program authInterface β}, p.Issues (Command.Within []) →
      ∀ s, J s → p.wp b A G (fun _ s' => J s') s :=
    fun hp => Program.wp_of_issues hp hread
  refine Program.wp_bind (hreads (Program.Issues.perform (within_external .now)) s hs)
    (fun now s₁ hs₁ => ?_) fun _ _ _ _ h => by cases h
  refine Program.wp_ofExcept_bind (fun accessToken _ => ?_) fun _ _ _ h => by cases h
  refine Program.wp_bind (hreads (Program.Issues.perform (within_external .randomUUID)) s₁ hs₁)
    (fun familyId s₂ hs₂ => ?_) fun _ _ _ _ h => by cases h
  refine Program.wp_bind (hreads (by simp [randomToken]) s₂ hs₂)
    (fun refreshToken s₃ hs₃ => ?_) fun _ _ _ _ h => by cases h
  refine Program.wp_ofExcept_bind (fun seconds _ => ?_) fun _ _ _ h => by cases h
  refine Program.wp_bind (hreads (by simp [expiresIn]) s₃ hs₃)
    (fun expiresAt s₄ hs₄ => ?_) fun _ _ _ _ h => by cases h
  refine Program.wp_perform_bind fun i hi => ?_
  obtain ⟨hG, hK⟩ := hstore {
    expiresAt := expiresAt, familyId := familyId, tenantId := tenant.id
    tokenHash := hashRefreshToken P refreshToken, userId := user.id, ipHash := none
    userAgent := present metadata.userAgent } rfl rfl i s₄ hs₄ hi
  refine ⟨hG, fun _ _ result hresult => ?_, fun _ _ _ h => by cases h⟩
  obtain rfl := Except.ok.inj hresult
  exact ⟨hK, rfl⟩

theorem tenant_eq_of_id {s : AuthStore} {a b : Tenant} (ha : a ∈ s.tenants.rows)
    (hb : b ∈ s.tenants.rows) (hid : a.id = b.id) : a = b := by
  apply s.tenants.eq_of_key ha hb (k := .id a.id)
  · simp [Tenant.keys]
  · simp [Tenant.keys, hid]

theorem invitation_eq_of_hash {s : AuthStore} {a b : UserInvitation}
    (ha : a ∈ s.userInvitations.rows) (hb : b ∈ s.userInvitations.rows)
    (hhash : a.tokenHash = b.tokenHash) : a = b := by
  apply s.userInvitations.eq_of_key ha hb (k := .hash a.tokenHash)
  · simp [UserInvitation.keys]
  · simp [UserInvitation.keys, hhash]

/-- The user of an accepted invitation is active in its tenant, if the tenant is
active. -/
theorem acceptInvitation_activeIn_iff {invitation : UserInvitation} {name passwordHash : String}
    {requestId : Option String} {s s' : AuthStore} {input : AuthInput} {record : AuthUserRecord}
    (h : (Write.acceptInvitation invitation name passwordHash requestId).apply s input =
      .ok (record, s')) {tenant : Tenant} (htenant : record.tenant = some tenant) :
    tenant ∈ s.tenants.rows ∧ tenant.id = invitation.tenantId ∧
      (ActiveIn s' record.user.id tenant.id ↔ tenant.active = true) := by
  simp only [Write.apply, acceptInvitationRows, Program.except_bind_eq_ok, orViolation_eq_ok] at h
  obtain ⟨users, hinsert, -, -, invitations, -, -, -, hresult⟩ := h
  obtain ⟨rfl, rfl⟩ := Prod.mk.inj (Except.ok.inj hresult)
  have hfind : s.tenants.rows.find? (fun row => row.id == invitation.tenantId) = some tenant :=
    htenant
  have hstored := List.mem_of_find?_eq_some hfind
  have hid := List.find?_some hfind
  rw [beq_iff_eq] at hid
  refine ⟨hstored, hid, ?_, fun hactive => ?_⟩
  · rintro ⟨-, -, -, -, -, tenant', htenant', hid', hactive⟩
    exact tenant_eq_of_id htenant' hstored hid' ▸ hactive
  · refine ⟨_, ?_, rfl, rfl, congrArg some hid.symm, tenant, hstored, rfl, hactive⟩
    rw [Table.tryInsert_rows hinsert]
    exact List.mem_append_right _ (List.mem_singleton_self _)

theorem activeIn_createRefreshToken_iff (data : RefreshTokenData) (input : AuthInput)
    (s : AuthStore) (userId tenantId : Id) :
    ActiveIn (execute (.write (.createRefreshToken data)) input s).2 userId tenantId ↔
      ActiveIn s userId tenantId := by
  have hsame : (execute (.write (.createRefreshToken data)) input s).2.users = s.users ∧
      (execute (.write (.createRefreshToken data)) input s).2.tenants = s.tenants := by
    by_cases hfault : input.fault = true
    · simp [execute, hfault]
    · rw [Bool.not_eq_true] at hfault
      cases happly : (Write.createRefreshToken data).apply s input with
      | error error => simp [execute, hfault, happly]
      | ok answer =>
          rw [execute_write_eq hfault happly]
          simp only [Write.apply, Program.except_bind_eq_ok] at happly
          obtain ⟨-, -, refreshTokens, -, hresult⟩ := happly
          have hstore := congrArg Prod.snd (Except.ok.inj hresult)
          change answer.2.users = s.users ∧ answer.2.tenants = s.tenants
          rw [← hstore]
          exact ⟨rfl, rfl⟩
  unfold ActiveIn
  rw [hsame.1, hsame.2]

theorem acceptInvite_gated_iff {A : AuthStore → authInterface.Command → AuthInput → Prop}
    (P : Platform) (dto : AcceptInviteDto) (metadata : AuthRequestMetadata) (s : AuthStore) :
    (Users.acceptInvite P dto metadata).wp execute A
      (fun s' c _ => ∀ data, Command.session c = some data →
        (ActiveIn s' data.userId data.tenantId ↔
          InvitesToActiveTenant P (.acceptInvite dto metadata) s))
      (fun outcome s' => ∀ result, outcome = .ok result →
        (ActiveIn s' result.user.id result.user.tenant.id ↔
          InvitesToActiveTenant P (.acceptInvite dto metadata) s)) s := by
  refine Program.wp_ofExcept_bind (fun _ _ => ?_) fun _ _ _ h => by cases h
  refine wp_query_bind (fun _ _ _ h => by cases h) (fun i _ => ?_) fun _ h => by cases h
  split
  · next invitation hfound =>
      have hstored := List.mem_of_find?_eq_some hfound
      have hselected := List.find?_some hfound
      simp only [Bool.and_eq_true, beq_iff_eq] at hselected
      refine Program.wp_bind (Program.wp_of_issues (J := fun s' => s' = s) (P := Command.Within [])
        ?_ ?_ s rfl) (fun passwordHash s₁ hs₁ => ?_) fun _ _ _ _ h => by cases h
      · simp [newPasswordHash]
      · rintro c hc i s' rfl -
        refine ⟨fun data hdata => ?_, execute_of_within_nil hc i s'⟩
        rw [session_eq_none hc (by simp) (by simp)] at hdata
        cases hdata
      subst hs₁
      refine Program.wp_perform_bind fun i _ => ⟨fun _ h => (by cases h), fun record hok => ?_,
        fun _ _ _ h => (by cases h)⟩
      split
      · next tenant htenant =>
          obtain ⟨htenant', hid, hactiveIn⟩ :=
            acceptInvitation_activeIn_iff (apply_of_write_ok hok) htenant
          have hinvites : tenant.active = true ↔
              InvitesToActiveTenant P (.acceptInvite dto metadata) s₁ := by
            constructor
            · intro hactive row hrow hhash
              obtain rfl := invitation_eq_of_hash hrow hstored (hhash.trans hselected.1.1.symm)
              exact ⟨tenant, htenant', hid, hactive⟩
            · intro hinvites
              obtain ⟨row, hrow, hid', hactive⟩ := hinvites invitation hstored hselected.1.1
              exact tenant_eq_of_id hrow htenant' (hid'.trans hid.symm) ▸ hactive
          have hiff := hactiveIn.trans hinvites
          refine Program.wp_mono (Users.issueSession_wp P
            (J := fun s' => ActiveIn s' record.user.id tenant.id ↔
              InvitesToActiveTenant P (.acceptInvite dto metadata) s₁)
            (K := fun s' => ActiveIn s' record.user.id tenant.id ↔
              InvitesToActiveTenant P (.acceptInvite dto metadata) s₁) ?_ ?_ hiff)
            fun outcome s' hanswer result hresult => ?_
          · intro c hc i s' hs' _
            refine ⟨fun data hdata => ?_, ?_⟩
            · rw [session_eq_none hc (by simp) (by simp)] at hdata
              cases hdata
            · rwa [execute_of_within_nil hc]
          · intro data huserId htenantId i s' hs' _
            refine ⟨fun data' hdata' => ?_, ?_⟩
            · obtain rfl := Option.some.inj hdata'
              rw [huserId, htenantId]
              exact hs'
            · rwa [activeIn_createRefreshToken_iff]
          · obtain ⟨hs', huser⟩ := hanswer result hresult
            rw [huser]
            exact hs'
      · exact fun _ h => by cases h
  · exact fun _ h => by cases h

/-! ## All requests -/

/-- Whether the sessions that a request stores are gated, as far as the condition
holds. -/
def GatedIff (condition : Prop) (s : AuthStore) (c : authInterface.Command) (_ : AuthInput) :
    Prop :=
  ∀ data, Command.session c = some data →
    (ActiveIn s data.userId data.tenantId ↔ condition)

/-- The same of the session that it answers with. -/
def GatedAnswerIff (condition : Prop) (outcome : Except ServiceError Reply)
    (s : AuthStore) : Prop :=
  ∀ reply result, outcome = .ok reply → reply.session? = some result →
    (ActiveIn s result.user.id result.user.tenant.id ↔ condition)

section Requests

variable {α : Type} {A : AuthStore → authInterface.Command → AuthInput → Prop}

theorem silent_wp (P : Platform) {r : Request} {f : α → Reply} {p : Program authInterface α}
    (hr : handle P r = f <$> p) (hcreate : .createRefreshToken ∉ r.footprint)
    (hrotate : .rotateRefreshToken ∉ r.footprint) (hf : ∀ a, (f a).session? = none)
    (condition : Prop) (s : AuthStore) :
    (handle P r).wp execute A (GatedIff condition) (GatedAnswerIff condition) s := by
  have hp := handle_within P r
  rw [hr, Program.issues_map_iff] at hp
  rw [hr]
  apply Program.wp_map_outcome
  refine Program.wp_mono (Program.wp_of_issues (J := fun _ => True) hp
    (fun c hc i s' _ _ => ⟨fun data hdata => ?_, trivial⟩) s
    trivial) fun outcome s' _ reply result hreply hsession => ?_
  · rw [session_eq_none hc hcreate hrotate] at hdata
    cases hdata
  · cases outcome with
    | error error => cases hreply
    | ok a =>
        obtain rfl := Except.ok.inj hreply
        rw [hf a] at hsession
        cases hsession

theorem gatedIff_of_reply {f : α → Reply} {p : Program authInterface α} {condition : Prop}
    (hcondition : condition) {s : AuthStore}
    (h : p.wp execute A Gated (fun outcome s' => GatedReply (outcome.map f) s') s) :
    (f <$> p).wp execute A (GatedIff condition) (GatedAnswerIff condition) s := by
  apply Program.wp_map_outcome
  refine Program.wp_mono (Program.wp_guarantee h fun s' c i hG data hdata => ?_)
    fun outcome s' hreply reply result hok hsession => ?_
  · exact iff_of_true (hG data hdata) hcondition
  · exact iff_of_true (hreply reply result hok hsession) hcondition

theorem gatedIff_of_answer {p : Program authInterface AuthResult} {condition : Prop}
    (hcondition : condition) {s : AuthStore} (h : p.wp execute A Gated GatedAnswer s) :
    (Reply.session <$> p).wp execute A (GatedIff condition) (GatedAnswerIff condition) s := by
  apply gatedIff_of_reply hcondition
  refine Program.wp_mono h fun outcome s' hanswer reply result hreply hsession => ?_
  cases outcome with
  | error error => cases hreply
  | ok answer =>
      obtain rfl := Except.ok.inj hreply
      obtain rfl := Option.some.inj hsession
      exact hanswer answer rfl

/-- Each request is gated, but for invitations to a tenant that is not active. -/
theorem handle_gatedIff (P : Platform) (r : Request) (s : AuthStore) :
    (handle P r).wp execute A (GatedIff (InvitesToActiveTenant P r s))
      (GatedAnswerIff (InvitesToActiveTenant P r s)) s := by
  cases r with
  | registerTenant dto metadata =>
      exact gatedIff_of_answer trivial (registerTenant_gated P dto metadata s)
  | login dto metadata => exact gatedIff_of_reply trivial (login_gated P dto metadata s)
  | verifyMfaLogin dto metadata =>
      exact gatedIff_of_answer trivial (verifyMfaLogin_gated P dto metadata s)
  | refresh refreshToken metadata =>
      exact gatedIff_of_answer trivial (refresh_gated P refreshToken metadata s)
  | handleOAuthCallback provider code state metadata =>
      exact gatedIff_of_reply trivial (handleOAuthCallback_gated P provider code state metadata s)
  | acceptInvite dto metadata =>
      apply Program.wp_map_outcome
      refine Program.wp_mono (acceptInvite_gated_iff P dto metadata s)
        fun outcome s' hanswer reply result hreply hsession => ?_
      cases outcome with
      | error error => cases hreply
      | ok answer =>
          obtain rfl := Except.ok.inj hreply
          obtain rfl := Option.some.inj hsession
          exact hanswer answer rfl
  | _ =>
      exact silent_wp P rfl (by simp [Request.footprint]) (by simp [Request.footprint])
        (fun _ => rfl) _ s

end Requests

/-- Every request from every store: whenever it stores a refresh token, and
whenever it answers with a session, the user is active and belongs to an active
tenant, if and only if it is not the acceptance of an invitation to a tenant that
is not active. -/
theorem sessions_are_gated_iff (P : Platform) (r : Request) (ω : ℕ → AuthInput) (s : AuthStore) :
    (handle P r).Along execute (fun s' c _ => ∀ data, Command.session c = some data →
      (ActiveIn s' data.userId data.tenantId ↔ InvitesToActiveTenant P r s)) ω s ∧
    ∀ reply result, ((handle P r).run execute ω s).1 = .ok reply →
      reply.session? = some result →
      (ActiveIn ((handle P r).run execute ω s).2 result.user.id result.user.tenant.id ↔
        InvitesToActiveTenant P r s) :=
  ⟨Program.wp_along (handle_gatedIff P r s) (Program.along_true _ _ _),
    Program.wp_run (handle_gatedIff P r s) (Program.along_true _ _ _)⟩

end

/-! ## An invitation to a tenant that is not active -/

attribute [local instance] foldCase

/-- A pending invitation of a tenant that has been deactivated. -/
def closedTenant : AuthStore :=
  { AuthStore.empty with
    tenants := ⟨[⟨"tenant", "Acme", "acme", false⟩], by decide⟩
    userInvitations := ⟨[⟨"invitation", "tenant", "bia@acme", .operator,
      hashOpaqueToken plainPlatform "convite", .pending, "ana", none, 1000, none⟩], by decide⟩ }

def acceptedInvite : Request :=
  .acceptInvite ⟨"convite", "Bia", "Segredo-12", "Segredo-12"⟩ noMetadata

/-- It is accepted: a session is stored and answered for a tenant that is not
active. -/
theorem accepted_invite_is_not_gated :
    ¬(handle plainPlatform acceptedInvite).Along execute Gated (drawn 1) closedTenant ∧
    ((handle plainPlatform acceptedInvite).run execute (drawn 1) closedTenant).1.toOption.map
      (fun reply => reply.session?.isSome) = some true := by
  decide +kernel

end Logistics.Auth
