import Logistics.Auth.Accounts
import Logistics.Auth.Mfa

/-!
# Taking the second factor away

Three writes switch MFA off or replace its secret: the set-up, the deactivation
and the reset. `enrolled_execute` shows that every other call keeps both. The
deactivation has accepted a code of the stored secret, and the reset is an
administrator's; the set-up asks for no code, so it is safe as long as it is
begun for users with MFA off.
-/

namespace Logistics.Auth

open Logistics.Library

section

variable [Collation]

variable (P : Platform)

/-- The code was one of this user's secret when the clock was read. -/
def CodePresented (code : String) (user : User) (past : Past) : Prop :=
  ∃ step ∈ past, step.command = .external .now ∧
    ∃ encryptedSecret, user.mfaSecret = some encryptedSecret ∧
      ∃ secret, decrypt P encryptedSecret = .ok secret ∧
        verifyCode P secret code step.input.now = true

/-- Whether a request that has made these calls may take the second factor of
the user away. -/
def MayUnenrol (r : Request) (past : Past) (user : User) : Prop :=
  match r with
  | .disableMfa userId tenantId code =>
      userId = user.id ∧ user.tenantId = some tenantId ∧ CodePresented P code user past
  | .resetUserMfa tenantId _ targetUserId =>
      targetUserId = user.id ∧ user.tenantId = some tenantId
  | _ => False

def StaysEnrolled (user : User) (s : AuthStore) : Prop :=
  ∃ user' ∈ s.users.rows, user'.id = user.id ∧ user'.mfaEnabled = true ∧
    user'.mfaSecret = user.mfaSecret

instance (user : User) (s : AuthStore) : Decidable (StaysEnrolled user s) := by
  unfold StaysEnrolled
  infer_instance

/-- The call leaves MFA on for every user who has it on, or may take it away. -/
def KeepsEnrolled (r : Request) (past : Past) (s : AuthStore) (c : Command)
    (input : AuthInput) : Prop :=
  ∀ user ∈ s.users.rows, user.mfaEnabled = true →
    StaysEnrolled user (execute c input s).2 ∨ MayUnenrol P r past user

/-- The set-up is begun for no active user with MFA on. -/
def BeginsUnenrolled (r : Request) (s : AuthStore) : Prop :=
  match r with
  | .beginMfaSetup userId tenantId => ∀ user ∈ s.users.rows, user.id = userId →
      user.tenantId = some tenantId → user.status = .active → user.mfaEnabled = false
  | _ => True

instance (r : Request) (s : AuthStore) : Decidable (BeginsUnenrolled r s) := by
  unfold BeginsUnenrolled
  split <;> infer_instance

/-! ## Calls that spare the second factors -/

/-- The call neither sets MFA up nor switches it off. -/
def Command.SparesMfa : Command → Prop
  | .write (.updateUser _ (.mfaSetup _)) | .write (.disableMfa ..) | .write (.resetMfa ..) => False
  | _ => True

omit [Collation] in
theorem Command.Within.sparesMfa {kinds : List WriteKind} {c : Command} (hc : c.Within kinds)
    (hupdate : .updateUser ∉ kinds) (hclear : .clearMfa ∉ kinds) : c.SparesMfa := by
  cases c with
  | query q => trivial
  | external e => trivial
  | write w =>
      cases w with
      | disableMfa userId tenantId => exact absurd hc hclear
      | resetMfa userId tenantId => exact absurd hc hclear
      | updateUser id change =>
          cases change with
          | mfaSetup secret => exact absurd hc hupdate
          | _ => trivial
      | _ => trivial

omit [Collation] in
theorem rewrite_enrolled {w : Write} (hw : (Command.write w).SparesMfa) (now : Time) {user : User}
    (hon : user.mfaEnabled = true) :
    (w.rewrite now user).mfaEnabled = true ∧ (w.rewrite now user).mfaSecret = user.mfaSecret := by
  cases w with
  | disableMfa userId tenantId => exact hw.elim
  | resetMfa userId tenantId => exact hw.elim
  | confirmMfa userId tenantId codeHashes => exact ⟨rfl, rfl⟩
  | updateUser id change =>
      cases change with
      | mfaSetup secret => exact hw.elim
      | _ => exact ⟨hon, rfl⟩
  | _ => exact ⟨hon, rfl⟩

/-- A user stays enrolled under a call that is no write to that user, or one
that spares the second factors. -/
theorem enrolled_execute {s : AuthStore} {user : User} (huser : user ∈ s.users.rows)
    (hon : user.mfaEnabled = true) {c : Command}
    (hc : ∀ w : Write, c = .write w → w.target = some user.id → c.SparesMfa) (input : AuthInput) :
    StaysEnrolled user (execute c input s).2 := by
  obtain ⟨user', huser', hid, hsame | ⟨w, hw, -, htarget, hrewrite⟩⟩ :=
    exists_user_execute huser c input
  · exact ⟨user', huser', hid, hsame ▸ hon, hsame ▸ rfl⟩
  · have hspares := hc w hw htarget
    rw [hw] at hspares
    obtain ⟨hon', hsecret⟩ := rewrite_enrolled hspares input.now hon
    exact ⟨user', huser', hid, hrewrite ▸ hon', hrewrite ▸ hsecret⟩

theorem keepsEnrolled_of_spares {r : Request} {past : Past} {s : AuthStore} {c : Command}
    (hc : c.SparesMfa) (input : AuthInput) : KeepsEnrolled P r past s c input :=
  fun _ huser hon => .inl (enrolled_execute huser hon (fun _ _ _ => hc) input)

theorem keepsEnrolled_query (r : Request) (past : Past) (s : AuthStore) (q : Query)
    (input : AuthInput) : KeepsEnrolled P r past s (.query q) input :=
  keepsEnrolled_of_spares P (c := .query q) trivial input

theorem keepsEnrolled_external (r : Request) (past : Past) (s : AuthStore) (e : External)
    (input : AuthInput) : KeepsEnrolled P r past s (.external e) input :=
  keepsEnrolled_of_spares P (c := .external e) trivial input

/-! ## Requests that spare them -/

section Spares

variable {α : Type}

omit [Collation] in
theorem issues_sparesMfa {K : List WriteKind} {p : Program authInterface α}
    (hp : p.Issues (Command.Within K)) (hupdate : .updateUser ∉ K) (hclear : .clearMfa ∉ K) :
    p.Issues Command.SparesMfa :=
  hp.mono fun _ hc => hc.sparesMfa hupdate hclear

omit [Collation] in
theorem issueSession_sparesMfa (user : AuthUserRecord) (metadata : AuthRequestMetadata)
    (auditResult : String) (rotatedSession : Option RefreshTokenRecord) :
    (issueSession P user metadata auditResult rotatedSession).Issues Command.SparesMfa := by
  unfold issueSession
  split
  · simp only [Program.issues_perform_bind_iff, Program.issues_ofExcept_bind_iff]
    refine ⟨trivial, fun _ _ _ => ⟨trivial, fun _ => ?_⟩⟩
    apply Program.Issues.bind
    · exact issues_sparesMfa (K := []) (by simp [randomToken]) (by simp) (by simp)
    intro refreshToken
    apply (Program.Issues.ofExcept _).bind
    intro seconds
    apply Program.Issues.bind
    · exact issues_sparesMfa (K := []) (by simp [expiresIn]) (by simp) (by simp)
    intro expiresAt
    apply Program.Issues.bind
    · cases rotatedSession <;> exact Program.Issues.perform trivial
    intro _
    apply Program.Issues.bind
    · exact Program.Issues.perform trivial
    intro _
    split
    · exact issues_sparesMfa (K := [.audit]) (by simp) (by simp) (by simp)
    · trivial
  · trivial

omit [Collation] in
theorem registerTenant_sparesMfa (dto : RegisterTenantDto) (metadata : AuthRequestMetadata) :
    (registerTenant P dto metadata).Issues Command.SparesMfa := by
  unfold registerTenant
  generalize assertStrongPassword dto.password dto.passwordConfirmation = accepted
  have hslugs : (uniqueTenantSlug P dto.companyName).Issues (Command.Within []) :=
    uniqueTenantSlug_within P _
  generalize uniqueTenantSlug P dto.companyName = slugs at hslugs ⊢
  apply (Program.Issues.ofExcept _).bind
  intro _
  apply (Program.Issues.throwIf _ _).bind
  intro _
  apply Program.Issues.bind
  · exact Program.Issues.perform trivial
  intro existingUser
  apply (Program.Issues.throwIf _ _).bind
  intro _
  apply Program.Issues.bind
  · exact issues_sparesMfa (K := []) (by simp [newPasswordHash]) (by simp) (by simp)
  intro passwordHash
  apply Program.Issues.bind
  · exact issues_sparesMfa (K := []) hslugs (by simp) (by simp)
  intro slug
  apply Program.Issues.bind
  · exact Program.Issues.perform trivial
  exact fun user => issueSession_sparesMfa P user _ _ _

omit [Collation] in
theorem login_sparesMfa (dto : LoginDto) (metadata : AuthRequestMetadata) :
    (login P dto metadata).Issues Command.SparesMfa := by
  have hwithin : ∀ {β : Type} {p : Program authInterface β},
      p.Issues (Command.Within [.createOAuthState, .createMfaChallenge, .audit]) →
      p.Issues Command.SparesMfa :=
    fun hp => issues_sparesMfa hp (by simp) (by simp)
  apply Program.Issues.bind
  · exact Program.Issues.tryCatch (Program.Issues.perform trivial) fun _ => hwithin (by simp)
  intro _
  apply Program.Issues.bind
  · exact Program.Issues.perform trivial
  intro candidates
  dsimp only
  split
  · apply (Program.Issues.perform trivial).bind
    intro _
    apply (hwithin (blockNonActiveLogin_within P _ _ _ (by simp))).bind
    intro blocked
    split
    · trivial
    · split
      · unfold openLogin
        split
        · exact hwithin (by simp [Write.kind])
        · exact (issueSession_sparesMfa P _ _ _ _).bind fun _ => trivial
      · exact hwithin (by simp)
  · exact hwithin (by simp [rejectLogin])

omit [Collation] in
theorem verifyMfaLogin_sparesMfa (dto : VerifyMfaLoginDto) (metadata : AuthRequestMetadata) :
    (verifyMfaLogin P dto metadata).Issues Command.SparesMfa := by
  have hwithin : ∀ {β : Type} {p : Program authInterface β},
      p.Issues (Command.Within [.useRecoveryCode, .audit]) → p.Issues Command.SparesMfa :=
    fun hp => issues_sparesMfa hp (by simp) (by simp)
  apply Program.Issues.bind
  · exact Program.Issues.perform trivial
  intro found
  cases found with
  | none => exact hwithin (by simp)
  | some found =>
      dsimp only
      split
      · apply (hwithin (verifyMfaOrRecovery_within P _ _ _ _ (by simp))).bind
        intro verified
        split
        · apply (Program.Issues.perform trivial).bind
          exact fun _ => issueSession_sparesMfa P _ _ _ _
        · exact hwithin (by simp)
      · exact hwithin (by simp)

omit [Collation] in
theorem refresh_sparesMfa (refreshToken : Option String) (metadata : AuthRequestMetadata) :
    (refresh P refreshToken metadata).Issues Command.SparesMfa := by
  apply Program.Issues.bind
  · exact issues_sparesMfa (K := [.revokeTokens, .audit])
      (getValidRefreshSession_within P _ _ (by simp) (by simp)) (by simp) (by simp)
  · exact fun session => issueSession_sparesMfa P _ _ _ _

omit [Collation] in
theorem loginLinkedAccount_sparesMfa (provider : OAuthProvider) (existing : OAuthAccountRecord)
    (metadata : AuthRequestMetadata) :
    (loginLinkedAccount P provider existing metadata).Issues Command.SparesMfa := by
  apply Program.Issues.bind
  · exact issues_sparesMfa (K := [.createOAuthState])
      (blockNonActiveLogin_within P _ _ _ (by simp)) (by simp) (by simp)
  intro blocked
  split
  · trivial
  · trivial
  · exact (issueSession_sparesMfa P _ _ _ _).bind fun _ => trivial

omit [Collation] in
theorem handleOAuthCallback_sparesMfa (provider : OAuthProvider) (code state : String)
    (metadata : AuthRequestMetadata) :
    (handleOAuthCallback P provider code state metadata).Issues Command.SparesMfa := by
  have hwithin : ∀ {β : Type} {p : Program authInterface β},
      p.Issues (Command.Within [.linkAccount, .createIncompleteUser, .audit]) →
      p.Issues Command.SparesMfa :=
    fun hp => issues_sparesMfa hp (by simp) (by simp)
  apply Program.Issues.bind
  · exact Program.Issues.perform trivial
  intro storedState
  cases storedState with
  | none => trivial
  | some storedState =>
      apply Program.Issues.bind
      · exact Program.Issues.perform trivial
      intro _
      apply Program.Issues.bind
      · exact Program.Issues.perform trivial
      intro identity
      dsimp only
      split
      · split
        · refine hwithin (Program.Issues.bind ?_ fun _ => trivial)
          simp only [linkProvider, Program.issues_perform_bind_iff, within_query, true_and]
          rintro (_ | found) <;> simp [Write.kind]
        · trivial
      · apply (Program.Issues.perform trivial).bind
        intro existing
        cases existing with
        | some existing => exact loginLinkedAccount_sparesMfa P provider existing metadata
        | none =>
            dsimp only
            split
            · exact hwithin (by simp [createIncompleteOAuthUser, Write.kind])
            · trivial

omit [Collation] in
theorem updateProfile_sparesMfa (userId tenantId : Id) (name : String) :
    (updateProfile P userId tenantId name).Issues Command.SparesMfa := by
  apply Program.Issues.bind
  · exact Program.Issues.perform trivial
  intro _
  apply Program.Issues.bind
  · exact Program.Issues.perform trivial
  intro _
  exact issues_sparesMfa (K := []) (getProfile_within P _ _ _) (by simp) (by simp)

omit [Collation] in
/-- Apart from the three, no request touches a second factor. -/
theorem handle_sparesMfa {r : Request}
    (hbegin : ∀ userId tenantId, r ≠ .beginMfaSetup userId tenantId)
    (hdisable : ∀ userId tenantId code, r ≠ .disableMfa userId tenantId code)
    (hreset : ∀ tenantId actorId targetUserId, r ≠ .resetUserMfa tenantId actorId targetUserId) :
    (handle P r).Issues Command.SparesMfa := by
  cases r with
  | registerTenant dto metadata =>
      exact (Program.issues_map_iff _ _).mpr (registerTenant_sparesMfa P dto metadata)
  | login dto metadata => exact (Program.issues_map_iff _ _).mpr (login_sparesMfa P dto metadata)
  | verifyMfaLogin dto metadata =>
      exact (Program.issues_map_iff _ _).mpr (verifyMfaLogin_sparesMfa P dto metadata)
  | refresh refreshToken metadata =>
      exact (Program.issues_map_iff _ _).mpr (refresh_sparesMfa P refreshToken metadata)
  | handleOAuthCallback provider code state metadata =>
      exact (Program.issues_map_iff _ _).mpr
        (handleOAuthCallback_sparesMfa P provider code state metadata)
  | updateProfile userId tenantId name =>
      exact (Program.issues_map_iff _ _).mpr (updateProfile_sparesMfa P userId tenantId name)
  | beginMfaSetup userId tenantId => exact absurd rfl (hbegin userId tenantId)
  | disableMfa userId tenantId code => exact absurd rfl (hdisable userId tenantId code)
  | resetUserMfa tenantId actorId targetUserId =>
      exact absurd rfl (hreset tenantId actorId targetUserId)
  | _ =>
      exact issues_sparesMfa (handle_within P _) (by simp [Request.footprint])
        (by simp [Request.footprint])

end Spares

/-! ## The requests that do not -/

section Walk

variable {α : Type} {A : AuthStore × Past → authInterface.Command → AuthInput → Prop}

theorem keepsEnrolled_wp_of_spares {r : Request} {p : Program authInterface α}
    (hp : p.Issues Command.SparesMfa) (x : AuthStore × Past) :
    p.wp (traced execute) A (fun x => KeepsEnrolled P r x.2 x.1) (fun _ _ => True) x :=
  Program.wp_of_issues (J := fun _ => True) hp
    (fun _ hc i _ _ _ => ⟨keepsEnrolled_of_spares P hc i, trivial⟩) x trivial

theorem recordAudit_keepsEnrolled (r : Request) (record : AuthAuditRecord)
    (x : AuthStore × Past) :
    (recordAudit record).wp (traced execute) A (fun x => KeepsEnrolled P r x.2 x.1)
      (fun _ _ => True) x :=
  keepsEnrolled_wp_of_spares P (issues_sparesMfa (K := [.audit]) (by simp) (by simp) (by simp)) x

theorem keepsEnrolled_of_target {r : Request} {past : Past} {s : AuthStore} {w : Write}
    {user : User} (huser : user ∈ s.users.rows) (htarget : w.target = some user.id)
    (hmay : user.mfaEnabled = true → MayUnenrol P r past user) (input : AuthInput) :
    KeepsEnrolled P r past s (.write w) input := by
  intro row hrow hon
  by_cases hid : row.id = user.id
  · obtain rfl := user_eq_of_id hrow huser hid
    exact .inr (hmay hon)
  · refine .inl (enrolled_execute hrow hon (fun w' hw htarget' => ?_) input)
    obtain rfl := Command.write.inj hw
    exact absurd (Option.some.inj (htarget'.symm.trans htarget)) hid

theorem user_of_findUser {s : AuthStore} {filter : UserFilter} {userId tenantId : Id} {now : Time}
    {found : AuthUserRecord} (hid : filter.id = some userId)
    (htenant : filter.tenantId = some tenantId)
    (hfound : (Query.findUser filter).answer s now = some found) :
    found.user ∈ s.users.rows ∧ found.user.id = userId ∧ found.user.tenantId = some tenantId ∧
      ∀ status, filter.status = some status → found.user.status = status := by
  obtain ⟨user, huser, rfl⟩ := Option.map_eq_some_iff.mp hfound
  have hselects := List.find?_some huser
  simp only [UserFilter.selects, hid, htenant, Option.all_some, Bool.and_eq_true,
    beq_iff_eq] at hselects
  obtain ⟨⟨⟨⟨⟨⟨⟨hid, htenant⟩, -⟩, hstatus⟩, -⟩, -⟩, -⟩, -⟩ := hselects
  refine ⟨List.mem_of_find?_eq_some huser, hid, htenant, fun status hfilter => ?_⟩
  rw [hfilter] at hstatus
  exact beq_iff_eq.mp hstatus

theorem beginMfaSetup_keepsEnrolled (userId tenantId : Id) {x : AuthStore × Past}
    (hbegins : BeginsUnenrolled (.beginMfaSetup userId tenantId) x.1) :
    (beginMfaSetup P userId tenantId).wp (traced execute) A
      (fun x => KeepsEnrolled P (.beginMfaSetup userId tenantId) x.2 x.1) (fun _ _ => True) x := by
  refine traced_query_bind (fun i _ => keepsEnrolled_query P _ _ _ _ i)
    (fun i _ _ => ?_) fun _ _ => trivial
  cases hanswer : (Query.findUser {
      id := some userId, tenantId := some tenantId, status := some .active }).answer x.1 i.now with
  | none => trivial
  | some found =>
      obtain ⟨huser, hid, htenant, hstatus⟩ := user_of_findUser rfl rfl hanswer
      have hoff := hbegins found.user huser hid htenant (hstatus _ rfl)
      refine Program.wp_perform_bind fun i₁ _ =>
        ⟨keepsEnrolled_external P _ _ _ _ i₁, fun secretBytes _ => ?_, fun _ _ => trivial⟩
      refine Program.wp_perform_bind fun i₂ _ =>
        ⟨keepsEnrolled_external P _ _ _ _ i₂, fun iv _ => ?_, fun _ _ => trivial⟩
      refine Program.wp_perform_bind fun i₃ _ => ⟨?_, fun _ _ => trivial, fun _ _ => trivial⟩
      refine keepsEnrolled_of_target P huser (by rw [hid]; rfl) (fun hon => ?_) i₃
      rw [hoff] at hon
      cases hon

theorem disableMfa_keepsEnrolled (userId tenantId : Id) (code : String) (x : AuthStore × Past) :
    (disableMfa P userId tenantId code).wp (traced execute) A
      (fun x => KeepsEnrolled P (.disableMfa userId tenantId code) x.2 x.1)
      (fun _ _ => True) x := by
  refine traced_query_bind (fun i _ => keepsEnrolled_query P _ _ _ _ i)
    (fun i _ _ => ?_) fun _ _ => trivial
  cases hanswer : (Query.findUser { id := some userId, tenantId := some tenantId }).answer
      x.1 i.now with
  | none => trivial
  | some found =>
      obtain ⟨huser, hid, htenant, -⟩ := user_of_findUser rfl rfl hanswer
      cases hsecret : found.user.mfaSecret with
      | none =>
          simp only [Option.bind_some, hsecret]
          trivial
      | some encryptedSecret =>
          simp only [Option.bind_some, hsecret]
          refine Program.wp_ofExcept_bind (fun secret hdecrypt => ?_) fun _ _ => trivial
          refine Program.wp_perform_bind fun i₁ _ =>
            ⟨keepsEnrolled_external P _ _ _ _ i₁, fun now hnow => ?_, fun _ _ => trivial⟩
          refine Program.wp_throwIf_bind (fun _ => trivial) fun hverified => ?_
          rw [Bool.not_eq_false] at hverified
          refine Program.wp_perform_bind fun i₂ _ => ⟨?_, fun _ _ => ?_, fun _ _ => trivial⟩
          · refine keepsEnrolled_of_target P huser (by rw [hid]; rfl) (fun _ => ?_) i₂
            refine ⟨hid.symm, htenant, _, List.mem_append_right _ (List.mem_singleton_self _), rfl,
              encryptedSecret, hsecret, secret, hdecrypt, ?_⟩
            obtain rfl := Except.ok.inj hnow
            exact hverified
          · exact recordAudit_keepsEnrolled P _ _ _

theorem resetMfa_keepsEnrolled (tenantId actorId targetUserId : Id) (x : AuthStore × Past) :
    (Users.resetMfa tenantId actorId targetUserId).wp (traced execute) A
      (fun x => KeepsEnrolled P (.resetUserMfa tenantId actorId targetUserId) x.2 x.1)
      (fun _ _ => True) x := by
  unfold Users.resetMfa Users.assertTargetUserExists
  rw [bind_assoc]
  refine traced_query_bind (fun i _ => keepsEnrolled_query P _ _ _ _ i)
    (fun i _ _ => ?_) fun _ _ => trivial
  refine Program.wp_throwIf_bind (fun _ => trivial) fun hexists => ?_
  rw [Option.isNone_iff_eq_none, ← ne_eq, Option.ne_none_iff_exists'] at hexists
  obtain ⟨found, hanswer⟩ := hexists
  obtain ⟨huser, hid, htenant, -⟩ := user_of_findUser rfl rfl hanswer
  refine Program.wp_perform_bind fun i₁ _ => ⟨?_, fun _ _ => ?_, fun _ _ => trivial⟩
  · refine keepsEnrolled_of_target P huser (by rw [hid]; rfl) (fun _ => ?_) i₁
    exact ⟨hid.symm, htenant⟩
  · exact recordAudit_keepsEnrolled P _ _ _

end Walk

/-- Every request whose set-up is begun for a user with MFA off keeps the second
factors, or may take one away. -/
theorem handle_keepsEnrolled (r : Request) {x : AuthStore × Past}
    (hbegins : BeginsUnenrolled r x.1) :
    (handle P r).wp (traced execute) (fun _ _ _ => True)
      (fun x => KeepsEnrolled P r x.2 x.1) (fun _ _ => True) x := by
  cases r with
  | beginMfaSetup userId tenantId =>
      exact Program.wp_map (beginMfaSetup_keepsEnrolled P userId tenantId hbegins)
  | disableMfa userId tenantId code =>
      exact Program.wp_map (disableMfa_keepsEnrolled P userId tenantId code x)
  | resetUserMfa tenantId actorId targetUserId =>
      exact Program.wp_map (resetMfa_keepsEnrolled P tenantId actorId targetUserId x)
  | _ =>
      exact keepsEnrolled_wp_of_spares P (handle_sparesMfa P (by simp) (by simp) (by simp)) x

/-- A run of requests, one after the other, in which no set-up is begun for an
active user with MFA on: at every call of every request each user with MFA on
keeps it with the same secret, unless the request is a deactivation that was
presented a valid code of that secret, or an administrator's reset. -/
theorem mfa_taken_away_only_with_proof (s : AuthStore) (calls : List (Request × (ℕ → AuthInput)))
    (hbegins : (authSystem P).AlongRequests BeginsUnenrolled calls s)
    (before : List (Request × (ℕ → AuthInput))) (r : Request) (ω : ℕ → AuthInput)
    (after : List (Request × (ℕ → AuthInput))) (hcalls : calls = before ++ (r, ω) :: after) :
    (handle P r).Along (traced execute) (fun x => KeepsEnrolled P r x.2 x.1) ω
      ((authSystem P).runCalls before s, []) := by
  rw [hcalls, System.alongRequests_append] at hbegins
  exact Program.wp_along (handle_keepsEnrolled P r hbegins.2.1) (Program.along_true _ _ _)

end

/-! ## A set-up begun twice -/

attribute [local instance] foldCase

/-- She turns MFA on and, with a code, off again. -/
def disabledCalls : List (Request × (ℕ → AuthInput)) :=
  mfaCalls ++ [(.disableMfa "130" "131" "547654", drawn 4)]

def enrolled (s : AuthStore) : List Id :=
  (s.users.rows.filter User.mfaEnabled).map User.id

/-- MFA is switched off, by a deactivation that presented a code. -/
theorem disabledCalls_keep_enrolled :
    enrolled ((authSystem plainPlatform).runCalls mfaCalls .empty) = ["130"] ∧
    enrolled ((authSystem plainPlatform).runCalls disabledCalls .empty) = [] ∧
    (handle plainPlatform (.disableMfa "130" "131" "547654")).Along (traced execute)
      (fun x => KeepsEnrolled plainPlatform (.disableMfa "130" "131" "547654") x.2 x.1) (drawn 4)
      ((authSystem plainPlatform).runCalls mfaCalls .empty, []) := by
  have hrun : (authSystem plainPlatform).AlongRequests BeginsUnenrolled disabledCalls .empty ∧
      enrolled ((authSystem plainPlatform).runCalls mfaCalls .empty) = ["130"] ∧
      enrolled ((authSystem plainPlatform).runCalls disabledCalls .empty) = [] := by
    decide +kernel
  obtain ⟨hbegins, hon, hoff⟩ := hrun
  exact ⟨hon, hoff, mfa_taken_away_only_with_proof plainPlatform .empty disabledCalls hbegins
    mfaCalls _ (drawn 4) [] rfl⟩

/-- Her MFA is on; beginning the set-up once more switches it off, and no code
was asked for. -/
theorem set_up_again_takes_mfa_away :
    enrolled ((authSystem plainPlatform).runCalls mfaCalls .empty) = ["130"] ∧
    ¬(handle plainPlatform (.beginMfaSetup "130" "131")).Along (traced execute)
      (fun x => KeepsEnrolled plainPlatform (.beginMfaSetup "130" "131") x.2 x.1) (drawn 4)
      ((authSystem plainPlatform).runCalls mfaCalls .empty, []) := by
  refine ⟨by decide +kernel, fun hkeeps => ?_⟩
  have hstays := (along_traced_iff (G := fun s c input => ∀ user ∈ s.users.rows,
      user.mfaEnabled = true → StaysEnrolled user (execute c input s).2)).mp
    (hkeeps.mono fun x c i h user huser hon => (h user huser hon).resolve_right id)
  revert hstays
  decide +kernel

end Logistics.Auth
