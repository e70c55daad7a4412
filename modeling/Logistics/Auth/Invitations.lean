import Logistics.Auth.Gate

/-!
# Invitations

An invitation is accepted with the token that was issued for it. Inviting asks whether
the address belongs to a user who is not deleted; accepting runs into two unique keys
that know nothing of deletion: one user for an address of a tenant, and one accepted
invitation. A second invitation to an address gives the pending one another token.
Addresses are compared as the database compares them.
-/

namespace Logistics.Auth

open Logistics.Library

section

variable [Collation]

/-! ## Invitations under the calls -/

/-- The invitation is the same but for what accepting it changes. -/
structure SameInvitation (old new : UserInvitation) : Prop where
  tenantId : new.tenantId = old.tenantId
  email : new.email = old.email
  role : new.role = old.role
  tokenHash : new.tokenHash = old.tokenHash
  expiresAt : new.expiresAt = old.expiresAt

/-- Each invitation was there before, or got the token of this command. -/
def CarriesOver (c : Command) (s s' : AuthStore) : Prop :=
  ∀ new ∈ s'.userInvitations.rows, (∃ old ∈ s.userInvitations.rows, SameInvitation old new) ∨
    ∃ data, c = .write (.upsertInvitation data) ∧ new.tokenHash = data.tokenHash

theorem carriesOver_of_eq {c : Command} {s s' : AuthStore}
    (h : s'.userInvitations = s.userInvitations) : CarriesOver c s s' :=
  fun new hnew => .inl ⟨new, h ▸ hnew, rfl, rfl, rfl, rfl, rfl⟩

theorem apply_invitations (w : Write) (s : AuthStore) (input : AuthInput) :
    Leaves (CarriesOver (.write w) s) (w.apply s input) := by
  cases w with
  | upsertInvitation data =>
      simp only [Write.apply, upsertInvitationRows]
      split
      · simp only [leaves_bind_iff, leaves_pure, orViolation_eq_ok]
        intro invitations hupdate new hnew
        rw [Table.tryUpdate_rows hupdate, List.mem_map] at hnew
        obtain ⟨old, hold, rfl⟩ := hnew
        split
        · exact .inr ⟨data, rfl, rfl⟩
        · exact .inl ⟨old, hold, rfl, rfl, rfl, rfl, rfl⟩
      · simp only [leaves_bind_iff, leaves_pure, orViolation_eq_ok]
        intro invitations hinsert new hnew
        rw [Table.tryInsert_rows hinsert] at hnew
        rcases List.mem_append.mp hnew with hnew | hnew
        · exact .inl ⟨new, hnew, rfl, rfl, rfl, rfl, rfl⟩
        · obtain rfl := List.mem_singleton.mp hnew
          exact .inr ⟨data, rfl, rfl⟩
  | acceptInvitation invitation name passwordHash requestId =>
      simp only [Write.apply, acceptInvitationRows, leaves_bind_iff, leaves_pure,
        orViolation_eq_ok]
      intro _ _ _ _ invitations hupdate _ _ new hnew
      rw [Table.tryUpdate_rows hupdate, List.mem_map] at hnew
      obtain ⟨old, hold, rfl⟩ := hnew
      refine .inl ⟨old, hold, ?_⟩
      split <;> exact ⟨rfl, rfl, rfl, rfl, rfl⟩
  | updateUser id change =>
      simp only [Write.apply]
      split
      · exact leaves_error _
      · exact carriesOver_of_eq rfl
  | linkAccount | upsertOnboarding | completeOnboardingSettings =>
      simp only [Write.apply, linkAccountRows]
      split <;> simp only [leaves_bind_iff, leaves_pure, leaves_ok] <;> intros <;>
        exact carriesOver_of_eq rfl
  | _ =>
      simp only [Write.apply, registerTenantRows, confirmMfaRows, completeRegistrationRows,
        createIncompleteRows, leaves_bind_iff, leaves_pure, leaves_ok]
      intros
      exact carriesOver_of_eq rfl

theorem execute_invitations (c : Command) (input : AuthInput) (s : AuthStore) :
    CarriesOver c s (execute c input s).2 := by
  apply execute_of_leaves (carriesOver_of_eq rfl)
  rintro w rfl
  exact apply_invitations w s input

def OtherToken (tokenHash : String) : authInterface.Command → Prop
  | .write (.upsertInvitation data) => data.tokenHash ≠ tokenHash
  | _ => True

instance (tokenHash : String) (c : authInterface.Command) : Decidable (OtherToken tokenHash c) := by
  unfold OtherToken
  split <;> infer_instance

/-- What is stored under the token of this invitation is the invitation: to its address, or to
the one of the pending invitation that it renewed. -/
def IssuedAs (data : InvitationData) (s : AuthStore) : Prop :=
  ∀ row ∈ s.userInvitations.rows, row.tokenHash = data.tokenHash →
    row.tenantId = data.tenantId ∧ Collation.weight row.email = Collation.weight data.email ∧
      row.role = data.role ∧ row.expiresAt = data.expiresAt

theorem issuedAs_execute {data : InvitationData} {s : AuthStore} {c : Command} {input : AuthInput}
    (hs : IssuedAs data s) (hc : OtherToken data.tokenHash c) :
    IssuedAs data (execute c input s).2 := by
  intro row hrow hhash
  rcases execute_invitations c input s row hrow with ⟨old, hold, hsame⟩ | ⟨other, rfl, hother⟩
  · rw [hsame.tenantId, hsame.email, hsame.role, hsame.expiresAt]
    exact hs old hold (hsame.tokenHash.symm.trans hhash)
  · exact absurd (hother.symm.trans hhash) hc

/-! ## Inviting -/

/-- The token of an invitation is made of the random bytes of the second call. -/
def issuedToken (P : Platform) (ω : ℕ → AuthInput) : String :=
  P.base64url ((List.range 48).map (ω 1).bytes)

def issuedInvitation (P : Platform) (tenantId actorId : Id) (email : String) (role : UserRole)
    (ω : ℕ → AuthInput) : InvitationData where
  email := normalizeEmail P email
  expiresAt := (ω 2).now + (7 * 24 * 3600 : ℕ) * 1000
  invitedById := actorId
  role := role
  tenantId := tenantId
  tokenHash := hashOpaqueToken P (issuedToken P ω)

theorem issuedAs_upsert {data : InvitationData} {s s' : AuthStore} {input : AuthInput}
    {row : UserInvitation} (h : execute (.write (.upsertInvitation data)) input s = (.ok row, s')) :
    IssuedAs data s' := by
  have happly := apply_of_write_ok (congrArg Prod.fst h)
  rw [h] at happly
  have hleaves : Leaves (fun s' => ∃ row ∈ s'.userInvitations.rows, row.tenantId = data.tenantId ∧
      Collation.weight row.email = Collation.weight data.email ∧ row.role = data.role ∧
        row.expiresAt = data.expiresAt ∧ row.tokenHash = data.tokenHash)
      ((Write.upsertInvitation data).apply s input) := by
    simp only [Write.apply, upsertInvitationRows]
    split
    · next old hold =>
      simp only [leaves_bind_iff, leaves_pure, orViolation_eq_ok]
      intro invitations hupdate
      have hselected := List.find?_some hold
      refine ⟨{ old with
        expiresAt := data.expiresAt, invitedById := data.invitedById, role := data.role
        tokenHash := data.tokenHash }, ?_, ?_⟩
      · rw [Table.tryUpdate_rows hupdate]
        exact List.mem_map.mpr ⟨old, List.mem_of_find?_eq_some hold, if_pos hselected⟩
      · simp only [Bool.and_eq_true, beq_iff_eq, collates_iff] at hselected
        exact ⟨hselected.1.1, hselected.1.2, rfl, rfl, rfl⟩
    · simp only [leaves_bind_iff, leaves_pure, orViolation_eq_ok]
      intro invitations hinsert
      refine ⟨⟨input.ids 0, data.tenantId, data.email, data.role, data.tokenHash, .pending,
        data.invitedById, none, data.expiresAt, none⟩, ?_, rfl, rfl, rfl, rfl, rfl⟩
      rw [Table.tryInsert_rows hinsert]
      exact List.mem_append_right _ List.mem_cons_self
  rw [happly] at hleaves
  obtain ⟨stored, hstored, htenant, hemail, hrole, hexpires, hhash⟩ := hleaves
  intro other hother hotherHash
  obtain rfl := invitation_eq_of_hash hother hstored (hotherHash.trans hhash.symm)
  exact ⟨htenant, hemail, hrole, hexpires⟩

theorem issuedAs_of_invite {P : Platform} {tenantId actorId : Id} {email : String}
    {role : UserRole} {ω : ℕ → AuthInput} {s s' : AuthStore} {response : InviteUserResponse}
    (h : (Users.invite P tenantId actorId email role).run execute ω s = (.ok response, s')) :
    IssuedAs (issuedInvitation P tenantId actorId email role ω) s' := by
  unfold Users.invite at h
  obtain ⟨existingUser, s₁, -, h⟩ := Program.run_perform_bind_eq_ok_iff.mp h
  obtain ⟨-, h⟩ := Program.run_throwIf_bind_eq_ok_iff.mp h
  simp only [randomToken, expiresIn, recordAudit, bind_assoc, pure_bind] at h
  obtain ⟨bytes, s₂, hbytes, hdrawn⟩ := Program.run_perform_bind_eq_ok_iff.mp h
  obtain ⟨now, s₃, hnow, htimed⟩ := Program.run_perform_bind_eq_ok_iff.mp hdrawn
  obtain ⟨invitation, s₄, hwritten, hrest⟩ := Program.run_perform_bind_eq_ok_iff.mp htimed
  obtain ⟨_, s₅, haudit, hdone⟩ := Program.run_perform_bind_eq_ok_iff.mp hrest
  cases hbytes
  cases hnow
  have hafter : s₅ = s' := congrArg Prod.snd hdone
  have hlogged : s₅ = (execute _ _ s₄).2 := (congrArg Prod.snd haudit).symm
  rw [← hafter, hlogged]
  exact issuedAs_execute (issuedAs_upsert hwritten) trivial

/-! ## Accepting -/

/-- The environment lets an acceptance through: no call is broken off, the durations of
the configuration are valid, and what is drawn for new rows is not taken. -/
structure Undisturbed (P : Platform) (ω : ℕ → AuthInput) (s : AuthStore) : Prop where
  fault : ∀ n, (ω n).fault = false
  accessDuration : ∃ seconds, parseDurationToSeconds P.config.jwtAccessExpiresIn = some seconds
  refreshDuration : ∃ seconds, parseDurationToSeconds P.config.jwtRefreshExpiresIn = some seconds
  userId : ∀ user ∈ s.users.rows, user.id ≠ (ω 2).ids 0
  tokenId : ∀ token ∈ s.refreshTokens.rows, token.id ≠ (ω 7).ids 0
  tokenHash : ∀ token ∈ s.refreshTokens.rows, token.tokenHash ≠
    hashRefreshToken P (P.base64url ((List.range 48).map (ω 5).bytes))

/-- The invitation with this token is still pending, the address never belonged to a
user of the tenant, deleted or not, and no invitation to it was accepted. The columns hold
what the request says of itself: its identifier, and the browser it comes from. -/
structure Acceptable (s : AuthStore) (tenantId : Id) (email tokenHash : String)
    (metadata : AuthRequestMetadata) : Prop where
  pending : ∃ invitation ∈ s.userInvitations.rows, invitation.tokenHash = tokenHash ∧
    invitation.status = .pending
  free : ∀ user ∈ s.users.rows, user.tenantId = some tenantId →
    Collation.weight user.email ≠ Collation.weight email
  first : ∀ invitation ∈ s.userInvitations.rows, invitation.tenantId = tenantId →
    Collation.weight invitation.email = Collation.weight email → invitation.status ≠ .accepted
  requestId : ∀ requestId ∈ metadata.requestId, requestId.length ≤ 64
  userAgent : ∀ userAgent ∈ present metadata.userAgent, userAgent.length ≤ 255

/-- The acceptance ends well, and there is an active user with this address and role. -/
def Joins (tenantId : Id) (email : String) (role : UserRole)
    (outcome : Except ServiceError AuthResult × AuthStore) : Prop :=
  (∃ result, outcome.1 = .ok result) ∧ ∃ user ∈ outcome.2.users.rows,
    user.tenantId = some tenantId ∧ collates user.email email ∧ user.role = role ∧
      user.status = .active

theorem run_external_bind {α : Type} {e : External} {f : e.Result → Program authInterface α}
    {ω : ℕ → AuthInput} {s : AuthStore} {a : e.Result} (h : e.answer (ω 0) = .ok a) :
    (external e >>= f).run execute ω s = (f a).run execute (fun n => ω (n + 1)) s :=
  Program.run_perform_bind_ok (by rw [execute, h])

/-- A refresh token is stored when neither its identifier nor its hash is taken and the
column holds its user agent. -/
theorem createRefreshToken_run {α : Type} {data : RefreshTokenData} {a : α} {ω : ℕ → AuthInput}
    {s : AuthStore} (hfault : (ω 0).fault = false)
    (hfits : ∀ userAgent ∈ data.userAgent, userAgent.length ≤ 255)
    (hid : ∀ token ∈ s.refreshTokens.rows, token.id ≠ (ω 0).ids 0)
    (hhash : ∀ token ∈ s.refreshTokens.rows, token.tokenHash ≠ data.tokenHash) :
    ∃ result s', (write (.createRefreshToken data) >>= fun _ =>
        (Program.pure a : Program authInterface α)).run execute ω s = (.ok result, s') ∧
      s'.users = s.users := by
  have hinsert : ∃ t, s.refreshTokens.tryInsert (refreshTokenRow (ω 0) data) = some t := by
    rw [s.refreshTokens.tryInsert_isSome_iff]
    constructor
    · simp [RefreshToken.keys]
    · intro key hkey token htoken htaken
      simp only [RefreshToken.keys, List.mem_cons, List.not_mem_nil, or_false] at hkey htaken
      rcases hkey with rfl | rfl
      · exact hid token htoken (by simpa [refreshTokenRow, eq_comm] using htaken)
      · refine hhash token htoken ?_
        simp only [refreshTokenRow, reduceCtorEq, RefreshTokenKey.hash.injEq, false_or] at htaken
        exact htaken.2.symm
  obtain ⟨refreshTokens, hinsert⟩ := hinsert
  have hfits : requireFits 255 data.userAgent = .ok () := requireFits_eq_ok.mpr hfits
  have hwritten : execute (.write (.createRefreshToken data)) (ω 0) s =
      (.ok (), { s with refreshTokens }) := by
    apply execute_write_eq hfault
    rw [Write.apply, hfits, hinsert]
    rfl
  exact ⟨a, _, Program.run_perform_bind_ok hwritten, rfl⟩

theorem issueSession_run (P : Platform) (user : User) (tenant : Tenant)
    (metadata : AuthRequestMetadata) {ω : ℕ → AuthInput} {s : AuthStore}
    (hfault : (ω 4).fault = false)
    (hfits : ∀ userAgent ∈ present metadata.userAgent, userAgent.length ≤ 255)
    (haccess : ∃ seconds, parseDurationToSeconds P.config.jwtAccessExpiresIn = some seconds)
    (hrefresh : ∃ seconds, parseDurationToSeconds P.config.jwtRefreshExpiresIn = some seconds)
    (hid : ∀ token ∈ s.refreshTokens.rows, token.id ≠ (ω 4).ids 0)
    (hhash : ∀ token ∈ s.refreshTokens.rows, token.tokenHash ≠
      hashRefreshToken P (P.base64url ((List.range 48).map (ω 2).bytes))) :
    ∃ result s', (Users.issueSession P user tenant metadata).run execute ω s = (.ok result, s') ∧
      s'.users = s.users := by
  obtain ⟨accessSeconds, haccess⟩ := haccess
  obtain ⟨refreshSeconds, hrefresh⟩ := hrefresh
  simp only [Users.issueSession, randomToken, expiresIn, configuredSeconds, bind_assoc, pure_bind,
    createAccessToken, haccess, hrefresh, Option.elim_some, Program.ofExcept, Program.pure_bind]
  rw [run_external_bind rfl, run_external_bind rfl, run_external_bind rfl, run_external_bind rfl]
  exact createRefreshToken_run hfault hfits hid hhash

/-- Only a user agent that fits is stored with a session. -/
theorem fits_of_issueSession {P : Platform} {user : User} {tenant : Tenant}
    {metadata : AuthRequestMetadata} {ω : ℕ → AuthInput} {s s' : AuthStore} {result : AuthResult}
    (h : (Users.issueSession P user tenant metadata).run execute ω s = (.ok result, s')) :
    ∀ userAgent ∈ present metadata.userAgent, userAgent.length ≤ 255 := by
  simp only [Users.issueSession, randomToken, expiresIn, configuredSeconds, bind_assoc,
    pure_bind] at h
  obtain ⟨now, s₁, -, h⟩ := Program.run_perform_bind_eq_ok_iff.mp h
  obtain ⟨accessToken, -, h⟩ := Program.run_ofExcept_bind_eq_ok_iff.mp h
  obtain ⟨familyId, s₂, -, h⟩ := Program.run_perform_bind_eq_ok_iff.mp h
  obtain ⟨bytes, s₃, -, h⟩ := Program.run_perform_bind_eq_ok_iff.mp h
  obtain ⟨seconds, -, h⟩ := Program.run_ofExcept_bind_eq_ok_iff.mp h
  obtain ⟨expiresAt, s₄, -, h⟩ := Program.run_perform_bind_eq_ok_iff.mp h
  obtain ⟨_, s₅, hwritten, -⟩ := Program.run_perform_bind_eq_ok_iff.mp h
  have happly := apply_of_write_ok (congrArg Prod.fst hwritten)
  simp only [Write.apply, Program.except_bind_eq_ok] at happly
  obtain ⟨_, hfits, -⟩ := happly
  exact requireFits_eq_ok.mp hfits

theorem mem_keys_accepted_iff {invitation : UserInvitation} {tenantId : Id} {email : String} :
    UserInvitationKey.email tenantId (Collation.weight email) .accepted ∈ invitation.keys ↔
      invitation.tenantId = tenantId ∧
        Collation.weight invitation.email = Collation.weight email ∧
        invitation.status = .accepted := by
  simp [UserInvitation.keys, eq_comm]

theorem mem_keys_email_iff {user : User} {tenantId : Id} {email : String} :
    UserKey.email tenantId (Collation.weight email) ∈ user.keys ↔
      user.tenantId = some tenantId ∧ Collation.weight user.email = Collation.weight email := by
  cases htenant : user.tenantId <;> simp [User.keys, htenant, eq_comm]

def acceptedRow (input : AuthInput) (row : UserInvitation) : UserInvitation :=
  { row with acceptedAt := some input.now, acceptedById := some (input.ids 0), status := .accepted }

theorem tryUpdate_accepted_iff {s : AuthStore} {invitation : UserInvitation} {input : AuthInput}
    (hstored : invitation ∈ s.userInvitations.rows) (hpending : invitation.status = .pending) :
    (∃ t, s.userInvitations.tryUpdate (fun row => row.id == invitation.id) (acceptedRow input) =
        some t) ↔
      ∀ other ∈ s.userInvitations.rows, other.tenantId = invitation.tenantId →
        Collation.weight other.email = Collation.weight invitation.email →
        other.status ≠ .accepted := by
  have honly : ∀ other ∈ s.userInvitations.rows,
      (other.id == invitation.id) = true ↔ other = invitation := by
    intro other hother
    constructor
    · intro hid
      apply s.userInvitations.eq_of_key hother hstored (k := .id invitation.id)
      · simp [UserInvitation.keys, beq_iff_eq.mp hid]
      · simp [UserInvitation.keys]
    · rintro rfl
      exact beq_self_eq_true _
  rw [s.userInvitations.tryUpdate_isSome_iff hstored (k := .id invitation.id)
    (by simp [UserInvitation.keys]) honly]
  constructor
  · rintro ⟨-, hfresh⟩ other hother htenant hemail haccepted
    refine hfresh (.email invitation.tenantId (Collation.weight invitation.email) .accepted)
      (by simp [UserInvitation.keys, acceptedRow]) other hother ?_
      (mem_keys_accepted_iff.mpr ⟨htenant, hemail, haccepted⟩)
    rintro rfl
    rw [hpending] at haccepted
    cases haccepted
  · intro hfirst
    refine ⟨by simp [UserInvitation.keys], fun key hkey other hother hne htaken => ?_⟩
    have hapart : ∀ key ∈ invitation.keys, key ∉ other.keys := fun key hkey htaken =>
      hne (s.userInvitations.eq_of_key hother hstored htaken hkey)
    simp only [UserInvitation.keys, acceptedRow, List.mem_cons, List.not_mem_nil, or_false] at hkey
    rcases hkey with rfl | rfl | rfl
    · exact hapart _ (by simp [UserInvitation.keys]) htaken
    · exact hapart _ (by simp [UserInvitation.keys]) htaken
    · obtain ⟨htenant, hemail, haccepted⟩ := mem_keys_accepted_iff.mp htaken
      exact hfirst other hother htenant hemail haccepted

theorem tryInsert_user_iff {s : AuthStore} {user : User} {tenantId : Id}
    (htenant : user.tenantId = some tenantId) (hid : ∀ other ∈ s.users.rows, other.id ≠ user.id) :
    (∃ t, s.users.tryInsert user = some t) ↔
      ∀ other ∈ s.users.rows, other.tenantId = some tenantId →
        Collation.weight other.email ≠ Collation.weight user.email := by
  rw [s.users.tryInsert_isSome_iff]
  constructor
  · rintro ⟨-, hfresh⟩ other hother hof hemail
    exact hfresh (.email tenantId (Collation.weight user.email))
      (mem_keys_email_iff.mpr ⟨htenant, rfl⟩) other hother
      (mem_keys_email_iff.mpr ⟨hof, hemail⟩)
  · intro hfree
    refine ⟨by simp [User.keys, htenant], fun key hkey other hother htaken => ?_⟩
    simp only [User.keys, htenant, Option.map_some, Option.toList_some, List.mem_cons,
      List.not_mem_nil, or_false] at hkey
    rcases hkey with rfl | rfl
    · have hsame : user.id = other.id := by
        cases hother' : other.tenantId <;> simpa [User.keys, hother'] using htaken
      exact hid other hother hsame.symm
    · obtain ⟨hof, hemail⟩ := mem_keys_email_iff.mp htaken
      exact hfree other hother hof hemail

section Acceptance

variable {s : AuthStore} {input : AuthInput} {invitation : UserInvitation} {name : String}
  {passwordHash : String}

def invitedUser (input : AuthInput) (invitation : UserInvitation) (name passwordHash : String) :
    User :=
  userRow input ⟨some invitation.tenantId, invitation.email, name, some passwordHash, false,
    invitation.role, .active⟩ none

/-- What the transaction does when it commits. -/
structure Accepts (s s' : AuthStore) (user : User) (record : AuthUserRecord) : Prop where
  users : s'.users.rows = s.users.rows ++ [user]
  tenants : s'.tenants = s.tenants
  refreshTokens : s'.refreshTokens = s.refreshTokens
  record : record = userRecord s' user

/-- The transaction commits on two free keys only, with an identifier of the request that
fits. -/
theorem keys_of_acceptInvitation {requestId : Option String} {record : AuthUserRecord}
    {s' : AuthStore}
    (h : execute (.write (.acceptInvitation invitation name passwordHash requestId)) input s =
      (.ok record, s')) :
    (∃ t, s.users.tryInsert (invitedUser input invitation name passwordHash) = some t) ∧
      (∃ t, s.userInvitations.tryUpdate (fun row => row.id == invitation.id) (acceptedRow input) =
        some t) ∧ ∀ value ∈ requestId, value.length ≤ 64 := by
  have happly := apply_of_write_ok (congrArg Prod.fst h)
  simp only [Write.apply, acceptInvitationRows, Program.except_bind_eq_ok, orViolation_eq_ok]
    at happly
  obtain ⟨users, husers, _, -, userInvitations, hinvitations, _, hfits, -⟩ := happly
  exact ⟨⟨users, husers⟩, ⟨userInvitations, hinvitations⟩, requireFits_eq_ok.mp hfits⟩

theorem acceptInvitation_run {requestId : Option String} (hfault : input.fault = false)
    (hfits : ∀ value ∈ requestId, value.length ≤ 64)
    (hstored : invitation ∈ s.userInvitations.rows)
    (husers : ∃ t, s.users.tryInsert (invitedUser input invitation name passwordHash) = some t)
    (hinvitations : ∃ t, s.userInvitations.tryUpdate (fun row => row.id == invitation.id)
      (acceptedRow input) = some t) :
    ∃ record s', execute (.write (.acceptInvitation invitation name passwordHash requestId)) input
        s = (.ok record, s') ∧
      Accepts s s' (invitedUser input invitation name passwordHash) record := by
  obtain ⟨users, husers⟩ := husers
  obtain ⟨userInvitations, hinvitations⟩ := hinvitations
  let audit : AuthAuditRecord := ⟨.userCreated, some (input.ids 0), some (input.ids 0),
    some "User", none, [("invited", some "true")], requestId, some invitation.tenantId⟩
  let s' := { s with users, userInvitations, auditLogs := s.auditLogs ++ [audit] }
  refine ⟨userRecord s' (invitedUser input invitation name passwordHash), s', ?_,
    Table.tryInsert_rows husers, rfl, rfl, rfl⟩
  apply execute_write_eq hfault
  simp only [Write.apply, acceptInvitationRows, Program.except_bind_eq_ok, orViolation_eq_ok,
    requireRow_eq_ok]
  exact ⟨users, husers, (), ⟨invitation, hstored, beq_self_eq_true _⟩, userInvitations,
    hinvitations, (), requireFits_eq_ok.mpr hfits, rfl⟩

end Acceptance

/-- With the token of an invitation that has not expired, in an environment that does
not come in the way, the acceptance ends well exactly when it is acceptable. -/
theorem joins_iff (P : Platform) {data : InvitationData} {dto : AcceptInviteDto}
    {metadata : AuthRequestMetadata} {ω : ℕ → AuthInput} {s : AuthStore}
    (hissued : IssuedAs data s) (htoken : hashOpaqueToken P dto.token = data.tokenHash)
    (hstrong : assertStrongPassword dto.password dto.passwordConfirmation = .ok ())
    (henv : Undisturbed P ω s) (hexpiry : (ω 0).now < data.expiresAt)
    (htenant : ∃ tenant ∈ s.tenants.rows, tenant.id = data.tenantId) :
    Joins data.tenantId data.email data.role
        ((Users.acceptInvite P dto metadata).run execute ω s) ↔
      Acceptable s data.tenantId data.email data.tokenHash metadata := by
  have hquery : execute (.query (.findInvitation (hashOpaqueToken P dto.token))) (ω 0) s =
      (.ok ((Query.findInvitation (hashOpaqueToken P dto.token)).answer s (ω 0).now), s) := by
    simp [execute, henv.fault]
  simp only [Users.acceptInvite, hstrong, Program.ofExcept, Program.pure_bind]
  rw [Program.run_perform_bind_ok hquery, htoken]
  cases hfound : (Query.findInvitation data.tokenHash).answer s (ω 0).now with
  | none =>
      constructor
      · rintro ⟨⟨result, hresult⟩, -⟩
        cases hresult
      · rintro ⟨⟨invitation, hstored, hhash, hpending⟩, -, -, -, -⟩
        obtain ⟨-, -, -, hexpires⟩ := hissued invitation hstored hhash
        have hmiss := List.find?_eq_none.mp hfound invitation hstored
        simp [hhash, hpending, hexpires, hexpiry] at hmiss
  | some invitation =>
      have hstored := List.mem_of_find?_eq_some hfound
      have hselected := List.find?_some hfound
      simp only [Bool.and_eq_true, beq_iff_eq] at hselected
      obtain ⟨⟨hhash, hpending⟩, -⟩ := hselected
      obtain ⟨hof, hemail, hrole, -⟩ := hissued invitation hstored hhash
      simp only [newPasswordHash, bind_assoc, pure_bind]
      rw [run_external_bind rfl]
      have husersIff : (∃ t, s.users.tryInsert (invitedUser (ω 2) invitation (trim dto.name)
            (hashPassword P ((List.range 16).map (ω 1).bytes) dto.password)) = some t) ↔
          ∀ other ∈ s.users.rows, other.tenantId = some invitation.tenantId →
            Collation.weight other.email ≠ Collation.weight invitation.email :=
          tryInsert_user_iff rfl henv.userId
      have hinvitationsIff : (∃ t, s.userInvitations.tryUpdate (fun row => row.id == invitation.id)
          (acceptedRow (ω 2)) = some t) ↔ _ := tryUpdate_accepted_iff hstored hpending
      rw [hof, hemail] at husersIff hinvitationsIff
      constructor
      · rintro ⟨⟨result, hresult⟩, -⟩
        obtain ⟨record, s₁, hwritten, hissuing⟩ :=
          Program.run_perform_bind_eq_ok_iff.mp (Prod.ext hresult rfl)
        obtain ⟨husers, hinvitations, hfits⟩ := keys_of_acceptInvitation hwritten
        constructor
        · exact ⟨invitation, hstored, hhash, hpending⟩
        · exact husersIff.mp husers
        · exact hinvitationsIff.mp hinvitations
        · exact hfits
        · cases htenant : record.tenant with
          | none =>
              rw [htenant] at hissuing
              cases congrArg Prod.fst hissuing
          | some tenant =>
              rw [htenant] at hissuing
              exact fits_of_issueSession hissuing
      · intro h
        obtain ⟨record, s₁, hwritten, haccepts⟩ := acceptInvitation_run (henv.fault 2)
          h.requestId hstored (husersIff.mpr h.free) (hinvitationsIff.mpr h.first)
        rw [Program.run_perform_bind_ok hwritten]
        have hin : ∃ tenant, record.tenant = some tenant := by
          obtain ⟨tenant, hof', hid⟩ := htenant
          rw [haccepts.record]
          change ∃ found, findTenant s₁ invitation.tenantId = some found
          rw [findTenant, haccepts.tenants, ← Option.isSome_iff_exists, List.find?_isSome]
          exact ⟨tenant, hof', by rw [hid, hof, beq_self_eq_true]⟩
        obtain ⟨tenant, hin⟩ := hin
        rw [hin]
        have htokenId := henv.tokenId
        have htokenHash := henv.tokenHash
        rw [← haccepts.refreshTokens] at htokenId htokenHash
        have hsession : ∃ result s₂, (Users.issueSession P record.user tenant metadata).run execute
            (fun n => ω (n + 1 + 1 + 1)) s₁ = (.ok result, s₂) ∧ s₂.users = s₁.users :=
          issueSession_run P record.user tenant metadata (henv.fault 7) h.userAgent
            henv.accessDuration henv.refreshDuration htokenId htokenHash
        obtain ⟨result, s₂, hrun, husers⟩ := hsession
        rw [hrun]
        refine ⟨⟨result, rfl⟩, invitedUser (ω 2) invitation (trim dto.name)
            (hashPassword P ((List.range 16).map (ω 1).bytes) dto.password), ?_,
          congrArg some hof, collates_iff.mpr hemail, hrole, rfl⟩
        rw [husers, haccepts.users]
        exact List.mem_append_right _ (List.mem_singleton_self _)

theorem tenant_execute {s : AuthStore} {tenantId : Id}
    (h : ∃ tenant ∈ s.tenants.rows, tenant.id = tenantId) (c : Command) (input : AuthInput) :
    ∃ tenant ∈ (execute c input s).2.tenants.rows, tenant.id = tenantId := by
  obtain ⟨tenant, htenant, hid⟩ := h
  exact ⟨tenant, execute_tenants c input s htenant, hid⟩

/-- An invitation that was issued, any requests after it, and its token presented
before it expires with a strong password: the acceptance ends well, with an active user
of the invited role, exactly when it is acceptable by then. -/
theorem invitations_can_be_accepted_iff (P : Platform) {tenantId actorId : Id} {email : String}
    {role : UserRole} {ω : ℕ → AuthInput} {s s₁ : AuthStore} {response : InviteUserResponse}
    (htenant : ∃ tenant ∈ s₁.tenants.rows, tenant.id = tenantId)
    (hinvite : (Users.invite P tenantId actorId email role).run execute ω s = (.ok response, s₁))
    (calls : List (Request × (ℕ → AuthInput)))
    (hdistinct : (authSystem P).AlongCalls
      (fun _ c _ => OtherToken (hashOpaqueToken P (issuedToken P ω)) c) calls s₁)
    {dto : AcceptInviteDto} {metadata : AuthRequestMetadata} {ω' : ℕ → AuthInput}
    (htoken : dto.token = issuedToken P ω)
    (hstrong : assertStrongPassword dto.password dto.passwordConfirmation = .ok ())
    (henv : Undisturbed P ω' ((authSystem P).runCalls calls s₁))
    (hexpiry : (ω' 0).now < (issuedInvitation P tenantId actorId email role ω).expiresAt) :
    Joins tenantId (normalizeEmail P email) role ((Users.acceptInvite P dto metadata).run execute ω'
        ((authSystem P).runCalls calls s₁)) ↔
      Acceptable ((authSystem P).runCalls calls s₁) tenantId (normalizeEmail P email)
        (hashOpaqueToken P (issuedToken P ω)) metadata := by
  let data := issuedInvitation P tenantId actorId email role ω
  have hkept : IssuedAs data ((authSystem P).runCalls calls s₁) ∧
      ∃ tenant ∈ ((authSystem P).runCalls calls s₁).tenants.rows, tenant.id = tenantId := by
    refine System.runCalls_of_along (J := fun s => IssuedAs data s ∧
      ∃ tenant ∈ s.tenants.rows, tenant.id = tenantId) ?_ calls s₁
      ⟨issuedAs_of_invite hinvite, htenant⟩ hdistinct
    rintro s c input ⟨hissued, htenant⟩ hother
    exact ⟨issuedAs_execute hissued hother, tenant_execute htenant c input⟩
  have hhash : hashOpaqueToken P dto.token = data.tokenHash := congrArg (hashOpaqueToken P) htoken
  exact joins_iff P hkept.1 hhash hstrong henv hexpiry hkept.2

end

/-! ## An address of a deleted user -/

attribute [local instance] foldCase

def oneAdministrator : AuthStore :=
  (authSystem plainPlatform).runCalls
    [(.registerTenant ⟨"Ana", "acme", "ana@acme", "Segredo-12", "Segredo-12", true, true⟩
        noMetadata, drawn 1)] .empty

/-- The administrator invites an operator. -/
def inviting (request : ℕ) (s : AuthStore) : Except ServiceError InviteUserResponse × AuthStore :=
  (Users.invite plainPlatform "131" "130" "bia@acme" .operator).run execute (drawn request) s

/-- The operator accepts with the token drawn for an invitation. -/
def acceptance (request : ℕ) : AcceptInviteDto :=
  ⟨drawnToken request, "Bia", "Segredo-34", "Segredo-34"⟩

/-- Another address is invited before the operator accepts. -/
def otherInvitation : List (Request × (ℕ → AuthInput)) :=
  [(.inviteUser "131" "130" "caio@acme" .admin, drawn 3)]

theorem invitations_can_be_accepted_first :
    Joins "131" "bia@acme" .operator
      ((Users.acceptInvite plainPlatform (acceptance 2) noMetadata).run execute (drawn 4)
        ((authSystem plainPlatform).runCalls otherInvitation (inviting 2 oneAdministrator).2)) := by
  have hok : (inviting 2 oneAdministrator).1.isOk = true := by decide +kernel
  cases hanswer : (inviting 2 oneAdministrator).1 with
  | error error =>
      rw [hanswer] at hok
      cases hok
  | ok response =>
      refine (invitations_can_be_accepted_iff plainPlatform (by decide +kernel)
        (Prod.ext hanswer rfl) otherInvitation (by decide +kernel) rfl rfl ?_
        (by decide +kernel)).mpr ?_
      · exact ⟨fun _ => rfl, ⟨900, by decide +kernel⟩, ⟨2592000, by decide +kernel⟩,
          by decide +kernel, by decide +kernel, by decide +kernel⟩
      · exact ⟨by decide +kernel, by decide +kernel, by decide +kernel, by simp [noMetadata],
          by simp [noMetadata, present]⟩

/-- The operator accepts and is deleted by the administrator. -/
def deletedOperator : AuthStore :=
  (authSystem plainPlatform).runCalls
    [(.acceptInvite (acceptance 2) noMetadata, drawn 3),
      (.updateUser "131" "130" "320" ⟨none, none, some .deleted⟩, drawn 4)]
    (inviting 2 oneAdministrator).2

/-- The address is invited again, for nobody who is not deleted has it; the token has not
expired, and cannot be accepted. -/
theorem a_deleted_user_blocks_an_invitation :
    (inviting 5 deletedOperator).1.isOk = true ∧
    (∀ user ∈ (inviting 5 deletedOperator).2.users.rows, user.tenantId = some "131" →
      user.email = "bia@acme" → user.status = .deleted) ∧
    (∃ invitation ∈ (inviting 5 deletedOperator).2.userInvitations.rows,
      invitation.tokenHash = hashOpaqueToken plainPlatform (drawnToken 5) ∧
        (drawn 6 0).now < invitation.expiresAt) ∧
    ((Users.acceptInvite plainPlatform (acceptance 5) noMetadata).run execute (drawn 6)
      (inviting 5 deletedOperator).2).1.isOk = false := by
  decide +kernel

end Logistics.Auth
