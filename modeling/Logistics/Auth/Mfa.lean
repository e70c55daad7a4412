import Logistics.Auth.Discipline

/-!
# The second factor

A session of a user with MFA on is stored by `verifyMfaLogin`, after it met an
open challenge of the user and accepted a code, or by `refresh`, in place of an
earlier token of the family. `handle_guarded` walks over the paths that store a
session. The OAuth callback asks for no code: the path is guarded as long as the
linked accounts it finds are of users with MFA off.
-/

namespace Logistics.Auth

open Logistics.Library

section

variable [Collation]

abbrev Past : Type := List (Step authInterface AuthInput AuthStore)

def User.mfaOn (user : User) : Bool :=
  user.mfaEnabled && user.mfaSecret.isSome

def MfaOn (s : AuthStore) (userId : Id) : Prop :=
  ∃ user ∈ s.users.rows, user.id = userId ∧ user.mfaOn = true

instance (s : AuthStore) (userId : Id) : Decidable (MfaOn s userId) := by
  unfold MfaOn
  infer_instance

variable (P : Platform)

/-- The challenge token is that of an unused and unexpired challenge of the
user, at the time it was looked up. -/
def ChallengeMet (challengeToken : String) (userId : Id) (past : Past) : Prop :=
  ∃ step ∈ past,
    step.command = .query (.findMfaChallenge (hashOpaqueToken P challengeToken)) ∧
    ∃ challenge ∈ step.store.mfaChallenges.rows,
      challenge.challengeTokenHash = hashOpaqueToken P challengeToken ∧
      challenge.userId = userId ∧
      isOpen challenge.expiresAt challenge.usedAt step.input.now = true

/-- The code was one of the stored secret of the user when the clock was read. -/
def TotpAccepted (code : String) (userId : Id) (past : Past) : Prop :=
  ∃ step ∈ past, step.command = .external .now ∧
    ∃ user ∈ step.store.users.rows, user.id = userId ∧
      ∃ encryptedSecret, user.mfaSecret = some encryptedSecret ∧
        ∃ secret, decrypt P encryptedSecret = .ok secret ∧
          verifyCode P secret code step.input.now = true

/-- The code was an unused recovery code of the user, and was used up. -/
def RecoveryAccepted (code : String) (userId : Id) (past : Past) : Prop :=
  ∃ step ∈ past, ∃ recovery ∈ step.store.mfaRecoveryCodes.rows,
    step.command = .write (.useRecoveryCode recovery.id) ∧ step.input.fault = false ∧
    recovery.userId = userId ∧ recovery.codeHash = hashOpaqueToken P code ∧
    recovery.usedAt = none

def CodeAccepted (code : String) (userId : Id) (past : Past) : Prop :=
  TotpAccepted P code userId past ∨ RecoveryAccepted P code userId past

/-- Whether a request may store the session at this call. -/
def Guarded (r : Request) (past : Past) (s : AuthStore) : authInterface.Command → Prop
  | .write (.createRefreshToken data) =>
      MfaOn s data.userId →
        match r with
        | .verifyMfaLogin dto _ =>
            ChallengeMet P dto.challengeToken data.userId past ∧
              CodeAccepted P (P.toUpperCase (removeWhiteSpace dto.code)) data.userId past
        | _ => False
  | .write (.rotateRefreshToken id data) =>
      MfaOn s data.userId →
        match r with
        | .refresh (some refreshToken) _ =>
            ∃ row ∈ s.refreshTokens.rows, row.id = id ∧
              row.tokenHash = hashRefreshToken P refreshToken ∧
              row.familyId = data.familyId ∧ row.userId = data.userId
        | _ => False
  | _ => True

/-- A linked account that the OAuth callback finds is not one of an active user
with MFA on. -/
def LinkedWithoutMfa (s : AuthStore) : authInterface.Command → AuthInput → Prop
  | .query (.findOAuthAccount provider providerUserId), input =>
      input.fault = false →
        ((Query.findOAuthAccount provider providerUserId).answer s input.now).all (fun existing =>
          !(hasActiveTenant existing.user && existing.user.user.mfaOn)) = true
  | _, _ => True

instance (s : AuthStore) (c : Command) (input : AuthInput) :
    Decidable (LinkedWithoutMfa s c input) := by
  unfold LinkedWithoutMfa
  split <;> infer_instance

/-! ## What the past says, it keeps saying -/

theorem ChallengeMet.mono {challengeToken : String} {userId : Id} {past past' : Past}
    (h : ChallengeMet P challengeToken userId past) (hsub : past ⊆ past') :
    ChallengeMet P challengeToken userId past' := by
  obtain ⟨step, hstep, hrest⟩ := h
  exact ⟨step, hsub hstep, hrest⟩

theorem TotpAccepted.mono {code : String} {userId : Id} {past past' : Past}
    (h : TotpAccepted P code userId past) (hsub : past ⊆ past') :
    TotpAccepted P code userId past' := by
  obtain ⟨step, hstep, hrest⟩ := h
  exact ⟨step, hsub hstep, hrest⟩

theorem RecoveryAccepted.mono {code : String} {userId : Id} {past past' : Past}
    (h : RecoveryAccepted P code userId past) (hsub : past ⊆ past') :
    RecoveryAccepted P code userId past' := by
  obtain ⟨step, hstep, hrest⟩ := h
  exact ⟨step, hsub hstep, hrest⟩

theorem CodeAccepted.mono {code : String} {userId : Id} {past past' : Past}
    (h : CodeAccepted P code userId past) (hsub : past ⊆ past') :
    CodeAccepted P code userId past' :=
  h.imp (fun h => h.mono P hsub) fun h => h.mono P hsub

/-! ## Calls that store no session -/

/-- What is stored elsewhere needs no guard. -/
theorem guarded_of_within {kinds : List WriteKind} (hcreate : .createRefreshToken ∉ kinds)
    (hrotate : .rotateRefreshToken ∉ kinds) (r : Request) (past : Past) (s : AuthStore)
    {c : Command} (hc : c.Within kinds) : Guarded P r past s c := by
  cases c with
  | query q => trivial
  | external e => trivial
  | write w =>
      cases w with
      | createRefreshToken data => exact absurd hc hcreate
      | rotateRefreshToken id data => exact absurd hc hrotate
      | _ => trivial

section Guards

variable {α : Type} {A : AuthStore × Past → authInterface.Command → AuthInput → Prop}

theorem guarded_wp_of_within {K : List WriteKind} (hcreate : .createRefreshToken ∉ K)
    (hrotate : .rotateRefreshToken ∉ K) (r : Request) {p : Program authInterface α}
    (hp : p.Issues (Command.Within K)) (x : AuthStore × Past) :
    p.wp (traced execute) A (fun x c _ => Guarded P r x.2 x.1 c) (fun _ _ => True) x :=
  Program.wp_of_issues (J := fun _ => True) hp
    (fun _ hc _ x _ _ => ⟨guarded_of_within P hcreate hrotate r x.2 x.1 hc, trivial⟩) x trivial

theorem issueSession_guarded (r : Request) {user : AuthUserRecord}
    {metadata : AuthRequestMetadata} {auditResult : String} {x : AuthStore × Past}
    (hoff : (activeTenant user).isSome = true → ¬MfaOn x.1 user.user.id) :
    (issueSession P user metadata auditResult none).wp (traced execute) A
      (fun x c _ => Guarded P r x.2 x.1 c) (fun _ _ => True) x := by
  refine issueSession_wp P (J := fun x' => x'.1 = x.1) ?_ ?_ ?_ rfl
  · rintro c hc i x' hx' -
    exact ⟨guarded_of_within P (by simp) (by simp) r x'.2 x'.1 hc,
      (execute_of_within_nil hc i x'.1).trans hx'⟩
  · rintro data hdata i x' hx' - hon
    obtain ⟨tenant, htenant, -⟩ := hdata.tenantId
    rw [hdata.userId, hx'] at hon
    exact absurd hon (hoff (by simp [htenant]))
  · exact fun c hc i x' _ => guarded_of_within P (by simp) (by simp) r x'.2 x'.1 hc

theorem not_mfaOn {s : AuthStore} {user : User} (huser : user ∈ s.users.rows)
    (hoff : user.mfaOn = false) : ¬MfaOn s user.id := by
  rintro ⟨row, hrow, hid, hon⟩
  have hsame : row = user := by
    apply s.users.eq_of_key hrow huser (k := .id row.id)
    · simp [User.keys]
    · simp [User.keys, hid]
  rw [hsame, hoff] at hon
  cases hon

theorem traced_query_bind {G : AuthStore × Past → authInterface.Command → AuthInput → Prop}
    {Q : Except ServiceError α → AuthStore × Past → Prop} {q : Query}
    {f : q.Result → Program authInterface α} {x : AuthStore × Past}
    (hG : ∀ i, A x (.query q) i → G x (.query q) i)
    (hanswer : ∀ i, A x (.query q) i → i.fault = false →
      (f (q.answer x.1 i.now)).wp (traced execute) A G Q (x.1, x.2 ++ [⟨x.1, .query q, i⟩]))
    (hfault : ∀ x', x.2 ⊆ x'.2 → Q (.error .fault) x') :
    (query q >>= f).wp (traced execute) A G Q x := by
  intro i hi
  refine ⟨hG i hi, ?_⟩
  by_cases hf : i.fault = true
  · simp only [traced, execute, hf, if_true]
    exact hfault _ (List.subset_append_left _ _)
  · rw [Bool.not_eq_true] at hf
    simp only [traced, execute, hf, Bool.false_eq_true, if_false]
    exact hanswer i hi hf

end Guards

/-! ## The MFA login -/

section MfaLogin

variable {A : AuthStore × Past → authInterface.Command → AuthInput → Prop}

theorem acceptsTotp_wp (r : Request) {x : AuthStore × Past} {user : User}
    (huser : user ∈ x.1.users.rows) {encryptedSecret : SealedSecret}
    (hsecret : user.mfaSecret = some encryptedSecret) (code : String) :
    (acceptsTotp P encryptedSecret code).wp (traced execute) A
      (fun x c _ => Guarded P r x.2 x.1 c)
      (fun outcome x' => x'.1 = x.1 ∧ x.2 ⊆ x'.2 ∧
        (outcome = .ok true → TotpAccepted P code user.id x'.2)) x := by
  unfold acceptsTotp
  split
  · refine Program.wp_ofExcept_bind (fun secret hdecrypt => ?_)
      fun _ _ => ⟨rfl, List.Subset.refl _, by simp⟩
    refine Program.wp_perform_bind fun i _ => ⟨trivial, fun now hnow => ?_, fun e he => by cases he⟩
    refine ⟨rfl, List.subset_append_left _ _, fun haccepted => ?_⟩
    refine ⟨_, List.mem_append_right _ (List.mem_singleton_self _), rfl, user, huser, rfl,
      encryptedSecret, hsecret, secret, hdecrypt, ?_⟩
    obtain rfl := Except.ok.inj hnow
    exact Except.ok.inj haccepted
  · exact ⟨rfl, List.Subset.refl _, by simp⟩

theorem verifyMfaOrRecovery_wp (r : Request) (tenantId : Id) {x : AuthStore × Past} {user : User}
    (huser : user ∈ x.1.users.rows) {encryptedSecret : SealedSecret}
    (hsecret : user.mfaSecret = some encryptedSecret) (code : String) :
    (verifyMfaOrRecovery P tenantId user.id encryptedSecret code).wp (traced execute) A
      (fun x c _ => Guarded P r x.2 x.1 c)
      (fun outcome x' => x.2 ⊆ x'.2 ∧ (outcome = .ok true →
        CodeAccepted P (P.toUpperCase (removeWhiteSpace code)) user.id x'.2)) x := by
  refine Program.wp_bind (acceptsTotp_wp P r huser hsecret _) (fun accepted x₁ h₁ => ?_)
    fun _ _ h => ⟨h.2.1, by simp⟩
  obtain ⟨-, hsub, htotp⟩ := h₁
  cases accepted with
  | true => exact ⟨hsub, fun _ => .inl (htotp rfl)⟩
  | false =>
      refine traced_query_bind (fun _ _ => trivial) (fun i _ _ => ?_)
        fun _ h => ⟨List.Subset.trans hsub h, by simp⟩
      cases hfound : (Query.findRecoveryCode tenantId user.id
          (hashOpaqueToken P (P.toUpperCase (removeWhiteSpace code)))).answer x₁.1 i.now with
      | none => exact ⟨List.subset_append_of_subset_left _ hsub, by simp⟩
      | some recovery =>
          have hrow := List.mem_of_find?_eq_some hfound
          have hselected := List.find?_some hfound
          simp only [Bool.and_eq_true, beq_iff_eq, Option.isNone_iff_eq_none] at hselected
          have hpast : ∀ step, x.2 ⊆ x₁.2 ++ [step] := fun step =>
            List.subset_append_of_subset_left _ hsub
          refine Program.wp_perform_bind fun i' _ => ⟨trivial, fun _ hused => ?_, fun _ _ => ?_⟩
          · refine ⟨List.subset_append_of_subset_left _ (hpast _), fun _ => .inr ?_⟩
            refine ⟨_, List.mem_append_right _ (List.mem_singleton_self _), recovery, hrow, rfl,
              ?_, hselected.1.2, hselected.1.1.1, hselected.2⟩
            by_contra hfault
            rw [Bool.not_eq_false] at hfault
            change i'.fault = true at hfault
            simp [traced, execute, hfault] at hused
          · exact ⟨List.subset_append_of_subset_left _ (hpast _), by simp⟩

theorem verifyMfaLogin_guarded (dto : VerifyMfaLoginDto) (metadata : AuthRequestMetadata)
    (x : AuthStore × Past) :
    (verifyMfaLogin P dto metadata).wp (traced execute) A
      (fun x c _ => Guarded P (.verifyMfaLogin dto metadata) x.2 x.1 c) (fun _ _ => True) x := by
  refine traced_query_bind (fun _ _ => trivial) (fun i _ _ => ?_) fun _ _ => trivial
  have hrejected : ∀ (tenantId actorId : Option Id) (reason : String) (error : ServiceError)
      (x : AuthStore × Past),
      (recordAuthFailure P metadata tenantId actorId reason >>= fun _ =>
        (.throw error : Program authInterface AuthResult)).wp (traced execute) A
        (fun x c _ => Guarded P (.verifyMfaLogin dto metadata) x.2 x.1 c) (fun _ _ => True) x :=
    fun _ _ _ _ x => guarded_wp_of_within P (K := [.audit]) (by simp) (by simp) _ (by simp) x
  cases hfound : (Query.findMfaChallenge (hashOpaqueToken P dto.challengeToken)).answer
      x.1 i.now with
  | none => exact hrejected _ _ _ _ _
  | some found =>
      obtain ⟨challenge, hchallenge, hrest⟩ := Option.bind_eq_some_iff.mp hfound
      obtain ⟨record, hrecord, hrest⟩ := Option.bind_eq_some_iff.mp hrest
      obtain rfl := Option.some.inj hrest
      obtain ⟨user, huser, rfl⟩ := Option.map_eq_some_iff.mp hrecord
      have hmet := List.find?_some hchallenge
      simp only [Bool.and_eq_true, beq_iff_eq] at hmet
      have hid := List.find?_some huser
      rw [beq_iff_eq] at hid
      cases hsecret : user.mfaSecret.filter fun _ =>
          user.mfaEnabled && hasActiveTenant (userRecord x.1 user) with
      | none =>
          dsimp only [userRecord]
          simp only [userRecord] at hsecret
          rw [hsecret]
          exact hrejected _ _ _ _ _
      | some encryptedSecret =>
          have hstored := (Option.filter_eq_some_iff.mp hsecret).1
          dsimp only [userRecord]
          simp only [userRecord] at hsecret
          rw [hsecret]
          dsimp only
          rw [← hid]
          refine Program.wp_bind (verifyMfaOrRecovery_wp P _ challenge.tenantId
            (x := (x.1, x.2 ++ [⟨x.1, .query (.findMfaChallenge
              (hashOpaqueToken P dto.challengeToken)), i⟩]))
            (List.mem_of_find?_eq_some huser) hstored dto.code) (fun verified x₁ h₁ => ?_)
            fun _ _ _ => trivial
          obtain ⟨hsub, haccepted⟩ := h₁
          cases verified with
          | false => exact hrejected _ _ _ _ _
          | true =>
              have hchallengeMet : ChallengeMet P dto.challengeToken user.id x₁.2 :=
                ⟨_, hsub (List.mem_append_right _ (List.mem_singleton_self _)), rfl, challenge,
                  List.mem_of_find?_eq_some hchallenge, hmet.1, hid.symm, hmet.2⟩
              refine Program.wp_perform_bind fun i' _ => ⟨trivial, fun _ _ => ?_,
                fun _ _ => trivial⟩
              refine issueSession_wp P (J := fun x' => x₁.2 ⊆ x'.2) ?_ ?_ ?_
                (List.subset_append_left _ _)
              · exact fun c hc i x' hx' _ =>
                  ⟨guarded_of_within P (by simp) (by simp) _ x'.2 x'.1 hc,
                    List.subset_append_of_subset_left _ hx'⟩
              · intro data hdata i x' hx' _ _
                rw [hdata.userId]
                exact ⟨hchallengeMet.mono P hx', (haccepted rfl).mono P hx'⟩
              · exact fun c hc i x' _ =>
                  guarded_of_within P (by simp) (by simp) _ x'.2 x'.1 hc

end MfaLogin

/-! ## The other paths -/

section Paths

variable {A : AuthStore × Past → authInterface.Command → AuthInput → Prop}

theorem blockNonActiveLogin_wp (r : Request) (user : AuthUserRecord)
    (provider : Option OAuthProvider) (metadata : AuthRequestMetadata) (x : AuthStore × Past) :
    (blockNonActiveLogin P user provider metadata).wp (traced execute) A
      (fun x c _ => Guarded P r x.2 x.1 c)
      (fun outcome x' => match outcome with
        | .ok none => x'.1 = x.1
        | .ok (some (.pendingApproval _)) | .ok (some (.incompleteRegistration _)) => True
        | .ok (some _) => False
        | .error _ => True) x := by
  unfold blockNonActiveLogin
  split
  · rfl
  · trivial
  · trivial
  · refine Program.wp_bind (guarded_wp_of_within P (K := [.createOAuthState]) (by simp)
      (by simp) r (by simp [createCompletionToken, Write.kind]) x) (fun _ _ _ => trivial)
      fun _ _ _ => trivial
  all_goals trivial

theorem userRecord_of_mem_findUsers {s : AuthStore} {filter : UserFilter} {take : ℕ} {now : Time}
    {record : AuthUserRecord} (h : record ∈ (Query.findUsers filter take).answer s now) :
    record.user ∈ s.users.rows := by
  obtain ⟨user, huser, rfl⟩ := List.mem_map.mp h
  exact List.mem_of_mem_filter (List.mem_of_mem_take huser)

theorem login_guarded (dto : LoginDto) (metadata : AuthRequestMetadata) (x : AuthStore × Past) :
    (login P dto metadata).wp (traced execute) A
      (fun x c _ => Guarded P (.login dto metadata) x.2 x.1 c) (fun _ _ => True) x := by
  have hwithin : ∀ {β : Type} {p : Program authInterface β} (x : AuthStore × Past),
      p.Issues (Command.Within [.createOAuthState, .createMfaChallenge, .audit]) →
      p.wp (traced execute) A (fun x c _ => Guarded P (.login dto metadata) x.2 x.1 c)
        (fun _ _ => True) x :=
    fun x hp => guarded_wp_of_within P (by simp) (by simp) _ hp x
  refine Program.wp_bind (hwithin x ?_) (fun _ x₁ _ => ?_) fun _ _ _ => trivial
  · exact Program.Issues.tryCatch (Program.Issues.perform (within_external _)) fun _ => by simp
  refine traced_query_bind (fun _ _ => trivial) (fun i _ _ => ?_) fun _ _ => trivial
  dsimp only
  split
  · next user hcandidate =>
      have huser : user.user ∈ x₁.1.users.rows := by
        obtain ⟨hfound, -⟩ := Option.filter_eq_some_iff.mp hcandidate
        split at hfound
        · next hsingle =>
            obtain rfl := Option.some.inj hfound
            exact userRecord_of_mem_findUsers (hsingle ▸ List.mem_singleton_self _)
        · cases hfound
      refine Program.wp_perform_bind fun i' _ => ⟨trivial, fun _ _ => ?_, fun _ _ => trivial⟩
      refine Program.wp_bind (blockNonActiveLogin_wp P _ user none metadata _)
        (fun blocked x₂ h₂ => ?_) fun _ _ _ => trivial
      cases blocked with
      | some response => trivial
      | none =>
          cases htenant : activeTenant user with
          | none => exact hwithin x₂ (by simp)
          | some tenant =>
              dsimp only
              unfold openLogin
              split
              · exact hwithin x₂ (by simp [Write.kind])
              · next hoff =>
                  refine Program.wp_bind (issueSession_guarded P _ fun _ => ?_)
                    (fun _ _ _ => trivial) fun _ _ _ => trivial
                  change x₂.1 = x₁.1 at h₂
                  rw [h₂]
                  refine not_mfaOn huser ?_
                  simpa [User.mfaOn] using hoff
  · exact hwithin _ (by simp [rejectLogin])

theorem loginLinkedAccount_guarded (r : Request) {provider : OAuthProvider}
    {existing : OAuthAccountRecord} {metadata : AuthRequestMetadata} {x : AuthStore × Past}
    (huser : existing.user.user ∈ x.1.users.rows)
    (hoff : hasActiveTenant existing.user = true → existing.user.user.mfaOn = false) :
    (loginLinkedAccount P provider existing metadata).wp (traced execute) A
      (fun x c _ => Guarded P r x.2 x.1 c) (fun _ _ => True) x := by
  refine Program.wp_bind (blockNonActiveLogin_wp P r existing.user (some provider) metadata x)
    (fun blocked x₂ h₂ => ?_) fun _ _ _ => trivial
  have hissue : x₂.1 = x.1 →
      (issueSession P existing.user metadata "oauth_login" none).wp (traced execute) A
        (fun x c _ => Guarded P r x.2 x.1 c) (fun _ _ => True) x₂ := by
    intro hsame
    refine issueSession_guarded P r fun hactive => ?_
    rw [hsame]
    exact not_mfaOn huser (hoff hactive)
  cases blocked with
  | none =>
      exact Program.wp_bind (hissue h₂) (fun _ _ _ => trivial) fun _ _ _ => trivial
  | some response =>
      cases response with
      | pendingApproval message => trivial
      | incompleteRegistration token => trivial
      | session result => exact h₂.elim
      | mfaRequired token expiresAt userHint => exact h₂.elim

theorem handleOAuthCallback_guarded (provider : OAuthProvider) (code state : String)
    (metadata : AuthRequestMetadata) (x : AuthStore × Past) :
    (handleOAuthCallback P provider code state metadata).wp (traced execute)
      (fun x => LinkedWithoutMfa x.1)
      (fun x c _ => Guarded P (.handleOAuthCallback provider code state metadata) x.2 x.1 c)
      (fun _ _ => True) x := by
  have hwithin : ∀ {β : Type} {p : Program authInterface β} (x : AuthStore × Past),
      p.Issues (Command.Within [.linkAccount, .createIncompleteUser, .audit]) →
      p.wp (traced execute) (fun x => LinkedWithoutMfa x.1)
        (fun x c _ => Guarded P (.handleOAuthCallback provider code state metadata) x.2 x.1 c)
        (fun _ _ => True) x :=
    fun x hp => guarded_wp_of_within P (by simp) (by simp) _ hp x
  refine traced_query_bind (fun _ _ => trivial) (fun i _ _ => ?_) fun _ _ => trivial
  cases hstate : (Query.findOAuthState provider (hashOpaqueToken P state)).answer x.1 i.now with
  | none => trivial
  | some storedState =>
      refine Program.wp_perform_bind fun _ _ => ⟨trivial, fun _ _ => ?_, fun _ _ => trivial⟩
      refine Program.wp_perform_bind fun _ _ => ⟨trivial, fun identity _ => ?_, fun _ _ => trivial⟩
      split
      · refine hwithin _ ?_
        split
        · simp only [linkProvider, bind_assoc, Program.issues_perform_bind_iff, within_query,
            true_and]
          rintro (_ | found) <;> simp [Write.kind]
        · simp
      · refine traced_query_bind (fun _ _ => trivial) (fun i' hlinked hfault => ?_)
          fun _ _ => trivial
        split
        · next existing hexisting =>
            have hoff := hlinked hfault
            rw [hexisting] at hoff
            obtain ⟨account, -, hrest⟩ := Option.bind_eq_some_iff.mp hexisting
            obtain ⟨record, hrecord, hrest⟩ := Option.bind_eq_some_iff.mp hrest
            obtain rfl := Option.some.inj hrest
            obtain ⟨user, huser, rfl⟩ := Option.map_eq_some_iff.mp hrecord
            refine loginLinkedAccount_guarded P _ (List.mem_of_find?_eq_some huser)
              fun hactive => ?_
            simpa [hactive] using hoff
        · refine hwithin _ ?_
          split
          · simp [createIncompleteOAuthUser, Write.kind]
          · simp

theorem refresh_guarded (refreshToken : Option String) (metadata : AuthRequestMetadata)
    (x : AuthStore × Past) :
    (refresh P refreshToken metadata).wp (traced execute) (fun x => LinkedWithoutMfa x.1)
      (fun x c _ => Guarded P (.refresh refreshToken metadata) x.2 x.1 c) (fun _ _ => True) x := by
  have hread := getValidRefreshSession_wp P (A := LinkedWithoutMfa)
    (G := fun s c _ => ∀ past, Guarded P (.refresh refreshToken metadata) past s c)
    (fun c hc s _ _ past => guarded_of_within P (by simp) (by simp) _ past s hc)
    refreshToken metadata x.1
  refine Program.wp_bind (Program.wp_guarantee (wp_traced hread)
    fun x c i hall => hall x.2) (fun session x₁ h₁ => ?_) fun _ _ _ => trivial
  obtain ⟨hsame, hpresented, -⟩ := h₁
  refine issueSession_wp P (J := fun x' => x'.1 = x.1) ?_ ?_ ?_ hsame
  · rintro c hc i x' hx' -
    exact ⟨guarded_of_within P (by simp) (by simp) _ x'.2 x'.1 hc,
      (execute_of_within_nil hc i x'.1).trans hx'⟩
  · rintro data hdata i x' hx' - -
    obtain ⟨token, htoken, hanswer⟩ := Option.bind_eq_some_iff.mp hpresented
    obtain ⟨row, hrow, hrest⟩ := Option.bind_eq_some_iff.mp hanswer
    obtain ⟨record, hrecord, hrest⟩ := Option.bind_eq_some_iff.mp hrest
    obtain rfl := Option.some.inj hrest
    obtain ⟨user, huser, rfl⟩ := Option.map_eq_some_iff.mp hrecord
    have hhash := List.find?_some hrow
    have hid := List.find?_some huser
    rw [beq_iff_eq] at hhash hid
    obtain ⟨rfl, -⟩ := Option.filter_eq_some_iff.mp htoken
    refine ⟨row, hx' ▸ List.mem_of_find?_eq_some hrow, rfl, hhash, (hdata.familyId _ rfl).symm, ?_⟩
    exact hid.symm.trans hdata.userId.symm
  · exact fun c hc i x' _ => guarded_of_within P (by simp) (by simp) _ x'.2 x'.1 hc

theorem registerTenant_mfaOff {data : RegisterTenantData} {s s' : AuthStore} {input : AuthInput}
    {record : AuthUserRecord}
    (h : (Write.registerTenant data).apply s input = .ok (record, s')) :
    ¬MfaOn s' record.user.id := by
  simp only [Write.apply, registerTenantRows, Program.except_bind_eq_ok, orViolation_eq_ok] at h
  obtain ⟨tenants, -, settings, -, onboardings, -, branches, -, users, hinsert, -, -, hresult⟩ := h
  obtain ⟨rfl, rfl⟩ := Prod.mk.inj (Except.ok.inj hresult)
  refine not_mfaOn ?_ rfl
  simp [Table.tryInsert_rows hinsert]

theorem acceptInvitation_mfaOff {invitation : UserInvitation} {name passwordHash : String}
    {requestId : Option String} {s s' : AuthStore} {input : AuthInput} {record : AuthUserRecord}
    (h : (Write.acceptInvitation invitation name passwordHash requestId).apply s input =
      .ok (record, s')) : ¬MfaOn s' record.user.id := by
  simp only [Write.apply, acceptInvitationRows, Program.except_bind_eq_ok, orViolation_eq_ok] at h
  obtain ⟨users, hinsert, -, -, invitations, -, -, -, hresult⟩ := h
  obtain ⟨rfl, rfl⟩ := Prod.mk.inj (Except.ok.inj hresult)
  refine not_mfaOn ?_ rfl
  simp [Table.tryInsert_rows hinsert, userRecord]

theorem registerTenant_guarded (dto : RegisterTenantDto) (metadata : AuthRequestMetadata)
    (x : AuthStore × Past) :
    (registerTenant P dto metadata).wp (traced execute) A
      (fun x c _ => Guarded P (.registerTenant dto metadata) x.2 x.1 c) (fun _ _ => True) x := by
  have hwithin : ∀ {β : Type} {p : Program authInterface β} (x : AuthStore × Past),
      p.Issues (Command.Within []) →
      p.wp (traced execute) A (fun x c _ => Guarded P (.registerTenant dto metadata) x.2 x.1 c)
        (fun _ _ => True) x :=
    fun x hp => guarded_wp_of_within P (by simp) (by simp) _ hp x
  unfold registerTenant
  generalize assertStrongPassword dto.password dto.passwordConfirmation = accepted
  have hslugs : (uniqueTenantSlug P dto.companyName).Issues (Command.Within []) :=
    uniqueTenantSlug_within P _
  generalize uniqueTenantSlug P dto.companyName = slugs at hslugs ⊢
  refine Program.wp_ofExcept_bind (fun _ _ => ?_) fun _ _ => trivial
  refine Program.wp_throwIf_bind (fun _ => trivial) fun _ => ?_
  refine Program.wp_bind (hwithin x (Program.Issues.perform (within_query _)))
    (fun existingUser x₁ _ => ?_) fun _ _ _ => trivial
  refine Program.wp_throwIf_bind (fun _ => trivial) fun _ => ?_
  refine Program.wp_bind (hwithin x₁ (by simp [newPasswordHash]))
    (fun passwordHash x₂ _ => ?_) fun _ _ _ => trivial
  refine Program.wp_bind (hwithin x₂ hslugs)
    (fun slug x₃ _ => ?_) fun _ _ _ => trivial
  refine Program.wp_perform_bind fun i _ => ⟨trivial, fun user hok => ?_, fun _ _ => trivial⟩
  exact issueSession_guarded P _ fun _ => registerTenant_mfaOff (apply_of_write_ok hok)

theorem acceptInvite_guarded (dto : AcceptInviteDto) (metadata : AuthRequestMetadata)
    (x : AuthStore × Past) :
    (Users.acceptInvite P dto metadata).wp (traced execute) A
      (fun x c _ => Guarded P (.acceptInvite dto metadata) x.2 x.1 c) (fun _ _ => True) x := by
  -- the reads between the insertion of the user and the storage of the session
  have hreads : ∀ {β : Type} {p : Program authInterface β} {userId : Id} (x : AuthStore × Past),
      p.Issues (Command.Within []) → ¬MfaOn x.1 userId →
      p.wp (traced execute) A (fun x c _ => Guarded P (.acceptInvite dto metadata) x.2 x.1 c)
        (fun _ x' => ¬MfaOn x'.1 userId) x := by
    intro β p userId x hp hoff
    refine Program.wp_of_issues (J := fun x => ¬MfaOn x.1 userId) hp (fun c hc i x' hoff' _ => ?_)
      x hoff
    refine ⟨guarded_of_within P (by simp) (by simp) _ x'.2 x'.1 hc, ?_⟩
    change ¬MfaOn (execute c i x'.1).2 userId
    rwa [execute_of_within_nil hc]
  refine Program.wp_ofExcept_bind (fun _ _ => ?_) fun _ _ => trivial
  refine traced_query_bind (fun _ _ => trivial) (fun i _ _ => ?_) fun _ _ => trivial
  split
  · refine Program.wp_bind (guarded_wp_of_within P (K := []) (by simp) (by simp) _
      (by simp [newPasswordHash]) _) (fun passwordHash x₁ _ => ?_) fun _ _ _ => trivial
    refine Program.wp_perform_bind fun i _ => ⟨trivial, fun user hok => ?_, fun _ _ => trivial⟩
    have hoff := acceptInvitation_mfaOff (apply_of_write_ok hok)
    split
    · next tenant =>
        refine Program.wp_bind (hreads _ (Program.Issues.perform (within_external .now)) hoff)
          (fun now x₂ hoff => ?_) fun _ _ _ => trivial
        refine Program.wp_ofExcept_bind (fun accessToken _ => ?_) fun _ _ => trivial
        refine Program.wp_bind (hreads _ (Program.Issues.perform (within_external .randomUUID))
          hoff) (fun familyId x₃ hoff => ?_) fun _ _ _ => trivial
        refine Program.wp_bind (hreads _ (by simp [randomToken]) hoff)
          (fun refreshToken x₄ hoff => ?_) fun _ _ _ => trivial
        refine Program.wp_ofExcept_bind (fun seconds _ => ?_) fun _ _ => trivial
        refine Program.wp_bind (hreads _ (by simp [expiresIn]) hoff)
          (fun expiresAt x₅ hoff => ?_) fun _ _ _ => trivial
        exact Program.wp_perform_bind fun i _ => ⟨fun hon => absurd hon hoff,
          fun _ _ => trivial, fun _ _ => trivial⟩
    · trivial
  · trivial

end Paths

/-- Every request stores sessions of users with MFA on only where it may, as long
as the linked accounts that callbacks find are of users with MFA off. -/
theorem handle_guarded (r : Request) (x : AuthStore × Past) :
    (handle P r).wp (traced execute) (fun x => LinkedWithoutMfa x.1)
      (fun x c _ => Guarded P r x.2 x.1 c) (fun _ _ => True) x := by
  cases r with
  | registerTenant dto metadata => exact Program.wp_map (registerTenant_guarded P dto metadata x)
  | login dto metadata => exact Program.wp_map (login_guarded P dto metadata x)
  | verifyMfaLogin dto metadata => exact Program.wp_map (verifyMfaLogin_guarded P dto metadata x)
  | refresh refreshToken metadata =>
      exact Program.wp_map (refresh_guarded P refreshToken metadata x)
  | handleOAuthCallback provider code state metadata =>
      exact Program.wp_map (handleOAuthCallback_guarded P provider code state metadata x)
  | acceptInvite dto metadata => exact Program.wp_map (acceptInvite_guarded P dto metadata x)
  | _ =>
      exact guarded_wp_of_within P (by simp [Request.footprint]) (by simp [Request.footprint]) _
        (handle_within P _) x

/-- A sequence of requests in which no OAuth callback finds the linked account of
an active user with MFA on: whenever one of them stores a session of a user with
MFA on, it is the MFA login, after an open challenge of the user and an accepted
code, or a refresh in place of the earlier token it was presented. -/
theorem mfa_guards_sessions (s : AuthStore) (calls : List (Request × (ℕ → AuthInput)))
    (hlinked : (authSystem P).AlongCalls LinkedWithoutMfa calls s)
    (pre : List (Request × (ℕ → AuthInput))) (r : Request) (ω : ℕ → AuthInput)
    (post : List (Request × (ℕ → AuthInput))) (hcalls : calls = pre ++ (r, ω) :: post) :
    (handle P r).Along (traced execute) (fun x c _ => Guarded P r x.2 x.1 c) ω
      ((authSystem P).runCalls pre s, []) := by
  rw [hcalls, System.alongCalls_append] at hlinked
  exact Program.wp_along (handle_guarded P r _) (along_traced_iff.mpr hlinked.2.1)

end

/-! ## A user who turns MFA on -/

attribute [local instance] foldCase

/-- A registered administrator, with the identifiers the run draws, turns MFA
on. -/
def mfaCalls : List (Request × (ℕ → AuthInput)) :=
  [(.registerTenant ⟨"Ana", "acme", "ana@acme", "Segredo-12", "Segredo-12", true, true⟩
      noMetadata, drawn 1),
    (.beginMfaSetup "130" "131", drawn 2),
    (.confirmMfa "130" "131" "547654", drawn 3)]

/-- The answer of the identity provider in these runs. -/
def anaIdentity : OAuthIdentity :=
  ⟨"ana@acme", true, "Ana", .google, "google-ana"⟩

def identified (request n : ℕ) : AuthInput :=
  { drawn request n with identity := .ok anaIdentity }

/-- She links an account of a provider, and starts a login with it. -/
def linkedCalls : List (Request × (ℕ → AuthInput)) :=
  mfaCalls ++ [(.startOAuth .google .link (some "131") (some "130"), drawn 4),
    (.handleOAuthCallback .google "code" (drawnToken 4) noMetadata, identified 5),
    (.startOAuth .google .login none none, drawn 6)]

def biaIdentified (request n : ℕ) : AuthInput :=
  { drawn request n with identity := .ok ⟨"bia@beta", true, "Bia", .google, "google-bia"⟩ }

/-- The administrator of another tenant, who leaves MFA off, links an account of a provider
and logs in with it. -/
def providerCalls : List (Request × (ℕ → AuthInput)) :=
  [(.registerTenant ⟨"Bia", "beta", "bia@beta", "Segredo-12", "Segredo-12", true, true⟩
      noMetadata, drawn 6),
    (.startOAuth .google .link (some "631") (some "630"), drawn 7),
    (.handleOAuthCallback .google "code" (drawnToken 7) noMetadata, biaIdentified 8),
    (.startOAuth .google .login none none, drawn 9),
    (.handleOAuthCallback .google "code" (drawnToken 9) noMetadata, biaIdentified 10)]

/-- The first administrator logs in with her password and a code. -/
def verifiedCalls : List (Request × (ℕ → AuthInput)) :=
  mfaCalls ++ [(.login ⟨"ana@acme", "Segredo-12", none⟩ noMetadata, drawn 4),
    (.verifyMfaLogin ⟨drawnToken 4, "547654"⟩ noMetadata, drawn 5)] ++ providerCalls

/-- The login with a code and the one with the provider store second sessions, guarded. -/
theorem verifiedCalls_guarded :
    (((authSystem plainPlatform).runCalls verifiedCalls .empty).refreshTokens.rows.map
      fun row => row.userId) = ["130", "130", "630", "630"] ∧
    (handle plainPlatform (.verifyMfaLogin ⟨drawnToken 4, "547654"⟩ noMetadata)).Along
      (traced execute) (fun x c _ => Guarded plainPlatform
        (.verifyMfaLogin ⟨drawnToken 4, "547654"⟩ noMetadata) x.2 x.1 c) (drawn 5)
      ((authSystem plainPlatform).runCalls (verifiedCalls.take 4) .empty, []) ∧
    (handle plainPlatform (.handleOAuthCallback .google "code" (drawnToken 9) noMetadata)).Along
      (traced execute) (fun x c _ => Guarded plainPlatform
        (.handleOAuthCallback .google "code" (drawnToken 9) noMetadata) x.2 x.1 c)
      (biaIdentified 10)
      ((authSystem plainPlatform).runCalls (verifiedCalls.take 9) .empty, []) := by
  have hrun : (authSystem plainPlatform).AlongCalls LinkedWithoutMfa verifiedCalls .empty ∧
      (((authSystem plainPlatform).runCalls verifiedCalls .empty).refreshTokens.rows.map
        fun row => row.userId) = ["130", "130", "630", "630"] := by
    decide +kernel
  obtain ⟨hlinked, hissued⟩ := hrun
  exact ⟨hissued,
    mfa_guards_sessions plainPlatform .empty verifiedCalls hlinked (verifiedCalls.take 4) _
      (drawn 5) providerCalls rfl,
    mfa_guards_sessions plainPlatform .empty verifiedCalls hlinked (verifiedCalls.take 9) _
      (biaIdentified 10) [] rfl⟩

def CreatesWithoutMfa (s : AuthStore) : authInterface.Command → AuthInput → Prop
  | .write (.createRefreshToken data), _ => ¬MfaOn s data.userId
  | _, _ => True

instance (s : AuthStore) (c : Command) (input : AuthInput) :
    Decidable (CreatesWithoutMfa s c input) := by
  apply @Command.casesOn (fun c => Decidable (CreatesWithoutMfa s c input)) c
  case write =>
    intro w
    apply @Write.casesOn (fun w => Decidable (CreatesWithoutMfa s (.write w) input)) w <;>
      intros <;> dsimp only [CreatesWithoutMfa] <;> infer_instance
  all_goals intros; dsimp only [CreatesWithoutMfa]; infer_instance

/-- She has linked an account of a provider; logging in with it stores a session
without asking for a code. -/
theorem linked_login_is_not_guarded :
    ¬(handle plainPlatform
        (.handleOAuthCallback .google "code" (drawnToken 6) noMetadata)).Along
      (traced execute) (fun x c _ => Guarded plainPlatform
        (.handleOAuthCallback .google "code" (drawnToken 6) noMetadata) x.2 x.1 c) (identified 7)
      ((authSystem plainPlatform).runCalls linkedCalls .empty, []) := by
  intro hguarded
  have hcreates := (along_traced_iff (G := CreatesWithoutMfa)).mp
    (hguarded.mono fun x c i hc => by
      unfold CreatesWithoutMfa
      split
      · exact fun hon => hc hon
      · trivial)
  revert hcreates
  decide +kernel

end Logistics.Auth
