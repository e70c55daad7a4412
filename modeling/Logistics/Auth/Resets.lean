import Logistics.Auth.Gate
import Logistics.Library.Vouchers

/-!
# Password resets over sequences of requests

A reset token takes the place of those its user had, and setting a password ends the
sessions of the user. The rows are kept in the order of their issue, so a user's unused
token is the last of the user's rows; `execute_resets` says all of what a call does to them.
-/

namespace Logistics.Auth

open Logistics.Library

section

variable [Collation]

/-! ## Reset tokens under the calls -/

def PasswordResetToken.use (now : Time) (row : PasswordResetToken) : PasswordResetToken :=
  { row with usedAt := some now }

/-- The rows after those selected by `p` are marked as used. -/
def usedRows (p : PasswordResetToken → Bool) (now : Time) (rows : List PasswordResetToken) :
    List PasswordResetToken :=
  rows.map fun row => if p row then row.use now else row

/-- What a call does to the reset tokens. -/
inductive ResetStep (c : Command) (input : AuthInput) (s s' : AuthStore) : Prop
  | same (h : s'.passwordResetTokens.rows = s.passwordResetTokens.rows)
  | used (userId resetId : Id) (passwordHash : String)
      (hc : c = .write (.resetPassword userId resetId passwordHash))
      (h : s'.passwordResetTokens.rows =
        usedRows (fun row => row.id == resetId) input.now s.passwordResetTokens.rows)
  | requested (userId : Id) (tenantId : Option Id) (emailHash tokenHash : String)
      (expiresAt : Time)
      (hc : c = .write (.requestPasswordReset userId tenantId emailHash tokenHash expiresAt))
      (h : s'.passwordResetTokens.rows = usedRows (fun row => row.userId == some userId &&
        row.tenantId == tenantId && row.usedAt.isNone) input.now s.passwordResetTokens.rows ++
        [⟨input.ids 0, tenantId, some userId, emailHash, tokenHash, expiresAt, none⟩])

theorem apply_resets (w : Write) (s : AuthStore) (input : AuthInput) :
    Leaves (ResetStep (.write w) input s) (w.apply s input) := by
  cases w with
  | resetPassword userId resetId passwordHash =>
      simp only [Write.apply, leaves_bind_iff, leaves_pure]
      intros
      exact .used userId resetId passwordHash rfl rfl
  | requestPasswordReset userId tenantId emailHash tokenHash expiresAt =>
      simp only [Write.apply, leaves_bind_iff, leaves_pure, orViolation_eq_ok]
      intro resets hinsert
      exact .requested userId tenantId emailHash tokenHash expiresAt rfl
        (Table.tryInsert_rows hinsert)
  | updateUser id change =>
      simp only [Write.apply]
      split
      · exact leaves_error _
      · exact .same rfl
  | linkAccount | upsertOnboarding | completeOnboardingSettings | upsertInvitation =>
      simp only [Write.apply, linkAccountRows, upsertInvitationRows]
      split <;> simp only [leaves_bind_iff, leaves_pure, leaves_ok] <;> intros <;> exact .same rfl
  | _ =>
      simp only [Write.apply, registerTenantRows, acceptInvitationRows, createIncompleteRows,
        completeRegistrationRows, confirmMfaRows, leaves_bind_iff, leaves_pure, leaves_ok]
      intros
      exact .same rfl

/-- What a call does to the reset tokens, all of it. -/
theorem execute_resets (c : Command) (input : AuthInput) (s : AuthStore) :
    ResetStep c input s (execute c input s).2 := by
  apply execute_of_leaves (.same rfl)
  rintro w rfl
  exact apply_resets w s input

theorem execute_resets_of_within {kinds : List WriteKind} {c : Command} (hc : c.Within kinds)
    (hreset : .resetPassword ∉ kinds) (hrequest : .requestPasswordReset ∉ kinds)
    (input : AuthInput) (s : AuthStore) :
    (execute c input s).2.passwordResetTokens.rows = s.passwordResetTokens.rows := by
  cases execute_resets c input s with
  | same h => exact h
  | used userId resetId passwordHash hcommand =>
      rw [hcommand] at hc
      exact absurd hc hreset
  | requested userId tenantId emailHash tokenHash expiresAt hcommand =>
      rw [hcommand] at hc
      exact absurd hc hrequest

/-! ## The tokens that are issued -/

def PasswordResetToken.issued (row : PasswordResetToken) : PasswordResetToken :=
  { row with usedAt := none }

omit [Collation] in
theorem map_issued_usedRows (p : PasswordResetToken → Bool) (now : Time)
    (rows : List PasswordResetToken) :
    (usedRows p now rows).map PasswordResetToken.issued = rows.map PasswordResetToken.issued := by
  rw [usedRows, List.map_map]
  apply List.map_congr_left
  intro row _
  rw [Function.comp_apply]
  split <;> rfl

variable (P : Platform)

/-- The reset token that a `forgotPassword` issues, if it issues one: the row that is added
to the table. -/
def issuedReset (s : AuthStore) : Request × (ℕ → AuthInput) → Option PasswordResetToken
  | (.forgotPassword email metadata, ω) =>
      ((handle P (.forgotPassword email metadata)).run execute ω s).2.passwordResetTokens.rows[
        s.passwordResetTokens.rows.length]?
  | _ => none

/-- The reset tokens that the requests issue, in order. -/
def issuedResets : List (Request × (ℕ → AuthInput)) → AuthStore → List PasswordResetToken
  | [], _ => []
  | call :: rest, s =>
      (issuedReset P s call).toList ++
        issuedResets rest ((handle P call.1).run execute call.2 s).2

/-- The token of the latest `forgotPassword` for a user. -/
def latestReset (userId : Id) (calls : List (Request × (ℕ → AuthInput))) (s : AuthStore) :
    Option PasswordResetToken :=
  ((issuedResets P calls s).filter fun row => row.userId == some userId).getLast?

def AddsReset (s s' : AuthStore) : Prop :=
  s'.passwordResetTokens.rows = s.passwordResetTokens.rows ∨ ∃ p now row, row.usedAt = none ∧
    s'.passwordResetTokens.rows = usedRows p now s.passwordResetTokens.rows ++ [row]

theorem forgotPassword_adds {A : AuthStore → authInterface.Command → AuthInput → Prop}
    (email : String) (metadata : AuthRequestMetadata) (s : AuthStore) :
    (forgotPassword P email metadata).wp execute A (fun _ _ _ => True)
      (fun _ s' => AddsReset s s') s := by
  have hquiet : ∀ {α : Type} {p : Program authInterface α} {s' : AuthStore},
      p.Issues (Command.Within [.audit]) → AddsReset s s' →
      p.wp execute A (fun _ _ _ => True) (fun _ s'' => AddsReset s s'') s' := by
    intro α p s' hp hs'
    refine Program.wp_of_issues hp (fun c hc input s'' hs'' _ => ⟨trivial, ?_⟩) s' hs'
    rw [AddsReset, execute_resets_of_within hc (by simp) (by simp)]
    exact hs''
  have hsame : ∀ {α : Type} {p : Program authInterface α} {s' : AuthStore},
      p.Issues (Command.Within []) →
      s'.passwordResetTokens.rows = s.passwordResetTokens.rows →
      p.wp execute A (fun _ _ _ => True)
        (fun _ s'' => s''.passwordResetTokens.rows = s.passwordResetTokens.rows) s' := by
    intro α p s' hp hs'
    refine Program.wp_of_issues hp (fun c hc input s'' hs'' _ => ⟨trivial, ?_⟩) s' hs'
    rw [execute_of_within_nil hc]
    exact hs''
  refine wp_query_bind (fun _ _ => trivial) (fun i _ => ?_) (.inl rfl)
  split
  · exact hquiet (by simp) (.inl rfl)
  · refine Program.wp_bind (hsame (by simp [randomToken]) rfl) (fun token s₁ hs₁ => ?_)
      fun _ _ hs' => .inl hs'
    refine Program.wp_bind (hsame (by simp [expiresIn]) hs₁) (fun expiresAt s₂ hs₂ => ?_)
      fun _ _ hs' => .inl hs'
    refine Program.wp_bind (Q := fun _ s' => AddsReset s s') ?_ (fun _ s₃ hs₃ => ?_)
      fun _ _ hs' => hs'
    · refine Program.wp_perform (I := authInterface) (G := fun _ _ _ => True) (c := .write _)
        fun input _ => ⟨trivial, ?_⟩
      cases execute_resets _ input s₂ with
      | same h => exact .inl (h.trans hs₂)
      | used userId resetId passwordHash hc => cases hc
      | requested userId tenantId emailHash tokenHash expiresAt' hc h =>
          rw [hs₂] at h
          exact .inr ⟨_, _, _, rfl, h⟩
    · exact hquiet (by simp) hs₃

/-- A request keeps the rows as they were issued, and adds the one that it issues. -/
theorem issued_handle (call : Request × (ℕ → AuthInput)) (s : AuthStore) :
    ((handle P call.1).run execute call.2 s).2.passwordResetTokens.rows.map
        PasswordResetToken.issued =
      s.passwordResetTokens.rows.map PasswordResetToken.issued ++
        (issuedReset P s call).toList := by
  obtain ⟨r, ω⟩ := call
  by_cases hforgot : ∃ email metadata, r = .forgotPassword email metadata
  · obtain ⟨email, metadata, rfl⟩ := hforgot
    have hadds : AddsReset s ((handle P (.forgotPassword email metadata)).run execute ω s).2 :=
      Program.wp_run (Program.wp_map (forgotPassword_adds P email metadata s))
        (Program.along_true _ _ _)
    rcases hadds with hsame | ⟨p, now, row, hunused, hadded⟩
    · simp [issuedReset, hsame]
    · have hrow : row.issued = row := by
        rw [PasswordResetToken.issued, ← hunused]
      have hlength : (usedRows p now s.passwordResetTokens.rows).length =
          s.passwordResetTokens.rows.length := List.length_map _
      simp only [issuedReset]
      rw [hadded, List.map_append, map_issued_usedRows, List.map_singleton, hrow, ← hlength,
        List.getElem?_concat_length, Option.toList_some]
  · have hnone : issuedReset P s (r, ω) = none := by
      cases r with
      | forgotPassword email metadata => exact absurd ⟨email, metadata, rfl⟩ hforgot
      | _ => rfl
    have hkinds : .requestPasswordReset ∉ r.footprint := by
      cases r with
      | forgotPassword email metadata => exact absurd ⟨email, metadata, rfl⟩ hforgot
      | _ => simp [Request.footprint]
    rw [hnone, Option.toList_none, List.append_nil]
    have hkept : (handle P r).wp execute (fun _ _ _ => True) (fun _ _ _ => True)
        (fun _ s' => s'.passwordResetTokens.rows.map PasswordResetToken.issued =
          s.passwordResetTokens.rows.map PasswordResetToken.issued) s := by
      refine Program.wp_of_issues (J := fun s' => s'.passwordResetTokens.rows.map
        PasswordResetToken.issued = s.passwordResetTokens.rows.map PasswordResetToken.issued)
        (handle_within P r) (fun c hc input s' hs' _ => ⟨trivial, ?_⟩) s rfl
      cases execute_resets c input s' with
      | same h => rw [h, hs']
      | used userId resetId passwordHash hcommand h => rw [h, map_issued_usedRows, hs']
      | requested userId tenantId emailHash tokenHash expiresAt hcommand =>
          rw [hcommand] at hc
          exact absurd hc hkinds
    exact Program.wp_run hkept (Program.along_true _ ω s)

theorem issued_runCalls (calls : List (Request × (ℕ → AuthInput))) (s : AuthStore) :
    ((authSystem P).runCalls calls s).passwordResetTokens.rows.map PasswordResetToken.issued =
      s.passwordResetTokens.rows.map PasswordResetToken.issued ++ issuedResets P calls s := by
  induction calls generalizing s with
  | nil => exact (List.append_nil _).symm
  | cons call rest ih =>
      refine (ih _).trans ?_
      change ((handle P call.1).run execute call.2 s).2.passwordResetTokens.rows.map
        PasswordResetToken.issued ++ _ = _
      rw [issued_handle, List.append_assoc]
      rfl

/-! ## Users who keep their tenant -/

def Request.signsIn : Request → Bool
  | .forgotPassword .. | .resetPassword .. | .changePassword .. | .login .. | .refresh .. => true
  | _ => false

def signInKinds : List WriteKind :=
  [.requestPasswordReset, .resetPassword, .changePassword, .createOAuthState, .createMfaChallenge,
    .createRefreshToken, .rotateRefreshToken, .revokeTokens, .updateUser, .audit]

/-- The hash of a new refresh token is not that of a stored one. -/
def FreshToken (s : AuthStore) (c : authInterface.Command) (_ : AuthInput) : Prop :=
  ∀ data, Command.session c = some data → ∀ row ∈ s.refreshTokens.rows,
    row.tokenHash ≠ data.tokenHash

instance (s : AuthStore) (c : authInterface.Command) (input : AuthInput) :
    Decidable (FreshToken s c input) :=
  decidable_of_iff ((Command.session c).all (fun data =>
      decide (∀ row ∈ s.refreshTokens.rows, row.tokenHash ≠ data.tokenHash)) = true)
    (by simp only [FreshToken, Option.all_eq_true, decide_eq_true_eq])

/-- A reset is requested for a user of the tenant. -/
def RequestsOwn (s : AuthStore) (c : authInterface.Command) (_ : AuthInput) : Prop :=
  match c with
  | .write (.requestPasswordReset userId tenantId ..) =>
      ∃ user ∈ s.users.rows, user.id = userId ∧ user.tenantId = tenantId
  | _ => True

/-- The tokens carry the tenant of their users, the refresh tokens are told apart by their
hashes, and of the reset tokens of a user all but the latest are used. -/
structure Settled (s : AuthStore) : Prop where
  tokens : ∀ token ∈ s.refreshTokens.rows, ∀ user ∈ s.users.rows, user.id = token.userId →
    user.tenantId = some token.tenantId
  hashes : (s.refreshTokens.rows.map RefreshToken.tokenHash).Nodup
  resets : ∀ reset ∈ s.passwordResetTokens.rows, ∀ user ∈ s.users.rows,
    reset.userId = some user.id → user.tenantId = reset.tenantId
  latest : OnlyLatest PasswordResetToken.userId (fun reset => reset.usedAt.isSome)
    s.passwordResetTokens.rows

section Settled

variable {c : Command} {input : AuthInput} {s : AuthStore}

theorem users_of_execute (hc : c.Within signInKinds) {user' : User}
    (huser' : user' ∈ (execute c input s).2.users.rows) :
    ∃ user ∈ s.users.rows, user.id = user'.id ∧ user.tenantId = user'.tenantId := by
  cases execute_users c input s with
  | same hrows => exact ⟨user', hrows ▸ huser', rfl, rfl⟩
  | added w hw hkind user hrows =>
      subst hw
      have hnot : ∀ kind ∈ signInKinds, kind.addsUser = false := by decide
      rw [hnot _ hc] at hkind
      cases hkind
  | rewritten w hw hfault id htarget hrows =>
      subst hw
      rw [hrows] at huser'
      obtain ⟨user, huser, rfl⟩ := List.mem_map.mp huser'
      refine ⟨user, huser, ?_⟩
      split
      · exact ⟨(rewrite_id w input.now user).symm, (rewrite_activeIn hc (by simp [signInKinds])
          (by simp [signInKinds]) input.now user).2.symm⟩
      · exact ⟨rfl, rfl⟩

theorem tokens_of_execute {token' : RefreshToken}
    (htoken' : token' ∈ (execute c input s).2.refreshTokens.rows) :
    (∃ token ∈ s.refreshTokens.rows, Later token token') ∨
      ∃ data, c.session = some data ∧ token' = refreshTokenRow input data := by
  cases execute_refreshTokens c input s with
  | same hrows => exact .inl ⟨token', hrows ▸ htoken', later_refl token'⟩
  | revoked w _ _ _ hrows =>
      rw [hrows] at htoken'
      obtain ⟨token, htoken, rfl⟩ := List.mem_map.mp htoken'
      exact .inl ⟨token, htoken, later_revoke w.revokes input.now token⟩
  | created data hc hrows =>
      rw [hrows] at htoken'
      rcases List.mem_append.mp htoken' with htoken | hnew
      · exact .inl ⟨token', htoken, later_refl token'⟩
      · exact .inr ⟨data, by rw [hc]; rfl, List.mem_singleton.mp hnew⟩
  | rotated id data hc _ _ _ _ _ hrows =>
      rw [hrows] at htoken'
      rcases List.mem_append.mp htoken' with hold | hnew
      · obtain ⟨token, htoken, rfl⟩ := List.mem_map.mp hold
        exact .inl ⟨token, htoken, later_rotate id input.now token⟩
      · exact .inr ⟨data, by rw [hc]; rfl, List.mem_singleton.mp hnew⟩

omit [Collation] in
theorem map_tokenHash {f : RefreshToken → RefreshToken} (hf : ∀ row, Later row (f row))
    (rows : List RefreshToken) :
    (rows.map f).map RefreshToken.tokenHash = rows.map RefreshToken.tokenHash := by
  rw [List.map_map]
  exact List.map_congr_left fun row _ => (hf row).tokenHash

theorem hashes_execute (h : (s.refreshTokens.rows.map RefreshToken.tokenHash).Nodup)
    (hfresh : FreshToken s c input) :
    ((execute c input s).2.refreshTokens.rows.map RefreshToken.tokenHash).Nodup := by
  have hnew : ∀ data, c.session = some data →
      (s.refreshTokens.rows.map RefreshToken.tokenHash ++ [data.tokenHash]).Nodup := by
    intro data hdata
    rw [List.nodup_append]
    refine ⟨h, List.nodup_singleton _, ?_⟩
    rintro hash hhash _ hmem rfl
    obtain ⟨row, hrow, hsame⟩ := List.mem_map.mp hhash
    exact hfresh data hdata row hrow (hsame.trans (List.mem_singleton.mp hmem))
  cases execute_refreshTokens c input s with
  | same hrows => rwa [hrows]
  | revoked w _ _ _ hrows => rwa [hrows, revokedRows, map_tokenHash (later_revoke _ _)]
  | created data hc hrows =>
      rw [hrows, List.map_append]
      exact hnew data (by rw [hc]; rfl)
  | rotated id data hc _ _ _ _ _ hrows =>
      rw [hrows, List.map_append, rotatedRows, map_tokenHash (later_rotate _ _)]
      exact hnew data (by rw [hc]; rfl)

omit [Collation] in
theorem resets_of_usedRows {p : PasswordResetToken → Bool} {now : Time}
    {rows : List PasswordResetToken} {reset' : PasswordResetToken}
    (h : reset' ∈ usedRows p now rows) :
    ∃ reset ∈ rows, reset.userId = reset'.userId ∧ reset.tenantId = reset'.tenantId := by
  obtain ⟨reset, hreset, rfl⟩ := List.mem_map.mp h
  refine ⟨reset, hreset, ?_⟩
  split <;> exact ⟨rfl, rfl⟩

omit [Collation] in
theorem onlyLatest_usedRows {rows : List PasswordResetToken}
    (h : OnlyLatest PasswordResetToken.userId (fun reset => reset.usedAt.isSome) rows)
    (p : PasswordResetToken → Bool) (now : Time) :
    OnlyLatest PasswordResetToken.userId (fun reset => reset.usedAt.isSome)
      (usedRows p now rows) := by
  apply OnlyLatest.map h
  · intro row
    split <;> rfl
  · intro row hused
    split
    · rfl
    · exact hused

theorem Settled.execute (h : Settled s) (hc : c.Within signInKinds) (hgated : Gated s c input)
    (hown : RequestsOwn s c input) (hfresh : FreshToken s c input) :
    Settled (execute c input s).2 where
  tokens := by
    intro token' htoken' user' huser' hid
    obtain ⟨user, huser, huserId, htenantId⟩ := users_of_execute hc huser'
    rw [← htenantId]
    rcases tokens_of_execute htoken' with ⟨token, htoken, hlater⟩ | ⟨data, hdata, rfl⟩
    · rw [hlater.tenantId]
      exact h.tokens token htoken user huser (by rw [huserId, hid, hlater.userId])
    · obtain ⟨owner, howner, hownerId, -, hownerTenant, -⟩ := hgated data hdata
      have hsame : user = owner := user_eq_of_id huser howner (by rw [huserId, hid, hownerId]; rfl)
      rw [hsame, hownerTenant]
      rfl
  hashes := hashes_execute h.hashes hfresh
  resets := by
    intro reset' hreset' user' huser' hid
    obtain ⟨user, huser, huserId, htenantId⟩ := users_of_execute hc huser'
    rw [← htenantId]
    have hold : ∀ reset ∈ s.passwordResetTokens.rows, reset.userId = reset'.userId →
        reset.tenantId = reset'.tenantId → user.tenantId = reset'.tenantId := by
      intro reset hreset hresetUser hresetTenant
      rw [← hresetTenant]
      exact h.resets reset hreset user huser (by rw [hresetUser, hid, huserId])
    cases execute_resets c input s with
    | same hrows => exact hold reset' (hrows ▸ hreset') rfl rfl
    | used userId resetId passwordHash _ hrows =>
        obtain ⟨reset, hreset, hresetUser, hresetTenant⟩ := resets_of_usedRows (hrows ▸ hreset')
        exact hold reset hreset hresetUser hresetTenant
    | requested userId tenantId emailHash tokenHash expiresAt hcommand hrows =>
        rw [hrows] at hreset'
        rcases List.mem_append.mp hreset' with hmarked | hnew
        · obtain ⟨reset, hreset, hresetUser, hresetTenant⟩ := resets_of_usedRows hmarked
          exact hold reset hreset hresetUser hresetTenant
        · rw [hcommand] at hown
          obtain ⟨owner, howner, hownerId, hownerTenant⟩ := hown
          obtain rfl := List.mem_singleton.mp hnew
          have hsame : user = owner :=
            user_eq_of_id huser howner (by rw [huserId, hownerId, ← Option.some.inj hid])
          rw [hsame]
          exact hownerTenant
  latest := by
    cases execute_resets c input s with
    | same hrows =>
        rw [hrows]
        exact h.latest
    | used userId resetId passwordHash _ hrows =>
        rw [hrows]
        exact onlyLatest_usedRows h.latest _ _
    | requested userId tenantId emailHash tokenHash expiresAt hcommand hrows =>
        rw [hrows]
        rw [hcommand] at hown
        obtain ⟨owner, howner, rfl, hownerTenant⟩ := hown
        apply (onlyLatest_usedRows h.latest _ _).append
        intro reset' hreset' userId' huserId' hnew
        obtain ⟨reset, hreset, rfl⟩ := List.mem_map.mp hreset'
        obtain rfl := Option.some.inj hnew
        -- the unused tokens of the user are selected, since they carry its tenant
        split
        · rfl
        · next hkeep =>
            rw [if_neg hkeep] at huserId'
            have htenant := h.resets reset hreset owner howner huserId'
            simpa [huserId', ← htenant, hownerTenant, Option.isSome_iff_ne_none] using hkeep

end Settled

section Requests

variable {A : AuthStore → authInterface.Command → AuthInput → Prop}

theorem requestsOwn_of_within {kinds : List WriteKind} {c : Command} (hc : c.Within kinds)
    (hkinds : .requestPasswordReset ∉ kinds) (s : AuthStore) (input : AuthInput) :
    RequestsOwn s c input := by
  cases c with
  | query q => trivial
  | external e => trivial
  | write w =>
      cases w with
      | requestPasswordReset => exact absurd hc hkinds
      | _ => trivial

theorem forgotPassword_owns (email : String) (metadata : AuthRequestMetadata) (s : AuthStore) :
    (forgotPassword P email metadata).wp execute A RequestsOwn (fun _ _ => True) s := by
  have hquiet : ∀ {α : Type} {p : Program authInterface α} (s' : AuthStore),
      p.Issues (Command.Within [.audit]) →
      p.wp execute A RequestsOwn (fun _ _ => True) s' := by
    intro α p s' hp
    exact Program.wp_of_issues (J := fun _ => True) hp
      (fun c hc input s' _ _ => ⟨requestsOwn_of_within hc (by simp) s' input, trivial⟩) s' trivial
  have hsame : ∀ {α : Type} {p : Program authInterface α}, p.Issues (Command.Within []) →
      p.wp execute A RequestsOwn (fun _ s' => s' = s) s := by
    intro α p hp
    refine Program.wp_of_issues (J := fun s' => s' = s) hp (fun c hc input s' hs' _ => ?_) s rfl
    rw [execute_of_within_nil hc]
    exact ⟨requestsOwn_of_within hc (by simp) s' input, hs'⟩
  refine wp_query_bind (fun _ _ => trivial) (fun i _ => ?_) trivial
  split
  · exact hquiet s (by simp)
  · next found hfound =>
      refine Program.wp_bind (hsame (by simp [randomToken])) (fun token s₁ hs₁ => ?_)
        fun _ _ _ => trivial
      subst hs₁
      refine Program.wp_bind (hsame (by simp [expiresIn])) (fun expiresAt s₂ hs₂ => ?_)
        fun _ _ _ => trivial
      subst hs₂
      refine Program.wp_perform_bind fun input _ => ⟨?_, fun _ _ => hquiet _ (by simp),
        fun _ _ => trivial⟩
      obtain ⟨user, huser, rfl⟩ := Option.map_eq_some_iff.mp hfound
      exact ⟨user, List.mem_of_find?_eq_some huser, rfl, rfl⟩

/-- What the calls of these requests observe. -/
def KeepsSettled (s : AuthStore) (c : authInterface.Command) (input : AuthInput) : Prop :=
  c.Within signInKinds ∧ Gated s c input ∧ RequestsOwn s c input

theorem along_keepsSettled {r : Request} (hr : r.signsIn = true) (s : AuthStore)
    (ω : ℕ → AuthInput) : (handle P r).Along execute KeepsSettled ω s := by
  have hwithin : (handle P r).Issues (Command.Within signInKinds) := by
    refine (handle_within P r).mono fun c hc => hc.mono ?_
    cases r with
    | forgotPassword | resetPassword | changePassword | login | refresh =>
        simp [Request.footprint, signInKinds]
    | _ => cases hr
  have hinvites : InvitesToActiveTenant P r s := by
    cases r with
    | forgotPassword | resetPassword | changePassword | login | refresh => trivial
    | _ => cases hr
  have hown : (handle P r).wp execute (fun _ _ _ => True) RequestsOwn (fun _ _ => True) s := by
    cases r with
    | forgotPassword email metadata => exact Program.wp_map (forgotPassword_owns P email metadata s)
    | resetPassword | changePassword | login | refresh =>
        refine Program.wp_of_issues (J := fun _ => True) (handle_within P _)
          (fun c hc input s' _ _ => ⟨requestsOwn_of_within hc ?_ s' input, trivial⟩) s trivial
        simp [Request.footprint]
    | _ => cases hr
  have htrue := Program.along_true (b := execute) (handle P r) ω s
  have halong := (Program.wp_along (Program.wp_of_issues (J := fun _ => True)
    (G := fun _ c _ => Command.Within signInKinds c) hwithin
      (fun c hc _ _ _ _ => ⟨hc, trivial⟩) s trivial)
    htrue).and ((Program.wp_along (handle_gatedIff P r s) htrue).and (Program.wp_along hown htrue))
  exact halong.mono fun s' c input h =>
    ⟨h.1, fun data hdata => (h.2.1 data hdata).mpr hinvites, h.2.2⟩

theorem settled_runCalls {calls : List (Request × (ℕ → AuthInput))} {s : AuthStore}
    (hs : Settled s) (hcalls : ∀ call ∈ calls, call.1.signsIn = true)
    (hfresh : (authSystem P).AlongCalls FreshToken calls s) :
    Settled ((authSystem P).runCalls calls s) :=
  (authSystem P).runCalls_of_along
    (fun _ _ _ h hc => h.execute hc.1.1 hc.1.2.1 hc.1.2.2 hc.2) calls s hs
    ((authSystem P).alongCalls_and calls s
      ((authSystem P).alongCalls_of_mem (C := fun r => r.signsIn = true)
        (fun _ hr s ω => along_keepsSettled P hr s ω) calls s hcalls) hfresh)

/-! ## What a new password does -/

theorem execute_query_eq_ok {q : Query} {input : AuthInput} {s s' : AuthStore} {a : q.Result}
    (h : execute (.query q) input s = (.ok a, s')) : a = q.answer s input.now ∧ s' = s := by
  cases hfault : input.fault with
  | true => simp [execute, hfault] at h
  | false =>
      simp only [execute, hfault, Bool.false_eq_true, if_false, Prod.mk.injEq, Except.ok.injEq] at h
      exact ⟨h.1.symm, h.2.symm⟩

theorem execute_external_eq_ok {e : External} {input : AuthInput} {s s' : AuthStore} {a : e.Result}
    (h : execute (.external e) input s = (.ok a, s')) : s' = s :=
  (congrArg Prod.snd h).symm

theorem execute_write_eq_ok {w : Write} {input : AuthInput} {s s' : AuthStore} {a : w.Result}
    (h : execute (.write w) input s = (.ok a, s')) : w.apply s input = .ok (a, s') := by
  have happly := apply_of_write_ok (congrArg Prod.fst h)
  rwa [h] at happly

theorem recordAudit_keeps {record : AuthAuditRecord} {ω : ℕ → AuthInput} {s s' : AuthStore}
    {outcome : Except ServiceError Unit}
    (h : (recordAudit record).run execute ω s = (outcome, s')) :
    s'.passwordResetTokens = s.passwordResetTokens ∧ s'.refreshTokens = s.refreshTokens := by
  have hstore : ((recordAudit record).run execute ω s).2 = s' := congrArg Prod.snd h
  rw [← hstore, recordAudit, Program.run_perform]
  obtain ⟨auditLogs, h⟩ := execute_recordAudit _ (ω 0) s
  rw [h]
  exact ⟨rfl, rfl⟩

theorem revoked_of_revokeTokens {s : AuthStore} {p : RefreshToken → Bool} {now : Time}
    {token : RefreshToken} (h : token ∈ (revokeTokens s p now).refreshTokens.rows)
    (hp : ∀ row ∈ s.refreshTokens.rows, Later row token → row.revokedAt = none → p row = true) :
    token.revokedAt ≠ none := by
  obtain ⟨row, hrow, rfl⟩ := List.mem_map.mp h
  have hlater := later_revoke p now row
  by_cases hlive : row.revokedAt = none
  · rw [if_pos (hp row hrow hlater hlive)]
    simp [RefreshToken.revoke]
  · split
    · simp [RefreshToken.revoke]
    · exact hlive

/-- A reset that succeeds has found the token unused and unexpired. It leaves it used, and
no live refresh token of its user. -/
theorem resetPassword_ok {dto : ResetPasswordDto} {metadata : AuthRequestMetadata}
    {ω : ℕ → AuthInput} {s s' : AuthStore}
    (h : (resetPassword P dto metadata).run execute ω s = (.ok (), s')) :
    ∃ reset userId, s.passwordResetTokens.rows.find? (fun row =>
        row.tokenHash == hashOpaqueToken P dto.token && isOpen row.expiresAt row.usedAt (ω 0).now) =
        some reset ∧ reset.userId = some userId ∧
      (∃ reset' ∈ s'.passwordResetTokens.rows, reset'.tokenHash = reset.tokenHash ∧
        reset'.usedAt.isSome = true) ∧
      ∀ token ∈ s'.refreshTokens.rows, token.userId = userId → token.revokedAt ≠ none := by
  rw [resetPassword, Program.run_ofExcept_bind_eq_ok_iff] at h
  obtain ⟨-, -, hread⟩ := h
  obtain ⟨found, s₁, hfound, hrest⟩ := Program.run_perform_bind_eq_ok_iff.mp hread
  obtain ⟨rfl, rfl⟩ := execute_query_eq_ok hfound
  dsimp only at hrest
  split at hrest
  · next resetId userId tenantId hreset =>
      obtain ⟨reset, hanswer, hreset'⟩ := Option.bind_eq_some_iff.mp hreset
      obtain ⟨userId', huserId, hreset''⟩ := Option.bind_eq_some_iff.mp hreset'
      obtain ⟨tenantId', -, hids⟩ := Option.bind_eq_some_iff.mp hreset''
      obtain ⟨rfl, rfl, rfl⟩ := Prod.mk.inj (Option.some.inj hids)
      rw [newPasswordHash, bind_assoc] at hrest
      obtain ⟨salt, s₂, hsalt, hhash⟩ := Program.run_perform_bind_eq_ok_iff.mp hrest
      obtain rfl := execute_external_eq_ok hsalt
      obtain ⟨done, s₃, hwrite, haudit⟩ := Program.run_perform_bind_eq_ok_iff.mp hhash
      obtain ⟨hresets, htokens⟩ := recordAudit_keeps haudit
      have happly := execute_write_eq_ok hwrite
      simp only [Write.apply, Program.except_bind_eq_ok, requireRow_eq_ok, beq_iff_eq] at happly
      obtain ⟨-, -, -, -, hstore⟩ := happly
      obtain rfl := congrArg Prod.snd (Except.ok.inj hstore)
      have huser : reset.userId = some userId := (Option.filter_eq_some_iff.mp huserId).1
      refine ⟨reset, userId, hanswer, huser, ⟨reset.use (ω 2).now, ?_, rfl, rfl⟩, ?_⟩
      · rw [hresets]
        refine List.mem_map.mpr ⟨reset, List.mem_of_find?_eq_some hanswer, ?_⟩
        exact if_pos (beq_self_eq_true _)
      · intro token htoken hid
        rw [htokens] at htoken
        refine revoked_of_revokeTokens htoken fun row _ hlater hlive => ?_
        rw [← hlater.userId, hid, hlive]
        simp
  · cases hrest

theorem changePassword_ok {userId tenantId : Id} {dto : ChangePasswordDto} {ω : ℕ → AuthInput}
    {s s' : AuthStore} (hs : Settled s)
    (h : (changePassword P userId tenantId dto).run execute ω s = (.ok (), s')) :
    ∀ token ∈ s'.refreshTokens.rows, token.userId = userId → token.revokedAt ≠ none := by
  rw [changePassword, Program.run_ofExcept_bind_eq_ok_iff] at h
  obtain ⟨-, -, hread⟩ := h
  obtain ⟨found, s₁, hfound, hguarded⟩ := Program.run_perform_bind_eq_ok_iff.mp hread
  obtain ⟨rfl, rfl⟩ := execute_query_eq_ok hfound
  obtain ⟨hverified, hrest⟩ := Program.run_throwIf_bind_eq_ok_iff.mp hguarded
  -- the password was verified, so the user was found in the tenant
  obtain ⟨user, huser, hid, htenant⟩ : ∃ user ∈ s₁.users.rows, user.id = userId ∧
      user.tenantId = some tenantId := by
    rw [Query.answer] at hverified
    cases hfind : s₁.users.rows.find?
        (UserFilter.selects { id := some userId, tenantId := some tenantId } s₁) with
    | none => simp [hfind] at hverified
    | some user =>
        have hselected := List.find?_some hfind
        refine ⟨user, List.mem_of_find?_eq_some hfind, ?_⟩
        simpa [UserFilter.selects] using hselected
  rw [newPasswordHash, bind_assoc] at hrest
  obtain ⟨salt, s₂, hsalt, hhash⟩ := Program.run_perform_bind_eq_ok_iff.mp hrest
  obtain rfl := execute_external_eq_ok hsalt
  obtain ⟨done, s₃, hwrite, haudit⟩ := Program.run_perform_bind_eq_ok_iff.mp hhash
  obtain ⟨-, htokens⟩ := recordAudit_keeps haudit
  have happly := execute_write_eq_ok hwrite
  simp only [Write.apply, Program.except_bind_eq_ok, requireRow_eq_ok, beq_iff_eq] at happly
  obtain ⟨-, -, hstore⟩ := happly
  obtain rfl := congrArg Prod.snd (Except.ok.inj hstore)
  intro token htoken hid'
  rw [htokens] at htoken
  refine revoked_of_revokeTokens htoken fun row hrow hlater hlive => ?_
  have howner : row.userId = userId := hlater.userId.symm.trans hid'
  have hrowTenant := hs.tokens row hrow user huser (hid.trans howner.symm)
  rw [htenant] at hrowTenant
  simp [howner, hlive, Option.some.inj hrowTenant]

def UsedReset (tokenHash : String) (s : AuthStore) : Prop :=
  ∃ reset ∈ s.passwordResetTokens.rows, reset.tokenHash = tokenHash ∧ reset.usedAt.isSome = true

theorem UsedReset.execute {tokenHash : String} {s : AuthStore} (h : UsedReset tokenHash s)
    (c : Command) (input : AuthInput) : UsedReset tokenHash (execute c input s).2 := by
  obtain ⟨reset, hreset, hhash, hused⟩ := h
  have hmarked : ∀ p : PasswordResetToken → Bool,
      ∃ reset' ∈ usedRows p input.now s.passwordResetTokens.rows,
        reset'.tokenHash = tokenHash ∧ reset'.usedAt.isSome = true := by
    intro p
    refine ⟨_, List.mem_map_of_mem hreset, ?_⟩
    split
    · exact ⟨hhash, rfl⟩
    · exact ⟨hhash, hused⟩
  cases execute_resets c input s with
  | same hrows => exact ⟨reset, hrows ▸ hreset, hhash, hused⟩
  | used userId resetId passwordHash _ hrows =>
      rw [UsedReset, hrows]
      exact hmarked _
  | requested userId tenantId emailHash tokenHash' expiresAt _ hrows =>
      obtain ⟨reset', hreset', hhash', hused'⟩ := hmarked (fun row => row.userId == some userId &&
        row.tenantId == tenantId && row.usedAt.isNone)
      refine ⟨reset', ?_, hhash', hused'⟩
      rw [hrows]
      exact List.mem_append_left _ hreset'

def FindsRevoked (tokenHash : String) (s : AuthStore) : Prop :=
  ∃ token, s.refreshTokens.rows.find? (fun row => row.tokenHash == tokenHash) = some token ∧
    token.live = false

theorem FindsRevoked.execute {tokenHash : String} {s : AuthStore} (h : FindsRevoked tokenHash s)
    (c : Command) (input : AuthInput) : FindsRevoked tokenHash (execute c input s).2 := by
  obtain ⟨token, hfind, hdead⟩ := h
  obtain ⟨token', hfind', hlater⟩ := find_execute (p := fun row => row.tokenHash == tokenHash)
    (fun a b hab => by simp [hab.tokenHash]) hfind c input
  refine ⟨token', hfind', ?_⟩
  by_contra hlive
  rw [Bool.not_eq_false] at hlive
  rw [hlater.live_of hlive] at hdead
  cases hdead

theorem refresh_ok {refreshToken : Option String} {metadata : AuthRequestMetadata}
    {ω : ℕ → AuthInput} {s : AuthStore}
    (h : ((handle P (.refresh refreshToken metadata)).run execute ω s).1.isOk = true) :
    ∃ session, presented P s refreshToken = some session ∧ session.token.live = true := by
  have hrefresh : (refresh P refreshToken metadata).wp execute (fun _ _ _ => True)
      (fun _ _ _ => True) (fun outcome _ => outcome.isOk = true →
        ∃ session, presented P s refreshToken = some session ∧ session.token.live = true) s := by
    refine Program.wp_bind (getValidRefreshSession_wp P (fun _ _ _ _ _ => trivial) refreshToken
      metadata s) (fun session s' hvalid => ?_) fun _ _ _ hok => by cases hok
    exact Program.wp_mono (Program.wp_true _ _) fun _ _ _ _ => ⟨session, hvalid.2.1, hvalid.2.2⟩
  have hrun := Program.wp_run hrefresh (Program.along_true _ ω s)
  rw [handle, Program.run_map] at h
  apply hrun
  cases houtcome : ((refresh P refreshToken metadata).run execute ω s).1 with
  | ok result => rfl
  | error error =>
      rw [houtcome] at h
      cases h

theorem refresh_fails_of_findsRevoked {refreshToken : String} {metadata : AuthRequestMetadata}
    {ω : ℕ → AuthInput} {s : AuthStore} (h : FindsRevoked (hashRefreshToken P refreshToken) s) :
    ((handle P (.refresh (some refreshToken) metadata)).run execute ω s).1.isOk = false := by
  by_contra hok
  rw [Bool.not_eq_false] at hok
  obtain ⟨session, hpresented, hlive⟩ := refresh_ok P hok
  obtain ⟨token, hfind, hdead⟩ := h
  obtain ⟨presentedToken, htoken, hanswer⟩ := Option.bind_eq_some_iff.mp hpresented
  obtain rfl := Option.some.inj (Option.filter_eq_some_iff.mp htoken).1
  obtain ⟨token', hfind', hrest⟩ := Option.bind_eq_some_iff.mp hanswer
  obtain ⟨user, -, hsession⟩ := Option.bind_eq_some_iff.mp hrest
  obtain rfl := Option.some.inj hsession
  obtain rfl := Option.some.inj (hfind.symm.trans hfind')
  rw [hlive] at hdead
  cases hdead

theorem findsRevoked_of_mem {s : AuthStore} (hs : Settled s) {token : RefreshToken}
    (htoken : token ∈ s.refreshTokens.rows) (hrevoked : token.revokedAt ≠ none) :
    FindsRevoked token.tokenHash s := by
  have hsome := List.find?_isSome (p := fun row : RefreshToken => row.tokenHash == token.tokenHash)
    |>.mpr ⟨token, htoken, beq_self_eq_true _⟩
  obtain ⟨found, hfound⟩ := Option.isSome_iff_exists.mp hsome
  refine ⟨found, hfound, ?_⟩
  have hhash := List.find?_some hfound
  rw [beq_iff_eq] at hhash
  have hsame := List.inj_on_of_nodup_map hs.hashes (List.mem_of_find?_eq_some hfound) htoken hhash
  rw [hsame, RefreshToken.live, Option.isNone_eq_false_iff, Option.isSome_iff_ne_none]
  exact hrevoked

end Requests

/-! ## Sequences of requests -/

def passwordOwner (s : AuthStore) : Request → Option Id
  | .resetPassword dto _ =>
      (s.passwordResetTokens.rows.find? fun row =>
        row.tokenHash == hashOpaqueToken P dto.token).bind
        PasswordResetToken.userId
  | .changePassword userId _ _ => some userId
  | _ => none

theorem latestReset_eq {calls : List (Request × (ℕ → AuthInput))} {s : AuthStore}
    (hnone : s.passwordResetTokens.rows = []) (hs : Settled ((authSystem P).runCalls calls s))
    {reset : PasswordResetToken}
    (hreset : reset ∈ ((authSystem P).runCalls calls s).passwordResetTokens.rows)
    (hunused : reset.usedAt = none) {userId : Id} (hid : reset.userId = some userId) :
    latestReset P userId calls s = some reset := by
  have hissued := issued_runCalls P calls s
  rw [hnone, List.map_nil, List.nil_append] at hissued
  have hlast := hs.latest.getLast?_eq hreset hid (by rw [hunused]; rfl)
  have hsame : reset.issued = reset := by
    rw [PasswordResetToken.issued, ← hunused]
  have howner : (fun row : PasswordResetToken => row.userId == some userId) ∘
      PasswordResetToken.issued = fun row => row.userId == some userId := rfl
  rw [latestReset, ← hissued, List.filter_map, howner, List.getLast?_map, hlast, Option.map_some,
    hsame]

theorem resetPassword_isOk {dto : ResetPasswordDto} {metadata : AuthRequestMetadata}
    {ω : ℕ → AuthInput} {s : AuthStore}
    (h : ((handle P (.resetPassword dto metadata)).run execute ω s).1.isOk = true) :
    ∃ reset ∈ s.passwordResetTokens.rows, ∃ userId, reset.userId = some userId ∧
      reset.tokenHash = hashOpaqueToken P dto.token ∧ (ω 0).now < reset.expiresAt ∧
      reset.usedAt = none ∧
      UsedReset (hashOpaqueToken P dto.token)
        ((handle P (.resetPassword dto metadata)).run execute ω s).2 ∧
      ∀ token ∈ ((handle P (.resetPassword dto metadata)).run execute ω s).2.refreshTokens.rows,
        token.userId = userId → token.revokedAt ≠ none := by
  obtain ⟨done, hrun⟩ := Program.exists_of_run_map_isOk h
  obtain ⟨reset, userId, hfind, hid, hused, hrevoked⟩ := resetPassword_ok P hrun
  have hfound := List.find?_some hfind
  simp only [isOpen, Bool.and_eq_true, beq_iff_eq, decide_eq_true_eq, Option.isNone_iff_eq_none]
    at hfound
  obtain ⟨hhash, hexpires, hunused⟩ := hfound
  rw [hhash] at hused
  exact ⟨reset, List.mem_of_find?_eq_some hfind, userId, hid, hhash, hexpires, hunused, hused,
    hrevoked⟩

theorem reset_fails_of_used {dto : ResetPasswordDto} {metadata : AuthRequestMetadata}
    {ω : ℕ → AuthInput} {s : AuthStore} (h : UsedReset (hashOpaqueToken P dto.token) s) :
    ((handle P (.resetPassword dto metadata)).run execute ω s).1.isOk = false := by
  by_contra hok
  rw [Bool.not_eq_false] at hok
  obtain ⟨reset, hreset, userId, -, hhash, -, hunused, -⟩ := resetPassword_isOk P hok
  obtain ⟨used, hmem, hhash', hmark⟩ := h
  have hsame : reset = used := by
    apply s.passwordResetTokens.eq_of_key hreset hmem (k := .hash reset.tokenHash)
    · simp [PasswordResetToken.keys]
    · simp [PasswordResetToken.keys, hhash, hhash']
  rw [← hsame, hunused] at hmark
  cases hmark

/-- A request that sets the password of a user leaves no live refresh token of the user. -/
theorem revoked_of_passwordOwner {r : Request} {ω : ℕ → AuthInput} {s : AuthStore}
    (hs : Settled s) {userId : Id} (howner : passwordOwner P s r = some userId)
    (hok : ((handle P r).run execute ω s).1.isOk = true) :
    ∀ token ∈ ((handle P r).run execute ω s).2.refreshTokens.rows, token.userId = userId →
      token.revokedAt ≠ none := by
  cases r with
  | resetPassword dto metadata =>
      obtain ⟨reset, hreset, owner, hid, hhash, -, -, -, hrevoked⟩ := resetPassword_isOk P hok
      have hfind := s.passwordResetTokens.find?_eq_some_of_key hreset (k := .hash reset.tokenHash)
        (p := fun row => row.tokenHash == hashOpaqueToken P dto.token)
        (by simp [PasswordResetToken.keys]) (beq_iff_eq.mpr hhash)
        (fun row hrow => by simp [PasswordResetToken.keys, hhash, beq_iff_eq.mp hrow])
      rw [passwordOwner, hfind, Option.bind_some, hid] at howner
      rw [← Option.some.inj howner]
      exact hrevoked
  | changePassword owner tenantId dto =>
      obtain ⟨done, hrun⟩ := Program.exists_of_run_map_isOk hok
      rw [← Option.some.inj howner]
      exact changePassword_ok P hs hrun
  | _ => cases howner

/-- What no call takes back holds of every later store. -/
theorem runCalls_of_execute {J : AuthStore → Prop}
    (hJ : ∀ s c input, J s → J (execute c input s).2) {before : List (Request × (ℕ → AuthInput))}
    {r : Request} {ω : ℕ → AuthInput} {s : AuthStore}
    (h : J ((handle P r).run execute ω ((authSystem P).runCalls before s)).2)
    (between : List (Request × (ℕ → AuthInput))) :
    J ((authSystem P).runCalls (before ++ (r, ω) :: between) s) := by
  rw [(authSystem P).runCalls_append]
  exact (authSystem P).runCalls_of_along (G := fun _ _ _ => True)
    (fun s c input h _ => hJ s c input h) between _ h ((authSystem P).alongCalls_true between _)

/-- A sequence of these requests, each run to its end, from a store without reset tokens, in
which new refresh tokens have new hashes. An unused reset token is the one issued by the
latest `forgotPassword` for its user; a reset succeeds only with such a token and before it
expires, and once with each; and after a reset or a change of the password that succeeds the
user has no live refresh token, and no refresh succeeds any more with one stored by then. -/
theorem resets_are_exclusive_and_end_sessions {s : AuthStore} (hs : Settled s)
    (hnone : s.passwordResetTokens.rows = []) {calls : List (Request × (ℕ → AuthInput))}
    (hcalls : ∀ call ∈ calls, call.1.signsIn = true)
    (hfresh : (authSystem P).AlongCalls FreshToken calls s) :
    (∀ before after, calls = before ++ after →
      ∀ reset ∈ ((authSystem P).runCalls before s).passwordResetTokens.rows,
        reset.usedAt = none → ∀ userId, reset.userId = some userId →
          latestReset P userId before s = some reset) ∧
    (∀ before dto metadata ω after, calls = before ++ (.resetPassword dto metadata, ω) :: after →
      ((handle P (.resetPassword dto metadata)).run execute ω
        ((authSystem P).runCalls before s)).1.isOk = true →
      ∃ reset ∈ ((authSystem P).runCalls before s).passwordResetTokens.rows,
        reset.tokenHash = hashOpaqueToken P dto.token ∧ (ω 0).now < reset.expiresAt ∧
          ∃ userId, reset.userId = some userId ∧ latestReset P userId before s = some reset) ∧
    (∀ before dto metadata ω between dto' metadata' ω' after,
      calls = before ++ (.resetPassword dto metadata, ω) :: between ++
        (.resetPassword dto' metadata', ω') :: after → dto'.token = dto.token →
      ((handle P (.resetPassword dto metadata)).run execute ω
        ((authSystem P).runCalls before s)).1.isOk = true →
      ((handle P (.resetPassword dto' metadata')).run execute ω' ((authSystem P).runCalls
        (before ++ (.resetPassword dto metadata, ω) :: between) s)).1.isOk = false) ∧
    ∀ before r ω after userId, calls = before ++ (r, ω) :: after →
      passwordOwner P ((authSystem P).runCalls before s) r = some userId →
      ((handle P r).run execute ω ((authSystem P).runCalls before s)).1.isOk = true →
      (∀ token ∈ ((authSystem P).runCalls (before ++ [(r, ω)]) s).refreshTokens.rows,
        token.userId = userId → token.revokedAt ≠ none) ∧
      ∀ between refreshToken metadata ω' rest,
        after = between ++ (.refresh (some refreshToken) metadata, ω') :: rest →
        (∃ token ∈ ((authSystem P).runCalls (before ++ [(r, ω)]) s).refreshTokens.rows,
          token.userId = userId ∧ token.tokenHash = hashRefreshToken P refreshToken) →
        ((handle P (.refresh (some refreshToken) metadata)).run execute ω'
          ((authSystem P).runCalls (before ++ (r, ω) :: between) s)).1.isOk = false := by
  have hsettled : ∀ before after, calls = before ++ after →
      Settled ((authSystem P).runCalls before s) := by
    rintro before after rfl
    exact settled_runCalls P hs (fun call hcall => hcalls call (List.mem_append_left after hcall))
      (((authSystem P).alongCalls_append before after s).mp hfresh).1
  refine ⟨?_, ?_, ?_, ?_⟩
  · intro before after hsplit reset hreset hunused userId hid
    exact latestReset_eq P hnone (hsettled before after hsplit) hreset hunused hid
  · intro before dto metadata ω after hsplit hok
    obtain ⟨reset, hreset, userId, hid, hhash, hexpires, hunused, -⟩ := resetPassword_isOk P hok
    exact ⟨reset, hreset, hhash, hexpires, userId, hid,
      latestReset_eq P hnone (hsettled before _ hsplit) hreset hunused hid⟩
  · intro before dto metadata ω between dto' metadata' ω' after hsplit htoken hok
    obtain ⟨reset, hreset, userId, -, -, -, -, hused, -⟩ := resetPassword_isOk P hok
    apply reset_fails_of_used
    rw [htoken]
    exact runCalls_of_execute P (fun s c input h => h.execute c input) hused between
  · intro before r ω after userId hsplit howner hok
    have hrevoked := revoked_of_passwordOwner P (hsettled before _ hsplit) howner hok
    have hstore : (authSystem P).runCalls (before ++ [(r, ω)]) s =
        ((handle P r).run execute ω ((authSystem P).runCalls before s)).2 :=
      (authSystem P).runCalls_append before [(r, ω)] s
    have hsettled' := hsettled (before ++ [(r, ω)]) after (by rw [hsplit, List.append_cons])
    rw [hstore] at hsettled' ⊢
    refine ⟨hrevoked, ?_⟩
    rintro between refreshToken metadata ω' rest hafter ⟨token, htoken, hid, hhash⟩
    have hfinds := findsRevoked_of_mem hsettled' htoken (hrevoked token htoken hid)
    rw [hhash] at hfinds
    apply refresh_fails_of_findsRevoked
    exact runCalls_of_execute P (fun s c input h => h.execute c input) hfinds between

end

/-! ## A reset that is asked for twice -/

attribute [local instance] foldCase

/-- Ana logs in and asks for a reset twice. -/
def resetRequests : List (Request × (ℕ → AuthInput)) :=
  [(.login ⟨"ana@acme", "segredo", none⟩ noMetadata, drawn 1),
    (.forgotPassword "ana@acme" noMetadata, drawn 2),
    (.forgotPassword "ana@acme" noMetadata, drawn 3)]

/-- She resets the password with the token of this request. -/
def resetWith (request : ℕ) : Request :=
  .resetPassword ⟨drawnToken request, "Segredo-12", "Segredo-12"⟩ noMetadata

theorem oneUser_settled : Settled oneUser where
  tokens := by decide
  hashes := by decide
  resets := by decide
  latest := List.Pairwise.nil

/-- The first token is refused and the second accepted, and the session of the login is
over. -/
theorem resetRequests_end_the_session :
    ((handle plainPlatform (resetWith 2)).run execute (drawn 4)
      ((authSystem plainPlatform).runCalls resetRequests oneUser)).1.isOk = false ∧
    ((handle plainPlatform (resetWith 3)).run execute (drawn 4)
      ((authSystem plainPlatform).runCalls resetRequests oneUser)).1.isOk = true ∧
    ((handle plainPlatform (.refresh (some (drawnToken 1)) noMetadata)).run execute (drawn 5)
      ((authSystem plainPlatform).runCalls (resetRequests ++ [(resetWith 3, drawn 4)])
        oneUser)).1.isOk = false := by
  have hcalls : ∀ call ∈ resetRequests ++ (resetWith 3, drawn 4) ::
      [(.refresh (some (drawnToken 1)) noMetadata, drawn 5)], call.1.signsIn = true := by
    decide
  have hrun : (authSystem plainPlatform).AlongCalls FreshToken (resetRequests ++
        (resetWith 3, drawn 4) :: [(.refresh (some (drawnToken 1)) noMetadata, drawn 5)])
        oneUser ∧
      ((handle plainPlatform (resetWith 2)).run execute (drawn 4)
        ((authSystem plainPlatform).runCalls resetRequests oneUser)).1.isOk = false ∧
      ((handle plainPlatform (resetWith 3)).run execute (drawn 4)
        ((authSystem plainPlatform).runCalls resetRequests oneUser)).1.isOk = true ∧
      passwordOwner plainPlatform ((authSystem plainPlatform).runCalls resetRequests oneUser)
        (resetWith 3) = some "ana" ∧
      ∃ token ∈ ((authSystem plainPlatform).runCalls (resetRequests ++ [(resetWith 3, drawn 4)])
        oneUser).refreshTokens.rows,
        token.userId = "ana" ∧ token.tokenHash = hashRefreshToken plainPlatform (drawnToken 1) := by
    decide +kernel
  obtain ⟨hfresh, hrefused, haccepted, howner, htoken⟩ := hrun
  have hsessions :=
    (resets_are_exclusive_and_end_sessions plainPlatform oneUser_settled rfl hcalls hfresh).2.2.2
  refine ⟨hrefused, haccepted, ?_⟩
  exact (hsessions resetRequests (resetWith 3) (drawn 4) _ "ana" rfl howner haccepted).2 []
    (drawnToken 1) noMetadata (drawn 5) [] rfl htoken

end Logistics.Auth
