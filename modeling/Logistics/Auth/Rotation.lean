import Logistics.Auth.Accounts
import Logistics.Auth.Discipline

/-!
# Refresh tokens under concurrency

Any number of requests on sessions run at once: refreshes, logouts and
revocations. A refresh rotates the token that it has read before, so what is
known of the rotation is what the lookup said: `handle_rotates` collects it for
one program under arbitrary answers. The token is exchanged once, and a family
that was revoked stays so, as long as every rotation that commits finds the
token still live.
-/

namespace Logistics.Auth

open Logistics.Library

section

variable [Collation]

abbrev AuthConfig : Type := Config authInterface Request Reply AuthStore

abbrev AuthAction : Type := Action Request AuthInput

def Request.onSessions : Request → Bool
  | .refresh .. | .logout .. | .revokeSession .. | .revokeOtherSessions .. | .changePassword ..
  | .resetPassword .. | .updateUser .. | .revokeUserSessions .. => true
  | _ => false

/-- A rotation that commits finds its token live. -/
def OnLiveToken (s : AuthStore) : authInterface.Command → AuthInput → Prop
  | .write (.rotateRefreshToken id data), input =>
      input.fault = false → requireFits 255 data.userAgent = .ok () →
        (s.refreshTokens.tryInsert (refreshTokenRow input data)).isSome = true →
          ∀ row ∈ s.refreshTokens.rows, row.id = id → row.live = true
  | _, _ => True

instance (s : AuthStore) (c : Command) (input : AuthInput) : Decidable (OnLiveToken s c input) := by
  unfold OnLiveToken
  split <;> infer_instance

/-- The tokens a committed write revokes for good: those of a family or all of a
user's, within one tenant or in all. -/
def Write.endsSession : Write → RefreshToken → Bool
  | .revokeRefreshTokenFamily familyId, row => row.familyId == familyId
  | .revokeSessions tenantId userId none, row => row.tenantId == tenantId && row.userId == userId
  | .changePassword userId tenantId _, row => row.userId == userId && row.tenantId == tenantId
  | .resetPassword userId _ _, row => row.userId == userId
  | _, _ => false

variable (P : Platform)

/-! ## One refresh and its own calls -/

/-- The request has looked up the session of its refresh token. -/
def ReadSession (r : Request) (h : List (Event authInterface)) (session : RefreshTokenRecord) :
    Prop :=
  ∃ token metadata, r = .refresh (some token) metadata ∧
    (⟨.query (.findRefreshTokenByHash (hashRefreshToken P token)), .ok (some session)⟩ :
      Event authInterface) ∈ h

/-- A rotation is of the session that the same request has looked up. -/
def Rotates (r : Request) (h : List (Event authInterface)) : Command → Prop
  | .write (.rotateRefreshToken id data) =>
      ∃ session, ReadSession P r h session ∧ id = session.token.id ∧
        SessionData session.user (some session) data
  | _ => True

/-- A refresh that succeeds has rotated the session it looked up. -/
def Exchanged (r : Request) (h : List (Event authInterface))
    (outcome : Except ServiceError Reply) : Prop :=
  ∀ refreshToken metadata, r = .refresh refreshToken metadata → outcome.isOk = true →
    ∃ session data, ReadSession P r h session ∧
      Succeeded (I := authInterface) (.write (.rotateRefreshToken session.token.id data)) h

omit [Collation] in
theorem rotates_of_within {kinds : List WriteKind} (hrotate : .rotateRefreshToken ∉ kinds)
    (r : Request) (h : List (Event authInterface)) {c : Command} (hc : c.Within kinds) :
    Rotates P r h c := by
  cases c with
  | query q => trivial
  | external e => trivial
  | write w =>
      cases w with
      | rotateRefreshToken id data => exact absurd hc hrotate
      | _ => trivial

omit [Collation] in
theorem rejectRefresh_rotates (r : Request) (metadata : AuthRequestMetadata)
    (tenantId userId : Option Id) (h : List (Event authInterface)) :
    (rejectRefresh P metadata tenantId userId).Obeys (Rotates P r)
      (fun h' outcome => ∀ session, outcome = .ok session → ReadSession P r h' session) h := by
  refine Program.Obeys.perform_bind trivial (fun _ => ?_) fun _ => ?_
  · exact fun session hsession => by cases hsession
  · exact fun session hsession => by cases hsession

omit [Collation] in
theorem getValidRefreshSession_rotates (token : String) (metadata : AuthRequestMetadata) :
    (getValidRefreshSession P (some token) metadata).Obeys
      (Rotates P (.refresh (some token) metadata))
      (fun h' outcome => ∀ session, outcome = .ok session →
        ReadSession P (.refresh (some token) metadata) h' session) [] := by
  unfold getValidRefreshSession
  cases htoken : present (some token) with
  | none => exact rejectRefresh_rotates P _ _ _ _ _
  | some token' =>
      obtain ⟨htoken, -⟩ := Option.filter_eq_some_iff.mp htoken
      obtain rfl := Option.some.inj htoken
      refine Program.Obeys.perform_bind trivial (fun found => ?_) fun _ session hsession => by
        cases hsession
      cases found with
      | none => exact rejectRefresh_rotates P _ _ _ _ _
      | some session =>
          dsimp only
          split
          · refine Program.Obeys.perform_bind trivial (fun _ => ?_) fun _ session hsession => by
              cases hsession
            exact rejectRefresh_rotates P _ _ _ _ _
          · refine Program.Obeys.perform_bind trivial (fun now => ?_) fun _ session hsession => by
              cases hsession
            split
            · exact rejectRefresh_rotates P _ _ _ _ _
            · intro session' hsession
              obtain rfl := Except.ok.inj hsession
              exact ⟨token, metadata, rfl, by simp⟩

omit [Collation] in
theorem ReadSession.append {r : Request} {h : List (Event authInterface)}
    {session : RefreshTokenRecord} (hread : ReadSession P r h session)
    (e : Event authInterface) : ReadSession P r (h ++ [e]) session := by
  obtain ⟨token, metadata, hr, hmem⟩ := hread
  exact ⟨token, metadata, hr, List.mem_append_left _ hmem⟩

omit [Collation] in
theorem refresh_rotates (token : String) (metadata : AuthRequestMetadata) :
    (handle P (.refresh (some token) metadata)).Obeys (Rotates P (.refresh (some token) metadata))
      (Exchanged P (.refresh (some token) metadata)) [] := by
  rw [handle, map_eq_pure_bind]
  have hdone : (refresh P (some token) metadata).Obeys
      (Rotates P (.refresh (some token) metadata)) (fun h' outcome => outcome.isOk = true →
        ∃ session data, ReadSession P (.refresh (some token) metadata) h' session ∧
          Succeeded (I := authInterface) (.write (.rotateRefreshToken session.token.id data)) h')
      [] := by
    refine Program.Obeys.bind (getValidRefreshSession_rotates P token metadata)
      (fun h₁ session hread => ?_) fun _ _ _ hok => by cases hok
    refine issueSession_obeys P (J := fun h => ReadSession P (.refresh (some token) metadata) h
      session) (fun h e hread => hread.append P e) ?_ ?_ ?_ ?_ (hread session rfl)
    · exact fun c hc h => rotates_of_within P (by simp) _ h hc
    · exact fun data hdata h hread => ⟨session, hread, rfl, hdata⟩
    · exact fun data h result hread hstored _ => ⟨session, data, hread, hstored⟩
    · exact fun h error hok => by cases hok
  exact Program.Obeys.bind hdone (fun _ _ hdone => fun _ _ _ _ => hdone rfl)
    fun _ _ _ _ _ _ hok => by cases hok

omit [Collation] in
theorem handle_rotates (r : Request) :
    (handle P r).Obeys (Rotates P r) (Exchanged P r) [] := by
  have hwithin : .rotateRefreshToken ∉ r.footprint →
      (∀ refreshToken metadata, r ≠ .refresh refreshToken metadata) →
      (handle P r).Obeys (Rotates P r) (Exchanged P r) [] := by
    intro hrotate hne
    refine ((handle_within P r).obeys_each (fun c hc h => rotates_of_within P hrotate r h hc)
      []).mono (fun _ _ h => h) fun h outcome _ refreshToken metadata hr => absurd hr (hne _ _)
  by_cases hr : ∃ refreshToken metadata, r = .refresh refreshToken metadata
  · obtain ⟨refreshToken, metadata, rfl⟩ := hr
    cases refreshToken with
    | some token => exact refresh_rotates P token metadata
    | none =>
        -- without a token there is nothing to look up
        have hrejected := rejectRefresh_rotates P (.refresh none metadata) metadata none none []
        rw [handle, map_eq_pure_bind]
        have hfailed : (refresh P none metadata).Obeys (Rotates P (.refresh none metadata))
            (fun _ outcome => outcome.isOk = false) [] := by
          refine Program.Obeys.bind hrejected (fun h session hread => ?_) fun _ _ _ => rfl
          obtain ⟨token, metadata', hr, -⟩ := hread session rfl
          cases hr
        exact Program.Obeys.bind hfailed (fun _ _ hok => by cases hok)
          fun _ _ _ _ _ _ hok => by cases hok
  · exact hwithin (no_rotation fun _ _ h => hr ⟨_, _, h⟩) fun _ _ h => hr ⟨_, _, h⟩

/-! ## What the lookups say about the store -/

/-- Every token belongs to a stored user of its tenant. -/
def TokensInTenant (s : AuthStore) : Prop :=
  ∀ token ∈ s.refreshTokens.rows,
    ∃ user ∈ s.users.rows, user.id = token.userId ∧ user.tenantId = some token.tenantId

instance (s : AuthStore) : Decidable (TokensInTenant s) := by
  unfold TokensInTenant
  infer_instance

/-- The session that was found under a hash is the one stored under it, perhaps
later in its life. -/
structure KnownSession (s : AuthStore) (tokenHash : String) (session : RefreshTokenRecord) :
    Prop where
  found : ∃ row, s.refreshTokens.rows.find? (fun row => row.tokenHash == tokenHash) = some row ∧
    Later session.token row
  userId : session.user.user.id = session.token.userId
  tenantId : ∀ tenant, activeTenant session.user = some tenant →
    tenant.id = session.token.tenantId

def KnownToken (s : AuthStore) : Event authInterface → Prop
  | ⟨.query (.findRefreshTokenByHash tokenHash), .ok (some session)⟩ =>
      KnownSession s tokenHash session
  | _ => True

/-- No session is new, no user changes tenant, and a rotation is of a stored
token and within its session; if it commits, the token is live. -/
def KeepsSessions (s : AuthStore) : authInterface.Command → AuthInput → Prop
  | .write (.createRefreshToken _), _ => False
  | .write (.completeRegistration ..), _ => False
  | .write (.rotateRefreshToken id data), input =>
      OnLiveToken s (.write (.rotateRefreshToken id data)) input ∧
        ∃ row ∈ s.refreshTokens.rows, row.id = id ∧ row.familyId = data.familyId ∧
          row.userId = data.userId ∧ row.tenantId = data.tenantId
  | _, _ => True

theorem activeTenant_id {s : AuthStore} {user : User} {tenant : Tenant}
    (h : activeTenant (userRecord s user) = some tenant) : user.tenantId = some tenant.id := by
  unfold activeTenant at h
  split at h
  · obtain ⟨h, -⟩ := Option.filter_eq_some_iff.mp h
    obtain ⟨tenantId, huser, hfound⟩ := Option.bind_eq_some_iff.mp h
    have hid := List.find?_some hfound
    rw [beq_iff_eq] at hid
    rw [huser, hid]
  · cases h

theorem knownToken_execute {s : AuthStore} (hs : TokensInTenant s) (c : Command)
    (input : AuthInput) : KnownToken (execute c input s).2 ⟨c, (execute c input s).1⟩ := by
  cases c with
  | query q =>
      cases q with
      | findRefreshTokenByHash tokenHash =>
          by_cases hfault : input.fault = true
          · simp [KnownToken, execute, hfault]
          · rw [Bool.not_eq_true] at hfault
            cases hanswer : (Query.findRefreshTokenByHash tokenHash).answer s input.now with
            | none => simp [KnownToken, execute, hfault, hanswer]
            | some session =>
                simp only [execute, hfault, hanswer, Bool.false_eq_true, if_false]
                obtain ⟨row, hrow, hrest⟩ := Option.bind_eq_some_iff.mp hanswer
                obtain ⟨record, hrecord, hrest⟩ := Option.bind_eq_some_iff.mp hrest
                obtain rfl := Option.some.inj hrest
                obtain ⟨user, huser, rfl⟩ := Option.map_eq_some_iff.mp hrecord
                have hid := List.find?_some huser
                rw [beq_iff_eq] at hid
                refine ⟨⟨row, hrow, later_refl row⟩, hid, fun tenant htenant => ?_⟩
                obtain ⟨user', huser', hid', htenant'⟩ := hs row (List.mem_of_find?_eq_some hrow)
                have hsame := user_eq_of_id huser' (List.mem_of_find?_eq_some huser)
                  (hid'.trans hid.symm)
                rw [hsame, activeTenant_id htenant] at htenant'
                exact Option.some.inj htenant'
      | _ => trivial
  | write w => trivial
  | external e => trivial

theorem KnownSession.execute {s : AuthStore} {tokenHash : String} {session : RefreshTokenRecord}
    (h : KnownSession s tokenHash session) (c : Command) (input : AuthInput) :
    KnownSession (execute c input s).2 tokenHash session := by
  obtain ⟨row, hrow, hlater⟩ := h.found
  obtain ⟨row', hrow', hlater'⟩ := find_execute (fun a b hab => by rw [hab.tokenHash]) hrow c input
  exact ⟨⟨row', hrow', hlater.trans hlater'⟩, h.userId, h.tenantId⟩

theorem KnownToken.execute {s : AuthStore} {e : Event authInterface} (h : KnownToken s e)
    (c : Command) (input : AuthInput) : KnownToken (execute c input s).2 e := by
  unfold KnownToken at h ⊢
  split
  · exact KnownSession.execute h c input
  · trivial

omit [Collation] in
theorem rewrite_tenantId {w : Write} (hw : w.kind ≠ .completeRegistration) (now : Time)
    (row : User) : (w.rewrite now row).tenantId = row.tenantId := by
  cases w with
  | updateUser id change => cases change <;> rfl
  | completeRegistration => exact absurd rfl hw
  | _ => rfl

theorem tokensInTenant_execute {s : AuthStore} (hs : TokensInTenant s) {c : Command}
    {input : AuthInput} (hc : KeepsSessions s c input) : TokensInTenant (execute c input s).2 := by
  have husers : ∀ userId tenantId,
      (∃ user ∈ s.users.rows, user.id = userId ∧ user.tenantId = some tenantId) →
      ∃ user ∈ (execute c input s).2.users.rows, user.id = userId ∧
        user.tenantId = some tenantId := by
    rintro userId tenantId ⟨user, huser, rfl, htenant⟩
    obtain ⟨user', huser', hid, hchange⟩ := exists_user_execute huser c input
    refine ⟨user', huser', hid, ?_⟩
    rcases hchange with rfl | ⟨w, rfl, -, -, rfl⟩
    · exact htenant
    · rw [rewrite_tenantId (fun hkind => ?_), htenant]
      cases w with
      | completeRegistration => exact hc
      | updateUser id change => cases change <;> cases hkind
      | _ => cases hkind
  intro token htoken
  -- each token is an earlier one, or the successor of one, with the same owner
  have howner : ∃ row ∈ s.refreshTokens.rows,
      row.userId = token.userId ∧ row.tenantId = token.tenantId := by
    cases execute_refreshTokens c input s with
    | same hrows => exact ⟨token, hrows ▸ htoken, rfl, rfl⟩
    | revoked w _ _ _ hrows =>
        rw [hrows] at htoken
        obtain ⟨row, hrow, rfl⟩ := List.mem_map.mp htoken
        have hlater := later_revoke w.revokes input.now row
        exact ⟨row, hrow, hlater.userId.symm, hlater.tenantId.symm⟩
    | created data hcommand =>
        subst hcommand
        exact hc.elim
    | rotated id data hcommand _ _ _ _ _ hrows =>
        subst hcommand
        rw [hrows] at htoken
        rcases List.mem_append.mp htoken with htoken | htoken
        · obtain ⟨row, hrow, rfl⟩ := List.mem_map.mp htoken
          have hlater := later_rotate id input.now row
          exact ⟨row, hrow, hlater.userId.symm, hlater.tenantId.symm⟩
        · obtain rfl := List.mem_singleton.mp htoken
          obtain ⟨-, row, hrow, -, -, huserId, htenantId⟩ := hc
          exact ⟨row, hrow, huserId, htenantId⟩
  obtain ⟨row, hrow, huserId, htenantId⟩ := howner
  obtain ⟨user, huser, hid, htenant⟩ := hs row hrow
  refine husers _ _ ⟨user, huser, hid.trans huserId, ?_⟩
  rw [htenant, htenantId]

/-! ## Sessions that have ended -/

section Ended

variable {s : AuthStore} {c : Command} {input : AuthInput}

/-- Tokens with a common owner or family, once all revoked, stay so. -/
theorem ended_execute {κ : Type} {session : RefreshToken → κ}
    (hsession : ∀ a b : RefreshToken, a.familyId = b.familyId → a.userId = b.userId →
      a.tenantId = b.tenantId → session a = session b) {k : κ}
    (h : Ended session RefreshToken.live k s.refreshTokens.rows) (hc : KeepsSessions s c input) :
    Ended session RefreshToken.live k (execute c input s).2.refreshTokens.rows := by
  have hrewrites : ∀ g : RefreshToken → RefreshToken, (∀ a, Later a (g a)) →
      Rewrites session RefreshToken.live g := fun g hg =>
    ⟨fun a => hsession _ _ (hg a).familyId (hg a).userId (hg a).tenantId, fun a => (hg a).live_of⟩
  cases execute_refreshTokens c input s with
  | same hrows =>
      rw [hrows]
      exact h
  | revoked w _ _ _ hrows =>
      rw [hrows]
      exact h.map (hrewrites _ (later_revoke w.revokes input.now))
  | created data hcommand =>
      subst hcommand
      exact hc.elim
  | rotated id data hcommand hfault hfits hfree _ _ hrows =>
      subst hcommand
      obtain ⟨hlive, row, hrow, hid, hfamily, huserId, htenantId⟩ := hc
      rw [hrows]
      refine (h.map (hrewrites _ (later_rotate id input.now))).append_singleton fun hnew => ?_
      -- the rotated token is live, and of the session of its successor
      have hdead := h row hrow ((hsession _ _ hfamily huserId htenantId).trans hnew)
      rw [hlive hfault hfits (Option.isSome_iff_exists.mpr hfree) row hrow hid] at hdead
      cases hdead

theorem oneLive_of_keepsSessions (h : OneLiveToken s) (hc : KeepsSessions s c input) :
    OneLiveToken (execute c input s).2 := by
  cases execute_refreshTokens c input s with
  | same hrows =>
      unfold OneLiveToken
      rw [hrows]
      exact h
  | revoked w hw _ hkind =>
      subst hw
      refine oneLive_execute h ?_ input
      cases w with
      | createRefreshToken => exact absurd rfl hkind.1
      | rotateRefreshToken => exact absurd rfl hkind.2
      | _ => trivial
  | created data hcommand =>
      subst hcommand
      exact hc.elim
  | rotated id data hcommand hfault hfits hfree =>
      subst hcommand
      obtain ⟨hlive, row, hrow, hid, hfamily, -, -⟩ := hc
      have hkeeps : KeepsFamilies s (.write (.rotateRefreshToken id data)) := by
        intro row' hrow' hid'
        refine ⟨hlive hfault hfits (Option.isSome_iff_exists.mpr hfree) row' hrow' hid', ?_⟩
        rw [refreshToken_eq_of_id hrow' hrow (hid'.trans hid.symm)]
        exact hfamily
      exact oneLive_execute h hkeeps input

/-- A revocation that commits leaves no token of its sessions live. -/
theorem ended_of_revocation {w : Write} (hok : (execute (.write w) input s).1.isOk = true) :
    Ended w.endsSession RefreshToken.live true
      (execute (.write w) input s).2.refreshTokens.rows := by
  have hcover : ∀ row : RefreshToken, w.endsSession row = true → row.live = true →
      w.revokes row = true := by
    intro row hends hlive
    cases w with
    | revokeSessions tenantId userId exceptHash =>
        cases exceptHash with
        | none => simp_all [Write.endsSession, Write.revokes, RefreshToken.live]
        | some hash => simp [Write.endsSession] at hends
    | _ => simp_all [Write.endsSession, Write.revokes, RefreshToken.live]
  intro row' hrow' hends
  cases execute_refreshTokens (.write w) input s with
  | same _ hfails =>
      obtain ⟨error, herror⟩ := hfails w rfl
      rw [herror] at hok
      cases hok
  | revoked w' hw _ _ hrows =>
      obtain rfl := Command.write.inj hw
      rw [hrows] at hrow'
      obtain ⟨row, -, rfl⟩ := List.mem_map.mp hrow'
      split at hends
      · next hrevokes =>
          rw [if_pos hrevokes]
          rfl
      · next hkeeps =>
          rw [if_neg hkeeps]
          by_contra hlive
          rw [Bool.not_eq_false] at hlive
          exact hkeeps (hcover row hends hlive)
  | created data hcommand =>
      obtain rfl := Command.write.inj hcommand
      cases hends
  | rotated id data hcommand =>
      obtain rfl := Command.write.inj hcommand
      cases hends

end Ended

/-! ## Runs -/

/-- The action starts no other requests than those on sessions. -/
def StartsOnSessions : AuthAction → Prop
  | .start r => r.onSessions = true
  | .step .. => True

instance (a : AuthAction) : Decidable (StartsOnSessions a) := by
  unfold StartsOnSessions
  split <;> infer_instance

/-- What holds in every configuration of such a run. -/
structure OnSessionsRun (c : AuthConfig) : Prop where
  onSessions : ∀ t ∈ c.threads, t.request.onSessions = true
  obeying : c.Obeying (fun r h cmd => Rotates P r h cmd ∧ cmd.Within r.footprint)
    (fun r h outcome => Exchanged P r h outcome ∧ True)
  knowing : c.Knowing KnownToken
  inTenant : TokensInTenant c.store

omit [Collation] in
theorem handle_obeys (r : Request) :
    (handle P r).Obeys (fun h cmd => Rotates P r h cmd ∧ cmd.Within r.footprint)
      (fun h outcome => Exchanged P r h outcome ∧ True) [] :=
  (handle_rotates P r).and ((handle_within P r).obeys_each (fun _ hc _ => hc) [])

omit [Collation] in
theorem not_in_footprint {r : Request} (h : r.onSessions = true) :
    .createRefreshToken ∉ r.footprint ∧ .completeRegistration ∉ r.footprint := by
  cases r <;> simp [Request.onSessions, Request.footprint] at h ⊢

theorem OnSessionsRun.keepsSessions {c : AuthConfig} (hc : OnSessionsRun P c) {a : AuthAction}
    (hlive : CallCondition OnLiveToken c a) : CallCondition KeepsSessions c a := by
  unfold CallCondition at hlive ⊢
  obtain ⟨r, rfl, -⟩ | ⟨i, input, r, h, cmd, k, rfl, hi, hcall, -⟩ | ⟨-, hcall⟩ :=
    (authSystem P).next_cases c a
  · trivial
  · rw [hcall] at hlive ⊢
    obtain ⟨hrotates, hwithin⟩ := Config.obeying_call hc.obeying hi
    have hthread := List.mem_of_getElem? hi
    obtain ⟨hcreate, hcomplete⟩ := not_in_footprint (hc.onSessions _ hthread)
    cases cmd with
    | query q => trivial
    | external e => trivial
    | write w =>
        cases w with
        | createRefreshToken data => exact hcreate hwithin
        | completeRegistration stateId userId tenantId => exact hcomplete hwithin
        | rotateRefreshToken id data =>
            obtain ⟨session, ⟨token, metadata, -, hread⟩, rfl, hdata⟩ := hrotates
            have hknown : KnownSession c.store (hashRefreshToken P token) session :=
              hc.knowing _ hthread _ hread
            obtain ⟨row, hrow, hlater⟩ := hknown.found
            obtain ⟨tenant, htenant, htenantId⟩ := hdata.tenantId
            refine ⟨hlive, row, List.mem_of_find?_eq_some hrow, hlater.id, ?_, ?_, ?_⟩
            · rw [hlater.familyId, hdata.familyId session rfl]
            · rw [hlater.userId, hdata.userId, hknown.userId]
            · rw [hlater.tenantId, htenantId, hknown.tenantId tenant htenant]
        | _ => trivial
  · rw [hcall]
    trivial

theorem OnSessionsRun.next {c : AuthConfig} (hc : OnSessionsRun P c) {a : AuthAction}
    (hstart : StartsOnSessions a) (hlive : CallCondition OnLiveToken c a) :
    OnSessionsRun P ((authSystem P).next c a) where
  obeying := (authSystem P).obeying_next (handle_obeys P) c a hc.obeying
  knowing := (authSystem P).knowing_next (P := fun s _ _ => TokensInTenant s)
    (fun cmd i s hs => knownToken_execute hs cmd i) (fun cmd i s e _ h => h.execute cmd i) c a
    hc.knowing (by
      unfold CallCondition
      split
      · exact hc.inTenant
      · trivial)
  onSessions := by
    intro t ht
    obtain ⟨r, rfl, hn⟩ | ⟨i, input, r, h, cmd, k, rfl, hi, -, hn⟩ | ⟨hn, -⟩ :=
      (authSystem P).next_cases c a
    · rw [hn] at ht
      rcases List.mem_append.mp ht with ht | ht
      · exact hc.onSessions t ht
      · obtain rfl := List.mem_singleton.mp ht
        exact hstart
    · rw [hn] at ht
      rcases List.mem_or_eq_of_mem_set ht with ht | rfl
      · exact hc.onSessions t ht
      · exact hc.onSessions ⟨r, h, .call cmd k⟩ (List.mem_of_getElem? hi)
    · exact hc.onSessions t (hn ▸ ht)
  inTenant := (authSystem P).store_next (J := TokensInTenant)
    (fun _ _ _ hs hkeeps => tokensInTenant_execute hs hkeeps) c a hc.inTenant
    (hc.keepsSessions P hlive)

def isRotation (id : Id) (e : Event authInterface) : Bool :=
  match e with
  | ⟨.write (.rotateRefreshToken currentTokenId _), x⟩ => currentTokenId == id && x.isOk
  | _ => false

omit [Collation] in
theorem isRotation_of_succeeded {id : Id} {data : RefreshTokenData}
    {h : List (Event authInterface)}
    (hdone : Succeeded (I := authInterface) (.write (.rotateRefreshToken id data)) h) :
    ∃ e ∈ h, isRotation id e = true := by
  obtain ⟨⟨c, x⟩, hmem, rfl, hok⟩ := hdone
  exact ⟨_, hmem, by simpa [isRotation] using hok⟩

/-- A token is exchanged at most once. -/
theorem rotations_le_one (id : Id) (s : AuthStore) (acts : List AuthAction)
    (hlive : (authSystem P).AlongActions (CallCondition OnLiveToken) (Config.initial s) acts) :
    ((authSystem P).runActions (Config.initial s) acts).eventCount (isRotation id) ≤ 1 := by
  refine (authSystem P).eventCount_run_le_one (RevokedToken id)
    (fun c a cmd i _ _ _ hdead => revokedToken_execute hdead cmd i) ?_ acts s hlive
  intro c a cmd i ha hcall hrotation
  rw [CallCondition, hcall] at ha
  have hcommand : ∃ data, cmd = .write (.rotateRefreshToken id data) ∧
      (execute cmd i c.store).1.isOk = true := by
    unfold isRotation at hrotation
    split at hrotation
    · next id' data x heq =>
        obtain ⟨rfl, hx⟩ := Sigma.mk.inj heq
        rw [Bool.and_eq_true, beq_iff_eq] at hrotation
        obtain ⟨rfl, hok⟩ := hrotation
        exact ⟨data, rfl, by rw [← eq_of_heq hx] at hok; exact hok⟩
    · cases hrotation
  obtain ⟨data, rfl, hok⟩ := hcommand
  cases execute_refreshTokens (.write (.rotateRefreshToken id data)) i c.store with
  | same _ hfails =>
      obtain ⟨error, herror⟩ := hfails _ rfl
      rw [herror] at hok
      cases hok
  | revoked w hw _ hkind =>
      obtain rfl := Command.write.inj hw
      exact absurd rfl hkind.2
  | created data' hw => cases hw
  | rotated id' data' hw hfault hfits hfree hrow _ hrows =>
      obtain ⟨rfl, rfl⟩ := Write.rotateRefreshToken.inj (Command.write.inj hw)
      obtain ⟨row, hrow, rfl⟩ := hrow
      have hrowLive := ha hfault hfits (Option.isSome_iff_exists.mpr hfree) row hrow rfl
      refine ⟨fun hdead => ?_, ?_⟩
      · rw [hdead.live_eq_false hrow] at hrowLive
        cases hrowLive
      · refine ⟨_, hrows ▸ List.mem_append_left _ (List.mem_map_of_mem hrow), ?_, ?_⟩
        · rw [if_pos (beq_self_eq_true row.id)]
          rfl
        · rw [if_pos (beq_self_eq_true row.id)]
          rfl

/-- Whatever the interleaving of refreshes and revocations, when every rotation
that commits finds its token live: a token is rotated at most once, and no two
calls that exchange one refresh token succeed; no family has two live tokens; and
after a revocation of a family, or of all the sessions of a user, none of their
tokens is live again. -/
theorem refresh_tokens_are_single_use (s : AuthStore) (hone : OneLiveToken s)
    (htenants : TokensInTenant s) (acts : List AuthAction)
    (hrequests : ∀ a ∈ acts, StartsOnSessions a)
    (hlive : (authSystem P).AlongActions (CallCondition OnLiveToken) (Config.initial s) acts) :
    (∀ id, ((authSystem P).runActions (Config.initial s) acts).eventCount (isRotation id) ≤ 1) ∧
    (∀ (i j : ℕ) (t u : Thread authInterface Request Reply) (token : String)
        (metadata metadata' : AuthRequestMetadata) (reply reply' : Reply),
      ((authSystem P).runActions (Config.initial s) acts).threads[i]? = some t →
      ((authSystem P).runActions (Config.initial s) acts).threads[j]? = some u →
      t.request = .refresh (some token) metadata → u.request = .refresh (some token) metadata' →
      t.program = .pure reply → u.program = .pure reply' → i = j) ∧
    OneLiveToken ((authSystem P).runActions (Config.initial s) acts).store ∧
    ∀ (pre post : List AuthAction) (a : AuthAction) (w : Write) (input : AuthInput),
      acts = pre ++ a :: post →
      ((authSystem P).runActions (Config.initial s) pre).nextCall a = some (.write w, input) →
      (execute (.write w) input
        ((authSystem P).runActions (Config.initial s) pre).store).1.isOk = true →
      ∀ row ∈ ((authSystem P).runActions (Config.initial s) acts).store.refreshTokens.rows,
        w.endsSession row = true → row.live = false := by
  have hcond := (authSystem P).alongActions_and acts (Config.initial s)
    ((authSystem P).alongActions_of_mem acts _ hrequests) hlive
  have hinitial : OnSessionsRun P (Config.initial s) :=
    ⟨by simp [Config.initial], Config.obeying_initial _ _ s, Config.knowing_initial _ s, htenants⟩
  have hnext : ∀ c a, OnSessionsRun P c → StartsOnSessions a ∧ CallCondition OnLiveToken c a →
      OnSessionsRun P ((authSystem P).next c a) := fun c a hc h => hc.next P h.1 h.2
  have hkeeps : (authSystem P).AlongActions (CallCondition KeepsSessions) (Config.initial s) acts :=
    (authSystem P).along_of_invariant hnext (fun c a hc h => hc.keepsSessions P h.2) acts _
      hinitial hcond
  have hfinal := (authSystem P).run_invariant hnext acts _ hinitial hcond
  refine ⟨fun id => rotations_le_one P id s acts hlive, ?_, ?_, ?_⟩
  · intro i j t u token metadata metadata' reply reply' ht hu htr hur htp hup
    -- both calls have exchanged the token that is stored under the hash
    have hexchanged : ∀ (t : Thread authInterface Request Reply) (metadata : AuthRequestMetadata)
        (reply : Reply),
        t ∈ ((authSystem P).runActions (Config.initial s) acts).threads →
        t.request = .refresh (some token) metadata → t.program = .pure reply →
        ∃ row, ((authSystem P).runActions (Config.initial s) acts).store.refreshTokens.rows.find?
            (fun row => row.tokenHash == hashRefreshToken P token) = some row ∧
          ∃ e ∈ t.history, isRotation row.id e = true := by
      intro t metadata reply ht htr htp
      have hobeys := hfinal.obeying t ht
      rw [htp] at hobeys
      obtain ⟨session, data, ⟨token', metadata', hr, hread⟩, hdone⟩ :=
        hobeys.1 _ _ htr rfl
      rw [htr] at hr
      obtain ⟨htoken, -⟩ := Request.refresh.inj hr
      obtain rfl := Option.some.inj htoken
      have hknown : KnownSession _ (hashRefreshToken P token) session :=
        hfinal.knowing t ht _ hread
      obtain ⟨row, hrow, hlater⟩ := hknown.found
      refine ⟨row, hrow, ?_⟩
      rw [hlater.id]
      exact isRotation_of_succeeded hdone
    obtain ⟨row, hrow, het⟩ := hexchanged t metadata reply (List.mem_of_getElem? ht) htr htp
    obtain ⟨row', hrow', heu⟩ := hexchanged u metadata' reply' (List.mem_of_getElem? hu) hur hup
    obtain rfl := Option.some.inj (hrow.symm.trans hrow')
    exact Config.eq_of_eventCount_le_one (rotations_le_one P row.id s acts hlive) ht hu het heu
  · exact (authSystem P).store_run (J := OneLiveToken)
      (fun s cmd i hs hc => oneLive_of_keepsSessions hs hc) acts _ hone hkeeps
  · intro pre post a w input hacts hcall hok
    subst hacts
    rw [(authSystem P).alongActions_append] at hkeeps
    rw [(authSystem P).runActions_append]
    obtain ⟨r, rfl, -⟩ | ⟨i, input', r, h, cmd, k, rfl, -, hcall', hn⟩ | ⟨-, hcall'⟩ :=
      (authSystem P).next_cases ((authSystem P).runActions (Config.initial s) pre) a
    · cases hcall
    · rw [hcall'] at hcall
      obtain ⟨rfl, rfl⟩ := Prod.mk.inj (Option.some.inj hcall)
      refine (authSystem P).store_run (J := fun s => Ended w.endsSession RefreshToken.live true
        s.refreshTokens.rows) (fun s cmd i hs hc => ended_execute ?_ hs hc) post _ ?_ hkeeps.2.2
      · intro a b hfamily huserId htenantId
        cases w with
        | revokeSessions tenantId userId exceptHash =>
            cases exceptHash <;> simp [Write.endsSession, huserId, htenantId]
        | _ => simp [Write.endsSession, hfamily, huserId, htenantId]
      · rw [hn]
        exact ended_of_revocation hok
    · rw [hcall'] at hcall
      cases hcall

end

/-! ## One token in two calls -/

attribute [local instance] foldCase

/-- The user has logged in: one session, its token live. -/
def loggedIn : AuthStore :=
  (authSystem plainPlatform).runCalls (exchangedCalls.take 1) oneUser

def eightSteps (thread request : ℕ) : List AuthAction :=
  (List.range 8).map fun n => .step thread (drawn request n)

/-- A refresh, and then a revocation of all the sessions of its user. -/
def revokedRun : List AuthAction :=
  .start (.refresh (some (drawnToken 1)) noMetadata) :: eightSteps 0 2 ++
    [.start (.revokeOtherSessions "ana" "tenant" none), .step 1 (drawn 3 0)]

/-- The successor is live after the refresh, and not after the revocation. -/
theorem revokedRun_ended :
    (∃ row ∈ ((authSystem plainPlatform).runActions (Config.initial loggedIn)
      (revokedRun.take 9)).store.refreshTokens.rows, row.live = true) ∧
    ∀ row ∈ ((authSystem plainPlatform).runActions (Config.initial loggedIn)
      revokedRun).store.refreshTokens.rows,
      (Write.revokeSessions "tenant" "ana" none).endsSession row = true → row.live = false :=
  ⟨by decide +kernel, (refresh_tokens_are_single_use plainPlatform loggedIn (by decide +kernel)
    (by decide +kernel) revokedRun (by decide +kernel) (by decide +kernel)).2.2.2
    (revokedRun.take 10) [] _ (Write.revokeSessions "tenant" "ana" none) (drawn 3 0) rfl rfl
    (by decide +kernel)⟩

/-- Two calls read the same token before either rotates it. -/
def racingRun : List AuthAction :=
  [.start (.refresh (some (drawnToken 1)) noMetadata),
    .start (.refresh (some (drawnToken 1)) noMetadata),
    .step 0 (drawn 2 0), .step 1 (drawn 3 0)] ++ eightSteps 0 4 ++ eightSteps 1 5

def hasReturned (c : AuthConfig) (thread : ℕ) : Bool :=
  match c.threads[thread]? with
  | some ⟨_, _, .pure _⟩ => true
  | _ => false

/-- Both exchange it: the family has two live tokens. -/
theorem racingRun_exchanges_twice :
    (∀ a ∈ racingRun, StartsOnSessions a) ∧ OneLiveToken loggedIn ∧ TokensInTenant loggedIn ∧
      hasReturned ((authSystem plainPlatform).runActions (Config.initial loggedIn) racingRun) 0 =
        true ∧
      hasReturned ((authSystem plainPlatform).runActions (Config.initial loggedIn) racingRun) 1 =
        true ∧
      ¬OneLiveToken
        ((authSystem plainPlatform).runActions (Config.initial loggedIn) racingRun).store := by
  decide +kernel

end Logistics.Auth
