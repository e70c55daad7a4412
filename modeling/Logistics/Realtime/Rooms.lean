import Logistics.Auth.Discipline
import Logistics.Realtime.Gateway

/-!
# Who joins the room of a tenant

A socket that holds the role `OPERATOR` of its tenant never joins the room of the tenant,
whatever is requested afterwards. The role it holds is the one of its access token, so an
operator stays out exactly when the token was issued with that role or the connection is
refused for another reason.
-/

namespace Logistics.Realtime

open Logistics.Library Logistics.Auth

section

variable [Collation]

/-! ## Sockets that stay out -/

/-- Out of the room of the tenant, with nothing but the rights of an operator in it. -/
def Confined (tenantId : Id) (state : SocketState) : Prop :=
  tenantRoom tenantId ∉ state.rooms ∧
    ∀ data, state.auth = some data → data.role = .operator ∧ data.tenantId = tenantId

def StaysOut (socket : ℕ) (tenantId : Id) (s : RealtimeStore) : Prop :=
  ∃ state, s.sockets[socket]? = some state ∧ Confined tenantId state

/-- The calls that give a socket neither other rights nor the room. -/
def Confines (socket : ℕ) (tenantId : Id) : realtimeInterface.Command → Prop
  | .inr (.setAuth other data) =>
      other = socket → data.role = .operator ∧ data.tenantId = tenantId
  | .inr (.join other room) => other = socket → room ≠ tenantRoom tenantId
  | _ => True

omit [Collation] in
theorem confined_new (tenantId : Id) : Confined tenantId ⟨none, []⟩ := by
  constructor
  · simp
  · simp

omit [Collation] in
theorem userRoom_ne_tenantRoom (tenantId userId : Id) :
    userRoom tenantId userId ≠ tenantRoom tenantId := by
  intro h
  have hlength := congrArg String.length h
  have huser : ":user:".length = 6 := rfl
  simp only [userRoom, tenantRoom, String.length_append] at hlength
  omega

omit [Collation] in
theorem roomFor_of_operator {data : AuthenticatedSocketData} (h : data.role = .operator) :
    roomFor data ≠ tenantRoom data.tenantId := by
  rw [roomFor, if_pos h]
  exact userRoom_ne_tenantRoom _ _

theorem StaysOut.modify {socket other : ℕ} {tenantId : Id} {s : RealtimeStore}
    {f : SocketState → SocketState} (h : StaysOut socket tenantId s)
    (hf : other = socket → ∀ state, Confined tenantId state → Confined tenantId (f state)) :
    StaysOut socket tenantId (s.modifySocket other f) := by
  rcases h with ⟨state, hstate, hconfined⟩
  by_cases hother : other = socket
  · refine ⟨f state, ?_, hf hother state hconfined⟩
    simp [RealtimeStore.modifySocket, hother, hstate]
  · refine ⟨state, ?_, hconfined⟩
    simp [RealtimeStore.modifySocket, hother, hstate]

theorem StaysOut.execute {socket : ℕ} {tenantId : Id} {s : RealtimeStore}
    (h : StaysOut socket tenantId s) {c : realtimeInterface.Command}
    (hc : Confines socket tenantId c) (input : AuthInput) :
    StaysOut socket tenantId (executeRealtime c input s).2 := by
  cases c with
  | inl c => exact h
  | inr c =>
      cases c with
      | accept =>
          rcases h with ⟨state, hstate, hconfined⟩
          refine ⟨state, ?_, hconfined⟩
          have hlt := (List.getElem?_eq_some_iff.mp hstate).1
          exact (List.getElem?_append_left hlt).trans hstate
      | getAuth other => exact h
      | setAuth other data =>
          apply h.modify
          rintro hother state ⟨hrooms, -⟩
          refine ⟨hrooms, fun data' hdata => ?_⟩
          rw [← Option.some.inj hdata]
          exact hc hother
      | join other room =>
          apply h.modify
          rintro hother state ⟨hrooms, hauth⟩
          refine ⟨?_, hauth⟩
          simp only [List.mem_append, List.mem_singleton, not_or]
          exact ⟨hrooms, (hc hother).symm⟩
      | disconnect other => exact h.modify fun _ _ _ => confined_new tenantId

theorem StaysOut.wp {α : Type} {p : Program realtimeInterface α} {socket : ℕ} {tenantId : Id}
    {s : RealtimeStore} (h : StaysOut socket tenantId s)
    (hp : p.Issues (Confines socket tenantId)) :
    p.wp executeRealtime (fun _ _ _ => True) (fun _ _ _ => True)
      (fun _ s' => StaysOut socket tenantId s') s :=
  Program.wp_of_issues hp (fun _ hc input _ h _ => ⟨trivial, h.execute hc input⟩) s h

/-! ## Every request keeps a socket out -/

variable (P : Platform) (R : Runtime)

omit [Collation] in
theorem handleConnection_confines {socket other : ℕ} (tenantId : Id) (hother : other ≠ socket)
    (handshake : Handshake) :
    (handleConnection P R other handshake).Issues (Confines socket tenantId) := by
  have hdisconnect : (gateway (.disconnect other)).Issues (Confines socket tenantId) :=
    Program.Issues.perform trivial
  refine (Program.Issues.ofExcept _).bind fun token => ?_
  split
  · exact hdisconnect
  · refine Program.Issues.tryCatch ?_ fun _ => hdisconnect
    refine (Program.Issues.perform trivial).bind fun now => ?_
    refine (Program.Issues.ofExcept _).bind fun payload => ?_
    refine (Program.Issues.perform trivial).bind fun found => ?_
    split
    · exact hdisconnect
    · exact Program.Issues.perform fun hsame => absurd hsame hother

theorem joinTenantRoom_keeps {socket : ℕ} {tenantId : Id} {s : RealtimeStore}
    (h : StaysOut socket tenantId s) (other : ℕ) (requested : Option Id) :
    (joinTenantRoom other requested).wp executeRealtime (fun _ _ _ => True) (fun _ _ _ => True)
      (fun _ s' => StaysOut socket tenantId s') s := by
  apply Program.wp_perform_bind
  refine fun input _ => ⟨trivial, fun found hfound => ?_, fun e he => by cases he⟩
  have hanswer : s.sockets[other]?.bind SocketState.auth = found := Except.ok.inj hfound
  refine StaysOut.wp (s := s) h ?_
  cases found with
  | none => trivial
  | some data =>
      dsimp only
      split
      · trivial
      · refine Program.Issues.bind (Program.Issues.perform ?_) fun _ => trivial
        rintro rfl
        rcases h with ⟨state, hstate, -, hauth⟩
        rw [hstate] at hanswer
        obtain ⟨hrole, rfl⟩ := hauth data hanswer
        exact roomFor_of_operator hrole

theorem handleRealtime_keeps {socket : ℕ} {tenantId : Id} (r : RealtimeRequest)
    (s : RealtimeStore) (h : StaysOut socket tenantId s) :
    (handleRealtime P R r).wp executeRealtime (fun _ _ _ => True) (fun _ _ _ => True)
      (fun _ s' => StaysOut socket tenantId s') s := by
  cases r with
  | auth r =>
      apply Program.wp_map
      refine h.wp ((Program.issues_lift (Program.issues_true _)).mono ?_)
      rintro _ ⟨c, rfl, -⟩
      trivial
  | connect handshake =>
      apply Program.wp_perform_bind
      refine fun input _ => ⟨trivial, fun other hother => ?_, fun e he => by cases he⟩
      have hnew : s.sockets.length = other := Except.ok.inj hother
      have hne : other ≠ socket := by
        rcases h with ⟨state, hstate, -⟩
        rw [← hnew]
        exact Nat.ne_of_gt (List.getElem?_eq_some_iff.mp hstate).1
      refine StaysOut.wp (h.execute (c := .inr .accept) trivial input) ?_
      exact (handleConnection_confines P R tenantId hne handshake).bind fun _ => trivial
  | join other requested =>
      apply Program.wp_map
      exact joinTenantRoom_keeps h other requested
  | disconnect other =>
      exact h.wp ((Program.Issues.perform trivial).bind fun _ => trivial)

/-- A socket that is out stays out, whatever is requested. -/
theorem staysOut_runCalls {socket : ℕ} {tenantId : Id} {s : RealtimeStore}
    (h : StaysOut socket tenantId s) (calls : List (RealtimeRequest × (ℕ → AuthInput))) :
    StaysOut socket tenantId ((realtimeSystem P R).runCalls calls s) :=
  (realtimeSystem P R).runCalls_invariant (handleRealtime_keeps P R) calls s h
    ((realtimeSystem P R).alongCalls_true calls s)

/-! ## The connection of an operator -/

/-- The socket presents a token of a user whose stored role is `OPERATOR`. -/
def ConnectsAsOperator (s : RealtimeStore) (handshake : Handshake) (payload : AccessPayload) :
    Prop :=
  (∃ token, readSocketToken R handshake = .ok (some token) ∧
    readAccessToken P R token = .ok payload) ∧
  ∃ user ∈ s.auth.users.rows, user.id = payload.sub ∧ user.tenantId = some payload.tenantId ∧
    user.role = .operator

/-- The token has not expired when the clock is read, and the lookup finds the user active
in an active tenant. -/
def Admissible (s : RealtimeStore) (payload : AccessPayload) (clock lookup : AuthInput) : Prop :=
  clock.now / 1000 < payload.exp ∧ lookup.fault = false ∧
    ∃ user ∈ s.auth.users.rows, (activeUser payload.sub payload.tenantId).selects s.auth user = true

/-- What the token gives a socket. -/
def socketData (payload : AccessPayload) : AuthenticatedSocketData :=
  ⟨payload.role, payload.tenantId, payload.sub⟩

def RealtimeStore.addSocket (s : RealtimeStore) (auth : Option AuthenticatedSocketData) :
    RealtimeStore :=
  { s with sockets := s.sockets ++ [⟨auth, []⟩] }

variable {P R}

omit [Collation] in
theorem readAccessToken_empty (payload : AccessPayload) :
    readAccessToken P R "" ≠ .ok payload := by
  intro h
  cases h

omit [Collation] in
theorem handleConnection_eq {handshake : Handshake} {token : String} {payload : AccessPayload}
    (htoken : readSocketToken R handshake = .ok (some token))
    (hpayload : readAccessToken P R token = .ok payload) (socket : ℕ) :
    handleConnection P R socket handshake =
      (authenticate P R socket token).tryCatch fun _ => gateway (.disconnect socket) := by
  have hpresent : present (some token) = some token := by
    rw [present, Option.filter_some, if_pos]
    rw [bne_iff_ne]
    rintro rfl
    exact readAccessToken_empty payload hpayload
  rw [handleConnection, htoken, Program.ofExcept, Program.pure_bind, hpresent]

omit [Collation] in
theorem verifyAccessToken_eq {token : String} {payload : AccessPayload}
    (hpayload : readAccessToken P R token = .ok payload) (now : Time) :
    verifyAccessToken P R token now =
      if payload.exp ≤ now / 1000 then .error (.unauthorized "Authentication token expired.")
      else .ok payload := by
  rw [verifyAccessToken, hpayload]
  rfl

theorem runCalls_connect {handshake : Handshake} {token : String} {payload : AccessPayload}
    (htoken : readSocketToken R handshake = .ok (some token))
    (hpayload : readAccessToken P R token = .ok payload) (s : RealtimeStore)
    (ω : ℕ → AuthInput) :
    (realtimeSystem P R).runCalls [(.connect handshake, ω)] s =
      (((authenticate P R s.sockets.length token).tryCatch fun _ =>
        gateway (.disconnect s.sockets.length)).run executeRealtime (fun n => ω (n + 1))
          (s.addSocket none)).2 := by
  have haccept : executeRealtime (.inr .accept) (ω 0) s =
      (.ok s.sockets.length, s.addSocket none) := rfl
  refine (congrArg Prod.snd (Program.run_perform_bind_ok haccept)).trans ?_
  rw [handleConnection_eq htoken hpayload]
  exact congrArg Prod.snd
    (Program.run_map (fun _ => RealtimeReply.connected s.sockets.length) _ _ _)

theorem addSocket_modify (s : RealtimeStore) (f : SocketState → SocketState) :
    (s.addSocket none).modifySocket s.sockets.length f =
      { s with sockets := s.sockets ++ [f ⟨none, []⟩] } := by
  simp [RealtimeStore.modifySocket, RealtimeStore.addSocket, List.modify_eq_take_drop]

section Admission

variable {token : String} {payload : AccessPayload} {s : RealtimeStore} {ω : ℕ → AuthInput}

/-- The guarded part of the connection, on the new socket. -/
theorem authenticate_eq (hpayload : readAccessToken P R token = .ok payload) :
    (authenticate P R s.sockets.length token).run executeRealtime ω (s.addSocket none) =
      (if payload.exp ≤ (ω 0).now / 1000 then
        (.error (.unauthorized "Authentication token expired."), s.addSocket none)
      else if (ω 1).fault then (.error .fault, s.addSocket none)
      else (.ok (), s.addSocket
        ((s.auth.users.rows.find? ((activeUser payload.sub payload.tenantId).selects s.auth)).map
          fun _ => socketData payload))) := by
  have hnow : executeRealtime (.inl (.external .now)) (ω 0) (s.addSocket none) =
      (.ok (ω 0).now, s.addSocket none) := rfl
  refine (Program.run_perform_bind_ok hnow).trans ?_
  rw [verifyAccessToken_eq hpayload]
  by_cases hexpired : payload.exp ≤ (ω 0).now / 1000
  · rw [if_pos hexpired, if_pos hexpired]
    rfl
  · rw [if_neg hexpired, if_neg hexpired, Program.ofExcept, Program.pure_bind]
    cases hfault : (ω 1).fault with
    | true =>
        have hquery : executeRealtime
            (.inl (.query (.findUser (activeUser payload.sub payload.tenantId)))) (ω 1)
            (s.addSocket none) = (.error .fault, s.addSocket none) := by
          simp [executeRealtime, Auth.execute, hfault]
        exact Program.run_perform_bind_error hquery
    | false =>
        have hquery : executeRealtime
            (.inl (.query (.findUser (activeUser payload.sub payload.tenantId)))) (ω 1)
            (s.addSocket none) = (.ok ((s.auth.users.rows.find?
              ((activeUser payload.sub payload.tenantId).selects s.auth)).map
                (userRecord s.auth)), s.addSocket none) := by
          simp [executeRealtime, Auth.execute, hfault, Query.answer, RealtimeStore.addSocket]
        refine (Program.run_perform_bind_ok hquery).trans ?_
        cases s.auth.users.rows.find?
          ((activeUser payload.sub payload.tenantId).selects s.auth) with
        | none => exact congrArg (Prod.mk _) (addSocket_modify s _)
        | some found => exact congrArg (Prod.mk _) (addSocket_modify s _)

theorem connect_admitted {handshake : Handshake}
    (htoken : readSocketToken R handshake = .ok (some token))
    (hpayload : readAccessToken P R token = .ok payload)
    (h : Admissible s payload (ω 1) (ω 2)) :
    (realtimeSystem P R).runCalls [(.connect handshake, ω)] s =
      s.addSocket (some (socketData payload)) := by
  rcases h with ⟨hfresh, hfault, user, huser, hselects⟩
  have hsome := List.find?_isSome.mpr ⟨user, huser, hselects⟩
  obtain ⟨found, hfound⟩ := Option.isSome_iff_exists.mp hsome
  have hrun := authenticate_eq (s := s) (ω := fun n => ω (n + 1)) hpayload
  rw [if_neg hfresh.not_ge, hfault, hfound] at hrun
  rw [runCalls_connect htoken hpayload, Program.run_tryCatch_ok hrun]
  rfl

theorem connect_refused {handshake : Handshake}
    (htoken : readSocketToken R handshake = .ok (some token))
    (hpayload : readAccessToken P R token = .ok payload)
    (h : ¬Admissible s payload (ω 1) (ω 2)) :
    (realtimeSystem P R).runCalls [(.connect handshake, ω)] s = s.addSocket none := by
  have hrun := authenticate_eq (s := s) (ω := fun n => ω (n + 1)) hpayload
  rw [runCalls_connect htoken hpayload]
  -- an error reaches the handler, which disconnects the socket
  have hcaught : ∀ e, (authenticate P R s.sockets.length token).run executeRealtime
      (fun n => ω (n + 1)) (s.addSocket none) = (.error e, s.addSocket none) →
      (((authenticate P R s.sockets.length token).tryCatch fun _ =>
        gateway (.disconnect s.sockets.length)).run executeRealtime (fun n => ω (n + 1))
          (s.addSocket none)).2 = s.addSocket none := by
    intro e herror
    obtain ⟨ω', hrun⟩ := Program.run_tryCatch_error herror
    rw [hrun]
    exact addSocket_modify s _
  by_cases hexpired : payload.exp ≤ (ω 1).now / 1000
  · rw [if_pos hexpired] at hrun
    exact hcaught _ hrun
  · rw [if_neg hexpired] at hrun
    cases hfault : (ω 2).fault with
    | true =>
        rw [hfault] at hrun
        exact hcaught _ hrun
    | false =>
        have hnone : s.auth.users.rows.find?
            ((activeUser payload.sub payload.tenantId).selects s.auth) = none := by
          rw [List.find?_eq_none]
          intro user huser hselects
          exact h ⟨not_le.mp hexpired, hfault, user, huser, hselects⟩
        rw [hfault, hnone] at hrun
        rw [Program.run_tryCatch_ok hrun]
        rfl

end Admission

/-! ## Operators and the room of their tenant -/

theorem getElem?_addSocket (s : RealtimeStore) (auth : Option AuthenticatedSocketData) :
    (s.addSocket auth).sockets[s.sockets.length]? = some ⟨auth, []⟩ := by
  simp [RealtimeStore.addSocket]

theorem join_enters {s : RealtimeStore} {socket : ℕ} {data : AuthenticatedSocketData}
    (h : s.sockets[socket]? = some ⟨some data, []⟩) (ω : ℕ → AuthInput) :
    roomFor data ∈ ((realtimeSystem P R).runCalls [(.join socket none, ω)] s).roomsOf socket := by
  have hauth : executeRealtime (.inr (.getAuth socket)) (ω 0) s = (.ok (some data), s) := by
    simp [executeRealtime, GatewayCommand.answer, h]
  have hjoin : (joinTenantRoom socket none).run executeRealtime ω s =
      (.ok true, s.modifySocket socket fun state =>
        { state with rooms := state.rooms ++ [roomFor data] }) :=
    (Program.run_perform_bind_ok hauth).trans rfl
  change _ ∈
    ((RealtimeReply.joined <$> joinTenantRoom socket none).run executeRealtime ω s).2.roomsOf
    socket
  rw [Program.run_map, hjoin]
  simp [RealtimeStore.roomsOf, RealtimeStore.modifySocket, h]

/-- Whatever is requested before and after: a socket that connects while the stored role of
its user is `OPERATOR` stays out of the room of the tenant exactly when its token was issued
with that role, or the connection is refused anyway. -/
theorem operators_stay_out_of_tenant_events_iff (P : Platform) (R : Runtime)
    (before : List (RealtimeRequest × (ℕ → AuthInput))) (s : RealtimeStore)
    (handshake : Handshake) (ω : ℕ → AuthInput) (payload : AccessPayload)
    (h : ConnectsAsOperator P R ((realtimeSystem P R).runCalls before s) handshake payload) :
    (∀ after, tenantRoom payload.tenantId ∉
      ((realtimeSystem P R).runCalls (before ++ (.connect handshake, ω) :: after) s).roomsOf
        ((realtimeSystem P R).runCalls before s).sockets.length) ↔
    (Admissible ((realtimeSystem P R).runCalls before s) payload (ω 1) (ω 2) →
      payload.role = .operator) := by
  obtain ⟨⟨token, htoken, hpayload⟩, -⟩ := h
  have hrun : ∀ after,
      (realtimeSystem P R).runCalls (before ++ (.connect handshake, ω) :: after) s =
        (realtimeSystem P R).runCalls after ((realtimeSystem P R).runCalls
          [(.connect handshake, ω)] ((realtimeSystem P R).runCalls before s)) :=
    fun after => (realtimeSystem P R).runCalls_append before _ s
  generalize (realtimeSystem P R).runCalls before s = s₀ at hrun ⊢
  constructor
  · intro hout hadmissible
    by_contra hrole
    have hentered := join_enters (P := P) (R := R)
      (getElem?_addSocket s₀ (some (socketData payload))) ω
    have hroom : roomFor (socketData payload) = tenantRoom payload.tenantId := if_neg hrole
    rw [← connect_admitted htoken hpayload hadmissible, hroom, ← hrun] at hentered
    exact hout _ hentered
  · intro hrole after
    have hconfined : ∃ auth, (realtimeSystem P R).runCalls [(.connect handshake, ω)] s₀ =
        s₀.addSocket auth ∧ Confined payload.tenantId ⟨auth, []⟩ := by
      by_cases hadmissible : Admissible s₀ payload (ω 1) (ω 2)
      · refine ⟨_, connect_admitted htoken hpayload hadmissible, ?_, ?_⟩
        · simp
        · rintro _ ⟨rfl⟩
          exact ⟨hrole hadmissible, rfl⟩
      · exact ⟨_, connect_refused htoken hpayload hadmissible, confined_new _⟩
    obtain ⟨auth, hconnected, hauth⟩ := hconfined
    obtain ⟨state, hstate, hrooms, -⟩ := staysOut_runCalls P R
      ⟨_, getElem?_addSocket s₀ auth, hauth⟩ after
    rw [hrun, hconnected, RealtimeStore.roomsOf, hstate]
    exact hrooms

end

/-! ## A manager is demoted -/

attribute [local instance] foldCase

def payloadText (payload : AccessPayload) : String :=
  payload.sub ++ "|" ++ payload.tenantId ++ "|" ++ payload.email ++ "|" ++ payload.role.text ++
    "|" ++ toString payload.iat ++ "|" ++ toString payload.exp

def claimsOfText (text : String) : Option JwtClaims :=
  match split text '|' with
  | [sub, tenantId, email, role, iat, exp] =>
      some ⟨some "access", some sub, some tenantId, some email,
        some (digitsToNat iat.toList : ℕ), some (digitsToNat exp.toList : ℕ), some role⟩
  | _ => none

/-- Tokens that keep their payload readable. -/
def readablePlatform : Platform :=
  { plainPlatform with
    signJwt := fun _ payload => "jwt." ++ payloadText payload ++ ".signed" }

def plainRuntime : Runtime where
  hmacSha256Base64url _ _ := "signed"
  parsePayload := claimsOfText
  decodeURIComponent := some

/-- Ana is a manager beside an administrator. -/
def managed : RealtimeStore where
  auth := { oneUser with
    users := ⟨[{
      id := "ana", tenantId := some "tenant", branchId := none, name := "Ana"
      email := "ana@acme", passwordHash := some "scrypt$sal$segredo", role := .manager
      status := .active, mfaEnabled := false, mfaSecret := none
      passwordChangeRequired := false, lastLoginAt := none, deletedAt := none
      createdAt := 0 }, {
      id := "rui", tenantId := some "tenant", branchId := none, name := "Rui"
      email := "rui@acme", passwordHash := none, role := .admin
      status := .active, mfaEnabled := false, mfaSecret := none
      passwordChangeRequired := false, lastLoginAt := none, deletedAt := none
      createdAt := 0 }], by decide⟩ }
  sockets := []

/-- She logs in, and the administrator makes her an operator. -/
def demotion : List (RealtimeRequest × (ℕ → AuthInput)) :=
  [(.auth (.login ⟨"ana@acme", "segredo", none⟩ noMetadata), drawn 1),
    (.auth (.updateUser "tenant" "rui" "ana" ⟨none, some .operator, none⟩), drawn 2)]

/-- Then she logs in again. -/
def demotionAndLogin : List (RealtimeRequest × (ℕ → AuthInput)) :=
  demotion ++ [(.auth (.login ⟨"ana@acme", "segredo", none⟩ noMetadata), drawn 3)]

def issuedToken : Except ServiceError RealtimeReply → Option String
  | .ok (.auth (.login (.session result))) => some result.accessToken
  | _ => none

def anasToken (role : UserRole) : String :=
  "jwt.ana|tenant|ana@acme|" ++ role.text ++ "|0|900.signed"

def anasPayload (role : UserRole) : AccessPayload :=
  ⟨"ana@acme", 900, 0, role, "ana", "tenant"⟩

def handshakeWith (token : String) : Handshake :=
  ⟨.text token, .missing, .absent, .absent⟩

/-- The token of the manager opens the room of the tenant to the operator. -/
theorem a_demoted_operator_joins_the_tenant_room :
    ((realtimeSystem readablePlatform plainRuntime).outcomes demotion managed).map issuedToken =
      [some (anasToken .manager), none] ∧
    ConnectsAsOperator readablePlatform plainRuntime
      ((realtimeSystem readablePlatform plainRuntime).runCalls demotion managed)
      (handshakeWith (anasToken .manager)) (anasPayload .manager) ∧
    tenantRoom "tenant" ∈ ((realtimeSystem readablePlatform plainRuntime).runCalls
      (demotion ++ [(.connect (handshakeWith (anasToken .manager)), drawn 3),
        (.join 0 none, drawn 4)]) managed).roomsOf 0 := by
  refine ⟨by decide +kernel, ⟨⟨anasToken .manager, ?_, ?_⟩, by decide +kernel⟩, by decide +kernel⟩
  · rfl
  · rfl

/-- With the token of a new login she stays out. -/
theorem a_demoted_operator_stays_out_after_a_login :
    tenantRoom "tenant" ∉ ((realtimeSystem readablePlatform plainRuntime).runCalls
      (demotionAndLogin ++ (.connect (handshakeWith (anasToken .operator)), drawn 4) ::
        [(.join 0 none, drawn 5)]) managed).roomsOf 0 ∧
    userRoom "tenant" "ana" ∈ ((realtimeSystem readablePlatform plainRuntime).runCalls
      (demotionAndLogin ++ (.connect (handshakeWith (anasToken .operator)), drawn 4) ::
        [(.join 0 none, drawn 5)]) managed).roomsOf 0 := by
  have hconnects : ConnectsAsOperator readablePlatform plainRuntime
      ((realtimeSystem readablePlatform plainRuntime).runCalls demotionAndLogin managed)
      (handshakeWith (anasToken .operator)) (anasPayload .operator) :=
    ⟨⟨anasToken .operator, rfl, rfl⟩, by decide +kernel⟩
  have hsocket : ((realtimeSystem readablePlatform plainRuntime).runCalls demotionAndLogin
      managed).sockets.length = 0 := by decide +kernel
  have hout := (operators_stay_out_of_tenant_events_iff readablePlatform plainRuntime
    demotionAndLogin managed _ (drawn 4) _ hconnects).mpr (fun _ => rfl)
  rw [hsocket] at hout
  constructor
  · exact hout [(.join 0 none, drawn 5)]
  · decide +kernel

end Logistics.Realtime
