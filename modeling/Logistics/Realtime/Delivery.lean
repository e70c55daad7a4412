import Logistics.Library.Interleaving
import Logistics.Realtime.Rooms

/-!
# Who receives an event

The other half of `NotificationsGateway`: events are emitted into the room of a tenant
and, where an import has an owner, into the room of that user. Connections, joins,
role changes, disconnections and events may cross in any way; a socket receives an event
only if its connection presented an access token that was valid by the time its clock call
was answered with, and looked up a user who was active at that moment in the tenant that
the event is about. If the token gives the role of an operator, it receives only the events
of the user's own imports.
-/

namespace Logistics.Realtime

open Logistics.Library Logistics.Auth

section

variable [Collation]

/-! ## Events -/

/-- A value of a payload: the moment of the event, or its JSON text. -/
inductive PayloadValue
  | timestamp (moment : Time)
  | json (text : String)
  deriving DecidableEq

abbrev Payload := List (String × PayloadValue)

/-- `{ [field]: value, ...payload }` -/
def spread (field : String) (value : PayloadValue) (payload : Payload) : Payload :=
  (field, (payload.lookup field).getD value) :: payload.filter fun entry => entry.1 != field

inductive EmitCommand
  /-- `server.to(room).emit(eventName, payload)` -/
  | emit (room eventName : String) (payload : Payload)

/-- The sockets that an event in a room reaches. -/
def RealtimeStore.recipients (s : RealtimeStore) (room : String) : List ℕ :=
  (List.range s.sockets.length).filter fun socket => (s.roomsOf socket).contains room

@[reducible] def deliveryInterface : Interface :=
  realtimeInterface.extend EmitCommand fun _ => List ℕ

def executeDelivery : Backend deliveryInterface AuthInput RealtimeStore :=
  executeRealtime.extend fun
    | .emit room _ _, _, s => (.ok (s.recipients room), s)

def emit (room eventName : String) (payload : Payload) : Program deliveryInterface Unit :=
  (fun _ => ()) <$> @Program.perform deliveryInterface (.inr (.emit room eventName payload))

def emitImportProgress (tenantId : Id) (payload : Payload) : Program deliveryInterface Unit :=
  emit (tenantRoom tenantId) "import:progress" payload

def emitImportEvent (tenantId : Id) (eventName : String) (payload : Payload)
    (userId : Option Id) : Program deliveryInterface Unit := do
  emit (tenantRoom tenantId) eventName payload
  emit (tenantRoom tenantId) "import:progress" payload
  match present userId with
  | none => pure ()
  | some userId => do
      emit (userRoom tenantId userId) eventName payload
      emit (userRoom tenantId userId) "import:progress" payload

def emitDashboardRefresh (tenantId : Id) (reason : String) : Program deliveryInterface Unit := do
  let now ← @Program.perform deliveryInterface (.inl (.inl (.external .now)))
  emit (tenantRoom tenantId) "dashboard.refresh"
    [("reason", .json reason), ("timestamp", .timestamp now)]

def emitTrackingUpdate (tenantId shipmentId : Id) (payload : Payload) :
    Program deliveryInterface Unit := do
  emit (tenantRoom tenantId) "tracking.updated" (spread "shipmentId" (.json shipmentId) payload)
  emitDashboardRefresh tenantId "tracking-updated"

/-- What the services tell the gateway. -/
inductive Emission
  | importProgress (tenantId : Id) (payload : Payload)
  | importEvent (tenantId : Id) (eventName : String) (payload : Payload) (userId : Option Id)
  | dashboardRefresh (tenantId : Id) (reason : String)
  | trackingUpdate (tenantId shipmentId : Id) (payload : Payload)
  deriving DecidableEq

def Emission.tenantId : Emission → Id
  | .importProgress tenantId _ | .importEvent tenantId .. | .dashboardRefresh tenantId _
  | .trackingUpdate tenantId .. => tenantId

/-- The user whose import it is. -/
def Emission.userId : Emission → Option Id
  | .importEvent _ _ _ userId => present userId
  | _ => none

def Emission.send : Emission → Program deliveryInterface Unit
  | .importProgress tenantId payload => emitImportProgress tenantId payload
  | .importEvent tenantId eventName payload userId =>
      emitImportEvent tenantId eventName payload userId
  | .dashboardRefresh tenantId reason => emitDashboardRefresh tenantId reason
  | .trackingUpdate tenantId shipmentId payload => emitTrackingUpdate tenantId shipmentId payload

inductive DeliveryRequest
  | socket (r : RealtimeRequest)
  | emit (e : Emission)

inductive DeliveryReply
  | socket (reply : RealtimeReply)
  | sent

variable (P : Platform) (R : Runtime)

def handleDelivery : DeliveryRequest → Program deliveryInterface DeliveryReply
  | .socket r => DeliveryReply.socket <$> (handleRealtime P R r).lift
  | .emit e => (fun _ => DeliveryReply.sent) <$> e.send

def deliverySystem :
    System deliveryInterface DeliveryRequest DeliveryReply AuthInput RealtimeStore :=
  ⟨executeDelivery, handleDelivery P R⟩

/-- The sockets that an answered call has reached. -/
def reachedBy : Event deliveryInterface → List ℕ
  | ⟨.inl _, _⟩ => []
  | ⟨.inr (.emit _ _ _), .ok sockets⟩ => sockets
  | ⟨.inr (.emit _ _ _), .error _⟩ => []

/-- The events that were sent, each with a socket that it has reached. -/
def deliveries (c : Config deliveryInterface DeliveryRequest DeliveryReply RealtimeStore) :
    List (Emission × ℕ) :=
  c.threads.flatMap fun t =>
    match t.request with
    | .emit e => (t.history.flatMap reachedBy).map (Prod.mk e)
    | .socket _ => []

/-! ## What each call is preceded by -/

/-- The rooms an event goes to. -/
def Emission.room (e : Emission) (room : String) : Prop :=
  room = tenantRoom e.tenantId ∨ ∃ userId, e.userId = some userId ∧
    room = userRoom e.tenantId userId

/-- The handshake carries a token that is valid, with these claims, by the time that the
connection was told when it asked for it. -/
def Presented (handshake : Handshake) (h : List (Event deliveryInterface))
    (data : AuthenticatedSocketData) : Prop :=
  ∃ token payload, ∃ now : Time, readSocketToken R handshake = .ok (some token) ∧
    (⟨.inl (.inl (.external .now)), .ok now⟩ : Event deliveryInterface) ∈ h ∧
    verifyAccessToken P R token now = .ok payload ∧ data = socketData payload

/-- The connection has got the number of its socket. -/
def Accepted (socket : ℕ) (h : List (Event deliveryInterface)) : Prop :=
  (⟨.inl (.inr .accept), .ok socket⟩ : Event deliveryInterface) ∈ h

/-- The lookup of the user that a token names. -/
abbrev lookup (data : AuthenticatedSocketData) : deliveryInterface.Command :=
  .inl (.inl (.query (.findUser (activeUser data.userId data.tenantId))))

/-- After its token was verified, the connection of the socket looked the user up and found
one. -/
def LookedUp (handshake : Handshake) (socket : ℕ) (data : AuthenticatedSocketData)
    (h : List (Event deliveryInterface)) : Prop :=
  ∃ before user after, h = before ++ ⟨lookup data, .ok (some user)⟩ :: after ∧
    Accepted socket before ∧ Presented P R handshake before data

/-- The socket has told who it is. -/
def AskedFor (socket : ℕ) (data : AuthenticatedSocketData)
    (h : List (Event deliveryInterface)) : Prop :=
  (⟨.inl (.inr (.getAuth socket)), .ok (some data)⟩ : Event deliveryInterface) ∈ h

def Lawful (r : DeliveryRequest) (h : List (Event deliveryInterface)) :
    deliveryInterface.Command → Prop
  | .inr (.emit room _ _) => ∃ e, r = .emit e ∧ e.room room
  | .inl (.inr (.setAuth socket data)) => ∃ handshake, r = .socket (.connect handshake) ∧
      LookedUp P R handshake socket data h
  | .inl (.inr (.join socket room)) => ∃ data, AskedFor socket data h ∧ room = roomFor data
  | .inl _ => True

omit [Collation] in
theorem issues_emit {C : deliveryInterface.Command → Prop} {room eventName : String}
    {payload : Payload} (h : C (.inr (.emit room eventName payload))) :
    (emit room eventName payload).Issues C :=
  (Program.issues_map_iff _ _).mpr (Program.Issues.perform h)

/-- An event goes to its rooms and changes nothing else. -/
def Emits (e : Emission) : deliveryInterface.Command → Prop
  | .inr (.emit room _ _) => e.room room
  | .inl (.inl _) => True
  | .inl (.inr _) => False

omit [Collation] in
theorem send_issues (e : Emission) : e.send.Issues (Emits e) := by
  have htenant : ∀ eventName payload,
      (emit (tenantRoom e.tenantId) eventName payload).Issues (Emits e) :=
    fun _ _ => issues_emit (.inl rfl)
  have hrefresh : ∀ reason, (emitDashboardRefresh e.tenantId reason).Issues (Emits e) :=
    fun reason => (Program.Issues.perform trivial).bind fun _ => htenant _ _
  cases e with
  | importProgress tenantId payload => exact htenant _ _
  | importEvent tenantId eventName payload userId =>
      refine (htenant _ _).bind fun _ => (htenant _ _).bind fun _ => ?_
      cases huser : present userId with
      | none => trivial
      | some owner =>
          have hroom : Emission.room (.importEvent tenantId eventName payload userId)
              (userRoom tenantId owner) := .inr ⟨owner, huser, rfl⟩
          exact (issues_emit hroom).bind fun _ => issues_emit hroom
  | dashboardRefresh tenantId reason => exact hrefresh reason
  | trackingUpdate tenantId shipmentId payload =>
      exact (htenant _ _).bind fun _ => hrefresh _

omit [Collation] in
/-- A connection gives rights only to its socket, when its token and user were looked
at. -/
theorem handleConnection_obeys {r : DeliveryRequest} (socket : ℕ) {handshake : Handshake}
    (hr : r = .socket (.connect handshake)) {h : List (Event realtimeInterface)}
    (haccepted : Accepted socket (h.map extendEvent)) :
    (handleConnection P R socket handshake).Obeys
      (fun h c => Lawful P R r (h.map extendEvent) (.inl c)) (fun _ _ => True) h := by
  have hdisconnect : ∀ h, (gateway (.disconnect socket)).Obeys
      (fun h c => Lawful P R r (h.map extendEvent) (.inl c)) (fun _ _ => True) h :=
    fun h => Program.Issues.obeys_each
      (C := fun c : realtimeInterface.Command => c = .inr (.disconnect socket))
      (Program.Issues.perform rfl) (fun c hc h => hc ▸ trivial) h
  refine Program.Obeys.ofExcept_bind (fun token htoken => ?_) fun _ _ => trivial
  cases hpresent : present token with
  | none => exact hdisconnect h
  | some token' =>
      obtain rfl := (Option.filter_eq_some_iff.mp hpresent).1
      refine Program.Obeys.tryCatch (Q := fun _ _ => True) ?_ (fun _ _ _ => trivial)
        fun h' _ _ => hdisconnect h'
      refine Program.Obeys.perform_bind trivial (fun now => ?_) fun _ => trivial
      refine Program.Obeys.ofExcept_bind (fun payload hpayload => ?_) fun _ _ => trivial
      refine Program.Obeys.perform_bind trivial (fun found => ?_) fun _ => trivial
      cases found with
      | none => exact hdisconnect _
      | some user =>
          have hnow : (⟨.inl (.inl (.external .now)), .ok now⟩ : Event deliveryInterface) ∈
              (h ++ [(⟨.inl (.external .now), .ok now⟩ : Event realtimeInterface)]).map
                extendEvent :=
            List.mem_map_of_mem (List.mem_append_right _ List.mem_cons_self)
          refine ⟨⟨handshake, hr, _, user, [], List.map_append, ?_, ?_⟩, fun x => ?_⟩
          · rw [Accepted, List.map_append]
            exact List.mem_append_left _ haccepted
          · exact ⟨token', payload, now, htoken, hnow, hpayload, rfl⟩
          · cases x with
            | ok _ => trivial
            | error _ => trivial

omit [Collation] in
theorem joinTenantRoom_obeys (r : DeliveryRequest) (socket : ℕ) (tenantId : Option Id)
    (h : List (Event realtimeInterface)) :
    (joinTenantRoom socket tenantId).Obeys
      (fun h c => Lawful P R r (h.map extendEvent) (.inl c)) (fun _ _ => True) h := by
  refine Program.Obeys.perform_bind trivial (fun found => ?_) fun _ => trivial
  cases found with
  | none => trivial
  | some data =>
      dsimp only
      split
      · trivial
      · refine Program.Obeys.perform_bind ⟨data, ?_, rfl⟩ (fun _ => trivial) fun _ => trivial
        rw [List.map_append]
        exact List.mem_append_right _ List.mem_cons_self

omit [Collation] in
theorem handleRealtime_obeys {r : DeliveryRequest} {request : RealtimeRequest}
    (hr : r = .socket request) :
    (handleRealtime P R request).Obeys
      (fun h c => Lawful P R r (h.map extendEvent) (.inl c)) (fun _ _ => True) [] := by
  cases request with
  | auth request =>
      refine Program.Obeys.map (Q := fun _ _ => True) ?_ (fun _ _ _ => trivial) fun _ _ _ => trivial
      refine Program.Issues.obeys_each (C := fun c => ∃ c', c = Sum.inl c' ∧ True)
        (Program.issues_lift (Program.issues_true _)) ?_ []
      rintro _ ⟨c, rfl, -⟩ h
      trivial
  | connect handshake =>
      refine Program.Obeys.perform_bind trivial (fun socket => ?_) fun _ => trivial
      exact (handleConnection_obeys P R socket hr List.mem_cons_self).bind
        (fun _ _ _ => trivial) fun _ _ _ => trivial
  | join socket tenantId =>
      exact (joinTenantRoom_obeys P R r socket tenantId []).map (fun _ _ _ => trivial)
        fun _ _ _ => trivial
  | disconnect socket =>
      exact Program.Obeys.perform_bind trivial (fun _ => trivial) fun _ => trivial

omit [Collation] in
theorem handleDelivery_obeys (r : DeliveryRequest) :
    (handleDelivery P R r).Obeys (Lawful P R r) (fun _ _ => True) [] := by
  cases r with
  | socket request =>
      refine Program.Obeys.map (Q := fun _ _ => True) ?_ (fun _ _ _ => trivial) fun _ _ _ => trivial
      exact Program.Obeys.lift (h := []) (handleRealtime_obeys P R rfl)
  | emit e =>
      refine Program.Obeys.map (Q := fun _ _ => True) ?_ (fun _ _ _ => trivial) fun _ _ _ => trivial
      refine (send_issues e).obeys_each (fun c hc h => ?_) []
      match c with
      | .inr (.emit _ _ _) => exact ⟨e, rfl, hc⟩
      | .inl (.inl _) => trivial
      | .inl (.inr _) => exact hc.elim

/-! ## What a run leads to -/

variable {P R}

abbrev DeliveryConfig := Config deliveryInterface DeliveryRequest DeliveryReply RealtimeStore

/-- The user that the token names is active in the tenant it names, which is active. -/
def ActiveIn (s : RealtimeStore) (data : AuthenticatedSocketData) : Prop :=
  ∃ user ∈ s.auth.users.rows, user.id = data.userId ∧ user.tenantId = some data.tenantId ∧
    user.status = .active ∧ (userRecord s.auth user).tenant.any Tenant.active = true

section Run

variable (P R) (taken : DeliveryConfig → Action DeliveryRequest AuthInput → Prop)

/-- At one action of the run the connection of the socket looked its user up: the token of
its handshake was verified before, and the user was active at that moment. -/
def Entitled (socket : ℕ) (data : AuthenticatedSocketData) : Prop :=
  ∃ c i input handshake h k, taken c (.step i input) ∧
    c.threads[i]? = some ⟨.socket (.connect handshake), h, .call (lookup data) k⟩ ∧
    Accepted socket h ∧ Presented P R handshake h data ∧ ActiveIn c.store data

/-- What the answers of past calls say. -/
def Tells (r : DeliveryRequest) (h : List (Event deliveryInterface)) :
    Event deliveryInterface → Prop
  | ⟨.inl (.inl (.query (.findUser filter))), answer⟩ =>
      ∀ data user, filter = activeUser data.userId data.tenantId → answer = .ok (some user) →
        ∃ c i input k, taken c (.step i input) ∧
          c.threads[i]? = some ⟨r, h, .call (lookup data) k⟩ ∧ ActiveIn c.store data
  | ⟨.inl (.inr (.getAuth socket)), answer⟩ =>
      ∀ data, answer = .ok (some data) → Entitled P R taken socket data
  | ⟨.inr (.emit room _ _), answer⟩ =>
      ∀ sockets : List ℕ, answer = .ok sockets → ∀ socket ∈ sockets, ∃ data,
        Entitled P R taken socket data ∧ room = roomFor data
  | _ => True

/-- The rights and the rooms of a socket are those of an entitled user. -/
def SoundState (socket : ℕ) (state : SocketState) : Prop :=
  (∀ data, state.auth = some data → Entitled P R taken socket data) ∧
    ∀ room ∈ state.rooms, ∃ data, Entitled P R taken socket data ∧ room = roomFor data

def Sound (s : RealtimeStore) : Prop :=
  ∀ socket state, s.sockets[socket]? = some state → SoundState P R taken socket state

/-- The invariant of a run, at each of its configurations. -/
structure Discreet (c : DeliveryConfig) : Prop where
  obeying : c.Obeying (Lawful P R) fun _ _ _ => True
  obeyedBefore : c.ObeyedBefore (Lawful P R)
  sound : Sound P R taken c.store
  told : c.Recounts (Tells P R taken)

variable {P R taken}

theorem soundState_empty (socket : ℕ) : SoundState P R taken socket ⟨none, []⟩ :=
  ⟨fun _ hdata => (nomatch hdata), fun _ hroom => (nomatch hroom)⟩

theorem Sound.accept {s : RealtimeStore} (hs : Sound P R taken s) :
    Sound P R taken { s with sockets := s.sockets ++ [⟨none, []⟩] } := by
  intro socket state hstate
  by_cases hlt : socket < s.sockets.length
  · exact hs socket state ((List.getElem?_append_left hlt).symm.trans hstate)
  · have hnew := List.mem_of_getElem? ((List.getElem?_append_right
      (Nat.le_of_not_lt hlt)).symm.trans hstate)
    obtain rfl := List.mem_singleton.mp hnew
    exact soundState_empty socket

theorem Sound.modify {s : RealtimeStore} (hs : Sound P R taken s) {socket : ℕ}
    {f : SocketState → SocketState}
    (hf : ∀ state, SoundState P R taken socket state → SoundState P R taken socket (f state)) :
    Sound P R taken (s.modifySocket socket f) := by
  intro other state hstate
  change (s.sockets.modify socket f)[other]? = some state at hstate
  rw [List.getElem?_modify, Option.map_eq_map, Option.map_eq_some_iff] at hstate
  obtain ⟨before, hbefore, rfl⟩ := hstate
  by_cases hother : socket = other
  · rw [if_pos hother]
    exact hother ▸ hf before (hother ▸ hs other before hbefore)
  · rw [if_neg hother]
    exact hs other before hbefore

theorem mem_recipients {s : RealtimeStore} {room : String} {socket : ℕ}
    (h : socket ∈ s.recipients room) :
    ∃ state, s.sockets[socket]? = some state ∧ room ∈ state.rooms := by
  have hroom := (List.mem_filter.mp h).2
  unfold RealtimeStore.roomsOf at hroom
  cases hstate : s.sockets[socket]? with
  | none =>
      rw [hstate] at hroom
      cases hroom
  | some state =>
      rw [hstate] at hroom
      exact ⟨state, rfl, List.contains_iff_mem.mp hroom⟩

theorem activeIn_of_answer {s : RealtimeStore} {data : AuthenticatedSocketData}
    {user : AuthUserRecord} {input : AuthInput}
    (h : (executeDelivery (.inl (.inl (.query (.findUser
      (activeUser data.userId data.tenantId))))) input s).1 = .ok (some user)) :
    ActiveIn s data := by
  cases hfault : input.fault with
  | true => simp [executeDelivery, Backend.extend, executeRealtime, Auth.execute, hfault] at h
  | false =>
      have hanswer : (executeDelivery (.inl (.inl (.query (.findUser
          (activeUser data.userId data.tenantId))))) input s).1 =
          .ok ((s.auth.users.rows.find? ((activeUser data.userId data.tenantId).selects s.auth)).map
            (userRecord s.auth)) := by
        simp [executeDelivery, Backend.extend, executeRealtime, Auth.execute, hfault, Query.answer]
      obtain ⟨row, hrow, -⟩ := Option.map_eq_some_iff.mp (Except.ok.inj (hanswer.symm.trans h))
      refine ⟨row, List.mem_of_find?_eq_some hrow, ?_⟩
      simpa [activeUser, UserFilter.selects, and_assoc] using List.find?_some hrow

/-- What one call leaves and answers, made by a thread of a configuration of the run. -/
theorem answered {c : DeliveryConfig} (hc : Discreet P R taken c) {i : ℕ} {input : AuthInput}
    (htaken : taken c (.step i input)) {r : DeliveryRequest} {h : List (Event deliveryInterface)}
    {cmd : deliveryInterface.Command}
    {k : Response deliveryInterface cmd → Program deliveryInterface DeliveryReply}
    (hi : c.threads[i]? = some ⟨r, h, .call cmd k⟩) :
    Sound P R taken (executeDelivery cmd input c.store).2 ∧
      Tells P R taken r h ⟨cmd, (executeDelivery cmd input c.store).1⟩ := by
  have hlawful := Config.obeying_call hc.obeying hi
  have htold := hc.told _ (List.mem_of_getElem? hi)
  cases cmd with
  | inl cmd =>
      cases cmd with
      | inl cmd =>
          refine ⟨hc.sound, ?_⟩
          cases cmd with
          | query q =>
              cases q with
              | findUser filter =>
                  rintro data user rfl hanswer
                  exact ⟨c, i, input, k, htaken, hi, activeIn_of_answer hanswer⟩
              | _ => trivial
          | _ => trivial
      | inr cmd =>
          cases cmd with
          | accept => exact ⟨hc.sound.accept, trivial⟩
          | getAuth socket =>
              refine ⟨hc.sound, fun data hanswer => ?_⟩
              obtain ⟨state, hstate, hdata⟩ := Option.bind_eq_some_iff.mp (Except.ok.inj hanswer)
              exact (hc.sound socket state hstate).1 data hdata
          | setAuth socket data =>
              obtain ⟨handshake, rfl, before, user, after, hhistory, haccepted, hpresented⟩ :=
                hlawful
              have hentitled : Entitled P R taken socket data := by
                obtain ⟨c', i', input', k', htaken', hi', hactive⟩ :=
                  htold before _ after hhistory data user rfl rfl
                exact ⟨c', i', input', handshake, before, k', htaken', hi', haccepted, hpresented,
                  hactive⟩
              refine ⟨hc.sound.modify fun state hstate =>
                ⟨fun data' hdata => ?_, hstate.2⟩, trivial⟩
              rw [← Option.some.inj hdata]
              exact hentitled
          | join socket room =>
              obtain ⟨data, hasked, rfl⟩ := hlawful
              obtain ⟨before, after, hhistory⟩ := List.append_of_mem hasked
              refine ⟨hc.sound.modify fun state hstate => ⟨hstate.1, fun room hroom => ?_⟩, trivial⟩
              rcases List.mem_append.mp hroom with hold | hnew
              · exact hstate.2 room hold
              · exact ⟨data, htold before _ after hhistory data rfl, List.mem_singleton.mp hnew⟩
          | disconnect socket =>
              exact ⟨hc.sound.modify fun _ _ => soundState_empty socket, trivial⟩
  | inr cmd =>
      cases cmd with
      | emit room eventName payload =>
          refine ⟨hc.sound, fun sockets hanswer socket hsocket => ?_⟩
          rw [← Except.ok.inj hanswer] at hsocket
          obtain ⟨state, hstate, hroom⟩ := mem_recipients hsocket
          exact (hc.sound socket state hstate).2 room hroom

theorem discreet_next (c : DeliveryConfig) (a : Action DeliveryRequest AuthInput)
    (hc : Discreet P R taken c) (htaken : taken c a) :
    Discreet P R taken ((deliverySystem P R).next c a) := by
  refine ⟨(deliverySystem P R).obeying_next (handleDelivery_obeys P R) c a hc.obeying,
    (deliverySystem P R).obeyedBefore_next c a hc.obeying hc.obeyedBefore, ?_,
    (deliverySystem P R).recounts_next c a hc.told ?_⟩
  · obtain ⟨r, rfl, hn⟩ | ⟨i, input, r, h, cmd, k, rfl, hi, -, hn⟩ | ⟨hn, -⟩ :=
      (deliverySystem P R).next_cases c a
    · rw [hn]
      exact hc.sound
    · rw [hn]
      exact (answered hc htaken hi).1
    · rw [hn]
      exact hc.sound
  · rintro i input r h cmd k rfl hi
    exact (answered hc htaken hi).2

end Run

/-- The action of the run that is taken in this configuration. -/
def TakenIn (P : Platform) (R : Runtime) (auth : AuthStore)
    (acts : List (Action DeliveryRequest AuthInput)) (c : DeliveryConfig)
    (a : Action DeliveryRequest AuthInput) : Prop :=
  ∃ n, acts[n]? = some a ∧
    c = (deliverySystem P R).runActions (Config.initial ⟨auth, []⟩) (acts.take n)

/-- A configuration that some of the actions lead to. -/
def ReachedIn (P : Platform) (R : Runtime) (auth : AuthStore)
    (acts : List (Action DeliveryRequest AuthInput)) (c : DeliveryConfig) : Prop :=
  ∃ n, c = (deliverySystem P R).runActions (Config.initial ⟨auth, []⟩) (acts.take n)

theorem discreet_run (auth : AuthStore) (acts : List (Action DeliveryRequest AuthInput)) :
    Discreet P R (TakenIn P R auth acts)
      ((deliverySystem P R).runActions (Config.initial ⟨auth, []⟩) acts) := by
  have hstart : Discreet P R (TakenIn P R auth acts) (Config.initial ⟨auth, []⟩) :=
    ⟨Config.obeying_initial _ _ _, Config.obeyedBefore_initial _ _,
      fun _ _ hstate => (nomatch hstate), Config.recounts_initial _ _⟩
  exact (deliverySystem P R).run_invariant (P := TakenIn P R auth acts)
    (fun c a hc htaken => discreet_next c a hc htaken) acts _ hstart
    ((deliverySystem P R).alongActions_taken acts _)

/-! ## Rooms and tenants -/

omit [Collation] in
theorem eq_of_append_cons {α : Type*} {a : α} {x x' y y' : List α} (hx : a ∉ x) (hx' : a ∉ x')
    (h : x ++ a :: y = x' ++ a :: y') : x = x' ∧ y = y' := by
  induction x generalizing x' with
  | nil =>
      cases x' with
      | nil => exact ⟨rfl, (List.cons.inj h).2⟩
      | cons b x' => exact absurd ((List.cons.inj h).1 ▸ List.mem_cons_self) hx'
  | cons b x ih =>
      cases x' with
      | nil => exact absurd ((List.cons.inj h).1 ▸ List.mem_cons_self) hx
      | cons b' x' =>
          obtain ⟨rfl, hrest⟩ := List.cons.inj h
          obtain ⟨rfl, rfl⟩ := ih (fun hmem => hx (List.mem_cons_of_mem _ hmem))
            (fun hmem => hx' (List.mem_cons_of_mem _ hmem)) hrest
          exact ⟨rfl, rfl⟩

omit [Collation] in
theorem tenantRoom_inj {tenantId tenantId' : Id} (h : tenantRoom tenantId = tenantRoom tenantId') :
    tenantId = tenantId' :=
  (String.append_right_inj "tenant:").mp h

omit [Collation] in
theorem toList_userRoom (tenantId userId : Id) :
    (userRoom tenantId userId).toList =
      "tenant:".toList ++ (tenantId.toList ++ ':' :: ("user:".toList ++ userId.toList)) := by
  simp [userRoom]

omit [Collation] in
theorem userRoom_inj {tenantId tenantId' userId userId' : Id} (h : ':' ∉ tenantId.toList)
    (h' : ':' ∉ tenantId'.toList) (hroom : userRoom tenantId userId = userRoom tenantId' userId') :
    tenantId = tenantId' ∧ userId = userId' := by
  have hlist := congrArg String.toList hroom
  rw [toList_userRoom, toList_userRoom, List.append_cancel_left_eq] at hlist
  obtain ⟨htenant, huser⟩ := eq_of_append_cons h h' hlist
  exact ⟨String.toList_injective htenant,
    String.toList_injective (List.append_cancel_left huser)⟩

omit [Collation] in
theorem tenantRoom_ne_userRoom {tenantId tenantId' userId : Id} (h : ':' ∉ tenantId.toList) :
    tenantRoom tenantId ≠ userRoom tenantId' userId := by
  intro hroom
  have hlist := congrArg String.toList hroom
  rw [toList_userRoom, tenantRoom, String.toList_append, List.append_cancel_left_eq] at hlist
  apply h
  rw [hlist]
  exact List.mem_append_right _ List.mem_cons_self

omit [Collation] in
theorem recipient_of_room {data : AuthenticatedSocketData} {e : Emission}
    (hdata : ':' ∉ data.tenantId.toList) (he : ':' ∉ e.tenantId.toList)
    (hroom : e.room (roomFor data)) :
    data.tenantId = e.tenantId ∧ (data.role = .operator → e.userId = some data.userId) := by
  unfold roomFor at hroom
  by_cases hrole : data.role = .operator
  · rw [if_pos hrole] at hroom
    rcases hroom with htenant | ⟨userId, huser, hrooms⟩
    · exact absurd htenant.symm (tenantRoom_ne_userRoom he)
    · obtain ⟨htenant, rfl⟩ := userRoom_inj hdata he hrooms
      exact ⟨htenant, fun _ => huser⟩
  · rw [if_neg hrole] at hroom
    rcases hroom with htenant | ⟨userId, -, hrooms⟩
    · exact ⟨tenantRoom_inj htenant, fun h => absurd h hrole⟩
    · exact absurd hrooms (tenantRoom_ne_userRoom hdata)

omit [Collation] in
theorem eq_of_mem_reachedBy {event : Event deliveryInterface} {socket : ℕ}
    (h : socket ∈ reachedBy event) : ∃ room eventName payload, ∃ sockets : List ℕ,
      event = ⟨.inr (.emit room eventName payload), .ok sockets⟩ ∧ socket ∈ sockets := by
  obtain ⟨c, answer⟩ := event
  cases c with
  | inl c => cases h
  | inr c =>
      cases c with
      | emit room eventName payload =>
          cases answer with
          | ok sockets => exact ⟨room, eventName, payload, sockets, rfl, h⟩
          | error e => cases h

theorem exists_event_of_mem_deliveries {c : DeliveryConfig} {e : Emission} {socket : ℕ}
    (h : (e, socket) ∈ deliveries c) :
    ∃ t ∈ c.threads, t.request = .emit e ∧ ∃ room eventName payload, ∃ sockets : List ℕ,
      (⟨.inr (.emit room eventName payload), .ok sockets⟩ : Event deliveryInterface) ∈ t.history ∧
        socket ∈ sockets := by
  obtain ⟨t, ht, hmem⟩ := List.mem_flatMap.mp h
  cases hrequest : t.request with
  | socket request =>
      rw [hrequest] at hmem
      cases hmem
  | emit e' =>
      rw [hrequest] at hmem
      obtain ⟨socket', hsocket, heq⟩ := List.mem_map.mp hmem
      obtain ⟨rfl, rfl⟩ := Prod.mk.inj heq
      obtain ⟨event, hevent, hreached⟩ := List.mem_flatMap.mp hsocket
      obtain ⟨room, eventName, payload, sockets, rfl, hmem⟩ := eq_of_mem_reachedBy hreached
      exact ⟨t, ht, hrequest, room, eventName, payload, sockets, hevent, hmem⟩

/-- Connections, joins, disconnections, changes of the users and events cross in any
way: an event reaches a socket only if its connection looked up a user who was active at
that moment in the very tenant that the event is about, with a token that was valid by the
clock of the connection. Where the token has the role of an operator, the event is about
one of the user's own imports. -/
theorem events_reach_their_readers (P : Platform) (R : Runtime) (auth : AuthStore)
    (acts : List (Action DeliveryRequest AuthInput))
    (hids : ∀ c, ReachedIn P R auth acts c → ∀ user ∈ c.store.auth.users.rows,
      ∀ tenantId ∈ user.tenantId, ':' ∉ tenantId.toList)
    {e : Emission} (he : ':' ∉ e.tenantId.toList) {socket : ℕ}
    (h : (e, socket) ∈
      deliveries ((deliverySystem P R).runActions (Config.initial ⟨auth, []⟩) acts)) :
    ∃ data, Entitled P R (TakenIn P R auth acts) socket data ∧ data.tenantId = e.tenantId ∧
      (data.role = .operator → e.userId = some data.userId) := by
  have hrun := discreet_run (P := P) (R := R) auth acts
  obtain ⟨t, ht, hrequest, room, eventName, payload, sockets, hsent, hsocket⟩ :=
    exists_event_of_mem_deliveries h
  obtain ⟨before, after, hhistory⟩ := List.append_of_mem hsent
  obtain ⟨data, hentitled, rfl⟩ := hrun.told t ht before _ after hhistory sockets rfl socket hsocket
  obtain ⟨e', he', hroom⟩ := hrun.obeyedBefore t ht _ _ _ hhistory
  obtain rfl : e = e' := DeliveryRequest.emit.inj (hrequest.symm.trans he')
  obtain ⟨c, -, -, -, -, -, ⟨n, -, hreached⟩, -, -, -, user, huser, -, htenant, -⟩ := id hentitled
  exact ⟨data, hentitled,
    recipient_of_room (hids c ⟨n, hreached⟩ user huser _ htenant) he hroom⟩

end

/-! ## An import is reported -/

attribute [local instance] foldCase

/-- Ana connects and joins, and an import of hers is reported. -/
def reportedImport : List (Action DeliveryRequest AuthInput) :=
  [.start (.socket (.connect (handshakeWith (anasToken .operator)))),
    .start (.socket (.join 0 none)),
    .start (.emit (.importEvent "tenant" "import.completed" [] (some "ana")))] ++
    [0, 0, 0, 0, 1, 1, 2, 2, 2, 2].map fun thread => .step thread (drawn 3 0)

theorem events_reach_their_readers_reported :
    ∃ data, Entitled readablePlatform plainRuntime
        (TakenIn readablePlatform plainRuntime managed.auth reportedImport) 0 data ∧
      data.tenantId = "tenant" ∧ (data.role = .operator → some "ana" = some data.userId) := by
  have hids : ∀ n < 14, (((deliverySystem readablePlatform plainRuntime).runActions
      (Config.initial ⟨managed.auth, []⟩) (reportedImport.take n)).store.auth.users.rows.all
        fun user => user.tenantId.all fun tenantId => !tenantId.toList.contains ':') = true := by
    decide +kernel
  have hdelivered : (Emission.importEvent "tenant" "import.completed" [] (some "ana"), 0) ∈
      deliveries ((deliverySystem readablePlatform plainRuntime).runActions
        (Config.initial ⟨managed.auth, []⟩) reportedImport) := by
    decide +kernel
  refine events_reach_their_readers readablePlatform plainRuntime managed.auth reportedImport ?_
    (by decide) hdelivered
  rintro c ⟨n, rfl⟩ user huser tenantId htenant hcolon
  have htake : reportedImport.take n = reportedImport.take (min n 13) :=
    (List.take_eq_take_min ..).trans rfl
  rw [htake] at huser
  have hall := List.all_eq_true.mp (hids (min n 13) (by omega)) user huser
  rw [htenant] at hall
  simp [hcolon] at hall

end Logistics.Realtime
