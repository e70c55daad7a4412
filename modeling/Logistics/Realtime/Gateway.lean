import Logistics.Auth.Users

/-!
# The notifications gateway

`NotificationsGateway` beside the identity services. A socket is admitted by the access
token of its handshake and joins one room: the room of its tenant, in which every event of
the tenant is sent, or the room of its user. The role that decides is the one of the token.
-/

namespace Logistics.Realtime

open Logistics.Library Logistics.Auth

variable [Collation]

/-! ## Access tokens -/

/-- The parsed payload of a token; a claim of another type is absent. -/
structure JwtClaims where
  type : Option String
  sub : Option Id
  tenantId : Option Id
  email : Option String
  iat : Option Int
  exp : Option Int
  role : Option String

/-- What the gateway needs of the runtime beyond the identity services. -/
structure Runtime where
  /-- `createHmac('sha256', secret).update(value).digest('base64url')` -/
  hmacSha256Base64url : String → String → String
  /-- The middle part of a token, decoded and parsed. -/
  parsePayload : String → Option JwtClaims
  decodeURIComponent : String → Option String

variable (P : Platform) (R : Runtime)

def invalidToken : ServiceError := .unauthorized "Authentication token is invalid."

def roleOfText (text : String) : Option UserRole :=
  [UserRole.admin, .manager, .operator].find? fun role => role.text == text

/-- `isAccessPayload` -/
def accessPayload (claims : JwtClaims) : Option AccessPayload := do
  guard (claims.type = some "access")
  let sub ← claims.sub
  let tenantId ← claims.tenantId
  let email ← claims.email
  let iat ← claims.iat
  let exp ← claims.exp
  let role ← claims.role.bind roleOfText
  pure ⟨email, exp, iat, role, sub, tenantId⟩

/-- The payload of a signed token, whether it has expired or not. -/
def readAccessToken (token : String) : Except ServiceError AccessPayload :=
  match split token '.' with
  | encodedHeader :: encodedPayload :: signature :: _ =>
      if encodedHeader = "" ∨ encodedPayload = "" ∨ signature = "" then .error invalidToken
      else if signature ≠ R.hmacSha256Base64url P.config.jwtAccessSecret
          (encodedHeader ++ "." ++ encodedPayload) then .error invalidToken
      else ((R.parsePayload encodedPayload).bind accessPayload).elim (.error invalidToken) .ok
  | _ => .error invalidToken

def verifyAccessToken (token : String) (now : Time) : Except ServiceError AccessPayload := do
  let payload ← readAccessToken P R token
  if payload.exp ≤ now / 1000 then .error (.unauthorized "Authentication token expired.")
  else pure payload

/-! ## Handshakes -/

/-- A value of `handshake.auth`: `undefined` or `null`, a text, or anything else. -/
inductive AuthValue
  | missing
  | text (value : String)
  | other

/-- `a ?? b` -/
def AuthValue.orElse : AuthValue → AuthValue → AuthValue
  | .missing, value => value
  | value, _ => value

def AuthValue.trimmed : AuthValue → Option String
  | .text value => present (some (trim value))
  | _ => none

/-- A header of a handshake: given once, or as a list of which the first counts. -/
inductive Header
  | absent
  | single (value : String)
  | many (values : List String)

def readHeader : Header → Option String
  | .absent => none
  | .single value => some value
  | .many values => values.head?

structure Handshake where
  authAccessToken : AuthValue
  authToken : AuthValue
  authorization : Header
  cookie : Header

/-- The rest of a text that begins with `start`. -/
def afterStart (start text : String) : Option String :=
  (text.toList.dropPrefix? start.toList).map String.ofList

/-- A cookie that is no valid encoding fails the call. -/
def readCookie (rawCookie : Option String) (name : String) :
    Except ServiceError (Option String) :=
  match present rawCookie with
  | none => .ok none
  | some rawCookie =>
      match ((split rawCookie ';').map trim).findSome? (afterStart (name ++ "=")) with
      | none => .ok none
      | some value => (R.decodeURIComponent value).elim (.error .fault) fun text => .ok (some text)

def accessTokenCookie : String := "nf_access_token"

/-- The token of the handshake, of the authorization header, or of the cookie. -/
def readSocketToken (handshake : Handshake) : Except ServiceError (Option String) :=
  match (handshake.authAccessToken.orElse handshake.authToken).trimmed with
  | some token => .ok (some token)
  | none =>
      match (readHeader handshake.authorization).bind (afterStart "Bearer ") with
      | some token => .ok (some (trim token))
      | none => readCookie R (readHeader handshake.cookie) accessTokenCookie

/-! ## Sockets -/

structure AuthenticatedSocketData where
  role : UserRole
  tenantId : Id
  userId : Id
  deriving DecidableEq

/-- What the gateway knows of a socket, and the rooms it is in. A disconnected socket is in
no room, and no message of it arrives any more. -/
structure SocketState where
  auth : Option AuthenticatedSocketData
  rooms : List String
  deriving DecidableEq

/-- The sockets in the order of their connection, beside the identity store. -/
structure RealtimeStore where
  auth : AuthStore
  sockets : List SocketState

def RealtimeStore.modifySocket (s : RealtimeStore) (socket : ℕ) (f : SocketState → SocketState) :
    RealtimeStore :=
  { s with sockets := s.sockets.modify socket f }

def RealtimeStore.roomsOf (s : RealtimeStore) (socket : ℕ) : List String :=
  s.sockets[socket]?.elim [] SocketState.rooms

inductive GatewayCommand
  /-- A new socket. -/
  | accept
  | getAuth (socket : ℕ)
  | setAuth (socket : ℕ) (data : AuthenticatedSocketData)
  | join (socket : ℕ) (room : String)
  | disconnect (socket : ℕ)

@[reducible] def GatewayCommand.Result : GatewayCommand → Type
  | .accept => ℕ
  | .getAuth _ => Option AuthenticatedSocketData
  | .setAuth .. | .join .. | .disconnect _ => Unit

def GatewayCommand.answer (s : RealtimeStore) : (c : GatewayCommand) → c.Result × RealtimeStore
  | .accept => (s.sockets.length, { s with sockets := s.sockets ++ [⟨none, []⟩] })
  | .getAuth socket => (s.sockets[socket]?.bind SocketState.auth, s)
  | .setAuth socket data =>
      ((), s.modifySocket socket fun state => { state with auth := some data })
  | .join socket room =>
      ((), s.modifySocket socket fun state => { state with rooms := state.rooms ++ [room] })
  | .disconnect socket => ((), s.modifySocket socket fun _ => ⟨none, []⟩)

@[reducible] def realtimeInterface : Interface :=
  authInterface.extend GatewayCommand GatewayCommand.Result

def executeRealtime : Backend realtimeInterface AuthInput RealtimeStore
  | .inl c, input, s =>
      let (answer, auth) := Auth.execute c input s.auth
      (answer, { s with auth })
  | .inr c, _, s =>
      let (answer, s') := c.answer s
      (.ok answer, s')

abbrev identity (c : Auth.Command) : Program realtimeInterface c.Result :=
  @Program.perform realtimeInterface (.inl c)

abbrev gateway (c : GatewayCommand) : Program realtimeInterface c.Result :=
  @Program.perform realtimeInterface (.inr c)

/-! ## The gateway -/

def tenantRoom (tenantId : Id) : String :=
  "tenant:" ++ tenantId

def userRoom (tenantId userId : Id) : String :=
  "tenant:" ++ tenantId ++ ":user:" ++ userId

/-- `findActiveUserById` -/
def activeUser (userId tenantId : Id) : UserFilter :=
  { id := some userId, tenantId := some tenantId, status := some .active, activeTenant := true }

/-- The guarded part of `handleConnection`. -/
def authenticate (socket : ℕ) (token : String) : Program realtimeInterface Unit := do
  let now ← identity (.external .now)
  let payload ← Program.ofExcept (verifyAccessToken P R token now)
  match ← identity (.query (.findUser (activeUser payload.sub payload.tenantId))) with
  | none => gateway (.disconnect socket)
  | some _ => gateway (.setAuth socket ⟨payload.role, payload.tenantId, payload.sub⟩)

def handleConnection (socket : ℕ) (handshake : Handshake) : Program realtimeInterface Unit := do
  let token ← Program.ofExcept (readSocketToken R handshake)
  match present token with
  | none => gateway (.disconnect socket)
  | some token =>
      Program.tryCatch (authenticate P R socket token) fun _ => gateway (.disconnect socket)

/-- An operator joins the room of the user, everybody else the one of the tenant. -/
def roomFor (auth : AuthenticatedSocketData) : String :=
  if auth.role = .operator then userRoom auth.tenantId auth.userId else tenantRoom auth.tenantId

def joinTenantRoom (socket : ℕ) (tenantId : Option Id) : Program realtimeInterface Bool := do
  match ← gateway (.getAuth socket) with
  | none => pure false
  | some auth =>
      if tenantId.any (· ≠ auth.tenantId) then pure false
      else do
        gateway (.join socket (roomFor auth))
        pure true

inductive RealtimeRequest
  /-- A request of the identity services: an update of the role of a user, for one. -/
  | auth (r : Request)
  | connect (handshake : Handshake)
  | join (socket : ℕ) (tenantId : Option Id)
  | disconnect (socket : ℕ)

inductive RealtimeReply
  | auth (reply : Reply)
  | connected (socket : ℕ)
  | joined (ok : Bool)
  | disconnected

def handleRealtime : RealtimeRequest → Program realtimeInterface RealtimeReply
  | .auth r => RealtimeReply.auth <$> (handle P r).lift
  | .connect handshake => do
      let socket ← gateway .accept
      handleConnection P R socket handshake
      pure (.connected socket)
  | .join socket tenantId => RealtimeReply.joined <$> joinTenantRoom socket tenantId
  | .disconnect socket => do
      gateway (.disconnect socket)
      pure .disconnected

def realtimeSystem :
    System realtimeInterface RealtimeRequest RealtimeReply AuthInput RealtimeStore :=
  ⟨executeRealtime, handleRealtime P R⟩

end Logistics.Realtime
