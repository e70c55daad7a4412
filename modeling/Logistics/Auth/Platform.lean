import Mathlib.Data.BitVec
import Logistics.Auth.Schema
import Logistics.Library.Text

/-!
# Tokens, passwords and one-time codes

The pure part of the token, password and MFA services. The primitives of the
runtime (hashes, the cipher, encodings, letter case) are a parameter; what the
services build from them is written out: the duration syntax, the stored form of
a password, the Base32 secret and the six digits of a time step.
-/

namespace Logistics.Auth

open Logistics.Library

structure AppConfig where
  jwtAccessSecret : String
  jwtRefreshSecret : String
  jwtAccessExpiresIn : String
  jwtRefreshExpiresIn : String
  totpIssuer : String
  webPublicUrl : String
  apiPublicUrl : String
  production : Bool
  googleClient : Option (String × String)
  githubClient : Option (String × String)

structure AccessPayload where
  email : String
  exp : Int
  iat : Int
  role : UserRole
  sub : Id
  tenantId : Id

/-- The runtime the services stand on. -/
structure Platform where
  config : AppConfig
  base64url : List UInt8 → String
  fromBase64url : String → List UInt8
  hex : List UInt8 → String
  /-- `createHmac('sha256', secret).update(text).digest('hex')` -/
  hmacSha256 : String → String → String
  hmacSha1 : List UInt8 → List UInt8 → List UInt8
  /-- The JSON payload, encoded and signed with the secret. -/
  signJwt : String → AccessPayload → String
  scrypt : String → String → ℕ → List UInt8
  /-- Tag and text encrypted under the secret and the initialization vector. -/
  encipher : String → List UInt8 → String → List UInt8 × List UInt8
  decipher : String → List UInt8 → List UInt8 → List UInt8 → Option String
  toLowerCase : String → String
  toUpperCase : String → String
  /-- `normalize('NFD')` -/
  normalizeNFD : String → String
  encodeURIComponent : String → String
  urlSearchParams : List (String × String) → String
  qrCodeDataUrl : String → String

variable (P : Platform)

/-! ## Tokens -/

def hashOpaqueToken (token : String) : String :=
  P.hmacSha256 P.config.jwtRefreshSecret token

def hashRefreshToken (token : String) : String :=
  P.hmacSha256 P.config.jwtRefreshSecret token

/-- The text, unless it is empty: how the services test a text for its truth. -/
def present (text : Option String) : Option String :=
  text.filter fun text => text != ""

def hashMetadata (value : Option String) : Option String :=
  (present value).map (P.hmacSha256 P.config.jwtRefreshSecret)

def secondsOfUnit : Char → Option ℕ
  | 's' => some 1
  | 'm' => some 60
  | 'h' => some (60 * 60)
  | 'd' => some (24 * 60 * 60)
  | _ => none

def digitsToNat (digits : List Char) : ℕ :=
  digits.foldl (fun n digit => n * 10 + (digit.toNat - '0'.toNat)) 0

/-- `/^(\d+)([smhd])$/` -/
def parseDurationToSeconds (value : String) : Option ℕ :=
  match value.toList.reverse with
  | unit :: digits =>
      if digits ≠ [] ∧ digits.all Char.isDigit then
        (secondsOfUnit unit).map fun seconds => digitsToNat digits.reverse * seconds
      else none
  | [] => none

structure TenantView where
  id : Id
  name : String
  slug : String
  deriving DecidableEq

structure AuthenticatedUser where
  email : String
  id : Id
  name : String
  role : UserRole
  tenant : TenantView
  branchId : Option Id
  deriving DecidableEq

def presentUser (user : User) (tenant : Tenant) : AuthenticatedUser where
  email := user.email
  id := user.id
  name := user.name
  role := user.role
  tenant := ⟨tenant.id, tenant.name, tenant.slug⟩
  branchId := user.branchId

structure AccessToken where
  expiresAt : Time
  token : String
  deriving DecidableEq

/-- An invalid duration in the configuration fails the call. -/
def createAccessToken (user : AuthenticatedUser) (now : Time) :
    Except ServiceError AccessToken :=
  match parseDurationToSeconds P.config.jwtAccessExpiresIn with
  | none => .error .fault
  | some seconds =>
      let iat := now / 1000
      let exp := iat + seconds
      .ok ⟨exp * 1000, P.signJwt P.config.jwtAccessSecret
        ⟨user.email, exp, iat, user.role, user.id, user.tenant.id⟩⟩

/-! ## Passwords -/

/-- The stored form of a password hashed with this salt. -/
def hashPassword (salt : List UInt8) (password : String) : String :=
  let salt := P.base64url salt
  "scrypt$" ++ salt ++ "$" ++ P.base64url (P.scrypt password salt 64)

def verifyPassword (password storedHash : String) : Bool :=
  match split storedHash '$' with
  | format :: salt :: encodedKey :: _ =>
      if format ≠ "scrypt" ∨ salt = "" ∨ encodedKey = "" then false
      else
        let storedKey := P.fromBase64url encodedKey
        P.scrypt password salt storedKey.length == storedKey
  | _ => false

def hasLowercase (text : String) : Bool :=
  text.toList.any fun c => 'a' ≤ c ∧ c ≤ 'z'

def hasUppercase (text : String) : Bool :=
  text.toList.any fun c => 'A' ≤ c ∧ c ≤ 'Z'

def hasDigit (text : String) : Bool :=
  text.toList.any Char.isDigit

def hasSpecial (text : String) : Bool :=
  text.toList.any fun c => ¬(('a' ≤ c ∧ c ≤ 'z') ∨ ('A' ≤ c ∧ c ≤ 'Z') ∨ c.isDigit)

def assertStrongPassword (password confirmation : String) : Except ServiceError Unit :=
  if password ≠ confirmation then
    .error (.badRequest "Password confirmation does not match.")
  else if utf16Length password < 10 ∨ !hasLowercase password ∨ !hasUppercase password ∨
      !hasDigit password ∨ !hasSpecial password then
    .error (.badRequest "Password must have uppercase, lowercase, number and special character.")
  else .ok ()

/-! ## One-time codes -/

def base32Alphabet : List Char := "ABCDEFGHIJKLMNOPQRSTUVWXYZ234567".toList

def base32Char (index : BitVec 32) : Char :=
  base32Alphabet.getD (index &&& 31).toNat 'A'

/-- Emit the leading groups of five of the low `bits` bits. -/
def drainBase32 (value : BitVec 32) : ℕ → List Char × ℕ
  | bits + 5 =>
      let (rest, left) := drainBase32 value bits
      (base32Char (value >>> bits) :: rest, left)
  | bits => ([], bits)

structure Base32State where
  output : List Char
  bits : ℕ
  value : BitVec 32

def pushByte (state : Base32State) (byte : UInt8) : Base32State :=
  let value := (state.value <<< 8) ||| byte.toBitVec.setWidth 32
  let (chars, bits) := drainBase32 value (state.bits + 8)
  ⟨state.output ++ chars, bits, value⟩

def generateSecret (bytes : List UInt8) : String :=
  let final := bytes.foldl pushByte ⟨[], 0, 0⟩
  String.ofList (final.output ++
    if final.bits > 0 then [base32Char (final.value <<< (5 - final.bits))] else [])

structure DecodeState where
  bits : ℕ
  current : BitVec 32
  bytes : List UInt8

def decodeBase32Char (state : DecodeState) (c : Char) : DecodeState :=
  match base32Alphabet.findIdx? (· == c) with
  | none => state
  | some index =>
      let current := (state.current <<< 5) ||| BitVec.ofNat 32 index
      let bits := state.bits + 5
      if bits ≥ 8 then
        ⟨bits - 8, current,
          state.bytes ++ [UInt8.ofBitVec ((current >>> (bits - 8)).setWidth 8)]⟩
      else ⟨bits, current, state.bytes⟩

def decodeBase32 (value : String) : List UInt8 :=
  let trimmed := String.ofList (value.toList.rdropWhile (· == '='))
  ((P.toUpperCase trimmed).toList.foldl decodeBase32Char ⟨0, 0, []⟩).bytes

def counterBytes (counter : ℕ) : List UInt8 :=
  (List.range 8).map fun i => UInt8.ofNat (counter / 256 ^ (7 - i))

def padStart (length : ℕ) (text : String) : String :=
  String.ofList (List.replicate (length - text.length) '0') ++ text

/-- The code of one time step. A digest too short to be read gives zeros. -/
def generateTotp (secret : String) (counter : ℕ) : String :=
  let digest := P.hmacSha1 (decodeBase32 P secret) (counterBytes counter)
  match digest.getLast? with
  | none => "000000"
  | some lastByte =>
      let offset := lastByte.toNat % 16
      match digest[offset]?, digest[offset + 1]?, digest[offset + 2]?, digest[offset + 3]? with
      | some b0, some b1, some b2, some b3 =>
          let binary := b0.toNat % 128 * 2 ^ 24 + b1.toNat * 2 ^ 16 + b2.toNat * 2 ^ 8 + b3.toNat
          padStart 6 (toString (binary % 1000000))
      | _, _, _, _ => "000000"

def removeWhiteSpace (text : String) : String :=
  String.ofList (text.toList.filter fun c => !isWhiteSpace c)

/-- The code of the current time step, the one before or the one after. -/
def verifyCode (secret code : String) (now : Time) : Bool :=
  let normalized := P.toUpperCase (removeWhiteSpace code)
  let timeStep := now / 30000
  [-1, 0, 1].any fun offset => normalized == generateTotp P secret (timeStep + offset).toNat

def otpauthUrl (accountName secret : String) : String :=
  let label := P.encodeURIComponent (P.config.totpIssuer ++ ":" ++ accountName)
  let issuer := P.encodeURIComponent P.config.totpIssuer
  "otpauth://totp/" ++ label ++ "?secret=" ++ secret ++ "&issuer=" ++ issuer ++
    "&algorithm=SHA1&digits=6&period=30"

/-- A recovery code made of eight random bytes. -/
def recoveryCode (bytes : List UInt8) : String :=
  P.toUpperCase (P.hex (bytes.take 4)) ++ "-" ++ P.toUpperCase (P.hex (bytes.drop 4))

def generateRecoveryCodes (bytes : List UInt8) : List String :=
  (List.range 10).map fun i => recoveryCode P ((bytes.drop (8 * i)).take 8)

/-! ## The stored secret -/

theorem append_dot_ne_empty (before after : String) : before ++ "." ++ after ≠ "" := by
  intro h
  have hlength := congrArg String.length h
  simp only [String.length_append] at hlength
  have hdot : ".".length = 1 := rfl
  have hempty : "".length = 0 := rfl
  omega

/-- `iv.tag.encrypted` -/
def encrypt (iv : List UInt8) (value : String) : SealedSecret :=
  let (tag, encrypted) := P.encipher P.config.jwtRefreshSecret iv value
  ⟨P.base64url iv ++ "." ++ (P.base64url tag ++ "." ++ P.base64url encrypted),
    append_dot_ne_empty _ _⟩

def decrypt (value : SealedSecret) : Except ServiceError String :=
  match split value.text '.' with
  | iv :: tag :: encrypted :: _ =>
      if iv = "" ∨ tag = "" ∨ encrypted = "" then
        .error (.badRequest "MFA secret is invalid.")
      else
        match P.decipher P.config.jwtRefreshSecret (P.fromBase64url iv) (P.fromBase64url tag)
          (P.fromBase64url encrypted) with
        | some text => .ok text
        | none => .error .fault
  | _ => .error (.badRequest "MFA secret is invalid.")

/-! ## Texts -/

def normalizeEmail (email : String) : String :=
  P.toLowerCase (trim email)

def maskEmail (email : String) : String :=
  match split email '@' with
  | name :: domain :: _ =>
      if name = "" ∨ domain = "" then "usuario autenticado"
      else String.ofList (name.toList.take 2) ++ "***@" ++ domain
  | _ => "usuario autenticado"

/-- A run of characters outside `a-z0-9` becomes one dash. -/
def dashRuns : List Char → List Char
  | [] => []
  | c :: rest =>
      if ('a' ≤ c ∧ c ≤ 'z') ∨ c.isDigit then c :: dashRuns rest
      else
        match dashRuns rest with
        | '-' :: others => '-' :: others
        | others => '-' :: others

def slugBase (value : String) : List Char :=
  let plain := (P.normalizeNFD value).toList.filter fun c =>
    ¬(0x300 ≤ c.toNat ∧ c.toNat ≤ 0x36F)
  let dashed := dashRuns (P.toLowerCase (String.ofList plain)).toList
  ((dashed.dropWhile (· == '-')).rdropWhile (· == '-')).take 70

def providerPath : OAuthProvider → String
  | .google => "google"
  | .github => "github"

def callbackUrl (provider : OAuthProvider) : String :=
  P.config.apiPublicUrl ++ "/auth/oauth/" ++ providerPath provider ++ "/callback"

def authorizationUrl (provider : OAuthProvider) (state : String) : Except ServiceError String :=
  match provider with
  | .google =>
      match P.config.googleClient with
      | none => .error (.serviceUnavailable "Google OAuth is not configured.")
      | some (clientId, _) =>
          .ok ("https://accounts.google.com/o/oauth2/v2/auth?" ++ P.urlSearchParams
            [("client_id", clientId), ("redirect_uri", callbackUrl P provider),
              ("response_type", "code"), ("scope", "openid email profile"), ("state", state)])
  | .github =>
      match P.config.githubClient with
      | none => .error (.serviceUnavailable "GitHub OAuth is not configured.")
      | some (clientId, _) =>
          .ok ("https://github.com/login/oauth/authorize?" ++ P.urlSearchParams
            [("client_id", clientId), ("redirect_uri", callbackUrl P provider),
              ("scope", "read:user user:email"), ("state", state)])

/-! ## A plain runtime -/

def bytesText (bytes : List UInt8) : String :=
  String.ofList (bytes.map fun byte => Char.ofNat byte.toNat)

/-- A runtime whose primitives keep texts and bytes readable, on which programs
can be computed. -/
def plainPlatform : Platform where
  config := ⟨"access", "refresh", "15m", "30d", "Logistics", "https://web", "https://api", true,
    some ("google", "secret"), some ("github", "secret")⟩
  base64url := bytesText
  fromBase64url text := text.toList.map fun c => UInt8.ofNat c.toNat
  hex := bytesText
  hmacSha256 _ text := text
  hmacSha1 secret counter := secret ++ counter
  signJwt _ payload := payload.sub
  scrypt password _ length := (password.toList.map fun c => UInt8.ofNat c.toNat).take length
  encipher _ _ text := ([1], text.toList.map fun c => UInt8.ofNat c.toNat)
  decipher _ _ _ bytes := some (bytesText bytes)
  toLowerCase := id
  toUpperCase := id
  normalizeNFD := id
  encodeURIComponent := id
  urlSearchParams params := String.join (params.map fun param => param.1 ++ "=" ++ param.2)
  qrCodeDataUrl := id

end Logistics.Auth
