import TgwGateway.Auth.Base64Url
import TgwGateway.Auth.Sha256
import TgwGateway.Common.Clock
import TgwGateway.Common.Config
import TgwGateway.Common.Exceptions
import TgwGateway.Common.Status
import TgwGateway.Lib.ByteSearch

/- TokenService: signed tokens whose claims are found again by a search for their quoted key. -/
namespace TgwTokenService
open ByteStrings ByteSearch DecimalText TgwBase64Url TgwClock TgwConfig TgwExceptions TgwSha256
open TgwStatus
variable {State : Type}

structure TokenRecord where
  userId : Int := 0
  username : Bytes := []
  role : Bytes := []
  issuedAt : Int := 0
  expiresAt : Int := 0
  deriving DecidableEq

def nowUnixSeconds (system : SystemClock) : Int := system.now.toInt.tdiv nanosPerSecond

def dot : UInt8 := 46
def colon : UInt8 := 58

def constantTimeEquals (lhs rhs : Bytes) : Bool :=
  if lhs.length ≠ rhs.length then false
  else (lhs.zipWith (· ^^^ ·) rhs).foldl (· ||| ·) 0 == 0

/-- The scan after the marker: a backslash makes the next byte stand for itself. -/
def scanString : Bool → Bytes → Bytes → Option Bytes
  | _, _, [] => none
  | true, value, c :: rest => scanString false (value ++ [c]) rest
  | false, value, c :: rest =>
    if c = backslash then scanString true value rest
    else if c = quote then some value
    else scanString false (value ++ [c]) rest

def jsonStringValue (json key : Bytes) : Option Bytes :=
  (afterFirst ([quote] ++ key ++ [quote, colon, quote]) json).bind (scanString false [])

def jsonIntValue (json key : Bytes) : Option Int :=
  (afterFirst ([quote] ++ key ++ [quote, colon]) json).bind fun rest =>
    let digits := rest.takeWhile fun c => c == 45 || isDigit c
    if digits = [] then none
    else
      match stoll digits with
      | .ok n => some n
      | .error _ => none

def sign (config : AuthConfig) (header payload : Bytes) : Bytes :=
  base64UrlEncode (hmacSha256 config.jwtSecret (header ++ [dot] ++ payload))

def headerJson : Bytes := bytes "\x7b\"alg\":\"HS256\",\"typ\":\"JWT\"\x7d"

def payloadJson (userId : Int64) (username role requestId : Bytes) (now expiresAt : Int) : Bytes :=
  bytes "\x7b" ++ (bytes "\"sub\":" ++ intText userId.toInt ++ bytes ",") ++
    (bytes "\"username\":\"" ++ jsonEscape username ++ bytes "\",") ++
    (bytes "\"role\":\"" ++ jsonEscape role ++ bytes "\",") ++
    (bytes "\"iat\":" ++ intText now ++ bytes ",") ++
    (bytes "\"exp\":" ++ intText expiresAt ++ bytes ",") ++
    (bytes "\"rid\":\"" ++ jsonEscape requestId ++ bytes "\"") ++ bytes "\x7d"

def signedToken (config : AuthConfig) (payload : Bytes) : Bytes :=
  let header := base64UrlEncode headerJson
  let body := base64UrlEncode payload
  header ++ [dot] ++ body ++ [dot] ++ sign config header body

def issueToken (config : AuthConfig) (userId : Int64) (username role requestId : Bytes)
    (env : Env State) : Bytes × Env State :=
  let now := nowUnixSeconds env.system
  let expiresAt := now + config.tokenTtlSeconds.toInt
  (signedToken config (payloadJson userId username role requestId now expiresAt), env.tickSystem)

def readClaims (payload : Bytes) : Option TokenRecord :=
  let role := jsonStringValue payload (bytes "role")
  match jsonIntValue payload (bytes "sub"), jsonStringValue payload (bytes "username"),
      jsonIntValue payload (bytes "iat"), jsonIntValue payload (bytes "exp") with
  | some userId, some username, some issuedAt, some expiresAt =>
    some ⟨userId, username, role.getD (bytes "user"), issuedAt, expiresAt⟩
  | _, _, _, _ => none

def signedPayload (config : AuthConfig) (token : Bytes) : Option Bytes :=
  match find [dot] token with
  | none => none
  | some firstDot =>
    match findFrom [dot] token (firstDot + 1) with
    | none => none
    | some secondDot =>
      let header := token.take firstDot
      let payload := (token.drop (firstDot + 1)).take (secondDot - firstDot - 1)
      let signature := token.drop (secondDot + 1)
      match base64UrlDecode header with
      | none => none
      | some decodedHeader =>
        if find (bytes "\"alg\":\"HS256\"") decodedHeader = none then none
        else if !constantTimeEquals signature (sign config header payload) then none
        else base64UrlDecode payload

def validateToken (config : AuthConfig) (token : Bytes) (env : Env State) :
    Option TokenRecord × Env State :=
  match (signedPayload config token).bind readClaims with
  | none => (none, env)
  | some claims =>
    if claims.expiresAt ≤ nowUnixSeconds env.system then (none, env.tickSystem)
    else (some claims, env.tickSystem)

end TgwTokenService
