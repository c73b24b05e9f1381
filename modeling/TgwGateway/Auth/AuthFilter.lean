import TgwGateway.Auth.TokenService
import TgwGateway.Gateway.Http

/- AuthFilter: public paths, bearer tokens and the role rules. -/
namespace TgwAuthFilter
open ByteStrings TgwClock TgwConfig TgwStatus TgwHttp TgwTokenService
variable {State : Type}

structure AuthResult where
  allowed : Bool := false
  userId : Int := 0
  username : Bytes := []
  role : Bytes := []
  token : Bytes := []
  response : HttpResponse := {}
  deriving DecidableEq

/-- The token service is a pointer that may be null; what it knows is its configuration. -/
structure AuthFilter where
  config : AuthConfig
  rbacRules : List RbacRuleConfig
  tokenService : Option AuthConfig

def toLowerByte (c : UInt8) : UInt8 := if 65 ≤ c ∧ c ≤ 90 then c + 32 else c

def toLower (value : Bytes) : Bytes := value.map toLowerByte

/-- The first header in the order of the map whose name agrees up to case. -/
def findHeader (request : HttpRequest) (key : Bytes) : Bytes :=
  match request.headers.toList.find? fun item => toLower item.1 == toLower key with
  | some item => item.2
  | none => []

def startsWith (value start : Bytes) : Bool := start.isPrefixOf value

def errorResponse (status : Int) (code : ErrorCode) (message requestId : Bytes) : HttpResponse :=
  { status := status
    contentType := bytes "application/json"
    body := (ApiResponse.error code message).toJson
    headers := (∅ : ByteMap Bytes).insert (bytes "X-Request-Id") requestId }

def unauthorized (message requestId : Bytes) : HttpResponse :=
  errorResponse 401 .unauthorized message requestId

def forbidden (message requestId : Bytes) : HttpResponse :=
  errorResponse 403 .forbidden message requestId

def AuthFilter.isPublicPath (filter : AuthFilter) (path : Bytes) : Bool :=
  filter.config.publicPaths.any fun publicPath => path == publicPath

/-- The loop over the rules with the best one so far: a later rule has to be longer. -/
def bestRuleLoop (path : Bytes) : List RbacRuleConfig → Option RbacRuleConfig →
    Option RbacRuleConfig
  | [], best => best
  | rule :: rules, best =>
    if !startsWith path rule.path then bestRuleLoop path rules best
    else if rule.path.length < path.length ∧ path[rule.path.length]? ≠ some 47 then
      bestRuleLoop path rules best
    else
      match best with
      | none => bestRuleLoop path rules (some rule)
      | some held =>
        if held.path.length < rule.path.length then bestRuleLoop path rules (some rule)
        else bestRuleLoop path rules best

def AuthFilter.isRoleAllowed (filter : AuthFilter) (path role : Bytes) : Bool :=
  if !filter.config.rbacEnabled || filter.rbacRules.isEmpty then true
  else
    match bestRuleLoop path filter.rbacRules none with
    | none => true
    | some best => best.roles.contains role

def bearer : Bytes := bytes "Bearer "

def AuthFilter.check (filter : AuthFilter) (request : HttpRequest) (env : Env State) :
    AuthResult × Env State :=
  if !filter.config.enabled || filter.isPublicPath request.path then ({ allowed := true }, env)
  else
    match filter.tokenService with
    | none =>
      ({ response := unauthorized (bytes "auth service unavailable") request.requestId }, env)
    | some service =>
      let authorization := findHeader request (bytes "Authorization")
      if !startsWith authorization bearer then
        ({ response := unauthorized (bytes "missing bearer token") request.requestId }, env)
      else
        let token := authorization.drop bearer.length
        match validateToken service token env with
        | (none, env) =>
          ({ response := unauthorized (bytes "invalid or expired token") request.requestId }, env)
        | (some record, env) =>
          let result : AuthResult :=
            { allowed := true
              userId := record.userId
              username := record.username
              role := record.role
              token := token }
          if !filter.isRoleAllowed request.path result.role then
            ({ result with
               allowed := false
               response := forbidden (bytes "permission denied") request.requestId }, env)
          else (result, env)

end TgwAuthFilter
