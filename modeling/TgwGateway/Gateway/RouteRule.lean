import TgwGateway.Common.Config

/- Prefix routes. The manager keeps its routes in the order std::sort left them in, which the
   comparison fixes only up to the order of equally long paths. -/
namespace TgwRouteRule
open ByteStrings TgwConfig

structure RouteMatchResult where
  route : RouteConfig := {}
  originalPath : Bytes := []
  upstreamPath : Bytes := []
  deriving DecidableEq

structure RouteRuleManager where
  routes : List RouteConfig
  longestFirst : routes.Pairwise fun lhs rhs => rhs.path.length ≤ lhs.path.length

def slash : UInt8 := 47

def isPrefixMatch (rulePath requestPath : Bytes) : Bool :=
  if rulePath = [] then false
  else if requestPath.length < rulePath.length then false
  else if requestPath.take rulePath.length ≠ rulePath then false
  else if requestPath.length = rulePath.length then true
  else requestPath[rulePath.length]? == some slash

def buildUpstreamPath (rulePath requestPath : Bytes) (stripRoutePrefix : Bool) : Bytes :=
  if !stripRoutePrefix then requestPath
  else if requestPath.length = rulePath.length then [slash]
  else
    let stripped := requestPath.drop rulePath.length
    if stripped = [] then [slash]
    else if stripped.head? ≠ some slash then slash :: stripped
    else stripped

def RouteRuleManager.matchPath (manager : RouteRuleManager) (requestPath : Bytes) :
    Option RouteMatchResult :=
  (manager.routes.find? fun route =>
    route.matchType == bytes "prefix" && isPrefixMatch route.path requestPath).map fun route =>
      { route := route
        originalPath := requestPath
        upstreamPath := buildUpstreamPath route.path requestPath route.stripRoutePrefix }

end TgwRouteRule
