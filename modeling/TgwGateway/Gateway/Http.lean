import TgwGateway.Common.Clock

/- Requests and responses as the gateway passes them on, and the context of one forwarded call. -/
namespace TgwHttp
open ByteStrings TgwClock

structure HttpRequest where
  method : Bytes := []
  path : Bytes := []
  query : Bytes := []
  body : Bytes := []
  headers : ByteMap Bytes := ∅
  clientIp : Bytes := []
  requestId : Bytes := []
  deriving DecidableEq

structure HttpResponse where
  status : Int := 200
  contentType : Bytes := bytes "application/json"
  body : Bytes := []
  headers : ByteMap Bytes := ∅
  deriving DecidableEq

def HttpResponse.setHeader (rsp : HttpResponse) (key value : Bytes) : HttpResponse :=
  { rsp with headers := rsp.headers.insert key value }

@[simp] theorem setHeader_status (rsp : HttpResponse) (key value : Bytes) :
    (rsp.setHeader key value).status = rsp.status := rfl

structure ForwardContext where
  requestId : Bytes := []
  upstream : Bytes := []
  upstreamPath : Bytes := []
  method : Bytes := []
  query : Bytes := []
  body : Bytes := []
  timeoutMs : Int := 1000
  deadline : Option DeadlineContext := none
  headers : ByteMap Bytes := ∅
  deriving DecidableEq

end TgwHttp
