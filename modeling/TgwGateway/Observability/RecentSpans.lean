import TgwGateway.Common.JsonEscaping
import TgwGateway.Gateway.Http
import TgwGateway.Lib.JsonDocuments
import TgwGateway.Observability.Tracing

/- The finished spans that the tracer still holds, as the debug route shows them. -/
namespace TgwRecentSpans
open ByteStrings DecimalText JsonDocuments TgwStatus TgwHttp TgwTracing

def jsonKV (key value : Bytes) : Bytes := member jsonEscape key (quoted jsonEscape value)

/-- A field whose name the source writes out, and whose value is no string. -/
def plainField (name value : Bytes) : Bytes := member id name value

def spanJson (span : FinishedSpan) : Bytes := objectText [
  jsonKV (bytes "trace_id") span.traceId,
  jsonKV (bytes "span_id") span.spanId,
  jsonKV (bytes "parent_span_id") span.parentSpanId,
  jsonKV (bytes "name") span.name,
  jsonKV (bytes "service_name") span.serviceName,
  jsonKV (bytes "kind") span.kind,
  jsonKV (bytes "path") span.path,
  jsonKV (bytes "upstream") span.upstream,
  plainField (bytes "status") (intText span.status),
  plainField (bytes "start_unix_ms") (natText span.startUnixMs.toNat),
  plainField (bytes "duration_ms") (natText span.durationMs.toNat),
  plainField (bytes "attributes")
    (objectText (span.attributes.toList.map fun attr => jsonKV attr.1 attr.2))]

def renderRecentSpansJson (finishedSpans : List FinishedSpan) : Bytes := objectText [
  plainField (bytes "count") (natText finishedSpans.length),
  plainField (bytes "spans") (arrayText (finishedSpans.map spanJson))]

def buildTraceDebugResponse (tracer : Option TracerState) : HttpResponse :=
  { status := 200
    contentType := bytes "application/json"
    body := (ApiResponse.success (match tracer with
      | none => bytes "\x7b\"count\":0,\"spans\":[]\x7d"
      | some s => renderRecentSpansJson s.finishedSpans)).toJson }

end TgwRecentSpans
