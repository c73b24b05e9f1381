import TgwGateway.Lib.DecimalText

/- Error codes and the JSON envelope of every gateway answer. -/
namespace TgwStatus
open ByteStrings DecimalText

inductive ErrorCode where
  | ok
  | badRequest
  | unauthorized
  | forbidden
  | notFound
  | rateLimited
  | rpcTimeout
  | rpcFailed
  | internalError
  deriving DecidableEq, Repr

def ErrorCode.value : ErrorCode → Int
  | .ok => 0
  | .badRequest => 40000
  | .unauthorized => 40100
  | .forbidden => 40300
  | .notFound => 40400
  | .rateLimited => 42900
  | .rpcTimeout => 50400
  | .rpcFailed => 50500
  | .internalError => 50000

def quote : UInt8 := 34
def backslash : UInt8 := 92

def jsonEscapeByte (c : UInt8) : Bytes :=
  if c = quote then [backslash, quote]
  else if c = backslash then [backslash, backslash]
  else if c = 10 then bytes "\\n"
  else if c = 13 then bytes "\\r"
  else if c = 9 then bytes "\\t"
  else [c]

def jsonEscape (input : Bytes) : Bytes := input.flatMap jsonEscapeByte

structure ApiResponse where
  code : Int := 0
  message : Bytes := bytes "ok"
  dataRawJson : Bytes := bytes "null"
  deriving DecidableEq

def ApiResponse.success (rawJson : Bytes) : ApiResponse :=
  { code := ErrorCode.ok.value
    message := bytes "ok"
    dataRawJson := if rawJson = [] then bytes "null" else rawJson }

def ApiResponse.error (code : ErrorCode) (message : Bytes) : ApiResponse :=
  { code := code.value, message := message, dataRawJson := bytes "null" }

def ApiResponse.toJson (rsp : ApiResponse) : Bytes :=
  bytes "\x7b" ++ bytes "\"code\":" ++ intText rsp.code ++ bytes "," ++
    bytes "\"message\":\"" ++ jsonEscape rsp.message ++ bytes "\"," ++
    bytes "\"data\":" ++ rsp.dataRawJson ++ bytes "\x7d"

end TgwStatus
