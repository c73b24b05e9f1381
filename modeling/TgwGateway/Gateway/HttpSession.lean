import TgwGateway.Auth.AuthFilter
import TgwGateway.Gateway.Http
import TgwGateway.Lib.ByteSearch
import TgwGateway.Lib.DecimalText

/- HttpSession: one connection that is read, answered and kept alive, and the completion handlers
   that its two timers, its socket and the worker pool queue for it. The handlers may run in any
   order; a timer that is cancelled aborts its waits, but it does not take back a handler that is
   queued already. -/
namespace TgwHttpSession
open ByteStrings ByteSearch DecimalText TgwConfig TgwHttp TgwAuthFilter

section messages

structure BeastRequest where
  method : Bytes := []
  target : Bytes := []
  version : Nat := 11
  fields : List (Bytes × Bytes) := []
  keepAlive : Bool := true
  body : Bytes := []
  deriving DecidableEq

structure BeastResponse where
  status : Int
  version : Nat
  fields : List (Bytes × Bytes) := []
  keepAlive : Bool := true
  body : Bytes := []
  deriving DecidableEq

/-- The names of fields are compared without case. -/
def findField (fields : List (Bytes × Bytes)) (name : Bytes) : Option Bytes :=
  (fields.find? fun field => toLower field.1 = toLower name).map Prod.snd

def setField (fields : List (Bytes × Bytes)) (name value : Bytes) : List (Bytes × Bytes) :=
  fields.filter (fun field => toLower field.1 ≠ toLower name) ++ [(name, value)]

def parseTarget (target : Bytes) : Bytes × Bytes :=
  match find (bytes "?") target with
  | none => (target, [])
  | some pos => (target.take pos, target.drop (pos + 1))

def convertBeastRequest (req : BeastRequest) (clientIp requestId : Bytes) : HttpRequest :=
  let (path, query) := parseTarget req.target
  { method := req.method
    path := path
    query := query
    body := req.body
    headers := req.fields.foldl (fun headers field => headers.insert field.1 field.2) ∅
    clientIp := clientIp
    requestId := requestId }

/-- What WriteResponse puts together before it writes. -/
def buildResponse (config : ServerConfig) (request : BeastRequest) (requestId : Bytes)
    (rsp : HttpResponse) : BeastResponse :=
  let fields := setField [] (bytes "Server") (bytes "tgw-gateway")
  let fields := setField fields (bytes "Content-Type") rsp.contentType
  let fields := setField fields (bytes "X-Request-Id") requestId
  let fields := rsp.headers.toList.foldl (fun fields header => setField fields header.1 header.2)
    fields
  { status := rsp.status
    version := request.version
    fields := setField fields (bytes "Content-Length") (natText rsp.body.length)
    keepAlive := config.keepAlive && request.keepAlive
    body := rsp.body }

end messages

section session

inductive Side where
  | read
  | write
  deriving DecidableEq

/-- A read or a write of the session, by its place among all of them. -/
abbrev Operation := Side × Nat

/-- A wait on the timer of one side, armed for one operation of that side. -/
structure Wait where
  guarded : Operation
  afterMs : Int
  deriving DecidableEq

inductive ReadOutcome where
  | request (req : BeastRequest)
  | endOfStream
  | failed
  deriving DecidableEq

/-- The parser takes no body beyond its limit. -/
def ReadOutcome.fits (bodyLimit : Option Nat) : ReadOutcome → Bool
  | .request req => bodyLimit.any fun limit => req.body.length ≤ limit
  | _ => true

inductive Handler where
  | waited (wait : Wait) (expired : Bool)
  | readDone (number : Nat) (outcome : ReadOutcome)
  | writeDone (number : Nat) (succeeded : Bool)
  | writeResponse (rsp : HttpResponse)
  deriving DecidableEq

/-- What happened so far, in order. A timeout is noted with whether it found the socket open. -/
inductive Event where
  | started (op : Operation)
  | completed (op : Operation)
  | failed (op : Operation)
  | timedOut (op : Operation) (closes : Bool)
  deriving DecidableEq

structure HttpSession where
  config : ServerConfig
  socketOpen : Bool := true
  waits : List Wait := []
  underWay : List Operation := []
  posted : Nat := 0
  ready : List Handler := []
  bodyLimit : Option Nat := none
  request : BeastRequest := {}
  response : Option BeastResponse := none
  requestId : Bytes := []
  operations : Nat := 0
  log : List Event := []
  deriving DecidableEq

def note (event : Event) (s : HttpSession) : HttpSession := { s with log := s.log ++ [event] }

/-- `cancel` of the timer of one side; `expires_after` cancels in the same way. -/
def cancel (side : Side) (s : HttpSession) : HttpSession :=
  { s with
    waits := s.waits.filter fun wait => wait.guarded.1 ≠ side
    ready := s.ready ++
      (s.waits.filter fun wait => wait.guarded.1 = side).map fun wait => .waited wait false }

/-- The timer of a side is armed and the operation that it guards is started. -/
def startGuarded (side : Side) (afterMs : Int) (s : HttpSession) : HttpSession :=
  let s := cancel side s
  let op := (side, s.operations + 1)
  note (.started op)
    { s with
      waits := s.waits ++ [⟨op, afterMs⟩]
      underWay := s.underWay ++ [op]
      operations := s.operations + 1 }

def close (s : HttpSession) : HttpSession :=
  { cancel .write (cancel .read s) with socketOpen := false }

def readRequest (s : HttpSession) : HttpSession :=
  startGuarded .read s.config.readTimeoutMs { s with bodyLimit := some s.config.bodyLimitBytes }

def dispatchRequest (s : HttpSession) : HttpSession := { s with posted := s.posted + 1 }

def writeResponse (rsp : HttpResponse) (s : HttpSession) : HttpSession :=
  startGuarded .write s.config.writeTimeoutMs
    { s with response := some (buildResponse s.config s.request s.requestId rsp) }

def onWait (wait : Wait) (expired : Bool) (s : HttpSession) : HttpSession :=
  if expired then close (note (.timedOut wait.guarded s.socketOpen) s) else s

def onRead (number : Nat) (outcome : ReadOutcome) (s : HttpSession) : HttpSession :=
  let s := cancel .read s
  match outcome with
  | .request req =>
    dispatchRequest
      (note (.completed (.read, number)) { s with request := req, bodyLimit := none })
  | .endOfStream | .failed => note (.failed (.read, number)) (close s)

def onWrite (number : Nat) (succeeded : Bool) (s : HttpSession) : HttpSession :=
  let s := cancel .write s
  if succeeded then
    let keepAlive := s.response.any BeastResponse.keepAlive
    let s := note (.completed (.write, number))
      { s with response := none, request := {}, requestId := [] }
    if keepAlive then readRequest s else close s
  else note (.failed (.write, number)) (close s)

def runHandler : Handler → HttpSession → HttpSession
  | .waited wait expired, s => onWait wait expired s
  | .readDone number outcome, s => onRead number outcome s
  | .writeDone number succeeded, s => onWrite number succeeded s
  | .writeResponse rsp, s => writeResponse rsp s

/-- The job of the worker pool. The router answers as it stands when the job calls it. -/
def runJob (generatedId : Bytes) (endpoint : Option Bytes) (dispatch : HttpRequest → HttpResponse)
    (s : HttpSession) : HttpSession :=
  let requestId := (findField s.request.fields (bytes "X-Request-Id")).getD generatedId
  let clientIp := endpoint.getD (bytes "unknown")
  let rsp := dispatch (convertBeastRequest s.request clientIp requestId)
  { s with
    posted := s.posted - 1
    requestId := requestId
    ready := s.ready ++ [.writeResponse rsp] }

def start (config : ServerConfig) : HttpSession := readRequest { config := config }

end session

section runs

/-- What may happen next. Time and the peer are free: an armed wait may expire and an operation may
    end at any moment and in any way, and any queued handler may be the next to run. -/
inductive Action where
  | expire (wait : Wait)
  | readEnds (number : Nat) (outcome : ReadOutcome)
  | writeEnds (number : Nat) (succeeded : Bool)
  | work (generatedId : Bytes) (endpoint : Option Bytes) (dispatch : HttpRequest → HttpResponse)
  | run (handler : Handler)

def step (s : HttpSession) : Action → Option HttpSession
  | .expire wait =>
    if wait ∈ s.waits then
      some { s with waits := s.waits.erase wait, ready := s.ready ++ [.waited wait true] }
    else none
  | .readEnds number outcome =>
    if (.read, number) ∈ s.underWay ∧ outcome.fits s.bodyLimit then
      some { s with
        underWay := s.underWay.erase (.read, number)
        ready := s.ready ++ [.readDone number outcome] }
    else none
  | .writeEnds number succeeded =>
    if (.write, number) ∈ s.underWay then
      some { s with
        underWay := s.underWay.erase (.write, number)
        ready := s.ready ++ [.writeDone number succeeded] }
    else none
  | .work generatedId endpoint dispatch =>
    if 0 < s.posted then some (runJob generatedId endpoint dispatch s) else none
  | .run handler =>
    if handler ∈ s.ready then some (runHandler handler { s with ready := s.ready.erase handler })
    else none

def runActions (s : HttpSession) (actions : List Action) : Option HttpSession :=
  actions.foldlM step s

end runs

end TgwHttpSession
