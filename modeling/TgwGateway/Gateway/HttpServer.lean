import TgwGateway.Gateway.SessionFlow
import Mathlib.Data.List.TakeWhile
import Mathlib.Data.UInt

/- HttpServer: one acceptor, the sessions of the connections it has accepted, and the counter that
   the jobs of all sessions share. The io threads and the worker threads take steps in any order. -/
namespace TgwHttpServer
open ByteStrings DecimalText TgwConfig TgwHttp TgwHttpSession TgwSessionFlow

section server

structure HttpServer where
  config : ServerConfig
  acceptorOpen : Bool := true
  accepting : Nat := 0
  stopped : Bool := false
  requestSeq : UInt64 := 0
  sessions : List HttpSession := []

def requestIdText (now : Int) (seq : UInt64) : Bytes :=
  bytes "tgw-" ++ intText now ++ bytes "-" ++ natText seq.toNat

def generateRequestId (now : Int) (s : HttpServer) : Bytes × HttpServer :=
  (requestIdText now s.requestSeq, { s with requestSeq := s.requestSeq + 1 })

def doAccept (s : HttpServer) : HttpServer := { s with accepting := s.accepting + 1 }

def onAccept (failed : Bool) (s : HttpServer) : HttpServer :=
  let s := if failed then s
    else { s with sessions := s.sessions ++ [TgwHttpSession.start s.config] }
  if s.acceptorOpen then doAccept s else s

def start (config : ServerConfig) : HttpServer := doAccept { config := config }

inductive ServerAction where
  | accepted (failed : Bool)
  | signal
  | work (index : Nat) (now : Int) (endpoint : Option Bytes)
    (dispatch : HttpRequest → HttpResponse)
  | session (index : Nat) (action : Action)

def isWork : Action → Bool
  | .work _ _ _ => true
  | _ => false

/-- The io context runs no handler once it is stopped; the worker pool goes on. -/
def serverStep (s : HttpServer) : ServerAction → Option HttpServer
  | .accepted failed =>
    if 0 < s.accepting ∧ s.stopped = false then
      some (onAccept failed { s with accepting := s.accepting - 1 })
    else none
  | .signal =>
    if s.stopped = false then some { s with acceptorOpen := false, stopped := true } else none
  | .work index now endpoint dispatch => do
    let session ← s.sessions[index]?
    let (generatedId, s) := generateRequestId now s
    let next ← step session (.work generatedId endpoint dispatch)
    some { s with sessions := s.sessions.set index next }
  | .session index action =>
    if isWork action = false ∧ s.stopped = false then do
      let session ← s.sessions[index]?
      let next ← step session action
      some { s with sessions := s.sessions.set index next }
    else none

def runServer (s : HttpServer) (actions : List ServerAction) : Option HttpServer :=
  actions.foldlM serverStep s

/-- What one session sees of a step of the server. -/
def seenBy (index : Nat) (s : HttpServer) : ServerAction → Option Action
  | .work i now endpoint dispatch =>
    if i = index then some (.work (generateRequestId now s).1 endpoint dispatch) else none
  | .session i action => if i = index then some action else none
  | _ => none

def sessionActions (index : Nat) : HttpServer → List ServerAction → List Action
  | _, [] => []
  | s, action :: actions => (seenBy index s action).toList ++
      match serverStep s action with
      | some next => sessionActions index next actions
      | none => []

def issuedBy (s : HttpServer) : ServerAction → Option (Nat × Bytes)
  | .work index now _ _ => some (index, (generateRequestId now s).1)
  | _ => none

def issued : HttpServer → List ServerAction → List (Nat × Bytes)
  | _, [] => []
  | s, action :: actions => (issuedBy s action).toList ++
      match serverStep s action with
      | some next => issued next actions
      | none => []

def workId : Action → Option Bytes
  | .work generatedId _ _ => some generatedId
  | _ => none

end server

section sessions
variable {s t : HttpServer}

theorem onAccept_sessions (failed : Bool) (s : HttpServer) :
    (onAccept failed s).sessions =
      if failed then s.sessions else s.sessions ++ [TgwHttpSession.start s.config] := by
  cases failed <;> simp only [onAccept, Bool.false_eq_true, if_true, if_false] <;> split <;> rfl

theorem onAccept_config (failed : Bool) (s : HttpServer) :
    (onAccept failed s).config = s.config := by
  cases failed <;> simp only [onAccept, Bool.false_eq_true, if_true, if_false] <;> split <;> rfl

/-- A step of the server with a session is the session's own step, and no other session notices. -/
structure Own (s t : HttpServer) (action : ServerAction) : Prop where
  config : t.config = s.config
  kept : ∀ index session, s.sessions[index]? = some session →
    ∃ next, t.sessions[index]? = some next ∧
      runActions session (seenBy index s action).toList = some next
  fresh : ∀ index, s.sessions[index]? = none → seenBy index s action = none ∧
    ∀ next, t.sessions[index]? = some next → next = TgwHttpSession.start s.config

theorem Own.unseen {action : ServerAction} (config : t.config = s.config)
    (same : t.sessions = s.sessions) (unseen : ∀ index, seenBy index s action = none) :
    Own s t action where
  config := config
  kept index session here := ⟨session, same ▸ here, by rw [unseen]; rfl⟩
  fresh index none := ⟨unseen index, fun next here => by
    rw [same, none] at here
    cases here⟩

theorem Own.moved {action : ServerAction} {index : Nat} {own : Action}
    {session next : HttpSession} (config : t.config = s.config)
    (here : s.sessions[index]? = some session) (stepped : step session own = some next)
    (sessions : t.sessions = s.sessions.set index next)
    (seen : ∀ other, seenBy other s action = if index = other then some own else none) :
    Own s t action where
  config := config
  kept other before there := by
    rw [sessions, seen, List.getElem?_set]
    by_cases same : index = other
    · subst same
      rw [here] at there
      obtain rfl := Option.some.inj there
      have inside := (List.getElem?_eq_some_iff.mp here).1
      refine ⟨next, by rw [if_pos rfl, if_pos inside], ?_⟩
      simp [runActions, stepped]
    · refine ⟨before, by rw [if_neg same, there], ?_⟩
      rw [if_neg same]
      rfl
  fresh other none := by
    have apart : index ≠ other := by
      rintro rfl
      rw [here] at none
      cases none
    refine ⟨by rw [seen, if_neg apart], fun new there => ?_⟩
    rw [sessions, List.getElem?_set_ne apart, none] at there
    cases there

theorem own_step {action : ServerAction} (stepped : serverStep s action = some t) :
    Own s t action := by
  cases action with
  | accepted failed =>
    obtain ⟨_, same⟩ := Option.ite_none_right_eq_some.mp stepped
    obtain rfl := Option.some.inj same
    cases failed with
    | true => exact .unseen (onAccept_config _ _) (onAccept_sessions _ _) fun _ => rfl
    | false =>
      refine ⟨onAccept_config _ _, ?_, ?_⟩
      · intro index session here
        refine ⟨session, ?_, rfl⟩
        rw [onAccept_sessions]
        exact (List.getElem?_append_left (List.getElem?_eq_some_iff.mp here).1).trans here
      · intro index none
        refine ⟨rfl, fun next there => ?_⟩
        rw [onAccept_sessions] at there
        simp only [Bool.false_eq_true, if_false] at there
        rw [List.getElem?_append_right (List.getElem?_eq_none_iff.mp none)] at there
        rw [List.getElem?_singleton] at there
        split at there
        · exact (Option.some.inj there).symm
        · cases there
  | signal =>
    obtain ⟨_, same⟩ := Option.ite_none_right_eq_some.mp stepped
    obtain rfl := Option.some.inj same
    exact .unseen rfl rfl fun _ => rfl
  | work index now endpoint dispatch =>
    obtain ⟨session, here, rest⟩ := Option.bind_eq_some_iff.mp stepped
    obtain ⟨next, moved, same⟩ := Option.bind_eq_some_iff.mp rest
    obtain rfl := Option.some.inj same
    exact .moved rfl here moved rfl fun other => rfl
  | session index action =>
    obtain ⟨_, rest⟩ := Option.ite_none_right_eq_some.mp stepped
    obtain ⟨session, here, rest⟩ := Option.bind_eq_some_iff.mp rest
    obtain ⟨next, moved, same⟩ := Option.bind_eq_some_iff.mp rest
    obtain rfl := Option.some.inj same
    exact .moved rfl here moved rfl fun other => rfl

theorem runActions_append {session next final : HttpSession} {first second : List Action}
    (ran : runActions session first = some next) (went_on : runActions next second = some final) :
    runActions session (first ++ second) = some final := by
  rw [runActions, List.foldlM_append]
  exact Option.bind_eq_some_iff.mpr ⟨next, ran, went_on⟩

theorem sessions_go_on {actions : List ServerAction} (ran : runServer s actions = some t)
    {index : Nat} {session : HttpSession} (here : s.sessions[index]? = some session) :
    ∃ final, t.sessions[index]? = some final ∧
      runActions session (sessionActions index s actions) = some final := by
  induction actions generalizing s session with
  | nil =>
    obtain rfl := Option.some.inj ran
    exact ⟨session, here, rfl⟩
  | cons action actions ih =>
    rw [runServer, List.foldlM_cons] at ran
    obtain ⟨next, stepped, rest⟩ := Option.bind_eq_some_iff.mp ran
    obtain ⟨moved, there, first⟩ := (own_step stepped).kept index session here
    obtain ⟨final, reached, second⟩ := ih rest there
    refine ⟨final, reached, ?_⟩
    rw [sessionActions, stepped]
    exact runActions_append first second

/-- A session that comes in a run starts at its accept and sees nothing before. -/
theorem sessions_start {actions : List ServerAction} (ran : runServer s actions = some t)
    {index : Nat} {final : HttpSession} (none : s.sessions[index]? = none)
    (reached : t.sessions[index]? = some final) :
    runActions (TgwHttpSession.start s.config) (sessionActions index s actions) = some final := by
  induction actions generalizing s with
  | nil =>
    obtain rfl := Option.some.inj ran
    rw [none] at reached
    cases reached
  | cons action actions ih =>
    rw [runServer, List.foldlM_cons] at ran
    obtain ⟨next, stepped, rest⟩ := Option.bind_eq_some_iff.mp ran
    have own := own_step stepped
    obtain ⟨unseen, fresh⟩ := own.fresh index none
    rw [sessionActions, stepped, unseen]
    cases there : next.sessions[index]? with
    | none =>
      rw [← own.config]
      exact ih rest there
    | some session =>
      obtain rfl := fresh session there
      obtain ⟨last, same, went_on⟩ := sessions_go_on rest there
      rw [reached] at same
      obtain rfl := Option.some.inj same
      exact went_on

end sessions

section accepting
variable {s t : HttpServer}

/-- Until the signal exactly one accept waits, whatever became of those before it. -/
structure Listening (s : HttpServer) : Prop where
  one : s.stopped = false → s.accepting = 1
  opened : s.stopped = false → s.acceptorOpen = true

theorem Listening.after_step (listening : Listening s) {action : ServerAction}
    (stepped : serverStep s action = some t) : Listening t := by
  cases action with
  | accepted failed =>
    obtain ⟨⟨_, live⟩, same⟩ := Option.ite_none_right_eq_some.mp stepped
    obtain rfl := Option.some.inj same
    have one := listening.one live
    have opened := listening.opened live
    cases failed <;>
      exact ⟨fun _ => by simp [onAccept, opened, doAccept, one],
        fun _ => by simp [onAccept, opened, doAccept]⟩
  | signal =>
    obtain ⟨_, same⟩ := Option.ite_none_right_eq_some.mp stepped
    obtain rfl := Option.some.inj same
    exact ⟨fun live => (nomatch live), fun live => (nomatch live)⟩
  | work index now endpoint dispatch =>
    obtain ⟨session, _, rest⟩ := Option.bind_eq_some_iff.mp stepped
    obtain ⟨next, _, same⟩ := Option.bind_eq_some_iff.mp rest
    obtain rfl := Option.some.inj same
    exact ⟨listening.one, listening.opened⟩
  | session index action =>
    obtain ⟨_, rest⟩ := Option.ite_none_right_eq_some.mp stepped
    obtain ⟨session, _, rest⟩ := Option.bind_eq_some_iff.mp rest
    obtain ⟨next, _, same⟩ := Option.bind_eq_some_iff.mp rest
    obtain rfl := Option.some.inj same
    exact ⟨listening.one, listening.opened⟩

theorem Listening.after_run (listening : Listening s) {actions : List ServerAction}
    (ran : runServer s actions = some t) : Listening t := by
  induction actions generalizing s with
  | nil =>
    obtain rfl := Option.some.inj ran
    exact listening
  | cons action actions ih =>
    rw [runServer, List.foldlM_cons] at ran
    obtain ⟨next, stepped, rest⟩ := Option.bind_eq_some_iff.mp ran
    exact ih (listening.after_step stepped) rest

theorem listening_start (config : ServerConfig) : Listening (start config) :=
  ⟨fun _ => rfl, fun _ => rfl⟩

end accepting

section ids
variable {s t : HttpServer}

theorem requestIdText_injective {now now' : Int} {seq seq' : UInt64}
    (same : requestIdText now seq = requestIdText now' seq') : seq = seq' := by
  have tail : ∀ (now : Int) (seq : UInt64),
      (requestIdText now seq).reverse.takeWhile isDigit = (natText seq.toNat).reverse := by
    intro now seq
    rw [requestIdText, List.reverse_append, List.takeWhile_append_of_pos]
    · have dash : bytes "-" = [45] := by decide
      have stop : (bytes "tgw-" ++ intText now ++ bytes "-").reverse =
          45 :: (bytes "tgw-" ++ intText now).reverse := by
        rw [dash, List.reverse_append, List.reverse_singleton, List.singleton_append]
      rw [stop, List.takeWhile_cons_of_neg (by decide), List.append_nil]
    · exact fun c member => natText_isDigit _ c (List.mem_reverse.mp member)
  have digits := (tail now seq).symm.trans (same ▸ tail now' seq')
  have numbers := congrArg digitsValue (List.reverse_injective digits)
  rw [digitsValue_natText, digitsValue_natText] at numbers
  exact UInt64.toNat_inj.mp numbers

theorem issued_step {action : ServerAction} (stepped : serverStep s action = some t) :
    t.requestSeq = s.requestSeq + UInt64.ofNat (issuedBy s action).toList.length ∧
      ∀ id ∈ issuedBy s action, ∃ now, id.2 = requestIdText now s.requestSeq := by
  cases action with
  | accepted failed =>
    obtain ⟨_, same⟩ := Option.ite_none_right_eq_some.mp stepped
    obtain rfl := Option.some.inj same
    refine ⟨?_, fun id issued => nomatch issued⟩
    cases failed <;> simp only [onAccept, Bool.false_eq_true, if_true, if_false, issuedBy] <;>
      split <;> exact (UInt64.add_zero _).symm
  | signal =>
    obtain ⟨_, same⟩ := Option.ite_none_right_eq_some.mp stepped
    obtain rfl := Option.some.inj same
    exact ⟨(UInt64.add_zero _).symm, fun id issued => nomatch issued⟩
  | work index now endpoint dispatch =>
    obtain ⟨session, _, rest⟩ := Option.bind_eq_some_iff.mp stepped
    obtain ⟨next, _, same⟩ := Option.bind_eq_some_iff.mp rest
    obtain rfl := Option.some.inj same
    exact ⟨rfl, fun id issued => ⟨now, by rw [← Option.some.inj issued]; rfl⟩⟩
  | session index action =>
    obtain ⟨_, rest⟩ := Option.ite_none_right_eq_some.mp stepped
    obtain ⟨session, _, rest⟩ := Option.bind_eq_some_iff.mp rest
    obtain ⟨next, _, same⟩ := Option.bind_eq_some_iff.mp rest
    obtain rfl := Option.some.inj same
    exact ⟨(UInt64.add_zero _).symm, fun id issued => nomatch issued⟩

theorem issued_counted {actions : List ServerAction} (ran : runServer s actions = some t)
    {i : Nat} {id : Nat × Bytes} (issuing : (issued s actions)[i]? = some id) :
    ∃ now, id.2 = requestIdText now (s.requestSeq + UInt64.ofNat i) := by
  induction actions generalizing s i with
  | nil => cases issuing
  | cons action actions ih =>
    rw [runServer, List.foldlM_cons] at ran
    obtain ⟨next, stepped, rest⟩ := Option.bind_eq_some_iff.mp ran
    obtain ⟨counted, text⟩ := issued_step stepped
    rw [issued, stepped] at issuing
    cases own : issuedBy s action with
    | none =>
      rw [own, Option.toList_none] at issuing counted
      obtain ⟨now, same⟩ := ih rest issuing
      refine ⟨now, same.trans ?_⟩
      rw [counted]
      simp
    | some first =>
      rw [own, Option.toList_some] at issuing counted
      cases i with
      | zero =>
        obtain ⟨now, same⟩ := text first own
        obtain rfl := Option.some.inj issuing
        exact ⟨now, by simpa using same⟩
      | succ i =>
        obtain ⟨now, same⟩ := ih rest issuing
        refine ⟨now, ?_⟩
        rw [same, counted, List.length_singleton, UInt64.add_assoc, ← UInt64.ofNat_add,
          Nat.add_comm]

theorem issued_distinct {actions : List ServerAction} (ran : runServer s actions = some t)
    (few : (issued s actions).length ≤ 2 ^ 64) : ((issued s actions).map Prod.snd).Nodup := by
  rw [List.Nodup, List.pairwise_map, List.pairwise_iff_getElem]
  intro i j first second order same
  obtain ⟨now, text⟩ := issued_counted ran (List.getElem?_eq_getElem first)
  obtain ⟨now', text'⟩ := issued_counted ran (List.getElem?_eq_getElem second)
  rw [text, text'] at same
  have numbers := congrArg UInt64.toNat (requestIdText_injective same)
  rw [UInt64.toNat_add, UInt64.toNat_add, UInt64.toNat_ofNat', UInt64.toNat_ofNat'] at numbers
  omega

theorem jobs_issued {actions : List ServerAction} (ran : runServer s actions = some t)
    (index : Nat) :
    (sessionActions index s actions).filterMap workId =
      ((issued s actions).filter fun id => id.1 = index).map Prod.snd := by
  induction actions generalizing s with
  | nil => rfl
  | cons action actions ih =>
    rw [runServer, List.foldlM_cons] at ran
    obtain ⟨next, stepped, rest⟩ := Option.bind_eq_some_iff.mp ran
    have own : (seenBy index s action).toList.filterMap workId =
        ((issuedBy s action).toList.filter fun id => id.1 = index).map Prod.snd := by
      cases action with
      | accepted failed => rfl
      | signal => rfl
      | work i now endpoint dispatch =>
        by_cases same : i = index <;> simp [seenBy, issuedBy, same, workId]
      | session i action =>
        have other : workId action = none := by
          obtain ⟨⟨plain, _⟩, _⟩ := Option.ite_none_right_eq_some.mp stepped
          cases action <;> first | rfl | cases plain
        by_cases same : i = index <;> simp [seenBy, issuedBy, same, other]
    simp only [sessionActions, issued, stepped, List.filterMap_append, List.filter_append,
      List.map_append, own, ih rest]

theorem jobs_observed {session final : HttpSession} {actions : List Action}
    (ran : runActions session actions = some final) :
    (RequestLoop.jobs (observedRun session actions)).map Job.generatedId =
      actions.filterMap workId := by
  induction actions generalizing session with
  | nil => rfl
  | cons action actions ih =>
    rw [runActions, List.foldlM_cons] at ran
    obtain ⟨next, stepped, rest⟩ := Option.bind_eq_some_iff.mp ran
    have own : (RequestLoop.jobs (observed session action).toList).map Job.generatedId =
        [action].filterMap workId := by
      cases action with
      | work generatedId endpoint dispatch => rfl
      | expire wait => rfl
      | readEnds number outcome => rfl
      | writeEnds number succeeded => rfl
      | run handler =>
        cases handler with
        | readDone number outcome => cases outcome <;> rfl
        | writeResponse rsp => rfl
        | waited wait expired => rfl
        | writeDone number succeeded => rfl
    rw [observedRun, stepped, RequestLoop.jobs_append, List.map_append, own, ih rest,
      ← List.filterMap_append, List.singleton_append]

end ids

section results
variable {config : ServerConfig} {actions : List ServerAction} {s : HttpServer}

/-- Whatever the threads do, each connection is served as if it were alone, and until the signal
    one accept waits for the next connection. -/
theorem sessions_alone (ran : runServer (start config) actions = some s) :
    (∀ index session, s.sessions[index]? = some session →
      runActions (TgwHttpSession.start config) (sessionActions index (start config) actions) =
        some session) ∧
      (s.stopped = false → s.accepting = 1 ∧ s.acceptorOpen = true) := by
  have listening := (listening_start config).after_run ran
  exact ⟨fun index session reached => sessions_start ran rfl reached,
    fun live => ⟨listening.one live, listening.opened live⟩⟩

/-- The jobs of all sessions get different ids for as long as the counter has not come round. -/
theorem request_ids_distinct (ran : runServer (start config) actions = some s)
    (few : (issued (start config) actions).length ≤ 2 ^ 64) :
    ((issued (start config) actions).map Prod.snd).Nodup ∧
      ∀ index session, s.sessions[index]? = some session →
        (RequestLoop.jobs (observedRun (TgwHttpSession.start config)
          (sessionActions index (start config) actions))).map Job.generatedId =
          ((issued (start config) actions).filter fun id => id.1 = index).map Prod.snd := by
  refine ⟨issued_distinct ran few, fun index session reached => ?_⟩
  have alone : runActions (TgwHttpSession.start config)
      (sessionActions index (start config) actions) = some session := sessions_start ran rfl reached
  rw [jobs_observed alone, jobs_issued ran]

def twoConnections : List ServerAction :=
  [.accepted false, .accepted true, .accepted false, .session 0 (.readEnds 1 (.request {})),
    .session 1 (.readEnds 1 (.request {})), .session 0 (.run (.readDone 1 (.request {}))),
    .session 1 (.run (.readDone 1 (.request {}))), .work 1 7 none fun _ => {},
    .work 0 7 none fun _ => {}]

theorem sessions_alone_two : ∃ s session, runServer (start {}) twoConnections = some s ∧
    s.sessions[1]? = some session ∧
    runActions (TgwHttpSession.start {}) (sessionActions 1 (start {}) twoConnections) =
      some session := by
  have runs : ((runServer (start {}) twoConnections).bind fun s => s.sessions[1]?).isSome = true := by
    decide
  obtain ⟨session, both⟩ := Option.isSome_iff_exists.mp runs
  obtain ⟨s, ran, reached⟩ := Option.bind_eq_some_iff.mp both
  exact ⟨s, session, ran, reached, (sessions_alone ran).1 1 session reached⟩

theorem request_ids_distinct_two :
    ((issued (start {}) twoConnections).map Prod.fst = [1, 0]) ∧
      ((issued (start {}) twoConnections).map Prod.snd).Nodup := by
  have runs : (runServer (start {}) twoConnections).isSome = true := by decide
  have two : (issued (start {}) twoConnections).map Prod.fst = [1, 0] := by decide
  have count : (issued (start {}) twoConnections).length = 2 := by
    rw [← List.length_map Prod.fst, two]
    rfl
  obtain ⟨s, ran⟩ := Option.isSome_iff_exists.mp runs
  exact ⟨two, (request_ids_distinct ran (by rw [count]; decide)).1⟩

end results

end TgwHttpServer
