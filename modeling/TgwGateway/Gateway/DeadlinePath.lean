import TgwGateway.Gateway.WatchedLocalRpc
import TgwGateway.Governance.WatchedForward

/- The deadline of one request on its whole path: the governance client, the local RPC client and
   the services share one DeadlineContext and look at it in many places. -/
namespace TgwDeadlinePath
open ByteStrings WatchedRuns Watched TgwClock TgwConfig TgwHttp TgwGovernance TgwUserService
open TgwStoreRuns TgwLocalRpc TgwWatchedLocalRpc TgwWatchedForward

abbrev PathEnv := GovernanceEnv (LocalRpcState Stores)

def storesOf (env : PathEnv) : Stores := env.state.inner.services

section path
variable (config : GovernanceConfig) (repository : UserRepository)
  (tokenService : Option AuthConfig) (ctx : ForwardContext) (env : PathEnv)

def forwardLocally : HttpResponse × PathEnv :=
  TgwGovernance.forward (TgwLocalRpc.forward (localServices repository tokenService)) config ctx env

def watchedPath : Watched PathEnv HttpResponse :=
  TgwWatchedForward.forward (TgwWatchedLocalRpc.forward repository tokenService) config ctx

structure DeadlineLaws : Prop where
  same_call : (watchedPath config repository tokenService ctx).run env =
    forwardLocally config repository tokenService ctx env
  checks_agree : ∀ earlier c later,
    (watchedPath config repository tokenService ctx).checks env = earlier ++ c :: later →
    c.1 = true → ∀ x ∈ later, x.1 = true
  stores_rest : ∀ earlier c later,
    (watchedPath config repository tokenService ctx).checks env = earlier ++ c :: later →
    c.1 = true → (∀ x ∈ later, storesOf x.2 = storesOf c.2) ∧
      storesOf (forwardLocally config repository tokenService ctx env).2 = storesOf c.2
  times_out : (∃ c ∈ (watchedPath config repository tokenService ctx).checks env, c.1 = true) →
    if config.fallback.enabled then
      (forwardLocally config repository tokenService ctx env).1 =
        fallbackResponse config ctx (bytes "all retry attempts failed")
    else TimedOut ctx (forwardLocally config repository tokenService ctx env).1
  never_success : (∃ c ∈ (watchedPath config repository tokenService ctx).checks env,
      c.1 = true) →
    (forwardLocally config repository tokenService ctx env).1.status =
      if config.fallback.enabled then 200 else 504

end path

theorem deadline_path (config : GovernanceConfig) (enabled : config.enabled = true)
    (repository : UserRepository) (tokenService : Option AuthConfig) (ctx : ForwardContext)
    (env : PathEnv) : DeadlineLaws config repository tokenService ctx env := by
  have clients : (fun ctx => (TgwWatchedLocalRpc.forward repository tokenService ctx).run) =
      TgwLocalRpc.forward (localServices repository tokenService) :=
    funext (TgwWatchedLocalRpc.run_forward repository tokenService)
  have same : (watchedPath config repository tokenService ctx).run env =
      forwardLocally config repository tokenService ctx env := by
    unfold watchedPath forwardLocally
    rw [TgwWatchedForward.run_forward, clients]
  have settles := disciplined_forward config ctx
    (TgwWatchedLocalRpc.disciplined_forward repository tokenService ctx)
  have answer : (∃ c ∈ (watchedPath config repository tokenService ctx).checks env, c.1 = true) →
      if config.fallback.enabled then
        (forwardLocally config repository tokenService ctx env).1 =
          fallbackResponse config ctx (bytes "all retry attempts failed")
      else TimedOut ctx (forwardLocally config repository tokenService ctx env).1 := by
    intro alarm
    rw [← same]
    exact forward_alarm config ctx
      (TgwWatchedLocalRpc.disciplined_forward repository tokenService ctx) enabled alarm
  refine ⟨same, ?_, ?_, answer, ?_⟩
  · intro earlier c later split ended x member
    exact ((settles.settled env earlier c later split ended).1 x member).1
  · intro earlier c later split ended
    obtain ⟨rest, final, _⟩ := settles.settled env earlier c later split ended
    rw [← same]
    exact ⟨fun x member => (rest x member).2, final⟩
  · intro alarm
    have response := answer alarm
    split
    · rename_i fallback
      rw [if_pos fallback] at response
      rw [response]
      rfl
    · rename_i off
      rw [if_neg off] at response
      exact timedOut_status response

/-- A task that is to be created when its deadline has already passed. -/
theorem deadline_path_expired :
    DeadlineLaws {} inMemoryUserRepository none
      { upstream := bytes "TaskService", upstreamPath := bytes "/create", method := bytes "POST" }
      ⟨ticking 1, stopped 0, some ⟨0, 0, false, []⟩, { inner := { services := {} } }⟩ :=
  deadline_path {} rfl inMemoryUserRepository none _ _

end TgwDeadlinePath
