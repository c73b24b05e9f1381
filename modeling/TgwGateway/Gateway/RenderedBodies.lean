import TgwGateway.Common.JsonEscaping
import TgwGateway.Gateway.LocalRpcErrors

/- The JSON bodies of the gateway's own answers: well formed, with the values they were built
   from, as long as no control character is written as it is. -/
namespace TgwRenderedBodies
open ByteStrings DecimalText JsonGrammar JsonStrings JsonScan JsonPrinter
open TgwExceptions TgwStatus TgwJsonEscaping TgwHttp TgwRpc TgwFlatJson TgwLocalRpc
open TgwLocalRpcErrors
variable {State : Type}

/-- What the client puts in a field: a string, a number or the word true. -/
inductive FieldValue where
  | text (s : Bytes)
  | integer (n : Int)
  | truth

def FieldValue.pair (key : Bytes) : FieldValue → Bytes
  | .text s => jsonPair key s true
  | .integer n => jsonPair key (intText n) false
  | .truth => jsonPair key (bytes "true") false

def FieldValue.tree : FieldValue → JsonTree
  | .text s => textTree s
  | .integer n => .number (intText n)
  | .truth => .bool true

def FieldValue.ReadFrom (tree : JsonTree) : FieldValue → Prop
  | .text s => stringValue tree = some s
  | .integer n => numberLiteral tree = some (intText n)
  | .truth => tree = .bool true

abbrev Fields := List (Bytes × FieldValue)

def dataJson : Option Fields → Bytes
  | none => bytes "null"
  | some fields => jsonObject (fields.map fun f => f.2.pair f.1)

def rendered (code : Int) (message : Bytes) (data : Option Fields) : Bytes :=
  ({ code := code, message := message, dataRawJson := dataJson data } : ApiResponse).toJson

def fieldMembers (fields : Fields) : List (Bytes × JsonTree) :=
  fields.map fun f => (jsonEscape f.1, f.2.tree)

def dataTree : Option Fields → JsonTree
  | none => .null
  | some fields => .object (fieldMembers fields)

def bodyTree (code : Int) (message : Bytes) (data : Option Fields) : JsonTree :=
  .object [(bytes "code", .number (intText code)), (bytes "message", textTree message),
    (bytes "data", dataTree data)]

def IsLiteralOf (text s : Bytes) : Prop :=
  ∃ body, Value text (.string body) [] ∧ decoded body = some s

/-- The data of an answer, as a reader of the tree finds it. -/
def ReadsData (tree : JsonTree) : Option Fields → Prop
  | none => tree = .null
  | some fields => ∃ members, tree = .object members ∧
      List.Forall₂ (fun (m : Bytes × JsonTree) (f : Bytes × FieldValue) =>
        decoded m.1 = some f.1 ∧ f.2.ReadFrom m.2) members fields

/-- The body is a text of a tree with this code, this message and these data. -/
def Carries (body : Bytes) (code : Int) (message : Bytes) (data : Option Fields) : Prop :=
  ∃ tree, JsonText body tree ∧
    memberOf (bytes "code") tree >>= numberLiteral = some (intText code) ∧
    textAt (bytes "message") tree = some message ∧
    ∃ item, memberOf (bytes "data") tree = some item ∧ ReadsData item data

def FieldValue.Regular : FieldValue → Prop
  | .text s => TgwJsonEscaping.Regular s
  | _ => True

def RegularFields : Option Fields → Prop
  | none => True
  | some fields => ∀ f ∈ fields, TgwJsonEscaping.Regular f.1 ∧ f.2.Regular

theorem keyFragments :
    bytes "\"code\":" = 34 :: (bytes "code" ++ [34, 58]) ∧
    bytes "\"message\":\"" = 34 :: (bytes "message" ++ [34, 58, 34]) ∧
    bytes "\"data\":" = 34 :: (bytes "data" ++ [34, 58]) ∧
    bytes "\"" = [34] ∧ bytes "\"," = [34, 44] ∧ bytes "\":" = [34, 58] ∧ bytes "," = [44] ∧
    bytes "\x7b" = [123] ∧ bytes "\x7d" = [125] := by
  decide +kernel

theorem pair_render (key : Bytes) (value : FieldValue) :
    value.pair key = 34 :: (jsonEscape key ++ 34 :: 58 :: render value.tree) := by
  obtain ⟨_, _, _, f4, _, f6, _⟩ := keyFragments
  cases value <;> simp [FieldValue.pair, FieldValue.tree, jsonPair, textTree, render, f4, f6]

theorem pairs_render (fields : Fields) :
    (bytes ",").intercalate (fields.map fun f => f.2.pair f.1) =
      renderMembers (fieldMembers fields) := by
  obtain ⟨_, _, _, _, _, _, f7, _⟩ := keyFragments
  induction fields with
  | nil => rfl
  | cons first fields ih =>
    cases fields with
    | nil => simp [fieldMembers, renderMembers, pair_render, List.intercalate]
    | cons next fields =>
      simp only [fieldMembers, List.map_cons] at ih ⊢
      rw [List.intercalate_cons_cons, ih, f7, renderMembers_more, pair_render]
      simp

theorem rendered_render (code : Int) (message : Bytes) (data : Option Fields) :
    rendered code message data = render (bodyTree code message data) := by
  obtain ⟨f1, f2, f3, _, f5, _, f7, f8, f9⟩ := keyFragments
  have inner : dataJson data = render (dataTree data) := by
    cases data with
    | none => simp [dataJson, dataTree, render]
    | some fields => simp [dataJson, dataTree, render, jsonObject, pairs_render, f8, f9]
  simp [rendered, ApiResponse.toJson, bodyTree, inner, textTree, render, renderMembers, f1, f2, f3,
    f5, f7, f8, f9]

theorem dataTree_written {data : Option Fields} (regular : RegularFields data) :
    Written BodyText (dataTree data) := by
  cases data with
  | none => trivial
  | some fields =>
    rw [dataTree, Written, writtenMembers_iff]
    intro member inside
    obtain ⟨⟨key, value⟩, listed, rfl⟩ := List.mem_map.mp inside
    obtain ⟨name, field⟩ := regular _ listed
    refine ⟨jsonEscape_body name, ?_⟩
    cases value with
    | text s => exact jsonEscape_body field
    | integer n => exact intText_number n
    | truth => trivial

theorem bodyTree_written (code : Int) {message : Bytes} {data : Option Fields}
    (plain : TgwJsonEscaping.Regular message) (regular : RegularFields data) :
    Written BodyText (bodyTree code message data) := by
  have inner := dataTree_written regular
  simp only [bodyTree, textTree, Written, WrittenMembers, and_true]
  exact ⟨unescaped_body (by decide), intText_number code, unescaped_body (by decide),
    jsonEscape_body plain, unescaped_body (by decide), inner⟩

theorem dataTree_reads (data : Option Fields) : ReadsData (dataTree data) data := by
  cases data with
  | none => rfl
  | some fields =>
    refine ⟨fieldMembers fields, rfl, ?_⟩
    rw [fieldMembers, List.forall₂_map_left_iff, List.forall₂_same]
    intro f _
    refine ⟨decoded_jsonEscape f.1, ?_⟩
    cases f.2 with
    | text s => exact stringValue_textTree s
    | integer n => rfl
    | truth => rfl

theorem rendered_carries (code : Int) {message : Bytes} {data : Option Fields}
    (plain : TgwJsonEscaping.Regular message) (regular : RegularFields data) :
    Carries (rendered code message data) code message data := by
  have text := render_text (bodyTree_written code plain regular)
  rw [← rendered_render] at text
  refine ⟨bodyTree code message data, text, ?_, ?_, dataTree data, ?_, dataTree_reads data⟩
  · rw [bodyTree, memberOf_own (by decide)]
    rfl
  · rw [textAt, bodyTree, memberOf_other (by decide) (by decide), memberOf_own (by decide)]
    exact stringValue_textTree message
  · rw [bodyTree, memberOf_other (by decide) (by decide), memberOf_other (by decide) (by decide),
      memberOf_own (by decide)]

theorem regular_of_wellFormed {code : Int} {message : Bytes} {data : Option Fields}
    (formed : WellFormed (rendered code message data)) :
    TgwJsonEscaping.Regular message ∧ RegularFields data := by
  have octets := (wellFormed_scan formed).1
  have within : ∀ (key : Bytes) (item : JsonTree),
      (key, item) ∈ [(bytes "code", JsonTree.number (intText code)),
        (bytes "message", textTree message), (bytes "data", dataTree data)] →
      ∀ c ∈ render item, isRegular c = true := by
    intro key item listed c inside
    refine octets c ?_
    rw [rendered_render, bodyTree, render]
    have found := mem_renderMembers listed (Or.inr inside)
    simp [found]
  constructor
  · refine regular_of_octets fun c inside => ?_
    exact within (bytes "message") (textTree message) (by simp) c
      (by simp [textTree, render, inside])
  · cases data with
    | none => trivial
    | some fields =>
      have shown : ∀ c ∈ renderMembers (fieldMembers fields), isRegular c = true := by
        intro c inside
        exact within (bytes "data") (dataTree (some fields)) (by simp) c
          (by simp [dataTree, render, inside])
      intro f listed
      have member : (jsonEscape f.1, f.2.tree) ∈ fieldMembers fields :=
        List.mem_map.mpr ⟨f, listed, rfl⟩
      constructor
      · exact regular_of_octets fun c inside => shown c (mem_renderMembers member (Or.inl inside))
      · cases value : f.2 with
        | text s =>
          rw [value] at member
          refine regular_of_octets fun c inside => shown c (mem_renderMembers member (Or.inr ?_))
          simp [FieldValue.tree, textTree, render, inside]
        | integer n => trivial
        | truth => trivial

theorem literal_iff (s : Bytes) :
    IsLiteralOf (34 :: (jsonEscape s ++ [34])) s ↔ TgwJsonEscaping.Regular s := by
  constructor
  · rintro ⟨body, value, _⟩
    obtain ⟨used, whole, regular, _⟩ := value_passes value 0
    rw [List.append_nil] at whole
    refine regular_of_octets fun c inside => regular c ?_
    rw [← whole]
    simp [inside]
  · intro regular
    exact ⟨jsonEscape s, Value.string (jsonEscape_body regular []), decoded_jsonEscape s⟩

section answers

def IsRendered (response : HttpResponse) : Prop :=
  ∃ code message data, response.body = rendered code message data

theorem error_rendered (status : Int) (code : ErrorCode) (message requestId : Bytes) :
    IsRendered (buildJsonResponse status (ApiResponse.error code message) requestId) :=
  ⟨code.value, message, none, rfl⟩

theorem success_rendered (status : Int) (fields : Fields) (requestId : Bytes) :
    IsRendered (buildJsonResponse status
      (ApiResponse.success (jsonObject (fields.map fun f => f.2.pair f.1))) requestId) := by
  have nonempty : jsonObject (fields.map fun f => f.2.pair f.1) ≠ [] := by
    simp [jsonObject, keyFragments]
  refine ⟨0, bytes "ok", some fields, ?_⟩
  simp only [buildJsonResponse, ApiResponse.success, nonempty, ↓reduceIte]
  rfl

theorem rpc_rendered (rpcMeta : RpcMeta) (fields : Fields) (requestId : Bytes) :
    IsRendered (buildRpcResponse rpcMeta (jsonObject (fields.map fun f => f.2.pair f.1))
      requestId) := by
  unfold buildRpcResponse
  split
  · exact success_rendered 200 fields requestId
  · exact ⟨_, rpcMeta.message, none, rfl⟩

def HandledRendered (handled : Handled State) : Prop :=
  ∀ response, handled.1 = .ok response → IsRendered response

theorem callMethod_rendered {Request : Type} (ctx : ForwardContext)
    (request : Except CppException Request)
    (call : Request → LocalRpcEnv State → HttpResponse × LocalRpcEnv State)
    (answered : ∀ req env, IsRendered (call req env).1) (env : LocalRpcEnv State) :
    HandledRendered (callMethod ctx request call env) := by
  have late : IsRendered (deadlineExceeded ctx) := error_rendered _ _ _ _
  intro response done
  unfold callMethod beforeDeadline at done
  simp only at done
  split at done
  · cases done
    exact late
  · split at done
    · cases done
    · split at done
      · cases done
        exact late
      · cases done
        exact answered _ _

theorem handleEndpoint_rendered (services : LocalRpcServices State) (ctx : ForwardContext)
    (rpcCtx : RpcContext) (env : LocalRpcEnv State) (endpoint : Endpoint) :
    HandledRendered (handleEndpoint services ctx rpcCtx env endpoint) := by
  cases endpoint with
  | login =>
    exact callMethod_rendered ctx _ _ (fun req env => rpc_rendered _
      [(bytes "user_id", .integer _), (bytes "username", .text _), (bytes "role", .text _),
        (bytes "token", .text _), (bytes "token_type", .text _)] _) env
  | getProfile =>
    exact callMethod_rendered ctx _ _ (fun req env => rpc_rendered _
      [(bytes "user_id", .integer _), (bytes "username", .text _), (bytes "email", .text _),
        (bytes "role", .text _)] _) env
  | createFileMeta =>
    exact callMethod_rendered ctx _ _
      (fun req env => rpc_rendered _ [(bytes "file_id", .text _)] _) env
  | getFileMeta =>
    exact callMethod_rendered ctx (.ok _) _ (fun req env => rpc_rendered _
      [(bytes "file_id", .text _), (bytes "filename", .text _), (bytes "size", .integer _),
        (bytes "content_type", .text _), (bytes "owner_user_id", .integer _),
        (bytes "created_at", .integer _)] _) env
  | createTask =>
    exact callMethod_rendered ctx _ _
      (fun req env => rpc_rendered _ [(bytes "task_id", .text _)] _) env
  | getTask =>
    exact callMethod_rendered ctx (.ok _) _ (fun req env => rpc_rendered _
      [(bytes "task_id", .text _), (bytes "task_type", .text _), (bytes "status", .integer _),
        (bytes "result", .text _), (bytes "user_id", .integer _), (bytes "created_at", .integer _),
        (bytes "updated_at", .integer _)] _) env
  | submitTaskEvent =>
    exact callMethod_rendered ctx _ _ (fun req env => success_rendered 200
      [(bytes "accepted", .truth), (bytes "task_id", .text _)] _) env

/-- Every answer of the client is a rendered body, so its strings decide whether it is JSON. -/
theorem forward_rendered (services : LocalRpcServices State) (ctx : ForwardContext)
    (env : LocalRpcEnv State) : IsRendered (forward services ctx env).1 := by
  have dispatched : HandledRendered (beforeDeadline ctx (dispatch services ctx) env) := by
    intro response done
    unfold beforeDeadline at done
    simp only at done
    split at done
    · cases done
      exact error_rendered _ _ _ _
    · have found := dispatch_endpoint services ctx env.deadlineExceeded.2
      split at found
      · rw [found] at done
        exact handleEndpoint_rendered services ctx _ _ _ response done
      · obtain ⟨message, env', answer, _⟩ := found
        rw [answer] at done
        cases done
        exact error_rendered _ _ _ _
  unfold forward
  split
  · rename_i response _ handled
    exact dispatched response (by rw [handled])
  · exact error_rendered _ _ _ _
  · exact error_rendered _ _ _ _

end answers

/-- Escaping gives a literal of the text, and a rendered body carries its values, exactly when the
    texts hold no control character but line feed, carriage return and tab. -/
theorem escaping_iff (s : Bytes) (code : Int) (message : Bytes) (data : Option Fields) :
    (IsLiteralOf (34 :: (jsonEscape s ++ [34])) s ↔ TgwJsonEscaping.Regular s) ∧
    (Carries (rendered code message data) code message data ↔
      TgwJsonEscaping.Regular message ∧ RegularFields data) := by
  refine ⟨literal_iff s, ?_, ?_⟩
  · rintro ⟨tree, text, _⟩
    exact regular_of_wellFormed ⟨tree, text⟩
  · rintro ⟨plain, regular⟩
    exact rendered_carries code plain regular

theorem backspace_breaks_body :
    ¬ IsLiteralOf (34 :: (jsonEscape [97, 8] ++ [34])) [97, 8] ∧
      ¬ WellFormed (rendered 0 (bytes "ok") (some [(bytes "task_type", .text [97, 8])])) := by
  have control : ¬ TgwJsonEscaping.Regular [97, 8] := by
    intro regular
    exact absurd (regular 8 (by decide)) (by decide)
  constructor
  · rw [literal_iff]
    exact control
  · intro formed
    exact control ((regular_of_wellFormed formed).2 _ List.mem_cons_self).2

end TgwRenderedBodies
