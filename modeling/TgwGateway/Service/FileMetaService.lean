import TgwGateway.Lib.DecimalText
import TgwGateway.Service.RpcMessages

/- FileMetaServiceImpl: file metadata under numbered ids, never changed. -/
namespace TgwFileMetaService
open ByteStrings DecimalText TgwClock TgwRpc

structure FileStore where
  files : ByteMap FileMeta := ∅
  fileSeq : UInt64 := 0

def nowUnixSeconds (system : SystemClock) : Int64 :=
  Int64.ofInt (system.now.toInt.tdiv nanosPerSecond)

def fileName (number : UInt64) : Bytes := bytes "file-" ++ natText number.toNat

def createFileMeta : RpcMethod FileStore CreateFileMetaRequest CreateFileMetaResponse :=
  fun ctx request env =>
    match fillTimeoutIfCancelled ctx env with
    | (some rpcMeta, env) => ({ rpcMeta := rpcMeta }, env)
    | (none, env) =>
      if request.filename = [] ∨ request.size < 0 then
        let filled := fillMeta .invalidArgument (bytes "invalid file meta") ctx env
        ({ rpcMeta := filled.1 }, filled.2)
      else
        let fileSeq := env.state.fileSeq + 1
        let fileId := fileName fileSeq
        let file : FileMeta :=
          { fileId := fileId
            filename := request.filename
            size := request.size
            contentType := request.contentType
            ownerUserId := request.ownerUserId
            createdAt := nowUnixSeconds env.system }
        let env := { env.tickSystem with state := ⟨env.state.files.insert fileId file, fileSeq⟩ }
        let filled := fillMeta .ok (bytes "ok") ctx env
        ({ rpcMeta := filled.1, fileId := fileId }, filled.2)

def getFileMeta : RpcMethod FileStore GetFileMetaRequest GetFileMetaResponse :=
  fun ctx request env =>
    match fillTimeoutIfCancelled ctx env with
    | (some rpcMeta, env) => ({ rpcMeta := rpcMeta }, env)
    | (none, env) =>
      match env.state.files[request.fileId]? with
      | none =>
        let filled := fillMeta .notFound (bytes "file not found") ctx env
        ({ rpcMeta := filled.1 }, filled.2)
      | some file =>
        let filled := fillMeta .ok (bytes "ok") ctx env
        ({ rpcMeta := filled.1, file := file }, filled.2)

def fileMetaServiceImpl : FileMetaService FileStore where
  createFileMeta := createFileMeta
  getFileMeta := getFileMeta

def newFile (request : CreateFileMetaRequest) (fileId : Bytes) (now : Int64) : FileMeta :=
  { fileId := fileId
    filename := request.filename
    size := request.size
    contentType := request.contentType
    ownerUserId := request.ownerUserId
    createdAt := now }

section methods
variable (ctx : RpcContext) (env : Env FileStore)

theorem createFileMeta_cases (request : CreateFileMetaRequest) :
    (env.deadlineExceeded.1 = true ∧ (createFileMeta ctx request env).1.rpcMeta.code = .timeout ∧
      (createFileMeta ctx request env).2.state = env.state) ∨
    (env.deadlineExceeded.1 = false ∧ (request.filename = [] ∨ request.size < 0) ∧
      (createFileMeta ctx request env).1.rpcMeta.code = .invalidArgument ∧
      (createFileMeta ctx request env).2.state = env.state) ∨
    (env.deadlineExceeded.1 = false ∧ ¬ (request.filename = [] ∨ request.size < 0) ∧
      (createFileMeta ctx request env).1.rpcMeta.code = .ok ∧
      (createFileMeta ctx request env).1.fileId = fileName (env.state.fileSeq + 1) ∧
      (createFileMeta ctx request env).2.state =
        ⟨env.state.files.insert (fileName (env.state.fileSeq + 1))
          (newFile request (fileName (env.state.fileSeq + 1)) (nowUnixSeconds env.system)),
          env.state.fileSeq + 1⟩) := by
  unfold createFileMeta
  rcases fillTimeoutIfCancelled_cases ctx env with ⟨done, rpcMeta, later, run, code, state⟩ |
    ⟨done, run⟩
  · exact Or.inl ⟨done, by simp [run, code], by simp [run, state]⟩
  · by_cases invalid : request.filename = [] ∨ request.size < 0
    · refine Or.inr (Or.inl ⟨done, invalid, ?_⟩)
      simp only [run, if_pos invalid]
      simp
    · refine Or.inr (Or.inr ⟨done, invalid, ?_⟩)
      simp only [run, if_neg invalid]
      simp [newFile]

theorem getFileMeta_cases (request : GetFileMetaRequest) :
    (getFileMeta ctx request env).2.state = env.state ∧
    ((env.deadlineExceeded.1 = true ∧ (getFileMeta ctx request env).1.rpcMeta.code = .timeout) ∨
    (env.deadlineExceeded.1 = false ∧ env.state.files[request.fileId]? = none ∧
      (getFileMeta ctx request env).1.rpcMeta.code = .notFound) ∨
    (env.deadlineExceeded.1 = false ∧
      env.state.files[request.fileId]? = some (getFileMeta ctx request env).1.file ∧
      (getFileMeta ctx request env).1.rpcMeta.code = .ok)) := by
  unfold getFileMeta
  rcases fillTimeoutIfCancelled_cases ctx env with ⟨done, rpcMeta, later, run, code, state⟩ |
    ⟨done, run⟩
  · exact ⟨by simp [run, state], Or.inl ⟨done, by simp [run, code]⟩⟩
  · cases found : env.state.files[request.fileId]? with
    | none => exact ⟨by simp [run, found], Or.inr (Or.inl ⟨done, rfl, by simp [run, found]⟩)⟩
    | some file =>
      exact ⟨by simp [run, found],
        Or.inr (Or.inr ⟨done, by simp [run, found], by simp [run, found]⟩)⟩

end methods

end TgwFileMetaService
