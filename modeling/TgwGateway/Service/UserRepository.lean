import TgwGateway.Common.Config
import TgwGateway.Common.Exceptions
import TgwGateway.Lib.ByteSearch
import TgwGateway.Service.UserService
import Mathlib.Data.List.DropRight

/- MysqlCliUserRepository: the command that it hands to the shell for a query, and the record that
   it reads from what the command prints. -/
namespace TgwUserRepository
open ByteStrings ByteSearch DecimalText TgwConfig TgwExceptions TgwUserService

def shellByte (c : UInt8) : Bytes := if c = 34 ∨ c = 92 then [92, c] else [c]

def shellQuote (value : Bytes) : Bytes := 34 :: value.flatMap shellByte ++ [34]

def sqlByte (c : UInt8) : Bytes := if c = 39 then [39, 39] else [c]

def sqlQuote (value : Bytes) : Bytes := 39 :: value.flatMap sqlByte ++ [39]

def usernameClause (username : Bytes) : Bytes := bytes "username=" ++ sqlQuote username

def userIdClause (userId : Int64) : Bytes := bytes "user_id=" ++ intText userId.toInt

/-- The statement of QueryOne. -/
def querySql (whereClause : Bytes) : Bytes :=
  bytes "SELECT user_id, username, password, email, role FROM users WHERE " ++ whereClause ++
    bytes " LIMIT 1"

def buildCommand (config : MysqlConfig) (sql : Bytes) : Bytes :=
  bytes "mysql --batch --raw --skip-column-names" ++ bytes " -h " ++ shellQuote config.host ++
    bytes " -P " ++ natText config.port.toNat ++ bytes " -u " ++ shellQuote config.user ++
    (if config.password = [] then [] else bytes " --password=" ++ shellQuote config.password) ++
    bytes " " ++ shellQuote config.database ++ bytes " -e " ++ shellQuote sql

/-- What c_str shows of a string to its reader. -/
def cString (text : Bytes) : Bytes := text.takeWhile fun c => c ≠ 0

theorem cString_append {text : Bytes} (terminated : 0 ∉ text) (rest : Bytes) :
    cString (text ++ rest) = text ++ cString rest := by
  refine List.takeWhile_append_of_pos fun c inside => ?_
  simp only [decide_eq_true_eq]
  rintro rfl
  exact terminated inside

/-- What the shell is given to run. -/
def pipeCommand (config : MysqlConfig) (whereClause : Bytes) : Bytes :=
  cString (buildCommand config (querySql whereClause))

def tab : UInt8 := 9

def splitTabLoop (line : Bytes) : Nat → Nat → List Bytes
  | 0, _ => []
  | fuel + 1, start =>
    if line.length < start then []
    else
      let stop := (findFrom [tab] line start).getD line.length
      (line.drop start).take (stop - start) ::
        if stop = line.length then [] else splitTabLoop line fuel (stop + 1)

/-- Every turn but the last passes a tab, so one turn more than there are bytes is enough. -/
def splitTabLine (line : Bytes) : List Bytes := splitTabLoop line (line.length + 1) 0

def newline : UInt8 := 10
def carriageReturn : UInt8 := 13

/-- What one fgets into a buffer of 512 takes from the stream. -/
def fgetsLine (stream : Bytes) : Bytes :=
  let available := stream.take 511
  match find [newline] available with
  | some index => available.take (index + 1)
  | none => available

/-- Every fgets takes at least one byte, so as many turns as there are bytes are enough. -/
def readLoop : Nat → Bytes → Bytes
  | 0, _ => []
  | fuel + 1, stream =>
    if stream = [] then []
    else cString (fgetsLine stream) ++ readLoop fuel (stream.drop (fgetsLine stream).length)

def readOutput (stream : Bytes) : Bytes := readLoop stream.length stream

def stripLineEnds (output : Bytes) : Bytes :=
  output.rdropWhile fun c => c == newline || c == carriageReturn

/-- QueryOne once the command runs: what it makes of everything the command prints. -/
def readUser (stream : Bytes) : Except CppException (Option UserRecord) :=
  let output := stripLineEnds (readOutput stream)
  if output = [] then .ok none
  else
    match splitTabLine output with
    | userId :: username :: password :: email :: role :: _ =>
      match stoll userId with
      | .error e => .error e
      | .ok userId => .ok (some ⟨Int64.ofInt userId, username, password, email, role⟩)
    | _ => .ok none

/-- The pipe yields what the command prints, or it cannot be opened. -/
def queryOne (popen : Bytes → Option Bytes) (config : MysqlConfig) (whereClause : Bytes) :
    Except CppException (Option UserRecord) :=
  match popen (pipeCommand config whereClause) with
  | none => .ok none
  | some stream => readUser stream

def findByUsername (popen : Bytes → Option Bytes) (config : MysqlConfig) (username : Bytes) :
    Except CppException (Option UserRecord) :=
  queryOne popen config (usernameClause username)

def findById (popen : Bytes → Option Bytes) (config : MysqlConfig) (userId : Int64) :
    Except CppException (Option UserRecord) :=
  queryOne popen config (userIdClause userId)

end TgwUserRepository
