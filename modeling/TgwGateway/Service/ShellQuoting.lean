import TgwGateway.Lib.ShellWords
import TgwGateway.Service.UserRepository

/- ShellQuote escapes the double quote and the backslash. The other two bytes that keep a meaning
   within double quotes, the dollar sign and the backquote, go through as they are. -/
namespace TgwShellQuoting
open ByteStrings DecimalText ShellWords TgwConfig TgwUserRepository
variable (shell : Shell)

/-- A text that the shell gives back as it was: no expansion, and no zero byte to end the string. -/
structure Passes (v : Bytes) : Prop where
  terminated : 0 ∉ v
  constant : startsExpansion shell v = false

theorem cString_cons {c : UInt8} (nonzero : c ≠ 0) (rest : Bytes) :
    cString (c :: rest) = c :: cString rest := by simp [cString, nonzero]

section quoted

theorem next_byte (v rest : Bytes) (terminated : v.head? ≠ some 0) :
    (cString (v.flatMap shellByte ++ 34 :: rest)).head?.any shell.introduces =
      v.head?.any shell.introduces := by
  have quote : shell.introduces 34 = false := shell.ordinary.1
  have slash : shell.introduces 92 = false := shell.ordinary.2.2
  cases v with
  | nil => simp [cString, quote]
  | cons c v =>
    have nonzero : c ≠ 0 := by simpa using terminated
    by_cases special : c = 34 ∨ c = 92
    · have next : shell.introduces c = false := by rcases special with rfl | rfl <;> assumption
      simp [shellByte, special, cString, next, slash]
    · simp [shellByte, special, cString, nonzero]

theorem text_special {c : UInt8} (special : c = 34 ∨ c = 92) (v rest : Bytes) :
    (c :: v).flatMap shellByte ++ rest = 92 :: c :: (v.flatMap shellByte ++ rest) := by
  simp [shellByte, special]

theorem text_ordinary {c : UInt8} (ordinary : ¬ (c = 34 ∨ c = 92)) (v rest : Bytes) :
    (c :: v).flatMap shellByte ++ rest = c :: (v.flatMap shellByte ++ rest) := by
  simp [shellByte, ordinary]

theorem scan_escape (w rest : Bytes) {c : UInt8} (special : c = 34 ∨ c = 92) :
    scan shell (.quoted w) (92 :: c :: rest) = scan shell (.quoted (w ++ [c])) rest := by
  rcases special with rfl | rfl <;> rfl

theorem scan_text_byte (w rest : Bytes) {c : UInt8} (ordinary : ¬ (c = 34 ∨ c = 92))
    (constant : expands shell c rest = false) :
    scan shell (.quoted w) (c :: rest) = scan shell (.quoted (w ++ [c])) rest := by
  have no_quote : c ≠ doubleQuote := fun quote => ordinary (Or.inl quote)
  have no_slash : c ≠ backslash := fun slash => ordinary (Or.inr slash)
  rw [scan, if_neg no_quote, if_neg (by simp [constant]), if_neg no_slash]

theorem expands_special {c : UInt8} (special : c = 34 ∨ c = 92) (rest : Bytes) :
    expands shell c rest = false := by
  rcases special with rfl | rfl <;> rfl

theorem expands_text (c : UInt8) {v : Bytes} (terminated : 0 ∉ v) (rest : Bytes) :
    expands shell c (cString (v.flatMap shellByte ++ 34 :: rest)) = expands shell c v := by
  have headless : v.head? ≠ some 0 := fun zero => terminated (List.mem_of_mem_head? zero)
  rw [expands, next_byte shell v rest headless, expands]

theorem scan_passes {v : Bytes} (passes : Passes shell v) (w rest : Bytes) :
    scan shell (.quoted w) (cString (v.flatMap shellByte ++ 34 :: rest)) =
      scan shell (.word (w ++ v)) (cString rest) := by
  induction v generalizing w with
  | nil =>
    rw [List.append_nil]
    rfl
  | cons c v ih =>
    obtain ⟨terminated, constant⟩ := passes
    rw [List.mem_cons, not_or] at terminated
    rw [startsExpansion, Bool.or_eq_false_iff] at constant
    have nonzero : c ≠ 0 := Ne.symm terminated.1
    have tail := ih ⟨terminated.2, constant.2⟩ (w ++ [c])
    rw [List.append_assoc, List.singleton_append] at tail
    by_cases special : c = 34 ∨ c = 92
    · rw [text_special special, cString_cons (by decide), cString_cons nonzero,
        scan_escape shell _ _ special, tail]
    · have own := (expands_text shell c terminated.2 rest).trans constant.1
      rw [text_ordinary special, cString_cons nonzero, scan_text_byte shell _ _ special own, tail]

theorem passes_cons {c : UInt8} {v : Bytes} (nonzero : c ≠ 0) (own : expands shell c v = false)
    (passes : Passes shell v) : Passes shell (c :: v) := by
  obtain ⟨terminated, constant⟩ := passes
  refine ⟨?_, ?_⟩
  · simp [Ne.symm nonzero, terminated]
  · rw [startsExpansion, own, constant]
    rfl

/-- Where a text does not pass, the shell does not come to a list of words. -/
theorem scan_not_passes {v : Bytes} (stuck : ¬ Passes shell v) (w rest : Bytes) (ws : List Bytes) :
    scan shell (.quoted w) (cString (v.flatMap shellByte ++ 34 :: rest)) ≠ .words ws := by
  induction v generalizing w with
  | nil => exact absurd ⟨by simp, rfl⟩ stuck
  | cons c v ih =>
    by_cases zero : c = 0
    · subst zero
      rw [text_ordinary (by decide)]
      simp [cString, scan]
    by_cases special : c = 34 ∨ c = 92
    · have own := expands_special shell special v
      rw [text_special special, cString_cons (by decide), cString_cons zero,
        scan_escape shell _ _ special]
      exact ih (fun tail => stuck (passes_cons shell zero own tail)) _
    · rw [text_ordinary special, cString_cons zero]
      cases own : expands shell c (cString (v.flatMap shellByte ++ 34 :: rest)) with
      | true =>
        have no_quote : c ≠ doubleQuote := fun quote => special (Or.inl quote)
        rw [scan, if_neg no_quote, if_pos own]
        simp
      | false =>
        rw [scan_text_byte shell _ _ special own]
        refine ih (fun tail => stuck (passes_cons shell zero ?_ tail)) _
        rwa [expands_text shell c tail.terminated] at own

end quoted

section command

/-- From this mode on, the shell takes the text for these words. -/
def Reads (mode : Mode) (text : Bytes) (ws : List Bytes) : Prop :=
  scan shell mode (cString text) = .words ws

theorem cons_words (w : Bytes) (command : Command) (ws : List Bytes) :
    command.cons w = .words ws ↔ ∃ others, command = .words others ∧ ws = w :: others := by
  cases command with
  | words others =>
    constructor
    · rintro ⟨rfl⟩
      exact ⟨others, rfl, rfl⟩
    · rintro ⟨_, ⟨rfl⟩, rfl⟩
      rfl
  | _ => simp [Command.cons]

@[simp] theorem reads_end (w : Bytes) (ws : List Bytes) :
    Reads shell (.word w) [] ws ↔ ws = [w] := by
  simp [Reads, cString, scan, eq_comm]

theorem reads_blank (w rest : Bytes) (ws : List Bytes) :
    Reads shell (.word w) (32 :: rest) ws ↔
      ∃ others, Reads shell .between rest others ∧ ws = w :: others := by
  rw [Reads, cString_cons (by decide)]
  exact cons_words w _ ws

/-- A text that is a word, or the beginning of one, without quotes. -/
def PlainWord (text : Bytes) : Prop := text ≠ [] ∧ text.all isPlain = true

instance (text : Bytes) : Decidable (PlainWord text) := inferInstanceAs (Decidable (_ ∧ _))

theorem plainWord_natText (n : Nat) : PlainWord (natText n) := by
  refine ⟨natText_ne_nil n, List.all_eq_true.mpr fun c inside => ?_⟩
  simp [isPlain, natText_isDigit n c inside]

theorem reads_plain {text : Bytes} (plain : PlainWord text) (rest : Bytes) (ws : List Bytes) :
    Reads shell .between (text ++ rest) ws ↔ Reads shell (.word text) rest ws := by
  obtain ⟨nonempty, plain⟩ := plain
  have terminated : 0 ∉ text := fun zero => absurd (List.all_eq_true.mp plain 0 zero) (by decide)
  rw [Reads, cString_append terminated, scan_plain_word shell nonempty plain, Reads]

theorem shellQuote_append (v rest : Bytes) :
    shellQuote v ++ rest = 34 :: (v.flatMap shellByte ++ 34 :: rest) := by simp [shellQuote]

theorem reads_within (v w rest : Bytes) (ws : List Bytes) :
    Reads shell (.quoted w) (v.flatMap shellByte ++ 34 :: rest) ws ↔
      Passes shell v ∧ Reads shell (.word (w ++ v)) rest ws := by
  by_cases passes : Passes shell v
  · rw [Reads, scan_passes shell passes]
    exact ⟨fun read => ⟨passes, read⟩, fun both => both.2⟩
  · exact ⟨fun read => absurd read (scan_not_passes shell passes w rest ws),
      fun both => absurd both.1 passes⟩

theorem reads_quoted (v rest : Bytes) (ws : List Bytes) :
    Reads shell .between (shellQuote v ++ rest) ws ↔
      Passes shell v ∧ Reads shell (.word v) rest ws := by
  rw [shellQuote_append, Reads, cString_cons (by decide)]
  exact reads_within shell v [] rest ws

theorem reads_quoted_after (w v rest : Bytes) (ws : List Bytes) :
    Reads shell (.word w) (shellQuote v ++ rest) ws ↔
      Passes shell v ∧ Reads shell (.word (w ++ v)) rest ws := by
  rw [shellQuote_append, Reads, cString_cons (by decide)]
  exact reads_within shell v w rest ws

/-- The words that the mysql client is meant to be started with. -/
def mysqlArguments (config : MysqlConfig) (sql : Bytes) : List Bytes :=
  [bytes "mysql", bytes "--batch", bytes "--raw", bytes "--skip-column-names", bytes "-h",
    config.host, bytes "-P", natText config.port.toNat, bytes "-u", config.user] ++
  (if config.password = [] then [] else [bytes "--password=" ++ config.password]) ++
  [config.database, bytes "-e", sql]

theorem passes_nil : Passes shell [] := ⟨by simp, rfl⟩

def optionsText (options : List Bytes) : Bytes := options.flatMap fun text => text ++ [32]

theorem reads_options {options : List Bytes} (plain : ∀ text ∈ options, PlainWord text)
    (rest : Bytes) (ws : List Bytes) :
    Reads shell .between (optionsText options ++ rest) ws ↔
      ∃ others, Reads shell .between rest others ∧ ws = options ++ others := by
  induction options generalizing ws with
  | nil => simp [optionsText]
  | cons text options ih =>
    have tail := ih fun other inside => plain other (by simp [inside])
    have split : optionsText (text :: options) ++ rest =
        text ++ 32 :: (optionsText options ++ rest) := by simp [optionsText]
    rw [split, reads_plain shell (plain text (by simp)), reads_blank]
    simp only [tail]
    constructor
    · rintro ⟨_, ⟨others, read, rfl⟩, rfl⟩
      exact ⟨others, read, rfl⟩
    · rintro ⟨others, read, rfl⟩
      exact ⟨_, ⟨others, read, rfl⟩, rfl⟩

variable (config : MysqlConfig) (sql : Bytes)

def statementText : Bytes :=
  shellQuote config.database ++ 32 :: (optionsText [bytes "-e"] ++ shellQuote sql)

def passwordText : Bytes :=
  if config.password = [] then [] else 32 :: (bytes "--password=" ++ shellQuote config.password)

theorem reads_statement (ws : List Bytes) :
    Reads shell .between (statementText config sql) ws ↔
      (Passes shell config.database ∧ Passes shell sql) ∧
        ws = [config.database, bytes "-e", sql] := by
  have last := reads_quoted shell sql []
  simp only [List.append_nil, reads_end] at last
  have option : ∀ text ∈ [bytes "-e"], PlainWord text := by decide
  rw [statementText, reads_quoted, reads_blank]
  simp only [reads_options shell option, last]
  constructor
  · rintro ⟨database, _, ⟨_, ⟨statement, rfl⟩, rfl⟩, rfl⟩
    exact ⟨⟨database, statement⟩, rfl⟩
  · rintro ⟨⟨database, statement⟩, rfl⟩
    exact ⟨database, _, ⟨_, ⟨statement, rfl⟩, rfl⟩, rfl⟩

theorem reads_password (ws : List Bytes) :
    Reads shell (.word config.user) (passwordText config ++ 32 :: statementText config sql) ws ↔
      (Passes shell config.password ∧ Passes shell config.database ∧ Passes shell sql) ∧
        ws = config.user ::
          ((if config.password = [] then [] else [bytes "--password=" ++ config.password]) ++
            [config.database, bytes "-e", sql]) := by
  by_cases none : config.password = []
  · rw [passwordText, if_pos none, if_pos none, List.nil_append, List.nil_append, reads_blank, none]
    simp only [reads_statement]
    constructor
    · rintro ⟨_, ⟨passes, rfl⟩, rfl⟩
      exact ⟨⟨passes_nil shell, passes⟩, rfl⟩
    · rintro ⟨⟨_, passes⟩, rfl⟩
      exact ⟨_, ⟨passes, rfl⟩, rfl⟩
  · have option : PlainWord (bytes "--password=") := by decide
    rw [passwordText, if_neg none, if_neg none, List.cons_append, List.append_assoc, reads_blank]
    simp only [reads_plain shell option, reads_quoted_after, reads_blank, reads_statement]
    constructor
    · rintro ⟨_, ⟨password, _, ⟨passes, rfl⟩, rfl⟩, rfl⟩
      exact ⟨⟨password, passes⟩, rfl⟩
    · rintro ⟨⟨password, passes⟩, rfl⟩
      exact ⟨_, ⟨password, _, ⟨passes, rfl⟩, rfl⟩, rfl⟩

def clientOptions : List Bytes :=
  [bytes "mysql", bytes "--batch", bytes "--raw", bytes "--skip-column-names", bytes "-h"]

def accountOptions : List Bytes := [bytes "-P", natText config.port.toNat, bytes "-u"]

theorem buildCommand_texts :
    buildCommand config sql =
      optionsText clientOptions ++ (shellQuote config.host ++ 32 ::
        (optionsText (accountOptions config) ++ (shellQuote config.user ++
          (passwordText config ++ 32 :: statementText config sql)))) := by
  have client : bytes "mysql --batch --raw --skip-column-names" ++ bytes " -h " =
      optionsText clientOptions := by decide
  have port : bytes " -P " = 32 :: (bytes "-P" ++ [32]) := by decide
  have user : bytes " -u " = 32 :: (bytes "-u" ++ [32]) := by decide
  have password : bytes " --password=" = 32 :: bytes "--password=" := by decide
  have blank : bytes " " = [32] := by decide
  have statement : bytes " -e " = 32 :: (bytes "-e" ++ [32]) := by decide
  rw [buildCommand, client, port, user, password, blank, statement]
  simp [passwordText, statementText, accountOptions, optionsText]

theorem reads_command (ws : List Bytes) :
    Reads shell .between (buildCommand config sql) ws ↔
      (∀ text ∈ [config.host, config.user, config.password, config.database, sql],
        Passes shell text) ∧ ws = mysqlArguments config sql := by
  have client : ∀ text ∈ clientOptions, PlainWord text := by decide
  have account : ∀ text ∈ accountOptions config, PlainWord text := by
    have port := plainWord_natText config.port.toNat
    have before : PlainWord (bytes "-P") := by decide
    have after : PlainWord (bytes "-u") := by decide
    simp [accountOptions, port, before, after]
  rw [buildCommand_texts]
  simp only [reads_options shell client, reads_options shell account, reads_quoted, reads_blank,
    reads_password]
  constructor
  · rintro ⟨_, ⟨host, _, ⟨_, ⟨user, ⟨password, database, statement⟩, rfl⟩, rfl⟩, rfl⟩, rfl⟩
    refine ⟨?_, ?_⟩
    · simp [host, user, password, database, statement]
    · simp [mysqlArguments, clientOptions, accountOptions]
  · rintro ⟨passes, rfl⟩
    simp only [List.mem_cons, List.not_mem_nil, or_false, forall_eq_or_imp, forall_eq] at passes
    obtain ⟨host, user, rest⟩ := passes
    exact ⟨_, ⟨host, _, ⟨_, ⟨user, rest, rfl⟩, rfl⟩, rfl⟩, rfl⟩

end command

section username

theorem zero_sqlText (u : Bytes) : 0 ∈ u.flatMap sqlByte ↔ 0 ∈ u := by
  induction u with
  | nil => rfl
  | cons c u ih =>
    by_cases quote : c = 39
    · subst quote
      simp [sqlByte, ih]
    · simp [sqlByte, quote, ih]

theorem startsExpansion_sqlText (u rest : Bytes) :
    startsExpansion shell (u.flatMap sqlByte ++ 39 :: rest) =
      (startsExpansion shell u || startsExpansion shell rest) := by
  have quote : shell.introduces 39 = false := shell.ordinary.2.1
  have own_quote : ∀ text, expands shell 39 text = false := fun _ => rfl
  induction u with
  | nil => rfl
  | cons c u ih =>
    by_cases quoted : c = 39
    · subst quoted
      simp [sqlByte, startsExpansion, own_quote, ih]
    · have next : (u.flatMap sqlByte ++ 39 :: rest).head?.any shell.introduces =
          u.head?.any shell.introduces := by
        cases u with
        | nil => simp [quote]
        | cons d u =>
          by_cases second : d = 39
          · simp [sqlByte, second, quote]
          · simp [sqlByte, second]
      have own : expands shell c (u.flatMap sqlByte ++ 39 :: rest) = expands shell c u := by
        rw [expands, next, expands]
      have text : (c :: u).flatMap sqlByte ++ 39 :: rest =
          c :: (u.flatMap sqlByte ++ 39 :: rest) := by simp [sqlByte, quoted]
      rw [text, startsExpansion, own, ih, startsExpansion, Bool.or_assoc]

/-- A text without a byte that the shell could take for more. -/
def Inert (text : Bytes) : Prop := 0 ∉ text ∧ backquote ∉ text ∧ dollar ∉ text

instance (text : Bytes) : Decidable (Inert text) := inferInstanceAs (Decidable (_ ∧ _))

theorem inert_constant {text : Bytes} (inert : Inert text) :
    startsExpansion shell text = false := by
  rw [← List.append_nil text, startsExpansion_append shell inert.2.1 inert.2.2]
  rfl

theorem passes_literal {before after : Bytes} (inert_before : Inert before)
    (inert_after : Inert after) (u : Bytes) :
    Passes shell (before ++ (u.flatMap sqlByte ++ 39 :: after)) ↔ Passes shell u := by
  have zero : 0 ∈ before ++ (u.flatMap sqlByte ++ 39 :: after) ↔ 0 ∈ u := by
    rw [List.mem_append, or_iff_right inert_before.1, List.mem_append, zero_sqlText, List.mem_cons]
    simp [inert_after.1]
  have constant : startsExpansion shell (before ++ (u.flatMap sqlByte ++ 39 :: after)) =
      startsExpansion shell u := by
    rw [startsExpansion_append shell inert_before.2.1 inert_before.2.2, startsExpansion_sqlText,
      inert_constant shell inert_after, Bool.or_false]
  constructor
  · rintro ⟨terminated, none⟩
    exact ⟨fun inside => terminated (zero.mpr inside), constant ▸ none⟩
  · rintro ⟨terminated, none⟩
    exact ⟨fun inside => terminated (zero.mp inside), constant.trans none⟩

theorem passes_query (u : Bytes) :
    Passes shell (querySql (usernameClause u)) ↔ Passes shell u := by
  have text : querySql (usernameClause u) =
      (bytes "SELECT user_id, username, password, email, role FROM users WHERE " ++
        bytes "username='") ++ (u.flatMap sqlByte ++ 39 :: bytes " LIMIT 1") := by
    have clause : bytes "username=" ++ [39] = bytes "username='" := by decide
    rw [← clause]
    simp [querySql, usernameClause, sqlQuote]
  rw [text]
  exact passes_literal shell (by decide) (by decide) u

/-- ShellQuote gives its text back exactly where no expansion begins in it, and the statement for a
    username comes through exactly where that holds of the username and of the settings. -/
theorem shell_quote_iff :
    (∀ v, shellWords shell (cString (shellQuote v)) = .words [v] ↔ Passes shell v) ∧
    ∀ (config : MysqlConfig) username,
      shellWords shell (pipeCommand config (usernameClause username)) =
          .words (mysqlArguments config (querySql (usernameClause username))) ↔
        ∀ text ∈ [config.host, config.user, config.password, config.database, username],
          Passes shell text := by
  constructor
  · intro v
    have alone := reads_quoted shell v [] [v]
    rw [List.append_nil, reads_end] at alone
    exact alone.trans (and_iff_left rfl)
  · intro config username
    have read := reads_command shell config (querySql (usernameClause username))
      (mysqlArguments config (querySql (usernameClause username)))
    simp only [List.mem_cons, List.not_mem_nil, or_false, forall_eq_or_imp, forall_eq,
      passes_query, and_true] at read ⊢
    exact read

/-- A client's login name is run as a command. -/
theorem backquoted_name_runs :
    shellWords posixShell (cString (shellQuote (bytes "`id`"))) ≠ .words [bytes "`id`"] ∧
    shellWords posixShell (pipeCommand {} (usernameClause (bytes "`id`"))) =
      .expansion (bytes "`id`' LIMIT 1\"") := by decide +kernel

end username

end TgwShellQuoting
