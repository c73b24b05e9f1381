import TgwGateway.Service.UserRepository

/- The rows that the repository reads back from the mysql client: the columns of one record, joined
   by tabs and ended by a newline, with nothing escaped. -/
namespace TgwUserRows
open ByteStrings ByteSearch DecimalText TgwConfig TgwExceptions TgwUserService TgwUserRepository

/-- The columns of a record as the client prints them. -/
def rowFields (user : UserRecord) : List Bytes :=
  [intText user.userId.toInt, user.username, user.password, user.email, user.role]

def rowBody (user : UserRecord) : Bytes := [tab].intercalate (rowFields user)

def rowText (user : UserRecord) : Bytes := rowBody user ++ [newline]

/-- A query that prints the row of a record returns the record. -/
def ReturnsRecord (user : UserRecord) : Prop :=
  ∀ (popen : Bytes → Option Bytes) (config : MysqlConfig) (whereClause : Bytes),
    popen (pipeCommand config whereClause) = some (rowText user) →
      queryOne popen config whereClause = .ok (some user)

def isLineEnd (c : UInt8) : Bool := c == newline || c == carriageReturn

/-- No text column holds a tab or a zero byte, and the role does not end in a line end. -/
structure PlainRow (user : UserRecord) : Prop where
  columns : ∀ column ∈ (rowFields user).tail, tab ∉ column ∧ 0 ∉ column
  role : ∀ c ∈ user.role.getLast?, isLineEnd c = false

section splitting
variable {line : Bytes}

theorem splitTabLoop_eq {fuel start : Nat} (inside : start ≤ line.length)
    (turns : line.length < start + fuel) :
    splitTabLoop line fuel start = (line.drop start).splitOn tab := by
  induction fuel generalizing start with
  | zero => omega
  | succ fuel ih =>
    have reached : ¬ line.length < start := by omega
    rw [splitTabLoop, if_neg reached]
    by_cases more : tab ∈ line.drop start
    · obtain ⟨field, rest, split, plain, stop, room, later⟩ := findFrom_piece more
      simp only [stop, Option.getD_some]
      rw [if_neg (by omega), ih (by omega) (by omega), later, split,
        List.splitOn_append_cons_self_of_not_mem plain]
      simp
    · simp only [findFrom_none more, Option.getD_none, ↓reduceIte]
      rw [List.splitOn_eq_singleton more, ← List.length_drop, List.take_length]

theorem splitTabLine_eq (line : Bytes) : splitTabLine line = line.splitOn tab := by
  have split := @splitTabLoop_eq line (line.length + 1) 0 (Nat.zero_le _) (by omega)
  rwa [List.drop_zero] at split

theorem rejoined (line : Bytes) : [tab].intercalate (splitTabLine line) = line := by
  rw [splitTabLine_eq, List.intercalate_splitOn]

theorem tab_not_in_pieces (line : Bytes) : ∀ piece ∈ splitTabLine line, tab ∉ piece := by
  rw [splitTabLine_eq]
  induction line with
  | nil => simp [List.splitOn_nil]
  | cons c line ih =>
    rw [List.splitOn_cons_eq_if_modifyHead]
    split
    · simpa using ih
    · rename_i other
      obtain ⟨first, rest, pieces⟩ := List.exists_cons_of_ne_nil (List.splitOn_ne_nil tab line)
      rw [pieces] at ih ⊢
      intro piece member
      rcases List.mem_cons.mp member with rfl | later
      · have distinct : tab ≠ c := fun same => other (by simp [same])
        simpa [distinct] using ih first List.mem_cons_self
      · exact ih piece (List.mem_cons_of_mem first later)

end splitting

section reading
variable {stream : Bytes}

theorem fgetsLine_begins (stream : Bytes) : fgetsLine stream <+: stream := by
  unfold fgetsLine
  simp only
  split
  · exact (List.take_prefix _ _).trans (List.take_prefix _ _)
  · exact List.take_prefix _ _

theorem fgetsLine_ne_nil (more : stream ≠ []) : fgetsLine stream ≠ [] := by
  obtain ⟨c, rest, rfl⟩ := List.exists_cons_of_ne_nil more
  unfold fgetsLine
  simp only [List.take_succ_cons]
  split <;> simp

theorem cString_begins (text : Bytes) : cString text <+: text := List.takeWhile_prefix _

theorem zero_not_in_cString (text : Bytes) : 0 ∉ cString text := by
  intro member
  have kept := List.mem_takeWhile_imp member
  simp at kept

theorem cString_plain {text : Bytes} (plain : 0 ∉ text) : cString text = text := by
  refine List.takeWhile_eq_self_iff.mpr fun c member => ?_
  simp only [ne_eq, decide_eq_true_eq]
  rintro rfl
  exact plain member

/-- What the buffer shows of a stream: its bytes in order, none of them zero. -/
theorem readLoop_shows (fuel : Nat) (stream : Bytes) :
    (readLoop fuel stream).Sublist stream ∧ 0 ∉ readLoop fuel stream := by
  induction fuel generalizing stream with
  | zero => simp [readLoop]
  | succ fuel ih =>
    unfold readLoop
    split
    · simp
    · obtain ⟨sub, plain⟩ := ih (stream.drop (fgetsLine stream).length)
      obtain ⟨rest, whole⟩ := fgetsLine_begins stream
      have left : stream.drop (fgetsLine stream).length = rest := by
        nth_rewrite 2 [← whole]
        rw [List.drop_left]
      rw [left] at sub plain ⊢
      constructor
      · have joined := (cString_begins (fgetsLine stream)).sublist.append sub
        rwa [whole] at joined
      · simp [zero_not_in_cString, plain]

theorem readLoop_begins {fuel : Nat} {stream : Bytes} (turns : stream.length ≤ fuel) :
    cString stream <+: readLoop fuel stream := by
  induction fuel generalizing stream with
  | zero =>
    obtain rfl := List.length_eq_zero_iff.mp (Nat.le_zero.mp turns)
    exact List.prefix_refl _
  | succ fuel ih =>
    unfold readLoop
    split
    · rename_i ended
      rw [ended]
      exact List.prefix_refl _
    · rename_i more
      obtain ⟨rest, whole⟩ := fgetsLine_begins stream
      have taken := List.length_pos_iff.mpr (fgetsLine_ne_nil more)
      have size := congrArg List.length whole
      rw [List.length_append] at size
      have left : stream.drop (fgetsLine stream).length = rest := by
        nth_rewrite 2 [← whole]
        rw [List.drop_left]
      rw [left]
      nth_rewrite 1 [← whole]
      by_cases plain : 0 ∈ fgetsLine stream
      · obtain ⟨shown, hidden, split, before⟩ := List.eq_append_cons_of_mem plain
        have cut : ∀ later : Bytes, cString (shown ++ 0 :: later) = shown := by
          intro later
          rw [cString_append before]
          exact List.append_nil shown
        rw [split, List.append_assoc, List.cons_append, cut, cut]
        exact List.prefix_append _ _
      · rw [cString_append plain, cString_plain plain]
        exact (List.prefix_append_right_inj _).mpr (ih (by omega))

theorem readOutput_shows (stream : Bytes) :
    (readOutput stream).Sublist stream ∧ 0 ∉ readOutput stream :=
  readLoop_shows stream.length stream

theorem readOutput_plain (plain : 0 ∉ stream) : readOutput stream = stream := by
  have begins := readLoop_begins (Nat.le_refl stream.length)
  rw [cString_plain plain] at begins
  exact (readOutput_shows stream).1.antisymm begins.sublist

theorem stripLineEnds_begins (output : Bytes) : stripLineEnds output <+: output :=
  List.rdropWhile_prefix _ output

theorem sublist_of_stripped {body output : Bytes}
    (within : output.Sublist (body ++ [newline])) : (stripLineEnds output).Sublist body := by
  have shorter := (stripLineEnds_begins output).sublist.trans within
  obtain ⟨front, back, split, inBody, inEnd⟩ := List.sublist_append_iff.mp shorter
  rcases List.sublist_singleton.mp inEnd with rfl | rfl
  · rw [split, List.append_nil]
    exact inBody
  · have nonempty : stripLineEnds output ≠ [] := by simp [split]
    have last : ¬ isLineEnd ((stripLineEnds output).getLast nonempty) = true :=
      List.rdropWhile_last_not _ output nonempty
    have ended : (stripLineEnds output).getLast nonempty = newline := by
      rw [List.getLast_eq_iff_getLast?_eq_some, split]
      simp
    rw [ended] at last
    exact absurd rfl last

end reading

theorem intText_no_tab (n : Int) : tab ∉ intText n ∧ 0 ∉ intText n := by
  constructor
  · intro member
    rcases intText_bytes n tab member with minus | digit
    · exact absurd minus (by decide)
    · exact absurd digit (by decide)
  · intro member
    rcases intText_bytes n 0 member with minus | digit
    · exact absurd minus (by decide)
    · exact absurd digit (by decide)

section rows
variable (user : UserRecord)

theorem rowBody_eq :
    rowBody user = [tab].intercalate (rowFields user).dropLast ++ tab :: user.role := by
  simp [rowBody, rowFields, List.intercalate_cons_cons]

theorem rowBody_begins :
    ∃ rest, rowBody user = intText user.userId.toInt ++ tab :: rest := by
  refine ⟨[tab].intercalate (rowFields user).tail, ?_⟩
  simp [rowBody, rowFields, List.intercalate_cons_cons]

theorem mem_rowBody {c : UInt8} :
    c ∈ rowBody user ↔ c = tab ∨ ∃ column ∈ rowFields user, c ∈ column := by
  simp only [rowBody, rowFields, List.intercalate_cons_cons, List.intercalate_singleton,
    List.mem_append, List.mem_cons, List.not_mem_nil, or_false, exists_eq_or_imp, exists_eq_left]
  tauto

variable {user}

theorem plain_fields (plain : PlainRow user) :
    ∀ column ∈ rowFields user, tab ∉ column ∧ 0 ∉ column := by
  intro column member
  rcases List.mem_cons.mp member with rfl | text
  · exact intText_no_tab _
  · exact plain.columns column text

theorem plain_output (plain : PlainRow user) :
    stripLineEnds (readOutput (rowText user)) = rowBody user := by
  have noZero : 0 ∉ rowText user := by
    intro member
    rcases List.mem_append.mp member with body | ended
    · rcases (mem_rowBody user).mp body with same | ⟨column, inside, found⟩
      · exact absurd same (by decide)
      · exact (plain_fields plain column inside).2 found
    · exact absurd (List.mem_singleton.mp ended) (by decide)
  have ends : ∀ nonempty : rowBody user ≠ [],
      ¬ isLineEnd ((rowBody user).getLast nonempty) = true := by
    intro nonempty
    have last : (rowBody user).getLast? = some (user.role.getLast?.getD tab) := by
      rw [rowBody_eq]
      cases role : user.role.getLast? with
      | none => simp [List.getLast?_eq_none_iff.mp role]
      | some c => simp [List.getLast?_cons, role]
    rw [← List.getLast_eq_iff_getLast?_eq_some nonempty] at last
    rw [last]
    cases role : user.role.getLast? with
    | none => decide
    | some c => simp [plain.role c role]
  rw [readOutput_plain noZero, rowText, stripLineEnds, List.rdropWhile_concat_pos _ _ _ (by decide)]
  exact List.rdropWhile_eq_self_iff.mpr ends

theorem readUser_plain (plain : PlainRow user) : readUser (rowText user) = .ok (some user) := by
  obtain ⟨rest, begins⟩ := rowBody_begins user
  have nonempty : rowBody user ≠ [] := by simp [begins]
  have split : splitTabLine (rowBody user) = rowFields user := by
    rw [splitTabLine_eq]
    exact List.splitOn_intercalate tab (fun column member => (plain_fields plain column member).1)
      (by simp [rowFields])
  have low := user.userId.le_toInt
  have high := user.userId.toInt_lt
  simp only [readUser, plain_output plain, if_neg nonempty, split, rowFields,
    stoll_intText low high, Int64.ofInt_toInt]

theorem fields_of_readUser (read : readUser (rowText user) = .ok (some user)) :
    ∃ first more, splitTabLine (stripLineEnds (readOutput (rowText user))) =
      first :: ((rowFields user).tail ++ more) := by
  unfold readUser at read
  simp only at read
  split at read
  · cases read
  · split at read
    · rename_i userId username password email role more fields
      split at read
      · cases read
      · cases read
        exact ⟨userId, more, fields⟩
    · cases read

/-- The first column is read as it is printed, because no tab and no zero byte comes before the
    first tab. -/
theorem first_column {first : Bytes} {later : List Bytes}
    (fields : splitTabLine (stripLineEnds (readOutput (rowText user))) = first :: later)
    (some_more : later ≠ []) : first = intText user.userId.toInt := by
  obtain ⟨plainId, shownId⟩ := intText_no_tab user.userId.toInt
  obtain ⟨rest, begins⟩ := rowBody_begins user
  have shown : intText user.userId.toInt ++ tab :: cString (rest ++ [newline]) <+:
      readOutput (rowText user) := by
    have text : rowText user =
        (intText user.userId.toInt ++ [tab]) ++ (rest ++ [newline]) := by
      simp [rowText, begins]
    have printed := readLoop_begins (Nat.le_refl (rowText user).length)
    have noZero : 0 ∉ intText user.userId.toInt ++ [tab] := by
      simpa [shownId] using (by decide : (0 : UInt8) ≠ tab)
    nth_rewrite 1 [text] at printed
    rw [cString_append noZero, List.append_assoc] at printed
    exact printed
  have plain := tab_not_in_pieces _ first (by rw [fields]; exact List.mem_cons_self)
  have joined := rejoined (stripLineEnds (readOutput (rowText user)))
  obtain ⟨second, others, rfl⟩ := List.exists_cons_of_ne_nil some_more
  rw [fields, List.intercalate_cons_cons] at joined
  obtain ⟨x, front⟩ := stripLineEnds_begins (readOutput (rowText user))
  obtain ⟨y, whole⟩ := shown
  have same := front.trans whole.symm
  rw [← joined] at same
  simp only [List.append_assoc, List.cons_append] at same
  have pieces := congrArg (List.splitOn tab) same
  rw [List.splitOn_append_cons_self_of_not_mem plain,
    List.splitOn_append_cons_self_of_not_mem plainId] at pieces
  exact (List.cons.inj pieces).1

/-- A record that is read back fills the whole row, so nothing of the row was lost or moved. -/
theorem output_of_readUser (read : readUser (rowText user) = .ok (some user)) :
    stripLineEnds (readOutput (rowText user)) = rowBody user := by
  obtain ⟨first, more, fields⟩ := fields_of_readUser read
  obtain rfl := first_column fields (by simp [rowFields])
  have joined := rejoined (stripLineEnds (readOutput (rowText user)))
  rw [fields] at joined
  cases more with
  | nil =>
    rw [List.append_nil] at joined
    exact joined.symm
  | cons extra more =>
    have longer : rowBody user ++ tab :: [tab].intercalate (extra :: more) =
        stripLineEnds (readOutput (rowText user)) := by
      rw [← joined]
      simp [rowBody, rowFields, List.intercalate_cons_cons]
    have size := (sublist_of_stripped (readOutput_shows (rowText user)).1).length_le
    rw [← longer] at size
    simp only [List.length_append, List.length_cons] at size
    omega

theorem plain_of_readUser (read : readUser (rowText user) = .ok (some user)) : PlainRow user := by
  have output := output_of_readUser read
  obtain ⟨first, more, fields⟩ := fields_of_readUser read
  constructor
  · intro column member
    constructor
    · refine tab_not_in_pieces (stripLineEnds (readOutput (rowText user))) column ?_
      rw [fields]
      exact List.mem_cons_of_mem first (List.mem_append_left more member)
    · intro zero
      have inside : 0 ∈ rowBody user :=
        (mem_rowBody user).mpr (Or.inr ⟨column, List.mem_cons_of_mem _ member, zero⟩)
      rw [← output] at inside
      exact (readOutput_shows (rowText user)).2 ((stripLineEnds_begins _).subset inside)
  · intro c last
    have nonempty : stripLineEnds (readOutput (rowText user)) ≠ [] := by
      rw [output, rowBody_eq]
      simp
    have kept : ¬ isLineEnd ((stripLineEnds (readOutput (rowText user))).getLast nonempty) = true :=
      List.rdropWhile_last_not _ _ nonempty
    have ended : (stripLineEnds (readOutput (rowText user))).getLast nonempty = c := by
      rw [List.getLast_eq_iff_getLast?_eq_some, output, rowBody_eq]
      simp [List.getLast?_cons, Option.mem_def.mp last]
    rw [ended] at kept
    simpa using kept

theorem returns_record_iff (user : UserRecord) : ReturnsRecord user ↔ PlainRow user := by
  constructor
  · intro returns
    have read := returns (fun _ => some (rowText user)) {} [] rfl
    exact plain_of_readUser read
  · intro plain popen config whereClause printed
    rw [queryOne, printed]
    exact readUser_plain plain

end rows

def tabbedUser : UserRecord where
  userId := 7
  username := bytes "eve\tpw\te@x\tadmin"
  password := bytes "secret"
  email := bytes "eve@example.com"
  role := bytes "user"

theorem tabbed_name_reads_admin :
    readUser (rowText tabbedUser) = .ok (some ⟨7, bytes "eve", bytes "pw", bytes "e@x",
      bytes "admin"⟩) ∧ ¬ ReturnsRecord tabbedUser := by
  have read : readUser (rowText tabbedUser) = .ok (some ⟨7, bytes "eve", bytes "pw", bytes "e@x",
      bytes "admin"⟩) := by decide
  refine ⟨read, fun returns => ?_⟩
  have own := returns (fun _ => some (rowText tabbedUser)) {} [] rfl
  rw [queryOne] at own
  exact absurd (read.symm.trans own) (by decide)

end TgwUserRows
