import TgwGateway.Lib.DecimalText
import Mathlib.Data.List.TakeWhile

/- The Prometheus text format over octets, for the families whose samples bear the name of the
   family and whole numbers. A reader of any such text, and a writer that it undoes. -/
namespace PrometheusText
open ByteStrings DecimalText

structure Sample where
  name : Bytes
  labels : List (Bytes × Bytes)
  value : Nat
  timestamp : Option Int := none
  deriving DecidableEq

structure Family where
  name : Bytes
  help : Option Bytes := none
  kind : Option Bytes := none
  samples : List Sample := []
  deriving DecidableEq

def isBlank (c : UInt8) : Bool := c == 32 || c == 9
def isVisible (c : UInt8) : Bool := !isBlank c

def isLabelByte (c : UInt8) : Bool :=
  (65 ≤ c && c ≤ 90) || (97 ≤ c && c ≤ 122) || c == 95 || isDigit c
def isMetricByte (c : UInt8) : Bool := isLabelByte c || c == 58

def kinds : List Bytes := [bytes "counter", bytes "gauge", bytes "untyped"]

section reader

def readName (allowed : UInt8 → Bool) (text : Bytes) : Option (Bytes × Bytes) :=
  let name := text.takeWhile allowed
  if name = [] || name.head?.any isDigit then none else some (name, text.dropWhile allowed)

/-- The octet that stands behind a backslash in a label value. -/
def unescape (c : UInt8) : Option UInt8 :=
  if c = 92 then some 92 else if c = 34 then some 34 else if c = 110 then some 10 else none

/-- From behind the opening quote. -/
def readLabelValue : Bytes → Option (Bytes × Bytes)
  | [] => none
  | c :: text =>
    if c = 34 then some ([], text)
    else if c = 92 then
      match text with
      | [] => none
      | escaped :: text =>
        match unescape escaped, readLabelValue text with
        | some octet, some (value, rest) => some (octet :: value, rest)
        | _, _ => none
    else (readLabelValue text).map fun (value, rest) => (c :: value, rest)

def readLabel (text : Bytes) : Option ((Bytes × Bytes) × Bytes) :=
  match readName isLabelByte text with
  | none => none
  | some (name, rest) =>
    match rest.dropWhile isBlank with
    | 61 :: rest =>
      match rest.dropWhile isBlank with
      | 34 :: rest => (readLabelValue rest).map fun (value, rest) => ((name, value), rest)
      | _ => none
    | _ => none

/-- From behind the opening brace; each turn reads a label, and a comma may end the last. -/
def readLabels : Nat → Bytes → Option (List (Bytes × Bytes) × Bytes)
  | 0, _ => none
  | turns + 1, text =>
    match text.dropWhile isBlank with
    | 125 :: rest => some ([], rest)
    | text =>
      match readLabel text with
      | none => none
      | some (label, rest) =>
        match rest.dropWhile isBlank with
        | 44 :: rest => (readLabels turns rest).map fun (labels, rest) => (label :: labels, rest)
        | 125 :: rest => some ([label], rest)
        | _ => none

def readNat (token : Bytes) : Option Nat :=
  if token ≠ [] && token.all isDigit then some (digitsValue token) else none

def readTimestamp : Bytes → Option (Option Int)
  | [] => some none
  | 45 :: token => (readNat token).map fun (n : Nat) => some (-(n : Int))
  | token => (readNat token).map fun (n : Nat) => some (n : Int)

def readLabelSet (text : Bytes) : Option (List (Bytes × Bytes) × Bytes) :=
  match text.dropWhile isBlank with
  | 123 :: rest => readLabels (rest.length + 1) rest
  | rest => some ([], rest)

def readSample (line : Bytes) : Option Sample := do
  let (name, rest) ← readName isMetricByte line
  let (labels, rest) ← readLabelSet rest
  let rest := rest.dropWhile isBlank
  let value ← readNat (rest.takeWhile isVisible)
  let timestamp ← readTimestamp ((rest.dropWhile isVisible).dropWhile isBlank)
  return ⟨name, labels, value, timestamp⟩

inductive Line where
  | ignored
  | help (name text : Bytes)
  | kind (name kind : Bytes)
  | sample (s : Sample)

def unescapeHelp : Bytes → Bytes
  | 92 :: 92 :: text => 92 :: unescapeHelp text
  | 92 :: 110 :: text => 10 :: unescapeHelp text
  | c :: text => c :: unescapeHelp text
  | [] => []

/-- From behind the number sign. -/
def readComment (text : Bytes) : Option Line :=
  let word := text.takeWhile isVisible
  let rest := (text.dropWhile isVisible).dropWhile isBlank
  if word = bytes "HELP" then do
    let (name, rest) ← readName isMetricByte rest
    if rest.head?.all isBlank then some (.help name (unescapeHelp (rest.dropWhile isBlank)))
    else none
  else if word = bytes "TYPE" then do
    let (name, rest) ← readName isMetricByte rest
    let kind := rest.dropWhile isBlank
    if rest.head?.all isBlank && kinds.contains kind then some (.kind name kind) else none
  else some .ignored

def readLine (line : Bytes) : Option Line :=
  match line.dropWhile isBlank with
  | [] => some .ignored
  | 35 :: text => readComment (text.dropWhile isBlank)
  | line => (readSample line).map .sample

/-- Changes the family of that name, which is a new one if there is none yet. -/
def changeFamily (name : Bytes) (change : Family → Option Family) :
    List Family → Option (List Family)
  | [] => (change { name := name }).map fun family => [family]
  | family :: families =>
    if family.name = name then (change family).map fun family => family :: families
    else (changeFamily name change families).map fun families => family :: families

def addLine (families : List Family) : Line → Option (List Family)
  | .ignored => some families
  | .help name text =>
    changeFamily name (fun family =>
      if family.help.isSome then none else some { family with help := some text }) families
  | .kind name kind =>
    changeFamily name (fun family =>
      if family.kind.isSome || family.samples ≠ [] then none
      else some { family with kind := some kind }) families
  | .sample s =>
    changeFamily s.name (fun family => some { family with samples := family.samples ++ [s] })
      families

def addLines : List Family → List Bytes → Option (List Family)
  | families, [] => some families
  | families, line :: lines => do addLines (← addLine families (← readLine line)) lines

/-- Every line, the last one too, has to end in a line feed. -/
def readFamilies (text : Bytes) : Option (List Family) :=
  let lines := text.splitOn 10
  if lines.getLast? = some [] then addLines [] lines.dropLast else none

end reader

section writer

def escapeByte (c : UInt8) : Bytes :=
  if c = 92 then [92, 92] else if c = 34 then [92, 34] else if c = 10 then [92, 110] else [c]

def escapeValue (value : Bytes) : Bytes := value.flatMap escapeByte

def labelText (label : Bytes × Bytes) : Bytes :=
  label.1 ++ 61 :: 34 :: (escapeValue label.2 ++ [34])

def labelsText (labels : List (Bytes × Bytes)) : Bytes :=
  123 :: ([44].intercalate (labels.map labelText) ++ [125])

def IsName (allowed : UInt8 → Bool) (name : Bytes) : Prop :=
  name ≠ [] ∧ (∀ c ∈ name, allowed c = true) ∧ name.head?.any isDigit = false

instance (allowed : UInt8 → Bool) (name : Bytes) : Decidable (IsName allowed name) :=
  inferInstanceAs (Decidable (_ ∧ _))

theorem isName_of_check {allowed : UInt8 → Bool} {name : Bytes}
    (check : (!name.isEmpty && name.all allowed && !name.head?.any isDigit) = true) :
    IsName allowed name := by
  simp only [Bool.and_eq_true, Bool.not_eq_true', List.isEmpty_eq_false_iff] at check
  obtain ⟨⟨nonempty, each⟩, letter⟩ := check
  exact ⟨nonempty, List.all_eq_true.mp each, letter⟩

theorem plain_of_check {help : Bytes} (check : help.all (fun c => c != 10 && c != 92) = true) :
    ∀ c ∈ help, c ≠ 10 ∧ c ≠ 92 := by
  intro c member
  simpa using List.all_eq_true.mp check c member

/-- A family as it can be written: the label set and the number of each sample. -/
structure Metric where
  name : Bytes
  help : Bytes
  kind : Bytes
  samples : List (List (Bytes × Bytes) × Nat)
  name_valid : IsName isMetricByte name
  help_plain : ∀ c ∈ help, c ≠ 10 ∧ c ≠ 92
  help_visible : help.head?.all isVisible = true
  kind_known : kind ∈ kinds
  labels_valid : ∀ sample ∈ samples, ∀ label ∈ sample.1, IsName isLabelByte label.1

def sampleLine (name : Bytes) (sample : List (Bytes × Bytes) × Nat) : Bytes :=
  name ++ labelsText sample.1 ++ 32 :: natText sample.2

def Metric.lines (metric : Metric) : List Bytes :=
  (bytes "# HELP " ++ metric.name ++ 32 :: metric.help) ::
    (bytes "# TYPE " ++ metric.name ++ 32 :: metric.kind) ::
    metric.samples.map (sampleLine metric.name)

def writeLines (lines : List Bytes) : Bytes := lines.flatMap (· ++ [10])

def Metric.sampleOf (metric : Metric) (sample : List (Bytes × Bytes) × Nat) : Sample :=
  { name := metric.name, labels := sample.1, value := sample.2 }

def Metric.family (metric : Metric) : Family :=
  { name := metric.name
    help := some metric.help
    kind := some metric.kind
    samples := metric.samples.map metric.sampleOf }

end writer

section labels

theorem escapeByte_cases (c : UInt8) :
    (escapeByte c = [c] ∧ c ≠ 34 ∧ c ≠ 92) ∨
      ∃ escaped, escapeByte c = [92, escaped] ∧ unescape escaped = some c := by
  unfold escapeByte
  by_cases backslash : c = 92
  · exact Or.inr ⟨92, by simp [backslash], by simp [unescape, backslash]⟩
  · by_cases quote : c = 34
    · exact Or.inr ⟨34, by simp [quote], by simp [unescape, quote]⟩
    · by_cases newline : c = 10
      · exact Or.inr ⟨110, by simp [newline], by simp [unescape, newline]⟩
      · exact Or.inl ⟨by simp [backslash, quote, newline], quote, backslash⟩

theorem escapeValue_plain {value : Bytes} (plain : ∀ c ∈ value, c ≠ 92 ∧ c ≠ 34 ∧ c ≠ 10) :
    escapeValue value = value := by
  induction value with
  | nil => rfl
  | cons c value ih =>
    obtain ⟨noBackslash, noQuote, noFeed⟩ := plain c List.mem_cons_self
    have others := ih fun other member => plain other (List.mem_cons_of_mem c member)
    rw [escapeValue] at others ⊢
    rw [List.flatMap_cons, others, escapeByte, if_neg noBackslash, if_neg noQuote, if_neg noFeed,
      List.singleton_append]

theorem readLabelValue_quote (rest : Bytes) : readLabelValue (34 :: rest) = some ([], rest) := by
  rw [readLabelValue.eq_def]
  simp

theorem readLabelValue_octet {c : UInt8} (noQuote : c ≠ 34) (noBackslash : c ≠ 92)
    {text value rest : Bytes} (read : readLabelValue text = some (value, rest)) :
    readLabelValue (c :: text) = some (c :: value, rest) := by
  rw [readLabelValue.eq_def]
  simp [noQuote, noBackslash, read]

theorem readLabelValue_escaped {escaped c : UInt8} (octet : unescape escaped = some c)
    {text value rest : Bytes} (read : readLabelValue text = some (value, rest)) :
    readLabelValue (92 :: escaped :: text) = some (c :: value, rest) := by
  rw [readLabelValue.eq_def]
  simp [octet, read]

theorem readLabelValue_escape (value rest : Bytes) :
    readLabelValue (escapeValue value ++ 34 :: rest) = some (value, rest) := by
  induction value with
  | nil => exact readLabelValue_quote rest
  | cons c value ih =>
    rw [escapeValue] at ih ⊢
    rw [List.flatMap_cons, List.append_assoc]
    rcases escapeByte_cases c with ⟨written, noQuote, noBackslash⟩ | ⟨escaped, written, octet⟩
    · rw [written]
      exact readLabelValue_octet noQuote noBackslash ih
    · rw [written]
      exact readLabelValue_escaped octet ih

theorem readName_append {allowed : UInt8 → Bool} {name : Bytes} (valid : IsName allowed name)
    {rest : Bytes} (stop : ∀ c ∈ rest.head?, allowed c = false) :
    readName allowed (name ++ rest) = some (name, rest) := by
  obtain ⟨nonempty, each, letter⟩ := valid
  have ends : rest.takeWhile allowed = [] ∧ rest.dropWhile allowed = rest := by
    cases rest with
    | nil => exact ⟨rfl, rfl⟩
    | cons c rest => simp [stop c (by simp)]
  have taken : (name ++ rest).takeWhile allowed = name := by
    rw [List.takeWhile_append_of_pos each, ends.1, List.append_nil]
  have left : (name ++ rest).dropWhile allowed = rest := by
    rw [List.dropWhile_append_of_pos each, ends.2]
  simp [readName, taken, left, nonempty, letter]

theorem isBlank_iff (c : UInt8) : isBlank c = true ↔ c = 32 ∨ c = 9 := by
  simp [isBlank]

theorem isLabelByte_visible {c : UInt8} (letter : isLabelByte c = true) :
    isBlank c = false ∧ c ≠ 125 := by
  constructor
  · rw [← Bool.not_eq_true, isBlank_iff]
    rintro (rfl | rfl)
    · revert letter
      decide
    · revert letter
      decide
  · rintro rfl
    revert letter
    decide

theorem isMetricByte_visible {c : UInt8} (letter : isMetricByte c = true) :
    isBlank c = false ∧ c ≠ 35 := by
  constructor
  · rw [← Bool.not_eq_true, isBlank_iff]
    rintro (rfl | rfl)
    · revert letter
      decide
    · revert letter
      decide
  · rintro rfl
    revert letter
    decide

theorem labelName_starts {name : Bytes} (valid : IsName isLabelByte name) (rest : Bytes) :
    (name ++ rest).dropWhile isBlank = name ++ rest ∧ ∀ after, name ++ rest ≠ 125 :: after := by
  obtain ⟨nonempty, each, _⟩ := valid
  cases name with
  | nil => exact absurd rfl nonempty
  | cons c name =>
    obtain ⟨noBlank, noBrace⟩ := isLabelByte_visible (each c List.mem_cons_self)
    refine ⟨by simp [noBlank], fun after same => noBrace ?_⟩
    rw [List.cons_append] at same
    exact (List.cons.inj same).1

theorem readLabel_text {label : Bytes × Bytes} (valid : IsName isLabelByte label.1)
    (rest : Bytes) : readLabel (labelText label ++ rest) = some (label, rest) := by
  have name := @readName_append _ _ valid (61 :: 34 :: (escapeValue label.2 ++ 34 :: rest))
    (by simp; decide)
  have text : labelText label ++ rest =
      label.1 ++ 61 :: 34 :: (escapeValue label.2 ++ 34 :: rest) := by simp [labelText]
  have equals : isBlank 61 = false := by decide
  have quote : isBlank 34 = false := by decide
  rw [text, readLabel, name]
  simp [equals, quote, readLabelValue_escape]

theorem labelText_eq (label : Bytes × Bytes) (rest : Bytes) :
    labelText label ++ rest = label.1 ++ 61 :: 34 :: (escapeValue label.2 ++ 34 :: rest) := by
  simp [labelText]

theorem readLabels_label {label : Bytes × Bytes} (valid : IsName isLabelByte label.1) (turns : Nat)
    (rest : Bytes) :
    readLabels (turns + 1) (labelText label ++ 125 :: rest) = some ([label], rest) ∧
      readLabels (turns + 1) (labelText label ++ 44 :: rest) =
        (readLabels turns rest).map fun (labels, rest) => (label :: labels, rest) := by
  have brace : isBlank 125 = false := by decide
  have comma : isBlank 44 = false := by decide
  have visible : ∀ after, (labelText label ++ after).dropWhile isBlank = labelText label ++ after ∧
      ∀ other, labelText label ++ after ≠ 125 :: other := by
    intro after
    rw [labelText_eq]
    exact labelName_starts valid _
  constructor
  · rw [readLabels, (visible _).1]
    split
    · rename_i other same
      exact absurd same ((visible _).2 other)
    · simp [readLabel_text valid, brace]
  · rw [readLabels, (visible _).1]
    split
    · rename_i other same
      exact absurd same ((visible _).2 other)
    · simp [readLabel_text valid, comma]

theorem readLabels_text {labels : List (Bytes × Bytes)}
    (valid : ∀ label ∈ labels, IsName isLabelByte label.1) {turns : Nat}
    (enough : labels.length < turns) (rest : Bytes) :
    readLabels turns ([44].intercalate (labels.map labelText) ++ 125 :: rest) =
      some (labels, rest) := by
  have brace : isBlank 125 = false := by decide
  induction labels generalizing turns with
  | nil =>
    cases turns with
    | zero => exact absurd enough (by simp)
    | succ turns => simp [readLabels, brace]
  | cons label labels ih =>
    cases turns with
    | zero => exact absurd enough (by simp)
    | succ turns =>
      have first := readLabels_label (valid label List.mem_cons_self) turns
      rw [List.length_cons] at enough
      cases labels with
      | nil =>
        rw [List.map_cons, List.map_nil, List.intercalate_singleton]
        exact (first rest).1
      | cons next labels =>
        have others := @ih (fun other member => valid other (List.mem_cons_of_mem label member))
          turns (by omega)
        rw [List.map_cons] at others
        rw [List.map_cons, List.map_cons, List.intercalate_cons_cons, List.append_assoc,
          List.append_assoc, List.singleton_append, (first _).2, others]
        rfl

end labels

section lines

theorem digit_visible {c : UInt8} (digit : isDigit c = true) : isVisible c = true := by
  rw [isVisible, Bool.not_eq_true', ← Bool.not_eq_true, isBlank_iff]
  rintro (rfl | rfl)
  · revert digit
    decide
  · revert digit
    decide

theorem natText_visible (n : Nat) : ∀ c ∈ natText n, isVisible c = true :=
  fun c member => digit_visible (natText_isDigit n c member)

theorem readNat_natText (n : Nat) : readNat (natText n) = some n := by
  have digits : (natText n).all isDigit = true := List.all_eq_true.mpr (natText_isDigit n)
  simp [readNat, natText_ne_nil, digits, digitsValue_natText]

theorem dropWhile_visible {text : Bytes} (visible : text.head?.all isVisible = true) :
    text.dropWhile isBlank = text := by
  cases text with
  | nil => rfl
  | cons c text =>
    have noBlank : isBlank c = false := by simpa [isVisible] using visible
    simp [noBlank]

theorem head_visible {text : Bytes} (visible : ∀ c ∈ text, isVisible c = true) :
    text.head?.all isVisible = true := by
  cases text with
  | nil => rfl
  | cons c text => exact visible c List.mem_cons_self

theorem name_starts {name : Bytes} (valid : IsName isMetricByte name) :
    ∃ c text, name = c :: text ∧ isBlank c = false ∧ c ≠ 35 := by
  obtain ⟨nonempty, each, _⟩ := valid
  obtain ⟨c, text, rfl⟩ := List.exists_cons_of_ne_nil nonempty
  obtain ⟨noBlank, noComment⟩ := isMetricByte_visible (each c List.mem_cons_self)
  exact ⟨c, text, rfl, noBlank, noComment⟩

theorem labels_length_le (labels : List (Bytes × Bytes)) :
    labels.length ≤ ([44].intercalate (labels.map labelText)).length := by
  induction labels with
  | nil => exact Nat.zero_le _
  | cons label labels ih =>
    have long : 1 ≤ (labelText label).length := by
      rw [labelText, List.length_append, List.length_cons]
      omega
    cases labels with
    | nil =>
      rw [List.map_cons, List.map_nil, List.intercalate_singleton]
      exact long
    | cons next labels =>
      rw [List.map_cons] at ih
      rw [List.map_cons, List.map_cons, List.intercalate_cons_cons, List.length_append,
        List.length_append, List.length_cons]
      omega

theorem readLabelSet_text {labels : List (Bytes × Bytes)}
    (valid : ∀ label ∈ labels, IsName isLabelByte label.1) (rest : Bytes) :
    readLabelSet (labelsText labels ++ rest) = some (labels, rest) := by
  have brace : isBlank 123 = false := by decide
  have enough : labels.length <
      ([44].intercalate (labels.map labelText) ++ 125 :: rest).length + 1 := by
    have most := labels_length_le labels
    rw [List.length_append]
    omega
  simp only [readLabelSet, labelsText, List.cons_append, List.append_assoc, List.dropWhile_cons,
    brace, Bool.false_eq_true, if_false]
  exact readLabels_text valid enough rest

/-- Two label sets that are written alike are the same labels. -/
theorem labelsText_injective {a b : List (Bytes × Bytes)}
    (validA : ∀ label ∈ a, IsName isLabelByte label.1)
    (validB : ∀ label ∈ b, IsName isLabelByte label.1) (same : labelsText a = labelsText b) :
    a = b := by
  have read := readLabelSet_text validA []
  rw [same, readLabelSet_text validB []] at read
  exact (congrArg Prod.fst (Option.some.inj read)).symm

theorem readSample_line (metric : Metric) {sample : List (Bytes × Bytes) × Nat}
    (member : sample ∈ metric.samples) :
    readSample (sampleLine metric.name sample) = some (metric.sampleOf sample) := by
  have name := @readName_append _ _ metric.name_valid
    (labelsText sample.1 ++ 32 :: natText sample.2) (by simp [labelsText]; decide)
  have labels := readLabelSet_text (metric.labels_valid sample member) (32 :: natText sample.2)
  have space : isBlank 32 = true := by decide
  have value : (natText sample.2).dropWhile isBlank = natText sample.2 :=
    dropWhile_visible (head_visible (natText_visible sample.2))
  have token : (natText sample.2).takeWhile isVisible = natText sample.2 :=
    List.takeWhile_eq_self_iff.mpr (natText_visible sample.2)
  have ending : (natText sample.2).dropWhile isVisible = [] :=
    List.dropWhile_eq_nil_iff.mpr (natText_visible sample.2)
  simp [readSample, sampleLine, name, labels, space, value, token, ending, readNat_natText,
    readTimestamp, Metric.sampleOf]

theorem readLine_sample (metric : Metric) {sample : List (Bytes × Bytes) × Nat}
    (member : sample ∈ metric.samples) :
    readLine (sampleLine metric.name sample) = some (.sample (metric.sampleOf sample)) := by
  have read := readSample_line metric member
  obtain ⟨c, text, name, noBlank, noComment⟩ := name_starts metric.name_valid
  have start : sampleLine metric.name sample =
      c :: (text ++ labelsText sample.1 ++ 32 :: natText sample.2) := by
    rw [sampleLine, name, List.cons_append, List.cons_append]
  rw [start] at read ⊢
  rw [readLine, List.dropWhile_cons, if_neg (by simp [noBlank])]
  split
  · rename_i same
    cases same
  · rename_i other same
    exact absurd (List.cons.inj same).1 noComment
  · rw [read]
    rfl

theorem unescapeHelp_plain {text : Bytes} (plain : ∀ c ∈ text, c ≠ 92) :
    unescapeHelp text = text := by
  induction text with
  | nil => rfl
  | cons c text ih =>
    have first := plain c List.mem_cons_self
    rw [unescapeHelp.eq_def]
    split
    · rename_i same
      exact absurd (List.cons.inj same).1 first
    · rename_i same
      exact absurd (List.cons.inj same).1 first
    · rename_i same
      obtain ⟨rfl, rfl⟩ := List.cons.inj same
      rw [ih fun c member => plain c (List.mem_cons_of_mem _ member)]
    · rename_i same
      cases same

theorem comment_word {word : Bytes} (visible : word.all isVisible = true) (rest : Bytes) :
    (word ++ 32 :: rest).takeWhile isVisible = word ∧
      (word ++ 32 :: rest).dropWhile isVisible = 32 :: rest := by
  have space : isVisible 32 = false := by decide
  have each := List.all_eq_true.mp visible
  constructor
  · rw [List.takeWhile_append_of_pos each]
    simp [space]
  · rw [List.dropWhile_append_of_pos each]
    simp [space]

theorem readLine_comment {word : Bytes} (visible : word.head?.any isVisible = true)
    (rest : Bytes) : readLine (35 :: 32 :: (word ++ rest)) = readComment (word ++ rest) := by
  have space : isBlank 32 = true := by decide
  have marker : isBlank 35 = false := by decide
  have start : (word ++ rest).dropWhile isBlank = word ++ rest := by
    cases word with
    | nil => cases visible
    | cons c word => exact dropWhile_visible visible
  rw [readLine, List.dropWhile_cons, if_neg (by simp [marker])]
  simp [space, start]

theorem name_behind_blank {name : Bytes} (valid : IsName isMetricByte name) (rest : Bytes) :
    (32 :: (name ++ rest)).dropWhile isBlank = name ++ rest := by
  have space : isBlank 32 = true := by decide
  obtain ⟨c, text, rfl, noBlank, _⟩ := name_starts valid
  simp [space, noBlank]

theorem readName_declared (metric : Metric) (text : Bytes) :
    readName isMetricByte (metric.name ++ 32 :: text) = some (metric.name, 32 :: text) :=
  readName_append metric.name_valid (by simp; decide)

theorem readLine_help (metric : Metric) :
    readLine (bytes "# HELP " ++ metric.name ++ 32 :: metric.help) =
      some (.help metric.name metric.help) := by
  have start : bytes "# HELP " ++ metric.name ++ 32 :: metric.help =
      35 :: 32 :: (bytes "HELP" ++ 32 :: (metric.name ++ 32 :: metric.help)) := by
    have opening : bytes "# HELP " = 35 :: 32 :: (bytes "HELP" ++ [32]) := by decide
    simp [opening]
  have word := @comment_word (bytes "HELP") (by decide) (metric.name ++ 32 :: metric.help)
  have space : isBlank 32 = true := by decide
  have behind := dropWhile_visible metric.help_visible
  have plain := unescapeHelp_plain fun c member => (metric.help_plain c member).2
  rw [start, readLine_comment (by decide)]
  simp only [readComment]
  rw [word.1, word.2, if_pos rfl, name_behind_blank metric.name_valid, readName_declared]
  simp [space, behind, plain]

theorem readLine_kind (metric : Metric) :
    readLine (bytes "# TYPE " ++ metric.name ++ 32 :: metric.kind) =
      some (.kind metric.name metric.kind) := by
  have start : bytes "# TYPE " ++ metric.name ++ 32 :: metric.kind =
      35 :: 32 :: (bytes "TYPE" ++ 32 :: (metric.name ++ 32 :: metric.kind)) := by
    have opening : bytes "# TYPE " = 35 :: 32 :: (bytes "TYPE" ++ [32]) := by decide
    simp [opening]
  have word := @comment_word (bytes "TYPE") (by decide) (metric.name ++ 32 :: metric.kind)
  have space : isBlank 32 = true := by decide
  have other : bytes "TYPE" ≠ bytes "HELP" := by decide
  have each : ∀ kind ∈ kinds, kind.head?.all isVisible = true := by decide
  have behind := dropWhile_visible (each metric.kind metric.kind_known)
  rw [start, readLine_comment (by decide)]
  simp only [readComment]
  rw [word.1, word.2, if_neg other, if_pos rfl, name_behind_blank metric.name_valid,
    readName_declared]
  simp [space, behind, metric.kind_known]

end lines

section families

theorem changeFamily_new {name : Bytes} {families : List Family}
    (new : ∀ family ∈ families, family.name ≠ name) (change : Family → Option Family) :
    changeFamily name change families =
      (change { name := name }).map fun family => families ++ [family] := by
  induction families with
  | nil => rfl
  | cons family families ih =>
    rw [changeFamily, if_neg (new family List.mem_cons_self),
      ih fun other member => new other (List.mem_cons_of_mem family member)]
    cases change { name := name } <;> rfl

theorem changeFamily_last {families : List Family} {last : Family}
    (new : ∀ family ∈ families, family.name ≠ last.name) (change : Family → Option Family) :
    changeFamily last.name change (families ++ [last]) =
      (change last).map fun family => families ++ [family] := by
  induction families with
  | nil => simp [changeFamily]
  | cons family families ih =>
    rw [List.cons_append, changeFamily, if_neg (new family List.mem_cons_self),
      ih fun other member => new other (List.mem_cons_of_mem family member)]
    cases change last <;> rfl

theorem addLines_append (families : List Family) (first second : List Bytes) :
    addLines families (first ++ second) = (do addLines (← addLines families first) second) := by
  induction first generalizing families with
  | nil => rfl
  | cons line first ih =>
    rw [List.cons_append, addLines, addLines]
    cases readLine line with
    | none => rfl
    | some line =>
      simp only [Option.bind_eq_bind, Option.bind_some]
      cases addLine families line with
      | none => rfl
      | some families => exact ih families

theorem addLines_samples (metric : Metric) {families : List Family}
    (new : ∀ family ∈ families, family.name ≠ metric.name)
    {samples : List (List (Bytes × Bytes) × Nat)}
    (listed : ∀ sample ∈ samples, sample ∈ metric.samples)
    {last : Family} (name : last.name = metric.name) :
    addLines (families ++ [last]) (samples.map (sampleLine metric.name)) =
      some (families ++
        [{ last with samples := last.samples ++ samples.map metric.sampleOf }]) := by
  induction samples generalizing last with
  | nil => simp [addLines]
  | cons sample samples ih =>
    have read := readLine_sample metric (listed sample List.mem_cons_self)
    have change : addLine (families ++ [last]) (.sample (metric.sampleOf sample)) =
        some (families ++ [{ last with samples := last.samples ++ [metric.sampleOf sample] }]) := by
      have own : (metric.sampleOf sample).name = last.name := name.symm
      rw [addLine, own, changeFamily_last (fun family member => name ▸ new family member)]
      rfl
    have others := @ih (fun other member => listed other (List.mem_cons_of_mem sample member))
      { last with samples := last.samples ++ [metric.sampleOf sample] } name
    rw [List.map_cons, addLines, read, Option.bind_eq_bind, Option.bind_some, change,
      Option.bind_eq_bind, Option.bind_some, others]
    simp

theorem addLines_metric (metric : Metric) {families : List Family}
    (new : ∀ family ∈ families, family.name ≠ metric.name) :
    addLines families metric.lines = some (families ++ [metric.family]) := by
  have help : addLine families (.help metric.name metric.help) =
      some (families ++ [{ name := metric.name, help := some metric.help }]) := by
    rw [addLine, changeFamily_new new]
    rfl
  have kind : addLine (families ++ [{ name := metric.name, help := some metric.help }])
      (.kind metric.name metric.kind) = some (families ++
        [{ name := metric.name, help := some metric.help, kind := some metric.kind }]) := by
    exact @changeFamily_last families { name := metric.name, help := some metric.help } new _
  have samples := @addLines_samples metric families new metric.samples (fun _ member => member)
    { name := metric.name, help := some metric.help, kind := some metric.kind } rfl
  rw [Metric.lines, addLines, readLine_help, Option.bind_eq_bind, Option.bind_some, help,
    Option.bind_eq_bind, Option.bind_some, addLines, readLine_kind, Option.bind_eq_bind,
    Option.bind_some, kind, Option.bind_eq_bind, Option.bind_some, samples]
  simp [Metric.family]

theorem addLines_metrics {metrics : List Metric} (families : List Family)
    (distinct : (families.map Family.name ++ metrics.map Metric.name).Nodup) :
    addLines families (metrics.flatMap Metric.lines) =
      some (families ++ metrics.map Metric.family) := by
  induction metrics generalizing families with
  | nil => simp [addLines]
  | cons metric metrics ih =>
    have new : ∀ family ∈ families, family.name ≠ metric.name := by
      intro family member same
      exact (List.nodup_append.mp distinct).2.2 _ (List.mem_map_of_mem member) metric.name
        List.mem_cons_self same
    have others := ih (families ++ [metric.family]) (by
      rw [List.map_append, List.map_singleton, List.append_assoc]
      exact distinct)
    rw [List.flatMap_cons, addLines_append, addLines_metric metric new, Option.bind_eq_bind,
      Option.bind_some, others]
    simp

end families

section texts

theorem escapeByte_feedless (c : UInt8) : 10 ∉ escapeByte c := by
  unfold escapeByte
  split
  · decide
  · split
    · decide
    · split
      · decide
      · rename_i other
        exact fun inside => other (List.mem_singleton.mp inside).symm

theorem escapeValue_feedless (value : Bytes) : 10 ∉ escapeValue value := by
  intro inside
  obtain ⟨c, _, written⟩ := List.mem_flatMap.mp inside
  exact escapeByte_feedless c written

theorem name_feedless {allowed : UInt8 → Bool} (stop : allowed 10 = false) {name : Bytes}
    (valid : IsName allowed name) : 10 ∉ name := by
  intro inside
  have letter := valid.2.1 10 inside
  rw [stop] at letter
  cases letter

theorem labelText_feedless {label : Bytes × Bytes} (valid : IsName isLabelByte label.1) :
    10 ∉ labelText label := by
  have name := name_feedless (by decide) valid
  have value := escapeValue_feedless label.2
  simp [labelText, name, value]

theorem intercalate_feedless {texts : List Bytes} (each : ∀ text ∈ texts, 10 ∉ text) :
    10 ∉ [44].intercalate texts := by
  induction texts with
  | nil => simp
  | cons text texts ih =>
    have first := each text List.mem_cons_self
    have others := ih fun other member => each other (List.mem_cons_of_mem text member)
    cases texts with
    | nil =>
      rw [List.intercalate_singleton]
      exact first
    | cons next texts =>
      rw [List.intercalate_cons_cons]
      simp [first, others]

theorem labelsText_feedless {labels : List (Bytes × Bytes)}
    (valid : ∀ label ∈ labels, IsName isLabelByte label.1) : 10 ∉ labelsText labels := by
  have inner : 10 ∉ [44].intercalate (labels.map labelText) := by
    refine intercalate_feedless fun text member => ?_
    obtain ⟨label, listed, rfl⟩ := List.mem_map.mp member
    exact labelText_feedless (valid label listed)
  simp [labelsText, inner]

theorem natText_feedless (n : Nat) : 10 ∉ natText n := by
  intro inside
  have digit := natText_isDigit n 10 inside
  revert digit
  decide

theorem lines_feedless (metric : Metric) : ∀ line ∈ metric.lines, 10 ∉ line := by
  have name := name_feedless (by decide) metric.name_valid
  intro line member
  rcases List.mem_cons.mp member with rfl | member
  · have opening : 10 ∉ bytes "# HELP " := by decide
    have help : 10 ∉ metric.help := fun inside => (metric.help_plain 10 inside).1 rfl
    simp [opening, name, help]
  · rcases List.mem_cons.mp member with rfl | member
    · have opening : 10 ∉ bytes "# TYPE " := by decide
      have each : ∀ kind ∈ kinds, 10 ∉ kind := by decide
      simp [opening, name, each metric.kind metric.kind_known]
    · obtain ⟨sample, listed, rfl⟩ := List.mem_map.mp member
      have labels := labelsText_feedless (metric.labels_valid sample listed)
      simp [sampleLine, name, labels, natText_feedless]

theorem splitOn_writeLines {lines : List Bytes} (feedless : ∀ line ∈ lines, 10 ∉ line) :
    (writeLines lines).splitOn 10 = lines ++ [[]] := by
  induction lines with
  | nil => rfl
  | cons line lines ih =>
    have first : writeLines (line :: lines) = line ++ 10 :: writeLines lines := by simp [writeLines]
    rw [first, List.splitOn_append_cons_self_of_not_mem (feedless line List.mem_cons_self),
      ih fun other member => feedless other (List.mem_cons_of_mem line member), List.cons_append]

/-- Families of different names are read back as they were written, whatever octets the values of
    their labels hold. -/
theorem readFamilies_writeLines {metrics : List Metric}
    (distinct : (metrics.map Metric.name).Nodup) :
    readFamilies (writeLines (metrics.flatMap Metric.lines)) =
      some (metrics.map Metric.family) := by
  have feedless : ∀ line ∈ metrics.flatMap Metric.lines, 10 ∉ line := by
    intro line member
    obtain ⟨metric, _, own⟩ := List.mem_flatMap.mp member
    exact lines_feedless metric line own
  have read := addLines_metrics [] distinct
  simp only [readFamilies, splitOn_writeLines feedless]
  simpa using read

end texts

end PrometheusText
