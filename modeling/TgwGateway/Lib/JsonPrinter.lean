import TgwGateway.Lib.JsonScan
import TgwGateway.Lib.JsonStrings
import Mathlib.Data.Nat.Digits.Lemmas

/- Trees printed without blanks: the text is one of the tree when its strings and numbers are
   written as the grammar asks, and its brackets close one another even where a string holds
   octets that the grammar refuses. -/
namespace JsonPrinter
open ByteStrings DecimalText JsonGrammar JsonScan JsonStrings

mutual

def render : JsonTree → Bytes
  | .null => bytes "null"
  | .bool true => bytes "true"
  | .bool false => bytes "false"
  | .number literal => literal
  | .string body => 34 :: (body ++ [34])
  | .array items => 91 :: (renderItems items ++ [93])
  | .object members => 123 :: (renderMembers members ++ [125])

def renderItems : List JsonTree → Bytes
  | [] => []
  | [item] => render item
  | item :: items => render item ++ 44 :: renderItems items

def renderMembers : List (Bytes × JsonTree) → Bytes
  | [] => []
  | [(key, item)] => 34 :: (key ++ 34 :: 58 :: render item)
  | (key, item) :: members => 34 :: (key ++ 34 :: 58 :: (render item ++ 44 :: renderMembers members))

end

theorem renderMembers_more (key : Bytes) (item : JsonTree) (next : Bytes × JsonTree)
    (members : List (Bytes × JsonTree)) :
    renderMembers ((key, item) :: next :: members) =
      34 :: (key ++ 34 :: 58 :: (render item ++ 44 :: renderMembers (next :: members))) := by
  simp [renderMembers]

section before
variable (rest : Bytes)

theorem render_number_append (literal : Bytes) :
    render (.number literal) ++ rest = literal ++ rest := by
  rw [render]

theorem render_string_append (body : Bytes) :
    render (.string body) ++ rest = 34 :: (body ++ 34 :: rest) := by
  simp [render]

theorem render_array_append (items : List JsonTree) :
    render (.array items) ++ rest = 91 :: (renderItems items ++ 93 :: rest) := by
  simp [render]

theorem render_object_append (members : List (Bytes × JsonTree)) :
    render (.object members) ++ rest = 123 :: (renderMembers members ++ 125 :: rest) := by
  simp [render]

theorem renderItems_one_append (item : JsonTree) :
    renderItems [item] ++ rest = render item ++ rest := by
  rw [renderItems]

theorem renderMembers_one_append (key : Bytes) (item : JsonTree) :
    renderMembers [(key, item)] ++ rest = 34 :: (key ++ 34 :: 58 :: (render item ++ rest)) := by
  simp [renderMembers]

theorem renderMembers_more_append (key : Bytes) (item : JsonTree) (next : Bytes × JsonTree)
    (members : List (Bytes × JsonTree)) :
    renderMembers ((key, item) :: next :: members) ++ rest =
      34 :: (key ++ 34 :: 58 :: (render item ++ 44 :: (renderMembers (next :: members) ++ rest))) := by
  simp [renderMembers_more]

end before

mutual

/-- Every string of the tree is written in a certain way, and every number as a number is. -/
def Written (body : Bytes → Prop) : JsonTree → Prop
  | .null => True
  | .bool _ => True
  | .number literal => NumberText literal
  | .string text => body text
  | .array items => WrittenItems body items
  | .object members => WrittenMembers body members

def WrittenItems (body : Bytes → Prop) : List JsonTree → Prop
  | [] => True
  | item :: items => Written body item ∧ WrittenItems body items

def WrittenMembers (body : Bytes → Prop) : List (Bytes × JsonTree) → Prop
  | [] => True
  | (key, item) :: members => body key ∧ Written body item ∧ WrittenMembers body members

end

def BodyText (body : Bytes) : Prop := ∀ rest, StringTail (body ++ 34 :: rest) body rest

theorem Blanks.none (text : Bytes) : Blanks text text := ⟨[], rfl, by simp⟩

mutual

theorem render_value : ∀ {tree : JsonTree}, Written BodyText tree → ∀ rest : Bytes,
    Value (render tree ++ rest) tree rest
  | .null, _, rest => by
    rw [render]
    exact Value.null
  | .bool true, _, rest => by
    rw [render]
    exact Value.yes
  | .bool false, _, rest => by
    rw [render]
    exact Value.no
  | .number literal, written, rest => by
    rw [Written] at written
    rw [render]
    exact Value.number written
  | .string body, written, rest => by
    rw [Written] at written
    have tail := written rest
    simp only [render, List.cons_append, List.append_assoc, List.nil_append]
    exact Value.string tail
  | .array [], _, rest => by
    simp only [render, renderItems, List.cons_append, List.nil_append]
    exact Value.emptyArray (Blanks.none _)
  | .array (item :: items), written, rest => by
    rw [Written] at written
    have elements := renderItems_elements (by simp) written rest
    simp only [render, List.cons_append, List.append_assoc, List.nil_append]
    exact Value.array elements
  | .object [], _, rest => by
    simp only [render, renderMembers, List.cons_append, List.nil_append]
    exact Value.emptyObject (Blanks.none _)
  | .object (member :: members), written, rest => by
    rw [Written] at written
    have listed := renderMembers_members (by simp) written rest
    simp only [render, List.cons_append, List.append_assoc, List.nil_append]
    exact Value.object listed

theorem renderItems_elements : ∀ {items : List JsonTree}, items ≠ [] →
    WrittenItems BodyText items → ∀ rest : Bytes,
    Elements (renderItems items ++ 93 :: rest) items rest
  | [], nonempty, _, _ => absurd rfl nonempty
  | [item], _, written, rest => by
    have value := render_value written.1 (93 :: rest)
    rw [renderItems]
    exact Elements.last (Blanks.none _) value (Blanks.none _)
  | item :: next :: items, _, written, rest => by
    have others := renderItems_elements (by simp) written.2 rest
    have value := render_value written.1 (44 :: (renderItems (next :: items) ++ 93 :: rest))
    simp only [renderItems, List.append_assoc, List.cons_append]
    exact Elements.more (Blanks.none _) value (Blanks.none _) others

theorem renderMembers_members : ∀ {members : List (Bytes × JsonTree)}, members ≠ [] →
    WrittenMembers BodyText members → ∀ rest : Bytes,
    Members (renderMembers members ++ 125 :: rest) members rest
  | [], nonempty, _, _ => absurd rfl nonempty
  | [(key, item)], _, written, rest => by
    have value := render_value written.2.1 (125 :: rest)
    have name := written.1 (58 :: (render item ++ 125 :: rest))
    simp only [renderMembers, List.append_assoc, List.cons_append]
    exact Members.last (Blanks.none _) name (Blanks.none _) (Blanks.none _) value (Blanks.none _)
  | (key, item) :: next :: members, _, written, rest => by
    have others := renderMembers_members (by simp) written.2.2 rest
    have value := render_value written.2.1 (44 :: (renderMembers (next :: members) ++ 125 :: rest))
    have name := written.1 (58 :: (render item ++ 44 :: (renderMembers (next :: members) ++
      125 :: rest)))
    simp only [renderMembers, List.append_assoc, List.cons_append]
    exact Members.more (Blanks.none _) name (Blanks.none _) (Blanks.none _) value (Blanks.none _)
      others

end

def ClosedBody (body : Bytes) : Prop := ∀ depth, scan (inside depth) body = inside depth

theorem scan_cons (s : Scan) (c : UInt8) (text : Bytes) :
    scan s (c :: text) = scan (step s c) text := rfl

theorem scan_quoted {body : Bytes} (closedBody : ClosedBody body) (depth : Int) (rest : Bytes) :
    scan (outside depth) (34 :: (body ++ 34 :: rest)) = scan (outside depth) rest := by
  have opening : step (outside depth) 34 = inside depth := rfl
  have closing : step (inside depth) 34 = outside depth := rfl
  rw [scan_cons, opening, scan_append, closedBody, scan_cons, closing]

theorem scan_number {literal : Bytes} (form : NumberText literal) (depth : Int) :
    scan (outside depth) literal = outside depth := by
  obtain ⟨used, whole, _, same⟩ := number_passes form depth []
  simp only [List.append_nil] at whole
  rw [whole]
  exact same

theorem scan_mark {c : UInt8} (plain : isPlain c = true) (depth : Int) (rest : Bytes) :
    scan (outside depth) (c :: rest) = scan (outside depth) rest := by
  rw [scan_cons, step_plain plain]

theorem scan_close {c : UInt8} (bracket : c = 93 ∨ c = 125) (depth : Int) :
    scan (outside (depth + 1)) [c] = outside depth := by
  rw [scan_cons, closed depth bracket]
  rfl

mutual

theorem render_scan : ∀ {tree : JsonTree}, Written ClosedBody tree → ∀ depth : Int,
    scan (outside depth) (render tree) = outside depth
  | .null, _, depth => by
    rw [render]
    exact scan_plain (List.all_eq_true.mp (by decide)) depth
  | .bool true, _, depth => by
    rw [render]
    exact scan_plain (List.all_eq_true.mp (by decide)) depth
  | .bool false, _, depth => by
    rw [render]
    exact scan_plain (List.all_eq_true.mp (by decide)) depth
  | .number literal, written, depth => by
    rw [Written] at written
    rw [render]
    exact scan_number written depth
  | .string body, written, depth => by
    rw [Written] at written
    rw [render, scan_quoted written]
    rfl
  | .array items, written, depth => by
    rw [Written] at written
    rw [render, scan_cons, opened depth (Or.inl rfl), scan_append,
      renderItems_scan written (depth + 1), scan_close (Or.inl rfl)]
  | .object members, written, depth => by
    rw [Written] at written
    rw [render, scan_cons, opened depth (Or.inr rfl), scan_append,
      renderMembers_scan written (depth + 1), scan_close (Or.inr rfl)]

theorem renderItems_scan : ∀ {items : List JsonTree}, WrittenItems ClosedBody items →
    ∀ depth : Int, scan (outside depth) (renderItems items) = outside depth
  | [], _, _ => rfl
  | [item], written, depth => by
    rw [renderItems]
    exact render_scan written.1 depth
  | item :: next :: items, written, depth => by
    rw [renderItems, scan_append, render_scan written.1 depth, scan_mark rfl]
    · exact renderItems_scan written.2 depth
    · simp

theorem renderMembers_scan : ∀ {members : List (Bytes × JsonTree)},
    WrittenMembers ClosedBody members →
    ∀ depth : Int, scan (outside depth) (renderMembers members) = outside depth
  | [], _, _ => rfl
  | [(key, item)], written, depth => by
    rw [renderMembers, scan_quoted written.1, scan_mark rfl]
    exact render_scan written.2.1 depth
  | (key, item) :: next :: members, written, depth => by
    rw [renderMembers, scan_quoted written.1, scan_mark rfl, scan_append,
      render_scan written.2.1 depth, scan_mark rfl]
    · exact renderMembers_scan written.2.2 depth
    · simp

end

theorem unescaped_body {body : Bytes} (unescaped : body.all isUnescaped = true) :
    BodyText body := by
  intro rest
  induction body with
  | nil => exact StringTail.close
  | cons c body ih =>
    simp only [List.all_cons, isUnescaped, Bool.and_eq_true, decide_eq_true_eq, bne_iff_ne,
      ne_eq] at unescaped
    obtain ⟨⟨⟨printable, noQuote⟩, noBackslash⟩, others⟩ := unescaped
    exact StringTail.unescaped printable noQuote noBackslash (ih others)

theorem unescaped_closed {body : Bytes} (unescaped : body.all isUnescaped = true) :
    ClosedBody body := by
  intro depth
  induction body with
  | nil => rfl
  | cons c body ih =>
    simp only [List.all_cons, isUnescaped, Bool.and_eq_true, decide_eq_true_eq, bne_iff_ne,
      ne_eq] at unescaped
    obtain ⟨⟨⟨_, noQuote⟩, noBackslash⟩, others⟩ := unescaped
    rw [scan_cons, step_inside noQuote noBackslash, ih others]

theorem natText_unescaped (n : Nat) : (natText n).all isUnescaped = true := by
  refine List.all_eq_true.mpr fun c member => ?_
  have digit := (isDigit_iff c).mp (natText_isDigit n c member)
  simp only [isUnescaped, Bool.and_eq_true, decide_eq_true_eq, bne_iff_ne, ne_eq,
    UInt8.le_iff_toNat_le, ← UInt8.toNat_inj, UInt8.reduceToNat]
  omega

theorem natText_whole (n : Nat) : WholePart (natText n) := by
  unfold natText
  split
  · exact Or.inl rfl
  · rename_i positive
    have whole : natText n = (Nat.digits 10 n).reverse.map digitByte := if_neg positive
    refine Or.inr ⟨⟨?_, ?_⟩, ?_⟩
    · rw [← whole]
      exact natText_ne_nil n
    · rw [← whole]
      exact natText_isDigit n
    · have some : Nat.digits 10 n ≠ [] := by simpa [Nat.digits_eq_nil_iff_eq_zero] using positive
      have lead := Nat.getLast_digit_ne_zero 10 positive
      have small := Nat.digits_lt_base (by decide : 1 < 10) (List.getLast_mem some)
      rw [List.head?_map, List.head?_reverse, List.getLast?_eq_some_getLast some]
      intro zero
      have value := digitByte_toNat small
      rw [Option.map_some, Option.some.injEq] at zero
      rw [zero] at value
      simp only [UInt8.reduceToNat] at value
      omega

theorem intText_number (n : Int) : NumberText (intText n) := by
  have whole := natText_whole n.natAbs
  unfold intText
  split
  · exact ⟨[45], natText n.natAbs, [], [], by simp, Or.inr rfl, whole, Or.inl rfl, Or.inl rfl⟩
  · exact ⟨[], natText n.natAbs, [], [], by simp, Or.inl rfl, whole, Or.inl rfl, Or.inl rfl⟩

theorem writtenItems_iff (body : Bytes → Prop) (items : List JsonTree) :
    WrittenItems body items ↔ ∀ item ∈ items, Written body item := by
  induction items with
  | nil => simp [WrittenItems]
  | cons item items ih => simp [WrittenItems, ih]

theorem writtenMembers_iff (body : Bytes → Prop) (members : List (Bytes × JsonTree)) :
    WrittenMembers body members ↔ ∀ m ∈ members, body m.1 ∧ Written body m.2 := by
  induction members with
  | nil => simp [WrittenMembers]
  | cons member members ih =>
    obtain ⟨key, item⟩ := member
    simp [WrittenMembers, ih, and_assoc]

theorem mem_renderMembers {c : UInt8} {key : Bytes} {item : JsonTree}
    {members : List (Bytes × JsonTree)} (listed : (key, item) ∈ members)
    (inside : c ∈ key ∨ c ∈ render item) : c ∈ renderMembers members := by
  induction members with
  | nil => cases listed
  | cons first members ih =>
    obtain ⟨name, value⟩ := first
    rcases List.mem_cons.mp listed with same | later
    · obtain ⟨rfl, rfl⟩ := Prod.mk.inj same
      cases members <;> rcases inside with left | right <;> simp [renderMembers, *]
    · have found := ih later
      cases members with
      | nil => cases later
      | cons next members => simp [renderMembers, found]

theorem render_text {tree : JsonTree} (written : Written BodyText tree) :
    JsonText (render tree) tree := by
  have value := render_value written []
  rw [List.append_nil] at value
  exact ⟨_, _, Blanks.none _, value, Blanks.none _⟩

end JsonPrinter
