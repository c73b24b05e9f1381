import TgwGateway.Lib.ByteStrings

/- JSON values as a library keeps them: the members of an object in the order of their keys, one
   for each key. Numbers are integers. -/
namespace JsonValues
open ByteStrings

inductive Json where
  | null
  | bool (value : Bool)
  | number (value : Int)
  | string (text : Bytes)
  | array (items : List Json)
  | object (members : List (Bytes × Json))

def keyBefore : Bytes → Bytes → Bool
  | _, [] => false
  | [], _ :: _ => true
  | a :: as, b :: bs => a < b || (a == b && keyBefore as bs)

def placeMember (members : List (Bytes × Json)) (member : Bytes × Json) : List (Bytes × Json) :=
  match members with
  | [] => [member]
  | first :: rest =>
    if keyBefore member.1 first.1 then member :: first :: rest
    else first :: placeMember rest member

/-- A key that is there already keeps its value. -/
def insertMember (members : List (Bytes × Json)) (member : Bytes × Json) : List (Bytes × Json) :=
  if (members.lookup member.1).isSome then members else placeMember members member

/-- The object of a list of pairs in any order. -/
def jsonObject (pairs : List (Bytes × Json)) : Json := .object (pairs.foldl insertMember [])

theorem lookup_cons_eq (key name : Bytes) (value : Json) (rest : List (Bytes × Json)) :
    ((name, value) :: rest).lookup key = if key = name then some value else rest.lookup key := by
  rw [List.lookup_cons]
  by_cases own : key = name
  · simp [own]
  · have differ : (key == name) = false := beq_eq_false_iff_ne.mpr own
    simp [differ, own]

theorem lookup_placeMember (members : List (Bytes × Json)) (member : Bytes × Json) (key : Bytes)
    (absent : members.lookup member.1 = none) :
    (placeMember members member).lookup key =
      (members.lookup key).or (if key = member.1 then some member.2 else none) := by
  induction members with
  | nil =>
    rw [placeMember, lookup_cons_eq]
    simp
  | cons first rest ih =>
    obtain ⟨name, value⟩ := first
    rw [lookup_cons_eq] at absent
    split at absent
    · cases absent
    · rename_i differ
      unfold placeMember
      split
      · rw [lookup_cons_eq, lookup_cons_eq]
        by_cases wanted : key = member.1
        · simp [wanted, differ, absent]
        · simp [wanted]
      · rw [lookup_cons_eq, lookup_cons_eq, ih absent]
        split <;> rfl

theorem lookup_insertMember (members : List (Bytes × Json)) (member : Bytes × Json)
    (key : Bytes) :
    (insertMember members member).lookup key =
      (members.lookup key).or (if key = member.1 then some member.2 else none) := by
  unfold insertMember
  split
  · rename_i present
    by_cases wanted : key = member.1
    · obtain ⟨value, found⟩ := Option.isSome_iff_exists.mp present
      simp [wanted, found]
    · simp [wanted]
  · rename_i missing
    exact lookup_placeMember members member key (Option.not_isSome_iff_eq_none.mp missing)

/-- The first pair with a key gives its value, whatever the order of the pairs. -/
theorem lookup_jsonObject (pairs : List (Bytes × Json)) (key : Bytes) :
    (pairs.foldl insertMember []).lookup key = pairs.lookup key := by
  have general : ∀ members : List (Bytes × Json),
      (pairs.foldl insertMember members).lookup key =
        (members.lookup key).or (pairs.lookup key) := by
    induction pairs with
    | nil => simp
    | cons first rest ih =>
      intro members
      rw [List.foldl_cons, ih, lookup_insertMember, lookup_cons_eq]
      cases members.lookup key with
      | some value => rfl
      | none => split <;> rfl
  rw [general]
  rfl

end JsonValues
