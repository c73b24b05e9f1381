import TgwGateway.Lib.JsonPrinter

/- Documents of plain values: how they are printed with a way to escape strings, and what a reader
   of the printed text gets. -/
namespace JsonDocuments
open ByteStrings DecimalText JsonGrammar JsonStrings JsonPrinter

section documents

/-- A number is held as it is written. -/
inductive Document where
  | nothing
  | truth (value : Bool)
  | number (literal : Bytes)
  | text (s : Bytes)
  | list (items : List Document)
  | record (fields : List (Bytes × Document))

mutual

def documentOf : JsonTree → Option Document
  | .null => some .nothing
  | .bool value => some (.truth value)
  | .number literal => some (.number literal)
  | .string body => (decoded body).map .text
  | .array items => (documentsOf items).map .list
  | .object members => (fieldsOf members).map .record

def documentsOf : List JsonTree → Option (List Document)
  | [] => some []
  | item :: items => do
    let document ← documentOf item
    let documents ← documentsOf items
    some (document :: documents)

def fieldsOf : List (Bytes × JsonTree) → Option (List (Bytes × Document))
  | [] => some []
  | (key, item) :: members => do
    let name ← decoded key
    let document ← documentOf item
    let fields ← fieldsOf members
    some ((name, document) :: fields)

end

/-- A reader of the text finds this document and no other text behind it. -/
def ReadsAs (text : Bytes) (document : Document) : Prop :=
  ∃ tree, JsonText text tree ∧ documentOf tree = some document

end documents

section printing
variable (escape : Bytes → Bytes)

def quoted (s : Bytes) : Bytes := 34 :: (escape s ++ [34])

def commas (parts : List Bytes) : Bytes := [44].intercalate parts

def arrayText (items : List Bytes) : Bytes := 91 :: (commas items ++ [93])

def objectText (members : List Bytes) : Bytes := 123 :: (commas members ++ [125])

def member (key value : Bytes) : Bytes := quoted escape key ++ 58 :: value

def rawObject (fields : List (Bytes × Bytes)) : Bytes :=
  objectText (fields.map fun f => member id f.1 f.2)

mutual

def Document.print : Document → Bytes
  | .nothing => bytes "null"
  | .truth true => bytes "true"
  | .truth false => bytes "false"
  | .number literal => literal
  | .text s => quoted escape s
  | .list items => arrayText (printItems items)
  | .record fields => objectText (printFields fields)

def printItems : List Document → List Bytes
  | [] => []
  | item :: items => item.print :: printItems items

def printFields : List (Bytes × Document) → List Bytes
  | [] => []
  | (name, document) :: fields => member escape name document.print :: printFields fields

end

theorem printItems_eq (items : List Document) :
    printItems escape items = items.map (Document.print escape) := by
  induction items with
  | nil => rfl
  | cons item items ih => rw [printItems, ih, List.map_cons]

theorem printFields_eq (fields : List (Bytes × Document)) :
    printFields escape fields = fields.map fun f => member escape f.1 (f.2.print escape) := by
  induction fields with
  | nil => rfl
  | cons field fields ih =>
    obtain ⟨name, document⟩ := field
    rw [printFields, ih, List.map_cons]

theorem rawObject_print (fields : List (Bytes × Document))
    (plain : ∀ f ∈ fields, escape f.1 = f.1) :
    rawObject (fields.map fun f => (f.1, f.2.print escape)) =
      (Document.record fields).print escape := by
  rw [Document.print, printFields_eq, rawObject, List.map_map]
  congr 1
  refine List.map_congr_left fun f listed => ?_
  simp [member, quoted, plain f listed]

mutual

def Document.tree : Document → JsonTree
  | .nothing => .null
  | .truth value => .bool value
  | .number literal => .number literal
  | .text s => .string (escape s)
  | .list items => .array (itemTrees items)
  | .record fields => .object (fieldTrees fields)

def itemTrees : List Document → List JsonTree
  | [] => []
  | item :: items => item.tree :: itemTrees items

def fieldTrees : List (Bytes × Document) → List (Bytes × JsonTree)
  | [] => []
  | (name, document) :: fields => (escape name, document.tree) :: fieldTrees fields

end

theorem commas_cons_cons (first second : Bytes) (parts : List Bytes) :
    commas (first :: second :: parts) = first ++ 44 :: commas (second :: parts) := by
  simp [commas, List.intercalate_cons_cons]

mutual

theorem print_render : ∀ document : Document, document.print escape = render (document.tree escape)
  | .nothing => by rw [Document.print, Document.tree, render]
  | .truth true => by rw [Document.print, Document.tree, render]
  | .truth false => by rw [Document.print, Document.tree, render]
  | .number literal => by rw [Document.print, Document.tree, render]
  | .text s => by rw [Document.print, Document.tree, render, quoted]
  | .list items => by rw [Document.print, Document.tree, render, arrayText, printItems_render items]
  | .record fields => by
    rw [Document.print, Document.tree, render, objectText, printFields_render fields]

theorem printItems_render : ∀ items : List Document,
    commas (printItems escape items) = renderItems (itemTrees escape items)
  | [] => rfl
  | [item] => by
    simp [printItems, itemTrees, renderItems, commas, List.intercalate, print_render item]
  | item :: next :: items => by
    have others := printItems_render (next :: items)
    have first := print_render item
    rw [printItems, itemTrees] at others ⊢
    rw [printItems, itemTrees, commas_cons_cons, others, first]
    simp [renderItems]

theorem printFields_render : ∀ fields : List (Bytes × Document),
    commas (printFields escape fields) = renderMembers (fieldTrees escape fields)
  | [] => rfl
  | [(name, document)] => by
    simp [printFields, fieldTrees, renderMembers, commas, List.intercalate, member, quoted,
      print_render document]
  | (name, document) :: (next, other) :: fields => by
    have others := printFields_render ((next, other) :: fields)
    have first := print_render document
    rw [printFields, fieldTrees] at others ⊢
    rw [printFields, fieldTrees, commas_cons_cons, others, first, renderMembers_more]
    simp [member, quoted]

end

end printing

section reading
variable {escape : Bytes → Bytes}

mutual

theorem documentOf_tree (stands : ∀ s, decoded (escape s) = some s) :
    ∀ document : Document, documentOf (document.tree escape) = some document
  | .nothing => by rw [Document.tree, documentOf]
  | .truth value => by rw [Document.tree, documentOf]
  | .number literal => by rw [Document.tree, documentOf]
  | .text s => by rw [Document.tree, documentOf, stands, Option.map_some]
  | .list items => by rw [Document.tree, documentOf, documentsOf_trees stands items, Option.map_some]
  | .record fields => by rw [Document.tree, documentOf, fieldsOf_trees stands fields,
      Option.map_some]

theorem documentsOf_trees (stands : ∀ s, decoded (escape s) = some s) : ∀ items : List Document,
    documentsOf (itemTrees escape items) = some items
  | [] => rfl
  | item :: items => by
    simp [itemTrees, documentsOf, documentOf_tree stands item, documentsOf_trees stands items]

theorem fieldsOf_trees (stands : ∀ s, decoded (escape s) = some s) :
    ∀ fields : List (Bytes × Document),
    fieldsOf (fieldTrees escape fields) = some fields
  | [] => rfl
  | (name, document) :: fields => by
    simp [fieldTrees, fieldsOf, stands, documentOf_tree stands document, fieldsOf_trees stands fields]

end

end reading

mutual

/-- Every string of the document may be escaped, and every number is written as a number is. -/
def Document.Printable (fine : Bytes → Prop) : Document → Prop
  | .nothing => True
  | .truth _ => True
  | .number literal => NumberText literal
  | .text s => fine s
  | .list items => PrintableItems fine items
  | .record fields => PrintableFields fine fields

def PrintableItems (fine : Bytes → Prop) : List Document → Prop
  | [] => True
  | item :: items => item.Printable fine ∧ PrintableItems fine items

def PrintableFields (fine : Bytes → Prop) : List (Bytes × Document) → Prop
  | [] => True
  | (name, document) :: fields =>
    fine name ∧ document.Printable fine ∧ PrintableFields fine fields

end

theorem printableItems_iff (fine : Bytes → Prop) (items : List Document) :
    PrintableItems fine items ↔ ∀ item ∈ items, item.Printable fine := by
  induction items with
  | nil => simp [PrintableItems]
  | cons item items ih => simp [PrintableItems, ih]

theorem printableFields_iff (fine : Bytes → Prop) (fields : List (Bytes × Document)) :
    PrintableFields fine fields ↔ ∀ f ∈ fields, fine f.1 ∧ f.2.Printable fine := by
  induction fields with
  | nil => simp [PrintableFields]
  | cons field fields ih =>
    obtain ⟨name, document⟩ := field
    simp [PrintableFields, ih, and_assoc]

section written
variable {escape : Bytes → Bytes} {fine : Bytes → Prop}

mutual

theorem tree_written (escapes : ∀ {s}, fine s → BodyText (escape s)) :
    ∀ {document : Document}, document.Printable fine →
      Written BodyText (document.tree escape)
  | .nothing, _ => by rw [Document.tree]; trivial
  | .truth value, _ => by rw [Document.tree]; trivial
  | .number literal, printable => by
    rw [Document.Printable] at printable
    rw [Document.tree, Written]
    exact printable
  | .text s, printable => by
    rw [Document.Printable] at printable
    rw [Document.tree, Written]
    exact escapes printable
  | .list items, printable => by
    rw [Document.Printable] at printable
    rw [Document.tree, Written]
    exact itemTrees_written escapes printable
  | .record fields, printable => by
    rw [Document.Printable] at printable
    rw [Document.tree, Written]
    exact fieldTrees_written escapes printable

theorem itemTrees_written (escapes : ∀ {s}, fine s → BodyText (escape s)) :
    ∀ {items : List Document}, PrintableItems fine items →
      WrittenItems BodyText (itemTrees escape items)
  | [], _ => by rw [itemTrees]; trivial
  | item :: items, printable => by
    rw [PrintableItems] at printable
    rw [itemTrees, WrittenItems]
    exact ⟨tree_written escapes printable.1, itemTrees_written escapes printable.2⟩

theorem fieldTrees_written (escapes : ∀ {s}, fine s → BodyText (escape s)) :
    ∀ {fields : List (Bytes × Document)}, PrintableFields fine fields →
      WrittenMembers BodyText (fieldTrees escape fields)
  | [], _ => by rw [fieldTrees]; trivial
  | (name, document) :: fields, printable => by
    rw [PrintableFields] at printable
    rw [fieldTrees, WrittenMembers]
    exact ⟨escapes printable.1, tree_written escapes printable.2.1,
      fieldTrees_written escapes printable.2.2⟩

end

/-- What is printed is read as the document it was printed from. -/
theorem print_reads (escapes : ∀ {s}, fine s → BodyText (escape s))
    (stands : ∀ s, decoded (escape s) = some s) {document : Document}
    (printable : document.Printable fine) : ReadsAs (document.print escape) document := by
  refine ⟨document.tree escape, ?_, documentOf_tree stands document⟩
  rw [print_render]
  exact render_text (tree_written escapes printable)

end written

end JsonDocuments
