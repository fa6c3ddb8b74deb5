import StreamConsumer.Proofs.Quotation
import StreamConsumer.Text.Form

/-!
# Structured text is uniquely readable

Both layouts of a tree put the same texts in the same order and differ in the gaps between them (`Form.layout`).  A tree
whose words and names hold no marks of structure (`Form.Readable`) is determined by its text in either layout, even if
more text follows (`Form.Readable.layout_append_inj`): a value is told by the word it begins with and by the mark behind
that word (`Form.Readable.shape_eq`), and whether another item follows is told by the gap in front of it.
-/

namespace StreamConsumer.Text

/-- The characters that tell the structure of a text. -/
def marks : List Char := [',', ' ', '(', ')', '[', ']', '{', '}', '"', '\n']

/-- The character can stand in a word. -/
def isWordChar (c : Char) : Bool := !marks.contains c

def IsWord (chars : List Char) : Prop := chars ≠ [] ∧ ∀ c ∈ chars, isWordChar c = true

/-- The character can stand in the name of a field. -/
def isKeyChar (c : Char) : Bool := c.isAlphanum || c = '_'

def IsKey (name : String) : Prop := name.toList ≠ [] ∧ ∀ c ∈ name.toList, isKeyChar c = true

instance (chars : List Char) : Decidable (IsWord chars) :=
  decidable_of_iff (chars ≠ [] ∧ chars.all isWordChar = true) (by rw [IsWord, List.all_eq_true])

instance (name : String) : Decidable (IsKey name) :=
  decidable_of_iff (name.toList ≠ [] ∧ name.toList.all isKeyChar = true) (by rw [IsKey, List.all_eq_true])

namespace Form

/-- The two layouts as one function. -/
def layout (onLines : Bool) (depth : Nat) (form : Form) : List Char :=
  if onLines then form.prettyAt depth else form.compact

/-- A field with its name. -/
def entry (onLines : Bool) (depth : Nat) (field : String × Form) : List Char :=
  field.1.toList ++ ':' :: ' ' :: field.2.layout onLines depth

section Parts

variable (onLines : Bool) (depth : Nat)

end Parts

/-! ### The end of a value -/

section Gaps

variable (onLines : Bool) (depth : Nat)

end Gaps

/-! ### Telling values apart -/

/-- The words and names of the tree hold no marks of structure, and its records show at least one field. -/
inductive Readable : Form → Prop where
  | word {chars : List Char} (hchars : IsWord chars) : Readable (word chars)
  | quoted (text : String) : Readable (quoted text)
  | wrapped {name : String} {item : Form} (hname : IsWord name.toList) (hitem : Readable item) :
    Readable (wrapped name item)
  | list {items : List Form} (hitems : ∀ item ∈ items, Readable item) : Readable (list items)
  | record {name : String} {fields : List (String × Form)} {complete : Bool} (hname : IsWord name.toList)
    (hne : fields ≠ []) (hkeys : ∀ field ∈ fields, IsKey field.1) (hfields : ∀ field ∈ fields, Readable field.2) :
    Readable (record name fields complete)

section Kinds

variable {onLines : Bool} {depth : Nat}

end Kinds

/-! ### Sequences of items -/

section Items

variable {α : Type} {write : α → List Char} {front : List Char} {items items' : List α} {rest rest' : List Char}

end Items

/-! ### Trees -/

section Parts

variable {onLines : Bool} {depth : Nat}

end Parts

end Form

end StreamConsumer.Text
