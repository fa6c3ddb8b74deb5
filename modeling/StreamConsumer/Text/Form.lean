import StreamConsumer.Text.Quoted

/-!
# Structured text

The text that shows a value for inspection, as a tree of words, quoted texts, wrapped items, lists and records, and its
two layouts: all on one line (`Form.compact`), or one item on each line, indented by its depth (`Form.pretty`).
-/

namespace StreamConsumer.Text

inductive Form where
  /-- A name or a number, written as it is. -/
  | word (chars : List Char)
  | quoted (text : String)
  | wrapped (name : String) (item : Form)
  | list (items : List Form)
  /-- A record; one that is not complete has parts that are not shown. -/
  | record (name : String) (fields : List (String × Form)) (complete : Bool)

namespace Form

/-- A name, written as it is. -/
def name (text : String) : Form := word text.toList

/-- A value that may be absent. -/
def optional : Option Form → Form
  | none => name "None"
  | some item => wrapped "Some" item

/-! ### On one line -/

/-- The pieces with a comma and a space between them. -/
def separated : List (List Char) → List Char
  | [] => []
  | [piece] => piece
  | piece :: next :: rest => piece ++ ',' :: ' ' :: separated (next :: rest)

mutual

def compact : Form → List Char
  | word chars => chars
  | quoted text => Text.quoted text.toList
  | wrapped name item => name.toList ++ '(' :: compact item ++ [')']
  | list items => '[' :: separated (compactItems items) ++ [']']
  | record name fields complete =>
    name.toList ++ [' ', '{', ' '] ++
      separated (compactFields fields ++ if complete then [] else [['.', '.']]) ++ [' ', '}']

def compactItems : List Form → List (List Char)
  | [] => []
  | item :: rest => compact item :: compactItems rest

def compactFields : List (String × Form) → List (List Char)
  | [] => []
  | (name, value) :: rest => (name.toList ++ ':' :: ' ' :: compact value) :: compactFields rest

end

/-! ### One item on each line -/

/-- The blanks in front of a line at this depth. -/
def indent (depth : Nat) : List Char := List.replicate (4 * depth) ' '

mutual

/-- The layout of a value whose first line begins at `depth`. -/
def prettyAt (depth : Nat) : Form → List Char
  | word chars => chars
  | quoted text => Text.quoted text.toList
  | wrapped name item =>
    name.toList ++ '(' :: '\n' :: indent (depth + 1) ++ prettyAt (depth + 1) item ++ ',' :: '\n' :: indent depth
      ++ [')']
  | list [] => ['[', ']']
  | list (item :: rest) => '[' :: '\n' :: prettyItems (depth + 1) (item :: rest) ++ indent depth ++ [']']
  | record name fields complete =>
    name.toList ++ ' ' :: '{' :: '\n' :: prettyFields (depth + 1) fields
      ++ (if complete then [] else indent (depth + 1) ++ ['.', '.', '\n']) ++ indent depth ++ ['}']

def prettyItems (depth : Nat) : List Form → List Char
  | [] => []
  | item :: rest => indent depth ++ prettyAt depth item ++ ',' :: '\n' :: prettyItems depth rest

def prettyFields (depth : Nat) : List (String × Form) → List Char
  | [] => []
  | (name, value) :: rest =>
    indent depth ++ name.toList ++ ':' :: ' ' :: prettyAt depth value ++ ',' :: '\n' :: prettyFields depth rest

end

def pretty (form : Form) : List Char := prettyAt 0 form

/-- The text in one of the two layouts. -/
def text (form : Form) (onLines : Bool) : String := String.ofList (if onLines then form.pretty else form.compact)

end Form

end StreamConsumer.Text
