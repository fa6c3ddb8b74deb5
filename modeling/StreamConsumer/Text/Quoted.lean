import StreamConsumer.Text.Unprintable

/-!
# Quoted text

A text between double quotes.  The quote and the backslash stand behind a backslash; null, tab, carriage return and line
feed have a letter of their own; every other character without a visible form is written by its code point in
hexadecimal between braces.  All other characters stand for themselves.
-/

namespace StreamConsumer.Text

/-- The letter that stands for a character behind a backslash. -/
def shortEscape? (c : Char) : Option Char :=
  if c = '\x00' then some '0'
  else if c = '\t' then some 't'
  else if c = '\r' then some 'r'
  else if c = '\n' then some 'n'
  else if c = '"' then some '"'
  else if c = '\\' then some '\\'
  else none

/-- The code point of a character, in hexadecimal between braces. -/
def codePoint (c : Char) : List Char := ['\\', 'u', '{'] ++ Nat.toDigits 16 c.toNat ++ ['}']

def escape (c : Char) : List Char :=
  match shortEscape? c with
  | some letter => ['\\', letter]
  | none => if isUnprintable c then codePoint c else [c]

def quoted (cs : List Char) : List Char := '"' :: cs.flatMap escape ++ ['"']

end StreamConsumer.Text
