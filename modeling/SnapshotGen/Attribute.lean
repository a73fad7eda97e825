import SnapshotGen.Component

/-!
How a prop's value stands in a tag: between quotes, or as an expression in braces.
-/

namespace SnapshotGen

inductive AttributeValue
  | quoted (text : String)
  | expression (text : String)
  deriving DecidableEq, Repr

namespace AttributeValue

def text : AttributeValue → String
  | quoted text => text
  | expression text => text

def written (name : String) : AttributeValue → String
  | quoted text => name ++ "=" ++ text
  | expression text => name ++ "=\x7b" ++ text ++ "\x7d"

def doubleFirst : List Char → List Char
  | '\'' :: rest => '"' :: rest
  | cs => cs

/-- A single quote at either end becomes a double quote; a text that is one single quote has only
its first end changed. -/
def doubleQuotes (cs : List Char) : List Char :=
  match cs with
  | '\'' :: rest => '"' :: (doubleFirst rest.reverse).reverse
  | cs => (doubleFirst cs.reverse).reverse

def endsLine (c : Char) : Bool :=
  c == '\n' || c == '\r' || c == '\u2028' || c == '\u2029'

/-- A text that begins and ends with two different double quotes and stays on one line. -/
def standsQuoted (cs : List Char) : Bool :=
  2 ≤ cs.length && cs.head? == some '"' && cs.getLast? == some '"' && !cs.any endsLine

def ofString (text : String) : AttributeValue :=
  let cs := doubleQuotes text.toList
  if standsQuoted cs then quoted (String.ofList cs) else expression (String.ofList cs)

def ofText (kind : PropKind) (text : String) : AttributeValue :=
  if kind = .string then ofString text else expression text

end AttributeValue

end SnapshotGen
