import CcxLexis.Text.Quoted

/-!
# Tokens

A token is a kind, the text of its lexeme and, for comments, an annotation that repeats the
text.  Malformed source text is not an error: it becomes a token of kind `unknown`.
-/

namespace CcxLexis

/-- What a lexeme is. -/
inductive Kind where
  | keyword
  | identifier
  | number
  | string
  | character
  | operator
  | lineComment
  | blockComment
  | unknown
  | endOfInput
deriving DecidableEq, Repr

namespace Kind

/-- The name under which a kind is listed. -/
def name : Kind → String
  | keyword => "Keyword"
  | identifier => "Identifier"
  | number => "NumericLiteral"
  | string => "String"
  | character => "CharLiteral"
  | operator => "Operator"
  | lineComment => "Comment"
  | blockComment => "MultilineComment"
  | unknown => "Unknown"
  | endOfInput => "EOF"

def all : List Kind :=
  [keyword, identifier, number, string, character, operator, lineComment, blockComment, unknown,
    endOfInput]

def ofName? (name : String) : Option Kind :=
  all.find? fun kind => kind.name == name

def isComment : Kind → Bool
  | lineComment | blockComment => true
  | _ => false

end Kind

/-- One token of a source.  The scanner annotates comments, and only comments, with their
text. -/
structure Token where
  kind : Kind
  value : String
  annotation : Option String := none
deriving DecidableEq, Repr

namespace Token

/-- The token that reports the end of the input. -/
def endOfInput : Token :=
  { kind := .endOfInput, value := "" }

/-- The token of a kind with a given text, annotated as the kind demands. -/
def ofLexeme (kind : Kind) (value : String) : Token :=
  { kind, value, annotation := if kind.isComment then some value else none }

def isEndOfInput (token : Token) : Bool :=
  token.kind == .endOfInput

def isComment (token : Token) : Bool :=
  token.kind.isComment

/-- The form of a token in a report, over three lines. -/
def describe (token : Token) : String :=
  "Token \x7b\nkind: " ++ token.kind.name ++ ",\nvalue: " ++ Text.quoted token.value ++ "\x7d"

end Token

end CcxLexis
