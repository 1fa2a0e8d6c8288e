/-!
# Literal text inside a regular expression

A text is made literal by a backslash in front of each character that a regular expression could
read as something else.
-/

namespace QueryPipeline.Text

/-- The characters that get a backslash. -/
def isSpecial (c : Char) : Bool :=
  ['\t', '\n', '\x0b', '\x0c', '\r', ' ', '#', '$', '&', '(', ')', '*', '+', '-', '.', '?', '[',
    '\x5c', ']', '^', '\x7b', '|', '\x7d', '~'].contains c

/-- The regular expression that matches exactly the given text. -/
def literal : List Char → List Char
  | [] => []
  | c :: rest => if isSpecial c then '\x5c' :: c :: literal rest else c :: literal rest

end QueryPipeline.Text
