import QueryPipeline.Text.Hex
import QueryPipeline.Text.Printable

/-!
# Quoted texts

Messages show a text between quotes. The single quote is used unless the text holds one and no
double quote; the backslash and the quote in use are escaped, as are line breaks, tabs and every
character that is not printable.
-/

namespace QueryPipeline.Text

/-- The quote around a text. -/
def quoteFor (text : List Char) : Char :=
  if text.contains '\x27' && !text.contains '\x22' then '\x22' else '\x27'

/-- A character as it stands between the given quotes. -/
def quotedChar (quote c : Char) : List Char :=
  if c = quote ∨ c = '\x5c' then ['\x5c', c]
  else if c = '\t' then ['\x5c', 't']
  else if c = '\n' then ['\x5c', 'n']
  else if c = '\r' then ['\x5c', 'r']
  else if isPrintable c then [c]
  else if c.toNat < 0x100 then '\x5c' :: 'x' :: hexOfWidth 2 c.toNat
  else if c.toNat < 0x10000 then '\x5c' :: 'u' :: hexOfWidth 4 c.toNat
  else '\x5c' :: 'U' :: hexOfWidth 8 c.toNat

/-- A text between quotes. -/
def quoted (text : List Char) : List Char :=
  let quote := quoteFor text
  quote :: text.flatMap (quotedChar quote) ++ [quote]

end QueryPipeline.Text
