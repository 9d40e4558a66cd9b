import LspClient.Url.Percent

/-!
# Form encoding

Pairs of names and values in a query: `name=value`, with `&` between the pairs. A space
is written as `+`, and everything else that could be mistaken is percent-encoded.
-/

namespace LspClient.Url

/-- A character that stands for itself in a pair. -/
def isFormPlain (c : Char) : Bool := c.isAlphanum || ['*', '-', '.', '_'].contains c

/-- A name or a value. -/
def formEncode (text : List Char) : List Char :=
  text.flatMap fun c =>
    if c = ' ' then ['+']
    else if isFormPlain c then [c]
    else (Utf8.encodeChar c).flatMap percentByte

/-- A query with one more pair at its end. -/
def appendPair (query : List Char) (name value : List Char) : List Char :=
  query ++ (if query.isEmpty then [] else ['&']) ++ formEncode name ++ '=' :: formEncode value

end LspClient.Url
