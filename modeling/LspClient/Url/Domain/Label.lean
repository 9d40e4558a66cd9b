import LspClient.Text.Composition
import LspClient.Url.Domain.Direction
import LspClient.Url.Domain.Joining
import LspClient.Url.Domain.Punycode

/-!
# Labels

The labels of a domain name stand between its dots. A label that is not in ASCII is
written in ASCII with `labelMark` in front. A label that starts so in a name has to be one
that could have been written this way.
-/

namespace LspClient.Url

/-- Stands in front of a label that is written in ASCII but is not in ASCII. -/
def labelMark : List Char := ['x', 'n', '-', '-']

/-- The longest label that is written in ASCII, in characters. -/
def maxLabelLength : Nat := 1000

/-- The longest label in ASCII that is read, without its mark. -/
def maxEncodedLength : Nat := 2000

/-- Whether a label is in ASCII. -/
def isAsciiLabel (label : List Char) : Bool := label.all Punycode.isAscii

/-- A text that may be a label as it is: mapping and composing do not change it. -/
def isSettled (label : List Char) : Bool := mapped? label = some label && Text.composed label = label

/-- Reads a mapped label: one with the mark stands for another, which is not in ASCII. -/
def readLabel? (label : List Char) : Option (List Char) :=
  if labelMark.isPrefixOf label then do
    let encoded := label.drop labelMark.length
    if encoded.isEmpty || encoded.getLast? = some Punycode.delimiter || maxEncodedLength < encoded.length
    then none
    else
      let text ← Punycode.decode? encoded
      if isSettled text then some text else none
  else some label

/-- Whether a label may stand in a name, apart from its direction. -/
def isValidLabel (label : List Char) : Bool :=
  isAsciiLabel label ||
    (label.length ≤ maxLabelLength && !label.head?.any Text.isMark && joinersFit [] label)

/-- A label in ASCII. -/
def writeLabel (label : List Char) : List Char :=
  if isAsciiLabel label then label else labelMark ++ Punycode.encode label

end LspClient.Url
