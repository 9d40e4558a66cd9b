import LspClient.Text.Composition
import LspClient.Url.Address
import LspClient.Url.Domain.Label

/-!
# Domain names

A domain name is put into small letters and into ASCII, and only characters that no other
part of a URL needs may stand in it. A name that is in ASCII and has no encoded labels
only changes case; any other name is mapped and composed, and each of its labels is
checked and written in ASCII.
-/

namespace LspClient.Url

/-- A character that may not stand in a domain name. -/
def isForbiddenInDomain (c : Char) : Bool :=
  c.toNat ≤ 0x20 || c = '\x7f' ||
    ['#', '%', '/', ':', '<', '>', '?', '@', '[', '\\', ']', '^', '|'].contains c

/-- The labels of a name. -/
def labels (name : List Char) : List (List Char) := splitAt (· = '.') name

/-- Whether labels may stand in one name. -/
def areValidLabels (labels : List (List Char)) : Bool :=
  labels.all isValidLabel && (!labels.any mixesDirections || labels.all keepsDirection)

/-- The ASCII form of a name that has been mapped and composed. -/
def writtenDomain? (name : List Char) : Option (List Char) := do
  if name.any isForbiddenInDomain then none
  else
    let read ← (labels name).mapM readLabel?
    if areValidLabels read then some (['.'].intercalate (read.map writeLabel)) else none

/-- Whether a name is in ASCII and has no encoded labels. -/
def isPlainName (name : List Char) : Bool :=
  isAsciiLabel name && !(labels (name.map Char.toLower)).any labelMark.isPrefixOf

/-- The ASCII form of a domain name. -/
def asciiDomain? (name : List Char) : Option (List Char) :=
  if isPlainName name then
    if name.any isForbiddenInDomain then none else some (name.map Char.toLower)
  else (mapped? name).bind fun mapped => writtenDomain? (Text.composed mapped)

end LspClient.Url
