import LspClient.Text.Printable
import LspClient.Url.Domain.Images

/-!
# Mapping names

Before a domain name is looked at, every character is replaced by its image: capital
letters by small ones, and letters of a special shape by plain ones. Some characters are
left out, and some may not stand in a name at all.
-/

namespace LspClient.Url

/-- The run in which a number may lie: the last one that starts at it or before it, among
those at the indices from `lo` up to `hi`; `fuel` bounds the number of halvings. -/
def runBefore? (runs : Array (Nat × α)) (n : Nat) : Nat → Nat → Nat → Option (Nat × α)
  | 0, _, _ => none
  | fuel + 1, lo, hi =>
    if lo + 1 < hi then
      let mid := (lo + hi) / 2
      match runs[mid]? with
      | none => none
      | some (first, _) =>
        if n < first then runBefore? runs n fuel lo mid else runBefore? runs n fuel mid hi
    else runs[lo]?

/-- The entry of a number, among runs of entries. -/
def atNumber? (runs : Array (Nat × α)) (entries : α → List β) (n : Nat) : Option β :=
  (runBefore? runs n (runs.size + 1) 0 runs.size).bind fun (first, run) =>
    if first ≤ n then (entries run)[n - first]? else none

/-- The ranges of characters that are left out of a name. -/
def ignoredRanges : Array (Nat × Nat) := #[
  (0xAD, 0xAD), (0x34F, 0x34F), (0x115F, 0x1160), (0x17B4, 0x17B5), (0x180B, 0x180F),
  (0x200B, 0x200B), (0x2060, 0x2064), (0x206A, 0x206F), (0x3164, 0x3164), (0xFE00, 0xFE0F),
  (0xFEFF, 0xFEFF), (0xFFA0, 0xFFA0), (0x1BCA0, 0x1BCA3), (0x1D173, 0x1D17A), (0xE0100, 0xE01EF)]

/-- The ranges of printable characters that may not stand in a name. -/
def refusedRanges : Array (Nat × Nat) := #[
  (0x2024, 0x2026), (0x2488, 0x249B), (0x2FF0, 0x2FFF), (0x31EF, 0x31EF), (0x33C2, 0x33C2),
  (0x33C7, 0x33C7), (0x33D8, 0x33D8), (0xFE12, 0xFE12), (0xFE19, 0xFE19), (0xFE30, 0xFE30),
  (0xFE52, 0xFE52), (0xFFFC, 0xFFFD), (0x1F100, 0x1F100)]

/-- A character that tells how the letters around it join. -/
def isJoiner (c : Char) : Bool := c = '\u200c' || c = '\u200d'

/-- A character that may stand in a name and is its own image. -/
def isPlain (c : Char) : Bool :=
  isJoiner c || (Text.isPrintable c && !Text.memRanges refusedRanges c)

/-- The image of a character in a name, unless it may not stand in one. -/
def image? (c : Char) : Option (List Char) :=
  if c.toNat < 0x80 then some [c.toLower]
  else
    match atNumber? expansions id c.toNat with
    | some image => some image.toList
    | none =>
      let image := (atNumber? images String.toList c.toNat).getD c
      if image ≠ c then some [image]
      else if Text.memRanges ignoredRanges c then some []
      else if isPlain c then some [c]
      else none

/-- A name with every character replaced by its image. -/
def mapped? (name : List Char) : Option (List Char) := (name.mapM image?).map List.flatten

end LspClient.Url
