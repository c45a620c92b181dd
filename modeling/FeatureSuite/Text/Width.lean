import FeatureSuite.Text.Table.Width

/-!
# Terminal cells

How wide a text shows in a terminal.
-/

namespace FeatureSuite.Text

/-- The number of cells of a character that stands alone. -/
def cellsOfChar (c : Char) : Nat :=
  if c.toNat < 128 then (if c.toNat < 32 || c.toNat = 127 then 0 else 1)
  else if zeroWidthRanges.contains c then 0
  else if wideRanges.contains c then 2
  else 1

def joiner : Char := '\u200d'

def emojiSelector : Char := '\ufe0f'

/-- The number of cells of characters. `shown` is the last character that takes cells, unless a
selector is behind it. -/
def cellsFrom (shown : Option Char) : List Char → Nat
  | [] => 0
  | c :: rest =>
      if c = joiner then
        match rest with
        | [] => 0
        | _ :: rest => cellsFrom shown rest
      else if c = emojiSelector then
        (if shown.any selectorRanges.contains then 1 else 0) + cellsFrom none rest
      else
        let n := cellsOfChar c
        n + cellsFrom (if n = 0 then shown else some c) rest

/-- The number of cells of characters. A joined character takes none of its own. -/
def cellsOfChars (cs : List Char) : Nat := cellsFrom none cs

def cells (s : String) : Nat := cellsOfChars s.toList

end FeatureSuite.Text
