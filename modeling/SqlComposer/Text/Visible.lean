import SqlComposer.Text.Extender
import SqlComposer.Text.Unassigned

/-!
Characters that can be read where they stand in a text. The others show nothing by themselves:
controls, format characters, separators, characters of private use, code points without a
character, letters that only fill a place, and the marks that extend the character before them.
-/

namespace SqlComposer.Text

/-- The general categories Cc, Cf, Co, Zl, Zp, and Zs without the space. -/
def hiddenRanges : CodeRanges := [
  (0x0, 0x1f), (0x7f, 0xa0), (0xad, 0xad), (0x600, 0x605), (0x61c, 0x61c), (0x6dd, 0x6dd),
  (0x70f, 0x70f), (0x890, 0x891), (0x8e2, 0x8e2), (0x1680, 0x1680), (0x180e, 0x180e),
  (0x2000, 0x200f), (0x2028, 0x202f), (0x205f, 0x2064), (0x2066, 0x206f), (0x3000, 0x3000),
  (0xe000, 0xf8ff), (0xfeff, 0xfeff), (0xfff9, 0xfffb), (0x110bd, 0x110bd), (0x110cd, 0x110cd),
  (0x13430, 0x1343f), (0x1bca0, 0x1bca3), (0x1d173, 0x1d17a), (0xe0001, 0xe0001),
  (0xe0020, 0xe007f), (0xf0000, 0xffffd), (0x100000, 0x10fffd)]

/-- The letters with the property Default_Ignorable_Code_Point: they fill the place of a part of a
syllable that is absent. -/
def fillerRanges : CodeRanges := [(0x115f, 0x1160), (0x3164, 0x3164), (0xffa0, 0xffa0)]

def isVisible (c : Char) : Bool :=
  let code := c.toNat
  (0x20 ≤ code && code < 0x7f) ||
    !(hiddenRanges.has code || fillerRanges.has code || extenderRanges.has code ||
      unassignedRanges.has code)

end SqlComposer.Text
