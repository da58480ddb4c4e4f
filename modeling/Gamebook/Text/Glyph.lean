-- The columns that a table gives a character. Tables follow a later edition of the list of
-- characters than reports do; what differs between the two is listed here.
import Gamebook.Text.Width

namespace Gamebook.Text

/-! ## What differs from a report -/

/-- Characters that take no column in a table alone: marks that the earlier edition does not have,
or does not count as marks. -/
def unspacedRanges : List (Nat × Nat) :=
  [(0x05c8, 0x05c9), (0x0897, 0x0897), (0x0b53, 0x0b54), (0x1715, 0x1715), (0x1734, 0x1734),
   (0x1acf, 0x1af0), (0x1b44, 0x1b44), (0x1baa, 0x1baa), (0x1bf2, 0x1bf3), (0xa953, 0xa953),
   (0xa9c0, 0xa9c0), (0x10d69, 0x10d6d), (0x10ecb, 0x10ecf), (0x10ef0, 0x10efc), (0x111c0, 0x111c0),
   (0x11235, 0x11235), (0x1134d, 0x1134d), (0x113b8, 0x113b8), (0x113bb, 0x113c0),
   (0x113c2, 0x113c2), (0x113c5, 0x113c5), (0x113c7, 0x113c9), (0x113ce, 0x113d2),
   (0x113e1, 0x113e2), (0x116b6, 0x116b6), (0x1193d, 0x1193d), (0x11b60, 0x11b60),
   (0x11b62, 0x11b64), (0x11b66, 0x11b66), (0x11df0, 0x11df0), (0x11f41, 0x11f41),
   (0x11f5a, 0x11f5a), (0x1611e, 0x16129), (0x1612d, 0x1612f), (0x16ff0, 0x16ff1),
   (0x1d127, 0x1d128), (0x1d166, 0x1d166), (0x1d16d, 0x1d16d), (0x1d250, 0x1d252),
   (0x1d25b, 0x1d25c), (0x1d25f, 0x1d25f), (0x1d280, 0x1d281), (0x1e5ee, 0x1e5ef),
   (0x1e6e3, 0x1e6e3), (0x1e6e6, 0x1e6e6), (0x1e6ee, 0x1e6ef), (0x1e6f5, 0x1e6f5)]

/-- Characters that take two columns in a table alone: ideographs and pictures that the earlier
edition does not have, and signs that have become wide. -/
def doubledRanges : List (Nat × Nat) :=
  [(0x2630, 0x2637), (0x268a, 0x268f), (0x31e4, 0x31e5), (0x4dc0, 0x4dff), (0x16ff2, 0x16ff6),
   (0x187f8, 0x187ff), (0x18cd6, 0x18cda), (0x18cff, 0x18cff), (0x18d09, 0x18d20),
   (0x18d80, 0x18df2), (0x18e00, 0x19191), (0x191a0, 0x191d2), (0x1b123, 0x1b128),
   (0x1b168, 0x1b168), (0x1d300, 0x1d356), (0x1d360, 0x1d376), (0x1f1ae, 0x1f1ae),
   (0x1f6d8, 0x1f6d9), (0x1f7da, 0x1f7da), (0x1fa89, 0x1fa8f), (0x1fabe, 0x1fabe),
   (0x1fac6, 0x1fac6), (0x1fac8, 0x1fac8), (0x1facc, 0x1facd), (0x1fadc, 0x1fadd),
   (0x1fadf, 0x1fadf), (0x1fae9, 0x1faeb), (0x1faef, 0x1faef), (0x1faf9, 0x1fafa)]

/-- Marks that take a column of their own in a table alone. -/
def spacedRanges : List (Nat × Nat) :=
  [(0xff9e, 0xff9f), (0x1171e, 0x1171e), (0x11a3a, 0x11a3a)]

/-! ## Widths -/

/-- The columns of one character in a table. -/
def glyphWidth (c : Char) : Nat :=
  if inRanges unspacedRanges c then 0
  else if inRanges doubledRanges c then 2
  else if inRanges spacedRanges c then 1
  else charWidth c

/-! ## Marks that letters join across -/

/-- Characters without a column across which letters do not join. -/
def separatingRanges : List (Nat × Nat) :=
  [(0x0605, 0x0605), (0x0890, 0x0891), (0x08e2, 0x08e2), (0x09be, 0x09be), (0x09d7, 0x09d7),
   (0x0b3e, 0x0b3e), (0x0b57, 0x0b57), (0x0bbe, 0x0bbe), (0x0bd7, 0x0bd7), (0x0cc0, 0x0cc0),
   (0x0cc2, 0x0cc2), (0x0cc7, 0x0cc8), (0x0cca, 0x0ccb), (0x0cd5, 0x0cd6), (0x0d3e, 0x0d3e),
   (0x0d4e, 0x0d4e), (0x0d57, 0x0d57), (0x0dcf, 0x0dcf), (0x0ddf, 0x0ddf), (0x1160, 0x11ff),
   (0x1715, 0x1715), (0x1734, 0x1734), (0x180e, 0x180e), (0x1b35, 0x1b35), (0x1b3b, 0x1b3b),
   (0x1b3d, 0x1b3d), (0x1b43, 0x1b44), (0x1baa, 0x1baa), (0x1bf2, 0x1bf3), (0x200c, 0x200d),
   (0x2065, 0x2069), (0x302e, 0x302f), (0x3164, 0x3164), (0xa8fa, 0xa8fa), (0xa953, 0xa953),
   (0xa9c0, 0xa9c0), (0xd7b0, 0xd7c6), (0xd7cb, 0xd7fb), (0xffa0, 0xffa0), (0xfff0, 0xfff8),
   (0x111c0, 0x111c0), (0x111c2, 0x111c3), (0x11235, 0x11235), (0x1133e, 0x1133e),
   (0x1134d, 0x1134d), (0x11357, 0x11357), (0x113b8, 0x113b8), (0x113c2, 0x113c2),
   (0x113c5, 0x113c5), (0x113c7, 0x113c9), (0x113cf, 0x113cf), (0x113d1, 0x113d1),
   (0x114b0, 0x114b0), (0x114bd, 0x114bd), (0x115af, 0x115af), (0x116b6, 0x116b6),
   (0x11930, 0x11930), (0x1193d, 0x1193d), (0x1193f, 0x1193f), (0x11941, 0x11941),
   (0x11a84, 0x11a89), (0x11d46, 0x11d46), (0x11f02, 0x11f02), (0x11f41, 0x11f41),
   (0x16ff0, 0x16ff1), (0x1d165, 0x1d166), (0x1d16d, 0x1d172), (0x1d250, 0x1d252),
   (0x1d25f, 0x1d25f), (0x1d280, 0x1d281), (0xe0000, 0xe0000), (0xe0002, 0xe001f),
   (0xe0080, 0xe00ff), (0xe01f0, 0xe0fff)]

/-- Whether letters on either side of a character join as if it were not there. -/
def isTransparent (c : Char) : Bool := glyphWidth c = 0 && !inRanges separatingRanges c

/-- Marks that are not seen, and do not break a sequence apart. -/
def unseenMarkRanges : List (Nat × Nat) :=
  [(0x034f, 0x034f), (0x17b4, 0x17b5), (0x180b, 0x180d), (0x180f, 0x180f), (0xfe00, 0xfe0f),
   (0xe0100, 0xe01ef)]

def isUnseenMark (c : Char) : Bool := inRanges unseenMarkRanges c

end Gamebook.Text
