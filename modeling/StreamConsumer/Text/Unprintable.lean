import StreamConsumer.Text.JoiningMark
import StreamConsumer.Text.Unassigned

/-!
# Characters without a visible form of their own

Control and format characters, separators other than the space, private and unassigned characters, characters that may
be ignored in display, and marks that join the character before them.  Each table is a property of characters in
Unicode 17; some overlap.
-/

namespace StreamConsumer.Text

/-- Control characters. -/
def controls : CodePoints where
  ranges :=
    [(0x0, 0x1f), (0x7f, 0x9f)]

/-- Space, line and paragraph separators other than the space. -/
def separators : CodePoints where
  ranges :=
    [(0xa0, 0xa0), (0x1680, 0x1680), (0x2000, 0x200a), (0x2028, 0x2029), (0x202f, 0x202f), (0x205f, 0x205f),
      (0x3000, 0x3000)]

/-- Format characters. -/
def formats : CodePoints where
  ranges :=
    [(0xad, 0xad), (0x600, 0x605), (0x61c, 0x61c), (0x6dd, 0x6dd), (0x70f, 0x70f), (0x890, 0x891),
      (0x8e2, 0x8e2), (0x180e, 0x180e), (0x200b, 0x200f), (0x202a, 0x202e), (0x2060, 0x2064), (0x2066, 0x206f),
      (0xfeff, 0xfeff), (0xfff9, 0xfffb), (0x110bd, 0x110bd), (0x110cd, 0x110cd), (0x13430, 0x1343f),
      (0x1bca0, 0x1bca3), (0x1d173, 0x1d17a), (0xe0001, 0xe0001), (0xe0020, 0xe007f)]

/-- Characters whose meaning is a private agreement. -/
def privates : CodePoints where
  ranges :=
    [(0xe000, 0xf8ff), (0xf0000, 0xffffd), (0x100000, 0x10fffd)]

/-- Characters that a display leaves out unless it supports them: fillers, joiners, selectors and the places kept for
more of them. -/
def ignorables : CodePoints where
  ranges :=
    [(0xad, 0xad), (0x34f, 0x34f), (0x61c, 0x61c), (0x115f, 0x1160), (0x17b4, 0x17b5), (0x180b, 0x180f),
      (0x200b, 0x200f), (0x202a, 0x202e), (0x2060, 0x206f), (0x3164, 0x3164), (0xfe00, 0xfe0f),
      (0xfeff, 0xfeff), (0xffa0, 0xffa0), (0xfff0, 0xfff8), (0x1bca0, 0x1bca3), (0x1d173, 0x1d17a),
      (0xe0000, 0xe0fff)]

/-- The character has no visible form of its own. -/
def isUnprintable (c : Char) : Bool :=
  controls.contains c || separators.contains c || formats.contains c || privates.contains c
    || ignorables.contains c || joiningMarks.contains c || unassigned.contains c

end StreamConsumer.Text
