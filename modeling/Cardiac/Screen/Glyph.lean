/-!
# Glyphs

Text goes into cells glyph by glyph. A glyph is a single character, save that a carriage return
and the newline behind it are one glyph. Some characters get no cell: a newline without a
carriage return, for a line has no end inside itself, and the format characters and fillers that
are drawn as nothing.
-/
namespace Cardiac.Screen

abbrev Glyph := String

/-- First and last code point of each run of characters drawn as nothing, in order. -/
def unseenRanges : List (Nat × Nat) :=
  [(0xad, 0xad), (0x61c, 0x61c), (0x1160, 0x1160), (0x180e, 0x180e), (0x200b, 0x200b),
   (0x200e, 0x200f), (0x202a, 0x202e), (0x2060, 0x206f), (0x3164, 0x3164), (0xfeff, 0xfeff),
   (0xffa0, 0xffa0), (0xfff0, 0xfff8), (0x1bca0, 0x1bca3), (0x1d173, 0x1d17a),
   (0xe0000, 0xe001f), (0xe0080, 0xe00ff), (0xe01f0, 0xe0fff)]

/-- The character gets no cell. -/
def isUnseen (c : Char) : Bool :=
  c = '\n' || unseenRanges.any fun (first, last) => first ≤ c.toNat && c.toNat ≤ last

def glyphs : List Char → List Glyph
  | [] => []
  | '\r' :: '\n' :: rest => "\r\n" :: glyphs rest
  | c :: rest => if isUnseen c then glyphs rest else String.singleton c :: glyphs rest

end Cardiac.Screen
