import TerminalDialogs.Text.Cluster

/-!
# How many columns a text takes

A character takes two columns if it is wide or fullwidth, none if it is a mark,
a filler or a character that is to be ignored, and otherwise one.  A text takes
the columns of its characters together, except where a character changes what
the one in front of it shows.

The text is therefore measured from its end: what stands behind a character is
summed up in a `Following`, and each character is counted with a view to it.

* A selector behind a character with two forms says how many columns that
  character takes.
* A skin tone takes the columns of the picture that it colours.
* A picture in front of a joiner takes no columns if a picture follows.
* A coeng puts the letter behind it below the letter in front of it.
* Quotation marks may be asked to be wide.
* Two parts of a vowel sign that are written as one sign count once.
-/

namespace TerminalDialogs
namespace Text

/-- The characters with `East_Asian_Width` wide or fullwidth. -/
def wideRanges : List (Nat × Nat) :=
  [(0x1100, 0x115F), (0x231A, 0x231B), (0x2329, 0x232A), (0x23E9, 0x23EC), (0x23F0, 0x23F0),
    (0x23F3, 0x23F3), (0x25FD, 0x25FE), (0x2614, 0x2615), (0x2630, 0x2637), (0x2648, 0x2653),
    (0x267F, 0x267F), (0x268A, 0x268F), (0x2693, 0x2693), (0x26A1, 0x26A1), (0x26AA, 0x26AB),
    (0x26BD, 0x26BE), (0x26C4, 0x26C5), (0x26CE, 0x26CE), (0x26D4, 0x26D4), (0x26EA, 0x26EA),
    (0x26F2, 0x26F3), (0x26F5, 0x26F5), (0x26FA, 0x26FA), (0x26FD, 0x26FD), (0x2705, 0x2705),
    (0x270A, 0x270B), (0x2728, 0x2728), (0x274C, 0x274C), (0x274E, 0x274E), (0x2753, 0x2755),
    (0x2757, 0x2757), (0x2795, 0x2797), (0x27B0, 0x27B0), (0x27BF, 0x27BF), (0x2B1B, 0x2B1C),
    (0x2B50, 0x2B50), (0x2B55, 0x2B55), (0x2E80, 0x2E99), (0x2E9B, 0x2EF3), (0x2F00, 0x2FD5),
    (0x2FF0, 0x3029), (0x3030, 0x303E), (0x3041, 0x3096), (0x309B, 0x30FF), (0x3105, 0x312F),
    (0x3131, 0x3163), (0x3165, 0x318E), (0x3190, 0x31E5), (0x31EF, 0x321E), (0x3220, 0x3247),
    (0x3250, 0xA48C), (0xA490, 0xA4C6), (0xA960, 0xA97C), (0xAC00, 0xD7A3), (0xF900, 0xFAFF),
    (0xFE10, 0xFE19), (0xFE30, 0xFE52), (0xFE54, 0xFE66), (0xFE68, 0xFE6B), (0xFF01, 0xFF60),
    (0xFFE0, 0xFFE6), (0x16FE0, 0x16FE3), (0x16FF2, 0x16FF6), (0x17000, 0x18CD5),
    (0x18CFF, 0x18D1E), (0x18D80, 0x18DF2), (0x1AFF0, 0x1AFF3), (0x1AFF5, 0x1AFFB),
    (0x1AFFD, 0x1AFFE), (0x1B000, 0x1B122), (0x1B132, 0x1B132), (0x1B150, 0x1B152),
    (0x1B155, 0x1B155), (0x1B164, 0x1B167), (0x1B170, 0x1B2FB), (0x1D300, 0x1D356),
    (0x1D360, 0x1D376), (0x1F004, 0x1F004), (0x1F0CF, 0x1F0CF), (0x1F18E, 0x1F18E),
    (0x1F191, 0x1F19A), (0x1F200, 0x1F202), (0x1F210, 0x1F23B), (0x1F240, 0x1F248),
    (0x1F250, 0x1F251), (0x1F260, 0x1F265), (0x1F300, 0x1F320), (0x1F32D, 0x1F335),
    (0x1F337, 0x1F37C), (0x1F37E, 0x1F393), (0x1F3A0, 0x1F3CA), (0x1F3CF, 0x1F3D3),
    (0x1F3E0, 0x1F3F0), (0x1F3F4, 0x1F3F4), (0x1F3F8, 0x1F43E), (0x1F440, 0x1F440),
    (0x1F442, 0x1F4FC), (0x1F4FF, 0x1F53D), (0x1F54B, 0x1F54E), (0x1F550, 0x1F567),
    (0x1F57A, 0x1F57A), (0x1F595, 0x1F596), (0x1F5A4, 0x1F5A4), (0x1F5FB, 0x1F64F),
    (0x1F680, 0x1F6C5), (0x1F6CC, 0x1F6CC), (0x1F6D0, 0x1F6D2), (0x1F6D5, 0x1F6D8),
    (0x1F6DC, 0x1F6DF), (0x1F6EB, 0x1F6EC), (0x1F6F4, 0x1F6FC), (0x1F7E0, 0x1F7EB),
    (0x1F7F0, 0x1F7F0), (0x1F90C, 0x1F93A), (0x1F93C, 0x1F945), (0x1F947, 0x1F9FF),
    (0x1FA70, 0x1FA7C), (0x1FA80, 0x1FA8A), (0x1FA8E, 0x1FAC6), (0x1FAC8, 0x1FAC8),
    (0x1FACD, 0x1FADC), (0x1FADF, 0x1FAEA), (0x1FAEF, 0x1FAF8), (0x20000, 0x2FFFD),
    (0x30000, 0x3FFFD)]

/-- Positions without a character that are kept for pictures and for scripts whose
characters are wide. -/
def reservedWideRanges : List (Nat × Nat) :=
  [(0x18CD6, 0x18CFE), (0x18DF3, 0x191DF), (0x1B168, 0x1B16F), (0x1F02C, 0x1F02F),
    (0x1F094, 0x1F09F), (0x1F0AF, 0x1F0B0), (0x1F0C0, 0x1F0C0), (0x1F0D0, 0x1F0D0),
    (0x1F0F6, 0x1F0FF), (0x1F1AE, 0x1F1E5), (0x1F203, 0x1F20F), (0x1F23C, 0x1F23F),
    (0x1F249, 0x1F24F), (0x1F252, 0x1F25F), (0x1F266, 0x1F2FF), (0x1F6D9, 0x1F6DB),
    (0x1F6ED, 0x1F6EF), (0x1F6FD, 0x1F6FF), (0x1F7DA, 0x1F7DF), (0x1F7EC, 0x1F7EF),
    (0x1F7F1, 0x1F7FF), (0x1F80C, 0x1F80F), (0x1F848, 0x1F84F), (0x1F85A, 0x1F85F),
    (0x1F888, 0x1F88F), (0x1F8AE, 0x1F8AF), (0x1F8BC, 0x1F8BF), (0x1F8C2, 0x1F8CF),
    (0x1F8D9, 0x1F8FF), (0x1FA58, 0x1FA5F), (0x1FA6E, 0x1FA6F), (0x1FA7D, 0x1FA7F),
    (0x1FA8B, 0x1FA8D), (0x1FAC7, 0x1FAC7), (0x1FAC9, 0x1FACC), (0x1FADD, 0x1FADE),
    (0x1FAEB, 0x1FAEE), (0x1FAF9, 0x1FAFF), (0x1FC00, 0x1FFFD)]

/-- Positions without a character that are kept for marks. -/
def reservedMarkRanges : List (Nat × Nat) :=
  [(0xB53, 0xB54), (0x1AEC, 0x1AF0), (0x10ECB, 0x10ECF), (0x10EF0, 0x10EF9), (0x11DF0, 0x11DFF),
    (0x1D127, 0x1D128), (0x1D250, 0x1D28F)]

/-- Characters that take no room and are no marks. -/
def roomlessRanges : List (Nat × Nat) :=
  [(0xAD, 0xAD), (0x605, 0x605), (0x61C, 0x61C), (0x70F, 0x70F), (0x890, 0x891), (0x8E2, 0x8E2),
    (0x1160, 0x11FF), (0x180E, 0x180E), (0x200B, 0x200B), (0x200D, 0x200F), (0x202A, 0x202E),
    (0x2060, 0x206F), (0x3164, 0x3164), (0xA8FA, 0xA8FA), (0xD7B0, 0xD7C6), (0xD7CB, 0xD7FB),
    (0xFEFF, 0xFEFF), (0xFFA0, 0xFFA0), (0xFFF0, 0xFFF8), (0x1BCA0, 0x1BCA3), (0x1D173, 0x1D17A),
    (0xE0000, 0xE001F), (0xE0080, 0xE00FF), (0xE01F0, 0xE0FFF)]

/-- The letters that are written below the letter in front of them when a coeng
stands between the two. -/
def coengRanges : List (Nat × Nat) :=
  [(0x1780, 0x1782), (0x1784, 0x1787), (0x1789, 0x178C), (0x178E, 0x1793), (0x1795, 0x1798),
    (0x179B, 0x179D), (0x17A0, 0x17A0), (0x17A2, 0x17A2), (0x17A7, 0x17A7), (0x17AB, 0x17AC),
    (0x17AF, 0x17AF)]

/-- Marks that take no room and stand between two characters without parting them. -/
def transparentRanges : List (Nat × Nat) :=
  [(0x34F, 0x34F), (0x17B4, 0x17B5), (0x180B, 0x180D), (0x180F, 0x180F), (0xFE00, 0xFE0F),
    (0xE0100, 0xE01EF)]

/-- Characters whose columns are not those of their class. -/
def unusualWidths : List (Nat × Nat) :=
  [(0x115F, 2), (0x17A4, 2), (0x17D8, 3), (0x2D7F, 1), (0xFF9E, 2), (0xFF9F, 2)]

/-- The first character that does not take exactly one column. -/
def firstSpecialWidth : Nat := 0xAD

/-- The columns that a character takes by itself. -/
def charWidth (c : Char) : Nat :=
  if c.toNat < firstSpecialWidth then 1
  else
    match unusualWidths.find? fun entry => entry.1 = c.toNat with
    | some entry => entry.2
    | none =>
        if isExtending c || inRanges roomlessRanges c || inRanges reservedMarkRanges c then 0
        else if inRanges wideRanges c || inRanges reservedWideRanges c then 2
        else 1

/-- What stands behind a character, as far as it changes what the character
takes. -/
inductive Following where
  /-- Nothing of the kind. -/
  | plain
  /-- A skin tone. -/
  | skinTone
  /-- A picture that is shown in colour. -/
  | picture
  /-- A joiner, and behind it a picture. -/
  | joined
  /-- A keycap in front of `joined`. -/
  | joinedKeycap
  /-- The end of the name of a region in front of `joined`, with the letters read
  so far. -/
  | regionLetters (count : Nat)
  /-- The end of the number of a region in front of `joined`, with the digits
  read so far. -/
  | regionDigits (count : Nat)
  /-- The selector of the coloured form; the flag says whether `joined` or
  `joinedKeycap` stands behind it. -/
  | pictureSelector (isJoined : Bool)
  /-- The selector of the other form. -/
  | letterSelector
  /-- The selector of the wide form of a quotation mark. -/
  | wideSelector
  /-- A letter that a coeng can put below the line. -/
  | coengLetter
  /-- A vowel sign that is written as one with some of those in front of it. -/
  | vowelSign
  /-- Two such signs. -/
  | vowelSignPair
  deriving DecidableEq, Repr

/-- What a character by itself is for the one in front of it. -/
def Following.ofChar (c : Char) : Following :=
  let n := c.toNat
  if n < 0x1780 then .plain
  else if n = 0xFE01 then .wideSelector
  else if n = 0xFE0E then .letterSelector
  else if n = 0xFE0F then .pictureSelector false
  else if n = 0x16D67 then .vowelSign
  else if n = 0x16D68 then .vowelSignPair
  else if isSkinTone c then .skinTone
  else if inRanges coengRanges c then .coengLetter
  else if isPresented c then .picture
  else .plain

/-- Whether a character is a letter of the name of a region. -/
def isRegionLetter (c : Char) : Bool := 0xE0061 ≤ c.toNat && c.toNat ≤ 0xE007A

/-- Whether a character is a digit of the number of a region. -/
def isRegionDigit (c : Char) : Bool := 0xE0030 ≤ c.toNat && c.toNat ≤ 0xE0039

/-- How many columns a part of a text takes, and what its beginning is for the
character in front of it. -/
structure Measure where
  columns : Nat
  following : Following
  deriving DecidableEq, Repr

namespace Measure

/-- The measure of the empty text. -/
def empty : Measure := ⟨0, .plain⟩

/-- Counts a character that nothing behind it changes. -/
def add (c : Char) (m : Measure) : Measure := ⟨m.columns + charWidth c, .ofChar c⟩

/-- Goes past a character that takes no columns of its own. -/
def pass (following : Following) (m : Measure) : Measure := { m with following }

/-- Counts a character in front of a joiner that has a picture behind it. -/
def addJoined (c : Char) (m : Measure) : Measure :=
  if c = Text.pictureSelector then m.pass (.pictureSelector true)
  else if c.toNat = 0x20E3 then m.pass .joinedKeycap
  else if c.toNat = 0xE007F then m.pass (.regionLetters 0)
  else if isSkinTone c then m.pass .skinTone
  else if isPresented c then m.pass .picture
  else m.add c

/-- Counts a character in front of the letters of a region's name. -/
def addRegion (count : Nat) (c : Char) (m : Measure) : Measure :=
  if isRegionLetter c && count < 6 then m.pass (.regionLetters (count + 1))
  else if isRegionDigit c && count < 5 then m.pass (.regionDigits 1)
  else if c.toNat = 0x1F3F4 && 3 ≤ count then m.pass .picture
  else m.add c

/-- Counts a character in front of the digits of a region's number. -/
def addRegionDigit (count : Nat) (c : Char) (m : Measure) : Measure :=
  if isRegionDigit c && count < 3 then m.pass (.regionDigits (count + 1))
  else if c.toNat = 0x1F3F4 && count = 3 then m.pass .picture
  else m.add c

/-- Counts a vowel sign in front of another one. -/
def addVowel (c : Char) (m : Measure) : Measure :=
  let n := c.toNat
  if n = 0x16D63 || n = 0x16D69 then m.pass .plain
  else if n = 0x16D67 then m.pass .vowelSignPair
  else if n = 0x16D68 then ⟨m.columns + 1, .vowelSign⟩
  else m.add c

/-- Counts one more character in front of a part of a text. -/
def addChar (c : Char) (m : Measure) : Measure :=
  match m.following with
  | .plain => m.add c
  | .pictureSelector isJoined =>
      if hasTwoForms c then ⟨if isJoined then m.columns else m.columns + 2, .picture⟩
      else m.add c
  | .letterSelector => if isNarrowable c then ⟨m.columns + 1, .plain⟩ else m.add c
  | .wideSelector =>
      if c = '\u2018' || c = '\u2019' || c = '\u201C' || c = '\u201D' then
        ⟨m.columns + 2, .plain⟩
      else m.add c
  | .skinTone =>
      if c = joiner then m.pass .joined
      else if isTonable c then m.pass .picture
      else m.add c
  | .picture => if c = joiner then m.pass .joined else m.add c
  | .joined => m.addJoined c
  | .joinedKeycap =>
      if c = Text.pictureSelector then m.pass (.pictureSelector true) else m.add c
  | .regionLetters count => m.addRegion count c
  | .regionDigits count => m.addRegionDigit count c
  | .coengLetter =>
      if c = joiner || inRanges transparentRanges c then m
      else if c.toNat = 0x17D2 then ⟨m.columns - 1, .plain⟩
      else m.add c
  | .vowelSign => m.addVowel c
  | .vowelSignPair => if c.toNat = 0x16D63 then m.pass .plain else m.add c

end Measure

/-- The measure of a text. -/
def measure (s : Text) : Measure := s.foldr Measure.addChar .empty

/-- The columns that a text takes. -/
def columns (s : Text) : Nat := (measure s).columns

@[simp] theorem columns_nil : columns [] = 0 := rfl

theorem measure_cons (c : Char) (s : Text) : measure (c :: s) = (measure s).addChar c := rfl

/-- Whether a character controls the terminal instead of showing something. -/
def isControl (c : Char) : Bool := c.toNat < 0x20 || (0x7F ≤ c.toNat && c.toNat ≤ 0x9F)

/-- The clusters of a text that can be shown. -/
def shownClusters (s : Text) : List Text :=
  (clusters s).filter fun cluster => !cluster.any isControl

end Text
end TerminalDialogs
