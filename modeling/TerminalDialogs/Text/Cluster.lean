import TerminalDialogs.Text.Mark
import TerminalDialogs.Text.Picture

/-!
# Clusters: what a reader takes for one character

A text falls into extended grapheme clusters.  Between two neighbouring
characters there is a boundary unless one of the joining rules applies; most of
the rules look at the two characters alone, three of them also at what stands
in front.

* A carriage return and a line feed belong together; other controls stand
  alone.
* The parts of a Hangul syllable belong together.
* Marks and joiners belong to what they follow, and prepended characters to
  what follows them.
* Consonants of the scripts of India that are linked by a virama belong
  together.
* A picture after a joiner belongs to the picture in front of the joiner.
* Flag letters belong together in pairs.
-/

namespace TerminalDialogs
namespace Text

/-- What a character is for the joining rules. -/
inductive ClusterClass where
  | carriageReturn
  | lineFeed
  | control
  | extend
  | joiner
  | flagLetter
  | prepend
  | spacingMark
  | hangulLeading
  | hangulVowel
  | hangulTrailing
  | hangulOpen
  | hangulClosed
  | picture
  | other
  deriving DecidableEq, Repr

/-- The characters with the property `Prepend`. -/
def prependRanges : List (Nat × Nat) :=
  [(0x600, 0x605), (0x6DD, 0x6DD), (0x70F, 0x70F), (0x890, 0x891), (0x8E2, 0x8E2), (0xD4E, 0xD4E),
    (0x110BD, 0x110BD), (0x110CD, 0x110CD), (0x111C2, 0x111C3), (0x113D1, 0x113D1),
    (0x1193F, 0x1193F), (0x11941, 0x11941), (0x11A84, 0x11A89), (0x11D46, 0x11D46),
    (0x11F02, 0x11F02)]

/-- The characters with the property `Control`, and the two that end lines. -/
def controlRanges : List (Nat × Nat) :=
  [(0x0, 0x1F), (0x7F, 0x9F), (0xAD, 0xAD), (0x61C, 0x61C), (0x180E, 0x180E), (0x200B, 0x200B),
    (0x200E, 0x200F), (0x2028, 0x202E), (0x2060, 0x206F), (0xFEFF, 0xFEFF), (0xFFF0, 0xFFFB),
    (0x13430, 0x1343F), (0x1BCA0, 0x1BCA3), (0x1D173, 0x1D17A), (0xE0000, 0xE001F),
    (0xE0080, 0xE00FF), (0xE01F0, 0xE0FFF)]

/-- Consonants that a virama can link. -/
def linkableRanges : List (Nat × Nat) :=
  [(0x915, 0x939), (0x958, 0x95F), (0x978, 0x97F), (0x995, 0x9A8), (0x9AA, 0x9B0), (0x9B2, 0x9B2),
    (0x9B6, 0x9B9), (0x9DC, 0x9DD), (0x9DF, 0x9DF), (0x9F0, 0x9F1), (0xA95, 0xAA8), (0xAAA, 0xAB0),
    (0xAB2, 0xAB3), (0xAB5, 0xAB9), (0xAF9, 0xAF9), (0xB15, 0xB28), (0xB2A, 0xB30), (0xB32, 0xB33),
    (0xB35, 0xB39), (0xB5C, 0xB5D), (0xB5F, 0xB5F), (0xB71, 0xB71), (0xC15, 0xC28), (0xC2A, 0xC39),
    (0xC58, 0xC5A), (0xD15, 0xD3A), (0x1000, 0x102A), (0x103F, 0x103F), (0x1050, 0x1055),
    (0x105A, 0x105D), (0x1061, 0x1061), (0x1065, 0x1066), (0x106E, 0x1070), (0x1075, 0x1081),
    (0x108E, 0x108E), (0x1780, 0x17B3), (0x1A20, 0x1A54), (0x1B0B, 0x1B0C), (0x1B13, 0x1B33),
    (0x1B45, 0x1B4C), (0x1B83, 0x1BA0), (0x1BAE, 0x1BAF), (0x1BBB, 0x1BBD), (0xA989, 0xA98B),
    (0xA98F, 0xA9B2), (0xA9E0, 0xA9E4), (0xA9E7, 0xA9EF), (0xA9FA, 0xA9FE), (0xAA60, 0xAA6F),
    (0xAA71, 0xAA73), (0xAA7A, 0xAA7A), (0xAA7E, 0xAA7F), (0xAAE0, 0xAAEA), (0xABC0, 0xABDA),
    (0x10A00, 0x10A00), (0x10A10, 0x10A13), (0x10A15, 0x10A17), (0x10A19, 0x10A35),
    (0x11103, 0x11126), (0x11144, 0x11144), (0x11147, 0x11147), (0x11380, 0x11389),
    (0x1138B, 0x1138B), (0x1138E, 0x1138E), (0x11390, 0x113B5), (0x11900, 0x11906),
    (0x11909, 0x11909), (0x1190C, 0x11913), (0x11915, 0x11916), (0x11918, 0x1192F),
    (0x11A00, 0x11A00), (0x11A0B, 0x11A32), (0x11A50, 0x11A50), (0x11A5C, 0x11A83),
    (0x11F04, 0x11F10), (0x11F12, 0x11F33)]

/-- The viramas that link. -/
def linkers : List Nat :=
  [0x94D, 0x9CD, 0xACD, 0xB4D, 0xC4D, 0xD4D, 0x1039, 0x17D2, 0x1A60, 0x1B44,
    0x1BAB, 0xA9C0, 0xAAF6, 0x10A3F, 0x11133, 0x113D0, 0x1193E, 0x11A47, 0x11A99, 0x11F42]

/-- The character that keeps two letters apart. -/
def nonJoiner : Char := Char.ofNat 0x200C

/-- The class of a character. -/
def clusterClass (c : Char) : ClusterClass :=
  let n := c.toNat
  if n = 0x0D then .carriageReturn
  else if n = 0x0A then .lineFeed
  else if n < 0x20 then .control
  else if n < 0x7F then .other
  else if c = joiner then .joiner
  else if isSkinTone c || isExtending c then .extend
  else if inRanges controlRanges c then .control
  else if isFlagLetter c then .flagLetter
  else if inRanges prependRanges c then .prepend
  else if isSpacing c then .spacingMark
  else if inRanges [(0x1100, 0x115F), (0xA960, 0xA97C)] c then .hangulLeading
  else if inRanges [(0x1160, 0x11A7), (0xD7B0, 0xD7C6), (0x16D63, 0x16D63),
      (0x16D67, 0x16D6A)] c then .hangulVowel
  else if inRanges [(0x11A8, 0x11FF), (0xD7CB, 0xD7FB)] c then .hangulTrailing
  else if 0xAC00 ≤ n ∧ n ≤ 0xD7A3 then
    if (n - 0xAC00) % 28 = 0 then .hangulOpen else .hangulClosed
  else if isPicture c then .picture
  else .other

/-- Whether a class stands alone. -/
def ClusterClass.standsAlone : ClusterClass → Bool
  | .carriageReturn | .lineFeed | .control => true
  | _ => false

/-- What has to be remembered of the cluster read so far. -/
structure ClusterContext where
  /-- The class of the last character. -/
  last : ClusterClass
  /-- A picture, then marks only, then perhaps a joiner. -/
  afterPicture : Bool
  /-- A consonant that can be linked, then marks and joiners only. -/
  afterLinkable : Bool
  /-- Among those marks there is a virama. -/
  linked : Bool
  /-- The last character is a flag letter that has no partner yet. -/
  openFlag : Bool
  deriving DecidableEq, Repr

/-- The context after the first character of a cluster. -/
def ClusterContext.start (c : Char) : ClusterContext :=
  let cls := clusterClass c
  { last := cls
    afterPicture := cls == .picture
    afterLinkable := inRanges linkableRanges c
    linked := false
    openFlag := cls == .flagLetter }

/-- The context after one more character of the cluster. -/
def ClusterContext.extend (ctx : ClusterContext) (c : Char) : ClusterContext :=
  let cls := clusterClass c
  let isMark := cls == .extend || cls == .joiner
  let linkable := inRanges linkableRanges c
  let keepsLink := isMark && c != nonJoiner
  { last := cls
    afterPicture := cls == .picture || (ctx.afterPicture && isMark && ctx.last != .joiner)
    afterLinkable := linkable || (ctx.afterLinkable && keepsLink)
    linked := !linkable && ctx.afterLinkable && keepsLink &&
      (ctx.linked || linkers.contains c.toNat)
    openFlag := cls == .flagLetter && !ctx.openFlag }

/-- Whether a character belongs to the cluster in front of it. -/
def ClusterContext.joins (ctx : ClusterContext) (c : Char) : Bool :=
  let cls := clusterClass c
  if ctx.last == .carriageReturn && cls == .lineFeed then true
  else if ctx.last.standsAlone || cls.standsAlone then false
  else
    match ctx.last, cls with
    | _, .extend => true
    | _, .joiner => true
    | _, .spacingMark => true
    | .prepend, _ => true
    | .hangulLeading, .hangulLeading => true
    | .hangulLeading, .hangulVowel => true
    | .hangulLeading, .hangulOpen => true
    | .hangulLeading, .hangulClosed => true
    | .hangulOpen, .hangulVowel => true
    | .hangulVowel, .hangulVowel => true
    | .hangulOpen, .hangulTrailing => true
    | .hangulVowel, .hangulTrailing => true
    | .hangulClosed, .hangulTrailing => true
    | .hangulTrailing, .hangulTrailing => true
    | .joiner, .picture => ctx.afterPicture
    | .flagLetter, .flagLetter => ctx.openFlag
    | _, _ => ctx.linked && inRanges linkableRanges c

/-- The clusters of a text behind a cluster that has begun, whose characters so
far are `seen`, the last one first. -/
def clustersFrom (ctx : ClusterContext) (seen : Text) : Text → List Text
  | [] => [seen.reverse]
  | c :: rest =>
      if ctx.joins c then clustersFrom (ctx.extend c) (c :: seen) rest
      else seen.reverse :: clustersFrom (ClusterContext.start c) [c] rest

/-- The clusters of a text. -/
def clusters : Text → List Text
  | [] => []
  | c :: rest => clustersFrom (ClusterContext.start c) [c] rest

theorem flatten_clustersFrom (ctx : ClusterContext) (seen s : Text) :
    (clustersFrom ctx seen s).flatten = seen.reverse ++ s := by
  induction s generalizing ctx seen with
  | nil => simp [clustersFrom]
  | cons c rest ih =>
      unfold clustersFrom
      split <;> simp [ih]

/-- Nothing is lost: the clusters of a text spell it. -/
@[simp] theorem flatten_clusters (s : Text) : (clusters s).flatten = s := by
  cases s with
  | nil => rfl
  | cons c rest => simp [clusters, flatten_clustersFrom]

end Text
end TerminalDialogs
