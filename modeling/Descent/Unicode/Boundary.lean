import Descent.Unicode.Display
import Descent.Unicode.Script
import Descent.Unicode.Usage

/-!
# Boundaries

What each character does to the boundaries of a text: those between the signs that a reader takes
for one character, those between words, and those between sentences. The rules are stated in
terms of other properties, with what they leave out listed. The tables are those of Unicode 16.0.
-/
namespace Descent.Unicode

def carriageReturn : CodePoints := [(0xD, 0xD)]

def lineFeed : CodePoints := [(0xA, 0xA)]

def zeroWidthJoiner : CodePoints := [(0x200D, 0x200D)]

/-! ## Characters as a reader sees them -/

namespace GraphemeBreak

def extend : CodePoints := graphemeExtend.union emojiModifier

def control : CodePoints :=
  (.unions [lineSeparator, paragraphSeparator, Unicode.control, format,
    unassigned.intersection defaultIgnorable] : CodePoints)
    |>.difference (.unions [carriageReturn, lineFeed, zeroWidthJoiner, extend,
      prependedConcatenationMark])

/-- Marks with a place of their own that do not belong to the character before them. -/
def separateMarks : CodePoints :=
  [(0x102B, 0x102C), (0x1038, 0x1038), (0x1062, 0x1064), (0x1067, 0x106D), (0x1083, 0x1083),
   (0x1087, 0x108C), (0x108F, 0x108F), (0x109A, 0x109C), (0x1A61, 0x1A61), (0x1A63, 0x1A64),
   (0xAA7B, 0xAA7B), (0xAA7D, 0xAA7D), (0x11720, 0x11721)]

def spacing : CodePoints :=
  (spacingMark.union [(0xE33, 0xE33), (0xEB3, 0xEB3)]).difference (extend.union separateMarks)

/-- Characters that belong to the one after them. -/
def prepended : CodePoints :=
  prependedConcatenationMark.union
    [(0xD4E, 0xD4E), (0x111C2, 0x111C3), (0x113D1, 0x113D1), (0x1193F, 0x1193F),
     (0x11941, 0x11941), (0x11A3A, 0x11A3A), (0x11A84, 0x11A89), (0x11D46, 0x11D46),
     (0x11F02, 0x11F02)]

/-- Syllables of a leading consonant and a vowel. -/
def openSyllable : CodePoints :=
  (List.range 399).map fun i => (0xAC00 + 28 * i, 0xAC00 + 28 * i)

/-- Syllables of a leading consonant, a vowel and a trailing consonant. -/
def closedSyllable : CodePoints := CodePoints.difference [(0xAC00, 0xD7A3)] openSyllable

def leadingConsonant : CodePoints := [(0x1100, 0x115F), (0xA960, 0xA97C)]

def vowel : CodePoints :=
  [(0x1160, 0x11A7), (0xD7B0, 0xD7C6), (0x16D63, 0x16D63), (0x16D67, 0x16D6A)]

def trailingConsonant : CodePoints := [(0x11A8, 0x11FF), (0xD7CB, 0xD7FB)]

/-- The kinds of characters under their names. -/
def sets : List NamedSet :=
  [⟨["cr"], carriageReturn⟩,
   ⟨["lf"], lineFeed⟩,
   ⟨["control", "cn"], control⟩,
   ⟨["extend", "ex"], extend⟩,
   ⟨["zwj"], zeroWidthJoiner⟩,
   ⟨["regionalindicator", "ri"], regionalIndicator⟩,
   ⟨["prepend", "pp"], prepended⟩,
   ⟨["spacingmark", "sm"], spacing⟩,
   ⟨["l"], leadingConsonant⟩,
   ⟨["v"], vowel⟩,
   ⟨["t"], trailingConsonant⟩,
   ⟨["lv"], openSyllable⟩,
   ⟨["lvt"], closedSyllable⟩]

end GraphemeBreak

/-! ## Words -/

namespace WordBreak

/-- The set of the script with the given name. -/
def script (name : String) : CodePoints := (NamedSet.find? scriptSets name).getD []

def newline : CodePoints := [(0xB, 0xC), (0x85, 0x85), (0x2028, 0x2029)]

def extend : CodePoints := .unions [graphemeExtend, spacingMark, emojiModifier]

def format : CodePoints :=
  Unicode.format.difference
    (.unions [[(0x200B, 0x200B)], zeroWidthJoiner, extend, prependedConcatenationMark])

def hebrewLetter : CodePoints := (script "hebrew").intersection otherLetter

def katakana : CodePoints :=
  (script "katakana").union
    [(0x3031, 0x3035), (0x309B, 0x309C), (0x30A0, 0x30A0), (0x30FC, 0x30FC), (0xFF70, 0xFF70)]

/-- Signs of sound and other symbols that words are written with. -/
def letterLike : CodePoints :=
  [(0x2C2, 0x2C5), (0x2D2, 0x2D7), (0x2DE, 0x2DF), (0x2E5, 0x2EB), (0x2ED, 0x2ED), (0x2EF, 0x2FF),
   (0x55A, 0x55C), (0x55E, 0x55E), (0x58A, 0x58A), (0x5F3, 0x5F3), (0x70F, 0x70F),
   (0xA708, 0xA716), (0xA720, 0xA721), (0xA789, 0xA78A), (0xAB5B, 0xAB5B)]

/-- The blocks of scripts that do not part words, so that a dictionary is needed to find them. -/
def unparted : CodePoints :=
  [(0xE00, 0xEFF), (0x1000, 0x109F), (0x1780, 0x17FF), (0x1950, 0x19DF), (0x1A20, 0x1AAF),
   (0xA9E0, 0xA9FF), (0xAA60, 0xAADF), (0x11700, 0x1174F)]

def letter : CodePoints :=
  (alphabetic.union letterLike).difference
    (.unions [ideographic, katakana, script "hiragana", extend, hebrewLetter, unparted])

def middleOfLetters : CodePoints :=
  [(0x3A, 0x3A), (0xB7, 0xB7), (0x387, 0x387), (0x55F, 0x55F), (0x5F4, 0x5F4), (0x2027, 0x2027),
   (0xFE13, 0xFE13), (0xFE55, 0xFE55), (0xFF1A, 0xFF1A)]

def middleOfNumbers : CodePoints :=
  [(0x2C, 0x2C), (0x3B, 0x3B), (0x37E, 0x37E), (0x589, 0x589), (0x60C, 0x60D), (0x66C, 0x66C),
   (0x7F8, 0x7F8), (0x2044, 0x2044), (0xFE50, 0xFE50), (0xFE54, 0xFE54), (0xFF0C, 0xFF0C),
   (0xFF1B, 0xFF1B)]

def middleOfEither : CodePoints :=
  [(0x2E, 0x2E), (0x2018, 0x2019), (0x2024, 0x2024), (0xFE52, 0xFE52), (0xFF07, 0xFF07),
   (0xFF0E, 0xFF0E)]

def numeric : CodePoints :=
  decimalNumber.union
    [(0x600, 0x605), (0x66B, 0x66B), (0x6DD, 0x6DD), (0x890, 0x891), (0x8E2, 0x8E2),
     (0x19DA, 0x19DA), (0x110BD, 0x110BD), (0x110CD, 0x110CD)]

def connector : CodePoints := connectorPunctuation.union [(0x202F, 0x202F)]

/-- Blanks at which a line may end. -/
def blank : CodePoints :=
  spaceSeparator.difference [(0xA0, 0xA0), (0x2007, 0x2007), (0x202F, 0x202F)]

/-- The kinds of characters under their names. -/
def sets : List NamedSet :=
  [⟨["cr"], carriageReturn⟩,
   ⟨["lf"], lineFeed⟩,
   ⟨["newline", "nl"], newline⟩,
   ⟨["extend"], extend⟩,
   ⟨["zwj"], zeroWidthJoiner⟩,
   ⟨["format", "fo"], format⟩,
   ⟨["regionalindicator", "ri"], regionalIndicator⟩,
   ⟨["aletter", "le"], letter⟩,
   ⟨["hebrewletter", "hl"], hebrewLetter⟩,
   ⟨["katakana", "ka"], katakana⟩,
   ⟨["numeric", "nu"], numeric⟩,
   ⟨["extendnumlet", "ex"], connector⟩,
   ⟨["midletter", "ml"], middleOfLetters⟩,
   ⟨["midnum", "mn"], middleOfNumbers⟩,
   ⟨["midnumlet", "mb"], middleOfEither⟩,
   ⟨["singlequote", "sq"], [(0x27, 0x27)]⟩,
   ⟨["doublequote", "dq"], [(0x22, 0x22)]⟩,
   ⟨["wsegspace"], blank⟩]

end WordBreak

/-! ## Sentences -/

namespace SentenceBreak

def separator : CodePoints := [(0x85, 0x85), (0x2028, 0x2029)]

def extend : CodePoints := .unions [graphemeExtend, spacingMark, zeroWidthJoiner]

def format : CodePoints :=
  Unicode.format.difference (extend.union
    [(0x600, 0x605), (0x6DD, 0x6DD), (0x890, 0x891), (0x8E2, 0x8E2), (0x110BD, 0x110BD),
      (0x110CD, 0x110CD)])

def blank : CodePoints := whiteSpace.difference (.unions [separator, carriageReturn, lineFeed])

/-- The letters of a script whose capitals are for whole texts. -/
def uniformSmall : CodePoints := [(0x10D0, 0x10FA), (0x10FD, 0x10FF)]

/-- The capitals for whole texts of that script. -/
def uniformCapital : CodePoints := [(0x1C90, 0x1CBA), (0x1CBD, 0x1CBF)]

def lower : CodePoints := lowercase.difference (graphemeExtend.union uniformSmall)

def upper : CodePoints := (uppercase.union titlecaseLetter).difference uniformCapital

def letter : CodePoints :=
  (alphabetic.union [(0x5F3, 0x5F3)]).difference (.unions [lower, upper, extend])

def numeric : CodePoints := WordBreak.numeric.union [(0x66C, 0x66C)]

/-- Full stops, which may end an abbreviation too. -/
def stop : CodePoints := [(0x2E, 0x2E), (0x2024, 0x2024), (0xFE52, 0xFE52), (0xFF0E, 0xFF0E)]

def terminal : CodePoints := sentenceTerminal.difference stop

/-- Marks after which a sentence goes on. -/
def continuing : CodePoints :=
  [(0x2C, 0x2D), (0x3A, 0x3B), (0x37E, 0x37E), (0x55D, 0x55D), (0x60C, 0x60D), (0x7F8, 0x7F8),
   (0x1802, 0x1802), (0x1808, 0x1808), (0x2013, 0x2014), (0x3001, 0x3001), (0xFE10, 0xFE11),
   (0xFE13, 0xFE14), (0xFE31, 0xFE32), (0xFE50, 0xFE51), (0xFE54, 0xFE55), (0xFE58, 0xFE58),
   (0xFE63, 0xFE63), (0xFF0C, 0xFF0D), (0xFF1A, 0xFF1B), (0xFF64, 0xFF64)]

/-- Brackets and quotation marks. -/
def bracket : CodePoints :=
  (.unions [openPunctuation, closePunctuation, initialPunctuation, finalPunctuation, quotationMark,
    [(0x275B, 0x2760), (0x2E00, 0x2E01), (0x2E06, 0x2E08), (0x2E0B, 0x2E0B),
     (0x1F676, 0x1F678)]] : CodePoints)
    |>.difference [(0xFF02, 0xFF02), (0xFF07, 0xFF07)]

/-- The kinds of characters under their names. -/
def sets : List NamedSet :=
  [⟨["cr"], carriageReturn⟩,
   ⟨["lf"], lineFeed⟩,
   ⟨["sep", "se"], separator⟩,
   ⟨["extend", "ex"], extend⟩,
   ⟨["format", "fo"], format⟩,
   ⟨["sp"], blank⟩,
   ⟨["lower", "lo"], lower⟩,
   ⟨["upper", "up"], upper⟩,
   ⟨["oletter", "le"], letter⟩,
   ⟨["numeric", "nu"], numeric⟩,
   ⟨["aterm", "at"], stop⟩,
   ⟨["sterm", "st"], terminal⟩,
   ⟨["scontinue", "sc"], continuing⟩,
   ⟨["close", "cl"], bracket⟩]

end SentenceBreak
end Descent.Unicode
