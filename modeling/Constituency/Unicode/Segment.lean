import Constituency.Unicode.Property
import Constituency.Unicode.Script

/-!
# Text segmentation

The classes of characters by which text is cut into visible characters, words and sentences. Each
of the three divisions names its classes; a character is in one class of a division at most.
-/
namespace Constituency.Unicode

def zeroWidthJoiner : CharSet := setOf ["200D"]

/-! ## Visible characters -/

/-- The syllable blocks without a final consonant; the blocks with one follow each of them. -/
def openSyllables : CharSet :=
  (List.range 399).foldr (fun k s => s.addPlaces (0xAC00 + 28 * k) (0xAC00 + 28 * k)) .empty

def syllables : CharSet := setOf ["AC00-D7A3"]

def graphemeExtender : CharSet := graphemeExtend.union emojiModifier

def graphemeClasses : List (List String × CharSet) :=
  [(["cr"], setOf ["D"]),
   (["lf"], setOf ["A"]),
   (["cn", "control"],
    ((inCategories ["Zl", "Zp", "Cc", "Cf"]).union
      ((inCategories ["Cn"]).inter defaultIgnorable)).diff
      ((graphemeExtend.union prependedConcatenationMark).union (setOf ["A D 200D"]))),
   (["ex", "extend"], graphemeExtender),
   (["zwj"], zeroWidthJoiner),
   (["ri", "regionalindicator"], regionalIndicator),
   (["pp", "prepend"], prependedConcatenationMark.union (setOf
     ["D4E 111C2-111C3 113D1 1193F 11941 11A84-11A89 11D46 11F02"])),
   (["sm", "spacingmark"],
    ((inCategories ["Mc"]).diff (graphemeExtend.union (setOf
      ["102B-102C 1038 1062-1064 1067-106D 1083 1087-108C 108F 109A-109C 1A61 1A63-1A64 AA7B",
       "AA7D 11720-11721"]))).union
      (setOf ["E33 EB3"])),
   (["l"], setOf ["1100-115F A960-A97C"]),
   (["v"], setOf ["1160-11A7 D7B0-D7C6 16D63 16D67-16D6A"]),
   (["t"], setOf ["11A8-11FF D7CB-D7FB"]),
   (["lv"], openSyllables),
   (["lvt"], syllables.diff openSyllables)]

/-! ## Words -/

def wordExtender : CharSet :=
  (graphemeExtender.union (inCategories ["Mc"])).diff zeroWidthJoiner

def katakanaWord : CharSet :=
  (inScript "Kana").union (setOf ["3031-3035 309B-309C 30A0 30FC FF70"])

def hebrewLetter : CharSet := (inCategories ["Lo"]).inter (inScript "Hebr")

/-- The scripts whose words are not found letter by letter. -/
def scriptsWithoutWordLetters : CharSet :=
  inScripts ["Thai", "Laoo", "Khmr", "Mymr", "Tale", "Talu", "Lana", "Tavt", "Ahom", "Hira"]

def wordLetter : CharSet :=
  (alphabetic.diff (((ideographic.union wordExtender).union scriptsWithoutWordLetters).union
    (hebrewLetter.union katakanaWord))).union
    (setOf
      ["B8 2C2-2C5 2D2-2D7 2DE-2DF 2E5-2EB 2ED 2EF-2FF 55A-55C 55E 58A 5F3 70F A708-A716",
       "A720-A721 A789-A78A AB5B"])

def wordClasses : List (List String × CharSet) :=
  [(["cr"], setOf ["D"]),
   (["lf"], setOf ["A"]),
   (["nl", "newline"], setOf ["B-C 85 2028-2029"]),
   (["extend"], wordExtender),
   (["zwj"], zeroWidthJoiner),
   (["ri", "regionalindicator"], regionalIndicator),
   (["fo", "format"],
    (inCategories ["Cf"]).diff ((wordExtender.union prependedConcatenationMark).union
      (setOf ["200B 200D"]))),
   (["ka", "katakana"], katakanaWord),
   (["hl", "hebrewletter"], hebrewLetter),
   (["le", "aletter"], wordLetter),
   (["sq", "singlequote"], setOf ["27"]),
   (["dq", "doublequote"], setOf ["22"]),
   (["mb", "midnumlet"], setOf ["2E 2018-2019 2024 FE52 FF07 FF0E"]),
   (["ml", "midletter"], setOf ["3A B7 387 55F 5F4 2027 FE13 FE55 FF1A"]),
   (["mn", "midnum"], setOf ["2C 3B 37E 589 60C-60D 66C 7F8 2044 FE50 FE54 FF0C FF1B"]),
   (["nu", "numeric"],
    (inCategories ["Nd"]).union (setOf ["600-605 66B 6DD 890-891 8E2 19DA 110BD 110CD"])),
   (["ex", "extendnumlet"], (inCategories ["Pc"]).union (setOf ["202F"])),
   (["wsegspace"], (inCategories ["Zs"]).diff (setOf ["A0 2007 202F"]))]

/-! ## Sentences -/

def sentenceExtender : CharSet :=
  (graphemeExtend.union (inCategories ["Mc"])).union zeroWidthJoiner

def sentenceLower : CharSet :=
  lowercase.diff (sentenceExtender.union (setOf ["10D0-10FA 10FD-10FF"]))

def sentenceUpper : CharSet :=
  (uppercase.union (inCategories ["Lt"])).diff
    (sentenceExtender.union (setOf ["1C90-1CBA 1CBD-1CBF"]))

def sentenceNumber : CharSet :=
  (inCategories ["Nd"]).union (setOf ["600-605 66B-66C 6DD 890-891 8E2 19DA 110BD 110CD"])

/-- The full stops that end a sentence or an abbreviation. -/
def fullStop : CharSet := setOf ["2E 2024 FE52 FF0E"]

def sentenceClasses : List (List String × CharSet) :=
  [(["cr"], setOf ["D"]),
   (["lf"], setOf ["A"]),
   (["se", "sep"], setOf ["85 2028-2029"]),
   (["ex", "extend"], sentenceExtender),
   (["fo", "format"], (inCategories ["Cf"]).diff (sentenceExtender.union sentenceNumber)),
   (["sp"], whiteSpace.diff (setOf ["A D 85 2028-2029"])),
   (["lo", "lower"], sentenceLower),
   (["up", "upper"], sentenceUpper),
   (["le", "oletter"],
    (alphabetic.diff (sentenceExtender.union (sentenceLower.union sentenceUpper))).union
      (setOf ["5F3"])),
   (["nu", "numeric"], sentenceNumber),
   (["at", "aterm"], fullStop),
   (["st", "sterm"], sentenceTerminal.diff fullStop),
   (["cl", "close"],
    (inCategories ["Ps", "Pe", "Pi", "Pf"]).union (setOf
      ["22 27 275B-2760 2E00-2E01 2E06-2E08 2E0B 1F676-1F678"])),
   (["sc", "scontinue"],
    setOf
      ["2C-2D 3A-3B 37E 55D 60C-60D 7F8 1802 1808 2013-2014 3001 FE10-FE11 FE13-FE14 FE31-FE32",
       "FE50-FE51 FE54-FE55 FE58 FE63 FF0C-FF0D FF1A-FF1B FF64"])]

/-! ## Names -/

def classNamed? (classes : List (List String × CharSet)) (name : String) : Option CharSet :=
  (classes.find? (·.1.contains name)).map Prod.snd

end Constituency.Unicode
