import StarSchema.CharSet.Derived
import StarSchema.CharSet.Script

/-!
# Boundaries in text

The Unicode properties `Grapheme_Cluster_Break`, `Word_Break` and `Sentence_Break`, which say
where a text may be divided.

Main definitions: `CharSet.graphemeBreak?`, `CharSet.wordBreak?`, `CharSet.sentenceBreak?`.
-/

namespace StarSchema.CharSet

/-- The set of a script, which is empty for an unknown one. -/
def scriptOrEmpty (name : String) : CharSet := (script? name).getD empty

/-- The joiner, which is a class of its own in all divisions. -/
def zeroWidthJoiner : CharSet := single '\u200D'

/-! ### Grapheme clusters -/

/-- The syllables without a final consonant. -/
def openSyllable : CharSet := ofRuns "AC00-D788/1C"

def graphemeExtension : CharSet := unions [graphemeExtend, given "emod"]

def graphemeControl : CharSet :=
  (unions [ofCodes ["Zl", "Zp", "Cc", "Cf"], unassigned.inter defaultIgnorable]).diff
    (unions [ofRuns "A D 200C-200D E0020-E007F", given "pcm"])

/-- Marks that stand beside their base and have a width. -/
def graphemeSpacing : CharSet :=
  (unions [(ofCodes ["Mc"]).diff graphemeExtension, ofRuns "E33 EB3"]).diff
    (ofRuns ("102B-102C 1038 1062-1064 1067-106D 1083 1087-108C 108F 109A-109C 1A61 " ++
      "1A63-1A64 AA7B AA7D 11720-11721"))

/-- The characters of a class of the division into grapheme clusters. -/
def graphemeBreak? (name : String) : Option CharSet :=
  match name with
  | "cn" | "control" => some graphemeControl
  | "cr" => some (single '\r')
  | "ex" | "extend" => some (graphemeExtension.diff zeroWidthJoiner)
  | "l" => some (ofRuns "1100-115F A960-A97C")
  | "lf" => some (single '\n')
  | "lv" => some openSyllable
  | "lvt" => some ((ofRuns "AC00-D7A3").diff openSyllable)
  | "pp" | "prepend" => some (unions [given "pcm",
      ofRuns "D4E 111C2-111C3 113D1 1193F 11941 11A3A 11A84-11A89 11D46 11F02"])
  | "ri" | "regionalindicator" => some (given "ri")
  | "sm" | "spacingmark" => some graphemeSpacing
  | "t" => some (ofRuns "11A8-11FF D7CB-D7FB")
  | "v" => some (ofRuns "1160-11A7 D7B0-D7C6 16D63 16D67-16D6A")
  | "zwj" => some zeroWidthJoiner
  | _ => none

/-! ### Words -/

def wordExtension : CharSet := unions [graphemeExtend, ofCodes ["Mc"], given "emod"]

def wordKatakana : CharSet :=
  unions [scriptOrEmpty "kana", ofRuns "3031-3035 309B-309C 30A0 30FC FF70"]

def hebrewLetter : CharSet := (scriptOrEmpty "hebr").inter (ofCodes ["Lo"])

/-- Numbers and what stands within them. -/
def wordNumeric : CharSet :=
  unions [decimalNumber, ofRuns "600-605 66B 6DD 890-891 8E2 19DA 110BD 110CD"]

/-- The letters of scripts that are written without blanks between words. -/
def unspacedLetter : CharSet :=
  ofRuns ("E01-E30 E32-E33 E40-E46 E81-E82 E84 E86-E8A E8C-EA3 EA5 EA7-EB0 EB2-EB3 EBD " ++
    "EC0-EC4 EC6 EDC-EDF 1000-102A 103F 1050-1055 105A-105D 1061 1065-1066 106E-1070 " ++
    "1075-1081 108E 1780-17B3 17D7 17DC 1950-196D 1970-1974 1980-19AB 19B0-19C9 1A20-1A54 " ++
    "1AA7 A9E0-A9E4 A9E6-A9EF A9FA-A9FE AA60-AA76 AA7A AA7E-AAAF AAB1 AAB5-AAB6 AAB9-AABD " ++
    "AAC0 AAC2 AADB-AADD 11700-1171A 11740-11746")

/-- Letters of words, and some signs that are written like letters. -/
def wordLetter : CharSet :=
  unions [
    alphabetic.diff (unions [given "ideo", wordKatakana, scriptOrEmpty "hira", hebrewLetter,
      wordExtension, unspacedLetter]),
    ofRuns ("2C2-2C5 2D2-2D7 2DE-2DF 2E5-2EB 2ED 2EF-2FF 55A-55C 55E 58A 5F3 70F A708-A716 " ++
      "A720-A721 A789-A78A AB5B")]

/-- The characters of a class of the division into words. -/
def wordBreak? (name : String) : Option CharSet :=
  match name with
  | "le" | "aletter" => some wordLetter
  | "cr" => some (single '\r')
  | "dq" | "doublequote" => some (single '\"')
  | "extend" => some (wordExtension.diff zeroWidthJoiner)
  | "ex" | "extendnumlet" => some (unions [ofCodes ["Pc"], single '\u202F'])
  | "fo" | "format" => some ((ofCodes ["Cf"]).diff
      (unions [ofRuns "200B-200D E0020-E007F", given "pcm"]))
  | "hl" | "hebrewletter" => some hebrewLetter
  | "ka" | "katakana" => some wordKatakana
  | "lf" => some (single '\n')
  | "ml" | "midletter" => some midLetter
  | "mn" | "midnum" => some
      (ofRuns "2C 3B 37E 589 60C-60D 66C 7F8 2044 FE50 FE54 FF0C FF1B")
  | "mb" | "midnumlet" => some midNumLet
  | "nl" | "newline" => some (ofRuns "B-C 85 2028-2029")
  | "nu" | "numeric" => some wordNumeric
  | "ri" | "regionalindicator" => some (given "ri")
  | "sq" | "singlequote" => some (single '\'')
  | "wsegspace" => some ((ofCodes ["Zs"]).diff (ofRuns "A0 2007 202F"))
  | "zwj" => some zeroWidthJoiner
  | _ => none

/-! ### Sentences -/

def sentenceExtension : CharSet :=
  unions [graphemeExtend, ofCodes ["Mc"], zeroWidthJoiner]

def sentenceLower : CharSet :=
  lowercase.diff (unions [graphemeExtend, ofRuns "10D0-10FA 10FD-10FF"])

def sentenceUpper : CharSet :=
  (unions [uppercase, ofCodes ["Lt"]]).diff (ofRuns "1C90-1CBA 1CBD-1CBF")

/-- Letters without a case. -/
def sentenceLetter : CharSet :=
  (unions [alphabetic, single '\u05F3']).diff
    (unions [sentenceLower, sentenceUpper, sentenceExtension])

/-- Ends of sentences that also stand within them. -/
def ambiguousTerminal : CharSet := ofRuns "2E 2024 FE52 FF0E"

/-- The characters of a class of the division into sentences. -/
def sentenceBreak? (name : String) : Option CharSet :=
  match name with
  | "at" | "aterm" => some ambiguousTerminal
  | "cl" | "close" => some (unions [ofCodes ["Ps", "Pe", "Pi", "Pf"],
      ofRuns "22 27 275B-2760 2E00-2E01 2E06-2E08 2E0B 1F676-1F678"])
  | "cr" => some (single '\r')
  | "ex" | "extend" => some sentenceExtension
  | "fo" | "format" => some ((ofCodes ["Cf"]).diff
      (ofRuns "600-605 6DD 890-891 8E2 200C-200D 110BD 110CD E0020-E007F"))
  | "le" | "oletter" => some sentenceLetter
  | "lf" => some (single '\n')
  | "lo" | "lower" => some sentenceLower
  | "nu" | "numeric" => some (unions [wordNumeric, single '\u066C'])
  | "sc" | "scontinue" => some (ofRuns ("2C-2D 3A-3B 37E 55D 60C-60D 7F8 1802 1808 " ++
      "2013-2014 3001 FE10-FE11 FE13-FE14 FE31-FE32 FE50-FE51 FE54-FE55 FE58 FE63 " ++
      "FF0C-FF0D FF1A-FF1B FF64"))
  | "se" | "sep" => some (ofRuns "85 2028-2029")
  | "sp" => some (unions [ofCodes ["Zs"], ofRuns "9 B-C"])
  | "st" | "sterm" => some ((given "sterm").diff ambiguousTerminal)
  | "up" | "upper" => some sentenceUpper
  | _ => none

end StarSchema.CharSet
