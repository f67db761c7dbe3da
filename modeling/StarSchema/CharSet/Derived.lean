import StarSchema.CharSet.Given

/-!
# Derived properties

The Unicode properties that a character has or has not and that follow from its category and from
the given properties.

Main definitions: `CharSet.derived?`, `CharSet.word`.
-/

namespace StarSchema.CharSet

def lowercase : CharSet := unions [ofCodes ["Ll"], given "otherlowercase"]

def uppercase : CharSet := unions [ofCodes ["Lu"], given "otheruppercase"]

/-- Letters, numbers that are letters, and what is added to them. -/
def alphabetic : CharSet :=
  unions [letter, ofCodes ["Nl"], lowercase, uppercase, given "otheralphabetic"]

/-- Letters with a case. -/
def cased : CharSet := unions [lowercase, uppercase, ofCodes ["Lt"]]

/-- The punctuation within words. -/
def midLetter : CharSet := ofRuns "3A B7 387 55F 5F4 2027 FE13 FE55 FF1A"

/-- The punctuation within words and numbers. -/
def midNumLet : CharSet := ofRuns "2E 2018-2019 2024 FE52 FF07 FF0E"

/-- What does not keep apart letters that casing looks at together. -/
def caseIgnorable : CharSet :=
  unions [ofCodes ["Mn", "Me", "Cf", "Lm", "Sk"], midLetter, midNumLet, single '\'']

/-- What a display leaves out if it does not know it. -/
def defaultIgnorable : CharSet :=
  (unions [given "odi", ofCodes ["Cf"], given "vs"]).diff
    (unions [given "wspace", ofRuns "FFF9-FFFB 13430-1343F", given "pcm"])

/-- What has a meaning of its own in patterns. -/
def patternCharacter : CharSet := unions [given "patsyn", given "patws"]

/-- What an identifier starts with. -/
def idStart : CharSet := (unions [letter, ofCodes ["Nl"], given "oids"]).diff patternCharacter

/-- What an identifier continues with. -/
def idContinue : CharSet :=
  (unions [idStart, ofCodes ["Mn", "Mc", "Nd", "Pc"], given "oidc"]).diff patternCharacter

/-- What continues an identifier and stays such in all its equivalent forms. -/
def xidContinue : CharSet :=
  idContinue.diff (ofRuns "37A 309B-309C FC5E-FC63 FDFA-FDFB FE70-FE7E/2")

/-- What starts an identifier and stays such in all its equivalent forms. -/
def xidStart : CharSet := (idStart.inter xidContinue).diff (ofRuns "E33 EB3 FF9E-FF9F")

/-- What belongs to the character before it. -/
def graphemeExtend : CharSet := unions [ofCodes ["Me", "Mn"], given "ogrext"]

/-- What is a character for the reader. -/
def graphemeBase : CharSet :=
  complement (unions [other, ofCodes ["Zl", "Zp"], graphemeExtend])

def changesWhenTitlecased : CharSet :=
  (unions [given "cwu", ofRuns "1C4 1C7 1CA 1F1"]).diff
    (ofRuns "1C5 1C8 1CB 1F2 10D0-10FA 10FD-10FF 1F88-1F8F 1F98-1F9F 1FA8-1FAF 1FBC 1FCC 1FFC")

def changesWhenCasefolded : CharSet :=
  (unions [given "cwl", ofRuns ("B5 DF 149 17F 345 3C2 3D0-3D1 3D5-3D6 3F0-3F1 3F5 587 " ++
    "13F8-13FD 1C80-1C88 1E9A-1E9B 1F80-1F87 1F90-1F97 1FA0-1FA7 1FB2-1FB4 1FB7 1FC2-1FC4 " ++
    "1FC7 1FF2-1FF4 1FF7 AB70-ABBF FB00-FB06 FB13-FB17")]).diff (ofRuns "13A0-13F5")

def changesWhenCasemapped : CharSet :=
  unions [given "cwl", given "cwu", changesWhenTitlecased]

/-- Hexadecimal digits, also those of full width. -/
def hexDigit : CharSet := unions [given "ahex", ofRuns "FF10-FF19 FF21-FF26 FF41-FF46"]

/-- The characters with a derived property. -/
def derived? (name : String) : Option CharSet :=
  match name with
  | "alpha" | "alphabetic" => some alphabetic
  | "lower" | "lowercase" => some lowercase
  | "upper" | "uppercase" => some uppercase
  | "cased" => some cased
  | "ci" | "caseignorable" => some caseIgnorable
  | "math" => some (unions [ofCodes ["Sm"], given "omath"])
  | "di" | "defaultignorablecodepoint" => some defaultIgnorable
  | "ids" | "idstart" => some idStart
  | "idc" | "idcontinue" => some idContinue
  | "xids" | "xidstart" => some xidStart
  | "xidc" | "xidcontinue" => some xidContinue
  | "grext" | "graphemeextend" => some graphemeExtend
  | "grbase" | "graphemebase" => some graphemeBase
  | "cwt" | "changeswhentitlecased" => some changesWhenTitlecased
  | "cwcf" | "changeswhencasefolded" => some changesWhenCasefolded
  | "cwcm" | "changeswhencasemapped" => some changesWhenCasemapped
  | "hex" | "hexdigit" => some hexDigit
  | _ => none

/-! ### Characters of words -/

/-- White space. -/
def blank : CharSet := given "wspace"

/-- Letters, marks, digits, connectors and joiners. -/
def word : CharSet :=
  unions [alphabetic, mark, decimalNumber, ofCodes ["Pc"], given "joinc"]

end StarSchema.CharSet
