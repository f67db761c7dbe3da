import StarSchema.CharSet.Derived

/-!
# Characters of names

The letters and digits that a name may have. They are those of a later version of the standard
than the properties, so the ones that it adds are listed.

Main definitions: `CharSet.nameStart`, `CharSet.nameContinue`.
-/

namespace StarSchema.CharSet

/-- The letters that the properties do not know. -/
def laterLetter : CharSet :=
  ofRuns ("88F C5C CDC A7CE-A7CF A7D2 A7D4 A7F1 10940-10959 10EC5-10EC7 10EFA-10EFB " ++
    "11B60-11B67 11DB0-11DDB 16EA0-16EB8 16EBB-16ED3 16FF2-16FF6 187F8-187FF 18D09-18D1E " ++
    "18D80-18DF2 1E6C0-1E6DE 1E6E0-1E6F5 1E6FE-1E6FF 2B73A-2B73F 2CEA2-2CEAD 323B0-33479")

/-- The digits that the properties do not know. -/
def laterDigit : CharSet := ofRuns "11DE0-11DE9"

/-- What a name starts with: a letter or an underscore. -/
def nameStart : CharSet := unions [single '_', alphabetic, laterLetter]

/-- What a name continues with: also numbers, full stops and square brackets. -/
def nameContinue : CharSet :=
  unions [nameStart, ofCodes ["Nd", "Nl", "No"], laterDigit, ofRuns "2E 5B 5D"]

end StarSchema.CharSet
