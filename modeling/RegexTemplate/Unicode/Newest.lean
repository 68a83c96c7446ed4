import RegexTemplate.Unicode.Category
import RegexTemplate.Unicode.Property.Derived

/-!
# The newest characters

Messages and names know the characters that version 17 of Unicode has added, while classes of
characters keep to version 16.  Version 17 takes no character out of the sets that matter here, so
what it adds to them is all that is needed.
-/

namespace RegexTemplate.Unicode.Newest

/-- Code points that version 17 assigns; all of them are shown. -/
def addedAssigned : Ranges :=
  Ranges.ofLines
    ["88f c5c cdc 1acf-1add 1ae0-1aeb 20c1 2b96 a7ce-a7cf a7d2 a7d4 a7f1 fbc3-fbd2 fd90-fd91",
     "fdc8-fdce 10940-10959 10ec5-10ec7 10ed0-10ed8 10efa-10efb 11b60-11b67 11db0-11ddb",
     "11de0-11de9 16ea0-16eb8 16ebb-16ed3 16ff2-16ff6 187f8-187ff 18d09-18d1e 18d80-18df2",
     "1ccfa-1ccfc 1ceba-1ced0 1cee0-1cef0 1e6c0-1e6de 1e6e0-1e6f5 1e6fe-1e6ff 1f6d8 1f777-1f77a",
     "1f8d0-1f8d8 1fa54-1fa57 1fa8a 1fa8e 1fac8 1facd 1faea 1faef 1fbfa 2b73a-2b73f 2cea2-2cead",
     "323b0-33479"]

/-- Alphabetic characters among them. -/
def addedAlphabetic : Ranges :=
  Ranges.ofLines
    ["88f c5c cdc a7ce-a7cf a7d2 a7d4 a7f1 10940-10959 10ec5-10ec7 10efa-10efb 11b60-11b67",
     "11db0-11ddb 16ea0-16eb8 16ebb-16ed3 16ff2-16ff6 187f8-187ff 18d09-18d1e 18d80-18df2",
     "1e6c0-1e6de 1e6e0-1e6f5 1e6fe-1e6ff 2b73a-2b73f 2cea2-2cead 323b0-33479"]

/-- Numbers among them. -/
def addedNumber : Ranges := Ranges.ofText "11de0-11de9 16ff4-16ff6"

/-- Marks among them that are drawn onto the character before. -/
def addedExtend : Ranges :=
  Ranges.ofLines
    ["1acf-1add 1ae0-1aeb 10efa-10efb 11b60 11b62-11b64 11b66 1e6e3 1e6e6 1e6ee-1e6ef 1e6f5"]

/-- The code points that have a meaning. -/
def assigned : CharSet := .ofRanges (Category.assigned ++ addedAssigned)

/-- Alphabetic characters. -/
def alphabetic : CharSet := .ofRanges (Property.alphabetic.ranges ++ addedAlphabetic)

/-- Digits and other numbers. -/
def number : CharSet := .ofRanges (Category.number ++ addedNumber)

/-- Marks that are drawn onto the character before. -/
def graphemeExtend : CharSet :=
  (Property.graphemeExtend.inter (.ofRanges Category.mark)).union (.ofRanges addedExtend)

end RegexTemplate.Unicode.Newest
