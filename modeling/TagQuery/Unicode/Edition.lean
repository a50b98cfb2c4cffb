import TagQuery.Unicode.BinaryProperty
import TagQuery.Unicode.GeneralCategory

/-!
# The next edition

The tables of properties are those of Unicode 16, by which patterns are matched. The names within
patterns and the text that messages quote go by Unicode 17. Between the two editions no code point
lost its place in the sets that are needed here, so the later sets are the earlier ones with the
code points that the later edition assigned.
-/

namespace TagQuery.Unicode.Edition

/-! ## What the later edition assigned -/

/-- The code points that the later edition assigned. -/
def assigned : CodePoints := .ofLines
  ["88F C5C CDC 1ACF-1ADD 1AE0-1AEB 20C1 2B96 A7CE-A7CF A7D2 A7D4 A7F1 FBC3-FBD2 FD90-FD91",
   "FDC8-FDCE 10940-10959 10EC5-10EC7 10ED0-10ED8 10EFA-10EFB 11B60-11B67 11DB0-11DDB",
   "11DE0-11DE9 16EA0-16EB8 16EBB-16ED3 16FF2-16FF6 187F8-187FF 18D09-18D1E 18D80-18DF2",
   "1CCFA-1CCFC 1CEBA-1CED0 1CEE0-1CEF0 1E6C0-1E6DE 1E6E0-1E6F5 1E6FE-1E6FF 1F6D8 1F777-1F77A",
   "1F8D0-1F8D8 1FA54-1FA57 1FA8A 1FA8E 1FAC8 1FACD 1FAEA 1FAEF 1FBFA 2B73A-2B73F 2CEA2-2CEAD",
   "323B0-33479"]

/-- The alphabetic ones among them. -/
def assignedAlphabetic : CodePoints := .ofLines
  ["88F C5C CDC A7CE-A7CF A7D2 A7D4 A7F1 10940-10959 10EC5-10EC7 10EFA-10EFB 11B60-11B67",
   "11DB0-11DDB 16EA0-16EB8 16EBB-16ED3 16FF2-16FF6 187F8-187FF 18D09-18D1E 18D80-18DF2",
   "1E6C0-1E6DE 1E6E0-1E6F5 1E6FE-1E6FF 2B73A-2B73F 2CEA2-2CEAD 323B0-33479"]

/-- The numbers among them. -/
def assignedNumbers : CodePoints := .ofLines ["11DE0-11DE9 16FF4-16FF6"]

/-- Those among them that attach to the code point before them. -/
def assignedExtending : CodePoints := .ofLines
  ["1ACF-1ADD 1AE0-1AEB 10EFA-10EFB 11B60 11B62-11B64 11B66 1E6E3 1E6E6 1E6EE-1E6EF 1E6F5"]

/-! ## The sets of the later edition -/

/-- The alphabetic code points. -/
def alphabetic : CodePoints := BinaryProperty.alphabetic.union assignedAlphabetic

/-- The code points of a number. -/
def numbers : CodePoints := GeneralCategory.numbers.union assignedNumbers

/-- The code points that attach to the one before them. -/
def graphemeExtend : CodePoints := BinaryProperty.graphemeExtend.union assignedExtending

/-- Whether a code point shows nothing of itself. -/
def isUnprintable (n : Nat) : Bool :=
  GeneralCategory.unprintable.contains n && !assigned.contains n

end TagQuery.Unicode.Edition
