import LogSift.Unicode.Property

/-!
# Characters of the latest edition

Patterns know the characters of edition 16.0 of the standard. Delimiters, the names of groups and
changes of case go by edition 17.0, and this module holds what that edition added.
-/

namespace LogSift.Unicode.Recent

/-- Letters, and what counts as part of one. -/
def letter : Thunk CharSet := Thunk.mk fun _ =>
  Property.alphabetic.get.union (CharSet.ofText
    ("88F C5C CDC A7CE-A7CF A7D2 A7D4 A7F1 10940-10959 10EC5-10EC7 10EFA-10EFB 11B60-11B67 " ++
      "11DB0-11DDB 16EA0-16EB8 16EBB-16ED3 16FF2-16FF6 187F8-187FF 18D09-18D1E 18D80-18DF2 " ++
      "1E6C0-1E6DE 1E6E0-1E6F5 1E6FE-1E6FF 2B73A-2B73F 2CEA2-2CEAD 323B0-33479"))

/-- Letters and digits of all kinds. -/
def alphanumeric : Thunk CharSet := Thunk.mk fun _ =>
  CharSet.unions [letter.get, Category.group ["nd", "nl", "no"],
    CharSet.ofText "11DE0-11DE9 16FF4-16FF6"]

/-- Characters of either case, and those in title case. -/
def cased : Thunk CharSet := Thunk.mk fun _ =>
  (Property.cased.get.union
    (CharSet.ofText "A7CE-A7CF A7D2 A7D4 A7F1 16EA0-16EB8 16EBB-16ED3")).diff (CharSet.ofText "295")

/-- Characters that a change of case looks through. -/
def caseIgnorable : Thunk CharSet := Thunk.mk fun _ =>
  Property.caseIgnorable.get.union (CharSet.ofText
    ("1ACF-1ADD 1AE0-1AEB A7F1 10EC5 10EFA-10EFB 11B60 11B62-11B64 11B66 11DD9 16FF2-16FF3 " ++
      "1E6E3 1E6E6 1E6EE-1E6EF 1E6F5 1E6FF"))

end LogSift.Unicode.Recent
