import LogSift.Unicode.Property
import LogSift.Unicode.Script

/-!
# Where a text may be broken

Three properties sort characters by what they mean for the breaks between graphemes, words and
sentences. The values follow from other properties and from some lists of characters; a character
of none of them has no value here.
-/

namespace LogSift.Unicode.Break

open Property (ofName)

/-- Any of some code points, as a table lists them. -/
def listed (table : String) : Thunk CharSet := Thunk.mk fun _ => CharSet.ofText table

/-- Signs that enclose the digits after them. -/
def numberSigns : CharSet := (ofName "prependedconcatenationmark").diff (CharSet.ofText "70F")

/-! ## Graphemes -/

/-- Characters that belong to the one before them. -/
def extend : Thunk CharSet := Thunk.mk fun _ =>
  Property.graphemeExtend.get.union (ofName "emojimodifier")

/-- Characters that stand for no sign of their own. -/
def control : Thunk CharSet := Thunk.mk fun _ =>
  ((Category.group ["cc", "cf", "zl", "zp"]).union
    (Category.unassigned.get.inter Property.defaultIgnorable.get)).diff
    (CharSet.unions [extend.get, ofName "prependedconcatenationmark", CharSet.ofText "A D 200D"])

/-- Characters that belong to the one after them. -/
def prepended : Thunk CharSet := Thunk.mk fun _ =>
  (ofName "prependedconcatenationmark").union
    (CharSet.ofText "D4E 111C2-111C3 113D1 1193F 11941 11A3A 11A84-11A89 11D46 11F02")

/-- Marks with a width of their own that belong to the character before them. -/
def spacingMark : Thunk CharSet := Thunk.mk fun _ =>
  ((Category.group ["mc"]).union (CharSet.ofText "E33 EB3")).diff
    (extend.get.union (CharSet.ofText ("102B-102C 1038 1062-1064 1067-106D 1083 1087-108C 108F " ++
      "109A-109C 1A61 1A63-1A64 AA7B AA7D 11720-11721")))

/-- Hangul syllables without a final consonant. -/
def openSyllable : Thunk CharSet := Thunk.mk fun _ =>
  ⟨(List.range 399).map fun i => (0xAC00 + 28 * i, 0xAC00 + 28 * i)⟩

/-- Hangul syllables with a final consonant. -/
def closedSyllable : Thunk CharSet := Thunk.mk fun _ =>
  ⟨(List.range 399).map fun i => (0xAC01 + 28 * i, 0xAC1B + 28 * i)⟩

/-- The values for graphemes. -/
def grapheme : List NamedSet := [
  ⟨["cr"], listed "D"⟩, ⟨["lf"], listed "A"⟩, ⟨["zwj"], listed "200D"⟩,
  ⟨["cn", "control"], control⟩, ⟨["ex", "extend"], extend⟩, ⟨["pp", "prepend"], prepended⟩,
  ⟨["sm", "spacingmark"], spacingMark⟩,
  ⟨["ri", "regionalindicator"], Thunk.mk fun _ => ofName "regionalindicator"⟩,
  ⟨["l"], listed "1100-115F A960-A97C"⟩,
  ⟨["v"], listed "1160-11A7 D7B0-D7C6 16D63 16D67-16D6A"⟩,
  ⟨["t"], listed "11A8-11FF D7CB-D7FB"⟩,
  ⟨["lv"], openSyllable⟩, ⟨["lvt"], closedSyllable⟩]

/-! ## Words -/

/-- Characters that belong to the one before them within a word. -/
def wordExtend : Thunk CharSet := Thunk.mk fun _ => extend.get.union (Category.group ["mc"])

/-- Characters that only say how others are shown. -/
def wordFormat : Thunk CharSet := Thunk.mk fun _ =>
  (Category.group ["cf"]).diff
    (CharSet.unions [wordExtend.get, ofName "prependedconcatenationmark",
      CharSet.ofText "200B-200D"])

/-- Digits and what stands within numbers. -/
def sentenceNumeric : Thunk CharSet := Thunk.mk fun _ =>
  CharSet.unions [Category.group ["nd"], numberSigns, CharSet.ofText "66B-66C 19DA"]

/-- Katakana letters and marks. -/
def katakana : Thunk CharSet := Thunk.mk fun _ =>
  (Script.ofName "katakana").union (CharSet.ofText "3031-3035 309B-309C 30A0 30FC FF70")

/-- Hebrew letters. -/
def hebrewLetter : Thunk CharSet := Thunk.mk fun _ =>
  (Script.ofName "hebrew").inter (Category.group ["lo"])

/-- The scripts whose words are not told apart by their characters alone. -/
def complexScripts : List String :=
  ["thai", "lao", "myanmar", "khmer", "taile", "newtailue", "taitham", "taiviet", "ahom"]

/-- Letters of the scripts that part words by spaces. -/
def wordLetter : Thunk CharSet := Thunk.mk fun _ =>
  (Property.alphabetic.get.union (CharSet.ofText ("2C2-2C5 2D2-2D7 2DE-2DF 2E5-2EB 2ED " ++
    "2EF-2FF 55A-55C 55E 58A 5F3 70F A708-A716 A720-A721 A789-A78A AB5B"))).diff
    (CharSet.unions ([ofName "ideographic", katakana.get, Script.ofName "hiragana",
      wordExtend.get, hebrewLetter.get] ++ complexScripts.map Script.ofName))

/-- The values for words. -/
def word : List NamedSet := [
  ⟨["cr"], listed "D"⟩, ⟨["lf"], listed "A"⟩, ⟨["nl", "newline"], listed "B-C 85 2028-2029"⟩,
  ⟨["zwj"], listed "200D"⟩, ⟨["extend"], wordExtend⟩, ⟨["fo", "format"], wordFormat⟩,
  ⟨["dq", "doublequote"], listed "22"⟩, ⟨["sq", "singlequote"], listed "27"⟩,
  ⟨["ri", "regionalindicator"], Thunk.mk fun _ => ofName "regionalindicator"⟩,
  ⟨["le", "aletter"], wordLetter⟩, ⟨["hl", "hebrewletter"], hebrewLetter⟩,
  ⟨["ka", "katakana"], katakana⟩,
  ⟨["nu", "numeric"], Thunk.mk fun _ => sentenceNumeric.get.diff (CharSet.ofText "66C")⟩,
  ⟨["ml", "midletter"], listed "3A B7 387 55F 5F4 2027 FE13 FE55 FF1A"⟩,
  ⟨["mn", "midnum"], listed "2C 3B 37E 589 60C-60D 66C 7F8 2044 FE50 FE54 FF0C FF1B"⟩,
  ⟨["mb", "midnumlet"], listed "2E 2018-2019 2024 FE52 FF07 FF0E"⟩,
  ⟨["ex", "extendnumlet"], Thunk.mk fun _ =>
    (Category.group ["pc"]).union (CharSet.ofText "202F")⟩,
  ⟨["wsegspace"], Thunk.mk fun _ =>
    (Category.group ["zs"]).diff (CharSet.ofText "A0 2007 202F")⟩]

/-! ## Sentences -/

/-- Characters that belong to the one before them within a sentence. -/
def sentenceExtend : Thunk CharSet := Thunk.mk fun _ =>
  CharSet.unions [Property.graphemeExtend.get, Category.group ["mc"], CharSet.ofText "200D"]

/-- Lower-case letters within a sentence. -/
def sentenceLower : Thunk CharSet := Thunk.mk fun _ =>
  Property.lowercase.get.diff
    (Property.graphemeExtend.get.union (CharSet.ofText "10D0-10FA 10FD-10FF"))

/-- Upper-case letters within a sentence. -/
def sentenceUpper : Thunk CharSet := Thunk.mk fun _ =>
  (Property.uppercase.get.union (Category.group ["lt"])).diff
    (CharSet.ofText "1C90-1CBA 1CBD-1CBF")

/-- Full stops. -/
def fullStop : CharSet := CharSet.ofText "2E 2024 FE52 FF0E"

/-- The values for sentences. -/
def sentence : List NamedSet := [
  ⟨["cr"], listed "D"⟩, ⟨["lf"], listed "A"⟩, ⟨["se", "sep"], listed "85 2028-2029"⟩,
  ⟨["ex", "extend"], sentenceExtend⟩,
  ⟨["fo", "format"], Thunk.mk fun _ =>
    (Category.group ["cf"]).diff
      (CharSet.unions [sentenceExtend.get, numberSigns, CharSet.ofText "200C-200D"])⟩,
  ⟨["sp"], Thunk.mk fun _ =>
    (ofName "whitespace").diff (CharSet.ofText "A D 85 2028-2029")⟩,
  ⟨["lo", "lower"], sentenceLower⟩, ⟨["up", "upper"], sentenceUpper⟩,
  ⟨["le", "oletter"], Thunk.mk fun _ =>
    (Property.alphabetic.get.union (CharSet.ofText "5F3")).diff
      (CharSet.unions [sentenceLower.get, sentenceUpper.get, sentenceExtend.get])⟩,
  ⟨["nu", "numeric"], sentenceNumeric⟩, ⟨["at", "aterm"], Thunk.mk fun _ => fullStop⟩,
  ⟨["st", "sterm"], Thunk.mk fun _ => (ofName "sentenceterminal").diff fullStop⟩,
  ⟨["sc", "scontinue"], listed ("2C-2D 3A-3B 37E 55D 60C-60D 7F8 1802 1808 2013-2014 3001 " ++
    "FE10-FE11 FE13-FE14 FE31-FE32 FE50-FE51 FE54-FE55 FE58 FE63 FF0C-FF0D FF1A-FF1B FF64")⟩,
  ⟨["cl", "close"], Thunk.mk fun _ =>
    ((Category.group ["pe", "pf", "pi", "ps"]).union
      (CharSet.ofText "22 27 275B-2760 2E00-2E0D 1F676-1F678")).diff
      ((ofName "sentenceterminal").union fullStop)⟩]

end LogSift.Unicode.Break
