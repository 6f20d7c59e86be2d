import Reprint.Text.Script
import Reprint.Text.Property

/-!
# Where text may be broken

The classes of characters that decide where user-perceived characters, words and
sentences end.
-/

namespace Reprint.Text

/-! ## Tables -/

/-- Vowels and consonants of scripts whose words are found by a dictionary. -/
def dictionaryLetters : Ranges := .ofLines [
  "e01-e30 e32-e33 e40-e46 e81-e82 e84 e86-e8a e8c-ea3 ea5 ea7-eb0 eb2-eb3 ebd ec0-ec4 ec6",
  "edc-edf 1000-102a 103f 1050-1055 105a-105d 1061 1065-1066 106e-1070 1075-1081 108e",
  "1780-17b3 17d7 17dc 1950-196d 1970-1974 1980-19ab 19b0-19c9 1a20-1a54 1aa7 a9e0-a9e4",
  "a9e6-a9ef a9fa-a9fe aa60-aa76 aa7a aa7e-aaaf aab1 aab5-aab6 aab9-aabd aac0 aac2 aadb-aadd",
  "11700-1171a 11740-11746"]

/-- Spacing marks that do not belong to the character before them. -/
def freeMarks : Ranges := .ofLines [
  "102b-102c 1038 1062-1064 1067-106d 1083 1087-108c 108f 109a-109c 1a61 1a63-1a64 aa7b aa7d",
  "11720-11721"]

/-- Signs that are written around the digits behind them. -/
def numberSigns : Ranges := .ofLines ["600-605 6dd 890-891 8e2 110bd 110cd"]

/-- Letters of two alphabets that have case and do not use it in sentences. -/
def caselessUse : Ranges := .ofLines ["10d0-10fa 10fd-10ff 1c90-1cba 1cbd-1cbf"]

def emojiModifiers : Ranges := .ofLines ["1f3fb-1f3ff"]

def zeroWidthJoiner : Ranges := .ofLines ["200d"]

/-- The syllables of two letters. -/
def openSyllables : Ranges := .ofLines ["ac00-d788/1c"]

/-- The characters of a script. -/
def scriptChars (name : String) : Ranges := ((script? name).map (·.chars)).getD []

/-! ## Characters as users see them -/

/-- Characters that belong to the one before them and take no room. -/
def clusterExtend : Ranges := (graphemeExtend.union emojiModifiers).diff zeroWidthJoiner

/-- Characters that belong to the one behind them. -/
def clusterPrepend : Ranges :=
  numberSigns.union
    (.ofLines ["70f d4e 111c2-111c3 113d1 1193f 11941 11a3a 11a84-11a89 11d46 11f02"])

def clusterControl : Ranges :=
  (Ranges.unions [
    lineSeparators, paragraphSeparators, controls, formats, unassigned.inter defaultIgnorable]).diff
    (.unions [[(10, 10), (13, 13)], joinControls, clusterPrepend, clusterExtend])

/-- The classes for user-perceived characters. -/
def clusterClasses : List (List String × Ranges) := [
  (["cn", "control"], clusterControl),
  (["cr"], .single 13),
  (["ex", "extend"], clusterExtend),
  (["l"], .ofLines ["1100-115f a960-a97c"]),
  (["lf"], .single 10),
  (["lv"], openSyllables),
  (["lvt"], Ranges.diff [(0xac00, 0xd7a3)] openSyllables),
  (["pp", "prepend"], clusterPrepend),
  (["ri", "regionalindicator"], .ofLines ["1f1e6-1f1ff"]),
  (["sm", "spacingmark"],
    (spacingMarks.union (.ofLines ["e33 eb3"])).diff (clusterExtend.union freeMarks)),
  (["t"], .ofLines ["11a8-11ff d7cb-d7fb"]),
  (["v"], .ofLines ["1160-11a7 d7b0-d7c6 16d63 16d67-16d6a"]),
  (["zwj"], zeroWidthJoiner)]

/-! ## Words -/

/-- Characters that belong to the word before them. -/
def wordExtend : Ranges :=
  (Ranges.unions [graphemeExtend, emojiModifiers, spacingMarks]).diff zeroWidthJoiner

def wordKatakana : Ranges :=
  ((scriptChars "kana").diff wordExtend).union (.ofLines ["3031-3035 309b-309c 30a0 30fc ff70"])

def wordHebrew : Ranges := (scriptChars "hebr").inter otherLetters

/-- Letters of words, but for those of scripts with classes of their own. -/
def wordLetters : Ranges :=
  (alphabetic.union (.ofLines [
    "2c2-2c5 2d2-2d7 2de-2df 2e5-2eb 2ed 2ef-2ff 55a-55c 55e 58a 5f3 70f a708-a716 a720-a721",
    "a789-a78a ab5b"])).diff
    (.unions [
      ideographic, wordKatakana, scriptChars "hira", wordExtend, wordHebrew, dictionaryLetters])

/-- The classes for words. -/
def wordClasses : List (List String × Ranges) := [
  (["le", "aletter"], wordLetters),
  (["cr"], .single 13),
  (["dq", "doublequote"], .single 0x22),
  (["extend"], wordExtend),
  (["ex", "extendnumlet"], connectors.union (.single 0x202f)),
  (["fo", "format"],
    formats.diff (.unions [.single 0x200b, joinControls, wordExtend, clusterPrepend])),
  (["hl", "hebrewletter"], wordHebrew),
  (["ka", "katakana"], wordKatakana),
  (["lf"], .single 10),
  (["mb", "midnumlet"], .ofLines ["2e 2018-2019 2024 fe52 ff07 ff0e"]),
  (["ml", "midletter"], .ofLines ["3a b7 387 55f 5f4 2027 fe13 fe55 ff1a"]),
  (["mn", "midnum"], .ofLines [
    "2c 3b 37e 589 60c-60d 66c 7f8 2044 fe10 fe14 fe50 fe54 ff0c ff1b"]),
  (["nl", "newline"], .ofLines ["b-c 85 2028-2029"]),
  (["nu", "numeric"], .unions [decimalNumbers, .single 0x66b, numberSigns]),
  (["ri", "regionalindicator"], .ofLines ["1f1e6-1f1ff"]),
  (["sq", "singlequote"], .single 0x27),
  (["wsegspace"], .ofLines ["20 1680 2000-2006 2008-200a 205f 3000"]),
  (["zwj"], zeroWidthJoiner)]

/-! ## Sentences -/

/-- Characters that belong to the sentence part before them. -/
def sentenceExtend : Ranges := .unions [graphemeExtend, spacingMarks, zeroWidthJoiner]

def sentenceLower : Ranges := lowercase.diff (graphemeExtend.union caselessUse)

def sentenceUpper : Ranges := (titlecaseLetters.union uppercase).diff caselessUse

/-- Points that may end a sentence or a number. -/
def sentencePoints : Ranges := .ofLines ["2e 2024 fe52 ff0e"]

/-- The classes for sentences. -/
def sentenceClasses : List (List String × Ranges) := [
  (["at", "aterm"], sentencePoints),
  (["cl", "close"],
    .unions [openingPunctuation, closingPunctuation, initialQuotes, finalQuotes,
      .ofLines ["22 27 275b-2760 2e00-2e01 2e06-2e08 2e0b 1f676-1f678"]]),
  (["cr"], .single 13),
  (["ex", "extend"], sentenceExtend),
  (["fo", "format"], formats.diff (.unions [joinControls, graphemeExtend, clusterPrepend])),
  (["le", "oletter"],
    (alphabetic.union (.ofLines ["5f3 70f"])).diff
      (.unions [sentenceLower, sentenceUpper, sentenceExtend])),
  (["lf"], .single 10),
  (["lo", "lower"], sentenceLower),
  (["nu", "numeric"], .unions [decimalNumbers, .ofLines ["66b-66c"], numberSigns]),
  (["sc", "scontinue"], .ofLines [
    "2c-2d 3a-3b 37e 55d 60c-60d 7f8 1802 1808 2013-2014 3001 fe10-fe11 fe13-fe14 fe31-fe32",
    "fe50-fe51 fe54-fe55 fe58 fe63 ff0c-ff0d ff1a-ff1b ff64"]),
  (["se", "sep"], .ofLines ["85 2028-2029"]),
  (["sp"], .ofLines ["9 b-c 20 a0 1680 2000-200a 202f 205f 3000"]),
  (["st", "sterm"], sentenceTerminal.diff sentencePoints),
  (["up", "upper"], sentenceUpper)]

end Reprint.Text
