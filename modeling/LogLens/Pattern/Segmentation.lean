import LogLens.Pattern.BinaryProperty
/-!
# Where texts break

Three properties say what a character does to the breaks around it: those between the clusters that
a reader takes for one character, those between words and those between sentences. Each has a table
of its values. The values with many characters follow from other properties, up to some exceptions.
-/

namespace LogLens.Pattern

/-- The characters that do something to the breaks between clusters. -/
def clusterBreaks : Table := [
  (["cr"],
    "D"),
  (["cn", "control"],
    "0-9 B-C E-1F 7F-9F AD 61C 180E 200B 200E-200F 2028-202E 2060-206F FEFF FFF0-FFFB " ++
    "13430-1343F 1BCA0-1BCA3 1D173-1D17A E0000-E001F E0080-E00FF E01F0-E0FFF"),
  (["l"],
    "1100-115F A960-A97C"),
  (["lf"],
    "A"),
  (["lv"],
    "AC00-D788/1C"),
  (["pp", "prepend"],
    "600-605 6DD 70F 890-891 8E2 D4E 110BD 110CD 111C2-111C3 113D1 1193F 11941 11A3A " ++
    "11A84-11A89 11D46 11F02"),
  (["ri", "regionalindicator"],
    "1F1E6-1F1FF"),
  (["t"],
    "11A8-11FF D7CB-D7FB"),
  (["v"],
    "1160-11A7 D7B0-D7C6 16D63 16D67-16D6A"),
  (["zwj"],
    "200D")]

/-- Spacing marks that begin a cluster of their own. -/
def looseSpacingMarks : String :=
  "102B-102C 1038 1062-1064 1067-106D 1083 1087-108C 108F 109A-109C 1A61 1A63-1A64 AA7B AA7D " ++
  "11720-11721"

/-- The characters with a value of the property for breaks between clusters. -/
def clusterBreak? (name : String) : Option CharClass :=
  match name with
  | "ex" => some (graphemeExtend.union (listed "emod"))
  | "extend" => some (graphemeExtend.union (listed "emod"))
  | "sm" => some spacing
  | "spacingmark" => some spacing
  | "lvt" => some closedSyllables
  | _ => clusterBreaks.find? name
where
  /-- Marks that join the character before them. -/
  spacing : CharClass :=
    (((categories.union ["mc"]).diff graphemeExtend).diff (writtenClass looseSpacingMarks)).union
      (writtenClass "E33 EB3")
  /-- Syllables with a final consonant. -/
  closedSyllables : CharClass :=
    (writtenClass "AC00-D7A3").diff (clusterBreaks.union ["lv"])

/-- The characters that do something to the breaks between words. -/
def wordBreaks : Table := [
  (["cr"],
    "D"),
  (["dq", "doublequote"],
    "22"),
  (["ex", "extendnumlet"],
    "5F 202F 203F-2040 2054 FE33-FE34 FE4D-FE4F FF3F"),
  (["fo", "format"],
    "AD 61C 180E 200E-200F 202A-202E 2060-2064 2066-206F FEFF FFF9-FFFB 13430-1343F " ++
    "1BCA0-1BCA3 1D173-1D17A E0001"),
  (["hl", "hebrewletter"],
    "5D0-5EA 5EF-5F2 FB1D FB1F-FB28 FB2A-FB36 FB38-FB3C FB3E FB40-FB41 FB43-FB44 FB46-FB4F"),
  (["ka", "katakana"],
    "3031-3035 309B-309C 30A0-30FA 30FC-30FF 31F0-31FF 32D0-32FE 3300-3357 FF66-FF9D " ++
    "1AFF0-1AFF3 1AFF5-1AFFB 1AFFD-1AFFE 1B000 1B120-1B122 1B155 1B164-1B167"),
  (["lf"],
    "A"),
  (["ml", "midletter"],
    "3A B7 387 55F 5F4 2027 FE13 FE55 FF1A"),
  (["mn", "midnum"],
    "2C 3B 37E 589 60C-60D 66C 7F8 2044 FE50 FE54 FF0C FF1B"),
  (["mb", "midnumlet"],
    "2E 2018-2019 2024 FE52 FF07 FF0E"),
  (["nl", "newline"],
    "B-C 85 2028-2029"),
  (["ri", "regionalindicator"],
    "1F1E6-1F1FF"),
  (["sq", "singlequote"],
    "27"),
  (["wsegspace"],
    "20 1680 2000-2006 2008-200A 205F 3000"),
  (["zwj"],
    "200D")]

/-- Characters of words between which there are no breaks, although they are not alphabetic. -/
def furtherWordLetters : String :=
  "2C2-2C5 2D2-2D7 2DE-2DF 2E5-2EB 2ED 2EF-2FF 55A-55C 55E 58A 5F3 70F A708-A716 A720-A721 " ++
  "A789-A78A AB5B"

/-- Alphabetic characters of scripts that are written without blanks. -/
def unspacedLetters : String :=
  "E01-E30 E32-E33 E40-E46 E81-E82 E84 E86-E8A E8C-EA3 EA5 EA7-EB0 EB2-EB3 EBD EC0-EC4 EC6 " ++
  "EDC-EDF 1000-102A 103F 1050-1055 105A-105D 1061 1065-1066 106E-1070 1075-1081 108E " ++
  "1780-17B3 17D7 17DC 1950-196D 1970-1974 1980-19AB 19B0-19C9 1A20-1A54 1AA7 3041-3096 " ++
  "309D-309F A9E0-A9E4 A9E6-A9EF A9FA-A9FE AA60-AA76 AA7A AA7E-AAAF AAB1 AAB5-AAB6 AAB9-AABD " ++
  "AAC0 AAC2 AADB-AADD 11700-1171A 11740-11746 1B001-1B11F 1B132 1B150-1B152"

/-- The characters with a value of the property for breaks between words. -/
def wordBreak? (name : String) : Option CharClass :=
  match name with
  | "extend" => some extending
  | "nu" => some numeric
  | "numeric" => some numeric
  | "le" => some letter
  | "aletter" => some letter
  | _ => wordBreaks.find? name
where
  /-- Marks and what acts like marks. -/
  extending : CharClass :=
    ((graphemeExtend.union (categories.union ["mc"])).union (listed "emod")).diff
      (wordBreaks.union ["zwj"])
  /-- Digits and signs of numbers. -/
  numeric : CharClass :=
    (categories.union ["nd"]).union
      (writtenClass "600-605 66B 6DD 890-891 8E2 19DA 110BD 110CD")
  /-- Letters of words. -/
  letter : CharClass :=
    ((((alphabetic.diff (listed "ideographic")).diff
      (wordBreaks.union ["katakana", "hebrewletter"])).diff extending).diff
        (writtenClass unspacedLetters)).union (writtenClass furtherWordLetters)

/-- The characters that do something to the breaks between sentences. -/
def sentenceBreaks : Table := [
  (["at", "aterm"],
    "2E 2024 FE52 FF0E"),
  (["cr"],
    "D"),
  (["cl", "close"],
    "22 27-29 5B 5D 7B 7D AB BB F3A-F3D 169B-169C 2018-201F 2039-203A 2045-2046 207D-207E " ++
    "208D-208E 2308-230B 2329-232A 275B-2760 2768-2775 27C5-27C6 27E6-27EF 2983-2998 29D8-29DB " ++
    "29FC-29FD 2E00-2E0D 2E1C-2E1D 2E20-2E29 2E42 2E55-2E5C 3008-3011 3014-301B 301D-301F " ++
    "FD3E-FD3F FE17-FE18 FE35-FE44 FE47-FE48 FE59-FE5E FF08-FF09 FF3B FF3D FF5B FF5D FF5F-FF60 " ++
    "FF62-FF63 1F676-1F678"),
  (["fo", "format"],
    "AD 61C 70F 180E 200B 200E-200F 202A-202E 2060-2064 2066-206F FEFF FFF9-FFFB 13430-1343F " ++
    "1BCA0-1BCA3 1D173-1D17A E0001"),
  (["lf"],
    "A"),
  (["sc", "scontinue"],
    "2C-2D 3A-3B 37E 55D 60C-60D 7F8 1802 1808 2013-2014 3001 FE10-FE11 FE13-FE14 FE31-FE32 " ++
    "FE50-FE51 FE54-FE55 FE58 FE63 FF0C-FF0D FF1A-FF1B FF64"),
  (["st", "sterm"],
    "21 3F 589 61D-61F 6D4 700-702 7F9 837 839 83D-83E 964-965 104A-104B 1362 1367-1368 166E " ++
    "1735-1736 17D4-17D5 1803 1809 1944-1945 1AA8-1AAB 1B4E-1B4F 1B5A-1B5B 1B5E-1B5F 1B7D-1B7F " ++
    "1C3B-1C3C 1C7E-1C7F 203C-203D 2047-2049 2CF9-2CFB 2E2E 2E3C 2E53-2E54 3002 A4FF A60E-A60F " ++
    "A6F3 A6F7 A876-A877 A8CE-A8CF A92F A9C8-A9C9 AA5D-AA5F AAF0-AAF1 ABEB FE12 FE15-FE16 " ++
    "FE56-FE57 FF01 FF1F FF61 10A56-10A57 10F55-10F59 10F86-10F89 11047-11048 110BE-110C1 " ++
    "11141-11143 111C5-111C6 111CD 111DE-111DF 11238-11239 1123B-1123C 112A9 113D4-113D5 " ++
    "1144B-1144C 115C2-115C3 115C9-115D7 11641-11642 1173C-1173E 11944 11946 11A42-11A43 " ++
    "11A9B-11A9C 11C41-11C42 11EF7-11EF8 11F43-11F44 16A6E-16A6F 16AF5 16B37-16B38 16B44 " ++
    "16D6E-16D6F 16E98 1BC9F 1DA88"),
  (["se", "sep"],
    "85 2028-2029"),
  (["sp"],
    "9 B-C 20 A0 1680 2000-200A 202F 205F 3000")]

/-- The characters with a value of the property for breaks between sentences. -/
def sentenceBreak? (name : String) : Option CharClass :=
  match name with
  | "ex" => some extending
  | "extend" => some extending
  | "lo" => some lower
  | "lower" => some lower
  | "up" => some upper
  | "upper" => some upper
  | "nu" => some numeric
  | "numeric" => some numeric
  | "le" => some otherLetter
  | "oletter" => some otherLetter
  | _ => sentenceBreaks.find? name
where
  /-- Marks and the joiner. -/
  extending : CharClass :=
    (graphemeExtend.union (categories.union ["mc"])).union (clusterBreaks.union ["zwj"])
  /-- Small letters. -/
  lower : CharClass :=
    (lowercase.diff graphemeExtend).diff (writtenClass "10D0-10FA 10FD-10FF")
  /-- Capital letters. -/
  upper : CharClass :=
    (uppercase.union (categories.union ["lt"])).diff (writtenClass "1C90-1CBA 1CBD-1CBF")
  /-- Digits and signs of numbers. -/
  numeric : CharClass :=
    (categories.union ["nd"]).union
      (writtenClass "600-605 66B-66C 6DD 890-891 8E2 19DA 110BD 110CD")
  /-- Letters that are neither small nor capital. -/
  otherLetter : CharClass :=
    (((alphabetic.diff lower).diff upper).diff extending).union
      (writtenClass "5F3")

end LogLens.Pattern
