import GlslAssist.Decimal.Digits
import GlslAssist.Text.Hex

/-!
# Composition of characters

A letter with marks can be written in several ways that mean the same. In the composed form marks
stand in the order of their classes, and a letter takes in every mark with which it has a character
of its own. Only characters that domain names keep are composed; syllables of Hangul are composed by
calculation.

The tables are written with a mark or a class before a colon, and after it the letters with what
they become, or the marks of the class.
-/

namespace GlslAssist.Uri.Domain

def compositionEntries : List String :=
  ["300:61>E0,65>E8,69>EC,6F>F2,75>F9,FC>1DC,6E>1F9,435>450,438>45D,113>1E15,14D>1E51",
   "300:77>1E81,E2>1EA7,103>1EB1,EA>1EC1,F4>1ED3,1A1>1EDD,1B0>1EEB,79>1EF3,1F00>1F02",
   "300:1F01>1F03,1F10>1F12,1F11>1F13,1F20>1F22,1F21>1F23,1F30>1F32,1F31>1F33,1F40>1F42",
   "300:1F41>1F43,1F50>1F52,1F51>1F53,1F60>1F62,1F61>1F63,3B1>1F70,3B5>1F72,3B7>1F74",
   "300:3B9>1F76,3BF>1F78,3C5>1F7A,3C9>1F7C,3CA>1FD2,3CB>1FE2",
   "301:61>E1,65>E9,69>ED,6F>F3,75>FA,79>FD,63>107,6C>13A,6E>144,72>155,73>15B,7A>17A,FC>1D8",
   "301:67>1F5,E5>1FB,E6>1FD,F8>1FF,3CA>390,3B1>3AC,3B5>3AD,3B7>3AE,3B9>3AF,3CB>3B0,3BF>3CC",
   "301:3C5>3CD,3C9>3CE,433>453,43A>45C,E7>1E09,113>1E17,EF>1E2F,6B>1E31,6D>1E3F,F5>1E4D",
   "301:14D>1E53,70>1E55,169>1E79,77>1E83,E2>1EA5,103>1EAF,EA>1EBF,F4>1ED1,1A1>1EDB,1B0>1EE9",
   "301:1F00>1F04,1F01>1F05,1F10>1F14,1F11>1F15,1F20>1F24,1F21>1F25,1F30>1F34,1F31>1F35",
   "301:1F40>1F44,1F41>1F45,1F50>1F54,1F51>1F55,1F60>1F64,1F61>1F65",
   "302:61>E2,65>EA,69>EE,6F>F4,75>FB,63>109,67>11D,68>125,6A>135,73>15D,77>175,79>177",
   "302:7A>1E91,1EA1>1EAD,1EB9>1EC7,1ECD>1ED9",
   "303:61>E3,6E>F1,6F>F5,69>129,75>169,76>1E7D,E2>1EAB,103>1EB5,65>1EBD,EA>1EC5,F4>1ED7",
   "303:1A1>1EE1,1B0>1EEF,79>1EF9",
   "304:61>101,65>113,69>12B,6F>14D,75>16B,FC>1D6,E4>1DF,227>1E1,E6>1E3,1EB>1ED,F6>22B",
   "304:F5>22D,22F>231,79>233,438>4E3,443>4EF,67>1E21,1E37>1E39,1E5B>1E5D,3B1>1FB1,3B9>1FD1",
   "304:3C5>1FE1",
   "306:61>103,65>115,67>11F,69>12D,6F>14F,75>16D,438>439,443>45E,436>4C2,430>4D1,435>4D7",
   "306:229>1E1D,1EA1>1EB7,3B1>1FB0,3B9>1FD0,3C5>1FE0",
   "307:63>10B,65>117,67>121,7A>17C,61>227,6F>22F,62>1E03,64>1E0B,66>1E1F,68>1E23,6D>1E41",
   "307:6E>1E45,70>1E57,72>1E59,73>1E61,15B>1E65,161>1E67,1E63>1E69,74>1E6B,77>1E87,78>1E8B",
   "307:79>1E8F",
   "308:61>E4,65>EB,69>EF,6F>F6,75>FC,79>FF,3B9>3CA,3C5>3CB,435>451,456>457,430>4D3,4D9>4DB",
   "308:436>4DD,437>4DF,438>4E5,43E>4E7,4E9>4EB,44D>4ED,443>4F1,447>4F5,44B>4F9,68>1E27",
   "308:F5>1E4F,16B>1E7B,77>1E85,78>1E8D,74>1E97",
   "309:61>1EA3,E2>1EA9,103>1EB3,65>1EBB,EA>1EC3,69>1EC9,6F>1ECF,F4>1ED5,1A1>1EDF,75>1EE7",
   "309:1B0>1EED,79>1EF7 30A:61>E5,75>16F,77>1E98,79>1E99 30B:6F>151,75>171,443>4F3",
   "30C:63>10D,64>10F,65>11B,6C>13E,6E>148,72>159,73>161,74>165,7A>17E,61>1CE,69>1D0,6F>1D2",
   "30C:75>1D4,FC>1DA,67>1E7,6B>1E9,292>1EF,6A>1F0,68>21F",
   "30F:61>201,65>205,69>209,6F>20D,72>211,75>215,475>477",
   "311:61>203,65>207,69>20B,6F>20F,72>213,75>217",
   "313:3B1>1F00,3B5>1F10,3B7>1F20,3B9>1F30,3BF>1F40,3C5>1F50,3C9>1F60,3C1>1FE4",
   "314:3B1>1F01,3B5>1F11,3B7>1F21,3B9>1F31,3BF>1F41,3C5>1F51,3C9>1F61,3C1>1FE5",
   "31B:6F>1A1,75>1B0",
   "323:62>1E05,64>1E0D,68>1E25,6B>1E33,6C>1E37,6D>1E43,6E>1E47,72>1E5B,73>1E63,74>1E6D",
   "323:76>1E7F,77>1E89,7A>1E93,61>1EA1,65>1EB9,69>1ECB,6F>1ECD,1A1>1EE3,75>1EE5,1B0>1EF1",
   "323:79>1EF5 324:75>1E73 325:61>1E01 326:73>219,74>21B",
   "327:63>E7,67>123,6B>137,6C>13C,6E>146,72>157,73>15F,74>163,65>229,64>1E11,68>1E29",
   "328:61>105,65>119,69>12F,75>173,6F>1EB 32D:64>1E13,65>1E19,6C>1E3D,6E>1E4B,74>1E71,75>1E77",
   "32E:68>1E2B 330:65>1E1B,69>1E2D,75>1E75",
   "331:62>1E07,64>1E0F,6B>1E35,6C>1E3B,6E>1E49,72>1E5F,74>1E6F,7A>1E95,68>1E96",
   "338:2190>219A,2192>219B,2194>21AE,21D0>21CD,21D4>21CE,21D2>21CF,2203>2204,2208>2209",
   "338:220B>220C,2223>2224,2225>2226,223C>2241,2243>2244,2245>2247,2248>2249,3D>2260",
   "338:2261>2262,224D>226D,3C>226E,3E>226F,2264>2270,2265>2271,2272>2274,2273>2275",
   "338:2276>2278,2277>2279,227A>2280,227B>2281,2282>2284,2283>2285,2286>2288,2287>2289",
   "338:22A2>22AC,22A8>22AD,22A9>22AE,22AB>22AF,227C>22E0,227D>22E1,2291>22E2,2292>22E3",
   "338:22B2>22EA,22B3>22EB,22B4>22EC,22B5>22ED",
   "342:1F00>1F06,1F01>1F07,1F20>1F26,1F21>1F27,1F30>1F36,1F31>1F37,1F50>1F56,1F51>1F57",
   "342:1F60>1F66,1F61>1F67,3B1>1FB6,3B7>1FC6,3B9>1FD6,3CA>1FD7,3C5>1FE6,3CB>1FE7,3C9>1FF6",
   "653:627>622 654:627>623,648>624,64A>626,6D5>6C0,6C1>6C2,6D2>6D3 655:627>625",
   "93C:928>929,930>931,933>934 9BE:9C7>9CB 9D7:9C7>9CC B3E:B47>B4B B56:B47>B48 B57:B47>B4C",
   "BBE:BC6>BCA,BC7>BCB BD7:B92>B94,BC6>BCC C56:C46>C48 CC2:CC6>CCA",
   "CD5:CBF>CC0,CC6>CC7,CCA>CCB CD6:CC6>CC8 D3E:D46>D4A,D47>D4B D57:D46>D4C",
   "DCA:DD9>DDA,DDC>DDD DCF:DD9>DDC DDF:DD9>DDE 102E:1025>1026",
   "1B35:1B05>1B06,1B07>1B08,1B09>1B0A,1B0B>1B0C,1B0D>1B0E,1B11>1B12,1B3A>1B3B,1B3C>1B3D",
   "1B35:1B3E>1B40,1B3F>1B41,1B42>1B43",
   "3099:304B>304C,304D>304E,304F>3050,3051>3052,3053>3054,3055>3056,3057>3058,3059>305A",
   "3099:305B>305C,305D>305E,305F>3060,3061>3062,3064>3065,3066>3067,3068>3069,306F>3070",
   "3099:3072>3073,3075>3076,3078>3079,307B>307C,3046>3094,309D>309E,30AB>30AC,30AD>30AE",
   "3099:30AF>30B0,30B1>30B2,30B3>30B4,30B5>30B6,30B7>30B8,30B9>30BA,30BB>30BC,30BD>30BE",
   "3099:30BF>30C0,30C1>30C2,30C4>30C5,30C6>30C7,30C8>30C9,30CF>30D0,30D2>30D3,30D5>30D6",
   "3099:30D8>30D9,30DB>30DC,30A6>30F4,30EF>30F7,30F0>30F8,30F1>30F9,30F2>30FA,30FD>30FE",
   "309A:306F>3071,3072>3074,3075>3077,3078>307A,307B>307D,30CF>30D1,30D2>30D4,30D5>30D7",
   "309A:30D8>30DA,30DB>30DD 110BA:11099>1109A,1109B>1109C,110A5>110AB",
   "11127:11131>1112E,11132>1112F 1133E:11347>1134B 11357:11347>1134C 114B0:114B9>114BC",
   "114BA:114B9>114BB 114BD:114B9>114BE 115AF:115B8>115BA,115B9>115BB 11930:11935>11938"]

def classEntries : List String :=
  ["1:334-338,1CD4,1CE2-1CE8,20D2-20D3,20D8-20DA,20E5-20E6,20EA-20EB,10A39,16AF0-16AF4,1BC9E",
   "1:1D167-1D169 6:16FF0-16FF1",
   "7:93C,9BC,A3C,ABC,B3C,C3C,CBC,1037,1B34,1BE6,1C37,A9B3,110BA,11173,111CA,11236,112E9",
   "7:1133B-1133C,11446,114C3,115C0,116B7,1183A,11943,11D42,1E94A 8:3099-309A",
   "9:94D,9CD,A4D,ACD,B4D,BCD,C4D,CCD,D3B-D3C,D4D,DCA,E3A,EBA,F84,1039-103A,1714-1715,1734",
   "9:17D2,1A60,1B44,1BAA-1BAB,1BF2-1BF3,2D7F,A806,A82C,A8C4,A953,A9C0,AAF6,ABED,10A3F,11046",
   "9:11070,1107F,110B9,11133-11134,111C0,11235,112EA,1134D,11442,114C2,115BF,1163F,116B6",
   "9:1172B,11839,1193D-1193E,119E0,11A34,11A47,11A99,11C3F,11D44-11D45,11D97 10:5B0 11:5B1",
   "12:5B2 13:5B3 14:5B4 15:5B5 16:5B6 17:5B7 18:5B8,5C7 19:5B9-5BA 20:5BB 21:5BC 22:5BD",
   "23:5BF 24:5C1 25:5C2 26:FB1E 27:64B,8F0 28:64C,8F1 29:64D,8F2 30:618,64E 31:619,64F",
   "32:61A,650 33:651 34:652 35:670 36:711 84:C55 91:C56 103:E38-E39 107:E48-E4B 118:EB8-EB9",
   "122:EC8-ECB 129:F71 130:F72,F7A-F7D,F80 132:F74 202:321-322,327-328,1DD0 214:1DCE",
   "216:31B,F39,1D165-1D166,1D16E-1D172 218:1DFA,302A",
   "220:316-319,31C-320,323-326,329-333,339-33C,347-349,34D-34E,353-356,359-35A,591,596,59B",
   "220:5A2-5A7,5AA,5C5,655-656,65C,65F,6E3,6EA,6ED,731,734,737-739,73B-73C,73E,742,744,746",
   "220:748,7F2,7FD,859-85B,899-89B,8CF-8D3,8E3,8E6,8E9,8ED-8EF,8F6,8F9-8FA,952,F18-F19,F35",
   "220:F37,FC6,108D,193B,1A18,1A7F,1AB5-1ABA,1ABD,1ABF-1AC0,1AC3-1AC4,1ACA,1B6C,1CD5-1CD9",
   "220:1CDC-1CDF,1CED,1DC2,1DCA,1DCF,1DF9,1DFD,1DFF,20E8,20EC-20EF,A92B-A92D,AAB4,FE27-FE2D",
   "220:101FD,102E0,10A0D,10A3A,10AE6,10F46-10F47,10F4B,10F4D-10F50,10F83,10F85,1D17B-1D182",
   "220:1D18A-1D18B,1E8D0-1E8D6 222:59A,5AD,1939,302D 224:302E-302F 226:1D16D",
   "228:5AE,18A9,1DF7-1DF8,302B",
   "230:300-314,33D-33F,342,346,34A-34C,350-352,357,35B,363-36F,483-487,592-595,597-599",
   "230:59C-5A1,5A8-5A9,5AB-5AC,5AF,5C4,610-617,653-654,657-65B,65D-65E,6D6-6DC,6DF-6E2,6E4",
   "230:6E7-6E8,6EB-6EC,730,732-733,735-736,73A,73D,73F-741,743,745,747,749-74A,7EB-7F1,7F3",
   "230:816-819,81B-823,825-827,829-82D,898,89C-89F,8CA-8CE,8D4-8E1,8E4-8E5,8E7-8E8,8EA-8EC",
   "230:8F3-8F5,8F7-8F8,8FB-8FF,951,953-954,9FE,F82-F83,F86-F87,135D-135F,17DD,193A,1A17",
   "230:1A75-1A7C,1AB0-1AB4,1ABB-1ABC,1AC1-1AC2,1AC5-1AC9,1ACB-1ACE,1B6B,1B6D-1B73,1CD0-1CD2",
   "230:1CDA-1CDB,1CE0,1CF4,1CF8-1CF9,1DC0-1DC1,1DC3-1DC9,1DCB-1DCC,1DD1-1DF5,1DFB,1DFE",
   "230:20D0-20D1,20D4-20D7,20DB-20DC,20E1,20E7,20E9,20F0,2CEF-2CF1,2DE0-2DFF,A66F,A674-A67D",
   "230:A69E-A69F,A6F0-A6F1,A8E0-A8F1,AAB0,AAB2-AAB3,AAB7-AAB8,AABE-AABF,AAC1,FE20-FE26",
   "230:FE2E-FE2F,10376-1037A,10A0F,10A38,10AE5,10D24-10D27,10EAB-10EAC,10F48-10F4A,10F4C",
   "230:10F82,10F84,11100-11102,11366-1136C,11370-11374,1145E,16B30-16B36,1D185-1D189",
   "230:1D1AA-1D1AD,1D242-1D244,1E000-1E006,1E008-1E018,1E01B-1E021,1E023-1E024,1E026-1E02A",
   "230:1E130-1E136,1E2AE,1E2EC-1E2EF,1E944-1E949 232:315,31A,358,1DF6,302C",
   "233:35C,35F,362,1DFC 234:35D-35E,360-361,1DCD"]

def hexNumber (digits : List Char) : Nat :=
  (Text.hexNumber? digits).getD 0

/-- What stands before a mark and what follows it. -/
def cutAt (mark : Char) (s : List Char) : List Char × List Char :=
  (s.takeWhile (· ≠ mark), (s.dropWhile (· ≠ mark)).tail)

def entriesOf (lines : List String) : List (List Char × List (List Char)) :=
  (lines.flatMap fun line => line.toList.splitOn ' ').map fun entry =>
    let (head, items) := cutAt ':' entry
    (head, items.splitOn ',')

/-- Every letter and mark with the character that they become. -/
def compositions : List (Nat × Nat × Nat) :=
  (entriesOf compositionEntries).flatMap fun (mark, items) => items.map fun item =>
    let (letter, whole) := cutAt '>' item
    (hexNumber letter, hexNumber mark, hexNumber whole)

/-- Ranges of marks with their class. -/
def markClasses : List (Nat × Nat × Nat) :=
  (entriesOf classEntries).flatMap fun (number, items) => items.map fun item =>
    let (low, high) := cutAt '-' item
    let low := hexNumber low
    (low, if high.isEmpty then low else hexNumber high, Decimal.ofDigits number)

/-- The class of a mark, which is zero for all that is no mark. -/
def markClass (c : Char) : Nat :=
  match markClasses.find? fun (low, high, _) => low ≤ c.toNat && c.toNat ≤ high with
  | some (_, _, number) => number
  | none => 0

/-! ## Taking apart -/

/-- The letter and the marks of a character. -/
def decomposed : Nat → Nat → List Nat
  | 0, n => [n]
  | fuel + 1, n =>
    match compositions.find? fun (_, _, whole) => whole == n with
    | some (letter, mark, _) => decomposed fuel letter ++ [mark]
    | none => [n]

/-- Puts a character before the marks of higher classes that come last; the last one is first. -/
def insertMark (c : Char) : List Char → List Char
  | [] => [c]
  | d :: rest =>
    let goesBefore := markClass c ≠ 0 ∧ markClass c < markClass d
    if goesBefore then d :: insertMark c rest else c :: d :: rest

/-- All letters and marks, the marks in the order of their classes. -/
def ordered (s : List Char) : List Char :=
  ((s.flatMap fun c => (decomposed 4 c.toNat).map Char.ofNat).foldl
    (fun done c => insertMark c done) []).reverse

/-! ## Putting together -/

/-- The syllable of a first and a second part, or of a syllable and a last part. -/
def syllable? (a b : Nat) : Option Nat :=
  if 0x1100 ≤ a ∧ a < 0x1113 ∧ 0x1161 ≤ b ∧ b < 0x1176 then
    some (0xAC00 + ((a - 0x1100) * 21 + (b - 0x1161)) * 28)
  else if 0xAC00 ≤ a ∧ a < 0xD7A4 ∧ (a - 0xAC00) % 28 = 0 ∧ 0x11A8 ≤ b ∧ b < 0x11C3 then
    some (a + (b - 0x11A7))
  else none

/-- The character that a letter and a mark become. -/
def whole? (a b : Char) : Option Char :=
  let found := compositions.find? fun (letter, mark, _) => letter == a.toNat && mark == b.toNat
  ((found.map fun (_, _, whole) => whole).or (syllable? a.toNat b.toNat)).map Char.ofNat

/-- Goes on after a letter and marks, the last one first, that it has not taken in. -/
def composeFrom (letter : Char) (marks : List Char) : List Char → List Char
  | [] => letter :: marks.reverse
  | c :: rest =>
    let isFree := match marks with
      | [] => true
      | last :: _ => markClass last < markClass c
    match if isFree then whole? letter c else none with
    | some whole => composeFrom whole marks rest
    | none =>
      if markClass c = 0 then letter :: marks.reverse ++ composeFrom c [] rest
      else composeFrom letter (c :: marks) rest

/-- The composed form. -/
def composed (s : List Char) : List Char :=
  match ordered s with
  | [] => []
  | c :: rest => composeFrom c [] rest

end GlslAssist.Uri.Domain
