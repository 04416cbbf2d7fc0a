import GlslAssist.Uri.Domain.Composition

/-!
# Marks and directions in labels

A label of a domain name may not begin with a mark, and a joiner stands only after a sign that kills
a vowel. Where some label has letters that are written from right to left, every label has to keep
to one direction.

The table gives ranges of code points with a letter: `r` for letters from right to left, `n` and `e`
for their digits and for European ones, `o` for what has no direction of its own, `m` for marks
without one and `c` for other marks. All other characters beyond ASCII are letters from left to
right.
-/

namespace GlslAssist.Uri.Domain

def directionEntries : List String :=
  ["A1-D7o F7o 2B9-2BAo 2C2-2CFo 2D2-2EDo 2EF-2FFo 300-36Fm 375o 3F6o 483-489m 58A-58Fo",
   "591-5BDm 5BEr 5BFm 5C0r 5C1-5C2m 5C3r 5C4-5C5m 5C6r 5C7m 5D0-5F4r 606-607o 608r 609-60Ao",
   "60Br 60Co 60Dr 60E-60Fo 610-61Am 61B-64Ar 64B-65Fm 660-669n 66Ao 66B-66Cn 66D-66Fr 670m",
   "671-6D5r 6D6-6DCm 6DEo 6DF-6E4m 6E5-6E6r 6E7-6E8m 6E9o 6EA-6EDm 6EE-6EFr 6F0-6F9e 6FA-710r",
   "711m 712-72Fr 730-74Am 74D-7A5r 7A6-7B0m 7B1-7EAr 7EB-7F3m 7F4-7F5r 7F6-7F9o 7FAr 7FDm",
   "7FE-815r 816-819m 81Ar 81B-823m 824r 825-827m 828r 829-82Dm 830-858r 859-85Bm 85E-88Er",
   "898-89Fm 8A0-8C9r 8CA-902m 903c 93Am 93Bc 93Cm 93E-940c 941-948m 949-94Cc 94Dm 94E-94Fc",
   "951-957m 962-963m 981m 982-983c 9BCm 9BE-9C0c 9C1-9C4m 9C7-9CCc 9CDm 9D7c 9E2-9E3m",
   "9F2-9F3o 9FBo 9FE-A02m A03c A3Cm A3E-A40c A41-A51m A70-A71m A75m A81-A82m A83c ABCm",
   "ABE-AC0c AC1-AC8m AC9-ACCc ACDm AE2-AE3m AF1o AFA-B01m B02-B03c B3Cm B3Ec B3Fm B40c",
   "B41-B44m B47-B4Cc B4D-B56m B57c B62-B63m B82m BBE-BBFc BC0m BC1-BCCc BCDm BD7c BF3-BFAo",
   "C00m C01-C03c C04m C3Cm C3E-C40m C41-C44c C46-C56m C62-C63m C78-C7Eo C81m C82-C83c CBCm",
   "CBEc CC0-CC4c CC7-CCBc CCC-CCDm CD5-CD6c CE2-CE3m D00-D01m D02-D03c D3B-D3Cm D3E-D40c",
   "D41-D44m D46-D4Cc D4Dm D57c D62-D63m D81m D82-D83c DCAm DCF-DD1c DD2-DD6m DD8-DDFc",
   "DF2-DF3c E31m E34-E3Am E3Fo E47-E4Em EB1m EB4-EBCm EC8-ECDm F18-F19m F35m F37m F39m",
   "F3A-F3Do F3E-F3Fc F71-F7Em F7Fc F80-F84m F86-F87m F8D-FBCm FC6m 102B-102Cc 102D-1030m",
   "1031c 1032-1037m 1038c 1039-103Am 103B-103Cc 103D-103Em 1056-1057c 1058-1059m 105E-1060m",
   "1062-1064c 1067-106Dc 1071-1074m 1082m 1083-1084c 1085-1086m 1087-108Cc 108Dm 108Fc",
   "109A-109Cc 109Dm 135D-135Fm 1390-1399o 1400o 169B-169Co 1712-1714m 1715c 1732-1733m 1734c",
   "1752-1753m 1772-1773m 17B6c 17B7-17BDm 17BE-17C5c 17C6m 17C7-17C8c 17C9-17D3m 17DBo 17DDm",
   "17F0-180Ao 1885-1886m 18A9m 1920-1922m 1923-1926c 1927-1928m 1929-1931c 1932m 1933-1938c",
   "1939-193Bm 1940-1945o 19DE-19FFo 1A17-1A18m 1A19-1A1Ac 1A1Bm 1A55c 1A56m 1A57c 1A58-1A60m",
   "1A61c 1A62m 1A63-1A64c 1A65-1A6Cm 1A6D-1A72c 1A73-1A7Fm 1AB0-1ACEm 1B00-1B03m 1B04c 1B34m",
   "1B35c 1B36-1B3Am 1B3Bc 1B3Cm 1B3D-1B41c 1B42m 1B43-1B44c 1B6B-1B73m 1B80-1B81m 1B82c 1BA1c",
   "1BA2-1BA5m 1BA6-1BA7c 1BA8-1BA9m 1BAAc 1BAB-1BADm 1BE6m 1BE7c 1BE8-1BE9m 1BEA-1BECc 1BEDm",
   "1BEEc 1BEF-1BF1m 1BF2-1BF3c 1C24-1C2Bc 1C2C-1C33m 1C34-1C35c 1C36-1C37m 1CD0-1CD2m",
   "1CD4-1CE0m 1CE1c 1CE2-1CE8m 1CEDm 1CF4m 1CF7c 1CF8-1CF9m 1DC0-1DFFm 200C-20C0o 20D0-20F0m",
   "2104-214Do 218A-2335o 237B-2394o 2396-2426o 2440-26ABo 26AD-27FFo 2900-2B95o 2B97-2BFFo",
   "2CE5-2CEAo 2CEF-2CF1m 2CF9-2CFFo 2D7Fm 2DE0-2DFFm 2E00-3004o 3008-3020o 302A-302Dm",
   "302E-302Fc 3030o 3037o 303D-303Fo 3099-309Am 30A0o 30FBo 31C0-31E3o 4DC0-4DFFo A490-A4C6o",
   "A60D-A60Fo A66F-A672m A673o A674-A67Dm A67E-A67Fo A69E-A69Fm A6F0-A6F1m A700-A721o A788o",
   "A802m A806m A80Bm A823-A824c A825-A826m A827c A828-A82Bo A82Cm A838-A839o A874-A877o",
   "A880-A881c A8B4-A8C3c A8C4-A8C5m A8E0-A8F1m A8FFm A926-A92Dm A947-A951m A952-A953c",
   "A980-A982m A983c A9B3m A9B4-A9B5c A9B6-A9B9m A9BA-A9BBc A9BC-A9BDm A9BE-A9C0c A9E5m",
   "AA29-AA2Em AA2F-AA30c AA31-AA32m AA33-AA34c AA35-AA36m AA43m AA4Cm AA4Dc AA7Bc AA7Cm AA7Dc",
   "AAB0m AAB2-AAB4m AAB7-AAB8m AABE-AABFm AAC1m AAEBc AAEC-AAEDm AAEE-AAEFc AAF5c AAF6m",
   "AB6A-AB6Bo ABE3-ABE4c ABE5m ABE6-ABE7c ABE8m ABE9-ABEAc ABECc ABEDm FB1Em FBB2-FBC2r",
   "FD3E-FD4Fo FDCF-FDFFo FE20-FE2Fm FE45-FE46o FE73r 10101o 10140-1018Co 10190-101A0o 101FDm",
   "102E0m 102E1-102FBe 10376-1037Am 10800-1091Br 1091Fo 10920-1093Fr 10980-10A00r",
   "10A01-10A0Fm 10A10-10A35r 10A38-10A3Fm 10A40-10AE4r 10AE5-10AE6m 10AEB-10B35r 10B39-10B3Fo",
   "10B40-10D23r 10D24-10D27m 10D30-10D39n 10E60-10E7En 10E80-10EA9r 10EAB-10EACm 10EAD-10EB1r",
   "10F00-10F45r 10F46-10F50m 10F51-10F81r 10F82-10F85m 10F86-10FF6r 11000c 11001m 11002c",
   "11038-11046m 11052-11065o 11070m 11073-11074m 1107F-11081m 11082c 110B0-110B2c",
   "110B3-110B6m 110B7-110B8c 110B9-110BAm 110C2m 11100-11102m 11127-1112Bm 1112Cc",
   "1112D-11134m 11145-11146c 11173m 11180-11181m 11182c 111B3-111B5c 111B6-111BEm",
   "111BF-111C0c 111C9-111CCm 111CEc 111CFm 1122C-1122Ec 1122F-11231m 11232-11233c 11234m",
   "11235c 11236-11237m 1123Em 112DFm 112E0-112E2c 112E3-112EAm 11300-11301m 11302-11303c",
   "1133B-1133Cm 1133E-1133Fc 11340m 11341-1134Dc 11357c 11362-11363c 11366-11374m",
   "11435-11437c 11438-1143Fm 11440-11441c 11442-11444m 11445c 11446m 1145Em 114B0-114B2c",
   "114B3-114B8m 114B9c 114BAm 114BB-114BEc 114BF-114C0m 114C1c 114C2-114C3m 115AF-115B1c",
   "115B2-115B5m 115B8-115BBc 115BC-115BDm 115BEc 115BF-115C0m 115DC-115DDm 11630-11632c",
   "11633-1163Am 1163B-1163Cc 1163Dm 1163Ec 1163F-11640m 11660-1166Co 116ABm 116ACc 116ADm",
   "116AE-116AFc 116B0-116B5m 116B6c 116B7m 1171D-1171Fm 11720-11721c 11722-11725m 11726c",
   "11727-1172Bm 1182C-1182Ec 1182F-11837m 11838c 11839-1183Am 11930-11938c 1193B-1193Cm",
   "1193Dc 1193Em 11940c 11942c 11943m 119D1-119D3c 119D4-119DBm 119DC-119DFc 119E0m 119E4c",
   "11A01-11A06m 11A09-11A0Am 11A33-11A38m 11A39c 11A3B-11A3Em 11A47m 11A51-11A56m",
   "11A57-11A58c 11A59-11A5Bm 11A8A-11A96m 11A97c 11A98-11A99m 11C2Fc 11C30-11C3Dm 11C3Ec",
   "11C92-11CA7m 11CA9c 11CAA-11CB0m 11CB1c 11CB2-11CB3m 11CB4c 11CB5-11CB6m 11D31-11D45m",
   "11D47m 11D8A-11D8Ec 11D90-11D91m 11D93-11D94c 11D95m 11D96c 11D97m 11EF3-11EF4m",
   "11EF5-11EF6c 11FD5-11FF1o 16AF0-16AF4m 16B30-16B36m 16F4Fm 16F51-16F87c 16F8F-16F92m",
   "16FE2o 16FE4m 16FF0-16FF1c 1BC9D-1BC9Em 1CF00-1CF46m 1D165-1D166c 1D167-1D169m",
   "1D16D-1D172c 1D17B-1D182m 1D185-1D18Bm 1D1AA-1D1ADm 1D1E9-1D241o 1D242-1D244m 1D245o",
   "1D300-1D356o 1DA00-1DA36m 1DA3B-1DA6Cm 1DA75m 1DA84m 1DA9B-1DAAFm 1E000-1E02Am",
   "1E130-1E136m 1E2AEm 1E2EC-1E2EFm 1E2FFo 1E800-1E8CFr 1E8D0-1E8D6m 1E922-1E943r",
   "1E944-1E94Am 1E94B-1ED3Dr 1EEF0-1F12Fo 1F16D-1F16Fo 1F1ADo 1F260-1F6D7o 1F6DD-1F773o",
   "1F780-1F7D8o 1F7E0-1F8B1o 1F900-1FA53o 1FA60-1FA74o 1FA78-1FA86o 1FA90-1FAACo 1FAB0-1FABAo",
   "1FAC0-1FAC5o 1FAD0-1FAD9o 1FAE0-1FAE7o 1FAF0-1FAF6o 1FB00-1FBCAo"]

def directions : List (Nat × Nat × Char) :=
  (directionEntries.flatMap fun line => line.toList.splitOn ' ').map fun entry =>
    let (low, high) := cutAt '-' entry.dropLast
    let low := hexNumber low
    (low, if high.isEmpty then low else hexNumber high, entry.getLastD 'l')

/-- The letter that the table has for a character. -/
def direction (c : Char) : Char :=
  if c.isAlpha then 'l'
  else if c.isDigit then 'e'
  else if c.toNat < 0x80 then 'o'
  else
    match directions.find? fun (low, high, _) => low ≤ c.toNat && c.toNat ≤ high with
    | some (_, _, letter) => letter
    | none => 'l'

def beginsWithMark (label : List Char) : Bool :=
  match label with
  | [] => false
  | c :: _ => direction c == 'm' || direction c == 'c'

/-- The class of the signs that kill a vowel. -/
def vowelKiller : Nat := 9

/-- No joiner stands where it has no meaning; `before` is the character before the label's rest. -/
def joinersFit (before : Option Char) : List Char → Bool
  | [] => true
  | c :: rest =>
    (if c.toNat = 0x200C ∨ c.toNat = 0x200D then
        before.any fun b => markClass b = vowelKiller
      else true)
      && joinersFit (some c) rest

def goesLeft (label : List Char) : Bool :=
  label.any fun c => direction c == 'r' || direction c == 'n'

/-- The label keeps to one direction, which its first character gives. -/
def keepsDirection (label : List Char) : Bool :=
  let letters := label.map fun c => if direction c == 'c' then 'l' else direction c
  let last := (letters.reverse.find? (· ≠ 'm')).getD 'm'
  match letters with
  | [] => true
  | 'r' :: _ =>
    letters.all (· ≠ 'l') && (last == 'r' || last == 'e' || last == 'n')
      && !(letters.contains 'e' && letters.contains 'n')
  | 'l' :: _ =>
    letters.all (fun c => c ≠ 'r' && c ≠ 'n') && (last == 'l' || last == 'e')
  | _ => false

end GlslAssist.Uri.Domain
