import PeerRules.Text.Table

/-!
# The direction of a host name

Some scripts are written from the right. In a name with such a script every label must have one
direction that all readers agree on: it begins with a letter of its direction, ends with a letter or
a number, and holds nothing of the other direction.
-/
namespace PeerRules.Url.Domain

open Text

/-- How a character goes with the direction of the text around it. -/
inductive Direction where
  | left
  | right
  /-- A digit of a script that is written from the right. -/
  | rightDigit
  | digit
  /-- Goes with what is around it. -/
  | neutral
  /-- Goes with the character before it. -/
  | mark
  deriving DecidableEq, Repr

/-- Runs of characters with their direction, by number. -/
def directions : List Nat := Table.ofLines [
  "0 4 30 3 3A 4 61 0 7B 4 DF 0 F7 4 F8 0 2B9 4 2BB 0 2C2 4 2D0 0 2D2 4 2EE 0 2EF 4 300 5 371 0",
  "375 4 377 0 3F6 4 3F8 0 483 5 48B 0 58A 4 591 5 5BE 1 5BF 5 5C0 1 5C1 5 5C3 1 5C4 5 5C6 1 5C7",
  "5 5D0 1 606 4 608 1 609 4 60B 1 60C 4 60D 1 60E 4 610 5 61B 1 64B 5 660 2 66A 4 66B 2 66D 1",
  "670 5 671 1 6D6 5 6DE 4 6DF 5 6E5 1 6E7 5 6E9 4 6EA 5 6EE 1 6F0 3 6FA 1 711 5 712 1 730 5 74D",
  "1 7A6 5 7B1 1 7EB 5 7F4 1 7F6 4 7FA 1 7FD 5 7FE 1 816 5 81A 1 81B 5 824 1 825 5 828 1 829 5",
  "830 1 859 5 85E 1 897 5 8A0 1 8CA 5 903 0 93A 5 93B 0 93C 5 93D 0 941 5 949 0 94D 5 94E 0 951",
  "5 960 0 962 5 964 0 981 5 982 0 9BC 5 9BD 0 9C1 5 9C7 0 9CD 5 9CE 0 9E2 5 9E6 0 9F2 4 9F4 0",
  "9FB 4 9FC 0 9FE 5 A03 0 A3C 5 A3E 0 A41 5 A5C 0 A70 5 A72 0 A75 5 A76 0 A81 5 A83 0 ABC 5 ABD",
  "0 AC1 5 AC9 0 ACD 5 AD0 0 AE2 5 AE6 0 AF1 4 AF9 0 AFA 5 B02 0 B3C 5 B3D 0 B3F 5 B40 0 B41 5",
  "B47 0 B4D 5 B57 0 B62 5 B66 0 B82 5 B83 0 BC0 5 BC1 0 BCD 5 BD0 0 BF3 4 C00 5 C01 0 C04 5 C05",
  "0 C3C 5 C3D 0 C3E 5 C41 0 C46 5 C58 0 C62 5 C66 0 C78 4 C7F 0 C81 5 C82 0 CBC 5 CBD 0 CCC 5",
  "CD5 0 CE2 5 CE6 0 D00 5 D02 0 D3B 5 D3D 0 D41 5 D46 0 D4D 5 D4E 0 D62 5 D66 0 D81 5 D82 0 DCA",
  "5 DCF 0 DD2 5 DD8 0 E31 5 E32 0 E34 5 E3F 4 E40 0 E47 5 E4F 0 EB1 5 EB2 0 EB4 5 EBD 0 EC8 5",
  "ED0 0 F18 5 F1A 0 F35 5 F36 0 F37 5 F38 0 F39 5 F3A 4 F3E 0 F71 5 F7F 0 F80 5 F85 0 F86 5 F88",
  "0 F8D 5 FBE 0 FC6 5 FC7 0 102D 5 1031 0 1032 5 1038 0 1039 5 103B 0 103D 5 103F 0 1058 5 105A",
  "0 105E 5 1061 0 1071 5 1075 0 1082 5 1083 0 1085 5 1087 0 108D 5 108E 0 109D 5 109E 0 135D 5",
  "1360 0 1390 4 13A0 0 1400 4 1401 0 169B 4 16A0 0 1712 5 1715 0 1732 5 1734 0 1752 5 1760 0",
  "1772 5 1780 0 17B7 5 17BE 0 17C6 5 17C7 0 17C9 5 17D4 0 17DB 4 17DC 0 17DD 5 17E0 0 17F0 4",
  "1810 0 1885 5 1887 0 18A9 5 18AA 0 1920 5 1923 0 1927 5 1929 0 1932 5 1933 0 1939 5 1940 4",
  "1946 0 19DE 4 1A00 0 1A17 5 1A19 0 1A1B 5 1A1E 0 1A56 5 1A57 0 1A58 5 1A61 0 1A62 5 1A63 0",
  "1A65 5 1A6D 0 1A73 5 1A80 0 1AB0 5 1B04 0 1B34 5 1B35 0 1B36 5 1B3B 0 1B3C 5 1B3D 0 1B42 5",
  "1B43 0 1B6B 5 1B74 0 1B80 5 1B82 0 1BA2 5 1BA6 0 1BA8 5 1BAA 0 1BAB 5 1BAE 0 1BE6 5 1BE7 0",
  "1BE8 5 1BEA 0 1BED 5 1BEE 0 1BEF 5 1BF2 0 1C2C 5 1C34 0 1C36 5 1C3B 0 1CD0 5 1CD3 0 1CD4 5",
  "1CE1 0 1CE2 5 1CE9 0 1CED 5 1CEE 0 1CF4 5 1CF5 0 1CF8 5 1CFA 0 1DC0 5 1E01 0 200C 4 20D0 5",
  "2104 4 214E 0 218A 4 2336 0 237B 4 2395 0 2396 4 26AC 0 26AD 4 2800 0 2900 4 2C30 0 2CE5 4",
  "2CEC 0 2CEF 5 2CF3 0 2CF9 4 2D00 0 2D7F 5 2D80 0 2DE0 5 2E00 4 3005 0 3008 4 3021 0 302A 5",
  "302E 0 3030 4 3031 0 3037 4 303B 0 303D 4 3041 0 3099 5 309D 0 30A0 4 30A1 0 30FB 4 30FC 0",
  "31C0 4 31F0 0 4DC0 4 4E00 0 A490 4 A4D0 0 A60D 4 A610 0 A66F 5 A673 4 A674 5 A67E 4 A681 0",
  "A69E 5 A6A0 0 A6F0 5 A6F2 0 A700 4 A723 0 A788 4 A789 0 A802 5 A803 0 A806 5 A807 0 A80B 5",
  "A80C 0 A825 5 A827 0 A828 4 A82C 5 A830 0 A838 4 A840 0 A874 4 A880 0 A8C4 5 A8CE 0 A8E0 5",
  "A8F2 0 A8FF 5 A900 0 A926 5 A92E 0 A947 5 A952 0 A980 5 A983 0 A9B3 5 A9B4 0 A9B6 5 A9BA 0",
  "A9BC 5 A9BE 0 A9E5 5 A9E6 0 AA29 5 AA2F 0 AA31 5 AA33 0 AA35 5 AA40 0 AA43 5 AA44 0 AA4C 5",
  "AA4D 0 AA7C 5 AA7D 0 AAB0 5 AAB1 0 AAB2 5 AAB5 0 AAB7 5 AAB9 0 AABE 5 AAC0 0 AAC1 5 AAC2 0",
  "AAEC 5 AAEE 0 AAF6 5 AB01 0 AB6A 4 ABC0 0 ABE5 5 ABE6 0 ABE8 5 ABE9 0 ABED 5 ABF0 0 FB1E 5",
  "FBB2 1 FBC3 4 FE20 5 FE45 4 FE73 1 10000 0 10101 4 10102 0 10140 4 1018D 0 10190 4 101D0 0",
  "101FD 5 10280 0 102E0 5 102E1 3 10300 0 10376 5 10380 0 10800 1 1091F 4 10920 1 10A01 5 10A10",
  "1 10A38 5 10A40 1 10AE5 5 10AEB 1 10B39 4 10B40 1 10D24 5 10D30 2 10D40 3 10D4A 1 10D69 5",
  "10D6E 4 10D6F 1 10E60 2 10E80 1 10EAB 5 10EAD 1 10ED1 4 10EFA 5 10F00 1 10F46 5 10F51 1 10F82",
  "5 10F86 1 11000 0 11001 5 11002 0 11038 5 11047 0 11052 4 11066 0 11070 5 11071 0 11073 5",
  "11075 0 1107F 5 11082 0 110B3 5 110B7 0 110B9 5 110BB 0 110C2 5 110D0 0 11100 5 11103 0 11127",
  "5 1112C 0 1112D 5 11136 0 11173 5 11174 0 11180 5 11182 0 111B6 5 111BF 0 111C9 5 111CD 0",
  "111CF 5 111D0 0 1122F 5 11232 0 11234 5 11235 0 11236 5 11238 0 1123E 5 1123F 0 11241 5 11280",
  "0 112DF 5 112E0 0 112E3 5 112F0 0 11300 5 11302 0 1133B 5 1133D 0 11340 5 11341 0 11366 5",
  "11380 0 113BB 5 113C2 0 113CE 5 113CF 0 113D0 5 113D1 0 113D2 5 113D3 0 113E1 5 11400 0 11438",
  "5 11440 0 11442 5 11445 0 11446 5 11447 0 1145E 5 1145F 0 114B3 5 114B9 0 114BA 5 114BB 0",
  "114BF 5 114C1 0 114C2 5 114C4 0 115B2 5 115B8 0 115BC 5 115BE 0 115BF 5 115C1 0 115DC 5 11600",
  "0 11633 5 1163B 0 1163D 5 1163E 0 1163F 5 11641 0 11660 4 11680 0 116AB 5 116AC 0 116AD 5",
  "116AE 0 116B0 5 116B6 0 116B7 5 116B8 0 1171D 5 11720 0 11722 5 11726 0 11727 5 11730 0 1182F",
  "5 11838 0 11839 5 1183B 0 1193B 5 1193D 0 1193E 5 1193F 0 11943 5 11944 0 119D4 5 119DC 0",
  "119E0 5 119E1 0 11A01 5 11A07 0 11A09 5 11A0B 0 11A33 5 11A39 0 11A3B 5 11A3F 0 11A47 5 11A50",
  "0 11A51 5 11A57 0 11A59 5 11A5C 0 11A8A 5 11A97 0 11A98 5 11A9A 0 11B60 5 11B61 0 11B62 5",
  "11B65 0 11B66 5 11B67 0 11C30 5 11C3E 0 11C92 5 11CA9 0 11CAA 5 11CB1 0 11CB2 5 11CB4 0 11CB5",
  "5 11D00 0 11D31 5 11D46 0 11D47 5 11D50 0 11D90 5 11D93 0 11D95 5 11D96 0 11D97 5 11D98 0",
  "11EF3 5 11EF5 0 11F00 5 11F02 0 11F36 5 11F3E 0 11F40 5 11F41 0 11F42 5 11F43 0 11F5A 5 11FB0",
  "0 11FD5 4 11FFF 0 13440 5 13441 0 13447 5 13460 0 1611E 5 1612A 0 1612D 5 16130 0 16AF0 5",
  "16AF5 0 16B30 5 16B37 0 16F4F 5 16F50 0 16F8F 5 16F93 0 16FE2 4 16FE3 0 16FE4 5 16FF0 0 1BC9D",
  "5 1BC9F 0 1CC00 4 1CF00 5 1CF50 0 1D167 5 1D16A 0 1D17B 5 1D183 0 1D185 5 1D18C 0 1D1AA 5",
  "1D1AE 0 1D1E9 4 1D242 5 1D245 4 1D2C0 0 1D300 4 1D360 0 1DA00 5 1DA37 0 1DA3B 5 1DA6D 0 1DA75",
  "5 1DA76 0 1DA84 5 1DA85 0 1DA9B 5 1DF00 0 1E000 5 1E100 0 1E130 5 1E137 0 1E2AE 5 1E2C0 0",
  "1E2EC 5 1E2F0 0 1E2FF 4 1E4D0 0 1E4EC 5 1E4F0 0 1E5EE 5 1E5F0 0 1E6E3 5 1E6E4 0 1E6E6 5 1E6E7",
  "0 1E6EE 5 1E6F0 0 1E6F5 5 1E6FE 0 1E800 1 1E8D0 5 1E922 1 1E944 5 1E94B 1 1EEF0 4 1F150 0",
  "1F16D 4 1F170 0 1F1AD 4 1F1E6 0 1F260 4 20000 0"]

def Direction.ofCode : Nat → Direction
  | 0 => .left
  | 1 => .right
  | 2 => .rightDigit
  | 3 => .digit
  | 4 => .neutral
  | _ => .mark

def direction (c : Char) : Direction := .ofCode (Table.valueAt c.toNat 0 directions)

/-- Whether a character is of a script that is written from the right. -/
def isFromRight (c : Char) : Bool := direction c = .right || direction c = .rightDigit

/-- Whether directions may be in a label from the left that begins with a letter. -/
def runsLeft (ds : List Direction) : Bool :=
  ds.all (fun d => d != .right && d != .rightDigit)
    && (match ds.reverse.dropWhile (· == .mark) with
      | d :: _ => d == .left || d == .digit
      | [] => false)

/-- Whether directions may be in a label from the right that begins with a letter. -/
def runsRight (ds : List Direction) : Bool :=
  ds.all (· != .left)
    && (match ds.reverse.dropWhile (· == .mark) with
      | d :: _ => d == .right || d == .rightDigit || d == .digit
      | [] => false)
    && !(ds.contains .digit && ds.contains .rightDigit)

def isOriented (label : List Char) : Bool :=
  match label.map direction with
  | [] => true
  | .left :: ds => runsLeft (.left :: ds)
  | .right :: ds => runsRight (.right :: ds)
  | _ => false

end PeerRules.Url.Domain
