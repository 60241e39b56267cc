import PeerRules.Text.Composed

/-!
# Joiners in a host name

Two characters show nothing and say only whether the letters on their sides are joined. They may be
in a name where they make a difference: behind a sign that silences a vowel, and the one that parts
letters also between letters that would be joined.
-/
namespace PeerRules.Url.Domain

open Text

/-- Edges of the characters that combine with the one before them. -/
def marks : List Nat := Table.ofLines [
  "300 371 483 48B 591 5BE 5BF 5C0 5C1 5C3 5C4 5C6 5C7 5D0 610 61B 64B 660 670 671 6D6 6DE 6DF",
  "6E5 6E7 6E9 6EA 6EE 711 712 730 74D 7A6 7B1 7EB 7F4 7FD 7FE 816 81A 81B 824 825 828 829 830",
  "859 85E 897 8A0 8CA 904 93A 93D 93E 950 951 960 962 964 981 985 9BC 9BD 9BE 9CE 9D7 9E0 9E2",
  "9E6 9FE A05 A3C A5C A70 A72 A75 A76 A81 A85 ABC ABD ABE AD0 AE2 AE6 AFA B05 B3C B3D B3E B5F",
  "B62 B66 B82 B83 BBE BD0 BD7 BE6 C00 C05 C3C C3D C3E C58 C62 C66 C81 C84 CBC CBD CBE CDC CE2",
  "CE6 CF3 D04 D3B D3D D3E D4E D57 D58 D62 D66 D81 D85 DCA DE6 DF2 DF4 E31 E32 E34 E3F E47 E4F",
  "EB1 EB2 EB4 EBD EC8 ED0 F18 F1A F35 F36 F37 F38 F39 F3A F3E F40 F71 F85 F86 F88 F8D FBE FC6",
  "FC7 102B 103F 1056 105A 105E 1061 1062 1065 1067 106E 1071 1075 1082 108E 108F 1090 109A 109E",
  "135D 1360 1712 171F 1732 1735 1752 1760 1772 1780 17B6 17D4 17DD 17E0 1885 1887 18A9 18AA 1920",
  "1940 1A17 1A1E 1A55 1A80 1AB0 1B05 1B34 1B45 1B6B 1B74 1B80 1B83 1BA1 1BAE 1BE6 1BFC 1C24 1C3B",
  "1CD0 1CD3 1CD4 1CE9 1CED 1CEE 1CF4 1CF5 1CF7 1CFA 1DC0 1E01 20D0 2104 2CEF 2CF3 2D7F 2D80 2DE0",
  "2E00 302A 3030 3099 309D A66F A673 A674 A67E A69E A6A0 A6F0 A6F2 A802 A803 A806 A807 A80B A80C",
  "A823 A828 A82C A830 A880 A882 A8B4 A8CE A8E0 A8F2 A8FF A900 A926 A92E A947 A95F A980 A984 A9B3",
  "A9C1 A9E5 A9E6 AA29 AA40 AA43 AA44 AA4C AA50 AA7B AA7E AAB0 AAB1 AAB2 AAB5 AAB7 AAB9 AABE AAC0",
  "AAC1 AAC2 AAEB AAF0 AAF5 AB01 ABE3 ABEB ABEC ABF0 FB1E FBB2 FE20 FE45 101FD 10280 102E0 102E1",
  "10376 10380 10A01 10A10 10A38 10A40 10AE5 10AEB 10D24 10D30 10D69 10D6E 10EAB 10EAD 10EFA",
  "10F00 10F46 10F51 10F82 10F86 11000 11003 11038 11047 11070 11071 11073 11075 1107F 11083",
  "110B0 110BB 110C2 110D0 11100 11103 11127 11136 11145 11147 11173 11174 11180 11183 111B3",
  "111C1 111C9 111CD 111CE 111D0 1122C 11238 1123E 1123F 11241 11280 112DF 112F0 11300 11305",
  "1133B 1133D 1133E 11350 11357 1135D 11362 11380 113B8 113D1 113D2 113D3 113E1 11400 11435",
  "11447 1145E 1145F 114B0 114C4 115AF 115C1 115DC 11600 11630 11641 116AB 116B8 1171D 11730",
  "1182C 1183B 11930 1193F 11940 11941 11942 11944 119D1 119E1 119E4 11A00 11A01 11A0B 11A33",
  "11A3A 11A3B 11A3F 11A47 11A50 11A51 11A5C 11A8A 11A9A 11B60 11BC0 11C2F 11C40 11C92 11D00",
  "11D31 11D46 11D47 11D50 11D8A 11D98 11EF3 11EF7 11F00 11F02 11F03 11F04 11F34 11F43 11F5A",
  "11FB0 13440 13441 13447 13460 1611E 16130 16AF0 16AF5 16B30 16B37 16F4F 16F50 16F51 16F93",
  "16FE4 16FF2 1BC9D 1BC9F 1CF00 1CF50 1D165 1D16A 1D16D 1D183 1D185 1D18C 1D1AA 1D1AE 1D242",
  "1D245 1DA00 1DA37 1DA3B 1DA6D 1DA75 1DA76 1DA84 1DA85 1DA9B 1DF00 1E000 1E100 1E130 1E137",
  "1E2AE 1E2C0 1E2EC 1E2F0 1E4EC 1E4F0 1E5EE 1E5F0 1E6E3 1E6E4 1E6E6 1E6E7 1E6EE 1E6F0 1E6F5",
  "1E6FE 1E8D0 1E922 1E944 1E94B"]

/-- Runs of characters with how they join: 1 with the letter behind, 2 with the one before, 3 with
both; 4 is passed over. -/
def joinings : List Nat := Table.ofLines [
  "300 4 371 0 483 4 48B 0 591 4 5BE 0 5BF 4 5C0 0 5C1 4 5C3 0 5C4 4 5C6 0 5C7 4 5D0 0 610 4 61B",
  "0 620 3 621 0 622 2 626 3 627 2 628 3 629 2 62A 3 62F 2 633 3 640 0 641 3 648 2 649 3 64B 4",
  "660 0 66E 3 670 4 671 2 674 0 679 3 688 2 69A 3 6C0 2 6C1 3 6C3 2 6CC 3 6CD 2 6CE 3 6CF 2 6D0",
  "3 6D2 2 6D4 0 6D5 2 6D6 4 6DE 0 6DF 4 6E5 0 6E7 4 6E9 0 6EA 4 6EE 2 6F0 0 6FA 3 6FD 0 6FF 3",
  "700 0 710 2 711 4 712 3 715 2 71A 3 71E 2 71F 3 728 2 729 3 72A 2 72B 3 72C 2 72D 3 72F 2 730",
  "4 74D 2 74E 3 759 2 75C 3 76B 2 76D 3 771 2 772 3 773 2 775 3 778 2 77A 3 780 0 7A6 4 7B1 0",
  "7CA 3 7EB 4 7F4 0 7FD 4 7FE 0 816 4 81A 0 81B 4 824 0 825 4 828 0 829 4 830 0 840 2 841 3 846",
  "2 848 3 849 2 84A 3 854 2 855 3 856 2 859 4 85E 0 860 3 861 0 862 3 866 0 867 2 868 3 869 2",
  "883 0 886 3 887 0 889 3 88E 2 88F 3 897 4 8A0 3 8AA 2 8AD 0 8AE 2 8AF 3 8B1 2 8B3 3 8B9 2 8BA",
  "3 8C9 0 8CA 4 903 0 93A 4 93B 0 93C 4 93D 0 941 4 949 0 94D 4 94E 0 951 4 960 0 962 4 964 0",
  "981 4 982 0 9BC 4 9BD 0 9C1 4 9C7 0 9CD 4 9CE 0 9E2 4 9E6 0 9FE 4 A03 0 A3C 4 A3E 0 A41 4 A5C",
  "0 A70 4 A72 0 A75 4 A76 0 A81 4 A83 0 ABC 4 ABD 0 AC1 4 AC9 0 ACD 4 AD0 0 AE2 4 AE6 0 AFA 4",
  "B02 0 B3C 4 B3D 0 B3F 4 B40 0 B41 4 B47 0 B4D 4 B57 0 B62 4 B66 0 B82 4 B83 0 BC0 4 BC1 0 BCD",
  "4 BD0 0 C00 4 C01 0 C04 4 C05 0 C3C 4 C3D 0 C3E 4 C41 0 C46 4 C58 0 C62 4 C66 0 C81 4 C82 0",
  "CBC 4 CBD 0 CBF 4 CC0 0 CC6 4 CC7 0 CCC 4 CD5 0 CE2 4 CE6 0 D00 4 D02 0 D3B 4 D3D 0 D41 4 D46",
  "0 D4D 4 D4E 0 D62 4 D66 0 D81 4 D82 0 DCA 4 DCF 0 DD2 4 DD8 0 E31 4 E32 0 E34 4 E3F 0 E47 4",
  "E4F 0 EB1 4 EB2 0 EB4 4 EBD 0 EC8 4 ED0 0 F18 4 F1A 0 F35 4 F36 0 F37 4 F38 0 F39 4 F3A 0 F71",
  "4 F7F 0 F80 4 F85 0 F86 4 F88 0 F8D 4 FBE 0 FC6 4 FC7 0 102D 4 1031 0 1032 4 1038 0 1039 4",
  "103B 0 103D 4 103F 0 1058 4 105A 0 105E 4 1061 0 1071 4 1075 0 1082 4 1083 0 1085 4 1087 0",
  "108D 4 108E 0 109D 4 109E 0 135D 4 1360 0 1712 4 1715 0 1732 4 1734 0 1752 4 1760 0 1772 4",
  "1780 0 17B7 4 17BE 0 17C6 4 17C7 0 17C9 4 17D4 0 17DD 4 17E0 0 1807 3 1808 0 1820 3 1880 0",
  "1885 4 1887 3 18A9 4 18AA 3 18B0 0 1920 4 1923 0 1927 4 1929 0 1932 4 1933 0 1939 4 1940 0",
  "1A17 4 1A19 0 1A1B 4 1A1E 0 1A56 4 1A57 0 1A58 4 1A61 0 1A62 4 1A63 0 1A65 4 1A6D 0 1A73 4",
  "1A80 0 1AB0 4 1B04 0 1B34 4 1B35 0 1B36 4 1B3B 0 1B3C 4 1B3D 0 1B42 4 1B43 0 1B6B 4 1B74 0",
  "1B80 4 1B82 0 1BA2 4 1BA6 0 1BA8 4 1BAA 0 1BAB 4 1BAE 0 1BE6 4 1BE7 0 1BE8 4 1BEA 0 1BED 4",
  "1BEE 0 1BEF 4 1BF2 0 1C2C 4 1C34 0 1C36 4 1C3B 0 1CD0 4 1CD3 0 1CD4 4 1CE1 0 1CE2 4 1CE9 0",
  "1CED 4 1CEE 0 1CF4 4 1CF5 0 1CF8 4 1CFA 0 1DC0 4 1E01 0 20D0 4 2104 0 2CEF 4 2CF3 0 2D7F 4",
  "2D80 0 2DE0 4 2E00 0 302A 4 302E 0 3099 4 309D 0 A66F 4 A673 0 A674 4 A67E 0 A69E 4 A6A0 0",
  "A6F0 4 A6F2 0 A802 4 A803 0 A806 4 A807 0 A80B 4 A80C 0 A825 4 A827 0 A82C 4 A830 0 A840 3",
  "A872 1 A873 0 A8C4 4 A8CE 0 A8E0 4 A8F2 0 A8FF 4 A900 0 A926 4 A92E 0 A947 4 A952 0 A980 4",
  "A983 0 A9B3 4 A9B4 0 A9B6 4 A9BA 0 A9BC 4 A9BE 0 A9E5 4 A9E6 0 AA29 4 AA2F 0 AA31 4 AA33 0",
  "AA35 4 AA40 0 AA43 4 AA44 0 AA4C 4 AA4D 0 AA7C 4 AA7D 0 AAB0 4 AAB1 0 AAB2 4 AAB5 0 AAB7 4",
  "AAB9 0 AABE 4 AAC0 0 AAC1 4 AAC2 0 AAEC 4 AAEE 0 AAF6 4 AB01 0 ABE5 4 ABE6 0 ABE8 4 ABE9 0",
  "ABED 4 ABF0 0 FB1E 4 FBB2 0 FE20 4 FE45 0 101FD 4 10280 0 102E0 4 102E1 0 10376 4 10380 0",
  "10A01 4 10A10 0 10A38 4 10A40 0 10AC0 3 10AC5 2 10AC6 0 10AC7 2 10AC8 0 10AC9 2 10ACB 0 10ACD",
  "1 10ACE 2 10AD3 3 10AD7 1 10AD8 3 10ADD 2 10ADE 3 10AE1 2 10AE2 0 10AE4 2 10AE5 4 10AEB 3",
  "10AEF 2 10AF0 0 10B80 3 10B81 2 10B82 3 10B83 2 10B86 3 10B89 2 10B8A 3 10B8C 2 10B8D 3 10B8E",
  "2 10B90 3 10B91 2 10B99 0 10BA9 2 10BAD 3 10BAF 0 10D00 1 10D01 3 10D22 2 10D23 3 10D24 4",
  "10D30 0 10D69 4 10D6E 0 10EAB 4 10EAD 0 10EC2 2 10EC3 3 10EC5 0 10EC6 3 10ED0 0 10EFA 4 10F00",
  "0 10F30 3 10F33 2 10F34 3 10F45 0 10F46 4 10F51 3 10F54 2 10F55 0 10F70 3 10F74 2 10F76 3",
  "10F82 4 10F86 0 10FB0 3 10FB1 0 10FB2 3 10FB4 2 10FB7 0 10FB8 3 10FB9 2 10FBB 3 10FBD 2 10FBE",
  "3 10FC0 0 10FC1 3 10FC2 2 10FC4 3 10FC5 0 10FC9 2 10FCA 3 10FCB 1 10FE0 0 11001 4 11002 0",
  "11038 4 11047 0 11070 4 11071 0 11073 4 11075 0 1107F 4 11082 0 110B3 4 110B7 0 110B9 4 110BB",
  "0 110C2 4 110D0 0 11100 4 11103 0 11127 4 1112C 0 1112D 4 11136 0 11173 4 11174 0 11180 4",
  "11182 0 111B6 4 111BF 0 111C9 4 111CD 0 111CF 4 111D0 0 1122F 4 11232 0 11234 4 11235 0 11236",
  "4 11238 0 1123E 4 1123F 0 11241 4 11280 0 112DF 4 112E0 0 112E3 4 112F0 0 11300 4 11302 0",
  "1133B 4 1133D 0 11340 4 11341 0 11366 4 11380 0 113BB 4 113C2 0 113CE 4 113CF 0 113D0 4 113D1",
  "0 113D2 4 113D3 0 113E1 4 11400 0 11438 4 11440 0 11442 4 11445 0 11446 4 11447 0 1145E 4",
  "1145F 0 114B3 4 114B9 0 114BA 4 114BB 0 114BF 4 114C1 0 114C2 4 114C4 0 115B2 4 115B8 0 115BC",
  "4 115BE 0 115BF 4 115C1 0 115DC 4 11600 0 11633 4 1163B 0 1163D 4 1163E 0 1163F 4 11641 0",
  "116AB 4 116AC 0 116AD 4 116AE 0 116B0 4 116B6 0 116B7 4 116B8 0 1171D 4 1171E 0 1171F 4 11720",
  "0 11722 4 11726 0 11727 4 11730 0 1182F 4 11838 0 11839 4 1183B 0 1193B 4 1193D 0 1193E 4",
  "1193F 0 11943 4 11944 0 119D4 4 119DC 0 119E0 4 119E1 0 11A01 4 11A0B 0 11A33 4 11A39 0 11A3B",
  "4 11A3F 0 11A47 4 11A50 0 11A51 4 11A57 0 11A59 4 11A5C 0 11A8A 4 11A97 0 11A98 4 11A9A 0",
  "11B60 4 11B61 0 11B62 4 11B65 0 11B66 4 11B67 0 11C30 4 11C3E 0 11C3F 4 11C40 0 11C92 4 11CA9",
  "0 11CAA 4 11CB1 0 11CB2 4 11CB4 0 11CB5 4 11D00 0 11D31 4 11D46 0 11D47 4 11D50 0 11D90 4",
  "11D93 0 11D95 4 11D96 0 11D97 4 11D98 0 11EF3 4 11EF5 0 11F00 4 11F02 0 11F36 4 11F3E 0 11F40",
  "4 11F41 0 11F42 4 11F43 0 11F5A 4 11FB0 0 13440 4 13441 0 13447 4 13460 0 1611E 4 1612A 0",
  "1612D 4 16130 0 16AF0 4 16AF5 0 16B30 4 16B37 0 16F4F 4 16F50 0 16F8F 4 16F93 0 16FE4 4 16FF0",
  "0 1BC9D 4 1BC9F 0 1CF00 4 1CF50 0 1D167 4 1D16A 0 1D17B 4 1D183 0 1D185 4 1D18C 0 1D1AA 4",
  "1D1AE 0 1D242 4 1D245 0 1DA00 4 1DA37 0 1DA3B 4 1DA6D 0 1DA75 4 1DA76 0 1DA84 4 1DA85 0 1DA9B",
  "4 1DF00 0 1E000 4 1E100 0 1E130 4 1E137 0 1E2AE 4 1E2C0 0 1E2EC 4 1E2F0 0 1E4EC 4 1E4F0 0",
  "1E5EE 4 1E5F0 0 1E6E3 4 1E6E4 0 1E6E6 4 1E6E7 0 1E6EE 4 1E6F0 0 1E6F5 4 1E6FE 0 1E8D0 4 1E922",
  "3 1E944 4 1E950 0"]

def isMark (c : Char) : Bool := Table.within c.toNat marks

def joining (c : Char) : Nat := Table.valueAt c.toNat 0 joinings

/-- The character that parts letters. -/
def nonJoiner : Char := Char.ofNat 0x200C

/-- The character that joins letters. -/
def joiner : Char := Char.ofNat 0x200D

/-- The class of the signs that silence a vowel. -/
def silencer : Nat := 9

/-- Whether the last of the characters before silences a vowel; they come last one first. -/
def isSilenced : List Char → Bool
  | c :: _ => Composed.markClass c == silencer
  | [] => false

/-- Whether the first character that is not passed over joins in one of two ways. -/
def meets (way : Nat) (cs : List Char) : Bool :=
  match cs.dropWhile (joining · == 4) with
  | c :: _ => joining c == way || joining c == 3
  | [] => false

/-- Whether every joiner makes a difference; `before` are the characters before, last one first. -/
def hasPlacedJoiners (before : List Char) : List Char → Bool
  | [] => true
  | c :: cs =>
    (if c = joiner then isSilenced before
      else if c = nonJoiner then isSilenced before || (meets 1 before && meets 2 cs)
      else true)
      && hasPlacedJoiners (c :: before) cs

end PeerRules.Url.Domain
