import PeerRules.Text.Table

/-!
# What the characters of a host name stand for

A host name can be typed in many ways that mean one name: in capitals, in wide or round letters,
with characters that show nothing. Every character stands for itself, for other characters, for
nothing, or must not be there at all.
-/
namespace PeerRules.Url.Domain

open Text

/-- Edges of the characters that must not be in a name. -/
def refused : List Nat := Table.ofLines [
  "80 A0 378 37A 380 384 38B 38C 38D 38E 3A2 3A3 530 531 557 559 58B 58D 590 591 5C8 5D0 5EB 5EF",
  "5F5 606 61C 61D 6DD 6DE 70E 710 74B 74D 7B2 7C0 7FB 7FD 82E 830 83F 840 85C 85E 85F 860 86B",
  "870 890 897 8E2 8E3 984 985 98D 98F 991 993 9A9 9AA 9B1 9B2 9B3 9B6 9BA 9BC 9C5 9C7 9C9 9CB",
  "9CF 9D7 9D8 9DC 9DE 9DF 9E4 9E6 9FF A01 A04 A05 A0B A0F A11 A13 A29 A2A A31 A32 A34 A35 A37",
  "A38 A3A A3C A3D A3E A43 A47 A49 A4B A4E A51 A52 A59 A5D A5E A5F A66 A77 A81 A84 A85 A8E A8F",
  "A92 A93 AA9 AAA AB1 AB2 AB4 AB5 ABA ABC AC6 AC7 ACA ACB ACE AD0 AD1 AE0 AE4 AE6 AF2 AF9 B00",
  "B01 B04 B05 B0D B0F B11 B13 B29 B2A B31 B32 B34 B35 B3A B3C B45 B47 B49 B4B B4E B55 B58 B5C",
  "B5E B5F B64 B66 B78 B82 B84 B85 B8B B8E B91 B92 B96 B99 B9B B9C B9D B9E BA0 BA3 BA5 BA8 BAB",
  "BAE BBA BBE BC3 BC6 BC9 BCA BCE BD0 BD1 BD7 BD8 BE6 BFB C00 C0D C0E C11 C12 C29 C2A C3A C3C",
  "C45 C46 C49 C4A C4E C55 C57 C58 C5B C5C C5E C60 C64 C66 C70 C77 C8D C8E C91 C92 CA9 CAA CB4",
  "CB5 CBA CBC CC5 CC6 CC9 CCA CCE CD5 CD7 CDC CDF CE0 CE4 CE6 CF0 CF1 CF4 D00 D0D D0E D11 D12",
  "D45 D46 D49 D4A D50 D54 D64 D66 D80 D81 D84 D85 D97 D9A DB2 DB3 DBC DBD DBE DC0 DC7 DCA DCB",
  "DCF DD5 DD6 DD7 DD8 DE0 DE6 DF0 DF2 DF5 E01 E3B E3F E5C E81 E83 E84 E85 E86 E8B E8C EA4 EA5",
  "EA6 EA7 EBE EC0 EC5 EC6 EC7 EC8 ECF ED0 EDA EDC EE0 F00 F48 F49 F6D F71 F98 F99 FBD FBE FCD",
  "FCE FDB 1000 10C6 10C7 10C8 10CD 10CE 10D0 1249 124A 124E 1250 1257 1258 1259 125A 125E 1260",
  "1289 128A 128E 1290 12B1 12B2 12B6 12B8 12BF 12C0 12C1 12C2 12C6 12C8 12D7 12D8 1311 1312 1316",
  "1318 135B 135D 137D 1380 139A 13A0 13F6 13F8 13FE 1400 1680 1681 169D 16A0 16F9 1700 1716 171F",
  "1737 1740 1754 1760 176D 176E 1771 1772 1774 1780 17DE 17E0 17EA 17F0 17FA 1800 181A 1820 1879",
  "1880 18AB 18B0 18F6 1900 191F 1920 192C 1930 193C 1940 1941 1944 196E 1970 1975 1980 19AC 19B0",
  "19CA 19D0 19DB 19DE 1A1C 1A1E 1A5F 1A60 1A7D 1A7F 1A8A 1A90 1A9A 1AA0 1AAE 1AB0 1ADE 1AE0 1AEC",
  "1B00 1B4D 1B4E 1BF4 1BFC 1C38 1C3B 1C4A 1C4D 1C8B 1C90 1CBB 1CBD 1CC8 1CD0 1CFB 1D00 1F16 1F18",
  "1F1E 1F20 1F46 1F48 1F4E 1F50 1F58 1F59 1F5A 1F5B 1F5C 1F5D 1F5E 1F5F 1F7E 1F80 1FB5 1FB6 1FC5",
  "1FC6 1FD4 1FD6 1FDC 1FDD 1FF0 1FF2 1FF5 1FF6 1FFF 2000 200E 2010 2024 2027 2028 202F 2065 206A",
  "2072 2074 208F 2090 209D 20A0 20C2 20D0 20F1 2100 218C 2190 242A 2440 244B 2460 2488 249C 2B74",
  "2B76 2CF4 2CF9 2D26 2D27 2D28 2D2D 2D2E 2D30 2D68 2D6F 2D71 2D7F 2D97 2DA0 2DA7 2DA8 2DAF 2DB0",
  "2DB7 2DB8 2DBF 2DC0 2DC7 2DC8 2DCF 2DD0 2DD7 2DD8 2DDF 2DE0 2E5E 2E80 2E9A 2E9B 2EF4 2F00 2FD6",
  "3000 3040 3041 3097 3099 3100 3105 3130 3131 318F 3190 31E6 31F0 321F 3220 33C2 33C3 33C7 33C8",
  "33D8 33D9 A48D A490 A4C7 A4D0 A62C A640 A6F8 A700 A7DD A7F1 A82D A830 A83A A840 A878 A880 A8C6",
  "A8CE A8DA A8E0 A954 A95F A97D A980 A9CE A9CF A9DA A9DE A9FF AA00 AA37 AA40 AA4E AA50 AA5A AA5C",
  "AAC3 AADB AAF7 AB01 AB07 AB09 AB0F AB11 AB17 AB20 AB27 AB28 AB2F AB30 AB6C AB70 ABEE ABF0 ABFA",
  "AC00 D7A4 D7B0 D7C7 D7CB D7FC F900 FA6E FA70 FADA FB00 FB07 FB13 FB18 FB1D FB37 FB38 FB3D FB3E",
  "FB3F FB40 FB42 FB43 FB45 FB46 FDD0 FDF0 FE12 FE13 FE19 FE20 FE30 FE31 FE52 FE54 FE67 FE68 FE6C",
  "FE70 FE75 FE76 FEFD FEFF FF00 FF01 FFBF FFC2 FFC8 FFCA FFD0 FFD2 FFD8 FFDA FFDD FFE0 FFE7 FFE8",
  "FFEF 10000 1000C 1000D 10027 10028 1003B 1003C 1003E 1003F 1004E 10050 1005E 10080 100FB 10100",
  "10103 10107 10134 10137 1018F 10190 1019D 101A0 101A1 101D0 101FE 10280 1029D 102A0 102D1",
  "102E0 102FC 10300 10324 1032D 1034B 10350 1037B 10380 1039E 1039F 103C4 103C8 103D6 10400",
  "1049E 104A0 104AA 104B0 104D4 104D8 104FC 10500 10528 10530 10564 1056F 1057B 1057C 1058B",
  "1058C 10593 10594 10596 10597 105A2 105A3 105B2 105B3 105BA 105BB 105BD 105C0 105F4 10600",
  "10737 10740 10756 10760 10768 10780 10786 10787 107B1 107B2 107BB 10800 10806 10808 10809",
  "1080A 10836 10837 10839 1083C 1083D 1083F 10856 10857 1089F 108A7 108B0 108E0 108F3 108F4",
  "108F6 108FB 1091C 1091F 1093A 1093F 1095A 10980 109B8 109BC 109D0 109D2 10A04 10A05 10A07",
  "10A0C 10A14 10A15 10A18 10A19 10A36 10A38 10A3B 10A3F 10A49 10A50 10A59 10A60 10AA0 10AC0",
  "10AE7 10AEB 10AF7 10B00 10B36 10B39 10B56 10B58 10B73 10B78 10B92 10B99 10B9D 10BA9 10BB0",
  "10C00 10C49 10C80 10CB3 10CC0 10CF3 10CFA 10D28 10D30 10D3A 10D40 10D66 10D69 10D86 10D8E",
  "10D90 10E60 10E7F 10E80 10EAA 10EAB 10EAE 10EB0 10EB2 10EC2 10EC8 10ED0 10ED9 10EFA 10F28",
  "10F30 10F5A 10F70 10F8A 10FB0 10FCC 10FE0 10FF7 11000 1104E 11052 11076 1107F 110BD 110BE",
  "110C3 110D0 110E9 110F0 110FA 11100 11135 11136 11148 11150 11177 11180 111E0 111E1 111F5",
  "11200 11212 11213 11242 11280 11287 11288 11289 1128A 1128E 1128F 1129E 1129F 112AA 112B0",
  "112EB 112F0 112FA 11300 11304 11305 1130D 1130F 11311 11313 11329 1132A 11331 11332 11334",
  "11335 1133A 1133B 11345 11347 11349 1134B 1134E 11350 11351 11357 11358 1135D 11364 11366",
  "1136D 11370 11375 11380 1138A 1138B 1138C 1138E 1138F 11390 113B6 113B7 113C1 113C2 113C3",
  "113C5 113C6 113C7 113CB 113CC 113D6 113D7 113D9 113E1 113E3 11400 1145C 1145D 11462 11480",
  "114C8 114D0 114DA 11580 115B6 115B8 115DE 11600 11645 11650 1165A 11660 1166D 11680 116BA",
  "116C0 116CA 116D0 116E4 11700 1171B 1171D 1172C 11730 11747 11800 1183C 118A0 118F3 118FF",
  "11907 11909 1190A 1190C 11914 11915 11917 11918 11936 11937 11939 1193B 11947 11950 1195A",
  "119A0 119A8 119AA 119D8 119DA 119E5 11A00 11A48 11A50 11AA3 11AB0 11AF9 11B00 11B0A 11B60",
  "11B68 11BC0 11BE2 11BF0 11BFA 11C00 11C09 11C0A 11C37 11C38 11C46 11C50 11C6D 11C70 11C90",
  "11C92 11CA8 11CA9 11CB7 11D00 11D07 11D08 11D0A 11D0B 11D37 11D3A 11D3B 11D3C 11D3E 11D3F",
  "11D48 11D50 11D5A 11D60 11D66 11D67 11D69 11D6A 11D8F 11D90 11D92 11D93 11D99 11DA0 11DAA",
  "11DB0 11DDC 11DE0 11DEA 11EE0 11EF9 11F00 11F11 11F12 11F3B 11F3E 11F5B 11FB0 11FB1 11FC0",
  "11FF2 11FFF 1239A 12400 1246F 12470 12475 12480 12544 12F90 12FF3 13000 13430 13440 13456",
  "13460 143FB 14400 14647 16100 1613A 16800 16A39 16A40 16A5F 16A60 16A6A 16A6E 16ABF 16AC0",
  "16ACA 16AD0 16AEE 16AF0 16AF6 16B00 16B46 16B50 16B5A 16B5B 16B62 16B63 16B78 16B7D 16B90",
  "16D40 16D7A 16E40 16E9B 16EA0 16EB9 16EBB 16ED4 16F00 16F4B 16F4F 16F88 16F8F 16FA0 16FE0",
  "16FE5 16FF0 16FF7 17000 18CD6 18CFF 18D1F 18D80 18DF3 1AFF0 1AFF4 1AFF5 1AFFC 1AFFD 1AFFF",
  "1B000 1B123 1B132 1B133 1B150 1B153 1B155 1B156 1B164 1B168 1B170 1B2FC 1BC00 1BC6B 1BC70",
  "1BC7D 1BC80 1BC89 1BC90 1BC9A 1BC9C 1BCA4 1CC00 1CCFD 1CD00 1CEB4 1CEBA 1CED1 1CEE0 1CEF1",
  "1CF00 1CF2E 1CF30 1CF47 1CF50 1CFC4 1D000 1D0F6 1D100 1D127 1D129 1D1EB 1D200 1D246 1D2C0",
  "1D2D4 1D2E0 1D2F4 1D300 1D357 1D360 1D379 1D400 1D455 1D456 1D49D 1D49E 1D4A0 1D4A2 1D4A3",
  "1D4A5 1D4A7 1D4A9 1D4AD 1D4AE 1D4BA 1D4BB 1D4BC 1D4BD 1D4C4 1D4C5 1D506 1D507 1D50B 1D50D",
  "1D515 1D516 1D51D 1D51E 1D53A 1D53B 1D53F 1D540 1D545 1D546 1D547 1D54A 1D551 1D552 1D6A6",
  "1D6A8 1D7CC 1D7CE 1DA8C 1DA9B 1DAA0 1DAA1 1DAB0 1DF00 1DF1F 1DF25 1DF2B 1E000 1E007 1E008",
  "1E019 1E01B 1E022 1E023 1E025 1E026 1E02B 1E030 1E06E 1E08F 1E090 1E100 1E12D 1E130 1E13E",
  "1E140 1E14A 1E14E 1E150 1E290 1E2AF 1E2C0 1E2FA 1E2FF 1E300 1E4D0 1E4FA 1E5D0 1E5FB 1E5FF",
  "1E600 1E6C0 1E6DF 1E6E0 1E6F6 1E6FE 1E700 1E7E0 1E7E7 1E7E8 1E7EC 1E7ED 1E7EF 1E7F0 1E7FF",
  "1E800 1E8C5 1E8C7 1E8D7 1E900 1E94C 1E950 1E95A 1E95E 1E960 1EC71 1ECB5 1ED01 1ED3E 1EE00",
  "1EE04 1EE05 1EE20 1EE21 1EE23 1EE24 1EE25 1EE27 1EE28 1EE29 1EE33 1EE34 1EE38 1EE39 1EE3A",
  "1EE3B 1EE3C 1EE42 1EE43 1EE47 1EE48 1EE49 1EE4A 1EE4B 1EE4C 1EE4D 1EE50 1EE51 1EE53 1EE54",
  "1EE55 1EE57 1EE58 1EE59 1EE5A 1EE5B 1EE5C 1EE5D 1EE5E 1EE5F 1EE60 1EE61 1EE63 1EE64 1EE65",
  "1EE67 1EE6B 1EE6C 1EE73 1EE74 1EE78 1EE79 1EE7D 1EE7E 1EE7F 1EE80 1EE8A 1EE8B 1EE9C 1EEA1",
  "1EEA4 1EEA5 1EEAA 1EEAB 1EEBC 1EEF0 1EEF2 1F000 1F02C 1F030 1F094 1F0A0 1F0AF 1F0B1 1F0C0",
  "1F0C1 1F0D0 1F0D1 1F0F6 1F101 1F1AE 1F1E6 1F203 1F210 1F23C 1F240 1F249 1F250 1F252 1F260",
  "1F266 1F300 1F6D9 1F6DC 1F6ED 1F6F0 1F6FD 1F700 1F7DA 1F7E0 1F7EC 1F7F0 1F7F1 1F800 1F80C",
  "1F810 1F848 1F850 1F85A 1F860 1F888 1F890 1F8AE 1F8B0 1F8BC 1F8C0 1F8C2 1F8D0 1F8D9 1F900",
  "1FA58 1FA60 1FA6E 1FA70 1FA7D 1FA80 1FA8B 1FA8E 1FAC7 1FAC8 1FAC9 1FACD 1FADD 1FADF 1FAEB",
  "1FAEF 1FAF9 1FB00 1FB93 1FB94 1FBFB 20000 2A6E0 2A700 2B81E 2B820 2CEAE 2CEB0 2EBE1 2EBF0",
  "2EE5E 2F800 2FA1E 30000 3134B 31350 3347A E0100 E01F0"]

/-- Edges of the characters that stand for nothing. -/
def ignored : List Nat := Table.ofLines [
  "AD AE 34F 350 115F 1161 17B4 17B6 180B 1810 200B 200C 2060 2065 206A 2070 3164 3165 FE00 FE10",
  "FEFF FF00 FFA0 FFA1 1BCA0 1BCA4 1D173 1D17B E0100 E01F0"]

/-- Edges of the ranges in which every second character, from the first one, stands for the next. -/
def alternating : List Nat := Table.ofLines [
  "100 12F 139 13E 141 148 14A 177 179 17E 1A0 1A5 1CD 1DC 1DE 1EF 1F8 21F 222 233 246 24F 3D8",
  "3EF 460 481 48A 4BF 4C1 4CE 4D0 52F 1E00 1E95 1EA0 1EFF 2C67 2C6C 2C80 2CE3 A640 A66D A680",
  "A69B A722 A72F A732 A76F A77E A787 A796 A7A9 A7B4 A7C3 A7CC A7DB"]

/-- Ranges of characters that stand for those of another range: first, count, and first of the
others. -/
def shifted : List Nat := Table.ofLines [
  "41 1A 61 C0 17 E0 D8 7 F8 391 11 3B1 3A3 9 3C3 400 10 450 410 20 430 531 26 561 10A0 26 2D00",
  "13F8 6 13F0 1C90 2B 10D0 1D33 8 67 1DAE 4 272 1F08 8 1F00 1F18 6 1F10 1F28 8 1F20 1F38 8 1F30",
  "1F48 6 1F40 1F68 8 1F60 2074 6 34 2080 A 30 2096 4 6B 2135 4 5D0 2460 9 31 24B6 1A 61 24D0 1A",
  "61 2C00 30 2C30 313A 6 11B0 3145 A 1109 314F 15 1161 3178 5 112B 3269 5 110E 32E4 6 30CA 32EE",
  "5 30DE 32F5 6 30E8 32FB 4 30EF AB70 50 13A0 FE41 4 300C FF01 20 21 FF21 1A 61 FF3B 24 5B FF85",
  "6 30CA FF8F 5 30DE FF96 6 30E8 FFAA 6 11B0 FFB5 A 1109 FFC2 6 1161 FFCA 6 1167 FFD2 6 116D",
  "FFE9 4 2190 10400 28 10428 104B0 24 104D8 10570 B 10597 1057C F 105A3 1058C 7 105B3 10C80 33",
  "10CC0 10D50 16 10D70 118A0 20 118C0 16E40 20 16E60 16EA0 19 16EBB 1CCD6 1A 61 1CCF0 A 30 1D400",
  "1A 61 1D41A 1A 61 1D434 1A 61 1D44E 7 61 1D456 12 69 1D468 1A 61 1D482 1A 61 1D4A9 4 6E 1D4AE",
  "8 73 1D4B6 4 61 1D4BD 7 68 1D4C5 B 70 1D4D0 1A 61 1D4EA 1A 61 1D507 4 64 1D50D 8 6A 1D516 7 73",
  "1D51E 1A 61 1D53B 4 64 1D540 5 69 1D54A 7 73 1D552 1A 61 1D56C 1A 61 1D586 1A 61 1D5A0 1A 61",
  "1D5BA 1A 61 1D5D4 1A 61 1D5EE 1A 61 1D608 1A 61 1D622 1A 61 1D63C 1A 61 1D656 1A 61 1D670 1A",
  "61 1D68A 1A 61 1D6A8 11 3B1 1D6BA 7 3C3 1D6C2 11 3B1 1D6D4 7 3C3 1D6E2 11 3B1 1D6F4 7 3C3",
  "1D6FC 11 3B1 1D70E 7 3C3 1D71C 11 3B1 1D72E 7 3C3 1D736 11 3B1 1D748 7 3C3 1D756 11 3B1 1D768",
  "7 3C3 1D770 11 3B1 1D782 7 3C3 1D790 11 3B1 1D7A2 7 3C3 1D7AA 11 3B1 1D7BC 7 3C3 1D7CE A 30",
  "1D7D8 A 30 1D7E2 A 30 1D7EC A 30 1D7F6 A 30 1E030 9 430 1E03C B 43E 1E051 9 430 1E05F 6 443",
  "1E900 22 1E922 1EE0A 4 643 1EE2A 4 643 1F130 1A 61 1FBF0 A 30"]

/-- Blocks of characters that stand for one other; zero marks one that does not. -/
def replaced : List Nat := Table.ofLines [
  "A0 1 20 AA 1 61 B2 4 32 33 0 3BC B9 2 31 6F 134 3 135 0 137 178 1 FF 17F 1A 73 0 253 183 0 185",
  "0 254 188 0 256 257 18C 0 0 1DD 259 25B 192 0 260 263 0 269 268 199 19C 4 26F 272 0 275 1A6 13",
  "280 1A8 0 283 0 0 1AD 0 288 1B0 0 28A 28B 1B4 0 1B6 0 292 1B9 1BC 1 1BD 1F4 4 1F5 0 195 1BF",
  "220 1 19E 23A C 2C65 23C 0 19A 2C66 0 0 242 0 180 289 28C 2B0 9 68 266 6A 72 279 27B 281 77 79",
  "2E0 5 263 6C 73 78 295 340 6 300 301 0 313 0 3B9 370 7 371 0 373 0 2B9 0 377 37E 2 3B 3F3 386",
  "A 3AC B7 3AD 3AE 3AF 0 3CC 0 3CD 3CE 3CF 8 3D7 3B2 3B8 3C5 3CD 3CB 3C6 3C0 3F0 10 3BA 3C1 3C3",
  "0 3B8 3B5 0 3F8 0 3C3 3FB 0 0 37B 37C 37D 4C0 1 4CF F0C 1 F0B 10C7 1 2D27 10CD 1 2D2D 10FC 1",
  "10DC 1C80 A 432 434 43E 441 442 442 44A 463 A64B 1C8A 1CBD 3 10FD 10FE 10FF 1D2C 7 61 E6 62 0",
  "64 65 1DD 1D3C 2F 6F 223 70 72 74 75 77 61 250 251 1D02 62 64 65 259 25B 25C 67 0 6B 6D 14B 6F",
  "254 1D16 1D17 70 74 75 1D1D 26F 76 1D25 3B2 3B3 3B4 3C6 3C7 69 72 75 76 3B2 3B3 3C1 3C6 3C7",
  "1D78 1 43D 1D9B 13 252 63 255 F0 25C 66 25F 261 265 268 269 26A 1D7B 29D 26D 1D85 29F 271 270",
  "1DB2 E 278 282 283 1AB 289 28A 1D1C 28B 28C 7A 290 291 292 3B8 1E9B 4 1E61 0 0 DF 1F59 7 1F51",
  "0 1F53 0 1F55 0 1F57 1F71 D 3AC 0 3AD 0 3AE 0 3AF 0 3CC 0 3CD 0 3CE 1FB8 7 1FB0 1FB1 1F70 3AC",
  "0 0 3B9 1FC8 4 1F72 3AD 1F74 3AE 1FD3 1 390 1FD8 4 1FD0 1FD1 1F76 3AF 1FE3 1 3B0 1FE8 8 1FE0",
  "1FE1 1F7A 3CD 1FE5 0 0 60 1FF8 4 1F78 3CC 1F7C 3CE 2000 B 20 20 20 20 20 20 20 20 20 20 20",
  "2011 1 2010 202F 1 20 205F 1 20 2070 2 30 69 207A 6 2B 2212 3D 28 29 6E 208A C 2B 2212 3D 28",
  "29 0 61 65 6F 78 259 68 209A 3 70 73 74 2102 1 63 2107 F 25B 0 0 67 68 68 68 68 127 69 69 6C",
  "6C 0 6E 2119 5 70 71 72 72 72 2124 11 7A 0 3C9 0 7A 0 6B E5 62 63 0 65 65 66 214E 6D 6F 2139 8",
  "69 0 0 3C0 3B3 3B3 3C0 2211 2145 5 64 64 65 69 6A 2160 1 69 2164 1 76 2169 8 78 0 0 6C 63 64",
  "6D 69 2174 1 76 2179 7 78 0 0 6C 63 64 6D 2183 1 2184 2329 2 3008 3009 24EA 1 30 2C60 5 2C61 0",
  "26B 1D7D 27D 2C6D 9 251 271 250 252 0 2C73 0 0 2C76 2C7C 4 6A 76 23F 240 2CEB 3 2CEC 0 2CEE",
  "2CF2 1 2CF3 2D6F 1 2D61 2E9F 1 6BCD 2EF3 1 9F9F 2F00 D6 4E00 4E28 4E36 4E3F 4E59 4E85 4E8C",
  "4EA0 4EBA 513F 5165 516B 5182 5196 51AB 51E0 51F5 5200 529B 52F9 5315 531A 5338 5341 535C 5369",
  "5382 53B6 53C8 53E3 56D7 571F 58EB 5902 590A 5915 5927 5973 5B50 5B80 5BF8 5C0F 5C22 5C38 5C6E",
  "5C71 5DDB 5DE5 5DF1 5DFE 5E72 5E7A 5E7F 5EF4 5EFE 5F0B 5F13 5F50 5F61 5F73 5FC3 6208 6236 624B",
  "652F 6534 6587 6597 65A4 65B9 65E0 65E5 66F0 6708 6728 6B20 6B62 6B79 6BB3 6BCB 6BD4 6BDB 6C0F",
  "6C14 6C34 706B 722A 7236 723B 723F 7247 7259 725B 72AC 7384 7389 74DC 74E6 7518 751F 7528 7530",
  "758B 7592 7676 767D 76AE 76BF 76EE 77DB 77E2 77F3 793A 79B8 79BE 7A74 7ACB 7AF9 7C73 7CF8 7F36",
  "7F51 7F8A 7FBD 8001 800C 8012 8033 807F 8089 81E3 81EA 81F3 81FC 820C 821B 821F 826E 8272 8278",
  "864D 866B 8840 884C 8863 897E 898B 89D2 8A00 8C37 8C46 8C55 8C78 8C9D 8D64 8D70 8DB3 8EAB 8ECA",
  "8F9B 8FB0 8FB5 9091 9149 91C6 91CC 91D1 9577 9580 961C 96B6 96B9 96E8 9751 975E 9762 9769 97CB",
  "97ED 97F3 9801 98A8 98DB 98DF 9996 9999 99AC 9AA8 9AD8 9ADF 9B25 9B2F 9B32 9B3C 9B5A 9CE5 9E75",
  "9E7F 9EA5 9EBB 9EC3 9ECD 9ED1 9EF9 9EFD 9F0E 9F13 9F20 9F3B 9F4A 9F52 9F8D 9F9C 9FA0 3000 3 20",
  "0 2E 3036 5 3012 0 5341 5344 5345 3131 9 1100 1101 11AA 1102 11AC 11AD 1103 1104 1105 3140 5",
  "111A 1106 1107 1108 1121 3165 13 1114 1115 11C7 11C8 11CC 11CE 11D3 11D7 11D9 111C 11DD 11DF",
  "111D 111E 1120 1122 1123 1127 1129 317D 12 1132 1136 1140 1147 114C 11F1 11F2 1157 1158 1159",
  "1184 1185 1188 1191 1192 1194 119E 11A1 3192 E 4E00 4E8C 4E09 56DB 4E0A 4E2D 4E0B 7532 4E59",
  "4E19 4E01 5929 5730 4EBA 3244 4 554F 5E7C 6587 7B8F 3260 9 1100 1102 1103 1105 1106 1107 1109",
  "110B 110C 326E 43 AC00 B098 B2E4 B77C B9C8 BC14 C0AC C544 C790 CC28 CE74 D0C0 D30C D558 0 0",
  "C6B0 0 4E00 4E8C 4E09 56DB 4E94 516D 4E03 516B 4E5D 5341 6708 706B 6C34 6728 91D1 571F 65E5",
  "682A 6709 793E 540D 7279 8CA1 795D 52B4 79D8 7537 5973 9069 512A 5370 6CE8 9805 4F11 5199 6B63",
  "4E0A 4E2D 4E0B 5DE6 53F3 533B 5B97 5B66 76E3 4F01 8CC7 5354 591C 32D0 14 30A2 30A4 30A6 30A8",
  "30AA 30AB 30AD 30AF 30B1 30B3 30B5 30B7 30B9 30BB 30BD 30BF 30C1 30C4 30C6 30C8 32EA 4 30D2",
  "30D5 30D8 30DB 32F3 2 30E4 30E6 A69C 2 44A 44C A770 1 A76F A779 5 A77A 0 A77C 0 1D79 A78B 8",
  "A78C 0 265 0 0 A791 0 A793 A7AA A 266 25C 261 26C 26A 0 29E 287 29D AB53 A7C4 8 A794 282 1D8E",
  "A7C8 0 A7CA 0 264 A7DC 1 19B A7F1 9 73 63 66 71 A7F6 0 0 127 153 AB5C 4 A727 AB37 26B AB52",
  "AB69 1 28D F900 127 8C48 66F4 8ECA 8CC8 6ED1 4E32 53E5 9F9C 9F9C 5951 91D1 5587 5948 61F6 7669",
  "7F85 863F 87BA 88F8 908F 6A02 6D1B 70D9 73DE 843D 916A 99F1 4E82 5375 6B04 721B 862D 9E1E 5D50",
  "6FEB 85CD 8964 62C9 81D8 881F 5ECA 6717 6D6A 72FC 90CE 4F86 51B7 52DE 64C4 6AD3 7210 76E7 8001",
  "8606 865C 8DEF 9732 9B6F 9DFA 788C 797F 7DA0 83C9 9304 9E7F 8AD6 58DF 5F04 7C60 807E 7262 78CA",
  "8CC2 96F7 58D8 5C62 6A13 6DDA 6F0F 7D2F 7E37 964B 52D2 808B 51DC 51CC 7A1C 7DBE 83F1 9675 8B80",
  "62CF 6A02 8AFE 4E39 5BE7 6012 7387 7570 5317 78FB 4FBF 5FA9 4E0D 6CCC 6578 7D22 53C3 585E 7701",
  "8449 8AAA 6BBA 8FB0 6C88 62FE 82E5 63A0 7565 4EAE 5169 51C9 6881 7CE7 826F 8AD2 91CF 52F5 5442",
  "5973 5EEC 65C5 6FFE 792A 95AD 9A6A 9E97 9ECE 529B 66C6 6B77 8F62 5E74 6190 6200 649A 6F23 7149",
  "7489 79CA 7DF4 806F 8F26 84EE 9023 934A 5217 52A3 54BD 70C8 88C2 8AAA 5EC9 5FF5 637B 6BAE 7C3E",
  "7375 4EE4 56F9 5BE7 5DBA 601C 73B2 7469 7F9A 8046 9234 96F6 9748 9818 4F8B 79AE 91B4 96B8 60E1",
  "4E86 50DA 5BEE 5C3F 6599 6A02 71CE 7642 84FC 907C 9F8D 6688 962E 5289 677B 67F3 6D41 6E9C 7409",
  "7559 786B 7D10 985E 516D 622E 9678 502B 5D19 6DEA 8F2A 5F8B 6144 6817 7387 9686 5229 540F 5C65",
  "6613 674E 68A8 6CE5 7406 75E2 7F79 88CF 88E1 91CC 96E2 533F 6EBA 541D 71D0 7498 85FA 96A3 9C57",
  "9E9F 6797 6DCB 81E8 7ACB 7B20 7C92 72C0 7099 8B58 4EC0 8336 523A 5207 5EA6 62D3 7CD6 5B85 6D1E",
  "66B4 8F3B 884C 964D 898B 5ED3 5140 55C0 0 0 585A 0 6674 0 0 51DE 732A 76CA 793C 795E 7965 798F",
  "9756 7CBE 7FBD 0 8612 0 8AF8 0 0 9038 90FD FA2A B0 98EF 98FC 9928 9DB4 90DE 96B7 4FAE 50E7",
  "514D 52C9 52E4 5351 559D 5606 5668 5840 58A8 5C64 5C6E 6094 6168 618E 61F2 654F 65E2 6691 6885",
  "6D77 6E1A 6F22 716E 722B 7422 7891 793E 7949 7948 7950 7956 795D 798D 798E 7A40 7A81 7BC0 7DF4",
  "7E09 7E41 7F72 8005 81ED 8279 8279 8457 8910 8996 8B01 8B39 8CD3 8D08 8FB6 9038 96E3 97FF 983B",
  "6075 242EE 8218 0 0 4E26 51B5 5168 4F80 5145 5180 52C7 52FA 559D 5555 5599 55E2 585A 58B3 5944",
  "5954 5A62 5B28 5ED2 5ED9 5F69 5FAD 60D8 614E 6108 618E 6160 61F2 6234 63C4 641C 6452 6556 6674",
  "6717 671B 6756 6B79 6BBA 6D41 6EDB 6ECB 6F22 701E 716E 77A7 7235 72AF 732A 7471 7506 753B 761D",
  "761F 76CA 76DB 76F4 774A 7740 78CC 7AB1 7BC0 7C7B 7D5B 7DF4 7F3E 8005 8352 83EF 8779 8941 8986",
  "8996 8ABF 8AF8 8ACB 8B01 8AFE 8AED 8B39 8B8A 8D08 8F38 9072 9199 9276 967C 96E3 9756 97DB 97FF",
  "980B 983B 9B12 9F9C 2284A 22844 233D5 3B9D 4018 4039 25249 25CD0 27ED3 9F43 9F8E FB20 A 5E2",
  "5D0 5D3 5D4 5DB 5DC 5DD 5E8 5EA 2B FB50 62 671 671 67B 67B 67B 67B 67E 67E 67E 67E 680 680 680",
  "680 67A 67A 67A 67A 67F 67F 67F 67F 679 679 679 679 6A4 6A4 6A4 6A4 6A6 6A6 6A6 6A6 684 684",
  "684 684 683 683 683 683 686 686 686 686 687 687 687 687 68D 68D 68C 68C 68E 68E 688 688 698",
  "698 691 691 6A9 6A9 6A9 6A9 6AF 6AF 6AF 6AF 6B3 6B3 6B3 6B3 6B1 6B1 6B1 6B1 6BA 6BA 6BB 6BB",
  "6BB 6BB 6C0 6C0 6C1 6C1 6C1 6C1 6BE 6BE 6BE 6BE 6D2 6D2 6D3 6D3 FBD3 17 6AD 6AD 6AD 6AD 6C7",
  "6C7 6C6 6C6 6C8 6C8 0 6CB 6CB 6C5 6C5 6C9 6C9 6D0 6D0 6D0 6D0 649 649 FBFC 4 6CC 6CC 6CC 6CC",
  "FE10 9 2C 3001 0 3A 3B 21 3F 3016 3017 FE31 10 2014 2013 5F 5F 28 29 7B 7D 3014 3015 3010 3011",
  "300A 300B 3008 3009 FE47 2 5B 5D FE4D 1F 5F 5F 5F 2C 3001 0 0 3B 3A 3F 21 2014 28 29 7B 7D",
  "3014 3015 23 26 2A 2B 2D 3C 3E 3D 0 5C 24 25 40 FE80 75 621 622 622 623 623 624 624 625 625",
  "626 626 626 626 627 627 628 628 628 628 629 629 62A 62A 62A 62A 62B 62B 62B 62B 62C 62C 62C",
  "62C 62D 62D 62D 62D 62E 62E 62E 62E 62F 62F 630 630 631 631 632 632 633 633 633 633 634 634",
  "634 634 635 635 635 635 636 636 636 636 637 637 637 637 638 638 638 638 639 639 639 639 63A",
  "63A 63A 63A 641 641 641 641 642 642 642 642 643 643 643 643 644 644 644 644 645 645 645 645",
  "646 646 646 646 647 647 647 647 648 648 649 649 64A 64A 64A 64A FF5F 26 2985 2986 2E 300C 300D",
  "3001 30FB 30F2 30A1 30A3 30A5 30A7 30A9 30E3 30E5 30E7 30C3 30FC 30A2 30A4 30A6 30A8 30AA 30AB",
  "30AD 30AF 30B1 30B3 30B5 30B7 30B9 30BB 30BD 30BF 30C1 30C4 30C6 30C8 FF8B 4 30D2 30D5 30D8",
  "30DB FF94 2 30E4 30E6 FF9C E 30EF 30F3 3099 309A 0 1100 1101 11AA 1102 11AC 11AD 1103 1104",
  "1105 FFB0 5 111A 1106 1107 1108 1121 FFDA 3 1173 1174 1175 FFE0 9 A2 A3 AC 0 A6 A5 20A9 0 2502",
  "FFED 2 25A0 25CB 10594 2 105BB 105BC 10781 3A 2D0 2D1 E6 299 253 0 2A3 AB66 2A5 2A4 256 257",
  "1D91 258 25E 2A9 264 262 260 29B 127 29C 267 284 2AA 2AB 26C 1DF04 A78E 26E 1DF05 28E 1DF06 F8",
  "276 277 71 27A 1DF08 27D 27E 280 2A8 2A6 AB67 2A7 288 2C71 0 28F 2A1 2A2 298 1C0 1C1 1C2 1DF0A",
  "1DF1E 1D49C B 61 0 63 64 0 0 67 0 0 6A 6B 1D4BB 1 66 1D504 2 61 62 1D538 2 61 62 1D546 1 6F",
  "1D6A4 2 131 237 1D6B9 1 3B8 1D6C1 1 2207 1D6D3 1 3C3 1D6DB 7 2202 3B5 3B8 3BA 3C6 3C1 3C0",
  "1D6F3 1 3B8 1D6FB 1 2207 1D70D 1 3C3 1D715 7 2202 3B5 3B8 3BA 3C6 3C1 3C0 1D72D 1 3B8 1D735 1",
  "2207 1D747 1 3C3 1D74F 7 2202 3B5 3B8 3BA 3C6 3C1 3C0 1D767 1 3B8 1D76F 1 2207 1D781 1 3C3",
  "1D789 7 2202 3B5 3B8 3BA 3C6 3C1 3C0 1D7A1 1 3B8 1D7A9 1 2207 1D7BB 1 3C3 1D7C3 9 2202 3B5 3B8",
  "3BA 3C6 3C1 3C0 3DD 3DD 1E039 3 43A 43B 43C 1E047 A 44B 44D 44E A689 4D9 456 458 4E9 4AF 4CF",
  "1E05A 5 43A 43B 43E 43F 441 1E065 9 44A 44B 491 456 455 45F 4AB A651 4B1 1EE00 A 627 628 62C",
  "62F 0 648 632 62D 637 64A 1EE0E 1C 633 639 641 635 642 631 634 62A 62B 62E 630 636 638 63A 66E",
  "6BA 6A1 66F 0 628 62C 0 647 0 0 62D 0 64A 1EE2E E 633 639 641 635 642 0 634 62A 62B 62E 0 636",
  "0 63A 1EE42 1 62C 1EE47 55 62D 0 64A 0 644 0 646 633 639 0 635 642 0 634 0 0 62E 0 636 0 63A 0",
  "6BA 0 66F 0 628 62C 0 647 0 0 62D 637 64A 643 0 645 646 633 639 641 635 642 0 634 62A 62B 62E",
  "0 636 638 63A 66E 0 6A1 0 627 628 62C 62F 647 648 632 62D 637 64A 0 644 645 646 633 639 641",
  "635 642 631 634 62A 62B 62E 630 636 638 63A 1EEA1 1B 628 62C 62F 0 648 632 62D 637 64A 0 644",
  "645 646 633 639 641 635 642 631 634 62A 62B 62E 630 636 638 63A 1F12B 2 63 72 1F202 1 30B5",
  "1F210 2C 624B 5B57 53CC 30C7 4E8C 591A 89E3 5929 4EA4 6620 7121 6599 524D 5F8C 518D 65B0 521D",
  "7D42 751F 8CA9 58F0 5439 6F14 6295 6355 4E00 4E09 904A 5DE6 4E2D 53F3 6307 8D70 6253 7981 7A7A",
  "5408 6E80 6709 6708 7533 5272 55B6 914D 1F250 2 5F97 53EF 2F800 21E 4E3D 4E38 4E41 20122 4F60",
  "4FAE 4FBB 5002 507A 5099 50E7 50CF 349E 2063A 514D 5154 5164 5177 2051C 34B9 5167 518D 2054B",
  "5197 51A4 4ECC 51AC 51B5 291DF 51F5 5203 34DF 523B 5246 5272 5277 3515 52C7 52C9 52E4 52FA",
  "5305 5306 5317 5349 5351 535A 5373 537D 537F 537F 537F 20A2C 7070 53CA 53DF 20B63 53EB 53F1",
  "5406 549E 5438 5448 5468 54A2 54F6 5510 5553 5563 5584 5584 5599 55AB 55B3 55C2 5716 5606 5717",
  "5651 5674 5207 58EE 57CE 57F4 580D 578B 5832 5831 58AC 214E4 58F2 58F7 5906 591A 5922 5962",
  "216A8 216EA 59EC 5A1B 5A27 59D8 5A66 36EE 36FC 5B08 5B3E 5B3E 219C8 5BC3 5BD8 5BE7 5BF3 21B18",
  "5BFF 5C06 5F53 5C22 3781 5C60 5C6E 5CC0 5C8D 21DE4 5D43 21DE6 5D6E 5D6B 5D7C 5DE1 5DE2 382F",
  "5DFD 5E28 5E3D 5E69 3862 22183 387C 5EB0 5EB3 5EB6 5ECA 2A392 5EFE 22331 22331 8201 5F22 5F22",
  "38C7 232B8 261DA 5F62 5F6B 38E3 5F9A 5FCD 5FD7 5FF9 6081 393A 391C 6094 226D4 60C7 6148 614C",
  "614E 614C 617A 618E 61B2 61A4 61AF 61DE 61F2 61F6 6210 621B 625D 62B1 62D4 6350 22B0C 633D",
  "62FC 6368 6383 63E4 22BF1 6422 63C5 63A9 3A2E 6469 647E 649D 6477 3A6C 654F 656C 2300A 65E3",
  "66F8 6649 3B19 6691 3B08 3AE4 5192 5195 6700 669C 80AD 43D9 6717 671B 6721 675E 6753 233C3",
  "3B49 67FA 6785 6852 6885 2346D 688E 681F 6914 3B9D 6942 69A3 69EA 6AA8 236A3 6ADB 3C18 6B21",
  "238A7 6B54 3C4E 6B72 6B9F 6BBA 6BBB 23A8D 21D0B 23AFA 6C4E 23CBC 6CBF 6CCD 6C67 6D16 6D3E 6D77",
  "6D41 6D69 6D78 6D85 23D1E 6D34 6E2F 6E6E 3D33 6ECB 6EC7 23ED1 6DF9 6F6E 23F5E 23F8E 6FC6 7039",
  "701E 701B 3D96 704A 707D 7077 70AD 20525 7145 24263 719C 243AB 7228 7235 7250 24608 7280 7295",
  "24735 24814 737A 738B 3EAC 73A5 3EB8 3EB8 7447 745C 7471 7485 74CA 3F1B 7524 24C36 753E 24C92",
  "7570 2219F 7610 24FA1 24FB8 25044 3FFC 4008 76F4 250F3 250F2 25119 25133 771E 771F 771F 774A",
  "4039 778B 4046 4096 2541D 784E 788C 78CC 40E3 25626 7956 2569A 256C5 798F 79EB 412F 7A40 7A4A",
  "7A4F 2597C 25AA7 25AA7 7AEE 4202 25BAB 7BC6 7BC9 4227 25C80 7CD2 42A0 7CE8 7CE3 7D00 25F86",
  "7D63 4301 7DC7 7E02 7E45 4334 26228 26247 4359 262D9 7F7A 2633E 7F95 7FFA 8005 264DA 26523",
  "8060 265A8 8070 2335F 43D5 80B2 8103 440B 813E 5AB5 267A7 267B5 23393 2339C 8201 8204 8F9E",
  "446B 8291 828B 829D 52B3 82B1 82B3 82BD 82E6 26B3C 82E5 831D 8363 83AD 8323 83BD 83E7 8457",
  "8353 83CA 83CC 83DC 26C36 26D6B 26CD5 452B 84F1 84F3 8516 273CA 8564 26F2C 455D 4561 26FB1",
  "270D2 456B 8650 865C 8667 8669 86A9 8688 870E 86E2 8779 8728 876B 8786 45D7 87E1 8801 45F9",
  "8860 8863 27667 88D7 88DE 4635 88FA 34BB 278AE 27966 46BE 46C7 8AA0 8AED 8B8A 8C55 27CA8 8CAB",
  "8CC1 8D1B 8D77 27F2F 20804 8DCB 8DBC 8DF0 208DE 8ED4 8F38 285D2 285ED 9094 90F1 9111 2872E",
  "911B 9238 92D7 92D8 927C 93F9 9415 28BFA 958B 4995 95B7 28D77 49E6 96C3 5DB2 9723 29145 2921A",
  "4A6E 4A76 97E0 2940A 4AB2 29496 980B 980B 9829 295B6 98E2 4B33 9929 99A7 99C2 99FE 4BCE 29B30",
  "9B12 9C40 9CFD 4CCE 4CED 9D67 2A0CE 4CF8 2A105 2A20E 2A291 9EBB 4D56 9EF9 9EFE 9F05 9F0F 9F16",
  "9F3B 2A600"]

/-- Characters that stand for several others. -/
def spelled : List Nat := Table.ofLines [
  "A8 2 20 308 AF 2 20 304 B4 2 20 301 B8 2 20 327 BC 3 31 2044 34 BD 3 31 2044 32 BE 3 33 2044",
  "34 130 2 69 307 132 2 69 6A 133 2 69 6A 13F 2 6C B7 140 2 6C B7 149 2 2BC 6E 1C4 2 64 17E 1C5",
  "2 64 17E 1C6 2 64 17E 1C7 2 6C 6A 1C8 2 6C 6A 1C9 2 6C 6A 1CA 2 6E 6A 1CB 2 6E 6A 1CC 2 6E 6A",
  "1F1 2 64 7A 1F2 2 64 7A 1F3 2 64 7A 2D8 2 20 306 2D9 2 20 307 2DA 2 20 30A 2DB 2 20 328 2DC 2",
  "20 303 2DD 2 20 30B 344 2 308 301 37A 2 20 3B9 384 2 20 301 385 3 20 308 301 587 2 565 582 675",
  "2 627 674 676 2 648 674 677 2 6C7 674 678 2 64A 674 958 2 915 93C 959 2 916 93C 95A 2 917 93C",
  "95B 2 91C 93C 95C 2 921 93C 95D 2 922 93C 95E 2 92B 93C 95F 2 92F 93C 9DC 2 9A1 9BC 9DD 2 9A2",
  "9BC 9DF 2 9AF 9BC A33 2 A32 A3C A36 2 A38 A3C A59 2 A16 A3C A5A 2 A17 A3C A5B 2 A1C A3C A5E 2",
  "A2B A3C B5C 2 B21 B3C B5D 2 B22 B3C E33 2 E4D E32 EB3 2 ECD EB2 EDC 2 EAB E99 EDD 2 EAB EA1",
  "F43 2 F42 FB7 F4D 2 F4C FB7 F52 2 F51 FB7 F57 2 F56 FB7 F5C 2 F5B FB7 F69 2 F40 FB5 F73 2 F71",
  "F72 F75 2 F71 F74 F76 2 FB2 F80 F77 3 FB2 F71 F80 F78 2 FB3 F80 F79 3 FB3 F71 F80 F81 2 F71",
  "F80 F93 2 F92 FB7 F9D 2 F9C FB7 FA2 2 FA1 FB7 FA7 2 FA6 FB7 FAC 2 FAB FB7 FB9 2 F90 FB5 1E9A 2",
  "61 2BE 1F80 2 1F00 3B9 1F81 2 1F01 3B9 1F82 2 1F02 3B9 1F83 2 1F03 3B9 1F84 2 1F04 3B9 1F85 2",
  "1F05 3B9 1F86 2 1F06 3B9 1F87 2 1F07 3B9 1F88 2 1F00 3B9 1F89 2 1F01 3B9 1F8A 2 1F02 3B9 1F8B",
  "2 1F03 3B9 1F8C 2 1F04 3B9 1F8D 2 1F05 3B9 1F8E 2 1F06 3B9 1F8F 2 1F07 3B9 1F90 2 1F20 3B9",
  "1F91 2 1F21 3B9 1F92 2 1F22 3B9 1F93 2 1F23 3B9 1F94 2 1F24 3B9 1F95 2 1F25 3B9 1F96 2 1F26",
  "3B9 1F97 2 1F27 3B9 1F98 2 1F20 3B9 1F99 2 1F21 3B9 1F9A 2 1F22 3B9 1F9B 2 1F23 3B9 1F9C 2",
  "1F24 3B9 1F9D 2 1F25 3B9 1F9E 2 1F26 3B9 1F9F 2 1F27 3B9 1FA0 2 1F60 3B9 1FA1 2 1F61 3B9 1FA2",
  "2 1F62 3B9 1FA3 2 1F63 3B9 1FA4 2 1F64 3B9 1FA5 2 1F65 3B9 1FA6 2 1F66 3B9 1FA7 2 1F67 3B9",
  "1FA8 2 1F60 3B9 1FA9 2 1F61 3B9 1FAA 2 1F62 3B9 1FAB 2 1F63 3B9 1FAC 2 1F64 3B9 1FAD 2 1F65",
  "3B9 1FAE 2 1F66 3B9 1FAF 2 1F67 3B9 1FB2 2 1F70 3B9 1FB3 2 3B1 3B9 1FB4 2 3AC 3B9 1FB7 2 1FB6",
  "3B9 1FBC 2 3B1 3B9 1FBD 2 20 313 1FBF 2 20 313 1FC0 2 20 342 1FC1 3 20 308 342 1FC2 2 1F74 3B9",
  "1FC3 2 3B7 3B9 1FC4 2 3AE 3B9 1FC7 2 1FC6 3B9 1FCC 2 3B7 3B9 1FCD 3 20 313 300 1FCE 3 20 313",
  "301 1FCF 3 20 313 342 1FDD 3 20 314 300 1FDE 3 20 314 301 1FDF 3 20 314 342 1FED 3 20 308 300",
  "1FEE 3 20 308 301 1FF2 2 1F7C 3B9 1FF3 2 3C9 3B9 1FF4 2 3CE 3B9 1FF7 2 1FF6 3B9 1FFC 2 3C9 3B9",
  "1FFD 2 20 301 1FFE 2 20 314 2017 2 20 333 2033 2 2032 2032 2034 3 2032 2032 2032 2036 2 2035",
  "2035 2037 3 2035 2035 2035 203C 2 21 21 203E 2 20 305 2047 2 3F 3F 2048 2 3F 21 2049 2 21 3F",
  "2057 4 2032 2032 2032 2032 20A8 2 72 73 2100 3 61 2F 63 2101 3 61 2F 73 2103 2 B0 63 2105 3 63",
  "2F 6F 2106 3 63 2F 75 2109 2 B0 66 2116 2 6E 6F 2120 2 73 6D 2121 3 74 65 6C 2122 2 74 6D 213B",
  "3 66 61 78 2150 3 31 2044 37 2151 3 31 2044 39 2152 4 31 2044 31 30 2153 3 31 2044 33 2154 3",
  "32 2044 33 2155 3 31 2044 35 2156 3 32 2044 35 2157 3 33 2044 35 2158 3 34 2044 35 2159 3 31",
  "2044 36 215A 3 35 2044 36 215B 3 31 2044 38 215C 3 33 2044 38 215D 3 35 2044 38 215E 3 37 2044",
  "38 215F 2 31 2044 2161 2 69 69 2162 3 69 69 69 2163 2 69 76 2165 2 76 69 2166 3 76 69 69 2167",
  "4 76 69 69 69 2168 2 69 78 216A 2 78 69 216B 3 78 69 69 2171 2 69 69 2172 3 69 69 69 2173 2 69",
  "76 2175 2 76 69 2176 3 76 69 69 2177 4 76 69 69 69 2178 2 69 78 217A 2 78 69 217B 3 78 69 69",
  "2189 3 30 2044 33 222C 2 222B 222B 222D 3 222B 222B 222B 222F 2 222E 222E 2230 3 222E 222E",
  "222E 2469 2 31 30 246A 2 31 31 246B 2 31 32 246C 2 31 33 246D 2 31 34 246E 2 31 35 246F 2 31",
  "36 2470 2 31 37 2471 2 31 38 2472 2 31 39 2473 2 32 30 2474 3 28 31 29 2475 3 28 32 29 2476 3",
  "28 33 29 2477 3 28 34 29 2478 3 28 35 29 2479 3 28 36 29 247A 3 28 37 29 247B 3 28 38 29 247C",
  "3 28 39 29 247D 4 28 31 30 29 247E 4 28 31 31 29 247F 4 28 31 32 29 2480 4 28 31 33 29 2481 4",
  "28 31 34 29 2482 4 28 31 35 29 2483 4 28 31 36 29 2484 4 28 31 37 29 2485 4 28 31 38 29 2486 4",
  "28 31 39 29 2487 4 28 32 30 29 249C 3 28 61 29 249D 3 28 62 29 249E 3 28 63 29 249F 3 28 64 29",
  "24A0 3 28 65 29 24A1 3 28 66 29 24A2 3 28 67 29 24A3 3 28 68 29 24A4 3 28 69 29 24A5 3 28 6A",
  "29 24A6 3 28 6B 29 24A7 3 28 6C 29 24A8 3 28 6D 29 24A9 3 28 6E 29 24AA 3 28 6F 29 24AB 3 28",
  "70 29 24AC 3 28 71 29 24AD 3 28 72 29 24AE 3 28 73 29 24AF 3 28 74 29 24B0 3 28 75 29 24B1 3",
  "28 76 29 24B2 3 28 77 29 24B3 3 28 78 29 24B4 3 28 79 29 24B5 3 28 7A 29 2A0C 4 222B 222B 222B",
  "222B 2A74 3 3A 3A 3D 2A75 2 3D 3D 2A76 3 3D 3D 3D 2ADC 2 2ADD 338 309B 2 20 3099 309C 2 20",
  "309A 309F 2 3088 308A 30FF 2 30B3 30C8 3200 3 28 1100 29 3201 3 28 1102 29 3202 3 28 1103 29",
  "3203 3 28 1105 29 3204 3 28 1106 29 3205 3 28 1107 29 3206 3 28 1109 29 3207 3 28 110B 29 3208",
  "3 28 110C 29 3209 3 28 110E 29 320A 3 28 110F 29 320B 3 28 1110 29 320C 3 28 1111 29 320D 3 28",
  "1112 29 320E 3 28 AC00 29 320F 3 28 B098 29 3210 3 28 B2E4 29 3211 3 28 B77C 29 3212 3 28 B9C8",
  "29 3213 3 28 BC14 29 3214 3 28 C0AC 29 3215 3 28 C544 29 3216 3 28 C790 29 3217 3 28 CC28 29",
  "3218 3 28 CE74 29 3219 3 28 D0C0 29 321A 3 28 D30C 29 321B 3 28 D558 29 321C 3 28 C8FC 29 321D",
  "4 28 C624 C804 29 321E 4 28 C624 D6C4 29 3220 3 28 4E00 29 3221 3 28 4E8C 29 3222 3 28 4E09 29",
  "3223 3 28 56DB 29 3224 3 28 4E94 29 3225 3 28 516D 29 3226 3 28 4E03 29 3227 3 28 516B 29 3228",
  "3 28 4E5D 29 3229 3 28 5341 29 322A 3 28 6708 29 322B 3 28 706B 29 322C 3 28 6C34 29 322D 3 28",
  "6728 29 322E 3 28 91D1 29 322F 3 28 571F 29 3230 3 28 65E5 29 3231 3 28 682A 29 3232 3 28 6709",
  "29 3233 3 28 793E 29 3234 3 28 540D 29 3235 3 28 7279 29 3236 3 28 8CA1 29 3237 3 28 795D 29",
  "3238 3 28 52B4 29 3239 3 28 4EE3 29 323A 3 28 547C 29 323B 3 28 5B66 29 323C 3 28 76E3 29 323D",
  "3 28 4F01 29 323E 3 28 8CC7 29 323F 3 28 5354 29 3240 3 28 796D 29 3241 3 28 4F11 29 3242 3 28",
  "81EA 29 3243 3 28 81F3 29 3250 3 70 74 65 3251 2 32 31 3252 2 32 32 3253 2 32 33 3254 2 32 34",
  "3255 2 32 35 3256 2 32 36 3257 2 32 37 3258 2 32 38 3259 2 32 39 325A 2 33 30 325B 2 33 31",
  "325C 2 33 32 325D 2 33 33 325E 2 33 34 325F 2 33 35 327C 2 CC38 ACE0 327D 2 C8FC C758 32B1 2",
  "33 36 32B2 2 33 37 32B3 2 33 38 32B4 2 33 39 32B5 2 34 30 32B6 2 34 31 32B7 2 34 32 32B8 2 34",
  "33 32B9 2 34 34 32BA 2 34 35 32BB 2 34 36 32BC 2 34 37 32BD 2 34 38 32BE 2 34 39 32BF 2 35 30",
  "32C0 2 31 6708 32C1 2 32 6708 32C2 2 33 6708 32C3 2 34 6708 32C4 2 35 6708 32C5 2 36 6708 32C6",
  "2 37 6708 32C7 2 38 6708 32C8 2 39 6708 32C9 3 31 30 6708 32CA 3 31 31 6708 32CB 3 31 32 6708",
  "32CC 2 68 67 32CD 3 65 72 67 32CE 2 65 76 32CF 3 6C 74 64 32FF 2 4EE4 548C 3300 4 30A2 30D1",
  "30FC 30C8 3301 4 30A2 30EB 30D5 30A1 3302 4 30A2 30F3 30DA 30A2 3303 3 30A2 30FC 30EB 3304 4",
  "30A4 30CB 30F3 30B0 3305 3 30A4 30F3 30C1 3306 3 30A6 30A9 30F3 3307 5 30A8 30B9 30AF 30FC",
  "30C9 3308 4 30A8 30FC 30AB 30FC 3309 3 30AA 30F3 30B9 330A 3 30AA 30FC 30E0 330B 3 30AB 30A4",
  "30EA 330C 4 30AB 30E9 30C3 30C8 330D 4 30AB 30ED 30EA 30FC 330E 3 30AC 30ED 30F3 330F 3 30AC",
  "30F3 30DE 3310 2 30AE 30AC 3311 3 30AE 30CB 30FC 3312 4 30AD 30E5 30EA 30FC 3313 4 30AE 30EB",
  "30C0 30FC 3314 2 30AD 30ED 3315 5 30AD 30ED 30B0 30E9 30E0 3316 6 30AD 30ED 30E1 30FC 30C8",
  "30EB 3317 5 30AD 30ED 30EF 30C3 30C8 3318 3 30B0 30E9 30E0 3319 5 30B0 30E9 30E0 30C8 30F3",
  "331A 5 30AF 30EB 30BC 30A4 30ED 331B 4 30AF 30ED 30FC 30CD 331C 3 30B1 30FC 30B9 331D 3 30B3",
  "30EB 30CA 331E 3 30B3 30FC 30DD 331F 4 30B5 30A4 30AF 30EB 3320 5 30B5 30F3 30C1 30FC 30E0",
  "3321 4 30B7 30EA 30F3 30B0 3322 3 30BB 30F3 30C1 3323 3 30BB 30F3 30C8 3324 3 30C0 30FC 30B9",
  "3325 2 30C7 30B7 3326 2 30C9 30EB 3327 2 30C8 30F3 3328 2 30CA 30CE 3329 3 30CE 30C3 30C8 332A",
  "3 30CF 30A4 30C4 332B 5 30D1 30FC 30BB 30F3 30C8 332C 3 30D1 30FC 30C4 332D 4 30D0 30FC 30EC",
  "30EB 332E 5 30D4 30A2 30B9 30C8 30EB 332F 3 30D4 30AF 30EB 3330 2 30D4 30B3 3331 2 30D3 30EB",
  "3332 5 30D5 30A1 30E9 30C3 30C9 3333 4 30D5 30A3 30FC 30C8 3334 5 30D6 30C3 30B7 30A7 30EB",
  "3335 3 30D5 30E9 30F3 3336 5 30D8 30AF 30BF 30FC 30EB 3337 2 30DA 30BD 3338 3 30DA 30CB 30D2",
  "3339 3 30D8 30EB 30C4 333A 3 30DA 30F3 30B9 333B 3 30DA 30FC 30B8 333C 3 30D9 30FC 30BF 333D 4",
  "30DD 30A4 30F3 30C8 333E 3 30DC 30EB 30C8 333F 2 30DB 30F3 3340 3 30DD 30F3 30C9 3341 3 30DB",
  "30FC 30EB 3342 3 30DB 30FC 30F3 3343 4 30DE 30A4 30AF 30ED 3344 3 30DE 30A4 30EB 3345 3 30DE",
  "30C3 30CF 3346 3 30DE 30EB 30AF 3347 5 30DE 30F3 30B7 30E7 30F3 3348 4 30DF 30AF 30ED 30F3",
  "3349 2 30DF 30EA 334A 5 30DF 30EA 30D0 30FC 30EB 334B 2 30E1 30AC 334C 4 30E1 30AC 30C8 30F3",
  "334D 4 30E1 30FC 30C8 30EB 334E 3 30E4 30FC 30C9 334F 3 30E4 30FC 30EB 3350 3 30E6 30A2 30F3",
  "3351 4 30EA 30C3 30C8 30EB 3352 2 30EA 30E9 3353 3 30EB 30D4 30FC 3354 4 30EB 30FC 30D6 30EB",
  "3355 2 30EC 30E0 3356 5 30EC 30F3 30C8 30B2 30F3 3357 3 30EF 30C3 30C8 3358 2 30 70B9 3359 2",
  "31 70B9 335A 2 32 70B9 335B 2 33 70B9 335C 2 34 70B9 335D 2 35 70B9 335E 2 36 70B9 335F 2 37",
  "70B9 3360 2 38 70B9 3361 2 39 70B9 3362 3 31 30 70B9 3363 3 31 31 70B9 3364 3 31 32 70B9 3365",
  "3 31 33 70B9 3366 3 31 34 70B9 3367 3 31 35 70B9 3368 3 31 36 70B9 3369 3 31 37 70B9 336A 3 31",
  "38 70B9 336B 3 31 39 70B9 336C 3 32 30 70B9 336D 3 32 31 70B9 336E 3 32 32 70B9 336F 3 32 33",
  "70B9 3370 3 32 34 70B9 3371 3 68 70 61 3372 2 64 61 3373 2 61 75 3374 3 62 61 72 3375 2 6F 76",
  "3376 2 70 63 3377 2 64 6D 3378 3 64 6D 32 3379 3 64 6D 33 337A 2 69 75 337B 2 5E73 6210 337C 2",
  "662D 548C 337D 2 5927 6B63 337E 2 660E 6CBB 337F 4 682A 5F0F 4F1A 793E 3380 2 70 61 3381 2 6E",
  "61 3382 2 3BC 61 3383 2 6D 61 3384 2 6B 61 3385 2 6B 62 3386 2 6D 62 3387 2 67 62 3388 3 63 61",
  "6C 3389 4 6B 63 61 6C 338A 2 70 66 338B 2 6E 66 338C 2 3BC 66 338D 2 3BC 67 338E 2 6D 67 338F",
  "2 6B 67 3390 2 68 7A 3391 3 6B 68 7A 3392 3 6D 68 7A 3393 3 67 68 7A 3394 3 74 68 7A 3395 2",
  "3BC 6C 3396 2 6D 6C 3397 2 64 6C 3398 2 6B 6C 3399 2 66 6D 339A 2 6E 6D 339B 2 3BC 6D 339C 2",
  "6D 6D 339D 2 63 6D 339E 2 6B 6D 339F 3 6D 6D 32 33A0 3 63 6D 32 33A1 2 6D 32 33A2 3 6B 6D 32",
  "33A3 3 6D 6D 33 33A4 3 63 6D 33 33A5 2 6D 33 33A6 3 6B 6D 33 33A7 3 6D 2215 73 33A8 4 6D 2215",
  "73 32 33A9 2 70 61 33AA 3 6B 70 61 33AB 3 6D 70 61 33AC 3 67 70 61 33AD 3 72 61 64 33AE 5 72",
  "61 64 2215 73 33AF 6 72 61 64 2215 73 32 33B0 2 70 73 33B1 2 6E 73 33B2 2 3BC 73 33B3 2 6D 73",
  "33B4 2 70 76 33B5 2 6E 76 33B6 2 3BC 76 33B7 2 6D 76 33B8 2 6B 76 33B9 2 6D 76 33BA 2 70 77",
  "33BB 2 6E 77 33BC 2 3BC 77 33BD 2 6D 77 33BE 2 6B 77 33BF 2 6D 77 33C0 2 6B 3C9 33C1 2 6D 3C9",
  "33C3 2 62 71 33C4 2 63 63 33C5 2 63 64 33C6 4 63 2215 6B 67 33C8 2 64 62 33C9 2 67 79 33CA 2",
  "68 61 33CB 2 68 70 33CC 2 69 6E 33CD 2 6B 6B 33CE 2 6B 6D 33CF 2 6B 74 33D0 2 6C 6D 33D1 2 6C",
  "6E 33D2 3 6C 6F 67 33D3 2 6C 78 33D4 2 6D 62 33D5 3 6D 69 6C 33D6 3 6D 6F 6C 33D7 2 70 68 33D9",
  "3 70 70 6D 33DA 2 70 72 33DB 2 73 72 33DC 2 73 76 33DD 2 77 62 33DE 3 76 2215 6D 33DF 3 61",
  "2215 6D 33E0 2 31 65E5 33E1 2 32 65E5 33E2 2 33 65E5 33E3 2 34 65E5 33E4 2 35 65E5 33E5 2 36",
  "65E5 33E6 2 37 65E5 33E7 2 38 65E5 33E8 2 39 65E5 33E9 3 31 30 65E5 33EA 3 31 31 65E5 33EB 3",
  "31 32 65E5 33EC 3 31 33 65E5 33ED 3 31 34 65E5 33EE 3 31 35 65E5 33EF 3 31 36 65E5 33F0 3 31",
  "37 65E5 33F1 3 31 38 65E5 33F2 3 31 39 65E5 33F3 3 32 30 65E5 33F4 3 32 31 65E5 33F5 3 32 32",
  "65E5 33F6 3 32 33 65E5 33F7 3 32 34 65E5 33F8 3 32 35 65E5 33F9 3 32 36 65E5 33FA 3 32 37 65E5",
  "33FB 3 32 38 65E5 33FC 3 32 39 65E5 33FD 3 33 30 65E5 33FE 3 33 31 65E5 33FF 3 67 61 6C FB00 2",
  "66 66 FB01 2 66 69 FB02 2 66 6C FB03 3 66 66 69 FB04 3 66 66 6C FB05 2 73 74 FB06 2 73 74 FB13",
  "2 574 576 FB14 2 574 565 FB15 2 574 56B FB16 2 57E 576 FB17 2 574 56D FB1D 2 5D9 5B4 FB1F 2",
  "5F2 5B7 FB2A 2 5E9 5C1 FB2B 2 5E9 5C2 FB2C 3 5E9 5BC 5C1 FB2D 3 5E9 5BC 5C2 FB2E 2 5D0 5B7",
  "FB2F 2 5D0 5B8 FB30 2 5D0 5BC FB31 2 5D1 5BC FB32 2 5D2 5BC FB33 2 5D3 5BC FB34 2 5D4 5BC FB35",
  "2 5D5 5BC FB36 2 5D6 5BC FB38 2 5D8 5BC FB39 2 5D9 5BC FB3A 2 5DA 5BC FB3B 2 5DB 5BC FB3C 2",
  "5DC 5BC FB3E 2 5DE 5BC FB40 2 5E0 5BC FB41 2 5E1 5BC FB43 2 5E3 5BC FB44 2 5E4 5BC FB46 2 5E6",
  "5BC FB47 2 5E7 5BC FB48 2 5E8 5BC FB49 2 5E9 5BC FB4A 2 5EA 5BC FB4B 2 5D5 5B9 FB4C 2 5D1 5BF",
  "FB4D 2 5DB 5BF FB4E 2 5E4 5BF FB4F 2 5D0 5DC FBDD 2 6C7 674 FBEA 2 626 627 FBEB 2 626 627 FBEC",
  "2 626 6D5 FBED 2 626 6D5 FBEE 2 626 648 FBEF 2 626 648 FBF0 2 626 6C7 FBF1 2 626 6C7 FBF2 2",
  "626 6C6 FBF3 2 626 6C6 FBF4 2 626 6C8 FBF5 2 626 6C8 FBF6 2 626 6D0 FBF7 2 626 6D0 FBF8 2 626",
  "6D0 FBF9 2 626 649 FBFA 2 626 649 FBFB 2 626 649 FC00 2 626 62C FC01 2 626 62D FC02 2 626 645",
  "FC03 2 626 649 FC04 2 626 64A FC05 2 628 62C FC06 2 628 62D FC07 2 628 62E FC08 2 628 645 FC09",
  "2 628 649 FC0A 2 628 64A FC0B 2 62A 62C FC0C 2 62A 62D FC0D 2 62A 62E FC0E 2 62A 645 FC0F 2",
  "62A 649 FC10 2 62A 64A FC11 2 62B 62C FC12 2 62B 645 FC13 2 62B 649 FC14 2 62B 64A FC15 2 62C",
  "62D FC16 2 62C 645 FC17 2 62D 62C FC18 2 62D 645 FC19 2 62E 62C FC1A 2 62E 62D FC1B 2 62E 645",
  "FC1C 2 633 62C FC1D 2 633 62D FC1E 2 633 62E FC1F 2 633 645 FC20 2 635 62D FC21 2 635 645 FC22",
  "2 636 62C FC23 2 636 62D FC24 2 636 62E FC25 2 636 645 FC26 2 637 62D FC27 2 637 645 FC28 2",
  "638 645 FC29 2 639 62C FC2A 2 639 645 FC2B 2 63A 62C FC2C 2 63A 645 FC2D 2 641 62C FC2E 2 641",
  "62D FC2F 2 641 62E FC30 2 641 645 FC31 2 641 649 FC32 2 641 64A FC33 2 642 62D FC34 2 642 645",
  "FC35 2 642 649 FC36 2 642 64A FC37 2 643 627 FC38 2 643 62C FC39 2 643 62D FC3A 2 643 62E FC3B",
  "2 643 644 FC3C 2 643 645 FC3D 2 643 649 FC3E 2 643 64A FC3F 2 644 62C FC40 2 644 62D FC41 2",
  "644 62E FC42 2 644 645 FC43 2 644 649 FC44 2 644 64A FC45 2 645 62C FC46 2 645 62D FC47 2 645",
  "62E FC48 2 645 645 FC49 2 645 649 FC4A 2 645 64A FC4B 2 646 62C FC4C 2 646 62D FC4D 2 646 62E",
  "FC4E 2 646 645 FC4F 2 646 649 FC50 2 646 64A FC51 2 647 62C FC52 2 647 645 FC53 2 647 649 FC54",
  "2 647 64A FC55 2 64A 62C FC56 2 64A 62D FC57 2 64A 62E FC58 2 64A 645 FC59 2 64A 649 FC5A 2",
  "64A 64A FC5B 2 630 670 FC5C 2 631 670 FC5D 2 649 670 FC5E 3 20 64C 651 FC5F 3 20 64D 651 FC60",
  "3 20 64E 651 FC61 3 20 64F 651 FC62 3 20 650 651 FC63 3 20 651 670 FC64 2 626 631 FC65 2 626",
  "632 FC66 2 626 645 FC67 2 626 646 FC68 2 626 649 FC69 2 626 64A FC6A 2 628 631 FC6B 2 628 632",
  "FC6C 2 628 645 FC6D 2 628 646 FC6E 2 628 649 FC6F 2 628 64A FC70 2 62A 631 FC71 2 62A 632 FC72",
  "2 62A 645 FC73 2 62A 646 FC74 2 62A 649 FC75 2 62A 64A FC76 2 62B 631 FC77 2 62B 632 FC78 2",
  "62B 645 FC79 2 62B 646 FC7A 2 62B 649 FC7B 2 62B 64A FC7C 2 641 649 FC7D 2 641 64A FC7E 2 642",
  "649 FC7F 2 642 64A FC80 2 643 627 FC81 2 643 644 FC82 2 643 645 FC83 2 643 649 FC84 2 643 64A",
  "FC85 2 644 645 FC86 2 644 649 FC87 2 644 64A FC88 2 645 627 FC89 2 645 645 FC8A 2 646 631 FC8B",
  "2 646 632 FC8C 2 646 645 FC8D 2 646 646 FC8E 2 646 649 FC8F 2 646 64A FC90 2 649 670 FC91 2",
  "64A 631 FC92 2 64A 632 FC93 2 64A 645 FC94 2 64A 646 FC95 2 64A 649 FC96 2 64A 64A FC97 2 626",
  "62C FC98 2 626 62D FC99 2 626 62E FC9A 2 626 645 FC9B 2 626 647 FC9C 2 628 62C FC9D 2 628 62D",
  "FC9E 2 628 62E FC9F 2 628 645 FCA0 2 628 647 FCA1 2 62A 62C FCA2 2 62A 62D FCA3 2 62A 62E FCA4",
  "2 62A 645 FCA5 2 62A 647 FCA6 2 62B 645 FCA7 2 62C 62D FCA8 2 62C 645 FCA9 2 62D 62C FCAA 2",
  "62D 645 FCAB 2 62E 62C FCAC 2 62E 645 FCAD 2 633 62C FCAE 2 633 62D FCAF 2 633 62E FCB0 2 633",
  "645 FCB1 2 635 62D FCB2 2 635 62E FCB3 2 635 645 FCB4 2 636 62C FCB5 2 636 62D FCB6 2 636 62E",
  "FCB7 2 636 645 FCB8 2 637 62D FCB9 2 638 645 FCBA 2 639 62C FCBB 2 639 645 FCBC 2 63A 62C FCBD",
  "2 63A 645 FCBE 2 641 62C FCBF 2 641 62D FCC0 2 641 62E FCC1 2 641 645 FCC2 2 642 62D FCC3 2",
  "642 645 FCC4 2 643 62C FCC5 2 643 62D FCC6 2 643 62E FCC7 2 643 644 FCC8 2 643 645 FCC9 2 644",
  "62C FCCA 2 644 62D FCCB 2 644 62E FCCC 2 644 645 FCCD 2 644 647 FCCE 2 645 62C FCCF 2 645 62D",
  "FCD0 2 645 62E FCD1 2 645 645 FCD2 2 646 62C FCD3 2 646 62D FCD4 2 646 62E FCD5 2 646 645 FCD6",
  "2 646 647 FCD7 2 647 62C FCD8 2 647 645 FCD9 2 647 670 FCDA 2 64A 62C FCDB 2 64A 62D FCDC 2",
  "64A 62E FCDD 2 64A 645 FCDE 2 64A 647 FCDF 2 626 645 FCE0 2 626 647 FCE1 2 628 645 FCE2 2 628",
  "647 FCE3 2 62A 645 FCE4 2 62A 647 FCE5 2 62B 645 FCE6 2 62B 647 FCE7 2 633 645 FCE8 2 633 647",
  "FCE9 2 634 645 FCEA 2 634 647 FCEB 2 643 644 FCEC 2 643 645 FCED 2 644 645 FCEE 2 646 645 FCEF",
  "2 646 647 FCF0 2 64A 645 FCF1 2 64A 647 FCF2 3 640 64E 651 FCF3 3 640 64F 651 FCF4 3 640 650",
  "651 FCF5 2 637 649 FCF6 2 637 64A FCF7 2 639 649 FCF8 2 639 64A FCF9 2 63A 649 FCFA 2 63A 64A",
  "FCFB 2 633 649 FCFC 2 633 64A FCFD 2 634 649 FCFE 2 634 64A FCFF 2 62D 649 FD00 2 62D 64A FD01",
  "2 62C 649 FD02 2 62C 64A FD03 2 62E 649 FD04 2 62E 64A FD05 2 635 649 FD06 2 635 64A FD07 2",
  "636 649 FD08 2 636 64A FD09 2 634 62C FD0A 2 634 62D FD0B 2 634 62E FD0C 2 634 645 FD0D 2 634",
  "631 FD0E 2 633 631 FD0F 2 635 631 FD10 2 636 631 FD11 2 637 649 FD12 2 637 64A FD13 2 639 649",
  "FD14 2 639 64A FD15 2 63A 649 FD16 2 63A 64A FD17 2 633 649 FD18 2 633 64A FD19 2 634 649 FD1A",
  "2 634 64A FD1B 2 62D 649 FD1C 2 62D 64A FD1D 2 62C 649 FD1E 2 62C 64A FD1F 2 62E 649 FD20 2",
  "62E 64A FD21 2 635 649 FD22 2 635 64A FD23 2 636 649 FD24 2 636 64A FD25 2 634 62C FD26 2 634",
  "62D FD27 2 634 62E FD28 2 634 645 FD29 2 634 631 FD2A 2 633 631 FD2B 2 635 631 FD2C 2 636 631",
  "FD2D 2 634 62C FD2E 2 634 62D FD2F 2 634 62E FD30 2 634 645 FD31 2 633 647 FD32 2 634 647 FD33",
  "2 637 645 FD34 2 633 62C FD35 2 633 62D FD36 2 633 62E FD37 2 634 62C FD38 2 634 62D FD39 2",
  "634 62E FD3A 2 637 645 FD3B 2 638 645 FD3C 2 627 64B FD3D 2 627 64B FD50 3 62A 62C 645 FD51 3",
  "62A 62D 62C FD52 3 62A 62D 62C FD53 3 62A 62D 645 FD54 3 62A 62E 645 FD55 3 62A 645 62C FD56 3",
  "62A 645 62D FD57 3 62A 645 62E FD58 3 62C 645 62D FD59 3 62C 645 62D FD5A 3 62D 645 64A FD5B 3",
  "62D 645 649 FD5C 3 633 62D 62C FD5D 3 633 62C 62D FD5E 3 633 62C 649 FD5F 3 633 645 62D FD60 3",
  "633 645 62D FD61 3 633 645 62C FD62 3 633 645 645 FD63 3 633 645 645 FD64 3 635 62D 62D FD65 3",
  "635 62D 62D FD66 3 635 645 645 FD67 3 634 62D 645 FD68 3 634 62D 645 FD69 3 634 62C 64A FD6A 3",
  "634 645 62E FD6B 3 634 645 62E FD6C 3 634 645 645 FD6D 3 634 645 645 FD6E 3 636 62D 649 FD6F 3",
  "636 62E 645 FD70 3 636 62E 645 FD71 3 637 645 62D FD72 3 637 645 62D FD73 3 637 645 645 FD74 3",
  "637 645 64A FD75 3 639 62C 645 FD76 3 639 645 645 FD77 3 639 645 645 FD78 3 639 645 649 FD79 3",
  "63A 645 645 FD7A 3 63A 645 64A FD7B 3 63A 645 649 FD7C 3 641 62E 645 FD7D 3 641 62E 645 FD7E 3",
  "642 645 62D FD7F 3 642 645 645 FD80 3 644 62D 645 FD81 3 644 62D 64A FD82 3 644 62D 649 FD83 3",
  "644 62C 62C FD84 3 644 62C 62C FD85 3 644 62E 645 FD86 3 644 62E 645 FD87 3 644 645 62D FD88 3",
  "644 645 62D FD89 3 645 62D 62C FD8A 3 645 62D 645 FD8B 3 645 62D 64A FD8C 3 645 62C 62D FD8D 3",
  "645 62C 645 FD8E 3 645 62E 62C FD8F 3 645 62E 645 FD92 3 645 62C 62E FD93 3 647 645 62C FD94 3",
  "647 645 645 FD95 3 646 62D 645 FD96 3 646 62D 649 FD97 3 646 62C 645 FD98 3 646 62C 645 FD99 3",
  "646 62C 649 FD9A 3 646 645 64A FD9B 3 646 645 649 FD9C 3 64A 645 645 FD9D 3 64A 645 645 FD9E 3",
  "628 62E 64A FD9F 3 62A 62C 64A FDA0 3 62A 62C 649 FDA1 3 62A 62E 64A FDA2 3 62A 62E 649 FDA3 3",
  "62A 645 64A FDA4 3 62A 645 649 FDA5 3 62C 645 64A FDA6 3 62C 62D 649 FDA7 3 62C 645 649 FDA8 3",
  "633 62E 649 FDA9 3 635 62D 64A FDAA 3 634 62D 64A FDAB 3 636 62D 64A FDAC 3 644 62C 64A FDAD 3",
  "644 645 64A FDAE 3 64A 62D 64A FDAF 3 64A 62C 64A FDB0 3 64A 645 64A FDB1 3 645 645 64A FDB2 3",
  "642 645 64A FDB3 3 646 62D 64A FDB4 3 642 645 62D FDB5 3 644 62D 645 FDB6 3 639 645 64A FDB7 3",
  "643 645 64A FDB8 3 646 62C 62D FDB9 3 645 62E 64A FDBA 3 644 62C 645 FDBB 3 643 645 645 FDBC 3",
  "644 62C 645 FDBD 3 646 62C 62D FDBE 3 62C 62D 64A FDBF 3 62D 62C 64A FDC0 3 645 62C 64A FDC1 3",
  "641 645 64A FDC2 3 628 62D 64A FDC3 3 643 645 645 FDC4 3 639 62C 645 FDC5 3 635 645 645 FDC6 3",
  "633 62E 64A FDC7 3 646 62C 64A FDF0 3 635 644 6D2 FDF1 3 642 644 6D2 FDF2 4 627 644 644 647",
  "FDF3 4 627 643 628 631 FDF4 4 645 62D 645 62F FDF5 4 635 644 639 645 FDF6 4 631 633 648 644",
  "FDF7 4 639 644 64A 647 FDF8 4 648 633 644 645 FDF9 3 635 644 649 FDFA 12 635 644 649 20 627",
  "644 644 647 20 639 644 64A 647 20 648 633 644 645 FDFB 8 62C 644 20 62C 644 627 644 647 FDFC 4",
  "631 6CC 627 644 FE49 2 20 305 FE4A 2 20 305 FE4B 2 20 305 FE4C 2 20 305 FE70 2 20 64B FE71 2",
  "640 64B FE72 2 20 64C FE74 2 20 64D FE76 2 20 64E FE77 2 640 64E FE78 2 20 64F FE79 2 640 64F",
  "FE7A 2 20 650 FE7B 2 640 650 FE7C 2 20 651 FE7D 2 640 651 FE7E 2 20 652 FE7F 2 640 652 FEF5 2",
  "644 622 FEF6 2 644 622 FEF7 2 644 623 FEF8 2 644 623 FEF9 2 644 625 FEFA 2 644 625 FEFB 2 644",
  "627 FEFC 2 644 627 FFE3 2 20 304 1D15E 2 1D157 1D165 1D15F 2 1D158 1D165 1D160 3 1D158 1D165",
  "1D16E 1D161 3 1D158 1D165 1D16F 1D162 3 1D158 1D165 1D170 1D163 3 1D158 1D165 1D171 1D164 3",
  "1D158 1D165 1D172 1D1BB 2 1D1B9 1D165 1D1BC 2 1D1BA 1D165 1D1BD 3 1D1B9 1D165 1D16E 1D1BE 3",
  "1D1BA 1D165 1D16E 1D1BF 3 1D1B9 1D165 1D16F 1D1C0 3 1D1BA 1D165 1D16F 1F101 2 30 2C 1F102 2 31",
  "2C 1F103 2 32 2C 1F104 2 33 2C 1F105 2 34 2C 1F106 2 35 2C 1F107 2 36 2C 1F108 2 37 2C 1F109 2",
  "38 2C 1F10A 2 39 2C 1F110 3 28 61 29 1F111 3 28 62 29 1F112 3 28 63 29 1F113 3 28 64 29 1F114",
  "3 28 65 29 1F115 3 28 66 29 1F116 3 28 67 29 1F117 3 28 68 29 1F118 3 28 69 29 1F119 3 28 6A",
  "29 1F11A 3 28 6B 29 1F11B 3 28 6C 29 1F11C 3 28 6D 29 1F11D 3 28 6E 29 1F11E 3 28 6F 29 1F11F",
  "3 28 70 29 1F120 3 28 71 29 1F121 3 28 72 29 1F122 3 28 73 29 1F123 3 28 74 29 1F124 3 28 75",
  "29 1F125 3 28 76 29 1F126 3 28 77 29 1F127 3 28 78 29 1F128 3 28 79 29 1F129 3 28 7A 29 1F12A",
  "3 3014 73 3015 1F12D 2 63 64 1F12E 2 77 7A 1F14A 2 68 76 1F14B 2 6D 76 1F14C 2 73 64 1F14D 2",
  "73 73 1F14E 3 70 70 76 1F14F 2 77 63 1F16A 2 6D 63 1F16B 2 6D 64 1F16C 2 6D 72 1F190 2 64 6A",
  "1F200 2 307B 304B 1F201 2 30B3 30B3 1F240 3 3014 672C 3015 1F241 3 3014 4E09 3015 1F242 3 3014",
  "4E8C 3015 1F243 3 3014 5B89 3015 1F244 3 3014 70B9 3015 1F245 3 3014 6253 3015 1F246 3 3014",
  "76D7 3015 1F247 3 3014 52DD 3015 1F248 3 3014 6557 3015"]

/-- Where a character that stands for the next begins its range. -/
def alternatingFrom? (n : Nat) : List Nat → Option Nat
  | first :: behind :: rest =>
    if first ≤ n ∧ n < behind then some first else alternatingFrom? n rest
  | _ => none

def shifted? (n : Nat) : List Nat → Option Nat
  | first :: count :: target :: rest =>
    if first ≤ n ∧ n < first + count then some (target + (n - first)) else shifted? n rest
  | _ => none

def replacement? (n : Nat) : Option Nat :=
  match alternatingFrom? n alternating with
  | some first => if (n - first) % 2 = 0 then some (n + 1) else none
  | none =>
    (shifted? n shifted).or <|
      match Table.entry? n replaced with
      | some 0 | none => none
      | some m => some m

def target (c : Char) : Option (List Char) :=
  let n := c.toNat
  if n < 0x80 then some [c.toLower]
  else if Table.within n refused then none
  else if Table.within n ignored then some []
  else
    match replacement? n with
    | some m => some [Char.ofNat m]
    | none =>
      match Table.entries? n spelled with
      | some ms => some (ms.map Char.ofNat)
      | none => some [c]

def isPlain (c : Char) : Bool := target c == some [c]

end PeerRules.Url.Domain
