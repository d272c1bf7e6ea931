import Backtrack.Text.RangeTable

/-!
# Script extensions

For each script of Unicode 16.0, the characters used with it: those of the script itself, and
the common or inherited characters, such as punctuation and combining marks, that the script
shares with others.
-/

namespace Backtrack
namespace Regex

open Text

/-- Each script and the characters used with it, as sorted ranges. -/
def scriptExtensionTables : List (String × RangeTable) := [
  ("Adlam", RangeTable.ofText "
61F 640 204F 2E41 1E900-1E94B 1E950-1E959 1E95E-1E95F"),
  ("Ahom", RangeTable.ofText "
11700-1171A 1171D-1172B 11730-11746"),
  ("Anatolian_Hieroglyphs", RangeTable.ofText "
14400-14646"),
  ("Arabic", RangeTable.ofText "
600-604 606-6DC 6DE-6FF 750-77F 870-88E 890-891 897-8E1 8E3-8FF 204F 2E41 FB50-FBC2 FBD3-FD8F
FD92-FDC7 FDCF FDF0-FDFF FE70-FE74 FE76-FEFC 102E0-102FB 10E60-10E7E 10EC2-10EC4 10EFC-10EFF 1EE00-1EE03 1EE05-1EE1F 1EE21-1EE22
1EE24 1EE27 1EE29-1EE32 1EE34-1EE37 1EE39 1EE3B 1EE42 1EE47 1EE49 1EE4B 1EE4D-1EE4F 1EE51-1EE52
1EE54 1EE57 1EE59 1EE5B 1EE5D 1EE5F 1EE61-1EE62 1EE64 1EE67-1EE6A 1EE6C-1EE72 1EE74-1EE77 1EE79-1EE7C
1EE7E 1EE80-1EE89 1EE8B-1EE9B 1EEA1-1EEA3 1EEA5-1EEA9 1EEAB-1EEBB 1EEF0-1EEF1"),
  ("Armenian", RangeTable.ofText "
308 531-556 559-58A 58D-58F FB13-FB17"),
  ("Avestan", RangeTable.ofText "
B7 2E30-2E31 10B00-10B35 10B39-10B3F"),
  ("Balinese", RangeTable.ofText "
1B00-1B4C 1B4E-1B7F"),
  ("Bamum", RangeTable.ofText "
A6A0-A6F7 16800-16A38"),
  ("Bassa_Vah", RangeTable.ofText "
16AD0-16AED 16AF0-16AF5"),
  ("Batak", RangeTable.ofText "
1BC0-1BF3 1BFC-1BFF"),
  ("Bengali", RangeTable.ofText "
2BC 951-952 964-965 980-983 985-98C 98F-990 993-9A8 9AA-9B0 9B2 9B6-9B9 9BC-9C4 9C7-9C8
9CB-9CE 9D7 9DC-9DD 9DF-9E3 9E6-9FE 1CD0 1CD2 1CD5-1CD6 1CD8 1CE1 1CEA 1CED
1CF2 1CF5-1CF7 A8F1"),
  ("Bhaiksuki", RangeTable.ofText "
11C00-11C08 11C0A-11C36 11C38-11C45 11C50-11C6C"),
  ("Bopomofo", RangeTable.ofText "
2C7 2C9-2CB 2D9 2EA-2EB 3001-3003 3008-3011 3013-301F 302A-302D 3030 3037 30FB 3105-312F
31A0-31BF FE45-FE46 FF61-FF65"),
  ("Brahmi", RangeTable.ofText "
11000-1104D 11052-11075 1107F"),
  ("Braille", RangeTable.ofText "
2800-28FF"),
  ("Buginese", RangeTable.ofText "
1A00-1A1B 1A1E-1A1F A9CF"),
  ("Buhid", RangeTable.ofText "
1735-1736 1740-1753"),
  ("Canadian_Aboriginal", RangeTable.ofText "
1400-167F 18B0-18F5 11AB0-11ABF"),
  ("Carian", RangeTable.ofText "
B7 205A 205D 2E31 102A0-102D0"),
  ("Caucasian_Albanian", RangeTable.ofText "
304 331 35E 10530-10563 1056F"),
  ("Chakma", RangeTable.ofText "
9E6-9EF 1040-1049 11100-11134 11136-11147"),
  ("Cham", RangeTable.ofText "
AA00-AA36 AA40-AA4D AA50-AA59 AA5C-AA5F"),
  ("Cherokee", RangeTable.ofText "
300-302 304 30B-30C 323-324 330-331 13A0-13F5 13F8-13FD AB70-ABBF"),
  ("Chorasmian", RangeTable.ofText "
10FB0-10FCB"),
  ("Common", RangeTable.ofText "
0-40 5B-60 7B-A9 AB-B6 B8-B9 BB-BF D7 F7 2B9-2BB 2BD-2C6 2C8 2CC
2CE-2D6 2D8 2DA-2DF 2E5-2E9 2EC-2FF 37E 385 387 605 6DD 8E2 E3F
FD5-FD8 2000-200B 200E-202E 2030-204E 2050-2059 205B-205C 205E-2064 2066-2070 2074-207E 2080-208E 20A0-20C0 2100-2125
2127-2129 212C-2131 2133-214D 214F-215F 2189-218B 2190-2429 2440-244A 2460-27FF 2900-2B73 2B76-2B95 2B97-2BFF 2E00-2E16
2E18-2E2F 2E32-2E3B 2E3D-2E40 2E42 2E44-2E5D 3000 3004 3012 3020 3036 3248-325F 327F
32B1-32BF 32CC-32CF 3371-337A 3380-33DF 33FF 4DC0-4DFF A708-A721 A788-A78A AB5B AB6A-AB6B FE10-FE19 FE30-FE44
FE47-FE52 FE54-FE66 FE68-FE6B FEFF FF01-FF20 FF3B-FF40 FF5B-FF60 FFE0-FFE6 FFE8-FFEE FFF9-FFFD 10190-1019C 101D0-101FC
1CC00-1CCF9 1CD00-1CEB3 1CF50-1CFC3 1D000-1D0F5 1D100-1D126 1D129-1D166 1D16A-1D17A 1D183-1D184 1D18C-1D1A9 1D1AE-1D1EA 1D2C0-1D2D3 1D2E0-1D2F3
1D300-1D356 1D372-1D378 1D400-1D454 1D456-1D49C 1D49E-1D49F 1D4A2 1D4A5-1D4A6 1D4A9-1D4AC 1D4AE-1D4B9 1D4BB 1D4BD-1D4C3 1D4C5-1D505
1D507-1D50A 1D50D-1D514 1D516-1D51C 1D51E-1D539 1D53B-1D53E 1D540-1D544 1D546 1D54A-1D550 1D552-1D6A5 1D6A8-1D7CB 1D7CE-1D7FF 1EC71-1ECB4
1ED01-1ED3D 1F000-1F02B 1F030-1F093 1F0A0-1F0AE 1F0B1-1F0BF 1F0C1-1F0CF 1F0D1-1F0F5 1F100-1F1AD 1F1E6-1F1FF 1F201-1F202 1F210-1F23B 1F240-1F248
1F260-1F265 1F300-1F6D7 1F6DC-1F6EC 1F6F0-1F6FC 1F700-1F776 1F77B-1F7D9 1F7E0-1F7EB 1F7F0 1F800-1F80B 1F810-1F847 1F850-1F859 1F860-1F887
1F890-1F8AD 1F8B0-1F8BB 1F8C0-1F8C1 1F900-1FA53 1FA60-1FA6D 1FA70-1FA7C 1FA80-1FA89 1FA8F-1FAC6 1FACE-1FADC 1FADF-1FAE9 1FAF0-1FAF8 1FB00-1FB92
1FB94-1FBF9 E0001 E0020-E007F"),
  ("Coptic", RangeTable.ofText "
B7 300 304-305 307 374-375 3E2-3EF 2C80-2CF3 2CF9-2CFF 2E17 102E0-102FB"),
  ("Cuneiform", RangeTable.ofText "
12000-12399 12400-1246E 12470-12474 12480-12543"),
  ("Cypriot", RangeTable.ofText "
10100-10102 10107-10133 10137-1013F 10800-10805 10808 1080A-10835 10837-10838 1083C 1083F"),
  ("Cypro_Minoan", RangeTable.ofText "
10100-10101 12F90-12FF2"),
  ("Cyrillic", RangeTable.ofText "
2BC 300-302 304 306 308 30B 311 400-52F 1C80-1C8A 1D2B 1D78 1DF8
2DE0-2DFF 2E43 A640-A69F FE2E-FE2F 1E030-1E06D 1E08F"),
  ("Deseret", RangeTable.ofText "
10400-1044F"),
  ("Devanagari", RangeTable.ofText "
2BC 900-952 955-97F 1CD0-1CF6 1CF8-1CF9 20F0 A830-A839 A8E0-A8FF 11B00-11B09"),
  ("Dives_Akuru", RangeTable.ofText "
11900-11906 11909 1190C-11913 11915-11916 11918-11935 11937-11938 1193B-11946 11950-11959"),
  ("Dogra", RangeTable.ofText "
964-96F A830-A839 11800-1183B"),
  ("Duployan", RangeTable.ofText "
B7 307-308 30A 323-324 2E3C 1BC00-1BC6A 1BC70-1BC7C 1BC80-1BC88 1BC90-1BC99 1BC9C-1BCA3"),
  ("Egyptian_Hieroglyphs", RangeTable.ofText "
13000-13455 13460-143FA"),
  ("Elbasan", RangeTable.ofText "
B7 305 10500-10527"),
  ("Elymaic", RangeTable.ofText "
10FE0-10FF6"),
  ("Ethiopic", RangeTable.ofText "
30E 1200-1248 124A-124D 1250-1256 1258 125A-125D 1260-1288 128A-128D 1290-12B0 12B2-12B5 12B8-12BE 12C0
12C2-12C5 12C8-12D6 12D8-1310 1312-1315 1318-135A 135D-137C 1380-1399 2D80-2D96 2DA0-2DA6 2DA8-2DAE 2DB0-2DB6 2DB8-2DBE
2DC0-2DC6 2DC8-2DCE 2DD0-2DD6 2DD8-2DDE AB01-AB06 AB09-AB0E AB11-AB16 AB20-AB26 AB28-AB2E 1E7E0-1E7E6 1E7E8-1E7EB 1E7ED-1E7EE
1E7F0-1E7FE"),
  ("Garay", RangeTable.ofText "
60C 61B 61F 10D40-10D65 10D69-10D85 10D8E-10D8F"),
  ("Georgian", RangeTable.ofText "
B7 589 10A0-10C5 10C7 10CD 10D0-10FF 1C90-1CBA 1CBD-1CBF 205A 2D00-2D25 2D27 2D2D
2E31"),
  ("Glagolitic", RangeTable.ofText "
B7 303 305 484 487 589 10FB 205A 2C00-2C5F 2E43 A66F 1E000-1E006
1E008-1E018 1E01B-1E021 1E023-1E024 1E026-1E02A"),
  ("Gothic", RangeTable.ofText "
B7 304-305 308 331 10330-1034A"),
  ("Grantha", RangeTable.ofText "
951-952 964-965 BE6-BF3 1CD0 1CD2-1CD3 1CF2-1CF4 1CF8-1CF9 20F0 11300-11303 11305-1130C 1130F-11310 11313-11328
1132A-11330 11332-11333 11335-11339 1133B-11344 11347-11348 1134B-1134D 11350 11357 1135D-11363 11366-1136C 11370-11374 11FD0-11FD1
11FD3"),
  ("Greek", RangeTable.ofText "
B7 300-301 304 306 308 313 342 345 370-377 37A-37D 37F 384
386 388-38A 38C 38E-3A1 3A3-3E1 3F0-3FF 1D26-1D2A 1D5D-1D61 1D66-1D6A 1DBF-1DC1 1F00-1F15 1F18-1F1D
1F20-1F45 1F48-1F4D 1F50-1F57 1F59 1F5B 1F5D 1F5F-1F7D 1F80-1FB4 1FB6-1FC4 1FC6-1FD3 1FD6-1FDB 1FDD-1FEF
1FF2-1FF4 1FF6-1FFE 205D 2126 AB65 10140-1018E 101A0 1D200-1D245"),
  ("Gujarati", RangeTable.ofText "
951-952 964-965 A81-A83 A85-A8D A8F-A91 A93-AA8 AAA-AB0 AB2-AB3 AB5-AB9 ABC-AC5 AC7-AC9 ACB-ACD
AD0 AE0-AE3 AE6-AF1 AF9-AFF A830-A839"),
  ("Gunjala_Gondi", RangeTable.ofText "
B7 964-965 11D60-11D65 11D67-11D68 11D6A-11D8E 11D90-11D91 11D93-11D98 11DA0-11DA9"),
  ("Gurmukhi", RangeTable.ofText "
951-952 964-965 A01-A03 A05-A0A A0F-A10 A13-A28 A2A-A30 A32-A33 A35-A36 A38-A39 A3C A3E-A42
A47-A48 A4B-A4D A51 A59-A5C A5E A66-A76 A830-A839"),
  ("Gurung_Khema", RangeTable.ofText "
965 16100-16139"),
  ("Han", RangeTable.ofText "
B7 2E80-2E99 2E9B-2EF3 2F00-2FD5 2FF0-2FFF 3001-3003 3005-3011 3013-301F 3021-302D 3030 3037-303F 30FB
3190-319F 31C0-31E5 31EF 3220-3247 3280-32B0 32C0-32CB 32FF 3358-3370 337B-337F 33E0-33FE 3400-4DBF 4E00-9FFF
A700-A707 F900-FA6D FA70-FAD9 FE45-FE46 FF61-FF65 16FE2-16FE3 16FF0-16FF1 1D360-1D371 1F250-1F251 20000-2A6DF 2A700-2B739 2B740-2B81D
2B820-2CEA1 2CEB0-2EBE0 2EBF0-2EE5D 2F800-2FA1D 30000-3134A 31350-323AF"),
  ("Hangul", RangeTable.ofText "
1100-11FF 3001-3003 3008-3011 3013-301F 302E-3030 3037 30FB 3131-318E 3200-321E 3260-327E A960-A97C AC00-D7A3
D7B0-D7C6 D7CB-D7FB FE45-FE46 FF61-FF65 FFA0-FFBE FFC2-FFC7 FFCA-FFCF FFD2-FFD7 FFDA-FFDC"),
  ("Hanifi_Rohingya", RangeTable.ofText "
60C 61B 61F 640 6D4 10D00-10D27 10D30-10D39"),
  ("Hanunoo", RangeTable.ofText "
1720-1736"),
  ("Hatran", RangeTable.ofText "
108E0-108F2 108F4-108F5 108FB-108FF"),
  ("Hebrew", RangeTable.ofText "
307-308 591-5C7 5D0-5EA 5EF-5F4 FB1D-FB36 FB38-FB3C FB3E FB40-FB41 FB43-FB44 FB46-FB4F"),
  ("Hiragana", RangeTable.ofText "
3001-3003 3008-3011 3013-301F 3030-3035 3037 303C-303D 3041-3096 3099-30A0 30FB-30FC FE45-FE46 FF61-FF65 FF70
FF9E-FF9F 1B001-1B11F 1B132 1B150-1B152 1F200"),
  ("Imperial_Aramaic", RangeTable.ofText "
10840-10855 10857-1085F"),
  ("Inherited", RangeTable.ofText "
30F 312 314-31F 321-322 326-32C 32F 332-341 343-344 346-357 359-35D 35F-362 953-954
1AB0-1ACE 1DC2-1DF7 1DF9 1DFB-1DFF 200C-200D 20D0-20EF FE00-FE0F FE20-FE2D 101FD 1CF00-1CF2D 1CF30-1CF46 1D167-1D169
1D17B-1D182 1D185-1D18B 1D1AA-1D1AD E0100-E01EF"),
  ("Inscriptional_Pahlavi", RangeTable.ofText "
10B60-10B72 10B78-10B7F"),
  ("Inscriptional_Parthian", RangeTable.ofText "
10B40-10B55 10B58-10B5F"),
  ("Javanese", RangeTable.ofText "
A980-A9CD A9CF-A9D9 A9DE-A9DF"),
  ("Kaithi", RangeTable.ofText "
966-96F 2E31 A830-A839 11080-110C2 110CD"),
  ("Kannada", RangeTable.ofText "
951-952 964-965 C80-C8C C8E-C90 C92-CA8 CAA-CB3 CB5-CB9 CBC-CC4 CC6-CC8 CCA-CCD CD5-CD6 CDD-CDE
CE0-CE3 CE6-CEF CF1-CF3 1CD0 1CD2 1CDA 1CF2 1CF4 A830-A835"),
  ("Katakana", RangeTable.ofText "
305 323 3001-3003 3008-3011 3013-301F 3030-3035 3037 303C-303D 3099-309C 30A0-30FF 31F0-31FF 32D0-32FE
3300-3357 FE45-FE46 FF61-FF9F 1AFF0-1AFF3 1AFF5-1AFFB 1AFFD-1AFFE 1B000 1B120-1B122 1B155 1B164-1B167"),
  ("Kawi", RangeTable.ofText "
11F00-11F10 11F12-11F3A 11F3E-11F5A"),
  ("Kayah_Li", RangeTable.ofText "
A900-A92F"),
  ("Kharoshthi", RangeTable.ofText "
10A00-10A03 10A05-10A06 10A0C-10A13 10A15-10A17 10A19-10A35 10A38-10A3A 10A3F-10A48 10A50-10A58"),
  ("Khitan_Small_Script", RangeTable.ofText "
16FE4 18B00-18CD5 18CFF"),
  ("Khmer", RangeTable.ofText "
1780-17DD 17E0-17E9 17F0-17F9 19E0-19FF"),
  ("Khojki", RangeTable.ofText "
AE6-AEF A830-A839 11200-11211 11213-11241"),
  ("Khudawadi", RangeTable.ofText "
964-965 A830-A839 112B0-112EA 112F0-112F9"),
  ("Kirat_Rai", RangeTable.ofText "
16D40-16D79"),
  ("Lao", RangeTable.ofText "
E81-E82 E84 E86-E8A E8C-EA3 EA5 EA7-EBD EC0-EC4 EC6 EC8-ECE ED0-ED9 EDC-EDF"),
  ("Latin", RangeTable.ofText "
41-5A 61-7A AA B7 BA C0-D6 D8-F6 F8-2B8 2BC 2C7 2C9-2CB 2CD
2D7 2D9 2E0-2E4 300-30E 310-311 313 323-325 32D-32E 330-331 358 35E 363-36F
485-486 951-952 10FB 1D00-1D25 1D2C-1D5C 1D62-1D65 1D6B-1D77 1D79-1DBE 1DF8 1E00-1EFF 202F 2071
207F 2090-209C 20F0 212A-212B 2132 214E 2160-2188 2C60-2C7F 2E17 A700-A707 A722-A787 A78B-A7CD
A7D0-A7D1 A7D3 A7D5-A7DC A7F2-A7FF A92E AB30-AB5A AB5C-AB64 AB66-AB69 FB00-FB06 FF21-FF3A FF41-FF5A 10780-10785
10787-107B0 107B2-107BA 1DF00-1DF1E 1DF25-1DF2A"),
  ("Lepcha", RangeTable.ofText "
1C00-1C37 1C3B-1C49 1C4D-1C4F"),
  ("Limbu", RangeTable.ofText "
965 1900-191E 1920-192B 1930-193B 1940 1944-194F"),
  ("Linear_A", RangeTable.ofText "
10107-10133 10600-10736 10740-10755 10760-10767"),
  ("Linear_B", RangeTable.ofText "
10000-1000B 1000D-10026 10028-1003A 1003C-1003D 1003F-1004D 10050-1005D 10080-100FA 10100-10102 10107-10133 10137-1013F"),
  ("Lisu", RangeTable.ofText "
2BC 2CD 300A-300B A4D0-A4FF 11FB0"),
  ("Lycian", RangeTable.ofText "
205A 10280-1029C"),
  ("Lydian", RangeTable.ofText "
B7 2E31 10920-10939 1093F"),
  ("Mahajani", RangeTable.ofText "
B7 964-96F A830-A839 11150-11176"),
  ("Makasar", RangeTable.ofText "
11EE0-11EF8"),
  ("Malayalam", RangeTable.ofText "
951-952 964-965 D00-D0C D0E-D10 D12-D44 D46-D48 D4A-D4F D54-D63 D66-D7F 1CDA A830-A832"),
  ("Mandaic", RangeTable.ofText "
640 840-85B 85E"),
  ("Manichaean", RangeTable.ofText "
640 10AC0-10AE6 10AEB-10AF6"),
  ("Marchen", RangeTable.ofText "
11C70-11C8F 11C92-11CA7 11CA9-11CB6"),
  ("Masaram_Gondi", RangeTable.ofText "
964-965 11D00-11D06 11D08-11D09 11D0B-11D36 11D3A 11D3C-11D3D 11D3F-11D47 11D50-11D59"),
  ("Medefaidrin", RangeTable.ofText "
16E40-16E9A"),
  ("Meetei_Mayek", RangeTable.ofText "
AAE0-AAF6 ABC0-ABED ABF0-ABF9"),
  ("Mende_Kikakui", RangeTable.ofText "
1E800-1E8C4 1E8C7-1E8D6"),
  ("Meroitic_Cursive", RangeTable.ofText "
109A0-109B7 109BC-109CF 109D2-109FF"),
  ("Meroitic_Hieroglyphs", RangeTable.ofText "
205D 10980-1099F"),
  ("Miao", RangeTable.ofText "
16F00-16F4A 16F4F-16F87 16F8F-16F9F"),
  ("Modi", RangeTable.ofText "
A830-A839 11600-11644 11650-11659"),
  ("Mongolian", RangeTable.ofText "
1800-1819 1820-1878 1880-18AA 202F 3001-3002 3008-300B 11660-1166C"),
  ("Mro", RangeTable.ofText "
16A40-16A5E 16A60-16A69 16A6E-16A6F"),
  ("Multani", RangeTable.ofText "
A66-A6F 11280-11286 11288 1128A-1128D 1128F-1129D 1129F-112A9"),
  ("Myanmar", RangeTable.ofText "
1000-109F A92E A9E0-A9FE AA60-AA7F 116D0-116E3"),
  ("Nabataean", RangeTable.ofText "
10880-1089E 108A7-108AF"),
  ("Nag_Mundari", RangeTable.ofText "
1E4D0-1E4F9"),
  ("Nandinagari", RangeTable.ofText "
964-965 CE6-CEF 1CE9 1CF2 1CFA A830-A835 119A0-119A7 119AA-119D7 119DA-119E4"),
  ("New_Tai_Lue", RangeTable.ofText "
1980-19AB 19B0-19C9 19D0-19DA 19DE-19DF"),
  ("Newa", RangeTable.ofText "
11400-1145B 1145D-11461"),
  ("Nko", RangeTable.ofText "
60C 61B 61F 7C0-7FA 7FD-7FF FD3E-FD3F"),
  ("Nushu", RangeTable.ofText "
16FE1 1B170-1B2FB"),
  ("Nyiakeng_Puachue_Hmong", RangeTable.ofText "
1E100-1E12C 1E130-1E13D 1E140-1E149 1E14E-1E14F"),
  ("Ogham", RangeTable.ofText "
1680-169C"),
  ("Ol_Chiki", RangeTable.ofText "
1C50-1C7F"),
  ("Ol_Onal", RangeTable.ofText "
964-965 1E5D0-1E5FA 1E5FF"),
  ("Old_Hungarian", RangeTable.ofText "
205A 205D 2E31 2E41 10C80-10CB2 10CC0-10CF2 10CFA-10CFF"),
  ("Old_Italic", RangeTable.ofText "
10300-10323 1032D-1032F"),
  ("Old_North_Arabian", RangeTable.ofText "
10A80-10A9F"),
  ("Old_Permic", RangeTable.ofText "
B7 300 306-308 313 483 10350-1037A"),
  ("Old_Persian", RangeTable.ofText "
103A0-103C3 103C8-103D5"),
  ("Old_Sogdian", RangeTable.ofText "
10F00-10F27"),
  ("Old_South_Arabian", RangeTable.ofText "
10A60-10A7F"),
  ("Old_Turkic", RangeTable.ofText "
205A 2E30 10C00-10C48"),
  ("Old_Uyghur", RangeTable.ofText "
640 10AF2 10F70-10F89"),
  ("Oriya", RangeTable.ofText "
951-952 964-965 B01-B03 B05-B0C B0F-B10 B13-B28 B2A-B30 B32-B33 B35-B39 B3C-B44 B47-B48 B4B-B4D
B55-B57 B5C-B5D B5F-B63 B66-B77 1CDA 1CF2"),
  ("Osage", RangeTable.ofText "
301 304 30B 358 104B0-104D3 104D8-104FB"),
  ("Osmanya", RangeTable.ofText "
10480-1049D 104A0-104A9"),
  ("Pahawh_Hmong", RangeTable.ofText "
16B00-16B45 16B50-16B59 16B5B-16B61 16B63-16B77 16B7D-16B8F"),
  ("Palmyrene", RangeTable.ofText "
10860-1087F"),
  ("Pau_Cin_Hau", RangeTable.ofText "
11AC0-11AF8"),
  ("Phags_Pa", RangeTable.ofText "
1802-1803 1805 202F 3002 A840-A877"),
  ("Phoenician", RangeTable.ofText "
10900-1091B 1091F"),
  ("Psalter_Pahlavi", RangeTable.ofText "
640 10B80-10B91 10B99-10B9C 10BA9-10BAF"),
  ("Rejang", RangeTable.ofText "
A930-A953 A95F"),
  ("Runic", RangeTable.ofText "
16A0-16F8"),
  ("Samaritan", RangeTable.ofText "
800-82D 830-83E 2E31"),
  ("Saurashtra", RangeTable.ofText "
A880-A8C5 A8CE-A8D9"),
  ("Sharada", RangeTable.ofText "
951 1CD7 1CD9 1CDC-1CDD 1CE0 11180-111DF"),
  ("Shavian", RangeTable.ofText "
B7 10450-1047F"),
  ("Siddham", RangeTable.ofText "
11580-115B5 115B8-115DD"),
  ("SignWriting", RangeTable.ofText "
1D800-1DA8B 1DA9B-1DA9F 1DAA1-1DAAF"),
  ("Sinhala", RangeTable.ofText "
964-965 D81-D83 D85-D96 D9A-DB1 DB3-DBB DBD DC0-DC6 DCA DCF-DD4 DD6 DD8-DDF DE6-DEF
DF2-DF4 111E1-111F4"),
  ("Sogdian", RangeTable.ofText "
640 10F30-10F59"),
  ("Sora_Sompeng", RangeTable.ofText "
110D0-110E8 110F0-110F9"),
  ("Soyombo", RangeTable.ofText "
11A50-11AA2"),
  ("Sundanese", RangeTable.ofText "
1B80-1BBF 1CC0-1CC7"),
  ("Sunuwar", RangeTable.ofText "
300-301 303 30D 310 32D 331 11BC0-11BE1 11BF0-11BF9"),
  ("Syloti_Nagri", RangeTable.ofText "
964-965 9E6-9EF A800-A82C"),
  ("Syriac", RangeTable.ofText "
303-304 307-308 30A 320 323-325 32D-32E 330 60C 61B-61C 61F 640 64B-655
670 700-70D 70F-74A 74D-74F 860-86A 1DF8 1DFA"),
  ("Tagalog", RangeTable.ofText "
1700-1715 171F 1735-1736"),
  ("Tagbanwa", RangeTable.ofText "
1735-1736 1760-176C 176E-1770 1772-1773"),
  ("Tai_Le", RangeTable.ofText "
300-301 307-308 30C 1040-1049 1950-196D 1970-1974"),
  ("Tai_Tham", RangeTable.ofText "
1A20-1A5E 1A60-1A7C 1A7F-1A89 1A90-1A99 1AA0-1AAD"),
  ("Tai_Viet", RangeTable.ofText "
AA80-AAC2 AADB-AADF"),
  ("Takri", RangeTable.ofText "
964-965 A830-A839 11680-116B9 116C0-116C9"),
  ("Tamil", RangeTable.ofText "
951-952 964-965 B82-B83 B85-B8A B8E-B90 B92-B95 B99-B9A B9C B9E-B9F BA3-BA4 BA8-BAA BAE-BB9
BBE-BC2 BC6-BC8 BCA-BCD BD0 BD7 BE6-BFA 1CDA A8F3 11301 11303 1133B-1133C 11FC0-11FF1
11FFF"),
  ("Tangsa", RangeTable.ofText "
16A70-16ABE 16AC0-16AC9"),
  ("Tangut", RangeTable.ofText "
2FF0-2FFF 31EF 16FE0 17000-187F7 18800-18AFF 18D00-18D08"),
  ("Telugu", RangeTable.ofText "
951-952 964-965 C00-C0C C0E-C10 C12-C28 C2A-C39 C3C-C44 C46-C48 C4A-C4D C55-C56 C58-C5A C5D
C60-C63 C66-C6F C77-C7F 1CDA 1CF2"),
  ("Thaana", RangeTable.ofText "
60C 61B-61C 61F 660-669 780-7B1 FDF2 FDFD"),
  ("Thai", RangeTable.ofText "
2BC 2D7 303 331 E01-E3A E40-E5B"),
  ("Tibetan", RangeTable.ofText "
F00-F47 F49-F6C F71-F97 F99-FBC FBE-FCC FCE-FD4 FD9-FDA 3008-300B"),
  ("Tifinagh", RangeTable.ofText "
2D30-2D67 2D6F-2D70 2D7F"),
  ("Tirhuta", RangeTable.ofText "
951-952 964-965 1CF2 A830-A839 11480-114C7 114D0-114D9"),
  ("Todhri", RangeTable.ofText "
301 304 307 311 313 35E 105C0-105F3"),
  ("Toto", RangeTable.ofText "
2BC 1E290-1E2AE"),
  ("Tulu_Tigalari", RangeTable.ofText "
CE6-CEF 1CF2 1CF4 A830-A835 A8F1 11380-11389 1138B 1138E 11390-113B5 113B7-113C0 113C2 113C5
113C7-113CA 113CC-113D5 113D7-113D8 113E1-113E2"),
  ("Ugaritic", RangeTable.ofText "
10380-1039D 1039F"),
  ("Vai", RangeTable.ofText "
A500-A62B"),
  ("Vithkuqi", RangeTable.ofText "
10570-1057A 1057C-1058A 1058C-10592 10594-10595 10597-105A1 105A3-105B1 105B3-105B9 105BB-105BC"),
  ("Wancho", RangeTable.ofText "
1E2C0-1E2F9 1E2FF"),
  ("Warang_Citi", RangeTable.ofText "
118A0-118F2 118FF"),
  ("Yezidi", RangeTable.ofText "
60C 61B 61F 660-669 10E80-10EA9 10EAB-10EAD 10EB0-10EB1"),
  ("Yi", RangeTable.ofText "
3001-3002 3008-3011 3014-301B 30FB A000-A48C A490-A4C6 FF61-FF65"),
  ("Zanabazar_Square", RangeTable.ofText "
11A00-11A47")
]

end Regex
end Backtrack
