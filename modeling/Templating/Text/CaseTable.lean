/-!
# Case mappings

The simple lower and upper case of every character that has one, as offsets to whole
ranges of code points; the upper cases that are more than one character; and the two
properties that decide the form of a final sigma. All are those of the Unicode
character database, version 17.
-/

namespace Templating.CaseTable

/-- Offsets to the lower case. -/
def lower : List (Int × String) := [
  (32, "41-5A C0-D6 D8-DE 391-3A1 3A3-3AB 410-42F FF21-FF3A 10D50-10D65 118A0-118BF 16E40-16E5F"),
  (1, "100-12E/2 132-136/2 139-147/2 14A-176/2 179-17D/2 182 184 187 18B 191 198 1A0-1A4/2 1A7 " ++
    "1AC 1AF 1B3 1B5 1B8 1BC 1C5 1C8 1CB-1DB/2 1DE-1EE/2 1F2 1F4 1F8-21E/2 222-232/2 23B 241 " ++
    "246-24E/2 370 372 376 3D8-3EE/2 3F7 3FA 460-480/2 48A-4BE/2 4C1-4CD/2 4D0-52E/2 1C89 " ++
    "1E00-1E94/2 1EA0-1EFE/2 2183 2C60 2C67-2C6B/2 2C72 2C75 2C80-2CE2/2 2CEB 2CED 2CF2 " ++
    "A640-A66C/2 A680-A69A/2 A722-A72E/2 A732-A76E/2 A779 A77B A77E-A786/2 A78B A790 A792 " ++
    "A796-A7A8/2 A7B4-A7C2/2 A7C7 A7C9 A7CC-A7DA/2 A7F5"),
  (-121, "178"),
  (210, "181"),
  (206, "186"),
  (205, "189-18A 193"),
  (79, "18E"),
  (202, "18F"),
  (203, "190"),
  (207, "194"),
  (211, "196 19C"),
  (209, "197"),
  (213, "19D"),
  (214, "19F"),
  (218, "1A6 1A9 1AE"),
  (217, "1B1-1B2"),
  (219, "1B7"),
  (2, "1C4 1C7 1CA 1F1"),
  (-97, "1F6"),
  (-56, "1F7"),
  (-130, "220 3FD-3FF"),
  (10795, "23A"),
  (-163, "23D"),
  (10792, "23E"),
  (-195, "243"),
  (69, "244"),
  (71, "245"),
  (116, "37F"),
  (38, "386"),
  (37, "388-38A"),
  (64, "38C 10C80-10CB2"),
  (63, "38E-38F"),
  (8, "3CF 13F0-13F5"),
  (-60, "3F4"),
  (-7, "3F9 1FEC"),
  (80, "400-40F"),
  (15, "4C0"),
  (48, "531-556 2C00-2C2F"),
  (7264, "10A0-10C5 10C7 10CD"),
  (38864, "13A0-13EF"),
  (-3008, "1C90-1CBA 1CBD-1CBF"),
  (-7615, "1E9E"),
  (-8, "1F08-1F0F 1F18-1F1D 1F28-1F2F 1F38-1F3F 1F48-1F4D 1F59-1F5F/2 1F68-1F6F 1F88-1F8F " ++
    "1F98-1F9F 1FA8-1FAF 1FB8-1FB9 1FD8-1FD9 1FE8-1FE9"),
  (-74, "1FBA-1FBB"),
  (-9, "1FBC 1FCC 1FFC"),
  (-86, "1FC8-1FCB"),
  (-100, "1FDA-1FDB"),
  (-112, "1FEA-1FEB"),
  (-128, "1FF8-1FF9"),
  (-126, "1FFA-1FFB"),
  (-7517, "2126"),
  (-8383, "212A"),
  (-8262, "212B"),
  (28, "2132"),
  (16, "2160-216F"),
  (26, "24B6-24CF"),
  (-10743, "2C62"),
  (-3814, "2C63"),
  (-10727, "2C64"),
  (-10780, "2C6D"),
  (-10749, "2C6E"),
  (-10783, "2C6F"),
  (-10782, "2C70"),
  (-10815, "2C7E-2C7F"),
  (-35332, "A77D"),
  (-42280, "A78D"),
  (-42308, "A7AA A7AE"),
  (-42319, "A7AB"),
  (-42315, "A7AC"),
  (-42305, "A7AD"),
  (-42258, "A7B0"),
  (-42282, "A7B1"),
  (-42261, "A7B2"),
  (928, "A7B3"),
  (-48, "A7C4"),
  (-42307, "A7C5"),
  (-35384, "A7C6"),
  (-42343, "A7CB"),
  (-42561, "A7DC"),
  (40, "10400-10427 104B0-104D3"),
  (39, "10570-1057A 1057C-1058A 1058C-10592 10594-10595"),
  (27, "16EA0-16EB8"),
  (34, "1E900-1E921")]

/-- Offsets to the upper case, where that is one character. -/
def upper : List (Int × String) := [
  (-32, "61-7A E0-F6 F8-FE 3B1-3C1 3C3-3CB 430-44F FF41-FF5A 10D70-10D85 118C0-118DF " ++
    "16E60-16E7F"),
  (743, "B5"),
  (121, "FF"),
  (-1, "101-12F/2 133-137/2 13A-148/2 14B-177/2 17A-17E/2 183 185 188 18C 192 199 1A1-1A5/2 1A8 " ++
    "1AD 1B0 1B4 1B6 1B9 1BD 1C5 1C8 1CB 1CE-1DC/2 1DF-1EF/2 1F2 1F5 1F9-21F/2 223-233/2 23C " ++
    "242 247-24F/2 371 373 377 3D9-3EF/2 3F8 3FB 461-481/2 48B-4BF/2 4C2-4CE/2 4D1-52F/2 1C8A " ++
    "1E01-1E95/2 1EA1-1EFF/2 2184 2C61 2C68-2C6C/2 2C73 2C76 2C81-2CE3/2 2CEC 2CEE 2CF3 " ++
    "A641-A66D/2 A681-A69B/2 A723-A72F/2 A733-A76F/2 A77A A77C A77F-A787/2 A78C A791 A793 " ++
    "A797-A7A9/2 A7B5-A7C3/2 A7C8 A7CA A7CD-A7DB/2 A7F6"),
  (-232, "131"),
  (-300, "17F"),
  (195, "180"),
  (97, "195"),
  (163, "19A"),
  (42561, "19B"),
  (130, "19E 37B-37D"),
  (56, "1BF"),
  (-2, "1C6 1C9 1CC 1F3"),
  (-79, "1DD"),
  (10815, "23F-240"),
  (10783, "250"),
  (10780, "251"),
  (10782, "252"),
  (-210, "253"),
  (-206, "254"),
  (-205, "256-257 260"),
  (-202, "259"),
  (-203, "25B"),
  (42319, "25C"),
  (42315, "261"),
  (-207, "263"),
  (42343, "264"),
  (42280, "265"),
  (42308, "266 26A"),
  (-209, "268"),
  (-211, "269 26F"),
  (10743, "26B"),
  (42305, "26C"),
  (10749, "271"),
  (-213, "272"),
  (-214, "275"),
  (10727, "27D"),
  (-218, "280 283 288"),
  (42307, "282"),
  (42282, "287"),
  (-69, "289"),
  (-217, "28A-28B"),
  (-71, "28C"),
  (-219, "292"),
  (42261, "29D"),
  (42258, "29E"),
  (84, "345"),
  (-38, "3AC"),
  (-37, "3AD-3AF"),
  (-31, "3C2"),
  (-64, "3CC 10CC0-10CF2"),
  (-63, "3CD-3CE"),
  (-62, "3D0"),
  (-57, "3D1"),
  (-47, "3D5"),
  (-54, "3D6"),
  (-8, "3D7 13F8-13FD"),
  (-86, "3F0"),
  (-80, "3F1 450-45F"),
  (7, "3F2 1FE5"),
  (-116, "3F3"),
  (-96, "3F5"),
  (-15, "4CF"),
  (-48, "561-586 2C30-2C5F"),
  (3008, "10D0-10FA 10FD-10FF"),
  (-6254, "1C80"),
  (-6253, "1C81"),
  (-6244, "1C82"),
  (-6242, "1C83-1C84"),
  (-6243, "1C85"),
  (-6236, "1C86"),
  (-6181, "1C87"),
  (35266, "1C88"),
  (35332, "1D79"),
  (3814, "1D7D"),
  (35384, "1D8E"),
  (-59, "1E9B"),
  (8, "1F00-1F07 1F10-1F15 1F20-1F27 1F30-1F37 1F40-1F45 1F51-1F57/2 1F60-1F67 1FB0-1FB1 " ++
    "1FD0-1FD1 1FE0-1FE1"),
  (74, "1F70-1F71"),
  (86, "1F72-1F75"),
  (100, "1F76-1F77"),
  (128, "1F78-1F79"),
  (112, "1F7A-1F7B"),
  (126, "1F7C-1F7D"),
  (-7205, "1FBE"),
  (-28, "214E"),
  (-16, "2170-217F"),
  (-26, "24D0-24E9"),
  (-10795, "2C65"),
  (-10792, "2C66"),
  (-7264, "2D00-2D25 2D27 2D2D"),
  (48, "A794"),
  (-928, "AB53"),
  (-38864, "AB70-ABBF"),
  (-40, "10428-1044F 104D8-104FB"),
  (-39, "10597-105A1 105A3-105B1 105B3-105B9 105BB-105BC"),
  (-27, "16EBB-16ED3"),
  (-34, "1E922-1E943")]

/-- The upper cases of more than one character. -/
def expansions : List (Nat × List Nat) := [
  (0xDF, [0x53, 0x53]), (0x149, [0x2BC, 0x4E]), (0x1F0, [0x4A, 0x30C]),
  (0x390, [0x399, 0x308, 0x301]), (0x3B0, [0x3A5, 0x308, 0x301]), (0x587, [0x535, 0x552]),
  (0x1E96, [0x48, 0x331]), (0x1E97, [0x54, 0x308]), (0x1E98, [0x57, 0x30A]),
  (0x1E99, [0x59, 0x30A]), (0x1E9A, [0x41, 0x2BE]), (0x1F50, [0x3A5, 0x313]),
  (0x1F52, [0x3A5, 0x313, 0x300]), (0x1F54, [0x3A5, 0x313, 0x301]), (0x1F56, [0x3A5, 0x313, 0x342]),
  (0x1F80, [0x1F08, 0x399]), (0x1F81, [0x1F09, 0x399]), (0x1F82, [0x1F0A, 0x399]),
  (0x1F83, [0x1F0B, 0x399]), (0x1F84, [0x1F0C, 0x399]), (0x1F85, [0x1F0D, 0x399]),
  (0x1F86, [0x1F0E, 0x399]), (0x1F87, [0x1F0F, 0x399]), (0x1F88, [0x1F08, 0x399]),
  (0x1F89, [0x1F09, 0x399]), (0x1F8A, [0x1F0A, 0x399]), (0x1F8B, [0x1F0B, 0x399]),
  (0x1F8C, [0x1F0C, 0x399]), (0x1F8D, [0x1F0D, 0x399]), (0x1F8E, [0x1F0E, 0x399]),
  (0x1F8F, [0x1F0F, 0x399]), (0x1F90, [0x1F28, 0x399]), (0x1F91, [0x1F29, 0x399]),
  (0x1F92, [0x1F2A, 0x399]), (0x1F93, [0x1F2B, 0x399]), (0x1F94, [0x1F2C, 0x399]),
  (0x1F95, [0x1F2D, 0x399]), (0x1F96, [0x1F2E, 0x399]), (0x1F97, [0x1F2F, 0x399]),
  (0x1F98, [0x1F28, 0x399]), (0x1F99, [0x1F29, 0x399]), (0x1F9A, [0x1F2A, 0x399]),
  (0x1F9B, [0x1F2B, 0x399]), (0x1F9C, [0x1F2C, 0x399]), (0x1F9D, [0x1F2D, 0x399]),
  (0x1F9E, [0x1F2E, 0x399]), (0x1F9F, [0x1F2F, 0x399]), (0x1FA0, [0x1F68, 0x399]),
  (0x1FA1, [0x1F69, 0x399]), (0x1FA2, [0x1F6A, 0x399]), (0x1FA3, [0x1F6B, 0x399]),
  (0x1FA4, [0x1F6C, 0x399]), (0x1FA5, [0x1F6D, 0x399]), (0x1FA6, [0x1F6E, 0x399]),
  (0x1FA7, [0x1F6F, 0x399]), (0x1FA8, [0x1F68, 0x399]), (0x1FA9, [0x1F69, 0x399]),
  (0x1FAA, [0x1F6A, 0x399]), (0x1FAB, [0x1F6B, 0x399]), (0x1FAC, [0x1F6C, 0x399]),
  (0x1FAD, [0x1F6D, 0x399]), (0x1FAE, [0x1F6E, 0x399]), (0x1FAF, [0x1F6F, 0x399]),
  (0x1FB2, [0x1FBA, 0x399]), (0x1FB3, [0x391, 0x399]), (0x1FB4, [0x386, 0x399]),
  (0x1FB6, [0x391, 0x342]), (0x1FB7, [0x391, 0x342, 0x399]), (0x1FBC, [0x391, 0x399]),
  (0x1FC2, [0x1FCA, 0x399]), (0x1FC3, [0x397, 0x399]), (0x1FC4, [0x389, 0x399]),
  (0x1FC6, [0x397, 0x342]), (0x1FC7, [0x397, 0x342, 0x399]), (0x1FCC, [0x397, 0x399]),
  (0x1FD2, [0x399, 0x308, 0x300]), (0x1FD3, [0x399, 0x308, 0x301]), (0x1FD6, [0x399, 0x342]),
  (0x1FD7, [0x399, 0x308, 0x342]), (0x1FE2, [0x3A5, 0x308, 0x300]), (0x1FE3, [0x3A5, 0x308, 0x301]),
  (0x1FE4, [0x3A1, 0x313]), (0x1FE6, [0x3A5, 0x342]), (0x1FE7, [0x3A5, 0x308, 0x342]),
  (0x1FF2, [0x1FFA, 0x399]), (0x1FF3, [0x3A9, 0x399]), (0x1FF4, [0x38F, 0x399]),
  (0x1FF6, [0x3A9, 0x342]), (0x1FF7, [0x3A9, 0x342, 0x399]), (0x1FFC, [0x3A9, 0x399]),
  (0xFB00, [0x46, 0x46]), (0xFB01, [0x46, 0x49]), (0xFB02, [0x46, 0x4C]),
  (0xFB03, [0x46, 0x46, 0x49]), (0xFB04, [0x46, 0x46, 0x4C]), (0xFB05, [0x53, 0x54]),
  (0xFB06, [0x53, 0x54]), (0xFB13, [0x544, 0x546]), (0xFB14, [0x544, 0x535]),
  (0xFB15, [0x544, 0x53B]), (0xFB16, [0x54E, 0x546]), (0xFB17, [0x544, 0x53D])]

/-- Upper, lower and title case letters, and what looks like them. -/
def cased : String :=
  "41-5A 61-7A AA B5 BA C0-D6 D8-F6 F8-1BA 1BC-1BF 1C4-293 296-2B8 2C0-2C1 2E0-2E4 345 370-373 " ++
  "376-377 37A-37D 37F 386 388-38A 38C 38E-3A1 3A3-3F5 3F7-481 48A-52F 531-556 560-588 " ++
  "10A0-10C5 10C7 10CD 10D0-10FA 10FC-10FF 13A0-13F5 13F8-13FD 1C80-1C8A 1C90-1CBA 1CBD-1CBF " ++
  "1D00-1DBF 1E00-1F15 1F18-1F1D 1F20-1F45 1F48-1F4D 1F50-1F57 1F59-1F5D/2 1F5F-1F7D 1F80-1FB4 " ++
  "1FB6-1FBC 1FBE 1FC2-1FC4 1FC6-1FCC 1FD0-1FD3 1FD6-1FDB 1FE0-1FEC 1FF2-1FF4 1FF6-1FFC 2071 " ++
  "207F 2090-209C 2102 2107 210A-2113 2115 2119-211D 2124-2128/2 212A-212D 212F-2134 2139 " ++
  "213C-213F 2145-2149 214E 2160-217F 2183-2184 24B6-24E9 2C00-2CE4 2CEB-2CEE 2CF2-2CF3 " ++
  "2D00-2D25 2D27 2D2D A640-A66D A680-A69D A722-A787 A78B-A78E A790-A7DC A7F1-A7F6 A7F8-A7FA " ++
  "AB30-AB5A AB5C-AB69 AB70-ABBF FB00-FB06 FB13-FB17 FF21-FF3A FF41-FF5A 10400-1044F " ++
  "104B0-104D3 104D8-104FB 10570-1057A 1057C-1058A 1058C-10592 10594-10595 10597-105A1 " ++
  "105A3-105B1 105B3-105B9 105BB-105BC 10780 10783-10785 10787-107B0 107B2-107BA 10C80-10CB2 " ++
  "10CC0-10CF2 10D50-10D65 10D70-10D85 118A0-118DF 16E40-16E7F 16EA0-16EB8 16EBB-16ED3 " ++
  "1D400-1D454 1D456-1D49C 1D49E-1D49F 1D4A2 1D4A5-1D4A6 1D4A9-1D4AC 1D4AE-1D4B9 1D4BB " ++
  "1D4BD-1D4C3 1D4C5-1D505 1D507-1D50A 1D50D-1D514 1D516-1D51C 1D51E-1D539 1D53B-1D53E " ++
  "1D540-1D544 1D546 1D54A-1D550 1D552-1D6A5 1D6A8-1D6C0 1D6C2-1D6DA 1D6DC-1D6FA 1D6FC-1D714 " ++
  "1D716-1D734 1D736-1D74E 1D750-1D76E 1D770-1D788 1D78A-1D7A8 1D7AA-1D7C2 1D7C4-1D7CB " ++
  "1DF00-1DF09 1DF0B-1DF1E 1DF25-1DF2A 1E030-1E06D 1E900-1E943 1F130-1F149 1F150-1F169 " ++
  "1F170-1F189"

/-- Marks and signs that do not interrupt a word. -/
def ignorable : String :=
  "27 2E 3A 5E 60 A8 AD AF B4 B7-B8 2B0-36F 374-375 37A 384-385 387 483-489 559 55F 591-5BD 5BF " ++
  "5C1-5C2 5C4-5C5 5C7 5F4 600-605 610-61A 61C 640 64B-65F 670 6D6-6DD 6DF-6E8 6EA-6ED 70F 711 " ++
  "730-74A 7A6-7B0 7EB-7F5 7FA 7FD 816-82D 859-85B 888 890-891 897-89F 8C9-902 93A 93C 941-948 " ++
  "94D 951-957 962-963 971 981 9BC 9C1-9C4 9CD 9E2-9E3 9FE A01-A02 A3C A41-A42 A47-A48 A4B-A4D " ++
  "A51 A70-A71 A75 A81-A82 ABC AC1-AC5 AC7-AC8 ACD AE2-AE3 AFA-AFF B01 B3C B3F B41-B44 B4D " ++
  "B55-B56 B62-B63 B82 BC0 BCD C00 C04 C3C C3E-C40 C46-C48 C4A-C4D C55-C56 C62-C63 C81 CBC CBF " ++
  "CC6 CCC-CCD CE2-CE3 D00-D01 D3B-D3C D41-D44 D4D D62-D63 D81 DCA DD2-DD4 DD6 E31 E34-E3A " ++
  "E46-E4E EB1 EB4-EBC EC6 EC8-ECE F18-F19 F35-F39/2 F71-F7E F80-F84 F86-F87 F8D-F97 F99-FBC " ++
  "FC6 102D-1030 1032-1037 1039-103A 103D-103E 1058-1059 105E-1060 1071-1074 1082 1085-1086 " ++
  "108D 109D 10FC 135D-135F 1712-1714 1732-1733 1752-1753 1772-1773 17B4-17B5 17B7-17BD 17C6 " ++
  "17C9-17D3 17D7 17DD 180B-180F 1843 1885-1886 18A9 1920-1922 1927-1928 1932 1939-193B " ++
  "1A17-1A18 1A1B 1A56 1A58-1A5E 1A60 1A62 1A65-1A6C 1A73-1A7C 1A7F 1AA7 1AB0-1ADD 1AE0-1AEB " ++
  "1B00-1B03 1B34 1B36-1B3A 1B3C 1B42 1B6B-1B73 1B80-1B81 1BA2-1BA5 1BA8-1BA9 1BAB-1BAD 1BE6 " ++
  "1BE8-1BE9 1BED 1BEF-1BF1 1C2C-1C33 1C36-1C37 1C78-1C7D 1CD0-1CD2 1CD4-1CE0 1CE2-1CE8 1CED " ++
  "1CF4 1CF8-1CF9 1D2C-1D6A 1D78 1D9B-1DFF 1FBD 1FBF-1FC1 1FCD-1FCF 1FDD-1FDF 1FED-1FEF " ++
  "1FFD-1FFE 200B-200F 2018-2019 2024 2027 202A-202E 2060-2064 2066-206F 2071 207F 2090-209C " ++
  "20D0-20F0 2C7C-2C7D 2CEF-2CF1 2D6F 2D7F 2DE0-2DFF 2E2F 3005 302A-302D 3031-3035 303B " ++
  "3099-309E 30FC-30FE A015 A4F8-A4FD A60C A66F-A672 A674-A67D A67F A69C-A69F A6F0-A6F1 " ++
  "A700-A721 A770 A788-A78A A7F1-A7F4 A7F8-A7F9 A802 A806 A80B A825-A826 A82C A8C4-A8C5 " ++
  "A8E0-A8F1 A8FF A926-A92D A947-A951 A980-A982 A9B3 A9B6-A9B9 A9BC-A9BD A9CF A9E5-A9E6 " ++
  "AA29-AA2E AA31-AA32 AA35-AA36 AA43 AA4C AA70 AA7C AAB0 AAB2-AAB4 AAB7-AAB8 AABE-AABF AAC1 " ++
  "AADD AAEC-AAED AAF3-AAF4 AAF6 AB5B-AB5F AB69-AB6B ABE5 ABE8 ABED FB1E FBB2-FBC2 FE00-FE0F " ++
  "FE13 FE20-FE2F FE52 FE55 FEFF FF07 FF0E FF1A FF3E FF40 FF70 FF9E-FF9F FFE3 FFF9-FFFB 101FD " ++
  "102E0 10376-1037A 10780-10785 10787-107B0 107B2-107BA 10A01-10A03 10A05-10A06 10A0C-10A0F " ++
  "10A38-10A3A 10A3F 10AE5-10AE6 10D24-10D27 10D4E 10D69-10D6D 10D6F 10EAB-10EAC 10EC5 " ++
  "10EFA-10EFF 10F46-10F50 10F82-10F85 11001 11038-11046 11070 11073-11074 1107F-11081 " ++
  "110B3-110B6 110B9-110BA 110BD 110C2 110CD 11100-11102 11127-1112B 1112D-11134 11173 " ++
  "11180-11181 111B6-111BE 111C9-111CC 111CF 1122F-11231 11234 11236-11237 1123E 11241 112DF " ++
  "112E3-112EA 11300-11301 1133B-1133C 11340 11366-1136C 11370-11374 113BB-113C0 113CE-113D2/2 " ++
  "113E1-113E2 11438-1143F 11442-11444 11446 1145E 114B3-114B8 114BA 114BF-114C0 114C2-114C3 " ++
  "115B2-115B5 115BC-115BD 115BF-115C0 115DC-115DD 11633-1163A 1163D 1163F-11640 116AB 116AD " ++
  "116B0-116B5 116B7 1171D 1171F 11722-11725 11727-1172B 1182F-11837 11839-1183A 1193B-1193C " ++
  "1193E 11943 119D4-119D7 119DA-119DB 119E0 11A01-11A0A 11A33-11A38 11A3B-11A3E 11A47 " ++
  "11A51-11A56 11A59-11A5B 11A8A-11A96 11A98-11A99 11B60 11B62-11B64 11B66 11C30-11C36 " ++
  "11C38-11C3D 11C3F 11C92-11CA7 11CAA-11CB0 11CB2-11CB3 11CB5-11CB6 11D31-11D36 11D3A " ++
  "11D3C-11D3D 11D3F-11D45 11D47 11D90-11D91 11D95 11D97 11DD9 11EF3-11EF4 11F00-11F01 " ++
  "11F36-11F3A 11F40 11F42 11F5A 13430-13440 13447-13455 1611E-16129 1612D-1612F 16AF0-16AF4 " ++
  "16B30-16B36 16B40-16B43 16D40-16D42 16D6B-16D6C 16F4F 16F8F-16F9F 16FE0-16FE1 16FE3-16FE4 " ++
  "16FF2-16FF3 1AFF0-1AFF3 1AFF5-1AFFB 1AFFD-1AFFE 1BC9D-1BC9E 1BCA0-1BCA3 1CF00-1CF2D " ++
  "1CF30-1CF46 1D167-1D169 1D173-1D182 1D185-1D18B 1D1AA-1D1AD 1D242-1D244 1DA00-1DA36 " ++
  "1DA3B-1DA6C 1DA75 1DA84 1DA9B-1DA9F 1DAA1-1DAAF 1E000-1E006 1E008-1E018 1E01B-1E021 " ++
  "1E023-1E024 1E026-1E02A 1E030-1E06D 1E08F 1E130-1E13D 1E2AE 1E2EC-1E2EF 1E4EB-1E4EF " ++
  "1E5EE-1E5EF 1E6E3 1E6E6 1E6EE-1E6EF 1E6F5 1E6FF 1E8D0-1E8D6 1E944-1E94B 1F3FB-1F3FF E0001 " ++
  "E0020-E007F E0100-E01EF"

end Templating.CaseTable
