import SoloScript.Http.Name.Spelling

/-!
# Composed characters

A character and the marks behind it can often be written in several ways: as one character or as
several, with the marks in one order or another.  `canonical` chooses one: it takes all characters
apart, puts marks into the order of their classes where that makes no difference, and puts
characters together again as far as it can.  The tables cover the characters that may stand in a
name; Unicode fixes them.
-/

namespace SoloScript.Http.Name

/-- The classes of marks: marks of different classes do not touch each other. -/
def classes : List (Nat × Nat × Nat) :=
  [(0x300, 0x314, 230), (0x315, 0x315, 232), (0x316, 0x319, 220), (0x31A, 0x31A, 232),
    (0x31B, 0x31B, 216), (0x31C, 0x320, 220), (0x321, 0x322, 202), (0x323, 0x326, 220),
    (0x327, 0x328, 202), (0x329, 0x333, 220), (0x334, 0x338, 1), (0x339, 0x33C, 220),
    (0x33D, 0x346, 230), (0x347, 0x349, 220), (0x34A, 0x34C, 230), (0x34D, 0x34E, 220),
    (0x350, 0x352, 230), (0x353, 0x356, 220), (0x357, 0x357, 230), (0x358, 0x358, 232),
    (0x359, 0x35A, 220), (0x35B, 0x35B, 230), (0x35C, 0x35C, 233), (0x35D, 0x35E, 234),
    (0x35F, 0x35F, 233), (0x360, 0x361, 234), (0x362, 0x362, 233), (0x363, 0x36F, 230),
    (0x483, 0x487, 230), (0x591, 0x591, 220), (0x592, 0x595, 230), (0x596, 0x596, 220),
    (0x597, 0x599, 230), (0x59A, 0x59A, 222), (0x59B, 0x59B, 220), (0x59C, 0x5A1, 230),
    (0x5A2, 0x5A7, 220), (0x5A8, 0x5A9, 230), (0x5AA, 0x5AA, 220), (0x5AB, 0x5AC, 230),
    (0x5AD, 0x5AD, 222), (0x5AE, 0x5AE, 228), (0x5AF, 0x5AF, 230), (0x5B0, 0x5B0, 10),
    (0x5B1, 0x5B1, 11), (0x5B2, 0x5B2, 12), (0x5B3, 0x5B3, 13), (0x5B4, 0x5B4, 14),
    (0x5B5, 0x5B5, 15), (0x5B6, 0x5B6, 16), (0x5B7, 0x5B7, 17), (0x5B8, 0x5B8, 18),
    (0x5B9, 0x5BA, 19), (0x5BB, 0x5BB, 20), (0x5BC, 0x5BC, 21), (0x5BD, 0x5BD, 22),
    (0x5BF, 0x5BF, 23), (0x5C1, 0x5C1, 24), (0x5C2, 0x5C2, 25), (0x5C4, 0x5C4, 230),
    (0x5C5, 0x5C5, 220), (0x5C7, 0x5C7, 18), (0x610, 0x617, 230), (0x618, 0x618, 30),
    (0x619, 0x619, 31), (0x61A, 0x61A, 32), (0x64B, 0x64B, 27), (0x64C, 0x64C, 28),
    (0x64D, 0x64D, 29), (0x64E, 0x64E, 30), (0x64F, 0x64F, 31), (0x650, 0x650, 32),
    (0x651, 0x651, 33), (0x652, 0x652, 34), (0x653, 0x654, 230), (0x655, 0x656, 220),
    (0x657, 0x65B, 230), (0x65C, 0x65C, 220), (0x65D, 0x65E, 230), (0x65F, 0x65F, 220),
    (0x670, 0x670, 35), (0x6D6, 0x6DC, 230), (0x6DF, 0x6E2, 230), (0x6E3, 0x6E3, 220),
    (0x6E4, 0x6E4, 230), (0x6E7, 0x6E8, 230), (0x6EA, 0x6EA, 220), (0x6EB, 0x6EC, 230),
    (0x6ED, 0x6ED, 220), (0x711, 0x711, 36), (0x730, 0x730, 230), (0x731, 0x731, 220),
    (0x732, 0x733, 230), (0x734, 0x734, 220), (0x735, 0x736, 230), (0x737, 0x739, 220),
    (0x73A, 0x73A, 230), (0x73B, 0x73C, 220), (0x73D, 0x73D, 230), (0x73E, 0x73E, 220),
    (0x73F, 0x741, 230), (0x742, 0x742, 220), (0x743, 0x743, 230), (0x744, 0x744, 220),
    (0x745, 0x745, 230), (0x746, 0x746, 220), (0x747, 0x747, 230), (0x748, 0x748, 220),
    (0x749, 0x74A, 230), (0x7EB, 0x7F1, 230), (0x7F2, 0x7F2, 220), (0x7F3, 0x7F3, 230),
    (0x7FD, 0x7FD, 220), (0x816, 0x819, 230), (0x81B, 0x823, 230), (0x825, 0x827, 230),
    (0x829, 0x82D, 230), (0x859, 0x85B, 220), (0x897, 0x898, 230), (0x899, 0x89B, 220),
    (0x89C, 0x89F, 230), (0x8CA, 0x8CE, 230), (0x8CF, 0x8D3, 220), (0x8D4, 0x8E1, 230),
    (0x8E3, 0x8E3, 220), (0x8E4, 0x8E5, 230), (0x8E6, 0x8E6, 220), (0x8E7, 0x8E8, 230),
    (0x8E9, 0x8E9, 220), (0x8EA, 0x8EC, 230), (0x8ED, 0x8EF, 220), (0x8F0, 0x8F0, 27),
    (0x8F1, 0x8F1, 28), (0x8F2, 0x8F2, 29), (0x8F3, 0x8F5, 230), (0x8F6, 0x8F6, 220),
    (0x8F7, 0x8F8, 230), (0x8F9, 0x8FA, 220), (0x8FB, 0x8FF, 230), (0x93C, 0x93C, 7),
    (0x94D, 0x94D, 9), (0x951, 0x951, 230), (0x952, 0x952, 220), (0x953, 0x954, 230),
    (0x9BC, 0x9BC, 7), (0x9CD, 0x9CD, 9), (0x9FE, 0x9FE, 230), (0xA3C, 0xA3C, 7), (0xA4D, 0xA4D, 9),
    (0xABC, 0xABC, 7), (0xACD, 0xACD, 9), (0xB3C, 0xB3C, 7), (0xB4D, 0xB4D, 9), (0xBCD, 0xBCD, 9),
    (0xC3C, 0xC3C, 7), (0xC4D, 0xC4D, 9), (0xC55, 0xC55, 84), (0xC56, 0xC56, 91), (0xCBC, 0xCBC, 7),
    (0xCCD, 0xCCD, 9), (0xD3B, 0xD3C, 9), (0xD4D, 0xD4D, 9), (0xDCA, 0xDCA, 9), (0xE38, 0xE39, 103),
    (0xE3A, 0xE3A, 9), (0xE48, 0xE4B, 107), (0xEB8, 0xEB9, 118), (0xEBA, 0xEBA, 9),
    (0xEC8, 0xECB, 122), (0xF18, 0xF19, 220), (0xF35, 0xF35, 220), (0xF37, 0xF37, 220),
    (0xF39, 0xF39, 216), (0xF71, 0xF71, 129), (0xF72, 0xF72, 130), (0xF74, 0xF74, 132),
    (0xF7A, 0xF7D, 130), (0xF80, 0xF80, 130), (0xF82, 0xF83, 230), (0xF84, 0xF84, 9),
    (0xF86, 0xF87, 230), (0xFC6, 0xFC6, 220), (0x1037, 0x1037, 7), (0x1039, 0x103A, 9),
    (0x108D, 0x108D, 220), (0x135D, 0x135F, 230), (0x1714, 0x1715, 9), (0x1734, 0x1734, 9),
    (0x17D2, 0x17D2, 9), (0x17DD, 0x17DD, 230), (0x18A9, 0x18A9, 228), (0x1939, 0x1939, 222),
    (0x193A, 0x193A, 230), (0x193B, 0x193B, 220), (0x1A17, 0x1A17, 230), (0x1A18, 0x1A18, 220),
    (0x1A60, 0x1A60, 9), (0x1A75, 0x1A7C, 230), (0x1A7F, 0x1A7F, 220), (0x1AB0, 0x1AB4, 230),
    (0x1AB5, 0x1ABA, 220), (0x1ABB, 0x1ABC, 230), (0x1ABD, 0x1ABD, 220), (0x1ABF, 0x1AC0, 220),
    (0x1AC1, 0x1AC2, 230), (0x1AC3, 0x1AC4, 220), (0x1AC5, 0x1AC9, 230), (0x1ACA, 0x1ACA, 220),
    (0x1ACB, 0x1ADC, 230), (0x1ADD, 0x1ADD, 220), (0x1AE0, 0x1AE5, 230), (0x1AE6, 0x1AE6, 220),
    (0x1AE7, 0x1AEA, 230), (0x1AEB, 0x1AEB, 234), (0x1B34, 0x1B34, 7), (0x1B44, 0x1B44, 9),
    (0x1B6B, 0x1B6B, 230), (0x1B6C, 0x1B6C, 220), (0x1B6D, 0x1B73, 230), (0x1BAA, 0x1BAB, 9),
    (0x1BE6, 0x1BE6, 7), (0x1BF2, 0x1BF3, 9), (0x1C37, 0x1C37, 7), (0x1CD0, 0x1CD2, 230),
    (0x1CD4, 0x1CD4, 1), (0x1CD5, 0x1CD9, 220), (0x1CDA, 0x1CDB, 230), (0x1CDC, 0x1CDF, 220),
    (0x1CE0, 0x1CE0, 230), (0x1CE2, 0x1CE8, 1), (0x1CED, 0x1CED, 220), (0x1CF4, 0x1CF4, 230),
    (0x1CF8, 0x1CF9, 230), (0x1DC0, 0x1DC1, 230), (0x1DC2, 0x1DC2, 220), (0x1DC3, 0x1DC9, 230),
    (0x1DCA, 0x1DCA, 220), (0x1DCB, 0x1DCC, 230), (0x1DCD, 0x1DCD, 234), (0x1DCE, 0x1DCE, 214),
    (0x1DCF, 0x1DCF, 220), (0x1DD0, 0x1DD0, 202), (0x1DD1, 0x1DF5, 230), (0x1DF6, 0x1DF6, 232),
    (0x1DF7, 0x1DF8, 228), (0x1DF9, 0x1DF9, 220), (0x1DFA, 0x1DFA, 218), (0x1DFB, 0x1DFB, 230),
    (0x1DFC, 0x1DFC, 233), (0x1DFD, 0x1DFD, 220), (0x1DFE, 0x1DFE, 230), (0x1DFF, 0x1DFF, 220),
    (0x20D0, 0x20D1, 230), (0x20D2, 0x20D3, 1), (0x20D4, 0x20D7, 230), (0x20D8, 0x20DA, 1),
    (0x20DB, 0x20DC, 230), (0x20E1, 0x20E1, 230), (0x20E5, 0x20E6, 1), (0x20E7, 0x20E7, 230),
    (0x20E8, 0x20E8, 220), (0x20E9, 0x20E9, 230), (0x20EA, 0x20EB, 1), (0x20EC, 0x20EF, 220),
    (0x20F0, 0x20F0, 230), (0x2CEF, 0x2CF1, 230), (0x2D7F, 0x2D7F, 9), (0x2DE0, 0x2DFF, 230),
    (0x302A, 0x302A, 218), (0x302B, 0x302B, 228), (0x302C, 0x302C, 232), (0x302D, 0x302D, 222),
    (0x302E, 0x302F, 224), (0x3099, 0x309A, 8), (0xA66F, 0xA66F, 230), (0xA674, 0xA67D, 230),
    (0xA69E, 0xA69F, 230), (0xA6F0, 0xA6F1, 230), (0xA806, 0xA806, 9), (0xA82C, 0xA82C, 9),
    (0xA8C4, 0xA8C4, 9), (0xA8E0, 0xA8F1, 230), (0xA92B, 0xA92D, 220), (0xA953, 0xA953, 9),
    (0xA9B3, 0xA9B3, 7), (0xA9C0, 0xA9C0, 9), (0xAAB0, 0xAAB0, 230), (0xAAB2, 0xAAB3, 230),
    (0xAAB4, 0xAAB4, 220), (0xAAB7, 0xAAB8, 230), (0xAABE, 0xAABF, 230), (0xAAC1, 0xAAC1, 230),
    (0xAAF6, 0xAAF6, 9), (0xABED, 0xABED, 9), (0xFB1E, 0xFB1E, 26), (0xFE20, 0xFE26, 230),
    (0xFE27, 0xFE2D, 220), (0xFE2E, 0xFE2F, 230), (0x101FD, 0x101FD, 220), (0x102E0, 0x102E0, 220),
    (0x10376, 0x1037A, 230), (0x10A0D, 0x10A0D, 220), (0x10A0F, 0x10A0F, 230),
    (0x10A38, 0x10A38, 230), (0x10A39, 0x10A39, 1), (0x10A3A, 0x10A3A, 220), (0x10A3F, 0x10A3F, 9),
    (0x10AE5, 0x10AE5, 230), (0x10AE6, 0x10AE6, 220), (0x10D24, 0x10D27, 230),
    (0x10D69, 0x10D6D, 230), (0x10EAB, 0x10EAC, 230), (0x10EFA, 0x10EFB, 220),
    (0x10EFD, 0x10EFF, 220), (0x10F46, 0x10F47, 220), (0x10F48, 0x10F4A, 230),
    (0x10F4B, 0x10F4B, 220), (0x10F4C, 0x10F4C, 230), (0x10F4D, 0x10F50, 220),
    (0x10F82, 0x10F82, 230), (0x10F83, 0x10F83, 220), (0x10F84, 0x10F84, 230),
    (0x10F85, 0x10F85, 220), (0x11046, 0x11046, 9), (0x11070, 0x11070, 9), (0x1107F, 0x1107F, 9),
    (0x110B9, 0x110B9, 9), (0x110BA, 0x110BA, 7), (0x11100, 0x11102, 230), (0x11133, 0x11134, 9),
    (0x11173, 0x11173, 7), (0x111C0, 0x111C0, 9), (0x111CA, 0x111CA, 7), (0x11235, 0x11235, 9),
    (0x11236, 0x11236, 7), (0x112E9, 0x112E9, 7), (0x112EA, 0x112EA, 9), (0x1133B, 0x1133C, 7),
    (0x1134D, 0x1134D, 9), (0x11366, 0x11374, 230), (0x113CE, 0x113D0, 9), (0x11442, 0x11442, 9),
    (0x11446, 0x11446, 7), (0x1145E, 0x1145E, 230), (0x114C2, 0x114C2, 9), (0x114C3, 0x114C3, 7),
    (0x115BF, 0x115BF, 9), (0x115C0, 0x115C0, 7), (0x1163F, 0x1163F, 9), (0x116B6, 0x116B6, 9),
    (0x116B7, 0x116B7, 7), (0x1172B, 0x1172B, 9), (0x11839, 0x11839, 9), (0x1183A, 0x1183A, 7),
    (0x1193D, 0x1193E, 9), (0x11943, 0x11943, 7), (0x119E0, 0x119E0, 9), (0x11A34, 0x11A34, 9),
    (0x11A47, 0x11A47, 9), (0x11A99, 0x11A99, 9), (0x11C3F, 0x11C3F, 9), (0x11D42, 0x11D42, 7),
    (0x11D44, 0x11D45, 9), (0x11D97, 0x11D97, 9), (0x11F41, 0x11F42, 9), (0x1612F, 0x1612F, 9),
    (0x16AF0, 0x16AF4, 1), (0x16B30, 0x16B36, 230), (0x16FF0, 0x16FF1, 6), (0x1BC9E, 0x1BC9E, 1),
    (0x1D165, 0x1D166, 216), (0x1D167, 0x1D169, 1), (0x1D16D, 0x1D16D, 226),
    (0x1D16E, 0x1D172, 216), (0x1D17B, 0x1D182, 220), (0x1D185, 0x1D189, 230),
    (0x1D18A, 0x1D18B, 220), (0x1D1AA, 0x1D1AD, 230), (0x1D242, 0x1D244, 230),
    (0x1E000, 0x1E08F, 230), (0x1E130, 0x1E136, 230), (0x1E2AE, 0x1E2AE, 230),
    (0x1E2EC, 0x1E2EF, 230), (0x1E4EC, 0x1E4ED, 232), (0x1E4EE, 0x1E4EE, 220),
    (0x1E4EF, 0x1E4EF, 230), (0x1E5EE, 0x1E5EE, 230), (0x1E5EF, 0x1E5EF, 220),
    (0x1E6E3, 0x1E6E3, 230), (0x1E6E6, 0x1E6E6, 230), (0x1E6EE, 0x1E6EF, 230),
    (0x1E6F5, 0x1E6F5, 230), (0x1E8D0, 0x1E8D6, 220), (0x1E944, 0x1E949, 230),
    (0x1E94A, 0x1E94A, 7)]

/-- Characters that are composed of two: the second, and for each first one the two code points
of the first and of the composed character. -/
def compositions : List (Nat × String) :=
  [(0x300, "61.E0 65.E8 69.EC 6E.1F9 6F.F2 75.F9 77.1E81 79.1EF3 E2.1EA7 EA.1EC1 F4.1ED3"),
    (0x300, "FC.1DC 103.1EB1 113.1E15 14D.1E51 1A1.1EDD 1B0.1EEB 3B1.1F70 3B5.1F72 3B7.1F74"),
    (0x300, "3B9.1F76 3BF.1F78 3C5.1F7A 3C9.1F7C 3CA.1FD2 3CB.1FE2 435.450 438.45D 1F00.1F02"),
    (0x300, "1F01.1F03 1F10.1F12 1F11.1F13 1F20.1F22 1F21.1F23 1F30.1F32 1F31.1F33 1F40.1F42"),
    (0x300, "1F41.1F43 1F50.1F52 1F51.1F53 1F60.1F62 1F61.1F63"),
    (0x301, "61.E1 63.107 65.E9 67.1F5 69.ED 6B.1E31 6C.13A 6D.1E3F 6E.144 6F.F3 70.1E55"),
    (0x301, "72.155 73.15B 75.FA 77.1E83 79.FD 7A.17A E2.1EA5 E5.1FB E6.1FD E7.1E09 EA.1EBF"),
    (0x301, "EF.1E2F F4.1ED1 F5.1E4D F8.1FF FC.1D8 103.1EAF 113.1E17 14D.1E53 169.1E79"),
    (0x301, "1A1.1EDB 1B0.1EE9 3B1.3AC 3B5.3AD 3B7.3AE 3B9.3AF 3BF.3CC 3C5.3CD 3C9.3CE"),
    (0x301, "3CA.390 3CB.3B0 433.453 43A.45C 1F00.1F04 1F01.1F05 1F10.1F14 1F11.1F15"),
    (0x301, "1F20.1F24 1F21.1F25 1F30.1F34 1F31.1F35 1F40.1F44 1F41.1F45 1F50.1F54 1F51.1F55"),
    (0x301, "1F60.1F64 1F61.1F65"),
    (0x302, "61.E2 63.109 65.EA 67.11D 68.125 69.EE 6A.135 6F.F4 73.15D 75.FB 77.175 79.177"),
    (0x302, "7A.1E91 1EA1.1EAD 1EB9.1EC7 1ECD.1ED9"),
    (0x303, "61.E3 65.1EBD 69.129 6E.F1 6F.F5 75.169 76.1E7D 79.1EF9 E2.1EAB EA.1EC5 F4.1ED7"),
    (0x303, "103.1EB5 1A1.1EE1 1B0.1EEF"),
    (0x304, "61.101 65.113 67.1E21 69.12B 6F.14D 75.16B 79.233 E4.1DF E6.1E3 F5.22D F6.22B"),
    (0x304, "FC.1D6 1EB.1ED 227.1E1 22F.231 3B1.1FB1 3B9.1FD1 3C5.1FE1 438.4E3 443.4EF"),
    (0x304, "1E37.1E39 1E5B.1E5D"),
    (0x306, "61.103 65.115 67.11F 69.12D 6F.14F 75.16D 229.1E1D 3B1.1FB0 3B9.1FD0 3C5.1FE0"),
    (0x306, "430.4D1 435.4D7 436.4C2 438.439 443.45E 1EA1.1EB7"),
    (0x307, "61.227 62.1E03 63.10B 64.1E0B 65.117 66.1E1F 67.121 68.1E23 6D.1E41 6E.1E45"),
    (0x307, "6F.22F 70.1E57 72.1E59 73.1E61 74.1E6B 77.1E87 78.1E8B 79.1E8F 7A.17C 15B.1E65"),
    (0x307, "161.1E67 1E63.1E69 105D2.105C9 105DA.105E4"),
    (0x308, "61.E4 65.EB 68.1E27 69.EF 6F.F6 74.1E97 75.FC 77.1E85 78.1E8D 79.FF F5.1E4F"),
    (0x308, "16B.1E7B 3B9.3CA 3C5.3CB 430.4D3 435.451 436.4DD 437.4DF 438.4E5 43E.4E7 443.4F1"),
    (0x308, "447.4F5 44B.4F9 44D.4ED 456.457 4D9.4DB 4E9.4EB"),
    (0x309, "61.1EA3 65.1EBB 69.1EC9 6F.1ECF 75.1EE7 79.1EF7 E2.1EA9 EA.1EC3 F4.1ED5 103.1EB3"),
    (0x309, "1A1.1EDF 1B0.1EED"), (0x30A, "61.E5 75.16F 77.1E98 79.1E99"),
    (0x30B, "6F.151 75.171 443.4F3"),
    (0x30C, "61.1CE 63.10D 64.10F 65.11B 67.1E7 68.21F 69.1D0 6A.1F0 6B.1E9 6C.13E 6E.148"),
    (0x30C, "6F.1D2 72.159 73.161 74.165 75.1D4 7A.17E FC.1DA 292.1EF"),
    (0x30F, "61.201 65.205 69.209 6F.20D 72.211 75.215 475.477"),
    (0x311, "61.203 65.207 69.20B 6F.20F 72.213 75.217"),
    (0x313, "3B1.1F00 3B5.1F10 3B7.1F20 3B9.1F30 3BF.1F40 3C1.1FE4 3C5.1F50 3C9.1F60"),
    (0x314, "3B1.1F01 3B5.1F11 3B7.1F21 3B9.1F31 3BF.1F41 3C1.1FE5 3C5.1F51 3C9.1F61"),
    (0x31B, "6F.1A1 75.1B0"),
    (0x323, "61.1EA1 62.1E05 64.1E0D 65.1EB9 68.1E25 69.1ECB 6B.1E33 6C.1E37 6D.1E43 6E.1E47"),
    (0x323, "6F.1ECD 72.1E5B 73.1E63 74.1E6D 75.1EE5 76.1E7F 77.1E89 79.1EF5 7A.1E93 1A1.1EE3"),
    (0x323, "1B0.1EF1"), (0x324, "75.1E73"), (0x325, "61.1E01"), (0x326, "73.219 74.21B"),
    (0x327, "63.E7 64.1E11 65.229 67.123 68.1E29 6B.137 6C.13C 6E.146 72.157 73.15F 74.163"),
    (0x328, "61.105 65.119 69.12F 6F.1EB 75.173"),
    (0x32D, "64.1E13 65.1E19 6C.1E3D 6E.1E4B 74.1E71 75.1E77"), (0x32E, "68.1E2B"),
    (0x330, "65.1E1B 69.1E2D 75.1E75"),
    (0x331, "62.1E07 64.1E0F 68.1E96 6B.1E35 6C.1E3B 6E.1E49 72.1E5F 74.1E6F 7A.1E95"),
    (0x338, "3C.226E 3D.2260 3E.226F 2190.219A 2192.219B 2194.21AE 21D0.21CD 21D2.21CF"),
    (0x338, "21D4.21CE 2203.2204 2208.2209 220B.220C 2223.2224 2225.2226 223C.2241 2243.2244"),
    (0x338, "2245.2247 2248.2249 224D.226D 2261.2262 2264.2270 2265.2271 2272.2274 2273.2275"),
    (0x338, "2276.2278 2277.2279 227A.2280 227B.2281 227C.22E0 227D.22E1 2282.2284 2283.2285"),
    (0x338, "2286.2288 2287.2289 2291.22E2 2292.22E3 22A2.22AC 22A8.22AD 22A9.22AE 22AB.22AF"),
    (0x338, "22B2.22EA 22B3.22EB 22B4.22EC 22B5.22ED"),
    (0x342, "3B1.1FB6 3B7.1FC6 3B9.1FD6 3C5.1FE6 3C9.1FF6 3CA.1FD7 3CB.1FE7 1F00.1F06"),
    (0x342, "1F01.1F07 1F20.1F26 1F21.1F27 1F30.1F36 1F31.1F37 1F50.1F56 1F51.1F57 1F60.1F66"),
    (0x342, "1F61.1F67"), (0x653, "627.622"),
    (0x654, "627.623 648.624 64A.626 6C1.6C2 6D2.6D3 6D5.6C0"), (0x655, "627.625"),
    (0x93C, "928.929 930.931 933.934"), (0x9BE, "9C7.9CB"), (0x9D7, "9C7.9CC"), (0xB3E, "B47.B4B"),
    (0xB56, "B47.B48"), (0xB57, "B47.B4C"), (0xBBE, "BC6.BCA BC7.BCB"), (0xBD7, "B92.B94 BC6.BCC"),
    (0xC56, "C46.C48"), (0xCC2, "CC6.CCA"), (0xCD5, "CBF.CC0 CC6.CC7 CCA.CCB"), (0xCD6, "CC6.CC8"),
    (0xD3E, "D46.D4A D47.D4B"), (0xD57, "D46.D4C"), (0xDCA, "DD9.DDA DDC.DDD"), (0xDCF, "DD9.DDC"),
    (0xDDF, "DD9.DDE"), (0x102E, "1025.1026"),
    (0x1B35, "1B05.1B06 1B07.1B08 1B09.1B0A 1B0B.1B0C 1B0D.1B0E 1B11.1B12 1B3A.1B3B 1B3C.1B3D"),
    (0x1B35, "1B3E.1B40 1B3F.1B41 1B42.1B43"),
    (0x3099, "3046.3094 304B.304C 304D.304E 304F.3050 3051.3052 3053.3054 3055.3056 3057.3058"),
    (0x3099, "3059.305A 305B.305C 305D.305E 305F.3060 3061.3062 3064.3065 3066.3067 3068.3069"),
    (0x3099, "306F.3070 3072.3073 3075.3076 3078.3079 307B.307C 309D.309E 30A6.30F4 30AB.30AC"),
    (0x3099, "30AD.30AE 30AF.30B0 30B1.30B2 30B3.30B4 30B5.30B6 30B7.30B8 30B9.30BA 30BB.30BC"),
    (0x3099, "30BD.30BE 30BF.30C0 30C1.30C2 30C4.30C5 30C6.30C7 30C8.30C9 30CF.30D0 30D2.30D3"),
    (0x3099, "30D5.30D6 30D8.30D9 30DB.30DC 30EF.30F7 30F0.30F8 30F1.30F9 30F2.30FA 30FD.30FE"),
    (0x309A, "306F.3071 3072.3074 3075.3077 3078.307A 307B.307D 30CF.30D1 30D2.30D4 30D5.30D7"),
    (0x309A, "30D8.30DA 30DB.30DD"), (0x110BA, "11099.1109A 1109B.1109C 110A5.110AB"),
    (0x11127, "11131.1112E 11132.1112F"), (0x1133E, "11347.1134B"), (0x11357, "11347.1134C"),
    (0x113B8, "113C2.113C7"), (0x113BB, "11384.11385"), (0x113C2, "1138B.1138E 113C2.113C5"),
    (0x113C9, "11382.11383 11390.11391 113C2.113C8"), (0x114B0, "114B9.114BC"),
    (0x114BA, "114B9.114BB"), (0x114BD, "114B9.114BE"), (0x115AF, "115B8.115BA 115B9.115BB"),
    (0x11930, "11935.11938"), (0x1611E, "1611E.16121"),
    (0x1611F, "1611E.16123 16121.16126 16122.16127 16129.16124"),
    (0x16120, "1611E.16125 16121.16128"), (0x16129, "1611E.16122"),
    (0x16D67, "16D63.16D69 16D67.16D68 16D69.16D6A")]

/-- The class of a mark; all other characters have class zero. -/
def markClass (c : Char) : Nat :=
  (classes.findSome? fun (low, high, cls) ↦
    if low ≤ c.toNat ∧ c.toNat ≤ high then some cls else none).getD 0

/-! ## Syllables that are composed by rule -/

def firstLead : Nat := 0x1100
def firstVowel : Nat := 0x1161
/-- One before the first trail, so that a syllable without one has trail zero. -/
def noTrail : Nat := 0x11A7
def firstSyllable : Nat := 0xAC00

/-- The parts of a syllable. -/
def syllable? (c : Char) : Option (Char × Char) :=
  let n := c.toNat - firstSyllable
  if c.toNat < firstSyllable ∨ 19 * 21 * 28 ≤ n then none
  else if n % 28 = 0 then
    some (Char.ofNat (firstLead + n / (21 * 28)), Char.ofNat (firstVowel + n / 28 % 21))
  else some (Char.ofNat (firstSyllable + n / 28 * 28), Char.ofNat (noTrail + n % 28))

/-- The syllable of two parts: a lead and a vowel, or a syllable without a trail and a trail. -/
def joinSyllable? (a b : Char) : Option Char :=
  let lead := a.toNat - firstLead
  let vowel := b.toNat - firstVowel
  let open_ := a.toNat - firstSyllable
  let trail := b.toNat - noTrail
  if firstLead ≤ a.toNat ∧ lead < 19 ∧ firstVowel ≤ b.toNat ∧ vowel < 21 then
    some (Char.ofNat (firstSyllable + (lead * 21 + vowel) * 28))
  else if firstSyllable ≤ a.toNat ∧ open_ < 19 * 21 * 28 ∧ open_ % 28 = 0
      ∧ noTrail < b.toNat ∧ trail < 28 then
    some (Char.ofNat (a.toNat + trail))
  else none

/-! ## Taking apart and putting together -/

def readCompositions : List (Char × Array (List Char)) :=
  compositions.map fun (second, row) ↦ (Char.ofNat second, readRow row)

def parts? (c : Char) : Option (Char × Char) :=
  syllable? c <|> readCompositions.findSome? fun (second, row) ↦
    row.findSome? fun
      | [first, composed] => if composed = c then some (first, second) else none
      | _ => none

def join? (a b : Char) : Option Char :=
  joinSyllable? a b <|> readCompositions.findSome? fun (second, row) ↦
    if second = b then
      row.findSome? fun
        | [first, composed] => if first = a then some composed else none
        | _ => none
    else none

/-- The parts of the parts, down to `depth`. -/
def takeApart : Nat → Char → List Char
  | 0, c => [c]
  | depth + 1, c =>
    match parts? c with
    | none => [c]
    | some (first, second) => takeApart depth first ++ [second]

/-- No character is composed in more steps than this. -/
def maxDepth : Nat := 4

/-- Puts a character in front of an ordered text: it passes marks of lower classes. -/
def insertMark (c : Char) : List Char → List Char
  | [] => [c]
  | d :: ds =>
    if markClass d ≠ 0 ∧ markClass d < markClass c then d :: insertMark c ds else c :: d :: ds

def orderMarks (text : List Char) : List Char := text.foldr insertMark []

/-- Whether no mark stands between a base and a character: `marks` are those that do. -/
def isFree (marks : List Char) (c : Char) : Bool :=
  marks.getLast?.all fun last ↦ markClass last < markClass c

/-- Joins characters with the last one that is no mark, which is `base`; `marks` are those behind
it that could not be joined. -/
def joinWith (base : Option Char) (marks : List Char) : List Char → List Char
  | [] => base.toList ++ marks
  | c :: cs =>
    match if isFree marks c then base.bind (join? · c) else none with
    | some composed => joinWith (some composed) marks cs
    | none =>
      if markClass c = 0 then base.toList ++ marks ++ joinWith (some c) [] cs
      else joinWith base (marks ++ [c]) cs

def canonical (text : List Char) : List Char :=
  joinWith none [] (orderMarks (text.flatMap (takeApart maxDepth)))

end SoloScript.Http.Name
