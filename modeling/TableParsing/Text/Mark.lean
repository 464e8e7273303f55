import TableParsing.Text.Uppercase

/-!
Combining marks (Unicode version 14). The class of a mark says where it is attached: marks of
different classes may be typed in any order, and the order of increasing classes is canonical.
-/

namespace TableParsing.Text

def markRuns : List Stride :=
  [⟨0x300, 0x36F, 1⟩, ⟨0x483, 0x489, 1⟩, ⟨0x591, 0x5BD, 1⟩, ⟨0x5BF, 0x5BF, 1⟩, ⟨0x5C1, 0x5C2, 1⟩,
   ⟨0x5C4, 0x5C5, 1⟩, ⟨0x5C7, 0x5C7, 1⟩, ⟨0x610, 0x61A, 1⟩, ⟨0x64B, 0x65F, 1⟩, ⟨0x670, 0x670, 1⟩,
   ⟨0x6D6, 0x6DC, 1⟩, ⟨0x6DF, 0x6E4, 1⟩, ⟨0x6E7, 0x6E8, 1⟩, ⟨0x6EA, 0x6ED, 1⟩, ⟨0x711, 0x711, 1⟩,
   ⟨0x730, 0x74A, 1⟩, ⟨0x7A6, 0x7B0, 1⟩, ⟨0x7EB, 0x7F3, 1⟩, ⟨0x7FD, 0x7FD, 1⟩, ⟨0x816, 0x819, 1⟩,
   ⟨0x81B, 0x823, 1⟩, ⟨0x825, 0x827, 1⟩, ⟨0x829, 0x82D, 1⟩, ⟨0x859, 0x85B, 1⟩, ⟨0x898, 0x89F, 1⟩,
   ⟨0x8CA, 0x8E1, 1⟩, ⟨0x8E3, 0x903, 1⟩, ⟨0x93A, 0x93C, 1⟩, ⟨0x93E, 0x94F, 1⟩, ⟨0x951, 0x957, 1⟩,
   ⟨0x962, 0x963, 1⟩, ⟨0x981, 0x983, 1⟩, ⟨0x9BC, 0x9BC, 1⟩, ⟨0x9BE, 0x9C4, 1⟩, ⟨0x9C7, 0x9C8, 1⟩,
   ⟨0x9CB, 0x9CD, 1⟩, ⟨0x9D7, 0x9D7, 1⟩, ⟨0x9E2, 0x9E3, 1⟩, ⟨0x9FE, 0x9FE, 1⟩, ⟨0xA01, 0xA03, 1⟩,
   ⟨0xA3C, 0xA3C, 1⟩, ⟨0xA3E, 0xA42, 1⟩, ⟨0xA47, 0xA48, 1⟩, ⟨0xA4B, 0xA4D, 1⟩, ⟨0xA51, 0xA51, 1⟩,
   ⟨0xA70, 0xA71, 1⟩, ⟨0xA75, 0xA75, 1⟩, ⟨0xA81, 0xA83, 1⟩, ⟨0xABC, 0xABC, 1⟩, ⟨0xABE, 0xAC5, 1⟩,
   ⟨0xAC7, 0xAC9, 1⟩, ⟨0xACB, 0xACD, 1⟩, ⟨0xAE2, 0xAE3, 1⟩, ⟨0xAFA, 0xAFF, 1⟩, ⟨0xB01, 0xB03, 1⟩,
   ⟨0xB3C, 0xB3C, 1⟩, ⟨0xB3E, 0xB44, 1⟩, ⟨0xB47, 0xB48, 1⟩, ⟨0xB4B, 0xB4D, 1⟩, ⟨0xB55, 0xB57, 1⟩,
   ⟨0xB62, 0xB63, 1⟩, ⟨0xB82, 0xB82, 1⟩, ⟨0xBBE, 0xBC2, 1⟩, ⟨0xBC6, 0xBC8, 1⟩, ⟨0xBCA, 0xBCD, 1⟩,
   ⟨0xBD7, 0xBD7, 1⟩, ⟨0xC00, 0xC04, 1⟩, ⟨0xC3C, 0xC3C, 1⟩, ⟨0xC3E, 0xC44, 1⟩, ⟨0xC46, 0xC48, 1⟩,
   ⟨0xC4A, 0xC4D, 1⟩, ⟨0xC55, 0xC56, 1⟩, ⟨0xC62, 0xC63, 1⟩, ⟨0xC81, 0xC83, 1⟩, ⟨0xCBC, 0xCBC, 1⟩,
   ⟨0xCBE, 0xCC4, 1⟩, ⟨0xCC6, 0xCC8, 1⟩, ⟨0xCCA, 0xCCD, 1⟩, ⟨0xCD5, 0xCD6, 1⟩, ⟨0xCE2, 0xCE3, 1⟩,
   ⟨0xD00, 0xD03, 1⟩, ⟨0xD3B, 0xD3C, 1⟩, ⟨0xD3E, 0xD44, 1⟩, ⟨0xD46, 0xD48, 1⟩, ⟨0xD4A, 0xD4D, 1⟩,
   ⟨0xD57, 0xD57, 1⟩, ⟨0xD62, 0xD63, 1⟩, ⟨0xD81, 0xD83, 1⟩, ⟨0xDCA, 0xDCA, 1⟩, ⟨0xDCF, 0xDD4, 1⟩,
   ⟨0xDD6, 0xDD6, 1⟩, ⟨0xDD8, 0xDDF, 1⟩, ⟨0xDF2, 0xDF3, 1⟩, ⟨0xE31, 0xE31, 1⟩, ⟨0xE34, 0xE3A, 1⟩,
   ⟨0xE47, 0xE4E, 1⟩, ⟨0xEB1, 0xEB1, 1⟩, ⟨0xEB4, 0xEBC, 1⟩, ⟨0xEC8, 0xECD, 1⟩, ⟨0xF18, 0xF19, 1⟩,
   ⟨0xF35, 0xF39, 2⟩, ⟨0xF3E, 0xF3F, 1⟩, ⟨0xF71, 0xF84, 1⟩, ⟨0xF86, 0xF87, 1⟩, ⟨0xF8D, 0xF97, 1⟩,
   ⟨0xF99, 0xFBC, 1⟩, ⟨0xFC6, 0xFC6, 1⟩, ⟨0x102B, 0x103E, 1⟩, ⟨0x1056, 0x1059, 1⟩,
   ⟨0x105E, 0x1060, 1⟩, ⟨0x1062, 0x1064, 1⟩, ⟨0x1067, 0x106D, 1⟩, ⟨0x1071, 0x1074, 1⟩,
   ⟨0x1082, 0x108D, 1⟩, ⟨0x108F, 0x108F, 1⟩, ⟨0x109A, 0x109D, 1⟩, ⟨0x135D, 0x135F, 1⟩,
   ⟨0x1712, 0x1715, 1⟩, ⟨0x1732, 0x1734, 1⟩, ⟨0x1752, 0x1753, 1⟩, ⟨0x1772, 0x1773, 1⟩,
   ⟨0x17B4, 0x17D3, 1⟩, ⟨0x17DD, 0x17DD, 1⟩, ⟨0x180B, 0x180D, 1⟩, ⟨0x180F, 0x180F, 1⟩,
   ⟨0x1885, 0x1886, 1⟩, ⟨0x18A9, 0x18A9, 1⟩, ⟨0x1920, 0x192B, 1⟩, ⟨0x1930, 0x193B, 1⟩,
   ⟨0x1A17, 0x1A1B, 1⟩, ⟨0x1A55, 0x1A5E, 1⟩, ⟨0x1A60, 0x1A7C, 1⟩, ⟨0x1A7F, 0x1A7F, 1⟩,
   ⟨0x1AB0, 0x1ACE, 1⟩, ⟨0x1B00, 0x1B04, 1⟩, ⟨0x1B34, 0x1B44, 1⟩, ⟨0x1B6B, 0x1B73, 1⟩,
   ⟨0x1B80, 0x1B82, 1⟩, ⟨0x1BA1, 0x1BAD, 1⟩, ⟨0x1BE6, 0x1BF3, 1⟩, ⟨0x1C24, 0x1C37, 1⟩,
   ⟨0x1CD0, 0x1CD2, 1⟩, ⟨0x1CD4, 0x1CE8, 1⟩, ⟨0x1CED, 0x1CED, 1⟩, ⟨0x1CF4, 0x1CF4, 1⟩,
   ⟨0x1CF7, 0x1CF9, 1⟩, ⟨0x1DC0, 0x1DFF, 1⟩, ⟨0x20D0, 0x20F0, 1⟩, ⟨0x2CEF, 0x2CF1, 1⟩,
   ⟨0x2D7F, 0x2D7F, 1⟩, ⟨0x2DE0, 0x2DFF, 1⟩, ⟨0x302A, 0x302F, 1⟩, ⟨0x3099, 0x309A, 1⟩,
   ⟨0xA66F, 0xA672, 1⟩, ⟨0xA674, 0xA67D, 1⟩, ⟨0xA69E, 0xA69F, 1⟩, ⟨0xA6F0, 0xA6F1, 1⟩,
   ⟨0xA802, 0xA802, 1⟩, ⟨0xA806, 0xA806, 1⟩, ⟨0xA80B, 0xA80B, 1⟩, ⟨0xA823, 0xA827, 1⟩,
   ⟨0xA82C, 0xA82C, 1⟩, ⟨0xA880, 0xA881, 1⟩, ⟨0xA8B4, 0xA8C5, 1⟩, ⟨0xA8E0, 0xA8F1, 1⟩,
   ⟨0xA8FF, 0xA8FF, 1⟩, ⟨0xA926, 0xA92D, 1⟩, ⟨0xA947, 0xA953, 1⟩, ⟨0xA980, 0xA983, 1⟩,
   ⟨0xA9B3, 0xA9C0, 1⟩, ⟨0xA9E5, 0xA9E5, 1⟩, ⟨0xAA29, 0xAA36, 1⟩, ⟨0xAA43, 0xAA43, 1⟩,
   ⟨0xAA4C, 0xAA4D, 1⟩, ⟨0xAA7B, 0xAA7D, 1⟩, ⟨0xAAB0, 0xAAB0, 1⟩, ⟨0xAAB2, 0xAAB4, 1⟩,
   ⟨0xAAB7, 0xAAB8, 1⟩, ⟨0xAABE, 0xAABF, 1⟩, ⟨0xAAC1, 0xAAC1, 1⟩, ⟨0xAAEB, 0xAAEF, 1⟩,
   ⟨0xAAF5, 0xAAF6, 1⟩, ⟨0xABE3, 0xABEA, 1⟩, ⟨0xABEC, 0xABED, 1⟩, ⟨0xFB1E, 0xFB1E, 1⟩,
   ⟨0xFE00, 0xFE0F, 1⟩, ⟨0xFE20, 0xFE2F, 1⟩, ⟨0x101FD, 0x101FD, 1⟩, ⟨0x102E0, 0x102E0, 1⟩,
   ⟨0x10376, 0x1037A, 1⟩, ⟨0x10A01, 0x10A03, 1⟩, ⟨0x10A05, 0x10A06, 1⟩, ⟨0x10A0C, 0x10A0F, 1⟩,
   ⟨0x10A38, 0x10A3A, 1⟩, ⟨0x10A3F, 0x10A3F, 1⟩, ⟨0x10AE5, 0x10AE6, 1⟩, ⟨0x10D24, 0x10D27, 1⟩,
   ⟨0x10EAB, 0x10EAC, 1⟩, ⟨0x10F46, 0x10F50, 1⟩, ⟨0x10F82, 0x10F85, 1⟩, ⟨0x11000, 0x11002, 1⟩,
   ⟨0x11038, 0x11046, 1⟩, ⟨0x11070, 0x11070, 1⟩, ⟨0x11073, 0x11074, 1⟩, ⟨0x1107F, 0x11082, 1⟩,
   ⟨0x110B0, 0x110BA, 1⟩, ⟨0x110C2, 0x110C2, 1⟩, ⟨0x11100, 0x11102, 1⟩, ⟨0x11127, 0x11134, 1⟩,
   ⟨0x11145, 0x11146, 1⟩, ⟨0x11173, 0x11173, 1⟩, ⟨0x11180, 0x11182, 1⟩, ⟨0x111B3, 0x111C0, 1⟩,
   ⟨0x111C9, 0x111CC, 1⟩, ⟨0x111CE, 0x111CF, 1⟩, ⟨0x1122C, 0x11237, 1⟩, ⟨0x1123E, 0x1123E, 1⟩,
   ⟨0x112DF, 0x112EA, 1⟩, ⟨0x11300, 0x11303, 1⟩, ⟨0x1133B, 0x1133C, 1⟩, ⟨0x1133E, 0x11344, 1⟩,
   ⟨0x11347, 0x11348, 1⟩, ⟨0x1134B, 0x1134D, 1⟩, ⟨0x11357, 0x11357, 1⟩, ⟨0x11362, 0x11363, 1⟩,
   ⟨0x11366, 0x1136C, 1⟩, ⟨0x11370, 0x11374, 1⟩, ⟨0x11435, 0x11446, 1⟩, ⟨0x1145E, 0x1145E, 1⟩,
   ⟨0x114B0, 0x114C3, 1⟩, ⟨0x115AF, 0x115B5, 1⟩, ⟨0x115B8, 0x115C0, 1⟩, ⟨0x115DC, 0x115DD, 1⟩,
   ⟨0x11630, 0x11640, 1⟩, ⟨0x116AB, 0x116B7, 1⟩, ⟨0x1171D, 0x1172B, 1⟩, ⟨0x1182C, 0x1183A, 1⟩,
   ⟨0x11930, 0x11935, 1⟩, ⟨0x11937, 0x11938, 1⟩, ⟨0x1193B, 0x1193E, 1⟩, ⟨0x11940, 0x11940, 1⟩,
   ⟨0x11942, 0x11943, 1⟩, ⟨0x119D1, 0x119D7, 1⟩, ⟨0x119DA, 0x119E0, 1⟩, ⟨0x119E4, 0x119E4, 1⟩,
   ⟨0x11A01, 0x11A0A, 1⟩, ⟨0x11A33, 0x11A39, 1⟩, ⟨0x11A3B, 0x11A3E, 1⟩, ⟨0x11A47, 0x11A47, 1⟩,
   ⟨0x11A51, 0x11A5B, 1⟩, ⟨0x11A8A, 0x11A99, 1⟩, ⟨0x11C2F, 0x11C36, 1⟩, ⟨0x11C38, 0x11C3F, 1⟩,
   ⟨0x11C92, 0x11CA7, 1⟩, ⟨0x11CA9, 0x11CB6, 1⟩, ⟨0x11D31, 0x11D36, 1⟩, ⟨0x11D3A, 0x11D3A, 1⟩,
   ⟨0x11D3C, 0x11D3D, 1⟩, ⟨0x11D3F, 0x11D45, 1⟩, ⟨0x11D47, 0x11D47, 1⟩, ⟨0x11D8A, 0x11D8E, 1⟩,
   ⟨0x11D90, 0x11D91, 1⟩, ⟨0x11D93, 0x11D97, 1⟩, ⟨0x11EF3, 0x11EF6, 1⟩, ⟨0x16AF0, 0x16AF4, 1⟩,
   ⟨0x16B30, 0x16B36, 1⟩, ⟨0x16F4F, 0x16F4F, 1⟩, ⟨0x16F51, 0x16F87, 1⟩, ⟨0x16F8F, 0x16F92, 1⟩,
   ⟨0x16FE4, 0x16FE4, 1⟩, ⟨0x16FF0, 0x16FF1, 1⟩, ⟨0x1BC9D, 0x1BC9E, 1⟩, ⟨0x1CF00, 0x1CF2D, 1⟩,
   ⟨0x1CF30, 0x1CF46, 1⟩, ⟨0x1D165, 0x1D169, 1⟩, ⟨0x1D16D, 0x1D172, 1⟩, ⟨0x1D17B, 0x1D182, 1⟩,
   ⟨0x1D185, 0x1D18B, 1⟩, ⟨0x1D1AA, 0x1D1AD, 1⟩, ⟨0x1D242, 0x1D244, 1⟩, ⟨0x1DA00, 0x1DA36, 1⟩,
   ⟨0x1DA3B, 0x1DA6C, 1⟩, ⟨0x1DA75, 0x1DA75, 1⟩, ⟨0x1DA84, 0x1DA84, 1⟩, ⟨0x1DA9B, 0x1DA9F, 1⟩,
   ⟨0x1DAA1, 0x1DAAF, 1⟩, ⟨0x1E000, 0x1E006, 1⟩, ⟨0x1E008, 0x1E018, 1⟩, ⟨0x1E01B, 0x1E021, 1⟩,
   ⟨0x1E023, 0x1E024, 1⟩, ⟨0x1E026, 0x1E02A, 1⟩, ⟨0x1E130, 0x1E136, 1⟩, ⟨0x1E2AE, 0x1E2AE, 1⟩,
   ⟨0x1E2EC, 0x1E2EF, 1⟩, ⟨0x1E8D0, 0x1E8D6, 1⟩, ⟨0x1E944, 0x1E94A, 1⟩, ⟨0xE0100, 0xE01EF, 1⟩]

def isMark (n : Nat) : Bool := markRuns.any (·.contains n)

def spacingMarkRuns : List Stride :=
  [⟨0x903, 0x903, 1⟩, ⟨0x93B, 0x93B, 1⟩, ⟨0x93E, 0x940, 1⟩, ⟨0x949, 0x94C, 1⟩, ⟨0x94E, 0x94F, 1⟩,
   ⟨0x982, 0x983, 1⟩, ⟨0x9BE, 0x9C0, 1⟩, ⟨0x9C7, 0x9C8, 1⟩, ⟨0x9CB, 0x9CC, 1⟩, ⟨0x9D7, 0x9D7, 1⟩,
   ⟨0xA03, 0xA03, 1⟩, ⟨0xA3E, 0xA40, 1⟩, ⟨0xA83, 0xA83, 1⟩, ⟨0xABE, 0xAC0, 1⟩, ⟨0xAC9, 0xAC9, 1⟩,
   ⟨0xACB, 0xACC, 1⟩, ⟨0xB02, 0xB03, 1⟩, ⟨0xB3E, 0xB40, 2⟩, ⟨0xB47, 0xB48, 1⟩, ⟨0xB4B, 0xB4C, 1⟩,
   ⟨0xB57, 0xB57, 1⟩, ⟨0xBBE, 0xBBF, 1⟩, ⟨0xBC1, 0xBC2, 1⟩, ⟨0xBC6, 0xBC8, 1⟩, ⟨0xBCA, 0xBCC, 1⟩,
   ⟨0xBD7, 0xBD7, 1⟩, ⟨0xC01, 0xC03, 1⟩, ⟨0xC41, 0xC44, 1⟩, ⟨0xC82, 0xC83, 1⟩, ⟨0xCBE, 0xCC4, 1⟩,
   ⟨0xCC6, 0xCC8, 1⟩, ⟨0xCCA, 0xCCB, 1⟩, ⟨0xCD5, 0xCD6, 1⟩, ⟨0xD02, 0xD03, 1⟩, ⟨0xD3E, 0xD40, 1⟩,
   ⟨0xD46, 0xD48, 1⟩, ⟨0xD4A, 0xD4C, 1⟩, ⟨0xD57, 0xD57, 1⟩, ⟨0xD82, 0xD83, 1⟩, ⟨0xDCF, 0xDD1, 1⟩,
   ⟨0xDD8, 0xDDF, 1⟩, ⟨0xDF2, 0xDF3, 1⟩, ⟨0xF3E, 0xF3F, 1⟩, ⟨0xF7F, 0xF7F, 1⟩, ⟨0x102B, 0x102C, 1⟩,
   ⟨0x1031, 0x1031, 1⟩, ⟨0x1038, 0x1038, 1⟩, ⟨0x103B, 0x103C, 1⟩, ⟨0x1056, 0x1057, 1⟩,
   ⟨0x1062, 0x1064, 1⟩, ⟨0x1067, 0x106D, 1⟩, ⟨0x1083, 0x1084, 1⟩, ⟨0x1087, 0x108C, 1⟩,
   ⟨0x108F, 0x108F, 1⟩, ⟨0x109A, 0x109C, 1⟩, ⟨0x1715, 0x1715, 1⟩, ⟨0x1734, 0x1734, 1⟩,
   ⟨0x17B6, 0x17B6, 1⟩, ⟨0x17BE, 0x17C5, 1⟩, ⟨0x17C7, 0x17C8, 1⟩, ⟨0x1923, 0x1926, 1⟩,
   ⟨0x1929, 0x192B, 1⟩, ⟨0x1930, 0x1931, 1⟩, ⟨0x1933, 0x1938, 1⟩, ⟨0x1A19, 0x1A1A, 1⟩,
   ⟨0x1A55, 0x1A57, 2⟩, ⟨0x1A61, 0x1A61, 1⟩, ⟨0x1A63, 0x1A64, 1⟩, ⟨0x1A6D, 0x1A72, 1⟩,
   ⟨0x1B04, 0x1B04, 1⟩, ⟨0x1B35, 0x1B35, 1⟩, ⟨0x1B3B, 0x1B3B, 1⟩, ⟨0x1B3D, 0x1B41, 1⟩,
   ⟨0x1B43, 0x1B44, 1⟩, ⟨0x1B82, 0x1B82, 1⟩, ⟨0x1BA1, 0x1BA1, 1⟩, ⟨0x1BA6, 0x1BA7, 1⟩,
   ⟨0x1BAA, 0x1BAA, 1⟩, ⟨0x1BE7, 0x1BE7, 1⟩, ⟨0x1BEA, 0x1BEC, 1⟩, ⟨0x1BEE, 0x1BEE, 1⟩,
   ⟨0x1BF2, 0x1BF3, 1⟩, ⟨0x1C24, 0x1C2B, 1⟩, ⟨0x1C34, 0x1C35, 1⟩, ⟨0x1CE1, 0x1CE1, 1⟩,
   ⟨0x1CF7, 0x1CF7, 1⟩, ⟨0x302E, 0x302F, 1⟩, ⟨0xA823, 0xA824, 1⟩, ⟨0xA827, 0xA827, 1⟩,
   ⟨0xA880, 0xA881, 1⟩, ⟨0xA8B4, 0xA8C3, 1⟩, ⟨0xA952, 0xA953, 1⟩, ⟨0xA983, 0xA983, 1⟩,
   ⟨0xA9B4, 0xA9B5, 1⟩, ⟨0xA9BA, 0xA9BB, 1⟩, ⟨0xA9BE, 0xA9C0, 1⟩, ⟨0xAA2F, 0xAA30, 1⟩,
   ⟨0xAA33, 0xAA34, 1⟩, ⟨0xAA4D, 0xAA4D, 1⟩, ⟨0xAA7B, 0xAA7D, 2⟩, ⟨0xAAEB, 0xAAEB, 1⟩,
   ⟨0xAAEE, 0xAAEF, 1⟩, ⟨0xAAF5, 0xAAF5, 1⟩, ⟨0xABE3, 0xABE4, 1⟩, ⟨0xABE6, 0xABE7, 1⟩,
   ⟨0xABE9, 0xABEA, 1⟩, ⟨0xABEC, 0xABEC, 1⟩, ⟨0x11000, 0x11002, 2⟩, ⟨0x11082, 0x11082, 1⟩,
   ⟨0x110B0, 0x110B2, 1⟩, ⟨0x110B7, 0x110B8, 1⟩, ⟨0x1112C, 0x1112C, 1⟩, ⟨0x11145, 0x11146, 1⟩,
   ⟨0x11182, 0x11182, 1⟩, ⟨0x111B3, 0x111B5, 1⟩, ⟨0x111BF, 0x111C0, 1⟩, ⟨0x111CE, 0x111CE, 1⟩,
   ⟨0x1122C, 0x1122E, 1⟩, ⟨0x11232, 0x11233, 1⟩, ⟨0x11235, 0x11235, 1⟩, ⟨0x112E0, 0x112E2, 1⟩,
   ⟨0x11302, 0x11303, 1⟩, ⟨0x1133E, 0x1133F, 1⟩, ⟨0x11341, 0x11344, 1⟩, ⟨0x11347, 0x11348, 1⟩,
   ⟨0x1134B, 0x1134D, 1⟩, ⟨0x11357, 0x11357, 1⟩, ⟨0x11362, 0x11363, 1⟩, ⟨0x11435, 0x11437, 1⟩,
   ⟨0x11440, 0x11441, 1⟩, ⟨0x11445, 0x11445, 1⟩, ⟨0x114B0, 0x114B2, 1⟩, ⟨0x114B9, 0x114B9, 1⟩,
   ⟨0x114BB, 0x114BE, 1⟩, ⟨0x114C1, 0x114C1, 1⟩, ⟨0x115AF, 0x115B1, 1⟩, ⟨0x115B8, 0x115BB, 1⟩,
   ⟨0x115BE, 0x115BE, 1⟩, ⟨0x11630, 0x11632, 1⟩, ⟨0x1163B, 0x1163C, 1⟩, ⟨0x1163E, 0x1163E, 1⟩,
   ⟨0x116AC, 0x116AC, 1⟩, ⟨0x116AE, 0x116AF, 1⟩, ⟨0x116B6, 0x116B6, 1⟩, ⟨0x11720, 0x11721, 1⟩,
   ⟨0x11726, 0x11726, 1⟩, ⟨0x1182C, 0x1182E, 1⟩, ⟨0x11838, 0x11838, 1⟩, ⟨0x11930, 0x11935, 1⟩,
   ⟨0x11937, 0x11938, 1⟩, ⟨0x1193D, 0x1193D, 1⟩, ⟨0x11940, 0x11942, 2⟩, ⟨0x119D1, 0x119D3, 1⟩,
   ⟨0x119DC, 0x119DF, 1⟩, ⟨0x119E4, 0x119E4, 1⟩, ⟨0x11A07, 0x11A08, 1⟩, ⟨0x11A39, 0x11A39, 1⟩,
   ⟨0x11A57, 0x11A58, 1⟩, ⟨0x11A97, 0x11A97, 1⟩, ⟨0x11C2F, 0x11C2F, 1⟩, ⟨0x11C3E, 0x11C3F, 1⟩,
   ⟨0x11CA9, 0x11CA9, 1⟩, ⟨0x11CB1, 0x11CB1, 1⟩, ⟨0x11CB4, 0x11CB4, 1⟩, ⟨0x11D8A, 0x11D8E, 1⟩,
   ⟨0x11D93, 0x11D94, 1⟩, ⟨0x11D96, 0x11D96, 1⟩, ⟨0x11EF5, 0x11EF6, 1⟩, ⟨0x16F51, 0x16F87, 1⟩,
   ⟨0x16FF0, 0x16FF1, 1⟩, ⟨0x1D165, 0x1D166, 1⟩, ⟨0x1D16D, 0x1D172, 1⟩]

def isNonspacing (n : Nat) : Bool := isMark n && !spacingMarkRuns.any (·.contains n)

def combiningClasses : List (Nat × List Stride) :=
  [(1, [⟨0x334, 0x338, 1⟩, ⟨0x1CD4, 0x1CD4, 1⟩, ⟨0x1CE2, 0x1CE8, 1⟩, ⟨0x20D2, 0x20D3, 1⟩,
     ⟨0x20D8, 0x20DA, 1⟩, ⟨0x20E5, 0x20E6, 1⟩, ⟨0x20EA, 0x20EB, 1⟩, ⟨0x10A39, 0x10A39, 1⟩,
     ⟨0x16AF0, 0x16AF4, 1⟩, ⟨0x1BC9E, 0x1BC9E, 1⟩, ⟨0x1D167, 0x1D169, 1⟩]),
   (6, [⟨0x16FF0, 0x16FF1, 1⟩]),
   (7, [⟨0x93C, 0x93C, 1⟩, ⟨0x9BC, 0x9BC, 1⟩, ⟨0xA3C, 0xA3C, 1⟩, ⟨0xABC, 0xABC, 1⟩,
     ⟨0xB3C, 0xB3C, 1⟩, ⟨0xC3C, 0xC3C, 1⟩, ⟨0xCBC, 0xCBC, 1⟩, ⟨0x1037, 0x1037, 1⟩,
     ⟨0x1B34, 0x1B34, 1⟩, ⟨0x1BE6, 0x1BE6, 1⟩, ⟨0x1C37, 0x1C37, 1⟩, ⟨0xA9B3, 0xA9B3, 1⟩,
     ⟨0x110BA, 0x110BA, 1⟩, ⟨0x11173, 0x11173, 1⟩, ⟨0x111CA, 0x111CA, 1⟩, ⟨0x11236, 0x11236, 1⟩,
     ⟨0x112E9, 0x112E9, 1⟩, ⟨0x1133B, 0x1133C, 1⟩, ⟨0x11446, 0x11446, 1⟩, ⟨0x114C3, 0x114C3, 1⟩,
     ⟨0x115C0, 0x115C0, 1⟩, ⟨0x116B7, 0x116B7, 1⟩, ⟨0x1183A, 0x1183A, 1⟩, ⟨0x11943, 0x11943, 1⟩,
     ⟨0x11D42, 0x11D42, 1⟩, ⟨0x1E94A, 0x1E94A, 1⟩]),
   (8, [⟨0x3099, 0x309A, 1⟩]),
   (9, [⟨0x94D, 0x94D, 1⟩, ⟨0x9CD, 0x9CD, 1⟩, ⟨0xA4D, 0xA4D, 1⟩, ⟨0xACD, 0xACD, 1⟩,
     ⟨0xB4D, 0xB4D, 1⟩, ⟨0xBCD, 0xBCD, 1⟩, ⟨0xC4D, 0xC4D, 1⟩, ⟨0xCCD, 0xCCD, 1⟩, ⟨0xD3B, 0xD3C, 1⟩,
     ⟨0xD4D, 0xD4D, 1⟩, ⟨0xDCA, 0xDCA, 1⟩, ⟨0xE3A, 0xE3A, 1⟩, ⟨0xEBA, 0xEBA, 1⟩, ⟨0xF84, 0xF84, 1⟩,
     ⟨0x1039, 0x103A, 1⟩, ⟨0x1714, 0x1715, 1⟩, ⟨0x1734, 0x1734, 1⟩, ⟨0x17D2, 0x17D2, 1⟩,
     ⟨0x1A60, 0x1A60, 1⟩, ⟨0x1B44, 0x1B44, 1⟩, ⟨0x1BAA, 0x1BAB, 1⟩, ⟨0x1BF2, 0x1BF3, 1⟩,
     ⟨0x2D7F, 0x2D7F, 1⟩, ⟨0xA806, 0xA806, 1⟩, ⟨0xA82C, 0xA82C, 1⟩, ⟨0xA8C4, 0xA8C4, 1⟩,
     ⟨0xA953, 0xA953, 1⟩, ⟨0xA9C0, 0xA9C0, 1⟩, ⟨0xAAF6, 0xAAF6, 1⟩, ⟨0xABED, 0xABED, 1⟩,
     ⟨0x10A3F, 0x10A3F, 1⟩, ⟨0x11046, 0x11046, 1⟩, ⟨0x11070, 0x11070, 1⟩, ⟨0x1107F, 0x1107F, 1⟩,
     ⟨0x110B9, 0x110B9, 1⟩, ⟨0x11133, 0x11134, 1⟩, ⟨0x111C0, 0x111C0, 1⟩, ⟨0x11235, 0x11235, 1⟩,
     ⟨0x112EA, 0x112EA, 1⟩, ⟨0x1134D, 0x1134D, 1⟩, ⟨0x11442, 0x11442, 1⟩, ⟨0x114C2, 0x114C2, 1⟩,
     ⟨0x115BF, 0x115BF, 1⟩, ⟨0x1163F, 0x1163F, 1⟩, ⟨0x116B6, 0x116B6, 1⟩, ⟨0x1172B, 0x1172B, 1⟩,
     ⟨0x11839, 0x11839, 1⟩, ⟨0x1193D, 0x1193E, 1⟩, ⟨0x119E0, 0x119E0, 1⟩, ⟨0x11A34, 0x11A34, 1⟩,
     ⟨0x11A47, 0x11A47, 1⟩, ⟨0x11A99, 0x11A99, 1⟩, ⟨0x11C3F, 0x11C3F, 1⟩, ⟨0x11D44, 0x11D45, 1⟩,
     ⟨0x11D97, 0x11D97, 1⟩]),
   (10, [⟨0x5B0, 0x5B0, 1⟩]),
   (11, [⟨0x5B1, 0x5B1, 1⟩]),
   (12, [⟨0x5B2, 0x5B2, 1⟩]),
   (13, [⟨0x5B3, 0x5B3, 1⟩]),
   (14, [⟨0x5B4, 0x5B4, 1⟩]),
   (15, [⟨0x5B5, 0x5B5, 1⟩]),
   (16, [⟨0x5B6, 0x5B6, 1⟩]),
   (17, [⟨0x5B7, 0x5B7, 1⟩]),
   (18, [⟨0x5B8, 0x5B8, 1⟩, ⟨0x5C7, 0x5C7, 1⟩]),
   (19, [⟨0x5B9, 0x5BA, 1⟩]),
   (20, [⟨0x5BB, 0x5BB, 1⟩]),
   (21, [⟨0x5BC, 0x5BC, 1⟩]),
   (22, [⟨0x5BD, 0x5BD, 1⟩]),
   (23, [⟨0x5BF, 0x5BF, 1⟩]),
   (24, [⟨0x5C1, 0x5C1, 1⟩]),
   (25, [⟨0x5C2, 0x5C2, 1⟩]),
   (26, [⟨0xFB1E, 0xFB1E, 1⟩]),
   (27, [⟨0x64B, 0x64B, 1⟩, ⟨0x8F0, 0x8F0, 1⟩]),
   (28, [⟨0x64C, 0x64C, 1⟩, ⟨0x8F1, 0x8F1, 1⟩]),
   (29, [⟨0x64D, 0x64D, 1⟩, ⟨0x8F2, 0x8F2, 1⟩]),
   (30, [⟨0x618, 0x618, 1⟩, ⟨0x64E, 0x64E, 1⟩]),
   (31, [⟨0x619, 0x619, 1⟩, ⟨0x64F, 0x64F, 1⟩]),
   (32, [⟨0x61A, 0x61A, 1⟩, ⟨0x650, 0x650, 1⟩]),
   (33, [⟨0x651, 0x651, 1⟩]),
   (34, [⟨0x652, 0x652, 1⟩]),
   (35, [⟨0x670, 0x670, 1⟩]),
   (36, [⟨0x711, 0x711, 1⟩]),
   (84, [⟨0xC55, 0xC55, 1⟩]),
   (91, [⟨0xC56, 0xC56, 1⟩]),
   (103, [⟨0xE38, 0xE39, 1⟩]),
   (107, [⟨0xE48, 0xE4B, 1⟩]),
   (118, [⟨0xEB8, 0xEB9, 1⟩]),
   (122, [⟨0xEC8, 0xECB, 1⟩]),
   (129, [⟨0xF71, 0xF71, 1⟩]),
   (130, [⟨0xF72, 0xF72, 1⟩, ⟨0xF7A, 0xF7D, 1⟩, ⟨0xF80, 0xF80, 1⟩]),
   (132, [⟨0xF74, 0xF74, 1⟩]),
   (202, [⟨0x321, 0x322, 1⟩, ⟨0x327, 0x328, 1⟩, ⟨0x1DD0, 0x1DD0, 1⟩]),
   (214, [⟨0x1DCE, 0x1DCE, 1⟩]),
   (216, [⟨0x31B, 0x31B, 1⟩, ⟨0xF39, 0xF39, 1⟩, ⟨0x1D165, 0x1D166, 1⟩, ⟨0x1D16E, 0x1D172, 1⟩]),
   (218, [⟨0x1DFA, 0x1DFA, 1⟩, ⟨0x302A, 0x302A, 1⟩]),
   (220, [⟨0x316, 0x319, 1⟩, ⟨0x31C, 0x320, 1⟩, ⟨0x323, 0x326, 1⟩, ⟨0x329, 0x333, 1⟩,
     ⟨0x339, 0x33C, 1⟩, ⟨0x347, 0x349, 1⟩, ⟨0x34D, 0x34E, 1⟩, ⟨0x353, 0x356, 1⟩, ⟨0x359, 0x35A, 1⟩,
     ⟨0x591, 0x591, 1⟩, ⟨0x596, 0x596, 1⟩, ⟨0x59B, 0x59B, 1⟩, ⟨0x5A2, 0x5A7, 1⟩, ⟨0x5AA, 0x5AA, 1⟩,
     ⟨0x5C5, 0x5C5, 1⟩, ⟨0x655, 0x656, 1⟩, ⟨0x65C, 0x65C, 1⟩, ⟨0x65F, 0x65F, 1⟩, ⟨0x6E3, 0x6E3, 1⟩,
     ⟨0x6EA, 0x6EA, 1⟩, ⟨0x6ED, 0x6ED, 1⟩, ⟨0x731, 0x731, 1⟩, ⟨0x734, 0x734, 1⟩, ⟨0x737, 0x739, 1⟩,
     ⟨0x73B, 0x73C, 1⟩, ⟨0x73E, 0x73E, 1⟩, ⟨0x742, 0x748, 2⟩, ⟨0x7F2, 0x7F2, 1⟩, ⟨0x7FD, 0x7FD, 1⟩,
     ⟨0x859, 0x85B, 1⟩, ⟨0x899, 0x89B, 1⟩, ⟨0x8CF, 0x8D3, 1⟩, ⟨0x8E3, 0x8E3, 1⟩, ⟨0x8E6, 0x8E6, 1⟩,
     ⟨0x8E9, 0x8E9, 1⟩, ⟨0x8ED, 0x8EF, 1⟩, ⟨0x8F6, 0x8F6, 1⟩, ⟨0x8F9, 0x8FA, 1⟩, ⟨0x952, 0x952, 1⟩,
     ⟨0xF18, 0xF19, 1⟩, ⟨0xF35, 0xF37, 2⟩, ⟨0xFC6, 0xFC6, 1⟩, ⟨0x108D, 0x108D, 1⟩,
     ⟨0x193B, 0x193B, 1⟩, ⟨0x1A18, 0x1A18, 1⟩, ⟨0x1A7F, 0x1A7F, 1⟩, ⟨0x1AB5, 0x1ABA, 1⟩,
     ⟨0x1ABD, 0x1ABD, 1⟩, ⟨0x1ABF, 0x1AC0, 1⟩, ⟨0x1AC3, 0x1AC4, 1⟩, ⟨0x1ACA, 0x1ACA, 1⟩,
     ⟨0x1B6C, 0x1B6C, 1⟩, ⟨0x1CD5, 0x1CD9, 1⟩, ⟨0x1CDC, 0x1CDF, 1⟩, ⟨0x1CED, 0x1CED, 1⟩,
     ⟨0x1DC2, 0x1DC2, 1⟩, ⟨0x1DCA, 0x1DCA, 1⟩, ⟨0x1DCF, 0x1DCF, 1⟩, ⟨0x1DF9, 0x1DF9, 1⟩,
     ⟨0x1DFD, 0x1DFF, 2⟩, ⟨0x20E8, 0x20E8, 1⟩, ⟨0x20EC, 0x20EF, 1⟩, ⟨0xA92B, 0xA92D, 1⟩,
     ⟨0xAAB4, 0xAAB4, 1⟩, ⟨0xFE27, 0xFE2D, 1⟩, ⟨0x101FD, 0x101FD, 1⟩, ⟨0x102E0, 0x102E0, 1⟩,
     ⟨0x10A0D, 0x10A0D, 1⟩, ⟨0x10A3A, 0x10A3A, 1⟩, ⟨0x10AE6, 0x10AE6, 1⟩, ⟨0x10F46, 0x10F47, 1⟩,
     ⟨0x10F4B, 0x10F4B, 1⟩, ⟨0x10F4D, 0x10F50, 1⟩, ⟨0x10F83, 0x10F85, 2⟩, ⟨0x1D17B, 0x1D182, 1⟩,
     ⟨0x1D18A, 0x1D18B, 1⟩, ⟨0x1E8D0, 0x1E8D6, 1⟩]),
   (222, [⟨0x59A, 0x59A, 1⟩, ⟨0x5AD, 0x5AD, 1⟩, ⟨0x1939, 0x1939, 1⟩, ⟨0x302D, 0x302D, 1⟩]),
   (224, [⟨0x302E, 0x302F, 1⟩]),
   (226, [⟨0x1D16D, 0x1D16D, 1⟩]),
   (228, [⟨0x5AE, 0x5AE, 1⟩, ⟨0x18A9, 0x18A9, 1⟩, ⟨0x1DF7, 0x1DF8, 1⟩, ⟨0x302B, 0x302B, 1⟩]),
   (230, [⟨0x300, 0x314, 1⟩, ⟨0x33D, 0x344, 1⟩, ⟨0x346, 0x346, 1⟩, ⟨0x34A, 0x34C, 1⟩,
     ⟨0x350, 0x352, 1⟩, ⟨0x357, 0x357, 1⟩, ⟨0x35B, 0x35B, 1⟩, ⟨0x363, 0x36F, 1⟩, ⟨0x483, 0x487, 1⟩,
     ⟨0x592, 0x595, 1⟩, ⟨0x597, 0x599, 1⟩, ⟨0x59C, 0x5A1, 1⟩, ⟨0x5A8, 0x5A9, 1⟩, ⟨0x5AB, 0x5AC, 1⟩,
     ⟨0x5AF, 0x5AF, 1⟩, ⟨0x5C4, 0x5C4, 1⟩, ⟨0x610, 0x617, 1⟩, ⟨0x653, 0x654, 1⟩, ⟨0x657, 0x65B, 1⟩,
     ⟨0x65D, 0x65E, 1⟩, ⟨0x6D6, 0x6DC, 1⟩, ⟨0x6DF, 0x6E2, 1⟩, ⟨0x6E4, 0x6E4, 1⟩, ⟨0x6E7, 0x6E8, 1⟩,
     ⟨0x6EB, 0x6EC, 1⟩, ⟨0x730, 0x730, 1⟩, ⟨0x732, 0x733, 1⟩, ⟨0x735, 0x736, 1⟩, ⟨0x73A, 0x73A, 1⟩,
     ⟨0x73D, 0x73D, 1⟩, ⟨0x73F, 0x741, 1⟩, ⟨0x743, 0x747, 2⟩, ⟨0x749, 0x74A, 1⟩, ⟨0x7EB, 0x7F1, 1⟩,
     ⟨0x7F3, 0x7F3, 1⟩, ⟨0x816, 0x819, 1⟩, ⟨0x81B, 0x823, 1⟩, ⟨0x825, 0x827, 1⟩, ⟨0x829, 0x82D, 1⟩,
     ⟨0x898, 0x898, 1⟩, ⟨0x89C, 0x89F, 1⟩, ⟨0x8CA, 0x8CE, 1⟩, ⟨0x8D4, 0x8E1, 1⟩, ⟨0x8E4, 0x8E5, 1⟩,
     ⟨0x8E7, 0x8E8, 1⟩, ⟨0x8EA, 0x8EC, 1⟩, ⟨0x8F3, 0x8F5, 1⟩, ⟨0x8F7, 0x8F8, 1⟩, ⟨0x8FB, 0x8FF, 1⟩,
     ⟨0x951, 0x951, 1⟩, ⟨0x953, 0x954, 1⟩, ⟨0x9FE, 0x9FE, 1⟩, ⟨0xF82, 0xF83, 1⟩, ⟨0xF86, 0xF87, 1⟩,
     ⟨0x135D, 0x135F, 1⟩, ⟨0x17DD, 0x17DD, 1⟩, ⟨0x193A, 0x193A, 1⟩, ⟨0x1A17, 0x1A17, 1⟩,
     ⟨0x1A75, 0x1A7C, 1⟩, ⟨0x1AB0, 0x1AB4, 1⟩, ⟨0x1ABB, 0x1ABC, 1⟩, ⟨0x1AC1, 0x1AC2, 1⟩,
     ⟨0x1AC5, 0x1AC9, 1⟩, ⟨0x1ACB, 0x1ACE, 1⟩, ⟨0x1B6B, 0x1B6B, 1⟩, ⟨0x1B6D, 0x1B73, 1⟩,
     ⟨0x1CD0, 0x1CD2, 1⟩, ⟨0x1CDA, 0x1CDB, 1⟩, ⟨0x1CE0, 0x1CE0, 1⟩, ⟨0x1CF4, 0x1CF4, 1⟩,
     ⟨0x1CF8, 0x1CF9, 1⟩, ⟨0x1DC0, 0x1DC1, 1⟩, ⟨0x1DC3, 0x1DC9, 1⟩, ⟨0x1DCB, 0x1DCC, 1⟩,
     ⟨0x1DD1, 0x1DF5, 1⟩, ⟨0x1DFB, 0x1DFB, 1⟩, ⟨0x1DFE, 0x1DFE, 1⟩, ⟨0x20D0, 0x20D1, 1⟩,
     ⟨0x20D4, 0x20D7, 1⟩, ⟨0x20DB, 0x20DC, 1⟩, ⟨0x20E1, 0x20E1, 1⟩, ⟨0x20E7, 0x20E9, 2⟩,
     ⟨0x20F0, 0x20F0, 1⟩, ⟨0x2CEF, 0x2CF1, 1⟩, ⟨0x2DE0, 0x2DFF, 1⟩, ⟨0xA66F, 0xA66F, 1⟩,
     ⟨0xA674, 0xA67D, 1⟩, ⟨0xA69E, 0xA69F, 1⟩, ⟨0xA6F0, 0xA6F1, 1⟩, ⟨0xA8E0, 0xA8F1, 1⟩,
     ⟨0xAAB0, 0xAAB0, 1⟩, ⟨0xAAB2, 0xAAB3, 1⟩, ⟨0xAAB7, 0xAAB8, 1⟩, ⟨0xAABE, 0xAABF, 1⟩,
     ⟨0xAAC1, 0xAAC1, 1⟩, ⟨0xFE20, 0xFE26, 1⟩, ⟨0xFE2E, 0xFE2F, 1⟩, ⟨0x10376, 0x1037A, 1⟩,
     ⟨0x10A0F, 0x10A0F, 1⟩, ⟨0x10A38, 0x10A38, 1⟩, ⟨0x10AE5, 0x10AE5, 1⟩, ⟨0x10D24, 0x10D27, 1⟩,
     ⟨0x10EAB, 0x10EAC, 1⟩, ⟨0x10F48, 0x10F4A, 1⟩, ⟨0x10F4C, 0x10F4C, 1⟩, ⟨0x10F82, 0x10F84, 2⟩,
     ⟨0x11100, 0x11102, 1⟩, ⟨0x11366, 0x1136C, 1⟩, ⟨0x11370, 0x11374, 1⟩, ⟨0x1145E, 0x1145E, 1⟩,
     ⟨0x16B30, 0x16B36, 1⟩, ⟨0x1D185, 0x1D189, 1⟩, ⟨0x1D1AA, 0x1D1AD, 1⟩, ⟨0x1D242, 0x1D244, 1⟩,
     ⟨0x1E000, 0x1E006, 1⟩, ⟨0x1E008, 0x1E018, 1⟩, ⟨0x1E01B, 0x1E021, 1⟩, ⟨0x1E023, 0x1E024, 1⟩,
     ⟨0x1E026, 0x1E02A, 1⟩, ⟨0x1E130, 0x1E136, 1⟩, ⟨0x1E2AE, 0x1E2AE, 1⟩, ⟨0x1E2EC, 0x1E2EF, 1⟩,
     ⟨0x1E944, 0x1E949, 1⟩]),
   (232, [⟨0x315, 0x315, 1⟩, ⟨0x31A, 0x31A, 1⟩, ⟨0x358, 0x358, 1⟩, ⟨0x1DF6, 0x1DF6, 1⟩,
     ⟨0x302C, 0x302C, 1⟩]),
   (233, [⟨0x35C, 0x35C, 1⟩, ⟨0x35F, 0x35F, 1⟩, ⟨0x362, 0x362, 1⟩, ⟨0x1DFC, 0x1DFC, 1⟩]),
   (234, [⟨0x35D, 0x35E, 1⟩, ⟨0x360, 0x361, 1⟩, ⟨0x1DCD, 0x1DCD, 1⟩]),
   (240, [⟨0x345, 0x345, 1⟩])]

def combiningClass (n : Nat) : Nat :=
  match combiningClasses.find? (·.2.any (·.contains n)) with
  | some c => c.1
  | none => 0

def viramaClass : Nat := 9

end TableParsing.Text
