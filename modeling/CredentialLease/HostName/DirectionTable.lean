import CredentialLease.Text.CodePoints

/-!
# The Unicode data of writing directions

Each table is a bidirectional class, apart from class `L`, to which the characters in no table
belong. Only characters that a host name can hold once it is mapped count: an interval may run
over others.
-/

namespace CredentialLease.HostName

/-- Class `R`: characters of the scripts that are written from right to left. -/
def rightToLeft : CodePoints :=
  [(0x5BE, 0x5BE), (0x5C0, 0x5C0), (0x5C3, 0x5C3), (0x5C6, 0x5C6), (0x5D0, 0x5F4), (0x7C0, 0x7EA),
   (0x7F4, 0x7F5), (0x7FA, 0x7FA), (0x7FE, 0x815), (0x81A, 0x81A), (0x824, 0x824), (0x828, 0x828),
   (0x830, 0x858), (0x85E, 0x85E), (0x10800, 0x1091B), (0x10920, 0x10A00), (0x10A10, 0x10A35),
   (0x10A40, 0x10AE4), (0x10AEB, 0x10B35), (0x10B40, 0x10CFF), (0x10D40, 0x10D4F),
   (0x10D6F, 0x10D8F), (0x10E80, 0x10EA9), (0x10EAD, 0x10EB1), (0x10F00, 0x10F27),
   (0x10F70, 0x10F81), (0x10F86, 0x10FF6), (0x1E800, 0x1E8CF), (0x1E922, 0x1E943),
   (0x1E94B, 0x1E95F)]

/-- Class `AL`: Arabic letters. -/
def arabicLetters : CodePoints :=
  [(0x608, 0x608), (0x60B, 0x60B), (0x60D, 0x60D), (0x61B, 0x64A), (0x66D, 0x66F), (0x671, 0x6D5),
   (0x6E5, 0x6E6), (0x6EE, 0x6EF), (0x6FA, 0x710), (0x712, 0x72F), (0x74D, 0x7A5), (0x7B1, 0x7B1),
   (0x860, 0x88F), (0x8A0, 0x8C9), (0xFBB2, 0xFBC2), (0xFE73, 0xFE73), (0x10D00, 0x10D23),
   (0x10EC2, 0x10ED0), (0x10F30, 0x10F45), (0x10F51, 0x10F59), (0x1EC71, 0x1ED3D)]

/-- Class `AN`: Arabic numbers. -/
def arabicNumbers : CodePoints :=
  [(0x660, 0x669), (0x66B, 0x66C), (0x10D30, 0x10D39), (0x10E60, 0x10E7E)]

/-- Class `EN`: European numbers. -/
def europeanNumbers : CodePoints :=
  [(0x30, 0x39), (0x6F0, 0x6F9), (0x102E1, 0x102FB)]

/-- Class `ES`: separators of European numbers. -/
def europeanSeparators : CodePoints :=
  [(0x2B, 0x2B), (0x2D, 0x2D), (0x2212, 0x2212)]

/-- Class `ET`: terminators of European numbers. -/
def europeanTerminators : CodePoints :=
  [(0x23, 0x25), (0xA2, 0xA5), (0xB0, 0xB1), (0x58F, 0x58F), (0x609, 0x60A), (0x66A, 0x66A),
   (0x9F2, 0x9F3), (0x9FB, 0x9FB), (0xAF1, 0xAF1), (0xBF9, 0xBF9), (0xE3F, 0xE3F), (0x17DB, 0x17DB),
   (0x2030, 0x2032), (0x20A0, 0x20C1), (0x212E, 0x212E), (0x2213, 0x2213), (0xA838, 0xA839),
   (0x11FDD, 0x11FE0), (0x1E2FF, 0x1E2FF)]

/-- Class `CS`: common separators of numbers. -/
def commonSeparators : CodePoints :=
  [(0x2C, 0x2C), (0x2E, 0x2F), (0x3A, 0x3A), (0x60C, 0x60C), (0x2044, 0x2044)]

/-- Class `NSM`: marks that take no space. -/
def nonspacingMarks : CodePoints :=
  [(0x300, 0x36F), (0x483, 0x489), (0x591, 0x5BD), (0x5BF, 0x5BF), (0x5C1, 0x5C2), (0x5C4, 0x5C5),
   (0x5C7, 0x5C7), (0x610, 0x61A), (0x64B, 0x65F), (0x670, 0x670), (0x6D6, 0x6DC), (0x6DF, 0x6E4),
   (0x6E7, 0x6E8), (0x6EA, 0x6ED), (0x711, 0x711), (0x730, 0x74A), (0x7A6, 0x7B0), (0x7EB, 0x7F3),
   (0x7FD, 0x7FD), (0x816, 0x819), (0x81B, 0x823), (0x825, 0x827), (0x829, 0x82D), (0x859, 0x85B),
   (0x897, 0x89F), (0x8CA, 0x902), (0x93A, 0x93A), (0x93C, 0x93C), (0x941, 0x948), (0x94D, 0x94D),
   (0x951, 0x957), (0x962, 0x963), (0x981, 0x981), (0x9BC, 0x9BC), (0x9C1, 0x9C4), (0x9CD, 0x9CD),
   (0x9E2, 0x9E3), (0x9FE, 0xA02), (0xA3C, 0xA3C), (0xA41, 0xA51), (0xA70, 0xA71), (0xA75, 0xA75),
   (0xA81, 0xA82), (0xABC, 0xABC), (0xAC1, 0xAC8), (0xACD, 0xACD), (0xAE2, 0xAE3), (0xAFA, 0xB01),
   (0xB3C, 0xB3C), (0xB3F, 0xB3F), (0xB41, 0xB44), (0xB4D, 0xB56), (0xB62, 0xB63), (0xB82, 0xB82),
   (0xBC0, 0xBC0), (0xBCD, 0xBCD), (0xC00, 0xC00), (0xC04, 0xC04), (0xC3C, 0xC3C), (0xC3E, 0xC40),
   (0xC46, 0xC56), (0xC62, 0xC63), (0xC81, 0xC81), (0xCBC, 0xCBC), (0xCCC, 0xCCD), (0xCE2, 0xCE3),
   (0xD00, 0xD01), (0xD3B, 0xD3C), (0xD41, 0xD44), (0xD4D, 0xD4D), (0xD62, 0xD63), (0xD81, 0xD81),
   (0xDCA, 0xDCA), (0xDD2, 0xDD6), (0xE31, 0xE31), (0xE34, 0xE3A), (0xE47, 0xE4E), (0xEB1, 0xEB1),
   (0xEB4, 0xEBC), (0xEC8, 0xECE), (0xF18, 0xF19), (0xF35, 0xF35), (0xF37, 0xF37), (0xF39, 0xF39),
   (0xF71, 0xF7E), (0xF80, 0xF84), (0xF86, 0xF87), (0xF8D, 0xFBC), (0xFC6, 0xFC6), (0x102D, 0x1030),
   (0x1032, 0x1037), (0x1039, 0x103A), (0x103D, 0x103E), (0x1058, 0x1059), (0x105E, 0x1060),
   (0x1071, 0x1074), (0x1082, 0x1082), (0x1085, 0x1086), (0x108D, 0x108D), (0x109D, 0x109D),
   (0x135D, 0x135F), (0x1712, 0x1714), (0x1732, 0x1733), (0x1752, 0x1753), (0x1772, 0x1773),
   (0x17B7, 0x17BD), (0x17C6, 0x17C6), (0x17C9, 0x17D3), (0x17DD, 0x17DD), (0x1885, 0x1886),
   (0x18A9, 0x18A9), (0x1920, 0x1922), (0x1927, 0x1928), (0x1932, 0x1932), (0x1939, 0x193B),
   (0x1A17, 0x1A18), (0x1A1B, 0x1A1B), (0x1A56, 0x1A56), (0x1A58, 0x1A60), (0x1A62, 0x1A62),
   (0x1A65, 0x1A6C), (0x1A73, 0x1A7F), (0x1AB0, 0x1B03), (0x1B34, 0x1B34), (0x1B36, 0x1B3A),
   (0x1B3C, 0x1B3C), (0x1B42, 0x1B42), (0x1B6B, 0x1B73), (0x1B80, 0x1B81), (0x1BA2, 0x1BA5),
   (0x1BA8, 0x1BA9), (0x1BAB, 0x1BAD), (0x1BE6, 0x1BE6), (0x1BE8, 0x1BE9), (0x1BED, 0x1BED),
   (0x1BEF, 0x1BF1), (0x1C2C, 0x1C33), (0x1C36, 0x1C37), (0x1CD0, 0x1CD2), (0x1CD4, 0x1CE0),
   (0x1CE2, 0x1CE8), (0x1CED, 0x1CED), (0x1CF4, 0x1CF4), (0x1CF8, 0x1CF9), (0x1DC0, 0x1DFF),
   (0x20D0, 0x20F0), (0x2CEF, 0x2CF1), (0x2D7F, 0x2D7F), (0x2DE0, 0x2DFF), (0x302A, 0x302D),
   (0x3099, 0x309A), (0xA66F, 0xA672), (0xA674, 0xA67D), (0xA69E, 0xA69F), (0xA6F0, 0xA6F1),
   (0xA802, 0xA802), (0xA806, 0xA806), (0xA80B, 0xA80B), (0xA825, 0xA826), (0xA82C, 0xA82C),
   (0xA8C4, 0xA8C5), (0xA8E0, 0xA8F1), (0xA8FF, 0xA8FF), (0xA926, 0xA92D), (0xA947, 0xA951),
   (0xA980, 0xA982), (0xA9B3, 0xA9B3), (0xA9B6, 0xA9B9), (0xA9BC, 0xA9BD), (0xA9E5, 0xA9E5),
   (0xAA29, 0xAA2E), (0xAA31, 0xAA32), (0xAA35, 0xAA36), (0xAA43, 0xAA43), (0xAA4C, 0xAA4C),
   (0xAA7C, 0xAA7C), (0xAAB0, 0xAAB0), (0xAAB2, 0xAAB4), (0xAAB7, 0xAAB8), (0xAABE, 0xAABF),
   (0xAAC1, 0xAAC1), (0xAAEC, 0xAAED), (0xAAF6, 0xAAF6), (0xABE5, 0xABE5), (0xABE8, 0xABE8),
   (0xABED, 0xABED), (0xFB1E, 0xFB1E), (0xFE20, 0xFE2F), (0x101FD, 0x101FD), (0x102E0, 0x102E0),
   (0x10376, 0x1037A), (0x10A01, 0x10A0F), (0x10A38, 0x10A3F), (0x10AE5, 0x10AE6),
   (0x10D24, 0x10D27), (0x10D69, 0x10D6D), (0x10EAB, 0x10EAC), (0x10EFA, 0x10EFF),
   (0x10F46, 0x10F50), (0x10F82, 0x10F85), (0x11001, 0x11001), (0x11038, 0x11046),
   (0x11070, 0x11070), (0x11073, 0x11074), (0x1107F, 0x11081), (0x110B3, 0x110B6),
   (0x110B9, 0x110BA), (0x110C2, 0x110C2), (0x11100, 0x11102), (0x11127, 0x1112B),
   (0x1112D, 0x11134), (0x11173, 0x11173), (0x11180, 0x11181), (0x111B6, 0x111BE),
   (0x111C9, 0x111CC), (0x111CF, 0x111CF), (0x1122F, 0x11231), (0x11234, 0x11234),
   (0x11236, 0x11237), (0x1123E, 0x1123E), (0x11241, 0x11241), (0x112DF, 0x112DF),
   (0x112E3, 0x112EA), (0x11300, 0x11301), (0x1133B, 0x1133C), (0x11340, 0x11340),
   (0x11366, 0x11374), (0x113BB, 0x113C0), (0x113CE, 0x113CE), (0x113D0, 0x113D0),
   (0x113D2, 0x113D2), (0x113E1, 0x113E2), (0x11438, 0x1143F), (0x11442, 0x11444),
   (0x11446, 0x11446), (0x1145E, 0x1145E), (0x114B3, 0x114B8), (0x114BA, 0x114BA),
   (0x114BF, 0x114C0), (0x114C2, 0x114C3), (0x115B2, 0x115B5), (0x115BC, 0x115BD),
   (0x115BF, 0x115C0), (0x115DC, 0x115DD), (0x11633, 0x1163A), (0x1163D, 0x1163D),
   (0x1163F, 0x11640), (0x116AB, 0x116AB), (0x116AD, 0x116AD), (0x116B0, 0x116B5),
   (0x116B7, 0x116B7), (0x1171D, 0x1171F), (0x11722, 0x11725), (0x11727, 0x1172B),
   (0x1182F, 0x11837), (0x11839, 0x1183A), (0x1193B, 0x1193C), (0x1193E, 0x1193E),
   (0x11943, 0x11943), (0x119D4, 0x119DB), (0x119E0, 0x119E0), (0x11A01, 0x11A06),
   (0x11A09, 0x11A0A), (0x11A33, 0x11A38), (0x11A3B, 0x11A3E), (0x11A47, 0x11A47),
   (0x11A51, 0x11A56), (0x11A59, 0x11A5B), (0x11A8A, 0x11A96), (0x11A98, 0x11A99),
   (0x11B60, 0x11B60), (0x11B62, 0x11B64), (0x11B66, 0x11B66), (0x11C30, 0x11C3D),
   (0x11C92, 0x11CA7), (0x11CAA, 0x11CB0), (0x11CB2, 0x11CB3), (0x11CB5, 0x11CB6),
   (0x11D31, 0x11D45), (0x11D47, 0x11D47), (0x11D90, 0x11D91), (0x11D95, 0x11D95),
   (0x11D97, 0x11D97), (0x11EF3, 0x11EF4), (0x11F00, 0x11F01), (0x11F36, 0x11F3A),
   (0x11F40, 0x11F40), (0x11F42, 0x11F42), (0x11F5A, 0x11F5A), (0x13440, 0x13440),
   (0x13447, 0x13455), (0x1611E, 0x16129), (0x1612D, 0x1612F), (0x16AF0, 0x16AF4),
   (0x16B30, 0x16B36), (0x16F4F, 0x16F4F), (0x16F8F, 0x16F92), (0x16FE4, 0x16FE4),
   (0x1BC9D, 0x1BC9E), (0x1CF00, 0x1CF46), (0x1D167, 0x1D169), (0x1D17B, 0x1D182),
   (0x1D185, 0x1D18B), (0x1D1AA, 0x1D1AD), (0x1D242, 0x1D244), (0x1DA00, 0x1DA36),
   (0x1DA3B, 0x1DA6C), (0x1DA75, 0x1DA75), (0x1DA84, 0x1DA84), (0x1DA9B, 0x1DAAF),
   (0x1E000, 0x1E08F), (0x1E130, 0x1E136), (0x1E2AE, 0x1E2AE), (0x1E2EC, 0x1E2EF),
   (0x1E4EC, 0x1E4EF), (0x1E5EE, 0x1E5EF), (0x1E6E3, 0x1E6E3), (0x1E6E6, 0x1E6E6),
   (0x1E6EE, 0x1E6EF), (0x1E6F5, 0x1E6F5), (0x1E8D0, 0x1E8D6), (0x1E944, 0x1E94A)]

/-- Class `BN`: characters that bound nothing. -/
def boundaryNeutrals : CodePoints :=
  [(0x0, 0x8), (0xE, 0x1B), (0x7F, 0x7F), (0x200C, 0x200D)]

/-- Class `ON`: other neutral characters. -/
def otherNeutrals : CodePoints :=
  [(0x21, 0x22), (0x26, 0x2A), (0x3B, 0x60), (0x7B, 0x7E), (0xA1, 0xA1), (0xA6, 0xAE), (0xB6, 0xD7),
   (0xF7, 0xF7), (0x2B9, 0x2BA), (0x2C2, 0x2CF), (0x2D2, 0x2ED), (0x2EF, 0x2FF), (0x375, 0x375),
   (0x3F6, 0x3F6), (0x58A, 0x58E), (0x606, 0x607), (0x60E, 0x60F), (0x6DE, 0x6DE), (0x6E9, 0x6E9),
   (0x7F6, 0x7F9), (0xBF3, 0xBF8), (0xBFA, 0xBFA), (0xC78, 0xC7E), (0xF3A, 0xF3D), (0x1390, 0x1399),
   (0x1400, 0x1400), (0x169B, 0x169C), (0x17F0, 0x180A), (0x1940, 0x1945), (0x19DE, 0x19FF),
   (0x2010, 0x2027), (0x2035, 0x2043), (0x2045, 0x205E), (0x2104, 0x2129), (0x213A, 0x214D),
   (0x218A, 0x2211), (0x2214, 0x2335), (0x237B, 0x2394), (0x2396, 0x26AB), (0x26AD, 0x27FF),
   (0x2900, 0x2BFF), (0x2CE5, 0x2CEA), (0x2CF9, 0x2CFF), (0x2E00, 0x3004), (0x3008, 0x3020),
   (0x3030, 0x3030), (0x3037, 0x3037), (0x303D, 0x303F), (0x30A0, 0x30A0), (0x30FB, 0x30FB),
   (0x31C0, 0x31E5), (0x4DC0, 0x4DFF), (0xA490, 0xA4C6), (0xA60D, 0xA60F), (0xA673, 0xA673),
   (0xA67E, 0xA67F), (0xA700, 0xA721), (0xA788, 0xA788), (0xA828, 0xA82B), (0xA874, 0xA877),
   (0xAB6A, 0xAB6B), (0xFBC3, 0xFDFF), (0xFE45, 0xFE46), (0x10101, 0x10101), (0x10140, 0x1018C),
   (0x10190, 0x101A0), (0x1091F, 0x1091F), (0x10B39, 0x10B3F), (0x10D6E, 0x10D6E),
   (0x10ED1, 0x10ED8), (0x11052, 0x11065), (0x11660, 0x1166C), (0x11FD5, 0x11FDC),
   (0x11FE1, 0x11FF1), (0x16FE2, 0x16FE2), (0x1CC00, 0x1CEF0), (0x1D1E9, 0x1D241),
   (0x1D245, 0x1D245), (0x1D300, 0x1D356), (0x1EEF0, 0x1F12F), (0x1F16D, 0x1F16F),
   (0x1F1AD, 0x1F1AD), (0x1F260, 0x1FBFA)]

end CredentialLease.HostName
