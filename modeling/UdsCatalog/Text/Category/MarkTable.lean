import UdsCatalog.Text.CodeRuns

/-! Code points of marks and numbers, by their kind. -/

namespace UdsCatalog.Text

/-- Marks that take no room. -/
def nonspacingMarkRuns : CodeRuns := [
  (0x0300, 0x036F, 1), (0x0483, 0x0487, 1), (0x0591, 0x05BD, 1), (0x05BF, 0x05BF, 1),
  (0x05C1, 0x05C2, 1), (0x05C4, 0x05C5, 1), (0x05C7, 0x05C7, 1), (0x0610, 0x061A, 1),
  (0x064B, 0x065F, 1), (0x0670, 0x0670, 1), (0x06D6, 0x06DC, 1), (0x06DF, 0x06E4, 1),
  (0x06E7, 0x06E8, 1), (0x06EA, 0x06ED, 1), (0x0711, 0x0711, 1), (0x0730, 0x074A, 1),
  (0x07A6, 0x07B0, 1), (0x07EB, 0x07F3, 1), (0x07FD, 0x07FD, 1), (0x0816, 0x0819, 1),
  (0x081B, 0x0823, 1), (0x0825, 0x0827, 1), (0x0829, 0x082D, 1), (0x0859, 0x085B, 1),
  (0x0897, 0x089F, 1), (0x08CA, 0x08E1, 1), (0x08E3, 0x0902, 1), (0x093A, 0x093C, 2),
  (0x0941, 0x0948, 1), (0x094D, 0x094D, 1), (0x0951, 0x0957, 1), (0x0962, 0x0963, 1),
  (0x0981, 0x0981, 1), (0x09BC, 0x09BC, 1), (0x09C1, 0x09C4, 1), (0x09CD, 0x09CD, 1),
  (0x09E2, 0x09E3, 1), (0x09FE, 0x09FE, 1), (0x0A01, 0x0A02, 1), (0x0A3C, 0x0A3C, 1),
  (0x0A41, 0x0A42, 1), (0x0A47, 0x0A48, 1), (0x0A4B, 0x0A4D, 1), (0x0A51, 0x0A51, 1),
  (0x0A70, 0x0A71, 1), (0x0A75, 0x0A75, 1), (0x0A81, 0x0A82, 1), (0x0ABC, 0x0ABC, 1),
  (0x0AC1, 0x0AC5, 1), (0x0AC7, 0x0AC8, 1), (0x0ACD, 0x0ACD, 1), (0x0AE2, 0x0AE3, 1),
  (0x0AFA, 0x0AFF, 1), (0x0B01, 0x0B01, 1), (0x0B3C, 0x0B3C, 1), (0x0B3F, 0x0B3F, 1),
  (0x0B41, 0x0B44, 1), (0x0B4D, 0x0B4D, 1), (0x0B55, 0x0B56, 1), (0x0B62, 0x0B63, 1),
  (0x0B82, 0x0B82, 1), (0x0BC0, 0x0BC0, 1), (0x0BCD, 0x0BCD, 1), (0x0C00, 0x0C00, 1),
  (0x0C04, 0x0C04, 1), (0x0C3C, 0x0C3C, 1), (0x0C3E, 0x0C40, 1), (0x0C46, 0x0C48, 1),
  (0x0C4A, 0x0C4D, 1), (0x0C55, 0x0C56, 1), (0x0C62, 0x0C63, 1), (0x0C81, 0x0C81, 1),
  (0x0CBC, 0x0CBC, 1), (0x0CBF, 0x0CBF, 1), (0x0CC6, 0x0CC6, 1), (0x0CCC, 0x0CCD, 1),
  (0x0CE2, 0x0CE3, 1), (0x0D00, 0x0D01, 1), (0x0D3B, 0x0D3C, 1), (0x0D41, 0x0D44, 1),
  (0x0D4D, 0x0D4D, 1), (0x0D62, 0x0D63, 1), (0x0D81, 0x0D81, 1), (0x0DCA, 0x0DCA, 1),
  (0x0DD2, 0x0DD4, 1), (0x0DD6, 0x0DD6, 1), (0x0E31, 0x0E31, 1), (0x0E34, 0x0E3A, 1),
  (0x0E47, 0x0E4E, 1), (0x0EB1, 0x0EB1, 1), (0x0EB4, 0x0EBC, 1), (0x0EC8, 0x0ECE, 1),
  (0x0F18, 0x0F19, 1), (0x0F35, 0x0F39, 2), (0x0F71, 0x0F7E, 1), (0x0F80, 0x0F84, 1),
  (0x0F86, 0x0F87, 1), (0x0F8D, 0x0F97, 1), (0x0F99, 0x0FBC, 1), (0x0FC6, 0x0FC6, 1),
  (0x102D, 0x1030, 1), (0x1032, 0x1037, 1), (0x1039, 0x103A, 1), (0x103D, 0x103E, 1),
  (0x1058, 0x1059, 1), (0x105E, 0x1060, 1), (0x1071, 0x1074, 1), (0x1082, 0x1082, 1),
  (0x1085, 0x1086, 1), (0x108D, 0x108D, 1), (0x109D, 0x109D, 1), (0x135D, 0x135F, 1),
  (0x1712, 0x1714, 1), (0x1732, 0x1733, 1), (0x1752, 0x1753, 1), (0x1772, 0x1773, 1),
  (0x17B4, 0x17B5, 1), (0x17B7, 0x17BD, 1), (0x17C6, 0x17C6, 1), (0x17C9, 0x17D3, 1),
  (0x17DD, 0x17DD, 1), (0x180B, 0x180D, 1), (0x180F, 0x180F, 1), (0x1885, 0x1886, 1),
  (0x18A9, 0x18A9, 1), (0x1920, 0x1922, 1), (0x1927, 0x1928, 1), (0x1932, 0x1932, 1),
  (0x1939, 0x193B, 1), (0x1A17, 0x1A18, 1), (0x1A1B, 0x1A1B, 1), (0x1A56, 0x1A56, 1),
  (0x1A58, 0x1A5E, 1), (0x1A60, 0x1A62, 2), (0x1A65, 0x1A6C, 1), (0x1A73, 0x1A7C, 1),
  (0x1A7F, 0x1A7F, 1), (0x1AB0, 0x1ABD, 1), (0x1ABF, 0x1ADD, 1), (0x1AE0, 0x1AEB, 1),
  (0x1B00, 0x1B03, 1), (0x1B34, 0x1B34, 1), (0x1B36, 0x1B3A, 1), (0x1B3C, 0x1B3C, 1),
  (0x1B42, 0x1B42, 1), (0x1B6B, 0x1B73, 1), (0x1B80, 0x1B81, 1), (0x1BA2, 0x1BA5, 1),
  (0x1BA8, 0x1BA9, 1), (0x1BAB, 0x1BAD, 1), (0x1BE6, 0x1BE6, 1), (0x1BE8, 0x1BE9, 1),
  (0x1BED, 0x1BED, 1), (0x1BEF, 0x1BF1, 1), (0x1C2C, 0x1C33, 1), (0x1C36, 0x1C37, 1),
  (0x1CD0, 0x1CD2, 1), (0x1CD4, 0x1CE0, 1), (0x1CE2, 0x1CE8, 1), (0x1CED, 0x1CED, 1),
  (0x1CF4, 0x1CF4, 1), (0x1CF8, 0x1CF9, 1), (0x1DC0, 0x1DFF, 1), (0x20D0, 0x20DC, 1),
  (0x20E1, 0x20E1, 1), (0x20E5, 0x20F0, 1), (0x2CEF, 0x2CF1, 1), (0x2D7F, 0x2D7F, 1),
  (0x2DE0, 0x2DFF, 1), (0x302A, 0x302D, 1), (0x3099, 0x309A, 1), (0xA66F, 0xA66F, 1),
  (0xA674, 0xA67D, 1), (0xA69E, 0xA69F, 1), (0xA6F0, 0xA6F1, 1), (0xA802, 0xA802, 1),
  (0xA806, 0xA806, 1), (0xA80B, 0xA80B, 1), (0xA825, 0xA826, 1), (0xA82C, 0xA82C, 1),
  (0xA8C4, 0xA8C5, 1), (0xA8E0, 0xA8F1, 1), (0xA8FF, 0xA8FF, 1), (0xA926, 0xA92D, 1),
  (0xA947, 0xA951, 1), (0xA980, 0xA982, 1), (0xA9B3, 0xA9B3, 1), (0xA9B6, 0xA9B9, 1),
  (0xA9BC, 0xA9BD, 1), (0xA9E5, 0xA9E5, 1), (0xAA29, 0xAA2E, 1), (0xAA31, 0xAA32, 1),
  (0xAA35, 0xAA36, 1), (0xAA43, 0xAA43, 1), (0xAA4C, 0xAA4C, 1), (0xAA7C, 0xAA7C, 1),
  (0xAAB0, 0xAAB0, 1), (0xAAB2, 0xAAB4, 1), (0xAAB7, 0xAAB8, 1), (0xAABE, 0xAABF, 1),
  (0xAAC1, 0xAAC1, 1), (0xAAEC, 0xAAED, 1), (0xAAF6, 0xAAF6, 1), (0xABE5, 0xABE5, 1),
  (0xABE8, 0xABE8, 1), (0xABED, 0xABED, 1), (0xFB1E, 0xFB1E, 1), (0xFE00, 0xFE0F, 1),
  (0xFE20, 0xFE2F, 1), (0x101FD, 0x101FD, 1), (0x102E0, 0x102E0, 1), (0x10376, 0x1037A, 1),
  (0x10A01, 0x10A03, 1), (0x10A05, 0x10A06, 1), (0x10A0C, 0x10A0F, 1), (0x10A38, 0x10A3A, 1),
  (0x10A3F, 0x10A3F, 1), (0x10AE5, 0x10AE6, 1), (0x10D24, 0x10D27, 1), (0x10D69, 0x10D6D, 1),
  (0x10EAB, 0x10EAC, 1), (0x10EFA, 0x10EFF, 1), (0x10F46, 0x10F50, 1), (0x10F82, 0x10F85, 1),
  (0x11001, 0x11001, 1), (0x11038, 0x11046, 1), (0x11070, 0x11070, 1), (0x11073, 0x11074, 1),
  (0x1107F, 0x11081, 1), (0x110B3, 0x110B6, 1), (0x110B9, 0x110BA, 1), (0x110C2, 0x110C2, 1),
  (0x11100, 0x11102, 1), (0x11127, 0x1112B, 1), (0x1112D, 0x11134, 1), (0x11173, 0x11173, 1),
  (0x11180, 0x11181, 1), (0x111B6, 0x111BE, 1), (0x111C9, 0x111CC, 1), (0x111CF, 0x111CF, 1),
  (0x1122F, 0x11231, 1), (0x11234, 0x11234, 1), (0x11236, 0x11237, 1), (0x1123E, 0x1123E, 1),
  (0x11241, 0x11241, 1), (0x112DF, 0x112DF, 1), (0x112E3, 0x112EA, 1), (0x11300, 0x11301, 1),
  (0x1133B, 0x1133C, 1), (0x11340, 0x11340, 1), (0x11366, 0x1136C, 1), (0x11370, 0x11374, 1),
  (0x113BB, 0x113C0, 1), (0x113CE, 0x113D2, 2), (0x113E1, 0x113E2, 1), (0x11438, 0x1143F, 1),
  (0x11442, 0x11444, 1), (0x11446, 0x11446, 1), (0x1145E, 0x1145E, 1), (0x114B3, 0x114B8, 1),
  (0x114BA, 0x114BA, 1), (0x114BF, 0x114C0, 1), (0x114C2, 0x114C3, 1), (0x115B2, 0x115B5, 1),
  (0x115BC, 0x115BD, 1), (0x115BF, 0x115C0, 1), (0x115DC, 0x115DD, 1), (0x11633, 0x1163A, 1),
  (0x1163D, 0x1163D, 1), (0x1163F, 0x11640, 1), (0x116AB, 0x116AD, 2), (0x116B0, 0x116B5, 1),
  (0x116B7, 0x116B7, 1), (0x1171D, 0x1171F, 2), (0x11722, 0x11725, 1), (0x11727, 0x1172B, 1),
  (0x1182F, 0x11837, 1), (0x11839, 0x1183A, 1), (0x1193B, 0x1193C, 1), (0x1193E, 0x1193E, 1),
  (0x11943, 0x11943, 1), (0x119D4, 0x119D7, 1), (0x119DA, 0x119DB, 1), (0x119E0, 0x119E0, 1),
  (0x11A01, 0x11A0A, 1), (0x11A33, 0x11A38, 1), (0x11A3B, 0x11A3E, 1), (0x11A47, 0x11A47, 1),
  (0x11A51, 0x11A56, 1), (0x11A59, 0x11A5B, 1), (0x11A8A, 0x11A96, 1), (0x11A98, 0x11A99, 1),
  (0x11B60, 0x11B60, 1), (0x11B62, 0x11B64, 1), (0x11B66, 0x11B66, 1), (0x11C30, 0x11C36, 1),
  (0x11C38, 0x11C3D, 1), (0x11C3F, 0x11C3F, 1), (0x11C92, 0x11CA7, 1), (0x11CAA, 0x11CB0, 1),
  (0x11CB2, 0x11CB3, 1), (0x11CB5, 0x11CB6, 1), (0x11D31, 0x11D36, 1), (0x11D3A, 0x11D3A, 1),
  (0x11D3C, 0x11D3D, 1), (0x11D3F, 0x11D45, 1), (0x11D47, 0x11D47, 1), (0x11D90, 0x11D91, 1),
  (0x11D95, 0x11D97, 2), (0x11EF3, 0x11EF4, 1), (0x11F00, 0x11F01, 1), (0x11F36, 0x11F3A, 1),
  (0x11F40, 0x11F42, 2), (0x11F5A, 0x11F5A, 1), (0x13440, 0x13440, 1), (0x13447, 0x13455, 1),
  (0x1611E, 0x16129, 1), (0x1612D, 0x1612F, 1), (0x16AF0, 0x16AF4, 1), (0x16B30, 0x16B36, 1),
  (0x16F4F, 0x16F4F, 1), (0x16F8F, 0x16F92, 1), (0x16FE4, 0x16FE4, 1), (0x1BC9D, 0x1BC9E, 1),
  (0x1CF00, 0x1CF2D, 1), (0x1CF30, 0x1CF46, 1), (0x1D167, 0x1D169, 1), (0x1D17B, 0x1D182, 1),
  (0x1D185, 0x1D18B, 1), (0x1D1AA, 0x1D1AD, 1), (0x1D242, 0x1D244, 1), (0x1DA00, 0x1DA36, 1),
  (0x1DA3B, 0x1DA6C, 1), (0x1DA75, 0x1DA75, 1), (0x1DA84, 0x1DA84, 1), (0x1DA9B, 0x1DA9F, 1),
  (0x1DAA1, 0x1DAAF, 1), (0x1E000, 0x1E006, 1), (0x1E008, 0x1E018, 1), (0x1E01B, 0x1E021, 1),
  (0x1E023, 0x1E024, 1), (0x1E026, 0x1E02A, 1), (0x1E08F, 0x1E08F, 1), (0x1E130, 0x1E136, 1),
  (0x1E2AE, 0x1E2AE, 1), (0x1E2EC, 0x1E2EF, 1), (0x1E4EC, 0x1E4EF, 1), (0x1E5EE, 0x1E5EF, 1),
  (0x1E6E3, 0x1E6E3, 1), (0x1E6E6, 0x1E6E6, 1), (0x1E6EE, 0x1E6EF, 1), (0x1E6F5, 0x1E6F5, 1),
  (0x1E8D0, 0x1E8D6, 1), (0x1E944, 0x1E94A, 1), (0xE0100, 0xE01EF, 1)]

/-- Marks that take room. -/
def spacingMarkRuns : CodeRuns := [
  (0x0903, 0x0903, 1), (0x093B, 0x093B, 1), (0x093E, 0x0940, 1), (0x0949, 0x094C, 1),
  (0x094E, 0x094F, 1), (0x0982, 0x0983, 1), (0x09BE, 0x09C0, 1), (0x09C7, 0x09C8, 1),
  (0x09CB, 0x09CC, 1), (0x09D7, 0x09D7, 1), (0x0A03, 0x0A03, 1), (0x0A3E, 0x0A40, 1),
  (0x0A83, 0x0A83, 1), (0x0ABE, 0x0AC0, 1), (0x0AC9, 0x0AC9, 1), (0x0ACB, 0x0ACC, 1),
  (0x0B02, 0x0B03, 1), (0x0B3E, 0x0B40, 2), (0x0B47, 0x0B48, 1), (0x0B4B, 0x0B4C, 1),
  (0x0B57, 0x0B57, 1), (0x0BBE, 0x0BBF, 1), (0x0BC1, 0x0BC2, 1), (0x0BC6, 0x0BC8, 1),
  (0x0BCA, 0x0BCC, 1), (0x0BD7, 0x0BD7, 1), (0x0C01, 0x0C03, 1), (0x0C41, 0x0C44, 1),
  (0x0C82, 0x0C83, 1), (0x0CBE, 0x0CBE, 1), (0x0CC0, 0x0CC4, 1), (0x0CC7, 0x0CC8, 1),
  (0x0CCA, 0x0CCB, 1), (0x0CD5, 0x0CD6, 1), (0x0CF3, 0x0CF3, 1), (0x0D02, 0x0D03, 1),
  (0x0D3E, 0x0D40, 1), (0x0D46, 0x0D48, 1), (0x0D4A, 0x0D4C, 1), (0x0D57, 0x0D57, 1),
  (0x0D82, 0x0D83, 1), (0x0DCF, 0x0DD1, 1), (0x0DD8, 0x0DDF, 1), (0x0DF2, 0x0DF3, 1),
  (0x0F3E, 0x0F3F, 1), (0x0F7F, 0x0F7F, 1), (0x102B, 0x102C, 1), (0x1031, 0x1031, 1),
  (0x1038, 0x1038, 1), (0x103B, 0x103C, 1), (0x1056, 0x1057, 1), (0x1062, 0x1064, 1),
  (0x1067, 0x106D, 1), (0x1083, 0x1084, 1), (0x1087, 0x108C, 1), (0x108F, 0x108F, 1),
  (0x109A, 0x109C, 1), (0x1715, 0x1715, 1), (0x1734, 0x1734, 1), (0x17B6, 0x17B6, 1),
  (0x17BE, 0x17C5, 1), (0x17C7, 0x17C8, 1), (0x1923, 0x1926, 1), (0x1929, 0x192B, 1),
  (0x1930, 0x1931, 1), (0x1933, 0x1938, 1), (0x1A19, 0x1A1A, 1), (0x1A55, 0x1A57, 2),
  (0x1A61, 0x1A61, 1), (0x1A63, 0x1A64, 1), (0x1A6D, 0x1A72, 1), (0x1B04, 0x1B04, 1),
  (0x1B35, 0x1B35, 1), (0x1B3B, 0x1B3B, 1), (0x1B3D, 0x1B41, 1), (0x1B43, 0x1B44, 1),
  (0x1B82, 0x1B82, 1), (0x1BA1, 0x1BA1, 1), (0x1BA6, 0x1BA7, 1), (0x1BAA, 0x1BAA, 1),
  (0x1BE7, 0x1BE7, 1), (0x1BEA, 0x1BEC, 1), (0x1BEE, 0x1BEE, 1), (0x1BF2, 0x1BF3, 1),
  (0x1C24, 0x1C2B, 1), (0x1C34, 0x1C35, 1), (0x1CE1, 0x1CE1, 1), (0x1CF7, 0x1CF7, 1),
  (0x302E, 0x302F, 1), (0xA823, 0xA824, 1), (0xA827, 0xA827, 1), (0xA880, 0xA881, 1),
  (0xA8B4, 0xA8C3, 1), (0xA952, 0xA953, 1), (0xA983, 0xA983, 1), (0xA9B4, 0xA9B5, 1),
  (0xA9BA, 0xA9BB, 1), (0xA9BE, 0xA9C0, 1), (0xAA2F, 0xAA30, 1), (0xAA33, 0xAA34, 1),
  (0xAA4D, 0xAA4D, 1), (0xAA7B, 0xAA7D, 2), (0xAAEB, 0xAAEB, 1), (0xAAEE, 0xAAEF, 1),
  (0xAAF5, 0xAAF5, 1), (0xABE3, 0xABE4, 1), (0xABE6, 0xABE7, 1), (0xABE9, 0xABEA, 1),
  (0xABEC, 0xABEC, 1), (0x11000, 0x11002, 2), (0x11082, 0x11082, 1), (0x110B0, 0x110B2, 1),
  (0x110B7, 0x110B8, 1), (0x1112C, 0x1112C, 1), (0x11145, 0x11146, 1), (0x11182, 0x11182, 1),
  (0x111B3, 0x111B5, 1), (0x111BF, 0x111C0, 1), (0x111CE, 0x111CE, 1), (0x1122C, 0x1122E, 1),
  (0x11232, 0x11233, 1), (0x11235, 0x11235, 1), (0x112E0, 0x112E2, 1), (0x11302, 0x11303, 1),
  (0x1133E, 0x1133F, 1), (0x11341, 0x11344, 1), (0x11347, 0x11348, 1), (0x1134B, 0x1134D, 1),
  (0x11357, 0x11357, 1), (0x11362, 0x11363, 1), (0x113B8, 0x113BA, 1), (0x113C2, 0x113C2, 1),
  (0x113C5, 0x113C5, 1), (0x113C7, 0x113CA, 1), (0x113CC, 0x113CD, 1), (0x113CF, 0x113CF, 1),
  (0x11435, 0x11437, 1), (0x11440, 0x11441, 1), (0x11445, 0x11445, 1), (0x114B0, 0x114B2, 1),
  (0x114B9, 0x114B9, 1), (0x114BB, 0x114BE, 1), (0x114C1, 0x114C1, 1), (0x115AF, 0x115B1, 1),
  (0x115B8, 0x115BB, 1), (0x115BE, 0x115BE, 1), (0x11630, 0x11632, 1), (0x1163B, 0x1163C, 1),
  (0x1163E, 0x1163E, 1), (0x116AC, 0x116AC, 1), (0x116AE, 0x116AF, 1), (0x116B6, 0x116B6, 1),
  (0x1171E, 0x1171E, 1), (0x11720, 0x11721, 1), (0x11726, 0x11726, 1), (0x1182C, 0x1182E, 1),
  (0x11838, 0x11838, 1), (0x11930, 0x11935, 1), (0x11937, 0x11938, 1), (0x1193D, 0x1193D, 1),
  (0x11940, 0x11942, 2), (0x119D1, 0x119D3, 1), (0x119DC, 0x119DF, 1), (0x119E4, 0x119E4, 1),
  (0x11A39, 0x11A39, 1), (0x11A57, 0x11A58, 1), (0x11A97, 0x11A97, 1), (0x11B61, 0x11B61, 1),
  (0x11B65, 0x11B67, 2), (0x11C2F, 0x11C2F, 1), (0x11C3E, 0x11C3E, 1), (0x11CA9, 0x11CA9, 1),
  (0x11CB1, 0x11CB1, 1), (0x11CB4, 0x11CB4, 1), (0x11D8A, 0x11D8E, 1), (0x11D93, 0x11D94, 1),
  (0x11D96, 0x11D96, 1), (0x11EF5, 0x11EF6, 1), (0x11F03, 0x11F03, 1), (0x11F34, 0x11F35, 1),
  (0x11F3E, 0x11F3F, 1), (0x11F41, 0x11F41, 1), (0x1612A, 0x1612C, 1), (0x16F51, 0x16F87, 1),
  (0x16FF0, 0x16FF1, 1), (0x1D165, 0x1D166, 1), (0x1D16D, 0x1D172, 1)]

/-- Marks around a letter. -/
def enclosingMarkRuns : CodeRuns := [
  (0x0488, 0x0489, 1), (0x1ABE, 0x1ABE, 1), (0x20DD, 0x20E0, 1), (0x20E2, 0x20E4, 1),
  (0xA670, 0xA672, 1)]

/-- Digits of decimal numerals. -/
def decimalNumberRuns : CodeRuns := [
  (0x0030, 0x0039, 1), (0x0660, 0x0669, 1), (0x06F0, 0x06F9, 1), (0x07C0, 0x07C9, 1),
  (0x0966, 0x096F, 1), (0x09E6, 0x09EF, 1), (0x0A66, 0x0A6F, 1), (0x0AE6, 0x0AEF, 1),
  (0x0B66, 0x0B6F, 1), (0x0BE6, 0x0BEF, 1), (0x0C66, 0x0C6F, 1), (0x0CE6, 0x0CEF, 1),
  (0x0D66, 0x0D6F, 1), (0x0DE6, 0x0DEF, 1), (0x0E50, 0x0E59, 1), (0x0ED0, 0x0ED9, 1),
  (0x0F20, 0x0F29, 1), (0x1040, 0x1049, 1), (0x1090, 0x1099, 1), (0x17E0, 0x17E9, 1),
  (0x1810, 0x1819, 1), (0x1946, 0x194F, 1), (0x19D0, 0x19D9, 1), (0x1A80, 0x1A89, 1),
  (0x1A90, 0x1A99, 1), (0x1B50, 0x1B59, 1), (0x1BB0, 0x1BB9, 1), (0x1C40, 0x1C49, 1),
  (0x1C50, 0x1C59, 1), (0xA620, 0xA629, 1), (0xA8D0, 0xA8D9, 1), (0xA900, 0xA909, 1),
  (0xA9D0, 0xA9D9, 1), (0xA9F0, 0xA9F9, 1), (0xAA50, 0xAA59, 1), (0xABF0, 0xABF9, 1),
  (0xFF10, 0xFF19, 1), (0x104A0, 0x104A9, 1), (0x10D30, 0x10D39, 1), (0x10D40, 0x10D49, 1),
  (0x11066, 0x1106F, 1), (0x110F0, 0x110F9, 1), (0x11136, 0x1113F, 1), (0x111D0, 0x111D9, 1),
  (0x112F0, 0x112F9, 1), (0x11450, 0x11459, 1), (0x114D0, 0x114D9, 1), (0x11650, 0x11659, 1),
  (0x116C0, 0x116C9, 1), (0x116D0, 0x116E3, 1), (0x11730, 0x11739, 1), (0x118E0, 0x118E9, 1),
  (0x11950, 0x11959, 1), (0x11BF0, 0x11BF9, 1), (0x11C50, 0x11C59, 1), (0x11D50, 0x11D59, 1),
  (0x11DA0, 0x11DA9, 1), (0x11DE0, 0x11DE9, 1), (0x11F50, 0x11F59, 1), (0x16130, 0x16139, 1),
  (0x16A60, 0x16A69, 1), (0x16AC0, 0x16AC9, 1), (0x16B50, 0x16B59, 1), (0x16D70, 0x16D79, 1),
  (0x1CCF0, 0x1CCF9, 1), (0x1D7CE, 0x1D7FF, 1), (0x1E140, 0x1E149, 1), (0x1E2F0, 0x1E2F9, 1),
  (0x1E4F0, 0x1E4F9, 1), (0x1E5F1, 0x1E5FA, 1), (0x1E950, 0x1E959, 1), (0x1FBF0, 0x1FBF9, 1)]

/-- Letters that are numbers. -/
def letterNumberRuns : CodeRuns := [
  (0x16EE, 0x16F0, 1), (0x2160, 0x2182, 1), (0x2185, 0x2188, 1), (0x3007, 0x3007, 1),
  (0x3021, 0x3029, 1), (0x3038, 0x303A, 1), (0xA6E6, 0xA6EF, 1), (0x10140, 0x10174, 1),
  (0x10341, 0x10341, 1), (0x1034A, 0x1034A, 1), (0x103D1, 0x103D5, 1), (0x12400, 0x1246E, 1),
  (0x16FF4, 0x16FF6, 1)]

/-- Other numbers. -/
def otherNumberRuns : CodeRuns := [
  (0x00B2, 0x00B3, 1), (0x00B9, 0x00B9, 1), (0x00BC, 0x00BE, 1), (0x09F4, 0x09F9, 1),
  (0x0B72, 0x0B77, 1), (0x0BF0, 0x0BF2, 1), (0x0C78, 0x0C7E, 1), (0x0D58, 0x0D5E, 1),
  (0x0D70, 0x0D78, 1), (0x0F2A, 0x0F33, 1), (0x1369, 0x137C, 1), (0x17F0, 0x17F9, 1),
  (0x19DA, 0x19DA, 1), (0x2070, 0x2070, 1), (0x2074, 0x2079, 1), (0x2080, 0x2089, 1),
  (0x2150, 0x215F, 1), (0x2189, 0x2189, 1), (0x2460, 0x249B, 1), (0x24EA, 0x24FF, 1),
  (0x2776, 0x2793, 1), (0x2CFD, 0x2CFD, 1), (0x3192, 0x3195, 1), (0x3220, 0x3229, 1),
  (0x3248, 0x324F, 1), (0x3251, 0x325F, 1), (0x3280, 0x3289, 1), (0x32B1, 0x32BF, 1),
  (0xA830, 0xA835, 1), (0x10107, 0x10133, 1), (0x10175, 0x10178, 1), (0x1018A, 0x1018B, 1),
  (0x102E1, 0x102FB, 1), (0x10320, 0x10323, 1), (0x10858, 0x1085F, 1), (0x10879, 0x1087F, 1),
  (0x108A7, 0x108AF, 1), (0x108FB, 0x108FF, 1), (0x10916, 0x1091B, 1), (0x109BC, 0x109BD, 1),
  (0x109C0, 0x109CF, 1), (0x109D2, 0x109FF, 1), (0x10A40, 0x10A48, 1), (0x10A7D, 0x10A7E, 1),
  (0x10A9D, 0x10A9F, 1), (0x10AEB, 0x10AEF, 1), (0x10B58, 0x10B5F, 1), (0x10B78, 0x10B7F, 1),
  (0x10BA9, 0x10BAF, 1), (0x10CFA, 0x10CFF, 1), (0x10E60, 0x10E7E, 1), (0x10F1D, 0x10F26, 1),
  (0x10F51, 0x10F54, 1), (0x10FC5, 0x10FCB, 1), (0x11052, 0x11065, 1), (0x111E1, 0x111F4, 1),
  (0x1173A, 0x1173B, 1), (0x118EA, 0x118F2, 1), (0x11C5A, 0x11C6C, 1), (0x11FC0, 0x11FD4, 1),
  (0x16B5B, 0x16B61, 1), (0x16E80, 0x16E96, 1), (0x1D2C0, 0x1D2D3, 1), (0x1D2E0, 0x1D2F3, 1),
  (0x1D360, 0x1D378, 1), (0x1E8C7, 0x1E8CF, 1), (0x1EC71, 0x1ECAB, 1), (0x1ECAD, 0x1ECAF, 1),
  (0x1ECB1, 0x1ECB4, 1), (0x1ED01, 0x1ED2D, 1), (0x1ED2F, 0x1ED3D, 1), (0x1F100, 0x1F10C, 1)]

end UdsCatalog.Text
