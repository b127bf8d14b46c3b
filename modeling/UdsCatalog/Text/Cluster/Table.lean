import UdsCatalog.Text.CodeRuns

/-! Code points by the part they take in clusters of characters, as Unicode 10 has them. -/

namespace UdsCatalog.Text.Cluster

/-- Controls and format signs, which stand alone. -/
def controlRuns : CodeRuns := [
  (0x0000, 0x0009, 1), (0x000B, 0x000C, 1), (0x000E, 0x001F, 1), (0x007F, 0x009F, 1),
  (0x00AD, 0x00AD, 1), (0x061C, 0x061C, 1), (0x180E, 0x180E, 1), (0x200B, 0x200B, 1),
  (0x200E, 0x200F, 1), (0x2028, 0x202E, 1), (0x2060, 0x206F, 1), (0xFEFF, 0xFEFF, 1),
  (0xFFF0, 0xFFFB, 1), (0x1BCA0, 0x1BCA3, 1), (0x1D173, 0x1D17A, 1), (0xE0000, 0xE001F, 1),
  (0xE0080, 0xE00FF, 1), (0xE01F0, 0xE0FFF, 1)]

/-- Marks that belong to the character in front. -/
def extendingRuns : CodeRuns := [
  (0x0300, 0x036F, 1), (0x0483, 0x0489, 1), (0x0591, 0x05BD, 1), (0x05BF, 0x05BF, 1),
  (0x05C1, 0x05C2, 1), (0x05C4, 0x05C5, 1), (0x05C7, 0x05C7, 1), (0x0610, 0x061A, 1),
  (0x064B, 0x065F, 1), (0x0670, 0x0670, 1), (0x06D6, 0x06DC, 1), (0x06DF, 0x06E4, 1),
  (0x06E7, 0x06E8, 1), (0x06EA, 0x06ED, 1), (0x0711, 0x0711, 1), (0x0730, 0x074A, 1),
  (0x07A6, 0x07B0, 1), (0x07EB, 0x07F3, 1), (0x0816, 0x0819, 1), (0x081B, 0x0823, 1),
  (0x0825, 0x0827, 1), (0x0829, 0x082D, 1), (0x0859, 0x085B, 1), (0x08D4, 0x08E1, 1),
  (0x08E3, 0x0902, 1), (0x093A, 0x093C, 2), (0x0941, 0x0948, 1), (0x094D, 0x094D, 1),
  (0x0951, 0x0957, 1), (0x0962, 0x0963, 1), (0x0981, 0x0981, 1), (0x09BC, 0x09BE, 2),
  (0x09C1, 0x09C4, 1), (0x09CD, 0x09CD, 1), (0x09D7, 0x09D7, 1), (0x09E2, 0x09E3, 1),
  (0x0A01, 0x0A02, 1), (0x0A3C, 0x0A3C, 1), (0x0A41, 0x0A42, 1), (0x0A47, 0x0A48, 1),
  (0x0A4B, 0x0A4D, 1), (0x0A51, 0x0A51, 1), (0x0A70, 0x0A71, 1), (0x0A75, 0x0A75, 1),
  (0x0A81, 0x0A82, 1), (0x0ABC, 0x0ABC, 1), (0x0AC1, 0x0AC5, 1), (0x0AC7, 0x0AC8, 1),
  (0x0ACD, 0x0ACD, 1), (0x0AE2, 0x0AE3, 1), (0x0AFA, 0x0AFF, 1), (0x0B01, 0x0B01, 1),
  (0x0B3C, 0x0B3C, 1), (0x0B3E, 0x0B3F, 1), (0x0B41, 0x0B44, 1), (0x0B4D, 0x0B4D, 1),
  (0x0B56, 0x0B57, 1), (0x0B62, 0x0B63, 1), (0x0B82, 0x0B82, 1), (0x0BBE, 0x0BC0, 2),
  (0x0BCD, 0x0BCD, 1), (0x0BD7, 0x0BD7, 1), (0x0C00, 0x0C00, 1), (0x0C3E, 0x0C40, 1),
  (0x0C46, 0x0C48, 1), (0x0C4A, 0x0C4D, 1), (0x0C55, 0x0C56, 1), (0x0C62, 0x0C63, 1),
  (0x0C81, 0x0C81, 1), (0x0CBC, 0x0CBC, 1), (0x0CBF, 0x0CBF, 1), (0x0CC2, 0x0CC2, 1),
  (0x0CC6, 0x0CC6, 1), (0x0CCC, 0x0CCD, 1), (0x0CD5, 0x0CD6, 1), (0x0CE2, 0x0CE3, 1),
  (0x0D00, 0x0D01, 1), (0x0D3B, 0x0D3C, 1), (0x0D3E, 0x0D3E, 1), (0x0D41, 0x0D44, 1),
  (0x0D4D, 0x0D4D, 1), (0x0D57, 0x0D57, 1), (0x0D62, 0x0D63, 1), (0x0DCA, 0x0DCA, 1),
  (0x0DCF, 0x0DCF, 1), (0x0DD2, 0x0DD4, 1), (0x0DD6, 0x0DD6, 1), (0x0DDF, 0x0DDF, 1),
  (0x0E31, 0x0E31, 1), (0x0E34, 0x0E3A, 1), (0x0E47, 0x0E4E, 1), (0x0EB1, 0x0EB1, 1),
  (0x0EB4, 0x0EB9, 1), (0x0EBB, 0x0EBC, 1), (0x0EC8, 0x0ECD, 1), (0x0F18, 0x0F19, 1),
  (0x0F35, 0x0F39, 2), (0x0F71, 0x0F7E, 1), (0x0F80, 0x0F84, 1), (0x0F86, 0x0F87, 1),
  (0x0F8D, 0x0F97, 1), (0x0F99, 0x0FBC, 1), (0x0FC6, 0x0FC6, 1), (0x102D, 0x1030, 1),
  (0x1032, 0x1037, 1), (0x1039, 0x103A, 1), (0x103D, 0x103E, 1), (0x1058, 0x1059, 1),
  (0x105E, 0x1060, 1), (0x1071, 0x1074, 1), (0x1082, 0x1082, 1), (0x1085, 0x1086, 1),
  (0x108D, 0x108D, 1), (0x109D, 0x109D, 1), (0x135D, 0x135F, 1), (0x1712, 0x1714, 1),
  (0x1732, 0x1733, 1), (0x1752, 0x1753, 1), (0x1772, 0x1773, 1), (0x17B4, 0x17B5, 1),
  (0x17B7, 0x17BD, 1), (0x17C6, 0x17C6, 1), (0x17C9, 0x17D3, 1), (0x17DD, 0x17DD, 1),
  (0x180B, 0x180D, 1), (0x1885, 0x1886, 1), (0x18A9, 0x18A9, 1), (0x1920, 0x1922, 1),
  (0x1927, 0x1928, 1), (0x1932, 0x1932, 1), (0x1939, 0x193B, 1), (0x1A17, 0x1A18, 1),
  (0x1A1B, 0x1A1B, 1), (0x1A56, 0x1A56, 1), (0x1A58, 0x1A5E, 1), (0x1A60, 0x1A62, 2),
  (0x1A65, 0x1A6C, 1), (0x1A73, 0x1A7C, 1), (0x1A7F, 0x1A7F, 1), (0x1AB0, 0x1ABE, 1),
  (0x1B00, 0x1B03, 1), (0x1B34, 0x1B3A, 1), (0x1B3C, 0x1B3C, 1), (0x1B42, 0x1B42, 1),
  (0x1B6B, 0x1B73, 1), (0x1B80, 0x1B81, 1), (0x1BA2, 0x1BA5, 1), (0x1BA8, 0x1BA9, 1),
  (0x1BAB, 0x1BAD, 1), (0x1BE6, 0x1BE6, 1), (0x1BE8, 0x1BE9, 1), (0x1BED, 0x1BED, 1),
  (0x1BEF, 0x1BF1, 1), (0x1C2C, 0x1C33, 1), (0x1C36, 0x1C37, 1), (0x1CD0, 0x1CD2, 1),
  (0x1CD4, 0x1CE0, 1), (0x1CE2, 0x1CE8, 1), (0x1CED, 0x1CED, 1), (0x1CF4, 0x1CF4, 1),
  (0x1CF8, 0x1CF9, 1), (0x1DC0, 0x1DF9, 1), (0x1DFB, 0x1DFF, 1), (0x200C, 0x200C, 1),
  (0x20D0, 0x20F0, 1), (0x2CEF, 0x2CF1, 1), (0x2D7F, 0x2D7F, 1), (0x2DE0, 0x2DFF, 1),
  (0x302A, 0x302F, 1), (0x3099, 0x309A, 1), (0xA66F, 0xA672, 1), (0xA674, 0xA67D, 1),
  (0xA69E, 0xA69F, 1), (0xA6F0, 0xA6F1, 1), (0xA802, 0xA802, 1), (0xA806, 0xA806, 1),
  (0xA80B, 0xA80B, 1), (0xA825, 0xA826, 1), (0xA8C4, 0xA8C5, 1), (0xA8E0, 0xA8F1, 1),
  (0xA926, 0xA92D, 1), (0xA947, 0xA951, 1), (0xA980, 0xA982, 1), (0xA9B3, 0xA9B3, 1),
  (0xA9B6, 0xA9B9, 1), (0xA9BC, 0xA9BD, 1), (0xA9E5, 0xA9E5, 1), (0xAA29, 0xAA2E, 1),
  (0xAA31, 0xAA32, 1), (0xAA35, 0xAA36, 1), (0xAA43, 0xAA43, 1), (0xAA4C, 0xAA4C, 1),
  (0xAA7C, 0xAA7C, 1), (0xAAB0, 0xAAB0, 1), (0xAAB2, 0xAAB4, 1), (0xAAB7, 0xAAB8, 1),
  (0xAABE, 0xAABF, 1), (0xAAC1, 0xAAC1, 1), (0xAAEC, 0xAAED, 1), (0xAAF6, 0xAAF6, 1),
  (0xABE5, 0xABE5, 1), (0xABE8, 0xABE8, 1), (0xABED, 0xABED, 1), (0xFB1E, 0xFB1E, 1),
  (0xFE00, 0xFE0F, 1), (0xFE20, 0xFE2F, 1), (0xFF9E, 0xFF9F, 1), (0x101FD, 0x101FD, 1),
  (0x102E0, 0x102E0, 1), (0x10376, 0x1037A, 1), (0x10A01, 0x10A03, 1), (0x10A05, 0x10A06, 1),
  (0x10A0C, 0x10A0F, 1), (0x10A38, 0x10A3A, 1), (0x10A3F, 0x10A3F, 1), (0x10AE5, 0x10AE6, 1),
  (0x11001, 0x11001, 1), (0x11038, 0x11046, 1), (0x1107F, 0x11081, 1), (0x110B3, 0x110B6, 1),
  (0x110B9, 0x110BA, 1), (0x11100, 0x11102, 1), (0x11127, 0x1112B, 1), (0x1112D, 0x11134, 1),
  (0x11173, 0x11173, 1), (0x11180, 0x11181, 1), (0x111B6, 0x111BE, 1), (0x111CA, 0x111CC, 1),
  (0x1122F, 0x11231, 1), (0x11234, 0x11234, 1), (0x11236, 0x11237, 1), (0x1123E, 0x1123E, 1),
  (0x112DF, 0x112DF, 1), (0x112E3, 0x112EA, 1), (0x11300, 0x11301, 1), (0x1133C, 0x11340, 2),
  (0x11357, 0x11357, 1), (0x11366, 0x1136C, 1), (0x11370, 0x11374, 1), (0x11438, 0x1143F, 1),
  (0x11442, 0x11444, 1), (0x11446, 0x11446, 1), (0x114B0, 0x114B0, 1), (0x114B3, 0x114B8, 1),
  (0x114BA, 0x114BA, 1), (0x114BD, 0x114BD, 1), (0x114BF, 0x114C0, 1), (0x114C2, 0x114C3, 1),
  (0x115AF, 0x115AF, 1), (0x115B2, 0x115B5, 1), (0x115BC, 0x115BD, 1), (0x115BF, 0x115C0, 1),
  (0x115DC, 0x115DD, 1), (0x11633, 0x1163A, 1), (0x1163D, 0x1163D, 1), (0x1163F, 0x11640, 1),
  (0x116AB, 0x116AD, 2), (0x116B0, 0x116B5, 1), (0x116B7, 0x116B7, 1), (0x1171D, 0x1171F, 1),
  (0x11722, 0x11725, 1), (0x11727, 0x1172B, 1), (0x11A01, 0x11A0A, 1), (0x11A33, 0x11A38, 1),
  (0x11A3B, 0x11A3E, 1), (0x11A47, 0x11A47, 1), (0x11A51, 0x11A56, 1), (0x11A59, 0x11A5B, 1),
  (0x11A8A, 0x11A96, 1), (0x11A98, 0x11A99, 1), (0x11C30, 0x11C36, 1), (0x11C38, 0x11C3D, 1),
  (0x11C3F, 0x11C3F, 1), (0x11C92, 0x11CA7, 1), (0x11CAA, 0x11CB0, 1), (0x11CB2, 0x11CB3, 1),
  (0x11CB5, 0x11CB6, 1), (0x11D31, 0x11D36, 1), (0x11D3A, 0x11D3A, 1), (0x11D3C, 0x11D3D, 1),
  (0x11D3F, 0x11D45, 1), (0x11D47, 0x11D47, 1), (0x16AF0, 0x16AF4, 1), (0x16B30, 0x16B36, 1),
  (0x16F8F, 0x16F92, 1), (0x1BC9D, 0x1BC9E, 1), (0x1D165, 0x1D165, 1), (0x1D167, 0x1D169, 1),
  (0x1D16E, 0x1D172, 1), (0x1D17B, 0x1D182, 1), (0x1D185, 0x1D18B, 1), (0x1D1AA, 0x1D1AD, 1),
  (0x1D242, 0x1D244, 1), (0x1DA00, 0x1DA36, 1), (0x1DA3B, 0x1DA6C, 1), (0x1DA75, 0x1DA75, 1),
  (0x1DA84, 0x1DA84, 1), (0x1DA9B, 0x1DA9F, 1), (0x1DAA1, 0x1DAAF, 1), (0x1E000, 0x1E006, 1),
  (0x1E008, 0x1E018, 1), (0x1E01B, 0x1E021, 1), (0x1E023, 0x1E024, 1), (0x1E026, 0x1E02A, 1),
  (0x1E8D0, 0x1E8D6, 1), (0x1E944, 0x1E94A, 1), (0x1F3FB, 0x1F3FF, 1), (0xE0020, 0xE007F, 1),
  (0xE0100, 0xE01EF, 1)]

/-- Marks with a width of their own that belong to the character in front. -/
def spacingRuns : CodeRuns := [
  (0x0903, 0x0903, 1), (0x093B, 0x093B, 1), (0x093E, 0x0940, 1), (0x0949, 0x094C, 1),
  (0x094E, 0x094F, 1), (0x0982, 0x0983, 1), (0x09BF, 0x09C0, 1), (0x09C7, 0x09C8, 1),
  (0x09CB, 0x09CC, 1), (0x0A03, 0x0A03, 1), (0x0A3E, 0x0A40, 1), (0x0A83, 0x0A83, 1),
  (0x0ABE, 0x0AC0, 1), (0x0AC9, 0x0AC9, 1), (0x0ACB, 0x0ACC, 1), (0x0B02, 0x0B03, 1),
  (0x0B40, 0x0B40, 1), (0x0B47, 0x0B48, 1), (0x0B4B, 0x0B4C, 1), (0x0BBF, 0x0BBF, 1),
  (0x0BC1, 0x0BC2, 1), (0x0BC6, 0x0BC8, 1), (0x0BCA, 0x0BCC, 1), (0x0C01, 0x0C03, 1),
  (0x0C41, 0x0C44, 1), (0x0C82, 0x0C83, 1), (0x0CBE, 0x0CBE, 1), (0x0CC0, 0x0CC1, 1),
  (0x0CC3, 0x0CC4, 1), (0x0CC7, 0x0CC8, 1), (0x0CCA, 0x0CCB, 1), (0x0D02, 0x0D03, 1),
  (0x0D3F, 0x0D40, 1), (0x0D46, 0x0D48, 1), (0x0D4A, 0x0D4C, 1), (0x0D82, 0x0D83, 1),
  (0x0DD0, 0x0DD1, 1), (0x0DD8, 0x0DDE, 1), (0x0DF2, 0x0DF3, 1), (0x0E33, 0x0E33, 1),
  (0x0EB3, 0x0EB3, 1), (0x0F3E, 0x0F3F, 1), (0x0F7F, 0x0F7F, 1), (0x1031, 0x1031, 1),
  (0x103B, 0x103C, 1), (0x1056, 0x1057, 1), (0x1084, 0x1084, 1), (0x1734, 0x1734, 1),
  (0x17B6, 0x17B6, 1), (0x17BE, 0x17C5, 1), (0x17C7, 0x17C8, 1), (0x1923, 0x1926, 1),
  (0x1929, 0x192B, 1), (0x1930, 0x1931, 1), (0x1933, 0x1938, 1), (0x1A19, 0x1A1A, 1),
  (0x1A55, 0x1A57, 2), (0x1A6D, 0x1A72, 1), (0x1B04, 0x1B04, 1), (0x1B3B, 0x1B3B, 1),
  (0x1B3D, 0x1B41, 1), (0x1B43, 0x1B44, 1), (0x1B82, 0x1B82, 1), (0x1BA1, 0x1BA1, 1),
  (0x1BA6, 0x1BA7, 1), (0x1BAA, 0x1BAA, 1), (0x1BE7, 0x1BE7, 1), (0x1BEA, 0x1BEC, 1),
  (0x1BEE, 0x1BEE, 1), (0x1BF2, 0x1BF3, 1), (0x1C24, 0x1C2B, 1), (0x1C34, 0x1C35, 1),
  (0x1CE1, 0x1CE1, 1), (0x1CF2, 0x1CF3, 1), (0x1CF7, 0x1CF7, 1), (0xA823, 0xA824, 1),
  (0xA827, 0xA827, 1), (0xA880, 0xA881, 1), (0xA8B4, 0xA8C3, 1), (0xA952, 0xA953, 1),
  (0xA983, 0xA983, 1), (0xA9B4, 0xA9B5, 1), (0xA9BA, 0xA9BB, 1), (0xA9BE, 0xA9C0, 1),
  (0xAA2F, 0xAA30, 1), (0xAA33, 0xAA34, 1), (0xAA4D, 0xAA4D, 1), (0xAAEB, 0xAAEB, 1),
  (0xAAEE, 0xAAEF, 1), (0xAAF5, 0xAAF5, 1), (0xABE3, 0xABE4, 1), (0xABE6, 0xABE7, 1),
  (0xABE9, 0xABEA, 1), (0xABEC, 0xABEC, 1), (0x11000, 0x11002, 2), (0x11082, 0x11082, 1),
  (0x110B0, 0x110B2, 1), (0x110B7, 0x110B8, 1), (0x1112C, 0x1112C, 1), (0x11182, 0x11182, 1),
  (0x111B3, 0x111B5, 1), (0x111BF, 0x111C0, 1), (0x1122C, 0x1122E, 1), (0x11232, 0x11233, 1),
  (0x11235, 0x11235, 1), (0x112E0, 0x112E2, 1), (0x11302, 0x11303, 1), (0x1133F, 0x1133F, 1),
  (0x11341, 0x11344, 1), (0x11347, 0x11348, 1), (0x1134B, 0x1134D, 1), (0x11362, 0x11363, 1),
  (0x11435, 0x11437, 1), (0x11440, 0x11441, 1), (0x11445, 0x11445, 1), (0x114B1, 0x114B2, 1),
  (0x114B9, 0x114B9, 1), (0x114BB, 0x114BC, 1), (0x114BE, 0x114BE, 1), (0x114C1, 0x114C1, 1),
  (0x115B0, 0x115B1, 1), (0x115B8, 0x115BB, 1), (0x115BE, 0x115BE, 1), (0x11630, 0x11632, 1),
  (0x1163B, 0x1163C, 1), (0x1163E, 0x1163E, 1), (0x116AC, 0x116AC, 1), (0x116AE, 0x116AF, 1),
  (0x116B6, 0x116B6, 1), (0x11726, 0x11726, 1), (0x11A39, 0x11A39, 1), (0x11A57, 0x11A58, 1),
  (0x11A97, 0x11A97, 1), (0x11C2F, 0x11C2F, 1), (0x11C3E, 0x11C3E, 1), (0x11CA9, 0x11CA9, 1),
  (0x11CB1, 0x11CB1, 1), (0x11CB4, 0x11CB4, 1), (0x16F51, 0x16F7E, 1), (0x1D166, 0x1D166, 1),
  (0x1D16D, 0x1D16D, 1)]

/-- Signs that belong to the character behind. -/
def leadingRuns : CodeRuns := [
  (0x0600, 0x0605, 1), (0x06DD, 0x06DD, 1), (0x070F, 0x070F, 1), (0x08E2, 0x08E2, 1),
  (0x0D4E, 0x0D4E, 1), (0x110BD, 0x110BD, 1), (0x111C2, 0x111C3, 1), (0x11A3A, 0x11A3A, 1),
  (0x11A86, 0x11A89, 1), (0x11D46, 0x11D46, 1)]

/-- Pictures of people and hands whose skin tone a sign behind them can set. -/
def personRuns : CodeRuns := [
  (0x261D, 0x261D, 1), (0x26F9, 0x26F9, 1), (0x270A, 0x270D, 1), (0x1F385, 0x1F385, 1),
  (0x1F3C2, 0x1F3C4, 1), (0x1F3C7, 0x1F3C7, 1), (0x1F3CA, 0x1F3CC, 1), (0x1F442, 0x1F443, 1),
  (0x1F446, 0x1F450, 1), (0x1F46E, 0x1F46E, 1), (0x1F470, 0x1F478, 1), (0x1F47C, 0x1F47C, 1),
  (0x1F481, 0x1F483, 1), (0x1F485, 0x1F487, 1), (0x1F4AA, 0x1F4AA, 1), (0x1F574, 0x1F575, 1),
  (0x1F57A, 0x1F57A, 1), (0x1F590, 0x1F590, 1), (0x1F595, 0x1F596, 1), (0x1F645, 0x1F647, 1),
  (0x1F64B, 0x1F64F, 1), (0x1F6A3, 0x1F6A3, 1), (0x1F6B4, 0x1F6B6, 1), (0x1F6C0, 0x1F6C0, 1),
  (0x1F6CC, 0x1F6CC, 1), (0x1F918, 0x1F91C, 1), (0x1F91E, 0x1F91F, 1), (0x1F926, 0x1F926, 1),
  (0x1F930, 0x1F939, 1), (0x1F93D, 0x1F93E, 1), (0x1F9D1, 0x1F9DD, 1)]

/-- Pictures that a joiner ties to the picture in front. -/
def tiedRuns : CodeRuns := [
  (0x2640, 0x2642, 2), (0x2695, 0x2696, 1), (0x2708, 0x2708, 1), (0x2764, 0x2764, 1),
  (0x1F308, 0x1F308, 1), (0x1F33E, 0x1F33E, 1), (0x1F373, 0x1F373, 1), (0x1F393, 0x1F393, 1),
  (0x1F3A4, 0x1F3A4, 1), (0x1F3A8, 0x1F3A8, 1), (0x1F3EB, 0x1F3ED, 2), (0x1F48B, 0x1F48B, 1),
  (0x1F4BB, 0x1F4BC, 1), (0x1F527, 0x1F527, 1), (0x1F52C, 0x1F52C, 1), (0x1F5E8, 0x1F5E8, 1),
  (0x1F680, 0x1F680, 1), (0x1F692, 0x1F692, 1)]

end UdsCatalog.Text.Cluster
