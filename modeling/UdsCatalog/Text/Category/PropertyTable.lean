import UdsCatalog.Text.CodeRuns

/-! Code points with properties that cut across the categories. -/

namespace UdsCatalog.Text

/-- Marks that belong to no alphabet. -/
def foreignMarkRuns : CodeRuns := [
  (0x0300, 0x0344, 1), (0x0346, 0x0362, 1), (0x0483, 0x0489, 1), (0x0591, 0x05AF, 1),
  (0x0658, 0x0658, 1), (0x06DF, 0x06E0, 1), (0x06EA, 0x06EC, 1), (0x0740, 0x074A, 1),
  (0x07EB, 0x07F3, 1), (0x07FD, 0x07FD, 1), (0x0818, 0x0819, 1), (0x082D, 0x082D, 1),
  (0x0859, 0x085B, 1), (0x0898, 0x089F, 1), (0x08CA, 0x08D3, 1), (0x08E0, 0x08E1, 1),
  (0x08EA, 0x08EF, 1), (0x093C, 0x093C, 1), (0x094D, 0x094D, 1), (0x0951, 0x0954, 1),
  (0x09BC, 0x09BC, 1), (0x09CD, 0x09CD, 1), (0x09FE, 0x09FE, 1), (0x0A3C, 0x0A3C, 1),
  (0x0A4D, 0x0A4D, 1), (0x0ABC, 0x0ABC, 1), (0x0ACD, 0x0ACD, 1), (0x0AFD, 0x0AFF, 1),
  (0x0B3C, 0x0B3C, 1), (0x0B4D, 0x0B4D, 1), (0x0B55, 0x0B55, 1), (0x0BCD, 0x0BCD, 1),
  (0x0C3C, 0x0C3C, 1), (0x0C4D, 0x0C4D, 1), (0x0CBC, 0x0CBC, 1), (0x0CCD, 0x0CCD, 1),
  (0x0D3B, 0x0D3C, 1), (0x0D4D, 0x0D4D, 1), (0x0DCA, 0x0DCA, 1), (0x0E47, 0x0E4C, 1),
  (0x0E4E, 0x0E4E, 1), (0x0EBA, 0x0EBA, 1), (0x0EC8, 0x0ECC, 1), (0x0ECE, 0x0ECE, 1),
  (0x0F18, 0x0F19, 1), (0x0F35, 0x0F39, 2), (0x0F3E, 0x0F3F, 1), (0x0F84, 0x0F84, 1),
  (0x0F86, 0x0F87, 1), (0x0FC6, 0x0FC6, 1), (0x1037, 0x1037, 1), (0x1039, 0x103A, 1),
  (0x135D, 0x135F, 1), (0x1714, 0x1715, 1), (0x1734, 0x1734, 1), (0x17B4, 0x17B5, 1),
  (0x17C9, 0x17D3, 1), (0x17DD, 0x17DD, 1), (0x180B, 0x180D, 1), (0x180F, 0x180F, 1),
  (0x1939, 0x193B, 1), (0x1A60, 0x1A60, 1), (0x1A75, 0x1A7C, 1), (0x1A7F, 0x1A7F, 1),
  (0x1AB0, 0x1ABE, 1), (0x1AC1, 0x1ACB, 1), (0x1ACF, 0x1ADD, 1), (0x1AE0, 0x1AEB, 1),
  (0x1B34, 0x1B34, 1), (0x1B44, 0x1B44, 1), (0x1B6B, 0x1B73, 1), (0x1BAA, 0x1BAB, 1),
  (0x1BE6, 0x1BE6, 1), (0x1BF2, 0x1BF3, 1), (0x1C37, 0x1C37, 1), (0x1CD0, 0x1CD2, 1),
  (0x1CD4, 0x1CE8, 1), (0x1CED, 0x1CED, 1), (0x1CF4, 0x1CF4, 1), (0x1CF7, 0x1CF9, 1),
  (0x1DC0, 0x1DD2, 1), (0x1DF5, 0x1DFF, 1), (0x20D0, 0x20F0, 1), (0x2CEF, 0x2CF1, 1),
  (0x2D7F, 0x2D7F, 1), (0x302A, 0x302F, 1), (0x3099, 0x309A, 1), (0xA66F, 0xA672, 1),
  (0xA67C, 0xA67D, 1), (0xA6F0, 0xA6F1, 1), (0xA806, 0xA806, 1), (0xA82C, 0xA82C, 1),
  (0xA8C4, 0xA8C4, 1), (0xA8E0, 0xA8F1, 1), (0xA92B, 0xA92D, 1), (0xA953, 0xA953, 1),
  (0xA9B3, 0xA9B3, 1), (0xA9C0, 0xA9C0, 1), (0xAABF, 0xAAC1, 2), (0xAAF6, 0xAAF6, 1),
  (0xABEC, 0xABED, 1), (0xFE00, 0xFE0F, 1), (0xFE20, 0xFE2F, 1), (0x101FD, 0x101FD, 1),
  (0x102E0, 0x102E0, 1), (0x10A38, 0x10A3A, 1), (0x10A3F, 0x10A3F, 1), (0x10AE5, 0x10AE6, 1),
  (0x10D6A, 0x10D6D, 1), (0x10EFD, 0x10EFF, 1), (0x10F46, 0x10F50, 1), (0x10F82, 0x10F85, 1),
  (0x11046, 0x11046, 1), (0x11070, 0x11070, 1), (0x1107F, 0x1107F, 1), (0x110B9, 0x110BA, 1),
  (0x11133, 0x11134, 1), (0x11173, 0x11173, 1), (0x111C0, 0x111C0, 1), (0x111C9, 0x111CC, 1),
  (0x11235, 0x11236, 1), (0x112E9, 0x112EA, 1), (0x1133B, 0x1133C, 1), (0x1134D, 0x1134D, 1),
  (0x11366, 0x1136C, 1), (0x11370, 0x11374, 1), (0x113CE, 0x113D0, 1), (0x113D2, 0x113D2, 1),
  (0x113E1, 0x113E2, 1), (0x11442, 0x11442, 1), (0x11446, 0x11446, 1), (0x1145E, 0x1145E, 1),
  (0x114C2, 0x114C3, 1), (0x115BF, 0x115C0, 1), (0x1163F, 0x1163F, 1), (0x116B6, 0x116B7, 1),
  (0x1172B, 0x1172B, 1), (0x11839, 0x1183A, 1), (0x1193D, 0x1193E, 1), (0x11943, 0x11943, 1),
  (0x119E0, 0x119E0, 1), (0x11A33, 0x11A34, 1), (0x11A47, 0x11A47, 1), (0x11A98, 0x11A99, 1),
  (0x11C3F, 0x11C3F, 1), (0x11D42, 0x11D42, 1), (0x11D44, 0x11D45, 1), (0x11D97, 0x11D97, 1),
  (0x11F41, 0x11F42, 1), (0x11F5A, 0x11F5A, 1), (0x13440, 0x13440, 1), (0x13447, 0x13455, 1),
  (0x1612F, 0x1612F, 1), (0x16AF0, 0x16AF4, 1), (0x16B30, 0x16B36, 1), (0x16FE4, 0x16FE4, 1),
  (0x1BC9D, 0x1BC9D, 1), (0x1CF00, 0x1CF2D, 1), (0x1CF30, 0x1CF46, 1), (0x1D165, 0x1D169, 1),
  (0x1D16D, 0x1D172, 1), (0x1D17B, 0x1D182, 1), (0x1D185, 0x1D18B, 1), (0x1D1AA, 0x1D1AD, 1),
  (0x1D242, 0x1D244, 1), (0x1DA00, 0x1DA36, 1), (0x1DA3B, 0x1DA6C, 1), (0x1DA75, 0x1DA75, 1),
  (0x1DA84, 0x1DA84, 1), (0x1DA9B, 0x1DA9F, 1), (0x1DAA1, 0x1DAAF, 1), (0x1E130, 0x1E136, 1),
  (0x1E2AE, 0x1E2AE, 1), (0x1E2EC, 0x1E2EF, 1), (0x1E4EC, 0x1E4EF, 1), (0x1E5EE, 0x1E5EF, 1),
  (0x1E8D0, 0x1E8D6, 1), (0x1E944, 0x1E946, 1), (0x1E948, 0x1E94A, 1), (0xE0100, 0xE01EF, 1)]

/-- Ideographs. -/
def ideographRuns : CodeRuns := [
  (0x3006, 0x3007, 1), (0x3021, 0x3029, 1), (0x3038, 0x303A, 1), (0x3400, 0x4DBF, 1),
  (0x4E00, 0x9FFF, 1), (0xF900, 0xFA6D, 1), (0xFA70, 0xFAD9, 1), (0x16FE4, 0x16FE4, 1),
  (0x16FF2, 0x16FF6, 1), (0x17000, 0x18CD5, 1), (0x18CFF, 0x18D1E, 1), (0x18D80, 0x18DF2, 1),
  (0x1B170, 0x1B2FB, 1), (0x20000, 0x2A6DF, 1), (0x2A700, 0x2B81D, 1), (0x2B820, 0x2CEAD, 1),
  (0x2CEB0, 0x2EBE0, 1), (0x2EBF0, 0x2EE5D, 1), (0x2F800, 0x2FA1D, 1), (0x30000, 0x3134A, 1),
  (0x31350, 0x33479, 1)]

/-- Pictures. -/
def emojiRuns : CodeRuns := [
  (0x0023, 0x0023, 1), (0x002A, 0x002A, 1), (0x0030, 0x0039, 1), (0x00A9, 0x00A9, 1),
  (0x00AE, 0x00AE, 1), (0x203C, 0x203C, 1), (0x2049, 0x2049, 1), (0x2122, 0x2122, 1),
  (0x2139, 0x2139, 1), (0x2194, 0x2199, 1), (0x21A9, 0x21AA, 1), (0x231A, 0x231B, 1),
  (0x2328, 0x2328, 1), (0x23CF, 0x23CF, 1), (0x23E9, 0x23F3, 1), (0x23F8, 0x23FA, 1),
  (0x24C2, 0x24C2, 1), (0x25AA, 0x25AB, 1), (0x25B6, 0x25B6, 1), (0x25C0, 0x25C0, 1),
  (0x25FB, 0x25FE, 1), (0x2600, 0x2604, 1), (0x260E, 0x260E, 1), (0x2611, 0x2611, 1),
  (0x2614, 0x2615, 1), (0x2618, 0x2618, 1), (0x261D, 0x261D, 1), (0x2620, 0x2620, 1),
  (0x2622, 0x2623, 1), (0x2626, 0x2626, 1), (0x262A, 0x262A, 1), (0x262E, 0x262F, 1),
  (0x2638, 0x263A, 1), (0x2640, 0x2642, 2), (0x2648, 0x2653, 1), (0x265F, 0x2660, 1),
  (0x2663, 0x2663, 1), (0x2665, 0x2666, 1), (0x2668, 0x2668, 1), (0x267B, 0x267B, 1),
  (0x267E, 0x267F, 1), (0x2692, 0x2697, 1), (0x2699, 0x2699, 1), (0x269B, 0x269C, 1),
  (0x26A0, 0x26A1, 1), (0x26A7, 0x26A7, 1), (0x26AA, 0x26AB, 1), (0x26B0, 0x26B1, 1),
  (0x26BD, 0x26BE, 1), (0x26C4, 0x26C5, 1), (0x26C8, 0x26C8, 1), (0x26CE, 0x26CF, 1),
  (0x26D1, 0x26D1, 1), (0x26D3, 0x26D4, 1), (0x26E9, 0x26EA, 1), (0x26F0, 0x26F5, 1),
  (0x26F7, 0x26FA, 1), (0x26FD, 0x26FD, 1), (0x2702, 0x2702, 1), (0x2705, 0x2705, 1),
  (0x2708, 0x270D, 1), (0x270F, 0x270F, 1), (0x2712, 0x2716, 2), (0x271D, 0x271D, 1),
  (0x2721, 0x2721, 1), (0x2728, 0x2728, 1), (0x2733, 0x2734, 1), (0x2744, 0x2744, 1),
  (0x2747, 0x2747, 1), (0x274C, 0x274E, 2), (0x2753, 0x2755, 1), (0x2757, 0x2757, 1),
  (0x2763, 0x2764, 1), (0x2795, 0x2797, 1), (0x27A1, 0x27A1, 1), (0x27B0, 0x27B0, 1),
  (0x27BF, 0x27BF, 1), (0x2934, 0x2935, 1), (0x2B05, 0x2B07, 1), (0x2B1B, 0x2B1C, 1),
  (0x2B50, 0x2B50, 1), (0x2B55, 0x2B55, 1), (0x3030, 0x3030, 1), (0x303D, 0x303D, 1),
  (0x3297, 0x3299, 2), (0x1F004, 0x1F004, 1), (0x1F0CF, 0x1F0CF, 1), (0x1F170, 0x1F171, 1),
  (0x1F17E, 0x1F17F, 1), (0x1F18E, 0x1F18E, 1), (0x1F191, 0x1F19A, 1), (0x1F1E6, 0x1F1FF, 1),
  (0x1F201, 0x1F202, 1), (0x1F21A, 0x1F21A, 1), (0x1F22F, 0x1F22F, 1), (0x1F232, 0x1F23A, 1),
  (0x1F250, 0x1F251, 1), (0x1F300, 0x1F321, 1), (0x1F324, 0x1F393, 1), (0x1F396, 0x1F397, 1),
  (0x1F399, 0x1F39B, 1), (0x1F39E, 0x1F3F0, 1), (0x1F3F3, 0x1F3F5, 1), (0x1F3F7, 0x1F4FD, 1),
  (0x1F4FF, 0x1F53D, 1), (0x1F549, 0x1F54E, 1), (0x1F550, 0x1F567, 1), (0x1F56F, 0x1F570, 1),
  (0x1F573, 0x1F57A, 1), (0x1F587, 0x1F587, 1), (0x1F58A, 0x1F58D, 1), (0x1F590, 0x1F590, 1),
  (0x1F595, 0x1F596, 1), (0x1F5A4, 0x1F5A5, 1), (0x1F5A8, 0x1F5A8, 1), (0x1F5B1, 0x1F5B2, 1),
  (0x1F5BC, 0x1F5BC, 1), (0x1F5C2, 0x1F5C4, 1), (0x1F5D1, 0x1F5D3, 1), (0x1F5DC, 0x1F5DE, 1),
  (0x1F5E1, 0x1F5E3, 2), (0x1F5E8, 0x1F5E8, 1), (0x1F5EF, 0x1F5EF, 1), (0x1F5F3, 0x1F5F3, 1),
  (0x1F5FA, 0x1F64F, 1), (0x1F680, 0x1F6C5, 1), (0x1F6CB, 0x1F6D2, 1), (0x1F6D5, 0x1F6D8, 1),
  (0x1F6DC, 0x1F6E5, 1), (0x1F6E9, 0x1F6E9, 1), (0x1F6EB, 0x1F6EC, 1), (0x1F6F0, 0x1F6F0, 1),
  (0x1F6F3, 0x1F6FC, 1), (0x1F7E0, 0x1F7EB, 1), (0x1F7F0, 0x1F7F0, 1), (0x1F90C, 0x1F93A, 1),
  (0x1F93C, 0x1F945, 1), (0x1F947, 0x1F9FF, 1), (0x1FA70, 0x1FA7C, 1), (0x1FA80, 0x1FA8A, 1),
  (0x1FA8E, 0x1FAC6, 1), (0x1FAC8, 0x1FAC8, 1), (0x1FACD, 0x1FADC, 1), (0x1FADF, 0x1FAEA, 1),
  (0x1FAEF, 0x1FAF8, 1)]

end UdsCatalog.Text
