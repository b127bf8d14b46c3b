import UdsCatalog.Text.CodeRuns

/-! Code points of punctuation, symbols, blanks and controls, by their kind. -/

namespace UdsCatalog.Text

/-- Punctuation that connects. -/
def connectorRuns : CodeRuns := [
  (0x005F, 0x005F, 1), (0x203F, 0x2040, 1), (0x2054, 0x2054, 1), (0xFE33, 0xFE34, 1),
  (0xFE4D, 0xFE4F, 1), (0xFF3F, 0xFF3F, 1)]

/-- Dashes. -/
def dashRuns : CodeRuns := [
  (0x002D, 0x002D, 1), (0x058A, 0x058A, 1), (0x05BE, 0x05BE, 1), (0x1400, 0x1400, 1),
  (0x1806, 0x1806, 1), (0x2010, 0x2015, 1), (0x2E17, 0x2E17, 1), (0x2E1A, 0x2E1A, 1),
  (0x2E3A, 0x2E3B, 1), (0x2E40, 0x2E40, 1), (0x2E5D, 0x2E5D, 1), (0x301C, 0x301C, 1),
  (0x3030, 0x3030, 1), (0x30A0, 0x30A0, 1), (0xFE31, 0xFE32, 1), (0xFE58, 0xFE58, 1),
  (0xFE63, 0xFE63, 1), (0xFF0D, 0xFF0D, 1), (0x10D6E, 0x10D6E, 1), (0x10EAD, 0x10EAD, 1)]

/-- Opening brackets. -/
def openingRuns : CodeRuns := [
  (0x0028, 0x0028, 1), (0x005B, 0x005B, 1), (0x007B, 0x007B, 1), (0x0F3A, 0x0F3C, 2),
  (0x169B, 0x169B, 1), (0x201A, 0x201A, 1), (0x201E, 0x201E, 1), (0x2045, 0x2045, 1),
  (0x207D, 0x207D, 1), (0x208D, 0x208D, 1), (0x2308, 0x230A, 2), (0x2329, 0x2329, 1),
  (0x2768, 0x2774, 2), (0x27C5, 0x27C5, 1), (0x27E6, 0x27EE, 2), (0x2983, 0x2997, 2),
  (0x29D8, 0x29DA, 2), (0x29FC, 0x29FC, 1), (0x2E22, 0x2E28, 2), (0x2E42, 0x2E42, 1),
  (0x2E55, 0x2E5B, 2), (0x3008, 0x3010, 2), (0x3014, 0x301A, 2), (0x301D, 0x301D, 1),
  (0xFD3F, 0xFD3F, 1), (0xFE17, 0xFE17, 1), (0xFE35, 0xFE43, 2), (0xFE47, 0xFE47, 1),
  (0xFE59, 0xFE5D, 2), (0xFF08, 0xFF08, 1), (0xFF3B, 0xFF3B, 1), (0xFF5B, 0xFF5B, 1),
  (0xFF5F, 0xFF5F, 1), (0xFF62, 0xFF62, 1)]

/-- Closing brackets. -/
def closingRuns : CodeRuns := [
  (0x0029, 0x0029, 1), (0x005D, 0x005D, 1), (0x007D, 0x007D, 1), (0x0F3B, 0x0F3D, 2),
  (0x169C, 0x169C, 1), (0x2046, 0x2046, 1), (0x207E, 0x207E, 1), (0x208E, 0x208E, 1),
  (0x2309, 0x230B, 2), (0x232A, 0x232A, 1), (0x2769, 0x2775, 2), (0x27C6, 0x27C6, 1),
  (0x27E7, 0x27EF, 2), (0x2984, 0x2998, 2), (0x29D9, 0x29DB, 2), (0x29FD, 0x29FD, 1),
  (0x2E23, 0x2E29, 2), (0x2E56, 0x2E5C, 2), (0x3009, 0x3011, 2), (0x3015, 0x301B, 2),
  (0x301E, 0x301F, 1), (0xFD3E, 0xFD3E, 1), (0xFE18, 0xFE18, 1), (0xFE36, 0xFE44, 2),
  (0xFE48, 0xFE48, 1), (0xFE5A, 0xFE5E, 2), (0xFF09, 0xFF09, 1), (0xFF3D, 0xFF3D, 1),
  (0xFF5D, 0xFF5D, 1), (0xFF60, 0xFF60, 1), (0xFF63, 0xFF63, 1)]

/-- Quotation marks that open. -/
def initialQuoteRuns : CodeRuns := [
  (0x00AB, 0x00AB, 1), (0x2018, 0x2018, 1), (0x201B, 0x201C, 1), (0x201F, 0x201F, 1),
  (0x2039, 0x2039, 1), (0x2E02, 0x2E04, 2), (0x2E09, 0x2E09, 1), (0x2E0C, 0x2E0C, 1),
  (0x2E1C, 0x2E1C, 1), (0x2E20, 0x2E20, 1)]

/-- Quotation marks that close. -/
def finalQuoteRuns : CodeRuns := [
  (0x00BB, 0x00BB, 1), (0x2019, 0x2019, 1), (0x201D, 0x201D, 1), (0x203A, 0x203A, 1),
  (0x2E03, 0x2E05, 2), (0x2E0A, 0x2E0A, 1), (0x2E0D, 0x2E0D, 1), (0x2E1D, 0x2E1D, 1),
  (0x2E21, 0x2E21, 1)]

/-- Other punctuation. -/
def otherPunctuationRuns : CodeRuns := [
  (0x0021, 0x0023, 1), (0x0025, 0x0027, 1), (0x002A, 0x002E, 2), (0x002F, 0x002F, 1),
  (0x003A, 0x003B, 1), (0x003F, 0x0040, 1), (0x005C, 0x005C, 1), (0x00A1, 0x00A1, 1),
  (0x00A7, 0x00A7, 1), (0x00B6, 0x00B7, 1), (0x00BF, 0x00BF, 1), (0x037E, 0x037E, 1),
  (0x0387, 0x0387, 1), (0x055A, 0x055F, 1), (0x0589, 0x0589, 1), (0x05C0, 0x05C0, 1),
  (0x05C3, 0x05C3, 1), (0x05C6, 0x05C6, 1), (0x05F3, 0x05F4, 1), (0x0609, 0x060A, 1),
  (0x060C, 0x060D, 1), (0x061B, 0x061B, 1), (0x061D, 0x061F, 1), (0x066A, 0x066D, 1),
  (0x06D4, 0x06D4, 1), (0x0700, 0x070D, 1), (0x07F7, 0x07F9, 1), (0x0830, 0x083E, 1),
  (0x085E, 0x085E, 1), (0x0964, 0x0965, 1), (0x0970, 0x0970, 1), (0x09FD, 0x09FD, 1),
  (0x0A76, 0x0A76, 1), (0x0AF0, 0x0AF0, 1), (0x0C77, 0x0C77, 1), (0x0C84, 0x0C84, 1),
  (0x0DF4, 0x0DF4, 1), (0x0E4F, 0x0E4F, 1), (0x0E5A, 0x0E5B, 1), (0x0F04, 0x0F12, 1),
  (0x0F14, 0x0F14, 1), (0x0F85, 0x0F85, 1), (0x0FD0, 0x0FD4, 1), (0x0FD9, 0x0FDA, 1),
  (0x104A, 0x104F, 1), (0x10FB, 0x10FB, 1), (0x1360, 0x1368, 1), (0x166E, 0x166E, 1),
  (0x16EB, 0x16ED, 1), (0x1735, 0x1736, 1), (0x17D4, 0x17D6, 1), (0x17D8, 0x17DA, 1),
  (0x1800, 0x1805, 1), (0x1807, 0x180A, 1), (0x1944, 0x1945, 1), (0x1A1E, 0x1A1F, 1),
  (0x1AA0, 0x1AA6, 1), (0x1AA8, 0x1AAD, 1), (0x1B4E, 0x1B4F, 1), (0x1B5A, 0x1B60, 1),
  (0x1B7D, 0x1B7F, 1), (0x1BFC, 0x1BFF, 1), (0x1C3B, 0x1C3F, 1), (0x1C7E, 0x1C7F, 1),
  (0x1CC0, 0x1CC7, 1), (0x1CD3, 0x1CD3, 1), (0x2016, 0x2017, 1), (0x2020, 0x2027, 1),
  (0x2030, 0x2038, 1), (0x203B, 0x203E, 1), (0x2041, 0x2043, 1), (0x2047, 0x2051, 1),
  (0x2053, 0x2053, 1), (0x2055, 0x205E, 1), (0x2CF9, 0x2CFC, 1), (0x2CFE, 0x2CFF, 1),
  (0x2D70, 0x2D70, 1), (0x2E00, 0x2E01, 1), (0x2E06, 0x2E08, 1), (0x2E0B, 0x2E0B, 1),
  (0x2E0E, 0x2E16, 1), (0x2E18, 0x2E19, 1), (0x2E1B, 0x2E1B, 1), (0x2E1E, 0x2E1F, 1),
  (0x2E2A, 0x2E2E, 1), (0x2E30, 0x2E39, 1), (0x2E3C, 0x2E3F, 1), (0x2E41, 0x2E41, 1),
  (0x2E43, 0x2E4F, 1), (0x2E52, 0x2E54, 1), (0x3001, 0x3003, 1), (0x303D, 0x303D, 1),
  (0x30FB, 0x30FB, 1), (0xA4FE, 0xA4FF, 1), (0xA60D, 0xA60F, 1), (0xA673, 0xA673, 1),
  (0xA67E, 0xA67E, 1), (0xA6F2, 0xA6F7, 1), (0xA874, 0xA877, 1), (0xA8CE, 0xA8CF, 1),
  (0xA8F8, 0xA8FA, 1), (0xA8FC, 0xA8FC, 1), (0xA92E, 0xA92F, 1), (0xA95F, 0xA95F, 1),
  (0xA9C1, 0xA9CD, 1), (0xA9DE, 0xA9DF, 1), (0xAA5C, 0xAA5F, 1), (0xAADE, 0xAADF, 1),
  (0xAAF0, 0xAAF1, 1), (0xABEB, 0xABEB, 1), (0xFE10, 0xFE16, 1), (0xFE19, 0xFE19, 1),
  (0xFE30, 0xFE30, 1), (0xFE45, 0xFE46, 1), (0xFE49, 0xFE4C, 1), (0xFE50, 0xFE52, 1),
  (0xFE54, 0xFE57, 1), (0xFE5F, 0xFE61, 1), (0xFE68, 0xFE68, 1), (0xFE6A, 0xFE6B, 1),
  (0xFF01, 0xFF03, 1), (0xFF05, 0xFF07, 1), (0xFF0A, 0xFF0E, 2), (0xFF0F, 0xFF0F, 1),
  (0xFF1A, 0xFF1B, 1), (0xFF1F, 0xFF20, 1), (0xFF3C, 0xFF3C, 1), (0xFF61, 0xFF61, 1),
  (0xFF64, 0xFF65, 1), (0x10100, 0x10102, 1), (0x1039F, 0x1039F, 1), (0x103D0, 0x103D0, 1),
  (0x1056F, 0x1056F, 1), (0x10857, 0x10857, 1), (0x1091F, 0x1091F, 1), (0x1093F, 0x1093F, 1),
  (0x10A50, 0x10A58, 1), (0x10A7F, 0x10A7F, 1), (0x10AF0, 0x10AF6, 1), (0x10B39, 0x10B3F, 1),
  (0x10B99, 0x10B9C, 1), (0x10ED0, 0x10ED0, 1), (0x10F55, 0x10F59, 1), (0x10F86, 0x10F89, 1),
  (0x11047, 0x1104D, 1), (0x110BB, 0x110BC, 1), (0x110BE, 0x110C1, 1), (0x11140, 0x11143, 1),
  (0x11174, 0x11175, 1), (0x111C5, 0x111C8, 1), (0x111CD, 0x111CD, 1), (0x111DB, 0x111DB, 1),
  (0x111DD, 0x111DF, 1), (0x11238, 0x1123D, 1), (0x112A9, 0x112A9, 1), (0x113D4, 0x113D5, 1),
  (0x113D7, 0x113D8, 1), (0x1144B, 0x1144F, 1), (0x1145A, 0x1145B, 1), (0x1145D, 0x1145D, 1),
  (0x114C6, 0x114C6, 1), (0x115C1, 0x115D7, 1), (0x11641, 0x11643, 1), (0x11660, 0x1166C, 1),
  (0x116B9, 0x116B9, 1), (0x1173C, 0x1173E, 1), (0x1183B, 0x1183B, 1), (0x11944, 0x11946, 1),
  (0x119E2, 0x119E2, 1), (0x11A3F, 0x11A46, 1), (0x11A9A, 0x11A9C, 1), (0x11A9E, 0x11AA2, 1),
  (0x11B00, 0x11B09, 1), (0x11BE1, 0x11BE1, 1), (0x11C41, 0x11C45, 1), (0x11C70, 0x11C71, 1),
  (0x11EF7, 0x11EF8, 1), (0x11F43, 0x11F4F, 1), (0x11FFF, 0x11FFF, 1), (0x12470, 0x12474, 1),
  (0x12FF1, 0x12FF2, 1), (0x16A6E, 0x16A6F, 1), (0x16AF5, 0x16AF5, 1), (0x16B37, 0x16B3B, 1),
  (0x16B44, 0x16B44, 1), (0x16D6D, 0x16D6F, 1), (0x16E97, 0x16E9A, 1), (0x16FE2, 0x16FE2, 1),
  (0x1BC9F, 0x1BC9F, 1), (0x1DA87, 0x1DA8B, 1), (0x1E5FF, 0x1E5FF, 1), (0x1E95E, 0x1E95F, 1)]

/-- Signs of mathematics. -/
def mathSymbolRuns : CodeRuns := [
  (0x002B, 0x002B, 1), (0x003C, 0x003E, 1), (0x007C, 0x007E, 2), (0x00AC, 0x00AC, 1),
  (0x00B1, 0x00B1, 1), (0x00D7, 0x00D7, 1), (0x00F7, 0x00F7, 1), (0x03F6, 0x03F6, 1),
  (0x0606, 0x0608, 1), (0x2044, 0x2044, 1), (0x2052, 0x2052, 1), (0x207A, 0x207C, 1),
  (0x208A, 0x208C, 1), (0x2118, 0x2118, 1), (0x2140, 0x2144, 1), (0x214B, 0x214B, 1),
  (0x2190, 0x2194, 1), (0x219A, 0x219B, 1), (0x21A0, 0x21A0, 1), (0x21A3, 0x21A3, 1),
  (0x21A6, 0x21A6, 1), (0x21AE, 0x21AE, 1), (0x21CE, 0x21CF, 1), (0x21D2, 0x21D4, 2),
  (0x21F4, 0x22FF, 1), (0x2320, 0x2321, 1), (0x237C, 0x237C, 1), (0x239B, 0x23B3, 1),
  (0x23DC, 0x23E1, 1), (0x25B7, 0x25B7, 1), (0x25C1, 0x25C1, 1), (0x25F8, 0x25FF, 1),
  (0x266F, 0x266F, 1), (0x27C0, 0x27C4, 1), (0x27C7, 0x27E5, 1), (0x27F0, 0x27FF, 1),
  (0x2900, 0x2982, 1), (0x2999, 0x29D7, 1), (0x29DC, 0x29FB, 1), (0x29FE, 0x2AFF, 1),
  (0x2B30, 0x2B44, 1), (0x2B47, 0x2B4C, 1), (0xFB29, 0xFB29, 1), (0xFE62, 0xFE62, 1),
  (0xFE64, 0xFE66, 1), (0xFF0B, 0xFF0B, 1), (0xFF1C, 0xFF1E, 1), (0xFF5C, 0xFF5E, 2),
  (0xFFE2, 0xFFE2, 1), (0xFFE9, 0xFFEC, 1), (0x10D8E, 0x10D8F, 1), (0x1CEF0, 0x1CEF0, 1),
  (0x1D6C1, 0x1D6C1, 1), (0x1D6DB, 0x1D6DB, 1), (0x1D6FB, 0x1D6FB, 1), (0x1D715, 0x1D715, 1),
  (0x1D735, 0x1D735, 1), (0x1D74F, 0x1D74F, 1), (0x1D76F, 0x1D76F, 1), (0x1D789, 0x1D789, 1),
  (0x1D7A9, 0x1D7A9, 1), (0x1D7C3, 0x1D7C3, 1), (0x1EEF0, 0x1EEF1, 1), (0x1F8D0, 0x1F8D8, 1)]

/-- Signs of currencies. -/
def currencySymbolRuns : CodeRuns := [
  (0x0024, 0x0024, 1), (0x00A2, 0x00A5, 1), (0x058F, 0x058F, 1), (0x060B, 0x060B, 1),
  (0x07FE, 0x07FF, 1), (0x09F2, 0x09F3, 1), (0x09FB, 0x09FB, 1), (0x0AF1, 0x0AF1, 1),
  (0x0BF9, 0x0BF9, 1), (0x0E3F, 0x0E3F, 1), (0x17DB, 0x17DB, 1), (0x20A0, 0x20C1, 1),
  (0xA838, 0xA838, 1), (0xFDFC, 0xFDFC, 1), (0xFE69, 0xFE69, 1), (0xFF04, 0xFF04, 1),
  (0xFFE0, 0xFFE1, 1), (0xFFE5, 0xFFE6, 1), (0x11FDD, 0x11FE0, 1), (0x1E2FF, 0x1E2FF, 1),
  (0x1ECB0, 0x1ECB0, 1)]

/-- Signs that modify others. -/
def modifierSymbolRuns : CodeRuns := [
  (0x005E, 0x0060, 2), (0x00A8, 0x00A8, 1), (0x00AF, 0x00AF, 1), (0x00B4, 0x00B4, 1),
  (0x00B8, 0x00B8, 1), (0x02C2, 0x02C5, 1), (0x02D2, 0x02DF, 1), (0x02E5, 0x02EB, 1),
  (0x02ED, 0x02ED, 1), (0x02EF, 0x02FF, 1), (0x0375, 0x0375, 1), (0x0384, 0x0385, 1),
  (0x0888, 0x0888, 1), (0x1FBD, 0x1FBD, 1), (0x1FBF, 0x1FC1, 1), (0x1FCD, 0x1FCF, 1),
  (0x1FDD, 0x1FDF, 1), (0x1FED, 0x1FEF, 1), (0x1FFD, 0x1FFE, 1), (0x309B, 0x309C, 1),
  (0xA700, 0xA716, 1), (0xA720, 0xA721, 1), (0xA789, 0xA78A, 1), (0xAB5B, 0xAB5B, 1),
  (0xAB6A, 0xAB6B, 1), (0xFBB2, 0xFBC2, 1), (0xFF3E, 0xFF40, 2), (0xFFE3, 0xFFE3, 1),
  (0x1F3FB, 0x1F3FF, 1)]

/-- Other signs. -/
def otherSymbolRuns : CodeRuns := [
  (0x00A6, 0x00A6, 1), (0x00A9, 0x00A9, 1), (0x00AE, 0x00B0, 2), (0x0482, 0x0482, 1),
  (0x058D, 0x058E, 1), (0x060E, 0x060F, 1), (0x06DE, 0x06DE, 1), (0x06E9, 0x06E9, 1),
  (0x06FD, 0x06FE, 1), (0x07F6, 0x07F6, 1), (0x09FA, 0x09FA, 1), (0x0B70, 0x0B70, 1),
  (0x0BF3, 0x0BF8, 1), (0x0BFA, 0x0BFA, 1), (0x0C7F, 0x0C7F, 1), (0x0D4F, 0x0D4F, 1),
  (0x0D79, 0x0D79, 1), (0x0F01, 0x0F03, 1), (0x0F13, 0x0F13, 1), (0x0F15, 0x0F17, 1),
  (0x0F1A, 0x0F1F, 1), (0x0F34, 0x0F38, 2), (0x0FBE, 0x0FC5, 1), (0x0FC7, 0x0FCC, 1),
  (0x0FCE, 0x0FCF, 1), (0x0FD5, 0x0FD8, 1), (0x109E, 0x109F, 1), (0x1390, 0x1399, 1),
  (0x166D, 0x166D, 1), (0x1940, 0x1940, 1), (0x19DE, 0x19FF, 1), (0x1B61, 0x1B6A, 1),
  (0x1B74, 0x1B7C, 1), (0x2100, 0x2101, 1), (0x2103, 0x2106, 1), (0x2108, 0x2109, 1),
  (0x2114, 0x2114, 1), (0x2116, 0x2117, 1), (0x211E, 0x2123, 1), (0x2125, 0x2129, 2),
  (0x212E, 0x212E, 1), (0x213A, 0x213B, 1), (0x214A, 0x214A, 1), (0x214C, 0x214D, 1),
  (0x214F, 0x214F, 1), (0x218A, 0x218B, 1), (0x2195, 0x2199, 1), (0x219C, 0x219F, 1),
  (0x21A1, 0x21A2, 1), (0x21A4, 0x21A5, 1), (0x21A7, 0x21AD, 1), (0x21AF, 0x21CD, 1),
  (0x21D0, 0x21D1, 1), (0x21D3, 0x21D3, 1), (0x21D5, 0x21F3, 1), (0x2300, 0x2307, 1),
  (0x230C, 0x231F, 1), (0x2322, 0x2328, 1), (0x232B, 0x237B, 1), (0x237D, 0x239A, 1),
  (0x23B4, 0x23DB, 1), (0x23E2, 0x2429, 1), (0x2440, 0x244A, 1), (0x249C, 0x24E9, 1),
  (0x2500, 0x25B6, 1), (0x25B8, 0x25C0, 1), (0x25C2, 0x25F7, 1), (0x2600, 0x266E, 1),
  (0x2670, 0x2767, 1), (0x2794, 0x27BF, 1), (0x2800, 0x28FF, 1), (0x2B00, 0x2B2F, 1),
  (0x2B45, 0x2B46, 1), (0x2B4D, 0x2B73, 1), (0x2B76, 0x2BFF, 1), (0x2CE5, 0x2CEA, 1),
  (0x2E50, 0x2E51, 1), (0x2E80, 0x2E99, 1), (0x2E9B, 0x2EF3, 1), (0x2F00, 0x2FD5, 1),
  (0x2FF0, 0x2FFF, 1), (0x3004, 0x3004, 1), (0x3012, 0x3013, 1), (0x3020, 0x3020, 1),
  (0x3036, 0x3037, 1), (0x303E, 0x303F, 1), (0x3190, 0x3191, 1), (0x3196, 0x319F, 1),
  (0x31C0, 0x31E5, 1), (0x31EF, 0x31EF, 1), (0x3200, 0x321E, 1), (0x322A, 0x3247, 1),
  (0x3250, 0x3250, 1), (0x3260, 0x327F, 1), (0x328A, 0x32B0, 1), (0x32C0, 0x33FF, 1),
  (0x4DC0, 0x4DFF, 1), (0xA490, 0xA4C6, 1), (0xA828, 0xA82B, 1), (0xA836, 0xA837, 1),
  (0xA839, 0xA839, 1), (0xAA77, 0xAA79, 1), (0xFBC3, 0xFBD2, 1), (0xFD40, 0xFD4F, 1),
  (0xFD90, 0xFD91, 1), (0xFDC8, 0xFDCF, 1), (0xFDFD, 0xFDFF, 1), (0xFFE4, 0xFFE4, 1),
  (0xFFE8, 0xFFE8, 1), (0xFFED, 0xFFEE, 1), (0xFFFC, 0xFFFD, 1), (0x10137, 0x1013F, 1),
  (0x10179, 0x10189, 1), (0x1018C, 0x1018E, 1), (0x10190, 0x1019C, 1), (0x101A0, 0x101A0, 1),
  (0x101D0, 0x101FC, 1), (0x10877, 0x10878, 1), (0x10AC8, 0x10AC8, 1), (0x10ED1, 0x10ED8, 1),
  (0x1173F, 0x1173F, 1), (0x11FD5, 0x11FDC, 1), (0x11FE1, 0x11FF1, 1), (0x16B3C, 0x16B3F, 1),
  (0x16B45, 0x16B45, 1), (0x1BC9C, 0x1BC9C, 1), (0x1CC00, 0x1CCEF, 1), (0x1CCFA, 0x1CCFC, 1),
  (0x1CD00, 0x1CEB3, 1), (0x1CEBA, 0x1CED0, 1), (0x1CEE0, 0x1CEEF, 1), (0x1CF50, 0x1CFC3, 1),
  (0x1D000, 0x1D0F5, 1), (0x1D100, 0x1D126, 1), (0x1D129, 0x1D164, 1), (0x1D16A, 0x1D16C, 1),
  (0x1D183, 0x1D184, 1), (0x1D18C, 0x1D1A9, 1), (0x1D1AE, 0x1D1EA, 1), (0x1D200, 0x1D241, 1),
  (0x1D245, 0x1D245, 1), (0x1D300, 0x1D356, 1), (0x1D800, 0x1D9FF, 1), (0x1DA37, 0x1DA3A, 1),
  (0x1DA6D, 0x1DA74, 1), (0x1DA76, 0x1DA83, 1), (0x1DA85, 0x1DA86, 1), (0x1E14F, 0x1E14F, 1),
  (0x1ECAC, 0x1ECAC, 1), (0x1ED2E, 0x1ED2E, 1), (0x1F000, 0x1F02B, 1), (0x1F030, 0x1F093, 1),
  (0x1F0A0, 0x1F0AE, 1), (0x1F0B1, 0x1F0BF, 1), (0x1F0C1, 0x1F0CF, 1), (0x1F0D1, 0x1F0F5, 1),
  (0x1F10D, 0x1F1AD, 1), (0x1F1E6, 0x1F202, 1), (0x1F210, 0x1F23B, 1), (0x1F240, 0x1F248, 1),
  (0x1F250, 0x1F251, 1), (0x1F260, 0x1F265, 1), (0x1F300, 0x1F3FA, 1), (0x1F400, 0x1F6D8, 1),
  (0x1F6DC, 0x1F6EC, 1), (0x1F6F0, 0x1F6FC, 1), (0x1F700, 0x1F7D9, 1), (0x1F7E0, 0x1F7EB, 1),
  (0x1F7F0, 0x1F7F0, 1), (0x1F800, 0x1F80B, 1), (0x1F810, 0x1F847, 1), (0x1F850, 0x1F859, 1),
  (0x1F860, 0x1F887, 1), (0x1F890, 0x1F8AD, 1), (0x1F8B0, 0x1F8BB, 1), (0x1F8C0, 0x1F8C1, 1),
  (0x1F900, 0x1FA57, 1), (0x1FA60, 0x1FA6D, 1), (0x1FA70, 0x1FA7C, 1), (0x1FA80, 0x1FA8A, 1),
  (0x1FA8E, 0x1FAC6, 1), (0x1FAC8, 0x1FAC8, 1), (0x1FACD, 0x1FADC, 1), (0x1FADF, 0x1FAEA, 1),
  (0x1FAEF, 0x1FAF8, 1), (0x1FB00, 0x1FB92, 1), (0x1FB94, 0x1FBEF, 1), (0x1FBFA, 0x1FBFA, 1)]

/-- Blanks. -/
def spaceSeparatorRuns : CodeRuns := [
  (0x0020, 0x0020, 1), (0x00A0, 0x00A0, 1), (0x1680, 0x1680, 1), (0x2000, 0x200A, 1),
  (0x202F, 0x202F, 1), (0x205F, 0x205F, 1), (0x3000, 0x3000, 1)]

/-- The separator of lines. -/
def lineSeparatorRuns : CodeRuns := [
  (0x2028, 0x2028, 1)]

/-- The separator of paragraphs. -/
def paragraphSeparatorRuns : CodeRuns := [
  (0x2029, 0x2029, 1)]

/-- Controls. -/
def controlRuns : CodeRuns := [
  (0x0000, 0x001F, 1), (0x007F, 0x009F, 1)]

/-- Signs that shape the text around them. -/
def formatRuns : CodeRuns := [
  (0x00AD, 0x00AD, 1), (0x0600, 0x0605, 1), (0x061C, 0x061C, 1), (0x06DD, 0x06DD, 1),
  (0x070F, 0x070F, 1), (0x0890, 0x0891, 1), (0x08E2, 0x08E2, 1), (0x180E, 0x180E, 1),
  (0x200B, 0x200F, 1), (0x202A, 0x202E, 1), (0x2060, 0x2064, 1), (0x2066, 0x206F, 1),
  (0xFEFF, 0xFEFF, 1), (0xFFF9, 0xFFFB, 1), (0x110BD, 0x110BD, 1), (0x110CD, 0x110CD, 1),
  (0x13430, 0x1343F, 1), (0x1BCA0, 0x1BCA3, 1), (0x1D173, 0x1D17A, 1), (0xE0001, 0xE0001, 1),
  (0xE0020, 0xE007F, 1)]

/-- Code points for private use. -/
def privateUseRuns : CodeRuns := [
  (0xE000, 0xF8FF, 1), (0xF0000, 0xFFFFD, 1), (0x100000, 0x10FFFD, 1)]

end UdsCatalog.Text
