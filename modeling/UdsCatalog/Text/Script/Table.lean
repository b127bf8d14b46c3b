import UdsCatalog.Text.CodeRuns

/-! Code points by the script they belong to. Names are in small letters and without joining signs. -/

namespace UdsCatalog.Text

/-- Scripts from adlm to dupl. -/
def scriptsThroughD : List (List String × CodeRuns) := [
  (["adlm", "adlam"], [(0x1E900, 0x1E94B, 1), (0x1E950, 0x1E959, 1), (0x1E95E, 0x1E95F, 1)]),
  (["aghb", "caucasianalbanian"], [(0x10530, 0x10563, 1), (0x1056F, 0x1056F, 1)]),
  (["ahom"], [(0x11700, 0x1171A, 1), (0x1171D, 0x1172B, 1), (0x11730, 0x11746, 1)]),
  (["arab", "arabic"], [(0x0600, 0x0604, 1), (0x0606, 0x060B, 1), (0x060D, 0x061A, 1),
    (0x061C, 0x061E, 1), (0x0620, 0x063F, 1), (0x0641, 0x064A, 1), (0x0656, 0x066F, 1),
    (0x0671, 0x06DC, 1), (0x06DE, 0x06FF, 1), (0x0750, 0x077F, 1), (0x0870, 0x0891, 1),
    (0x0897, 0x08E1, 1), (0x08E3, 0x08FF, 1), (0xFB50, 0xFD3D, 1), (0xFD40, 0xFDCF, 1),
    (0xFDF0, 0xFDFF, 1), (0xFE70, 0xFE74, 1), (0xFE76, 0xFEFC, 1), (0x10E60, 0x10E7E, 1),
    (0x10EC2, 0x10EC7, 1), (0x10ED0, 0x10ED8, 1), (0x10EFA, 0x10EFF, 1), (0x1EE00, 0x1EE03, 1),
    (0x1EE05, 0x1EE1F, 1), (0x1EE21, 0x1EE22, 1), (0x1EE24, 0x1EE24, 1), (0x1EE27, 0x1EE27, 1),
    (0x1EE29, 0x1EE32, 1), (0x1EE34, 0x1EE37, 1), (0x1EE39, 0x1EE3B, 2), (0x1EE42, 0x1EE42, 1),
    (0x1EE47, 0x1EE4D, 2), (0x1EE4E, 0x1EE4F, 1), (0x1EE51, 0x1EE52, 1), (0x1EE54, 0x1EE54, 1),
    (0x1EE57, 0x1EE61, 2), (0x1EE62, 0x1EE64, 2), (0x1EE67, 0x1EE6A, 1), (0x1EE6C, 0x1EE72, 1),
    (0x1EE74, 0x1EE77, 1), (0x1EE79, 0x1EE7C, 1), (0x1EE7E, 0x1EE7E, 1), (0x1EE80, 0x1EE89, 1),
    (0x1EE8B, 0x1EE9B, 1), (0x1EEA1, 0x1EEA3, 1), (0x1EEA5, 0x1EEA9, 1), (0x1EEAB, 0x1EEBB, 1),
    (0x1EEF0, 0x1EEF1, 1)]),
  (["armi", "imperialaramaic"], [(0x10840, 0x10855, 1), (0x10857, 0x1085F, 1)]),
  (["armn", "armenian"], [(0x0531, 0x0556, 1), (0x0559, 0x058A, 1), (0x058D, 0x058F, 1),
    (0xFB13, 0xFB17, 1)]),
  (["avst", "avestan"], [(0x10B00, 0x10B35, 1), (0x10B39, 0x10B3F, 1)]),
  (["bali", "balinese"], [(0x1B00, 0x1B4C, 1), (0x1B4E, 0x1B7F, 1)]),
  (["bamu", "bamum"], [(0xA6A0, 0xA6F7, 1), (0x16800, 0x16A38, 1)]),
  (["bass", "bassavah"], [(0x16AD0, 0x16AED, 1), (0x16AF0, 0x16AF5, 1)]),
  (["batk", "batak"], [(0x1BC0, 0x1BF3, 1), (0x1BFC, 0x1BFF, 1)]),
  (["beng", "bengali"], [(0x0980, 0x0983, 1), (0x0985, 0x098C, 1), (0x098F, 0x0990, 1),
    (0x0993, 0x09A8, 1), (0x09AA, 0x09B0, 1), (0x09B2, 0x09B2, 1), (0x09B6, 0x09B9, 1),
    (0x09BC, 0x09C4, 1), (0x09C7, 0x09C8, 1), (0x09CB, 0x09CE, 1), (0x09D7, 0x09D7, 1),
    (0x09DC, 0x09DD, 1), (0x09DF, 0x09E3, 1), (0x09E6, 0x09FE, 1)]),
  (["berf", "beriaerfe"], [(0x16EA0, 0x16EB8, 1), (0x16EBB, 0x16ED3, 1)]),
  (["bhks", "bhaiksuki"], [(0x11C00, 0x11C08, 1), (0x11C0A, 0x11C36, 1), (0x11C38, 0x11C45, 1),
    (0x11C50, 0x11C6C, 1)]),
  (["bopo", "bopomofo"], [(0x02EA, 0x02EB, 1), (0x3105, 0x312F, 1), (0x31A0, 0x31BF, 1)]),
  (["brah", "brahmi"], [(0x11000, 0x1104D, 1), (0x11052, 0x11075, 1), (0x1107F, 0x1107F, 1)]),
  (["brai", "braille"], [(0x2800, 0x28FF, 1)]),
  (["bugi", "buginese"], [(0x1A00, 0x1A1B, 1), (0x1A1E, 0x1A1F, 1)]),
  (["buhd", "buhid"], [(0x1740, 0x1753, 1)]),
  (["cakm", "chakma"], [(0x11100, 0x11134, 1), (0x11136, 0x11147, 1)]),
  (["cans", "canadianaboriginal"], [(0x1400, 0x167F, 1), (0x18B0, 0x18F5, 1),
    (0x11AB0, 0x11ABF, 1)]),
  (["cari", "carian"], [(0x102A0, 0x102D0, 1)]),
  (["cham"], [(0xAA00, 0xAA36, 1), (0xAA40, 0xAA4D, 1), (0xAA50, 0xAA59, 1), (0xAA5C, 0xAA5F, 1)]),
  (["cher", "cherokee"], [(0x13A0, 0x13F5, 1), (0x13F8, 0x13FD, 1), (0xAB70, 0xABBF, 1)]),
  (["chrs", "chorasmian"], [(0x10FB0, 0x10FCB, 1)]),
  (["copt", "coptic", "qaac"], [(0x03E2, 0x03EF, 1), (0x2C80, 0x2CF3, 1), (0x2CF9, 0x2CFF, 1)]),
  (["cpmn", "cyprominoan"], [(0x12F90, 0x12FF2, 1)]),
  (["cprt", "cypriot"], [(0x10800, 0x10805, 1), (0x10808, 0x10808, 1), (0x1080A, 0x10835, 1),
    (0x10837, 0x10838, 1), (0x1083C, 0x1083C, 1), (0x1083F, 0x1083F, 1)]),
  (["cyrl", "cyrillic"], [(0x0400, 0x0484, 1), (0x0487, 0x052F, 1), (0x1C80, 0x1C8A, 1),
    (0x1D2B, 0x1D2B, 1), (0x1D78, 0x1D78, 1), (0x2DE0, 0x2DFF, 1), (0xA640, 0xA69F, 1),
    (0xFE2E, 0xFE2F, 1), (0x1E030, 0x1E06D, 1), (0x1E08F, 0x1E08F, 1)]),
  (["deva", "devanagari"], [(0x0900, 0x0950, 1), (0x0955, 0x0963, 1), (0x0966, 0x097F, 1),
    (0xA8E0, 0xA8FF, 1), (0x11B00, 0x11B09, 1)]),
  (["diak", "divesakuru"], [(0x11900, 0x11906, 1), (0x11909, 0x11909, 1), (0x1190C, 0x11913, 1),
    (0x11915, 0x11916, 1), (0x11918, 0x11935, 1), (0x11937, 0x11938, 1), (0x1193B, 0x11946, 1),
    (0x11950, 0x11959, 1)]),
  (["dogr", "dogra"], [(0x11800, 0x1183B, 1)]),
  (["dsrt", "deseret"], [(0x10400, 0x1044F, 1)]),
  (["dupl", "duployan"], [(0x1BC00, 0x1BC6A, 1), (0x1BC70, 0x1BC7C, 1), (0x1BC80, 0x1BC88, 1),
    (0x1BC90, 0x1BC99, 1), (0x1BC9C, 0x1BC9F, 1)])]

/-- Scripts from egyp to kthi. -/
def scriptsThroughK : List (List String × CodeRuns) := [
  (["egyp", "egyptianhieroglyphs"], [(0x13000, 0x13455, 1), (0x13460, 0x143FA, 1)]),
  (["elba", "elbasan"], [(0x10500, 0x10527, 1)]),
  (["elym", "elymaic"], [(0x10FE0, 0x10FF6, 1)]),
  (["ethi", "ethiopic"], [(0x1200, 0x1248, 1), (0x124A, 0x124D, 1), (0x1250, 0x1256, 1),
    (0x1258, 0x1258, 1), (0x125A, 0x125D, 1), (0x1260, 0x1288, 1), (0x128A, 0x128D, 1),
    (0x1290, 0x12B0, 1), (0x12B2, 0x12B5, 1), (0x12B8, 0x12BE, 1), (0x12C0, 0x12C0, 1),
    (0x12C2, 0x12C5, 1), (0x12C8, 0x12D6, 1), (0x12D8, 0x1310, 1), (0x1312, 0x1315, 1),
    (0x1318, 0x135A, 1), (0x135D, 0x137C, 1), (0x1380, 0x1399, 1), (0x2D80, 0x2D96, 1),
    (0x2DA0, 0x2DA6, 1), (0x2DA8, 0x2DAE, 1), (0x2DB0, 0x2DB6, 1), (0x2DB8, 0x2DBE, 1),
    (0x2DC0, 0x2DC6, 1), (0x2DC8, 0x2DCE, 1), (0x2DD0, 0x2DD6, 1), (0x2DD8, 0x2DDE, 1),
    (0xAB01, 0xAB06, 1), (0xAB09, 0xAB0E, 1), (0xAB11, 0xAB16, 1), (0xAB20, 0xAB26, 1),
    (0xAB28, 0xAB2E, 1), (0x1E7E0, 0x1E7E6, 1), (0x1E7E8, 0x1E7EB, 1), (0x1E7ED, 0x1E7EE, 1),
    (0x1E7F0, 0x1E7FE, 1)]),
  (["gara", "garay"], [(0x10D40, 0x10D65, 1), (0x10D69, 0x10D85, 1), (0x10D8E, 0x10D8F, 1)]),
  (["geor", "georgian"], [(0x10A0, 0x10C5, 1), (0x10C7, 0x10C7, 1), (0x10CD, 0x10CD, 1),
    (0x10D0, 0x10FA, 1), (0x10FC, 0x10FF, 1), (0x1C90, 0x1CBA, 1), (0x1CBD, 0x1CBF, 1),
    (0x2D00, 0x2D25, 1), (0x2D27, 0x2D27, 1), (0x2D2D, 0x2D2D, 1)]),
  (["glag", "glagolitic"], [(0x2C00, 0x2C5F, 1), (0x1E000, 0x1E006, 1), (0x1E008, 0x1E018, 1),
    (0x1E01B, 0x1E021, 1), (0x1E023, 0x1E024, 1), (0x1E026, 0x1E02A, 1)]),
  (["gong", "gunjalagondi"], [(0x11D60, 0x11D65, 1), (0x11D67, 0x11D68, 1), (0x11D6A, 0x11D8E, 1),
    (0x11D90, 0x11D91, 1), (0x11D93, 0x11D98, 1), (0x11DA0, 0x11DA9, 1)]),
  (["gonm", "masaramgondi"], [(0x11D00, 0x11D06, 1), (0x11D08, 0x11D09, 1), (0x11D0B, 0x11D36, 1),
    (0x11D3A, 0x11D3A, 1), (0x11D3C, 0x11D3D, 1), (0x11D3F, 0x11D47, 1), (0x11D50, 0x11D59, 1)]),
  (["goth", "gothic"], [(0x10330, 0x1034A, 1)]),
  (["gran", "grantha"], [(0x11300, 0x11303, 1), (0x11305, 0x1130C, 1), (0x1130F, 0x11310, 1),
    (0x11313, 0x11328, 1), (0x1132A, 0x11330, 1), (0x11332, 0x11333, 1), (0x11335, 0x11339, 1),
    (0x1133C, 0x11344, 1), (0x11347, 0x11348, 1), (0x1134B, 0x1134D, 1), (0x11350, 0x11350, 1),
    (0x11357, 0x11357, 1), (0x1135D, 0x11363, 1), (0x11366, 0x1136C, 1), (0x11370, 0x11374, 1)]),
  (["grek", "greek"], [(0x0370, 0x0373, 1), (0x0375, 0x0377, 1), (0x037A, 0x037D, 1),
    (0x037F, 0x037F, 1), (0x0384, 0x0388, 2), (0x0389, 0x038A, 1), (0x038C, 0x038C, 1),
    (0x038E, 0x03A1, 1), (0x03A3, 0x03E1, 1), (0x03F0, 0x03FF, 1), (0x1D26, 0x1D2A, 1),
    (0x1D5D, 0x1D61, 1), (0x1D66, 0x1D6A, 1), (0x1DBF, 0x1DBF, 1), (0x1F00, 0x1F15, 1),
    (0x1F18, 0x1F1D, 1), (0x1F20, 0x1F45, 1), (0x1F48, 0x1F4D, 1), (0x1F50, 0x1F57, 1),
    (0x1F59, 0x1F5F, 2), (0x1F60, 0x1F7D, 1), (0x1F80, 0x1FB4, 1), (0x1FB6, 0x1FC4, 1),
    (0x1FC6, 0x1FD3, 1), (0x1FD6, 0x1FDB, 1), (0x1FDD, 0x1FEF, 1), (0x1FF2, 0x1FF4, 1),
    (0x1FF6, 0x1FFE, 1), (0x2126, 0x2126, 1), (0xAB65, 0xAB65, 1), (0x10140, 0x1018E, 1),
    (0x101A0, 0x101A0, 1), (0x1D200, 0x1D245, 1)]),
  (["gujr", "gujarati"], [(0x0A81, 0x0A83, 1), (0x0A85, 0x0A8D, 1), (0x0A8F, 0x0A91, 1),
    (0x0A93, 0x0AA8, 1), (0x0AAA, 0x0AB0, 1), (0x0AB2, 0x0AB3, 1), (0x0AB5, 0x0AB9, 1),
    (0x0ABC, 0x0AC5, 1), (0x0AC7, 0x0AC9, 1), (0x0ACB, 0x0ACD, 1), (0x0AD0, 0x0AD0, 1),
    (0x0AE0, 0x0AE3, 1), (0x0AE6, 0x0AF1, 1), (0x0AF9, 0x0AFF, 1)]),
  (["gukh", "gurungkhema"], [(0x16100, 0x16139, 1)]),
  (["guru", "gurmukhi"], [(0x0A01, 0x0A03, 1), (0x0A05, 0x0A0A, 1), (0x0A0F, 0x0A10, 1),
    (0x0A13, 0x0A28, 1), (0x0A2A, 0x0A30, 1), (0x0A32, 0x0A33, 1), (0x0A35, 0x0A36, 1),
    (0x0A38, 0x0A39, 1), (0x0A3C, 0x0A3C, 1), (0x0A3E, 0x0A42, 1), (0x0A47, 0x0A48, 1),
    (0x0A4B, 0x0A4D, 1), (0x0A51, 0x0A51, 1), (0x0A59, 0x0A5C, 1), (0x0A5E, 0x0A5E, 1),
    (0x0A66, 0x0A76, 1)]),
  (["hang", "hangul"], [(0x1100, 0x11FF, 1), (0x302E, 0x302F, 1), (0x3131, 0x318E, 1),
    (0x3200, 0x321E, 1), (0x3260, 0x327E, 1), (0xA960, 0xA97C, 1), (0xAC00, 0xD7A3, 1),
    (0xD7B0, 0xD7C6, 1), (0xD7CB, 0xD7FB, 1), (0xFFA0, 0xFFBE, 1), (0xFFC2, 0xFFC7, 1),
    (0xFFCA, 0xFFCF, 1), (0xFFD2, 0xFFD7, 1), (0xFFDA, 0xFFDC, 1)]),
  (["hani", "han"], [(0x2E80, 0x2E99, 1), (0x2E9B, 0x2EF3, 1), (0x2F00, 0x2FD5, 1),
    (0x3005, 0x3007, 2), (0x3021, 0x3029, 1), (0x3038, 0x303B, 1), (0x3400, 0x4DBF, 1),
    (0x4E00, 0x9FFF, 1), (0xF900, 0xFA6D, 1), (0xFA70, 0xFAD9, 1), (0x16FE2, 0x16FE3, 1),
    (0x16FF0, 0x16FF6, 1), (0x20000, 0x2A6DF, 1), (0x2A700, 0x2B81D, 1), (0x2B820, 0x2CEAD, 1),
    (0x2CEB0, 0x2EBE0, 1), (0x2EBF0, 0x2EE5D, 1), (0x2F800, 0x2FA1D, 1), (0x30000, 0x3134A, 1),
    (0x31350, 0x33479, 1)]),
  (["hano", "hanunoo"], [(0x1720, 0x1734, 1)]),
  (["hatr", "hatran"], [(0x108E0, 0x108F2, 1), (0x108F4, 0x108F5, 1), (0x108FB, 0x108FF, 1)]),
  (["hebr", "hebrew"], [(0x0591, 0x05C7, 1), (0x05D0, 0x05EA, 1), (0x05EF, 0x05F4, 1),
    (0xFB1D, 0xFB36, 1), (0xFB38, 0xFB3C, 1), (0xFB3E, 0xFB3E, 1), (0xFB40, 0xFB41, 1),
    (0xFB43, 0xFB44, 1), (0xFB46, 0xFB4F, 1)]),
  (["hira", "hiragana"], [(0x3041, 0x3096, 1), (0x309D, 0x309F, 1), (0x1B001, 0x1B11F, 1),
    (0x1B132, 0x1B132, 1), (0x1B150, 0x1B152, 1), (0x1F200, 0x1F200, 1)]),
  (["hluw", "anatolianhieroglyphs"], [(0x14400, 0x14646, 1)]),
  (["hmng", "pahawhhmong"], [(0x16B00, 0x16B45, 1), (0x16B50, 0x16B59, 1), (0x16B5B, 0x16B61, 1),
    (0x16B63, 0x16B77, 1), (0x16B7D, 0x16B8F, 1)]),
  (["hmnp", "nyiakengpuachuehmong"], [(0x1E100, 0x1E12C, 1), (0x1E130, 0x1E13D, 1),
    (0x1E140, 0x1E149, 1), (0x1E14E, 0x1E14F, 1)]),
  (["hung", "oldhungarian"], [(0x10C80, 0x10CB2, 1), (0x10CC0, 0x10CF2, 1), (0x10CFA, 0x10CFF, 1)]),
  (["ital", "olditalic"], [(0x10300, 0x10323, 1), (0x1032D, 0x1032F, 1)]),
  (["java", "javanese"], [(0xA980, 0xA9CD, 1), (0xA9D0, 0xA9D9, 1), (0xA9DE, 0xA9DF, 1)]),
  (["kali", "kayahli"], [(0xA900, 0xA92D, 1), (0xA92F, 0xA92F, 1)]),
  (["kana", "katakana"], [(0x30A1, 0x30FA, 1), (0x30FD, 0x30FF, 1), (0x31F0, 0x31FF, 1),
    (0x32D0, 0x32FE, 1), (0x3300, 0x3357, 1), (0xFF66, 0xFF6F, 1), (0xFF71, 0xFF9D, 1),
    (0x1AFF0, 0x1AFF3, 1), (0x1AFF5, 0x1AFFB, 1), (0x1AFFD, 0x1AFFE, 1), (0x1B000, 0x1B000, 1),
    (0x1B120, 0x1B122, 1), (0x1B155, 0x1B155, 1), (0x1B164, 0x1B167, 1)]),
  (["kawi"], [(0x11F00, 0x11F10, 1), (0x11F12, 0x11F3A, 1), (0x11F3E, 0x11F5A, 1)]),
  (["khar", "kharoshthi"], [(0x10A00, 0x10A03, 1), (0x10A05, 0x10A06, 1), (0x10A0C, 0x10A13, 1),
    (0x10A15, 0x10A17, 1), (0x10A19, 0x10A35, 1), (0x10A38, 0x10A3A, 1), (0x10A3F, 0x10A48, 1),
    (0x10A50, 0x10A58, 1)]),
  (["khmr", "khmer"], [(0x1780, 0x17DD, 1), (0x17E0, 0x17E9, 1), (0x17F0, 0x17F9, 1),
    (0x19E0, 0x19FF, 1)]),
  (["khoj", "khojki"], [(0x11200, 0x11211, 1), (0x11213, 0x11241, 1)]),
  (["kits", "khitansmallscript"], [(0x16FE4, 0x16FE4, 1), (0x18B00, 0x18CD5, 1),
    (0x18CFF, 0x18CFF, 1)]),
  (["knda", "kannada"], [(0x0C80, 0x0C8C, 1), (0x0C8E, 0x0C90, 1), (0x0C92, 0x0CA8, 1),
    (0x0CAA, 0x0CB3, 1), (0x0CB5, 0x0CB9, 1), (0x0CBC, 0x0CC4, 1), (0x0CC6, 0x0CC8, 1),
    (0x0CCA, 0x0CCD, 1), (0x0CD5, 0x0CD6, 1), (0x0CDC, 0x0CDE, 1), (0x0CE0, 0x0CE3, 1),
    (0x0CE6, 0x0CEF, 1), (0x0CF1, 0x0CF3, 1)]),
  (["krai", "kiratrai"], [(0x16D40, 0x16D79, 1)]),
  (["kthi", "kaithi"], [(0x11080, 0x110C2, 1), (0x110CD, 0x110CD, 1)])]

/-- Scripts from lana to mymr. -/
def scriptsThroughM : List (List String × CodeRuns) := [
  (["lana", "taitham"], [(0x1A20, 0x1A5E, 1), (0x1A60, 0x1A7C, 1), (0x1A7F, 0x1A89, 1),
    (0x1A90, 0x1A99, 1), (0x1AA0, 0x1AAD, 1)]),
  (["laoo", "lao"], [(0x0E81, 0x0E82, 1), (0x0E84, 0x0E84, 1), (0x0E86, 0x0E8A, 1),
    (0x0E8C, 0x0EA3, 1), (0x0EA5, 0x0EA5, 1), (0x0EA7, 0x0EBD, 1), (0x0EC0, 0x0EC4, 1),
    (0x0EC6, 0x0EC6, 1), (0x0EC8, 0x0ECE, 1), (0x0ED0, 0x0ED9, 1), (0x0EDC, 0x0EDF, 1)]),
  (["latn", "latin"], [(0x0041, 0x005A, 1), (0x0061, 0x007A, 1), (0x00AA, 0x00AA, 1),
    (0x00BA, 0x00BA, 1), (0x00C0, 0x00D6, 1), (0x00D8, 0x00F6, 1), (0x00F8, 0x02B8, 1),
    (0x02E0, 0x02E4, 1), (0x1D00, 0x1D25, 1), (0x1D2C, 0x1D5C, 1), (0x1D62, 0x1D65, 1),
    (0x1D6B, 0x1D77, 1), (0x1D79, 0x1DBE, 1), (0x1E00, 0x1EFF, 1), (0x2071, 0x2071, 1),
    (0x207F, 0x207F, 1), (0x2090, 0x209C, 1), (0x212A, 0x212B, 1), (0x2132, 0x2132, 1),
    (0x214E, 0x214E, 1), (0x2160, 0x2188, 1), (0x2C60, 0x2C7F, 1), (0xA722, 0xA787, 1),
    (0xA78B, 0xA7DC, 1), (0xA7F1, 0xA7FF, 1), (0xAB30, 0xAB5A, 1), (0xAB5C, 0xAB64, 1),
    (0xAB66, 0xAB69, 1), (0xFB00, 0xFB06, 1), (0xFF21, 0xFF3A, 1), (0xFF41, 0xFF5A, 1),
    (0x10780, 0x10785, 1), (0x10787, 0x107B0, 1), (0x107B2, 0x107BA, 1), (0x1DF00, 0x1DF1E, 1),
    (0x1DF25, 0x1DF2A, 1)]),
  (["lepc", "lepcha"], [(0x1C00, 0x1C37, 1), (0x1C3B, 0x1C49, 1), (0x1C4D, 0x1C4F, 1)]),
  (["limb", "limbu"], [(0x1900, 0x191E, 1), (0x1920, 0x192B, 1), (0x1930, 0x193B, 1),
    (0x1940, 0x1940, 1), (0x1944, 0x194F, 1)]),
  (["lina", "lineara"], [(0x10600, 0x10736, 1), (0x10740, 0x10755, 1), (0x10760, 0x10767, 1)]),
  (["linb", "linearb"], [(0x10000, 0x1000B, 1), (0x1000D, 0x10026, 1), (0x10028, 0x1003A, 1),
    (0x1003C, 0x1003D, 1), (0x1003F, 0x1004D, 1), (0x10050, 0x1005D, 1), (0x10080, 0x100FA, 1)]),
  (["lisu"], [(0xA4D0, 0xA4FF, 1), (0x11FB0, 0x11FB0, 1)]),
  (["lyci", "lycian"], [(0x10280, 0x1029C, 1)]),
  (["lydi", "lydian"], [(0x10920, 0x10939, 1), (0x1093F, 0x1093F, 1)]),
  (["mahj", "mahajani"], [(0x11150, 0x11176, 1)]),
  (["maka", "makasar"], [(0x11EE0, 0x11EF8, 1)]),
  (["mand", "mandaic"], [(0x0840, 0x085B, 1), (0x085E, 0x085E, 1)]),
  (["mani", "manichaean"], [(0x10AC0, 0x10AE6, 1), (0x10AEB, 0x10AF6, 1)]),
  (["marc", "marchen"], [(0x11C70, 0x11C8F, 1), (0x11C92, 0x11CA7, 1), (0x11CA9, 0x11CB6, 1)]),
  (["medf", "medefaidrin"], [(0x16E40, 0x16E9A, 1)]),
  (["mend", "mendekikakui"], [(0x1E800, 0x1E8C4, 1), (0x1E8C7, 0x1E8D6, 1)]),
  (["merc", "meroiticcursive"], [(0x109A0, 0x109B7, 1), (0x109BC, 0x109CF, 1),
    (0x109D2, 0x109FF, 1)]),
  (["mero", "meroitichieroglyphs"], [(0x10980, 0x1099F, 1)]),
  (["mlym", "malayalam"], [(0x0D00, 0x0D0C, 1), (0x0D0E, 0x0D10, 1), (0x0D12, 0x0D44, 1),
    (0x0D46, 0x0D48, 1), (0x0D4A, 0x0D4F, 1), (0x0D54, 0x0D63, 1), (0x0D66, 0x0D7F, 1)]),
  (["modi"], [(0x11600, 0x11644, 1), (0x11650, 0x11659, 1)]),
  (["mong", "mongolian"], [(0x1800, 0x1801, 1), (0x1804, 0x1804, 1), (0x1806, 0x1819, 1),
    (0x1820, 0x1878, 1), (0x1880, 0x18AA, 1), (0x11660, 0x1166C, 1)]),
  (["mroo", "mro"], [(0x16A40, 0x16A5E, 1), (0x16A60, 0x16A69, 1), (0x16A6E, 0x16A6F, 1)]),
  (["mtei", "meeteimayek"], [(0xAAE0, 0xAAF6, 1), (0xABC0, 0xABED, 1), (0xABF0, 0xABF9, 1)]),
  (["mult", "multani"], [(0x11280, 0x11286, 1), (0x11288, 0x11288, 1), (0x1128A, 0x1128D, 1),
    (0x1128F, 0x1129D, 1), (0x1129F, 0x112A9, 1)]),
  (["mymr", "myanmar"], [(0x1000, 0x109F, 1), (0xA9E0, 0xA9FE, 1), (0xAA60, 0xAA7F, 1),
    (0x116D0, 0x116E3, 1)])]

/-- Scripts from nagm to runr. -/
def scriptsThroughR : List (List String × CodeRuns) := [
  (["nagm", "nagmundari"], [(0x1E4D0, 0x1E4F9, 1)]),
  (["nand", "nandinagari"], [(0x119A0, 0x119A7, 1), (0x119AA, 0x119D7, 1), (0x119DA, 0x119E4, 1)]),
  (["narb", "oldnortharabian"], [(0x10A80, 0x10A9F, 1)]),
  (["nbat", "nabataean"], [(0x10880, 0x1089E, 1), (0x108A7, 0x108AF, 1)]),
  (["newa"], [(0x11400, 0x1145B, 1), (0x1145D, 0x11461, 1)]),
  (["nkoo", "nko"], [(0x07C0, 0x07FA, 1), (0x07FD, 0x07FF, 1)]),
  (["nshu", "nushu"], [(0x16FE1, 0x16FE1, 1), (0x1B170, 0x1B2FB, 1)]),
  (["ogam", "ogham"], [(0x1680, 0x169C, 1)]),
  (["olck", "olchiki"], [(0x1C50, 0x1C7F, 1)]),
  (["onao", "olonal"], [(0x1E5D0, 0x1E5FA, 1), (0x1E5FF, 0x1E5FF, 1)]),
  (["orkh", "oldturkic"], [(0x10C00, 0x10C48, 1)]),
  (["orya", "oriya"], [(0x0B01, 0x0B03, 1), (0x0B05, 0x0B0C, 1), (0x0B0F, 0x0B10, 1),
    (0x0B13, 0x0B28, 1), (0x0B2A, 0x0B30, 1), (0x0B32, 0x0B33, 1), (0x0B35, 0x0B39, 1),
    (0x0B3C, 0x0B44, 1), (0x0B47, 0x0B48, 1), (0x0B4B, 0x0B4D, 1), (0x0B55, 0x0B57, 1),
    (0x0B5C, 0x0B5D, 1), (0x0B5F, 0x0B63, 1), (0x0B66, 0x0B77, 1)]),
  (["osge", "osage"], [(0x104B0, 0x104D3, 1), (0x104D8, 0x104FB, 1)]),
  (["osma", "osmanya"], [(0x10480, 0x1049D, 1), (0x104A0, 0x104A9, 1)]),
  (["ougr", "olduyghur"], [(0x10F70, 0x10F89, 1)]),
  (["palm", "palmyrene"], [(0x10860, 0x1087F, 1)]),
  (["pauc", "paucinhau"], [(0x11AC0, 0x11AF8, 1)]),
  (["perm", "oldpermic"], [(0x10350, 0x1037A, 1)]),
  (["phag", "phagspa"], [(0xA840, 0xA877, 1)]),
  (["phli", "inscriptionalpahlavi"], [(0x10B60, 0x10B72, 1), (0x10B78, 0x10B7F, 1)]),
  (["phlp", "psalterpahlavi"], [(0x10B80, 0x10B91, 1), (0x10B99, 0x10B9C, 1),
    (0x10BA9, 0x10BAF, 1)]),
  (["phnx", "phoenician"], [(0x10900, 0x1091B, 1), (0x1091F, 0x1091F, 1)]),
  (["plrd", "miao"], [(0x16F00, 0x16F4A, 1), (0x16F4F, 0x16F87, 1), (0x16F8F, 0x16F9F, 1)]),
  (["prti", "inscriptionalparthian"], [(0x10B40, 0x10B55, 1), (0x10B58, 0x10B5F, 1)]),
  (["rjng", "rejang"], [(0xA930, 0xA953, 1), (0xA95F, 0xA95F, 1)]),
  (["rohg", "hanifirohingya"], [(0x10D00, 0x10D27, 1), (0x10D30, 0x10D39, 1)]),
  (["runr", "runic"], [(0x16A0, 0x16EA, 1), (0x16EE, 0x16F8, 1)])]

/-- Scripts from samr to syrc. -/
def scriptsThroughS : List (List String × CodeRuns) := [
  (["samr", "samaritan"], [(0x0800, 0x082D, 1), (0x0830, 0x083E, 1)]),
  (["sarb", "oldsoutharabian"], [(0x10A60, 0x10A7F, 1)]),
  (["saur", "saurashtra"], [(0xA880, 0xA8C5, 1), (0xA8CE, 0xA8D9, 1)]),
  (["sgnw", "signwriting"], [(0x1D800, 0x1DA8B, 1), (0x1DA9B, 0x1DA9F, 1), (0x1DAA1, 0x1DAAF, 1)]),
  (["shaw", "shavian"], [(0x10450, 0x1047F, 1)]),
  (["shrd", "sharada"], [(0x11180, 0x111DF, 1), (0x11B60, 0x11B67, 1)]),
  (["sidd", "siddham"], [(0x11580, 0x115B5, 1), (0x115B8, 0x115DD, 1)]),
  (["sidt", "sidetic"], [(0x10940, 0x10959, 1)]),
  (["sind", "khudawadi"], [(0x112B0, 0x112EA, 1), (0x112F0, 0x112F9, 1)]),
  (["sinh", "sinhala"], [(0x0D81, 0x0D83, 1), (0x0D85, 0x0D96, 1), (0x0D9A, 0x0DB1, 1),
    (0x0DB3, 0x0DBB, 1), (0x0DBD, 0x0DBD, 1), (0x0DC0, 0x0DC6, 1), (0x0DCA, 0x0DCA, 1),
    (0x0DCF, 0x0DD4, 1), (0x0DD6, 0x0DD6, 1), (0x0DD8, 0x0DDF, 1), (0x0DE6, 0x0DEF, 1),
    (0x0DF2, 0x0DF4, 1), (0x111E1, 0x111F4, 1)]),
  (["sogd", "sogdian"], [(0x10F30, 0x10F59, 1)]),
  (["sogo", "oldsogdian"], [(0x10F00, 0x10F27, 1)]),
  (["sora", "sorasompeng"], [(0x110D0, 0x110E8, 1), (0x110F0, 0x110F9, 1)]),
  (["soyo", "soyombo"], [(0x11A50, 0x11AA2, 1)]),
  (["sund", "sundanese"], [(0x1B80, 0x1BBF, 1), (0x1CC0, 0x1CC7, 1)]),
  (["sunu", "sunuwar"], [(0x11BC0, 0x11BE1, 1), (0x11BF0, 0x11BF9, 1)]),
  (["sylo", "sylotinagri"], [(0xA800, 0xA82C, 1)]),
  (["syrc", "syriac"], [(0x0700, 0x070D, 1), (0x070F, 0x074A, 1), (0x074D, 0x074F, 1),
    (0x0860, 0x086A, 1)])]

/-- Scripts from tagb to zyyy. -/
def scriptsThroughZ : List (List String × CodeRuns) := [
  (["tagb", "tagbanwa"], [(0x1760, 0x176C, 1), (0x176E, 0x1770, 1), (0x1772, 0x1773, 1)]),
  (["takr", "takri"], [(0x11680, 0x116B9, 1), (0x116C0, 0x116C9, 1)]),
  (["tale", "taile"], [(0x1950, 0x196D, 1), (0x1970, 0x1974, 1)]),
  (["talu", "newtailue"], [(0x1980, 0x19AB, 1), (0x19B0, 0x19C9, 1), (0x19D0, 0x19DA, 1),
    (0x19DE, 0x19DF, 1)]),
  (["taml", "tamil"], [(0x0B82, 0x0B83, 1), (0x0B85, 0x0B8A, 1), (0x0B8E, 0x0B90, 1),
    (0x0B92, 0x0B95, 1), (0x0B99, 0x0B9A, 1), (0x0B9C, 0x0B9C, 1), (0x0B9E, 0x0B9F, 1),
    (0x0BA3, 0x0BA4, 1), (0x0BA8, 0x0BAA, 1), (0x0BAE, 0x0BB9, 1), (0x0BBE, 0x0BC2, 1),
    (0x0BC6, 0x0BC8, 1), (0x0BCA, 0x0BCD, 1), (0x0BD0, 0x0BD0, 1), (0x0BD7, 0x0BD7, 1),
    (0x0BE6, 0x0BFA, 1), (0x11FC0, 0x11FF1, 1), (0x11FFF, 0x11FFF, 1)]),
  (["tang", "tangut"], [(0x16FE0, 0x16FE0, 1), (0x17000, 0x18AFF, 1), (0x18D00, 0x18D1E, 1),
    (0x18D80, 0x18DF2, 1)]),
  (["tavt", "taiviet"], [(0xAA80, 0xAAC2, 1), (0xAADB, 0xAADF, 1)]),
  (["tayo", "taiyo"], [(0x1E6C0, 0x1E6DE, 1), (0x1E6E0, 0x1E6F5, 1), (0x1E6FE, 0x1E6FF, 1)]),
  (["telu", "telugu"], [(0x0C00, 0x0C0C, 1), (0x0C0E, 0x0C10, 1), (0x0C12, 0x0C28, 1),
    (0x0C2A, 0x0C39, 1), (0x0C3C, 0x0C44, 1), (0x0C46, 0x0C48, 1), (0x0C4A, 0x0C4D, 1),
    (0x0C55, 0x0C56, 1), (0x0C58, 0x0C5A, 1), (0x0C5C, 0x0C5D, 1), (0x0C60, 0x0C63, 1),
    (0x0C66, 0x0C6F, 1), (0x0C77, 0x0C7F, 1)]),
  (["tfng", "tifinagh"], [(0x2D30, 0x2D67, 1), (0x2D6F, 0x2D70, 1), (0x2D7F, 0x2D7F, 1)]),
  (["tglg", "tagalog"], [(0x1700, 0x1715, 1), (0x171F, 0x171F, 1)]),
  (["thaa", "thaana"], [(0x0780, 0x07B1, 1)]),
  (["thai"], [(0x0E01, 0x0E3A, 1), (0x0E40, 0x0E5B, 1)]),
  (["tibt", "tibetan"], [(0x0F00, 0x0F47, 1), (0x0F49, 0x0F6C, 1), (0x0F71, 0x0F97, 1),
    (0x0F99, 0x0FBC, 1), (0x0FBE, 0x0FCC, 1), (0x0FCE, 0x0FD4, 1), (0x0FD9, 0x0FDA, 1)]),
  (["tirh", "tirhuta"], [(0x11480, 0x114C7, 1), (0x114D0, 0x114D9, 1)]),
  (["tnsa", "tangsa"], [(0x16A70, 0x16ABE, 1), (0x16AC0, 0x16AC9, 1)]),
  (["todr", "todhri"], [(0x105C0, 0x105F3, 1)]),
  (["tols", "tolongsiki"], [(0x11DB0, 0x11DDB, 1), (0x11DE0, 0x11DE9, 1)]),
  (["toto"], [(0x1E290, 0x1E2AE, 1)]),
  (["tutg", "tulutigalari"], [(0x11380, 0x11389, 1), (0x1138B, 0x1138B, 1), (0x1138E, 0x1138E, 1),
    (0x11390, 0x113B5, 1), (0x113B7, 0x113C0, 1), (0x113C2, 0x113C2, 1), (0x113C5, 0x113C5, 1),
    (0x113C7, 0x113CA, 1), (0x113CC, 0x113D5, 1), (0x113D7, 0x113D8, 1), (0x113E1, 0x113E2, 1)]),
  (["ugar", "ugaritic"], [(0x10380, 0x1039D, 1), (0x1039F, 0x1039F, 1)]),
  (["vaii", "vai"], [(0xA500, 0xA62B, 1)]),
  (["vith", "vithkuqi"], [(0x10570, 0x1057A, 1), (0x1057C, 0x1058A, 1), (0x1058C, 0x10592, 1),
    (0x10594, 0x10595, 1), (0x10597, 0x105A1, 1), (0x105A3, 0x105B1, 1), (0x105B3, 0x105B9, 1),
    (0x105BB, 0x105BC, 1)]),
  (["wara", "warangciti"], [(0x118A0, 0x118F2, 1), (0x118FF, 0x118FF, 1)]),
  (["wcho", "wancho"], [(0x1E2C0, 0x1E2F9, 1), (0x1E2FF, 0x1E2FF, 1)]),
  (["xpeo", "oldpersian"], [(0x103A0, 0x103C3, 1), (0x103C8, 0x103D5, 1)]),
  (["xsux", "cuneiform"], [(0x12000, 0x12399, 1), (0x12400, 0x1246E, 1), (0x12470, 0x12474, 1),
    (0x12480, 0x12543, 1)]),
  (["yezi", "yezidi"], [(0x10E80, 0x10EA9, 1), (0x10EAB, 0x10EAD, 1), (0x10EB0, 0x10EB1, 1)]),
  (["yiii", "yi"], [(0xA000, 0xA48C, 1), (0xA490, 0xA4C6, 1)]),
  (["zanb", "zanabazarsquare"], [(0x11A00, 0x11A47, 1)]),
  (["zinh", "inherited", "qaai"], [(0x0300, 0x036F, 1), (0x0485, 0x0486, 1), (0x064B, 0x0655, 1),
    (0x0670, 0x0670, 1), (0x0951, 0x0954, 1), (0x1AB0, 0x1ADD, 1), (0x1AE0, 0x1AEB, 1),
    (0x1CD0, 0x1CD2, 1), (0x1CD4, 0x1CE0, 1), (0x1CE2, 0x1CE8, 1), (0x1CED, 0x1CED, 1),
    (0x1CF4, 0x1CF4, 1), (0x1CF8, 0x1CF9, 1), (0x1DC0, 0x1DFF, 1), (0x200C, 0x200D, 1),
    (0x20D0, 0x20F0, 1), (0x302A, 0x302D, 1), (0x3099, 0x309A, 1), (0xFE00, 0xFE0F, 1),
    (0xFE20, 0xFE2D, 1), (0x101FD, 0x101FD, 1), (0x102E0, 0x102E0, 1), (0x1133B, 0x1133B, 1),
    (0x1CF00, 0x1CF2D, 1), (0x1CF30, 0x1CF46, 1), (0x1D167, 0x1D169, 1), (0x1D17B, 0x1D182, 1),
    (0x1D185, 0x1D18B, 1), (0x1D1AA, 0x1D1AD, 1), (0xE0100, 0xE01EF, 1)]),
  (["zyyy", "common"], [(0x0000, 0x0040, 1), (0x005B, 0x0060, 1), (0x007B, 0x00A9, 1),
    (0x00AB, 0x00B9, 1), (0x00BB, 0x00BF, 1), (0x00D7, 0x00D7, 1), (0x00F7, 0x00F7, 1),
    (0x02B9, 0x02DF, 1), (0x02E5, 0x02E9, 1), (0x02EC, 0x02FF, 1), (0x0374, 0x0374, 1),
    (0x037E, 0x037E, 1), (0x0385, 0x0387, 2), (0x0605, 0x0605, 1), (0x060C, 0x060C, 1),
    (0x061B, 0x061B, 1), (0x061F, 0x061F, 1), (0x0640, 0x0640, 1), (0x06DD, 0x06DD, 1),
    (0x08E2, 0x08E2, 1), (0x0964, 0x0965, 1), (0x0E3F, 0x0E3F, 1), (0x0FD5, 0x0FD8, 1),
    (0x10FB, 0x10FB, 1), (0x16EB, 0x16ED, 1), (0x1735, 0x1736, 1), (0x1802, 0x1803, 1),
    (0x1805, 0x1805, 1), (0x1CD3, 0x1CD3, 1), (0x1CE1, 0x1CE1, 1), (0x1CE9, 0x1CEC, 1),
    (0x1CEE, 0x1CF3, 1), (0x1CF5, 0x1CF7, 1), (0x1CFA, 0x1CFA, 1), (0x2000, 0x200B, 1),
    (0x200E, 0x2064, 1), (0x2066, 0x2070, 1), (0x2074, 0x207E, 1), (0x2080, 0x208E, 1),
    (0x20A0, 0x20C1, 1), (0x2100, 0x2125, 1), (0x2127, 0x2129, 1), (0x212C, 0x2131, 1),
    (0x2133, 0x214D, 1), (0x214F, 0x215F, 1), (0x2189, 0x218B, 1), (0x2190, 0x2429, 1),
    (0x2440, 0x244A, 1), (0x2460, 0x27FF, 1), (0x2900, 0x2B73, 1), (0x2B76, 0x2BFF, 1),
    (0x2E00, 0x2E5D, 1), (0x2FF0, 0x3004, 1), (0x3006, 0x3006, 1), (0x3008, 0x3020, 1),
    (0x3030, 0x3037, 1), (0x303C, 0x303F, 1), (0x309B, 0x309C, 1), (0x30A0, 0x30A0, 1),
    (0x30FB, 0x30FC, 1), (0x3190, 0x319F, 1), (0x31C0, 0x31E5, 1), (0x31EF, 0x31EF, 1),
    (0x3220, 0x325F, 1), (0x327F, 0x32CF, 1), (0x32FF, 0x32FF, 1), (0x3358, 0x33FF, 1),
    (0x4DC0, 0x4DFF, 1), (0xA700, 0xA721, 1), (0xA788, 0xA78A, 1), (0xA830, 0xA839, 1),
    (0xA92E, 0xA92E, 1), (0xA9CF, 0xA9CF, 1), (0xAB5B, 0xAB5B, 1), (0xAB6A, 0xAB6B, 1),
    (0xFD3E, 0xFD3F, 1), (0xFE10, 0xFE19, 1), (0xFE30, 0xFE52, 1), (0xFE54, 0xFE66, 1),
    (0xFE68, 0xFE6B, 1), (0xFEFF, 0xFEFF, 1), (0xFF01, 0xFF20, 1), (0xFF3B, 0xFF40, 1),
    (0xFF5B, 0xFF65, 1), (0xFF70, 0xFF70, 1), (0xFF9E, 0xFF9F, 1), (0xFFE0, 0xFFE6, 1),
    (0xFFE8, 0xFFEE, 1), (0xFFF9, 0xFFFD, 1), (0x10100, 0x10102, 1), (0x10107, 0x10133, 1),
    (0x10137, 0x1013F, 1), (0x10190, 0x1019C, 1), (0x101D0, 0x101FC, 1), (0x102E1, 0x102FB, 1),
    (0x1BCA0, 0x1BCA3, 1), (0x1CC00, 0x1CCFC, 1), (0x1CD00, 0x1CEB3, 1), (0x1CEBA, 0x1CED0, 1),
    (0x1CEE0, 0x1CEF0, 1), (0x1CF50, 0x1CFC3, 1), (0x1D000, 0x1D0F5, 1), (0x1D100, 0x1D126, 1),
    (0x1D129, 0x1D166, 1), (0x1D16A, 0x1D17A, 1), (0x1D183, 0x1D184, 1), (0x1D18C, 0x1D1A9, 1),
    (0x1D1AE, 0x1D1EA, 1), (0x1D2C0, 0x1D2D3, 1), (0x1D2E0, 0x1D2F3, 1), (0x1D300, 0x1D356, 1),
    (0x1D360, 0x1D378, 1), (0x1D400, 0x1D454, 1), (0x1D456, 0x1D49C, 1), (0x1D49E, 0x1D49F, 1),
    (0x1D4A2, 0x1D4A2, 1), (0x1D4A5, 0x1D4A6, 1), (0x1D4A9, 0x1D4AC, 1), (0x1D4AE, 0x1D4B9, 1),
    (0x1D4BB, 0x1D4BB, 1), (0x1D4BD, 0x1D4C3, 1), (0x1D4C5, 0x1D505, 1), (0x1D507, 0x1D50A, 1),
    (0x1D50D, 0x1D514, 1), (0x1D516, 0x1D51C, 1), (0x1D51E, 0x1D539, 1), (0x1D53B, 0x1D53E, 1),
    (0x1D540, 0x1D544, 1), (0x1D546, 0x1D546, 1), (0x1D54A, 0x1D550, 1), (0x1D552, 0x1D6A5, 1),
    (0x1D6A8, 0x1D7CB, 1), (0x1D7CE, 0x1D7FF, 1), (0x1EC71, 0x1ECB4, 1), (0x1ED01, 0x1ED3D, 1),
    (0x1F000, 0x1F02B, 1), (0x1F030, 0x1F093, 1), (0x1F0A0, 0x1F0AE, 1), (0x1F0B1, 0x1F0BF, 1),
    (0x1F0C1, 0x1F0CF, 1), (0x1F0D1, 0x1F0F5, 1), (0x1F100, 0x1F1AD, 1), (0x1F1E6, 0x1F1FF, 1),
    (0x1F201, 0x1F202, 1), (0x1F210, 0x1F23B, 1), (0x1F240, 0x1F248, 1), (0x1F250, 0x1F251, 1),
    (0x1F260, 0x1F265, 1), (0x1F300, 0x1F6D8, 1), (0x1F6DC, 0x1F6EC, 1), (0x1F6F0, 0x1F6FC, 1),
    (0x1F700, 0x1F7D9, 1), (0x1F7E0, 0x1F7EB, 1), (0x1F7F0, 0x1F7F0, 1), (0x1F800, 0x1F80B, 1),
    (0x1F810, 0x1F847, 1), (0x1F850, 0x1F859, 1), (0x1F860, 0x1F887, 1), (0x1F890, 0x1F8AD, 1),
    (0x1F8B0, 0x1F8BB, 1), (0x1F8C0, 0x1F8C1, 1), (0x1F8D0, 0x1F8D8, 1), (0x1F900, 0x1FA57, 1),
    (0x1FA60, 0x1FA6D, 1), (0x1FA70, 0x1FA7C, 1), (0x1FA80, 0x1FA8A, 1), (0x1FA8E, 0x1FAC6, 1),
    (0x1FAC8, 0x1FAC8, 1), (0x1FACD, 0x1FADC, 1), (0x1FADF, 0x1FAEA, 1), (0x1FAEF, 0x1FAF8, 1),
    (0x1FB00, 0x1FB92, 1), (0x1FB94, 0x1FBFA, 1), (0xE0001, 0xE0001, 1), (0xE0020, 0xE007F, 1)])]

/-- The scripts: their names, and the code points that belong to one script alone. -/
def scripts : List (List String × CodeRuns) :=
  scriptsThroughD ++ scriptsThroughK ++ scriptsThroughM ++ scriptsThroughR ++ scriptsThroughS ++
    scriptsThroughZ

end UdsCatalog.Text
