/-!
# Letters folded range by range

Capital letters and the like whose replacements lie as they do: ranges that are moved as a whole,
ranges in which each second letter is a capital in front of its small letter, and ranges whose
characters are all replaced by one.
-/

namespace CypherBridge.Network

def movedRanges : List (Nat × Nat × Nat) := [
  (0xC0, 0xD6, 0xE0), (0xD8, 0xDE, 0xF8), (0x388, 0x38A, 0x3AD),
  (0x391, 0x3A1, 0x3B1), (0x3A3, 0x3AB, 0x3C3), (0x3FD, 0x3FF, 0x37B), (0x400, 0x40F, 0x450),
  (0x410, 0x42F, 0x430), (0x531, 0x556, 0x561), (0x10A0, 0x10C5, 0x2D00),
  (0x13F8, 0x13FD, 0x13F0), (0x1C90, 0x1CBA, 0x10D0), (0x1CBD, 0x1CBF, 0x10FD),
  (0x1D33, 0x1D3A, 0x67), (0x1D5D, 0x1D5F, 0x3B2), (0x1DA4, 0x1DA6, 0x268),
  (0x1DAE, 0x1DB1, 0x272), (0x1DBC, 0x1DBE, 0x290), (0x1F08, 0x1F0F, 0x1F00),
  (0x1F18, 0x1F1D, 0x1F10), (0x1F28, 0x1F2F, 0x1F20), (0x1F38, 0x1F3F, 0x1F30),
  (0x1F48, 0x1F4D, 0x1F40), (0x1F68, 0x1F6F, 0x1F60), (0x2074, 0x2079, 0x34),
  (0x2080, 0x2089, 0x30), (0x2096, 0x2099, 0x6B), (0x2119, 0x211B, 0x70), (0x2135, 0x2138, 0x5D0),
  (0x2460, 0x2468, 0x31), (0x24B6, 0x24CF, 0x61), (0x24D0, 0x24E9, 0x61),
  (0x2C00, 0x2C2F, 0x2C30), (0x3137, 0x3139, 0x1103), (0x313A, 0x313F, 0x11B0),
  (0x3141, 0x3143, 0x1106), (0x3145, 0x314E, 0x1109), (0x314F, 0x3163, 0x1161),
  (0x3178, 0x317C, 0x112B), (0x3184, 0x3186, 0x1157), (0x3263, 0x3265, 0x1105),
  (0x3269, 0x326D, 0x110E), (0x32E4, 0x32E9, 0x30CA), (0x32EE, 0x32F2, 0x30DE),
  (0x32F5, 0x32FA, 0x30E8), (0x32FB, 0x32FE, 0x30EF), (0xAB70, 0xABBF, 0x13A0),
  (0xFB24, 0xFB26, 0x5DB), (0xFE41, 0xFE44, 0x300C), (0xFF01, 0xFF20, 0x21),
  (0xFF21, 0xFF3A, 0x61), (0xFF3B, 0xFF5E, 0x5B), (0xFF85, 0xFF8A, 0x30CA),
  (0xFF8F, 0xFF93, 0x30DE), (0xFF96, 0xFF9B, 0x30E8), (0xFFA7, 0xFFA9, 0x1103),
  (0xFFAA, 0xFFAF, 0x11B0), (0xFFB1, 0xFFB3, 0x1106), (0xFFB5, 0xFFBE, 0x1109),
  (0xFFC2, 0xFFC7, 0x1161), (0xFFCA, 0xFFCF, 0x1167), (0xFFD2, 0xFFD7, 0x116D),
  (0xFFDA, 0xFFDC, 0x1173), (0xFFE9, 0xFFEC, 0x2190), (0x10400, 0x10427, 0x10428),
  (0x104B0, 0x104D3, 0x104D8), (0x10570, 0x1057A, 0x10597), (0x1057C, 0x1058A, 0x105A3),
  (0x1058C, 0x10592, 0x105B3), (0x107B6, 0x107B8, 0x1C0), (0x10C80, 0x10CB2, 0x10CC0),
  (0x10D50, 0x10D65, 0x10D70), (0x118A0, 0x118BF, 0x118C0), (0x16E40, 0x16E5F, 0x16E60),
  (0x16EA0, 0x16EB8, 0x16EBB), (0x1CCD6, 0x1CCEF, 0x61), (0x1CCF0, 0x1CCF9, 0x30),
  (0x1D400, 0x1D419, 0x61), (0x1D41A, 0x1D433, 0x61), (0x1D434, 0x1D44D, 0x61),
  (0x1D44E, 0x1D454, 0x61), (0x1D456, 0x1D467, 0x69), (0x1D468, 0x1D481, 0x61),
  (0x1D482, 0x1D49B, 0x61), (0x1D4A9, 0x1D4AC, 0x6E), (0x1D4AE, 0x1D4B5, 0x73),
  (0x1D4B6, 0x1D4B9, 0x61), (0x1D4BD, 0x1D4C3, 0x68), (0x1D4C5, 0x1D4CF, 0x70),
  (0x1D4D0, 0x1D4E9, 0x61), (0x1D4EA, 0x1D503, 0x61), (0x1D507, 0x1D50A, 0x64),
  (0x1D50D, 0x1D514, 0x6A), (0x1D516, 0x1D51C, 0x73), (0x1D51E, 0x1D537, 0x61),
  (0x1D53B, 0x1D53E, 0x64), (0x1D540, 0x1D544, 0x69), (0x1D54A, 0x1D550, 0x73),
  (0x1D552, 0x1D56B, 0x61), (0x1D56C, 0x1D585, 0x61), (0x1D586, 0x1D59F, 0x61),
  (0x1D5A0, 0x1D5B9, 0x61), (0x1D5BA, 0x1D5D3, 0x61), (0x1D5D4, 0x1D5ED, 0x61),
  (0x1D5EE, 0x1D607, 0x61), (0x1D608, 0x1D621, 0x61), (0x1D622, 0x1D63B, 0x61),
  (0x1D63C, 0x1D655, 0x61), (0x1D656, 0x1D66F, 0x61), (0x1D670, 0x1D689, 0x61),
  (0x1D68A, 0x1D6A3, 0x61), (0x1D6A8, 0x1D6B8, 0x3B1), (0x1D6BA, 0x1D6C0, 0x3C3),
  (0x1D6C2, 0x1D6D2, 0x3B1), (0x1D6D5, 0x1D6DA, 0x3C4), (0x1D6E2, 0x1D6F2, 0x3B1),
  (0x1D6F4, 0x1D6FA, 0x3C3), (0x1D6FC, 0x1D70C, 0x3B1), (0x1D70F, 0x1D714, 0x3C4),
  (0x1D71C, 0x1D72C, 0x3B1), (0x1D72E, 0x1D734, 0x3C3), (0x1D736, 0x1D746, 0x3B1),
  (0x1D749, 0x1D74E, 0x3C4), (0x1D756, 0x1D766, 0x3B1), (0x1D768, 0x1D76E, 0x3C3),
  (0x1D770, 0x1D780, 0x3B1), (0x1D783, 0x1D788, 0x3C4), (0x1D790, 0x1D7A0, 0x3B1),
  (0x1D7A2, 0x1D7A8, 0x3C3), (0x1D7AA, 0x1D7BA, 0x3B1), (0x1D7BD, 0x1D7C2, 0x3C4),
  (0x1D7CE, 0x1D7D7, 0x30), (0x1D7D8, 0x1D7E1, 0x30), (0x1D7E2, 0x1D7EB, 0x30),
  (0x1D7EC, 0x1D7F5, 0x30), (0x1D7F6, 0x1D7FF, 0x30), (0x1E030, 0x1E038, 0x430),
  (0x1E039, 0x1E03B, 0x43A), (0x1E03C, 0x1E046, 0x43E), (0x1E051, 0x1E059, 0x430),
  (0x1E05F, 0x1E064, 0x443), (0x1E900, 0x1E921, 0x1E922), (0x1EE0A, 0x1EE0D, 0x643),
  (0x1EE2A, 0x1EE2D, 0x643), (0x1EE8B, 0x1EE8D, 0x644), (0x1EEAB, 0x1EEAD, 0x644),
  (0x1F130, 0x1F149, 0x61), (0x1FBF0, 0x1FBF9, 0x30)]

def alternatingRanges : List (Nat × Nat) := [
  (0x100, 0x12E), (0x134, 0x136), (0x139, 0x13D), (0x141, 0x147), (0x14A, 0x176), (0x179, 0x17D),
  (0x182, 0x184), (0x1A0, 0x1A4), (0x1B3, 0x1B5), (0x1CD, 0x1DB), (0x1DE, 0x1EE), (0x1F8, 0x21E),
  (0x222, 0x232), (0x246, 0x24E), (0x370, 0x372), (0x3D8, 0x3EE), (0x460, 0x480), (0x48A, 0x4BE),
  (0x4C1, 0x4CD), (0x4D0, 0x52E), (0x1E00, 0x1E94), (0x1EA0, 0x1EFE), (0x2C67, 0x2C6B),
  (0x2C80, 0x2CE2), (0x2CEB, 0x2CED), (0xA640, 0xA66C), (0xA680, 0xA69A), (0xA722, 0xA72E),
  (0xA732, 0xA76E), (0xA779, 0xA77B), (0xA77E, 0xA786), (0xA790, 0xA792), (0xA796, 0xA7A8),
  (0xA7B4, 0xA7C2), (0xA7C7, 0xA7C9), (0xA7CC, 0xA7DA)]

/-- First, last, and what each of them is replaced by. -/
def gatheredRanges : List (Nat × Nat × Nat) := [
  (0x1C84, 0x1C85, 0x442), (0x2000, 0x200A, 0x20), (0x210B, 0x210E, 0x68), (0x2110, 0x2111, 0x69),
  (0x2112, 0x2113, 0x6C), (0x211C, 0x211D, 0x72), (0x212F, 0x2130, 0x65), (0x213D, 0x213E, 0x3B3),
  (0x2145, 0x2146, 0x64), (0xF907, 0xF908, 0x9F9C), (0xFA5D, 0xFA5E, 0x8279),
  (0xFB50, 0xFB51, 0x671), (0xFB52, 0xFB55, 0x67B), (0xFB56, 0xFB59, 0x67E),
  (0xFB5A, 0xFB5D, 0x680), (0xFB5E, 0xFB61, 0x67A), (0xFB62, 0xFB65, 0x67F),
  (0xFB66, 0xFB69, 0x679), (0xFB6A, 0xFB6D, 0x6A4), (0xFB6E, 0xFB71, 0x6A6),
  (0xFB72, 0xFB75, 0x684), (0xFB76, 0xFB79, 0x683), (0xFB7A, 0xFB7D, 0x686),
  (0xFB7E, 0xFB81, 0x687), (0xFB82, 0xFB83, 0x68D), (0xFB84, 0xFB85, 0x68C),
  (0xFB86, 0xFB87, 0x68E), (0xFB88, 0xFB89, 0x688), (0xFB8A, 0xFB8B, 0x698),
  (0xFB8C, 0xFB8D, 0x691), (0xFB8E, 0xFB91, 0x6A9), (0xFB92, 0xFB95, 0x6AF),
  (0xFB96, 0xFB99, 0x6B3), (0xFB9A, 0xFB9D, 0x6B1), (0xFB9E, 0xFB9F, 0x6BA),
  (0xFBA0, 0xFBA3, 0x6BB), (0xFBA4, 0xFBA5, 0x6C0), (0xFBA6, 0xFBA9, 0x6C1),
  (0xFBAA, 0xFBAD, 0x6BE), (0xFBAE, 0xFBAF, 0x6D2), (0xFBB0, 0xFBB1, 0x6D3),
  (0xFBD3, 0xFBD6, 0x6AD), (0xFBD7, 0xFBD8, 0x6C7), (0xFBD9, 0xFBDA, 0x6C6),
  (0xFBDB, 0xFBDC, 0x6C8), (0xFBDE, 0xFBDF, 0x6CB), (0xFBE0, 0xFBE1, 0x6C5),
  (0xFBE2, 0xFBE3, 0x6C9), (0xFBE4, 0xFBE7, 0x6D0), (0xFBE8, 0xFBE9, 0x649),
  (0xFBFC, 0xFBFF, 0x6CC), (0xFE33, 0xFE34, 0x5F), (0xFE4D, 0xFE4F, 0x5F),
  (0xFE81, 0xFE82, 0x622), (0xFE83, 0xFE84, 0x623), (0xFE85, 0xFE86, 0x624),
  (0xFE87, 0xFE88, 0x625), (0xFE89, 0xFE8C, 0x626), (0xFE8D, 0xFE8E, 0x627),
  (0xFE8F, 0xFE92, 0x628), (0xFE93, 0xFE94, 0x629), (0xFE95, 0xFE98, 0x62A),
  (0xFE99, 0xFE9C, 0x62B), (0xFE9D, 0xFEA0, 0x62C), (0xFEA1, 0xFEA4, 0x62D),
  (0xFEA5, 0xFEA8, 0x62E), (0xFEA9, 0xFEAA, 0x62F), (0xFEAB, 0xFEAC, 0x630),
  (0xFEAD, 0xFEAE, 0x631), (0xFEAF, 0xFEB0, 0x632), (0xFEB1, 0xFEB4, 0x633),
  (0xFEB5, 0xFEB8, 0x634), (0xFEB9, 0xFEBC, 0x635), (0xFEBD, 0xFEC0, 0x636),
  (0xFEC1, 0xFEC4, 0x637), (0xFEC5, 0xFEC8, 0x638), (0xFEC9, 0xFECC, 0x639),
  (0xFECD, 0xFED0, 0x63A), (0xFED1, 0xFED4, 0x641), (0xFED5, 0xFED8, 0x642),
  (0xFED9, 0xFEDC, 0x643), (0xFEDD, 0xFEE0, 0x644), (0xFEE1, 0xFEE4, 0x645),
  (0xFEE5, 0xFEE8, 0x646), (0xFEE9, 0xFEEC, 0x647), (0xFEED, 0xFEEE, 0x648),
  (0xFEEF, 0xFEF0, 0x649), (0xFEF1, 0xFEF4, 0x64A), (0x1D6D3, 0x1D6D4, 0x3C3),
  (0x1D70D, 0x1D70E, 0x3C3), (0x1D747, 0x1D748, 0x3C3), (0x1D781, 0x1D782, 0x3C3),
  (0x1D7BB, 0x1D7BC, 0x3C3), (0x1D7CA, 0x1D7CB, 0x3DD), (0x2F831, 0x2F833, 0x537F),
  (0x2F845, 0x2F846, 0x5584), (0x2F86A, 0x2F86B, 0x5B3E), (0x2F891, 0x2F892, 0x22331),
  (0x2F894, 0x2F895, 0x5F22), (0x2F92C, 0x2F92D, 0x3EB8), (0x2F946, 0x2F947, 0x771F),
  (0x2F95D, 0x2F95E, 0x25AA7), (0x2F9FE, 0x2F9FF, 0x980B)]

end CypherBridge.Network
