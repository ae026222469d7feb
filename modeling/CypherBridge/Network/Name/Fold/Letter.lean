/-!
# Letters folded one by one

Letters, digits and signs that are another character in small, plain or common form. A row holds
the first of the replaced characters, and what it and its followers are replaced by.
-/

namespace CypherBridge.Network

def letterRows : List (Nat × String) := [
  (0xA0, " "), (0xAA, "a"), (0xB2, "23"), (0xB5, "μ"), (0xB9, "1o"), (0x178, "ÿ"), (0x17F, "s"),
  (0x181, "ɓ"), (0x186, "ɔƈ"), (0x189, "ɖɗƌ"), (0x18E, "ǝəɛƒ"), (0x193, "ɠɣ"), (0x196, "ɩɨƙ"),
  (0x19C, "ɯɲ"), (0x19F, "ɵ"), (0x1A6, "ʀƨ"), (0x1A9, "ʃ"), (0x1AC, "ƭ"), (0x1AE, "ʈư"),
  (0x1B1, "ʊʋ"), (0x1B7, "ʒƹ"), (0x1BC, "ƽ"), (0x1F4, "ǵ"), (0x1F6, "ƕƿ"), (0x220, "ƞ"),
  (0x23A, "ⱥȼ"), (0x23D, "ƚⱦ"), (0x241, "ɂ"), (0x243, "ƀʉʌ"), (0x2B0, "hɦjrɹɻʁwy"),
  (0x2E0, "ɣlsxʕ"), (0x340, "\u0300\u0301"), (0x343, "\u0313"), (0x345, "ι"), (0x374, "ʹ"),
  (0x376, "ͷ"), (0x37E, ";ϳ"), (0x386, "ά·"), (0x38C, "ό"), (0x38E, "ύώ"), (0x3CF, "ϗβθυύϋφπ"),
  (0x3F0, "κρσ"), (0x3F4, "θε"), (0x3F7, "ϸ"), (0x3F9, "σϻ"), (0x4C0, "ӏ"), (0xF0C, "་"),
  (0x10C7, "ⴧ"), (0x10CD, "ⴭ"), (0x10FC, "ნ"), (0x1C80, "вдос"), (0x1C86, "ъѣꙋᲊ"),
  (0x1D2C, "aæb"), (0x1D30, "deǝ"), (0x1D3C, "oȣprtuwaɐɑᴂbdeəɛɜg"), (0x1D4F, "kmŋoɔᴖᴗptuᴝɯvᴥ"),
  (0x1D60, "φχiruvβγρφχ"), (0x1D78, "н"), (0x1D9B, "ɒcɕðɜfɟɡɥ"), (0x1DA7, "ᵻʝɭᶅʟɱɰ"),
  (0x1DB2, "ɸʂʃƫʉʊᴜʋʌz"), (0x1DBF, "θ"), (0x1E9B, "ṡ"), (0x1E9E, "ß"), (0x1F59, "ὑ"),
  (0x1F5B, "ὓ"), (0x1F5D, "ὕ"), (0x1F5F, "ὗ"), (0x1F71, "ά"), (0x1F73, "έ"), (0x1F75, "ή"),
  (0x1F77, "ί"), (0x1F79, "ό"), (0x1F7B, "ύ"), (0x1F7D, "ώ"), (0x1FB8, "ᾰᾱὰά"), (0x1FBE, "ι"),
  (0x1FC8, "ὲέὴή"), (0x1FD3, "ΐ"), (0x1FD8, "ῐῑὶί"), (0x1FE3, "ΰ"), (0x1FE8, "ῠῡὺύῥ"),
  (0x1FEF, "`"), (0x1FF8, "ὸόὼώ"), (0x2011, "‐"), (0x202F, " "), (0x205F, " "), (0x2070, "0i"),
  (0x207A, "+−=()n"), (0x208A, "+−=()"), (0x2090, "aeoxəh"), (0x209A, "pst"), (0x2102, "c"),
  (0x2107, "ɛ"), (0x210A, "g"), (0x210F, "ħ"), (0x2115, "n"), (0x2124, "z"), (0x2126, "ω"),
  (0x2128, "z"), (0x212A, "kåbc"), (0x2131, "fⅎmo"), (0x2139, "i"), (0x213C, "π"), (0x213F, "π∑"),
  (0x2147, "eij"), (0x2160, "i"), (0x2164, "v"), (0x2169, "x"), (0x216C, "lcdmi"), (0x2174, "v"),
  (0x2179, "x"), (0x217C, "lcdm"), (0x2183, "ↄ"), (0x2329, "〈〉"), (0x24EA, "0"), (0x2C60, "ⱡ"),
  (0x2C62, "ɫᵽɽ"), (0x2C6D, "ɑɱɐɒ"), (0x2C72, "ⱳ"), (0x2C75, "ⱶ"), (0x2C7C, "jvȿɀ"),
  (0x2CF2, "ⳳ"), (0x2D6F, "ⵡ"), (0x3000, " "), (0x3002, "."), (0x3036, "〒"),
  (0x3131, "ᄀᄁᆪᄂᆬᆭ"), (0x3140, "ᄚ"), (0x3144, "ᄡ"), (0x3165, "ᄔᄕᇇᇈᇌᇎᇓᇗᇙᄜᇝᇟᄝᄞᄠᄢᄣᄧᄩ"),
  (0x317D, "ᄲᄶᅀᅇᅌᇱᇲ"), (0x3187, "ᆄᆅᆈᆑᆒᆔᆞᆡ"), (0x3260, "ᄀᄂᄃ"), (0x3266, "ᄉᄋᄌ"),
  (0x326E, "가나다라마바사아자차카타파하"), (0x327E, "우"),
  (0x32D0, "アイウエオカキクケコサシスセソタチツテト"), (0x32EA, "ヒフヘホ"), (0x32F3, "ヤユ"),
  (0xA69C, "ъь"), (0xA770, "ꝯ"), (0xA77D, "ᵹ"), (0xA78B, "ꞌ"), (0xA78D, "ɥ"), (0xA7AA, "ɦɜɡɬɪ"),
  (0xA7B0, "ʞʇʝꭓ"), (0xA7C4, "ꞔʂᶎ"), (0xA7CB, "ɤ"), (0xA7DC, "ƛ"), (0xA7F1, "scfqꟶ"),
  (0xA7F8, "ħœ"), (0xAB5C, "ꜧꬷɫꭒ"), (0xAB69, "ʍ"), (0xFB20, "\u05e2\u05d0\u05d3\u05d4"),
  (0xFB27, "\u05e8\u05ea+"), (0xFE10, ",、"), (0xFE13, ":;!?〖〗"), (0xFE31, "—–"),
  (0xFE35, "()\x7b\x7d〔〕【】《》〈〉"), (0xFE47, "[]"), (0xFE50, ",、"),
  (0xFE54, ";:?!—()\x7b\x7d〔〕#&*+-<>="), (0xFE68, "\\$%@"), (0xFE80, "\u0621"),
  (0xFF5F, "⦅⦆.「」、・ヲァィゥェォャュョッーアイウエオカキクケコサシスセソタチツテト"),
  (0xFF8B, "ヒフヘホ"), (0xFF94, "ヤユ"), (0xFF9C, "ワン\u3099\u309a"), (0xFFA1, "ᄀᄁᆪᄂᆬᆭ"),
  (0xFFB0, "ᄚ"), (0xFFB4, "ᄡ"), (0xFFE0, "¢£¬"), (0xFFE4, "¦¥₩"), (0xFFE8, "│"), (0xFFED, "■○"),
  (0x10594, "𐖻𐖼"), (0x10781, "ːˑæʙɓ"), (0x10787, "ʣꭦʥʤɖɗᶑɘɞʩɤɢɠʛħʜɧʄʪʫɬ𝼄ꞎɮ𝼅ʎ𝼆øɶɷqɺ𝼈ɽɾʀʨʦꭧʧ"),
  (0x107AF, "ʈⱱ"), (0x107B2, "ʏʡʢʘ"), (0x107B9, "𝼊𝼞"), (0x1D49C, "a"), (0x1D49E, "cd"),
  (0x1D4A2, "g"), (0x1D4A5, "jk"), (0x1D4BB, "f"), (0x1D504, "ab"), (0x1D538, "ab"),
  (0x1D546, "o"), (0x1D6A4, "ıȷ"), (0x1D6B9, "θ"), (0x1D6C1, "∇"), (0x1D6DB, "∂εθκφρπ"),
  (0x1D6F3, "θ"), (0x1D6FB, "∇"), (0x1D715, "∂εθκφρπ"), (0x1D72D, "θ"), (0x1D735, "∇"),
  (0x1D74F, "∂εθκφρπ"), (0x1D767, "θ"), (0x1D76F, "∇"), (0x1D789, "∂εθκφρπ"), (0x1D7A1, "θ"),
  (0x1D7A9, "∇"), (0x1D7C3, "∂εθκφρπ"), (0x1E047, "ыэюꚉәіјөүӏ"), (0x1E05A, "клопс"),
  (0x1E065, "ъыґіѕџҫꙑұ"), (0x1EE00, "\u0627\u0628\u062c\u062f"),
  (0x1EE05, "\u0648\u0632\u062d\u0637\u064a"),
  (0x1EE0E, "\u0633\u0639\u0641\u0635\u0642\u0631\u0634\u062a\u062b\u062e\u0630\u0636"),
  (0x1EE1A, "\u0638\u063a\u066e\u06ba\u06a1\u066f"), (0x1EE21, "\u0628\u062c"),
  (0x1EE24, "\u0647"), (0x1EE27, "\u062d"), (0x1EE29, "\u064a"),
  (0x1EE2E, "\u0633\u0639\u0641\u0635\u0642"), (0x1EE34, "\u0634\u062a\u062b\u062e"),
  (0x1EE39, "\u0636"), (0x1EE3B, "\u063a"), (0x1EE42, "\u062c"), (0x1EE47, "\u062d"),
  (0x1EE49, "\u064a"), (0x1EE4B, "\u0644"), (0x1EE4D, "\u0646\u0633\u0639"),
  (0x1EE51, "\u0635\u0642"), (0x1EE54, "\u0634"), (0x1EE57, "\u062e"), (0x1EE59, "\u0636"),
  (0x1EE5B, "\u063a"), (0x1EE5D, "\u06ba"), (0x1EE5F, "\u066f"), (0x1EE61, "\u0628\u062c"),
  (0x1EE64, "\u0647"), (0x1EE67, "\u062d\u0637\u064a\u0643"),
  (0x1EE6C, "\u0645\u0646\u0633\u0639\u0641\u0635\u0642"), (0x1EE74, "\u0634\u062a\u062b\u062e"),
  (0x1EE79, "\u0636\u0638\u063a\u066e"), (0x1EE7E, "\u06a1"),
  (0x1EE80, "\u0627\u0628\u062c\u062f\u0647\u0648\u0632\u062d\u0637\u064a"),
  (0x1EE8E, "\u0633\u0639\u0641\u0635\u0642\u0631\u0634\u062a\u062b\u062e\u0630\u0636\u0638\u063a"),
  (0x1EEA1, "\u0628\u062c\u062f"), (0x1EEA5, "\u0648\u0632\u062d\u0637\u064a"),
  (0x1EEAE, "\u0633\u0639\u0641\u0635\u0642\u0631\u0634\u062a\u062b\u062e\u0630\u0636\u0638\u063a"),
  (0x1F12B, "cr"), (0x1F202, "サ"), (0x1F213, "デ")]

end CypherBridge.Network
