/-!
# Characters that are spelled out

Ligatures, fractions, enclosed and squared signs that are several characters. A row holds the
first of the replaced characters, and what it and its followers are replaced by.
-/

namespace CypherBridge.Network

def spellingRows : List (Nat × List String) := [
  (0xA8, [" \u0308"]), (0xAF, [" \u0304"]), (0xB4, [" \u0301"]), (0xB8, [" \u0327"]),
  (0xBC, ["1⁄4", "1⁄2", "3⁄4"]), (0x130, ["i\u0307"]), (0x132, ["ij", "ij"]),
  (0x13F, ["l·", "l·"]), (0x149, ["ʼn"]),
  (0x1C4, ["dž", "dž", "dž", "lj", "lj", "lj", "nj", "nj"]), (0x1CC, ["nj"]),
  (0x1F1, ["dz", "dz", "dz"]),
  (0x2D8, [" \u0306", " \u0307", " \u030a", " \u0328", " \u0303", " \u030b"]),
  (0x344, ["\u0308\u0301"]), (0x37A, [" ι"]), (0x384, [" \u0301", " \u0308\u0301"]),
  (0x587, ["եւ"]),
  (0x958, ["क\u093c", "ख\u093c", "ग\u093c", "ज\u093c", "ड\u093c", "ढ\u093c", "फ\u093c",
    "य\u093c"]),
  (0x9DC, ["ড\u09bc", "ঢ\u09bc"]), (0x9DF, ["য\u09bc"]), (0xA33, ["ਲ\u0a3c"]),
  (0xA36, ["ਸ\u0a3c"]), (0xA59, ["ਖ\u0a3c", "ਗ\u0a3c", "ਜ\u0a3c"]), (0xA5E, ["ਫ\u0a3c"]),
  (0xB5C, ["ଡ\u0b3c", "ଢ\u0b3c"]), (0xE33, ["\u0e4dา"]), (0xEB3, ["\u0ecdາ"]),
  (0xEDC, ["ຫນ", "ຫມ"]), (0xF43, ["ག\u0fb7"]), (0xF4D, ["ཌ\u0fb7"]), (0xF52, ["ད\u0fb7"]),
  (0xF57, ["བ\u0fb7"]), (0xF5C, ["ཛ\u0fb7"]), (0xF69, ["ཀ\u0fb5"]), (0xF73, ["\u0f71\u0f72"]),
  (0xF75, ["\u0f71\u0f74", "\u0fb2\u0f80", "\u0fb2\u0f71\u0f80", "\u0fb3\u0f80",
    "\u0fb3\u0f71\u0f80"]),
  (0xF81, ["\u0f71\u0f80"]), (0xF93, ["\u0f92\u0fb7"]), (0xF9D, ["\u0f9c\u0fb7"]),
  (0xFA2, ["\u0fa1\u0fb7"]), (0xFA7, ["\u0fa6\u0fb7"]), (0xFAC, ["\u0fab\u0fb7"]),
  (0xFB9, ["\u0f90\u0fb5"]), (0x1E9A, ["aʾ"]),
  (0x1F80, ["ἀι", "ἁι", "ἂι", "ἃι", "ἄι", "ἅι", "ἆι", "ἇι"]),
  (0x1F88, ["ἀι", "ἁι", "ἂι", "ἃι", "ἄι", "ἅι", "ἆι", "ἇι"]),
  (0x1F90, ["ἠι", "ἡι", "ἢι", "ἣι", "ἤι", "ἥι", "ἦι", "ἧι"]),
  (0x1F98, ["ἠι", "ἡι", "ἢι", "ἣι", "ἤι", "ἥι", "ἦι", "ἧι"]),
  (0x1FA0, ["ὠι", "ὡι", "ὢι", "ὣι", "ὤι", "ὥι", "ὦι", "ὧι"]),
  (0x1FA8, ["ὠι", "ὡι", "ὢι", "ὣι", "ὤι", "ὥι", "ὦι", "ὧι"]), (0x1FB2, ["ὰι", "αι", "άι"]),
  (0x1FB7, ["ᾶι"]), (0x1FBC, ["αι", " \u0313"]),
  (0x1FBF, [" \u0313", " \u0342", " \u0308\u0342", "ὴι", "ηι", "ήι"]), (0x1FC7, ["ῆι"]),
  (0x1FCC, ["ηι", " \u0313\u0300", " \u0313\u0301", " \u0313\u0342"]),
  (0x1FDD, [" \u0314\u0300", " \u0314\u0301", " \u0314\u0342"]),
  (0x1FED, [" \u0308\u0300", " \u0308\u0301"]), (0x1FF2, ["ὼι", "ωι", "ώι"]), (0x1FF7, ["ῶι"]),
  (0x1FFC, ["ωι", " \u0301", " \u0314"]), (0x2017, [" \u0333"]), (0x2033, ["′′", "′′′"]),
  (0x2036, ["‵‵", "‵‵‵"]), (0x203C, ["!!"]), (0x203E, [" \u0305"]), (0x2047, ["??", "?!", "!?"]),
  (0x2057, ["′′′′"]), (0x20A8, ["rs"]), (0x2100, ["a/c", "a/s"]), (0x2103, ["°c"]),
  (0x2105, ["c/o", "c/u"]), (0x2109, ["°f"]), (0x2116, ["no"]), (0x2120, ["sm", "tel", "tm"]),
  (0x213B, ["fax"]), (0x2150, ["1⁄7", "1⁄9", "1⁄10", "1⁄3", "2⁄3", "1⁄5", "2⁄5", "3⁄5"]),
  (0x2158, ["4⁄5", "1⁄6", "5⁄6", "1⁄8", "3⁄8", "5⁄8", "7⁄8", "1⁄"]),
  (0x2161, ["ii", "iii", "iv"]), (0x2165, ["vi", "vii", "viii", "ix"]), (0x216A, ["xi", "xii"]),
  (0x2171, ["ii", "iii", "iv"]), (0x2175, ["vi", "vii", "viii", "ix"]), (0x217A, ["xi", "xii"]),
  (0x2189, ["0⁄3"]), (0x222C, ["∫∫", "∫∫∫"]), (0x222F, ["∮∮", "∮∮∮"]),
  (0x2469, ["10", "11", "12", "13", "14", "15", "16", "17"]),
  (0x2471, ["18", "19", "20", "(1)", "(2)", "(3)", "(4)", "(5)"]),
  (0x2479, ["(6)", "(7)", "(8)", "(9)", "(10)", "(11)", "(12)", "(13)"]),
  (0x2481, ["(14)", "(15)", "(16)", "(17)", "(18)", "(19)", "(20)"]),
  (0x249C, ["(a)", "(b)", "(c)", "(d)", "(e)", "(f)", "(g)", "(h)"]),
  (0x24A4, ["(i)", "(j)", "(k)", "(l)", "(m)", "(n)", "(o)", "(p)"]),
  (0x24AC, ["(q)", "(r)", "(s)", "(t)", "(u)", "(v)", "(w)", "(x)"]), (0x24B4, ["(y)", "(z)"]),
  (0x2A0C, ["∫∫∫∫"]), (0x2A74, ["::=", "==", "==="]), (0x2ADC, ["⫝\u0338"]),
  (0x309B, [" \u3099", " \u309a"]), (0x309F, ["より"]), (0x30FF, ["コト"]),
  (0x3200, ["(ᄀ)", "(ᄂ)", "(ᄃ)", "(ᄅ)", "(ᄆ)", "(ᄇ)", "(ᄉ)", "(ᄋ)"]),
  (0x3208, ["(ᄌ)", "(ᄎ)", "(ᄏ)", "(ᄐ)", "(ᄑ)", "(ᄒ)", "(가)", "(나)"]),
  (0x3210, ["(다)", "(라)", "(마)", "(바)", "(사)", "(아)", "(자)", "(차)"]),
  (0x3218, ["(카)", "(타)", "(파)", "(하)", "(주)", "(오전)", "(오후)"]),
  (0x3220, ["(一)", "(二)", "(三)", "(四)", "(五)", "(六)", "(七)", "(八)"]),
  (0x3228, ["(九)", "(十)", "(月)", "(火)", "(水)", "(木)", "(金)", "(土)"]),
  (0x3230, ["(日)", "(株)", "(有)", "(社)", "(名)", "(特)", "(財)", "(祝)"]),
  (0x3238, ["(労)", "(代)", "(呼)", "(学)", "(監)", "(企)", "(資)", "(協)"]),
  (0x3240, ["(祭)", "(休)", "(自)", "(至)"]),
  (0x3250, ["pte", "21", "22", "23", "24", "25", "26", "27"]),
  (0x3258, ["28", "29", "30", "31", "32", "33", "34", "35"]), (0x327C, ["참고", "주의"]),
  (0x32B1, ["36", "37", "38", "39", "40", "41", "42", "43"]),
  (0x32B9, ["44", "45", "46", "47", "48", "49", "50", "1月"]),
  (0x32C1, ["2月", "3月", "4月", "5月", "6月", "7月", "8月", "9月"]),
  (0x32C9, ["10月", "11月", "12月", "hg", "erg", "ev", "ltd"]),
  (0x32FF, ["令和", "アパート", "アルファ", "アンペア", "アール", "イニング", "インチ", "ウォン"]),
  (0x3307, ["エスクード", "エーカー", "オンス", "オーム", "カイリ", "カラット", "カロリー", "ガロン"]),
  (0x330F, ["ガンマ", "ギガ", "ギニー", "キュリー", "ギルダー", "キロ", "キログラム", "キロメートル"]),
  (0x3317, ["キロワット", "グラム", "グラムトン", "クルゼイロ", "クローネ", "ケース", "コルナ", "コーポ"]),
  (0x331F, ["サイクル", "サンチーム", "シリング", "センチ", "セント", "ダース", "デシ", "ドル"]),
  (0x3327, ["トン", "ナノ", "ノット", "ハイツ", "パーセント", "パーツ", "バーレル", "ピアストル"]),
  (0x332F, ["ピクル", "ピコ", "ビル", "ファラッド", "フィート", "ブッシェル", "フラン", "ヘクタール"]),
  (0x3337, ["ペソ", "ペニヒ", "ヘルツ", "ペンス", "ページ", "ベータ", "ポイント", "ボルト"]),
  (0x333F, ["ホン", "ポンド", "ホール", "ホーン", "マイクロ", "マイル", "マッハ", "マルク"]),
  (0x3347, ["マンション", "ミクロン", "ミリ", "ミリバール", "メガ", "メガトン", "メートル", "ヤード"]),
  (0x334F, ["ヤール", "ユアン", "リットル", "リラ", "ルピー", "ルーブル", "レム", "レントゲン"]),
  (0x3357, ["ワット", "0点", "1点", "2点", "3点", "4点", "5点", "6点"]),
  (0x335F, ["7点", "8点", "9点", "10点", "11点", "12点", "13点", "14点"]),
  (0x3367, ["15点", "16点", "17点", "18点", "19点", "20点", "21点", "22点"]),
  (0x336F, ["23点", "24点", "hpa", "da", "au", "bar", "ov", "pc"]),
  (0x3377, ["dm", "dm2", "dm3", "iu", "平成", "昭和", "大正", "明治"]),
  (0x337F, ["株式会社", "pa", "na", "μa", "ma", "ka", "kb", "mb"]),
  (0x3387, ["gb", "cal", "kcal", "pf", "nf", "μf", "μg", "mg"]),
  (0x338F, ["kg", "hz", "khz", "mhz", "ghz", "thz", "μl", "ml"]),
  (0x3397, ["dl", "kl", "fm", "nm", "μm", "mm", "cm", "km"]),
  (0x339F, ["mm2", "cm2", "m2", "km2", "mm3", "cm3", "m3", "km3"]),
  (0x33A7, ["m∕s", "m∕s2", "pa", "kpa", "mpa", "gpa", "rad", "rad∕s"]),
  (0x33AF, ["rad∕s2", "ps", "ns", "μs", "ms", "pv", "nv", "μv"]),
  (0x33B7, ["mv", "kv", "mv", "pw", "nw", "μw", "mw", "kw"]), (0x33BF, ["mw", "kω", "mω"]),
  (0x33C3, ["bq", "cc", "cd", "c∕kg"]),
  (0x33C8, ["db", "gy", "ha", "hp", "in", "kk", "km", "kt"]),
  (0x33D0, ["lm", "ln", "log", "lx", "mb", "mil", "mol", "ph"]),
  (0x33D9, ["ppm", "pr", "sr", "sv", "wb", "v∕m", "a∕m", "1日"]),
  (0x33E1, ["2日", "3日", "4日", "5日", "6日", "7日", "8日", "9日"]),
  (0x33E9, ["10日", "11日", "12日", "13日", "14日", "15日", "16日", "17日"]),
  (0x33F1, ["18日", "19日", "20日", "21日", "22日", "23日", "24日", "25日"]),
  (0x33F9, ["26日", "27日", "28日", "29日", "30日", "31日", "gal"]),
  (0xFB00, ["ff", "fi", "fl", "ffi", "ffl", "st", "st"]),
  (0xFB13, ["մն", "մե", "մի", "վն", "մխ"]), (0xFB1D, ["\u05d9\u05b4"]),
  (0xFB1F, ["\u05f2\u05b7"]),
  (0xFB2A, ["\u05e9\u05c1", "\u05e9\u05c2", "\u05e9\u05bc\u05c1", "\u05e9\u05bc\u05c2",
    "\u05d0\u05b7", "\u05d0\u05b8", "\u05d0\u05bc", "\u05d1\u05bc"]),
  (0xFB32, ["\u05d2\u05bc", "\u05d3\u05bc", "\u05d4\u05bc", "\u05d5\u05bc", "\u05d6\u05bc"]),
  (0xFB38, ["\u05d8\u05bc", "\u05d9\u05bc", "\u05da\u05bc", "\u05db\u05bc", "\u05dc\u05bc"]),
  (0xFB3E, ["\u05de\u05bc"]), (0xFB40, ["\u05e0\u05bc", "\u05e1\u05bc"]),
  (0xFB43, ["\u05e3\u05bc", "\u05e4\u05bc"]),
  (0xFB46, ["\u05e6\u05bc", "\u05e7\u05bc", "\u05e8\u05bc", "\u05e9\u05bc", "\u05ea\u05bc",
    "\u05d5\u05b9", "\u05d1\u05bf", "\u05db\u05bf"]),
  (0xFB4E, ["\u05e4\u05bf", "\u05d0\u05dc"]), (0xFBDD, ["\u06c7\u0674"]),
  (0xFE49, [" \u0305", " \u0305", " \u0305", " \u0305"]), (0xFFE3, [" \u0304"]),
  (0x1D15E, ["𝅗𝅥", "𝅘𝅥", "𝅘𝅥𝅮", "𝅘𝅥𝅯", "𝅘𝅥𝅰", "𝅘𝅥𝅱", "𝅘𝅥𝅲"]),
  (0x1D1BB, ["𝆹𝅥", "𝆺𝅥", "𝆹𝅥𝅮", "𝆺𝅥𝅮", "𝆹𝅥𝅯", "𝆺𝅥𝅯"]),
  (0x1F101, ["0,", "1,", "2,", "3,", "4,", "5,", "6,", "7,"]), (0x1F109, ["8,", "9,"]),
  (0x1F110, ["(a)", "(b)", "(c)", "(d)", "(e)", "(f)", "(g)", "(h)"]),
  (0x1F118, ["(i)", "(j)", "(k)", "(l)", "(m)", "(n)", "(o)", "(p)"]),
  (0x1F120, ["(q)", "(r)", "(s)", "(t)", "(u)", "(v)", "(w)", "(x)"]),
  (0x1F128, ["(y)", "(z)", "〔s〕"]), (0x1F12D, ["cd", "wz"]),
  (0x1F14A, ["hv", "mv", "sd", "ss", "ppv", "wc"]), (0x1F16A, ["mc", "md", "mr"]),
  (0x1F190, ["dj"]), (0x1F200, ["ほか", "ココ"]),
  (0x1F240, ["〔本〕", "〔三〕", "〔二〕", "〔安〕", "〔点〕", "〔打〕", "〔盗〕", "〔勝〕"]), (0x1F248, ["〔敗〕"])]

end CypherBridge.Network
