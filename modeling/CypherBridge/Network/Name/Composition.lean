/-!
# Composed characters

The pairs of characters that are written as one, of those that a name may hold. Syllables of
Hangul are composed of their letters by counting.
-/

namespace CypherBridge.Network

/-- For an accent, the letters that take it, each with what they make. -/
def accentRows : List (Nat × String) := [
  (0x300, "aàeèiìoòuùüǜnǹеѐиѝēḕōṑwẁâầăằêềôồơờưừyỳἀἂἁἃἐἒἑἓἠἢἡἣἰἲἱἳὀὂὁὃὐὒ"),
  (0x300, "ὑὓὠὢὡὣαὰεὲηὴιὶοὸυὺωὼϊῒϋῢ"),
  (0x301, "aáeéiíoóuúyýcćlĺnńrŕsśzźüǘgǵåǻæǽøǿϊΐαάεέηήιίϋΰοόυύωώгѓкќçḉēḗ"),
  (0x301, "ïḯkḱmḿõṍōṓpṕũṹwẃâấăắêếôốơớưứἀἄἁἅἐἔἑἕἠἤἡἥἰἴἱἵὀὄὁὅὐὔὑὕὠὤὡὥ"),
  (0x302, "aâeêiîoôuûcĉgĝhĥjĵsŝwŵyŷzẑạậẹệọộ"), (0x303, "aãnñoõiĩuũvṽâẫăẵeẽêễôỗơỡưữyỹ"),
  (0x304, "aāeēiīoōuūüǖäǟȧǡæǣǫǭöȫõȭȯȱyȳиӣуӯgḡḷḹṛṝαᾱιῑυῡ"),
  (0x306, "aăeĕgğiĭoŏuŭийуўжӂаӑеӗȩḝạặαᾰιῐυῠ"),
  (0x307, "cċeėgġzżaȧoȯbḃdḋfḟhḣmṁnṅpṗrṙsṡśṥšṧṣṩtṫwẇxẋyẏ𐗒𐗉𐗚𐗤"),
  (0x308, "aäeëiïoöuüyÿιϊυϋеёіїаӓәӛжӝзӟиӥоӧөӫэӭуӱчӵыӹhḧõṏūṻwẅxẍtẗ"),
  (0x309, "aảâẩăẳeẻêểiỉoỏôổơởuủưửyỷ"), (0x30A, "aåuůwẘyẙ"), (0x30B, "oőuűуӳ"),
  (0x30C, "cčdďeělľnňrřsštťzžaǎiǐoǒuǔüǚgǧkǩʒǯjǰhȟ"), (0x30F, "aȁeȅiȉoȍrȑuȕѵѷ"),
  (0x311, "aȃeȇiȋoȏrȓuȗ"), (0x313, "αἀεἐηἠιἰοὀυὐωὠρῤ"), (0x314, "αἁεἑηἡιἱοὁυὑωὡρῥ"),
  (0x31B, "oơuư"), (0x323, "bḅdḍhḥkḳlḷmṃnṇrṛsṣtṭvṿwẉzẓaạeẹiịoọơợuụưựyỵ"), (0x324, "uṳ"),
  (0x325, "aḁ"), (0x326, "sștț"), (0x327, "cçgģkķlļnņrŗsştţeȩdḑhḩ"), (0x328, "aąeęiįuųoǫ"),
  (0x32D, "dḓeḙlḽnṋtṱuṷ"), (0x32E, "hḫ"), (0x330, "eḛiḭuṵ"), (0x331, "bḇdḏkḵlḻnṉrṟtṯzẕhẖ"),
  (0x338, "←↚→↛↔↮⇐⇍⇔⇎⇒⇏∃∄∈∉∋∌∣∤∥∦∼≁≃≄≅≇≈≉=≠≡≢≍≭<≮>≯≤≰≥≱≲≴≳≵≶≸≷≹≺⊀≻⊁⊂⊄⊃⊅"),
  (0x338, "⊆⊈⊇⊉⊢⊬⊨⊭⊩⊮⊫⊯≼⋠≽⋡⊑⋢⊒⋣⊲⋪⊳⋫⊴⋬⊵⋭"), (0x342, "ἀἆἁἇἠἦἡἧἰἶἱἷὐὖὑὗὠὦὡὧαᾶηῆιῖϊῗυῦϋῧωῶ"),
  (0x3099, "かがきぎくぐけげこごさざしじすずせぜそぞただちぢつづてでとどはばひびふぶ"),
  (0x3099, "へべほぼうゔゝゞカガキギクグケゲコゴサザシジスズセゼソゾタダチヂツヅテデ"),
  (0x3099, "トドハバヒビフブヘベホボウヴワヷヰヸヱヹヲヺヽヾ"),
  (0x309A, "はぱひぴふぷへぺほぽハパヒピフプヘペホポ")]

def pairRows : List (Nat × Nat × Nat) := [
  (0x627, 0x653, 0x622), (0x627, 0x654, 0x623), (0x627, 0x655, 0x625), (0x648, 0x654, 0x624),
  (0x64A, 0x654, 0x626), (0x6C1, 0x654, 0x6C2), (0x6D2, 0x654, 0x6D3), (0x6D5, 0x654, 0x6C0),
  (0x928, 0x93C, 0x929), (0x930, 0x93C, 0x931), (0x933, 0x93C, 0x934), (0x9C7, 0x9BE, 0x9CB),
  (0x9C7, 0x9D7, 0x9CC), (0xB47, 0xB3E, 0xB4B), (0xB47, 0xB56, 0xB48), (0xB47, 0xB57, 0xB4C),
  (0xB92, 0xBD7, 0xB94), (0xBC6, 0xBBE, 0xBCA), (0xBC6, 0xBD7, 0xBCC), (0xBC7, 0xBBE, 0xBCB),
  (0xC46, 0xC56, 0xC48), (0xCBF, 0xCD5, 0xCC0), (0xCC6, 0xCC2, 0xCCA), (0xCC6, 0xCD5, 0xCC7),
  (0xCC6, 0xCD6, 0xCC8), (0xCCA, 0xCD5, 0xCCB), (0xD46, 0xD3E, 0xD4A), (0xD46, 0xD57, 0xD4C),
  (0xD47, 0xD3E, 0xD4B), (0xDD9, 0xDCA, 0xDDA), (0xDD9, 0xDCF, 0xDDC), (0xDD9, 0xDDF, 0xDDE),
  (0xDDC, 0xDCA, 0xDDD), (0x1025, 0x102E, 0x1026), (0x1B05, 0x1B35, 0x1B06),
  (0x1B07, 0x1B35, 0x1B08), (0x1B09, 0x1B35, 0x1B0A), (0x1B0B, 0x1B35, 0x1B0C),
  (0x1B0D, 0x1B35, 0x1B0E), (0x1B11, 0x1B35, 0x1B12), (0x1B3A, 0x1B35, 0x1B3B),
  (0x1B3C, 0x1B35, 0x1B3D), (0x1B3E, 0x1B35, 0x1B40), (0x1B3F, 0x1B35, 0x1B41),
  (0x1B42, 0x1B35, 0x1B43), (0x11099, 0x110BA, 0x1109A), (0x1109B, 0x110BA, 0x1109C),
  (0x110A5, 0x110BA, 0x110AB), (0x11131, 0x11127, 0x1112E), (0x11132, 0x11127, 0x1112F),
  (0x11347, 0x1133E, 0x1134B), (0x11347, 0x11357, 0x1134C), (0x11382, 0x113C9, 0x11383),
  (0x11384, 0x113BB, 0x11385), (0x1138B, 0x113C2, 0x1138E), (0x11390, 0x113C9, 0x11391),
  (0x113C2, 0x113B8, 0x113C7), (0x113C2, 0x113C2, 0x113C5), (0x113C2, 0x113C9, 0x113C8),
  (0x114B9, 0x114B0, 0x114BC), (0x114B9, 0x114BA, 0x114BB), (0x114B9, 0x114BD, 0x114BE),
  (0x115B8, 0x115AF, 0x115BA), (0x115B9, 0x115AF, 0x115BB), (0x11935, 0x11930, 0x11938),
  (0x1611E, 0x1611E, 0x16121), (0x1611E, 0x1611F, 0x16123), (0x1611E, 0x16120, 0x16125),
  (0x1611E, 0x16129, 0x16122), (0x16121, 0x1611F, 0x16126), (0x16121, 0x16120, 0x16128),
  (0x16122, 0x1611F, 0x16127), (0x16129, 0x1611F, 0x16124), (0x16D63, 0x16D67, 0x16D69),
  (0x16D67, 0x16D67, 0x16D68), (0x16D69, 0x16D67, 0x16D6A)]

structure Composite where
  first : Char
  second : Char
  whole : Char
  deriving DecidableEq, Repr

def accented (second : Char) : List Char → List Composite
  | first :: whole :: rest => ⟨first, second, whole⟩ :: accented second rest
  | _ => []

def composites : List Composite :=
  accentRows.flatMap (fun r => accented (.ofNat r.1) r.2.toList) ++
    pairRows.map fun r => ⟨.ofNat r.1, .ofNat r.2.1, .ofNat r.2.2⟩

def firstLead : Nat := 0x1100

def firstVowel : Nat := 0x1161

/-- One before the first letter that closes a syllable, for the syllables that are open. -/
def noTail : Nat := 0x11A7

def firstSyllable : Nat := 0xAC00

def leadCount : Nat := 19

def vowelCount : Nat := 21

def tailCount : Nat := 28

def joinHangul? (a b : Char) : Option Char :=
  let m := a.toNat
  let n := b.toNat
  if firstLead ≤ m ∧ m < firstLead + leadCount ∧ firstVowel ≤ n ∧ n < firstVowel + vowelCount then
    some (.ofNat (firstSyllable +
      ((m - firstLead) * vowelCount + (n - firstVowel)) * tailCount))
  else if firstSyllable ≤ m ∧ m < firstSyllable + leadCount * vowelCount * tailCount ∧
      (m - firstSyllable) % tailCount = 0 ∧ noTail < n ∧ n < noTail + tailCount then
    some (.ofNat (m + (n - noTail)))
  else none

def splitHangul? (c : Char) : Option (Char × Char) :=
  let n := c.toNat - firstSyllable
  if c.toNat < firstSyllable ∨ leadCount * vowelCount * tailCount ≤ n then none
  else if n % tailCount = 0 then
    some (.ofNat (firstLead + n / tailCount / vowelCount),
      .ofNat (firstVowel + n / tailCount % vowelCount))
  else some (.ofNat (firstSyllable + n / tailCount * tailCount), .ofNat (noTail + n % tailCount))

def joinPair? (a b : Char) : Option Char :=
  ((composites.find? fun p => p.first == a && p.second == b).map (·.whole)).or (joinHangul? a b)

def splitPair? (c : Char) : Option (Char × Char) :=
  ((composites.find? (·.whole == c)).map fun p => (p.first, p.second)).or (splitHangul? c)

end CypherBridge.Network
