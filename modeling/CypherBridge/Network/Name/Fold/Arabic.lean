/-!
# Arabic ligatures

The joined forms of Arabic that are several letters. A row holds the first of the replaced
characters, and what it and its followers are replaced by.
-/

namespace CypherBridge.Network

def arabicRows : List (Nat × List String) := [
  (0x675, ["\u0627\u0674", "\u0648\u0674", "\u06c7\u0674", "\u064a\u0674"]),
  (0xFBEA, ["\u0626\u0627", "\u0626\u0627", "\u0626\u06d5", "\u0626\u06d5", "\u0626\u0648",
    "\u0626\u0648", "\u0626\u06c7", "\u0626\u06c7"]),
  (0xFBF2, ["\u0626\u06c6", "\u0626\u06c6", "\u0626\u06c8", "\u0626\u06c8", "\u0626\u06d0",
    "\u0626\u06d0", "\u0626\u06d0", "\u0626\u0649"]),
  (0xFBFA, ["\u0626\u0649", "\u0626\u0649"]),
  (0xFC00, ["\u0626\u062c", "\u0626\u062d", "\u0626\u0645", "\u0626\u0649", "\u0626\u064a",
    "\u0628\u062c", "\u0628\u062d", "\u0628\u062e"]),
  (0xFC08, ["\u0628\u0645", "\u0628\u0649", "\u0628\u064a", "\u062a\u062c", "\u062a\u062d",
    "\u062a\u062e", "\u062a\u0645", "\u062a\u0649"]),
  (0xFC10, ["\u062a\u064a", "\u062b\u062c", "\u062b\u0645", "\u062b\u0649", "\u062b\u064a",
    "\u062c\u062d", "\u062c\u0645", "\u062d\u062c"]),
  (0xFC18, ["\u062d\u0645", "\u062e\u062c", "\u062e\u062d", "\u062e\u0645", "\u0633\u062c",
    "\u0633\u062d", "\u0633\u062e", "\u0633\u0645"]),
  (0xFC20, ["\u0635\u062d", "\u0635\u0645", "\u0636\u062c", "\u0636\u062d", "\u0636\u062e",
    "\u0636\u0645", "\u0637\u062d", "\u0637\u0645"]),
  (0xFC28, ["\u0638\u0645", "\u0639\u062c", "\u0639\u0645", "\u063a\u062c", "\u063a\u0645",
    "\u0641\u062c", "\u0641\u062d", "\u0641\u062e"]),
  (0xFC30, ["\u0641\u0645", "\u0641\u0649", "\u0641\u064a", "\u0642\u062d", "\u0642\u0645",
    "\u0642\u0649", "\u0642\u064a", "\u0643\u0627"]),
  (0xFC38, ["\u0643\u062c", "\u0643\u062d", "\u0643\u062e", "\u0643\u0644", "\u0643\u0645",
    "\u0643\u0649", "\u0643\u064a", "\u0644\u062c"]),
  (0xFC40, ["\u0644\u062d", "\u0644\u062e", "\u0644\u0645", "\u0644\u0649", "\u0644\u064a",
    "\u0645\u062c", "\u0645\u062d", "\u0645\u062e"]),
  (0xFC48, ["\u0645\u0645", "\u0645\u0649", "\u0645\u064a", "\u0646\u062c", "\u0646\u062d",
    "\u0646\u062e", "\u0646\u0645", "\u0646\u0649"]),
  (0xFC50, ["\u0646\u064a", "\u0647\u062c", "\u0647\u0645", "\u0647\u0649", "\u0647\u064a",
    "\u064a\u062c", "\u064a\u062d", "\u064a\u062e"]),
  (0xFC58, ["\u064a\u0645", "\u064a\u0649", "\u064a\u064a", "\u0630\u0670", "\u0631\u0670",
    "\u0649\u0670", " \u064c\u0651", " \u064d\u0651"]),
  (0xFC60, [" \u064e\u0651", " \u064f\u0651", " \u0650\u0651", " \u0651\u0670", "\u0626\u0631",
    "\u0626\u0632", "\u0626\u0645", "\u0626\u0646"]),
  (0xFC68, ["\u0626\u0649", "\u0626\u064a", "\u0628\u0631", "\u0628\u0632", "\u0628\u0645",
    "\u0628\u0646", "\u0628\u0649", "\u0628\u064a"]),
  (0xFC70, ["\u062a\u0631", "\u062a\u0632", "\u062a\u0645", "\u062a\u0646", "\u062a\u0649",
    "\u062a\u064a", "\u062b\u0631", "\u062b\u0632"]),
  (0xFC78, ["\u062b\u0645", "\u062b\u0646", "\u062b\u0649", "\u062b\u064a", "\u0641\u0649",
    "\u0641\u064a", "\u0642\u0649", "\u0642\u064a"]),
  (0xFC80, ["\u0643\u0627", "\u0643\u0644", "\u0643\u0645", "\u0643\u0649", "\u0643\u064a",
    "\u0644\u0645", "\u0644\u0649", "\u0644\u064a"]),
  (0xFC88, ["\u0645\u0627", "\u0645\u0645", "\u0646\u0631", "\u0646\u0632", "\u0646\u0645",
    "\u0646\u0646", "\u0646\u0649", "\u0646\u064a"]),
  (0xFC90, ["\u0649\u0670", "\u064a\u0631", "\u064a\u0632", "\u064a\u0645", "\u064a\u0646",
    "\u064a\u0649", "\u064a\u064a", "\u0626\u062c"]),
  (0xFC98, ["\u0626\u062d", "\u0626\u062e", "\u0626\u0645", "\u0626\u0647", "\u0628\u062c",
    "\u0628\u062d", "\u0628\u062e", "\u0628\u0645"]),
  (0xFCA0, ["\u0628\u0647", "\u062a\u062c", "\u062a\u062d", "\u062a\u062e", "\u062a\u0645",
    "\u062a\u0647", "\u062b\u0645", "\u062c\u062d"]),
  (0xFCA8, ["\u062c\u0645", "\u062d\u062c", "\u062d\u0645", "\u062e\u062c", "\u062e\u0645",
    "\u0633\u062c", "\u0633\u062d", "\u0633\u062e"]),
  (0xFCB0, ["\u0633\u0645", "\u0635\u062d", "\u0635\u062e", "\u0635\u0645", "\u0636\u062c",
    "\u0636\u062d", "\u0636\u062e", "\u0636\u0645"]),
  (0xFCB8, ["\u0637\u062d", "\u0638\u0645", "\u0639\u062c", "\u0639\u0645", "\u063a\u062c",
    "\u063a\u0645", "\u0641\u062c", "\u0641\u062d"]),
  (0xFCC0, ["\u0641\u062e", "\u0641\u0645", "\u0642\u062d", "\u0642\u0645", "\u0643\u062c",
    "\u0643\u062d", "\u0643\u062e", "\u0643\u0644"]),
  (0xFCC8, ["\u0643\u0645", "\u0644\u062c", "\u0644\u062d", "\u0644\u062e", "\u0644\u0645",
    "\u0644\u0647", "\u0645\u062c", "\u0645\u062d"]),
  (0xFCD0, ["\u0645\u062e", "\u0645\u0645", "\u0646\u062c", "\u0646\u062d", "\u0646\u062e",
    "\u0646\u0645", "\u0646\u0647", "\u0647\u062c"]),
  (0xFCD8, ["\u0647\u0645", "\u0647\u0670", "\u064a\u062c", "\u064a\u062d", "\u064a\u062e",
    "\u064a\u0645", "\u064a\u0647", "\u0626\u0645"]),
  (0xFCE0, ["\u0626\u0647", "\u0628\u0645", "\u0628\u0647", "\u062a\u0645", "\u062a\u0647",
    "\u062b\u0645", "\u062b\u0647", "\u0633\u0645"]),
  (0xFCE8, ["\u0633\u0647", "\u0634\u0645", "\u0634\u0647", "\u0643\u0644", "\u0643\u0645",
    "\u0644\u0645", "\u0646\u0645", "\u0646\u0647"]),
  (0xFCF0, ["\u064a\u0645", "\u064a\u0647", "\u0640\u064e\u0651", "\u0640\u064f\u0651",
    "\u0640\u0650\u0651", "\u0637\u0649", "\u0637\u064a", "\u0639\u0649"]),
  (0xFCF8, ["\u0639\u064a", "\u063a\u0649", "\u063a\u064a", "\u0633\u0649", "\u0633\u064a",
    "\u0634\u0649", "\u0634\u064a", "\u062d\u0649"]),
  (0xFD00, ["\u062d\u064a", "\u062c\u0649", "\u062c\u064a", "\u062e\u0649", "\u062e\u064a",
    "\u0635\u0649", "\u0635\u064a", "\u0636\u0649"]),
  (0xFD08, ["\u0636\u064a", "\u0634\u062c", "\u0634\u062d", "\u0634\u062e", "\u0634\u0645",
    "\u0634\u0631", "\u0633\u0631", "\u0635\u0631"]),
  (0xFD10, ["\u0636\u0631", "\u0637\u0649", "\u0637\u064a", "\u0639\u0649", "\u0639\u064a",
    "\u063a\u0649", "\u063a\u064a", "\u0633\u0649"]),
  (0xFD18, ["\u0633\u064a", "\u0634\u0649", "\u0634\u064a", "\u062d\u0649", "\u062d\u064a",
    "\u062c\u0649", "\u062c\u064a", "\u062e\u0649"]),
  (0xFD20, ["\u062e\u064a", "\u0635\u0649", "\u0635\u064a", "\u0636\u0649", "\u0636\u064a",
    "\u0634\u062c", "\u0634\u062d", "\u0634\u062e"]),
  (0xFD28, ["\u0634\u0645", "\u0634\u0631", "\u0633\u0631", "\u0635\u0631", "\u0636\u0631",
    "\u0634\u062c", "\u0634\u062d", "\u0634\u062e"]),
  (0xFD30, ["\u0634\u0645", "\u0633\u0647", "\u0634\u0647", "\u0637\u0645", "\u0633\u062c",
    "\u0633\u062d", "\u0633\u062e", "\u0634\u062c"]),
  (0xFD38, ["\u0634\u062d", "\u0634\u062e", "\u0637\u0645", "\u0638\u0645", "\u0627\u064b",
    "\u0627\u064b"]),
  (0xFD50, ["\u062a\u062c\u0645", "\u062a\u062d\u062c", "\u062a\u062d\u062c",
    "\u062a\u062d\u0645", "\u062a\u062e\u0645", "\u062a\u0645\u062c", "\u062a\u0645\u062d",
    "\u062a\u0645\u062e"]),
  (0xFD58, ["\u062c\u0645\u062d", "\u062c\u0645\u062d", "\u062d\u0645\u064a",
    "\u062d\u0645\u0649", "\u0633\u062d\u062c", "\u0633\u062c\u062d", "\u0633\u062c\u0649",
    "\u0633\u0645\u062d"]),
  (0xFD60, ["\u0633\u0645\u062d", "\u0633\u0645\u062c", "\u0633\u0645\u0645",
    "\u0633\u0645\u0645", "\u0635\u062d\u062d", "\u0635\u062d\u062d", "\u0635\u0645\u0645",
    "\u0634\u062d\u0645"]),
  (0xFD68, ["\u0634\u062d\u0645", "\u0634\u062c\u064a", "\u0634\u0645\u062e",
    "\u0634\u0645\u062e", "\u0634\u0645\u0645", "\u0634\u0645\u0645", "\u0636\u062d\u0649",
    "\u0636\u062e\u0645"]),
  (0xFD70, ["\u0636\u062e\u0645", "\u0637\u0645\u062d", "\u0637\u0645\u062d",
    "\u0637\u0645\u0645", "\u0637\u0645\u064a", "\u0639\u062c\u0645", "\u0639\u0645\u0645",
    "\u0639\u0645\u0645"]),
  (0xFD78, ["\u0639\u0645\u0649", "\u063a\u0645\u0645", "\u063a\u0645\u064a",
    "\u063a\u0645\u0649", "\u0641\u062e\u0645", "\u0641\u062e\u0645", "\u0642\u0645\u062d",
    "\u0642\u0645\u0645"]),
  (0xFD80, ["\u0644\u062d\u0645", "\u0644\u062d\u064a", "\u0644\u062d\u0649",
    "\u0644\u062c\u062c", "\u0644\u062c\u062c", "\u0644\u062e\u0645", "\u0644\u062e\u0645",
    "\u0644\u0645\u062d"]),
  (0xFD88, ["\u0644\u0645\u062d", "\u0645\u062d\u062c", "\u0645\u062d\u0645",
    "\u0645\u062d\u064a", "\u0645\u062c\u062d", "\u0645\u062c\u0645", "\u0645\u062e\u062c",
    "\u0645\u062e\u0645"]),
  (0xFD92, ["\u0645\u062c\u062e", "\u0647\u0645\u062c", "\u0647\u0645\u0645",
    "\u0646\u062d\u0645", "\u0646\u062d\u0649", "\u0646\u062c\u0645", "\u0646\u062c\u0645",
    "\u0646\u062c\u0649"]),
  (0xFD9A, ["\u0646\u0645\u064a", "\u0646\u0645\u0649", "\u064a\u0645\u0645",
    "\u064a\u0645\u0645", "\u0628\u062e\u064a", "\u062a\u062c\u064a", "\u062a\u062c\u0649",
    "\u062a\u062e\u064a"]),
  (0xFDA2, ["\u062a\u062e\u0649", "\u062a\u0645\u064a", "\u062a\u0645\u0649",
    "\u062c\u0645\u064a", "\u062c\u062d\u0649", "\u062c\u0645\u0649", "\u0633\u062e\u0649",
    "\u0635\u062d\u064a"]),
  (0xFDAA, ["\u0634\u062d\u064a", "\u0636\u062d\u064a", "\u0644\u062c\u064a",
    "\u0644\u0645\u064a", "\u064a\u062d\u064a", "\u064a\u062c\u064a", "\u064a\u0645\u064a",
    "\u0645\u0645\u064a"]),
  (0xFDB2, ["\u0642\u0645\u064a", "\u0646\u062d\u064a", "\u0642\u0645\u062d",
    "\u0644\u062d\u0645", "\u0639\u0645\u064a", "\u0643\u0645\u064a", "\u0646\u062c\u062d",
    "\u0645\u062e\u064a"]),
  (0xFDBA, ["\u0644\u062c\u0645", "\u0643\u0645\u0645", "\u0644\u062c\u0645",
    "\u0646\u062c\u062d", "\u062c\u062d\u064a", "\u062d\u062c\u064a", "\u0645\u062c\u064a",
    "\u0641\u0645\u064a"]),
  (0xFDC2, ["\u0628\u062d\u064a", "\u0643\u0645\u0645", "\u0639\u062c\u0645",
    "\u0635\u0645\u0645", "\u0633\u062e\u064a", "\u0646\u062c\u064a"]),
  (0xFDF0, ["\u0635\u0644\u06d2", "\u0642\u0644\u06d2", "\u0627\u0644\u0644\u0647",
    "\u0627\u0643\u0628\u0631", "\u0645\u062d\u0645\u062f", "\u0635\u0644\u0639\u0645",
    "\u0631\u0633\u0648\u0644", "\u0639\u0644\u064a\u0647"]),
  (0xFDF8, ["\u0648\u0633\u0644\u0645", "\u0635\u0644\u0649", "صلى الله عليه وسلم",
    "\u062c\u0644 \u062c\u0644\u0627\u0644\u0647", "\u0631\u06cc\u0627\u0644"]),
  (0xFE70, [" \u064b", "\u0640\u064b", " \u064c"]), (0xFE74, [" \u064d"]),
  (0xFE76, [" \u064e", "\u0640\u064e", " \u064f", "\u0640\u064f", " \u0650", "\u0640\u0650",
    " \u0651", "\u0640\u0651"]),
  (0xFE7E, [" \u0652", "\u0640\u0652"]),
  (0xFEF5, ["\u0644\u0622", "\u0644\u0622", "\u0644\u0623", "\u0644\u0623", "\u0644\u0625",
    "\u0644\u0625", "\u0644\u0627", "\u0644\u0627"])]

end CypherBridge.Network
