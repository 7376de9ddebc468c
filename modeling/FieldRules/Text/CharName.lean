/-!
# Names of characters

The names by which an escape may call a character: Latin, Greek and Cyrillic letters, punctuation,
currency signs, arrows, operators, boxes, symbols and faces. Ideographs are named by their code points.
Case does not matter in a name.
-/

namespace FieldRules.Text

/-- Named characters from U+0000 on. -/
def charNames0 : Array (String × Nat) := #[
  ("NULL", 0), ("BACKSPACE", 8), ("CHARACTER TABULATION", 9), ("TAB", 9), ("LF", 10),
  ("LINE FEED", 10), ("NEW LINE", 10), ("CARRIAGE RETURN", 13), ("CR", 13), ("ESCAPE", 27),
  ("SPACE", 32), ("EXCLAMATION MARK", 33), ("QUOTATION MARK", 34), ("NUMBER SIGN", 35),
  ("DOLLAR SIGN", 36), ("PERCENT SIGN", 37), ("AMPERSAND", 38), ("APOSTROPHE", 39),
  ("LEFT PARENTHESIS", 40), ("RIGHT PARENTHESIS", 41), ("ASTERISK", 42), ("PLUS SIGN", 43),
  ("COMMA", 44), ("HYPHEN-MINUS", 45), ("FULL STOP", 46), ("SOLIDUS", 47), ("DIGIT ZERO", 48),
  ("DIGIT ONE", 49), ("DIGIT TWO", 50), ("DIGIT THREE", 51), ("DIGIT FOUR", 52),
  ("DIGIT FIVE", 53), ("DIGIT SIX", 54), ("DIGIT SEVEN", 55), ("DIGIT EIGHT", 56),
  ("DIGIT NINE", 57), ("COLON", 58), ("SEMICOLON", 59), ("LESS-THAN SIGN", 60),
  ("EQUALS SIGN", 61), ("GREATER-THAN SIGN", 62), ("QUESTION MARK", 63), ("COMMERCIAL AT", 64),
  ("LATIN CAPITAL LETTER A", 65), ("LATIN CAPITAL LETTER B", 66), ("LATIN CAPITAL LETTER C", 67),
  ("LATIN CAPITAL LETTER D", 68), ("LATIN CAPITAL LETTER E", 69), ("LATIN CAPITAL LETTER F", 70),
  ("LATIN CAPITAL LETTER G", 71), ("LATIN CAPITAL LETTER H", 72), ("LATIN CAPITAL LETTER I", 73),
  ("LATIN CAPITAL LETTER J", 74), ("LATIN CAPITAL LETTER K", 75), ("LATIN CAPITAL LETTER L", 76),
  ("LATIN CAPITAL LETTER M", 77), ("LATIN CAPITAL LETTER N", 78), ("LATIN CAPITAL LETTER O", 79),
  ("LATIN CAPITAL LETTER P", 80), ("LATIN CAPITAL LETTER Q", 81), ("LATIN CAPITAL LETTER R", 82),
  ("LATIN CAPITAL LETTER S", 83), ("LATIN CAPITAL LETTER T", 84), ("LATIN CAPITAL LETTER U", 85),
  ("LATIN CAPITAL LETTER V", 86), ("LATIN CAPITAL LETTER W", 87), ("LATIN CAPITAL LETTER X", 88),
  ("LATIN CAPITAL LETTER Y", 89), ("LATIN CAPITAL LETTER Z", 90), ("LEFT SQUARE BRACKET", 91),
  ("REVERSE SOLIDUS", 92), ("RIGHT SQUARE BRACKET", 93), ("CIRCUMFLEX ACCENT", 94),
  ("LOW LINE", 95), ("GRAVE ACCENT", 96), ("LATIN SMALL LETTER A", 97),
  ("LATIN SMALL LETTER B", 98), ("LATIN SMALL LETTER C", 99), ("LATIN SMALL LETTER D", 100),
  ("LATIN SMALL LETTER E", 101), ("LATIN SMALL LETTER F", 102), ("LATIN SMALL LETTER G", 103),
  ("LATIN SMALL LETTER H", 104), ("LATIN SMALL LETTER I", 105), ("LATIN SMALL LETTER J", 106),
  ("LATIN SMALL LETTER K", 107), ("LATIN SMALL LETTER L", 108), ("LATIN SMALL LETTER M", 109),
  ("LATIN SMALL LETTER N", 110), ("LATIN SMALL LETTER O", 111), ("LATIN SMALL LETTER P", 112),
  ("LATIN SMALL LETTER Q", 113), ("LATIN SMALL LETTER R", 114), ("LATIN SMALL LETTER S", 115),
  ("LATIN SMALL LETTER T", 116), ("LATIN SMALL LETTER U", 117), ("LATIN SMALL LETTER V", 118),
  ("LATIN SMALL LETTER W", 119), ("LATIN SMALL LETTER X", 120), ("LATIN SMALL LETTER Y", 121),
  ("LATIN SMALL LETTER Z", 122), ("LEFT CURLY BRACKET", 123), ("VERTICAL LINE", 124),
  ("RIGHT CURLY BRACKET", 125), ("TILDE", 126), ("DELETE", 127), ("NEXT LINE", 133), ("NBSP", 160),
  ("NO-BREAK SPACE", 160), ("INVERTED EXCLAMATION MARK", 161), ("CENT SIGN", 162),
  ("POUND SIGN", 163), ("CURRENCY SIGN", 164), ("YEN SIGN", 165), ("BROKEN BAR", 166),
  ("SECTION SIGN", 167), ("DIAERESIS", 168), ("COPYRIGHT SIGN", 169),
  ("FEMININE ORDINAL INDICATOR", 170), ("LEFT-POINTING DOUBLE ANGLE QUOTATION MARK", 171),
  ("NOT SIGN", 172), ("SOFT HYPHEN", 173), ("REGISTERED SIGN", 174), ("MACRON", 175),
  ("DEGREE SIGN", 176), ("PLUS-MINUS SIGN", 177), ("SUPERSCRIPT TWO", 178),
  ("SUPERSCRIPT THREE", 179), ("ACUTE ACCENT", 180), ("MICRO SIGN", 181), ("PILCROW SIGN", 182),
  ("MIDDLE DOT", 183), ("CEDILLA", 184), ("SUPERSCRIPT ONE", 185),
  ("MASCULINE ORDINAL INDICATOR", 186), ("RIGHT-POINTING DOUBLE ANGLE QUOTATION MARK", 187),
  ("VULGAR FRACTION ONE QUARTER", 188), ("VULGAR FRACTION ONE HALF", 189),
  ("VULGAR FRACTION THREE QUARTERS", 190), ("INVERTED QUESTION MARK", 191),
  ("LATIN CAPITAL LETTER A WITH GRAVE", 192), ("LATIN CAPITAL LETTER A WITH ACUTE", 193),
  ("LATIN CAPITAL LETTER A WITH CIRCUMFLEX", 194), ("LATIN CAPITAL LETTER A WITH TILDE", 195),
  ("LATIN CAPITAL LETTER A WITH DIAERESIS", 196), ("LATIN CAPITAL LETTER A WITH RING ABOVE", 197),
  ("LATIN CAPITAL LETTER AE", 198), ("LATIN CAPITAL LETTER C WITH CEDILLA", 199),
  ("LATIN CAPITAL LETTER E WITH GRAVE", 200), ("LATIN CAPITAL LETTER E WITH ACUTE", 201),
  ("LATIN CAPITAL LETTER E WITH CIRCUMFLEX", 202), ("LATIN CAPITAL LETTER E WITH DIAERESIS", 203),
  ("LATIN CAPITAL LETTER I WITH GRAVE", 204), ("LATIN CAPITAL LETTER I WITH ACUTE", 205),
  ("LATIN CAPITAL LETTER I WITH CIRCUMFLEX", 206), ("LATIN CAPITAL LETTER I WITH DIAERESIS", 207),
  ("LATIN CAPITAL LETTER ETH", 208), ("LATIN CAPITAL LETTER N WITH TILDE", 209),
  ("LATIN CAPITAL LETTER O WITH GRAVE", 210), ("LATIN CAPITAL LETTER O WITH ACUTE", 211),
  ("LATIN CAPITAL LETTER O WITH CIRCUMFLEX", 212), ("LATIN CAPITAL LETTER O WITH TILDE", 213),
  ("LATIN CAPITAL LETTER O WITH DIAERESIS", 214), ("MULTIPLICATION SIGN", 215),
  ("LATIN CAPITAL LETTER O WITH STROKE", 216), ("LATIN CAPITAL LETTER U WITH GRAVE", 217),
  ("LATIN CAPITAL LETTER U WITH ACUTE", 218), ("LATIN CAPITAL LETTER U WITH CIRCUMFLEX", 219),
  ("LATIN CAPITAL LETTER U WITH DIAERESIS", 220), ("LATIN CAPITAL LETTER Y WITH ACUTE", 221),
  ("LATIN CAPITAL LETTER THORN", 222), ("LATIN SMALL LETTER SHARP S", 223),
  ("LATIN SMALL LETTER A WITH GRAVE", 224), ("LATIN SMALL LETTER A WITH ACUTE", 225),
  ("LATIN SMALL LETTER A WITH CIRCUMFLEX", 226), ("LATIN SMALL LETTER A WITH TILDE", 227),
  ("LATIN SMALL LETTER A WITH DIAERESIS", 228), ("LATIN SMALL LETTER A WITH RING ABOVE", 229),
  ("LATIN SMALL LETTER AE", 230), ("LATIN SMALL LETTER C WITH CEDILLA", 231),
  ("LATIN SMALL LETTER E WITH GRAVE", 232), ("LATIN SMALL LETTER E WITH ACUTE", 233),
  ("LATIN SMALL LETTER E WITH CIRCUMFLEX", 234), ("LATIN SMALL LETTER E WITH DIAERESIS", 235),
  ("LATIN SMALL LETTER I WITH GRAVE", 236), ("LATIN SMALL LETTER I WITH ACUTE", 237),
  ("LATIN SMALL LETTER I WITH CIRCUMFLEX", 238), ("LATIN SMALL LETTER I WITH DIAERESIS", 239),
  ("LATIN SMALL LETTER ETH", 240), ("LATIN SMALL LETTER N WITH TILDE", 241),
  ("LATIN SMALL LETTER O WITH GRAVE", 242), ("LATIN SMALL LETTER O WITH ACUTE", 243),
  ("LATIN SMALL LETTER O WITH CIRCUMFLEX", 244), ("LATIN SMALL LETTER O WITH TILDE", 245),
  ("LATIN SMALL LETTER O WITH DIAERESIS", 246), ("DIVISION SIGN", 247),
  ("LATIN SMALL LETTER O WITH STROKE", 248), ("LATIN SMALL LETTER U WITH GRAVE", 249),
  ("LATIN SMALL LETTER U WITH ACUTE", 250), ("LATIN SMALL LETTER U WITH CIRCUMFLEX", 251),
  ("LATIN SMALL LETTER U WITH DIAERESIS", 252), ("LATIN SMALL LETTER Y WITH ACUTE", 253),
  ("LATIN SMALL LETTER THORN", 254), ("LATIN SMALL LETTER Y WITH DIAERESIS", 255),
  ("LATIN CAPITAL LETTER A WITH MACRON", 256), ("LATIN SMALL LETTER A WITH MACRON", 257),
  ("LATIN CAPITAL LETTER A WITH BREVE", 258), ("LATIN SMALL LETTER A WITH BREVE", 259),
  ("LATIN CAPITAL LETTER A WITH OGONEK", 260), ("LATIN SMALL LETTER A WITH OGONEK", 261),
  ("LATIN CAPITAL LETTER C WITH ACUTE", 262), ("LATIN SMALL LETTER C WITH ACUTE", 263),
  ("LATIN CAPITAL LETTER C WITH CIRCUMFLEX", 264), ("LATIN SMALL LETTER C WITH CIRCUMFLEX", 265),
  ("LATIN CAPITAL LETTER C WITH DOT ABOVE", 266), ("LATIN SMALL LETTER C WITH DOT ABOVE", 267),
  ("LATIN CAPITAL LETTER C WITH CARON", 268), ("LATIN SMALL LETTER C WITH CARON", 269),
  ("LATIN CAPITAL LETTER D WITH CARON", 270), ("LATIN SMALL LETTER D WITH CARON", 271),
  ("LATIN CAPITAL LETTER D WITH STROKE", 272), ("LATIN SMALL LETTER D WITH STROKE", 273),
  ("LATIN CAPITAL LETTER E WITH MACRON", 274), ("LATIN SMALL LETTER E WITH MACRON", 275),
  ("LATIN CAPITAL LETTER E WITH BREVE", 276), ("LATIN SMALL LETTER E WITH BREVE", 277),
  ("LATIN CAPITAL LETTER E WITH DOT ABOVE", 278), ("LATIN SMALL LETTER E WITH DOT ABOVE", 279),
  ("LATIN CAPITAL LETTER E WITH OGONEK", 280), ("LATIN SMALL LETTER E WITH OGONEK", 281),
  ("LATIN CAPITAL LETTER E WITH CARON", 282), ("LATIN SMALL LETTER E WITH CARON", 283),
  ("LATIN CAPITAL LETTER G WITH CIRCUMFLEX", 284), ("LATIN SMALL LETTER G WITH CIRCUMFLEX", 285),
  ("LATIN CAPITAL LETTER G WITH BREVE", 286), ("LATIN SMALL LETTER G WITH BREVE", 287),
  ("LATIN CAPITAL LETTER G WITH DOT ABOVE", 288), ("LATIN SMALL LETTER G WITH DOT ABOVE", 289),
  ("LATIN CAPITAL LETTER G WITH CEDILLA", 290), ("LATIN SMALL LETTER G WITH CEDILLA", 291),
  ("LATIN CAPITAL LETTER H WITH CIRCUMFLEX", 292), ("LATIN SMALL LETTER H WITH CIRCUMFLEX", 293),
  ("LATIN CAPITAL LETTER H WITH STROKE", 294), ("LATIN SMALL LETTER H WITH STROKE", 295),
  ("LATIN CAPITAL LETTER I WITH TILDE", 296), ("LATIN SMALL LETTER I WITH TILDE", 297),
  ("LATIN CAPITAL LETTER I WITH MACRON", 298), ("LATIN SMALL LETTER I WITH MACRON", 299),
  ("LATIN CAPITAL LETTER I WITH BREVE", 300), ("LATIN SMALL LETTER I WITH BREVE", 301)]

/-- Named characters from U+012E on. -/
def charNames302 : Array (String × Nat) := #[
  ("LATIN CAPITAL LETTER I WITH OGONEK", 302), ("LATIN SMALL LETTER I WITH OGONEK", 303),
  ("LATIN CAPITAL LETTER I WITH DOT ABOVE", 304), ("LATIN SMALL LETTER DOTLESS I", 305),
  ("LATIN CAPITAL LIGATURE IJ", 306), ("LATIN SMALL LIGATURE IJ", 307),
  ("LATIN CAPITAL LETTER J WITH CIRCUMFLEX", 308), ("LATIN SMALL LETTER J WITH CIRCUMFLEX", 309),
  ("LATIN CAPITAL LETTER K WITH CEDILLA", 310), ("LATIN SMALL LETTER K WITH CEDILLA", 311),
  ("LATIN SMALL LETTER KRA", 312), ("LATIN CAPITAL LETTER L WITH ACUTE", 313),
  ("LATIN SMALL LETTER L WITH ACUTE", 314), ("LATIN CAPITAL LETTER L WITH CEDILLA", 315),
  ("LATIN SMALL LETTER L WITH CEDILLA", 316), ("LATIN CAPITAL LETTER L WITH CARON", 317),
  ("LATIN SMALL LETTER L WITH CARON", 318), ("LATIN CAPITAL LETTER L WITH MIDDLE DOT", 319),
  ("LATIN SMALL LETTER L WITH MIDDLE DOT", 320), ("LATIN CAPITAL LETTER L WITH STROKE", 321),
  ("LATIN SMALL LETTER L WITH STROKE", 322), ("LATIN CAPITAL LETTER N WITH ACUTE", 323),
  ("LATIN SMALL LETTER N WITH ACUTE", 324), ("LATIN CAPITAL LETTER N WITH CEDILLA", 325),
  ("LATIN SMALL LETTER N WITH CEDILLA", 326), ("LATIN CAPITAL LETTER N WITH CARON", 327),
  ("LATIN SMALL LETTER N WITH CARON", 328), ("LATIN SMALL LETTER N PRECEDED BY APOSTROPHE", 329),
  ("LATIN CAPITAL LETTER ENG", 330), ("LATIN SMALL LETTER ENG", 331),
  ("LATIN CAPITAL LETTER O WITH MACRON", 332), ("LATIN SMALL LETTER O WITH MACRON", 333),
  ("LATIN CAPITAL LETTER O WITH BREVE", 334), ("LATIN SMALL LETTER O WITH BREVE", 335),
  ("LATIN CAPITAL LETTER O WITH DOUBLE ACUTE", 336),
  ("LATIN SMALL LETTER O WITH DOUBLE ACUTE", 337), ("LATIN CAPITAL LIGATURE OE", 338),
  ("LATIN SMALL LIGATURE OE", 339), ("LATIN CAPITAL LETTER R WITH ACUTE", 340),
  ("LATIN SMALL LETTER R WITH ACUTE", 341), ("LATIN CAPITAL LETTER R WITH CEDILLA", 342),
  ("LATIN SMALL LETTER R WITH CEDILLA", 343), ("LATIN CAPITAL LETTER R WITH CARON", 344),
  ("LATIN SMALL LETTER R WITH CARON", 345), ("LATIN CAPITAL LETTER S WITH ACUTE", 346),
  ("LATIN SMALL LETTER S WITH ACUTE", 347), ("LATIN CAPITAL LETTER S WITH CIRCUMFLEX", 348),
  ("LATIN SMALL LETTER S WITH CIRCUMFLEX", 349), ("LATIN CAPITAL LETTER S WITH CEDILLA", 350),
  ("LATIN SMALL LETTER S WITH CEDILLA", 351), ("LATIN CAPITAL LETTER S WITH CARON", 352),
  ("LATIN SMALL LETTER S WITH CARON", 353), ("LATIN CAPITAL LETTER T WITH CEDILLA", 354),
  ("LATIN SMALL LETTER T WITH CEDILLA", 355), ("LATIN CAPITAL LETTER T WITH CARON", 356),
  ("LATIN SMALL LETTER T WITH CARON", 357), ("LATIN CAPITAL LETTER T WITH STROKE", 358),
  ("LATIN SMALL LETTER T WITH STROKE", 359), ("LATIN CAPITAL LETTER U WITH TILDE", 360),
  ("LATIN SMALL LETTER U WITH TILDE", 361), ("LATIN CAPITAL LETTER U WITH MACRON", 362),
  ("LATIN SMALL LETTER U WITH MACRON", 363), ("LATIN CAPITAL LETTER U WITH BREVE", 364),
  ("LATIN SMALL LETTER U WITH BREVE", 365), ("LATIN CAPITAL LETTER U WITH RING ABOVE", 366),
  ("LATIN SMALL LETTER U WITH RING ABOVE", 367), ("LATIN CAPITAL LETTER U WITH DOUBLE ACUTE", 368),
  ("LATIN SMALL LETTER U WITH DOUBLE ACUTE", 369), ("LATIN CAPITAL LETTER U WITH OGONEK", 370),
  ("LATIN SMALL LETTER U WITH OGONEK", 371), ("LATIN CAPITAL LETTER W WITH CIRCUMFLEX", 372),
  ("LATIN SMALL LETTER W WITH CIRCUMFLEX", 373), ("LATIN CAPITAL LETTER Y WITH CIRCUMFLEX", 374),
  ("LATIN SMALL LETTER Y WITH CIRCUMFLEX", 375), ("LATIN CAPITAL LETTER Y WITH DIAERESIS", 376),
  ("LATIN CAPITAL LETTER Z WITH ACUTE", 377), ("LATIN SMALL LETTER Z WITH ACUTE", 378),
  ("LATIN CAPITAL LETTER Z WITH DOT ABOVE", 379), ("LATIN SMALL LETTER Z WITH DOT ABOVE", 380),
  ("LATIN CAPITAL LETTER Z WITH CARON", 381), ("LATIN SMALL LETTER Z WITH CARON", 382),
  ("LATIN SMALL LETTER LONG S", 383), ("GREEK CAPITAL LETTER HETA", 880),
  ("GREEK SMALL LETTER HETA", 881), ("GREEK CAPITAL LETTER ARCHAIC SAMPI", 882),
  ("GREEK SMALL LETTER ARCHAIC SAMPI", 883), ("GREEK NUMERAL SIGN", 884),
  ("GREEK LOWER NUMERAL SIGN", 885), ("GREEK CAPITAL LETTER PAMPHYLIAN DIGAMMA", 886),
  ("GREEK SMALL LETTER PAMPHYLIAN DIGAMMA", 887), ("GREEK YPOGEGRAMMENI", 890),
  ("GREEK SMALL REVERSED LUNATE SIGMA SYMBOL", 891),
  ("GREEK SMALL DOTTED LUNATE SIGMA SYMBOL", 892),
  ("GREEK SMALL REVERSED DOTTED LUNATE SIGMA SYMBOL", 893), ("GREEK QUESTION MARK", 894),
  ("GREEK CAPITAL LETTER YOT", 895), ("GREEK TONOS", 900), ("GREEK DIALYTIKA TONOS", 901),
  ("GREEK CAPITAL LETTER ALPHA WITH TONOS", 902), ("GREEK ANO TELEIA", 903),
  ("GREEK CAPITAL LETTER EPSILON WITH TONOS", 904), ("GREEK CAPITAL LETTER ETA WITH TONOS", 905),
  ("GREEK CAPITAL LETTER IOTA WITH TONOS", 906), ("GREEK CAPITAL LETTER OMICRON WITH TONOS", 908),
  ("GREEK CAPITAL LETTER UPSILON WITH TONOS", 910), ("GREEK CAPITAL LETTER OMEGA WITH TONOS", 911),
  ("GREEK SMALL LETTER IOTA WITH DIALYTIKA AND TONOS", 912), ("GREEK CAPITAL LETTER ALPHA", 913),
  ("GREEK CAPITAL LETTER BETA", 914), ("GREEK CAPITAL LETTER GAMMA", 915),
  ("GREEK CAPITAL LETTER DELTA", 916), ("GREEK CAPITAL LETTER EPSILON", 917),
  ("GREEK CAPITAL LETTER ZETA", 918), ("GREEK CAPITAL LETTER ETA", 919),
  ("GREEK CAPITAL LETTER THETA", 920), ("GREEK CAPITAL LETTER IOTA", 921),
  ("GREEK CAPITAL LETTER KAPPA", 922), ("GREEK CAPITAL LETTER LAMDA", 923),
  ("GREEK CAPITAL LETTER MU", 924), ("GREEK CAPITAL LETTER NU", 925),
  ("GREEK CAPITAL LETTER XI", 926), ("GREEK CAPITAL LETTER OMICRON", 927),
  ("GREEK CAPITAL LETTER PI", 928), ("GREEK CAPITAL LETTER RHO", 929),
  ("GREEK CAPITAL LETTER SIGMA", 931), ("GREEK CAPITAL LETTER TAU", 932),
  ("GREEK CAPITAL LETTER UPSILON", 933), ("GREEK CAPITAL LETTER PHI", 934),
  ("GREEK CAPITAL LETTER CHI", 935), ("GREEK CAPITAL LETTER PSI", 936),
  ("GREEK CAPITAL LETTER OMEGA", 937), ("GREEK CAPITAL LETTER IOTA WITH DIALYTIKA", 938),
  ("GREEK CAPITAL LETTER UPSILON WITH DIALYTIKA", 939),
  ("GREEK SMALL LETTER ALPHA WITH TONOS", 940), ("GREEK SMALL LETTER EPSILON WITH TONOS", 941),
  ("GREEK SMALL LETTER ETA WITH TONOS", 942), ("GREEK SMALL LETTER IOTA WITH TONOS", 943),
  ("GREEK SMALL LETTER UPSILON WITH DIALYTIKA AND TONOS", 944), ("GREEK SMALL LETTER ALPHA", 945),
  ("GREEK SMALL LETTER BETA", 946), ("GREEK SMALL LETTER GAMMA", 947),
  ("GREEK SMALL LETTER DELTA", 948), ("GREEK SMALL LETTER EPSILON", 949),
  ("GREEK SMALL LETTER ZETA", 950), ("GREEK SMALL LETTER ETA", 951),
  ("GREEK SMALL LETTER THETA", 952), ("GREEK SMALL LETTER IOTA", 953),
  ("GREEK SMALL LETTER KAPPA", 954), ("GREEK SMALL LETTER LAMDA", 955),
  ("GREEK SMALL LETTER MU", 956), ("GREEK SMALL LETTER NU", 957), ("GREEK SMALL LETTER XI", 958),
  ("GREEK SMALL LETTER OMICRON", 959), ("GREEK SMALL LETTER PI", 960),
  ("GREEK SMALL LETTER RHO", 961), ("GREEK SMALL LETTER FINAL SIGMA", 962),
  ("GREEK SMALL LETTER SIGMA", 963), ("GREEK SMALL LETTER TAU", 964),
  ("GREEK SMALL LETTER UPSILON", 965), ("GREEK SMALL LETTER PHI", 966),
  ("GREEK SMALL LETTER CHI", 967), ("GREEK SMALL LETTER PSI", 968),
  ("GREEK SMALL LETTER OMEGA", 969), ("GREEK SMALL LETTER IOTA WITH DIALYTIKA", 970),
  ("GREEK SMALL LETTER UPSILON WITH DIALYTIKA", 971),
  ("GREEK SMALL LETTER OMICRON WITH TONOS", 972), ("GREEK SMALL LETTER UPSILON WITH TONOS", 973),
  ("GREEK SMALL LETTER OMEGA WITH TONOS", 974), ("GREEK CAPITAL KAI SYMBOL", 975),
  ("GREEK BETA SYMBOL", 976), ("GREEK THETA SYMBOL", 977), ("GREEK UPSILON WITH HOOK SYMBOL", 978),
  ("GREEK UPSILON WITH ACUTE AND HOOK SYMBOL", 979),
  ("GREEK UPSILON WITH DIAERESIS AND HOOK SYMBOL", 980), ("GREEK PHI SYMBOL", 981),
  ("GREEK PI SYMBOL", 982), ("GREEK KAI SYMBOL", 983), ("GREEK LETTER ARCHAIC KOPPA", 984),
  ("GREEK SMALL LETTER ARCHAIC KOPPA", 985), ("GREEK LETTER STIGMA", 986),
  ("GREEK SMALL LETTER STIGMA", 987), ("GREEK LETTER DIGAMMA", 988),
  ("GREEK SMALL LETTER DIGAMMA", 989), ("GREEK LETTER KOPPA", 990),
  ("GREEK SMALL LETTER KOPPA", 991), ("GREEK LETTER SAMPI", 992),
  ("GREEK SMALL LETTER SAMPI", 993), ("COPTIC CAPITAL LETTER SHEI", 994),
  ("COPTIC SMALL LETTER SHEI", 995), ("COPTIC CAPITAL LETTER FEI", 996),
  ("COPTIC SMALL LETTER FEI", 997), ("COPTIC CAPITAL LETTER KHEI", 998),
  ("COPTIC SMALL LETTER KHEI", 999), ("COPTIC CAPITAL LETTER HORI", 1000),
  ("COPTIC SMALL LETTER HORI", 1001), ("COPTIC CAPITAL LETTER GANGIA", 1002),
  ("COPTIC SMALL LETTER GANGIA", 1003), ("COPTIC CAPITAL LETTER SHIMA", 1004),
  ("COPTIC SMALL LETTER SHIMA", 1005), ("COPTIC CAPITAL LETTER DEI", 1006),
  ("COPTIC SMALL LETTER DEI", 1007), ("GREEK KAPPA SYMBOL", 1008), ("GREEK RHO SYMBOL", 1009),
  ("GREEK LUNATE SIGMA SYMBOL", 1010), ("GREEK LETTER YOT", 1011),
  ("GREEK CAPITAL THETA SYMBOL", 1012), ("GREEK LUNATE EPSILON SYMBOL", 1013),
  ("GREEK REVERSED LUNATE EPSILON SYMBOL", 1014), ("GREEK CAPITAL LETTER SHO", 1015),
  ("GREEK SMALL LETTER SHO", 1016), ("GREEK CAPITAL LUNATE SIGMA SYMBOL", 1017),
  ("GREEK CAPITAL LETTER SAN", 1018), ("GREEK SMALL LETTER SAN", 1019),
  ("GREEK RHO WITH STROKE SYMBOL", 1020), ("GREEK CAPITAL REVERSED LUNATE SIGMA SYMBOL", 1021),
  ("GREEK CAPITAL DOTTED LUNATE SIGMA SYMBOL", 1022),
  ("GREEK CAPITAL REVERSED DOTTED LUNATE SIGMA SYMBOL", 1023),
  ("CYRILLIC CAPITAL LETTER IE WITH GRAVE", 1024), ("CYRILLIC CAPITAL LETTER IO", 1025),
  ("CYRILLIC CAPITAL LETTER DJE", 1026), ("CYRILLIC CAPITAL LETTER GJE", 1027),
  ("CYRILLIC CAPITAL LETTER UKRAINIAN IE", 1028), ("CYRILLIC CAPITAL LETTER DZE", 1029),
  ("CYRILLIC CAPITAL LETTER BYELORUSSIAN-UKRAINIAN I", 1030), ("CYRILLIC CAPITAL LETTER YI", 1031),
  ("CYRILLIC CAPITAL LETTER JE", 1032), ("CYRILLIC CAPITAL LETTER LJE", 1033),
  ("CYRILLIC CAPITAL LETTER NJE", 1034), ("CYRILLIC CAPITAL LETTER TSHE", 1035),
  ("CYRILLIC CAPITAL LETTER KJE", 1036), ("CYRILLIC CAPITAL LETTER I WITH GRAVE", 1037),
  ("CYRILLIC CAPITAL LETTER SHORT U", 1038), ("CYRILLIC CAPITAL LETTER DZHE", 1039),
  ("CYRILLIC CAPITAL LETTER A", 1040), ("CYRILLIC CAPITAL LETTER BE", 1041),
  ("CYRILLIC CAPITAL LETTER VE", 1042), ("CYRILLIC CAPITAL LETTER GHE", 1043),
  ("CYRILLIC CAPITAL LETTER DE", 1044), ("CYRILLIC CAPITAL LETTER IE", 1045),
  ("CYRILLIC CAPITAL LETTER ZHE", 1046), ("CYRILLIC CAPITAL LETTER ZE", 1047),
  ("CYRILLIC CAPITAL LETTER I", 1048), ("CYRILLIC CAPITAL LETTER SHORT I", 1049),
  ("CYRILLIC CAPITAL LETTER KA", 1050), ("CYRILLIC CAPITAL LETTER EL", 1051),
  ("CYRILLIC CAPITAL LETTER EM", 1052), ("CYRILLIC CAPITAL LETTER EN", 1053),
  ("CYRILLIC CAPITAL LETTER O", 1054), ("CYRILLIC CAPITAL LETTER PE", 1055),
  ("CYRILLIC CAPITAL LETTER ER", 1056)]

/-- Named characters from U+0421 on. -/
def charNames1057 : Array (String × Nat) := #[
  ("CYRILLIC CAPITAL LETTER ES", 1057), ("CYRILLIC CAPITAL LETTER TE", 1058),
  ("CYRILLIC CAPITAL LETTER U", 1059), ("CYRILLIC CAPITAL LETTER EF", 1060),
  ("CYRILLIC CAPITAL LETTER HA", 1061), ("CYRILLIC CAPITAL LETTER TSE", 1062),
  ("CYRILLIC CAPITAL LETTER CHE", 1063), ("CYRILLIC CAPITAL LETTER SHA", 1064),
  ("CYRILLIC CAPITAL LETTER SHCHA", 1065), ("CYRILLIC CAPITAL LETTER HARD SIGN", 1066),
  ("CYRILLIC CAPITAL LETTER YERU", 1067), ("CYRILLIC CAPITAL LETTER SOFT SIGN", 1068),
  ("CYRILLIC CAPITAL LETTER E", 1069), ("CYRILLIC CAPITAL LETTER YU", 1070),
  ("CYRILLIC CAPITAL LETTER YA", 1071), ("CYRILLIC SMALL LETTER A", 1072),
  ("CYRILLIC SMALL LETTER BE", 1073), ("CYRILLIC SMALL LETTER VE", 1074),
  ("CYRILLIC SMALL LETTER GHE", 1075), ("CYRILLIC SMALL LETTER DE", 1076),
  ("CYRILLIC SMALL LETTER IE", 1077), ("CYRILLIC SMALL LETTER ZHE", 1078),
  ("CYRILLIC SMALL LETTER ZE", 1079), ("CYRILLIC SMALL LETTER I", 1080),
  ("CYRILLIC SMALL LETTER SHORT I", 1081), ("CYRILLIC SMALL LETTER KA", 1082),
  ("CYRILLIC SMALL LETTER EL", 1083), ("CYRILLIC SMALL LETTER EM", 1084),
  ("CYRILLIC SMALL LETTER EN", 1085), ("CYRILLIC SMALL LETTER O", 1086),
  ("CYRILLIC SMALL LETTER PE", 1087), ("CYRILLIC SMALL LETTER ER", 1088),
  ("CYRILLIC SMALL LETTER ES", 1089), ("CYRILLIC SMALL LETTER TE", 1090),
  ("CYRILLIC SMALL LETTER U", 1091), ("CYRILLIC SMALL LETTER EF", 1092),
  ("CYRILLIC SMALL LETTER HA", 1093), ("CYRILLIC SMALL LETTER TSE", 1094),
  ("CYRILLIC SMALL LETTER CHE", 1095), ("CYRILLIC SMALL LETTER SHA", 1096),
  ("CYRILLIC SMALL LETTER SHCHA", 1097), ("CYRILLIC SMALL LETTER HARD SIGN", 1098),
  ("CYRILLIC SMALL LETTER YERU", 1099), ("CYRILLIC SMALL LETTER SOFT SIGN", 1100),
  ("CYRILLIC SMALL LETTER E", 1101), ("CYRILLIC SMALL LETTER YU", 1102),
  ("CYRILLIC SMALL LETTER YA", 1103), ("CYRILLIC SMALL LETTER IE WITH GRAVE", 1104),
  ("CYRILLIC SMALL LETTER IO", 1105), ("CYRILLIC SMALL LETTER DJE", 1106),
  ("CYRILLIC SMALL LETTER GJE", 1107), ("CYRILLIC SMALL LETTER UKRAINIAN IE", 1108),
  ("CYRILLIC SMALL LETTER DZE", 1109), ("CYRILLIC SMALL LETTER BYELORUSSIAN-UKRAINIAN I", 1110),
  ("CYRILLIC SMALL LETTER YI", 1111), ("CYRILLIC SMALL LETTER JE", 1112),
  ("CYRILLIC SMALL LETTER LJE", 1113), ("CYRILLIC SMALL LETTER NJE", 1114),
  ("CYRILLIC SMALL LETTER TSHE", 1115), ("CYRILLIC SMALL LETTER KJE", 1116),
  ("CYRILLIC SMALL LETTER I WITH GRAVE", 1117), ("CYRILLIC SMALL LETTER SHORT U", 1118),
  ("CYRILLIC SMALL LETTER DZHE", 1119), ("EN SPACE", 8194), ("EM SPACE", 8195),
  ("THIN SPACE", 8201), ("HAIR SPACE", 8202), ("ZERO WIDTH SPACE", 8203),
  ("ZERO WIDTH NON-JOINER", 8204), ("ZERO WIDTH JOINER", 8205), ("HYPHEN", 8208),
  ("NON-BREAKING HYPHEN", 8209), ("FIGURE DASH", 8210), ("EN DASH", 8211), ("EM DASH", 8212),
  ("HORIZONTAL BAR", 8213), ("DOUBLE VERTICAL LINE", 8214), ("DOUBLE LOW LINE", 8215),
  ("LEFT SINGLE QUOTATION MARK", 8216), ("RIGHT SINGLE QUOTATION MARK", 8217),
  ("SINGLE LOW-9 QUOTATION MARK", 8218), ("SINGLE HIGH-REVERSED-9 QUOTATION MARK", 8219),
  ("LEFT DOUBLE QUOTATION MARK", 8220), ("RIGHT DOUBLE QUOTATION MARK", 8221),
  ("DOUBLE LOW-9 QUOTATION MARK", 8222), ("DOUBLE HIGH-REVERSED-9 QUOTATION MARK", 8223),
  ("DAGGER", 8224), ("DOUBLE DAGGER", 8225), ("BULLET", 8226), ("TRIANGULAR BULLET", 8227),
  ("ONE DOT LEADER", 8228), ("TWO DOT LEADER", 8229), ("HORIZONTAL ELLIPSIS", 8230),
  ("HYPHENATION POINT", 8231), ("LINE SEPARATOR", 8232), ("PARAGRAPH SEPARATOR", 8233),
  ("PER MILLE SIGN", 8240), ("PER TEN THOUSAND SIGN", 8241), ("PRIME", 8242),
  ("DOUBLE PRIME", 8243), ("TRIPLE PRIME", 8244), ("REVERSED PRIME", 8245),
  ("REVERSED DOUBLE PRIME", 8246), ("REVERSED TRIPLE PRIME", 8247), ("CARET", 8248),
  ("SINGLE LEFT-POINTING ANGLE QUOTATION MARK", 8249),
  ("SINGLE RIGHT-POINTING ANGLE QUOTATION MARK", 8250), ("REFERENCE MARK", 8251),
  ("DOUBLE EXCLAMATION MARK", 8252), ("INTERROBANG", 8253), ("OVERLINE", 8254), ("UNDERTIE", 8255),
  ("CHARACTER TIE", 8256), ("CARET INSERTION POINT", 8257), ("ASTERISM", 8258),
  ("HYPHEN BULLET", 8259), ("FRACTION SLASH", 8260), ("LEFT SQUARE BRACKET WITH QUILL", 8261),
  ("RIGHT SQUARE BRACKET WITH QUILL", 8262), ("DOUBLE QUESTION MARK", 8263),
  ("QUESTION EXCLAMATION MARK", 8264), ("EXCLAMATION QUESTION MARK", 8265),
  ("TIRONIAN SIGN ET", 8266), ("REVERSED PILCROW SIGN", 8267), ("BLACK LEFTWARDS BULLET", 8268),
  ("BLACK RIGHTWARDS BULLET", 8269), ("LOW ASTERISK", 8270), ("REVERSED SEMICOLON", 8271),
  ("CLOSE UP", 8272), ("TWO ASTERISKS ALIGNED VERTICALLY", 8273), ("COMMERCIAL MINUS SIGN", 8274),
  ("SWUNG DASH", 8275), ("INVERTED UNDERTIE", 8276), ("FLOWER PUNCTUATION MARK", 8277),
  ("THREE DOT PUNCTUATION", 8278), ("QUADRUPLE PRIME", 8279), ("FOUR DOT PUNCTUATION", 8280),
  ("FIVE DOT PUNCTUATION", 8281), ("TWO DOT PUNCTUATION", 8282), ("FOUR DOT MARK", 8283),
  ("DOTTED CROSS", 8284), ("TRICOLON", 8285), ("VERTICAL FOUR DOTS", 8286),
  ("EURO-CURRENCY SIGN", 8352), ("COLON SIGN", 8353), ("CRUZEIRO SIGN", 8354),
  ("FRENCH FRANC SIGN", 8355), ("LIRA SIGN", 8356), ("MILL SIGN", 8357), ("NAIRA SIGN", 8358),
  ("PESETA SIGN", 8359), ("RUPEE SIGN", 8360), ("WON SIGN", 8361), ("NEW SHEQEL SIGN", 8362),
  ("DONG SIGN", 8363), ("EURO SIGN", 8364), ("KIP SIGN", 8365), ("TUGRIK SIGN", 8366),
  ("DRACHMA SIGN", 8367), ("GERMAN PENNY SIGN", 8368), ("PESO SIGN", 8369), ("GUARANI SIGN", 8370),
  ("AUSTRAL SIGN", 8371), ("HRYVNIA SIGN", 8372), ("CEDI SIGN", 8373),
  ("LIVRE TOURNOIS SIGN", 8374), ("SPESMILO SIGN", 8375), ("TENGE SIGN", 8376),
  ("INDIAN RUPEE SIGN", 8377), ("TURKISH LIRA SIGN", 8378), ("NORDIC MARK SIGN", 8379),
  ("MANAT SIGN", 8380), ("RUBLE SIGN", 8381), ("LARI SIGN", 8382), ("BITCOIN SIGN", 8383),
  ("SOM SIGN", 8384), ("ACCOUNT OF", 8448), ("ADDRESSED TO THE SUBJECT", 8449),
  ("DOUBLE-STRUCK CAPITAL C", 8450), ("DEGREE CELSIUS", 8451), ("CENTRE LINE SYMBOL", 8452),
  ("CARE OF", 8453), ("CADA UNA", 8454), ("EULER CONSTANT", 8455), ("SCRUPLE", 8456),
  ("DEGREE FAHRENHEIT", 8457), ("SCRIPT SMALL G", 8458), ("SCRIPT CAPITAL H", 8459),
  ("BLACK-LETTER CAPITAL H", 8460), ("DOUBLE-STRUCK CAPITAL H", 8461), ("PLANCK CONSTANT", 8462),
  ("PLANCK CONSTANT OVER TWO PI", 8463), ("SCRIPT CAPITAL I", 8464),
  ("BLACK-LETTER CAPITAL I", 8465), ("SCRIPT CAPITAL L", 8466), ("SCRIPT SMALL L", 8467),
  ("L B BAR SYMBOL", 8468), ("DOUBLE-STRUCK CAPITAL N", 8469), ("NUMERO SIGN", 8470),
  ("SOUND RECORDING COPYRIGHT", 8471), ("SCRIPT CAPITAL P", 8472),
  ("DOUBLE-STRUCK CAPITAL P", 8473), ("DOUBLE-STRUCK CAPITAL Q", 8474), ("SCRIPT CAPITAL R", 8475),
  ("BLACK-LETTER CAPITAL R", 8476), ("DOUBLE-STRUCK CAPITAL R", 8477), ("PRESCRIPTION TAKE", 8478),
  ("RESPONSE", 8479), ("SERVICE MARK", 8480), ("TELEPHONE SIGN", 8481), ("TRADE MARK SIGN", 8482),
  ("VERSICLE", 8483), ("DOUBLE-STRUCK CAPITAL Z", 8484), ("OUNCE SIGN", 8485), ("OHM SIGN", 8486),
  ("INVERTED OHM SIGN", 8487), ("BLACK-LETTER CAPITAL Z", 8488),
  ("TURNED GREEK SMALL LETTER IOTA", 8489), ("KELVIN SIGN", 8490), ("ANGSTROM SIGN", 8491),
  ("SCRIPT CAPITAL B", 8492), ("BLACK-LETTER CAPITAL C", 8493), ("ESTIMATED SYMBOL", 8494),
  ("SCRIPT SMALL E", 8495), ("SCRIPT CAPITAL E", 8496), ("SCRIPT CAPITAL F", 8497),
  ("TURNED CAPITAL F", 8498), ("SCRIPT CAPITAL M", 8499), ("SCRIPT SMALL O", 8500),
  ("ALEF SYMBOL", 8501), ("BET SYMBOL", 8502), ("GIMEL SYMBOL", 8503), ("DALET SYMBOL", 8504),
  ("INFORMATION SOURCE", 8505), ("ROTATED CAPITAL Q", 8506), ("FACSIMILE SIGN", 8507),
  ("DOUBLE-STRUCK SMALL PI", 8508), ("DOUBLE-STRUCK SMALL GAMMA", 8509),
  ("DOUBLE-STRUCK CAPITAL GAMMA", 8510), ("DOUBLE-STRUCK CAPITAL PI", 8511),
  ("DOUBLE-STRUCK N-ARY SUMMATION", 8512), ("TURNED SANS-SERIF CAPITAL G", 8513),
  ("TURNED SANS-SERIF CAPITAL L", 8514), ("REVERSED SANS-SERIF CAPITAL L", 8515),
  ("TURNED SANS-SERIF CAPITAL Y", 8516), ("DOUBLE-STRUCK ITALIC CAPITAL D", 8517),
  ("DOUBLE-STRUCK ITALIC SMALL D", 8518), ("DOUBLE-STRUCK ITALIC SMALL E", 8519),
  ("DOUBLE-STRUCK ITALIC SMALL I", 8520), ("DOUBLE-STRUCK ITALIC SMALL J", 8521)]

/-- Named characters from U+214A on. -/
def charNames8522 : Array (String × Nat) := #[
  ("PROPERTY LINE", 8522), ("TURNED AMPERSAND", 8523), ("PER SIGN", 8524), ("AKTIESELSKAB", 8525),
  ("TURNED SMALL F", 8526), ("SYMBOL FOR SAMARITAN SOURCE", 8527), ("LEFTWARDS ARROW", 8592),
  ("UPWARDS ARROW", 8593), ("RIGHTWARDS ARROW", 8594), ("DOWNWARDS ARROW", 8595),
  ("LEFT RIGHT ARROW", 8596), ("UP DOWN ARROW", 8597), ("NORTH WEST ARROW", 8598),
  ("NORTH EAST ARROW", 8599), ("SOUTH EAST ARROW", 8600), ("SOUTH WEST ARROW", 8601),
  ("LEFTWARDS ARROW WITH STROKE", 8602), ("RIGHTWARDS ARROW WITH STROKE", 8603),
  ("LEFTWARDS WAVE ARROW", 8604), ("RIGHTWARDS WAVE ARROW", 8605),
  ("LEFTWARDS TWO HEADED ARROW", 8606), ("UPWARDS TWO HEADED ARROW", 8607),
  ("RIGHTWARDS TWO HEADED ARROW", 8608), ("DOWNWARDS TWO HEADED ARROW", 8609),
  ("LEFTWARDS ARROW WITH TAIL", 8610), ("RIGHTWARDS ARROW WITH TAIL", 8611),
  ("LEFTWARDS ARROW FROM BAR", 8612), ("UPWARDS ARROW FROM BAR", 8613),
  ("RIGHTWARDS ARROW FROM BAR", 8614), ("DOWNWARDS ARROW FROM BAR", 8615),
  ("UP DOWN ARROW WITH BASE", 8616), ("LEFTWARDS ARROW WITH HOOK", 8617),
  ("RIGHTWARDS ARROW WITH HOOK", 8618), ("LEFTWARDS ARROW WITH LOOP", 8619),
  ("RIGHTWARDS ARROW WITH LOOP", 8620), ("LEFT RIGHT WAVE ARROW", 8621),
  ("LEFT RIGHT ARROW WITH STROKE", 8622), ("DOWNWARDS ZIGZAG ARROW", 8623),
  ("UPWARDS ARROW WITH TIP LEFTWARDS", 8624), ("UPWARDS ARROW WITH TIP RIGHTWARDS", 8625),
  ("DOWNWARDS ARROW WITH TIP LEFTWARDS", 8626), ("DOWNWARDS ARROW WITH TIP RIGHTWARDS", 8627),
  ("RIGHTWARDS ARROW WITH CORNER DOWNWARDS", 8628),
  ("DOWNWARDS ARROW WITH CORNER LEFTWARDS", 8629), ("ANTICLOCKWISE TOP SEMICIRCLE ARROW", 8630),
  ("CLOCKWISE TOP SEMICIRCLE ARROW", 8631), ("NORTH WEST ARROW TO LONG BAR", 8632),
  ("LEFTWARDS ARROW TO BAR OVER RIGHTWARDS ARROW TO BAR", 8633),
  ("ANTICLOCKWISE OPEN CIRCLE ARROW", 8634), ("CLOCKWISE OPEN CIRCLE ARROW", 8635),
  ("LEFTWARDS HARPOON WITH BARB UPWARDS", 8636), ("LEFTWARDS HARPOON WITH BARB DOWNWARDS", 8637),
  ("UPWARDS HARPOON WITH BARB RIGHTWARDS", 8638), ("UPWARDS HARPOON WITH BARB LEFTWARDS", 8639),
  ("RIGHTWARDS HARPOON WITH BARB UPWARDS", 8640), ("RIGHTWARDS HARPOON WITH BARB DOWNWARDS", 8641),
  ("DOWNWARDS HARPOON WITH BARB RIGHTWARDS", 8642),
  ("DOWNWARDS HARPOON WITH BARB LEFTWARDS", 8643), ("RIGHTWARDS ARROW OVER LEFTWARDS ARROW", 8644),
  ("UPWARDS ARROW LEFTWARDS OF DOWNWARDS ARROW", 8645),
  ("LEFTWARDS ARROW OVER RIGHTWARDS ARROW", 8646), ("LEFTWARDS PAIRED ARROWS", 8647),
  ("UPWARDS PAIRED ARROWS", 8648), ("RIGHTWARDS PAIRED ARROWS", 8649),
  ("DOWNWARDS PAIRED ARROWS", 8650), ("LEFTWARDS HARPOON OVER RIGHTWARDS HARPOON", 8651),
  ("RIGHTWARDS HARPOON OVER LEFTWARDS HARPOON", 8652),
  ("LEFTWARDS DOUBLE ARROW WITH STROKE", 8653), ("LEFT RIGHT DOUBLE ARROW WITH STROKE", 8654),
  ("RIGHTWARDS DOUBLE ARROW WITH STROKE", 8655), ("LEFTWARDS DOUBLE ARROW", 8656),
  ("UPWARDS DOUBLE ARROW", 8657), ("RIGHTWARDS DOUBLE ARROW", 8658),
  ("DOWNWARDS DOUBLE ARROW", 8659), ("LEFT RIGHT DOUBLE ARROW", 8660),
  ("UP DOWN DOUBLE ARROW", 8661), ("NORTH WEST DOUBLE ARROW", 8662),
  ("NORTH EAST DOUBLE ARROW", 8663), ("SOUTH EAST DOUBLE ARROW", 8664),
  ("SOUTH WEST DOUBLE ARROW", 8665), ("LEFTWARDS TRIPLE ARROW", 8666),
  ("RIGHTWARDS TRIPLE ARROW", 8667), ("LEFTWARDS SQUIGGLE ARROW", 8668),
  ("RIGHTWARDS SQUIGGLE ARROW", 8669), ("UPWARDS ARROW WITH DOUBLE STROKE", 8670),
  ("DOWNWARDS ARROW WITH DOUBLE STROKE", 8671), ("LEFTWARDS DASHED ARROW", 8672),
  ("UPWARDS DASHED ARROW", 8673), ("RIGHTWARDS DASHED ARROW", 8674),
  ("DOWNWARDS DASHED ARROW", 8675), ("LEFTWARDS ARROW TO BAR", 8676),
  ("RIGHTWARDS ARROW TO BAR", 8677), ("LEFTWARDS WHITE ARROW", 8678),
  ("UPWARDS WHITE ARROW", 8679), ("RIGHTWARDS WHITE ARROW", 8680), ("DOWNWARDS WHITE ARROW", 8681),
  ("UPWARDS WHITE ARROW FROM BAR", 8682), ("UPWARDS WHITE ARROW ON PEDESTAL", 8683),
  ("UPWARDS WHITE ARROW ON PEDESTAL WITH HORIZONTAL BAR", 8684),
  ("UPWARDS WHITE ARROW ON PEDESTAL WITH VERTICAL BAR", 8685),
  ("UPWARDS WHITE DOUBLE ARROW", 8686), ("UPWARDS WHITE DOUBLE ARROW ON PEDESTAL", 8687),
  ("RIGHTWARDS WHITE ARROW FROM WALL", 8688), ("NORTH WEST ARROW TO CORNER", 8689),
  ("SOUTH EAST ARROW TO CORNER", 8690), ("UP DOWN WHITE ARROW", 8691),
  ("RIGHT ARROW WITH SMALL CIRCLE", 8692), ("DOWNWARDS ARROW LEFTWARDS OF UPWARDS ARROW", 8693),
  ("THREE RIGHTWARDS ARROWS", 8694), ("LEFTWARDS ARROW WITH VERTICAL STROKE", 8695),
  ("RIGHTWARDS ARROW WITH VERTICAL STROKE", 8696), ("LEFT RIGHT ARROW WITH VERTICAL STROKE", 8697),
  ("LEFTWARDS ARROW WITH DOUBLE VERTICAL STROKE", 8698),
  ("RIGHTWARDS ARROW WITH DOUBLE VERTICAL STROKE", 8699),
  ("LEFT RIGHT ARROW WITH DOUBLE VERTICAL STROKE", 8700), ("LEFTWARDS OPEN-HEADED ARROW", 8701),
  ("RIGHTWARDS OPEN-HEADED ARROW", 8702), ("LEFT RIGHT OPEN-HEADED ARROW", 8703),
  ("FOR ALL", 8704), ("COMPLEMENT", 8705), ("PARTIAL DIFFERENTIAL", 8706), ("THERE EXISTS", 8707),
  ("THERE DOES NOT EXIST", 8708), ("EMPTY SET", 8709), ("INCREMENT", 8710), ("NABLA", 8711),
  ("ELEMENT OF", 8712), ("NOT AN ELEMENT OF", 8713), ("SMALL ELEMENT OF", 8714),
  ("CONTAINS AS MEMBER", 8715), ("DOES NOT CONTAIN AS MEMBER", 8716),
  ("SMALL CONTAINS AS MEMBER", 8717), ("END OF PROOF", 8718), ("N-ARY PRODUCT", 8719),
  ("N-ARY COPRODUCT", 8720), ("N-ARY SUMMATION", 8721), ("MINUS SIGN", 8722),
  ("MINUS-OR-PLUS SIGN", 8723), ("DOT PLUS", 8724), ("DIVISION SLASH", 8725), ("SET MINUS", 8726),
  ("ASTERISK OPERATOR", 8727), ("RING OPERATOR", 8728), ("BULLET OPERATOR", 8729),
  ("SQUARE ROOT", 8730), ("CUBE ROOT", 8731), ("FOURTH ROOT", 8732), ("PROPORTIONAL TO", 8733),
  ("INFINITY", 8734), ("RIGHT ANGLE", 8735), ("ANGLE", 8736), ("MEASURED ANGLE", 8737),
  ("SPHERICAL ANGLE", 8738), ("DIVIDES", 8739), ("DOES NOT DIVIDE", 8740), ("PARALLEL TO", 8741),
  ("NOT PARALLEL TO", 8742), ("LOGICAL AND", 8743), ("LOGICAL OR", 8744), ("INTERSECTION", 8745),
  ("UNION", 8746), ("INTEGRAL", 8747), ("DOUBLE INTEGRAL", 8748), ("TRIPLE INTEGRAL", 8749),
  ("CONTOUR INTEGRAL", 8750), ("SURFACE INTEGRAL", 8751), ("VOLUME INTEGRAL", 8752),
  ("CLOCKWISE INTEGRAL", 8753), ("CLOCKWISE CONTOUR INTEGRAL", 8754),
  ("ANTICLOCKWISE CONTOUR INTEGRAL", 8755), ("THEREFORE", 8756), ("BECAUSE", 8757),
  ("RATIO", 8758), ("PROPORTION", 8759), ("DOT MINUS", 8760), ("EXCESS", 8761),
  ("GEOMETRIC PROPORTION", 8762), ("HOMOTHETIC", 8763), ("TILDE OPERATOR", 8764),
  ("REVERSED TILDE", 8765), ("INVERTED LAZY S", 8766), ("SINE WAVE", 8767),
  ("WREATH PRODUCT", 8768), ("NOT TILDE", 8769), ("MINUS TILDE", 8770),
  ("ASYMPTOTICALLY EQUAL TO", 8771), ("NOT ASYMPTOTICALLY EQUAL TO", 8772),
  ("APPROXIMATELY EQUAL TO", 8773), ("APPROXIMATELY BUT NOT ACTUALLY EQUAL TO", 8774),
  ("NEITHER APPROXIMATELY NOR ACTUALLY EQUAL TO", 8775), ("ALMOST EQUAL TO", 8776),
  ("NOT ALMOST EQUAL TO", 8777), ("ALMOST EQUAL OR EQUAL TO", 8778), ("TRIPLE TILDE", 8779),
  ("ALL EQUAL TO", 8780), ("EQUIVALENT TO", 8781), ("GEOMETRICALLY EQUIVALENT TO", 8782),
  ("DIFFERENCE BETWEEN", 8783), ("APPROACHES THE LIMIT", 8784), ("GEOMETRICALLY EQUAL TO", 8785),
  ("APPROXIMATELY EQUAL TO OR THE IMAGE OF", 8786), ("IMAGE OF OR APPROXIMATELY EQUAL TO", 8787),
  ("COLON EQUALS", 8788), ("EQUALS COLON", 8789), ("RING IN EQUAL TO", 8790),
  ("RING EQUAL TO", 8791), ("CORRESPONDS TO", 8792), ("ESTIMATES", 8793), ("EQUIANGULAR TO", 8794),
  ("STAR EQUALS", 8795), ("DELTA EQUAL TO", 8796), ("EQUAL TO BY DEFINITION", 8797),
  ("MEASURED BY", 8798), ("QUESTIONED EQUAL TO", 8799), ("NOT EQUAL TO", 8800),
  ("IDENTICAL TO", 8801), ("NOT IDENTICAL TO", 8802), ("STRICTLY EQUIVALENT TO", 8803),
  ("LESS-THAN OR EQUAL TO", 8804), ("GREATER-THAN OR EQUAL TO", 8805),
  ("LESS-THAN OVER EQUAL TO", 8806), ("GREATER-THAN OVER EQUAL TO", 8807),
  ("LESS-THAN BUT NOT EQUAL TO", 8808), ("GREATER-THAN BUT NOT EQUAL TO", 8809),
  ("MUCH LESS-THAN", 8810), ("MUCH GREATER-THAN", 8811), ("BETWEEN", 8812),
  ("NOT EQUIVALENT TO", 8813), ("NOT LESS-THAN", 8814), ("NOT GREATER-THAN", 8815),
  ("NEITHER LESS-THAN NOR EQUAL TO", 8816), ("NEITHER GREATER-THAN NOR EQUAL TO", 8817),
  ("LESS-THAN OR EQUIVALENT TO", 8818), ("GREATER-THAN OR EQUIVALENT TO", 8819),
  ("NEITHER LESS-THAN NOR EQUIVALENT TO", 8820), ("NEITHER GREATER-THAN NOR EQUIVALENT TO", 8821),
  ("LESS-THAN OR GREATER-THAN", 8822), ("GREATER-THAN OR LESS-THAN", 8823),
  ("NEITHER LESS-THAN NOR GREATER-THAN", 8824), ("NEITHER GREATER-THAN NOR LESS-THAN", 8825),
  ("PRECEDES", 8826), ("SUCCEEDS", 8827), ("PRECEDES OR EQUAL TO", 8828),
  ("SUCCEEDS OR EQUAL TO", 8829), ("PRECEDES OR EQUIVALENT TO", 8830),
  ("SUCCEEDS OR EQUIVALENT TO", 8831), ("DOES NOT PRECEDE", 8832), ("DOES NOT SUCCEED", 8833),
  ("SUBSET OF", 8834), ("SUPERSET OF", 8835)]

/-- Named characters from U+2284 on. -/
def charNames8836 : Array (String × Nat) := #[
  ("NOT A SUBSET OF", 8836), ("NOT A SUPERSET OF", 8837), ("SUBSET OF OR EQUAL TO", 8838),
  ("SUPERSET OF OR EQUAL TO", 8839), ("NEITHER A SUBSET OF NOR EQUAL TO", 8840),
  ("NEITHER A SUPERSET OF NOR EQUAL TO", 8841), ("SUBSET OF WITH NOT EQUAL TO", 8842),
  ("SUPERSET OF WITH NOT EQUAL TO", 8843), ("MULTISET", 8844), ("MULTISET MULTIPLICATION", 8845),
  ("MULTISET UNION", 8846), ("SQUARE IMAGE OF", 8847), ("SQUARE ORIGINAL OF", 8848),
  ("SQUARE IMAGE OF OR EQUAL TO", 8849), ("SQUARE ORIGINAL OF OR EQUAL TO", 8850),
  ("SQUARE CAP", 8851), ("SQUARE CUP", 8852), ("CIRCLED PLUS", 8853), ("CIRCLED MINUS", 8854),
  ("CIRCLED TIMES", 8855), ("CIRCLED DIVISION SLASH", 8856), ("CIRCLED DOT OPERATOR", 8857),
  ("CIRCLED RING OPERATOR", 8858), ("CIRCLED ASTERISK OPERATOR", 8859), ("CIRCLED EQUALS", 8860),
  ("CIRCLED DASH", 8861), ("SQUARED PLUS", 8862), ("SQUARED MINUS", 8863), ("SQUARED TIMES", 8864),
  ("SQUARED DOT OPERATOR", 8865), ("RIGHT TACK", 8866), ("LEFT TACK", 8867), ("DOWN TACK", 8868),
  ("UP TACK", 8869), ("ASSERTION", 8870), ("MODELS", 8871), ("TRUE", 8872), ("FORCES", 8873),
  ("TRIPLE VERTICAL BAR RIGHT TURNSTILE", 8874),
  ("DOUBLE VERTICAL BAR DOUBLE RIGHT TURNSTILE", 8875), ("DOES NOT PROVE", 8876),
  ("NOT TRUE", 8877), ("DOES NOT FORCE", 8878),
  ("NEGATED DOUBLE VERTICAL BAR DOUBLE RIGHT TURNSTILE", 8879), ("PRECEDES UNDER RELATION", 8880),
  ("SUCCEEDS UNDER RELATION", 8881), ("NORMAL SUBGROUP OF", 8882),
  ("CONTAINS AS NORMAL SUBGROUP", 8883), ("NORMAL SUBGROUP OF OR EQUAL TO", 8884),
  ("CONTAINS AS NORMAL SUBGROUP OR EQUAL TO", 8885), ("ORIGINAL OF", 8886), ("IMAGE OF", 8887),
  ("MULTIMAP", 8888), ("HERMITIAN CONJUGATE MATRIX", 8889), ("INTERCALATE", 8890), ("XOR", 8891),
  ("NAND", 8892), ("NOR", 8893), ("RIGHT ANGLE WITH ARC", 8894), ("RIGHT TRIANGLE", 8895),
  ("N-ARY LOGICAL AND", 8896), ("N-ARY LOGICAL OR", 8897), ("N-ARY INTERSECTION", 8898),
  ("N-ARY UNION", 8899), ("DIAMOND OPERATOR", 8900), ("DOT OPERATOR", 8901),
  ("STAR OPERATOR", 8902), ("DIVISION TIMES", 8903), ("BOWTIE", 8904),
  ("LEFT NORMAL FACTOR SEMIDIRECT PRODUCT", 8905),
  ("RIGHT NORMAL FACTOR SEMIDIRECT PRODUCT", 8906), ("LEFT SEMIDIRECT PRODUCT", 8907),
  ("RIGHT SEMIDIRECT PRODUCT", 8908), ("REVERSED TILDE EQUALS", 8909), ("CURLY LOGICAL OR", 8910),
  ("CURLY LOGICAL AND", 8911), ("DOUBLE SUBSET", 8912), ("DOUBLE SUPERSET", 8913),
  ("DOUBLE INTERSECTION", 8914), ("DOUBLE UNION", 8915), ("PITCHFORK", 8916),
  ("EQUAL AND PARALLEL TO", 8917), ("LESS-THAN WITH DOT", 8918), ("GREATER-THAN WITH DOT", 8919),
  ("VERY MUCH LESS-THAN", 8920), ("VERY MUCH GREATER-THAN", 8921),
  ("LESS-THAN EQUAL TO OR GREATER-THAN", 8922), ("GREATER-THAN EQUAL TO OR LESS-THAN", 8923),
  ("EQUAL TO OR LESS-THAN", 8924), ("EQUAL TO OR GREATER-THAN", 8925),
  ("EQUAL TO OR PRECEDES", 8926), ("EQUAL TO OR SUCCEEDS", 8927),
  ("DOES NOT PRECEDE OR EQUAL", 8928), ("DOES NOT SUCCEED OR EQUAL", 8929),
  ("NOT SQUARE IMAGE OF OR EQUAL TO", 8930), ("NOT SQUARE ORIGINAL OF OR EQUAL TO", 8931),
  ("SQUARE IMAGE OF OR NOT EQUAL TO", 8932), ("SQUARE ORIGINAL OF OR NOT EQUAL TO", 8933),
  ("LESS-THAN BUT NOT EQUIVALENT TO", 8934), ("GREATER-THAN BUT NOT EQUIVALENT TO", 8935),
  ("PRECEDES BUT NOT EQUIVALENT TO", 8936), ("SUCCEEDS BUT NOT EQUIVALENT TO", 8937),
  ("NOT NORMAL SUBGROUP OF", 8938), ("DOES NOT CONTAIN AS NORMAL SUBGROUP", 8939),
  ("NOT NORMAL SUBGROUP OF OR EQUAL TO", 8940),
  ("DOES NOT CONTAIN AS NORMAL SUBGROUP OR EQUAL", 8941), ("VERTICAL ELLIPSIS", 8942),
  ("MIDLINE HORIZONTAL ELLIPSIS", 8943), ("UP RIGHT DIAGONAL ELLIPSIS", 8944),
  ("DOWN RIGHT DIAGONAL ELLIPSIS", 8945), ("ELEMENT OF WITH LONG HORIZONTAL STROKE", 8946),
  ("ELEMENT OF WITH VERTICAL BAR AT END OF HORIZONTAL STROKE", 8947),
  ("SMALL ELEMENT OF WITH VERTICAL BAR AT END OF HORIZONTAL STROKE", 8948),
  ("ELEMENT OF WITH DOT ABOVE", 8949), ("ELEMENT OF WITH OVERBAR", 8950),
  ("SMALL ELEMENT OF WITH OVERBAR", 8951), ("ELEMENT OF WITH UNDERBAR", 8952),
  ("ELEMENT OF WITH TWO HORIZONTAL STROKES", 8953), ("CONTAINS WITH LONG HORIZONTAL STROKE", 8954),
  ("CONTAINS WITH VERTICAL BAR AT END OF HORIZONTAL STROKE", 8955),
  ("SMALL CONTAINS WITH VERTICAL BAR AT END OF HORIZONTAL STROKE", 8956),
  ("CONTAINS WITH OVERBAR", 8957), ("SMALL CONTAINS WITH OVERBAR", 8958),
  ("Z NOTATION BAG MEMBERSHIP", 8959), ("DIAMETER SIGN", 8960), ("ELECTRIC ARROW", 8961),
  ("HOUSE", 8962), ("UP ARROWHEAD", 8963), ("DOWN ARROWHEAD", 8964), ("PROJECTIVE", 8965),
  ("PERSPECTIVE", 8966), ("WAVY LINE", 8967), ("LEFT CEILING", 8968), ("RIGHT CEILING", 8969),
  ("LEFT FLOOR", 8970), ("RIGHT FLOOR", 8971), ("BOTTOM RIGHT CROP", 8972),
  ("BOTTOM LEFT CROP", 8973), ("TOP RIGHT CROP", 8974), ("TOP LEFT CROP", 8975),
  ("REVERSED NOT SIGN", 8976), ("SQUARE LOZENGE", 8977), ("BOX DRAWINGS LIGHT HORIZONTAL", 9472),
  ("BOX DRAWINGS HEAVY HORIZONTAL", 9473), ("BOX DRAWINGS LIGHT VERTICAL", 9474),
  ("BOX DRAWINGS HEAVY VERTICAL", 9475), ("BOX DRAWINGS LIGHT TRIPLE DASH HORIZONTAL", 9476),
  ("BOX DRAWINGS HEAVY TRIPLE DASH HORIZONTAL", 9477),
  ("BOX DRAWINGS LIGHT TRIPLE DASH VERTICAL", 9478),
  ("BOX DRAWINGS HEAVY TRIPLE DASH VERTICAL", 9479),
  ("BOX DRAWINGS LIGHT QUADRUPLE DASH HORIZONTAL", 9480),
  ("BOX DRAWINGS HEAVY QUADRUPLE DASH HORIZONTAL", 9481),
  ("BOX DRAWINGS LIGHT QUADRUPLE DASH VERTICAL", 9482),
  ("BOX DRAWINGS HEAVY QUADRUPLE DASH VERTICAL", 9483),
  ("BOX DRAWINGS LIGHT DOWN AND RIGHT", 9484), ("BOX DRAWINGS DOWN LIGHT AND RIGHT HEAVY", 9485),
  ("BOX DRAWINGS DOWN HEAVY AND RIGHT LIGHT", 9486), ("BOX DRAWINGS HEAVY DOWN AND RIGHT", 9487),
  ("BOX DRAWINGS LIGHT DOWN AND LEFT", 9488), ("BOX DRAWINGS DOWN LIGHT AND LEFT HEAVY", 9489),
  ("BOX DRAWINGS DOWN HEAVY AND LEFT LIGHT", 9490), ("BOX DRAWINGS HEAVY DOWN AND LEFT", 9491),
  ("BOX DRAWINGS LIGHT UP AND RIGHT", 9492), ("BOX DRAWINGS UP LIGHT AND RIGHT HEAVY", 9493),
  ("BOX DRAWINGS UP HEAVY AND RIGHT LIGHT", 9494), ("BOX DRAWINGS HEAVY UP AND RIGHT", 9495),
  ("BOX DRAWINGS LIGHT UP AND LEFT", 9496), ("BOX DRAWINGS UP LIGHT AND LEFT HEAVY", 9497),
  ("BOX DRAWINGS UP HEAVY AND LEFT LIGHT", 9498), ("BOX DRAWINGS HEAVY UP AND LEFT", 9499),
  ("BOX DRAWINGS LIGHT VERTICAL AND RIGHT", 9500),
  ("BOX DRAWINGS VERTICAL LIGHT AND RIGHT HEAVY", 9501),
  ("BOX DRAWINGS UP HEAVY AND RIGHT DOWN LIGHT", 9502),
  ("BOX DRAWINGS DOWN HEAVY AND RIGHT UP LIGHT", 9503),
  ("BOX DRAWINGS VERTICAL HEAVY AND RIGHT LIGHT", 9504),
  ("BOX DRAWINGS DOWN LIGHT AND RIGHT UP HEAVY", 9505),
  ("BOX DRAWINGS UP LIGHT AND RIGHT DOWN HEAVY", 9506),
  ("BOX DRAWINGS HEAVY VERTICAL AND RIGHT", 9507), ("BOX DRAWINGS LIGHT VERTICAL AND LEFT", 9508),
  ("BOX DRAWINGS VERTICAL LIGHT AND LEFT HEAVY", 9509),
  ("BOX DRAWINGS UP HEAVY AND LEFT DOWN LIGHT", 9510),
  ("BOX DRAWINGS DOWN HEAVY AND LEFT UP LIGHT", 9511),
  ("BOX DRAWINGS VERTICAL HEAVY AND LEFT LIGHT", 9512),
  ("BOX DRAWINGS DOWN LIGHT AND LEFT UP HEAVY", 9513),
  ("BOX DRAWINGS UP LIGHT AND LEFT DOWN HEAVY", 9514),
  ("BOX DRAWINGS HEAVY VERTICAL AND LEFT", 9515), ("BOX DRAWINGS LIGHT DOWN AND HORIZONTAL", 9516),
  ("BOX DRAWINGS LEFT HEAVY AND RIGHT DOWN LIGHT", 9517),
  ("BOX DRAWINGS RIGHT HEAVY AND LEFT DOWN LIGHT", 9518),
  ("BOX DRAWINGS DOWN LIGHT AND HORIZONTAL HEAVY", 9519),
  ("BOX DRAWINGS DOWN HEAVY AND HORIZONTAL LIGHT", 9520),
  ("BOX DRAWINGS RIGHT LIGHT AND LEFT DOWN HEAVY", 9521),
  ("BOX DRAWINGS LEFT LIGHT AND RIGHT DOWN HEAVY", 9522),
  ("BOX DRAWINGS HEAVY DOWN AND HORIZONTAL", 9523), ("BOX DRAWINGS LIGHT UP AND HORIZONTAL", 9524),
  ("BOX DRAWINGS LEFT HEAVY AND RIGHT UP LIGHT", 9525),
  ("BOX DRAWINGS RIGHT HEAVY AND LEFT UP LIGHT", 9526),
  ("BOX DRAWINGS UP LIGHT AND HORIZONTAL HEAVY", 9527),
  ("BOX DRAWINGS UP HEAVY AND HORIZONTAL LIGHT", 9528),
  ("BOX DRAWINGS RIGHT LIGHT AND LEFT UP HEAVY", 9529),
  ("BOX DRAWINGS LEFT LIGHT AND RIGHT UP HEAVY", 9530),
  ("BOX DRAWINGS HEAVY UP AND HORIZONTAL", 9531),
  ("BOX DRAWINGS LIGHT VERTICAL AND HORIZONTAL", 9532),
  ("BOX DRAWINGS LEFT HEAVY AND RIGHT VERTICAL LIGHT", 9533),
  ("BOX DRAWINGS RIGHT HEAVY AND LEFT VERTICAL LIGHT", 9534),
  ("BOX DRAWINGS VERTICAL LIGHT AND HORIZONTAL HEAVY", 9535),
  ("BOX DRAWINGS UP HEAVY AND DOWN HORIZONTAL LIGHT", 9536),
  ("BOX DRAWINGS DOWN HEAVY AND UP HORIZONTAL LIGHT", 9537),
  ("BOX DRAWINGS VERTICAL HEAVY AND HORIZONTAL LIGHT", 9538),
  ("BOX DRAWINGS LEFT UP HEAVY AND RIGHT DOWN LIGHT", 9539),
  ("BOX DRAWINGS RIGHT UP HEAVY AND LEFT DOWN LIGHT", 9540),
  ("BOX DRAWINGS LEFT DOWN HEAVY AND RIGHT UP LIGHT", 9541),
  ("BOX DRAWINGS RIGHT DOWN HEAVY AND LEFT UP LIGHT", 9542),
  ("BOX DRAWINGS DOWN LIGHT AND UP HORIZONTAL HEAVY", 9543),
  ("BOX DRAWINGS UP LIGHT AND DOWN HORIZONTAL HEAVY", 9544),
  ("BOX DRAWINGS RIGHT LIGHT AND LEFT VERTICAL HEAVY", 9545),
  ("BOX DRAWINGS LEFT LIGHT AND RIGHT VERTICAL HEAVY", 9546),
  ("BOX DRAWINGS HEAVY VERTICAL AND HORIZONTAL", 9547),
  ("BOX DRAWINGS LIGHT DOUBLE DASH HORIZONTAL", 9548),
  ("BOX DRAWINGS HEAVY DOUBLE DASH HORIZONTAL", 9549),
  ("BOX DRAWINGS LIGHT DOUBLE DASH VERTICAL", 9550),
  ("BOX DRAWINGS HEAVY DOUBLE DASH VERTICAL", 9551), ("BOX DRAWINGS DOUBLE HORIZONTAL", 9552),
  ("BOX DRAWINGS DOUBLE VERTICAL", 9553), ("BOX DRAWINGS DOWN SINGLE AND RIGHT DOUBLE", 9554),
  ("BOX DRAWINGS DOWN DOUBLE AND RIGHT SINGLE", 9555),
  ("BOX DRAWINGS DOUBLE DOWN AND RIGHT", 9556), ("BOX DRAWINGS DOWN SINGLE AND LEFT DOUBLE", 9557),
  ("BOX DRAWINGS DOWN DOUBLE AND LEFT SINGLE", 9558), ("BOX DRAWINGS DOUBLE DOWN AND LEFT", 9559),
  ("BOX DRAWINGS UP SINGLE AND RIGHT DOUBLE", 9560),
  ("BOX DRAWINGS UP DOUBLE AND RIGHT SINGLE", 9561), ("BOX DRAWINGS DOUBLE UP AND RIGHT", 9562),
  ("BOX DRAWINGS UP SINGLE AND LEFT DOUBLE", 9563),
  ("BOX DRAWINGS UP DOUBLE AND LEFT SINGLE", 9564), ("BOX DRAWINGS DOUBLE UP AND LEFT", 9565),
  ("BOX DRAWINGS VERTICAL SINGLE AND RIGHT DOUBLE", 9566),
  ("BOX DRAWINGS VERTICAL DOUBLE AND RIGHT SINGLE", 9567),
  ("BOX DRAWINGS DOUBLE VERTICAL AND RIGHT", 9568),
  ("BOX DRAWINGS VERTICAL SINGLE AND LEFT DOUBLE", 9569),
  ("BOX DRAWINGS VERTICAL DOUBLE AND LEFT SINGLE", 9570),
  ("BOX DRAWINGS DOUBLE VERTICAL AND LEFT", 9571),
  ("BOX DRAWINGS DOWN SINGLE AND HORIZONTAL DOUBLE", 9572),
  ("BOX DRAWINGS DOWN DOUBLE AND HORIZONTAL SINGLE", 9573),
  ("BOX DRAWINGS DOUBLE DOWN AND HORIZONTAL", 9574),
  ("BOX DRAWINGS UP SINGLE AND HORIZONTAL DOUBLE", 9575),
  ("BOX DRAWINGS UP DOUBLE AND HORIZONTAL SINGLE", 9576),
  ("BOX DRAWINGS DOUBLE UP AND HORIZONTAL", 9577),
  ("BOX DRAWINGS VERTICAL SINGLE AND HORIZONTAL DOUBLE", 9578),
  ("BOX DRAWINGS VERTICAL DOUBLE AND HORIZONTAL SINGLE", 9579)]

/-- Named characters from U+256C on. -/
def charNames9580 : Array (String × Nat) := #[
  ("BOX DRAWINGS DOUBLE VERTICAL AND HORIZONTAL", 9580),
  ("BOX DRAWINGS LIGHT ARC DOWN AND RIGHT", 9581), ("BOX DRAWINGS LIGHT ARC DOWN AND LEFT", 9582),
  ("BOX DRAWINGS LIGHT ARC UP AND LEFT", 9583), ("BOX DRAWINGS LIGHT ARC UP AND RIGHT", 9584),
  ("BOX DRAWINGS LIGHT DIAGONAL UPPER RIGHT TO LOWER LEFT", 9585),
  ("BOX DRAWINGS LIGHT DIAGONAL UPPER LEFT TO LOWER RIGHT", 9586),
  ("BOX DRAWINGS LIGHT DIAGONAL CROSS", 9587), ("BOX DRAWINGS LIGHT LEFT", 9588),
  ("BOX DRAWINGS LIGHT UP", 9589), ("BOX DRAWINGS LIGHT RIGHT", 9590),
  ("BOX DRAWINGS LIGHT DOWN", 9591), ("BOX DRAWINGS HEAVY LEFT", 9592),
  ("BOX DRAWINGS HEAVY UP", 9593), ("BOX DRAWINGS HEAVY RIGHT", 9594),
  ("BOX DRAWINGS HEAVY DOWN", 9595), ("BOX DRAWINGS LIGHT LEFT AND HEAVY RIGHT", 9596),
  ("BOX DRAWINGS LIGHT UP AND HEAVY DOWN", 9597),
  ("BOX DRAWINGS HEAVY LEFT AND LIGHT RIGHT", 9598),
  ("BOX DRAWINGS HEAVY UP AND LIGHT DOWN", 9599), ("UPPER HALF BLOCK", 9600),
  ("LOWER ONE EIGHTH BLOCK", 9601), ("LOWER ONE QUARTER BLOCK", 9602),
  ("LOWER THREE EIGHTHS BLOCK", 9603), ("LOWER HALF BLOCK", 9604),
  ("LOWER FIVE EIGHTHS BLOCK", 9605), ("LOWER THREE QUARTERS BLOCK", 9606),
  ("LOWER SEVEN EIGHTHS BLOCK", 9607), ("FULL BLOCK", 9608), ("LEFT SEVEN EIGHTHS BLOCK", 9609),
  ("LEFT THREE QUARTERS BLOCK", 9610), ("LEFT FIVE EIGHTHS BLOCK", 9611),
  ("LEFT HALF BLOCK", 9612), ("LEFT THREE EIGHTHS BLOCK", 9613), ("LEFT ONE QUARTER BLOCK", 9614),
  ("LEFT ONE EIGHTH BLOCK", 9615), ("RIGHT HALF BLOCK", 9616), ("LIGHT SHADE", 9617),
  ("MEDIUM SHADE", 9618), ("DARK SHADE", 9619), ("UPPER ONE EIGHTH BLOCK", 9620),
  ("RIGHT ONE EIGHTH BLOCK", 9621), ("QUADRANT LOWER LEFT", 9622), ("QUADRANT LOWER RIGHT", 9623),
  ("QUADRANT UPPER LEFT", 9624), ("QUADRANT UPPER LEFT AND LOWER LEFT AND LOWER RIGHT", 9625),
  ("QUADRANT UPPER LEFT AND LOWER RIGHT", 9626),
  ("QUADRANT UPPER LEFT AND UPPER RIGHT AND LOWER LEFT", 9627),
  ("QUADRANT UPPER LEFT AND UPPER RIGHT AND LOWER RIGHT", 9628), ("QUADRANT UPPER RIGHT", 9629),
  ("QUADRANT UPPER RIGHT AND LOWER LEFT", 9630),
  ("QUADRANT UPPER RIGHT AND LOWER LEFT AND LOWER RIGHT", 9631), ("BLACK SQUARE", 9632),
  ("WHITE SQUARE", 9633), ("WHITE SQUARE WITH ROUNDED CORNERS", 9634),
  ("WHITE SQUARE CONTAINING BLACK SMALL SQUARE", 9635), ("SQUARE WITH HORIZONTAL FILL", 9636),
  ("SQUARE WITH VERTICAL FILL", 9637), ("SQUARE WITH ORTHOGONAL CROSSHATCH FILL", 9638),
  ("SQUARE WITH UPPER LEFT TO LOWER RIGHT FILL", 9639),
  ("SQUARE WITH UPPER RIGHT TO LOWER LEFT FILL", 9640),
  ("SQUARE WITH DIAGONAL CROSSHATCH FILL", 9641), ("BLACK SMALL SQUARE", 9642),
  ("WHITE SMALL SQUARE", 9643), ("BLACK RECTANGLE", 9644), ("WHITE RECTANGLE", 9645),
  ("BLACK VERTICAL RECTANGLE", 9646), ("WHITE VERTICAL RECTANGLE", 9647),
  ("BLACK PARALLELOGRAM", 9648), ("WHITE PARALLELOGRAM", 9649),
  ("BLACK UP-POINTING TRIANGLE", 9650), ("WHITE UP-POINTING TRIANGLE", 9651),
  ("BLACK UP-POINTING SMALL TRIANGLE", 9652), ("WHITE UP-POINTING SMALL TRIANGLE", 9653),
  ("BLACK RIGHT-POINTING TRIANGLE", 9654), ("WHITE RIGHT-POINTING TRIANGLE", 9655),
  ("BLACK RIGHT-POINTING SMALL TRIANGLE", 9656), ("WHITE RIGHT-POINTING SMALL TRIANGLE", 9657),
  ("BLACK RIGHT-POINTING POINTER", 9658), ("WHITE RIGHT-POINTING POINTER", 9659),
  ("BLACK DOWN-POINTING TRIANGLE", 9660), ("WHITE DOWN-POINTING TRIANGLE", 9661),
  ("BLACK DOWN-POINTING SMALL TRIANGLE", 9662), ("WHITE DOWN-POINTING SMALL TRIANGLE", 9663),
  ("BLACK LEFT-POINTING TRIANGLE", 9664), ("WHITE LEFT-POINTING TRIANGLE", 9665),
  ("BLACK LEFT-POINTING SMALL TRIANGLE", 9666), ("WHITE LEFT-POINTING SMALL TRIANGLE", 9667),
  ("BLACK LEFT-POINTING POINTER", 9668), ("WHITE LEFT-POINTING POINTER", 9669),
  ("BLACK DIAMOND", 9670), ("WHITE DIAMOND", 9671),
  ("WHITE DIAMOND CONTAINING BLACK SMALL DIAMOND", 9672), ("FISHEYE", 9673), ("LOZENGE", 9674),
  ("WHITE CIRCLE", 9675), ("DOTTED CIRCLE", 9676), ("CIRCLE WITH VERTICAL FILL", 9677),
  ("BULLSEYE", 9678), ("BLACK CIRCLE", 9679), ("CIRCLE WITH LEFT HALF BLACK", 9680),
  ("CIRCLE WITH RIGHT HALF BLACK", 9681), ("CIRCLE WITH LOWER HALF BLACK", 9682),
  ("CIRCLE WITH UPPER HALF BLACK", 9683), ("CIRCLE WITH UPPER RIGHT QUADRANT BLACK", 9684),
  ("CIRCLE WITH ALL BUT UPPER LEFT QUADRANT BLACK", 9685), ("LEFT HALF BLACK CIRCLE", 9686),
  ("RIGHT HALF BLACK CIRCLE", 9687), ("INVERSE BULLET", 9688), ("INVERSE WHITE CIRCLE", 9689),
  ("UPPER HALF INVERSE WHITE CIRCLE", 9690), ("LOWER HALF INVERSE WHITE CIRCLE", 9691),
  ("UPPER LEFT QUADRANT CIRCULAR ARC", 9692), ("UPPER RIGHT QUADRANT CIRCULAR ARC", 9693),
  ("LOWER RIGHT QUADRANT CIRCULAR ARC", 9694), ("LOWER LEFT QUADRANT CIRCULAR ARC", 9695),
  ("UPPER HALF CIRCLE", 9696), ("LOWER HALF CIRCLE", 9697), ("BLACK LOWER RIGHT TRIANGLE", 9698),
  ("BLACK LOWER LEFT TRIANGLE", 9699), ("BLACK UPPER LEFT TRIANGLE", 9700),
  ("BLACK UPPER RIGHT TRIANGLE", 9701), ("WHITE BULLET", 9702),
  ("SQUARE WITH LEFT HALF BLACK", 9703), ("SQUARE WITH RIGHT HALF BLACK", 9704),
  ("SQUARE WITH UPPER LEFT DIAGONAL HALF BLACK", 9705),
  ("SQUARE WITH LOWER RIGHT DIAGONAL HALF BLACK", 9706),
  ("WHITE SQUARE WITH VERTICAL BISECTING LINE", 9707),
  ("WHITE UP-POINTING TRIANGLE WITH DOT", 9708),
  ("UP-POINTING TRIANGLE WITH LEFT HALF BLACK", 9709),
  ("UP-POINTING TRIANGLE WITH RIGHT HALF BLACK", 9710), ("LARGE CIRCLE", 9711),
  ("WHITE SQUARE WITH UPPER LEFT QUADRANT", 9712), ("WHITE SQUARE WITH LOWER LEFT QUADRANT", 9713),
  ("WHITE SQUARE WITH LOWER RIGHT QUADRANT", 9714),
  ("WHITE SQUARE WITH UPPER RIGHT QUADRANT", 9715),
  ("WHITE CIRCLE WITH UPPER LEFT QUADRANT", 9716), ("WHITE CIRCLE WITH LOWER LEFT QUADRANT", 9717),
  ("WHITE CIRCLE WITH LOWER RIGHT QUADRANT", 9718),
  ("WHITE CIRCLE WITH UPPER RIGHT QUADRANT", 9719), ("UPPER LEFT TRIANGLE", 9720),
  ("UPPER RIGHT TRIANGLE", 9721), ("LOWER LEFT TRIANGLE", 9722), ("WHITE MEDIUM SQUARE", 9723),
  ("BLACK MEDIUM SQUARE", 9724), ("WHITE MEDIUM SMALL SQUARE", 9725),
  ("BLACK MEDIUM SMALL SQUARE", 9726), ("LOWER RIGHT TRIANGLE", 9727),
  ("BLACK SUN WITH RAYS", 9728), ("CLOUD", 9729), ("UMBRELLA", 9730), ("SNOWMAN", 9731),
  ("COMET", 9732), ("BLACK STAR", 9733), ("WHITE STAR", 9734), ("LIGHTNING", 9735),
  ("THUNDERSTORM", 9736), ("SUN", 9737), ("ASCENDING NODE", 9738), ("DESCENDING NODE", 9739),
  ("CONJUNCTION", 9740), ("OPPOSITION", 9741), ("BLACK TELEPHONE", 9742),
  ("WHITE TELEPHONE", 9743), ("BALLOT BOX", 9744), ("BALLOT BOX WITH CHECK", 9745),
  ("BALLOT BOX WITH X", 9746), ("SALTIRE", 9747), ("UMBRELLA WITH RAIN DROPS", 9748),
  ("HOT BEVERAGE", 9749), ("WHITE SHOGI PIECE", 9750), ("BLACK SHOGI PIECE", 9751),
  ("SHAMROCK", 9752), ("REVERSED ROTATED FLORAL HEART BULLET", 9753),
  ("BLACK LEFT POINTING INDEX", 9754), ("BLACK RIGHT POINTING INDEX", 9755),
  ("WHITE LEFT POINTING INDEX", 9756), ("WHITE UP POINTING INDEX", 9757),
  ("WHITE RIGHT POINTING INDEX", 9758), ("WHITE DOWN POINTING INDEX", 9759),
  ("SKULL AND CROSSBONES", 9760), ("CAUTION SIGN", 9761), ("RADIOACTIVE SIGN", 9762),
  ("BIOHAZARD SIGN", 9763), ("CADUCEUS", 9764), ("ANKH", 9765), ("ORTHODOX CROSS", 9766),
  ("CHI RHO", 9767), ("CROSS OF LORRAINE", 9768), ("CROSS OF JERUSALEM", 9769),
  ("STAR AND CRESCENT", 9770), ("FARSI SYMBOL", 9771), ("ADI SHAKTI", 9772),
  ("HAMMER AND SICKLE", 9773), ("PEACE SYMBOL", 9774), ("YIN YANG", 9775),
  ("TRIGRAM FOR HEAVEN", 9776), ("TRIGRAM FOR LAKE", 9777), ("TRIGRAM FOR FIRE", 9778),
  ("TRIGRAM FOR THUNDER", 9779), ("TRIGRAM FOR WIND", 9780), ("TRIGRAM FOR WATER", 9781),
  ("TRIGRAM FOR MOUNTAIN", 9782), ("TRIGRAM FOR EARTH", 9783), ("WHEEL OF DHARMA", 9784),
  ("WHITE FROWNING FACE", 9785), ("WHITE SMILING FACE", 9786), ("BLACK SMILING FACE", 9787),
  ("WHITE SUN WITH RAYS", 9788), ("FIRST QUARTER MOON", 9789), ("LAST QUARTER MOON", 9790),
  ("MERCURY", 9791), ("FEMALE SIGN", 9792), ("EARTH", 9793), ("MALE SIGN", 9794),
  ("JUPITER", 9795), ("SATURN", 9796), ("URANUS", 9797), ("NEPTUNE", 9798), ("PLUTO", 9799),
  ("ARIES", 9800), ("TAURUS", 9801), ("GEMINI", 9802), ("CANCER", 9803), ("LEO", 9804),
  ("VIRGO", 9805), ("LIBRA", 9806), ("SCORPIUS", 9807), ("SAGITTARIUS", 9808), ("CAPRICORN", 9809),
  ("AQUARIUS", 9810), ("PISCES", 9811), ("WHITE CHESS KING", 9812), ("WHITE CHESS QUEEN", 9813),
  ("WHITE CHESS ROOK", 9814), ("WHITE CHESS BISHOP", 9815), ("WHITE CHESS KNIGHT", 9816),
  ("WHITE CHESS PAWN", 9817), ("BLACK CHESS KING", 9818), ("BLACK CHESS QUEEN", 9819),
  ("BLACK CHESS ROOK", 9820), ("BLACK CHESS BISHOP", 9821), ("BLACK CHESS KNIGHT", 9822),
  ("BLACK CHESS PAWN", 9823), ("BLACK SPADE SUIT", 9824), ("WHITE HEART SUIT", 9825),
  ("WHITE DIAMOND SUIT", 9826), ("BLACK CLUB SUIT", 9827), ("WHITE SPADE SUIT", 9828),
  ("BLACK HEART SUIT", 9829)]

/-- Named characters from U+2666 on. -/
def charNames9830 : Array (String × Nat) := #[
  ("BLACK DIAMOND SUIT", 9830), ("WHITE CLUB SUIT", 9831), ("HOT SPRINGS", 9832),
  ("QUARTER NOTE", 9833), ("EIGHTH NOTE", 9834), ("BEAMED EIGHTH NOTES", 9835),
  ("BEAMED SIXTEENTH NOTES", 9836), ("MUSIC FLAT SIGN", 9837), ("MUSIC NATURAL SIGN", 9838),
  ("MUSIC SHARP SIGN", 9839), ("WEST SYRIAC CROSS", 9840), ("EAST SYRIAC CROSS", 9841),
  ("UNIVERSAL RECYCLING SYMBOL", 9842), ("RECYCLING SYMBOL FOR TYPE-1 PLASTICS", 9843),
  ("RECYCLING SYMBOL FOR TYPE-2 PLASTICS", 9844), ("RECYCLING SYMBOL FOR TYPE-3 PLASTICS", 9845),
  ("RECYCLING SYMBOL FOR TYPE-4 PLASTICS", 9846), ("RECYCLING SYMBOL FOR TYPE-5 PLASTICS", 9847),
  ("RECYCLING SYMBOL FOR TYPE-6 PLASTICS", 9848), ("RECYCLING SYMBOL FOR TYPE-7 PLASTICS", 9849),
  ("RECYCLING SYMBOL FOR GENERIC MATERIALS", 9850), ("BLACK UNIVERSAL RECYCLING SYMBOL", 9851),
  ("RECYCLED PAPER SYMBOL", 9852), ("PARTIALLY-RECYCLED PAPER SYMBOL", 9853),
  ("PERMANENT PAPER SIGN", 9854), ("WHEELCHAIR SYMBOL", 9855), ("DIE FACE-1", 9856),
  ("DIE FACE-2", 9857), ("DIE FACE-3", 9858), ("DIE FACE-4", 9859), ("DIE FACE-5", 9860),
  ("DIE FACE-6", 9861), ("WHITE CIRCLE WITH DOT RIGHT", 9862),
  ("WHITE CIRCLE WITH TWO DOTS", 9863), ("BLACK CIRCLE WITH WHITE DOT RIGHT", 9864),
  ("BLACK CIRCLE WITH TWO WHITE DOTS", 9865), ("MONOGRAM FOR YANG", 9866),
  ("MONOGRAM FOR YIN", 9867), ("DIGRAM FOR GREATER YANG", 9868), ("DIGRAM FOR LESSER YIN", 9869),
  ("DIGRAM FOR LESSER YANG", 9870), ("DIGRAM FOR GREATER YIN", 9871), ("WHITE FLAG", 9872),
  ("BLACK FLAG", 9873), ("HAMMER AND PICK", 9874), ("ANCHOR", 9875), ("CROSSED SWORDS", 9876),
  ("STAFF OF AESCULAPIUS", 9877), ("SCALES", 9878), ("ALEMBIC", 9879), ("FLOWER", 9880),
  ("GEAR", 9881), ("STAFF OF HERMES", 9882), ("ATOM SYMBOL", 9883), ("FLEUR-DE-LIS", 9884),
  ("OUTLINED WHITE STAR", 9885), ("THREE LINES CONVERGING RIGHT", 9886),
  ("THREE LINES CONVERGING LEFT", 9887), ("WARNING SIGN", 9888), ("HIGH VOLTAGE SIGN", 9889),
  ("DOUBLED FEMALE SIGN", 9890), ("DOUBLED MALE SIGN", 9891),
  ("INTERLOCKED FEMALE AND MALE SIGN", 9892), ("MALE AND FEMALE SIGN", 9893),
  ("MALE WITH STROKE SIGN", 9894), ("MALE WITH STROKE AND MALE AND FEMALE SIGN", 9895),
  ("VERTICAL MALE WITH STROKE SIGN", 9896), ("HORIZONTAL MALE WITH STROKE SIGN", 9897),
  ("MEDIUM WHITE CIRCLE", 9898), ("MEDIUM BLACK CIRCLE", 9899),
  ("MEDIUM SMALL WHITE CIRCLE", 9900), ("MARRIAGE SYMBOL", 9901), ("DIVORCE SYMBOL", 9902),
  ("UNMARRIED PARTNERSHIP SYMBOL", 9903), ("COFFIN", 9904), ("FUNERAL URN", 9905),
  ("NEUTER", 9906), ("CERES", 9907), ("PALLAS", 9908), ("JUNO", 9909), ("VESTA", 9910),
  ("CHIRON", 9911), ("BLACK MOON LILITH", 9912), ("SEXTILE", 9913), ("SEMISEXTILE", 9914),
  ("QUINCUNX", 9915), ("SESQUIQUADRATE", 9916), ("SOCCER BALL", 9917), ("BASEBALL", 9918),
  ("SQUARED KEY", 9919), ("WHITE DRAUGHTS MAN", 9920), ("WHITE DRAUGHTS KING", 9921),
  ("BLACK DRAUGHTS MAN", 9922), ("BLACK DRAUGHTS KING", 9923), ("SNOWMAN WITHOUT SNOW", 9924),
  ("SUN BEHIND CLOUD", 9925), ("RAIN", 9926), ("BLACK SNOWMAN", 9927),
  ("THUNDER CLOUD AND RAIN", 9928), ("TURNED WHITE SHOGI PIECE", 9929),
  ("TURNED BLACK SHOGI PIECE", 9930), ("WHITE DIAMOND IN SQUARE", 9931), ("CROSSING LANES", 9932),
  ("DISABLED CAR", 9933), ("OPHIUCHUS", 9934), ("PICK", 9935), ("CAR SLIDING", 9936),
  ("HELMET WITH WHITE CROSS", 9937), ("CIRCLED CROSSING LANES", 9938), ("CHAINS", 9939),
  ("NO ENTRY", 9940), ("ALTERNATE ONE-WAY LEFT WAY TRAFFIC", 9941),
  ("BLACK TWO-WAY LEFT WAY TRAFFIC", 9942), ("WHITE TWO-WAY LEFT WAY TRAFFIC", 9943),
  ("BLACK LEFT LANE MERGE", 9944), ("WHITE LEFT LANE MERGE", 9945), ("DRIVE SLOW SIGN", 9946),
  ("HEAVY WHITE DOWN-POINTING TRIANGLE", 9947), ("LEFT CLOSED ENTRY", 9948),
  ("SQUARED SALTIRE", 9949), ("FALLING DIAGONAL IN WHITE CIRCLE IN BLACK SQUARE", 9950),
  ("BLACK TRUCK", 9951), ("RESTRICTED LEFT ENTRY-1", 9952), ("RESTRICTED LEFT ENTRY-2", 9953),
  ("ASTRONOMICAL SYMBOL FOR URANUS", 9954), ("HEAVY CIRCLE WITH STROKE AND TWO DOTS ABOVE", 9955),
  ("PENTAGRAM", 9956), ("RIGHT-HANDED INTERLACED PENTAGRAM", 9957),
  ("LEFT-HANDED INTERLACED PENTAGRAM", 9958), ("INVERTED PENTAGRAM", 9959),
  ("BLACK CROSS ON SHIELD", 9960), ("SHINTO SHRINE", 9961), ("CHURCH", 9962), ("CASTLE", 9963),
  ("HISTORIC SITE", 9964), ("GEAR WITHOUT HUB", 9965), ("GEAR WITH HANDLES", 9966),
  ("MAP SYMBOL FOR LIGHTHOUSE", 9967), ("MOUNTAIN", 9968), ("UMBRELLA ON GROUND", 9969),
  ("FOUNTAIN", 9970), ("FLAG IN HOLE", 9971), ("FERRY", 9972), ("SAILBOAT", 9973),
  ("SQUARE FOUR CORNERS", 9974), ("SKIER", 9975), ("ICE SKATE", 9976), ("PERSON WITH BALL", 9977),
  ("TENT", 9978), ("JAPANESE BANK SYMBOL", 9979), ("HEADSTONE GRAVEYARD SYMBOL", 9980),
  ("FUEL PUMP", 9981), ("CUP ON BLACK SQUARE", 9982),
  ("WHITE FLAG WITH HORIZONTAL MIDDLE BLACK STRIPE", 9983), ("BLACK SAFETY SCISSORS", 9984),
  ("UPPER BLADE SCISSORS", 9985), ("BLACK SCISSORS", 9986), ("LOWER BLADE SCISSORS", 9987),
  ("WHITE SCISSORS", 9988), ("WHITE HEAVY CHECK MARK", 9989), ("TELEPHONE LOCATION SIGN", 9990),
  ("TAPE DRIVE", 9991), ("AIRPLANE", 9992), ("ENVELOPE", 9993), ("RAISED FIST", 9994),
  ("RAISED HAND", 9995), ("VICTORY HAND", 9996), ("WRITING HAND", 9997),
  ("LOWER RIGHT PENCIL", 9998), ("PENCIL", 9999), ("UPPER RIGHT PENCIL", 10000),
  ("WHITE NIB", 10001), ("BLACK NIB", 10002), ("CHECK MARK", 10003), ("HEAVY CHECK MARK", 10004),
  ("MULTIPLICATION X", 10005), ("HEAVY MULTIPLICATION X", 10006), ("BALLOT X", 10007),
  ("HEAVY BALLOT X", 10008), ("OUTLINED GREEK CROSS", 10009), ("HEAVY GREEK CROSS", 10010),
  ("OPEN CENTRE CROSS", 10011), ("HEAVY OPEN CENTRE CROSS", 10012), ("LATIN CROSS", 10013),
  ("SHADOWED WHITE LATIN CROSS", 10014), ("OUTLINED LATIN CROSS", 10015), ("MALTESE CROSS", 10016),
  ("STAR OF DAVID", 10017), ("FOUR TEARDROP-SPOKED ASTERISK", 10018),
  ("FOUR BALLOON-SPOKED ASTERISK", 10019), ("HEAVY FOUR BALLOON-SPOKED ASTERISK", 10020),
  ("FOUR CLUB-SPOKED ASTERISK", 10021), ("BLACK FOUR POINTED STAR", 10022),
  ("WHITE FOUR POINTED STAR", 10023), ("SPARKLES", 10024), ("STRESS OUTLINED WHITE STAR", 10025),
  ("CIRCLED WHITE STAR", 10026), ("OPEN CENTRE BLACK STAR", 10027),
  ("BLACK CENTRE WHITE STAR", 10028), ("OUTLINED BLACK STAR", 10029),
  ("HEAVY OUTLINED BLACK STAR", 10030), ("PINWHEEL STAR", 10031), ("SHADOWED WHITE STAR", 10032),
  ("HEAVY ASTERISK", 10033), ("OPEN CENTRE ASTERISK", 10034), ("EIGHT SPOKED ASTERISK", 10035),
  ("EIGHT POINTED BLACK STAR", 10036), ("EIGHT POINTED PINWHEEL STAR", 10037),
  ("SIX POINTED BLACK STAR", 10038), ("EIGHT POINTED RECTILINEAR BLACK STAR", 10039),
  ("HEAVY EIGHT POINTED RECTILINEAR BLACK STAR", 10040), ("TWELVE POINTED BLACK STAR", 10041),
  ("SIXTEEN POINTED ASTERISK", 10042), ("TEARDROP-SPOKED ASTERISK", 10043),
  ("OPEN CENTRE TEARDROP-SPOKED ASTERISK", 10044), ("HEAVY TEARDROP-SPOKED ASTERISK", 10045),
  ("SIX PETALLED BLACK AND WHITE FLORETTE", 10046), ("BLACK FLORETTE", 10047),
  ("WHITE FLORETTE", 10048), ("EIGHT PETALLED OUTLINED BLACK FLORETTE", 10049),
  ("CIRCLED OPEN CENTRE EIGHT POINTED STAR", 10050),
  ("HEAVY TEARDROP-SPOKED PINWHEEL ASTERISK", 10051), ("SNOWFLAKE", 10052),
  ("TIGHT TRIFOLIATE SNOWFLAKE", 10053), ("HEAVY CHEVRON SNOWFLAKE", 10054), ("SPARKLE", 10055),
  ("HEAVY SPARKLE", 10056), ("BALLOON-SPOKED ASTERISK", 10057),
  ("EIGHT TEARDROP-SPOKED PROPELLER ASTERISK", 10058),
  ("HEAVY EIGHT TEARDROP-SPOKED PROPELLER ASTERISK", 10059), ("CROSS MARK", 10060),
  ("SHADOWED WHITE CIRCLE", 10061), ("NEGATIVE SQUARED CROSS MARK", 10062),
  ("LOWER RIGHT DROP-SHADOWED WHITE SQUARE", 10063),
  ("UPPER RIGHT DROP-SHADOWED WHITE SQUARE", 10064), ("LOWER RIGHT SHADOWED WHITE SQUARE", 10065),
  ("UPPER RIGHT SHADOWED WHITE SQUARE", 10066), ("BLACK QUESTION MARK ORNAMENT", 10067),
  ("WHITE QUESTION MARK ORNAMENT", 10068), ("WHITE EXCLAMATION MARK ORNAMENT", 10069),
  ("BLACK DIAMOND MINUS WHITE X", 10070), ("HEAVY EXCLAMATION MARK SYMBOL", 10071),
  ("LIGHT VERTICAL BAR", 10072), ("MEDIUM VERTICAL BAR", 10073), ("HEAVY VERTICAL BAR", 10074),
  ("HEAVY SINGLE TURNED COMMA QUOTATION MARK ORNAMENT", 10075),
  ("HEAVY SINGLE COMMA QUOTATION MARK ORNAMENT", 10076),
  ("HEAVY DOUBLE TURNED COMMA QUOTATION MARK ORNAMENT", 10077),
  ("HEAVY DOUBLE COMMA QUOTATION MARK ORNAMENT", 10078),
  ("HEAVY LOW SINGLE COMMA QUOTATION MARK ORNAMENT", 10079)]

/-- Named characters from U+2760 on. -/
def charNames10080 : Array (String × Nat) := #[
  ("HEAVY LOW DOUBLE COMMA QUOTATION MARK ORNAMENT", 10080),
  ("CURVED STEM PARAGRAPH SIGN ORNAMENT", 10081), ("HEAVY EXCLAMATION MARK ORNAMENT", 10082),
  ("HEAVY HEART EXCLAMATION MARK ORNAMENT", 10083), ("HEAVY BLACK HEART", 10084),
  ("ROTATED HEAVY BLACK HEART BULLET", 10085), ("FLORAL HEART", 10086),
  ("ROTATED FLORAL HEART BULLET", 10087), ("MEDIUM LEFT PARENTHESIS ORNAMENT", 10088),
  ("MEDIUM RIGHT PARENTHESIS ORNAMENT", 10089),
  ("MEDIUM FLATTENED LEFT PARENTHESIS ORNAMENT", 10090),
  ("MEDIUM FLATTENED RIGHT PARENTHESIS ORNAMENT", 10091),
  ("MEDIUM LEFT-POINTING ANGLE BRACKET ORNAMENT", 10092),
  ("MEDIUM RIGHT-POINTING ANGLE BRACKET ORNAMENT", 10093),
  ("HEAVY LEFT-POINTING ANGLE QUOTATION MARK ORNAMENT", 10094),
  ("HEAVY RIGHT-POINTING ANGLE QUOTATION MARK ORNAMENT", 10095),
  ("HEAVY LEFT-POINTING ANGLE BRACKET ORNAMENT", 10096),
  ("HEAVY RIGHT-POINTING ANGLE BRACKET ORNAMENT", 10097),
  ("LIGHT LEFT TORTOISE SHELL BRACKET ORNAMENT", 10098),
  ("LIGHT RIGHT TORTOISE SHELL BRACKET ORNAMENT", 10099),
  ("MEDIUM LEFT CURLY BRACKET ORNAMENT", 10100), ("MEDIUM RIGHT CURLY BRACKET ORNAMENT", 10101),
  ("DINGBAT NEGATIVE CIRCLED DIGIT ONE", 10102), ("DINGBAT NEGATIVE CIRCLED DIGIT TWO", 10103),
  ("DINGBAT NEGATIVE CIRCLED DIGIT THREE", 10104), ("DINGBAT NEGATIVE CIRCLED DIGIT FOUR", 10105),
  ("DINGBAT NEGATIVE CIRCLED DIGIT FIVE", 10106), ("DINGBAT NEGATIVE CIRCLED DIGIT SIX", 10107),
  ("DINGBAT NEGATIVE CIRCLED DIGIT SEVEN", 10108), ("DINGBAT NEGATIVE CIRCLED DIGIT EIGHT", 10109),
  ("DINGBAT NEGATIVE CIRCLED DIGIT NINE", 10110), ("DINGBAT NEGATIVE CIRCLED NUMBER TEN", 10111),
  ("DINGBAT CIRCLED SANS-SERIF DIGIT ONE", 10112), ("DINGBAT CIRCLED SANS-SERIF DIGIT TWO", 10113),
  ("DINGBAT CIRCLED SANS-SERIF DIGIT THREE", 10114),
  ("DINGBAT CIRCLED SANS-SERIF DIGIT FOUR", 10115),
  ("DINGBAT CIRCLED SANS-SERIF DIGIT FIVE", 10116),
  ("DINGBAT CIRCLED SANS-SERIF DIGIT SIX", 10117),
  ("DINGBAT CIRCLED SANS-SERIF DIGIT SEVEN", 10118),
  ("DINGBAT CIRCLED SANS-SERIF DIGIT EIGHT", 10119),
  ("DINGBAT CIRCLED SANS-SERIF DIGIT NINE", 10120),
  ("DINGBAT CIRCLED SANS-SERIF NUMBER TEN", 10121),
  ("DINGBAT NEGATIVE CIRCLED SANS-SERIF DIGIT ONE", 10122),
  ("DINGBAT NEGATIVE CIRCLED SANS-SERIF DIGIT TWO", 10123),
  ("DINGBAT NEGATIVE CIRCLED SANS-SERIF DIGIT THREE", 10124),
  ("DINGBAT NEGATIVE CIRCLED SANS-SERIF DIGIT FOUR", 10125),
  ("DINGBAT NEGATIVE CIRCLED SANS-SERIF DIGIT FIVE", 10126),
  ("DINGBAT NEGATIVE CIRCLED SANS-SERIF DIGIT SIX", 10127),
  ("DINGBAT NEGATIVE CIRCLED SANS-SERIF DIGIT SEVEN", 10128),
  ("DINGBAT NEGATIVE CIRCLED SANS-SERIF DIGIT EIGHT", 10129),
  ("DINGBAT NEGATIVE CIRCLED SANS-SERIF DIGIT NINE", 10130),
  ("DINGBAT NEGATIVE CIRCLED SANS-SERIF NUMBER TEN", 10131),
  ("HEAVY WIDE-HEADED RIGHTWARDS ARROW", 10132), ("HEAVY PLUS SIGN", 10133),
  ("HEAVY MINUS SIGN", 10134), ("HEAVY DIVISION SIGN", 10135), ("HEAVY SOUTH EAST ARROW", 10136),
  ("HEAVY RIGHTWARDS ARROW", 10137), ("HEAVY NORTH EAST ARROW", 10138),
  ("DRAFTING POINT RIGHTWARDS ARROW", 10139), ("HEAVY ROUND-TIPPED RIGHTWARDS ARROW", 10140),
  ("TRIANGLE-HEADED RIGHTWARDS ARROW", 10141), ("HEAVY TRIANGLE-HEADED RIGHTWARDS ARROW", 10142),
  ("DASHED TRIANGLE-HEADED RIGHTWARDS ARROW", 10143),
  ("HEAVY DASHED TRIANGLE-HEADED RIGHTWARDS ARROW", 10144), ("BLACK RIGHTWARDS ARROW", 10145),
  ("THREE-D TOP-LIGHTED RIGHTWARDS ARROWHEAD", 10146),
  ("THREE-D BOTTOM-LIGHTED RIGHTWARDS ARROWHEAD", 10147), ("BLACK RIGHTWARDS ARROWHEAD", 10148),
  ("HEAVY BLACK CURVED DOWNWARDS AND RIGHTWARDS ARROW", 10149),
  ("HEAVY BLACK CURVED UPWARDS AND RIGHTWARDS ARROW", 10150),
  ("SQUAT BLACK RIGHTWARDS ARROW", 10151), ("HEAVY CONCAVE-POINTED BLACK RIGHTWARDS ARROW", 10152),
  ("RIGHT-SHADED WHITE RIGHTWARDS ARROW", 10153), ("LEFT-SHADED WHITE RIGHTWARDS ARROW", 10154),
  ("BACK-TILTED SHADOWED WHITE RIGHTWARDS ARROW", 10155),
  ("FRONT-TILTED SHADOWED WHITE RIGHTWARDS ARROW", 10156),
  ("HEAVY LOWER RIGHT-SHADOWED WHITE RIGHTWARDS ARROW", 10157),
  ("HEAVY UPPER RIGHT-SHADOWED WHITE RIGHTWARDS ARROW", 10158),
  ("NOTCHED LOWER RIGHT-SHADOWED WHITE RIGHTWARDS ARROW", 10159), ("CURLY LOOP", 10160),
  ("NOTCHED UPPER RIGHT-SHADOWED WHITE RIGHTWARDS ARROW", 10161),
  ("CIRCLED HEAVY WHITE RIGHTWARDS ARROW", 10162), ("WHITE-FEATHERED RIGHTWARDS ARROW", 10163),
  ("BLACK-FEATHERED SOUTH EAST ARROW", 10164), ("BLACK-FEATHERED RIGHTWARDS ARROW", 10165),
  ("BLACK-FEATHERED NORTH EAST ARROW", 10166), ("HEAVY BLACK-FEATHERED SOUTH EAST ARROW", 10167),
  ("HEAVY BLACK-FEATHERED RIGHTWARDS ARROW", 10168),
  ("HEAVY BLACK-FEATHERED NORTH EAST ARROW", 10169), ("TEARDROP-BARBED RIGHTWARDS ARROW", 10170),
  ("HEAVY TEARDROP-SHANKED RIGHTWARDS ARROW", 10171), ("WEDGE-TAILED RIGHTWARDS ARROW", 10172),
  ("HEAVY WEDGE-TAILED RIGHTWARDS ARROW", 10173), ("OPEN-OUTLINED RIGHTWARDS ARROW", 10174),
  ("DOUBLE CURLY LOOP", 10175), ("IDEOGRAPHIC SPACE", 12288), ("IDEOGRAPHIC COMMA", 12289),
  ("IDEOGRAPHIC FULL STOP", 12290), ("DITTO MARK", 12291),
  ("JAPANESE INDUSTRIAL STANDARD SYMBOL", 12292), ("IDEOGRAPHIC ITERATION MARK", 12293),
  ("IDEOGRAPHIC CLOSING MARK", 12294), ("IDEOGRAPHIC NUMBER ZERO", 12295),
  ("LEFT ANGLE BRACKET", 12296), ("RIGHT ANGLE BRACKET", 12297),
  ("LEFT DOUBLE ANGLE BRACKET", 12298), ("RIGHT DOUBLE ANGLE BRACKET", 12299),
  ("LEFT CORNER BRACKET", 12300), ("RIGHT CORNER BRACKET", 12301),
  ("LEFT WHITE CORNER BRACKET", 12302), ("RIGHT WHITE CORNER BRACKET", 12303),
  ("LEFT BLACK LENTICULAR BRACKET", 12304), ("RIGHT BLACK LENTICULAR BRACKET", 12305),
  ("POSTAL MARK", 12306), ("GETA MARK", 12307), ("LEFT TORTOISE SHELL BRACKET", 12308),
  ("RIGHT TORTOISE SHELL BRACKET", 12309), ("LEFT WHITE LENTICULAR BRACKET", 12310),
  ("RIGHT WHITE LENTICULAR BRACKET", 12311), ("LEFT WHITE TORTOISE SHELL BRACKET", 12312),
  ("RIGHT WHITE TORTOISE SHELL BRACKET", 12313), ("LEFT WHITE SQUARE BRACKET", 12314),
  ("RIGHT WHITE SQUARE BRACKET", 12315), ("WAVE DASH", 12316),
  ("REVERSED DOUBLE PRIME QUOTATION MARK", 12317), ("DOUBLE PRIME QUOTATION MARK", 12318),
  ("LOW DOUBLE PRIME QUOTATION MARK", 12319), ("POSTAL MARK FACE", 12320),
  ("BYTE ORDER MARK", 65279), ("REPLACEMENT CHARACTER", 65533), ("CYCLONE", 127744),
  ("FOGGY", 127745), ("CLOSED UMBRELLA", 127746), ("NIGHT WITH STARS", 127747),
  ("SUNRISE OVER MOUNTAINS", 127748), ("SUNRISE", 127749), ("CITYSCAPE AT DUSK", 127750),
  ("SUNSET OVER BUILDINGS", 127751), ("RAINBOW", 127752), ("BRIDGE AT NIGHT", 127753),
  ("WATER WAVE", 127754), ("VOLCANO", 127755), ("MILKY WAY", 127756),
  ("EARTH GLOBE EUROPE-AFRICA", 127757), ("EARTH GLOBE AMERICAS", 127758),
  ("EARTH GLOBE ASIA-AUSTRALIA", 127759), ("GLOBE WITH MERIDIANS", 127760),
  ("NEW MOON SYMBOL", 127761), ("WAXING CRESCENT MOON SYMBOL", 127762),
  ("FIRST QUARTER MOON SYMBOL", 127763), ("WAXING GIBBOUS MOON SYMBOL", 127764),
  ("FULL MOON SYMBOL", 127765), ("WANING GIBBOUS MOON SYMBOL", 127766),
  ("LAST QUARTER MOON SYMBOL", 127767), ("WANING CRESCENT MOON SYMBOL", 127768),
  ("CRESCENT MOON", 127769), ("NEW MOON WITH FACE", 127770),
  ("FIRST QUARTER MOON WITH FACE", 127771), ("LAST QUARTER MOON WITH FACE", 127772),
  ("FULL MOON WITH FACE", 127773), ("SUN WITH FACE", 127774), ("GLOWING STAR", 127775),
  ("SHOOTING STAR", 127776), ("EYES", 128064), ("EYE", 128065), ("EAR", 128066), ("NOSE", 128067),
  ("MOUTH", 128068), ("TONGUE", 128069), ("WHITE UP POINTING BACKHAND INDEX", 128070),
  ("WHITE DOWN POINTING BACKHAND INDEX", 128071), ("WHITE LEFT POINTING BACKHAND INDEX", 128072),
  ("WHITE RIGHT POINTING BACKHAND INDEX", 128073), ("FISTED HAND SIGN", 128074),
  ("WAVING HAND SIGN", 128075), ("OK HAND SIGN", 128076), ("THUMBS UP SIGN", 128077),
  ("THUMBS DOWN SIGN", 128078), ("CLAPPING HANDS SIGN", 128079), ("OPEN HANDS SIGN", 128080),
  ("CROWN", 128081), ("WOMANS HAT", 128082), ("EYEGLASSES", 128083), ("NECKTIE", 128084),
  ("T-SHIRT", 128085), ("JEANS", 128086), ("DRESS", 128087), ("KIMONO", 128088),
  ("BIKINI", 128089), ("WOMANS CLOTHES", 128090), ("PURSE", 128091), ("HANDBAG", 128092),
  ("POUCH", 128093), ("MANS SHOE", 128094), ("ATHLETIC SHOE", 128095),
  ("HIGH-HEELED SHOE", 128096), ("WOMANS SANDAL", 128097), ("WOMANS BOOTS", 128098),
  ("FOOTPRINTS", 128099), ("BUST IN SILHOUETTE", 128100), ("BUSTS IN SILHOUETTE", 128101),
  ("BOY", 128102), ("GIRL", 128103), ("MAN", 128104), ("WOMAN", 128105), ("FAMILY", 128106),
  ("MAN AND WOMAN HOLDING HANDS", 128107), ("TWO MEN HOLDING HANDS", 128108),
  ("TWO WOMEN HOLDING HANDS", 128109), ("POLICE OFFICER", 128110),
  ("WOMAN WITH BUNNY EARS", 128111), ("BRIDE WITH VEIL", 128112),
  ("PERSON WITH BLOND HAIR", 128113), ("MAN WITH GUA PI MAO", 128114), ("MAN WITH TURBAN", 128115),
  ("OLDER MAN", 128116), ("OLDER WOMAN", 128117), ("BABY", 128118),
  ("CONSTRUCTION WORKER", 128119), ("PRINCESS", 128120), ("JAPANESE OGRE", 128121),
  ("JAPANESE GOBLIN", 128122), ("GHOST", 128123), ("BABY ANGEL", 128124),
  ("EXTRATERRESTRIAL ALIEN", 128125), ("ALIEN MONSTER", 128126), ("IMP", 128127),
  ("SKULL", 128128), ("INFORMATION DESK PERSON", 128129), ("GUARDSMAN", 128130),
  ("DANCER", 128131), ("LIPSTICK", 128132), ("NAIL POLISH", 128133), ("FACE MASSAGE", 128134),
  ("HAIRCUT", 128135), ("BARBER POLE", 128136), ("SYRINGE", 128137), ("PILL", 128138),
  ("KISS MARK", 128139), ("LOVE LETTER", 128140), ("RING", 128141), ("GEM STONE", 128142),
  ("KISS", 128143), ("BOUQUET", 128144), ("COUPLE WITH HEART", 128145), ("WEDDING", 128146),
  ("BEATING HEART", 128147), ("BROKEN HEART", 128148), ("TWO HEARTS", 128149)]

/-- Named characters from U+1F496 on. -/
def charNames128150 : Array (String × Nat) := #[
  ("SPARKLING HEART", 128150), ("GROWING HEART", 128151), ("HEART WITH ARROW", 128152),
  ("BLUE HEART", 128153), ("GREEN HEART", 128154), ("YELLOW HEART", 128155),
  ("PURPLE HEART", 128156), ("HEART WITH RIBBON", 128157), ("REVOLVING HEARTS", 128158),
  ("HEART DECORATION", 128159), ("DIAMOND SHAPE WITH A DOT INSIDE", 128160),
  ("ELECTRIC LIGHT BULB", 128161), ("ANGER SYMBOL", 128162), ("BOMB", 128163),
  ("SLEEPING SYMBOL", 128164), ("COLLISION SYMBOL", 128165), ("SPLASHING SWEAT SYMBOL", 128166),
  ("DROPLET", 128167), ("DASH SYMBOL", 128168), ("PILE OF POO", 128169), ("FLEXED BICEPS", 128170),
  ("DIZZY SYMBOL", 128171), ("SPEECH BALLOON", 128172), ("THOUGHT BALLOON", 128173),
  ("WHITE FLOWER", 128174), ("HUNDRED POINTS SYMBOL", 128175), ("GRINNING FACE", 128512),
  ("GRINNING FACE WITH SMILING EYES", 128513), ("FACE WITH TEARS OF JOY", 128514),
  ("SMILING FACE WITH OPEN MOUTH", 128515),
  ("SMILING FACE WITH OPEN MOUTH AND SMILING EYES", 128516),
  ("SMILING FACE WITH OPEN MOUTH AND COLD SWEAT", 128517),
  ("SMILING FACE WITH OPEN MOUTH AND TIGHTLY-CLOSED EYES", 128518),
  ("SMILING FACE WITH HALO", 128519), ("SMILING FACE WITH HORNS", 128520),
  ("WINKING FACE", 128521), ("SMILING FACE WITH SMILING EYES", 128522),
  ("FACE SAVOURING DELICIOUS FOOD", 128523), ("RELIEVED FACE", 128524),
  ("SMILING FACE WITH HEART-SHAPED EYES", 128525), ("SMILING FACE WITH SUNGLASSES", 128526),
  ("SMIRKING FACE", 128527), ("NEUTRAL FACE", 128528), ("EXPRESSIONLESS FACE", 128529),
  ("UNAMUSED FACE", 128530), ("FACE WITH COLD SWEAT", 128531), ("PENSIVE FACE", 128532),
  ("CONFUSED FACE", 128533), ("CONFOUNDED FACE", 128534), ("KISSING FACE", 128535),
  ("FACE THROWING A KISS", 128536), ("KISSING FACE WITH SMILING EYES", 128537),
  ("KISSING FACE WITH CLOSED EYES", 128538), ("FACE WITH STUCK-OUT TONGUE", 128539),
  ("FACE WITH STUCK-OUT TONGUE AND WINKING EYE", 128540),
  ("FACE WITH STUCK-OUT TONGUE AND TIGHTLY-CLOSED EYES", 128541), ("DISAPPOINTED FACE", 128542),
  ("WORRIED FACE", 128543), ("ANGRY FACE", 128544), ("POUTING FACE", 128545),
  ("CRYING FACE", 128546), ("PERSEVERING FACE", 128547), ("FACE WITH LOOK OF TRIUMPH", 128548),
  ("DISAPPOINTED BUT RELIEVED FACE", 128549), ("FROWNING FACE WITH OPEN MOUTH", 128550),
  ("ANGUISHED FACE", 128551), ("FEARFUL FACE", 128552), ("WEARY FACE", 128553),
  ("SLEEPY FACE", 128554), ("TIRED FACE", 128555), ("GRIMACING FACE", 128556),
  ("LOUDLY CRYING FACE", 128557), ("FACE WITH OPEN MOUTH", 128558), ("HUSHED FACE", 128559),
  ("FACE WITH OPEN MOUTH AND COLD SWEAT", 128560), ("FACE SCREAMING IN FEAR", 128561),
  ("ASTONISHED FACE", 128562), ("FLUSHED FACE", 128563), ("SLEEPING FACE", 128564),
  ("DIZZY FACE", 128565), ("FACE WITHOUT MOUTH", 128566), ("FACE WITH MEDICAL MASK", 128567),
  ("GRINNING CAT FACE WITH SMILING EYES", 128568), ("CAT FACE WITH TEARS OF JOY", 128569),
  ("SMILING CAT FACE WITH OPEN MOUTH", 128570),
  ("SMILING CAT FACE WITH HEART-SHAPED EYES", 128571), ("CAT FACE WITH WRY SMILE", 128572),
  ("KISSING CAT FACE WITH CLOSED EYES", 128573), ("POUTING CAT FACE", 128574),
  ("CRYING CAT FACE", 128575), ("WEARY CAT FACE", 128576), ("SLIGHTLY FROWNING FACE", 128577),
  ("SLIGHTLY SMILING FACE", 128578), ("UPSIDE-DOWN FACE", 128579),
  ("FACE WITH ROLLING EYES", 128580), ("FACE WITH NO GOOD GESTURE", 128581),
  ("FACE WITH OK GESTURE", 128582), ("PERSON BOWING DEEPLY", 128583),
  ("SEE-NO-EVIL MONKEY", 128584), ("HEAR-NO-EVIL MONKEY", 128585),
  ("SPEAK-NO-EVIL MONKEY", 128586), ("HAPPY PERSON RAISING ONE HAND", 128587),
  ("PERSON RAISING BOTH HANDS IN CELEBRATION", 128588), ("PERSON FROWNING", 128589),
  ("PERSON WITH POUTING FACE", 128590), ("PERSON WITH FOLDED HANDS", 128591)]

/-- The tables of named characters. -/
def charNameTables : List (Array (String × Nat)) :=
  [charNames0, charNames302, charNames1057, charNames8522, charNames8836, charNames9580, charNames9830, charNames10080, charNames128150]

/-- The value of upper case hexadecimal digits. -/
def upperHex? (digits : List Char) : Option Nat :=
  digits.foldlM (fun n c =>
    if '0' ≤ c && c ≤ '9' then some (n * 16 + (c.toNat - 48))
    else if 'A' ≤ c && c ≤ 'F' then some (n * 16 + (c.toNat - 55))
    else none) 0

/-- The ideograph with the given code point, if it is one. -/
def ideograph? (code : Nat) : Option Char :=
  if (0x4e00 ≤ code && code ≤ 0x9fff) || (0x3400 ≤ code && code ≤ 0x4dbf)
      || (0x20000 ≤ code && code ≤ 0x2a6df)
  then some (Char.ofNat code) else none

/-- The character of that name. -/
def charNamed? (name : String) : Option Char :=
  let key := name.map Char.toUpper
  match charNameTables.findSome? fun table => table.find? fun (n, _) => n == key with
  | some (_, code) => some (Char.ofNat code)
  | none =>
    if key.startsWith "CJK UNIFIED IDEOGRAPH-" then
      let digits := (key.drop 22).toString.toList
      if digits.length < 4 || 5 < digits.length then none else (upperHex? digits).bind ideograph?
    else none

end FieldRules.Text
