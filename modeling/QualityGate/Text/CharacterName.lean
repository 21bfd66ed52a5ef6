/-
Characters by their names: Latin letters with and without marks, Greek letters, and common signs.
-/
namespace QualityGate.Text.CharacterName

/-- The names of large and small letters, out of what the letters are called. -/
def letters (alphabet : String) (names : List String) (ending large small : String) :
    List (String × Char) :=
  let named (size cs : String) : List (String × Char) :=
    (names.zip cs.toList).map fun (name, c) => (s!"{alphabet} {size} LETTER {name}{ending}", c)
  named "CAPITAL" large ++ named "SMALL" small

/-- The marks on Latin letters, and the letters that can have them: plain, large and small. -/
def marks : List (String × String × String × String) := [
  ("GRAVE", "AEIOU", "ÀÈÌÒÙ", "àèìòù"),
  ("ACUTE", "ACEILNORSUYZ", "ÁĆÉÍĹŃÓŔŚÚÝŹ", "áćéíĺńóŕśúýź"),
  ("CIRCUMFLEX", "ACEGHIJOSUWY", "ÂĈÊĜĤÎĴÔŜÛŴŶ", "âĉêĝĥîĵôŝûŵŷ"),
  ("TILDE", "AINOU", "ÃĨÑÕŨ", "ãĩñõũ"),
  ("DIAERESIS", "AEIOUY", "ÄËÏÖÜŸ", "äëïöüÿ"),
  ("RING ABOVE", "AU", "ÅŮ", "åů"),
  ("CEDILLA", "CGKLNRST", "ÇĢĶĻŅŖŞŢ", "çģķļņŗşţ"),
  ("STROKE", "DHLOT", "ĐĦŁØŦ", "đħłøŧ"),
  ("MACRON", "AEIOU", "ĀĒĪŌŪ", "āēīōū"),
  ("BREVE", "AEGIOU", "ĂĔĞĬŎŬ", "ăĕğĭŏŭ"),
  ("OGONEK", "AEIU", "ĄĘĮŲ", "ąęįų"),
  ("DOT ABOVE", "CEGZ", "ĊĖĠŻ", "ċėġż"),
  ("CARON", "CDELNRSTZ", "ČĎĚĽŇŘŠŤŽ", "čďěľňřšťž"),
  ("DOUBLE ACUTE", "OU", "ŐŰ", "őű")]

def latin : List (String × Char) :=
  let plain := "ABCDEFGHIJKLMNOPQRSTUVWXYZ"
  letters "LATIN" (plain.toList.map String.singleton) "" plain plain.toLower ++
    marks.flatMap fun (mark, names, large, small) =>
      letters "LATIN" (names.toList.map String.singleton) s!" WITH {mark}" large small

def greek : List (String × Char) :=
  letters "GREEK" (("ALPHA BETA GAMMA DELTA EPSILON ZETA ETA THETA IOTA KAPPA LAMDA MU NU XI " ++
    "OMICRON PI RHO SIGMA TAU UPSILON PHI CHI PSI OMEGA").splitOn " ") ""
    "ΑΒΓΔΕΖΗΘΙΚΛΜΝΞΟΠΡΣΤΥΦΧΨΩ" "αβγδεζηθικλμνξοπρστυφχψω"

/-- The names of signs, for a character and those that follow it. -/
def signRuns : List (Nat × String) := [
  (0x20, "SPACE; EXCLAMATION MARK; QUOTATION MARK; NUMBER SIGN; DOLLAR SIGN; PERCENT SIGN; " ++
    "AMPERSAND; APOSTROPHE; LEFT PARENTHESIS; RIGHT PARENTHESIS; ASTERISK; PLUS SIGN; COMMA; " ++
    "HYPHEN-MINUS; FULL STOP; SOLIDUS; DIGIT ZERO; DIGIT ONE; DIGIT TWO; DIGIT THREE; DIGIT " ++
    "FOUR; DIGIT FIVE; DIGIT SIX; DIGIT SEVEN; DIGIT EIGHT; DIGIT NINE; COLON; SEMICOLON; " ++
    "LESS-THAN SIGN; EQUALS SIGN; GREATER-THAN SIGN; QUESTION MARK; COMMERCIAL AT"),
  (0x5B, "LEFT SQUARE BRACKET; REVERSE SOLIDUS; RIGHT SQUARE BRACKET; CIRCUMFLEX ACCENT; LOW " ++
    "LINE; GRAVE ACCENT"),
  (0x7B, "LEFT CURLY BRACKET; VERTICAL LINE; RIGHT CURLY BRACKET; TILDE"),
  (0xA0, "NO-BREAK SPACE; INVERTED EXCLAMATION MARK; CENT SIGN; POUND SIGN; CURRENCY SIGN; YEN " ++
    "SIGN; BROKEN BAR; SECTION SIGN; DIAERESIS; COPYRIGHT SIGN; FEMININE ORDINAL INDICATOR; " ++
    "LEFT-POINTING DOUBLE ANGLE QUOTATION MARK; NOT SIGN; SOFT HYPHEN; REGISTERED SIGN; MACRON; " ++
    "DEGREE SIGN; PLUS-MINUS SIGN; SUPERSCRIPT TWO; SUPERSCRIPT THREE; ACUTE ACCENT; MICRO " ++
    "SIGN; PILCROW SIGN; MIDDLE DOT; CEDILLA; SUPERSCRIPT ONE; MASCULINE ORDINAL INDICATOR; " ++
    "RIGHT-POINTING DOUBLE ANGLE QUOTATION MARK; VULGAR FRACTION ONE QUARTER; VULGAR FRACTION " ++
    "ONE HALF; VULGAR FRACTION THREE QUARTERS; INVERTED QUESTION MARK"),
  (0xD7, "MULTIPLICATION SIGN"),
  (0xDF, "LATIN SMALL LETTER SHARP S"),
  (0xF7, "DIVISION SIGN"),
  (0x200B, "ZERO WIDTH SPACE; ZERO WIDTH NON-JOINER; ZERO WIDTH JOINER"),
  (0x2013, "EN DASH; EM DASH"),
  (0x2018, "LEFT SINGLE QUOTATION MARK; RIGHT SINGLE QUOTATION MARK; SINGLE LOW-9 QUOTATION " ++
    "MARK; SINGLE HIGH-REVERSED-9 QUOTATION MARK; LEFT DOUBLE QUOTATION MARK; RIGHT DOUBLE " ++
    "QUOTATION MARK; DOUBLE LOW-9 QUOTATION MARK"),
  (0x2022, "BULLET"),
  (0x2026, "HORIZONTAL ELLIPSIS"),
  (0x2028, "LINE SEPARATOR; PARAGRAPH SEPARATOR"),
  (0x20AC, "EURO SIGN"),
  (0x2122, "TRADE MARK SIGN"),
  (0x2190, "LEFTWARDS ARROW; UPWARDS ARROW; RIGHTWARDS ARROW; DOWNWARDS ARROW"),
  (0x221E, "INFINITY"),
  (0x2260, "NOT EQUAL TO"),
  (0x2264, "LESS-THAN OR EQUAL TO; GREATER-THAN OR EQUAL TO"),
  (0x2603, "SNOWMAN"),
  (0x2605, "BLACK STAR; WHITE STAR"),
  (0x2665, "BLACK HEART SUIT"),
  (0x26A0, "WARNING SIGN"),
  (0x2705, "WHITE HEAVY CHECK MARK"),
  (0x2713, "CHECK MARK; HEAVY CHECK MARK"),
  (0x274C, "CROSS MARK"),
  (0x2764, "HEAVY BLACK HEART"),
  (0xFEFF, "ZERO WIDTH NO-BREAK SPACE"),
  (0xFFFD, "REPLACEMENT CHARACTER"),
  (0x1F40D, "SNAKE"),
  (0x1F4A9, "PILE OF POO"),
  (0x1F600, "GRINNING FACE"),
  (0x1F680, "ROCKET")]

def signs : List (String × Char) :=
  signRuns.flatMap fun (first, names) =>
    (names.splitOn "; ").zipIdx.map fun (name, i) => (name, Char.ofNat (first + i))

/-- The character with a name, in which small letters count as large ones. -/
def find? (name : List Char) : Option Nat :=
  ((latin ++ greek ++ signs).lookup (String.ofList (name.map Char.toUpper))).map Char.toNat

end QualityGate.Text.CharacterName
