/-! The names of characters, block by block. A line is for characters one after another: the code
point of the first, the front that all the names have, a bar, and the rest of each name. A caret in
the front stands for a capital letter and the small one behind it, so that each rest names two. -/

namespace RaggedTables.Text

/-- Basic Latin to the Latin letters with marks, up to the phonetic ones. -/
def latinNames : List String :=
  ["20 |SPACE;EXCLAMATION MARK",
    "22 |QUOTATION MARK;NUMBER SIGN;DOLLAR SIGN;PERCENT SIGN;AMPERSAND;APOSTROPHE;LEFT PARENTHESIS",
    "29 |RIGHT PARENTHESIS;ASTERISK;PLUS SIGN;COMMA;HYPHEN-MINUS;FULL STOP;SOLIDUS",
    "30 DIGIT |ZERO;ONE;TWO;THREE;FOUR;FIVE;SIX;SEVEN;EIGHT;NINE",
    "3a |COLON;SEMICOLON;LESS-THAN SIGN;EQUALS SIGN;GREATER-THAN SIGN;QUESTION MARK;COMMERCIAL AT",
    "41 LATIN CAPITAL LETTER |A;B;C;D;E;F;G;H;I;J;K;L;M;N;O;P;Q;R;S;T;U;V;W;X;Y;Z",
    "5b |LEFT SQUARE BRACKET",
    "5c |REVERSE SOLIDUS;RIGHT SQUARE BRACKET;CIRCUMFLEX ACCENT;LOW LINE;GRAVE ACCENT",
    "61 LATIN SMALL LETTER |A;B;C;D;E;F;G;H;I;J;K;L;M;N;O;P;Q;R;S;T;U;V;W;X;Y;Z",
    "7b |LEFT CURLY BRACKET;VERTICAL LINE;RIGHT CURLY BRACKET;TILDE",
    "a0 |NO-BREAK SPACE;INVERTED EXCLAMATION MARK",
    "a2 |CENT SIGN;POUND SIGN;CURRENCY SIGN;YEN SIGN;BROKEN BAR;SECTION SIGN;DIAERESIS",
    "a9 |COPYRIGHT SIGN;FEMININE ORDINAL INDICATOR;LEFT-POINTING DOUBLE ANGLE QUOTATION MARK",
    "ac |NOT SIGN;SOFT HYPHEN;REGISTERED SIGN;MACRON;DEGREE SIGN;PLUS-MINUS SIGN",
    "b2 SUPERSCRIPT |TWO;THREE", "b4 |ACUTE ACCENT;MICRO SIGN;PILCROW SIGN;MIDDLE DOT;CEDILLA",
    "b9 |SUPERSCRIPT ONE;MASCULINE ORDINAL INDICATOR;RIGHT-POINTING DOUBLE ANGLE QUOTATION MARK",
    "bc VULGAR FRACTION |ONE QUARTER;ONE HALF;THREE QUARTERS", "bf |INVERTED QUESTION MARK",
    "c0 LATIN CAPITAL LETTER A WITH |GRAVE;ACUTE;CIRCUMFLEX;TILDE;DIAERESIS;RING ABOVE",
    "c6 LATIN CAPITAL LETTER |AE;C WITH CEDILLA",
    "c8 LATIN CAPITAL LETTER E WITH |GRAVE;ACUTE;CIRCUMFLEX;DIAERESIS",
    "cc LATIN CAPITAL LETTER I WITH |GRAVE;ACUTE;CIRCUMFLEX;DIAERESIS",
    "d0 LATIN CAPITAL LETTER |ETH;N WITH TILDE",
    "d2 LATIN CAPITAL LETTER O WITH |GRAVE;ACUTE;CIRCUMFLEX;TILDE;DIAERESIS",
    "d7 |MULTIPLICATION SIGN", "d8 LATIN CAPITAL LETTER |O WITH STROKE;U WITH GRAVE",
    "da LATIN CAPITAL LETTER |U WITH ACUTE;U WITH CIRCUMFLEX;U WITH DIAERESIS;Y WITH ACUTE;THORN",
    "df |LATIN SMALL LETTER SHARP S",
    "e0 LATIN SMALL LETTER A WITH |GRAVE;ACUTE;CIRCUMFLEX;TILDE;DIAERESIS;RING ABOVE",
    "e6 LATIN SMALL LETTER |AE;C WITH CEDILLA",
    "e8 LATIN SMALL LETTER E WITH |GRAVE;ACUTE;CIRCUMFLEX;DIAERESIS",
    "ec LATIN SMALL LETTER I WITH |GRAVE;ACUTE;CIRCUMFLEX;DIAERESIS",
    "f0 LATIN SMALL LETTER |ETH;N WITH TILDE",
    "f2 LATIN SMALL LETTER O WITH |GRAVE;ACUTE;CIRCUMFLEX;TILDE;DIAERESIS",
    "f7 |DIVISION SIGN;LATIN SMALL LETTER O WITH STROKE",
    "f9 LATIN SMALL LETTER U WITH |GRAVE;ACUTE;CIRCUMFLEX;DIAERESIS",
    "fd LATIN SMALL LETTER |Y WITH ACUTE;THORN;Y WITH DIAERESIS",
    "100 LATIN ^ LETTER A WITH |MACRON;BREVE;OGONEK",
    "106 LATIN ^ LETTER C WITH |ACUTE;CIRCUMFLEX;DOT ABOVE;CARON",
    "10e LATIN ^ LETTER D WITH |CARON;STROKE",
    "112 LATIN ^ LETTER E WITH |MACRON;BREVE;DOT ABOVE;OGONEK;CARON",
    "11c LATIN ^ LETTER G WITH |CIRCUMFLEX;BREVE;DOT ABOVE;CEDILLA",
    "124 LATIN ^ LETTER H WITH |CIRCUMFLEX;STROKE",
    "128 LATIN ^ LETTER I WITH |TILDE;MACRON;BREVE;OGONEK",
    "130 LATIN |CAPITAL LETTER I WITH DOT ABOVE;SMALL LETTER DOTLESS I",
    "132 LATIN ^ |LIGATURE IJ;LETTER J WITH CIRCUMFLEX;LETTER K WITH CEDILLA",
    "138 |LATIN SMALL LETTER KRA",
    "139 LATIN ^ LETTER L WITH |ACUTE;CEDILLA;CARON;MIDDLE DOT;STROKE",
    "143 LATIN ^ LETTER N WITH |ACUTE;CEDILLA;CARON",
    "149 |LATIN SMALL LETTER N PRECEDED BY APOSTROPHE",
    "14a LATIN ^ LETTER |ENG;O WITH MACRON;O WITH BREVE;O WITH DOUBLE ACUTE",
    "152 LATIN ^ LIGATURE |OE", "154 LATIN ^ LETTER R WITH |ACUTE;CEDILLA;CARON",
    "15a LATIN ^ LETTER S WITH |ACUTE;CIRCUMFLEX;CEDILLA;CARON",
    "162 LATIN ^ LETTER T WITH |CEDILLA;CARON;STROKE",
    "168 LATIN ^ LETTER U WITH |TILDE;MACRON;BREVE;RING ABOVE;DOUBLE ACUTE;OGONEK",
    "174 LATIN ^ LETTER |W WITH CIRCUMFLEX;Y WITH CIRCUMFLEX",
    "178 |LATIN CAPITAL LETTER Y WITH DIAERESIS",
    "179 LATIN ^ LETTER Z WITH |ACUTE;DOT ABOVE;CARON",
    "17f LATIN |SMALL LETTER LONG S;SMALL LETTER B WITH STROKE;CAPITAL LETTER B WITH HOOK",
    "182 LATIN ^ LETTER |B WITH TOPBAR;TONE SIX", "186 |LATIN CAPITAL LETTER OPEN O",
    "187 LATIN ^ LETTER C WITH |HOOK",
    "189 LATIN CAPITAL LETTER |AFRICAN D;D WITH HOOK;D WITH TOPBAR",
    "18c LATIN SMALL LETTER |D WITH TOPBAR;TURNED DELTA",
    "18e LATIN CAPITAL LETTER |REVERSED E;SCHWA;OPEN E", "191 LATIN ^ LETTER F WITH |HOOK",
    "193 LATIN CAPITAL LETTER |G WITH HOOK;GAMMA", "195 |LATIN SMALL LETTER HV",
    "196 LATIN CAPITAL LETTER |IOTA;I WITH STROKE;K WITH HOOK",
    "199 LATIN SMALL LETTER |K WITH HOOK;L WITH BAR;LAMBDA WITH STROKE",
    "19c LATIN CAPITAL LETTER |TURNED M;N WITH LEFT HOOK",
    "19e LATIN |SMALL LETTER N WITH LONG RIGHT LEG;CAPITAL LETTER O WITH MIDDLE TILDE",
    "1a0 LATIN ^ LETTER |O WITH HORN;OI;P WITH HOOK", "1a6 |LATIN LETTER YR",
    "1a7 LATIN ^ LETTER TONE |TWO",
    "1a9 LATIN |CAPITAL LETTER ESH;LETTER REVERSED ESH LOOP;SMALL LETTER T WITH PALATAL HOOK",
    "1ac LATIN ^ LETTER T WITH |HOOK", "1ae |LATIN CAPITAL LETTER T WITH RETROFLEX HOOK",
    "1af LATIN ^ LETTER U WITH |HORN", "1b1 LATIN CAPITAL LETTER |UPSILON;V WITH HOOK",
    "1b3 LATIN ^ LETTER |Y WITH HOOK;Z WITH STROKE", "1b7 |LATIN CAPITAL LETTER EZH",
    "1b8 LATIN ^ LETTER EZH |REVERSED",
    "1ba LATIN |SMALL LETTER EZH WITH TAIL;LETTER TWO WITH STROKE", "1bc LATIN ^ LETTER TONE |FIVE",
    "1be |LATIN LETTER INVERTED GLOTTAL STOP WITH STROKE",
    "1bf LATIN LETTER |WYNN;DENTAL CLICK;LATERAL CLICK;ALVEOLAR CLICK;RETROFLEX CLICK",
    "1c4 LATIN CAPITAL LETTER |DZ WITH CARON;D WITH SMALL LETTER Z WITH CARON",
    "1c6 |LATIN SMALL LETTER DZ WITH CARON", "1c7 LATIN CAPITAL LETTER |LJ;L WITH SMALL LETTER J",
    "1c9 |LATIN SMALL LETTER LJ", "1ca LATIN CAPITAL LETTER |NJ;N WITH SMALL LETTER J",
    "1cc |LATIN SMALL LETTER NJ",
    "1cd LATIN ^ LETTER |A WITH CARON;I WITH CARON;O WITH CARON;U WITH CARON",
    "1d5 LATIN ^ LETTER U WITH DIAERESIS AND |MACRON;ACUTE;CARON;GRAVE",
    "1dd |LATIN SMALL LETTER TURNED E",
    "1de LATIN ^ LETTER A WITH |DIAERESIS AND MACRON;DOT ABOVE AND MACRON",
    "1e2 LATIN ^ LETTER |AE WITH MACRON;G WITH STROKE;G WITH CARON",
    "1e8 LATIN ^ LETTER |K WITH CARON;O WITH OGONEK;O WITH OGONEK AND MACRON;EZH WITH CARON",
    "1f0 |LATIN SMALL LETTER J WITH CARON", "1f1 LATIN CAPITAL LETTER |DZ;D WITH SMALL LETTER Z",
    "1f3 |LATIN SMALL LETTER DZ", "1f4 LATIN ^ LETTER G WITH |ACUTE",
    "1f6 LATIN CAPITAL LETTER |HWAIR;WYNN",
    "1f8 LATIN ^ LETTER |N WITH GRAVE;A WITH RING ABOVE AND ACUTE;AE WITH ACUTE",
    "1fe LATIN ^ LETTER |O WITH STROKE AND ACUTE;A WITH DOUBLE GRAVE;A WITH INVERTED BREVE",
    "204 LATIN ^ LETTER E WITH |DOUBLE GRAVE;INVERTED BREVE",
    "208 LATIN ^ LETTER I WITH |DOUBLE GRAVE;INVERTED BREVE",
    "20c LATIN ^ LETTER |O WITH DOUBLE GRAVE;O WITH INVERTED BREVE;R WITH DOUBLE GRAVE",
    "212 LATIN ^ LETTER |R WITH INVERTED BREVE;U WITH DOUBLE GRAVE;U WITH INVERTED BREVE",
    "218 LATIN ^ LETTER |S WITH COMMA BELOW;T WITH COMMA BELOW;YOGH;H WITH CARON",
    "220 LATIN |CAPITAL LETTER N WITH LONG RIGHT LEG;SMALL LETTER D WITH CURL",
    "222 LATIN ^ LETTER |OU;Z WITH HOOK;A WITH DOT ABOVE;E WITH CEDILLA",
    "22a LATIN ^ LETTER O WITH |DIAERESIS AND MACRON;TILDE AND MACRON;DOT ABOVE",
    "230 LATIN ^ LETTER |O WITH DOT ABOVE AND MACRON;Y WITH MACRON",
    "234 LATIN SMALL LETTER |L WITH CURL;N WITH CURL;T WITH CURL;DOTLESS J;DB DIGRAPH;QP DIGRAPH",
    "23a |LATIN CAPITAL LETTER A WITH STROKE", "23b LATIN ^ LETTER C WITH |STROKE",
    "23d LATIN CAPITAL LETTER |L WITH BAR;T WITH DIAGONAL STROKE",
    "23f LATIN SMALL LETTER |S WITH SWASH TAIL;Z WITH SWASH TAIL",
    "241 LATIN ^ LETTER GLOTTAL |STOP", "243 LATIN CAPITAL LETTER |B WITH STROKE;U BAR;TURNED V",
    "246 LATIN ^ LETTER |E WITH STROKE;J WITH STROKE",
    "24a LATIN |CAPITAL LETTER SMALL Q WITH HOOK TAIL;SMALL LETTER Q WITH HOOK TAIL",
    "24c LATIN ^ LETTER |R WITH STROKE;Y WITH STROKE",
    "250 LATIN SMALL LETTER |TURNED A;ALPHA;TURNED ALPHA;B WITH HOOK;OPEN O;C WITH CURL",
    "256 LATIN SMALL LETTER |D WITH TAIL;D WITH HOOK;REVERSED E;SCHWA;SCHWA WITH HOOK;OPEN E",
    "25c LATIN SMALL LETTER REVERSED OPEN |E;E WITH HOOK",
    "25e LATIN SMALL LETTER |CLOSED REVERSED OPEN E;DOTLESS J WITH STROKE;G WITH HOOK;SCRIPT G",
    "262 |LATIN LETTER SMALL CAPITAL G",
    "263 LATIN SMALL LETTER |GAMMA;RAMS HORN;TURNED H;H WITH HOOK;HENG WITH HOOK;I WITH STROKE",
    "269 LATIN |SMALL LETTER IOTA;LETTER SMALL CAPITAL I",
    "26b LATIN SMALL LETTER L WITH |MIDDLE TILDE;BELT;RETROFLEX HOOK",
    "26e LATIN SMALL LETTER |LEZH;TURNED M;TURNED M WITH LONG LEG;M WITH HOOK",
    "272 LATIN SMALL LETTER N WITH |LEFT HOOK;RETROFLEX HOOK",
    "274 LATIN |LETTER SMALL CAPITAL N;SMALL LETTER BARRED O;LETTER SMALL CAPITAL OE",
    "277 LATIN SMALL LETTER |CLOSED OMEGA;PHI;TURNED R;TURNED R WITH LONG LEG;TURNED R WITH HOOK",
    "27c LATIN SMALL LETTER |R WITH LONG LEG;R WITH TAIL;R WITH FISHHOOK;REVERSED R WITH FISHHOOK",
    "280 LATIN LETTER SMALL CAPITAL |R;INVERTED R",
    "282 LATIN SMALL LETTER |S WITH HOOK;ESH;DOTLESS J WITH STROKE AND HOOK",
    "285 LATIN SMALL LETTER |SQUAT REVERSED ESH;ESH WITH CURL;TURNED T;T WITH RETROFLEX HOOK",
    "289 LATIN SMALL LETTER |U BAR;UPSILON;V WITH HOOK;TURNED V;TURNED W;TURNED Y",
    "28f |LATIN LETTER SMALL CAPITAL Y",
    "290 LATIN SMALL LETTER |Z WITH RETROFLEX HOOK;Z WITH CURL;EZH;EZH WITH CURL",
    "294 LATIN LETTER |GLOTTAL STOP;PHARYNGEAL VOICED FRICATIVE;INVERTED GLOTTAL STOP;STRETCHED C",
    "298 LATIN |LETTER BILABIAL CLICK;LETTER SMALL CAPITAL B;SMALL LETTER CLOSED OPEN E",
    "29b LATIN LETTER SMALL CAPITAL |G WITH HOOK;H",
    "29d LATIN SMALL LETTER |J WITH CROSSED-TAIL;TURNED K",
    "29f LATIN |LETTER SMALL CAPITAL L;SMALL LETTER Q WITH HOOK",
    "2a1 LATIN LETTER |GLOTTAL STOP WITH STROKE;REVERSED GLOTTAL STOP WITH STROKE",
    "2a3 LATIN SMALL LETTER |DZ DIGRAPH;DEZH DIGRAPH;DZ DIGRAPH WITH CURL;TS DIGRAPH",
    "2a7 LATIN SMALL LETTER |TESH DIGRAPH;TC DIGRAPH WITH CURL;FENG DIGRAPH;LS DIGRAPH;LZ DIGRAPH",
    "2ac LATIN LETTER |BILABIAL PERCUSSIVE;BIDENTAL PERCUSSIVE",
    "2ae LATIN SMALL LETTER TURNED H WITH |FISHHOOK;FISHHOOK AND TAIL"]

/-- Modifying letters and marks that combine. -/
def markNames : List String :=
  ["2b0 MODIFIER LETTER SMALL |H;H WITH HOOK;J;R;TURNED R;TURNED R WITH HOOK;CAPITAL INVERTED R;W",
    "2b8 MODIFIER LETTER |SMALL Y;PRIME;DOUBLE PRIME;TURNED COMMA;APOSTROPHE;REVERSED COMMA",
    "2be MODIFIER LETTER |RIGHT HALF RING;LEFT HALF RING;GLOTTAL STOP;REVERSED GLOTTAL STOP",
    "2c2 MODIFIER LETTER |LEFT ARROWHEAD;RIGHT ARROWHEAD;UP ARROWHEAD;DOWN ARROWHEAD",
    "2c6 |MODIFIER LETTER CIRCUMFLEX ACCENT;CARON",
    "2c8 MODIFIER LETTER |VERTICAL LINE;MACRON;ACUTE ACCENT;GRAVE ACCENT",
    "2cc MODIFIER LETTER LOW |VERTICAL LINE;MACRON;GRAVE ACCENT;ACUTE ACCENT",
    "2d0 MODIFIER LETTER |TRIANGULAR COLON;HALF TRIANGULAR COLON;CENTRED RIGHT HALF RING",
    "2d3 MODIFIER LETTER |CENTRED LEFT HALF RING;UP TACK;DOWN TACK;PLUS SIGN;MINUS SIGN",
    "2d8 |BREVE;DOT ABOVE;RING ABOVE;OGONEK;SMALL TILDE;DOUBLE ACUTE ACCENT",
    "2de MODIFIER LETTER |RHOTIC HOOK;CROSS ACCENT",
    "2e0 MODIFIER LETTER SMALL |GAMMA;L;S;X;REVERSED GLOTTAL STOP",
    "2e5 MODIFIER LETTER |EXTRA-HIGH TONE BAR;HIGH TONE BAR",
    "2e7 MODIFIER LETTER |MID TONE BAR;LOW TONE BAR;EXTRA-LOW TONE BAR;YIN DEPARTING TONE MARK",
    "2eb MODIFIER LETTER |YANG DEPARTING TONE MARK;VOICING;UNASPIRATED;DOUBLE APOSTROPHE",
    "2ef MODIFIER LETTER LOW |DOWN ARROWHEAD;UP ARROWHEAD;LEFT ARROWHEAD;RIGHT ARROWHEAD;RING",
    "2f4 MODIFIER LETTER MIDDLE |GRAVE ACCENT;DOUBLE GRAVE ACCENT;DOUBLE ACUTE ACCENT",
    "2f7 MODIFIER LETTER |LOW TILDE;RAISED COLON;BEGIN HIGH TONE;END HIGH TONE",
    "2fb MODIFIER LETTER |BEGIN LOW TONE;END LOW TONE;SHELF;OPEN SHELF;LOW LEFT ARROW",
    "300 COMBINING |GRAVE ACCENT;ACUTE ACCENT;CIRCUMFLEX ACCENT;TILDE;MACRON",
    "305 COMBINING |OVERLINE;BREVE;DOT ABOVE;DIAERESIS;HOOK ABOVE;RING ABOVE;DOUBLE ACUTE ACCENT",
    "30c COMBINING |CARON;VERTICAL LINE ABOVE;DOUBLE VERTICAL LINE ABOVE;DOUBLE GRAVE ACCENT",
    "310 COMBINING |CANDRABINDU;INVERTED BREVE;TURNED COMMA ABOVE;COMMA ABOVE;REVERSED COMMA ABOVE",
    "315 COMBINING |COMMA ABOVE RIGHT;GRAVE ACCENT BELOW;ACUTE ACCENT BELOW;LEFT TACK BELOW",
    "319 COMBINING |RIGHT TACK BELOW;LEFT ANGLE ABOVE;HORN;LEFT HALF RING BELOW;UP TACK BELOW",
    "31e COMBINING |DOWN TACK BELOW;PLUS SIGN BELOW;MINUS SIGN BELOW;PALATALIZED HOOK BELOW",
    "322 COMBINING |RETROFLEX HOOK BELOW;DOT BELOW;DIAERESIS BELOW;RING BELOW;COMMA BELOW;CEDILLA",
    "328 COMBINING |OGONEK;VERTICAL LINE BELOW;BRIDGE BELOW;INVERTED DOUBLE ARCH BELOW;CARON BELOW",
    "32d COMBINING |CIRCUMFLEX ACCENT BELOW;BREVE BELOW;INVERTED BREVE BELOW;TILDE BELOW",
    "331 COMBINING |MACRON BELOW;LOW LINE;DOUBLE LOW LINE;TILDE OVERLAY;SHORT STROKE OVERLAY",
    "336 COMBINING |LONG STROKE OVERLAY;SHORT SOLIDUS OVERLAY;LONG SOLIDUS OVERLAY",
    "339 COMBINING |RIGHT HALF RING BELOW;INVERTED BRIDGE BELOW;SQUARE BELOW;SEAGULL BELOW",
    "33d COMBINING |X ABOVE;VERTICAL TILDE;DOUBLE OVERLINE;GRAVE TONE MARK;ACUTE TONE MARK",
    "342 COMBINING GREEK |PERISPOMENI;KORONIS;DIALYTIKA TONOS;YPOGEGRAMMENI",
    "346 COMBINING |BRIDGE ABOVE;EQUALS SIGN BELOW;DOUBLE VERTICAL LINE BELOW;LEFT ANGLE BELOW",
    "34a COMBINING |NOT TILDE ABOVE;HOMOTHETIC ABOVE;ALMOST EQUAL TO ABOVE;LEFT RIGHT ARROW BELOW",
    "34e COMBINING |UPWARDS ARROW BELOW;GRAPHEME JOINER;RIGHT ARROWHEAD ABOVE;LEFT HALF RING ABOVE",
    "352 COMBINING |FERMATA;X BELOW;LEFT ARROWHEAD BELOW;RIGHT ARROWHEAD BELOW",
    "356 COMBINING |RIGHT ARROWHEAD AND UP ARROWHEAD BELOW;RIGHT HALF RING ABOVE;DOT ABOVE RIGHT",
    "359 COMBINING |ASTERISK BELOW;DOUBLE RING BELOW;ZIGZAG ABOVE;DOUBLE BREVE BELOW",
    "35d COMBINING DOUBLE |BREVE;MACRON;MACRON BELOW;TILDE;INVERTED BREVE;RIGHTWARDS ARROW BELOW",
    "363 COMBINING LATIN SMALL LETTER |A;E;I;O;U;C;D;H;M;R;T;V;X"]

/-- Greek, Coptic, Cyrillic and Armenian. -/
def greekNames : List String :=
  ["370 GREEK ^ LETTER |HETA;ARCHAIC SAMPI", "374 GREEK |NUMERAL SIGN;LOWER NUMERAL SIGN",
    "376 GREEK ^ LETTER PAMPHYLIAN |DIGAMMA",
    "37a GREEK |YPOGEGRAMMENI;SMALL REVERSED LUNATE SIGMA SYMBOL;SMALL DOTTED LUNATE SIGMA SYMBOL",
    "37d GREEK |SMALL REVERSED DOTTED LUNATE SIGMA SYMBOL;QUESTION MARK;CAPITAL LETTER YOT",
    "384 GREEK |TONOS;DIALYTIKA TONOS;CAPITAL LETTER ALPHA WITH TONOS;ANO TELEIA",
    "388 GREEK CAPITAL LETTER |EPSILON WITH TONOS;ETA WITH TONOS;IOTA WITH TONOS",
    "38c |GREEK CAPITAL LETTER OMICRON WITH TONOS",
    "38e GREEK CAPITAL LETTER |UPSILON WITH TONOS;OMEGA WITH TONOS",
    "390 |GREEK SMALL LETTER IOTA WITH DIALYTIKA AND TONOS",
    "391 GREEK CAPITAL LETTER |ALPHA;BETA;GAMMA;DELTA",
    "395 GREEK CAPITAL LETTER |EPSILON;ZETA;ETA;THETA;IOTA;KAPPA;LAMDA;MU;NU;XI;OMICRON;PI;RHO",
    "3a3 GREEK CAPITAL LETTER |SIGMA;TAU;UPSILON",
    "3a6 GREEK CAPITAL LETTER |PHI;CHI;PSI;OMEGA;IOTA WITH DIALYTIKA;UPSILON WITH DIALYTIKA",
    "3ac GREEK SMALL LETTER |ALPHA WITH TONOS;EPSILON WITH TONOS;ETA WITH TONOS",
    "3af GREEK SMALL LETTER |IOTA WITH TONOS;UPSILON WITH DIALYTIKA AND TONOS;ALPHA;BETA;GAMMA",
    "3b4 GREEK SMALL LETTER |DELTA;EPSILON;ZETA;ETA;THETA;IOTA;KAPPA;LAMDA;MU;NU;XI;OMICRON;PI;RHO",
    "3c2 GREEK SMALL LETTER |FINAL SIGMA;SIGMA;TAU;UPSILON;PHI;CHI;PSI;OMEGA;IOTA WITH DIALYTIKA",
    "3cb GREEK SMALL LETTER |UPSILON WITH DIALYTIKA;OMICRON WITH TONOS;UPSILON WITH TONOS",
    "3ce GREEK |SMALL LETTER OMEGA WITH TONOS;CAPITAL KAI SYMBOL;BETA SYMBOL;THETA SYMBOL",
    "3d2 GREEK UPSILON WITH |HOOK SYMBOL;ACUTE AND HOOK SYMBOL;DIAERESIS AND HOOK SYMBOL",
    "3d5 GREEK |PHI SYMBOL;PI SYMBOL;KAI SYMBOL;LETTER ARCHAIC KOPPA;SMALL LETTER ARCHAIC KOPPA",
    "3da GREEK |LETTER STIGMA;SMALL LETTER STIGMA;LETTER DIGAMMA;SMALL LETTER DIGAMMA",
    "3de GREEK |LETTER KOPPA;SMALL LETTER KOPPA;LETTER SAMPI;SMALL LETTER SAMPI",
    "3e2 COPTIC ^ LETTER |SHEI;FEI;KHEI;HORI;GANGIA;SHIMA;DEI",
    "3f0 GREEK |KAPPA SYMBOL;RHO SYMBOL;LUNATE SIGMA SYMBOL;LETTER YOT",
    "3f4 GREEK |CAPITAL THETA SYMBOL;LUNATE EPSILON SYMBOL;REVERSED LUNATE EPSILON SYMBOL",
    "3f7 GREEK ^ LETTER |SHO", "3f9 |GREEK CAPITAL LUNATE SIGMA SYMBOL", "3fa GREEK ^ LETTER |SAN",
    "3fc GREEK |RHO WITH STROKE SYMBOL;CAPITAL REVERSED LUNATE SIGMA SYMBOL",
    "3fe GREEK CAPITAL |DOTTED LUNATE SIGMA SYMBOL;REVERSED DOTTED LUNATE SIGMA SYMBOL",
    "400 |CYRILLIC CAPITAL LETTER IE WITH GRAVE",
    "401 CYRILLIC CAPITAL LETTER |IO;DJE;GJE;UKRAINIAN IE;DZE;BYELORUSSIAN-UKRAINIAN I",
    "407 CYRILLIC CAPITAL LETTER |YI;JE;LJE;NJE;TSHE;KJE;I WITH GRAVE;SHORT U",
    "40f CYRILLIC CAPITAL LETTER |DZHE;A;BE;VE;GHE;DE;IE;ZHE;ZE;I;SHORT I;KA;EL;EM;EN;O;PE;ER",
    "421 CYRILLIC CAPITAL LETTER |ES;TE;U;EF;HA;TSE;CHE;SHA;SHCHA;HARD SIGN;YERU;SOFT SIGN;E;YU;YA",
    "430 CYRILLIC SMALL LETTER |A;BE;VE;GHE;DE;IE;ZHE;ZE;I;SHORT I;KA;EL;EM;EN;O;PE;ER",
    "441 CYRILLIC SMALL LETTER |ES;TE;U;EF;HA;TSE;CHE;SHA;SHCHA;HARD SIGN;YERU;SOFT SIGN;E;YU;YA",
    "450 CYRILLIC SMALL LETTER |IE WITH GRAVE;IO;DJE;GJE;UKRAINIAN IE;DZE;BYELORUSSIAN-UKRAINIAN I",
    "457 CYRILLIC SMALL LETTER |YI;JE;LJE;NJE;TSHE;KJE;I WITH GRAVE;SHORT U;DZHE",
    "460 CYRILLIC ^ LETTER |OMEGA;YAT;IOTIFIED E;LITTLE YUS;IOTIFIED LITTLE YUS;BIG YUS",
    "46c CYRILLIC ^ LETTER |IOTIFIED BIG YUS;KSI;PSI;FITA;IZHITSA;IZHITSA WITH DOUBLE GRAVE ACCENT",
    "478 CYRILLIC ^ LETTER |UK;ROUND OMEGA;OMEGA WITH TITLO;OT;KOPPA",
    "482 |CYRILLIC THOUSANDS SIGN", "483 COMBINING CYRILLIC |TITLO;PALATALIZATION;DASIA PNEUMATA",
    "486 COMBINING CYRILLIC |PSILI PNEUMATA;POKRYTIE;HUNDRED THOUSANDS SIGN;MILLIONS SIGN",
    "48a CYRILLIC ^ LETTER |SHORT I WITH TAIL;SEMISOFT SIGN;ER WITH TICK",
    "490 CYRILLIC ^ LETTER GHE WITH |UPTURN;STROKE;MIDDLE HOOK",
    "496 CYRILLIC ^ LETTER |ZHE WITH DESCENDER;ZE WITH DESCENDER;KA WITH DESCENDER",
    "49c CYRILLIC ^ LETTER |KA WITH VERTICAL STROKE;KA WITH STROKE;BASHKIR KA;EN WITH DESCENDER",
    "4a4 CYRILLIC ^ |LIGATURE EN GHE;LETTER PE WITH MIDDLE HOOK",
    "4a8 CYRILLIC ^ LETTER |ABKHASIAN HA;ES WITH DESCENDER;TE WITH DESCENDER;STRAIGHT U",
    "4b0 CYRILLIC ^ |LETTER STRAIGHT U WITH STROKE;LETTER HA WITH DESCENDER;LIGATURE TE TSE",
    "4b6 CYRILLIC ^ LETTER |CHE WITH DESCENDER;CHE WITH VERTICAL STROKE;SHHA",
    "4bc CYRILLIC ^ LETTER ABKHASIAN |CHE;CHE WITH DESCENDER", "4c0 |CYRILLIC LETTER PALOCHKA",
    "4c1 CYRILLIC ^ LETTER |ZHE WITH BREVE;KA WITH HOOK",
    "4c5 CYRILLIC ^ LETTER |EL WITH TAIL;EN WITH HOOK;EN WITH TAIL;KHAKASSIAN CHE;EM WITH TAIL",
    "4cf |CYRILLIC SMALL LETTER PALOCHKA",
    "4d0 CYRILLIC ^ |LETTER A WITH BREVE;LETTER A WITH DIAERESIS;LIGATURE A IE",
    "4d6 CYRILLIC ^ LETTER |IE WITH BREVE;SCHWA;SCHWA WITH DIAERESIS;ZHE WITH DIAERESIS",
    "4de CYRILLIC ^ LETTER |ZE WITH DIAERESIS;ABKHASIAN DZE;I WITH MACRON;I WITH DIAERESIS",
    "4e6 CYRILLIC ^ LETTER |O WITH DIAERESIS;BARRED O;BARRED O WITH DIAERESIS;E WITH DIAERESIS",
    "4ee CYRILLIC ^ LETTER U WITH |MACRON;DIAERESIS;DOUBLE ACUTE",
    "4f4 CYRILLIC ^ LETTER |CHE WITH DIAERESIS;GHE WITH DESCENDER;YERU WITH DIAERESIS",
    "4fa CYRILLIC ^ LETTER |GHE WITH STROKE AND HOOK;HA WITH HOOK;HA WITH STROKE",
    "500 CYRILLIC ^ LETTER KOMI |DE;DJE;ZJE;DZJE;LJE;NJE;SJE;TJE",
    "510 CYRILLIC ^ LETTER |REVERSED ZE;EL WITH HOOK;LHA;RHA;YAE;QA",
    "51c CYRILLIC ^ LETTER |WE;ALEUT KA;EL WITH MIDDLE HOOK;EN WITH MIDDLE HOOK;PE WITH DESCENDER",
    "526 CYRILLIC ^ LETTER |SHHA WITH DESCENDER;EN WITH LEFT HOOK;DZZHE;DCHE;EL WITH DESCENDER",
    "531 ARMENIAN CAPITAL LETTER |AYB;BEN;GIM;DA;ECH",
    "536 ARMENIAN CAPITAL LETTER |ZA;EH;ET;TO;ZHE;INI;LIWN;XEH;CA;KEN;HO;JA;GHAD;CHEH;MEN;YI;NOW",
    "547 ARMENIAN CAPITAL LETTER |SHA;VO;CHA;PEH;JHEH;RA;SEH;VEW;TIWN;REH;CO;YIWN;PIWR;KEH;OH;FEH",
    "559 |ARMENIAN MODIFIER LETTER LEFT HALF RING",
    "55a ARMENIAN |APOSTROPHE;EMPHASIS MARK;EXCLAMATION MARK;COMMA;QUESTION MARK;ABBREVIATION MARK",
    "560 ARMENIAN SMALL LETTER |TURNED AYB;AYB;BEN;GIM;DA",
    "565 ARMENIAN SMALL LETTER |ECH;ZA;EH;ET;TO;ZHE;INI;LIWN;XEH;CA;KEN;HO;JA;GHAD;CHEH;MEN;YI;NOW",
    "577 ARMENIAN SMALL LETTER |SHA;VO;CHA;PEH;JHEH;RA;SEH;VEW;TIWN;REH;CO;YIWN;PIWR;KEH;OH;FEH",
    "587 ARMENIAN |SMALL LIGATURE ECH YIWN;SMALL LETTER YI WITH STROKE;FULL STOP;HYPHEN",
    "58d |RIGHT-FACING ARMENIAN ETERNITY SIGN",
    "58e |LEFT-FACING ARMENIAN ETERNITY SIGN;ARMENIAN DRAM SIGN"]

/-- Hebrew and Arabic. -/
def semiticNames : List String :=
  ["591 HEBREW ACCENT |ETNAHTA;SEGOL;SHALSHELET;ZAQEF QATAN;ZAQEF GADOL;TIPEHA",
    "597 HEBREW ACCENT |REVIA;ZARQA;PASHTA;YETIV;TEVIR;GERESH;GERESH MUQDAM;GERSHAYIM;QARNEY PARA",
    "5a0 HEBREW ACCENT |TELISHA GEDOLA;PAZER;ATNAH HAFUKH;MUNAH;MAHAPAKH;MERKHA;MERKHA KEFULA",
    "5a7 HEBREW ACCENT |DARGA;QADMA;TELISHA QETANA;YERAH BEN YOMO;OLE;ILUY;DEHI;ZINOR",
    "5af |HEBREW MARK MASORA CIRCLE",
    "5b0 HEBREW POINT |SHEVA;HATAF SEGOL;HATAF PATAH;HATAF QAMATS;HIRIQ;TSERE",
    "5b6 HEBREW POINT |SEGOL;PATAH;QAMATS;HOLAM;HOLAM HASER FOR VAV;QUBUTS;DAGESH OR MAPIQ;METEG",
    "5be |HEBREW PUNCTUATION MAQAF",
    "5bf HEBREW |POINT RAFE;PUNCTUATION PASEQ;POINT SHIN DOT;POINT SIN DOT;PUNCTUATION SOF PASUQ",
    "5c4 HEBREW |MARK UPPER DOT;MARK LOWER DOT;PUNCTUATION NUN HAFUKHA;POINT QAMATS QATAN",
    "5d0 |HEBREW LETTER ALEF",
    "5d1 HEBREW LETTER |BET;GIMEL;DALET;HE;VAV;ZAYIN;HET;TET;YOD;FINAL KAF;KAF;LAMED;FINAL MEM;MEM",
    "5df HEBREW LETTER |FINAL NUN;NUN;SAMEKH;AYIN;FINAL PE;PE;FINAL TSADI;TSADI;QOF;RESH;SHIN;TAV",
    "5ef |HEBREW YOD TRIANGLE", "5f0 HEBREW LIGATURE YIDDISH |DOUBLE VAV;VAV YOD;DOUBLE YOD",
    "5f3 HEBREW PUNCTUATION |GERESH;GERSHAYIM",
    "600 ARABIC |NUMBER SIGN;SIGN SANAH;FOOTNOTE MARKER;SIGN SAFHA;SIGN SAMVAT;NUMBER MARK ABOVE",
    "606 ARABIC-INDIC |CUBE ROOT;FOURTH ROOT", "608 |ARABIC RAY",
    "609 ARABIC-INDIC PER |MILLE SIGN;TEN THOUSAND SIGN", "60b |AFGHANI SIGN;ARABIC COMMA",
    "60d ARABIC |DATE SEPARATOR;POETIC VERSE SIGN;SIGN MISRA;SIGN SALLALLAHOU ALAYHE WASSALLAM",
    "611 ARABIC SIGN |ALAYHE ASSALLAM;RAHMATULLAH ALAYHE;RADI ALLAHOU ANHU;TAKHALLUS",
    "615 ARABIC SMALL |HIGH TAH;HIGH LIGATURE ALEF WITH LAM WITH YEH;HIGH ZAIN;FATHA;DAMMA;KASRA",
    "61b ARABIC |SEMICOLON;LETTER MARK;END OF TEXT MARK;TRIPLE DOT PUNCTUATION MARK;QUESTION MARK",
    "620 ARABIC LETTER |KASHMIRI YEH;HAMZA;ALEF WITH MADDA ABOVE;ALEF WITH HAMZA ABOVE",
    "624 ARABIC LETTER |WAW WITH HAMZA ABOVE;ALEF WITH HAMZA BELOW;YEH WITH HAMZA ABOVE;ALEF;BEH",
    "629 ARABIC LETTER |TEH MARBUTA;TEH;THEH;JEEM;HAH;KHAH;DAL;THAL;REH;ZAIN;SEEN;SHEEN;SAD;DAD",
    "637 ARABIC LETTER |TAH;ZAH;AIN;GHAIN;KEHEH WITH TWO DOTS ABOVE;KEHEH WITH THREE DOTS BELOW",
    "63d ARABIC LETTER FARSI YEH WITH |INVERTED V;TWO DOTS ABOVE;THREE DOTS ABOVE",
    "640 |ARABIC TATWEEL", "641 ARABIC LETTER |FEH;QAF;KAF;LAM;MEEM;NOON;HEH;WAW;ALEF MAKSURA;YEH",
    "64b ARABIC |FATHATAN;DAMMATAN;KASRATAN;FATHA;DAMMA;KASRA;SHADDA;SUKUN;MADDAH ABOVE",
    "654 ARABIC |HAMZA ABOVE;HAMZA BELOW;SUBSCRIPT ALEF;INVERTED DAMMA;MARK NOON GHUNNA;ZWARAKAY",
    "65a ARABIC VOWEL SIGN |SMALL V ABOVE;INVERTED SMALL V ABOVE;DOT BELOW",
    "65d ARABIC |REVERSED DAMMA;FATHA WITH TWO DOTS;WAVY HAMZA BELOW",
    "660 ARABIC-INDIC DIGIT |ZERO;ONE;TWO;THREE;FOUR;FIVE;SIX;SEVEN;EIGHT;NINE",
    "66a ARABIC |PERCENT SIGN;DECIMAL SEPARATOR;THOUSANDS SEPARATOR;FIVE POINTED STAR",
    "66e ARABIC LETTER |DOTLESS BEH;DOTLESS QAF;SUPERSCRIPT ALEF;ALEF WASLA",
    "672 ARABIC LETTER ALEF WITH WAVY HAMZA |ABOVE;BELOW",
    "674 ARABIC LETTER HIGH |HAMZA;HAMZA ALEF;HAMZA WAW",
    "677 ARABIC LETTER |U WITH HAMZA ABOVE;HIGH HAMZA YEH;TTEH;TTEHEH",
    "67b ARABIC LETTER |BEEH;TEH WITH RING;TEH WITH THREE DOTS ABOVE DOWNWARDS;PEH;TEHEH;BEHEH",
    "681 ARABIC LETTER HAH WITH |HAMZA ABOVE;TWO DOTS VERTICAL ABOVE",
    "683 ARABIC LETTER |NYEH;DYEH;HAH WITH THREE DOTS ABOVE;TCHEH;TCHEHEH;DDAL",
    "689 ARABIC LETTER DAL WITH |RING;DOT BELOW;DOT BELOW AND SMALL TAH",
    "68c ARABIC LETTER |DAHAL;DDAHAL;DUL;DAL WITH THREE DOTS ABOVE DOWNWARDS",
    "690 ARABIC LETTER |DAL WITH FOUR DOTS ABOVE;RREH;REH WITH SMALL V;REH WITH RING",
    "694 ARABIC LETTER REH WITH |DOT BELOW;SMALL V BELOW;DOT BELOW AND DOT ABOVE;TWO DOTS ABOVE",
    "698 ARABIC LETTER |JEH;REH WITH FOUR DOTS ABOVE;SEEN WITH DOT BELOW AND DOT ABOVE",
    "69b ARABIC LETTER SEEN WITH THREE DOTS |BELOW;BELOW AND THREE DOTS ABOVE",
    "69d ARABIC LETTER SAD WITH |TWO DOTS BELOW;THREE DOTS ABOVE",
    "69f ARABIC LETTER |TAH WITH THREE DOTS ABOVE;AIN WITH THREE DOTS ABOVE;DOTLESS FEH",
    "6a2 ARABIC LETTER |FEH WITH DOT MOVED BELOW;FEH WITH DOT BELOW;VEH;FEH WITH THREE DOTS BELOW",
    "6a6 ARABIC LETTER |PEHEH;QAF WITH DOT ABOVE;QAF WITH THREE DOTS ABOVE;KEHEH;SWASH KAF",
    "6ab ARABIC LETTER |KAF WITH RING;KAF WITH DOT ABOVE;NG;KAF WITH THREE DOTS BELOW;GAF",
    "6b0 ARABIC LETTER |GAF WITH RING;NGOEH;GAF WITH TWO DOTS BELOW;GUEH;GAF WITH THREE DOTS ABOVE",
    "6b5 ARABIC LETTER LAM WITH |SMALL V;DOT ABOVE;THREE DOTS ABOVE;THREE DOTS BELOW",
    "6b9 ARABIC LETTER |NOON WITH DOT BELOW;NOON GHUNNA;RNOON;NOON WITH RING",
    "6bd ARABIC LETTER |NOON WITH THREE DOTS ABOVE;HEH DOACHASHMEE;TCHEH WITH DOT ABOVE",
    "6c0 ARABIC LETTER |HEH WITH YEH ABOVE;HEH GOAL;HEH GOAL WITH HAMZA ABOVE;TEH MARBUTA GOAL",
    "6c4 ARABIC LETTER |WAW WITH RING;KIRGHIZ OE;OE;U;YU;KIRGHIZ YU;WAW WITH TWO DOTS ABOVE",
    "6cb ARABIC LETTER |VE;FARSI YEH;YEH WITH TAIL;YEH WITH SMALL V;WAW WITH DOT ABOVE;E",
    "6d1 ARABIC LETTER YEH |WITH THREE DOTS BELOW;BARREE;BARREE WITH HAMZA ABOVE",
    "6d4 ARABIC |FULL STOP;LETTER AE",
    "6d6 ARABIC SMALL HIGH LIGATURE |SAD WITH LAM WITH ALEF MAKSURA;QAF WITH LAM WITH ALEF MAKSURA",
    "6d8 ARABIC SMALL HIGH |MEEM INITIAL FORM;LAM ALEF;JEEM;THREE DOTS;SEEN",
    "6dd ARABIC |END OF AYAH;START OF RUB EL HIZB",
    "6df ARABIC SMALL HIGH |ROUNDED ZERO;UPRIGHT RECTANGULAR ZERO;DOTLESS HEAD OF KHAH",
    "6e2 ARABIC SMALL |HIGH MEEM ISOLATED FORM;LOW SEEN;HIGH MADDA;WAW;YEH;HIGH YEH;HIGH NOON",
    "6e9 ARABIC |PLACE OF SAJDAH;EMPTY CENTRE LOW STOP",
    "6eb ARABIC |EMPTY CENTRE HIGH STOP;ROUNDED HIGH STOP WITH FILLED CENTRE;SMALL LOW MEEM",
    "6ee ARABIC LETTER |DAL WITH INVERTED V;REH WITH INVERTED V",
    "6f0 EXTENDED ARABIC-INDIC DIGIT |ZERO;ONE;TWO;THREE;FOUR;FIVE;SIX;SEVEN;EIGHT;NINE",
    "6fa ARABIC LETTER |SHEEN WITH DOT BELOW;DAD WITH DOT BELOW;GHAIN WITH DOT BELOW",
    "6fd ARABIC |SIGN SINDHI AMPERSAND;SIGN SINDHI POSTPOSITION MEN;LETTER HEH WITH INVERTED V"]

/-- More Latin letters with marks. -/
def latinAdditionalNames : List String :=
  ["1e00 LATIN ^ LETTER |A WITH RING BELOW;B WITH DOT ABOVE",
    "1e04 LATIN ^ LETTER |B WITH DOT BELOW;B WITH LINE BELOW;C WITH CEDILLA AND ACUTE",
    "1e0a LATIN ^ LETTER D WITH |DOT ABOVE;DOT BELOW;LINE BELOW;CEDILLA;CIRCUMFLEX BELOW",
    "1e14 LATIN ^ LETTER E WITH |MACRON AND GRAVE;MACRON AND ACUTE;CIRCUMFLEX BELOW;TILDE BELOW",
    "1e1c LATIN ^ LETTER |E WITH CEDILLA AND BREVE;F WITH DOT ABOVE;G WITH MACRON",
    "1e22 LATIN ^ LETTER H WITH |DOT ABOVE;DOT BELOW;DIAERESIS;CEDILLA;BREVE BELOW",
    "1e2c LATIN ^ LETTER I WITH |TILDE BELOW;DIAERESIS AND ACUTE",
    "1e30 LATIN ^ LETTER K WITH |ACUTE;DOT BELOW;LINE BELOW",
    "1e36 LATIN ^ LETTER L WITH |DOT BELOW;DOT BELOW AND MACRON;LINE BELOW;CIRCUMFLEX BELOW",
    "1e3e LATIN ^ LETTER M WITH |ACUTE;DOT ABOVE;DOT BELOW",
    "1e44 LATIN ^ LETTER N WITH |DOT ABOVE;DOT BELOW;LINE BELOW;CIRCUMFLEX BELOW",
    "1e4c LATIN ^ LETTER O WITH TILDE AND |ACUTE;DIAERESIS",
    "1e50 LATIN ^ LETTER O WITH MACRON AND |GRAVE;ACUTE",
    "1e54 LATIN ^ LETTER P WITH |ACUTE;DOT ABOVE",
    "1e58 LATIN ^ LETTER R WITH |DOT ABOVE;DOT BELOW;DOT BELOW AND MACRON;LINE BELOW",
    "1e60 LATIN ^ LETTER S WITH DOT |ABOVE;BELOW",
    "1e64 LATIN ^ LETTER S WITH |ACUTE AND DOT ABOVE;CARON AND DOT ABOVE;DOT BELOW AND DOT ABOVE",
    "1e6a LATIN ^ LETTER T WITH |DOT ABOVE;DOT BELOW;LINE BELOW;CIRCUMFLEX BELOW",
    "1e72 LATIN ^ LETTER U WITH |DIAERESIS BELOW;TILDE BELOW;CIRCUMFLEX BELOW;TILDE AND ACUTE",
    "1e7a LATIN ^ LETTER |U WITH MACRON AND DIAERESIS;V WITH TILDE;V WITH DOT BELOW",
    "1e80 LATIN ^ LETTER W WITH |GRAVE;ACUTE;DIAERESIS;DOT ABOVE;DOT BELOW",
    "1e8a LATIN ^ LETTER |X WITH DOT ABOVE;X WITH DIAERESIS;Y WITH DOT ABOVE",
    "1e90 LATIN ^ LETTER Z WITH |CIRCUMFLEX;DOT BELOW;LINE BELOW",
    "1e96 LATIN SMALL LETTER |H WITH LINE BELOW;T WITH DIAERESIS",
    "1e98 LATIN SMALL LETTER |W WITH RING ABOVE;Y WITH RING ABOVE;A WITH RIGHT HALF RING",
    "1e9b LATIN SMALL LETTER LONG S WITH |DOT ABOVE;DIAGONAL STROKE;HIGH STROKE",
    "1e9e LATIN |CAPITAL LETTER SHARP S;SMALL LETTER DELTA",
    "1ea0 LATIN ^ LETTER A WITH |DOT BELOW;HOOK ABOVE",
    "1ea4 LATIN ^ LETTER A WITH CIRCUMFLEX AND |ACUTE;GRAVE;HOOK ABOVE;TILDE;DOT BELOW",
    "1eae LATIN ^ LETTER A WITH BREVE AND |ACUTE;GRAVE;HOOK ABOVE;TILDE;DOT BELOW",
    "1eb8 LATIN ^ LETTER E WITH |DOT BELOW;HOOK ABOVE;TILDE",
    "1ebe LATIN ^ LETTER E WITH CIRCUMFLEX AND |ACUTE;GRAVE;HOOK ABOVE;TILDE;DOT BELOW",
    "1ec8 LATIN ^ LETTER |I WITH HOOK ABOVE;I WITH DOT BELOW;O WITH DOT BELOW;O WITH HOOK ABOVE",
    "1ed0 LATIN ^ LETTER O WITH CIRCUMFLEX AND |ACUTE;GRAVE;HOOK ABOVE;TILDE;DOT BELOW",
    "1eda LATIN ^ LETTER O WITH HORN AND |ACUTE;GRAVE;HOOK ABOVE;TILDE;DOT BELOW",
    "1ee4 LATIN ^ LETTER U WITH |DOT BELOW;HOOK ABOVE",
    "1ee8 LATIN ^ LETTER U WITH HORN AND |ACUTE;GRAVE;HOOK ABOVE;TILDE;DOT BELOW",
    "1ef2 LATIN ^ LETTER Y WITH |GRAVE;DOT BELOW;HOOK ABOVE;TILDE",
    "1efa LATIN ^ LETTER |MIDDLE-WELSH LL;MIDDLE-WELSH V;Y WITH LOOP"]

/-- Punctuation and currency signs. -/
def punctuationNames : List String :=
  ["2000 |EN QUAD;EM QUAD;EN SPACE;EM SPACE;THREE-PER-EM SPACE",
    "2005 |FOUR-PER-EM SPACE;SIX-PER-EM SPACE;FIGURE SPACE;PUNCTUATION SPACE;THIN SPACE;HAIR SPACE",
    "200b ZERO WIDTH |SPACE;NON-JOINER;JOINER",
    "200e |LEFT-TO-RIGHT MARK;RIGHT-TO-LEFT MARK;HYPHEN",
    "2011 |NON-BREAKING HYPHEN;FIGURE DASH;EN DASH;EM DASH;HORIZONTAL BAR;DOUBLE VERTICAL LINE",
    "2017 |DOUBLE LOW LINE;LEFT SINGLE QUOTATION MARK;RIGHT SINGLE QUOTATION MARK",
    "201a SINGLE |LOW-9 QUOTATION MARK;HIGH-REVERSED-9 QUOTATION MARK",
    "201c |LEFT DOUBLE QUOTATION MARK;RIGHT DOUBLE QUOTATION MARK",
    "201e DOUBLE |LOW-9 QUOTATION MARK;HIGH-REVERSED-9 QUOTATION MARK",
    "2020 |DAGGER;DOUBLE DAGGER;BULLET;TRIANGULAR BULLET;ONE DOT LEADER",
    "2025 |TWO DOT LEADER;HORIZONTAL ELLIPSIS;HYPHENATION POINT;LINE SEPARATOR;PARAGRAPH SEPARATOR",
    "202a |LEFT-TO-RIGHT EMBEDDING;RIGHT-TO-LEFT EMBEDDING;POP DIRECTIONAL FORMATTING",
    "202d |LEFT-TO-RIGHT OVERRIDE;RIGHT-TO-LEFT OVERRIDE;NARROW NO-BREAK SPACE",
    "2030 |PER MILLE SIGN;PER TEN THOUSAND SIGN;PRIME;DOUBLE PRIME;TRIPLE PRIME",
    "2035 REVERSED |PRIME;DOUBLE PRIME;TRIPLE PRIME",
    "2038 |CARET;SINGLE LEFT-POINTING ANGLE QUOTATION MARK",
    "203a |SINGLE RIGHT-POINTING ANGLE QUOTATION MARK;REFERENCE MARK;DOUBLE EXCLAMATION MARK",
    "203d |INTERROBANG;OVERLINE;UNDERTIE;CHARACTER TIE;CARET INSERTION POINT",
    "2042 |ASTERISM;HYPHEN BULLET;FRACTION SLASH;LEFT SQUARE BRACKET WITH QUILL",
    "2046 |RIGHT SQUARE BRACKET WITH QUILL;DOUBLE QUESTION MARK;QUESTION EXCLAMATION MARK",
    "2049 |EXCLAMATION QUESTION MARK;TIRONIAN SIGN ET;REVERSED PILCROW SIGN",
    "204c |BLACK LEFTWARDS BULLET;BLACK RIGHTWARDS BULLET;LOW ASTERISK;REVERSED SEMICOLON;CLOSE UP",
    "2051 |TWO ASTERISKS ALIGNED VERTICALLY;COMMERCIAL MINUS SIGN;SWUNG DASH;INVERTED UNDERTIE",
    "2055 |FLOWER PUNCTUATION MARK;THREE DOT PUNCTUATION;QUADRUPLE PRIME;FOUR DOT PUNCTUATION",
    "2059 |FIVE DOT PUNCTUATION;TWO DOT PUNCTUATION;FOUR DOT MARK;DOTTED CROSS",
    "205d |TRICOLON;VERTICAL FOUR DOTS;MEDIUM MATHEMATICAL SPACE;WORD JOINER;FUNCTION APPLICATION",
    "2062 INVISIBLE |TIMES;SEPARATOR;PLUS", "2066 |LEFT-TO-RIGHT ISOLATE",
    "2067 |RIGHT-TO-LEFT ISOLATE;FIRST STRONG ISOLATE;POP DIRECTIONAL ISOLATE",
    "206a |INHIBIT SYMMETRIC SWAPPING;ACTIVATE SYMMETRIC SWAPPING;INHIBIT ARABIC FORM SHAPING",
    "206d |ACTIVATE ARABIC FORM SHAPING;NATIONAL DIGIT SHAPES;NOMINAL DIGIT SHAPES",
    "20a0 |EURO-CURRENCY SIGN;COLON SIGN",
    "20a2 |CRUZEIRO SIGN;FRENCH FRANC SIGN;LIRA SIGN;MILL SIGN;NAIRA SIGN;PESETA SIGN;RUPEE SIGN",
    "20a9 |WON SIGN;NEW SHEQEL SIGN;DONG SIGN;EURO SIGN;KIP SIGN;TUGRIK SIGN;DRACHMA SIGN",
    "20b0 |GERMAN PENNY SIGN;PESO SIGN;GUARANI SIGN;AUSTRAL SIGN;HRYVNIA SIGN;CEDI SIGN",
    "20b6 |LIVRE TOURNOIS SIGN;SPESMILO SIGN;TENGE SIGN;INDIAN RUPEE SIGN;TURKISH LIRA SIGN",
    "20bb |NORDIC MARK SIGN;MANAT SIGN;RUBLE SIGN;LARI SIGN;BITCOIN SIGN;SOM SIGN"]

/-- Signs like letters, and arrows. -/
def letterlikeNames : List String :=
  ["2100 |ACCOUNT OF;ADDRESSED TO THE SUBJECT;DOUBLE-STRUCK CAPITAL C;DEGREE CELSIUS",
    "2104 |CENTRE LINE SYMBOL;CARE OF;CADA UNA;EULER CONSTANT;SCRUPLE;DEGREE FAHRENHEIT",
    "210a |SCRIPT SMALL G;SCRIPT CAPITAL H;BLACK-LETTER CAPITAL H;DOUBLE-STRUCK CAPITAL H",
    "210e |PLANCK CONSTANT;PLANCK CONSTANT OVER TWO PI;SCRIPT CAPITAL I;BLACK-LETTER CAPITAL I",
    "2112 SCRIPT ^ |L", "2114 |L B BAR SYMBOL",
    "2115 |DOUBLE-STRUCK CAPITAL N;NUMERO SIGN;SOUND RECORDING COPYRIGHT;SCRIPT CAPITAL P",
    "2119 DOUBLE-STRUCK CAPITAL |P;Q", "211b |SCRIPT CAPITAL R",
    "211c |BLACK-LETTER CAPITAL R;DOUBLE-STRUCK CAPITAL R;PRESCRIPTION TAKE;RESPONSE;SERVICE MARK",
    "2121 |TELEPHONE SIGN;TRADE MARK SIGN;VERSICLE;DOUBLE-STRUCK CAPITAL Z;OUNCE SIGN;OHM SIGN",
    "2127 |INVERTED OHM SIGN;BLACK-LETTER CAPITAL Z;TURNED GREEK SMALL LETTER IOTA;KELVIN SIGN",
    "212b |ANGSTROM SIGN;SCRIPT CAPITAL B;BLACK-LETTER CAPITAL C;ESTIMATED SYMBOL;SCRIPT SMALL E",
    "2130 SCRIPT CAPITAL |E;F",
    "2132 |TURNED CAPITAL F;SCRIPT CAPITAL M;SCRIPT SMALL O;ALEF SYMBOL;BET SYMBOL",
    "2137 |GIMEL SYMBOL;DALET SYMBOL;INFORMATION SOURCE;ROTATED CAPITAL Q;FACSIMILE SIGN",
    "213c DOUBLE-STRUCK |SMALL PI;SMALL GAMMA;CAPITAL GAMMA;CAPITAL PI;N-ARY SUMMATION",
    "2141 TURNED SANS-SERIF CAPITAL |G;L",
    "2143 |REVERSED SANS-SERIF CAPITAL L;TURNED SANS-SERIF CAPITAL Y",
    "2145 DOUBLE-STRUCK ITALIC |CAPITAL D;SMALL D;SMALL E;SMALL I;SMALL J", "214a |PROPERTY LINE",
    "214b |TURNED AMPERSAND;PER SIGN;AKTIESELSKAB;TURNED SMALL F;SYMBOL FOR SAMARITAN SOURCE",
    "2190 |LEFTWARDS ARROW;UPWARDS ARROW",
    "2192 |RIGHTWARDS ARROW;DOWNWARDS ARROW;LEFT RIGHT ARROW;UP DOWN ARROW;NORTH WEST ARROW",
    "2197 |NORTH EAST ARROW;SOUTH EAST ARROW;SOUTH WEST ARROW;LEFTWARDS ARROW WITH STROKE",
    "219b |RIGHTWARDS ARROW WITH STROKE;LEFTWARDS WAVE ARROW;RIGHTWARDS WAVE ARROW",
    "219e |LEFTWARDS TWO HEADED ARROW;UPWARDS TWO HEADED ARROW;RIGHTWARDS TWO HEADED ARROW",
    "21a1 |DOWNWARDS TWO HEADED ARROW;LEFTWARDS ARROW WITH TAIL;RIGHTWARDS ARROW WITH TAIL",
    "21a4 |LEFTWARDS ARROW FROM BAR;UPWARDS ARROW FROM BAR;RIGHTWARDS ARROW FROM BAR",
    "21a7 |DOWNWARDS ARROW FROM BAR;UP DOWN ARROW WITH BASE;LEFTWARDS ARROW WITH HOOK",
    "21aa |RIGHTWARDS ARROW WITH HOOK;LEFTWARDS ARROW WITH LOOP;RIGHTWARDS ARROW WITH LOOP",
    "21ad LEFT RIGHT |WAVE ARROW;ARROW WITH STROKE", "21af |DOWNWARDS ZIGZAG ARROW",
    "21b0 UPWARDS ARROW WITH TIP |LEFTWARDS;RIGHTWARDS",
    "21b2 DOWNWARDS ARROW WITH TIP |LEFTWARDS;RIGHTWARDS",
    "21b4 |RIGHTWARDS ARROW WITH CORNER DOWNWARDS;DOWNWARDS ARROW WITH CORNER LEFTWARDS",
    "21b6 |ANTICLOCKWISE TOP SEMICIRCLE ARROW;CLOCKWISE TOP SEMICIRCLE ARROW",
    "21b8 |NORTH WEST ARROW TO LONG BAR;LEFTWARDS ARROW TO BAR OVER RIGHTWARDS ARROW TO BAR",
    "21ba |ANTICLOCKWISE OPEN CIRCLE ARROW;CLOCKWISE OPEN CIRCLE ARROW",
    "21bc LEFTWARDS HARPOON WITH BARB |UPWARDS;DOWNWARDS",
    "21be UPWARDS HARPOON WITH BARB |RIGHTWARDS;LEFTWARDS",
    "21c0 RIGHTWARDS HARPOON WITH BARB |UPWARDS;DOWNWARDS",
    "21c2 DOWNWARDS HARPOON WITH BARB |RIGHTWARDS;LEFTWARDS",
    "21c4 |RIGHTWARDS ARROW OVER LEFTWARDS ARROW;UPWARDS ARROW LEFTWARDS OF DOWNWARDS ARROW",
    "21c6 LEFTWARDS |ARROW OVER RIGHTWARDS ARROW;PAIRED ARROWS",
    "21c8 |UPWARDS PAIRED ARROWS;RIGHTWARDS PAIRED ARROWS;DOWNWARDS PAIRED ARROWS",
    "21cb |LEFTWARDS HARPOON OVER RIGHTWARDS HARPOON;RIGHTWARDS HARPOON OVER LEFTWARDS HARPOON",
    "21cd |LEFTWARDS DOUBLE ARROW WITH STROKE;LEFT RIGHT DOUBLE ARROW WITH STROKE",
    "21cf |RIGHTWARDS DOUBLE ARROW WITH STROKE;LEFTWARDS DOUBLE ARROW;UPWARDS DOUBLE ARROW",
    "21d2 |RIGHTWARDS DOUBLE ARROW;DOWNWARDS DOUBLE ARROW;LEFT RIGHT DOUBLE ARROW",
    "21d5 |UP DOWN DOUBLE ARROW;NORTH WEST DOUBLE ARROW;NORTH EAST DOUBLE ARROW",
    "21d8 |SOUTH EAST DOUBLE ARROW;SOUTH WEST DOUBLE ARROW;LEFTWARDS TRIPLE ARROW",
    "21db |RIGHTWARDS TRIPLE ARROW;LEFTWARDS SQUIGGLE ARROW;RIGHTWARDS SQUIGGLE ARROW",
    "21de |UPWARDS ARROW WITH DOUBLE STROKE;DOWNWARDS ARROW WITH DOUBLE STROKE",
    "21e0 |LEFTWARDS DASHED ARROW;UPWARDS DASHED ARROW;RIGHTWARDS DASHED ARROW",
    "21e3 |DOWNWARDS DASHED ARROW;LEFTWARDS ARROW TO BAR;RIGHTWARDS ARROW TO BAR",
    "21e6 |LEFTWARDS WHITE ARROW;UPWARDS WHITE ARROW;RIGHTWARDS WHITE ARROW;DOWNWARDS WHITE ARROW",
    "21ea UPWARDS WHITE ARROW |FROM BAR;ON PEDESTAL",
    "21ec UPWARDS WHITE ARROW ON PEDESTAL WITH |HORIZONTAL BAR;VERTICAL BAR",
    "21ee UPWARDS WHITE DOUBLE |ARROW;ARROW ON PEDESTAL",
    "21f0 |RIGHTWARDS WHITE ARROW FROM WALL;NORTH WEST ARROW TO CORNER",
    "21f2 |SOUTH EAST ARROW TO CORNER;UP DOWN WHITE ARROW;RIGHT ARROW WITH SMALL CIRCLE",
    "21f5 |DOWNWARDS ARROW LEFTWARDS OF UPWARDS ARROW;THREE RIGHTWARDS ARROWS",
    "21f7 |LEFTWARDS ARROW WITH VERTICAL STROKE;RIGHTWARDS ARROW WITH VERTICAL STROKE",
    "21f9 |LEFT RIGHT ARROW WITH VERTICAL STROKE;LEFTWARDS ARROW WITH DOUBLE VERTICAL STROKE",
    "21fb |RIGHTWARDS ARROW WITH DOUBLE VERTICAL STROKE",
    "21fc |LEFT RIGHT ARROW WITH DOUBLE VERTICAL STROKE",
    "21fd |LEFTWARDS OPEN-HEADED ARROW;RIGHTWARDS OPEN-HEADED ARROW;LEFT RIGHT OPEN-HEADED ARROW"]

/-- Mathematical operators. -/
def mathematicalNames : List String :=
  ["2200 |FOR ALL;COMPLEMENT;PARTIAL DIFFERENTIAL;THERE EXISTS;THERE DOES NOT EXIST",
    "2205 |EMPTY SET;INCREMENT;NABLA;ELEMENT OF;NOT AN ELEMENT OF;SMALL ELEMENT OF",
    "220b |CONTAINS AS MEMBER;DOES NOT CONTAIN AS MEMBER;SMALL CONTAINS AS MEMBER;END OF PROOF",
    "220f N-ARY |PRODUCT;COPRODUCT;SUMMATION",
    "2212 |MINUS SIGN;MINUS-OR-PLUS SIGN;DOT PLUS;DIVISION SLASH;SET MINUS;ASTERISK OPERATOR",
    "2218 |RING OPERATOR;BULLET OPERATOR;SQUARE ROOT;CUBE ROOT;FOURTH ROOT;PROPORTIONAL TO",
    "221e |INFINITY;RIGHT ANGLE;ANGLE;MEASURED ANGLE;SPHERICAL ANGLE;DIVIDES;DOES NOT DIVIDE",
    "2225 |PARALLEL TO;NOT PARALLEL TO;LOGICAL AND;LOGICAL OR;INTERSECTION;UNION;INTEGRAL",
    "222c |DOUBLE INTEGRAL;TRIPLE INTEGRAL;CONTOUR INTEGRAL;SURFACE INTEGRAL;VOLUME INTEGRAL",
    "2231 CLOCKWISE |INTEGRAL;CONTOUR INTEGRAL", "2233 |ANTICLOCKWISE CONTOUR INTEGRAL",
    "2234 |THEREFORE;BECAUSE;RATIO;PROPORTION;DOT MINUS;EXCESS;GEOMETRIC PROPORTION",
    "223b |HOMOTHETIC;TILDE OPERATOR;REVERSED TILDE;INVERTED LAZY S;SINE WAVE;WREATH PRODUCT",
    "2241 |NOT TILDE;MINUS TILDE;ASYMPTOTICALLY EQUAL TO;NOT ASYMPTOTICALLY EQUAL TO",
    "2245 APPROXIMATELY |EQUAL TO;BUT NOT ACTUALLY EQUAL TO",
    "2247 |NEITHER APPROXIMATELY NOR ACTUALLY EQUAL TO",
    "2248 |ALMOST EQUAL TO;NOT ALMOST EQUAL TO;ALMOST EQUAL OR EQUAL TO",
    "224b |TRIPLE TILDE;ALL EQUAL TO;EQUIVALENT TO;GEOMETRICALLY EQUIVALENT TO;DIFFERENCE BETWEEN",
    "2250 |APPROACHES THE LIMIT;GEOMETRICALLY EQUAL TO;APPROXIMATELY EQUAL TO OR THE IMAGE OF",
    "2253 |IMAGE OF OR APPROXIMATELY EQUAL TO;COLON EQUALS;EQUALS COLON;RING IN EQUAL TO",
    "2257 |RING EQUAL TO;CORRESPONDS TO;ESTIMATES;EQUIANGULAR TO;STAR EQUALS;DELTA EQUAL TO",
    "225d |EQUAL TO BY DEFINITION;MEASURED BY;QUESTIONED EQUAL TO;NOT EQUAL TO;IDENTICAL TO",
    "2262 |NOT IDENTICAL TO;STRICTLY EQUIVALENT TO;LESS-THAN OR EQUAL TO;GREATER-THAN OR EQUAL TO",
    "2266 |LESS-THAN OVER EQUAL TO;GREATER-THAN OVER EQUAL TO;LESS-THAN BUT NOT EQUAL TO",
    "2269 |GREATER-THAN BUT NOT EQUAL TO;MUCH LESS-THAN;MUCH GREATER-THAN;BETWEEN",
    "226d NOT |EQUIVALENT TO;LESS-THAN;GREATER-THAN",
    "2270 NEITHER |LESS-THAN NOR EQUAL TO;GREATER-THAN NOR EQUAL TO",
    "2272 |LESS-THAN OR EQUIVALENT TO;GREATER-THAN OR EQUIVALENT TO",
    "2274 NEITHER |LESS-THAN NOR EQUIVALENT TO;GREATER-THAN NOR EQUIVALENT TO",
    "2276 |LESS-THAN OR GREATER-THAN;GREATER-THAN OR LESS-THAN",
    "2278 NEITHER |LESS-THAN NOR GREATER-THAN;GREATER-THAN NOR LESS-THAN",
    "227a |PRECEDES;SUCCEEDS;PRECEDES OR EQUAL TO;SUCCEEDS OR EQUAL TO;PRECEDES OR EQUIVALENT TO",
    "227f |SUCCEEDS OR EQUIVALENT TO;DOES NOT PRECEDE;DOES NOT SUCCEED;SUBSET OF;SUPERSET OF",
    "2284 |NOT A SUBSET OF;NOT A SUPERSET OF;SUBSET OF OR EQUAL TO;SUPERSET OF OR EQUAL TO",
    "2288 NEITHER A |SUBSET OF NOR EQUAL TO;SUPERSET OF NOR EQUAL TO",
    "228a |SUBSET OF WITH NOT EQUAL TO;SUPERSET OF WITH NOT EQUAL TO;MULTISET",
    "228d MULTISET |MULTIPLICATION;UNION",
    "228f SQUARE |IMAGE OF;ORIGINAL OF;IMAGE OF OR EQUAL TO;ORIGINAL OF OR EQUAL TO;CAP;CUP",
    "2295 CIRCLED |PLUS;MINUS",
    "2297 CIRCLED |TIMES;DIVISION SLASH;DOT OPERATOR;RING OPERATOR;ASTERISK OPERATOR;EQUALS;DASH",
    "229e SQUARED |PLUS;MINUS;TIMES;DOT OPERATOR", "22a2 |RIGHT TACK;LEFT TACK",
    "22a4 |DOWN TACK;UP TACK;ASSERTION;MODELS;TRUE;FORCES;TRIPLE VERTICAL BAR RIGHT TURNSTILE",
    "22ab |DOUBLE VERTICAL BAR DOUBLE RIGHT TURNSTILE;DOES NOT PROVE;NOT TRUE;DOES NOT FORCE",
    "22af |NEGATED DOUBLE VERTICAL BAR DOUBLE RIGHT TURNSTILE;PRECEDES UNDER RELATION",
    "22b1 |SUCCEEDS UNDER RELATION;NORMAL SUBGROUP OF;CONTAINS AS NORMAL SUBGROUP",
    "22b4 |NORMAL SUBGROUP OF OR EQUAL TO;CONTAINS AS NORMAL SUBGROUP OR EQUAL TO",
    "22b6 |ORIGINAL OF;IMAGE OF;MULTIMAP;HERMITIAN CONJUGATE MATRIX;INTERCALATE;XOR;NAND;NOR",
    "22be RIGHT |ANGLE WITH ARC;TRIANGLE", "22c0 N-ARY |LOGICAL AND;LOGICAL OR;INTERSECTION;UNION",
    "22c4 |DIAMOND OPERATOR;DOT OPERATOR;STAR OPERATOR;DIVISION TIMES",
    "22c8 |BOWTIE;LEFT NORMAL FACTOR SEMIDIRECT PRODUCT;RIGHT NORMAL FACTOR SEMIDIRECT PRODUCT",
    "22cb |LEFT SEMIDIRECT PRODUCT;RIGHT SEMIDIRECT PRODUCT;REVERSED TILDE EQUALS",
    "22ce CURLY LOGICAL |OR;AND", "22d0 DOUBLE |SUBSET;SUPERSET;INTERSECTION;UNION",
    "22d4 |PITCHFORK;EQUAL AND PARALLEL TO;LESS-THAN WITH DOT;GREATER-THAN WITH DOT",
    "22d8 VERY MUCH |LESS-THAN;GREATER-THAN",
    "22da |LESS-THAN EQUAL TO OR GREATER-THAN;GREATER-THAN EQUAL TO OR LESS-THAN",
    "22dc EQUAL TO OR |LESS-THAN;GREATER-THAN;PRECEDES;SUCCEEDS",
    "22e0 DOES NOT |PRECEDE OR EQUAL;SUCCEED OR EQUAL",
    "22e2 NOT SQUARE |IMAGE OF OR EQUAL TO;ORIGINAL OF OR EQUAL TO",
    "22e4 SQUARE |IMAGE OF OR NOT EQUAL TO;ORIGINAL OF OR NOT EQUAL TO",
    "22e6 |LESS-THAN BUT NOT EQUIVALENT TO;GREATER-THAN BUT NOT EQUIVALENT TO",
    "22e8 |PRECEDES BUT NOT EQUIVALENT TO;SUCCEEDS BUT NOT EQUIVALENT TO;NOT NORMAL SUBGROUP OF",
    "22eb |DOES NOT CONTAIN AS NORMAL SUBGROUP;NOT NORMAL SUBGROUP OF OR EQUAL TO",
    "22ed |DOES NOT CONTAIN AS NORMAL SUBGROUP OR EQUAL;VERTICAL ELLIPSIS",
    "22ef |MIDLINE HORIZONTAL ELLIPSIS;UP RIGHT DIAGONAL ELLIPSIS;DOWN RIGHT DIAGONAL ELLIPSIS",
    "22f2 ELEMENT OF WITH |LONG HORIZONTAL STROKE;VERTICAL BAR AT END OF HORIZONTAL STROKE",
    "22f4 |SMALL ELEMENT OF WITH VERTICAL BAR AT END OF HORIZONTAL STROKE",
    "22f5 ELEMENT OF WITH |DOT ABOVE;OVERBAR", "22f7 |SMALL ELEMENT OF WITH OVERBAR",
    "22f8 ELEMENT OF WITH |UNDERBAR;TWO HORIZONTAL STROKES",
    "22fa CONTAINS WITH |LONG HORIZONTAL STROKE;VERTICAL BAR AT END OF HORIZONTAL STROKE",
    "22fc |SMALL CONTAINS WITH VERTICAL BAR AT END OF HORIZONTAL STROKE",
    "22fd |CONTAINS WITH OVERBAR;SMALL CONTAINS WITH OVERBAR;Z NOTATION BAG MEMBERSHIP"]

/-- Geometric shapes, and a few other symbols. -/
def shapeNames : List String :=
  ["25a0 |BLACK SQUARE;WHITE SQUARE",
    "25a2 WHITE SQUARE |WITH ROUNDED CORNERS;CONTAINING BLACK SMALL SQUARE",
    "25a4 SQUARE WITH |HORIZONTAL FILL;VERTICAL FILL;ORTHOGONAL CROSSHATCH FILL",
    "25a7 SQUARE WITH UPPER |LEFT TO LOWER RIGHT FILL;RIGHT TO LOWER LEFT FILL",
    "25a9 |SQUARE WITH DIAGONAL CROSSHATCH FILL;BLACK SMALL SQUARE",
    "25ab |WHITE SMALL SQUARE;BLACK RECTANGLE;WHITE RECTANGLE;BLACK VERTICAL RECTANGLE",
    "25af |WHITE VERTICAL RECTANGLE;BLACK PARALLELOGRAM;WHITE PARALLELOGRAM",
    "25b2 |BLACK UP-POINTING TRIANGLE;WHITE UP-POINTING TRIANGLE;BLACK UP-POINTING SMALL TRIANGLE",
    "25b5 |WHITE UP-POINTING SMALL TRIANGLE;BLACK RIGHT-POINTING TRIANGLE",
    "25b7 |WHITE RIGHT-POINTING TRIANGLE;BLACK RIGHT-POINTING SMALL TRIANGLE",
    "25b9 |WHITE RIGHT-POINTING SMALL TRIANGLE;BLACK RIGHT-POINTING POINTER",
    "25bb |WHITE RIGHT-POINTING POINTER;BLACK DOWN-POINTING TRIANGLE;WHITE DOWN-POINTING TRIANGLE",
    "25be |BLACK DOWN-POINTING SMALL TRIANGLE;WHITE DOWN-POINTING SMALL TRIANGLE",
    "25c0 |BLACK LEFT-POINTING TRIANGLE;WHITE LEFT-POINTING TRIANGLE",
    "25c2 |BLACK LEFT-POINTING SMALL TRIANGLE;WHITE LEFT-POINTING SMALL TRIANGLE",
    "25c4 |BLACK LEFT-POINTING POINTER;WHITE LEFT-POINTING POINTER",
    "25c6 |BLACK DIAMOND;WHITE DIAMOND;WHITE DIAMOND CONTAINING BLACK SMALL DIAMOND;FISHEYE",
    "25ca |LOZENGE;WHITE CIRCLE;DOTTED CIRCLE;CIRCLE WITH VERTICAL FILL;BULLSEYE;BLACK CIRCLE",
    "25d0 CIRCLE WITH |LEFT HALF BLACK;RIGHT HALF BLACK;LOWER HALF BLACK;UPPER HALF BLACK",
    "25d4 CIRCLE WITH |UPPER RIGHT QUADRANT BLACK;ALL BUT UPPER LEFT QUADRANT BLACK",
    "25d6 |LEFT HALF BLACK CIRCLE;RIGHT HALF BLACK CIRCLE;INVERSE BULLET",
    "25d9 |INVERSE WHITE CIRCLE;UPPER HALF INVERSE WHITE CIRCLE;LOWER HALF INVERSE WHITE CIRCLE",
    "25dc UPPER |LEFT QUADRANT CIRCULAR ARC;RIGHT QUADRANT CIRCULAR ARC",
    "25de LOWER |RIGHT QUADRANT CIRCULAR ARC;LEFT QUADRANT CIRCULAR ARC",
    "25e0 |UPPER HALF CIRCLE;LOWER HALF CIRCLE",
    "25e2 BLACK |LOWER RIGHT TRIANGLE;LOWER LEFT TRIANGLE;UPPER LEFT TRIANGLE;UPPER RIGHT TRIANGLE",
    "25e6 |WHITE BULLET", "25e7 SQUARE WITH |LEFT HALF BLACK;RIGHT HALF BLACK",
    "25e9 SQUARE WITH |UPPER LEFT DIAGONAL HALF BLACK;LOWER RIGHT DIAGONAL HALF BLACK",
    "25eb WHITE |SQUARE WITH VERTICAL BISECTING LINE;UP-POINTING TRIANGLE WITH DOT",
    "25ed UP-POINTING TRIANGLE WITH |LEFT HALF BLACK;RIGHT HALF BLACK", "25ef |LARGE CIRCLE",
    "25f0 WHITE SQUARE WITH |UPPER LEFT QUADRANT;LOWER LEFT QUADRANT;LOWER RIGHT QUADRANT",
    "25f3 WHITE |SQUARE WITH UPPER RIGHT QUADRANT;CIRCLE WITH UPPER LEFT QUADRANT",
    "25f5 WHITE CIRCLE WITH |LOWER LEFT QUADRANT;LOWER RIGHT QUADRANT;UPPER RIGHT QUADRANT",
    "25f8 UPPER |LEFT TRIANGLE;RIGHT TRIANGLE",
    "25fa |LOWER LEFT TRIANGLE;WHITE MEDIUM SQUARE;BLACK MEDIUM SQUARE",
    "25fd |WHITE MEDIUM SMALL SQUARE;BLACK MEDIUM SMALL SQUARE;LOWER RIGHT TRIANGLE",
    "2605 |BLACK STAR;WHITE STAR", "2713 |CHECK MARK;HEAVY CHECK MARK", "2717 |BALLOT X",
    "feff |ZERO WIDTH NO-BREAK SPACE", "fffd |REPLACEMENT CHARACTER", "1f600 |GRINNING FACE"]

/-- Japanese punctuation and syllables. -/
def kanaNames : List String :=
  ["3000 IDEOGRAPHIC |SPACE;COMMA;FULL STOP",
    "3003 |DITTO MARK;JAPANESE INDUSTRIAL STANDARD SYMBOL",
    "3005 IDEOGRAPHIC |ITERATION MARK;CLOSING MARK;NUMBER ZERO",
    "3008 |LEFT ANGLE BRACKET;RIGHT ANGLE BRACKET",
    "300a |LEFT DOUBLE ANGLE BRACKET;RIGHT DOUBLE ANGLE BRACKET;LEFT CORNER BRACKET",
    "300d |RIGHT CORNER BRACKET;LEFT WHITE CORNER BRACKET;RIGHT WHITE CORNER BRACKET",
    "3010 |LEFT BLACK LENTICULAR BRACKET;RIGHT BLACK LENTICULAR BRACKET;POSTAL MARK;GETA MARK",
    "3014 |LEFT TORTOISE SHELL BRACKET;RIGHT TORTOISE SHELL BRACKET;LEFT WHITE LENTICULAR BRACKET",
    "3017 |RIGHT WHITE LENTICULAR BRACKET;LEFT WHITE TORTOISE SHELL BRACKET",
    "3019 |RIGHT WHITE TORTOISE SHELL BRACKET;LEFT WHITE SQUARE BRACKET",
    "301b |RIGHT WHITE SQUARE BRACKET;WAVE DASH;REVERSED DOUBLE PRIME QUOTATION MARK",
    "301e |DOUBLE PRIME QUOTATION MARK;LOW DOUBLE PRIME QUOTATION MARK;POSTAL MARK FACE",
    "3021 HANGZHOU NUMERAL |ONE;TWO;THREE;FOUR;FIVE;SIX;SEVEN;EIGHT;NINE",
    "302a IDEOGRAPHIC |LEVEL TONE MARK;RISING TONE MARK;DEPARTING TONE MARK;ENTERING TONE MARK",
    "302e |HANGUL SINGLE DOT TONE MARK;HANGUL DOUBLE DOT TONE MARK;WAVY DASH",
    "3031 VERTICAL KANA REPEAT |MARK;WITH VOICED SOUND MARK",
    "3033 VERTICAL KANA REPEAT |MARK UPPER HALF;WITH VOICED SOUND MARK UPPER HALF;MARK LOWER HALF",
    "3036 |CIRCLED POSTAL MARK;IDEOGRAPHIC TELEGRAPH LINE FEED SEPARATOR SYMBOL",
    "3038 HANGZHOU NUMERAL |TEN;TWENTY;THIRTY",
    "303b |VERTICAL IDEOGRAPHIC ITERATION MARK;MASU MARK;PART ALTERNATION MARK",
    "303e IDEOGRAPHIC |VARIATION INDICATOR;HALF FILL SPACE",
    "3041 HIRAGANA LETTER |SMALL A;A;SMALL I;I;SMALL U;U;SMALL E",
    "3048 HIRAGANA LETTER |E;SMALL O;O;KA;GA;KI;GI;KU;GU;KE;GE;KO;GO;SA;ZA;SI;ZI;SU;ZU;SE;ZE",
    "305d HIRAGANA LETTER |SO;ZO;TA;DA;TI;DI;SMALL TU;TU;DU;TE;DE;TO;DO;NA;NI;NU;NE;NO;HA;BA;PA;HI",
    "3073 HIRAGANA LETTER |BI;PI;HU;BU;PU;HE;BE;PE;HO;BO;PO;MA;MI;MU;ME;MO;SMALL YA;YA;SMALL YU;YU",
    "3087 HIRAGANA LETTER |SMALL YO;YO;RA;RI;RU;RE;RO;SMALL WA;WA;WI;WE;WO;N;VU;SMALL KA;SMALL KE",
    "3099 COMBINING KATAKANA-HIRAGANA |VOICED SOUND MARK;SEMI-VOICED SOUND MARK",
    "309b KATAKANA-HIRAGANA |VOICED SOUND MARK;SEMI-VOICED SOUND MARK",
    "309d HIRAGANA |ITERATION MARK;VOICED ITERATION MARK;DIGRAPH YORI",
    "30a0 |KATAKANA-HIRAGANA DOUBLE HYPHEN",
    "30a1 KATAKANA LETTER |SMALL A;A;SMALL I;I;SMALL U;U;SMALL E;E;SMALL O",
    "30aa KATAKANA LETTER |O;KA;GA;KI;GI;KU;GU;KE;GE;KO;GO;SA;ZA;SI;ZI;SU;ZU;SE;ZE;SO;ZO;TA;DA",
    "30c1 KATAKANA LETTER |TI;DI;SMALL TU;TU;DU;TE;DE;TO;DO;NA;NI;NU;NE;NO;HA;BA;PA;HI;BI;PI;HU;BU",
    "30d7 KATAKANA LETTER |PU;HE;BE;PE;HO;BO;PO;MA;MI;MU;ME;MO;SMALL YA;YA;SMALL YU;YU;SMALL YO;YO",
    "30e9 KATAKANA LETTER |RA;RI;RU;RE;RO;SMALL WA;WA;WI;WE;WO;N;VU;SMALL KA;SMALL KE;VA;VI;VE;VO",
    "30fb |KATAKANA MIDDLE DOT;KATAKANA-HIRAGANA PROLONGED SOUND MARK",
    "30fd KATAKANA |ITERATION MARK;VOICED ITERATION MARK;DIGRAPH KOTO"]

/-- Other names, of control characters above all, which have no name of their own. -/
def aliasNames : List String :=
  ["0 |NULL;START OF HEADING;START OF TEXT;END OF TEXT;END OF TRANSMISSION;ENQUIRY;ACKNOWLEDGE",
    "7 |ALERT;BACKSPACE;CHARACTER TABULATION;LINE FEED;LINE TABULATION;FORM FEED;CARRIAGE RETURN",
    "e |SHIFT OUT;SHIFT IN;DATA LINK ESCAPE;DEVICE CONTROL ONE;DEVICE CONTROL TWO",
    "13 |DEVICE CONTROL THREE;DEVICE CONTROL FOUR;NEGATIVE ACKNOWLEDGE;SYNCHRONOUS IDLE",
    "17 |END OF TRANSMISSION BLOCK;CANCEL;END OF MEDIUM;SUBSTITUTE;ESCAPE",
    "1c |INFORMATION SEPARATOR FOUR;INFORMATION SEPARATOR THREE;INFORMATION SEPARATOR TWO",
    "1f |INFORMATION SEPARATOR ONE;SP",
    "7f |DELETE;PADDING CHARACTER;HIGH OCTET PRESET;BREAK PERMITTED HERE;NO BREAK HERE;INDEX",
    "85 |NEXT LINE;START OF SELECTED AREA;END OF SELECTED AREA;CHARACTER TABULATION SET",
    "89 |CHARACTER TABULATION WITH JUSTIFICATION;LINE TABULATION SET;PARTIAL LINE FORWARD",
    "8c |PARTIAL LINE BACKWARD;REVERSE LINE FEED;SINGLE SHIFT TWO;SINGLE SHIFT THREE",
    "90 |DEVICE CONTROL STRING;PRIVATE USE ONE;PRIVATE USE TWO;SET TRANSMIT STATE;CANCEL CHARACTER",
    "95 |MESSAGE WAITING;START OF GUARDED AREA;END OF GUARDED AREA;START OF STRING",
    "99 |SINGLE GRAPHIC CHARACTER INTRODUCER;SINGLE CHARACTER INTRODUCER",
    "9b |CONTROL SEQUENCE INTRODUCER;STRING TERMINATOR;OPERATING SYSTEM COMMAND;PRIVACY MESSAGE",
    "9f |APPLICATION PROGRAM COMMAND;NBSP",
    "0 |NUL;SOH;STX;ETX;EOT;ENQ;ACK;BEL;BS;HT;LF;VT;FF;CR;SO;SI;DLE;DC1;DC2;DC3;DC4;NAK;SYN;ETB",
    "18 |CAN;EOM;SUB;ESC;FS;GS;RS;US", "9 |HORIZONTAL TABULATION;NEW LINE;VERTICAL TABULATION",
    "9 |TAB;NL", "a |END OF LINE", "a |EOL", "e |LOCKING-SHIFT ONE;LOCKING-SHIFT ZERO",
    "1c |FILE SEPARATOR;GROUP SEPARATOR;RECORD SEPARATOR;UNIT SEPARATOR",
    "7f |DEL;PAD;HOP;BPH;NBH;IND;NEL;SSA;ESA;HTS;HTJ;VTS;PLD;PLU;RI;SS2;SS3;DCS;PU1;PU2;STS;CCH;MW",
    "96 |SPA;EPA;SOS;SGC;SCI;CSI;ST;OSC;PM;APC",
    "88 |HORIZONTAL TABULATION SET;HORIZONTAL TABULATION WITH JUSTIFICATION",
    "8a |VERTICAL TABULATION SET;PARTIAL LINE DOWN;PARTIAL LINE UP;REVERSE INDEX;SINGLE-SHIFT-2",
    "8f |SINGLE-SHIFT-3", "91 |PRIVATE USE-1;PRIVATE USE-2",
    "96 |START OF PROTECTED AREA;END OF PROTECTED AREA", "ad |SHY",
    "1a2 |LATIN CAPITAL LETTER GHA;LATIN SMALL LETTER GHA", "34f |CGJ", "61c |ALM",
    "200b |ZWSP;ZWNJ;ZWJ;LRM;RLM", "202a |LRE;RLE;PDF;LRO;RLO;NNBSP", "205f |MMSP;WJ",
    "2066 |LRI;RLI;FSI;PDI", "2118 |WEIERSTRASS ELLIPTIC FUNCTION", "feff |BYTE ORDER MARK",
    "feff |BOM", "feff |ZWNBSP"]

end RaggedTables.Text
