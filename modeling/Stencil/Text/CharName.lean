import Stencil.Text.CaseMap
import Stencil.Text.NormalForm

/-!
Characters by their names. A table holds names of letters, marks, signs and pictures; letters with
marks, syllables and ideographs are named by rules.
-/
namespace Stencil.Text

/-- Names in the order of their characters, from the given code on. A number in front says how
many words the name shares with the one before it. -/
private def nameTable : String := "
20=SPACE;EXCLAMATION MARK;QUOTATION MARK;NUMBER SIGN;DOLLAR SIGN;PERCENT SIGN;AMPERSAND;APOSTROPHE
LEFT PARENTHESIS;RIGHT PARENTHESIS;ASTERISK;PLUS SIGN;COMMA;HYPHEN-MINUS;FULL STOP;SOLIDUS
DIGIT ZERO;1 ONE;1 TWO;1 THREE;1 FOUR;1 FIVE;1 SIX;1 SEVEN;1 EIGHT;1 NINE;COLON;SEMICOLON
LESS-THAN SIGN;EQUALS SIGN;GREATER-THAN SIGN;QUESTION MARK;COMMERCIAL AT;LATIN CAPITAL LETTER A
3 B;3 C;3 D;3 E;3 F;3 G;3 H;3 I;3 J;3 K;3 L;3 M;3 N;3 O;3 P;3 Q;3 R;3 S;3 T;3 U;3 V;3 W;3 X;3 Y
3 Z;LEFT SQUARE BRACKET;REVERSE SOLIDUS;RIGHT SQUARE BRACKET;CIRCUMFLEX ACCENT;LOW LINE
GRAVE ACCENT;LATIN SMALL LETTER A;3 B;3 C;3 D;3 E;3 F;3 G;3 H;3 I;3 J;3 K;3 L;3 M;3 N;3 O;3 P;3 Q
3 R;3 S;3 T;3 U;3 V;3 W;3 X;3 Y;3 Z;LEFT CURLY BRACKET;VERTICAL LINE;RIGHT CURLY BRACKET;TILDE
A0=NO-BREAK SPACE;INVERTED EXCLAMATION MARK;CENT SIGN;POUND SIGN;CURRENCY SIGN;YEN SIGN;BROKEN BAR
SECTION SIGN;DIAERESIS;COPYRIGHT SIGN;FEMININE ORDINAL INDICATOR
LEFT-POINTING DOUBLE ANGLE QUOTATION MARK;NOT SIGN;SOFT HYPHEN;REGISTERED SIGN;MACRON;DEGREE SIGN
PLUS-MINUS SIGN;SUPERSCRIPT TWO;1 THREE;ACUTE ACCENT;MICRO SIGN;PILCROW SIGN;MIDDLE DOT;CEDILLA
SUPERSCRIPT ONE;MASCULINE ORDINAL INDICATOR;RIGHT-POINTING DOUBLE ANGLE QUOTATION MARK
VULGAR FRACTION ONE QUARTER;3 HALF;2 THREE QUARTERS;INVERTED QUESTION MARK
C6=LATIN CAPITAL LETTER AE;D0=3 ETH;D7=MULTIPLICATION SIGN;LATIN CAPITAL LETTER O WITH STROKE
DE=3 THORN;1 SMALL LETTER SHARP S;E6=3 AE;F0=3 ETH;F7=DIVISION SIGN
LATIN SMALL LETTER O WITH STROKE;FE=3 THORN;110=1 CAPITAL LETTER D WITH STROKE
1 SMALL LETTER D WITH STROKE;126=1 CAPITAL LETTER H WITH STROKE;1 SMALL LETTER H WITH STROKE
131=3 DOTLESS I;1 CAPITAL LIGATURE IJ;1 SMALL LIGATURE IJ;138=2 LETTER KRA
13F=1 CAPITAL LETTER L WITH MIDDLE DOT;1 SMALL LETTER L WITH MIDDLE DOT
1 CAPITAL LETTER L WITH STROKE;1 SMALL LETTER L WITH STROKE;149=3 N PRECEDED BY APOSTROPHE
1 CAPITAL LETTER ENG;1 SMALL LETTER ENG;152=1 CAPITAL LIGATURE OE;1 SMALL LIGATURE OE
166=1 CAPITAL LETTER T WITH STROKE;1 SMALL LETTER T WITH STROKE;17F=3 LONG S;3 B WITH STROKE
1 CAPITAL LETTER B WITH HOOK;5 TOPBAR;1 SMALL LETTER B WITH TOPBAR;1 CAPITAL LETTER TONE SIX
1 SMALL LETTER TONE SIX;1 CAPITAL LETTER OPEN O;3 C WITH HOOK;1 SMALL LETTER C WITH HOOK
1 CAPITAL LETTER AFRICAN D;3 D WITH HOOK;5 TOPBAR;1 SMALL LETTER D WITH TOPBAR;3 TURNED DELTA
1 CAPITAL LETTER REVERSED E;3 SCHWA;3 OPEN E;3 F WITH HOOK;1 SMALL LETTER F WITH HOOK
1 CAPITAL LETTER G WITH HOOK;3 GAMMA;1 SMALL LETTER HV;1 CAPITAL LETTER IOTA;3 I WITH STROKE
3 K WITH HOOK;1 SMALL LETTER K WITH HOOK;3 L WITH BAR;3 LAMBDA WITH STROKE
1 CAPITAL LETTER TURNED M;3 N WITH LEFT HOOK;1 SMALL LETTER N WITH LONG RIGHT LEG
1 CAPITAL LETTER O WITH MIDDLE TILDE;1A2=3 OI;1 SMALL LETTER OI;1 CAPITAL LETTER P WITH HOOK
1 SMALL LETTER P WITH HOOK;1 LETTER YR;1 CAPITAL LETTER TONE TWO;1 SMALL LETTER TONE TWO
1 CAPITAL LETTER ESH;1 LETTER REVERSED ESH LOOP;1 SMALL LETTER T WITH PALATAL HOOK
1 CAPITAL LETTER T WITH HOOK;1 SMALL LETTER T WITH HOOK;1 CAPITAL LETTER T WITH RETROFLEX HOOK
1B1=3 UPSILON;3 V WITH HOOK;3 Y WITH HOOK;1 SMALL LETTER Y WITH HOOK
1 CAPITAL LETTER Z WITH STROKE;1 SMALL LETTER Z WITH STROKE;1 CAPITAL LETTER EZH;4 REVERSED
1 SMALL LETTER EZH REVERSED;4 WITH TAIL;1 LETTER TWO WITH STROKE;1 CAPITAL LETTER TONE FIVE
1 SMALL LETTER TONE FIVE;1 LETTER INVERTED GLOTTAL STOP WITH STROKE;2 WYNN;2 DENTAL CLICK
2 LATERAL CLICK;2 ALVEOLAR CLICK;2 RETROFLEX CLICK;1 CAPITAL LETTER DZ WITH CARON
3 D WITH SMALL LETTER Z WITH CARON;1 SMALL LETTER DZ WITH CARON;1 CAPITAL LETTER LJ
3 L WITH SMALL LETTER J;1 SMALL LETTER LJ;1 CAPITAL LETTER NJ;3 N WITH SMALL LETTER J
1 SMALL LETTER NJ;1DD=3 TURNED E;1E4=1 CAPITAL LETTER G WITH STROKE;1 SMALL LETTER G WITH STROKE
1F1=1 CAPITAL LETTER DZ;3 D WITH SMALL LETTER Z;1 SMALL LETTER DZ;1F6=1 CAPITAL LETTER HWAIR
3 WYNN;1FE=3 O WITH STROKE AND ACUTE;1 SMALL LETTER O WITH STROKE AND ACUTE
21C=1 CAPITAL LETTER YOGH;1 SMALL LETTER YOGH;220=1 CAPITAL LETTER N WITH LONG RIGHT LEG
1 SMALL LETTER D WITH CURL;1 CAPITAL LETTER OU;1 SMALL LETTER OU;1 CAPITAL LETTER Z WITH HOOK
1 SMALL LETTER Z WITH HOOK;234=3 L WITH CURL;3 N WITH CURL;3 T WITH CURL;3 DOTLESS J;3 DB DIGRAPH
3 QP DIGRAPH;1 CAPITAL LETTER A WITH STROKE;3 C WITH STROKE;1 SMALL LETTER C WITH STROKE
1 CAPITAL LETTER L WITH BAR;3 T WITH DIAGONAL STROKE;1 SMALL LETTER S WITH SWASH TAIL
3 Z WITH SWASH TAIL;1 CAPITAL LETTER GLOTTAL STOP;1 SMALL LETTER GLOTTAL STOP
1 CAPITAL LETTER B WITH STROKE;3 U BAR;3 TURNED V;3 E WITH STROKE;1 SMALL LETTER E WITH STROKE
1 CAPITAL LETTER J WITH STROKE;1 SMALL LETTER J WITH STROKE
1 CAPITAL LETTER SMALL Q WITH HOOK TAIL;1 SMALL LETTER Q WITH HOOK TAIL
1 CAPITAL LETTER R WITH STROKE;1 SMALL LETTER R WITH STROKE;1 CAPITAL LETTER Y WITH STROKE
1 SMALL LETTER Y WITH STROKE;3 TURNED A;3 ALPHA;3 TURNED ALPHA;3 B WITH HOOK;3 OPEN O
3 C WITH CURL;3 D WITH TAIL;5 HOOK;3 REVERSED E;3 SCHWA;4 WITH HOOK;3 OPEN E;3 REVERSED OPEN E
6 WITH HOOK;3 CLOSED REVERSED OPEN E;3 DOTLESS J WITH STROKE;3 G WITH HOOK;3 SCRIPT G
1 LETTER SMALL CAPITAL G;1 SMALL LETTER GAMMA;3 RAMS HORN;3 TURNED H;3 H WITH HOOK
3 HENG WITH HOOK;3 I WITH STROKE;3 IOTA;1 LETTER SMALL CAPITAL I
1 SMALL LETTER L WITH MIDDLE TILDE;5 BELT;5 RETROFLEX HOOK;3 LEZH;3 TURNED M;5 WITH LONG LEG
3 M WITH HOOK;3 N WITH LEFT HOOK;5 RETROFLEX HOOK;1 LETTER SMALL CAPITAL N;1 SMALL LETTER BARRED O
1 LETTER SMALL CAPITAL OE;1 SMALL LETTER CLOSED OMEGA;3 PHI;3 TURNED R;5 WITH LONG LEG;6 HOOK
3 R WITH LONG LEG;5 TAIL;5 FISHHOOK;3 REVERSED R WITH FISHHOOK;1 LETTER SMALL CAPITAL R
4 INVERTED R;1 SMALL LETTER S WITH HOOK;3 ESH;3 DOTLESS J WITH STROKE AND HOOK
3 SQUAT REVERSED ESH;3 ESH WITH CURL;3 TURNED T;3 T WITH RETROFLEX HOOK;3 U BAR;3 UPSILON
3 V WITH HOOK;3 TURNED V;4 W;4 Y;1 LETTER SMALL CAPITAL Y;1 SMALL LETTER Z WITH RETROFLEX HOOK
5 CURL;3 EZH;4 WITH CURL;1 LETTER GLOTTAL STOP;2 PHARYNGEAL VOICED FRICATIVE
2 INVERTED GLOTTAL STOP;2 STRETCHED C;2 BILABIAL CLICK;2 SMALL CAPITAL B
1 SMALL LETTER CLOSED OPEN E;1 LETTER SMALL CAPITAL G WITH HOOK;4 H
1 SMALL LETTER J WITH CROSSED-TAIL;3 TURNED K;1 LETTER SMALL CAPITAL L;1 SMALL LETTER Q WITH HOOK
1 LETTER GLOTTAL STOP WITH STROKE;2 REVERSED GLOTTAL STOP WITH STROKE;1 SMALL LETTER DZ DIGRAPH
3 DEZH DIGRAPH;3 DZ DIGRAPH WITH CURL;3 TS DIGRAPH;3 TESH DIGRAPH;3 TC DIGRAPH WITH CURL
3 FENG DIGRAPH;3 LS DIGRAPH;3 LZ DIGRAPH;1 LETTER BILABIAL PERCUSSIVE;2 BIDENTAL PERCUSSIVE
1 SMALL LETTER TURNED H WITH FISHHOOK;7 AND TAIL;MODIFIER LETTER SMALL H;4 WITH HOOK;3 J;3 R
3 TURNED R;5 WITH HOOK;3 CAPITAL INVERTED R;3 W;3 Y;2 PRIME;2 DOUBLE PRIME;2 TURNED COMMA
2 APOSTROPHE;2 REVERSED COMMA;2 RIGHT HALF RING;2 LEFT HALF RING;2 GLOTTAL STOP
2 REVERSED GLOTTAL STOP;2 LEFT ARROWHEAD;2 RIGHT ARROWHEAD;2 UP ARROWHEAD;2 DOWN ARROWHEAD
2 CIRCUMFLEX ACCENT;CARON;MODIFIER LETTER VERTICAL LINE;2 MACRON;2 ACUTE ACCENT;2 GRAVE ACCENT
2 LOW VERTICAL LINE;3 MACRON;3 GRAVE ACCENT;3 ACUTE ACCENT;2 TRIANGULAR COLON
2 HALF TRIANGULAR COLON;2 CENTRED RIGHT HALF RING;3 LEFT HALF RING;2 UP TACK;2 DOWN TACK
2 PLUS SIGN;2 MINUS SIGN;BREVE;DOT ABOVE;RING ABOVE;OGONEK;SMALL TILDE;DOUBLE ACUTE ACCENT
MODIFIER LETTER RHOTIC HOOK;2 CROSS ACCENT;2 SMALL GAMMA;3 L;3 S;3 X;3 REVERSED GLOTTAL STOP
2 EXTRA-HIGH TONE BAR;2 HIGH TONE BAR;2 MID TONE BAR;2 LOW TONE BAR;2 EXTRA-LOW TONE BAR
2 YIN DEPARTING TONE MARK;2 YANG DEPARTING TONE MARK;2 VOICING;2 UNASPIRATED;2 DOUBLE APOSTROPHE
2 LOW DOWN ARROWHEAD;3 UP ARROWHEAD;3 LEFT ARROWHEAD;3 RIGHT ARROWHEAD;3 RING
2 MIDDLE GRAVE ACCENT;3 DOUBLE GRAVE ACCENT;4 ACUTE ACCENT;2 LOW TILDE;2 RAISED COLON
2 BEGIN HIGH TONE;2 END HIGH TONE;2 BEGIN LOW TONE;2 END LOW TONE;2 SHELF;2 OPEN SHELF
2 LOW LEFT ARROW;COMBINING GRAVE ACCENT;1 ACUTE ACCENT;1 CIRCUMFLEX ACCENT;1 TILDE;1 MACRON
1 OVERLINE;1 BREVE;1 DOT ABOVE;1 DIAERESIS;1 HOOK ABOVE;1 RING ABOVE;1 DOUBLE ACUTE ACCENT;1 CARON
1 VERTICAL LINE ABOVE;1 DOUBLE VERTICAL LINE ABOVE;2 GRAVE ACCENT;1 CANDRABINDU;1 INVERTED BREVE
1 TURNED COMMA ABOVE;1 COMMA ABOVE;1 REVERSED COMMA ABOVE;1 COMMA ABOVE RIGHT;1 GRAVE ACCENT BELOW
1 ACUTE ACCENT BELOW;1 LEFT TACK BELOW;1 RIGHT TACK BELOW;1 LEFT ANGLE ABOVE;1 HORN
1 LEFT HALF RING BELOW;1 UP TACK BELOW;1 DOWN TACK BELOW;1 PLUS SIGN BELOW;1 MINUS SIGN BELOW
1 PALATALIZED HOOK BELOW;1 RETROFLEX HOOK BELOW;1 DOT BELOW;1 DIAERESIS BELOW;1 RING BELOW
1 COMMA BELOW;1 CEDILLA;1 OGONEK;1 VERTICAL LINE BELOW;1 BRIDGE BELOW;1 INVERTED DOUBLE ARCH BELOW
1 CARON BELOW;1 CIRCUMFLEX ACCENT BELOW;1 BREVE BELOW;1 INVERTED BREVE BELOW;1 TILDE BELOW
1 MACRON BELOW;1 LOW LINE;1 DOUBLE LOW LINE;1 TILDE OVERLAY;1 SHORT STROKE OVERLAY
1 LONG STROKE OVERLAY;1 SHORT SOLIDUS OVERLAY;1 LONG SOLIDUS OVERLAY;1 RIGHT HALF RING BELOW
1 INVERTED BRIDGE BELOW;1 SQUARE BELOW;1 SEAGULL BELOW;1 X ABOVE;1 VERTICAL TILDE
1 DOUBLE OVERLINE;1 GRAVE TONE MARK;1 ACUTE TONE MARK;1 GREEK PERISPOMENI;2 KORONIS
2 DIALYTIKA TONOS;2 YPOGEGRAMMENI;1 BRIDGE ABOVE;1 EQUALS SIGN BELOW;1 DOUBLE VERTICAL LINE BELOW
1 LEFT ANGLE BELOW;1 NOT TILDE ABOVE;1 HOMOTHETIC ABOVE;1 ALMOST EQUAL TO ABOVE
1 LEFT RIGHT ARROW BELOW;1 UPWARDS ARROW BELOW;1 GRAPHEME JOINER;1 RIGHT ARROWHEAD ABOVE
1 LEFT HALF RING ABOVE;1 FERMATA;1 X BELOW;1 LEFT ARROWHEAD BELOW;1 RIGHT ARROWHEAD BELOW
3 AND UP ARROWHEAD BELOW;2 HALF RING ABOVE;1 DOT ABOVE RIGHT;1 ASTERISK BELOW;1 DOUBLE RING BELOW
1 ZIGZAG ABOVE;1 DOUBLE BREVE BELOW;3 ;2 MACRON;3 BELOW;2 TILDE;2 INVERTED BREVE
2 RIGHTWARDS ARROW BELOW;1 LATIN SMALL LETTER A;4 E;4 I;4 O;4 U;4 C;4 D;4 H;4 M;4 R;4 T;4 V;4 X
GREEK CAPITAL LETTER HETA;1 SMALL LETTER HETA;1 CAPITAL LETTER ARCHAIC SAMPI
1 SMALL LETTER ARCHAIC SAMPI;1 NUMERAL SIGN;1 LOWER NUMERAL SIGN
1 CAPITAL LETTER PAMPHYLIAN DIGAMMA;1 SMALL LETTER PAMPHYLIAN DIGAMMA;37A=1 YPOGEGRAMMENI
1 SMALL REVERSED LUNATE SIGMA SYMBOL;2 DOTTED LUNATE SIGMA SYMBOL
2 REVERSED DOTTED LUNATE SIGMA SYMBOL;1 QUESTION MARK;1 CAPITAL LETTER YOT;384=1 TONOS
1 DIALYTIKA TONOS;1 CAPITAL LETTER ALPHA WITH TONOS;1 ANO TELEIA
1 CAPITAL LETTER EPSILON WITH TONOS;3 ETA WITH TONOS;3 IOTA WITH TONOS;38C=3 OMICRON WITH TONOS
38E=3 UPSILON WITH TONOS;3 OMEGA WITH TONOS;1 SMALL LETTER IOTA WITH DIALYTIKA AND TONOS
1 CAPITAL LETTER ALPHA;3 BETA;3 GAMMA;3 DELTA;3 EPSILON;3 ZETA;3 ETA;3 THETA;3 IOTA;3 KAPPA
3 LAMDA;3 MU;3 NU;3 XI;3 OMICRON;3 PI;3 RHO;3A3=3 SIGMA;3 TAU;3 UPSILON;3 PHI;3 CHI;3 PSI;3 OMEGA
3 IOTA WITH DIALYTIKA;3 UPSILON WITH DIALYTIKA;1 SMALL LETTER ALPHA WITH TONOS
3 EPSILON WITH TONOS;3 ETA WITH TONOS;3 IOTA WITH TONOS;3 UPSILON WITH DIALYTIKA AND TONOS;3 ALPHA
3 BETA;3 GAMMA;3 DELTA;3 EPSILON;3 ZETA;3 ETA;3 THETA;3 IOTA;3 KAPPA;3 LAMDA;3 MU;3 NU;3 XI
3 OMICRON;3 PI;3 RHO;3 FINAL SIGMA;3 SIGMA;3 TAU;3 UPSILON;3 PHI;3 CHI;3 PSI;3 OMEGA
3 IOTA WITH DIALYTIKA;3 UPSILON WITH DIALYTIKA;3 OMICRON WITH TONOS;3 UPSILON WITH TONOS
3 OMEGA WITH TONOS;1 CAPITAL KAI SYMBOL;1 BETA SYMBOL;1 THETA SYMBOL;1 UPSILON WITH HOOK SYMBOL
3 ACUTE AND HOOK SYMBOL;3 DIAERESIS AND HOOK SYMBOL;1 PHI SYMBOL;1 PI SYMBOL;1 KAI SYMBOL
1 LETTER ARCHAIC KOPPA;1 SMALL LETTER ARCHAIC KOPPA;1 LETTER STIGMA;1 SMALL LETTER STIGMA
1 LETTER DIGAMMA;1 SMALL LETTER DIGAMMA;1 LETTER KOPPA;1 SMALL LETTER KOPPA;1 LETTER SAMPI
1 SMALL LETTER SAMPI;COPTIC CAPITAL LETTER SHEI;1 SMALL LETTER SHEI;1 CAPITAL LETTER FEI
1 SMALL LETTER FEI;1 CAPITAL LETTER KHEI;1 SMALL LETTER KHEI;1 CAPITAL LETTER HORI
1 SMALL LETTER HORI;1 CAPITAL LETTER GANGIA;1 SMALL LETTER GANGIA;1 CAPITAL LETTER SHIMA
1 SMALL LETTER SHIMA;1 CAPITAL LETTER DEI;1 SMALL LETTER DEI;GREEK KAPPA SYMBOL;1 RHO SYMBOL
1 LUNATE SIGMA SYMBOL;1 LETTER YOT;1 CAPITAL THETA SYMBOL;1 LUNATE EPSILON SYMBOL
1 REVERSED LUNATE EPSILON SYMBOL;1 CAPITAL LETTER SHO;1 SMALL LETTER SHO
1 CAPITAL LUNATE SIGMA SYMBOL;2 LETTER SAN;1 SMALL LETTER SAN;1 RHO WITH STROKE SYMBOL
1 CAPITAL REVERSED LUNATE SIGMA SYMBOL;2 DOTTED LUNATE SIGMA SYMBOL
2 REVERSED DOTTED LUNATE SIGMA SYMBOL;CYRILLIC CAPITAL LETTER IE WITH GRAVE;3 IO;3 DJE;3 GJE
3 UKRAINIAN IE;3 DZE;3 BYELORUSSIAN-UKRAINIAN I;3 YI;3 JE;3 LJE;3 NJE;3 TSHE;3 KJE;3 I WITH GRAVE
3 SHORT U;3 DZHE;3 A;3 BE;3 VE;3 GHE;3 DE;3 IE;3 ZHE;3 ZE;3 I;3 SHORT I;3 KA;3 EL;3 EM;3 EN;3 O
3 PE;3 ER;3 ES;3 TE;3 U;3 EF;3 HA;3 TSE;3 CHE;3 SHA;3 SHCHA;3 HARD SIGN;3 YERU;3 SOFT SIGN;3 E
3 YU;3 YA;1 SMALL LETTER A;3 BE;3 VE;3 GHE;3 DE;3 IE;3 ZHE;3 ZE;3 I;3 SHORT I;3 KA;3 EL;3 EM;3 EN
3 O;3 PE;3 ER;3 ES;3 TE;3 U;3 EF;3 HA;3 TSE;3 CHE;3 SHA;3 SHCHA;3 HARD SIGN;3 YERU;3 SOFT SIGN;3 E
3 YU;3 YA;3 IE WITH GRAVE;3 IO;3 DJE;3 GJE;3 UKRAINIAN IE;3 DZE;3 BYELORUSSIAN-UKRAINIAN I;3 YI
3 JE;3 LJE;3 NJE;3 TSHE;3 KJE;3 I WITH GRAVE;3 SHORT U;3 DZHE;490=1 CAPITAL LETTER GHE WITH UPTURN
1 SMALL LETTER GHE WITH UPTURN;1 CAPITAL LETTER GHE WITH STROKE;1 SMALL LETTER GHE WITH STROKE
1 CAPITAL LETTER GHE WITH MIDDLE HOOK;1 SMALL LETTER GHE WITH MIDDLE HOOK
1 CAPITAL LETTER ZHE WITH DESCENDER;1 SMALL LETTER ZHE WITH DESCENDER
1 CAPITAL LETTER ZE WITH DESCENDER;1 SMALL LETTER ZE WITH DESCENDER
1 CAPITAL LETTER KA WITH DESCENDER;1 SMALL LETTER KA WITH DESCENDER
1 CAPITAL LETTER KA WITH VERTICAL STROKE;1 SMALL LETTER KA WITH VERTICAL STROKE
1 CAPITAL LETTER KA WITH STROKE;1 SMALL LETTER KA WITH STROKE;1 CAPITAL LETTER BASHKIR KA
1 SMALL LETTER BASHKIR KA;1 CAPITAL LETTER EN WITH DESCENDER;1 SMALL LETTER EN WITH DESCENDER
1 CAPITAL LIGATURE EN GHE;1 SMALL LIGATURE EN GHE;1 CAPITAL LETTER PE WITH MIDDLE HOOK
1 SMALL LETTER PE WITH MIDDLE HOOK;1 CAPITAL LETTER ABKHASIAN HA;1 SMALL LETTER ABKHASIAN HA
1 CAPITAL LETTER ES WITH DESCENDER;1 SMALL LETTER ES WITH DESCENDER
1 CAPITAL LETTER TE WITH DESCENDER;1 SMALL LETTER TE WITH DESCENDER;1 CAPITAL LETTER STRAIGHT U
1 SMALL LETTER STRAIGHT U;1 CAPITAL LETTER STRAIGHT U WITH STROKE
1 SMALL LETTER STRAIGHT U WITH STROKE;1 CAPITAL LETTER HA WITH DESCENDER
1 SMALL LETTER HA WITH DESCENDER;1 CAPITAL LIGATURE TE TSE;1 SMALL LIGATURE TE TSE
1 CAPITAL LETTER CHE WITH DESCENDER;1 SMALL LETTER CHE WITH DESCENDER
1 CAPITAL LETTER CHE WITH VERTICAL STROKE;1 SMALL LETTER CHE WITH VERTICAL STROKE
1 CAPITAL LETTER SHHA;1 SMALL LETTER SHHA;1 CAPITAL LETTER ABKHASIAN CHE
1 SMALL LETTER ABKHASIAN CHE;1 CAPITAL LETTER ABKHASIAN CHE WITH DESCENDER
1 SMALL LETTER ABKHASIAN CHE WITH DESCENDER;1 LETTER PALOCHKA;1 CAPITAL LETTER ZHE WITH BREVE
1 SMALL LETTER ZHE WITH BREVE;1 CAPITAL LETTER KA WITH HOOK;1 SMALL LETTER KA WITH HOOK
1 CAPITAL LETTER EL WITH TAIL;1 SMALL LETTER EL WITH TAIL;1 CAPITAL LETTER EN WITH HOOK
1 SMALL LETTER EN WITH HOOK;1 CAPITAL LETTER EN WITH TAIL;1 SMALL LETTER EN WITH TAIL
1 CAPITAL LETTER KHAKASSIAN CHE;1 SMALL LETTER KHAKASSIAN CHE;1 CAPITAL LETTER EM WITH TAIL
1 SMALL LETTER EM WITH TAIL;3 PALOCHKA;1 CAPITAL LETTER A WITH BREVE;1 SMALL LETTER A WITH BREVE
1 CAPITAL LETTER A WITH DIAERESIS;1 SMALL LETTER A WITH DIAERESIS;1 CAPITAL LIGATURE A IE
1 SMALL LIGATURE A IE;1 CAPITAL LETTER IE WITH BREVE;1 SMALL LETTER IE WITH BREVE
1 CAPITAL LETTER SCHWA;1 SMALL LETTER SCHWA;1 CAPITAL LETTER SCHWA WITH DIAERESIS
1 SMALL LETTER SCHWA WITH DIAERESIS;1 CAPITAL LETTER ZHE WITH DIAERESIS
1 SMALL LETTER ZHE WITH DIAERESIS;1 CAPITAL LETTER ZE WITH DIAERESIS
1 SMALL LETTER ZE WITH DIAERESIS;1 CAPITAL LETTER ABKHASIAN DZE;1 SMALL LETTER ABKHASIAN DZE
1 CAPITAL LETTER I WITH MACRON;1 SMALL LETTER I WITH MACRON;1 CAPITAL LETTER I WITH DIAERESIS
1 SMALL LETTER I WITH DIAERESIS;1 CAPITAL LETTER O WITH DIAERESIS;1 SMALL LETTER O WITH DIAERESIS
1 CAPITAL LETTER BARRED O;1 SMALL LETTER BARRED O;1 CAPITAL LETTER BARRED O WITH DIAERESIS
1 SMALL LETTER BARRED O WITH DIAERESIS;1 CAPITAL LETTER E WITH DIAERESIS
1 SMALL LETTER E WITH DIAERESIS;1 CAPITAL LETTER U WITH MACRON;1 SMALL LETTER U WITH MACRON
1 CAPITAL LETTER U WITH DIAERESIS;1 SMALL LETTER U WITH DIAERESIS
1 CAPITAL LETTER U WITH DOUBLE ACUTE;1 SMALL LETTER U WITH DOUBLE ACUTE
1 CAPITAL LETTER CHE WITH DIAERESIS;1 SMALL LETTER CHE WITH DIAERESIS
1 CAPITAL LETTER GHE WITH DESCENDER;1 SMALL LETTER GHE WITH DESCENDER
1 CAPITAL LETTER YERU WITH DIAERESIS;1 SMALL LETTER YERU WITH DIAERESIS
1 CAPITAL LETTER GHE WITH STROKE AND HOOK;1 SMALL LETTER GHE WITH STROKE AND HOOK
1 CAPITAL LETTER HA WITH HOOK;1 SMALL LETTER HA WITH HOOK;1 CAPITAL LETTER HA WITH STROKE
1 SMALL LETTER HA WITH STROKE;5D0=HEBREW LETTER ALEF;2 BET;2 GIMEL;2 DALET;2 HE;2 VAV;2 ZAYIN
2 HET;2 TET;2 YOD;2 FINAL KAF;2 KAF;2 LAMED;2 FINAL MEM;2 MEM;2 FINAL NUN;2 NUN;2 SAMEKH;2 AYIN
2 FINAL PE;2 PE;2 FINAL TSADI;2 TSADI;2 QOF;2 RESH;2 SHIN;2 TAV;60C=ARABIC COMMA;1 DATE SEPARATOR
1 POETIC VERSE SIGN;1 SIGN MISRA;2 SALLALLAHOU ALAYHE WASSALLAM;2 ALAYHE ASSALLAM
2 RAHMATULLAH ALAYHE;2 RADI ALLAHOU ANHU;2 TAKHALLUS;1 SMALL HIGH TAH
3 LIGATURE ALEF WITH LAM WITH YEH;3 ZAIN;2 FATHA;2 DAMMA;2 KASRA;1 SEMICOLON;1 LETTER MARK
1 END OF TEXT MARK;1 TRIPLE DOT PUNCTUATION MARK;1 QUESTION MARK;1 LETTER KASHMIRI YEH;2 HAMZA
2 ALEF WITH MADDA ABOVE;4 HAMZA ABOVE;2 WAW WITH HAMZA ABOVE;2 ALEF WITH HAMZA BELOW
2 YEH WITH HAMZA ABOVE;2 ALEF;2 BEH;2 TEH MARBUTA;3 ;2 THEH;2 JEEM;2 HAH;2 KHAH;2 DAL;2 THAL;2 REH
2 ZAIN;2 SEEN;2 SHEEN;2 SAD;2 DAD;2 TAH;2 ZAH;2 AIN;2 GHAIN;2 KEHEH WITH TWO DOTS ABOVE
4 THREE DOTS BELOW;2 FARSI YEH WITH INVERTED V;5 TWO DOTS ABOVE;5 THREE DOTS ABOVE;1 TATWEEL
1 LETTER FEH;2 QAF;2 KAF;2 LAM;2 MEEM;2 NOON;2 HEH;2 WAW;2 ALEF MAKSURA;2 YEH;1 FATHATAN
660=ARABIC-INDIC DIGIT ZERO;2 ONE;2 TWO;2 THREE;2 FOUR;2 FIVE;2 SIX;2 SEVEN;2 EIGHT;2 NINE
1E9A=LATIN SMALL LETTER A WITH RIGHT HALF RING;1E9C=3 LONG S WITH DIAGONAL STROKE;6 HIGH STROKE
1 CAPITAL LETTER SHARP S;1 SMALL LETTER DELTA;1EFA=1 CAPITAL LETTER MIDDLE-WELSH LL
1 SMALL LETTER MIDDLE-WELSH LL;1 CAPITAL LETTER MIDDLE-WELSH V;1 SMALL LETTER MIDDLE-WELSH V
1 CAPITAL LETTER Y WITH LOOP;1 SMALL LETTER Y WITH LOOP;2000=EN QUAD;EM QUAD;EN SPACE;EM SPACE
THREE-PER-EM SPACE;FOUR-PER-EM SPACE;SIX-PER-EM SPACE;FIGURE SPACE;PUNCTUATION SPACE;THIN SPACE
HAIR SPACE;ZERO WIDTH SPACE;2 NON-JOINER;2 JOINER;LEFT-TO-RIGHT MARK;RIGHT-TO-LEFT MARK;HYPHEN
NON-BREAKING HYPHEN;FIGURE DASH;EN DASH;EM DASH;HORIZONTAL BAR;DOUBLE VERTICAL LINE;1 LOW LINE
LEFT SINGLE QUOTATION MARK;RIGHT SINGLE QUOTATION MARK;SINGLE LOW-9 QUOTATION MARK
1 HIGH-REVERSED-9 QUOTATION MARK;LEFT DOUBLE QUOTATION MARK;RIGHT DOUBLE QUOTATION MARK
DOUBLE LOW-9 QUOTATION MARK;1 HIGH-REVERSED-9 QUOTATION MARK;DAGGER;DOUBLE DAGGER;BULLET
TRIANGULAR BULLET;ONE DOT LEADER;TWO DOT LEADER;HORIZONTAL ELLIPSIS;HYPHENATION POINT
LINE SEPARATOR;PARAGRAPH SEPARATOR;LEFT-TO-RIGHT EMBEDDING;RIGHT-TO-LEFT EMBEDDING
POP DIRECTIONAL FORMATTING;LEFT-TO-RIGHT OVERRIDE;RIGHT-TO-LEFT OVERRIDE;NARROW NO-BREAK SPACE
PER MILLE SIGN;1 TEN THOUSAND SIGN;PRIME;DOUBLE PRIME;TRIPLE PRIME;REVERSED PRIME;1 DOUBLE PRIME
1 TRIPLE PRIME;CARET;SINGLE LEFT-POINTING ANGLE QUOTATION MARK
1 RIGHT-POINTING ANGLE QUOTATION MARK;REFERENCE MARK;DOUBLE EXCLAMATION MARK;INTERROBANG;OVERLINE
UNDERTIE;CHARACTER TIE;CARET INSERTION POINT;ASTERISM;HYPHEN BULLET;FRACTION SLASH
LEFT SQUARE BRACKET WITH QUILL;RIGHT SQUARE BRACKET WITH QUILL;DOUBLE QUESTION MARK
QUESTION EXCLAMATION MARK;EXCLAMATION QUESTION MARK;TIRONIAN SIGN ET;REVERSED PILCROW SIGN
BLACK LEFTWARDS BULLET;1 RIGHTWARDS BULLET;LOW ASTERISK;REVERSED SEMICOLON;CLOSE UP
TWO ASTERISKS ALIGNED VERTICALLY;COMMERCIAL MINUS SIGN;SWUNG DASH;INVERTED UNDERTIE
FLOWER PUNCTUATION MARK;THREE DOT PUNCTUATION;QUADRUPLE PRIME;FOUR DOT PUNCTUATION
FIVE DOT PUNCTUATION;TWO DOT PUNCTUATION;FOUR DOT MARK;DOTTED CROSS;TRICOLON;VERTICAL FOUR DOTS
MEDIUM MATHEMATICAL SPACE;WORD JOINER;FUNCTION APPLICATION;INVISIBLE TIMES;1 SEPARATOR;1 PLUS
2066=LEFT-TO-RIGHT ISOLATE;RIGHT-TO-LEFT ISOLATE;FIRST STRONG ISOLATE;POP DIRECTIONAL ISOLATE
INHIBIT SYMMETRIC SWAPPING;ACTIVATE SYMMETRIC SWAPPING;INHIBIT ARABIC FORM SHAPING
ACTIVATE ARABIC FORM SHAPING;NATIONAL DIGIT SHAPES;NOMINAL DIGIT SHAPES;SUPERSCRIPT ZERO
1 LATIN SMALL LETTER I;2074=1 FOUR;1 FIVE;1 SIX;1 SEVEN;1 EIGHT;1 NINE;1 PLUS SIGN;1 MINUS
1 EQUALS SIGN;1 LEFT PARENTHESIS;1 RIGHT PARENTHESIS;1 LATIN SMALL LETTER N;SUBSCRIPT ZERO;1 ONE
1 TWO;1 THREE;1 FOUR;1 FIVE;1 SIX;1 SEVEN;1 EIGHT;1 NINE;1 PLUS SIGN;1 MINUS;1 EQUALS SIGN
1 LEFT PARENTHESIS;1 RIGHT PARENTHESIS;2090=LATIN SUBSCRIPT SMALL LETTER A;4 E;4 O;4 X;4 SCHWA;4 H
4 K;4 L;4 M;4 N;4 P;4 S;4 T;20A0=EURO-CURRENCY SIGN;COLON SIGN;CRUZEIRO SIGN;FRENCH FRANC SIGN
LIRA SIGN;MILL SIGN;NAIRA SIGN;PESETA SIGN;RUPEE SIGN;WON SIGN;NEW SHEQEL SIGN;DONG SIGN;EURO SIGN
KIP SIGN;TUGRIK SIGN;DRACHMA SIGN;GERMAN PENNY SIGN;PESO SIGN;GUARANI SIGN;AUSTRAL SIGN
HRYVNIA SIGN;CEDI SIGN;LIVRE TOURNOIS SIGN;SPESMILO SIGN;TENGE SIGN;INDIAN RUPEE SIGN
TURKISH LIRA SIGN;NORDIC MARK SIGN;MANAT SIGN;RUBLE SIGN;LARI SIGN;BITCOIN SIGN;SOM SIGN
2100=ACCOUNT OF;ADDRESSED TO THE SUBJECT;DOUBLE-STRUCK CAPITAL C;DEGREE CELSIUS;CENTRE LINE SYMBOL
CARE OF;CADA UNA;EULER CONSTANT;SCRUPLE;DEGREE FAHRENHEIT;SCRIPT SMALL G;1 CAPITAL H
BLACK-LETTER CAPITAL H;DOUBLE-STRUCK CAPITAL H;PLANCK CONSTANT;2 OVER TWO PI;SCRIPT CAPITAL I
BLACK-LETTER CAPITAL I;SCRIPT CAPITAL L;1 SMALL L;L B BAR SYMBOL;DOUBLE-STRUCK CAPITAL N
NUMERO SIGN;SOUND RECORDING COPYRIGHT;SCRIPT CAPITAL P;DOUBLE-STRUCK CAPITAL P;2 Q
SCRIPT CAPITAL R;BLACK-LETTER CAPITAL R;DOUBLE-STRUCK CAPITAL R;PRESCRIPTION TAKE;RESPONSE
SERVICE MARK;TELEPHONE SIGN;TRADE MARK SIGN;VERSICLE;DOUBLE-STRUCK CAPITAL Z;OUNCE SIGN;OHM SIGN
INVERTED OHM SIGN;BLACK-LETTER CAPITAL Z;TURNED GREEK SMALL LETTER IOTA;KELVIN SIGN;ANGSTROM SIGN
SCRIPT CAPITAL B;BLACK-LETTER CAPITAL C;ESTIMATED SYMBOL;SCRIPT SMALL E;1 CAPITAL E;2 F
TURNED CAPITAL F;SCRIPT CAPITAL M;1 SMALL O;ALEF SYMBOL;BET SYMBOL;GIMEL SYMBOL;DALET SYMBOL
INFORMATION SOURCE;ROTATED CAPITAL Q;FACSIMILE SIGN;DOUBLE-STRUCK SMALL PI;2 GAMMA;1 CAPITAL GAMMA
2 PI;1 N-ARY SUMMATION;TURNED SANS-SERIF CAPITAL G;3 L;REVERSED SANS-SERIF CAPITAL L
TURNED SANS-SERIF CAPITAL Y;DOUBLE-STRUCK ITALIC CAPITAL D;2 SMALL D;3 E;3 I;3 J;PROPERTY LINE
TURNED AMPERSAND;PER SIGN;AKTIESELSKAB;TURNED SMALL F;SYMBOL FOR SAMARITAN SOURCE
VULGAR FRACTION ONE SEVENTH;3 NINTH;3 TENTH;3 THIRD;2 TWO THIRDS;2 ONE FIFTH;2 TWO FIFTHS
2 THREE FIFTHS;2 FOUR FIFTHS;2 ONE SIXTH;2 FIVE SIXTHS;2 ONE EIGHTH;2 THREE EIGHTHS;2 FIVE EIGHTHS
2 SEVEN EIGHTHS;FRACTION NUMERATOR ONE;ROMAN NUMERAL ONE;2 TWO;2 THREE;2 FOUR;2 FIVE;2 SIX;2 SEVEN
2 EIGHT;2 NINE;2 TEN;2 ELEVEN;2 TWELVE;2 FIFTY;2 ONE HUNDRED;2 FIVE HUNDRED;2 ONE THOUSAND
SMALL ROMAN NUMERAL ONE;3 TWO;3 THREE;3 FOUR;3 FIVE;3 SIX;3 SEVEN;3 EIGHT;3 NINE;3 TEN;3 ELEVEN
3 TWELVE;3 FIFTY;3 ONE HUNDRED;3 FIVE HUNDRED;3 ONE THOUSAND;ROMAN NUMERAL ONE THOUSAND C D
2 FIVE THOUSAND;2 TEN THOUSAND;2 REVERSED ONE HUNDRED;LATIN SMALL LETTER REVERSED C
ROMAN NUMERAL SIX LATE FORM;2 FIFTY EARLY FORM;3 THOUSAND;2 ONE HUNDRED THOUSAND
VULGAR FRACTION ZERO THIRDS;TURNED DIGIT TWO;2 THREE;2190=LEFTWARDS ARROW;UPWARDS ARROW
RIGHTWARDS ARROW;DOWNWARDS ARROW;LEFT RIGHT ARROW;UP DOWN ARROW;NORTH WEST ARROW;1 EAST ARROW
SOUTH EAST ARROW;1 WEST ARROW;LEFTWARDS ARROW WITH STROKE;RIGHTWARDS ARROW WITH STROKE
LEFTWARDS WAVE ARROW;RIGHTWARDS WAVE ARROW;LEFTWARDS TWO HEADED ARROW;UPWARDS TWO HEADED ARROW
RIGHTWARDS TWO HEADED ARROW;DOWNWARDS TWO HEADED ARROW;LEFTWARDS ARROW WITH TAIL
RIGHTWARDS ARROW WITH TAIL;LEFTWARDS ARROW FROM BAR;UPWARDS ARROW FROM BAR
RIGHTWARDS ARROW FROM BAR;DOWNWARDS ARROW FROM BAR;UP DOWN ARROW WITH BASE
LEFTWARDS ARROW WITH HOOK;RIGHTWARDS ARROW WITH HOOK;LEFTWARDS ARROW WITH LOOP
RIGHTWARDS ARROW WITH LOOP;LEFT RIGHT WAVE ARROW;2 ARROW WITH STROKE;DOWNWARDS ZIGZAG ARROW
UPWARDS ARROW WITH TIP LEFTWARDS;4 RIGHTWARDS;DOWNWARDS ARROW WITH TIP LEFTWARDS;4 RIGHTWARDS
RIGHTWARDS ARROW WITH CORNER DOWNWARDS;DOWNWARDS ARROW WITH CORNER LEFTWARDS
ANTICLOCKWISE TOP SEMICIRCLE ARROW;CLOCKWISE TOP SEMICIRCLE ARROW;NORTH WEST ARROW TO LONG BAR
LEFTWARDS ARROW TO BAR OVER RIGHTWARDS ARROW TO BAR;ANTICLOCKWISE OPEN CIRCLE ARROW
CLOCKWISE OPEN CIRCLE ARROW;LEFTWARDS HARPOON WITH BARB UPWARDS;4 DOWNWARDS
UPWARDS HARPOON WITH BARB RIGHTWARDS;4 LEFTWARDS;RIGHTWARDS HARPOON WITH BARB UPWARDS;4 DOWNWARDS
DOWNWARDS HARPOON WITH BARB RIGHTWARDS;4 LEFTWARDS;RIGHTWARDS ARROW OVER LEFTWARDS ARROW
UPWARDS ARROW LEFTWARDS OF DOWNWARDS ARROW;LEFTWARDS ARROW OVER RIGHTWARDS ARROW;1 PAIRED ARROWS
UPWARDS PAIRED ARROWS;RIGHTWARDS PAIRED ARROWS;DOWNWARDS PAIRED ARROWS
LEFTWARDS HARPOON OVER RIGHTWARDS HARPOON;RIGHTWARDS HARPOON OVER LEFTWARDS HARPOON
LEFTWARDS DOUBLE ARROW WITH STROKE;LEFT RIGHT DOUBLE ARROW WITH STROKE
RIGHTWARDS DOUBLE ARROW WITH STROKE;LEFTWARDS DOUBLE ARROW;UPWARDS DOUBLE ARROW
RIGHTWARDS DOUBLE ARROW;DOWNWARDS DOUBLE ARROW;LEFT RIGHT DOUBLE ARROW;UP DOWN DOUBLE ARROW
NORTH WEST DOUBLE ARROW;1 EAST DOUBLE ARROW;SOUTH EAST DOUBLE ARROW;1 WEST DOUBLE ARROW
LEFTWARDS TRIPLE ARROW;RIGHTWARDS TRIPLE ARROW;LEFTWARDS SQUIGGLE ARROW;RIGHTWARDS SQUIGGLE ARROW
UPWARDS ARROW WITH DOUBLE STROKE;DOWNWARDS ARROW WITH DOUBLE STROKE;LEFTWARDS DASHED ARROW
UPWARDS DASHED ARROW;RIGHTWARDS DASHED ARROW;DOWNWARDS DASHED ARROW;LEFTWARDS ARROW TO BAR
RIGHTWARDS ARROW TO BAR;LEFTWARDS WHITE ARROW;UPWARDS WHITE ARROW;RIGHTWARDS WHITE ARROW
DOWNWARDS WHITE ARROW;UPWARDS WHITE ARROW FROM BAR;3 ON PEDESTAL;5 WITH HORIZONTAL BAR
6 VERTICAL BAR;2 DOUBLE ARROW;4 ON PEDESTAL;RIGHTWARDS WHITE ARROW FROM WALL
NORTH WEST ARROW TO CORNER;SOUTH EAST ARROW TO CORNER;UP DOWN WHITE ARROW
RIGHT ARROW WITH SMALL CIRCLE;DOWNWARDS ARROW LEFTWARDS OF UPWARDS ARROW;THREE RIGHTWARDS ARROWS
LEFTWARDS ARROW WITH VERTICAL STROKE;RIGHTWARDS ARROW WITH VERTICAL STROKE
LEFT RIGHT ARROW WITH VERTICAL STROKE;LEFTWARDS ARROW WITH DOUBLE VERTICAL STROKE
RIGHTWARDS ARROW WITH DOUBLE VERTICAL STROKE;LEFT RIGHT ARROW WITH DOUBLE VERTICAL STROKE
LEFTWARDS OPEN-HEADED ARROW;RIGHTWARDS OPEN-HEADED ARROW;LEFT RIGHT OPEN-HEADED ARROW;FOR ALL
COMPLEMENT;PARTIAL DIFFERENTIAL;THERE EXISTS;1 DOES NOT EXIST;EMPTY SET;INCREMENT;NABLA;ELEMENT OF
NOT AN ELEMENT OF;SMALL ELEMENT OF;CONTAINS AS MEMBER;DOES NOT CONTAIN AS MEMBER
SMALL CONTAINS AS MEMBER;END OF PROOF;N-ARY PRODUCT;1 COPRODUCT;1 SUMMATION;MINUS SIGN
MINUS-OR-PLUS SIGN;DOT PLUS;DIVISION SLASH;SET MINUS;ASTERISK OPERATOR;RING OPERATOR
BULLET OPERATOR;SQUARE ROOT;CUBE ROOT;FOURTH ROOT;PROPORTIONAL TO;INFINITY;RIGHT ANGLE;ANGLE
MEASURED ANGLE;SPHERICAL ANGLE;DIVIDES;DOES NOT DIVIDE;PARALLEL TO;NOT PARALLEL TO;LOGICAL AND
1 OR;INTERSECTION;UNION;INTEGRAL;DOUBLE INTEGRAL;TRIPLE INTEGRAL;CONTOUR INTEGRAL;SURFACE INTEGRAL
VOLUME INTEGRAL;CLOCKWISE INTEGRAL;1 CONTOUR INTEGRAL;ANTICLOCKWISE CONTOUR INTEGRAL;THEREFORE
BECAUSE;RATIO;PROPORTION;DOT MINUS;EXCESS;GEOMETRIC PROPORTION;HOMOTHETIC;TILDE OPERATOR
REVERSED TILDE;INVERTED LAZY S;SINE WAVE;WREATH PRODUCT;NOT TILDE;MINUS TILDE
ASYMPTOTICALLY EQUAL TO;NOT ASYMPTOTICALLY EQUAL TO;APPROXIMATELY EQUAL TO
1 BUT NOT ACTUALLY EQUAL TO;NEITHER APPROXIMATELY NOR ACTUALLY EQUAL TO;ALMOST EQUAL TO
NOT ALMOST EQUAL TO;ALMOST EQUAL OR EQUAL TO;TRIPLE TILDE;ALL EQUAL TO;EQUIVALENT TO
GEOMETRICALLY EQUIVALENT TO;DIFFERENCE BETWEEN;APPROACHES THE LIMIT;GEOMETRICALLY EQUAL TO
APPROXIMATELY EQUAL TO OR THE IMAGE OF;IMAGE OF OR APPROXIMATELY EQUAL TO;COLON EQUALS
EQUALS COLON;RING IN EQUAL TO;1 EQUAL TO;CORRESPONDS TO;ESTIMATES;EQUIANGULAR TO;STAR EQUALS
DELTA EQUAL TO;EQUAL TO BY DEFINITION;MEASURED BY;QUESTIONED EQUAL TO;NOT EQUAL TO;IDENTICAL TO
NOT IDENTICAL TO;STRICTLY EQUIVALENT TO;LESS-THAN OR EQUAL TO;GREATER-THAN OR EQUAL TO
LESS-THAN OVER EQUAL TO;GREATER-THAN OVER EQUAL TO;LESS-THAN BUT NOT EQUAL TO
GREATER-THAN BUT NOT EQUAL TO;MUCH LESS-THAN;1 GREATER-THAN;BETWEEN;NOT EQUIVALENT TO;1 LESS-THAN
1 GREATER-THAN;NEITHER LESS-THAN NOR EQUAL TO;1 GREATER-THAN NOR EQUAL TO
LESS-THAN OR EQUIVALENT TO;GREATER-THAN OR EQUIVALENT TO;NEITHER LESS-THAN NOR EQUIVALENT TO
1 GREATER-THAN NOR EQUIVALENT TO;LESS-THAN OR GREATER-THAN;GREATER-THAN OR LESS-THAN
NEITHER LESS-THAN NOR GREATER-THAN;1 GREATER-THAN NOR LESS-THAN;PRECEDES;SUCCEEDS
PRECEDES OR EQUAL TO;SUCCEEDS OR EQUAL TO;PRECEDES OR EQUIVALENT TO;SUCCEEDS OR EQUIVALENT TO
DOES NOT PRECEDE;2 SUCCEED;SUBSET OF;SUPERSET OF;NOT A SUBSET OF;2 SUPERSET OF
SUBSET OF OR EQUAL TO;SUPERSET OF OR EQUAL TO;NEITHER A SUBSET OF NOR EQUAL TO
2 SUPERSET OF NOR EQUAL TO;SUBSET OF WITH NOT EQUAL TO;SUPERSET OF WITH NOT EQUAL TO;MULTISET
1 MULTIPLICATION;1 UNION;SQUARE IMAGE OF;1 ORIGINAL OF;1 IMAGE OF OR EQUAL TO
1 ORIGINAL OF OR EQUAL TO;1 CAP;1 CUP;CIRCLED PLUS;1 MINUS;1 TIMES;1 DIVISION SLASH;1 DOT OPERATOR
1 RING OPERATOR;1 ASTERISK OPERATOR;1 EQUALS;1 DASH;SQUARED PLUS;1 MINUS;1 TIMES;1 DOT OPERATOR
RIGHT TACK;LEFT TACK;DOWN TACK;UP TACK;ASSERTION;MODELS;TRUE;FORCES
TRIPLE VERTICAL BAR RIGHT TURNSTILE;DOUBLE VERTICAL BAR DOUBLE RIGHT TURNSTILE;DOES NOT PROVE
NOT TRUE;DOES NOT FORCE;NEGATED DOUBLE VERTICAL BAR DOUBLE RIGHT TURNSTILE;PRECEDES UNDER RELATION
SUCCEEDS UNDER RELATION;NORMAL SUBGROUP OF;CONTAINS AS NORMAL SUBGROUP
NORMAL SUBGROUP OF OR EQUAL TO;CONTAINS AS NORMAL SUBGROUP OR EQUAL TO;ORIGINAL OF;IMAGE OF
MULTIMAP;HERMITIAN CONJUGATE MATRIX;INTERCALATE;XOR;NAND;NOR;RIGHT ANGLE WITH ARC;1 TRIANGLE
N-ARY LOGICAL AND;2 OR;1 INTERSECTION;1 UNION;DIAMOND OPERATOR;DOT OPERATOR;STAR OPERATOR
DIVISION TIMES;BOWTIE;LEFT NORMAL FACTOR SEMIDIRECT PRODUCT;RIGHT NORMAL FACTOR SEMIDIRECT PRODUCT
LEFT SEMIDIRECT PRODUCT;RIGHT SEMIDIRECT PRODUCT;REVERSED TILDE EQUALS;CURLY LOGICAL OR;2 AND
DOUBLE SUBSET;1 SUPERSET;1 INTERSECTION;1 UNION;PITCHFORK;EQUAL AND PARALLEL TO;LESS-THAN WITH DOT
GREATER-THAN WITH DOT;VERY MUCH LESS-THAN;2 GREATER-THAN;LESS-THAN EQUAL TO OR GREATER-THAN
GREATER-THAN EQUAL TO OR LESS-THAN;EQUAL TO OR LESS-THAN;3 GREATER-THAN;3 PRECEDES;3 SUCCEEDS
DOES NOT PRECEDE OR EQUAL;2 SUCCEED OR EQUAL;NOT SQUARE IMAGE OF OR EQUAL TO
2 ORIGINAL OF OR EQUAL TO;SQUARE IMAGE OF OR NOT EQUAL TO;1 ORIGINAL OF OR NOT EQUAL TO
LESS-THAN BUT NOT EQUIVALENT TO;GREATER-THAN BUT NOT EQUIVALENT TO;PRECEDES BUT NOT EQUIVALENT TO
SUCCEEDS BUT NOT EQUIVALENT TO;NOT NORMAL SUBGROUP OF;DOES NOT CONTAIN AS NORMAL SUBGROUP
NOT NORMAL SUBGROUP OF OR EQUAL TO;DOES NOT CONTAIN AS NORMAL SUBGROUP OR EQUAL;VERTICAL ELLIPSIS
MIDLINE HORIZONTAL ELLIPSIS;UP RIGHT DIAGONAL ELLIPSIS;DOWN RIGHT DIAGONAL ELLIPSIS
ELEMENT OF WITH LONG HORIZONTAL STROKE;3 VERTICAL BAR AT END OF HORIZONTAL STROKE
SMALL ELEMENT OF WITH VERTICAL BAR AT END OF HORIZONTAL STROKE;ELEMENT OF WITH DOT ABOVE;3 OVERBAR
SMALL ELEMENT OF WITH OVERBAR;ELEMENT OF WITH UNDERBAR;3 TWO HORIZONTAL STROKES
CONTAINS WITH LONG HORIZONTAL STROKE;2 VERTICAL BAR AT END OF HORIZONTAL STROKE
SMALL CONTAINS WITH VERTICAL BAR AT END OF HORIZONTAL STROKE;CONTAINS WITH OVERBAR
SMALL CONTAINS WITH OVERBAR;Z NOTATION BAG MEMBERSHIP;DIAMETER SIGN;ELECTRIC ARROW;HOUSE
UP ARROWHEAD;DOWN ARROWHEAD;PROJECTIVE;PERSPECTIVE;WAVY LINE;LEFT CEILING;RIGHT CEILING;LEFT FLOOR
RIGHT FLOOR;BOTTOM RIGHT CROP;1 LEFT CROP;TOP RIGHT CROP;1 LEFT CROP;REVERSED NOT SIGN
SQUARE LOZENGE;ARC;SEGMENT;SECTOR;TELEPHONE RECORDER;POSITION INDICATOR;VIEWDATA SQUARE
PLACE OF INTEREST SIGN;TURNED NOT SIGN;WATCH;HOURGLASS;TOP LEFT CORNER;1 RIGHT CORNER
BOTTOM LEFT CORNER;1 RIGHT CORNER;TOP HALF INTEGRAL;BOTTOM HALF INTEGRAL;FROWN;SMILE
UP ARROWHEAD BETWEEN TWO HORIZONTAL BARS;OPTION KEY;ERASE TO THE RIGHT;X IN A RECTANGLE BOX
KEYBOARD;LEFT-POINTING ANGLE BRACKET;RIGHT-POINTING ANGLE BRACKET;ERASE TO THE LEFT;BENZENE RING
CYLINDRICITY;ALL AROUND-PROFILE;SYMMETRY;TOTAL RUNOUT;DIMENSION ORIGIN;CONICAL TAPER;SLOPE
COUNTERBORE;COUNTERSINK;APL FUNCTIONAL SYMBOL I-BEAM;3 SQUISH QUAD;3 QUAD EQUAL;4 DIVIDE;4 DIAMOND
4 JOT;4 CIRCLE;3 CIRCLE STILE;4 JOT;3 SLASH BAR;3 BACKSLASH BAR;3 QUAD SLASH;4 BACKSLASH
4 LESS-THAN;4 GREATER-THAN;3 LEFTWARDS VANE;3 RIGHTWARDS VANE;3 QUAD LEFTWARDS ARROW
4 RIGHTWARDS ARROW;3 CIRCLE BACKSLASH;3 DOWN TACK UNDERBAR;3 DELTA STILE;3 QUAD DOWN CARET;4 DELTA
3 DOWN TACK JOT;3 UPWARDS VANE;3 QUAD UPWARDS ARROW;3 UP TACK OVERBAR;3 DEL STILE;3 QUAD UP CARET
4 DEL;3 UP TACK JOT;3 DOWNWARDS VANE;3 QUAD DOWNWARDS ARROW;3 QUOTE UNDERBAR;3 DELTA UNDERBAR
3 DIAMOND UNDERBAR;3 JOT UNDERBAR;3 CIRCLE UNDERBAR;3 UP SHOE JOT;3 QUOTE QUAD;3 CIRCLE STAR
3 QUAD COLON;3 UP TACK DIAERESIS;3 DEL DIAERESIS;3 STAR DIAERESIS;3 JOT DIAERESIS
3 CIRCLE DIAERESIS;3 DOWN SHOE STILE;3 LEFT SHOE STILE;3 TILDE DIAERESIS;3 GREATER-THAN DIAERESIS
3 COMMA BAR;3 DEL TILDE;3 ZILDE;3 STILE TILDE;3 SEMICOLON UNDERBAR;3 QUAD NOT EQUAL;4 QUESTION
3 DOWN CARET TILDE;3 UP CARET TILDE;3 IOTA;3 RHO;3 OMEGA;3 ALPHA UNDERBAR;3 EPSILON UNDERBAR
3 IOTA UNDERBAR;3 OMEGA UNDERBAR;3 ALPHA;NOT CHECK MARK;RIGHT ANGLE WITH DOWNWARDS ZIGZAG ARROW
SHOULDERED OPEN BOX;BELL SYMBOL;VERTICAL LINE WITH MIDDLE DOT;INSERTION SYMBOL
CONTINUOUS UNDERLINE SYMBOL;DISCONTINUOUS UNDERLINE SYMBOL;EMPHASIS SYMBOL;COMPOSITION SYMBOL
WHITE SQUARE WITH CENTRE VERTICAL LINE;ENTER SYMBOL;ALTERNATIVE KEY SYMBOL;HELM SYMBOL
CIRCLED HORIZONTAL BAR WITH NOTCH;1 TRIANGLE DOWN;BROKEN CIRCLE WITH NORTHWEST ARROW;UNDO SYMBOL
MONOSTABLE SYMBOL;HYSTERESIS SYMBOL;OPEN-CIRCUIT-OUTPUT H-TYPE SYMBOL;1 L-TYPE SYMBOL
PASSIVE-PULL-DOWN-OUTPUT SYMBOL;PASSIVE-PULL-UP-OUTPUT SYMBOL;DIRECT CURRENT SYMBOL FORM TWO
SOFTWARE-FUNCTION SYMBOL;APL FUNCTIONAL SYMBOL QUAD;DECIMAL SEPARATOR KEY SYMBOL;PREVIOUS PAGE
NEXT PAGE;PRINT SCREEN SYMBOL;CLEAR SCREEN SYMBOL;LEFT PARENTHESIS UPPER HOOK;2 EXTENSION
2 LOWER HOOK;RIGHT PARENTHESIS UPPER HOOK;2 EXTENSION;2 LOWER HOOK
LEFT SQUARE BRACKET UPPER CORNER;3 EXTENSION;3 LOWER CORNER;RIGHT SQUARE BRACKET UPPER CORNER
3 EXTENSION;3 LOWER CORNER;LEFT CURLY BRACKET UPPER HOOK;3 MIDDLE PIECE;3 LOWER HOOK
CURLY BRACKET EXTENSION;RIGHT CURLY BRACKET UPPER HOOK;3 MIDDLE PIECE;3 LOWER HOOK
INTEGRAL EXTENSION;HORIZONTAL LINE EXTENSION;UPPER LEFT OR LOWER RIGHT CURLY BRACKET SECTION
1 RIGHT OR LOWER LEFT CURLY BRACKET SECTION;SUMMATION TOP;1 BOTTOM;TOP SQUARE BRACKET
BOTTOM SQUARE BRACKET;3 OVER TOP SQUARE BRACKET;RADICAL SYMBOL BOTTOM;LEFT VERTICAL BOX LINE
RIGHT VERTICAL BOX LINE;HORIZONTAL SCAN LINE-1;2 LINE-3;2 LINE-7;2 LINE-9
DENTISTRY SYMBOL LIGHT VERTICAL AND TOP RIGHT;5 BOTTOM RIGHT;4 WITH CIRCLE
3 DOWN AND HORIZONTAL WITH CIRCLE;3 UP AND HORIZONTAL WITH CIRCLE;3 VERTICAL WITH TRIANGLE
3 DOWN AND HORIZONTAL WITH TRIANGLE;3 UP AND HORIZONTAL WITH TRIANGLE;3 VERTICAL AND WAVE
3 DOWN AND HORIZONTAL WITH WAVE;3 UP AND HORIZONTAL WITH WAVE;3 DOWN AND HORIZONTAL
3 UP AND HORIZONTAL;3 VERTICAL AND TOP LEFT;5 BOTTOM LEFT;SQUARE FOOT;RETURN SYMBOL;EJECT SYMBOL
VERTICAL LINE EXTENSION;METRICAL BREVE;1 LONG OVER SHORT;1 SHORT OVER LONG;1 LONG OVER TWO SHORTS
1 TWO SHORTS OVER LONG;3 JOINED;1 TRISEME;1 TETRASEME;1 PENTASEME;EARTH GROUND;FUSE
TOP PARENTHESIS;BOTTOM PARENTHESIS;TOP CURLY BRACKET;BOTTOM CURLY BRACKET
TOP TORTOISE SHELL BRACKET;BOTTOM TORTOISE SHELL BRACKET;WHITE TRAPEZIUM;BENZENE RING WITH CIRCLE
STRAIGHTNESS;FLATNESS;AC CURRENT;ELECTRICAL INTERSECTION;DECIMAL EXPONENT SYMBOL
BLACK RIGHT-POINTING DOUBLE TRIANGLE;1 LEFT-POINTING DOUBLE TRIANGLE;1 UP-POINTING DOUBLE TRIANGLE
1 DOWN-POINTING DOUBLE TRIANGLE;1 RIGHT-POINTING DOUBLE TRIANGLE WITH VERTICAL BAR
1 LEFT-POINTING DOUBLE TRIANGLE WITH VERTICAL BAR
1 RIGHT-POINTING TRIANGLE WITH DOUBLE VERTICAL BAR;ALARM CLOCK;STOPWATCH;TIMER CLOCK
HOURGLASS WITH FLOWING SAND;BLACK MEDIUM LEFT-POINTING TRIANGLE;2 RIGHT-POINTING TRIANGLE
2 UP-POINTING TRIANGLE;2 DOWN-POINTING TRIANGLE;DOUBLE VERTICAL BAR;BLACK SQUARE FOR STOP
1 CIRCLE FOR RECORD;POWER SYMBOL;1 ON-OFF SYMBOL;1 ON SYMBOL;1 SLEEP SYMBOL;OBSERVER EYE SYMBOL
SYMBOL FOR NULL;2 START OF HEADING;4 TEXT;2 END OF TEXT;4 TRANSMISSION;2 ENQUIRY;2 ACKNOWLEDGE
2 BELL;2 BACKSPACE;2 HORIZONTAL TABULATION;2 LINE FEED;2 VERTICAL TABULATION;2 FORM FEED
2 CARRIAGE RETURN;2 SHIFT OUT;3 IN;2 DATA LINK ESCAPE;2 DEVICE CONTROL ONE;4 TWO;4 THREE;4 FOUR
2 NEGATIVE ACKNOWLEDGE;2 SYNCHRONOUS IDLE;2 END OF TRANSMISSION BLOCK;2 CANCEL;2 END OF MEDIUM
2 SUBSTITUTE;2 ESCAPE;2 FILE SEPARATOR;2 GROUP SEPARATOR;2 RECORD SEPARATOR;2 UNIT SEPARATOR
2 SPACE;2 DELETE;BLANK SYMBOL;OPEN BOX;SYMBOL FOR NEWLINE;2 DELETE FORM TWO;2 SUBSTITUTE FORM TWO
2460=CIRCLED DIGIT ONE;2 TWO;2 THREE;2 FOUR;2 FIVE;2 SIX;2 SEVEN;2 EIGHT;2 NINE;1 NUMBER TEN
2 ELEVEN;2 TWELVE;2 THIRTEEN;2 FOURTEEN;2 FIFTEEN;2 SIXTEEN;2 SEVENTEEN;2 EIGHTEEN;2 NINETEEN
2 TWENTY;PARENTHESIZED DIGIT ONE;2 TWO;2 THREE;2 FOUR;2 FIVE;2 SIX;2 SEVEN;2 EIGHT;2 NINE
1 NUMBER TEN;2 ELEVEN;2 TWELVE;2 THIRTEEN;2 FOURTEEN;2 FIFTEEN;2 SIXTEEN;2 SEVENTEEN;2 EIGHTEEN
2 NINETEEN;2 TWENTY;DIGIT ONE FULL STOP;1 TWO FULL STOP;1 THREE FULL STOP;1 FOUR FULL STOP
1 FIVE FULL STOP;1 SIX FULL STOP;1 SEVEN FULL STOP;1 EIGHT FULL STOP;1 NINE FULL STOP
NUMBER TEN FULL STOP;1 ELEVEN FULL STOP;1 TWELVE FULL STOP;1 THIRTEEN FULL STOP
1 FOURTEEN FULL STOP;1 FIFTEEN FULL STOP;1 SIXTEEN FULL STOP;1 SEVENTEEN FULL STOP
1 EIGHTEEN FULL STOP;1 NINETEEN FULL STOP;1 TWENTY FULL STOP;PARENTHESIZED LATIN SMALL LETTER A
4 B;4 C;4 D;4 E;4 F;4 G;4 H;4 I;4 J;4 K;4 L;4 M;4 N;4 O;4 P;4 Q;4 R;4 S;4 T;4 U;4 V;4 W;4 X;4 Y
4 Z;CIRCLED LATIN CAPITAL LETTER A;4 B;4 C;4 D;4 E;4 F;4 G;4 H;4 I;4 J;4 K;4 L;4 M;4 N;4 O;4 P;4 Q
4 R;4 S;4 T;4 U;4 V;4 W;4 X;4 Y;4 Z;2 SMALL LETTER A;4 B;4 C;4 D;4 E;4 F;4 G;4 H;4 I;4 J;4 K;4 L
4 M;4 N;4 O;4 P;4 Q;4 R;4 S;4 T;4 U;4 V;4 W;4 X;4 Y;4 Z;1 DIGIT ZERO
NEGATIVE CIRCLED NUMBER ELEVEN;3 TWELVE;3 THIRTEEN;3 FOURTEEN;3 FIFTEEN;3 SIXTEEN;3 SEVENTEEN
3 EIGHTEEN;3 NINETEEN;3 TWENTY;DOUBLE CIRCLED DIGIT ONE;3 TWO;3 THREE;3 FOUR;3 FIVE;3 SIX;3 SEVEN
3 EIGHT;3 NINE;2 NUMBER TEN;NEGATIVE CIRCLED DIGIT ZERO;BOX DRAWINGS LIGHT HORIZONTAL
2 HEAVY HORIZONTAL;2 LIGHT VERTICAL;2 HEAVY VERTICAL;2 LIGHT TRIPLE DASH HORIZONTAL
2 HEAVY TRIPLE DASH HORIZONTAL;2 LIGHT TRIPLE DASH VERTICAL;2 HEAVY TRIPLE DASH VERTICAL
2 LIGHT QUADRUPLE DASH HORIZONTAL;2 HEAVY QUADRUPLE DASH HORIZONTAL
2 LIGHT QUADRUPLE DASH VERTICAL;2 HEAVY QUADRUPLE DASH VERTICAL;2 LIGHT DOWN AND RIGHT
2 DOWN LIGHT AND RIGHT HEAVY;3 HEAVY AND RIGHT LIGHT;2 HEAVY DOWN AND RIGHT;2 LIGHT DOWN AND LEFT
2 DOWN LIGHT AND LEFT HEAVY;3 HEAVY AND LEFT LIGHT;2 HEAVY DOWN AND LEFT;2 LIGHT UP AND RIGHT
2 UP LIGHT AND RIGHT HEAVY;3 HEAVY AND RIGHT LIGHT;2 HEAVY UP AND RIGHT;2 LIGHT UP AND LEFT
2 UP LIGHT AND LEFT HEAVY;3 HEAVY AND LEFT LIGHT;2 HEAVY UP AND LEFT;2 LIGHT VERTICAL AND RIGHT
2 VERTICAL LIGHT AND RIGHT HEAVY;2 UP HEAVY AND RIGHT DOWN LIGHT;2 DOWN HEAVY AND RIGHT UP LIGHT
2 VERTICAL HEAVY AND RIGHT LIGHT;2 DOWN LIGHT AND RIGHT UP HEAVY;2 UP LIGHT AND RIGHT DOWN HEAVY
2 HEAVY VERTICAL AND RIGHT;2 LIGHT VERTICAL AND LEFT;2 VERTICAL LIGHT AND LEFT HEAVY
2 UP HEAVY AND LEFT DOWN LIGHT;2 DOWN HEAVY AND LEFT UP LIGHT;2 VERTICAL HEAVY AND LEFT LIGHT
2 DOWN LIGHT AND LEFT UP HEAVY;2 UP LIGHT AND LEFT DOWN HEAVY;2 HEAVY VERTICAL AND LEFT
2 LIGHT DOWN AND HORIZONTAL;2 LEFT HEAVY AND RIGHT DOWN LIGHT;2 RIGHT HEAVY AND LEFT DOWN LIGHT
2 DOWN LIGHT AND HORIZONTAL HEAVY;3 HEAVY AND HORIZONTAL LIGHT;2 RIGHT LIGHT AND LEFT DOWN HEAVY
2 LEFT LIGHT AND RIGHT DOWN HEAVY;2 HEAVY DOWN AND HORIZONTAL;2 LIGHT UP AND HORIZONTAL
2 LEFT HEAVY AND RIGHT UP LIGHT;2 RIGHT HEAVY AND LEFT UP LIGHT;2 UP LIGHT AND HORIZONTAL HEAVY
3 HEAVY AND HORIZONTAL LIGHT;2 RIGHT LIGHT AND LEFT UP HEAVY;2 LEFT LIGHT AND RIGHT UP HEAVY
2 HEAVY UP AND HORIZONTAL;2 LIGHT VERTICAL AND HORIZONTAL;2 LEFT HEAVY AND RIGHT VERTICAL LIGHT
2 RIGHT HEAVY AND LEFT VERTICAL LIGHT;2 VERTICAL LIGHT AND HORIZONTAL HEAVY
2 UP HEAVY AND DOWN HORIZONTAL LIGHT;2 DOWN HEAVY AND UP HORIZONTAL LIGHT
2 VERTICAL HEAVY AND HORIZONTAL LIGHT;2 LEFT UP HEAVY AND RIGHT DOWN LIGHT
2 RIGHT UP HEAVY AND LEFT DOWN LIGHT;2 LEFT DOWN HEAVY AND RIGHT UP LIGHT
2 RIGHT DOWN HEAVY AND LEFT UP LIGHT;2 DOWN LIGHT AND UP HORIZONTAL HEAVY
2 UP LIGHT AND DOWN HORIZONTAL HEAVY;2 RIGHT LIGHT AND LEFT VERTICAL HEAVY
2 LEFT LIGHT AND RIGHT VERTICAL HEAVY;2 HEAVY VERTICAL AND HORIZONTAL
2 LIGHT DOUBLE DASH HORIZONTAL;2 HEAVY DOUBLE DASH HORIZONTAL;2 LIGHT DOUBLE DASH VERTICAL
2 HEAVY DOUBLE DASH VERTICAL;2 DOUBLE HORIZONTAL;3 VERTICAL;2 DOWN SINGLE AND RIGHT DOUBLE
3 DOUBLE AND RIGHT SINGLE;2 DOUBLE DOWN AND RIGHT;2 DOWN SINGLE AND LEFT DOUBLE
3 DOUBLE AND LEFT SINGLE;2 DOUBLE DOWN AND LEFT;2 UP SINGLE AND RIGHT DOUBLE
3 DOUBLE AND RIGHT SINGLE;2 DOUBLE UP AND RIGHT;2 UP SINGLE AND LEFT DOUBLE
3 DOUBLE AND LEFT SINGLE;2 DOUBLE UP AND LEFT;2 VERTICAL SINGLE AND RIGHT DOUBLE
3 DOUBLE AND RIGHT SINGLE;2 DOUBLE VERTICAL AND RIGHT;2 VERTICAL SINGLE AND LEFT DOUBLE
3 DOUBLE AND LEFT SINGLE;2 DOUBLE VERTICAL AND LEFT;2 DOWN SINGLE AND HORIZONTAL DOUBLE
3 DOUBLE AND HORIZONTAL SINGLE;2 DOUBLE DOWN AND HORIZONTAL;2 UP SINGLE AND HORIZONTAL DOUBLE
3 DOUBLE AND HORIZONTAL SINGLE;2 DOUBLE UP AND HORIZONTAL;2 VERTICAL SINGLE AND HORIZONTAL DOUBLE
3 DOUBLE AND HORIZONTAL SINGLE;2 DOUBLE VERTICAL AND HORIZONTAL;2 LIGHT ARC DOWN AND RIGHT;6 LEFT
4 UP AND LEFT;6 RIGHT;3 DIAGONAL UPPER RIGHT TO LOWER LEFT;5 LEFT TO LOWER RIGHT;4 CROSS;3 LEFT
3 UP;3 RIGHT;3 DOWN;2 HEAVY LEFT;3 UP;3 RIGHT;3 DOWN;2 LIGHT LEFT AND HEAVY RIGHT
3 UP AND HEAVY DOWN;2 HEAVY LEFT AND LIGHT RIGHT;3 UP AND LIGHT DOWN;UPPER HALF BLOCK
LOWER ONE EIGHTH BLOCK;2 QUARTER BLOCK;1 THREE EIGHTHS BLOCK;1 HALF BLOCK;1 FIVE EIGHTHS BLOCK
1 THREE QUARTERS BLOCK;1 SEVEN EIGHTHS BLOCK;FULL BLOCK;LEFT SEVEN EIGHTHS BLOCK
1 THREE QUARTERS BLOCK;1 FIVE EIGHTHS BLOCK;1 HALF BLOCK;1 THREE EIGHTHS BLOCK;1 ONE QUARTER BLOCK
2 EIGHTH BLOCK;RIGHT HALF BLOCK;LIGHT SHADE;MEDIUM SHADE;DARK SHADE;UPPER ONE EIGHTH BLOCK
RIGHT ONE EIGHTH BLOCK;QUADRANT LOWER LEFT;2 RIGHT;1 UPPER LEFT;3 AND LOWER LEFT AND LOWER RIGHT
5 RIGHT;4 UPPER RIGHT AND LOWER LEFT;8 RIGHT;2 RIGHT;3 AND LOWER LEFT;6 AND LOWER RIGHT
BLACK SQUARE;WHITE SQUARE;2 WITH ROUNDED CORNERS;2 CONTAINING BLACK SMALL SQUARE
SQUARE WITH HORIZONTAL FILL;2 VERTICAL FILL;2 ORTHOGONAL CROSSHATCH FILL
2 UPPER LEFT TO LOWER RIGHT FILL;3 RIGHT TO LOWER LEFT FILL;2 DIAGONAL CROSSHATCH FILL
BLACK SMALL SQUARE;WHITE SMALL SQUARE;BLACK RECTANGLE;WHITE RECTANGLE;BLACK VERTICAL RECTANGLE
WHITE VERTICAL RECTANGLE;BLACK PARALLELOGRAM;WHITE PARALLELOGRAM;BLACK UP-POINTING TRIANGLE
WHITE UP-POINTING TRIANGLE;BLACK UP-POINTING SMALL TRIANGLE;WHITE UP-POINTING SMALL TRIANGLE
BLACK RIGHT-POINTING TRIANGLE;WHITE RIGHT-POINTING TRIANGLE;BLACK RIGHT-POINTING SMALL TRIANGLE
WHITE RIGHT-POINTING SMALL TRIANGLE;BLACK RIGHT-POINTING POINTER;WHITE RIGHT-POINTING POINTER
BLACK DOWN-POINTING TRIANGLE;WHITE DOWN-POINTING TRIANGLE;BLACK DOWN-POINTING SMALL TRIANGLE
WHITE DOWN-POINTING SMALL TRIANGLE;BLACK LEFT-POINTING TRIANGLE;WHITE LEFT-POINTING TRIANGLE
BLACK LEFT-POINTING SMALL TRIANGLE;WHITE LEFT-POINTING SMALL TRIANGLE;BLACK LEFT-POINTING POINTER
WHITE LEFT-POINTING POINTER;BLACK DIAMOND;WHITE DIAMOND;2 CONTAINING BLACK SMALL DIAMOND;FISHEYE
LOZENGE;WHITE CIRCLE;DOTTED CIRCLE;CIRCLE WITH VERTICAL FILL;BULLSEYE;BLACK CIRCLE
CIRCLE WITH LEFT HALF BLACK;2 RIGHT HALF BLACK;2 LOWER HALF BLACK;2 UPPER HALF BLACK
3 RIGHT QUADRANT BLACK;2 ALL BUT UPPER LEFT QUADRANT BLACK;LEFT HALF BLACK CIRCLE
RIGHT HALF BLACK CIRCLE;INVERSE BULLET;1 WHITE CIRCLE;UPPER HALF INVERSE WHITE CIRCLE
LOWER HALF INVERSE WHITE CIRCLE;UPPER LEFT QUADRANT CIRCULAR ARC;1 RIGHT QUADRANT CIRCULAR ARC
LOWER RIGHT QUADRANT CIRCULAR ARC;1 LEFT QUADRANT CIRCULAR ARC;UPPER HALF CIRCLE;LOWER HALF CIRCLE
BLACK LOWER RIGHT TRIANGLE;2 LEFT TRIANGLE;1 UPPER LEFT TRIANGLE;2 RIGHT TRIANGLE;WHITE BULLET
SQUARE WITH LEFT HALF BLACK;2 RIGHT HALF BLACK;2 UPPER LEFT DIAGONAL HALF BLACK
2 LOWER RIGHT DIAGONAL HALF BLACK;WHITE SQUARE WITH VERTICAL BISECTING LINE
1 UP-POINTING TRIANGLE WITH DOT;UP-POINTING TRIANGLE WITH LEFT HALF BLACK;3 RIGHT HALF BLACK
LARGE CIRCLE;WHITE SQUARE WITH UPPER LEFT QUADRANT;3 LOWER LEFT QUADRANT;4 RIGHT QUADRANT
3 UPPER RIGHT QUADRANT;1 CIRCLE WITH UPPER LEFT QUADRANT;3 LOWER LEFT QUADRANT;4 RIGHT QUADRANT
3 UPPER RIGHT QUADRANT;UPPER LEFT TRIANGLE;1 RIGHT TRIANGLE;LOWER LEFT TRIANGLE
WHITE MEDIUM SQUARE;BLACK MEDIUM SQUARE;WHITE MEDIUM SMALL SQUARE;BLACK MEDIUM SMALL SQUARE
LOWER RIGHT TRIANGLE;BLACK SUN WITH RAYS;CLOUD;UMBRELLA;SNOWMAN;COMET;BLACK STAR;WHITE STAR
LIGHTNING;THUNDERSTORM;SUN;ASCENDING NODE;DESCENDING NODE;CONJUNCTION;OPPOSITION;BLACK TELEPHONE
WHITE TELEPHONE;BALLOT BOX;2 WITH CHECK;3 X;SALTIRE;UMBRELLA WITH RAIN DROPS;HOT BEVERAGE
WHITE SHOGI PIECE;BLACK SHOGI PIECE;SHAMROCK;REVERSED ROTATED FLORAL HEART BULLET
BLACK LEFT POINTING INDEX;1 RIGHT POINTING INDEX;WHITE LEFT POINTING INDEX;1 UP POINTING INDEX
1 RIGHT POINTING INDEX;1 DOWN POINTING INDEX;SKULL AND CROSSBONES;CAUTION SIGN;RADIOACTIVE SIGN
BIOHAZARD SIGN;CADUCEUS;ANKH;ORTHODOX CROSS;CHI RHO;CROSS OF LORRAINE;2 JERUSALEM
STAR AND CRESCENT;FARSI SYMBOL;ADI SHAKTI;HAMMER AND SICKLE;PEACE SYMBOL;YIN YANG
TRIGRAM FOR HEAVEN;2 LAKE;2 FIRE;2 THUNDER;2 WIND;2 WATER;2 MOUNTAIN;2 EARTH;WHEEL OF DHARMA
WHITE FROWNING FACE;1 SMILING FACE;BLACK SMILING FACE;WHITE SUN WITH RAYS;FIRST QUARTER MOON
LAST QUARTER MOON;MERCURY;FEMALE SIGN;EARTH;MALE SIGN;JUPITER;SATURN;URANUS;NEPTUNE;PLUTO;ARIES
TAURUS;GEMINI;CANCER;LEO;VIRGO;LIBRA;SCORPIUS;SAGITTARIUS;CAPRICORN;AQUARIUS;PISCES
WHITE CHESS KING;2 QUEEN;2 ROOK;2 BISHOP;2 KNIGHT;2 PAWN;BLACK CHESS KING;2 QUEEN;2 ROOK;2 BISHOP
2 KNIGHT;2 PAWN;1 SPADE SUIT;WHITE HEART SUIT;1 DIAMOND SUIT;BLACK CLUB SUIT;WHITE SPADE SUIT
BLACK HEART SUIT;1 DIAMOND SUIT;WHITE CLUB SUIT;HOT SPRINGS;QUARTER NOTE;EIGHTH NOTE
BEAMED EIGHTH NOTES;1 SIXTEENTH NOTES;MUSIC FLAT SIGN;1 NATURAL SIGN;1 SHARP SIGN
WEST SYRIAC CROSS;EAST SYRIAC CROSS;UNIVERSAL RECYCLING SYMBOL
RECYCLING SYMBOL FOR TYPE-1 PLASTICS;3 TYPE-2 PLASTICS;3 TYPE-3 PLASTICS;3 TYPE-4 PLASTICS
3 TYPE-5 PLASTICS;3 TYPE-6 PLASTICS;3 TYPE-7 PLASTICS;3 GENERIC MATERIALS
BLACK UNIVERSAL RECYCLING SYMBOL;RECYCLED PAPER SYMBOL;PARTIALLY-RECYCLED PAPER SYMBOL
PERMANENT PAPER SIGN;WHEELCHAIR SYMBOL;DIE FACE-1;1 FACE-2;1 FACE-3;1 FACE-4;1 FACE-5;1 FACE-6
WHITE CIRCLE WITH DOT RIGHT;3 TWO DOTS;BLACK CIRCLE WITH WHITE DOT RIGHT;3 TWO WHITE DOTS
MONOGRAM FOR YANG;2 YIN;DIGRAM FOR GREATER YANG;2 LESSER YIN;3 YANG;2 GREATER YIN;WHITE FLAG
BLACK FLAG;HAMMER AND PICK;ANCHOR;CROSSED SWORDS;STAFF OF AESCULAPIUS;SCALES;ALEMBIC;FLOWER;GEAR
STAFF OF HERMES;ATOM SYMBOL;FLEUR-DE-LIS;OUTLINED WHITE STAR;THREE LINES CONVERGING RIGHT;3 LEFT
WARNING SIGN;HIGH VOLTAGE SIGN;DOUBLED FEMALE SIGN;1 MALE SIGN;INTERLOCKED FEMALE AND MALE SIGN
MALE AND FEMALE SIGN;1 WITH STROKE SIGN;3 AND MALE AND FEMALE SIGN;VERTICAL MALE WITH STROKE SIGN
HORIZONTAL MALE WITH STROKE SIGN;MEDIUM WHITE CIRCLE;1 BLACK CIRCLE;1 SMALL WHITE CIRCLE
MARRIAGE SYMBOL;DIVORCE SYMBOL;UNMARRIED PARTNERSHIP SYMBOL;COFFIN;FUNERAL URN;NEUTER;CERES;PALLAS
JUNO;VESTA;CHIRON;BLACK MOON LILITH;SEXTILE;SEMISEXTILE;QUINCUNX;SESQUIQUADRATE;SOCCER BALL
BASEBALL;SQUARED KEY;WHITE DRAUGHTS MAN;2 KING;BLACK DRAUGHTS MAN;2 KING;SNOWMAN WITHOUT SNOW
SUN BEHIND CLOUD;RAIN;BLACK SNOWMAN;THUNDER CLOUD AND RAIN;TURNED WHITE SHOGI PIECE
1 BLACK SHOGI PIECE;WHITE DIAMOND IN SQUARE;CROSSING LANES;DISABLED CAR;OPHIUCHUS;PICK;CAR SLIDING
HELMET WITH WHITE CROSS;CIRCLED CROSSING LANES;CHAINS;NO ENTRY;ALTERNATE ONE-WAY LEFT WAY TRAFFIC
BLACK TWO-WAY LEFT WAY TRAFFIC;WHITE TWO-WAY LEFT WAY TRAFFIC;BLACK LEFT LANE MERGE
WHITE LEFT LANE MERGE;DRIVE SLOW SIGN;HEAVY WHITE DOWN-POINTING TRIANGLE;LEFT CLOSED ENTRY
SQUARED SALTIRE;FALLING DIAGONAL IN WHITE CIRCLE IN BLACK SQUARE;BLACK TRUCK
RESTRICTED LEFT ENTRY-1;2 ENTRY-2;ASTRONOMICAL SYMBOL FOR URANUS
HEAVY CIRCLE WITH STROKE AND TWO DOTS ABOVE;PENTAGRAM;RIGHT-HANDED INTERLACED PENTAGRAM
LEFT-HANDED INTERLACED PENTAGRAM;INVERTED PENTAGRAM;BLACK CROSS ON SHIELD;SHINTO SHRINE;CHURCH
CASTLE;HISTORIC SITE;GEAR WITHOUT HUB;1 WITH HANDLES;MAP SYMBOL FOR LIGHTHOUSE;MOUNTAIN
UMBRELLA ON GROUND;FOUNTAIN;FLAG IN HOLE;FERRY;SAILBOAT;SQUARE FOUR CORNERS;SKIER;ICE SKATE
PERSON WITH BALL;TENT;JAPANESE BANK SYMBOL;HEADSTONE GRAVEYARD SYMBOL;FUEL PUMP
CUP ON BLACK SQUARE;WHITE FLAG WITH HORIZONTAL MIDDLE BLACK STRIPE;BLACK SAFETY SCISSORS
UPPER BLADE SCISSORS;BLACK SCISSORS;LOWER BLADE SCISSORS;WHITE SCISSORS;1 HEAVY CHECK MARK
TELEPHONE LOCATION SIGN;TAPE DRIVE;AIRPLANE;ENVELOPE;RAISED FIST;1 HAND;VICTORY HAND;WRITING HAND
LOWER RIGHT PENCIL;PENCIL;UPPER RIGHT PENCIL;WHITE NIB;BLACK NIB;CHECK MARK;HEAVY CHECK MARK
MULTIPLICATION X;HEAVY MULTIPLICATION X;BALLOT X;HEAVY BALLOT X;OUTLINED GREEK CROSS
HEAVY GREEK CROSS;OPEN CENTRE CROSS;HEAVY OPEN CENTRE CROSS;LATIN CROSS;SHADOWED WHITE LATIN CROSS
OUTLINED LATIN CROSS;MALTESE CROSS;STAR OF DAVID;FOUR TEARDROP-SPOKED ASTERISK
1 BALLOON-SPOKED ASTERISK;HEAVY FOUR BALLOON-SPOKED ASTERISK;FOUR CLUB-SPOKED ASTERISK
BLACK FOUR POINTED STAR;WHITE FOUR POINTED STAR;SPARKLES;STRESS OUTLINED WHITE STAR
CIRCLED WHITE STAR;OPEN CENTRE BLACK STAR;BLACK CENTRE WHITE STAR;OUTLINED BLACK STAR
HEAVY OUTLINED BLACK STAR;PINWHEEL STAR;SHADOWED WHITE STAR;HEAVY ASTERISK;OPEN CENTRE ASTERISK
EIGHT SPOKED ASTERISK;1 POINTED BLACK STAR;2 PINWHEEL STAR;SIX POINTED BLACK STAR
EIGHT POINTED RECTILINEAR BLACK STAR;HEAVY EIGHT POINTED RECTILINEAR BLACK STAR
TWELVE POINTED BLACK STAR;SIXTEEN POINTED ASTERISK;TEARDROP-SPOKED ASTERISK
OPEN CENTRE TEARDROP-SPOKED ASTERISK;HEAVY TEARDROP-SPOKED ASTERISK
SIX PETALLED BLACK AND WHITE FLORETTE;BLACK FLORETTE;WHITE FLORETTE
EIGHT PETALLED OUTLINED BLACK FLORETTE;CIRCLED OPEN CENTRE EIGHT POINTED STAR
HEAVY TEARDROP-SPOKED PINWHEEL ASTERISK;SNOWFLAKE;TIGHT TRIFOLIATE SNOWFLAKE
HEAVY CHEVRON SNOWFLAKE;SPARKLE;HEAVY SPARKLE;BALLOON-SPOKED ASTERISK
EIGHT TEARDROP-SPOKED PROPELLER ASTERISK;HEAVY EIGHT TEARDROP-SPOKED PROPELLER ASTERISK;CROSS MARK
SHADOWED WHITE CIRCLE;NEGATIVE SQUARED CROSS MARK;LOWER RIGHT DROP-SHADOWED WHITE SQUARE
UPPER RIGHT DROP-SHADOWED WHITE SQUARE;LOWER RIGHT SHADOWED WHITE SQUARE
UPPER RIGHT SHADOWED WHITE SQUARE;BLACK QUESTION MARK ORNAMENT;WHITE QUESTION MARK ORNAMENT
1 EXCLAMATION MARK ORNAMENT;BLACK DIAMOND MINUS WHITE X;HEAVY EXCLAMATION MARK SYMBOL
LIGHT VERTICAL BAR;MEDIUM VERTICAL BAR;HEAVY VERTICAL BAR
1 SINGLE TURNED COMMA QUOTATION MARK ORNAMENT;2 COMMA QUOTATION MARK ORNAMENT
1 DOUBLE TURNED COMMA QUOTATION MARK ORNAMENT;2 COMMA QUOTATION MARK ORNAMENT
1 LOW SINGLE COMMA QUOTATION MARK ORNAMENT;2 DOUBLE COMMA QUOTATION MARK ORNAMENT
CURVED STEM PARAGRAPH SIGN ORNAMENT;HEAVY EXCLAMATION MARK ORNAMENT
1 HEART EXCLAMATION MARK ORNAMENT;1 BLACK HEART;ROTATED HEAVY BLACK HEART BULLET;FLORAL HEART
ROTATED FLORAL HEART BULLET;MEDIUM LEFT PARENTHESIS ORNAMENT;1 RIGHT PARENTHESIS ORNAMENT
1 FLATTENED LEFT PARENTHESIS ORNAMENT;2 RIGHT PARENTHESIS ORNAMENT
1 LEFT-POINTING ANGLE BRACKET ORNAMENT;1 RIGHT-POINTING ANGLE BRACKET ORNAMENT
HEAVY LEFT-POINTING ANGLE QUOTATION MARK ORNAMENT;1 RIGHT-POINTING ANGLE QUOTATION MARK ORNAMENT
1 LEFT-POINTING ANGLE BRACKET ORNAMENT;1 RIGHT-POINTING ANGLE BRACKET ORNAMENT
LIGHT LEFT TORTOISE SHELL BRACKET ORNAMENT;1 RIGHT TORTOISE SHELL BRACKET ORNAMENT
MEDIUM LEFT CURLY BRACKET ORNAMENT;1 RIGHT CURLY BRACKET ORNAMENT
DINGBAT NEGATIVE CIRCLED DIGIT ONE;4 TWO;4 THREE;4 FOUR;4 FIVE;4 SIX;4 SEVEN;4 EIGHT;4 NINE
3 NUMBER TEN;1 CIRCLED SANS-SERIF DIGIT ONE;4 TWO;4 THREE;4 FOUR;4 FIVE;4 SIX;4 SEVEN;4 EIGHT
4 NINE;3 NUMBER TEN;1 NEGATIVE CIRCLED SANS-SERIF DIGIT ONE;5 TWO;5 THREE;5 FOUR;5 FIVE;5 SIX
5 SEVEN;5 EIGHT;5 NINE;4 NUMBER TEN;HEAVY WIDE-HEADED RIGHTWARDS ARROW;1 PLUS SIGN;1 MINUS SIGN
1 DIVISION SIGN;1 SOUTH EAST ARROW;1 RIGHTWARDS ARROW;1 NORTH EAST ARROW
DRAFTING POINT RIGHTWARDS ARROW;HEAVY ROUND-TIPPED RIGHTWARDS ARROW
TRIANGLE-HEADED RIGHTWARDS ARROW;HEAVY TRIANGLE-HEADED RIGHTWARDS ARROW
DASHED TRIANGLE-HEADED RIGHTWARDS ARROW;HEAVY DASHED TRIANGLE-HEADED RIGHTWARDS ARROW
BLACK RIGHTWARDS ARROW;THREE-D TOP-LIGHTED RIGHTWARDS ARROWHEAD
1 BOTTOM-LIGHTED RIGHTWARDS ARROWHEAD;BLACK RIGHTWARDS ARROWHEAD
HEAVY BLACK CURVED DOWNWARDS AND RIGHTWARDS ARROW;3 UPWARDS AND RIGHTWARDS ARROW
SQUAT BLACK RIGHTWARDS ARROW;HEAVY CONCAVE-POINTED BLACK RIGHTWARDS ARROW
RIGHT-SHADED WHITE RIGHTWARDS ARROW;LEFT-SHADED WHITE RIGHTWARDS ARROW
BACK-TILTED SHADOWED WHITE RIGHTWARDS ARROW;FRONT-TILTED SHADOWED WHITE RIGHTWARDS ARROW
HEAVY LOWER RIGHT-SHADOWED WHITE RIGHTWARDS ARROW;1 UPPER RIGHT-SHADOWED WHITE RIGHTWARDS ARROW
NOTCHED LOWER RIGHT-SHADOWED WHITE RIGHTWARDS ARROW;CURLY LOOP
NOTCHED UPPER RIGHT-SHADOWED WHITE RIGHTWARDS ARROW;CIRCLED HEAVY WHITE RIGHTWARDS ARROW
WHITE-FEATHERED RIGHTWARDS ARROW;BLACK-FEATHERED SOUTH EAST ARROW;1 RIGHTWARDS ARROW
1 NORTH EAST ARROW;HEAVY BLACK-FEATHERED SOUTH EAST ARROW;2 RIGHTWARDS ARROW;2 NORTH EAST ARROW
TEARDROP-BARBED RIGHTWARDS ARROW;HEAVY TEARDROP-SHANKED RIGHTWARDS ARROW
WEDGE-TAILED RIGHTWARDS ARROW;HEAVY WEDGE-TAILED RIGHTWARDS ARROW;OPEN-OUTLINED RIGHTWARDS ARROW
DOUBLE CURLY LOOP;2B00=NORTH EAST WHITE ARROW;1 WEST WHITE ARROW;SOUTH EAST WHITE ARROW
1 WEST WHITE ARROW;LEFT RIGHT WHITE ARROW;LEFTWARDS BLACK ARROW;UPWARDS BLACK ARROW
DOWNWARDS BLACK ARROW;NORTH EAST BLACK ARROW;1 WEST BLACK ARROW;SOUTH EAST BLACK ARROW
1 WEST BLACK ARROW;LEFT RIGHT BLACK ARROW;UP DOWN BLACK ARROW;RIGHTWARDS ARROW WITH TIP DOWNWARDS
4 UPWARDS;LEFTWARDS ARROW WITH TIP DOWNWARDS;4 UPWARDS;SQUARE WITH TOP HALF BLACK
2 BOTTOM HALF BLACK;2 UPPER RIGHT DIAGONAL HALF BLACK;2 LOWER LEFT DIAGONAL HALF BLACK
DIAMOND WITH LEFT HALF BLACK;2 RIGHT HALF BLACK;2 TOP HALF BLACK;2 BOTTOM HALF BLACK;DOTTED SQUARE
BLACK LARGE SQUARE;WHITE LARGE SQUARE;BLACK VERY SMALL SQUARE;WHITE VERY SMALL SQUARE
BLACK PENTAGON;WHITE PENTAGON;1 HEXAGON;BLACK HEXAGON;HORIZONTAL BLACK HEXAGON;BLACK LARGE CIRCLE
1 MEDIUM DIAMOND;WHITE MEDIUM DIAMOND;BLACK MEDIUM LOZENGE;WHITE MEDIUM LOZENGE
BLACK SMALL DIAMOND;2 LOZENGE;WHITE SMALL LOZENGE;BLACK HORIZONTAL ELLIPSE
WHITE HORIZONTAL ELLIPSE;BLACK VERTICAL ELLIPSE;WHITE VERTICAL ELLIPSE
LEFT ARROW WITH SMALL CIRCLE;THREE LEFTWARDS ARROWS;LEFT ARROW WITH CIRCLED PLUS
LONG LEFTWARDS SQUIGGLE ARROW;LEFTWARDS TWO-HEADED ARROW WITH VERTICAL STROKE
4 DOUBLE VERTICAL STROKE;3 FROM BAR;2 TRIPLE DASH ARROW;1 ARROW WITH DOTTED STEM
3 TAIL WITH VERTICAL STROKE;5 DOUBLE VERTICAL STROKE;1 TWO-HEADED ARROW WITH TAIL
5 WITH VERTICAL STROKE;6 DOUBLE VERTICAL STROKE;1 ARROW THROUGH X
WAVE ARROW POINTING DIRECTLY LEFT;EQUALS SIGN ABOVE LEFTWARDS ARROW
REVERSE TILDE OPERATOR ABOVE LEFTWARDS ARROW;LEFTWARDS ARROW ABOVE REVERSE ALMOST EQUAL TO
RIGHTWARDS ARROW THROUGH GREATER-THAN;3 SUPERSET;LEFTWARDS QUADRUPLE ARROW
RIGHTWARDS QUADRUPLE ARROW;REVERSE TILDE OPERATOR ABOVE RIGHTWARDS ARROW
RIGHTWARDS ARROW ABOVE REVERSE ALMOST EQUAL TO;TILDE OPERATOR ABOVE LEFTWARDS ARROW
LEFTWARDS ARROW ABOVE ALMOST EQUAL TO;3 REVERSE TILDE OPERATOR
RIGHTWARDS ARROW ABOVE REVERSE TILDE OPERATOR;DOWNWARDS TRIANGLE-HEADED ZIGZAG ARROW
SHORT SLANTED NORTH ARROW;1 BACKSLANTED SOUTH ARROW;WHITE MEDIUM STAR;BLACK SMALL STAR
WHITE SMALL STAR;BLACK RIGHT-POINTING PENTAGON;WHITE RIGHT-POINTING PENTAGON;HEAVY LARGE CIRCLE
1 OVAL WITH OVAL INSIDE;1 CIRCLE WITH CIRCLE INSIDE;2 ;1 CIRCLED SALTIRE;3000=IDEOGRAPHIC SPACE
1 COMMA;1 FULL STOP;DITTO MARK;JAPANESE INDUSTRIAL STANDARD SYMBOL;IDEOGRAPHIC ITERATION MARK
1 CLOSING MARK;1 NUMBER ZERO;LEFT ANGLE BRACKET;RIGHT ANGLE BRACKET;LEFT DOUBLE ANGLE BRACKET
RIGHT DOUBLE ANGLE BRACKET;LEFT CORNER BRACKET;RIGHT CORNER BRACKET;LEFT WHITE CORNER BRACKET
RIGHT WHITE CORNER BRACKET;LEFT BLACK LENTICULAR BRACKET;RIGHT BLACK LENTICULAR BRACKET
POSTAL MARK;GETA MARK;LEFT TORTOISE SHELL BRACKET;RIGHT TORTOISE SHELL BRACKET
LEFT WHITE LENTICULAR BRACKET;RIGHT WHITE LENTICULAR BRACKET;LEFT WHITE TORTOISE SHELL BRACKET
RIGHT WHITE TORTOISE SHELL BRACKET;LEFT WHITE SQUARE BRACKET;RIGHT WHITE SQUARE BRACKET;WAVE DASH
REVERSED DOUBLE PRIME QUOTATION MARK;DOUBLE PRIME QUOTATION MARK;LOW DOUBLE PRIME QUOTATION MARK
POSTAL MARK FACE;3041=HIRAGANA LETTER SMALL A;2 A;2 SMALL I;2 I;2 SMALL U;2 U;2 SMALL E;2 E
2 SMALL O;2 O;2 KA;2 GA;2 KI;2 GI;2 KU;2 GU;2 KE;2 GE;2 KO;2 GO;2 SA;2 ZA;2 SI;2 ZI;2 SU;2 ZU;2 SE
2 ZE;2 SO;2 ZO;2 TA;2 DA;2 TI;2 DI;2 SMALL TU;2 TU;2 DU;2 TE;2 DE;2 TO;2 DO;2 NA;2 NI;2 NU;2 NE
2 NO;2 HA;2 BA;2 PA;2 HI;2 BI;2 PI;2 HU;2 BU;2 PU;2 HE;2 BE;2 PE;2 HO;2 BO;2 PO;2 MA;2 MI;2 MU
2 ME;2 MO;2 SMALL YA;2 YA;2 SMALL YU;2 YU;2 SMALL YO;2 YO;2 RA;2 RI;2 RU;2 RE;2 RO;2 SMALL WA;2 WA
2 WI;2 WE;2 WO;2 N;2 VU;2 SMALL KA;3 KE;3099=COMBINING KATAKANA-HIRAGANA VOICED SOUND MARK
2 SEMI-VOICED SOUND MARK;KATAKANA-HIRAGANA VOICED SOUND MARK;1 SEMI-VOICED SOUND MARK
HIRAGANA ITERATION MARK;1 VOICED ITERATION MARK;1 DIGRAPH YORI;KATAKANA-HIRAGANA DOUBLE HYPHEN
KATAKANA LETTER SMALL A;2 A;2 SMALL I;2 I;2 SMALL U;2 U;2 SMALL E;2 E;2 SMALL O;2 O;2 KA;2 GA;2 KI
2 GI;2 KU;2 GU;2 KE;2 GE;2 KO;2 GO;2 SA;2 ZA;2 SI;2 ZI;2 SU;2 ZU;2 SE;2 ZE;2 SO;2 ZO;2 TA;2 DA
2 TI;2 DI;2 SMALL TU;2 TU;2 DU;2 TE;2 DE;2 TO;2 DO;2 NA;2 NI;2 NU;2 NE;2 NO;2 HA;2 BA;2 PA;2 HI
2 BI;2 PI;2 HU;2 BU;2 PU;2 HE;2 BE;2 PE;2 HO;2 BO;2 PO;2 MA;2 MI;2 MU;2 ME;2 MO;2 SMALL YA;2 YA
2 SMALL YU;2 YU;2 SMALL YO;2 YO;2 RA;2 RI;2 RU;2 RE;2 RO;2 SMALL WA;2 WA;2 WI;2 WE;2 WO;2 N;2 VU
2 SMALL KA;3 KE;2 VA;2 VI;2 VE;2 VO;1 MIDDLE DOT;KATAKANA-HIRAGANA PROLONGED SOUND MARK
KATAKANA ITERATION MARK;1 VOICED ITERATION MARK;1 DIGRAPH KOTO;FB00=LATIN SMALL LIGATURE FF;3 FI
3 FL;3 FFI;3 FFL;3 LONG S T;3 ST;FE0E=VARIATION SELECTOR-15;1 SELECTOR-16
FEFF=ZERO WIDTH NO-BREAK SPACE;FF01=FULLWIDTH EXCLAMATION MARK;1 QUOTATION MARK;1 NUMBER SIGN
1 DOLLAR SIGN;1 PERCENT SIGN;1 AMPERSAND;1 APOSTROPHE;1 LEFT PARENTHESIS;1 RIGHT PARENTHESIS
1 ASTERISK;1 PLUS SIGN;1 COMMA;1 HYPHEN-MINUS;1 FULL STOP;1 SOLIDUS;1 DIGIT ZERO;2 ONE;2 TWO
2 THREE;2 FOUR;2 FIVE;2 SIX;2 SEVEN;2 EIGHT;2 NINE;1 COLON;1 SEMICOLON;1 LESS-THAN SIGN
1 EQUALS SIGN;1 GREATER-THAN SIGN;1 QUESTION MARK;1 COMMERCIAL AT;1 LATIN CAPITAL LETTER A;4 B;4 C
4 D;4 E;4 F;4 G;4 H;4 I;4 J;4 K;4 L;4 M;4 N;4 O;4 P;4 Q;4 R;4 S;4 T;4 U;4 V;4 W;4 X;4 Y;4 Z
1 LEFT SQUARE BRACKET;1 REVERSE SOLIDUS;1 RIGHT SQUARE BRACKET;1 CIRCUMFLEX ACCENT;1 LOW LINE
1 GRAVE ACCENT;1 LATIN SMALL LETTER A;4 B;4 C;4 D;4 E;4 F;4 G;4 H;4 I;4 J;4 K;4 L;4 M;4 N;4 O;4 P
4 Q;4 R;4 S;4 T;4 U;4 V;4 W;4 X;4 Y;4 Z;1 LEFT CURLY BRACKET;1 VERTICAL LINE;1 RIGHT CURLY BRACKET
1 TILDE;FFFC=OBJECT REPLACEMENT CHARACTER;REPLACEMENT CHARACTER;1D400=MATHEMATICAL BOLD CAPITAL A
3 B;3 C;3 D;3 E;3 F;3 G;3 H;3 I;3 J;3 K;3 L;3 M;3 N;3 O;3 P;3 Q;3 R;3 S;3 T;3 U;3 V;3 W;3 X;3 Y
3 Z;2 SMALL A;3 B;3 C;3 D;3 E;3 F;3 G;3 H;3 I;3 J;3 K;3 L;3 M;3 N;3 O;3 P;3 Q;3 R;3 S;3 T;3 U;3 V
3 W;3 X;3 Y;3 Z;1D7CE=2 DIGIT ZERO;3 ONE;3 TWO;3 THREE;3 FOUR;3 FIVE;3 SIX;3 SEVEN;3 EIGHT;3 NINE
1 DOUBLE-STRUCK DIGIT ZERO;3 ONE;3 TWO;3 THREE;3 FOUR;3 FIVE;3 SIX;3 SEVEN;3 EIGHT;3 NINE
1 SANS-SERIF DIGIT ZERO;3 ONE;3 TWO;3 THREE;3 FOUR;3 FIVE;3 SIX;3 SEVEN;3 EIGHT;3 NINE
2 BOLD DIGIT ZERO;4 ONE;4 TWO;4 THREE;4 FOUR;4 FIVE;4 SIX;4 SEVEN;4 EIGHT;4 NINE
1 MONOSPACE DIGIT ZERO;3 ONE;3 TWO;3 THREE;3 FOUR;3 FIVE;3 SIX;3 SEVEN;3 EIGHT;3 NINE
1F1E6=REGIONAL INDICATOR SYMBOL LETTER A;4 B;4 C;4 D;4 E;4 F;4 G;4 H;4 I;4 J;4 K;4 L;4 M;4 N;4 O
4 P;4 Q;4 R;4 S;4 T;4 U;4 V;4 W;4 X;4 Y;4 Z;1F300=CYCLONE;FOGGY;CLOSED UMBRELLA;NIGHT WITH STARS
SUNRISE OVER MOUNTAINS;1 ;CITYSCAPE AT DUSK;SUNSET OVER BUILDINGS;RAINBOW;BRIDGE AT NIGHT
WATER WAVE;VOLCANO;MILKY WAY;EARTH GLOBE EUROPE-AFRICA;2 AMERICAS;2 ASIA-AUSTRALIA
GLOBE WITH MERIDIANS;NEW MOON SYMBOL;WAXING CRESCENT MOON SYMBOL;FIRST QUARTER MOON SYMBOL
WAXING GIBBOUS MOON SYMBOL;FULL MOON SYMBOL;WANING GIBBOUS MOON SYMBOL;LAST QUARTER MOON SYMBOL
WANING CRESCENT MOON SYMBOL;CRESCENT MOON;NEW MOON WITH FACE;FIRST QUARTER MOON WITH FACE
LAST QUARTER MOON WITH FACE;FULL MOON WITH FACE;SUN WITH FACE;GLOWING STAR;SHOOTING STAR
THERMOMETER;BLACK DROPLET;WHITE SUN;2 WITH SMALL CLOUD;2 BEHIND CLOUD;4 WITH RAIN;CLOUD WITH RAIN
2 SNOW;2 LIGHTNING;2 TORNADO;FOG;WIND BLOWING FACE;HOT DOG;TACO;BURRITO;CHESTNUT;SEEDLING
EVERGREEN TREE;DECIDUOUS TREE;PALM TREE;CACTUS;HOT PEPPER;TULIP;CHERRY BLOSSOM;ROSE;HIBISCUS
SUNFLOWER;BLOSSOM;EAR OF MAIZE;2 RICE;HERB;FOUR LEAF CLOVER;MAPLE LEAF;FALLEN LEAF
LEAF FLUTTERING IN WIND;MUSHROOM;TOMATO;AUBERGINE;GRAPES;MELON;WATERMELON;TANGERINE;LEMON;BANANA
PINEAPPLE;RED APPLE;GREEN APPLE;PEAR;PEACH;CHERRIES;STRAWBERRY;HAMBURGER;SLICE OF PIZZA
MEAT ON BONE;POULTRY LEG;RICE CRACKER;1 BALL;COOKED RICE;CURRY AND RICE;STEAMING BOWL;SPAGHETTI
BREAD;FRENCH FRIES;ROASTED SWEET POTATO;DANGO;ODEN;SUSHI;FRIED SHRIMP;FISH CAKE WITH SWIRL DESIGN
SOFT ICE CREAM;SHAVED ICE;ICE CREAM;DOUGHNUT;COOKIE;CHOCOLATE BAR;CANDY;LOLLIPOP;CUSTARD;HONEY POT
SHORTCAKE;BENTO BOX;POT OF FOOD;COOKING;FORK AND KNIFE;TEACUP WITHOUT HANDLE;SAKE BOTTLE AND CUP
WINE GLASS;COCKTAIL GLASS;TROPICAL DRINK;BEER MUG;CLINKING BEER MUGS;BABY BOTTLE
FORK AND KNIFE WITH PLATE;BOTTLE WITH POPPING CORK;POPCORN;RIBBON;WRAPPED PRESENT;BIRTHDAY CAKE
JACK-O-LANTERN;CHRISTMAS TREE;FATHER CHRISTMAS;FIREWORKS;FIREWORK SPARKLER;BALLOON;PARTY POPPER
CONFETTI BALL;TANABATA TREE;CROSSED FLAGS;PINE DECORATION;JAPANESE DOLLS;CARP STREAMER;WIND CHIME
MOON VIEWING CEREMONY;SCHOOL SATCHEL;GRADUATION CAP;HEART WITH TIP ON THE LEFT;BOUQUET OF FLOWERS
MILITARY MEDAL;REMINDER RIBBON;MUSICAL KEYBOARD WITH JACKS;STUDIO MICROPHONE;LEVEL SLIDER
CONTROL KNOBS;BEAMED ASCENDING MUSICAL NOTES;1 DESCENDING MUSICAL NOTES;FILM FRAMES
ADMISSION TICKETS;CAROUSEL HORSE;FERRIS WHEEL;ROLLER COASTER;FISHING POLE AND FISH;MICROPHONE
MOVIE CAMERA;CINEMA;HEADPHONE;ARTIST PALETTE;TOP HAT;CIRCUS TENT;TICKET;CLAPPER BOARD
PERFORMING ARTS;VIDEO GAME;DIRECT HIT;SLOT MACHINE;BILLIARDS;GAME DIE;BOWLING;FLOWER PLAYING CARDS
MUSICAL NOTE;MULTIPLE MUSICAL NOTES;SAXOPHONE;GUITAR;MUSICAL KEYBOARD;TRUMPET;VIOLIN;MUSICAL SCORE
RUNNING SHIRT WITH SASH;TENNIS RACQUET AND BALL;SKI AND SKI BOOT;BASKETBALL AND HOOP
CHEQUERED FLAG;SNOWBOARDER;RUNNER;SURFER;SPORTS MEDAL;TROPHY;HORSE RACING;AMERICAN FOOTBALL
RUGBY FOOTBALL;SWIMMER;WEIGHT LIFTER;GOLFER;RACING MOTORCYCLE;1 CAR;CRICKET BAT AND BALL
VOLLEYBALL;FIELD HOCKEY STICK AND BALL;ICE HOCKEY STICK AND PUCK;TABLE TENNIS PADDLE AND BALL
SNOW CAPPED MOUNTAIN;CAMPING;BEACH WITH UMBRELLA;BUILDING CONSTRUCTION;HOUSE BUILDINGS;CITYSCAPE
DERELICT HOUSE BUILDING;CLASSICAL BUILDING;DESERT;1 ISLAND;NATIONAL PARK;STADIUM;HOUSE BUILDING
1 WITH GARDEN;OFFICE BUILDING;JAPANESE POST OFFICE;EUROPEAN POST OFFICE;HOSPITAL;BANK
AUTOMATED TELLER MACHINE;HOTEL;LOVE HOTEL;CONVENIENCE STORE;SCHOOL;DEPARTMENT STORE;FACTORY
IZAKAYA LANTERN;JAPANESE CASTLE;EUROPEAN CASTLE;WHITE PENNANT;BLACK PENNANT;WAVING WHITE FLAG
1 BLACK FLAG;ROSETTE;BLACK ROSETTE;LABEL;BADMINTON RACQUET AND SHUTTLECOCK;BOW AND ARROW;AMPHORA
EMOJI MODIFIER FITZPATRICK TYPE-1-2;3 TYPE-3;3 TYPE-4;3 TYPE-5;3 TYPE-6;RAT;MOUSE;OX;WATER BUFFALO
COW;TIGER;LEOPARD;RABBIT;CAT;DRAGON;CROCODILE;WHALE;SNAIL;SNAKE;HORSE;RAM;GOAT;SHEEP;MONKEY
ROOSTER;CHICKEN;DOG;PIG;BOAR;ELEPHANT;OCTOPUS;SPIRAL SHELL;BUG;ANT;HONEYBEE;LADY BEETLE;FISH
TROPICAL FISH;BLOWFISH;TURTLE;HATCHING CHICK;BABY CHICK;FRONT-FACING BABY CHICK;BIRD;PENGUIN;KOALA
POODLE;DROMEDARY CAMEL;BACTRIAN CAMEL;DOLPHIN;MOUSE FACE;COW FACE;TIGER FACE;RABBIT FACE;CAT FACE
DRAGON FACE;SPOUTING WHALE;HORSE FACE;MONKEY FACE;DOG FACE;PIG FACE;FROG FACE;HAMSTER FACE
WOLF FACE;BEAR FACE;PANDA FACE;PIG NOSE;PAW PRINTS;CHIPMUNK;EYES;EYE;EAR;NOSE;MOUTH;TONGUE
WHITE UP POINTING BACKHAND INDEX;1 DOWN POINTING BACKHAND INDEX;1 LEFT POINTING BACKHAND INDEX
1 RIGHT POINTING BACKHAND INDEX;FISTED HAND SIGN;WAVING HAND SIGN;OK HAND SIGN;THUMBS UP SIGN
1 DOWN SIGN;CLAPPING HANDS SIGN;OPEN HANDS SIGN;CROWN;WOMANS HAT;EYEGLASSES;NECKTIE;T-SHIRT;JEANS
DRESS;KIMONO;BIKINI;WOMANS CLOTHES;PURSE;HANDBAG;POUCH;MANS SHOE;ATHLETIC SHOE;HIGH-HEELED SHOE
WOMANS SANDAL;1 BOOTS;FOOTPRINTS;BUST IN SILHOUETTE;BUSTS IN SILHOUETTE;BOY;GIRL;MAN;WOMAN;FAMILY
MAN AND WOMAN HOLDING HANDS;TWO MEN HOLDING HANDS;1 WOMEN HOLDING HANDS;POLICE OFFICER
WOMAN WITH BUNNY EARS;BRIDE WITH VEIL;PERSON WITH BLOND HAIR;MAN WITH GUA PI MAO;2 TURBAN
OLDER MAN;1 WOMAN;BABY;CONSTRUCTION WORKER;PRINCESS;JAPANESE OGRE;1 GOBLIN;GHOST;BABY ANGEL
EXTRATERRESTRIAL ALIEN;ALIEN MONSTER;IMP;SKULL;INFORMATION DESK PERSON;GUARDSMAN;DANCER;LIPSTICK
NAIL POLISH;FACE MASSAGE;HAIRCUT;BARBER POLE;SYRINGE;PILL;KISS MARK;LOVE LETTER;RING;GEM STONE
KISS;BOUQUET;COUPLE WITH HEART;WEDDING;BEATING HEART;BROKEN HEART;TWO HEARTS;SPARKLING HEART
GROWING HEART;HEART WITH ARROW;BLUE HEART;GREEN HEART;YELLOW HEART;PURPLE HEART;HEART WITH RIBBON
REVOLVING HEARTS;HEART DECORATION;DIAMOND SHAPE WITH A DOT INSIDE;ELECTRIC LIGHT BULB;ANGER SYMBOL
BOMB;SLEEPING SYMBOL;COLLISION SYMBOL;SPLASHING SWEAT SYMBOL;DROPLET;DASH SYMBOL;PILE OF POO
FLEXED BICEPS;DIZZY SYMBOL;SPEECH BALLOON;THOUGHT BALLOON;WHITE FLOWER;HUNDRED POINTS SYMBOL
MONEY BAG;CURRENCY EXCHANGE;HEAVY DOLLAR SIGN;CREDIT CARD;BANKNOTE WITH YEN SIGN;2 DOLLAR SIGN
2 EURO SIGN;2 POUND SIGN;MONEY WITH WINGS;CHART WITH UPWARDS TREND AND YEN SIGN;SEAT
PERSONAL COMPUTER;BRIEFCASE;MINIDISC;FLOPPY DISK;OPTICAL DISC;DVD;FILE FOLDER;OPEN FILE FOLDER
PAGE WITH CURL;1 FACING UP;CALENDAR;TEAR-OFF CALENDAR;CARD INDEX;CHART WITH UPWARDS TREND
2 DOWNWARDS TREND;BAR CHART;CLIPBOARD;PUSHPIN;ROUND PUSHPIN;PAPERCLIP;STRAIGHT RULER
TRIANGULAR RULER;BOOKMARK TABS;LEDGER;NOTEBOOK;1 WITH DECORATIVE COVER;CLOSED BOOK;OPEN BOOK
GREEN BOOK;BLUE BOOK;ORANGE BOOK;BOOKS;NAME BADGE;SCROLL;MEMO;TELEPHONE RECEIVER;PAGER;FAX MACHINE
SATELLITE ANTENNA;PUBLIC ADDRESS LOUDSPEAKER;CHEERING MEGAPHONE;OUTBOX TRAY;INBOX TRAY;PACKAGE
E-MAIL SYMBOL;INCOMING ENVELOPE;ENVELOPE WITH DOWNWARDS ARROW ABOVE
CLOSED MAILBOX WITH LOWERED FLAG;3 RAISED FLAG;OPEN MAILBOX WITH RAISED FLAG;3 LOWERED FLAG
POSTBOX;POSTAL HORN;NEWSPAPER;MOBILE PHONE;2 WITH RIGHTWARDS ARROW AT LEFT;VIBRATION MODE
MOBILE PHONE OFF;NO MOBILE PHONES;ANTENNA WITH BARS;CAMERA;1 WITH FLASH;VIDEO CAMERA;TELEVISION
RADIO;VIDEOCASSETTE;FILM PROJECTOR;PORTABLE STEREO;PRAYER BEADS;TWISTED RIGHTWARDS ARROWS
CLOCKWISE RIGHTWARDS AND LEFTWARDS OPEN CIRCLE ARROWS;7 WITH CIRCLED ONE OVERLAY
1 DOWNWARDS AND UPWARDS OPEN CIRCLE ARROWS;ANTICLOCKWISE DOWNWARDS AND UPWARDS OPEN CIRCLE ARROWS
LOW BRIGHTNESS SYMBOL;HIGH BRIGHTNESS SYMBOL;SPEAKER WITH CANCELLATION STROKE;1 
1 WITH ONE SOUND WAVE;2 THREE SOUND WAVES;BATTERY;ELECTRIC PLUG;LEFT-POINTING MAGNIFYING GLASS
RIGHT-POINTING MAGNIFYING GLASS;LOCK WITH INK PEN;CLOSED LOCK WITH KEY;KEY;LOCK;OPEN LOCK;BELL
1 WITH CANCELLATION STROKE;BOOKMARK;LINK SYMBOL;RADIO BUTTON;BACK WITH LEFTWARDS ARROW ABOVE
END WITH LEFTWARDS ARROW ABOVE;ON WITH EXCLAMATION MARK WITH LEFT RIGHT ARROW ABOVE
SOON WITH RIGHTWARDS ARROW ABOVE;TOP WITH UPWARDS ARROW ABOVE;NO ONE UNDER EIGHTEEN SYMBOL
KEYCAP TEN;INPUT SYMBOL FOR LATIN CAPITAL LETTERS;4 SMALL LETTERS;3 NUMBERS;3 SYMBOLS
3 LATIN LETTERS;FIRE;ELECTRIC TORCH;WRENCH;HAMMER;NUT AND BOLT;HOCHO;PISTOL;MICROSCOPE;TELESCOPE
CRYSTAL BALL;SIX POINTED STAR WITH MIDDLE DOT;JAPANESE SYMBOL FOR BEGINNER;TRIDENT EMBLEM
BLACK SQUARE BUTTON;WHITE SQUARE BUTTON;LARGE RED CIRCLE;1 BLUE CIRCLE;1 ORANGE DIAMOND
1 BLUE DIAMOND;SMALL ORANGE DIAMOND;1 BLUE DIAMOND;UP-POINTING RED TRIANGLE
DOWN-POINTING RED TRIANGLE;UP-POINTING SMALL RED TRIANGLE;DOWN-POINTING SMALL RED TRIANGLE
LOWER RIGHT SHADOWED WHITE CIRCLE;UPPER RIGHT SHADOWED WHITE CIRCLE;CIRCLED CROSS POMMEE
CROSS POMMEE WITH HALF-CIRCLE BELOW;2 ;NOTCHED LEFT SEMICIRCLE WITH THREE DOTS
1 RIGHT SEMICIRCLE WITH THREE DOTS;SYMBOL FOR MARKS CHAPTER;WHITE LATIN CROSS;HEAVY LATIN CROSS
CELTIC CROSS;OM SYMBOL;DOVE OF PEACE;KAABA;MOSQUE;SYNAGOGUE;MENORAH WITH NINE BRANCHES
BOWL OF HYGIEIA;CLOCK FACE ONE OCLOCK;2 TWO OCLOCK;2 THREE OCLOCK;2 FOUR OCLOCK;2 FIVE OCLOCK
2 SIX OCLOCK;2 SEVEN OCLOCK;2 EIGHT OCLOCK;2 NINE OCLOCK;2 TEN OCLOCK;2 ELEVEN OCLOCK
2 TWELVE OCLOCK;2 ONE-THIRTY;2 TWO-THIRTY;2 THREE-THIRTY;2 FOUR-THIRTY;2 FIVE-THIRTY;2 SIX-THIRTY
2 SEVEN-THIRTY;2 EIGHT-THIRTY;2 NINE-THIRTY;2 TEN-THIRTY;2 ELEVEN-THIRTY;2 TWELVE-THIRTY
RIGHT SPEAKER;2 WITH ONE SOUND WAVE;3 THREE SOUND WAVES;BULLHORN;1 WITH SOUND WAVES;RINGING BELL
BOOK;CANDLE;MANTELPIECE CLOCK;BLACK SKULL AND CROSSBONES;NO PIRACY;HOLE
MAN IN BUSINESS SUIT LEVITATING;SLEUTH OR SPY;DARK SUNGLASSES;SPIDER;1 WEB;JOYSTICK;MAN DANCING
LEFT HAND TELEPHONE RECEIVER;TELEPHONE RECEIVER WITH PAGE;RIGHT HAND TELEPHONE RECEIVER
WHITE TOUCHTONE TELEPHONE;BLACK TOUCHTONE TELEPHONE;TELEPHONE ON TOP OF MODEM
CLAMSHELL MOBILE PHONE;BACK OF ENVELOPE;STAMPED ENVELOPE;ENVELOPE WITH LIGHTNING;FLYING ENVELOPE
PEN OVER STAMPED ENVELOPE;LINKED PAPERCLIPS;BLACK PUSHPIN;LOWER LEFT PENCIL;2 BALLPOINT PEN
2 FOUNTAIN PEN;2 PAINTBRUSH;2 CRAYON;LEFT WRITING HAND;TURNED OK HAND SIGN
RAISED HAND WITH FINGERS SPLAYED;REVERSED RAISED HAND WITH FINGERS SPLAYED;1 THUMBS UP SIGN
2 DOWN SIGN;1 VICTORY HAND;1 HAND WITH MIDDLE FINGER EXTENDED
RAISED HAND WITH PART BETWEEN MIDDLE AND RING FINGERS;WHITE DOWN POINTING LEFT HAND INDEX
SIDEWAYS WHITE LEFT POINTING INDEX;2 RIGHT POINTING INDEX;1 BLACK LEFT POINTING INDEX
2 RIGHT POINTING INDEX;BLACK LEFT POINTING BACKHAND INDEX;1 RIGHT POINTING BACKHAND INDEX
SIDEWAYS WHITE UP POINTING INDEX;2 DOWN POINTING INDEX;1 BLACK UP POINTING INDEX
2 DOWN POINTING INDEX;BLACK UP POINTING BACKHAND INDEX;1 DOWN POINTING BACKHAND INDEX;1 HEART
DESKTOP COMPUTER;KEYBOARD AND MOUSE;THREE NETWORKED COMPUTERS;PRINTER;POCKET CALCULATOR
BLACK HARD SHELL FLOPPY DISK;WHITE HARD SHELL FLOPPY DISK;SOFT SHELL FLOPPY DISK;TAPE CARTRIDGE
WIRED KEYBOARD;ONE BUTTON MOUSE;TWO BUTTON MOUSE;THREE BUTTON MOUSE;TRACKBALL
OLD PERSONAL COMPUTER;HARD DISK;SCREEN;PRINTER ICON;FAX ICON;OPTICAL DISC ICON;DOCUMENT WITH TEXT
3 AND PICTURE;2 PICTURE;FRAME WITH PICTURE;2 TILES;2 AN X;BLACK FOLDER;FOLDER;OPEN FOLDER
CARD INDEX DIVIDERS;1 FILE BOX;FILE CABINET;EMPTY NOTE;2 PAGE;2 PAD;NOTE;1 PAGE;1 PAD
EMPTY DOCUMENT;1 PAGE;1 PAGES;DOCUMENT;PAGE;PAGES;WASTEBASKET;SPIRAL NOTE PAD;1 CALENDAR PAD
DESKTOP WINDOW;MINIMIZE;MAXIMIZE;OVERLAP;CLOCKWISE RIGHT AND LEFT SEMICIRCLE ARROWS;CANCELLATION X
INCREASE FONT SIZE SYMBOL;DECREASE FONT SIZE SYMBOL;COMPRESSION;OLD KEY;ROLLED-UP NEWSPAPER
PAGE WITH CIRCLED TEXT;STOCK CHART;DAGGER KNIFE;LIPS;SPEAKING HEAD IN SILHOUETTE;THREE RAYS ABOVE
2 BELOW;2 LEFT;2 RIGHT;LEFT SPEECH BUBBLE;RIGHT SPEECH BUBBLE;TWO SPEECH BUBBLES
THREE SPEECH BUBBLES;LEFT THOUGHT BUBBLE;RIGHT THOUGHT BUBBLE;LEFT ANGER BUBBLE;RIGHT ANGER BUBBLE
MOOD BUBBLE;LIGHTNING MOOD BUBBLE;2 ;BALLOT BOX WITH BALLOT;1 SCRIPT X;1 BOX WITH SCRIPT X
1 BOLD SCRIPT X;1 BOX WITH BOLD SCRIPT X;LIGHT CHECK MARK;BALLOT BOX WITH BOLD CHECK;WORLD MAP
MOUNT FUJI;TOKYO TOWER;STATUE OF LIBERTY;SILHOUETTE OF JAPAN;MOYAI;GRINNING FACE
2 WITH SMILING EYES;FACE WITH TEARS OF JOY;SMILING FACE WITH OPEN MOUTH;5 AND SMILING EYES
6 COLD SWEAT;6 TIGHTLY-CLOSED EYES;3 HALO;3 HORNS;WINKING FACE;SMILING FACE WITH SMILING EYES
FACE SAVOURING DELICIOUS FOOD;RELIEVED FACE;SMILING FACE WITH HEART-SHAPED EYES;3 SUNGLASSES
SMIRKING FACE;NEUTRAL FACE;EXPRESSIONLESS FACE;UNAMUSED FACE;FACE WITH COLD SWEAT;PENSIVE FACE
CONFUSED FACE;CONFOUNDED FACE;KISSING FACE;FACE THROWING A KISS;KISSING FACE WITH SMILING EYES
3 CLOSED EYES;FACE WITH STUCK-OUT TONGUE;4 AND WINKING EYE;5 TIGHTLY-CLOSED EYES;DISAPPOINTED FACE
WORRIED FACE;ANGRY FACE;POUTING FACE;CRYING FACE;PERSEVERING FACE;FACE WITH LOOK OF TRIUMPH
DISAPPOINTED BUT RELIEVED FACE;FROWNING FACE WITH OPEN MOUTH;ANGUISHED FACE;FEARFUL FACE
WEARY FACE;SLEEPY FACE;TIRED FACE;GRIMACING FACE;LOUDLY CRYING FACE;FACE WITH OPEN MOUTH
HUSHED FACE;FACE WITH OPEN MOUTH AND COLD SWEAT;1 SCREAMING IN FEAR;ASTONISHED FACE;FLUSHED FACE
SLEEPING FACE;DIZZY FACE;FACE WITHOUT MOUTH;1 WITH MEDICAL MASK
GRINNING CAT FACE WITH SMILING EYES;CAT FACE WITH TEARS OF JOY;SMILING CAT FACE WITH OPEN MOUTH
4 HEART-SHAPED EYES;CAT FACE WITH WRY SMILE;KISSING CAT FACE WITH CLOSED EYES;POUTING CAT FACE
CRYING CAT FACE;WEARY CAT FACE;SLIGHTLY FROWNING FACE;1 SMILING FACE;UPSIDE-DOWN FACE
FACE WITH ROLLING EYES;2 NO GOOD GESTURE;2 OK GESTURE;PERSON BOWING DEEPLY;SEE-NO-EVIL MONKEY
HEAR-NO-EVIL MONKEY;SPEAK-NO-EVIL MONKEY;HAPPY PERSON RAISING ONE HAND
PERSON RAISING BOTH HANDS IN CELEBRATION;1 FROWNING;1 WITH POUTING FACE;2 FOLDED HANDS
1F680=ROCKET;HELICOPTER;STEAM LOCOMOTIVE;RAILWAY CAR;HIGH-SPEED TRAIN;2 WITH BULLET NOSE;TRAIN
METRO;LIGHT RAIL;STATION;TRAM;1 CAR;BUS;ONCOMING BUS;TROLLEYBUS;BUS STOP;MINIBUS;AMBULANCE
FIRE ENGINE;POLICE CAR;ONCOMING POLICE CAR;TAXI;ONCOMING TAXI;AUTOMOBILE;ONCOMING AUTOMOBILE
RECREATIONAL VEHICLE;DELIVERY TRUCK;ARTICULATED LORRY;TRACTOR;MONORAIL;MOUNTAIN RAILWAY
SUSPENSION RAILWAY;MOUNTAIN CABLEWAY;AERIAL TRAMWAY;SHIP;ROWBOAT;SPEEDBOAT
HORIZONTAL TRAFFIC LIGHT;VERTICAL TRAFFIC LIGHT;CONSTRUCTION SIGN;POLICE CARS REVOLVING LIGHT
TRIANGULAR FLAG ON POST;DOOR;NO ENTRY SIGN;SMOKING SYMBOL;NO SMOKING SYMBOL
PUT LITTER IN ITS PLACE SYMBOL;DO NOT LITTER SYMBOL;POTABLE WATER SYMBOL;NON-POTABLE WATER SYMBOL
BICYCLE;NO BICYCLES;BICYCLIST;MOUNTAIN BICYCLIST;PEDESTRIAN;NO PEDESTRIANS;CHILDREN CROSSING
MENS SYMBOL;WOMENS SYMBOL;RESTROOM;BABY SYMBOL;TOILET;WATER CLOSET;SHOWER;BATH;BATHTUB
PASSPORT CONTROL;CUSTOMS;BAGGAGE CLAIM;LEFT LUGGAGE;TRIANGLE WITH ROUNDED CORNERS;PROHIBITED SIGN
CIRCLED INFORMATION SOURCE;BOYS SYMBOL;GIRLS SYMBOL;COUCH AND LAMP;SLEEPING ACCOMMODATION
SHOPPING BAGS;BELLHOP BELL;BED;PLACE OF WORSHIP;OCTAGONAL SIGN;SHOPPING TROLLEY;STUPA;PAGODA
HINDU TEMPLE;HUT;ELEVATOR;1F6DD=PLAYGROUND SLIDE;WHEEL;RING BUOY;HAMMER AND WRENCH;SHIELD;OIL DRUM
MOTORWAY;RAILWAY TRACK;MOTOR BOAT;UP-POINTING MILITARY AIRPLANE;1 AIRPLANE;1 SMALL AIRPLANE
SMALL AIRPLANE;NORTHEAST-POINTING AIRPLANE;AIRPLANE DEPARTURE;1 ARRIVING;1F6F0=SATELLITE
ONCOMING FIRE ENGINE;DIESEL LOCOMOTIVE;PASSENGER SHIP;SCOOTER;MOTOR SCOOTER;CANOE;SLED
FLYING SAUCER;SKATEBOARD;AUTO RICKSHAW;PICKUP TRUCK;ROLLER SKATE
1F900=CIRCLED CROSS FORMEE WITH FOUR DOTS;4 TWO DOTS;3 ;LEFT HALF CIRCLE WITH FOUR DOTS
4 THREE DOTS;4 TWO DOTS;4 DOT;3 ;DOWNWARD FACING HOOK;2 NOTCHED HOOK;2 HOOK WITH DOT
2 NOTCHED HOOK WITH DOT;PINCHED FINGERS;WHITE HEART;BROWN HEART;PINCHING HAND;ZIPPER-MOUTH FACE
MONEY-MOUTH FACE;FACE WITH THERMOMETER;NERD FACE;THINKING FACE;FACE WITH HEAD-BANDAGE;ROBOT FACE
HUGGING FACE;SIGN OF THE HORNS;CALL ME HAND;RAISED BACK OF HAND;LEFT-FACING FIST;RIGHT-FACING FIST
HANDSHAKE;HAND WITH INDEX AND MIDDLE FINGERS CROSSED;I LOVE YOU HAND SIGN;FACE WITH COWBOY HAT
CLOWN FACE;NAUSEATED FACE;ROLLING ON THE FLOOR LAUGHING;DROOLING FACE;LYING FACE;FACE PALM
SNEEZING FACE;FACE WITH ONE EYEBROW RAISED;GRINNING FACE WITH STAR EYES
3 ONE LARGE AND ONE SMALL EYE;FACE WITH FINGER COVERING CLOSED LIPS
SERIOUS FACE WITH SYMBOLS COVERING MOUTH;SMILING FACE WITH SMILING EYES AND HAND COVERING MOUTH
FACE WITH OPEN MOUTH VOMITING;SHOCKED FACE WITH EXPLODING HEAD;PREGNANT WOMAN;BREAST-FEEDING
PALMS UP TOGETHER;SELFIE;PRINCE;MAN IN TUXEDO;MOTHER CHRISTMAS;SHRUG;PERSON DOING CARTWHEEL
JUGGLING;FENCER;MODERN PENTATHLON;WRESTLERS;WATER POLO;HANDBALL;DIVING MASK;WILTED FLOWER
DRUM WITH DRUMSTICKS;CLINKING GLASSES;TUMBLER GLASS;SPOON;GOAL NET;RIFLE;FIRST PLACE MEDAL
SECOND PLACE MEDAL;THIRD PLACE MEDAL;BOXING GLOVE;MARTIAL ARTS UNIFORM;CURLING STONE
LACROSSE STICK AND BALL;SOFTBALL;FLYING DISC;CROISSANT;AVOCADO;CUCUMBER;BACON;POTATO;CARROT
BAGUETTE BREAD;GREEN SALAD;SHALLOW PAN OF FOOD;STUFFED FLATBREAD;EGG;GLASS OF MILK;PEANUTS
KIWIFRUIT;PANCAKES;DUMPLING;FORTUNE COOKIE;TAKEOUT BOX;CHOPSTICKS;BOWL WITH SPOON;CUP WITH STRAW
COCONUT;BROCCOLI;PIE;PRETZEL;CUT OF MEAT;SANDWICH;CANNED FOOD;LEAFY GREEN;MANGO;MOON CAKE;BAGEL
SMILING FACE WITH SMILING EYES AND THREE HEARTS;YAWNING FACE;SMILING FACE WITH TEAR
FACE WITH PARTY HORN AND PARTY HAT;2 UNEVEN EYES AND WAVY MOUTH;OVERHEATED FACE;FREEZING FACE
NINJA;DISGUISED FACE;FACE HOLDING BACK TEARS;1 WITH PLEADING EYES;SARI;LAB COAT;GOGGLES
HIKING BOOT;FLAT SHOE;CRAB;LION FACE;SCORPION;TURKEY;UNICORN FACE;EAGLE;DUCK;BAT;SHARK;OWL
FOX FACE;BUTTERFLY;DEER;GORILLA;LIZARD;RHINOCEROS;SHRIMP;SQUID;GIRAFFE FACE;ZEBRA FACE;HEDGEHOG
SAUROPOD;T-REX;CRICKET;KANGAROO;LLAMA;PEACOCK;HIPPOPOTAMUS;PARROT;RACCOON;LOBSTER;MOSQUITO;MICROBE
BADGER;SWAN;MAMMOTH;DODO;SLOTH;OTTER;ORANGUTAN;SKUNK;FLAMINGO;OYSTER;BEAVER;BISON;SEAL;GUIDE DOG
PROBING CANE;EMOJI COMPONENT RED HAIR;2 CURLY HAIR;2 BALD;2 WHITE HAIR;BONE;LEG;FOOT;TOOTH
SUPERHERO;SUPERVILLAIN;SAFETY VEST;EAR WITH HEARING AID;MOTORIZED WHEELCHAIR;MANUAL WHEELCHAIR
MECHANICAL ARM;1 LEG;CHEESE WEDGE;CUPCAKE;SALT SHAKER;BEVERAGE BOX;GARLIC;ONION;FALAFEL;WAFFLE
BUTTER;MATE DRINK;ICE CUBE;BUBBLE TEA;TROLL;STANDING PERSON;KNEELING PERSON;DEAF PERSON
FACE WITH MONOCLE;ADULT;CHILD;OLDER ADULT;BEARDED PERSON;PERSON WITH HEADSCARF;1 IN STEAMY ROOM
1 CLIMBING;1 IN LOTUS POSITION;MAGE;FAIRY;VAMPIRE;MERPERSON;ELF;GENIE;ZOMBIE;BRAIN;ORANGE HEART
BILLED CAP;SCARF;GLOVES;COAT;SOCKS;RED GIFT ENVELOPE;FIRECRACKER;JIGSAW PUZZLE PIECE;TEST TUBE
PETRI DISH;DNA DOUBLE HELIX;COMPASS;ABACUS;FIRE EXTINGUISHER;TOOLBOX;BRICK;MAGNET;LUGGAGE
LOTION BOTTLE;SPOOL OF THREAD;BALL OF YARN;SAFETY PIN;TEDDY BEAR;BROOM;BASKET;ROLL OF PAPER
BAR OF SOAP;SPONGE;RECEIPT;NAZAR AMULET;1FA70=BALLET SHOES;ONE-PIECE SWIMSUIT;BRIEFS;SHORTS
THONG SANDAL;1FA78=DROP OF BLOOD;ADHESIVE BANDAGE;STETHOSCOPE;X-RAY;CRUTCH;1FA80=YO-YO;KITE
PARACHUTE;BOOMERANG;MAGIC WAND;PINATA;NESTING DOLLS;1FA90=RINGED PLANET;CHAIR;RAZOR;AXE;DIYA LAMP
BANJO;MILITARY HELMET;ACCORDION;LONG DRUM;COIN;CARPENTRY SAW;SCREWDRIVER;LADDER;HOOK;MIRROR;WINDOW
PLUNGER;SEWING NEEDLE;KNOT;BUCKET;MOUSE TRAP;TOOTHBRUSH;HEADSTONE;PLACARD;ROCK;MIRROR BALL
IDENTIFICATION CARD;LOW BATTERY;HAMSA;1FAB0=FLY;WORM;BEETLE;COCKROACH;POTTED PLANT;WOOD;FEATHER
LOTUS;CORAL;EMPTY NEST;NEST WITH EGGS;1FAC0=ANATOMICAL HEART;LUNGS;PEOPLE HUGGING;PREGNANT MAN
1 PERSON;PERSON WITH CROWN;1FAD0=BLUEBERRIES;BELL PEPPER;OLIVE;FLATBREAD;TAMALE;FONDUE;TEAPOT
POURING LIQUID;BEANS;JAR;1FAE0=MELTING FACE;SALUTING FACE;FACE WITH OPEN EYES AND HAND OVER MOUTH
2 PEEKING EYE;2 DIAGONAL MOUTH;DOTTED LINE FACE;BITING LIP;BUBBLES
1FAF0=HAND WITH INDEX FINGER AND THUMB CROSSED;RIGHTWARDS HAND;LEFTWARDS HAND;PALM DOWN HAND
1 UP HAND;INDEX POINTING AT THE VIEWER;HEART HANDS"

/-- Other names of characters that have one, and names of those that have none. -/
private def otherNames : String := "
0=NULL;0=NUL;1=START OF HEADING;1=SOH;2=START OF TEXT;2=STX;3=END OF TEXT;3=ETX
4=END OF TRANSMISSION;4=EOT;5=ENQUIRY;5=ENQ;6=ACKNOWLEDGE;6=ACK;7=ALERT;7=BEL;8=BACKSPACE;8=BS
9=CHARACTER TABULATION;9=HORIZONTAL TABULATION;9=HT;9=TAB;A=LINE FEED;A=NEW LINE;A=END OF LINE
A=LF;A=NL;A=EOL;B=LINE TABULATION;B=VERTICAL TABULATION;B=VT;C=FORM FEED;C=FF;D=CARRIAGE RETURN
D=CR;E=SHIFT OUT;E=LOCKING-SHIFT ONE;E=SO;F=SHIFT IN;F=LOCKING-SHIFT ZERO;F=SI;10=DATA LINK ESCAPE
10=DLE;11=DEVICE CONTROL ONE;11=DC1;12=DEVICE CONTROL TWO;12=DC2;13=DEVICE CONTROL THREE;13=DC3
14=DEVICE CONTROL FOUR;14=DC4;15=NEGATIVE ACKNOWLEDGE;15=NAK;16=SYNCHRONOUS IDLE;16=SYN
17=END OF TRANSMISSION BLOCK;17=ETB;18=CANCEL;18=CAN;19=END OF MEDIUM;19=EOM;1A=SUBSTITUTE;1A=SUB
1B=ESCAPE;1B=ESC;1C=INFORMATION SEPARATOR FOUR;1C=FILE SEPARATOR;1C=FS
1D=INFORMATION SEPARATOR THREE;1D=GROUP SEPARATOR;1D=GS;1E=INFORMATION SEPARATOR TWO
1E=RECORD SEPARATOR;1E=RS;1F=INFORMATION SEPARATOR ONE;1F=UNIT SEPARATOR;1F=US;20=SP;7F=DELETE
7F=DEL;80=PADDING CHARACTER;80=PAD;81=HIGH OCTET PRESET;81=HOP;82=BREAK PERMITTED HERE;82=BPH
83=NO BREAK HERE;83=NBH;84=INDEX;84=IND;85=NEXT LINE;85=NEL;86=START OF SELECTED AREA;86=SSA
87=END OF SELECTED AREA;87=ESA;88=CHARACTER TABULATION SET;88=HORIZONTAL TABULATION SET;88=HTS
89=CHARACTER TABULATION WITH JUSTIFICATION;89=HTJ;8A=LINE TABULATION SET;8A=VTS
8B=PARTIAL LINE FORWARD;8B=PLD;8C=PARTIAL LINE BACKWARD;8C=PLU;8D=REVERSE LINE FEED
8D=REVERSE INDEX;8D=RI;8E=SINGLE SHIFT TWO;8E=SINGLE-SHIFT-2;8E=SS2;8F=SINGLE SHIFT THREE
8F=SINGLE-SHIFT-3;8F=SS3;90=DEVICE CONTROL STRING;90=DCS;91=PRIVATE USE ONE;91=PU1
92=PRIVATE USE TWO;92=PU2;93=SET TRANSMIT STATE;93=STS;94=CANCEL CHARACTER;94=CCH
95=MESSAGE WAITING;95=MW;96=START OF GUARDED AREA;96=SPA;97=END OF GUARDED AREA;97=EPA
98=START OF STRING;98=SOS;99=SINGLE GRAPHIC CHARACTER INTRODUCER;99=SGC
9A=SINGLE CHARACTER INTRODUCER;9A=SCI;9B=CONTROL SEQUENCE INTRODUCER;9B=CSI;9C=STRING TERMINATOR
9C=ST;9D=OPERATING SYSTEM COMMAND;9D=OSC;9E=PRIVACY MESSAGE;9E=PM;9F=APPLICATION PROGRAM COMMAND
9F=APC;A0=NBSP;AD=SHY;1A2=LATIN CAPITAL LETTER GHA;1A3=LATIN SMALL LETTER GHA;34F=CGJ;61C=ALM
180E=MVS;200B=ZWSP;200C=ZWNJ;200D=ZWJ;200E=LRM;200F=RLM;202A=LRE;202B=RLE;202C=PDF;202D=LRO
202E=RLO;202F=NNBSP;205F=MMSP;2060=WJ;2066=LRI;2067=RLI;2068=FSI;2069=PDI
2118=WEIERSTRASS ELLIPTIC FUNCTION;FE0E=VS15;FE0F=VS16;FEFF=BYTE ORDER MARK;FEFF=BOM;FEFF=ZWNBSP"

/-- The marks that letters carry. -/
private def markNames : String := "
300=GRAVE;301=ACUTE;302=CIRCUMFLEX;303=TILDE;304=MACRON;306=BREVE;307=DOT ABOVE;308=DIAERESIS
309=HOOK ABOVE;30A=RING ABOVE;30B=DOUBLE ACUTE;30C=CARON;30F=DOUBLE GRAVE;311=INVERTED BREVE
31B=HORN;323=DOT BELOW;324=DIAERESIS BELOW;325=RING BELOW;326=COMMA BELOW;327=CEDILLA;328=OGONEK
32D=CIRCUMFLEX BELOW;32E=BREVE BELOW;330=TILDE BELOW;331=LINE BELOW"

private structure NamedCode where
  code : Nat
  name : List (List Char)

private def isHexDigit (c : Char) : Bool := (hexValue? c).isSome

/-- The code and the name behind other ones. -/
private def nextCode (before : NamedCode) (text : List Char) : NamedCode :=
  let key := text.takeWhile isHexDigit
  let (code, rest) := match text.drop key.length with
    | '=' :: rest => (hexOf key, rest)
    | _ => (before.code + 1, text)
  let words := splitOnChar ' ' rest
  match words with
  | count :: own =>
    if !count.isEmpty && count.all Char.isDigit then
      ⟨code, before.name.take (count.foldl (fun n c => n * 10 + (c.toNat - 48)) 0) ++ own⟩
    else ⟨code, words⟩
  | [] => ⟨code, []⟩

private def findCode (name : List (List Char)) (before : NamedCode) :
    List (List Char) → Option Nat
  | [] => none
  | text :: rest =>
    let e := nextCode before text
    if e.name == name then some e.code else findCode name e rest

/-- The code of a name in a table. -/
private def codeIn? (table : String) (name : List Char) : Option Nat :=
  findCode (splitOnChar ' ' name) ⟨0, []⟩
    ((runsOutside (fun c => c == ';' || c == '\n') table.toList).filter (!·.isEmpty))

/-- A letter and the marks on it, such as acute and dot below. -/
private def markedLetter? (name : List Char) : Option Nat := do
  let _ ← dropStart? name "LATIN ".toList
  let (letter, marks) ← cutAt? " WITH ".toList name
  let base ← codeIn? nameTable letter
  let codes ← (splitOn marks " AND ".toList none).mapM (codeIn? markNames)
  match (normalForm (.ofList ((base :: codes).map Char.ofNat))).toList with
  | [c] => some c.toNat
  | _ => none

private def leads : List String :=
  ["G", "GG", "N", "D", "DD", "R", "M", "B", "BB", "S", "SS", "", "J", "JJ", "C", "K", "T", "P",
    "H"]

private def vowels : List String :=
  ["A", "AE", "YA", "YAE", "EO", "E", "YEO", "YE", "O", "WA", "WAE", "OE", "YO", "U", "WEO", "WE",
    "WI", "YU", "EU", "YI", "I"]

private def tails : List String :=
  ["", "G", "GG", "GS", "N", "NJ", "NH", "D", "L", "LG", "LM", "LB", "LS", "LT", "LP", "LH", "M",
    "B", "BS", "S", "SS", "NG", "J", "C", "K", "T", "P", "H"]

/-- The syllable of three sounds, of which the first and the last may be silent. -/
private def syllable? (name : List Char) : Option Nat :=
  let lead := name.takeWhile fun c => !"AEIOUWY".toList.contains c
  let rest := name.drop lead.length
  let vowel := rest.takeWhile fun c => "AEIOUWY".toList.contains c
  let tail := rest.drop vowel.length
  match leads.idxOf? (String.ofList lead), vowels.idxOf? (String.ofList vowel),
      tails.idxOf? (String.ofList tail) with
  | some l, some v, some t => some (0xAC00 + (l * 21 + v) * 28 + t)
  | _, _, _ => none

private def isIdeograph (n : Nat) : Bool :=
  (0x3400 ≤ n && n ≤ 0x4DBF) || (0x4E00 ≤ n && n ≤ 0x9FFF) || (0x20000 ≤ n && n ≤ 0x2A6DF) ||
    (0x2A700 ≤ n && n ≤ 0x2B738) || (0x2B740 ≤ n && n ≤ 0x2B81D) ||
    (0x2B820 ≤ n && n ≤ 0x2CEA1) || (0x2CEB0 ≤ n && n ≤ 0x2EBE0) ||
    (0x30000 ≤ n && n ≤ 0x3134A)

private def ideograph? (digits : List Char) : Option Nat :=
  if (digits.length == 4 || digits.length == 5) &&
      digits.all fun c => c.isDigit || ('A' ≤ c && c ≤ 'F') then
    some (hexOf digits) |>.filter isIdeograph
  else none

/-- The character of a name; case does not count. -/
def namedCharacter? (name : List Char) : Option Char :=
  let code := match dropStart? name "HANGUL SYLLABLE ".toList with
    | some sounds => syllable? sounds
    | none =>
      match dropStart? name "CJK UNIFIED IDEOGRAPH-".toList with
      | some digits => ideograph? digits
      | none =>
        let key := name.map Char.toUpper
        ((codeIn? nameTable key).or (codeIn? otherNames key)).or (markedLetter? key)
  code.map Char.ofNat

end Stencil.Text
