/-! Names of the characters of Unicode 14.0, but for those that are composed or end in a code. -/
namespace ScenarioRunner.Text

/-- The first code of a run of characters and their names, separated by semicolons or line breaks. A
lower-case letter in front stands for words of the name before: `a` for its first one, `b` for its
first two. Behind a plus sign a letter stands for its last words in the same way. -/
def nameBlocks : List (Nat × String) :=
  [(0x20, "SPACE;EXCLAMATION MARK;QUOTATION+a;NUMBER SIGN;DOLLAR+a;PERCENT+a;AMPERSAND
APOSTROPHE;LEFT PARENTHESIS;RIGHT+a;ASTERISK;PLUS SIGN;COMMA;HYPHEN-MINUS;FULL STOP;SOLIDUS
DIGIT ZERO;aONE;aTWO;aTHREE;aFOUR;aFIVE;aSIX;aSEVEN;aEIGHT;aNINE;COLON;SEMICOLON;LESS-THAN SIGN
EQUALS+a;GREATER-THAN+a;QUESTION MARK;COMMERCIAL AT;LATIN CAPITAL LETTER A;cB;cC;cD;cE;cF;cG;cH
cI;cJ;cK;cL;cM;cN;cO;cP;cQ;cR;cS;cT;cU;cV;cW;cX;cY;cZ;LEFT SQUARE BRACKET;REVERSE SOLIDUS
RIGHT SQUARE BRACKET;CIRCUMFLEX ACCENT;LOW LINE;GRAVE ACCENT;LATIN SMALL LETTER A;cB;cC;cD;cE
cF;cG;cH;cI;cJ;cK;cL;cM;cN;cO;cP;cQ;cR;cS;cT;cU;cV;cW;cX;cY;cZ;LEFT CURLY BRACKET;VERTICAL LINE
RIGHT CURLY BRACKET;TILDE"),
   (0xA0, "NO-BREAK SPACE;INVERTED EXCLAMATION MARK;CENT SIGN;POUND+a;CURRENCY+a;YEN+a
BROKEN BAR;SECTION SIGN;DIAERESIS;COPYRIGHT SIGN;FEMININE ORDINAL INDICATOR
LEFT-POINTING DOUBLE ANGLE QUOTATION MARK;NOT SIGN;SOFT HYPHEN;REGISTERED SIGN;MACRON
DEGREE SIGN;PLUS-MINUS+a;SUPERSCRIPT TWO;aTHREE;ACUTE ACCENT;MICRO SIGN;PILCROW+a;MIDDLE DOT
CEDILLA;SUPERSCRIPT ONE;MASCULINE ORDINAL INDICATOR;RIGHT-POINTING DOUBLE ANGLE QUOTATION MARK
VULGAR FRACTION ONE QUARTER;cHALF;bTHREE QUARTERS;INVERTED QUESTION MARK
LATIN CAPITAL LETTER A WITH GRAVE;eACUTE;eCIRCUMFLEX;eTILDE;eDIAERESIS;eRING ABOVE;cAE
cC WITH CEDILLA;cE WITH GRAVE;eACUTE;eCIRCUMFLEX;eDIAERESIS;cI WITH GRAVE;eACUTE;eCIRCUMFLEX
eDIAERESIS;cETH;cN WITH TILDE;cO WITH GRAVE;eACUTE;eCIRCUMFLEX;eTILDE;eDIAERESIS
MULTIPLICATION SIGN;LATIN CAPITAL LETTER O WITH STROKE;cU WITH GRAVE;eACUTE;eCIRCUMFLEX
eDIAERESIS;cY WITH ACUTE;cTHORN;aSMALL LETTER SHARP S;cA WITH GRAVE;eACUTE;eCIRCUMFLEX;eTILDE
eDIAERESIS;eRING ABOVE;cAE;cC WITH CEDILLA;cE WITH GRAVE;eACUTE;eCIRCUMFLEX;eDIAERESIS
cI WITH GRAVE;eACUTE;eCIRCUMFLEX;eDIAERESIS;cETH;cN WITH TILDE;cO WITH GRAVE;eACUTE;eCIRCUMFLEX
eTILDE;eDIAERESIS;DIVISION SIGN;LATIN SMALL LETTER O WITH STROKE;cU WITH GRAVE;eACUTE
eCIRCUMFLEX;eDIAERESIS;cY WITH ACUTE;cTHORN;cY WITH DIAERESIS;aCAPITAL LETTER A WITH MACRON
aSMALL+d;aCAPITAL LETTER A WITH BREVE;aSMALL+d;aCAPITAL LETTER A WITH OGONEK;aSMALL+d
aCAPITAL LETTER C WITH ACUTE;aSMALL+d;aCAPITAL LETTER C WITH CIRCUMFLEX;aSMALL+d
aCAPITAL LETTER C WITH DOT ABOVE;aSMALL+e;aCAPITAL LETTER C WITH CARON;aSMALL+d
aCAPITAL LETTER D+b;aSMALL+d;aCAPITAL LETTER D WITH STROKE;aSMALL+d
aCAPITAL LETTER E WITH MACRON;aSMALL+d;aCAPITAL LETTER E WITH BREVE;aSMALL+d
aCAPITAL LETTER E WITH DOT ABOVE;aSMALL+e;aCAPITAL LETTER E WITH OGONEK;aSMALL+d
aCAPITAL LETTER E WITH CARON;aSMALL+d;aCAPITAL LETTER G WITH CIRCUMFLEX;aSMALL+d
aCAPITAL LETTER G WITH BREVE;aSMALL+d;aCAPITAL LETTER G WITH DOT ABOVE;aSMALL+e
aCAPITAL LETTER G WITH CEDILLA;aSMALL+d;aCAPITAL LETTER H WITH CIRCUMFLEX;aSMALL+d
aCAPITAL LETTER H WITH STROKE;aSMALL+d;aCAPITAL LETTER I WITH TILDE;aSMALL+d
aCAPITAL LETTER I WITH MACRON;aSMALL+d;aCAPITAL LETTER I WITH BREVE;aSMALL+d
aCAPITAL LETTER I WITH OGONEK;aSMALL+d;aCAPITAL LETTER I WITH DOT ABOVE;aSMALL LETTER DOTLESS I
aCAPITAL LIGATURE IJ;aSMALL+b;aCAPITAL LETTER J WITH CIRCUMFLEX;aSMALL+d
aCAPITAL LETTER K WITH CEDILLA;aSMALL+d;cKRA;aCAPITAL LETTER L WITH ACUTE;aSMALL+d
aCAPITAL LETTER L WITH CEDILLA;aSMALL+d;aCAPITAL LETTER L WITH CARON;aSMALL+d
aCAPITAL LETTER L WITH MIDDLE DOT;aSMALL+e;aCAPITAL LETTER L WITH STROKE;aSMALL+d
aCAPITAL LETTER N WITH ACUTE;aSMALL+d;aCAPITAL LETTER N WITH CEDILLA;aSMALL+d
aCAPITAL LETTER N WITH CARON;aSMALL+d;dPRECEDED BY APOSTROPHE;aCAPITAL LETTER ENG;aSMALL+b
aCAPITAL LETTER O WITH MACRON;aSMALL+d;aCAPITAL LETTER O WITH BREVE;aSMALL+d
aCAPITAL LETTER O WITH DOUBLE ACUTE;aSMALL+e;aCAPITAL LIGATURE OE;aSMALL+b
aCAPITAL LETTER R WITH ACUTE;aSMALL+d;aCAPITAL LETTER R WITH CEDILLA;aSMALL+d
aCAPITAL LETTER R WITH CARON;aSMALL+d;aCAPITAL LETTER S WITH ACUTE;aSMALL+d
aCAPITAL LETTER S WITH CIRCUMFLEX;aSMALL+d;aCAPITAL LETTER S WITH CEDILLA;aSMALL+d
aCAPITAL LETTER S WITH CARON;aSMALL+d;aCAPITAL LETTER T WITH CEDILLA;aSMALL+d
aCAPITAL LETTER T WITH CARON;aSMALL+d;aCAPITAL LETTER T WITH STROKE;aSMALL+d
aCAPITAL LETTER U WITH TILDE;aSMALL+d;aCAPITAL LETTER U WITH MACRON;aSMALL+d
aCAPITAL LETTER U WITH BREVE;aSMALL+d;aCAPITAL LETTER U WITH RING ABOVE;aSMALL+e
aCAPITAL LETTER U WITH DOUBLE ACUTE;aSMALL+e;aCAPITAL LETTER U WITH OGONEK;aSMALL+d
aCAPITAL LETTER W WITH CIRCUMFLEX;aSMALL+d;aCAPITAL LETTER Y+b;aSMALL+d
aCAPITAL LETTER Y WITH DIAERESIS;cZ WITH ACUTE;aSMALL+d;aCAPITAL LETTER Z WITH DOT ABOVE
aSMALL+e;aCAPITAL LETTER Z WITH CARON;aSMALL+d;cLONG S;cB WITH STROKE
aCAPITAL LETTER B WITH HOOK;eTOPBAR;aSMALL+d;aCAPITAL LETTER TONE SIX;aSMALL+c
aCAPITAL LETTER OPEN O;cC WITH HOOK;aSMALL+d;aCAPITAL LETTER AFRICAN D;cD WITH HOOK;eTOPBAR
aSMALL+d;cTURNED DELTA;aCAPITAL LETTER REVERSED E;cSCHWA;cOPEN E;cF WITH HOOK;aSMALL+d
aCAPITAL LETTER G+b;cGAMMA;aSMALL LETTER HV;aCAPITAL LETTER IOTA;cI WITH STROKE;cK WITH HOOK
aSMALL+d;cL WITH BAR;cLAMBDA WITH STROKE;aCAPITAL LETTER TURNED M;cN WITH LEFT HOOK
aSMALL LETTER N WITH LONG RIGHT LEG;aCAPITAL LETTER O WITH MIDDLE TILDE;eHORN;aSMALL+d
aCAPITAL LETTER OI;aSMALL+b;aCAPITAL LETTER P WITH HOOK;aSMALL+d;aLETTER YR
aCAPITAL LETTER TONE TWO;aSMALL+c;aCAPITAL LETTER ESH;aLETTER REVERSED ESH LOOP
aSMALL LETTER T WITH PALATAL HOOK;aCAPITAL LETTER T WITH+a;aSMALL+d
aCAPITAL LETTER T WITH RETROFLEX+a;cU WITH HORN;aSMALL+d;aCAPITAL LETTER UPSILON;cV WITH HOOK
cY+b;aSMALL+d;aCAPITAL LETTER Z WITH STROKE;aSMALL+d;aCAPITAL LETTER EZH;dREVERSED;aSMALL+c
dWITH TAIL;aLETTER TWO WITH STROKE;aCAPITAL LETTER TONE FIVE;aSMALL+c
aLETTER INVERTED GLOTTAL STOP WITH STROKE;bWYNN;bDENTAL CLICK;bLATERAL+a;bALVEOLAR+a
bRETROFLEX+a;aCAPITAL LETTER DZ WITH CARON;cD WITH SMALL LETTER Z+b;aSMALL LETTER DZ+b
aCAPITAL LETTER LJ;cL WITH SMALL LETTER J;aSMALL LETTER LJ;aCAPITAL LETTER NJ
cN WITH SMALL LETTER J;aSMALL LETTER NJ;aCAPITAL LETTER A WITH CARON;aSMALL+d
aCAPITAL LETTER I+b;aSMALL+d;aCAPITAL LETTER O+b;aSMALL+d;aCAPITAL LETTER U+b;aSMALL+d
aCAPITAL LETTER U WITH DIAERESIS AND MACRON;aSMALL+f;aCAPITAL LETTER U WITH DIAERESIS AND ACUTE
aSMALL+f;aCAPITAL LETTER U WITH DIAERESIS AND CARON;aSMALL+f
aCAPITAL LETTER U WITH DIAERESIS AND GRAVE;aSMALL+f;cTURNED E
aCAPITAL LETTER A WITH DIAERESIS AND MACRON;aSMALL+f;aCAPITAL LETTER A WITH DOT ABOVE+b
aSMALL+g;aCAPITAL LETTER AE WITH+a;aSMALL+d;aCAPITAL LETTER G WITH STROKE;aSMALL+d
aCAPITAL LETTER G WITH CARON;aSMALL+d;aCAPITAL LETTER K+b;aSMALL+d
aCAPITAL LETTER O WITH OGONEK;aSMALL+d;aCAPITAL LETTER O WITH OGONEK AND MACRON;aSMALL+f
aCAPITAL LETTER EZH WITH CARON;aSMALL+d;cJ+b;aCAPITAL LETTER DZ;cD WITH SMALL LETTER Z
aSMALL LETTER DZ;aCAPITAL LETTER G WITH ACUTE;aSMALL+d;aCAPITAL LETTER HWAIR;cWYNN
cN WITH GRAVE;aSMALL+d;aCAPITAL LETTER A WITH RING ABOVE AND ACUTE;aSMALL+g
aCAPITAL LETTER AE WITH+a;aSMALL+d;aCAPITAL LETTER O WITH STROKE AND+a;aSMALL+f
aCAPITAL LETTER A WITH DOUBLE GRAVE;aSMALL+e;aCAPITAL LETTER A WITH INVERTED BREVE;aSMALL+e
aCAPITAL LETTER E WITH DOUBLE GRAVE;aSMALL+e;aCAPITAL LETTER E WITH INVERTED BREVE;aSMALL+e
aCAPITAL LETTER I WITH DOUBLE GRAVE;aSMALL+e;aCAPITAL LETTER I WITH INVERTED BREVE;aSMALL+e
aCAPITAL LETTER O WITH DOUBLE GRAVE;aSMALL+e;aCAPITAL LETTER O WITH INVERTED BREVE;aSMALL+e
aCAPITAL LETTER R WITH DOUBLE GRAVE;aSMALL+e;aCAPITAL LETTER R WITH INVERTED BREVE;aSMALL+e
aCAPITAL LETTER U WITH DOUBLE GRAVE;aSMALL+e;aCAPITAL LETTER U WITH INVERTED BREVE;aSMALL+e
aCAPITAL LETTER S WITH COMMA BELOW;aSMALL+e;aCAPITAL LETTER T+c;aSMALL+e;aCAPITAL LETTER YOGH
aSMALL+b;aCAPITAL LETTER H WITH CARON;aSMALL+d;aCAPITAL LETTER N WITH LONG RIGHT LEG
aSMALL LETTER D WITH CURL;aCAPITAL LETTER OU;aSMALL+b;aCAPITAL LETTER Z WITH HOOK;aSMALL+d
aCAPITAL LETTER A WITH DOT ABOVE;aSMALL+e;aCAPITAL LETTER E WITH CEDILLA;aSMALL+d
aCAPITAL LETTER O WITH DIAERESIS AND MACRON;aSMALL+f;aCAPITAL LETTER O WITH TILDE+b;aSMALL+f
aCAPITAL LETTER O WITH DOT ABOVE;aSMALL+e;aCAPITAL LETTER O WITH DOT ABOVE AND MACRON;aSMALL+g
aCAPITAL LETTER Y WITH+a;aSMALL+d;cL WITH CURL;cN+b;cT+b;cDOTLESS J;cDB DIGRAPH;cQP+a
aCAPITAL LETTER A WITH STROKE;cC+b;aSMALL+d;aCAPITAL LETTER L WITH BAR;cT WITH DIAGONAL STROKE
aSMALL LETTER S WITH SWASH TAIL;cZ+c;aCAPITAL LETTER GLOTTAL STOP;aSMALL+c
aCAPITAL LETTER B WITH STROKE;cU BAR;cTURNED V;cE WITH STROKE;aSMALL+d;aCAPITAL LETTER J+b
aSMALL+d;aCAPITAL LETTER SMALL Q WITH HOOK TAIL;aSMALL LETTER+d;aCAPITAL LETTER R WITH STROKE
aSMALL+d;aCAPITAL LETTER Y+b;aSMALL+d;cTURNED A;cALPHA;cTURNED+a;cB WITH HOOK;cOPEN O
cC WITH CURL;cD WITH TAIL;eHOOK;cREVERSED E;cSCHWA;dWITH HOOK;cOPEN E;cREVERSED+b;fWITH HOOK
cCLOSED REVERSED OPEN E;cDOTLESS J WITH STROKE;cG WITH HOOK;cSCRIPT G;aLETTER SMALL CAPITAL G
aSMALL LETTER GAMMA;cRAMS HORN;cTURNED H;cH WITH HOOK;cHENG+b;cI WITH STROKE;cIOTA
aLETTER SMALL CAPITAL I;aSMALL LETTER L WITH MIDDLE TILDE;eBELT;eRETROFLEX HOOK;cLEZH;cTURNED M
eWITH LONG LEG;cM WITH HOOK;cN WITH LEFT+a;eRETROFLEX+a;aLETTER SMALL CAPITAL N
aSMALL LETTER BARRED O;aLETTER SMALL CAPITAL OE;aSMALL LETTER CLOSED OMEGA;cPHI;cTURNED R
eWITH LONG LEG;fHOOK;cR WITH LONG LEG;eTAIL;eFISHHOOK;cREVERSED+c;aLETTER SMALL CAPITAL R
dINVERTED R;aSMALL LETTER S WITH HOOK;cESH;cDOTLESS J WITH STROKE AND HOOK;cSQUAT REVERSED ESH
cESH WITH CURL;cTURNED T;cT WITH RETROFLEX HOOK;cU BAR;cUPSILON;cV WITH HOOK;cTURNED V;dW;dY
aLETTER SMALL CAPITAL Y;aSMALL LETTER Z WITH RETROFLEX HOOK;eCURL;cEZH;dWITH CURL
aLETTER GLOTTAL STOP;bPHARYNGEAL VOICED FRICATIVE;bINVERTED GLOTTAL STOP;bSTRETCHED C
bBILABIAL CLICK;bSMALL CAPITAL B;aSMALL LETTER CLOSED OPEN E;aLETTER SMALL CAPITAL G WITH HOOK
dH;aSMALL LETTER J WITH CROSSED-TAIL;cTURNED K;aLETTER SMALL CAPITAL L
aSMALL LETTER Q WITH HOOK;aLETTER GLOTTAL STOP WITH STROKE;bREVERSED+d;aSMALL LETTER DZ DIGRAPH
cDEZH+a;cDZ DIGRAPH WITH CURL;cTS DIGRAPH;cTESH+a;cTC DIGRAPH WITH CURL;cFENG DIGRAPH;cLS+a
cLZ+a;aLETTER BILABIAL PERCUSSIVE;bBIDENTAL+a;aSMALL LETTER TURNED H WITH FISHHOOK;gAND TAIL
MODIFIER LETTER SMALL H;dWITH HOOK;cJ;cR;cTURNED R;eWITH HOOK;cCAPITAL INVERTED R;cW;cY;bPRIME
bDOUBLE+a;bTURNED COMMA;bAPOSTROPHE;bREVERSED COMMA;bRIGHT HALF RING;bLEFT+b;bGLOTTAL STOP
bREVERSED+b;bLEFT ARROWHEAD;bRIGHT+a;bUP+a;bDOWN+a;bCIRCUMFLEX ACCENT;CARON
MODIFIER LETTER VERTICAL LINE;bMACRON;bACUTE ACCENT;bGRAVE+a;bLOW VERTICAL LINE;cMACRON
cGRAVE ACCENT;cACUTE+a;bTRIANGULAR COLON;bHALF+b;bCENTRED RIGHT HALF RING;cLEFT+b;bUP TACK
bDOWN+a;bPLUS SIGN;bMINUS+a;BREVE;DOT ABOVE;RING+a;OGONEK;SMALL TILDE;DOUBLE ACUTE ACCENT
MODIFIER LETTER RHOTIC HOOK;bCROSS ACCENT;bSMALL GAMMA;cL;cS;cX;cREVERSED GLOTTAL STOP
bEXTRA-HIGH TONE BAR;bHIGH+b;bMID+b;bLOW+b;bEXTRA-LOW+b;bYIN DEPARTING TONE MARK;bYANG+c
bVOICING;bUNASPIRATED;bDOUBLE APOSTROPHE;bLOW DOWN ARROWHEAD;cUP+a;cLEFT+a;cRIGHT+a;cRING
bMIDDLE GRAVE ACCENT;cDOUBLE+b;dACUTE+a;bLOW TILDE;bRAISED COLON;bBEGIN HIGH TONE;bEND+b
bBEGIN LOW+a;bEND+b;bSHELF;bOPEN+a;bLOW LEFT ARROW;COMBINING GRAVE ACCENT;aACUTE+a
aCIRCUMFLEX+a;aTILDE;aMACRON;aOVERLINE;aBREVE;aDOT ABOVE;aDIAERESIS;aHOOK ABOVE;aRING+a
aDOUBLE ACUTE ACCENT;aCARON;aVERTICAL LINE ABOVE;aDOUBLE+c;bGRAVE ACCENT;aCANDRABINDU
aINVERTED BREVE;aTURNED COMMA ABOVE;a+b;aREVERSED+b;aCOMMA ABOVE RIGHT;aGRAVE ACCENT BELOW
aACUTE+b;aLEFT TACK+a;aRIGHT+b;aLEFT ANGLE ABOVE;aHORN;aLEFT HALF RING BELOW;aUP TACK+a;aDOWN+b
aPLUS SIGN+a;aMINUS+b;aPALATALIZED HOOK+a;aRETROFLEX+b;aDOT+a;aDIAERESIS+a;aRING+a;aCOMMA+a
aCEDILLA;aOGONEK;aVERTICAL LINE BELOW;aBRIDGE+a;aINVERTED DOUBLE ARCH+a;aCARON+a
aCIRCUMFLEX ACCENT+a;aBREVE+a;aINVERTED+b;aTILDE+a;aMACRON+a;aLOW LINE;aDOUBLE+b;aTILDE OVERLAY
aSHORT STROKE+a;aLONG+b;aSHORT SOLIDUS+a;aLONG+b;aRIGHT HALF RING BELOW;aINVERTED BRIDGE+a
aSQUARE+a;aSEAGULL+a;aX ABOVE;aVERTICAL TILDE;aDOUBLE OVERLINE;aGRAVE TONE MARK;aACUTE+b
aGREEK PERISPOMENI;bKORONIS;bDIALYTIKA TONOS;bYPOGEGRAMMENI;aBRIDGE ABOVE;aEQUALS SIGN BELOW
aDOUBLE VERTICAL LINE+a;aLEFT ANGLE+a;aNOT TILDE ABOVE;aHOMOTHETIC+a;aALMOST EQUAL TO+a
aLEFT RIGHT ARROW BELOW;aUPWARDS+b;aGRAPHEME JOINER;aRIGHT ARROWHEAD ABOVE;aLEFT HALF RING+a
aFERMATA;aX BELOW;aLEFT ARROWHEAD+a;aRIGHT+b;bARROWHEAD AND UP+b;bHALF RING ABOVE
aDOT ABOVE RIGHT;aASTERISK BELOW;aDOUBLE RING+a;aZIGZAG ABOVE;aDOUBLE BREVE BELOW;c;bMACRON
cBELOW;bTILDE;bINVERTED BREVE;bRIGHTWARDS ARROW BELOW;aLATIN SMALL LETTER A;dE;dI;dO;dU;dC;dD
dH;dM;dR;dT;dV;dX;GREEK CAPITAL LETTER HETA;aSMALL+b;aCAPITAL LETTER ARCHAIC SAMPI;aSMALL+c
aNUMERAL SIGN;aLOWER+b;aCAPITAL LETTER PAMPHYLIAN DIGAMMA;aSMALL+c"),
   (0x37A, "GREEK YPOGEGRAMMENI;aSMALL REVERSED LUNATE SIGMA SYMBOL;bDOTTED+c;bREVERSED+d
aQUESTION MARK;aCAPITAL LETTER YOT"),
   (0x384, "GREEK TONOS;aDIALYTIKA+a;aCAPITAL LETTER ALPHA WITH+a;aANO TELEIA
aCAPITAL LETTER EPSILON WITH TONOS;cETA+b;cIOTA+b"),
   (0x38C, "GREEK CAPITAL LETTER OMICRON WITH TONOS"),
   (0x38E, "GREEK CAPITAL LETTER UPSILON WITH TONOS;cOMEGA+b
aSMALL LETTER IOTA WITH DIALYTIKA AND+a;aCAPITAL LETTER ALPHA;cBETA;cGAMMA;cDELTA;cEPSILON
cZETA;cETA;cTHETA;cIOTA;cKAPPA;cLAMDA;cMU;cNU;cXI;cOMICRON;cPI;cRHO"),
   (0x3A3, "GREEK CAPITAL LETTER SIGMA;cTAU;cUPSILON;cPHI;cCHI;cPSI;cOMEGA;cIOTA WITH DIALYTIKA
cUPSILON+b;aSMALL LETTER ALPHA WITH TONOS;cEPSILON+b;cETA+b;cIOTA+b
cUPSILON WITH DIALYTIKA AND+a;cALPHA;cBETA;cGAMMA;cDELTA;cEPSILON;cZETA;cETA;cTHETA;cIOTA
cKAPPA;cLAMDA;cMU;cNU;cXI;cOMICRON;cPI;cRHO;cFINAL SIGMA;c+a;cTAU;cUPSILON;cPHI;cCHI;cPSI
cOMEGA;cIOTA WITH DIALYTIKA;cUPSILON+b;cOMICRON WITH TONOS;cUPSILON+b;cOMEGA+b
aCAPITAL KAI SYMBOL;aBETA+a;aTHETA+a;aUPSILON WITH HOOK+a;cACUTE AND+b;cDIAERESIS+c;aPHI+a
aPI+a;aKAI+a;aLETTER ARCHAIC KOPPA;aSMALL+c;aLETTER STIGMA;aSMALL+b;aLETTER DIGAMMA;aSMALL+b
aLETTER KOPPA;aSMALL+b;aLETTER SAMPI;aSMALL+b;COPTIC CAPITAL LETTER SHEI;aSMALL+b
aCAPITAL LETTER FEI;aSMALL+b;aCAPITAL LETTER KHEI;aSMALL+b;aCAPITAL LETTER HORI;aSMALL+b
aCAPITAL LETTER GANGIA;aSMALL+b;aCAPITAL LETTER SHIMA;aSMALL+b;aCAPITAL LETTER DEI;aSMALL+b
GREEK KAPPA SYMBOL;aRHO+a;aLUNATE SIGMA+a;aLETTER YOT;aCAPITAL THETA SYMBOL;aLUNATE EPSILON+a
aREVERSED+c;aCAPITAL LETTER SHO;aSMALL+b;aCAPITAL LUNATE SIGMA SYMBOL;bLETTER SAN;aSMALL+b
aRHO WITH STROKE SYMBOL;aCAPITAL REVERSED LUNATE SIGMA+a;bDOTTED+c;bREVERSED+d
CYRILLIC CAPITAL LETTER IE WITH GRAVE;cIO;cDJE;cGJE;cUKRAINIAN IE;cDZE
cBYELORUSSIAN-UKRAINIAN I;cYI;cJE;cLJE;cNJE;cTSHE;cKJE;cI WITH GRAVE;cSHORT U;cDZHE;cA;cBE;cVE
cGHE;cDE;cIE;cZHE;cZE;cI;cSHORT I;cKA;cEL;cEM;cEN;cO;cPE;cER;cES;cTE;cU;cEF;cHA;cTSE;cCHE;cSHA
cSHCHA;cHARD SIGN;cYERU;cSOFT SIGN;cE;cYU;cYA;aSMALL LETTER A;cBE;cVE;cGHE;cDE;cIE;cZHE;cZE;cI
cSHORT I;cKA;cEL;cEM;cEN;cO;cPE;cER;cES;cTE;cU;cEF;cHA;cTSE;cCHE;cSHA;cSHCHA;cHARD SIGN;cYERU
cSOFT SIGN;cE;cYU;cYA;cIE WITH GRAVE;cIO;cDJE;cGJE;cUKRAINIAN IE;cDZE;cBYELORUSSIAN-UKRAINIAN I
cYI;cJE;cLJE;cNJE;cTSHE;cKJE;cI WITH GRAVE;cSHORT U;cDZHE;aCAPITAL LETTER OMEGA;aSMALL+b
aCAPITAL LETTER YAT;aSMALL+b;aCAPITAL LETTER IOTIFIED E;aSMALL+c;aCAPITAL LETTER LITTLE YUS
aSMALL+c;aCAPITAL LETTER IOTIFIED+b;aSMALL+d;aCAPITAL LETTER BIG+a;aSMALL+c
aCAPITAL LETTER IOTIFIED+b;aSMALL+d;aCAPITAL LETTER KSI;aSMALL+b;aCAPITAL LETTER PSI;aSMALL+b
aCAPITAL LETTER FITA;aSMALL+b;aCAPITAL LETTER IZHITSA;aSMALL+b
aCAPITAL LETTER IZHITSA WITH DOUBLE GRAVE ACCENT;aSMALL+f;aCAPITAL LETTER UK;aSMALL+b
aCAPITAL LETTER ROUND OMEGA;aSMALL+c;aCAPITAL LETTER OMEGA WITH TITLO;aSMALL+d
aCAPITAL LETTER OT;aSMALL+b;aCAPITAL LETTER KOPPA;aSMALL+b;aTHOUSANDS SIGN
COMBINING CYRILLIC TITLO;bPALATALIZATION;bDASIA PNEUMATA;bPSILI+a;bPOKRYTIE
bHUNDRED THOUSANDS SIGN;bMILLIONS+a;CYRILLIC CAPITAL LETTER SHORT I WITH TAIL;aSMALL+e
aCAPITAL LETTER SEMISOFT SIGN;aSMALL+c;aCAPITAL LETTER ER WITH TICK;aSMALL+d
aCAPITAL LETTER GHE WITH UPTURN;aSMALL+d;aCAPITAL LETTER GHE WITH STROKE;aSMALL+d
aCAPITAL LETTER GHE WITH MIDDLE HOOK;aSMALL+e;aCAPITAL LETTER ZHE WITH DESCENDER;aSMALL+d
aCAPITAL LETTER ZE+b;aSMALL+d;aCAPITAL LETTER KA+b;aSMALL+d
aCAPITAL LETTER KA WITH VERTICAL STROKE;aSMALL+e;aCAPITAL LETTER KA WITH+a;aSMALL+d
aCAPITAL LETTER BASHKIR KA;aSMALL+c;aCAPITAL LETTER EN WITH DESCENDER;aSMALL+d
aCAPITAL LIGATURE EN GHE;aSMALL+c;aCAPITAL LETTER PE WITH MIDDLE HOOK;aSMALL+e
aCAPITAL LETTER ABKHASIAN HA;aSMALL+c;aCAPITAL LETTER ES WITH DESCENDER;aSMALL+d
aCAPITAL LETTER TE+b;aSMALL+d;aCAPITAL LETTER STRAIGHT U;aSMALL+c
aCAPITAL LETTER STRAIGHT U WITH STROKE;aSMALL+e;aCAPITAL LETTER HA WITH DESCENDER;aSMALL+d
aCAPITAL LIGATURE TE TSE;aSMALL+c;aCAPITAL LETTER CHE WITH DESCENDER;aSMALL+d
aCAPITAL LETTER CHE WITH VERTICAL STROKE;aSMALL+e;aCAPITAL LETTER SHHA;aSMALL+b
aCAPITAL LETTER ABKHASIAN CHE;aSMALL+c;aCAPITAL LETTER ABKHASIAN CHE WITH DESCENDER;aSMALL+e
aLETTER PALOCHKA;aCAPITAL LETTER ZHE WITH BREVE;aSMALL+d;aCAPITAL LETTER KA WITH HOOK;aSMALL+d
aCAPITAL LETTER EL WITH TAIL;aSMALL+d;aCAPITAL LETTER EN WITH HOOK;aSMALL+d
aCAPITAL LETTER EN WITH TAIL;aSMALL+d;aCAPITAL LETTER KHAKASSIAN CHE;aSMALL+c
aCAPITAL LETTER EM WITH TAIL;aSMALL+d;cPALOCHKA;aCAPITAL LETTER A WITH BREVE;aSMALL+d
aCAPITAL LETTER A WITH DIAERESIS;aSMALL+d;aCAPITAL LIGATURE A IE;aSMALL+c
aCAPITAL LETTER IE WITH BREVE;aSMALL+d;aCAPITAL LETTER SCHWA;aSMALL+b
aCAPITAL LETTER SCHWA WITH DIAERESIS;aSMALL+d;aCAPITAL LETTER ZHE+b;aSMALL+d
aCAPITAL LETTER ZE+b;aSMALL+d;aCAPITAL LETTER ABKHASIAN DZE;aSMALL+c
aCAPITAL LETTER I WITH MACRON;aSMALL+d;aCAPITAL LETTER I WITH DIAERESIS;aSMALL+d
aCAPITAL LETTER O+b;aSMALL+d;aCAPITAL LETTER BARRED O;aSMALL+c
aCAPITAL LETTER BARRED O WITH DIAERESIS;aSMALL+e;aCAPITAL LETTER E+b;aSMALL+d
aCAPITAL LETTER U WITH MACRON;aSMALL+d;aCAPITAL LETTER U WITH DIAERESIS;aSMALL+d
aCAPITAL LETTER U WITH DOUBLE ACUTE;aSMALL+e;aCAPITAL LETTER CHE WITH DIAERESIS;aSMALL+d
aCAPITAL LETTER GHE WITH DESCENDER;aSMALL+d;aCAPITAL LETTER YERU WITH DIAERESIS;aSMALL+d
aCAPITAL LETTER GHE WITH STROKE AND HOOK;aSMALL+f;aCAPITAL LETTER HA WITH+a;aSMALL+d
aCAPITAL LETTER HA WITH STROKE;aSMALL+d;aCAPITAL LETTER KOMI DE;aSMALL+c
aCAPITAL LETTER KOMI DJE;aSMALL+c;aCAPITAL LETTER KOMI ZJE;aSMALL+c;aCAPITAL LETTER KOMI DZJE
aSMALL+c;aCAPITAL LETTER KOMI LJE;aSMALL+c;aCAPITAL LETTER KOMI NJE;aSMALL+c
aCAPITAL LETTER KOMI SJE;aSMALL+c;aCAPITAL LETTER KOMI TJE;aSMALL+c;aCAPITAL LETTER REVERSED ZE
aSMALL+c;aCAPITAL LETTER EL WITH HOOK;aSMALL+d;aCAPITAL LETTER LHA;aSMALL+b;aCAPITAL LETTER RHA
aSMALL+b;aCAPITAL LETTER YAE;aSMALL+b;aCAPITAL LETTER QA;aSMALL+b;aCAPITAL LETTER WE;aSMALL+b
aCAPITAL LETTER ALEUT KA;aSMALL+c;aCAPITAL LETTER EL WITH MIDDLE HOOK;aSMALL+e
aCAPITAL LETTER EN+c;aSMALL+e;aCAPITAL LETTER PE WITH DESCENDER;aSMALL+d;aCAPITAL LETTER SHHA+b
aSMALL+d;aCAPITAL LETTER EN WITH LEFT HOOK;aSMALL+e;aCAPITAL LETTER DZZHE;aSMALL+b
aCAPITAL LETTER DCHE;aSMALL+b;aCAPITAL LETTER EL WITH DESCENDER;aSMALL+d"),
   (0x531, "ARMENIAN CAPITAL LETTER AYB;cBEN;cGIM;cDA;cECH;cZA;cEH;cET;cTO;cZHE;cINI;cLIWN;cXEH
cCA;cKEN;cHO;cJA;cGHAD;cCHEH;cMEN;cYI;cNOW;cSHA;cVO;cCHA;cPEH;cJHEH;cRA;cSEH;cVEW;cTIWN;cREH
cCO;cYIWN;cPIWR;cKEH;cOH;cFEH"),
   (0x559, "ARMENIAN MODIFIER LETTER LEFT HALF RING;aAPOSTROPHE;aEMPHASIS MARK;aEXCLAMATION+a
aCOMMA;aQUESTION MARK;aABBREVIATION+a;aSMALL LETTER TURNED AYB;c+a;cBEN;cGIM;cDA;cECH;cZA;cEH
cET;cTO;cZHE;cINI;cLIWN;cXEH;cCA;cKEN;cHO;cJA;cGHAD;cCHEH;cMEN;cYI;cNOW;cSHA;cVO;cCHA;cPEH
cJHEH;cRA;cSEH;cVEW;cTIWN;cREH;cCO;cYIWN;cPIWR;cKEH;cOH;cFEH;bLIGATURE ECH YIWN
bLETTER YI WITH STROKE;aFULL STOP;aHYPHEN"),
   (0x58D, "RIGHT-FACING ARMENIAN ETERNITY SIGN;LEFT-FACING+c;ARMENIAN DRAM+a"),
   (0x591, "HEBREW ACCENT ETNAHTA;bSEGOL;bSHALSHELET;bZAQEF QATAN;cGADOL;bTIPEHA;bREVIA;bZARQA
bPASHTA;bYETIV;bTEVIR;bGERESH;cMUQDAM;bGERSHAYIM;bQARNEY PARA;bTELISHA GEDOLA;bPAZER
bATNAH HAFUKH;bMUNAH;bMAHAPAKH;bMERKHA;cKEFULA;bDARGA;bQADMA;bTELISHA QETANA;bYERAH BEN YOMO
bOLE;bILUY;bDEHI;bZINOR;aMARK MASORA CIRCLE;aPOINT SHEVA;bHATAF SEGOL;cPATAH;cQAMATS;bHIRIQ
bTSERE;bSEGOL;bPATAH;bQAMATS;bHOLAM;cHASER FOR VAV;bQUBUTS;bDAGESH OR MAPIQ;bMETEG
aPUNCTUATION MAQAF;aPOINT RAFE;aPUNCTUATION PASEQ;aPOINT SHIN DOT;bSIN+a;aPUNCTUATION SOF PASUQ
aMARK UPPER DOT;bLOWER+a;aPUNCTUATION NUN HAFUKHA;aPOINT QAMATS QATAN"),
   (0x5D0, "HEBREW LETTER ALEF;bBET;bGIMEL;bDALET;bHE;bVAV;bZAYIN;bHET;bTET;bYOD;bFINAL KAF;b+a
bLAMED;bFINAL MEM;b+a;bFINAL NUN;b+a;bSAMEKH;bAYIN;bFINAL PE;bPE;bFINAL TSADI;b+a;bQOF;bRESH
bSHIN;bTAV"),
   (0x5EF, "HEBREW YOD TRIANGLE;aLIGATURE YIDDISH DOUBLE VAV;cVAV YOD;cDOUBLE+a
aPUNCTUATION GERESH;bGERSHAYIM"),
   (0x600, "ARABIC NUMBER SIGN;aSIGN SANAH;aFOOTNOTE MARKER;aSIGN SAFHA;bSAMVAT
aNUMBER MARK ABOVE;ARABIC-INDIC CUBE ROOT;aFOURTH+a;ARABIC RAY;ARABIC-INDIC PER MILLE SIGN
bTEN THOUSAND+a;AFGHANI+a;ARABIC COMMA;aDATE SEPARATOR;aPOETIC VERSE SIGN;aSIGN MISRA
bSALLALLAHOU ALAYHE WASSALLAM;bALAYHE ASSALLAM;bRAHMATULLAH ALAYHE;bRADI ALLAHOU ANHU
bTAKHALLUS;aSMALL HIGH TAH;cLIGATURE ALEF WITH LAM WITH YEH;cZAIN;bFATHA;bDAMMA;bKASRA
aSEMICOLON;aLETTER MARK;aEND OF TEXT+a;aTRIPLE DOT PUNCTUATION+a;aQUESTION+a
aLETTER KASHMIRI YEH;bHAMZA;bALEF WITH MADDA ABOVE;dHAMZA+a;bWAW+c;bALEF WITH HAMZA BELOW
bYEH WITH HAMZA ABOVE;bALEF;bBEH;bTEH MARBUTA;c;bTHEH;bJEEM;bHAH;bKHAH;bDAL;bTHAL;bREH;bZAIN
bSEEN;bSHEEN;bSAD;bDAD;bTAH;bZAH;bAIN;bGHAIN;bKEHEH WITH TWO DOTS ABOVE;dTHREE DOTS BELOW
bFARSI YEH WITH INVERTED V;eTWO DOTS ABOVE;eTHREE+b;aTATWEEL;aLETTER FEH;bQAF;bKAF;bLAM;bMEEM
bNOON;bHEH;bWAW;bALEF MAKSURA;bYEH;aFATHATAN;aDAMMATAN;aKASRATAN;aFATHA;aDAMMA;aKASRA;aSHADDA
aSUKUN;aMADDAH ABOVE;aHAMZA+a;bBELOW;aSUBSCRIPT ALEF;aINVERTED DAMMA;aMARK NOON GHUNNA
aZWARAKAY;aVOWEL SIGN SMALL V ABOVE;cINVERTED+c;cDOT BELOW;aREVERSED DAMMA;aFATHA WITH TWO DOTS
aWAVY HAMZA BELOW;ARABIC-INDIC DIGIT ZERO;bONE;bTWO;bTHREE;bFOUR;bFIVE;bSIX;bSEVEN;bEIGHT;bNINE
ARABIC PERCENT SIGN;aDECIMAL SEPARATOR;aTHOUSANDS+a;aFIVE POINTED STAR;aLETTER DOTLESS BEH;cQAF
bSUPERSCRIPT ALEF;bALEF WASLA;cWITH WAVY HAMZA ABOVE;fBELOW;bHIGH HAMZA;dALEF;dWAW
bU WITH HAMZA ABOVE;bHIGH HAMZA YEH;bTTEH;bTTEHEH;bBEEH;bTEH WITH RING
dTHREE DOTS ABOVE DOWNWARDS;bPEH;bTEHEH;bBEHEH;bHAH WITH HAMZA ABOVE;dTWO DOTS VERTICAL+a;bNYEH
bDYEH;bHAH WITH THREE DOTS ABOVE;bTCHEH;bTCHEHEH;bDDAL;bDAL WITH RING;dDOT BELOW;fAND SMALL TAH
bDAHAL;bDDAHAL;bDUL;bDAL WITH THREE DOTS ABOVE DOWNWARDS;dFOUR DOTS ABOVE;bRREH
bREH WITH SMALL V;dRING;dDOT BELOW;dSMALL V+a;dDOT BELOW AND DOT ABOVE;dTWO DOTS+a;bJEH
bREH WITH FOUR DOTS ABOVE;bSEEN WITH DOT BELOW AND DOT+a;dTHREE DOTS BELOW
gAND THREE DOTS ABOVE;bSAD WITH TWO DOTS BELOW;dTHREE DOTS ABOVE;bTAH+d;bAIN+d;bDOTLESS FEH
bFEH WITH DOT MOVED BELOW;e+a;bVEH;bFEH WITH THREE DOTS BELOW;bPEHEH;bQAF WITH DOT ABOVE
dTHREE DOTS+a;bKEHEH;bSWASH KAF;bKAF WITH RING;dDOT ABOVE;bNG;bKAF WITH THREE DOTS BELOW;bGAF
cWITH RING;bNGOEH;bGAF WITH TWO DOTS BELOW;bGUEH;bGAF WITH THREE DOTS ABOVE;bLAM WITH SMALL V
dDOT ABOVE;dTHREE DOTS+a;fBELOW;bNOON WITH DOT+a;cGHUNNA;bRNOON;bNOON WITH RING
dTHREE DOTS ABOVE;bHEH DOACHASHMEE;bTCHEH WITH DOT ABOVE;bHEH WITH YEH+a;cGOAL
dWITH HAMZA ABOVE;bTEH MARBUTA GOAL;bWAW WITH RING;bKIRGHIZ OE;bOE;bU;bYU;bKIRGHIZ+a
bWAW WITH TWO DOTS ABOVE;bVE;bFARSI YEH;bYEH WITH TAIL;dSMALL V;bWAW WITH DOT ABOVE;bE
bYEH WITH THREE DOTS BELOW;cBARREE;dWITH HAMZA ABOVE;aFULL STOP;aLETTER AE
aSMALL HIGH LIGATURE SAD WITH LAM WITH ALEF MAKSURA;dQAF+e;cMEEM INITIAL FORM;cLAM ALEF;cJEEM
cTHREE DOTS;cSEEN;aEND OF AYAH;aSTART OF RUB EL HIZB;aSMALL HIGH ROUNDED ZERO
cUPRIGHT RECTANGULAR+a;cDOTLESS HEAD OF KHAH;cMEEM ISOLATED FORM;bLOW SEEN;bHIGH MADDA;bWAW
bYEH;bHIGH+a;cNOON;aPLACE OF SAJDAH;aEMPTY CENTRE LOW STOP;cHIGH+a
aROUNDED HIGH STOP WITH FILLED CENTRE;aSMALL LOW MEEM;aLETTER DAL WITH INVERTED V;bREH+c
EXTENDED ARABIC-INDIC DIGIT ZERO;cONE;cTWO;cTHREE;cFOUR;cFIVE;cSIX;cSEVEN;cEIGHT;cNINE
ARABIC LETTER SHEEN WITH DOT BELOW;bDAD+c;bGHAIN+c;aSIGN SINDHI AMPERSAND;cPOSTPOSITION MEN
aLETTER HEH WITH INVERTED V;SYRIAC END OF PARAGRAPH;aSUPRALINEAR FULL STOP;aSUBLINEAR+b
aSUPRALINEAR COLON;aSUBLINEAR+a;aHORIZONTAL+a;aCOLON SKEWED LEFT;cRIGHT
aSUPRALINEAR COLON SKEWED LEFT;aSUBLINEAR COLON SKEWED RIGHT;aCONTRACTION;aHARKLEAN OBELUS
bMETOBELUS;bASTERISCUS"),
   (0x70F, "SYRIAC ABBREVIATION MARK;aLETTER ALAPH;bSUPERSCRIPT+a;bBETH;bGAMAL;cGARSHUNI;bDALATH
bDOTLESS DALATH RISH;bHE;bWAW;bZAIN;bHETH;bTETH;cGARSHUNI;bYUDH;cHE;bKAPH;bLAMADH;bMIM;bNUN
bSEMKATH;bFINAL+a;bE;bPE;bREVERSED+a;bSADHE;bQAPH;bRISH;bSHIN;bTAW;bPERSIAN BHETH;cGHAMAL
cDHALATH;aPTHAHA ABOVE;bBELOW;bDOTTED;aZQAPHA ABOVE;bBELOW;bDOTTED;aRBASA ABOVE;bBELOW
aDOTTED ZLAMA HORIZONTAL;cANGULAR;aHBASA ABOVE;bBELOW;aHBASA-ESASA DOTTED;aESASA ABOVE;bBELOW
aRWAHA;aFEMININE DOT;aQUSHSHAYA;aRUKKAKHA;aTWO VERTICAL DOTS ABOVE;dBELOW;aTHREE DOTS ABOVE
cBELOW;aOBLIQUE LINE ABOVE;cBELOW;aMUSIC;aBARREKH"),
   (0x74D, "SYRIAC LETTER SOGDIAN ZHAIN;cKHAPH;cFE
ARABIC LETTER BEH WITH THREE DOTS HORIZONTALLY BELOW;dDOT BELOW AND THREE DOTS ABOVE
dTHREE DOTS POINTING UPWARDS BELOW;iAND TWO DOTS ABOVE;dTWO DOTS BELOW AND DOT+a
dINVERTED SMALL V BELOW;dSMALL V;bHAH WITH TWO DOTS ABOVE;dTHREE DOTS POINTING UPWARDS BELOW
bDAL WITH TWO DOTS VERTICALLY BELOW AND SMALL TAH;dINVERTED SMALL V BELOW;bREH WITH STROKE
bSEEN WITH FOUR DOTS ABOVE;bAIN WITH TWO+b;dTHREE DOTS POINTING DOWNWARDS+a
dTWO DOTS VERTICALLY+a;bFEH WITH TWO DOTS BELOW;dTHREE DOTS POINTING UPWARDS+a
bKEHEH WITH DOT ABOVE;dTHREE DOTS+a;fPOINTING UPWARDS BELOW;bMEEM WITH DOT ABOVE;eBELOW
bNOON WITH TWO DOTS+a;dSMALL TAH;eV;bLAM WITH BAR;bREH WITH TWO DOTS VERTICALLY ABOVE;dHAMZA+a
bSEEN WITH TWO DOTS VERTICALLY+a;bHAH WITH SMALL ARABIC LETTER TAH BELOW;hAND TWO DOTS;bSEEN+h
bREH+h;bHAH WITH SMALL ARABIC LETTER TAH ABOVE;bALEF WITH EXTENDED ARABIC-INDIC DIGIT TWO+a
gTHREE+a;bFARSI YEH WITH EXTENDED ARABIC-INDIC DIGIT TWO+a;hTHREE+a;hFOUR BELOW
bWAW WITH EXTENDED ARABIC-INDIC DIGIT TWO ABOVE;gTHREE+a
bYEH BARREE WITH EXTENDED ARABIC-INDIC DIGIT TWO+a;hTHREE+a
bHAH WITH EXTENDED ARABIC-INDIC DIGIT FOUR BELOW
bSEEN WITH EXTENDED ARABIC-INDIC DIGIT FOUR ABOVE;dINVERTED V;bKAF WITH TWO DOTS ABOVE
THAANA LETTER HAA;bSHAVIYANI;bNOONU;bRAA;bBAA;bLHAVIYANI;bKAAFU;bALIFU;bVAAVU;bMEEMU;bFAAFU
bDHAALU;bTHAA;bLAAMU;bGAAFU;bGNAVIYANI;bSEENU;bDAVIYANI;bZAVIYANI;bTAVIYANI;bYAA;bPAVIYANI
bJAVIYANI;bCHAVIYANI;bTTAA;bHHAA;bKHAA;bTHAALU;bZAA;bSHEENU;bSAADHU;bDAADHU;bTO;bZO;bAINU
bGHAINU;bQAAFU;bWAAVU;aABAFILI;aAABAAFILI;aIBIFILI;aEEBEEFILI;aUBUFILI;aOOBOOFILI;aEBEFILI
aEYBEYFILI;aOBOFILI;aOABOAFILI;aSUKUN;aLETTER NAA"),
   (0x7C0, "NKO DIGIT ZERO;bONE;bTWO;bTHREE;bFOUR;bFIVE;bSIX;bSEVEN;bEIGHT;bNINE;aLETTER A;bEE
bI;bE;bU;bOO;bO;bDAGBASINNA;bN;bBA;bPA;bTA;bJA;bCHA;bDA;bRA;bRRA;bSA;bGBA;bFA;bKA;bLA
bNA WOLOSO;bMA;bNYA;bNA;bHA;bWA;bYA;bNYA WOLOSO;bJONA JA;cCHA;cRA;aCOMBINING SHORT HIGH TONE
cLOW+a;cRISING+a;bLONG DESCENDING+a;cHIGH+a;cLOW+a;cRISING+a;bNASALIZATION MARK
bDOUBLE DOT ABOVE;aHIGH TONE APOSTROPHE;aLOW+b;aSYMBOL OO DENNEN;bGBAKURUNEN;aCOMMA
aEXCLAMATION MARK;aLAJANYALAN"),
   (0x7FD, "NKO DANTAYALAN;aDOROME SIGN;aTAMAN+a;SAMARITAN LETTER ALAF;bBIT;bGAMAN;bDALAT;bIY
bBAA;bZEN;bIT;bTIT;bYUT;bKAAF;bLABAT;bMIM;bNUN;bSINGAAT;bIN;bFI;bTSAADIY;bQUF;bRISH;bSHAN;bTAAF
aMARK IN;bIN-ALAF;bOCCLUSION;bDAGESH;aMODIFIER LETTER EPENTHETIC YUT;aMARK+b;aVOWEL SIGN LONG E
cE;cOVERLONG AA;cLONG+a;cAA;cOVERLONG A;cLONG A;cA;aMODIFIER LETTER SHORT A;aVOWEL SIGN+b
cLONG U;cU;aMODIFIER LETTER I;aVOWEL SIGN LONG I;cI;cO;cSUKUN;aMARK NEQUDAA"),
   (0x830, "SAMARITAN PUNCTUATION NEQUDAA;bAFSAAQ;bANGED;bBAU;bATMAAU;bSHIYYAALAA
aABBREVIATION MARK;aPUNCTUATION MELODIC QITSA;bZIQAA;bQITSA;bZAEF;bTURU;bARKAANU;bSOF MASHFAAT
bANNAAU"),
   (0x840, "MANDAIC LETTER HALQA;bAB;bAG;bAD;bAH;bUSHENNA;bAZ;bIT;bATT;bAKSA;bAK;bAL;bAM;bAN;bAS
bIN;bAP;bASZ;bAQ;bAR;bASH;bAT;bDUSHENNA;bKAD;bAIN;aAFFRICATION MARK;aVOCALIZATION+a
aGEMINATION+a"),
   (0x85E, "MANDAIC PUNCTUATION"),
   (0x860, "SYRIAC LETTER MALAYALAM NGA;cJA;cNYA;cTTA;cNNA;cNNNA;cBHA;cRA;cLLA;cLLLA;cSSA"),
   (0x870, "ARABIC LETTER ALEF WITH ATTACHED FATHA;eTOP RIGHT+a;dRIGHT MIDDLE STROKE;dLEFT+b
dATTACHED KASRA;eBOTTOM RIGHT+a;eROUND DOT ABOVE;eRIGHT ROUND DOT;eLEFT+b;eROUND DOT BELOW
dDOT ABOVE;dATTACHED TOP RIGHT FATHA AND+b;dRIGHT MIDDLE STROKE+c
dATTACHED BOTTOM RIGHT KASRA+c;eTOP RIGHT FATHA AND LEFT RING;dRIGHT MIDDLE STROKE+c
dATTACHED BOTTOM RIGHT KASRA+c;eRIGHT HAMZA;eLEFT+a;aTATWEEL WITH OVERSTRUCK+a;dWAW
cTWO DOTS BELOW;aLETTER THIN YEH;aBASELINE ROUND DOT;aRAISED+b
aLETTER NOON WITH INVERTED SMALL V;bHAH WITH INVERTED SMALL V BELOW;bTAH WITH DOT+a
dTHREE DOTS+a;bKEHEH WITH TWO DOTS VERTICALLY+a;aVERTICAL TAIL"),
   (0x890, "ARABIC POUND MARK ABOVE;aPIASTRE+b"),
   (0x898, "ARABIC SMALL HIGH WORD AL-JUZ;bLOW WORD ISHMAAM;dIMAALA;dTASHEEL;aMADDA WAAJIB
aSUPERSCRIPT ALEF MOKHASSAS;aDOUBLED MADDA;aHALF MADDA OVER+a;aLETTER BEH WITH SMALL V BELOW
dHAMZA ABOVE;bJEEM WITH TWO DOTS+a;bTAH+d;bFEH WITH DOT BELOW AND THREE+b;bQAF WITH DOT BELOW
bLAM WITH DOUBLE BAR;bMEEM WITH THREE DOTS ABOVE;bYEH WITH TWO DOTS BELOW AND HAMZA+a;hDOT+a
bREH WITH LOOP;bWAW WITH DOT WITHIN;bROHINGYA YEH;bLOW ALEF;bDAL WITH THREE DOTS BELOW;bSAD+d
bGAF WITH INVERTED STROKE;bSTRAIGHT WAW;bZAIN WITH INVERTED V ABOVE;bAIN WITH THREE DOTS BELOW
bKAF WITH DOT+a;bQAF WITH DOT BELOW AND NO DOTS ABOVE;bBEH WITH SMALL MEEM+a;bPEH+d
bTEH WITH SMALL TEH+a;bREH WITH SMALL NOON+a;bYEH WITH TWO DOTS BELOW AND+c;bAFRICAN FEH;cQAF
cNOON;bPEH WITH SMALL V;bTEH+c;bTTEH+c;bTCHEH+c;bKEHEH+c;bGHAIN WITH THREE DOTS ABOVE
bAFRICAN QAF+d;bJEEM+d;fBELOW;bLAM WITH SMALL ARABIC LETTER TAH ABOVE;bGRAF;aSMALL FARSI YEH
bHIGH+b;cYEH BARREE WITH TWO DOTS BELOW;cWORD SAH;cZAH;aLARGE ROUND DOT ABOVE;dBELOW;aSUKUN+a
aLARGE CIRCLE+a;bROUND DOT INSIDE+b;aSMALL LOW WAW;bHIGH WORD AR-RUB;cSAD;cAIN;cQAF
cNOON WITH KASRA;bLOW+c;bHIGH WORD ATH-THALATHA;dAS-SAJDA;dAN-NISF;dSAKTA;dQIF;dWAQFA
cFOOTNOTE MARKER;cSIGN SAFHA;aDISPUTED END OF AYAH;aTURNED DAMMA BELOW;aCURLY FATHA;bDAMMA
bKASRA;bFATHATAN;bDAMMATAN;bKASRATAN;aTONE ONE DOT ABOVE;bTWO DOTS+a;bLOOP+a;bONE DOT BELOW
bTWO DOTS+a;bLOOP+a;aOPEN FATHATAN;bDAMMATAN;bKASRATAN;aSMALL HIGH WAW;aFATHA WITH RING
cDOT ABOVE;aKASRA WITH DOT BELOW;aLEFT ARROWHEAD ABOVE;aRIGHT+b;aLEFT ARROWHEAD BELOW;aRIGHT+b
aDOUBLE RIGHT ARROWHEAD ABOVE;eWITH DOT;a+e;aDAMMA+b;aMARK SIDEWAYS NOON GHUNNA
DEVANAGARI SIGN INVERTED CANDRABINDU;b+a;bANUSVARA;bVISARGA;aLETTER SHORT A;bA;bAA;bI;bII;bU
bUU;bVOCALIC R;cL;bCANDRA E;bSHORT E;bE;bAI;bCANDRA O;bSHORT O;bO;bAU;bKA;bKHA;bGA;bGHA;bNGA
bCA;bCHA;bJA;bJHA;bNYA;bTTA;bTTHA;bDDA;bDDHA;bNNA;bTA;bTHA;bDA;bDHA;bNA;bNNNA;bPA;bPHA;bBA;bBHA
bMA;bYA;bRA;bRRA;bLA;bLLA;bLLLA;bVA;bSHA;bSSA;bSA;bHA;aVOWEL SIGN OE;cOOE;aSIGN NUKTA;bAVAGRAHA
aVOWEL SIGN AA;cI;cII;cU;cUU;cVOCALIC R;dRR;cCANDRA E;cSHORT E;cE;cAI;cCANDRA O;cSHORT O;cO;cAU
aSIGN VIRAMA;aVOWEL SIGN PRISHTHAMATRA E;cAW;aOM;aSTRESS SIGN UDATTA;cANUDATTA;aGRAVE ACCENT
aACUTE+a;aVOWEL SIGN CANDRA LONG E;cUE;cUUE;aLETTER QA;bKHHA;bGHHA;bZA;bDDDHA;bRHA;bFA;bYYA
bVOCALIC RR;cLL;aVOWEL SIGN VOCALIC L;dLL;aDANDA;aDOUBLE+a;aDIGIT ZERO;bONE;bTWO;bTHREE;bFOUR
bFIVE;bSIX;bSEVEN;bEIGHT;bNINE;aABBREVIATION SIGN;aSIGN HIGH SPACING DOT;aLETTER CANDRA A;bOE
bOOE;bAW;bUE;bUUE;bMARWARI DDA;bZHA;bHEAVY YA;bGGA;bJJA;bGLOTTAL STOP;bDDDA;bBBA;BENGALI ANJI
aSIGN CANDRABINDU;bANUSVARA;bVISARGA"),
   (0x985, "BENGALI LETTER A;bAA;bI;bII;bU;bUU;bVOCALIC R;cL"),
   (0x98F, "BENGALI LETTER E;bAI"),
   (0x993, "BENGALI LETTER O;bAU;bKA;bKHA;bGA;bGHA;bNGA;bCA;bCHA;bJA;bJHA;bNYA;bTTA;bTTHA;bDDA
bDDHA;bNNA;bTA;bTHA;bDA;bDHA;bNA"),
   (0x9AA, "BENGALI LETTER PA;bPHA;bBA;bBHA;bMA;bYA;bRA"),
   (0x9B2, "BENGALI LETTER LA"),
   (0x9B6, "BENGALI LETTER SHA;bSSA;bSA;bHA"),
   (0x9BC, "BENGALI SIGN NUKTA;bAVAGRAHA;aVOWEL SIGN AA;cI;cII;cU;cUU;cVOCALIC R;dRR"),
   (0x9C7, "BENGALI VOWEL SIGN E;cAI"),
   (0x9CB, "BENGALI VOWEL SIGN O;cAU;aSIGN VIRAMA;aLETTER KHANDA TA"),
   (0x9D7, "BENGALI AU LENGTH MARK"),
   (0x9DC, "BENGALI LETTER RRA;bRHA"),
   (0x9DF, "BENGALI LETTER YYA;bVOCALIC RR;cLL;aVOWEL SIGN VOCALIC L;dLL"),
   (0x9E6, "BENGALI DIGIT ZERO;bONE;bTWO;bTHREE;bFOUR;bFIVE;bSIX;bSEVEN;bEIGHT;bNINE
aLETTER RA WITH MIDDLE DIAGONAL;dLOWER+a;aRUPEE MARK;bSIGN;aCURRENCY NUMERATOR ONE;cTWO;cTHREE
cFOUR;cONE LESS THAN THE DENOMINATOR;bDENOMINATOR SIXTEEN;aISSHAR;aGANDA MARK
aLETTER VEDIC ANUSVARA;aABBREVIATION SIGN;aSANDHI MARK"),
   (0xA01, "GURMUKHI SIGN ADAK BINDI;b+a;bVISARGA"),
   (0xA05, "GURMUKHI LETTER A;bAA;bI;bII;bU;bUU"),
   (0xA0F, "GURMUKHI LETTER EE;bAI"),
   (0xA13, "GURMUKHI LETTER OO;bAU;bKA;bKHA;bGA;bGHA;bNGA;bCA;bCHA;bJA;bJHA;bNYA;bTTA;bTTHA;bDDA
bDDHA;bNNA;bTA;bTHA;bDA;bDHA;bNA"),
   (0xA2A, "GURMUKHI LETTER PA;bPHA;bBA;bBHA;bMA;bYA;bRA"),
   (0xA32, "GURMUKHI LETTER LA;bLLA"),
   (0xA35, "GURMUKHI LETTER VA;bSHA"),
   (0xA38, "GURMUKHI LETTER SA;bHA"),
   (0xA3C, "GURMUKHI SIGN NUKTA"),
   (0xA3E, "GURMUKHI VOWEL SIGN AA;cI;cII;cU;cUU"),
   (0xA47, "GURMUKHI VOWEL SIGN EE;cAI"),
   (0xA4B, "GURMUKHI VOWEL SIGN OO;cAU;aSIGN VIRAMA"),
   (0xA51, "GURMUKHI SIGN UDAAT"),
   (0xA59, "GURMUKHI LETTER KHHA;bGHHA;bZA;bRRA"),
   (0xA5E, "GURMUKHI LETTER FA"),
   (0xA66, "GURMUKHI DIGIT ZERO;bONE;bTWO;bTHREE;bFOUR;bFIVE;bSIX;bSEVEN;bEIGHT;bNINE;aTIPPI
aADDAK;aIRI;aURA;aEK ONKAR;aSIGN YAKASH;aABBREVIATION SIGN"),
   (0xA81, "GUJARATI SIGN CANDRABINDU;bANUSVARA;bVISARGA"),
   (0xA85, "GUJARATI LETTER A;bAA;bI;bII;bU;bUU;bVOCALIC R;cL;aVOWEL CANDRA E"),
   (0xA8F, "GUJARATI LETTER E;bAI;aVOWEL CANDRA O"),
   (0xA93, "GUJARATI LETTER O;bAU;bKA;bKHA;bGA;bGHA;bNGA;bCA;bCHA;bJA;bJHA;bNYA;bTTA;bTTHA;bDDA
bDDHA;bNNA;bTA;bTHA;bDA;bDHA;bNA"),
   (0xAAA, "GUJARATI LETTER PA;bPHA;bBA;bBHA;bMA;bYA;bRA"),
   (0xAB2, "GUJARATI LETTER LA;bLLA"),
   (0xAB5, "GUJARATI LETTER VA;bSHA;bSSA;bSA;bHA"),
   (0xABC, "GUJARATI SIGN NUKTA;bAVAGRAHA;aVOWEL SIGN AA;cI;cII;cU;cUU;cVOCALIC R;dRR;cCANDRA E"),
   (0xAC7, "GUJARATI VOWEL SIGN E;cAI;cCANDRA O"),
   (0xACB, "GUJARATI VOWEL SIGN O;cAU;aSIGN VIRAMA"),
   (0xAD0, "GUJARATI OM"),
   (0xAE0, "GUJARATI LETTER VOCALIC RR;cLL;aVOWEL SIGN VOCALIC L;dLL"),
   (0xAE6, "GUJARATI DIGIT ZERO;bONE;bTWO;bTHREE;bFOUR;bFIVE;bSIX;bSEVEN;bEIGHT;bNINE
aABBREVIATION SIGN;aRUPEE+a"),
   (0xAF9, "GUJARATI LETTER ZHA;aSIGN SUKUN;bSHADDA;bMADDAH;bTHREE-DOT NUKTA ABOVE;bCIRCLE+b
bTWO-CIRCLE+b"),
   (0xB01, "ORIYA SIGN CANDRABINDU;bANUSVARA;bVISARGA"),
   (0xB05, "ORIYA LETTER A;bAA;bI;bII;bU;bUU;bVOCALIC R;cL"),
   (0xB0F, "ORIYA LETTER E;bAI"),
   (0xB13, "ORIYA LETTER O;bAU;bKA;bKHA;bGA;bGHA;bNGA;bCA;bCHA;bJA;bJHA;bNYA;bTTA;bTTHA;bDDA
bDDHA;bNNA;bTA;bTHA;bDA;bDHA;bNA"),
   (0xB2A, "ORIYA LETTER PA;bPHA;bBA;bBHA;bMA;bYA;bRA"),
   (0xB32, "ORIYA LETTER LA;bLLA"),
   (0xB35, "ORIYA LETTER VA;bSHA;bSSA;bSA;bHA"),
   (0xB3C, "ORIYA SIGN NUKTA;bAVAGRAHA;aVOWEL SIGN AA;cI;cII;cU;cUU;cVOCALIC R;dRR"),
   (0xB47, "ORIYA VOWEL SIGN E;cAI"),
   (0xB4B, "ORIYA VOWEL SIGN O;cAU;aSIGN VIRAMA"),
   (0xB55, "ORIYA SIGN OVERLINE;aAI LENGTH MARK;aAU+b"),
   (0xB5C, "ORIYA LETTER RRA;bRHA"),
   (0xB5F, "ORIYA LETTER YYA;bVOCALIC RR;cLL;aVOWEL SIGN VOCALIC L;dLL"),
   (0xB66, "ORIYA DIGIT ZERO;bONE;bTWO;bTHREE;bFOUR;bFIVE;bSIX;bSEVEN;bEIGHT;bNINE;aISSHAR
aLETTER WA;aFRACTION ONE QUARTER;cHALF;bTHREE QUARTERS;bONE SIXTEENTH;cEIGHTH;bTHREE SIXTEENTHS"),
   (0xB82, "TAMIL SIGN ANUSVARA;bVISARGA"),
   (0xB85, "TAMIL LETTER A;bAA;bI;bII;bU;bUU"),
   (0xB8E, "TAMIL LETTER E;bEE;bAI"),
   (0xB92, "TAMIL LETTER O;bOO;bAU;bKA"),
   (0xB99, "TAMIL LETTER NGA;bCA"),
   (0xB9C, "TAMIL LETTER JA"),
   (0xB9E, "TAMIL LETTER NYA;bTTA"),
   (0xBA3, "TAMIL LETTER NNA;bTA"),
   (0xBA8, "TAMIL LETTER NA;bNNNA;bPA"),
   (0xBAE, "TAMIL LETTER MA;bYA;bRA;bRRA;bLA;bLLA;bLLLA;bVA;bSHA;bSSA;bSA;bHA"),
   (0xBBE, "TAMIL VOWEL SIGN AA;cI;cII;cU;cUU"),
   (0xBC6, "TAMIL VOWEL SIGN E;cEE;cAI"),
   (0xBCA, "TAMIL VOWEL SIGN O;cOO;cAU;aSIGN VIRAMA"),
   (0xBD0, "TAMIL OM"),
   (0xBD7, "TAMIL AU LENGTH MARK"),
   (0xBE6, "TAMIL DIGIT ZERO;bONE;bTWO;bTHREE;bFOUR;bFIVE;bSIX;bSEVEN;bEIGHT;bNINE;aNUMBER TEN
bONE HUNDRED;cTHOUSAND;aDAY SIGN;aMONTH+a;aYEAR+a;aDEBIT+a;aCREDIT+a;aAS ABOVE+a;aRUPEE+a
aNUMBER+a"),
   (0xC00, "TELUGU SIGN COMBINING CANDRABINDU ABOVE;bCANDRABINDU;bANUSVARA;bVISARGA
bCOMBINING ANUSVARA ABOVE;aLETTER A;bAA;bI;bII;bU;bUU;bVOCALIC R;cL"),
   (0xC0E, "TELUGU LETTER E;bEE;bAI"),
   (0xC12, "TELUGU LETTER O;bOO;bAU;bKA;bKHA;bGA;bGHA;bNGA;bCA;bCHA;bJA;bJHA;bNYA;bTTA;bTTHA
bDDA;bDDHA;bNNA;bTA;bTHA;bDA;bDHA;bNA"),
   (0xC2A, "TELUGU LETTER PA;bPHA;bBA;bBHA;bMA;bYA;bRA;bRRA;bLA;bLLA;bLLLA;bVA;bSHA;bSSA;bSA;bHA"),
   (0xC3C, "TELUGU SIGN NUKTA;bAVAGRAHA;aVOWEL SIGN AA;cI;cII;cU;cUU;cVOCALIC R;dRR"),
   (0xC46, "TELUGU VOWEL SIGN E;cEE;cAI"),
   (0xC4A, "TELUGU VOWEL SIGN O;cOO;cAU;aSIGN VIRAMA"),
   (0xC55, "TELUGU LENGTH MARK;aAI+b"),
   (0xC58, "TELUGU LETTER TSA;bDZA;bRRRA"),
   (0xC5D, "TELUGU LETTER NAKAARA POLLU"),
   (0xC60, "TELUGU LETTER VOCALIC RR;cLL;aVOWEL SIGN VOCALIC L;dLL"),
   (0xC66, "TELUGU DIGIT ZERO;bONE;bTWO;bTHREE;bFOUR;bFIVE;bSIX;bSEVEN;bEIGHT;bNINE"),
   (0xC77, "TELUGU SIGN SIDDHAM;aFRACTION DIGIT ZERO FOR ODD POWERS OF FOUR;cONE+e;cTWO+e
cTHREE+e;cONE FOR EVEN+c;cTWO+e;cTHREE+e;aSIGN TUUMU;KANNADA SIGN SPACING CANDRABINDU;b+a
bANUSVARA;bVISARGA;bSIDDHAM;aLETTER A;bAA;bI;bII;bU;bUU;bVOCALIC R;cL"),
   (0xC8E, "KANNADA LETTER E;bEE;bAI"),
   (0xC92, "KANNADA LETTER O;bOO;bAU;bKA;bKHA;bGA;bGHA;bNGA;bCA;bCHA;bJA;bJHA;bNYA;bTTA;bTTHA
bDDA;bDDHA;bNNA;bTA;bTHA;bDA;bDHA;bNA"),
   (0xCAA, "KANNADA LETTER PA;bPHA;bBA;bBHA;bMA;bYA;bRA;bRRA;bLA;bLLA"),
   (0xCB5, "KANNADA LETTER VA;bSHA;bSSA;bSA;bHA"),
   (0xCBC, "KANNADA SIGN NUKTA;bAVAGRAHA;aVOWEL SIGN AA;cI;cII;cU;cUU;cVOCALIC R;dRR"),
   (0xCC6, "KANNADA VOWEL SIGN E;cEE;cAI"),
   (0xCCA, "KANNADA VOWEL SIGN O;cOO;cAU;aSIGN VIRAMA"),
   (0xCD5, "KANNADA LENGTH MARK;aAI+b"),
   (0xCDD, "KANNADA LETTER NAKAARA POLLU;bFA"),
   (0xCE0, "KANNADA LETTER VOCALIC RR;cLL;aVOWEL SIGN VOCALIC L;dLL"),
   (0xCE6, "KANNADA DIGIT ZERO;bONE;bTWO;bTHREE;bFOUR;bFIVE;bSIX;bSEVEN;bEIGHT;bNINE"),
   (0xCF1, "KANNADA SIGN JIHVAMULIYA;bUPADHMANIYA"),
   (0xD00, "MALAYALAM SIGN COMBINING ANUSVARA ABOVE;bCANDRABINDU;bANUSVARA;bVISARGA
aLETTER VEDIC ANUSVARA;bA;bAA;bI;bII;bU;bUU;bVOCALIC R;cL"),
   (0xD0E, "MALAYALAM LETTER E;bEE;bAI"),
   (0xD12, "MALAYALAM LETTER O;bOO;bAU;bKA;bKHA;bGA;bGHA;bNGA;bCA;bCHA;bJA;bJHA;bNYA;bTTA;bTTHA
bDDA;bDDHA;bNNA;bTA;bTHA;bDA;bDHA;bNA;bNNNA;bPA;bPHA;bBA;bBHA;bMA;bYA;bRA;bRRA;bLA;bLLA;bLLLA
bVA;bSHA;bSSA;bSA;bHA;bTTTA;aSIGN VERTICAL BAR VIRAMA;bCIRCULAR+a;bAVAGRAHA;aVOWEL SIGN AA;cI
cII;cU;cUU;cVOCALIC R;dRR"),
   (0xD46, "MALAYALAM VOWEL SIGN E;cEE;cAI"),
   (0xD4A, "MALAYALAM VOWEL SIGN O;cOO;cAU;aSIGN VIRAMA;aLETTER DOT REPH;aSIGN PARA"),
   (0xD54, "MALAYALAM LETTER CHILLU M;cY;cLLL;aAU LENGTH MARK
aFRACTION ONE ONE-HUNDRED-AND-SIXTIETH;cFORTIETH;bTHREE EIGHTIETHS;bONE TWENTIETH;cTENTH
bTHREE TWENTIETHS;bONE FIFTH;aLETTER ARCHAIC II;bVOCALIC RR;cLL;aVOWEL SIGN VOCALIC L;dLL"),
   (0xD66, "MALAYALAM DIGIT ZERO;bONE;bTWO;bTHREE;bFOUR;bFIVE;bSIX;bSEVEN;bEIGHT;bNINE
aNUMBER TEN;bONE HUNDRED;cTHOUSAND;aFRACTION ONE QUARTER;cHALF;bTHREE QUARTERS;bONE SIXTEENTH
cEIGHTH;bTHREE SIXTEENTHS;aDATE MARK;aLETTER CHILLU NN;cN;cRR;cL;cLL;cK"),
   (0xD81, "SINHALA SIGN CANDRABINDU;bANUSVARAYA;bVISARGAYA"),
   (0xD85, "SINHALA LETTER AYANNA;bAAYANNA;bAEYANNA;bAEEYANNA;bIYANNA;bIIYANNA;bUYANNA;bUUYANNA
bIRUYANNA;bIRUUYANNA;bILUYANNA;bILUUYANNA;bEYANNA;bEEYANNA;bAIYANNA;bOYANNA;bOOYANNA;bAUYANNA"),
   (0xD9A, "SINHALA LETTER ALPAPRAANA KAYANNA;bMAHAAPRAANA+a;bALPAPRAANA GAYANNA;bMAHAAPRAANA+a
bKANTAJA NAASIKYAYA;bSANYAKA GAYANNA;bALPAPRAANA CAYANNA;bMAHAAPRAANA+a;bALPAPRAANA JAYANNA
bMAHAAPRAANA+a;bTAALUJA NAASIKYAYA;cSANYOOGA NAAKSIKYAYA;bSANYAKA JAYANNA;bALPAPRAANA TTAYANNA
bMAHAAPRAANA+a;bALPAPRAANA DDAYANNA;bMAHAAPRAANA+a;bMUURDHAJA NAYANNA;bSANYAKA DDAYANNA
bALPAPRAANA TAYANNA;bMAHAAPRAANA+a;bALPAPRAANA DAYANNA;bMAHAAPRAANA+a;bDANTAJA NAYANNA"),
   (0xDB3, "SINHALA LETTER SANYAKA DAYANNA;bALPAPRAANA PAYANNA;bMAHAAPRAANA+a
bALPAPRAANA BAYANNA;bMAHAAPRAANA+a;bMAYANNA;bAMBA BAYANNA;bYAYANNA;bRAYANNA"),
   (0xDBD, "SINHALA LETTER DANTAJA LAYANNA"),
   (0xDC0, "SINHALA LETTER VAYANNA;bTAALUJA SAYANNA;bMUURDHAJA+a;bDANTAJA+a;bHAYANNA
bMUURDHAJA LAYANNA;bFAYANNA"),
   (0xDCA, "SINHALA SIGN AL-LAKUNA"),
   (0xDCF, "SINHALA VOWEL SIGN AELA-PILLA;cKETTI AEDA-PILLA;cDIGA+a;cKETTI IS-PILLA;cDIGA+a
cKETTI PAA-PILLA"),
   (0xDD6, "SINHALA VOWEL SIGN DIGA PAA-PILLA"),
   (0xDD8, "SINHALA VOWEL SIGN GAETTA-PILLA;cKOMBUVA;cDIGA+a;cKOMBU DEKA;cKOMBUVA HAA AELA-PILLA
eDIGA+a;eGAYANUKITTA;c+a"),
   (0xDE6, "SINHALA LITH DIGIT ZERO;cONE;cTWO;cTHREE;cFOUR;cFIVE;cSIX;cSEVEN;cEIGHT;cNINE"),
   (0xDF2, "SINHALA VOWEL SIGN DIGA GAETTA-PILLA;dGAYANUKITTA;aPUNCTUATION KUNDDALIYA"),
   (0xE01, "THAI CHARACTER KO KAI;bKHO KHAI;cKHUAT;cKHWAI;cKHON;cRAKHANG;bNGO NGU;bCHO CHAN
cCHING;cCHANG;bSO SO;bCHO CHOE;bYO YING;bDO CHADA;bTO PATAK;bTHO THAN;cNANGMONTHO;cPHUTHAO
bNO NEN;bDO DEK;bTO TAO;bTHO THUNG;cTHAHAN;cTHONG;bNO NU;bBO BAIMAI;bPO PLA;bPHO PHUNG;bFO FA
bPHO PHAN;bFO FAN;bPHO SAMPHAO;bMO MA;bYO YAK;bRO RUA;bRU;bLO LING;bLU;bWO WAEN;bSO SALA;cRUSI
cSUA;bHO HIP;bLO CHULA;bO ANG;bHO NOKHUK;bPAIYANNOI;bSARA A;bMAI HAN-AKAT;bSARA AA;cAM;cI;cII
cUE;cUEE;cU;cUU;bPHINTHU"),
   (0xE3F, "THAI CURRENCY SYMBOL BAHT;aCHARACTER SARA E;cAE;cO;cAI MAIMUAN;dMAIMALAI
bLAKKHANGYAO;bMAIYAMOK;bMAITAIKHU;bMAI EK;cTHO;cTRI;cCHATTAWA;bTHANTHAKHAT;bNIKHAHIT;bYAMAKKAN
bFONGMAN;aDIGIT ZERO;bONE;bTWO;bTHREE;bFOUR;bFIVE;bSIX;bSEVEN;bEIGHT;bNINE
aCHARACTER ANGKHANKHU;bKHOMUT"),
   (0xE81, "LAO LETTER KO;bKHO SUNG"),
   (0xE84, "LAO LETTER KHO TAM"),
   (0xE86, "LAO LETTER PALI GHA;bNGO;bCO;bPALI CHA;bSO TAM"),
   (0xE8C, "LAO LETTER PALI JHA;bNYO;bPALI NYA;cTTA;cTTHA;cDDA;cDDHA;cNNA;bDO;bTO;bTHO SUNG;cTAM
bPALI DHA;bNO;bBO;bPO;bPHO SUNG;bFO TAM;bPHO+a;bFO SUNG;bPALI BHA;bMO;bYO;bLO LING"),
   (0xEA5, "LAO LETTER LO LOOT"),
   (0xEA7, "LAO LETTER WO;bSANSKRIT SHA;cSSA;bSO SUNG;bHO+a;bPALI LLA;bO;bHO TAM;aELLIPSIS
aVOWEL SIGN A;cMAI KAN;cAA;cAM;cI;cII;cY;cYY;cU;cUU;aSIGN PALI VIRAMA;aVOWEL SIGN MAI KON
aSEMIVOWEL SIGN LO;cNYO"),
   (0xEC0, "LAO VOWEL SIGN E;cEI;cO;cAY;cAI"),
   (0xEC6, "LAO KO LA"),
   (0xEC8, "LAO TONE MAI EK;cTHO;cTI;cCATAWA;aCANCELLATION MARK;aNIGGAHITA"),
   (0xED0, "LAO DIGIT ZERO;bONE;bTWO;bTHREE;bFOUR;bFIVE;bSIX;bSEVEN;bEIGHT;bNINE"),
   (0xEDC, "LAO HO NO;bMO;aLETTER KHMU GO;cNYO"),
   (0xF00, "TIBETAN SYLLABLE OM;aMARK GTER YIG MGO TRUNCATED A;e-UM RNAM BCAD MA;fGTER TSHEG+a
bINITIAL YIG MGO MDUN+a;bCLOSING YIG MGO SGAB+a;bCARET YIG MGO PHUR SHAD+a;bYIG MGO TSHEG+b
bSBRUL SHAD;bBSKUR YIG MGO;bBKA- SHOG+b;bINTERSYLLABIC TSHEG;bDELIMITER TSHEG BSTAR;bSHAD
bNYIS+a;bTSHEG+a;bNYIS+b;bRIN CHEN SPUNGS+a;bRGYA GRAM+a;bCARET -DZUD RTAGS ME LONG CAN
bGTER TSHEG;aLOGOTYPE SIGN CHAD RTAGS;cLHAG+a;aASTROLOGICAL SIGN SGRA GCAN -CHAR+a;c-KHYUD PA
cSDONG TSHUGS;aSIGN RDEL DKAR GCIG;dGNYIS;dGSUM;cNAG GCIG;dGNYIS;cDKAR RDEL NAG;aDIGIT ZERO
bONE;bTWO;bTHREE;bFOUR;bFIVE;bSIX;bSEVEN;bEIGHT;bNINE;bHALF ONE;cTWO;cTHREE;cFOUR;cFIVE;cSIX
cSEVEN;cEIGHT;cNINE;cZERO;aMARK BSDUS RTAGS;bNGAS BZUNG NYI ZLA;bCARET -DZUD RTAGS BZHI MIG CAN
bNGAS BZUNG SGOR RTAGS;bCHE MGO;bTSA -PHRU;bGUG RTAGS GYON;dGYAS;bANG KHANG GYON;dGYAS
aSIGN YAR TSHES;bMAR+a;aLETTER KA;bKHA;bGA;bGHA;bNGA;bCA;bCHA;bJA"),
   (0xF49, "TIBETAN LETTER NYA;bTTA;bTTHA;bDDA;bDDHA;bNNA;bTA;bTHA;bDA;bDHA;bNA;bPA;bPHA;bBA
bBHA;bMA;bTSA;bTSHA;bDZA;bDZHA;bWA;bZHA;bZA;b-A;bYA;bRA;bLA;bSHA;bSSA;bSA;bHA;bA;bKSSA
bFIXED-FORM RA;bKKA;bRRA"),
   (0xF71, "TIBETAN VOWEL SIGN AA;cI;cII;cU;cUU;cVOCALIC R;dRR;dL;dLL;cE;cEE;cO;cOO
aSIGN RJES SU NGA RO;bRNAM BCAD;aVOWEL SIGN REVERSED I;dII;aSIGN NYI ZLA NAA DA;bSNA LDAN
aMARK HALANTA;bPALUTA;aSIGN LCI RTAGS;bYANG+a;bLCE TSA CAN;bMCHU+a;bGRU CAN RGYINGS;cMED+a
bINVERTED MCHU CAN;aSUBJOINED SIGN LCE TSA+a;cMCHU+a;cINVERTED+b;bLETTER KA;cKHA;cGA;cGHA;cNGA
cCA;cCHA;cJA"),
   (0xF99, "TIBETAN SUBJOINED LETTER NYA;cTTA;cTTHA;cDDA;cDDHA;cNNA;cTA;cTHA;cDA;cDHA;cNA;cPA
cPHA;cBA;cBHA;cMA;cTSA;cTSHA;cDZA;cDZHA;cWA;cZHA;cZA;c-A;cYA;cRA;cLA;cSHA;cSSA;cSA;cHA;cA;cKSSA
cFIXED-FORM WA;dYA;dRA"),
   (0xFBE, "TIBETAN KU RU KHA;dBZHI MIG CAN;aCANTILLATION SIGN HEAVY BEAT;cLIGHT+a;cCANG TE-U
cSBUB -CHAL;aSYMBOL DRIL BU;bRDO RJE;bPADMA GDAN;bRDO RJE RGYA GRAM;bPHUR PA;bNOR BU
dNYIS -KHYIL;dGSUM+a;dBZHI+a"),
   (0xFCE, "TIBETAN SIGN RDEL NAG RDEL DKAR;dGSUM;aMARK BSKA- SHOG GI MGO RGYAN;bMNYAM YIG+c
bNYIS TSHEG;bINITIAL BRDA RNYING YIG MGO MDUN MA;bCLOSING BRDA RNYING YIG MGO SGAB+a
RIGHT-FACING SVASTI SIGN;LEFT-FACING+b;RIGHT-FACING SVASTI SIGN WITH DOTS;LEFT-FACING+d
TIBETAN MARK LEADING MCHAN RTAGS;bTRAILING+b"),
   (0x1000, "MYANMAR LETTER KA;bKHA;bGA;bGHA;bNGA;bCA;bCHA;bJA;bJHA;bNYA;bNNYA;bTTA;bTTHA;bDDA
bDDHA;bNNA;bTA;bTHA;bDA;bDHA;bNA;bPA;bPHA;bBA;bBHA;bMA;bYA;bRA;bLA;bWA;bSA;bHA;bLLA;bA;bSHAN A
bI;bII;bU;bUU;bE;bMON E;bO;bAU;aVOWEL SIGN TALL AA;cAA;cI;cII;cU;cUU;cE;cAI;cMON II;dO;cE ABOVE
aSIGN ANUSVARA;bDOT BELOW;bVISARGA;bVIRAMA;bASAT;aCONSONANT SIGN MEDIAL YA;dRA;dWA;dHA
aLETTER GREAT SA;aDIGIT ZERO;bONE;bTWO;bTHREE;bFOUR;bFIVE;bSIX;bSEVEN;bEIGHT;bNINE
aSIGN LITTLE SECTION;b+a;aSYMBOL LOCATIVE;bCOMPLETED;bAFOREMENTIONED;bGENITIVE;aLETTER SHA;bSSA
bVOCALIC R;cRR;cL;cLL;aVOWEL SIGN VOCALIC R;dRR;dL;dLL;aLETTER MON NGA;cJHA;cBBA;cBBE
aCONSONANT SIGN MON MEDIAL NA;eMA;eLA;aLETTER SGAW KAREN SHA;aVOWEL SIGN SGAW KAREN EU
aTONE MARK SGAW KAREN HATHI;eKE PHO;aLETTER WESTERN PWO KAREN THA;ePWA
aVOWEL SIGN WESTERN PWO KAREN EU;fUE;aSIGN WESTERN PWO KAREN TONE-1;eTONE-2;eTONE-3;eTONE-4
eTONE-5;aLETTER EASTERN PWO KAREN NNA;eYWA;eGHWA;aVOWEL SIGN GEBA KAREN I;cKAYAH OE;dU;dEE
aLETTER SHAN KA;cKHA;cGA;cCA;cZA;cNYA;cDA;cNA;cPHA;cFA;cBA;cTHA;cHA
aCONSONANT SIGN SHAN MEDIAL WA;aVOWEL SIGN SHAN AA;dE;eABOVE;dFINAL Y;aSIGN SHAN TONE-2;cTONE-3
cTONE-5;cTONE-6;cCOUNCIL TONE-2;dTONE-3;dEMPHATIC TONE;aLETTER RUMAI PALAUNG FA
aSIGN RUMAI PALAUNG TONE-5;aSHAN DIGIT ZERO;cONE;cTWO;cTHREE;cFOUR;cFIVE;cSIX;cSEVEN;cEIGHT
cNINE;aSIGN KHAMTI TONE-1;cTONE-3;aVOWEL SIGN AITON A;dAI;aSYMBOL SHAN ONE;cEXCLAMATION
GEORGIAN CAPITAL LETTER AN;cBAN;cGAN;cDON;cEN;cVIN;cZEN;cTAN;cIN;cKAN;cLAS;cMAN;cNAR;cON;cPAR
cZHAR;cRAE;cSAN;cTAR;cUN;cPHAR;cKHAR;cGHAN;cQAR;cSHIN;cCHIN;cCAN;cJIL;cCIL;cCHAR;cXAN;cJHAN
cHAE;cHE;cHIE;cWE;cHAR;cHOE"),
   (0x10C7, "GEORGIAN CAPITAL LETTER YN"),
   (0x10CD, "GEORGIAN CAPITAL LETTER AEN"),
   (0x10D0, "GEORGIAN LETTER AN;bBAN;bGAN;bDON;bEN;bVIN;bZEN;bTAN;bIN;bKAN;bLAS;bMAN;bNAR;bON
bPAR;bZHAR;bRAE;bSAN;bTAR;bUN;bPHAR;bKHAR;bGHAN;bQAR;bSHIN;bCHIN;bCAN;bJIL;bCIL;bCHAR;bXAN
bJHAN;bHAE;bHE;bHIE;bWE;bHAR;bHOE;bFI;bYN;bELIFI;bTURNED GAN;bAIN;aPARAGRAPH SEPARATOR
MODIFIER LETTER GEORGIAN NAR;GEORGIAN LETTER AEN;bHARD SIGN;bLABIAL+a;HANGUL CHOSEONG KIYEOK
bSSANGKIYEOK;bNIEUN;bTIKEUT;bSSANGTIKEUT;bRIEUL;bMIEUM;bPIEUP;bSSANGPIEUP;bSIOS;bSSANGSIOS
bIEUNG;bCIEUC;bSSANGCIEUC;bCHIEUCH;bKHIEUKH;bTHIEUTH;bPHIEUPH;bHIEUH;bNIEUN-KIYEOK;bSSANGNIEUN
bNIEUN-TIKEUT;bNIEUN-PIEUP;bTIKEUT-KIYEOK;bRIEUL-NIEUN;bSSANGRIEUL;bRIEUL-HIEUH;bKAPYEOUNRIEUL
bMIEUM-PIEUP;bKAPYEOUNMIEUM;bPIEUP-KIYEOK;bPIEUP-NIEUN;bPIEUP-TIKEUT;bPIEUP-SIOS
bPIEUP-SIOS-KIYEOK;bPIEUP-SIOS-TIKEUT;bPIEUP-SIOS-PIEUP;bPIEUP-SSANGSIOS;bPIEUP-SIOS-CIEUC
bPIEUP-CIEUC;bPIEUP-CHIEUCH;bPIEUP-THIEUTH;bPIEUP-PHIEUPH;bKAPYEOUNPIEUP;bKAPYEOUNSSANGPIEUP
bSIOS-KIYEOK;bSIOS-NIEUN;bSIOS-TIKEUT;bSIOS-RIEUL;bSIOS-MIEUM;bSIOS-PIEUP;bSIOS-PIEUP-KIYEOK
bSIOS-SSANGSIOS;bSIOS-IEUNG;bSIOS-CIEUC;bSIOS-CHIEUCH;bSIOS-KHIEUKH;bSIOS-THIEUTH;bSIOS-PHIEUPH
bSIOS-HIEUH;bCHITUEUMSIOS;bCHITUEUMSSANGSIOS;bCEONGCHIEUMSIOS;bCEONGCHIEUMSSANGSIOS;bPANSIOS
bIEUNG-KIYEOK;bIEUNG-TIKEUT;bIEUNG-MIEUM;bIEUNG-PIEUP;bIEUNG-SIOS;bIEUNG-PANSIOS;bSSANGIEUNG
bIEUNG-CIEUC;bIEUNG-CHIEUCH;bIEUNG-THIEUTH;bIEUNG-PHIEUPH;bYESIEUNG;bCIEUC-IEUNG;bCHITUEUMCIEUC
bCHITUEUMSSANGCIEUC;bCEONGCHIEUMCIEUC;bCEONGCHIEUMSSANGCIEUC;bCHIEUCH-KHIEUKH;bCHIEUCH-HIEUH
bCHITUEUMCHIEUCH;bCEONGCHIEUMCHIEUCH;bPHIEUPH-PIEUP;bKAPYEOUNPHIEUPH;bSSANGHIEUH;bYEORINHIEUH
bKIYEOK-TIKEUT;bNIEUN-SIOS;bNIEUN-CIEUC;bNIEUN-HIEUH;bTIKEUT-RIEUL;bFILLER;aJUNGSEONG+a;bA;bAE
bYA;bYAE;bEO;bE;bYEO;bYE;bO;bWA;bWAE;bOE;bYO;bU;bWEO;bWE;bWI;bYU;bEU;bYI;bI;bA-O;bA-U;bYA-O
bYA-YO;bEO-O;bEO-U;bEO-EU;bYEO-O;bYEO-U;bO-EO;bO-E;bO-YE;bO-O;bO-U;bYO-YA;bYO-YAE;bYO-YEO;bYO-O
bYO-I;bU-A;bU-AE;bU-EO-EU;bU-YE;bU-U;bYU-A;bYU-EO;bYU-E;bYU-YEO;bYU-YE;bYU-U;bYU-I;bEU-U;bEU-EU
bYI-U;bI-A;bI-YA;bI-O;bI-U;bI-EU;bI-ARAEA;bARAEA;bARAEA-EO;bARAEA-U;bARAEA-I;bSSANGARAEA;bA-EU
bYA-U;bYEO-YA;bO-YA;bO-YAE;aJONGSEONG KIYEOK;bSSANGKIYEOK;bKIYEOK-SIOS;bNIEUN;bNIEUN-CIEUC
bNIEUN-HIEUH;bTIKEUT;bRIEUL;bRIEUL-KIYEOK;bRIEUL-MIEUM;bRIEUL-PIEUP;bRIEUL-SIOS;bRIEUL-THIEUTH
bRIEUL-PHIEUPH;bRIEUL-HIEUH;bMIEUM;bPIEUP;bPIEUP-SIOS;bSIOS;bSSANGSIOS;bIEUNG;bCIEUC;bCHIEUCH
bKHIEUKH;bTHIEUTH;bPHIEUPH;bHIEUH;bKIYEOK-RIEUL;bKIYEOK-SIOS-KIYEOK;bNIEUN-KIYEOK;bNIEUN-TIKEUT
bNIEUN-SIOS;bNIEUN-PANSIOS;bNIEUN-THIEUTH;bTIKEUT-KIYEOK;bTIKEUT-RIEUL;bRIEUL-KIYEOK-SIOS
bRIEUL-NIEUN;bRIEUL-TIKEUT;bRIEUL-TIKEUT-HIEUH;bSSANGRIEUL;bRIEUL-MIEUM-KIYEOK
bRIEUL-MIEUM-SIOS;bRIEUL-PIEUP-SIOS;bRIEUL-PIEUP-HIEUH;bRIEUL-KAPYEOUNPIEUP;bRIEUL-SSANGSIOS
bRIEUL-PANSIOS;bRIEUL-KHIEUKH;bRIEUL-YEORINHIEUH;bMIEUM-KIYEOK;bMIEUM-RIEUL;bMIEUM-PIEUP
bMIEUM-SIOS;bMIEUM-SSANGSIOS;bMIEUM-PANSIOS;bMIEUM-CHIEUCH;bMIEUM-HIEUH;bKAPYEOUNMIEUM
bPIEUP-RIEUL;bPIEUP-PHIEUPH;bPIEUP-HIEUH;bKAPYEOUNPIEUP;bSIOS-KIYEOK;bSIOS-TIKEUT;bSIOS-RIEUL
bSIOS-PIEUP;bPANSIOS;bIEUNG-KIYEOK;bIEUNG-SSANGKIYEOK;bSSANGIEUNG;bIEUNG-KHIEUKH;bYESIEUNG
bYESIEUNG-SIOS;bYESIEUNG-PANSIOS;bPHIEUPH-PIEUP;bKAPYEOUNPHIEUPH;bHIEUH-NIEUN;bHIEUH-RIEUL
bHIEUH-MIEUM;bHIEUH-PIEUP;bYEORINHIEUH;bKIYEOK-NIEUN;bKIYEOK-PIEUP;bKIYEOK-CHIEUCH
bKIYEOK-KHIEUKH;bKIYEOK-HIEUH;bSSANGNIEUN;ETHIOPIC SYLLABLE HA;bHU;bHI;bHAA;bHEE;bHE;bHO;bHOA
bLA;bLU;bLI;bLAA;bLEE;bLE;bLO;bLWA;bHHA;bHHU;bHHI;bHHAA;bHHEE;bHHE;bHHO;bHHWA;bMA;bMU;bMI;bMAA
bMEE;bME;bMO;bMWA;bSZA;bSZU;bSZI;bSZAA;bSZEE;bSZE;bSZO;bSZWA;bRA;bRU;bRI;bRAA;bREE;bRE;bRO;bRWA
bSA;bSU;bSI;bSAA;bSEE;bSE;bSO;bSWA;bSHA;bSHU;bSHI;bSHAA;bSHEE;bSHE;bSHO;bSHWA;bQA;bQU;bQI;bQAA
bQEE;bQE;bQO;bQOA;bQWA"),
   (0x124A, "ETHIOPIC SYLLABLE QWI;bQWAA;bQWEE;bQWE"),
   (0x1250, "ETHIOPIC SYLLABLE QHA;bQHU;bQHI;bQHAA;bQHEE;bQHE;bQHO"),
   (0x1258, "ETHIOPIC SYLLABLE QHWA"),
   (0x125A, "ETHIOPIC SYLLABLE QHWI;bQHWAA;bQHWEE;bQHWE"),
   (0x1260, "ETHIOPIC SYLLABLE BA;bBU;bBI;bBAA;bBEE;bBE;bBO;bBWA;bVA;bVU;bVI;bVAA;bVEE;bVE;bVO
bVWA;bTA;bTU;bTI;bTAA;bTEE;bTE;bTO;bTWA;bCA;bCU;bCI;bCAA;bCEE;bCE;bCO;bCWA;bXA;bXU;bXI;bXAA
bXEE;bXE;bXO;bXOA;bXWA"),
   (0x128A, "ETHIOPIC SYLLABLE XWI;bXWAA;bXWEE;bXWE"),
   (0x1290, "ETHIOPIC SYLLABLE NA;bNU;bNI;bNAA;bNEE;bNE;bNO;bNWA;bNYA;bNYU;bNYI;bNYAA;bNYEE;bNYE
bNYO;bNYWA;bGLOTTAL A;cU;cI;cAA;cEE;cE;cO;cWA;bKA;bKU;bKI;bKAA;bKEE;bKE;bKO;bKOA;bKWA"),
   (0x12B2, "ETHIOPIC SYLLABLE KWI;bKWAA;bKWEE;bKWE"),
   (0x12B8, "ETHIOPIC SYLLABLE KXA;bKXU;bKXI;bKXAA;bKXEE;bKXE;bKXO"),
   (0x12C0, "ETHIOPIC SYLLABLE KXWA"),
   (0x12C2, "ETHIOPIC SYLLABLE KXWI;bKXWAA;bKXWEE;bKXWE"),
   (0x12C8, "ETHIOPIC SYLLABLE WA;bWU;bWI;bWAA;bWEE;bWE;bWO;bWOA;bPHARYNGEAL A;cU;cI;cAA;cEE;cE
cO"),
   (0x12D8, "ETHIOPIC SYLLABLE ZA;bZU;bZI;bZAA;bZEE;bZE;bZO;bZWA;bZHA;bZHU;bZHI;bZHAA;bZHEE;bZHE
bZHO;bZHWA;bYA;bYU;bYI;bYAA;bYEE;bYE;bYO;bYOA;bDA;bDU;bDI;bDAA;bDEE;bDE;bDO;bDWA;bDDA;bDDU;bDDI
bDDAA;bDDEE;bDDE;bDDO;bDDWA;bJA;bJU;bJI;bJAA;bJEE;bJE;bJO;bJWA;bGA;bGU;bGI;bGAA;bGEE;bGE;bGO
bGOA;bGWA"),
   (0x1312, "ETHIOPIC SYLLABLE GWI;bGWAA;bGWEE;bGWE"),
   (0x1318, "ETHIOPIC SYLLABLE GGA;bGGU;bGGI;bGGAA;bGGEE;bGGE;bGGO;bGGWAA;bTHA;bTHU;bTHI;bTHAA
bTHEE;bTHE;bTHO;bTHWA;bCHA;bCHU;bCHI;bCHAA;bCHEE;bCHE;bCHO;bCHWA;bPHA;bPHU;bPHI;bPHAA;bPHEE
bPHE;bPHO;bPHWA;bTSA;bTSU;bTSI;bTSAA;bTSEE;bTSE;bTSO;bTSWA;bTZA;bTZU;bTZI;bTZAA;bTZEE;bTZE;bTZO
bTZOA;bFA;bFU;bFI;bFAA;bFEE;bFE;bFO;bFWA;bPA;bPU;bPI;bPAA;bPEE;bPE;bPO;bPWA;bRYA;bMYA;bFYA"),
   (0x135D, "ETHIOPIC COMBINING GEMINATION AND VOWEL LENGTH MARK;b+c;bGEMINATION+a;aSECTION+a
aWORDSPACE;aFULL STOP;aCOMMA;aSEMICOLON;aCOLON;aPREFACE+a;aQUESTION MARK;aPARAGRAPH SEPARATOR
aDIGIT ONE;bTWO;bTHREE;bFOUR;bFIVE;bSIX;bSEVEN;bEIGHT;bNINE;aNUMBER TEN;bTWENTY;bTHIRTY;bFORTY
bFIFTY;bSIXTY;bSEVENTY;bEIGHTY;bNINETY;bHUNDRED;bTEN THOUSAND"),
   (0x1380, "ETHIOPIC SYLLABLE SEBATBEIT MWA;bMWI;bMWEE;bMWE;bSEBATBEIT BWA;bBWI;bBWEE;bBWE
bSEBATBEIT FWA;bFWI;bFWEE;bFWE;bSEBATBEIT PWA;bPWI;bPWEE;bPWE;aTONAL MARK YIZET;cDERET;cRIKRIK
cSHORT+a;cDIFAT;cKENAT;cCHIRET;cHIDET;cDERET-HIDET;cKURT"),
   (0x13A0, "CHEROKEE LETTER A;bE;bI;bO;bU;bV;bGA;bKA;bGE;bGI;bGO;bGU;bGV;bHA;bHE;bHI;bHO;bHU
bHV;bLA;bLE;bLI;bLO;bLU;bLV;bMA;bME;bMI;bMO;bMU;bNA;bHNA;bNAH;bNE;bNI;bNO;bNU;bNV;bQUA;bQUE
bQUI;bQUO;bQUU;bQUV;bSA;bS;bSE;bSI;bSO;bSU;bSV;bDA;bTA;bDE;bTE;bDI;bTI;bDO;bDU;bDV;bDLA;bTLA
bTLE;bTLI;bTLO;bTLU;bTLV;bTSA;bTSE;bTSI;bTSO;bTSU;bTSV;bWA;bWE;bWI;bWO;bWU;bWV;bYA;bYE;bYI;bYO
bYU;bYV;bMV"),
   (0x13F8, "CHEROKEE SMALL LETTER YE;cYI;cYO;cYU;cYV;cMV"),
   (0x1400, "CANADIAN SYLLABICS HYPHEN;bE;bAAI;bI;bII;bO;bOO;bY-CREE+a;bCARRIER EE;cI;bA;bAA;bWE
bWEST-CREE+a;bWI;bWEST-CREE+a;bWII;bWEST-CREE+a;bWO;bWEST-CREE+a;bWOO;bWEST-CREE+a;bNASKAPI+a
bWA;bWEST-CREE+a;bWAA;bWEST-CREE+a;bNASKAPI+a;bAI;bY-CREE W;bGLOTTAL STOP;bFINAL ACUTE;cGRAVE
cBOTTOM HALF RING;cTOP+b;cRIGHT+b;c+a;cDOUBLE ACUTE;dSHORT VERTICAL STROKES;cMIDDLE DOT
cSHORT HORIZONTAL STROKE;cPLUS;cDOWN TACK;bEN;bIN;bON;bAN;bPE;bPAAI;bPI;bPII;bPO;bPOO;bY-CREE+a
bCARRIER HEE;cHI;bPA;bPAA;bPWE;bWEST-CREE+a;bPWI;bWEST-CREE+a;bPWII;bWEST-CREE+a;bPWO
bWEST-CREE+a;bPWOO;bWEST-CREE+a;bPWA;bWEST-CREE+a;bPWAA;bWEST-CREE+a;bY-CREE+a;bP;bWEST-CREE P
bCARRIER H;bTE;bTAAI;bTI;bTII;bTO;bTOO;bY-CREE+a;bCARRIER DEE;cDI;bTA;bTAA;bTWE;bWEST-CREE+a
bTWI;bWEST-CREE+a;bTWII;bWEST-CREE+a;bTWO;bWEST-CREE+a;bTWOO;bWEST-CREE+a;bTWA;bWEST-CREE+a
bTWAA;bWEST-CREE+a;bNASKAPI+a;bT;bTTE;bTTI;bTTO;bTTA;bKE;bKAAI;bKI;bKII;bKO;bKOO;bY-CREE+a;bKA
bKAA;bKWE;bWEST-CREE+a;bKWI;bWEST-CREE+a;bKWII;bWEST-CREE+a;bKWO;bWEST-CREE+a;bKWOO
bWEST-CREE+a;bKWA;bWEST-CREE+a;bKWAA;bWEST-CREE+a;bNASKAPI+a;bK;bKW;bSOUTH-SLAVEY KEH;cKIH;cKOH
cKAH;bCE;bCAAI;bCI;bCII;bCO;bCOO;bY-CREE+a;bCA;bCAA;bCWE;bWEST-CREE+a;bCWI;bWEST-CREE+a;bCWII
bWEST-CREE+a;bCWO;bWEST-CREE+a;bCWOO;bWEST-CREE+a;bCWA;bWEST-CREE+a;bCWAA;bWEST-CREE+a
bNASKAPI+a;bC;bSAYISI TH;bME;bMAAI;bMI;bMII;bMO;bMOO;bY-CREE+a;bMA;bMAA;bMWE;bWEST-CREE+a;bMWI
bWEST-CREE+a;bMWII;bWEST-CREE+a;bMWO;bWEST-CREE+a;bMWOO;bWEST-CREE+a;bMWA;bWEST-CREE+a;bMWAA
bWEST-CREE+a;bNASKAPI+a;bM;bWEST-CREE M;bMH;bATHAPASCAN M;bSAYISI M;bNE;bNAAI;bNI;bNII;bNO;bNOO
bY-CREE+a;bNA;bNAA;bNWE;bWEST-CREE+a;bNWA;bWEST-CREE+a;bNWAA;bWEST-CREE+a;bNASKAPI+a;bN
bCARRIER NG;bNH;bLE;bLAAI;bLI;bLII;bLO;bLOO;bY-CREE+a;bLA;bLAA;bLWE;bWEST-CREE+a;bLWI
bWEST-CREE+a;bLWII;bWEST-CREE+a;bLWO;bWEST-CREE+a;bLWOO;bWEST-CREE+a;bLWA;bWEST-CREE+a;bLWAA
bWEST-CREE+a;bL;bWEST-CREE L;bMEDIAL L;bSE;bSAAI;bSI;bSII;bSO;bSOO;bY-CREE+a;bSA;bSAA;bSWE
bWEST-CREE+a;bSWI;bWEST-CREE+a;bSWII;bWEST-CREE+a;bSWO;bWEST-CREE+a;bSWOO;bWEST-CREE+a;bSWA
bWEST-CREE+a;bSWAA;bWEST-CREE+a;bNASKAPI+a;bS;bATHAPASCAN S;bSW;bBLACKFOOT S;bMOOSE-CREE SK
bNASKAPI SKW;cS-W;cSPWA;cSTWA;cSKWA;cSCWA;bSHE;bSHI;bSHII;bSHO;bSHOO;bSHA;bSHAA;bSHWE
bWEST-CREE+a;bSHWI;bWEST-CREE+a;bSHWII;bWEST-CREE+a;bSHWO;bWEST-CREE+a;bSHWOO;bWEST-CREE+a
bSHWA;bWEST-CREE+a;bSHWAA;bWEST-CREE+a;bSH;bYE;bYAAI;bYI;bYII;bYO;bYOO;bY-CREE+a;bYA;bYAA;bYWE
bWEST-CREE+a;bYWI;bWEST-CREE+a;bYWII;bWEST-CREE+a;bYWO;bWEST-CREE+a;bYWOO;bWEST-CREE+a;bYWA
bWEST-CREE+a;bYWAA;bWEST-CREE+a;bNASKAPI+a;bY;bBIBLE-CREE Y;bWEST-CREE Y;bSAYISI YI;bRE
bR-CREE+a;bWEST-CREE LE;bRAAI;bRI;bRII;bRO;bROO;bWEST-CREE LO;bRA;bRAA;bWEST-CREE LA;bRWAA
bWEST-CREE+a;bR;bWEST-CREE R;bMEDIAL R;bFE;bFAAI;bFI;bFII;bFO;bFOO;bFA;bFAA;bFWAA;bWEST-CREE+a
bF;bTHE;bN-CREE+a;bTHI;bN-CREE+a;bTHII;bN-CREE+a;bTHO;bTHOO;bTHA;bTHAA;bTHWAA;bWEST-CREE+a;bTH
bTTHE;bTTHI;bTTHO;bTTHA;bTTH;bTYE;bTYI;bTYO;bTYA;bNUNAVIK HE;cHI;cHII;cHO;cHOO;cHA;cHAA;cH
bNUNAVUT H;bHK;bQAAI;bQI;bQII;bQO;bQOO;bQA;bQAA;bQ;bTLHE;bTLHI;bTLHO;bTLHA;bWEST-CREE RE;cRI
cRO;cRA;bNGAAI;bNGI;bNGII;bNGO;bNGOO;bNGA;bNGAA;bNG;bNNG;bSAYISI SHE;cSHI;cSHO;cSHA
bWOODS-CREE THE;cTHI;cTHO;cTHA;cTH;bLHI;bLHII;bLHO;bLHOO;bLHA;bLHAA;bLH;bTH-CREE THE;cTHI;cTHII
cTHO;cTHOO;cTHA;cTHAA;cTH;bAIVILIK B;bBLACKFOOT E;cI;cO;cA;cWE;cWI;cWO;cWA;cNE;cNI;cNO;cNA;cKE
cKI;cKO;cKA;bSAYISI HE;cHI;cHO;cHA;bCARRIER GHU;cGHO;cGHE;cGHEE;cGHI;cGHA;cRU;cRO;cRE;cREE;cRI
cRA;cWU;cWO;cWE;cWEE;cWI;cWA;cHWU;cHWO;cHWE;cHWEE;cHWI;cHWA;cTHU;cTHO;cTHE;cTHEE;cTHI;cTHA;cTTU
cTTO;cTTE;cTTEE;cTTI;cTTA;cPU;cPO;cPE;cPEE;cPI;cPA;cP;cGU;cGO;cGE;cGEE;cGI;cGA;cKHU;cKHO;cKHE
cKHEE;cKHI;cKHA;cKKU;cKKO;cKKE;cKKEE;cKKI;cKKA;cKK;cNU;cNO;cNE;cNEE;cNI;cNA;cMU;cMO;cME;cMEE
cMI;cMA;cYU;cYO;cYE;cYEE;cYI;cYA;cJU;bSAYISI+a;bCARRIER JO;cJE;cJEE;cJI;bSAYISI+a;bCARRIER JA
cJJU;cJJO;cJJE;cJJEE;cJJI;cJJA;cLU;cLO;cLE;cLEE;cLI;cLA;cDLU;cDLO;cDLE;cDLEE;cDLI;cDLA;cLHU
cLHO;cLHE;cLHEE;cLHI;cLHA;cTLHU;cTLHO;cTLHE;cTLHEE;cTLHI;cTLHA;cTLU;cTLO;cTLE;cTLEE;cTLI;cTLA
cZU;cZO;cZE;cZEE;cZI;cZA;cZ;cINITIAL Z;cDZU;cDZO;cDZE;cDZEE;cDZI;cDZA;cSU;cSO;cSE;cSEE;cSI;cSA
cSHU;cSHO;cSHE;cSHEE;cSHI;cSHA;cSH;cTSU;cTSO;cTSE;cTSEE;cTSI;cTSA;cCHU;cCHO;cCHE;cCHEE;cCHI
cCHA;cTTSU;cTTSO;cTTSE;cTTSEE;cTTSI;cTTSA;bCHI SIGN;bFULL STOP;bQAI;bNGAI;bNNGI;bNNGII;bNNGO
bNNGOO;bNNGA;bNNGAA;bWOODS-CREE THWEE;cTHWI;cTHWII;cTHWO;cTHWOO;cTHWA;cTHWAA;cFINAL TH
bBLACKFOOT W;OGHAM SPACE MARK;aLETTER BEITH;bLUIS;bFEARN;bSAIL;bNION;bUATH;bDAIR;bTINNE;bCOLL
bCEIRT;bMUIN;bGORT;bNGEADAL;bSTRAIF;bRUIS;bAILM;bONN;bUR;bEADHADH;bIODHADH;bEABHADH;bOR
bUILLEANN;bIFIN;bEAMHANCHOLL;bPEITH;aFEATHER MARK;aREVERSED+b"),
   (0x16A0, "RUNIC LETTER FEHU FEOH FE F;bV;bURUZ UR U;bYR;bY;bW;bTHURISAZ THURS THORN;bETH
bANSUZ A;bOS O;bAC A;bAESC;bLONG-BRANCH-OSS O;bSHORT-TWIG-OSS O;bO;bOE;bON;bRAIDO RAD REID R
bKAUNA;bCEN;bKAUN K;bG;bENG;bGEBO GYFU G;bGAR;bWUNJO WYNN W;bHAGLAZ H;bHAEGL H
bLONG-BRANCH-HAGALL H;bSHORT-TWIG-HAGALL H;bNAUDIZ NYD NAUD N;bSHORT-TWIG-NAUD N;bDOTTED-N
bISAZ IS ISS I;bE;bJERAN J;bGER;bLONG-BRANCH-AR AE;bSHORT-TWIG-AR A;bIWAZ EOH;bPERTHO PEORTH P
bALGIZ EOLHX;bSOWILO S;bSIGEL LONG-BRANCH-SOL S;bSHORT-TWIG-SOL S;bC;bZ;bTIWAZ TIR TYR T
bSHORT-TWIG-TYR T;bD;bBERKANAN BEORC BJARKAN B;bSHORT-TWIG-BJARKAN B;bDOTTED-P;bOPEN-P
bEHWAZ EH E;bMANNAZ MAN M;bLONG-BRANCH-MADR M;bSHORT-TWIG-MADR M;bLAUKAZ LAGU LOGR L;bDOTTED-L
bINGWAZ;bING;bDAGAZ DAEG D;bOTHALAN ETHEL O;bEAR;bIOR;bCWEORTH;bCALC;bCEALC;bSTAN
bLONG-BRANCH-YR;bSHORT-TWIG-YR;bICELANDIC-YR;bQ;bX;aSINGLE PUNCTUATION;aMULTIPLE+a;aCROSS+a
aARLAUG SYMBOL;aTVIMADUR+a;aBELGTHOR+a;aLETTER K;bSH;bOO;bFRANKS CASKET OS;dIS;dEH;dAC;dAESC"),
   (0x1700, "TAGALOG LETTER A;bI;bU;bKA;bGA;bNGA;bTA;bDA;bNA;bPA;bBA;bMA;bYA;bRA;bLA;bWA;bSA;bHA
aVOWEL SIGN I;cU;aSIGN VIRAMA;bPAMUDPOD"),
   (0x171F, "TAGALOG LETTER ARCHAIC RA;HANUNOO LETTER A;bI;bU;bKA;bGA;bNGA;bTA;bDA;bNA;bPA;bBA
bMA;bYA;bRA;bLA;bWA;bSA;bHA;aVOWEL SIGN I;cU;aSIGN PAMUDPOD;PHILIPPINE SINGLE PUNCTUATION
aDOUBLE+a"),
   (0x1740, "BUHID LETTER A;bI;bU;bKA;bGA;bNGA;bTA;bDA;bNA;bPA;bBA;bMA;bYA;bRA;bLA;bWA;bSA;bHA
aVOWEL SIGN I;cU"),
   (0x1760, "TAGBANWA LETTER A;bI;bU;bKA;bGA;bNGA;bTA;bDA;bNA;bPA;bBA;bMA;bYA"),
   (0x176E, "TAGBANWA LETTER LA;bWA;bSA"),
   (0x1772, "TAGBANWA VOWEL SIGN I;cU"),
   (0x1780, "KHMER LETTER KA;bKHA;bKO;bKHO;bNGO;bCA;bCHA;bCO;bCHO;bNYO;bDA;bTTHA;bDO;bTTHO;bNNO
bTA;bTHA;bTO;bTHO;bNO;bBA;bPHA;bPO;bPHO;bMO;bYO;bRO;bLO;bVO;bSHA;bSSO;bSA;bHA;bLA;bQA
aINDEPENDENT VOWEL QAQ;cQAA;cQI;cQII;cQU;cQUK;cQUU;cQUUV;cRY;cRYY;cLY;cLYY;cQE;cQAI
cQOO TYPE ONE;eTWO;cQAU;aVOWEL INHERENT AQ;cAA;bSIGN+a;cI;cII;cY;cYY;cU;cUU;cUA;cOE;cYA;cIE;cE
cAE;cAI;cOO;cAU;aSIGN NIKAHIT;bREAHMUK;bYUUKALEAPINTU;bMUUSIKATOAN;bTRIISAP;bBANTOC;bROBAT
bTOANDAKHIAT;bKAKABAT;bAHSDA;bSAMYOK SANNYA;bVIRIAM;bCOENG;bBATHAMASAT;bKHAN;bBARIYOOSAN
bCAMNUC PII KUUH;bLEK TOO;bBEYYAL;bPHNAEK MUAN;bKOOMUUT;aCURRENCY SYMBOL RIEL
aSIGN AVAKRAHASANYA;bATTHACAN"),
   (0x17E0, "KHMER DIGIT ZERO;bONE;bTWO;bTHREE;bFOUR;bFIVE;bSIX;bSEVEN;bEIGHT;bNINE"),
   (0x17F0, "KHMER SYMBOL LEK ATTAK SON;dMUOY;dPII;dBEI;dBUON;dPRAM;dPRAM-MUOY;dPRAM-PII
dPRAM-BEI;dPRAM-BUON"),
   (0x1800, "MONGOLIAN BIRGA;aELLIPSIS;aCOMMA;aFULL STOP;aCOLON;aFOUR DOTS;aTODO SOFT HYPHEN
aSIBE SYLLABLE BOUNDARY MARKER;aMANCHU COMMA;bFULL STOP;aNIRUGU;aFREE VARIATION SELECTOR ONE
dTWO;dTHREE;aVOWEL SEPARATOR;aFREE VARIATION SELECTOR FOUR;aDIGIT ZERO;bONE;bTWO;bTHREE;bFOUR
bFIVE;bSIX;bSEVEN;bEIGHT;bNINE"),
   (0x1820, "MONGOLIAN LETTER A;bE;bI;bO;bU;bOE;bUE;bEE;bNA;bANG;bBA;bPA;bQA;bGA;bMA;bLA;bSA
bSHA;bTA;bDA;bCHA;bJA;bYA;bRA;bWA;bFA;bKA;bKHA;bTSA;bZA;bHAA;bZRA;bLHA;bZHI;bCHI
bTODO LONG VOWEL SIGN;cE;cI;cO;cU;cOE;cUE;cANG;cBA;cPA;cQA;cGA;cMA;cTA;cDA;cCHA;cJA;cTSA;cYA
cWA;cKA;cGAA;cHAA;cJIA;cNIA;cDZA;bSIBE E;cI;cIY;cUE;cU;cANG;cKA;cGA;cHA;cPA;cSHA;cTA;cDA;cJA
cFA;cGAA;cHAA;cTSA;cZA;cRAA;cCHA;cZHA;bMANCHU I;cKA;cRA;cFA;cZHA;bCHA WITH TWO DOTS"),
   (0x1880, "MONGOLIAN LETTER ALI GALI ANUSVARA ONE;dVISARGA+a;dDAMARU;dUBADAMA;dINVERTED+a
dBALUDA;dTHREE+a;dA;dI;dKA;dNGA;dCA;dTTA;dTTHA;dDDA;dNNA;dTA;dDA;dPA;dPHA;dSSA;dZHA;dZA;dAH
bTODO ALI GALI TA;eZHA;bMANCHU ALI GALI GHA;eNGA;eCA;eJHA;eTTA;eDDHA;eTA;eDHA;eSSA;eCYA;eZHA
eZA;bALI GALI HALF U;eYA;bMANCHU ALI GALI BHA;bALI GALI DAGALGA;bMANCHU ALI GALI LHA"),
   (0x18B0, "CANADIAN SYLLABICS OY;bAY;bAAY;bWAY;bPOY;bPAY;bPWOY;bTAY;bKAY;bKWAY;bMAY;bNOY;bNAY
bLAY;bSOY;bSAY;bSHOY;bSHAY;bSHWOY;bYOY;bYAY;bRAY;bNWI;bOJIBWAY+a;bNWII;bOJIBWAY+a;bNWO
bOJIBWAY+a;bNWOO;bOJIBWAY+a;bRWEE;bRWI;bRWII;bRWO;bRWOO;bRWA;bOJIBWAY P;cT;cK;cC;cM;cN;cS;cSH
bEASTERN W;bWESTERN W;bFINAL SMALL RING;cRAISED DOT;bR-CREE RWE;bWEST-CREE LOO;cLAA;bTHWE;bTHWA
bTTHWE;bTTHOO;bTTHAA;bTLHWE;bTLHOO;bSAYISI SHWE;cSHOO;cHOO;bCARRIER GWU;cDENE GEE;cGAA;cGWA
bSAYISI JUU;bCARRIER JWA;bBEAVER DENE L;dR;bCARRIER DENTAL S"),
   (0x1900, "LIMBU VOWEL-CARRIER LETTER;aLETTER KA;bKHA;bGA;bGHA;bNGA;bCA;bCHA;bJA;bJHA;bYAN;bTA
bTHA;bDA;bDHA;bNA;bPA;bPHA;bBA;bBHA;bMA;bYA;bRA;bLA;bWA;bSHA;bSSA;bSA;bHA;bGYAN;bTRA"),
   (0x1920, "LIMBU VOWEL SIGN A;cI;cU;cEE;cAI;cOO;cAU;cE;cO;aSUBJOINED LETTER YA;cRA;cWA"),
   (0x1930, "LIMBU SMALL LETTER KA;cNGA;cANUSVARA;cTA;cNA;cPA;cMA;cRA;cLA;aSIGN MUKPHRENG
bKEMPHRENG;bSA-I"),
   (0x1940, "LIMBU SIGN LOO"),
   (0x1944, "LIMBU EXCLAMATION MARK;aQUESTION+a;aDIGIT ZERO;bONE;bTWO;bTHREE;bFOUR;bFIVE;bSIX
bSEVEN;bEIGHT;bNINE;TAI LE LETTER KA;cXA;cNGA;cTSA;cSA;cYA;cTA;cTHA;cLA;cPA;cPHA;cMA;cFA;cVA
cHA;cQA;cKHA;cTSHA;cNA;cA;cI;cEE;cEH;cU;cOO;cO;cUE;cE;cAUE;cAI"),
   (0x1970, "TAI LE LETTER TONE-2;cTONE-3;cTONE-4;cTONE-5;cTONE-6"),
   (0x1980, "NEW TAI LUE LETTER HIGH QA;dLOW+a;dHIGH KA;eXA;eNGA;dLOW KA;eXA;eNGA;dHIGH TSA;eSA
eYA;dLOW TSA;eSA;eYA;dHIGH TA;eTHA;eNA;dLOW TA;eTHA;eNA;dHIGH PA;ePHA;eMA;dLOW PA;ePHA;eMA
dHIGH FA;eVA;eLA;dLOW FA;eVA;eLA;dHIGH HA;eDA;eBA;dLOW HA;eDA;eBA;dHIGH KVA;eXVA;dLOW KVA;eXVA
dHIGH SUA;dLOW+a"),
   (0x19B0, "NEW TAI LUE VOWEL SIGN VOWEL SHORTENER;eAA;eII;eU;eUU;eE;eAE;eO;eOA;eUE;eAY;eAAY
eUY;eOY;eOAY;eUEY;eIY;cLETTER FINAL V;eNG;eN;eM;eK;eD;eB;cTONE MARK-1;dMARK-2"),
   (0x19D0, "NEW TAI LUE DIGIT ZERO;dONE;dTWO;dTHREE;dFOUR;dFIVE;dSIX;dSEVEN;dEIGHT;dNINE
cTHAM DIGIT ONE"),
   (0x19DE, "NEW TAI LUE SIGN LAE;dLAEV;KHMER SYMBOL PATHAMASAT;bMUOY KOET;bPII+a;bBEI+a;bBUON+a
bPRAM+a;bPRAM-MUOY+a;bPRAM-PII+a;bPRAM-BEI+a;bPRAM-BUON+a;bDAP+a;bDAP-MUOY+a;bDAP-PII+a
bDAP-BEI+a;bDAP-BUON+a;bDAP-PRAM+a;bTUTEYASAT;bMUOY ROC;bPII+a;bBEI+a;bBUON+a;bPRAM+a
bPRAM-MUOY+a;bPRAM-PII+a;bPRAM-BEI+a;bPRAM-BUON+a;bDAP+a;bDAP-MUOY+a;bDAP-PII+a;bDAP-BEI+a
bDAP-BUON+a;bDAP-PRAM+a;BUGINESE LETTER KA;bGA;bNGA;bNGKA;bPA;bBA;bMA;bMPA;bTA;bDA;bNA;bNRA;bCA
bJA;bNYA;bNYCA;bYA;bRA;bLA;bVA;bSA;bA;bHA;aVOWEL SIGN I;cU;cE;cO;cAE"),
   (0x1A1E, "BUGINESE PALLAWA;aEND OF SECTION;TAI THAM LETTER HIGH KA;dKHA;dKXA;cLOW KA;dKXA
dKHA;cNGA;cHIGH CA;dCHA;cLOW CA;dSA;dCHA;cNYA;cRATA;cHIGH RATHA;cDA;cLOW RATHA;cRANA;cHIGH TA
dTHA;cLOW TA;dTHA;cNA;cBA;cHIGH PA;dPHA;dFA;cLOW PA;dFA;dPHA;cMA;cLOW YA;cHIGH+a;cRA;cRUE;cLA
cLUE;cWA;cHIGH SHA;dSSA;dSA;dHA;cLLA;cA;cLOW HA;cI;cII;cU;cUU;cEE;cOO;cLAE;cGREAT SA
bCONSONANT SIGN MEDIAL RA;eLA;dLA TANG LAI;bSIGN MAI KANG+a;bCONSONANT SIGN FINAL NGA;dLOW PA
dHIGH RATHA OR+b;dMA;dBA;dSA"),
   (0x1A60, "TAI THAM SIGN SAKOT;bVOWEL SIGN A;dMAI SAT;dAA;dTALL+a;dI;dII;dUE;dUUE;dU;dUU;dO
dOA BELOW;dOY;dE;dAE;dOO;dAI;dTHAM+a;dOA ABOVE;bSIGN MAI KANG;cTONE-1;cTONE-2;cKHUEN TONE-3
dTONE-4;dTONE-5;cRA HAAM;cMAI SAM;cKHUEN-LUE KARAN"),
   (0x1A7F, "TAI THAM COMBINING CRYPTOGRAMMIC DOT;bHORA DIGIT ZERO;dONE;dTWO;dTHREE;dFOUR;dFIVE
dSIX;dSEVEN;dEIGHT;dNINE"),
   (0x1A90, "TAI THAM THAM DIGIT ZERO;dONE;dTWO;dTHREE;dFOUR;dFIVE;dSIX;dSEVEN;dEIGHT;dNINE"),
   (0x1AA0, "TAI THAM SIGN WIANG;cWIANGWAAK;cSAWAN;cKEOW;cHOY;cDOKMAI;cREVERSED ROTATED RANA
cMAI YAMOK;cKAAN;cKAANKUU;cSATKAAN;cSATKAANKUU;cHANG;cCAANG"),
   (0x1AB0, "COMBINING DOUBLED CIRCUMFLEX ACCENT;aDIAERESIS-RING;aINFINITY;aDOWNWARDS ARROW
aTRIPLE DOT;aX-X BELOW;aWIGGLY LINE+a;aOPEN MARK+a;aDOUBLE+c;aLIGHT CENTRALIZATION STROKE+a
aSTRONG+c;aPARENTHESES ABOVE;aDOUBLE+b;aPARENTHESES BELOW;bOVERLAY;aLATIN SMALL LETTER W BELOW
dTURNED+b;aLEFT PARENTHESIS ABOVE LEFT;aRIGHT PARENTHESIS ABOVE RIGHT
aLEFT PARENTHESIS BELOW LEFT;aRIGHT PARENTHESIS BELOW RIGHT;aSQUARE BRACKETS ABOVE
aNUMBER SIGN+a;aINVERTED DOUBLE ARCH+a;aPLUS SIGN+a;aDOUBLE+c;dBELOW;aTRIPLE ACUTE ACCENT
aLATIN SMALL LETTER INSULAR G;eR;eT"),
   (0x1B00, "BALINESE SIGN ULU RICEM;cCANDRA;bCECEK;bSURANG;bBISAH;aLETTER AKARA;cTEDUNG;bIKARA
cTEDUNG;bUKARA;cTEDUNG;bRA REPA;dTEDUNG;bLA LENGA;dTEDUNG;bEKARA;bAIKARA;bOKARA;cTEDUNG;bKA
cMAHAPRANA;bGA;cGORA;bNGA;bCA;cLACA;bJA;cJERA;bNYA;bTA LATIK;cMURDA MAHAPRANA
bDA MURDA ALPAPRANA;dMAHAPRANA;bNA RAMBAT;bTA;cTAWA;bDA;cMADU;bNA;bPA;cKAPAL;bBA;cKEMBANG;bMA
bYA;bRA;bLA;bWA;bSA SAGA;cSAPA;c;bHA;aSIGN REREKAN;aVOWEL SIGN TEDUNG;cULU;dSARI;cSUKU;dILUT
cRA REPA;eTEDUNG;cLA LENGA;eTEDUNG;cTALING;dREPA;dTEDUNG;dREPA+a;cPEPET;dTEDUNG;aADEG ADEG
aLETTER KAF SASAK;bKHOT+a;bTZIR+a;bEF+a;bVE+a;bZAL+a;bASYURA+a;bARCHAIC JNYA"),
   (0x1B50, "BALINESE DIGIT ZERO;bONE;bTWO;bTHREE;bFOUR;bFIVE;bSIX;bSEVEN;bEIGHT;bNINE;aPANTI
aPAMADA;aWINDU;aCARIK PAMUNGKAH;bSIKI;bPAREREN;aPAMENENG;aMUSICAL SYMBOL DONG;cDENG;cDUNG;cDANG
dSURANG;cDING;cDAENG;cDEUNG;cDAING;cDANG GEDE;cCOMBINING TEGEH;dENDEP;dKEMPUL;dKEMPLI;dJEGOGAN
dKEMPUL WITH+a;dKEMPLI+b;dBENDE;dGONG;cRIGHT-HAND OPEN DUG;eDAG;dCLOSED TUK;eTAK
cLEFT-HAND OPEN PANG;ePUNG;dCLOSED PLAK;ePLUK;dOPEN PING;aPANTI LANTANG;aPAMADA+a"),
   (0x1B80, "SUNDANESE SIGN PANYECEK;bPANGLAYAR;bPANGWISAD;aLETTER A;bI;bU;bAE;bO;bE;bEU;bKA;bQA
bGA;bNGA;bCA;bJA;bZA;bNYA;bTA;bDA;bNA;bPA;bFA;bVA;bBA;bMA;bYA;bRA;bLA;bWA;bSA;bXA;bHA
aCONSONANT SIGN PAMINGKAL;cPANYAKRA;cPANYIKU;aVOWEL SIGN PANGHULU;cPANYUKU;cPANAELAENG
cPANOLONG;cPAMEPET;cPANEULEUNG;aSIGN PAMAAEH;bVIRAMA;aCONSONANT SIGN PASANGAN MA;dWA
aLETTER KHA;bSYA;aDIGIT ZERO;bONE;bTWO;bTHREE;bFOUR;bFIVE;bSIX;bSEVEN;bEIGHT;bNINE;aAVAGRAHA
aLETTER REU;bLEU;bBHA;bFINAL K;cM;BATAK LETTER A;bSIMALUNGUN A;bHA;bSIMALUNGUN+a;bMANDAILING+a
bBA;bKARO+a;bPA;bSIMALUNGUN+a;bNA;bMANDAILING+a;bWA;bSIMALUNGUN+a;bPAKPAK+a;bGA;bSIMALUNGUN+a
bJA;bDA;bRA;bSIMALUNGUN+a;bMA;bSIMALUNGUN+a;bSOUTHERN TA;bNORTHERN+a;bSA;bSIMALUNGUN+a
bMANDAILING+a;bYA;bSIMALUNGUN+a;bNGA;bLA;bSIMALUNGUN+a;bNYA;bCA;bNDA;bMBA;bI;bU;aSIGN TOMPI
aVOWEL SIGN E;cPAKPAK E;cEE;cI;cKARO I;cO;cKARO O;cU;dFOR SIMALUNGUN SA;aCONSONANT SIGN NG;cH
aPANGOLAT;aPANONGONAN"),
   (0x1BFC, "BATAK SYMBOL BINDU NA METEK;cPINARBORAS;cJUDUL;cPANGOLAT;LEPCHA LETTER KA;bKLA;bKHA
bGA;bGLA;bNGA;bCA;bCHA;bJA;bNYA;bTA;bTHA;bDA;bNA;bPA;bPLA;bPHA;bFA;bFLA;bBA;bBLA;bMA;bMLA;bTSA
bTSHA;bDZA;bYA;bRA;bLA;bHA;bHLA;bVA;bSA;bSHA;bWA;bA;aSUBJOINED LETTER YA;cRA;aVOWEL SIGN AA;cI
cO;cOO;cU;cUU;cE;aCONSONANT SIGN K;cM;cL;cN;cP;cR;cT;cNYIN-DO;cKANG;aSIGN RAN;bNUKTA"),
   (0x1C3B, "LEPCHA PUNCTUATION TA-ROL;bNYET THYOOM+a;bCER-WA;bTSHOOK+a;c;aDIGIT ZERO;bONE;bTWO
bTHREE;bFOUR;bFIVE;bSIX;bSEVEN;bEIGHT;bNINE"),
   (0x1C4D, "LEPCHA LETTER TTA;bTTHA;bDDA;OL CHIKI DIGIT ZERO;cONE;cTWO;cTHREE;cFOUR;cFIVE;cSIX
cSEVEN;cEIGHT;cNINE;bLETTER LA;cAT;cAG;cANG;cAL;cLAA;cAAK;cAAJ;cAAM;cAAW;cLI;cIS;cIH;cINY;cIR
cLU;cUC;cUD;cUNN;cUY;cLE;cEP;cEDD;cEN;cERR;cLO;cOTT;cOB;cOV;cOH;bMU TTUDDAG;bGAAHLAA TTUDDAAG
bMU-GAAHLAA+a;bRELAA;bPHAARKAA;bAHAD;bPUNCTUATION MUCAAD;cDOUBLE+a
CYRILLIC SMALL LETTER ROUNDED VE;cLONG-LEGGED DE;cNARROW O;cWIDE ES;cTALL TE;cTHREE-LEGGED+a
cTALL HARD SIGN;dYAT;cUNBLENDED UK"),
   (0x1C90, "GEORGIAN MTAVRULI CAPITAL LETTER AN;dBAN;dGAN;dDON;dEN;dVIN;dZEN;dTAN;dIN;dKAN;dLAS
dMAN;dNAR;dON;dPAR;dZHAR;dRAE;dSAN;dTAR;dUN;dPHAR;dKHAR;dGHAN;dQAR;dSHIN;dCHIN;dCAN;dJIL;dCIL
dCHAR;dXAN;dJHAN;dHAE;dHE;dHIE;dWE;dHAR;dHOE;dFI;dYN;dELIFI;dTURNED GAN;dAIN"),
   (0x1CBD, "GEORGIAN MTAVRULI CAPITAL LETTER AEN;dHARD SIGN;dLABIAL+a
SUNDANESE PUNCTUATION BINDU SURYA;cPANGLONG;cPURNAMA;cCAKRA;cLEU SATANGA;cKA+a;cDA+a;cBA+a"),
   (0x1CD0, "VEDIC TONE KARSHANA;bSHARA;bPRENKHA;aSIGN NIHSHVASA;bYAJURVEDIC MIDLINE SVARITA
aTONE YAJURVEDIC AGGRAVATED INDEPENDENT+a;c+b;cKATHAKA+b;bCANDRA BELOW
bYAJURVEDIC KATHAKA INDEPENDENT SVARITA SCHROEDER;bDOUBLE SVARITA;bTRIPLE+a;bKATHAKA ANUDATTA
bDOT BELOW;bTWO DOTS+a;bTHREE+b;bRIGVEDIC KASHMIRI INDEPENDENT SVARITA;bATHARVAVEDIC+b
aSIGN VISARGA+a;cUDATTA;bREVERSED+b;bVISARGA ANUDATTA;bREVERSED+b;bVISARGA UDATTA WITH TAIL
cANUDATTA+b;bANUSVARA ANTARGOMUKHA;cBAHIRGOMUKHA;cVAMAGOMUKHA;dWITH TAIL;bTIRYAK
bHEXIFORM LONG ANUSVARA;b+b;bRTHANG+b;bANUSVARA UBHAYATO MUKHA;bARDHAVISARGA;bROTATED+a
aTONE CANDRA ABOVE;aSIGN JIHVAMULIYA;bUPADHMANIYA;bATIKRAMA;aTONE RING ABOVE;bDOUBLE+b
aSIGN DOUBLE ANUSVARA ANTARGOMUKHA"),
   (0x1D00, "LATIN LETTER SMALL CAPITAL A;dAE;aSMALL LETTER TURNED+a
aLETTER SMALL CAPITAL BARRED B;dC;dD;dETH;dE;aSMALL LETTER TURNED OPEN E;dI
aLETTER SMALL CAPITAL J;dK;dL WITH STROKE;dM;dREVERSED N;dO;dOPEN O;aSMALL LETTER SIDEWAYS O
dOPEN O;dO WITH STROKE;cTURNED OE;aLETTER SMALL CAPITAL OU;aSMALL LETTER TOP HALF O;cBOTTOM+b
aLETTER SMALL CAPITAL P;dREVERSED R;dTURNED R;dT;dU;aSMALL LETTER SIDEWAYS U;dDIAERESIZED U
dTURNED M;aLETTER SMALL CAPITAL V;dW;dZ;dEZH;bVOICED LARYNGEAL SPIRANT;bAIN
GREEK LETTER SMALL CAPITAL GAMMA;dLAMDA;dPI;dRHO;dPSI;CYRILLIC LETTER SMALL CAPITAL EL
MODIFIER LETTER CAPITAL A;cAE;cB;cBARRED B;cD;cE;cREVERSED E;cG;cH;cI;cJ;cK;cL;cM;cN
cREVERSED N;cO;cOU;cP;cR;cT;cU;cW;bSMALL A;cTURNED A;cALPHA;cTURNED AE;cB;cD;cE;cSCHWA;cOPEN E
cTURNED+b;cG;cTURNED I;cK;cM;cENG;cO;cOPEN O;cTOP HALF O;cBOTTOM+b;cP;cT;cU;cSIDEWAYS U
cTURNED M;cV;cAIN;cBETA;cGREEK GAMMA;cDELTA;cGREEK PHI;cCHI;LATIN SUBSCRIPT SMALL LETTER I;dR
dU;dV;GREEK SUBSCRIPT SMALL LETTER BETA;dGAMMA;dRHO;dPHI;dCHI;LATIN SMALL LETTER UE
cB WITH MIDDLE TILDE;cD+c;cF+c;cM+c;cN+c;cP+c;cR+c;eFISHHOOK AND+b;cS WITH+b;cT+c;cZ+c
cTURNED G;MODIFIER LETTER CYRILLIC EN;LATIN SMALL LETTER INSULAR G;cTH WITH STRIKETHROUGH
bCAPITAL LETTER I WITH STROKE;bLETTER IOTA+b;cP+b;bCAPITAL LETTER U+b;bLETTER UPSILON+b
cB WITH PALATAL HOOK;cD+c;cF+c;cG+c;cK+c;cL+c;cM+c;cN+c;cP+c;cR+c;cS+c;cESH+c;cV+c;cX+c;cZ+c
cA WITH RETROFLEX+a;cALPHA+c;cD WITH HOOK AND TAIL;cE WITH RETROFLEX HOOK;cOPEN+d;cREVERSED+e
cSCHWA+c;cI+c;cOPEN O+c;cESH+c;cU+c;cEZH+c;MODIFIER LETTER SMALL TURNED ALPHA;cC;dWITH CURL
cETH;cREVERSED OPEN E;cF;cDOTLESS J WITH STROKE;cSCRIPT G;cTURNED H;cI WITH STROKE;cIOTA
cCAPITAL I;eWITH STROKE;cJ WITH CROSSED-TAIL;cL WITH RETROFLEX HOOK;ePALATAL+a;cCAPITAL L
cM WITH HOOK;cTURNED M WITH LONG LEG;cN WITH LEFT HOOK;eRETROFLEX+a;cCAPITAL N;cBARRED O;cPHI
cS WITH HOOK;cESH;cT WITH PALATAL HOOK;cU BAR;cUPSILON;cCAPITAL U;cV WITH HOOK;cTURNED V;cZ
dWITH RETROFLEX HOOK;eCURL;cEZH;cTHETA;COMBINING DOTTED GRAVE ACCENT;bACUTE+a;aSNAKE BELOW
aSUSPENSION MARK;aMACRON-ACUTE;aGRAVE-MACRON;aMACRON-GRAVE;aACUTE-MACRON;aGRAVE-ACUTE-GRAVE
aACUTE-GRAVE-ACUTE;aLATIN SMALL LETTER R BELOW;aBREVE-MACRON;aMACRON-BREVE
aDOUBLE CIRCUMFLEX ABOVE;aOGONEK+a;aZIGZAG BELOW;aIS+a;aUR ABOVE;aUS+a
aLATIN SMALL LETTER FLATTENED OPEN A+a;dAE;dAO;dAV;dC CEDILLA;dINSULAR D;dETH;dG
bLETTER SMALL CAPITAL G;bSMALL LETTER K;dL;bLETTER SMALL CAPITAL L;eM;bSMALL LETTER N
bLETTER SMALL CAPITAL N;eR;bSMALL LETTER R ROTUNDA;dS;dLONG S;dZ;dALPHA;dB;dBETA;dSCHWA;dF
dL WITH DOUBLE MIDDLE TILDE;dO WITH LIGHT CENTRALIZATION STROKE;dP;dESH
dU WITH LIGHT CENTRALIZATION STROKE;dW;dA WITH DIAERESIS;dO+b;dU+b;aUP TACK ABOVE
aKAVYKA ABOVE RIGHT;cLEFT;aDOT+b;aWIDE INVERTED BRIDGE BELOW;aDOT BELOW LEFT;aDELETION MARK
aDOUBLE INVERTED BREVE BELOW;aALMOST EQUAL TO+a;aLEFT ARROWHEAD ABOVE
aRIGHT ARROWHEAD AND DOWN ARROWHEAD BELOW;LATIN CAPITAL LETTER A WITH RING+a;aSMALL+e
aCAPITAL LETTER B WITH DOT ABOVE;aSMALL+e;aCAPITAL LETTER B WITH DOT BELOW;aSMALL+e
aCAPITAL LETTER B WITH LINE+a;aSMALL+e;aCAPITAL LETTER C WITH CEDILLA AND ACUTE;aSMALL+f
aCAPITAL LETTER D WITH DOT ABOVE;aSMALL+e;aCAPITAL LETTER D WITH DOT BELOW;aSMALL+e
aCAPITAL LETTER D WITH LINE+a;aSMALL+e;aCAPITAL LETTER D WITH CEDILLA;aSMALL+d
aCAPITAL LETTER D WITH CIRCUMFLEX BELOW;aSMALL+e;aCAPITAL LETTER E WITH MACRON AND GRAVE
aSMALL+f;aCAPITAL LETTER E WITH MACRON AND ACUTE;aSMALL+f
aCAPITAL LETTER E WITH CIRCUMFLEX BELOW;aSMALL+e;aCAPITAL LETTER E WITH TILDE+a;aSMALL+e
aCAPITAL LETTER E WITH CEDILLA AND BREVE;aSMALL+f;aCAPITAL LETTER F WITH DOT ABOVE;aSMALL+e
aCAPITAL LETTER G WITH MACRON;aSMALL+d;aCAPITAL LETTER H WITH DOT ABOVE;aSMALL+e
aCAPITAL LETTER H WITH DOT BELOW;aSMALL+e;aCAPITAL LETTER H WITH DIAERESIS;aSMALL+d
aCAPITAL LETTER H WITH CEDILLA;aSMALL+d;aCAPITAL LETTER H WITH BREVE BELOW;aSMALL+e
aCAPITAL LETTER I WITH TILDE+a;aSMALL+e;aCAPITAL LETTER I WITH DIAERESIS AND ACUTE;aSMALL+f
aCAPITAL LETTER K WITH+a;aSMALL+d;aCAPITAL LETTER K WITH DOT BELOW;aSMALL+e
aCAPITAL LETTER K WITH LINE+a;aSMALL+e;aCAPITAL LETTER L WITH DOT+a;aSMALL+e
aCAPITAL LETTER L WITH DOT BELOW AND MACRON;aSMALL+g;aCAPITAL LETTER L WITH LINE BELOW;aSMALL+e
aCAPITAL LETTER L WITH CIRCUMFLEX+a;aSMALL+e;aCAPITAL LETTER M WITH ACUTE;aSMALL+d
aCAPITAL LETTER M WITH DOT ABOVE;aSMALL+e;aCAPITAL LETTER M WITH DOT BELOW;aSMALL+e
aCAPITAL LETTER N WITH DOT ABOVE;aSMALL+e;aCAPITAL LETTER N WITH DOT BELOW;aSMALL+e
aCAPITAL LETTER N WITH LINE+a;aSMALL+e;aCAPITAL LETTER N WITH CIRCUMFLEX+a;aSMALL+e
aCAPITAL LETTER O WITH TILDE AND ACUTE;aSMALL+f;aCAPITAL LETTER O WITH TILDE AND DIAERESIS
aSMALL+f;aCAPITAL LETTER O WITH MACRON AND GRAVE;aSMALL+f
aCAPITAL LETTER O WITH MACRON AND ACUTE;aSMALL+f;aCAPITAL LETTER P WITH+a;aSMALL+d
aCAPITAL LETTER P WITH DOT ABOVE;aSMALL+e;aCAPITAL LETTER R+c;aSMALL+e
aCAPITAL LETTER R WITH DOT BELOW;aSMALL+e;aCAPITAL LETTER R WITH DOT BELOW AND MACRON;aSMALL+g
aCAPITAL LETTER R WITH LINE BELOW;aSMALL+e;aCAPITAL LETTER S WITH DOT ABOVE;aSMALL+e
aCAPITAL LETTER S WITH DOT BELOW;aSMALL+e;aCAPITAL LETTER S WITH ACUTE AND DOT ABOVE;aSMALL+g
aCAPITAL LETTER S WITH CARON+c;aSMALL+g;aCAPITAL LETTER S WITH DOT BELOW+c;aSMALL+h
aCAPITAL LETTER T WITH+b;aSMALL+e;aCAPITAL LETTER T WITH DOT BELOW;aSMALL+e
aCAPITAL LETTER T WITH LINE+a;aSMALL+e;aCAPITAL LETTER T WITH CIRCUMFLEX+a;aSMALL+e
aCAPITAL LETTER U WITH DIAERESIS+a;aSMALL+e;aCAPITAL LETTER U WITH TILDE+a;aSMALL+e
aCAPITAL LETTER U WITH CIRCUMFLEX+a;aSMALL+e;aCAPITAL LETTER U WITH TILDE AND ACUTE;aSMALL+f
aCAPITAL LETTER U WITH MACRON AND DIAERESIS;aSMALL+f;aCAPITAL LETTER V WITH TILDE;aSMALL+d
aCAPITAL LETTER V WITH DOT BELOW;aSMALL+e;aCAPITAL LETTER W WITH GRAVE;aSMALL+d
aCAPITAL LETTER W WITH ACUTE;aSMALL+d;aCAPITAL LETTER W WITH DIAERESIS;aSMALL+d
aCAPITAL LETTER W WITH DOT ABOVE;aSMALL+e;aCAPITAL LETTER W WITH DOT BELOW;aSMALL+e
aCAPITAL LETTER X WITH DOT ABOVE;aSMALL+e;aCAPITAL LETTER X WITH DIAERESIS;aSMALL+d
aCAPITAL LETTER Y WITH DOT ABOVE;aSMALL+e;aCAPITAL LETTER Z WITH CIRCUMFLEX;aSMALL+d
aCAPITAL LETTER Z WITH DOT BELOW;aSMALL+e;aCAPITAL LETTER Z WITH LINE+a;aSMALL+e;cH+c
cT WITH DIAERESIS;cW WITH RING ABOVE;cY+c;cA WITH RIGHT HALF RING;cLONG S WITH DOT ABOVE
fDIAGONAL STROKE;fHIGH+a;aCAPITAL LETTER SHARP S;aSMALL LETTER DELTA
aCAPITAL LETTER A WITH DOT BELOW;aSMALL+e;aCAPITAL LETTER A WITH HOOK ABOVE;aSMALL+e
aCAPITAL LETTER A WITH CIRCUMFLEX AND ACUTE;aSMALL+f
aCAPITAL LETTER A WITH CIRCUMFLEX AND GRAVE;aSMALL+f
aCAPITAL LETTER A WITH CIRCUMFLEX AND HOOK ABOVE;aSMALL+g
aCAPITAL LETTER A WITH CIRCUMFLEX AND TILDE;aSMALL+f
aCAPITAL LETTER A WITH CIRCUMFLEX AND DOT BELOW;aSMALL+g;aCAPITAL LETTER A WITH BREVE AND ACUTE
aSMALL+f;aCAPITAL LETTER A WITH BREVE AND GRAVE;aSMALL+f
aCAPITAL LETTER A WITH BREVE AND HOOK ABOVE;aSMALL+g;aCAPITAL LETTER A WITH BREVE AND TILDE
aSMALL+f;aCAPITAL LETTER A WITH BREVE AND DOT BELOW;aSMALL+g;aCAPITAL LETTER E WITH+b;aSMALL+e
aCAPITAL LETTER E WITH HOOK ABOVE;aSMALL+e;aCAPITAL LETTER E WITH TILDE;aSMALL+d
aCAPITAL LETTER E WITH CIRCUMFLEX AND ACUTE;aSMALL+f
aCAPITAL LETTER E WITH CIRCUMFLEX AND GRAVE;aSMALL+f
aCAPITAL LETTER E WITH CIRCUMFLEX AND HOOK ABOVE;aSMALL+g
aCAPITAL LETTER E WITH CIRCUMFLEX AND TILDE;aSMALL+f
aCAPITAL LETTER E WITH CIRCUMFLEX AND DOT BELOW;aSMALL+g;aCAPITAL LETTER I WITH HOOK ABOVE
aSMALL+e;aCAPITAL LETTER I WITH DOT BELOW;aSMALL+e;aCAPITAL LETTER O+c;aSMALL+e
aCAPITAL LETTER O WITH HOOK ABOVE;aSMALL+e;aCAPITAL LETTER O WITH CIRCUMFLEX AND ACUTE;aSMALL+f
aCAPITAL LETTER O WITH CIRCUMFLEX AND GRAVE;aSMALL+f
aCAPITAL LETTER O WITH CIRCUMFLEX AND HOOK ABOVE;aSMALL+g
aCAPITAL LETTER O WITH CIRCUMFLEX AND TILDE;aSMALL+f
aCAPITAL LETTER O WITH CIRCUMFLEX AND DOT BELOW;aSMALL+g;aCAPITAL LETTER O WITH HORN AND ACUTE
aSMALL+f;aCAPITAL LETTER O WITH HORN AND GRAVE;aSMALL+f
aCAPITAL LETTER O WITH HORN AND HOOK ABOVE;aSMALL+g;aCAPITAL LETTER O WITH HORN AND TILDE
aSMALL+f;aCAPITAL LETTER O WITH HORN AND DOT BELOW;aSMALL+g;aCAPITAL LETTER U WITH+b;aSMALL+e
aCAPITAL LETTER U WITH HOOK ABOVE;aSMALL+e;aCAPITAL LETTER U WITH HORN AND ACUTE;aSMALL+f
aCAPITAL LETTER U WITH HORN AND GRAVE;aSMALL+f;aCAPITAL LETTER U WITH HORN AND HOOK ABOVE
aSMALL+g;aCAPITAL LETTER U WITH HORN AND TILDE;aSMALL+f
aCAPITAL LETTER U WITH HORN AND DOT BELOW;aSMALL+g;aCAPITAL LETTER Y WITH GRAVE;aSMALL+d
aCAPITAL LETTER Y WITH DOT BELOW;aSMALL+e;aCAPITAL LETTER Y WITH HOOK ABOVE;aSMALL+e
aCAPITAL LETTER Y WITH TILDE;aSMALL+d;aCAPITAL LETTER MIDDLE-WELSH LL;aSMALL+c
aCAPITAL LETTER MIDDLE-WELSH V;aSMALL+c;aCAPITAL LETTER Y WITH LOOP;aSMALL+d
GREEK SMALL LETTER ALPHA WITH PSILI;eDASIA;ePSILI AND VARIA;eDASIA+b;ePSILI AND OXIA;eDASIA+b
ePSILI AND PERISPOMENI;eDASIA+b;aCAPITAL LETTER ALPHA WITH PSILI;eDASIA;ePSILI AND VARIA
eDASIA+b;ePSILI AND OXIA;eDASIA+b;ePSILI AND PERISPOMENI;eDASIA+b
aSMALL LETTER EPSILON WITH PSILI;eDASIA;ePSILI AND VARIA;eDASIA+b;ePSILI AND OXIA;eDASIA+b"),
   (0x1F18, "GREEK CAPITAL LETTER EPSILON WITH PSILI;eDASIA;ePSILI AND VARIA;eDASIA+b
ePSILI AND OXIA;eDASIA+b"),
   (0x1F20, "GREEK SMALL LETTER ETA WITH PSILI;eDASIA;ePSILI AND VARIA;eDASIA+b;ePSILI AND OXIA
eDASIA+b;ePSILI AND PERISPOMENI;eDASIA+b;aCAPITAL LETTER ETA WITH PSILI;eDASIA;ePSILI AND VARIA
eDASIA+b;ePSILI AND OXIA;eDASIA+b;ePSILI AND PERISPOMENI;eDASIA+b;aSMALL LETTER IOTA WITH PSILI
eDASIA;ePSILI AND VARIA;eDASIA+b;ePSILI AND OXIA;eDASIA+b;ePSILI AND PERISPOMENI;eDASIA+b
aCAPITAL LETTER IOTA WITH PSILI;eDASIA;ePSILI AND VARIA;eDASIA+b;ePSILI AND OXIA;eDASIA+b
ePSILI AND PERISPOMENI;eDASIA+b;aSMALL LETTER OMICRON WITH PSILI;eDASIA;ePSILI AND VARIA
eDASIA+b;ePSILI AND OXIA;eDASIA+b"),
   (0x1F48, "GREEK CAPITAL LETTER OMICRON WITH PSILI;eDASIA;ePSILI AND VARIA;eDASIA+b
ePSILI AND OXIA;eDASIA+b"),
   (0x1F50, "GREEK SMALL LETTER UPSILON WITH PSILI;eDASIA;ePSILI AND VARIA;eDASIA+b
ePSILI AND OXIA;eDASIA+b;ePSILI AND PERISPOMENI;eDASIA+b"),
   (0x1F59, "GREEK CAPITAL LETTER UPSILON WITH DASIA"),
   (0x1F5B, "GREEK CAPITAL LETTER UPSILON WITH DASIA AND VARIA"),
   (0x1F5D, "GREEK CAPITAL LETTER UPSILON WITH DASIA AND OXIA"),
   (0x1F5F, "GREEK CAPITAL LETTER UPSILON WITH DASIA AND PERISPOMENI
aSMALL LETTER OMEGA WITH PSILI;eDASIA;ePSILI AND VARIA;eDASIA+b;ePSILI AND OXIA;eDASIA+b
ePSILI AND PERISPOMENI;eDASIA+b;aCAPITAL LETTER OMEGA WITH PSILI;eDASIA;ePSILI AND VARIA
eDASIA+b;ePSILI AND OXIA;eDASIA+b;ePSILI AND PERISPOMENI;eDASIA+b
aSMALL LETTER ALPHA WITH VARIA;eOXIA;cEPSILON WITH VARIA;eOXIA;cETA WITH VARIA;eOXIA
cIOTA WITH VARIA;eOXIA;cOMICRON WITH VARIA;eOXIA;cUPSILON WITH VARIA;eOXIA;cOMEGA WITH VARIA
eOXIA"),
   (0x1F80, "GREEK SMALL LETTER ALPHA WITH PSILI AND YPOGEGRAMMENI;eDASIA+b;ePSILI AND VARIA+b
eDASIA+d;ePSILI AND OXIA+b;eDASIA+d;ePSILI AND PERISPOMENI+b;eDASIA+d
aCAPITAL LETTER ALPHA WITH PSILI AND PROSGEGRAMMENI;eDASIA+b;ePSILI AND VARIA+b;eDASIA+d
ePSILI AND OXIA+b;eDASIA+d;ePSILI AND PERISPOMENI+b;eDASIA+d
aSMALL LETTER ETA WITH PSILI AND YPOGEGRAMMENI;eDASIA+b;ePSILI AND VARIA+b;eDASIA+d
ePSILI AND OXIA+b;eDASIA+d;ePSILI AND PERISPOMENI+b;eDASIA+d
aCAPITAL LETTER ETA WITH PSILI AND PROSGEGRAMMENI;eDASIA+b;ePSILI AND VARIA+b;eDASIA+d
ePSILI AND OXIA+b;eDASIA+d;ePSILI AND PERISPOMENI+b;eDASIA+d
aSMALL LETTER OMEGA WITH PSILI AND YPOGEGRAMMENI;eDASIA+b;ePSILI AND VARIA+b;eDASIA+d
ePSILI AND OXIA+b;eDASIA+d;ePSILI AND PERISPOMENI+b;eDASIA+d
aCAPITAL LETTER OMEGA WITH PSILI AND PROSGEGRAMMENI;eDASIA+b;ePSILI AND VARIA+b;eDASIA+d
ePSILI AND OXIA+b;eDASIA+d;ePSILI AND PERISPOMENI+b;eDASIA+d;aSMALL LETTER ALPHA WITH VRACHY
eMACRON;eVARIA AND YPOGEGRAMMENI;e+a;eOXIA AND+a"),
   (0x1FB6, "GREEK SMALL LETTER ALPHA WITH PERISPOMENI;fAND YPOGEGRAMMENI
aCAPITAL LETTER ALPHA WITH VRACHY;eMACRON;eVARIA;eOXIA;ePROSGEGRAMMENI;aKORONIS;aPROSGEGRAMMENI
aPSILI;aPERISPOMENI;aDIALYTIKA AND+a;aSMALL LETTER ETA WITH VARIA AND YPOGEGRAMMENI;e+a
eOXIA AND+a"),
   (0x1FC6, "GREEK SMALL LETTER ETA WITH PERISPOMENI;fAND YPOGEGRAMMENI
aCAPITAL LETTER EPSILON WITH VARIA;eOXIA;cETA WITH VARIA;eOXIA;ePROSGEGRAMMENI;aPSILI AND VARIA
cOXIA;cPERISPOMENI;aSMALL LETTER IOTA WITH VRACHY;eMACRON;eDIALYTIKA AND VARIA;gOXIA"),
   (0x1FD6, "GREEK SMALL LETTER IOTA WITH PERISPOMENI;eDIALYTIKA AND+a
aCAPITAL LETTER IOTA WITH VRACHY;eMACRON;eVARIA;eOXIA"),
   (0x1FDD, "GREEK DASIA AND VARIA;cOXIA;cPERISPOMENI;aSMALL LETTER UPSILON WITH VRACHY;eMACRON
eDIALYTIKA AND VARIA;gOXIA;cRHO WITH PSILI;eDASIA;cUPSILON WITH PERISPOMENI;eDIALYTIKA AND+a
aCAPITAL LETTER UPSILON WITH VRACHY;eMACRON;eVARIA;eOXIA;cRHO WITH DASIA;aDIALYTIKA AND VARIA
cOXIA;aVARIA"),
   (0x1FF2, "GREEK SMALL LETTER OMEGA WITH VARIA AND YPOGEGRAMMENI;e+a;eOXIA AND+a"),
   (0x1FF6, "GREEK SMALL LETTER OMEGA WITH PERISPOMENI;fAND YPOGEGRAMMENI
aCAPITAL LETTER OMICRON WITH VARIA;eOXIA;cOMEGA WITH VARIA;eOXIA;ePROSGEGRAMMENI;aOXIA;aDASIA"),
   (0x2000, "EN QUAD;EM+a;EN SPACE;EM+a;THREE-PER-EM+a;FOUR-PER-EM+a;SIX-PER-EM+a;FIGURE+a
PUNCTUATION+a;THIN+a;HAIR+a;ZERO WIDTH+a;bNON-JOINER;bJOINER;LEFT-TO-RIGHT MARK;RIGHT-TO-LEFT+a
HYPHEN;NON-BREAKING+a;FIGURE DASH;EN+a;EM+a;HORIZONTAL BAR;DOUBLE VERTICAL LINE;aLOW+a
LEFT SINGLE QUOTATION MARK;RIGHT+c;SINGLE LOW-9+b;aHIGH-REVERSED-9+b;LEFT DOUBLE+b;RIGHT+c
DOUBLE LOW-9+b;aHIGH-REVERSED-9+b;DAGGER;DOUBLE+a;BULLET;TRIANGULAR+a;ONE DOT LEADER;TWO+b
HORIZONTAL ELLIPSIS;HYPHENATION POINT;LINE SEPARATOR;PARAGRAPH+a;LEFT-TO-RIGHT EMBEDDING
RIGHT-TO-LEFT+a;POP DIRECTIONAL FORMATTING;LEFT-TO-RIGHT OVERRIDE;RIGHT-TO-LEFT+a
NARROW NO-BREAK SPACE;PER MILLE SIGN;aTEN THOUSAND+a;PRIME;DOUBLE+a;TRIPLE+a;REVERSED+a
aDOUBLE+a;aTRIPLE+a;CARET;SINGLE LEFT-POINTING ANGLE QUOTATION MARK;aRIGHT-POINTING+c
REFERENCE+a;DOUBLE EXCLAMATION+a;INTERROBANG;OVERLINE;UNDERTIE;CHARACTER TIE
CARET INSERTION POINT;ASTERISM;HYPHEN BULLET;FRACTION SLASH;LEFT SQUARE BRACKET WITH QUILL
RIGHT+d;DOUBLE QUESTION MARK;QUESTION EXCLAMATION+a;EXCLAMATION QUESTION+a;TIRONIAN SIGN ET
REVERSED PILCROW SIGN;BLACK LEFTWARDS BULLET;aRIGHTWARDS+a;LOW ASTERISK;REVERSED SEMICOLON
CLOSE UP;TWO ASTERISKS ALIGNED VERTICALLY;COMMERCIAL MINUS SIGN;SWUNG DASH;INVERTED UNDERTIE
FLOWER PUNCTUATION MARK;THREE DOT PUNCTUATION;QUADRUPLE PRIME;FOUR DOT PUNCTUATION;FIVE+b;TWO+b
FOUR DOT MARK;DOTTED CROSS;TRICOLON;VERTICAL FOUR DOTS;MEDIUM MATHEMATICAL SPACE;WORD JOINER
FUNCTION APPLICATION;INVISIBLE TIMES;aSEPARATOR;aPLUS"),
   (0x2066, "LEFT-TO-RIGHT ISOLATE;RIGHT-TO-LEFT+a;FIRST STRONG+a;POP DIRECTIONAL+a
INHIBIT SYMMETRIC SWAPPING;ACTIVATE+b;INHIBIT ARABIC FORM SHAPING;ACTIVATE+c
NATIONAL DIGIT SHAPES;NOMINAL+b;SUPERSCRIPT ZERO;aLATIN SMALL LETTER I"),
   (0x2074, "SUPERSCRIPT FOUR;aFIVE;aSIX;aSEVEN;aEIGHT;aNINE;aPLUS SIGN;aMINUS;aEQUALS SIGN
aLEFT PARENTHESIS;aRIGHT+a;aLATIN SMALL LETTER N;SUBSCRIPT ZERO;aONE;aTWO;aTHREE;aFOUR;aFIVE
aSIX;aSEVEN;aEIGHT;aNINE;aPLUS SIGN;aMINUS;aEQUALS SIGN;aLEFT PARENTHESIS;aRIGHT+a"),
   (0x2090, "LATIN SUBSCRIPT SMALL LETTER A;dE;dO;dX;dSCHWA;dH;dK;dL;dM;dN;dP;dS;dT"),
   (0x20A0, "EURO-CURRENCY SIGN;COLON+a;CRUZEIRO+a;FRENCH FRANC+a;LIRA+a;MILL+a;NAIRA+a;PESETA+a
RUPEE+a;WON+a;NEW SHEQEL+a;DONG+a;EURO+a;KIP+a;TUGRIK+a;DRACHMA+a;GERMAN PENNY+a;PESO+a
GUARANI+a;AUSTRAL+a;HRYVNIA+a;CEDI+a;LIVRE TOURNOIS+a;SPESMILO+a;TENGE+a;INDIAN RUPEE+a
TURKISH LIRA+a;NORDIC MARK+a;MANAT+a;RUBLE+a;LARI+a;BITCOIN+a;SOM+a"),
   (0x20D0, "COMBINING LEFT HARPOON ABOVE;aRIGHT+b;aLONG VERTICAL LINE OVERLAY;aSHORT+c
aANTICLOCKWISE ARROW ABOVE;aCLOCKWISE+b;aLEFT+b;aRIGHT+b;aRING OVERLAY;aCLOCKWISE+b
aANTICLOCKWISE+b;aTHREE DOTS ABOVE;aFOUR+b;aENCLOSING CIRCLE;bSQUARE;bDIAMOND;bCIRCLE BACKSLASH
aLEFT RIGHT ARROW ABOVE;aENCLOSING SCREEN;bKEYCAP;bUPWARD POINTING TRIANGLE
aREVERSE SOLIDUS OVERLAY;aDOUBLE VERTICAL STROKE+a;aANNUITY SYMBOL;aTRIPLE UNDERDOT
aWIDE BRIDGE ABOVE;aLEFTWARDS ARROW OVERLAY;aLONG DOUBLE SOLIDUS+a
aRIGHTWARDS HARPOON WITH BARB DOWNWARDS;aLEFTWARDS+d;aLEFT ARROW BELOW;aRIGHT+b;aASTERISK ABOVE"),
   (0x2100, "ACCOUNT OF;ADDRESSED TO THE SUBJECT;DOUBLE-STRUCK CAPITAL C;DEGREE CELSIUS
CENTRE LINE SYMBOL;CARE OF;CADA UNA;EULER CONSTANT;SCRUPLE;DEGREE FAHRENHEIT;SCRIPT SMALL G
aCAPITAL H;BLACK-LETTER+b;DOUBLE-STRUCK+b;PLANCK CONSTANT;bOVER TWO PI;SCRIPT CAPITAL I
BLACK-LETTER+b;SCRIPT CAPITAL L;aSMALL L;L B BAR SYMBOL;DOUBLE-STRUCK CAPITAL N;NUMERO SIGN
SOUND RECORDING COPYRIGHT;SCRIPT CAPITAL P;DOUBLE-STRUCK+b;bQ;SCRIPT CAPITAL R;BLACK-LETTER+b
DOUBLE-STRUCK+b;PRESCRIPTION TAKE;RESPONSE;SERVICE MARK;TELEPHONE SIGN;TRADE MARK+a;VERSICLE
DOUBLE-STRUCK CAPITAL Z;OUNCE SIGN;OHM+a;INVERTED+b;BLACK-LETTER CAPITAL Z
TURNED GREEK SMALL LETTER IOTA;KELVIN SIGN;ANGSTROM+a;SCRIPT CAPITAL B;BLACK-LETTER CAPITAL C
ESTIMATED SYMBOL;SCRIPT SMALL E;aCAPITAL E;bF;TURNED+b;SCRIPT CAPITAL M;aSMALL O;ALEF SYMBOL
BET+a;GIMEL+a;DALET+a;INFORMATION SOURCE;ROTATED CAPITAL Q;FACSIMILE SIGN
DOUBLE-STRUCK SMALL PI;bGAMMA;aCAPITAL+a;bPI;aN-ARY SUMMATION;TURNED SANS-SERIF CAPITAL G;cL
REVERSED+c;TURNED SANS-SERIF CAPITAL Y;DOUBLE-STRUCK ITALIC CAPITAL D;bSMALL D;cE;cI;cJ
PROPERTY LINE;TURNED AMPERSAND;PER SIGN;AKTIESELSKAB;TURNED SMALL F;SYMBOL FOR SAMARITAN SOURCE
VULGAR FRACTION ONE SEVENTH;cNINTH;cTENTH;cTHIRD;bTWO THIRDS;bONE FIFTH;bTWO FIFTHS;bTHREE+a
bFOUR+a;bONE SIXTH;bFIVE SIXTHS;bONE EIGHTH;bTHREE EIGHTHS;bFIVE+a;bSEVEN+a
FRACTION NUMERATOR ONE;ROMAN NUMERAL+a;bTWO;bTHREE;bFOUR;bFIVE;bSIX;bSEVEN;bEIGHT;bNINE;bTEN
bELEVEN;bTWELVE;bFIFTY;bONE HUNDRED;bFIVE+a;bONE THOUSAND;SMALL ROMAN NUMERAL ONE;cTWO;cTHREE
cFOUR;cFIVE;cSIX;cSEVEN;cEIGHT;cNINE;cTEN;cELEVEN;cTWELVE;cFIFTY;cONE HUNDRED;cFIVE+a
cONE THOUSAND;ROMAN NUMERAL ONE THOUSAND C D;bFIVE THOUSAND;bTEN+a;bREVERSED ONE HUNDRED
LATIN SMALL LETTER REVERSED C;ROMAN NUMERAL SIX LATE FORM;bFIFTY EARLY+a;cTHOUSAND
bONE HUNDRED+a;VULGAR FRACTION ZERO THIRDS;TURNED DIGIT TWO;bTHREE"),
   (0x2190, "LEFTWARDS ARROW;UPWARDS+a;RIGHTWARDS+a;DOWNWARDS+a;LEFT RIGHT+a;UP DOWN+a
NORTH WEST+a;aEAST+a;SOUTH+b;aWEST+a;LEFTWARDS ARROW WITH STROKE;RIGHTWARDS+c
LEFTWARDS WAVE ARROW;RIGHTWARDS+b;LEFTWARDS TWO HEADED+a;UPWARDS+c;RIGHTWARDS+c;DOWNWARDS+c
LEFTWARDS ARROW WITH TAIL;RIGHTWARDS+c;LEFTWARDS ARROW FROM BAR;UPWARDS+c;RIGHTWARDS+c
DOWNWARDS+c;UP DOWN ARROW WITH BASE;LEFTWARDS ARROW WITH HOOK;RIGHTWARDS+c
LEFTWARDS ARROW WITH LOOP;RIGHTWARDS+c;LEFT RIGHT WAVE ARROW;bARROW WITH STROKE
DOWNWARDS ZIGZAG ARROW;UPWARDS ARROW WITH TIP LEFTWARDS;dRIGHTWARDS
DOWNWARDS ARROW WITH TIP LEFTWARDS;dRIGHTWARDS;RIGHTWARDS ARROW WITH CORNER DOWNWARDS
DOWNWARDS ARROW WITH CORNER LEFTWARDS;ANTICLOCKWISE TOP SEMICIRCLE ARROW;CLOCKWISE+c
NORTH WEST ARROW TO LONG BAR;LEFTWARDS ARROW TO BAR OVER RIGHTWARDS ARROW TO+a
ANTICLOCKWISE OPEN CIRCLE ARROW;CLOCKWISE+c;LEFTWARDS HARPOON WITH BARB UPWARDS;dDOWNWARDS
UPWARDS HARPOON WITH BARB RIGHTWARDS;dLEFTWARDS;RIGHTWARDS HARPOON WITH BARB UPWARDS;dDOWNWARDS
DOWNWARDS HARPOON WITH BARB RIGHTWARDS;dLEFTWARDS;RIGHTWARDS ARROW OVER LEFTWARDS ARROW
UPWARDS ARROW LEFTWARDS OF DOWNWARDS+a;LEFTWARDS ARROW OVER RIGHTWARDS+a;aPAIRED ARROWS
UPWARDS+b;RIGHTWARDS+b;DOWNWARDS+b;LEFTWARDS HARPOON OVER RIGHTWARDS HARPOON
RIGHTWARDS HARPOON OVER LEFTWARDS+a;LEFTWARDS DOUBLE ARROW WITH STROKE;LEFT RIGHT+d
RIGHTWARDS+d;LEFTWARDS DOUBLE ARROW;UPWARDS+b;RIGHTWARDS+b;DOWNWARDS+b;LEFT RIGHT+b;UP DOWN+b
NORTH WEST+b;aEAST+b;SOUTH+c;aWEST+b;LEFTWARDS TRIPLE+a;RIGHTWARDS+b;LEFTWARDS SQUIGGLE+a
RIGHTWARDS+b;UPWARDS ARROW WITH DOUBLE STROKE;DOWNWARDS+d;LEFTWARDS DASHED ARROW;UPWARDS+b
RIGHTWARDS+b;DOWNWARDS+b;LEFTWARDS ARROW TO BAR;RIGHTWARDS+c;LEFTWARDS WHITE ARROW;UPWARDS+b
RIGHTWARDS+b;DOWNWARDS+b;UPWARDS WHITE ARROW FROM BAR;cON PEDESTAL;eWITH HORIZONTAL BAR
fVERTICAL+a;bDOUBLE ARROW;dON PEDESTAL;RIGHTWARDS WHITE ARROW FROM WALL
NORTH WEST ARROW TO CORNER;SOUTH EAST+c;UP DOWN WHITE ARROW;RIGHT ARROW WITH SMALL CIRCLE
DOWNWARDS ARROW LEFTWARDS OF UPWARDS ARROW;THREE RIGHTWARDS ARROWS
LEFTWARDS ARROW WITH VERTICAL STROKE;RIGHTWARDS+d;LEFT RIGHT+d;LEFTWARDS ARROW WITH DOUBLE+b
RIGHTWARDS+e;LEFT RIGHT+e;LEFTWARDS OPEN-HEADED ARROW;RIGHTWARDS+b;LEFT RIGHT+b;FOR ALL
COMPLEMENT;PARTIAL DIFFERENTIAL;THERE EXISTS;aDOES NOT EXIST;EMPTY SET;INCREMENT;NABLA
ELEMENT OF;NOT AN+b;SMALL+b;CONTAINS AS MEMBER;DOES NOT CONTAIN+b;SMALL CONTAINS+b;END OF PROOF
N-ARY PRODUCT;aCOPRODUCT;aSUMMATION;MINUS SIGN;MINUS-OR-PLUS+a;DOT PLUS;DIVISION SLASH
SET MINUS;ASTERISK OPERATOR;RING+a;BULLET+a;SQUARE ROOT;CUBE+a;FOURTH+a;PROPORTIONAL TO
INFINITY;RIGHT ANGLE;+a;MEASURED+a;SPHERICAL+a;DIVIDES;DOES NOT DIVIDE;PARALLEL TO;NOT+b
LOGICAL AND;aOR;INTERSECTION;UNION;INTEGRAL;DOUBLE+a;TRIPLE+a;CONTOUR+a;SURFACE+a;VOLUME+a
CLOCKWISE+a;aCONTOUR+a;ANTICLOCKWISE+b;THEREFORE;BECAUSE;RATIO;PROPORTION;DOT MINUS;EXCESS
GEOMETRIC PROPORTION;HOMOTHETIC;TILDE OPERATOR;REVERSED TILDE;INVERTED LAZY S;SINE WAVE
WREATH PRODUCT;NOT TILDE;MINUS+a;ASYMPTOTICALLY EQUAL TO;NOT+c;APPROXIMATELY+b
aBUT NOT ACTUALLY+b;NEITHER APPROXIMATELY NOR+c;ALMOST+b;NOT+c;ALMOST EQUAL OR+b;TRIPLE TILDE
ALL EQUAL TO;EQUIVALENT+a;GEOMETRICALLY+b;DIFFERENCE BETWEEN;APPROACHES THE LIMIT
GEOMETRICALLY EQUAL TO;APPROXIMATELY EQUAL TO OR THE IMAGE OF
IMAGE OF OR APPROXIMATELY EQUAL TO;COLON EQUALS;EQUALS COLON;RING IN EQUAL TO;a+b;CORRESPONDS+a
ESTIMATES;EQUIANGULAR TO;STAR EQUALS;DELTA EQUAL TO;EQUAL TO BY DEFINITION;MEASURED BY
QUESTIONED EQUAL TO;NOT+b;IDENTICAL+a;NOT+b;STRICTLY EQUIVALENT+a;LESS-THAN OR EQUAL+a
GREATER-THAN+c;LESS-THAN OVER+b;GREATER-THAN+c;LESS-THAN BUT NOT+b;GREATER-THAN+d
MUCH LESS-THAN;aGREATER-THAN;BETWEEN;NOT EQUIVALENT TO;aLESS-THAN;aGREATER-THAN
NEITHER LESS-THAN NOR EQUAL TO;aGREATER-THAN+c;LESS-THAN OR EQUIVALENT+a;GREATER-THAN+c
NEITHER LESS-THAN NOR+b;aGREATER-THAN+c;LESS-THAN OR GREATER-THAN;GREATER-THAN OR LESS-THAN
NEITHER LESS-THAN NOR GREATER-THAN;aGREATER-THAN NOR LESS-THAN;PRECEDES;SUCCEEDS
PRECEDES OR EQUAL TO;SUCCEEDS+c;PRECEDES OR EQUIVALENT+a;SUCCEEDS+c;DOES NOT PRECEDE;bSUCCEED
SUBSET OF;SUPERSET+a;NOT A SUBSET+a;bSUPERSET+a;SUBSET OF OR EQUAL TO;SUPERSET+d
NEITHER A SUBSET OF NOR+b;bSUPERSET+d;SUBSET OF WITH NOT+b;SUPERSET+e;MULTISET;aMULTIPLICATION
aUNION;SQUARE IMAGE OF;aORIGINAL+a;aIMAGE OF OR EQUAL TO;aORIGINAL+d;aCAP;aCUP;CIRCLED PLUS
aMINUS;aTIMES;aDIVISION SLASH;aDOT OPERATOR;aRING+a;aASTERISK+a;aEQUALS;aDASH;SQUARED PLUS
aMINUS;aTIMES;aDOT OPERATOR;RIGHT TACK;LEFT+a;DOWN+a;UP+a;ASSERTION;MODELS;TRUE;FORCES
TRIPLE VERTICAL BAR RIGHT TURNSTILE;DOUBLE VERTICAL BAR DOUBLE+b;DOES NOT PROVE;NOT TRUE
DOES NOT FORCE;NEGATED DOUBLE VERTICAL BAR DOUBLE RIGHT TURNSTILE;PRECEDES UNDER RELATION
SUCCEEDS+b;NORMAL SUBGROUP OF;CONTAINS AS NORMAL SUBGROUP;NORMAL SUBGROUP OF OR EQUAL TO
CONTAINS AS NORMAL SUBGROUP+c;ORIGINAL OF;IMAGE+a;MULTIMAP;HERMITIAN CONJUGATE MATRIX
INTERCALATE;XOR;NAND;NOR;RIGHT ANGLE WITH ARC;aTRIANGLE;N-ARY LOGICAL AND;bOR;aINTERSECTION
aUNION;DIAMOND OPERATOR;DOT+a;STAR+a;DIVISION TIMES;BOWTIE
LEFT NORMAL FACTOR SEMIDIRECT PRODUCT;RIGHT+d;LEFT+b;RIGHT+b;REVERSED TILDE EQUALS
CURLY LOGICAL OR;bAND;DOUBLE SUBSET;aSUPERSET;aINTERSECTION;aUNION;PITCHFORK
EQUAL AND PARALLEL TO;LESS-THAN WITH DOT;GREATER-THAN+b;VERY MUCH LESS-THAN;bGREATER-THAN
LESS-THAN EQUAL TO OR+a;GREATER-THAN EQUAL TO OR LESS-THAN;+d;cGREATER-THAN;cPRECEDES;cSUCCEEDS
DOES NOT PRECEDE OR EQUAL;bSUCCEED+b;NOT SQUARE IMAGE OF OR EQUAL TO;bORIGINAL+d
SQUARE IMAGE OF OR NOT+b;aORIGINAL+e;LESS-THAN BUT NOT EQUIVALENT+a;GREATER-THAN+d;PRECEDES+d
SUCCEEDS+d;NOT NORMAL SUBGROUP OF;DOES NOT CONTAIN AS NORMAL SUBGROUP
NOT NORMAL SUBGROUP OF OR EQUAL TO;DOES NOT CONTAIN AS NORMAL SUBGROUP OR EQUAL
VERTICAL ELLIPSIS;MIDLINE HORIZONTAL+a;UP RIGHT DIAGONAL+a;DOWN+c
ELEMENT OF WITH LONG HORIZONTAL STROKE;cVERTICAL BAR AT END OF+b;SMALL+j
ELEMENT OF WITH DOT ABOVE;cOVERBAR;SMALL+d;ELEMENT OF WITH UNDERBAR;cTWO HORIZONTAL STROKES
CONTAINS WITH LONG HORIZONTAL STROKE;bVERTICAL BAR AT END OF+b;SMALL+i;CONTAINS WITH OVERBAR
SMALL+c;Z NOTATION BAG MEMBERSHIP;DIAMETER SIGN;ELECTRIC ARROW;HOUSE;UP ARROWHEAD;DOWN+a
PROJECTIVE;PERSPECTIVE;WAVY LINE;LEFT CEILING;RIGHT+a;LEFT FLOOR;RIGHT+a;BOTTOM RIGHT CROP
aLEFT+a;TOP RIGHT+a;aLEFT+a;REVERSED NOT SIGN;SQUARE LOZENGE;ARC;SEGMENT;SECTOR
TELEPHONE RECORDER;POSITION INDICATOR;VIEWDATA SQUARE;PLACE OF INTEREST SIGN;TURNED NOT+a;WATCH
HOURGLASS;TOP LEFT CORNER;aRIGHT+a;BOTTOM LEFT+a;aRIGHT+a;TOP HALF INTEGRAL;BOTTOM+b;FROWN
SMILE;UP ARROWHEAD BETWEEN TWO HORIZONTAL BARS;OPTION KEY;ERASE TO THE RIGHT
X IN A RECTANGLE BOX;KEYBOARD;LEFT-POINTING ANGLE BRACKET;RIGHT-POINTING+b;ERASE TO THE LEFT
BENZENE RING;CYLINDRICITY;ALL AROUND-PROFILE;SYMMETRY;TOTAL RUNOUT;DIMENSION ORIGIN
CONICAL TAPER;SLOPE;COUNTERBORE;COUNTERSINK;APL FUNCTIONAL SYMBOL I-BEAM;cSQUISH QUAD
cQUAD EQUAL;dDIVIDE;dDIAMOND;dJOT;dCIRCLE;cCIRCLE STILE;dJOT;cSLASH BAR;cBACKSLASH+a
cQUAD SLASH;dBACKSLASH;dLESS-THAN;dGREATER-THAN;cLEFTWARDS VANE;cRIGHTWARDS+a
cQUAD LEFTWARDS ARROW;dRIGHTWARDS+a;cCIRCLE BACKSLASH;cDOWN TACK UNDERBAR;cDELTA STILE
cQUAD DOWN CARET;dDELTA;cDOWN TACK JOT;cUPWARDS VANE;cQUAD UPWARDS ARROW;cUP TACK OVERBAR
cDEL STILE;cQUAD UP CARET;dDEL;cUP TACK JOT;cDOWNWARDS VANE;cQUAD DOWNWARDS ARROW
cQUOTE UNDERBAR;cDELTA+a;cDIAMOND+a;cJOT+a;cCIRCLE+a;cUP SHOE JOT;cQUOTE QUAD;cCIRCLE STAR
cQUAD COLON;cUP TACK DIAERESIS;cDEL+a;cSTAR+a;cJOT+a;cCIRCLE+a;cDOWN SHOE STILE;cLEFT+b
cTILDE DIAERESIS;cGREATER-THAN+a;cCOMMA BAR;cDEL TILDE;cZILDE;cSTILE TILDE;cSEMICOLON UNDERBAR
cQUAD NOT EQUAL;dQUESTION;cDOWN CARET TILDE;cUP+b;cIOTA;cRHO;cOMEGA;cALPHA UNDERBAR;cEPSILON+a
cIOTA+a;cOMEGA+a;cALPHA;NOT CHECK MARK;RIGHT ANGLE WITH DOWNWARDS ZIGZAG ARROW
SHOULDERED OPEN BOX;BELL SYMBOL;VERTICAL LINE WITH MIDDLE DOT;INSERTION SYMBOL
CONTINUOUS UNDERLINE+a;DISCONTINUOUS+b;EMPHASIS+a;COMPOSITION+a
WHITE SQUARE WITH CENTRE VERTICAL LINE;ENTER SYMBOL;ALTERNATIVE KEY+a;HELM+a
CIRCLED HORIZONTAL BAR WITH NOTCH;aTRIANGLE DOWN;BROKEN CIRCLE WITH NORTHWEST ARROW;UNDO SYMBOL
MONOSTABLE+a;HYSTERESIS+a;OPEN-CIRCUIT-OUTPUT H-TYPE+a;aL-TYPE+a;PASSIVE-PULL-DOWN-OUTPUT+a
PASSIVE-PULL-UP-OUTPUT+a;DIRECT CURRENT SYMBOL FORM TWO;SOFTWARE-FUNCTION SYMBOL
APL FUNCTIONAL SYMBOL QUAD;DECIMAL SEPARATOR KEY SYMBOL;PREVIOUS PAGE;NEXT+a
PRINT SCREEN SYMBOL;CLEAR+b;LEFT PARENTHESIS UPPER HOOK;bEXTENSION;bLOWER HOOK
RIGHT PARENTHESIS UPPER+a;bEXTENSION;bLOWER HOOK;LEFT SQUARE BRACKET UPPER CORNER;cEXTENSION
cLOWER CORNER;RIGHT SQUARE BRACKET UPPER+a;cEXTENSION;cLOWER CORNER
LEFT CURLY BRACKET UPPER HOOK;cMIDDLE PIECE;cLOWER HOOK;CURLY BRACKET EXTENSION
RIGHT CURLY BRACKET UPPER HOOK;cMIDDLE PIECE;cLOWER HOOK;INTEGRAL EXTENSION;HORIZONTAL LINE+a
UPPER LEFT OR LOWER RIGHT CURLY BRACKET SECTION;aRIGHT OR LOWER LEFT+c;SUMMATION TOP;aBOTTOM
TOP SQUARE BRACKET;BOTTOM+b;cOVER TOP SQUARE BRACKET;RADICAL SYMBOL BOTTOM
LEFT VERTICAL BOX LINE;RIGHT+c;HORIZONTAL SCAN LINE-1;bLINE-3;bLINE-7;bLINE-9
DENTISTRY SYMBOL LIGHT VERTICAL AND TOP RIGHT;eBOTTOM+a;dWITH CIRCLE;cDOWN AND HORIZONTAL+b
cUP+d;cVERTICAL WITH TRIANGLE;cDOWN AND HORIZONTAL+b;cUP+d;cVERTICAL AND WAVE
cDOWN AND HORIZONTAL WITH+a;cUP+d;cDOWN AND HORIZONTAL;cUP+b;cVERTICAL AND TOP LEFT;eBOTTOM+a
SQUARE FOOT;RETURN SYMBOL;EJECT+a;VERTICAL LINE EXTENSION;METRICAL BREVE;aLONG OVER SHORT
aSHORT OVER LONG;aLONG OVER TWO SHORTS;aTWO SHORTS OVER LONG;cJOINED;aTRISEME;aTETRASEME
aPENTASEME;EARTH GROUND;FUSE;TOP PARENTHESIS;BOTTOM+a;TOP CURLY BRACKET;BOTTOM+b
TOP TORTOISE SHELL+a;BOTTOM+c;WHITE TRAPEZIUM;BENZENE RING WITH CIRCLE;STRAIGHTNESS;FLATNESS
AC CURRENT;ELECTRICAL INTERSECTION;DECIMAL EXPONENT SYMBOL;BLACK RIGHT-POINTING DOUBLE TRIANGLE
aLEFT-POINTING+b;aUP-POINTING+b;aDOWN-POINTING+b
aRIGHT-POINTING DOUBLE TRIANGLE WITH VERTICAL BAR;aLEFT-POINTING+e
aRIGHT-POINTING TRIANGLE WITH DOUBLE+b;ALARM CLOCK;STOPWATCH;TIMER CLOCK
HOURGLASS WITH FLOWING SAND;BLACK MEDIUM LEFT-POINTING TRIANGLE;bRIGHT-POINTING+a
bUP-POINTING+a;bDOWN-POINTING+a;DOUBLE VERTICAL BAR;BLACK SQUARE FOR STOP;aCIRCLE FOR RECORD
POWER SYMBOL;aON-OFF+a;aON+a;aSLEEP+a;OBSERVER EYE+a;SYMBOL FOR NULL;bSTART OF HEADING;dTEXT
bEND+b;dTRANSMISSION;bENQUIRY;bACKNOWLEDGE;bBELL;bBACKSPACE;bHORIZONTAL TABULATION;bLINE FEED
bVERTICAL TABULATION;bFORM FEED;bCARRIAGE RETURN;bSHIFT OUT;cIN;bDATA LINK ESCAPE
bDEVICE CONTROL ONE;dTWO;dTHREE;dFOUR;bNEGATIVE ACKNOWLEDGE;bSYNCHRONOUS IDLE
bEND OF TRANSMISSION BLOCK;bCANCEL;bEND OF MEDIUM;bSUBSTITUTE;bESCAPE;bFILE SEPARATOR;bGROUP+a
bRECORD+a;bUNIT+a;bSPACE;bDELETE;BLANK SYMBOL;OPEN BOX;SYMBOL FOR NEWLINE;bDELETE FORM TWO
bSUBSTITUTE+b"),
   (0x2440, "OCR HOOK;aCHAIR;aFORK;aINVERTED+a;aBELT BUCKLE;aBOW TIE;aBRANCH BANK IDENTIFICATION
aAMOUNT OF CHECK;aDASH;aCUSTOMER ACCOUNT NUMBER;aDOUBLE BACKSLASH"),
   (0x2460, "CIRCLED DIGIT ONE;bTWO;bTHREE;bFOUR;bFIVE;bSIX;bSEVEN;bEIGHT;bNINE;aNUMBER TEN
bELEVEN;bTWELVE;bTHIRTEEN;bFOURTEEN;bFIFTEEN;bSIXTEEN;bSEVENTEEN;bEIGHTEEN;bNINETEEN;bTWENTY
PARENTHESIZED DIGIT ONE;bTWO;bTHREE;bFOUR;bFIVE;bSIX;bSEVEN;bEIGHT;bNINE;aNUMBER TEN;bELEVEN
bTWELVE;bTHIRTEEN;bFOURTEEN;bFIFTEEN;bSIXTEEN;bSEVENTEEN;bEIGHTEEN;bNINETEEN;bTWENTY
DIGIT ONE FULL STOP;aTWO+b;aTHREE+b;aFOUR+b;aFIVE+b;aSIX+b;aSEVEN+b;aEIGHT+b;aNINE+b
NUMBER TEN+b;aELEVEN+b;aTWELVE+b;aTHIRTEEN+b;aFOURTEEN+b;aFIFTEEN+b;aSIXTEEN+b;aSEVENTEEN+b
aEIGHTEEN+b;aNINETEEN+b;aTWENTY+b;PARENTHESIZED LATIN SMALL LETTER A;dB;dC;dD;dE;dF;dG;dH;dI;dJ
dK;dL;dM;dN;dO;dP;dQ;dR;dS;dT;dU;dV;dW;dX;dY;dZ;CIRCLED LATIN CAPITAL LETTER A;dB;dC;dD;dE;dF
dG;dH;dI;dJ;dK;dL;dM;dN;dO;dP;dQ;dR;dS;dT;dU;dV;dW;dX;dY;dZ;bSMALL LETTER A;dB;dC;dD;dE;dF;dG
dH;dI;dJ;dK;dL;dM;dN;dO;dP;dQ;dR;dS;dT;dU;dV;dW;dX;dY;dZ;aDIGIT ZERO
NEGATIVE CIRCLED NUMBER ELEVEN;cTWELVE;cTHIRTEEN;cFOURTEEN;cFIFTEEN;cSIXTEEN;cSEVENTEEN
cEIGHTEEN;cNINETEEN;cTWENTY;DOUBLE CIRCLED DIGIT ONE;cTWO;cTHREE;cFOUR;cFIVE;cSIX;cSEVEN;cEIGHT
cNINE;bNUMBER TEN;NEGATIVE CIRCLED DIGIT ZERO;BOX DRAWINGS LIGHT HORIZONTAL;bHEAVY+a
bLIGHT VERTICAL;bHEAVY+a;bLIGHT TRIPLE DASH HORIZONTAL;bHEAVY+c;bLIGHT TRIPLE DASH VERTICAL
bHEAVY+c;bLIGHT QUADRUPLE DASH HORIZONTAL;bHEAVY+c;bLIGHT QUADRUPLE DASH VERTICAL;bHEAVY+c
bLIGHT DOWN AND RIGHT;bDOWN LIGHT AND RIGHT HEAVY;cHEAVY AND RIGHT LIGHT;bHEAVY DOWN AND RIGHT
bLIGHT DOWN AND LEFT;bDOWN LIGHT AND LEFT HEAVY;cHEAVY AND LEFT LIGHT;bHEAVY DOWN AND LEFT
bLIGHT UP AND RIGHT;bUP LIGHT AND RIGHT HEAVY;cHEAVY AND RIGHT LIGHT;bHEAVY UP AND RIGHT
bLIGHT UP AND LEFT;bUP LIGHT AND LEFT HEAVY;cHEAVY AND LEFT LIGHT;bHEAVY UP AND LEFT
bLIGHT VERTICAL AND RIGHT;bVERTICAL LIGHT AND RIGHT HEAVY;bUP HEAVY AND RIGHT DOWN LIGHT
bDOWN HEAVY AND RIGHT UP+a;bVERTICAL HEAVY AND RIGHT+a;bDOWN LIGHT AND RIGHT UP HEAVY
bUP LIGHT AND RIGHT DOWN+a;bHEAVY VERTICAL AND RIGHT;bLIGHT VERTICAL AND LEFT
bVERTICAL LIGHT AND LEFT HEAVY;bUP HEAVY AND LEFT DOWN LIGHT;bDOWN HEAVY AND LEFT UP+a
bVERTICAL HEAVY AND LEFT+a;bDOWN LIGHT AND LEFT UP HEAVY;bUP LIGHT AND LEFT DOWN+a
bHEAVY VERTICAL AND LEFT;bLIGHT DOWN AND HORIZONTAL;bLEFT HEAVY AND RIGHT DOWN LIGHT
bRIGHT HEAVY AND LEFT+b;bDOWN LIGHT AND HORIZONTAL HEAVY;cHEAVY AND HORIZONTAL LIGHT
bRIGHT LIGHT AND LEFT DOWN HEAVY;bLEFT LIGHT AND RIGHT+b;bHEAVY DOWN AND HORIZONTAL;bLIGHT UP+b
bLEFT HEAVY AND RIGHT UP LIGHT;bRIGHT HEAVY AND LEFT+b;bUP LIGHT AND HORIZONTAL HEAVY
cHEAVY AND HORIZONTAL LIGHT;bRIGHT LIGHT AND LEFT UP HEAVY;bLEFT LIGHT AND RIGHT+b
bHEAVY UP AND HORIZONTAL;bLIGHT VERTICAL+b;bLEFT HEAVY AND RIGHT VERTICAL LIGHT
bRIGHT HEAVY AND LEFT+b;bVERTICAL LIGHT AND HORIZONTAL HEAVY
bUP HEAVY AND DOWN HORIZONTAL LIGHT;bDOWN HEAVY AND UP+b;bVERTICAL HEAVY AND+b
bLEFT UP HEAVY AND RIGHT DOWN+a;bRIGHT UP HEAVY AND LEFT+b;bLEFT DOWN HEAVY AND RIGHT UP+a
bRIGHT DOWN HEAVY AND LEFT+b;bDOWN LIGHT AND UP HORIZONTAL HEAVY;bUP LIGHT AND DOWN+b
bRIGHT LIGHT AND LEFT VERTICAL+a;bLEFT LIGHT AND RIGHT+b;bHEAVY VERTICAL AND HORIZONTAL
bLIGHT DOUBLE DASH+a;bHEAVY+c;bLIGHT DOUBLE DASH VERTICAL;bHEAVY+c;bDOUBLE HORIZONTAL;cVERTICAL
bDOWN SINGLE AND RIGHT DOUBLE;cDOUBLE AND RIGHT SINGLE;bDOUBLE DOWN AND RIGHT
bDOWN SINGLE AND LEFT DOUBLE;cDOUBLE AND LEFT SINGLE;bDOUBLE DOWN AND LEFT
bUP SINGLE AND RIGHT DOUBLE;cDOUBLE AND RIGHT SINGLE;bDOUBLE UP AND RIGHT
bUP SINGLE AND LEFT DOUBLE;cDOUBLE AND LEFT SINGLE;bDOUBLE UP AND LEFT
bVERTICAL SINGLE AND RIGHT DOUBLE;cDOUBLE AND RIGHT SINGLE;bDOUBLE VERTICAL AND RIGHT
bVERTICAL SINGLE AND LEFT DOUBLE;cDOUBLE AND LEFT SINGLE;bDOUBLE VERTICAL AND LEFT
bDOWN SINGLE AND HORIZONTAL DOUBLE;cDOUBLE AND HORIZONTAL SINGLE;bDOUBLE DOWN AND HORIZONTAL
bUP SINGLE AND HORIZONTAL DOUBLE;cDOUBLE AND HORIZONTAL SINGLE;bDOUBLE UP AND HORIZONTAL
bVERTICAL SINGLE AND HORIZONTAL DOUBLE;cDOUBLE AND HORIZONTAL SINGLE
bDOUBLE VERTICAL AND HORIZONTAL;bLIGHT ARC DOWN AND RIGHT;fLEFT;dUP+b;fRIGHT
cDIAGONAL UPPER RIGHT TO LOWER LEFT;eLEFT TO LOWER RIGHT;dCROSS;cLEFT;cUP;cRIGHT;cDOWN
bHEAVY LEFT;cUP;cRIGHT;cDOWN;bLIGHT LEFT AND HEAVY RIGHT;cUP AND HEAVY DOWN
bHEAVY LEFT AND LIGHT RIGHT;cUP AND LIGHT DOWN;UPPER HALF BLOCK;LOWER ONE EIGHTH+a;bQUARTER+a
aTHREE EIGHTHS+a;aHALF+a;aFIVE EIGHTHS+a;aTHREE QUARTERS+a;aSEVEN EIGHTHS+a;FULL+a
LEFT SEVEN EIGHTHS+a;aTHREE QUARTERS+a;aFIVE EIGHTHS+a;aHALF+a;aTHREE EIGHTHS+a;aONE QUARTER+a
bEIGHTH+a;RIGHT HALF+a;LIGHT SHADE;MEDIUM+a;DARK+a;UPPER ONE EIGHTH BLOCK;RIGHT+c
QUADRANT LOWER LEFT;bRIGHT;aUPPER LEFT;cAND LOWER LEFT AND LOWER RIGHT;b+d
dUPPER RIGHT AND LOWER LEFT;hRIGHT;b+a;cAND LOWER LEFT;fAND LOWER RIGHT;BLACK SQUARE;WHITE+a
bWITH ROUNDED CORNERS;bCONTAINING BLACK SMALL SQUARE;SQUARE WITH HORIZONTAL FILL;bVERTICAL+a
bORTHOGONAL CROSSHATCH+a;bUPPER LEFT TO LOWER RIGHT+a;cRIGHT TO LOWER LEFT+a
bDIAGONAL CROSSHATCH+a;BLACK SMALL SQUARE;WHITE+b;BLACK RECTANGLE;WHITE+a;BLACK VERTICAL+a
WHITE+b;BLACK PARALLELOGRAM;WHITE+a;BLACK UP-POINTING TRIANGLE;WHITE+b
BLACK UP-POINTING SMALL+a;WHITE+c;BLACK RIGHT-POINTING+a;WHITE+b;BLACK RIGHT-POINTING SMALL+a
WHITE+c;BLACK RIGHT-POINTING POINTER;WHITE+b;BLACK DOWN-POINTING TRIANGLE;WHITE+b
BLACK DOWN-POINTING SMALL+a;WHITE+c;BLACK LEFT-POINTING+a;WHITE+b;BLACK LEFT-POINTING SMALL+a
WHITE+c;BLACK LEFT-POINTING POINTER;WHITE+b;BLACK DIAMOND;WHITE+a
bCONTAINING BLACK SMALL DIAMOND;FISHEYE;LOZENGE;WHITE CIRCLE;DOTTED+a;CIRCLE WITH VERTICAL FILL
BULLSEYE;BLACK CIRCLE;CIRCLE WITH LEFT HALF BLACK;bRIGHT+b;bLOWER+b;bUPPER+b;cRIGHT QUADRANT+a
bALL BUT UPPER LEFT+b;LEFT HALF BLACK CIRCLE;RIGHT+c;INVERSE BULLET;aWHITE CIRCLE;UPPER HALF+c
LOWER+d;UPPER LEFT QUADRANT CIRCULAR ARC;aRIGHT+c;LOWER+d;aLEFT+c;UPPER HALF CIRCLE;LOWER+b
BLACK LOWER RIGHT TRIANGLE;bLEFT+a;aUPPER+b;bRIGHT+a;WHITE BULLET;SQUARE WITH LEFT HALF BLACK
bRIGHT+b;bUPPER LEFT DIAGONAL+b;bLOWER RIGHT+c;WHITE SQUARE WITH VERTICAL BISECTING LINE
aUP-POINTING TRIANGLE WITH DOT;UP-POINTING TRIANGLE WITH LEFT HALF BLACK;cRIGHT+b;LARGE CIRCLE
WHITE SQUARE WITH UPPER LEFT QUADRANT;cLOWER+b;dRIGHT+a;cUPPER+b;aCIRCLE WITH UPPER LEFT+a
cLOWER+b;dRIGHT+a;cUPPER+b;UPPER LEFT TRIANGLE;aRIGHT+a;LOWER LEFT+a;WHITE MEDIUM SQUARE
BLACK+b;WHITE MEDIUM SMALL+a;BLACK+c;LOWER RIGHT TRIANGLE;BLACK SUN WITH RAYS;CLOUD;UMBRELLA
SNOWMAN;COMET;BLACK STAR;WHITE+a;LIGHTNING;THUNDERSTORM;SUN;ASCENDING NODE;DESCENDING+a
CONJUNCTION;OPPOSITION;BLACK TELEPHONE;WHITE+a;BALLOT BOX;bWITH CHECK;cX;SALTIRE
UMBRELLA WITH RAIN DROPS;HOT BEVERAGE;WHITE SHOGI PIECE;BLACK+b;SHAMROCK
REVERSED ROTATED FLORAL HEART BULLET;BLACK LEFT POINTING INDEX;aRIGHT+b;WHITE LEFT+b;aUP+b
aRIGHT+b;aDOWN+b;SKULL AND CROSSBONES;CAUTION SIGN;RADIOACTIVE+a;BIOHAZARD+a;CADUCEUS;ANKH
ORTHODOX CROSS;CHI RHO;CROSS OF LORRAINE;bJERUSALEM;STAR AND CRESCENT;FARSI SYMBOL;ADI SHAKTI
HAMMER AND SICKLE;PEACE SYMBOL;YIN YANG;TRIGRAM FOR HEAVEN;bLAKE;bFIRE;bTHUNDER;bWIND;bWATER
bMOUNTAIN;bEARTH;WHEEL OF DHARMA;WHITE FROWNING FACE;aSMILING+a;BLACK+b;WHITE SUN WITH RAYS
FIRST QUARTER MOON;LAST+b;MERCURY;FEMALE SIGN;EARTH;MALE SIGN;JUPITER;SATURN;URANUS;NEPTUNE
PLUTO;ARIES;TAURUS;GEMINI;CANCER;LEO;VIRGO;LIBRA;SCORPIUS;SAGITTARIUS;CAPRICORN;AQUARIUS;PISCES
WHITE CHESS KING;bQUEEN;bROOK;bBISHOP;bKNIGHT;bPAWN;BLACK CHESS KING;bQUEEN;bROOK;bBISHOP
bKNIGHT;bPAWN;aSPADE SUIT;WHITE HEART+a;aDIAMOND+a;BLACK CLUB+a;WHITE SPADE+a;BLACK HEART+a
aDIAMOND+a;WHITE CLUB+a;HOT SPRINGS;QUARTER NOTE;EIGHTH+a;BEAMED EIGHTH NOTES;aSIXTEENTH+a
MUSIC FLAT SIGN;aNATURAL+a;aSHARP+a;WEST SYRIAC CROSS;EAST+b;UNIVERSAL RECYCLING SYMBOL
RECYCLING SYMBOL FOR TYPE-1 PLASTICS;cTYPE-2+a;cTYPE-3+a;cTYPE-4+a;cTYPE-5+a;cTYPE-6+a
cTYPE-7+a;cGENERIC MATERIALS;BLACK UNIVERSAL RECYCLING SYMBOL;RECYCLED PAPER+a
PARTIALLY-RECYCLED+b;PERMANENT PAPER SIGN;WHEELCHAIR SYMBOL;DIE FACE-1;aFACE-2;aFACE-3;aFACE-4
aFACE-5;aFACE-6;WHITE CIRCLE WITH DOT RIGHT;cTWO DOTS;BLACK CIRCLE WITH WHITE DOT RIGHT
cTWO WHITE DOTS;MONOGRAM FOR YANG;bYIN;DIGRAM FOR GREATER YANG;bLESSER YIN;cYANG;bGREATER YIN
WHITE FLAG;BLACK+a;HAMMER AND PICK;ANCHOR;CROSSED SWORDS;STAFF OF AESCULAPIUS;SCALES;ALEMBIC
FLOWER;GEAR;STAFF OF HERMES;ATOM SYMBOL;FLEUR-DE-LIS;OUTLINED WHITE STAR
THREE LINES CONVERGING RIGHT;cLEFT;WARNING SIGN;HIGH VOLTAGE+a;DOUBLED FEMALE+a;aMALE+a
INTERLOCKED FEMALE AND+b;MALE AND FEMALE+a;aWITH STROKE+a;cAND MALE AND FEMALE+a
VERTICAL MALE WITH STROKE+a;HORIZONTAL+d;MEDIUM WHITE CIRCLE;aBLACK+a;aSMALL WHITE+a
MARRIAGE SYMBOL;DIVORCE+a;UNMARRIED PARTNERSHIP+a;COFFIN;FUNERAL URN;NEUTER;CERES;PALLAS;JUNO
VESTA;CHIRON;BLACK MOON LILITH;SEXTILE;SEMISEXTILE;QUINCUNX;SESQUIQUADRATE;SOCCER BALL;BASEBALL
SQUARED KEY;WHITE DRAUGHTS MAN;bKING;BLACK DRAUGHTS MAN;bKING;SNOWMAN WITHOUT SNOW
SUN BEHIND CLOUD;RAIN;BLACK SNOWMAN;THUNDER CLOUD AND RAIN;TURNED WHITE SHOGI PIECE;aBLACK+b
WHITE DIAMOND IN SQUARE;CROSSING LANES;DISABLED CAR;OPHIUCHUS;PICK;CAR SLIDING
HELMET WITH WHITE CROSS;CIRCLED CROSSING LANES;CHAINS;NO ENTRY
ALTERNATE ONE-WAY LEFT WAY TRAFFIC;BLACK TWO-WAY+c;WHITE+d;BLACK LEFT LANE MERGE;WHITE+c
DRIVE SLOW SIGN;HEAVY WHITE DOWN-POINTING TRIANGLE;LEFT CLOSED ENTRY;SQUARED SALTIRE
FALLING DIAGONAL IN WHITE CIRCLE IN BLACK SQUARE;BLACK TRUCK;RESTRICTED LEFT ENTRY-1;bENTRY-2
ASTRONOMICAL SYMBOL FOR URANUS;HEAVY CIRCLE WITH STROKE AND TWO DOTS ABOVE;PENTAGRAM
RIGHT-HANDED INTERLACED+a;LEFT-HANDED+b;INVERTED+a;BLACK CROSS ON SHIELD;SHINTO SHRINE;CHURCH
CASTLE;HISTORIC SITE;GEAR WITHOUT HUB;aWITH HANDLES;MAP SYMBOL FOR LIGHTHOUSE;MOUNTAIN
UMBRELLA ON GROUND;FOUNTAIN;FLAG IN HOLE;FERRY;SAILBOAT;SQUARE FOUR CORNERS;SKIER;ICE SKATE
PERSON WITH BALL;TENT;JAPANESE BANK SYMBOL;HEADSTONE GRAVEYARD+a;FUEL PUMP;CUP ON BLACK SQUARE
WHITE FLAG WITH HORIZONTAL MIDDLE BLACK STRIPE;BLACK SAFETY SCISSORS;UPPER BLADE+a;BLACK+a
LOWER BLADE+a;WHITE+a;aHEAVY CHECK MARK;TELEPHONE LOCATION SIGN;TAPE DRIVE;AIRPLANE;ENVELOPE
RAISED FIST;aHAND;VICTORY+a;WRITING+a;LOWER RIGHT PENCIL;+a;UPPER RIGHT+a;WHITE NIB;BLACK+a
CHECK MARK;HEAVY+b;MULTIPLICATION X;HEAVY+b;BALLOT X;HEAVY+b;OUTLINED GREEK CROSS;HEAVY+b
OPEN CENTRE+a;HEAVY+c;LATIN+a;SHADOWED WHITE+b;OUTLINED+b;MALTESE+a;STAR OF DAVID
FOUR TEARDROP-SPOKED ASTERISK;aBALLOON-SPOKED+a;HEAVY+c;FOUR CLUB-SPOKED+a
BLACK FOUR POINTED STAR;WHITE+c;SPARKLES;STRESS OUTLINED WHITE STAR;CIRCLED+b
OPEN CENTRE BLACK+a;BLACK CENTRE WHITE+a;OUTLINED BLACK+a;HEAVY+c;PINWHEEL+a;SHADOWED WHITE+a
HEAVY ASTERISK;OPEN CENTRE+a;EIGHT SPOKED+a;aPOINTED BLACK STAR;bPINWHEEL+a;SIX POINTED BLACK+a
EIGHT POINTED RECTILINEAR+b;HEAVY+e;TWELVE POINTED+b;SIXTEEN POINTED ASTERISK;TEARDROP-SPOKED+a
OPEN CENTRE+b;HEAVY+b;SIX PETALLED BLACK AND WHITE FLORETTE;BLACK+a;WHITE+a
EIGHT PETALLED OUTLINED BLACK+a;CIRCLED OPEN CENTRE EIGHT POINTED STAR
HEAVY TEARDROP-SPOKED PINWHEEL ASTERISK;SNOWFLAKE;TIGHT TRIFOLIATE+a;HEAVY CHEVRON+a;SPARKLE
HEAVY+a;BALLOON-SPOKED ASTERISK;EIGHT TEARDROP-SPOKED PROPELLER+a;HEAVY+d;CROSS MARK
SHADOWED WHITE CIRCLE;NEGATIVE SQUARED CROSS MARK;LOWER RIGHT DROP-SHADOWED WHITE SQUARE
UPPER+d;LOWER RIGHT SHADOWED+b;UPPER+d;BLACK QUESTION MARK ORNAMENT;WHITE+c;aEXCLAMATION+b
BLACK DIAMOND MINUS WHITE X;HEAVY EXCLAMATION MARK SYMBOL;LIGHT VERTICAL BAR;MEDIUM+b;HEAVY+b
aSINGLE TURNED COMMA QUOTATION MARK ORNAMENT;b+d;aDOUBLE TURNED+d;b+d;aLOW SINGLE+d;bDOUBLE+d
CURVED STEM PARAGRAPH SIGN+a;HEAVY EXCLAMATION MARK+a;aHEART+c;aBLACK HEART
ROTATED HEAVY BLACK HEART BULLET;FLORAL HEART;ROTATED FLORAL HEART BULLET
MEDIUM LEFT PARENTHESIS ORNAMENT;aRIGHT+b;aFLATTENED LEFT+b;bRIGHT+b
aLEFT-POINTING ANGLE BRACKET+a;aRIGHT-POINTING+c;HEAVY LEFT-POINTING ANGLE QUOTATION MARK+a
aRIGHT-POINTING+d;aLEFT-POINTING ANGLE BRACKET+a;aRIGHT-POINTING+c;LIGHT LEFT TORTOISE SHELL+b
aRIGHT+d;MEDIUM LEFT CURLY+b;aRIGHT+c;DINGBAT NEGATIVE CIRCLED DIGIT ONE;dTWO;dTHREE;dFOUR
dFIVE;dSIX;dSEVEN;dEIGHT;dNINE;cNUMBER TEN;aCIRCLED SANS-SERIF DIGIT ONE;dTWO;dTHREE;dFOUR
dFIVE;dSIX;dSEVEN;dEIGHT;dNINE;cNUMBER TEN;aNEGATIVE CIRCLED SANS-SERIF DIGIT ONE;eTWO;eTHREE
eFOUR;eFIVE;eSIX;eSEVEN;eEIGHT;eNINE;dNUMBER TEN;HEAVY WIDE-HEADED RIGHTWARDS ARROW;aPLUS SIGN
aMINUS+a;aDIVISION+a;aSOUTH EAST ARROW;aRIGHTWARDS+a;aNORTH EAST+a;DRAFTING POINT RIGHTWARDS+a
HEAVY ROUND-TIPPED+b;TRIANGLE-HEADED+b;HEAVY+c;DASHED+c;HEAVY+d;BLACK+b
THREE-D TOP-LIGHTED RIGHTWARDS ARROWHEAD;aBOTTOM-LIGHTED+b;BLACK+b
HEAVY BLACK CURVED DOWNWARDS AND RIGHTWARDS ARROW;cUPWARDS+c;SQUAT BLACK+b
HEAVY CONCAVE-POINTED+c;RIGHT-SHADED WHITE+b;LEFT-SHADED+c;BACK-TILTED SHADOWED+c
FRONT-TILTED+d;HEAVY LOWER RIGHT-SHADOWED+c;aUPPER+d;NOTCHED LOWER+d;CURLY LOOP
NOTCHED UPPER RIGHT-SHADOWED WHITE RIGHTWARDS ARROW;CIRCLED HEAVY+c;WHITE-FEATHERED+b
BLACK-FEATHERED SOUTH EAST+a;aRIGHTWARDS+a;aNORTH EAST+a;HEAVY BLACK-FEATHERED SOUTH+b
bRIGHTWARDS+a;bNORTH EAST+a;TEARDROP-BARBED RIGHTWARDS+a;HEAVY TEARDROP-SHANKED+b
WEDGE-TAILED+b;HEAVY+c;OPEN-OUTLINED+b;DOUBLE CURLY LOOP;THREE DIMENSIONAL ANGLE
WHITE TRIANGLE CONTAINING SMALL WHITE TRIANGLE;PERPENDICULAR;OPEN SUBSET;aSUPERSET
LEFT S-SHAPED BAG DELIMITER;RIGHT+c;OR WITH DOT INSIDE;REVERSE SOLIDUS PRECEDING SUBSET
SUPERSET PRECEDING SOLIDUS;VERTICAL BAR WITH HORIZONTAL STROKE;MATHEMATICAL RISING DIAGONAL
LONG DIVISION;MATHEMATICAL FALLING DIAGONAL;SQUARED LOGICAL AND;bOR
WHITE DIAMOND WITH CENTRED DOT;AND WITH+a;ELEMENT OF OPENING UPWARDS
LOWER RIGHT CORNER WITH DOT;UPPER LEFT+c;LEFT OUTER JOIN;RIGHT+b;FULL+b;LARGE UP TACK;aDOWN+a
LEFT AND RIGHT DOUBLE TURNSTILE;cTACK;aMULTIMAP;LONG RIGHT TACK;aLEFT+a
UP TACK WITH CIRCLE ABOVE;LOZENGE DIVIDED BY HORIZONTAL RULE;WHITE CONCAVE-SIDED DIAMOND
cWITH LEFTWARDS TICK;dRIGHTWARDS+a;aSQUARE WITH LEFTWARDS+a;cRIGHTWARDS+a
MATHEMATICAL LEFT WHITE SQUARE BRACKET;aRIGHT+c;aLEFT ANGLE+a;aRIGHT+b;aLEFT DOUBLE+b;aRIGHT+c
aLEFT WHITE TORTOISE SHELL+a;aRIGHT+d;aLEFT FLATTENED PARENTHESIS;aRIGHT+b
UPWARDS QUADRUPLE ARROW;DOWNWARDS+b;ANTICLOCKWISE GAPPED CIRCLE+a;CLOCKWISE+c
RIGHT ARROW WITH CIRCLED PLUS;LONG LEFTWARDS ARROW;aRIGHTWARDS+a;aLEFT RIGHT+a
aLEFTWARDS DOUBLE+a;aRIGHTWARDS+b;aLEFT RIGHT+b;aLEFTWARDS ARROW FROM BAR;aRIGHTWARDS+c
aLEFTWARDS DOUBLE+c;aRIGHTWARDS+d;bSQUIGGLE ARROW;BRAILLE PATTERN BLANK;bDOTS-1;bDOTS-2
bDOTS-12;bDOTS-3;bDOTS-13;bDOTS-23;bDOTS-123;bDOTS-4;bDOTS-14;bDOTS-24;bDOTS-124;bDOTS-34
bDOTS-134;bDOTS-234;bDOTS-1234;bDOTS-5;bDOTS-15;bDOTS-25;bDOTS-125;bDOTS-35;bDOTS-135;bDOTS-235
bDOTS-1235;bDOTS-45;bDOTS-145;bDOTS-245;bDOTS-1245;bDOTS-345;bDOTS-1345;bDOTS-2345;bDOTS-12345
bDOTS-6;bDOTS-16;bDOTS-26;bDOTS-126;bDOTS-36;bDOTS-136;bDOTS-236;bDOTS-1236;bDOTS-46;bDOTS-146
bDOTS-246;bDOTS-1246;bDOTS-346;bDOTS-1346;bDOTS-2346;bDOTS-12346;bDOTS-56;bDOTS-156;bDOTS-256
bDOTS-1256;bDOTS-356;bDOTS-1356;bDOTS-2356;bDOTS-12356;bDOTS-456;bDOTS-1456;bDOTS-2456
bDOTS-12456;bDOTS-3456;bDOTS-13456;bDOTS-23456;bDOTS-123456;bDOTS-7;bDOTS-17;bDOTS-27;bDOTS-127
bDOTS-37;bDOTS-137;bDOTS-237;bDOTS-1237;bDOTS-47;bDOTS-147;bDOTS-247;bDOTS-1247;bDOTS-347
bDOTS-1347;bDOTS-2347;bDOTS-12347;bDOTS-57;bDOTS-157;bDOTS-257;bDOTS-1257;bDOTS-357;bDOTS-1357
bDOTS-2357;bDOTS-12357;bDOTS-457;bDOTS-1457;bDOTS-2457;bDOTS-12457;bDOTS-3457;bDOTS-13457
bDOTS-23457;bDOTS-123457;bDOTS-67;bDOTS-167;bDOTS-267;bDOTS-1267;bDOTS-367;bDOTS-1367
bDOTS-2367;bDOTS-12367;bDOTS-467;bDOTS-1467;bDOTS-2467;bDOTS-12467;bDOTS-3467;bDOTS-13467
bDOTS-23467;bDOTS-123467;bDOTS-567;bDOTS-1567;bDOTS-2567;bDOTS-12567;bDOTS-3567;bDOTS-13567
bDOTS-23567;bDOTS-123567;bDOTS-4567;bDOTS-14567;bDOTS-24567;bDOTS-124567;bDOTS-34567
bDOTS-134567;bDOTS-234567;bDOTS-1234567;bDOTS-8;bDOTS-18;bDOTS-28;bDOTS-128;bDOTS-38;bDOTS-138
bDOTS-238;bDOTS-1238;bDOTS-48;bDOTS-148;bDOTS-248;bDOTS-1248;bDOTS-348;bDOTS-1348;bDOTS-2348
bDOTS-12348;bDOTS-58;bDOTS-158;bDOTS-258;bDOTS-1258;bDOTS-358;bDOTS-1358;bDOTS-2358;bDOTS-12358
bDOTS-458;bDOTS-1458;bDOTS-2458;bDOTS-12458;bDOTS-3458;bDOTS-13458;bDOTS-23458;bDOTS-123458
bDOTS-68;bDOTS-168;bDOTS-268;bDOTS-1268;bDOTS-368;bDOTS-1368;bDOTS-2368;bDOTS-12368;bDOTS-468
bDOTS-1468;bDOTS-2468;bDOTS-12468;bDOTS-3468;bDOTS-13468;bDOTS-23468;bDOTS-123468;bDOTS-568
bDOTS-1568;bDOTS-2568;bDOTS-12568;bDOTS-3568;bDOTS-13568;bDOTS-23568;bDOTS-123568;bDOTS-4568
bDOTS-14568;bDOTS-24568;bDOTS-124568;bDOTS-34568;bDOTS-134568;bDOTS-234568;bDOTS-1234568
bDOTS-78;bDOTS-178;bDOTS-278;bDOTS-1278;bDOTS-378;bDOTS-1378;bDOTS-2378;bDOTS-12378;bDOTS-478
bDOTS-1478;bDOTS-2478;bDOTS-12478;bDOTS-3478;bDOTS-13478;bDOTS-23478;bDOTS-123478;bDOTS-578
bDOTS-1578;bDOTS-2578;bDOTS-12578;bDOTS-3578;bDOTS-13578;bDOTS-23578;bDOTS-123578;bDOTS-4578
bDOTS-14578;bDOTS-24578;bDOTS-124578;bDOTS-34578;bDOTS-134578;bDOTS-234578;bDOTS-1234578
bDOTS-678;bDOTS-1678;bDOTS-2678;bDOTS-12678;bDOTS-3678;bDOTS-13678;bDOTS-23678;bDOTS-123678
bDOTS-4678;bDOTS-14678;bDOTS-24678;bDOTS-124678;bDOTS-34678;bDOTS-134678;bDOTS-234678
bDOTS-1234678;bDOTS-5678;bDOTS-15678;bDOTS-25678;bDOTS-125678;bDOTS-35678;bDOTS-135678
bDOTS-235678;bDOTS-1235678;bDOTS-45678;bDOTS-145678;bDOTS-245678;bDOTS-1245678;bDOTS-345678
bDOTS-1345678;bDOTS-2345678;bDOTS-12345678;RIGHTWARDS TWO-HEADED ARROW WITH VERTICAL STROKE
dDOUBLE+b;LEFTWARDS DOUBLE ARROW WITH+b;RIGHTWARDS+e;LEFT RIGHT+e
RIGHTWARDS TWO-HEADED ARROW FROM BAR;LEFTWARDS DOUBLE+c;RIGHTWARDS+d
DOWNWARDS ARROW WITH HORIZONTAL STROKE;UPWARDS+d;aTRIPLE ARROW;DOWNWARDS+b
LEFTWARDS DOUBLE DASH+a;RIGHTWARDS+c;LEFTWARDS TRIPLE+b;RIGHTWARDS+c;aTWO-HEADED+c
aARROW WITH DOTTED STEM;UPWARDS ARROW TO BAR;DOWNWARDS+c
RIGHTWARDS ARROW WITH TAIL WITH VERTICAL STROKE;eDOUBLE+b;aTWO-HEADED ARROW WITH TAIL
eWITH VERTICAL STROKE;fDOUBLE+b;LEFTWARDS ARROW-TAIL;RIGHTWARDS+a;LEFTWARDS DOUBLE+a
RIGHTWARDS+b;LEFTWARDS ARROW TO BLACK DIAMOND;RIGHTWARDS+d;LEFTWARDS ARROW FROM BAR+c
RIGHTWARDS+f;NORTH WEST AND SOUTH EAST ARROW;aEAST AND SOUTH WEST+a;aWEST ARROW WITH HOOK
aEAST+c;SOUTH+d;aWEST+c;NORTH WEST ARROW AND NORTH EAST ARROW;aEAST ARROW AND SOUTH+b
SOUTH EAST ARROW AND SOUTH WEST+a;aWEST ARROW AND NORTH+b
RISING DIAGONAL CROSSING FALLING DIAGONAL;FALLING DIAGONAL CROSSING RISING+a
SOUTH EAST ARROW CROSSING NORTH EAST ARROW;NORTH EAST ARROW CROSSING SOUTH+b
FALLING DIAGONAL CROSSING NORTH+b;RISING DIAGONAL CROSSING SOUTH+b
NORTH EAST ARROW CROSSING NORTH WEST+a;aWEST ARROW CROSSING NORTH EAST+a
WAVE ARROW POINTING DIRECTLY RIGHT;ARROW POINTING RIGHTWARDS THEN CURVING UPWARDS;eDOWNWARDS
bDOWNWARDS THEN CURVING LEFTWARDS;eRIGHTWARDS;RIGHT-SIDE ARC CLOCKWISE ARROW
LEFT-SIDE ARC ANTICLOCKWISE+a;TOP+c;BOTTOM+c;TOP ARC CLOCKWISE ARROW WITH MINUS
bANTICLOCKWISE ARROW WITH PLUS;LOWER RIGHT SEMICIRCULAR CLOCKWISE ARROW
aLEFT SEMICIRCULAR ANTICLOCKWISE+a;ANTICLOCKWISE CLOSED CIRCLE+a;CLOCKWISE+c
RIGHTWARDS ARROW ABOVE SHORT LEFTWARDS+a;LEFTWARDS ARROW ABOVE SHORT RIGHTWARDS+a
SHORT RIGHTWARDS ARROW ABOVE LEFTWARDS+a;RIGHTWARDS ARROW WITH PLUS BELOW;LEFTWARDS+d
RIGHTWARDS ARROW THROUGH X;LEFT RIGHT ARROW THROUGH SMALL CIRCLE
UPWARDS TWO-HEADED ARROW FROM+b;LEFT BARB UP RIGHT BARB DOWN HARPOON;bDOWN RIGHT BARB UP+a
UP BARB RIGHT DOWN BARB LEFT+a;bLEFT DOWN BARB RIGHT+a;LEFT BARB UP RIGHT BARB UP+a
UP BARB RIGHT DOWN BARB RIGHT+a;LEFT BARB DOWN RIGHT BARB DOWN+a;UP BARB LEFT DOWN BARB LEFT+a
LEFTWARDS HARPOON WITH BARB UP TO BAR;RIGHTWARDS+f;UPWARDS HARPOON WITH BARB RIGHT+b
DOWNWARDS+f;LEFTWARDS HARPOON WITH BARB DOWN+b;RIGHTWARDS+f;UPWARDS HARPOON WITH BARB LEFT+b
DOWNWARDS+f;LEFTWARDS HARPOON WITH BARB UP FROM+a;RIGHTWARDS+f
UPWARDS HARPOON WITH BARB RIGHT+b;DOWNWARDS+f;LEFTWARDS HARPOON WITH BARB DOWN+b;RIGHTWARDS+f
UPWARDS HARPOON WITH BARB LEFT+b;DOWNWARDS+f
LEFTWARDS HARPOON WITH BARB UP ABOVE LEFTWARDS HARPOON WITH BARB DOWN
UPWARDS HARPOON WITH BARB LEFT BESIDE UPWARDS HARPOON WITH BARB RIGHT
RIGHTWARDS HARPOON WITH BARB UP ABOVE RIGHTWARDS HARPOON WITH BARB DOWN
DOWNWARDS HARPOON WITH BARB LEFT BESIDE DOWNWARDS HARPOON WITH BARB RIGHT
LEFTWARDS HARPOON WITH BARB UP ABOVE RIGHTWARDS HARPOON WITH BARB UP
dDOWN ABOVE RIGHTWARDS HARPOON WITH BARB DOWN
RIGHTWARDS HARPOON WITH BARB UP ABOVE LEFTWARDS HARPOON WITH BARB UP
dDOWN ABOVE LEFTWARDS HARPOON WITH BARB DOWN;LEFTWARDS HARPOON WITH BARB UP ABOVE LONG DASH
dDOWN BELOW+b;RIGHTWARDS HARPOON WITH BARB UP ABOVE+b;dDOWN BELOW+b
UPWARDS HARPOON WITH BARB LEFT BESIDE DOWNWARDS HARPOON WITH BARB RIGHT
DOWNWARDS HARPOON WITH BARB LEFT BESIDE UPWARDS+d;RIGHT DOUBLE ARROW WITH ROUNDED HEAD
EQUALS SIGN ABOVE RIGHTWARDS ARROW;TILDE OPERATOR+c;LEFTWARDS ARROW ABOVE TILDE OPERATOR
RIGHTWARDS+d;cALMOST EQUAL TO;LESS-THAN ABOVE LEFTWARDS ARROW;LEFTWARDS ARROW THROUGH LESS-THAN
GREATER-THAN ABOVE RIGHTWARDS ARROW;SUBSET+c;LEFTWARDS ARROW THROUGH SUBSET
SUPERSET ABOVE LEFTWARDS ARROW;LEFT FISH TAIL;RIGHT+b;UP+b;DOWN+b;TRIPLE VERTICAL BAR DELIMITER
Z NOTATION SPOT;bTYPE COLON;LEFT WHITE CURLY BRACKET;RIGHT+c;LEFT WHITE PARENTHESIS;RIGHT+b
Z NOTATION LEFT IMAGE BRACKET;bRIGHT+b;bLEFT BINDING+a;bRIGHT+b
LEFT SQUARE BRACKET WITH UNDERBAR;RIGHT+d;LEFT SQUARE BRACKET WITH TICK IN TOP CORNER
RIGHT SQUARE BRACKET WITH TICK IN BOTTOM+a;LEFT+g;RIGHT SQUARE BRACKET WITH TICK IN TOP+a
LEFT ANGLE BRACKET WITH DOT;RIGHT+d;LEFT ARC LESS-THAN BRACKET;RIGHT ARC GREATER-THAN+a
DOUBLE LEFT+c;aRIGHT ARC LESS-THAN+a;LEFT BLACK TORTOISE SHELL+a;RIGHT+d;DOTTED FENCE
VERTICAL ZIGZAG LINE;MEASURED ANGLE OPENING LEFT;RIGHT ANGLE VARIANT WITH SQUARE
MEASURED RIGHT ANGLE WITH DOT;ANGLE WITH S INSIDE;ACUTE ANGLE;SPHERICAL ANGLE OPENING LEFT;cUP
TURNED ANGLE;REVERSED+a;ANGLE WITH UNDERBAR;REVERSED+c;OBLIQUE ANGLE OPENING UP;cDOWN
MEASURED ANGLE WITH OPEN ARM ENDING IN ARROW POINTING UP AND RIGHT;kLEFT;iDOWN AND RIGHT;kLEFT
iRIGHT AND UP;iLEFT+b;iRIGHT AND DOWN;iLEFT+b;REVERSED EMPTY SET;EMPTY SET WITH OVERBAR
cSMALL CIRCLE ABOVE;cRIGHT ARROW+a;cLEFT+b;CIRCLE WITH HORIZONTAL BAR;CIRCLED VERTICAL+a
aPARALLEL;aREVERSE SOLIDUS;aPERPENDICULAR
CIRCLE DIVIDED BY HORIZONTAL BAR AND TOP HALF DIVIDED BY VERTICAL BAR;aWITH SUPERIMPOSED X
CIRCLED ANTICLOCKWISE-ROTATED DIVISION SIGN;UP ARROW THROUGH CIRCLE;CIRCLED WHITE BULLET;a+a
aLESS-THAN;aGREATER-THAN;CIRCLE WITH SMALL CIRCLE TO THE RIGHT;bTWO HORIZONTAL STROKES+c
SQUARED RISING DIAGONAL SLASH;aFALLING+b;aASTERISK;aSMALL CIRCLE;aSQUARE;TWO JOINED SQUARES
TRIANGLE WITH DOT ABOVE;bUNDERBAR;S IN TRIANGLE;TRIANGLE WITH SERIFS AT BOTTOM
RIGHT TRIANGLE ABOVE LEFT TRIANGLE;LEFT TRIANGLE BESIDE VERTICAL BAR
VERTICAL BAR BESIDE RIGHT TRIANGLE;BOWTIE WITH LEFT HALF BLACK;bRIGHT+b;BLACK BOWTIE
TIMES WITH LEFT HALF BLACK;bRIGHT+b;WHITE HOURGLASS;BLACK+a;LEFT WIGGLY FENCE;RIGHT+b
LEFT DOUBLE+b;RIGHT+c;INCOMPLETE INFINITY;TIE OVER+a;INFINITY NEGATED WITH VERTICAL BAR
DOUBLE-ENDED MULTIMAP;SQUARE WITH CONTOURED OUTLINE;INCREASES AS;SHUFFLE PRODUCT
EQUALS SIGN AND SLANTED PARALLEL;eWITH TILDE ABOVE;IDENTICAL TO AND SLANTED PARALLEL
GLEICH STARK;THERMODYNAMIC;DOWN-POINTING TRIANGLE WITH LEFT HALF BLACK;cRIGHT+b
BLACK DIAMOND WITH DOWN ARROW;aLOZENGE;WHITE CIRCLE WITH DOWN ARROW;BLACK+d
ERROR-BARRED WHITE SQUARE;aBLACK+a;aWHITE DIAMOND;aBLACK+a;aWHITE CIRCLE;aBLACK+a;RULE-DELAYED
REVERSE SOLIDUS OPERATOR;SOLIDUS WITH OVERBAR;REVERSE SOLIDUS WITH HORIZONTAL STROKE
BIG SOLIDUS;aREVERSE+a;DOUBLE PLUS;TRIPLE+a;LEFT-POINTING CURVED ANGLE BRACKET;RIGHT-POINTING+c
TINY;MINY;N-ARY CIRCLED DOT OPERATOR;bPLUS+a;bTIMES+a;aUNION OPERATOR WITH DOT;dPLUS
aSQUARE INTERSECTION OPERATOR;bUNION+a;TWO LOGICAL AND+a;bOR+a;N-ARY TIMES+a;MODULO TWO SUM
SUMMATION WITH INTEGRAL;QUADRUPLE INTEGRAL OPERATOR;FINITE PART INTEGRAL
INTEGRAL WITH DOUBLE STROKE;aAVERAGE WITH SLASH;CIRCULATION FUNCTION;ANTICLOCKWISE INTEGRATION
LINE INTEGRATION WITH RECTANGULAR PATH AROUND POLE;cSEMICIRCULAR+c;bNOT INCLUDING THE+a
INTEGRAL AROUND A POINT OPERATOR;QUATERNION INTEGRAL+a;INTEGRAL WITH LEFTWARDS ARROW WITH HOOK
bTIMES SIGN;bINTERSECTION;bUNION;bOVERBAR;bUNDERBAR;JOIN;LARGE LEFT TRIANGLE OPERATOR
Z NOTATION SCHEMA COMPOSITION;cPIPING;cPROJECTION;PLUS SIGN WITH SMALL CIRCLE ABOVE
cCIRCUMFLEX ACCENT+a;cTILDE+a;cDOT BELOW;cTILDE+a;cSUBSCRIPT TWO;cBLACK TRIANGLE
MINUS SIGN WITH COMMA ABOVE;cDOT BELOW;cFALLING DOTS;cRISING+a;PLUS SIGN IN LEFT HALF CIRCLE
cRIGHT+b;VECTOR OR CROSS PRODUCT;MULTIPLICATION SIGN WITH DOT ABOVE;cUNDERBAR
SEMIDIRECT PRODUCT WITH BOTTOM CLOSED;SMASH PRODUCT;MULTIPLICATION SIGN IN LEFT HALF CIRCLE
cRIGHT+b;CIRCLED MULTIPLICATION SIGN WITH CIRCUMFLEX ACCENT
MULTIPLICATION SIGN IN DOUBLE CIRCLE;CIRCLED DIVISION SIGN;PLUS SIGN IN TRIANGLE;MINUS+c
MULTIPLICATION+c;INTERIOR PRODUCT;RIGHTHAND+b;Z NOTATION RELATIONAL COMPOSITION
AMALGAMATION OR COPRODUCT;INTERSECTION WITH DOT;UNION WITH MINUS SIGN;bOVERBAR;INTERSECTION+b
bLOGICAL AND;UNION WITH LOGICAL OR;aABOVE INTERSECTION;INTERSECTION ABOVE UNION
UNION ABOVE BAR ABOVE INTERSECTION;INTERSECTION ABOVE BAR ABOVE UNION
UNION BESIDE AND JOINED WITH+a;INTERSECTION BESIDE AND JOINED WITH INTERSECTION
CLOSED UNION WITH SERIFS;aINTERSECTION+b;DOUBLE SQUARE INTERSECTION;bUNION
CLOSED UNION WITH SERIFS AND SMASH PRODUCT;LOGICAL AND WITH DOT ABOVE;aOR+c;DOUBLE LOGICAL AND
bOR;TWO INTERSECTING LOGICAL AND;cOR;SLOPING LARGE+a;bAND;LOGICAL OR OVERLAPPING LOGICAL+a
aAND WITH MIDDLE STEM;aOR+c;aAND WITH HORIZONTAL DASH;aOR+c;aAND WITH DOUBLE OVERBAR;cUNDERBAR
cDOUBLE+a;SMALL VEE WITH+a;LOGICAL OR WITH DOUBLE OVERBAR;dUNDERBAR
Z NOTATION DOMAIN ANTIRESTRICTION;bRANGE+a;EQUALS SIGN WITH DOT BELOW;IDENTICAL WITH DOT ABOVE
TRIPLE HORIZONTAL BAR WITH DOUBLE VERTICAL STROKE;dTRIPLE+b;TILDE OPERATOR WITH DOT ABOVE
cRISING DOTS;SIMILAR MINUS SIMILAR;CONGRUENT WITH DOT ABOVE;EQUALS WITH ASTERISK
ALMOST EQUAL TO WITH CIRCUMFLEX ACCENT;APPROXIMATELY EQUAL OR EQUAL TO
EQUALS SIGN ABOVE PLUS SIGN;PLUS SIGN ABOVE EQUALS+a;EQUALS SIGN ABOVE TILDE OPERATOR
DOUBLE COLON EQUAL;TWO CONSECUTIVE EQUALS SIGNS;THREE+c
EQUALS SIGN WITH TWO DOTS ABOVE AND TWO DOTS BELOW;EQUIVALENT WITH FOUR DOTS ABOVE
LESS-THAN WITH CIRCLE INSIDE;GREATER-THAN+c;LESS-THAN WITH QUESTION MARK ABOVE;GREATER-THAN+d
LESS-THAN OR SLANTED EQUAL TO;GREATER-THAN+d;LESS-THAN OR SLANTED EQUAL TO WITH DOT INSIDE
GREATER-THAN+g;LESS-THAN OR SLANTED EQUAL TO WITH DOT ABOVE;GREATER-THAN+g
LESS-THAN OR SLANTED EQUAL TO WITH DOT ABOVE RIGHT
GREATER-THAN OR SLANTED EQUAL TO WITH DOT ABOVE LEFT;LESS-THAN OR APPROXIMATE;GREATER-THAN+b
LESS-THAN AND SINGLE-LINE NOT EQUAL TO;GREATER-THAN+e;LESS-THAN AND NOT APPROXIMATE
GREATER-THAN+c;LESS-THAN ABOVE DOUBLE-LINE EQUAL ABOVE GREATER-THAN
GREATER-THAN ABOVE DOUBLE-LINE EQUAL ABOVE LESS-THAN;LESS-THAN ABOVE SIMILAR OR EQUAL
GREATER-THAN+d;LESS-THAN ABOVE SIMILAR ABOVE GREATER-THAN
GREATER-THAN ABOVE SIMILAR ABOVE LESS-THAN;LESS-THAN ABOVE GREATER-THAN ABOVE DOUBLE-LINE EQUAL
GREATER-THAN ABOVE LESS-THAN+c;LESS-THAN ABOVE SLANTED EQUAL ABOVE GREATER-THAN ABOVE SLANTED+a
GREATER-THAN ABOVE SLANTED EQUAL ABOVE LESS-THAN+c;SLANTED EQUAL TO OR LESS-THAN;dGREATER-THAN
dLESS-THAN WITH DOT INSIDE;dGREATER-THAN+c;DOUBLE-LINE EQUAL TO OR LESS-THAN;dGREATER-THAN
aSLANTED EQUAL TO OR LESS-THAN;eGREATER-THAN;SIMILAR OR LESS-THAN;bGREATER-THAN
aABOVE LESS-THAN ABOVE EQUALS SIGN;bGREATER-THAN+c;DOUBLE NESTED LESS-THAN;bGREATER-THAN
bLESS-THAN WITH UNDERBAR;GREATER-THAN OVERLAPPING LESS-THAN;aBESIDE+a;LESS-THAN CLOSED BY CURVE
GREATER-THAN+c;LESS-THAN CLOSED BY CURVE ABOVE SLANTED EQUAL;GREATER-THAN+f;SMALLER THAN
LARGER+a;SMALLER THAN OR EQUAL TO;LARGER+d;EQUALS SIGN WITH BUMPY ABOVE
PRECEDES ABOVE SINGLE-LINE EQUALS SIGN;SUCCEEDS+d;PRECEDES ABOVE SINGLE-LINE NOT EQUAL TO
SUCCEEDS+e;PRECEDES ABOVE EQUALS SIGN;SUCCEEDS+c;PRECEDES ABOVE NOT EQUAL TO;SUCCEEDS+d
PRECEDES ABOVE ALMOST+b;SUCCEEDS+d;PRECEDES ABOVE NOT+c;SUCCEEDS+e;DOUBLE PRECEDES;aSUCCEEDS
SUBSET WITH DOT;SUPERSET+b;SUBSET WITH PLUS SIGN BELOW;SUPERSET+d;SUBSET WITH MULTIPLICATION+b
SUPERSET+d;SUBSET OF OR EQUAL TO WITH DOT ABOVE;SUPERSET+g;SUBSET OF ABOVE EQUALS SIGN
SUPERSET+d;SUBSET OF ABOVE TILDE OPERATOR;SUPERSET+d;SUBSET OF ABOVE ALMOST EQUAL TO;SUPERSET+e
SUBSET OF ABOVE NOT+b;SUPERSET+e;SQUARE LEFT OPEN BOX OPERATOR;aRIGHT+c;CLOSED SUBSET;aSUPERSET
aSUBSET OR EQUAL TO;aSUPERSET+c;SUBSET ABOVE SUPERSET;SUPERSET ABOVE SUBSET;SUBSET+b
SUPERSET ABOVE SUPERSET;aBESIDE SUBSET;bAND JOINED BY DASH WITH+a;ELEMENT OF OPENING DOWNWARDS
PITCHFORK WITH TEE TOP;TRANSVERSAL INTERSECTION;FORKING;NONFORKING;SHORT LEFT TACK;aDOWN+a
aUP+a;PERPENDICULAR WITH S;VERTICAL BAR TRIPLE RIGHT TURNSTILE;DOUBLE VERTICAL BAR LEFT+a
VERTICAL BAR DOUBLE+b;DOUBLE+e;LONG DASH FROM LEFT MEMBER OF DOUBLE VERTICAL
SHORT DOWN TACK WITH OVERBAR;aUP TACK WITH UNDERBAR;cABOVE SHORT DOWN TACK;DOUBLE+b;aUP+a
aSTROKE NOT SIGN;REVERSED+d;DOES NOT DIVIDE WITH REVERSED NEGATION SLASH
VERTICAL LINE WITH CIRCLE ABOVE;dBELOW;DOWN TACK+c;PARALLEL WITH HORIZONTAL STROKE
bTILDE OPERATOR;TRIPLE VERTICAL BAR BINARY RELATION;cWITH HORIZONTAL STROKE;aCOLON OPERATOR
aNESTED LESS-THAN;bGREATER-THAN;DOUBLE-LINE SLANTED LESS-THAN OR EQUAL TO;bGREATER-THAN+c
TRIPLE SOLIDUS BINARY RELATION;LARGE TRIPLE VERTICAL BAR OPERATOR;DOUBLE SOLIDUS+a
WHITE VERTICAL BAR;N-ARY+c;NORTH EAST WHITE ARROW;aWEST+b;SOUTH EAST+b;aWEST+b;LEFT RIGHT+b
LEFTWARDS BLACK+a;UPWARDS+b;DOWNWARDS+b;NORTH EAST+b;aWEST+b;SOUTH EAST+b;aWEST+b;LEFT RIGHT+b
UP DOWN+b;RIGHTWARDS ARROW WITH TIP DOWNWARDS;dUPWARDS;LEFTWARDS ARROW WITH TIP DOWNWARDS
dUPWARDS;SQUARE WITH TOP HALF BLACK;bBOTTOM+b;bUPPER RIGHT DIAGONAL+b;bLOWER LEFT+c
DIAMOND WITH LEFT+b;bRIGHT+b;bTOP+b;bBOTTOM+b;DOTTED SQUARE;BLACK LARGE+a;WHITE+b
BLACK VERY SMALL+a;WHITE+c;BLACK PENTAGON;WHITE+a;aHEXAGON;BLACK+a;HORIZONTAL+b
BLACK LARGE CIRCLE;aMEDIUM DIAMOND;WHITE+b;BLACK MEDIUM LOZENGE;WHITE+b;BLACK SMALL DIAMOND
bLOZENGE;WHITE+b;BLACK HORIZONTAL ELLIPSE;WHITE+b;BLACK VERTICAL+a;WHITE+b
LEFT ARROW WITH SMALL CIRCLE;THREE LEFTWARDS ARROWS;LEFT ARROW WITH CIRCLED PLUS
LONG LEFTWARDS SQUIGGLE ARROW;LEFTWARDS TWO-HEADED ARROW WITH VERTICAL STROKE;dDOUBLE+b
cFROM BAR;bTRIPLE DASH ARROW;aARROW WITH DOTTED STEM;cTAIL WITH VERTICAL STROKE;eDOUBLE+b
aTWO-HEADED ARROW WITH TAIL;eWITH VERTICAL STROKE;fDOUBLE+b;aARROW THROUGH X
WAVE ARROW POINTING DIRECTLY LEFT;EQUALS SIGN ABOVE LEFTWARDS ARROW;REVERSE TILDE OPERATOR+c
LEFTWARDS ARROW ABOVE REVERSE ALMOST EQUAL TO;RIGHTWARDS ARROW THROUGH GREATER-THAN;cSUPERSET
LEFTWARDS QUADRUPLE ARROW;RIGHTWARDS+b;REVERSE TILDE OPERATOR ABOVE RIGHTWARDS+a
RIGHTWARDS ARROW ABOVE REVERSE ALMOST EQUAL TO;TILDE OPERATOR ABOVE LEFTWARDS ARROW
LEFTWARDS ARROW ABOVE ALMOST EQUAL TO;cREVERSE TILDE OPERATOR;RIGHTWARDS+e
DOWNWARDS TRIANGLE-HEADED ZIGZAG ARROW;SHORT SLANTED NORTH+a;aBACKSLANTED SOUTH+a
WHITE MEDIUM STAR;BLACK SMALL+a;WHITE+b;BLACK RIGHT-POINTING PENTAGON;WHITE+b
HEAVY LARGE CIRCLE;aOVAL WITH OVAL INSIDE;aCIRCLE WITH CIRCLE+a;b;aCIRCLED SALTIRE
SLANTED NORTH ARROW WITH HOOKED HEAD;BACKSLANTED SOUTH ARROW WITH HOOKED TAIL
SLANTED NORTH ARROW WITH HORIZONTAL+a;BACKSLANTED SOUTH+d
BENT ARROW POINTING DOWNWARDS THEN NORTH EAST;SHORT+g;LEFTWARDS TRIANGLE-HEADED ARROW;UPWARDS+b
RIGHTWARDS+b;DOWNWARDS+b;LEFT RIGHT+b;UP DOWN+b;NORTH WEST+b;aEAST+b;SOUTH+c;aWEST+b
LEFTWARDS TRIANGLE-HEADED DASHED+a;UPWARDS+c;RIGHTWARDS+c;DOWNWARDS+c
CLOCKWISE TRIANGLE-HEADED OPEN CIRCLE+a;ANTICLOCKWISE+d;LEFTWARDS TRIANGLE-HEADED ARROW TO BAR
UPWARDS+d;RIGHTWARDS+d;DOWNWARDS+d"),
   (0x2B76, "NORTH WEST TRIANGLE-HEADED ARROW TO BAR;aEAST+d;SOUTH+e;aWEST+d
LEFTWARDS TRIANGLE-HEADED ARROW WITH DOUBLE HORIZONTAL STROKE;UPWARDS+f;RIGHTWARDS+f
DOWNWARDS+f;HORIZONTAL TAB KEY;VERTICAL+b
LEFTWARDS TRIANGLE-HEADED ARROW OVER RIGHTWARDS TRIANGLE-HEADED ARROW
UPWARDS TRIANGLE-HEADED ARROW LEFTWARDS OF DOWNWARDS+b
RIGHTWARDS TRIANGLE-HEADED ARROW OVER LEFTWARDS+b
DOWNWARDS TRIANGLE-HEADED ARROW LEFTWARDS OF UPWARDS+b;LEFTWARDS TRIANGLE-HEADED PAIRED ARROWS
UPWARDS+c;RIGHTWARDS+c;DOWNWARDS+c;LEFTWARDS BLACK CIRCLED WHITE ARROW;UPWARDS+d;RIGHTWARDS+d
DOWNWARDS+d;ANTICLOCKWISE TRIANGLE-HEADED RIGHT U-SHAPED+a;bBOTTOM+b;bLEFT+b;bTOP+b;RETURN LEFT
aRIGHT;NEWLINE LEFT;aRIGHT;FOUR CORNER ARROWS CIRCLING ANTICLOCKWISE;RIGHTWARDS BLACK ARROW"),
   (0x2B97, "SYMBOL FOR TYPE A ELECTRONICS;THREE-D TOP-LIGHTED LEFTWARDS EQUILATERAL ARROWHEAD
aRIGHT-LIGHTED UPWARDS+b;aTOP-LIGHTED RIGHTWARDS+b;aLEFT-LIGHTED DOWNWARDS+b;BLACK LEFTWARDS+b
aUPWARDS+b;aRIGHTWARDS+b;aDOWNWARDS+b;DOWNWARDS TRIANGLE-HEADED ARROW WITH LONG TIP LEFTWARDS
fRIGHTWARDS;UPWARDS TRIANGLE-HEADED ARROW WITH LONG TIP LEFTWARDS;fRIGHTWARDS
LEFTWARDS TRIANGLE-HEADED ARROW WITH LONG TIP UPWARDS;RIGHTWARDS+f
LEFTWARDS TRIANGLE-HEADED ARROW WITH LONG TIP DOWNWARDS;RIGHTWARDS+f
BLACK CURVED DOWNWARDS AND LEFTWARDS ARROW;dRIGHTWARDS+a;bUPWARDS AND LEFTWARDS+a;dRIGHTWARDS+a
bLEFTWARDS AND UPWARDS+a;bRIGHTWARDS+c;bLEFTWARDS AND DOWNWARDS+a;bRIGHTWARDS+c
RIBBON ARROW DOWN LEFT;cRIGHT;bUP LEFT;cRIGHT;bLEFT UP;bRIGHT+a;bLEFT DOWN;bRIGHT+a
UPWARDS WHITE ARROW FROM BAR WITH HORIZONTAL BAR;UP ARROWHEAD IN A RECTANGLE BOX
OVERLAPPING WHITE SQUARES;bAND BLACK+a;a+b;BALLOT BOX WITH LIGHT X;CIRCLED X;aBOLD X
BLACK SQUARE CENTRED;aDIAMOND+a;TURNED BLACK PENTAGON;HORIZONTAL BLACK OCTAGON;+b
aMEDIUM UP-POINTING TRIANGLE CENTRED;bDOWN-POINTING+b;bLEFT-POINTING+b;bRIGHT-POINTING+b
NEPTUNE FORM TWO;TOP HALF BLACK CIRCLE;BOTTOM+c;LIGHT FOUR POINTED BLACK CUSP;ROTATED+e
WHITE FOUR POINTED+a;ROTATED+d;SQUARE POSITION INDICATOR;UNCERTAINTY SIGN;GROUP MARK
PLUTO FORM TWO;bTHREE;bFOUR;bFIVE;TRANSPLUTO;PROSERPINA;ASTRAEA;HYGIEA;PHOLUS;NESSUS
WHITE MOON SELENA;BLACK DIAMOND ON CROSS;TRUE LIGHT MOON ARTA;CUPIDO;HADES;ZEUS;KRONOS;APOLLON
ADMETOS;VULCANUS;POSEIDON;LEFT HALF BLACK STAR;RIGHT+c;STAR WITH LEFT HALF BLACK;bRIGHT+b
LEFTWARDS TWO-HEADED ARROW WITH TRIANGLE ARROWHEADS;UPWARDS+e;RIGHTWARDS+e;DOWNWARDS+e
ERIS FORM ONE;bTWO;SEDNA;RUSSIAN ASTROLOGICAL SYMBOL VIGINTILE;cNOVILE;cQUINTILE;cBINOVILE
cSENTAGON;cTREDECILE;EQUALS SIGN WITH INFINITY BELOW;UNITED SYMBOL;SEPARATED+a;DOUBLED+a
PASSED+a;REVERSED RIGHT ANGLE;HELLSCHREIBER PAUSE SYMBOL;GLAGOLITIC CAPITAL LETTER AZU;cBUKY
cVEDE;cGLAGOLI;cDOBRO;cYESTU;cZHIVETE;cDZELO;cZEMLJA;cIZHE;cINITIAL+a;cI;cDJERVI;cKAKO;cLJUDIJE
cMYSLITE;cNASHI;cONU;cPOKOJI;cRITSI;cSLOVO;cTVRIDO;cUKU;cFRITU;cHERU;cOTU;cPE;cSHTA;cTSI
cCHRIVI;cSHA;cYERU;cYERI;cYATI;cSPIDERY HA;cYU;cSMALL YUS;eWITH TAIL;cYO;cIOTATED SMALL YUS
cBIG+a;cIOTATED+b;cFITA;cIZHITSA;cSHTAPIC;cTROKUTASTI A;cLATINATE MYSLITE;cCAUDATE CHRIVI
aSMALL LETTER AZU;cBUKY;cVEDE;cGLAGOLI;cDOBRO;cYESTU;cZHIVETE;cDZELO;cZEMLJA;cIZHE;cINITIAL+a
cI;cDJERVI;cKAKO;cLJUDIJE;cMYSLITE;cNASHI;cONU;cPOKOJI;cRITSI;cSLOVO;cTVRIDO;cUKU;cFRITU;cHERU
cOTU;cPE;cSHTA;cTSI;cCHRIVI;cSHA;cYERU;cYERI;cYATI;cSPIDERY HA;cYU;cSMALL YUS;eWITH TAIL;cYO
cIOTATED SMALL YUS;cBIG+a;cIOTATED+b;cFITA;cIZHITSA;cSHTAPIC;cTROKUTASTI A;cLATINATE MYSLITE
cCAUDATE CHRIVI;LATIN CAPITAL LETTER L WITH DOUBLE BAR;aSMALL+e
aCAPITAL LETTER L WITH MIDDLE TILDE;cP WITH STROKE;cR WITH TAIL;aSMALL LETTER A WITH STROKE
cT WITH DIAGONAL+a;aCAPITAL LETTER H WITH DESCENDER;aSMALL+d;aCAPITAL LETTER K+b;aSMALL+d
aCAPITAL LETTER Z+b;aSMALL+d;aCAPITAL LETTER ALPHA;cM WITH HOOK;cTURNED A;dALPHA
aSMALL LETTER V WITH RIGHT HOOK;aCAPITAL LETTER W WITH+a;aSMALL+d;cV WITH CURL
aCAPITAL LETTER HALF H;aSMALL+c;cTAILLESS PHI;cE WITH NOTCH;cTURNED R WITH TAIL
cO WITH LOW RING INSIDE;aLETTER SMALL CAPITAL TURNED E;aSUBSCRIPT SMALL LETTER J
MODIFIER LETTER CAPITAL V;LATIN CAPITAL LETTER S WITH SWASH TAIL;cZ+c
COPTIC CAPITAL LETTER ALFA;aSMALL+b;aCAPITAL LETTER VIDA;aSMALL+b;aCAPITAL LETTER GAMMA
aSMALL+b;aCAPITAL LETTER DALDA;aSMALL+b;aCAPITAL LETTER EIE;aSMALL+b;aCAPITAL LETTER SOU
aSMALL+b;aCAPITAL LETTER ZATA;aSMALL+b;aCAPITAL LETTER HATE;aSMALL+b;aCAPITAL LETTER THETHE
aSMALL+b;aCAPITAL LETTER IAUDA;aSMALL+b;aCAPITAL LETTER KAPA;aSMALL+b;aCAPITAL LETTER LAULA
aSMALL+b;aCAPITAL LETTER MI;aSMALL+b;aCAPITAL LETTER NI;aSMALL+b;aCAPITAL LETTER KSI;aSMALL+b
aCAPITAL LETTER O;aSMALL+b;aCAPITAL LETTER PI;aSMALL+b;aCAPITAL LETTER RO;aSMALL+b
aCAPITAL LETTER SIMA;aSMALL+b;aCAPITAL LETTER TAU;aSMALL+b;aCAPITAL LETTER UA;aSMALL+b
aCAPITAL LETTER FI;aSMALL+b;aCAPITAL LETTER KHI;aSMALL+b;aCAPITAL LETTER PSI;aSMALL+b
aCAPITAL LETTER OOU;aSMALL+b;aCAPITAL LETTER DIALECT-P ALEF;aSMALL+c
aCAPITAL LETTER OLD COPTIC AIN;aSMALL+d;aCAPITAL LETTER CRYPTOGRAMMIC EIE;aSMALL+c
aCAPITAL LETTER DIALECT-P KAPA;aSMALL+c;aCAPITAL LETTER DIALECT-P NI;aSMALL+c
aCAPITAL LETTER CRYPTOGRAMMIC+a;aSMALL+c;aCAPITAL LETTER OLD COPTIC OOU;aSMALL+d
aCAPITAL LETTER SAMPI;aSMALL+b;aCAPITAL LETTER CROSSED SHEI;aSMALL+c
aCAPITAL LETTER OLD COPTIC+a;aSMALL+d;aCAPITAL LETTER OLD COPTIC ESH;aSMALL+d
aCAPITAL LETTER AKHMIMIC KHEI;aSMALL+c;aCAPITAL LETTER DIALECT-P HORI;aSMALL+c
aCAPITAL LETTER OLD COPTIC+a;aSMALL+d;aCAPITAL LETTER OLD COPTIC HA;aSMALL+d
aCAPITAL LETTER L-SHAPED+a;aSMALL+c;aCAPITAL LETTER OLD COPTIC HEI;aSMALL+d
aCAPITAL LETTER OLD COPTIC HAT;aSMALL+d;aCAPITAL LETTER OLD COPTIC GANGIA;aSMALL+d
aCAPITAL LETTER OLD COPTIC DJA;aSMALL+d;aCAPITAL LETTER OLD COPTIC SHIMA;aSMALL+d
aCAPITAL LETTER OLD NUBIAN+a;aSMALL+d;aCAPITAL LETTER OLD NUBIAN NGI;aSMALL+d
aCAPITAL LETTER OLD NUBIAN NYI;aSMALL+d;aCAPITAL LETTER OLD NUBIAN WAU;aSMALL+d;aSYMBOL KAI
bMI RO;bPI+a;bSTAUROS;bTAU RO;bKHI+a;bSHIMA SIMA;aCAPITAL LETTER CRYPTOGRAMMIC SHEI;aSMALL+c
aCAPITAL LETTER CRYPTOGRAMMIC GANGIA;aSMALL+c;aCOMBINING NI ABOVE;bSPIRITUS ASPER;cLENIS
aCAPITAL LETTER BOHAIRIC KHEI;aSMALL+c"),
   (0x2CF9, "COPTIC OLD NUBIAN FULL STOP;cDIRECT QUESTION MARK;cINDIRECT+b;cVERSE DIVIDER
aFRACTION ONE HALF;aFULL STOP;aMORPHOLOGICAL DIVIDER;GEORGIAN SMALL LETTER AN;cBAN;cGAN;cDON
cEN;cVIN;cZEN;cTAN;cIN;cKAN;cLAS;cMAN;cNAR;cON;cPAR;cZHAR;cRAE;cSAN;cTAR;cUN;cPHAR;cKHAR;cGHAN
cQAR;cSHIN;cCHIN;cCAN;cJIL;cCIL;cCHAR;cXAN;cJHAN;cHAE;cHE;cHIE;cWE;cHAR;cHOE"),
   (0x2D27, "GEORGIAN SMALL LETTER YN"),
   (0x2D2D, "GEORGIAN SMALL LETTER AEN"),
   (0x2D30, "TIFINAGH LETTER YA;bYAB;bYABH;bYAG;bYAGHH;bBERBER ACADEMY YAJ;b+a;bYAD;bYADH;bYADD
bYADDH;bYEY;bYAF;bYAK;bTUAREG+a;bYAKHH;bYAH;bBERBER ACADEMY+a;bTUAREG+a;bYAHH;bYAA;bYAKH
bTUAREG+a;bYAQ;bTUAREG+a;bYI;bYAZH;bAHAGGAR+a;bTUAREG+a;bYAL;bYAM;bYAN;bTUAREG YAGN;cYANG;bYAP
bYU;bYAR;bYARR;bYAGH;bTUAREG+a;bAYER+a;bYAS;bYASS;bYASH;bYAT;bYATH;bYACH;bYATT;bYAV;bYAW;bYAY
bYAZ;bTAWELLEMET+a;bYAZZ;bYE;bYO"),
   (0x2D6F, "TIFINAGH MODIFIER LETTER LABIALIZATION MARK;aSEPARATOR+a"),
   (0x2D7F, "TIFINAGH CONSONANT JOINER;ETHIOPIC SYLLABLE LOA;bMOA;bROA;bSOA;bSHOA;bBOA;bTOA;bCOA
bNOA;bNYOA;bGLOTTAL OA;bZOA;bDOA;bDDOA;bJOA;bTHOA;bCHOA;bPHOA;bPOA;bGGWA;bGGWI;bGGWEE;bGGWE"),
   (0x2DA0, "ETHIOPIC SYLLABLE SSA;bSSU;bSSI;bSSAA;bSSEE;bSSE;bSSO"),
   (0x2DA8, "ETHIOPIC SYLLABLE CCA;bCCU;bCCI;bCCAA;bCCEE;bCCE;bCCO"),
   (0x2DB0, "ETHIOPIC SYLLABLE ZZA;bZZU;bZZI;bZZAA;bZZEE;bZZE;bZZO"),
   (0x2DB8, "ETHIOPIC SYLLABLE CCHA;bCCHU;bCCHI;bCCHAA;bCCHEE;bCCHE;bCCHO"),
   (0x2DC0, "ETHIOPIC SYLLABLE QYA;bQYU;bQYI;bQYAA;bQYEE;bQYE;bQYO"),
   (0x2DC8, "ETHIOPIC SYLLABLE KYA;bKYU;bKYI;bKYAA;bKYEE;bKYE;bKYO"),
   (0x2DD0, "ETHIOPIC SYLLABLE XYA;bXYU;bXYI;bXYAA;bXYEE;bXYE;bXYO"),
   (0x2DD8, "ETHIOPIC SYLLABLE GYA;bGYU;bGYI;bGYAA;bGYEE;bGYE;bGYO"),
   (0x2DE0, "COMBINING CYRILLIC LETTER BE;cVE;cGHE;cDE;cZHE;cZE;cKA;cEL;cEM;cEN;cO;cPE;cER;cES
cTE;cHA;cTSE;cCHE;cSHA;cSHCHA;cFITA;cES-TE;cA;cIE;cDJERV;cMONOGRAPH UK;cYAT;cYU;cIOTIFIED A
cLITTLE YUS;cBIG+a;cIOTIFIED+b;RIGHT ANGLE SUBSTITUTION MARKER;bDOTTED+b
LEFT SUBSTITUTION BRACKET;RIGHT+b;LEFT DOTTED+b;RIGHT+c;RAISED INTERPOLATION MARKER;aDOTTED+b
DOTTED TRANSPOSITION+a;LEFT TRANSPOSITION BRACKET;RIGHT+b;RAISED SQUARE
LEFT RAISED OMISSION BRACKET;RIGHT+c;EDITORIAL CORONIS;PARAGRAPHOS;FORKED+a;REVERSED+b
HYPODIASTOLE;DOTTED OBELOS;DOWNWARDS ANCORA;UPWARDS+a;DOTTED RIGHT-POINTING ANGLE
DOUBLE OBLIQUE HYPHEN;INVERTED INTERROBANG;PALM BRANCH;HYPHEN WITH DIAERESIS
TILDE WITH RING ABOVE;LEFT LOW PARAPHRASE BRACKET;RIGHT+c;TILDE WITH DOT ABOVE;cBELOW
LEFT VERTICAL BAR WITH QUILL;RIGHT+d;TOP LEFT HALF BRACKET;aRIGHT+b;BOTTOM LEFT+b;aRIGHT+b
LEFT SIDEWAYS U+a;RIGHT+c;LEFT DOUBLE PARENTHESIS;RIGHT+b;TWO DOTS OVER ONE DOT PUNCTUATION
ONE DOT OVER TWO DOTS+a;SQUARED FOUR DOT+a;FIVE DOT MARK;REVERSED QUESTION+a;VERTICAL TILDE
RING POINT;WORD SEPARATOR MIDDLE DOT;TURNED COMMA;RAISED DOT;aCOMMA;TURNED SEMICOLON
DAGGER WITH LEFT GUARD;bRIGHT+a;TURNED DAGGER;TOP HALF SECTION SIGN;TWO-EM DASH;THREE-EM+a
STENOGRAPHIC FULL STOP;VERTICAL SIX DOTS;WIGGLY VERTICAL LINE;CAPITULUM;DOUBLE HYPHEN
REVERSED COMMA;DOUBLE LOW-REVERSED-9 QUOTATION MARK;DASH WITH LEFT UPTURN
DOUBLE SUSPENSION MARK;INVERTED LOW KAVYKA;cWITH KAVYKA ABOVE;LOW KAVYKA;bWITH DOT
DOUBLE STACKED COMMA;DOTTED SOLIDUS;TRIPLE DAGGER;MEDIEVAL COMMA;PARAGRAPHUS MARK
PUNCTUS ELEVATUS+a;CORNISH VERSE DIVIDER;CROSS PATTY WITH RIGHT CROSSBAR;cLEFT+a
TIRONIAN SIGN CAPITAL ET;MEDIEVAL EXCLAMATION MARK;aQUESTION+a;LEFT SQUARE BRACKET WITH STROKE
RIGHT+d;LEFT SQUARE BRACKET WITH DOUBLE+a;RIGHT+e;TOP HALF LEFT PARENTHESIS;bRIGHT+a
BOTTOM HALF LEFT+a;bRIGHT+a;OBLIQUE HYPHEN"),
   (0x2E80, "CJK RADICAL REPEAT;bCLIFF;bSECOND ONE;cTWO;cTHREE;bPERSON;bBOX;bTABLE;bKNIFE ONE
cTWO;bDIVINATION;bSEAL;bSMALL ONE;cTWO;bLAME ONE;cTWO;cTHREE;cFOUR;bSNAKE;bTHREAD;bSNOUT ONE
cTWO;bHEART ONE;cTWO;bHAND;bRAP"),
   (0x2E9B, "CJK RADICAL CHOKE;bSUN;bMOON;bDEATH;bMOTHER;bCIVILIAN;bWATER ONE;cTWO;bFIRE
bPAW ONE;cTWO;bSIMPLIFIED HALF TREE TRUNK;bCOW;bDOG;bJADE;bBOLT OF CLOTH;bEYE;bSPIRIT ONE;cTWO
bBAMBOO;bSILK;bC-SIMPLIFIED+a;bNET ONE;cTWO;cTHREE;cFOUR;bMESH;bSHEEP;bRAM;bEWE;bOLD;bBRUSH ONE
cTWO;bMEAT;bMORTAR;bGRASS ONE;cTWO;cTHREE;bTIGER;bCLOTHES;bWEST ONE;cTWO;bC-SIMPLIFIED SEE
bSIMPLIFIED HORN;b+a;bC-SIMPLIFIED SPEECH;cSHELL;bFOOT;bC-SIMPLIFIED CART;bSIMPLIFIED WALK
bWALK ONE;cTWO;bCITY;bC-SIMPLIFIED GOLD;bLONG ONE;cTWO;bC-SIMPLIFIED LONG;cGATE;bMOUND ONE;cTWO
bRAIN;bBLUE;bC-SIMPLIFIED TANNED LEATHER;cLEAF;cWIND;cFLY;bEAT ONE;cTWO;cTHREE
bC-SIMPLIFIED EAT;bHEAD;bC-SIMPLIFIED HORSE;bBONE;bGHOST;bC-SIMPLIFIED FISH;cBIRD;cSALT
bSIMPLIFIED WHEAT;cYELLOW;bC-SIMPLIFIED FROG;bJ-SIMPLIFIED EVEN;bC-SIMPLIFIED+a
bJ-SIMPLIFIED TOOTH;bC-SIMPLIFIED+a;bJ-SIMPLIFIED DRAGON;bC-SIMPLIFIED+a;bTURTLE
bJ-SIMPLIFIED+a;bC-SIMPLIFIED+a"),
   (0x2F00, "KANGXI RADICAL ONE;bLINE;bDOT;bSLASH;bSECOND;bHOOK;bTWO;bLID;bMAN;bLEGS;bENTER
bEIGHT;bDOWN BOX;bCOVER;bICE;bTABLE;bOPEN BOX;bKNIFE;bPOWER;bWRAP;bSPOON;bRIGHT OPEN BOX
bHIDING ENCLOSURE;bTEN;bDIVINATION;bSEAL;bCLIFF;bPRIVATE;bAGAIN;bMOUTH;bENCLOSURE;bEARTH
bSCHOLAR;bGO;cSLOWLY;bEVENING;bBIG;bWOMAN;bCHILD;bROOF;bINCH;bSMALL;bLAME;bCORPSE;bSPROUT
bMOUNTAIN;bRIVER;bWORK;bONESELF;bTURBAN;bDRY;bSHORT THREAD;bDOTTED CLIFF;bLONG STRIDE
bTWO HANDS;bSHOOT;bBOW;bSNOUT;bBRISTLE;bSTEP;bHEART;bHALBERD;bDOOR;bHAND;bBRANCH;bRAP;bSCRIPT
bDIPPER;bAXE;bSQUARE;bNOT;bSUN;bSAY;bMOON;bTREE;bLACK;bSTOP;bDEATH;bWEAPON;bDO NOT;bCOMPARE
bFUR;bCLAN;bSTEAM;bWATER;bFIRE;bCLAW;bFATHER;bDOUBLE X;bHALF TREE TRUNK;bSLICE;bFANG;bCOW;bDOG
bPROFOUND;bJADE;bMELON;bTILE;bSWEET;bLIFE;bUSE;bFIELD;bBOLT OF CLOTH;bSICKNESS;bDOTTED TENT
bWHITE;bSKIN;bDISH;bEYE;bSPEAR;bARROW;bSTONE;bSPIRIT;bTRACK;bGRAIN;bCAVE;bSTAND;bBAMBOO;bRICE
bSILK;bJAR;bNET;bSHEEP;bFEATHER;bOLD;bAND;bPLOW;bEAR;bBRUSH;bMEAT;bMINISTER;bSELF;bARRIVE
bMORTAR;bTONGUE;bOPPOSE;bBOAT;bSTOPPING;bCOLOR;bGRASS;bTIGER;bINSECT;bBLOOD;bWALK ENCLOSURE
bCLOTHES;bWEST;bSEE;bHORN;bSPEECH;bVALLEY;bBEAN;bPIG;bBADGER;bSHELL;bRED;bRUN;bFOOT;bBODY;bCART
bBITTER;bMORNING;bWALK;bCITY;bWINE;bDISTINGUISH;bVILLAGE;bGOLD;bLONG;bGATE;bMOUND;bSLAVE
bSHORT TAILED BIRD;bRAIN;bBLUE;bWRONG;bFACE;bLEATHER;bTANNED+a;bLEEK;bSOUND;bLEAF;bWIND;bFLY
bEAT;bHEAD;bFRAGRANT;bHORSE;bBONE;bTALL;bHAIR;bFIGHT;bSACRIFICIAL WINE;bCAULDRON;bGHOST;bFISH
bBIRD;bSALT;bDEER;bWHEAT;bHEMP;bYELLOW;bMILLET;bBLACK;bEMBROIDERY;bFROG;bTRIPOD;bDRUM;bRAT
bNOSE;bEVEN;bTOOTH;bDRAGON;bTURTLE;bFLUTE"),
   (0x2FF0, "IDEOGRAPHIC DESCRIPTION CHARACTER LEFT TO RIGHT;cABOVE TO BELOW
cLEFT TO MIDDLE AND RIGHT;cABOVE TO MIDDLE AND BELOW;cFULL SURROUND;cSURROUND FROM ABOVE;eBELOW
eLEFT;eUPPER+a;fRIGHT;eLOWER LEFT;cOVERLAID"),
   (0x3000, "IDEOGRAPHIC SPACE;aCOMMA;aFULL STOP;DITTO MARK;JAPANESE INDUSTRIAL STANDARD SYMBOL
IDEOGRAPHIC ITERATION MARK;aCLOSING+a;aNUMBER ZERO;LEFT ANGLE BRACKET;RIGHT+b;LEFT DOUBLE+b
RIGHT+c;LEFT CORNER+a;RIGHT+b;LEFT WHITE+b;RIGHT+c;LEFT BLACK LENTICULAR+a;RIGHT+c;POSTAL MARK
GETA+a;LEFT TORTOISE SHELL BRACKET;RIGHT+c;LEFT WHITE LENTICULAR+a;RIGHT+c
LEFT WHITE TORTOISE SHELL+a;RIGHT+d;LEFT WHITE SQUARE+a;RIGHT+c;WAVE DASH
REVERSED DOUBLE PRIME QUOTATION MARK;+d;LOW+d;POSTAL MARK FACE;HANGZHOU NUMERAL ONE;bTWO;bTHREE
bFOUR;bFIVE;bSIX;bSEVEN;bEIGHT;bNINE;IDEOGRAPHIC LEVEL TONE MARK;aRISING+b;aDEPARTING+b
aENTERING+b;HANGUL SINGLE DOT+b;aDOUBLE+c;WAVY DASH;VERTICAL KANA REPEAT MARK
cWITH VOICED SOUND+a;cMARK UPPER HALF;cWITH VOICED SOUND+c;cMARK LOWER+a;CIRCLED POSTAL MARK
IDEOGRAPHIC TELEGRAPH LINE FEED SEPARATOR SYMBOL;HANGZHOU NUMERAL TEN;bTWENTY;bTHIRTY
VERTICAL IDEOGRAPHIC ITERATION MARK;MASU+a;PART ALTERNATION+a;IDEOGRAPHIC VARIATION INDICATOR
aHALF FILL SPACE"),
   (0x3041, "HIRAGANA LETTER SMALL A;bA;bSMALL I;bI;bSMALL U;bU;bSMALL E;bE;bSMALL O;bO;bKA;bGA
bKI;bGI;bKU;bGU;bKE;bGE;bKO;bGO;bSA;bZA;bSI;bZI;bSU;bZU;bSE;bZE;bSO;bZO;bTA;bDA;bTI;bDI
bSMALL TU;bTU;bDU;bTE;bDE;bTO;bDO;bNA;bNI;bNU;bNE;bNO;bHA;bBA;bPA;bHI;bBI;bPI;bHU;bBU;bPU;bHE
bBE;bPE;bHO;bBO;bPO;bMA;bMI;bMU;bME;bMO;bSMALL YA;bYA;bSMALL YU;bYU;bSMALL YO;bYO;bRA;bRI;bRU
bRE;bRO;bSMALL WA;bWA;bWI;bWE;bWO;bN;bVU;bSMALL KA;cKE"),
   (0x3099, "COMBINING KATAKANA-HIRAGANA VOICED SOUND MARK;bSEMI-VOICED+b
KATAKANA-HIRAGANA VOICED+b;aSEMI-VOICED+b;HIRAGANA ITERATION+a;aVOICED+b;aDIGRAPH YORI
KATAKANA-HIRAGANA DOUBLE HYPHEN;KATAKANA LETTER SMALL A;bA;bSMALL I;bI;bSMALL U;bU;bSMALL E;bE
bSMALL O;bO;bKA;bGA;bKI;bGI;bKU;bGU;bKE;bGE;bKO;bGO;bSA;bZA;bSI;bZI;bSU;bZU;bSE;bZE;bSO;bZO;bTA
bDA;bTI;bDI;bSMALL TU;bTU;bDU;bTE;bDE;bTO;bDO;bNA;bNI;bNU;bNE;bNO;bHA;bBA;bPA;bHI;bBI;bPI;bHU
bBU;bPU;bHE;bBE;bPE;bHO;bBO;bPO;bMA;bMI;bMU;bME;bMO;bSMALL YA;bYA;bSMALL YU;bYU;bSMALL YO;bYO
bRA;bRI;bRU;bRE;bRO;bSMALL WA;bWA;bWI;bWE;bWO;bN;bVU;bSMALL KA;cKE;bVA;bVI;bVE;bVO;aMIDDLE DOT
KATAKANA-HIRAGANA PROLONGED SOUND MARK;KATAKANA ITERATION+a;aVOICED+b;aDIGRAPH KOTO"),
   (0x3105, "BOPOMOFO LETTER B;bP;bM;bF;bD;bT;bN;bL;bG;bK;bH;bJ;bQ;bX;bZH;bCH;bSH;bR;bZ;bC;bS;bA
bO;bE;bEH;bAI;bEI;bAU;bOU;bAN;bEN;bANG;bENG;bER;bI;bU;bIU;bV;bNG;bGN;bIH;bO WITH DOT ABOVE;bNN"),
   (0x3131, "HANGUL LETTER KIYEOK;bSSANGKIYEOK;bKIYEOK-SIOS;bNIEUN;bNIEUN-CIEUC;bNIEUN-HIEUH
bTIKEUT;bSSANGTIKEUT;bRIEUL;bRIEUL-KIYEOK;bRIEUL-MIEUM;bRIEUL-PIEUP;bRIEUL-SIOS;bRIEUL-THIEUTH
bRIEUL-PHIEUPH;bRIEUL-HIEUH;bMIEUM;bPIEUP;bSSANGPIEUP;bPIEUP-SIOS;bSIOS;bSSANGSIOS;bIEUNG
bCIEUC;bSSANGCIEUC;bCHIEUCH;bKHIEUKH;bTHIEUTH;bPHIEUPH;bHIEUH;bA;bAE;bYA;bYAE;bEO;bE;bYEO;bYE
bO;bWA;bWAE;bOE;bYO;bU;bWEO;bWE;bWI;bYU;bEU;bYI;bI;aFILLER;aLETTER SSANGNIEUN;bNIEUN-TIKEUT
bNIEUN-SIOS;bNIEUN-PANSIOS;bRIEUL-KIYEOK-SIOS;bRIEUL-TIKEUT;bRIEUL-PIEUP-SIOS;bRIEUL-PANSIOS
bRIEUL-YEORINHIEUH;bMIEUM-PIEUP;bMIEUM-SIOS;bMIEUM-PANSIOS;bKAPYEOUNMIEUM;bPIEUP-KIYEOK
bPIEUP-TIKEUT;bPIEUP-SIOS-KIYEOK;bPIEUP-SIOS-TIKEUT;bPIEUP-CIEUC;bPIEUP-THIEUTH;bKAPYEOUNPIEUP
bKAPYEOUNSSANGPIEUP;bSIOS-KIYEOK;bSIOS-NIEUN;bSIOS-TIKEUT;bSIOS-PIEUP;bSIOS-CIEUC;bPANSIOS
bSSANGIEUNG;bYESIEUNG;bYESIEUNG-SIOS;bYESIEUNG-PANSIOS;bKAPYEOUNPHIEUPH;bSSANGHIEUH
bYEORINHIEUH;bYO-YA;bYO-YAE;bYO-I;bYU-YEO;bYU-YE;bYU-I;bARAEA;bARAEAE"),
   (0x3190, "IDEOGRAPHIC ANNOTATION LINKING MARK;bREVERSE+a;bONE+a;bTWO+a;bTHREE+a;bFOUR+a
bTOP+a;bMIDDLE+a;bBOTTOM+a;bFIRST+a;bSECOND+a;bTHIRD+a;bFOURTH+a;bHEAVEN+a;bEARTH+a;bMAN+a
BOPOMOFO LETTER BU;bZI;bJI;bGU;bEE;bENN;bOO;bONN;bIR;bANN;bINN;bUNN;bIM;bNGG;bAINN;bAUNN;bAM
bOM;bONG;bINNN;aFINAL LETTER P;cT;cK;cH;aLETTER GH;bLH;bZY;aFINAL LETTER G;aLETTER GW;bKW;bOE
bAH;CJK STROKE T;bWG;bXG;bBXG;bSW;bHZZ;bHZG;bHP;bHZWG;bSZWG;bHZT;bHZZP;bHPWG;bHZW;bHZZZ;bN;bH
bS;bP;bSP;bD;bHZ;bHG;bSZ;bSWZ;bST;bSG;bPD;bPZ;bTN;bSZZ;bSWG;bHXWG;bHZZZG;bPG;bQ"),
   (0x31F0, "KATAKANA LETTER SMALL KU;cSI;cSU;cTO;cNU;cHA;cHI;cHU;cHE;cHO;cMU;cRA;cRI;cRU;cRE
cRO;PARENTHESIZED HANGUL KIYEOK;bNIEUN;bTIKEUT;bRIEUL;bMIEUM;bPIEUP;bSIOS;bIEUNG;bCIEUC
bCHIEUCH;bKHIEUKH;bTHIEUTH;bPHIEUPH;bHIEUH;bKIYEOK A;bNIEUN A;bTIKEUT A;bRIEUL A;bMIEUM A
bPIEUP A;bSIOS A;bIEUNG A;bCIEUC A;bCHIEUCH A;bKHIEUKH A;bTHIEUTH A;bPHIEUPH A;bHIEUH A
bCIEUC U;aKOREAN CHARACTER OJEON;cO HU"),
   (0x3220, "PARENTHESIZED IDEOGRAPH ONE;bTWO;bTHREE;bFOUR;bFIVE;bSIX;bSEVEN;bEIGHT;bNINE;bTEN
bMOON;bFIRE;bWATER;bWOOD;bMETAL;bEARTH;bSUN;bSTOCK;bHAVE;bSOCIETY;bNAME;bSPECIAL;bFINANCIAL
bCONGRATULATION;bLABOR;bREPRESENT;bCALL;bSTUDY;bSUPERVISE;bENTERPRISE;bRESOURCE;bALLIANCE
bFESTIVAL;bREST;bSELF;bREACH;CIRCLED IDEOGRAPH QUESTION;bKINDERGARTEN;bSCHOOL;bKOTO
aNUMBER TEN ON BLACK SQUARE;bTWENTY+c;bTHIRTY+c;bFORTY+c;bFIFTY+c;bSIXTY+c;bSEVENTY+c;bEIGHTY+c
PARTNERSHIP SIGN;CIRCLED NUMBER TWENTY ONE;cTWO;cTHREE;cFOUR;cFIVE;cSIX;cSEVEN;cEIGHT;cNINE
bTHIRTY;cONE;cTWO;cTHREE;cFOUR;cFIVE;aHANGUL KIYEOK;bNIEUN;bTIKEUT;bRIEUL;bMIEUM;bPIEUP;bSIOS
bIEUNG;bCIEUC;bCHIEUCH;bKHIEUKH;bTHIEUTH;bPHIEUPH;bHIEUH;bKIYEOK A;bNIEUN A;bTIKEUT A;bRIEUL A
bMIEUM A;bPIEUP A;bSIOS A;bIEUNG A;bCIEUC A;bCHIEUCH A;bKHIEUKH A;bTHIEUTH A;bPHIEUPH A
bHIEUH A;aKOREAN CHARACTER CHAMKO;cJUEUI;aHANGUL IEUNG U;KOREAN STANDARD SYMBOL
CIRCLED IDEOGRAPH ONE;bTWO;bTHREE;bFOUR;bFIVE;bSIX;bSEVEN;bEIGHT;bNINE;bTEN;bMOON;bFIRE;bWATER
bWOOD;bMETAL;bEARTH;bSUN;bSTOCK;bHAVE;bSOCIETY;bNAME;bSPECIAL;bFINANCIAL;bCONGRATULATION;bLABOR
bSECRET;bMALE;bFEMALE;bSUITABLE;bEXCELLENT;bPRINT;bATTENTION;bITEM;bREST;bCOPY;bCORRECT;bHIGH
bCENTRE;bLOW;bLEFT;bRIGHT;bMEDICINE;bRELIGION;bSTUDY;bSUPERVISE;bENTERPRISE;bRESOURCE;bALLIANCE
bNIGHT;aNUMBER THIRTY SIX;cSEVEN;cEIGHT;cNINE;bFORTY;cONE;cTWO;cTHREE;cFOUR;cFIVE;cSIX;cSEVEN
cEIGHT;cNINE;bFIFTY;IDEOGRAPHIC TELEGRAPH SYMBOL FOR JANUARY;dFEBRUARY;dMARCH;dAPRIL;dMAY;dJUNE
dJULY;dAUGUST;dSEPTEMBER;dOCTOBER;dNOVEMBER;dDECEMBER;SQUARE HG;aERG;aEV;LIMITED LIABILITY SIGN
CIRCLED KATAKANA A;bI;bU;bE;bO;bKA;bKI;bKU;bKE;bKO;bSA;bSI;bSU;bSE;bSO;bTA;bTI;bTU;bTE;bTO;bNA
bNI;bNU;bNE;bNO;bHA;bHI;bHU;bHE;bHO;bMA;bMI;bMU;bME;bMO;bYA;bYU;bYO;bRA;bRI;bRU;bRE;bRO;bWA;bWI
bWE;bWO;SQUARE ERA NAME REIWA;aAPAATO;aARUHUA;aANPEA;aAARU;aININGU;aINTI;aUON;aESUKUUDO;aEEKAA
aONSU;aOOMU;aKAIRI;aKARATTO;aKARORII;aGARON;aGANMA;aGIGA;aGINII;aKYURII;aGIRUDAA;aKIRO
aKIROGURAMU;aKIROMEETORU;aKIROWATTO;aGURAMU;aGURAMUTON;aKURUZEIRO;aKUROONE;aKEESU;aKORUNA
aKOOPO;aSAIKURU;aSANTIIMU;aSIRINGU;aSENTI;aSENTO;aDAASU;aDESI;aDORU;aTON;aNANO;aNOTTO;aHAITU
aPAASENTO;aPAATU;aBAARERU;aPIASUTORU;aPIKURU;aPIKO;aBIRU;aHUARADDO;aHUIITO;aBUSSYERU;aHURAN
aHEKUTAARU;aPESO;aPENIHI;aHERUTU;aPENSU;aPEEZI;aBEETA;aPOINTO;aBORUTO;aHON;aPONDO;aHOORU;aHOON
aMAIKURO;aMAIRU;aMAHHA;aMARUKU;aMANSYON;aMIKURON;aMIRI;aMIRIBAARU;aMEGA;aMEGATON;aMEETORU
aYAADO;aYAARU;aYUAN;aRITTORU;aRIRA;aRUPII;aRUUBURU;aREMU;aRENTOGEN;aWATTO
IDEOGRAPHIC TELEGRAPH SYMBOL FOR HOUR ZERO;eONE;eTWO;eTHREE;eFOUR;eFIVE;eSIX;eSEVEN;eEIGHT
eNINE;eTEN;eELEVEN;eTWELVE;eTHIRTEEN;eFOURTEEN;eFIFTEEN;eSIXTEEN;eSEVENTEEN;eEIGHTEEN;eNINETEEN
eTWENTY;eTWENTY-ONE;eTWENTY-TWO;eTWENTY-THREE;eTWENTY-FOUR;SQUARE HPA;aDA;aAU;aBAR;aOV;aPC;aDM
bSQUARED;bCUBED;aIU;aERA NAME HEISEI;cSYOUWA;cTAISYOU;cMEIZI;aCORPORATION;aPA AMPS;aNA;aMU A
aMA;aKA;aKB;aMB;aGB;aCAL;aKCAL;aPF;aNF;aMU F;bG;aMG;aKG;aHZ;aKHZ;aMHZ;aGHZ;aTHZ;aMU L;aML;aDL
aKL;aFM;aNM;aMU M;aMM;aCM;aKM;aMM SQUARED;aCM+a;aM+a;aKM+a;aMM CUBED;aCM+a;aM+a;aKM+a;aM OVER S
dSQUARED;aPA;aKPA;aMPA;aGPA;aRAD;bOVER S;dSQUARED;aPS;aNS;aMU S;aMS;aPV;aNV;aMU V;aMV;aKV
aMV MEGA;aPW;aNW;aMU W;aMW;aKW;aMW MEGA;aK OHM;aM+a;aAM;aBQ;aCC;aCD;aC OVER KG;aCO;aDB;aGY;aHA
aHP;aIN;aKK;aKM CAPITAL;aKT;aLM;aLN;aLOG;aLX;aMB SMALL;aMIL;aMOL;aPH;aPM;aPPM;aPR;aSR;aSV;aWB
aV OVER M;aA+b;IDEOGRAPHIC TELEGRAPH SYMBOL FOR DAY ONE;eTWO;eTHREE;eFOUR;eFIVE;eSIX;eSEVEN
eEIGHT;eNINE;eTEN;eELEVEN;eTWELVE;eTHIRTEEN;eFOURTEEN;eFIFTEEN;eSIXTEEN;eSEVENTEEN;eEIGHTEEN
eNINETEEN;eTWENTY;eTWENTY-ONE;eTWENTY-TWO;eTWENTY-THREE;eTWENTY-FOUR;eTWENTY-FIVE;eTWENTY-SIX
eTWENTY-SEVEN;eTWENTY-EIGHT;eTWENTY-NINE;eTHIRTY;eTHIRTY-ONE;SQUARE GAL"),
   (0x4DC0, "HEXAGRAM FOR THE CREATIVE HEAVEN;cRECEPTIVE EARTH;bDIFFICULTY AT THE BEGINNING
bYOUTHFUL FOLLY;bWAITING;bCONFLICT;bTHE ARMY;bHOLDING TOGETHER;bSMALL TAMING;bTREADING;bPEACE
bSTANDSTILL;bFELLOWSHIP;bGREAT POSSESSION;bMODESTY;bENTHUSIASM;bFOLLOWING;bWORK ON THE DECAYED
bAPPROACH;bCONTEMPLATION;bBITING THROUGH;bGRACE;bSPLITTING APART;bRETURN;bINNOCENCE
bGREAT TAMING;bMOUTH CORNERS;bGREAT PREPONDERANCE;bTHE ABYSMAL WATER;cCLINGING FIRE;bINFLUENCE
bDURATION;bRETREAT;bGREAT POWER;bPROGRESS;bDARKENING OF THE LIGHT;bTHE FAMILY;bOPPOSITION
bOBSTRUCTION;bDELIVERANCE;bDECREASE;bINCREASE;bBREAKTHROUGH;bCOMING TO MEET;bGATHERING TOGETHER
bPUSHING UPWARD;bOPPRESSION;bTHE WELL;bREVOLUTION;bTHE CAULDRON;cAROUSING THUNDER
cKEEPING STILL MOUNTAIN;bDEVELOPMENT;bTHE MARRYING MAIDEN;bABUNDANCE;bTHE WANDERER;cGENTLE WIND
cJOYOUS LAKE;bDISPERSION;bLIMITATION;bINNER TRUTH;bSMALL PREPONDERANCE;bAFTER COMPLETION
bBEFORE+a"),
   (0xA000, "YI SYLLABLE IT;bIX;bI;bIP;bIET;bIEX;bIE;bIEP;bAT;bAX;bA;bAP;bUOX;bUO;bUOP;bOT;bOX
bO;bOP;bEX;bE;bWU;bBIT;bBIX;bBI;bBIP;bBIET;bBIEX;bBIE;bBIEP;bBAT;bBAX;bBA;bBAP;bBUOX;bBUO;bBUOP
bBOT;bBOX;bBO;bBOP;bBEX;bBE;bBEP;bBUT;bBUX;bBU;bBUP;bBURX;bBUR;bBYT;bBYX;bBY;bBYP;bBYRX;bBYR
bPIT;bPIX;bPI;bPIP;bPIEX;bPIE;bPIEP;bPAT;bPAX;bPA;bPAP;bPUOX;bPUO;bPUOP;bPOT;bPOX;bPO;bPOP;bPUT
bPUX;bPU;bPUP;bPURX;bPUR;bPYT;bPYX;bPY;bPYP;bPYRX;bPYR;bBBIT;bBBIX;bBBI;bBBIP;bBBIET;bBBIEX
bBBIE;bBBIEP;bBBAT;bBBAX;bBBA;bBBAP;bBBUOX;bBBUO;bBBUOP;bBBOT;bBBOX;bBBO;bBBOP;bBBEX;bBBE;bBBEP
bBBUT;bBBUX;bBBU;bBBUP;bBBURX;bBBUR;bBBYT;bBBYX;bBBY;bBBYP;bNBIT;bNBIX;bNBI;bNBIP;bNBIEX;bNBIE
bNBIEP;bNBAT;bNBAX;bNBA;bNBAP;bNBOT;bNBOX;bNBO;bNBOP;bNBUT;bNBUX;bNBU;bNBUP;bNBURX;bNBUR;bNBYT
bNBYX;bNBY;bNBYP;bNBYRX;bNBYR;bHMIT;bHMIX;bHMI;bHMIP;bHMIEX;bHMIE;bHMIEP;bHMAT;bHMAX;bHMA;bHMAP
bHMUOX;bHMUO;bHMUOP;bHMOT;bHMOX;bHMO;bHMOP;bHMUT;bHMUX;bHMU;bHMUP;bHMURX;bHMUR;bHMYX;bHMY;bHMYP
bHMYRX;bHMYR;bMIT;bMIX;bMI;bMIP;bMIEX;bMIE;bMIEP;bMAT;bMAX;bMA;bMAP;bMUOT;bMUOX;bMUO;bMUOP;bMOT
bMOX;bMO;bMOP;bMEX;bME;bMUT;bMUX;bMU;bMUP;bMURX;bMUR;bMYT;bMYX;bMY;bMYP;bFIT;bFIX;bFI;bFIP;bFAT
bFAX;bFA;bFAP;bFOX;bFO;bFOP;bFUT;bFUX;bFU;bFUP;bFURX;bFUR;bFYT;bFYX;bFY;bFYP;bVIT;bVIX;bVI;bVIP
bVIET;bVIEX;bVIE;bVIEP;bVAT;bVAX;bVA;bVAP;bVOT;bVOX;bVO;bVOP;bVEX;bVEP;bVUT;bVUX;bVU;bVUP;bVURX
bVUR;bVYT;bVYX;bVY;bVYP;bVYRX;bVYR;bDIT;bDIX;bDI;bDIP;bDIEX;bDIE;bDIEP;bDAT;bDAX;bDA;bDAP;bDUOX
bDUO;bDOT;bDOX;bDO;bDOP;bDEX;bDE;bDEP;bDUT;bDUX;bDU;bDUP;bDURX;bDUR;bTIT;bTIX;bTI;bTIP;bTIEX
bTIE;bTIEP;bTAT;bTAX;bTA;bTAP;bTUOT;bTUOX;bTUO;bTUOP;bTOT;bTOX;bTO;bTOP;bTEX;bTE;bTEP;bTUT;bTUX
bTU;bTUP;bTURX;bTUR;bDDIT;bDDIX;bDDI;bDDIP;bDDIEX;bDDIE;bDDIEP;bDDAT;bDDAX;bDDA;bDDAP;bDDUOX
bDDUO;bDDUOP;bDDOT;bDDOX;bDDO;bDDOP;bDDEX;bDDE;bDDEP;bDDUT;bDDUX;bDDU;bDDUP;bDDURX;bDDUR;bNDIT
bNDIX;bNDI;bNDIP;bNDIEX;bNDIE;bNDAT;bNDAX;bNDA;bNDAP;bNDOT;bNDOX;bNDO;bNDOP;bNDEX;bNDE;bNDEP
bNDUT;bNDUX;bNDU;bNDUP;bNDURX;bNDUR;bHNIT;bHNIX;bHNI;bHNIP;bHNIET;bHNIEX;bHNIE;bHNIEP;bHNAT
bHNAX;bHNA;bHNAP;bHNUOX;bHNUO;bHNOT;bHNOX;bHNOP;bHNEX;bHNE;bHNEP;bHNUT;bNIT;bNIX;bNI;bNIP;bNIEX
bNIE;bNIEP;bNAX;bNA;bNAP;bNUOX;bNUO;bNUOP;bNOT;bNOX;bNO;bNOP;bNEX;bNE;bNEP;bNUT;bNUX;bNU;bNUP
bNURX;bNUR;bHLIT;bHLIX;bHLI;bHLIP;bHLIEX;bHLIE;bHLIEP;bHLAT;bHLAX;bHLA;bHLAP;bHLUOX;bHLUO
bHLUOP;bHLOX;bHLO;bHLOP;bHLEX;bHLE;bHLEP;bHLUT;bHLUX;bHLU;bHLUP;bHLURX;bHLUR;bHLYT;bHLYX;bHLY
bHLYP;bHLYRX;bHLYR;bLIT;bLIX;bLI;bLIP;bLIET;bLIEX;bLIE;bLIEP;bLAT;bLAX;bLA;bLAP;bLUOT;bLUOX
bLUO;bLUOP;bLOT;bLOX;bLO;bLOP;bLEX;bLE;bLEP;bLUT;bLUX;bLU;bLUP;bLURX;bLUR;bLYT;bLYX;bLY;bLYP
bLYRX;bLYR;bGIT;bGIX;bGI;bGIP;bGIET;bGIEX;bGIE;bGIEP;bGAT;bGAX;bGA;bGAP;bGUOT;bGUOX;bGUO;bGUOP
bGOT;bGOX;bGO;bGOP;bGET;bGEX;bGE;bGEP;bGUT;bGUX;bGU;bGUP;bGURX;bGUR;bKIT;bKIX;bKI;bKIP;bKIEX
bKIE;bKIEP;bKAT;bKAX;bKA;bKAP;bKUOX;bKUO;bKUOP;bKOT;bKOX;bKO;bKOP;bKET;bKEX;bKE;bKEP;bKUT;bKUX
bKU;bKUP;bKURX;bKUR;bGGIT;bGGIX;bGGI;bGGIEX;bGGIE;bGGIEP;bGGAT;bGGAX;bGGA;bGGAP;bGGUOT;bGGUOX
bGGUO;bGGUOP;bGGOT;bGGOX;bGGO;bGGOP;bGGET;bGGEX;bGGE;bGGEP;bGGUT;bGGUX;bGGU;bGGUP;bGGURX;bGGUR
bMGIEX;bMGIE;bMGAT;bMGAX;bMGA;bMGAP;bMGUOX;bMGUO;bMGUOP;bMGOT;bMGOX;bMGO;bMGOP;bMGEX;bMGE;bMGEP
bMGUT;bMGUX;bMGU;bMGUP;bMGURX;bMGUR;bHXIT;bHXIX;bHXI;bHXIP;bHXIET;bHXIEX;bHXIE;bHXIEP;bHXAT
bHXAX;bHXA;bHXAP;bHXUOT;bHXUOX;bHXUO;bHXUOP;bHXOT;bHXOX;bHXO;bHXOP;bHXEX;bHXE;bHXEP;bNGIEX
bNGIE;bNGIEP;bNGAT;bNGAX;bNGA;bNGAP;bNGUOT;bNGUOX;bNGUO;bNGOT;bNGOX;bNGO;bNGOP;bNGEX;bNGE;bNGEP
bHIT;bHIEX;bHIE;bHAT;bHAX;bHA;bHAP;bHUOT;bHUOX;bHUO;bHUOP;bHOT;bHOX;bHO;bHOP;bHEX;bHE;bHEP;bWAT
bWAX;bWA;bWAP;bWUOX;bWUO;bWUOP;bWOX;bWO;bWOP;bWEX;bWE;bWEP;bZIT;bZIX;bZI;bZIP;bZIEX;bZIE;bZIEP
bZAT;bZAX;bZA;bZAP;bZUOX;bZUO;bZUOP;bZOT;bZOX;bZO;bZOP;bZEX;bZE;bZEP;bZUT;bZUX;bZU;bZUP;bZURX
bZUR;bZYT;bZYX;bZY;bZYP;bZYRX;bZYR;bCIT;bCIX;bCI;bCIP;bCIET;bCIEX;bCIE;bCIEP;bCAT;bCAX;bCA;bCAP
bCUOX;bCUO;bCUOP;bCOT;bCOX;bCO;bCOP;bCEX;bCE;bCEP;bCUT;bCUX;bCU;bCUP;bCURX;bCUR;bCYT;bCYX;bCY
bCYP;bCYRX;bCYR;bZZIT;bZZIX;bZZI;bZZIP;bZZIET;bZZIEX;bZZIE;bZZIEP;bZZAT;bZZAX;bZZA;bZZAP;bZZOX
bZZO;bZZOP;bZZEX;bZZE;bZZEP;bZZUX;bZZU;bZZUP;bZZURX;bZZUR;bZZYT;bZZYX;bZZY;bZZYP;bZZYRX;bZZYR
bNZIT;bNZIX;bNZI;bNZIP;bNZIEX;bNZIE;bNZIEP;bNZAT;bNZAX;bNZA;bNZAP;bNZUOX;bNZUO;bNZOX;bNZOP
bNZEX;bNZE;bNZUX;bNZU;bNZUP;bNZURX;bNZUR;bNZYT;bNZYX;bNZY;bNZYP;bNZYRX;bNZYR;bSIT;bSIX;bSI;bSIP
bSIEX;bSIE;bSIEP;bSAT;bSAX;bSA;bSAP;bSUOX;bSUO;bSUOP;bSOT;bSOX;bSO;bSOP;bSEX;bSE;bSEP;bSUT;bSUX
bSU;bSUP;bSURX;bSUR;bSYT;bSYX;bSY;bSYP;bSYRX;bSYR;bSSIT;bSSIX;bSSI;bSSIP;bSSIEX;bSSIE;bSSIEP
bSSAT;bSSAX;bSSA;bSSAP;bSSOT;bSSOX;bSSO;bSSOP;bSSEX;bSSE;bSSEP;bSSUT;bSSUX;bSSU;bSSUP;bSSYT
bSSYX;bSSY;bSSYP;bSSYRX;bSSYR;bZHAT;bZHAX;bZHA;bZHAP;bZHUOX;bZHUO;bZHUOP;bZHOT;bZHOX;bZHO;bZHOP
bZHET;bZHEX;bZHE;bZHEP;bZHUT;bZHUX;bZHU;bZHUP;bZHURX;bZHUR;bZHYT;bZHYX;bZHY;bZHYP;bZHYRX;bZHYR
bCHAT;bCHAX;bCHA;bCHAP;bCHUOT;bCHUOX;bCHUO;bCHUOP;bCHOT;bCHOX;bCHO;bCHOP;bCHET;bCHEX;bCHE;bCHEP
bCHUX;bCHU;bCHUP;bCHURX;bCHUR;bCHYT;bCHYX;bCHY;bCHYP;bCHYRX;bCHYR;bRRAX;bRRA;bRRUOX;bRRUO;bRROT
bRROX;bRRO;bRROP;bRRET;bRREX;bRRE;bRREP;bRRUT;bRRUX;bRRU;bRRUP;bRRURX;bRRUR;bRRYT;bRRYX;bRRY
bRRYP;bRRYRX;bRRYR;bNRAT;bNRAX;bNRA;bNRAP;bNROX;bNRO;bNROP;bNRET;bNREX;bNRE;bNREP;bNRUT;bNRUX
bNRU;bNRUP;bNRURX;bNRUR;bNRYT;bNRYX;bNRY;bNRYP;bNRYRX;bNRYR;bSHAT;bSHAX;bSHA;bSHAP;bSHUOX;bSHUO
bSHUOP;bSHOT;bSHOX;bSHO;bSHOP;bSHET;bSHEX;bSHE;bSHEP;bSHUT;bSHUX;bSHU;bSHUP;bSHURX;bSHUR;bSHYT
bSHYX;bSHY;bSHYP;bSHYRX;bSHYR;bRAT;bRAX;bRA;bRAP;bRUOX;bRUO;bRUOP;bROT;bROX;bRO;bROP;bREX;bRE
bREP;bRUT;bRUX;bRU;bRUP;bRURX;bRUR;bRYT;bRYX;bRY;bRYP;bRYRX;bRYR;bJIT;bJIX;bJI;bJIP;bJIET;bJIEX
bJIE;bJIEP;bJUOT;bJUOX;bJUO;bJUOP;bJOT;bJOX;bJO;bJOP;bJUT;bJUX;bJU;bJUP;bJURX;bJUR;bJYT;bJYX
bJY;bJYP;bJYRX;bJYR;bQIT;bQIX;bQI;bQIP;bQIET;bQIEX;bQIE;bQIEP;bQUOT;bQUOX;bQUO;bQUOP;bQOT;bQOX
bQO;bQOP;bQUT;bQUX;bQU;bQUP;bQURX;bQUR;bQYT;bQYX;bQY;bQYP;bQYRX;bQYR;bJJIT;bJJIX;bJJI;bJJIP
bJJIET;bJJIEX;bJJIE;bJJIEP;bJJUOX;bJJUO;bJJUOP;bJJOT;bJJOX;bJJO;bJJOP;bJJUT;bJJUX;bJJU;bJJUP
bJJURX;bJJUR;bJJYT;bJJYX;bJJY;bJJYP;bNJIT;bNJIX;bNJI;bNJIP;bNJIET;bNJIEX;bNJIE;bNJIEP;bNJUOX
bNJUO;bNJOT;bNJOX;bNJO;bNJOP;bNJUX;bNJU;bNJUP;bNJURX;bNJUR;bNJYT;bNJYX;bNJY;bNJYP;bNJYRX;bNJYR
bNYIT;bNYIX;bNYI;bNYIP;bNYIET;bNYIEX;bNYIE;bNYIEP;bNYUOX;bNYUO;bNYUOP;bNYOT;bNYOX;bNYO;bNYOP
bNYUT;bNYUX;bNYU;bNYUP;bXIT;bXIX;bXI;bXIP;bXIET;bXIEX;bXIE;bXIEP;bXUOX;bXUO;bXOT;bXOX;bXO;bXOP
bXYT;bXYX;bXY;bXYP;bXYRX;bXYR;bYIT;bYIX;bYI;bYIP;bYIET;bYIEX;bYIE;bYIEP;bYUOT;bYUOX;bYUO;bYUOP
bYOT;bYOX;bYO;bYOP;bYUT;bYUX;bYU;bYUP;bYURX;bYUR;bYYT;bYYX;bYY;bYYP;bYYRX;bYYR"),
   (0xA490, "YI RADICAL QOT;bLI;bKIT;bNYIP;bCYP;bSSI;bGGOP;bGEP;bMI;bHXIT;bLYR;bBBUT;bMOP;bYO
bPUT;bHXUO;bTAT;bGA;bZUP;bCYT;bDDUR;bBUR;bGGUO;bNYOP;bTU;bOP;bJJUT;bZOT;bPYT;bHMO;bYIT;bVUR
bSHY;bVEP;bZA;bJO;bNZUP;bJJY;bGOT;bJJIE;bWO;bDU;bSHUR;bLIE;bCY;bCUOP;bCIP;bHXOP;bSHAT;bZUR
bSHOP;bCHE;bZZIET;bNBIE;bKE"),
   (0xA4D0, "LISU LETTER BA;bPA;bPHA;bDA;bTA;bTHA;bGA;bKA;bKHA;bJA;bCA;bCHA;bDZA;bTSA;bTSHA;bMA
bNA;bLA;bSA;bZHA;bZA;bNGA;bHA;bXA;bHHA;bFA;bWA;bSHA;bYA;bGHA;bA;bAE;bE;bEU;bI;bO;bU;bUE;bUH;bOE
bTONE MYA TI;cNA PO;cMYA CYA;dBO;dNA;dJEU;aPUNCTUATION COMMA;bFULL STOP;VAI SYLLABLE EE;bEEN
bHEE;bWEE;bWEEN;bPEE;bBHEE;bBEE;bMBEE;bKPEE;bMGBEE;bGBEE;bFEE;bVEE;bTEE;bTHEE;bDHEE;bDHHEE;bLEE
bREE;bDEE;bNDEE;bSEE;bSHEE;bZEE;bZHEE;bCEE;bJEE;bNJEE;bYEE;bKEE;bNGGEE;bGEE;bMEE;bNEE;bNYEE;bI
bIN;bHI;bHIN;bWI;bWIN;bPI;bBHI;bBI;bMBI;bKPI;bMGBI;bGBI;bFI;bVI;bTI;bTHI;bDHI;bDHHI;bLI;bRI;bDI
bNDI;bSI;bSHI;bZI;bZHI;bCI;bJI;bNJI;bYI;bKI;bNGGI;bGI;bMI;bNI;bNYI;bA;bAN;bNGAN;bHA;bHAN;bWA
bWAN;bPA;bBHA;bBA;bMBA;bKPA;bKPAN;bMGBA;bGBA;bFA;bVA;bTA;bTHA;bDHA;bDHHA;bLA;bRA;bDA;bNDA;bSA
bSHA;bZA;bZHA;bCA;bJA;bNJA;bYA;bKA;bKAN;bNGGA;bGA;bMA;bNA;bNYA;bOO;bOON;bHOO;bWOO;bWOON;bPOO
bBHOO;bBOO;bMBOO;bKPOO;bMGBOO;bGBOO;bFOO;bVOO;bTOO;bTHOO;bDHOO;bDHHOO;bLOO;bROO;bDOO;bNDOO;bSOO
bSHOO;bZOO;bZHOO;bCOO;bJOO;bNJOO;bYOO;bKOO;bNGGOO;bGOO;bMOO;bNOO;bNYOO;bU;bUN;bHU;bHUN;bWU;bWUN
bPU;bBHU;bBU;bMBU;bKPU;bMGBU;bGBU;bFU;bVU;bTU;bTHU;bDHU;bDHHU;bLU;bRU;bDU;bNDU;bSU;bSHU;bZU
bZHU;bCU;bJU;bNJU;bYU;bKU;bNGGU;bGU;bMU;bNU;bNYU;bO;bON;bNGON;bHO;bHON;bWO;bWON;bPO;bBHO;bBO
bMBO;bKPO;bMGBO;bGBO;bGBON;bFO;bVO;bTO;bTHO;bDHO;bDHHO;bLO;bRO;bDO;bNDO;bSO;bSHO;bZO;bZHO;bCO
bJO;bNJO;bYO;bKO;bNGGO;bGO;bMO;bNO;bNYO;bE;bEN;bNGEN;bHE;bHEN;bWE;bWEN;bPE;bBHE;bBE;bMBE;bKPE
bKPEN;bMGBE;bGBE;bGBEN;bFE;bVE;bTE;bTHE;bDHE;bDHHE;bLE;bRE;bDE;bNDE;bSE;bSHE;bZE;bZHE;bCE;bJE
bNJE;bYE;bKE;bNGGE;bNGGEN;bGE;bGEN;bME;bNE;bNYE;bNG;bLENGTHENER;aCOMMA;aFULL STOP
aQUESTION MARK;aSYLLABLE NDOLE FA;cKA;cSOO;aSYMBOL FEENG;bKEENG;bTING;bNII;bBANG;bFAA;bTAA
bDANG;bDOONG;bKUNG;bTONG;bDO-O;bJONG;aDIGIT ZERO;bONE;bTWO;bTHREE;bFOUR;bFIVE;bSIX;bSEVEN
bEIGHT;bNINE;aSYLLABLE NDOLE MA;cDO"),
   (0xA640, "CYRILLIC CAPITAL LETTER ZEMLYA;aSMALL+b;aCAPITAL LETTER DZELO;aSMALL+b
aCAPITAL LETTER REVERSED DZE;aSMALL+c;aCAPITAL LETTER IOTA;aSMALL+b;aCAPITAL LETTER DJERV
aSMALL+b;aCAPITAL LETTER MONOGRAPH UK;aSMALL+c;aCAPITAL LETTER BROAD OMEGA;aSMALL+c
aCAPITAL LETTER NEUTRAL YER;aSMALL+c;aCAPITAL LETTER YERU WITH BACK+a;aSMALL+e
aCAPITAL LETTER IOTIFIED YAT;aSMALL+c;aCAPITAL LETTER REVERSED YU;aSMALL+c
aCAPITAL LETTER IOTIFIED A;aSMALL+c;aCAPITAL LETTER CLOSED LITTLE YUS;aSMALL+d
aCAPITAL LETTER BLENDED+a;aSMALL+c;aCAPITAL LETTER IOTIFIED CLOSED LITTLE+a;aSMALL+e
aCAPITAL LETTER YN;aSMALL+b;aCAPITAL LETTER REVERSED TSE;aSMALL+c;aCAPITAL LETTER SOFT DE
aSMALL+c;aCAPITAL LETTER SOFT EL;aSMALL+c;aCAPITAL LETTER SOFT EM;aSMALL+c
aCAPITAL LETTER MONOCULAR O;aSMALL+c;aCAPITAL LETTER BINOCULAR O;aSMALL+c
aCAPITAL LETTER DOUBLE MONOCULAR O;aSMALL+d;aLETTER MULTIOCULAR O;COMBINING CYRILLIC VZMET
bTEN MILLIONS SIGN;bHUNDRED+b;bTHOUSAND+b;SLAVONIC ASTERISK
COMBINING CYRILLIC LETTER UKRAINIAN IE;cI;cYI;cU;cHARD SIGN;cYERU;cSOFT SIGN;cOMEGA;bKAVYKA
bPAYEROK;CYRILLIC KAVYKA;aPAYEROK;aCAPITAL LETTER DWE;aSMALL+b;aCAPITAL LETTER DZWE;aSMALL+b
aCAPITAL LETTER ZHWE;aSMALL+b;aCAPITAL LETTER CCHE;aSMALL+b;aCAPITAL LETTER DZZE;aSMALL+b
aCAPITAL LETTER TE WITH MIDDLE HOOK;aSMALL+e;aCAPITAL LETTER TWE;aSMALL+b;aCAPITAL LETTER TSWE
aSMALL+b;aCAPITAL LETTER TSSE;aSMALL+b;aCAPITAL LETTER TCHE;aSMALL+b;aCAPITAL LETTER HWE
aSMALL+b;aCAPITAL LETTER SHWE;aSMALL+b;aCAPITAL LETTER DOUBLE O;aSMALL+c
aCAPITAL LETTER CROSSED O;aSMALL+c;MODIFIER LETTER CYRILLIC HARD SIGN;cSOFT+a
COMBINING CYRILLIC LETTER EF;cIOTIFIED E;BAMUM LETTER A;bKA;bU;bKU;bEE;bREE;bTAE;bO;bNYI;bI;bLA
bPA;bRII;bRIEE;bLEEEE;bMEEEE;bTAA;bNDAA;bNJAEM;bM;bSUU;bMU;bSHII;bSI;bSHEUX;bSEUX;bKYEE;bKET
bNUAE;bNU;bNJUAE;bYOQ;bSHU;bYUQ;bYA;bNSHA;bKEUX;bPEUX;bNJEE;bNTEE;bPUE;bWUE;bPEE;bFEE;bRU;bLU
bMI;bNI;bREUX;bRAE;bKEN;bNGKWAEN;bNGGA;bNGA;bSHO;bPUAE;bFU;bFOM;bWA;bNA;bLI;bPI;bLOQ;bKO;bMBEN
bREN;bMEN;bMA;bTI;bKI;bMO;bMBAA;bTET;bKPA;bTEN;bNTUU;bSAMBA;bFAAMAE;bKOVUU;bKOGHOM
aCOMBINING MARK KOQNDON;cTUKWENTIS;aNJAEMLI;aFULL STOP;aCOLON;aCOMMA;aSEMICOLON;aQUESTION MARK"),
   (0xA700, "MODIFIER LETTER CHINESE TONE YIN PING;dYANG+a;dYIN SHANG;dYANG+a;dYIN QU;dYANG+a
dYIN RU;dYANG+a;bEXTRA-HIGH DOTTED TONE BAR;bHIGH+c;bMID+c;bLOW+c;bEXTRA-LOW+c
bEXTRA-HIGH DOTTED LEFT-STEM+b;bHIGH+d;bMID+d;bLOW+d;bEXTRA-LOW+d;bEXTRA-HIGH+c;bHIGH+c;bMID+c
bLOW+c;bEXTRA-LOW+c;bDOT VERTICAL+a;cSLASH;cHORIZONTAL BAR;bLOWER RIGHT CORNER ANGLE
bRAISED UP ARROW;cDOWN+a;cEXCLAMATION MARK;cINVERTED+b;bLOW+c;bSTRESS AND HIGH TONE;dLOW+a
LATIN CAPITAL LETTER EGYPTOLOGICAL ALEF;aSMALL+c;aCAPITAL LETTER EGYPTOLOGICAL AIN;aSMALL+c
aCAPITAL LETTER HENG;aSMALL+b;aCAPITAL LETTER TZ;aSMALL+b;aCAPITAL LETTER TRESILLO;aSMALL+b
aCAPITAL LETTER CUATRILLO;aSMALL+b;aCAPITAL LETTER CUATRILLO WITH COMMA;aSMALL+d
aLETTER SMALL CAPITAL F;dS;aCAPITAL LETTER AA;aSMALL+b;aCAPITAL LETTER AO;aSMALL+b
aCAPITAL LETTER AU;aSMALL+b;aCAPITAL LETTER AV;aSMALL+b;aCAPITAL LETTER AV WITH HORIZONTAL BAR
aSMALL+e;aCAPITAL LETTER AY;aSMALL+b;aCAPITAL LETTER REVERSED C WITH DOT;aSMALL+e
aCAPITAL LETTER K WITH STROKE;aSMALL+d;aCAPITAL LETTER K WITH DIAGONAL+a;aSMALL+e
aCAPITAL LETTER K WITH STROKE AND+b;aSMALL+g;aCAPITAL LETTER BROKEN L;aSMALL+c
aCAPITAL LETTER L WITH HIGH STROKE;aSMALL+e;aCAPITAL LETTER O WITH LONG STROKE OVERLAY;aSMALL+f
aCAPITAL LETTER O WITH LOOP;aSMALL+d;aCAPITAL LETTER OO;aSMALL+b
aCAPITAL LETTER P WITH STROKE THROUGH DESCENDER;aSMALL+f;aCAPITAL LETTER P WITH FLOURISH
aSMALL+d;aCAPITAL LETTER P WITH SQUIRREL TAIL;aSMALL+e
aCAPITAL LETTER Q WITH STROKE THROUGH DESCENDER;aSMALL+f;aCAPITAL LETTER Q WITH DIAGONAL STROKE
aSMALL+e;aCAPITAL LETTER R ROTUNDA;aSMALL+c;aCAPITAL LETTER RUM+a;aSMALL+c
aCAPITAL LETTER V WITH DIAGONAL STROKE;aSMALL+e;aCAPITAL LETTER VY;aSMALL+b
aCAPITAL LETTER VISIGOTHIC Z;aSMALL+c;aCAPITAL LETTER THORN WITH STROKE;aSMALL+d
aCAPITAL LETTER THORN WITH STROKE THROUGH DESCENDER;aSMALL+f;aCAPITAL LETTER VEND;aSMALL+b
aCAPITAL LETTER ET;aSMALL+b;aCAPITAL LETTER IS;aSMALL+b;aCAPITAL LETTER CON;aSMALL+b
MODIFIER LETTER US;LATIN SMALL LETTER DUM;cLUM;cMUM;cNUM;cRUM;aLETTER SMALL CAPITAL+a
aSMALL LETTER TUM;cUM;aCAPITAL LETTER INSULAR D;aSMALL+c;aCAPITAL LETTER INSULAR F;aSMALL+c
aCAPITAL LETTER INSULAR G;cTURNED+b;aSMALL+d;aCAPITAL LETTER TURNED L;aSMALL+c
aCAPITAL LETTER INSULAR R;aSMALL+c;aCAPITAL LETTER INSULAR S;aSMALL+c;aCAPITAL LETTER INSULAR T
aSMALL+c;MODIFIER LETTER LOW CIRCUMFLEX ACCENT;bCOLON;bSHORT EQUALS SIGN
LATIN CAPITAL LETTER SALTILLO;aSMALL+b;aCAPITAL LETTER TURNED H
aSMALL LETTER L WITH RETROFLEX HOOK AND BELT;aLETTER SINOLOGICAL DOT
aCAPITAL LETTER N WITH DESCENDER;aSMALL+d;aCAPITAL LETTER C WITH BAR;aSMALL+d;ePALATAL HOOK
cH+c;aCAPITAL LETTER B WITH FLOURISH;aSMALL+d;aCAPITAL LETTER F WITH STROKE;aSMALL+d
aCAPITAL LETTER VOLAPUK AE;aSMALL+c;aCAPITAL LETTER VOLAPUK OE;aSMALL+c
aCAPITAL LETTER VOLAPUK UE;aSMALL+c;aCAPITAL LETTER G WITH OBLIQUE STROKE;aSMALL+e
aCAPITAL LETTER K+c;aSMALL+e;aCAPITAL LETTER N+c;aSMALL+e;aCAPITAL LETTER R+c;aSMALL+e
aCAPITAL LETTER S+c;aSMALL+e;aCAPITAL LETTER H WITH HOOK;cREVERSED OPEN E;cSCRIPT G
cL WITH BELT;cSMALL CAPITAL I;aLETTER SMALL CAPITAL Q;aCAPITAL LETTER TURNED K;dT
cJ WITH CROSSED-TAIL;cCHI;cBETA;aSMALL+b;aCAPITAL LETTER OMEGA;aSMALL+b
aCAPITAL LETTER U WITH STROKE;aSMALL+d;aCAPITAL LETTER GLOTTAL A;aSMALL+c
aCAPITAL LETTER GLOTTAL I;aSMALL+c;aCAPITAL LETTER GLOTTAL U;aSMALL+c
aCAPITAL LETTER OLD POLISH O;aSMALL+d;aCAPITAL LETTER ANGLICANA W;aSMALL+c
aCAPITAL LETTER C WITH PALATAL HOOK;cS WITH+a;cZ WITH PALATAL+a;cD WITH SHORT STROKE OVERLAY
aSMALL+f;aCAPITAL LETTER S+d;aSMALL+f"),
   (0xA7D0, "LATIN CAPITAL LETTER CLOSED INSULAR G;aSMALL+d"),
   (0xA7D3, "LATIN SMALL LETTER DOUBLE THORN"),
   (0xA7D5, "LATIN SMALL LETTER DOUBLE WYNN;aCAPITAL LETTER MIDDLE SCOTS S;aSMALL+d
aCAPITAL LETTER SIGMOID S;aSMALL+c"),
   (0xA7F2, "MODIFIER LETTER CAPITAL C;cF;cQ;LATIN CAPITAL LETTER REVERSED HALF H;aSMALL+d
aEPIGRAPHIC LETTER SIDEWAYS I;MODIFIER LETTER CAPITAL H WITH STROKE;bSMALL LIGATURE OE
LATIN LETTER SMALL CAPITAL TURNED M;aEPIGRAPHIC LETTER REVERSED F;dP;cINVERTED M;cI LONGA
cARCHAIC M;SYLOTI NAGRI LETTER A;cI;bSIGN DVISVARA;bLETTER U;cE;cO;bSIGN HASANTA;bLETTER KO
cKHO;cGO;cGHO;bSIGN ANUSVARA;bLETTER CO;cCHO;cJO;cJHO;cTTO;cTTHO;cDDO;cDDHO;cTO;cTHO;cDO;cDHO
cNO;cPO;cPHO;cBO;cBHO;cMO;cRO;cLO;cRRO;cSO;cHO;bVOWEL SIGN A;dI;dU;dE;dOO;bPOETRY MARK-1
cMARK-2;cMARK-3;cMARK-4;bSIGN ALTERNATE HASANTA"),
   (0xA830, "NORTH INDIC FRACTION ONE QUARTER;dHALF;cTHREE QUARTERS;cONE SIXTEENTH;dEIGHTH
cTHREE SIXTEENTHS;bQUARTER MARK;bPLACEHOLDER+a;bRUPEE+a;bQUANTITY+a"),
   (0xA840, "PHAGS-PA LETTER KA;bKHA;bGA;bNGA;bCA;bCHA;bJA;bNYA;bTA;bTHA;bDA;bNA;bPA;bPHA;bBA
bMA;bTSA;bTSHA;bDZA;bWA;bZHA;bZA;bSMALL A;bYA;bRA;bLA;bSHA;bSA;bHA;bA;bI;bU;bE;bO;bQA;bXA;bFA
bGGA;bEE;aSUBJOINED LETTER WA;cYA;aLETTER TTA;bTTHA;bDDA;bNNA;bALTERNATE YA;bVOICELESS SHA
bVOICED HA;bASPIRATED FA;aSUBJOINED LETTER RA;aSUPERFIXED+b;aLETTER CANDRABINDU
aSINGLE HEAD MARK;aDOUBLE+b;aMARK SHAD;bDOUBLE+a"),
   (0xA880, "SAURASHTRA SIGN ANUSVARA;bVISARGA;aLETTER A;bAA;bI;bII;bU;bUU;bVOCALIC R;cRR;cL;cLL
bE;bEE;bAI;bO;bOO;bAU;bKA;bKHA;bGA;bGHA;bNGA;bCA;bCHA;bJA;bJHA;bNYA;bTTA;bTTHA;bDDA;bDDHA;bNNA
bTA;bTHA;bDA;bDHA;bNA;bPA;bPHA;bBA;bBHA;bMA;bYA;bRA;bLA;bVA;bSHA;bSSA;bSA;bHA;bLLA
aCONSONANT SIGN HAARU;aVOWEL SIGN AA;cI;cII;cU;cUU;cVOCALIC R;dRR;dL;dLL;cE;cEE;cAI;cO;cOO;cAU
aSIGN VIRAMA;bCANDRABINDU"),
   (0xA8CE, "SAURASHTRA DANDA;aDOUBLE+a;aDIGIT ZERO;bONE;bTWO;bTHREE;bFOUR;bFIVE;bSIX;bSEVEN
bEIGHT;bNINE"),
   (0xA8E0, "COMBINING DEVANAGARI DIGIT ZERO;cONE;cTWO;cTHREE;cFOUR;cFIVE;cSIX;cSEVEN;cEIGHT
cNINE;bLETTER A;cU;cKA;cNA;cPA;cRA;cVI;bSIGN AVAGRAHA;DEVANAGARI SIGN SPACING CANDRABINDU
bCANDRABINDU VIRAMA;bDOUBLE+b;bCANDRABINDU TWO;cTHREE;cAVAGRAHA;bPUSHPIKA;aGAP FILLER;aCARET
aHEADSTROKE;aSIGN SIDDHAM;aJAIN OM;aLETTER AY;aVOWEL SIGN+a;KAYAH LI DIGIT ZERO;cONE;cTWO
cTHREE;cFOUR;cFIVE;cSIX;cSEVEN;cEIGHT;cNINE;bLETTER KA;cKHA;cGA;cNGA;cSA;cSHA;cZA;cNYA;cTA;cHTA
cNA;cPA;cPHA;cMA;cDA;cBA;cRA;cYA;cLA;cWA;cTHA;cHA;cVA;cCA;cA;cOE;cI;cOO;bVOWEL UE;cE;cU;cEE;cO
bTONE PLOPHU;cCALYA;dPLOPHU;bSIGN CWI;cSHYA;REJANG LETTER KA;bGA;bNGA;bTA;bDA;bNA;bPA;bBA;bMA
bCA;bJA;bNYA;bSA;bRA;bLA;bYA;bWA;bHA;bMBA;bNGGA;bNDA;bNYJA;bA;aVOWEL SIGN I;cU;cE;cAI;cO;cAU
cEU;cEA;aCONSONANT SIGN NG;cN;cR;cH;aVIRAMA"),
   (0xA95F, "REJANG SECTION MARK;HANGUL CHOSEONG TIKEUT-MIEUM;bTIKEUT-PIEUP;bTIKEUT-SIOS
bTIKEUT-CIEUC;bRIEUL-KIYEOK;bRIEUL-SSANGKIYEOK;bRIEUL-TIKEUT;bRIEUL-SSANGTIKEUT;bRIEUL-MIEUM
bRIEUL-PIEUP;bRIEUL-SSANGPIEUP;bRIEUL-KAPYEOUNPIEUP;bRIEUL-SIOS;bRIEUL-CIEUC;bRIEUL-KHIEUKH
bMIEUM-KIYEOK;bMIEUM-TIKEUT;bMIEUM-SIOS;bPIEUP-SIOS-THIEUTH;bPIEUP-KHIEUKH;bPIEUP-HIEUH
bSSANGSIOS-PIEUP;bIEUNG-RIEUL;bIEUNG-HIEUH;bSSANGCIEUC-HIEUH;bSSANGTHIEUTH;bPHIEUPH-HIEUH
bHIEUH-SIOS;bSSANGYEORINHIEUH"),
   (0xA980, "JAVANESE SIGN PANYANGGA;bCECAK;bLAYAR;bWIGNYAN;aLETTER A;bI KAWI;c;bII;bU;bPA CEREK
bNGA LELET;dRASWADI;bE;bAI;bO;bKA;cSASAK;cMURDA;bGA;cMURDA;bNGA;bCA;cMURDA;bJA;bNYA MURDA
bJA MAHAPRANA;bNYA;bTTA;cMAHAPRANA;bDDA;cMAHAPRANA;bNA MURDA;bTA;cMURDA;bDA;cMAHAPRANA;bNA;bPA
cMURDA;bBA;cMURDA;bMA;bYA;bRA;cAGUNG;bLA;bWA;bSA MURDA;cMAHAPRANA;c;bHA;aSIGN CECAK TELU
aVOWEL SIGN TARUNG;cTOLONG;cWULU;dMELIK;cSUKU;dMENDUT;cTALING;cDIRGA MURE;cPEPET
aCONSONANT SIGN KERET;cPENGKAL;cCAKRA;aPANGKON;aLEFT RERENGGAN;aRIGHT+a;aPADA ANDAP;bMADYA
bLUHUR;bWINDU;bPANGKAT;bLINGSA;bLUNGSI;bADEG;cADEG;bPISELEH;aTURNED+b"),
   (0xA9CF, "JAVANESE PANGRANGKEP;aDIGIT ZERO;bONE;bTWO;bTHREE;bFOUR;bFIVE;bSIX;bSEVEN;bEIGHT
bNINE"),
   (0xA9DE, "JAVANESE PADA TIRTA TUMETES;bISEN-ISEN;MYANMAR LETTER SHAN GHA;cCHA;cJHA;cNNA;cBHA
aSIGN SHAN SAW;aMODIFIER LETTER SHAN REDUPLICATION;aLETTER TAI LAING NYA;dFA;dGA;dGHA;dJA;dJHA
dDDA;dDDHA;dNNA;aTAI LAING DIGIT ZERO;dONE;dTWO;dTHREE;dFOUR;dFIVE;dSIX;dSEVEN;dEIGHT;dNINE
aLETTER TAI LAING LLA;dDA;dDHA;dBA;dBHA"),
   (0xAA00, "CHAM LETTER A;bI;bU;bE;bAI;bO;bKA;bKHA;bGA;bGHA;bNGUE;bNGA;bCHA;bCHHA;bJA;bJHA
bNHUE;bNHA;bNHJA;bTA;bTHA;bDA;bDHA;bNUE;bNA;bDDA;bPA;bPPA;bPHA;bBA;bBHA;bMUE;bMA;bBBA;bYA;bRA
bLA;bVA;bSSA;bSA;bHA;aVOWEL SIGN AA;cI;cII;cEI;cU;cOE;cO;cAI;cAU;cUE;aCONSONANT SIGN YA;cRA;cLA
cWA"),
   (0xAA40, "CHAM LETTER FINAL K;cG;cNG;aCONSONANT SIGN+b;aLETTER FINAL CH;cT;cN;cP;cY;cR;cL;cSS
aCONSONANT SIGN FINAL M;dH"),
   (0xAA50, "CHAM DIGIT ZERO;bONE;bTWO;bTHREE;bFOUR;bFIVE;bSIX;bSEVEN;bEIGHT;bNINE"),
   (0xAA5C, "CHAM PUNCTUATION SPIRAL;bDANDA;bDOUBLE+a;bTRIPLE+a;MYANMAR LETTER KHAMTI GA;cCA
cCHA;cJA;cJHA;cNYA;cTTA;cTTHA;cDDA;cDDHA;cDHA;cNA;cSA;cHA;cHHA;cFA
aMODIFIER LETTER KHAMTI REDUPLICATION;aLETTER KHAMTI XA;cZA;cRA;aLOGOGRAM KHAMTI OAY;cQN;cHM
aSYMBOL AITON EXCLAMATION;cONE;cTWO;aLETTER AITON RA;aSIGN PAO KAREN TONE;bTAI LAING TONE-2
dTONE-5;aLETTER SHWE PALAUNG CHA;dSHA;TAI VIET LETTER LOW KO;cHIGH+a;cLOW KHO;cHIGH+a;cLOW KHHO
cHIGH+a;cLOW GO;cHIGH+a;cLOW NGO;cHIGH+a;cLOW CO;cHIGH+a;cLOW CHO;cHIGH+a;cLOW SO;cHIGH+a
cLOW NYO;cHIGH+a;cLOW DO;cHIGH+a;cLOW TO;cHIGH+a;cLOW THO;cHIGH+a;cLOW NO;cHIGH+a;cLOW BO
cHIGH+a;cLOW PO;cHIGH+a;cLOW PHO;cHIGH+a;cLOW FO;cHIGH+a;cLOW MO;cHIGH+a;cLOW YO;cHIGH+a
cLOW RO;cHIGH+a;cLOW LO;cHIGH+a;cLOW VO;cHIGH+a;cLOW HO;cHIGH+a;cLOW O;cHIGH O;bMAI KANG
bVOWEL AA;cI;cUE;cU;cE;cO;bMAI KHIT;bVOWEL IA;cUEA;cUA;cAUE;cAY;cAN;cAM;bTONE MAI EK;dNUENG
dTHO;dSONG"),
   (0xAADB, "TAI VIET SYMBOL KON;cNUENG;cSAM;cHO HOI;cKOI KOI;MEETEI MAYEK LETTER E;cO;cCHA;cNYA
cTTA;cTTHA;cDDA;cDDHA;cNNA;cSHA;cSSA;bVOWEL SIGN II;dUU;dAAI;dAU;dAAU;bCHEIKHAN;bAHANG KHUDAM
bANJI;bSYLLABLE REPETITION MARK;bWORD+b;bVOWEL SIGN VISARGA;bVIRAMA"),
   (0xAB01, "ETHIOPIC SYLLABLE TTHU;bTTHI;bTTHAA;bTTHEE;bTTHE;bTTHO"),
   (0xAB09, "ETHIOPIC SYLLABLE DDHU;bDDHI;bDDHAA;bDDHEE;bDDHE;bDDHO"),
   (0xAB11, "ETHIOPIC SYLLABLE DZU;bDZI;bDZAA;bDZEE;bDZE;bDZO"),
   (0xAB20, "ETHIOPIC SYLLABLE CCHHA;bCCHHU;bCCHHI;bCCHHAA;bCCHHEE;bCCHHE;bCCHHO"),
   (0xAB28, "ETHIOPIC SYLLABLE BBA;bBBU;bBBI;bBBAA;bBBEE;bBBE;bBBO"),
   (0xAB30, "LATIN SMALL LETTER BARRED ALPHA;cA REVERSED-SCHWA;cBLACKLETTER E;cBARRED E
cE WITH FLOURISH;cLENIS F;cSCRIPT G WITH CROSSED-TAIL;cL WITH INVERTED LAZY S
eDOUBLE MIDDLE TILDE;eMIDDLE RING;cM WITH CROSSED-TAIL;cN+b;cENG+b;cBLACKLETTER O;eWITH STROKE
cOPEN+c;cINVERTED OE;cTURNED OE WITH STROKE;fHORIZONTAL+a;dO OPEN-O;fWITH STROKE;cSTIRRUP R
aLETTER SMALL CAPITAL R WITH RIGHT LEG;aSMALL LETTER R WITHOUT HANDLE;cDOUBLE R
cR WITH CROSSED-TAIL;cDOUBLE+c;cSCRIPT R;eWITH RING;cBASELINE ESH;cU WITH SHORT RIGHT LEG
dBAR+d;cUI;cTURNED+a;cU WITH LEFT HOOK;cCHI;dWITH LOW RIGHT RING;fLEFT SERIF
cX WITH LOW RIGHT RING;eLONG LEFT LEG;hAND LOW RIGHT RING;hWITH SERIF;cY WITH SHORT RIGHT LEG
MODIFIER BREVE WITH INVERTED BREVE;aLETTER SMALL HENG;cL WITH INVERTED LAZY S;eMIDDLE TILDE
cU WITH LEFT HOOK;LATIN SMALL LETTER SAKHA YAT;cIOTIFIED E;cOPEN OE;cUO;cINVERTED ALPHA
GREEK LETTER SMALL CAPITAL OMEGA;LATIN SMALL LETTER DZ DIGRAPH WITH RETROFLEX HOOK;cTS+d
cTURNED R WITH MIDDLE TILDE;MODIFIER LETTER SMALL TURNED W;bLEFT TACK;bRIGHT+a"),
   (0xAB70, "CHEROKEE SMALL LETTER A;cE;cI;cO;cU;cV;cGA;cKA;cGE;cGI;cGO;cGU;cGV;cHA;cHE;cHI;cHO
cHU;cHV;cLA;cLE;cLI;cLO;cLU;cLV;cMA;cME;cMI;cMO;cMU;cNA;cHNA;cNAH;cNE;cNI;cNO;cNU;cNV;cQUA;cQUE
cQUI;cQUO;cQUU;cQUV;cSA;cS;cSE;cSI;cSO;cSU;cSV;cDA;cTA;cDE;cTE;cDI;cTI;cDO;cDU;cDV;cDLA;cTLA
cTLE;cTLI;cTLO;cTLU;cTLV;cTSA;cTSE;cTSI;cTSO;cTSU;cTSV;cWA;cWE;cWI;cWO;cWU;cWV;cYA
MEETEI MAYEK LETTER KOK;cSAM;cLAI;cMIT;cPA;cNA;cCHIL;cTIL;cKHOU;cNGOU;cTHOU;cWAI;cYANG;cHUK;cUN
cI;cPHAM;cATIYA;cGOK;cJHAM;cRAI;cBA;cJIL;cDIL;cGHOU;cDHOU;cBHAM;cKOK LONSUM;cLAI+a;cMIT+a;cPA+a
cNA+a;cTIL+a;cNGOU+a;cI+a;bVOWEL SIGN ONAP;dINAP;dANAP;dYENAP;dSOUNAP;dUNAP;dCHEINAP;dNUNG
bCHEIKHEI;bLUM IYEK;bAPUN+a"),
   (0xABF0, "MEETEI MAYEK DIGIT ZERO;cONE;cTWO;cTHREE;cFOUR;cFIVE;cSIX;cSEVEN;cEIGHT;cNINE"),
   (0xD7B0, "HANGUL JUNGSEONG O-YEO;bO-O-I;bYO-A;bYO-AE;bYO-EO;bU-YEO;bU-I-I;bYU-AE;bYU-O;bEU-A
bEU-EO;bEU-E;bEU-O;bI-YA-O;bI-YAE;bI-YEO;bI-YE;bI-O-I;bI-YO;bI-YU;bI-I;bARAEA-A;bARAEA-E"),
   (0xD7CB, "HANGUL JONGSEONG NIEUN-RIEUL;bNIEUN-CHIEUCH;bSSANGTIKEUT;bSSANGTIKEUT-PIEUP
bTIKEUT-PIEUP;bTIKEUT-SIOS;bTIKEUT-SIOS-KIYEOK;bTIKEUT-CIEUC;bTIKEUT-CHIEUCH;bTIKEUT-THIEUTH
bRIEUL-SSANGKIYEOK;bRIEUL-KIYEOK-HIEUH;bSSANGRIEUL-KHIEUKH;bRIEUL-MIEUM-HIEUH
bRIEUL-PIEUP-TIKEUT;bRIEUL-PIEUP-PHIEUPH;bRIEUL-YESIEUNG;bRIEUL-YEORINHIEUH-HIEUH
bKAPYEOUNRIEUL;bMIEUM-NIEUN;bMIEUM-SSANGNIEUN;bSSANGMIEUM;bMIEUM-PIEUP-SIOS;bMIEUM-CIEUC
bPIEUP-TIKEUT;bPIEUP-RIEUL-PHIEUPH;bPIEUP-MIEUM;bSSANGPIEUP;bPIEUP-SIOS-TIKEUT;bPIEUP-CIEUC
bPIEUP-CHIEUCH;bSIOS-MIEUM;bSIOS-KAPYEOUNPIEUP;bSSANGSIOS-KIYEOK;bSSANGSIOS-TIKEUT
bSIOS-PANSIOS;bSIOS-CIEUC;bSIOS-CHIEUCH;bSIOS-THIEUTH;bSIOS-HIEUH;bPANSIOS-PIEUP
bPANSIOS-KAPYEOUNPIEUP;bYESIEUNG-MIEUM;bYESIEUNG-HIEUH;bCIEUC-PIEUP;bCIEUC-SSANGPIEUP
bSSANGCIEUC;bPHIEUPH-SIOS;bPHIEUPH-THIEUTH"),
   (0xFB00, "LATIN SMALL LIGATURE FF;cFI;cFL;cFFI;cFFL;cLONG S T;cST"),
   (0xFB13, "ARMENIAN SMALL LIGATURE MEN NOW;dECH;dINI;cVEW NOW;cMEN XEH"),
   (0xFB1D, "HEBREW LETTER YOD WITH HIRIQ;aPOINT JUDEO-SPANISH VARIKA
aLIGATURE YIDDISH YOD YOD PATAH;aLETTER ALTERNATIVE AYIN;bWIDE ALEF;cDALET;cHE;cKAF;cLAMED
cFINAL MEM;cRESH;cTAV;bALTERNATIVE PLUS SIGN;bSHIN WITH SHIN DOT;dSIN+a;dDAGESH AND SHIN+a
fSIN+a;bALEF WITH PATAH;dQAMATS;dMAPIQ;bBET WITH DAGESH;bGIMEL+b;bDALET+b;bHE WITH MAPIQ
bVAV WITH DAGESH;bZAYIN+b"),
   (0xFB38, "HEBREW LETTER TET WITH DAGESH;bYOD+b;bFINAL KAF+b;b+c;bLAMED+b"),
   (0xFB3E, "HEBREW LETTER MEM WITH DAGESH"),
   (0xFB40, "HEBREW LETTER NUN WITH DAGESH;bSAMEKH+b"),
   (0xFB43, "HEBREW LETTER FINAL PE WITH DAGESH;b+c"),
   (0xFB46, "HEBREW LETTER TSADI WITH DAGESH;bQOF+b;bRESH+b;bSHIN+b;bTAV+b;bVAV WITH HOLAM
bBET WITH RAFE;bKAF+b;bPE+b;aLIGATURE ALEF LAMED;ARABIC LETTER ALEF WASLA ISOLATED FORM
dFINAL+a;bBEEH ISOLATED+a;cFINAL+a;cINITIAL+a;cMEDIAL+a;bPEH ISOLATED+a;cFINAL+a;cINITIAL+a
cMEDIAL+a;bBEHEH ISOLATED+a;cFINAL+a;cINITIAL+a;cMEDIAL+a;bTTEHEH ISOLATED+a;cFINAL+a
cINITIAL+a;cMEDIAL+a;bTEHEH ISOLATED+a;cFINAL+a;cINITIAL+a;cMEDIAL+a;bTTEH ISOLATED+a;cFINAL+a
cINITIAL+a;cMEDIAL+a;bVEH ISOLATED+a;cFINAL+a;cINITIAL+a;cMEDIAL+a;bPEHEH ISOLATED+a;cFINAL+a
cINITIAL+a;cMEDIAL+a;bDYEH ISOLATED+a;cFINAL+a;cINITIAL+a;cMEDIAL+a;bNYEH ISOLATED+a;cFINAL+a
cINITIAL+a;cMEDIAL+a;bTCHEH ISOLATED+a;cFINAL+a;cINITIAL+a;cMEDIAL+a;bTCHEHEH ISOLATED+a
cFINAL+a;cINITIAL+a;cMEDIAL+a;bDDAHAL ISOLATED+a;cFINAL+a;bDAHAL ISOLATED+a;cFINAL+a
bDUL ISOLATED+a;cFINAL+a;bDDAL ISOLATED+a;cFINAL+a;bJEH ISOLATED+a;cFINAL+a;bRREH ISOLATED+a
cFINAL+a;bKEHEH ISOLATED+a;cFINAL+a;cINITIAL+a;cMEDIAL+a;bGAF ISOLATED+a;cFINAL+a;cINITIAL+a
cMEDIAL+a;bGUEH ISOLATED+a;cFINAL+a;cINITIAL+a;cMEDIAL+a;bNGOEH ISOLATED+a;cFINAL+a;cINITIAL+a
cMEDIAL+a;bNOON GHUNNA ISOLATED+a;dFINAL+a;bRNOON ISOLATED+a;cFINAL+a;cINITIAL+a;cMEDIAL+a
bHEH WITH YEH ABOVE ISOLATED+a;fFINAL+a;cGOAL ISOLATED+a;dFINAL+a;dINITIAL+a;dMEDIAL+a
cDOACHASHMEE ISOLATED+a;dFINAL+a;dINITIAL+a;dMEDIAL+a;bYEH BARREE ISOLATED+a;dFINAL+a
dWITH HAMZA ABOVE ISOLATED+a;gFINAL+a;aSYMBOL DOT ABOVE;cBELOW;bTWO DOTS ABOVE;dBELOW
bTHREE DOTS ABOVE;dBELOW;dPOINTING DOWNWARDS ABOVE;fBELOW;bFOUR DOTS ABOVE;dBELOW
bDOUBLE VERTICAL BAR+a;bTWO DOTS VERTICALLY ABOVE;eBELOW;bRING;bSMALL TAH ABOVE;dBELOW
bWASLA ABOVE"),
   (0xFBD3, "ARABIC LETTER NG ISOLATED FORM;cFINAL+a;cINITIAL+a;cMEDIAL+a;bU ISOLATED+a;cFINAL+a
bOE ISOLATED+a;cFINAL+a;bYU ISOLATED+a;cFINAL+a;bU WITH HAMZA ABOVE ISOLATED+a;bVE+b;cFINAL+a
bKIRGHIZ OE ISOLATED+a;dFINAL+a;cYU ISOLATED+a;dFINAL+a;bE ISOLATED+a;cFINAL+a;cINITIAL+a
cMEDIAL+a;bUIGHUR KAZAKH KIRGHIZ ALEF MAKSURA INITIAL+a;gMEDIAL+a
aLIGATURE YEH WITH HAMZA ABOVE WITH ALEF ISOLATED+a;hFINAL+a;gAE ISOLATED+a;hFINAL+a
gWAW ISOLATED+a;hFINAL+a;gU ISOLATED+a;hFINAL+a;gOE ISOLATED+a;hFINAL+a;gYU ISOLATED+a;hFINAL+a
gE ISOLATED+a;hFINAL+a;hINITIAL+a
bUIGHUR KIRGHIZ YEH WITH HAMZA ABOVE WITH ALEF MAKSURA ISOLATED+a;kFINAL+a;kINITIAL+a
aLETTER FARSI YEH ISOLATED+a;dFINAL+a;dINITIAL+a;dMEDIAL+a
aLIGATURE YEH WITH HAMZA ABOVE WITH JEEM ISOLATED+a;gHAH+b;gMEEM+b;gALEF MAKSURA+b;gYEH+b
bBEH WITH JEEM+b;dHAH+b;dKHAH+b;dMEEM+b;dALEF MAKSURA+b;dYEH+b;bTEH WITH JEEM+b;dHAH+b;dKHAH+b
dMEEM+b;dALEF MAKSURA+b;dYEH+b;bTHEH WITH JEEM+b;dMEEM+b;dALEF MAKSURA+b;dYEH+b
bJEEM WITH HAH+b;dMEEM+b;bHAH WITH JEEM+b;dMEEM+b;bKHAH WITH JEEM+b;dHAH+b;dMEEM+b
bSEEN WITH JEEM+b;dHAH+b;dKHAH+b;dMEEM+b;bSAD WITH HAH+b;dMEEM+b;bDAD WITH JEEM+b;dHAH+b
dKHAH+b;dMEEM+b;bTAH WITH HAH+b;dMEEM+b;bZAH+d;bAIN WITH JEEM+b;dMEEM+b;bGHAIN WITH JEEM+b
dMEEM+b;bFEH WITH JEEM+b;dHAH+b;dKHAH+b;dMEEM+b;dALEF MAKSURA+b;dYEH+b;bQAF WITH HAH+b;dMEEM+b
dALEF MAKSURA+b;dYEH+b;bKAF WITH ALEF+b;dJEEM+b;dHAH+b;dKHAH+b;dLAM+b;dMEEM+b;dALEF MAKSURA+b
dYEH+b;bLAM WITH JEEM+b;dHAH+b;dKHAH+b;dMEEM+b;dALEF MAKSURA+b;dYEH+b;bMEEM WITH JEEM+b;dHAH+b
dKHAH+b;dMEEM+b;dALEF MAKSURA+b;dYEH+b;bNOON WITH JEEM+b;dHAH+b;dKHAH+b;dMEEM+b;dALEF MAKSURA+b
dYEH+b;bHEH WITH JEEM+b;dMEEM+b;dALEF MAKSURA+b;dYEH+b;bYEH WITH JEEM+b;dHAH+b;dKHAH+b;dMEEM+b
dALEF MAKSURA+b;dYEH+b;bTHAL WITH SUPERSCRIPT ALEF+b;bREH+e;bALEF MAKSURA+e
bSHADDA WITH DAMMATAN+b;dKASRATAN+b;dFATHA+b;dDAMMA+b;dKASRA+b;dSUPERSCRIPT ALEF+b
bYEH WITH HAMZA ABOVE WITH REH FINAL+a;gZAIN+b;gMEEM+b;gNOON+b;gALEF MAKSURA+b;gYEH+b
bBEH WITH REH+b;dZAIN+b;dMEEM+b;dNOON+b;dALEF MAKSURA+b;dYEH+b;bTEH WITH REH+b;dZAIN+b;dMEEM+b
dNOON+b;dALEF MAKSURA+b;dYEH+b;bTHEH WITH REH+b;dZAIN+b;dMEEM+b;dNOON+b;dALEF MAKSURA+b;dYEH+b
bFEH WITH ALEF MAKSURA+b;dYEH+b;bQAF WITH ALEF MAKSURA+b;dYEH+b;bKAF WITH ALEF+b;dLAM+b;dMEEM+b
dALEF MAKSURA+b;dYEH+b;bLAM WITH MEEM+b;dALEF MAKSURA+b;dYEH+b;bMEEM WITH ALEF+b;dMEEM+b
bNOON WITH REH+b;dZAIN+b;dMEEM+b;dNOON+b;dALEF MAKSURA+b;dYEH+b
bALEF MAKSURA WITH SUPERSCRIPT ALEF+b;bYEH WITH REH+b;dZAIN+b;dMEEM+b;dNOON+b;dALEF MAKSURA+b
dYEH+b;dHAMZA ABOVE WITH JEEM INITIAL+a;gHAH+b;gKHAH+b;gMEEM+b;gHEH+b;bBEH WITH JEEM+b;dHAH+b
dKHAH+b;dMEEM+b;dHEH+b;bTEH WITH JEEM+b;dHAH+b;dKHAH+b;dMEEM+b;dHEH+b;bTHEH WITH MEEM+b
bJEEM WITH HAH+b;dMEEM+b;bHAH WITH JEEM+b;dMEEM+b;bKHAH WITH JEEM+b;dMEEM+b;bSEEN WITH JEEM+b
dHAH+b;dKHAH+b;dMEEM+b;bSAD WITH HAH+b;dKHAH+b;dMEEM+b;bDAD WITH JEEM+b;dHAH+b;dKHAH+b;dMEEM+b
bTAH WITH HAH+b;bZAH WITH MEEM+b;bAIN WITH JEEM+b;dMEEM+b;bGHAIN WITH JEEM+b;dMEEM+b
bFEH WITH JEEM+b;dHAH+b;dKHAH+b;dMEEM+b;bQAF WITH HAH+b;dMEEM+b;bKAF WITH JEEM+b;dHAH+b;dKHAH+b
dLAM+b;dMEEM+b;bLAM WITH JEEM+b;dHAH+b;dKHAH+b;dMEEM+b;dHEH+b;bMEEM WITH JEEM+b;dHAH+b;dKHAH+b
dMEEM+b;bNOON WITH JEEM+b;dHAH+b;dKHAH+b;dMEEM+b;dHEH+b;bHEH WITH JEEM+b;dMEEM+b
dSUPERSCRIPT ALEF+b;bYEH WITH JEEM+b;dHAH+b;dKHAH+b;dMEEM+b;dHEH+b
dHAMZA ABOVE WITH MEEM MEDIAL+a;gHEH+b;bBEH WITH MEEM+b;dHEH+b;bTEH WITH MEEM+b;dHEH+b
bTHEH WITH MEEM+b;dHEH+b;bSEEN WITH MEEM+b;dHEH+b;bSHEEN WITH MEEM+b;dHEH+b;bKAF WITH LAM+b
dMEEM+b;bLAM+d;bNOON+d;dHEH+b;bYEH WITH MEEM+b;dHEH+b;bSHADDA WITH FATHA+b;dDAMMA+b;dKASRA+b
bTAH WITH ALEF MAKSURA ISOLATED+a;dYEH+b;bAIN WITH ALEF MAKSURA+b;dYEH+b
bGHAIN WITH ALEF MAKSURA+b;dYEH+b;bSEEN WITH ALEF MAKSURA+b;dYEH+b;bSHEEN WITH ALEF MAKSURA+b
dYEH+b;bHAH WITH ALEF MAKSURA+b;dYEH+b;bJEEM WITH ALEF MAKSURA+b;dYEH+b
bKHAH WITH ALEF MAKSURA+b;dYEH+b;bSAD WITH ALEF MAKSURA+b;dYEH+b;bDAD WITH ALEF MAKSURA+b
dYEH+b;bSHEEN WITH JEEM+b;dHAH+b;dKHAH+b;dMEEM+b;dREH+b;bSEEN+d;bSAD+d;bDAD+d
bTAH WITH ALEF MAKSURA FINAL+a;dYEH+b;bAIN WITH ALEF MAKSURA+b;dYEH+b
bGHAIN WITH ALEF MAKSURA+b;dYEH+b;bSEEN WITH ALEF MAKSURA+b;dYEH+b;bSHEEN WITH ALEF MAKSURA+b
dYEH+b;bHAH WITH ALEF MAKSURA+b;dYEH+b;bJEEM WITH ALEF MAKSURA+b;dYEH+b
bKHAH WITH ALEF MAKSURA+b;dYEH+b;bSAD WITH ALEF MAKSURA+b;dYEH+b;bDAD WITH ALEF MAKSURA+b
dYEH+b;bSHEEN WITH JEEM+b;dHAH+b;dKHAH+b;dMEEM+b;dREH+b;bSEEN+d;bSAD+d;bDAD+d
bSHEEN WITH JEEM INITIAL+a;dHAH+b;dKHAH+b;dMEEM+b;bSEEN WITH HEH+b;bSHEEN+d;bTAH WITH MEEM+b
bSEEN WITH JEEM MEDIAL+a;dHAH+b;dKHAH+b;bSHEEN WITH JEEM+b;dHAH+b;dKHAH+b;bTAH WITH MEEM+b
bZAH+d;bALEF WITH FATHATAN FINAL+a;eISOLATED+a;ORNATE LEFT PARENTHESIS;aRIGHT+a
ARABIC LIGATURE RAHIMAHU ALLAAH;bRADI ALLAAHU ANH;dANHAA;dANHUM;dANHUMAA;dANHUNNA
bSALLALLAAHU ALAYHI WA-AALIH;bALAYHI AS-SALAAM;bALAYHIM+a;bALAYHIMAA+a
bALAYHI AS-SALAATU WAS-SALAAM;bQUDDISA SIRRAH;bSALLALLAHU ALAYHI WAAALIHEE WA-SALLAM
bALAYHAA AS-SALAAM;bTABAARAKA WA-TAAALAA;bRAHIMAHUM ALLAAH
bTEH WITH JEEM WITH MEEM INITIAL FORM;dHAH WITH JEEM FINAL+a;gINITIAL+a;fMEEM+b;dKHAH+d
dMEEM WITH JEEM+b;fHAH+b;fKHAH+b;bJEEM WITH MEEM WITH HAH FINAL+a;gINITIAL+a
bHAH WITH MEEM WITH YEH FINAL+a;fALEF MAKSURA+b;bSEEN WITH HAH WITH JEEM INITIAL+a
dJEEM WITH HAH+b;fALEF MAKSURA FINAL+a;dMEEM WITH HAH+b;gINITIAL+a;fJEEM+b;fMEEM FINAL+a
gINITIAL+a;bSAD WITH HAH WITH HAH FINAL+a;gINITIAL+a;dMEEM WITH MEEM FINAL+a;bSHEEN WITH HAH+d
gINITIAL+a;dJEEM WITH YEH FINAL+a;dMEEM WITH KHAH+b;gINITIAL+a;fMEEM FINAL+a;gINITIAL+a
bDAD WITH HAH WITH ALEF MAKSURA FINAL+a;dKHAH WITH MEEM+b;gINITIAL+a
bTAH WITH MEEM WITH HAH FINAL+a;gINITIAL+a;fMEEM+b;fYEH FINAL+a;bAIN WITH JEEM WITH MEEM+b
dMEEM+d;gINITIAL+a;fALEF MAKSURA FINAL+a;bGHAIN WITH MEEM WITH MEEM+b;fYEH+b;fALEF MAKSURA+b
bFEH WITH KHAH WITH MEEM+b;gINITIAL+a;bQAF WITH MEEM WITH HAH FINAL+a;fMEEM+b;bLAM WITH HAH+d
fYEH+b;fALEF MAKSURA+b;dJEEM WITH JEEM INITIAL+a;gFINAL+a;dKHAH WITH MEEM+b;gINITIAL+a
dMEEM WITH HAH FINAL+a;gINITIAL+a;bMEEM WITH HAH WITH JEEM+b;fMEEM+b;fYEH FINAL+a
dJEEM WITH HAH INITIAL+a;fMEEM+b;dKHAH WITH JEEM+b;fMEEM+b"),
   (0xFD92, "ARABIC LIGATURE MEEM WITH JEEM WITH KHAH INITIAL FORM;bHEH WITH MEEM WITH JEEM+b
fMEEM+b;bNOON WITH HAH+d;fALEF MAKSURA FINAL+a;dJEEM WITH MEEM+b;gINITIAL+a
fALEF MAKSURA FINAL+a;dMEEM WITH YEH+b;fALEF MAKSURA+b;bYEH WITH MEEM WITH MEEM+b;gINITIAL+a
bBEH WITH KHAH WITH YEH FINAL+a;bTEH WITH JEEM+d;fALEF MAKSURA+b;dKHAH WITH YEH+b
fALEF MAKSURA+b;dMEEM WITH YEH+b;fALEF MAKSURA+b;bJEEM WITH MEEM WITH YEH+b
dHAH WITH ALEF MAKSURA+b;dMEEM+e;bSEEN WITH KHAH+e;bSAD WITH HAH WITH YEH+b;bSHEEN+f;bDAD+f
bLAM WITH JEEM+d;dMEEM+d;bYEH WITH HAH+d;dJEEM+d;dMEEM+d;bMEEM+f;bQAF+f;bNOON WITH HAH+d
bQAF WITH MEEM WITH HAH INITIAL+a;bLAM WITH HAH WITH MEEM+b;bAIN WITH MEEM WITH YEH FINAL+a
bKAF+f;bNOON WITH JEEM WITH HAH INITIAL+a;bMEEM WITH KHAH WITH YEH FINAL+a
bLAM WITH JEEM WITH MEEM INITIAL+a;bKAF WITH MEEM WITH MEEM FINAL+a;bLAM WITH JEEM+d
bNOON WITH JEEM WITH HAH+b;bJEEM WITH HAH WITH YEH+b;bHAH WITH JEEM+d;bMEEM+f;bFEH WITH MEEM+d
bBEH WITH HAH+d;bKAF WITH MEEM WITH MEEM INITIAL+a;bAIN WITH JEEM+d;bSAD WITH MEEM+d
bSEEN WITH KHAH WITH YEH FINAL+a;bNOON WITH JEEM+d"),
   (0xFDCF, "ARABIC LIGATURE SALAAMUHU ALAYNAA"),
   (0xFDF0, "ARABIC LIGATURE SALLA USED AS KORANIC STOP SIGN ISOLATED FORM;bQALA+g;bALLAH+b
bAKBAR+b;bMOHAMMAD+b;bSALAM+b;bRASOUL+b;bALAYHE+b;bWASALLAM+b;bSALLA+b
bSALLALLAHOU ALAYHE WASALLAM;bJALLAJALALOUHOU;RIAL SIGN
ARABIC LIGATURE BISMILLAH AR-RAHMAN AR-RAHEEM;bSUBHAANAHU WA TAAALAA;bAZZA WA JALL
VARIATION SELECTOR-1;aSELECTOR-2;aSELECTOR-3;aSELECTOR-4;aSELECTOR-5;aSELECTOR-6;aSELECTOR-7
aSELECTOR-8;aSELECTOR-9;aSELECTOR-10;aSELECTOR-11;aSELECTOR-12;aSELECTOR-13;aSELECTOR-14
aSELECTOR-15;aSELECTOR-16;PRESENTATION FORM FOR VERTICAL COMMA;dIDEOGRAPHIC+a;eFULL STOP;dCOLON
dSEMICOLON;dEXCLAMATION MARK;dQUESTION+a;dLEFT WHITE LENTICULAR BRACKET
dRIGHT WHITE LENTICULAR BRAKCET;dHORIZONTAL ELLIPSIS"),
   (0xFE20, "COMBINING LIGATURE LEFT HALF;bRIGHT+a;aDOUBLE TILDE LEFT+a;cRIGHT+a;aMACRON LEFT+a
bRIGHT+a;aCONJOINING MACRON;aLIGATURE LEFT HALF BELOW;bRIGHT+b;aTILDE LEFT+b;bRIGHT+b
aMACRON LEFT+b;bRIGHT+b;aCONJOINING MACRON+a;aCYRILLIC TITLO LEFT HALF;cRIGHT+a
PRESENTATION FORM FOR VERTICAL TWO DOT LEADER;dEM DASH;dEN+a;dLOW LINE;dWAVY+b
dLEFT PARENTHESIS;dRIGHT+a;dLEFT CURLY BRACKET;dRIGHT+b;dLEFT TORTOISE SHELL+a;dRIGHT+c
dLEFT BLACK LENTICULAR+a;dRIGHT+c;dLEFT DOUBLE ANGLE+a;dRIGHT+c;dLEFT+b;dRIGHT+b;dLEFT CORNER+a
dRIGHT+b;dLEFT WHITE+b;dRIGHT+c;SESAME DOT;WHITE+b
PRESENTATION FORM FOR VERTICAL LEFT SQUARE BRACKET;dRIGHT+b;DASHED OVERLINE;CENTRELINE+a;WAVY+a
DOUBLE+b;DASHED LOW LINE;CENTRELINE+b;WAVY+b;SMALL COMMA;aIDEOGRAPHIC+a;aFULL STOP"),
   (0xFE54, "SMALL SEMICOLON;aCOLON;aQUESTION MARK;aEXCLAMATION+a;aEM DASH;aLEFT PARENTHESIS
aRIGHT+a;aLEFT CURLY BRACKET;aRIGHT+b;aLEFT TORTOISE SHELL+a;aRIGHT+c;aNUMBER SIGN;aAMPERSAND
aASTERISK;aPLUS SIGN;aHYPHEN-MINUS;aLESS-THAN SIGN;aGREATER-THAN+a;aEQUALS+a"),
   (0xFE68, "SMALL REVERSE SOLIDUS;aDOLLAR SIGN;aPERCENT+a;aCOMMERCIAL AT"),
   (0xFE70, "ARABIC FATHATAN ISOLATED FORM;aTATWEEL WITH FATHATAN ABOVE;aDAMMATAN ISOLATED FORM
aTAIL FRAGMENT;aKASRATAN ISOLATED FORM"),
   (0xFE76, "ARABIC FATHA ISOLATED FORM;bMEDIAL+a;aDAMMA ISOLATED+a;bMEDIAL+a;aKASRA ISOLATED+a
bMEDIAL+a;aSHADDA ISOLATED+a;bMEDIAL+a;aSUKUN ISOLATED+a;bMEDIAL+a;aLETTER HAMZA ISOLATED+a
bALEF WITH MADDA ABOVE+b;fFINAL+a;dHAMZA ABOVE ISOLATED+a;fFINAL+a
bWAW WITH HAMZA ABOVE ISOLATED+a;fFINAL+a;bALEF WITH HAMZA BELOW ISOLATED+a;fFINAL+a
bYEH WITH HAMZA ABOVE ISOLATED+a;fFINAL+a;fINITIAL+a;fMEDIAL+a;bALEF ISOLATED+a;cFINAL+a
bBEH ISOLATED+a;cFINAL+a;cINITIAL+a;cMEDIAL+a;bTEH MARBUTA ISOLATED+a;dFINAL+a;cISOLATED+a
cFINAL+a;cINITIAL+a;cMEDIAL+a;bTHEH ISOLATED+a;cFINAL+a;cINITIAL+a;cMEDIAL+a;bJEEM ISOLATED+a
cFINAL+a;cINITIAL+a;cMEDIAL+a;bHAH ISOLATED+a;cFINAL+a;cINITIAL+a;cMEDIAL+a;bKHAH ISOLATED+a
cFINAL+a;cINITIAL+a;cMEDIAL+a;bDAL ISOLATED+a;cFINAL+a;bTHAL ISOLATED+a;cFINAL+a
bREH ISOLATED+a;cFINAL+a;bZAIN ISOLATED+a;cFINAL+a;bSEEN ISOLATED+a;cFINAL+a;cINITIAL+a
cMEDIAL+a;bSHEEN ISOLATED+a;cFINAL+a;cINITIAL+a;cMEDIAL+a;bSAD ISOLATED+a;cFINAL+a;cINITIAL+a
cMEDIAL+a;bDAD ISOLATED+a;cFINAL+a;cINITIAL+a;cMEDIAL+a;bTAH ISOLATED+a;cFINAL+a;cINITIAL+a
cMEDIAL+a;bZAH ISOLATED+a;cFINAL+a;cINITIAL+a;cMEDIAL+a;bAIN ISOLATED+a;cFINAL+a;cINITIAL+a
cMEDIAL+a;bGHAIN ISOLATED+a;cFINAL+a;cINITIAL+a;cMEDIAL+a;bFEH ISOLATED+a;cFINAL+a;cINITIAL+a
cMEDIAL+a;bQAF ISOLATED+a;cFINAL+a;cINITIAL+a;cMEDIAL+a;bKAF ISOLATED+a;cFINAL+a;cINITIAL+a
cMEDIAL+a;bLAM ISOLATED+a;cFINAL+a;cINITIAL+a;cMEDIAL+a;bMEEM ISOLATED+a;cFINAL+a;cINITIAL+a
cMEDIAL+a;bNOON ISOLATED+a;cFINAL+a;cINITIAL+a;cMEDIAL+a;bHEH ISOLATED+a;cFINAL+a;cINITIAL+a
cMEDIAL+a;bWAW ISOLATED+a;cFINAL+a;bALEF MAKSURA ISOLATED+a;dFINAL+a;bYEH ISOLATED+a;cFINAL+a
cINITIAL+a;cMEDIAL+a;aLIGATURE LAM WITH ALEF WITH MADDA ABOVE ISOLATED+a;hFINAL+a
fHAMZA ABOVE ISOLATED+a;hFINAL+a;gBELOW ISOLATED+a;hFINAL+a;eISOLATED+a;eFINAL+a"),
   (0xFEFF, "ZERO WIDTH NO-BREAK SPACE"),
   (0xFF01, "FULLWIDTH EXCLAMATION MARK;aQUOTATION+a;aNUMBER SIGN;aDOLLAR+a;aPERCENT+a
aAMPERSAND;aAPOSTROPHE;aLEFT PARENTHESIS;aRIGHT+a;aASTERISK;aPLUS SIGN;aCOMMA;aHYPHEN-MINUS
aFULL STOP;aSOLIDUS;aDIGIT ZERO;bONE;bTWO;bTHREE;bFOUR;bFIVE;bSIX;bSEVEN;bEIGHT;bNINE;aCOLON
aSEMICOLON;aLESS-THAN SIGN;aEQUALS+a;aGREATER-THAN+a;aQUESTION MARK;aCOMMERCIAL AT
aLATIN CAPITAL LETTER A;dB;dC;dD;dE;dF;dG;dH;dI;dJ;dK;dL;dM;dN;dO;dP;dQ;dR;dS;dT;dU;dV;dW;dX;dY
dZ;aLEFT SQUARE BRACKET;aREVERSE SOLIDUS;aRIGHT SQUARE BRACKET;aCIRCUMFLEX ACCENT;aLOW LINE
aGRAVE ACCENT;aLATIN SMALL LETTER A;dB;dC;dD;dE;dF;dG;dH;dI;dJ;dK;dL;dM;dN;dO;dP;dQ;dR;dS;dT;dU
dV;dW;dX;dY;dZ;aLEFT CURLY BRACKET;aVERTICAL LINE;aRIGHT CURLY BRACKET;aTILDE
aLEFT WHITE PARENTHESIS;aRIGHT+b;HALFWIDTH IDEOGRAPHIC FULL STOP;aLEFT CORNER BRACKET;aRIGHT+b
aIDEOGRAPHIC COMMA;aKATAKANA MIDDLE DOT;bLETTER WO;cSMALL A;dI;dU;dE;dO;dYA;dYU;dYO;dTU
aKATAKANA-HIRAGANA PROLONGED SOUND MARK;aKATAKANA LETTER A;cI;cU;cE;cO;cKA;cKI;cKU;cKE;cKO;cSA
cSI;cSU;cSE;cSO;cTA;cTI;cTU;cTE;cTO;cNA;cNI;cNU;cNE;cNO;cHA;cHI;cHU;cHE;cHO;cMA;cMI;cMU;cME;cMO
cYA;cYU;cYO;cRA;cRI;cRU;cRE;cRO;cWA;cN;bVOICED SOUND MARK;bSEMI-VOICED+b;aHANGUL FILLER
bLETTER KIYEOK;cSSANGKIYEOK;cKIYEOK-SIOS;cNIEUN;cNIEUN-CIEUC;cNIEUN-HIEUH;cTIKEUT;cSSANGTIKEUT
cRIEUL;cRIEUL-KIYEOK;cRIEUL-MIEUM;cRIEUL-PIEUP;cRIEUL-SIOS;cRIEUL-THIEUTH;cRIEUL-PHIEUPH
cRIEUL-HIEUH;cMIEUM;cPIEUP;cSSANGPIEUP;cPIEUP-SIOS;cSIOS;cSSANGSIOS;cIEUNG;cCIEUC;cSSANGCIEUC
cCHIEUCH;cKHIEUKH;cTHIEUTH;cPHIEUPH;cHIEUH"),
   (0xFFC2, "HALFWIDTH HANGUL LETTER A;cAE;cYA;cYAE;cEO;cE"),
   (0xFFCA, "HALFWIDTH HANGUL LETTER YEO;cYE;cO;cWA;cWAE;cOE"),
   (0xFFD2, "HALFWIDTH HANGUL LETTER YO;cU;cWEO;cWE;cWI;cYU"),
   (0xFFDA, "HALFWIDTH HANGUL LETTER EU;cYI;cI"),
   (0xFFE0, "FULLWIDTH CENT SIGN;aPOUND+a;aNOT+a;aMACRON;aBROKEN BAR;aYEN SIGN;aWON+a"),
   (0xFFE8, "HALFWIDTH FORMS LIGHT VERTICAL;aLEFTWARDS ARROW;aUPWARDS+a;aRIGHTWARDS+a
aDOWNWARDS+a;aBLACK SQUARE;aWHITE CIRCLE"),
   (0xFFF9, "INTERLINEAR ANNOTATION ANCHOR;bSEPARATOR;bTERMINATOR;OBJECT REPLACEMENT CHARACTER;+b"),
   (0x10000, "LINEAR B SYLLABLE B008 A;cB038 E;cB028 I;cB061 O;cB010 U;cB001 DA;cB045 DE
cB007 DI;cB014 DO;cB051 DU;cB057 JA;cB046 JE"),
   (0x1000D, "LINEAR B SYLLABLE B036 JO;cB065 JU;cB077 KA;cB044 KE;cB067 KI;cB070 KO;cB081 KU
cB080 MA;cB013 ME;cB073 MI;cB015 MO;cB023 MU;cB006 NA;cB024 NE;cB030 NI;cB052 NO;cB055 NU
cB003 PA;cB072 PE;cB039 PI;cB011 PO;cB050 PU;cB016 QA;cB078 QE;cB021 QI;cB032 QO"),
   (0x10028, "LINEAR B SYLLABLE B060 RA;cB027 RE;cB053 RI;cB002 RO;cB026 RU;cB031 SA;cB009 SE
cB041 SI;cB012 SO;cB058 SU;cB059 TA;cB004 TE;cB037 TI;cB005 TO;cB069 TU;cB054 WA;cB075 WE
cB040 WI;cB042 WO"),
   (0x1003C, "LINEAR B SYLLABLE B017 ZA;cB074 ZE"),
   (0x1003F, "LINEAR B SYLLABLE B020 ZO;cB025 A2;cB043 A3;cB085 AU;cB071 DWE;cB090 DWO;cB048 NWA
cB029 PU2;cB062 PTE;cB076 RA2;cB033 RA3;cB068 RO2;cB066 TA2;cB087 TWE;cB091 TWO"),
   (0x10050, "LINEAR B SYMBOL B018;cB019;cB022;cB034;cB047;cB049;cB056;cB063;cB064;cB079;cB082
cB083;cB086;cB089"),
   (0x10080, "LINEAR B IDEOGRAM B100 MAN;cB102 WOMAN;cB104 DEER;cB105 EQUID;cB105F MARE
cB105M STALLION;cB106F EWE;cB106M RAM;cB107F SHE-GOAT;cB107M HE-GOAT;cB108F SOW;cB108M BOAR
cB109F COW;cB109M BULL;cB120 WHEAT;cB121 BARLEY;cB122 OLIVE;cB123 SPICE;cB125 CYPERUS
bMONOGRAM B127 KAPO;cB128 KANAKO;bIDEOGRAM B130 OIL;cB131 WINE;cB132;bMONOGRAM B133 AREPA
cB135 MERI;bIDEOGRAM B140 BRONZE;cB141 GOLD;cB142;cB145 WOOL;cB146;cB150;cB151 HORN;cB152;cB153
cB154;bMONOGRAM B156 TURO2;bIDEOGRAM B157;cB158;cB159 CLOTH;cB160;cB161;cB162 GARMENT
cB163 ARMOUR;cB164;cB165;cB166;cB167;cB168;cB169;cB170;cB171;cB172;cB173 MONTH;cB174;cB176 TREE
cB177;cB178;cB179;cB180;cB181;cB182;cB183;cB184;cB185;cB189;cB190;cB191 HELMET;cB220 FOOTSTOOL
cB225 BATHTUB;cB230 SPEAR;cB231 ARROW;cB232;cB233 SWORD;cB234;cB236;cB240 WHEELED CHARIOT
cB241+a;cB242 CHARIOT FRAME;cB243 WHEEL;cB245;cB246;bMONOGRAM B247 DIPTE;bIDEOGRAM B248;cB249
cB251;cB252;cB253;cB254 DART;cB255;cB256;cB257;cB258;cB259;cVESSEL B155;dB200;dB201;dB202;dB203
dB204;dB205;dB206;dB207;dB208;dB209;dB210;dB211;dB212;dB213;dB214;dB215;dB216;dB217;dB218;dB219
dB221;dB222;dB226;dB227;dB228;dB229;dB250;dB305"),
   (0x10100, "AEGEAN WORD SEPARATOR LINE;cDOT;aCHECK MARK"),
   (0x10107, "AEGEAN NUMBER ONE;bTWO;bTHREE;bFOUR;bFIVE;bSIX;bSEVEN;bEIGHT;bNINE;bTEN;bTWENTY
bTHIRTY;bFORTY;bFIFTY;bSIXTY;bSEVENTY;bEIGHTY;bNINETY;bONE HUNDRED;bTWO+a;bTHREE+a;bFOUR+a
bFIVE+a;bSIX+a;bSEVEN+a;bEIGHT+a;bNINE+a;bONE THOUSAND;bTWO+a;bTHREE+a;bFOUR+a;bFIVE+a;bSIX+a
bSEVEN+a;bEIGHT+a;bNINE+a;bTEN+a;bTWENTY+a;bTHIRTY+a;bFORTY+a;bFIFTY+a;bSIXTY+a;bSEVENTY+a
bEIGHTY+a;bNINETY+a"),
   (0x10137, "AEGEAN WEIGHT BASE UNIT;bFIRST SUBUNIT;bSECOND+a;bTHIRD+a;bFOURTH+a
aDRY MEASURE FIRST+a;aLIQUID+c;aMEASURE SECOND+a;bTHIRD+a;GREEK ACROPHONIC ATTIC ONE QUARTER
dHALF;dDRACHMA;cFIVE;cFIFTY;cFIVE HUNDRED;dTHOUSAND;cFIFTY+a;cFIVE TALENTS;cTEN+a;cFIFTY+a
cONE HUNDRED+a;cFIVE+b;cONE THOUSAND+a;cFIVE+b;dSTATERS;cTEN+a;cFIFTY+a;cONE HUNDRED+a;cFIVE+b
cONE THOUSAND+a;cTEN+b;cFIFTY+b;cTEN MNAS;bHERAEUM ONE PLETHRON;bTHESPIAN ONE;bHERMIONIAN+a
bEPIDAUREAN TWO;bTHESPIAN+a;bCYRENAIC TWO DRACHMAS;bEPIDAUREAN+b;bTROEZENIAN FIVE;cTEN
dALTERNATE FORM;bHERMIONIAN TEN;bMESSENIAN+a;bTHESPIAN+a;cTHIRTY;bTROEZENIAN FIFTY
dALTERNATE FORM;bHERMIONIAN FIFTY;bTHESPIAN+a;cONE HUNDRED;cTHREE+a;bEPIDAUREAN FIVE+a
bTROEZENIAN+b;bTHESPIAN+b;bCARYSTIAN+b;bNAXIAN+b;bTHESPIAN ONE THOUSAND;cFIVE+a
bDELPHIC FIVE MNAS;bSTRATIAN FIFTY+a;aONE HALF SIGN;dALTERNATE FORM;aTWO THIRDS SIGN
aTHREE QUARTERS+a;aYEAR+a;aTALENT+a;aDRACHMA+a;aOBOL+a;aTWO OBOLS+a;aTHREE+b;aFOUR+b;aFIVE+b
aMETRETES+a;aKYATHOS BASE+a;aLITRA+a;aOUNKIA+a;aXESTES+a;aARTABE+a;aAROURA+a;aGRAMMA+a
aTRYBLION BASE+a;aZERO+a;aONE QUARTER+a;aSINUSOID+a;aINDICTION+a;NOMISMA+a"),
   (0x10190, "ROMAN SEXTANS SIGN;aUNCIA+a;aSEMUNCIA+a;aSEXTULA+a;aDIMIDIA+b;aSILIQUA+a
aDENARIUS+a;aQUINARIUS+a;aSESTERTIUS+a;aDUPONDIUS+a;aAS+a;aCENTURIAL+a;ASCIA SYMBOL"),
   (0x101A0, "GREEK SYMBOL TAU RHO"),
   (0x101D0, "PHAISTOS DISC SIGN PEDESTRIAN;cPLUMED HEAD;cTATTOOED+a;cCAPTIVE;cCHILD;cWOMAN
cHELMET;cGAUNTLET;cTIARA;cARROW;cBOW;cSHIELD;cCLUB;cMANACLES;cMATTOCK;cSAW;cLID;cBOOMERANG
cCARPENTRY PLANE;cDOLIUM;cCOMB;cSLING;cCOLUMN;cBEEHIVE;cSHIP;cHORN;cHIDE;cBULLS LEG;cCAT;cRAM
cEAGLE;cDOVE;cTUNNY;cBEE;cPLANE TREE;cVINE;cPAPYRUS;cROSETTE;cLILY;cOX BACK;cFLUTE;cGRATER
cSTRAINER;cSMALL AXE;cWAVY BAND;cCOMBINING OBLIQUE STROKE"),
   (0x10280, "LYCIAN LETTER A;bE;bB;bBH;bG;bD;bI;bW;bZ;bTH;bJ;bK;bQ;bL;bM;bN;bMM;bNN;bU;bP;bKK
bR;bS;bT;bTT;bAN;bEN;bH;bX"),
   (0x102A0, "CARIAN LETTER A;bP2;bD;bL;bUUU;bR;bLD;bA2;bQ;bB;bM;bO;bD2;bT;bSH;bSH2;bS;bC-18;bU
bNN;bX;bN;bTT2;bP;bSS;bI;bE;bUUUU;bK;bK2;bND;bUU;bG;bG2;bST;bST2;bNG;bII;bC-39;bTT;bUUU2;bRR
bMB;bMB2;bMB3;bMB4;bLD2;bE2;bUUU3"),
   (0x102E0, "COPTIC EPACT THOUSANDS MARK;bDIGIT ONE;cTWO;cTHREE;cFOUR;cFIVE;cSIX;cSEVEN;cEIGHT
cNINE;bNUMBER TEN;cTWENTY;cTHIRTY;cFORTY;cFIFTY;cSIXTY;cSEVENTY;cEIGHTY;cNINETY;cONE HUNDRED
cTWO+a;cTHREE+a;cFOUR+a;cFIVE+a;cSIX+a;cSEVEN+a;cEIGHT+a;cNINE+a"),
   (0x10300, "OLD ITALIC LETTER A;cBE;cKE;cDE;cE;cVE;cZE;cHE;cTHE;cI;cKA;cEL;cEM;cEN;cESH;cO;cPE
cSHE;cKU;cER;cES;cTE;cU;cEKS;cPHE;cKHE;cEF;cERS;cCHE;cII;cUU;cESS;bNUMERAL ONE;cFIVE;cTEN;cFIFTY"),
   (0x1032D, "OLD ITALIC LETTER YE;cNORTHERN TSE;cSOUTHERN+a;GOTHIC LETTER AHSA;bBAIRKAN;bGIBA
bDAGS;bAIHVUS;bQAIRTHRA;bIUJA;bHAGL;bTHIUTH;bEIS;bKUSMA;bLAGUS;bMANNA;bNAUTHS;bJER;bURUS
bPAIRTHRA;bNINETY;bRAIDA;bSAUIL;bTEIWS;bWINJA;bFAIHU;bIGGWS;bHWAIR;bOTHAL;bNINE HUNDRED"),
   (0x10350, "OLD PERMIC LETTER AN;cBUR;cGAI;cDOI;cE;cZHOI;cDZHOI;cZATA;cDZITA;cI;cKOKE;cLEI
cMENOE;cNENOE;cVOOI;cPEEI;cREI;cSII;cTAI;cU;cCHERY;cSHOOI;cSHCHOOI;cYRY;cYERU;cO;cOO;cEF;cHA
cTSIU;cVER;cYER;cYERI;cYAT;cIE;cYU;cYA;cIA;COMBINING OLD PERMIC LETTER AN;dDOI;dZATA;dNENOE;dSII"),
   (0x10380, "UGARITIC LETTER ALPA;bBETA;bGAMLA;bKHA;bDELTA;bHO;bWO;bZETA;bHOTA;bTET;bYOD;bKAF
bSHIN;bLAMDA;bMEM;bDHAL;bNUN;bZU;bSAMKA;bAIN;bPU;bSADE;bQOPA;bRASHA;bTHANNA;bGHAIN;bTO;bI;bU
bSSU"),
   (0x1039F, "UGARITIC WORD DIVIDER;OLD PERSIAN SIGN A;cI;cU;cKA;cKU;cGA;cGU;cXA;cCA;cJA;cJI;cTA
cTU;cDA;cDI;cDU;cTHA;cPA;cBA;cFA;cNA;cNU;cMA;cMI;cMU;cYA;cVA;cVI;cRA;cRU;cLA;cSA;cZA;cSHA;cSSA
cHA"),
   (0x103C8, "OLD PERSIAN SIGN AURAMAZDAA;cAURAMAZDAA-2;cAURAMAZDAAHA;cXSHAAYATHIYA;cDAHYAAUSH
cDAHYAAUSH-2;cBAGA;cBUUMISH;bWORD DIVIDER;bNUMBER ONE;cTWO;cTEN;cTWENTY;cHUNDRED"),
   (0x10400, "DESERET CAPITAL LETTER LONG I;dE;dA;dAH;dO;dOO;cSHORT I;dE;dA;dAH;dO;dOO;cAY;cOW
cWU;cYEE;cH;cPEE;cBEE;cTEE;cDEE;cCHEE;cJEE;cKAY;cGAY;cEF;cVEE;cETH;cTHEE;cES;cZEE;cESH;cZHEE
cER;cEL;cEM;cEN;cENG;cOI;cEW;aSMALL LETTER LONG I;dE;dA;dAH;dO;dOO;cSHORT I;dE;dA;dAH;dO;dOO
cAY;cOW;cWU;cYEE;cH;cPEE;cBEE;cTEE;cDEE;cCHEE;cJEE;cKAY;cGAY;cEF;cVEE;cETH;cTHEE;cES;cZEE;cESH
cZHEE;cER;cEL;cEM;cEN;cENG;cOI;cEW;SHAVIAN LETTER PEEP;bTOT;bKICK;bFEE;bTHIGH;bSO;bSURE;bCHURCH
bYEA;bHUNG;bBIB;bDEAD;bGAG;bVOW;bTHEY;bZOO;bMEASURE;bJUDGE;bWOE;bHA-HA;bLOLL;bMIME;bIF;bEGG
bASH;bADO;bON;bWOOL;bOUT;bAH;bROAR;bNUN;bEAT;bAGE;bICE;bUP;bOAK;bOOZE;bOIL;bAWE;bARE;bOR;bAIR
bERR;bARRAY;bEAR;bIAN;bYEW;OSMANYA LETTER ALEF;bBA;bTA;bJA;bXA;bKHA;bDEEL;bRA;bSA;bSHIIN;bDHA
bCAYN;bGA;bFA;bQAAF;bKAAF;bLAAN;bMIIN;bNUUN;bWAW;bHA;bYA;bA;bE;bI;bO;bU;bAA;bEE;bOO"),
   (0x104A0, "OSMANYA DIGIT ZERO;bONE;bTWO;bTHREE;bFOUR;bFIVE;bSIX;bSEVEN;bEIGHT;bNINE"),
   (0x104B0, "OSAGE CAPITAL LETTER A;cAI;cAIN;cAH;cBRA;cCHA;cEHCHA;cE;cEIN;cHA;cHYA;cI;cKA;cEHKA
cKYA;cLA;cMA;cNA;cO;cOIN;cPA;cEHPA;cSA;cSHA;cTA;cEHTA;cTSA;cEHTSA;cTSHA;cDHA;cU;cWA;cKHA;cGHA
cZA;cZHA"),
   (0x104D8, "OSAGE SMALL LETTER A;cAI;cAIN;cAH;cBRA;cCHA;cEHCHA;cE;cEIN;cHA;cHYA;cI;cKA;cEHKA
cKYA;cLA;cMA;cNA;cO;cOIN;cPA;cEHPA;cSA;cSHA;cTA;cEHTA;cTSA;cEHTSA;cTSHA;cDHA;cU;cWA;cKHA;cGHA
cZA;cZHA"),
   (0x10500, "ELBASAN LETTER A;bBE;bCE;bCHE;bDE;bNDE;bDHE;bEI;bE;bFE;bGE;bGJE;bHE;bI;bJE;bKE;bLE
bLLE;bME;bNE;bNA;bNJE;bO;bPE;bQE;bRE;bRRE;bSE;bSHE;bTE;bTHE;bU;bVE;bXE;bY;bZE;bZHE;bGHE;bGHAMMA
bKHE"),
   (0x10530, "CAUCASIAN ALBANIAN LETTER ALT;cBET;cGIM;cDAT;cEB;cZARL;cEYN;cZHIL;cTAS;cCHA;cYOWD
cZHA;cIRB;cSHA;cLAN;cINYA;cXEYN;cDYAN;cCAR;cJHOX;cKAR;cLYIT;cHEYT;cQAY;cAOR;cCHOY;cCHI;cCYAY
cMAQ;cQAR;cNOWC;cDZYAY;cSHAK;cJAYN;cON;cTYAY;cFAM;cDZAY;cCHAT;cPEN;cGHEYS;cRAT;cSEYK;cVEYZ
cTIWR;cSHOY;cIWN;cCYAW;cCAYN;cYAYD;cPIWR;cKIW"),
   (0x1056F, "CAUCASIAN ALBANIAN CITATION MARK;VITHKUQI CAPITAL LETTER A;cBBE;cBE;cCE;cCHE;cDE
cDHE;cEI;cE;cFE;cGA"),
   (0x1057C, "VITHKUQI CAPITAL LETTER HA;cHHA;cI;cIJE;cJE;cKA;cLA;cLLA;cME;cNE;cNJE;cO;cPE;cQA
cRE"),
   (0x1058C, "VITHKUQI CAPITAL LETTER SE;cSHE;cTE;cTHE;cU;cVE;cXE"),
   (0x10594, "VITHKUQI CAPITAL LETTER Y;cZE"),
   (0x10597, "VITHKUQI SMALL LETTER A;cBBE;cBE;cCE;cCHE;cDE;cDHE;cEI;cE;cFE;cGA"),
   (0x105A3, "VITHKUQI SMALL LETTER HA;cHHA;cI;cIJE;cJE;cKA;cLA;cLLA;cME;cNE;cNJE;cO;cPE;cQA;cRE"),
   (0x105B3, "VITHKUQI SMALL LETTER SE;cSHE;cTE;cTHE;cU;cVE;cXE"),
   (0x105BB, "VITHKUQI SMALL LETTER Y;cZE"),
   (0x10600, "LINEAR A SIGN AB001;cAB002;cAB003;cAB004;cAB005;cAB006;cAB007;cAB008;cAB009;cAB010
cAB011;cAB013;cAB016;cAB017;cAB020;cAB021;cAB021F;cAB021M;cAB022;cAB022F;cAB022M;cAB023;cAB023M
cAB024;cAB026;cAB027;cAB028;cA028B;cAB029;cAB030;cAB031;cAB034;cAB037;cAB038;cAB039;cAB040
cAB041;cAB044;cAB045;cAB046;cAB047;cAB048;cAB049;cAB050;cAB051;cAB053;cAB054;cAB055;cAB056
cAB057;cAB058;cAB059;cAB060;cAB061;cAB065;cAB066;cAB067;cAB069;cAB070;cAB073;cAB074;cAB076
cAB077;cAB078;cAB079;cAB080;cAB081;cAB082;cAB085;cAB086;cAB087;cA100-102;cAB118;cAB120;cA120B
cAB122;cAB123;cAB131A;cAB131B;cA131C;cAB164;cAB171;cAB180;cAB188;cAB191;cA301;cA302;cA303;cA304
cA305;cA306;cA307;cA308;cA309A;cA309B;cA309C;cA310;cA311;cA312;cA313A;cA313B;cA313C;cA314;cA315
cA316;cA317;cA318;cA319;cA320;cA321;cA322;cA323;cA324;cA325;cA326;cA327;cA328;cA329;cA330;cA331
cA332;cA333;cA334;cA335;cA336;cA337;cA338;cA339;cA340;cA341;cA342;cA343;cA344;cA345;cA346;cA347
cA348;cA349;cA350;cA351;cA352;cA353;cA354;cA355;cA356;cA357;cA358;cA359;cA360;cA361;cA362;cA363
cA364;cA365;cA366;cA367;cA368;cA369;cA370;cA371;cA400-VAS;cA401-VAS;cA402-VAS;cA403-VAS
cA404-VAS;cA405-VAS;cA406-VAS;cA407-VAS;cA408-VAS;cA409-VAS;cA410-VAS;cA411-VAS;cA412-VAS
cA413-VAS;cA414-VAS;cA415-VAS;cA416-VAS;cA417-VAS;cA418-VAS;cA501;cA502;cA503;cA504;cA505;cA506
cA508;cA509;cA510;cA511;cA512;cA513;cA515;cA516;cA520;cA521;cA523;cA524;cA525;cA526;cA527;cA528
cA529;cA530;cA531;cA532;cA534;cA535;cA536;cA537;cA538;cA539;cA540;cA541;cA542;cA545;cA547;cA548
cA549;cA550;cA551;cA552;cA553;cA554;cA555;cA556;cA557;cA559;cA563;cA564;cA565;cA566;cA568;cA569
cA570;cA571;cA572;cA573;cA574;cA575;cA576;cA577;cA578;cA579;cA580;cA581;cA582;cA583;cA584;cA585
cA586;cA587;cA588;cA589;cA591;cA592;cA594;cA595;cA596;cA598;cA600;cA601;cA602;cA603;cA604;cA606
cA608;cA609;cA610;cA611;cA612;cA613;cA614;cA615;cA616;cA617;cA618;cA619;cA620;cA621;cA622;cA623
cA624;cA626;cA627;cA628;cA629;cA634;cA637;cA638;cA640;cA642;cA643;cA644;cA645;cA646;cA648;cA649
cA651;cA652;cA653;cA654;cA655;cA656;cA657;cA658;cA659;cA660;cA661;cA662;cA663;cA664"),
   (0x10740, "LINEAR A SIGN A701 A;cA702 B;cA703 D;cA704 E;cA705 F;cA706 H;cA707 J;cA708 K
cA709 L;cA709-2 L2;cA709-3 L3;cA709-4 L4;cA709-6 L6;cA710 W;cA711 X;cA712 Y;cA713 OMEGA
cA714 ABB;cA715 BB;cA717 DD;cA726 EYYY;cA732 JE"),
   (0x10760, "LINEAR A SIGN A800;cA801;cA802;cA803;cA804;cA805;cA806;cA807"),
   (0x10780, "MODIFIER LETTER SMALL CAPITAL AA;bSUPERSCRIPT TRIANGULAR COLON;cHALF+b;bSMALL AE
cCAPITAL B;cB WITH HOOK"),
   (0x10787, "MODIFIER LETTER SMALL DZ DIGRAPH;eWITH RETROFLEX HOOK;fCURL;cDEZH DIGRAPH
cD WITH TAIL;eHOOK;fAND TAIL;cREVERSED E;cCLOSED REVERSED OPEN E;cFENG DIGRAPH;cRAMS HORN
cCAPITAL G;cG WITH HOOK;cCAPITAL+c;cH WITH STROKE;cCAPITAL H;cHENG WITH HOOK
cDOTLESS J WITH STROKE AND+a;cLS DIGRAPH;cLZ+a;cL WITH BELT;cCAPITAL+c
cL WITH RETROFLEX HOOK AND+a;cLEZH;dWITH RETROFLEX HOOK;cTURNED Y;eWITH BELT;cO WITH STROKE
cCAPITAL OE;cCLOSED OMEGA;cQ;cTURNED R WITH LONG LEG;hAND RETROFLEX HOOK;cR WITH TAIL;eFISHHOOK
cCAPITAL R;cTC DIGRAPH WITH CURL;cTS DIGRAPH;eWITH RETROFLEX HOOK;cTESH DIGRAPH
cT WITH RETROFLEX HOOK;cV WITH RIGHT+a"),
   (0x107B2, "MODIFIER LETTER SMALL CAPITAL Y;bGLOTTAL STOP WITH STROKE;bREVERSED+d
bBILABIAL CLICK;bDENTAL+a;bLATERAL+a;bALVEOLAR+a;bRETROFLEX CLICK WITH RETROFLEX HOOK
bSMALL S WITH CURL"),
   (0x10800, "CYPRIOT SYLLABLE A;bE;bI;bO;bU;bJA"),
   (0x10808, "CYPRIOT SYLLABLE JO"),
   (0x1080A, "CYPRIOT SYLLABLE KA;bKE;bKI;bKO;bKU;bLA;bLE;bLI;bLO;bLU;bMA;bME;bMI;bMO;bMU;bNA
bNE;bNI;bNO;bNU;bPA;bPE;bPI;bPO;bPU;bRA;bRE;bRI;bRO;bRU;bSA;bSE;bSI;bSO;bSU;bTA;bTE;bTI;bTO;bTU
bWA;bWE;bWI;bWO"),
   (0x10837, "CYPRIOT SYLLABLE XA;bXE"),
   (0x1083C, "CYPRIOT SYLLABLE ZA"),
   (0x1083F, "CYPRIOT SYLLABLE ZO;IMPERIAL ARAMAIC LETTER ALEPH;cBETH;cGIMEL;cDALETH;cHE;cWAW
cZAYIN;cHETH;cTETH;cYODH;cKAPH;cLAMEDH;cMEM;cNUN;cSAMEKH;cAYIN;cPE;cSADHE;cQOPH;cRESH;cSHIN;cTAW"),
   (0x10857, "IMPERIAL ARAMAIC SECTION SIGN;bNUMBER ONE;cTWO;cTHREE;cTEN;cTWENTY;cONE HUNDRED
dTHOUSAND;cTEN+a;PALMYRENE LETTER ALEPH;bBETH;bGIMEL;bDALETH;bHE;bWAW;bZAYIN;bHETH;bTETH;bYODH
bKAPH;bLAMEDH;bMEM;bFINAL NUN;b+a;bSAMEKH;bAYIN;bPE;bSADHE;bQOPH;bRESH;bSHIN;bTAW
aLEFT-POINTING FLEURON;aRIGHT-POINTING+a;aNUMBER ONE;bTWO;bTHREE;bFOUR;bFIVE;bTEN;bTWENTY
NABATAEAN LETTER FINAL ALEPH;b+a;bFINAL BETH;b+a;bGIMEL;bDALETH;bFINAL HE;bHE;bWAW;bZAYIN;bHETH
bTETH;bFINAL YODH;b+a;bFINAL KAPH;b+a;bFINAL LAMEDH;b+a;bFINAL MEM;b+a;bFINAL NUN;b+a;bSAMEKH
bAYIN;bPE;bSADHE;bQOPH;bRESH;bFINAL SHIN;b+a;bTAW"),
   (0x108A7, "NABATAEAN NUMBER ONE;bTWO;bTHREE;bFOUR;aCRUCIFORM+b;aNUMBER FIVE;bTEN;bTWENTY
bONE HUNDRED"),
   (0x108E0, "HATRAN LETTER ALEPH;bBETH;bGIMEL;bDALETH-RESH;bHE;bWAW;bZAYN;bHETH;bTETH;bYODH
bKAPH;bLAMEDH;bMEM;bNUN;bSAMEKH;bAYN;bPE;bSADHE;bQOPH"),
   (0x108F4, "HATRAN LETTER SHIN;bTAW"),
   (0x108FB, "HATRAN NUMBER ONE;bFIVE;bTEN;bTWENTY;bONE HUNDRED;PHOENICIAN LETTER ALF;bBET;bGAML
bDELT;bHE;bWAU;bZAI;bHET;bTET;bYOD;bKAF;bLAMD;bMEM;bNUN;bSEMK;bAIN;bPE;bSADE;bQOF;bROSH;bSHIN
bTAU;aNUMBER ONE;bTEN;bTWENTY;bONE HUNDRED;bTWO;bTHREE"),
   (0x1091F, "PHOENICIAN WORD SEPARATOR;LYDIAN LETTER A;bB;bG;bD;bE;bV;bI;bY;bK;bL;bM;bN;bO;bR
bSS;bT;bU;bF;bQ;bS;bTT;bAN;bEN;bLY;bNN;bC"),
   (0x1093F, "LYDIAN TRIANGULAR MARK"),
   (0x10980, "MEROITIC HIEROGLYPHIC LETTER A;cE;cI;cO;cYA;cWA;cBA;cBA-2;cPA;cMA;cNA;cNA-2;cNE
cNE-2;cRA;cRA-2;cLA;cKHA;cHHA;cSA;cSA-2;cSE;cKA;cQA;cTA;cTA-2;cTE;cTE-2;cTO;cDA;bSYMBOL VIDJ
cVIDJ-2;aCURSIVE LETTER A;cE;cI;cO;cYA;cWA;cBA;cPA;cMA;cNA;cNE;cRA;cLA;cKHA;cHHA;cSA;cARCHAIC+a
cSE;cKA;cQA;cTA;cTE;cTO;cDA"),
   (0x109BC, "MEROITIC CURSIVE FRACTION ELEVEN TWELFTHS;cONE HALF;bLOGOGRAM RMT;cIMN;bNUMBER ONE
cTWO;cTHREE;cFOUR;cFIVE;cSIX;cSEVEN;cEIGHT;cNINE;cTEN;cTWENTY;cTHIRTY;cFORTY;cFIFTY;cSIXTY
cSEVENTY"),
   (0x109D2, "MEROITIC CURSIVE NUMBER ONE HUNDRED;cTWO+a;cTHREE+a;cFOUR+a;cFIVE+a;cSIX+a
cSEVEN+a;cEIGHT+a;cNINE+a;cONE THOUSAND;cTWO+a;cTHREE+a;cFOUR+a;cFIVE+a;cSIX+a;cSEVEN+a
cEIGHT+a;cNINE+a;cTEN+a;cTWENTY+a;cTHIRTY+a;cFORTY+a;cFIFTY+a;cSIXTY+a;cSEVENTY+a;cEIGHTY+a
cNINETY+a;cONE HUNDRED+a;cTWO+b;cTHREE+b;cFOUR+b;cFIVE+b;cSIX+b;cSEVEN+b;cEIGHT+b;cNINE+b
bFRACTION ONE TWELFTH;cTWO TWELFTHS;cTHREE+a;cFOUR+a;cFIVE+a;cSIX+a;cSEVEN+a;cEIGHT+a;cNINE+a
cTEN+a;KHAROSHTHI LETTER A;aVOWEL SIGN I;cU;cVOCALIC R"),
   (0x10A05, "KHAROSHTHI VOWEL SIGN E;cO"),
   (0x10A0C, "KHAROSHTHI VOWEL LENGTH MARK;aSIGN DOUBLE RING BELOW;bANUSVARA;bVISARGA;aLETTER KA
bKHA;bGA;bGHA"),
   (0x10A15, "KHAROSHTHI LETTER CA;bCHA;bJA"),
   (0x10A19, "KHAROSHTHI LETTER NYA;bTTA;bTTHA;bDDA;bDDHA;bNNA;bTA;bTHA;bDA;bDHA;bNA;bPA;bPHA
bBA;bBHA;bMA;bYA;bRA;bLA;bVA;bSHA;bSSA;bSA;bZA;bHA;bKKA;bTTTHA;bTTTA;bVHA"),
   (0x10A38, "KHAROSHTHI SIGN BAR ABOVE;bCAUDA;bDOT BELOW"),
   (0x10A3F, "KHAROSHTHI VIRAMA;aDIGIT ONE;bTWO;bTHREE;bFOUR;aNUMBER TEN;bTWENTY;bONE HUNDRED
cTHOUSAND;aFRACTION ONE HALF"),
   (0x10A50, "KHAROSHTHI PUNCTUATION DOT;bSMALL CIRCLE;b+a;bCRESCENT BAR;bMANGALAM;bLOTUS;bDANDA
bDOUBLE+a;bLINES"),
   (0x10A60, "OLD SOUTH ARABIAN LETTER HE;dLAMEDH;dHETH;dMEM;dQOPH;dWAW;dSHIN;dRESH;dBETH;dTAW
dSAT;dKAPH;dNUN;dKHETH;dSADHE;dSAMEKH;dFE;dALEF;dAYN;dDHADHE;dGIMEL;dDALETH;dGHAYN;dTETH;dZAYN
dDHALETH;dYODH;dTHAW;dTHETH;cNUMBER ONE;dFIFTY;cNUMERIC INDICATOR;aNORTH ARABIAN LETTER HEH
dLAM;dHAH;dMEEM;dQAF;dWAW;dES-2;dREH;dBEH;dTEH;dES-1;dKAF;dNOON;dKHAH;dSAD;dES-3;dFEH;dALEF
dAIN;dDAD;dGEEM;dDAL;dGHAIN;dTAH;dZAIN;dTHAL;dYEH;dTHEH;dZAH;cNUMBER ONE;dTEN;dTWENTY"),
   (0x10AC0, "MANICHAEAN LETTER ALEPH;bBETH;bBHETH;bGIMEL;bGHIMEL;bDALETH;bHE;bWAW;aSIGN UD
aLETTER ZAYIN;bZHAYIN;bJAYIN;bJHAYIN;bHETH;bTETH;bYODH;bKAPH;bXAPH;bKHAPH;bLAMEDH;bDHAMEDH
bTHAMEDH;bMEM;bNUN;bSAMEKH;bAYIN;bAAYIN;bPE;bFE;bSADHE;bQOPH;bXOPH;bQHOPH;bRESH;bSHIN;bSSHIN
bTAW;aABBREVIATION MARK ABOVE;cBELOW"),
   (0x10AEB, "MANICHAEAN NUMBER ONE;bFIVE;bTEN;bTWENTY;bONE HUNDRED;aPUNCTUATION STAR;bFLEURON
bDOUBLE DOT WITHIN DOT;b+c;c;bTWO DOTS;bLINE FILLER"),
   (0x10B00, "AVESTAN LETTER A;bAA;bAO;bAAO;bAN;bAAN;bAE;bAEE;bE;bEE;bO;bOO;bI;bII;bU;bUU;bKE
bXE;bXYE;bXVE;bGE;bGGE;bGHE;bCE;bJE;bTE;bTHE;bDE;bDHE;bTTE;bPE;bFE;bBE;bBHE;bNGE;bNGYE;bNGVE
bNE;bNYE;bNNE;bME;bHME;bYYE;bYE;bVE;bRE;bLE;bSE;bZE;bSHE;bZHE;bSHYE;bSSHE;bHE"),
   (0x10B39, "AVESTAN ABBREVIATION MARK;TINY TWO DOTS OVER ONE DOT PUNCTUATION;SMALL+f;LARGE+f
aONE DOT OVER TWO DOTS+a;aTWO RINGS OVER ONE RING+a;aONE RING OVER TWO RINGS+a
INSCRIPTIONAL PARTHIAN LETTER ALEPH;cBETH;cGIMEL;cDALETH;cHE;cWAW;cZAYIN;cHETH;cTETH;cYODH
cKAPH;cLAMEDH;cMEM;cNUN;cSAMEKH;cAYIN;cPE;cSADHE;cQOPH;cRESH;cSHIN;cTAW"),
   (0x10B58, "INSCRIPTIONAL PARTHIAN NUMBER ONE;cTWO;cTHREE;cFOUR;cTEN;cTWENTY;cONE HUNDRED
dTHOUSAND;aPAHLAVI LETTER ALEPH;cBETH;cGIMEL;cDALETH;cHE;cWAW-AYIN-RESH;cZAYIN;cHETH;cTETH
cYODH;cKAPH;cLAMEDH;cMEM-QOPH;cNUN;cSAMEKH;cPE;cSADHE;cSHIN;cTAW"),
   (0x10B78, "INSCRIPTIONAL PAHLAVI NUMBER ONE;cTWO;cTHREE;cFOUR;cTEN;cTWENTY;cONE HUNDRED
dTHOUSAND;PSALTER PAHLAVI LETTER ALEPH;cBETH;cGIMEL;cDALETH;cHE;cWAW-AYIN-RESH;cZAYIN;cHETH
cYODH;cKAPH;cLAMEDH;cMEM-QOPH;cNUN;cSAMEKH;cPE;cSADHE;cSHIN;cTAW"),
   (0x10B99, "PSALTER PAHLAVI SECTION MARK;bTURNED+b;bFOUR DOTS WITH CROSS;eDOT"),
   (0x10BA9, "PSALTER PAHLAVI NUMBER ONE;cTWO;cTHREE;cFOUR;cTEN;cTWENTY;cONE HUNDRED"),
   (0x10C00, "OLD TURKIC LETTER ORKHON A;cYENISEI A;dAE;cORKHON I;cYENISEI I;dE;cORKHON O;dOE
cYENISEI+a;cORKHON AB;cYENISEI+a;cORKHON AEB;cYENISEI+a;cORKHON AG;cYENISEI+a;cORKHON AEG
cYENISEI+a;cORKHON AD;cYENISEI+a;cORKHON AED;dEZ;cYENISEI+a;cORKHON AY;cYENISEI+a;cORKHON AEY
cYENISEI+a;cORKHON AEK;cYENISEI+a;cORKHON OEK;cYENISEI+a;cORKHON AL;cYENISEI+a;cORKHON AEL;dELT
dEM;dAN;dAEN;cYENISEI+a;cORKHON ENT;cYENISEI+a;cORKHON ENC;cYENISEI+a;cORKHON ENY;cYENISEI+a
dANG;cORKHON ENG;cYENISEI AENG;cORKHON EP;dOP;dIC;dEC;cYENISEI+a;cORKHON AQ;cYENISEI+a
cORKHON IQ;cYENISEI+a;cORKHON OQ;cYENISEI+a;cORKHON AR;cYENISEI+a;cORKHON AER;dAS;dAES;dASH
cYENISEI+a;cORKHON ESH;cYENISEI+a;cORKHON AT;cYENISEI+a;cORKHON AET;cYENISEI+a;cORKHON OT;dBASH"),
   (0x10C80, "OLD HUNGARIAN CAPITAL LETTER A;dAA;dEB;dAMB;dEC;dENC;dECS;dED;dAND;dE;dCLOSE E;dEE
dEF;dEG;dEGY;dEH;dI;dII;dEJ;dEK;dAK;dUNK;dEL;dELY;dEM;dEN;dENY;dO;dOO;dNIKOLSBURG OE
dRUDIMENTA+a;dOEE;dEP;dEMP;dER;dSHORT+a;dES;dESZ;dET;dENT;dETY;dECH;dU;dUU;dNIKOLSBURG UE
dRUDIMENTA+a;dEV;dEZ;dEZS;dENT-SHAPED SIGN;dUS"),
   (0x10CC0, "OLD HUNGARIAN SMALL LETTER A;dAA;dEB;dAMB;dEC;dENC;dECS;dED;dAND;dE;dCLOSE E;dEE
dEF;dEG;dEGY;dEH;dI;dII;dEJ;dEK;dAK;dUNK;dEL;dELY;dEM;dEN;dENY;dO;dOO;dNIKOLSBURG OE
dRUDIMENTA+a;dOEE;dEP;dEMP;dER;dSHORT+a;dES;dESZ;dET;dENT;dETY;dECH;dU;dUU;dNIKOLSBURG UE
dRUDIMENTA+a;dEV;dEZ;dEZS;dENT-SHAPED SIGN;dUS"),
   (0x10CFA, "OLD HUNGARIAN NUMBER ONE;cFIVE;cTEN;cFIFTY;cONE HUNDRED;dTHOUSAND
HANIFI ROHINGYA LETTER A;cBA;cPA;cTA;cTTA;cJA;cCA;cHA;cKHA;cFA;cDA;cDDA;cRA;cRRA;cZA;cSA;cSHA
cKA;cGA;cLA;cMA;cNA;cWA;cKINNA+a;cYA;cKINNA+a;cNGA;cNYA;cVA;bVOWEL A;cI;cU;cE;cO;bMARK SAKIN
cNA KHONNA;bSIGN HARBAHAY;cTAHALA;cTANA;cTASSI"),
   (0x10D30, "HANIFI ROHINGYA DIGIT ZERO;cONE;cTWO;cTHREE;cFOUR;cFIVE;cSIX;cSEVEN;cEIGHT;cNINE"),
   (0x10E60, "RUMI DIGIT ONE;bTWO;bTHREE;bFOUR;bFIVE;bSIX;bSEVEN;bEIGHT;bNINE;aNUMBER TEN
bTWENTY;bTHIRTY;bFORTY;bFIFTY;bSIXTY;bSEVENTY;bEIGHTY;bNINETY;bONE HUNDRED;bTWO+a;bTHREE+a
bFOUR+a;bFIVE+a;bSIX+a;bSEVEN+a;bEIGHT+a;bNINE+a;aFRACTION ONE HALF;cQUARTER;cTHIRD;bTWO THIRDS"),
   (0x10E80, "YEZIDI LETTER ELIF;bBE;bPE;bPHE;bTHE;bSE;bCIM;bCHIM;bCHHIM;bHHA;bXA;bDAL;bZAL;bRA
bRHA;bZA;bJA;bSIN;bSHIN;bSAD;bDAD;bTA;bZE;bEYN;bXHEYN;bFA;bVA;cALTERNATE FORM;bQAF;bKAF;bKHAF
bGAF;bLAM;bMIM;bNUN;bUM;bWAW;bOW;bEW;bHAY;bYOT;bET"),
   (0x10EAB, "YEZIDI COMBINING HAMZA MARK;bMADDA+a;aHYPHENATION+a"),
   (0x10EB0, "YEZIDI LETTER LAM WITH DOT ABOVE;bYOT WITH CIRCUMFLEX+a"),
   (0x10F00, "OLD SOGDIAN LETTER ALEPH;cFINAL+a;cBETH;cFINAL+a;cGIMEL;cHE;cFINAL+a;cWAW;cZAYIN
cHETH;cYODH;cKAPH;cLAMEDH;cMEM;cNUN;cFINAL+a;eWITH VERTICAL TAIL;cSAMEKH;cAYIN;cALTERNATE+a;cPE
cSADHE;cFINAL+a;eWITH VERTICAL TAIL;cRESH-AYIN-DALETH;cSHIN;cTAW;cFINAL+a;eWITH VERTICAL TAIL
bNUMBER ONE;cTWO;cTHREE;cFOUR;cFIVE;cTEN;cTWENTY;cTHIRTY;cONE HUNDRED;bFRACTION ONE HALF
bLIGATURE AYIN-DALETH"),
   (0x10F30, "SOGDIAN LETTER ALEPH;bBETH;bGIMEL;bHE;bWAW;bZAYIN;bHETH;bYODH;bKAPH;bLAMEDH;bMEM
bNUN;bSAMEKH;bAYIN;bPE;bSADHE;bRESH-AYIN;bSHIN;bTAW;bFETH;bLESH;aINDEPENDENT SHIN
aCOMBINING DOT BELOW;bTWO DOTS+a;bDOT ABOVE;bTWO DOTS+a;bCURVE+a;cBELOW;bHOOK ABOVE;cBELOW
bLONG+b;bRESH+a;bSTROKE+a;aNUMBER ONE;bTEN;bTWENTY;bONE HUNDRED;aPUNCTUATION TWO VERTICAL BARS
eWITH DOTS;bCIRCLE WITH DOT;bTWO CIRCLES WITH DOTS;bHALF CIRCLE WITH DOT"),
   (0x10F70, "OLD UYGHUR LETTER ALEPH;cBETH;cGIMEL-HETH;cWAW;cZAYIN;cFINAL HETH;cYODH;cKAPH
cLAMEDH;cMEM;cNUN;cSAMEKH;cPE;cSADHE;cRESH;cSHIN;cTAW;cLESH;bCOMBINING DOT ABOVE;dBELOW
cTWO DOTS ABOVE;eBELOW;bPUNCTUATION BAR;cTWO BARS;dDOTS;cFOUR+a"),
   (0x10FB0, "CHORASMIAN LETTER ALEPH;bSMALL+a;bBETH;bGIMEL;bDALETH;bHE;bWAW;bCURLED+a;bZAYIN
bHETH;bYODH;bKAPH;bLAMEDH;bMEM;bNUN;bSAMEKH;bAYIN;bPE;bRESH;bSHIN;bTAW;aNUMBER ONE;bTWO;bTHREE
bFOUR;bTEN;bTWENTY;bONE HUNDRED"),
   (0x10FE0, "ELYMAIC LETTER ALEPH;bBETH;bGIMEL;bDALETH;bHE;bWAW;bZAYIN;bHETH;bTETH;bYODH;bKAPH
bLAMEDH;bMEM;bNUN;bSAMEKH;bAYIN;bPE;bSADHE;bQOPH;bRESH;bSHIN;bTAW;aLIGATURE ZAYIN-YODH"),
   (0x11000, "BRAHMI SIGN CANDRABINDU;bANUSVARA;bVISARGA;bJIHVAMULIYA;bUPADHMANIYA;aLETTER A;bAA
bI;bII;bU;bUU;bVOCALIC R;cRR;cL;cLL;bE;bAI;bO;bAU;bKA;bKHA;bGA;bGHA;bNGA;bCA;bCHA;bJA;bJHA;bNYA
bTTA;bTTHA;bDDA;bDDHA;bNNA;bTA;bTHA;bDA;bDHA;bNA;bPA;bPHA;bBA;bBHA;bMA;bYA;bRA;bLA;bVA;bSHA
bSSA;bSA;bHA;bLLA;bOLD TAMIL LLLA;dRRA;dNNNA;aVOWEL SIGN AA;cBHATTIPROLU+a;cI;cII;cU;cUU
cVOCALIC R;dRR;dL;dLL;cE;cAI;cO;cAU;aVIRAMA;aDANDA;aDOUBLE+a;aPUNCTUATION DOT;bDOUBLE+a;bLINE
bCRESCENT BAR;bLOTUS"),
   (0x11052, "BRAHMI NUMBER ONE;bTWO;bTHREE;bFOUR;bFIVE;bSIX;bSEVEN;bEIGHT;bNINE;bTEN;bTWENTY
bTHIRTY;bFORTY;bFIFTY;bSIXTY;bSEVENTY;bEIGHTY;bNINETY;bONE HUNDRED;cTHOUSAND;aDIGIT ZERO;bONE
bTWO;bTHREE;bFOUR;bFIVE;bSIX;bSEVEN;bEIGHT;bNINE;aSIGN OLD TAMIL VIRAMA
aLETTER OLD TAMIL SHORT E;eO;aVOWEL SIGN OLD TAMIL SHORT E;fO;aLETTER OLD TAMIL LLA"),
   (0x1107F, "BRAHMI NUMBER JOINER;KAITHI SIGN CANDRABINDU;bANUSVARA;bVISARGA;aLETTER A;bAA;bI
bII;bU;bUU;bE;bAI;bO;bAU;bKA;bKHA;bGA;bGHA;bNGA;bCA;bCHA;bJA;bJHA;bNYA;bTTA;bTTHA;bDDA;bDDDHA
bDDHA;bRHA;bNNA;bTA;bTHA;bDA;bDHA;bNA;bPA;bPHA;bBA;bBHA;bMA;bYA;bRA;bLA;bVA;bSHA;bSSA;bSA;bHA
aVOWEL SIGN AA;cI;cII;cU;cUU;cE;cAI;cO;cAU;aSIGN VIRAMA;bNUKTA;aABBREVIATION SIGN
aENUMERATION+a;aNUMBER+a;aSECTION MARK;aDOUBLE+b;aDANDA;aDOUBLE+a;aVOWEL SIGN VOCALIC R"),
   (0x110CD, "KAITHI NUMBER SIGN ABOVE"),
   (0x110D0, "SORA SOMPENG LETTER SAH;cTAH;cBAH;cCAH;cDAH;cGAH;cMAH;cNGAH;cLAH;cNAH;cVAH;cPAH
cYAH;cRAH;cHAH;cKAH;cJAH;cNYAH;cAH;cEEH;cIH;cUH;cOH;cEH;cMAE"),
   (0x110F0, "SORA SOMPENG DIGIT ZERO;cONE;cTWO;cTHREE;cFOUR;cFIVE;cSIX;cSEVEN;cEIGHT;cNINE"),
   (0x11100, "CHAKMA SIGN CANDRABINDU;bANUSVARA;bVISARGA;aLETTER AA;bI;bU;bE;bKAA;bKHAA;bGAA
bGHAA;bNGAA;bCAA;bCHAA;bJAA;bJHAA;bNYAA;bTTAA;bTTHAA;bDDAA;bDDHAA;bNNAA;bTAA;bTHAA;bDAA;bDHAA
bNAA;bPAA;bPHAA;bBAA;bBHAA;bMAA;bYYAA;bYAA;bRAA;bLAA;bWAA;bSAA;bHAA;aVOWEL SIGN A;cI;cII;cU;cUU
cE;cAI;cO;cAU;cOI;aO MARK;aAU+a;aVIRAMA;aMAAYYAA"),
   (0x11136, "CHAKMA DIGIT ZERO;bONE;bTWO;bTHREE;bFOUR;bFIVE;bSIX;bSEVEN;bEIGHT;bNINE
aSECTION MARK;aDANDA;aDOUBLE+a;aQUESTION MARK;aLETTER LHAA;aVOWEL SIGN AA;cEI;aLETTER VAA"),
   (0x11150, "MAHAJANI LETTER A;bI;bU;bE;bO;bKA;bKHA;bGA;bGHA;bCA;bCHA;bJA;bJHA;bNYA;bTTA;bTTHA
bDDA;bDDHA;bNNA;bTA;bTHA;bDA;bDHA;bNA;bPA;bPHA;bBA;bBHA;bMA;bRA;bLA;bVA;bSA;bHA;bRRA
aSIGN NUKTA;aABBREVIATION SIGN;aSECTION MARK;aLIGATURE SHRI"),
   (0x11180, "SHARADA SIGN CANDRABINDU;bANUSVARA;bVISARGA;aLETTER A;bAA;bI;bII;bU;bUU;bVOCALIC R
cRR;cL;cLL;bE;bAI;bO;bAU;bKA;bKHA;bGA;bGHA;bNGA;bCA;bCHA;bJA;bJHA;bNYA;bTTA;bTTHA;bDDA;bDDHA
bNNA;bTA;bTHA;bDA;bDHA;bNA;bPA;bPHA;bBA;bBHA;bMA;bYA;bRA;bLA;bLLA;bVA;bSHA;bSSA;bSA;bHA
aVOWEL SIGN AA;cI;cII;cU;cUU;cVOCALIC R;dRR;dL;dLL;cE;cAI;cO;cAU;aSIGN VIRAMA;bAVAGRAHA
bJIHVAMULIYA;bUPADHMANIYA;aOM;aDANDA;aDOUBLE+a;aABBREVIATION SIGN;aSEPARATOR;aSANDHI MARK
aSIGN NUKTA;aVOWEL MODIFIER MARK;aEXTRA SHORT VOWEL+a;aSUTRA+a;aVOWEL SIGN PRISHTHAMATRA E
aSIGN INVERTED CANDRABINDU;aDIGIT ZERO;bONE;bTWO;bTHREE;bFOUR;bFIVE;bSIX;bSEVEN;bEIGHT;bNINE
aEKAM;aSIGN SIDDHAM;aHEADSTROKE;aCONTINUATION SIGN;aSECTION MARK-1;bMARK-2"),
   (0x111E1, "SINHALA ARCHAIC DIGIT ONE;cTWO;cTHREE;cFOUR;cFIVE;cSIX;cSEVEN;cEIGHT;cNINE
bNUMBER TEN;cTWENTY;cTHIRTY;cFORTY;cFIFTY;cSIXTY;cSEVENTY;cEIGHTY;cNINETY;cONE HUNDRED;dTHOUSAND"),
   (0x11200, "KHOJKI LETTER A;bAA;bI;bU;bE;bAI;bO;bAU;bKA;bKHA;bGA;bGGA;bGHA;bNGA;bCA;bCHA;bJA
bJJA"),
   (0x11213, "KHOJKI LETTER NYA;bTTA;bTTHA;bDDA;bDDHA;bNNA;bTA;bTHA;bDA;bDDDA;bDHA;bNA;bPA;bPHA
bBA;bBBA;bBHA;bMA;bYA;bRA;bLA;bVA;bSA;bHA;bLLA;aVOWEL SIGN AA;cI;cII;cU;cE;cAI;cO;cAU
aSIGN ANUSVARA;bVIRAMA;bNUKTA;bSHADDA;aDANDA;aDOUBLE+a;aWORD SEPARATOR;aSECTION MARK;aDOUBLE+b
aABBREVIATION SIGN;aSIGN SUKUN"),
   (0x11280, "MULTANI LETTER A;bI;bU;bE;bKA;bKHA;bGA"),
   (0x11288, "MULTANI LETTER GHA"),
   (0x1128A, "MULTANI LETTER CA;bCHA;bJA;bJJA"),
   (0x1128F, "MULTANI LETTER NYA;bTTA;bTTHA;bDDA;bDDDA;bDDHA;bNNA;bTA;bTHA;bDA;bDHA;bNA;bPA;bPHA
bBA"),
   (0x1129F, "MULTANI LETTER BHA;bMA;bYA;bRA;bLA;bVA;bSA;bHA;bRRA;bRHA;aSECTION MARK"),
   (0x112B0, "KHUDAWADI LETTER A;bAA;bI;bII;bU;bUU;bE;bAI;bO;bAU;bKA;bKHA;bGA;bGGA;bGHA;bNGA;bCA
bCHA;bJA;bJJA;bJHA;bNYA;bTTA;bTTHA;bDDA;bDDDA;bRRA;bDDHA;bNNA;bTA;bTHA;bDA;bDHA;bNA;bPA;bPHA
bBA;bBBA;bBHA;bMA;bYA;bRA;bLA;bVA;bSHA;bSA;bHA;aSIGN ANUSVARA;aVOWEL SIGN AA;cI;cII;cU;cUU;cE
cAI;cO;cAU;aSIGN NUKTA;bVIRAMA"),
   (0x112F0, "KHUDAWADI DIGIT ZERO;bONE;bTWO;bTHREE;bFOUR;bFIVE;bSIX;bSEVEN;bEIGHT;bNINE"),
   (0x11300, "GRANTHA SIGN COMBINING ANUSVARA ABOVE;bCANDRABINDU;bANUSVARA;bVISARGA"),
   (0x11305, "GRANTHA LETTER A;bAA;bI;bII;bU;bUU;bVOCALIC R;cL"),
   (0x1130F, "GRANTHA LETTER EE;bAI"),
   (0x11313, "GRANTHA LETTER OO;bAU;bKA;bKHA;bGA;bGHA;bNGA;bCA;bCHA;bJA;bJHA;bNYA;bTTA;bTTHA
bDDA;bDDHA;bNNA;bTA;bTHA;bDA;bDHA;bNA"),
   (0x1132A, "GRANTHA LETTER PA;bPHA;bBA;bBHA;bMA;bYA;bRA"),
   (0x11332, "GRANTHA LETTER LA;bLLA"),
   (0x11335, "GRANTHA LETTER VA;bSHA;bSSA;bSA;bHA"),
   (0x1133B, "COMBINING BINDU BELOW;GRANTHA SIGN NUKTA;bAVAGRAHA;aVOWEL SIGN AA;cI;cII;cU;cUU
cVOCALIC R;dRR"),
   (0x11347, "GRANTHA VOWEL SIGN EE;cAI"),
   (0x1134B, "GRANTHA VOWEL SIGN OO;cAU;aSIGN VIRAMA"),
   (0x11350, "GRANTHA OM"),
   (0x11357, "GRANTHA AU LENGTH MARK"),
   (0x1135D, "GRANTHA SIGN PLUTA;aLETTER VEDIC ANUSVARA;cDOUBLE+a;bVOCALIC RR;cLL
aVOWEL SIGN VOCALIC L;dLL"),
   (0x11366, "COMBINING GRANTHA DIGIT ZERO;cONE;cTWO;cTHREE;cFOUR;cFIVE;cSIX"),
   (0x11370, "COMBINING GRANTHA LETTER A;cKA;cNA;cVI;cPA"),
   (0x11400, "NEWA LETTER A;bAA;bI;bII;bU;bUU;bVOCALIC R;cRR;cL;cLL;bE;bAI;bO;bAU;bKA;bKHA;bGA
bGHA;bNGA;bNGHA;bCA;bCHA;bJA;bJHA;bNYA;bNYHA;bTTA;bTTHA;bDDA;bDDHA;bNNA;bTA;bTHA;bDA;bDHA;bNA
bNHA;bPA;bPHA;bBA;bBHA;bMA;bMHA;bYA;bRA;bRHA;bLA;bLHA;bWA;bSHA;bSSA;bSA;bHA;aVOWEL SIGN AA;cI
cII;cU;cUU;cVOCALIC R;dRR;dL;dLL;cE;cAI;cO;cAU;aSIGN VIRAMA;bCANDRABINDU;bANUSVARA;bVISARGA
bNUKTA;bAVAGRAHA;bFINAL ANUSVARA;aOM;aSIDDHI;aDANDA;aDOUBLE+a;aCOMMA;aGAP FILLER
aABBREVIATION SIGN;aDIGIT ZERO;bONE;bTWO;bTHREE;bFOUR;bFIVE;bSIX;bSEVEN;bEIGHT;bNINE
aDOUBLE COMMA;aPLACEHOLDER MARK"),
   (0x1145D, "NEWA INSERTION SIGN;aSANDHI MARK;aLETTER VEDIC ANUSVARA;aSIGN JIHVAMULIYA
bUPADHMANIYA"),
   (0x11480, "TIRHUTA ANJI;aLETTER A;bAA;bI;bII;bU;bUU;bVOCALIC R;cRR;cL;cLL;bE;bAI;bO;bAU;bKA
bKHA;bGA;bGHA;bNGA;bCA;bCHA;bJA;bJHA;bNYA;bTTA;bTTHA;bDDA;bDDHA;bNNA;bTA;bTHA;bDA;bDHA;bNA;bPA
bPHA;bBA;bBHA;bMA;bYA;bRA;bLA;bVA;bSHA;bSSA;bSA;bHA;aVOWEL SIGN AA;cI;cII;cU;cUU;cVOCALIC R;dRR
dL;dLL;cE;cSHORT E;cAI;cO;cSHORT O;cAU;aSIGN CANDRABINDU;bANUSVARA;bVISARGA;bVIRAMA;bNUKTA
bAVAGRAHA;aGVANG;aABBREVIATION SIGN;aOM"),
   (0x114D0, "TIRHUTA DIGIT ZERO;bONE;bTWO;bTHREE;bFOUR;bFIVE;bSIX;bSEVEN;bEIGHT;bNINE"),
   (0x11580, "SIDDHAM LETTER A;bAA;bI;bII;bU;bUU;bVOCALIC R;cRR;cL;cLL;bE;bAI;bO;bAU;bKA;bKHA
bGA;bGHA;bNGA;bCA;bCHA;bJA;bJHA;bNYA;bTTA;bTTHA;bDDA;bDDHA;bNNA;bTA;bTHA;bDA;bDHA;bNA;bPA;bPHA
bBA;bBHA;bMA;bYA;bRA;bLA;bVA;bSHA;bSSA;bSA;bHA;aVOWEL SIGN AA;cI;cII;cU;cUU;cVOCALIC R;dRR"),
   (0x115B8, "SIDDHAM VOWEL SIGN E;cAI;cO;cAU;aSIGN CANDRABINDU;bANUSVARA;bVISARGA;bVIRAMA
bNUKTA;bSIDDHAM;aDANDA;aDOUBLE+a;aSEPARATOR DOT;bBAR;aREPETITION MARK-1;bMARK-2;bMARK-3
aEND OF TEXT MARK;aSECTION MARK WITH TRIDENT AND U-SHAPED ORNAMENTS;fDOTTED CRESCENTS;dRAYS+c
gDOUBLE+a;gTRIPLE+a;cDOUBLE RING;eWITH RAYS;cWITH DOUBLE CRESCENTS;dTRIPLE+a;dQUADRUPLE+a
dSEPTUPLE+a;dCIRCLES AND RAYS;fTWO ENCLOSURES;fFOUR+a;aLETTER THREE-CIRCLE ALTERNATE I
bTWO-CIRCLE+b;dII;bALTERNATE U;aVOWEL SIGN+b;dUU"),
   (0x11600, "MODI LETTER A;bAA;bI;bII;bU;bUU;bVOCALIC R;cRR;cL;cLL;bE;bAI;bO;bAU;bKA;bKHA;bGA
bGHA;bNGA;bCA;bCHA;bJA;bJHA;bNYA;bTTA;bTTHA;bDDA;bDDHA;bNNA;bTA;bTHA;bDA;bDHA;bNA;bPA;bPHA;bBA
bBHA;bMA;bYA;bRA;bLA;bVA;bSHA;bSSA;bSA;bHA;bLLA;aVOWEL SIGN AA;cI;cII;cU;cUU;cVOCALIC R;dRR;dL
dLL;cE;cAI;cO;cAU;aSIGN ANUSVARA;bVISARGA;bVIRAMA;bARDHACANDRA;aDANDA;aDOUBLE+a
aABBREVIATION SIGN;aSIGN HUVA"),
   (0x11650, "MODI DIGIT ZERO;bONE;bTWO;bTHREE;bFOUR;bFIVE;bSIX;bSEVEN;bEIGHT;bNINE"),
   (0x11660, "MONGOLIAN BIRGA WITH ORNAMENT;aROTATED BIRGA;aDOUBLE BIRGA WITH ORNAMENT;aTRIPLE+c
aBIRGA WITH DOUBLE+a;aROTATED BIRGA WITH+a;dDOUBLE+a;aINVERTED BIRGA;cWITH DOUBLE ORNAMENT
aSWIRL BIRGA;cWITH ORNAMENT;dDOUBLE+a;aTURNED+e"),
   (0x11680, "TAKRI LETTER A;bAA;bI;bII;bU;bUU;bE;bAI;bO;bAU;bKA;bKHA;bGA;bGHA;bNGA;bCA;bCHA;bJA
bJHA;bNYA;bTTA;bTTHA;bDDA;bDDHA;bNNA;bTA;bTHA;bDA;bDHA;bNA;bPA;bPHA;bBA;bBHA;bMA;bYA;bRA;bLA
bVA;bSHA;bSA;bHA;bRRA;aSIGN ANUSVARA;bVISARGA;aVOWEL SIGN AA;cI;cII;cU;cUU;cE;cAI;cO;cAU
aSIGN VIRAMA;bNUKTA;aLETTER ARCHAIC KHA;aABBREVIATION SIGN"),
   (0x116C0, "TAKRI DIGIT ZERO;bONE;bTWO;bTHREE;bFOUR;bFIVE;bSIX;bSEVEN;bEIGHT;bNINE"),
   (0x11700, "AHOM LETTER KA;bKHA;bNGA;bNA;bTA;bALTERNATE+a;bPA;bPHA;bBA;bMA;bJA;bCHA;bTHA;bRA
bLA;bSA;bNYA;bHA;bA;bDA;bDHA;bGA;bALTERNATE+a;bGHA;bBHA;bJHA;bALTERNATE BA"),
   (0x1171D, "AHOM CONSONANT SIGN MEDIAL LA;dRA;dLIGATING+a;aVOWEL SIGN A;cAA;cI;cII;cU;cUU;cE
cAW;cO;cAI;cAM;aSIGN KILLER"),
   (0x11730, "AHOM DIGIT ZERO;bONE;bTWO;bTHREE;bFOUR;bFIVE;bSIX;bSEVEN;bEIGHT;bNINE;aNUMBER TEN
bTWENTY;aSIGN SMALL SECTION;b+a;bRULAI;aSYMBOL VI;aLETTER CA;bTTA;bTTHA;bDDA;bDDHA;bNNA;bLLA"),
   (0x11800, "DOGRA LETTER A;bAA;bI;bII;bU;bUU;bE;bAI;bO;bAU;bKA;bKHA;bGA;bGHA;bNGA;bCA;bCHA;bJA
bJHA;bNYA;bTTA;bTTHA;bDDA;bDDHA;bNNA;bTA;bTHA;bDA;bDHA;bNA;bPA;bPHA;bBA;bBHA;bMA;bYA;bRA;bLA
bVA;bSHA;bSSA;bSA;bHA;bRRA;aVOWEL SIGN AA;cI;cII;cU;cUU;cVOCALIC R;dRR;cE;cAI;cO;cAU
aSIGN ANUSVARA;bVISARGA;bVIRAMA;bNUKTA;aABBREVIATION SIGN"),
   (0x118A0, "WARANG CITI CAPITAL LETTER NGAA;dA;dWI;dYU;dYA;dYO;dII;dUU;dE;dO;dANG;dGA;dKO;dENY
dYUJ;dUC;dENN;dODD;dTTE;dNUNG;dDA;dAT;dAM;dBU;dPU;dHIYO;dHOLO;dHORR;dHAR;dSSUU;dSII;dVIYO
bSMALL LETTER NGAA;dA;dWI;dYU;dYA;dYO;dII;dUU;dE;dO;dANG;dGA;dKO;dENY;dYUJ;dUC;dENN;dODD;dTTE
dNUNG;dDA;dAT;dAM;dBU;dPU;dHIYO;dHOLO;dHORR;dHAR;dSSUU;dSII;dVIYO;bDIGIT ZERO;cONE;cTWO;cTHREE
cFOUR;cFIVE;cSIX;cSEVEN;cEIGHT;cNINE;bNUMBER TEN;cTWENTY;cTHIRTY;cFORTY;cFIFTY;cSIXTY;cSEVENTY
cEIGHTY;cNINETY"),
   (0x118FF, "WARANG CITI OM;DIVES AKURU LETTER A;cAA;cI;cII;cU;cUU;cE"),
   (0x11909, "DIVES AKURU LETTER O"),
   (0x1190C, "DIVES AKURU LETTER KA;cKHA;cGA;cGHA;cNGA;cCA;cCHA;cJA"),
   (0x11915, "DIVES AKURU LETTER NYA;cTTA"),
   (0x11918, "DIVES AKURU LETTER DDA;cDDHA;cNNA;cTA;cTHA;cDA;cDHA;cNA;cPA;cPHA;cBA;cBHA;cMA;cYA
cYYA;cRA;cLA;cVA;cSHA;cSSA;cSA;cHA;cLLA;cZA;bVOWEL SIGN AA;dI;dII;dU;dUU;dE"),
   (0x11937, "DIVES AKURU VOWEL SIGN AI;dO"),
   (0x1193B, "DIVES AKURU SIGN ANUSVARA;cCANDRABINDU;cHALANTA;bVIRAMA;bPREFIXED NASAL SIGN
bMEDIAL YA;bINITIAL RA;bMEDIAL+a;bSIGN NUKTA;bDOUBLE DANDA;bGAP FILLER;bEND OF TEXT MARK"),
   (0x11950, "DIVES AKURU DIGIT ZERO;cONE;cTWO;cTHREE;cFOUR;cFIVE;cSIX;cSEVEN;cEIGHT;cNINE"),
   (0x119A0, "NANDINAGARI LETTER A;bAA;bI;bII;bU;bUU;bVOCALIC R;cRR"),
   (0x119AA, "NANDINAGARI LETTER E;bAI;bO;bAU;bKA;bKHA;bGA;bGHA;bNGA;bCA;bCHA;bJA;bJHA;bNYA;bTTA
bTTHA;bDDA;bDDHA;bNNA;bTA;bTHA;bDA;bDHA;bNA;bPA;bPHA;bBA;bBHA;bMA;bYA;bRA;bLA;bVA;bSHA;bSSA;bSA
bHA;bLLA;bRRA;aVOWEL SIGN AA;cI;cII;cU;cUU;cVOCALIC R;dRR"),
   (0x119DA, "NANDINAGARI VOWEL SIGN E;cAI;cO;cAU;aSIGN ANUSVARA;bVISARGA;bVIRAMA;bAVAGRAHA
bSIDDHAM;aHEADSTROKE;aVOWEL SIGN PRISHTHAMATRA E"),
   (0x11A00, "ZANABAZAR SQUARE LETTER A;bVOWEL SIGN I;dUE;dU;dE;dOE;dO;dAI;dAU;dREVERSED I
cLENGTH MARK;bLETTER KA;cKHA;cGA;cGHA;cNGA;cCA;cCHA;cJA;cNYA;cTTA;cTTHA;cDDA;cDDHA;cNNA;cTA
cTHA;cDA;cDHA;cNA;cPA;cPHA;cBA;cBHA;cMA;cTSA;cTSHA;cDZA;cDZHA;cZHA;cZA;c-A;cYA;cRA;cLA;cVA;cSHA
cSSA;cSA;cHA;cKSSA;bFINAL CONSONANT MARK;bSIGN VIRAMA;cCANDRABINDU;dWITH ORNAMENT;cCANDRA+b
cANUSVARA;cVISARGA;bCLUSTER-INITIAL LETTER RA;bCLUSTER-FINAL LETTER YA;dRA;dLA;dVA
bINITIAL HEAD MARK;bCLOSING+b;bMARK TSHEG;cSHAD;cDOUBLE+a;cLONG TSHEG
bINITIAL DOUBLE-LINED HEAD MARK;bCLOSING+c;bSUBJOINER"),
   (0x11A50, "SOYOMBO LETTER A;aVOWEL SIGN I;cUE;cU;cE;cO;cOE;cAI;cAU;cVOCALIC R;dL;bLENGTH MARK
aLETTER KA;bKHA;bGA;bGHA;bNGA;bCA;bCHA;bJA;bJHA;bNYA;bTTA;bTTHA;bDDA;bDDHA;bNNA;bTA;bTHA;bDA
bDHA;bNA;bPA;bPHA;bBA;bBHA;bMA;bTSA;bTSHA;bDZA;bZHA;bZA;b-A;bYA;bRA;bLA;bVA;bSHA;bSSA;bSA;bHA
bKSSA;aSIGN JIHVAMULIYA;bUPADHMANIYA;aCLUSTER-INITIAL LETTER RA;cLA;cSHA;cSA
aFINAL CONSONANT SIGN G;dK;dNG;dD;dN;dB;dM;dR;dL;dSH;dS;d-A;aSIGN ANUSVARA;bVISARGA
aGEMINATION MARK;aSUBJOINER;aMARK TSHEG;bSHAD;bDOUBLE+a;bPLUTA
aHEAD MARK WITH MOON AND SUN AND TRIPLE FLAME;h+a;g;aTERMINAL MARK-1;bMARK-2"),
   (0x11AB0, "CANADIAN SYLLABICS NATTILIK HI;cHII;cHO;cHOO;cHA;cHAA;cSHRI;cSHRII;cSHRO;cSHROO
cSHRA;cSHRAA;bSPE;bSPI;bSPO;bSPA;PAU CIN HAU LETTER PA;dKA;dLA;dMA;dDA;dZA;dVA;dNGA;dHA;dGA
dKHA;dSA;dBA;dCA;dTA;dTHA;dNA;dPHA;dRA;dFA;dCHA;dA;dE;dI;dO;dU;dUA;dIA;dFINAL P;eK;eT;eM;eN;eL
eW;eNG;eY;cRISING TONE LONG;e;cSANDHI GLOTTAL STOP;cRISING TONE LONG FINAL;e+a
cSANDHI GLOTTAL STOP+a;dTONE LONG;e;eLONG FINAL;e+a;cMID-LEVEL TONE;cGLOTTAL STOP VARIANT
cMID-LEVEL TONE LONG FINAL;e+a;cLOW-FALLING TONE LONG;e;cGLOTTAL STOP
cLOW-FALLING TONE LONG FINAL;e+a;cGLOTTAL STOP+a"),
   (0x11C00, "BHAIKSUKI LETTER A;bAA;bI;bII;bU;bUU;bVOCALIC R;cRR;cL"),
   (0x11C0A, "BHAIKSUKI LETTER E;bAI;bO;bAU;bKA;bKHA;bGA;bGHA;bNGA;bCA;bCHA;bJA;bJHA;bNYA;bTTA
bTTHA;bDDA;bDDHA;bNNA;bTA;bTHA;bDA;bDHA;bNA;bPA;bPHA;bBA;bBHA;bMA;bYA;bRA;bLA;bVA;bSHA;bSSA;bSA
bHA;aVOWEL SIGN AA;cI;cII;cU;cUU;cVOCALIC R;dRR;dL"),
   (0x11C38, "BHAIKSUKI VOWEL SIGN E;cAI;cO;cAU;aSIGN CANDRABINDU;bANUSVARA;bVISARGA;bVIRAMA
bAVAGRAHA;aDANDA;aDOUBLE+a;aWORD SEPARATOR;aGAP FILLER-1;bFILLER-2"),
   (0x11C50, "BHAIKSUKI DIGIT ZERO;bONE;bTWO;bTHREE;bFOUR;bFIVE;bSIX;bSEVEN;bEIGHT;bNINE
aNUMBER ONE;bTWO;bTHREE;bFOUR;bFIVE;bSIX;bSEVEN;bEIGHT;bNINE;bTEN;bTWENTY;bTHIRTY;bFORTY;bFIFTY
bSIXTY;bSEVENTY;bEIGHTY;bNINETY;aHUNDREDS UNIT MARK"),
   (0x11C70, "MARCHEN HEAD MARK;aMARK SHAD;aLETTER KA;bKHA;bGA;bNGA;bCA;bCHA;bJA;bNYA;bTA;bTHA
bDA;bNA;bPA;bPHA;bBA;bMA;bTSA;bTSHA;bDZA;bWA;bZHA;bZA;b-A;bYA;bRA;bLA;bSHA;bSA;bHA;bA"),
   (0x11C92, "MARCHEN SUBJOINED LETTER KA;cKHA;cGA;cNGA;cCA;cCHA;cJA;cNYA;cTA;cTHA;cDA;cNA;cPA
cPHA;cBA;cMA;cTSA;cTSHA;cDZA;cWA;cZHA;cZA"),
   (0x11CA9, "MARCHEN SUBJOINED LETTER YA;cRA;cLA;cSHA;cSA;cHA;cA;aVOWEL SIGN AA;cI;cU;cE;cO
aSIGN ANUSVARA;bCANDRABINDU"),
   (0x11D00, "MASARAM GONDI LETTER A;cAA;cI;cII;cU;cUU;cE"),
   (0x11D08, "MASARAM GONDI LETTER AI;cO"),
   (0x11D0B, "MASARAM GONDI LETTER AU;cKA;cKHA;cGA;cGHA;cNGA;cCA;cCHA;cJA;cJHA;cNYA;cTTA;cTTHA
cDDA;cDDHA;cNNA;cTA;cTHA;cDA;cDHA;cNA;cPA;cPHA;cBA;cBHA;cMA;cYA;cRA;cLA;cVA;cSHA;cSSA;cSA;cHA
cLLA;cKSSA;cJNYA;cTRA;bVOWEL SIGN AA;dI;dII;dU;dUU;dVOCALIC R"),
   (0x11D3A, "MASARAM GONDI VOWEL SIGN E"),
   (0x11D3C, "MASARAM GONDI VOWEL SIGN AI;dO"),
   (0x11D3F, "MASARAM GONDI VOWEL SIGN AU;bSIGN ANUSVARA;cVISARGA;cNUKTA;cCANDRA;cHALANTA
bVIRAMA;bREPHA;bRA-KARA"),
   (0x11D50, "MASARAM GONDI DIGIT ZERO;cONE;cTWO;cTHREE;cFOUR;cFIVE;cSIX;cSEVEN;cEIGHT;cNINE"),
   (0x11D60, "GUNJALA GONDI LETTER A;cAA;cI;cII;cU;cUU"),
   (0x11D67, "GUNJALA GONDI LETTER EE;cAI"),
   (0x11D6A, "GUNJALA GONDI LETTER OO;cAU;cYA;cVA;cBA;cBHA;cMA;cKA;cKHA;cTA;cTHA;cLA;cGA;cGHA
cDA;cDHA;cNA;cCA;cCHA;cTTA;cTTHA;cLLA;cJA;cJHA;cDDA;cDDHA;cNGA;cPA;cPHA;cHA;cRA;cSA
bVOWEL SIGN AA;dI;dII;dU;dUU"),
   (0x11D90, "GUNJALA GONDI VOWEL SIGN EE;dAI"),
   (0x11D93, "GUNJALA GONDI VOWEL SIGN OO;dAU;bSIGN ANUSVARA;cVISARGA;bVIRAMA;bOM"),
   (0x11DA0, "GUNJALA GONDI DIGIT ZERO;cONE;cTWO;cTHREE;cFOUR;cFIVE;cSIX;cSEVEN;cEIGHT;cNINE"),
   (0x11EE0, "MAKASAR LETTER KA;bGA;bNGA;bPA;bBA;bMA;bTA;bDA;bNA;bCA;bJA;bNYA;bYA;bRA;bLA;bVA
bSA;bA;aANGKA;aVOWEL SIGN I;cU;cE;cO;aPASSIMBANG;aEND OF SECTION"),
   (0x11FB0, "LISU LETTER YHA"),
   (0x11FC0, "TAMIL FRACTION ONE THREE-HUNDRED-AND-TWENTIETH;cONE-HUNDRED-AND-SIXTIETH
cEIGHTIETH;cSIXTY-FOURTH;cFORTIETH;cTHIRTY-SECOND;bTHREE EIGHTIETHS;cSIXTY-FOURTHS
bONE TWENTIETH;cSIXTEENTH-1;cSIXTEENTH-2;cTENTH;cEIGHTH;bTHREE TWENTIETHS;cSIXTEENTHS
bONE FIFTH;cQUARTER;cHALF-1;cHALF-2;bTHREE QUARTERS;bDOWNSCALING FACTOR KIIZH;aSIGN NEL;bCEVITU
bAAZHAAKKU;bUZHAKKU;bMUUVUZHAKKU;bKURUNI;bPATHAKKU;bMUKKURUNI;bKAACU;bPANAM;bPON;bVARAAKAN
bPAARAM;bKUZHI;bVELI;aWET CULTIVATION SIGN;aDRY+b;aLAND+a;aSALT PAN+a;aTRADITIONAL CREDIT+a
bNUMBER+a;aCURRENT+a;aAND ODD+a;aSPENT+a;aTOTAL+a;aIN POSSESSION+a;aSTARTING FROM+a
aSIGN MUTHALIYA;bVAKAIYARAA"),
   (0x11FFF, "TAMIL PUNCTUATION END OF TEXT;CUNEIFORM SIGN A;cTIMES A;dBAD;dGAN2 TENU;dHA;dIGI
dLAGAR GUNU;dMUSH;dSAG;bA2;bAB;cTIMES ASH2;dDUN3 GUNU;dGAL;dGAN2 TENU;dHA;dIGI GUNU;dIMIN
dLAGAB;dSHESH;dU PLUS U PLUS U;cGUNU;bAB2;cTIMES BALAG;dGAN2 TENU;dME PLUS EN;dSHA3;dTAK4;bAD
bAK;cTIMES ERIN2;dSHITA PLUS GISH;bAL;cTIMES AL;dDIM2;dGISH;dHA;dKAD3;dKI;dSHE;dUSH;bALAN
bALEPH;bAMAR;cTIMES SHE;bAN;cOVER AN;cTHREE TIMES;cPLUS NAGA OPPOSING AN PLUS NAGA;eSQUARED
bANSHE;bAPIN;bARAD;cTIMES KUR;bARKAB;bASAL2;bASH;cZIDA TENU;cKABA+a
cOVER ASH TUG2 OVER TUG2 TUG2 OVER TUG2 PAP;eOVER ASH;gCROSSING ASH OVER ASH OVER ASH;bASH2
bASHGAB;bBA;bBAD;bBAG3;bBAHAR2;bBAL;cOVER BAL;bBALAG;bBAR;bBARA2;bBI;cTIMES A;dGAR;dIGI GUNU
bBU;cOVER BU AB;eUN;cCROSSING BU;bBULUG;cOVER BULUG;bBUR;bBUR2;bDA;bDAG
cKISIM5 TIMES A PLUS MASH;eAMAR;eBALAG;eBI;eGA;fPLUS MASH;eGI;eGIR2;eGUD;eHA;eIR;fPLUS LU;eKAK
eLA;eLU;fPLUS MASH2;eLUM;eNE;ePAP PLUS PAP;eSI;eTAK4;eU2 PLUS GIR2;eUSH;bDAM;bDAR;bDARA3;bDARA4
bDI;bDIB;bDIM;cTIMES SHE;bDIM2;bDIN;cKASKAL U GUNU DISH;b+a;bDU;cOVER DU;cGUNU;cSHESHIG;bDUB
cTIMES ESH2;bDUB2;bDUG;bDUGUD;bDUH;bDUN;bDUN3;cGUNU;dGUNU;bDUN4;bDUR2;bE;cTIMES PAP
cOVER E NUN OVER NUN;bE2;cTIMES A PLUS HA PLUS DA;dGAR;dMI;dSAL;dSHE;dU;bEDIN;bEGIR;bEL;bEN
cTIMES GAN2;eTENU;dME;cCROSSING EN;cOPPOSING+a;cSQUARED;bEREN;bERIN2;bESH2;bEZEN;cTIMES A
ePLUS LAL;gTIMES LAL;dAN;dBAD;dDUN3 GUNU;fGUNU;dHA;eGUNU;dIGI+a;dKASKAL;eSQUARED;dKU3;dLA
dLAL TIMES LAL;dLI;dLU;dU2;dUD;bGA;cGUNU;bGA2;cTIMES A PLUS DA PLUS HA;e+b;fIGI
dAB2 TENU PLUS TAB;dAN;dASH;dASH2 PLUS GAL;dBAD;dBAR PLUS RA;dBUR;ePLUS RA;dDA;dDI
dDIM TIMES SHE;dDUB;dEL;ePLUS LA;dEN;eTIMES GAN2 TENU;c+c;dGAR;dGI;dGI4;ePLUS A;dGIR2 PLUS SU
dHA PLUS LU PLUS ESH2;dHAL;ePLUS LA;dHI PLUS LI;dHUB2;dIGI GUNU;dISH PLUS HU PLUS ASH;dKAK
dKASKAL;dKID;ePLUS LAL;dKU3 PLUS AN;dLA;dME PLUS EN;dMI;dNUN;eOVER NUN;dPA;dSAL;dSAR;dSHE
ePLUS TUR;dSHID;dSUM;dTAK4;dU;dUD;ePLUS DU;cOVER GA2;bGABA;cCROSSING GABA;bGAD
cOVER GAD GAR OVER GAR;bGAL;cGAD OVER GAD GAR OVER GAR;bGALAM;bGAM;bGAN;bGAN2;cTENU;cOVER GAN2
cCROSSING+a;bGAR;bGAR3;bGASHAN;bGESHTIN;cTIMES KUR;bGI;cTIMES E;dU;cCROSSING GI;bGI4;cOVER GI4
cCROSSING+a;bGIDIM;bGIR2;cGUNU;bGIR3;cTIMES A PLUS IGI;dGAN2 TENU;dIGI;dLU PLUS+a;dPA;bGISAL
bGISH;cCROSSING GISH;cTIMES BAD;dTAK4;cTENU;bGU;cCROSSING GU;bGU2;cTIMES KAK;eTIMES IGI GUNU
dNUN;dSAL PLUS TUG2;cGUNU;bGUD;cTIMES A PLUS KUR;d+a;cOVER GUD LUGAL;bGUL;bGUM;cTIMES SHE;bGUR
bGUR7;bGURUN;bGURUSH;bHA;cTENU;cGUNU;bHAL;bHI;cTIMES ASH;dASH2;dBAD;dDISH;dGAD;dKIN;dNUN;dSHE
dU;bHU;bHUB2;cTIMES AN;dHAL;dKASKAL;dLISH;dUD;bHUL2;bI;cA;bIB;bIDIM;cOVER IDIM BUR;eSQUARED;bIG
bIGI;cDIB;cRI;cOVER IGI SHIR OVER SHIR UD OVER UD;cGUNU;bIL;cTIMES GAN2 TENU;bIL2;bIM
cTIMES TAK4;cCROSSING IM;cOPPOSING+a;cSQUARED;bIMIN;bIN;bIR;bISH;bKA;cTIMES A;dAD;ePLUS KU3
dASH2;dBAD;dBALAG;dBAR;dBI;dERIN2;dESH2;dGA;dGAL;dGAN2 TENU;dGAR;ePLUS SHA3 PLUS A;dGI;dGIR2
dGISH PLUS SAR;eCROSSING GISH;dGU;dGUR7;dIGI;dIM;dKAK;dKI;dKID;dLI;dLU;dME;ePLUS DU;fGI;fTE;dMI
ePLUS NUNUZ;dNE;dNUN;dPI;dRU;dSA;dSAR;dSHA;dSHE;dSHID;dSHU;dSIG;dSUHUR;dTAR;dU;dU2;dUD
dUMUM TIMES PA;dUSH;dZI;bKA2;cCROSSING KA2;bKAB;bKAD2;bKAD3;bKAD4;bKAD5;cOVER KAD5;bKAK
cTIMES IGI GUNU;bKAL;cTIMES BAD;cCROSSING KAL;bKAM2;bKAM4;bKASKAL
cLAGAB TIMES U OVER LAGAB TIMES U;bKASKAL OVER+h;bKESH2;bKI;cTIMES BAD;dU;dUD;bKID;bKIN;bKISAL
bKISH;bKISIM5;cOVER KISIM5;bKU;cOVER HI TIMES ASH2 KU OVER HI TIMES ASH2;bKU3;bKU4
cVARIANT FORM;bKU7;bKUL;cGUNU;bKUN;bKUR;cOPPOSING KUR;bKUSHU2;bKWU318;bLA;bLAGAB;cTIMES A
ePLUS DA PLUS HA;fGAR;fLAL;dAL;dAN;dASH ZIDA TENU;dBAD;dBI;dDAR;dEN;dGA;dGAR;dGUD;ePLUS GUD;dHA
dHAL;dHI TIMES NUN;dIGI GUNU;dIM;ePLUS HA;fLU;dKI;dKIN;dKU3;dKUL;ePLUS HI PLUS A;dLAGAB;dLISH
dLU;dLUL;dME;ePLUS EN;dMUSH;dNE;dSHE PLUS SUM;dSHITA PLUS GISH PLUS ERIN2;gTENU;dSHU2
ePLUS SHU2;dSUM;dTAG;dTAK4;dTE PLUS A PLUS SU PLUS NA;dU;ePLUS A;fU PLUS U;dU2 PLUS ASH;dUD
dUSH;cSQUARED;bLAGAR;cTIMES SHE;ePLUS SUM;cGUNU;dOVER LAGAR GUNU SHE;bLAHSHU;bLAL;cTIMES LAL
bLAM;cTIMES KUR;ePLUS RU;bLI;bLIL;bLIMMU2;bLISH;bLU;cTIMES BAD;bLU2;cTIMES AL;dBAD;dESH2;eTENU
dGAN2+a;dHI TIMES BAD;dIM;dKAD2;dKAD3;ePLUS ASH;dKI;dLA PLUS ASH;dLAGAB;dME PLUS EN;dNE;dNU
dSI PLUS ASH;dSIK2 PLUS BU;dTUG2;cTENU;cCROSSING LU2;cOPPOSING+a;cSQUARED;cSHESHIG;bLU3;bLUGAL
cOVER LUGAL;cOPPOSING+a;cSHESHIG;bLUH;bLUL;bLUM;cOVER LUM;eGAR OVER GAR;bMA;cTIMES TAK4;cGUNU
bMA2;bMAH;bMAR;bMASH;bMASH2;bME;bMES;bMI;bMIN;bMU;cOVER MU;bMUG;cGUNU;bMUNSUB;bMURGU2;bMUSH
cTIMES A;dKUR;dZA;cOVER MUSH;eTIMES A PLUS NA;cCROSSING MUSH;bMUSH3;cTIMES A;ePLUS DI;dDI;cGUNU
bNA;bNA2;bNAGA;cINVERTED;cTIMES SHU TENU;cOPPOSING NAGA;bNAGAR;bNAM NUTILLU;c;bNAM2;bNE
cTIMES A;dUD;cSHESHIG;bNI;cTIMES E;bNI2;bNIM;cTIMES GAN2 TENU;dGAR PLUS+b;bNINDA2;cTIMES AN
dASH;ePLUS ASH;dGUD;dME PLUS GAN2 TENU;dNE;dNUN;dSHE;ePLUS A AN;fASH;gPLUS ASH;dU2+b;dUSH
bNISAG;bNU;bNU11;bNUN;cLAGAR TIMES GAR;eMASH;eSAL;fOVER NUN LAGAR TIMES SAL;eUSH;cTENU
cOVER NUN;cCROSSING+a;eLAGAR OVER LAGAR;bNUNUZ;cAB2 TIMES ASHGAB;eBI;eDUG;eGUD;eIGI GUNU;eKAD3
eLA;eNE;eSILA3;eU2;cKISIM5 TIMES BI;fU;bPA;bPAD;bPAN;bPAP;bPESH2;bPI;cTIMES A;dAB;dBI;dBU;dE;dI
dIB;dU;dU2;cCROSSING PI;bPIRIG;cTIMES KAL;dUD;dZA;cOPPOSING PIRIG;bRA;bRAB;bRI;bRU;bSA
bSAG NUTILLU;c;cTIMES A;dDU;dDUB;dHA;dKAK;dKUR;dLUM;dMI;dNUN;dSAL;dSHID;dTAB;dU2;dUB;dUM;dUR
dUSH;cOVER SAG;cGUNU;bSAL;cLAGAB TIMES ASH2;bSANGA2;bSAR;bSHA;bSHA3;cTIMES A;dBAD;dGISH;dNE
dSHU2;dTUR;dU;ePLUS A;bSHA6;bSHAB6;bSHAR2;bSHE;cHU;cOVER SHE GAD OVER GAD GAR OVER GAR
eTAB OVER TAB+c;bSHEG9;bSHEN;bSHESH;bSHESH2;bSHESHLAM;bSHID;cTIMES A;dIM;bSHIM;cTIMES A;dBAL
dBULUG;dDIN;dGAR;dIGI;eGUNU;dKUSHU2;dLUL;dMUG;dSAL;bSHINIG;bSHIR;cTENU;cOVER SHIR BUR OVER BUR
bSHITA;bSHU;cOVER INVERTED SHU;bSHU2;bSHUBUR;bSI;cGUNU;bSIG;bSIG4;cOVER SIG4 SHU2;bSIK2;bSILA3
bSU;cOVER SU;bSUD;bSUD2;bSUHUR;bSUM;bSUMASH;bSUR;bSUR9;bTA;cASTERISK;cTIMES HI;dMI;cGUNU;bTAB
cOVER TAB NI OVER NI DISH OVER DISH;cSQUARED;bTAG;cTIMES BI;dGUD;dSHE;dSHU;dTUG2;dUD;bTAK4;bTAR
bTE;cGUNU;bTI;cTENU;bTIL;bTIR;cTIMES TAK4;cOVER TIR;eGAD OVER GAD GAR OVER GAR;bTU;bTUG2;bTUK
bTUM;bTUR;cOVER TUR ZA OVER ZA;bU;cGUD;cU U;cOVER U PA OVER PA GAR OVER GAR;eSUR OVER SUR
eU REVERSED OVER U REVERSED;bU2;bUB;bUD;cKUSHU2;cTIMES BAD;dMI;dU PLUS U PLUS U;iGUNU;c+a
cSHESHIG;dTIMES BAD;bUDUG;bUM;cTIMES LAGAB;dME PLUS DA;dSHA3;dU;bUMBIN;bUMUM;cTIMES KASKAL;dPA
bUN;cGUNU;bUR;cCROSSING UR;cSHESHIG;bUR2;cTIMES A PLUS HA;fNA;dAL;dHA;dNUN;dU2;ePLUS ASH;fBI
bUR4;bURI;bURI3;bURU;cTIMES A;dASHGAB;dBAR;dDUN;dGA;dGAL;dGAN2 TENU;dGAR;dGU;dHA;dIGI;dIM;dISH
dKI;dLUM;dMIN;dPA;dSHE;dSIG4;dTU;dU PLUS GUD;dUD;dURUDA;b+a;cTIMES U;bUSH;cTIMES A;dKU;dKUR
dTAK4;bUSHX;bUSH2;bUSHUMX;bUTUKI;bUZ3;cTIMES KASKAL;bUZU;bZA;cTENU;cSQUARED TIMES KUR;bZAG
bZAMX;bZE2;bZI;cOVER ZI;bZI3;bZIB;cKABA TENU;bZIG;bZIZ2;bZU;bZU5;cTIMES A;bZUBUR;bZUM
bKAP ELAMITE;bAB TIMES NUN;bAB2 TIMES A;bAMAR TIMES KUG;bDAG KISIM5 TIMES U2 PLUS MASH;bDAG3
bDISH PLUS SHU;bDUB TIMES SHE;bEZEN TIMES GUD;dSHE;bGA2 TIMES AN PLUS KAK PLUS A;dASH2;bGE22
bGIG;bHUSH;bKA TIMES ANSHE;dASH3;dGISH;dGUD;dHI TIMES ASH2;dLUM;dPA;dSHUL;dTU;dUR2
bLAGAB TIMES GI;bLU2 SHESHIG TIMES BAD;cTIMES ESH2 PLUS LAL;dSHU;bMESH;bMUSH3 TIMES ZA;bNA4
bNIN;bNIN9;bNINDA2 TIMES BAL;dGI;bNU11 ROTATED NINETY DEGREES;bPESH2 ASTERISK;bPIR2
bSAG TIMES IGI GUNU;bTI2;bUM TIMES ME;bU U"),
   (0x12400, "CUNEIFORM NUMERIC SIGN TWO ASH;cTHREE+a;cFOUR+a;cFIVE+a;cSIX+a;cSEVEN+a;cEIGHT+a
cNINE+a;cTHREE DISH;cFOUR+a;cFIVE+a;cSIX+a;cSEVEN+a;cEIGHT+a;cNINE+a;cFOUR U;cFIVE U;cSIX U
cSEVEN U;cEIGHT U;cNINE U;cONE GESH2;cTWO+a;cTHREE+a;cFOUR+a;cFIVE+a;cSIX+a;cSEVEN+a;cEIGHT+a
cNINE+a;cONE GESHU;cTWO+a;cTHREE+a;cFOUR+a;cFIVE+a;cTWO SHAR2;cTHREE+a;eVARIANT FORM
cFOUR SHAR2;cFIVE+a;cSIX+a;cSEVEN+a;cEIGHT+a;cNINE+a;cONE SHARU;cTWO+a;cTHREE+a;eVARIANT FORM
cFOUR SHARU;cFIVE+a;cSHAR2 TIMES GAL PLUS DISH;gMIN;cONE BURU;cTWO+a;cTHREE+a;eVARIANT FORM
cFOUR BURU;cFIVE+a;cTHREE VARIANT FORM ESH16;fESH21;cFOUR VARIANT FORM LIMMU;fLIMMU4;fLIMMU A
gB;cSIX VARIANT FORM ASH9;cSEVEN VARIANT FORM IMIN3;fIMIN A;gB;cEIGHT VARIANT FORM USSU;fUSSU3
cNINE VARIANT FORM ILIMMU;fILIMMU3;fILIMMU4;fILIMMU A;cTWO ASH TENU;cTHREE+b;cFOUR+b;cFIVE+b
cSIX+b;cONE BAN2;cTWO+a;cTHREE+a;cFOUR+a;eVARIANT FORM;cFIVE BAN2;eVARIANT FORM;cNIGIDAMIN
cNIGIDAESH;cONE ESHE3;cTWO+a;cONE THIRD DISH;cTWO THIRDS+a;cFIVE SIXTHS+a
cONE THIRD VARIANT FORM A;cTWO THIRDS+c;cONE EIGHTH ASH;dQUARTER+a;cOLD ASSYRIAN ONE SIXTH
fQUARTER;cONE QUARTER GUR;dHALF+a;cELAMITE ONE THIRD;dTWO THIRDS;dFORTY;dFIFTY
cFOUR U VARIANT FORM;cFIVE+c;cSIX+c;cSEVEN+c;cEIGHT+c;cNINE+c"),
   (0x12470, "CUNEIFORM PUNCTUATION SIGN OLD ASSYRIAN WORD DIVIDER;cVERTICAL COLON;cDIAGONAL+a
dTRICOLON;dQUADCOLON"),
   (0x12480, "CUNEIFORM SIGN AB TIMES NUN TENU;dSHU2;bAD TIMES ESH2;bBAD TIMES DISH TENU
bBAHAR2 TIMES AB2;dNI;dZA;bBU OVER BU TIMES NA2;bDA TIMES TAK4;bDAG TIMES KUR;bDIM TIMES IGI
dU U U;bDIM2 TIMES UD;bDUG TIMES ANSHE;dASH;eAT LEFT;dDIN;dDUN;dERIN2;dGA;dGI;dGIR2 GUNU;dGISH
dHA;dHI;dIGI GUNU;dKASKAL;dKUR;dKUSHU2;ePLUS KASKAL;dLAK-020;dLAM;eTIMES KUR;dLUH PLUS GISH
dMASH;dMES;dMI;dNI;dPI;dSHE;dSI GUNU;bE2 TIMES KUR;dPAP;bERIN2 X;bESH2 CROSSING ESH2
bEZEN SHESHIG TIMES ASH;eHI;eIGI GUNU;eLA;eLAL;eME;eMES;eSU;c+b;bGA2 TIMES BAHAR2;dDIM GUNU
dDUG TIMES IGI+a;fKASKAL;dEREN;dGA;dGAR PLUS DI;fNE;dHA PLUS A;dKUSHU2 PLUS KASKAL;dLAM
eTIMES KUR;dLUH;dMUSH;dNE;ePLUS E2;fGI;dSHIM;dZIZ2;bGABA ROTATED NINETY DEGREES
bGESHTIN TIMES U;bGISH TIMES GISH CROSSING GISH;bGU2 TIMES IGI GUNU;bGUD PLUS GISH TIMES TAK4
bHA TENU GUNU;bHI TIMES ASH OVER HI TIMES ASH;bKA TIMES BU;dKA;dU U U;dUR
bLAGAB TIMES ZU OVER ZU;bLAK-003;bLAK-021;bLAK-025;bLAK-030;bLAK-050;bLAK-051;bLAK-062
bLAK-079 OVER LAK-079 GUNU;bLAK-080;bLAK-081 OVER LAK-081;bLAK-092;bLAK-130;bLAK-142;bLAK-210
bLAK-219;bLAK-220;bLAK-225;bLAK-228;bLAK-238;bLAK-265;bLAK-266;bLAK-343;bLAK-347;bLAK-348
bLAK-383;bLAK-384;bLAK-390;bLAK-441;bLAK-449;cTIMES GU;dIGI;dPAP PLUS LU3;dPAP PLUS+c
dU2 PLUS BA;bLAK-450;bLAK-457;bLAK-470;bLAK-483;bLAK-490;bLAK-492;bLAK-493;bLAK-495;bLAK-550
bLAK-608;bLAK-617;cTIMES ASH;dBAD;dDUN3 GUNU GUNU;dKU3;dLA;dTAR;dTE;dU2;dUD;dURUDA;bLAK-636
bLAK-648;cTIMES DUB;dGA;dIGI;eGUNU;dNI;dPAP PLUS PAP PLUS LU3;dSHESH PLUS KI;dUD;dURUDA
bLAK-724;bLAK-749;bLU2 GUNU TIMES ASH;cTIMES DISH;dHAL;dPAP;ePLUS PAP PLUS LU3;dTAK4
bMI PLUS ZA7;bMUSH OVER MUSH TIMES GA;fKAK;bNINDA2 TIMES DIM GUNU;dGISH;dGUL;dHI;dKESH2
dLAK-050;dMASH;dPAP PLUS PAP;dU;ePLUS U;dURUDA;bSAG GUNU TIMES HA;cTIMES EN;dSHE AT LEFT;dTAK4
bSHA6 TENU;bSHE OVER SHE;cPLUS HUB2;dNAM2;dSAR;bSHU2 PLUS DUG TIMES NI;dE2 TIMES AN
bSI TIMES TAK4;bTAK4 PLUS SAG;bTUM TIMES GAN2 TENU;dTHREE DISH;bUR2 INVERTED;cTIMES UD
bURU TIMES DARA3;dLAK-668;dLU3;bZA7;bZU OVER ZU PLUS SAR;bZU5 TIMES THREE DISH TENU"),
   (0x12F90, "CYPRO-MINOAN SIGN CM001;bCM002;bCM004;bCM005;bCM006;bCM007;bCM008;bCM009;bCM010
bCM011;bCM012;bCM012B;bCM013;bCM015;bCM017;bCM019;bCM021;bCM023;bCM024;bCM025;bCM026;bCM027
bCM028;bCM029;bCM030;bCM033;bCM034;bCM035;bCM036;bCM037;bCM038;bCM039;bCM040;bCM041;bCM044
bCM046;bCM047;bCM049;bCM050;bCM051;bCM052;bCM053;bCM054;bCM055;bCM056;bCM058;bCM059;bCM060
bCM061;bCM062;bCM063;bCM064;bCM066;bCM067;bCM068;bCM069;bCM070;bCM071;bCM072;bCM073;bCM074
bCM075;bCM075B;bCM076;bCM078;bCM079;bCM080;bCM081;bCM082;bCM083;bCM084;bCM085;bCM086;bCM087
bCM088;bCM089;bCM090;bCM091;bCM092;bCM094;bCM095;bCM096;bCM097;bCM098;bCM099;bCM100;bCM101
bCM102;bCM103;bCM104;bCM105;bCM107;bCM108;bCM109;bCM110;bCM112;bCM114;bCM301;bCM302"),
   (0x13000, "EGYPTIAN HIEROGLYPH A001;bA002;bA003;bA004;bA005;bA005A;bA006;bA006A;bA006B;bA007
bA008;bA009;bA010;bA011;bA012;bA013;bA014;bA014A;bA015;bA016;bA017;bA017A;bA018;bA019;bA020
bA021;bA022;bA023;bA024;bA025;bA026;bA027;bA028;bA029;bA030;bA031;bA032;bA032A;bA033;bA034
bA035;bA036;bA037;bA038;bA039;bA040;bA040A;bA041;bA042;bA042A;bA043;bA043A;bA044;bA045;bA045A
bA046;bA047;bA048;bA049;bA050;bA051;bA052;bA053;bA054;bA055;bA056;bA057;bA058;bA059;bA060;bA061
bA062;bA063;bA064;bA065;bA066;bA067;bA068;bA069;bA070;bB001;bB002;bB003;bB004;bB005;bB005A
bB006;bB007;bB008;bB009;bC001;bC002;bC002A;bC002B;bC002C;bC003;bC004;bC005;bC006;bC007;bC008
bC009;bC010;bC010A;bC011;bC012;bC013;bC014;bC015;bC016;bC017;bC018;bC019;bC020;bC021;bC022
bC023;bC024;bD001;bD002;bD003;bD004;bD005;bD006;bD007;bD008;bD008A;bD009;bD010;bD011;bD012
bD013;bD014;bD015;bD016;bD017;bD018;bD019;bD020;bD021;bD022;bD023;bD024;bD025;bD026;bD027
bD027A;bD028;bD029;bD030;bD031;bD031A;bD032;bD033;bD034;bD034A;bD035;bD036;bD037;bD038;bD039
bD040;bD041;bD042;bD043;bD044;bD045;bD046;bD046A;bD047;bD048;bD048A;bD049;bD050;bD050A;bD050B
bD050C;bD050D;bD050E;bD050F;bD050G;bD050H;bD050I;bD051;bD052;bD052A;bD053;bD054;bD054A;bD055
bD056;bD057;bD058;bD059;bD060;bD061;bD062;bD063;bD064;bD065;bD066;bD067;bD067A;bD067B;bD067C
bD067D;bD067E;bD067F;bD067G;bD067H;bE001;bE002;bE003;bE004;bE005;bE006;bE007;bE008;bE008A;bE009
bE009A;bE010;bE011;bE012;bE013;bE014;bE015;bE016;bE016A;bE017;bE017A;bE018;bE019;bE020;bE020A
bE021;bE022;bE023;bE024;bE025;bE026;bE027;bE028;bE028A;bE029;bE030;bE031;bE032;bE033;bE034
bE034A;bE036;bE037;bE038;bF001;bF001A;bF002;bF003;bF004;bF005;bF006;bF007;bF008;bF009;bF010
bF011;bF012;bF013;bF013A;bF014;bF015;bF016;bF017;bF018;bF019;bF020;bF021;bF021A;bF022;bF023
bF024;bF025;bF026;bF027;bF028;bF029;bF030;bF031;bF031A;bF032;bF033;bF034;bF035;bF036;bF037
bF037A;bF038;bF038A;bF039;bF040;bF041;bF042;bF043;bF044;bF045;bF045A;bF046;bF046A;bF047;bF047A
bF048;bF049;bF050;bF051;bF051A;bF051B;bF051C;bF052;bF053;bG001;bG002;bG003;bG004;bG005;bG006
bG006A;bG007;bG007A;bG007B;bG008;bG009;bG010;bG011;bG011A;bG012;bG013;bG014;bG015;bG016;bG017
bG018;bG019;bG020;bG020A;bG021;bG022;bG023;bG024;bG025;bG026;bG026A;bG027;bG028;bG029;bG030
bG031;bG032;bG033;bG034;bG035;bG036;bG036A;bG037;bG037A;bG038;bG039;bG040;bG041;bG042;bG043
bG043A;bG044;bG045;bG045A;bG046;bG047;bG048;bG049;bG050;bG051;bG052;bG053;bG054;bH001;bH002
bH003;bH004;bH005;bH006;bH006A;bH007;bH008;bI001;bI002;bI003;bI004;bI005;bI005A;bI006;bI007
bI008;bI009;bI009A;bI010;bI010A;bI011;bI011A;bI012;bI013;bI014;bI015;bK001;bK002;bK003;bK004
bK005;bK006;bK007;bK008;bL001;bL002;bL002A;bL003;bL004;bL005;bL006;bL006A;bL007;bL008;bM001
bM001A;bM001B;bM002;bM003;bM003A;bM004;bM005;bM006;bM007;bM008;bM009;bM010;bM010A;bM011;bM012
bM012A;bM012B;bM012C;bM012D;bM012E;bM012F;bM012G;bM012H;bM013;bM014;bM015;bM015A;bM016;bM016A
bM017;bM017A;bM018;bM019;bM020;bM021;bM022;bM022A;bM023;bM024;bM024A;bM025;bM026;bM027;bM028
bM028A;bM029;bM030;bM031;bM031A;bM032;bM033;bM033A;bM033B;bM034;bM035;bM036;bM037;bM038;bM039
bM040;bM040A;bM041;bM042;bM043;bM044;bN001;bN002;bN003;bN004;bN005;bN006;bN007;bN008;bN009
bN010;bN011;bN012;bN013;bN014;bN015;bN016;bN017;bN018;bN018A;bN018B;bN019;bN020;bN021;bN022
bN023;bN024;bN025;bN025A;bN026;bN027;bN028;bN029;bN030;bN031;bN032;bN033;bN033A;bN034;bN034A
bN035;bN035A;bN036;bN037;bN037A;bN038;bN039;bN040;bN041;bN042;bNL001;bNL002;bNL003;bNL004
bNL005;bNL005A;bNL006;bNL007;bNL008;bNL009;bNL010;bNL011;bNL012;bNL013;bNL014;bNL015;bNL016
bNL017;bNL017A;bNL018;bNL019;bNL020;bNU001;bNU002;bNU003;bNU004;bNU005;bNU006;bNU007;bNU008
bNU009;bNU010;bNU010A;bNU011;bNU011A;bNU012;bNU013;bNU014;bNU015;bNU016;bNU017;bNU018;bNU018A
bNU019;bNU020;bNU021;bNU022;bNU022A;bO001;bO001A;bO002;bO003;bO004;bO005;bO005A;bO006;bO006A
bO006B;bO006C;bO006D;bO006E;bO006F;bO007;bO008;bO009;bO010;bO010A;bO010B;bO010C;bO011;bO012
bO013;bO014;bO015;bO016;bO017;bO018;bO019;bO019A;bO020;bO020A;bO021;bO022;bO023;bO024;bO024A
bO025;bO025A;bO026;bO027;bO028;bO029;bO029A;bO030;bO030A;bO031;bO032;bO033;bO033A;bO034;bO035
bO036;bO036A;bO036B;bO036C;bO036D;bO037;bO038;bO039;bO040;bO041;bO042;bO043;bO044;bO045;bO046
bO047;bO048;bO049;bO050;bO050A;bO050B;bO051;bP001;bP001A;bP002;bP003;bP003A;bP004;bP005;bP006
bP007;bP008;bP009;bP010;bP011;bQ001;bQ002;bQ003;bQ004;bQ005;bQ006;bQ007;bR001;bR002;bR002A
bR003;bR003A;bR003B;bR004;bR005;bR006;bR007;bR008;bR009;bR010;bR010A;bR011;bR012;bR013;bR014
bR015;bR016;bR016A;bR017;bR018;bR019;bR020;bR021;bR022;bR023;bR024;bR025;bR026;bR027;bR028
bR029;bS001;bS002;bS002A;bS003;bS004;bS005;bS006;bS006A;bS007;bS008;bS009;bS010;bS011;bS012
bS013;bS014;bS014A;bS014B;bS015;bS016;bS017;bS017A;bS018;bS019;bS020;bS021;bS022;bS023;bS024
bS025;bS026;bS026A;bS026B;bS027;bS028;bS029;bS030;bS031;bS032;bS033;bS034;bS035;bS035A;bS036
bS037;bS038;bS039;bS040;bS041;bS042;bS043;bS044;bS045;bS046;bT001;bT002;bT003;bT003A;bT004
bT005;bT006;bT007;bT007A;bT008;bT008A;bT009;bT009A;bT010;bT011;bT011A;bT012;bT013;bT014;bT015
bT016;bT016A;bT017;bT018;bT019;bT020;bT021;bT022;bT023;bT024;bT025;bT026;bT027;bT028;bT029
bT030;bT031;bT032;bT032A;bT033;bT033A;bT034;bT035;bT036;bU001;bU002;bU003;bU004;bU005;bU006
bU006A;bU006B;bU007;bU008;bU009;bU010;bU011;bU012;bU013;bU014;bU015;bU016;bU017;bU018;bU019
bU020;bU021;bU022;bU023;bU023A;bU024;bU025;bU026;bU027;bU028;bU029;bU029A;bU030;bU031;bU032
bU032A;bU033;bU034;bU035;bU036;bU037;bU038;bU039;bU040;bU041;bU042;bV001;bV001A;bV001B;bV001C
bV001D;bV001E;bV001F;bV001G;bV001H;bV001I;bV002;bV002A;bV003;bV004;bV005;bV006;bV007;bV007A
bV007B;bV008;bV009;bV010;bV011;bV011A;bV011B;bV011C;bV012;bV012A;bV012B;bV013;bV014;bV015;bV016
bV017;bV018;bV019;bV020;bV020A;bV020B;bV020C;bV020D;bV020E;bV020F;bV020G;bV020H;bV020I;bV020J
bV020K;bV020L;bV021;bV022;bV023;bV023A;bV024;bV025;bV026;bV027;bV028;bV028A;bV029;bV029A;bV030
bV030A;bV031;bV031A;bV032;bV033;bV033A;bV034;bV035;bV036;bV037;bV037A;bV038;bV039;bV040;bV040A
bW001;bW002;bW003;bW003A;bW004;bW005;bW006;bW007;bW008;bW009;bW009A;bW010;bW010A;bW011;bW012
bW013;bW014;bW014A;bW015;bW016;bW017;bW017A;bW018;bW018A;bW019;bW020;bW021;bW022;bW023;bW024
bW024A;bW025;bX001;bX002;bX003;bX004;bX004A;bX004B;bX005;bX006;bX006A;bX007;bX008;bX008A;bY001
bY001A;bY002;bY003;bY004;bY005;bY006;bY007;bY008;bZ001;bZ002;bZ002A;bZ002B;bZ002C;bZ002D;bZ003
bZ003A;bZ003B;bZ004;bZ004A;bZ005;bZ005A;bZ006;bZ007;bZ008;bZ009;bZ010;bZ011;bZ012;bZ013;bZ014
bZ015;bZ015A;bZ015B;bZ015C;bZ015D;bZ015E;bZ015F;bZ015G;bZ015H;bZ015I;bZ016;bZ016A;bZ016B;bZ016C
bZ016D;bZ016E;bZ016F;bZ016G;bZ016H;bAA001;bAA002;bAA003;bAA004;bAA005;bAA006;bAA007;bAA007A
bAA007B;bAA008;bAA009;bAA010;bAA011;bAA012;bAA013;bAA014;bAA015;bAA016;bAA017;bAA018;bAA019
bAA020;bAA021;bAA022;bAA023;bAA024;bAA025;bAA026;bAA027;bAA028;bAA029;bAA030;bAA031;bAA032"),
   (0x13430, "EGYPTIAN HIEROGLYPH VERTICAL JOINER;bHORIZONTAL+a;bINSERT AT TOP START;dBOTTOM+a
dTOP END;dBOTTOM+a;bOVERLAY MIDDLE;bBEGIN SEGMENT;bEND+a"),
   (0x14400, "ANATOLIAN HIEROGLYPH A001;bA002;bA003;bA004;bA005;bA006;bA007;bA008;bA009;bA010
bA010A;bA011;bA012;bA013;bA014;bA015;bA016;bA017;bA018;bA019;bA020;bA021;bA022;bA023;bA024
bA025;bA026;bA026A;bA027;bA028;bA029;bA030;bA031;bA032;bA033;bA034;bA035;bA036;bA037;bA038
bA039;bA039A;bA040;bA041;bA041A;bA042;bA043;bA044;bA045;bA045A;bA046;bA046A;bA046B;bA047;bA048
bA049;bA050;bA051;bA052;bA053;bA054;bA055;bA056;bA057;bA058;bA059;bA060;bA061;bA062;bA063;bA064
bA065;bA066;bA066A;bA066B;bA066C;bA067;bA068;bA069;bA070;bA071;bA072;bA073;bA074;bA075;bA076
bA077;bA078;bA079;bA080;bA081;bA082;bA083;bA084;bA085;bA086;bA087;bA088;bA089;bA090;bA091;bA092
bA093;bA094;bA095;bA096;bA097;bA097A;bA098;bA098A;bA099;bA100;bA100A;bA101;bA101A;bA102;bA102A
bA103;bA104;bA104A;bA104B;bA104C;bA105;bA105A;bA105B;bA106;bA107;bA107A;bA107B;bA107C;bA108
bA109;bA110;bA110A;bA110B;bA111;bA112;bA113;bA114;bA115;bA115A;bA116;bA117;bA118;bA119;bA120
bA121;bA122;bA123;bA124;bA125;bA125A;bA126;bA127;bA128;bA129;bA130;bA131;bA132;bA133;bA134
bA135;bA135A;bA136;bA137;bA138;bA139;bA140;bA141;bA142;bA143;bA144;bA145;bA146;bA147;bA148
bA149;bA150;bA151;bA152;bA153;bA154;bA155;bA156;bA157;bA158;bA159;bA160;bA161;bA162;bA163;bA164
bA165;bA166;bA167;bA168;bA169;bA170;bA171;bA172;bA173;bA174;bA175;bA176;bA177;bA178;bA179;bA180
bA181;bA182;bA183;bA184;bA185;bA186;bA187;bA188;bA189;bA190;bA191;bA192;bA193;bA194;bA195;bA196
bA197;bA198;bA199;bA200;bA201;bA202;bA202A;bA202B;bA203;bA204;bA205;bA206;bA207;bA207A;bA208
bA209;bA209A;bA210;bA211;bA212;bA213;bA214;bA215;bA215A;bA216;bA216A;bA217;bA218;bA219;bA220
bA221;bA222;bA223;bA224;bA225;bA226;bA227;bA227A;bA228;bA229;bA230;bA231;bA232;bA233;bA234
bA235;bA236;bA237;bA238;bA239;bA240;bA241;bA242;bA243;bA244;bA245;bA246;bA247;bA248;bA249;bA250
bA251;bA252;bA253;bA254;bA255;bA256;bA257;bA258;bA259;bA260;bA261;bA262;bA263;bA264;bA265;bA266
bA267;bA267A;bA268;bA269;bA270;bA271;bA272;bA273;bA274;bA275;bA276;bA277;bA278;bA279;bA280
bA281;bA282;bA283;bA284;bA285;bA286;bA287;bA288;bA289;bA289A;bA290;bA291;bA292;bA293;bA294
bA294A;bA295;bA296;bA297;bA298;bA299;bA299A;bA300;bA301;bA302;bA303;bA304;bA305;bA306;bA307
bA308;bA309;bA309A;bA310;bA311;bA312;bA313;bA314;bA315;bA316;bA317;bA318;bA319;bA320;bA321
bA322;bA323;bA324;bA325;bA326;bA327;bA328;bA329;bA329A;bA330;bA331;bA332A;bA332B;bA332C;bA333
bA334;bA335;bA336;bA336A;bA336B;bA336C;bA337;bA338;bA339;bA340;bA341;bA342;bA343;bA344;bA345
bA346;bA347;bA348;bA349;bA350;bA351;bA352;bA353;bA354;bA355;bA356;bA357;bA358;bA359;bA359A
bA360;bA361;bA362;bA363;bA364;bA364A;bA365;bA366;bA367;bA368;bA368A;bA369;bA370;bA371;bA371A
bA372;bA373;bA374;bA375;bA376;bA377;bA378;bA379;bA380;bA381;bA381A;bA382;bA383 RA OR RI;bA383A
bA384;bA385;bA386;bA386A;bA387;bA388;bA389;bA390;bA391;bA392;bA393 EIGHT;bA394;bA395;bA396
bA397;bA398;bA399;bA400;bA401;bA402;bA403;bA404;bA405;bA406;bA407;bA408;bA409
bA410 BEGIN LOGOGRAM MARK;bA410A END+b;bA411;bA412;bA413;bA414;bA415;bA416;bA417;bA418;bA419
bA420;bA421;bA422;bA423;bA424;bA425;bA426;bA427;bA428;bA429;bA430;bA431;bA432;bA433;bA434;bA435
bA436;bA437;bA438;bA439;bA440;bA441;bA442;bA443;bA444;bA445;bA446;bA447;bA448;bA449;bA450
bA450A;bA451;bA452;bA453;bA454;bA455;bA456;bA457;bA457A;bA458;bA459;bA460;bA461;bA462;bA463
bA464;bA465;bA466;bA467;bA468;bA469;bA470;bA471;bA472;bA473;bA474;bA475;bA476;bA477;bA478;bA479
bA480;bA481;bA482;bA483;bA484;bA485;bA486;bA487;bA488;bA489;bA490;bA491;bA492;bA493;bA494;bA495
bA496;bA497;bA501;bA502;bA503;bA504;bA505;bA506;bA507;bA508;bA509;bA510;bA511;bA512;bA513;bA514
bA515;bA516;bA517;bA518;bA519;bA520;bA521;bA522;bA523;bA524;bA525;bA526;bA527;bA528;bA529;bA530"),
   (0x16800, "BAMUM LETTER PHASE-A NGKUE MFON;cGBIEE FON;cPON MFON PIPAEMGBIEE;ePIPAEMBA
cNAA MFON;cSHUENSHUET;cTITA MFON;cNZA+a;cSHINDA PA NJI;cPON PA NJI PIPAEMGBIEE;fPIPAEMBA
cMAEMBGBIEE;cTU MAEMBA;cNGANGU;cMAEMVEUX;cMANSUAE;cMVEUAENGAM;cSEUNYAM;cNTOQPEN;cKEUKEUTNDA
cNKINDI;cSUU;cNGKUENZEUM;cLAPAQ;cLET KUT;cNTAP MFAA;cMAEKEUP;cPASHAE;cGHEUAERAE;cPAMSHAE
cMON NGGEUAET;cNZUN MEUT;cU YUQ NAE;cGHEUAEGHEUAE;cNTAP NTAA;cSISA;cMGBASA;cMEUNJOMNDEUQ
cMOOMPUQ;cKAFA;cPA LEERAEWA;cNDA+a;cPET;cMAEMKPEN;cNIKA;cPUP;cTUAEP;cLUAEP;cSONJAM;cTEUTEUWEN
cMAENYI;cKET;cNDAANGGEUAET;cKUOQ;cMOOMEUT;cSHUM;cLOMMAE;cFIRI;cROM;cKPOQ;cSOQ;cMAP PIEET
cSHIRAE;cNTAP;cSHOQ NSHUT YUM;cNYIT MONGKEUAEQ;cPAARAE;cNKAARAE;cUNKNOWN;cNGGEN;cMAESI;cNJAM
cMBANYI;cNYET;cTEUAEN;cSOT;cPAAM;cNSHIEE;cMAEM;cNYI;cKAQ;cNSHA;cVEE;cLU;cNEN;cNAQ;cMBAQ
bPHASE-B NSHUET;cTU MAEMGBIEE;cSIEE;cSET TU;cLOM NTEUM;cMBA MAELEE;cKIEEM;cYEURAE;cMBAARAE;cKAM
cPEESHI;cYAFU LEERAEWA;cLAM NSHUT NYAM;cNTIEE SHEUOQ;cNDU NJAA;cGHEUGHEUAEM;cPIT;cTU NSIEE
cSHET NJAQ;cSHEUAEQTU;cMFON TEUAEQ;cMBIT MBAAKET;cNYI NTEUM;cKEUPUQ;cGHEUGHEN;cKEUYEUX;cLAANAE
cPARUM;cVEUM;cNGKINDI MVOP;cNGGEU MBU;cWUAET;cSAKEUAE;cTAAM;cMEUQ;cNGGUOQ;dLARGE;cMFIYAQ;cSUE
cMBEURI;cMONTIEEN;cNYAEMAE;cPUNGAAM;cMEUT NGGEET;cFEUX;cMBUOQ;cFEE;cKEUAEM;cMA NJEUAENA;dNJUQA
cLET;cNGGAAM;cNSEN;cMA;cKIQ;cNGOM;bPHASE-C NGKUE MAEMBA;cNZA;cYUM;cWANGKUOQ;cNGGEN;cNDEUAEREE
cNGKAQ;cGHARAE;cMBEEKEET;cGBAYI;cNYIR MKPARAQ MEUN;cNTU MBIT;cMBEUM;cPIRIEEN;cNDOMBU
cMBAA CABBAGE-TREE;cKEUSHEUAEP;cGHAP;cKEUKAQ;cYU MUOMAE;cNZEUM;cMBUE;cNSEUAEN;cMBIT;cYEUQ
cKPARAQ;cKAA;cSEUX;cNDIDA;cTAASHAE;cNJUEQ;cTITA YUE;cSUAET;cNGGUAEN NYAM;cVEUX;cNANSANAQ
cMA KEUAERI;cNTAA;cNGGUON;cLAP;cMBIRIEEN;cMGBASAQ;cNTEUNGBA;cTEUTEUX;cNGGUM;cFUE;cNDEUT;cNSA
cNSHAQ;cBUNG;cVEUAEPEN;cMBERAE;cRU;cNJAEM;cLAM;cTITUAEP;cNSUOT NGOM;cNJEEEE;cKET;cNGGU;cMAESI
cMBUAEM;cLU;cKUT;cNJAM;cNGOM;cWUP;cNGGUEET;cNSOM;cNTEN;cKUOP NKAARAE;cNSUN;cNDAM;cMA NSIEE;cYAA
cNDAP;cSHUEQ;cSETFON;cMBI;cMAEMBA;cMBANYI;cKEUSEUX;cMBEUX;cKEUM;cMBAA PICKET;cYUWOQ;cNJEUX
cMIEE;cMUAE;cSHIQ;cKEN LAW;dFATIGUE;cNGAQ;cNAQ;cLIQ;cPIN;cPEN;cTET;bPHASE-D MBUO;cWAP;cNJI
cMFON;cNJIEE;cLIEE;cNJEUT;cNSHEE;cNGGAAMAE;cNYAM;cWUAEN;cNGKUN;cSHEE;cNGKAP;cKEUAETMEUN;cTEUT
cSHEUAE;cNJAP;cSUE;cKET;cYAEMMAE;cKUOM;cSAP;cMFEUT;cNDEUX;cMALEERI;cMEUT;cSEUAEQ;cYEN;cNJEUAEM
cKEUOT MBUAE;cNGKEURI;cTU;cGHAA;cNGKYEE;cFEUFEUAET;cNDEE;cMGBOFUM;cLEUAEP;cNDON;cMONI;cMGBEUN
cPUUT;cMGBIEE;cMFO;cLUM;cNSIEEP;cMBAA;cKWAET;cNYET;cTEUAEN;cSOT;cYUWOQ;cKEUM;cRAEM;cTEEEE
cNGKEUAEQ;cMFEUAE;cNSIEET;cKEUP;cPIP;cPEUTAE;cNYUE;cLET;cNGGAAM;cMFIEE;cNGGWAEN;cYUOM;cPAP
cYUOP;cNDAM;cNTEUM;cSUAE;cKUN;cNGGEUX;cNGKIEE;cTUOT;cMEUN;cKUQ;cNSUM;cTEUN;cMAENJET;cNGGAP
cLEUM;cNGGUOM;cNSHUT;cNJUEQ;cGHEUAE;cKU;cREN OLD;cTAE;cTOQ;cNYI;cRII;cLEEEE;cMEEEE;cM;cSUU;cMU
cSHII;cSHEUX;cKYEE;cNU;cSHU;cNTEE;cPEE;cNI;cSHOQ;cPUQ;cMVOP;cLOQ;cREN MUCH;cTI;cNTUU
cMBAA SEVEN;cSAQ;cFAA;bPHASE-E NDAP;cTOON;cMBEUM;cLAP;cVOM;cLOON;cPAA;cSOM;cRAQ;cNSHUOP;cNDUN
cPUAE;cTAM;cNGKA;cKPEUX;cWUO;cSEE;cNGGEUAET;cPAAM;cTOO;cKUOP;cLOM;cNSHIEE;cNGOP;cMAEM;cNGKEUX
cNGOQ;cNSHUE;cRIMGBA;cNJEUX;cPEEM;cSAA;cNGGURAE;cMGBA;cGHEUX;cNGKEUAEM;cNJAEMLI;cMAP;cLOOT
cNGGEEEE;cNDIQ;cTAEN NTEUM;cSET;cPUM;cNDAA SOFTNESS;cNGGUAESHAE NYAM;cYIEE;cGHEUN;cTUAE;cYEUAE
cPO;cTUMAE;cKEUAE;cSUAEN;cTEUAEQ;cVEUAE;cWEUX;cLAAM;cPU;cTAAQ;cGHAAMAE;cNGEUREUT;cSHEUAEQ
cMGBEN;cMBEE;cNZAQ;cNKOM;cGBET;cTUM;cKUET;cYAP;cNYI CLEAVER;cYIT;cMFEUQ;cNDIAQ;cPIEEQ;cYUEQ
cLEUAEM;cFUE;cGBEUX;cNGKUP;cKET;cMAE;cNGKAAMI;cGHET;cFA;cNTUM;cPEUT;cYEUM;cNGGEUAE;cNYI BETWEEN
cNZUQ;cPOON;cMIEE;cFUET;cNAE;cMUAE;cGHEUAE;cFU I;cMVI;cPUAQ;cNGKUM;cKUT;cPIET;cNTAP;cYEUAET
cNGGUP;cPA PEOPLE;cFU CALL;cFOM;cNJEE;cA;cTOQ;cO;cI;cLAQ;cPA PLURAL;cTAA;cTAQ;cNDAA MY HOUSE
cSHIQ;cYEUX;cNGUAE;cYUAEN;cYOQ SWIMMING;dCOVER;cYUQ;cYUN;cKEUX;cPEUX;cNJEE EPOCH;cPUE;cWUE;cFEE
cVEE;cLU;cMI;cREUX;cRAE;cNGUAET;cNGA;cSHO;cSHOQ;cFU REMEDY;cNA;cPI;cLOQ;cKO;cMEN;cMA;cMAQ;cTEU
cKI;cMON;cTEN;cFAQ;cGHOM;bPHASE-F KA;cU;cKU;cEE;cREE;cTAE;cNYI;cLA;cRII;cRIEE;cMEEEE;cTAA;cNDAA
cNJAEM;cM;cSUU;cSHII;cSI;cSEUX;cKYEE;cKET;cNUAE;cNU;cNJUAE;cYOQ;cSHU;cYA;cNSHA;cPEUX;cNTEE;cWUE
cPEE;cRU;cNI;cREUX;cKEN;cNGKWAEN;cNGGA;cSHO;cPUAE;cFOM;cWA;cLI;cLOQ;cKO;cMBEN;cREN;cMA;cMO
cMBAA;cTET;cKPA;cSAMBA;cVUEQ"),
   (0x16A40, "MRO LETTER TA;bNGI;bYO;bMIM;bBA;bDA;bA;bPHI;bKHAI;bHAO;bDAI;bCHU;bKEAAE;bOL;bMAEM
bNIN;bPA;bOO;bO;bRO;bSHI;bTHEA;bEA;bWA;bE;bKO;bLAN;bLA;bHAI;bRI;bTEK"),
   (0x16A60, "MRO DIGIT ZERO;bONE;bTWO;bTHREE;bFOUR;bFIVE;bSIX;bSEVEN;bEIGHT;bNINE"),
   (0x16A6E, "MRO DANDA;aDOUBLE+a;TANGSA LETTER OZ;bOC;bOQ;bOX;bAZ;bAC;bAQ;bAX;bVZ;bVC;bVQ;bVX
bEZ;bEC;bEQ;bEX;bIZ;bIC;bIQ;bIX;bUZ;bUC;bUQ;bUX;bAWZ;bAWC;bAWQ;bAWX;bUIZ;bUIC;bUIQ;bUIX
bFINAL NG;bLONG UEX;bSHORT UEZ;cAWX;bUEC;bUEZ;bUEQ;bUEX;bUIUZ;bUIUC;bUIUQ;bUIUX;bMZ;bMC;bMQ;bMX
bKA;bKHA;bGA;bNGA;bSA;bYA;bWA;bPA;bNYA;bPHA;bBA;bMA;bNA;bHA;bLA;bHTA;bTA;bDA;bRA;bNHA;bSHA;bCA
bTSA;bGHA;bHTTA;bTHA;bXA;bFA;bDHA;bCHA;bZA"),
   (0x16AC0, "TANGSA DIGIT ZERO;bONE;bTWO;bTHREE;bFOUR;bFIVE;bSIX;bSEVEN;bEIGHT;bNINE"),
   (0x16AD0, "BASSA VAH LETTER ENNI;cKA;cSE;cFA;cMBE;cYIE;cGAH;cDHII;cKPAH;cJO;cHWAH;cWA;cZO
cGBU;cDO;cCE;cUWU;cTO;cBA;cVU;cYEIN;cPA;cWADDA;cA;cO;cOO;cU;cEE;cE;cI"),
   (0x16AF0, "BASSA VAH COMBINING HIGH TONE;cLOW+a;cMID+a;cLOW-MID+a;cHIGH-LOW+a;bFULL STOP"),
   (0x16B00, "PAHAWH HMONG VOWEL KEEB;cKEEV;cKIB;cKIV;cKAUB;cKAUV;cKUB;cKUV;cKEB;cKEV;cKAIB
cKAIV;cKOOB;cKOOV;cKAWB;cKAWV;cKUAB;cKUAV;cKOB;cKOV;cKIAB;cKIAV;cKAB;cKAV;cKWB;cKWV;cKAAB;cKAAV
bCONSONANT VAU;cNTSAU;cLAU;cHAU;cNLAU;cRAU;cNKAU;cQHAU;cYAU;cHLAU;cMAU;cCHAU;cNCHAU;cHNAU
cPLHAU;cNTHAU;cNAU;cAU;cXAU;cCAU;bMARK CIM TUB;dSO;dKES;dKHAV;dSUAM;dHOM;dTAUM;bSIGN VOS THOM
dTSHAB CEEB;cCIM CHEEM;cVOS THIAB;dFEEM;cXYEEM NTXIV;dRHO;dTOV;dFAIB;cVOS SEEV;cMEEJ SUAB
cVOS NRUA;cIB YAM;cXAUS;cCIM TSOV ROG"),
   (0x16B50, "PAHAWH HMONG DIGIT ZERO;cONE;cTWO;cTHREE;cFOUR;cFIVE;cSIX;cSEVEN;cEIGHT;cNINE"),
   (0x16B5B, "PAHAWH HMONG NUMBER TENS;cHUNDREDS;cTEN THOUSANDS;cMILLIONS;cHUNDRED+a
cTEN BILLIONS;cTRILLIONS"),
   (0x16B63, "PAHAWH HMONG SIGN VOS LUB;cXYOO;cHLI;cTHIRD-STAGE+a;cZWJ THAJ;cHNUB;cNQIG;cXIAB
cNTUJ;cAV;cTXHEEJ CEEV;cMEEJ TSEEB;cTAU;cLOS;cMUS;cCIM HAIS LUS NTOG NTOG;dCUAM TSHOOJ;dTXWV
eCHWV;dPUB DAWB;dNRES TOS"),
   (0x16B7D, "PAHAWH HMONG CLAN SIGN TSHEEJ;dYEEG;dLIS;dLAUJ;dXYOOJ;dKOO;dHAWJ;dMUAS;dTHOJ;dTSAB
dPHAB;dKHAB;dHAM;dVAJ;dFAJ;dYAJ;dTSWB;dKWM;dVWJ"),
   (0x16E40, "MEDEFAIDRIN CAPITAL LETTER M;cS;cV;cW;cATIU;cZ;cKP;cP;cT;cG;cF;cI;cK;cA;cJ;cE;cB
cC;cU;cYU;cL;cQ;cHP;cNY;cX;cD;cOE;cN;cR;cO;cAI;cY;aSMALL LETTER M;cS;cV;cW;cATIU;cZ;cKP;cP;cT
cG;cF;cI;cK;cA;cJ;cE;cB;cC;cU;cYU;cL;cQ;cHP;cNY;cX;cD;cOE;cN;cR;cO;cAI;cY;aDIGIT ZERO;bONE;bTWO
bTHREE;bFOUR;bFIVE;bSIX;bSEVEN;bEIGHT;bNINE;aNUMBER TEN;bELEVEN;bTWELVE;bTHIRTEEN;bFOURTEEN
bFIFTEEN;bSIXTEEN;bSEVENTEEN;bEIGHTEEN;bNINETEEN;aDIGIT ONE ALTERNATE FORM;bTWO+b;bTHREE+b
aCOMMA;aFULL STOP;aSYMBOL AIVA;aEXCLAMATION OH"),
   (0x16F00, "MIAO LETTER PA;bBA;bYI PA;bPLA;bMA;bMHA;bARCHAIC MA;bFA;bVA;bVFA;bTA;bDA;bYI TTA
cTA;bTTA;bDDA;bNA;bNHA;bYI NNA;bARCHAIC NA;bNNA;bNNHA;bLA;bLYA;bLHA;bLHYA;bTLHA;bDLHA;bTLHYA
bDLHYA;bKA;bGA;bYI KA;bQA;bQGA;bNGA;bNGHA;bARCHAIC NGA;bHA;bXA;bGHA;bGHHA;bTSSA;bDZZA;bNYA
bNYHA;bTSHA;bDZHA;bYI TSHA;cDZHA;bREFORMED TSHA;bSHA;bSSA;bZHA;bZSHA;bTSA;bDZA;bYI TSA;bSA;bZA
bZSA;bZZA;bZZSA;bARCHAIC ZZA;bZZYA;bZZSYA;bWA;bAH;bHHA;bBRI;bSYI;bDZYI;bTE;bTSE;bRTE"),
   (0x16F4F, "MIAO SIGN CONSONANT MODIFIER BAR;aLETTER NASALIZATION;aSIGN ASPIRATION
bREFORMED VOICING;cASPIRATION;aVOWEL SIGN A;cAA;cAHH;cAN;cANG;cO;cOO;cWO;cW;cE;cEN;cENG;cOEY;cI
cIA;cIAN;cIANG;cIO;cIE;cII;cIU;cING;cU;cUA;cUAN;cUANG;cUU;cUEI;cUNG;cY;cYI;cAE;cAEE;cERR
cROUNDED+a;cER;cROUNDED+a;cAI;cEI;cAU;cOU;cN;cNG;cUOG;cYUI;cOG;cOER;cVW;cIG;cEA;cIONG;cUI"),
   (0x16F8F, "MIAO TONE RIGHT;bTOP+a;bABOVE;bBELOW;aLETTER TONE-2;bTONE-3;bTONE-4;bTONE-5
bTONE-6;bTONE-7;bTONE-8;bREFORMED TONE-1;cTONE-2;cTONE-4;cTONE-5;cTONE-6;cTONE-8"),
   (0x16FE0, "TANGUT ITERATION MARK;NUSHU+b;OLD CHINESE HOOK+a;bITERATION+a
KHITAN SMALL SCRIPT FILLER"),
   (0x16FF0, "VIETNAMESE ALTERNATE READING MARK CA;dNHAY"),
   (0x18800, "TANGUT COMPONENT-001;aCOMPONENT-002;aCOMPONENT-003;aCOMPONENT-004;aCOMPONENT-005
aCOMPONENT-006;aCOMPONENT-007;aCOMPONENT-008;aCOMPONENT-009;aCOMPONENT-010;aCOMPONENT-011
aCOMPONENT-012;aCOMPONENT-013;aCOMPONENT-014;aCOMPONENT-015;aCOMPONENT-016;aCOMPONENT-017
aCOMPONENT-018;aCOMPONENT-019;aCOMPONENT-020;aCOMPONENT-021;aCOMPONENT-022;aCOMPONENT-023
aCOMPONENT-024;aCOMPONENT-025;aCOMPONENT-026;aCOMPONENT-027;aCOMPONENT-028;aCOMPONENT-029
aCOMPONENT-030;aCOMPONENT-031;aCOMPONENT-032;aCOMPONENT-033;aCOMPONENT-034;aCOMPONENT-035
aCOMPONENT-036;aCOMPONENT-037;aCOMPONENT-038;aCOMPONENT-039;aCOMPONENT-040;aCOMPONENT-041
aCOMPONENT-042;aCOMPONENT-043;aCOMPONENT-044;aCOMPONENT-045;aCOMPONENT-046;aCOMPONENT-047
aCOMPONENT-048;aCOMPONENT-049;aCOMPONENT-050;aCOMPONENT-051;aCOMPONENT-052;aCOMPONENT-053
aCOMPONENT-054;aCOMPONENT-055;aCOMPONENT-056;aCOMPONENT-057;aCOMPONENT-058;aCOMPONENT-059
aCOMPONENT-060;aCOMPONENT-061;aCOMPONENT-062;aCOMPONENT-063;aCOMPONENT-064;aCOMPONENT-065
aCOMPONENT-066;aCOMPONENT-067;aCOMPONENT-068;aCOMPONENT-069;aCOMPONENT-070;aCOMPONENT-071
aCOMPONENT-072;aCOMPONENT-073;aCOMPONENT-074;aCOMPONENT-075;aCOMPONENT-076;aCOMPONENT-077
aCOMPONENT-078;aCOMPONENT-079;aCOMPONENT-080;aCOMPONENT-081;aCOMPONENT-082;aCOMPONENT-083
aCOMPONENT-084;aCOMPONENT-085;aCOMPONENT-086;aCOMPONENT-087;aCOMPONENT-088;aCOMPONENT-089
aCOMPONENT-090;aCOMPONENT-091;aCOMPONENT-092;aCOMPONENT-093;aCOMPONENT-094;aCOMPONENT-095
aCOMPONENT-096;aCOMPONENT-097;aCOMPONENT-098;aCOMPONENT-099;aCOMPONENT-100;aCOMPONENT-101
aCOMPONENT-102;aCOMPONENT-103;aCOMPONENT-104;aCOMPONENT-105;aCOMPONENT-106;aCOMPONENT-107
aCOMPONENT-108;aCOMPONENT-109;aCOMPONENT-110;aCOMPONENT-111;aCOMPONENT-112;aCOMPONENT-113
aCOMPONENT-114;aCOMPONENT-115;aCOMPONENT-116;aCOMPONENT-117;aCOMPONENT-118;aCOMPONENT-119
aCOMPONENT-120;aCOMPONENT-121;aCOMPONENT-122;aCOMPONENT-123;aCOMPONENT-124;aCOMPONENT-125
aCOMPONENT-126;aCOMPONENT-127;aCOMPONENT-128;aCOMPONENT-129;aCOMPONENT-130;aCOMPONENT-131
aCOMPONENT-132;aCOMPONENT-133;aCOMPONENT-134;aCOMPONENT-135;aCOMPONENT-136;aCOMPONENT-137
aCOMPONENT-138;aCOMPONENT-139;aCOMPONENT-140;aCOMPONENT-141;aCOMPONENT-142;aCOMPONENT-143
aCOMPONENT-144;aCOMPONENT-145;aCOMPONENT-146;aCOMPONENT-147;aCOMPONENT-148;aCOMPONENT-149
aCOMPONENT-150;aCOMPONENT-151;aCOMPONENT-152;aCOMPONENT-153;aCOMPONENT-154;aCOMPONENT-155
aCOMPONENT-156;aCOMPONENT-157;aCOMPONENT-158;aCOMPONENT-159;aCOMPONENT-160;aCOMPONENT-161
aCOMPONENT-162;aCOMPONENT-163;aCOMPONENT-164;aCOMPONENT-165;aCOMPONENT-166;aCOMPONENT-167
aCOMPONENT-168;aCOMPONENT-169;aCOMPONENT-170;aCOMPONENT-171;aCOMPONENT-172;aCOMPONENT-173
aCOMPONENT-174;aCOMPONENT-175;aCOMPONENT-176;aCOMPONENT-177;aCOMPONENT-178;aCOMPONENT-179
aCOMPONENT-180;aCOMPONENT-181;aCOMPONENT-182;aCOMPONENT-183;aCOMPONENT-184;aCOMPONENT-185
aCOMPONENT-186;aCOMPONENT-187;aCOMPONENT-188;aCOMPONENT-189;aCOMPONENT-190;aCOMPONENT-191
aCOMPONENT-192;aCOMPONENT-193;aCOMPONENT-194;aCOMPONENT-195;aCOMPONENT-196;aCOMPONENT-197
aCOMPONENT-198;aCOMPONENT-199;aCOMPONENT-200;aCOMPONENT-201;aCOMPONENT-202;aCOMPONENT-203
aCOMPONENT-204;aCOMPONENT-205;aCOMPONENT-206;aCOMPONENT-207;aCOMPONENT-208;aCOMPONENT-209
aCOMPONENT-210;aCOMPONENT-211;aCOMPONENT-212;aCOMPONENT-213;aCOMPONENT-214;aCOMPONENT-215
aCOMPONENT-216;aCOMPONENT-217;aCOMPONENT-218;aCOMPONENT-219;aCOMPONENT-220;aCOMPONENT-221
aCOMPONENT-222;aCOMPONENT-223;aCOMPONENT-224;aCOMPONENT-225;aCOMPONENT-226;aCOMPONENT-227
aCOMPONENT-228;aCOMPONENT-229;aCOMPONENT-230;aCOMPONENT-231;aCOMPONENT-232;aCOMPONENT-233
aCOMPONENT-234;aCOMPONENT-235;aCOMPONENT-236;aCOMPONENT-237;aCOMPONENT-238;aCOMPONENT-239
aCOMPONENT-240;aCOMPONENT-241;aCOMPONENT-242;aCOMPONENT-243;aCOMPONENT-244;aCOMPONENT-245
aCOMPONENT-246;aCOMPONENT-247;aCOMPONENT-248;aCOMPONENT-249;aCOMPONENT-250;aCOMPONENT-251
aCOMPONENT-252;aCOMPONENT-253;aCOMPONENT-254;aCOMPONENT-255;aCOMPONENT-256;aCOMPONENT-257
aCOMPONENT-258;aCOMPONENT-259;aCOMPONENT-260;aCOMPONENT-261;aCOMPONENT-262;aCOMPONENT-263
aCOMPONENT-264;aCOMPONENT-265;aCOMPONENT-266;aCOMPONENT-267;aCOMPONENT-268;aCOMPONENT-269
aCOMPONENT-270;aCOMPONENT-271;aCOMPONENT-272;aCOMPONENT-273;aCOMPONENT-274;aCOMPONENT-275
aCOMPONENT-276;aCOMPONENT-277;aCOMPONENT-278;aCOMPONENT-279;aCOMPONENT-280;aCOMPONENT-281
aCOMPONENT-282;aCOMPONENT-283;aCOMPONENT-284;aCOMPONENT-285;aCOMPONENT-286;aCOMPONENT-287
aCOMPONENT-288;aCOMPONENT-289;aCOMPONENT-290;aCOMPONENT-291;aCOMPONENT-292;aCOMPONENT-293
aCOMPONENT-294;aCOMPONENT-295;aCOMPONENT-296;aCOMPONENT-297;aCOMPONENT-298;aCOMPONENT-299
aCOMPONENT-300;aCOMPONENT-301;aCOMPONENT-302;aCOMPONENT-303;aCOMPONENT-304;aCOMPONENT-305
aCOMPONENT-306;aCOMPONENT-307;aCOMPONENT-308;aCOMPONENT-309;aCOMPONENT-310;aCOMPONENT-311
aCOMPONENT-312;aCOMPONENT-313;aCOMPONENT-314;aCOMPONENT-315;aCOMPONENT-316;aCOMPONENT-317
aCOMPONENT-318;aCOMPONENT-319;aCOMPONENT-320;aCOMPONENT-321;aCOMPONENT-322;aCOMPONENT-323
aCOMPONENT-324;aCOMPONENT-325;aCOMPONENT-326;aCOMPONENT-327;aCOMPONENT-328;aCOMPONENT-329
aCOMPONENT-330;aCOMPONENT-331;aCOMPONENT-332;aCOMPONENT-333;aCOMPONENT-334;aCOMPONENT-335
aCOMPONENT-336;aCOMPONENT-337;aCOMPONENT-338;aCOMPONENT-339;aCOMPONENT-340;aCOMPONENT-341
aCOMPONENT-342;aCOMPONENT-343;aCOMPONENT-344;aCOMPONENT-345;aCOMPONENT-346;aCOMPONENT-347
aCOMPONENT-348;aCOMPONENT-349;aCOMPONENT-350;aCOMPONENT-351;aCOMPONENT-352;aCOMPONENT-353
aCOMPONENT-354;aCOMPONENT-355;aCOMPONENT-356;aCOMPONENT-357;aCOMPONENT-358;aCOMPONENT-359
aCOMPONENT-360;aCOMPONENT-361;aCOMPONENT-362;aCOMPONENT-363;aCOMPONENT-364;aCOMPONENT-365
aCOMPONENT-366;aCOMPONENT-367;aCOMPONENT-368;aCOMPONENT-369;aCOMPONENT-370;aCOMPONENT-371
aCOMPONENT-372;aCOMPONENT-373;aCOMPONENT-374;aCOMPONENT-375;aCOMPONENT-376;aCOMPONENT-377
aCOMPONENT-378;aCOMPONENT-379;aCOMPONENT-380;aCOMPONENT-381;aCOMPONENT-382;aCOMPONENT-383
aCOMPONENT-384;aCOMPONENT-385;aCOMPONENT-386;aCOMPONENT-387;aCOMPONENT-388;aCOMPONENT-389
aCOMPONENT-390;aCOMPONENT-391;aCOMPONENT-392;aCOMPONENT-393;aCOMPONENT-394;aCOMPONENT-395
aCOMPONENT-396;aCOMPONENT-397;aCOMPONENT-398;aCOMPONENT-399;aCOMPONENT-400;aCOMPONENT-401
aCOMPONENT-402;aCOMPONENT-403;aCOMPONENT-404;aCOMPONENT-405;aCOMPONENT-406;aCOMPONENT-407
aCOMPONENT-408;aCOMPONENT-409;aCOMPONENT-410;aCOMPONENT-411;aCOMPONENT-412;aCOMPONENT-413
aCOMPONENT-414;aCOMPONENT-415;aCOMPONENT-416;aCOMPONENT-417;aCOMPONENT-418;aCOMPONENT-419
aCOMPONENT-420;aCOMPONENT-421;aCOMPONENT-422;aCOMPONENT-423;aCOMPONENT-424;aCOMPONENT-425
aCOMPONENT-426;aCOMPONENT-427;aCOMPONENT-428;aCOMPONENT-429;aCOMPONENT-430;aCOMPONENT-431
aCOMPONENT-432;aCOMPONENT-433;aCOMPONENT-434;aCOMPONENT-435;aCOMPONENT-436;aCOMPONENT-437
aCOMPONENT-438;aCOMPONENT-439;aCOMPONENT-440;aCOMPONENT-441;aCOMPONENT-442;aCOMPONENT-443
aCOMPONENT-444;aCOMPONENT-445;aCOMPONENT-446;aCOMPONENT-447;aCOMPONENT-448;aCOMPONENT-449
aCOMPONENT-450;aCOMPONENT-451;aCOMPONENT-452;aCOMPONENT-453;aCOMPONENT-454;aCOMPONENT-455
aCOMPONENT-456;aCOMPONENT-457;aCOMPONENT-458;aCOMPONENT-459;aCOMPONENT-460;aCOMPONENT-461
aCOMPONENT-462;aCOMPONENT-463;aCOMPONENT-464;aCOMPONENT-465;aCOMPONENT-466;aCOMPONENT-467
aCOMPONENT-468;aCOMPONENT-469;aCOMPONENT-470;aCOMPONENT-471;aCOMPONENT-472;aCOMPONENT-473
aCOMPONENT-474;aCOMPONENT-475;aCOMPONENT-476;aCOMPONENT-477;aCOMPONENT-478;aCOMPONENT-479
aCOMPONENT-480;aCOMPONENT-481;aCOMPONENT-482;aCOMPONENT-483;aCOMPONENT-484;aCOMPONENT-485
aCOMPONENT-486;aCOMPONENT-487;aCOMPONENT-488;aCOMPONENT-489;aCOMPONENT-490;aCOMPONENT-491
aCOMPONENT-492;aCOMPONENT-493;aCOMPONENT-494;aCOMPONENT-495;aCOMPONENT-496;aCOMPONENT-497
aCOMPONENT-498;aCOMPONENT-499;aCOMPONENT-500;aCOMPONENT-501;aCOMPONENT-502;aCOMPONENT-503
aCOMPONENT-504;aCOMPONENT-505;aCOMPONENT-506;aCOMPONENT-507;aCOMPONENT-508;aCOMPONENT-509
aCOMPONENT-510;aCOMPONENT-511;aCOMPONENT-512;aCOMPONENT-513;aCOMPONENT-514;aCOMPONENT-515
aCOMPONENT-516;aCOMPONENT-517;aCOMPONENT-518;aCOMPONENT-519;aCOMPONENT-520;aCOMPONENT-521
aCOMPONENT-522;aCOMPONENT-523;aCOMPONENT-524;aCOMPONENT-525;aCOMPONENT-526;aCOMPONENT-527
aCOMPONENT-528;aCOMPONENT-529;aCOMPONENT-530;aCOMPONENT-531;aCOMPONENT-532;aCOMPONENT-533
aCOMPONENT-534;aCOMPONENT-535;aCOMPONENT-536;aCOMPONENT-537;aCOMPONENT-538;aCOMPONENT-539
aCOMPONENT-540;aCOMPONENT-541;aCOMPONENT-542;aCOMPONENT-543;aCOMPONENT-544;aCOMPONENT-545
aCOMPONENT-546;aCOMPONENT-547;aCOMPONENT-548;aCOMPONENT-549;aCOMPONENT-550;aCOMPONENT-551
aCOMPONENT-552;aCOMPONENT-553;aCOMPONENT-554;aCOMPONENT-555;aCOMPONENT-556;aCOMPONENT-557
aCOMPONENT-558;aCOMPONENT-559;aCOMPONENT-560;aCOMPONENT-561;aCOMPONENT-562;aCOMPONENT-563
aCOMPONENT-564;aCOMPONENT-565;aCOMPONENT-566;aCOMPONENT-567;aCOMPONENT-568;aCOMPONENT-569
aCOMPONENT-570;aCOMPONENT-571;aCOMPONENT-572;aCOMPONENT-573;aCOMPONENT-574;aCOMPONENT-575
aCOMPONENT-576;aCOMPONENT-577;aCOMPONENT-578;aCOMPONENT-579;aCOMPONENT-580;aCOMPONENT-581
aCOMPONENT-582;aCOMPONENT-583;aCOMPONENT-584;aCOMPONENT-585;aCOMPONENT-586;aCOMPONENT-587
aCOMPONENT-588;aCOMPONENT-589;aCOMPONENT-590;aCOMPONENT-591;aCOMPONENT-592;aCOMPONENT-593
aCOMPONENT-594;aCOMPONENT-595;aCOMPONENT-596;aCOMPONENT-597;aCOMPONENT-598;aCOMPONENT-599
aCOMPONENT-600;aCOMPONENT-601;aCOMPONENT-602;aCOMPONENT-603;aCOMPONENT-604;aCOMPONENT-605
aCOMPONENT-606;aCOMPONENT-607;aCOMPONENT-608;aCOMPONENT-609;aCOMPONENT-610;aCOMPONENT-611
aCOMPONENT-612;aCOMPONENT-613;aCOMPONENT-614;aCOMPONENT-615;aCOMPONENT-616;aCOMPONENT-617
aCOMPONENT-618;aCOMPONENT-619;aCOMPONENT-620;aCOMPONENT-621;aCOMPONENT-622;aCOMPONENT-623
aCOMPONENT-624;aCOMPONENT-625;aCOMPONENT-626;aCOMPONENT-627;aCOMPONENT-628;aCOMPONENT-629
aCOMPONENT-630;aCOMPONENT-631;aCOMPONENT-632;aCOMPONENT-633;aCOMPONENT-634;aCOMPONENT-635
aCOMPONENT-636;aCOMPONENT-637;aCOMPONENT-638;aCOMPONENT-639;aCOMPONENT-640;aCOMPONENT-641
aCOMPONENT-642;aCOMPONENT-643;aCOMPONENT-644;aCOMPONENT-645;aCOMPONENT-646;aCOMPONENT-647
aCOMPONENT-648;aCOMPONENT-649;aCOMPONENT-650;aCOMPONENT-651;aCOMPONENT-652;aCOMPONENT-653
aCOMPONENT-654;aCOMPONENT-655;aCOMPONENT-656;aCOMPONENT-657;aCOMPONENT-658;aCOMPONENT-659
aCOMPONENT-660;aCOMPONENT-661;aCOMPONENT-662;aCOMPONENT-663;aCOMPONENT-664;aCOMPONENT-665
aCOMPONENT-666;aCOMPONENT-667;aCOMPONENT-668;aCOMPONENT-669;aCOMPONENT-670;aCOMPONENT-671
aCOMPONENT-672;aCOMPONENT-673;aCOMPONENT-674;aCOMPONENT-675;aCOMPONENT-676;aCOMPONENT-677
aCOMPONENT-678;aCOMPONENT-679;aCOMPONENT-680;aCOMPONENT-681;aCOMPONENT-682;aCOMPONENT-683
aCOMPONENT-684;aCOMPONENT-685;aCOMPONENT-686;aCOMPONENT-687;aCOMPONENT-688;aCOMPONENT-689
aCOMPONENT-690;aCOMPONENT-691;aCOMPONENT-692;aCOMPONENT-693;aCOMPONENT-694;aCOMPONENT-695
aCOMPONENT-696;aCOMPONENT-697;aCOMPONENT-698;aCOMPONENT-699;aCOMPONENT-700;aCOMPONENT-701
aCOMPONENT-702;aCOMPONENT-703;aCOMPONENT-704;aCOMPONENT-705;aCOMPONENT-706;aCOMPONENT-707
aCOMPONENT-708;aCOMPONENT-709;aCOMPONENT-710;aCOMPONENT-711;aCOMPONENT-712;aCOMPONENT-713
aCOMPONENT-714;aCOMPONENT-715;aCOMPONENT-716;aCOMPONENT-717;aCOMPONENT-718;aCOMPONENT-719
aCOMPONENT-720;aCOMPONENT-721;aCOMPONENT-722;aCOMPONENT-723;aCOMPONENT-724;aCOMPONENT-725
aCOMPONENT-726;aCOMPONENT-727;aCOMPONENT-728;aCOMPONENT-729;aCOMPONENT-730;aCOMPONENT-731
aCOMPONENT-732;aCOMPONENT-733;aCOMPONENT-734;aCOMPONENT-735;aCOMPONENT-736;aCOMPONENT-737
aCOMPONENT-738;aCOMPONENT-739;aCOMPONENT-740;aCOMPONENT-741;aCOMPONENT-742;aCOMPONENT-743
aCOMPONENT-744;aCOMPONENT-745;aCOMPONENT-746;aCOMPONENT-747;aCOMPONENT-748;aCOMPONENT-749
aCOMPONENT-750;aCOMPONENT-751;aCOMPONENT-752;aCOMPONENT-753;aCOMPONENT-754;aCOMPONENT-755
aCOMPONENT-756;aCOMPONENT-757;aCOMPONENT-758;aCOMPONENT-759;aCOMPONENT-760;aCOMPONENT-761
aCOMPONENT-762;aCOMPONENT-763;aCOMPONENT-764;aCOMPONENT-765;aCOMPONENT-766;aCOMPONENT-767
aCOMPONENT-768"),
   (0x1AFF0, "KATAKANA LETTER MINNAN TONE-2;cTONE-3;cTONE-4;cTONE-5"),
   (0x1AFF5, "KATAKANA LETTER MINNAN TONE-7;cTONE-8;cNASALIZED TONE-1;dTONE-2;dTONE-3;dTONE-4
dTONE-5"),
   (0x1AFFD, "KATAKANA LETTER MINNAN NASALIZED TONE-7;dTONE-8"),
   (0x1B000, "KATAKANA LETTER ARCHAIC E;HIRAGANA LETTER ARCHAIC YE;HENTAIGANA LETTER A-1;bA-2
bA-3;bA-WO;bI-1;bI-2;bI-3;bI-4;bU-1;bU-2;bU-3;bU-4;bU-5;bE-2;bE-3;bE-4;bE-5;bE-6;bO-1;bO-2;bO-3
bKA-1;bKA-2;bKA-3;bKA-4;bKA-5;bKA-6;bKA-7;bKA-8;bKA-9;bKA-10;bKA-11;bKA-KE;bKI-1;bKI-2;bKI-3
bKI-4;bKI-5;bKI-6;bKI-7;bKI-8;bKU-1;bKU-2;bKU-3;bKU-4;bKU-5;bKU-6;bKU-7;bKE-1;bKE-2;bKE-3;bKE-4
bKE-5;bKE-6;bKO-1;bKO-2;bKO-3;bKO-KI;bSA-1;bSA-2;bSA-3;bSA-4;bSA-5;bSA-6;bSA-7;bSA-8;bSI-1
bSI-2;bSI-3;bSI-4;bSI-5;bSI-6;bSU-1;bSU-2;bSU-3;bSU-4;bSU-5;bSU-6;bSU-7;bSU-8;bSE-1;bSE-2;bSE-3
bSE-4;bSE-5;bSO-1;bSO-2;bSO-3;bSO-4;bSO-5;bSO-6;bSO-7;bTA-1;bTA-2;bTA-3;bTA-4;bTI-1;bTI-2;bTI-3
bTI-4;bTI-5;bTI-6;bTI-7;bTU-1;bTU-2;bTU-3;bTU-4;bTU-TO;bTE-1;bTE-2;bTE-3;bTE-4;bTE-5;bTE-6
bTE-7;bTE-8;bTE-9;bTO-1;bTO-2;bTO-3;bTO-4;bTO-5;bTO-6;bTO-RA;bNA-1;bNA-2;bNA-3;bNA-4;bNA-5
bNA-6;bNA-7;bNA-8;bNA-9;bNI-1;bNI-2;bNI-3;bNI-4;bNI-5;bNI-6;bNI-7;bNI-TE;bNU-1;bNU-2;bNU-3
bNE-1;bNE-2;bNE-3;bNE-4;bNE-5;bNE-6;bNE-KO;bNO-1;bNO-2;bNO-3;bNO-4;bNO-5;bHA-1;bHA-2;bHA-3
bHA-4;bHA-5;bHA-6;bHA-7;bHA-8;bHA-9;bHA-10;bHA-11;bHI-1;bHI-2;bHI-3;bHI-4;bHI-5;bHI-6;bHI-7
bHU-1;bHU-2;bHU-3;bHE-1;bHE-2;bHE-3;bHE-4;bHE-5;bHE-6;bHE-7;bHO-1;bHO-2;bHO-3;bHO-4;bHO-5;bHO-6
bHO-7;bHO-8;bMA-1;bMA-2;bMA-3;bMA-4;bMA-5;bMA-6;bMA-7;bMI-1;bMI-2;bMI-3;bMI-4;bMI-5;bMI-6;bMI-7
bMU-1;bMU-2;bMU-3;bMU-4;bME-1;bME-2;bME-MA;bMO-1;bMO-2;bMO-3;bMO-4;bMO-5;bMO-6;bYA-1;bYA-2
bYA-3;bYA-4;bYA-5;bYA-YO;bYU-1;bYU-2;bYU-3;bYU-4;bYO-1;bYO-2;bYO-3;bYO-4;bYO-5;bYO-6;bRA-1
bRA-2;bRA-3;bRA-4;bRI-1;bRI-2;bRI-3;bRI-4;bRI-5;bRI-6;bRI-7;bRU-1;bRU-2;bRU-3;bRU-4;bRU-5;bRU-6
bRE-1;bRE-2;bRE-3;bRE-4;bRO-1;bRO-2;bRO-3;bRO-4;bRO-5;bRO-6;bWA-1;bWA-2;bWA-3;bWA-4;bWA-5;bWI-1
bWI-2;bWI-3;bWI-4;bWI-5;bWE-1;bWE-2;bWE-3;bWE-4;bWO-1;bWO-2;bWO-3;bWO-4;bWO-5;bWO-6;bWO-7
bN-MU-MO-1;bN-MU-MO-2;HIRAGANA LETTER ARCHAIC WU;KATAKANA LETTER ARCHAIC YI;cYE;cWU"),
   (0x1B150, "HIRAGANA LETTER SMALL WI;cWE;cWO"),
   (0x1B164, "KATAKANA LETTER SMALL WI;cWE;cWO;cN"),
   (0x1BC00, "DUPLOYAN LETTER H;bX;bP;bT;bF;bK;bL;bB;bD;bV;bG;bR;bP N;bD S;bF N;bK M;bR S;bTH
bSLOAN DH;bDH;bKK;bSLOAN J;bHL;bLH;bRH;bM;bN;bJ;bS;bM N;bN M;bJ M;bS J;bM WITH DOT;bN+b;bJ+b
dDOTS INSIDE AND ABOVE;bS WITH DOT;eBELOW;bM S;bN S;bJ S;bS S;bM N S;bN M S;bJ+b;bS J S
bJ S WITH DOT;cN;dS;bS T;dR;cP;dR;bT S;cR S;bW;bWH;bW R;bS N;cM;bK R S;bG+b;bS K;dR;bA
bSLOAN OW;bOA;bO;bAOU;bI;bE;bIE;bSHORT I;bUI;bEE;bSLOAN EH;bROMANIAN I;bSLOAN EE;bLONG I;bYE;bU
bEU;bXW;bU N;bLONG U;bROMANIAN U;bUH;bSLOAN U;bOOH;bOW;bOU;bWA;bWO;bWI;bWEI;bWOW;bNASAL U;cO;cI
cA;bPERNIN AN;cAM;bSLOAN EN;cAN;cON;bVOCALIC M"),
   (0x1BC70, "DUPLOYAN AFFIX LEFT HORIZONTAL SECANT;bMID+b;bRIGHT+b;bLOW VERTICAL+a;bMID+b
bHIGH+b;bATTACHED+a;cLEFT-TO-RIGHT+a;cTANGENT;cTAIL;cE HOOK;cI+a;cTANGENT+a"),
   (0x1BC80, "DUPLOYAN AFFIX HIGH ACUTE;cTIGHT+a;cGRAVE;cLONG+a;cDOT;cCIRCLE;cLINE;cWAVE
cVERTICAL"),
   (0x1BC90, "DUPLOYAN AFFIX LOW ACUTE;cTIGHT+a;cGRAVE;cLONG+a;cDOT;cCIRCLE;cLINE;cWAVE
cVERTICAL;cARROW"),
   (0x1BC9C, "DUPLOYAN SIGN O WITH CROSS;aTHICK LETTER SELECTOR;aDOUBLE MARK
aPUNCTUATION CHINOOK FULL STOP;SHORTHAND FORMAT LETTER OVERLAP;bCONTINUING+a;bDOWN STEP;bUP+a"),
   (0x1CF00, "ZNAMENNY COMBINING MARK GORAZDO NIZKO S KRYZHEM ON LEFT;c+e;cTSATA+b
cGORAZDO NIZKO+b;c+c;cSREDNE+b;cMALO POVYSHE+b;c+c;cVYSOKO+b;cMALO POVYSHE S KHOKHLOM+b;c+e
cVYSOKO+d;cGORAZDO NIZKO S KRYZHEM ON RIGHT;c+e;cTSATA+b;cGORAZDO NIZKO+b;c+c;cSREDNE+b
cMALO POVYSHE+b;c+c;cVYSOKO+b;cMALO POVYSHE S KHOKHLOM+b;c+e;cVYSOKO+d;cTSATA S KRYZHEM
cMALO POVYSHE+b;cSTRANNO MALO POVYSHE;cPOVYSHE S KRYZHEM;dSTRANNO;cVYSOKO S KRYZHEM
cMALO POVYSHE STRANNO;cGORAZDO VYSOKO;cZELO;cON;cRAVNO;cTIKHAYA;cBORZAYA;cUDARKA;cPODVERTKA
cLOMKA;cKUPNAYA;cKACHKA;cZEVOK;cSKOBA;cRAZSEKA;cKRYZH ON LEFT"),
   (0x1CF30, "ZNAMENNY COMBINING TONAL RANGE MARK MRACHNO;eSVETLO;eTRESVETLO;bMARK ZADERZHKA
cDEMESTVENNY+a;cOTSECHKA;cPODCHASHIE;dWITH VERTICAL STROKE;cCHASHKA;dPOLNAYA;cOBLACHKO
cSOROCHYA NOZHKA;cTOCHKA;cDVOETOCHIE;bATTACHING VERTICAL OMET;bMARK CURVED+a;cKRYZH
bLOWER TONAL RANGE INDICATOR;aPRIZNAK MODIFIER LEVEL-2;cLEVEL-3;cDIRECTION FLIP;cKRYZH;cROG"),
   (0x1CF50, "ZNAMENNY NEUME KRYUK;cTIKHY;bPARAKLIT;bDVA V CHELNU;bKLYUCH;bZANOZHEK;bSTOPITSA
cS OCHKOM;bPEREVODKA;cNEPOSTOYANNAYA;bSTOPITSA WITH SOROCHYA NOZHKA;bCHELYUSTKA;bPALKA
bZAPYATAYA;bGOLUBCHIK BORZY;cTIKHY;cMRACHNY;cSVETLY;cTRESVETLY;bVRAKHIYA PROSTAYA;cMRACHNAYA
cSVETLAYA;cTRESVETLAYA;cKLYUCHEVAYA PROSTAYA;dMRACHNAYA;dSVETLAYA;dTRESVETLAYA
bDOUBLE ZAPYATAYA;bREVERSED CHELYUSTKA;bDERBITSA;bKHAMILO;bCHASHKA;bPODCHASHIE
bSKAMEYTSA MRACHNAYA;cSVETLAYA;cTRESVETLAYA;cTIKHAYA;bDEMESTVENNY KLYUCH
bSKAMEYTSA KLYUCHEVAYA SVETLAYA;cKLYUCHENEPOSTOYANNAYA;cKLYUCHEVAYA TIKHAYA
cDVOECHELNAYA PROSTAYA;dSVETLAYA;dNEPOSTOYANNAYA;dKLYUCHEVAYA;bSLOZHITIE;cS ZAPYATOY;cZAKRYTOE
cS KRYZHEM;bKRYZH;bROG;bFITA;bKOBYLA;bZMEYTSA;bSTATYA;cS ZAPYATOY;dKRYZHEM;dZAPYATOY I+a
dKRYZHEM I ZAPYATOY;cZAKRYTAYA;dS ZAPYATOY;cS ROGOM;dDVUMYA ZAPYATYMI;dZAPYATOY I PODCHASHIEM
bPOLKULIZMY;bSTATYA NEPOSTOYANNAYA;bSTRELA PROSTAYA;cMRACHNOTIKHAYA;cKRYZHEVAYA;cPOLUPOVODNAYA
cPOVODNAYA;cNEPOSTOYANNAYA;cKLYUCHEPOVODNAYA;cKLYUCHENEPOSTOYANNAYA;cTIKHAYA PUTNAYA
cDVOECHELNAYA;cDVOECHELNOKRYZHEVAYA;cDVOECHELNOPOVODNAYA;cDVOECHELNAYA KLYUCHEVAYA
cDVOECHELNOPOVODNAYA+a;cGROMNAYA WITH SINGLE ZAPYATAYA;cGROMOPOVODNAYA+c;cGROMNAYA
cGROMOPOVODNAYA;dWITH DOUBLE ZAPYATAYA;cGROMOKRYZHEVAYA;dPOVODNAYA;bMECHIK;cPOVODNY;cKLYUCHEVOY
cKLYUCHEPOVODNY;cKLYUCHENEPOSTOYANNY;bSTRELA TRYASOGLASNAYA;cTRYASOPOVODNAYA;cTRYASOSTRELNAYA
bOSOKA;cSVETLAYA;cTRESVETLAYA;cKRYUKOVAYA SVETLAYA;cKLYUCHEVAYA+a;dNEPOSTOYANNAYA
bSTRELA KRYUKOVAYA;dPOVODNAYA;dGROMNAYA WITH SINGLE ZAPYATAYA;dGROMOPOVODNAYA+c;dGROMNAYA
dGROMOPOVODNAYA;eWITH DOUBLE ZAPYATAYA;dGROMOKRYZHEVAYA;ePOVODNAYA;dTRYASKA;bKUFISMA;bOBLAKO
bDUDA;bNEMKA;bPAUK"),
   (0x1D000, "BYZANTINE MUSICAL SYMBOL PSILI;cDASEIA;cPERISPOMENI;cOXEIA EKFONITIKON;dDIPLI
cVAREIA EKFONITIKON;dDIPLI;cKATHISTI;cSYRMATIKI;cPARAKLITIKI;cYPOKRISIS;dDIPLI;cKREMASTI
cAPESO EKFONITIKON;cEXO+a;cTELEIA;cKENTIMATA;cAPOSTROFOS;dDIPLI;cSYNEVMA;cTHITA
cOLIGON ARCHAION;cGORGON+a;cPSILON;cCHAMILON;cVATHY;cISON ARCHAION;cKENTIMA+a;cKENTIMATA+a
cSAXIMATA;cPARICHON;cSTAVROS APODEXIA;cOXEIAI ARCHAION;cVAREIAI+a;cAPODERMA+a;cAPOTHEMA;cKLASMA
cREVMA;cPIASMA ARCHAION;cTINAGMA;cANATRICHISMA;cSEISMA;cSYNAGMA ARCHAION;dMETA STAVROU
cOYRANISMA ARCHAION;cTHEMA;cLEMOI;cDYO;cTRIA;cTESSERA;cKRATIMATA;cAPESO EXO NEO
cFTHORA ARCHAION;cIMIFTHORA;cTROMIKON ARCHAION;cKATAVA TROMIKON;cPELASTON;cPSIFISTON;cKONTEVMA
cCHOREVMA ARCHAION;cRAPISMA;cPARAKALESMA ARCHAION;cPARAKLITIKI+a;cICHADIN;cNANA;cPETASMA
cKONTEVMA ALLO;cTROMIKON+a;cSTRAGGISMATA;cGRONTHISMATA;cISON NEO;cOLIGON+a;cOXEIA+a;cPETASTI
cKOUFISMA;cPETASTOKOUFISMA;cKRATIMOKOUFISMA;cPELASTON NEO;cKENTIMATA NEO ANO;cKENTIMA+b;cYPSILI
cAPOSTROFOS NEO;cAPOSTROFOI SYNDESMOS+a;cYPORROI;cKRATIMOYPORROON;cELAFRON;cCHAMILI
cMIKRON ISON;cVAREIA NEO;cPIASMA+a;cPSIFISTON+a;cOMALON;cANTIKENOMA;cLYGISMA;cPARAKLITIKI NEO
cPARAKALESMA+a;cETERON PARAKALESMA;cKYLISMA;cANTIKENOKYLISMA;cTROMIKON NEO;cEKSTREPTON
cSYNAGMA NEO;cSYRMA;cCHOREVMA NEO;cEPEGERMA;cSEISMA NEO;cXIRON KLASMA;cTROMIKOPSIFISTON
cPSIFISTOLYGISMA;cTROMIKOLYGISMA;cTROMIKOPARAKALESMA;cPSIFISTOPARAKALESMA;cTROMIKOSYNAGMA
cPSIFISTOSYNAGMA;cGORGOSYNTHETON;cARGOSYNTHETON;cETERON+a;cOYRANISMA NEO;cTHEMATISMOS ESO;dEXO
cTHEMA APLOUN;cTHES KAI APOTHES;cKATAVASMA;cENDOFONON;cYFEN KATO;dANO;cSTAVROS;cKLASMA ANO
cDIPLI ARCHAION;cKRATIMA+a;dALLO;dNEO;cAPODERMA+a;cAPLI;cDIPLI;cTRIPLI;cTETRAPLI;cKORONIS
cLEIMMA ENOS CHRONOU;dDYO CHRONON;dTRION+a;dTESSARON+a;dIMISEOS CHRONOU;cGORGON NEO ANO
dPARESTIGMENON ARISTERA;eDEXIA;cDIGORGON;dPARESTIGMENON ARISTERA KATO;fANO;eDEXIA;cTRIGORGON
cARGON;cIMIDIARGON;cDIARGON;cAGOGI POLI ARGI;dARGOTERI;dARGI;dMETRIA;dMESI;dGORGI;dGORGOTERI
dPOLI GORGI;cMARTYRIA PROTOS ICHOS;dALLI+b;dDEYTEROS+a;dALLI+b;dTRITOS+a;dTRIFONIAS
dTETARTOS ICHOS;eLEGETOS+a;d+b;dPLAGIOS+a;cISAKIA TELOUS ICHIMATOS;cAPOSTROFOI+b
cFANEROSIS TETRAFONIAS;dMONOFONIAS;dDIFONIAS;cMARTYRIA VARYS ICHOS;dPROTOVARYS+a
dPLAGIOS TETARTOS+a;cGORTHMIKON N APLOUN;eDIPLOUN;cENARXIS KAI FTHORA VOU;cIMIFONON;cIMIFTHORON
cFTHORA ARCHAION DEYTEROU ICHOU;dDIATONIKI PA;eNANA;dNAOS ICHOS;dDIATONIKI DI
dSKLIRON DIATONON+a;dDIATONIKI KE;eZO;eNI KATO;fANO;dMALAKON CHROMA DIFONIAS;fMONOFONIAS
cFHTORA SKLIRON CHROMA VASIS;cFTHORA SKLIRON CHROMA SYNAFI;dNENANO;cCHROA ZYGOS;dKLITON;dSPATHI
cFTHORA I YFESIS TETARTIMORION;dENARMONIOS ANTIFONIA;cYFESIS TRITIMORION;cDIESIS+a
dTETARTIMORION;dAPLI DYO DODEKATA;dMONOGRAMMOS TESSERA+a;dDIGRAMMOS EX+a;dTRIGRAMMOS OKTO+a
cYFESIS APLI DYO+a;dMONOGRAMMOS TESSERA+a;dDIGRAMMOS EX+a;dTRIGRAMMOS OKTO+a;cGENIKI DIESIS
dYFESIS;cDIASTOLI APLI MIKRI;eMEGALI;dDIPLI;dTHESEOS;cSIMANSIS+a;eDISIMOU;eTRISIMOU;eTETRASIMOU
dARSEOS;eDISIMOU;eTRISIMOU;eTETRASIMOU;cDIGRAMMA GG;cDIFTOGGOS OU;cSTIGMA;cARKTIKO PA;dVOU;dGA
dDI;dKE;dZO;dNI;cKENTIMATA NEO MESO;cKENTIMA+b;cKENTIMATA NEO KATO;cKENTIMA+b;cKLASMA+a
cGORGON NEO+a"),
   (0x1D100, "MUSICAL SYMBOL SINGLE BARLINE;bDOUBLE+a;bFINAL+a;bREVERSE+b;bDASHED+a;bSHORT+a
bLEFT REPEAT SIGN;bRIGHT+b;bREPEAT DOTS;bDAL SEGNO;bDA CAPO;bSEGNO;bCODA;bREPEATED FIGURE-1
cFIGURE-2;cFIGURE-3;bFERMATA;cBELOW;bBREATH MARK;bCAESURA;bBRACE;bBRACKET;bONE-LINE STAFF
bTWO-LINE+a;bTHREE-LINE+a;bFOUR-LINE+a;bFIVE-LINE+a;bSIX-LINE+a;bSIX-STRING FRETBOARD
bFOUR-STRING+a;bG CLEF;dOTTAVA ALTA;eBASSA;bC CLEF;bF+a;dOTTAVA ALTA;eBASSA;bDRUM CLEF-1;cCLEF-2"),
   (0x1D129, "MUSICAL SYMBOL MULTIPLE MEASURE REST;bDOUBLE SHARP;cFLAT;bFLAT UP;cDOWN
bNATURAL UP;cDOWN;bSHARP UP;cDOWN;bQUARTER TONE SHARP;dFLAT;bCOMMON TIME;bCUT+a;bOTTAVA ALTA
cBASSA;bQUINDICESIMA ALTA;cBASSA;bMULTI REST;bWHOLE+a;bHALF+a;bQUARTER+a;bEIGHTH+a;bSIXTEENTH+a
bTHIRTY-SECOND+a;bSIXTY-FOURTH+a;bONE HUNDRED TWENTY-EIGHTH+a;bX NOTEHEAD;bPLUS+a;bCIRCLE X+a
bSQUARE NOTEHEAD WHITE;dBLACK;bTRIANGLE NOTEHEAD UP WHITE;eBLACK;dLEFT WHITE;eBLACK
dRIGHT WHITE;eBLACK;dDOWN WHITE;eBLACK;dUP RIGHT WHITE;fBLACK;bMOON NOTEHEAD WHITE;dBLACK
bTRIANGLE-ROUND NOTEHEAD DOWN WHITE;eBLACK;bPARENTHESIS NOTEHEAD;bVOID+a;bNOTEHEAD BLACK
bNULL NOTEHEAD;bCLUSTER NOTEHEAD WHITE;dBLACK;bBREVE;bWHOLE NOTE;bHALF+a;bQUARTER+a;bEIGHTH+a
bSIXTEENTH+a;bTHIRTY-SECOND+a;bSIXTY-FOURTH+a;bONE HUNDRED TWENTY-EIGHTH+a;bCOMBINING STEM
cSPRECHGESANG+a;cTREMOLO-1;cTREMOLO-2;cTREMOLO-3;bFINGERED TREMOLO-1;cTREMOLO-2;cTREMOLO-3
bCOMBINING AUGMENTATION DOT;cFLAG-1;cFLAG-2;cFLAG-3;cFLAG-4;cFLAG-5;bBEGIN BEAM;bEND+a
bBEGIN TIE;bEND+a;bBEGIN SLUR;bEND+a;bBEGIN PHRASE;bEND+a;bCOMBINING ACCENT;cSTACCATO;cTENUTO
cSTACCATISSIMO;cMARCATO;cMARCATO-STACCATO;cACCENT-STACCATO;cLOURE;bARPEGGIATO UP;cDOWN
bCOMBINING DOIT;cRIP;cFLIP;cSMEAR;cBEND;cDOUBLE TONGUE;cTRIPLE+a;bRINFORZANDO;bSUBITO;bZ;bPIANO
bMEZZO;bFORTE;bCRESCENDO;bDECRESCENDO;bGRACE NOTE SLASH;dNO+a;bTR;bTURN;bINVERTED+a;bTURN SLASH
cUP;bORNAMENT STROKE-1;cSTROKE-2;cSTROKE-3;cSTROKE-4;cSTROKE-5;cSTROKE-6;cSTROKE-7;cSTROKE-8
cSTROKE-9;cSTROKE-10;cSTROKE-11;bHAUPTSTIMME;bNEBENSTIMME;bEND OF STIMME;bDEGREE SLASH
bCOMBINING DOWN BOW;cUP+a;cHARMONIC;cSNAP PIZZICATO;bPEDAL MARK;cUP+a;bHALF PEDAL+a
bGLISSANDO UP;cDOWN;bWITH FINGERNAILS;bDAMP;cALL;bMAXIMA;bLONGA;bBREVIS;bSEMIBREVIS WHITE
cBLACK;bMINIMA;cBLACK;bSEMIMINIMA WHITE;cBLACK;bFUSA WHITE;cBLACK;bLONGA PERFECTA REST
cIMPERFECTA+a;bBREVIS+a;bSEMIBREVIS+a;bMINIMA+a;bSEMIMINIMA+a
bTEMPUS PERFECTUM CUM PROLATIONE PERFECTA;fIMPERFECTA;fPERFECTA DIMINUTION-1
cIMPERFECTUM CUM PROLATIONE PERFECTA;fIMPERFECTA;gDIMINUTION-1;gDIMINUTION-2;gDIMINUTION-3
bCROIX;bGREGORIAN C CLEF;cF+a;bSQUARE B;bVIRGA;bPODATUS;bCLIVIS;bSCANDICUS;bCLIMACUS;bTORCULUS
bPORRECTUS;cFLEXUS;bSCANDICUS+a;bTORCULUS RESUPINUS;bPES SUBPUNCTIS;bKIEVAN C CLEF
cEND OF PIECE;cFINAL NOTE;cRECITATIVE MARK;cWHOLE NOTE;cHALF+a;cQUARTER NOTE STEM DOWN;fUP
cEIGHTH NOTE STEM DOWN;fUP;cFLAT SIGN;bSORI;bKORON"),
   (0x1D200, "GREEK VOCAL NOTATION SYMBOL-1;cSYMBOL-2;cSYMBOL-3;cSYMBOL-4;cSYMBOL-5;cSYMBOL-6
cSYMBOL-7;cSYMBOL-8;cSYMBOL-9;cSYMBOL-10;cSYMBOL-11;cSYMBOL-12;cSYMBOL-13;cSYMBOL-14;cSYMBOL-15
cSYMBOL-16;cSYMBOL-17;cSYMBOL-18;cSYMBOL-19;cSYMBOL-20;cSYMBOL-21;cSYMBOL-22;cSYMBOL-23
cSYMBOL-24;cSYMBOL-50;cSYMBOL-51;cSYMBOL-52;cSYMBOL-53;cSYMBOL-54
aINSTRUMENTAL NOTATION SYMBOL-1;cSYMBOL-2;cSYMBOL-4;cSYMBOL-5;cSYMBOL-7;cSYMBOL-8;cSYMBOL-11
cSYMBOL-12;cSYMBOL-13;cSYMBOL-14;cSYMBOL-17;cSYMBOL-18;cSYMBOL-19;cSYMBOL-23;cSYMBOL-24
cSYMBOL-25;cSYMBOL-26;cSYMBOL-27;cSYMBOL-29;cSYMBOL-30;cSYMBOL-32;cSYMBOL-36;cSYMBOL-37
cSYMBOL-38;cSYMBOL-39;cSYMBOL-40;cSYMBOL-42;cSYMBOL-43;cSYMBOL-45;cSYMBOL-47;cSYMBOL-48
cSYMBOL-49;cSYMBOL-50;cSYMBOL-51;cSYMBOL-52;cSYMBOL-53;cSYMBOL-54
COMBINING GREEK MUSICAL TRISEME;cTETRASEME;cPENTASEME;GREEK MUSICAL LEIMMA"),
   (0x1D2E0, "MAYAN NUMERAL ZERO;bONE;bTWO;bTHREE;bFOUR;bFIVE;bSIX;bSEVEN;bEIGHT;bNINE;bTEN
bELEVEN;bTWELVE;bTHIRTEEN;bFOURTEEN;bFIFTEEN;bSIXTEEN;bSEVENTEEN;bEIGHTEEN;bNINETEEN"),
   (0x1D300, "MONOGRAM FOR EARTH;DIGRAM FOR HEAVENLY+a;bHUMAN+a;bEARTHLY HEAVEN;cHUMAN;bEARTH
TETRAGRAM FOR CENTRE;bFULL CIRCLE;bMIRED;bBARRIER;bKEEPING SMALL;bCONTRARIETY;bASCENT
bOPPOSITION;bBRANCHING OUT;bDEFECTIVENESS OR DISTORTION;bDIVERGENCE;bYOUTHFULNESS;bINCREASE
bPENETRATION;bREACH;bCONTACT;bHOLDING BACK;bWAITING;bFOLLOWING;bADVANCE;bRELEASE;bRESISTANCE
bEASE;bJOY;bCONTENTION;bENDEAVOUR;bDUTIES;bCHANGE;bDECISIVENESS;bBOLD RESOLUTION;bPACKING
bLEGION;bCLOSENESS;bKINSHIP;bGATHERING;bSTRENGTH;bPURITY;bFULLNESS;bRESIDENCE;bLAW OR MODEL
bRESPONSE;bGOING TO MEET;bENCOUNTERS;bSTOVE;bGREATNESS;bENLARGEMENT;bPATTERN;bRITUAL;bFLIGHT
bVASTNESS OR WASTING;bCONSTANCY;bMEASURE;bETERNITY;bUNITY;bDIMINISHMENT;bCLOSED MOUTH
bGUARDEDNESS;bGATHERING IN;bMASSING;bACCUMULATION;bEMBELLISHMENT;bDOUBT;bWATCH;bSINKING;bINNER
bDEPARTURE;bDARKENING;bDIMMING;bEXHAUSTION;bSEVERANCE;bSTOPPAGE;bHARDNESS;bCOMPLETION;bCLOSURE
bFAILURE;bAGGRAVATION;bCOMPLIANCE;bON THE VERGE;bDIFFICULTIES;bLABOURING;bFOSTERING"),
   (0x1D360, "COUNTING ROD UNIT DIGIT ONE;dTWO;dTHREE;dFOUR;dFIVE;dSIX;dSEVEN;dEIGHT;dNINE
bTENS DIGIT ONE;dTWO;dTHREE;dFOUR;dFIVE;dSIX;dSEVEN;dEIGHT;dNINE;IDEOGRAPHIC TALLY MARK ONE
cTWO;cTHREE;cFOUR;cFIVE;TALLY MARK ONE;bFIVE"),
   (0x1D400, "MATHEMATICAL BOLD CAPITAL A;cB;cC;cD;cE;cF;cG;cH;cI;cJ;cK;cL;cM;cN;cO;cP;cQ;cR;cS
cT;cU;cV;cW;cX;cY;cZ;bSMALL A;cB;cC;cD;cE;cF;cG;cH;cI;cJ;cK;cL;cM;cN;cO;cP;cQ;cR;cS;cT;cU;cV;cW
cX;cY;cZ;aITALIC CAPITAL A;cB;cC;cD;cE;cF;cG;cH;cI;cJ;cK;cL;cM;cN;cO;cP;cQ;cR;cS;cT;cU;cV;cW;cX
cY;cZ;bSMALL A;cB;cC;cD;cE;cF;cG"),
   (0x1D456, "MATHEMATICAL ITALIC SMALL I;cJ;cK;cL;cM;cN;cO;cP;cQ;cR;cS;cT;cU;cV;cW;cX;cY;cZ
aBOLD ITALIC CAPITAL A;dB;dC;dD;dE;dF;dG;dH;dI;dJ;dK;dL;dM;dN;dO;dP;dQ;dR;dS;dT;dU;dV;dW;dX;dY
dZ;cSMALL A;dB;dC;dD;dE;dF;dG;dH;dI;dJ;dK;dL;dM;dN;dO;dP;dQ;dR;dS;dT;dU;dV;dW;dX;dY;dZ
aSCRIPT CAPITAL A"),
   (0x1D49E, "MATHEMATICAL SCRIPT CAPITAL C;cD"),
   (0x1D4A2, "MATHEMATICAL SCRIPT CAPITAL G"),
   (0x1D4A5, "MATHEMATICAL SCRIPT CAPITAL J;cK"),
   (0x1D4A9, "MATHEMATICAL SCRIPT CAPITAL N;cO;cP;cQ"),
   (0x1D4AE, "MATHEMATICAL SCRIPT CAPITAL S;cT;cU;cV;cW;cX;cY;cZ;bSMALL A;cB;cC;cD"),
   (0x1D4BB, "MATHEMATICAL SCRIPT SMALL F"),
   (0x1D4BD, "MATHEMATICAL SCRIPT SMALL H;cI;cJ;cK;cL;cM;cN"),
   (0x1D4C5, "MATHEMATICAL SCRIPT SMALL P;cQ;cR;cS;cT;cU;cV;cW;cX;cY;cZ;aBOLD SCRIPT CAPITAL A
dB;dC;dD;dE;dF;dG;dH;dI;dJ;dK;dL;dM;dN;dO;dP;dQ;dR;dS;dT;dU;dV;dW;dX;dY;dZ;cSMALL A;dB;dC;dD;dE
dF;dG;dH;dI;dJ;dK;dL;dM;dN;dO;dP;dQ;dR;dS;dT;dU;dV;dW;dX;dY;dZ;aFRAKTUR CAPITAL A;cB"),
   (0x1D507, "MATHEMATICAL FRAKTUR CAPITAL D;cE;cF;cG"),
   (0x1D50D, "MATHEMATICAL FRAKTUR CAPITAL J;cK;cL;cM;cN;cO;cP;cQ"),
   (0x1D516, "MATHEMATICAL FRAKTUR CAPITAL S;cT;cU;cV;cW;cX;cY"),
   (0x1D51E, "MATHEMATICAL FRAKTUR SMALL A;cB;cC;cD;cE;cF;cG;cH;cI;cJ;cK;cL;cM;cN;cO;cP;cQ;cR;cS
cT;cU;cV;cW;cX;cY;cZ;aDOUBLE-STRUCK CAPITAL A;cB"),
   (0x1D53B, "MATHEMATICAL DOUBLE-STRUCK CAPITAL D;cE;cF;cG"),
   (0x1D540, "MATHEMATICAL DOUBLE-STRUCK CAPITAL I;cJ;cK;cL;cM"),
   (0x1D546, "MATHEMATICAL DOUBLE-STRUCK CAPITAL O"),
   (0x1D54A, "MATHEMATICAL DOUBLE-STRUCK CAPITAL S;cT;cU;cV;cW;cX;cY"),
   (0x1D552, "MATHEMATICAL DOUBLE-STRUCK SMALL A;cB;cC;cD;cE;cF;cG;cH;cI;cJ;cK;cL;cM;cN;cO;cP;cQ
cR;cS;cT;cU;cV;cW;cX;cY;cZ;aBOLD FRAKTUR CAPITAL A;dB;dC;dD;dE;dF;dG;dH;dI;dJ;dK;dL;dM;dN;dO;dP
dQ;dR;dS;dT;dU;dV;dW;dX;dY;dZ;cSMALL A;dB;dC;dD;dE;dF;dG;dH;dI;dJ;dK;dL;dM;dN;dO;dP;dQ;dR;dS;dT
dU;dV;dW;dX;dY;dZ;aSANS-SERIF CAPITAL A;cB;cC;cD;cE;cF;cG;cH;cI;cJ;cK;cL;cM;cN;cO;cP;cQ;cR;cS
cT;cU;cV;cW;cX;cY;cZ;bSMALL A;cB;cC;cD;cE;cF;cG;cH;cI;cJ;cK;cL;cM;cN;cO;cP;cQ;cR;cS;cT;cU;cV;cW
cX;cY;cZ;bBOLD CAPITAL A;dB;dC;dD;dE;dF;dG;dH;dI;dJ;dK;dL;dM;dN;dO;dP;dQ;dR;dS;dT;dU;dV;dW;dX
dY;dZ;cSMALL A;dB;dC;dD;dE;dF;dG;dH;dI;dJ;dK;dL;dM;dN;dO;dP;dQ;dR;dS;dT;dU;dV;dW;dX;dY;dZ
bITALIC CAPITAL A;dB;dC;dD;dE;dF;dG;dH;dI;dJ;dK;dL;dM;dN;dO;dP;dQ;dR;dS;dT;dU;dV;dW;dX;dY;dZ
cSMALL A;dB;dC;dD;dE;dF;dG;dH;dI;dJ;dK;dL;dM;dN;dO;dP;dQ;dR;dS;dT;dU;dV;dW;dX;dY;dZ
bBOLD ITALIC CAPITAL A;eB;eC;eD;eE;eF;eG;eH;eI;eJ;eK;eL;eM;eN;eO;eP;eQ;eR;eS;eT;eU;eV;eW;eX;eY
eZ;dSMALL A;eB;eC;eD;eE;eF;eG;eH;eI;eJ;eK;eL;eM;eN;eO;eP;eQ;eR;eS;eT;eU;eV;eW;eX;eY;eZ
aMONOSPACE CAPITAL A;cB;cC;cD;cE;cF;cG;cH;cI;cJ;cK;cL;cM;cN;cO;cP;cQ;cR;cS;cT;cU;cV;cW;cX;cY;cZ
bSMALL A;cB;cC;cD;cE;cF;cG;cH;cI;cJ;cK;cL;cM;cN;cO;cP;cQ;cR;cS;cT;cU;cV;cW;cX;cY;cZ
aITALIC SMALL DOTLESS I;dJ"),
   (0x1D6A8, "MATHEMATICAL BOLD CAPITAL ALPHA;cBETA;cGAMMA;cDELTA;cEPSILON;cZETA;cETA;cTHETA
cIOTA;cKAPPA;cLAMDA;cMU;cNU;cXI;cOMICRON;cPI;cRHO;cTHETA SYMBOL;cSIGMA;cTAU;cUPSILON;cPHI;cCHI
cPSI;cOMEGA;bNABLA;bSMALL ALPHA;cBETA;cGAMMA;cDELTA;cEPSILON;cZETA;cETA;cTHETA;cIOTA;cKAPPA
cLAMDA;cMU;cNU;cXI;cOMICRON;cPI;cRHO;cFINAL SIGMA;c+a;cTAU;cUPSILON;cPHI;cCHI;cPSI;cOMEGA
bPARTIAL DIFFERENTIAL;bEPSILON SYMBOL;bTHETA+a;bKAPPA+a;bPHI+a;bRHO+a;bPI+a
aITALIC CAPITAL ALPHA;cBETA;cGAMMA;cDELTA;cEPSILON;cZETA;cETA;cTHETA;cIOTA;cKAPPA;cLAMDA;cMU
cNU;cXI;cOMICRON;cPI;cRHO;cTHETA SYMBOL;cSIGMA;cTAU;cUPSILON;cPHI;cCHI;cPSI;cOMEGA;bNABLA
bSMALL ALPHA;cBETA;cGAMMA;cDELTA;cEPSILON;cZETA;cETA;cTHETA;cIOTA;cKAPPA;cLAMDA;cMU;cNU;cXI
cOMICRON;cPI;cRHO;cFINAL SIGMA;c+a;cTAU;cUPSILON;cPHI;cCHI;cPSI;cOMEGA;bPARTIAL DIFFERENTIAL
bEPSILON SYMBOL;bTHETA+a;bKAPPA+a;bPHI+a;bRHO+a;bPI+a;aBOLD ITALIC CAPITAL ALPHA;dBETA;dGAMMA
dDELTA;dEPSILON;dZETA;dETA;dTHETA;dIOTA;dKAPPA;dLAMDA;dMU;dNU;dXI;dOMICRON;dPI;dRHO
dTHETA SYMBOL;dSIGMA;dTAU;dUPSILON;dPHI;dCHI;dPSI;dOMEGA;cNABLA;cSMALL ALPHA;dBETA;dGAMMA
dDELTA;dEPSILON;dZETA;dETA;dTHETA;dIOTA;dKAPPA;dLAMDA;dMU;dNU;dXI;dOMICRON;dPI;dRHO
dFINAL SIGMA;d+a;dTAU;dUPSILON;dPHI;dCHI;dPSI;dOMEGA;cPARTIAL DIFFERENTIAL;cEPSILON SYMBOL
cTHETA+a;cKAPPA+a;cPHI+a;cRHO+a;cPI+a;aSANS-SERIF BOLD CAPITAL ALPHA;dBETA;dGAMMA;dDELTA
dEPSILON;dZETA;dETA;dTHETA;dIOTA;dKAPPA;dLAMDA;dMU;dNU;dXI;dOMICRON;dPI;dRHO;dTHETA SYMBOL
dSIGMA;dTAU;dUPSILON;dPHI;dCHI;dPSI;dOMEGA;cNABLA;cSMALL ALPHA;dBETA;dGAMMA;dDELTA;dEPSILON
dZETA;dETA;dTHETA;dIOTA;dKAPPA;dLAMDA;dMU;dNU;dXI;dOMICRON;dPI;dRHO;dFINAL SIGMA;d+a;dTAU
dUPSILON;dPHI;dCHI;dPSI;dOMEGA;cPARTIAL DIFFERENTIAL;cEPSILON SYMBOL;cTHETA+a;cKAPPA+a;cPHI+a
cRHO+a;cPI+a;cITALIC CAPITAL ALPHA;eBETA;eGAMMA;eDELTA;eEPSILON;eZETA;eETA;eTHETA;eIOTA;eKAPPA
eLAMDA;eMU;eNU;eXI;eOMICRON;ePI;eRHO;eTHETA SYMBOL;eSIGMA;eTAU;eUPSILON;ePHI;eCHI;ePSI;eOMEGA
dNABLA;dSMALL ALPHA;eBETA;eGAMMA;eDELTA;eEPSILON;eZETA;eETA;eTHETA;eIOTA;eKAPPA;eLAMDA;eMU;eNU
eXI;eOMICRON;ePI;eRHO;eFINAL SIGMA;e+a;eTAU;eUPSILON;ePHI;eCHI;ePSI;eOMEGA
dPARTIAL DIFFERENTIAL;dEPSILON SYMBOL;dTHETA+a;dKAPPA+a;dPHI+a;dRHO+a;dPI+a
aBOLD CAPITAL DIGAMMA;bSMALL+a"),
   (0x1D7CE, "MATHEMATICAL BOLD DIGIT ZERO;cONE;cTWO;cTHREE;cFOUR;cFIVE;cSIX;cSEVEN;cEIGHT;cNINE
aDOUBLE-STRUCK DIGIT ZERO;cONE;cTWO;cTHREE;cFOUR;cFIVE;cSIX;cSEVEN;cEIGHT;cNINE
aSANS-SERIF DIGIT ZERO;cONE;cTWO;cTHREE;cFOUR;cFIVE;cSIX;cSEVEN;cEIGHT;cNINE;bBOLD DIGIT ZERO
dONE;dTWO;dTHREE;dFOUR;dFIVE;dSIX;dSEVEN;dEIGHT;dNINE;aMONOSPACE DIGIT ZERO;cONE;cTWO;cTHREE
cFOUR;cFIVE;cSIX;cSEVEN;cEIGHT;cNINE;SIGNWRITING HAND-FIST INDEX;aHAND-CIRCLE+a;aHAND-CUP+a
aHAND-OVAL+a;aHAND-HINGE+a;aHAND-ANGLE+a;aHAND-FIST INDEX BENT;aHAND-CIRCLE+b
aHAND-FIST THUMB UNDER+b;bINDEX RAISED KNUCKLE;cCUPPED;cHINGED;dLOW;aHAND-CIRCLE INDEX HINGE
aHAND-FIST INDEX MIDDLE;aHAND-CIRCLE+b;aHAND-FIST INDEX MIDDLE BENT;dRAISED KNUCKLES;dHINGED
cUP+b;cHINGED MIDDLE UP;cMIDDLE CONJOINED;eINDEX BENT;eMIDDLE+a;eCUPPED;eHINGED;dCROSSED
aHAND-CIRCLE+c;aHAND-FIST MIDDLE BENT OVER INDEX;bINDEX BENT OVER MIDDLE;cMIDDLE THUMB
aHAND-CIRCLE+c;aHAND-FIST INDEX MIDDLE STRAIGHT THUMB BENT;dBENT THUMB STRAIGHT;dTHUMB BENT
dHINGED SPREAD THUMB SIDE;cUP MIDDLE HINGED+b;gCONJOINED;cHINGED MIDDLE UP THUMB SIDE
cMIDDLE UP SPREAD THUMB FORWARD;dTHUMB CUPPED;eCIRCLED;eHOOKED;eHINGED
bTHUMB BETWEEN INDEX MIDDLE STRAIGHT;bINDEX MIDDLE CONJOINED THUMB SIDE;gCONJOINED;gBENT
bMIDDLE THUMB HOOKED INDEX UP;bINDEX THUMB HOOKED MIDDLE+a;cMIDDLE CONJOINED HINGED THUMB SIDE
dCROSSED+b;dCONJOINED THUMB FORWARD;eCUPPED+b;bMIDDLE THUMB CUPPED INDEX UP
bINDEX THUMB CUPPED MIDDLE+a;bMIDDLE THUMB CIRCLED INDEX+a;fHINGED
bINDEX THUMB ANGLED OUT MIDDLE UP;eIN+b;dCIRCLED+b;cMIDDLE THUMB CONJOINED HINGED;eANGLED OUT;f
bMIDDLE THUMB ANGLED OUT INDEX UP;gCROSSED;eINDEX UP;bINDEX THUMB HOOKED MIDDLE HINGED
aHAND-FLAT FOUR FINGERS;dBENT;dHINGED;dCONJOINED;eSPLIT;aHAND-CLAW FOUR FINGERS CONJOINED
aHAND-FIST FOUR FINGERS CONJOINED BENT;aHAND-HINGE FOUR FINGERS CONJOINED
aHAND-FLAT FIVE FINGERS SPREAD;bHEEL+c;bFIVE FINGERS SPREAD FOUR BENT;bHEEL+e
bFIVE FINGERS SPREAD+a;bHEEL+d;bFIVE FINGERS SPREAD THUMB FORWARD;aHAND-CUP FIVE FINGERS SPREAD
eOPEN;aHAND-HINGE+d;aHAND-OVAL FIVE FINGERS SPREAD;aHAND-FLAT FIVE FINGERS SPREAD HINGED
fTHUMB SIDE;fNO THUMB;b;bBETWEEN PALM FACINGS;bHEEL;bTHUMB SIDE;bHEEL+b;bTHUMB BENT;cFORWARD
bSPLIT INDEX THUMB SIDE;cCENTRE;dTHUMB SIDE;fBENT;cLITTLE;aHAND-CLAW;bTHUMB SIDE;bNO THUMB
bTHUMB FORWARD;aHAND-HOOK CURLICUE;b;aHAND-CUP OPEN;b;bOPEN THUMB SIDE;b+b;bOPEN NO THUMB;b+b
bOPEN THUMB FORWARD;b+b;aHAND-CURLICUE OPEN;b;aHAND-CIRCLE;aHAND-OVAL;bTHUMB SIDE;bNO THUMB
bTHUMB FORWARD;aHAND-HINGE OPEN;cTHUMB FORWARD;b;bSMALL;bOPEN THUMB SIDE;b+b;bOPEN NO THUMB;b+b
bTHUMB SIDE TOUCHING INDEX;cBETWEEN MIDDLE RING;aHAND-ANGLE;aHAND-FIST INDEX MIDDLE RING
aHAND-CIRCLE+c;aHAND-HINGE+c;aHAND-ANGLE+c;aHAND-HINGE LITTLE;aHAND-FIST INDEX MIDDLE RING BENT
eCONJOINED;aHAND-HINGE+d;aHAND-FIST LITTLE DOWN;dRIPPLE STRAIGHT;eCURVED;dOTHERS CIRCLED;cUP
bTHUMB UNDER+b;aHAND-CIRCLE+b;aHAND-OVAL+b;aHAND-ANGLE+b;aHAND-FIST LITTLE RAISED KNUCKLE;cBENT
cTOUCHES THUMB;c+a;aHAND-HINGE+b;aHAND-FIST LITTLE INDEX+a;aHAND-HINGE+c
aHAND-ANGLE LITTLE INDEX THUMB INDEX THUMB OUT;g;aHAND-FIST LITTLE INDEX;aHAND-CIRCLE+b
aHAND-HINGE+b;aHAND-ANGLE+b;aHAND-FIST INDEX MIDDLE LITTLE;aHAND-CIRCLE+c;aHAND-HINGE+c;bRING
aHAND-ANGLE INDEX MIDDLE LITTLE;aHAND-FIST INDEX MIDDLE CROSS+a;aHAND-CIRCLE+d
aHAND-FIST RING DOWN;aHAND-HINGE RING DOWN INDEX THUMB HOOK MIDDLE
aHAND-ANGLE RING DOWN MIDDLE THUMB INDEX CROSS;aHAND-FIST RING UP;cRAISED KNUCKLE;cLITTLE
aHAND-CIRCLE+b;aHAND-OVAL+b;aHAND-ANGLE+b;aHAND-FIST RING MIDDLE;dCONJOINED;dRAISED KNUCKLES
cINDEX;cTHUMB;aHAND-HOOK+b;aHAND-FIST INDEX RING LITTLE;aHAND-CIRCLE+c
aHAND-CURLICUE INDEX RING LITTLE ON;aHAND-HOOK INDEX RING LITTLE OUT;eIN;eUNDER
aHAND-CUP INDEX RING LITTLE;aHAND-HINGE+c;aHAND-ANGLE INDEX RING LITTLE OUT;e
aHAND-FIST MIDDLE DOWN;aHAND-HINGE MIDDLE;aHAND-FIST MIDDLE UP;aHAND-CIRCLE+b
aHAND-FIST MIDDLE RAISED KNUCKLE;cUP THUMB SIDE;aHAND-HOOK MIDDLE THUMB
aHAND-FIST MIDDLE THUMB LITTLE;c+a;cRING+a;aHAND-CIRCLE+c;aHAND-CURLICUE MIDDLE RING LITTLE ON
aHAND-CUP MIDDLE RING LITTLE;aHAND-HINGE+c;aHAND-ANGLE MIDDLE RING LITTLE OUT;eIN;e
aHAND-CIRCLE MIDDLE RING LITTLE BENT;aHAND-CLAW MIDDLE RING LITTLE CONJOINED;fSIDE
aHAND-HOOK MIDDLE RING LITTLE CONJOINED OUT;fIN;f;aHAND-HINGE INDEX HINGED
aHAND-FIST INDEX THUMB SIDE;aHAND-HINGE+c;aHAND-FIST INDEX THUMB SIDE THUMB DIAGONAL;fCONJOINED
fBENT;eINDEX+a;eBOTH+a;eINDEX HINGE;dFORWARD INDEX STRAIGHT;fBENT;dHOOK;dCURLICUE
dCURVE THUMB INSIDE;aHAND-CLAW+e;aHAND-FIST INDEX THUMB CURVE THUMB UNDER;dCIRCLE
aHAND-CUP INDEX THUMB;dOPEN;aHAND-HINGE+c;dLARGE;d;dSMALL;aHAND-ANGLE INDEX THUMB OUT;dIN;d
aHAND-FIST+a;cHEEL;cSIDE DIAGONAL;dCONJOINED;dBENT;cFORWARD;cBETWEEN INDEX MIDDLE;dMIDDLE RING
dRING LITTLE;cUNDER TWO FINGERS;cOVER+b;cUNDER THREE+a;dFOUR+a;cOVER FOUR RAISED KNUCKLES;b
bHEEL;aTOUCH SINGLE;bMULTIPLE;bBETWEEN;aGRASP SINGLE;bMULTIPLE;bBETWEEN;aSTRIKE SINGLE
bMULTIPLE;bBETWEEN;aBRUSH SINGLE;bMULTIPLE;bBETWEEN;aRUB SINGLE;bMULTIPLE;bBETWEEN
aSURFACE SYMBOLS;bBETWEEN;aSQUEEZE LARGE SINGLE;bSMALL+a;bLARGE MULTIPLE;bSMALL+a;bSEQUENTIAL
aFLICK LARGE SINGLE;bSMALL+a;bLARGE MULTIPLE;bSMALL+a;bSEQUENTIAL;aSQUEEZE FLICK ALTERNATING
aMOVEMENT-HINGE UP DOWN LARGE;dSMALL;cSEQUENTIAL;bDOWN+a;bUP DOWN ALTERNATING LARGE;eSMALL
bSIDE TO SIDE SCISSORS;aMOVEMENT-WALLPLANE FINGER CONTACT;aMOVEMENT-FLOORPLANE+b
aMOVEMENT-WALLPLANE SINGLE STRAIGHT SMALL;dMEDIUM;dLARGE;dLARGEST;cWRIST FLEX;bDOUBLE STRAIGHT
cWRIST FLEX;cALTERNATING;dWRIST FLEX;bCROSS;bTRIPLE STRAIGHT MOVEMENT;cWRIST FLEX;cALTERNATING
dWRIST FLEX;bBEND SMALL;cMEDIUM;cLARGE;bCORNER SMALL;cMEDIUM;cLARGE;cROTATION;bCHECK SMALL
cMEDIUM;cLARGE;bBOX SMALL;cMEDIUM;cLARGE;bZIGZAG SMALL;cMEDIUM;cLARGE;bPEAKS SMALL;cMEDIUM
cLARGE;aTRAVEL-WALLPLANE ROTATION-WALLPLANE SINGLE;cDOUBLE;cALTERNATING
bROTATION-FLOORPLANE SINGLE;cDOUBLE;cALTERNATING;bSHAKING;bARM SPIRAL SINGLE;dDOUBLE;dTRIPLE
aMOVEMENT-DIAGONAL AWAY SMALL;cMEDIUM;cLARGE;cLARGEST;bTOWARDS SMALL;cMEDIUM;cLARGE;cLARGEST
bBETWEEN AWAY SMALL;dMEDIUM;dLARGE;dLARGEST;cTOWARDS SMALL;dMEDIUM;dLARGE;dLARGEST
aMOVEMENT-FLOORPLANE SINGLE STRAIGHT SMALL;dMEDIUM;dLARGE;dLARGEST;cWRIST FLEX;bDOUBLE STRAIGHT
cWRIST FLEX;cALTERNATING;dWRIST FLEX;bCROSS;bTRIPLE STRAIGHT MOVEMENT;cWRIST FLEX
cALTERNATING MOVEMENT;dWRIST FLEX;bBEND;bCORNER SMALL;cMEDIUM;cLARGE;bCHECK;bBOX SMALL;cMEDIUM
cLARGE;bZIGZAG SMALL;cMEDIUM;cLARGE;bPEAKS SMALL;cMEDIUM;cLARGE
aTRAVEL-FLOORPLANE ROTATION-FLOORPLANE SINGLE;cDOUBLE;cALTERNATING;bROTATION-WALLPLANE SINGLE
cDOUBLE;cALTERNATING;bSHAKING;aMOVEMENT-WALLPLANE CURVE QUARTER SMALL;dMEDIUM;dLARGE;dLARGEST
cHALF-CIRCLE SMALL;dMEDIUM;dLARGE;dLARGEST;cTHREE-QUARTER CIRCLE SMALL;eMEDIUM;bHUMP SMALL
cMEDIUM;cLARGE;bLOOP SMALL;cMEDIUM;cLARGE;cSMALL DOUBLE;bWAVE CURVE DOUBLE SMALL;eMEDIUM;eLARGE
dTRIPLE SMALL;eMEDIUM;eLARGE;bCURVE THEN STRAIGHT;bCURVED CROSS SMALL;dMEDIUM
aROTATION-WALLPLANE SINGLE;bDOUBLE;bALTERNATE;aMOVEMENT-WALLPLANE SHAKING
bCURVE HITTING FRONT WALL;bHUMP+c;bLOOP+c;bWAVE+c;aROTATION-WALLPLANE SINGLE+c;bDOUBLE+c
bALTERNATING+c;aMOVEMENT-WALLPLANE CURVE HITTING CHEST;bHUMP+b;bLOOP+b;bWAVE+b
aROTATION-WALLPLANE SINGLE+b;bDOUBLE+b;bALTERNATING+b
aMOVEMENT-WALLPLANE WAVE DIAGONAL PATH SMALL;eMEDIUM;eLARGE
aMOVEMENT-FLOORPLANE CURVE HITTING CEILING SMALL;eLARGE;bHUMP HITTING CEILING SMALL DOUBLE
eLARGE+a;eSMALL TRIPLE;eLARGE+a;bLOOP HITTING CEILING SMALL SINGLE;eLARGE+a;eSMALL DOUBLE
eLARGE+a;bWAVE HITTING CEILING SMALL;eLARGE;aROTATION-FLOORPLANE SINGLE HITTING CEILING
bDOUBLE+b;bALTERNATING+b;aMOVEMENT-FLOORPLANE CURVE HITTING FLOOR SMALL;eLARGE
bHUMP HITTING FLOOR SMALL DOUBLE;eLARGE+a;eTRIPLE SMALL TRIPLE;fLARGE+a
bLOOP HITTING FLOOR SMALL SINGLE;eLARGE+a;eSMALL DOUBLE;eLARGE+a;bWAVE HITTING FLOOR SMALL
eLARGE;aROTATION-FLOORPLANE SINGLE HITTING FLOOR;bDOUBLE+b;bALTERNATING+b
aMOVEMENT-FLOORPLANE CURVE SMALL;cMEDIUM;cLARGE;cLARGEST;cCOMBINED;bHUMP SMALL;bLOOP+a
bWAVE SNAKE;cSMALL;cLARGE;aROTATION-FLOORPLANE SINGLE;bDOUBLE;bALTERNATING
aMOVEMENT-FLOORPLANE SHAKING PARALLEL;aMOVEMENT-WALLPLANE ARM CIRCLE SMALL SINGLE;dMEDIUM+a
dSMALL DOUBLE;dMEDIUM+a;aMOVEMENT-FLOORPLANE ARM CIRCLE HITTING WALL SMALL SINGLE;fMEDIUM+a
fLARGE+a;fSMALL DOUBLE;fMEDIUM+a;fLARGE+a;aMOVEMENT-WALLPLANE WRIST CIRCLE FRONT SINGLE;eDOUBLE
aMOVEMENT-FLOORPLANE WRIST CIRCLE HITTING WALL SINGLE;fDOUBLE
aMOVEMENT-WALLPLANE FINGER CIRCLES SINGLE;dDOUBLE
aMOVEMENT-FLOORPLANE FINGER CIRCLES HITTING WALL SINGLE;fDOUBLE;aDYNAMIC ARROWHEAD SMALL;cLARGE
bFAST;bSLOW;bTENSE;bRELAXED;bSIMULTANEOUS;cALTERNATING;bEVERY OTHER TIME;bGRADUAL;aHEAD;bRIM
bMOVEMENT-WALLPLANE STRAIGHT;cTILT;bMOVEMENT-FLOORPLANE STRAIGHT;bMOVEMENT-WALLPLANE CURVE
bMOVEMENT-FLOORPLANE+a;bMOVEMENT CIRCLE;aFACE DIRECTION POSITION NOSE FORWARD TILTING
eUP OR DOWN;hTILTING;aEYEBROWS STRAIGHT UP;cNEUTRAL;cDOWN;aDREAMY EYEBROWS NEUTRAL+a
cDOWN NEUTRAL;cUP+a;cNEUTRAL UP;aFOREHEAD NEUTRAL;bCONTACT;bWRINKLED;aEYES OPEN;bSQUEEZED
bCLOSED;aEYE BLINK SINGLE;cMULTIPLE;aEYES HALF OPEN;bWIDE+a;bHALF CLOSED;bWIDENING MOVEMENT
aEYE WINK;aEYELASHES UP;bDOWN;bFLUTTERING;aEYEGAZE-WALLPLANE STRAIGHT;cDOUBLE;cALTERNATING
aEYEGAZE-FLOORPLANE STRAIGHT;cDOUBLE;cALTERNATING;aEYEGAZE-WALLPLANE CURVED
aEYEGAZE-FLOORPLANE+a;aEYEGAZE-WALLPLANE CIRCLING;aCHEEKS PUFFED;bNEUTRAL;bSUCKED
aTENSE CHEEKS HIGH;cMIDDLE;cLOW;aEARS;aNOSE NEUTRAL;bCONTACT;bWRINKLES;bWIGGLES
aAIR BLOWING OUT;bSUCKING IN;bBLOW SMALL ROTATIONS;bSUCK+b;aBREATH INHALE;bEXHALE
aMOUTH CLOSED NEUTRAL;cFORWARD;cCONTACT;bSMILE;cWRINKLED;cOPEN;bFROWN;cWRINKLED;cOPEN
bOPEN CIRCLE;cFORWARD;cWRINKLED;cOVAL;dWRINKLED;dYAWN;cRECTANGLE;dWRINKLED;dYAWN;bKISS;cFORWARD
cWRINKLED;bTENSE;cFORWARD;cSUCKED;aLIPS PRESSED TOGETHER;aLIP LOWER OVER UPPER
bUPPER OVER LOWER;aMOUTH CORNERS;bWRINKLES SINGLE;cDOUBLE;aTONGUE STICKING OUT FAR
bLICKING LIPS;bTIP BETWEEN+a;cTOUCHING INSIDE MOUTH;bINSIDE MOUTH RELAXED;bMOVES AGAINST CHEEK
bCENTRE STICKING OUT;cINSIDE MOUTH;aTEETH;bMOVEMENT;bON TONGUE;dMOVEMENT;cLIPS;dMOVEMENT
bBITE LIPS;aMOVEMENT-WALLPLANE JAW;aMOVEMENT-FLOORPLANE+a;aNECK;aHAIR;aEXCITEMENT
aSHOULDER HIP SPINE;cPOSITIONS;aWALLPLANE SHOULDER HIP MOVE;aFLOORPLANE+c
aSHOULDER TILTING FROM WAIST;aTORSO-WALLPLANE STRAIGHT STRETCH;bCURVED BEND
aTORSO-FLOORPLANE TWISTING;aUPPER BODY TILTING FROM HIP JOINTS;aLIMB COMBINATION;bLENGTH-1
bLENGTH-2;bLENGTH-3;bLENGTH-4;bLENGTH-5;bLENGTH-6;bLENGTH-7;aFINGER;aLOCATION-WALLPLANE SPACE
aLOCATION-FLOORPLANE+a;aLOCATION HEIGHT;bWIDTH;bDEPTH;bHEAD NECK;bTORSO;bLIMBS DIGITS;aCOMMA
aFULL STOP;aSEMICOLON;aCOLON;aPARENTHESIS"),
   (0x1DA9B, "SIGNWRITING FILL MODIFIER-2;bMODIFIER-3;bMODIFIER-4;bMODIFIER-5;bMODIFIER-6"),
   (0x1DAA1, "SIGNWRITING ROTATION MODIFIER-2;bMODIFIER-3;bMODIFIER-4;bMODIFIER-5;bMODIFIER-6
bMODIFIER-7;bMODIFIER-8;bMODIFIER-9;bMODIFIER-10;bMODIFIER-11;bMODIFIER-12;bMODIFIER-13
bMODIFIER-14;bMODIFIER-15;bMODIFIER-16"),
   (0x1DF00, "LATIN SMALL LETTER FENG DIGRAPH WITH TRILL;cREVERSED SCRIPT G
aLETTER SMALL CAPITAL TURNED G;aSMALL LETTER REVERSED K;aLETTER SMALL CAPITAL L WITH BELT
aSMALL LETTER LEZH WITH RETROFLEX HOOK;cTURNED Y WITH BELT;cREVERSED ENG
cTURNED R WITH LONG LEG AND RETROFLEX HOOK;cT WITH HOOK+c;aLETTER RETROFLEX CLICK WITH+b
aSMALL LETTER ESH WITH DOUBLE BAR;gAND CURL;cTURNED T WITH+a;aLETTER INVERTED GLOTTAL STOP+b
bSTRETCHED C+b;bSMALL CAPITAL TURNED K;aSMALL LETTER L WITH FISHHOOK
cDEZH DIGRAPH WITH PALATAL HOOK;cL WITH BELT AND+b;cENG WITH+b;cTURNED R+c
cR WITH FISHHOOK AND+b;cTESH DIGRAPH WITH+b;cEZH+c;cDEZH DIGRAPH WITH RETROFLEX+a
cI WITH STROKE AND+b;cO WITH+b;cTESH DIGRAPH+c;cC+c;cS WITH CURL"),
   (0x1E000, "COMBINING GLAGOLITIC LETTER AZU;cBUKY;cVEDE;cGLAGOLI;cDOBRO;cYESTU;cZHIVETE"),
   (0x1E008, "COMBINING GLAGOLITIC LETTER ZEMLJA;cIZHE;cINITIAL+a;cI;cDJERVI;cKAKO;cLJUDIJE
cMYSLITE;cNASHI;cONU;cPOKOJI;cRITSI;cSLOVO;cTVRIDO;cUKU;cFRITU;cHERU"),
   (0x1E01B, "COMBINING GLAGOLITIC LETTER SHTA;cTSI;cCHRIVI;cSHA;cYERU;cYERI;cYATI"),
   (0x1E023, "COMBINING GLAGOLITIC LETTER YU;cSMALL YUS"),
   (0x1E026, "COMBINING GLAGOLITIC LETTER YO;cIOTATED SMALL YUS;cBIG+a;cIOTATED+b;cFITA"),
   (0x1E100, "NYIAKENG PUACHUE HMONG LETTER MA;dTSA;dNTA;dTA;dHA;dNA;dXA;dNKA;dCA;dLA;dSA;dZA
dNCA;dNTSA;dKA;dDA;dNYA;dNRA;dVA;dNTXA;dTXA;dFA;dRA;dQA;dYA;dNQA;dPA;dXYA;dNPA;dDLA;dNPLA;dHAH
dMLA;dPLA;dGA;dRRA;dA;dAA;dI;dU;dO;dOO;dE;dEE;dW"),
   (0x1E130, "NYIAKENG PUACHUE HMONG TONE-B;cTONE-M;cTONE-J;cTONE-V;cTONE-S;cTONE-G;cTONE-D
cSIGN FOR PERSON;eTHING;eLOCATION;eANIMAL;eINVERTEBRATE;dXW XW;cSYLLABLE LENGTHENER"),
   (0x1E140, "NYIAKENG PUACHUE HMONG DIGIT ZERO;dONE;dTWO;dTHREE;dFOUR;dFIVE;dSIX;dSEVEN;dEIGHT
dNINE"),
   (0x1E14E, "NYIAKENG PUACHUE HMONG LOGOGRAM NYAJ;cCIRCLED CA"),
   (0x1E290, "TOTO LETTER PA;bBA;bTA;bDA;bKA;bGA;bMA;bNA;bNGA;bSA;bCHA;bYA;bWA;bJA;bHA;bRA;bLA
bI;bBREATHY I;bIU;bBREATHY+a;bU;bE;bBREATHY E;bEO;bBREATHY+a;bO;bAE;bBREATHY+a;bA
aSIGN RISING TONE"),
   (0x1E2C0, "WANCHO LETTER AA;bA;bBA;bCA;bDA;bGA;bYA;bPHA;bLA;bNA;bPA;bTA;bTHA;bFA;bSA;bSHA;bJA
bZA;bWA;bVA;bKA;bO;bAU;bRA;bMA;bKHA;bHA;bE;bI;bNGA;bU;bLLHA;bTSA;bTRA;bONG;bAANG;bANG;bING;bON
bEN;bAAN;bNYA;bUEN;bYIH;aTONE TUP;bTUPNI;bKOI;bKOINI;aDIGIT ZERO;bONE;bTWO;bTHREE;bFOUR;bFIVE
bSIX;bSEVEN;bEIGHT;bNINE"),
   (0x1E2FF, "WANCHO NGUN SIGN"),
   (0x1E7E0, "ETHIOPIC SYLLABLE HHYA;bHHYU;bHHYI;bHHYAA;bHHYEE;bHHYE;bHHYO"),
   (0x1E7E8, "ETHIOPIC SYLLABLE GURAGE HHWA;bHHWI;bHHWEE;bHHWE"),
   (0x1E7ED, "ETHIOPIC SYLLABLE GURAGE MWI;cMWEE"),
   (0x1E7F0, "ETHIOPIC SYLLABLE GURAGE QWI;cQWEE;cQWE;cBWI;cBWEE;cKWI;cKWEE;cKWE;cGWI;cGWEE;cGWE
cFWI;cFWEE;cPWI;cPWEE"),
   (0x1E800, "MENDE KIKAKUI SYLLABLE M001 KI;cM002 KA;cM003 KU;cM065 KEE;cM095 KE;cM076 KOO
cM048 KO;cM179 KUA;cM004 WI;cM005 WA;cM006 WU;cM126 WEE;cM118 WE;cM114 WOO;cM045 WO;cM194 WUI
cM143 WEI;cM061 WVI;cM049 WVA;cM139 WVE;cM007 MIN;cM008 MAN;cM009 MUN;cM059 MEN;cM094 MON
cM154 MUAN;cM189 MUEN;cM010 BI;cM011 BA;cM012 BU;cM150 BEE;cM097 BE;cM103 BOO;cM138 BO;cM013 I
cM014 A;cM015 U;cM163 EE;cM100 E;cM165 OO;cM147 O;cM137 EI;cM131 IN;cM135+a;cM195 AN;cM178 EN
cM019 SI;cM020 SA;cM021 SU;cM162 SEE;cM116 SE;cM136 SOO;cM079 SO;cM196 SIA;cM025 LI;cM026 LA
cM027 LU;cM084 LEE;cM073 LE;cM054 LOO;cM153 LO;cM110 LONG LE;cM016 DI;cM017 DA;cM018 DU
cM089 DEE;cM180 DOO;cM181 DO;cM022 TI;cM023 TA;cM024 TU;cM091 TEE;cM055 TE;cM104 TOO;cM069 TO
cM028 JI;cM029 JA;cM030 JU;cM157 JEE;cM113 JE;cM160 JOO;cM063 JO;cM175 LONG+a;cM031 YI;cM032 YA
cM033 YU;cM109 YEE;cM080 YE;cM141 YOO;cM121 YO;cM034 FI;cM035 FA;cM036 FU;cM078 FEE;cM075 FE
cM133 FOO;cM088 FO;cM197 FUA;cM101 FAN;cM037 NIN;cM038 NAN;cM039 NUN;cM117 NEN;cM169 NON
cM176 HI;cM041 HA;cM186 HU;cM040 HEE;cM096 HE;cM042 HOO;cM140 HO;cM083 HEEI;cM128 HOOU
cM053 HIN;cM130 HAN;cM087 HUN;cM052 HEN;cM193 HON;cM046 HUAN;cM090 NGGI;cM043 NGGA;cM082 NGGU
cM115 NGGEE;cM146 NGGE;cM156 NGGOO;cM120 NGGO;cM159 NGGAA;cM127 NGGUA;cM086 LONG NGGE
cM106 LONG NGGOO;cM183 LONG NGGO;cM155 GI;cM111 GA;cM168 GU;cM190 GEE;cM166 GUEI;cM167 GUAN
cM184 NGEN;cM057 NGON;cM177 NGUAN;cM068 PI;cM099 PA;cM050 PU;cM081 PEE;cM051 PE;cM102 POO
cM066 PO;cM145 MBI;cM062 MBA;cM122 MBU;cM047 MBEE;cM188+a;cM072 MBE;cM172 MBOO;cM174 MBO
cM187 MBUU;cM161 LONG MBE;cM105 LONG MBOO;cM142 LONG MBO;cM132 KPI;cM092 KPA;cM074 KPU
cM044 KPEE;cM108 KPE;cM112 KPOO;cM158 KPO;cM124 GBI;cM056 GBA;cM148 GBU;cM093 GBEE;cM107 GBE
cM071 GBOO;cM070 GBO;cM171 RA;cM123 NDI;cM129 NDA;cM125 NDU;cM191 NDEE;cM119 NDE;cM067 NDOO
cM064 NDO;cM152 NJA;cM192 NJU;cM149 NJEE;cM134 NJOO;cM182 VI;cM185 VA;cM151 VU;cM173 VEE
cM085 VE;cM144 VOO;cM077 VO;cM164 NYIN;cM058 NYAN;cM170 NYUN;cM098 NYEN;cM060 NYON"),
   (0x1E8C7, "MENDE KIKAKUI DIGIT ONE;cTWO;cTHREE;cFOUR;cFIVE;cSIX;cSEVEN;cEIGHT;cNINE
bCOMBINING NUMBER TEENS;dTENS;dHUNDREDS;dTHOUSANDS;dTEN+a;dHUNDRED+a;dMILLIONS"),
   (0x1E900, "ADLAM CAPITAL LETTER ALIF;cDAALI;cLAAM;cMIIM;cBA;cSINNYIIYHE;cPE;cBHE;cRA;cE;cFA
cI;cO;cDHA;cYHE;cWAW;cNUN;cKAF;cYA;cU;cJIIM;cCHI;cHA;cQAAF;cGA;cNYA;cTU;cNHA;cVA;cKHA;cGBE;cZAL
cKPO;cSHA;aSMALL LETTER ALIF;cDAALI;cLAAM;cMIIM;cBA;cSINNYIIYHE;cPE;cBHE;cRA;cE;cFA;cI;cO;cDHA
cYHE;cWAW;cNUN;cKAF;cYA;cU;cJIIM;cCHI;cHA;cQAAF;cGA;cNYA;cTU;cNHA;cVA;cKHA;cGBE;cZAL;cKPO;cSHA
aALIF LENGTHENER;aVOWEL+a;aGEMINATION MARK;aHAMZA;aCONSONANT MODIFIER;aGEMINATE+b;aNUKTA
aNASALIZATION MARK"),
   (0x1E950, "ADLAM DIGIT ZERO;bONE;bTWO;bTHREE;bFOUR;bFIVE;bSIX;bSEVEN;bEIGHT;bNINE"),
   (0x1E95E, "ADLAM INITIAL EXCLAMATION MARK;bQUESTION+a"),
   (0x1EC71, "INDIC SIYAQ NUMBER ONE;cTWO;cTHREE;cFOUR;cFIVE;cSIX;cSEVEN;cEIGHT;cNINE;cTEN
cTWENTY;cTHIRTY;cFORTY;cFIFTY;cSIXTY;cSEVENTY;cEIGHTY;cNINETY;cONE HUNDRED;cTWO+a;cTHREE+a
cFOUR+a;cFIVE+a;cSIX+a;cSEVEN+a;cEIGHT+a;cNINE+a;cONE THOUSAND;cTWO+a;cTHREE+a;cFOUR+a;cFIVE+a
cSIX+a;cSEVEN+a;cEIGHT+a;cNINE+a;cTEN+a;cTWENTY+a;cTHIRTY+a;cFORTY+a;cFIFTY+a;cSIXTY+a
cSEVENTY+a;cEIGHTY+a;cNINETY+a;cLAKH;cLAKHAN;bLAKH MARK;bNUMBER KAROR;cKARORAN;cPREFIXED ONE
dTWO;dTHREE;dFOUR;dFIVE;dSIX;dSEVEN;dEIGHT;dNINE;bPLACEHOLDER;bFRACTION ONE QUARTER;dHALF
cTHREE QUARTERS;bRUPEE MARK;bNUMBER ALTERNATE ONE;dTWO;dTEN THOUSAND;bALTERNATE LAKH MARK"),
   (0x1ED01, "OTTOMAN SIYAQ NUMBER ONE;cTWO;cTHREE;cFOUR;cFIVE;cSIX;cSEVEN;cEIGHT;cNINE;cTEN
cTWENTY;cTHIRTY;cFORTY;cFIFTY;cSIXTY;cSEVENTY;cEIGHTY;cNINETY;cONE HUNDRED;cTWO+a;cTHREE+a
cFOUR+a;cFIVE+a;cSIX+a;cSEVEN+a;cEIGHT+a;cNINE+a;cONE THOUSAND;cTWO+a;cTHREE+a;cFOUR+a;cFIVE+a
cSIX+a;cSEVEN+a;cEIGHT+a;cNINE+a;cTEN+a;cTWENTY+a;cTHIRTY+a;cFORTY+a;cFIFTY+a;cSIXTY+a
cSEVENTY+a;cEIGHTY+a;cNINETY+a;bMARRATAN;bALTERNATE NUMBER TWO;dTHREE;dFOUR;dFIVE;dSIX;dSEVEN
dEIGHT;dNINE;dTEN;dFOUR HUNDRED;dSIX+a;dTWO THOUSAND;dTEN+a;bFRACTION ONE HALF;dSIXTH"),
   (0x1EE00, "ARABIC MATHEMATICAL ALEF;bBEH;bJEEM;bDAL"),
   (0x1EE05, "ARABIC MATHEMATICAL WAW;bZAIN;bHAH;bTAH;bYEH;bKAF;bLAM;bMEEM;bNOON;bSEEN;bAIN;bFEH
bSAD;bQAF;bREH;bSHEEN;bTEH;bTHEH;bKHAH;bTHAL;bDAD;bZAH;bGHAIN;bDOTLESS BEH;cNOON;cFEH;cQAF"),
   (0x1EE21, "ARABIC MATHEMATICAL INITIAL BEH;cJEEM"),
   (0x1EE24, "ARABIC MATHEMATICAL INITIAL HEH"),
   (0x1EE27, "ARABIC MATHEMATICAL INITIAL HAH"),
   (0x1EE29, "ARABIC MATHEMATICAL INITIAL YEH;cKAF;cLAM;cMEEM;cNOON;cSEEN;cAIN;cFEH;cSAD;cQAF"),
   (0x1EE34, "ARABIC MATHEMATICAL INITIAL SHEEN;cTEH;cTHEH;cKHAH"),
   (0x1EE39, "ARABIC MATHEMATICAL INITIAL DAD"),
   (0x1EE3B, "ARABIC MATHEMATICAL INITIAL GHAIN"),
   (0x1EE42, "ARABIC MATHEMATICAL TAILED JEEM"),
   (0x1EE47, "ARABIC MATHEMATICAL TAILED HAH"),
   (0x1EE49, "ARABIC MATHEMATICAL TAILED YEH"),
   (0x1EE4B, "ARABIC MATHEMATICAL TAILED LAM"),
   (0x1EE4D, "ARABIC MATHEMATICAL TAILED NOON;cSEEN;cAIN"),
   (0x1EE51, "ARABIC MATHEMATICAL TAILED SAD;cQAF"),
   (0x1EE54, "ARABIC MATHEMATICAL TAILED SHEEN"),
   (0x1EE57, "ARABIC MATHEMATICAL TAILED KHAH"),
   (0x1EE59, "ARABIC MATHEMATICAL TAILED DAD"),
   (0x1EE5B, "ARABIC MATHEMATICAL TAILED GHAIN"),
   (0x1EE5D, "ARABIC MATHEMATICAL TAILED DOTLESS NOON"),
   (0x1EE5F, "ARABIC MATHEMATICAL TAILED DOTLESS QAF"),
   (0x1EE61, "ARABIC MATHEMATICAL STRETCHED BEH;cJEEM"),
   (0x1EE64, "ARABIC MATHEMATICAL STRETCHED HEH"),
   (0x1EE67, "ARABIC MATHEMATICAL STRETCHED HAH;cTAH;cYEH;cKAF"),
   (0x1EE6C, "ARABIC MATHEMATICAL STRETCHED MEEM;cNOON;cSEEN;cAIN;cFEH;cSAD;cQAF"),
   (0x1EE74, "ARABIC MATHEMATICAL STRETCHED SHEEN;cTEH;cTHEH;cKHAH"),
   (0x1EE79, "ARABIC MATHEMATICAL STRETCHED DAD;cZAH;cGHAIN;cDOTLESS BEH"),
   (0x1EE7E, "ARABIC MATHEMATICAL STRETCHED DOTLESS FEH"),
   (0x1EE80, "ARABIC MATHEMATICAL LOOPED ALEF;cBEH;cJEEM;cDAL;cHEH;cWAW;cZAIN;cHAH;cTAH;cYEH"),
   (0x1EE8B, "ARABIC MATHEMATICAL LOOPED LAM;cMEEM;cNOON;cSEEN;cAIN;cFEH;cSAD;cQAF;cREH;cSHEEN
cTEH;cTHEH;cKHAH;cTHAL;cDAD;cZAH;cGHAIN"),
   (0x1EEA1, "ARABIC MATHEMATICAL DOUBLE-STRUCK BEH;cJEEM;cDAL"),
   (0x1EEA5, "ARABIC MATHEMATICAL DOUBLE-STRUCK WAW;cZAIN;cHAH;cTAH;cYEH"),
   (0x1EEAB, "ARABIC MATHEMATICAL DOUBLE-STRUCK LAM;cMEEM;cNOON;cSEEN;cAIN;cFEH;cSAD;cQAF;cREH
cSHEEN;cTEH;cTHEH;cKHAH;cTHAL;cDAD;cZAH;cGHAIN"),
   (0x1EEF0, "ARABIC MATHEMATICAL OPERATOR MEEM WITH HAH WITH TATWEEL;cHAH WITH DAL"),
   (0x1F000, "MAHJONG TILE EAST WIND;bSOUTH+a;bWEST+a;bNORTH+a;bRED DRAGON;bGREEN+a;bWHITE+a
bONE OF CHARACTERS;bTWO+b;bTHREE+b;bFOUR+b;bFIVE+b;bSIX+b;bSEVEN+b;bEIGHT+b;bNINE+b
bONE OF BAMBOOS;bTWO+b;bTHREE+b;bFOUR+b;bFIVE+b;bSIX+b;bSEVEN+b;bEIGHT+b;bNINE+b
bONE OF CIRCLES;bTWO+b;bTHREE+b;bFOUR+b;bFIVE+b;bSIX+b;bSEVEN+b;bEIGHT+b;bNINE+b;bPLUM;bORCHID
bBAMBOO;bCHRYSANTHEMUM;bSPRING;bSUMMER;bAUTUMN;bWINTER;bJOKER;bBACK"),
   (0x1F030, "DOMINO TILE HORIZONTAL BACK;bHORIZONTAL-00-00;bHORIZONTAL-00-01;bHORIZONTAL-00-02
bHORIZONTAL-00-03;bHORIZONTAL-00-04;bHORIZONTAL-00-05;bHORIZONTAL-00-06;bHORIZONTAL-01-00
bHORIZONTAL-01-01;bHORIZONTAL-01-02;bHORIZONTAL-01-03;bHORIZONTAL-01-04;bHORIZONTAL-01-05
bHORIZONTAL-01-06;bHORIZONTAL-02-00;bHORIZONTAL-02-01;bHORIZONTAL-02-02;bHORIZONTAL-02-03
bHORIZONTAL-02-04;bHORIZONTAL-02-05;bHORIZONTAL-02-06;bHORIZONTAL-03-00;bHORIZONTAL-03-01
bHORIZONTAL-03-02;bHORIZONTAL-03-03;bHORIZONTAL-03-04;bHORIZONTAL-03-05;bHORIZONTAL-03-06
bHORIZONTAL-04-00;bHORIZONTAL-04-01;bHORIZONTAL-04-02;bHORIZONTAL-04-03;bHORIZONTAL-04-04
bHORIZONTAL-04-05;bHORIZONTAL-04-06;bHORIZONTAL-05-00;bHORIZONTAL-05-01;bHORIZONTAL-05-02
bHORIZONTAL-05-03;bHORIZONTAL-05-04;bHORIZONTAL-05-05;bHORIZONTAL-05-06;bHORIZONTAL-06-00
bHORIZONTAL-06-01;bHORIZONTAL-06-02;bHORIZONTAL-06-03;bHORIZONTAL-06-04;bHORIZONTAL-06-05
bHORIZONTAL-06-06;bVERTICAL BACK;bVERTICAL-00-00;bVERTICAL-00-01;bVERTICAL-00-02
bVERTICAL-00-03;bVERTICAL-00-04;bVERTICAL-00-05;bVERTICAL-00-06;bVERTICAL-01-00;bVERTICAL-01-01
bVERTICAL-01-02;bVERTICAL-01-03;bVERTICAL-01-04;bVERTICAL-01-05;bVERTICAL-01-06;bVERTICAL-02-00
bVERTICAL-02-01;bVERTICAL-02-02;bVERTICAL-02-03;bVERTICAL-02-04;bVERTICAL-02-05;bVERTICAL-02-06
bVERTICAL-03-00;bVERTICAL-03-01;bVERTICAL-03-02;bVERTICAL-03-03;bVERTICAL-03-04;bVERTICAL-03-05
bVERTICAL-03-06;bVERTICAL-04-00;bVERTICAL-04-01;bVERTICAL-04-02;bVERTICAL-04-03;bVERTICAL-04-04
bVERTICAL-04-05;bVERTICAL-04-06;bVERTICAL-05-00;bVERTICAL-05-01;bVERTICAL-05-02;bVERTICAL-05-03
bVERTICAL-05-04;bVERTICAL-05-05;bVERTICAL-05-06;bVERTICAL-06-00;bVERTICAL-06-01;bVERTICAL-06-02
bVERTICAL-06-03;bVERTICAL-06-04;bVERTICAL-06-05;bVERTICAL-06-06"),
   (0x1F0A0, "PLAYING CARD BACK;bACE OF SPADES;bTWO+b;bTHREE+b;bFOUR+b;bFIVE+b;bSIX+b;bSEVEN+b
bEIGHT+b;bNINE+b;bTEN+b;bJACK+b;bKNIGHT+b;bQUEEN+b;bKING+b"),
   (0x1F0B1, "PLAYING CARD ACE OF HEARTS;bTWO+b;bTHREE+b;bFOUR+b;bFIVE+b;bSIX+b;bSEVEN+b
bEIGHT+b;bNINE+b;bTEN+b;bJACK+b;bKNIGHT+b;bQUEEN+b;bKING+b;bRED JOKER"),
   (0x1F0C1, "PLAYING CARD ACE OF DIAMONDS;bTWO+b;bTHREE+b;bFOUR+b;bFIVE+b;bSIX+b;bSEVEN+b
bEIGHT+b;bNINE+b;bTEN+b;bJACK+b;bKNIGHT+b;bQUEEN+b;bKING+b;bBLACK JOKER"),
   (0x1F0D1, "PLAYING CARD ACE OF CLUBS;bTWO+b;bTHREE+b;bFOUR+b;bFIVE+b;bSIX+b;bSEVEN+b;bEIGHT+b
bNINE+b;bTEN+b;bJACK+b;bKNIGHT+b;bQUEEN+b;bKING+b;bWHITE JOKER;bFOOL;bTRUMP-1;bTRUMP-2;bTRUMP-3
bTRUMP-4;bTRUMP-5;bTRUMP-6;bTRUMP-7;bTRUMP-8;bTRUMP-9;bTRUMP-10;bTRUMP-11;bTRUMP-12;bTRUMP-13
bTRUMP-14;bTRUMP-15;bTRUMP-16;bTRUMP-17;bTRUMP-18;bTRUMP-19;bTRUMP-20;bTRUMP-21"),
   (0x1F100, "DIGIT ZERO FULL STOP;bCOMMA;aONE+a;aTWO+a;aTHREE+a;aFOUR+a;aFIVE+a;aSIX+a;aSEVEN+a
aEIGHT+a;aNINE+a;DINGBAT CIRCLED SANS-SERIF DIGIT ZERO;aNEGATIVE+d;CIRCLED ZERO WITH SLASH
aANTICLOCKWISE ARROW;aDOLLAR SIGN WITH OVERLAID BACKSLASH;PARENTHESIZED LATIN CAPITAL LETTER A
dB;dC;dD;dE;dF;dG;dH;dI;dJ;dK;dL;dM;dN;dO;dP;dQ;dR;dS;dT;dU;dV;dW;dX;dY;dZ
TORTOISE SHELL BRACKETED LATIN CAPITAL LETTER S;CIRCLED ITALIC LATIN CAPITAL LETTER C;eR;aCD
aWZ;COPYLEFT SYMBOL;SQUARED LATIN CAPITAL LETTER A;dB;dC;dD;dE;dF;dG;dH;dI;dJ;dK;dL;dM;dN;dO;dP
dQ;dR;dS;dT;dU;dV;dW;dX;dY;dZ;aHV;aMV;aSD;aSS;aPPV;aWC;NEGATIVE CIRCLED LATIN CAPITAL LETTER A
eB;eC;eD;eE;eF;eG;eH;eI;eJ;eK;eL;eM;eN;eO;eP;eQ;eR;eS;eT;eU;eV;eW;eX;eY;eZ;RAISED MC SIGN;aMD+a
aMR+a;CIRCLED CC;aC WITH OVERLAID BACKSLASH;aHUMAN FIGURE
NEGATIVE SQUARED LATIN CAPITAL LETTER A;eB;eC;eD;eE;eF;eG;eH;eI;eJ;eK;eL;eM;eN;eO;eP;eQ;eR;eS
eT;eU;eV;eW;eX;eY;eZ;CROSSED NEGATIVE SQUARED LATIN CAPITAL LETTER P;NEGATIVE SQUARED IC;bPA
bSA;bAB;bWC;SQUARE DJ;SQUARED CL;aCOOL;aFREE;aID;aNEW;aNG;aOK;aSOS;aUP WITH EXCLAMATION MARK
aVS;aTHREE D;aSECOND SCREEN;aTWO K;aFOUR K;aEIGHT K;aFIVE POINT ONE;aSEVEN+b
aTWENTY-TWO POINT TWO;aSIXTY P;aONE HUNDRED TWENTY P;aLATIN SMALL LETTER D;aHC;aHDR;aHI-RES
aLOSSLESS;aSHV;aUHD;aVOD;MASK WORK SYMBOL"),
   (0x1F1E6, "REGIONAL INDICATOR SYMBOL LETTER A;dB;dC;dD;dE;dF;dG;dH;dI;dJ;dK;dL;dM;dN;dO;dP;dQ
dR;dS;dT;dU;dV;dW;dX;dY;dZ;SQUARE HIRAGANA HOKA;SQUARED KATAKANA KOKO;bSA"),
   (0x1F210, "SQUARED CJK UNIFIED IDEOGRAPH-624B;cIDEOGRAPH-5B57;cIDEOGRAPH-53CC;aKATAKANA DE
aCJK UNIFIED IDEOGRAPH-4E8C;cIDEOGRAPH-591A;cIDEOGRAPH-89E3;cIDEOGRAPH-5929;cIDEOGRAPH-4EA4
cIDEOGRAPH-6620;cIDEOGRAPH-7121;cIDEOGRAPH-6599;cIDEOGRAPH-524D;cIDEOGRAPH-5F8C;cIDEOGRAPH-518D
cIDEOGRAPH-65B0;cIDEOGRAPH-521D;cIDEOGRAPH-7D42;cIDEOGRAPH-751F;cIDEOGRAPH-8CA9;cIDEOGRAPH-58F0
cIDEOGRAPH-5439;cIDEOGRAPH-6F14;cIDEOGRAPH-6295;cIDEOGRAPH-6355;cIDEOGRAPH-4E00;cIDEOGRAPH-4E09
cIDEOGRAPH-904A;cIDEOGRAPH-5DE6;cIDEOGRAPH-4E2D;cIDEOGRAPH-53F3;cIDEOGRAPH-6307;cIDEOGRAPH-8D70
cIDEOGRAPH-6253;cIDEOGRAPH-7981;cIDEOGRAPH-7A7A;cIDEOGRAPH-5408;cIDEOGRAPH-6E80;cIDEOGRAPH-6709
cIDEOGRAPH-6708;cIDEOGRAPH-7533;cIDEOGRAPH-5272;cIDEOGRAPH-55B6;cIDEOGRAPH-914D"),
   (0x1F240, "TORTOISE SHELL BRACKETED CJK UNIFIED IDEOGRAPH-672C;eIDEOGRAPH-4E09
eIDEOGRAPH-4E8C;eIDEOGRAPH-5B89;eIDEOGRAPH-70B9;eIDEOGRAPH-6253;eIDEOGRAPH-76D7;eIDEOGRAPH-52DD
eIDEOGRAPH-6557"),
   (0x1F250, "CIRCLED IDEOGRAPH ADVANTAGE;bACCEPT"),
   (0x1F260, "ROUNDED SYMBOL FOR FU;cLU;cSHOU;cXI;cSHUANGXI;cCAI"),
   (0x1F300, "CYCLONE;FOGGY;CLOSED UMBRELLA;NIGHT WITH STARS;SUNRISE OVER MOUNTAINS;a
CITYSCAPE AT DUSK;SUNSET OVER BUILDINGS;RAINBOW;BRIDGE AT NIGHT;WATER WAVE;VOLCANO;MILKY WAY
EARTH GLOBE EUROPE-AFRICA;bAMERICAS;bASIA-AUSTRALIA;GLOBE WITH MERIDIANS;NEW MOON SYMBOL
WAXING CRESCENT+b;FIRST QUARTER+b;WAXING GIBBOUS+b;FULL+b;WANING GIBBOUS+b;LAST QUARTER+b
WANING CRESCENT+b;CRESCENT MOON;NEW MOON WITH FACE;FIRST QUARTER+c;LAST+d;FULL+c;SUN+b
GLOWING STAR;SHOOTING+a;THERMOMETER;BLACK DROPLET;WHITE SUN;bWITH SMALL CLOUD;bBEHIND+a
dWITH RAIN;+c;bSNOW;bLIGHTNING;bTORNADO;FOG;WIND BLOWING FACE;HOT DOG;TACO;BURRITO;CHESTNUT
SEEDLING;EVERGREEN TREE;DECIDUOUS+a;PALM+a;CACTUS;HOT PEPPER;TULIP;CHERRY BLOSSOM;ROSE;HIBISCUS
SUNFLOWER;BLOSSOM;EAR OF MAIZE;bRICE;HERB;FOUR LEAF CLOVER;MAPLE LEAF;FALLEN+a
LEAF FLUTTERING IN WIND;MUSHROOM;TOMATO;AUBERGINE;GRAPES;MELON;WATERMELON;TANGERINE;LEMON
BANANA;PINEAPPLE;RED APPLE;GREEN+a;PEAR;PEACH;CHERRIES;STRAWBERRY;HAMBURGER;SLICE OF PIZZA
MEAT ON BONE;POULTRY LEG;RICE CRACKER;aBALL;COOKED RICE;CURRY AND+a;STEAMING BOWL;SPAGHETTI
BREAD;FRENCH FRIES;ROASTED SWEET POTATO;DANGO;ODEN;SUSHI;FRIED SHRIMP
FISH CAKE WITH SWIRL DESIGN;SOFT ICE CREAM;SHAVED ICE;ICE CREAM;DOUGHNUT;COOKIE;CHOCOLATE BAR
CANDY;LOLLIPOP;CUSTARD;HONEY POT;SHORTCAKE;BENTO BOX;POT OF FOOD;COOKING;FORK AND KNIFE
TEACUP WITHOUT HANDLE;SAKE BOTTLE AND CUP;WINE GLASS;COCKTAIL+a;TROPICAL DRINK;BEER MUG
CLINKING BEER MUGS;BABY BOTTLE;FORK AND KNIFE WITH PLATE;BOTTLE WITH POPPING CORK;POPCORN
RIBBON;WRAPPED PRESENT;BIRTHDAY CAKE;JACK-O-LANTERN;CHRISTMAS TREE;FATHER CHRISTMAS;FIREWORKS
FIREWORK SPARKLER;BALLOON;PARTY POPPER;CONFETTI BALL;TANABATA TREE;CROSSED FLAGS
PINE DECORATION;JAPANESE DOLLS;CARP STREAMER;WIND CHIME;MOON VIEWING CEREMONY;SCHOOL SATCHEL
GRADUATION CAP;HEART WITH TIP ON THE LEFT;BOUQUET OF FLOWERS;MILITARY MEDAL;REMINDER RIBBON
MUSICAL KEYBOARD WITH JACKS;STUDIO MICROPHONE;LEVEL SLIDER;CONTROL KNOBS
BEAMED ASCENDING MUSICAL NOTES;aDESCENDING+b;FILM FRAMES;ADMISSION TICKETS;CAROUSEL HORSE
FERRIS WHEEL;ROLLER COASTER;FISHING POLE AND FISH;MICROPHONE;MOVIE CAMERA;CINEMA;HEADPHONE
ARTIST PALETTE;TOP HAT;CIRCUS TENT;TICKET;CLAPPER BOARD;PERFORMING ARTS;VIDEO GAME;DIRECT HIT
SLOT MACHINE;BILLIARDS;GAME DIE;BOWLING;FLOWER PLAYING CARDS;MUSICAL NOTE
MULTIPLE MUSICAL NOTES;SAXOPHONE;GUITAR;MUSICAL KEYBOARD;TRUMPET;VIOLIN;MUSICAL SCORE
RUNNING SHIRT WITH SASH;TENNIS RACQUET AND BALL;SKI AND SKI BOOT;BASKETBALL AND HOOP
CHEQUERED FLAG;SNOWBOARDER;RUNNER;SURFER;SPORTS MEDAL;TROPHY;HORSE RACING;AMERICAN FOOTBALL
RUGBY+a;SWIMMER;WEIGHT LIFTER;GOLFER;RACING MOTORCYCLE;aCAR;CRICKET BAT AND BALL;VOLLEYBALL
FIELD HOCKEY STICK AND BALL;ICE HOCKEY STICK AND PUCK;TABLE TENNIS PADDLE AND BALL
SNOW CAPPED MOUNTAIN;CAMPING;BEACH WITH UMBRELLA;BUILDING CONSTRUCTION;HOUSE BUILDINGS
CITYSCAPE;DERELICT HOUSE BUILDING;CLASSICAL+a;DESERT;aISLAND;NATIONAL PARK;STADIUM
HOUSE BUILDING;aWITH GARDEN;OFFICE BUILDING;JAPANESE POST OFFICE;EUROPEAN+b;HOSPITAL;BANK
AUTOMATED TELLER MACHINE;HOTEL;LOVE+a;CONVENIENCE STORE;SCHOOL;DEPARTMENT STORE;FACTORY
IZAKAYA LANTERN;JAPANESE CASTLE;EUROPEAN+a;WHITE PENNANT;BLACK+a;WAVING WHITE FLAG;aBLACK+a
ROSETTE;BLACK+a;LABEL;BADMINTON RACQUET AND SHUTTLECOCK;BOW AND ARROW;AMPHORA
EMOJI MODIFIER FITZPATRICK TYPE-1-2;cTYPE-3;cTYPE-4;cTYPE-5;cTYPE-6;RAT;MOUSE;OX;WATER BUFFALO
COW;TIGER;LEOPARD;RABBIT;CAT;DRAGON;CROCODILE;WHALE;SNAIL;SNAKE;HORSE;RAM;GOAT;SHEEP;MONKEY
ROOSTER;CHICKEN;DOG;PIG;BOAR;ELEPHANT;OCTOPUS;SPIRAL SHELL;BUG;ANT;HONEYBEE;LADY BEETLE;FISH
TROPICAL+a;BLOWFISH;TURTLE;HATCHING CHICK;BABY+a;FRONT-FACING+b;BIRD;PENGUIN;KOALA;POODLE
DROMEDARY CAMEL;BACTRIAN+a;DOLPHIN;MOUSE FACE;COW+a;TIGER+a;RABBIT+a;CAT+a;DRAGON+a
SPOUTING WHALE;HORSE FACE;MONKEY+a;DOG+a;PIG+a;FROG+a;HAMSTER+a;WOLF+a;BEAR+a;PANDA+a;PIG NOSE
PAW PRINTS;CHIPMUNK;EYES;EYE;EAR;NOSE;MOUTH;TONGUE;WHITE UP POINTING BACKHAND INDEX;aDOWN+c
aLEFT+c;aRIGHT+c;FISTED HAND SIGN;WAVING+b;OK+b;THUMBS UP+a;aDOWN+a;CLAPPING HANDS+a;OPEN+b
CROWN;WOMANS HAT;EYEGLASSES;NECKTIE;T-SHIRT;JEANS;DRESS;KIMONO;BIKINI;WOMANS CLOTHES;PURSE
HANDBAG;POUCH;MANS SHOE;ATHLETIC+a;HIGH-HEELED+a;WOMANS SANDAL;aBOOTS;FOOTPRINTS
BUST IN SILHOUETTE;BUSTS+b;BOY;GIRL;MAN;WOMAN;FAMILY;MAN AND WOMAN HOLDING HANDS;TWO MEN+b
aWOMEN+b;POLICE OFFICER;WOMAN WITH BUNNY EARS;BRIDE WITH VEIL;PERSON WITH BLOND HAIR
MAN WITH GUA PI MAO;bTURBAN;OLDER MAN;aWOMAN;BABY;CONSTRUCTION WORKER;PRINCESS;JAPANESE OGRE
aGOBLIN;GHOST;BABY ANGEL;EXTRATERRESTRIAL ALIEN;ALIEN MONSTER;IMP;SKULL;INFORMATION DESK PERSON
GUARDSMAN;DANCER;LIPSTICK;NAIL POLISH;FACE MASSAGE;HAIRCUT;BARBER POLE;SYRINGE;PILL;KISS MARK
LOVE LETTER;RING;GEM STONE;KISS;BOUQUET;COUPLE WITH HEART;WEDDING;BEATING HEART;BROKEN+a
TWO HEARTS;SPARKLING HEART;GROWING+a;HEART WITH ARROW;BLUE HEART;GREEN+a;YELLOW+a;PURPLE+a
HEART WITH RIBBON;REVOLVING HEARTS;HEART DECORATION;DIAMOND SHAPE WITH A DOT INSIDE
ELECTRIC LIGHT BULB;ANGER SYMBOL;BOMB;SLEEPING SYMBOL;COLLISION+a;SPLASHING SWEAT+a;DROPLET
DASH SYMBOL;PILE OF POO;FLEXED BICEPS;DIZZY SYMBOL;SPEECH BALLOON;THOUGHT+a;WHITE FLOWER
HUNDRED POINTS SYMBOL;MONEY BAG;CURRENCY EXCHANGE;HEAVY DOLLAR SIGN;CREDIT CARD
BANKNOTE WITH YEN SIGN;bDOLLAR+a;bEURO+a;bPOUND+a;MONEY WITH WINGS
CHART WITH UPWARDS TREND AND YEN SIGN;SEAT;PERSONAL COMPUTER;BRIEFCASE;MINIDISC;FLOPPY DISK
OPTICAL DISC;DVD;FILE FOLDER;OPEN+b;PAGE WITH CURL;aFACING UP;CALENDAR;TEAR-OFF+a;CARD INDEX
CHART WITH UPWARDS TREND;bDOWNWARDS+a;BAR CHART;CLIPBOARD;PUSHPIN;ROUND+a;PAPERCLIP
STRAIGHT RULER;TRIANGULAR+a;BOOKMARK TABS;LEDGER;NOTEBOOK;aWITH DECORATIVE COVER;CLOSED BOOK
OPEN+a;GREEN+a;BLUE+a;ORANGE+a;BOOKS;NAME BADGE;SCROLL;MEMO;TELEPHONE RECEIVER;PAGER
FAX MACHINE;SATELLITE ANTENNA;PUBLIC ADDRESS LOUDSPEAKER;CHEERING MEGAPHONE;OUTBOX TRAY;INBOX+a
PACKAGE;E-MAIL SYMBOL;INCOMING ENVELOPE;ENVELOPE WITH DOWNWARDS ARROW ABOVE
CLOSED MAILBOX WITH LOWERED FLAG;cRAISED+a;OPEN+d;cLOWERED+a;POSTBOX;POSTAL HORN;NEWSPAPER
MOBILE PHONE;bWITH RIGHTWARDS ARROW AT LEFT;VIBRATION MODE;MOBILE PHONE OFF;NO MOBILE PHONES
ANTENNA WITH BARS;CAMERA;aWITH FLASH;VIDEO CAMERA;TELEVISION;RADIO;VIDEOCASSETTE;FILM PROJECTOR
PORTABLE STEREO;PRAYER BEADS;TWISTED RIGHTWARDS ARROWS
CLOCKWISE RIGHTWARDS AND LEFTWARDS OPEN CIRCLE+a;gWITH CIRCLED ONE OVERLAY
aDOWNWARDS AND UPWARDS OPEN CIRCLE ARROWS;ANTICLOCKWISE+f;LOW BRIGHTNESS SYMBOL;HIGH+b
SPEAKER WITH CANCELLATION STROKE;a;aWITH ONE SOUND WAVE;bTHREE SOUND WAVES;BATTERY
ELECTRIC PLUG;LEFT-POINTING MAGNIFYING GLASS;RIGHT-POINTING+b;LOCK WITH INK PEN
CLOSED LOCK WITH KEY;+a;LOCK;OPEN+a;BELL;aWITH CANCELLATION STROKE;BOOKMARK;LINK SYMBOL
RADIO BUTTON;BACK WITH LEFTWARDS ARROW ABOVE;END+d;ON WITH EXCLAMATION MARK WITH LEFT RIGHT+b
SOON WITH RIGHTWARDS+b;TOP WITH UPWARDS+b;NO ONE UNDER EIGHTEEN SYMBOL;KEYCAP TEN
INPUT SYMBOL FOR LATIN CAPITAL LETTERS;dSMALL+a;cNUMBERS;cSYMBOLS;cLATIN LETTERS;FIRE
ELECTRIC TORCH;WRENCH;HAMMER;NUT AND BOLT;HOCHO;PISTOL;MICROSCOPE;TELESCOPE;CRYSTAL BALL
SIX POINTED STAR WITH MIDDLE DOT;JAPANESE SYMBOL FOR BEGINNER;TRIDENT EMBLEM
BLACK SQUARE BUTTON;WHITE+b;LARGE RED CIRCLE;aBLUE+a;aORANGE DIAMOND;aBLUE+a;SMALL ORANGE+a
aBLUE+a;UP-POINTING RED TRIANGLE;DOWN-POINTING+b;UP-POINTING SMALL+b;DOWN-POINTING+c
LOWER RIGHT SHADOWED WHITE CIRCLE;UPPER+d;CIRCLED CROSS POMMEE
CROSS POMMEE WITH HALF-CIRCLE BELOW;b;NOTCHED LEFT SEMICIRCLE WITH THREE DOTS;aRIGHT+d
SYMBOL FOR MARKS CHAPTER;WHITE LATIN CROSS;HEAVY+b;CELTIC+a;OM SYMBOL;DOVE OF PEACE;KAABA
MOSQUE;SYNAGOGUE;MENORAH WITH NINE BRANCHES;BOWL OF HYGIEIA;CLOCK FACE ONE OCLOCK;bTWO+a
bTHREE+a;bFOUR+a;bFIVE+a;bSIX+a;bSEVEN+a;bEIGHT+a;bNINE+a;bTEN+a;bELEVEN+a;bTWELVE+a
bONE-THIRTY;bTWO-THIRTY;bTHREE-THIRTY;bFOUR-THIRTY;bFIVE-THIRTY;bSIX-THIRTY;bSEVEN-THIRTY
bEIGHT-THIRTY;bNINE-THIRTY;bTEN-THIRTY;bELEVEN-THIRTY;bTWELVE-THIRTY;RIGHT SPEAKER
bWITH ONE SOUND WAVE;cTHREE SOUND WAVES;BULLHORN;aWITH SOUND WAVES;RINGING BELL;BOOK;CANDLE
MANTELPIECE CLOCK;BLACK SKULL AND CROSSBONES;NO PIRACY;HOLE;MAN IN BUSINESS SUIT LEVITATING
SLEUTH OR SPY;DARK SUNGLASSES;SPIDER;aWEB;JOYSTICK;MAN DANCING;LEFT HAND TELEPHONE RECEIVER
TELEPHONE RECEIVER WITH PAGE;RIGHT HAND TELEPHONE RECEIVER;WHITE TOUCHTONE TELEPHONE;BLACK+b
TELEPHONE ON TOP OF MODEM;CLAMSHELL MOBILE PHONE;BACK OF ENVELOPE;STAMPED+a
ENVELOPE WITH LIGHTNING;FLYING ENVELOPE;PEN OVER STAMPED+a;LINKED PAPERCLIPS;BLACK PUSHPIN
LOWER LEFT PENCIL;bBALLPOINT PEN;bFOUNTAIN+a;bPAINTBRUSH;bCRAYON;LEFT WRITING HAND
TURNED OK HAND SIGN;RAISED HAND WITH FINGERS SPLAYED;REVERSED+e;aTHUMBS UP SIGN;bDOWN+a
aVICTORY HAND;aHAND WITH MIDDLE FINGER EXTENDED
RAISED HAND WITH PART BETWEEN MIDDLE AND RING FINGERS;WHITE DOWN POINTING LEFT HAND INDEX
SIDEWAYS WHITE LEFT POINTING+a;bRIGHT+b;aBLACK LEFT+b;bRIGHT+b;BLACK LEFT POINTING BACKHAND+a
aRIGHT+c;SIDEWAYS WHITE UP POINTING+a;bDOWN+b;aBLACK UP+b;bDOWN+b;BLACK UP POINTING BACKHAND+a
aDOWN+c;aHEART;DESKTOP COMPUTER;KEYBOARD AND MOUSE;THREE NETWORKED COMPUTERS;PRINTER
POCKET CALCULATOR;BLACK HARD SHELL FLOPPY DISK;WHITE+d;SOFT+c;TAPE CARTRIDGE;WIRED KEYBOARD
ONE BUTTON MOUSE;TWO+b;THREE+b;TRACKBALL;OLD PERSONAL COMPUTER;HARD DISK;SCREEN;PRINTER ICON
FAX+a;OPTICAL DISC+a;DOCUMENT WITH TEXT;cAND PICTURE;b+a;FRAME+b;bTILES;bAN X;BLACK FOLDER;+a
OPEN+a;CARD INDEX DIVIDERS;aFILE BOX;FILE CABINET;EMPTY NOTE;bPAGE;bPAD;NOTE;aPAGE;aPAD
EMPTY DOCUMENT;aPAGE;aPAGES;DOCUMENT;PAGE;PAGES;WASTEBASKET;SPIRAL NOTE PAD;aCALENDAR+a
DESKTOP WINDOW;MINIMIZE;MAXIMIZE;OVERLAP;CLOCKWISE RIGHT AND LEFT SEMICIRCLE ARROWS
CANCELLATION X;INCREASE FONT SIZE SYMBOL;DECREASE+c;COMPRESSION;OLD KEY;ROLLED-UP NEWSPAPER
PAGE WITH CIRCLED TEXT;STOCK CHART;DAGGER KNIFE;LIPS;SPEAKING HEAD IN SILHOUETTE
THREE RAYS ABOVE;bBELOW;bLEFT;bRIGHT;LEFT SPEECH BUBBLE;RIGHT+b;TWO SPEECH BUBBLES;THREE+b
LEFT THOUGHT BUBBLE;RIGHT+b;LEFT ANGER+a;RIGHT+b;MOOD+a;LIGHTNING+b;b;BALLOT BOX WITH BALLOT
aSCRIPT X;aBOX WITH+b;aBOLD+b;aBOX WITH+c;LIGHT CHECK MARK;BALLOT BOX WITH BOLD CHECK;WORLD MAP
MOUNT FUJI;TOKYO TOWER;STATUE OF LIBERTY;SILHOUETTE OF JAPAN;MOYAI;GRINNING FACE
bWITH SMILING EYES;FACE WITH TEARS OF JOY;SMILING FACE WITH OPEN MOUTH;eAND SMILING EYES
fCOLD SWEAT;fTIGHTLY-CLOSED EYES;cHALO;cHORNS;WINKING FACE;SMILING FACE WITH SMILING EYES
FACE SAVOURING DELICIOUS FOOD;RELIEVED FACE;SMILING FACE WITH HEART-SHAPED EYES;cSUNGLASSES
SMIRKING FACE;NEUTRAL+a;EXPRESSIONLESS+a;UNAMUSED+a;FACE WITH COLD SWEAT;PENSIVE FACE
CONFUSED+a;CONFOUNDED+a;KISSING+a;FACE THROWING A KISS;KISSING FACE WITH SMILING EYES;cCLOSED+a
FACE WITH STUCK-OUT TONGUE;dAND WINKING EYE;eTIGHTLY-CLOSED EYES;DISAPPOINTED FACE;WORRIED+a
ANGRY+a;POUTING+a;CRYING+a;PERSEVERING+a;FACE WITH LOOK OF TRIUMPH
DISAPPOINTED BUT RELIEVED FACE;FROWNING FACE WITH OPEN MOUTH;ANGUISHED FACE;FEARFUL+a;WEARY+a
SLEEPY+a;TIRED+a;GRIMACING+a;LOUDLY CRYING+a;FACE WITH OPEN MOUTH;HUSHED FACE
FACE WITH OPEN MOUTH AND COLD SWEAT;aSCREAMING IN FEAR;ASTONISHED FACE;FLUSHED+a;SLEEPING+a
DIZZY+a;FACE WITHOUT MOUTH;aWITH MEDICAL MASK;GRINNING CAT FACE WITH SMILING EYES
CAT FACE WITH TEARS OF JOY;SMILING CAT FACE WITH OPEN MOUTH;dHEART-SHAPED EYES
CAT FACE WITH WRY SMILE;KISSING CAT FACE WITH CLOSED EYES;POUTING CAT FACE;CRYING+b;WEARY+b
SLIGHTLY FROWNING+a;aSMILING+a;UPSIDE-DOWN+a;FACE WITH ROLLING EYES;bNO GOOD GESTURE;bOK+a
PERSON BOWING DEEPLY;SEE-NO-EVIL MONKEY;HEAR-NO-EVIL+a;SPEAK-NO-EVIL+a
HAPPY PERSON RAISING ONE HAND;PERSON RAISING BOTH HANDS IN CELEBRATION;aFROWNING
aWITH POUTING FACE;bFOLDED HANDS;NORTH WEST POINTING LEAF;SOUTH+c;NORTH EAST+b;SOUTH+c
TURNED NORTH WEST+b;aSOUTH+c;aNORTH EAST+b;aSOUTH+c;NORTH WEST POINTING VINE+a;SOUTH+d
NORTH EAST+c;SOUTH+d;HEAVY NORTH WEST+c;aSOUTH+d;aNORTH EAST+c;aSOUTH+d;NORTH WEST POINTING BUD
SOUTH+c;NORTH EAST+b;SOUTH+c;HEAVY NORTH WEST+b;aSOUTH+c;aNORTH EAST+b;aSOUTH+c
HOLLOW QUILT SQUARE ORNAMENT;dIN BLACK SQUARE;SOLID QUILT SQUARE ORNAMENT;dIN BLACK SQUARE
LEFTWARDS ROCKET;UPWARDS+a;RIGHTWARDS+a;DOWNWARDS+a;SCRIPT LIGATURE ET ORNAMENT;HEAVY+d
LIGATURE OPEN+b;HEAVY+d;aAMPERSAND+a;SWASH+b
SANS-SERIF HEAVY DOUBLE TURNED COMMA QUOTATION MARK+a;c+d;bLOW+e;HEAVY INTERROBANG+a
SANS-SERIF+b;HEAVY+c;VERY HEAVY SOLIDUS;bREVERSE+a;CHECKER BOARD;REVERSE+b;ROCKET;HELICOPTER
STEAM LOCOMOTIVE;RAILWAY CAR;HIGH-SPEED TRAIN;bWITH BULLET NOSE;TRAIN;METRO;LIGHT RAIL;STATION
TRAM;aCAR;BUS;ONCOMING+a;TROLLEYBUS;BUS STOP;MINIBUS;AMBULANCE;FIRE ENGINE;POLICE CAR
ONCOMING+b;TAXI;ONCOMING+a;AUTOMOBILE;ONCOMING+a;RECREATIONAL VEHICLE;DELIVERY TRUCK
ARTICULATED LORRY;TRACTOR;MONORAIL;MOUNTAIN RAILWAY;SUSPENSION+a;MOUNTAIN CABLEWAY
AERIAL TRAMWAY;SHIP;ROWBOAT;SPEEDBOAT;HORIZONTAL TRAFFIC LIGHT;VERTICAL+b;CONSTRUCTION SIGN
POLICE CARS REVOLVING LIGHT;TRIANGULAR FLAG ON POST;DOOR;NO ENTRY SIGN;SMOKING SYMBOL;NO+b
PUT LITTER IN ITS PLACE+a;DO NOT LITTER+a;POTABLE WATER+a;NON-POTABLE+b;BICYCLE;NO BICYCLES
BICYCLIST;MOUNTAIN+a;PEDESTRIAN;NO PEDESTRIANS;CHILDREN CROSSING;MENS SYMBOL;WOMENS+a;RESTROOM
BABY SYMBOL;TOILET;WATER CLOSET;SHOWER;BATH;BATHTUB;PASSPORT CONTROL;CUSTOMS;BAGGAGE CLAIM
LEFT LUGGAGE;TRIANGLE WITH ROUNDED CORNERS;PROHIBITED SIGN;CIRCLED INFORMATION SOURCE
BOYS SYMBOL;GIRLS+a;COUCH AND LAMP;SLEEPING ACCOMMODATION;SHOPPING BAGS;BELLHOP BELL;BED
PLACE OF WORSHIP;OCTAGONAL SIGN;SHOPPING TROLLEY;STUPA;PAGODA;HINDU TEMPLE;HUT;ELEVATOR"),
   (0x1F6DD, "PLAYGROUND SLIDE;WHEEL;RING BUOY;HAMMER AND WRENCH;SHIELD;OIL DRUM;MOTORWAY
RAILWAY TRACK;MOTOR BOAT;UP-POINTING MILITARY AIRPLANE;a+a;aSMALL+a;+b;NORTHEAST-POINTING+a
AIRPLANE DEPARTURE;aARRIVING"),
   (0x1F6F0, "SATELLITE;ONCOMING FIRE ENGINE;DIESEL LOCOMOTIVE;PASSENGER SHIP;SCOOTER;MOTOR+a
CANOE;SLED;FLYING SAUCER;SKATEBOARD;AUTO RICKSHAW;PICKUP TRUCK;ROLLER SKATE"),
   (0x1F700, "ALCHEMICAL SYMBOL FOR QUINTESSENCE;cAIR;cFIRE;cEARTH;cWATER;cAQUAFORTIS
cAQUA REGIA;dREGIA-2;dVITAE;dVITAE-2;cVINEGAR;cVINEGAR-2;cVINEGAR-3;cSULFUR;cPHILOSOPHERS+a
cBLACK+a;cMERCURY SUBLIMATE;dSUBLIMATE-2;dSUBLIMATE-3;cCINNABAR;cSALT;cNITRE;cVITRIOL
cVITRIOL-2;cROCK SALT;dSALT-2;cGOLD;cSILVER;cIRON ORE;dORE-2;cCROCUS OF IRON;cREGULUS+b
cCOPPER ORE;cIRON-COPPER+a;cSUBLIMATE OF COPPER;cCROCUS+b;eCOPPER-2;cCOPPER ANTIMONIATE
cSALT OF+b;cSUBLIMATE OF SALT OF COPPER;cVERDIGRIS;cTIN ORE;cLEAD+a;cANTIMONY+a
cSUBLIMATE OF ANTIMONY;cSALT+b;cSUBLIMATE OF+c;cVINEGAR+b;cREGULUS+b;eANTIMONY-2;d;cREGULUS-2
cREGULUS-3;cREGULUS-4;cALKALI;cALKALI-2;cMARCASITE;cSAL-AMMONIAC;cARSENIC;cREALGAR;cREALGAR-2
cAURIPIGMENT;cBISMUTH ORE;cTARTAR;cTARTAR-2;cQUICK LIME;cBORAX;cBORAX-2;cBORAX-3;cALUM;cOIL
cSPIRIT;cTINCTURE;cGUM;cWAX;cPOWDER;cCALX;cTUTTY;cCAPUT MORTUUM;cSCEPTER OF JOVE;cCADUCEUS
cTRIDENT;cSTARRED+a;cLODESTONE;cSOAP;cURINE;cHORSE DUNG;cASHES;cPOT+a;cBRICK;cPOWDERED+a
cAMALGAM;cSTRATUM SUPER STRATUM;eSTRATUM-2;cSUBLIMATION;cPRECIPITATE;cDISTILL;cDISSOLVE
cDISSOLVE-2;cPURIFY;cPUTREFACTION;cCRUCIBLE;cCRUCIBLE-2;cCRUCIBLE-3;cCRUCIBLE-4;cCRUCIBLE-5
cALEMBIC;cBATH OF MARY;eVAPOURS;cRETORT;cHOUR;cNIGHT;cDAY-NIGHT;cMONTH;cHALF DRAM;dOUNCE"),
   (0x1F780, "BLACK LEFT-POINTING ISOSCELES RIGHT TRIANGLE;aUP-POINTING+c;aRIGHT-POINTING+c
aDOWN-POINTING+c;aSLIGHTLY SMALL CIRCLE;MEDIUM BOLD WHITE+a;+c;HEAVY+b;VERY+c;EXTREMELY+c
WHITE CIRCLE CONTAINING BLACK SMALL+a;ROUND TARGET;BLACK TINY SQUARE;aSLIGHTLY SMALL+a
LIGHT WHITE+a;MEDIUM+b;BOLD+b;HEAVY+b;VERY+c;EXTREMELY+c
WHITE SQUARE CONTAINING BLACK VERY SMALL+a;dMEDIUM+a;SQUARE TARGET;BLACK TINY DIAMOND
aVERY SMALL+a;aMEDIUM+b;WHITE DIAMOND CONTAINING BLACK VERY+b;dMEDIUM+a;DIAMOND TARGET
BLACK TINY LOZENGE;aVERY SMALL+a;aMEDIUM+b;WHITE LOZENGE CONTAINING BLACK+b;THIN GREEK CROSS
LIGHT+b;MEDIUM+b;BOLD+b;VERY+c;aHEAVY+b;EXTREMELY+c;THIN SALTIRE;LIGHT+a;MEDIUM+a;BOLD+a
HEAVY+a;VERY+b;EXTREMELY+b;LIGHT FIVE SPOKED ASTERISK;MEDIUM+c;BOLD+c;HEAVY+c;VERY+d
EXTREMELY+d;LIGHT SIX+b;MEDIUM+c;BOLD+c;HEAVY+c;VERY+d;EXTREMELY+d;LIGHT EIGHT+b;MEDIUM+c
BOLD+c;HEAVY+c;VERY+d;LIGHT THREE POINTED BLACK STAR;MEDIUM+d;+d
MEDIUM THREE POINTED PINWHEEL+a;LIGHT FOUR POINTED BLACK+a;MEDIUM+d;+d
MEDIUM FOUR POINTED PINWHEEL+a;REVERSE LIGHT+d;LIGHT FIVE POINTED BLACK+a;HEAVY+d;MEDIUM SIX+c
HEAVY+d;SIX POINTED PINWHEEL+a;MEDIUM EIGHT POINTED BLACK+a;HEAVY+d;VERY+e
HEAVY EIGHT POINTED PINWHEEL+a;LIGHT TWELVE POINTED BLACK+a;HEAVY+d;cPINWHEEL+a
CIRCLED TRIANGLE;NEGATIVE+b;CIRCLED SQUARE;NEGATIVE+b"),
   (0x1F7E0, "LARGE ORANGE CIRCLE;aYELLOW+a;aGREEN+a;aPURPLE+a;aBROWN+a;aRED SQUARE;aBLUE+a
aORANGE+a;aYELLOW+a;aGREEN+a;aPURPLE+a;aBROWN+a"),
   (0x1F7F0, "HEAVY EQUALS SIGN"),
   (0x1F800, "LEFTWARDS ARROW WITH SMALL TRIANGLE ARROWHEAD;UPWARDS+e;RIGHTWARDS+e;DOWNWARDS+e
LEFTWARDS ARROW WITH MEDIUM+b;UPWARDS+e;RIGHTWARDS+e;DOWNWARDS+e;LEFTWARDS ARROW WITH LARGE+b
UPWARDS+e;RIGHTWARDS+e;DOWNWARDS+e"),
   (0x1F810, "LEFTWARDS ARROW WITH SMALL EQUILATERAL ARROWHEAD;UPWARDS+e;RIGHTWARDS+e
DOWNWARDS+e;LEFTWARDS ARROW WITH+b;UPWARDS+d;RIGHTWARDS+d;DOWNWARDS+d;HEAVY LEFTWARDS+d
aUPWARDS+d;aRIGHTWARDS+d;aDOWNWARDS+d;aLEFTWARDS ARROW WITH LARGE+b;aUPWARDS+e;aRIGHTWARDS+e
aDOWNWARDS+e;LEFTWARDS TRIANGLE-HEADED ARROW WITH NARROW SHAFT;UPWARDS+e;RIGHTWARDS+e
DOWNWARDS+e;LEFTWARDS TRIANGLE-HEADED ARROW WITH MEDIUM+a;UPWARDS+e;RIGHTWARDS+e;DOWNWARDS+e
LEFTWARDS TRIANGLE-HEADED ARROW WITH BOLD+a;UPWARDS+e;RIGHTWARDS+e;DOWNWARDS+e
LEFTWARDS TRIANGLE-HEADED ARROW WITH HEAVY+a;UPWARDS+e;RIGHTWARDS+e;DOWNWARDS+e
LEFTWARDS TRIANGLE-HEADED ARROW WITH VERY+b;UPWARDS+f;RIGHTWARDS+f;DOWNWARDS+f
LEFTWARDS FINGER-POST ARROW;UPWARDS+b;RIGHTWARDS+b;DOWNWARDS+b;LEFTWARDS SQUARED+a;UPWARDS+b
RIGHTWARDS+b;DOWNWARDS+b;LEFTWARDS COMPRESSED+a;UPWARDS+b;RIGHTWARDS+b;DOWNWARDS+b
LEFTWARDS HEAVY+b;UPWARDS+c;RIGHTWARDS+c;DOWNWARDS+c;LEFTWARDS HEAVY+a;UPWARDS+b;RIGHTWARDS+b
DOWNWARDS+b"),
   (0x1F850, "LEFTWARDS SANS-SERIF ARROW;UPWARDS+b;RIGHTWARDS+b;DOWNWARDS+b;NORTH WEST+b;aEAST+b
SOUTH+c;aWEST+b;LEFT RIGHT+b;UP DOWN+b"),
   (0x1F860, "WIDE-HEADED LEFTWARDS LIGHT BARB ARROW;aUPWARDS+c;aRIGHTWARDS+c;aDOWNWARDS+c
aNORTH WEST+c;bEAST+c;aSOUTH+d;bWEST+c;aLEFTWARDS+b;aUPWARDS+b;aRIGHTWARDS+b;aDOWNWARDS+b
aNORTH WEST+b;bEAST+b;aSOUTH+c;bWEST+b;aLEFTWARDS MEDIUM+b;aUPWARDS+c;aRIGHTWARDS+c
aDOWNWARDS+c;aNORTH WEST+c;bEAST+c;aSOUTH+d;bWEST+c;aLEFTWARDS HEAVY+b;aUPWARDS+c;aRIGHTWARDS+c
aDOWNWARDS+c;aNORTH WEST+c;bEAST+c;aSOUTH+d;bWEST+c;aLEFTWARDS VERY+c;aUPWARDS+d;aRIGHTWARDS+d
aDOWNWARDS+d;aNORTH WEST+d;bEAST+d;aSOUTH+e;bWEST+d"),
   (0x1F890, "LEFTWARDS TRIANGLE ARROWHEAD;UPWARDS+b;RIGHTWARDS+b;DOWNWARDS+b
LEFTWARDS WHITE ARROW WITHIN+b;UPWARDS+e;RIGHTWARDS+e;DOWNWARDS+e
LEFTWARDS ARROW WITH NOTCHED TAIL;UPWARDS+d;RIGHTWARDS+d;DOWNWARDS+d
HEAVY ARROW SHAFT WIDTH ONE;dTWO THIRDS;dONE HALF;eTHIRD;LEFTWARDS BOTTOM-SHADED WHITE ARROW
RIGHTWARDS BOTTOM SHADED+b;LEFTWARDS TOP+c;RIGHTWARDS+d;LEFTWARDS LEFT-SHADED+b
RIGHTWARDS RIGHT-SHADED+b;LEFTWARDS+c;RIGHTWARDS LEFT-SHADED+b;LEFTWARDS BACK-TILTED SHADOWED+b
RIGHTWARDS+d;LEFTWARDS FRONT-TILTED+c;RIGHTWARDS+d;WHITE ARROW SHAFT WIDTH ONE;dTWO THIRDS"),
   (0x1F8B0, "ARROW POINTING UPWARDS THEN NORTH WEST;bRIGHTWARDS THEN CURVING SOUTH+a"),
   (0x1F900, "CIRCLED CROSS FORMEE WITH FOUR DOTS;dTWO+a;c;LEFT HALF CIRCLE WITH FOUR DOTS
dTHREE+a;dTWO+a;dDOT;c;DOWNWARD FACING HOOK;bNOTCHED+a;bHOOK WITH DOT;bNOTCHED+c
PINCHED FINGERS;WHITE HEART;BROWN+a;PINCHING HAND;ZIPPER-MOUTH FACE;MONEY-MOUTH+a
FACE WITH THERMOMETER;NERD FACE;THINKING+a;FACE WITH HEAD-BANDAGE;ROBOT FACE;HUGGING+a
SIGN OF THE HORNS;CALL ME HAND;RAISED BACK OF+a;LEFT-FACING FIST;RIGHT-FACING+a;HANDSHAKE
HAND WITH INDEX AND MIDDLE FINGERS CROSSED;I LOVE YOU HAND SIGN;FACE WITH COWBOY HAT;CLOWN FACE
NAUSEATED+a;ROLLING ON THE FLOOR LAUGHING;DROOLING FACE;LYING+a;FACE PALM;SNEEZING FACE
FACE WITH ONE EYEBROW RAISED;GRINNING FACE WITH STAR EYES;cONE LARGE AND ONE SMALL EYE
FACE WITH FINGER COVERING CLOSED LIPS;SERIOUS FACE WITH SYMBOLS COVERING MOUTH
SMILING FACE WITH SMILING EYES AND HAND+b;FACE WITH OPEN MOUTH VOMITING
SHOCKED FACE WITH EXPLODING HEAD;PREGNANT WOMAN;BREAST-FEEDING;PALMS UP TOGETHER;SELFIE;PRINCE
MAN IN TUXEDO;MOTHER CHRISTMAS;SHRUG;PERSON DOING CARTWHEEL;JUGGLING;FENCER;MODERN PENTATHLON
WRESTLERS;WATER POLO;HANDBALL;DIVING MASK;WILTED FLOWER;DRUM WITH DRUMSTICKS;CLINKING GLASSES
TUMBLER GLASS;SPOON;GOAL NET;RIFLE;FIRST PLACE MEDAL;SECOND+b;THIRD+b;BOXING GLOVE
MARTIAL ARTS UNIFORM;CURLING STONE;LACROSSE STICK AND BALL;SOFTBALL;FLYING DISC;CROISSANT
AVOCADO;CUCUMBER;BACON;POTATO;CARROT;BAGUETTE BREAD;GREEN SALAD;SHALLOW PAN OF FOOD
STUFFED FLATBREAD;EGG;GLASS OF MILK;PEANUTS;KIWIFRUIT;PANCAKES;DUMPLING;FORTUNE COOKIE
TAKEOUT BOX;CHOPSTICKS;BOWL WITH SPOON;CUP WITH STRAW;COCONUT;BROCCOLI;PIE;PRETZEL;CUT OF MEAT
SANDWICH;CANNED FOOD;LEAFY GREEN;MANGO;MOON CAKE;BAGEL
SMILING FACE WITH SMILING EYES AND THREE HEARTS;YAWNING FACE;SMILING FACE WITH TEAR
FACE WITH PARTY HORN AND PARTY HAT;bUNEVEN EYES AND WAVY MOUTH;OVERHEATED FACE;FREEZING+a;NINJA
DISGUISED FACE;FACE HOLDING BACK TEARS;aWITH PLEADING EYES;SARI;LAB COAT;GOGGLES;HIKING BOOT
FLAT SHOE;CRAB;LION FACE;SCORPION;TURKEY;UNICORN FACE;EAGLE;DUCK;BAT;SHARK;OWL;FOX FACE
BUTTERFLY;DEER;GORILLA;LIZARD;RHINOCEROS;SHRIMP;SQUID;GIRAFFE FACE;ZEBRA+a;HEDGEHOG;SAUROPOD
T-REX;CRICKET;KANGAROO;LLAMA;PEACOCK;HIPPOPOTAMUS;PARROT;RACCOON;LOBSTER;MOSQUITO;MICROBE
BADGER;SWAN;MAMMOTH;DODO;SLOTH;OTTER;ORANGUTAN;SKUNK;FLAMINGO;OYSTER;BEAVER;BISON;SEAL
GUIDE DOG;PROBING CANE;EMOJI COMPONENT RED HAIR;bCURLY+a;bBALD;bWHITE HAIR;BONE;LEG;FOOT;TOOTH
SUPERHERO;SUPERVILLAIN;SAFETY VEST;EAR WITH HEARING AID;MOTORIZED WHEELCHAIR;MANUAL+a
MECHANICAL ARM;aLEG;CHEESE WEDGE;CUPCAKE;SALT SHAKER;BEVERAGE BOX;GARLIC;ONION;FALAFEL;WAFFLE
BUTTER;MATE DRINK;ICE CUBE;BUBBLE TEA;TROLL;STANDING PERSON;KNEELING+a;DEAF+a;FACE WITH MONOCLE
ADULT;CHILD;OLDER ADULT;BEARDED PERSON;PERSON WITH HEADSCARF;aIN STEAMY ROOM;aCLIMBING
aIN LOTUS POSITION;MAGE;FAIRY;VAMPIRE;MERPERSON;ELF;GENIE;ZOMBIE;BRAIN;ORANGE HEART;BILLED CAP
SCARF;GLOVES;COAT;SOCKS;RED GIFT ENVELOPE;FIRECRACKER;JIGSAW PUZZLE PIECE;TEST TUBE;PETRI DISH
DNA DOUBLE HELIX;COMPASS;ABACUS;FIRE EXTINGUISHER;TOOLBOX;BRICK;MAGNET;LUGGAGE;LOTION BOTTLE
SPOOL OF THREAD;BALL OF YARN;SAFETY PIN;TEDDY BEAR;BROOM;BASKET;ROLL OF PAPER;BAR OF SOAP
SPONGE;RECEIPT;NAZAR AMULET;NEUTRAL CHESS KING;bQUEEN;bROOK;bBISHOP;bKNIGHT;bPAWN
WHITE CHESS KNIGHT ROTATED FORTY-FIVE DEGREES;BLACK+e;NEUTRAL+e
WHITE CHESS KING ROTATED NINETY+a;bQUEEN+c;bROOK+c;bBISHOP+c;bKNIGHT+c;bPAWN+c
BLACK CHESS KING+c;bQUEEN+c;bROOK+c;bBISHOP+c;bKNIGHT+c;bPAWN+c;NEUTRAL CHESS KING+c;bQUEEN+c
bROOK+c;bBISHOP+c;bKNIGHT+c;bPAWN+c;WHITE CHESS KNIGHT ROTATED ONE HUNDRED THIRTY-FIVE+a
BLACK+g;NEUTRAL+g;WHITE CHESS TURNED KING;cQUEEN;cROOK;cBISHOP;cKNIGHT;cPAWN
BLACK CHESS TURNED KING;cQUEEN;cROOK;cBISHOP;cKNIGHT;cPAWN;NEUTRAL CHESS TURNED KING;cQUEEN
cROOK;cBISHOP;cKNIGHT;cPAWN;WHITE CHESS KNIGHT ROTATED TWO HUNDRED TWENTY-FIVE DEGREES;BLACK+g
NEUTRAL+g;WHITE CHESS KING ROTATED TWO HUNDRED SEVENTY+a;bQUEEN+e;bROOK+e;bBISHOP+e;bKNIGHT+e
bPAWN+e;BLACK CHESS KING+e;bQUEEN+e;bROOK+e;bBISHOP+e;bKNIGHT+e;bPAWN+e;NEUTRAL CHESS KING+e
bQUEEN+e;bROOK+e;bBISHOP+e;bKNIGHT+e;bPAWN+e;WHITE CHESS KNIGHT ROTATED THREE HUNDRED FIFTEEN+a
BLACK+g;NEUTRAL+g;WHITE CHESS EQUIHOPPER;BLACK+b;NEUTRAL+b
WHITE CHESS EQUIHOPPER ROTATED NINETY DEGREES;BLACK+e;NEUTRAL+e;WHITE CHESS KNIGHT-QUEEN
bKNIGHT-ROOK;bKNIGHT-BISHOP;BLACK CHESS KNIGHT-QUEEN;bKNIGHT-ROOK;bKNIGHT-BISHOP"),
   (0x1FA60, "XIANGQI RED GENERAL;bMANDARIN;bELEPHANT;bHORSE;bCHARIOT;bCANNON;bSOLDIER
aBLACK GENERAL;bMANDARIN;bELEPHANT;bHORSE;bCHARIOT;bCANNON;bSOLDIER"),
   (0x1FA70, "BALLET SHOES;ONE-PIECE SWIMSUIT;BRIEFS;SHORTS;THONG SANDAL"),
   (0x1FA78, "DROP OF BLOOD;ADHESIVE BANDAGE;STETHOSCOPE;X-RAY;CRUTCH"),
   (0x1FA80, "YO-YO;KITE;PARACHUTE;BOOMERANG;MAGIC WAND;PINATA;NESTING DOLLS"),
   (0x1FA90, "RINGED PLANET;CHAIR;RAZOR;AXE;DIYA LAMP;BANJO;MILITARY HELMET;ACCORDION;LONG DRUM
COIN;CARPENTRY SAW;SCREWDRIVER;LADDER;HOOK;MIRROR;WINDOW;PLUNGER;SEWING NEEDLE;KNOT;BUCKET
MOUSE TRAP;TOOTHBRUSH;HEADSTONE;PLACARD;ROCK;MIRROR BALL;IDENTIFICATION CARD;LOW BATTERY;HAMSA"),
   (0x1FAB0, "FLY;WORM;BEETLE;COCKROACH;POTTED PLANT;WOOD;FEATHER;LOTUS;CORAL;EMPTY NEST
NEST WITH EGGS"),
   (0x1FAC0, "ANATOMICAL HEART;LUNGS;PEOPLE HUGGING;PREGNANT MAN;aPERSON;PERSON WITH CROWN"),
   (0x1FAD0, "BLUEBERRIES;BELL PEPPER;OLIVE;FLATBREAD;TAMALE;FONDUE;TEAPOT;POURING LIQUID;BEANS
JAR"),
   (0x1FAE0, "MELTING FACE;SALUTING+a;FACE WITH OPEN EYES AND HAND OVER MOUTH;bPEEKING EYE
bDIAGONAL MOUTH;DOTTED LINE FACE;BITING LIP;BUBBLES"),
   (0x1FAF0, "HAND WITH INDEX FINGER AND THUMB CROSSED;RIGHTWARDS HAND;LEFTWARDS+a;PALM DOWN+a
aUP+a;INDEX POINTING AT THE VIEWER;HEART HANDS"),
   (0x1FB00, "BLOCK SEXTANT-1;aSEXTANT-2;aSEXTANT-12;aSEXTANT-3;aSEXTANT-13;aSEXTANT-23
aSEXTANT-123;aSEXTANT-4;aSEXTANT-14;aSEXTANT-24;aSEXTANT-124;aSEXTANT-34;aSEXTANT-134
aSEXTANT-234;aSEXTANT-1234;aSEXTANT-5;aSEXTANT-15;aSEXTANT-25;aSEXTANT-125;aSEXTANT-35
aSEXTANT-235;aSEXTANT-1235;aSEXTANT-45;aSEXTANT-145;aSEXTANT-245;aSEXTANT-1245;aSEXTANT-345
aSEXTANT-1345;aSEXTANT-2345;aSEXTANT-12345;aSEXTANT-6;aSEXTANT-16;aSEXTANT-26;aSEXTANT-126
aSEXTANT-36;aSEXTANT-136;aSEXTANT-236;aSEXTANT-1236;aSEXTANT-46;aSEXTANT-146;aSEXTANT-1246
aSEXTANT-346;aSEXTANT-1346;aSEXTANT-2346;aSEXTANT-12346;aSEXTANT-56;aSEXTANT-156;aSEXTANT-256
aSEXTANT-1256;aSEXTANT-356;aSEXTANT-1356;aSEXTANT-2356;aSEXTANT-12356;aSEXTANT-456
aSEXTANT-1456;aSEXTANT-2456;aSEXTANT-12456;aSEXTANT-3456;aSEXTANT-13456;aSEXTANT-23456
LOWER LEFT BLOCK DIAGONAL LOWER MIDDLE LEFT TO LOWER CENTRE;iRIGHT
dUPPER MIDDLE LEFT TO LOWER CENTRE;iRIGHT;eLEFT TO LOWER CENTRE
aRIGHT BLOCK DIAGONAL UPPER MIDDLE LEFT TO UPPER+a;iRIGHT;dLOWER MIDDLE LEFT TO UPPER CENTRE
iRIGHT;eLEFT TO UPPER CENTRE;eMIDDLE LEFT TO UPPER MIDDLE RIGHT;eCENTRE TO LOWER+b;eLEFT+d
eCENTRE TO UPPER+b;eLEFT+d;eCENTRE TO UPPER+a
aLEFT BLOCK DIAGONAL UPPER CENTRE TO UPPER MIDDLE+a;eLEFT+d;eCENTRE TO LOWER+b;eLEFT+d
eCENTRE TO LOWER+a;eMIDDLE LEFT TO LOWER MIDDLE+a
UPPER RIGHT BLOCK DIAGONAL LOWER MIDDLE LEFT TO LOWER CENTRE;iRIGHT
dUPPER MIDDLE LEFT TO LOWER CENTRE;iRIGHT;eLEFT TO LOWER CENTRE
aLEFT BLOCK DIAGONAL UPPER MIDDLE LEFT TO UPPER+a;iRIGHT;dLOWER MIDDLE LEFT TO UPPER CENTRE
iRIGHT;eLEFT TO UPPER CENTRE;eMIDDLE LEFT TO UPPER MIDDLE RIGHT;eCENTRE TO LOWER+b;eLEFT+d
eCENTRE TO UPPER+b;eLEFT+d;eCENTRE TO UPPER+a
aRIGHT BLOCK DIAGONAL UPPER CENTRE TO UPPER MIDDLE+a;eLEFT+d;eCENTRE TO LOWER+b;eLEFT+d
eCENTRE TO LOWER+a;eMIDDLE LEFT TO LOWER MIDDLE+a
aAND RIGHT AND LOWER TRIANGULAR THREE QUARTERS BLOCK;LEFT AND LOWER AND RIGHT+d
UPPER AND LEFT AND LOWER+d;LEFT AND UPPER AND RIGHT+d;aTRIANGULAR ONE QUARTER+a;UPPER+d;RIGHT+d
LOWER+d;VERTICAL ONE EIGHTH BLOCK-2;cBLOCK-3;cBLOCK-4;cBLOCK-5;cBLOCK-6;cBLOCK-7
HORIZONTAL ONE EIGHTH BLOCK-2;cBLOCK-3;cBLOCK-4;cBLOCK-5;cBLOCK-6;cBLOCK-7
LEFT AND LOWER ONE EIGHTH BLOCK;bUPPER+c;RIGHT+e;bLOWER+c;UPPER+e
HORIZONTAL ONE EIGHTH BLOCK-1358;UPPER ONE QUARTER BLOCK;aTHREE EIGHTHS+a;aFIVE+b
aTHREE QUARTERS+a;aSEVEN EIGHTHS+a;RIGHT ONE QUARTER+a;aTHREE EIGHTHS+a;aFIVE+b
aTHREE QUARTERS+a;aSEVEN EIGHTHS+a;LEFT HALF MEDIUM SHADE;RIGHT+c;UPPER+c;LOWER+c;INVERSE+b
UPPER HALF BLOCK AND LOWER HALF+c;bINVERSE MEDIUM SHADE AND LOWER HALF BLOCK"),
   (0x1FB94, "LEFT HALF INVERSE MEDIUM SHADE AND RIGHT HALF BLOCK;CHECKER BOARD FILL;INVERSE+c
HEAVY HORIZONTAL+a;UPPER LEFT TO LOWER RIGHT+a;aRIGHT TO LOWER LEFT+a
aAND LOWER TRIANGULAR HALF BLOCK;LEFT AND RIGHT+c;UPPER LEFT TRIANGULAR MEDIUM SHADE;aRIGHT+c
LOWER+d;aLEFT+c;BOX DRAWINGS LIGHT DIAGONAL UPPER CENTRE TO MIDDLE LEFT;hRIGHT
dMIDDLE LEFT TO LOWER CENTRE;eRIGHT+c;dUPPER CENTRE TO MIDDLE LEFT+c;hRIGHT+c
dMIDDLE LEFT TO LOWER CENTRE TO MIDDLE RIGHT;gUPPER+d
dUPPER CENTRE TO MIDDLE LEFT AND MIDDLE RIGHT TO LOWER CENTRE;hRIGHT AND MIDDLE LEFT+c
iTO LOWER CENTRE TO MIDDLE LEFT;hLEFT TO LOWER CENTRE TO MIDDLE RIGHT
dMIDDLE LEFT TO UPPER CENTRE TO MIDDLE RIGHT TO LOWER CENTRE
eRIGHT TO UPPER CENTRE TO MIDDLE LEFT+c;dDIAMOND;cHORIZONTAL WITH VERTICAL STROKE
ARROWHEAD-SHAPED POINTER;INVERSE CHECK MARK;LEFT HALF RUNNING MAN;RIGHT+c
INVERSE DOWNWARDS ARROW WITH TIP LEFTWARDS;LEFTWARDS ARROW AND UPPER AND LOWER ONE EIGHTH BLOCK
RIGHTWARDS+h;DOWNWARDS ARROW AND RIGHT+c;UPWARDS+f;LEFT HALF FOLDER;RIGHT+b;VOIDED GREEK CROSS
RIGHT OPEN SQUARED DOT;NEGATIVE DIAGONAL CROSS;bMIDDLE RIGHT TO LOWER CENTRE;bDIAMOND
WHITE HEAVY SALTIRE WITH ROUNDED CORNERS;LEFT THIRD WHITE RIGHT POINTING INDEX;MIDDLE+e;RIGHT+e
NEGATIVE SQUARED QUESTION MARK;STICK FIGURE;bWITH ARMS RAISED;bLEANING LEFT;cRIGHT;bWITH DRESS
WHITE UP-POINTING CHEVRON"),
   (0x1FBF0, "SEGMENTED DIGIT ZERO;bONE;bTWO;bTHREE;bFOUR;bFIVE;bSIX;bSEVEN;bEIGHT;bNINE"),
   (0xE0001, "LANGUAGE TAG"),
   (0xE0020, "TAG SPACE;aEXCLAMATION MARK;aQUOTATION+a;aNUMBER SIGN;aDOLLAR+a;aPERCENT+a
aAMPERSAND;aAPOSTROPHE;aLEFT PARENTHESIS;aRIGHT+a;aASTERISK;aPLUS SIGN;aCOMMA;aHYPHEN-MINUS
aFULL STOP;aSOLIDUS;aDIGIT ZERO;bONE;bTWO;bTHREE;bFOUR;bFIVE;bSIX;bSEVEN;bEIGHT;bNINE;aCOLON
aSEMICOLON;aLESS-THAN SIGN;aEQUALS+a;aGREATER-THAN+a;aQUESTION MARK;aCOMMERCIAL AT
aLATIN CAPITAL LETTER A;dB;dC;dD;dE;dF;dG;dH;dI;dJ;dK;dL;dM;dN;dO;dP;dQ;dR;dS;dT;dU;dV;dW;dX;dY
dZ;aLEFT SQUARE BRACKET;aREVERSE SOLIDUS;aRIGHT SQUARE BRACKET;aCIRCUMFLEX ACCENT;aLOW LINE
aGRAVE ACCENT;aLATIN SMALL LETTER A;dB;dC;dD;dE;dF;dG;dH;dI;dJ;dK;dL;dM;dN;dO;dP;dQ;dR;dS;dT;dU
dV;dW;dX;dY;dZ;aLEFT CURLY BRACKET;aVERTICAL LINE;aRIGHT CURLY BRACKET;aTILDE;CANCEL TAG"),
   (0xE0100, "VARIATION SELECTOR-17;aSELECTOR-18;aSELECTOR-19;aSELECTOR-20;aSELECTOR-21
aSELECTOR-22;aSELECTOR-23;aSELECTOR-24;aSELECTOR-25;aSELECTOR-26;aSELECTOR-27;aSELECTOR-28
aSELECTOR-29;aSELECTOR-30;aSELECTOR-31;aSELECTOR-32;aSELECTOR-33;aSELECTOR-34;aSELECTOR-35
aSELECTOR-36;aSELECTOR-37;aSELECTOR-38;aSELECTOR-39;aSELECTOR-40;aSELECTOR-41;aSELECTOR-42
aSELECTOR-43;aSELECTOR-44;aSELECTOR-45;aSELECTOR-46;aSELECTOR-47;aSELECTOR-48;aSELECTOR-49
aSELECTOR-50;aSELECTOR-51;aSELECTOR-52;aSELECTOR-53;aSELECTOR-54;aSELECTOR-55;aSELECTOR-56
aSELECTOR-57;aSELECTOR-58;aSELECTOR-59;aSELECTOR-60;aSELECTOR-61;aSELECTOR-62;aSELECTOR-63
aSELECTOR-64;aSELECTOR-65;aSELECTOR-66;aSELECTOR-67;aSELECTOR-68;aSELECTOR-69;aSELECTOR-70
aSELECTOR-71;aSELECTOR-72;aSELECTOR-73;aSELECTOR-74;aSELECTOR-75;aSELECTOR-76;aSELECTOR-77
aSELECTOR-78;aSELECTOR-79;aSELECTOR-80;aSELECTOR-81;aSELECTOR-82;aSELECTOR-83;aSELECTOR-84
aSELECTOR-85;aSELECTOR-86;aSELECTOR-87;aSELECTOR-88;aSELECTOR-89;aSELECTOR-90;aSELECTOR-91
aSELECTOR-92;aSELECTOR-93;aSELECTOR-94;aSELECTOR-95;aSELECTOR-96;aSELECTOR-97;aSELECTOR-98
aSELECTOR-99;aSELECTOR-100;aSELECTOR-101;aSELECTOR-102;aSELECTOR-103;aSELECTOR-104
aSELECTOR-105;aSELECTOR-106;aSELECTOR-107;aSELECTOR-108;aSELECTOR-109;aSELECTOR-110
aSELECTOR-111;aSELECTOR-112;aSELECTOR-113;aSELECTOR-114;aSELECTOR-115;aSELECTOR-116
aSELECTOR-117;aSELECTOR-118;aSELECTOR-119;aSELECTOR-120;aSELECTOR-121;aSELECTOR-122
aSELECTOR-123;aSELECTOR-124;aSELECTOR-125;aSELECTOR-126;aSELECTOR-127;aSELECTOR-128
aSELECTOR-129;aSELECTOR-130;aSELECTOR-131;aSELECTOR-132;aSELECTOR-133;aSELECTOR-134
aSELECTOR-135;aSELECTOR-136;aSELECTOR-137;aSELECTOR-138;aSELECTOR-139;aSELECTOR-140
aSELECTOR-141;aSELECTOR-142;aSELECTOR-143;aSELECTOR-144;aSELECTOR-145;aSELECTOR-146
aSELECTOR-147;aSELECTOR-148;aSELECTOR-149;aSELECTOR-150;aSELECTOR-151;aSELECTOR-152
aSELECTOR-153;aSELECTOR-154;aSELECTOR-155;aSELECTOR-156;aSELECTOR-157;aSELECTOR-158
aSELECTOR-159;aSELECTOR-160;aSELECTOR-161;aSELECTOR-162;aSELECTOR-163;aSELECTOR-164
aSELECTOR-165;aSELECTOR-166;aSELECTOR-167;aSELECTOR-168;aSELECTOR-169;aSELECTOR-170
aSELECTOR-171;aSELECTOR-172;aSELECTOR-173;aSELECTOR-174;aSELECTOR-175;aSELECTOR-176
aSELECTOR-177;aSELECTOR-178;aSELECTOR-179;aSELECTOR-180;aSELECTOR-181;aSELECTOR-182
aSELECTOR-183;aSELECTOR-184;aSELECTOR-185;aSELECTOR-186;aSELECTOR-187;aSELECTOR-188
aSELECTOR-189;aSELECTOR-190;aSELECTOR-191;aSELECTOR-192;aSELECTOR-193;aSELECTOR-194
aSELECTOR-195;aSELECTOR-196;aSELECTOR-197;aSELECTOR-198;aSELECTOR-199;aSELECTOR-200
aSELECTOR-201;aSELECTOR-202;aSELECTOR-203;aSELECTOR-204;aSELECTOR-205;aSELECTOR-206
aSELECTOR-207;aSELECTOR-208;aSELECTOR-209;aSELECTOR-210;aSELECTOR-211;aSELECTOR-212
aSELECTOR-213;aSELECTOR-214;aSELECTOR-215;aSELECTOR-216;aSELECTOR-217;aSELECTOR-218
aSELECTOR-219;aSELECTOR-220;aSELECTOR-221;aSELECTOR-222;aSELECTOR-223;aSELECTOR-224
aSELECTOR-225;aSELECTOR-226;aSELECTOR-227;aSELECTOR-228;aSELECTOR-229;aSELECTOR-230
aSELECTOR-231;aSELECTOR-232;aSELECTOR-233;aSELECTOR-234;aSELECTOR-235;aSELECTOR-236
aSELECTOR-237;aSELECTOR-238;aSELECTOR-239;aSELECTOR-240;aSELECTOR-241;aSELECTOR-242
aSELECTOR-243;aSELECTOR-244;aSELECTOR-245;aSELECTOR-246;aSELECTOR-247;aSELECTOR-248
aSELECTOR-249;aSELECTOR-250;aSELECTOR-251;aSELECTOR-252;aSELECTOR-253;aSELECTOR-254
aSELECTOR-255;aSELECTOR-256")]

/-- Other names of characters, controls among them. -/
def nameAliases : List (Nat × String) :=
  [(0x0, "NULL;NUL"), (0x1, "START OF HEADING;SOH"), (0x2, "START OF TEXT;STX"),
   (0x3, "END OF TEXT;ETX"), (0x4, "END OF TRANSMISSION;EOT"), (0x5, "ENQUIRY;ENQ"),
   (0x6, "ACKNOWLEDGE;ACK"), (0x7, "ALERT;BEL"), (0x8, "BACKSPACE;BS"),
   (0x9, "CHARACTER TABULATION;HORIZONTAL TABULATION;HT;TAB"),
   (0xA, "LINE FEED;NEW LINE;END OF LINE;LF;NL;EOL"),
   (0xB, "LINE TABULATION;VERTICAL TABULATION;VT"), (0xC, "FORM FEED;FF"),
   (0xD, "CARRIAGE RETURN;CR"), (0xE, "SHIFT OUT;LOCKING-SHIFT ONE;SO"),
   (0xF, "SHIFT IN;LOCKING-SHIFT ZERO;SI"), (0x10, "DATA LINK ESCAPE;DLE"),
   (0x11, "DEVICE CONTROL ONE;DC1"), (0x12, "DEVICE CONTROL TWO;DC2"),
   (0x13, "DEVICE CONTROL THREE;DC3"), (0x14, "DEVICE CONTROL FOUR;DC4"),
   (0x15, "NEGATIVE ACKNOWLEDGE;NAK"), (0x16, "SYNCHRONOUS IDLE;SYN"),
   (0x17, "END OF TRANSMISSION BLOCK;ETB"), (0x18, "CANCEL;CAN"), (0x19, "END OF MEDIUM;EOM"),
   (0x1A, "SUBSTITUTE;SUB"), (0x1B, "ESCAPE;ESC"),
   (0x1C, "INFORMATION SEPARATOR FOUR;FILE SEPARATOR;FS"),
   (0x1D, "INFORMATION SEPARATOR THREE;GROUP SEPARATOR;GS"),
   (0x1E, "INFORMATION SEPARATOR TWO;RECORD SEPARATOR;RS"),
   (0x1F, "INFORMATION SEPARATOR ONE;UNIT SEPARATOR;US"), (0x20, "SP"), (0x7F, "DELETE;DEL"),
   (0x80, "PADDING CHARACTER;PAD"), (0x81, "HIGH OCTET PRESET;HOP"),
   (0x82, "BREAK PERMITTED HERE;BPH"), (0x83, "NO BREAK HERE;NBH"), (0x84, "INDEX;IND"),
   (0x85, "NEXT LINE;NEL"), (0x86, "START OF SELECTED AREA;SSA"),
   (0x87, "END OF SELECTED AREA;ESA"),
   (0x88, "CHARACTER TABULATION SET;HORIZONTAL TABULATION SET;HTS"),
   (0x89, "CHARACTER TABULATION WITH JUSTIFICATION;HORIZONTAL TABULATION WITH JUSTIFICATION;HTJ"),
   (0x8A, "LINE TABULATION SET;VERTICAL TABULATION SET;VTS"),
   (0x8B, "PARTIAL LINE FORWARD;PARTIAL LINE DOWN;PLD"),
   (0x8C, "PARTIAL LINE BACKWARD;PARTIAL LINE UP;PLU"),
   (0x8D, "REVERSE LINE FEED;REVERSE INDEX;RI"), (0x8E, "SINGLE SHIFT TWO;SINGLE-SHIFT-2;SS2"),
   (0x8F, "SINGLE SHIFT THREE;SINGLE-SHIFT-3;SS3"), (0x90, "DEVICE CONTROL STRING;DCS"),
   (0x91, "PRIVATE USE ONE;PRIVATE USE-1;PU1"), (0x92, "PRIVATE USE TWO;PRIVATE USE-2;PU2"),
   (0x93, "SET TRANSMIT STATE;STS"), (0x94, "CANCEL CHARACTER;CCH"), (0x95, "MESSAGE WAITING;MW"),
   (0x96, "START OF GUARDED AREA;START OF PROTECTED AREA;SPA"),
   (0x97, "END OF GUARDED AREA;END OF PROTECTED AREA;EPA"), (0x98, "START OF STRING;SOS"),
   (0x99, "SINGLE GRAPHIC CHARACTER INTRODUCER;SGC"), (0x9A, "SINGLE CHARACTER INTRODUCER;SCI"),
   (0x9B, "CONTROL SEQUENCE INTRODUCER;CSI"), (0x9C, "STRING TERMINATOR;ST"),
   (0x9D, "OPERATING SYSTEM COMMAND;OSC"), (0x9E, "PRIVACY MESSAGE;PM"),
   (0x9F, "APPLICATION PROGRAM COMMAND;APC"), (0xA0, "NBSP"), (0xAD, "SHY"),
   (0x1A2, "LATIN CAPITAL LETTER GHA"), (0x1A3, "LATIN SMALL LETTER GHA"), (0x34F, "CGJ"),
   (0x61C, "ALM"), (0x709, "SYRIAC SUBLINEAR COLON SKEWED LEFT"), (0xCDE, "KANNADA LETTER LLLA"),
   (0xE9D, "LAO LETTER FO FON"), (0xE9F, "LAO LETTER FO FAY"), (0xEA3, "LAO LETTER RO"),
   (0xEA5, "LAO LETTER LO"), (0xFD0, "TIBETAN MARK BKA- SHOG GI MGO RGYAN"),
   (0x11EC, "HANGUL JONGSEONG YESIEUNG-KIYEOK"), (0x11ED, "HANGUL JONGSEONG YESIEUNG-SSANGKIYEOK"),
   (0x11EE, "HANGUL JONGSEONG SSANGYESIEUNG"), (0x11EF, "HANGUL JONGSEONG YESIEUNG-KHIEUKH"),
   (0x180B, "FVS1"), (0x180C, "FVS2"), (0x180D, "FVS3"), (0x180E, "MVS"), (0x180F, "FVS4"),
   (0x200B, "ZWSP"), (0x200C, "ZWNJ"), (0x200D, "ZWJ"), (0x200E, "LRM"), (0x200F, "RLM"),
   (0x202A, "LRE"), (0x202B, "RLE"), (0x202C, "PDF"), (0x202D, "LRO"), (0x202E, "RLO"),
   (0x202F, "NNBSP"), (0x205F, "MMSP"), (0x2060, "WJ"), (0x2066, "LRI"), (0x2067, "RLI"),
   (0x2068, "FSI"), (0x2069, "PDI"), (0x2118, "WEIERSTRASS ELLIPTIC FUNCTION"),
   (0x2448, "MICR ON US SYMBOL"), (0x2449, "MICR DASH SYMBOL"),
   (0x2B7A, "LEFTWARDS TRIANGLE-HEADED ARROW WITH DOUBLE VERTICAL STROKE"),
   (0x2B7C, "RIGHTWARDS TRIANGLE-HEADED ARROW WITH DOUBLE VERTICAL STROKE"),
   (0xA015, "YI SYLLABLE ITERATION MARK"), (0xAA6E, "MYANMAR LETTER KHAMTI LLA"),
   (0xFE18, "PRESENTATION FORM FOR VERTICAL RIGHT WHITE LENTICULAR BRACKET"),
   (0xFEFF, "BYTE ORDER MARK;BOM;ZWNBSP"), (0x122D4, "CUNEIFORM SIGN NU11 TENU"),
   (0x122D5, "CUNEIFORM SIGN NU11 OVER NU11 BUR OVER BUR"),
   (0x16E56, "MEDEFAIDRIN CAPITAL LETTER H"), (0x16E57, "MEDEFAIDRIN CAPITAL LETTER NG"),
   (0x16E76, "MEDEFAIDRIN SMALL LETTER H"), (0x16E77, "MEDEFAIDRIN SMALL LETTER NG"),
   (0x1B001, "HENTAIGANA LETTER E-1"),
   (0x1D0C5, "BYZANTINE MUSICAL SYMBOL FTHORA SKLIRON CHROMA VASIS")]

end ScenarioRunner.Text
