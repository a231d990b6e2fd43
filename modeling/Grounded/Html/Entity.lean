/-!
# Named character references

The names that may stand after an ampersand, with the one or two characters that each stands for.
Some names count without their semicolon as well, and are then listed both ways.
-/

namespace Grounded.Html

/-- A name, the code point it stands for, and the second one, or zero if there is none. -/
abbrev NamedReference := String × Nat × Nat

/-- The names that begin with A. -/
def referencesUpperA : List NamedReference :=
  [("AElig", 0xC6, 0), ("AElig;", 0xC6, 0), ("AMP", 0x26, 0), ("AMP;", 0x26, 0),
   ("Aacute", 0xC1, 0), ("Aacute;", 0xC1, 0), ("Abreve;", 0x102, 0), ("Acirc", 0xC2, 0),
   ("Acirc;", 0xC2, 0), ("Acy;", 0x410, 0), ("Afr;", 0x1D504, 0), ("Agrave", 0xC0, 0),
   ("Agrave;", 0xC0, 0), ("Alpha;", 0x391, 0), ("Amacr;", 0x100, 0), ("And;", 0x2A53, 0),
   ("Aogon;", 0x104, 0), ("Aopf;", 0x1D538, 0), ("ApplyFunction;", 0x2061, 0), ("Aring", 0xC5, 0),
   ("Aring;", 0xC5, 0), ("Ascr;", 0x1D49C, 0), ("Assign;", 0x2254, 0), ("Atilde", 0xC3, 0),
   ("Atilde;", 0xC3, 0), ("Auml", 0xC4, 0), ("Auml;", 0xC4, 0)]

/-- The names that begin with B. -/
def referencesUpperB : List NamedReference :=
  [("Backslash;", 0x2216, 0), ("Barv;", 0x2AE7, 0), ("Barwed;", 0x2306, 0), ("Bcy;", 0x411, 0),
   ("Because;", 0x2235, 0), ("Bernoullis;", 0x212C, 0), ("Beta;", 0x392, 0), ("Bfr;", 0x1D505, 0),
   ("Bopf;", 0x1D539, 0), ("Breve;", 0x2D8, 0), ("Bscr;", 0x212C, 0), ("Bumpeq;", 0x224E, 0)]

/-- The names that begin with C. -/
def referencesUpperC : List NamedReference :=
  [("CHcy;", 0x427, 0), ("COPY", 0xA9, 0), ("COPY;", 0xA9, 0), ("Cacute;", 0x106, 0),
   ("Cap;", 0x22D2, 0), ("CapitalDifferentialD;", 0x2145, 0), ("Cayleys;", 0x212D, 0),
   ("Ccaron;", 0x10C, 0), ("Ccedil", 0xC7, 0), ("Ccedil;", 0xC7, 0), ("Ccirc;", 0x108, 0),
   ("Cconint;", 0x2230, 0), ("Cdot;", 0x10A, 0), ("Cedilla;", 0xB8, 0), ("CenterDot;", 0xB7, 0),
   ("Cfr;", 0x212D, 0), ("Chi;", 0x3A7, 0), ("CircleDot;", 0x2299, 0),
   ("CircleMinus;", 0x2296, 0), ("CirclePlus;", 0x2295, 0), ("CircleTimes;", 0x2297, 0),
   ("ClockwiseContourIntegral;", 0x2232, 0), ("CloseCurlyDoubleQuote;", 0x201D, 0),
   ("CloseCurlyQuote;", 0x2019, 0), ("Colon;", 0x2237, 0), ("Colone;", 0x2A74, 0),
   ("Congruent;", 0x2261, 0), ("Conint;", 0x222F, 0), ("ContourIntegral;", 0x222E, 0),
   ("Copf;", 0x2102, 0), ("Coproduct;", 0x2210, 0),
   ("CounterClockwiseContourIntegral;", 0x2233, 0), ("Cross;", 0x2A2F, 0), ("Cscr;", 0x1D49E, 0),
   ("Cup;", 0x22D3, 0), ("CupCap;", 0x224D, 0)]

/-- The names that begin with D. -/
def referencesUpperD : List NamedReference :=
  [("DD;", 0x2145, 0), ("DDotrahd;", 0x2911, 0), ("DJcy;", 0x402, 0), ("DScy;", 0x405, 0),
   ("DZcy;", 0x40F, 0), ("Dagger;", 0x2021, 0), ("Darr;", 0x21A1, 0), ("Dashv;", 0x2AE4, 0),
   ("Dcaron;", 0x10E, 0), ("Dcy;", 0x414, 0), ("Del;", 0x2207, 0), ("Delta;", 0x394, 0),
   ("Dfr;", 0x1D507, 0), ("DiacriticalAcute;", 0xB4, 0), ("DiacriticalDot;", 0x2D9, 0),
   ("DiacriticalDoubleAcute;", 0x2DD, 0), ("DiacriticalGrave;", 0x60, 0),
   ("DiacriticalTilde;", 0x2DC, 0), ("Diamond;", 0x22C4, 0), ("DifferentialD;", 0x2146, 0),
   ("Dopf;", 0x1D53B, 0), ("Dot;", 0xA8, 0), ("DotDot;", 0x20DC, 0), ("DotEqual;", 0x2250, 0),
   ("DoubleContourIntegral;", 0x222F, 0), ("DoubleDot;", 0xA8, 0),
   ("DoubleDownArrow;", 0x21D3, 0), ("DoubleLeftArrow;", 0x21D0, 0),
   ("DoubleLeftRightArrow;", 0x21D4, 0), ("DoubleLeftTee;", 0x2AE4, 0),
   ("DoubleLongLeftArrow;", 0x27F8, 0), ("DoubleLongLeftRightArrow;", 0x27FA, 0),
   ("DoubleLongRightArrow;", 0x27F9, 0), ("DoubleRightArrow;", 0x21D2, 0),
   ("DoubleRightTee;", 0x22A8, 0), ("DoubleUpArrow;", 0x21D1, 0),
   ("DoubleUpDownArrow;", 0x21D5, 0), ("DoubleVerticalBar;", 0x2225, 0),
   ("DownArrow;", 0x2193, 0), ("DownArrowBar;", 0x2913, 0), ("DownArrowUpArrow;", 0x21F5, 0),
   ("DownBreve;", 0x311, 0), ("DownLeftRightVector;", 0x2950, 0),
   ("DownLeftTeeVector;", 0x295E, 0), ("DownLeftVector;", 0x21BD, 0),
   ("DownLeftVectorBar;", 0x2956, 0), ("DownRightTeeVector;", 0x295F, 0),
   ("DownRightVector;", 0x21C1, 0), ("DownRightVectorBar;", 0x2957, 0), ("DownTee;", 0x22A4, 0),
   ("DownTeeArrow;", 0x21A7, 0), ("Downarrow;", 0x21D3, 0), ("Dscr;", 0x1D49F, 0),
   ("Dstrok;", 0x110, 0)]

/-- The names that begin with E. -/
def referencesUpperE : List NamedReference :=
  [("ENG;", 0x14A, 0), ("ETH", 0xD0, 0), ("ETH;", 0xD0, 0), ("Eacute", 0xC9, 0),
   ("Eacute;", 0xC9, 0), ("Ecaron;", 0x11A, 0), ("Ecirc", 0xCA, 0), ("Ecirc;", 0xCA, 0),
   ("Ecy;", 0x42D, 0), ("Edot;", 0x116, 0), ("Efr;", 0x1D508, 0), ("Egrave", 0xC8, 0),
   ("Egrave;", 0xC8, 0), ("Element;", 0x2208, 0), ("Emacr;", 0x112, 0),
   ("EmptySmallSquare;", 0x25FB, 0), ("EmptyVerySmallSquare;", 0x25AB, 0), ("Eogon;", 0x118, 0),
   ("Eopf;", 0x1D53C, 0), ("Epsilon;", 0x395, 0), ("Equal;", 0x2A75, 0),
   ("EqualTilde;", 0x2242, 0), ("Equilibrium;", 0x21CC, 0), ("Escr;", 0x2130, 0),
   ("Esim;", 0x2A73, 0), ("Eta;", 0x397, 0), ("Euml", 0xCB, 0), ("Euml;", 0xCB, 0),
   ("Exists;", 0x2203, 0), ("ExponentialE;", 0x2147, 0)]

/-- The names that begin with F. -/
def referencesUpperF : List NamedReference :=
  [("Fcy;", 0x424, 0), ("Ffr;", 0x1D509, 0), ("FilledSmallSquare;", 0x25FC, 0),
   ("FilledVerySmallSquare;", 0x25AA, 0), ("Fopf;", 0x1D53D, 0), ("ForAll;", 0x2200, 0),
   ("Fouriertrf;", 0x2131, 0), ("Fscr;", 0x2131, 0)]

/-- The names that begin with G. -/
def referencesUpperG : List NamedReference :=
  [("GJcy;", 0x403, 0), ("GT", 0x3E, 0), ("GT;", 0x3E, 0), ("Gamma;", 0x393, 0),
   ("Gammad;", 0x3DC, 0), ("Gbreve;", 0x11E, 0), ("Gcedil;", 0x122, 0), ("Gcirc;", 0x11C, 0),
   ("Gcy;", 0x413, 0), ("Gdot;", 0x120, 0), ("Gfr;", 0x1D50A, 0), ("Gg;", 0x22D9, 0),
   ("Gopf;", 0x1D53E, 0), ("GreaterEqual;", 0x2265, 0), ("GreaterEqualLess;", 0x22DB, 0),
   ("GreaterFullEqual;", 0x2267, 0), ("GreaterGreater;", 0x2AA2, 0), ("GreaterLess;", 0x2277, 0),
   ("GreaterSlantEqual;", 0x2A7E, 0), ("GreaterTilde;", 0x2273, 0), ("Gscr;", 0x1D4A2, 0),
   ("Gt;", 0x226B, 0)]

/-- The names that begin with H. -/
def referencesUpperH : List NamedReference :=
  [("HARDcy;", 0x42A, 0), ("Hacek;", 0x2C7, 0), ("Hat;", 0x5E, 0), ("Hcirc;", 0x124, 0),
   ("Hfr;", 0x210C, 0), ("HilbertSpace;", 0x210B, 0), ("Hopf;", 0x210D, 0),
   ("HorizontalLine;", 0x2500, 0), ("Hscr;", 0x210B, 0), ("Hstrok;", 0x126, 0),
   ("HumpDownHump;", 0x224E, 0), ("HumpEqual;", 0x224F, 0)]

/-- The names that begin with I. -/
def referencesUpperI : List NamedReference :=
  [("IEcy;", 0x415, 0), ("IJlig;", 0x132, 0), ("IOcy;", 0x401, 0), ("Iacute", 0xCD, 0),
   ("Iacute;", 0xCD, 0), ("Icirc", 0xCE, 0), ("Icirc;", 0xCE, 0), ("Icy;", 0x418, 0),
   ("Idot;", 0x130, 0), ("Ifr;", 0x2111, 0), ("Igrave", 0xCC, 0), ("Igrave;", 0xCC, 0),
   ("Im;", 0x2111, 0), ("Imacr;", 0x12A, 0), ("ImaginaryI;", 0x2148, 0), ("Implies;", 0x21D2, 0),
   ("Int;", 0x222C, 0), ("Integral;", 0x222B, 0), ("Intersection;", 0x22C2, 0),
   ("InvisibleComma;", 0x2063, 0), ("InvisibleTimes;", 0x2062, 0), ("Iogon;", 0x12E, 0),
   ("Iopf;", 0x1D540, 0), ("Iota;", 0x399, 0), ("Iscr;", 0x2110, 0), ("Itilde;", 0x128, 0),
   ("Iukcy;", 0x406, 0), ("Iuml", 0xCF, 0), ("Iuml;", 0xCF, 0)]

/-- The names that begin with J. -/
def referencesUpperJ : List NamedReference :=
  [("Jcirc;", 0x134, 0), ("Jcy;", 0x419, 0), ("Jfr;", 0x1D50D, 0), ("Jopf;", 0x1D541, 0),
   ("Jscr;", 0x1D4A5, 0), ("Jsercy;", 0x408, 0), ("Jukcy;", 0x404, 0)]

/-- The names that begin with K. -/
def referencesUpperK : List NamedReference :=
  [("KHcy;", 0x425, 0), ("KJcy;", 0x40C, 0), ("Kappa;", 0x39A, 0), ("Kcedil;", 0x136, 0),
   ("Kcy;", 0x41A, 0), ("Kfr;", 0x1D50E, 0), ("Kopf;", 0x1D542, 0), ("Kscr;", 0x1D4A6, 0)]

/-- The names that begin with L. -/
def referencesUpperL : List NamedReference :=
  [("LJcy;", 0x409, 0), ("LT", 0x3C, 0), ("LT;", 0x3C, 0), ("Lacute;", 0x139, 0),
   ("Lambda;", 0x39B, 0), ("Lang;", 0x27EA, 0), ("Laplacetrf;", 0x2112, 0), ("Larr;", 0x219E, 0),
   ("Lcaron;", 0x13D, 0), ("Lcedil;", 0x13B, 0), ("Lcy;", 0x41B, 0),
   ("LeftAngleBracket;", 0x27E8, 0), ("LeftArrow;", 0x2190, 0), ("LeftArrowBar;", 0x21E4, 0),
   ("LeftArrowRightArrow;", 0x21C6, 0), ("LeftCeiling;", 0x2308, 0),
   ("LeftDoubleBracket;", 0x27E6, 0), ("LeftDownTeeVector;", 0x2961, 0),
   ("LeftDownVector;", 0x21C3, 0), ("LeftDownVectorBar;", 0x2959, 0), ("LeftFloor;", 0x230A, 0),
   ("LeftRightArrow;", 0x2194, 0), ("LeftRightVector;", 0x294E, 0), ("LeftTee;", 0x22A3, 0),
   ("LeftTeeArrow;", 0x21A4, 0), ("LeftTeeVector;", 0x295A, 0), ("LeftTriangle;", 0x22B2, 0),
   ("LeftTriangleBar;", 0x29CF, 0), ("LeftTriangleEqual;", 0x22B4, 0),
   ("LeftUpDownVector;", 0x2951, 0), ("LeftUpTeeVector;", 0x2960, 0),
   ("LeftUpVector;", 0x21BF, 0), ("LeftUpVectorBar;", 0x2958, 0), ("LeftVector;", 0x21BC, 0),
   ("LeftVectorBar;", 0x2952, 0), ("Leftarrow;", 0x21D0, 0), ("Leftrightarrow;", 0x21D4, 0),
   ("LessEqualGreater;", 0x22DA, 0), ("LessFullEqual;", 0x2266, 0), ("LessGreater;", 0x2276, 0),
   ("LessLess;", 0x2AA1, 0), ("LessSlantEqual;", 0x2A7D, 0), ("LessTilde;", 0x2272, 0),
   ("Lfr;", 0x1D50F, 0), ("Ll;", 0x22D8, 0), ("Lleftarrow;", 0x21DA, 0), ("Lmidot;", 0x13F, 0),
   ("LongLeftArrow;", 0x27F5, 0), ("LongLeftRightArrow;", 0x27F7, 0),
   ("LongRightArrow;", 0x27F6, 0), ("Longleftarrow;", 0x27F8, 0),
   ("Longleftrightarrow;", 0x27FA, 0), ("Longrightarrow;", 0x27F9, 0), ("Lopf;", 0x1D543, 0),
   ("LowerLeftArrow;", 0x2199, 0), ("LowerRightArrow;", 0x2198, 0), ("Lscr;", 0x2112, 0),
   ("Lsh;", 0x21B0, 0), ("Lstrok;", 0x141, 0), ("Lt;", 0x226A, 0)]

/-- The names that begin with M. -/
def referencesUpperM : List NamedReference :=
  [("Map;", 0x2905, 0), ("Mcy;", 0x41C, 0), ("MediumSpace;", 0x205F, 0),
   ("Mellintrf;", 0x2133, 0), ("Mfr;", 0x1D510, 0), ("MinusPlus;", 0x2213, 0),
   ("Mopf;", 0x1D544, 0), ("Mscr;", 0x2133, 0), ("Mu;", 0x39C, 0)]

/-- The names that begin with N. -/
def referencesUpperN : List NamedReference :=
  [("NJcy;", 0x40A, 0), ("Nacute;", 0x143, 0), ("Ncaron;", 0x147, 0), ("Ncedil;", 0x145, 0),
   ("Ncy;", 0x41D, 0), ("NegativeMediumSpace;", 0x200B, 0), ("NegativeThickSpace;", 0x200B, 0),
   ("NegativeThinSpace;", 0x200B, 0), ("NegativeVeryThinSpace;", 0x200B, 0),
   ("NestedGreaterGreater;", 0x226B, 0), ("NestedLessLess;", 0x226A, 0), ("NewLine;", 0xA, 0),
   ("Nfr;", 0x1D511, 0), ("NoBreak;", 0x2060, 0), ("NonBreakingSpace;", 0xA0, 0),
   ("Nopf;", 0x2115, 0), ("Not;", 0x2AEC, 0), ("NotCongruent;", 0x2262, 0),
   ("NotCupCap;", 0x226D, 0), ("NotDoubleVerticalBar;", 0x2226, 0), ("NotElement;", 0x2209, 0),
   ("NotEqual;", 0x2260, 0), ("NotEqualTilde;", 0x2242, 0x338), ("NotExists;", 0x2204, 0),
   ("NotGreater;", 0x226F, 0), ("NotGreaterEqual;", 0x2271, 0),
   ("NotGreaterFullEqual;", 0x2267, 0x338), ("NotGreaterGreater;", 0x226B, 0x338),
   ("NotGreaterLess;", 0x2279, 0), ("NotGreaterSlantEqual;", 0x2A7E, 0x338),
   ("NotGreaterTilde;", 0x2275, 0), ("NotHumpDownHump;", 0x224E, 0x338),
   ("NotHumpEqual;", 0x224F, 0x338), ("NotLeftTriangle;", 0x22EA, 0),
   ("NotLeftTriangleBar;", 0x29CF, 0x338), ("NotLeftTriangleEqual;", 0x22EC, 0),
   ("NotLess;", 0x226E, 0), ("NotLessEqual;", 0x2270, 0), ("NotLessGreater;", 0x2278, 0),
   ("NotLessLess;", 0x226A, 0x338), ("NotLessSlantEqual;", 0x2A7D, 0x338),
   ("NotLessTilde;", 0x2274, 0), ("NotNestedGreaterGreater;", 0x2AA2, 0x338),
   ("NotNestedLessLess;", 0x2AA1, 0x338), ("NotPrecedes;", 0x2280, 0),
   ("NotPrecedesEqual;", 0x2AAF, 0x338), ("NotPrecedesSlantEqual;", 0x22E0, 0),
   ("NotReverseElement;", 0x220C, 0), ("NotRightTriangle;", 0x22EB, 0),
   ("NotRightTriangleBar;", 0x29D0, 0x338), ("NotRightTriangleEqual;", 0x22ED, 0),
   ("NotSquareSubset;", 0x228F, 0x338), ("NotSquareSubsetEqual;", 0x22E2, 0),
   ("NotSquareSuperset;", 0x2290, 0x338), ("NotSquareSupersetEqual;", 0x22E3, 0),
   ("NotSubset;", 0x2282, 0x20D2), ("NotSubsetEqual;", 0x2288, 0), ("NotSucceeds;", 0x2281, 0),
   ("NotSucceedsEqual;", 0x2AB0, 0x338), ("NotSucceedsSlantEqual;", 0x22E1, 0),
   ("NotSucceedsTilde;", 0x227F, 0x338), ("NotSuperset;", 0x2283, 0x20D2),
   ("NotSupersetEqual;", 0x2289, 0), ("NotTilde;", 0x2241, 0), ("NotTildeEqual;", 0x2244, 0),
   ("NotTildeFullEqual;", 0x2247, 0), ("NotTildeTilde;", 0x2249, 0),
   ("NotVerticalBar;", 0x2224, 0), ("Nscr;", 0x1D4A9, 0), ("Ntilde", 0xD1, 0),
   ("Ntilde;", 0xD1, 0), ("Nu;", 0x39D, 0)]

/-- The names that begin with O. -/
def referencesUpperO : List NamedReference :=
  [("OElig;", 0x152, 0), ("Oacute", 0xD3, 0), ("Oacute;", 0xD3, 0), ("Ocirc", 0xD4, 0),
   ("Ocirc;", 0xD4, 0), ("Ocy;", 0x41E, 0), ("Odblac;", 0x150, 0), ("Ofr;", 0x1D512, 0),
   ("Ograve", 0xD2, 0), ("Ograve;", 0xD2, 0), ("Omacr;", 0x14C, 0), ("Omega;", 0x3A9, 0),
   ("Omicron;", 0x39F, 0), ("Oopf;", 0x1D546, 0), ("OpenCurlyDoubleQuote;", 0x201C, 0),
   ("OpenCurlyQuote;", 0x2018, 0), ("Or;", 0x2A54, 0), ("Oscr;", 0x1D4AA, 0), ("Oslash", 0xD8, 0),
   ("Oslash;", 0xD8, 0), ("Otilde", 0xD5, 0), ("Otilde;", 0xD5, 0), ("Otimes;", 0x2A37, 0),
   ("Ouml", 0xD6, 0), ("Ouml;", 0xD6, 0), ("OverBar;", 0x203E, 0), ("OverBrace;", 0x23DE, 0),
   ("OverBracket;", 0x23B4, 0), ("OverParenthesis;", 0x23DC, 0)]

/-- The names that begin with P. -/
def referencesUpperP : List NamedReference :=
  [("PartialD;", 0x2202, 0), ("Pcy;", 0x41F, 0), ("Pfr;", 0x1D513, 0), ("Phi;", 0x3A6, 0),
   ("Pi;", 0x3A0, 0), ("PlusMinus;", 0xB1, 0), ("Poincareplane;", 0x210C, 0),
   ("Popf;", 0x2119, 0), ("Pr;", 0x2ABB, 0), ("Precedes;", 0x227A, 0),
   ("PrecedesEqual;", 0x2AAF, 0), ("PrecedesSlantEqual;", 0x227C, 0),
   ("PrecedesTilde;", 0x227E, 0), ("Prime;", 0x2033, 0), ("Product;", 0x220F, 0),
   ("Proportion;", 0x2237, 0), ("Proportional;", 0x221D, 0), ("Pscr;", 0x1D4AB, 0),
   ("Psi;", 0x3A8, 0)]

/-- The names that begin with Q. -/
def referencesUpperQ : List NamedReference :=
  [("QUOT", 0x22, 0), ("QUOT;", 0x22, 0), ("Qfr;", 0x1D514, 0), ("Qopf;", 0x211A, 0),
   ("Qscr;", 0x1D4AC, 0)]

/-- The names that begin with R. -/
def referencesUpperR : List NamedReference :=
  [("RBarr;", 0x2910, 0), ("REG", 0xAE, 0), ("REG;", 0xAE, 0), ("Racute;", 0x154, 0),
   ("Rang;", 0x27EB, 0), ("Rarr;", 0x21A0, 0), ("Rarrtl;", 0x2916, 0), ("Rcaron;", 0x158, 0),
   ("Rcedil;", 0x156, 0), ("Rcy;", 0x420, 0), ("Re;", 0x211C, 0), ("ReverseElement;", 0x220B, 0),
   ("ReverseEquilibrium;", 0x21CB, 0), ("ReverseUpEquilibrium;", 0x296F, 0), ("Rfr;", 0x211C, 0),
   ("Rho;", 0x3A1, 0), ("RightAngleBracket;", 0x27E9, 0), ("RightArrow;", 0x2192, 0),
   ("RightArrowBar;", 0x21E5, 0), ("RightArrowLeftArrow;", 0x21C4, 0),
   ("RightCeiling;", 0x2309, 0), ("RightDoubleBracket;", 0x27E7, 0),
   ("RightDownTeeVector;", 0x295D, 0), ("RightDownVector;", 0x21C2, 0),
   ("RightDownVectorBar;", 0x2955, 0), ("RightFloor;", 0x230B, 0), ("RightTee;", 0x22A2, 0),
   ("RightTeeArrow;", 0x21A6, 0), ("RightTeeVector;", 0x295B, 0), ("RightTriangle;", 0x22B3, 0),
   ("RightTriangleBar;", 0x29D0, 0), ("RightTriangleEqual;", 0x22B5, 0),
   ("RightUpDownVector;", 0x294F, 0), ("RightUpTeeVector;", 0x295C, 0),
   ("RightUpVector;", 0x21BE, 0), ("RightUpVectorBar;", 0x2954, 0), ("RightVector;", 0x21C0, 0),
   ("RightVectorBar;", 0x2953, 0), ("Rightarrow;", 0x21D2, 0), ("Ropf;", 0x211D, 0),
   ("RoundImplies;", 0x2970, 0), ("Rrightarrow;", 0x21DB, 0), ("Rscr;", 0x211B, 0),
   ("Rsh;", 0x21B1, 0), ("RuleDelayed;", 0x29F4, 0)]

/-- The names that begin with S. -/
def referencesUpperS : List NamedReference :=
  [("SHCHcy;", 0x429, 0), ("SHcy;", 0x428, 0), ("SOFTcy;", 0x42C, 0), ("Sacute;", 0x15A, 0),
   ("Sc;", 0x2ABC, 0), ("Scaron;", 0x160, 0), ("Scedil;", 0x15E, 0), ("Scirc;", 0x15C, 0),
   ("Scy;", 0x421, 0), ("Sfr;", 0x1D516, 0), ("ShortDownArrow;", 0x2193, 0),
   ("ShortLeftArrow;", 0x2190, 0), ("ShortRightArrow;", 0x2192, 0), ("ShortUpArrow;", 0x2191, 0),
   ("Sigma;", 0x3A3, 0), ("SmallCircle;", 0x2218, 0), ("Sopf;", 0x1D54A, 0), ("Sqrt;", 0x221A, 0),
   ("Square;", 0x25A1, 0), ("SquareIntersection;", 0x2293, 0), ("SquareSubset;", 0x228F, 0),
   ("SquareSubsetEqual;", 0x2291, 0), ("SquareSuperset;", 0x2290, 0),
   ("SquareSupersetEqual;", 0x2292, 0), ("SquareUnion;", 0x2294, 0), ("Sscr;", 0x1D4AE, 0),
   ("Star;", 0x22C6, 0), ("Sub;", 0x22D0, 0), ("Subset;", 0x22D0, 0), ("SubsetEqual;", 0x2286, 0),
   ("Succeeds;", 0x227B, 0), ("SucceedsEqual;", 0x2AB0, 0), ("SucceedsSlantEqual;", 0x227D, 0),
   ("SucceedsTilde;", 0x227F, 0), ("SuchThat;", 0x220B, 0), ("Sum;", 0x2211, 0),
   ("Sup;", 0x22D1, 0), ("Superset;", 0x2283, 0), ("SupersetEqual;", 0x2287, 0),
   ("Supset;", 0x22D1, 0)]

/-- The names that begin with T. -/
def referencesUpperT : List NamedReference :=
  [("THORN", 0xDE, 0), ("THORN;", 0xDE, 0), ("TRADE;", 0x2122, 0), ("TSHcy;", 0x40B, 0),
   ("TScy;", 0x426, 0), ("Tab;", 0x9, 0), ("Tau;", 0x3A4, 0), ("Tcaron;", 0x164, 0),
   ("Tcedil;", 0x162, 0), ("Tcy;", 0x422, 0), ("Tfr;", 0x1D517, 0), ("Therefore;", 0x2234, 0),
   ("Theta;", 0x398, 0), ("ThickSpace;", 0x205F, 0x200A), ("ThinSpace;", 0x2009, 0),
   ("Tilde;", 0x223C, 0), ("TildeEqual;", 0x2243, 0), ("TildeFullEqual;", 0x2245, 0),
   ("TildeTilde;", 0x2248, 0), ("Topf;", 0x1D54B, 0), ("TripleDot;", 0x20DB, 0),
   ("Tscr;", 0x1D4AF, 0), ("Tstrok;", 0x166, 0)]

/-- The names that begin with U. -/
def referencesUpperU : List NamedReference :=
  [("Uacute", 0xDA, 0), ("Uacute;", 0xDA, 0), ("Uarr;", 0x219F, 0), ("Uarrocir;", 0x2949, 0),
   ("Ubrcy;", 0x40E, 0), ("Ubreve;", 0x16C, 0), ("Ucirc", 0xDB, 0), ("Ucirc;", 0xDB, 0),
   ("Ucy;", 0x423, 0), ("Udblac;", 0x170, 0), ("Ufr;", 0x1D518, 0), ("Ugrave", 0xD9, 0),
   ("Ugrave;", 0xD9, 0), ("Umacr;", 0x16A, 0), ("UnderBar;", 0x5F, 0), ("UnderBrace;", 0x23DF, 0),
   ("UnderBracket;", 0x23B5, 0), ("UnderParenthesis;", 0x23DD, 0), ("Union;", 0x22C3, 0),
   ("UnionPlus;", 0x228E, 0), ("Uogon;", 0x172, 0), ("Uopf;", 0x1D54C, 0),
   ("UpArrow;", 0x2191, 0), ("UpArrowBar;", 0x2912, 0), ("UpArrowDownArrow;", 0x21C5, 0),
   ("UpDownArrow;", 0x2195, 0), ("UpEquilibrium;", 0x296E, 0), ("UpTee;", 0x22A5, 0),
   ("UpTeeArrow;", 0x21A5, 0), ("Uparrow;", 0x21D1, 0), ("Updownarrow;", 0x21D5, 0),
   ("UpperLeftArrow;", 0x2196, 0), ("UpperRightArrow;", 0x2197, 0), ("Upsi;", 0x3D2, 0),
   ("Upsilon;", 0x3A5, 0), ("Uring;", 0x16E, 0), ("Uscr;", 0x1D4B0, 0), ("Utilde;", 0x168, 0),
   ("Uuml", 0xDC, 0), ("Uuml;", 0xDC, 0)]

/-- The names that begin with V. -/
def referencesUpperV : List NamedReference :=
  [("VDash;", 0x22AB, 0), ("Vbar;", 0x2AEB, 0), ("Vcy;", 0x412, 0), ("Vdash;", 0x22A9, 0),
   ("Vdashl;", 0x2AE6, 0), ("Vee;", 0x22C1, 0), ("Verbar;", 0x2016, 0), ("Vert;", 0x2016, 0),
   ("VerticalBar;", 0x2223, 0), ("VerticalLine;", 0x7C, 0), ("VerticalSeparator;", 0x2758, 0),
   ("VerticalTilde;", 0x2240, 0), ("VeryThinSpace;", 0x200A, 0), ("Vfr;", 0x1D519, 0),
   ("Vopf;", 0x1D54D, 0), ("Vscr;", 0x1D4B1, 0), ("Vvdash;", 0x22AA, 0)]

/-- The names that begin with W. -/
def referencesUpperW : List NamedReference :=
  [("Wcirc;", 0x174, 0), ("Wedge;", 0x22C0, 0), ("Wfr;", 0x1D51A, 0), ("Wopf;", 0x1D54E, 0),
   ("Wscr;", 0x1D4B2, 0)]

/-- The names that begin with X. -/
def referencesUpperX : List NamedReference :=
  [("Xfr;", 0x1D51B, 0), ("Xi;", 0x39E, 0), ("Xopf;", 0x1D54F, 0), ("Xscr;", 0x1D4B3, 0)]

/-- The names that begin with Y. -/
def referencesUpperY : List NamedReference :=
  [("YAcy;", 0x42F, 0), ("YIcy;", 0x407, 0), ("YUcy;", 0x42E, 0), ("Yacute", 0xDD, 0),
   ("Yacute;", 0xDD, 0), ("Ycirc;", 0x176, 0), ("Ycy;", 0x42B, 0), ("Yfr;", 0x1D51C, 0),
   ("Yopf;", 0x1D550, 0), ("Yscr;", 0x1D4B4, 0), ("Yuml;", 0x178, 0)]

/-- The names that begin with Z. -/
def referencesUpperZ : List NamedReference :=
  [("ZHcy;", 0x416, 0), ("Zacute;", 0x179, 0), ("Zcaron;", 0x17D, 0), ("Zcy;", 0x417, 0),
   ("Zdot;", 0x17B, 0), ("ZeroWidthSpace;", 0x200B, 0), ("Zeta;", 0x396, 0), ("Zfr;", 0x2128, 0),
   ("Zopf;", 0x2124, 0), ("Zscr;", 0x1D4B5, 0)]

/-- The names that begin with a. -/
def referencesLowerA : List NamedReference :=
  [("aacute", 0xE1, 0), ("aacute;", 0xE1, 0), ("abreve;", 0x103, 0), ("ac;", 0x223E, 0),
   ("acE;", 0x223E, 0x333), ("acd;", 0x223F, 0), ("acirc", 0xE2, 0), ("acirc;", 0xE2, 0),
   ("acute", 0xB4, 0), ("acute;", 0xB4, 0), ("acy;", 0x430, 0), ("aelig", 0xE6, 0),
   ("aelig;", 0xE6, 0), ("af;", 0x2061, 0), ("afr;", 0x1D51E, 0), ("agrave", 0xE0, 0),
   ("agrave;", 0xE0, 0), ("alefsym;", 0x2135, 0), ("aleph;", 0x2135, 0), ("alpha;", 0x3B1, 0),
   ("amacr;", 0x101, 0), ("amalg;", 0x2A3F, 0), ("amp", 0x26, 0), ("amp;", 0x26, 0),
   ("and;", 0x2227, 0), ("andand;", 0x2A55, 0), ("andd;", 0x2A5C, 0), ("andslope;", 0x2A58, 0),
   ("andv;", 0x2A5A, 0), ("ang;", 0x2220, 0), ("ange;", 0x29A4, 0), ("angle;", 0x2220, 0),
   ("angmsd;", 0x2221, 0), ("angmsdaa;", 0x29A8, 0), ("angmsdab;", 0x29A9, 0),
   ("angmsdac;", 0x29AA, 0), ("angmsdad;", 0x29AB, 0), ("angmsdae;", 0x29AC, 0),
   ("angmsdaf;", 0x29AD, 0), ("angmsdag;", 0x29AE, 0), ("angmsdah;", 0x29AF, 0),
   ("angrt;", 0x221F, 0), ("angrtvb;", 0x22BE, 0), ("angrtvbd;", 0x299D, 0),
   ("angsph;", 0x2222, 0), ("angst;", 0xC5, 0), ("angzarr;", 0x237C, 0), ("aogon;", 0x105, 0),
   ("aopf;", 0x1D552, 0), ("ap;", 0x2248, 0), ("apE;", 0x2A70, 0), ("apacir;", 0x2A6F, 0),
   ("ape;", 0x224A, 0), ("apid;", 0x224B, 0), ("apos;", 0x27, 0), ("approx;", 0x2248, 0),
   ("approxeq;", 0x224A, 0), ("aring", 0xE5, 0), ("aring;", 0xE5, 0), ("ascr;", 0x1D4B6, 0),
   ("ast;", 0x2A, 0), ("asymp;", 0x2248, 0), ("asympeq;", 0x224D, 0), ("atilde", 0xE3, 0),
   ("atilde;", 0xE3, 0), ("auml", 0xE4, 0), ("auml;", 0xE4, 0), ("awconint;", 0x2233, 0),
   ("awint;", 0x2A11, 0)]

/-- The names that begin with b. -/
def referencesLowerB : List NamedReference :=
  [("bNot;", 0x2AED, 0), ("backcong;", 0x224C, 0), ("backepsilon;", 0x3F6, 0),
   ("backprime;", 0x2035, 0), ("backsim;", 0x223D, 0), ("backsimeq;", 0x22CD, 0),
   ("barvee;", 0x22BD, 0), ("barwed;", 0x2305, 0), ("barwedge;", 0x2305, 0), ("bbrk;", 0x23B5, 0),
   ("bbrktbrk;", 0x23B6, 0), ("bcong;", 0x224C, 0), ("bcy;", 0x431, 0), ("bdquo;", 0x201E, 0),
   ("becaus;", 0x2235, 0), ("because;", 0x2235, 0), ("bemptyv;", 0x29B0, 0), ("bepsi;", 0x3F6, 0),
   ("bernou;", 0x212C, 0), ("beta;", 0x3B2, 0), ("beth;", 0x2136, 0), ("between;", 0x226C, 0),
   ("bfr;", 0x1D51F, 0), ("bigcap;", 0x22C2, 0), ("bigcirc;", 0x25EF, 0), ("bigcup;", 0x22C3, 0),
   ("bigodot;", 0x2A00, 0), ("bigoplus;", 0x2A01, 0), ("bigotimes;", 0x2A02, 0),
   ("bigsqcup;", 0x2A06, 0), ("bigstar;", 0x2605, 0), ("bigtriangledown;", 0x25BD, 0),
   ("bigtriangleup;", 0x25B3, 0), ("biguplus;", 0x2A04, 0), ("bigvee;", 0x22C1, 0),
   ("bigwedge;", 0x22C0, 0), ("bkarow;", 0x290D, 0), ("blacklozenge;", 0x29EB, 0),
   ("blacksquare;", 0x25AA, 0), ("blacktriangle;", 0x25B4, 0), ("blacktriangledown;", 0x25BE, 0),
   ("blacktriangleleft;", 0x25C2, 0), ("blacktriangleright;", 0x25B8, 0), ("blank;", 0x2423, 0),
   ("blk12;", 0x2592, 0), ("blk14;", 0x2591, 0), ("blk34;", 0x2593, 0), ("block;", 0x2588, 0),
   ("bne;", 0x3D, 0x20E5), ("bnequiv;", 0x2261, 0x20E5), ("bnot;", 0x2310, 0),
   ("bopf;", 0x1D553, 0), ("bot;", 0x22A5, 0), ("bottom;", 0x22A5, 0), ("bowtie;", 0x22C8, 0),
   ("boxDL;", 0x2557, 0), ("boxDR;", 0x2554, 0), ("boxDl;", 0x2556, 0), ("boxDr;", 0x2553, 0),
   ("boxH;", 0x2550, 0), ("boxHD;", 0x2566, 0), ("boxHU;", 0x2569, 0), ("boxHd;", 0x2564, 0),
   ("boxHu;", 0x2567, 0), ("boxUL;", 0x255D, 0), ("boxUR;", 0x255A, 0), ("boxUl;", 0x255C, 0),
   ("boxUr;", 0x2559, 0), ("boxV;", 0x2551, 0), ("boxVH;", 0x256C, 0), ("boxVL;", 0x2563, 0),
   ("boxVR;", 0x2560, 0), ("boxVh;", 0x256B, 0), ("boxVl;", 0x2562, 0), ("boxVr;", 0x255F, 0),
   ("boxbox;", 0x29C9, 0), ("boxdL;", 0x2555, 0), ("boxdR;", 0x2552, 0), ("boxdl;", 0x2510, 0),
   ("boxdr;", 0x250C, 0), ("boxh;", 0x2500, 0), ("boxhD;", 0x2565, 0), ("boxhU;", 0x2568, 0),
   ("boxhd;", 0x252C, 0), ("boxhu;", 0x2534, 0), ("boxminus;", 0x229F, 0),
   ("boxplus;", 0x229E, 0), ("boxtimes;", 0x22A0, 0), ("boxuL;", 0x255B, 0),
   ("boxuR;", 0x2558, 0), ("boxul;", 0x2518, 0), ("boxur;", 0x2514, 0), ("boxv;", 0x2502, 0),
   ("boxvH;", 0x256A, 0), ("boxvL;", 0x2561, 0), ("boxvR;", 0x255E, 0), ("boxvh;", 0x253C, 0),
   ("boxvl;", 0x2524, 0), ("boxvr;", 0x251C, 0), ("bprime;", 0x2035, 0), ("breve;", 0x2D8, 0),
   ("brvbar", 0xA6, 0), ("brvbar;", 0xA6, 0), ("bscr;", 0x1D4B7, 0), ("bsemi;", 0x204F, 0),
   ("bsim;", 0x223D, 0), ("bsime;", 0x22CD, 0), ("bsol;", 0x5C, 0), ("bsolb;", 0x29C5, 0),
   ("bsolhsub;", 0x27C8, 0), ("bull;", 0x2022, 0), ("bullet;", 0x2022, 0), ("bump;", 0x224E, 0),
   ("bumpE;", 0x2AAE, 0), ("bumpe;", 0x224F, 0), ("bumpeq;", 0x224F, 0)]

/-- The names that begin with c. -/
def referencesLowerC : List NamedReference :=
  [("cacute;", 0x107, 0), ("cap;", 0x2229, 0), ("capand;", 0x2A44, 0), ("capbrcup;", 0x2A49, 0),
   ("capcap;", 0x2A4B, 0), ("capcup;", 0x2A47, 0), ("capdot;", 0x2A40, 0),
   ("caps;", 0x2229, 0xFE00), ("caret;", 0x2041, 0), ("caron;", 0x2C7, 0), ("ccaps;", 0x2A4D, 0),
   ("ccaron;", 0x10D, 0), ("ccedil", 0xE7, 0), ("ccedil;", 0xE7, 0), ("ccirc;", 0x109, 0),
   ("ccups;", 0x2A4C, 0), ("ccupssm;", 0x2A50, 0), ("cdot;", 0x10B, 0), ("cedil", 0xB8, 0),
   ("cedil;", 0xB8, 0), ("cemptyv;", 0x29B2, 0), ("cent", 0xA2, 0), ("cent;", 0xA2, 0),
   ("centerdot;", 0xB7, 0), ("cfr;", 0x1D520, 0), ("chcy;", 0x447, 0), ("check;", 0x2713, 0),
   ("checkmark;", 0x2713, 0), ("chi;", 0x3C7, 0), ("cir;", 0x25CB, 0), ("cirE;", 0x29C3, 0),
   ("circ;", 0x2C6, 0), ("circeq;", 0x2257, 0), ("circlearrowleft;", 0x21BA, 0),
   ("circlearrowright;", 0x21BB, 0), ("circledR;", 0xAE, 0), ("circledS;", 0x24C8, 0),
   ("circledast;", 0x229B, 0), ("circledcirc;", 0x229A, 0), ("circleddash;", 0x229D, 0),
   ("cire;", 0x2257, 0), ("cirfnint;", 0x2A10, 0), ("cirmid;", 0x2AEF, 0),
   ("cirscir;", 0x29C2, 0), ("clubs;", 0x2663, 0), ("clubsuit;", 0x2663, 0), ("colon;", 0x3A, 0),
   ("colone;", 0x2254, 0), ("coloneq;", 0x2254, 0), ("comma;", 0x2C, 0), ("commat;", 0x40, 0),
   ("comp;", 0x2201, 0), ("compfn;", 0x2218, 0), ("complement;", 0x2201, 0),
   ("complexes;", 0x2102, 0), ("cong;", 0x2245, 0), ("congdot;", 0x2A6D, 0),
   ("conint;", 0x222E, 0), ("copf;", 0x1D554, 0), ("coprod;", 0x2210, 0), ("copy", 0xA9, 0),
   ("copy;", 0xA9, 0), ("copysr;", 0x2117, 0), ("crarr;", 0x21B5, 0), ("cross;", 0x2717, 0),
   ("cscr;", 0x1D4B8, 0), ("csub;", 0x2ACF, 0), ("csube;", 0x2AD1, 0), ("csup;", 0x2AD0, 0),
   ("csupe;", 0x2AD2, 0), ("ctdot;", 0x22EF, 0), ("cudarrl;", 0x2938, 0), ("cudarrr;", 0x2935, 0),
   ("cuepr;", 0x22DE, 0), ("cuesc;", 0x22DF, 0), ("cularr;", 0x21B6, 0), ("cularrp;", 0x293D, 0),
   ("cup;", 0x222A, 0), ("cupbrcap;", 0x2A48, 0), ("cupcap;", 0x2A46, 0), ("cupcup;", 0x2A4A, 0),
   ("cupdot;", 0x228D, 0), ("cupor;", 0x2A45, 0), ("cups;", 0x222A, 0xFE00),
   ("curarr;", 0x21B7, 0), ("curarrm;", 0x293C, 0), ("curlyeqprec;", 0x22DE, 0),
   ("curlyeqsucc;", 0x22DF, 0), ("curlyvee;", 0x22CE, 0), ("curlywedge;", 0x22CF, 0),
   ("curren", 0xA4, 0), ("curren;", 0xA4, 0), ("curvearrowleft;", 0x21B6, 0),
   ("curvearrowright;", 0x21B7, 0), ("cuvee;", 0x22CE, 0), ("cuwed;", 0x22CF, 0),
   ("cwconint;", 0x2232, 0), ("cwint;", 0x2231, 0), ("cylcty;", 0x232D, 0)]

/-- The names that begin with d. -/
def referencesLowerD : List NamedReference :=
  [("dArr;", 0x21D3, 0), ("dHar;", 0x2965, 0), ("dagger;", 0x2020, 0), ("daleth;", 0x2138, 0),
   ("darr;", 0x2193, 0), ("dash;", 0x2010, 0), ("dashv;", 0x22A3, 0), ("dbkarow;", 0x290F, 0),
   ("dblac;", 0x2DD, 0), ("dcaron;", 0x10F, 0), ("dcy;", 0x434, 0), ("dd;", 0x2146, 0),
   ("ddagger;", 0x2021, 0), ("ddarr;", 0x21CA, 0), ("ddotseq;", 0x2A77, 0), ("deg", 0xB0, 0),
   ("deg;", 0xB0, 0), ("delta;", 0x3B4, 0), ("demptyv;", 0x29B1, 0), ("dfisht;", 0x297F, 0),
   ("dfr;", 0x1D521, 0), ("dharl;", 0x21C3, 0), ("dharr;", 0x21C2, 0), ("diam;", 0x22C4, 0),
   ("diamond;", 0x22C4, 0), ("diamondsuit;", 0x2666, 0), ("diams;", 0x2666, 0), ("die;", 0xA8, 0),
   ("digamma;", 0x3DD, 0), ("disin;", 0x22F2, 0), ("div;", 0xF7, 0), ("divide", 0xF7, 0),
   ("divide;", 0xF7, 0), ("divideontimes;", 0x22C7, 0), ("divonx;", 0x22C7, 0),
   ("djcy;", 0x452, 0), ("dlcorn;", 0x231E, 0), ("dlcrop;", 0x230D, 0), ("dollar;", 0x24, 0),
   ("dopf;", 0x1D555, 0), ("dot;", 0x2D9, 0), ("doteq;", 0x2250, 0), ("doteqdot;", 0x2251, 0),
   ("dotminus;", 0x2238, 0), ("dotplus;", 0x2214, 0), ("dotsquare;", 0x22A1, 0),
   ("doublebarwedge;", 0x2306, 0), ("downarrow;", 0x2193, 0), ("downdownarrows;", 0x21CA, 0),
   ("downharpoonleft;", 0x21C3, 0), ("downharpoonright;", 0x21C2, 0), ("drbkarow;", 0x2910, 0),
   ("drcorn;", 0x231F, 0), ("drcrop;", 0x230C, 0), ("dscr;", 0x1D4B9, 0), ("dscy;", 0x455, 0),
   ("dsol;", 0x29F6, 0), ("dstrok;", 0x111, 0), ("dtdot;", 0x22F1, 0), ("dtri;", 0x25BF, 0),
   ("dtrif;", 0x25BE, 0), ("duarr;", 0x21F5, 0), ("duhar;", 0x296F, 0), ("dwangle;", 0x29A6, 0),
   ("dzcy;", 0x45F, 0), ("dzigrarr;", 0x27FF, 0)]

/-- The names that begin with e. -/
def referencesLowerE : List NamedReference :=
  [("eDDot;", 0x2A77, 0), ("eDot;", 0x2251, 0), ("eacute", 0xE9, 0), ("eacute;", 0xE9, 0),
   ("easter;", 0x2A6E, 0), ("ecaron;", 0x11B, 0), ("ecir;", 0x2256, 0), ("ecirc", 0xEA, 0),
   ("ecirc;", 0xEA, 0), ("ecolon;", 0x2255, 0), ("ecy;", 0x44D, 0), ("edot;", 0x117, 0),
   ("ee;", 0x2147, 0), ("efDot;", 0x2252, 0), ("efr;", 0x1D522, 0), ("eg;", 0x2A9A, 0),
   ("egrave", 0xE8, 0), ("egrave;", 0xE8, 0), ("egs;", 0x2A96, 0), ("egsdot;", 0x2A98, 0),
   ("el;", 0x2A99, 0), ("elinters;", 0x23E7, 0), ("ell;", 0x2113, 0), ("els;", 0x2A95, 0),
   ("elsdot;", 0x2A97, 0), ("emacr;", 0x113, 0), ("empty;", 0x2205, 0), ("emptyset;", 0x2205, 0),
   ("emptyv;", 0x2205, 0), ("emsp13;", 0x2004, 0), ("emsp14;", 0x2005, 0), ("emsp;", 0x2003, 0),
   ("eng;", 0x14B, 0), ("ensp;", 0x2002, 0), ("eogon;", 0x119, 0), ("eopf;", 0x1D556, 0),
   ("epar;", 0x22D5, 0), ("eparsl;", 0x29E3, 0), ("eplus;", 0x2A71, 0), ("epsi;", 0x3B5, 0),
   ("epsilon;", 0x3B5, 0), ("epsiv;", 0x3F5, 0), ("eqcirc;", 0x2256, 0), ("eqcolon;", 0x2255, 0),
   ("eqsim;", 0x2242, 0), ("eqslantgtr;", 0x2A96, 0), ("eqslantless;", 0x2A95, 0),
   ("equals;", 0x3D, 0), ("equest;", 0x225F, 0), ("equiv;", 0x2261, 0), ("equivDD;", 0x2A78, 0),
   ("eqvparsl;", 0x29E5, 0), ("erDot;", 0x2253, 0), ("erarr;", 0x2971, 0), ("escr;", 0x212F, 0),
   ("esdot;", 0x2250, 0), ("esim;", 0x2242, 0), ("eta;", 0x3B7, 0), ("eth", 0xF0, 0),
   ("eth;", 0xF0, 0), ("euml", 0xEB, 0), ("euml;", 0xEB, 0), ("euro;", 0x20AC, 0),
   ("excl;", 0x21, 0), ("exist;", 0x2203, 0), ("expectation;", 0x2130, 0),
   ("exponentiale;", 0x2147, 0)]

/-- The names that begin with f. -/
def referencesLowerF : List NamedReference :=
  [("fallingdotseq;", 0x2252, 0), ("fcy;", 0x444, 0), ("female;", 0x2640, 0),
   ("ffilig;", 0xFB03, 0), ("fflig;", 0xFB00, 0), ("ffllig;", 0xFB04, 0), ("ffr;", 0x1D523, 0),
   ("filig;", 0xFB01, 0), ("fjlig;", 0x66, 0x6A), ("flat;", 0x266D, 0), ("fllig;", 0xFB02, 0),
   ("fltns;", 0x25B1, 0), ("fnof;", 0x192, 0), ("fopf;", 0x1D557, 0), ("forall;", 0x2200, 0),
   ("fork;", 0x22D4, 0), ("forkv;", 0x2AD9, 0), ("fpartint;", 0x2A0D, 0), ("frac12", 0xBD, 0),
   ("frac12;", 0xBD, 0), ("frac13;", 0x2153, 0), ("frac14", 0xBC, 0), ("frac14;", 0xBC, 0),
   ("frac15;", 0x2155, 0), ("frac16;", 0x2159, 0), ("frac18;", 0x215B, 0), ("frac23;", 0x2154, 0),
   ("frac25;", 0x2156, 0), ("frac34", 0xBE, 0), ("frac34;", 0xBE, 0), ("frac35;", 0x2157, 0),
   ("frac38;", 0x215C, 0), ("frac45;", 0x2158, 0), ("frac56;", 0x215A, 0), ("frac58;", 0x215D, 0),
   ("frac78;", 0x215E, 0), ("frasl;", 0x2044, 0), ("frown;", 0x2322, 0), ("fscr;", 0x1D4BB, 0)]

/-- The names that begin with g. -/
def referencesLowerG : List NamedReference :=
  [("gE;", 0x2267, 0), ("gEl;", 0x2A8C, 0), ("gacute;", 0x1F5, 0), ("gamma;", 0x3B3, 0),
   ("gammad;", 0x3DD, 0), ("gap;", 0x2A86, 0), ("gbreve;", 0x11F, 0), ("gcirc;", 0x11D, 0),
   ("gcy;", 0x433, 0), ("gdot;", 0x121, 0), ("ge;", 0x2265, 0), ("gel;", 0x22DB, 0),
   ("geq;", 0x2265, 0), ("geqq;", 0x2267, 0), ("geqslant;", 0x2A7E, 0), ("ges;", 0x2A7E, 0),
   ("gescc;", 0x2AA9, 0), ("gesdot;", 0x2A80, 0), ("gesdoto;", 0x2A82, 0),
   ("gesdotol;", 0x2A84, 0), ("gesl;", 0x22DB, 0xFE00), ("gesles;", 0x2A94, 0),
   ("gfr;", 0x1D524, 0), ("gg;", 0x226B, 0), ("ggg;", 0x22D9, 0), ("gimel;", 0x2137, 0),
   ("gjcy;", 0x453, 0), ("gl;", 0x2277, 0), ("glE;", 0x2A92, 0), ("gla;", 0x2AA5, 0),
   ("glj;", 0x2AA4, 0), ("gnE;", 0x2269, 0), ("gnap;", 0x2A8A, 0), ("gnapprox;", 0x2A8A, 0),
   ("gne;", 0x2A88, 0), ("gneq;", 0x2A88, 0), ("gneqq;", 0x2269, 0), ("gnsim;", 0x22E7, 0),
   ("gopf;", 0x1D558, 0), ("grave;", 0x60, 0), ("gscr;", 0x210A, 0), ("gsim;", 0x2273, 0),
   ("gsime;", 0x2A8E, 0), ("gsiml;", 0x2A90, 0), ("gt", 0x3E, 0), ("gt;", 0x3E, 0),
   ("gtcc;", 0x2AA7, 0), ("gtcir;", 0x2A7A, 0), ("gtdot;", 0x22D7, 0), ("gtlPar;", 0x2995, 0),
   ("gtquest;", 0x2A7C, 0), ("gtrapprox;", 0x2A86, 0), ("gtrarr;", 0x2978, 0),
   ("gtrdot;", 0x22D7, 0), ("gtreqless;", 0x22DB, 0), ("gtreqqless;", 0x2A8C, 0),
   ("gtrless;", 0x2277, 0), ("gtrsim;", 0x2273, 0), ("gvertneqq;", 0x2269, 0xFE00),
   ("gvnE;", 0x2269, 0xFE00)]

/-- The names that begin with h. -/
def referencesLowerH : List NamedReference :=
  [("hArr;", 0x21D4, 0), ("hairsp;", 0x200A, 0), ("half;", 0xBD, 0), ("hamilt;", 0x210B, 0),
   ("hardcy;", 0x44A, 0), ("harr;", 0x2194, 0), ("harrcir;", 0x2948, 0), ("harrw;", 0x21AD, 0),
   ("hbar;", 0x210F, 0), ("hcirc;", 0x125, 0), ("hearts;", 0x2665, 0), ("heartsuit;", 0x2665, 0),
   ("hellip;", 0x2026, 0), ("hercon;", 0x22B9, 0), ("hfr;", 0x1D525, 0), ("hksearow;", 0x2925, 0),
   ("hkswarow;", 0x2926, 0), ("hoarr;", 0x21FF, 0), ("homtht;", 0x223B, 0),
   ("hookleftarrow;", 0x21A9, 0), ("hookrightarrow;", 0x21AA, 0), ("hopf;", 0x1D559, 0),
   ("horbar;", 0x2015, 0), ("hscr;", 0x1D4BD, 0), ("hslash;", 0x210F, 0), ("hstrok;", 0x127, 0),
   ("hybull;", 0x2043, 0), ("hyphen;", 0x2010, 0)]

/-- The names that begin with i. -/
def referencesLowerI : List NamedReference :=
  [("iacute", 0xED, 0), ("iacute;", 0xED, 0), ("ic;", 0x2063, 0), ("icirc", 0xEE, 0),
   ("icirc;", 0xEE, 0), ("icy;", 0x438, 0), ("iecy;", 0x435, 0), ("iexcl", 0xA1, 0),
   ("iexcl;", 0xA1, 0), ("iff;", 0x21D4, 0), ("ifr;", 0x1D526, 0), ("igrave", 0xEC, 0),
   ("igrave;", 0xEC, 0), ("ii;", 0x2148, 0), ("iiiint;", 0x2A0C, 0), ("iiint;", 0x222D, 0),
   ("iinfin;", 0x29DC, 0), ("iiota;", 0x2129, 0), ("ijlig;", 0x133, 0), ("imacr;", 0x12B, 0),
   ("image;", 0x2111, 0), ("imagline;", 0x2110, 0), ("imagpart;", 0x2111, 0),
   ("imath;", 0x131, 0), ("imof;", 0x22B7, 0), ("imped;", 0x1B5, 0), ("in;", 0x2208, 0),
   ("incare;", 0x2105, 0), ("infin;", 0x221E, 0), ("infintie;", 0x29DD, 0), ("inodot;", 0x131, 0),
   ("int;", 0x222B, 0), ("intcal;", 0x22BA, 0), ("integers;", 0x2124, 0),
   ("intercal;", 0x22BA, 0), ("intlarhk;", 0x2A17, 0), ("intprod;", 0x2A3C, 0),
   ("iocy;", 0x451, 0), ("iogon;", 0x12F, 0), ("iopf;", 0x1D55A, 0), ("iota;", 0x3B9, 0),
   ("iprod;", 0x2A3C, 0), ("iquest", 0xBF, 0), ("iquest;", 0xBF, 0), ("iscr;", 0x1D4BE, 0),
   ("isin;", 0x2208, 0), ("isinE;", 0x22F9, 0), ("isindot;", 0x22F5, 0), ("isins;", 0x22F4, 0),
   ("isinsv;", 0x22F3, 0), ("isinv;", 0x2208, 0), ("it;", 0x2062, 0), ("itilde;", 0x129, 0),
   ("iukcy;", 0x456, 0), ("iuml", 0xEF, 0), ("iuml;", 0xEF, 0)]

/-- The names that begin with j. -/
def referencesLowerJ : List NamedReference :=
  [("jcirc;", 0x135, 0), ("jcy;", 0x439, 0), ("jfr;", 0x1D527, 0), ("jmath;", 0x237, 0),
   ("jopf;", 0x1D55B, 0), ("jscr;", 0x1D4BF, 0), ("jsercy;", 0x458, 0), ("jukcy;", 0x454, 0)]

/-- The names that begin with k. -/
def referencesLowerK : List NamedReference :=
  [("kappa;", 0x3BA, 0), ("kappav;", 0x3F0, 0), ("kcedil;", 0x137, 0), ("kcy;", 0x43A, 0),
   ("kfr;", 0x1D528, 0), ("kgreen;", 0x138, 0), ("khcy;", 0x445, 0), ("kjcy;", 0x45C, 0),
   ("kopf;", 0x1D55C, 0), ("kscr;", 0x1D4C0, 0)]

/-- The names that begin with l. -/
def referencesLowerL : List NamedReference :=
  [("lAarr;", 0x21DA, 0), ("lArr;", 0x21D0, 0), ("lAtail;", 0x291B, 0), ("lBarr;", 0x290E, 0),
   ("lE;", 0x2266, 0), ("lEg;", 0x2A8B, 0), ("lHar;", 0x2962, 0), ("lacute;", 0x13A, 0),
   ("laemptyv;", 0x29B4, 0), ("lagran;", 0x2112, 0), ("lambda;", 0x3BB, 0), ("lang;", 0x27E8, 0),
   ("langd;", 0x2991, 0), ("langle;", 0x27E8, 0), ("lap;", 0x2A85, 0), ("laquo", 0xAB, 0),
   ("laquo;", 0xAB, 0), ("larr;", 0x2190, 0), ("larrb;", 0x21E4, 0), ("larrbfs;", 0x291F, 0),
   ("larrfs;", 0x291D, 0), ("larrhk;", 0x21A9, 0), ("larrlp;", 0x21AB, 0), ("larrpl;", 0x2939, 0),
   ("larrsim;", 0x2973, 0), ("larrtl;", 0x21A2, 0), ("lat;", 0x2AAB, 0), ("latail;", 0x2919, 0),
   ("late;", 0x2AAD, 0), ("lates;", 0x2AAD, 0xFE00), ("lbarr;", 0x290C, 0), ("lbbrk;", 0x2772, 0),
   ("lbrace;", 0x7B, 0), ("lbrack;", 0x5B, 0), ("lbrke;", 0x298B, 0), ("lbrksld;", 0x298F, 0),
   ("lbrkslu;", 0x298D, 0), ("lcaron;", 0x13E, 0), ("lcedil;", 0x13C, 0), ("lceil;", 0x2308, 0),
   ("lcub;", 0x7B, 0), ("lcy;", 0x43B, 0), ("ldca;", 0x2936, 0), ("ldquo;", 0x201C, 0),
   ("ldquor;", 0x201E, 0), ("ldrdhar;", 0x2967, 0), ("ldrushar;", 0x294B, 0),
   ("ldsh;", 0x21B2, 0), ("le;", 0x2264, 0), ("leftarrow;", 0x2190, 0),
   ("leftarrowtail;", 0x21A2, 0), ("leftharpoondown;", 0x21BD, 0), ("leftharpoonup;", 0x21BC, 0),
   ("leftleftarrows;", 0x21C7, 0), ("leftrightarrow;", 0x2194, 0),
   ("leftrightarrows;", 0x21C6, 0), ("leftrightharpoons;", 0x21CB, 0),
   ("leftrightsquigarrow;", 0x21AD, 0), ("leftthreetimes;", 0x22CB, 0), ("leg;", 0x22DA, 0),
   ("leq;", 0x2264, 0), ("leqq;", 0x2266, 0), ("leqslant;", 0x2A7D, 0), ("les;", 0x2A7D, 0),
   ("lescc;", 0x2AA8, 0), ("lesdot;", 0x2A7F, 0), ("lesdoto;", 0x2A81, 0),
   ("lesdotor;", 0x2A83, 0), ("lesg;", 0x22DA, 0xFE00), ("lesges;", 0x2A93, 0),
   ("lessapprox;", 0x2A85, 0), ("lessdot;", 0x22D6, 0), ("lesseqgtr;", 0x22DA, 0),
   ("lesseqqgtr;", 0x2A8B, 0), ("lessgtr;", 0x2276, 0), ("lesssim;", 0x2272, 0),
   ("lfisht;", 0x297C, 0), ("lfloor;", 0x230A, 0), ("lfr;", 0x1D529, 0), ("lg;", 0x2276, 0),
   ("lgE;", 0x2A91, 0), ("lhard;", 0x21BD, 0), ("lharu;", 0x21BC, 0), ("lharul;", 0x296A, 0),
   ("lhblk;", 0x2584, 0), ("ljcy;", 0x459, 0), ("ll;", 0x226A, 0), ("llarr;", 0x21C7, 0),
   ("llcorner;", 0x231E, 0), ("llhard;", 0x296B, 0), ("lltri;", 0x25FA, 0), ("lmidot;", 0x140, 0),
   ("lmoust;", 0x23B0, 0), ("lmoustache;", 0x23B0, 0), ("lnE;", 0x2268, 0), ("lnap;", 0x2A89, 0),
   ("lnapprox;", 0x2A89, 0), ("lne;", 0x2A87, 0), ("lneq;", 0x2A87, 0), ("lneqq;", 0x2268, 0),
   ("lnsim;", 0x22E6, 0), ("loang;", 0x27EC, 0), ("loarr;", 0x21FD, 0), ("lobrk;", 0x27E6, 0),
   ("longleftarrow;", 0x27F5, 0), ("longleftrightarrow;", 0x27F7, 0), ("longmapsto;", 0x27FC, 0),
   ("longrightarrow;", 0x27F6, 0), ("looparrowleft;", 0x21AB, 0), ("looparrowright;", 0x21AC, 0),
   ("lopar;", 0x2985, 0), ("lopf;", 0x1D55D, 0), ("loplus;", 0x2A2D, 0), ("lotimes;", 0x2A34, 0),
   ("lowast;", 0x2217, 0), ("lowbar;", 0x5F, 0), ("loz;", 0x25CA, 0), ("lozenge;", 0x25CA, 0),
   ("lozf;", 0x29EB, 0), ("lpar;", 0x28, 0), ("lparlt;", 0x2993, 0), ("lrarr;", 0x21C6, 0),
   ("lrcorner;", 0x231F, 0), ("lrhar;", 0x21CB, 0), ("lrhard;", 0x296D, 0), ("lrm;", 0x200E, 0),
   ("lrtri;", 0x22BF, 0), ("lsaquo;", 0x2039, 0), ("lscr;", 0x1D4C1, 0), ("lsh;", 0x21B0, 0),
   ("lsim;", 0x2272, 0), ("lsime;", 0x2A8D, 0), ("lsimg;", 0x2A8F, 0), ("lsqb;", 0x5B, 0),
   ("lsquo;", 0x2018, 0), ("lsquor;", 0x201A, 0), ("lstrok;", 0x142, 0), ("lt", 0x3C, 0),
   ("lt;", 0x3C, 0), ("ltcc;", 0x2AA6, 0), ("ltcir;", 0x2A79, 0), ("ltdot;", 0x22D6, 0),
   ("lthree;", 0x22CB, 0), ("ltimes;", 0x22C9, 0), ("ltlarr;", 0x2976, 0),
   ("ltquest;", 0x2A7B, 0), ("ltrPar;", 0x2996, 0), ("ltri;", 0x25C3, 0), ("ltrie;", 0x22B4, 0),
   ("ltrif;", 0x25C2, 0), ("lurdshar;", 0x294A, 0), ("luruhar;", 0x2966, 0),
   ("lvertneqq;", 0x2268, 0xFE00), ("lvnE;", 0x2268, 0xFE00)]

/-- The names that begin with m. -/
def referencesLowerM : List NamedReference :=
  [("mDDot;", 0x223A, 0), ("macr", 0xAF, 0), ("macr;", 0xAF, 0), ("male;", 0x2642, 0),
   ("malt;", 0x2720, 0), ("maltese;", 0x2720, 0), ("map;", 0x21A6, 0), ("mapsto;", 0x21A6, 0),
   ("mapstodown;", 0x21A7, 0), ("mapstoleft;", 0x21A4, 0), ("mapstoup;", 0x21A5, 0),
   ("marker;", 0x25AE, 0), ("mcomma;", 0x2A29, 0), ("mcy;", 0x43C, 0), ("mdash;", 0x2014, 0),
   ("measuredangle;", 0x2221, 0), ("mfr;", 0x1D52A, 0), ("mho;", 0x2127, 0), ("micro", 0xB5, 0),
   ("micro;", 0xB5, 0), ("mid;", 0x2223, 0), ("midast;", 0x2A, 0), ("midcir;", 0x2AF0, 0),
   ("middot", 0xB7, 0), ("middot;", 0xB7, 0), ("minus;", 0x2212, 0), ("minusb;", 0x229F, 0),
   ("minusd;", 0x2238, 0), ("minusdu;", 0x2A2A, 0), ("mlcp;", 0x2ADB, 0), ("mldr;", 0x2026, 0),
   ("mnplus;", 0x2213, 0), ("models;", 0x22A7, 0), ("mopf;", 0x1D55E, 0), ("mp;", 0x2213, 0),
   ("mscr;", 0x1D4C2, 0), ("mstpos;", 0x223E, 0), ("mu;", 0x3BC, 0), ("multimap;", 0x22B8, 0),
   ("mumap;", 0x22B8, 0)]

/-- The names that begin with n. -/
def referencesLowerN : List NamedReference :=
  [("nGg;", 0x22D9, 0x338), ("nGt;", 0x226B, 0x20D2), ("nGtv;", 0x226B, 0x338),
   ("nLeftarrow;", 0x21CD, 0), ("nLeftrightarrow;", 0x21CE, 0), ("nLl;", 0x22D8, 0x338),
   ("nLt;", 0x226A, 0x20D2), ("nLtv;", 0x226A, 0x338), ("nRightarrow;", 0x21CF, 0),
   ("nVDash;", 0x22AF, 0), ("nVdash;", 0x22AE, 0), ("nabla;", 0x2207, 0), ("nacute;", 0x144, 0),
   ("nang;", 0x2220, 0x20D2), ("nap;", 0x2249, 0), ("napE;", 0x2A70, 0x338),
   ("napid;", 0x224B, 0x338), ("napos;", 0x149, 0), ("napprox;", 0x2249, 0),
   ("natur;", 0x266E, 0), ("natural;", 0x266E, 0), ("naturals;", 0x2115, 0), ("nbsp", 0xA0, 0),
   ("nbsp;", 0xA0, 0), ("nbump;", 0x224E, 0x338), ("nbumpe;", 0x224F, 0x338),
   ("ncap;", 0x2A43, 0), ("ncaron;", 0x148, 0), ("ncedil;", 0x146, 0), ("ncong;", 0x2247, 0),
   ("ncongdot;", 0x2A6D, 0x338), ("ncup;", 0x2A42, 0), ("ncy;", 0x43D, 0), ("ndash;", 0x2013, 0),
   ("ne;", 0x2260, 0), ("neArr;", 0x21D7, 0), ("nearhk;", 0x2924, 0), ("nearr;", 0x2197, 0),
   ("nearrow;", 0x2197, 0), ("nedot;", 0x2250, 0x338), ("nequiv;", 0x2262, 0),
   ("nesear;", 0x2928, 0), ("nesim;", 0x2242, 0x338), ("nexist;", 0x2204, 0),
   ("nexists;", 0x2204, 0), ("nfr;", 0x1D52B, 0), ("ngE;", 0x2267, 0x338), ("nge;", 0x2271, 0),
   ("ngeq;", 0x2271, 0), ("ngeqq;", 0x2267, 0x338), ("ngeqslant;", 0x2A7E, 0x338),
   ("nges;", 0x2A7E, 0x338), ("ngsim;", 0x2275, 0), ("ngt;", 0x226F, 0), ("ngtr;", 0x226F, 0),
   ("nhArr;", 0x21CE, 0), ("nharr;", 0x21AE, 0), ("nhpar;", 0x2AF2, 0), ("ni;", 0x220B, 0),
   ("nis;", 0x22FC, 0), ("nisd;", 0x22FA, 0), ("niv;", 0x220B, 0), ("njcy;", 0x45A, 0),
   ("nlArr;", 0x21CD, 0), ("nlE;", 0x2266, 0x338), ("nlarr;", 0x219A, 0), ("nldr;", 0x2025, 0),
   ("nle;", 0x2270, 0), ("nleftarrow;", 0x219A, 0), ("nleftrightarrow;", 0x21AE, 0),
   ("nleq;", 0x2270, 0), ("nleqq;", 0x2266, 0x338), ("nleqslant;", 0x2A7D, 0x338),
   ("nles;", 0x2A7D, 0x338), ("nless;", 0x226E, 0), ("nlsim;", 0x2274, 0), ("nlt;", 0x226E, 0),
   ("nltri;", 0x22EA, 0), ("nltrie;", 0x22EC, 0), ("nmid;", 0x2224, 0), ("nopf;", 0x1D55F, 0),
   ("not", 0xAC, 0), ("not;", 0xAC, 0), ("notin;", 0x2209, 0), ("notinE;", 0x22F9, 0x338),
   ("notindot;", 0x22F5, 0x338), ("notinva;", 0x2209, 0), ("notinvb;", 0x22F7, 0),
   ("notinvc;", 0x22F6, 0), ("notni;", 0x220C, 0), ("notniva;", 0x220C, 0),
   ("notnivb;", 0x22FE, 0), ("notnivc;", 0x22FD, 0), ("npar;", 0x2226, 0),
   ("nparallel;", 0x2226, 0), ("nparsl;", 0x2AFD, 0x20E5), ("npart;", 0x2202, 0x338),
   ("npolint;", 0x2A14, 0), ("npr;", 0x2280, 0), ("nprcue;", 0x22E0, 0), ("npre;", 0x2AAF, 0x338),
   ("nprec;", 0x2280, 0), ("npreceq;", 0x2AAF, 0x338), ("nrArr;", 0x21CF, 0),
   ("nrarr;", 0x219B, 0), ("nrarrc;", 0x2933, 0x338), ("nrarrw;", 0x219D, 0x338),
   ("nrightarrow;", 0x219B, 0), ("nrtri;", 0x22EB, 0), ("nrtrie;", 0x22ED, 0),
   ("nsc;", 0x2281, 0), ("nsccue;", 0x22E1, 0), ("nsce;", 0x2AB0, 0x338), ("nscr;", 0x1D4C3, 0),
   ("nshortmid;", 0x2224, 0), ("nshortparallel;", 0x2226, 0), ("nsim;", 0x2241, 0),
   ("nsime;", 0x2244, 0), ("nsimeq;", 0x2244, 0), ("nsmid;", 0x2224, 0), ("nspar;", 0x2226, 0),
   ("nsqsube;", 0x22E2, 0), ("nsqsupe;", 0x22E3, 0), ("nsub;", 0x2284, 0),
   ("nsubE;", 0x2AC5, 0x338), ("nsube;", 0x2288, 0), ("nsubset;", 0x2282, 0x20D2),
   ("nsubseteq;", 0x2288, 0), ("nsubseteqq;", 0x2AC5, 0x338), ("nsucc;", 0x2281, 0),
   ("nsucceq;", 0x2AB0, 0x338), ("nsup;", 0x2285, 0), ("nsupE;", 0x2AC6, 0x338),
   ("nsupe;", 0x2289, 0), ("nsupset;", 0x2283, 0x20D2), ("nsupseteq;", 0x2289, 0),
   ("nsupseteqq;", 0x2AC6, 0x338), ("ntgl;", 0x2279, 0), ("ntilde", 0xF1, 0),
   ("ntilde;", 0xF1, 0), ("ntlg;", 0x2278, 0), ("ntriangleleft;", 0x22EA, 0),
   ("ntrianglelefteq;", 0x22EC, 0), ("ntriangleright;", 0x22EB, 0),
   ("ntrianglerighteq;", 0x22ED, 0), ("nu;", 0x3BD, 0), ("num;", 0x23, 0), ("numero;", 0x2116, 0),
   ("numsp;", 0x2007, 0), ("nvDash;", 0x22AD, 0), ("nvHarr;", 0x2904, 0),
   ("nvap;", 0x224D, 0x20D2), ("nvdash;", 0x22AC, 0), ("nvge;", 0x2265, 0x20D2),
   ("nvgt;", 0x3E, 0x20D2), ("nvinfin;", 0x29DE, 0), ("nvlArr;", 0x2902, 0),
   ("nvle;", 0x2264, 0x20D2), ("nvlt;", 0x3C, 0x20D2), ("nvltrie;", 0x22B4, 0x20D2),
   ("nvrArr;", 0x2903, 0), ("nvrtrie;", 0x22B5, 0x20D2), ("nvsim;", 0x223C, 0x20D2),
   ("nwArr;", 0x21D6, 0), ("nwarhk;", 0x2923, 0), ("nwarr;", 0x2196, 0), ("nwarrow;", 0x2196, 0),
   ("nwnear;", 0x2927, 0)]

/-- The names that begin with o. -/
def referencesLowerO : List NamedReference :=
  [("oS;", 0x24C8, 0), ("oacute", 0xF3, 0), ("oacute;", 0xF3, 0), ("oast;", 0x229B, 0),
   ("ocir;", 0x229A, 0), ("ocirc", 0xF4, 0), ("ocirc;", 0xF4, 0), ("ocy;", 0x43E, 0),
   ("odash;", 0x229D, 0), ("odblac;", 0x151, 0), ("odiv;", 0x2A38, 0), ("odot;", 0x2299, 0),
   ("odsold;", 0x29BC, 0), ("oelig;", 0x153, 0), ("ofcir;", 0x29BF, 0), ("ofr;", 0x1D52C, 0),
   ("ogon;", 0x2DB, 0), ("ograve", 0xF2, 0), ("ograve;", 0xF2, 0), ("ogt;", 0x29C1, 0),
   ("ohbar;", 0x29B5, 0), ("ohm;", 0x3A9, 0), ("oint;", 0x222E, 0), ("olarr;", 0x21BA, 0),
   ("olcir;", 0x29BE, 0), ("olcross;", 0x29BB, 0), ("oline;", 0x203E, 0), ("olt;", 0x29C0, 0),
   ("omacr;", 0x14D, 0), ("omega;", 0x3C9, 0), ("omicron;", 0x3BF, 0), ("omid;", 0x29B6, 0),
   ("ominus;", 0x2296, 0), ("oopf;", 0x1D560, 0), ("opar;", 0x29B7, 0), ("operp;", 0x29B9, 0),
   ("oplus;", 0x2295, 0), ("or;", 0x2228, 0), ("orarr;", 0x21BB, 0), ("ord;", 0x2A5D, 0),
   ("order;", 0x2134, 0), ("orderof;", 0x2134, 0), ("ordf", 0xAA, 0), ("ordf;", 0xAA, 0),
   ("ordm", 0xBA, 0), ("ordm;", 0xBA, 0), ("origof;", 0x22B6, 0), ("oror;", 0x2A56, 0),
   ("orslope;", 0x2A57, 0), ("orv;", 0x2A5B, 0), ("oscr;", 0x2134, 0), ("oslash", 0xF8, 0),
   ("oslash;", 0xF8, 0), ("osol;", 0x2298, 0), ("otilde", 0xF5, 0), ("otilde;", 0xF5, 0),
   ("otimes;", 0x2297, 0), ("otimesas;", 0x2A36, 0), ("ouml", 0xF6, 0), ("ouml;", 0xF6, 0),
   ("ovbar;", 0x233D, 0)]

/-- The names that begin with p. -/
def referencesLowerP : List NamedReference :=
  [("par;", 0x2225, 0), ("para", 0xB6, 0), ("para;", 0xB6, 0), ("parallel;", 0x2225, 0),
   ("parsim;", 0x2AF3, 0), ("parsl;", 0x2AFD, 0), ("part;", 0x2202, 0), ("pcy;", 0x43F, 0),
   ("percnt;", 0x25, 0), ("period;", 0x2E, 0), ("permil;", 0x2030, 0), ("perp;", 0x22A5, 0),
   ("pertenk;", 0x2031, 0), ("pfr;", 0x1D52D, 0), ("phi;", 0x3C6, 0), ("phiv;", 0x3D5, 0),
   ("phmmat;", 0x2133, 0), ("phone;", 0x260E, 0), ("pi;", 0x3C0, 0), ("pitchfork;", 0x22D4, 0),
   ("piv;", 0x3D6, 0), ("planck;", 0x210F, 0), ("planckh;", 0x210E, 0), ("plankv;", 0x210F, 0),
   ("plus;", 0x2B, 0), ("plusacir;", 0x2A23, 0), ("plusb;", 0x229E, 0), ("pluscir;", 0x2A22, 0),
   ("plusdo;", 0x2214, 0), ("plusdu;", 0x2A25, 0), ("pluse;", 0x2A72, 0), ("plusmn", 0xB1, 0),
   ("plusmn;", 0xB1, 0), ("plussim;", 0x2A26, 0), ("plustwo;", 0x2A27, 0), ("pm;", 0xB1, 0),
   ("pointint;", 0x2A15, 0), ("popf;", 0x1D561, 0), ("pound", 0xA3, 0), ("pound;", 0xA3, 0),
   ("pr;", 0x227A, 0), ("prE;", 0x2AB3, 0), ("prap;", 0x2AB7, 0), ("prcue;", 0x227C, 0),
   ("pre;", 0x2AAF, 0), ("prec;", 0x227A, 0), ("precapprox;", 0x2AB7, 0),
   ("preccurlyeq;", 0x227C, 0), ("preceq;", 0x2AAF, 0), ("precnapprox;", 0x2AB9, 0),
   ("precneqq;", 0x2AB5, 0), ("precnsim;", 0x22E8, 0), ("precsim;", 0x227E, 0),
   ("prime;", 0x2032, 0), ("primes;", 0x2119, 0), ("prnE;", 0x2AB5, 0), ("prnap;", 0x2AB9, 0),
   ("prnsim;", 0x22E8, 0), ("prod;", 0x220F, 0), ("profalar;", 0x232E, 0),
   ("profline;", 0x2312, 0), ("profsurf;", 0x2313, 0), ("prop;", 0x221D, 0),
   ("propto;", 0x221D, 0), ("prsim;", 0x227E, 0), ("prurel;", 0x22B0, 0), ("pscr;", 0x1D4C5, 0),
   ("psi;", 0x3C8, 0), ("puncsp;", 0x2008, 0)]

/-- The names that begin with q. -/
def referencesLowerQ : List NamedReference :=
  [("qfr;", 0x1D52E, 0), ("qint;", 0x2A0C, 0), ("qopf;", 0x1D562, 0), ("qprime;", 0x2057, 0),
   ("qscr;", 0x1D4C6, 0), ("quaternions;", 0x210D, 0), ("quatint;", 0x2A16, 0),
   ("quest;", 0x3F, 0), ("questeq;", 0x225F, 0), ("quot", 0x22, 0), ("quot;", 0x22, 0)]

/-- The names that begin with r. -/
def referencesLowerR : List NamedReference :=
  [("rAarr;", 0x21DB, 0), ("rArr;", 0x21D2, 0), ("rAtail;", 0x291C, 0), ("rBarr;", 0x290F, 0),
   ("rHar;", 0x2964, 0), ("race;", 0x223D, 0x331), ("racute;", 0x155, 0), ("radic;", 0x221A, 0),
   ("raemptyv;", 0x29B3, 0), ("rang;", 0x27E9, 0), ("rangd;", 0x2992, 0), ("range;", 0x29A5, 0),
   ("rangle;", 0x27E9, 0), ("raquo", 0xBB, 0), ("raquo;", 0xBB, 0), ("rarr;", 0x2192, 0),
   ("rarrap;", 0x2975, 0), ("rarrb;", 0x21E5, 0), ("rarrbfs;", 0x2920, 0), ("rarrc;", 0x2933, 0),
   ("rarrfs;", 0x291E, 0), ("rarrhk;", 0x21AA, 0), ("rarrlp;", 0x21AC, 0), ("rarrpl;", 0x2945, 0),
   ("rarrsim;", 0x2974, 0), ("rarrtl;", 0x21A3, 0), ("rarrw;", 0x219D, 0), ("ratail;", 0x291A, 0),
   ("ratio;", 0x2236, 0), ("rationals;", 0x211A, 0), ("rbarr;", 0x290D, 0), ("rbbrk;", 0x2773, 0),
   ("rbrace;", 0x7D, 0), ("rbrack;", 0x5D, 0), ("rbrke;", 0x298C, 0), ("rbrksld;", 0x298E, 0),
   ("rbrkslu;", 0x2990, 0), ("rcaron;", 0x159, 0), ("rcedil;", 0x157, 0), ("rceil;", 0x2309, 0),
   ("rcub;", 0x7D, 0), ("rcy;", 0x440, 0), ("rdca;", 0x2937, 0), ("rdldhar;", 0x2969, 0),
   ("rdquo;", 0x201D, 0), ("rdquor;", 0x201D, 0), ("rdsh;", 0x21B3, 0), ("real;", 0x211C, 0),
   ("realine;", 0x211B, 0), ("realpart;", 0x211C, 0), ("reals;", 0x211D, 0), ("rect;", 0x25AD, 0),
   ("reg", 0xAE, 0), ("reg;", 0xAE, 0), ("rfisht;", 0x297D, 0), ("rfloor;", 0x230B, 0),
   ("rfr;", 0x1D52F, 0), ("rhard;", 0x21C1, 0), ("rharu;", 0x21C0, 0), ("rharul;", 0x296C, 0),
   ("rho;", 0x3C1, 0), ("rhov;", 0x3F1, 0), ("rightarrow;", 0x2192, 0),
   ("rightarrowtail;", 0x21A3, 0), ("rightharpoondown;", 0x21C1, 0),
   ("rightharpoonup;", 0x21C0, 0), ("rightleftarrows;", 0x21C4, 0),
   ("rightleftharpoons;", 0x21CC, 0), ("rightrightarrows;", 0x21C9, 0),
   ("rightsquigarrow;", 0x219D, 0), ("rightthreetimes;", 0x22CC, 0), ("ring;", 0x2DA, 0),
   ("risingdotseq;", 0x2253, 0), ("rlarr;", 0x21C4, 0), ("rlhar;", 0x21CC, 0),
   ("rlm;", 0x200F, 0), ("rmoust;", 0x23B1, 0), ("rmoustache;", 0x23B1, 0), ("rnmid;", 0x2AEE, 0),
   ("roang;", 0x27ED, 0), ("roarr;", 0x21FE, 0), ("robrk;", 0x27E7, 0), ("ropar;", 0x2986, 0),
   ("ropf;", 0x1D563, 0), ("roplus;", 0x2A2E, 0), ("rotimes;", 0x2A35, 0), ("rpar;", 0x29, 0),
   ("rpargt;", 0x2994, 0), ("rppolint;", 0x2A12, 0), ("rrarr;", 0x21C9, 0),
   ("rsaquo;", 0x203A, 0), ("rscr;", 0x1D4C7, 0), ("rsh;", 0x21B1, 0), ("rsqb;", 0x5D, 0),
   ("rsquo;", 0x2019, 0), ("rsquor;", 0x2019, 0), ("rthree;", 0x22CC, 0), ("rtimes;", 0x22CA, 0),
   ("rtri;", 0x25B9, 0), ("rtrie;", 0x22B5, 0), ("rtrif;", 0x25B8, 0), ("rtriltri;", 0x29CE, 0),
   ("ruluhar;", 0x2968, 0), ("rx;", 0x211E, 0)]

/-- The names that begin with s. -/
def referencesLowerS : List NamedReference :=
  [("sacute;", 0x15B, 0), ("sbquo;", 0x201A, 0), ("sc;", 0x227B, 0), ("scE;", 0x2AB4, 0),
   ("scap;", 0x2AB8, 0), ("scaron;", 0x161, 0), ("sccue;", 0x227D, 0), ("sce;", 0x2AB0, 0),
   ("scedil;", 0x15F, 0), ("scirc;", 0x15D, 0), ("scnE;", 0x2AB6, 0), ("scnap;", 0x2ABA, 0),
   ("scnsim;", 0x22E9, 0), ("scpolint;", 0x2A13, 0), ("scsim;", 0x227F, 0), ("scy;", 0x441, 0),
   ("sdot;", 0x22C5, 0), ("sdotb;", 0x22A1, 0), ("sdote;", 0x2A66, 0), ("seArr;", 0x21D8, 0),
   ("searhk;", 0x2925, 0), ("searr;", 0x2198, 0), ("searrow;", 0x2198, 0), ("sect", 0xA7, 0),
   ("sect;", 0xA7, 0), ("semi;", 0x3B, 0), ("seswar;", 0x2929, 0), ("setminus;", 0x2216, 0),
   ("setmn;", 0x2216, 0), ("sext;", 0x2736, 0), ("sfr;", 0x1D530, 0), ("sfrown;", 0x2322, 0),
   ("sharp;", 0x266F, 0), ("shchcy;", 0x449, 0), ("shcy;", 0x448, 0), ("shortmid;", 0x2223, 0),
   ("shortparallel;", 0x2225, 0), ("shy", 0xAD, 0), ("shy;", 0xAD, 0), ("sigma;", 0x3C3, 0),
   ("sigmaf;", 0x3C2, 0), ("sigmav;", 0x3C2, 0), ("sim;", 0x223C, 0), ("simdot;", 0x2A6A, 0),
   ("sime;", 0x2243, 0), ("simeq;", 0x2243, 0), ("simg;", 0x2A9E, 0), ("simgE;", 0x2AA0, 0),
   ("siml;", 0x2A9D, 0), ("simlE;", 0x2A9F, 0), ("simne;", 0x2246, 0), ("simplus;", 0x2A24, 0),
   ("simrarr;", 0x2972, 0), ("slarr;", 0x2190, 0), ("smallsetminus;", 0x2216, 0),
   ("smashp;", 0x2A33, 0), ("smeparsl;", 0x29E4, 0), ("smid;", 0x2223, 0), ("smile;", 0x2323, 0),
   ("smt;", 0x2AAA, 0), ("smte;", 0x2AAC, 0), ("smtes;", 0x2AAC, 0xFE00), ("softcy;", 0x44C, 0),
   ("sol;", 0x2F, 0), ("solb;", 0x29C4, 0), ("solbar;", 0x233F, 0), ("sopf;", 0x1D564, 0),
   ("spades;", 0x2660, 0), ("spadesuit;", 0x2660, 0), ("spar;", 0x2225, 0), ("sqcap;", 0x2293, 0),
   ("sqcaps;", 0x2293, 0xFE00), ("sqcup;", 0x2294, 0), ("sqcups;", 0x2294, 0xFE00),
   ("sqsub;", 0x228F, 0), ("sqsube;", 0x2291, 0), ("sqsubset;", 0x228F, 0),
   ("sqsubseteq;", 0x2291, 0), ("sqsup;", 0x2290, 0), ("sqsupe;", 0x2292, 0),
   ("sqsupset;", 0x2290, 0), ("sqsupseteq;", 0x2292, 0), ("squ;", 0x25A1, 0),
   ("square;", 0x25A1, 0), ("squarf;", 0x25AA, 0), ("squf;", 0x25AA, 0), ("srarr;", 0x2192, 0),
   ("sscr;", 0x1D4C8, 0), ("ssetmn;", 0x2216, 0), ("ssmile;", 0x2323, 0), ("sstarf;", 0x22C6, 0),
   ("star;", 0x2606, 0), ("starf;", 0x2605, 0), ("straightepsilon;", 0x3F5, 0),
   ("straightphi;", 0x3D5, 0), ("strns;", 0xAF, 0), ("sub;", 0x2282, 0), ("subE;", 0x2AC5, 0),
   ("subdot;", 0x2ABD, 0), ("sube;", 0x2286, 0), ("subedot;", 0x2AC3, 0), ("submult;", 0x2AC1, 0),
   ("subnE;", 0x2ACB, 0), ("subne;", 0x228A, 0), ("subplus;", 0x2ABF, 0), ("subrarr;", 0x2979, 0),
   ("subset;", 0x2282, 0), ("subseteq;", 0x2286, 0), ("subseteqq;", 0x2AC5, 0),
   ("subsetneq;", 0x228A, 0), ("subsetneqq;", 0x2ACB, 0), ("subsim;", 0x2AC7, 0),
   ("subsub;", 0x2AD5, 0), ("subsup;", 0x2AD3, 0), ("succ;", 0x227B, 0),
   ("succapprox;", 0x2AB8, 0), ("succcurlyeq;", 0x227D, 0), ("succeq;", 0x2AB0, 0),
   ("succnapprox;", 0x2ABA, 0), ("succneqq;", 0x2AB6, 0), ("succnsim;", 0x22E9, 0),
   ("succsim;", 0x227F, 0), ("sum;", 0x2211, 0), ("sung;", 0x266A, 0), ("sup1", 0xB9, 0),
   ("sup1;", 0xB9, 0), ("sup2", 0xB2, 0), ("sup2;", 0xB2, 0), ("sup3", 0xB3, 0),
   ("sup3;", 0xB3, 0), ("sup;", 0x2283, 0), ("supE;", 0x2AC6, 0), ("supdot;", 0x2ABE, 0),
   ("supdsub;", 0x2AD8, 0), ("supe;", 0x2287, 0), ("supedot;", 0x2AC4, 0),
   ("suphsol;", 0x27C9, 0), ("suphsub;", 0x2AD7, 0), ("suplarr;", 0x297B, 0),
   ("supmult;", 0x2AC2, 0), ("supnE;", 0x2ACC, 0), ("supne;", 0x228B, 0), ("supplus;", 0x2AC0, 0),
   ("supset;", 0x2283, 0), ("supseteq;", 0x2287, 0), ("supseteqq;", 0x2AC6, 0),
   ("supsetneq;", 0x228B, 0), ("supsetneqq;", 0x2ACC, 0), ("supsim;", 0x2AC8, 0),
   ("supsub;", 0x2AD4, 0), ("supsup;", 0x2AD6, 0), ("swArr;", 0x21D9, 0), ("swarhk;", 0x2926, 0),
   ("swarr;", 0x2199, 0), ("swarrow;", 0x2199, 0), ("swnwar;", 0x292A, 0), ("szlig", 0xDF, 0),
   ("szlig;", 0xDF, 0)]

/-- The names that begin with t. -/
def referencesLowerT : List NamedReference :=
  [("target;", 0x2316, 0), ("tau;", 0x3C4, 0), ("tbrk;", 0x23B4, 0), ("tcaron;", 0x165, 0),
   ("tcedil;", 0x163, 0), ("tcy;", 0x442, 0), ("tdot;", 0x20DB, 0), ("telrec;", 0x2315, 0),
   ("tfr;", 0x1D531, 0), ("there4;", 0x2234, 0), ("therefore;", 0x2234, 0), ("theta;", 0x3B8, 0),
   ("thetasym;", 0x3D1, 0), ("thetav;", 0x3D1, 0), ("thickapprox;", 0x2248, 0),
   ("thicksim;", 0x223C, 0), ("thinsp;", 0x2009, 0), ("thkap;", 0x2248, 0),
   ("thksim;", 0x223C, 0), ("thorn", 0xFE, 0), ("thorn;", 0xFE, 0), ("tilde;", 0x2DC, 0),
   ("times", 0xD7, 0), ("times;", 0xD7, 0), ("timesb;", 0x22A0, 0), ("timesbar;", 0x2A31, 0),
   ("timesd;", 0x2A30, 0), ("tint;", 0x222D, 0), ("toea;", 0x2928, 0), ("top;", 0x22A4, 0),
   ("topbot;", 0x2336, 0), ("topcir;", 0x2AF1, 0), ("topf;", 0x1D565, 0), ("topfork;", 0x2ADA, 0),
   ("tosa;", 0x2929, 0), ("tprime;", 0x2034, 0), ("trade;", 0x2122, 0), ("triangle;", 0x25B5, 0),
   ("triangledown;", 0x25BF, 0), ("triangleleft;", 0x25C3, 0), ("trianglelefteq;", 0x22B4, 0),
   ("triangleq;", 0x225C, 0), ("triangleright;", 0x25B9, 0), ("trianglerighteq;", 0x22B5, 0),
   ("tridot;", 0x25EC, 0), ("trie;", 0x225C, 0), ("triminus;", 0x2A3A, 0),
   ("triplus;", 0x2A39, 0), ("trisb;", 0x29CD, 0), ("tritime;", 0x2A3B, 0),
   ("trpezium;", 0x23E2, 0), ("tscr;", 0x1D4C9, 0), ("tscy;", 0x446, 0), ("tshcy;", 0x45B, 0),
   ("tstrok;", 0x167, 0), ("twixt;", 0x226C, 0), ("twoheadleftarrow;", 0x219E, 0),
   ("twoheadrightarrow;", 0x21A0, 0)]

/-- The names that begin with u. -/
def referencesLowerU : List NamedReference :=
  [("uArr;", 0x21D1, 0), ("uHar;", 0x2963, 0), ("uacute", 0xFA, 0), ("uacute;", 0xFA, 0),
   ("uarr;", 0x2191, 0), ("ubrcy;", 0x45E, 0), ("ubreve;", 0x16D, 0), ("ucirc", 0xFB, 0),
   ("ucirc;", 0xFB, 0), ("ucy;", 0x443, 0), ("udarr;", 0x21C5, 0), ("udblac;", 0x171, 0),
   ("udhar;", 0x296E, 0), ("ufisht;", 0x297E, 0), ("ufr;", 0x1D532, 0), ("ugrave", 0xF9, 0),
   ("ugrave;", 0xF9, 0), ("uharl;", 0x21BF, 0), ("uharr;", 0x21BE, 0), ("uhblk;", 0x2580, 0),
   ("ulcorn;", 0x231C, 0), ("ulcorner;", 0x231C, 0), ("ulcrop;", 0x230F, 0),
   ("ultri;", 0x25F8, 0), ("umacr;", 0x16B, 0), ("uml", 0xA8, 0), ("uml;", 0xA8, 0),
   ("uogon;", 0x173, 0), ("uopf;", 0x1D566, 0), ("uparrow;", 0x2191, 0),
   ("updownarrow;", 0x2195, 0), ("upharpoonleft;", 0x21BF, 0), ("upharpoonright;", 0x21BE, 0),
   ("uplus;", 0x228E, 0), ("upsi;", 0x3C5, 0), ("upsih;", 0x3D2, 0), ("upsilon;", 0x3C5, 0),
   ("upuparrows;", 0x21C8, 0), ("urcorn;", 0x231D, 0), ("urcorner;", 0x231D, 0),
   ("urcrop;", 0x230E, 0), ("uring;", 0x16F, 0), ("urtri;", 0x25F9, 0), ("uscr;", 0x1D4CA, 0),
   ("utdot;", 0x22F0, 0), ("utilde;", 0x169, 0), ("utri;", 0x25B5, 0), ("utrif;", 0x25B4, 0),
   ("uuarr;", 0x21C8, 0), ("uuml", 0xFC, 0), ("uuml;", 0xFC, 0), ("uwangle;", 0x29A7, 0)]

/-- The names that begin with v. -/
def referencesLowerV : List NamedReference :=
  [("vArr;", 0x21D5, 0), ("vBar;", 0x2AE8, 0), ("vBarv;", 0x2AE9, 0), ("vDash;", 0x22A8, 0),
   ("vangrt;", 0x299C, 0), ("varepsilon;", 0x3F5, 0), ("varkappa;", 0x3F0, 0),
   ("varnothing;", 0x2205, 0), ("varphi;", 0x3D5, 0), ("varpi;", 0x3D6, 0),
   ("varpropto;", 0x221D, 0), ("varr;", 0x2195, 0), ("varrho;", 0x3F1, 0),
   ("varsigma;", 0x3C2, 0), ("varsubsetneq;", 0x228A, 0xFE00), ("varsubsetneqq;", 0x2ACB, 0xFE00),
   ("varsupsetneq;", 0x228B, 0xFE00), ("varsupsetneqq;", 0x2ACC, 0xFE00), ("vartheta;", 0x3D1, 0),
   ("vartriangleleft;", 0x22B2, 0), ("vartriangleright;", 0x22B3, 0), ("vcy;", 0x432, 0),
   ("vdash;", 0x22A2, 0), ("vee;", 0x2228, 0), ("veebar;", 0x22BB, 0), ("veeeq;", 0x225A, 0),
   ("vellip;", 0x22EE, 0), ("verbar;", 0x7C, 0), ("vert;", 0x7C, 0), ("vfr;", 0x1D533, 0),
   ("vltri;", 0x22B2, 0), ("vnsub;", 0x2282, 0x20D2), ("vnsup;", 0x2283, 0x20D2),
   ("vopf;", 0x1D567, 0), ("vprop;", 0x221D, 0), ("vrtri;", 0x22B3, 0), ("vscr;", 0x1D4CB, 0),
   ("vsubnE;", 0x2ACB, 0xFE00), ("vsubne;", 0x228A, 0xFE00), ("vsupnE;", 0x2ACC, 0xFE00),
   ("vsupne;", 0x228B, 0xFE00), ("vzigzag;", 0x299A, 0)]

/-- The names that begin with w. -/
def referencesLowerW : List NamedReference :=
  [("wcirc;", 0x175, 0), ("wedbar;", 0x2A5F, 0), ("wedge;", 0x2227, 0), ("wedgeq;", 0x2259, 0),
   ("weierp;", 0x2118, 0), ("wfr;", 0x1D534, 0), ("wopf;", 0x1D568, 0), ("wp;", 0x2118, 0),
   ("wr;", 0x2240, 0), ("wreath;", 0x2240, 0), ("wscr;", 0x1D4CC, 0)]

/-- The names that begin with x. -/
def referencesLowerX : List NamedReference :=
  [("xcap;", 0x22C2, 0), ("xcirc;", 0x25EF, 0), ("xcup;", 0x22C3, 0), ("xdtri;", 0x25BD, 0),
   ("xfr;", 0x1D535, 0), ("xhArr;", 0x27FA, 0), ("xharr;", 0x27F7, 0), ("xi;", 0x3BE, 0),
   ("xlArr;", 0x27F8, 0), ("xlarr;", 0x27F5, 0), ("xmap;", 0x27FC, 0), ("xnis;", 0x22FB, 0),
   ("xodot;", 0x2A00, 0), ("xopf;", 0x1D569, 0), ("xoplus;", 0x2A01, 0), ("xotime;", 0x2A02, 0),
   ("xrArr;", 0x27F9, 0), ("xrarr;", 0x27F6, 0), ("xscr;", 0x1D4CD, 0), ("xsqcup;", 0x2A06, 0),
   ("xuplus;", 0x2A04, 0), ("xutri;", 0x25B3, 0), ("xvee;", 0x22C1, 0), ("xwedge;", 0x22C0, 0)]

/-- The names that begin with y. -/
def referencesLowerY : List NamedReference :=
  [("yacute", 0xFD, 0), ("yacute;", 0xFD, 0), ("yacy;", 0x44F, 0), ("ycirc;", 0x177, 0),
   ("ycy;", 0x44B, 0), ("yen", 0xA5, 0), ("yen;", 0xA5, 0), ("yfr;", 0x1D536, 0),
   ("yicy;", 0x457, 0), ("yopf;", 0x1D56A, 0), ("yscr;", 0x1D4CE, 0), ("yucy;", 0x44E, 0),
   ("yuml", 0xFF, 0), ("yuml;", 0xFF, 0)]

/-- The names that begin with z. -/
def referencesLowerZ : List NamedReference :=
  [("zacute;", 0x17A, 0), ("zcaron;", 0x17E, 0), ("zcy;", 0x437, 0), ("zdot;", 0x17C, 0),
   ("zeetrf;", 0x2128, 0), ("zeta;", 0x3B6, 0), ("zfr;", 0x1D537, 0), ("zhcy;", 0x436, 0),
   ("zigrarr;", 0x21DD, 0), ("zopf;", 0x1D56B, 0), ("zscr;", 0x1D4CF, 0), ("zwj;", 0x200D, 0),
   ("zwnj;", 0x200C, 0)]

/-- All names. -/
def namedReferences : List NamedReference :=
  [referencesUpperA, referencesUpperB, referencesUpperC, referencesUpperD, referencesUpperE,
   referencesUpperF, referencesUpperG, referencesUpperH, referencesUpperI, referencesUpperJ,
   referencesUpperK, referencesUpperL, referencesUpperM, referencesUpperN, referencesUpperO,
   referencesUpperP, referencesUpperQ, referencesUpperR, referencesUpperS, referencesUpperT,
   referencesUpperU, referencesUpperV, referencesUpperW, referencesUpperX, referencesUpperY,
   referencesUpperZ, referencesLowerA, referencesLowerB, referencesLowerC, referencesLowerD,
   referencesLowerE, referencesLowerF, referencesLowerG, referencesLowerH, referencesLowerI,
   referencesLowerJ, referencesLowerK, referencesLowerL, referencesLowerM, referencesLowerN,
   referencesLowerO, referencesLowerP, referencesLowerQ, referencesLowerR, referencesLowerS,
   referencesLowerT, referencesLowerU, referencesLowerV, referencesLowerW, referencesLowerX,
   referencesLowerY, referencesLowerZ].flatten

end Grounded.Html
