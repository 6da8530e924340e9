import PagedSparql.Text.Span

/-!
# Ages

The characters that came with each version of the standard, the oldest version first. Characters
that stand for no other use and those for private use have an age too.
-/

namespace PagedSparql.Text.Age

/-- The characters of version 1.1. -/
def version1x1 : List Span :=
  [(0x0, 0x1f5, 1), (0x1fa, 0x217, 1), (0x250, 0x2a8, 1), (0x2b0, 0x2de, 1), (0x2e0, 0x2e9, 1),
    (0x300, 0x345, 1), (0x360, 0x361, 1), (0x374, 0x375, 1), (0x37a, 0x37a, 1), (0x37e, 0x37e, 1),
    (0x384, 0x38a, 1), (0x38c, 0x38c, 1), (0x38e, 0x3a1, 1), (0x3a3, 0x3ce, 1), (0x3d0, 0x3d6, 1),
    (0x3da, 0x3e0, 2), (0x3e2, 0x3f3, 1), (0x401, 0x40c, 1), (0x40e, 0x44f, 1), (0x451, 0x45c, 1),
    (0x45e, 0x486, 1), (0x490, 0x4c4, 1), (0x4c7, 0x4c8, 1), (0x4cb, 0x4cc, 1), (0x4d0, 0x4eb, 1),
    (0x4ee, 0x4f5, 1), (0x4f8, 0x4f9, 1), (0x531, 0x556, 1), (0x559, 0x55f, 1), (0x561, 0x587, 1),
    (0x589, 0x589, 1), (0x5b0, 0x5b9, 1), (0x5bb, 0x5c3, 1), (0x5d0, 0x5ea, 1), (0x5f0, 0x5f4, 1),
    (0x60c, 0x60c, 1), (0x61b, 0x61b, 1), (0x61f, 0x61f, 1), (0x621, 0x63a, 1), (0x640, 0x652, 1),
    (0x660, 0x66d, 1), (0x670, 0x6b7, 1), (0x6ba, 0x6be, 1), (0x6c0, 0x6ce, 1), (0x6d0, 0x6ed, 1),
    (0x6f0, 0x6f9, 1), (0x901, 0x903, 1), (0x905, 0x939, 1), (0x93c, 0x94d, 1), (0x950, 0x954, 1),
    (0x958, 0x970, 1), (0x981, 0x983, 1), (0x985, 0x98c, 1), (0x98f, 0x990, 1), (0x993, 0x9a8, 1),
    (0x9aa, 0x9b0, 1), (0x9b2, 0x9b2, 1), (0x9b6, 0x9b9, 1), (0x9bc, 0x9bc, 1), (0x9be, 0x9c4, 1),
    (0x9c7, 0x9c8, 1), (0x9cb, 0x9cd, 1), (0x9d7, 0x9d7, 1), (0x9dc, 0x9dd, 1), (0x9df, 0x9e3, 1),
    (0x9e6, 0x9fa, 1), (0xa02, 0xa02, 1), (0xa05, 0xa0a, 1), (0xa0f, 0xa10, 1), (0xa13, 0xa28, 1),
    (0xa2a, 0xa30, 1), (0xa32, 0xa33, 1), (0xa35, 0xa36, 1), (0xa38, 0xa39, 1), (0xa3c, 0xa3c, 1),
    (0xa3e, 0xa42, 1), (0xa47, 0xa48, 1), (0xa4b, 0xa4d, 1), (0xa59, 0xa5c, 1), (0xa5e, 0xa5e, 1),
    (0xa66, 0xa74, 1), (0xa81, 0xa83, 1), (0xa85, 0xa8b, 1), (0xa8d, 0xa8d, 1), (0xa8f, 0xa91, 1),
    (0xa93, 0xaa8, 1), (0xaaa, 0xab0, 1), (0xab2, 0xab3, 1), (0xab5, 0xab9, 1), (0xabc, 0xac5, 1),
    (0xac7, 0xac9, 1), (0xacb, 0xacd, 1), (0xad0, 0xad0, 1), (0xae0, 0xae0, 1), (0xae6, 0xaef, 1),
    (0xb01, 0xb03, 1), (0xb05, 0xb0c, 1), (0xb0f, 0xb10, 1), (0xb13, 0xb28, 1), (0xb2a, 0xb30, 1),
    (0xb32, 0xb33, 1), (0xb36, 0xb39, 1), (0xb3c, 0xb43, 1), (0xb47, 0xb48, 1), (0xb4b, 0xb4d, 1),
    (0xb56, 0xb57, 1), (0xb5c, 0xb5d, 1), (0xb5f, 0xb61, 1), (0xb66, 0xb70, 1), (0xb82, 0xb83, 1),
    (0xb85, 0xb8a, 1), (0xb8e, 0xb90, 1), (0xb92, 0xb95, 1), (0xb99, 0xb9a, 1), (0xb9c, 0xb9c, 1),
    (0xb9e, 0xb9f, 1), (0xba3, 0xba4, 1), (0xba8, 0xbaa, 1), (0xbae, 0xbb5, 1), (0xbb7, 0xbb9, 1),
    (0xbbe, 0xbc2, 1), (0xbc6, 0xbc8, 1), (0xbca, 0xbcd, 1), (0xbd7, 0xbd7, 1), (0xbe7, 0xbf2, 1),
    (0xc01, 0xc03, 1), (0xc05, 0xc0c, 1), (0xc0e, 0xc10, 1), (0xc12, 0xc28, 1), (0xc2a, 0xc33, 1),
    (0xc35, 0xc39, 1), (0xc3e, 0xc44, 1), (0xc46, 0xc48, 1), (0xc4a, 0xc4d, 1), (0xc55, 0xc56, 1),
    (0xc60, 0xc61, 1), (0xc66, 0xc6f, 1), (0xc82, 0xc83, 1), (0xc85, 0xc8c, 1), (0xc8e, 0xc90, 1),
    (0xc92, 0xca8, 1), (0xcaa, 0xcb3, 1), (0xcb5, 0xcb9, 1), (0xcbe, 0xcc4, 1), (0xcc6, 0xcc8, 1),
    (0xcca, 0xccd, 1), (0xcd5, 0xcd6, 1), (0xcde, 0xcde, 1), (0xce0, 0xce1, 1), (0xce6, 0xcef, 1),
    (0xd02, 0xd03, 1), (0xd05, 0xd0c, 1), (0xd0e, 0xd10, 1), (0xd12, 0xd28, 1), (0xd2a, 0xd39, 1),
    (0xd3e, 0xd43, 1), (0xd46, 0xd48, 1), (0xd4a, 0xd4d, 1), (0xd57, 0xd57, 1), (0xd60, 0xd61, 1),
    (0xd66, 0xd6f, 1), (0xe01, 0xe3a, 1), (0xe3f, 0xe5b, 1), (0xe81, 0xe82, 1), (0xe84, 0xe84, 1),
    (0xe87, 0xe88, 1), (0xe8a, 0xe8a, 1), (0xe8d, 0xe8d, 1), (0xe94, 0xe97, 1), (0xe99, 0xe9f, 1),
    (0xea1, 0xea3, 1), (0xea5, 0xea7, 2), (0xeaa, 0xeab, 1), (0xead, 0xeb9, 1), (0xebb, 0xebd, 1),
    (0xec0, 0xec4, 1), (0xec6, 0xec6, 1), (0xec8, 0xecd, 1), (0xed0, 0xed9, 1), (0xedc, 0xedd, 1),
    (0x10a0, 0x10c5, 1), (0x10d0, 0x10f6, 1), (0x10fb, 0x10fb, 1), (0x1100, 0x1159, 1),
    (0x115f, 0x11a2, 1), (0x11a8, 0x11f9, 1), (0x1e00, 0x1e9a, 1), (0x1ea0, 0x1ef9, 1),
    (0x1f00, 0x1f15, 1), (0x1f18, 0x1f1d, 1), (0x1f20, 0x1f45, 1), (0x1f48, 0x1f4d, 1),
    (0x1f50, 0x1f57, 1), (0x1f59, 0x1f5d, 2), (0x1f5f, 0x1f7d, 1), (0x1f80, 0x1fb4, 1),
    (0x1fb6, 0x1fc4, 1), (0x1fc6, 0x1fd3, 1), (0x1fd6, 0x1fdb, 1), (0x1fdd, 0x1fef, 1),
    (0x1ff2, 0x1ff4, 1), (0x1ff6, 0x1ffe, 1), (0x2000, 0x202e, 1), (0x2030, 0x2046, 1),
    (0x206a, 0x2070, 1), (0x2074, 0x208e, 1), (0x20a0, 0x20aa, 1), (0x20d0, 0x20e1, 1),
    (0x2100, 0x2138, 1), (0x2153, 0x2182, 1), (0x2190, 0x21ea, 1), (0x2200, 0x22f1, 1),
    (0x2300, 0x2300, 1), (0x2302, 0x237a, 1), (0x2400, 0x2424, 1), (0x2440, 0x244a, 1),
    (0x2460, 0x24ea, 1), (0x2500, 0x2595, 1), (0x25a0, 0x25ef, 1), (0x2600, 0x2613, 1),
    (0x261a, 0x266f, 1), (0x2701, 0x2704, 1), (0x2706, 0x2709, 1), (0x270c, 0x2727, 1),
    (0x2729, 0x274b, 1), (0x274d, 0x274d, 1), (0x274f, 0x2752, 1), (0x2756, 0x2756, 1),
    (0x2758, 0x275e, 1), (0x2761, 0x2767, 1), (0x2776, 0x2794, 1), (0x2798, 0x27af, 1),
    (0x27b1, 0x27be, 1), (0x3000, 0x3037, 1), (0x303f, 0x303f, 1), (0x3041, 0x3094, 1),
    (0x3099, 0x309e, 1), (0x30a1, 0x30fe, 1), (0x3105, 0x312c, 1), (0x3131, 0x318e, 1),
    (0x3190, 0x319f, 1), (0x3200, 0x321c, 1), (0x3220, 0x3243, 1), (0x3260, 0x327b, 1),
    (0x327f, 0x32b0, 1), (0x32c0, 0x32cb, 1), (0x32d0, 0x32fe, 1), (0x3300, 0x3376, 1),
    (0x337b, 0x33dd, 1), (0x33e0, 0x33fe, 1), (0x4e00, 0x9fa5, 1), (0xe000, 0xfa2d, 1),
    (0xfb00, 0xfb06, 1), (0xfb13, 0xfb17, 1), (0xfb1e, 0xfb36, 1), (0xfb38, 0xfb3c, 1),
    (0xfb3e, 0xfb3e, 1), (0xfb40, 0xfb41, 1), (0xfb43, 0xfb44, 1), (0xfb46, 0xfbb1, 1),
    (0xfbd3, 0xfd3f, 1), (0xfd50, 0xfd8f, 1), (0xfd92, 0xfdc7, 1), (0xfdf0, 0xfdfb, 1),
    (0xfe20, 0xfe23, 1), (0xfe30, 0xfe44, 1), (0xfe49, 0xfe52, 1), (0xfe54, 0xfe66, 1),
    (0xfe68, 0xfe6b, 1), (0xfe70, 0xfe72, 1), (0xfe74, 0xfe74, 1), (0xfe76, 0xfefc, 1),
    (0xfeff, 0xfeff, 1), (0xff01, 0xff5e, 1), (0xff61, 0xffbe, 1), (0xffc2, 0xffc7, 1),
    (0xffca, 0xffcf, 1), (0xffd2, 0xffd7, 1), (0xffda, 0xffdc, 1), (0xffe0, 0xffe6, 1),
    (0xffe8, 0xffee, 1), (0xfffd, 0xffff, 1)]

/-- The characters of version 2.0. -/
def version2x0 : List Span :=
  [(0x591, 0x5a1, 1), (0x5a3, 0x5af, 1), (0x5c4, 0x5c4, 1), (0xf00, 0xf47, 1), (0xf49, 0xf69, 1),
    (0xf71, 0xf8b, 1), (0xf90, 0xf95, 1), (0xf97, 0xf97, 1), (0xf99, 0xfad, 1), (0xfb1, 0xfb7, 1),
    (0xfb9, 0xfb9, 1), (0x1e9b, 0x1e9b, 1), (0x20ab, 0x20ab, 1), (0xac00, 0xd7a3, 1),
    (0x1fffe, 0x1ffff, 1), (0x2fffe, 0x2ffff, 1), (0x3fffe, 0x3ffff, 1), (0x4fffe, 0x4ffff, 1),
    (0x5fffe, 0x5ffff, 1), (0x6fffe, 0x6ffff, 1), (0x7fffe, 0x7ffff, 1), (0x8fffe, 0x8ffff, 1),
    (0x9fffe, 0x9ffff, 1), (0xafffe, 0xaffff, 1), (0xbfffe, 0xbffff, 1), (0xcfffe, 0xcffff, 1),
    (0xdfffe, 0xdffff, 1), (0xefffe, 0x10ffff, 1)]

/-- The characters of version 2.1. -/
def version2x1 : List Span :=
  [(0x20ac, 0x20ac, 1), (0xfffc, 0xfffc, 1)]

/-- The characters of version 3.0. -/
def version3x0 : List Span :=
  [(0x1f6, 0x1f9, 1), (0x218, 0x21f, 1), (0x222, 0x233, 1), (0x2a9, 0x2ad, 1), (0x2df, 0x2df, 1),
    (0x2ea, 0x2ee, 1), (0x346, 0x34e, 1), (0x362, 0x362, 1), (0x3d7, 0x3d7, 1), (0x3db, 0x3e1, 2),
    (0x400, 0x400, 1), (0x40d, 0x40d, 1), (0x450, 0x450, 1), (0x45d, 0x45d, 1), (0x488, 0x489, 1),
    (0x48c, 0x48f, 1), (0x4ec, 0x4ed, 1), (0x58a, 0x58a, 1), (0x653, 0x655, 1), (0x6b8, 0x6b9, 1),
    (0x6bf, 0x6bf, 1), (0x6cf, 0x6cf, 1), (0x6fa, 0x6fe, 1), (0x700, 0x70d, 1), (0x70f, 0x72c, 1),
    (0x730, 0x74a, 1), (0x780, 0x7b0, 1), (0xd82, 0xd83, 1), (0xd85, 0xd96, 1), (0xd9a, 0xdb1, 1),
    (0xdb3, 0xdbb, 1), (0xdbd, 0xdbd, 1), (0xdc0, 0xdc6, 1), (0xdca, 0xdca, 1), (0xdcf, 0xdd4, 1),
    (0xdd6, 0xdd6, 1), (0xdd8, 0xddf, 1), (0xdf2, 0xdf4, 1), (0xf6a, 0xf6a, 1), (0xf96, 0xf96, 1),
    (0xfae, 0xfb0, 1), (0xfb8, 0xfb8, 1), (0xfba, 0xfbc, 1), (0xfbe, 0xfcc, 1), (0xfcf, 0xfcf, 1),
    (0x1000, 0x1021, 1), (0x1023, 0x1027, 1), (0x1029, 0x102a, 1), (0x102c, 0x1032, 1),
    (0x1036, 0x1039, 1), (0x1040, 0x1059, 1), (0x1200, 0x1206, 1), (0x1208, 0x1246, 1),
    (0x1248, 0x1248, 1), (0x124a, 0x124d, 1), (0x1250, 0x1256, 1), (0x1258, 0x1258, 1),
    (0x125a, 0x125d, 1), (0x1260, 0x1286, 1), (0x1288, 0x1288, 1), (0x128a, 0x128d, 1),
    (0x1290, 0x12ae, 1), (0x12b0, 0x12b0, 1), (0x12b2, 0x12b5, 1), (0x12b8, 0x12be, 1),
    (0x12c0, 0x12c0, 1), (0x12c2, 0x12c5, 1), (0x12c8, 0x12ce, 1), (0x12d0, 0x12d6, 1),
    (0x12d8, 0x12ee, 1), (0x12f0, 0x130e, 1), (0x1310, 0x1310, 1), (0x1312, 0x1315, 1),
    (0x1318, 0x131e, 1), (0x1320, 0x1346, 1), (0x1348, 0x135a, 1), (0x1361, 0x137c, 1),
    (0x13a0, 0x13f4, 1), (0x1401, 0x1676, 1), (0x1680, 0x169c, 1), (0x16a0, 0x16f0, 1),
    (0x1780, 0x17dc, 1), (0x17e0, 0x17e9, 1), (0x1800, 0x180e, 1), (0x1810, 0x1819, 1),
    (0x1820, 0x1877, 1), (0x1880, 0x18a9, 1), (0x202f, 0x202f, 1), (0x2048, 0x204d, 1),
    (0x20ad, 0x20af, 1), (0x20e2, 0x20e3, 1), (0x2139, 0x213a, 1), (0x2183, 0x2183, 1),
    (0x21eb, 0x21f3, 1), (0x2301, 0x2301, 1), (0x237b, 0x237b, 1), (0x237d, 0x239a, 1),
    (0x2425, 0x2426, 1), (0x25f0, 0x25f7, 1), (0x2619, 0x2619, 1), (0x2670, 0x2671, 1),
    (0x2800, 0x28ff, 1), (0x2e80, 0x2e99, 1), (0x2e9b, 0x2ef3, 1), (0x2f00, 0x2fd5, 1),
    (0x2ff0, 0x2ffb, 1), (0x3038, 0x303a, 1), (0x303e, 0x303e, 1), (0x31a0, 0x31b7, 1),
    (0x3400, 0x4db5, 1), (0xa000, 0xa48c, 1), (0xa490, 0xa4a1, 1), (0xa4a4, 0xa4b3, 1),
    (0xa4b5, 0xa4c0, 1), (0xa4c2, 0xa4c4, 1), (0xa4c6, 0xa4c6, 1), (0xfb1d, 0xfb1d, 1),
    (0xfff9, 0xfffb, 1)]

/-- The characters of version 3.1. -/
def version3x1 : List Span :=
  [(0x3f4, 0x3f5, 1), (0xfdd0, 0xfdef, 1), (0x10300, 0x1031e, 1), (0x10320, 0x10323, 1),
    (0x10330, 0x1034a, 1), (0x10400, 0x10425, 1), (0x10428, 0x1044d, 1), (0x1d000, 0x1d0f5, 1),
    (0x1d100, 0x1d126, 1), (0x1d12a, 0x1d1dd, 1), (0x1d400, 0x1d454, 1), (0x1d456, 0x1d49c, 1),
    (0x1d49e, 0x1d49f, 1), (0x1d4a2, 0x1d4a2, 1), (0x1d4a5, 0x1d4a6, 1), (0x1d4a9, 0x1d4ac, 1),
    (0x1d4ae, 0x1d4b9, 1), (0x1d4bb, 0x1d4bb, 1), (0x1d4bd, 0x1d4c0, 1), (0x1d4c2, 0x1d4c3, 1),
    (0x1d4c5, 0x1d505, 1), (0x1d507, 0x1d50a, 1), (0x1d50d, 0x1d514, 1), (0x1d516, 0x1d51c, 1),
    (0x1d51e, 0x1d539, 1), (0x1d53b, 0x1d53e, 1), (0x1d540, 0x1d544, 1), (0x1d546, 0x1d546, 1),
    (0x1d54a, 0x1d550, 1), (0x1d552, 0x1d6a3, 1), (0x1d6a8, 0x1d7c9, 1), (0x1d7ce, 0x1d7ff, 1),
    (0x20000, 0x2a6d6, 1), (0x2f800, 0x2fa1d, 1), (0xe0001, 0xe0001, 1), (0xe0020, 0xe007f, 1)]

/-- The characters of version 3.2. -/
def version3x2 : List Span :=
  [(0x220, 0x220, 1), (0x34f, 0x34f, 1), (0x363, 0x36f, 1), (0x3d8, 0x3d9, 1), (0x3f6, 0x3f6, 1),
    (0x48a, 0x48b, 1), (0x4c5, 0x4c6, 1), (0x4c9, 0x4ca, 1), (0x4cd, 0x4ce, 1), (0x500, 0x50f, 1),
    (0x66e, 0x66f, 1), (0x7b1, 0x7b1, 1), (0x10f7, 0x10f8, 1), (0x1700, 0x170c, 1),
    (0x170e, 0x1714, 1), (0x1720, 0x1736, 1), (0x1740, 0x1753, 1), (0x1760, 0x176c, 1),
    (0x176e, 0x1770, 1), (0x1772, 0x1773, 1), (0x2047, 0x2047, 1), (0x204e, 0x2052, 1),
    (0x2057, 0x2057, 1), (0x205f, 0x2063, 1), (0x2071, 0x2071, 1), (0x20b0, 0x20b1, 1),
    (0x20e4, 0x20ea, 1), (0x213d, 0x214b, 1), (0x21f4, 0x21ff, 1), (0x22f2, 0x22ff, 1),
    (0x237c, 0x237c, 1), (0x239b, 0x23ce, 1), (0x24eb, 0x24fe, 1), (0x2596, 0x259f, 1),
    (0x25f8, 0x25ff, 1), (0x2616, 0x2617, 1), (0x2672, 0x267d, 1), (0x2680, 0x2689, 1),
    (0x2768, 0x2775, 1), (0x27d0, 0x27eb, 1), (0x27f0, 0x27ff, 1), (0x2900, 0x2aff, 1),
    (0x303b, 0x303d, 1), (0x3095, 0x3096, 1), (0x309f, 0x30a0, 1), (0x30ff, 0x30ff, 1),
    (0x31f0, 0x31ff, 1), (0x3251, 0x325f, 1), (0x32b1, 0x32bf, 1), (0xa4a2, 0xa4a3, 1),
    (0xa4b4, 0xa4b4, 1), (0xa4c1, 0xa4c1, 1), (0xa4c5, 0xa4c5, 1), (0xfa30, 0xfa6a, 1),
    (0xfdfc, 0xfdfc, 1), (0xfe00, 0xfe0f, 1), (0xfe45, 0xfe46, 1), (0xfe73, 0xfe73, 1),
    (0xff5f, 0xff60, 1)]

/-- The characters of version 4.0. -/
def version4x0 : List Span :=
  [(0x221, 0x221, 1), (0x234, 0x236, 1), (0x2ae, 0x2af, 1), (0x2ef, 0x2ff, 1), (0x350, 0x357, 1),
    (0x35d, 0x35f, 1), (0x3f7, 0x3fb, 1), (0x600, 0x603, 1), (0x60d, 0x615, 1), (0x656, 0x658, 1),
    (0x6ee, 0x6ef, 1), (0x6ff, 0x6ff, 1), (0x72d, 0x72f, 1), (0x74d, 0x74f, 1), (0x904, 0x904, 1),
    (0x9bd, 0x9bd, 1), (0xa01, 0xa03, 2), (0xa8c, 0xa8c, 1), (0xae1, 0xae3, 1), (0xaf1, 0xaf1, 1),
    (0xb35, 0xb35, 1), (0xb71, 0xb71, 1), (0xbf3, 0xbfa, 1), (0xcbc, 0xcbd, 1), (0x17dd, 0x17dd, 1),
    (0x17f0, 0x17f9, 1), (0x1900, 0x191c, 1), (0x1920, 0x192b, 1), (0x1930, 0x193b, 1),
    (0x1940, 0x1940, 1), (0x1944, 0x196d, 1), (0x1970, 0x1974, 1), (0x19e0, 0x19ff, 1),
    (0x1d00, 0x1d6b, 1), (0x2053, 0x2054, 1), (0x213b, 0x213b, 1), (0x23cf, 0x23d0, 1),
    (0x24ff, 0x24ff, 1), (0x2614, 0x2615, 1), (0x268a, 0x2691, 1), (0x26a0, 0x26a1, 1),
    (0x2b00, 0x2b0d, 1), (0x321d, 0x321e, 1), (0x3250, 0x3250, 1), (0x327c, 0x327d, 1),
    (0x32cc, 0x32cf, 1), (0x3377, 0x337a, 1), (0x33de, 0x33df, 1), (0x33ff, 0x33ff, 1),
    (0x4dc0, 0x4dff, 1), (0xfdfd, 0xfdfd, 1), (0xfe47, 0xfe48, 1), (0x10000, 0x1000b, 1),
    (0x1000d, 0x10026, 1), (0x10028, 0x1003a, 1), (0x1003c, 0x1003d, 1), (0x1003f, 0x1004d, 1),
    (0x10050, 0x1005d, 1), (0x10080, 0x100fa, 1), (0x10100, 0x10102, 1), (0x10107, 0x10133, 1),
    (0x10137, 0x1013f, 1), (0x10380, 0x1039d, 1), (0x1039f, 0x1039f, 1), (0x10426, 0x10427, 1),
    (0x1044e, 0x1049d, 1), (0x104a0, 0x104a9, 1), (0x10800, 0x10805, 1), (0x10808, 0x10808, 1),
    (0x1080a, 0x10835, 1), (0x10837, 0x10838, 1), (0x1083c, 0x1083c, 1), (0x1083f, 0x1083f, 1),
    (0x1d300, 0x1d356, 1), (0x1d4c1, 0x1d4c1, 1), (0xe0100, 0xe01ef, 1)]

/-- The characters of version 4.1. -/
def version4x1 : List Span :=
  [(0x237, 0x241, 1), (0x358, 0x35c, 1), (0x3fc, 0x3ff, 1), (0x4f6, 0x4f7, 1), (0x5a2, 0x5a2, 1),
    (0x5c5, 0x5c7, 1), (0x60b, 0x60b, 1), (0x61e, 0x61e, 1), (0x659, 0x65e, 1), (0x750, 0x76d, 1),
    (0x97d, 0x97d, 1), (0x9ce, 0x9ce, 1), (0xbb6, 0xbb6, 1), (0xbe6, 0xbe6, 1), (0xfd0, 0xfd1, 1),
    (0x10f9, 0x10fa, 1), (0x10fc, 0x10fc, 1), (0x1207, 0x1287, 64), (0x12af, 0x130f, 32),
    (0x131f, 0x131f, 1), (0x1347, 0x1347, 1), (0x135f, 0x1360, 1), (0x1380, 0x1399, 1),
    (0x1980, 0x19a9, 1), (0x19b0, 0x19c9, 1), (0x19d0, 0x19d9, 1), (0x19de, 0x19df, 1),
    (0x1a00, 0x1a1b, 1), (0x1a1e, 0x1a1f, 1), (0x1d6c, 0x1dc3, 1), (0x2055, 0x2056, 1),
    (0x2058, 0x205e, 1), (0x2090, 0x2094, 1), (0x20b2, 0x20b5, 1), (0x20eb, 0x20eb, 1),
    (0x213c, 0x213c, 1), (0x214c, 0x214c, 1), (0x23d1, 0x23db, 1), (0x2618, 0x2618, 1),
    (0x267e, 0x267f, 1), (0x2692, 0x269c, 1), (0x26a2, 0x26b1, 1), (0x27c0, 0x27c6, 1),
    (0x2b0e, 0x2b13, 1), (0x2c00, 0x2c2e, 1), (0x2c30, 0x2c5e, 1), (0x2c80, 0x2cea, 1),
    (0x2cf9, 0x2d25, 1), (0x2d30, 0x2d65, 1), (0x2d6f, 0x2d6f, 1), (0x2d80, 0x2d96, 1),
    (0x2da0, 0x2da6, 1), (0x2da8, 0x2dae, 1), (0x2db0, 0x2db6, 1), (0x2db8, 0x2dbe, 1),
    (0x2dc0, 0x2dc6, 1), (0x2dc8, 0x2dce, 1), (0x2dd0, 0x2dd6, 1), (0x2dd8, 0x2dde, 1),
    (0x2e00, 0x2e17, 1), (0x2e1c, 0x2e1d, 1), (0x31c0, 0x31cf, 1), (0x327e, 0x327e, 1),
    (0x9fa6, 0x9fbb, 1), (0xa700, 0xa716, 1), (0xa800, 0xa82b, 1), (0xfa70, 0xfad9, 1),
    (0xfe10, 0xfe19, 1), (0x10140, 0x1018a, 1), (0x103a0, 0x103c3, 1), (0x103c8, 0x103d5, 1),
    (0x10a00, 0x10a03, 1), (0x10a05, 0x10a06, 1), (0x10a0c, 0x10a13, 1), (0x10a15, 0x10a17, 1),
    (0x10a19, 0x10a33, 1), (0x10a38, 0x10a3a, 1), (0x10a3f, 0x10a47, 1), (0x10a50, 0x10a58, 1),
    (0x1d200, 0x1d245, 1), (0x1d6a4, 0x1d6a5, 1)]

/-- The characters of version 5.0. -/
def version5x0 : List Span :=
  [(0x242, 0x24f, 1), (0x37b, 0x37d, 1), (0x4cf, 0x4cf, 1), (0x4fa, 0x4ff, 1), (0x510, 0x513, 1),
    (0x5ba, 0x5ba, 1), (0x7c0, 0x7fa, 1), (0x97b, 0x97c, 1), (0x97e, 0x97f, 1), (0xce2, 0xce3, 1),
    (0xcf1, 0xcf2, 1), (0x1b00, 0x1b4b, 1), (0x1b50, 0x1b7c, 1), (0x1dc4, 0x1dca, 1),
    (0x1dfe, 0x1dff, 1), (0x20ec, 0x20ef, 1), (0x214d, 0x214e, 1), (0x2184, 0x2184, 1),
    (0x23dc, 0x23e7, 1), (0x26b2, 0x26b2, 1), (0x27c7, 0x27ca, 1), (0x2b14, 0x2b1a, 1),
    (0x2b20, 0x2b23, 1), (0x2c60, 0x2c6c, 1), (0x2c74, 0x2c77, 1), (0xa717, 0xa71a, 1),
    (0xa720, 0xa721, 1), (0xa840, 0xa877, 1), (0x10900, 0x10919, 1), (0x1091f, 0x1091f, 1),
    (0x12000, 0x1236e, 1), (0x12400, 0x12462, 1), (0x12470, 0x12473, 1), (0x1d360, 0x1d371, 1),
    (0x1d7ca, 0x1d7cb, 1)]

/-- The characters of version 5.1. -/
def version5x1 : List Span :=
  [(0x370, 0x373, 1), (0x376, 0x377, 1), (0x3cf, 0x3cf, 1), (0x487, 0x487, 1), (0x514, 0x523, 1),
    (0x606, 0x60a, 1), (0x616, 0x61a, 1), (0x63b, 0x63f, 1), (0x76e, 0x77f, 1), (0x971, 0x972, 1),
    (0xa51, 0xa51, 1), (0xa75, 0xa75, 1), (0xb44, 0xb44, 1), (0xb62, 0xb63, 1), (0xbd0, 0xbd0, 1),
    (0xc3d, 0xc3d, 1), (0xc58, 0xc59, 1), (0xc62, 0xc63, 1), (0xc78, 0xc7f, 1), (0xd3d, 0xd3d, 1),
    (0xd44, 0xd44, 1), (0xd62, 0xd63, 1), (0xd70, 0xd75, 1), (0xd79, 0xd7f, 1), (0xf6b, 0xf6c, 1),
    (0xfce, 0xfce, 1), (0xfd2, 0xfd4, 1), (0x1022, 0x1022, 1), (0x1028, 0x1028, 1),
    (0x102b, 0x102b, 1), (0x1033, 0x1035, 1), (0x103a, 0x103f, 1), (0x105a, 0x1099, 1),
    (0x109e, 0x109f, 1), (0x18aa, 0x18aa, 1), (0x1b80, 0x1baa, 1), (0x1bae, 0x1bb9, 1),
    (0x1c00, 0x1c37, 1), (0x1c3b, 0x1c49, 1), (0x1c4d, 0x1c7f, 1), (0x1dcb, 0x1de6, 1),
    (0x1e9c, 0x1e9f, 1), (0x1efa, 0x1eff, 1), (0x2064, 0x2064, 1), (0x20f0, 0x20f0, 1),
    (0x214f, 0x214f, 1), (0x2185, 0x2188, 1), (0x269d, 0x269d, 1), (0x26b3, 0x26bc, 1),
    (0x26c0, 0x26c3, 1), (0x27cc, 0x27cc, 1), (0x27ec, 0x27ef, 1), (0x2b1b, 0x2b1f, 1),
    (0x2b24, 0x2b4c, 1), (0x2b50, 0x2b54, 1), (0x2c6d, 0x2c6f, 1), (0x2c71, 0x2c73, 1),
    (0x2c78, 0x2c7d, 1), (0x2de0, 0x2dff, 1), (0x2e18, 0x2e1b, 1), (0x2e1e, 0x2e30, 1),
    (0x312d, 0x312d, 1), (0x31d0, 0x31e3, 1), (0x9fbc, 0x9fc3, 1), (0xa500, 0xa62b, 1),
    (0xa640, 0xa65f, 1), (0xa662, 0xa673, 1), (0xa67c, 0xa697, 1), (0xa71b, 0xa71f, 1),
    (0xa722, 0xa78c, 1), (0xa7fb, 0xa7ff, 1), (0xa880, 0xa8c4, 1), (0xa8ce, 0xa8d9, 1),
    (0xa900, 0xa953, 1), (0xa95f, 0xa95f, 1), (0xaa00, 0xaa36, 1), (0xaa40, 0xaa4d, 1),
    (0xaa50, 0xaa59, 1), (0xaa5c, 0xaa5f, 1), (0xfe24, 0xfe26, 1), (0x10190, 0x1019b, 1),
    (0x101d0, 0x101fd, 1), (0x10280, 0x1029c, 1), (0x102a0, 0x102d0, 1), (0x10920, 0x10939, 1),
    (0x1093f, 0x1093f, 1), (0x1d129, 0x1d129, 1), (0x1f000, 0x1f02b, 1), (0x1f030, 0x1f093, 1)]

/-- The characters of version 5.2. -/
def version5x2 : List Span :=
  [(0x524, 0x525, 1), (0x800, 0x82d, 1), (0x830, 0x83e, 1), (0x900, 0x900, 1), (0x94e, 0x94e, 1),
    (0x955, 0x955, 1), (0x979, 0x97a, 1), (0x9fb, 0x9fb, 1), (0xfd5, 0xfd8, 1), (0x109a, 0x109d, 1),
    (0x115a, 0x115e, 1), (0x11a3, 0x11a7, 1), (0x11fa, 0x11ff, 1), (0x1400, 0x1400, 1),
    (0x1677, 0x167f, 1), (0x18b0, 0x18f5, 1), (0x19aa, 0x19ab, 1), (0x19da, 0x19da, 1),
    (0x1a20, 0x1a5e, 1), (0x1a60, 0x1a7c, 1), (0x1a7f, 0x1a89, 1), (0x1a90, 0x1a99, 1),
    (0x1aa0, 0x1aad, 1), (0x1cd0, 0x1cf2, 1), (0x1dfd, 0x1dfd, 1), (0x20b6, 0x20b8, 1),
    (0x2150, 0x2152, 1), (0x2189, 0x2189, 1), (0x23e8, 0x23e8, 1), (0x269e, 0x269f, 1),
    (0x26bd, 0x26bf, 1), (0x26c4, 0x26cd, 1), (0x26cf, 0x26e1, 1), (0x26e3, 0x26e3, 1),
    (0x26e8, 0x26ff, 1), (0x2757, 0x2757, 1), (0x2b55, 0x2b59, 1), (0x2c70, 0x2c70, 1),
    (0x2c7e, 0x2c7f, 1), (0x2ceb, 0x2cf1, 1), (0x2e31, 0x2e31, 1), (0x3244, 0x324f, 1),
    (0x9fc4, 0x9fcb, 1), (0xa4d0, 0xa4ff, 1), (0xa6a0, 0xa6f7, 1), (0xa830, 0xa839, 1),
    (0xa8e0, 0xa8fb, 1), (0xa960, 0xa97c, 1), (0xa980, 0xa9cd, 1), (0xa9cf, 0xa9d9, 1),
    (0xa9de, 0xa9df, 1), (0xaa60, 0xaa7b, 1), (0xaa80, 0xaac2, 1), (0xaadb, 0xaadf, 1),
    (0xabc0, 0xabed, 1), (0xabf0, 0xabf9, 1), (0xd7b0, 0xd7c6, 1), (0xd7cb, 0xd7fb, 1),
    (0xfa6b, 0xfa6d, 1), (0x10840, 0x10855, 1), (0x10857, 0x1085f, 1), (0x1091a, 0x1091b, 1),
    (0x10a60, 0x10a7f, 1), (0x10b00, 0x10b35, 1), (0x10b39, 0x10b55, 1), (0x10b58, 0x10b72, 1),
    (0x10b78, 0x10b7f, 1), (0x10c00, 0x10c48, 1), (0x10e60, 0x10e7e, 1), (0x11080, 0x110c1, 1),
    (0x13000, 0x1342e, 1), (0x1f100, 0x1f10a, 1), (0x1f110, 0x1f12e, 1), (0x1f131, 0x1f131, 1),
    (0x1f13d, 0x1f13f, 2), (0x1f142, 0x1f142, 1), (0x1f146, 0x1f146, 1), (0x1f14a, 0x1f14e, 1),
    (0x1f157, 0x1f157, 1), (0x1f15f, 0x1f15f, 1), (0x1f179, 0x1f179, 1), (0x1f17b, 0x1f17c, 1),
    (0x1f17f, 0x1f17f, 1), (0x1f18a, 0x1f18d, 1), (0x1f190, 0x1f190, 1), (0x1f200, 0x1f200, 1),
    (0x1f210, 0x1f231, 1), (0x1f240, 0x1f248, 1), (0x2a700, 0x2b734, 1)]

/-- The characters of version 6.0. -/
def version6x0 : List Span :=
  [(0x526, 0x527, 1), (0x620, 0x620, 1), (0x65f, 0x65f, 1), (0x840, 0x85b, 1), (0x85e, 0x85e, 1),
    (0x93a, 0x93b, 1), (0x94f, 0x94f, 1), (0x956, 0x957, 1), (0x973, 0x977, 1), (0xb72, 0xb77, 1),
    (0xd29, 0xd29, 1), (0xd3a, 0xd3a, 1), (0xd4e, 0xd4e, 1), (0xf8c, 0xf8f, 1), (0xfd9, 0xfda, 1),
    (0x135d, 0x135e, 1), (0x1bc0, 0x1bf3, 1), (0x1bfc, 0x1bff, 1), (0x1dfc, 0x1dfc, 1),
    (0x2095, 0x209c, 1), (0x20b9, 0x20b9, 1), (0x23e9, 0x23f3, 1), (0x26ce, 0x26ce, 1),
    (0x26e2, 0x26e2, 1), (0x26e4, 0x26e7, 1), (0x2705, 0x2705, 1), (0x270a, 0x270b, 1),
    (0x2728, 0x2728, 1), (0x274c, 0x274e, 2), (0x2753, 0x2755, 1), (0x275f, 0x2760, 1),
    (0x2795, 0x2797, 1), (0x27b0, 0x27b0, 1), (0x27bf, 0x27bf, 1), (0x27ce, 0x27cf, 1),
    (0x2d70, 0x2d70, 1), (0x2d7f, 0x2d7f, 1), (0x31b8, 0x31ba, 1), (0xa660, 0xa661, 1),
    (0xa78d, 0xa78e, 1), (0xa790, 0xa791, 1), (0xa7a0, 0xa7a9, 1), (0xa7fa, 0xa7fa, 1),
    (0xab01, 0xab06, 1), (0xab09, 0xab0e, 1), (0xab11, 0xab16, 1), (0xab20, 0xab26, 1),
    (0xab28, 0xab2e, 1), (0xfbb2, 0xfbc1, 1), (0x11000, 0x1104d, 1), (0x11052, 0x1106f, 1),
    (0x16800, 0x16a38, 1), (0x1b000, 0x1b001, 1), (0x1f0a0, 0x1f0ae, 1), (0x1f0b1, 0x1f0be, 1),
    (0x1f0c1, 0x1f0cf, 1), (0x1f0d1, 0x1f0df, 1), (0x1f130, 0x1f130, 1), (0x1f132, 0x1f13c, 1),
    (0x1f13e, 0x1f13e, 1), (0x1f140, 0x1f141, 1), (0x1f143, 0x1f145, 1), (0x1f147, 0x1f149, 1),
    (0x1f14f, 0x1f156, 1), (0x1f158, 0x1f15e, 1), (0x1f160, 0x1f169, 1), (0x1f170, 0x1f178, 1),
    (0x1f17a, 0x1f17a, 1), (0x1f17d, 0x1f17e, 1), (0x1f180, 0x1f189, 1), (0x1f18e, 0x1f18f, 1),
    (0x1f191, 0x1f19a, 1), (0x1f1e6, 0x1f1ff, 1), (0x1f201, 0x1f202, 1), (0x1f232, 0x1f23a, 1),
    (0x1f250, 0x1f251, 1), (0x1f300, 0x1f320, 1), (0x1f330, 0x1f335, 1), (0x1f337, 0x1f37c, 1),
    (0x1f380, 0x1f393, 1), (0x1f3a0, 0x1f3c4, 1), (0x1f3c6, 0x1f3ca, 1), (0x1f3e0, 0x1f3f0, 1),
    (0x1f400, 0x1f43e, 1), (0x1f440, 0x1f440, 1), (0x1f442, 0x1f4f7, 1), (0x1f4f9, 0x1f4fc, 1),
    (0x1f500, 0x1f53d, 1), (0x1f550, 0x1f567, 1), (0x1f5fb, 0x1f5ff, 1), (0x1f601, 0x1f610, 1),
    (0x1f612, 0x1f614, 1), (0x1f616, 0x1f61a, 2), (0x1f61c, 0x1f61e, 1), (0x1f620, 0x1f625, 1),
    (0x1f628, 0x1f62b, 1), (0x1f62d, 0x1f62d, 1), (0x1f630, 0x1f633, 1), (0x1f635, 0x1f640, 1),
    (0x1f645, 0x1f64f, 1), (0x1f680, 0x1f6c5, 1), (0x1f700, 0x1f773, 1), (0x2b740, 0x2b81d, 1)]

/-- The characters of version 6.1. -/
def version6x1 : List Span :=
  [(0x58f, 0x58f, 1), (0x604, 0x604, 1), (0x8a0, 0x8a0, 1), (0x8a2, 0x8ac, 1), (0x8e4, 0x8fe, 1),
    (0xaf0, 0xaf0, 1), (0xede, 0xedf, 1), (0x10c7, 0x10c7, 1), (0x10cd, 0x10cd, 1),
    (0x10fd, 0x10ff, 1), (0x1bab, 0x1bad, 1), (0x1bba, 0x1bbf, 1), (0x1cc0, 0x1cc7, 1),
    (0x1cf3, 0x1cf6, 1), (0x27cb, 0x27cd, 2), (0x2cf2, 0x2cf3, 1), (0x2d27, 0x2d27, 1),
    (0x2d2d, 0x2d2d, 1), (0x2d66, 0x2d67, 1), (0x2e32, 0x2e3b, 1), (0x9fcc, 0x9fcc, 1),
    (0xa674, 0xa67b, 1), (0xa69f, 0xa69f, 1), (0xa792, 0xa793, 1), (0xa7aa, 0xa7aa, 1),
    (0xa7f8, 0xa7f9, 1), (0xaae0, 0xaaf6, 1), (0xfa2e, 0xfa2f, 1), (0x10980, 0x109b7, 1),
    (0x109be, 0x109bf, 1), (0x110d0, 0x110e8, 1), (0x110f0, 0x110f9, 1), (0x11100, 0x11134, 1),
    (0x11136, 0x11143, 1), (0x11180, 0x111c8, 1), (0x111d0, 0x111d9, 1), (0x11680, 0x116b7, 1),
    (0x116c0, 0x116c9, 1), (0x16f00, 0x16f44, 1), (0x16f50, 0x16f7e, 1), (0x16f8f, 0x16f9f, 1),
    (0x1ee00, 0x1ee03, 1), (0x1ee05, 0x1ee1f, 1), (0x1ee21, 0x1ee22, 1), (0x1ee24, 0x1ee24, 1),
    (0x1ee27, 0x1ee27, 1), (0x1ee29, 0x1ee32, 1), (0x1ee34, 0x1ee37, 1), (0x1ee39, 0x1ee3b, 2),
    (0x1ee42, 0x1ee42, 1), (0x1ee47, 0x1ee4b, 2), (0x1ee4d, 0x1ee4f, 1), (0x1ee51, 0x1ee52, 1),
    (0x1ee54, 0x1ee54, 1), (0x1ee57, 0x1ee5f, 2), (0x1ee61, 0x1ee62, 1), (0x1ee64, 0x1ee64, 1),
    (0x1ee67, 0x1ee6a, 1), (0x1ee6c, 0x1ee72, 1), (0x1ee74, 0x1ee77, 1), (0x1ee79, 0x1ee7c, 1),
    (0x1ee7e, 0x1ee7e, 1), (0x1ee80, 0x1ee89, 1), (0x1ee8b, 0x1ee9b, 1), (0x1eea1, 0x1eea3, 1),
    (0x1eea5, 0x1eea9, 1), (0x1eeab, 0x1eebb, 1), (0x1eef0, 0x1eef1, 1), (0x1f16a, 0x1f16b, 1),
    (0x1f540, 0x1f543, 1), (0x1f600, 0x1f600, 1), (0x1f611, 0x1f611, 1), (0x1f615, 0x1f61b, 2),
    (0x1f61f, 0x1f61f, 1), (0x1f626, 0x1f627, 1), (0x1f62c, 0x1f62c, 1), (0x1f62e, 0x1f62f, 1),
    (0x1f634, 0x1f634, 1)]

/-- The characters of version 6.2. -/
def version6x2 : List Span :=
  [(0x20ba, 0x20ba, 1)]

/-- The characters of version 6.3. -/
def version6x3 : List Span :=
  [(0x61c, 0x61c, 1), (0x2066, 0x2069, 1)]

/-- The characters of version 7.0. -/
def version7x0 : List Span :=
  [(0x37f, 0x37f, 1), (0x528, 0x52f, 1), (0x58d, 0x58e, 1), (0x605, 0x605, 1), (0x8a1, 0x8a1, 1),
    (0x8ad, 0x8b2, 1), (0x8ff, 0x8ff, 1), (0x978, 0x978, 1), (0x980, 0x980, 1), (0xc00, 0xc00, 1),
    (0xc34, 0xc34, 1), (0xc81, 0xc81, 1), (0xd01, 0xd01, 1), (0xde6, 0xdef, 1), (0x16f1, 0x16f8, 1),
    (0x191d, 0x191e, 1), (0x1ab0, 0x1abe, 1), (0x1cf8, 0x1cf9, 1), (0x1de7, 0x1df5, 1),
    (0x20bb, 0x20bd, 1), (0x23f4, 0x23fa, 1), (0x2700, 0x2700, 1), (0x2b4d, 0x2b4f, 1),
    (0x2b5a, 0x2b73, 1), (0x2b76, 0x2b95, 1), (0x2b98, 0x2bb9, 1), (0x2bbd, 0x2bc8, 1),
    (0x2bca, 0x2bd1, 1), (0x2e3c, 0x2e42, 1), (0xa698, 0xa69d, 1), (0xa794, 0xa79f, 1),
    (0xa7ab, 0xa7ad, 1), (0xa7b0, 0xa7b1, 1), (0xa7f7, 0xa7f7, 1), (0xa9e0, 0xa9fe, 1),
    (0xaa7c, 0xaa7f, 1), (0xab30, 0xab5f, 1), (0xab64, 0xab65, 1), (0xfe27, 0xfe2d, 1),
    (0x1018b, 0x1018c, 1), (0x101a0, 0x101a0, 1), (0x102e0, 0x102fb, 1), (0x1031f, 0x1031f, 1),
    (0x10350, 0x1037a, 1), (0x10500, 0x10527, 1), (0x10530, 0x10563, 1), (0x1056f, 0x1056f, 1),
    (0x10600, 0x10736, 1), (0x10740, 0x10755, 1), (0x10760, 0x10767, 1), (0x10860, 0x1089e, 1),
    (0x108a7, 0x108af, 1), (0x10a80, 0x10a9f, 1), (0x10ac0, 0x10ae6, 1), (0x10aeb, 0x10af6, 1),
    (0x10b80, 0x10b91, 1), (0x10b99, 0x10b9c, 1), (0x10ba9, 0x10baf, 1), (0x1107f, 0x1107f, 1),
    (0x11150, 0x11176, 1), (0x111cd, 0x111cd, 1), (0x111da, 0x111da, 1), (0x111e1, 0x111f4, 1),
    (0x11200, 0x11211, 1), (0x11213, 0x1123d, 1), (0x112b0, 0x112ea, 1), (0x112f0, 0x112f9, 1),
    (0x11301, 0x11303, 1), (0x11305, 0x1130c, 1), (0x1130f, 0x11310, 1), (0x11313, 0x11328, 1),
    (0x1132a, 0x11330, 1), (0x11332, 0x11333, 1), (0x11335, 0x11339, 1), (0x1133c, 0x11344, 1),
    (0x11347, 0x11348, 1), (0x1134b, 0x1134d, 1), (0x11357, 0x11357, 1), (0x1135d, 0x11363, 1),
    (0x11366, 0x1136c, 1), (0x11370, 0x11374, 1), (0x11480, 0x114c7, 1), (0x114d0, 0x114d9, 1),
    (0x11580, 0x115b5, 1), (0x115b8, 0x115c9, 1), (0x11600, 0x11644, 1), (0x11650, 0x11659, 1),
    (0x118a0, 0x118f2, 1), (0x118ff, 0x118ff, 1), (0x11ac0, 0x11af8, 1), (0x1236f, 0x12398, 1),
    (0x12463, 0x1246e, 1), (0x12474, 0x12474, 1), (0x16a40, 0x16a5e, 1), (0x16a60, 0x16a69, 1),
    (0x16a6e, 0x16a6f, 1), (0x16ad0, 0x16aed, 1), (0x16af0, 0x16af5, 1), (0x16b00, 0x16b45, 1),
    (0x16b50, 0x16b59, 1), (0x16b5b, 0x16b61, 1), (0x16b63, 0x16b77, 1), (0x16b7d, 0x16b8f, 1),
    (0x1bc00, 0x1bc6a, 1), (0x1bc70, 0x1bc7c, 1), (0x1bc80, 0x1bc88, 1), (0x1bc90, 0x1bc99, 1),
    (0x1bc9c, 0x1bca3, 1), (0x1e800, 0x1e8c4, 1), (0x1e8c7, 0x1e8d6, 1), (0x1f0bf, 0x1f0bf, 1),
    (0x1f0e0, 0x1f0f5, 1), (0x1f10b, 0x1f10c, 1), (0x1f321, 0x1f32c, 1), (0x1f336, 0x1f336, 1),
    (0x1f37d, 0x1f37d, 1), (0x1f394, 0x1f39f, 1), (0x1f3c5, 0x1f3c5, 1), (0x1f3cb, 0x1f3ce, 1),
    (0x1f3d4, 0x1f3df, 1), (0x1f3f1, 0x1f3f7, 1), (0x1f43f, 0x1f441, 2), (0x1f4f8, 0x1f4f8, 1),
    (0x1f4fd, 0x1f4fe, 1), (0x1f53e, 0x1f53f, 1), (0x1f544, 0x1f54a, 1), (0x1f568, 0x1f579, 1),
    (0x1f57b, 0x1f5a3, 1), (0x1f5a5, 0x1f5fa, 1), (0x1f641, 0x1f642, 1), (0x1f650, 0x1f67f, 1),
    (0x1f6c6, 0x1f6cf, 1), (0x1f6e0, 0x1f6ec, 1), (0x1f6f0, 0x1f6f3, 1), (0x1f780, 0x1f7d4, 1),
    (0x1f800, 0x1f80b, 1), (0x1f810, 0x1f847, 1), (0x1f850, 0x1f859, 1), (0x1f860, 0x1f887, 1),
    (0x1f890, 0x1f8ad, 1)]

/-- The characters of version 8.0. -/
def version8x0 : List Span :=
  [(0x8b3, 0x8b4, 1), (0x8e3, 0x8e3, 1), (0xaf9, 0xaf9, 1), (0xc5a, 0xc5a, 1), (0xd5f, 0xd5f, 1),
    (0x13f5, 0x13f5, 1), (0x13f8, 0x13fd, 1), (0x20be, 0x20be, 1), (0x218a, 0x218b, 1),
    (0x2bec, 0x2bef, 1), (0x9fcd, 0x9fd5, 1), (0xa69e, 0xa69e, 1), (0xa78f, 0xa78f, 1),
    (0xa7b2, 0xa7b7, 1), (0xa8fc, 0xa8fd, 1), (0xab60, 0xab63, 1), (0xab70, 0xabbf, 1),
    (0xfe2e, 0xfe2f, 1), (0x108e0, 0x108f2, 1), (0x108f4, 0x108f5, 1), (0x108fb, 0x108ff, 1),
    (0x109bc, 0x109bd, 1), (0x109c0, 0x109cf, 1), (0x109d2, 0x109ff, 1), (0x10c80, 0x10cb2, 1),
    (0x10cc0, 0x10cf2, 1), (0x10cfa, 0x10cff, 1), (0x111c9, 0x111cc, 1), (0x111db, 0x111df, 1),
    (0x11280, 0x11286, 1), (0x11288, 0x11288, 1), (0x1128a, 0x1128d, 1), (0x1128f, 0x1129d, 1),
    (0x1129f, 0x112a9, 1), (0x11300, 0x11300, 1), (0x11350, 0x11350, 1), (0x115ca, 0x115dd, 1),
    (0x11700, 0x11719, 1), (0x1171d, 0x1172b, 1), (0x11730, 0x1173f, 1), (0x12399, 0x12399, 1),
    (0x12480, 0x12543, 1), (0x14400, 0x14646, 1), (0x1d1de, 0x1d1e8, 1), (0x1d800, 0x1da8b, 1),
    (0x1da9b, 0x1da9f, 1), (0x1daa1, 0x1daaf, 1), (0x1f32d, 0x1f32f, 1), (0x1f37e, 0x1f37f, 1),
    (0x1f3cf, 0x1f3d3, 1), (0x1f3f8, 0x1f3ff, 1), (0x1f4ff, 0x1f4ff, 1), (0x1f54b, 0x1f54f, 1),
    (0x1f643, 0x1f644, 1), (0x1f6d0, 0x1f6d0, 1), (0x1f910, 0x1f918, 1), (0x1f980, 0x1f984, 1),
    (0x1f9c0, 0x1f9c0, 1), (0x2b820, 0x2cea1, 1)]

/-- The characters of version 9.0. -/
def version9x0 : List Span :=
  [(0x8b6, 0x8bd, 1), (0x8d4, 0x8e2, 1), (0xc80, 0xc80, 1), (0xd4f, 0xd4f, 1), (0xd54, 0xd56, 1),
    (0xd58, 0xd5e, 1), (0xd76, 0xd78, 1), (0x1c80, 0x1c88, 1), (0x1dfb, 0x1dfb, 1),
    (0x23fb, 0x23fe, 1), (0x2e43, 0x2e44, 1), (0xa7ae, 0xa7ae, 1), (0xa8c5, 0xa8c5, 1),
    (0x1018d, 0x1018e, 1), (0x104b0, 0x104d3, 1), (0x104d8, 0x104fb, 1), (0x1123e, 0x1123e, 1),
    (0x11400, 0x11459, 1), (0x1145b, 0x1145d, 2), (0x11660, 0x1166c, 1), (0x11c00, 0x11c08, 1),
    (0x11c0a, 0x11c36, 1), (0x11c38, 0x11c45, 1), (0x11c50, 0x11c6c, 1), (0x11c70, 0x11c8f, 1),
    (0x11c92, 0x11ca7, 1), (0x11ca9, 0x11cb6, 1), (0x16fe0, 0x16fe0, 1), (0x17000, 0x187ec, 1),
    (0x18800, 0x18af2, 1), (0x1e000, 0x1e006, 1), (0x1e008, 0x1e018, 1), (0x1e01b, 0x1e021, 1),
    (0x1e023, 0x1e024, 1), (0x1e026, 0x1e02a, 1), (0x1e900, 0x1e94a, 1), (0x1e950, 0x1e959, 1),
    (0x1e95e, 0x1e95f, 1), (0x1f19b, 0x1f1ac, 1), (0x1f23b, 0x1f23b, 1), (0x1f57a, 0x1f57a, 1),
    (0x1f5a4, 0x1f5a4, 1), (0x1f6d1, 0x1f6d2, 1), (0x1f6f4, 0x1f6f6, 1), (0x1f919, 0x1f91e, 1),
    (0x1f920, 0x1f927, 1), (0x1f930, 0x1f930, 1), (0x1f933, 0x1f93e, 1), (0x1f940, 0x1f94b, 1),
    (0x1f950, 0x1f95e, 1), (0x1f985, 0x1f991, 1)]

/-- The characters of version 10.0. -/
def version10x0 : List Span :=
  [(0x860, 0x86a, 1), (0x9fc, 0x9fd, 1), (0xafa, 0xaff, 1), (0xd00, 0xd00, 1), (0xd3b, 0xd3c, 1),
    (0x1cf7, 0x1cf7, 1), (0x1df6, 0x1df9, 1), (0x20bf, 0x20bf, 1), (0x23ff, 0x23ff, 1),
    (0x2bd2, 0x2bd2, 1), (0x2e45, 0x2e49, 1), (0x312e, 0x312e, 1), (0x9fd6, 0x9fea, 1),
    (0x1032d, 0x1032f, 1), (0x11a00, 0x11a47, 1), (0x11a50, 0x11a83, 1), (0x11a86, 0x11a9c, 1),
    (0x11a9e, 0x11aa2, 1), (0x11d00, 0x11d06, 1), (0x11d08, 0x11d09, 1), (0x11d0b, 0x11d36, 1),
    (0x11d3a, 0x11d3a, 1), (0x11d3c, 0x11d3d, 1), (0x11d3f, 0x11d47, 1), (0x11d50, 0x11d59, 1),
    (0x16fe1, 0x16fe1, 1), (0x1b002, 0x1b11e, 1), (0x1b170, 0x1b2fb, 1), (0x1f260, 0x1f265, 1),
    (0x1f6d3, 0x1f6d4, 1), (0x1f6f7, 0x1f6f8, 1), (0x1f900, 0x1f90b, 1), (0x1f91f, 0x1f91f, 1),
    (0x1f928, 0x1f92f, 1), (0x1f931, 0x1f932, 1), (0x1f94c, 0x1f94c, 1), (0x1f95f, 0x1f96b, 1),
    (0x1f992, 0x1f997, 1), (0x1f9d0, 0x1f9e6, 1), (0x2ceb0, 0x2ebe0, 1)]

/-- The characters of version 11.0. -/
def version11x0 : List Span :=
  [(0x560, 0x560, 1), (0x588, 0x588, 1), (0x5ef, 0x5ef, 1), (0x7fd, 0x7ff, 1), (0x8d3, 0x8d3, 1),
    (0x9fe, 0x9fe, 1), (0xa76, 0xa76, 1), (0xc04, 0xc04, 1), (0xc84, 0xc84, 1), (0x1878, 0x1878, 1),
    (0x1c90, 0x1cba, 1), (0x1cbd, 0x1cbf, 1), (0x2bba, 0x2bbc, 1), (0x2bd3, 0x2beb, 1),
    (0x2bf0, 0x2bfe, 1), (0x2e4a, 0x2e4e, 1), (0x312f, 0x312f, 1), (0x9feb, 0x9fef, 1),
    (0xa7af, 0xa7af, 1), (0xa7b8, 0xa7b9, 1), (0xa8fe, 0xa8ff, 1), (0x10a34, 0x10a35, 1),
    (0x10a48, 0x10a48, 1), (0x10d00, 0x10d27, 1), (0x10d30, 0x10d39, 1), (0x10f00, 0x10f27, 1),
    (0x10f30, 0x10f59, 1), (0x110cd, 0x110cd, 1), (0x11144, 0x11146, 1), (0x1133b, 0x1133b, 1),
    (0x1145e, 0x1145e, 1), (0x1171a, 0x1171a, 1), (0x11800, 0x1183b, 1), (0x11a9d, 0x11a9d, 1),
    (0x11d60, 0x11d65, 1), (0x11d67, 0x11d68, 1), (0x11d6a, 0x11d8e, 1), (0x11d90, 0x11d91, 1),
    (0x11d93, 0x11d98, 1), (0x11da0, 0x11da9, 1), (0x11ee0, 0x11ef8, 1), (0x16e40, 0x16e9a, 1),
    (0x187ed, 0x187f1, 1), (0x1d2e0, 0x1d2f3, 1), (0x1d372, 0x1d378, 1), (0x1ec71, 0x1ecb4, 1),
    (0x1f12f, 0x1f12f, 1), (0x1f6f9, 0x1f6f9, 1), (0x1f7d5, 0x1f7d8, 1), (0x1f94d, 0x1f94f, 1),
    (0x1f96c, 0x1f970, 1), (0x1f973, 0x1f976, 1), (0x1f97a, 0x1f97a, 1), (0x1f97c, 0x1f97f, 1),
    (0x1f998, 0x1f9a2, 1), (0x1f9b0, 0x1f9b9, 1), (0x1f9c1, 0x1f9c2, 1), (0x1f9e7, 0x1f9ff, 1),
    (0x1fa60, 0x1fa6d, 1)]

/-- The characters of version 12.0. -/
def version12x0 : List Span :=
  [(0xc77, 0xc77, 1), (0xe86, 0xe8c, 3), (0xe8e, 0xe93, 1), (0xe98, 0xe98, 1), (0xea0, 0xea0, 1),
    (0xea8, 0xea9, 1), (0xeac, 0xeac, 1), (0xeba, 0xeba, 1), (0x1cfa, 0x1cfa, 1),
    (0x2bc9, 0x2bc9, 1), (0x2bff, 0x2bff, 1), (0x2e4f, 0x2e4f, 1), (0xa7ba, 0xa7bf, 1),
    (0xa7c2, 0xa7c6, 1), (0xab66, 0xab67, 1), (0x10fe0, 0x10ff6, 1), (0x1145f, 0x1145f, 1),
    (0x116b8, 0x116b8, 1), (0x119a0, 0x119a7, 1), (0x119aa, 0x119d7, 1), (0x119da, 0x119e4, 1),
    (0x11a84, 0x11a85, 1), (0x11fc0, 0x11ff1, 1), (0x11fff, 0x11fff, 1), (0x13430, 0x13438, 1),
    (0x16f45, 0x16f4a, 1), (0x16f4f, 0x16f4f, 1), (0x16f7f, 0x16f87, 1), (0x16fe2, 0x16fe3, 1),
    (0x187f2, 0x187f7, 1), (0x1b150, 0x1b152, 1), (0x1b164, 0x1b167, 1), (0x1e100, 0x1e12c, 1),
    (0x1e130, 0x1e13d, 1), (0x1e140, 0x1e149, 1), (0x1e14e, 0x1e14f, 1), (0x1e2c0, 0x1e2f9, 1),
    (0x1e2ff, 0x1e2ff, 1), (0x1e94b, 0x1e94b, 1), (0x1ed01, 0x1ed3d, 1), (0x1f16c, 0x1f16c, 1),
    (0x1f6d5, 0x1f6d5, 1), (0x1f6fa, 0x1f6fa, 1), (0x1f7e0, 0x1f7eb, 1), (0x1f90d, 0x1f90f, 1),
    (0x1f93f, 0x1f93f, 1), (0x1f971, 0x1f971, 1), (0x1f97b, 0x1f97b, 1), (0x1f9a5, 0x1f9aa, 1),
    (0x1f9ae, 0x1f9af, 1), (0x1f9ba, 0x1f9bf, 1), (0x1f9c3, 0x1f9ca, 1), (0x1f9cd, 0x1f9cf, 1),
    (0x1fa00, 0x1fa53, 1), (0x1fa70, 0x1fa73, 1), (0x1fa78, 0x1fa7a, 1), (0x1fa80, 0x1fa82, 1),
    (0x1fa90, 0x1fa95, 1)]

/-- The characters of version 12.1. -/
def version12x1 : List Span :=
  [(0x32ff, 0x32ff, 1)]

/-- The characters of version 13.0. -/
def version13x0 : List Span :=
  [(0x8be, 0x8c7, 1), (0xb55, 0xb55, 1), (0xd04, 0xd04, 1), (0xd81, 0xd81, 1), (0x1abf, 0x1ac0, 1),
    (0x2b97, 0x2b97, 1), (0x2e50, 0x2e52, 1), (0x31bb, 0x31bf, 1), (0x4db6, 0x4dbf, 1),
    (0x9ff0, 0x9ffc, 1), (0xa7c7, 0xa7ca, 1), (0xa7f5, 0xa7f6, 1), (0xa82c, 0xa82c, 1),
    (0xab68, 0xab6b, 1), (0x1019c, 0x1019c, 1), (0x10e80, 0x10ea9, 1), (0x10eab, 0x10ead, 1),
    (0x10eb0, 0x10eb1, 1), (0x10fb0, 0x10fcb, 1), (0x11147, 0x11147, 1), (0x111ce, 0x111cf, 1),
    (0x1145a, 0x1145a, 1), (0x11460, 0x11461, 1), (0x11900, 0x11906, 1), (0x11909, 0x11909, 1),
    (0x1190c, 0x11913, 1), (0x11915, 0x11916, 1), (0x11918, 0x11935, 1), (0x11937, 0x11938, 1),
    (0x1193b, 0x11946, 1), (0x11950, 0x11959, 1), (0x11fb0, 0x11fb0, 1), (0x16fe4, 0x16fe4, 1),
    (0x16ff0, 0x16ff1, 1), (0x18af3, 0x18cd5, 1), (0x18d00, 0x18d08, 1), (0x1f10d, 0x1f10f, 1),
    (0x1f16d, 0x1f16f, 1), (0x1f1ad, 0x1f1ad, 1), (0x1f6d6, 0x1f6d7, 1), (0x1f6fb, 0x1f6fc, 1),
    (0x1f8b0, 0x1f8b1, 1), (0x1f90c, 0x1f90c, 1), (0x1f972, 0x1f972, 1), (0x1f977, 0x1f978, 1),
    (0x1f9a3, 0x1f9a4, 1), (0x1f9ab, 0x1f9ad, 1), (0x1f9cb, 0x1f9cb, 1), (0x1fa74, 0x1fa74, 1),
    (0x1fa83, 0x1fa86, 1), (0x1fa96, 0x1faa8, 1), (0x1fab0, 0x1fab6, 1), (0x1fac0, 0x1fac2, 1),
    (0x1fad0, 0x1fad6, 1), (0x1fb00, 0x1fb92, 1), (0x1fb94, 0x1fbca, 1), (0x1fbf0, 0x1fbf9, 1),
    (0x2a6d7, 0x2a6dd, 1), (0x30000, 0x3134a, 1)]

/-- The characters of version 14.0. -/
def version14x0 : List Span :=
  [(0x61d, 0x61d, 1), (0x870, 0x88e, 1), (0x890, 0x891, 1), (0x898, 0x89f, 1), (0x8b5, 0x8b5, 1),
    (0x8c8, 0x8d2, 1), (0xc3c, 0xc3c, 1), (0xc5d, 0xc5d, 1), (0xcdd, 0xcdd, 1), (0x170d, 0x170d, 1),
    (0x1715, 0x1715, 1), (0x171f, 0x171f, 1), (0x180f, 0x180f, 1), (0x1ac1, 0x1ace, 1),
    (0x1b4c, 0x1b4c, 1), (0x1b7d, 0x1b7e, 1), (0x1dfa, 0x1dfa, 1), (0x20c0, 0x20c0, 1),
    (0x2c2f, 0x2c2f, 1), (0x2c5f, 0x2c5f, 1), (0x2e53, 0x2e5d, 1), (0x9ffd, 0x9fff, 1),
    (0xa7c0, 0xa7c1, 1), (0xa7d0, 0xa7d1, 1), (0xa7d3, 0xa7d3, 1), (0xa7d5, 0xa7d9, 1),
    (0xa7f2, 0xa7f4, 1), (0xfbc2, 0xfbc2, 1), (0xfd40, 0xfd4f, 1), (0xfdcf, 0xfdcf, 1),
    (0xfdfe, 0xfdff, 1), (0x10570, 0x1057a, 1), (0x1057c, 0x1058a, 1), (0x1058c, 0x10592, 1),
    (0x10594, 0x10595, 1), (0x10597, 0x105a1, 1), (0x105a3, 0x105b1, 1), (0x105b3, 0x105b9, 1),
    (0x105bb, 0x105bc, 1), (0x10780, 0x10785, 1), (0x10787, 0x107b0, 1), (0x107b2, 0x107ba, 1),
    (0x10f70, 0x10f89, 1), (0x11070, 0x11075, 1), (0x110c2, 0x110c2, 1), (0x116b9, 0x116b9, 1),
    (0x11740, 0x11746, 1), (0x11ab0, 0x11abf, 1), (0x12f90, 0x12ff2, 1), (0x16a70, 0x16abe, 1),
    (0x16ac0, 0x16ac9, 1), (0x1aff0, 0x1aff3, 1), (0x1aff5, 0x1affb, 1), (0x1affd, 0x1affe, 1),
    (0x1b11f, 0x1b122, 1), (0x1cf00, 0x1cf2d, 1), (0x1cf30, 0x1cf46, 1), (0x1cf50, 0x1cfc3, 1),
    (0x1d1e9, 0x1d1ea, 1), (0x1df00, 0x1df1e, 1), (0x1e290, 0x1e2ae, 1), (0x1e7e0, 0x1e7e6, 1),
    (0x1e7e8, 0x1e7eb, 1), (0x1e7ed, 0x1e7ee, 1), (0x1e7f0, 0x1e7fe, 1), (0x1f6dd, 0x1f6df, 1),
    (0x1f7f0, 0x1f7f0, 1), (0x1f979, 0x1f979, 1), (0x1f9cc, 0x1f9cc, 1), (0x1fa7b, 0x1fa7c, 1),
    (0x1faa9, 0x1faac, 1), (0x1fab7, 0x1faba, 1), (0x1fac3, 0x1fac5, 1), (0x1fad7, 0x1fad9, 1),
    (0x1fae0, 0x1fae7, 1), (0x1faf0, 0x1faf6, 1), (0x2a6de, 0x2a6df, 1), (0x2b735, 0x2b738, 1)]

/-- The characters of version 15.0. -/
def version15x0 : List Span :=
  [(0xcf3, 0xcf3, 1), (0xece, 0xece, 1), (0x10efd, 0x10eff, 1), (0x1123f, 0x11241, 1),
    (0x11b00, 0x11b09, 1), (0x11f00, 0x11f10, 1), (0x11f12, 0x11f3a, 1), (0x11f3e, 0x11f59, 1),
    (0x1342f, 0x1342f, 1), (0x13439, 0x13455, 1), (0x1b132, 0x1b132, 1), (0x1b155, 0x1b155, 1),
    (0x1d2c0, 0x1d2d3, 1), (0x1df25, 0x1df2a, 1), (0x1e030, 0x1e06d, 1), (0x1e08f, 0x1e08f, 1),
    (0x1e4d0, 0x1e4f9, 1), (0x1f6dc, 0x1f6dc, 1), (0x1f774, 0x1f776, 1), (0x1f77b, 0x1f77f, 1),
    (0x1f7d9, 0x1f7d9, 1), (0x1fa75, 0x1fa77, 1), (0x1fa87, 0x1fa88, 1), (0x1faad, 0x1faaf, 1),
    (0x1fabb, 0x1fabd, 1), (0x1fabf, 0x1fabf, 1), (0x1face, 0x1facf, 1), (0x1fada, 0x1fadb, 1),
    (0x1fae8, 0x1fae8, 1), (0x1faf7, 0x1faf8, 1), (0x2b739, 0x2b739, 1), (0x31350, 0x323af, 1)]

/-- The characters of version 15.1. -/
def version15x1 : List Span :=
  [(0x2ffc, 0x2fff, 1), (0x31ef, 0x31ef, 1), (0x2ebf0, 0x2ee5d, 1)]

/-- The characters of version 16.0. -/
def version16x0 : List Span :=
  [(0x897, 0x897, 1), (0x1b4e, 0x1b4f, 1), (0x1b7f, 0x1b7f, 1), (0x1c89, 0x1c8a, 1),
    (0x2427, 0x2429, 1), (0x31e4, 0x31e5, 1), (0xa7cb, 0xa7cd, 1), (0xa7da, 0xa7dc, 1),
    (0x105c0, 0x105f3, 1), (0x10d40, 0x10d65, 1), (0x10d69, 0x10d85, 1), (0x10d8e, 0x10d8f, 1),
    (0x10ec2, 0x10ec4, 1), (0x10efc, 0x10efc, 1), (0x11380, 0x11389, 1), (0x1138b, 0x1138b, 1),
    (0x1138e, 0x1138e, 1), (0x11390, 0x113b5, 1), (0x113b7, 0x113c0, 1), (0x113c2, 0x113c2, 1),
    (0x113c5, 0x113c5, 1), (0x113c7, 0x113ca, 1), (0x113cc, 0x113d5, 1), (0x113d7, 0x113d8, 1),
    (0x113e1, 0x113e2, 1), (0x116d0, 0x116e3, 1), (0x11bc0, 0x11be1, 1), (0x11bf0, 0x11bf9, 1),
    (0x11f5a, 0x11f5a, 1), (0x13460, 0x143fa, 1), (0x16100, 0x16139, 1), (0x16d40, 0x16d79, 1),
    (0x18cff, 0x18cff, 1), (0x1cc00, 0x1ccf9, 1), (0x1cd00, 0x1ceb3, 1), (0x1e5d0, 0x1e5fa, 1),
    (0x1e5ff, 0x1e5ff, 1), (0x1f8b2, 0x1f8bb, 1), (0x1f8c0, 0x1f8c1, 1), (0x1fa89, 0x1fa89, 1),
    (0x1fa8f, 0x1fa8f, 1), (0x1fabe, 0x1fabe, 1), (0x1fac6, 0x1fac6, 1), (0x1fadc, 0x1fadc, 1),
    (0x1fadf, 0x1fadf, 1), (0x1fae9, 0x1fae9, 1), (0x1fbcb, 0x1fbef, 1)]

/-- The versions and their characters, the oldest version first. -/
def versions : List (String × List Span) :=
  [("1.1", version1x1), ("2.0", version2x0), ("2.1", version2x1), ("3.0", version3x0),
    ("3.1", version3x1), ("3.2", version3x2), ("4.0", version4x0), ("4.1", version4x1),
    ("5.0", version5x0), ("5.1", version5x1), ("5.2", version5x2), ("6.0", version6x0),
    ("6.1", version6x1), ("6.2", version6x2), ("6.3", version6x3), ("7.0", version7x0),
    ("8.0", version8x0), ("9.0", version9x0), ("10.0", version10x0), ("11.0", version11x0),
    ("12.0", version12x0), ("12.1", version12x1), ("13.0", version13x0), ("14.0", version14x0),
    ("15.0", version15x0), ("15.1", version15x1), ("16.0", version16x0)]

end PagedSparql.Text.Age
