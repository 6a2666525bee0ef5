/-! Canonical equivalents of characters, as the Unicode standard lists them; those of the syllables
of Hangul follow from their numbers and are not listed. -/

namespace ServiceClient.Text.Normal

/-- Characters that stand for a base and the marks on it, fully taken apart. The parts compose to
the character again. -/
def composites : List (Nat × String) :=
  [
    (0xC0, "A\u0300"), (0xC1, "A\u0301"), (0xC2, "A\u0302"), (0xC3, "A\u0303"), (0xC4, "A\u0308"),
    (0xC5, "A\u030a"), (0xC7, "C\u0327"), (0xC8, "E\u0300"), (0xC9, "E\u0301"), (0xCA, "E\u0302"),
    (0xCB, "E\u0308"), (0xCC, "I\u0300"), (0xCD, "I\u0301"), (0xCE, "I\u0302"), (0xCF, "I\u0308"),
    (0xD1, "N\u0303"), (0xD2, "O\u0300"), (0xD3, "O\u0301"), (0xD4, "O\u0302"), (0xD5, "O\u0303"),
    (0xD6, "O\u0308"), (0xD9, "U\u0300"), (0xDA, "U\u0301"), (0xDB, "U\u0302"), (0xDC, "U\u0308"),
    (0xDD, "Y\u0301"), (0xE0, "a\u0300"), (0xE1, "a\u0301"), (0xE2, "a\u0302"), (0xE3, "a\u0303"),
    (0xE4, "a\u0308"), (0xE5, "a\u030a"), (0xE7, "c\u0327"), (0xE8, "e\u0300"), (0xE9, "e\u0301"),
    (0xEA, "e\u0302"), (0xEB, "e\u0308"), (0xEC, "i\u0300"), (0xED, "i\u0301"), (0xEE, "i\u0302"),
    (0xEF, "i\u0308"), (0xF1, "n\u0303"), (0xF2, "o\u0300"), (0xF3, "o\u0301"), (0xF4, "o\u0302"),
    (0xF5, "o\u0303"), (0xF6, "o\u0308"), (0xF9, "u\u0300"), (0xFA, "u\u0301"), (0xFB, "u\u0302"),
    (0xFC, "u\u0308"), (0xFD, "y\u0301"), (0xFF, "y\u0308"), (0x100, "A\u0304"), (0x101, "a\u0304"),
    (0x102, "A\u0306"), (0x103, "a\u0306"), (0x104, "A\u0328"), (0x105, "a\u0328"),
    (0x106, "C\u0301"), (0x107, "c\u0301"), (0x108, "C\u0302"), (0x109, "c\u0302"),
    (0x10A, "C\u0307"), (0x10B, "c\u0307"), (0x10C, "C\u030c"), (0x10D, "c\u030c"),
    (0x10E, "D\u030c"), (0x10F, "d\u030c"), (0x112, "E\u0304"), (0x113, "e\u0304"),
    (0x114, "E\u0306"), (0x115, "e\u0306"), (0x116, "E\u0307"), (0x117, "e\u0307"),
    (0x118, "E\u0328"), (0x119, "e\u0328"), (0x11A, "E\u030c"), (0x11B, "e\u030c"),
    (0x11C, "G\u0302"), (0x11D, "g\u0302"), (0x11E, "G\u0306"), (0x11F, "g\u0306"),
    (0x120, "G\u0307"), (0x121, "g\u0307"), (0x122, "G\u0327"), (0x123, "g\u0327"),
    (0x124, "H\u0302"), (0x125, "h\u0302"), (0x128, "I\u0303"), (0x129, "i\u0303"),
    (0x12A, "I\u0304"), (0x12B, "i\u0304"), (0x12C, "I\u0306"), (0x12D, "i\u0306"),
    (0x12E, "I\u0328"), (0x12F, "i\u0328"), (0x130, "I\u0307"), (0x134, "J\u0302"),
    (0x135, "j\u0302"), (0x136, "K\u0327"), (0x137, "k\u0327"), (0x139, "L\u0301"),
    (0x13A, "l\u0301"), (0x13B, "L\u0327"), (0x13C, "l\u0327"), (0x13D, "L\u030c"),
    (0x13E, "l\u030c"), (0x143, "N\u0301"), (0x144, "n\u0301"), (0x145, "N\u0327"),
    (0x146, "n\u0327"), (0x147, "N\u030c"), (0x148, "n\u030c"), (0x14C, "O\u0304"),
    (0x14D, "o\u0304"), (0x14E, "O\u0306"), (0x14F, "o\u0306"), (0x150, "O\u030b"),
    (0x151, "o\u030b"), (0x154, "R\u0301"), (0x155, "r\u0301"), (0x156, "R\u0327"),
    (0x157, "r\u0327"), (0x158, "R\u030c"), (0x159, "r\u030c"), (0x15A, "S\u0301"),
    (0x15B, "s\u0301"), (0x15C, "S\u0302"), (0x15D, "s\u0302"), (0x15E, "S\u0327"),
    (0x15F, "s\u0327"), (0x160, "S\u030c"), (0x161, "s\u030c"), (0x162, "T\u0327"),
    (0x163, "t\u0327"), (0x164, "T\u030c"), (0x165, "t\u030c"), (0x168, "U\u0303"),
    (0x169, "u\u0303"), (0x16A, "U\u0304"), (0x16B, "u\u0304"), (0x16C, "U\u0306"),
    (0x16D, "u\u0306"), (0x16E, "U\u030a"), (0x16F, "u\u030a"), (0x170, "U\u030b"),
    (0x171, "u\u030b"), (0x172, "U\u0328"), (0x173, "u\u0328"), (0x174, "W\u0302"),
    (0x175, "w\u0302"), (0x176, "Y\u0302"), (0x177, "y\u0302"), (0x178, "Y\u0308"),
    (0x179, "Z\u0301"), (0x17A, "z\u0301"), (0x17B, "Z\u0307"), (0x17C, "z\u0307"),
    (0x17D, "Z\u030c"), (0x17E, "z\u030c"), (0x1A0, "O\u031b"), (0x1A1, "o\u031b"),
    (0x1AF, "U\u031b"), (0x1B0, "u\u031b"), (0x1CD, "A\u030c"), (0x1CE, "a\u030c"),
    (0x1CF, "I\u030c"), (0x1D0, "i\u030c"), (0x1D1, "O\u030c"), (0x1D2, "o\u030c"),
    (0x1D3, "U\u030c"), (0x1D4, "u\u030c"), (0x1D5, "U\u0308\u0304"), (0x1D6, "u\u0308\u0304"),
    (0x1D7, "U\u0308\u0301"), (0x1D8, "u\u0308\u0301"), (0x1D9, "U\u0308\u030c"),
    (0x1DA, "u\u0308\u030c"), (0x1DB, "U\u0308\u0300"), (0x1DC, "u\u0308\u0300"),
    (0x1DE, "A\u0308\u0304"), (0x1DF, "a\u0308\u0304"), (0x1E0, "A\u0307\u0304"),
    (0x1E1, "a\u0307\u0304"), (0x1E2, "\u00c6\u0304"), (0x1E3, "\u00e6\u0304"), (0x1E6, "G\u030c"),
    (0x1E7, "g\u030c"), (0x1E8, "K\u030c"), (0x1E9, "k\u030c"), (0x1EA, "O\u0328"),
    (0x1EB, "o\u0328"), (0x1EC, "O\u0328\u0304"), (0x1ED, "o\u0328\u0304"), (0x1EE, "\u01b7\u030c"),
    (0x1EF, "\u0292\u030c"), (0x1F0, "j\u030c"), (0x1F4, "G\u0301"), (0x1F5, "g\u0301"),
    (0x1F8, "N\u0300"), (0x1F9, "n\u0300"), (0x1FA, "A\u030a\u0301"), (0x1FB, "a\u030a\u0301"),
    (0x1FC, "\u00c6\u0301"), (0x1FD, "\u00e6\u0301"), (0x1FE, "\u00d8\u0301"),
    (0x1FF, "\u00f8\u0301"), (0x200, "A\u030f"), (0x201, "a\u030f"), (0x202, "A\u0311"),
    (0x203, "a\u0311"), (0x204, "E\u030f"), (0x205, "e\u030f"), (0x206, "E\u0311"),
    (0x207, "e\u0311"), (0x208, "I\u030f"), (0x209, "i\u030f"), (0x20A, "I\u0311"),
    (0x20B, "i\u0311"), (0x20C, "O\u030f"), (0x20D, "o\u030f"), (0x20E, "O\u0311"),
    (0x20F, "o\u0311"), (0x210, "R\u030f"), (0x211, "r\u030f"), (0x212, "R\u0311"),
    (0x213, "r\u0311"), (0x214, "U\u030f"), (0x215, "u\u030f"), (0x216, "U\u0311"),
    (0x217, "u\u0311"), (0x218, "S\u0326"), (0x219, "s\u0326"), (0x21A, "T\u0326"),
    (0x21B, "t\u0326"), (0x21E, "H\u030c"), (0x21F, "h\u030c"), (0x226, "A\u0307"),
    (0x227, "a\u0307"), (0x228, "E\u0327"), (0x229, "e\u0327"), (0x22A, "O\u0308\u0304"),
    (0x22B, "o\u0308\u0304"), (0x22C, "O\u0303\u0304"), (0x22D, "o\u0303\u0304"),
    (0x22E, "O\u0307"), (0x22F, "o\u0307"), (0x230, "O\u0307\u0304"), (0x231, "o\u0307\u0304"),
    (0x232, "Y\u0304"), (0x233, "y\u0304"), (0x385, "\u00a8\u0301"), (0x386, "\u0391\u0301"),
    (0x388, "\u0395\u0301"), (0x389, "\u0397\u0301"), (0x38A, "\u0399\u0301"),
    (0x38C, "\u039f\u0301"), (0x38E, "\u03a5\u0301"), (0x38F, "\u03a9\u0301"),
    (0x390, "\u03b9\u0308\u0301"), (0x3AA, "\u0399\u0308"), (0x3AB, "\u03a5\u0308"),
    (0x3AC, "\u03b1\u0301"), (0x3AD, "\u03b5\u0301"), (0x3AE, "\u03b7\u0301"),
    (0x3AF, "\u03b9\u0301"), (0x3B0, "\u03c5\u0308\u0301"), (0x3CA, "\u03b9\u0308"),
    (0x3CB, "\u03c5\u0308"), (0x3CC, "\u03bf\u0301"), (0x3CD, "\u03c5\u0301"),
    (0x3CE, "\u03c9\u0301"), (0x3D3, "\u03d2\u0301"), (0x3D4, "\u03d2\u0308"),
    (0x400, "\u0415\u0300"), (0x401, "\u0415\u0308"), (0x403, "\u0413\u0301"),
    (0x407, "\u0406\u0308"), (0x40C, "\u041a\u0301"), (0x40D, "\u0418\u0300"),
    (0x40E, "\u0423\u0306"), (0x419, "\u0418\u0306"), (0x439, "\u0438\u0306"),
    (0x450, "\u0435\u0300"), (0x451, "\u0435\u0308"), (0x453, "\u0433\u0301"),
    (0x457, "\u0456\u0308"), (0x45C, "\u043a\u0301"), (0x45D, "\u0438\u0300"),
    (0x45E, "\u0443\u0306"), (0x476, "\u0474\u030f"), (0x477, "\u0475\u030f"),
    (0x4C1, "\u0416\u0306"), (0x4C2, "\u0436\u0306"), (0x4D0, "\u0410\u0306"),
    (0x4D1, "\u0430\u0306"), (0x4D2, "\u0410\u0308"), (0x4D3, "\u0430\u0308"),
    (0x4D6, "\u0415\u0306"), (0x4D7, "\u0435\u0306"), (0x4DA, "\u04d8\u0308"),
    (0x4DB, "\u04d9\u0308"), (0x4DC, "\u0416\u0308"), (0x4DD, "\u0436\u0308"),
    (0x4DE, "\u0417\u0308"), (0x4DF, "\u0437\u0308"), (0x4E2, "\u0418\u0304"),
    (0x4E3, "\u0438\u0304"), (0x4E4, "\u0418\u0308"), (0x4E5, "\u0438\u0308"),
    (0x4E6, "\u041e\u0308"), (0x4E7, "\u043e\u0308"), (0x4EA, "\u04e8\u0308"),
    (0x4EB, "\u04e9\u0308"), (0x4EC, "\u042d\u0308"), (0x4ED, "\u044d\u0308"),
    (0x4EE, "\u0423\u0304"), (0x4EF, "\u0443\u0304"), (0x4F0, "\u0423\u0308"),
    (0x4F1, "\u0443\u0308"), (0x4F2, "\u0423\u030b"), (0x4F3, "\u0443\u030b"),
    (0x4F4, "\u0427\u0308"), (0x4F5, "\u0447\u0308"), (0x4F8, "\u042b\u0308"),
    (0x4F9, "\u044b\u0308"), (0x622, "\u0627\u0653"), (0x623, "\u0627\u0654"),
    (0x624, "\u0648\u0654"), (0x625, "\u0627\u0655"), (0x626, "\u064a\u0654"),
    (0x6C0, "\u06d5\u0654"), (0x6C2, "\u06c1\u0654"), (0x6D3, "\u06d2\u0654"),
    (0x929, "\u0928\u093c"), (0x931, "\u0930\u093c"), (0x934, "\u0933\u093c"),
    (0x9CB, "\u09c7\u09be"), (0x9CC, "\u09c7\u09d7"), (0xB48, "\u0b47\u0b56"),
    (0xB4B, "\u0b47\u0b3e"), (0xB4C, "\u0b47\u0b57"), (0xB94, "\u0b92\u0bd7"),
    (0xBCA, "\u0bc6\u0bbe"), (0xBCB, "\u0bc7\u0bbe"), (0xBCC, "\u0bc6\u0bd7"),
    (0xC48, "\u0c46\u0c56"), (0xCC0, "\u0cbf\u0cd5"), (0xCC7, "\u0cc6\u0cd5"),
    (0xCC8, "\u0cc6\u0cd6"), (0xCCA, "\u0cc6\u0cc2"), (0xCCB, "\u0cc6\u0cc2\u0cd5"),
    (0xD4A, "\u0d46\u0d3e"), (0xD4B, "\u0d47\u0d3e"), (0xD4C, "\u0d46\u0d57"),
    (0xDDA, "\u0dd9\u0dca"), (0xDDC, "\u0dd9\u0dcf"), (0xDDD, "\u0dd9\u0dcf\u0dca"),
    (0xDDE, "\u0dd9\u0ddf"), (0x1026, "\u1025\u102e"), (0x1B06, "\u1b05\u1b35"),
    (0x1B08, "\u1b07\u1b35"), (0x1B0A, "\u1b09\u1b35"), (0x1B0C, "\u1b0b\u1b35"),
    (0x1B0E, "\u1b0d\u1b35"), (0x1B12, "\u1b11\u1b35"), (0x1B3B, "\u1b3a\u1b35"),
    (0x1B3D, "\u1b3c\u1b35"), (0x1B40, "\u1b3e\u1b35"), (0x1B41, "\u1b3f\u1b35"),
    (0x1B43, "\u1b42\u1b35"), (0x1E00, "A\u0325"), (0x1E01, "a\u0325"), (0x1E02, "B\u0307"),
    (0x1E03, "b\u0307"), (0x1E04, "B\u0323"), (0x1E05, "b\u0323"), (0x1E06, "B\u0331"),
    (0x1E07, "b\u0331"), (0x1E08, "C\u0327\u0301"), (0x1E09, "c\u0327\u0301"), (0x1E0A, "D\u0307"),
    (0x1E0B, "d\u0307"), (0x1E0C, "D\u0323"), (0x1E0D, "d\u0323"), (0x1E0E, "D\u0331"),
    (0x1E0F, "d\u0331"), (0x1E10, "D\u0327"), (0x1E11, "d\u0327"), (0x1E12, "D\u032d"),
    (0x1E13, "d\u032d"), (0x1E14, "E\u0304\u0300"), (0x1E15, "e\u0304\u0300"),
    (0x1E16, "E\u0304\u0301"), (0x1E17, "e\u0304\u0301"), (0x1E18, "E\u032d"), (0x1E19, "e\u032d"),
    (0x1E1A, "E\u0330"), (0x1E1B, "e\u0330"), (0x1E1C, "E\u0327\u0306"), (0x1E1D, "e\u0327\u0306"),
    (0x1E1E, "F\u0307"), (0x1E1F, "f\u0307"), (0x1E20, "G\u0304"), (0x1E21, "g\u0304"),
    (0x1E22, "H\u0307"), (0x1E23, "h\u0307"), (0x1E24, "H\u0323"), (0x1E25, "h\u0323"),
    (0x1E26, "H\u0308"), (0x1E27, "h\u0308"), (0x1E28, "H\u0327"), (0x1E29, "h\u0327"),
    (0x1E2A, "H\u032e"), (0x1E2B, "h\u032e"), (0x1E2C, "I\u0330"), (0x1E2D, "i\u0330"),
    (0x1E2E, "I\u0308\u0301"), (0x1E2F, "i\u0308\u0301"), (0x1E30, "K\u0301"), (0x1E31, "k\u0301"),
    (0x1E32, "K\u0323"), (0x1E33, "k\u0323"), (0x1E34, "K\u0331"), (0x1E35, "k\u0331"),
    (0x1E36, "L\u0323"), (0x1E37, "l\u0323"), (0x1E38, "L\u0323\u0304"), (0x1E39, "l\u0323\u0304"),
    (0x1E3A, "L\u0331"), (0x1E3B, "l\u0331"), (0x1E3C, "L\u032d"), (0x1E3D, "l\u032d"),
    (0x1E3E, "M\u0301"), (0x1E3F, "m\u0301"), (0x1E40, "M\u0307"), (0x1E41, "m\u0307"),
    (0x1E42, "M\u0323"), (0x1E43, "m\u0323"), (0x1E44, "N\u0307"), (0x1E45, "n\u0307"),
    (0x1E46, "N\u0323"), (0x1E47, "n\u0323"), (0x1E48, "N\u0331"), (0x1E49, "n\u0331"),
    (0x1E4A, "N\u032d"), (0x1E4B, "n\u032d"), (0x1E4C, "O\u0303\u0301"), (0x1E4D, "o\u0303\u0301"),
    (0x1E4E, "O\u0303\u0308"), (0x1E4F, "o\u0303\u0308"), (0x1E50, "O\u0304\u0300"),
    (0x1E51, "o\u0304\u0300"), (0x1E52, "O\u0304\u0301"), (0x1E53, "o\u0304\u0301"),
    (0x1E54, "P\u0301"), (0x1E55, "p\u0301"), (0x1E56, "P\u0307"), (0x1E57, "p\u0307"),
    (0x1E58, "R\u0307"), (0x1E59, "r\u0307"), (0x1E5A, "R\u0323"), (0x1E5B, "r\u0323"),
    (0x1E5C, "R\u0323\u0304"), (0x1E5D, "r\u0323\u0304"), (0x1E5E, "R\u0331"), (0x1E5F, "r\u0331"),
    (0x1E60, "S\u0307"), (0x1E61, "s\u0307"), (0x1E62, "S\u0323"), (0x1E63, "s\u0323"),
    (0x1E64, "S\u0301\u0307"), (0x1E65, "s\u0301\u0307"), (0x1E66, "S\u030c\u0307"),
    (0x1E67, "s\u030c\u0307"), (0x1E68, "S\u0323\u0307"), (0x1E69, "s\u0323\u0307"),
    (0x1E6A, "T\u0307"), (0x1E6B, "t\u0307"), (0x1E6C, "T\u0323"), (0x1E6D, "t\u0323"),
    (0x1E6E, "T\u0331"), (0x1E6F, "t\u0331"), (0x1E70, "T\u032d"), (0x1E71, "t\u032d"),
    (0x1E72, "U\u0324"), (0x1E73, "u\u0324"), (0x1E74, "U\u0330"), (0x1E75, "u\u0330"),
    (0x1E76, "U\u032d"), (0x1E77, "u\u032d"), (0x1E78, "U\u0303\u0301"), (0x1E79, "u\u0303\u0301"),
    (0x1E7A, "U\u0304\u0308"), (0x1E7B, "u\u0304\u0308"), (0x1E7C, "V\u0303"), (0x1E7D, "v\u0303"),
    (0x1E7E, "V\u0323"), (0x1E7F, "v\u0323"), (0x1E80, "W\u0300"), (0x1E81, "w\u0300"),
    (0x1E82, "W\u0301"), (0x1E83, "w\u0301"), (0x1E84, "W\u0308"), (0x1E85, "w\u0308"),
    (0x1E86, "W\u0307"), (0x1E87, "w\u0307"), (0x1E88, "W\u0323"), (0x1E89, "w\u0323"),
    (0x1E8A, "X\u0307"), (0x1E8B, "x\u0307"), (0x1E8C, "X\u0308"), (0x1E8D, "x\u0308"),
    (0x1E8E, "Y\u0307"), (0x1E8F, "y\u0307"), (0x1E90, "Z\u0302"), (0x1E91, "z\u0302"),
    (0x1E92, "Z\u0323"), (0x1E93, "z\u0323"), (0x1E94, "Z\u0331"), (0x1E95, "z\u0331"),
    (0x1E96, "h\u0331"), (0x1E97, "t\u0308"), (0x1E98, "w\u030a"), (0x1E99, "y\u030a"),
    (0x1E9B, "\u017f\u0307"), (0x1EA0, "A\u0323"), (0x1EA1, "a\u0323"), (0x1EA2, "A\u0309"),
    (0x1EA3, "a\u0309"), (0x1EA4, "A\u0302\u0301"), (0x1EA5, "a\u0302\u0301"),
    (0x1EA6, "A\u0302\u0300"), (0x1EA7, "a\u0302\u0300"), (0x1EA8, "A\u0302\u0309"),
    (0x1EA9, "a\u0302\u0309"), (0x1EAA, "A\u0302\u0303"), (0x1EAB, "a\u0302\u0303"),
    (0x1EAC, "A\u0323\u0302"), (0x1EAD, "a\u0323\u0302"), (0x1EAE, "A\u0306\u0301"),
    (0x1EAF, "a\u0306\u0301"), (0x1EB0, "A\u0306\u0300"), (0x1EB1, "a\u0306\u0300"),
    (0x1EB2, "A\u0306\u0309"), (0x1EB3, "a\u0306\u0309"), (0x1EB4, "A\u0306\u0303"),
    (0x1EB5, "a\u0306\u0303"), (0x1EB6, "A\u0323\u0306"), (0x1EB7, "a\u0323\u0306"),
    (0x1EB8, "E\u0323"), (0x1EB9, "e\u0323"), (0x1EBA, "E\u0309"), (0x1EBB, "e\u0309"),
    (0x1EBC, "E\u0303"), (0x1EBD, "e\u0303"), (0x1EBE, "E\u0302\u0301"), (0x1EBF, "e\u0302\u0301"),
    (0x1EC0, "E\u0302\u0300"), (0x1EC1, "e\u0302\u0300"), (0x1EC2, "E\u0302\u0309"),
    (0x1EC3, "e\u0302\u0309"), (0x1EC4, "E\u0302\u0303"), (0x1EC5, "e\u0302\u0303"),
    (0x1EC6, "E\u0323\u0302"), (0x1EC7, "e\u0323\u0302"), (0x1EC8, "I\u0309"), (0x1EC9, "i\u0309"),
    (0x1ECA, "I\u0323"), (0x1ECB, "i\u0323"), (0x1ECC, "O\u0323"), (0x1ECD, "o\u0323"),
    (0x1ECE, "O\u0309"), (0x1ECF, "o\u0309"), (0x1ED0, "O\u0302\u0301"), (0x1ED1, "o\u0302\u0301"),
    (0x1ED2, "O\u0302\u0300"), (0x1ED3, "o\u0302\u0300"), (0x1ED4, "O\u0302\u0309"),
    (0x1ED5, "o\u0302\u0309"), (0x1ED6, "O\u0302\u0303"), (0x1ED7, "o\u0302\u0303"),
    (0x1ED8, "O\u0323\u0302"), (0x1ED9, "o\u0323\u0302"), (0x1EDA, "O\u031b\u0301"),
    (0x1EDB, "o\u031b\u0301"), (0x1EDC, "O\u031b\u0300"), (0x1EDD, "o\u031b\u0300"),
    (0x1EDE, "O\u031b\u0309"), (0x1EDF, "o\u031b\u0309"), (0x1EE0, "O\u031b\u0303"),
    (0x1EE1, "o\u031b\u0303"), (0x1EE2, "O\u031b\u0323"), (0x1EE3, "o\u031b\u0323"),
    (0x1EE4, "U\u0323"), (0x1EE5, "u\u0323"), (0x1EE6, "U\u0309"), (0x1EE7, "u\u0309"),
    (0x1EE8, "U\u031b\u0301"), (0x1EE9, "u\u031b\u0301"), (0x1EEA, "U\u031b\u0300"),
    (0x1EEB, "u\u031b\u0300"), (0x1EEC, "U\u031b\u0309"), (0x1EED, "u\u031b\u0309"),
    (0x1EEE, "U\u031b\u0303"), (0x1EEF, "u\u031b\u0303"), (0x1EF0, "U\u031b\u0323"),
    (0x1EF1, "u\u031b\u0323"), (0x1EF2, "Y\u0300"), (0x1EF3, "y\u0300"), (0x1EF4, "Y\u0323"),
    (0x1EF5, "y\u0323"), (0x1EF6, "Y\u0309"), (0x1EF7, "y\u0309"), (0x1EF8, "Y\u0303"),
    (0x1EF9, "y\u0303"), (0x1F00, "\u03b1\u0313"), (0x1F01, "\u03b1\u0314"),
    (0x1F02, "\u03b1\u0313\u0300"), (0x1F03, "\u03b1\u0314\u0300"), (0x1F04, "\u03b1\u0313\u0301"),
    (0x1F05, "\u03b1\u0314\u0301"), (0x1F06, "\u03b1\u0313\u0342"), (0x1F07, "\u03b1\u0314\u0342"),
    (0x1F08, "\u0391\u0313"), (0x1F09, "\u0391\u0314"), (0x1F0A, "\u0391\u0313\u0300"),
    (0x1F0B, "\u0391\u0314\u0300"), (0x1F0C, "\u0391\u0313\u0301"), (0x1F0D, "\u0391\u0314\u0301"),
    (0x1F0E, "\u0391\u0313\u0342"), (0x1F0F, "\u0391\u0314\u0342"), (0x1F10, "\u03b5\u0313"),
    (0x1F11, "\u03b5\u0314"), (0x1F12, "\u03b5\u0313\u0300"), (0x1F13, "\u03b5\u0314\u0300"),
    (0x1F14, "\u03b5\u0313\u0301"), (0x1F15, "\u03b5\u0314\u0301"), (0x1F18, "\u0395\u0313"),
    (0x1F19, "\u0395\u0314"), (0x1F1A, "\u0395\u0313\u0300"), (0x1F1B, "\u0395\u0314\u0300"),
    (0x1F1C, "\u0395\u0313\u0301"), (0x1F1D, "\u0395\u0314\u0301"), (0x1F20, "\u03b7\u0313"),
    (0x1F21, "\u03b7\u0314"), (0x1F22, "\u03b7\u0313\u0300"), (0x1F23, "\u03b7\u0314\u0300"),
    (0x1F24, "\u03b7\u0313\u0301"), (0x1F25, "\u03b7\u0314\u0301"), (0x1F26, "\u03b7\u0313\u0342"),
    (0x1F27, "\u03b7\u0314\u0342"), (0x1F28, "\u0397\u0313"), (0x1F29, "\u0397\u0314"),
    (0x1F2A, "\u0397\u0313\u0300"), (0x1F2B, "\u0397\u0314\u0300"), (0x1F2C, "\u0397\u0313\u0301"),
    (0x1F2D, "\u0397\u0314\u0301"), (0x1F2E, "\u0397\u0313\u0342"), (0x1F2F, "\u0397\u0314\u0342"),
    (0x1F30, "\u03b9\u0313"), (0x1F31, "\u03b9\u0314"), (0x1F32, "\u03b9\u0313\u0300"),
    (0x1F33, "\u03b9\u0314\u0300"), (0x1F34, "\u03b9\u0313\u0301"), (0x1F35, "\u03b9\u0314\u0301"),
    (0x1F36, "\u03b9\u0313\u0342"), (0x1F37, "\u03b9\u0314\u0342"), (0x1F38, "\u0399\u0313"),
    (0x1F39, "\u0399\u0314"), (0x1F3A, "\u0399\u0313\u0300"), (0x1F3B, "\u0399\u0314\u0300"),
    (0x1F3C, "\u0399\u0313\u0301"), (0x1F3D, "\u0399\u0314\u0301"), (0x1F3E, "\u0399\u0313\u0342"),
    (0x1F3F, "\u0399\u0314\u0342"), (0x1F40, "\u03bf\u0313"), (0x1F41, "\u03bf\u0314"),
    (0x1F42, "\u03bf\u0313\u0300"), (0x1F43, "\u03bf\u0314\u0300"), (0x1F44, "\u03bf\u0313\u0301"),
    (0x1F45, "\u03bf\u0314\u0301"), (0x1F48, "\u039f\u0313"), (0x1F49, "\u039f\u0314"),
    (0x1F4A, "\u039f\u0313\u0300"), (0x1F4B, "\u039f\u0314\u0300"), (0x1F4C, "\u039f\u0313\u0301"),
    (0x1F4D, "\u039f\u0314\u0301"), (0x1F50, "\u03c5\u0313"), (0x1F51, "\u03c5\u0314"),
    (0x1F52, "\u03c5\u0313\u0300"), (0x1F53, "\u03c5\u0314\u0300"), (0x1F54, "\u03c5\u0313\u0301"),
    (0x1F55, "\u03c5\u0314\u0301"), (0x1F56, "\u03c5\u0313\u0342"), (0x1F57, "\u03c5\u0314\u0342"),
    (0x1F59, "\u03a5\u0314"), (0x1F5B, "\u03a5\u0314\u0300"), (0x1F5D, "\u03a5\u0314\u0301"),
    (0x1F5F, "\u03a5\u0314\u0342"), (0x1F60, "\u03c9\u0313"), (0x1F61, "\u03c9\u0314"),
    (0x1F62, "\u03c9\u0313\u0300"), (0x1F63, "\u03c9\u0314\u0300"), (0x1F64, "\u03c9\u0313\u0301"),
    (0x1F65, "\u03c9\u0314\u0301"), (0x1F66, "\u03c9\u0313\u0342"), (0x1F67, "\u03c9\u0314\u0342"),
    (0x1F68, "\u03a9\u0313"), (0x1F69, "\u03a9\u0314"), (0x1F6A, "\u03a9\u0313\u0300"),
    (0x1F6B, "\u03a9\u0314\u0300"), (0x1F6C, "\u03a9\u0313\u0301"), (0x1F6D, "\u03a9\u0314\u0301"),
    (0x1F6E, "\u03a9\u0313\u0342"), (0x1F6F, "\u03a9\u0314\u0342"), (0x1F70, "\u03b1\u0300"),
    (0x1F72, "\u03b5\u0300"), (0x1F74, "\u03b7\u0300"), (0x1F76, "\u03b9\u0300"),
    (0x1F78, "\u03bf\u0300"), (0x1F7A, "\u03c5\u0300"), (0x1F7C, "\u03c9\u0300"),
    (0x1F80, "\u03b1\u0313\u0345"), (0x1F81, "\u03b1\u0314\u0345"),
    (0x1F82, "\u03b1\u0313\u0300\u0345"), (0x1F83, "\u03b1\u0314\u0300\u0345"),
    (0x1F84, "\u03b1\u0313\u0301\u0345"), (0x1F85, "\u03b1\u0314\u0301\u0345"),
    (0x1F86, "\u03b1\u0313\u0342\u0345"), (0x1F87, "\u03b1\u0314\u0342\u0345"),
    (0x1F88, "\u0391\u0313\u0345"), (0x1F89, "\u0391\u0314\u0345"),
    (0x1F8A, "\u0391\u0313\u0300\u0345"), (0x1F8B, "\u0391\u0314\u0300\u0345"),
    (0x1F8C, "\u0391\u0313\u0301\u0345"), (0x1F8D, "\u0391\u0314\u0301\u0345"),
    (0x1F8E, "\u0391\u0313\u0342\u0345"), (0x1F8F, "\u0391\u0314\u0342\u0345"),
    (0x1F90, "\u03b7\u0313\u0345"), (0x1F91, "\u03b7\u0314\u0345"),
    (0x1F92, "\u03b7\u0313\u0300\u0345"), (0x1F93, "\u03b7\u0314\u0300\u0345"),
    (0x1F94, "\u03b7\u0313\u0301\u0345"), (0x1F95, "\u03b7\u0314\u0301\u0345"),
    (0x1F96, "\u03b7\u0313\u0342\u0345"), (0x1F97, "\u03b7\u0314\u0342\u0345"),
    (0x1F98, "\u0397\u0313\u0345"), (0x1F99, "\u0397\u0314\u0345"),
    (0x1F9A, "\u0397\u0313\u0300\u0345"), (0x1F9B, "\u0397\u0314\u0300\u0345"),
    (0x1F9C, "\u0397\u0313\u0301\u0345"), (0x1F9D, "\u0397\u0314\u0301\u0345"),
    (0x1F9E, "\u0397\u0313\u0342\u0345"), (0x1F9F, "\u0397\u0314\u0342\u0345"),
    (0x1FA0, "\u03c9\u0313\u0345"), (0x1FA1, "\u03c9\u0314\u0345"),
    (0x1FA2, "\u03c9\u0313\u0300\u0345"), (0x1FA3, "\u03c9\u0314\u0300\u0345"),
    (0x1FA4, "\u03c9\u0313\u0301\u0345"), (0x1FA5, "\u03c9\u0314\u0301\u0345"),
    (0x1FA6, "\u03c9\u0313\u0342\u0345"), (0x1FA7, "\u03c9\u0314\u0342\u0345"),
    (0x1FA8, "\u03a9\u0313\u0345"), (0x1FA9, "\u03a9\u0314\u0345"),
    (0x1FAA, "\u03a9\u0313\u0300\u0345"), (0x1FAB, "\u03a9\u0314\u0300\u0345"),
    (0x1FAC, "\u03a9\u0313\u0301\u0345"), (0x1FAD, "\u03a9\u0314\u0301\u0345"),
    (0x1FAE, "\u03a9\u0313\u0342\u0345"), (0x1FAF, "\u03a9\u0314\u0342\u0345"),
    (0x1FB0, "\u03b1\u0306"), (0x1FB1, "\u03b1\u0304"), (0x1FB2, "\u03b1\u0300\u0345"),
    (0x1FB3, "\u03b1\u0345"), (0x1FB4, "\u03b1\u0301\u0345"), (0x1FB6, "\u03b1\u0342"),
    (0x1FB7, "\u03b1\u0342\u0345"), (0x1FB8, "\u0391\u0306"), (0x1FB9, "\u0391\u0304"),
    (0x1FBA, "\u0391\u0300"), (0x1FBC, "\u0391\u0345"), (0x1FC1, "\u00a8\u0342"),
    (0x1FC2, "\u03b7\u0300\u0345"), (0x1FC3, "\u03b7\u0345"), (0x1FC4, "\u03b7\u0301\u0345"),
    (0x1FC6, "\u03b7\u0342"), (0x1FC7, "\u03b7\u0342\u0345"), (0x1FC8, "\u0395\u0300"),
    (0x1FCA, "\u0397\u0300"), (0x1FCC, "\u0397\u0345"), (0x1FCD, "\u1fbf\u0300"),
    (0x1FCE, "\u1fbf\u0301"), (0x1FCF, "\u1fbf\u0342"), (0x1FD0, "\u03b9\u0306"),
    (0x1FD1, "\u03b9\u0304"), (0x1FD2, "\u03b9\u0308\u0300"), (0x1FD6, "\u03b9\u0342"),
    (0x1FD7, "\u03b9\u0308\u0342"), (0x1FD8, "\u0399\u0306"), (0x1FD9, "\u0399\u0304"),
    (0x1FDA, "\u0399\u0300"), (0x1FDD, "\u1ffe\u0300"), (0x1FDE, "\u1ffe\u0301"),
    (0x1FDF, "\u1ffe\u0342"), (0x1FE0, "\u03c5\u0306"), (0x1FE1, "\u03c5\u0304"),
    (0x1FE2, "\u03c5\u0308\u0300"), (0x1FE4, "\u03c1\u0313"), (0x1FE5, "\u03c1\u0314"),
    (0x1FE6, "\u03c5\u0342"), (0x1FE7, "\u03c5\u0308\u0342"), (0x1FE8, "\u03a5\u0306"),
    (0x1FE9, "\u03a5\u0304"), (0x1FEA, "\u03a5\u0300"), (0x1FEC, "\u03a1\u0314"),
    (0x1FED, "\u00a8\u0300"), (0x1FF2, "\u03c9\u0300\u0345"), (0x1FF3, "\u03c9\u0345"),
    (0x1FF4, "\u03c9\u0301\u0345"), (0x1FF6, "\u03c9\u0342"), (0x1FF7, "\u03c9\u0342\u0345"),
    (0x1FF8, "\u039f\u0300"), (0x1FFA, "\u03a9\u0300"), (0x1FFC, "\u03a9\u0345"),
    (0x219A, "\u2190\u0338"), (0x219B, "\u2192\u0338"), (0x21AE, "\u2194\u0338"),
    (0x21CD, "\u21d0\u0338"), (0x21CE, "\u21d4\u0338"), (0x21CF, "\u21d2\u0338"),
    (0x2204, "\u2203\u0338"), (0x2209, "\u2208\u0338"), (0x220C, "\u220b\u0338"),
    (0x2224, "\u2223\u0338"), (0x2226, "\u2225\u0338"), (0x2241, "\u223c\u0338"),
    (0x2244, "\u2243\u0338"), (0x2247, "\u2245\u0338"), (0x2249, "\u2248\u0338"),
    (0x2260, "=\u0338"), (0x2262, "\u2261\u0338"), (0x226D, "\u224d\u0338"), (0x226E, "<\u0338"),
    (0x226F, ">\u0338"), (0x2270, "\u2264\u0338"), (0x2271, "\u2265\u0338"),
    (0x2274, "\u2272\u0338"), (0x2275, "\u2273\u0338"), (0x2278, "\u2276\u0338"),
    (0x2279, "\u2277\u0338"), (0x2280, "\u227a\u0338"), (0x2281, "\u227b\u0338"),
    (0x2284, "\u2282\u0338"), (0x2285, "\u2283\u0338"), (0x2288, "\u2286\u0338"),
    (0x2289, "\u2287\u0338"), (0x22AC, "\u22a2\u0338"), (0x22AD, "\u22a8\u0338"),
    (0x22AE, "\u22a9\u0338"), (0x22AF, "\u22ab\u0338"), (0x22E0, "\u227c\u0338"),
    (0x22E1, "\u227d\u0338"), (0x22E2, "\u2291\u0338"), (0x22E3, "\u2292\u0338"),
    (0x22EA, "\u22b2\u0338"), (0x22EB, "\u22b3\u0338"), (0x22EC, "\u22b4\u0338"),
    (0x22ED, "\u22b5\u0338"), (0x304C, "\u304b\u3099"), (0x304E, "\u304d\u3099"),
    (0x3050, "\u304f\u3099"), (0x3052, "\u3051\u3099"), (0x3054, "\u3053\u3099"),
    (0x3056, "\u3055\u3099"), (0x3058, "\u3057\u3099"), (0x305A, "\u3059\u3099"),
    (0x305C, "\u305b\u3099"), (0x305E, "\u305d\u3099"), (0x3060, "\u305f\u3099"),
    (0x3062, "\u3061\u3099"), (0x3065, "\u3064\u3099"), (0x3067, "\u3066\u3099"),
    (0x3069, "\u3068\u3099"), (0x3070, "\u306f\u3099"), (0x3071, "\u306f\u309a"),
    (0x3073, "\u3072\u3099"), (0x3074, "\u3072\u309a"), (0x3076, "\u3075\u3099"),
    (0x3077, "\u3075\u309a"), (0x3079, "\u3078\u3099"), (0x307A, "\u3078\u309a"),
    (0x307C, "\u307b\u3099"), (0x307D, "\u307b\u309a"), (0x3094, "\u3046\u3099"),
    (0x309E, "\u309d\u3099"), (0x30AC, "\u30ab\u3099"), (0x30AE, "\u30ad\u3099"),
    (0x30B0, "\u30af\u3099"), (0x30B2, "\u30b1\u3099"), (0x30B4, "\u30b3\u3099"),
    (0x30B6, "\u30b5\u3099"), (0x30B8, "\u30b7\u3099"), (0x30BA, "\u30b9\u3099"),
    (0x30BC, "\u30bb\u3099"), (0x30BE, "\u30bd\u3099"), (0x30C0, "\u30bf\u3099"),
    (0x30C2, "\u30c1\u3099"), (0x30C5, "\u30c4\u3099"), (0x30C7, "\u30c6\u3099"),
    (0x30C9, "\u30c8\u3099"), (0x30D0, "\u30cf\u3099"), (0x30D1, "\u30cf\u309a"),
    (0x30D3, "\u30d2\u3099"), (0x30D4, "\u30d2\u309a"), (0x30D6, "\u30d5\u3099"),
    (0x30D7, "\u30d5\u309a"), (0x30D9, "\u30d8\u3099"), (0x30DA, "\u30d8\u309a"),
    (0x30DC, "\u30db\u3099"), (0x30DD, "\u30db\u309a"), (0x30F4, "\u30a6\u3099"),
    (0x30F7, "\u30ef\u3099"), (0x30F8, "\u30f0\u3099"), (0x30F9, "\u30f1\u3099"),
    (0x30FA, "\u30f2\u3099"), (0x30FE, "\u30fd\u3099"), (0x105C9, "𐗒\u0307"), (0x105E4, "𐗚\u0307"),
    (0x1109A, "𑂚"), (0x1109C, "𑂜"), (0x110AB, "𑂫"), (0x1112E, "𑄮"), (0x1112F, "𑄯"),
    (0x1134B, "𑍋"), (0x1134C, "𑍌"), (0x11383, "𑎃"), (0x11385, "𑎅"), (0x1138E, "𑎎"),
    (0x11391, "𑎑"), (0x113C5, "𑏅"), (0x113C7, "𑏇"), (0x113C8, "𑏈"), (0x114BB, "𑒻"),
    (0x114BC, "𑒼"), (0x114BE, "𑒾"), (0x115BA, "𑖺"), (0x115BB, "𑖻"), (0x11938, "𑤸"),
    (0x16121, "𖄡"), (0x16122, "𖄢"), (0x16123, "𖄣"), (0x16124, "𖄤"), (0x16125, "𖄥"),
    (0x16126, "𖄦"), (0x16127, "𖄧"), (0x16128, "𖄨"), (0x16D68, "𖵨"), (0x16D69, "𖵩"),
    (0x16D6A, "𖵪")]

/-- Characters that are written as another single one. -/
def substitutes : List (Nat × Nat) :=
  [
    (0x340, 0x300), (0x341, 0x301), (0x343, 0x313), (0x374, 0x2B9), (0x37E, 0x3B), (0x387, 0xB7),
    (0x1FBE, 0x3B9), (0x1FEF, 0x60), (0x1FFD, 0xB4), (0x2000, 0x2002), (0x2001, 0x2003),
    (0x2126, 0x3A9), (0x212A, 0x4B), (0x2329, 0x3008), (0x232A, 0x3009), (0xF900, 0x8C48),
    (0xF901, 0x66F4), (0xF902, 0x8ECA), (0xF903, 0x8CC8), (0xF904, 0x6ED1), (0xF905, 0x4E32),
    (0xF906, 0x53E5), (0xF907, 0x9F9C), (0xF908, 0x9F9C), (0xF909, 0x5951), (0xF90A, 0x91D1),
    (0xF90B, 0x5587), (0xF90C, 0x5948), (0xF90D, 0x61F6), (0xF90E, 0x7669), (0xF90F, 0x7F85),
    (0xF910, 0x863F), (0xF911, 0x87BA), (0xF912, 0x88F8), (0xF913, 0x908F), (0xF914, 0x6A02),
    (0xF915, 0x6D1B), (0xF916, 0x70D9), (0xF917, 0x73DE), (0xF918, 0x843D), (0xF919, 0x916A),
    (0xF91A, 0x99F1), (0xF91B, 0x4E82), (0xF91C, 0x5375), (0xF91D, 0x6B04), (0xF91E, 0x721B),
    (0xF91F, 0x862D), (0xF920, 0x9E1E), (0xF921, 0x5D50), (0xF922, 0x6FEB), (0xF923, 0x85CD),
    (0xF924, 0x8964), (0xF925, 0x62C9), (0xF926, 0x81D8), (0xF927, 0x881F), (0xF928, 0x5ECA),
    (0xF929, 0x6717), (0xF92A, 0x6D6A), (0xF92B, 0x72FC), (0xF92C, 0x90CE), (0xF92D, 0x4F86),
    (0xF92E, 0x51B7), (0xF92F, 0x52DE), (0xF930, 0x64C4), (0xF931, 0x6AD3), (0xF932, 0x7210),
    (0xF933, 0x76E7), (0xF934, 0x8001), (0xF935, 0x8606), (0xF936, 0x865C), (0xF937, 0x8DEF),
    (0xF938, 0x9732), (0xF939, 0x9B6F), (0xF93A, 0x9DFA), (0xF93B, 0x788C), (0xF93C, 0x797F),
    (0xF93D, 0x7DA0), (0xF93E, 0x83C9), (0xF93F, 0x9304), (0xF940, 0x9E7F), (0xF941, 0x8AD6),
    (0xF942, 0x58DF), (0xF943, 0x5F04), (0xF944, 0x7C60), (0xF945, 0x807E), (0xF946, 0x7262),
    (0xF947, 0x78CA), (0xF948, 0x8CC2), (0xF949, 0x96F7), (0xF94A, 0x58D8), (0xF94B, 0x5C62),
    (0xF94C, 0x6A13), (0xF94D, 0x6DDA), (0xF94E, 0x6F0F), (0xF94F, 0x7D2F), (0xF950, 0x7E37),
    (0xF951, 0x964B), (0xF952, 0x52D2), (0xF953, 0x808B), (0xF954, 0x51DC), (0xF955, 0x51CC),
    (0xF956, 0x7A1C), (0xF957, 0x7DBE), (0xF958, 0x83F1), (0xF959, 0x9675), (0xF95A, 0x8B80),
    (0xF95B, 0x62CF), (0xF95C, 0x6A02), (0xF95D, 0x8AFE), (0xF95E, 0x4E39), (0xF95F, 0x5BE7),
    (0xF960, 0x6012), (0xF961, 0x7387), (0xF962, 0x7570), (0xF963, 0x5317), (0xF964, 0x78FB),
    (0xF965, 0x4FBF), (0xF966, 0x5FA9), (0xF967, 0x4E0D), (0xF968, 0x6CCC), (0xF969, 0x6578),
    (0xF96A, 0x7D22), (0xF96B, 0x53C3), (0xF96C, 0x585E), (0xF96D, 0x7701), (0xF96E, 0x8449),
    (0xF96F, 0x8AAA), (0xF970, 0x6BBA), (0xF971, 0x8FB0), (0xF972, 0x6C88), (0xF973, 0x62FE),
    (0xF974, 0x82E5), (0xF975, 0x63A0), (0xF976, 0x7565), (0xF977, 0x4EAE), (0xF978, 0x5169),
    (0xF979, 0x51C9), (0xF97A, 0x6881), (0xF97B, 0x7CE7), (0xF97C, 0x826F), (0xF97D, 0x8AD2),
    (0xF97E, 0x91CF), (0xF97F, 0x52F5), (0xF980, 0x5442), (0xF981, 0x5973), (0xF982, 0x5EEC),
    (0xF983, 0x65C5), (0xF984, 0x6FFE), (0xF985, 0x792A), (0xF986, 0x95AD), (0xF987, 0x9A6A),
    (0xF988, 0x9E97), (0xF989, 0x9ECE), (0xF98A, 0x529B), (0xF98B, 0x66C6), (0xF98C, 0x6B77),
    (0xF98D, 0x8F62), (0xF98E, 0x5E74), (0xF98F, 0x6190), (0xF990, 0x6200), (0xF991, 0x649A),
    (0xF992, 0x6F23), (0xF993, 0x7149), (0xF994, 0x7489), (0xF995, 0x79CA), (0xF996, 0x7DF4),
    (0xF997, 0x806F), (0xF998, 0x8F26), (0xF999, 0x84EE), (0xF99A, 0x9023), (0xF99B, 0x934A),
    (0xF99C, 0x5217), (0xF99D, 0x52A3), (0xF99E, 0x54BD), (0xF99F, 0x70C8), (0xF9A0, 0x88C2),
    (0xF9A1, 0x8AAA), (0xF9A2, 0x5EC9), (0xF9A3, 0x5FF5), (0xF9A4, 0x637B), (0xF9A5, 0x6BAE),
    (0xF9A6, 0x7C3E), (0xF9A7, 0x7375), (0xF9A8, 0x4EE4), (0xF9A9, 0x56F9), (0xF9AA, 0x5BE7),
    (0xF9AB, 0x5DBA), (0xF9AC, 0x601C), (0xF9AD, 0x73B2), (0xF9AE, 0x7469), (0xF9AF, 0x7F9A),
    (0xF9B0, 0x8046), (0xF9B1, 0x9234), (0xF9B2, 0x96F6), (0xF9B3, 0x9748), (0xF9B4, 0x9818),
    (0xF9B5, 0x4F8B), (0xF9B6, 0x79AE), (0xF9B7, 0x91B4), (0xF9B8, 0x96B8), (0xF9B9, 0x60E1),
    (0xF9BA, 0x4E86), (0xF9BB, 0x50DA), (0xF9BC, 0x5BEE), (0xF9BD, 0x5C3F), (0xF9BE, 0x6599),
    (0xF9BF, 0x6A02), (0xF9C0, 0x71CE), (0xF9C1, 0x7642), (0xF9C2, 0x84FC), (0xF9C3, 0x907C),
    (0xF9C4, 0x9F8D), (0xF9C5, 0x6688), (0xF9C6, 0x962E), (0xF9C7, 0x5289), (0xF9C8, 0x677B),
    (0xF9C9, 0x67F3), (0xF9CA, 0x6D41), (0xF9CB, 0x6E9C), (0xF9CC, 0x7409), (0xF9CD, 0x7559),
    (0xF9CE, 0x786B), (0xF9CF, 0x7D10), (0xF9D0, 0x985E), (0xF9D1, 0x516D), (0xF9D2, 0x622E),
    (0xF9D3, 0x9678), (0xF9D4, 0x502B), (0xF9D5, 0x5D19), (0xF9D6, 0x6DEA), (0xF9D7, 0x8F2A),
    (0xF9D8, 0x5F8B), (0xF9D9, 0x6144), (0xF9DA, 0x6817), (0xF9DB, 0x7387), (0xF9DC, 0x9686),
    (0xF9DD, 0x5229), (0xF9DE, 0x540F), (0xF9DF, 0x5C65), (0xF9E0, 0x6613), (0xF9E1, 0x674E),
    (0xF9E2, 0x68A8), (0xF9E3, 0x6CE5), (0xF9E4, 0x7406), (0xF9E5, 0x75E2), (0xF9E6, 0x7F79),
    (0xF9E7, 0x88CF), (0xF9E8, 0x88E1), (0xF9E9, 0x91CC), (0xF9EA, 0x96E2), (0xF9EB, 0x533F),
    (0xF9EC, 0x6EBA), (0xF9ED, 0x541D), (0xF9EE, 0x71D0), (0xF9EF, 0x7498), (0xF9F0, 0x85FA),
    (0xF9F1, 0x96A3), (0xF9F2, 0x9C57), (0xF9F3, 0x9E9F), (0xF9F4, 0x6797), (0xF9F5, 0x6DCB),
    (0xF9F6, 0x81E8), (0xF9F7, 0x7ACB), (0xF9F8, 0x7B20), (0xF9F9, 0x7C92), (0xF9FA, 0x72C0),
    (0xF9FB, 0x7099), (0xF9FC, 0x8B58), (0xF9FD, 0x4EC0), (0xF9FE, 0x8336), (0xF9FF, 0x523A),
    (0xFA00, 0x5207), (0xFA01, 0x5EA6), (0xFA02, 0x62D3), (0xFA03, 0x7CD6), (0xFA04, 0x5B85),
    (0xFA05, 0x6D1E), (0xFA06, 0x66B4), (0xFA07, 0x8F3B), (0xFA08, 0x884C), (0xFA09, 0x964D),
    (0xFA0A, 0x898B), (0xFA0B, 0x5ED3), (0xFA0C, 0x5140), (0xFA0D, 0x55C0), (0xFA10, 0x585A),
    (0xFA12, 0x6674), (0xFA15, 0x51DE), (0xFA16, 0x732A), (0xFA17, 0x76CA), (0xFA18, 0x793C),
    (0xFA19, 0x795E), (0xFA1A, 0x7965), (0xFA1B, 0x798F), (0xFA1C, 0x9756), (0xFA1D, 0x7CBE),
    (0xFA1E, 0x7FBD), (0xFA20, 0x8612), (0xFA22, 0x8AF8), (0xFA25, 0x9038), (0xFA26, 0x90FD),
    (0xFA2A, 0x98EF), (0xFA2B, 0x98FC), (0xFA2C, 0x9928), (0xFA2D, 0x9DB4), (0xFA2E, 0x90DE),
    (0xFA2F, 0x96B7), (0xFA30, 0x4FAE), (0xFA31, 0x50E7), (0xFA32, 0x514D), (0xFA33, 0x52C9),
    (0xFA34, 0x52E4), (0xFA35, 0x5351), (0xFA36, 0x559D), (0xFA37, 0x5606), (0xFA38, 0x5668),
    (0xFA39, 0x5840), (0xFA3A, 0x58A8), (0xFA3B, 0x5C64), (0xFA3C, 0x5C6E), (0xFA3D, 0x6094),
    (0xFA3E, 0x6168), (0xFA3F, 0x618E), (0xFA40, 0x61F2), (0xFA41, 0x654F), (0xFA42, 0x65E2),
    (0xFA43, 0x6691), (0xFA44, 0x6885), (0xFA45, 0x6D77), (0xFA46, 0x6E1A), (0xFA47, 0x6F22),
    (0xFA48, 0x716E), (0xFA49, 0x722B), (0xFA4A, 0x7422), (0xFA4B, 0x7891), (0xFA4C, 0x793E),
    (0xFA4D, 0x7949), (0xFA4E, 0x7948), (0xFA4F, 0x7950), (0xFA50, 0x7956), (0xFA51, 0x795D),
    (0xFA52, 0x798D), (0xFA53, 0x798E), (0xFA54, 0x7A40), (0xFA55, 0x7A81), (0xFA56, 0x7BC0),
    (0xFA57, 0x7DF4), (0xFA58, 0x7E09), (0xFA59, 0x7E41), (0xFA5A, 0x7F72), (0xFA5B, 0x8005),
    (0xFA5C, 0x81ED), (0xFA5D, 0x8279), (0xFA5E, 0x8279), (0xFA5F, 0x8457), (0xFA60, 0x8910),
    (0xFA61, 0x8996), (0xFA62, 0x8B01), (0xFA63, 0x8B39), (0xFA64, 0x8CD3), (0xFA65, 0x8D08),
    (0xFA66, 0x8FB6), (0xFA67, 0x9038), (0xFA68, 0x96E3), (0xFA69, 0x97FF), (0xFA6A, 0x983B),
    (0xFA6B, 0x6075), (0xFA6C, 0x242EE), (0xFA6D, 0x8218), (0xFA70, 0x4E26), (0xFA71, 0x51B5),
    (0xFA72, 0x5168), (0xFA73, 0x4F80), (0xFA74, 0x5145), (0xFA75, 0x5180), (0xFA76, 0x52C7),
    (0xFA77, 0x52FA), (0xFA78, 0x559D), (0xFA79, 0x5555), (0xFA7A, 0x5599), (0xFA7B, 0x55E2),
    (0xFA7C, 0x585A), (0xFA7D, 0x58B3), (0xFA7E, 0x5944), (0xFA7F, 0x5954), (0xFA80, 0x5A62),
    (0xFA81, 0x5B28), (0xFA82, 0x5ED2), (0xFA83, 0x5ED9), (0xFA84, 0x5F69), (0xFA85, 0x5FAD),
    (0xFA86, 0x60D8), (0xFA87, 0x614E), (0xFA88, 0x6108), (0xFA89, 0x618E), (0xFA8A, 0x6160),
    (0xFA8B, 0x61F2), (0xFA8C, 0x6234), (0xFA8D, 0x63C4), (0xFA8E, 0x641C), (0xFA8F, 0x6452),
    (0xFA90, 0x6556), (0xFA91, 0x6674), (0xFA92, 0x6717), (0xFA93, 0x671B), (0xFA94, 0x6756),
    (0xFA95, 0x6B79), (0xFA96, 0x6BBA), (0xFA97, 0x6D41), (0xFA98, 0x6EDB), (0xFA99, 0x6ECB),
    (0xFA9A, 0x6F22), (0xFA9B, 0x701E), (0xFA9C, 0x716E), (0xFA9D, 0x77A7), (0xFA9E, 0x7235),
    (0xFA9F, 0x72AF), (0xFAA0, 0x732A), (0xFAA1, 0x7471), (0xFAA2, 0x7506), (0xFAA3, 0x753B),
    (0xFAA4, 0x761D), (0xFAA5, 0x761F), (0xFAA6, 0x76CA), (0xFAA7, 0x76DB), (0xFAA8, 0x76F4),
    (0xFAA9, 0x774A), (0xFAAA, 0x7740), (0xFAAB, 0x78CC), (0xFAAC, 0x7AB1), (0xFAAD, 0x7BC0),
    (0xFAAE, 0x7C7B), (0xFAAF, 0x7D5B), (0xFAB0, 0x7DF4), (0xFAB1, 0x7F3E), (0xFAB2, 0x8005),
    (0xFAB3, 0x8352), (0xFAB4, 0x83EF), (0xFAB5, 0x8779), (0xFAB6, 0x8941), (0xFAB7, 0x8986),
    (0xFAB8, 0x8996), (0xFAB9, 0x8ABF), (0xFABA, 0x8AF8), (0xFABB, 0x8ACB), (0xFABC, 0x8B01),
    (0xFABD, 0x8AFE), (0xFABE, 0x8AED), (0xFABF, 0x8B39), (0xFAC0, 0x8B8A), (0xFAC1, 0x8D08),
    (0xFAC2, 0x8F38), (0xFAC3, 0x9072), (0xFAC4, 0x9199), (0xFAC5, 0x9276), (0xFAC6, 0x967C),
    (0xFAC7, 0x96E3), (0xFAC8, 0x9756), (0xFAC9, 0x97DB), (0xFACA, 0x97FF), (0xFACB, 0x980B),
    (0xFACC, 0x983B), (0xFACD, 0x9B12), (0xFACE, 0x9F9C), (0xFACF, 0x2284A), (0xFAD0, 0x22844),
    (0xFAD1, 0x233D5), (0xFAD2, 0x3B9D), (0xFAD3, 0x4018), (0xFAD4, 0x4039), (0xFAD5, 0x25249),
    (0xFAD6, 0x25CD0), (0xFAD7, 0x27ED3), (0xFAD8, 0x9F43), (0xFAD9, 0x9F8E), (0x2F800, 0x4E3D),
    (0x2F801, 0x4E38), (0x2F802, 0x4E41), (0x2F803, 0x20122), (0x2F804, 0x4F60), (0x2F805, 0x4FAE),
    (0x2F806, 0x4FBB), (0x2F807, 0x5002), (0x2F808, 0x507A), (0x2F809, 0x5099), (0x2F80A, 0x50E7),
    (0x2F80B, 0x50CF), (0x2F80C, 0x349E), (0x2F80D, 0x2063A), (0x2F80E, 0x514D), (0x2F80F, 0x5154),
    (0x2F810, 0x5164), (0x2F811, 0x5177), (0x2F812, 0x2051C), (0x2F813, 0x34B9), (0x2F814, 0x5167),
    (0x2F815, 0x518D), (0x2F816, 0x2054B), (0x2F817, 0x5197), (0x2F818, 0x51A4), (0x2F819, 0x4ECC),
    (0x2F81A, 0x51AC), (0x2F81B, 0x51B5), (0x2F81C, 0x291DF), (0x2F81D, 0x51F5), (0x2F81E, 0x5203),
    (0x2F81F, 0x34DF), (0x2F820, 0x523B), (0x2F821, 0x5246), (0x2F822, 0x5272), (0x2F823, 0x5277),
    (0x2F824, 0x3515), (0x2F825, 0x52C7), (0x2F826, 0x52C9), (0x2F827, 0x52E4), (0x2F828, 0x52FA),
    (0x2F829, 0x5305), (0x2F82A, 0x5306), (0x2F82B, 0x5317), (0x2F82C, 0x5349), (0x2F82D, 0x5351),
    (0x2F82E, 0x535A), (0x2F82F, 0x5373), (0x2F830, 0x537D), (0x2F831, 0x537F), (0x2F832, 0x537F),
    (0x2F833, 0x537F), (0x2F834, 0x20A2C), (0x2F835, 0x7070), (0x2F836, 0x53CA), (0x2F837, 0x53DF),
    (0x2F838, 0x20B63), (0x2F839, 0x53EB), (0x2F83A, 0x53F1), (0x2F83B, 0x5406), (0x2F83C, 0x549E),
    (0x2F83D, 0x5438), (0x2F83E, 0x5448), (0x2F83F, 0x5468), (0x2F840, 0x54A2), (0x2F841, 0x54F6),
    (0x2F842, 0x5510), (0x2F843, 0x5553), (0x2F844, 0x5563), (0x2F845, 0x5584), (0x2F846, 0x5584),
    (0x2F847, 0x5599), (0x2F848, 0x55AB), (0x2F849, 0x55B3), (0x2F84A, 0x55C2), (0x2F84B, 0x5716),
    (0x2F84C, 0x5606), (0x2F84D, 0x5717), (0x2F84E, 0x5651), (0x2F84F, 0x5674), (0x2F850, 0x5207),
    (0x2F851, 0x58EE), (0x2F852, 0x57CE), (0x2F853, 0x57F4), (0x2F854, 0x580D), (0x2F855, 0x578B),
    (0x2F856, 0x5832), (0x2F857, 0x5831), (0x2F858, 0x58AC), (0x2F859, 0x214E4), (0x2F85A, 0x58F2),
    (0x2F85B, 0x58F7), (0x2F85C, 0x5906), (0x2F85D, 0x591A), (0x2F85E, 0x5922), (0x2F85F, 0x5962),
    (0x2F860, 0x216A8), (0x2F861, 0x216EA), (0x2F862, 0x59EC), (0x2F863, 0x5A1B), (0x2F864, 0x5A27),
    (0x2F865, 0x59D8), (0x2F866, 0x5A66), (0x2F867, 0x36EE), (0x2F868, 0x36FC), (0x2F869, 0x5B08),
    (0x2F86A, 0x5B3E), (0x2F86B, 0x5B3E), (0x2F86C, 0x219C8), (0x2F86D, 0x5BC3), (0x2F86E, 0x5BD8),
    (0x2F86F, 0x5BE7), (0x2F870, 0x5BF3), (0x2F871, 0x21B18), (0x2F872, 0x5BFF), (0x2F873, 0x5C06),
    (0x2F874, 0x5F53), (0x2F875, 0x5C22), (0x2F876, 0x3781), (0x2F877, 0x5C60), (0x2F878, 0x5C6E),
    (0x2F879, 0x5CC0), (0x2F87A, 0x5C8D), (0x2F87B, 0x21DE4), (0x2F87C, 0x5D43), (0x2F87D, 0x21DE6),
    (0x2F87E, 0x5D6E), (0x2F87F, 0x5D6B), (0x2F880, 0x5D7C), (0x2F881, 0x5DE1), (0x2F882, 0x5DE2),
    (0x2F883, 0x382F), (0x2F884, 0x5DFD), (0x2F885, 0x5E28), (0x2F886, 0x5E3D), (0x2F887, 0x5E69),
    (0x2F888, 0x3862), (0x2F889, 0x22183), (0x2F88A, 0x387C), (0x2F88B, 0x5EB0), (0x2F88C, 0x5EB3),
    (0x2F88D, 0x5EB6), (0x2F88E, 0x5ECA), (0x2F88F, 0x2A392), (0x2F890, 0x5EFE), (0x2F891, 0x22331),
    (0x2F892, 0x22331), (0x2F893, 0x8201), (0x2F894, 0x5F22), (0x2F895, 0x5F22), (0x2F896, 0x38C7),
    (0x2F897, 0x232B8), (0x2F898, 0x261DA), (0x2F899, 0x5F62), (0x2F89A, 0x5F6B), (0x2F89B, 0x38E3),
    (0x2F89C, 0x5F9A), (0x2F89D, 0x5FCD), (0x2F89E, 0x5FD7), (0x2F89F, 0x5FF9), (0x2F8A0, 0x6081),
    (0x2F8A1, 0x393A), (0x2F8A2, 0x391C), (0x2F8A3, 0x6094), (0x2F8A4, 0x226D4), (0x2F8A5, 0x60C7),
    (0x2F8A6, 0x6148), (0x2F8A7, 0x614C), (0x2F8A8, 0x614E), (0x2F8A9, 0x614C), (0x2F8AA, 0x617A),
    (0x2F8AB, 0x618E), (0x2F8AC, 0x61B2), (0x2F8AD, 0x61A4), (0x2F8AE, 0x61AF), (0x2F8AF, 0x61DE),
    (0x2F8B0, 0x61F2), (0x2F8B1, 0x61F6), (0x2F8B2, 0x6210), (0x2F8B3, 0x621B), (0x2F8B4, 0x625D),
    (0x2F8B5, 0x62B1), (0x2F8B6, 0x62D4), (0x2F8B7, 0x6350), (0x2F8B8, 0x22B0C), (0x2F8B9, 0x633D),
    (0x2F8BA, 0x62FC), (0x2F8BB, 0x6368), (0x2F8BC, 0x6383), (0x2F8BD, 0x63E4), (0x2F8BE, 0x22BF1),
    (0x2F8BF, 0x6422), (0x2F8C0, 0x63C5), (0x2F8C1, 0x63A9), (0x2F8C2, 0x3A2E), (0x2F8C3, 0x6469),
    (0x2F8C4, 0x647E), (0x2F8C5, 0x649D), (0x2F8C6, 0x6477), (0x2F8C7, 0x3A6C), (0x2F8C8, 0x654F),
    (0x2F8C9, 0x656C), (0x2F8CA, 0x2300A), (0x2F8CB, 0x65E3), (0x2F8CC, 0x66F8), (0x2F8CD, 0x6649),
    (0x2F8CE, 0x3B19), (0x2F8CF, 0x6691), (0x2F8D0, 0x3B08), (0x2F8D1, 0x3AE4), (0x2F8D2, 0x5192),
    (0x2F8D3, 0x5195), (0x2F8D4, 0x6700), (0x2F8D5, 0x669C), (0x2F8D6, 0x80AD), (0x2F8D7, 0x43D9),
    (0x2F8D8, 0x6717), (0x2F8D9, 0x671B), (0x2F8DA, 0x6721), (0x2F8DB, 0x675E), (0x2F8DC, 0x6753),
    (0x2F8DD, 0x233C3), (0x2F8DE, 0x3B49), (0x2F8DF, 0x67FA), (0x2F8E0, 0x6785), (0x2F8E1, 0x6852),
    (0x2F8E2, 0x6885), (0x2F8E3, 0x2346D), (0x2F8E4, 0x688E), (0x2F8E5, 0x681F), (0x2F8E6, 0x6914),
    (0x2F8E7, 0x3B9D), (0x2F8E8, 0x6942), (0x2F8E9, 0x69A3), (0x2F8EA, 0x69EA), (0x2F8EB, 0x6AA8),
    (0x2F8EC, 0x236A3), (0x2F8ED, 0x6ADB), (0x2F8EE, 0x3C18), (0x2F8EF, 0x6B21), (0x2F8F0, 0x238A7),
    (0x2F8F1, 0x6B54), (0x2F8F2, 0x3C4E), (0x2F8F3, 0x6B72), (0x2F8F4, 0x6B9F), (0x2F8F5, 0x6BBA),
    (0x2F8F6, 0x6BBB), (0x2F8F7, 0x23A8D), (0x2F8F8, 0x21D0B), (0x2F8F9, 0x23AFA),
    (0x2F8FA, 0x6C4E), (0x2F8FB, 0x23CBC), (0x2F8FC, 0x6CBF), (0x2F8FD, 0x6CCD), (0x2F8FE, 0x6C67),
    (0x2F8FF, 0x6D16), (0x2F900, 0x6D3E), (0x2F901, 0x6D77), (0x2F902, 0x6D41), (0x2F903, 0x6D69),
    (0x2F904, 0x6D78), (0x2F905, 0x6D85), (0x2F906, 0x23D1E), (0x2F907, 0x6D34), (0x2F908, 0x6E2F),
    (0x2F909, 0x6E6E), (0x2F90A, 0x3D33), (0x2F90B, 0x6ECB), (0x2F90C, 0x6EC7), (0x2F90D, 0x23ED1),
    (0x2F90E, 0x6DF9), (0x2F90F, 0x6F6E), (0x2F910, 0x23F5E), (0x2F911, 0x23F8E), (0x2F912, 0x6FC6),
    (0x2F913, 0x7039), (0x2F914, 0x701E), (0x2F915, 0x701B), (0x2F916, 0x3D96), (0x2F917, 0x704A),
    (0x2F918, 0x707D), (0x2F919, 0x7077), (0x2F91A, 0x70AD), (0x2F91B, 0x20525), (0x2F91C, 0x7145),
    (0x2F91D, 0x24263), (0x2F91E, 0x719C), (0x2F91F, 0x243AB), (0x2F920, 0x7228), (0x2F921, 0x7235),
    (0x2F922, 0x7250), (0x2F923, 0x24608), (0x2F924, 0x7280), (0x2F925, 0x7295), (0x2F926, 0x24735),
    (0x2F927, 0x24814), (0x2F928, 0x737A), (0x2F929, 0x738B), (0x2F92A, 0x3EAC), (0x2F92B, 0x73A5),
    (0x2F92C, 0x3EB8), (0x2F92D, 0x3EB8), (0x2F92E, 0x7447), (0x2F92F, 0x745C), (0x2F930, 0x7471),
    (0x2F931, 0x7485), (0x2F932, 0x74CA), (0x2F933, 0x3F1B), (0x2F934, 0x7524), (0x2F935, 0x24C36),
    (0x2F936, 0x753E), (0x2F937, 0x24C92), (0x2F938, 0x7570), (0x2F939, 0x2219F), (0x2F93A, 0x7610),
    (0x2F93B, 0x24FA1), (0x2F93C, 0x24FB8), (0x2F93D, 0x25044), (0x2F93E, 0x3FFC),
    (0x2F93F, 0x4008), (0x2F940, 0x76F4), (0x2F941, 0x250F3), (0x2F942, 0x250F2),
    (0x2F943, 0x25119), (0x2F944, 0x25133), (0x2F945, 0x771E), (0x2F946, 0x771F), (0x2F947, 0x771F),
    (0x2F948, 0x774A), (0x2F949, 0x4039), (0x2F94A, 0x778B), (0x2F94B, 0x4046), (0x2F94C, 0x4096),
    (0x2F94D, 0x2541D), (0x2F94E, 0x784E), (0x2F94F, 0x788C), (0x2F950, 0x78CC), (0x2F951, 0x40E3),
    (0x2F952, 0x25626), (0x2F953, 0x7956), (0x2F954, 0x2569A), (0x2F955, 0x256C5),
    (0x2F956, 0x798F), (0x2F957, 0x79EB), (0x2F958, 0x412F), (0x2F959, 0x7A40), (0x2F95A, 0x7A4A),
    (0x2F95B, 0x7A4F), (0x2F95C, 0x2597C), (0x2F95D, 0x25AA7), (0x2F95E, 0x25AA7),
    (0x2F95F, 0x7AEE), (0x2F960, 0x4202), (0x2F961, 0x25BAB), (0x2F962, 0x7BC6), (0x2F963, 0x7BC9),
    (0x2F964, 0x4227), (0x2F965, 0x25C80), (0x2F966, 0x7CD2), (0x2F967, 0x42A0), (0x2F968, 0x7CE8),
    (0x2F969, 0x7CE3), (0x2F96A, 0x7D00), (0x2F96B, 0x25F86), (0x2F96C, 0x7D63), (0x2F96D, 0x4301),
    (0x2F96E, 0x7DC7), (0x2F96F, 0x7E02), (0x2F970, 0x7E45), (0x2F971, 0x4334), (0x2F972, 0x26228),
    (0x2F973, 0x26247), (0x2F974, 0x4359), (0x2F975, 0x262D9), (0x2F976, 0x7F7A),
    (0x2F977, 0x2633E), (0x2F978, 0x7F95), (0x2F979, 0x7FFA), (0x2F97A, 0x8005), (0x2F97B, 0x264DA),
    (0x2F97C, 0x26523), (0x2F97D, 0x8060), (0x2F97E, 0x265A8), (0x2F97F, 0x8070),
    (0x2F980, 0x2335F), (0x2F981, 0x43D5), (0x2F982, 0x80B2), (0x2F983, 0x8103), (0x2F984, 0x440B),
    (0x2F985, 0x813E), (0x2F986, 0x5AB5), (0x2F987, 0x267A7), (0x2F988, 0x267B5),
    (0x2F989, 0x23393), (0x2F98A, 0x2339C), (0x2F98B, 0x8201), (0x2F98C, 0x8204), (0x2F98D, 0x8F9E),
    (0x2F98E, 0x446B), (0x2F98F, 0x8291), (0x2F990, 0x828B), (0x2F991, 0x829D), (0x2F992, 0x52B3),
    (0x2F993, 0x82B1), (0x2F994, 0x82B3), (0x2F995, 0x82BD), (0x2F996, 0x82E6), (0x2F997, 0x26B3C),
    (0x2F998, 0x82E5), (0x2F999, 0x831D), (0x2F99A, 0x8363), (0x2F99B, 0x83AD), (0x2F99C, 0x8323),
    (0x2F99D, 0x83BD), (0x2F99E, 0x83E7), (0x2F99F, 0x8457), (0x2F9A0, 0x8353), (0x2F9A1, 0x83CA),
    (0x2F9A2, 0x83CC), (0x2F9A3, 0x83DC), (0x2F9A4, 0x26C36), (0x2F9A5, 0x26D6B),
    (0x2F9A6, 0x26CD5), (0x2F9A7, 0x452B), (0x2F9A8, 0x84F1), (0x2F9A9, 0x84F3), (0x2F9AA, 0x8516),
    (0x2F9AB, 0x273CA), (0x2F9AC, 0x8564), (0x2F9AD, 0x26F2C), (0x2F9AE, 0x455D), (0x2F9AF, 0x4561),
    (0x2F9B0, 0x26FB1), (0x2F9B1, 0x270D2), (0x2F9B2, 0x456B), (0x2F9B3, 0x8650), (0x2F9B4, 0x865C),
    (0x2F9B5, 0x8667), (0x2F9B6, 0x8669), (0x2F9B7, 0x86A9), (0x2F9B8, 0x8688), (0x2F9B9, 0x870E),
    (0x2F9BA, 0x86E2), (0x2F9BB, 0x8779), (0x2F9BC, 0x8728), (0x2F9BD, 0x876B), (0x2F9BE, 0x8786),
    (0x2F9BF, 0x45D7), (0x2F9C0, 0x87E1), (0x2F9C1, 0x8801), (0x2F9C2, 0x45F9), (0x2F9C3, 0x8860),
    (0x2F9C4, 0x8863), (0x2F9C5, 0x27667), (0x2F9C6, 0x88D7), (0x2F9C7, 0x88DE), (0x2F9C8, 0x4635),
    (0x2F9C9, 0x88FA), (0x2F9CA, 0x34BB), (0x2F9CB, 0x278AE), (0x2F9CC, 0x27966), (0x2F9CD, 0x46BE),
    (0x2F9CE, 0x46C7), (0x2F9CF, 0x8AA0), (0x2F9D0, 0x8AED), (0x2F9D1, 0x8B8A), (0x2F9D2, 0x8C55),
    (0x2F9D3, 0x27CA8), (0x2F9D4, 0x8CAB), (0x2F9D5, 0x8CC1), (0x2F9D6, 0x8D1B), (0x2F9D7, 0x8D77),
    (0x2F9D8, 0x27F2F), (0x2F9D9, 0x20804), (0x2F9DA, 0x8DCB), (0x2F9DB, 0x8DBC), (0x2F9DC, 0x8DF0),
    (0x2F9DD, 0x208DE), (0x2F9DE, 0x8ED4), (0x2F9DF, 0x8F38), (0x2F9E0, 0x285D2),
    (0x2F9E1, 0x285ED), (0x2F9E2, 0x9094), (0x2F9E3, 0x90F1), (0x2F9E4, 0x9111), (0x2F9E5, 0x2872E),
    (0x2F9E6, 0x911B), (0x2F9E7, 0x9238), (0x2F9E8, 0x92D7), (0x2F9E9, 0x92D8), (0x2F9EA, 0x927C),
    (0x2F9EB, 0x93F9), (0x2F9EC, 0x9415), (0x2F9ED, 0x28BFA), (0x2F9EE, 0x958B), (0x2F9EF, 0x4995),
    (0x2F9F0, 0x95B7), (0x2F9F1, 0x28D77), (0x2F9F2, 0x49E6), (0x2F9F3, 0x96C3), (0x2F9F4, 0x5DB2),
    (0x2F9F5, 0x9723), (0x2F9F6, 0x29145), (0x2F9F7, 0x2921A), (0x2F9F8, 0x4A6E), (0x2F9F9, 0x4A76),
    (0x2F9FA, 0x97E0), (0x2F9FB, 0x2940A), (0x2F9FC, 0x4AB2), (0x2F9FD, 0x29496), (0x2F9FE, 0x980B),
    (0x2F9FF, 0x980B), (0x2FA00, 0x9829), (0x2FA01, 0x295B6), (0x2FA02, 0x98E2), (0x2FA03, 0x4B33),
    (0x2FA04, 0x9929), (0x2FA05, 0x99A7), (0x2FA06, 0x99C2), (0x2FA07, 0x99FE), (0x2FA08, 0x4BCE),
    (0x2FA09, 0x29B30), (0x2FA0A, 0x9B12), (0x2FA0B, 0x9C40), (0x2FA0C, 0x9CFD), (0x2FA0D, 0x4CCE),
    (0x2FA0E, 0x4CED), (0x2FA0F, 0x9D67), (0x2FA10, 0x2A0CE), (0x2FA11, 0x4CF8), (0x2FA12, 0x2A105),
    (0x2FA13, 0x2A20E), (0x2FA14, 0x2A291), (0x2FA15, 0x9EBB), (0x2FA16, 0x4D56), (0x2FA17, 0x9EF9),
    (0x2FA18, 0x9EFE), (0x2FA19, 0x9F05), (0x2FA1A, 0x9F0F), (0x2FA1B, 0x9F16), (0x2FA1C, 0x9F3B),
    (0x2FA1D, 0x2A600)]

/-- Characters that are taken apart and never composed. -/
def expansions : List (Nat × String) :=
  [
    (0x344, "\u0308\u0301"), (0x958, "\u0915\u093c"), (0x959, "\u0916\u093c"),
    (0x95A, "\u0917\u093c"), (0x95B, "\u091c\u093c"), (0x95C, "\u0921\u093c"),
    (0x95D, "\u0922\u093c"), (0x95E, "\u092b\u093c"), (0x95F, "\u092f\u093c"),
    (0x9DC, "\u09a1\u09bc"), (0x9DD, "\u09a2\u09bc"), (0x9DF, "\u09af\u09bc"),
    (0xA33, "\u0a32\u0a3c"), (0xA36, "\u0a38\u0a3c"), (0xA59, "\u0a16\u0a3c"),
    (0xA5A, "\u0a17\u0a3c"), (0xA5B, "\u0a1c\u0a3c"), (0xA5E, "\u0a2b\u0a3c"),
    (0xB5C, "\u0b21\u0b3c"), (0xB5D, "\u0b22\u0b3c"), (0xF43, "\u0f42\u0fb7"),
    (0xF4D, "\u0f4c\u0fb7"), (0xF52, "\u0f51\u0fb7"), (0xF57, "\u0f56\u0fb7"),
    (0xF5C, "\u0f5b\u0fb7"), (0xF69, "\u0f40\u0fb5"), (0xF73, "\u0f71\u0f72"),
    (0xF75, "\u0f71\u0f74"), (0xF76, "\u0fb2\u0f80"), (0xF78, "\u0fb3\u0f80"),
    (0xF81, "\u0f71\u0f80"), (0xF93, "\u0f92\u0fb7"), (0xF9D, "\u0f9c\u0fb7"),
    (0xFA2, "\u0fa1\u0fb7"), (0xFA7, "\u0fa6\u0fb7"), (0xFAC, "\u0fab\u0fb7"),
    (0xFB9, "\u0f90\u0fb5"), (0x1F71, "\u03b1\u0301"), (0x1F73, "\u03b5\u0301"),
    (0x1F75, "\u03b7\u0301"), (0x1F77, "\u03b9\u0301"), (0x1F79, "\u03bf\u0301"),
    (0x1F7B, "\u03c5\u0301"), (0x1F7D, "\u03c9\u0301"), (0x1FBB, "\u0391\u0301"),
    (0x1FC9, "\u0395\u0301"), (0x1FCB, "\u0397\u0301"), (0x1FD3, "\u03b9\u0308\u0301"),
    (0x1FDB, "\u0399\u0301"), (0x1FE3, "\u03c5\u0308\u0301"), (0x1FEB, "\u03a5\u0301"),
    (0x1FEE, "\u00a8\u0301"), (0x1FF9, "\u039f\u0301"), (0x1FFB, "\u03a9\u0301"),
    (0x212B, "A\u030a"), (0x2ADC, "\u2add\u0338"), (0xFB1D, "\u05d9\u05b4"),
    (0xFB1F, "\u05f2\u05b7"), (0xFB2A, "\u05e9\u05c1"), (0xFB2B, "\u05e9\u05c2"),
    (0xFB2C, "\u05e9\u05bc\u05c1"), (0xFB2D, "\u05e9\u05bc\u05c2"), (0xFB2E, "\u05d0\u05b7"),
    (0xFB2F, "\u05d0\u05b8"), (0xFB30, "\u05d0\u05bc"), (0xFB31, "\u05d1\u05bc"),
    (0xFB32, "\u05d2\u05bc"), (0xFB33, "\u05d3\u05bc"), (0xFB34, "\u05d4\u05bc"),
    (0xFB35, "\u05d5\u05bc"), (0xFB36, "\u05d6\u05bc"), (0xFB38, "\u05d8\u05bc"),
    (0xFB39, "\u05d9\u05bc"), (0xFB3A, "\u05da\u05bc"), (0xFB3B, "\u05db\u05bc"),
    (0xFB3C, "\u05dc\u05bc"), (0xFB3E, "\u05de\u05bc"), (0xFB40, "\u05e0\u05bc"),
    (0xFB41, "\u05e1\u05bc"), (0xFB43, "\u05e3\u05bc"), (0xFB44, "\u05e4\u05bc"),
    (0xFB46, "\u05e6\u05bc"), (0xFB47, "\u05e7\u05bc"), (0xFB48, "\u05e8\u05bc"),
    (0xFB49, "\u05e9\u05bc"), (0xFB4A, "\u05ea\u05bc"), (0xFB4B, "\u05d5\u05b9"),
    (0xFB4C, "\u05d1\u05bf"), (0xFB4D, "\u05db\u05bf"), (0xFB4E, "\u05e4\u05bf"), (0x1D15E, "𝅗𝅥"),
    (0x1D15F, "𝅘𝅥"), (0x1D160, "𝅘𝅥𝅮"), (0x1D161, "𝅘𝅥𝅯"), (0x1D162, "𝅘𝅥𝅰"), (0x1D163, "𝅘𝅥𝅱"),
    (0x1D164, "𝅘𝅥𝅲"), (0x1D1BB, "𝆹𝅥"), (0x1D1BC, "𝆺𝅥"), (0x1D1BD, "𝆹𝅥𝅮"), (0x1D1BE, "𝆺𝅥𝅮"),
    (0x1D1BF, "𝆹𝅥𝅯"), (0x1D1C0, "𝆺𝅥𝅯")]

end ServiceClient.Text.Normal
