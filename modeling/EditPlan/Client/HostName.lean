import EditPlan.Client.Letters
import EditPlan.Text.Basic
import EditPlan.Text.Quoted

/-!
Names of hosts as the client in front of the service reads, writes and shows them.
-/

namespace EditPlan.Url.Name

/-!
## Composed text

Marks behind a letter stand in the order of their classes, and where a letter and a mark behind it have one
code point for both, the text has that one. A mark reaches its letter across marks of lower classes. Text is composed if
nothing changes when all letters are taken apart, the marks are put in order, and what unites is united again.
-/

/-- classes of marks with their ranges; marks of one class stand at the same place of a letter. A letter has class 0 -/
def markClasses : List (Nat × List (Nat × Nat)) := [
  (1, [(0x334, 0x338), (0x1cd4, 0x1cd4), (0x1ce2, 0x1ce8), (0x10a39, 0x10a39), (0x16af0, 0x16af4),
    (0x1bc9e, 0x1bc9e)]),
  (6, [(0x16ff0, 0x16ff1)]),
  (7, [(0x93c, 0x93c), (0x9bc, 0x9bc), (0xa3c, 0xa3c), (0xabc, 0xabc), (0xb3c, 0xb3c), (0xc3c, 0xc3c), (0xcbc, 0xcbc),
    (0x1037, 0x1037), (0x1b34, 0x1b34), (0x1be6, 0x1be6), (0x1c37, 0x1c37), (0xa9b3, 0xa9b3), (0x110ba, 0x110ba),
    (0x11173, 0x11173), (0x111ca, 0x111ca), (0x11236, 0x11236), (0x112e9, 0x112e9), (0x1133b, 0x1133c),
    (0x11446, 0x11446), (0x114c3, 0x114c3), (0x115c0, 0x115c0), (0x116b7, 0x116b7), (0x1183a, 0x1183a),
    (0x11943, 0x11943), (0x11d42, 0x11d42), (0x1e94a, 0x1e94a)]),
  (8, [(0x3099, 0x309a)]),
  (9, [(0x94d, 0x94d), (0x9cd, 0x9cd), (0xa4d, 0xa4d), (0xacd, 0xacd), (0xb4d, 0xb4d), (0xbcd, 0xbcd), (0xc4d, 0xc4d),
    (0xccd, 0xccd), (0xd3b, 0xd3c), (0xd4d, 0xd4d), (0xdca, 0xdca), (0xe3a, 0xe3a), (0xeba, 0xeba), (0xf84, 0xf84),
    (0x1039, 0x103a), (0x1714, 0x1715), (0x1734, 0x1734), (0x17d2, 0x17d2), (0x1a60, 0x1a60), (0x1b44, 0x1b44),
    (0x1baa, 0x1bab), (0x1bf2, 0x1bf3), (0x2d7f, 0x2d7f), (0xa806, 0xa806), (0xa82c, 0xa82c), (0xa8c4, 0xa8c4),
    (0xa953, 0xa953), (0xa9c0, 0xa9c0), (0xaaf6, 0xaaf6), (0xabed, 0xabed), (0x10a3f, 0x10a3f), (0x11046, 0x11046),
    (0x11070, 0x11070), (0x1107f, 0x1107f), (0x110b9, 0x110b9), (0x11133, 0x11134), (0x111c0, 0x111c0),
    (0x11235, 0x11235), (0x112ea, 0x112ea), (0x1134d, 0x1134d), (0x11442, 0x11442), (0x114c2, 0x114c2),
    (0x115bf, 0x115bf), (0x1163f, 0x1163f), (0x116b6, 0x116b6), (0x1172b, 0x1172b), (0x11839, 0x11839),
    (0x1193d, 0x1193e), (0x119e0, 0x119e0), (0x11a34, 0x11a34), (0x11a47, 0x11a47), (0x11a99, 0x11a99),
    (0x11c3f, 0x11c3f), (0x11d44, 0x11d45), (0x11d97, 0x11d97)]),
  (10, [(0x5b0, 0x5b0)]),
  (11, [(0x5b1, 0x5b1)]),
  (12, [(0x5b2, 0x5b2)]),
  (13, [(0x5b3, 0x5b3)]),
  (14, [(0x5b4, 0x5b4)]),
  (15, [(0x5b5, 0x5b5)]),
  (16, [(0x5b6, 0x5b6)]),
  (17, [(0x5b7, 0x5b7)]),
  (18, [(0x5b8, 0x5b8), (0x5c7, 0x5c7)]),
  (19, [(0x5b9, 0x5ba)]),
  (20, [(0x5bb, 0x5bb)]),
  (21, [(0x5bc, 0x5bc)]),
  (22, [(0x5bd, 0x5bd)]),
  (23, [(0x5bf, 0x5bf)]),
  (24, [(0x5c1, 0x5c1)]),
  (25, [(0x5c2, 0x5c2)]),
  (26, [(0xfb1e, 0xfb1e)]),
  (27, [(0x64b, 0x64b), (0x8f0, 0x8f0)]),
  (28, [(0x64c, 0x64c), (0x8f1, 0x8f1)]),
  (29, [(0x64d, 0x64d), (0x8f2, 0x8f2)]),
  (30, [(0x618, 0x618), (0x64e, 0x64e)]),
  (31, [(0x619, 0x619), (0x64f, 0x64f)]),
  (32, [(0x61a, 0x61a), (0x650, 0x650)]),
  (33, [(0x651, 0x651)]),
  (34, [(0x652, 0x652)]),
  (35, [(0x670, 0x670)]),
  (36, [(0x711, 0x711)]),
  (84, [(0xc55, 0xc55)]),
  (91, [(0xc56, 0xc56)]),
  (103, [(0xe38, 0xe39)]),
  (107, [(0xe48, 0xe4b)]),
  (118, [(0xeb8, 0xeb9)]),
  (122, [(0xec8, 0xecb)]),
  (129, [(0xf71, 0xf71)]),
  (130, [(0xf72, 0xf72), (0xf7a, 0xf7d), (0xf80, 0xf80)]),
  (132, [(0xf74, 0xf74)]),
  (202, [(0x321, 0x322), (0x327, 0x328), (0x1dd0, 0x1dd0)]),
  (214, [(0x1dce, 0x1dce)]),
  (216, [(0x31b, 0x31b), (0xf39, 0xf39)]),
  (218, [(0x1dfa, 0x1dfa), (0x302a, 0x302a)]),
  (220, [(0x316, 0x319), (0x31c, 0x320), (0x323, 0x326), (0x329, 0x333), (0x339, 0x33c), (0x347, 0x349),
    (0x34d, 0x34e), (0x353, 0x356), (0x359, 0x35a), (0x591, 0x591), (0x596, 0x596), (0x59b, 0x59b), (0x5a2, 0x5a7),
    (0x5aa, 0x5aa), (0x5c5, 0x5c5), (0x655, 0x656), (0x65c, 0x65c), (0x65f, 0x65f), (0x6e3, 0x6e3), (0x6ea, 0x6ea),
    (0x6ed, 0x6ed), (0x731, 0x731), (0x734, 0x734), (0x737, 0x739), (0x73b, 0x73c), (0x73e, 0x73e), (0x742, 0x742),
    (0x744, 0x744), (0x746, 0x746), (0x748, 0x748), (0x7f2, 0x7f2), (0x7fd, 0x7fd), (0x859, 0x85b), (0x899, 0x89b),
    (0x8cf, 0x8d3), (0x8e3, 0x8e3), (0x8e6, 0x8e6), (0x8e9, 0x8e9), (0x8ed, 0x8ef), (0x8f6, 0x8f6), (0x8f9, 0x8fa),
    (0x952, 0x952), (0xf18, 0xf19), (0xf35, 0xf37), (0xfc6, 0xfc6), (0x108d, 0x108d), (0x193b, 0x193b),
    (0x1a18, 0x1a18), (0x1a7f, 0x1a7f), (0x1ab5, 0x1aba), (0x1abd, 0x1ac0), (0x1ac3, 0x1ac4), (0x1aca, 0x1aca),
    (0x1b6c, 0x1b6c), (0x1cd5, 0x1cd9), (0x1cdc, 0x1cdf), (0x1ced, 0x1ced), (0x1dc2, 0x1dc2), (0x1dca, 0x1dca),
    (0x1dcf, 0x1dcf), (0x1df9, 0x1df9), (0x1dfd, 0x1dfd), (0x1dff, 0x1dff), (0xa92b, 0xa92d), (0xaab4, 0xaab4),
    (0xfe27, 0xfe2d), (0x101fd, 0x101fd), (0x102e0, 0x102e0), (0x10a0d, 0x10a0d), (0x10a3a, 0x10a3a),
    (0x10ae6, 0x10ae6), (0x10f46, 0x10f47), (0x10f4b, 0x10f4b), (0x10f4d, 0x10f50), (0x10f83, 0x10f83),
    (0x10f85, 0x10f85), (0x1e8d0, 0x1e8d6)]),
  (222, [(0x59a, 0x59a), (0x5ad, 0x5ad), (0x1939, 0x1939), (0x302d, 0x302d)]),
  (228, [(0x5ae, 0x5ae), (0x18a9, 0x18a9), (0x1df7, 0x1df8), (0x302b, 0x302b)]),
  (230, [(0x300, 0x314), (0x33d, 0x346), (0x34a, 0x34c), (0x350, 0x352), (0x357, 0x357), (0x35b, 0x35b),
    (0x363, 0x36f), (0x483, 0x487), (0x592, 0x595), (0x597, 0x599), (0x59c, 0x5a1), (0x5a8, 0x5a9), (0x5ab, 0x5ac),
    (0x5af, 0x5af), (0x5c4, 0x5c4), (0x610, 0x617), (0x653, 0x654), (0x657, 0x65b), (0x65d, 0x65e), (0x6d6, 0x6e2),
    (0x6e4, 0x6e4), (0x6e7, 0x6e8), (0x6eb, 0x6ec), (0x730, 0x730), (0x732, 0x733), (0x735, 0x736), (0x73a, 0x73a),
    (0x73d, 0x73d), (0x73f, 0x741), (0x743, 0x743), (0x745, 0x745), (0x747, 0x747), (0x749, 0x74a), (0x7eb, 0x7f1),
    (0x7f3, 0x7f3), (0x816, 0x819), (0x81b, 0x823), (0x825, 0x827), (0x829, 0x82d), (0x898, 0x898), (0x89c, 0x89f),
    (0x8ca, 0x8ce), (0x8d4, 0x8e1), (0x8e4, 0x8e5), (0x8e7, 0x8e8), (0x8ea, 0x8ec), (0x8f3, 0x8f5), (0x8f7, 0x8f8),
    (0x8fb, 0x8ff), (0x951, 0x951), (0x953, 0x954), (0x9fe, 0x9fe), (0xf82, 0xf83), (0xf86, 0xf87), (0x135d, 0x135f),
    (0x17dd, 0x17dd), (0x193a, 0x193a), (0x1a17, 0x1a17), (0x1a75, 0x1a7c), (0x1ab0, 0x1ab4), (0x1abb, 0x1abc),
    (0x1ac1, 0x1ac2), (0x1ac5, 0x1ac9), (0x1acb, 0x1ace), (0x1b6b, 0x1b6b), (0x1b6d, 0x1b73), (0x1cd0, 0x1cd2),
    (0x1cda, 0x1cdb), (0x1ce0, 0x1ce0), (0x1cf4, 0x1cf4), (0x1cf8, 0x1cf9), (0x1dc0, 0x1dc1), (0x1dc3, 0x1dc9),
    (0x1dcb, 0x1dcc), (0x1dd1, 0x1df5), (0x1dfb, 0x1dfb), (0x1dfe, 0x1dfe), (0x2cef, 0x2cf1), (0x2de0, 0x2dff),
    (0xa66f, 0xa67d), (0xa69e, 0xa69f), (0xa6f0, 0xa6f1), (0xa8e0, 0xa8f1), (0xaab0, 0xaab0), (0xaab2, 0xaab3),
    (0xaab7, 0xaab8), (0xaabe, 0xaabf), (0xaac1, 0xaac1), (0xfe20, 0xfe26), (0xfe2e, 0xfe2f), (0x10376, 0x1037a),
    (0x10a0f, 0x10a0f), (0x10a38, 0x10a38), (0x10ae5, 0x10ae5), (0x10d24, 0x10d27), (0x10eab, 0x10eac),
    (0x10f48, 0x10f4a), (0x10f4c, 0x10f4c), (0x10f82, 0x10f82), (0x10f84, 0x10f84), (0x11100, 0x11102),
    (0x11366, 0x11374), (0x1145e, 0x1145e), (0x16b30, 0x16b36), (0x1e000, 0x1e02a), (0x1e130, 0x1e136),
    (0x1e2ae, 0x1e2ae), (0x1e2ec, 0x1e2ef), (0x1e944, 0x1e949)]),
  (232, [(0x315, 0x315), (0x31a, 0x31a), (0x358, 0x358), (0x1df6, 0x1df6), (0x302c, 0x302c)]),
  (233, [(0x35c, 0x35c), (0x35f, 0x35f), (0x362, 0x362), (0x1dfc, 0x1dfc)]),
  (234, [(0x35d, 0x35e), (0x360, 0x361), (0x1dcd, 0x1dcd)])]

/-- class of a code point -/
def markClass (n : Nat) : Nat := ((markClasses.find? fun e => within e.2 n).map (·.1)).getD 0

/-- marks, with the letters that they unite with and the code points for both -/
def compositions : List (Nat × List (Nat × Nat)) := [
  (0x300, [(0x61, 0xe0), (0x65, 0xe8), (0x69, 0xec), (0x6e, 0x1f9), (0x6f, 0xf2), (0x75, 0xf9), (0x77, 0x1e81),
    (0x79, 0x1ef3), (0xe2, 0x1ea7), (0xea, 0x1ec1), (0xf4, 0x1ed3), (0xfc, 0x1dc), (0x103, 0x1eb1), (0x113, 0x1e15),
    (0x14d, 0x1e51), (0x1a1, 0x1edd), (0x1b0, 0x1eeb), (0x3b1, 0x1f70), (0x3b5, 0x1f72), (0x3b7, 0x1f74),
    (0x3b9, 0x1f76), (0x3bf, 0x1f78), (0x3c5, 0x1f7a), (0x3c9, 0x1f7c), (0x3ca, 0x1fd2), (0x3cb, 0x1fe2),
    (0x435, 0x450), (0x438, 0x45d), (0x1f00, 0x1f02), (0x1f01, 0x1f03), (0x1f10, 0x1f12), (0x1f11, 0x1f13),
    (0x1f20, 0x1f22), (0x1f21, 0x1f23), (0x1f30, 0x1f32), (0x1f31, 0x1f33), (0x1f40, 0x1f42), (0x1f41, 0x1f43),
    (0x1f50, 0x1f52), (0x1f51, 0x1f53), (0x1f60, 0x1f62), (0x1f61, 0x1f63)]),
  (0x301, [(0x61, 0xe1), (0x63, 0x107), (0x65, 0xe9), (0x67, 0x1f5), (0x69, 0xed), (0x6b, 0x1e31), (0x6c, 0x13a),
    (0x6d, 0x1e3f), (0x6e, 0x144), (0x6f, 0xf3), (0x70, 0x1e55), (0x72, 0x155), (0x73, 0x15b), (0x75, 0xfa),
    (0x77, 0x1e83), (0x79, 0xfd), (0x7a, 0x17a), (0xe2, 0x1ea5), (0xe5, 0x1fb), (0xe6, 0x1fd), (0xe7, 0x1e09),
    (0xea, 0x1ebf), (0xef, 0x1e2f), (0xf4, 0x1ed1), (0xf5, 0x1e4d), (0xf8, 0x1ff), (0xfc, 0x1d8), (0x103, 0x1eaf),
    (0x113, 0x1e17), (0x14d, 0x1e53), (0x169, 0x1e79), (0x1a1, 0x1edb), (0x1b0, 0x1ee9), (0x3b1, 0x3ac),
    (0x3b5, 0x3ad), (0x3b7, 0x3ae), (0x3b9, 0x3af), (0x3bf, 0x3cc), (0x3c5, 0x3cd), (0x3c9, 0x3ce), (0x3ca, 0x390),
    (0x3cb, 0x3b0), (0x433, 0x453), (0x43a, 0x45c), (0x1f00, 0x1f04), (0x1f01, 0x1f05), (0x1f10, 0x1f14),
    (0x1f11, 0x1f15), (0x1f20, 0x1f24), (0x1f21, 0x1f25), (0x1f30, 0x1f34), (0x1f31, 0x1f35), (0x1f40, 0x1f44),
    (0x1f41, 0x1f45), (0x1f50, 0x1f54), (0x1f51, 0x1f55), (0x1f60, 0x1f64), (0x1f61, 0x1f65)]),
  (0x302, [(0x61, 0xe2), (0x63, 0x109), (0x65, 0xea), (0x67, 0x11d), (0x68, 0x125), (0x69, 0xee), (0x6a, 0x135),
    (0x6f, 0xf4), (0x73, 0x15d), (0x75, 0xfb), (0x77, 0x175), (0x79, 0x177), (0x7a, 0x1e91), (0x1ea1, 0x1ead),
    (0x1eb9, 0x1ec7), (0x1ecd, 0x1ed9)]),
  (0x303, [(0x61, 0xe3), (0x65, 0x1ebd), (0x69, 0x129), (0x6e, 0xf1), (0x6f, 0xf5), (0x75, 0x169), (0x76, 0x1e7d),
    (0x79, 0x1ef9), (0xe2, 0x1eab), (0xea, 0x1ec5), (0xf4, 0x1ed7), (0x103, 0x1eb5), (0x1a1, 0x1ee1),
    (0x1b0, 0x1eef)]),
  (0x304, [(0x61, 0x101), (0x65, 0x113), (0x67, 0x1e21), (0x69, 0x12b), (0x6f, 0x14d), (0x75, 0x16b), (0x79, 0x233),
    (0xe4, 0x1df), (0xe6, 0x1e3), (0xf5, 0x22d), (0xf6, 0x22b), (0xfc, 0x1d6), (0x1eb, 0x1ed), (0x227, 0x1e1),
    (0x22f, 0x231), (0x3b1, 0x1fb1), (0x3b9, 0x1fd1), (0x3c5, 0x1fe1), (0x438, 0x4e3), (0x443, 0x4ef),
    (0x1e37, 0x1e39), (0x1e5b, 0x1e5d)]),
  (0x306, [(0x61, 0x103), (0x65, 0x115), (0x67, 0x11f), (0x69, 0x12d), (0x6f, 0x14f), (0x75, 0x16d), (0x229, 0x1e1d),
    (0x3b1, 0x1fb0), (0x3b9, 0x1fd0), (0x3c5, 0x1fe0), (0x430, 0x4d1), (0x435, 0x4d7), (0x436, 0x4c2), (0x438, 0x439),
    (0x443, 0x45e), (0x1ea1, 0x1eb7)]),
  (0x307, [(0x61, 0x227), (0x62, 0x1e03), (0x63, 0x10b), (0x64, 0x1e0b), (0x65, 0x117), (0x66, 0x1e1f), (0x67, 0x121),
    (0x68, 0x1e23), (0x6d, 0x1e41), (0x6e, 0x1e45), (0x6f, 0x22f), (0x70, 0x1e57), (0x72, 0x1e59), (0x73, 0x1e61),
    (0x74, 0x1e6b), (0x77, 0x1e87), (0x78, 0x1e8b), (0x79, 0x1e8f), (0x7a, 0x17c), (0x15b, 0x1e65), (0x161, 0x1e67),
    (0x1e63, 0x1e69)]),
  (0x308, [(0x61, 0xe4), (0x65, 0xeb), (0x68, 0x1e27), (0x69, 0xef), (0x6f, 0xf6), (0x74, 0x1e97), (0x75, 0xfc),
    (0x77, 0x1e85), (0x78, 0x1e8d), (0x79, 0xff), (0xf5, 0x1e4f), (0x16b, 0x1e7b), (0x3b9, 0x3ca), (0x3c5, 0x3cb),
    (0x430, 0x4d3), (0x435, 0x451), (0x436, 0x4dd), (0x437, 0x4df), (0x438, 0x4e5), (0x43e, 0x4e7), (0x443, 0x4f1),
    (0x447, 0x4f5), (0x44b, 0x4f9), (0x44d, 0x4ed), (0x456, 0x457), (0x4d9, 0x4db), (0x4e9, 0x4eb)]),
  (0x309, [(0x61, 0x1ea3), (0x65, 0x1ebb), (0x69, 0x1ec9), (0x6f, 0x1ecf), (0x75, 0x1ee7), (0x79, 0x1ef7),
    (0xe2, 0x1ea9), (0xea, 0x1ec3), (0xf4, 0x1ed5), (0x103, 0x1eb3), (0x1a1, 0x1edf), (0x1b0, 0x1eed)]),
  (0x30a, [(0x61, 0xe5), (0x75, 0x16f), (0x77, 0x1e98), (0x79, 0x1e99)]),
  (0x30b, [(0x6f, 0x151), (0x75, 0x171), (0x443, 0x4f3)]),
  (0x30c, [(0x61, 0x1ce), (0x63, 0x10d), (0x64, 0x10f), (0x65, 0x11b), (0x67, 0x1e7), (0x68, 0x21f), (0x69, 0x1d0),
    (0x6a, 0x1f0), (0x6b, 0x1e9), (0x6c, 0x13e), (0x6e, 0x148), (0x6f, 0x1d2), (0x72, 0x159), (0x73, 0x161),
    (0x74, 0x165), (0x75, 0x1d4), (0x7a, 0x17e), (0xfc, 0x1da), (0x292, 0x1ef)]),
  (0x30f, [(0x61, 0x201), (0x65, 0x205), (0x69, 0x209), (0x6f, 0x20d), (0x72, 0x211), (0x75, 0x215), (0x475, 0x477)]),
  (0x311, [(0x61, 0x203), (0x65, 0x207), (0x69, 0x20b), (0x6f, 0x20f), (0x72, 0x213), (0x75, 0x217)]),
  (0x313, [(0x3b1, 0x1f00), (0x3b5, 0x1f10), (0x3b7, 0x1f20), (0x3b9, 0x1f30), (0x3bf, 0x1f40), (0x3c1, 0x1fe4),
    (0x3c5, 0x1f50), (0x3c9, 0x1f60)]),
  (0x314, [(0x3b1, 0x1f01), (0x3b5, 0x1f11), (0x3b7, 0x1f21), (0x3b9, 0x1f31), (0x3bf, 0x1f41), (0x3c1, 0x1fe5),
    (0x3c5, 0x1f51), (0x3c9, 0x1f61)]),
  (0x31b, [(0x6f, 0x1a1), (0x75, 0x1b0)]),
  (0x323, [(0x61, 0x1ea1), (0x62, 0x1e05), (0x64, 0x1e0d), (0x65, 0x1eb9), (0x68, 0x1e25), (0x69, 0x1ecb),
    (0x6b, 0x1e33), (0x6c, 0x1e37), (0x6d, 0x1e43), (0x6e, 0x1e47), (0x6f, 0x1ecd), (0x72, 0x1e5b), (0x73, 0x1e63),
    (0x74, 0x1e6d), (0x75, 0x1ee5), (0x76, 0x1e7f), (0x77, 0x1e89), (0x79, 0x1ef5), (0x7a, 0x1e93), (0x1a1, 0x1ee3),
    (0x1b0, 0x1ef1)]),
  (0x324, [(0x75, 0x1e73)]),
  (0x325, [(0x61, 0x1e01)]),
  (0x326, [(0x73, 0x219), (0x74, 0x21b)]),
  (0x327, [(0x63, 0xe7), (0x64, 0x1e11), (0x65, 0x229), (0x67, 0x123), (0x68, 0x1e29), (0x6b, 0x137), (0x6c, 0x13c),
    (0x6e, 0x146), (0x72, 0x157), (0x73, 0x15f), (0x74, 0x163)]),
  (0x328, [(0x61, 0x105), (0x65, 0x119), (0x69, 0x12f), (0x6f, 0x1eb), (0x75, 0x173)]),
  (0x32d, [(0x64, 0x1e13), (0x65, 0x1e19), (0x6c, 0x1e3d), (0x6e, 0x1e4b), (0x74, 0x1e71), (0x75, 0x1e77)]),
  (0x32e, [(0x68, 0x1e2b)]),
  (0x330, [(0x65, 0x1e1b), (0x69, 0x1e2d), (0x75, 0x1e75)]),
  (0x331, [(0x62, 0x1e07), (0x64, 0x1e0f), (0x68, 0x1e96), (0x6b, 0x1e35), (0x6c, 0x1e3b), (0x6e, 0x1e49),
    (0x72, 0x1e5f), (0x74, 0x1e6f), (0x7a, 0x1e95)]),
  (0x342, [(0x3b1, 0x1fb6), (0x3b7, 0x1fc6), (0x3b9, 0x1fd6), (0x3c5, 0x1fe6), (0x3c9, 0x1ff6), (0x3ca, 0x1fd7),
    (0x3cb, 0x1fe7), (0x1f00, 0x1f06), (0x1f01, 0x1f07), (0x1f20, 0x1f26), (0x1f21, 0x1f27), (0x1f30, 0x1f36),
    (0x1f31, 0x1f37), (0x1f50, 0x1f56), (0x1f51, 0x1f57), (0x1f60, 0x1f66), (0x1f61, 0x1f67)]),
  (0x653, [(0x627, 0x622)]),
  (0x654, [(0x627, 0x623), (0x648, 0x624), (0x64a, 0x626), (0x6c1, 0x6c2), (0x6d2, 0x6d3), (0x6d5, 0x6c0)]),
  (0x655, [(0x627, 0x625)]),
  (0x93c, [(0x928, 0x929), (0x930, 0x931), (0x933, 0x934)]),
  (0x9be, [(0x9c7, 0x9cb)]),
  (0x9d7, [(0x9c7, 0x9cc)]),
  (0xb3e, [(0xb47, 0xb4b)]),
  (0xb56, [(0xb47, 0xb48)]),
  (0xb57, [(0xb47, 0xb4c)]),
  (0xbbe, [(0xbc6, 0xbca), (0xbc7, 0xbcb)]),
  (0xbd7, [(0xb92, 0xb94), (0xbc6, 0xbcc)]),
  (0xc56, [(0xc46, 0xc48)]),
  (0xcc2, [(0xcc6, 0xcca)]),
  (0xcd5, [(0xcbf, 0xcc0), (0xcc6, 0xcc7), (0xcca, 0xccb)]),
  (0xcd6, [(0xcc6, 0xcc8)]),
  (0xd3e, [(0xd46, 0xd4a), (0xd47, 0xd4b)]),
  (0xd57, [(0xd46, 0xd4c)]),
  (0xdca, [(0xdd9, 0xdda), (0xddc, 0xddd)]),
  (0xdcf, [(0xdd9, 0xddc)]),
  (0xddf, [(0xdd9, 0xdde)]),
  (0x102e, [(0x1025, 0x1026)]),
  (0x1b35, [(0x1b05, 0x1b06), (0x1b07, 0x1b08), (0x1b09, 0x1b0a), (0x1b0b, 0x1b0c), (0x1b0d, 0x1b0e),
    (0x1b11, 0x1b12), (0x1b3a, 0x1b3b), (0x1b3c, 0x1b3d), (0x1b3e, 0x1b40), (0x1b3f, 0x1b41), (0x1b42, 0x1b43)]),
  (0x3099, [(0x3046, 0x3094), (0x304b, 0x304c), (0x304d, 0x304e), (0x304f, 0x3050), (0x3051, 0x3052),
    (0x3053, 0x3054), (0x3055, 0x3056), (0x3057, 0x3058), (0x3059, 0x305a), (0x305b, 0x305c), (0x305d, 0x305e),
    (0x305f, 0x3060), (0x3061, 0x3062), (0x3064, 0x3065), (0x3066, 0x3067), (0x3068, 0x3069), (0x306f, 0x3070),
    (0x3072, 0x3073), (0x3075, 0x3076), (0x3078, 0x3079), (0x307b, 0x307c), (0x309d, 0x309e), (0x30a6, 0x30f4),
    (0x30ab, 0x30ac), (0x30ad, 0x30ae), (0x30af, 0x30b0), (0x30b1, 0x30b2), (0x30b3, 0x30b4), (0x30b5, 0x30b6),
    (0x30b7, 0x30b8), (0x30b9, 0x30ba), (0x30bb, 0x30bc), (0x30bd, 0x30be), (0x30bf, 0x30c0), (0x30c1, 0x30c2),
    (0x30c4, 0x30c5), (0x30c6, 0x30c7), (0x30c8, 0x30c9), (0x30cf, 0x30d0), (0x30d2, 0x30d3), (0x30d5, 0x30d6),
    (0x30d8, 0x30d9), (0x30db, 0x30dc), (0x30ef, 0x30f7), (0x30f0, 0x30f8), (0x30f1, 0x30f9), (0x30f2, 0x30fa),
    (0x30fd, 0x30fe)]),
  (0x309a, [(0x306f, 0x3071), (0x3072, 0x3074), (0x3075, 0x3077), (0x3078, 0x307a), (0x307b, 0x307d),
    (0x30cf, 0x30d1), (0x30d2, 0x30d4), (0x30d5, 0x30d7), (0x30d8, 0x30da), (0x30db, 0x30dd)]),
  (0x110ba, [(0x11099, 0x1109a), (0x1109b, 0x1109c), (0x110a5, 0x110ab)]),
  (0x11127, [(0x11131, 0x1112e), (0x11132, 0x1112f)]),
  (0x1133e, [(0x11347, 0x1134b)]),
  (0x11357, [(0x11347, 0x1134c)]),
  (0x114b0, [(0x114b9, 0x114bc)]),
  (0x114ba, [(0x114b9, 0x114bb)]),
  (0x114bd, [(0x114b9, 0x114be)]),
  (0x115af, [(0x115b8, 0x115ba), (0x115b9, 0x115bb)]),
  (0x11930, [(0x11935, 0x11938)])]

/-- code point for a letter and the mark behind it -/
def united? (letter mark : Nat) : Option Nat := (compositions.lookup mark).bind fun letters => letters.lookup letter

/-- letter and mark that a code point unites -/
def parts? (n : Nat) : Option (Nat × Nat) :=
  compositions.findSome? fun e => (e.2.find? (·.2 == n)).map fun letter => (letter.1, e.1)

/-- most marks that one code point unites with a letter -/
def mostMarks : Nat := 3

/-- a code point taken apart, with at most so many marks -/
def takenApart : (marks : Nat) → Nat → List Nat
  | 0, n => [n]
  | marks + 1, n =>
    match parts? n with
    | some (letter, mark) => takenApart marks letter ++ [mark]
    | none => [n]

/-- code points in order with one more in front, which goes behind marks of lower classes than its own -/
def place (n : Nat) : List Nat → List Nat
  | [] => [n]
  | m :: ms => if markClass m ≠ 0 ∧ markClass m < markClass n then m :: place n ms else n :: m :: ms

/-- code points with their marks in order -/
def ordered (ns : List Nat) : List Nat := ns.foldr place []

/-- text of a letter, the marks behind it that it did not unite with (last one first), and what follows them -/
def unitedFrom (letter : Nat) (marks : List Nat) : List Nat → List Nat
  | [] => letter :: marks.reverse
  | n :: ns =>
    let reaches := match marks with
      | [] => true
      | last :: _ => decide (markClass last < markClass n)
    match if reaches then united? letter n else none with
    | some both => unitedFrom both marks ns
    | none =>
      if markClass n = 0 then letter :: marks.reverse ++ unitedFrom n [] ns else unitedFrom letter (n :: marks) ns

/-- text with everything united that unites -/
def united : List Nat → List Nat
  | [] => []
  | n :: ns => unitedFrom n [] ns

def isComposed (ns : List Nat) : Bool := united (ordered (ns.flatMap (takenApart mostMarks))) == ns

/-!
## Names in ASCII alone

The ASCII letters of a name come first, and then, as numbers, where the others are to be inserted.
Numbers are written with the lowest digit first, in letters and digits; how many values end a number follows from its place
and from how large the numbers before it were.
-/

/-! ### Insertions -/

/-- where letters are inserted, the smallest first -/
structure Sweep where
  /-- smallest letter that is not inserted yet -/
  next : Nat
  /-- insertions that were passed over since the last one -/
  passed : Nat
  /-- letters that are in place -/
  placed : Nat
  /-- numbers of insertions that were passed over before each one, last one first -/
  numbers : List Nat

/-- one letter of the name, while `letter` is inserted -/
def Sweep.pass (letter : Nat) (s : Sweep) (n : Nat) : Sweep :=
  if n < letter then { s with passed := s.passed + 1 }
  else if n = letter then { s with passed := 0, placed := s.placed + 1, numbers := s.passed :: s.numbers }
  else s

/-- inserts a letter wherever it stands in a name -/
def Sweep.insert (name : List Nat) (s : Sweep) (letter : Nat) : Sweep :=
  let t := name.foldl (Sweep.pass letter) { s with passed := s.passed + (letter - s.next) * (s.placed + 1) }
  { t with next := letter + 1, passed := t.passed + 1 }

/-- ASCII letters of a name -/
def basic (name : List Nat) : List Nat := name.filter (· < 0x80)

/-- numbers of the insertions into the ASCII letters of a name -/
def insertions (name : List Nat) : List Nat :=
  let others := ((name.filter (0x80 ≤ ·)).mergeSort fun a b => decide (a ≤ b)).eraseDups
  (others.foldl (Sweep.insert name) ⟨0x80, 0, (basic name).length, []⟩).numbers.reverse

/-! ### Numbers -/

/-- digit of a value below 36 -/
def digit (n : Nat) : Char := if n < 26 then Char.ofNat ('a'.toNat + n) else Char.ofNat ('0'.toNat + (n - 26))

def value? (c : Char) : Option Nat :=
  if 'a' ≤ c ∧ c ≤ 'z' then some (c.toNat - 'a'.toNat)
  else if '0' ≤ c ∧ c ≤ '9' then some (c.toNat - '0'.toNat + 26)
  else none

/-- how many values end a number at a place, which counts in steps of 36 -/
def threshold (bias place : Nat) : Nat := min 26 (max 1 (place - bias))

theorem threshold_pos (bias place : Nat) : 0 < threshold bias place := by
  unfold threshold
  omega

def number (bias place n : Nat) : List Char :=
  let t := threshold bias place
  if n < t then [digit n] else digit (t + (n - t) % (36 - t)) :: number bias (place + 36) ((n - t) / (36 - t))
termination_by n
decreasing_by
  have := threshold_pos bias place
  exact Nat.lt_of_le_of_lt (Nat.div_le_self _ _) (by omega)

/-- size of a number in steps of 36 places, and what is left of it -/
def scaled (n places : Nat) : Nat × Nat := if 455 < n then scaled (n / 35) (places + 36) else (places, n)
termination_by n

/-- bias after a number, when so many letters are in place -/
def biasAfter (isFirst : Bool) (n placed : Nat) : Nat :=
  let damped := n / if isFirst then 700 else 2
  let (places, rest) := scaled (damped + damped / placed) 0
  places + 36 * rest / (rest + 38)

/-- digits of further numbers, when so many letters are in place -/
def numbers (bias placed : Nat) (isFirst : Bool) : List Nat → List Char
  | [] => []
  | n :: ns => number bias 36 n ++ numbers (biasAfter isFirst n (placed + 1)) (placed + 1) false ns

/-- number at the front, and what follows it -/
def number? (bias : Nat) : (place weight sum : Nat) → List Char → Option (Nat × List Char)
  | _, _, _, [] => none
  | place, weight, sum, c :: r =>
    match value? c with
    | none => none
    | some v =>
      let t := threshold bias place
      if v < t then some (sum + v * weight, r)
      else number? bias (place + 36) (weight * (36 - t)) (sum + v * weight) r

/-! ### Names -/

def punycode (name : List Nat) : List Char :=
  let front := (basic name).map Char.ofNat
  (if front.isEmpty then [] else front ++ ['-']) ++ numbers 72 front.length true (insertions name)

/-- name with the letters inserted that numbers tell: not below `letter`, and for it not before `place` -/
def inserted : (fuel bias : Nat) → (isFirst : Bool) → (letter place : Nat) → (name : List Nat) → List Char →
    Option (List Nat)
  | _, _, _, _, _, name, [] => some name
  | 0, _, _, _, _, _, _ => none
  | fuel + 1, bias, isFirst, letter, place, name, cs =>
    match number? bias 36 1 0 cs with
    | none => none
    | some (n, rest) =>
      let size := name.length + 1
      let letter := letter + (place + n) / size
      let i := (place + n) % size
      if 0x10ffff < letter then none
      else inserted fuel (biasAfter isFirst n size) false letter (i + 1) (name.take i ++ letter :: name.drop i) rest

/-- name of its ASCII form; a hyphen ends the ASCII letters only where there are some -/
def unpunycode? (cs : List Char) : Option (List Nat) :=
  let numbers := (cs.reverse.takeWhile (· != '-')).reverse
  let front := ((cs.reverse.dropWhile (· != '-')).drop 1).reverse
  if front.isEmpty && numbers.length != cs.length then none
  else inserted numbers.length 72 true 0x80 0 (front.map Char.toNat) numbers

/-!
## Labels

Names of hosts in letters of all scripts. A name is made of labels with dots between them. A label is composed, has no
hyphen at its ends or as its third and fourth letter, begins with no mark, holds only letters and signs in their places, and
is written in one direction.
-/

/-! ### Signs between letters -/

/-- letters on both sides of a sign, the ones before it with the nearest first -/
structure Neighbours where
  before : List Nat
  after : List Nat

/-- whether the nearest letter passes a test -/
def nearest (test : Nat → Bool) (side : List Nat) : Bool := (side.head?.map test).getD false

/-- whether a code point is a mark that takes the vowel from its letter -/
def silencesVowel (n : Nat) : Bool := markClass n == 9

/-- whether letters join across a joiner: the first ones on both sides that letters do not join across -/
def Neighbours.join (ns : Neighbours) : Bool :=
  nearest (within forwardRanges) (ns.before.dropWhile isTransparent)
    && nearest (within backwardRanges) (ns.after.dropWhile isTransparent)

/-- whether a code point may stand between its neighbours -/
def Neighbours.admit (ns : Neighbours) (n : Nat) : Bool :=
  let all := ns.before ++ ns.after
  if n == 0x200c then nearest silencesVowel ns.before || ns.join
  else if n == 0x200d then nearest silencesVowel ns.before
  else if n == 0xb7 then nearest (· == 0x6c) ns.before && nearest (· == 0x6c) ns.after
  else if n == 0x375 then nearest (within greek) ns.after
  else if n == 0x5f3 || n == 0x5f4 then nearest (within hebrew) ns.before
  else if n == 0x30fb then all.any fun m => within kana m || within han m
  else if 0x660 ≤ n && n ≤ 0x669 then !all.any fun m => 0x6f0 ≤ m && m ≤ 0x6f9
  else if 0x6f0 ≤ n && n ≤ 0x6f9 then !all.any fun m => 0x660 ≤ m && m ≤ 0x669
  else isLetter n

/-- whether all code points may stand where they do, after the ones before them -/
def admitsAll : (before : List Nat) → List Nat → Bool
  | _, [] => true
  | before, n :: ns => Neighbours.admit ⟨before, ns⟩ n && admitsAll (n :: before) ns

/-! ### Direction -/

/-- whether a direction is one of text from right to left -/
def Direction.isLeftward (d : Direction) : Bool := d == .leftward || d == .leftwardNumber

/-- whether letters can be read in one direction. Text from right to left begins with such a letter, ends with one or with a
digit and marks, holds no other letters, and has digits of one sort -/
def isOneWay (label : List Nat) : Bool :=
  let ds := label.map Direction.of
  !ds.any Direction.isLeftward ||
    (ds.head? == some .leftward && !ds.contains .rightward && !(ds.contains .number && ds.contains .leftwardNumber)
      && ((ds.reverse.dropWhile (· == .mark)).head?.map (· != .neutral)).getD false)

/-! ### Labels -/

def hyphen : Nat := 0x2d

/-- whether hyphens stand where they may -/
def hyphensFit (label : List Nat) : Bool :=
  label.head? != some hyphen && label.getLast? != some hyphen && (label.drop 2).take 2 != [hyphen, hyphen]

def isLabel (label : List Nat) : Bool :=
  !label.isEmpty && isComposed label && hyphensFit label && !nearest isMark label && admitsAll [] label && isOneWay label

/-- most characters of a label in ASCII -/
def longestLabel : Nat := 63

/-- what stands in front of the ASCII form of a label -/
def asciiMark : List Char := "xn--".toList

/-- a label in ASCII, as it is unless it is marked as an ASCII form -/
def asciiLabel? (cs : List Char) : Option (List Char) :=
  let label? :=
    if !asciiMark.isPrefixOf cs then some (cs.map Char.toNat)
    else if cs.getLast? = some '-' then none
    else unpunycode? (cs.drop asciiMark.length)
  if (label?.map isLabel).getD false then some cs else none

/-- ASCII form of a label -/
def label? (label : List Nat) : Option (List Char) :=
  let written? :=
    if longestLabel < label.length then none
    else if label.all (· < 0x80) then asciiLabel? (label.map Char.ofNat)
    else if isLabel label then some (asciiMark ++ punycode label)
    else none
  written?.filter fun written => written.length ≤ longestLabel

/-! ### Names -/

/-- whether a code point is a dot -/
def isDot (n : Nat) : Bool := n == 0x2e || n == 0x3002 || n == 0xff0e || n == 0xff61

/-- labels between the dots; a name without dots is one label -/
def labels : List Nat → List (List Nat)
  | [] => [[]]
  | n :: ns =>
    if isDot n then [] :: labels ns
    else match labels ns with
      | [] => [[n]]
      | l :: ls => (n :: l) :: ls

/-- most characters of a name in ASCII, without a dot at its end -/
def longestName : Nat := 253

/-- a name in ASCII; a dot may stand at its end -/
def name? (name : List Nat) : Option (List Char) :=
  let ls := labels name
  let isClosed := 1 < ls.length && ls.getLast? == some []
  match (if isClosed then ls.dropLast else ls).mapM label? with
  | none => none
  | some parts =>
    let written := List.intercalate ['.'] parts
    if longestName < written.length then none else some (if isClosed then written ++ ['.'] else written)

/-!
## Hosts as they are shown

Hosts as they are shown to a reader, in letters of all scripts. Only a host with the mark of an ASCII form anywhere in it has
to be looked at. Its marked labels are shown in letters where they can be and as they stand where not; the others have to
be in order, and the first fault in them is told.
-/

/-- why a host cannot be shown -/
inductive ShowFault where
  | tooLong
  | emptyLabel
  | uncomposed
  /-- hyphens as third and fourth letter -/
  | innerHyphens
  /-- a hyphen at an end -/
  | outerHyphen
  /-- a code point that no label holds, and how many stand before it -/
  | letter (n before : Nat) (label : List Nat)
  deriving DecidableEq, Repr

/-- a code point by its number -/
def pointName (n : Nat) : String := "U+" ++ String.ofList ((Text.hexDigits 4 n).map Char.toUpper)

def ShowFault.message : ShowFault → String
  | .tooLong => "Domain too long"
  | .emptyLabel => "Empty Label"
  | .uncomposed => "Label must be in Normalization Form C"
  | .innerHyphens => "Label has disallowed hyphens in 3rd and 4th position"
  | .outerHyphen => "Label must not start or end with a hyphen"
  | .letter n before label =>
    "Codepoint " ++ pointName n ++ " at position " ++ toString (before + 1) ++ " of " ++ Text.quoted (Text.text label)
      ++ " not allowed"

/-- most code points of a host that is shown, with a dot at its end -/
def longestShown : Nat := 254

/-- a label with small letters for its capitals if it is in ASCII -/
def smallLabel (label : List Nat) : List Nat :=
  if label.all (· < 0x80) then label.map fun n => (Char.ofNat n).toLower.toNat else label

/-- whether a label has the mark of an ASCII form in front -/
def isMarked (label : List Nat) : Bool := (asciiMark.map Char.toNat).isPrefixOf (smallLabel label)

/-- what is wrong with a label in small letters that has no mark -/
def plainFault? (label : List Nat) : Option ShowFault :=
  if label.isEmpty then some .emptyLabel
  else if !isComposed label then some .uncomposed
  else if (label.drop 2).take 2 == [hyphen, hyphen] then some .innerHyphens
  else if label.head? == some hyphen || label.getLast? == some hyphen then some .outerHyphen
  else (label.find? fun n => !isLetter n).map fun n => .letter n (label.takeWhile isLetter).length label

def labelFault? (label : List Nat) : Option ShowFault := if isMarked label then none else plainFault? (smallLabel label)

/-- whether the mark of an ASCII form stands anywhere in a host -/
def holdsMark : List Char → Bool
  | [] => false
  | c :: cs => asciiMark.isPrefixOf (c :: cs) || holdsMark cs

/-- why a host cannot be shown, if it cannot -/
def showFault? (host : List Char) : Option ShowFault :=
  let ns := Text.codePoints (String.ofList host)
  let ls := labels ns
  if !holdsMark host then none
  else if longestShown < ns.length then some .tooLong
  else (if ls.getLast? == some [] then ls.dropLast else ls).findSome? labelFault?

end EditPlan.Url.Name
