/-!
# Letters in names of hosts

What upper-case letters and letters in other guises become in names of hosts, as texts of tables.
-/

namespace ClusterBootstrap.Net.Idna

/-- Letters below U+1000. -/
def earlyLetters : String :=
  "a0: 20 a8: 20+308 . 61 af: 20+304 . . 32 33 20+301 3bc . . 20+327 31 6f . 31+2044+34 31+2044+32
   33+2044+34 . e0..f6 . f8..fe 100: 101 . 103 . 105 . 107 . 109 . 10b . 10d . 10f . 111 . 113 . 115
   . 117 . 119 . 11b . 11d . 11f . 121 . 123 . 125 . 127 . 129 . 12b . 12d . 12f . 69+307 . 69+6a
   69+6a 135 . 137 . . 13a . 13c . 13e . 6c+b7 6c+b7 142 . 144 . 146 . 148 . 2bc+6e 14b . 14d . 14f
   . 151 . 153 . 155 . 157 . 159 . 15b . 15d . 15f . 161 . 163 . 165 . 167 . 169 . 16b . 16d . 16f .
   171 . 173 . 175 . 177 . ff 17a . 17c . 17e . 73 . 253 183 . 185 . 254 188 . 256 257 18c . . 1dd
   259 25b 192 . 260 263 . 269 268 199 19c: 26f 272 . 275 1a1 . 1a3 . 1a5 . 280 1a8 . 283 . . 1ad .
   288 1b0 . 28a 28b 1b4 . 1b6 . 292 1b9 1bc: 1bd 1c4: 64+17e 64+17e 64+17e 6c+6a 6c+6a 6c+6a 6e+6a
   6e+6a 6e+6a 1ce . 1d0 . 1d2 . 1d4 . 1d6 . 1d8 . 1da . 1dc . . 1df . 1e1 . 1e3 . 1e5 . 1e7 . 1e9 .
   1eb . 1ed . 1ef . . 64+7a 64+7a 64+7a 1f5 . 195 1bf 1f9 . 1fb . 1fd . 1ff . 201 . 203 . 205 . 207
   . 209 . 20b . 20d . 20f . 211 . 213 . 215 . 217 . 219 . 21b . 21d . 21f . 19e . 223 . 225 . 227 .
   229 . 22b . 22d . 22f . 231 . 233 23a: 2c65 23c . 19a 2c66 . . 242 . 180 289 28c 247 . 249 . 24b
   . 24d . 24f 2b0: 68 266 6a 72 279 27b 281 77 79 2d8: 20+306 20+307 20+30a 20+328 20+303 20+30b .
   . 263 6c 73 78 295 340: 300 301 . 313 308+301 3b9 370: 371 . 373 . 2b9 . 377 37a: 20+3b9 37e: 3b
   3f3 384: 20+301 20+308+301 3ac b7 3ad..3af . 3cc . 3cd 3ce . 3b1..3c1 . 3c3..3cb 3cf: 3d7 3b2 3b8
   3c5 3cd 3cb 3c6 3c0 . 3d9 . 3db . 3dd . 3df . 3e1 . 3e3 . 3e5 . 3e7 . 3e9 . 3eb . 3ed . 3ef . 3ba
   3c1 3c3 . 3b8 3b5 . 3f8 . 3c3 3fb . . 37b..37d 450..45f 430..44f 460: 461 . 463 . 465 . 467 . 469
   . 46b . 46d . 46f . 471 . 473 . 475 . 477 . 479 . 47b . 47d . 47f . 481 48a: 48b . 48d . 48f .
   491 . 493 . 495 . 497 . 499 . 49b . 49d . 49f . 4a1 . 4a3 . 4a5 . 4a7 . 4a9 . 4ab . 4ad . 4af .
   4b1 . 4b3 . 4b5 . 4b7 . 4b9 . 4bb . 4bd . 4bf . 4cf 4c2 . 4c4 . 4c6 . 4c8 . 4ca . 4cc . 4ce . .
   4d1 . 4d3 . 4d5 . 4d7 . 4d9 . 4db . 4dd . 4df . 4e1 . 4e3 . 4e5 . 4e7 . 4e9 . 4eb . 4ed . 4ef .
   4f1 . 4f3 . 4f5 . 4f7 . 4f9 . 4fb . 4fd . 4ff . 501 . 503 . 505 . 507 . 509 . 50b . 50d . 50f .
   511 . 513 . 515 . 517 . 519 . 51b . 51d . 51f . 521 . 523 . 525 . 527 . 529 . 52b . 52d . 52f . .
   561..586 587: 565+582 675: 627+674 648+674 6c7+674 64a+674 958: 915+93c 916+93c 917+93c 91c+93c
   921+93c 922+93c 92b+93c 92f+93c 9dc: 9a1+9bc 9a2+9bc . 9af+9bc a33: a32+a3c . . a38+a3c a59:
   a16+a3c a17+a3c a1c+a3c . . a2b+a3c b5c: b21+b3c b22+b3c e33: e4d+e32 eb3: ecd+eb2 edc: eab+e99
   eab+ea1 f0c: f0b f43: f42+fb7 f4d: f4c+fb7 f52: f51+fb7 f57: f56+fb7 f5c: f5b+fb7 f69: f40+fb5
   f73: f71+f72 . f71+f74 fb2+f80 fb2+f71+f80 fb3+f80 fb3+f71+f80 f81: f71+f80 f93: f92+fb7 f9d:
   f9c+fb7 fa2: fa1+fb7 fa7: fa6+fb7 fac: fab+fb7 fb9: f90+fb5"

/-- Letters from U+1000 to U+1FFF. -/
def laterLetters : String :=
  "10a0: 2d00..2d25 . 2d27 10cd: 2d2d 10fc: 10dc 13f8: 13f0..13f5 1c80: 432 434 43e 441 442 442 44a
   463 a64b 1c8a 1c90: 10d0..10fa . . 10fd..10ff 1d2c: 61 e6 62 . 64 65 1dd 67..6e . 6f 223 70 72 74
   75 77 61 250 251 1d02 62 64 65 259 25b 25c 67 . 6b 6d 14b 6f 254 1d16 1d17 70 74 75 1d1d 26f 76
   1d25 3b2..3b4 3c6 3c7 69 72 75 76 3b2 3b3 3c1 3c6 3c7 1d78: 43d 1d9b: 252 63 255 f0 25c 66 25f
   261 265 268..26a 1d7b 29d 26d 1d85 29f 271 270 272..275 278 282 283 1ab 289 28a 1d1c 28b 28c 7a
   290..292 3b8 1e00: 1e01 . 1e03 . 1e05 . 1e07 . 1e09 . 1e0b . 1e0d . 1e0f . 1e11 . 1e13 . 1e15 .
   1e17 . 1e19 . 1e1b . 1e1d . 1e1f . 1e21 . 1e23 . 1e25 . 1e27 . 1e29 . 1e2b . 1e2d . 1e2f . 1e31 .
   1e33 . 1e35 . 1e37 . 1e39 . 1e3b . 1e3d . 1e3f . 1e41 . 1e43 . 1e45 . 1e47 . 1e49 . 1e4b . 1e4d .
   1e4f . 1e51 . 1e53 . 1e55 . 1e57 . 1e59 . 1e5b . 1e5d . 1e5f . 1e61 . 1e63 . 1e65 . 1e67 . 1e69 .
   1e6b . 1e6d . 1e6f . 1e71 . 1e73 . 1e75 . 1e77 . 1e79 . 1e7b . 1e7d . 1e7f . 1e81 . 1e83 . 1e85 .
   1e87 . 1e89 . 1e8b . 1e8d . 1e8f . 1e91 . 1e93 . 1e95 1e9a: 61+2be 1e61 . . df . 1ea1 . 1ea3 .
   1ea5 . 1ea7 . 1ea9 . 1eab . 1ead . 1eaf . 1eb1 . 1eb3 . 1eb5 . 1eb7 . 1eb9 . 1ebb . 1ebd . 1ebf .
   1ec1 . 1ec3 . 1ec5 . 1ec7 . 1ec9 . 1ecb . 1ecd . 1ecf . 1ed1 . 1ed3 . 1ed5 . 1ed7 . 1ed9 . 1edb .
   1edd . 1edf . 1ee1 . 1ee3 . 1ee5 . 1ee7 . 1ee9 . 1eeb . 1eed . 1eef . 1ef1 . 1ef3 . 1ef5 . 1ef7 .
   1ef9 . 1efb . 1efd . 1eff 1f08: 1f00..1f07 1f18: 1f10..1f15 1f28: 1f20..1f27 1f38: 1f30..1f37
   1f48: 1f40..1f45 1f59: 1f51 . 1f53 . 1f55 . 1f57 1f68: 1f60..1f67 . 3ac . 3ad . 3ae . 3af . 3cc .
   3cd . 3ce . . 1f00+3b9 1f01+3b9 1f02+3b9 1f03+3b9 1f04+3b9 1f05+3b9 1f06+3b9 1f07+3b9 1f00+3b9
   1f01+3b9 1f02+3b9 1f03+3b9 1f04+3b9 1f05+3b9 1f06+3b9 1f07+3b9 1f20+3b9 1f21+3b9 1f22+3b9
   1f23+3b9 1f24+3b9 1f25+3b9 1f26+3b9 1f27+3b9 1f20+3b9 1f21+3b9 1f22+3b9 1f23+3b9 1f24+3b9
   1f25+3b9 1f26+3b9 1f27+3b9 1f60+3b9 1f61+3b9 1f62+3b9 1f63+3b9 1f64+3b9 1f65+3b9 1f66+3b9
   1f67+3b9 1f60+3b9 1f61+3b9 1f62+3b9 1f63+3b9 1f64+3b9 1f65+3b9 1f66+3b9 1f67+3b9 . . 1f70+3b9
   3b1+3b9 3ac+3b9 . . 1fb6+3b9 1fb0 1fb1 1f70 3ac 3b1+3b9 20+313 3b9 20+313 20+342 20+308+342
   1f74+3b9 3b7+3b9 3ae+3b9 . . 1fc6+3b9 1f72 3ad 1f74 3ae 3b7+3b9 20+313+300 20+313+301 20+313+342
   1fd3: 390 1fd8: 1fd0 1fd1 1f76 3af . 20+314+300 20+314+301 20+314+342 1fe3: 3b0 1fe8: 1fe0 1fe1
   1f7a 3cd 1fe5 20+308+300 20+308+301 60 . . 1f7c+3b9 3c9+3b9 3ce+3b9 . . 1ff6+3b9 1f78 3cc 1f7c
   3ce 3c9+3b9 20+301 20+314"

/-- Letters from U+3400 to the end of the ideographs and the syllables behind them. -/
def farLetters : String :=
  "a640: a641 . a643 . a645 . a647 . a649 . a64b . a64d . a64f . a651 . a653 . a655 . a657 . a659 .
   a65b . a65d . a65f . a661 . a663 . a665 . a667 . a669 . a66b . a66d a680: a681 . a683 . a685 .
   a687 . a689 . a68b . a68d . a68f . a691 . a693 . a695 . a697 . a699 . a69b . 44a 44c a722: a723 .
   a725 . a727 . a729 . a72b . a72d . a72f a732: a733 . a735 . a737 . a739 . a73b . a73d . a73f .
   a741 . a743 . a745 . a747 . a749 . a74b . a74d . a74f . a751 . a753 . a755 . a757 . a759 . a75b .
   a75d . a75f . a761 . a763 . a765 . a767 . a769 . a76b . a76d . a76f . a76f a779: a77a . a77c .
   1d79 a77f . a781 . a783 . a785 . a787 a78b: a78c . 265 . . a791 . a793 a796: a797 . a799 . a79b .
   a79d . a79f . a7a1 . a7a3 . a7a5 . a7a7 . a7a9 . 266 25c 261 26c 26a . 29e 287 29d ab53 a7b5 .
   a7b7 . a7b9 . a7bb . a7bd . a7bf . a7c1 . a7c3 . a794 282 1d8e a7c8 . a7ca . 264 a7cd . a7cf .
   a7d1 . a7d3 . a7d5 . a7d7 . a7d9 . a7db . 19b a7f1: 73 63 66 71 a7f6 . . 127 153 ab5c: a727 ab37
   26b ab52 ab69: 28d ab70: 13a0..13ef"

/-- Letters and signs beyond the basic plane, ideographs apart. -/
def upperLetters : String :=
  "10400: 10428..1044f 104b0: 104d8..104fb 10570: 10597..105a1 . 105a3..105b1 . 105b3..105b9 . 105bb
   105bc 10781: 2d0 2d1 e6 299 253 . 2a3 ab66 2a5 2a4 256 257 1d91 258 25e 2a9 264 262 260 29b 127
   29c 267 284 2aa 2ab 26c 1df04 a78e 26e 1df05 28e 1df06 f8 276 277 71 27a 1df08 27d 27e 280 2a8
   2a6 ab67 2a7 288 2c71 . 28f 2a1 2a2 298 1c0..1c2 1df0a 1df1e 10c80: 10cc0..10cf2 10d50:
   10d70..10d85 118a0: 118c0..118df 16e40: 16e60..16e7f 16ea0: 16ebb..16ed3 1ccd6: 61..7a 30..39
   1d15e: 1d157+1d165 1d158+1d165 1d158+1d165+1d16e 1d158+1d165+1d16f 1d158+1d165+1d170
   1d158+1d165+1d171 1d158+1d165+1d172 1d1bb: 1d1b9+1d165 1d1ba+1d165 1d1b9+1d165+1d16e
   1d1ba+1d165+1d16e 1d1b9+1d165+1d16f 1d1ba+1d165+1d16f 1d400: 61..7a 61..7a 61..7a 61..67 . 69..7a
   61..7a 61..7a 61 . 63 64 . . 67 . . 6a 6b . . 6e..71 . 73..7a 61..64 . 66 . 68..6e . 70..7a
   61..7a 61..7a 61 62 . 64..67 . . 6a..71 . 73..79 . 61..7a 61 62 . 64..67 . 69..6d . 6f 1d54a:
   73..79 . 61..7a 61..7a 61..7a 61..7a 61..7a 61..7a 61..7a 61..7a 61..7a 61..7a 61..7a 61..7a
   61..7a 131 237 . . 3b1..3c1 3b8 3c3..3c9 2207 3b1..3c1 3c3 3c3..3c9 2202 3b5 3b8 3ba 3c6 3c1 3c0
   3b1..3c1 3b8 3c3..3c9 2207 3b1..3c1 3c3 3c3..3c9 2202 3b5 3b8 3ba 3c6 3c1 3c0 3b1..3c1 3b8
   3c3..3c9 2207 3b1..3c1 3c3 3c3..3c9 2202 3b5 3b8 3ba 3c6 3c1 3c0 3b1..3c1 3b8 3c3..3c9 2207
   3b1..3c1 3c3 3c3..3c9 2202 3b5 3b8 3ba 3c6 3c1 3c0 3b1..3c1 3b8 3c3..3c9 2207 3b1..3c1 3c3
   3c3..3c9 2202 3b5 3b8 3ba 3c6 3c1 3c0 3dd 3dd . . 30..39 30..39 30..39 30..39 30..39 1e030:
   430..438 43a..43c 43e..448 44b 44d 44e a689 4d9 456 458 4e9 4af 4cf 430..438 43a 43b 43e 43f 441
   443..448 44a 44b 491 456 455 45f 4ab a651 4b1 1e900: 1e922..1e943 1ee00: 627 628 62c 62f . 648
   632 62d 637 64a 643..646 633 639 641 635 642 631 634 62a 62b 62e 630 636 638 63a 66e 6ba 6a1 66f
   . 628 62c . 647 . . 62d . 64a 643..646 633 639 641 635 642 . 634 62a 62b 62e . 636 . 63a 1ee42:
   62c 1ee47: 62d . 64a . 644 . 646 633 639 . 635 642 . 634 . . 62e . 636 . 63a . 6ba . 66f . 628
   62c . 647 . . 62d 637 64a 643 . 645 646 633 639 641 635 642 . 634 62a 62b 62e . 636 638 63a 66e .
   6a1 . 627 628 62c 62f 647 648 632 62d 637 64a . 644..646 633 639 641 635 642 631 634 62a 62b 62e
   630 636 638 63a 1eea1: 628 62c 62f . 648 632 62d 637 64a . 644..646 633 639 641 635 642 631 634
   62a 62b 62e 630 636 638 63a 1f101: 30+2c 31+2c 32+2c 33+2c 34+2c 35+2c 36+2c 37+2c 38+2c 39+2c
   1f110: 28+61+29 28+62+29 28+63+29 28+64+29 28+65+29 28+66+29 28+67+29 28+68+29 28+69+29 28+6a+29
   28+6b+29 28+6c+29 28+6d+29 28+6e+29 28+6f+29 28+70+29 28+71+29 28+72+29 28+73+29 28+74+29
   28+75+29 28+76+29 28+77+29 28+78+29 28+79+29 28+7a+29 3014+73+3015 63 72 63+64 77+7a . 61..7a
   68+76 6d+76 73+64 73+73 70+70+76 77+63 1f16a: 6d+63 6d+64 6d+72 1f190: 64+6a 1f200: 307b+304b
   30b3+30b3 30b5 1f210: 624b 5b57 53cc 30c7 4e8c 591a 89e3 5929 4ea4 6620 7121 6599 524d 5f8c 518d
   65b0 521d 7d42 751f 8ca9 58f0 5439 6f14 6295 6355 4e00 4e09 904a 5de6 4e2d 53f3 6307 8d70 6253
   7981 7a7a 5408 6e80 6709 6708 7533 5272 55b6 914d 1f240: 3014+672c+3015 3014+4e09+3015
   3014+4e8c+3015 3014+5b89+3015 3014+70b9+3015 3014+6253+3015 3014+76d7+3015 3014+52dd+3015
   3014+6557+3015 1f250: 5f97 53ef 1fbf0: 30..39"

end ClusterBootstrap.Net.Idna
