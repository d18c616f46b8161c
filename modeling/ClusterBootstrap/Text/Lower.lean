import ClusterBootstrap.Text.CharTable
import ClusterBootstrap.Text.Mark

/-!
# Lower case

The lower case of a text, beyond ASCII as well.  Every character stands for itself but the upper-case
letters of the table; a capital sigma at the end of a word has a form of its own.
-/

namespace ClusterBootstrap.Text

namespace Lower

/-- Upper-case letters of the basic plane. -/
def basicLetters : String :=
  "c0: e0..f6 . f8..fe 100: 101 . 103 . 105 . 107 . 109 . 10b . 10d . 10f . 111 . 113 . 115 . 117 .
   119 . 11b . 11d . 11f . 121 . 123 . 125 . 127 . 129 . 12b . 12d . 12f . 69+307 . 133 . 135 . 137
   . . 13a . 13c . 13e . 140 . 142 . 144 . 146 . 148 . . 14b . 14d . 14f . 151 . 153 . 155 . 157 .
   159 . 15b . 15d . 15f . 161 . 163 . 165 . 167 . 169 . 16b . 16d . 16f . 171 . 173 . 175 . 177 .
   ff 17a . 17c . 17e 181: 253 183 . 185 . 254 188 . 256 257 18c . . 1dd 259 25b 192 . 260 263 . 269
   268 199 19c: 26f 272 . 275 1a1 . 1a3 . 1a5 . 280 1a8 . 283 . . 1ad . 288 1b0 . 28a 28b 1b4 . 1b6
   . 292 1b9 1bc: 1bd 1c4: 1c6 1c6 . 1c9 1c9 . 1cc 1cc . 1ce . 1d0 . 1d2 . 1d4 . 1d6 . 1d8 . 1da .
   1dc . . 1df . 1e1 . 1e3 . 1e5 . 1e7 . 1e9 . 1eb . 1ed . 1ef . . 1f3 1f3 . 1f5 . 195 1bf 1f9 . 1fb
   . 1fd . 1ff . 201 . 203 . 205 . 207 . 209 . 20b . 20d . 20f . 211 . 213 . 215 . 217 . 219 . 21b .
   21d . 21f . 19e . 223 . 225 . 227 . 229 . 22b . 22d . 22f . 231 . 233 23a: 2c65 23c . 19a 2c66 .
   . 242 . 180 289 28c 247 . 249 . 24b . 24d . 24f 370: 371 . 373 376: 377 37f: 3f3 386: 3ac .
   3ad..3af . 3cc . 3cd 3ce . 3b1..3c1 . 3c3..3cb 3cf: 3d7 3d8: 3d9 . 3db . 3dd . 3df . 3e1 . 3e3 .
   3e5 . 3e7 . 3e9 . 3eb . 3ed . 3ef 3f4: 3b8 . . 3f8 . 3f2 3fb . . 37b..37d 450..45f 430..44f 460:
   461 . 463 . 465 . 467 . 469 . 46b . 46d . 46f . 471 . 473 . 475 . 477 . 479 . 47b . 47d . 47f .
   481 48a: 48b . 48d . 48f . 491 . 493 . 495 . 497 . 499 . 49b . 49d . 49f . 4a1 . 4a3 . 4a5 . 4a7
   . 4a9 . 4ab . 4ad . 4af . 4b1 . 4b3 . 4b5 . 4b7 . 4b9 . 4bb . 4bd . 4bf . 4cf 4c2 . 4c4 . 4c6 .
   4c8 . 4ca . 4cc . 4ce . . 4d1 . 4d3 . 4d5 . 4d7 . 4d9 . 4db . 4dd . 4df . 4e1 . 4e3 . 4e5 . 4e7 .
   4e9 . 4eb . 4ed . 4ef . 4f1 . 4f3 . 4f5 . 4f7 . 4f9 . 4fb . 4fd . 4ff . 501 . 503 . 505 . 507 .
   509 . 50b . 50d . 50f . 511 . 513 . 515 . 517 . 519 . 51b . 51d . 51f . 521 . 523 . 525 . 527 .
   529 . 52b . 52d . 52f . . 561..586 10a0: 2d00..2d25 . 2d27 10cd: 2d2d 13a0: ab70..abbf 13f8..13fd
   1c89: 1c8a 1c90: 10d0..10fa . . 10fd..10ff 1e00: 1e01 . 1e03 . 1e05 . 1e07 . 1e09 . 1e0b . 1e0d .
   1e0f . 1e11 . 1e13 . 1e15 . 1e17 . 1e19 . 1e1b . 1e1d . 1e1f . 1e21 . 1e23 . 1e25 . 1e27 . 1e29 .
   1e2b . 1e2d . 1e2f . 1e31 . 1e33 . 1e35 . 1e37 . 1e39 . 1e3b . 1e3d . 1e3f . 1e41 . 1e43 . 1e45 .
   1e47 . 1e49 . 1e4b . 1e4d . 1e4f . 1e51 . 1e53 . 1e55 . 1e57 . 1e59 . 1e5b . 1e5d . 1e5f . 1e61 .
   1e63 . 1e65 . 1e67 . 1e69 . 1e6b . 1e6d . 1e6f . 1e71 . 1e73 . 1e75 . 1e77 . 1e79 . 1e7b . 1e7d .
   1e7f . 1e81 . 1e83 . 1e85 . 1e87 . 1e89 . 1e8b . 1e8d . 1e8f . 1e91 . 1e93 . 1e95 1e9e: df . 1ea1
   . 1ea3 . 1ea5 . 1ea7 . 1ea9 . 1eab . 1ead . 1eaf . 1eb1 . 1eb3 . 1eb5 . 1eb7 . 1eb9 . 1ebb . 1ebd
   . 1ebf . 1ec1 . 1ec3 . 1ec5 . 1ec7 . 1ec9 . 1ecb . 1ecd . 1ecf . 1ed1 . 1ed3 . 1ed5 . 1ed7 . 1ed9
   . 1edb . 1edd . 1edf . 1ee1 . 1ee3 . 1ee5 . 1ee7 . 1ee9 . 1eeb . 1eed . 1eef . 1ef1 . 1ef3 . 1ef5
   . 1ef7 . 1ef9 . 1efb . 1efd . 1eff 1f08: 1f00..1f07 1f18: 1f10..1f15 1f28: 1f20..1f27 1f38:
   1f30..1f37 1f48: 1f40..1f45 1f59: 1f51 . 1f53 . 1f55 . 1f57 1f68: 1f60..1f67 1f88: 1f80..1f87
   1f98: 1f90..1f97 1fa8: 1fa0..1fa7 1fb8: 1fb0 1fb1 1f70 1f71 1fb3 1fc8: 1f72..1f75 1fc3 1fd8: 1fd0
   1fd1 1f76 1f77 1fe8: 1fe0 1fe1 1f7a 1f7b 1fe5 1ff8: 1f78 1f79 1f7c 1f7d 1ff3 2126: 3c9 212a: 6b
   e5 2132: 214e 2160: 2170..217f 2183: 2184 24b6: 24d0..24e9 2c00: 2c30..2c5f 2c60: 2c61 . 26b 1d7d
   27d . . 2c68 . 2c6a . 2c6c . 251 271 250 252 . 2c73 . . 2c76 2c7e: 23f 240 2c81 . 2c83 . 2c85 .
   2c87 . 2c89 . 2c8b . 2c8d . 2c8f . 2c91 . 2c93 . 2c95 . 2c97 . 2c99 . 2c9b . 2c9d . 2c9f . 2ca1 .
   2ca3 . 2ca5 . 2ca7 . 2ca9 . 2cab . 2cad . 2caf . 2cb1 . 2cb3 . 2cb5 . 2cb7 . 2cb9 . 2cbb . 2cbd .
   2cbf . 2cc1 . 2cc3 . 2cc5 . 2cc7 . 2cc9 . 2ccb . 2ccd . 2ccf . 2cd1 . 2cd3 . 2cd5 . 2cd7 . 2cd9 .
   2cdb . 2cdd . 2cdf . 2ce1 . 2ce3 2ceb: 2cec . 2cee 2cf2: 2cf3 a640: a641 . a643 . a645 . a647 .
   a649 . a64b . a64d . a64f . a651 . a653 . a655 . a657 . a659 . a65b . a65d . a65f . a661 . a663 .
   a665 . a667 . a669 . a66b . a66d a680: a681 . a683 . a685 . a687 . a689 . a68b . a68d . a68f .
   a691 . a693 . a695 . a697 . a699 . a69b a722: a723 . a725 . a727 . a729 . a72b . a72d . a72f
   a732: a733 . a735 . a737 . a739 . a73b . a73d . a73f . a741 . a743 . a745 . a747 . a749 . a74b .
   a74d . a74f . a751 . a753 . a755 . a757 . a759 . a75b . a75d . a75f . a761 . a763 . a765 . a767 .
   a769 . a76b . a76d . a76f a779: a77a . a77c . 1d79 a77f . a781 . a783 . a785 . a787 a78b: a78c .
   265 . . a791 . a793 a796: a797 . a799 . a79b . a79d . a79f . a7a1 . a7a3 . a7a5 . a7a7 . a7a9 .
   266 25c 261 26c 26a . 29e 287 29d ab53 a7b5 . a7b7 . a7b9 . a7bb . a7bd . a7bf . a7c1 . a7c3 .
   a794 282 1d8e a7c8 . a7ca . 264 a7cd . a7cf . a7d1 . a7d3 . a7d5 . a7d7 . a7d9 . a7db . 19b a7f5:
   a7f6 ff21: ff41..ff5a"

/-- Upper-case letters beyond the basic plane. -/
def upperLetters : String :=
  "10400: 10428..1044f 104b0: 104d8..104fb 10570: 10597..105a1 . 105a3..105b1 . 105b3..105b9 . 105bb
   105bc 10c80: 10cc0..10cf2 10d50: 10d70..10d85 118a0: 118c0..118df 16e40: 16e60..16e7f 16ea0:
   16ebb..16ed3 1e900: 1e922..1e943"

/-- The lower case of the letters beyond ASCII. -/
def table : CharTable := CharTable.ofTexts [basicLetters, upperLetters]

/-- The lower case of a character where nothing around it counts. -/
def ofChar (c : Char) : List Char :=
  if c.toNat < 0x80 then [c.toLower] else (table.find? c).getD [c]

/-- Whether a character is a letter with two cases. -/
def isCased (c : Char) : Bool :=
  if c.toNat < 0x80 then c.isAlpha else ofChar c ≠ [c] || (table.source? [c]).isSome

/-- Characters inside words that are passed over when looking for a letter. -/
def isPassedOver (c : Char) : Bool :=
  isNonspacing c || "'.:^`\u00a8\u00ad\u00af\u00b4\u00b7\u00b8\u2019".toList.contains c

/-- Whether the next letter, if there is one, belongs to the same word. -/
def meetsLetter (text : List Char) : Bool :=
  (text.dropWhile isPassedOver).head?.any isCased

/-- The lower case of a text behind characters, the last one of which comes first in `before`. -/
def after (before : List Char) : List Char → List Char
  | [] => []
  | c :: rest =>
    let image :=
      if c = 'Σ' then [if meetsLetter before && !meetsLetter rest then 'ς' else 'σ'] else ofChar c
    image ++ after (c :: before) rest

end Lower

/-- The lower case of a text. -/
def lower (text : String) : String := String.ofList (Lower.after [] text.toList)

end ClusterBootstrap.Text
