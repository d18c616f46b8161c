/-!
# Symbols in names of hosts

What symbols that stand for letters, numbers and words become in names of hosts, as texts of tables.
-/

namespace ClusterBootstrap.Net.Idna

/-- Punctuation, super- and subscripts, letters as signs, fractions and numbers in circles. -/
def signs : String :=
  "2000: 20 20 20 20 20 20 20 20 20 20 20 2011: 2010 2017: 20+333 202f: 20 2033: 2032+2032
   2032+2032+2032 . 2035+2035 2035+2035+2035 203c: 21+21 . 20+305 2047: 3f+3f 3f+21 21+3f 2057:
   2032+2032+2032+2032 205f: 20 2070: 30 69 . . 34..39 2b 2212 3d 28 29 6e 30..39 2b 2212 3d 28 29 .
   61 65 6f 78 259 68 6b..6e 70 73 74 20a8: 72+73 2100: 61+2f+63 61+2f+73 63 b0+63 . 63+2f+6f
   63+2f+75 25b . b0+66 67 68 68 68 68 127 69 69 6c 6c . 6e 6e+6f . . 70..72 72 72 . . 73+6d
   74+65+6c 74+6d . 7a . 3c9 . 7a . 6b e5 62 63 . 65 65 66 214e 6d 6f 5d0..5d3 69 . 66+61+78 3c0 3b3
   3b3 3c0 2211 2145: 64 64 65 69 6a 2150: 31+2044+37 31+2044+39 31+2044+31+30 31+2044+33 32+2044+33
   31+2044+35 32+2044+35 33+2044+35 34+2044+35 31+2044+36 35+2044+36 31+2044+38 33+2044+38
   35+2044+38 37+2044+38 31+2044 69 69+69 69+69+69 69+76 76 76+69 76+69+69 76+69+69+69 69+78 78
   78+69 78+69+69 6c 63 64 6d 69 69+69 69+69+69 69+76 76 76+69 76+69+69 76+69+69+69 69+78 78 78+69
   78+69+69 6c 63 64 6d 2183: 2184 2189: 30+2044+33 222c: 222b+222b 222b+222b+222b . 222e+222e
   222e+222e+222e 2329: 3008 3009 2460: 31..39 31+30 31+31 31+32 31+33 31+34 31+35 31+36 31+37 31+38
   31+39 32+30 28+31+29 28+32+29 28+33+29 28+34+29 28+35+29 28+36+29 28+37+29 28+38+29 28+39+29
   28+31+30+29 28+31+31+29 28+31+32+29 28+31+33+29 28+31+34+29 28+31+35+29 28+31+36+29 28+31+37+29
   28+31+38+29 28+31+39+29 28+32+30+29 249c: 28+61+29 28+62+29 28+63+29 28+64+29 28+65+29 28+66+29
   28+67+29 28+68+29 28+69+29 28+6a+29 28+6b+29 28+6c+29 28+6d+29 28+6e+29 28+6f+29 28+70+29
   28+71+29 28+72+29 28+73+29 28+74+29 28+75+29 28+76+29 28+77+29 28+78+29 28+79+29 28+7a+29 61..7a
   61..7a 30 2a0c: 222b+222b+222b+222b 2a74: 3a+3a+3d 3d+3d 3d+3d+3d 2adc: 2add+338 2c00: 2c30..2c5f
   2c60: 2c61 . 26b 1d7d 27d . . 2c68 . 2c6a . 2c6c . 251 271 250 252 . 2c73 . . 2c76 2c7c: 6a 76
   23f 240 2c81 . 2c83 . 2c85 . 2c87 . 2c89 . 2c8b . 2c8d . 2c8f . 2c91 . 2c93 . 2c95 . 2c97 . 2c99
   . 2c9b . 2c9d . 2c9f . 2ca1 . 2ca3 . 2ca5 . 2ca7 . 2ca9 . 2cab . 2cad . 2caf . 2cb1 . 2cb3 . 2cb5
   . 2cb7 . 2cb9 . 2cbb . 2cbd . 2cbf . 2cc1 . 2cc3 . 2cc5 . 2cc7 . 2cc9 . 2ccb . 2ccd . 2ccf . 2cd1
   . 2cd3 . 2cd5 . 2cd7 . 2cd9 . 2cdb . 2cdd . 2cdf . 2ce1 . 2ce3 2ceb: 2cec . 2cee 2cf2: 2cf3 2d6f:
   2d61 2e9f: 6bcd 2ef3: 9f9f 2f00: 4e00 4e28 4e36 4e3f 4e59 4e85 4e8c 4ea0 4eba 513f 5165 516b 5182
   5196 51ab 51e0 51f5 5200 529b 52f9 5315 531a 5338 5341 535c 5369 5382 53b6 53c8 53e3 56d7 571f
   58eb 5902 590a 5915 5927 5973 5b50 5b80 5bf8 5c0f 5c22 5c38 5c6e 5c71 5ddb 5de5 5df1 5dfe 5e72
   5e7a 5e7f 5ef4 5efe 5f0b 5f13 5f50 5f61 5f73 5fc3 6208 6236 624b 652f 6534 6587 6597 65a4 65b9
   65e0 65e5 66f0 6708 6728 6b20 6b62 6b79 6bb3 6bcb 6bd4 6bdb 6c0f 6c14 6c34 706b 722a 7236 723b
   723f 7247 7259 725b 72ac 7384 7389 74dc 74e6 7518 751f 7528 7530 758b 7592 7676 767d 76ae 76bf
   76ee 77db 77e2 77f3 793a 79b8 79be 7a74 7acb 7af9 7c73 7cf8 7f36 7f51 7f8a 7fbd 8001 800c 8012
   8033 807f 8089 81e3 81ea 81f3 81fc 820c 821b 821f 826e 8272 8278 864d 866b 8840 884c 8863 897e
   898b 89d2 8a00 8c37 8c46 8c55 8c78 8c9d 8d64 8d70 8db3 8eab 8eca 8f9b 8fb0 8fb5 9091 9149 91c6
   91cc 91d1 9577 9580 961c 96b6 96b9 96e8 9751 975e 9762 9769 97cb 97ed 97f3 9801 98a8 98db 98df
   9996 9999 99ac 9aa8 9ad8 9adf 9b25 9b2f 9b32 9b3c 9b5a 9ce5 9e75 9e7f 9ea5 9ebb 9ec3 9ecd 9ed1
   9ef9 9efd 9f0e 9f13 9f20 9f3b 9f4a 9f52 9f8d 9f9c 9fa0"

/-- Signs of ideographic writing, and words written into squares. -/
def squares : String :=
  "3000: 20 . 2e 3036: 3012 . 5341 5344 5345 309b: 20+3099 20+309a . . 3088+308a 30ff: 30b3+30c8
   3131: 1100 1101 11aa 1102 11ac 11ad 1103..1105 11b0..11b5 111a 1106..1108 1121 1109..1112
   1161..1175 . 1114 1115 11c7 11c8 11cc 11ce 11d3 11d7 11d9 111c 11dd 11df 111d 111e 1120 1122 1123
   1127 1129 112b..112f 1132 1136 1140 1147 114c 11f1 11f2 1157..1159 1184 1185 1188 1191 1192 1194
   119e 11a1 3192: 4e00 4e8c 4e09 56db 4e0a 4e2d 4e0b 7532 4e59 4e19 4e01 5929 5730 4eba 3200:
   28+1100+29 28+1102+29 28+1103+29 28+1105+29 28+1106+29 28+1107+29 28+1109+29 28+110b+29
   28+110c+29 28+110e+29 28+110f+29 28+1110+29 28+1111+29 28+1112+29 28+ac00+29 28+b098+29
   28+b2e4+29 28+b77c+29 28+b9c8+29 28+bc14+29 28+c0ac+29 28+c544+29 28+c790+29 28+cc28+29
   28+ce74+29 28+d0c0+29 28+d30c+29 28+d558+29 28+c8fc+29 28+c624+c804+29 28+c624+d6c4+29 .
   28+4e00+29 28+4e8c+29 28+4e09+29 28+56db+29 28+4e94+29 28+516d+29 28+4e03+29 28+516b+29
   28+4e5d+29 28+5341+29 28+6708+29 28+706b+29 28+6c34+29 28+6728+29 28+91d1+29 28+571f+29
   28+65e5+29 28+682a+29 28+6709+29 28+793e+29 28+540d+29 28+7279+29 28+8ca1+29 28+795d+29
   28+52b4+29 28+4ee3+29 28+547c+29 28+5b66+29 28+76e3+29 28+4f01+29 28+8cc7+29 28+5354+29
   28+796d+29 28+4f11+29 28+81ea+29 28+81f3+29 554f 5e7c 6587 7b8f 3250: 70+74+65 32+31 32+32 32+33
   32+34 32+35 32+36 32+37 32+38 32+39 33+30 33+31 33+32 33+33 33+34 33+35 1100 1102 1103 1105..1107
   1109 110b 110c 110e..1112 ac00 b098 b2e4 b77c b9c8 bc14 c0ac c544 c790 cc28 ce74 d0c0 d30c d558
   cc38+ace0 c8fc+c758 c6b0 . 4e00 4e8c 4e09 56db 4e94 516d 4e03 516b 4e5d 5341 6708 706b 6c34 6728
   91d1 571f 65e5 682a 6709 793e 540d 7279 8ca1 795d 52b4 79d8 7537 5973 9069 512a 5370 6ce8 9805
   4f11 5199 6b63 4e0a 4e2d 4e0b 5de6 53f3 533b 5b97 5b66 76e3 4f01 8cc7 5354 591c 33+36 33+37 33+38
   33+39 34+30 34+31 34+32 34+33 34+34 34+35 34+36 34+37 34+38 34+39 35+30 31+6708 32+6708 33+6708
   34+6708 35+6708 36+6708 37+6708 38+6708 39+6708 31+30+6708 31+31+6708 31+32+6708 68+67 65+72+67
   65+76 6c+74+64 30a2 30a4 30a6 30a8 30aa 30ab 30ad 30af 30b1 30b3 30b5 30b7 30b9 30bb 30bd 30bf
   30c1 30c4 30c6 30c8 30ca..30cf 30d2 30d5 30d8 30db 30de..30e2 30e4 30e6 30e8..30ed 30ef..30f2
   4ee4+548c 30a2+30d1+30fc+30c8 30a2+30eb+30d5+30a1 30a2+30f3+30da+30a2 30a2+30fc+30eb
   30a4+30cb+30f3+30b0 30a4+30f3+30c1 30a6+30a9+30f3 30a8+30b9+30af+30fc+30c9 30a8+30fc+30ab+30fc
   30aa+30f3+30b9 30aa+30fc+30e0 30ab+30a4+30ea 30ab+30e9+30c3+30c8 30ab+30ed+30ea+30fc
   30ac+30ed+30f3 30ac+30f3+30de 30ae+30ac 30ae+30cb+30fc 30ad+30e5+30ea+30fc 30ae+30eb+30c0+30fc
   30ad+30ed 30ad+30ed+30b0+30e9+30e0 30ad+30ed+30e1+30fc+30c8+30eb 30ad+30ed+30ef+30c3+30c8
   30b0+30e9+30e0 30b0+30e9+30e0+30c8+30f3 30af+30eb+30bc+30a4+30ed 30af+30ed+30fc+30cd
   30b1+30fc+30b9 30b3+30eb+30ca 30b3+30fc+30dd 30b5+30a4+30af+30eb 30b5+30f3+30c1+30fc+30e0
   30b7+30ea+30f3+30b0 30bb+30f3+30c1 30bb+30f3+30c8 30c0+30fc+30b9 30c7+30b7 30c9+30eb 30c8+30f3
   30ca+30ce 30ce+30c3+30c8 30cf+30a4+30c4 30d1+30fc+30bb+30f3+30c8 30d1+30fc+30c4
   30d0+30fc+30ec+30eb 30d4+30a2+30b9+30c8+30eb 30d4+30af+30eb 30d4+30b3 30d3+30eb
   30d5+30a1+30e9+30c3+30c9 30d5+30a3+30fc+30c8 30d6+30c3+30b7+30a7+30eb 30d5+30e9+30f3
   30d8+30af+30bf+30fc+30eb 30da+30bd 30da+30cb+30d2 30d8+30eb+30c4 30da+30f3+30b9 30da+30fc+30b8
   30d9+30fc+30bf 30dd+30a4+30f3+30c8 30dc+30eb+30c8 30db+30f3 30dd+30f3+30c9 30db+30fc+30eb
   30db+30fc+30f3 30de+30a4+30af+30ed 30de+30a4+30eb 30de+30c3+30cf 30de+30eb+30af
   30de+30f3+30b7+30e7+30f3 30df+30af+30ed+30f3 30df+30ea 30df+30ea+30d0+30fc+30eb 30e1+30ac
   30e1+30ac+30c8+30f3 30e1+30fc+30c8+30eb 30e4+30fc+30c9 30e4+30fc+30eb 30e6+30a2+30f3
   30ea+30c3+30c8+30eb 30ea+30e9 30eb+30d4+30fc 30eb+30fc+30d6+30eb 30ec+30e0
   30ec+30f3+30c8+30b2+30f3 30ef+30c3+30c8 30+70b9 31+70b9 32+70b9 33+70b9 34+70b9 35+70b9 36+70b9
   37+70b9 38+70b9 39+70b9 31+30+70b9 31+31+70b9 31+32+70b9 31+33+70b9 31+34+70b9 31+35+70b9
   31+36+70b9 31+37+70b9 31+38+70b9 31+39+70b9 32+30+70b9 32+31+70b9 32+32+70b9 32+33+70b9
   32+34+70b9 68+70+61 64+61 61+75 62+61+72 6f+76 70+63 64+6d 64+6d+32 64+6d+33 69+75 5e73+6210
   662d+548c 5927+6b63 660e+6cbb 682a+5f0f+4f1a+793e 70+61 6e+61 3bc+61 6d+61 6b+61 6b+62 6d+62
   67+62 63+61+6c 6b+63+61+6c 70+66 6e+66 3bc+66 3bc+67 6d+67 6b+67 68+7a 6b+68+7a 6d+68+7a 67+68+7a
   74+68+7a 3bc+6c 6d+6c 64+6c 6b+6c 66+6d 6e+6d 3bc+6d 6d+6d 63+6d 6b+6d 6d+6d+32 63+6d+32 6d+32
   6b+6d+32 6d+6d+33 63+6d+33 6d+33 6b+6d+33 6d+2215+73 6d+2215+73+32 70+61 6b+70+61 6d+70+61
   67+70+61 72+61+64 72+61+64+2215+73 72+61+64+2215+73+32 70+73 6e+73 3bc+73 6d+73 70+76 6e+76
   3bc+76 6d+76 6b+76 6d+76 70+77 6e+77 3bc+77 6d+77 6b+77 6d+77 6b+3c9 6d+3c9 . 62+71 63+63 63+64
   63+2215+6b+67 . 64+62 67+79 68+61 68+70 69+6e 6b+6b 6b+6d 6b+74 6c+6d 6c+6e 6c+6f+67 6c+78 6d+62
   6d+69+6c 6d+6f+6c 70+68 . 70+70+6d 70+72 73+72 73+76 77+62 76+2215+6d 61+2215+6d 31+65e5 32+65e5
   33+65e5 34+65e5 35+65e5 36+65e5 37+65e5 38+65e5 39+65e5 31+30+65e5 31+31+65e5 31+32+65e5
   31+33+65e5 31+34+65e5 31+35+65e5 31+36+65e5 31+37+65e5 31+38+65e5 31+39+65e5 32+30+65e5
   32+31+65e5 32+32+65e5 32+33+65e5 32+34+65e5 32+35+65e5 32+36+65e5 32+37+65e5 32+38+65e5
   32+39+65e5 33+30+65e5 33+31+65e5 67+61+6c"

end ClusterBootstrap.Net.Idna
