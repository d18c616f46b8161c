import ClusterBootstrap.Text.CharTable

/-!
# Composed characters

A composed character stands for a pair: a character and a mark or letter that is joined to it.  The first
of the pair may be composed itself, the second is not.  The table leaves out the syllables of Hangul, which
follow a rule, and upper-case letters.
-/

namespace ClusterBootstrap.Text.Composition

/-- Letters with marks below U+1000. -/
def latin : String :=
  "e0: 61+300 61+301 61+302 61+303 61+308 61+30a . 63+327 65+300 65+301 65+302 65+308 69+300 69+301
   69+302 69+308 . 6e+303 6f+300 6f+301 6f+302 6f+303 6f+308 . . 75+300 75+301 75+302 75+308 79+301
   . 79+308 . 61+304 . 61+306 . 61+328 . 63+301 . 63+302 . 63+307 . 63+30c . 64+30c . . . 65+304 .
   65+306 . 65+307 . 65+328 . 65+30c . 67+302 . 67+306 . 67+307 . 67+327 . 68+302 . . . 69+303 .
   69+304 . 69+306 . 69+328 . . . . . 6a+302 . 6b+327 . . 6c+301 . 6c+327 . 6c+30c . . . . . 6e+301
   . 6e+327 . 6e+30c . . . . 6f+304 . 6f+306 . 6f+30b . . . 72+301 . 72+327 . 72+30c . 73+301 .
   73+302 . 73+327 . 73+30c . 74+327 . 74+30c . . . 75+303 . 75+304 . 75+306 . 75+30a . 75+30b .
   75+328 . 77+302 . 79+302 . . 7a+301 . 7a+307 . 7a+30c 1a1: 6f+31b 1b0: 75+31b 1ce: 61+30c .
   69+30c . 6f+30c . 75+30c . fc+304 . fc+301 . fc+30c . fc+300 . . e4+304 . 227+304 . e6+304 . . .
   67+30c . 6b+30c . 6f+328 . 1eb+304 . 292+30c 6a+30c . . . . 67+301 . . . 6e+300 . e5+301 . e6+301
   . f8+301 . 61+30f . 61+311 . 65+30f . 65+311 . 69+30f . 69+311 . 6f+30f . 6f+311 . 72+30f .
   72+311 . 75+30f . 75+311 . 73+326 . 74+326 . . . 68+30c 227: 61+307 . 65+327 . f6+304 . f5+304 .
   6f+307 . 22f+304 . 79+304 390: 3ca+301 3ac: 3b1+301 3b5+301 3b7+301 3b9+301 3cb+301 3ca: 3b9+308
   3c5+308 3bf+301 3c5+301 3c9+301 439: 438+306 450: 435+300 435+308 . 433+301 . . . 456+308 . . . .
   43a+301 438+300 443+306 477: 475+30f 4c2: 436+306 4d1: 430+306 . 430+308 . . . 435+306 . . .
   4d9+308 . 436+308 . 437+308 . . . 438+304 . 438+308 . 43e+308 . . . 4e9+308 . 44d+308 . 443+304 .
   443+308 . 443+30b . 447+308 . . . 44b+308 622: 627+653 627+654 648+654 627+655 64a+654 6c0:
   6d5+654 . 6c1+654 6d3: 6d2+654 929: 928+93c 931: 930+93c . . 933+93c 9cb: 9c7+9be 9c7+9d7 b48:
   b47+b56 . . b47+b3e b47+b57 b94: b92+bd7 bca: bc6+bbe bc7+bbe bc6+bd7 c48: c46+c56 cc0: cbf+cd5 .
   . . . . . cc6+cd5 cc6+cd6 . cc6+cc2 cca+cd5 d4a: d46+d3e d47+d3e d46+d57 dda: dd9+dca . dd9+dcf
   ddc+dca dd9+ddf"

/-- Letters with marks from U+1000 to U+1FFF, and vowels that join vowels. -/
def greek : String :=
  "1026: 1025+102e 1b06: 1b05+1b35 . 1b07+1b35 . 1b09+1b35 . 1b0b+1b35 . 1b0d+1b35 . . . 1b11+1b35
   1b3b: 1b3a+1b35 . 1b3c+1b35 . . 1b3e+1b35 1b3f+1b35 . 1b42+1b35 1e01: 61+325 . 62+307 . 62+323 .
   62+331 . e7+301 . 64+307 . 64+323 . 64+331 . 64+327 . 64+32d . 113+300 . 113+301 . 65+32d .
   65+330 . 229+306 . 66+307 . 67+304 . 68+307 . 68+323 . 68+308 . 68+327 . 68+32e . 69+330 . ef+301
   . 6b+301 . 6b+323 . 6b+331 . 6c+323 . 1e37+304 . 6c+331 . 6c+32d . 6d+301 . 6d+307 . 6d+323 .
   6e+307 . 6e+323 . 6e+331 . 6e+32d . f5+301 . f5+308 . 14d+300 . 14d+301 . 70+301 . 70+307 .
   72+307 . 72+323 . 1e5b+304 . 72+331 . 73+307 . 73+323 . 15b+307 . 161+307 . 1e63+307 . 74+307 .
   74+323 . 74+331 . 74+32d . 75+324 . 75+330 . 75+32d . 169+301 . 16b+308 . 76+303 . 76+323 .
   77+300 . 77+301 . 77+308 . 77+307 . 77+323 . 78+307 . 78+308 . 79+307 . 7a+302 . 7a+323 . 7a+331
   68+331 74+308 77+30a 79+30a 1ea1: 61+323 . 61+309 . e2+301 . e2+300 . e2+309 . e2+303 . 1ea1+302
   . 103+301 . 103+300 . 103+309 . 103+303 . 1ea1+306 . 65+323 . 65+309 . 65+303 . ea+301 . ea+300 .
   ea+309 . ea+303 . 1eb9+302 . 69+309 . 69+323 . 6f+323 . 6f+309 . f4+301 . f4+300 . f4+309 .
   f4+303 . 1ecd+302 . 1a1+301 . 1a1+300 . 1a1+309 . 1a1+303 . 1a1+323 . 75+323 . 75+309 . 1b0+301 .
   1b0+300 . 1b0+309 . 1b0+303 . 1b0+323 . 79+300 . 79+323 . 79+309 . 79+303 . . . . . . 3b1+313
   3b1+314 1f00+300 1f01+300 1f00+301 1f01+301 1f00+342 1f01+342 1f10: 3b5+313 3b5+314 1f10+300
   1f11+300 1f10+301 1f11+301 1f20: 3b7+313 3b7+314 1f20+300 1f21+300 1f20+301 1f21+301 1f20+342
   1f21+342 1f30: 3b9+313 3b9+314 1f30+300 1f31+300 1f30+301 1f31+301 1f30+342 1f31+342 1f40:
   3bf+313 3bf+314 1f40+300 1f41+300 1f40+301 1f41+301 1f50: 3c5+313 3c5+314 1f50+300 1f51+300
   1f50+301 1f51+301 1f50+342 1f51+342 1f60: 3c9+313 3c9+314 1f60+300 1f61+300 1f60+301 1f61+301
   1f60+342 1f61+342 1f70: 3b1+300 . 3b5+300 . 3b7+300 . 3b9+300 . 3bf+300 . 3c5+300 . 3c9+300 1fb0:
   3b1+306 3b1+304 . . . . 3b1+342 1fc6: 3b7+342 1fd0: 3b9+306 3b9+304 3ca+300 . . . 3b9+342 3ca+342
   1fe0: 3c5+306 3c5+304 3cb+300 . 3c1+313 3c1+314 3c5+342 3cb+342 1ff6: 3c9+342"

/-- Composed characters from U+2000 on. -/
def others : String :=
  "219a: 2190+338 2192+338 21ae: 2194+338 21cd: 21d0+338 21d4+338 21d2+338 2204: 2203+338 . . . .
   2208+338 . . 220b+338 2224: 2223+338 . 2225+338 2241: 223c+338 . . 2243+338 . . 2245+338 .
   2248+338 2260: 3d+338 . 2261+338 226d: 224d+338 3c+338 3e+338 2264+338 2265+338 . . 2272+338
   2273+338 . . 2276+338 2277+338 . . . . . . 227a+338 227b+338 . . 2282+338 2283+338 . . 2286+338
   2287+338 22ac: 22a2+338 22a8+338 22a9+338 22ab+338 22e0: 227c+338 227d+338 2291+338 2292+338 . .
   . . . . 22b2+338 22b3+338 22b4+338 22b5+338 304c: 304b+3099 . 304d+3099 . 304f+3099 . 3051+3099 .
   3053+3099 . 3055+3099 . 3057+3099 . 3059+3099 . 305b+3099 . 305d+3099 . 305f+3099 . 3061+3099 . .
   3064+3099 . 3066+3099 . 3068+3099 . . . . . . 306f+3099 306f+309a . 3072+3099 3072+309a .
   3075+3099 3075+309a . 3078+3099 3078+309a . 307b+3099 307b+309a 3094: 3046+3099 309e: 309d+3099
   30ac: 30ab+3099 . 30ad+3099 . 30af+3099 . 30b1+3099 . 30b3+3099 . 30b5+3099 . 30b7+3099 .
   30b9+3099 . 30bb+3099 . 30bd+3099 . 30bf+3099 . 30c1+3099 . . 30c4+3099 . 30c6+3099 . 30c8+3099 .
   . . . . . 30cf+3099 30cf+309a . 30d2+3099 30d2+309a . 30d5+3099 30d5+309a . 30d8+3099 30d8+309a .
   30db+3099 30db+309a 30f4: 30a6+3099 . . 30ef+3099 30f0+3099 30f1+3099 30f2+3099 . . . 30fd+3099
   105c9: 105d2+307 105e4: 105da+307 1109a: 11099+110ba . 1109b+110ba 110ab: 110a5+110ba 1112e:
   11131+11127 11132+11127 1134b: 11347+1133e 11347+11357 11383: 11382+113c9 . 11384+113bb 1138e:
   1138b+113c2 . . 11390+113c9 113c5: 113c2+113c2 . 113c2+113b8 113c2+113c9 114bb: 114b9+114ba
   114b9+114b0 . 114b9+114bd 115ba: 115b8+115af 115b9+115af 11938: 11935+11930 16121: 1611e+1611e
   1611e+16129 1611e+1611f 16129+1611f 1611e+16120 16121+1611f 16122+1611f 16121+16120 16d68:
   16d67+16d67 16d63+16d67 16d69+16d67"

/-- The pairs of all composed characters. -/
def pairs : CharTable := CharTable.ofTexts [latin, greek, others]

end ClusterBootstrap.Text.Composition
