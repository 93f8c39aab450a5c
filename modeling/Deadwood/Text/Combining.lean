import Deadwood.Text.StepTable

/-!
# Combining classes

The Unicode property Canonical_Combining_Class: zero for a character that starts a sequence, and
for a mark the number by which marks that follow one character are put in order.
-/

namespace Deadwood.Text

/-- Where the combining class changes, with the class from there on. -/
def combiningClasses : StepTable Nat := .ofString ofDecimal "
  300:230 315:232 316:220 31a:232 31b:216 31c:220 321:202 323:220 327:202 329:220 334:1 339:220
  33d:230 345:240 346:230 347:220 34a:230 34d:220 34f:0 350:230 353:220 357:230 358:232 359:220
  35b:230 35c:233 35d:234 35f:233 360:234 362:233 363:230 370:0 483:230 488:0 591:220 592:230
  596:220 597:230 59a:222 59b:220 59c:230 5a2:220 5a8:230 5aa:220 5ab:230 5ad:222 5ae:228 5af:230
  5b0:10 5b1:11 5b2:12 5b3:13 5b4:14 5b5:15 5b6:16 5b7:17 5b8:18 5b9:19 5bb:20 5bc:21 5bd:22 5be:0
  5bf:23 5c0:0 5c1:24 5c2:25 5c3:0 5c4:230 5c5:220 5c6:0 5c7:18 5c8:0 610:230 618:30 619:31 61a:32
  61b:0 64b:27 64c:28 64d:29 64e:30 64f:31 650:32 651:33 652:34 653:230 655:220 657:230 65c:220
  65d:230 65f:220 660:0 670:35 671:0 6d6:230 6dd:0 6df:230 6e3:220 6e4:230 6e5:0 6e7:230 6e9:0
  6ea:220 6eb:230 6ed:220 6ee:0 711:36 712:0 730:230 731:220 732:230 734:220 735:230 737:220
  73a:230 73b:220 73d:230 73e:220 73f:230 742:220 743:230 744:220 745:230 746:220 747:230 748:220
  749:230 74b:0 7eb:230 7f2:220 7f3:230 7f4:0 7fd:220 7fe:0 816:230 81a:0 81b:230 824:0 825:230
  828:0 829:230 82e:0 859:220 85c:0 897:230 899:220 89c:230 8a0:0 8ca:230 8cf:220 8d4:230 8e2:0
  8e3:220 8e4:230 8e6:220 8e7:230 8e9:220 8ea:230 8ed:220 8f0:27 8f1:28 8f2:29 8f3:230 8f6:220
  8f7:230 8f9:220 8fb:230 900:0 93c:7 93d:0 94d:9 94e:0 951:230 952:220 953:230 955:0 9bc:7 9bd:0
  9cd:9 9ce:0 9fe:230 9ff:0 a3c:7 a3d:0 a4d:9 a4e:0 abc:7 abd:0 acd:9 ace:0 b3c:7 b3d:0 b4d:9
  b4e:0 bcd:9 bce:0 c3c:7 c3d:0 c4d:9 c4e:0 c55:84 c56:91 c57:0 cbc:7 cbd:0 ccd:9 cce:0 d3b:9
  d3d:0 d4d:9 d4e:0 dca:9 dcb:0 e38:103 e3a:9 e3b:0 e48:107 e4c:0 eb8:118 eba:9 ebb:0 ec8:122
  ecc:0 f18:220 f1a:0 f35:220 f36:0 f37:220 f38:0 f39:216 f3a:0 f71:129 f72:130 f73:0 f74:132
  f75:0 f7a:130 f7e:0 f80:130 f81:0 f82:230 f84:9 f85:0 f86:230 f88:0 fc6:220 fc7:0 1037:7 1038:0
  1039:9 103b:0 108d:220 108e:0 135d:230 1360:0 1714:9 1716:0 1734:9 1735:0 17d2:9 17d3:0 17dd:230
  17de:0 18a9:228 18aa:0 1939:222 193a:230 193b:220 193c:0 1a17:230 1a18:220 1a19:0 1a60:9 1a61:0
  1a75:230 1a7d:0 1a7f:220 1a80:0 1ab0:230 1ab5:220 1abb:230 1abd:220 1abe:0 1abf:220 1ac1:230
  1ac3:220 1ac5:230 1aca:220 1acb:230 1add:220 1ade:0 1ae0:230 1ae6:220 1ae7:230 1aeb:234 1aec:0
  1b34:7 1b35:0 1b44:9 1b45:0 1b6b:230 1b6c:220 1b6d:230 1b74:0 1baa:9 1bac:0 1be6:7 1be7:0 1bf2:9
  1bf4:0 1c37:7 1c38:0 1cd0:230 1cd3:0 1cd4:1 1cd5:220 1cda:230 1cdc:220 1ce0:230 1ce1:0 1ce2:1
  1ce9:0 1ced:220 1cee:0 1cf4:230 1cf5:0 1cf8:230 1cfa:0 1dc0:230 1dc2:220 1dc3:230 1dca:220
  1dcb:230 1dcd:234 1dce:214 1dcf:220 1dd0:202 1dd1:230 1df6:232 1df7:228 1df9:220 1dfa:218
  1dfb:230 1dfc:233 1dfd:220 1dfe:230 1dff:220 1e00:0 20d0:230 20d2:1 20d4:230 20d8:1 20db:230
  20dd:0 20e1:230 20e2:0 20e5:1 20e7:230 20e8:220 20e9:230 20ea:1 20ec:220 20f0:230 20f1:0
  2cef:230 2cf2:0 2d7f:9 2d80:0 2de0:230 2e00:0 302a:218 302b:228 302c:232 302d:222 302e:224
  3030:0 3099:8 309b:0 a66f:230 a670:0 a674:230 a67e:0 a69e:230 a6a0:0 a6f0:230 a6f2:0 a806:9
  a807:0 a82c:9 a82d:0 a8c4:9 a8c5:0 a8e0:230 a8f2:0 a92b:220 a92e:0 a953:9 a954:0 a9b3:7 a9b4:0
  a9c0:9 a9c1:0 aab0:230 aab1:0 aab2:230 aab4:220 aab5:0 aab7:230 aab9:0 aabe:230 aac0:0 aac1:230
  aac2:0 aaf6:9 aaf7:0 abed:9 abee:0 fb1e:26 fb1f:0 fe20:230 fe27:220 fe2e:230 fe30:0 101fd:220
  101fe:0 102e0:220 102e1:0 10376:230 1037b:0 10a0d:220 10a0e:0 10a0f:230 10a10:0 10a38:230
  10a39:1 10a3a:220 10a3b:0 10a3f:9 10a40:0 10ae5:230 10ae6:220 10ae7:0 10d24:230 10d28:0
  10d69:230 10d6e:0 10eab:230 10ead:0 10efa:220 10efc:0 10efd:220 10f00:0 10f46:220 10f48:230
  10f4b:220 10f4c:230 10f4d:220 10f51:0 10f82:230 10f83:220 10f84:230 10f85:220 10f86:0 11046:9
  11047:0 11070:9 11071:0 1107f:9 11080:0 110b9:9 110ba:7 110bb:0 11100:230 11103:0 11133:9
  11135:0 11173:7 11174:0 111c0:9 111c1:0 111ca:7 111cb:0 11235:9 11236:7 11237:0 112e9:7 112ea:9
  112eb:0 1133b:7 1133d:0 1134d:9 1134e:0 11366:230 1136d:0 11370:230 11375:0 113ce:9 113d1:0
  11442:9 11443:0 11446:7 11447:0 1145e:230 1145f:0 114c2:9 114c3:7 114c4:0 115bf:9 115c0:7
  115c1:0 1163f:9 11640:0 116b6:9 116b7:7 116b8:0 1172b:9 1172c:0 11839:9 1183a:7 1183b:0 1193d:9
  1193f:0 11943:7 11944:0 119e0:9 119e1:0 11a34:9 11a35:0 11a47:9 11a48:0 11a99:9 11a9a:0 11c3f:9
  11c40:0 11d42:7 11d43:0 11d44:9 11d46:0 11d97:9 11d98:0 11f41:9 11f43:0 1612f:9 16130:0 16af0:1
  16af5:0 16b30:230 16b37:0 16ff0:6 16ff2:0 1bc9e:1 1bc9f:0 1d165:216 1d167:1 1d16a:0 1d16d:226
  1d16e:216 1d173:0 1d17b:220 1d183:0 1d185:230 1d18a:220 1d18c:0 1d1aa:230 1d1ae:0 1d242:230
  1d245:0 1e000:230 1e007:0 1e008:230 1e019:0 1e01b:230 1e022:0 1e023:230 1e025:0 1e026:230
  1e02b:0 1e08f:230 1e090:0 1e130:230 1e137:0 1e2ae:230 1e2af:0 1e2ec:230 1e2f0:0 1e4ec:232
  1e4ee:220 1e4ef:230 1e4f0:0 1e5ee:230 1e5ef:220 1e5f0:0 1e6e3:230 1e6e4:0 1e6e6:230 1e6e7:0
  1e6ee:230 1e6f0:0 1e6f5:230 1e6f6:0 1e8d0:220 1e8d7:0 1e944:230 1e94a:7 1e94b:0"

/-- The combining class of a code point. -/
def combiningClass (x : Nat) : Nat := (combiningClasses.value? x).getD 0

/-- Whether a code point is a sign that takes the vowel of a letter away. -/
def isVirama (x : Nat) : Bool := combiningClass x == 9

end Deadwood.Text
