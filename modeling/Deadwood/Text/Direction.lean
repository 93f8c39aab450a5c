import Deadwood.Text.StepTable

/-!
# Directions of writing

The Unicode property Bidi_Class: in which direction a character is written, as far as it has one of
its own. Only the characters that can stand in names of hosts are told apart.
-/

namespace Deadwood.Text

/-- The direction of a character. -/
inductive Direction where
  /-- A letter written from left to right. -/
  | left
  /-- A letter written from right to left. -/
  | right
  /-- A letter of the Arabic kind, written from right to left. -/
  | arabic
  | arabicNumber
  | number
  /-- A sign before a number. -/
  | numberSign
  /-- A character between the digits of a number. -/
  | numberSeparator
  /-- A character before or after a number. -/
  | numberTerminator
  /-- A mark on the character before it. -/
  | mark
  /-- A character that is not shown. -/
  | boundary
  | neutral
  /-- A character that parts paragraphs or words, or directs others. -/
  | other
deriving DecidableEq, Repr, Inhabited

/-- The direction that letters stand for. -/
def Direction.ofList (cs : List Char) : Direction :=
  match String.ofList cs with
  | "L" => .left
  | "R" => .right
  | "AL" => .arabic
  | "AN" => .arabicNumber
  | "EN" => .number
  | "ES" => .numberSign
  | "CS" => .numberSeparator
  | "ET" => .numberTerminator
  | "ON" => .neutral
  | "BN" => .boundary
  | "NSM" => .mark
  | _ => .other

/-- Where the direction changes, with the direction from there on. -/
def directions : StepTable Direction := .ofString Direction.ofList "
  0:BN 9:X e:BN 1c:X 21:ON 23:ET 26:ON 2b:ES 2c:CS 2d:ES 2e:CS 30:EN 3a:CS 3b:ON 41:L 5b:ON 61:L
  7b:ON 7f:BN a1:ON a2:ET a6:ON b0:ET b6:ON df:L f7:ON f8:L 2b9:ON 2bb:L 2c2:ON 2d0:L 2d2:ON 2ee:L
  2ef:ON 300:NSM 371:L 375:ON 377:L 3f6:ON 3f8:L 483:NSM 48b:L 58a:ON 58f:ET 591:NSM 5be:R 5bf:NSM
  5c0:R 5c1:NSM 5c3:R 5c4:NSM 5c6:R 5c7:NSM 5d0:R 606:ON 608:AL 609:ET 60b:AL 60c:CS 60d:AL 60e:ON
  610:NSM 61b:AL 64b:NSM 660:AN 66a:ET 66b:AN 66d:AL 670:NSM 671:AL 6d6:NSM 6de:ON 6df:NSM 6e5:AL
  6e7:NSM 6e9:ON 6ea:NSM 6ee:AL 6f0:EN 6fa:AL 711:NSM 712:AL 730:NSM 74d:AL 7a6:NSM 7b1:AL 7c0:R
  7eb:NSM 7f4:R 7f6:ON 7fa:R 7fd:NSM 7fe:R 816:NSM 81a:R 81b:NSM 824:R 825:NSM 828:R 829:NSM 830:R
  859:NSM 85e:R 860:AL 897:NSM 8a0:AL 8ca:NSM 903:L 93a:NSM 93b:L 93c:NSM 93d:L 941:NSM 949:L
  94d:NSM 94e:L 951:NSM 960:L 962:NSM 964:L 981:NSM 982:L 9bc:NSM 9bd:L 9c1:NSM 9c7:L 9cd:NSM
  9ce:L 9e2:NSM 9e6:L 9f2:ET 9f4:L 9fb:ET 9fc:L 9fe:NSM a03:L a3c:NSM a3e:L a41:NSM a5c:L a70:NSM
  a72:L a75:NSM a76:L a81:NSM a83:L abc:NSM abd:L ac1:NSM ac9:L acd:NSM ad0:L ae2:NSM ae6:L af1:ET
  af9:L afa:NSM b02:L b3c:NSM b3d:L b3f:NSM b40:L b41:NSM b47:L b4d:NSM b57:L b62:NSM b66:L
  b82:NSM b83:L bc0:NSM bc1:L bcd:NSM bd0:L bf3:ON bf9:ET bfa:ON c00:NSM c01:L c04:NSM c05:L
  c3c:NSM c3d:L c3e:NSM c41:L c46:NSM c58:L c62:NSM c66:L c78:ON c7f:L c81:NSM c82:L cbc:NSM cbd:L
  ccc:NSM cd5:L ce2:NSM ce6:L d00:NSM d02:L d3b:NSM d3d:L d41:NSM d46:L d4d:NSM d4e:L d62:NSM
  d66:L d81:NSM d82:L dca:NSM dcf:L dd2:NSM dd8:L e31:NSM e32:L e34:NSM e3f:ET e40:L e47:NSM e4f:L
  eb1:NSM eb2:L eb4:NSM ebd:L ec8:NSM ed0:L f18:NSM f1a:L f35:NSM f36:L f37:NSM f38:L f39:NSM
  f3a:ON f3e:L f71:NSM f7f:L f80:NSM f85:L f86:NSM f88:L f8d:NSM fbe:L fc6:NSM fc7:L 102d:NSM
  1031:L 1032:NSM 1038:L 1039:NSM 103b:L 103d:NSM 103f:L 1058:NSM 105a:L 105e:NSM 1061:L 1071:NSM
  1075:L 1082:NSM 1083:L 1085:NSM 1087:L 108d:NSM 108e:L 109d:NSM 109e:L 135d:NSM 1360:L 1390:ON
  13a0:L 1400:ON 1401:L 169b:ON 16a0:L 1712:NSM 1715:L 1732:NSM 1734:L 1752:NSM 1760:L 1772:NSM
  1780:L 17b7:NSM 17be:L 17c6:NSM 17c7:L 17c9:NSM 17d4:L 17db:ET 17dc:L 17dd:NSM 17e0:L 17f0:ON
  1810:L 1885:NSM 1887:L 18a9:NSM 18aa:L 1920:NSM 1923:L 1927:NSM 1929:L 1932:NSM 1933:L 1939:NSM
  1940:ON 1946:L 19de:ON 1a00:L 1a17:NSM 1a19:L 1a1b:NSM 1a1e:L 1a56:NSM 1a57:L 1a58:NSM 1a61:L
  1a62:NSM 1a63:L 1a65:NSM 1a6d:L 1a73:NSM 1a80:L 1ab0:NSM 1b04:L 1b34:NSM 1b35:L 1b36:NSM 1b3a:L
  1b42:NSM 1b43:L 1b6b:NSM 1b74:L 1b80:NSM 1b82:L 1ba2:NSM 1ba6:L 1ba8:NSM 1baa:L 1bab:NSM 1bae:L
  1be6:NSM 1be7:L 1be8:NSM 1bea:L 1bed:NSM 1bee:L 1bef:NSM 1bf2:L 1c2c:NSM 1c34:L 1c36:NSM 1c3b:L
  1cd0:NSM 1cd3:L 1cd4:NSM 1ce1:L 1ce2:NSM 1ce9:L 1ced:NSM 1cee:L 1cf4:NSM 1cf5:L 1cf8:NSM 1cfa:L
  1dc0:NSM 1e01:L 200c:BN 2010:ON 2030:ET 2035:ON 2044:CS 2045:ON 20a0:ET 20d0:NSM 2104:ON 212e:ET
  213a:ON 214e:L 218a:ON 2212:ES 2213:ET 2214:ON 2336:L 237b:ON 2395:L 2396:ON 26ac:L 26ad:ON
  2800:L 2900:ON 2c30:L 2ce5:ON 2cec:L 2cef:NSM 2cf3:L 2cf9:ON 2d00:L 2d7f:NSM 2d80:L 2de0:NSM
  2e00:ON 3005:L 3008:ON 3021:L 302a:NSM 302e:L 3030:ON 3031:L 3037:ON 303b:L 303d:ON 3041:L
  3099:NSM 309d:L 30a0:ON 30a1:L 30fb:ON 30fc:L 31c0:ON 31f0:L 4dc0:ON 4e00:L a490:ON a4d0:L
  a60d:ON a610:L a66f:NSM a673:ON a674:NSM a67e:ON a681:L a69e:NSM a6a0:L a6f0:NSM a6f2:L a700:ON
  a723:L a788:ON a789:L a802:NSM a803:L a806:NSM a807:L a80b:NSM a80c:L a825:NSM a827:L a828:ON
  a82c:NSM a830:L a838:ET a840:L a874:ON a880:L a8c4:NSM a8ce:L a8e0:NSM a8f2:L a8ff:NSM a900:L
  a926:NSM a92e:L a947:NSM a952:L a980:NSM a983:L a9b3:NSM a9b4:L a9b6:NSM a9ba:L a9bc:NSM a9be:L
  a9e5:NSM a9e6:L aa29:NSM aa2f:L aa31:NSM aa33:L aa35:NSM aa40:L aa43:NSM aa44:L aa4c:NSM aa4d:L
  aa7c:NSM aa7d:L aab0:NSM aab1:L aab2:NSM aab5:L aab7:NSM aab9:L aabe:NSM aac0:L aac1:NSM aac2:L
  aaec:NSM aaee:L aaf6:NSM ab01:L ab6a:ON abc0:L abe5:NSM abe6:L abe8:NSM abe9:L abed:NSM abf0:L
  fb1e:NSM fbb2:AL fbc3:ON fe20:NSM fe45:ON fe73:AL 10000:L 10101:ON 10102:L 10140:ON 1018d:L
  10190:ON 101d0:L 101fd:NSM 10280:L 102e0:NSM 102e1:EN 10300:L 10376:NSM 10380:L 10800:R 1091f:ON
  10920:R 10a01:NSM 10a10:R 10a38:NSM 10a40:R 10ae5:NSM 10aeb:R 10b39:ON 10b40:R 10d00:AL
  10d24:NSM 10d30:AN 10d4a:R 10d69:NSM 10d6e:ON 10d6f:R 10e60:AN 10e80:R 10eab:NSM 10ead:R
  10ec2:AL 10ed0:ON 10efa:NSM 10f00:R 10f30:AL 10f46:NSM 10f51:AL 10f70:R 10f82:NSM 10f86:R
  11000:L 11001:NSM 11002:L 11038:NSM 11047:L 11052:ON 11066:L 11070:NSM 11071:L 11073:NSM 11075:L
  1107f:NSM 11082:L 110b3:NSM 110b7:L 110b9:NSM 110bb:L 110c2:NSM 110d0:L 11100:NSM 11103:L
  11127:NSM 1112c:L 1112d:NSM 11136:L 11173:NSM 11174:L 11180:NSM 11182:L 111b6:NSM 111bf:L
  111c9:NSM 111cd:L 111cf:NSM 111d0:L 1122f:NSM 11232:L 11234:NSM 11235:L 11236:NSM 11238:L
  1123e:NSM 1123f:L 11241:NSM 11280:L 112df:NSM 112e0:L 112e3:NSM 112f0:L 11300:NSM 11302:L
  1133b:NSM 1133d:L 11340:NSM 11341:L 11366:NSM 11380:L 113bb:NSM 113c2:L 113ce:NSM 113cf:L
  113d0:NSM 113d1:L 113d2:NSM 113d3:L 113e1:NSM 11400:L 11438:NSM 11440:L 11442:NSM 11445:L
  11446:NSM 11447:L 1145e:NSM 1145f:L 114b3:NSM 114b9:L 114ba:NSM 114bb:L 114bf:NSM 114c1:L
  114c2:NSM 114c4:L 115b2:NSM 115b8:L 115bc:NSM 115be:L 115bf:NSM 115c1:L 115dc:NSM 11600:L
  11633:NSM 1163b:L 1163d:NSM 1163e:L 1163f:NSM 11641:L 11660:ON 11680:L 116ab:NSM 116ac:L
  116ad:NSM 116ae:L 116b0:NSM 116b6:L 116b7:NSM 116b8:L 1171d:NSM 1171e:L 1171f:NSM 11720:L
  11722:NSM 11726:L 11727:NSM 11730:L 1182f:NSM 11838:L 11839:NSM 1183b:L 1193b:NSM 1193d:L
  1193e:NSM 1193f:L 11943:NSM 11944:L 119d4:NSM 119dc:L 119e0:NSM 119e1:L 11a01:NSM 11a07:L
  11a09:NSM 11a0b:L 11a33:NSM 11a39:L 11a3b:NSM 11a3f:L 11a47:NSM 11a50:L 11a51:NSM 11a57:L
  11a59:NSM 11a5c:L 11a8a:NSM 11a97:L 11a98:NSM 11a9a:L 11b60:NSM 11b61:L 11b62:NSM 11b65:L
  11b66:NSM 11b67:L 11c30:NSM 11c3e:L 11c92:NSM 11ca9:L 11caa:NSM 11cb1:L 11cb2:NSM 11cb4:L
  11cb5:NSM 11d00:L 11d31:NSM 11d46:L 11d47:NSM 11d50:L 11d90:NSM 11d93:L 11d95:NSM 11d96:L
  11d97:NSM 11d98:L 11ef3:NSM 11ef5:L 11f00:NSM 11f02:L 11f36:NSM 11f3e:L 11f40:NSM 11f41:L
  11f42:NSM 11f43:L 11f5a:NSM 11fb0:L 11fd5:ON 11fdd:ET 11fe1:ON 11fff:L 13440:NSM 13441:L
  13447:NSM 13460:L 1611e:NSM 1612a:L 1612d:NSM 16130:L 16af0:NSM 16af5:L 16b30:NSM 16b37:L
  16f4f:NSM 16f50:L 16f8f:NSM 16f93:L 16fe2:ON 16fe3:L 16fe4:NSM 16ff0:L 1bc9d:NSM 1bc9f:L
  1cc00:ON 1cf00:NSM 1cf50:L 1d167:NSM 1d16a:L 1d17b:NSM 1d183:L 1d185:NSM 1d18c:L 1d1aa:NSM
  1d1ae:L 1d1e9:ON 1d242:NSM 1d245:ON 1d2c0:L 1d300:ON 1d360:L 1da00:NSM 1da37:L 1da3b:NSM 1da6d:L
  1da75:NSM 1da76:L 1da84:NSM 1da85:L 1da9b:NSM 1df00:L 1e000:NSM 1e100:L 1e130:NSM 1e137:L
  1e2ae:NSM 1e2c0:L 1e2ec:NSM 1e2f0:L 1e2ff:ET 1e4d0:L 1e4ec:NSM 1e4f0:L 1e5ee:NSM 1e5f0:L
  1e6e3:NSM 1e6e4:L 1e6e6:NSM 1e6e7:L 1e6ee:NSM 1e6f0:L 1e6f5:NSM 1e6fe:L 1e800:R 1e8d0:NSM
  1e922:R 1e944:NSM 1e94b:R 1ec71:AL 1eef0:ON 1f150:L 1f16d:ON 1f170:L 1f1ad:ON 1f1e6:L 1f260:ON
  20000:L"

/-- The direction of a code point. -/
def direction (x : Nat) : Direction := (directions.value? x).getD .other

end Deadwood.Text
