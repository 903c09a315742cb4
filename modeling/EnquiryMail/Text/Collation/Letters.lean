/-
Letters, digits and signs in the order of dictionaries, ideographs apart: white space, punctuation, general signs,
currency signs and digits come before the letters, which go from script to script. Only what is told apart by more than
accent and form stands here. `41+19` is a code point, in hexadecimal digits, with as many behind it as follow the plus
sign.
-/

namespace EnquiryMail.Text

/-- letters, digits and signs in their order -/
def Collation.letterTable : List String :=
  ["9+4 85 2028+1 20 203e 5f 2017 2d 58a 1400 1b60 1806+1 10d6e 2010 2012+3 2e3a+1 2053 2e43 2e17 2e40 2e5d",
   "301c 3030 30a0 30fb 10ead 2c 2e34 2e32 2e41 2e4c 2e4e+1 55d 60c+1 66b+1 7f8 1802 1808 a4fe a60d a6f5 16e97",
   "3001 fe45+1 16fe2 3b 61b 204f 2e35 a6f6 2e49 3a 589 61e 703+5 830+e 1361 1363+3 1804+1 f14 17d6 1b5d a9c7",
   "16eb+2 a6f4 21 a1 2e53 55c 7f9 1944 1e95e 3f bf 2e2e 2e54 55e 61f 709 1367 1945 2cfa+1 a60f a6f7 aaf1",
   "11143 1e95f 203d 2e18 2e 1801 6d4 701+1 1362 1803 1809 166e 1b5c 2cf9 2cfe 2e30 2e3c a4ff a60e a6f3 16af5",
   "16e98 1bc9f 3002 b7 2e31 2e33 964+1 a8ce+1 1c3b+1 a876+1 1735+1 a92f 104a+1 17d4+1 1aa8+3 1b5e 1b4e 1b5f",
   "1b4f a9c8+1 aa5d+2 aaf0 abeb 10a56+1 11047+1 110c0+1 11141+1 111c5+1 11238+1 113d4+1 1144b+1 115c2+1",
   "11641+1 1173c+1 11944 11c41+1 11f43+1 16a6e+1 16d6e+1 1c7e+1 61d 10ed0 700 7f7 10fb 1360 1368 1a1e+1 1b5a",
   "1b7f 1b5b 1b7d+1 a9c1+5 a9ca+3 a6f2 a95f 10857 10b3a+5 10f55+4 10f86+3 110be+1 11140 111c8 111de+1 112a9",
   "1173e 11946 11ef7+1 11f45+a 2055+1 2058+6 2e2a+3 2e3d 2cfc 2cff 2e19 1093f 10100+2 1039f 103d0 1091f",
   "12470+4 12ff1+1 27 2039+1 22 ab bb 28+1 5b 5d 7b 7d f3a+3 169b+1 2045+1 2308+3 29fc+1 2983+15 27c5+1",
   "27e6+9 2768+d 2e02+3 2e09+1 2e0c+1 2e1c+1 2e20+9 2e55+7 3008+9 3014+7 fd3e+1 2016 2e3e 29d8+3 a7 2e39 b6",
   "204b 2e4d 2e3f 40 2a 204e 2051 66d a673 2f 5c 2e4a 26 204a 2e52 23 25 66a 2030 609 2031 60a 2020+1 2e36+2",
   "2e4b 2022+1 2027 2043 204c+1 2032 2035 3003 303d 2038 203b 203f 2054 2040 2050 2041+1 2e00+1 2e06+2 2e0b",
   "2e0e+8 2e1a+1 2e1e+1 2e44+4 a67e 55a+1 55f 5be 5c0 5c3 5c6 70a+3 85e 1800 11660+c 970 a8f8+2 a8fc 11b00+9",
   "9fd a76 af0 c77 c84 df4 e4f e5a+1 aade+1 f04+6 fd0+1 f0b f0d+5 f85 fd2+2 fd9+1 11a3f+7 11a9a+2 11a9e+4",
   "11c70+1 1c3d+2 104c+3 17d8+2 1aa0+6 1aac+1 1cc0+7 2d70 a874+1 1bfc+3 a92e a9de+1 aa5c 1056f 11049+4",
   "10a50+5 10a58 11c43+2 10b39 10a7f 10af0+6 10b99+3 110bb+1 11174+1 111cd 111c7 111db 111dd 1123a+3 113d7+1",
   "1144d 1145a 1144e+1 1145b 1145d 114c6 115c1 115c4+13 11643 116b9 1183b 11945 119e2 11be1 11fff 16b37+4",
   "16b44 16d6d 16e99+1 1da87+4 1e5ff 60 b4 2dc 5e af 2d8+1 a8 2da 2dd b8 2db 1fbd 1ffe 1fc0 309b+1 2b9 375",
   "2ba 2c2+d 2d2+3 ab6a+1 2d6+1 2de+1 2e5+8 2ef+10 1390+9 a700+21 a788+2 ab5b 1aff0+3 1aff5+6 1affd+1 b0 482",
   "58d+1 608 1eef0+1 60e+1 6de 6e9 fbc3+f fd40+f fd90+1 fdc8+7 fdfd+2 10ed1+7 888 fbb2+10 7f6 9fa b70 bf3+5",
   "bfa 11fd5+7 11fe1+10 c7f d4f d79 a828+3 a836+1 a839 f01+2 f13 f15+2 f1a+5 f34 f36 f38 fbe+7 fc7+5 fce+1",
   "fd5+3 166d 1940 109e+1 aa77+2 1173f 19e0+1f 1b61+9 1b74+8 a9 1f12f ae 1f1ad 2104 2108 2114 2117+1 211e+1",
   "2123 2125 2127 2129 212e 213a 2141+3 214a 214c 214f 218a+1 2190 2192 2191 2193+6 219c+11 21af+1d 21d0+33",
   "2205+3 220a+1 220d 3f6 220e+3 2b 10d8e b1 f7 d7 3c+2 ac 7c a6 7e 2212 2052 10d8f 2213+2 2044 2216+5 606",
   "221c 607 221d+6 2225 2227+4 222e 2231+f 2242+1 2245+1 2248 224a+15 2261 2263+9 2272+1 2276+1 227a+5 2282+1",
   "2286+1 228a+21 22b0+c 214b 22bd+22 22e4+5 22ee+19 230c+1c 232b+fe 2440+a 2500+ff 1cc00+d5 1ccfa+2",
   "1cd00+1b3 1ceba+16 1cee0+10 1fb00+92 1fb94+5b 1fbfa 2600+2f 2638+34 2670+19 2690+6f 1f1e6+19 2700+20",
   "2e50+1 2721+46 2794+30 27c7+1e 27f0+f 2900+82 2999+3e 29dc+1f 29fe+d 2a0d+66 2a77+64 2add+96 2b76+89",
   "2ce5+5 2800+ff 268a+5 2630+7 4dc0+3f 1d300+56 a490+36 10137+8 10179+10 1018c+2 10190+c 101a0 101d0+2c",
   "10877+1 16b3c+3 16b45 1e14f 1cf50+73 1d000+f5 1d100+26 266d+2 1d12a+f 1d129 1d13a+23 1d16a+2 1d183+1",
   "1d18c+1d 1d1ae+c 1d1c1+29 1d200+41 1d245 1bc9c 1ecac 1ed2e 1f000+2b 1f030+63 1f0a0+e 1f0b1+e 1f0c1+e",
   "1f0d1+24 1fa00+57 1fa60+d 1f10d+2 1f16d+2 1f260+5 1f300+2ff 1f900+ff 1fa70+c 1fa80+a 1fa8e+38 1fac8",
   "1facd+f 1fadf+b 1faef+9 1f600+d8 1f6dc+10 1f6f0+c 1f700+d9 1f7e0+b 1f7f0 1f800+b 1f810+37 1f850+9 1f860+27",
   "1f890+1d 1f8b0+b 1f8c0+1 1f8d0+8 1d800+1ff 1da37+3 1da6d+7 1da76+d 1da85+1 2ff0+f 31ef 31c0+25 3004 3012+1",
   "3020 3037 303e+1 3190+1 327f fffc 2d0+1 971 e46 ec6 17d7 1aa7 a9cf a9e6 aa70 aadd aaf3+1 10d6f 16b42+1",
   "1e13c+1 1e6ff 3005 303b 16fe0+1 16fe3 3031 3033 3035 309d 30fc+1 a4 a2 24 a3 a5 58f 60b 7fe+1 9f2+1 9fb",
   "af1 a838 bf9 11fdd+3 e3f 17db 1e2ff 20a0+6 20a9+10 1ecb0 20ba+7 30+9 16ff4+2 9f4+5 b72+5 a830+5 bf0+2",
   "11fc0+14 d58+6 d70+8 1372+a 2180+2 2186+2 10e69+15 2cfd 10322+1 10cfc+3 10110+23 10140+1 10144+3 10149+5",
   "10150+7 10160+12 10174+4 1018b 102ea+11 103d3+2 1087e+1 108ad+2 108fd+2 10a7e 10a9e+1 10917+2 1085b+4",
   "10aed+2 10b5c+3 10b7c+3 10bad+2 10f22+4 10f52+2 10fc9+2 1173a+1 1105b+a 10a44+4 11c63+9 111ea+a 118ea+8",
   "16b5b+6 16e8a+9 1d2ca+9 1d2ea+9 1ec7a+28 1ecad+2 1ecb3+1 1ed0a+23 1ed37+6 109c9+6 109d2+23 109bd 109f6+9",
   "109bc 12432+1 1245a+e 1d369+8 61 1d00 2c65 1d8f a7bb 1d01+1 ab31 250+1 ab30 1d90 252 ab64 62 299 180 1d2f",
   "1d03 1d6c a797 1d80 253 183 a7b5 63 1d04 23c a793+1 1df1d 188 255 2184 a73f 64 1d05+1 a7c8 1d6d 1d81 256+1",
   "1df25 1d91 18c 221 a771 1e9f 65 1d07 ab32+1 247 1d92 ab34 2c78 1dd 2c7b 259 1d95 25b 1d93 258 25a 25c 1d94",
   "1d08 25d+1 29a 264 66 a730 ab35 a799 1d6e 1d82 192 214e a7fb 67 a7d1 261 1df01 ab36 262 1e5 1d83 260 29b",
   "1d77 1df02 a77f 263 1a3 68 29c 195 a795 266 2c68 2c76 a7f6 a727 267 2bb 2bd 69 131 26a a7fe a7f7 1d09 268",
   "1d7b 1df1a 1d96 a7bd 269 1d7c 6a 237 1d0a 249 29d 25f 284 6b 1d0b 1d84 199 2c6a a741 a743 a745 1df03 29e",
   "1df10 6c 29f a747 1d0c a749 19a 2c61 26b ab38+1 26c 1df04 1df13 ab37 1d85 26d 1df26 a78e 1df11 234 a772",
   "26e 1df05 a781 a7db 19b 28e 1df06 6d 1d0d 1d6f 1d86 271 ab3a a7fd a7ff a773 6e 274 1d3b 1d0e 1d70 272 19e",
   "a791 1d87 273 1df27 235 ab3b a774 14b ab3c 1df14 1df07 6f 1d0f 1d11 ab3d 276 1d14 ab41+1 ab40 ab43+1 1d13",
   "ab3e 1df1b 254 1d10 1d12 ab3f 1d97 ab62 a74d 1d16+1 2c7a 275 a74b 277 a7b7 223 1d15 70 1d18 1d7d a751 1d71",
   "1d88 1a5 a753 a755 a7fc 278 2c77 71 a7af a757 a759 2a0 24b 138 72 ab45 280 ab46 1d19 24d 1d72 279 1d1a 27a",
   "1df08 27b 2c79 1d89 27c+1 1df28 ab49 27e 1d73 1df16 27f ab47+1 ab4a+2 281 ab68 1df15 a775+1 a75d 73 a731",
   "a7ca a7cd 1d74 1d8a 282 1df29 1df1e 23f a7d7 1e9c+1 283 ab4d 1d8b 1d98 1aa 285+1 1df0b+1 74 1d1b 167 2c66",
   "1d75 1ab 1ad 288 1df2a 1df09 236 a777 287 1df0d 75 1d1c ab4e 1d1d+1 1d6b ab50+1 289 ab4f a7b9 1d7e 1d99",
   "ab52 a7bf 265 2ae+1 26f a7fa 1d1f 270 28a 1d7f 76 1d20 a75f 1d8c 28b 2c71 2c74 1efd 28c 77 1d21 2c73 28d",
   "78 1d8d ab56+3 ab53+2 79 28f 24f 1b4 1eff ab5a 21d 7a 1d22 1b6 1d76 1d8e 225 290+1 240 2c6c a763 292 1d23",
   "1b9 1df18 1d9a 1ba 293 fe a7d3 a765 a767 1bf a7d5 a769 ab60+1 ab63 a76b a76d a76f a778 1bb a72b a72d a72f",
   "1a8 1bd 185 294 242 2c0 2bc 2ee 2be a723 a78c a78f 295 a7cf 2bf 2c1 1d24+1 a725 2a1+1 296 1df0e 1c0+3",
   "1df0a 297 1df0f 298 2ac+1 3b1+2 1d26 3b4+1 3dd 377 3db 3b6 371 3b7+2 3f3 3ba+1 1d27 3bc+4 1d28 3fb 3df 3d9",
   "3c1 1d29 3fc 3c3 37c 37b 37d 3c4+4 1d2a 3c9 ab65 3e1 373 3f8 2c81 2c83 2c85 2c87 2c89 2cb7 2c8b 2c8d 2c8f",
   "2c91 2c93 2c95 2cb9 2c97 2c99 2c9b 2cbb 2cbd 2c9d 2c9f 2ca1 2ca3 2ca5 2ca7 2ca9 2cab 2cad 2caf 2cb1 2cbf",
   "2cc1 3e3 2cec 2cc3 2cc5 2cc7 3e5 3e7 2cf3 2cc9 3e9 2ccb 2ccd 2ccf 2cd1 2cd3 2cd5 3eb 2cee 2cd7 3ed 2cd9",
   "2cdb 2cdd 3ef 2cb3 2cb5 2cdf 2ce1 2ce3 430 4d9 4d5 431+2 493 4fb 495 4f7 434 501 a681 452 a663 503 499 435",
   "454 436 52b a685 497 437 a641 505 511 a643 455 a645 4e1 a689 507 a683 438 48b 456 a647 439 458 a649 43a",
   "49b 4c4 4a1 49f 49d 51f 51b 43b 1d2b 4c6 52f 513 521 459 a665 509 515 43c 4ce a667 43d 529 4ca 4a3 4c8 523",
   "4a5 45a 50b 43e 4e9 43f 525 4a7 481 440 48f 517 441 50d 4ab 442 a68d 1c8a 50f 4ad a68b 45b 443 4af 4b1",
   "a64b 479 444+1 4fd 4ff 4b3 4bb 527 a695 461 47f a64d 47d 47b 446 a661 a68f 4b5 a691 447 52d a693 4b7 4cc",
   "4b9 a687 4bd 4bf 45f 448 a697 449 a64f 2e2f a67f 44a a651 44b+1 48d 463 a653 44d+1 a655 a657 44f 519 465",
   "467 a659 46b a65b 469 a65d 46d 46f 471 473 475 a65f 4a9 51d 4cf 2c30+2f 10350+25 10d0 2d00 10d1 2d01 10d2",
   "2d02 10d3 2d03 10d4 2d04 10d5 2d05 10d6 2d06 10f1 2d21 10d7 2d07 10d8 2d08 10d9 2d09 10da 2d0a 10db 2d0b",
   "10dc 2d0c 10f2 2d22 10dd 2d0d 10de 2d0e 10df 2d0f 10e0 2d10 10e1 2d11 10e2 2d12 10f3 2d23 10e3 2d13 10e4",
   "2d14 10e5 2d15 10e6 2d16 10e7 2d17 10e8 2d18 10e9 2d19 10ea 2d1a 10eb 2d1b 10ec 2d1c 10ed 2d1d 10ee 2d1e",
   "10f4 2d24 10ef 2d1f 10f0 2d20 10f5 2d25 10f6+1 2d27 10f8+2 10fd 2d2d 10fe+1 561 560 562+13 588 576+10 559",
   "5d0+9 5db+1 5de 5e0+2 5e4 5e6+4 10900+15 800+17 81a+1 621+2 672 671 624+1 673 773+1 626 8a8+1 8ac 627 66e",
   "628 67b 67e 680 750+5 8a0 756 8be 8a1 8b6+1 629+2 679+1 67c+1 67f 8b8 8bf+1 62c 683+1 88a 686 6bf 687 8a2",
   "8c1 8c5+1 62d+1 681+1 685 757+1 76e+1 772 77c 62f+1 688+5 8ae 68e+2 6ee 10ec2 759+1 631+1 691+8 6ef 75b",
   "76b+1 771 8aa 8b2 8b9 633+1 69a+2 6fa 75c 76d 770 77d+1 635+1 69d 8af 69e 6fb 637+1 69f 8a3 88b+1 10ec3",
   "639+1 6a0 8c3 6fc 75d+2 8b3 641 6a1+1 8bb 6a3+1 8a4 6a5+1 760+1 66f 642 6a7 8bc 6a8 8c4 8a5 8b5 643 6a9+3",
   "77f 6ad+1 8b4 10ec4 6af 8b0 8c8 6b0+4 762 63b 88d 63c 763+1 8c2 644 6b5+3 76a 8a6 8c7 645 765+1 8a7 646",
   "6ba 8bd 6bb+1 88f 6bd 6b9 767+2 889 647 6be 6c1 6c3 6ff 6d5 648 6c4+7 8b1 6cf 778+1 8ab 649+1 6cc+2 6d0+1",
   "10ec7 63d+2 620 775+2 8ba 6d2 77a+1 88e 710 712+1 716 715 717+2 74d 71a+1 71d+2 74e 720+3 725+1 74f 728+4",
   "860+a 840+18 780 799+1 781+2 79c 784+3 7a2+1 788 7a5 789+2 79b 78c 798 7a0+1 78d+1 7a4 78f+1 79d+2 791+6",
   "7b1 7a6+a 7ca+1d 7f4+1 2d30+b 2d66 2d3c+17 2d67 2d54+11 2d6f 1200+f 2d80 1210+f 1380 1e7ed 1381 1e7ee",
   "1382+1 2d81 1220+f 2d82 1230+7 2d83 ab01+5 1238+7 2d84 1240+8 1e7f0 124a+1 1e7f1 124c 1e7f2 124d 1250+6",
   "1258 125a+3 1260+7 1384 1e7f3 1385 1e7f4 1386+1 2d85 1268+f 2d86 1278+7 2d87 1280+8 128a+3 1290+7 2d88",
   "1298+7 2d89 12a0+7 2d8a 12a8+8 1e7f5 12b2+1 1e7f6 12b4 1e7f7 12b5 12b8+6 1e7e8 12c0 1e7e9 12c2+1 1e7ea",
   "12c4 1e7eb 12c5 12c8+e 12d8+7 2d8b ab11+5 12e0+17 2d8c ab09+5 12f8+7 2d8d 1300+7 2d8e 1308+8 1e7f8 1312+1",
   "1e7f9 1314 1e7fa 1315 1318+7 2d93+3 1320+7 2d8f 1328+7 2d90 ab20+6 1330+7 2d91 1338+7 ab28+6 1340+f 1388",
   "1e7fb 1389 1e7fc 138a+1 1350+7 138c 1e7fd 138d 1e7fe 138e+1 2d92 1358+2 2da0+6 2da8+6 2db0+6 2db8+6 2dc0+6",
   "2dc8+6 1e7e0 2dd0 1e7e1 2dd1 1e7e2 2dd2 1e7e3 2dd3 1e7e4 2dd4 1e7e5 2dd5 1e7e6 2dd6 2dd8+6 950 a8fd 972",
   "904+2 973+4 907+4 960 90c 961 90d+3 a8fe 911+6 97b 918+4 979 97c 91d+3 978 921 97e 922+6 92a+2 97f 92d+2",
   "97a 930 932+1 935+4 93d 97d 1ce9 1cf5+1 a8f2 a8fb 93e 93a+1 94f 956+1 93f+5 962+1 945 955 946+1 94e 948",
   "a8ff 949+4 980 985+6 9e0 98c 9e1 98f+1 993+15 9aa+6 9f0 9b2 9f1 9b6+3 9bd+7 9e2+1 9c7+1 9cb+2 9d7 9fc a74",
   "a73 a09+1 a13 a05+1 a10 a14 a72 a07+1 a0f a38+1 a51 a15+13 a2a+5 a75 a30 a32 a35 a5c a3e+4 a47+1 a4b+2 ad0",
   "a85+6 ae0 a8c ae1 a8d a8f+2 a93+9 af9 a9d+b aaa+6 ab2 ab5+4 ab3 abd+7 ae2+1 ac5 ac7+2 acb+2 b05+6 b60 b0c",
   "b61 b0f+1 b13+15 b2a+5 b5f b30 b32+1 b35 b71 b36+3 b3d+7 b62+1 b47+1 b4b+2 b56+1 bd0 b85+5 b8e+2 b92+2 b83",
   "b95 b99+1 b9e+1 ba3+1 ba8 baa bae+2 bb2 bb5 bb4 bb3 bb1 ba9 b9c bb6+3 bbe+4 bc6+2 bca+3 bd7 c05+6 c60 c0c",
   "c61 c0e+2 c12+8 c58 c1b+1 c59 c1d+b c2a+8 c35+4 c33+1 c5a c3d+7 c62+1 c46+2 c4a+3 c55+1 c85+6 ce0 c8c ce1",
   "c8e+2 c92+16 caa+8 cb5+4 cb3 cde cbd cf1+1 c80 cbe+6 ce2+1 cc6+2 cca+3 cd5+1 d05+3 d5f d09+2 d60 d0c d61",
   "d0e+2 d12+1e d32 d35+4 d33+1 d31 d3a d3d d04 d3e+6 d62+1 d46+2 d4a+2 d57 d4d d85+11 d9a+17 db3+8 dbd dc0+6",
   "dcf+5 dd6 dd8 df2 ddf df3 dd9+5 dca aaf2 abc0+1a aae0+a abe3+7 aaeb+4 aaf5 abdb+7 abed aaf6 a800+6 a82c",
   "a807+3 a80c+1b a882+42 11083+16 1109b 1109d+d 110ac+8 110c2 110b5+4 11150+1f 11176 11170+2 111c4 111da",
   "11183+2f 111c1+2 111dc 111b3+9 111ce 111bd+2 11b60+7 111c0 11200+1 11240 11202+6 1123f 11209+8 11213+1c",
   "11241 11230+3 11235 112b0+2e 112e0+8 112ea 11280+3 112a5+1 11284+2 11288 1128a+3 1128f+e 1129f+5 112a7+1",
   "11350 11305+6 11360 1130c 11361 1130f+1 11313+15 1132a+6 11332+1 11335+4 1133d 1135e+1 1133e+6 11362+1",
   "11347+1 1134b+2 11357 1135d 11380+9 1138b 1138e 11390+1c 113d1 113ad+5 113b4 113b3 113b5 113b7+9 113c2",
   "113c5 113c7+1 113ce 113d0 113c9 113d3 11449+1 11400+34 11447 11460+1 11448 1145f 11435+d 114c7 11480+2f",
   "114c4+1 114b0+e 114c2 11580+35 115b8+3 115bf 11600+3c 1163f 11644 11680+9 116a8 116a7 116a9 1168a+1 116b8",
   "1168c+1a 116aa 116ad+9 11900+6 11909 1190c+4 1193f 11911+2 11915+1 11918+d 11940 11926 11941 11927 11942",
   "11928+d 11937+1 1193d+1 119a0+7 119aa+26 119e1 119e3 119d1+6 119da 119e4 119db+2 119e0 11800+36 11839",
   "11700+4 11706+f 11717+2 11740+6 11720+b 1171d+2 11d00+6 11d08+1 11d0b+2b 11d3a 11d3c+1 11d3f 11d44+1 11d98",
   "11d60+5 11d67+1 11d6a+24 11d90+1 11d93+1 11d97 11db0+28 11ddb 11dd9+1 1b83+7 1bae 1b8b+d 1bbd 1b99 1bac",
   "1b9a 1ba1 1b9b 1ba2 1bbb 1b9c 1ba3 1bbc 1b9d 1bad 1b9e+1 1baf 1ba0 1ba4+7 11005+9 11071 1100f+1 11072",
   "11011+22 11003+1 11034+1 11075 11036+b 11073 11042+1 11074 11044+2 1107f 11070 10a00+3 10a05+1 10a0c 10a10",
   "10a32 10a11+2 10a15+2 10a19+1 10a34 10a1b 10a33 10a1c+10 10a35 10a2d+4 10a3f 11c00+8 11c0a+24 11c40",
   "11c2f+7 11c38+3 11c3f e01+39 e40+5 ede e81+1 e84 e86+3 eaa e8a e8c e8e edf e8d e8f+14 ea5 ea7+2 eab+12",
   "ec0+4 aa80+3e aac0 aac2 aadb+1 f40 f90 f6b f41 f91 f42 f92 f44 f94 f45 f95 f46 f96 f47 f97 f49 f99 f4a f9a",
   "f4b f9b f4c f9c f4e f9e f4f f9f f50 fa0 f51 fa1 f53 fa3 f54 fa4 f55 fa5 f56 fa6 f58 fa8 f59 fa9 f5a faa",
   "f5b fab f5d fad f5e fae f5f faf f60 fb0 f61 fb1 f62 fb2 f6c f63 fb3 f64 fb4 f65 fb5 f66 fb6 f67 fb7 f68",
   "fb8 f88 f8d f89 f8e f8c f8f f8a+1 f71+2 f80+1 f74+9 f84 11a0b 11a32 11a0c+25 11a00+a 11a34 11a47 11a50+3",
   "11a59+1 11a54 11a56 11a55 11a57+1 11a5b+1 11a83 11a5d+25 11a84+1 11a99 11a9d 11c72 11c92 11c73 11c93 11c74",
   "11c94 11c75 11c95 11c76 11c96 11c77 11c97 11c78 11c98 11c79 11c99 11c7a 11c9a 11c7b 11c9b 11c7c 11c9c",
   "11c7d 11c9d 11c7e 11c9e 11c7f 11c9f 11c80 11ca0 11c81 11ca1 11c82 11ca2 11c83 11ca3 11c84 11ca4 11c85",
   "11ca5 11c86 11ca6 11c87 11ca7 11c88+1 11ca9 11c8a 11caa 11c8b 11cab 11c8c 11cac 11c8d 11cad 11c8e 11cae",
   "11c8f 11caf+5 1c00+9 1c4d+2 1c0a+10 1c24 1c1b 1c25 1c1c+7 1c36 1c26+f a840+7 a869+3 a848+b a867 a854+3",
   "a868 a86d a858 a871+1 a859+1 a86e a85b+1 a86f+1 a85d a862+3 a85e+3 a866 a873 1900+1c 1920+b 1930+8 1700+d",
   "171f 170e+7 1720+14 1740+13 1760+c 176e+2 1772+1 1a00+1b 11ee0+16 1bc0 1bc2 1bc5 1bc7 1bc9 1bcb 1bce",
   "1bd0+2 1bd4 1bd6 1bd8 1bdb 1bdd+1 1be0+5 1be7 1be9+1 1bec 1bee 1bf0+3 a930+23 a90a+20 1000 1075 1001 1076",
   "1002 1077 aa60 a9e9 1003 a9e0 a9ea 1004 105a 1005 1078 aa61 1006 a9e1 aa62 aa7e 1007 aa63 a9eb 1079 aa72",
   "1008 105b a9e2 aa64 a9ec 1061 aa7f 1009 107a aa65 a9e7 100a+1 aa66 100c aa67 100d aa68 a9ed 100e aa69 a9ee",
   "100f 106e a9e3 a9ef 1010+2 107b a9fb 1013 aa6a a9fc 1014 107c aa6b 105e 1015+1 107d+1 aa6f 108e a9e8 1017",
   "107f a9fd 1018 a9e4 a9fe 1019 105f 101a 103b 101b aa73 aa7a 103c 101c 1060 101d 103d 1082 1080 1050+1 1065",
   "101e aa6c 101f 1081 aa6d 103e aa6e aa71 1020 a9fa 105c+1 106f+1 1066 1021+5 1052+3 1027+3 102c 1083 1072",
   "109c 102d 1071 102e 1033 102f 1073+1 1030 1056+3 1031 1084 1035 1085 1032 109d 1086 1034 1062 1067+1 a9e5",
   "1039+1 1063+1 1069+4 1087 108b 1088 108c+1 1089+1 108f 109a+1 aa7b+2 aa74+2 10d00 10d1d+4 10d01+1b 10d22+1",
   "11103+20 11147 11124+2 11144 11127+b 11145+1 11133+1 1780+22 17dc 17a3+10 17b6+f 17d2 1950+1d 1970+4",
   "1980+2b 19b0+19 1a20+2c 1a53 1a6b 1a55+2 1a5c+2 1a4d+5 1a61 1a6c 1a62+1 1a65+5 1a6e+1 1a73 1a70+2 1a6d",
   "1a60 1e6c0+1e 1e6e0+15 1e6fe aa00+28 aa33+3 aa29+9 aa40+d 1b05+e 1b45+1 1b14+e 1b47 1b23+4 1b48 1b28+7",
   "1b49 1b30+2 1b4a+1 1b33 1b35+f a984+26 a9be a9ab a9bf a9ad+5 a9b4 a9bc a9b6+3 a9bd a9ba+1 a9c0 11f04+c",
   "11f12+1a 11f02 11f2d+d 11f3e+4 1880+6 1843 1820 1887 1821 1844 185d 1822 1845 185e 1873 1888 185f 1823",
   "1846 1824 1847 1861 1825 1848 1826 1849 1860 1827+2 184a 1862 188a 189b 182a 184b 182b 184c 1866 182c 184d",
   "182d 184e 1864 189a 1865 182e 184f 182f+2 1867 189c+1 18a2 18a4+1 1832 1850 1868 1833 1851 1869 1834 1852",
   "1871 1878 185c 188b 1835 1853 186a 1877 1836 1855 1872 1837 1875 1838 1856 1839 186b 1876 183a 1857 1863",
   "1874 1889 183b+1 1854 186e 183d 186f 1858 186c 183e 1859 186d 183f+3 185a+1 1870 188c 189e 188d+1 189f",
   "188f+1 1898 18a0 1891 18a1 1892+1 18a8 1894 18a3 1895 1899 1896+1 18a6+1 18aa 18a9 1c5a+23 1e5d0+1d 1e5f0",
   "ab70+4f 13f8+5 104d8+23 1401+17a 157d 166f 157e+f 1670 158e+7 1671+5 1596+10 157c 15a7+c5 1677+8 18b0+45",
   "11ab0+f 1681+19 16a0 16a2 16a6 16a8 16f4 16af+3 16f1 16b7 16b9+1 16be 16c1 16f5 16c3 16c5 16c7+3 16f2 16cf",
   "16d2 16d6 16f6 16d7 16da 16dc 16de+1 16f3 16aa 16f7 16ab 16f8 16a3 16e0 16e3 16b8 16e4 16e1+1 16e5+1 10cc0",
   "10cc2+7 10ccc+4 10cd2+9 10cdd 10ce0+2 10ce4+6 10cec 10cee+4 10c00 10c02+1 10c05+2 10c09 10c0b 10c0d 10c0f",
   "10c11 10c13+1 10c16 10c18 10c1a 10c1c 10c1e 10c20+4 10c26 10c28 10c2a 10c2c+1 10c2f+3 10c34 10c36 10c38",
   "10c3a 10c3c+3 10c41 10c43 10c45 10c47+1 a500+10c a6a0+4f 16800+238 16ad0+1d 1e800+c4 16e60+1f 16ebb+18",
   "10d4a+5 10d69 10d70+13 1e922+21 1e94b 1100+5e a960+1c 115f+48 d7b0+16 11a8+57 d7cb+30 3042 3044 3046 1b000",
   "3048 304a+1 304d 304f 3051 3053 3055 3057 3059 305b 305d 305f 3061 3064 3066 3068 306a+5 3072 3075 3078",
   "307b 307e+4 3084 1b120 3086 1b121 3088+5 308f+1 1b11f 3091+2 1b002+c 1b001 1b00f+10f 3105+2 31ac 3108 312a",
   "3109+2 312f 310c+2 312b 31ad 310f+2 312c 3112 31bc+1 3113+6 31b8+2 311a+1 31a6 311c+1 31a4 311e+6 31b2",
   "3125 31b0+1 3126+3 312d 31be+1 a000+48c a4f8+3 a4fd a4fc a4d0+19 a4eb a4ed a4ea a4ec 11fb0 a4ee+9 16f00+3",
   "16f45 16f04+1 16f07+6 16f48 16f0e+1 16f4a 16f10+2 16f14+10 16f26+c 16f47 16f33 16f46 16f34+5 16f49 16f3a+4",
   "16f40+4 16f50+3 16f4f 16f54+4 16f81 16f59+3 16f83 16f5d+3 16f84 16f61+4 16f86 16f66+7 16f7f 16f87 16f6e+4",
   "16f80 16f73+1 16f85 16f82 16f75+9 16f8f+10 118ff 118c0+1f 11ad5+6 11ac0+14 11adc+1 11adf+4 11ade 11ae4",
   "11aef 11af2 11af1 11ae6 11ae9 11ae5 11ae8 11af4 11af7 11af3 11af6 11aec 11aee 11aeb 11aed 11af5 11af8",
   "11ae7 11aea 11af0 16b00+2f 16b40+1 16b63+14 16b7d+12 1e100+2c 1e137+4 1e14e 1e290+1d 1e2c0+2b 1e4d0+1b",
   "10280+1c 102a0+30 10920+19 10940+19 10300+e 1031f 1030f+f 1032d+1d 10428+57 1bc00+6a 1bc70+c 1bc80+8",
   "1bc90+9 10480+1d 10500+27 10530+33 10597+a 105a3+e 105b3+6 105bb+1 105c0+33 110d0+18 16a40+1e 16a70+4e",
   "11bc0+20 16100+2c 1612e+1 16d40+2c 10000+b 1000d+19 10028+12 1003c+1 1003f+e 10050+d 10080+7a 10600+136",
   "10740+15 10760+7 10800+5 10808 1080a+2b 10837+1 1083c 1083f 12f90+60 10a60+1c 10a80+1c 10b00+2d 10b2f+6",
   "10860+c 1086e+8 10881 10883+2 10887+4 1088d 1088f 10891 10893 10895+6 1089d+1 108e0+12 108f4+1 10840+15",
   "10b40+15 10b60+12 10b80+11 10fe0+15 10ac0+7 10ac9+1b 10f00 10f02 10f04+1 10f07+7 10f11+1 10f14+1 10f18+2",
   "10f30+14 10f70+11 10e80+20 10eb0 10ea1+7 10eb1 10ea9 10fb0+14 10380+1d 103a0+23 103c8+7 12000+262 122d4+1",
   "12263+70 122d6+c3 12480+c3 13000+42f 13460+f9a 13441+5 109a0+f 109b1+6 109be+1 1099e+1 14400+246",
   "17000+17ff 18d00+1e 18800+2ff 18d80+72 1b170+18b 18b00+1d5 18cff"]

end EnquiryMail.Text
