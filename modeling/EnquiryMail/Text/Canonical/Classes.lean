/-
The classes of marks: marks of one class keep their order, of different classes the lower one comes first. A line begins
with a class, all in hexadecimal digits; `300+14` is a mark with as many behind it as follow the plus sign.
-/

namespace EnquiryMail.Text

/-- marks by class -/
def Canonical.classTable : List String :=
  ["1: 334+4 1cd4 1ce2+6 20d2+1 20d8+2 20e5+1 20ea+1 10a39 16af0+4 1bc9e 1d167+2",
   "6: 16ff0+1",
   "7: 93c 9bc a3c abc b3c c3c cbc 1037 1b34 1be6 1c37 a9b3 110ba 11173 111ca 11236 112e9 1133b+1 11446 114c3",
   "7: 115c0 116b7 1183a 11943 11d42 1e94a",
   "8: 3099+1",
   "9: 94d 9cd a4d acd b4d bcd c4d ccd d3b+1 d4d dca e3a eba f84 1039+1 1714+1 1734 17d2 1a60 1b44 1baa+1",
   "9: 1bf2+1 2d7f a806 a82c a8c4 a953 a9c0 aaf6 abed 10a3f 11046 11070 1107f 110b9 11133+1 111c0 11235 112ea",
   "9: 1134d 113ce+2 11442 114c2 115bf 1163f 116b6 1172b 11839 1193d+1 119e0 11a34 11a47 11a99 11c3f 11d44+1",
   "9: 11d97 11f41+1 1612f",
   "a: 5b0",
   "b: 5b1",
   "c: 5b2",
   "d: 5b3",
   "e: 5b4",
   "f: 5b5",
   "10: 5b6",
   "11: 5b7",
   "12: 5b8 5c7",
   "13: 5b9+1",
   "14: 5bb",
   "15: 5bc",
   "16: 5bd",
   "17: 5bf",
   "18: 5c1",
   "19: 5c2",
   "1a: fb1e",
   "1b: 64b 8f0",
   "1c: 64c 8f1",
   "1d: 64d 8f2",
   "1e: 618 64e",
   "1f: 619 64f",
   "20: 61a 650",
   "21: 651",
   "22: 652",
   "23: 670",
   "24: 711",
   "54: c55",
   "5b: c56",
   "67: e38+1",
   "6b: e48+3",
   "76: eb8+1",
   "7a: ec8+3",
   "81: f71",
   "82: f72 f7a+3 f80",
   "84: f74",
   "ca: 321+1 327+1 1dd0",
   "d6: 1dce",
   "d8: 31b f39 1d165+1 1d16e+4",
   "da: 1dfa 302a",
   "dc: 316+3 31c+4 323+3 329+a 339+3 347+2 34d+1 353+3 359+1 591 596 59b 5a2+5 5aa 5c5 655+1 65c 65f 6e3 6ea",
   "dc: 6ed 731 734 737+2 73b+1 73e 742 744 746 748 7f2 7fd 859+2 899+2 8cf+4 8e3 8e6 8e9 8ed+2 8f6 8f9+1 952",
   "dc: f18+1 f35 f37 fc6 108d 193b 1a18 1a7f 1ab5+5 1abd 1abf+1 1ac3+1 1aca 1add 1ae6 1b6c 1cd5+4 1cdc+3 1ced",
   "dc: 1dc2 1dca 1dcf 1df9 1dfd 1dff 20e8 20ec+3 a92b+2 aab4 fe27+6 101fd 102e0 10a0d 10a3a 10ae6 10efa+1",
   "dc: 10efd+2 10f46+1 10f4b 10f4d+3 10f83 10f85 1d17b+7 1d18a+1 1e4ee 1e5ef 1e8d0+6",
   "de: 59a 5ad 1939 302d",
   "e0: 302e+1",
   "e2: 1d16d",
   "e4: 5ae 18a9 1df7+1 302b",
   "e6: 300+14 33d+2 342 346 34a+2 350+2 357 35b 363+c 483+4 592+3 597+2 59c+5 5a8+1 5ab+1 5af 5c4 610+7 653+1",
   "e6: 657+4 65d+1 6d6+6 6df+3 6e4 6e7+1 6eb+1 730 732+1 735+1 73a 73d 73f+2 743 745 747 749+1 7eb+6 7f3",
   "e6: 816+3 81b+8 825+2 829+4 897+1 89c+3 8ca+4 8d4+d 8e4+1 8e7+1 8ea+2 8f3+2 8f7+1 8fb+4 951 953+1 9fe",
   "e6: f82+1 f86+1 135d+2 17dd 193a 1a17 1a75+7 1ab0+4 1abb+1 1ac1+1 1ac5+4 1acb+11 1ae0+5 1ae7+3 1b6b 1b6d+6",
   "e6: 1cd0+2 1cda+1 1ce0 1cf4 1cf8+1 1dc0+1 1dc3+6 1dcb+1 1dd1+24 1dfb 1dfe 20d0+1 20d4+3 20db+1 20e1 20e7",
   "e6: 20e9 20f0 2cef+2 2de0+1f a66f a674+9 a69e+1 a6f0+1 a8e0+11 aab0 aab2+1 aab7+1 aabe+1 aac1 fe20+6",
   "e6: fe2e+1 10376+4 10a0f 10a38 10ae5 10d24+3 10d69+4 10eab+1 10f48+2 10f4c 10f82 10f84 11100+2 11366+6",
   "e6: 11370+4 1145e 16b30+6 1d185+4 1d1aa+3 1d242+2 1e000+6 1e008+10 1e01b+6 1e023+1 1e026+4 1e08f 1e130+6",
   "e6: 1e2ae 1e2ec+3 1e4ef 1e5ee 1e6e3 1e6e6 1e6ee+1 1e6f5 1e944+5",
   "e8: 315 31a 358 1df6 302c 1e4ec+1",
   "e9: 35c 35f 362 1dfc",
   "ea: 35d+1 360+1 1aeb 1dcd",
   "f0: 345"]

end EnquiryMail.Text
