/-
Marks, which only the accent of a text depends on, and characters that a comparison passes over. `ae00.5=300+1` are the
weights of marks, accent and form, and a run of them.
-/

namespace EnquiryMail.Text

/-- marks with their weights -/
def Collation.markTable : List String :=
  ["8200.5=332 8400.5=313 8400.5=486 8400.5=2cf1 8600.5=314 8600.5=485 8600.5=2cf0 8800.5=301 8800.5=954",
   "8a00.5=300 8a00.5=953 8c00.5=306 8e00.5=302 9000.5=30c 9200.5=30a 9400.5=342 9600.5=308 9800.5=30b",
   "9a00.5=303 9c00.5=307 9e00.5=338 a000.5=327 a200.5=328 a400.5=304 a600.5=30d+1 a600.5=312 a600.5=315",
   "a600.5=31a a600.5=33d+2 a600.5=346 a600.5=34a+2 a600.5=350+2 a600.5=357 a600.5=35b a600.5=35d+1 a600.5=484",
   "a600.5=487 a600.5=741 a600.5=745 a600.5=b55 a600.5=17cb+6 a600.5=17dd a600.5=1ab0+4 a600.5=1abb+1",
   "a600.5=1ac1+1 a600.5=1ac5+4 a600.5=1acb a600.5=1acf+d a600.5=1ae0+5 a600.5=1ae7+4 a600.5=1dc0+1",
   "a600.5=1dc3+6 a600.5=1dcb+3 a600.5=1dd1 a600.5=1df5+3 a600.5=1dfb a600.5=1dfe a600.5=20f0 a600.5=2cef",
   "a600.5=a67c+1 a600.5=10ae5 a600.5=10d24+3 a600.5=10d6b a600.5=10d6d a600.5=10f48+2 a600.5=10f4c",
   "a600.5=10f82 a600.5=10f84 a600.5=1bc9d a600.5=1e2ae a600.5=1e5ee a800.5=316+3 a800.5=31c+4 a800.5=329+3",
   "a800.5=32f a800.5=333 a800.5=33a+2 a800.5=347+2 a800.5=34d+1 a800.5=353+3 a800.5=359+1 a800.5=35c",
   "a800.5=35f a800.5=362 a800.5=742 a800.5=746 a800.5=7fd a800.5=859+2 a800.5=1ab5+5 a800.5=1abd",
   "a800.5=1ac3+1 a800.5=1aca a800.5=1add a800.5=1ae6 a800.5=1dc2 a800.5=1dcf+1 a800.5=1df9+1 a800.5=1dfc+1",
   "a800.5=1dff a800.5=20ec+3 a800.5=fe27 a800.5=101fd a800.5=10a0d a800.5=10ae6 a800.5=10f46+1 a800.5=10f4b",
   "a800.5=10f4d+3 a800.5=10f83 a800.5=10f85 a800.5=1e5ef aa00.5=336+1 aa00.5=20d8+2 aa00.5=20e5 aa00.5=20ea+1",
   "aa00.5=1bc9e ac00.5=1abe ac00.5=20dd+3 ac00.5=20e2+2 ae00.5=3099 ae00.20=ff9e b000.5=309a b000.20=ff9f",
   "b200.5=335 b400.5=305 b600.5=309 b800.5=30f ba00.5=310 bc00.5=311 be00.5=31b c000.5=321 c200.5=322",
   "c400.5=323 c600.5=324 c800.5=325 ca00.5=326 cc00.5=32d ce00.5=32e d000.5=330 d200.5=331 d400.5=334",
   "d600.5=339 d800.5=345 da00.5=358 dc00.5=360 dc00.5=fe22 dc00.5=fe29 de00.5=361 de00.5=fe20 e002.5=483",
   "e002.5=fe2e e024.5=a66f e046.5=5b0 e068.5=5b1 e08a.5=5b2 e0ac.5=5b3 e0ce.5=5b4 e0f0.5=5b5 e114.5=5b6",
   "e136.5=5b7 e158.5=5b8 e158.5=5c7 e17a.5=5b9+1 e19c.5=5bb e1be.5=5c2 e1e0.5=5c1 e204.5=5bc e226.5=5bf",
   "e248.5=fb1e e26a.5=81c+1 e28c.5=81e+2 e2ae.5=821+2 e2d0.5=824+1 e2f2.5=826+1 e316.5=828+2 e338.5=82b",
   "e35a.5=82c e37c.5=818 e39e.5=819 e3c0.5=82d e3e2.5=64b e3e2.10=fe71 e3e2.2c=fe70 e406.5=8f0 e428.5=8e7",
   "e44a.5=64c e44a.20=fe72 e46c.5=8f1 e48e.5=8e8 e4b0.5=64d e4b0.20=fe74 e4d2.5=8f2 e4f4.5=8e9 e518.5=64e",
   "e518.20=fe77 e518.2e=fe76 e53a.5=8e4 e55c.5=8f4 e57e.5=8f5 e5a0.5=64f e5a0.20=fe79 e5a0.2e=fe78 e5c2.5=8e5",
   "e5e4.5=8fe e608.5=650 e608.20=fe7b e608.2e=fe7a e62a.5=8e6 e64c.5=8f6 e66e.5=651 e66e.5=afb e66e.5=11237",
   "e66e.20=fe7d e66e.2e=fe7c e690.5=652 e690.5=afa e690.5=1123e e690.20=fe7f e690.2e=fe7e e6b2.5=653",
   "e6b2.5=89e+1 e6b2.5=afc e6b2.5=10eac e6b2.20=897 e6d4.5=654 e6d4.5=10eab e6f6.5=655 e71a.5=65f e73c.5=656",
   "e75e.5=657 e780.5=658 e7a2.5=8ff e7c4.5=659 e7e6.5=65a e80a.5=65b e82c.5=65c e84e.5=65d e870.5=65e",
   "e892.5=8e3 e8b4.5=8f7 e8d6.5=8f8 e8f8.5=8fd e91c.5=8fb e93e.5=8fc e960.5=8f9 e982.5=8fa e9a4.5=670",
   "e9a4.5=10efc e9c6.5=10efa e9e8.5=711 ea0c.5=730 ea2e.5=731 ea50.5=732 ea72.5=733 ea94.5=734 eab6.5=735",
   "ead8.5=736 eafa.5=737 eb1e.5=738 eb40.5=739 eb62.5=73a eb84.5=73b eba6.5=73c ebc8.5=73d ebea.5=73e",
   "ec0e.5=73f ec30.5=7eb ec52.5=7ec ec74.5=7ed ec96.5=7ee ecb8.5=7ef ecda.5=7f0 ecfc.5=7f1 ed20.5=7f2",
   "ed42.5=7f3 ed64.5=135f ed86.5=135e eda8.5=135d edca.5=a6f0 edec.5=a6f1 ee10.5=16af0 ee32.5=16af1",
   "ee54.5=16af2 ee76.5=16af3 ee98.5=16af4 eeba.5=1e944+2 eedc.5=1e94a eefe.5=1e947 ef22.5=1e948 ef44.5=1e949",
   "ef66.5=93c ef66.5=9bc ef66.5=a3c ef66.5=abc ef66.5=afd+2 ef66.5=b3c ef66.5=c3c ef66.5=cbc ef66.5=1b34",
   "ef66.5=1be6 ef66.5=1c37 ef66.5=a9b3 ef66.5=10d6c ef66.5=110ba ef66.5=11173 ef66.5=111ca ef66.5=11236",
   "ef66.5=112e9 ef66.5=1133b+1 ef66.5=11446 ef66.5=114c3 ef66.5=115c0 ef66.5=116b7 ef66.5=1183a ef66.5=11943",
   "ef66.5=11a33 ef66.5=11d42 ef66.5=11f5a ef88.5=900+1 ef88.5=981 ef88.5=a01 ef88.5=a81 ef88.5=b01",
   "ef88.5=c00+1 ef88.5=c81 ef88.5=d01 ef88.5=d81 ef88.5=f82+1 ef88.5=1b00+1 ef88.5=a8c5 ef88.5=a980",
   "ef88.5=11000 ef88.5=11080 ef88.5=11100 ef88.5=11180 ef88.5=111cf ef88.5=11301 ef88.5=113ca ef88.5=11443",
   "ef88.5=114bf ef88.5=115bc ef88.5=11640 ef88.5=1193c ef88.5=11a35+2 ef88.5=11c3c ef88.5=11cb6 ef88.5=11d43",
   "ef88.5=11f00 efaa.5=902 efaa.5=982 efaa.5=a02 efaa.5=a82 efaa.5=b02 efaa.5=b82 efaa.5=c02 efaa.5=c04",
   "efaa.5=c82 efaa.5=cf3 efaa.5=d00 efaa.5=d02 efaa.5=d82 efaa.5=f7e efaa.5=1036 efaa.5=17c6 efaa.5=1a74",
   "efaa.5=1b02 efaa.5=1b80 efaa.5=1ced efaa.5=a80b efaa.5=a880 efaa.5=a981 efaa.5=10a0e efaa.5=11001",
   "efaa.5=11081 efaa.5=11101 efaa.5=11181 efaa.5=11234 efaa.5=112df efaa.5=11300 efaa.5=11302 efaa.5=113cc",
   "efaa.5=11444 efaa.5=114c0 efaa.5=115bd efaa.5=1163d efaa.5=116ab efaa.5=11837 efaa.5=1193b efaa.5=119de",
   "efaa.5=11a38 efaa.5=11a96 efaa.5=11c3d efaa.5=11cb5 efaa.5=11d40 efaa.5=11d95 efaa.5=11f01 efaa.5=1612d",
   "efcc.5=903 efcc.5=983 efcc.5=a03 efcc.5=a83 efcc.5=b03 efcc.5=c03 efcc.5=c83 efcc.5=d03 efcc.5=d83",
   "efcc.5=f7f efcc.5=1038 efcc.5=17c7 efcc.5=1b04 efcc.5=1b82 efcc.5=1cf2+1 efcc.5=a881 efcc.5=a983",
   "efcc.5=10a0f efcc.5=11002 efcc.5=11082 efcc.5=11102 efcc.5=11182 efcc.5=11303 efcc.5=113cd efcc.5=11445",
   "efcc.5=114c1 efcc.5=115be efcc.5=1163e efcc.5=116ac efcc.5=11838 efcc.5=119df efcc.5=11a39 efcc.5=11a97",
   "efcc.5=11c3e efcc.5=11d41 efcc.5=11d96 efcc.5=11f03 efee.5=9fe efee.5=111c9 efee.5=1145e f012.5=a70",
   "f034.5=a71 f056.5=1b03 f078.5=a982 f09a.5=1b81 f0bc.5=abec f0de.5=10a38 f102.5=10a39 f124.5=10a3a",
   "f146.5=111cb f168.5=111cc f18a.5=11a98 f1ac.5=10d6a f1ce.5=113d2 f1f0.5=e4e f214.5=e47 f236.5=e48",
   "f258.5=e49 f27a.5=e4a f29c.5=e4b f2be.5=e4c f2e0.5=e4d f304.5=ece f326.5=ec8 f348.5=ec9 f36a.5=eca",
   "f38c.5=ecb f3ae.5=ecc f3d0.5=ecd f3f2.5=aabf f416.5=aac1 f438.5=f39 f45a.5=a92b f47c.5=a92c f49e.5=a92d",
   "f4c0.5=1037 f4e2.5=17c8 f506.5=17c9 f528.5=17ca f54a.5=1a75 f56c.5=1a76 f58e.5=1a77 f5b0.5=1a78",
   "f5d2.5=1a79 f5f4.5=1a7a f618.5=1a7b f63a.5=1a7c f65c.5=1939 f67e.5=193a f6a0.5=193b f6c2.5=16b30",
   "f6c2.5=1e131 f6e4.5=16b31 f6e4.5=1e136 f708.5=16b32 f708.5=1e132 f72a.5=16b33 f72a.5=1e133 f74c.5=16b34",
   "f74c.5=1e130 f76e.5=16b35 f76e.5=1e134 f790.5=16b36 f790.5=1e135 f7b2.5=1e2ec f7d4.5=1e2ed f7f6.5=1e2ee",
   "f81a.5=1e2ef f83c.5=1e4ec f85e.5=1e4ed f880.5=1e4ee f8a2.5=1e4ef f8c4.5=302a f8e6.5=302b f90a.5=302c",
   "f92c.5=302d f94e.5=302e f970.5=302f f992.5=16ff0 f9b4.5=16ff1 f9d6.5=20d0 f9f8.5=20d1 fa1c.5=20d2+1",
   "fa3e.5=20d4 fa60.5=20d5 fa82.5=20d6 faa4.5=20d7 fac6.5=20db fae8.5=20dc fb0c.5=20e1 fb2e.5=20e6",
   "fb50.5=20e7 fb72.5=20e8 fb94.5=20e9"]

/-- characters that are passed over -/
def Collation.ignoredTable : List String :=
  ["0+8 e+11 7f+5 86+19 ad 34f 488+1 591+1e 5bd 5c4+1 600+5 610+a 61c 640 6d6+7 6df+5 6e7+1 6ea+3 70f 740",
   "743+1 747+3 7fa 890+1 898+5 8ca+18 8ea+5 8f3 951+1 f18+1 f35 f37 f3e+1 f86+1 fc6 17b4+1 17d3 180a+5 1a7f",
   "1b6b+8 1cd0+18 1cf4 1cf7+2 200b+4 202a+4 2060+4 2066+9 2d7f a670+2 a8e0+11 fe00+f fe21 fe23+3 fe28 fe2a+3",
   "fe2f fe73 feff fff9+2 102e0 10efb 10efd+2 110bd 110cd 11366+6 11370+4 113e1+1 13430+10 13447+e 16fe4",
   "1bca0+3 1cf00+2d 1cf30+16 1d165+4 1d16d+15 1d185+6 1d1aa+3 1d242+2 1da00+36 1da3b+31 1da75 1da84 1da9b+4",
   "1daa1+e 1e8d0+6 e0001 e0020+5f e0100+ef"]

end EnquiryMail.Text
