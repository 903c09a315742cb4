/-
Characters that differ from another one in accent or form only, such as capitals and full-width letters. A line begins
with the weights of its characters: the form, or accent and form with a point between them. `ff41=61+19` is a character
with the one that it differs from, and as many pairs behind it as follow the plus sign; behind a tilde, every second
pair.
-/

namespace EnquiryMail.Text

/-- variants by accent and form -/
def Collation.variantTable : List String :=
  ["3: 3041=3042~4 3063=3064 3083=3084~2 308e=308f 3095=304b 3096=3051 1b132=3053 1b150=3090+2",
   "5: 384=b4 660=30+9 6f0=30+9 7c0=30+9 966=30+9 9e6=30+9 a66=30+9 ae6=30+9 b66=30+9 be6=30+9 c66=30+9",
   "5: c78=30+3 c7c=31+2 ce6=30+9 d66=30+9 de6=30+9 e50=30+9 ed0=30+9 f20=30+9 1040=30+9 1090=30+9 1369=31+8",
   "5: 17e0=30+9 17f0=30+9 1810=30+9 1946=30+9 19d0=30+9 19da=31 1a80=30+9 1a90=30+9 1b50=30+9 1bb0=30+9",
   "5: 1c40=30+9 1c50=30+9 1fbf=1fbd 2185=36 3007=30 3021=31+8 a620=30+9 a8d0=30+9 a900=30+9 a9d0=30+9",
   "5: a9f0=30+9 aa50=30+9 abf0=30+9 10107=31+8 10142=31 10143=35 10148=35 1014f=35 10158=31 10159=31",
   "5: 1015a=31+1 1015c=32 1015d=32 1015e=32 1015f=35 10173=35 1018a=30 102e1=31+8 10320=31 10321=35",
   "5: 103d1=31+1 104a0=30+9 10858=31+2 10879=31+4 108a7=31+3 108ab=34+1 108fb=31 108fc=35 10916=31 1091a=32+1",
   "5: 109c0=31+8 10a40=31+3 10a7d=31 10a9d=31 10aeb=31 10aec=35 10b58=31+3 10b78=31+3 10ba9=31+3 10cfa=31",
   "5: 10cfb=35 10d30=30+9 10d40=30+9 10e60=31+8 10f1d=31+4 10f51=31 10fc5=31+3 11052=31+8 11066=30+9",
   "5: 110f0=30+9 11136=30+9 111d0=30+9 111e1=31+8 112f0=30+9 11450=30+9 114d0=30+9 11650=30+9 116c0=30+9",
   "5: 116d0=30+9 116da=30+9 11730=30+9 118e0=30+9 11950=30+9 11bf0=30+9 11c50=30+9 11c5a=31+8 11d50=30+9",
   "5: 11da0=30+9 11de0=30+9 11f50=30+9 12400=32+7 12408=33+6 1240f=34+5 12415=31+8 1241e=31+4 12423=32+1",
   "5: 12425=33+6 1242c=31+2 1242f=33+2 12434=31+2 12437=33+2 1243a=33 1243b=33+1 1243d=34 1243e=34 1243f=34",
   "5: 12440=36+1 12442=37 12443=37+1 12445=38+1 12447=39 12448=39 12449=39 1244a=32+4 1244f=31+3 12453=34+1",
   "5: 12455=35 12456=32+1 12458=31+1 12469=34+5 16130=30+9 16a60=30+9 16ac0=30+9 16b50=30+9 16d70=30+9",
   "5: 16e80=30+9 1d2c0=30+9 1d2e0=30+9 1d360=31+8 1d372=31+4 1d377=31 1d378=35 1e140=30+9 1e2f0=30+9",
   "5: 1e4f0=30+9 1e5f1=30+9 1e8c7=31+8 1e950=30+9 1ec71=31+8 1eca3=31+8 1ed01=31+8",
   "10: b5=3bc 190=25b 37a=3b9 3d0=3b2 3d1=3b8 3d5=3c6 3d6=3c0 3f0=3ba 3f1=3c1 3f2=3c3 3f5=3b5 6e5=648 6e6=64a",
   "10: 870=627 871=627 872=627 873=627 874=627 875=627 876=627 877=627 878=627 879=627 87a=627 87b=627",
   "10: 87c=627 87d=627 87e=627 87f=627 880=627 881=627 882=627 884=648 885=64a 886=64a 8ad=627 8c9=6cc",
   "10: 1c80=432 1c81=434 1c82=43e 1c83=441+1 1c85=442 1c86=44a 1dd2=a76f 1de2=280 1de7=251 1dea=259 1def=283",
   "10: 213d=3b3 2de0=431+3 2de4=436+1 2de6=43a+8 2def=445+3 2df6=430 2df7=435 2dfb=44e 2e82=4e5b 2e83=4e5a",
   "10: 2e85=4ebb 2e89=5202 2e8f=5c23 2e90=5c22 2e92=5df3 2e93=5e7a 2e94=5f51 2e96=5fc4 2e98=624c 2e99=6535",
   "10: 2e9b=65e1 2e9f=6bcd 2ea0=6c11 2ea1=6c35 2ea2=6c3a 2ea3=706c 2ea4=722b 2ea6=4e2c 2ea8=72ad 2ead=793b",
   "10: 2eaf=7cf9 2eb0=7e9f 2eb1=7f53 2eb2=7f52 2eb8=7f8b 2eb9=8002 2eba=8080 2ebe=8279 2ec1=864e 2ec2=8864",
   "10: 2ec3=8980 2ec4=897f 2ec5=89c1 2ec6=89d2 2ec8=8ba0 2ec9=8d1d 2ecb=8f66 2ecc=8fb6 2ed0=9485 2ed1=9577+1",
   "10: 2ed3=957f 2ed4=95e8 2ed6=961d 2ed8=9752 2ed9=97e6 2eda=9875 2edb=98ce 2edc=98de+1 2edf=98e0 2ee0=9963",
   "10: 2ee2=9a6c 2ee5=9c7c 2ee6=9e1f 2ee8=9ea6 2ee9=9ec4 2eea=9efe 2eec=9f50 2eee=9f7f 2ef0=9f99 2ef3=9f9f",
   "10: 2f00=4e00 2f01=4e28 2f02=4e36 2f03=4e3f 2f04=4e59 2f05=4e85 2f06=4e8c 2f07=4ea0 2f08=4eba 2f09=513f",
   "10: 2f0a=5165 2f0b=516b 2f0c=5182 2f0d=5196 2f0e=51ab 2f0f=51e0 2f10=51f5 2f11=5200 2f12=529b 2f13=52f9",
   "10: 2f14=5315 2f15=531a 2f16=5338 2f17=5341 2f18=535c 2f19=5369 2f1a=5382 2f1b=53b6 2f1c=53c8 2f1d=53e3",
   "10: 2f1e=56d7 2f1f=571f 2f20=58eb 2f21=5902 2f22=590a 2f23=5915 2f24=5927 2f25=5973 2f26=5b50 2f27=5b80",
   "10: 2f28=5bf8 2f29=5c0f 2f2a=5c22 2f2b=5c38 2f2c=5c6e 2f2d=5c71 2f2e=5ddb 2f2f=5de5 2f30=5df1 2f31=5dfe",
   "10: 2f32=5e72 2f33=5e7a 2f34=5e7f 2f35=5ef4 2f36=5efe 2f37=5f0b 2f38=5f13 2f39=5f50 2f3a=5f61 2f3b=5f73",
   "10: 2f3c=5fc3 2f3d=6208 2f3e=6236 2f3f=624b 2f40=652f 2f41=6534 2f42=6587 2f43=6597 2f44=65a4 2f45=65b9",
   "10: 2f46=65e0 2f47=65e5 2f48=66f0 2f49=6708 2f4a=6728 2f4b=6b20 2f4c=6b62 2f4d=6b79 2f4e=6bb3 2f4f=6bcb",
   "10: 2f50=6bd4 2f51=6bdb 2f52=6c0f 2f53=6c14 2f54=6c34 2f55=706b 2f56=722a 2f57=7236 2f58=723b 2f59=723f",
   "10: 2f5a=7247 2f5b=7259 2f5c=725b 2f5d=72ac 2f5e=7384 2f5f=7389 2f60=74dc 2f61=74e6 2f62=7518 2f63=751f",
   "10: 2f64=7528 2f65=7530 2f66=758b 2f67=7592 2f68=7676 2f69=767d 2f6a=76ae 2f6b=76bf 2f6c=76ee 2f6d=77db",
   "10: 2f6e=77e2 2f6f=77f3 2f70=793a 2f71=79b8 2f72=79be 2f73=7a74 2f74=7acb 2f75=7af9 2f76=7c73 2f77=7cf8",
   "10: 2f78=7f36 2f79=7f51 2f7a=7f8a 2f7b=7fbd 2f7c=8001 2f7d=800c 2f7e=8012 2f7f=8033 2f80=807f 2f81=8089",
   "10: 2f82=81e3 2f83=81ea 2f84=81f3 2f85=81fc 2f86=820c 2f87=821b 2f88=821f 2f89=826e 2f8a=8272 2f8b=8278",
   "10: 2f8c=864d 2f8d=866b 2f8e=8840 2f8f=884c 2f90=8863 2f91=897e 2f92=898b 2f93=89d2 2f94=8a00 2f95=8c37",
   "10: 2f96=8c46 2f97=8c55 2f98=8c78 2f99=8c9d 2f9a=8d64 2f9b=8d70 2f9c=8db3 2f9d=8eab 2f9e=8eca 2f9f=8f9b",
   "10: 2fa0=8fb0 2fa1=8fb5 2fa2=9091 2fa3=9149 2fa4=91c6 2fa5=91cc 2fa6=91d1 2fa7=9577 2fa8=9580 2fa9=961c",
   "10: 2faa=96b6 2fab=96b9 2fac=96e8 2fad=9751 2fae=975e 2faf=9762 2fb0=9769 2fb1=97cb 2fb2=97ed 2fb3=97f3",
   "10: 2fb4=9801 2fb5=98a8 2fb6=98db 2fb7=98df 2fb8=9996 2fb9=9999 2fba=99ac 2fbb=9aa8 2fbc=9ad8 2fbd=9adf",
   "10: 2fbe=9b25 2fbf=9b2f 2fc0=9b32 2fc1=9b3c 2fc2=9b5a 2fc3=9ce5 2fc4=9e75 2fc5=9e7f 2fc6=9ea5 2fc7=9ebb",
   "10: 2fc8=9ec3 2fc9=9ecd 2fca=9ed1 2fcb=9ef9 2fcc=9efd 2fcd=9f0e 2fce=9f13 2fcf=9f20 2fd0=9f3b 2fd1=9f4a",
   "10: 2fd2=9f52 2fd3=9f8d 2fd4=9f9c 2fd5=9fa0 3000=20 3038=5341 3039=5344+1 30a1=3042~4 30ad=304d 30b5=3055",
   "10: 30bb=305b~3 30c3=3064 30c6=3066 30ca=306a+1 30cd=306d+1 30de=307e+1 30e1=3081+1 30e3=3084~2 30ee=308f",
   "10: 30f5=304b 30f6=3051 3131=1100 3134=1102 3137=1103~1 3141=1106+1 3145=1109~1 3148=110c~1 314b=110f+3",
   "10: 314f=1161 3157=1169 315c=116e 3162=1174 31f0=304f 31f1=3057 31f2=3059 31f3=3068 31f4=306c 31f5=306f",
   "10: 31f6=3072 31f7=3075 31f8=3078 31f9=307b 31fa=3080 31fb=3089+4 a669=43e a66b=43e a66d=43e a66e=43e",
   "10: a675=438 a677=443 a678=44a+2 a699=43e a69b=43e a69e=444 fb54=67b fb58=67e fb5c=680 fb60=67a fb64=67f",
   "10: fb68=679 fb6c=6a4 fb70=6a6 fb74=684 fb78=683 fb7c=686 fb80=687 fb90=6a9 fb94=6af fb98=6b3 fb9c=6b1",
   "10: fba2=6bb fba8=6c1 fbac=6be fbd5=6ad fbe6=6d0 fbe8=649 fe51=3001 fe8b=626 ff01=21 ff08=28+1 ff0b=2b+1",
   "10: ff0e=2e~1 ff11=31+a ff1d=3d~1 ff3f=5f~1 ff42=62+19 ff5d=7d 10d84=10d73 10d85=10d81 10ec5=64a",
   "10: 16ff2=513f 16ff3=5152 1b155=3053 1b164=3090+3 1d6c4=3b3+1 1d6c7=3b6+1 1d6cc=3bb~1 1d6cf=3be+1",
   "10: 1d6d5=3c4+1 1d6d8=3c7+2 1d6fe=3b3+1 1d701=3b6+1 1d706=3bb~1 1d709=3be+1 1d70f=3c4+1 1d712=3c7+2",
   "10: 1d738=3b3+1 1d73b=3b6+1 1d740=3bb~1 1d743=3be+1 1d749=3c4+1 1d74c=3c7+2 1d772=3b3+1 1d775=3b6+1",
   "10: 1d77a=3bb~1 1d77d=3be+1 1d783=3c4+1 1d786=3c7+2 1d7ac=3b3+1 1d7af=3b6+1 1d7b4=3bb~1 1d7b7=3be+1",
   "10: 1d7bd=3c4+1 1d7c0=3c7+2 1d7cb=3dd 1e08f=456 1ee01=628 1ee02=62c 1ee03=62f 1ee06=632 1ee07=62d",
   "10: 1ee08=637 1ee0a=643+3 1ee0e=633 1ee0f=639 1ee10=641 1ee11=635 1ee12=642 1ee13=631 1ee14=634",
   "10: 1ee15=62a+1 1ee17=62e 1ee18=630 1ee19=636 1ee1a=638 1ee1b=63a 1ee1d=6ba 1ee21=628 1ee22=62c 1ee24=647",
   "10: 1ee27=62d 1ee2a=643+3 1ee2e=633 1ee2f=639 1ee30=641 1ee31=635 1ee32=642 1ee34=634 1ee35=62a+1",
   "10: 1ee37=62e 1ee39=636 1ee3b=63a 1ee42=62c 1ee47=62d 1ee4b=644~1 1ee4e=633 1ee4f=639 1ee51=635 1ee52=642",
   "10: 1ee54=634 1ee57=62e 1ee59=636 1ee5b=63a 1ee5d=6ba 1ee61=628 1ee62=62c 1ee64=647 1ee67=62d 1ee68=637",
   "10: 1ee6a=643~1 1ee6d=646 1ee6e=633 1ee6f=639 1ee70=641 1ee71=635 1ee72=642 1ee74=634 1ee75=62a+1",
   "10: 1ee77=62e 1ee79=636 1ee7a=638 1ee7b=63a 1ee81=628 1ee82=62c 1ee83=62f 1ee84=647 1ee86=632 1ee87=62d",
   "10: 1ee88=637 1ee8b=644+2 1ee8e=633 1ee8f=639 1ee90=641 1ee91=635 1ee92=642 1ee93=631 1ee94=634",
   "10: 1ee95=62a+1 1ee97=62e 1ee98=630 1ee99=636 1ee9a=638 1ee9b=63a 1eea1=628 1eea2=62c 1eea3=62f 1eea6=632",
   "10: 1eea7=62d 1eea8=637 1eeab=644+2 1eeae=633 1eeaf=639 1eeb0=641 1eeb1=635 1eeb2=642 1eeb3=631 1eeb4=634",
   "10: 1eeb5=62a+1 1eeb7=62e 1eeb8=630 1eeb9=636 1eeba=638 1eebb=63a",
   "13: 363=61 364=65 365=69 366=6f 367=75 368=63+1 36a=68 36b=6d 36c=72 36d=74 36e=76 36f=78 1dca=72 1dda=67",
   "13: 1ddc=6b+1 1de0=6e 1de4=73 1de6=7a 1de8=62 1deb=66 1dee=70 2170=69 2174=76 2179=78 217c=6c 217d=63+1",
   "13: 217f=6d",
   "14: 1abf=77 1df1=77",
   "15: f2a=31+7 f33=30",
   "16: f32=39 210a=67 210e=68 2113=6c 212f=65 2134=6f 2139=69 2146=64+1 2148=69+1 ff6e=3088 1d41a=61+15",
   "16: 1d431=78+2 1d44e=61+6 1d456=69+d 1d465=78+2 1d482=61+15 1d499=78+2 1d4b6=61+3 1d4bb=66~1 1d4be=69+5",
   "16: 1d4c5=70+6 1d4cd=78+2 1d4ea=61+15 1d501=78+2 1d51e=61+15 1d535=78+2 1d552=61+15 1d569=78+2 1d586=61+15",
   "16: 1d59d=78+2 1d5ba=61+15 1d5d1=78+2 1d5ee=61+15 1d605=78+2 1d622=61+15 1d639=78+2 1d656=61+15 1d66d=78+2",
   "16: 1d68a=61+15 1d6a1=78+2",
   "17: 30b3=3053 30c8=3068 30ea=308a ff67=3042 ff68=3044 ff69=3046 ff6a=3048 ff6b=304a ff6c=3084 ff6d=3086",
   "17: ff6f=3064 1d6c3=3b2 1d6c9=3b8 1d6d3=3c3 1d6d4=3c3 1d6d7=3c6 1d6dd=3b8 1d6df=3c6 1d6fd=3b2 1d703=3b8",
   "17: 1d70d=3c3 1d70e=3c3 1d711=3c6 1d717=3b8 1d719=3c6 1d737=3b2 1d73d=3b8 1d747=3c3 1d748=3c3 1d74b=3c6",
   "17: 1d751=3b8 1d753=3c6 1d771=3b2 1d777=3b8 1d781=3c3 1d782=3c3 1d785=3c6 1d78b=3b8 1d78d=3c6 1d7ab=3b2",
   "17: 1d7b1=3b8 1d7bb=3c3 1d7bc=3c3 1d7bf=3c6 1d7c5=3b8 1d7c7=3c6 1ee09=64a 1ee29=64a 1ee49=64a 1ee69=64a",
   "17: 1ee89=64a 1eea9=64a",
   "18: 393=3b3 3a7=3c7 41e=43e 1680=20 2002=20 2003=20 2004=20 2005=20 2006=20 2008=20 2009=20 200a=20",
   "18: 2024=2e 205f=20 30ab=304b 30af=304f~1 30b7=3057~1 30cf=306f 30d2=3072 30d5=3075 30d8=3078 30db=307b",
   "18: 30e0=3080 30e9=3089~1 30ec=308c+1 30ef=308f fb29=2b fbfe=6cc fe91=628 fe97=62a fe9b=62b fe9f=62c",
   "18: fea3=62d fea7=62e feb3=633 feb7=634 febb=635 febf=636 fec3=637 fec7=638 fecb=639 fecf=63a fed3=641",
   "18: fed7=642 fedb=643 fedf=644 fee3=645 fee7=646 feeb=647 1d430=77 1d464=77 1d498=77 1d4cc=77 1d500=77",
   "18: 1d534=77 1d568=77 1d59c=77 1d5d0=77 1d604=77 1d638=77 1d66c=77 1d6a0=77 1d6cb=3ba~1 1d6d2=3c1",
   "18: 1d6de=3ba 1d6e0=3c1 1d705=3ba~1 1d70c=3c1 1d718=3ba 1d71a=3c1 1d73f=3ba~1 1d746=3c1 1d752=3ba",
   "18: 1d754=3c1 1d779=3ba~1 1d780=3c1 1d78c=3ba 1d78e=3c1 1d7b3=3ba~1 1d7ba=3c1 1d7c6=3ba 1d7c8=3c1",
   "19: 24d0=61+15 24e7=78+2",
   "1a: 1ccf0=30+8 1d7ce=30+8 1d7d8=30+8 1d7e2=30+8 1d7ec=30+8 1d7f6=30+8 1fbf0=30+8",
   "1b: 18f=259 394=3b4 3a5=3c5 3a9=3c9 406=456 410=430+8 41a=43a+1 41f=43f~2 424=444+4 42a=44a+1 213c=3c0",
   "1b: 30cc=306c 30f2=3092+1 3244=554f 3245=5e7c 3246=6587 3247=7b8f 3280=4e00 3281=4e8c 3282=4e09 3283=56db",
   "1b: 3284=4e94 3285=516d 3286=4e03 3287=516b 3288=4e5d 3289=5341 328a=6708 328b=706b 328c=6c34 328d=6728",
   "1b: 328e=91d1 328f=571f 3290=65e5 3291=682a 3292=6709 3293=793e 3294=540d 3295=7279 3296=8ca1 3297=795d",
   "1b: 3298=52b4 3299=79d8 329a=7537 329b=5973 329c=9069 329d=512a 329e=5370 329f=6ce8 32a0=9805 32a1=4f11",
   "1b: 32a2=5199 32a3=6b63 32a4=4e0a 32a5=4e2d 32a6=4e0b 32a7=5de6 32a8=53f3 32a9=533b 32aa=5b97 32ab=5b66",
   "1b: 32ac=76e3 32ad=4f01 32ae=8cc7 32af=5354 32b0=591c fb55=67b fb59=67e fb5d=680 fb61=67a fb65=67f",
   "1b: fb69=679 fb6d=6a4 fb71=6a6 fb75=684 fb79=683 fb7d=686 fb81=687 fb91=6a9 fb95=6af fb99=6b3 fb9d=6b1",
   "1b: fba3=6bb fba9=6c1 fbad=6be fbd6=6ad fbe7=6d0 fbe9=649 fe8c=626 ff77=304d ff7b=3055 ff7e=305b ff7f=305d",
   "1b: ff80=305f ff81=3061 ff83=3066 ff85=306a+1 ff88=306d+1 ff8f=307e+1 ff92=3081 1d6c2=3b1 1d6c6=3b5",
   "1b: 1d6ca=3b9 1d6d1=3c0 1d6dc=3b5 1d6e1=3c0 1d6fc=3b1 1d700=3b5 1d704=3b9 1d70b=3c0 1d716=3b5 1d71b=3c0",
   "1b: 1d736=3b1 1d73a=3b5 1d73e=3b9 1d745=3c0 1d750=3b5 1d755=3c0 1d770=3b1 1d774=3b5 1d778=3b9 1d77f=3c0",
   "1b: 1d78a=3b5 1d78f=3c0 1d7aa=3b1 1d7ae=3b5 1d7b2=3b9 1d7b9=3c0 1d7c4=3b5 1d7c9=3c0 1ee00=627 1ee05=648",
   "1b: 1ee80=627 1ee85=648 1eea5=648 1f250=5f97 1f251=53ef",
   "1c: 41=61+15 58=78+2 24e6=77 30e8=3088 1ccf9=39 1d7d7=39 1d7e1=39 1d7eb=39 1d7f5=39 1d7ff=39 1fbf9=39",
   "1e: 14a=14b 1a6=280 1a9=283 1b7=292 392=3b2 396=3b6+2 39b=3bb~1 39e=3be+1 3a3=3c3+1 3a6=3c6~1 3dc=3dd",
   "1e: 41c=43c+1 420=440~1 42c=44c~1 2107=25b 2c6d=251 30a2=3042~4 30c4=3064 30e4=3084~1 30f0=3090+1",
   "1e: 3260=1100 3261=1102+1 3263=1105+2 3266=1109 3267=110b+1 3269=110e+4 a76e=a76f a7c5=282 fb9f=6ba",
   "1e: fbd8=6c7 fe4d=5f fe4e=5f fe4f=5f fe54=3b fe59=28+1 fe5b=7b fe5c=7d fe5d=3014+1 feaa=62f feac=630",
   "1e: feae=631 feb0=632 fef3=64a ff64=3001 ff7a=3053 ff84=3068 ff93=3082 ff98=308a 10d53=10d73 10d61=10d81",
   "1f: 2460=31+7 24ea=30 24f5=31+7 24ff=30 2776=31+7 2780=31+7 278a=31+7 ff21=61+15 ff38=78+2 1f10b=30",
   "1f: 1f10c=30",
   "20: 57=77 de=fe 166=167 181=253 182=183~1 186=254 187=188 189=256+1 18b=18c 18e=1dd 191=192 193=260",
   "20: 194=263 196=269 197=268 198=199 19c=26f 19d=272 19f=275 1a2=1a3~1 1a7=1a8 1ac=1ad 1ae=288 1b1=28a+1",
   "20: 1b3=1b4~1 1b8=1b9 1bc=1bd 1e4=1e5 1f6=195 1f7=1bf 21c=21d 220=19e 222=223~1 23a=2c65 23b=23c 23d=19a",
   "20: 23e=2c66 241=242 243=180 244=289 245=28c 246=247~4 2b4=279 2b5=27b 2b6=281 2e4=295 370=371~1 376=377",
   "20: 37f=3f3 39a=3ba~1 3a1=3c1 3d8=3d9~1 3de=3df~8 3f7=3f8 3fa=3fb 3fd=37b+2 402=452 405=455 408=458+3",
   "20: 40f=45f 419=439 42d=44d~1 468=469 46e=46f~1 474=475 478=479~4 48a=48b~2 492=493~16 4c0=4cf 4c3=4c4~5",
   "20: 4d4=4d5 4d8=4d9 4e0=4e1 4e8=4e9 4f6=4f7 4fa=4fb~1a 531=561+3 536=566+4 53c=56c~1 53f=56f+4 545=575~1",
   "20: 548=578+5 54f=57f+2 553=583+3 5df=5e0 5e3=5e4~1 674=621 724=723 883=621 887=621 d3b=d4d d3c=d4d",
   "20: f0c=f0b 102b=102c 10a0=2d00+25 10c7=2d27 10cd=2d2d 13a0=ab70+4f 13f0=13f8+5 1a58=1a26 1a59=1a26",
   "20: 1a5a=1a3b 1a5b=1a3b 1a64=1a63 1ac0=28d 1bba=1b83 1bbe=1b8a 1bbf=1b99 1bc1=1bc0~1 1bc4=1bc2 1bc6=1bc5~3",
   "20: 1bcd=1bcb 1bcf=1bce 1bd3=1bd2~3 1bda=1bd8 1bdc=1bdb 1bdf=1bde 1be8=1be7 1beb=1bea~2 1c87=463 1c88=a64b",
   "20: 1c89=1c8a 1c90=10d0+2a 1cbd=10fd+2 1cea=1ce9 1ceb=1ce9 1cec=1ce9 1cee=1ce9 1cef=1ce9 1cf0=1ce9",
   "20: 1cf1=1ce9 1cfa=1ce9 1d46=1d02 1d4c=1d08 1d4e=1d09 1d54=1d16+1 1d59=1d1d 1d5c=1d25 1da1=25f 1da7=1d7b",
   "20: 1da9=26d 1daa=1d85 1dad=270 1daf=273 1db2=278 1db5=1ab 1db8=1d1c 1ddb=262 1dde=29f 1ddf=1d0d 1de1=274",
   "20: 1de9=a7b5 1dec=ab38 1efc=1efd~1 2011=2010 207b=2212 2132=214e 2135=5d0+3 213e=3b3 2140=2211 2183=2184",
   "20: 2c07=2c37 2c19=2c49+1 2c22=2c52 2c25=2c55 2c2b=2c5b+4 2c60=2c61 2c62=26b 2c63=1d7d 2c64=27d",
   "20: 2c67=2c68~2 2c6e=271 2c6f=250 2c70=252 2c72=2c73 2c75=2c76 2c7e=23f+1 2c82=2c83~7 2c96=2c97~26",
   "20: 2ceb=2cec~1 2cf2=2cf3 2df3=449 2df4=473 2df8=a649 2df9=a64b 2dfa=463 2dfc=a657 2dfd=467 2dfe=46b",
   "20: 2dff=46d 3036=3012 312e=311c 3132=1101 3133=11aa~1 3136=11ad 3138=1104 313a=11b0+5 3140=111a 3143=1108",
   "20: 3144=1121 3146=110a 3149=110d 3150=1162+6 3158=116a+3 315d=116f+4 3163=1175 3164=1160 3165=1114+1",
   "20: 3167=11c7+1 3169=11cc 316a=11ce 316b=11d3 316c=11d7 316d=11d9 316e=111c 316f=11dd 3170=11df",
   "20: 3171=111d+1 3173=1120 3174=1122+1 3176=1127 3177=1129 3178=112b+4 317d=1132 317e=1136 317f=1140",
   "20: 3180=1147 3181=114c 3182=11f1+1 3184=1157+2 3187=1184+1 3189=1188 318a=1191+1 318c=1194 318d=119e",
   "20: 318e=11a1 31b4=3106 31b5=310a 31b6=310e+1 31bb=310d a610=a558 a611=a56a a612=a587 a62a=a56e a62b=a5d1",
   "20: a640=a641~3 a64c=a64d~4 a658=a659~7 a668=43e a66a=43e a66c=43e a674=454 a67b=461 a680=a681~b a698=43e",
   "20: a69a=43e a69f=465 a722=a723~2 a72a=a72b~2 a73e=a73f~7 a750=a751~4 a75c=a75d~1 a762=a763~5 a77e=a77f~1",
   "20: a78b=a78c a78d=265 a790=a791~1 a796=a797~1 a7aa=266 a7ab=25c a7ac=261 a7ad=26c a7ae=26a a7b0=29e",
   "20: a7b1=287 a7b2=29d a7b3=ab53 a7b6=a7b7~4 a7c4=a794 a7c6=1d8e a7c7=a7c8~1 a7cb=264 a7cc=a7cd~5 a7da=a7db",
   "20: a7dc=19b a7f5=a7f6 a8f3=a8f2 a8f4=a8f2 a8f5=a8f2 a8f6=a8f2 a8f7=a8f2 a9ac=a9ab a9b5=a9b4 ab5d=ab37",
   "20: ab5f=ab52 fb20=5e2 fb24=5db fb26=5de fb27=5e8 fb28=5ea fb51=671 fb83=68d fb85=68c~1 fb89=688 fb8b=698",
   "20: fb8d=691 fbaf=6d2 fbda=6c6~1 fbdf=6cb fbe1=6c5 fbe3=6c9 fbff=6cc fe17=3016+1 fe32=2013 fe3b=3010+1",
   "20: fe3d=300a+1 fe3f=3008+1 fe43=300e+1 fe49=203e fe4a=203e fe4b=203e fe4c=203e fe52=2e fe57=21 fe58=2014",
   "20: fe62=2b fe66=3d fe82=622 fe84=623 fe86=624 fe88=625 fe92=628 fe94=629 fe98=62a fe9c=62b fea0=62c",
   "20: fea4=62d fea8=62e feb4=633 feb8=634 febc=635 fec0=636 fec4=637 fec8=638 fecc=639 fed0=63a fed4=641",
   "20: fed8=642 fedc=643 fee0=644 fee4=645 fee8=646 feec=647 ff02=22+5 ff0a=2a ff0d=2d~1 ff1c=3c~2 ff3b=5b+3",
   "20: ff40=60 ff5c=7c~1 ff5f=2985+1 ff61=3002 ff62=300c+1 ff65=30fb ff70=30fc ff76=304b ff78=304f ff79=3051",
   "20: ff7c=3057 ff7d=3059 ff8a=306f ff8b=3072 ff8c=3075 ff8d=3078 ff8e=307b ff91=3080 ff97=3089~1",
   "20: ff9a=308c+1 ff9c=308f ffe0=a2+1 ffe2=ac ffe3=af ffe4=a6 ffe5=a5 ffe6=20a9 ffe8=2502 ffe9=2190+3",
   "20: ffed=25a0 ffee=25cb 10376=10350 10377=10353 10378=10357 10379=1035d 1037a=10361 10400=10428+27",
   "20: 104b0=104d8+23 10570=10597+a 1057c=105a3+e 1058c=105b3+6 10594=105bb+1 10781=2d0+1 10784=299",
   "20: 1078d=1d91 1078e=258 1078f=25e 10794=29b 10796=29c 10797=267 10798=284 1079c=1df04 1079d=a78e",
   "20: 1079e=26e 1079f=1df05 107a0=28e 107a1=1df06 107a3=276+1 107a6=27a 107a7=1df08 107a9=27e 107b0=2c71",
   "20: 107b2=28f 107b3=2a1+1 107b5=298 107b6=1c0+2 107b9=1df0a 107ba=1df1e 1086d=1086e 10880=10881~1",
   "20: 10886=10887 1088c=1088d~4 1089c=1089d 10c80=10cc0~1 10c83=10cc3+6 10c8c=10ccc+4 10c92=10cd2+9",
   "20: 10c9d=10cdd 10ca0=10ce0+2 10ca4=10ce4+6 10cac=10cec~1 10caf=10cef+3 10d50=10d70+2 10d54=10d74+c",
   "20: 10d62=10d82+1 10f01=10f00~1 10f06=10f05 10f0f=10f0e 10f16=10f15 10f1b=10f1a 113cf=113ce 118a0=118c0+1f",
   "20: 11a3a=11a2b 11a3b=11a2a~1 11a3e=11a2d 11a86=11a7c+1 11a88=11a7f 11a89=11a81 11a8a=11a5c+1 11a8c=11a60",
   "20: 11a8d=11a6b 11a8e=11a6f+1 11a90=11a74 11a95=11a7a 11d46=11d26 16e40=16e60+1f 16ea0=16ebb+18",
   "20: 16f06=16f04 16f13=16f10 16f25=16f23 16f3f=16f3d 1b122=1b11f 1d6a4=131 1d6a5=237 1d6aa=3b3 1d6be=3c7",
   "20: 1d6c1=2207 1d6db=2202 1d6e4=3b3 1d6f8=3c7 1d6fb=2207 1d715=2202 1d71e=3b3 1d732=3c7 1d735=2207",
   "20: 1d74f=2202 1d758=3b3 1d76c=3c7 1d76f=2207 1d789=2202 1d792=3b3 1d7a6=3c7 1d7a9=2207 1d7c3=2202",
   "20: 1e000=2c30+6 1e008=2c38+10 1e01b=2c4b+6 1e023=2c53+1 1e026=2c56+4 1e900=1e922+21 1ee1c=66e 1ee1e=6a1",
   "20: 1ee1f=66f 1ee5f=66f 1ee7c=66e 1ee7e=6a1",
   "22: 2160=69 2164=76 2169=78 216c=6c 216d=63+1 216f=6d 2468=39 24fd=39 277e=39 2788=39 2792=39 ff96=3088",
   "24: b2=32+1 b9=31 2070=30 2074=34+4 ff37=77",
   "25: 3f4=3b8 3f9=3c3 207d=28+1 2102=63 210b=68 210c=68 210d=68 2110=69 2111=69 2112=6c 2115=6e 2119=70+2",
   "25: 211c=72 211d=72 2124=7a 2128=7a 212c=62+1 2130=65+1 2133=6d 2145=64 32d9=3053 32e3=3068 32f7=308a",
   "25: fef4=64a ff71=3042 ff72=3044 ff73=3046 ff74=3048 ff75=304a ff82=3064 ff94=3084 ff95=3086 1ccd6=61+15",
   "25: 1cced=78+2 1d400=61+15 1d417=78+2 1d434=61+15 1d44b=78+2 1d468=61+15 1d47f=78+2 1d49c=61~1 1d49f=64",
   "25: 1d4a2=67 1d4a5=6a+1 1d4a9=6e+3 1d4ae=73+3 1d4b3=78+2 1d4d0=61+15 1d4e7=78+2 1d504=61+1 1d507=64+3",
   "25: 1d50d=6a+7 1d516=73+3 1d51b=78+1 1d538=61+1 1d53b=64+3 1d540=69+4 1d546=6f 1d54a=73+3 1d54f=78+1",
   "25: 1d56c=61+15 1d583=78+2 1d5a0=61+15 1d5b7=78+2 1d5d4=61+15 1d5eb=78+2 1d608=61+15 1d61f=78+2",
   "25: 1d63c=61+15 1d653=78+2 1d670=61+15 1d687=78+2 1d6a9=3b2 1d6bd=3c6 1d6e3=3b2 1d6f7=3c6 1d71d=3b2",
   "25: 1d731=3c6 1d757=3b2 1d76b=3c6 1d791=3b2 1d7a5=3c6",
   "26: 391=3b1 395=3b5 399=3b9 3a0=3c0 3d2=3c5 1d4a=259 3192=4e00 3193=4e8c 3194=4e09 3195=56db 3196=4e0a",
   "26: 3197=4e2d 3198=4e0b 3199=7532 319a=4e59 319b=4e19 319c=4e01 319d=5929 319e=5730 319f=4eba 32d6=304d",
   "26: 32da=3055 32dd=305b 32de=305d 32df=305f 32e0=3061 32e2=3066 32e4=306a+1 32e7=306d+1 32ee=307e+1",
   "26: 32f1=3081 a69c=44a fb53=67b fb57=67e fb5b=680 fb5f=67a fb63=67f fb67=679 fb6b=6a4 fb6f=6a6 fb73=684",
   "26: fb77=683 fb7b=686 fb7f=687 fb8f=6a9 fb93=6af fb97=6b3 fb9b=6b1 fba1=6bb fba7=6c1 fbab=6be fbd4=6ad",
   "26: fbe5=6d0 fe50=2c fe55=3a fe56=3f fe8a=626 fe8e=627 feee=648 fef0=649 ff66=3092 ff87=306c ff9d=3093",
   "26: 1d6ab=3b4 1d6c0=3c9 1d6e5=3b4 1d6fa=3c9 1d71f=3b4 1d734=3c9 1d759=3b4 1d76e=3c9 1d793=3b4 1d7a8=3c9",
   "26: 1e030=430+8 1e039=43a+1 1e03d=43f~2 1e042=444+4 1e047=44b 1e04c=456",
   "28: a0=20 1d5e=3b3 1d61=3c7 2007=20 202f=20 2079=39 207a=2b 207c=3d 24b6=61+15 24cd=78+2 32d5=304b",
   "28: 32d7=304f 32d8=3051 32db=3057 32dc=3059 32e9=306f 32ea=3072 32eb=3075 32ec=3078 32ed=307b 32f0=3080",
   "28: 32f5=3088+1 32f8=308b+2 32fb=308f fbfd=6cc fe15=21 fe90=628 fe96=62a fe9a=62b fe9e=62c fea2=62d",
   "28: fea6=62e feb2=633 feb6=634 feba=635 febe=636 fec2=637 fec6=638 feca=639 fece=63a fed2=641 fed6=642",
   "28: feda=643 fede=644 fee2=645 fee6=646 feea=647 1d6b3=3bc 1d6b8=3c1 1d6ed=3bc 1d6f2=3c1 1d727=3bc",
   "28: 1d72c=3c1 1d761=3bc 1d766=3c1 1d79b=3bc 1d7a0=3c1 1e03c=43e 1f12b=63 1f12c=72 1f150=61+15 1f167=78+2",
   "29: 2080=30+8",
   "2b: aa=61 ba=6f 2b0=68~1 2b3=72 2b8=79 2e1=6c 2e2=73 2e3=78 1d43=61 1d47=62 1d48=64+1 1d4d=67 1d4f=6b",
   "2b: 1d50=6d~1 1d56=70 1d57=74+1 1d5b=76 1d9c=63 1da0=66 1dbb=7a 2071=69 207f=6e 107a5=71",
   "2c: 1d45=251 1d4b=25b 1d51=14b 1d5d=3b2 1d60=3c6 1d78=43d 1db3=282+1 1dbe=292 208d=28+1 32d0=3042",
   "2c: 32d1=3044 32d2=3046 32d3=3048 32d4=304a 32e1=3064 32f2=3082 32f3=3084 32f4=3086 32fc=3090+1 a69d=44c",
   "2c: a770=a76f fb9e=6ba fbd7=6c7 fe11=3001 fe14=3b fe33=5f fe34=5f fe37=7b fe38=7d fe39=3014+1 fea9=62f",
   "2c: feab=630 fead=631 feaf=632 fef2=64a ffa1=1100 ffa4=1102 ffa7=1103~1 ffb1=1106+1 ffb5=1109~1",
   "2c: ffb8=110c~1 ffbb=110f+3 ffc2=1161 ffcc=1169 ffd3=116e ffdb=1174 107aa=280 10d64=10d73 10d65=10d81",
   "2c: 1ccec=77 1d416=77 1d44a=77 1d47e=77 1d4b2=77 1d4e6=77 1d51a=77 1d54e=77 1d582=77 1d5b6=77 1d5ea=77",
   "2c: 1d61e=77 1d652=77 1d686=77 1d6ad=3b6+2 1d6b2=3bb~1 1d6b5=3be+1 1d6b9=3b8 1d6ba=3c3+1 1d6bf=3c8",
   "2c: 1d6e7=3b6+2 1d6ec=3bb~1 1d6ef=3be+1 1d6f3=3b8 1d6f4=3c3+1 1d6f9=3c8 1d721=3b6+2 1d726=3bb~1",
   "2c: 1d729=3be+1 1d72d=3b8 1d72e=3c3+1 1d733=3c8 1d75b=3b6+2 1d760=3bb~1 1d763=3be+1 1d767=3b8 1d768=3c3+1",
   "2c: 1d76d=3c8 1d795=3b6+2 1d79a=3bb~1 1d79d=3be+1 1d7a1=3b8 1d7a2=3c3+1 1d7a7=3c8 1d7ca=3dd 1e03b=43c",
   "2c: 1e03e=440~1 1e049=44e",
   "2e: 2b1=266 2e0=263 404=454 429=449 460=461~3 46a=46b~1 472=473 535=565 53b=56b~1 544=574~1 54e=57e",
   "2e: 552=582 5da=5db 5dd=5de 10fc=10dc 1d32=1dd 1d3d=223 1d44=250 1d53=254 1d5a=26f 1d62=69 1d63=72",
   "2e: 1d64=75+1 1d9b=252 1d9d=255 1d9f=25c 1da2=261 1da3=265 1da4=268+2 1da8=29d 1dab=29f 1dac=271",
   "2e: 1dae=272~1 1db1=275 1db6=289+1 1db9=28b+1 1dbc=290+1 2089=39 208b=2212 2090=61 2091=65 2092=6f 2093=78",
   "2e: 2095=68 2096=6b+3 209a=70 209b=73+1 2c00=2c30+6 2c08=2c38+10 2c1b=2c4b+6 2c23=2c53+1 2c26=2c56+4",
   "2e: 2c7c=6a 2c80=2c81 2c92=2c93~1 a648=a649~1 a656=a657 a7b4=a7b5 ab5c=a727 ab5e=26b ab69=28d fb21=5d0",
   "2e: fb22=5d3+1 fb25=5dc fb50=671 fb82=68d fb84=68c~1 fb88=688 fb8a=698 fb8c=691 fbae=6d2 fbd9=6c6~1",
   "2e: fbde=6cb fbe0=6c5 fbe2=6c9 fe12=3002 fe31=2014 fe41=300c+1 fe47=5b fe48=5d fe5f=23 fe60=26 fe61=2a",
   "2e: fe63=2d fe64=3c fe65=3e fe68=5c fe69=24+1 fe6b=40 fe80=621+1 fe83=623 fe85=624 fe87=625 fe93=629",
   "2e: ffa0=1160 ffa2=1101 ffa3=11aa~1 ffa6=11ad ffa8=1104 ffaa=11b0+5 ffb0=111a ffb3=1108 ffb4=1121",
   "2e: ffb6=110a ffb9=110d ffc3=1162+4 ffca=1167+1 ffcd=116a+2 ffd2=116d~1 ffd5=1170+2 ffda=1173~1 10785=253",
   "2e: 1078b=256+1 10791=264 10792=262 10793=260 1079b=26c 107a8=27d 107af=288 11a3c=11a2b 11a91=11a7c+1",
   "2e: 11a93=11a7f 11a94=11a81 11d47=11d26 1e048=44d 1e04a=a689 1e04b=4d9 1e04d=458 1e04e=4e9 1e04f=4af",
   "2e: 1e050=4cf 1e069=455 1e06a=45f 1e06b=4ab 1e06c=a651 1e06d=4b1 1f1a5=64",
   "30: 1d67=3b3 1d68=3c1 1d6a=3c7 208a=2b 208c=3d 24cc=77 fbfc=6cc fe8f=628 fe95=62a fe99=62b fe9d=62c",
   "30: fea1=62d fea5=62e feb1=633 feb5=634 feb9=635 febd=636 fec1=637 fec5=638 fec9=639 fecd=63a fed1=641",
   "30: fed5=642 fed9=643 fedd=644 fee1=645 fee5=646 fee9=647 1d6b1=3ba 1d6eb=3ba 1d725=3ba 1d75f=3ba",
   "30: 1d799=3ba 1e05c=43e 1f166=77",
   "31: 1d2e=62~1 1d33=67 1d36=6a 1d41=75 1d5f=3b4 2094=259 213f=3c0 32e6=306c 32fe=3092 a7f2=63 a7f3=66",
   "31: a7f4=71 fb52=67b fb56=67e fb5a=680 fb5e=67a fb62=67f fb66=679 fb6a=6a4 fb6e=6a6 fb72=684 fb76=683",
   "31: fb7a=686 fb7e=687 fb8e=6a9 fb92=6af fb96=6b3 fb9a=6b1 fba0=6bb fba6=6c1 fbaa=6be fbd3=6ad fbe4=6d0",
   "31: fe10=2c fe13=3a fe16=3f fe89=626 fe8d=627 feed=648 feef=649 1d6a8=3b1 1d6ac=3b5 1d6b0=3b9 1d6b7=3c0",
   "31: 1d6bc=3c5 1d6e2=3b1 1d6e6=3b5 1d6ea=3b9 1d6f1=3c0 1d6f6=3c5 1d71c=3b1 1d720=3b5 1d724=3b9 1d72b=3c0",
   "31: 1d730=3c5 1d756=3b1 1d75a=3b5 1d75e=3b9 1d765=3c0 1d76a=3c5 1d790=3b1 1d794=3b5 1d798=3b9 1d79f=3c0",
   "31: 1d7a4=3c5 1e051=430+8 1e05a=43a+1 1e05d=43f 1e05e=441 1e05f=443+5 1e065=44a+1 1e068=456 1f131=62+2",
   "31: 1f135=66+1 1f139=6a 1f140=71 1f144=75 1f148=79+1 1f171=62+2 1f175=66+1 1f179=6a 1f180=71 1f184=75",
   "31: 1f188=79+1 1f202=3055 1f210=624b 1f211=5b57 1f212=53cc 1f214=4e8c 1f215=591a 1f216=89e3 1f217=5929",
   "31: 1f218=4ea4 1f219=6620 1f21a=7121 1f21b=6599 1f21c=524d 1f21d=5f8c 1f21e=518d 1f21f=65b0 1f220=521d",
   "31: 1f221=7d42 1f222=751f 1f223=8ca9 1f224=58f0 1f225=5439 1f226=6f14 1f227=6295 1f228=6355 1f229=4e00",
   "31: 1f22a=4e09 1f22b=904a 1f22c=5de6 1f22d=4e2d 1f22e=53f3 1f22f=6307 1f230=8d70 1f231=6253 1f232=7981",
   "31: 1f233=7a7a 1f234=5408 1f235=6e80 1f236=6709 1f237=6708 1f238=7533 1f239=5272 1f23a=55b6 1f23b=914d",
   "33: 3c2=3c3 1d66=3b2 1d69=3c6 1dbf=3b8 fe35=28+1 fef1=64a",
   "34: 2b7=77 1d2c=61 1d31=65 1d34=68+1 1d37=6b+3 1d3c=6f 1d3e=70 1d3f=72 1d40=74 2c7d=76 a7f1=73 1f130=61",
   "34: 1f134=65 1f137=68+1 1f13a=6b+5 1f141=72+2 1f145=76~1 1f170=61 1f174=65 1f177=68+1 1f17a=6b+5",
   "34: 1f181=72+2 1f185=76~1 1f18a=70",
   "38: 1d42=77 1f146=77 1f186=77",
   "7000.5: f0=64 6fd=621 6fe=645 714=713 71c=71b 727=726 72d=712 72f=715 7e8=7d6+1 7ea=7d9 f6a=f62 fba=fad",
   "7000.5: fbb=fb1+1 16a1=16a0 16a4=16a2 16a7=16a6~1 16b3=16b2 16bb=16ba 16bf=16be 16c2=16c1~2 16cb=16ca",
   "7000.5: 16d0=16cf 16d3=16d2 16d5=16c8 16d8=16d7 16db=16da~1 16e7=16e6 16e9=16b9 1acc=67 1acd=72 1d79=67",
   "7000.5: 1dd3=61 1dd9=64 2018=27 201c=22 2e80=4e36 2e81=5382 2e84=4e59 2e86=5182 2e87=51e0 2e88=5200",
   "7000.5: 2e8a=535c 2e8b=5369 2e8c=5c0f 2e8e=5c22 2e91=5c23 2e95=5f50 2e97=5fc3 2e9c=65e5 2e9d=6708",
   "7000.5: 2e9e=6b7a 2ea5=722b 2ea7=725b 2ea9=738b 2eaa=758b 2eab=76ee 2eac=793a 2eae=7af9 2eb3=7f53",
   "7000.5: 2eb5=7f52 2eb6=7f8a 2ebb=807f 2ebc=8089 2ebd=81fc 2ebf=8279 2ec7=89d2 2eca=8db3 2ecd=8fb6",
   "7000.5: 2ecf=9091 2ed5=961c 2ed7=96e8 2ede=98e0 2ee1=9996 2ee3=9aa8 2ee4=9b3c 2ee7=9e75 2eeb=9f4a",
   "7000.5: 2eed=9f52 2eef=9f8d 2ef1=9f9c 31a0=3105 31a1=3117 31a2=3110 31a3=310d 31a5=31a4 31a7=311b",
   "7000.5: 31a9=311a 31aa=3127+1 31ae=311e 31af=3120 a77c=66 a783=72 a7c3=77 10980=109a0+6 10988=109a7+2",
   "7000.5: 1098c=109aa 1098e=109ab 10990=109ac+2 10995=109b1+3 1099a=109b5 1099c=109b6+1 109b0=109af",
   "7000.5: 10ac8=10ac7 10b2e=10b2d 10c01=10c00 10c04=10c03 10c08=10c07~5 10c15=10c14~5 10c25=10c24~3",
   "7000.5: 10c2e=10c2d 10c33=10c32~4 10c40=10c3f~3 10cc1=10cc0 10cca=10cc9 10cd1=10cd0 10cdc=10cdb~1",
   "7000.5: 10ce3=10ce2 10ceb=10cea~1 10ec6=646 10f10=10f0e 10f13=10f12 10f17=10f15 10f1c=10f1a 10f45=10f41",
   "7000.5: 115d8=11582 115da=11583+1 115dc=115b2+1 11705=11704 11716=11715 1171a=11708 16e94=31+2 1e067=433",
   "7000.5: 1ecb1=31+1 1ed2f=32~1 1ed32=35+4",
   "7000.20: d0=64 491=433 31b3=3127 a77b=66 a77d=67 a782=72 a7c2=77 10c81=10cc0 10c8a=10cc9 10c91=10cd0",
   "7000.20: 10c9c=10cdb~1 10ca3=10ce2 10cab=10cea~1 1ed30=33",
   "7000.2e: 490=433 1d9e=64",
   "7200.5: 201d=22",
   "7300.5: 16ea=16ca 2019=27",
   "7400.5: 17f=73 16ac=16a8 16b4=16b2 1de5=73 201e=22",
   "7500.5: 16bc=16ba 10993=109af",
   "7600.5: 16cc=16ca 201a=27 201f=22",
   "7800.5: 72e=713 16a5=16a2 16ad=16a8 16b5=16b2 16c0=16be 16d1=16cf 16d4=16d2 16d9=16d7 16e8=16e6 1ace=74",
   "7800.5: 1dd8=64 1de3=72 2e42=22 2e8d=5c0f 2eb4=7f53 2eb7=7f8a 2ec0=8279 2ece=8fb6 2ef2=9f9c 31a8=3128",
   "7800.5: a75b=72 a77a=64 a785=73 a787=74 10987=109a6 1098b=109a9 1098d=109aa 1098f=109ab 10999=109b4",
   "7800.5: 1099b=109b5 10ccb=10cc9 10cdf=10cdd 115d9=11582",
   "7800.20: a75a=72 a779=64 a784=73 a786=74 10c8b=10cc9 10c9f=10cdd",
   "7900.5: 16cd=16ca 201b=27",
   "7a00.5: 16bd=16ba 301d=22 10994=109af",
   "7c00.5: 5f3=27 16ae=16a8 16b6=16b2 16ce=16ca 301e=22 a7d9=73",
   "7c00.20: a7d8=73",
   "7e02.5: 301f=22",
   "7f02.5: 5f4=22"]

end EnquiryMail.Text
