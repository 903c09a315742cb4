/-
Characters that stand for several, such as ligatures and fractions. A line begins with the weights of these: the form,
or accent and form with a point between them. `bd=31.2044.32` is a character with those that it stands for; a zero is a
mark alone.
-/

namespace EnquiryMail.Text

/-- characters that stand for several -/
def Collation.expansionTable : List String :=
  ["e44a.20 e66e.2e: fc5e=0.0",
   "e4b0.20 e66e.2e: fc5f=0.0",
   "e518.2e e66e.2e: fc60=0.0",
   "e518.20 e66e.20: fcf2=0.0",
   "e5a0.2e e66e.2e: fc61=0.0",
   "e5a0.20 e66e.20: fcf3=0.0",
   "e608.2e e66e.2e: fc62=0.0",
   "e608.20 e66e.20: fcf4=0.0",
   "e66e.2e e9a4.2c: fc63=0.0",
   "28 28: fc6c=628.645 fc6d=628.646 fc72=62a.645 fc73=62a.646 fc78=62b.645 fc79=62b.646 fc81=643.644",
   "28 28: fc82=643.645 fc85=644.645 fc89=645.645 fc8c=646.645 fc8d=646.646 fd25=634.62c fd26=634.62d",
   "28 28: fd27=634.62e fd28=634.645 fe30=2e.2e 1f12d=63.64",
   "28 2c: fc6f=628.64a fc75=62a.64a fc7b=62b.64a fc7d=641.64a fc7f=642.64a fc84=643.64a fc87=644.64a",
   "28 2c: fc8f=646.64a fd12=637.64a fd14=639.64a fd16=63a.64a fd18=633.64a fd1a=634.64a fd1c=62d.64a",
   "28 2c: fd1e=62c.64a fd20=62e.64a fd22=635.64a fd24=636.64a",
   "28 1e: fc6a=628.631 fc6b=628.632 fc70=62a.631 fc71=62a.632 fc76=62b.631 fc77=62b.632 fc8a=646.631",
   "28 1e: fc8b=646.632 fd29=634.631 fd2a=633.631 fd2b=635.631 fd2c=636.631",
   "28 20: fef6=644.622 fef8=644.623 fefa=644.625",
   "28 26: fc6e=628.649 fc74=62a.649 fc7a=62b.649 fc7c=641.649 fc7e=642.649 fc80=643.627 fc83=643.649",
   "28 26: fc86=644.649 fc88=645.627 fc8e=646.649 fd11=637.649 fd13=639.649 fd15=63a.649 fd17=633.649",
   "28 26: fd19=634.649 fd1b=62d.649 fd1d=62c.649 fd1f=62e.649 fd21=635.649 fd23=636.649 fefc=644.627",
   "2b 9e00.20: 107a2=6f.0",
   "2b b200.20: a7f8=68.0 10795=68.0",
   "2b 2b: 2120=73.6d 2122=74.6d 10780=61.61 10787=64.7a 10799=6c.73 1079a=6c.7a 107ac=74.73 1f16a=6d.63",
   "2b 2b: 1f16b=6d.64 1f16c=6d.72",
   "2b 2c: 1078a=64.292 10790=66.14b 107ad=74.282 107ae=74.283",
   "2b 2e: 10788=64.290 10789=64.291 107ab=74.255",
   "2c e9a4.2c: fc5b=630.0 fc5c=631.0",
   "2c 28: fc93=64a.645 fc94=64a.646",
   "2c 2c: 30ff=3053.3068 fc96=64a.64a",
   "2c 1e: fc91=64a.631 fc92=64a.632",
   "2c 26: fc95=64a.649",
   "2e e6d4.2e: fba4=6d5.0 fbb0=6d2.0",
   "2e 2c: 309f=3088.308a fbdd=621.6c7",
   "2e 2e: 33c4=63.63 33c5=63.64",
   "2e 31: 3372=64.61 3377=64.6d 3397=64.6c 3399=66.6d 339d=63.6d 33c8=64.62 1f19b=33.64",
   "2e 34: 1f19d=32.6b 1f19e=34.6b 1f19f=38.6b",
   "30 28: 1f12e=77.7a",
   "30 2c: fd0d=634.631 fd0e=633.631 fd0f=635.631 fd10=636.631",
   "30 2e: 338d=3bc.67 fef5=644.622 fef7=644.623 fef9=644.625",
   "30 30: 3355=308c.3080 fc05=628.62c fc06=628.62d fc07=628.62e fc08=628.645 fc0b=62a.62c fc0c=62a.62d",
   "30 30: fc0d=62a.62e fc0e=62a.645 fc11=62b.62c fc12=62b.645 fc15=62c.62d fc16=62c.645 fc17=62d.62c",
   "30 30: fc18=62d.645 fc19=62e.62c fc1a=62e.62d fc1b=62e.645 fc1c=633.62c fc1d=633.62d fc1e=633.62e",
   "30 30: fc1f=633.645 fc20=635.62d fc21=635.645 fc22=636.62c fc23=636.62d fc24=636.62e fc25=636.645",
   "30 30: fc26=637.62d fc27=637.645 fc28=638.645 fc29=639.62c fc2a=639.645 fc2b=63a.62c fc2c=63a.645",
   "30 30: fc2d=641.62c fc2e=641.62d fc2f=641.62e fc30=641.645 fc33=642.62d fc34=642.645 fc38=643.62c",
   "30 30: fc39=643.62d fc3a=643.62e fc3b=643.644 fc3c=643.645 fc3f=644.62c fc40=644.62d fc41=644.62e",
   "30 30: fc42=644.645 fc45=645.62c fc46=645.62d fc47=645.62e fc48=645.645 fc4b=646.62c fc4c=646.62d",
   "30 30: fc4d=646.62e fc4e=646.645 fc51=647.62c fc52=647.645 fd09=634.62c fd0a=634.62d fd0b=634.62e",
   "30 30: fd0c=634.645 1f200=307b.304b",
   "30 31: 333f=307b.3093 338c=3bc.66 3395=3bc.6c 339b=3bc.6d 33b2=3bc.73 fc09=628.649 fc0f=62a.649",
   "30 31: fc13=62b.649 fc31=641.649 fc35=642.649 fc37=643.627 fc3d=643.649 fc43=644.649 fc49=645.649",
   "30 31: fc4f=646.649 fc53=647.649 fcf5=637.649 fcf7=639.649 fcf9=63a.649 fcfb=633.649 fcfd=634.649",
   "30 31: fcff=62d.649 fd01=62c.649 fd03=62e.649 fd05=635.649 fd07=636.649 fefb=644.627",
   "30 33: fc0a=628.64a fc10=62a.64a fc14=62b.64a fc32=641.64a fc36=642.64a fc3e=643.64a fc44=644.64a",
   "30 33: fc4a=645.64a fc50=646.64a fc54=647.64a fcf6=637.64a fcf8=639.64a fcfa=63a.64a fcfc=633.64a",
   "30 33: fcfe=634.64a fd00=62d.64a fd02=62c.64a fd04=62e.64a fd06=635.64a fd08=636.64a",
   "30 34: 3382=3bc.61 33b6=3bc.76",
   "30 38: 33bc=3bc.77",
   "31 ae00.2e: 1f213=3066.0",
   "31 e3e2.2c: fd3d=627.0",
   "31 e9a4.2c: fc5d=649.0",
   "31 2c: fbf0=626.6c7",
   "31 2e: 3376=70.63 338e=6d.67 338f=6b.67 33a1=6d.32 33a5=6d.33 33c3=62.71 33c9=67.79 33d4=6d.62",
   "31 2e: fbec=626.6d5 fbf2=626.6c6 fbf4=626.6c8",
   "31 30: 3314=304d.308d fc00=626.62c fc01=626.62d fc02=626.645",
   "31 31: 32ff=4ee4.548c 3328=306a.306e 337b=5e73.6210 337c=662d.548c 337d=5927.6b63 337e=660e.6cbb",
   "31 31: 3387=67.62 338a=70.66 338b=6e.66 3396=6d.6c 3398=6b.6c 339a=6e.6d 339c=6d.6d 339e=6b.6d 33b0=70.73",
   "31 31: 33b1=6e.73 33b3=6d.73 33c0=6b.3c9 33ca=68.61 33cc=69.6e 33cf=6b.74 33d0=6c.6d 33d1=6c.6e 33d3=6c.78",
   "31 31: 33db=73.72 fbea=626.627 fbee=626.648 fbf6=626.6d0 fbf9=626.649 fc03=626.649 1f190=64.6a",
   "31 33: 3349=307f.308a fc04=626.64a",
   "31 34: 32ce=65.76 3375=6f.76 3380=70.61 3381=6e.61 3383=6d.61 3384=6b.61 33b4=70.76 33b5=6e.76 33b7=6d.76",
   "31 34: 33b8=6b.76 1f191=63.6c",
   "31 38: 33ba=70.77 33bb=6e.77 33bd=6d.77 33be=6b.77",
   "5 9e00.5: f8=6f.0",
   "5 ae00.5: 3032=3031.0 3034=3033.0",
   "5 b200.5: 111=64.0 127=68.0 142=6c.0 210f=68.0",
   "5 fbb6.5: 140=6c.0",
   "33 30: 3352=308a.3089 fc55=64a.62c fc56=64a.62d fc57=64a.62e fc58=64a.645",
   "33 31: 3327=3068.3093 fc59=64a.649",
   "33 33: fc5a=64a.64a 1f201=3053.3053",
   "33 20: 215f=31.2044",
   "34 2e: 32cc=68.67 3390=68.7a 1f1a6=68.63",
   "34 31: 3373=61.75 337a=69.75 3385=6b.62 3386=6d.62 33a9=70.61 33c1=6d.3c9 33dc=73.76 1f14c=73.64",
   "34 31: 1f18b=69.63 1f18e=61.62 1f194=69.64 1f196=6e.67",
   "34 34: 33b9=6d.76 33cb=68.70 33cd=6b.6b 33ce=6b.6d 33d7=70.68 33da=70.72 1f14a=68.76 1f14b=6d.76",
   "34 34: 1f14d=73.73 1f18c=70.61 1f18d=73.61 1f197=6f.6b 1f19a=76.73",
   "34 38: 33bf=6d.77",
   "38 2e: 33dd=77.62",
   "38 31: 1f14f=77.63 1f18f=77.63",
   "10 9600.20: a676=456.0",
   "10 10: 2df5=441.442 fbf8=626.6d0 fbfb=626.649",
   "10 18: fc97=626.62c fc98=626.62d fc99=626.62e fc9a=626.645 fc9b=626.647",
   "13 9600.20: 1df2=61.0 1df3=6f.0 1df4=75.0 a79b=61.0 a79d=6f.0 a79f=75.0",
   "13 a000.20: 1dd7=63.0",
   "13 a200.20: a7c1=61.0",
   "13 a800.20: 1ded=6f.0 1df0=75.0",
   "13 aa00.20: a7a1=67.0 a7a3=6b.0 a7a5=6e.0 a7a7=72.0 a7a9=73.0",
   "13 10: 2a4=64.292 2a7=74.283 2a9=66.14b ab67=74.282",
   "13 13: 133=69.6a 1be=74.73 1c9=6c.6a 1cc=6e.6a 1f3=64.7a 238=64.62 239=71.70 2a3=64.7a 2a6=74.73 2aa=6c.73",
   "13 13: 2ab=6c.7a 1dd5=61.6f 1dd6=61.76 1efb=6c.6c 2171=69.69 2173=69.76 2175=76.69 2178=69.78 217a=78.69",
   "13 13: a729=74.7a a733=61.61 a735=61.6f a737=61.75 a739=61.76 a73d=61.79 a74f=6f.6f a761=76.79 fb00=66.66",
   "13 13: fb01=66.69 fb02=66.6c fb06=73.74",
   "13 14: 18d=7a.77",
   "13 20: 2a5=64.291 2a8=74.255 1e9a=61.2be ab66=64.290 1df12=64.1df18 1df17=74.1d8b 1df19=64.1d9a",
   "13 20: 1df1c=74.1d98",
   "15 10: 32c0=31.6708 32c1=32.6708 32c2=33.6708 32c3=34.6708 32c4=35.6708 32c5=36.6708 32c6=37.6708",
   "15 10: 32c7=38.6708 3358=30.70b9 3359=31.70b9 335a=32.70b9 335b=33.70b9 335c=34.70b9 335d=35.70b9",
   "15 10: 335e=36.70b9 335f=37.70b9 3360=38.70b9 33e0=31.65e5 33e1=32.65e5 33e2=33.65e5 33e3=34.65e5",
   "15 10: 33e4=35.65e5 33e5=36.65e5 33e6=37.65e5 33e7=38.65e5",
   "15 18: 2488=31.2e 2489=32.2e 248a=33.2e 248b=34.2e 248c=35.2e 248d=36.2e 248e=37.2e 248f=38.2e 1f100=30.2e",
   "15 1b: 1f101=30.2c 1f102=31.2c 1f103=32.2c 1f104=33.2c 1f105=34.2c 1f106=35.2c 1f107=36.2c 1f108=37.2c",
   "15 1b: 1f109=38.2c",
   "16 10: 32c8=39.6708 3361=39.70b9 33e8=39.65e5",
   "16 18: 2490=39.2e",
   "16 1b: 1f10a=39.2c",
   "18 e9a4.10: fcd9=647.0",
   "18 18: 2025=2e.2e 203c=21.21 2a75=3d.3d fc9c=628.62c fc9d=628.62d fc9e=628.62e fc9f=628.645 fca0=628.647",
   "18 18: fca1=62a.62c fca2=62a.62d fca3=62a.62e fca4=62a.645 fca5=62a.647 fca6=62b.645 fca7=62c.62d",
   "18 18: fca8=62c.645 fca9=62d.62c fcaa=62d.645 fcab=62e.62c fcac=62e.645 fcad=633.62c fcae=633.62d",
   "18 18: fcaf=633.62e fcb0=633.645 fcb1=635.62d fcb2=635.62e fcb3=635.645 fcb4=636.62c fcb5=636.62d",
   "18 18: fcb6=636.62e fcb7=636.645 fcb8=637.62d fcb9=638.645 fcba=639.62c fcbb=639.645 fcbc=63a.62c",
   "18 18: fcbd=63a.645 fcbe=641.62c fcbf=641.62d fcc0=641.62e fcc1=641.645 fcc2=642.62d fcc3=642.645",
   "18 18: fcc4=643.62c fcc5=643.62d fcc6=643.62e fcc7=643.644 fcc8=643.645 fcc9=644.62c fcca=644.62d",
   "18 18: fccb=644.62e fccc=644.645 fccd=644.647 fcce=645.62c fccf=645.62d fcd0=645.62e fcd1=645.645",
   "18 18: fcd2=646.62c fcd3=646.62d fcd4=646.62e fcd5=646.645 fcd6=646.647 fcd7=647.62c fcd8=647.645",
   "18 18: fd2d=634.62c fd2e=634.62d fd2f=634.62e fd30=634.645 fd31=633.647 fd32=634.647 fd33=637.645",
   "18 1b: 2049=21.3f",
   "1b 18: 2048=3f.21",
   "1b 1b: 2047=3f.3f",
   "1b 20: fcdf=626.645 fce0=626.647",
   "1c 9e00.5: d8=6f.0",
   "1c b200.5: 110=64.0 126=68.0 141=6c.0",
   "1c fbb6.5: 13f=6c.0",
   "3 3: 3006=3057.3081 303c=307e.3059",
   "1e 18: fcda=64a.62c fcdb=64a.62d fcdc=64a.62e fcdd=64a.645 fcde=64a.647",
   "1e 1e: 326e=1100.1161 326f=1102.1161 3270=1103.1161 3271=1105.1161 3272=1106.1161 3273=1107.1161",
   "1e 1e: 3274=1109.1161 3275=110b.1161 3276=110c.1161 3277=110e.1161 3278=110f.1161 3279=1110.1161",
   "1e 1e: 327a=1111.1161 327b=1112.1161 327e=110b.116e",
   "1f 1f: 2469=31.30 246a=31.31 246b=31.32 246c=31.33 246d=31.34 246e=31.35 246f=31.36 2470=31.37 2471=31.38",
   "1f 1f: 2473=32.30 24eb=31.31 24ec=31.32 24ed=31.33 24ee=31.34 24ef=31.35 24f0=31.36 24f1=31.37 24f2=31.38",
   "1f 1f: 24f4=32.30 24fe=31.30 277f=31.30 2789=31.30 2793=31.30 3248=31.30 3249=32.30 324a=33.30 324b=34.30",
   "1f 1f: 324c=35.30 324d=36.30 324e=37.30 324f=38.30 3251=32.31 3252=32.32 3253=32.33 3254=32.34 3255=32.35",
   "1f 1f: 3256=32.36 3257=32.37 3258=32.38 325a=33.30 325b=33.31 325c=33.32 325d=33.33 325e=33.34 325f=33.35",
   "1f 1f: 32b1=33.36 32b2=33.37 32b3=33.38 32b5=34.30 32b6=34.31 32b7=34.32 32b8=34.33 32b9=34.34 32ba=34.35",
   "1f 1f: 32bb=34.36 32bc=34.37 32bd=34.38 32bf=35.30",
   "1f 22: 2472=31.39 24f3=31.39 3259=32.39 32b4=33.39 32be=34.39",
   "20 e6d4.20: fba5=6d5.0 fbb1=6d2.0",
   "20 10: 675=621.627 676=621.648 677=621.6c7 678=621.64a",
   "20 13: 149=2bc.6e",
   "20 20: 587=565.582 5f0=5d5.5d5 5f1=5d5.5d9 5f2=5d9.5d9 9ce=9a4.9cd c5d=c28.c4d cdd=ca8.ccd d4e=d30.d4d",
   "20 20: d54=d2e.d4d d55=d2f.d4d d56=d34.d4d d7a=d23.d4d d7b=d28.d4d d7c=d30.d4d d7d=d32.d4d d7e=d33.d4d",
   "20 20: d7f=d15.d4d edc=eab.e99 edd=eab.ea1 16ee=16c5.16da 16f0=16a6.16a6 191d=1908.1929 191e=190b.192a",
   "20 20: 19de=199c.19b6 2033=2032.2032 2036=2035.2035 222c=222b.222b 222f=222e.222e a613=a50c.a60b",
   "20 20: a614=a51e.a60b a615=a533.a60b a616=a547.a60c a617=a552.a60b a618=a558.a60c a619=a55a.a60c",
   "20 20: a61a=a560.a60b a61b=a585.a60b a61c=a5b4.a60b a61d=a5cb.a60b a61e=a5d1.a60c a61f=a5d8.a60b",
   "20 20: fb13=574.576 fb14=574.565 fb15=574.56b fb16=57e.576 fb17=574.56d fb4f=5d0.5dc fce1=628.645",
   "20 20: fce2=628.647 fce3=62a.645 fce4=62a.647 fce5=62b.645 fce6=62b.647 fce7=633.645 fce8=633.647",
   "20 20: fce9=634.645 fcea=634.647 fceb=643.644 fcec=643.645 fced=644.645 fcee=646.645 fcef=646.647",
   "20 20: fd34=633.62c fd35=633.62d fd36=633.62e fd37=634.62c fd38=634.62d fd39=634.62e fd3a=637.645",
   "20 20: fd3b=638.645 10f27=10f12.10f18 10ff6=10fe6.10fe9",
   "20 22: 2103=b0.63 2109=b0.66",
   "22 9600.20: a79a=61.0 a79c=6f.0 a79e=75.0",
   "22 a200.20: a7c0=61.0",
   "22 aa00.20: a7a0=67.0 a7a2=6b.0 a7a4=6e.0 a7a6=72.0 a7a8=73.0",
   "22 13: 1c8=6c.6a 1cb=6e.6a 1f2=64.7a 20a8=72.73 2116=6e.6f a728=74.7a",
   "22 22: 132=69.6a 1c7=6c.6a 1ca=6e.6a 1f1=64.7a 1efa=6c.6c 2161=69.69 2163=69.76 2165=76.69 2168=69.78",
   "22 22: 216a=78.69 a732=61.61 a734=61.6f a736=61.75 a738=61.76 a73c=61.79 a74e=6f.6f a760=76.79",
   "25 20: fcf0=64a.645 fcf1=64a.647",
   "26 e3e2.1e: fd3c=627.0",
   "26 e9a4.1e: fc90=649.0",
   "26 28: fc66=626.645 fc67=626.646",
   "26 2c: fc69=626.64a",
   "26 1e: fbf1=626.6c7 fc64=626.631 fc65=626.632",
   "26 20: fbed=626.6d5 fbf3=626.6c6 fbf5=626.6c8",
   "26 26: fbeb=626.627 fbef=626.648 fbf7=626.6d0 fbfa=626.649 fc68=626.649",
   "7000.2e 2b: 1d2d=61.65 a7f9=6f.65 10783=61.65",
   "7000.5 13: df=73.73 e6=61.65 153=6f.65 1d7a=74.68 1dd4=61.65 a73b=61.76",
   "7000.5 7000.5: 16ef=16d7.16d7",
   "7000.20 22: c6=61.65 152=6f.65 1e9e=73.73 a73a=61.76",
   "7400.5 13: fb05=73.74",
   "7800.5 10: 1df00=66.14b",
   "28 28 28: fd51=62a.62d.62c fd58=62c.645.62d fd5f=633.645.62d fd62=633.645.645 fd64=635.62d.62d",
   "28 28 28: fd66=635.645.645 fd67=634.62d.645 fd6a=634.645.62e fd6c=634.645.645 fd6f=636.62e.645",
   "28 28 28: fd71=637.645.62d fd75=639.62c.645 fd76=639.645.645 fd79=63a.645.645 fd7c=641.62e.645",
   "28 28 28: fd7e=642.645.62d fd7f=642.645.645 fd80=644.62d.645 fd84=644.62c.62c fd85=644.62e.645",
   "28 28 28: fd87=644.645.62d fd97=646.62c.645 fdbb=643.645.645 fdbc=644.62c.645 fdbd=646.62c.62d",
   "28 28 28: fe19=2e.2e.2e",
   "28 28 2c: fd5a=62d.645.64a fd69=634.62c.64a fd74=637.645.64a fd7a=63a.645.64a fd81=644.62d.64a",
   "28 28 2c: fd8b=645.62d.64a fd9a=646.645.64a fd9e=628.62e.64a fd9f=62a.62c.64a fda1=62a.62e.64a",
   "28 28 2c: fda3=62a.645.64a fda5=62c.645.64a fda9=635.62d.64a fdaa=634.62d.64a fdab=636.62d.64a",
   "28 28 2c: fdac=644.62c.64a fdad=644.645.64a fdb1=645.645.64a fdb2=642.645.64a fdb3=646.62d.64a",
   "28 28 2c: fdb6=639.645.64a fdb7=643.645.64a fdb9=645.62e.64a fdbe=62c.62d.64a fdbf=62d.62c.64a",
   "28 28 2c: fdc0=645.62c.64a fdc1=641.645.64a fdc2=628.62d.64a fdc6=633.62e.64a fdc7=646.62c.64a",
   "28 28 26: fd5b=62d.645.649 fd5e=633.62c.649 fd6e=636.62d.649 fd78=639.645.649 fd7b=63a.645.649",
   "28 28 26: fd82=644.62d.649 fd96=646.62d.649 fd99=646.62c.649 fd9b=646.645.649 fda0=62a.62c.649",
   "28 28 26: fda2=62a.62e.649 fda4=62a.645.649 fda6=62c.62d.649 fda7=62c.645.649 fda8=633.62e.649",
   "28 10 10: 3cf=3ba.3b1.3b9",
   "2c 28 28: fd9c=64a.645.645",
   "2c 28 2c: fdae=64a.62d.64a fdaf=64a.62c.64a fdb0=64a.645.64a",
   "2e 2e 34: 1f1a3=36.30.70",
   "2e 30 2e: 1f1a0=35.2e.31 1f1a1=37.2e.31",
   "2e 31 2e: 3378=64.6d.32 3379=64.6d.33 33a0=63.6d.32 33a4=63.6d.33",
   "2e 31 31: 3374=62.61.72 3388=63.61.6c 33ff=67.61.6c",
   "30 ae00.2e 30: 3331=3072.0.308b",
   "30 b000.2e 31: 3337=3078.0.305d",
   "30 b000.2e 33: 3330=3072.0.3053",
   "30 2e 30: 331c=3051.30fc.3059 3341=307b.30fc.308b",
   "30 2e 31: 3342=307b.30fc.3093",
   "30 30 2e: fdf0=635.644.6d2 fdf1=642.644.6d2",
   "30 30 31: 3335=3075.3089.3093 fdf9=635.644.649",
   "30 30 33: 3339=3078.308b.3064",
   "30 33 33: 330b=304b.3044.308a 332a=306f.3044.3064 3357=308f.3064.3068",
   "31 ae00.2e 30: 3325=3066.0.3057",
   "31 30 ae00.2e: 334b=3081.304b.0",
   "31 30 30: 3346=307e.308b.304f",
   "31 31 2e: 32cd=65.72.67 339f=6d.6d.32 33a2=6b.6d.32 33a3=6d.6d.33 33a6=6b.6d.33 33ad=72.61.64",
   "31 31 2e: 33d2=6c.6f.67",
   "31 31 30: 33c7=63.6f.2e",
   "31 31 31: 3322=305b.3093.3061 33d5=6d.69.6c 33d6=6d.6f.6c",
   "31 31 33: 3323=305b.3093.3068",
   "31 33 30: 3344=307e.3044.308b 3345=307e.3064.306f",
   "31 33 33: 3329=306e.3064.3068",
   "31 34 2e: 3391=6b.68.7a 3393=67.68.7a",
   "31 34 30: 1f199=75.70.21",
   "31 34 31: 3371=68.70.61 33aa=6b.70.61 33ac=67.70.61 1f1ab=75.68.64",
   "31 20 31: 33a7=6d.2215.73",
   "33 ae00.2e 30: 3326=3068.0.308b",
   "33 2e 30: 3303=3042.30fc.308b 330a=304a.30fc.3080 334f=3084.30fc.308b",
   "33 30 31: 331d=3053.308b.306a",
   "33 31 30: 3309=304a.3093.3059",
   "33 31 31: 3305=3044.3093.3061",
   "33 33 31: 3306=3046.304a.3093 3350=3086.3042.3093",
   "33 20 33: bc=31.2044.34 bd=31.2044.32 be=33.2044.34 2150=31.2044.37 2153=31.2044.33 2154=32.2044.33",
   "33 20 33: 2155=31.2044.35 2156=32.2044.35 2157=33.2044.35 2158=34.2044.35 2159=31.2044.36 215a=35.2044.36",
   "33 20 33: 215b=31.2044.38 215c=33.2044.38 215d=35.2044.38 215e=37.2044.38 2189=30.2044.33",
   "33 20 34: 2151=31.2044.39",
   "34 2e 34: 1f1a7=68.64.72",
   "34 34 2e: 3392=6d.68.7a 3394=74.68.7a",
   "34 34 31: 32cf=6c.74.64 33ab=6d.70.61 1f1ac=76.6f.64",
   "34 34 34: 3250=70.74.65 33d9=70.70.6d 1f14e=70.70.76 1f198=73.6f.73 1f1aa=73.68.76",
   "34 34 38: 1f195=6e.65.77",
   "34 20 31: 33de=76.2215.6d 33df=61.2215.6d",
   "10 10 10: 3d7=3ba.3b1.3b9 1f240=3014.672c.3015 1f241=3014.4e09.3015 1f242=3014.4e8c.3015",
   "10 10 10: 1f243=3014.5b89.3015 1f244=3014.70b9.3015 1f245=3014.6253.3015 1f246=3014.76d7.3015",
   "10 10 10: 1f247=3014.52dd.3015 1f248=3014.6557.3015",
   "10 22 10: 1f12a=3014.73.3015",
   "13 2e 13: 2100=61.2f.63 2101=61.2f.73 2105=63.2f.6f 2106=63.2f.75",
   "13 13 9000.20: 1c6=64.7a.0",
   "13 13 13: 2172=69.69.69 2176=76.69.69 217b=78.69.69 fb03=66.66.69 fb04=66.66.6c",
   "15 15 10: 32c9=31.30.6708 32ca=31.31.6708 32cb=31.32.6708 3362=31.30.70b9 3363=31.31.70b9 3364=31.32.70b9",
   "15 15 10: 3365=31.33.70b9 3366=31.34.70b9 3367=31.35.70b9 3368=31.36.70b9 3369=31.37.70b9 336a=31.38.70b9",
   "15 15 10: 336c=32.30.70b9 336d=32.31.70b9 336e=32.32.70b9 336f=32.33.70b9 3370=32.34.70b9 33e9=31.30.65e5",
   "15 15 10: 33ea=31.31.65e5 33eb=31.32.65e5 33ec=31.33.65e5 33ed=31.34.65e5 33ee=31.35.65e5 33ef=31.36.65e5",
   "15 15 10: 33f0=31.37.65e5 33f1=31.38.65e5 33f3=32.30.65e5 33f4=32.31.65e5 33f5=32.32.65e5 33f6=32.33.65e5",
   "15 15 10: 33f7=32.34.65e5 33f8=32.35.65e5 33f9=32.36.65e5 33fa=32.37.65e5 33fb=32.38.65e5 33fd=33.30.65e5",
   "15 15 10: 33fe=33.31.65e5",
   "15 15 18: 2491=31.30.2e 2492=31.31.2e 2493=31.32.2e 2494=31.33.2e 2495=31.34.2e 2496=31.35.2e",
   "15 15 18: 2497=31.36.2e 2498=31.37.2e 2499=31.38.2e 249b=32.30.2e",
   "15 16 10: 336b=31.39.70b9 33f2=31.39.65e5 33fc=32.39.65e5",
   "15 16 18: 249a=31.39.2e",
   "17 28 17: 1f126=28.77.29",
   "17 10 17: 3200=28.1100.29 3201=28.1102.29 3202=28.1103.29 3203=28.1105.29 3204=28.1106.29 3205=28.1107.29",
   "17 10 17: 3206=28.1109.29 3207=28.110b.29 3208=28.110c.29 3209=28.110e.29 320a=28.110f.29 320b=28.1110.29",
   "17 10 17: 320c=28.1111.29 320d=28.1112.29 3220=28.4e00.29 3221=28.4e8c.29 3222=28.4e09.29 3223=28.56db.29",
   "17 10 17: 3224=28.4e94.29 3225=28.516d.29 3226=28.4e03.29 3227=28.516b.29 3228=28.4e5d.29 3229=28.5341.29",
   "17 10 17: 322a=28.6708.29 322b=28.706b.29 322c=28.6c34.29 322d=28.6728.29 322e=28.91d1.29 322f=28.571f.29",
   "17 10 17: 3230=28.65e5.29 3231=28.682a.29 3232=28.6709.29 3233=28.793e.29 3234=28.540d.29 3235=28.7279.29",
   "17 10 17: 3236=28.8ca1.29 3237=28.795d.29 3238=28.52b4.29 3239=28.4ee3.29 323a=28.547c.29 323b=28.5b66.29",
   "17 10 17: 323c=28.76e3.29 323d=28.4f01.29 323e=28.8cc7.29 323f=28.5354.29 3240=28.796d.29 3241=28.4f11.29",
   "17 10 17: 3242=28.81ea.29 3243=28.81f3.29",
   "17 13 17: 249c=28.61.29 249d=28.62.29 249e=28.63.29 249f=28.64.29 24a0=28.65.29 24a1=28.66.29",
   "17 13 17: 24a2=28.67.29 24a3=28.68.29 24a4=28.69.29 24a5=28.6a.29 24a6=28.6b.29 24a7=28.6c.29",
   "17 13 17: 24a8=28.6d.29 24a9=28.6e.29 24aa=28.6f.29 24ab=28.70.29 24ac=28.71.29 24ad=28.72.29",
   "17 13 17: 24ae=28.73.29 24af=28.74.29 24b0=28.75.29 24b1=28.76.29 24b3=28.78.29 24b4=28.79.29",
   "17 13 17: 24b5=28.7a.29",
   "17 14 17: 24b2=28.77.29",
   "17 15 17: 2474=28.31.29 2475=28.32.29 2476=28.33.29 2477=28.34.29 2478=28.35.29 2479=28.36.29",
   "17 15 17: 247a=28.37.29 247b=28.38.29",
   "17 16 17: 247c=28.39.29",
   "17 22 17: 1f110=28.61.29 1f111=28.62.29 1f112=28.63.29 1f113=28.64.29 1f114=28.65.29 1f115=28.66.29",
   "17 22 17: 1f116=28.67.29 1f117=28.68.29 1f118=28.69.29 1f119=28.6a.29 1f11a=28.6b.29 1f11b=28.6c.29",
   "17 22 17: 1f11c=28.6d.29 1f11d=28.6e.29 1f11e=28.6f.29 1f11f=28.70.29 1f120=28.71.29 1f121=28.72.29",
   "17 22 17: 1f122=28.73.29 1f123=28.74.29 1f124=28.75.29 1f125=28.76.29 1f127=28.78.29 1f128=28.79.29",
   "17 22 17: 1f129=28.7a.29",
   "18 18 18: 2026=2e.2e.2e 2a76=3d.3d.3d fd50=62a.62c.645 fd52=62a.62d.62c fd53=62a.62d.645 fd54=62a.62e.645",
   "18 18 18: fd55=62a.645.62c fd56=62a.645.62d fd57=62a.645.62e fd59=62c.645.62d fd5c=633.62d.62c",
   "18 18 18: fd5d=633.62c.62d fd60=633.645.62d fd61=633.645.62c fd63=633.645.645 fd65=635.62d.62d",
   "18 18 18: fd68=634.62d.645 fd6b=634.645.62e fd6d=634.645.645 fd70=636.62e.645 fd72=637.645.62d",
   "18 18 18: fd73=637.645.645 fd77=639.645.645 fd7d=641.62e.645 fd83=644.62c.62c fd86=644.62e.645",
   "18 18 18: fd88=644.645.62d fd89=645.62d.62c fd8a=645.62d.645 fd8c=645.62c.62d fd8d=645.62c.645",
   "18 18 18: fd8e=645.62e.62c fd8f=645.62e.645 fd92=645.62c.62e fd93=647.645.62c fd94=647.645.645",
   "18 18 18: fd95=646.62d.645 fd98=646.62c.645 fdb4=642.645.62d fdb5=644.62d.645 fdb8=646.62c.62d",
   "18 18 18: fdba=644.62c.645 fdc3=643.645.645 fdc4=639.62c.645 fdc5=635.645.645",
   "1b 1b 18: 2a74=3a.3a.3d",
   "1e 18 18: fd9d=64a.645.645",
   "20 20 efaa.20: f00=f68.f7c.0",
   "20 20 20: 103f=101e.1039.101e 19df=199c.19b6.19c1 1a54=1a46.1a60.1a46 1b4c=1b1a.1b44.1b1c",
   "20 20 20: 2034=2032.2032.2032 2037=2035.2035.2035 222d=222b.222b.222b 2230=222e.222e.222e",
   "20 20 20: 2ce4=2c95.2c81.2c93",
   "22 2e 22: 214d=61.2f.73",
   "22 13 9000.20: 1c5=64.7a.0",
   "22 13 13: 20a7=70.74.73",
   "22 22 9000.20: 1c4=64.7a.0",
   "22 22 22: 2121=74.65.6c 213b=66.61.78 2162=69.69.69 2166=76.69.69 216b=78.69.69",
   "2c 30 31 30: fdf6=631.633.648.644 fdfc=631.6cc.627.644",
   "2e 2e 2e 34: 1f1a4=31.32.30.70",
   "2e 2e 30 2e: 1f1a2=32.32.2e.32",
   "30 ae00.2e 2e 31: 333c=3078.0.30fc.305f",
   "30 ae00.2e 30 30: 3318=304f.0.3089.3080",
   "30 ae00.2e 30 31: 330e=304b.0.308d.3093",
   "30 ae00.2e 30 33: 333e=307b.0.308b.3068",
   "30 ae00.2e 31 31: 330f=304b.0.3093.307e",
   "30 b000.2e 2e 33: 332c=306f.0.30fc.3064",
   "30 b000.2e 30 30: 332f=3072.0.304f.308b",
   "30 b000.2e 31 30: 3338=3078.0.306b.3072 333a=3078.0.3093.3059",
   "30 30 b000.2e 2e: 3353=308b.3072.0.30fc",
   "30 30 2e 31: 331b=304f.308d.30fc.306d",
   "30 30 30 2c: fdf4=645.62d.645.62f",
   "30 30 30 30: fdf5=635.644.639.645",
   "30 30 33 2e: 330d=304b.308d.308a.30fc",
   "30 30 33 30: fdf7=639.644.64a.647",
   "30 30 33 33: 330c=304b.3089.3064.3068",
   "30 33 2e 33: 3333=3075.3044.30fc.3068",
   "31 ae00.2e 2e 30: 3324=305f.0.30fc.3059",
   "31 ae00.2e 30 ae00.2e: 3310=304d.0.304b.0",
   "31 ae00.2e 31 2e: 3311=304d.0.306b.30fc",
   "31 2e 31 31: 3389=6b.63.61.6c",
   "31 2e 33 30: 334d=3081.30fc.3068.308b",
   "31 30 30 2c: fdf3=627.643.628.631",
   "31 30 30 30: fdf2=627.644.644.647 fdf8=648.633.644.645",
   "31 30 30 31: 3348=307f.304f.308d.3093",
   "31 30 31 30: 33c2=61.2e.6d.2e 33d8=70.2e.6d.2e",
   "31 31 31 31: 337f=682a.5f0f.4f1a.793e",
   "31 33 30 30: 331f=3055.3044.304f.308b 3343=307e.3044.304f.308d",
   "31 33 33 2e: 3312=304d.3086.308a.30fc",
   "31 34 34 34: 1f192=63.6f.6f.6c 1f193=66.72.65.65",
   "31 20 31 2e: 33a8=6d.2215.73.32 33c6=63.2215.6b.67",
   "33 2e 30 b000.2e: 331e=3053.30fc.307b.0",
   "33 2e 30 2e: 3308=3048.30fc.304b.30fc",
   "33 2e 33 ae00.2e: 334e=3084.30fc.3068.0",
   "33 30 30 33: 3301=3042.308b.3075.3042",
   "33 33 33 30: 3351=308a.3064.3068.308b",
   "33 20 33 33: 2152=31.2044.31.30",
   "13 13 13 13: 2177=76.69.69.69",
   "17 10 10 17: 320e=28.1100.1161.29 320f=28.1102.1161.29 3210=28.1103.1161.29 3211=28.1105.1161.29",
   "17 10 10 17: 3212=28.1106.1161.29 3213=28.1107.1161.29 3214=28.1109.1161.29 3215=28.110b.1161.29",
   "17 10 10 17: 3216=28.110c.1161.29 3217=28.110e.1161.29 3218=28.110f.1161.29 3219=28.1110.1161.29",
   "17 10 10 17: 321a=28.1111.1161.29 321b=28.1112.1161.29 321c=28.110c.116e.29",
   "17 15 15 17: 247d=28.31.30.29 247e=28.31.31.29 247f=28.31.32.29 2480=28.31.33.29 2481=28.31.34.29",
   "17 15 15 17: 2482=28.31.35.29 2483=28.31.36.29 2484=28.31.37.29 2485=28.31.38.29 2487=28.32.30.29",
   "17 15 16 17: 2486=28.31.39.29",
   "1e 1e 1e 1e: 327d=110c.116e.110b.1174",
   "20 20 20 20: 5ef=5d9.5d4.5d5.5d4 c5c=c36.c4d.c30.c40 cdc=cb6.ccd.cb0.cc0 2057=2032.2032.2032.2032",
   "20 20 20 20: 2a0c=222b.222b.222b.222b",
   "22 22 22 22: 2167=76.69.69.69",
   "30 ae00.2e 2e 30 30: 332d=306f.0.30fc.308c.308b",
   "30 b000.2e 2e 30 ae00.2e: 333b=3078.0.30fc.3057.0",
   "30 b000.2e 31 33 ae00.2e: 3340=307b.0.3093.3068.0",
   "30 b000.2e 33 31 33: 333d=307b.0.3044.3093.3068",
   "30 2e 30 ae00.2e 30: 3354=308b.30fc.3075.0.308b",
   "30 30 31 2e 30: 3336=3078.304f.305f.30fc.308b",
   "30 33 31 30 ae00.2e: 3321=3057.308a.3093.304f.0",
   "31 30 ae00.2e 33 31: 334c=3081.304b.0.3068.3093",
   "31 30 30 33 33: 3317=304d.308d.308f.3064.3068",
   "31 31 2e 20 31: 33ae=72.61.64.2215.73",
   "31 31 30 34 31: 3347=307e.3093.3057.3088.3093",
   "31 31 31 2e 30: 3320=3055.3093.3061.30fc.3080",
   "33 30 b000.2e 2e 33: 3300=3042.306f.0.30fc.3068",
   "33 31 30 b000.2e 33: 3302=3042.3093.3078.0.3042",
   "33 31 31 30 ae00.2e: 3304=3044.306b.3093.304f.0",
   "1e 1e 20 1e 1e: 327c=110e.1161.11b7.1100.1169",
   "30 ae00.2e 30 30 33 31: 3319=304f.0.3089.3080.3068.3093",
   "30 ae00.2e 33 30 33 30: 3334=3075.0.3064.3057.3048.308b",
   "30 b000.2e 2e 31 31 33: 332b=306f.0.30fc.305b.3093.3068",
   "30 b000.2e 33 30 33 30: 332e=3072.0.3042.3059.3068.308b",
   "30 30 31 ae00.2e 33 30: 331a=304f.308b.305b.0.3044.308d",
   "30 31 33 30 ae00.2e 31: 3356=308c.3093.3068.3051.0.3093",
   "30 33 30 33 33 ae00.2e: 3332=3075.3042.3089.3064.3068.0",
   "31 ae00.2e 30 31 ae00.2e 2e: 3313=304d.0.308b.305f.0.30fc",
   "31 30 30 ae00.2e 30 30: 3315=304d.308d.304f.0.3089.3080",
   "31 30 31 2e 33 30: 3316=304d.308d.3081.30fc.3068.308b",
   "31 31 2e 20 31 2e: 33af=72.61.64.2215.73.32",
   "31 33 30 ae00.2e 2e 30: 334a=307f.308a.306f.0.30fc.308b",
   "33 30 30 2e 33 ae00.2e: 3307=3048.3059.304f.30fc.3068.0",
   "34 31 30 34 31 31: 1f1a8=68.69.20.72.65.73",
   "17 10 10 10 10 17: 321e=28.110b.1169.1112.116e.29",
   "2e 31 2e 30 34 2e 31: 1f19c=32.6e.64.20.73.63.72",
   "17 10 10 10 20 20 17: 321d=28.110b.1169.110c.1165.11ab.29",
   "30 30 20 30 30 31 30 30: fdfb=62c.644.20.62c.644.627.644.647",
   "34 31 31 31 31 31 31 31: 1f1a9=6c.6f.73.73.6c.65.73.73",
   "30 30 31 20 31 30 30 30 20 30 30 33 30 20 31 30 30 30: fdfa=635.644.649.20.627.644.644.647.20.639.644.64a.647.20.648.633.644.645"]

end EnquiryMail.Text
