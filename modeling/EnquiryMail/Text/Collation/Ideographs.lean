/-
Ideographs in the order of dictionaries: by radical and number of further strokes. `4e00+1` is a code point, in
hexadecimal digits, with as many behind it as follow the plus sign.
-/

namespace EnquiryMail.Text

/-- ideographs in their order -/
def Collation.ideographTable : List String :=
  ["4e00 2a6d9 4e01+5 20000+2 2ceb0 30000 4e07+5 4e90 5344 20003+3 2a6da 2a700+1 2b740 2cea2 2ceb1+3 30001+3",
   "323b0+1 4e0d+6 4e17 20007+5 2a702 2b821 2cea3 2ceb5+4 30005+2 2ebf0 323b2 4e14+2 4e18+5 3400 2000d+a",
   "2b822+1 2ceba+4 30008+2 31350 4e1e+4 3401+1 20018+2 2001c 2001e+2 2b741 2b824+1 2cebf+a 3000b 31351 4e23+2",
   "4e3d 9fd6 20021+3 20026+2 2002a+1 2b742 2b826+3 2ceca+8 3000c 31352 4e26+1 2002c+2 20030+4 2a703 2b82a+3",
   "2ced3+5 3000d 31353+4 9fd7 20035+1 20038 2003a+1 2a704 2b82e 2ced9+4 3000e+3 323b3 2003d+3 20922 2a705",
   "2b82f+3 2cede+2 30012+3 31358+5 323b4 20041+4 2a706 2b833+2 2cee1+4 3135e+1 323b5+1 20046+2 2004a+1 2b836",
   "2cee6+2 30016+2 31360+1 323b7 2004c+1 2b837+5 2cee9+5 30019+1 31362+2 323b8 2004e+4 2b743 2b83d 2ceef",
   "3001b+1 31365 4db6 20053+1 2b83e+1 2cef0 3001d 31366+1 20055 20057+4 2005d 24ccf 2a707 2b840 31368 20056",
   "3001e 31369 2005f 2b841+1 323b9 20060 3001f 2cef1 3136a 4e28+1 20061+1 4e2a+1 3403+1 2b843+1 30020 3136b",
   "4e2d+3 20063 2a708 2b845 30021 4e31 20065 30022 323ba 20066 2cef2+1 30023 3136c 4e32 20067+1 2b846 4e33",
   "20069+3 2b847 30024 3136d+3 4e34 2006d+2 23d92 2a709 2cef4 30025 323bb 4e35 20070+1 2b848+1 2cef5+2",
   "30026+1 31371+2 20073 31374 323bc 20074+1 31375 323bd 2cef8+1 20076 2b84a 20078 2b84b+1 31376 20079 30028",
   "323be 2007a 2b84d 2007b 2b84e 4e36+1 2a70a 4e38 4e49 2007c+1 2cefa 4e39+1 2007f 31377 4e3b+1 20080+1 2ebf1",
   "20082 2cefb 2a70b 4e3e 2cefc 20083 30029 2cefd 20084 2cefe 20085 4e3f+5 3405 20086+4 2ceff+3 3002a+1",
   "4e45+3 4e4a 2008b+3 2b744 2b84f 2cf03+1 31378+1 4e4b+1 5c39 2008f+4 2b735 2cf05+1 2ebf2 4e4d+3 20094+d",
   "2b850 2cf07+1 3002c 3137a 323bf 4e51+3 3406 200a2+5 200a9+2 200ad 2a70c 2b851+2 2cf09 3137b 323c0+1 4e55",
   "200af 2b854 2cf0a 3137c 323c2 4e56 200b2+1 200b6 2b855+3 2cf0b 4e57 200b4 200b7 2a70d 2b859+1 4e58 200b9+5",
   "2a70e+1 2b85b+1 2cf0c+3 3137d 200bf+3 2b85d 2cf10 323c3 200c3+1 2b85e 3002d+2 323c4+1 200c6 3137e 200c5",
   "2cf11 3137f 200c7 2b85f+1 2cf12+3 200c8 2b861 4e59+2 200c9+5 200d1 4e5c+1 9fb4 200cf+1 323c6 4e5e+2 3407+2",
   "200d2+2 2cf16 30030 323c7 4e63+3 340a+1 2007e 200d5+8 2b862 2cf17+1 30031 31380 323c8+2 4e67 340c+3",
   "200de+5 2a710 2b863 2cf19+3 30032+3 31381 323cb+7 4e68+8 3410+5 200e4+4 2a711 2b864 2cf1d+5 30036+6",
   "31382+1 323d3+8 4e71+1 3416+2 200e9+1 200ec 209dd 2a712+1 2b865+2 2cf23+1 3003d+3 31384+1 323dc+5 4e73+5",
   "3419+2 200ed+2 2a714 2b868 2cf25+2 30041+2 31386 323e2+4 4e79+3 341c+4 200b8 200f2+5 2a715 2b869 2cf28+3",
   "30044+4 31387 323e7+3 4e7d 200f8+3 24c61 2a716+1 2b86a+2 2cf2c+1 30049+2 31388+3 323eb+4 4e7e+2 3421+2",
   "200fc+6 2a718 2b86d+1 2cf2e+3 3004c 323f0+5 4e81 3424 25740 2a719+1 2cf32+2 3004d 3138c+1 323f6+2 4e82+2",
   "20103+1 2a71b 2b86f+1 2cf35 3138e 323f9+2 20105+3 221a1 3004e 3138f 323fc+2 3004f 3425 30050 323ff+1 20109",
   "30051 31390 3426 2010a+1 4e85 2010c 4e86 2010d+3 4e87 20111 2cf36+2 4e88 3427 20112+2 30052 4e89 20029",
   "20115 2cf39 4e8a 20116+2 2a71c 4e8b 3428 20119 2cf3a 32401 2011a 30053+1 2011b 2a71d 2cf3b 2011c 31391",
   "2011d 2cf3c 4e8c 2011e+2 4e8d+2 2cf3d 4e91+5 20121 30055 4e97 30056 32402 4e98+2 20122+5 2b871 30057",
   "4e9b+1 20025 20128+2 2b872 4e9d+2 3429 2012b+4 2b873 2cf3e 31392 32403+2 20130+3 2cf3f+1 30058 20135+3",
   "2cf41 31393+1 32406 20139+1 2b874 32407 2013b 2cf42 32408 2013c+2 2b875+1 30059 31395+1 32409 2013f 2a71e",
   "2b877 3005a 31397 3240a 20140 2a71f 3005b 3240b 2b878+1 4ea0+3 20141+1 2a720+1 2cf43 4ea4+3 342a+1 20143+4",
   "2b745 2cea4 2cf44 3005c 3240c 4ea8+2 342c 20148+3 2a722 2b87a 2cf45+2 4eab+1 342d 2014c+6 2cea5 2cf48+1",
   "4ead+5 20153+2 2cf4a+2 4eb3 20156 20158+5 2b87b 2cf4d 31398 2015e+9 2a723 2cea6 2cf4e+4 3005d 3240d+1",
   "4eb4+1 20168+7 20172 2a724 2b87c 2cf53+1 3005e+1 3240f+1 4eb6+1 342e 20173+5 2017a+2 20180 2b87d+1 2cf55+3",
   "32411 2017e+1 2b87f+1 2ebf3 20181+8 2a725 2cf59+1 30060 31399 4eb8 2018b+7 20194 20196+2 2cf5b+1 32412",
   "342f 2b881+1 2cf5d+1 32413 2019a 32414 2019d 2a726 2b883 4eb9 2019e 2cf5f 2b884 2cf60 2019f+2 4eba+1 201a2",
   "4ebc+3 201a3+2 2b885 4ec0+13 201a6+2 2a727 2b886+2 2cf61+1 30061 3139a 2ebf4 32415+1 4ed4+19 3430+7",
   "201a9+4 201af+1 201b3 2b746 2b889+1 2cf63+5 30062+1 3139b+4 2ebf5+2 32417 4eee+3e 3438+8 201b4+1d 201d3+2",
   "2a728+3 2b88b+5 2cf69+4 30064+6 313a0+7 2ebf8+1 32418+1 4f2d+3b 3441+7 201d6+2b 2a72c+8 2b891+7 2cf6e+c",
   "3006b+5 313a8+2 2ebfa+1 3241a+5 4f69+44 9fc7 3449+d 20203+20 20225+7 2a735+5 2b747+1 2b899+4 2cf7b+9",
   "30071+13 313ab+2 32420+2 4fae+3f 3457+b 2022d+35 2a73b+7 2b89e+b 2cf85+14 30085+9 313ae+4 32423+8 4fee+4c",
   "503c+3 3463 3465+8 20263+43 202df 2a743+7 2b749 2b8aa+12 2cf9a+f 3008f+7 313b3+7 2ebfc+2 3242c+7 503b",
   "5040+3f 3464 346e+4 202a7+29 202d2+c 202e0+c 2a74b+a 2b74a 2b8bd+6 2cfaa+12 30097+a 313bb+3 2ebff+2",
   "32434+c 5080+29 9fd8 3473+7 202ed+18 20307+16 20320+9 2a756+9 2b8c4+c 2cfbd+12 300a2+7 313bf+5 32441+5",
   "50aa+23 9fd9 347b+6 2032b+36 20363+1 20366+6 203b5 2a760+4 2b74b 2b8d1+5 2b8de 2cfd0+10 300aa+2 313c5+6",
   "32447+6 50ce+23 50f3+1 3482+e 20365 2036d+2a 20399+1 2039d+17 203d0 2a765+5 2b8d7+1 2b8db+2 2b8df+3",
   "2cfe1+d 300ad+5 313cc+7 2ec02 3244e+4 50f2 50f5+1a 3491+7 203b7+18 203d1 203d4+12 2a76b+4 2b8e3+9 2cfef+b",
   "300b3+6 313d4+3 32453+4 5110+e 512b 9fda 3499+3 203d2 203e8+1f 2a770+3 2b8ed+4 2cffb+5 300ba+3 313d8+2",
   "32458+3 511f+b 512c 349d+1 20408+13 2041d+5 2a774+2 2b8f2+6 2d001+4 300be+3 313db 3245c+5 512d+5 349f+1",
   "20423+17 2a777+2 2b8f9+a 2d006+6 300c2+4 313dc+1 32462+3 5133+2 34a1+2 2043b+6 20443+9 2a77a+2 2b904+4",
   "2d00d+2 300c7+1 313de 32466+1 5136 34a4+2 2044d+9 2045e 2a77d 2b909+2 2d010+1 313df+1 32468 5137+3 34a7+1",
   "20457+6 2045f+4 2a77e 2b90c+5 313e1 513b+1 20464+5 2d012 32469 513d 34a9 2046a+5 2b912+2 2d013+1 300c9",
   "313e2 513e 20470 2b915 2d015 2b916 34aa 20472+1 3246a 313e3 3246b 20475 513f+4 20476 2d016+2 5144 20477+1",
   "2d019+4 300ca 5145+5 34ab 20479+3 2b917 514b+6 2047d+5 2d01e+2 300cb 5152+4 34ac 20483+8 2a77f 2b918",
   "2d021+3 300cc 3246c 5157+2 2048c+3 2a780 2b74c 2b919 2d025 515a+1 34ad 20490+6 2a781 2d026+1 313e4+1",
   "3246d+1 515c+2 34ae 20497+6 2b91a+1 2d028 300cd 313e6+2 3246f 515f+1 2049e+5 2b91c+1 2d029+4 300ce 313e9",
   "32470 5161 204a4+2 2a782 2b91e 2d02e+1 300cf+1 32471 5162 204a7+8 2b91f+1 2d030+3 300d1+1 313ea+2 32472+1",
   "204b0+2 204b4+3 2a783+2 2d034 313ed 32474 5163 204b3 204b8+6 2d035 300d3+1 313ee 32475 204bf+6 204c7",
   "2b921+1 2d036+2 313ef 34af 204c6 204c8+2 2b923+3 2d039+1 32476+2 204cb 204ce 2a786 2b927 300d5 313f0 204cd",
   "204cf+1 32479 5164 204d1+3 2b928 204d5+5 5165+1 204db 5167 204dc+2 34b0+1 204df 2d03b 313f1 5168 6c3d 34b2",
   "201d2 204e0+3 300d6 34b3+1 204e4+4 2d03c+2 5169 204e9 2d03f 300d7+2 2ec03 516a 204ea+2 2d040 300da+1 313f2",
   "3247a 204ed+3 2a787 2b929 204f1 300dc 20306 204f2+1 2b92a 204f4+7 3247b+1 204fc 2d041 3247d 204fd 2d042",
   "204fe+1 2d043 516b 20500 516c+3 20501+3 3247e 5170 20505+1 2cea7 2d044 5171+3 9fb9 20508+1 2a788 2b92b+1",
   "2d045+1 300dd+2 313f3 5175 34b5+2 2050a+5 2d047 3247f 5176+2 20510+1 20a56 2b92d 2d048+3 300e0 5179 517b",
   "34b8 20512+5 2d04c+2 300e1 313f4 517a 517c 20519+2 2b92e+1 2d04f+1 300e2+1 517d 2051c+1 2b930 2d051+2",
   "300e4 2051e+9 2a789 2b931 2d054+2 517e+1 20528+6 2a78a 2b932 2d057+1 300e5 313f5+1 32480+1 2052f+2 20b7b",
   "2a78b 2d059 2a78c 2d05a+2 32482 5180 20533+2 2a78d 2005c 5181 20536+1 2b933 313f7+1 20538+2 2b934+1 2d05d",
   "34b9 2d05e 32483 2b936 5182 2053c 300e6 5183+5 2053d+3 2d05f 5189+3 56d8 20541+9 2d060 313f9 518d+1",
   "2054b+4 2d061+1 300e7+1 313fa+1 518f 20550+5 2a78e 5190 34ba 20556+4 2d063+6 32484+1 5191+1 2055b+1 2b74d",
   "2d06a+1 5193+1 2055d+2 2d06c+3 300e9+1 5195 34bb+1 20560+2 6700 34bd 20563+2 2d070+1 300eb 32486 34be",
   "20566+1 2b937 20568+1 313fc 2056a 2056c 300ec+1 2056d+3 2d072 20571 34bf 20572 5196+2 34c0+1 20573+1 32487",
   "5199+1 20575+3 2d073 300ee 519b+1 20579+6 32488+1 519d 20580+3 2a78f+1 2b938 300ef+1 2ec04 519e 20584+2",
   "2a791 2d074 519f+1 34c2 20587+4 2b939+1 51a1+6 2058c+6 2a792 2d075+6 300f1 313fd 51a8 20593 2a793 2d07c+3",
   "3248a 34c3 20594+5 2a794 2d080 2ec05 2059a+1 2d081+1 300f2 51a9 2059c+2 2a795 313fe 34c4 2b93b 2d083+2",
   "51aa 205a0+5 2b93c 205a6+2 2b93d 205a9+2 300f3+1 51ab 205ac 2b93e 34c5 205ad 2d086+1 300f5 51ac+3 205ae+2",
   "2a796 2b93f 2d088 313ff 2ec06 3248b 51b0+4 34c6+1 205b1+5 2a797+3 2b940+3 300f6+2 31400+1 51b5+6 9fd1 34c8",
   "205b7+8 205c1 2a79b+2 2b944+4 2d089+1 300f9+1 31402 3248c 51bc+4 34c9+4 205c0 205c2+5 2a79e 2b949+2",
   "2d08b+3 300fb+2 31403 3248d 51c1+2 34ce+1 205c8+f 2a79f+2 2b74e 2b94c+2 2d08f+1 300fe 31404+2 3248e+3",
   "51c4+a 34d0+2 205d8+c 2a7a2+3 2b94f+1 2d091+4 300ff+2 32492+1 51cf+2 34d3 205e5+b 2a7a6+2 2b74f 2b951+3",
   "2d096+2 30102+2 31407 32494+1 51d2+4 34d4+1 205f1+8 2a7a9+1 2b955+1 2d099+2 30105+2 31408+2 32496 51d7",
   "34d6 205fa+9 2a7ab+1 2b957+1 2d09c+2 30108+2 3140b 2ec07 32497+1 51d8 34d7 20604+5 20613 2a7ad 2b959",
   "2d09f+2 3010b+1 3140c 2ec08 51d9+3 2060a+7 2a7ae 2b95a+2 2d0a2+2 3010d 32499 51dd+1 20612 20614+1 2a7af",
   "2d0a5 51df 20616+6 250b3 2d0a6 3010e+1 3249a 2061d+4 2b95d 2d0a7 3249b 20622+1 3249c 2a7b0 2d0a8 20624",
   "3249d 20625 9fdb 20626 51e0 20627+1 51e1+2 2a6dd 3249e 51e4 20629+7 2d0a9+3 51e5+2 20631+3 51e8+3 20635+6",
   "2a7b1 2b95e+1 2d0ad+2 51ec 2063c+9 2a7b2 2d0b0 2ec09 51ed+2 20646+8 20aee 2d0b1+1 2064f+2 2d0b3+1 2ec0a",
   "20652+4 2a7b3 2b960 30110 51f0 34d8 20658+1 2065b+3 2a7b4 2b961 2d0b5+1 51f1+1 20049 2065f+4 2b962 2d0b7",
   "20664+3 2a7b5 2b963 2d0b8+1 2ec0b 51f3+1 20668+3 2066d+3 2d0ba 20671+1 3249f 20673 51f5 20674+1 51f6",
   "20676+2 30111 51f7+4 20679+2 2067d 2a7b6 51fc 34d9 2067e+c 2d0bb 51fd 2068b+2 2a7b7 30112 3140d 51fe",
   "2068e+2 3140e+1 324a0 20692+1 2a7b8 2b964 2d0bc 30113+1 20694+3 2d0bd 30115 324a1 51ff 20698 2a7b9 2b965+1",
   "2d0be 31410 2a7ba+1 2b967+2 31411 20699+1 2236d 2b96a+1 2d0bf 30116 2069c 2b96c 2d0c0 30117+1 2069d+1",
   "2d0c1 221d5 2a7bc 2069f 2a7bd 2b96d+2 324a2 206a0+2 324a3 5200+2 206a3 5203+1 206a4 5205+3 206a5+7 2d0c2+2",
   "30119+1 5209+4 34da+2 206ad+7 206b6 206bb 2b970+1 2d0c5+2 3011b+2 520e+d 34dd+1 206b5 206b7+3 206bc+11",
   "2a7be+2 2b972+2 2cea8 2d0c8+4 3011e+4 31412+3 324a4 521c+11 34df+1 206ce+18 2a7c1+1 2b975+6 2d0cd+7",
   "30123+3 31416+1 324a5 522e+14 34e1+5 206e7+28 2a7c3+2 2b97c+3 2d0d5+c 30127+4 31418+1 2ec0c 324a6+1 5243+e",
   "34e7+4 20710+20 2a7c6+1 2b750 2b980+1 2d0e2+6 3012c+6 3141a+1 324a8+3 5252+15 34ec+4 20731+2b 20776",
   "2a7c8+1 2b982+3 2d0e9+a 30133+3 3141c+4 324ac+2 5268 526a+7 5276 34f1+5 2075d+18 20777+7 2a7ca+3 2b986+6",
   "2d0f4+a 30137+3 324af+2 5269 5272+3 34f7+4 2077f+1c 2079d+7 2a7ce+2 2b98d+4 2d0ff+6 31421 324b2 5277+8",
   "34fc+1 207a5+1c 2a7d1+2 2b992+2 2d106+9 3013b+2 31422+1 324b3 5280+4 34fe+b 207c2+1d 207e1+4 2b995+4",
   "2d110+1 3013e+4 31424 324b4 5285+a 350a 207e0 207e6+13 2a7d4 2b99a 2d112 30143 324b5+4 5290+4 350b+2",
   "207fa+10 2a7d5+1 2d113+4 30144 31425 324ba+2 5295 350e+1 2080c+e 2b99b 2d118+1 30145+2 324bd+2 3510",
   "2081b+5 2b99c+2 2d11a+1 31426 324c0 5296 3511 20821+2 2b99f+1 2d11c 3512 20824 20826+3 31427+1 324c1",
   "5297+1 20825 2082a+3 5299+1 2082e 2b9a1 30148 2082f 2d11d 2b9a2 20830+1 2b9a3 529b+1 20832 2b9a4 529d+1",
   "20833+2 2d11e 31429 529f+3 3513 361e 201ae 20836+2 2d11f+1 3142a 52a3+5 3514+2 20839+8 2b9a5 30149 52a9+9",
   "52b4 3517+1 20842+e 2a7d7+2 2b9a6+1 3014a+2 3142b+4 52b3 52b5+a 3519+2 20851+c 2a7da+1 2b9a8 2d121+4",
   "3014d+1 2ec0d 324c2+1 52c0+b 351c 2085e+c 2087a 2a7dc 2b9a9+4 2d126+5 31430 324c4 52cc+5 351d+2 2086b+e",
   "2a7dd+2 2b9ae+4 2d12c+6 3014f+1 31431+2 2ec0e 324c5 52d2+4 52d8+2 3520 2087b+9 2a7e0 2b9b3 2d133+3 30151+2",
   "31434 324c6 52db+3 3521 20885+d 2a7e1+1 2b9b4+1 2d137+2 30154 324c7+1 52df+8 20893+c 2a7e3 2b751 2b9b6+1",
   "2d13a+4 30155 324c9+2 52e8+5 3522 208a0+f 2a7e4+1 2b9b8 2d13f+4 30156+1 52ee+4 208b0+5 2a7e6 2b9b9+1 30158",
   "31435+1 52f3 208b6+2 2b9bb+1 31437 52f4+2 3523+3 208b9+6 324cc 3527 208c0+3 2b9bd+1 30159 324cd+1 52f7",
   "208c4+1 52f8 208c6+1 2a7e7 324cf 3015a 208c8+1 324d0 208ca 2b9bf 208cb 52f9+9 208cc 2d144 3015b 5303+4",
   "208cd+3 2b9c0+1 2d145 5308 208d1+2 2d146 5309 208d4+3 2d147+1 530a+2 208d8+5 2d149+1 324d1 530d 208de+5",
   "2d14b 3015c+1 31438 324d2 530e 208e4+9 2b9c2+1 31439 530f+1 3528 208ee+6 2d14c 3015e+1 3143a+1 324d3",
   "5311+1 3529 208f5+2 2b9c4 2d14d 5313 352a 208f8+4 2d14e+1 3143c 208fd+5 30160 3143d+3 5314 20903 2b9c5",
   "20904+3 2b9c6 31441 324d4 20908+2 31442 324d5+3 31443 324d9 2090b+2 5315 2090e 2a7e8 5316 352b 2090f 2b9c7",
   "5317 20910 30161 2a7e9 2d150 20911+4 352c 20916 2d151 30162 31444 20917+6 2a7ea 2d152 2091e+3 2d153 5318+1",
   "352d 2b9c8+1 20923+1 30163 20925 2a7eb 20926+2 31445 20929+1 2b9ca 531a 2092c+1 2b9cb 2d154 531b+3 2b9cc",
   "2d155+1 324da 531f+3 2092e+3 2a7ec 2b9cd+2 5323+2 352f+1 20933+4 2a7ed+1 2b9d0 2b9d2 2d157+1 30164 5326",
   "20938+3 2b9d1 2d159+1 5327+2 2093c+6 20944+4 2a7ef 2b9d3 532a+1 9fa8 20949+4 2a7f0 2b9d4 2d15b 30165+1",
   "532c+2 3531 2094e+1 2d15c+1 30167 31446 20950+5 2b9d5 31447 532f 3532+2 20956+2 2b9d6 30168 5330+2 3535",
   "20959+2 2a7f1 2b9d7 2d15e 324db 5333 2095c+5 2b9d8+1 5334 20962+1 2b9da 5335 2b9db+1 20964+1 30169 5336",
   "20966+1 5337 20968+1 2a7f2 31448 2096a 2b9dd 31449 3536 2096b+1 5338+2 2096d 20932 2096e+1 3016a 533b 3537",
   "20970+2 3016b 533c 20973 533d 20943 20974+1 2d15f 3144a 20976 3016c 533e+2 3538 3144b 20977 3144c 20978+2",
   "3144d 5341+2 5345+3 3539 2097b+1 2097f 2d160 3016d+1 324dc+2 5349+1 534c 201b1 2097d+1 20980+1 3016f 534b",
   "534d+3 353a+1 20982+e 30170+1 324df+1 20991+6 2a7f3 2b752 2b9de 30172+2 324e1+1 5351+5 9fba 20998+a 23965",
   "2b753 2b9df+1 30175 3144e 324e3+1 5357+1 2b754 2b9e1+1 2d161+1 30176+1 324e5+1 209a3+6 2a7f4 2d163 30178+1",
   "2ec0f 324e7+1 5359 209aa+5 2a7f5 2d164 3017a+1 3144f 535a 209b0+3 2b9e3 2d165+1 324e9 353c 209b4+8 2a7f6",
   "2b9e4+1 2d167 3017c 324ea 209bd+2 2a7f7 2b9e6 3017d+1 209c0+4 2a7f8+1 2b9e7+1 2d168+1 31450+1 2d16a",
   "31452+1 2ec10 209c5+3 2a7fa 2b9e9+2 3017f 31454 209c9+4 2a7fb 2d16b+1 30180+1 209ce 2b9ec 31455 2a7fc",
   "2d16d 535b 209cf 2b9ed 324eb 209d0 2d16e 209d1 30182 535c 209d2 535d+1 2a7fd 535f+3 209d3 2001d 209d4+4",
   "2cea9 2d16f 5363+1 209d9+3 2194b 2a7fe 2d170 5365+2 353d 209de+a 2b9ee 30183 324ec 209e9+9 20b49 2b9ef",
   "30184+2 31456 209f3+4 209f9 2a7ff 2b9f0 324ed+1 5368 209fa+5 2d171 20a00+2 20a04 2b9f1+1 30187+1 31457",
   "20a05 2b9f3+1 20a06+1 2a800 2b9f5 20a08+2 30189 2b9f6 324ef+1 2b9f7+1 20a0b+1 5369 3018a 536a+1 353e+1",
   "2d172 536c 20a0d+3 2b9f9 2d173 3018b 324f1 536d+2 20a11 2d174 31458 5370+1 20a12+5 2b9fa 2d175 3018c+1",
   "324f2+1 5372+3 3540 20a18 3018e 324f4+2 5376+4 3541 2a801 2d176+4 3018f 324f7 537b+2 20a19+4 2a802 30190",
   "537f 20a1e 2d17b+1 324f8 537e 2b9fb 30191+1 31459 324f9 20a1f+2 2b9fc 3145a 5380+1 20a22+2 2b9fd 2d17d+1",
   "20a25 2b9fe 3145b 2b9ff 2d17f 30193 2ba00 30194 20a26+4 2ba01 20a2b 5382+4 20a2c 5387+2 20a2d+6 2a803",
   "2ba02 2d180 30195 538a+3 3542+2 200ac 200ae 20a34+b 2d181 30196+1 3145c 538e+3 3545+2 200b0 20a40+9 2a804",
   "2b755 2ba03+1 2d182+1 30198 5392+3 3548+1 20a4a+b 2a805+1 2ba05+3 2d184 3145d 2ec11 324fa 5396+5 354a",
   "20a57+f 2a807+3 2ba09+1 2d185 30199+1 324fb+1 539c+3 8652 354b+2 20a67+10 2a80b+3 2b756+1 2ba0b 2d186+2",
   "3019b+4 53a0+3 53a9 20a78+6 20a80+6 2a80f+1 2ba0c+4 2d189+2 3145e+2 324fd 53a4+4 354e 20a87+9 2a811+1",
   "2ba11+6 2d18c+4 301a0+6 324fe 53aa+1 53af 354f 20a7f 20a91+7 2a813+2 2ba18+3 2d191+1 301a7 53ac+2 53b0",
   "3550+1 20a99+13 2a816+1 2ba1c+1 2d193+2 301a8+1 324ff 53b1+1 3552 20aad+b 2a818+1 2ba1e+1 2d196 2ec12",
   "20aba+4 2ba20+2 2d197 31461 53b3 3553 20abf 2a81a 2ba23 301aa+1 32500 20ac0+6 53b4 20ac7 2a81b 2ba24 301ac",
   "20ac9+5 3554 20acf 2ba25 2d198 20ad0 53b5 20ad1+1 32501 53b6 20ad3+3 31462 53b7+2 3555 20ad7+1 2ba26",
   "53ba+2 20ad9+4 301ad 53bd+1 20ade+7 2d199+1 53bf 20ae6+2 2ba27 53c0+2 20ae9+4 20aef 31463 20af0+2 20af4+4",
   "2a81c 2ba28+1 2d19b+2 301ae 31464+1 3556 20af9+3 2a81d 2ba2a 2d19e+4 32502 53c3+1 3557+1 20afd+1 2a81e",
   "2ba2b 2d1a3 31466+1 53c5 20aff+6 26385 2a81f 301af 31468+2 20b06+6 2a820 2ba2c+2 2d1a4 53c6 20532 20b0d+3",
   "3146b 53c7 3559 20b11+1 2a821 20b13 3146c 32503 20b15+2 2ba2f+1 3146d+2 32504 20b14 20b18+1 2a822 31470",
   "2ba31 53c8+1 2d1a5 53ca+4 355a+1 20b1a+6 2a823+1 2ba32 53cf+2 20b21+7 2d1a6 301b0 31471 53d2 355c 20b29+7",
   "2a825 2ba33 2d1a7+1 301b1+5 2ec13 53d3 355d 20b31+7 2a826 2ba34+4 301b7+3 31472+1 53d4+4 355e 20b39+5",
   "2a827+1 2ba39 2d1a9+2 301bb+2 31474+2 32505+1 53d9+4 355f 20af3 20b3f+9 2a829+1 2ba3a+1 2d1ac+2 301be+1",
   "31477 53de+1 20b4a+a 2a82b+1 2ba3c+3 2d1af+1 31478+2 20b55+f 2ba40+3 2d1b1+1 301c0+1 3147b 32507 3560",
   "20b65+9 2a82d+1 2ba44+1 2d1b3+1 301c2+1 3147c 32508+2 53e0 20b6f+6 20b77+3 2a82f 2b73c 2ba46+1 301c4 3147d",
   "3250b fa0e 3561 20b7c+6 21a9e 2a830 2ba48+1 2d1b5+1 301c5 20b83+3 2ba4a 2d1b7 53e1 20b87+5 2a831 2ba4b+1",
   "3250c 20b8d+2 2ba4d+1 53e2 20b90 58e1 20b91+1 301c6 20b93+5 3147e 53e3 20b99+5 2ba4f 53e4+1a 3563+2 4db7",
   "2067c 20b9f+b 2a832 2b738 2ba50+1 2d1b8+1 301c7 3147f 3250d 53ff+18 3566+2 4db8 20bab+1f 2a6d7 2b758",
   "2ba52+5 2d1ba+8 301c8+1 31480+5 3250e+1 5418+44 3569+d 20202 20bcb+3c 2a833+2 2ba58+6 2d1c3+a 301ca+3",
   "31486+8 2ec14 32510+6 545d+40 3577+8 20c08+47 2a836+3 2ba5f+b 2d1ce+f 301ce+5 3148f+4 32517+7 549e+41",
   "3580+e 20037 20039 20c50+5b 2a83a+9 2b759 2ba6b+11 2d1de+16 301d4+f 31494+11 3251f+b 54e0+47 358f+f",
   "20cac+38 20ce6+4 20cec+39 2a844+a 2ba7d+14 2d1f5+16 301e4+c 314a6+16 3252b+f 5528+30 555a+4 5560+a 556c+d",
   "359f+16 20ce5 20d27+8f 2a84f+c 2ba92+1e 2d20c+22 301f1+d 314bd+18 2ec15 3253b+1b 5559 556b 557a+12 558e+30",
   "35b6+1b 20db7+2a 20de3+52 20e3b+3 2a85c+d 2bab1+11 2d22f+2a 301ff+11 314d6+13 2ec16 32557+18 558d 55bf+36",
   "9ffd 35d2+f 20de2 20e36+4 20e3f+30 20e73+60 2a86a+d 2bac3+f 2d25a+23 30211+d 314ea+19 32570+e 55f6+28",
   "5621+6 5651 5653 35e2+e 20077 20ed4+8c 2a878+c 2b75a 2bad3+14 2d27e+22 3021f+9 31504+12 3257f+19 561f+1",
   "5628+28 5652 5654 5656+7 5674 35f1+9 2018a 203d3 203e7 20e70+2 20f61+45 20fa8+1e 21026 2a885+8 2b75b",
   "2bae8+d 2d2a1+20 30229+5 31517+1b 32599+16 565e+15 5675+7 35fb+9 20fc7+5e 21027+15 22a10 285d3 2a88e+6",
   "2baf6+10 2d2c2+19 3022f+7 31533+11 325b0+16 567d+16 56ba 3605+3 2103d+51 2a895+3 2b75c 2bb07+a 2d2dc+13",
   "30237+6 31545+d 325c7+f 5694+10 3609+6 2108f+50 210f0 2a899+5 2b75d 2bb12+9 2d2f0+19 3023e+4 31553+9",
   "325d7+10 56a5+b 3610+2 210e0+f 210f1+17 2110a+6 2a89f+2 2bb1c+f 2d30a+17 30243+2 3155d+7 325e8+14 56b1+8",
   "3613+1 21111+1f 2a8a2+2 2bb2c+9 2d322+d 30246+3 31565+4 325fd+b 56bb+9 56cd 3615+2 21131+23 21163 2bb36+2",
   "2d330+3 3024a+1 3156a+2 2ec17 32609+3 56c5+6 56ce 3618 21157+b 21164+b 2a8a5 2b75e 2bb39 2d334+9 3024c",
   "3156d+3 3260d+4 56cc 56cf+1 3619+1 21170+8 2bb3a+2 2d33e+7 31571+2 32612+2 56d1+2 21179+c 2a8a6+1 2bb3d+2",
   "2d346+5 31574+3 32615+2 56d4+1 361b 21186+8 2bb40 2d34c+3 32618 361c 2118f+9 2d350+2 32619+1 21199+1 2119e",
   "2bb41 2d353+1 3261b 56d6 2119b+2 27ba5 2d355+2 3261c 2d358 3261d 2119f 2d359 56d7 211a0+2 3261e 56d9+3",
   "9fb1 361d 20064 211a3+3 2a6d8 2bb42 2d35a 56dd+6 361f 211a7+c 3261f 56e4+11 211b4+13 2a8a8 2bb43+1 2d35b+1",
   "3024d+1 31578 32620 56f6+8 3620+1 2002f 211c8+4 211ce+3 2a8a9 2bb45+1 2d35d 3024f+1 31579 32621 56ff+1",
   "3622 211d2+d 2a8aa 2bb47+1 2d35e+1 3157a+3 2ec18 32622+1 5701+5 3623 211e0+f 2a8ab 2bb49+1 2d360+4 3157e+1",
   "32624+1 5707+4 570f 211f0+b 21200 2a8ac+1 2bb4b+1 2d365+3 30251 31580+2 32626+1 570c+2 5710 211fc+3",
   "21201+8 24517 2bb4d+2 2d369+1 31583+1 32628 5711+4 2120a+a 2a8ae 2bb50 2d36b 30252 32629+1 5716+3 3624",
   "21215+c 2a8af 2bb51 2d36c+4 30253 31585 571a 21222+2 21226+3 2bb52 2d371+2 30254 3262b 571b+1 21225",
   "2122a+2 2a8b0 2bb53 2d374 2122d+4 2bb54 2d375 3262c 21232 2d376 3262d 21233+1 2d377 3625 21235+5 2bb55",
   "2d378 3262e+1 571d+1 2123b 2d379 571f+2 9fb6 2123c+2 2bb56 30255 2ec19 5722+5 3626 2123f+8 2a8b1+1 2bb57+1",
   "2d37a 30256+1 31586 32630 5728+12 21248+e 2a8b3+4 2bb59+1 2d37b+2 31587+2 2ec1a 32631+2 573b+25 3627+9",
   "21258+2b 2a8b8+a 2bb5b+9 2d37e+6 30258+6 3158a+6 2ec1b+1 32634+3 5761+29 3631+4 21284+32 2a8c3+7 2bb65+3",
   "2d385+9 3025f+5 31591+b 32638+9 578b+2a 57ce 9fcd 3636+8 212b7+24 212dd+f 2a8cb+8 2bb69+6 2d38f+c 30265+8",
   "3159d+c 2ec1d+4 32642+4 57b6+17 57cf+c 363f+7 212ed+38 23467 2a8d4+f 2bb70+b 2d39c+c 3026e+8 315aa+d",
   "2ec22+1 32647+7 fa0f 57dc+d 57eb+29 3647+6 21326+3d 2a8e4+d 2bb7c+9 2d3a9+c 30277+9 315b8+12 2ec24 3264f+f",
   "57ea 5815+27 583e+4 5844+4 9ffe 364e+a 21364+49 2a8f2+b 2b75f 2bb86+b 2d3b6+15 30281+b 315cb+f 2ec25+2",
   "3265f+b 583d 5843 5849+28 3659+6 213ae+3e 27be7 2a8fe+f 2bb92+8 2d3cc+10 3028d+b 315db+e 2ec28 3266b+6",
   "5872+29 3660+6 213ed+30 26948 2a90e+a 2b760 2bb9b+7 2d3dd+c 30299+c 315ea+9 2ec29+3 32672+f 589c+b 58a9+10",
   "3667+8 2069b 2141e+3f 2a919+5 2bba3+9 2d3ea+b 302a6+b 315f4+f 2ec2d 32682+7 58ba+12 9fb3 3670+6 2145e+1b",
   "2147b+d 2a91f+6 2b761 2bbad+2 2d3f6+7 302b2+6 31604+6 2ec2e 3268a+a 58cd+a 9fbc 3677+3 21489+17 214a2+d",
   "2a926+5 2bbb0+5 2d3fe+2 302b9+1 3160b+7 2ec2f 32695+6 58d8+1 367b+2 214b0+f 214c1+a 214cd+2 2a92c+3",
   "2bbb6+2 2d401+3 302bb+5 31613+1 3269c+2 58da+6 58e2 367e+1 214c0 214cc 214d0+a 214dc+9 2a930 2bbb9+3",
   "2d405+4 302c1+1 31615+2 3269f+5 58e3+2 3680 214e6+a 2a931 2bbbd+2 2d40a+1 302c3+1 31618+1 326a5+2 58e6",
   "214f1+5 214f8+1 214fb+6 2bbc0 2d40c+2 3161a 326a8 214fa 21502+7 2d40f 302c5 3161b 326a9+1 58e7+1 2150a+4",
   "302c6 3161c 326ab 58e9 3681 2150f+6 2d410 3161d 58ea 3682 21516 2d411 302c7 3161e+1 21517+3 58eb+2 2151b",
   "58ee 2151c 2ec30 58ef+4 2151d+1 302c8 2151f 2d412 58f4+1 21520+2 2bbc1+1 2ec31+1 58f6 21523+6 2a932 302c9",
   "58f7+1 2152a+3 326ac 58f9+2 3683 2152e+1 2d413+2 58fc 21530 21532+3 2a933 2d416 302ca 58fd+1 21536 21538+3",
   "2bbc3+1 2d417 302cb+1 58ff+1 3684 2153c+1 2bbc5 2d418 31620 5901 2153e+6 2d419 31621 21545 21547+5 2d41a",
   "2154d 2bbc6+1 302cd 21155 31622 2154f+2 2a934 2bbc8 2d41b 2bbc9 2d41c 326ad 5902 21552 5903+1 21553+1",
   "2d41d 5905 21555+1 5906 21557+2 5907 31623 5908 3685 2155a 2d41e 302ce 2065a 2155b+1 2a31b 2155d 2bbca",
   "2ec33 2a935 590a 2d41f 2155e+1 590b 21560+1 590c 21562+3 2d420+1 5909 590d 3686+1 2d422+2 590e+1 2003c",
   "21566 2bbcb+1 2d425+1 21567+5 2d427 31624 2031e 2156d 302cf 20b76 2156e+3 2a936 2d428+1 31625 5910 21572+3",
   "2d42a+1 21576+1 2d42c 326ae 21578+2 2d42d+1 2157b 2d42f 5911 5913 2157c+3 2d430 5912 21580 2d431 21581",
   "5914 2d432 21582+1 5915+3 3688 21584+2 31626 326af 5919+2 21587+2 2a937 2b762 2d433+1 326b0+1 2158a+2",
   "2b763 2d435 326b2 591c+1 3689 2158d+2 2a938 2bbcd 2d436 302d0 326b3 21590+1 2a939 326b4 591e 20157 21592+a",
   "22ec8 2a93a 2bbce 326b5 591f+1 2159d+8 2a93b 2bbcf+1 2d437+1 326b6 5921 368a 20171 20a03 215a6+8 215b0",
   "2a93c 2bbd1+1 2d439+2 302d1+1 326b7 215af 215b1+4 302d3 31627 5922+3 368b+1 215b6+8 221a3 2a93d 2bbd3+1",
   "2d43c+1 302d4+1 31628 5926 215bf+2 2a93e 2bbd5 2d43e+1 302d6 326b8+1 20193 20195 215c2+3 2a93f 2bbd6+1",
   "302d7 31629 20199 215c6+2 2bbd8 2d440 302d8 3162a 368d 215c9+1 2d441 215cb+1 215d0 326ba 3162b 215cd+1",
   "2a940 2bbd9 326bb 215cf 23873 2bbda 3162c 215d1 5927+6 215d2+2 2a941 2bbdb 592e+6 368e 215d5+6 2a942 2d442",
   "302d9 326bc 5935+7 368f+2 2001b 215dd+7 2a943 2bbdc 2d443 302da 593d+5 3692+1 215e5+11 2a944+2 2bbdd+2",
   "2d444+1 302db+1 3162d+1 2ec34 326bd 5943+6 594b+2 5954 3694+5 215f7+15 2a947+5 2bbe0+2 2d446+5 302dd+2",
   "3162f 326be 594e+5 5955+1 369a+1 2160d+f 2a94d+2 2bbe3+2 2d44c+2 302e0+1 31630 2ec35 326bf+1 594a 5957+3",
   "2161d+16 2a950+2 2b764 2bbe6+1 2d44f+3 302e2+1 31631+4 326c1 595b+4 369c+2 21634+12 2a953+2 2bbe8 2d453+3",
   "302e4+3 2ec36 326c2+1 5960+5 369f 21531 21647+13 2a956+2 2bbe9+6 2d457+4 302e8+4 31636+2 326c4 5966+2 36a0",
   "2165b+10 2a959+2 2bbf0+4 2d45c+3 302ed+1 326c5+1 5969+3 2166c+a 2a95c+2 2bbf5+2 2d460 302ef+1 31639+2",
   "326c7 596d 21677+e 2a95f+2 2bbf8+4 302f1 596e+1 36a1 21686+8 243e0 2b765 2bbfd+3 2d461+2 302f2+1 3163c",
   "326c8+1 2168f+7 2bc01 2d464 3163d 5970 21697 21f97 2a962 2d465 21698+2 2bc02 2d466 3163e 2169b 2a963",
   "2bc03+1 302f4 2169c+1 5971 2169e+1 3163f+1 216a0+2 2bc05 5972 216a3+2 5973 216a6 2bc06 302f5 31641 5974+2",
   "36a2 216a7+6 2bc07 2d467+4 302f6 31642+1 2ec37 5977+11 36a3+5 216ae+d 2a964+1 2bc08+2 2d46c+1 302f7+1",
   "31644+2 2ec38 5989+3 598e+1d 36a9+6 36e0 216bc+1c 2a966+6 2b766 2bc0b+b 2d46e+1 302f9+2 31647+3 2ec39+3",
   "59ac+2b 36b0+11 216d9+28 2a96d+3 2bc17+4 2d470+5 302fc 3164b+2 2ec3d+1 326ca+3 598d 59d8+13 59ed+16 5a05+3",
   "36c2+a 21702+2b 2a971+4 2b767+1 2bc1c+d 2d476+3 302fd+6 3164e+5 2ec3f+4 59ec 5a09+22 5a2d+7 5a3d 36cd+12",
   "36e1+3 2172e+2f 2a976+4 2b769+2 2bc2a+3 2bc2f+7 2d47a+5 30304+1 31654+5 2ec44+2 326ce+3 5a2c 5a35+7",
   "5a3e+38 36e5+8 2175e+3d 2a97b+a 2bc2e 2bc37+b 2d480+4 30306+5 3165a+2 2ec47+5 326d2+9 5a77+18 5a91+1e 5acf",
   "36ee+16 2179c+4b 21823 2a986+a 2b76c 2bc43+d 2d485+7 3030c+2 3165d+2 2ec4d+3 326dc+5 5a90 5ab0+1e 5ad0+4",
   "3705+f 217e8+2d 2a991+5 2bc51+d 2d48d+4 3030f+5 31660+6 2ec51+1 326e2+5 5ad5+1d 3715+d 21817 21819+9",
   "21824+2a 2a997+8 2b76d 2bc5f+c 2d492+b 30315 31667+5 2ec53+4 326e8+5 5af3+1c 3723+5 21816 21818 2184f+3e",
   "21890 2a9a0+5 2b76e 2bc6c+b 2d49e+3 30316+1 3166d+1 2ec58 326ee+2 5b10+12 5b34 3729+4 2188e 21891+33",
   "2a9a6+4 2bc78+c 2d4a2+3 30318+2 326f1+4 5b23+10 5b35+2 372e+1 218c5+1c 218e3+6 2a9ab 2bc85+7 2d4a6+2",
   "3166f+1 326f6 5b38 5b3a+3 3730+1 218ea+12 2a9ac+3 2bc8d+6 2d4a9+4 5b39 5b3e+1 3732+3 218fd+10 2191e",
   "2a9b0+1 2bc94+5 2d4ae 2ec59+1 326f7+3 5b40+6 3736+2 2190e+9 2a9b2 2bc9a+1 2d4af+4 31671+1 5b47+2 3739",
   "21918+5 2191f+1 2a9b3+1 2bc9c+1 31673 5b4a+2 373a 21921+9 2bc9e+1 3031b 5b4d 2192b+2 2a9b5 2bca0 5b4e+1",
   "2192e+5 2d4b4 2ec5b 326fb 21934+2 2d4b5 31674 373b+1 21937+4 5b50+3 2193c 5b54 2193d 5b55 2193e+4 2bca1",
   "2d4b6+3 326fc 5b56+3 373d 21257 21943+2 2d4ba+2 3031c+1 31675 5b5a+4 373e+1 21946+4 2194c+1 2a9b6+3",
   "3031e+4 31676+2 326fd 5b5f+8 3740 200f1 2194e+c 2a9ba 2bca2+2 2d4bd+3 30323+2 31679 2ec5c 5b68+2 3741",
   "2195b+c 2a9bb 2bca5 2d4c1+1 30326+1 3167a 326fe 5b6b+2 3742+1 21968+5 22232 28e74 2bca6 2d4c3+4 30328",
   "3167b 326ff 5b6e+2 5b72 2196e+7 2a9bc+2 2bca7+1 2d4c8+6 30329+2 3167c+1 32700 5b71 3744 21976+c 2a9bf",
   "2bca9+1 2d4cf+5 3032c+1 3167e 32701 5b73+1 3745 21983+d 2bcab+1 2d4d5+1 3032e 3167f 2ec5d 5b75+2 21991+5",
   "2a9c0 2bcad+1 2d4d7+1 3032f 32702+1 3746 21997+6 2b76f 2bcaf+1 32704+1 5b78+1 3747 2199e+a 2a9c1 2bcb1+1",
   "2d4d9+1 30330 31680+1 32706+1 5b7a+1 219a9 2a9c2+1 2d4db 32708 219aa+2 30331 31682 5b7c 219ad+3 2bcb3",
   "2d4dc 5b7d+1 219b1+5 30332 2a9c4 5b7f 219b7 2bcb4 3748 219b8 2d4dd 5b80 3749 219b9 5b81+3 374a+1 219ba+2",
   "30333 5b85+4 374c+1 219bd+d 2bcb5+1 2d4de 30334+1 31683 2ec5e 32709+1 5b8a+8 374e+3 219cb+a 2a9c5+2",
   "2bcb7+6 2d4df+2 30336+2 31684 2ec5f 3270b 5b93+e 3752 219d6+12 2a9c8+1 2bcbe+2 2d4e2+7 30339+1 31685 3270c",
   "5ba2+4 5ba8+3 3753+3 219e9+16 2a9ca+2 2bcc1+5 2d4ea+5 3033b+2 31686 3270d 5ba7 5bac+12 3757+3 21a00+21",
   "2a9cd+3 2bcc7+8 2d4f0+3 3033e+2 31687+1 3270e 5bbf+a 375b+6 21a22+1a 2a9d1+2 2bcd0+9 2d4f4+b 30341+4",
   "31689+3 3270f 5bca+b 5bea 3762+1 21a3d+21 2a9d4+6 2bcda+9 2d500+5 30346+7 3168d+1 32710+4 5bd6+7 3764+4",
   "21a5f+1b 2a9db+5 2bce4+a 2d506+6 3034e+9 3168f+1 32715 5bde+a 3769+3 21a7b+22 2a9e1+4 2b770 2bcef+d",
   "2d50d+3 30358+2 31691 32716+2 5be9 5beb+3 376d+2 21a9f+1e 2a9e6+4 2b771 2bcfd+4 2d511+5 3035b+1 31692+1",
   "5bef+1 21abe+12 2a9eb+3 2bd02+d 2d517+2 3035d+2 31694+1 32719+1 5bf1+1 21ad1+c 2a9ef 2bd10+7 2d51a+4 30360",
   "31696+4 3271b 3770 21ade+d 2a9f0+2 2bd18+3 2d51f+2 30361 2ec60 5bf3+2 21aec+a 2bd1c+3 2d522+2 3271c 5bf6",
   "21af7+4 2a9f3+1 2bd20 2d525+1 30362 5bf7 3771 21afc+7 2a9f5 2bd21+2 2d527 21b04+7 2bd24+1 2d528 3169b",
   "3271d+1 21b0c 2bd26+1 30363 21b0d 21b0f+1 2a9f6 2bd28+2 30364 21b11 21b13+2 3169c 3271f 3772 21b16+2 21b0e",
   "21b19+1 21b12 21b1b 2bd2b 21b1c 5bf8 21b1d 5bf9 3773 5bfa+2 21b1e 2a9f7 2d529 5bfd+2 3774 2d52a 3169d 5c00",
   "3775 21b1f+7 2d52b+1 3169e+1 32720 5c01+1 5c06 21b27+5 2bd2c 2d52d+2 316a0 5c03+2 3776 21b2d 2bd2d 2d530+2",
   "32721 5c07+2 21b2e+4 2a9f8+1 2d533+2 5c0a+2 3777 21b33+5 2a9fa 2bd2e+1 2d536+2 32722+1 21b39+3 2bd30+3",
   "2d539+3 5c0d 21b3d+5 2d53d+2 30365 32724 5c0e 21b43+6 23292 2a9fb+1 2bd34+1 2d540+1 30366 316a1+1 21b4a+2",
   "2a9fd 2d542 21b4d+2 2a9fe 32725+1 21b50 32727 21b51 2d543 21b52+1 2bd36+1 5c0f 21b54 2d544 30367+1 5c10+1",
   "21b55+1 5c12+3 9fb8 21b57+1 30369 5c16+2 21b59+3 2d545 2ec61 21b5d+7 2a9ff 2bd38+1 2d546+1 3036a 316a3",
   "5c19+1 20224 21b65+4 2aa00 2bd3a+1 2d548+1 316a4 2ec62 32728 5c1b+2 21b6a+9 2bd3c+1 2d54a 3036b 316a5 3778",
   "21b74+8 2aa01+1 32729+1 21b7d+10 2bd3e+5 3272b 5c1e 3779 21b8e+9 2bd44+1 316a6+1 3272c+3 5c1f+1 2017d",
   "21b98+5 2d54b 5c21 377a 21b9e+7 2aa03 2bd46+1 316a8 32730 377b 21ba6+9 2aa04 2bd48+1 316a9 21bb0+3 2aa05",
   "2bd4a+2 2d54c 21bb4+2 221d4 2aa06 3036c 316aa+1 32731 21bb7+4 24bcf 21bbc+2 2bd4d 21bbf 316ac 21bc0 5c22+1",
   "21bc1+1 5c24 21bc3+7 2bd4e 5c25+2 377c 21bcb+3 2d54d 5c28+4 377d 21bcf+a 2bd4f 5c2d 377e+1 21bda+7 2bd50",
   "2d54e 3036d 5c2e+1 3780+1 21be2+2 21be6+1 3036e 3782 21be8+a 3036f 3783+3 21bf3+5 2bd51 2d54f+1 5c30+1",
   "3787+1 21bf9+9 2aa07 5c32+2 3789+1 21c03+7 2aa08 2d551+1 316ad 21c0b+4 2d553 5c35 21c10+5 2bd52 2ec63",
   "21c16+4 5c36+1 21c1b+1 316ae+1 21c1d+5 5c38 21c23 5c3a 2a6db 30370 32732 5c3b+1 378b 21c24+4 21c34 2d554",
   "316b0 5c3d 378c+1 21c29+a 2b772 316b1+1 5c3e+5 378e 21c35+8 2aa09+2 2bd53+2 30371+1 316b3+1 32733+1 5c44+6",
   "378f+2 21c3e+d 2aa0c 2bd56+2 2d555+3 30373+1 316b5+1 32735+1 5c4b+4 3792+4 21c4c+15 221c0 2aa0d+1 2bd59+4",
   "2d559+4 30375+2 316b7+2 32737 5c50+8 3797 21c62+17 2aa0f+1 2bd5e+1 2d55e+1 30378+3 316ba 5c59+4 3798+1",
   "21c7a+19 2aa11 2bd60 2d560+3 3037c+2 316bb 32738+1 5c5e+3 379a+1 21c94+17 2aa15+3 2bd61 2d564 3037f+1",
   "316bc 3273a+1 21cac+17 2aa12+2 2d565+8 30381 316bd 3273c 5c62+1 379c+2 21cc4+b 2aa19+1 2bd62+3 2d56e+1",
   "30382 316be 3273d+2 5c64+3 379f+1 21cd0+e 2aa1b+1 2d570+5 30383+2 316bf+1 21cdf+8 2aa1d 2bd66+1 30386",
   "32740 5c68 21ce8+1 2aa1e 2bd68 2d576 5c69+1 21cea+1 2bd69 2d577+1 316c1+1 32741 5c6b 37a1 21cec+4 2aa1f+1",
   "2bd6a+1 2d579+1 30387 32742 21cf1+3 5c6c 21cf5+2 2bd6c+1 2d57b 21cf8+2 2aa21 2d57c 5c6d 21cfb 2d57d",
   "21cfc+1 316c3 5c6e 4db9 21cfe 5c6f 37a2 21cff 2d57e 5c70 21d00+5 2d57f 37a3 37b7 21d06+14 2bd6e 316c4",
   "21d1b+8 30388 21d24+1 2bd6f+1 21d26+6 5c71 4e62 5c72 21d2d+2 5c73+4 37a4+3 21d30+d 2bd71+3 2d580 316c5+1",
   "32743 5c78+b 37a8+7 21d3e+14 2aa22+3 2b773 2bd75 2d581+3 30389 316c7 32744 5c84+8 5c8e+e 37b0+6 37b8",
   "21d53+2f 2aa26+2 2bd76+1 2d585+5 3038a+3 316c8+a 2ec64+2 32745+4 5c9d+28 37b9+a 21d83+20 21da5+5 2aa29+5",
   "2b73a 2bd78+1 2d58b+9 3038e+5 316d3+8 2ec67 3274a+6 5c8d 5cc6+21 37c4+2 21dab+29 2aa2f+5 2b774 2bd7a+1",
   "2d595+9 30394+a 316dc+b 2ec68+1 32751+9 5ce8+1d 37c7+f 21dd5+3b 262a4 2aa35+5 2b775 2bd7c+4 2d59f+9",
   "3039f+5 316e8+8 2ec6a+2 3275b+3 5d06+2a 37d7+e 21e11+58 2aa3b+6 2bd81+4 2d5a9+8 303a5+3 316f1+5 2ec6d+2",
   "3275f+d 5d31+18 5d4b+12 37e6+9 21e6a+3f 2aa42+5 2bd86+3 2d5b2+d 303a9+4 316f7+9 3276d+5 fa11 5d4a 5d5e+18",
   "37f0+8 21eaa+2d 2aa48+3 2bd8a+6 2d5c0+6 303ae+2 31701+3 32773+2 5d77+17 37f9+b 21ed8+31 2aa4c+6 2bd91+3",
   "2d5c7+c 303b1+3 31705+7 32776+a 5d8f+16 3805+b 21f0a+32 2aa53+3 2bd95+1 2d5d4+a 303b5+3 3170d+2 32781+5",
   "5da6+10 3811+6 21f3d+b 21f4a+11 2aa57+3 2bd97+5 2d5df+1 303b9+1 31710+2 2ec70 32787+4 5db7+3 5dbc+3 3818+4",
   "21f49 21f5c+25 21fbb 2aa5b+2 2bd9d 2d5e1+3 303bb 2ec71+1 3278c+3 5dc0+2 381d+2 21f82+14 21fa0 2bd9e",
   "2d5e5+6 303bc+2 31713 32790+6 5dbb 5dc3+2 3820+3 21f98+7 21fa1+c 239ad 2aa5e 2bd9f+4 2d5ec+5 303bf+2",
   "32797+2 5dc6+6 3824 21fae+c 2ceab 2d5f2+2 5dcd 5dcf+1 3825+1 21fbc+a 2aa5f 2bda4 2d5f5+1 31714 5dce 5dd1+4",
   "5dd7 3827 21fc7+a 2aa60 2d5f7 3279a 5dd6 5dd8+2 21fd2+1 2d5f8 21fd4+8 2bda5 2d5f9 21fdd+2 2bda6 303c2",
   "21fe0+1 21fe3+1 3828 21fe2 31715 21fe5 5ddb+2 21fe6 21fe8 2bda7 21fe7 2d5fa 5dde+1 3829 21fe9+4 2d5fb+1",
   "5de0 21fee+2 2aa61 2d5fd+1 21ff1+5 2d5ff 21ff7+4 2aa62 2d600 303c3+1 20657 21ffc+1 2bda8 2d601 3279b",
   "5de2+1 21ffe+2 2bda9 22001 3279c 22002 303c5 5de4 22003 303c6 22004+4 31716 22009+2 2bdaa 2200c+4 5de5",
   "2a6dc 382a 22011+4 2d602 5de6+2 22016+3 5de9+1 2201a+1 2aa63 2d603+2 303c7 5deb 2201c+2 2bdab 303c8+2",
   "3279d 2201f 2bdac 2d606 303cb 3279e+1 5dec+1 22020 2bdad 2d607+1 5dee 382b+1 22021+2 2aa64 2bdae 303cc",
   "327a0 5def 382d 22024+1 2aa65 31717 327a1 5df0 22026+1 2aa66 2bdaf 2d609 31718+1 327a2+1 2aa67 2bdb0 3171a",
   "327a4+1 382e 22028+3 2bdb1 2202c 22470 24022 2bdb2+1 303cd 3171b 327a6 2202d 2aa68 2bdb4 327a7 2202e 2aa69",
   "303ce 2202f 3171c 22030+2 2aa6a 3171d 5df1+3 22033 382f 22034+2 2bdb5 5df5 2aa6c 2d60a 5df6 3830 22037+1",
   "2aa6b 2d60b+1 5df7+4 22039+2 2d60d 5dfc 2203c+3 2bdb6 303cf 3831 22040+4 2bdb7 303d0 327a8 5dfd 22045+4",
   "2aa6d+1 2bdb8+1 2d60e+1 3171e 327a9 2204a 2aa6f 3171f 2204b+1 31720 2204d 2204f 2aa70+1 2bdba 327aa 2204e",
   "22050 2bdbb+1 2d610 327ab+1 22051 5dfe+7 3832+1 22052+2 2aa72 2bdbd+1 303d1 5e06+2 3834+2 22055+f 2d611+1",
   "303d2 31721+1 5e09+7 3837+5 22065+15 2bdbf+3 2d613+1 303d3+1 2ec73 327ad 5e11+b 383d+3 2207b+14 2bdc3+1",
   "2d615+5 303d5+1 31723 5e1d+a 3841+5 22090+20 2bdc5 2d61b+3 303d7+1 31724+1 327ae 5e28+9 3847+1 220b1+1b",
   "2aa73 2d61f+4 303d9 31726+3 5e32+a 3849+5 220cd+1d 2aa74+3 2bdc6+1 2d624+2 3172a+3 327af+1 5e3d+a 5e49",
   "384f+7 220eb+1e 2aa78+2 2bdc8+1 2d627+7 303da+2 3172e+3 327b1+2 5e4a+5 3857+4 2210a+14 2bdca+5 2d62f+2",
   "303dd 31732 327b4 5e48 5e51+8 5e5b 385c+3 2211f+13 2aa7b 2d632+2 303de 31733+1 327b5+1 5e5a 5e5c+9 3860+1",
   "22133+19 2aa7c 2d635 303df 31735+2 327b7+1 5e66+3 3862+2 2214d+11 2aa7d 2bdd0+1 2d636+2 303e0 5e6a+2",
   "3865+1 2215f+9 2aa7e 31738 5e6d+2 22169+3 2d639+2 31739+2 5e70 2216d+a 2aa7f 2bdd2+1 2d63c 3173c 5e71",
   "3867+1 22178+2 2aa80 2217b+2 303e1 3869+1 2217e+4 2d63d 22183+5 5e72+1 22189 5e74+1 2bdd4 2d63e 303e2",
   "327b9 2218a+2 2aa81 2bdd5+1 303e3 327ba 5e76+2 2218d+3 2d63f+1 303e4 22191+4 2d641 327bb 22196+3 2d642+1",
   "303e5+1 3173d 2219a 2aa82+1 2bdd7 303e7+1 2219b+2 2aa84 303e9+2 3173e 5e79 2219e+2 2aa85+1 2bdd8+2 327bc+1",
   "221a2 221a4 2bddb 2d644+2 303ec+1 221a5 2aa87 2bddc+1 221a6+3 303ee 3173f+1 221aa 2aa88 2bdde 2d647",
   "31741+1 221ab 2aa89 221ac+2 4e61 5e7a+1 221af+2 2d648+1 5e7c 221b2+3 2d64a 303ef+1 221b6 2aa8a 221b7+3",
   "2d64b 221bb+3 5e7d 221bf 221c2 2aa8b 2bddf 2d64c 303f1 221c1 221c3+6 5e7e 386b+1 221ca 2bde0+1 327be 20179",
   "221cb 2bde2+1 386d 221cc+7 2bde4 386e 327bf 221d6 5e7f+4 201b2 2bde5 2d64d+2 5e84+2 386f+2 221d7+b 2bde6",
   "2d650+2 303f2 5e87+d 5e98 3872+1 221e3+e 2aa8c+1 2bde7 2d653+4 327c0+2 5e95+2 5e99+6 3874+7 221f2+14",
   "2aa8e+1 2d658+1 303f3+1 327c3+1 5ea0+6 387c+6 22207+11 2aa90+1 2bde8+1 2d65a+1 303f5+1 31743+1 5ea7+8",
   "3883+4 22219+18 2aa92+5 2bdea+5 2d65c+5 303f7+1 31745 327c5+1 5eb0+c 3888+4 22233+22 22257+3 2aa98+1",
   "2b776+1 2bdf0+5 2d662+1 303f9+2 327c7 5ebd+6 5eca 388d+3 2225b+23 2aa9a+1 2bdf6+3 2d664+3 303fc+1 31746",
   "327c8 5ec5+4 5ecb+1 9fee 3891 2227f+15 2aa9c+1 2bdfa+1 2d668+5 303fe 5ec4 5ecd+b 3892+3 22295+17 2aa9e+2",
   "2bdfc+3 2d66e+5 303ff+2 31747+2 327c9+2 5ed9+b 3896+2 222ad+14 2aaa1+2 2be00 2d674+7 30402+1 3174a+3",
   "327cc+1 5ee5+5 3899+3 222c2+e 2aaa4+1 2be01+1 2d67c+7 327ce 222d1+a 222dd+3 2aaa6+2 2be03+3 2d684 30404",
   "327cf 5eeb 222e1+c 2aaa9 2be07 2d685+3 30405 3174e 5eec+1 9f90 389d 204cc 222ee+c 2aaaa 2be08 2d689+2",
   "3174f 327d0 5eee+2 389e 222fb+8 2be09 2d68c 5ef1 22304+2 2aaab 2be0a 2d68d+1 5ef2 22308+4 2be0b+1 2d68f+1",
   "30406 2230d+4 2be0d+1 31750 327d1 22312 2d691 5ef3 2be0f 22313 2be10 22314+2 327d2 5ef4 22317 5ef5 389f",
   "22318+2 2aaac 2be11 31751 5ef6+1 2231c 2d692+2 327d3 5ef8+1 38a0 2231b 2231d+1 2aaad+1 2d695 5efa+2 2231f",
   "31752 5efd 22320+5 2aaaf 22326+1 2aab0 2be12+1 22328+2 2aab1 31753 2232b 23261 327d4 262ea 2aab2 327d5",
   "2be14 327d6 2be15 5efe 2232c 5eff+1 2232d 5f01 2232e+1 5f02 22330+2 2be16 30407+1 5f03+2 22333 22335+5",
   "2aab3 30409 5f06 2233b 2233d+4 2aab4 2be17+2 31754 5f07+1 22334 2233c 22342+a 2d696 5f09 2234d+6 2aab5",
   "2be1a+1 2d697+1 3040a+1 22354+5 2be1c+1 327d7 2235a+7 2aab6 2be1e 22362+3 2aab7 2be1f 2d699 38a1 22366+5",
   "2d69a 5f0a 38a2 2236c 3040c 31755 38a3 2236e+3 2be20+1 2d69b+2 31756 22372+2 2aab8 2be22 31757 2be23 22375",
   "31758 2be24 22376 2aab9 2d69e 22377+2 5f0b 2237a 2b820 5f0c 2237b+1 5f0d 2d69f+2 5f0e+2 2237d+1 38a4",
   "2237f+6 3040d 38a5 22386+6 3040e+2 2238d 2d6a2 5f11 2238e 5f12 38a6 2238f+1 2398f 2d6a3+1 30411 22391+1",
   "30412 22393+3 5f13 22397+1 5f14+2 38a7 22399+8 2d6a5 5f17+1 223a2+8 5f19+3 38a8+3 223ab+b 2aaba 2be25+2",
   "2d6a6 327d8 5f1d+3 38ac+1 223b7+e 2be28+2 2d6a7+1 31759+2 2ec74 5f21+9 38ae+3 223c6+d 2aabb 2be2b+2",
   "2d6a9+2 30413+1 3175c 5f2b+4 38b2+5 20134 20518 223d4+f 2aabc+1 2be2e+4 2d6ac+4 30415+1 2ec75+2 5f30+3",
   "38b8+1 223e4+9 2aabe 2be33+3 2d6b1+4 30417+1 3175d 2ec78 5f34+5 38ba+2 223ee+11 2aabf 2be37+1 2d6b6+3",
   "30419+2 3175e 5f3a+4 38bd+2 22400+9 2aac0+1 2be39+1 2d6ba+7 3041c+2 5f3f+3 38c0+2 2240a+7 2d6c2+1 5f43+2",
   "38c3 22412+b 2aac2 2be3b 2d6c4 3041f 327d9 5f46+3 38c4+1 2241e+6 2be3c+1 2d6c5+2 30420 5f4a+1 22425+5",
   "2be3e+1 2d6c8+1 5f4c 2242c+5 2aac3 2be40 2d6ca+1 327da 5f4d 22432+5 2be41 2d6cc 22438+6 24bfd 2243f+6",
   "2be42 30421 38c6 22446+3 2aac4 2be43 30422 5f4e 2244a 5f4f 2244b+1 2aac5 2244d+1 5f50+1 2b739 5f52+1",
   "2244f+3 2aac6 22453 5f54+1 38c7 22454+1 2be44 2d6cd+1 3175f 5f56 22457+3 2d6cf 31760 2245b+2 5f57 2245e+3",
   "2d6d0 30423 327db 5f58 22462+2 2be45+1 2d6d1+1 5f59+1 22465+2 30424+1 31761 22468+6 23f19 2be47+1 327dc",
   "5f5b+1 38c8 2246f 22471+1 5f5d+1 22473+3 2aac7 5f5f 22477+7 5f60 2247f 5f61 22480+2 38c9 22483+3 327dd",
   "5f62+2 38ca 22487+1 30426 38cb+2 22489+4 2d6d3 30427 2ec79 5f65+1 2248e 2b778 30428 5f67+1 2248f+4 23972",
   "2aac8 2be49 30429+1 5f69 5f6b+1 38ce 22494+9 31762+1 5f6d 38cf+1 2249e+5 3042b 5f6e 224a4+4 2d6d4+1 31764",
   "5f6f+1 38d1 224a9+1 2d6d6+2 31765+1 5f71 38d2 224ab+4 2aac9 2d6d9+2 327de 38d3 224b0+4 2aaca 224b5 2be4a",
   "31767 327df 224b7 224b6 31768+1 5f72 224b8+3 5f73 224bc+1 3176a 38d4 224be+1 2be4b 5f74+1 38d5 224c0+3",
   "2be4c 2d6dc+1 3042c 3176b+1 327e0 5f76+5 9fc8+1 38d6+1 224c4+d 2aacb 2be4d+3 2d6de 3176d+1 327e1 5f7c+8",
   "38d8+1 224d2+9 2aacc 2be51 2d6df+7 3042d 2ec7a+1 327e2 5f85+8 5f94 38da+7 224dc+d 2be52+1 2d6e7+2 3176f",
   "2ec7c 327e3 5f8e+5 5f95 38e2+1 224ea+16 2aacd+1 2be54+1 2d6ea+4 3042e+1 5f96+3 5f9b+8 38e4+5 22501+1d",
   "2aacf+1 2be56+2 2d6ef+7 30430+3 31770+3 327e4 5f9a 5fa4+7 38ea+4 2251f+c 2252d+4 2aad1+2 2be59+4 2d6f7+5",
   "30434+1 31774+2 2ec7d 327e5 5fac+4 38ef 22532+1c 22567 2aad4+1 2be5e+2 2d6fd 30436 31777 327e6 5fb1 5fb3+1",
   "38f0+2 2254f+17 22568+1 2aad6+2 2be61+1 2d6fe+2 30437 327e7 5fb2 5fb5+5 38f3+1 2256a+e 2be63+2 2d701+4",
   "2ec7e 327e8+1 5fbb+1 38f5+1 22579+b 22586+1 2aad9 2d706+2 30438 31778+1 327ea+2 5fbd+1 38f7 22588+2",
   "2258c+2 2aada 2be66 327ed 2258f+8 2aadb+1 2be67+1 2d709 30439 327ee 5fbf 38f8 22598+2 2259c 2d70a 5fc0+1",
   "38f9 2259d+3 225a2 327ef 5fc2 225a3+1 2be69 3177a+1 327f0 225a5+1 2be6a 225a7+1 5fc3+1 225a9 5fc5+1 38fa",
   "225aa 3043a 5fc7+3 38fb 225ab+6 2aadd 2be6b+2 3043b+1 3177c+1 5fcb+11 38fc+4 225b2+16 2aade 2be6e+3",
   "2d70b+3 3043d+3 3177e+3 2ec7f 5fdd+29 3901+a 225c9+35 2aadf+6 2b779 2be72+7 2d70f+9 30441+8 31782+5",
   "2ec80+2 327f1+3 6007+38 390c+d 225ff+34 2aae6+6 2be7a+5 2d719+e 3044a+9 31788+8 2ec83 327f5+2 6040+3d",
   "391a+13 393a 22634+3c 2aaed+7 2be80+b 2d728+d 30454+7 31791+5 2ec84+1 327f8+8 607e+31 392e+b 393b+2",
   "22671+4e 2aaf5+9 2be8c+9 2d736+15 3045c+a 31797+5 2ec86 32801+4 60b0+3f 393e+1b 226c0+67 2aaff+7 2be96+9",
   "2d74c+14 30467+8 3179d+c 2ec87 32806+7 60f0+36 6168 395a+11 22728+64 2ab07+b 2b73f 2bea0+d 2d761+15",
   "30470+b 317aa+11 2ec88+1 3280e+6 6127+2a 396c+f 2278d+52 2ab13+b 2beae+9 2d777+15 3047c+8 317bc+4 2ec8a+1",
   "32815+6 6152+15 6169+1f 397c+c 2056b 227e0+50 26451 2ab1f+8 2beb8+a 2d78d+18 30485+5 317c1+4 3281c+5",
   "6189+2a 3989+d 22831+60 2ab28+5 2bec3+6 2d7a6+13 3048b+8 317c6+b 32822+9 61b4+6 61bc+18 3997+2 22892+3b",
   "26857 2ab2e+8 2beca+5 2d7ba+a 30494+2 317d2+3 3282c+d 61bb 61d5+13 399a+6 228ce+2c 26ec7 2ab37+2 2bed0+2",
   "2d7c5+7 30497+3 317d6+1 3283a+2 61e9+b 39a1+1 228fb+2a 2ab3a+4 2bed3+6 2d7cd+a 3049b+3 317d8 3283d+5",
   "61f5+3 39a3+4 22926+24 2ab3f+1 2beda+2 2d7d8+6 3049f+1 317d9 32843+2 61f9+2 39a8+2 2294b+b 2ab41+1 2bedd+4",
   "2d7df+3 304a1+2 32846+2 61fc+3 22957+d 2ab43+1 2bee2+2 2d7e3+3 32849+1 6200+2 39ab+1 22965+9 2ab45+1 2d7e7",
   "3284b 6203+1 2296f+b 2ab47 3284c+1 6205+1 2297b+7 2d7e8+2 2ab48 2d7eb+1 22983+1 2d7ed 317da 6207 39ad",
   "22985+2 2bee5 22988+3 317db 6208+3 2298c+1 2ab49 2d7ee 620c+4 2298e+3 2ab4a 2bee6+1 6211+2 39ae+1 22992+7",
   "2bee8 2d7ef 6214+3 39b0+2 2299a+b 2bee9+1 2d7f0+2 304a4+1 6218 39b3 229a6+10 2ab4b+1 2beeb+1 2d7f3 304a6+2",
   "6219 39b4+2 229b7+7 2ab4d+1 2beed+4 304a9 621a+3 39b7 229bf+8 2ab4f+1 2bef2+4 2d7f4+1 304aa 3284e 621e+1",
   "6226 39b8 229c8+b 2ab51 2bef7+7 2d7f6 304ab 317dc 3284f 6220+5 39b9 229d4+d 2ab52 2beff+1 2d7f7 304ac+2",
   "2ec8c+1 32850+1 6227+5 39ba 203b6 229e2+5 229e9+8 2ab53 2bf01 2d7f8+1 304af 317dd+1 2ec8e 32852 622d+2",
   "6231 39bb+1 229e8 229f2+14 2bf02+1 2d7fa+2 304b0+1 317df+1 32853 6230 22a07+8 22a11+1 2ab54+2 2bf04+4",
   "2d7fd 304b2+1 6232 6234 39bd 22a13+4 2d7fe 6233 22a18+5 32854 22a1e+2 317e1 22a21+2 32855 6235 2ab57",
   "6236+3 22a24+1 2d7ff 22a26+3 623a+2 39be 22a2a+4 2d800 623d+3 39bf+1 22a2f+6 2bf09 2d801+1 6241+2 39c1+1",
   "22a36+e 2ab58 2bf0a 2d803+3 6244+3 22a45+7 2bf0b+1 6248 22a4d+3 2ab59 2bf0d+1 6249+1 22a51+4 2bf0f+1",
   "2d807+2 304b4 317e2 22a56+1 247f5 2bf11 22a58+3 317e3 22a5c+2 2ab5a 2d80a 304b5 32856 22a5f 2d80b 304b6",
   "317e4+1 32857 22a60 32858 22a61 28433 317e6+1 22a62 2ab5b 22a63+1 317e8 2d80c 2bf12 624b+2 9fb5 2d80d 624e",
   "22a65+2 2bf13 6250+6 39c3+2 22a68+4 2bf14 2d80e 304b7+4 624f 6257+7 6260+c 39c6+2 22a6d+15 2ab5c 2bf15+2",
   "2d80f+1 304bc+1 317e9+3 32859 625f 626d+a 6279+2c 39c9+8 22a83+30 2ab5d+5 2bf18+3 2d811+5 304be+d 2ec8f",
   "3285a+5 6278 62a6+43 39d2+e 22ab4+2f 2ab63+7 2b77a 2bf1c+5 2d817+a 304cc+a 317ed+8 32860+7 62ea+3d 39e1+10",
   "22ae4+4a 2ab6b+8 2b77b 2bf22+e 2d822+10 304d7+13 317f6+2 32868+6 6328+3c 39f2+6 22b2f+51 2ab74+c 2bf31+f",
   "2d833+15 304eb+e 317f9+d 2ec90 3286f+9 6365+4c 63b3+a 39f9+f 22b81+67 2ab81+a 2bf41+15 2d849+14 304fa+a",
   "31807+d 32879+2 63b2 63be+6 63c6+3f 641c 3a09+c 3a17+1 22be9+55 22c40+1e 2ab8c+a 2b77c 2bf57+11 2d85e+13",
   "30505+c 31815+a 3287c+a 6406+15 641d+13 6432+18 3a16 3a19+13 22c5f+53 2ab97+b 2b77d 2bf69+d 2d872+14",
   "30512+c 31820+8 2ec91 32887+d 63c5 644b+a 6457+2d 6487 3a2d+15 22cb3+61 22d16+9 2aba3+7 2b77e 2bf77+a",
   "2d887+f 3051f+6 31829+7 2ec92 32895+f 6431 6456 6485+1 6488+32 64c6 3a43+e 22d15 22d20+5e 22dc5 2abab+9",
   "2bf82+7 2d897+b 30526+3 31831+7 328a5+11 64bb+a 64c7+17 3a52+7 22d7f+45 22dc6+4 2abb5+2 2bf8a+5 2d8a3+e",
   "3052a+8 31839+4 328b7+e 64df+5 64e6+b 3a5a+5 22dcb+2a 2abb8+2 2bf90+2 2d8b2+b 30533+4 3183e+5 328c6+8 64e5",
   "64f2+14 3a60+b 22df6+2c 2abbb+5 2b77f 2bf93+5 2d8be+5 30538+1 31844+7 328cf+b 6507+9 6512 3a6c+1 22e23+29",
   "2abc1 2bf99+1 2d8c4+7 3053a 3184c+1 328db+4 6511 6513+7 3a6e+2 22e4d+14 22e63+8 2abc2 2bf9b 2d8cc+4",
   "3053b+1 3184e 328e0+4 651b+2 3a71+3 22e62 22e6c+15 2bf9c 2bf9e 2d8d1+1 3053d+1 3184f+2 328e5 651e+6 6526+1",
   "9fdc 22e82+13 2abc3 2bf9d 2bf9f+1 3053f 31852+1 328e6 6525 6528+3 3a75+2 22e96+7 2abc4 2bfa1 31854 652c+1",
   "22e9e+d 2bfa2 328e7 652e 3a78+1 22eac+3 31855+1 22eb0+2 328e8 22eb3 328e9 2d8d3 22eb4 652f 2d8d4 6530",
   "22eb5 2d8d5 22eb6 2d8d6 30540 3a7a 22eb7+6 2abc6 6531 22ebe+2 2d8d7+1 328ea+1 3a7b+1 22ec1+6 22ec9 30541",
   "31857 328ec 3a7d 22eca+3 2abc5 6532 3a7e 22ece+b 2d8d9+1 30542 22eda+2 2bfa3 22edd+2 2abc7 2d8db 328ed",
   "6533 22ee0+4 2bfa4 2d8dc+1 22ee5+4 2d8de 2bfa5 2d8df 22eea 2d8e0 6534+3 2bfa6 2d8e1 30543 6538+4 3a7f+1",
   "22eeb+7 2bfa7 2d8e2+1 653d+2 3a81+1 22ef3+15 2abc8 2bfa8 2d8e4 30544+2 6540+5 3a83+3 22f09+11 2abc9+1",
   "2bfa9 2d8e5+4 30547 2ec93 6546+6 3a87+2 22f1b+1d 2304b 2abcb+1 2bfaa+6 2d8ea+7 30548 2ec94 555f 654d+e",
   "3a8a+4 22f39+20 22f5c 22f77 2abcd 2ad4a 2bfb1+7 2d8f2+3 30549+1 31858 2ec95 655c+e 656d 3a8f+b 22f5a+1",
   "22f5d+19 22f78+6 22fa3 2abce+1 2bfb9+7 2d8f6+5 3054b+3 31859+4 656b+1 656e+2 3a9b+4 22f7f+23 22fa4 2abd0",
   "2bfc1+6 2d8fc+6 3054f+1 3185e+1 6571+2 3aa0+3 22fa6+1f 2abd1+1 2bfc8+4 2d903+4 30551 328ee 6574+7 3aa4+2",
   "22fc7+16 2305b 2abd3+3 2bfcd+3 2d908+3 30552+1 31860 328ef 657c+3 3aa7+3 22fde+1f 2abd7+2 2bfd1+6 30554+1",
   "6580+2 22ffe+5 23005+a 2abda 2bfd8+2 2d90c+1 30556+1 328f0 6583 8d01 3aab+1 23004 23010+a 2abdb+1 2bfdb+2",
   "2d90e+1 6584 2301b+7 2982e 2bfde+4 30558 328f1 6585+1 3aad 23023+a 29830 2bfe3+3 30559 31861 328f2 3aae",
   "2302e+4 2abdd+1 2bfe7+1 2d910+1 23033+1 2bfe9 2d912 23035+5 2abdf 2bfea+2 2303b+1 2d913 2303d+3 6587 23041",
   "2bfed 6588 3aaf 23042 2abe0 2d914 31862 6589 23043+2 2abe1+1 328f3 23046+3 2abe3 2bfee+1 2d915+4 3055a",
   "2ec96 658a+1 3ab0 2304a 2304c+1 2abe4 2bff0 328f4+2 658c+3 2304e+5 2305a 31863 328f7 6590+1 23054+2",
   "2abe5+2 2bff1 31864+2 2ec97 328f8 6592 3ab1 23057+2 295b0 2abe8+2 3055b 2305c+5 6593 23062+1 328f9+1 23064",
   "2d91a+1 23065+1 3055c 328fb 6594 23067+1 2bff2 6595 23069+1 6596 2306b 328fc 31867 6597 2306c 3ab3 3ab2",
   "6598 2306d 3ab4 2306e+2 3ab5 23071+1 2abeb 328fd 6599+1 3ab6 23073+3 2abec 2bff3 659b+1 3ab7 23077+4 2bff4",
   "328fe 659d 3ab8 2307c+4 2bff5 659e+1 23081 23083+2 65a0+1 23082 23086+2 2abed 3ab9 23089+2 2abee 2bff6",
   "2d91c 328ff 65a2 2bff7 2d91d 31868 65a3 3aba 2308c+1 2abef 2bff8 2308e+2 2abf0 3abb 2d91e 65a4 23091 65a5",
   "2d91f 23092+1 65a6+3 23094+4 2abf1 2d920 3055d+1 65aa+1 3abc+1 23099+1 2d921+1 3abe+1 2309b+2 65ac+1",
   "2309e+2 2bff9+1 31869+1 65ae+1 3ac0 230a1+9 230ac+1 2bffb+1 3055f 3186b 65b0+1 230ae+7 251f4 2d923+1 30560",
   "3186c 65b2 3ac1 230b6+4 2d925 30561 3186d 32900 65b3 3ac2 230bb+4 30562 32901 65b4 230c0+6 2bffd 30563+1",
   "3186e 32902 65b5+1 230c7+4 2d926 65b7 230cc+4 30565 230d1+2 2bffe 3186f 230d4+1 2bfff 31870 230d6 65b8",
   "30566 65b9 2d927 3ac3 230d7 2d928+2 230d8+1 65ba+2 3ac4 230da+2 2abf2+1 2c000 2d92b+1 31871 65bd+3 3ac6",
   "3ac8 230dd+8 2abf4 2d92d+7 30567 65c1+5 65ca 3ac5 3ac7 3ac9 230e6+c 2abf5+2 2c001+5 2d935+4 30568 31872+1",
   "32903 65c7+2 65cb+4 3aca+2 230f3+8 2abf8 2b780 2c007+1 2d93a 30569+2 65d0+1 3acd 230fc+b 2abf9+3 2c009+1",
   "2d93b+3 3056c+1 31874+2 2ec98+1 65d2+3 23108+5 2abfd 2b781 2c00b+2 2d93f+1 3056e 32904+1 65d6+1 2310e+5",
   "2abfe 2c00e+2 2d941 3056f 32906 3ace+1 23114+2 2abff+1 2c011+1 2d942+2 65d8+1 23117+5 2ac01+1 2c013+3",
   "2d945 31877 32907+1 65da 2311d 2c017 2d946 31878 32909 65db 2311e+5 2c018+3 2d947+1 3290a 65dc+2 23124",
   "2ac03+1 2c01c+1 2d949 65df 23125 2ac05 2c01e+2 23126 2c021 23127+1 2c022 23129 2c023 2312a 3290b 2312b+1",
   "2c024 65e0+1 2312d 30570 2312e+1 3290c+1 65e2 23130+3 65e3 2c025 23134+1 65e4 23136+2 3290e 23139+1 2d94a",
   "65e5+2 2313b+2 2d94b 65e8+7 3ad0+1 2313e+5 23145 2c026 2d94c+2 30571+1 31879 65f0+8 3ad2+5 23144 23146+13",
   "2ac06+1 2c027+1 2d94f+2 30573 2ec9a+1 3290f 65f9+20 3ad8+2 2315a+1c 2ac08+6 2c029+2 2d952+e 30574+3",
   "3187a+2 2ec9c+1 32910+1 661a+25 3adb+9 23177+11 2318a+7 2ac0f+9 2b782+1 2c02c+2 2d961+c 30578+6 3187d+1",
   "2ec9e 32912+5 6640+16 3ae5+9 23192+1f 23230 2ac19+b 2b784 2c02f+5 2d96e+15 3057f+7 3187f+3 2ec9f+3 32918",
   "52d7 6657+12 66fd 3aef+5 231b2+2f 2ac25+3 2c035+5 2d984+14 30587+5 31883+5 2eca3 32919+4 666a+19 6691",
   "3af5+b 231e2+41 2ac29+5 2c03b+6 2d999+e 3058d+8 31889+5 2eca4 3291e+5 6684+c 6692+7 3b01+b 23224+b",
   "23231+20 2ac2f+8 2c042+7 2d9a8+19 30596+4 3188f+9 2eca5 32924+6 669a+e 3b0d+3 23252+e 23262+18 2ac38+5",
   "2c04a+1 2c04d+2 2d9c2+f 3059b+5 31899+7 2eca6+2 3292b+7 66a9+e 3b11+5 2327b+d 2328a+7 23293+a 232c7",
   "2ac3e+7 2c04c 2c050+2 2d9d2+f 305a1+9 318a1+3 2eca9 32933+6 66b8+15 9fa7 3b17+8 23289 2329e+28 232c8",
   "2ac47+5 2c053+5 2d9e2+12 305ab+3 318a5+7 3293a+6 66ce+9 66da 3b20+2 2005e 232c9+14 2ac46 2ac4d 2c059+2",
   "2d9f5+9 305af+3 318ad+2 32941+6 66d8+1 66db+1 3b23+5 2019b 232de+11 232f1 25ac2 2ac4e+2 2c05c 2d9ff+a",
   "305b3+2 318b0+1 32948+2 66dd+5 3b29+1 232f2+c 2da0a+2 305b6+2 3294b+2 66e3+5 3b2b 232ff+8 2c05d+1 2da0d+3",
   "318b2+1 3294e 66e9 23308+4 2ac51+2 2da11 305b9+2 3b2c+1 2330d+8 305bc 66ea+2 3b2e 23316 2da12 305bd 318b4",
   "66ed+1 23317+2 2331b 2ac54 2da13+1 3294f 66ef 3b2f 2331c+1 2da15+1 305be 32950 2da17 2331f+1 66f0+3 3b30",
   "2da18 66f4+1 23321+1 2c05f+1 32951 66f6 23323+3 2c061 66f7 23189 23327+5 2da19+1 32952 66f8 66fa 2332d+9",
   "2c062 2da1b+1 66f9 66fb+1 23337+3 2c063+1 66fe+1 6701+1 2333b+2 2c065+2 2da1d 305bf+1 6703 2333e+4 6704+1",
   "23343+2 2c068+2 2da1e 305c1 318b5 23346+4 2ac55 2c06b 2da1f+3 32953 6706 3b31 2334b+3 2ac56+1 318b6 3b32",
   "2334f+1 2c06c 23351+4 305c2 318b7 32954 23356+1 2ac58 32955 23358+1 2c06d+2 6707 2da23 2335a 20471 305c3",
   "32956 2335b+1 6708 2335d 6709 2335e 2ac59 2c070 2da24+1 32957 2335f+4 2ac5a 2c071+2 2da26+1 670a+3 3b33",
   "4dba+1 23364 26657 2ac5b 2c074+4 2da28+5 305c4 32958 670e+2 23365+2 23369+3 2ac5c+1 2c079 2da2e+3 305c5",
   "318b8 2ecaa 32959 6712+3 3b34+1 2336d+1 266b9 2ac5e 2b785 2c07a+2 2da32+1 305c6+1 318b9 3295a+1 6716+5",
   "3b36+1 23371+5 2ac60+2 2c07d+4 2c099 2da34+4 3295c 671c+3 3b38 4dbc 23377+c 26733 2ac63 2b786+1 2c082+3",
   "2da39+4 305c8+1 318ba 3295d+3 6720 3b3a 4dbd 23384+8 2ac64+3 2c086 2da3e+2 305ca 6722 3b3b 2338d+4 2ac5f",
   "2ac68+2 2c087+5 2da41+2 305cb 32961+1 81a4 3b3c+2 23392+7 2ac6b+1 2c08d+1 2da44+1 305cc+1 32963 6723+1",
   "3b3f 2339a+1 2339d+5 2ac6d 2c08f+1 2da46+3 305ce 32964 3b40 2339c 233a3+5 26856 2c091+3 2da4a+4 318bb",
   "32965+2 6726 233a9+4 2c095+1 2da4f+2 305cf 32968 2c097+1 2da52+3 32969+1 6727 233ae+1 3296b+1 2ac6e+1",
   "233b0+1 2b1c3 2da56 233b2 2ac70 2da57 318bc+1 3296d 2c09a 6728+1 233b3+1 2c09b 672a+6 233b5+2 2c09c 2da58",
   "6731+12 3b41 233b8+8 305d0+2 318be 3296e 6744+25 6781 3b42+4 233c1+12 2ac71+4 2c09d+2 2da59+2 305d3 318bf",
   "3296f+1 676a+16 6782+2b 3b47+9 233d4+33 2ac76+3 2b788 2c0a0+4 2da5c+5 305d4+3 318c0+5 2ecac+2 32971",
   "67ae+63 3b51+6 23408+2c 2ac7a+8 2c0a5+1 2da62+10 305d8+3 318c6+6 2ecaf 32972+4 6812+58 9fc4 3b58+f",
   "23435+31 23468+16 2ac83+c 2b789+1 2c0a7+a 2da73+f 305dc+a 318cd+b 2ecb0+2 32977+5 686b+57 3b68+d 3b77",
   "2347f+41 2ac90+e 2c0b2+5 2c0b9+3 2da83+14 305e7+9 318d9+b 2ecb3 3297d+7 68c3+6b 3b76 3b78+12 234c1+6f",
   "2ac9f+10 2c0b8 2c0bd+13 2c0d2+1 2da98+1d 305f1+8 318e5+e 2ecb4+1 32985+7 692f+5a 698b+1 6994 6998 3b8b+15",
   "3ba2+1 23531+32 23565+44 2acb0+17 2b8d9+1 2c0d1 2c0d4+1a 2dab6+18 305fa+c 318f4+8 2ecb6+2 3298d+d fa13",
   "698a 698d+6 6995+2 6999+48 69e9 6a2e 3ba4+19 23564 235aa+6a 2acc8+14 2b78b+1 2c0ef+17 2dacf+10 30607+e",
   "318fd+a 3299b+7 fa14 69e2+6 69ea+43 6a2f+2 6a65 6a74 3bbe+11 3bd1+1 3be0 23615+3c 23653+27 236ef 2acdd+f",
   "2b78d+2 2c107+11 2dae0+1a 30616+e 31908+6 2ecb9 329a3+9 6a32+32 6a66+d 6a75+7 3bd0 3bd3+c 3be1+8 23652",
   "2367b+73 2aced+f 2b790 2c119+12 2dafb+e 30625+d 3190f+c 2ecba+1 329ad+d 6a7d+2d 3bea+c 236f0+31 23723+1d",
   "2acfd+b 2b791 2c12c+a 2db0a+7 30633+7 3191c+9 329bb+b 6aab+1f 3bf7+6 23741+17 2375a+34 2ad09+6 2b792",
   "2c137+9 2db12+b 3063b+2 31926+5 329c7+c 6acb+1b 6aeb 6aed 3bfe+a 23759 23790+33 237d1 2ad10+5 2c141",
   "2c143+5 2db1e+a 3063e+6 3192c+4 2ecbc 329d4+3 6ae7+3 6aec 6aee+8 3c09+a 3c16 237c4+c 237d2+1c 2ad16+4",
   "2c142 2c149+1 2db29+a 31931+1 329d8+1 6af8+d 6b0c 3c14+1 237ef+12 23803+15 2ad1b+3 2c14b+4 2db34+3 30645+3",
   "31933+1 2ecbd 329da+7 6af7 6b06+5 6b0d+1 3c17+1 23802 23819+1d 2ad1f+2 2c150+3 2db38+2 329e2 6b0f+3 3c19+3",
   "23837+13 2ad22+1 2c154 2db3b+5 329e3+1 6b13+2 2384b+12 25914 2ad24+1 2c155+3 329e5 6b16+5 2385e+a 2386e",
   "2ad26 329e6 6b1c+1 23869+4 2386f+2 2ad28 2c159+1 2db41 31935 329e7 9fdd 23872 23874+1 2ad27 2c15b 329e8+1",
   "6b1e+1 23876+2 30649 23879 2db42 2387a+2 2c15c 2db43 31936 329ea 2387d+2 6b20+2 23880 2db44 6b24 3c1d+1",
   "23881+7 2c15d+1 6b23 6b25+2 3c1f+3 23889+d 2ad29 2c15f 2db45+1 3064a+1 6b28+2 3c23+5 23897+f 2ad2a+1",
   "2c160+1 3064c 329eb 6b2b+6 3c29+4 4dbe 238a7+12 2c162+1 2db47+4 6b32+6 3c2e+3 238ba+d 2ad2c+1 2c164+4",
   "2db4c 3064d+1 329ec 6b39+6 3c32+4 3c38 238c8+14 2ad2e 2c169+1 2db4d+2 3064f+2 329ed 6b40+8 3c39+5 238dd+e",
   "238ed+4 2ad2f+1 2c16b+1 2db50+1 30652+3 31937+1 6b49+4 3c3f+2 238f2+15 2ad31 2c16d+2 2db52 30656+1 31939",
   "329ee 6b4e+5 3c42+1 23908+f 2ad32 2db53+1 30658 2ecbe 6b54+6 3c44+1 23918+7 2c170+1 2db55+1 6b5b+2 3c46+3",
   "23920+7 2c172 30659 329ef 6b5e+1 23928+3 2c173 3193a 6b60 3c4a 2392c+4 3c4b 23931+2 2ad33 2db57 329f0",
   "23934+1 23937+1 2c174 6b61 3c4c 23936 23939+3 3c4d 2393d 2c175 2393e 2ad34 3c4e 2393f+2 6b62 9fb0 23942",
   "3193b 6b63 23943+1 6b64 3c4f 23945+1 2c176+1 2db58+2 3065a 3193c+1 6b65 3c50+1 23947+1 2394a+2 2c178",
   "3065b+1 3193e 329f1 6b66+3 23949 2394d+14 2ad35 2c179 2db5b+2 3065d+2 3193f 6b6a+1 3c52+2 23962+2 2c17a+1",
   "2db5e+2 30660+3 31940+1 329f2 6b6c+1 23966+b 2ad36 2c17c+1 2db61 30664+5 31942 23973+5 2ad37 2c17e+2",
   "2db62+3 3066a 6b6e+1 3c55+1 23979+d 2ad38 2c181+2 2db66+3 3066b+3 31943 6b70+3 23987+3 2398c+2 2469c",
   "2ad39+1 2b793 2c184+1 2db6a+1 3066f+4 31944+1 6b74 3c57 23990+3 2ad3b 2c186+1 2db6c+1 30674+1 329f3 6b75+1",
   "23994+7 2ad3c 2c188+1 2db6e+3 30676+1 31946 2ecbf 329f4 6b77 2399c+4 2ad3d+1 2c18a+1 2db72+2 30678+1 31947",
   "239a1+4 2ad3f 2c18c+1 2db75+1 31948 6b78 3c58 239a6+5 2c18e 2db77 239ac 2c18f+1 3067a 31949+1 329f5+1",
   "239ae 2db78+3 3067b 239af+5 329f7 2db7c 6b79 239b5+1 6b7a 239b7 6b7b 3c59 239b8+6 2db7d+2 6b7c 239bf+9",
   "2db80+1 3067c 3194b 6b7d+4 3c5a+3 239c9+13 2db82+3 3194c 6b82+5 3c5e+2 239dd+14 2ad40+1 2c191+1 2db86+2",
   "3194d 329f8+1 6b88+3 3c37 3c61 239f2+12 2ad42+1 2c193+2 2db89+8 3067d+1 6b8c+7 3c62+1 23a05+10 2ad44",
   "2c196+1 2db92+4 3067f+1 3194e 6b94+6 3c64+5 23a16+1a 2ad45 2c198+2 2db97+1 3194f+2 329fa+2 6b9b+1 3c6a+4",
   "23a31+12 2c19b 2db99+2 31952+1 6b9d+4 3c6f+3 23a44+8 2ad46 2db9c 6ba2+4 3c73+1 23a4d+f 2b794 2db9d+1 30681",
   "6ba7+4 3c75+2 23a5d+a 2db9f+4 6bac+2 3c78 23a68+6 2ad47 31954+1 6baf 23a6f+7 2dba4+3 6bb0+1 23a77+1 2c19c",
   "329fd 9fde 3c79+1 23a79+2 2c19d 30682 6bb2 23a7c+2 3c7b 23a7f+2 329fe+1 6bb3 3c7c 2c19e 6bb4 3c7d 23a82+2",
   "2c19f+1 2dba8 2ecc0 6bb5+1 23a85+2 2c1a1+1 31956 6bb7 3c7e+1 23a88+2 2ad48+1 2c1a3+1 2dba9+4 6bb8+3 3c80",
   "23a8b+d 2ad4b 2c1a5+2 2dbae+3 31957 32a00+1 6bbc+1 3c81+2 23a99+6 2ad4c+2 2c1a8 2dbb2+4 6bbe+4 3c84",
   "23aa0+c 2ad4f 2c1a9+3 2dbb7+1 30683+2 6bc3+1 3c85 23aae+7 2c1ad 2dbb9+2 32a02 6bc5+1 23ab6+4 246d7 2ad50",
   "2c1ae+2 2dbbc+1 30686+1 6bc7+1 3c86+2 23abb+10 2c1b1 2dbbe+3 30688 3c89 23acc+3 2ad51+1 2c1b2+1 30689",
   "31958 3c8a 23ad0+7 2dbc2 6bc9 23ad8+5 2dbc3 3068a 23ade+1 2dbc4 23ae0+1 2c1b4 31959 6bca 23ae2+6 2dbc5",
   "23ae9 2ad53 2dbc6 23aea+1 3195a 2c1b5 6bcb+1 23aec 6bcd+1 23aed 2dbc7 6bcf+1 23aee 6bd1+1 23aef+3 2c1b6",
   "2dbc8 23af3+1 3195b 23af5+3 2c1b7 6bd3 23af9 3195c 23afa+2 2ad54 2dbc9 23afd+2 2c1b8 23b00 3195d 23b01",
   "6bd4+1 200b1 23b02+5 6bd6+2 3c8b 2dbca 6bd9 23b08+2 2dbcb+3 32a03 23b0b+1 2dbcf 3068b 2c1b9 2dbd0+1 23b0d",
   "2c1ba 3068c 23b0e+3 2ad55 23b12+2 6bda 23b15+1 2c1bb 23b17+3 6bdb 23b1b 2ad56 3c8c 23b1c+4 32a04+1 6bdc+1",
   "23b21+7 2c1bc 3068d 32a06 6bde+1 3c8d+4 23b29+e 2ad57+1 2c1bd+2 2dbd2 3068e+3 32a07+1 6be0+1 3c92 23b38+23",
   "2ad59+1 2c1c0 2dbd3+4 30692+3 3195e+1 32a09 6be2+8 3c93 23b5c+14 2ad5b+1 2dbd8 30696+1 31960+1 2ecc1 32a0a",
   "6beb+3 3c94+6 23b71+16 2c1c1 2dbd9+1 30698+5 2ecc2 32a0b+3 6bef+7 3c9b+3 23b88+1f 2ad5d+1 2dbdb+2 3069e+5",
   "32a0f 6bf7+6 3c9f+4 23ba8+1c 2ad5f 2c1c2 2dbde+1 306a4+2 31962+1 32a10 6bfe 3ca4+5 23bc5+1d 2ad60 2c1c3+1",
   "2dbe0+2 306a7+7 31964 32a11+1 6bff+3 23be3+14 2ad61 2c1c5 306af+2 31965 32a13 6c03+4 3caa+4 23bf8+11 2c1c6",
   "2dbe3+2 306b2 6c08+2 23c0a+f 2c1c7 2dbe6+3 31966+1 6c0b 3caf+1 23c1a+10 2ad62 2c1c8 2dbea 306b3+1 6c0c",
   "3cb1 23c2b+5 2dbeb 306b5 20ac8 23c31+4 2dbec 23c36+4 6c0d 23c3b+3 2dbed 306b6 23c3f+2 2dbee 6c0e 3cb2",
   "23c42+1 2dbef 23c44 6c0f+2 2b795 6c12 2b796 306b7 2c1c9 6c13 23c45+1 2c1ca+1 2dbf0 31968+1 23c47+3 2c1cc",
   "306b8 3cb3 2c1cd 306b9 23c4b+3 2dbf1 23c4f+1 2c1ce 23c51+1 306ba 23c53+1 6c14+4 23c55+1 306bb 6c19+1",
   "23c57+1 32a14 6c1b+2 3cb4 23c59+2 2ad63 2c1cf 2dbf2 306bc+1 32a15+3 6c1e+4 23c5c+4 2ad64 2c1d0 306be+1",
   "32a19 6c23+6 23c61 2c1d1 306c0+1 32a1a+2 6c2a+1 3cb5 23c63 2ad65 306c2 3196a 32a1d 6c2c+4 23c62 23c64+1",
   "306c3 3196b 32a1e+4 6c31 23c66+2 2ad66 32a23+2 6c32+1 23c69 2ad67 2c1d2 32a26+1 3cb6 23c6a+1 2dbf3 32a28",
   "3cb7 2dbf4 3196c 32a29+1 9feb 23c6c+1 2c1d3 23c6e 2dbf5 3196d 32a2b+2 23c6f+1 32a2e+1 6c34+1 6c3a 23c71",
   "306c4+1 6c36+3 3cb8 23c72+2 306c6 32a30+1 6c3b+1 6c3e+b 3cb9+3 23c75+a 2ad68 3196e+1 32a32+2 6c4a+1a 6c77",
   "3cbd+2 23c80+d 2ad69+3 2c1d4+3 2dbf6+1 306c7+4 31970+1 2ecc3 32a35+2 6c65+11 6c78+32 3cc0+a 23c8e+23",
   "2ad6d+3 2c1d8+2 2dbf8+4 306cc+5 31972+9 2ecc4 32a38+5 6cab+2e 6cdb+19 6cf6+8 3ccb+a 23cb2+31 2ad71+5",
   "2c1db+4 2dbfd+e 306d2+b 3197c+8 32a3e+1 6cda 6cff+d 6d0e+7 6d17+3e 3cd6+d 23ce4+39 2ad77+6 2c1e0+6 2dc0c+a",
   "306de+c 31985+13 2ecc5+1 32a40+b 6d0d 6d16 6d56+42 6d9a+f 3ce4+f 23d1e+58 23dda 2ad7e+d 2b797 2c1e7+d",
   "2dc17+10 306eb+11 31999+16 2ecc7 32a4c+7 6d99 6daa+58 6e04+13 6e1a 6e74 3cf4+1a 23d77+1a 23d93+46 23ddb+20",
   "23e0a 2ad8c+a 2b798 2c1f5+f 2dc28+1a 306fd+e 319b0+17 2ecc8+2 32a54+a 6e03 6e18+1 6e1b+58 6e75+b 6e82+a",
   "6ecb 6ede 9fcc 9fff 3d0f+15 23dfc+d 23e0b+51 2ad97+12 2c205+10 2dc43+1e 3070c+18 319c8+25 2eccb+4 32a5f+e",
   "6e81 6e8d+3d 6ecd+c 6edb+2 6edf+b 6f13 3d25+16 23e5d+6f 26d36 2adaa+14 2b799+2 2c216+e 2dc62+13 30725+b",
   "319ee+1c 32a6e+8 6ecc 6eda 6eeb+1f 6f0c+6 6f14+28 6f3e+f 3d3c+d 23ecd+26 23ef5+23 23f1a+28 2adbf+b 2c225+c",
   "2dc76+1b 30731+11 31a0b+1a 2ecd0+3 32a77+c 6f0b 6f3d 6f4e+31 6f81+17 6f9a+3 6fd0 9ff0 3d4a+12 23ef4",
   "23f43+65 23faa+15 23fc1+3 2adcb+11 2b79c 2c232+15 2dc92+19 30743+d 31a26+1b 2ecd4+1 32a84+7 6f99 6f9e+31",
   "6fd1+2 6fd6 3d5d+11 23fa9 23fc5+5c 2addd+a 2b79d 2c248+a 2dcac+f 30751+7 31a42+1d 2ecd6+2 32a8c+8 6f80",
   "6fd4+1 6fd7+1b 6ff4+4 3d6f+d 23fc0 24023+3a 2405f+1 2ade8+a 2c253+7 2dcbc+13 30759+8 31a60+f 32a95+a",
   "6ff9+1b 3d7d+6 2405e 24061+3b 2409e+2 240a2+10 2adf3+6 2c25b+3 2dcd0+b 30762+9 31a70+a 2ecd9 32aa0+5 6ff3",
   "7015+19 3d84+7 2409d 240a1 240b3+34 2adfa+5 2b79e 2c25f+5 2dcdc+f 3076c+3 31a7b+c 32aa6+6 702f+12 3d8c+5",
   "240e8+25 2ae00+2 2c265+5 2dcec+3 30770+1 31a88+6 32aad+a 7042+b 704f+1 3d92+6 22307 2410e+27 2ae03+4",
   "2c26b+2 2dcf0+6 30772 31a8f+3 32ab8+6 7051+7 3d99+1 24136+13 2ae08+1 2c26e+1 2dcf7+2 30773+1 31a93+2",
   "32abf+2 7059+3 3d9b+2 2414a+15 2ae0a+1 31a96+3 32ac2+3 705d+4 3d9e+1 24160+8 2ae0c 2c270+1 2dcfa+3 31a9a+3",
   "7062+1 24169+6 31a9e 32ac6+1 704e 7064+2 3da0 24170+6 32ac8+1 7067+1 24177+4 31a9f+1 32aca+1 2417c+3 2c272",
   "7069 30775 32acc 706a 2dcfe 24180 2c273 24181 706b+2 24182 2ae0d 2dcff 706e+5 7087 3da1+1 24183+9 2dd00+2",
   "30776 31aa1+2 32acd+1 7074+c 3da3+2 2418d+f 2ae0e+2 2c274+6 2dd03+4 30777+5 31aa4+4 2ecda+2 32acf 7081+5",
   "7088+16 3da6+4 2419d+1e 2ae11+6 2c27b+5 2dd08+9 3077d+3 31aa9+7 2ecdd+5 32ad0+2 709f+24 3dab+7 241bc+32",
   "2ae18+a 2c281+1 2dd12+8 30781+6 31ab1+b 2ece3+1 32ad3+3 70c4+2a 3db3+5 241ef+35 2ae23+7 2b79f 2c283+5",
   "2dd1b+a 30788+16 31abd+8 2ece5+3 32ad7+4 70ef+24 7115+3 3db9+8 24225+3c 2ae2b+7 2b7a0 2c289+d 2dd26+11",
   "3079f+d 31ac6+a 2ece9+1 32adc+9 7114 7119+27 716e 3dc2+b 24262+4f 2ae33+10 2c297+11 2dd38+10 307ad+c",
   "31ad1+e 2eceb+3 32ae6+9 7141+19 715c+11 716f+9 717a 3ba1 3dce+10 242b2+40 242f4+12 2434f 2ae44+d 2c2a9+8",
   "2dd49+18 307ba+c 31ae0+e 2ecef+4 32af0+8 715b 7179 717b+1e 71a6 84b8 3ddf+b 24307+2a 24333+1b 2ae52+e",
   "2b7a1 2c2b2+c 2dd62+10 307c7+8 31aef+d 2ecf4+1 32af9+5 719a+b 71a7+e 9ed9 9fa6 9fbd 3deb+7 24332 24350+18",
   "2436a+15 24381 24383+19 2ae61+8 2c2bf+5 2dd73+9 307d0+8 31afd+11 2ecf6+1 32aff+4 71b6+28 3df3+a 24369",
   "2439d+42 243e1+13 2ae6a+9 2c2c5+7 2dd7d+e 307d9+9 31b0f+7 32b04+9 71df+18 9fea 3dfe+5 243f5+2e 2ae74+7",
   "2c2cd+3 2dd8c+d 307e3+6 31b17+5 2ecf8+1 32b0e+10 71f8+b 3e04+1 24424+1e 24444+d 269a8 2ae7c+4 2c2d1+2",
   "2dd9a+7 307ea+5 31b1d+6 32b1f+6 7204+6 720c+2 7215 3e06+1 3e09 24452+20 2ae81+1 2c2d4+4 2dda2+1 307f0+3",
   "31b24+3 32b26+5 720b 720f+5 7216+2 3e08 3e0a+2 24473+2d 244a8 2ae83+2 2c2d9+4 2dda4+2 307f4+5 31b28+2",
   "32b2c+4 7219+2 3e0d 244a1+6 244aa+f 307fa 31b2b+1 32b31+2 721c+4 3e0e 244a9 244ba+1 244bd+a 2ae86+1 2dda7",
   "31b2d 7221+1 3e0f+1 244bc 244c8+6 244d0+6 2ae88 2c2de 31b2e+1 32b34 7223 244d7+4 2ae89 2dda8+1 307fb",
   "32b35+1 7224+2 244dc+2 244e0+3 2ae8a+1 2c2df+1 31b30+1 32b37 3e11 244e4+1 31b32 32b38 244e6+3 2ae8c 32b39",
   "7227 244ea 244ec 2c2e1+1 7228 244eb 244ed 7229 244ee 31b33 32b3a 2c2e3 722a+1 244ef+2 31b34 244f2+3 2ae8d",
   "31b35+1 722c+1 3e12+1 244f6+6 2c2e4+1 2ddaa 307fc 31b37 722e+2 244fd+e 2ae8e 2c2e6 2ddab 307fd 31b38+1",
   "7231 2450c+3 2c2e7+1 2ddac+3 307fe+1 32b3b 3e14 24510+3 2ae8f 2c2e9+1 2ddb0 30800 31b3a+3 7232 24514+2",
   "24518+3 2ae90+3 2c2eb+1 2ddb1 30801+3 31b3e+1 32b3c+1 2451c+5 2ae94+1 2c2ed+1 2ddb2+1 30805+1 31b40+4 7233",
   "3e15 24522+4 2c2ef+1 2ddb4+1 5655 7234 24527+6 2ae96+1 2c2f1+1 2ddb6 30807 31b45 2452e+3 2c2f3+1 2ddb7+1",
   "30808 31b46 24532+6 2453c 2ae98+1 2c2f5+1 31b47 7235 24539 2453b 2453d+1 2ddb9 31b48 32b3e 2453a 2453f+1",
   "2c2f7 31b49 24542+5 2c2f8+1 24548+3 30809+1 2454c+1 32b3f 2c2fa 2ae9a 7236+1 2ddba 32b40+1 2454e+1 2c2fb",
   "2ddbb 7238 24550+1 32b42 3e16 24552 3080b+1 32b43 7239 3e17 24553+1 2ae9b 3e18 24555 2ae9c 2ddbc 31b4a",
   "24556+1 3080d 32b44 723a 3e19 24558+2 2c2fc 2455b 2ddbd 723b 2455c 3e1a 2455d 2ae9d 723c 2455e+3 723d",
   "24562+3 723e 2039b 24566+3 2c2fd 31b4b 20442 21109 2c2fe 31b4c 4e2c 723f 2456a+3 32b45 2456e 2ddbe+1 30817",
   "7240 2456f+2 2ddc0+1 3080e+2 31b4d+1 32b46 7241 3e1b 24572+3 2c2ff+2 2ddc2+1 30811 31b4f 32b47 7242",
   "24576+4 2ddc4+1 30812 2457b+8 2ae9e 2c302 2ddc6 30813+1 31b50 31b57 3e1c 24584+7 2ae9f 2c303+5 30815",
   "31b51+2 31b58 7243 2458c+2 32b48 30818 7244 2458f+3 2c309 32b49+1 7245 24593+2 2aea0 2c30a 30816 31b54",
   "2c312 24596+5 2c30b+2 7246 2459c+3 2ddc7 31b55 2aea1 2c30e 2ddc8 245a0+1 2c30f 31b56 245a2 2c310+1 245a3+4",
   "7247 245a8+3 31b59 7248 3e1d+1 245ac+4 2c313+1 2ddc9 30819+1 32b4b 7249+1 245b1+8 2ddca+1 3081b+2 31b5a",
   "32b4c 3e1f+2 245ba+5 2aea2 31b5b 245c0+6 2aea3+1 2c315 2ddcc 3081e 724b+2 245c7+10 2aea5 3081f 31b5c+2",
   "724e+4 245d8+9 32b4d+1 7253+1 3e22 245e2+5 31b5f 32b4f 7255+2 245e8+a 31b60 245f3+6 2aea6 31b61 3e23",
   "245fa+4 2ddcd 32b50 3e24 245ff+3 2ddce 32b51 7258 24603 3e25 24604 2c316 7259 3e26 31b62 24605 30820 24606",
   "2aea7 2ddcf 31b63 32b52+1 24607 2ddd0 30821 32b54 3e27 24608+1 2c317 2ddd1 30822+1 31b64+1 2460a+1 30824",
   "31b66 32b55+1 725a 2460c+3 2aea8 2ddd2 32b57+1 24610+1 2c318 24612 31b67 32b59 24613 31b68 30825 725b+1",
   "24614 2ddd3 725d+2 3e28 24615+2 2c319 2ddd4 30826 7260+4 3e29+1 24618+3 2aea9 2c31a 30827+1 2ecfa 32b5a",
   "7265+7 3e2b+4 2461c+1b 2c31b+1 2ddd5+4 30829+3 31b69 2ecfb 32b5b+2 726d+8 3e30+4 24638+18 2aeaa+1 2b7a2",
   "2c31d 2ddda+3 3082d+6 31b6a+2 32b5e 7276+4 3e35+3 24651+9 2aeac+2 2c31e+1 2ddde+1 30834 31b6d+1 32b5f",
   "727b+4 7281 3e39+7 2465b+13 2c320 2dde0+3 30835 7280 7282+9 3e41+2 2466f+1d 2aeaf 2c321+1 2dde4+8 30836+1",
   "2ecfc 32b60+2 728c+5 3e45+3 2468d+e 2469d+b 246bf 2aeb0 2c323+2 2dded 30838 32b63+1 7292+5 3e44 3e49+2",
   "246a9+15 246c0+9 2aeb1+2 2c326+1 2ddee+1 30839+1 32b65 7298+3 3e4c+4 246ca+c 246d8+8 2aeb4 2c328 2ddf0+3",
   "3083b 32b66+2 729c+3 3e51+2 246e1+d 2aeb5 2ddf4+1 3083c 31b6f 72a0 3e54+2 246ef+9 31b70 32b69 3e57+1",
   "246f9+1 31b71 72a1+5 3e59 246fb+6 2ddf6 31b72 72a7+1 24702+4 3e5a 24707+4 2aeb6 32b6a 72a9 3e5b 2470c+7",
   "2ddf7 72aa 24714+4 72ab 24719 72ac+2 215dc 2471a 2c329 72af+1 2471b+5 2ddf8 32b6b+1 72b1+7 24721+d 2c32a+1",
   "2ddf9 3083d+1 32b6d 72b9+f 3e5c+4 2472f+1f 2476e 2aeb7 2ddfa+4 3083f+2 31b73+1 32b6e+3 72c9+15 3e61+9",
   "2474f+1e 2aeb8+1 2b7a3 2c32c+1 2ddff+4 30842+6 31b75+3 32b72+8 72df+13 3e6b+5 2476f+5 24776+22 247a3",
   "2aeba+1 2c32e+3 2de04+5 30849+4 31b79+2 2ecfd 32b7b+4 72f3+10 3e71+7 24775 24799+9 247a4+1e 2aebc+1",
   "2c332+2 2de0a+7 3084e+4 31b7c+2 2ecfe 32b80+a 7304+1d 732a 3e79+7 247c3+18 2aebe+3 2b7a4 2c335+2 2de12+4",
   "30853+a 31b7f+8 32b8b+a 7322+7 732b+e 7341 3e81+5 247dc+18 247f6+16 24822 2aec2+3 2c338+4 2de17+9 3085e+2",
   "31b88+9 32b96+b 733a+6 7342+1 7345+5 3e87+6 2480d+14 24823+15 2aec6+1 2c33d+3 2ceaa 2de21 30861 31b92+6",
   "32ba2+d 7344 734c+9 3e8e+5 24839+29 2aec8 2c341+4 2de22+5 30862+3 31b99+8 32bb0+3 734b 7356+e 3e94+5",
   "24863+28 2aec9 2c346+1 2de28+4 30866+1 31ba2+3 2ecff 32bb4+9 7365+8 3e9a+2 2488c+19 2c348+2 2de2d 31ba6+3",
   "32bbe+2 736e+6 3e9d+2 248a6+d 2aeca 2c34b 2de2e+1 31baa+1 32bc1+7 7375+3 3ea0 248b4+10 2aecb 2c34c 2de30+1",
   "30868 31bac+1 32bc9+5 7379+2 3ea1+1 248c5+7 2aecc 30869+2 32bcf+2 737c+1 3ea3+3 248cd+3 2c34d 2de32 31bae",
   "32bd2 737e+1 248d1+5 2de33 3086c 31baf 32bd3 7380 248d7+3 32bd4+1 7381+2 248db+3 32bd6 3ea7 248df+3 2c34e",
   "31bb0+1 248e3 32bd7+2 248e4 2de34 7384 248e5 31bb2 7385 248e6 32bda 7386+2 248e7+1 2c34f 7389 738b 248e9",
   "738a 738c+5 3ea8+3 248ea+2 2aecd 2de35 3086d+1 7392+9 3eac+3 248ed+b 2c350+1 2ed00+3 739c+15 9ff1 3eb0+6",
   "248f9+15 2aece+6 2b7a5 2c352+4 2de36+5 3086f+4 31bb3+3 2ed04+4 32bdb+1 73b2+1f 3eb7+7 2490f+25 2aed5+1",
   "2c357+6 2de3c+7 30874+2 31bb7+2 2ed09+5 32bdd 73d2+20 7409 3ebf+9 20d26 24935+20 2aed7+8 2b73b 2b7a6",
   "2c35e+6 2de44+7 30877+5 31bba+3 2ed0f+8 73f3+3 73f8+10 740a+9 3ec9+7 24956+24 2aee0+5 2c365+4 2de4c+8",
   "3087d+3 31bbe+3 2ed18+6 32bde+1 73f7 7414+9 741f+1d 3ed1+b 2497b+33 2aee6+c 2b7a7 2c36a+9 2de55+d 30881+3",
   "31bc2+7 2ed1f+6 32be0+4 741e 743d+22 3edd+9 249af+3a 2aef3+f 2c374+6 2de63+7 30885+3 31bca+2 2ed26+2",
   "32be5+5 7460+18 3ee7+3 249ea+29 2a6de 2af03+c 2b7a8 2c37b+9 2de6b+3 30889+1 31bcd+e 2ed29+2 32beb+4",
   "7479+13 748e 7493 3eeb+9 24a14+2b 24a41 2af10+6 2b7a9 2c385+5 2de6f+6 3088b+2 31bdc+6 2ed2c+4 32bf0+5 748d",
   "748f+3 7494+d 74a3+1 3ef5+7 24a40 24a42+28 2af17+9 2c38b+7 2de76+9 3088e+4 31be3+5 2ed31+4 32bf6+9 74a2",
   "74a5+f 3efd+5 24a6b+1f 2af21+5 2c393+3 2de80+8 30893+1 31be9+a 2ed36 32c00+7 74b5+d 24a8b+1d 24ab4 2af27+1",
   "2c397+2 2de89+3 31bf4+7 2ed37 32c08+3 74c3+8 3f03+3 24aa9+a 24ab5+8 2af29+2 2c39a 2de8d+3 30895+1 31bfc+3",
   "2ed38 32c0c+1 74cc+6 3f07 24abe+a 2af2c+3 2c39b+2 2de91 30897+1 31c00+2 2ed39+1 32c0e+1 74d3+3 24ac9+a",
   "2af30 2de92+1 30899 31c03 32c10+3 74d7+2 24ad4+4 2de94+2 3089a 31c04 74da 3f08 24ad9+6 2af31 74db 24ae0",
   "2af32 2c39e 32c14 24ae2+5 2c39f+1 24ae8 2c3a1 24ae9 32c15 74dc 3089b 74dd 24aea 2af33 3f09+1 24aeb+4 2af34",
   "2de97 74de+1 3f0b+1 24af0+4 2c3a2+1 2de98 3089c 2ed3b 32c16 74e0 3f0d+1 24af5+4 3f0f 24afa+6 3089d 31c05",
   "74e1 24b01+5 2af35 3089e+1 3f10+2 24b08+4 31c06 3f13+1 24b07 24b0d 24b10+5 32c17 74e2 24b0e+1 24b16 2de99",
   "24b17 32c18 3f15 24b18+2 2de9a 308a0 74e3 24b1b+2 74e4 24b1e+1 308a1 24b20+1 74e5 24b22 3f16 24b23+1 2ceac",
   "31c07 24b25 74e6 2de9b+1 74e7 3f17 24b26+1 2c3a4 74e8+1 3f18+1 24b28+3 2af36 2c3a5 32c19 74ea+8 3f1a+1",
   "24b2c+6 2af37+1 2c3a6+1 2de9d 308a2 32c1a 74f3+2 3f1c+4 24b33+a 2af39 31c08 74f6+2 3f21+5 24b3e+d 2c3a8+3",
   "2de9e+3 31c09+2 32c1b+1 74f9+3 3f27+3 24b4c+e 2dea2 31c0c 32c1d+1 74fd+4 3f2b+6 24b5b+b 24b72 24b96",
   "2af3a+1 2c3ac+1 2dea3 308a3+1 32c1f+1 7502+4 3f32+5 24b67+a 24b73+5 2af3c 2c3ae 308a5+1 2ed3c 7507+2",
   "3f38+2 20ab9 24b79+b 2af3d+1 2c3af 2dea4 31c0d 750a+4 3f3b+3 24b85+8 31c0e+1 32c21+1 750f+3 3f3f+6 24b8e+7",
   "24b97 31c10 32c23 7513+2 3f46+1 24b98+7 2dea5+1 31c11+1 32c24 7516 3f48+1 24ba0+1 2c3b0 24ba2+3 2dea7+1",
   "7517 24ba6+6 3f4a 24bad+2 2af3f 2dea9 31c13 24bb0+5 31c14 3f4b 24bb6 3f4c 24bb7 31c15 24bb8+1 7518 24bba",
   "2deaa+1 7519 24bbb+5 751a 24bc1+3 2b7aa 308a7+1 3f4d 24bc5 751b+1 2deac 308a9 31c16 24bc6 2af40 308aa",
   "751d+1 3f4e 24bc7 2c3b1 2dead 3f4f 24bc8 2c3b2 2deae+1 3f50 24bc9+1 2deb0 24bcb+1 3f51 24bcd+1 24bd0+1",
   "32c25+1 24bd2 751f 24bd3+1 2af41 32c27 24bd5+2 2deb1+2 7520 24bd8+6 2c3b3 308ab 7521 24bdf 2deb4 308ac",
   "31c17 32c28+2 7522+1 24be0+5 2af42 2c3b4+1 308ad 32c2b+3 7524+2 3f52 24be6+5 2c3b6 2deb5 308ae 31c18",
   "32c2f+1 24bec+5 2af43+2 2c3b7+2 31c19+1 32c31+2 7527 24bf2+2 2c3ba+2 308af 3f53 24bf5 3f54 24bf6+4 2deb6+1",
   "24bfb+1 24bfe+1 31c1b 24c00+2 32c34 7528+1 31c1c 752a 24c03 2af46 752b+1 24c04 200b5 200f0 21da4 24c05+1",
   "2c3bd+1 2deb8 752d+1 2deb9 308b0 20ceb 24c07 308b1+1 32c35 24c08 2deba 308b3 31c1d+1 752f 24c09 2debb",
   "31c1f 24c0a+2 31c20+1 2debc 31c22 24c0d+1 31c23 24c0f 24c11 24c10 7530+5 24c12 7536 24c13+1 2debd 308b4",
   "31c24 2ed3d 32c36 7537+3 753c 3f55+2 200eb 24c15+7 2af47 2c3bf 308b5+2 31c25 32c37+1 753b 753d+8 211cd",
   "22456 24c1d+b 2af48 2c3c0 308b8 7546+d 3f58+2 24c29+22 2af49+3 2c3c1 2debe+8 308b9+5 31c26+7 32c39+1",
   "7554+b 3f5b+1 24c4c+14 24c62+2 2af4d+3 2c3c2+1 2dec7+4 308bf+6 31c2e+1 2ed3e+1 32c3b+1 7561+6 7569 7570",
   "3f5d+1 24c65+15 2af51+1 2b7ab 2c3c4+2 2decc+7 308c6+4 31c30+5 2ed40+1 32c3d 756a+5 7572+2 3f5f+1 24c7b+15",
   "2af53+4 2c3c7+3 2ded4+6 308cb 31c36+1 2ed42 32c3e+2 7575+5 3f61+3 24c91+19 2af58+2 2c3cb 2dedb+4 308cc",
   "31c38+1 32c41+2 7571 757b+2 3f65 24cab+b 2af5b+1 2dee0+4 308cd+1 31c3a+2 32c44+1 757e+1 3f66+2 24cb7+10",
   "2af5d+1 2c3cc+6 2dee5+1 308cf+2 31c3d+1 7580+2 3f69 24cc8+6 24cd0+1 2af5f+2 2c3d3+1 2dee7+7 308d2+1 31c3f",
   "32c46+2 7583+1 3f6a 24cd2+8 24cdc+7 2af62 2c3d5 2deef+2 308d4+6 31c40 2ed43 7585 3f6b+1 24ce4+4 28434",
   "2af63 2c3d6+1 2def2+1 32c49+3 7586+1 3f6d 24ce9+7 24cf2 2def4+1 308db 31c41+2 7588 3f6e 24cf1 24cf3+5",
   "2af64 2def6+1 308dc 31c44 24cf9+5 2af65+1 2def8 308dd 32c4d 7589+1 24cff+2 2def9 32c4e 3f6f 24d02+2 2c3d8",
   "2defa 31c45 24d05+1 2defb 24d07+6 2defc 32c4f 24d0e 2defd 308de 24d0f 308df 24d10+2 31c46 758b 24d13+2",
   "2defe 758c 24d16 24d18 2deff 758d 24d17 2df00+1 308e0 31c47 758e+1 24d19+2 3f70 24d1c+1 2c3d9 2df02 308e1",
   "31c48 7590+1 2df03+1 24d1e 2df05 24d1f+3 32c50+1 2af67 24d23+1 7592 24d25 2c3da 7593+4 3f71+1 24d26+8",
   "7598+8 3f73+3 24d2f+7 2c3db+1 31c49+1 75a1+e 75ba 3f77+5 24d37+1f 2af68+3 2c3dd+3 2df06+1 308e2+6 31c4b+1",
   "32c52 75b0+9 75bb+e 3f7d+c 24d57+1f 2af6c+2 2b7ac 2c3e1+5 2df08+1 308e9+1 31c4d+4 32c53+1 75ca+c 3f8a+8",
   "24d77+1d 2af6f 2c3e7+5 2df0a+3 308eb+1 31c52+2 32c55+4 75d7+14 3f93+e 24d95+2c 2af70+1 2c3ed+4 2df0e+4",
   "308ed+2 31c55+1 32c5a+5 75ec+1a 3fa2+7 24dc2+38 2af72 2c3f2+3 2df13+3 308f0+4 31c57 32c60+1 7607+11 761f",
   "7627 3faa+b 24dfb+2e 2af73+2 2c3f6+2 2df17+6 308f5+4 31c58+4 32c62+4 7619+5 7620+6 7628+3 3fb6+b 24e2a+32",
   "2af76+1 2b7ad 2c3f9 2df1e 308fa+3 31c5d+3 32c67+2 762c+13 764a 3fc2+6 24e5d+25 24e9e 2c3fa+1 2df1f+8",
   "308fe+2 31c61+1 32c6a+3 7640+9 764b+3 3fc9+1 24e83+1a 24e9f+1a 2af78+1 2c3fc+1 2df28+5 30901+3 31c63+3",
   "32c6e+4 764f+f 3fcb+5 24eba+1a 2c3fe 2df2e+1 30905+2 31c67+3 32c73+3 765f+2 7663 3fd1+2 24ed5+1a 2af7a",
   "2df30+4 30908 31c6b+1 32c77+1 7662 7664+2 3fd4 24ef0+f 2df35+2 30909 31c6d+2 32c79+1 7667+4 3fd5+2 24f00+a",
   "2c3ff+1 2df38 766c+2 3fd8 24f0b+4 2c401 3090a 31c70+1 766f+1 3fd9 24f10+7 31c72 7671+1 3fda+1 24f18+3",
   "2df39+1 32c7b 24f1c+2 32c7c 7673 24f1f+2 31c73 24f22 2df3b 32c7d 7674 3fdc 24f23 2df3c 24f24 7675 3090b",
   "7676 2df3d 24f25+1 31c74 32c7e 7677 3090c+1 7678+2 24f27+1 2df3e+1 3090e 31c75+1 24f29+2 3090f 24f2c+2",
   "2df40 767b+1 24f2f+3 2c402 2df41 30910 31c77+1 24f33+2 2df42 30911 24f36 2df43 24f37+1 2df44 31c79 24f39+1",
   "24f3c 2df45 32c7f 24f3b 767d+2 24f3d+1 2c403 30912 7680+3 3fdd 24f3f+2 2df46 31c7a 7684 24f42+5 2df47+3",
   "30913+1 31c7b 7685+3 3fde 24f48+f 2af7b+1 2c404+1 2df4b+2 2ed44 7560 7689+4 3fdf 24f58+c 2af7d 2b7ae",
   "2c406+1 2df4e+5 30915 768e+3 3fe0+1 24f65+6 2c408+1 2df54+3 30916+2 32c80 7692+4 2031f 24f6c+c 2af7e+1",
   "2c40a 2df58 30919 32c81 7697+2 3fe2 24f79+e 2af80+1 2c40b+3 2df59+3 3091a+2 32c82 3fe3+1 24f88+b 2af82+1",
   "2c40f+1 2df5d+1 32c83 769a+4 3fe5 24f94+6 2af84 2df5f 31c7c+1 32c84 769f+2 3fe6 24f9b+4 2df60 76a2+3",
   "24fa0+6 3091d 76a6+2 24fa7+3 2df61+1 76a9 3fe7 24fab+8 76aa+1 24fb4+3 31c7e 76ac 3fe8 24fb8+2 2af85",
   "24fbb+2 76ad 24fbe+1 2c411 24fc0+3 3fe9 24fc4+1 76ae 24fc6+1 3091e 31c7f 76af 3fea 24fc8+5 2af86 31c80",
   "3feb+1 24fce+6 2af87 2c412 76b0+1 3fed+1 24fd5+9 2c413+1 2df63+1 3091f+3 31c81+1 32c85+1 76b2 3fef+1",
   "24fdf+7 2df65+5 30923+4 31c83+1 32c87 76b3+1 3ff1 24fe7+7 24ff0+2 2c415 2df6b 30928+2 32c88 76b5 9fbe",
   "3ff2+1 24fef 24ff3+c 2df6c+2 3092b+3 32c89 76b6+3 3ff4+1 25000+c 2af88+1 2c416 2df6f+1 3092f 31c85 32c8a",
   "76ba 3ff6+1 2500d+6 2df71+2 30930+1 76bb 3ff8 25014+a 2df74+1 31c86 32c8b 76bc 2501f+2 2df76 32c8c 76bd",
   "3ff9 25022+8 2df77 31c87 32c8d+1 2502b+3 2df78+1 76be 3ffa 2502f+4 31c88 25034+4 2df7a 31c89 25039+1 2df7b",
   "31c8a 76bf+2 2503f+1 30932+2 76c2 3ffb 25041+4 2b7af 2c417 30935 76c3+5 3ffc+1 25046+7 2af8a+1 2b7b0",
   "2c418+1 2df7c 31c8b+2 32c8f 76c9+8 3ffe+2 2504e+f 2506b 2af8c+1 2c41a+1 2df7d+2 30936+3 31c8e+1 32c90",
   "76d2+6 76db 4001+1 2505e+c 2af8e 2c41c+2 2df80+1 31c90+2 76d9+1 76dc 4003 2506c+a 2af8f+1 2c41f+2 2df82",
   "3093a+1 32c91 76dd+2 4004+1 25077+b 2af91+1 2b7b1 2c422+5 2df83+3 3093c 76e0+3 4006 25083+3 2af93+1",
   "2c428+7 2df87+4 3093d+2 32c92 76e4 25087+b 2af95 2c430 2df8c+3 30940+2 32c93 76e5+2 4007+1 25093+11 2af96",
   "2c431 2df90 30943+2 31c93+4 32c94+1 76e8+2 4009 250a5+d 250b4+3 2af97+1 2c432+3 2df91 31c98+1 76eb+1",
   "250b8+2 250bc+4 2af99 2c436+1 2df92 30946 31c9a+3 32c96+1 400a 250bb 250c1+5 2af9a 2c438+4 2df93+1 30947",
   "76ed 250c7+a 2c43d+1 400b 250d2 26ab9 2af9b 2c43f+1 2df95 30948 31c9e+1 400c 250d3+4 2af9c 2c441+1 30949",
   "250d8+1 250de 2df96 31ca0 32c98 250da+3 2af9d 31ca1+1 250df+1 2c443+1 32c99 250e1 3094a 400d 2af9e 250e2+1",
   "76ee 250e4+1 76ef 400e+1 250e6+b 2df97+2 3094b 31ca3+1 32c9a 76f0+5 4010+4 250f2+10 2af9f+1 2c445 2df9a+3",
   "3094c+4 31ca5 2ed45 76f6+17 4015+9 25103+2d 2a6df 2afa1+2 2c446+1 2df9e+7 30951+3 31ca6+5 2ed46 32c9b+3",
   "770e+1e 773f 401f+7 25131+28 2afa4+3 2b7b2 2c448+7 2dfa6+4 30955+7 31cac+4 32c9f+1 772d+11 7741 4027+7",
   "2032a 2515a+2f 2afa8+2 2b7b3 2c450+5 2dfab+7 3095d+4 31cb1+5 32ca1 7740 7742+f 9fc3 402f+11 2518a+3a",
   "251c6+2 251eb 2afab+1 2c456+1 2dfb3+5 30962+7 31cb7+5 32ca2+3 7752+e 7762+b 4041+8 22c3f 22fa5 23aad 251c5",
   "251c9+21 251ec+7 251f5+c 2afad+3 2c458+3 2dfb9+9 3096a+a 31cbd+5 2ed47+1 32ca6+4 7761 776e+18 404a+c",
   "25202+39 2afb1+3 2c45c+1 2dfc3+c 30975+2 31cc3+1 32cab 7787+c 4057+a 2523c+37 25287 2afb5+3 2c45e+5",
   "2dfd0+4 30978+5 31cc5+1 7794+f 4062+8 25274+12 25288+21 252d5+1 2afb9+2 2c464+3 2dfd5+7 3097e+3 31cc7+1",
   "32cac+2 77a4+13 406b+8 252aa+2a 252d7 2afbc+4 2c468+1 2dfdd+4 30982+1 31cc9 32caf+1 77b8+a 4074+6 252d8+26",
   "2dfe2+6 30984+2 31cca+5 32cb1+4 77c3+7 252ff+15 25316+3 2afc1 2c46a 2dfe9+4 30987+1 31cd0+5 77cb+4 407b+3",
   "2531a+12 2afc2 30989 31cd6+1 32cb6+3 77d0+3 407f+1 2532d+c 25342 2afc3+1 2c46b 2dfee+3 3098a 31cd8+1",
   "32cba+1 4081 2533a+7 25343 25345+2 2dff2 3098b 77d4 4082+1 25348+6 31cda 77d5 77d7 2534f+3 2dff3+1 32cbc",
   "77d8+1 4084 25353 2c46c 77d6 77da 25354+8 2afc5 32cbd 4085 3098c 77db 2dff5 2535d 2dff6 3098d 4086 2535e",
   "2c46d 77dc 4087 2535f+1 2afc6 3098e 77dd 25361+5 2dff7+1 3098f 31cdb 4088 25367+2 2dff9+1 30990 77de+1",
   "2536a+7 2afc7 31cdc 77e0 20362 25372+3 2c46e 30991 4089 25376+b 2c46f 25382+7 2dffb 2538a+3 2dffc 32cbe",
   "408a+2 2538f+3 2538e 25393+2 32cbf 25396+6 408d 2539e+2 2539d 253a1+2 408e 77e1 32cc0 253a4+1 77e2 30992",
   "77e3 253a6+1 2dffd 30993 77e4+1 253a8 77e6+2 253a9+6 2afc8+1 2dffe+1 30994+1 77e9 408f+1 253b0+8 2c470+1",
   "2e000 30996 77ea+1 4091+1 253b9+14 2afca 2e001+1 31cdd+1 32cc1 77ec+1 4093 20170 253ce+9 2c472+1 30997",
   "31cdf+1 77ee 4094 253d8+11 2afcb 2c474 2e003+1 30998+1 31ce1 32cc2 4095 253ea+7 2afcc 2e005 3099a 31ce2",
   "253f2+8 2afcd+1 2e006+2 3099b+2 31ce3 32cc3 253fb+4 2e009 3099e+4 77ef+1 25400+6 2c475 31ce4+2 32cc4",
   "25407+4 2c476 309a3 31ce7 77f1 2540c+3 2c477 77f2 2afcf 2e00a 32cc5 2afd0 2c478 25411+1 25410 25413+1",
   "32cc6+1 77f3 4096 25415+1 32cc8 77f4+2 4097 25417+5 2c479 32cc9+1 77f7+a 4098+1 2541d+b 2c47a+2 2e00b+1",
   "309a4 31ce8 2ed49 6cf5 7802+1a 409a+4 25429+1c 2afd1+2 2c47d+5 2e00d+1 309a5+7 31ce9+a 2ed4a+2 32ccb+7",
   "781d+24 9fec 409f+9 25446+2c 2afd4+4 2c483+5 2e00f+5 309ad+5 31cf4+4 32cd3+5 7842+19 9fce 40a9+6 25473+36",
   "2afd9+4 2c489+3 2e015+3 309b3+8 31cf9+7 2ed4d+5 32cd9+4 785c+1b 40b0+6 254aa+1f 2afde+5 2c48d+4 2e019+8",
   "309bc+9 31d01+a 32cde+6 7878+5 787f+1d 78b0 40b7+10 254ca+2f 2afe4+5 2c492+3 2e022+9 309c6+4 31d0c+b 2ed53",
   "32ce5+7 787e 789d+12 78b1+8 78c1 40c8+8 254fa+32 2afea+1 2c496+4 2e02c+9 309cb+5 31d18+b 2ed54+3 32ced+9",
   "78ba+6 78c2+17 78dc 78e4 40d1+6 2552d+1e 2afec+2 2c49b 2e036+4 309d1+7 31d24+8 32cf7+7 78da+1 78dd+6",
   "78e5+9 40d8+6 40e0 2554c+23 2afef+5 2c49c+2 2e03b+8 309d9+7 31d2d+3 32cff+3 78ef+16 40df 40e1+7 25570+26",
   "2aff5+2 2c49f+4 2e044+5 309e1+7 31d31+5 32d03+9 7906+10 40e9+6 2378f 25597+12 2aff8+2 2c4a4+1 2e04a+5",
   "31d37+1 32d0d+3 7917+a 40f0 255aa+10 2affb+2 2c4a6+1 2e050+3 309e9 31d39+5 32d11+4 7922+a 40f1+2 2154e",
   "255bb+16 2c4a8 2e054 309ea 31d3f+2 32d16+1 792d+7 40f4+3 255d2+a 2affe 2e055 31d42+1 32d18+3 7935 40f8+1",
   "255dd+d 2c4a9+1 309eb+1 7936+1 255eb+8 2afff 2e056+2 7938 40fa 255f4+1 255f7+1 2c4ab 2e059+1 32d1c+1 7939",
   "255f9 31d44 32d1e 40fb 255fa+3 2e05b 31d45 32d1f+1 255fe+2 32d21 25601+1 32d22 25603+1 793a+1 25605 793c",
   "25606 793d 40fc 25607+5 2e05c+1 793e+5 2560d+7 2b000+1 2c4ac 2e05e 309ed+3 7944+a 89c6 9fc6 40fd+3",
   "25615+15 2b002+1 2c4ad+3 2e05f+2 309f1+1 31d46 2ed58+1 32d23 794f+13 4101+2 2562b+22 2b004+2 2c4b1+2",
   "2e062+a 309f3+2 31d47 2ed5a 7963+2 7967+8 4104+2 2564e+1c 2b007+3 2b7b4 2c4b4+1 2e06d+a 309f6+9 31d48+4",
   "2ed5b+1 32d24+1 7966 7970+8 7984 8996 4107+3 230ab 2566b+1c 2b00b+4 2b7b5 2c4b6+7 2e078+6 30a00+3 31d4d+7",
   "32d26 7979+a 7985+1 410b+7 25688+1d 2b010+9 2c4be+a 2e07f+4 30a04+5 31d55+6 32d27+6 7987+12 4113+4 22fc6",
   "256a6+1e 2b01a+1 2c4c9+4 2e084+5 30a0a+3 31d5c+4 2ed5d+1 32d2e+3 799a+9 4118+1 2059f 256c5+12 2b01c+3",
   "2c4ce+2 2e08a+4 30a0e+2 31d61+5 32d32 79a4+2 411a+4 256d8+15 2b020+1 2c4d1+6 2e08f+7 30a11+1 31d67+1",
   "32d33+3 79a7+4 411f 256ee+14 2b7b6 2c4d8+2 2e097+4 30a13 31d69+2 32d37+1 79ac+3 9fc5 4120+1 25703+e 2b022",
   "2c4db 2e09c+1 30a14 31d6c+4 2ed5f 32d39+3 79b0+1 4122 25712+7 2b023 2c4dc 2e09e+1 31d71+2 32d3d+2 79b2",
   "4123 2571a+5 2e0a0+2 30a15+1 31d74+2 32d40 4124 25720+4 30a17 31d77 32d41 79b3+1 25725+4 2c4dd 2e0a3+4",
   "30a18 79b5 2572a+5 2e0a8 31d78 79b6+1 25730+3 2e0a9+2 25734+1 2b024 25736+2 27186 30a19 25739+1 4125 32d42",
   "79b8 2573b 79b9+1 2573c 31d79 79bb 2573d 79bc 2573e 2e0ac 30a1a 79bd 842c 2573f 25741+2 32d43 20398 20fa7",
   "25744+3 26994 2c4de 23722 25748+1 31d7a 2b025 2e0ad 31d7b 2574a 2c4df 2e0ae 32d44 2574b 79be 2574c+3 2b026",
   "79bf+4 4126+1 25750+3 2c4e0 2e0af 30a1b 79c4+6 4128+5 25754+e 2b027 2e0b0 30a1c 31d7c 79cb+c 412e+7",
   "25763+1a 2b028+1 2c4e1+3 2e0b1+8 30a1d+1 31d7d+1 2ed60 79d8+18 4136+3 2577e+19 2b02a+3 2c4e5+1 2e0ba+6",
   "30a1f+5 31d7f+2 79f1+d 7a06 413a+10 25798+19 257c5 2b02e+3 2b7b7 2c4e7+2 2e0c1+3 30a25+3 31d82+4 2ed61",
   "32d45+3 79ff+6 7a07+7 9fdf 414b+8 2079c 257b2+12 257c6+5 2b032+6 2c4ea+2 2e0c5+1 30a29+3 31d87+4 2ed62",
   "32d49+2 7a0f+16 4154+b 257cc+30 2b039+2 2b7b8 2c4ed+3 2e0c7+b 30a2d+2 31d8c+6 2ed63 32d4c+4 7a26+d 7a4a",
   "4160+b 257fd+33 2b03c+4 2c4f1+3 2e0d3+7 30a30 31d93+7 2ed64 7a34+f 416c+a 25831+2a 2b041+3 2c4f5+2 2c4f9",
   "2e0db+7 30a31+3 31d9b+3 7a44+4 7a4b+7 4177+6 2585c+2d 2b045 2c4fa+3 2e0e3+8 30a35+2 31d9f+1 32d51+1 7a49",
   "7a53+b 417e+2 2588a+29 2b046 2c4fe+2 2e0ec+5 30a38+3 31da1+4 32d53+2 7a5f+4 4181+6 258b4+15 258cb+9",
   "2b047+1 2c501 2e0f2 30a3c+1 31da6+2 32d56+1 7a64+7 258ca 258d5+c 258e3+4 2c502 2e0f3 31da9+2 32d58 7a6c+3",
   "4188+1 258e2 258e8+e 258f8+7 2b049 2c503 30a3e+1 31dac 32d59+1 9fe0 418a+3 25900+5 2c504 2e0f4+1 30a40+1",
   "32d5b+1 7a70 7a73 418e+1 25906+3 30a42 32d5d 7a71 2590a+8 30a43 31dad 7a72 25913 25915+1 2e0f6+1 25917+3",
   "31dae 2591b+2 31daf 2591e+1 4190 25920+1 7a74 25922 7a75+2 4191 25923+3 2b7b9 2c505 7a78+3 4192 25927+c",
   "2e0f8 31db0 32d5e 7a7c+7 4193+3 25934+12 2b04a 2c506+1 2e0f9 30a44 31db1+1 7a84+a 4197+2 25947+18 2b04b",
   "2c508 2e0fa+1 30a45+4 31db3+2 7a8f+6 419a+6 25960+15 2b04c+1 2c509+1 2e0fc 30a4a 31db6+6 7a96+7 41a1+4",
   "25976+24 2b04e+2 2c50b+1 2e0fd+3 30a4b+4 31dbd+5 32d5f 7a9e+9 41a6+3 2599b+1c 2b051+2 2c50d 2e101+6",
   "30a50+2 31dc3+7 32d60+1 7aa8+5 41aa+1 259b8+17 2b054+1 2e108+3 30a53+2 31dcb+3 7aae+6 41ac+2 259d0+11",
   "259e3+8 2b056 2c50e+1 2e10c+2 30a56+1 31dcf+3 32d62+1 7ab5+8 41af+5 259ec+f 259fd+e 2b057+3 2c510+3",
   "2e10f+6 30a58+1 31dd3+3 32d64 7abe+5 41b5+6 259fc 25a0c+13 25a29 2b05b 2e116+4 30a5a+1 7ac4+1 41bc+1",
   "25a20+8 2b05c 2c514 2e11b+2 30a5c+2 31dd7+1 7ac6 41be+1 25a2a+5 25a32 2e11e+3 31dd9 7ac7 41c0 25a30+1",
   "25a33+1 25a36+4 31dda+1 7ac8+1 25a35 25a3b+d 2c515 2e122 30a5f 31ddc+2 7aca 41c1 25a49 2b7ba 2e123 31ddf+1",
   "25a4a+1 2b05d 2e124+1 25a4c+1 25a4f+2 2e126 31de1 25a4e 25a52 31de2 25a53+1 7acb 41c2 2c516 7acc+1 25a55+1",
   "2b7bb 32d65 7ace+1 41c3+1 25a57+1 2b05e 2c517 2e127 7ad0+7 41c5+1 25a59 25a5b+4 2b05f 2c518+2 2e128",
   "30a60+1 31de3 2ed65 32d66 7ad8+6 41c7+3 25a5a 25a60+10 2b060+1 2c51b+1 2e129+3 30a62 31de4 2ed66 32d67+1",
   "7ae1 41cb 25a71+c 2b062 2b7bc 2c51d 2e12d+1 30a63+1 31de5+1 32d69+1 7ae2+5 41cc+1 25a7e+b 2b063+1 2c51e+2",
   "2e12f+1 31de7+1 2ed67 7ae8+3 41ce+3 25a8a+d 2b065+1 2c521+2 2e131+2 31de9+2 2ed68 32d6b+1 7aec+1 7aef+1",
   "25a98+c 2b067+1 2c524+2 2e134+2 30a65+3 31dec 32d6d+1 25aa5+7 2b069+2 2c527 2e137 7aee 7af1 41d2 25aad+1",
   "25ab0+1 2b06c 2c528+1 2e138+2 30a69+1 2ed69+1 32d6f 7af2+2 41d3 25aaf 25ab2+7 25abb 2b06d 2c52a 2e13b+1",
   "31ded 7af5 41d4 25abc+5 25ac3+1 32d70 41d5 25aba 25ac5+2 2b06e 2e13d 7af6+1 25ac8+5 2e13e 32d71 25ace+1",
   "2c52b 7af8 25ad0+1 2b06f 25ad3+1 30a6b 32d72 25ad2 25ad5+1 2e13f 7af9 25ad7+1 7afa+1 25ad9+3 2b070 2c52c",
   "31dee 2ed6b 7afc+7 41d6 25add+11 2b071 2c52d 30a6c+1 31def 7b05+10 41d7+6 25aef+1c 2b072+5 2c52e+4 2e140+3",
   "30a6e+3 31df0+4 2ed6c+1 32d73+1 7b16+28 41de+8 25b0c+1d 25b3f 2b078+3 2c533+6 2e144+2 30a72+5 31df5",
   "2ed6e+1 32d75+1 7b04 7b3f+1e 41e7+d 25b2a+14 25b40+f 2b07c+1 2c53a+7 2e147+9 30a78+2 31df6+7 2ed70 32d77+2",
   "7b5e+22 7bc0 41f5+b 25b50+37 25b89+3 2b07e+5 2c542+b 2e151+3 30a7b+3 31dfe+1 2ed71+2 32d7a+1 7b81+2a",
   "4201+c 25b88 25b8d+43 2b084+5 2c54e+b 2e155+b 30a7f+5 31e00+c 2ed74+2 32d7c+4 7bac+13 7bc1+7 7bca+9",
   "420e+1b 25bd1+46 2b08a+5 2b7bd+2 2c55a+7 2e161+d 30a85+9 31e0d+8 2ed77 32d81+4 7bc9 7bd4+1b 7c11 7c15",
   "422a+d 25c18+5c 2b090+7 2c562+6 2e16f+6 30a8f+4 31e16+5 32d86+4 7bf0+20 7c12+2 7c16+1 4238+f 25c75+4b",
   "25cc2+3 25d0e 2b098+7 2c569+3 2e176+10 30a94+2 31e1c+8 32d8b+b 7c18+1a 4248+6 4250+a 4263 25cc1 25cc6+47",
   "25d0f+11 2b0a0+4 2c56d+5 2e187+c 30a97+2 31e25+3 2ed78 32d97+5 7c33+f 424f 425b+7 4264 25d21+3a 2b0a5+1",
   "2c573+7 2e194+a 30a9a+1 31e29+1 32d9d+5 7c43+c 7c55+1 4265 25d5c+28 2b0a7 2e19f+8 30a9c+1 31e2b+3 32da3+1",
   "7c50+4 4266+7 25d85+2f 2b0a8+3 2c57b+4 2e1a8+d 30a9e+4 31e2f 32da5+1 7c57+a 426e+3 25db5+1e 2b0ac 2c580+5",
   "2e1b6+7 31e30 32da7+5 7c62+6 4272+2 25dd4+13 2b0ad 2c586 30aa3 32dad+2 7c6a 4276 25de8+13 2b0ae 2c587",
   "31e31 2ed79 7c69 7c6b+3 25dfc+b 2b0af 2e1be+1 31e32 32db0 7c6f+1 4277 25e08+7 2e1c0 30aa4 32db1 4278",
   "25e10+6 2c588+2 2e1c1 30aa5 25e17 25e1a+3 2b0b0 32db2 25e18+1 25e1e+2 2e1c2 7c71 4279 25e21+1 32db3 25e23",
   "7c72 25e24 32db4 7c73 25e25+1 2c58b 7c74+2 25e27+3 2b0b1+1 2c58c+2 2e1c3+1 30aa6 31e33 32db5 5a04 7c77+b",
   "427a 25e2b+7 2b0b3+1 2c58f 2e1c5 30aa7+3 31e34 32db6+3 7c83+e 427b+1 25e33+d 2b0b5+2 2c590+2 2e1c6+4",
   "30aab+5 31e35+1 32dba+5 7568 7c92+b 7ca3 427d+3 25e41+15 25e58+1 25e71 2b0b8+4 2c593+5 2e1cb+7 30ab1+4",
   "31e37+3 32dc0+2 7c9e+4 7ca4+9 4281+5 25e57 25e5a+16 2b0bd+3 2c599+3 2e1d3+a 30ab6+6 31e3b+8 32dc3+2 7cae+7",
   "7cc0 4287+5 25e72+25 2b0c1 2c59d+3 2e1de+6 30abd 31e44+5 32dc6+3 7cb6+9 7cc1 428d+5 25e98+28 2b0c2+3",
   "2c5a1+4 2e1e5+6 30abe+3 31e4a+2 2ed7a+1 32dca+2 7cc2+c 4293+6 2188f 25ec1+22 2b0c6+2 2c5a6+4 2e1ec+6",
   "30ac2+3 31e4d+6 32dcd+3 7ccf+9 9fef 429a+1 4a00 2242b 25ee4+1a 2b0c9+3 2c5ab+7 2e1f3+6 30ac6+4 31e54+5",
   "32dd1+5 7cd9+9 7ce8 429c+6 25eff+17 2b0cd+1 2b7c0 2c5b3+2 2e1fa 30acb+5 31e5a+3 2ed7c+1 32dd7 7ce3+4",
   "42a3+6 25f17+1e 2b0cf+2 2c5b6+4 2e1fb+1 30ad1+2 31e5e+3 32dd8+1 7ce9+4 42aa+2 25f36+18 2b0d2+3 2c5bb",
   "2e1fd+1 31e62+2 32dda+5 7cee+2 42ad+1 25f4f+7 2b0d6 2c5bc+2 30ad4+1 31e65+2 32de0 7cf2 42af 25f57+9",
   "25f62+1 2c5bf 2e1ff 31e68 32de1+2 7cf1 7cf3+1 42b0 25f61 25f64+7 2b0d7+2 2c5c0+1 30ad6 32de4 7cf5 42b1+1",
   "25f6c+4 32de5+1 25f71+4 2c5c2 32de7 7cf6 42b3+1 25f76+4 2e200 25f7b+4 31e69 7cf7 25f80+1 32de8 25f82+2",
   "7cf8+1 7e9f 7cfa+1 31e6a 2b119 7cfc+3 42b5 25f85+6 2b0da+1 30ad7 31e6b 7ea0 2e260 30afc 31e8f+2 7d00+9",
   "42b6+3 25f8c+c 2b0dc+1 2c5c3+1 2e201+1 30ad8+1 32de9+1 7ea1+a 7eb6 4336 2c613 31e92 2ed7f 7d0a+1d 42ba+d",
   "25f99+29 2b0de 2c5c5+1 2e203+2 30ada+3 31e6c+1 32deb 7eac+9 7eb7+7 4338 2b11a+3 2c614+4 30afd+4 31e93",
   "32e2f+1 7d28+24 42c8+c 25fc3+22 2b0df+2 2c5c7+3 2e206+4 30ade+3 31e6e+1 32dec+1 7ebf+11 4337 4339 26208",
   "2b11e+1 2c619+5 2e261+2 30b02+9 31e94+5 2ed80+1 7d4d+d 7d5c+1b 42d5+9 25fe6+2b 2b0e2+2 2c5cb+9 2e20b+5",
   "30ae2+2 31e70+3 32dee+8 7ed1+e 433a+1 26209 2b120+3 2b7c3 2c61f+8 2e264+2 30b0c+9 31e9a+1 7d5b 7d78+23",
   "42df+7 26012+33 2b0e5+4 2c5d5+9 2e211+4 30ae5+3 31e74+1 32df7+6 7ee0+8 433c 2620a+2 2b124+5 2b7c4 2c628+3",
   "2e267+2 30b16+8 31e9c+6 2ed82 7d9c+36 7dd4+1 42e7+b 26046+39 2b0ea+8 2c5df+8 2e216+c 30ae9+4 31e76+3",
   "32dfe+6 7ee9+18 433d 2620d+3 2b12a+1 2b7c5 2c62c+3 2e26a+2 30b1f+b 31ea3+2 32e31 7dd3 7dd6+31 42f3+11",
   "26080+26 260a8+19 2b0f3+4 2b7c1 2c5e8+6 2e223+d 30aee+1 31e7a+2 32e05+1 7f02+16 433e+1 26211+4 2b12c+2",
   "2b7c6 2c630+8 2e26d 30b2b+5 31ea6+3 7e08+20 4305+6 260a7 260c2+3f 26103+5 2b0f8+4 2c5ef+3 2e231+7 30af0",
   "31e7d+1 2ed7e 32e07+6 7f19+b 4340 26216+3 2b12f+1 2c639+4 30b31+3 2ed83+3 7e29+1e 7e49+1 7e4c+1 430c+9",
   "26102 26109+32 2b0fd+3 2c5f3+7 2e239+a 30af1+1 31e7f+6 32e0e+5 7f25+6 2621a 2b131+3 2c63e+4 2e26e+1",
   "30b35+1 31eaa+1 7e48 7e4e+17 7e67 7e71 4316+5 2613c+38 2b101+3 2b7c2 2c5fb+6 2e244+5 30af3+1 31e86+2",
   "32e14+5 7f2c+3 2621b+2 2b135+1 2c643+5 30b37+4 31eac 7e4b 7e66 7e68+8 7e72+8 431c+6 26175+26 261a5 2b105+6",
   "2c602 2e24a+5 31e89+1 32e1a+6 7f30+4 4341 2621e+1 2b137 2c649 30b3c+2 31ead 7e7b+8 4323+4 2619c+7 261a6+1",
   "261a9+1 261ac+e 2b10c+2 2c603+5 2e250+2 31e8b+1 32e21+2 26220+1 2b138 2b7c7 30b3f 31eae 7e84+c 4328+1",
   "261a4 261a8 261ab 261bb+6 261c3+10 2b10f+2 2c609+3 2e253+3 30af5+2 31e8d 32e24+4 2c64a 30b40+1 31eaf",
   "7e91+1 432a+3 261c2 261d4+12 2b112+2 2c60d+2 2e257+2 30af8+1 31e8e 32e29 7f35 7e93+3 432e 261e7+8 2b115",
   "2c610+1 2e25a 30afa 32e2a+1 2c64b 7e97 432f+3 261f0+7 261f9 2c612 2e25b+1 2b139 7e98+3 4333+1 261f8",
   "261fa+1 2b116 2e25d+1 32e2c+1 261fc+1 2b117 32e2e 7e9c+1 4335 261fe+4 2b118 2e25f 26203+1 30afb 31eb0 7e9e",
   "26205+2 7f36 26222 7f37 30b42+1 7f38 4342 26223+2 2e270 7f39+1 7f3c 4343 26226+2 2c64c+1 2e271 31eb1 32e32",
   "7f3b 7f3d 4344+5 26229+5 2c64e 2e272 32e33+1 7f3e+2 434a 2622f+4 2c64f 26234+3 2b13a 2e273+1 7f41+1 434b+1",
   "26238+8 2b13b 2c650 2e275 30b44 31eb2 32e35+1 26241+6 2b13c+1 2c651+1 2e276 7f43 434d 26248+6 2b13e 2c653",
   "2e277 31eb3 32e37 7f44+2 2624f+5 2e278 30b45 32e38+1 7f47+2 26255+3 2e279+2 30b46 32e3a+1 7f4a+1 24541",
   "26259+3 2b13f 2c654 32e3c 7f4c 2625d+1 7f4d 2625f+1 30b47 7f4e+1 26261 434e 26262+2 7f50 24ae1 26265+4",
   "7f51+2 434f 2626a+1 2626d 26270 2626f 2e27c 2626c 2626e 26271+5 2c655 7f54+3 4350+1 26277+9 2b140 2c656+2",
   "2e27d 31eb4+2 2ed87 7f58+2 4352+2 26281+c 2b141 2c659 2e27e+2 30b48 31eb7+4 32e3d 7f5b+7 4355+2 2628e+15",
   "262a5+4 262b3 2b142 2c65a+2 2e281+3 30b49 7f63 4358 262aa+8 262b4+7 2b143+2 2c65d 2e285 30b4a+2 31ebc+2",
   "32e3e 7f64+2 4359+1 262bc+8 262d1 2c65e+1 2e286 30b4d+1 31ebf+2 7f67+7 7f72 435b+3 262c5+b 262d2+a 2b146+1",
   "2c660+3 2e287+2 30b4f+2 31ec2+4 32e3f 7f6f+2 7f73+1 435f 262dd+c 262eb+3 2b148 2e28a+2 32e40 7f75+3",
   "262ef+d 2b149 2c664+2 2e28d+6 30b52+2 31ec7 7f79+3 4360+1 262fd+14 2b14a 2e294+5 30b55 7f7d+4 4362 26312+c",
   "27dc5 2c667+1 2e29a+1 32e41 7f82 4363 2631f+9 27430 2b14b 2c669 2e29c 32e42 7f83+3 4364 2632a+a 2b14c",
   "2e29d+1 31ec8 26335+5 4365 2633b+1 2b14d 2c66a 2e29f 32e43 7f87 2633d 2c66b 2e2a0 7f88+1 4366 2633e+7",
   "30b56 2e2a1 26346+4 9fe1 7f8a 2634b+2 7f8b+1 2634e+2 2b14e 30b57 31ec9+1 7f8d+4 26351+5 2b7c8 2c66c",
   "2e2a2+2 7f92+2 7f96+3 4367+2 26357+d 2636e 2c66d+2 30b58 31ecb 7f95 7f9a+5 436a+3 26365+8 2636f+9 2b14f+3",
   "2c670 2e2a5+1 7fa0+2 436e+2 26379+b 2b153+1 2c671+2 2e2a7+1 30b59 32e44 7fa3+7 4371 26386+10 2b155 2c674",
   "2e2a9 31ecc+2 32e45+1 7fab 4372+4 26397+a 2c675+1 2e2aa+3 31ecf+1 32e47+4 7fac+4 4377 263a2+c 2b156+2",
   "2c677+1 2e2ae+1 30b5a 32e4c 7fb1+1 4378+1 263af+7 2b159 2c679+2 2e2b0+2 30b5b+1 31ed1 32e4d+1 437a 263b7+d",
   "2b15a+2 2c67c+1 32e4f 7fb3+2 437b+1 26329 263c5+f 2b15d+1 2c67e 2e2b3 31ed2+1 7fb6+3 263d5+6 2c67f 2e2b4",
   "7fba 263dc+5 2b15f 7fbb+1 21156 263e2+5 2c680 2e2b5+1 437d 263e8+1 2b160+1 2c681 2e2b7 31ed4 263ea+1 31ed5",
   "263ec 31ed6 32e50 263ed+1 2c682 2331e 263ef+2 7fbd 263f3 30b5d 263f2 2ed88 32e51 7fbe+1 263f4+d 2b162",
   "32e52+1 7fc0+6 437e+1 26402+12 2b163 2e2b8+3 30b5e+2 32e54 7fc7+b 4380+6 26415+d 2b164 2e2bc 30b61 31ed7+1",
   "2ed89+1 7fd3+7 4387+3 26423+14 2b165+2 2e2bd+5 30b62 31ed9 2ed8b+2 32e55 7fdb+2 438b+3 26438+c 26446",
   "2b168+1 2c683 2e2c3+1 30b63 31eda 32e56 7fde+6 438f+4 26445 26447+9 26452+5 2b16a 2c684 2e2c5+3 30b64",
   "31edb+1 32e57 7fe5+8 26458+17 2647b 2b16b+1 2e2c9+3 31edd+3 32e58+3 7fee+3 4394+1 26470+a 2647c+6 2649e",
   "2b16d+1 2c685+1 2e2cd+4 30b65 31ee1+1 7ff2+4 7ffc 26483+9 2b16f 2c687+1 2e2d2+1 31ee3 32e5c 7ff7+4 4396+2",
   "2648d+e 2649f 2b170+1 31ee4 2ed8e 32e5d 7ffd+1 2649c+1 264a0+1 2e2d4+1 32e5e+1 7fff+1 4399 264a2+3 264aa+1",
   "2e2d6+1 439a 264a6 264a8+1 264ac 2e2d8+1 264a7 264ad+2 2b172 31ee5 32e60 30b66 31ee6 264b0 2e2da 8001+2",
   "30b67 264b1+1 2c689+1 31ee7+1 439b 264b3+2 30b68+1 8004+2 264b6+3 31ee9+1 8007+2 264ba+5 2b173+1 2c68b",
   "2e2db 30b6a 800a+1 439c+2 264c0 2e2dc 31eeb 2e2dd 264c1 2b175 2c68c 2e2de 31eec 32e61 264c2 2b176 30b6b",
   "31eed+1 264c4+1 2b177 264c6+1 264c3 264c8+1 2c68d 264ca 2b178 2c68e 31eef 264cb+2 800c 264d0 264ce+1 264d1",
   "31ef0 32e62 800d+4 439f+1 30b6c 43a1 264d2+1 31ef1 32e63 264d4+3 2e2df 30b6d+1 264d8+4 2c68f 264dd+1",
   "2e2e0+1 264df+2 30b6f 264e2 2e2e2 264e3 8012 264e4 8013 264e5+2 2e2e3 8014 43a2 264e8+2 31ef2 8015+4 264eb",
   "2e2e4 30b70+1 32e64 801a+5 43a3 264ec+2 2b179 2e2e5+2 8020 264ef+4 2b17a+1 2c690 2e2e8+1 8021+1 43a4+1",
   "264f4+2 2b17c 2e2ea 31ef3 32e65 8023+2 43a6+4 264f7+a 31ef4 32e66 8026+1 43ab+1 26502+8 2b17d 32e67 8028+2",
   "2650b+7 2b17e 802b+1 43ad+2 26513+7 31ef5 802d+1 43b0 2651b+3 26520+4 2b17f 2e2eb 31ef6 2651f 26525+3",
   "2c691 30b72 802f+1 43b1 26529+1 8031+1 2652b+2 8033+1 43b2 2652e 32e68 8035 2652f+7 2b180 2b7c9 8036+1",
   "26537+4 2c692+1 2e2ec+1 30b73 31ef7 32e69 8038+a 43b3+1 2653c+13 2b181 2e2ee 30b74+3 31ef8 2ed8f 8043+a",
   "43b5+1 26550+f 2c694+2 2e2ef 30b78+2 2ed90+1 32e6a+1 804e+6 8060 43b7 26560+2 26564+10 2b182+1 2b73d",
   "2c697+2 31ef9+1 2ed92+1 32e6c 8055+3 43b8+1 26563 26575+12 26597 2b184+2 2c69a+3 2e2f0+2 32e6d+1 8059+6",
   "8061+2 9fe2 43ba+4 26588+e 26598+9 2b187+1 2c69e+2 2e2f3+2 31efb+1 32e6f+3 8064+7 9fe3 43bf+1 259e2",
   "265a2+19 265c7 2b189 2c6a1+1 2e2f6+2 31efd+1 32e73+1 806c+1 43c1+2 265bc+a 265c8+7 2b18a+3 2c6a3+2 2e2f9",
   "32e75 806f+4 43c4+3 265d0+e 2b18e+1 2e2fa 32e76+3 806e 8074+3 9fe4 43c8 265df+13 2b190+1 2c6a6+1 2e2fb",
   "30b7b 32e7a+1 8078 265f3+a 2b192 32e7c+2 8079+3 43c9 265fe+6 2c6a8 2e2fc+1 32e7f 26605+4 2e2fe+1 32e80+2",
   "807d+1 43ca 2660a+2 32e83 2660d+2 2e300 26610+1 2b193 2c6a9 807f+1 26612 2e301 30b7c 26613 2c6aa 2e302",
   "26614 2e303 8081+2 26615+2 30b7d 26618+2 32e84 8084+2 43cb 2661b+1 2b194 2c6ab 2e304 31eff 8087+1 2661d+2",
   "2b195 26620+2 2c6ac 2e305+1 26623 2c6ad+1 26624+4 8089 2e307 31f00 808a 30b7e 808b+4 43cc+1 26629+a",
   "30b7f+3 31f01 8090+10 43ce+1 26634+a 2b73e 2c6af 2e308+2 30b83+3 31f02 32e85+1 80a1+20 43d0+d 2663f+17",
   "26658+11 2b196+2 2c6b0+3 2e30b 30b87+a 31f03 2ed94+1 32e87+2 6711 80c2+2a 8109 43de+7 212dc 23368 2666a+32",
   "2b199+3 2c6b4+2 2e30c+3 30b92+a 31f04 32e8a+2 80ed+1b 810a+a 43e6+8 2336f+1 2669d+1b 266ba+19 2b19d+1",
   "2c6b7+3 2e310+3 30b9d+7 31f05+3 2ecab 32e8d+7 8115+23 43ef+c 266d4+31 2b19f+2 2c6bb+6 2e314+5 30ba5+5",
   "31f09+3 32e95+2 8139+21 3b39 43fc+10 26706+2c 26734+25 2b1a2+3 2c6c2+5 2e31a+6 30bab+9 32e98+6 5e50 6721",
   "815b+23 440d+e 2675a+3e 267d3+1 2b1a6+2 2c6c8+3 2e321+4 30bb5+b 31f0d+5 32e9f+5 817f+12 441c+e 26799+39",
   "267d5+2 2b1a9+5 2b7ca 2c6cc+2 2e326+a 30bc1+a 31f13 32ea5+7 8192+11 442b+9 267d8+2a 2b1af+5 2c6cf+4",
   "2e331+8 30bcc+7 31f14+5 32ead+5 6725 81a5+11 4435+8 26803+3a 26844 2686e 2b1b5+3 2b736 2c6d4+4 2e33a+5",
   "30bd4+9 31f1a+2 32eb3+6 81b7+15 443e+3 2683e+5 26845+8 2684f+6 26858+15 2686f 2b1b9+2 2c6d9+2 2e340+1",
   "30bde+2 31f1d+2 32eba+1 81cd+6 4442+3 24443 2684e 26870+19 2b1bc+1 2c6dc+1 2e342+4 30be1+2 31f20+1 32ebc",
   "81d4+1 81d7+1 4446+2 2688a+1a 2b1be+1 2e347+2 30be4+3 31f22+1 32ebd 81d6 81d9+3 4449+1 268a5+12 2b1c0",
   "2c6de 2e34a 30be8+2 31f24 81dd 352e 444b+3 268b8+6 2b1c1 2c6df 31f25 81de+1 444f 268bf+6 2b1c2 30beb",
   "32ebe+3 81e0+2 244cf 268c6+a 2c6e0 32ec2+1 268d1+4 2c6e1 2e34b 31f26 268d6+1 268d9 30bec 268d8 268da+2",
   "30bed 2b1c4 81e3 268de 2e34c 268dd 31f27 81e4+1 2e34d 268df 30bee 268e0+3 2b1c5 2c6e2+1 30bef 4450 268e4+1",
   "2c6e4 2e34e+1 30bf0 81e6 268e6+3 2b1c6 2c6e5 30bf1 2b1c7 2c6e6 81e7 268eb+1 268ee 2b1c8 2e350+2 30bf2+1",
   "268ed 268ef 2c6e7+1 32ec4 268ea 2e353 81e8+1 268f0+1 2c6e9 32ec5 4451 268f2+1 2b1c9 268f4+1 2c6ea 268f6",
   "2c6eb 268f7+1 81ea 268f9 81eb 268fa+6 30bf4 32ec6 81ec+1 26901+a 2e354+1 2ed96 2690c+3 2c6ec 2e356+2 30bf5",
   "81ee+2 26910+3 2b1ca 2e359 30bf6 26914 2e35a+1 32ec7 26915+2 2c6ed 2e35c 31f28 81f1 26918+5 2b1cb 81f2",
   "2691e+6 2c6ee 26925 2b1cc 26926+4 2c6ef 30bf7 2692b+3 2c6f0 2e35d+1 2692f+2 2e35f 2b1cd 26932 81f3 26933+1",
   "31f29 26935 2c6f1 81f4 4452 26936+4 2c6f2 2e360+1 2693b+3 31f2a 81f5+3 2693f+1 2c6f3 2e362 31f2b 81f9 4453",
   "26941 2b1ce 31f2c 81fa 26942+2 2b1cf+1 2e363 32ec8 26945+2 81fb 26949+4 2c6f4+1 2694e+2 32ec9+1 2b1d1",
   "2c6f6 2e364 2c6f7 81fc 26951+3 81fd+1 26955+1 26959 2e365 81ff 26957+1 2695a+2 2c6f8+1 31f2d 32ecb 8200+1",
   "4454 2695d+7 26967 2e366+1 8202 4455 26965+1 26968+4 8203+1 2696d+5 2b7cb 2e368+4 31f2e+1 32ecc 8205",
   "26973+7 2c6fa 2e36d+1 8207 4456 2697b+9 2e36f 30bf8+1 31f30 8208 4457 26985+9 2c6fb 2e370+1 30bfa 8206",
   "8209 4458 2698f+4 26995+2 2c6fc 26998+8 2c6fd 820a 269a1+6 2b1d2 2c6fe 30bfb 32ecd 820b 2092b 269a9+3",
   "269af 2c6ff+1 32ece 269ad+1 269b0+9 30bfc 32ecf 269ba+1 2c701 31f31 244df 269bc 2c702 269bd+2 2e372 269c0",
   "2b1d3 2c703 269c1+1 2e373 2c704 269c3 31f32 269c4+1 2053b 820c 269c6 820d+2 2b1d4 269c7 2e374+1 8210",
   "4459+1 269c8+8 32ed0+1 8211 445b 269d1+3 2c705+1 2e376+1 30bfd+2 32ed2 8212 269d5+7 30c00 269dd+1 2b1d5+1",
   "2c707 2e378 30c01+4 31f33 32ed3 8213+2 269df+7 2c708 2e379 30c06 32ed4+1 8216+1 445c 269e7+5 2c709+3",
   "2e37a+4 30c07 32ed6 8218 269ed+3 2b1d7 2e37f 269f1+2 2c70d 30c08 32ed7 8219 269f4+2 2c70e 30c09 821a 269f7",
   "2b1d8 2c70f+1 32ed8 269f8+1 31f34 269fa 2b1d9 269fb+1 2e380 269fd 821b 2e381 32ed9 30c0a 821c+2 445d",
   "269fe+1 445e 26a00+1 445f 26a03 26a02 31f35 26a04+1 2e382 26a06 821f 200a8 26a07 8220 4460 26a08+5 2c711",
   "8221+3 4461+2 26a0e+6 2b1da 2c712 31f36 2ed97 8225+c 4464+1 26a15+b 2e383+1 30c0b 31f37+1 2ed98 32eda",
   "8232+9 4466+3 26a21+d 2e385+5 30c0c 32edb+2 823c+3 446a+4 26a2f+3 26a34+8 2c713 2e38b+1 31f39+1 32ede",
   "8240+9 446f+1 26a33 26a3d+c 2c714 2e38d+4 30c0d 824a+3 4471+7 26a4a+12 2899e 2b1db 2c715+1 2e392+1 30c0e",
   "31f3b 32edf+1 824e+6 4479+2 26a5d+16 26a7f 2b1dc+1 2c717 30c0f+2 32ee1+2 8255+4 447c+2 26a74+a 26a80+5",
   "2c718+2 30c12 31f3c+2 2ed99 825a+3 447f+6 26a86+a 2b1de 2c71b 2e394 31f3f+2 32ee4+3 825e+2 4486+2 26a91+16",
   "2b1df 30c13 31f42 2ed9a 32ee8+1 8261+4 26aa8+8 31f43 8266+3 4489 26ab1+4 2b1e0 31f44 826a 26ab6+2 26aba+2",
   "2c71c 2e395 826b 26abd+5 2b1e1+2 2e396+1 826c 26ac3+1 31f45 826d 31f46 32eea 26ac5+2 26ac9 26ac8 26aca",
   "826e+2 26acb 30c14 31f47+1 26acc+3 2e398+1 26ad0 8271 26ad1 2e39a 26ad2 9fe5 8272 2e39b+1 30c15 448a 26ad3",
   "8273+1 448b 26ad4+5 30c16+1 32eeb 26ada 2c71d 31f49 26adb+2 30c18 8275 26ade+5 2c71e 30c19 26ae4+5 2e39d",
   "448c+1 26aea+4 2b1e4 30c1a 32eec+1 448e+1 30c1b 32eee 8276 26aef+2 2e39e 4490 8277 26af2 2c71f 31f4a",
   "8278+1 4491 827a 9fb7 26af3+2 827b+7 4492+2 26af6+a 2b1e5+1 2c720 30c1c+3 2ed9b 8283+14 4495+4 26b01+11",
   "2b1e7+1 2c721+1 30c20+2 31f4b 2ed9c+2 32eef+1 8298+26 82c0+f 833e 449a+b 26b13+23 2b1e9+4 2c723+2 2e39f+4",
   "30c23+7 31f4c+4 32ef1+2 82bf 82d0+41 8313+2 44a6+9 26b37+35 2b1ee+7 2b7cc+1 2c726+1 2e3a4+2 30c2b+6",
   "31f51+9 2ed9f+2 32ef4 8312 8316+6 831e+4 8324+19 833f+13 8354+16 836c+3 9fd2 44b0+11 26b6d+48 2b1f6+8",
   "2b7ce 2c728+6 2e3a7+11 30c32+b 31f5b+c 32ef5+a 831d 8323 836b 8370+3c 83ae+f 9fca 44c2+12 44d6 26bb6+3a",
   "26bf2+23 26c17+12 2b1ff+10 2b7cf+2 2c72f+b 2e3b9+16 30c3e+10 31f68+4 2eda2+3 32f00+6 8353 83be+6a 8457",
   "9fbf 44d5 44d7+16 26bf1 26c16 26c2a+96 2b210+10 2c73b+10 2e3d0+12 30c4f+d 31f6d+5 2eda6+2 32f07+e 83ad",
   "8429+2 842d+29 8458+37 9fd3 44ee+2 44f2+9 26cc1+74 26d37+f 26d48+18 2b221+14 2b7d2+1 2c74c+d 2e3e3+1f",
   "30c5d+d 31f73+c 2eda9+2 32f16+6 8490+27 84b9+2d 44f1 44fc+11 24380 26d47 26d61+9d 2b236+11 2b7d4 2c75a+19",
   "2e403+1d 30c6b+6 31f80+d 2edac+1 32f1d+9 84e7+55 450e+e 451e+e 4544 26dff+3d 26e3e+46 2b248+14 2b7d5",
   "2c774+19 2e421+17 30c72+3 31f8e+c 2edae+5 32f27+9 853d+38 451d 452d+e 453d+4 4543 4545 26e3d 26e86+40",
   "26ec8+35 26eff+28 26f6d 2b25d+7 2b7d6 2c78e+b 2e439+20 30c76+6 31f9b+8 2edb4+1 32f31+11 8576+32 85aa+2",
   "85ae 9fa9 4542 4546+b 26efe 26f28+44 26f6e+3b 26fe1 26ff8 2b265+f 2c79a+12 2e45a+21 30c7d+a 31fa4+7 2edb6",
   "32f43+d fa1f 85a9 85ad 85af+24 8624 453c 4552+b 26faa+29 26fd6+6 26fde+2 26fe2+15 26ff9+26 2b275+f",
   "2c7ad+11 2c7c3 2e47c+1a 30c88+1 31fac+6 2edb7 32f51+e 85d4+19 85ef+6 455e+1 4561+4 26fd4+1 26fdd 27020+5a",
   "270cc 2b285+6 2c7bf+3 2c7c4+9 2e497+11 30c8a+6 31fb3+6 2edb8+1 32f60+7 85ee 85f6+1b 8613+1 8622 4560",
   "4566+c 2707b+50 270ce 2b28c+3 2c7ce+7 2e4a9+e 30c91+2 31fba+2 32f68+5 8612 8615+c 8623 8625+b 4573+4 270cd",
   "270cf+3d 2b290+3 2c7d6+5 2e4b8+b 30c94+1 31fbd+4 32f6e+9 8632+5 9fc0 9fe6 4578+2 2710d+28 2b294+2 2c7dc+3",
   "2e4c4+9 30c96 31fc2+4 32f78+1 8631 8638+9 457b+1 27136+1f 2b297 2c7e0+4 2e4ce+4 31fc7+1 32f7a+2 8642+3",
   "457d+1 27156+17 2b298+2 2c7e5 2e4d3 8646+3 4580 2716e+6 27176+3 2c7e6 2e4d4+1 31fc9+1 32f7d+2 457f 4581",
   "2717a+b 2b29b+1 2e4d6 30c97 31fcb+1 864a 4582+2 27187+7 4585+1 27175 2718f+3 31fcd 864b+1 27194+1 26e85",
   "27196 2719a 27197 32f80 4587 27199 27193 27198 864d 2e4d7 864e+1 4588 2719b 2e4d8+2 32f81 8650 4589",
   "2719c+2 2b29d+1 2c7e7 2e4db+1 8651 8653+1 458a+3 2719f+3 2b29f 2c7e8+1 2e4dd+3 30c98+2 31fce 5f6a 8655+5",
   "458e+1 271a3+d 2e4e1 30c9b+2 2edba 32f82 865b+2 4590+1 271b1+8 2b2a0+1 2c7ea 2e4e2+2 30c9e+1 31fcf+1",
   "865e+1 4592+4 271ba+6 2c7eb+2 2e4e5+1 30ca0+3 8660+1 271c1+d 2b2a2 30ca4+2 8662+1 4597 271cf+c 2e4e7+1",
   "30ca7 31fd1+2 32f83+1 8664+2 4598 271dc+14 2c7ee+2 2e4e9+1 31fd4 8667+1 4599 271f1+9 2b2a3 2e4eb+1 32f85+1",
   "8669 459a+1 271fb+6 27203+1 2c7f1 2e4ed 31fd5 32f87 459c 27202 27205+5 2c7f2 2e4ee 2720b+4 2e4ef 32f88",
   "27211+6 30ca8 31fd6 27218+3 2c7f3 31fd7 866a 2721c 32f89 866b 2e4f0 866c 459d 2721d+1 2e4f1 866d+5 2721f+8",
   "2b2a4 2e4f2 30ca9 31fd8 32f8a 8673+10 459e+2 21be5 27228+12 2b2a5+1 2c7f4+1 2e4f3+4 30caa 31fd9 2edbb",
   "32f8b+2 8684+3 8689+21 86ac 45a1+2 2723b+22 2b2a7+4 2c7f6+5 2e4f8+4 30cab+7 31fda+2 32f8e+2 86ab 86ad+22",
   "45a4+8 2725e+30 2b2ac+6 2c7fc+5 2e4fd+3 30cb3+4 31fdd+1 2edbc+1 32f91+3 fa21 8688 86d0+5 86d7+1d 45ad+8",
   "2728f+1b 272ac+1 272af+18 2b2b3+9 2c802+5 2e501+7 30cb8+1 31fdf+2 32f95+b 86d6 86f5+22 872b 8746 45b6+8",
   "272ab 272ae 272c8+15 272df+23 2731e 2b2bd+4 2c808+5 2e509+d 30cba+4 31fe2+5 2edbe 32fa1+9 8718+12 872c+19",
   "8747+4 45bf+b 45d5 272de 27303+1a 2731f+10 27331+1e 27351 2b2c2+7 2c80e+c 2e517+6 30cbf+a 31fe8+6 32fab+10",
   "874c+2c 877a+6 87e1 45cb+9 45d6 27330 27352+4e 273c7 2b2ca+4 2c81b+3 2e51e+9 30cca+3 31fef+c 32fbc+9 8779",
   "8781+28 45d7+7 27350 273a1+25 273c8+2f 2b2cf+6 2c81f+5 2e528+a 30cce+7 31ffc+4 32fc6+d 87aa+28 45df+f",
   "222dc 273f8+37 27431+12 2b2d6+3 2c825+3 2e533+7 30cd6+4 32001+6 32fd4+13 87d3+d 87e2+13 8801 880e 45ef+4",
   "27444+49 2b2da+4 2c829+5 2e53b+6 30cdb+1 32008+3 32fe8+10 87f6+a 8802+b 880f 45f4+7 2748e+3a 2b2df+3",
   "2c82f+2 2e542+5 30cdd+3 3200c 32ff9+8 8810+9 45fc+5 274c9+27 2b2e3+2 2b7d7 2c832+5 2e548+3 30ce1+2 3200d+1",
   "33002+3 881a+a 8834 4602+2 274f1+2b 2b2e6+1 2c838 2e54c+5 30ce4 3200f+1 33006+4 8825+7 4605+4 2751d+25",
   "2b2e8 2c839 2e552 30ce5 32011 3300b+3 882d+6 460a+2 27543+f 27554+6 2e553+3 32012 3300f 8835+5 27553",
   "2755b+13 2c83a 2e557 30ce6 32013+1 33010 883b 460d 2756f+d 2c83b 2e558+1 32015 33011+1 883c 2757d+6 2758a",
   "2e55a 32016 33013 883d+1 27584+5 2758b+5 883f 460e 27591+6 2e55b 20474 27598+3 2b2e9 2759c+3 275a1+5 8840",
   "2e55c 275a7+2 2e55d 8841+1 460f 275aa 8843+1 4610 275ab+4 2b2ea 33014+1 8845 4611 275b0+2 2b2eb 2e55e+1",
   "30ce7 32017 8846+3 275b3+1 2c83c 2e560 30ce8 4612 275b5+4 32018 4613 275ba+5 275c4 4614 275c0+3 275c5",
   "32019+1 33016 275c6+7 2b2ec 30ce9 275ce+7 33017 275d6+1 884a 275d8 2e561 275d9+2 884b 275dc 884c 2c83d",
   "275dd+3 884d+1 275e1+4 2e562 3201b+1 884f 4615 275e6+3 2c83e+1 3201d 33018+1 8850+4 275ea 2b2ed 3301a+1",
   "8855+3 4616 2252c 275eb+6 2b2ee 30cea 3201e 3301c+2 8859 275f2+5 2e563 30ceb+2 275f8 275fa+1 2cead 30cee",
   "3201f+1 885a+3 275f9 275fc+1 2b2ef 2b7d8 2c840 3301f+2 885e+3 4617+1 22585 275fe 32021 33022 2258b 275ff+2",
   "2b7d9 33023+1 27602+1 2b2f0 30cef 32022+1 33025+3 27604 33029 4619 225a1 27605 2c841 3302a 27606 2b2f1",
   "8862 3302b+1 8863+1 27607 2e564 8865 461a+1 27608+4 2c842 2e565+2 30cf0 32024+1 3302d 8866+6 461c+2",
   "2760d+f 2c843+4 2e568 32026 886d+1a 461f+2 2761d+1f 2b2f2+2 2c848+2 2e569+6 30cf1 32027 2edbf 3302e+2",
   "8888+26 88b0 4622+5 2763d 2763f+1e 2b2f5+2 2c84b+5 2e570+8 30cf2+6 32028+1 2edc0 33031 88af 88b1+18 4628+6",
   "2763e 2765e+21 2b2f8+4 2c851+7 2e579+7 30cf9+1 3202a+4 33032 88ca+1b 462f+3 27680+23 2b2fd 2b7da 2c859+4",
   "2e581+d 30cfb+5 3202f+4 2edc1 33033+4 88e7+1d 4633+f 276a4+16 276bc+12 2b2fe+6 2c85e+6 2e58f+4 30d01+1",
   "32034+3 33038+5 88e6 8905+18 4643+a 276bb 276cf+28 2b305+1 2c865+1 2e594+c 32038+2 2edc2 3303e+5 891e+14",
   "8934 464e+5 276f8+24 27728 2b307+2 2c867+2 2e5a1+8 30d03+2 3203b+3 33044+1 8933 8935+10 8954 4654+9",
   "2771d+a 27729+3 2772e+13 2b30a+5 2c86a+3 2e5aa+4 30d06+2 3203f+3 33046+4 8946+d 8955 9fcb 465e+5 2772d",
   "27742+2e 2b310+2 2c86e+1 2e5af+7 32043+1 8956+c 4664+1 27771+1b 2b313+1 2c870+1 2e5b7+3 32045+1 3304b",
   "8963+5 4666+3 2778d+9 27798+e 2b315 2c872+2 2e5bb+1 3304c 8969+5 466a 27797 277a7+a 277b3+2 2b316 2c875+1",
   "2e5bd+1 3304d 896f+3 466b 277b2 277b6+c 2c877 30d09 3304e 8973+1 897d 466c+1 277c3+4 2b317 32047+1 2edc3",
   "8975+2 466e+1 277c8+3 2b318+1 8978+4 4670 277cc+3 30d0a 277d0+4 4671 277d5+3 3304f 277d9+6 897e+2 277e0+3",
   "8981 4672 277e4+2 4673 277e7+2 2c878 32049 8982 4674 277ea+2 2b31a 2e5bf+1 8983+1 4675+1 277ed+1 2b7db",
   "2e5c1+2 3204a 8985 277ef+1 2c879 3204b 277f1+7 2c87a 2e5c4 30d0b 33050+1 277f9+2 2e5c5+1 277fc+2 2b31b",
   "30d0c 3204c 277ff 3204d 8986 27800+1 2c87b 8987+1 27802 2e5c7 33052 27803 2e5c8 27804 2e5c9+1 30d0d 8989",
   "2e5cb 898a 27805 2e5cc 898b 89c1 27806+1 898c 8999 27808 33053 89c2 2c887 898d+1 4677+1 27809+4 2b31c 89c3",
   "898f+5 4679+2 2780e+d 2c87c 2e5cd 33054 89c4+1 32051+2 8995 8997+1 899a 467c+3 2781c+b 2b31d 2c87d 2e5ce",
   "30d0e+2 33055+1 89c7+2 2b328+1 2c888+2 30d15+1 32054 899b+1 4680+1 27828+12 2b31e 2e5cf+2 3204e 89ca 2b32a",
   "2c88b 2c88d 32055+1 2edc4 899d+4 4682+1 2783b+f 2b31f+1 2e5d2+2 30d11 89cb 2c88c 30d17+2 89a2+3 4684+1",
   "2784b+15 2b321 2c87e+2 2e5d5+2 30d12 89cc+1 2c88e 89a6+4 4686+3 27861+15 2b322+1 2e5d8 33057 89ce 2b32b",
   "2c88f+2 30d1a 32057+1 89ab+4 468a+2 27877+a 2c881 2e5d9 30d13 33058 89cf 2c892 30d1b 32059 89b0+3 468d+1",
   "27882+9 2b324 2c882 3204f 89d0+1 2b32c 2c893 30d1c 89b4+4 468f+4 2788c+5 2c883+1 2e5da+3 2c894 30d1d",
   "89b9+2 27892+5 2b325 2e5de 30d14 2b32d 30d1e 89bc+1 4694 27898+3 2c885 33059+1 89be+1 25344 2789c+5 2b7dc",
   "2c886 278a2+3 89c0 278a6+5 2b326+1 4695 278ac 32050 278ad+1 4696 278af+2 89d2 278b2 30d1f 278b3 2e5df+1",
   "89d3+1 278b4+2 30d20 278b7+3 2e5e1+1 30d21 3305b+1 89d5+4 4697 278bb+15 2e5e3+5 3305d 89da+1 89dd+1",
   "278d1+f 2c895 2e5e9+1 30d22+1 3205a+1 3305e 89dc 89df+8 4698+2 278e1+6 2b32e+1 2c896 2e5eb+4 89e8+3 469b",
   "278e8+b 2c897 2e5f0+2 30d24+1 3205c+1 89ec+3 469c+4 278f4+16 2c898 2e5f3 89f0+1 46a1+3 2790b+f 27922",
   "2b330+1 3305f+1 89f2+1 46a5+1 2791b+6 27923+b 2e5f4+1 33061+1 89f4 9d64 46a7 2792f+a 89f5+1 46a8+1 46ac",
   "2793a+9 2e5f6 30d26 3205e 33063+1 89f7+2 46aa+1 27944+3 2c899 33065+1 89fa 27948+3 89fb+1 2794c+4 89fd+1",
   "27951+1 3205f 27953+1 89ff 46ad 27955+3 32060 27959+1 8a00+1 2795b+1 8ba0 2795d+2 30d27 8a02+6 46ae+2",
   "27960 2c89a+1 2e5f7+1 30d28+1 33067 8ba1+4 30d4a 8a09+11 46b1+1 27961+c 2b332+1 2c89c+2 2e5f9+1 32061+3",
   "33068+1 8ba6+b 2b359 2c8d9+1 30d4b+1 32082+1 8a1b+18 46b3+10 2796e+2d 2b334+1 2c89f+1 2e5fb+3 30d2a",
   "32065+1 3306a+2 8bb2+e 4723 2b35a+1 2b7de 2c8db+4 30d4d+5 32084+1 8a34+2c 46c4+f 2799c+26 2b336+3 2c8a1+1",
   "2e5ff+8 30d2b+1 3306d 8bc1+11 27baa 2b35c+5 2b7df 2c8e0+7 30d53+e 32086+1 2edc5+2 3307c 8a61+29 8aa0 9fc1",
   "46d4+8 279c3+30 27a1c 2b33a+1 2c8a3+6 2e608+6 30d2d+b 32067+2 8bd3+16 4724 2b362+4 2c8e8+b 30d62+4 32088+2",
   "3307d 8a8b+14 8aa1+d 46dd+b 279f4+27 27a1d+8 2b33c+2 2c8aa+3 2e60f+7 30d39+2 3306e 8bea+c 2b367+3 2c8f4+8",
   "2e649 30d67+8 3208b+2 8aaf+2b 8ae9 46e9+f 27a26+3c 2b33f+1 2c8ae+5 2e617+9 30d3c+1 3206a+3 3306f+4 8bf7+13",
   "4725 2b36b+3 2b7e0+1 2c8fd+9 30d70+8 3208e+1 2edc8+1 8adb+d 8aea+19 46f9+4 27a63+34 2b341+4 2c8b4+5",
   "2e621+9 30d3e+4 3206e+3 33074+1 8c0b+13 2b36f+5 2c907+8 32090+2 8b04+1e 46fe+4 2041c 27a98+39 2b346+2",
   "2c8ba+a 2e62b+4 30d43+1 32072+1 33076+1 8c1f+8 4726+1 2b375+3 2b7e2 2c910+7 30d79+6 8b23+1b 4703+7",
   "27ad2+2b 2b349+3 2c8c5 2e630+8 30d45 32074+1 33078 8c28+4 4728 2b379+1 2c918+4 30d80+3 32093+1 8b3f+d",
   "8b4e+e 9fbb 470b+6 27afe+28 2b34d+2 2c8c6+3 2e639+4 30d46+2 32076+3 33079 8c2d+5 2b37b+1 2c91d+8 2e64a",
   "30d84+4 2edca 8b4d 8b5d+15 4712+6 27b27+1a 2b350+1 2c8ca+1 2e63e+4 3207a 3307a 8c33+2 2b37d 2c926+2",
   "30d89+2 32095+1 8b73+a 4719+5 27b42+e 27b52+9 2b352 2c8cc+5 2e643+1 30d49 3207b+2 2b37e 2c929+3 30d8c+2",
   "8b7e+7 471f+2 27b51 27b5c+1b 2b7dd 2c8d2+2 2e645+1 3207e 2b37f 2c92d 2e64b 32097 8b86+a 4722 27b78+c 2b353",
   "2c8d5 2e647 3207f 4729 2c92e 8b91+5 2331a 27b85+b 2b354+2 2c8d6 3307b 8c36 2c92f 30d8f 8b97+2 27b91+7",
   "2e648 2c930+1 8b9a+1 27b99+4 2b357 32080+1 8b9c+2 27b9e+6 27ba6+1 2b358 8b9f 27ba8 2c8d7+1 27ba9 8c37",
   "27bab 472a 2b380 30d90 8c38 472b 27bac+2 8c39+2 27baf+3 2b381 2e64c 472c+1 27bb3+1 2c932 30d91+1 3307e",
   "8c3c 27bb5+2 2e64d 30d93 8c3d 472e 27bb8+1 2e64e 32098+1 8c3e 472f 27bba+5 2b382 2c933 2e64f 30d94 27bc0+5",
   "2c934 2e650 30d95+1 8c3f+2 4730 27bc6+3 2c935 3307f 8c42 4731 27bca 8c43 214db 27bcb+7 2e651 3209a+1",
   "27bd3+1 3209c 27bd5+1 8c44 4732 33080 8c45 33081+1 27bd7+2 8c46 4733 30d97 27bda 2edcb 8c47+1 27bdb+2 8c49",
   "4734 27bde+1 2c936 30d98 33083 4735 27be0+4 2e652 30d99+1 3209d 8c4a+1 4736 27be5+1 27be8 2c937 30d9b 9ff2",
   "4737+2 27be9+3 2e653+1 30d9c 8c4c+2 473a 27bed+9 2b383 30d9d 473b+4 27bf7+4 2e655 3209e 33084+1 8c4f",
   "4740+2 27bfc+6 27c08 30d9e 8c50 21546 27c03+4 2b384 2e656 30d9f 27c09+7 2c938 2e657 30da0+1 3209f 8c51",
   "27c11+5 2c939 30da2 320a0 4743 27c17+1 2e658 27c19+3 2e659 27c1d+2 2c93a 30da3 27c20 8c52 4744 27c21+1",
   "33086 8c53 27c23+1 8c54 27c25 8c55 27c27+1 8c56 27c26 2b385 27c29 2c93b 2e65a 30da4+1 8c57 4745 27c2a+3",
   "8c58+5 4746+2 27c2e+6 2b386 2c93c+1 2e65b 8c5e+3 27c35+9 2e65c+2 30da6 8c62+4 4749 27c3f+d 2e65f+1 33087",
   "8c67+3 27c4d+a 2b387+1 2c93e+2 474a+2 27c58+f 2c941+2 30da7+2 33088 8c6b+3 474d+1 27c68+9 2b389 2e661+2",
   "30daa+3 8c6f+4 27c72+8 2c944+1 30dae 320a1 8c74+1 474f 27c7b+6 2e664 8c77 4750+1 27c82+4 8c76 27c87+4",
   "2c946 30daf 4752 27c8c+3 2c947 320a2 4753 27c90+3 27c97 27c94+2 320a3 27c98+1 4754+1 27c9a+4 30db0 27c9f",
   "8c78 27ca0+1 2e665 8c79+2 27ca2+1 2b38a 8c7c+1 4756+3 27ca4+7 2e666+1 33089 8c7e+5 475a+1 27cac+11 2e668+1",
   "320a4+1 3308a 8c84+6 27cbe+b 2b38b 2c948 8c8b+2 475c 27cca+e 2e66a 3308b 8c8e+1 475d+1 27cd9+c 27cf1 2c949",
   "320a6 8c90+3 475f 27ce6+a 27cf2+2 2b38c 2e66b 3308c+1 8c94+2 4760 27cf5+b 2b38d 8c97+2 4761+1 27d01+4",
   "27d07+4 2c94a+1 3308e+1 8c9a 4763+3 27d06 27d0c+3 27d11+4 2c94c 2e66c 33090 27d10 27d16+9 2c94d 320a7",
   "27d20+2 8c9b+1 27d23 8c9d 8d1d 2edcc 8c9e+2 27d24+5 2b38e 2c94e 2e66d 30db1 33091 8d1e+2 8ca1+3 27d2a+8",
   "2b38f+2 2e66e+3 30db2 8d21+1 30dde+2 320ba 8ca5+9 4767+1 27d33+15 2b392+1 2c94f+3 2e672+6 30db3+8 320a8+1",
   "33092+1 8d23+c 27e51 2c973 30de1 320bb+2 330ab 8caf+12 4769+6 27d49+19 2b394+1 2c953 2e679+7 30dbc+3",
   "320aa+2 33094 8d30+b 27e52 2b3a6+1 2c974+2 30de2 320be+3 2edcd 8cc2+c 4770+2 238ec 27d63+21 2b396 2c954+1",
   "2e681+3 30dc0+4 320ad+2 33095+3 8d3c+a 478c 2c977 8ccf+9 3562 4773+2 27d85+15 2b397+2 2c956+4 2e685+5",
   "30dc5 33099 8d47+3 27e53 2b3a8 2c978 2edce+1 8cd9+13 4776+9 27d9b+15 2b39a+1 2c95b+4 2e68b+9 30dc6+2",
   "320b0+1 3309a+1 8d4b+a 478d+1 27e54+2 2b3a9 2c979 30de3+2 320c2+1 8ced+8 4780+4 2080b 27db1+13 27dc6+5",
   "2b39c+2 2c960+2 2e695+4 30dc9 320b2+1 3309c 8d56+1 478f+1 2b3aa 2c97a+3 30de6+1 320c4+1 330ac 8cf6+7",
   "4785+1 27dcc+11 2b39f+1 2c963+2 2e69a+3 30dca+2 320b4+1 3309d+2 8d58+3 2c97e 30de8+2 320c6 2edd0 8cfe+2",
   "8d02+3 4787 27dde+1d 2b3a1 2c966+1 2e69e+2 30dcd+3 330a0+1 8d5c 27e57 8d06+6 4788 27dfc+19 2b3a2 2c968",
   "2e6a1+5 30dd1+6 330a2+2 8d5d+3 2b3ab 30deb 8d0d+2 4789 27e16+f 2c969 2e6a7+1 8d61+1 30dec 8d10+4 27e26+a",
   "2c96a+1 2c96d 2e6a9+2 30dd8+2 2b3ac 2c97f 30ded 8d15+3 478a 27e31+b 27e3f 2b3a3+1 2c96e+2 2e6ac 30ddb",
   "320b6 330a5+1 8d19+1 478b 27e3d+1 27e40+7 2b3a5 2c96c 2c971 2e6ad 320b7 330a7+1 30dee 8d1b 27e48+3 320b8",
   "330a9 8d63 8d1c 27e4c+1 30ddc+1 330aa 27e4e+2 2e6ae+2 2c972 2c980 320b9 8d64 27e58+2 4791 8d65+1 27e5b+1",
   "2c981 330ad 8d67 27e5d+2 2b3ad 330ae+1 8d68+2 4792 27e60+2 2b3ae 2c982 30def 8d6b 4793+1 27e63+3 2edd1",
   "27e67+4 2b3af 320c7 8d6c+2 27e6c+5 2c983 2e6b1 330b0 8d6f 27e72+5 2b3b0 27e78+4 330b1+1 320c8 4795 27e7d+4",
   "2c984 27e82+3 30df0 8d70+1 27e86+1 2e6b2 330b3 8d72+3 9faa 27e88+6 330b4 8d76+2 4796+2 27e8f+d 2c985 2e6b3",
   "30df1 320c9 330b5 8d79+6 4799+3 27e9d+18 2b3b1 2c986+2 2e6b4+1 30df2 320ca 330b6+1 fa23 8d80+b 479d+7",
   "27eb6+19 2b3b2 2c989+2 2e6b6+1 30df3+1 320cb 330b8+1 8d8c+8 47a5+5 27ed0+1e 2b3b3+1 2c98c+1 2e6b8+1",
   "30df5+2 320cc 330ba 8d95+5 47ab+7 27eef+1e 27f1d 2b3b5+2 2c98e+3 2e6ba+1 320cd+1 330bb+1 8d9b+9 47b3+5",
   "27f0e+e 27f1e 27f20+7 2b3b8+2 2c992+1 30df8+1 320cf 8da5+2 47b9+3 27f1f 27f28+20 2b3bb+1 2c994+3 2e6bc",
   "30dfa 320d0 330bd+3 8da8 47bd+3 27f49+14 2b3bd 2c998+4 2e6bd+1 30dfb+2 320d1 330c1 47c1+5 27f5e+17 2b3be+1",
   "2c99d+1 30dfe 320d2 330c2+1 8da9+4 47c7 27f76+16 2c99f 2e6bf 30dff 320d3 330c4 8dae 47c8+3 27f8d+b 30e00",
   "330c5+1 8daf+1 47cc 27f99+7 47cd+2 27fa1+6 2e6c0 8db1 47d0 27fa8+5 47d1 27fae+1 47d2 27fb0+4 8db2 27fb5+1",
   "8db3 27fb7+2 2e6c1 8db4 47d3+1 27fba+6 2c9a0 2e6c2 30e01 320d4 8db5+3 47d5+1 27fc1+10 2b3c0 2c9a1+1",
   "2e6c3+5 30e02+2 320d5+1 8db9+2 8dbd+7 47d7+7 27fd2+1f 2b3c1+2 2c9a3+4 2e6c9+5 30e05+2 320d7+2 330c7+3",
   "8dc5+19 8df5 47df+e 27ff2+22 2b3c4+2 2c9a8+3 2e6cf+7 320da+2 330cb+4 8dbc 8ddf+15 8df6+5 47ee+5 28015+2a",
   "280cb 2b3c7+4 2c9ac+5 2e6d7+1 30e08+7 320dd+9 2edd2 330d0+2 8dfc+12 47f4+7 47fd 28040+34 2b3cc+2 2c9b2+3",
   "2e6d9+6 30e10+3 320e7+3 330d3+2 8e0f+1b 8e2c+3 8e3a 47fc 47fe+e 28075+27 2809f 2b3cf+4 2c9b6+5 2e6e0+e",
   "30e14+5 320eb+4 330d6 8e2b 8e30+9 8e3b+a 480d+9 2809d+1 280a0+2a 280cc+6 2b3d4+4 2c9bc+7 2e6ef+10 30e1a+d",
   "320f0+a 330d7+2 8e46+d 4817+6 280d3+2f 28104 2b3d9+2 2c9c4+5 2e700+8 30e28+1 320fb+5 330da+3 8e54+13 8e6e",
   "8e80 481e+4 28103 28105+44 2815a 2b3dc+3 2c9ca+6 2e709+a 30e2a 32101+4 330de+2 8e68+5 8e6f+10 4823+4",
   "2814a+f 2815b+25 2b3e0+2 2b7e3 2c9d1+3 2e714+4 30e2b+4 32106+1 330e1+3 8e81+8 4828+1 28181+28 2b3e3+3",
   "2c9d5+2 2e719+2 30e30+2 32108+1 330e5+3 8e8a+5 482a+1 281aa+16 2b3e7+1 2c9d8 2e71c+4 30e33+2 3210a+3",
   "330e9+1 8e90+6 482c 281c1+14 2c9d9 2e721+4 30e36+1 3210e+2 330eb+1 8e97+5 482d+1 281d6+d 2b3e9 2c9da+1",
   "2e726+4 330ed+1 8e9d+3 482f 281e4+9 2c9dc 2e72b+1 32111+2 330ef+1 8ea1+4 4830 281ee+c 30e38 32114 8ea6+1",
   "281fb+5 2e72d 32115 8ea9+1 28201+2 2c9dd 30e39 32116 8ea8 4831 28204+3 2c9de 28208+2 2c9df 2820b+3 8eab",
   "2820f+2 2c9e0 32117 28212 8eac 28213+4 2e72e 330f1 8ead+2 28218+10 2c9e1 2e72f 30e3a 32118+3 2edd3 330f2+2",
   "8eb0 4832+4 28229+e 2c9e2 2e730 30e3b+2 3211c 2edd4+1 8eb1+1 4837+3 28238+f 2b3ea+1 2c9e3 2e731+4 3211d+2",
   "330f5+2 8eb3+2 28248+b 2b3ec 2e736+3 32120+2 330f8+1 8eb6+6 483b 28254+d 2c9e4+6 30e3e+2 32123+3 330fa+3",
   "8ebd+1 483c 28262+3 28267+6 2c9eb 30e41+4 32127+1 330fe 8ebf 483d+1 28266 2826e+a 2b3ed+1 2c9ec+2 30e46",
   "32129+2 330ff+1 8ec0+1 28279+5 2b3ef 2c9ef 33101 8ec2+3 483f 2827f+d 2b3f0 2c9f0 30e47 3212c 8ec6 4840",
   "2828d+5 2b3f1 2e73a+2 3212d+2 8ec7 28293+4 32130 28298+2 4841 2829b+1 2e73d 8ec8 32131 2829d+1 2e73e 33102",
   "2829f 8ec9 32132 8eca 8f66 8ecb 30e48+1 8f67 30e6f 8ecc+1 4842+2 282a0+6 8f68 30e70+1 2edd6 8ece+7 4845",
   "282a7+b 2b3f2 2e73f 30e4a+1 8f69+2 4880 2b404+1 30e72+3 8ed6+d 4846+8 282b3+1a 2b3f3 2c9f1 2e740+5 30e4c",
   "32133 8f6c+4 4881 28405+1 2b406+1 2ca01+2 2e773 30e76+5 32140+1 2edd7+1 33113 8ee4+8 8eee+f 9fab 484f+3",
   "282ce+19 2b3f4+1 2c9f2+2 2e746+6 30e4d+3 32134 33103+2 8f71+a 4882 28407 2b408+2 2b7e4 2ca04+1 2e774",
   "30e7c+7 2edd9 8eed 8efe+e 4853+4 282e8+19 2c9f5 2e74d+4 30e51 32135+1 33106 8f7c+7 28408 2b40b+1 2ca06+1",
   "2e775 30e84+2 2edda 8f0d+8 4858+3 28302+1d 2b3f6+2 2e752+1 30e52 33107 8f84+2 2b40d 2ca08+3 2e776 30e87+1",
   "32142 8f16+16 485c+3 28320+26 2b3f9 2c9f6+1 2e754+8 30e53+7 32137+2 33108+1 8f87+7 2b40e+3 2ca0c 30e89+8",
   "2eddb 8f2d+f 4860+4 28347+21 2b3fa+1 2c9f8+1 2e75d+2 30e5b+3 3213a 3310a+1 8f8f+5 2b412+1 2ca0d+2 2e777+1",
   "30e92+3 2eddc 8f3d+8 4865+5 28369+20 2b3fc+1 2c9fa 2e760+2 30e5f+3 8f95+2 2b414 2b7e5 2ca10+1 30e96+1",
   "2eddd 8f46+6 9fc2 486b+6 2838a+19 2b3fe+1 2c9fb+2 2e763+2 30e63 3213b+2 3310c+2 8f98 2b415+1 2ca12+1",
   "30e98+1 8f4d+7 4872+3 283a4+d 2b400 2e766+2 30e64+3 3310f+2 8f99+1 28409 2b417 30e9a+4 8f55+5 4876",
   "283b2+15 2863c 2b401 2c9fe 2e769+2 30e68 2b418 2b7e6 2ca14 2e779+1 30e9f+1 8f5b+4 4877+2 283c8+8 2b402",
   "2e76c+3 30e69 3213e 2ca15 30ea1 8f60+2 487a+1 283d1+c 2c9ff+1 2e770+2 30e6a+1 2b419 30ea2+2 8f63+1 283de+a",
   "3213f 2840a 487c 283e9+b 30e6c 487d 283f5+3 283fd 30e6d 8f65 487e 283f9 283fb 283fe 283fa 283fc 283ff+1",
   "33112 28401+1 487f 28403 30e6e 32143 2b403 28404 8f9b 2840b+1 2ca16 32144 2840d+1 30ea5 2840f+2 30ea6",
   "8f9c+1 28412+1 2b41a 2ca17+2 8f9e+2 28414+3 2b41b+1 30ea7 32145+1 33114 8fa1+2 28418+3 2ca1a 2e77b 8fa4",
   "4883 2841c+3 2e77c 30ea8 32147 8fa5+5 28420+7 30ea9 8fab 28428+7 8fac 28430+2 2e77d 30eaa 32148 8fad",
   "28435+4 30eab 33115 8fae 4884 2843a+2 2b41d 8faf 2843d 30eac 2843e+1 2ca1b 28440+1 32149 28442 8fb0",
   "28443+1 2e77e 33116 8fb1+1 4885 28445+2 30ead 4886 3214a 8fb3 4887 28448+1 2e77f+1 8fb4 2844a 4888+1",
   "2844b+1 8fb5+1 20507 8fb7 2b41e 8fb8+5 2844d+3 2b7e7 2ca1c 30eae 3214b 5de1 8fbe+b 488a+1 28451+10 2b41f",
   "2e781+2 30eaf+4 3214c+3 33117 8fca+15 8fec 488c+3 28462+1f 2b420+1 2ca1d+3 2e784+1 30eb4+1 32150+2 2edde",
   "33118+1 fa24 8fe0+b 8fed+6 4890+1 28482+22 2b422+2 2ca21+2 2e786+8 30eb6 32153+3 2eddf+1 3311a+2 8ff4+16",
   "4892+6 284a5+1f 2b425 2ca24+1 2e78f+2 30eb7+3 32157+2 3311d+1 900b+1c 4899+2 284c5+25 2b426+4 2ca26+6",
   "2e792+3 30ebb+2 3215a+4 2ede1 3311f+2 9028+13 489c+4 284eb+22 2850f+d 28520 2b42b+7 2ca2d+5 2e796+12",
   "30ebe+7 3215f+6 2ede2+1 33122+1 903c+1b 48a1 2850e 2851d+2 28521+3b 2b433+6 2b7e8+1 2ca33+6 2e7a9+c",
   "30ec6+2 32166+5 2ede4 33124+2 9058+d 48a2+3 2855d+28 2b43a+3 2ca3a+5 2e7b6+6 30ec9+4 3216c+1 2ede5+1 33127",
   "9066+b 9073 48a6+3 28586+2d 2b43e+5 2ca40+8 2e7bd+b 30ece+3 3216e+5 2ede7 33128+4 9072 9074+8 9086 48aa+3",
   "285b4+1e 285d4+10 2b444+6 2ca49+7 2e7c9+6 30ed2+3 32174+b 3312d+5 907d+8 9089 48ae 285e5+21 2b44b 2b7ea",
   "2ca51+a 2e7d0+7 30ed6+4 32180+4 33133+2 9087+1 48af+1 28607+19 2912e 2b44c+3 2ca5c+7 2e7d8+4 33136+3",
   "908a+2 48b1 28621+15 2b450+1 2ca64+6 2e7dd+4 32185+1 3313a 908d 28637+4 2863d+4 2ca6b+3 2e7e2+1 30edb",
   "32187 3313b 908e 28642+f 2b452+3 2e7e4+2 32188 3313c 28652+6 2b456 2ca6f+3 2e7e7 30edc 32189+1 3313d",
   "908f+1 28659+5 3218b+2 48b2 2865f+4 3313e 28664+1 2e7e8 3218e 3313f 28666 2e7e9 28667 33140+3 30edd+1 9091",
   "28668 9092+1 48b3 28669+1 2ca73+1 9094+9 48b4 2866b+a 2b457 2e7ea+1 30edf+1 3218f 33144 909e+e 48b5+2",
   "28676+1c 2b458+1 2ca75+1 2e7ec+2 30ee1+5 2ede8+1 90ad+e 48b8+2 28693+1b 2b45a+1 2b7eb 2ca77+2 2e7ef+7",
   "30ee7+1 90bc+15 90d3 48bb+7 286af+1b 2b45c 2ca7a+3 2e7f7+3 30ee9 32190+1 33145 90d2 90d4+13 48c3+6",
   "286cb+1f 2b45d+2 2b737 2ca7e+6 2e7fb+1 30eea+2 32192+2 2edea 33146+1 90e8+10 48ca+5 286eb+23 2b460+2 2b7ec",
   "2ca85+5 2e7fd+2 30eed+4 32195+1 2edeb 90f9+11 48d0+2 2870f+7 28718+19 2b463+1 2b7ed 2ca8b+5 2e800+2",
   "30ef2+1 32197+1 2edec+1 33148 910b+c 48d3+4 28717 28732+18 2b465+1 2e803+2 30ef4+4 32199 33149 9118+d",
   "48d8+4 2874b+1f 28779 2b467+2 2ca91+3 2e806 30ef9+2 3219a 3314a 9126+c 48dd+3 2876b+d 2877a+16 2ca95+1",
   "2e807+2 30efc 3219b+2 3314b+1 9133+4 48e1 28791+15 2b46a+1 2ca97+4 2e80a+4 30efd 3219e 3314d+1 9138+1 48e2",
   "287a7+12 2b46c 2ca9c 2e80f+1 30efe 3219f+1 3314f 913a+4 287ba+12 2b46d 2ca9d+2 2e811+1 30eff 321a1+2",
   "913f+1 9142 287cd+b 2b46e+2 2caa0+2 30f00+1 9141 9143 287d9+6 2caa3+1 2e813 9144+2 287e0+3 2b471 2e814",
   "9147+1 287e4+3 321a4 48e3+1 287e8+6 2caa5 287ef 2b472 30f02 9149 2e815 914a+1 48e5+1 2e816+1 914c+6 48e7+1",
   "287f0+3 2b473 2e818+2 30f03 321a5+2 9153+b 48e9+4 287f4+16 2caa6+1 2e81b+5 30f04 321a8+1 915f+6 48ee+5",
   "2880b+18 2caa8 2e821+3 30f05+1 33150+1 9166+b 48f4+5 28824+12 2b474+1 2b7ee 2caa9 2e825+5 321aa+2 33152+3",
   "9172+d 48fa+1 28837+14 2b476+2 2caaa+2 2e82b+2 30f07+2 321ad+2 33156+1 9180+c 48fc+3 2884c+1c 2b479",
   "2e82e+6 30f0a+2 321b0+1 33158+1 918d+a 4900+8 28869+1b 2caad+4 2e835+6 30f0d+1 321b2+2 9198+c 4909+3",
   "28885+1b 2b47a 2cab2+3 2e83c 30f0f 321b5+4 3315a+1 91a5+7 490d 288a1+1b 2b47b 2cab6 2e83d+3 30f10+2 321ba",
   "3315c+3 91ad+4 490e+4 288bd+18 2b47c+1 2e841+3 30f13+1 321bb 91b2+6 288d6+f 2cab7+2 2e845+1 321bc+2",
   "33160+1 91b9+2 4913+1 288e6+7 2b47e 2e847+3 30f15 321bf 4915+1 288ee+7 2e84b+1 30f16 33162 91bc 288f6+7",
   "2b47f 33163 91bd+3 4917+1 288fe+4 2e84d 91c1+1 28903+1 91c3+1 28905+1 91c5 28907+2 4919 2890a+2 33164",
   "2890d+1 91c6+1 2890f 2caba 2e84e 33165 91c8 28910+1 2e84f 30f17 91c9+1 2b480 2cabb 28912+2 321c0 28915+2",
   "33166 28918+1 2e850 24cdb 2891a+3 2e851 33167 91cb 2891e 33168 2891f+2 91cc 30f18 91cd 2b7ef 28923+1 91ce",
   "491a 28922 28925 2b481 2e852 30f19 91cf 28926+3 2b482 2cabc+1 2e853 321c1 2892a+1 2cabe 2e854+2 2892c",
   "2b483 2e857+1 321c2 33169 2892d+2 2e859 28930+1 2e85a 30f1a+3 2edee 3316a 218e2 28932+1 2b484 2cabf+1",
   "30f1e 3316b 91d0 28934+3 2e85b 3316c 2b485 2e85c+1 3316d 258f7 28938 2cac1 2e85e+4 321c3 3316e 28939+1",
   "321c4 2e863 2893b+1 91d1+1 9485 91d3+1 9486+1 91d5+d 491b 2893d+4 3316f 9488+4 2b4e5 2b7f2 30f55+1 91e3+19",
   "491c 28942+7 2b486+3 2e864+2 30f1f+1 948d+a 28c3e+1 2b4e6 2b7f3 2cb27+3 2e8f2 30f57+4 321ed+3 2edf5+1",
   "91fd+2f 491d+3 2894a+1a 2b48a+4 2cac2+3 2e867+6 30f21+2 321c5+2 33170+2 9498+17 497a+2 28c40+2 2b4e7+4",
   "2b7f4+1 2cb2b+b 2e8f3 30f5c+8 321f1+5 2edf7+6 331e9 922d+47 928f 9faf 4921+2 28965+1c 2b48f+5 2cac6+6",
   "2e86e+2 30f24+2 321c8+1 2edef 33173+5 94b0+1e 9fed 497d+2 28c43+3 2b4ec+2 2b7f6+1 2cb37+b 30f65+c 321f7+1",
   "2edfe+5 331ea 9275+6 927d+11 9290+21 4924+6 28982+1b 2899f+c 2b495+7 2b7f0 2cacd+6 2e871+6 30f27+5 321ca+3",
   "33179+2 94cf+28 4980 2b4ef+5 2b7f8+3 2cb43+6 30f72+b 321f9+3 2ee04+4 92b2+44 492b+7 289ac+39 2b49d+8",
   "2cad4+c 2e878+9 30f2d+7 321ce+1 2edf0 3317c+4 fa27 94f8+1d 9fcf 4981 28c47+1 2b4f5+2 2b7fc 2cb4a+6 2e8f4",
   "30f7e+d 321fd+3 2ee09+6 331eb 927c 92f7+30 9329+1d 9348 9fac 4933+3 289e6+48 2b4a6+9 2cae1+b 2e882+16",
   "30f35+5 321d0+1 2edf1+2 33181+b fa28 9516+1b 28c49+3 2b4f8+7 2b7fd 2cb51+c 2e8f5 30f8c+7 32201+9 2ee10+3",
   "331ec+1 9328 9347 9349+3e 4937+5 28a2f+57 2b4b0+7 2caed+5 2e899+e 30f3b+6 321d2+1 3318d+c 9532+13 28c4e",
   "2b500+4 2b7fe+1 2cb5e+7 30f94+12 3220b+6 2ee14+4 331ee 9388+20 93aa+15 9fb2 493d+a 28a87+47 2b4b8+6 2b7f1",
   "2caf3+b 2e8a8+b 30f42+1 321d4+8 3319a+c 9546+f 9fd4 4982 28c4d 28c4f 2b505+3 2b800 2cb66+5 2e8f6 30fa7+8",
   "32212+2 2ee19+3 331ef 93a9 93c0+32 93f9 4948+b 28acf+3d 2b4bf+4 2caff+5 2e8b4+9 30f44+1 321dd+3 331a7+f",
   "9556+a 28c50 28c52 2b509+1 2cb6c+6 30fb0+2 32215+3 2ee1d+3 331f0+1 93f3 93f5+3 93fa+2e 4954+8 28b0d+7",
   "28b16+3e 2b4c4+a 2cb05+5 2e8be+10 30f46+6 321e1+4 2edf4 331b7+11 9561+a 4983+2 28c51 28c53+1 2b50b+4",
   "2cb73+6 30fb3+a 32219+3 2ee21+1 331f2 93f4 9429+18 495d+9 28b15 28b55+3c 2b4cf+6 2cb0b+6 2e8cf+9 30f4d",
   "321e6+1 331c9+5 956c+5 28c55+1 2b510+1 2cb7a+3 2e8f7 30fbe+3 3221d+1 331f3+1 9442+12 9467 4967+7 28b92+25",
   "2b4d6+4 2cb12+5 2e8d9+4 30f4e+3 331cf+5 9572 2b512 2b801 2cb7e 30fc2 9455+11 496f+5 28bb8+24 2b4db+1",
   "2cb18+3 2e8de+6 30f52 321e8+3 331d5+2 9573+1 2cb7f 30fc3+2 2ee23 9468+4 4975+2 28bdd+1c 2b4dd+2 2cb1c+2",
   "2e8e5+4 321ec 331d8+6 2b513 2cb80 30fc6+1 3221f+1 946d+6 4978 28bfa+e 28c31 2b4e0+2 2cb1f+1 2e8ea+1 331df",
   "9575+1 2cb81 30fc8 9474+6 28c09+14 2b4e3 2cb21+1 2e8ec+1 331e0+2 2b514 30fc9 32221 947b+4 28c1e+a 2b4e4",
   "2e8ee 331e3 2b515 2cb82 30fca 9480+2 28c29+7 2cb23 2e8ef 331e4 4986 2cb83 9483+1 4979 28c32+4 2cb24",
   "28c37+2 2cb25 30f53 331e5 28c3a 2cb26 28c3b 2e8f0 331e6 28c3c 331e7+1 28c3d 2e8f1 30f54 9577+1 28c57+1",
   "957f 28c59 9579 4987 2e8f8 30fcb 32224 957a 28c5a+b 2e8f9+1 30fcc 2ee24 30fd6 957b 4988+1 28c66+b 2e8fb",
   "498a 28c72+d 2b516 2cb84 2e8fc+1 30fcd 32225 28c80+6 2e8fe+1 30fce+2 957c 28c87+b 2b517 2e900+1 30fd1",
   "331f5 2147a 28c93+a 30fd2 331f6 28c9e+6 2e902 30fd3 498b 28ca5+7 2e903+1 30fd4+1 957d 28cad+5 32222",
   "28cb3+4 2e905+1 32223 957e 28cb8+e 9580 28cc7+1 95e8 9581+1 28cc9 2b518 95e9 30fe5 9583+2 28cca+5 2cb85",
   "30fd7 95ea 2cb98 2e92b 30fe6 9586+4 498c+1 28cd0+6 2b519 2cb86 2e907 30fd8+3 32226 331f7 95eb+4 28dff+2",
   "2b52c 2cb99+2 2e92c+1 30fe7 958b+c 498e+3 28cd7+1b 2b51a+1 2cb87+1 2e908+1 30fdc+1 32227 331f8 95f0+7",
   "28e02+1 2b52d+2 2cb9c+3 2e92e+2 30fe8+3 32235+3 33211+1 9598+8 4992+2 28cf3+19 2b51c+4 2cb89 2e90a+3 30fde",
   "32228+1 331f9 95f8+1 2b530 2b802 2cba0+1 2e931+1 30fec+1 33213 95a1+9 4995+6 28d0d+19 2e90e+1 30fdf 3222a",
   "331fa+1 95fa+8 49b6 28e04+1 2b531 2cba2+5 2e933 30fee 32239+3 2ee25 33214 95ab+9 499c+3 28d27+20 2b521+3",
   "2cb8a+2 3222b 331fc+4 9603+3 49b7 2b532+1 2cba8+2 30fef+1 3223d+2 33215+1 95b5+1 95b8+a 49a0+8 28d48+1c",
   "2b525+2 2e910+6 30fe0+2 3222c+1 33201 9607+9 2b534 2cbab+5 2e934+2 30ff1+2 32240 2ee26 95b7 95c3+c 49a9+6",
   "28d65+1a 2b528 2cb8d+1 2e917+4 30fe3 3222e 33202+1 9611+4 49b8 28e06+2 2cbb1+4 2e937 30ff4+2 32241+2",
   "95d0+8 28d80+1b 2cb8f+2 2e91c+2 3222f+1 33204+2 9616+3 28e09+1 2b535+1 30ff7+1 32244+1 2ee27 33217 95d9+4",
   "49b0 28d9c+f 2b529 2cb92 2e91f+2 32231+3 33207+4 961a 2b537+1 2cbb6+1 30ff9+1 32246 33218 95de+3 49b1",
   "28dac+16 2cb93 2e922+3 3320c 28e0b+1 2cbb8+1 2e938 30ffb+1 95e2+4 49b2+2 28dc3+10 28dd5+2 2b52a 2cb94+1",
   "2e926+1 961b 30ffd+1 32247 95e7 49b5 28dd4 28dd8+6 2cb96 2e928 30fe4 3320d+2 28e0d 2b539 30fff+1 32248",
   "33219 28ddf+6 2cb97 28de6+8 28df6 2e929 28def+6 28df8 2b52b 2e92a 28e0e 28df7 28df9+2 33210 28dfc+2 961c+1",
   "28e0f 3321a 961e+1 49b9+1 28e10+5 9620+4 49bb 28e16+3 2b53a 2cbba 2e939 31001+1 3321b 9625+11 49bc+4 20072",
   "28e1a+f 2b53b 2cbbb+2 2e93a+1 31003+2 32249+1 3321c 9637+12 49c1+2 28e2a+16 2b53c+1 2cbbe 2e93c+3 31006+4",
   "3224b+2 3321d+1 964a+b 49c4+4 28e41+16 2b53e+2 2cbbf+1 2e940+5 3100b+5 3224e+1 9656+3 965b+e 49c9+6",
   "28e58+1b 2b541+2 2cbc1+2 2e946+5 31011+5 32250+2 3321f+2 965a 966a+10 49d0+6 28e75+28 2b544+1 2cbc4+6",
   "2e94c+5 31017+9 32253+2 2ee28 33222+3 967b+13 9690 49d7+2 28e9e+21 2b546+7 2b803 2cbcb+4 2e952 31021+8",
   "32256+5 2ee29 33226 968f 9691+8 49da+5 28ec0+2d 2b54e+1 2cbd0+3 2e953+7 3102a+1 3225c+1 33227+1 fa29",
   "969a+7 49e0+3 28eee+1b 2b550+3 2cbd4+4 2e95b+4 3102c+4 3225e+3 2ee2a 33229+4 96a2+3 49e4+2 49e9 28f0a+1f",
   "2b554+3 2cbd9+2 2e960+4 31031+5 3322e+2 96a6+5 49e7+1 49ea 28f2a+14 2cbdc+3 2e965+4 31037+3 33231+1 96ac+6",
   "49eb+2 28f3f+d 2cbe0 2e96a+4 3103b 32262 33233+1 96b3 28f4d+8 2cbe1 2e96f 3103c+3 32263 33235 96b4 49ee",
   "28f56+b 2b558 2e970 31040+2 96b5 49ef 28f62+3 2cbe2+2 2e971 32264 33236 49f0 28f66+5 2cbe5+2 31043+1 33237",
   "28f6c+1 2cbe8 32265 33238+1 28f6e+1 2e972 32266 28f70+1 2cbe9 2e973 9fe7 28f72+3 96b6 2e974 28f76+5 2b559",
   "96b7 28f7c+2 96b8 28f7f 2e975 28f80+4 96b9+5 49f1 28f85+2 31045 32267 96bf+1 49f2+1 28f88+9 2e976 31046+2",
   "32268 3323a 96c1+7 49f4+2 28f92+d 2b55a 2cbea 2e977+3 31049 32269 96c9+6 49f7+3 28fa0+11 2cbeb 2e97b 3226a",
   "96d0+2 49fb 28fb2+18 2b55b 2cbec+1 3226b 96d3 49fc+1 28fcb+14 2cbee 2e97c 3323b 96d4+1 49fe+1 28fe0+1e",
   "2cbef+1 2e97d+2 3226c+1 96d6 4a01+1 28fff+17 2cbf1 2e980 3104a 3226e 3323c+1 96d7+9 4a03 29017+c 2b55c",
   "2e981 3104b 3323e 96e1+2 4a04 29024+f 3104c 4a05+2 29034+12 2cbf2+2 3104d 3323f 96e4 29047+b 3226f 4a08",
   "29053+8 2cbf5+1 3104e+1 2905c+a 2cbf7 96e5+1 29067+4 2e982 33240 4a09 2906c+5 2e983 31050 96e7 29072+1",
   "4a0a 29074+1 96e8 2e984 29076+2 2b55d 31051 32270 96e9+2 4a0b 29079+8 2b55e 2cbf8 2e985 2ee2b 33241 96ec+7",
   "4a0c+1 29082+f 2b55f+1 2cbf9+1 2e986+3 32271+1 33242+1 96f4+a 4a0e 29092+f 2b561+1 2cbfb 2e98a+3 31052+1",
   "32273+1 2ee2c 33244+7 96ff+2 4a0f+7 290a2+14 2b563+1 2e98e+1 32275+2 3324c+1 9702+8 4a17+2 290b7+1a",
   "2b565+1 2cbfc+1 2e990+3 31054+6 32278 3324e+6 970b+c 4a1a+3 290d2+22 2b567+1 2cbfe+5 2e994+7 3105b+4",
   "32279+8 33255+5 9718+8 4a1e+6 290f5+8 290ff+17 2b569+1 2cc04+3 2e99c+7 31060+2 3325b+1 9721+4 4a25+5 290fe",
   "29117+16 2912f+b 2b56b 2cc08 2e9a4+7 32282+1 3325d+7 9726+7 4a2b+4 2913b+21 2b56c+1 2cc09+1 2e9ac 31063",
   "32284+3 33265+7 972e+6 4a30+1 2915d+1e 2b56e+3 2cc0b+2 2e9ad+5 32288+1 3326d+8 9735+6 2917c+14 2b572",
   "2cc0e+2 2e9b3+3 3228a 33276+1 973c+4 4a32+2 29191+12 291ac 2b573+1 2cc11+3 2e9b7+4 31064 3228b+1 33278+3",
   "9741 4a35+1 291a4+7 2e9bc 31065+3 3228d+3 3327c+2 9742+6 4a37 291ad+7 2b575+1 2e9bd 31069 3327f+2 9749",
   "4a38 291b5+9 2e9be 33282+2 974a 291bf+8 2e9bf 32291+1 33285+2 974b+3 9fe8 4a39 2cc15 2e9c0+1 32293 33288+1",
   "291c8+1 32294 3328a+2 974f 291ca+4 2b577 2cc16 2e9c2 3328d+2 291cf 3106a 33290 291d0+1 3106b 33291+1 4a3a",
   "33293 291d2 9750 33294 291d3+1 4a3b 3106c 9751+1 291d5 2b578 32295 9753+1 291d6+1 9755+1 291d8+3 2b579+1",
   "2cc17+1 2e9c3 9757+2 291dc 32296 2ee2d 33295 975a 3106d+1 32297 33296+1 975b+1 291dd+1 2b57b 291df 975d",
   "291e0 32298 291e1 2b57c 291e2+1 4a3c 291e4+1 975e 291e6+2 4a3d+1 291e9+3 2cc19 33298 975f 4a3f 291ed+7",
   "2e9c4 291f5+1 2cc1a+1 2e9c5+1 33299 291f7 2b57d 2e9c7 9760 4a40 291f8+3 2cc1c 291fc+1 2cc1d 32299 9761",
   "2cc1e 4a41 291fe+3 3106f 3329a 2b57e 2cc1f 2e9c8 2b57f 29202 9762+1 20691 29203+2 2e9c9 4a42+2 29206+6",
   "9764 4a45+2 2920d+b 2b580 2cc20 2e9ca+1 9765 24382 29219+7 2b581 2e9cc 9766 4a48+1 29221+9 2b582 2e9cd",
   "4a4a 2922b+6 2cc21 2e9ce 3329b 29232+5 2b583 2e9cf 3229a 29238+2 31070 4a4b 2923b+5 2b584 2cc22+1 2e9d0",
   "9767 4a4c+1 29241+8 2e9d1+1 4a4e 2924a+1 9768 2924c+4 4a4f 29251+9 9769 2e9d3 976a 2925b+1 976b+6 4a50+2",
   "2925d+3 31071 9772+7 4a53+5 29261+16 2e9d4 31072 3229b 2ee2e 977a+c 4a59+5 29278+17 2b585+1 2e9d5+2 31073",
   "3229c 9787+b 4a5f 29290+18 2b587+1 2cc24 2e9d8+1 31074+1 3229d 3329c+1 9793+6 4a60+7 292a9+15 2cc25",
   "2e9da+3 31076 3229e 3329e 979a+7 4a68+6 292bf+1f 2cc26 2e9de 31077 3329f 97a2+e 4a6f+6 292df+23 2cc27",
   "2e9df+3 31078+2 332a0+2 97b1+6 4a76+5 25315 29303+22 2e9e3+2 3107b+1 3229f 332a3+2 97b8+3 4a7c+2 29326+1c",
   "2b589 2e9e6+3 97bc+3 4a7f+5 29343+f 2b58a 2cc28+1 2e9ea+1 3107d 97c0+3 4a85+1 29353+11 2b58b 2e9ec+1",
   "332a6+1 97c4+1 4a87+1 29365+c 322a0 332a8 97c6+2 4a89 29372+5 332a9 4a8a+1 29378+2 2937c+2 3107e 322a1",
   "97c9 4a8c+1 2937f+7 4a8e 29387+3 97ca 2938b+6 97cb 2e9ee+2 97e6 2b58c 97cc 29392 3107f 97e7 2cc31 4a8f",
   "29393+4 2b58d 2cc2a 31080 322a2 293fc 2b591 2cc32 2e9f4 31083 97cd+1 4a90+3 29398+b 31081 97e8 293fd+1",
   "2cc33+1 31084+1 322a5 97cf+2 293a4+a 2b804 2cc2b+2 2e9f1 2b592 2e9f5 31086+2 2ee2f 97d2 4a94 293af+8 31082",
   "31089 97d3+2 4a95 293b8+c 2b58e 97e9 2b593 97d6+4 4a96+2 293c5+9 2cc2e 2e9f2 322a3+1 97ea+1 293ff+1 2b805",
   "2cc35 3108a 2ee30 97dc+3 4a99+1 293cf+8 332aa 97ec 2b594+1 97db 97e0 293d8+7 2b58f 97e1+1 4a9b 293e0+7",
   "2e9f3 2b596 2cc36 97e3 4a9c 293e8+5 2cc37 3108b 4a9d 293ee+3 2cc2f 3108c 97e4+1 293f2+1 2b590 293f4 2cc38",
   "293f5 2cc30 293f6+5 97ed+1 4a9e 29401+1 322a6 3108d 97ef 4a9f 29403 97f0 29404 97f1 4aa0 29405+3 97f2",
   "4aa1+1 29409+1 4aa3 2940b 2940d+1 3108e 4aa4 2940c 2940f+4 4aa5 29414+2 97f3 7adf+1 4aa6+2 29417 2e9f6+1",
   "3108f 2ee31 97f4+1 4aa9 29418+1 2b597 2ee32+1 332ab 97f6+1 4aaa 2941a+3 2b598 2cc39+2 2e9f8 332ac+1",
   "2941e+8 2cc3c 2e9f9+1 322a7 332ae+1 97f8 4aab+1 29427+5 2cc3d 2e9fb 31090+1 2942d+3 322a8 332b0 97f9+1",
   "4aad 29431+3 2b599 2e9fc 31092+1 322a9 332b1 97fb+1 4aae+1 29435+3 2e9fd 97fd+2 29439+5 2b59a 2943f+2",
   "2b59b 2e9fe 332b2 4ab0 29442+4 2e9ff 9800 29447+1 2b59c 2cc3e 29449+1 9801 2944b 9875 9802+2 2944c+3 2cc3f",
   "9876+1 2cc53 9805+4 4ab1+1 29450+8 2cc40 9878+3 2b5aa 310a0 322b9 2ee34 980a+9 4ab3+2 29459+16 2b59d",
   "2ea00+2 31094+1 987c+8 2b5ab 2b806 2cc54+1 310a1 9814+6 4ab6+8 29470+1e 2b59e 2cc41+1 2ea03+3 322aa+2",
   "9885+3 2b5ac+1 2cc56+4 310a2 322ba+1 981b+8 9826+6 4abf+3 2948f+1e 2cc43 2ea07+3 31096+1 322ad+1 332b3",
   "9889+6 2b5ae+3 2cc5b+7 310a3+5 9824+1 982d+10 4ac3+7 294ae+2e 2b59f+1 2cc44+3 2ea0b+1 31098+1 322af 332b4",
   "9890+6 2b5b2+1 2cc63+2 310a9+3 322bc+1 983f+b 4acb+8 294dd+22 2b5a1 2cc48+1 2ea0d+7 322b0+2 332b5 9897",
   "29595+1 2b5b4+2 2cc66+6 310ad+3 2ee35 332bf 983e 984b+a 4ad4+9 29500+18 2b5a2+1 2cc4a+1 2ea15+1 322b3+1",
   "9898+5 2b5b7 2cc6d+2 310b1+2 322be+2 2ee36+2 9856+8 4ade+9 29519+19 2b5a4 2ea17+4 3109a+2 322b5+1 332b6+3",
   "989e+3 2b5b8 2cc70 310b4+5 322c1 985f+4 4ae8+3 29533+15 2b5a5+1 2cc4c+1 2ea1c+1 322b7 332ba 2b5b9 310ba",
   "9864+4 4aec+5 29549+15 2b5a7 2cc4e 2ea1e+1 3109d 322b8 98a2+1 2cc71 310bb 322c2 2ee39+1 9869+2 4af2+2",
   "2955f+c 2b5a8 2cc4f 2ea20+1 332bb+2 98a4 29597 322c3 986c+3 2956c+11 3109e 332be 98a5 2cc72 9870 4af5+1",
   "2957e+7 2b5a9 2cc50 2ea22+1 98a6 2b5ba 9871+1 4af7 29586+2 2ea24+1 29589+5 2cc51 3109f 98a7 2cc73 9873+1",
   "2958f+4 2cc52 98a8 98ce 322c4 4af8 29598+1 2ea26 98a9+1 4af9 2959a+7 332c0+1 98cf 310d4 98ab+1 4afa+3",
   "295a2+d 295b1+2 2b5bb 2ea27 310bc 2b5c7 2b807 2cc75 2cc77 310d5 322ce+1 2cc76 98ad+4 4afe+5 295b4+f 2ea28",
   "310bd+2 332c2 98d0+2 29665+1 2b808 2cc78 2cc7a 310d6+1 322d0 2b5bc 2cc79 2cc7b 98b2+1 4b04+1 2066c 295c4+e",
   "2ea29+2 332c3 2cc7c 310d8+2 98b4+1 4b06+4 295d3+14 2ea2c 310c0+2 322c5 332c4 29667 2b5c8 2cc7d 310db",
   "98b6+1 4b0b+5 295e8+1c 2ea2d+2 310c3+3 332c5 98d3 29668+2 2b5c9 2cc7e+2 2ea34 310dc+1 322d1 2ee3b 332cd",
   "2b5bd 98b8+2 4b11+6 29605+8 2960f+c 2cc74 310c7+2 322c6 332c6+4 98d4 98d6 2966b+1 2b5ca 310de 332ce",
   "2b5be+1 2cc81+1 322c7+1 98bb+5 4b18+2 2960e 2961c+10 2ea30 310ca 98d5 98d7 2966d+1 2b5c0+2 2cc83+1 98c1+3",
   "4b1b+1 2962d+a 2ea31 310cb+2 98d8 2ea35 310df 98c5+5 4b1d 29638+f 98d9+1 2966f 2cc85+1 310e0 2ee3c 98cb",
   "29648+3 2964d 2ea32 310ce+1 322c9+1 332cb+1 29670 2b5cb 2964c 2b5c3+1 2cc87 322cb 332cf 4b1e 2964e+2 2b5c5",
   "322cc 4b1f 29651+4 2b5c6 310d0 322cd 232f0 332d0 29656+4 2cc88 2965b+1 310d1 98cc+1 2965d+1 310d2+1 2965f",
   "2ea33 29660+4 98db 29671 98de 29672+1 2cc89 2ea36 29674 2ee3d 4b20 2b5cc 4b21 29675+3 322d3 29679 98dc",
   "2967a+1 322d2 332d1 2967c+1 2cc8a 98dd 2967e 98df+1 202d1 2967f+2 29683 9963 29682 98e1+3 4b22 4dbf",
   "29684+2 9964+1 2cca5+1 98e5+3 4b23+2 29687+d 2ea37+1 310e1+2 322d4 9966+1 2b5de 2cca7+1 310f1 98e9+9",
   "4b26+4 29695+12 2b5cd 2cc8b+3 310e4 2ee3e 9968+6 297fe+2 2b5df+1 2cca9+1 310f2+2 322e2 332e8+1 98f3+6",
   "98fb+4 4b2b+9 296a8+20 2b5ce 2ea39+2 322d5+1 996f+5 29801+1 2b5e1+2 2ccab+8 310f5+2 322e3+1 98fa 9900+f",
   "4b35+6 296c9+13 2b5cf+3 2cc8f+2 2ea3c 310e5+2 322d7+1 332d2+2 9975+7 29803 2b5e4+1 2ccb4+3 2ea5b+1 310f8+3",
   "322e5 9910+9 991d 4b3c+6 296dd+1c 2b5d3 2cc92+2 310e8+1 322d9 332d5+2 997d+5 29804+1 29807 2b5e6+2 2ccb8+3",
   "2ee3f 332ea+2 991a+2 991e+b 4b43+4 296fa+28 29724+8 2cc95+1 2ea3d+3 310ea+1 322da 332d8+5 9983+3 29806",
   "29808+1 2b5e9+1 2ccbc+6 310fc+3 322e6+1 992a+b 9937 4b48+7 29723 2972d+2b 2b5d4+3 2cc97+2 2ea41+6 322db+2",
   "332de 9987+1 998a+1 2980a+1 2b5eb+4 2ccc3+4 2ea5d 31100+4 322e8 9936 9938+a 4b50+4 29759+1a 29775+7 2b5d8",
   "2ea48+3 310ec+2 322de 332df+3 9989 998c+4 2980c 2b5f0+1 2ccc8+5 31105 322e9+2 332ed+2 9943+6 4b55+2 27210",
   "29774 2977d+23 2b5d9+1 2cc9a 2ea4c+3 310ef 322df 332e3 9991+1 2980d+1 2ccce+2 322ec 332f0 994a+9 4b58+4",
   "214f7 297a1+14 297b7+6 2b5db 2cc9b+3 2ea50 310f0 332e4+1 9993+1 4b6a 2980f 2b5f2+1 2ccd1+1 2ea5e 31106+1",
   "332f1 9954+5 4b5d+3 297b6 297be+14 2cc9f+1 2ea51+4 322e0 332e6 2b5f4 2ccd3 995a+2 4275 4b61+3 297d3+10",
   "2b5dc+1 2ccd4 31108+1 332f2 4b65 297e4+8 2cca1 2ea56+1 332e7 332f3 995d 297ed+8 2ea58 322e1 3110a 995e+1",
   "4b66+1 297f6 2ea59+1 2b5f5 4b68 297f7+3 2cca2+1 9960+1 4b69 2cca4 297fb 9962 297fc 9995 297fd 9996 29810",
   "9997 29811+2 2ea5f 29814 3110b 29815+4 2b5f6 2ea60 3110c 4b6b+1 2981a+6 2ccd5+1 2ea61 29821+6 2b5f7",
   "2ccd7+1 2ea62+1 332f4 9998 29828+1 2b5f8 2ccd9 2ea64 3110d 332f5+1 4b6d 2982a+3 2ea65+1 322ed 4b6e 2982f",
   "29831 2b5f9 2ccda 29832 2b5fa 332f7 29833 332f8+1 29834 2ccdb 332fa 29835+2 2b5fb 29838+1 9999 2983a 332fb",
   "999a 2983b+2 2ccdc 3110e 999b+2 4b6f 2983e+3 29843+1 332fc 29842 29845+1 2b5fc+1 2ea67+1 999e+2 29847+1",
   "3110f 322ee 99a1+2 4b70+2 29849+2 2b5fe 2ccdd+1 2ea69+1 322ef+1 99a4+1 2984c+6 2b5ff 2ccdf+1 332fd+1",
   "99a6+1 29853+5 2cce1+2 2ea6b+1 322f1 2ee40 99a8 29859+3 2b600+1 2cce4+2 2ea6d 31110 332ff 99a9 2985d+4",
   "2b602 2cce7 2ea6e 33300 29862+1 2b603 2ea6f+1 99aa 29864 2ea71 322f2 255f6 33301 29865 99ab 4b73 29866",
   "33302 2b604 99ac 2b809 9a6c 29867+1 99ad+1 4b74 29869+6 2ea72 31111 9a6d 32304 33315 99af+6 4b75+1 29870+6",
   "2b605 2cce8 2ea73+3 9a6e+2 2b61b 3113c+3 2ee42 99b6+11 4b77+7 29877+7 29880+5 29887+5 2b606+3 2cce9+1",
   "2ea77+2 31112 322f3+1 2ee41 33303 9a71+3 299e6 2b61c+1 2ccf3 31140+2 2ee43+1 33316+1 99c8+18 4b7f+6 2987f",
   "29886 2988d+20 2ea7a+3 31113+4 322f5+1 33304 9a75+b 299e7+6 299ef 2b61e+1 2b80a 2ccf4+4 31143+5 32305",
   "2ee45 99e1+11 4b86+7 298ae+27 2b60a 2cceb 2ea7e+6 31118+4 322f7 33305+2 9a81+8 4bc3 299ee 299f0+6 2b620+1",
   "2ccf9+5 31149+9 2ee46 99f4+f 4b8e+4 298d6+16 29937 2ccec 2ea85+2 3111d+5 322f8+1 33308+2 9a8a+5 4bc4",
   "299f7+3 2b622+2 2ccff+1 2eaa1+1 31153+6 32306 2ee47+1 99f3 9a04+f 4b93+8 298ed+29 2991e 2b60b+3 2cced+2",
   "2ea88+4 31123 3330b+2 9a90+6 299fb+2 2b625+2 2cd01+1 3115a+1 32307+2 2ee49+2 9a14+14 4b9c+6 29917+6",
   "2991f+17 29938+4 2b60f+2 2ea8d+7 31124+4 322fa+2 3330e 9a97+4 299fe+5 29a05+5 2b628+1 2cd03+1 2eaa3",
   "3115c+3 9a29+f 4ba3+6 2993d+2d 2b612+4 2ea95 31129+4 322fd+1 9a9c+3 4bc5 29a04 29a0b+2 2b62a+2 2cd05 2eaa4",
   "31160+5 2ee4c+1 9a39+e 9fad 4baa+7 2996b+16 2ccf0 2ea96+3 3112e+3 322ff+1 3330f 9aa0+2 2b62d+1 2b80b",
   "2cd06+2 31166+3 2ee4e 9a48+d 4bb2+4 29982+1b 2b617 2ccf1 31132+2 32301+1 33310 9aa3 29a0e+1 2b62f 2cd09+1",
   "2eaa5 3116a+1 3230a+1 2ee4f+1 9a56+6 4bb7+2 2999e+17 2b618 2ea9a 31135+1 32303 33311 2b630 2b80c 2cd0b",
   "33318 9a5d+2 4bba+2 299b6+b 2b619 2ea9b 31137+1 9aa4 2cd0c 4bbd 299c2+c 2ea9c 31139+2 33312 29a10 2cd0d",
   "9a60+3 4bbe 299cf+4 2ea9d+1 9aa5 2cd0e 3116c 9a64+3 9fae 4bbf 299d4+3 2b61a 2ea9f 9aa6+1 2cd0f 9a68+1 4bc0",
   "299d8+6 2eaa0 2b631 2cd10 9a6a 4bc1 299df+1 33313 9a6b 299e1+1 33314 299e3+1 2ccf2 4bc2 299e5 9aa8 4bc6",
   "9aa9 4bc7 29a11+2 2eaa6 9aaa+4 29a14+7 9aaf+2 4bc8+1 29a1c+f 3230c 33319 9ab2+5 4bca+4 29a2c+10 2eaa7+1",
   "3230d 9ab8+4 4bcf+5 29a3d+b 2b632 2eaa9 3116d+2 3230e 9abd+1 4bd5+5 29a49+d 2cd11+1 2eaaa+2 9abf+2 4bdb+1",
   "29a57+15 2eaad+2 31170+2 3230f 3331a+1 9ac2+3 4bdd+3 29a6d+12 2b633+1 2eab0+1 32310 9ac6+6 4be1 29a80+8",
   "2eab2 9acd+2 4be2 29a89+d 2eab3+1 32311 9ad0 4be3 29a97+8 31173 3331c+1 9ad1+3 4be4 29aa0+b 2eab5 32312+2",
   "9ad5 4be5 29aac+5 9ad6 4be6 29ab2+4 2eab6 9ad7 29ab7+3 2cd13 2eab7 32315 29abb+3 9ad8+1 4be7 2b635 2cd14",
   "31174+2 32316 4be8 29abf+1 31177 9ada 4be9 29ac1+8 2cd15 2eab8 3331e 9adb 29aca+3 2b636 2eab9 31178+2",
   "29ace+6 2b637 2cd16+1 3117b+1 32317 29ad5+4 2cd18 3331f 9adc 29ada+3 2cd19+1 2eaba 4bea 29ade+6 2cd1b",
   "2eabb+1 33320+1 29ae5+1 2cd1c 9add 4beb 29ae7 2cd1d+2 9ade 29ae8+2 2cd20 3117d+1 32318+1 29aeb+1 2cd21",
   "4bec 29aed 2cd22 29aee+1 2cd23 29af0+2 2cd24+2 29af3 9adf 2b638 9ae0 4bed+1 29af4+4 9ae1+1 29af9+5 2b639+1",
   "3231a 9ae3+7 4bef+5 29aff+11 2b63b 2cd27 2eabd+2 9aeb+9 4bf5+1 29b11+1e 2b63c 2eac0+2 3117f 33322 9af5+6",
   "9b07 4bf7+1 29b30+16 2b63d 2cd28+1 2eac3+2 3231b 9afc+6 4bf9+3 29b47+16 2b63e+1 2cd2a 2eac6+2 31180+1",
   "3231c+2 9b03+3 9b08 4bfd+6 29b5e+1b 2b640+1 2cd2b+1 2eac9+3 3231f+1 33323+1 9b09+6 4c04+3 29b7a+1b 2b642",
   "2cd2d+1 2eacd+1 31182+2 33325+2 9b10+3 4c08+3 29b96+18 2eacf 31185 9b14+4 9b1d 4c0c+1 29baf+13 2b643 31186",
   "32321 9b19+3 4c0e 29bc3+17 2ead0+1 31187 32322 33328 9b1e+2 29bdb+a 2cd2f 2ead2 33329+2 9b21+1 4c0f+3",
   "29be6+9 9b23 4c13+1 29bf0+9 4c15 29bfa+6 2ead3 31188 32323 3332c 9b24 29c01+3 3332d 29c05+2 4c16 29c08+1",
   "9b25 29c0a+2 9b26 29c0d+2 9b27 29c10 9b28 29c11+1 9b29 29c13+1 2cd30 2ead4 9b2a 4c17 29c15 2ead5 4c18",
   "29c16+2 9b2b 29c19+2 9b2c+1 29c1c+2 31189 2cd31 9b2e 29c1f 9b2f 2ead6 3118a 29c20+3 32324 29c24+2 2ead7",
   "29c27 32325 29c28 32326 2ead8 3332e 9b30 29c29+1 9b31+1 2ead9 2cd32 29c2b+1 2cd33 4c19+1 29c2d+1 2b644",
   "4c1b 29c2f+1 2b645 2cd34 3118b+2 9b33 4c1c 29c31+7 2cd35 2ee51 9b34 29c39+4 2cd36 3118e 9b35+1 29c3e+4",
   "9b37 29c43+3 2cd37 9b38 29c47+4 9b39+1 29c4c+5 2b646 3118f+1 9b3b 4c1d 29c52+3 2cd38 29c56+d 2cd39 31191",
   "4c1e 2937b 29c64+1 2cd3a 2eada 31192 29c66+4 31193+1 29c6b+1 2eadb 29c6d+1 2b647 29c6f+4 2cd3b+1 29c74+2",
   "31195 29c77+1 9b3c 29c79+3 2b648 2cd3d 31196 9b3d 29c7d+c 2cd3e 2ee52 9b3e+4 4c1f 29c8a+16 2b649 2eadc+1",
   "31197+1 3332f+5 9b43+3 4c20+1 29ca1+18 32327+1 33335 9b47 4c22+1 29cba+11 2b64a 2cd3f 2eade+1 31199+1",
   "33336+1 9b48+1 29ccc+15 2b64b 2cd40 2eae0 3119b 32329 33338+2 9b4a+5 4c24+3 29ce2+12 2b64c+1 2eae1+2",
   "3119c+1 3232a+4 3333b 4c28+1 29cf5+10 2eae4 3119e+1 3333c+2 9b50 4c2a 29d06+9 2eae5+1 3232f 3333f 9b51+3",
   "29d10+b 2eae7 33340 9b55+1 4c2b+2 29d1c+11 2b64e 33341+2 4c2e 29d2e+2 2eae8 9b57+2 4c2f+1 29d31+8 311a0+1",
   "32330 33344 29d3a+5 2eae9 29d40+3 2eaea 29d44+4 2eaeb 29d49+1 4c31 311a2 9b5a 242f3 29d4b 2eaec+3 9c7c",
   "4c32 311cd 9b5b+3 4c33 29d4c+7 2b64f 2cd41+1 311a3 9c7d 2cd80+1 311ce 32346 33391 9b5f+3 4c34+2 29d54+b",
   "29db7 2b650 2cd43+1 2eaf0 311a4 9c7e 2b688+2 2cd82+2 311cf 32347+1 9b63+16 4c37+7 29d60+20 2b651+1 2cd45+1",
   "2eaf1+1 311a5+3 32331+1 33345+1 9c7f+4 9fd5 4c9d 29f79+2 2b68b+2 2b80f 2cd85+4 2eb1b 311d0+9 32349+2 2ee53",
   "33392+2 9b7a+1e 9ba3 4c3f+a 29d81+1f 29f80 2b653+4 2cd47+5 2eaf3+1 311a9+2 32333 33347+3 9c84+c 9ff4",
   "4c9e+1 2b68e+4 2b810 2cd8a+3 311da+a 3234c+1 33395 9b99+9 9ba4+10 9bba 4c4a+4 29da1+15 29db8+14 2b658+7",
   "2cd4d+4 2eaf5+3 311ac 32334 3334b+3 9c91+e 29f7c+3 2b693+5 2cd8e+2 2eb1c+1 311e5+6 3234e+3 33396 9bb5+4",
   "9bbb+18 9bfd 4c4f+9 29dcd+29 29f89 2b660+3 2cd52+4 2eaf9+4 311ad+5 32335+2 3334f+8 9ca0+c 9ff5+1 29f81+3",
   "2b699+2 2cd91+4 2eb1e 311ec+8 32352+2 33397+2 9bd4+21 9bfb 4c59+11 29df7+46 2b664+3 2cd57+4 2eafe+1",
   "311b3+1 32338+2 33358+5 9cad+e 29f85+3 2b69c+5 2cd96+1 2cd99+4 2eb1f+1 311f5+c 32355 3339a+2 9bf6+4 9bfc",
   "9bfe+1d 9c20 4c6b+9 29e3e+32 2b668+2 2cd5c+3 2eb00+5 311b5+4 3233b+1 3335e+a 9cbc+1 9cbf+c 9ff7 4ca0+1",
   "29f8a+1 2b6a2+3 2b811 2cd98 2cd9e+a 31202+6 32356+1 3339d+1 9c1c+3 9c21+f 9fd0 4c75+8 29e71+3b 2b66b+4",
   "2b80d 2cd60+3 2eb06+4 311ba+2 33369+7 9cbe 9ccc+6 4ca2+2 2b6a6 2cda9+1 2eb21+1 31209+5 3339f+2 9c31+17",
   "9de0 9ff3 4c7e+a 29ead+2a 2b670+6 2cd64+5 2eb0b+2 311bd+1 3233d+3 33371+a 9cd3+8 9ff8+1 29f8c 2b6a7+1",
   "2b812 2cdab+2 2eb23 3120f+2 32358 333a2+1 9c49+12 4c89+6 29ed8+29 2b677+5 2cd6a+3 2eb0e+4 311bf+2 3337c+3",
   "9cdc+3 2b6a9+1 2cdae+6 31212+3 32359 9c5c+b 9c69+2 4c90+5 29f02+22 29f8d 2b67d+4 2b80e 2cd6e+3 2eb13+1",
   "311c2 32341+1 33380+3 9ce0+3 2b6ab 2cdb5+1 31216 9c68 9c6c+4 4c96+2 29f25+15 2b682+1 2cd72+3 2eb15 311c3",
   "33384+2 9ce4 2b6ac 2cdb7 31217+1 9c71+5 4c99 29f3b+11 2b684 2cd76 2eb16 311c4+3 32343 33387+4 29f8e 2b6ad",
   "2cdb8 2eb24 31219 9c77+1 4c9a+1 29f4d+c 2cd77+2 2eb17+1 311c8 3338c+1 2cdb9 3121a+2 333a4 29f5a+c 2b685",
   "2cd7a 2eb19+1 311c9 32344 3338e+2 333a5 9c79 9fe9 29f67+8 2cd7b+1 2cdba 9c7a 29f70+2 2b686 2cd7d+1 311ca",
   "32345 29f73+5 2b687 2cd7f 2cdbb 9c7b 311cb+1 4c9c 9ce5 2b813 9e1f 9ce6 29f8f+2 2b6ae 2cdfb 31247 9ce7+9",
   "4ca5 29f92+a 2cdbc 2eb25 3121d 9e20+1 2cdfc+1 31248+1 33400 9cf1+5 4ca6+5 29f9d+12 2cdbd+2 2eb26+4 3235a",
   "9e22+2 2cdfe 3124a+2 3236b+1 33401 9cf7+12 9d0b+3 4cac+c 29fb0+2b 2b6af+3 2cdc0+4 2eb2b+4 3121e+1 3235b+1",
   "333a6+4 9e25+4 4d13 2a241+2 2b6da+4 2b816 2cdff+1 2eb61+2 3124d+7 3236d+1 2ee54 33402+2 9d0a 9d0f+1d",
   "4cb9+11 29fdc+35 2b6b3+4 2b814 2cdc5+7 2eb30+2 31220+5 3235d+1 333ab+4 9e2a+c 2a244 2b6df+5 2ce01+6 2eb64",
   "31255+d 3236f+3 2ee55 33405+1 9d2d+1c 4ccb+9 2a012+37 2b6b8+3 2cdcd+5 2eb33+5 31226+1 333b0+7 9e37+8",
   "4d14+1 2a245+6 2b6e5+5 2ce08+4 2eb65 31263+10 32373+3 33407+2 9d4a+19 9d65 4cd5+7 2a04a+2c 2b6bc+4 2cdd3+1",
   "2cdd6+5 2eb39+2 31228+4 3235f+3 333b8+3 9e40+8 9ffa 2a24c+1 2b6eb+4 2cdd5 2ce0d+4 2eb66+1 31274+b 32377+5",
   "3340a+1 9d66+29 9d91 4cdd+8 2a077+3e 2b6c1+7 2cddc+5 2eb3c+7 3122d+3 333bc+f 9e49+b 4d16 2a24e 2b6f0+5",
   "2ce12+5 31280+e 3237d+2 2ee56+1 3340c+1 9d90 9d92+19 4ce6+a 2a0b6+43 2b6c9+2 2cde2+5 2eb44+3 31231+2 32363",
   "333cc+a 9e55+2 9e59+3 4d17 2a24f+1 2b6f6+6 2ce18+7 3128f+9 32380 3340e+2 9dac+1e 9dcc+3 4cf1+5 2a0fa+32",
   "2b6cc+3 2cde8+5 2eb48+7 31234+4 32364 333d7+7 9e58 9e5d+7 4d18 2a251+3 2b6fd+1 2ce20+3 2eb68+1 31299+6",
   "32381+1 2ee58 33411 9dcb 9dd0+f 4cf7+6 2a12d+41 2b6d0 2b815 2cdee+2 2eb50+5 31239 32365 333df+5 9e65+3",
   "2b6ff+3 2ce24+2 2eb6a 312a0+5 32383+1 2ee59+1 9de1+17 9dfa+2 4cfe+8 2a16f+3c 2a1ad 2b6d1+4 2cdf1+2 2eb56",
   "3123a+3 32366 333e5+9 9e69+3 2b703+1 2ce27+4 312a6+3 32385+1 33412+3 9df9 9dfd+d 4d07+4 2a1ac 2a1ae+22",
   "2b6d6 2cdf4+2 2eb57+1 3123e+4 32367 333ef+7 9e6d+3 4d19 2b705 2ce2c+3 312aa+6 32387 33416 9e0b+7 4d0c+1",
   "2a1d1+c 2a1df+d 2b6d7 2cdf7 2eb59+1 31243 333f7+3 9e71+1 2b706 312b1 32388 9e13+1 4d0e 2a1ed+15 2b6d8",
   "2cdf8 2eb5b+1 31244 32368+1 333fb+1 2a255 312b2+1 2ee5b 9e15+2 4d0f 2a203+14 2cdf9 2eb5d+1 31245+1 2ce30",
   "312b4 32389 2ee5c 9e18+2 2a218+c 333fd+2 9e73+1 312b5 9e1b+1 2a225+8 2eb5f 3236a 2ce31 9e1d+1 275a0",
   "2a22e+5 2b6d9 4d10 29594 2a234+3 2cdfa 2a238+5 2eb60 4d11+1 2a23e+2 9e75 209f8 2a256+1 312ba 9e76 4d1a",
   "2a258+3 2ce32 312b6 33417 2eb70 9e77 2a25c+5 2eb6b 312b7 2ce35 2a262 2b707 312b8 3238a 4d1b 2a263+2 2b708",
   "2ce33 2eb6c 312b9 33418 312bb 3341c 9e78 2a266+6 2eb6d+1 33419 2b817 2ce36 9e79 2a26d+7 2b709 2eb6f 9e7e",
   "2b70a 2ce37+1 3341d 9e7a+1 4d1c 2a275+9 3341a 2ce39 3341e 4d1d 2a27f+3 312bc 9e7c+1 2a283+2 2ce34 3341b",
   "4d1e 2a286+3 312bd 2a28a 9e7f 22256 2eb71 2ce3a 9e80+2 2a28b+1 2b70b 4d1f 2a28d+1 2eb72 9e83+1 4d20+2",
   "2a28f+b 2b70c 2ce3b 3238b 3341f+2 9e85+3 4d23+2 2a29b+9 2ce3c 2eb73 33422+2 9e89+2 2a2a5+e 2b70d 2ce3d+1",
   "2eb74 33425+5 9e8c+4 4d26 2a2b4+f 2b70e 2eb75 312be+1 3342b+6 9e91+6 4d27 2a2c4+9 2ce3f 2eb76+1 3238c",
   "33432+4 9e98+3 2a2ce+8 2eb78 33437+3 9e9c+1 4d28 2a2d7+4 2ce40 2eb79+1 3343b+3 9e9e 4d29 2a2dc+4 2ce41",
   "312c0+1 3238d 3343f+4 9e9f 2a2e1+8 2b70f 9ea0 4d2a+1 2a2ea+3 9ea1 2a2ee+7 3238e 9ea2 2a2f6+1 312c2 2a2f8",
   "9ea3 2a2f9 9ea4 2a2fa 33444 2a2fb 9ea5 3238f 9ea6 2a2fc+4 2a38d 2eb83 312c4+1 9ea7 4d2c+2 2a301+3 2a388",
   "2ce45 312c6+2 9ea8+3 4d2f+1 2a305+e 9eb8 2a389+1 2b711 2eb84+1 312c9 9eac+2 4d31+3 2a314+6 2a31c+5 2eb7b",
   "33445 2a38b 2b712 2eb86 312ca+5 9eaf+1 4d35 2a322+a 2ce42 2ce46 2eb87 312d0+5 9eb1+1 4d36+2 2a32d+e 2a38c",
   "2b713 2ce47+2 312d6+2 9eb3+1 4d39+4 2a33c+f 2b710 2ce43 2eb7c+1 312c3 33446 9eb9 2a38e+1 2b714 2ce4a+2",
   "312d9+4 32391+1 9eb5 2a34c+e 2eb7e 9eba 312de+7 4d3e+2 2a35b+7 2eb7f+1 2b715 312e6+1 9eb6 4d41+1 4d45",
   "2a363+e 2eb81 32390 2a390 2ce4d 312e8+2 32393 4d43 2a372+5 2ce44 2ce4e 312eb+1 33447 4d44 2a378+6 4d46",
   "312ed+1 2a37f+6 2eb82 9eb7 2a386+1 9ebb 2a391 9ebc+1 2a392+2 9ebe 4d47 2a395+5 2eb88+2 2a39b+7 2b716 9ebf",
   "2a3a3+1 2ce4f 2eb8b 312ef 32394 9ec0 2a3a5+2 2b717 312f0 9ec1 4d48+1 2a3a8+1 312f1 2a3aa+5 2eb8c 9ec2",
   "2a3b0+1 2eb8d 2a3b2 2eb8e 9ec3+1 2a3b3 32395 2a3b4 2ce50 9ec5+1 4d4a 2a3b5+4 2b718 9ec7+2 2a3ba 2eb8f",
   "312f2 9eca+1 4d4b 2a3bb+6 4d4c 2a3c2+3 2ce51 312f3 4d4d 2a3c6+c 312f4 4d4e 2a3d3+b 2ce52 4d4f 2a3df+4",
   "2ce53 4d50 2a3e4+2 9ecc 2a3e7+5 9ecd 2eb90+1 2a3ed 9ece 4d51 2a3ee+1 2c4f8 4d52+1 2a3f0+5 2ce54 33448 9ecf",
   "2a3f6+a 2eb92 2a401 4d54+2 2a402+4 312f5 33449 4d57+2 2a407+3 9ed0 4d5a 2a40b 4d5b 2a40c+3 3344a 2a410",
   "4d5c 2a412 2eb93 2a411 2a413+3 9ed1+1 2a417 4d5d 2a418 4d5e 2a419+2 58a8 9ed3 4d5f+1 2a41c+7 9ed4+4 4d61",
   "2a424+d 2eb94+1 9eda+4 4d62+1 2a432+c 2eb96 312f6 3344b+2 9edf+2 4d64+3 2a43f+8 2ce55+1 2eb97+1 9ee2+1",
   "4d68+1 2259b 2a448+9 2ce57 312f7+1 9ee4+6 4d6a+2 2a452+10 2a464 2b719+1 2eb99+2 32396 9eeb+4 4d6d+2 2a463",
   "2a465+18 2b71b 2ce58 2eb9c 9ef0+1 2a47e+10 2ce59+1 3344e 9ef2+2 4d70 2a48f+8 2eb9d 312f9 4d71 2a498+10",
   "312fa 9ef5 4d72+2 2a4a9+a 3344f+1 9ef6 4d75 2a4b4+4 2eb9e 9ef7 2a4b9+5 2ce5b 2eb9f 9ef8 2a4bf+7 32397+1",
   "2a4c7+3 9ef9 2eba0 9efa 2b71c 9efb 33451 2a4cb 9efc 2a4cc+4 2ce5c 9efd+1 2a4d1+2 2ce5d 2eba1 2ce5e 9eff",
   "2a4d4+5 2eba2 9f0b 9f00+2 4d76 2a4da+6 2ce5f 9f0c 312fe+4 33452 9f03+1 4d77 2a4e1+5 2b71d 2eba3 2ce63",
   "31303 2a4e7+4 2ce60+1 2eba4 312fb+1 9f05 2a4ec+1 2ce62 2ce64 31304+1 4d78 2a4ee+8 312fd 2b71f 9f06+1",
   "2a4f7+1 31306 4d79 2a4f9 31307+1 9f08+1 2a4fa 2a4fd 2b71e 9f0d 9f0a 2a4fc 2a4fe 31309 2a4ff+2 9f0e 2a502",
   "9f0f+2 2a503 9f12 4d7a 2a504+2 2b720 2ce65 2eba5 2a507 2ce66+2 32399 2a508 2ce69 2a509 2b721 2ce6a 4d7b+1",
   "2ce6b 33453 2a50a 2ce6c 9f13+1 21537 2eba6 2a50b+1 214a1 2a50d+2 3130a 9f15+1 4d7d+2 2a510+3 2eba7 3130b",
   "9f17 4d80 2a514+7 2eba8 2a51c+5 2eba9 3239a+1 33454 9f18+3 4d81 2a522+3 3239c 2a526+7 9f1c 2a52e 9f1d+1",
   "2a52f+3 3130c 9f1f 2503b 2a1de 2a533+1 2ebaa+1 2503c 2a535+1 2503d 2a537 2503e 9f20+1 2b722 2a538+1 4d82",
   "2a53a+2 3130d 9f22+2 4d83 2a53d+b 2ebac 3239d 33455 9f25+7 9ffb+1 4d84 2a549+8 2ce6d 2ebad 33456 2b818",
   "9f2d 4d85 2a552+7 2a55f 3130e+1 33457+3 9f2e+2 2a55a+4 2a560+7 3239e 3345b+1 9f31 4d86 2a568+2 2ce6e 2ebae",
   "3345d+1 9f32+3 4d87 2a56b+9 3239f 3345f+5 9f36+3 4d88+1 2a575+9 323a0 2a580+4 33465 2a585+4 2b723 2ebaf",
   "31310 2a58a+1 9f3a 2a58c+3 9f3b 2ebb0+5 2a590 9f3c+1 2a591+1 31311+1 9f3e+1 2a593+1 2ebb6 4d8a+1 2a595+4",
   "2b724 31313 9f40+1 4d8c 2a59a+6 31314 4d8d+1 2a5a1+3 2ce6f 2ebb7 31315+1 4d8f 2a5a5+7 9f42 2a5ad+1 2ce70",
   "33466 9f43+1 2a5af+3 9f45+1 2a57f 2a5b3+2 323a1 33467 9f47 2a5b6+7 2ebb8 9f48 4d90 2a5be+2 4d91 2a5c1+1",
   "2ebb9 2a5c3 9f49+1 2a5c4 2ce71 2ebba+2 9f50 2a5c5 9f4b 4d92+1 2a5c6 9f4c 2019c 2a5c7+1 2ce73 31317 9f4d",
   "2a5c9+1 2ce72 31318 2a5cb+1 31319 9f4e 2a5ce 2a5cd 33468 9f4f 9f51 2a5cf+4 9f52 2398b 2ebbd 9f7f 9f53+1",
   "2a5d4+3 9f80 2ebbe 9f55 4d94 2a5d8+2 2ebbf 9f81 31329 3346e 9f56+2 4d95+1 2a5db+9 2b819 2ebc0+1 3131a+2",
   "9f82 2b728 2ce7a+3 3132a 323a7 9f59+8 9f63 4d97+2 2039c 2a5e5+b 2a5f2+4 2ebc2 3131d 33469 9f83+3 2ce7e+2",
   "2ebd9 3132b+4 9f62 2a5f1 2b81a 2ce74 2ebc3 9f64+5 4d9a+1 2a5f7+a 2a603+a 2b725 2ce75+2 2ebc4 2ebc6 3346a",
   "9f87+1 2a68f 2b729+1 2ce81+4 31330+3 323a8 3346f 2a602 2ebc5 9f6a+2 4d9c+1 2a60e+b 2a61b+9 2b726 3131e",
   "323a2 3346b+1 9f89+1 2b72b 2ce86+1 31334+1 33470 2a61a 2ebc7 9f6d+4 4d9e+1 2a625+13 2ebc9+1 323a3 2a690",
   "2b72c+1 2b81c 2ce88+4 31336+2 323a9 2ebc8 33472 9f72+5 4da0+2 2a639+f 2b81b 2ebcd 3131f+2 9f8b+1 2b72e",
   "2ce8d+1 31339 2ebcb+1 2ebce 9f78+3 4da3+1 2a649+10 2ebcf+1 31322+1 2b72f 2ce8f+2 3133a+3 33471 4da5+1",
   "2a65a+8 2ebd1+2 31324 323a4+2 2ce92 4da7 2a663+c 2b727 2ce78 2ebd4+2 31325 3346d 323aa 9f7c+1 4da8 2a670+5",
   "2ebd7 31326 2b730 2ce93+1 4da9+1 2a676 31327 2ce95 2a677+9 2ce79 31328 323ab 2a681+3 2ebd8 2ce96 2a685+4",
   "9f7e 4dab 2a68a+4 9f8d 33473 9f99 9f8e+1 2a691+3 2ce9b 31341 2ce97+1 9f91 2a695+3 2a69a+1 33474 4dad+1",
   "2ce9c 33479 9f92 2a699 3133e 31342 323ac 9f93+2 4dac 2a69c+3 2ebda 3133f 9f9a+1 2b732 2a6a0+1 2b731 2ce99",
   "33475 2ce9a 33477 2a6a2 31340 323ad 33478 2ee5d 2a6a3+1 33476 2ce9d 9f96+2 2a6a5 9f9c 2a6a6 2a6c9 2ebdb+4",
   "9f9f 2ce9e 2a6a8 4daf 2a6a9+1 31343 4db0 2a6ab+6 2a6b3+2 31344+2 323ae 2a6b2 9f9d 4db1+1 2a6a7 2a6b6+7",
   "2b733 31347 2a6be+2 2a4fb 2a6c1+3 31348 9f9e 2a6c5+1 2b81d 2a6c7+1 9fa0+1 4db3 2a6ca 2ce9f 9fa2 31349 9fa3",
   "4db4 2a6cb+2 2cea0 2ebe0 3134a 9fa4+1 2a6ce+3 323af 4db5 2a6d2+1 2b734 2cea1 2a6d4+2"]

end EnquiryMail.Text
