import InAppMessaging.Text.Unicode.Runs

/-!
# Scripts

The script a character belongs to, by the four letters of its code, and the scripts it is
used with, which are several for characters shared between writing systems.
-/

namespace InAppMessaging.Text.Unicode

/-- The scripts of all characters in their order. -/
def scriptRuns : Runs := Runs.ofLines
  ["65Zyyy26Latn6Zyyy26Latn47Zyyy1Latn15Zyyy1Latn5Zyyy23Latn1Zyyy31Latn1Zyyy449Latn39Zyyy5Latn5",
   "Zyyy2Bopo20Zyyy112Zinh4Grek1Zyyy3Grek2Zzzz4Grek1Zyyy1Grek4Zzzz1Grek1Zyyy1Grek1Zyyy3Grek1Zzz",
   "z1Grek1Zzzz20Grek1Zzzz63Grek14Copt16Grek133Cyrl2Zinh169Cyrl1Zzzz38Armn2Zzzz50Armn2Zzzz3Armn",
   "1Zzzz55Hebr8Zzzz27Hebr4Zzzz6Hebr11Zzzz5Arab1Zyyy6Arab1Zyyy14Arab1Zyyy3Arab1Zyyy32Arab1Zyyy1",
   "0Arab11Zinh26Arab1Zinh108Arab1Zyyy34Arab14Syrc1Zzzz60Syrc2Zzzz3Syrc48Arab50Thaa14Zzzz59Nkoo",
   "2Zzzz3Nkoo46Samr2Zzzz15Samr1Zzzz28Mand2Zzzz1Mand1Zzzz11Syrc5Zzzz31Arab1Zzzz2Arab5Zzzz75Arab",
   "1Zyyy29Arab81Deva4Zinh15Deva2Zyyy26Deva4Beng1Zzzz8Beng2Zzzz2Beng2Zzzz22Beng1Zzzz7Beng1Zzzz1",
   "Beng3Zzzz4Beng2Zzzz9Beng2Zzzz2Beng2Zzzz4Beng8Zzzz1Beng4Zzzz2Beng1Zzzz5Beng2Zzzz25Beng2Zzzz3",
   "Guru1Zzzz6Guru4Zzzz2Guru2Zzzz22Guru1Zzzz7Guru1Zzzz2Guru1Zzzz2Guru1Zzzz2Guru2Zzzz1Guru1Zzzz5",
   "Guru4Zzzz2Guru2Zzzz3Guru3Zzzz1Guru7Zzzz4Guru1Zzzz1Guru7Zzzz17Guru10Zzzz3Gujr1Zzzz9Gujr1Zzzz",
   "3Gujr1Zzzz22Gujr1Zzzz7Gujr1Zzzz2Gujr1Zzzz5Gujr2Zzzz10Gujr1Zzzz3Gujr1Zzzz3Gujr2Zzzz1Gujr15Zz",
   "zz4Gujr2Zzzz12Gujr7Zzzz7Gujr1Zzzz3Orya1Zzzz8Orya2Zzzz2Orya2Zzzz22Orya1Zzzz7Orya1Zzzz2Orya1Z",
   "zzz5Orya2Zzzz9Orya2Zzzz2Orya2Zzzz3Orya7Zzzz3Orya4Zzzz2Orya1Zzzz5Orya2Zzzz18Orya10Zzzz2Taml1",
   "Zzzz6Taml3Zzzz3Taml1Zzzz4Taml3Zzzz2Taml1Zzzz1Taml1Zzzz2Taml3Zzzz2Taml3Zzzz3Taml3Zzzz12Taml4",
   "Zzzz5Taml3Zzzz3Taml1Zzzz4Taml2Zzzz1Taml6Zzzz1Taml14Zzzz21Taml5Zzzz13Telu1Zzzz3Telu1Zzzz23Te",
   "lu1Zzzz16Telu2Zzzz9Telu1Zzzz3Telu1Zzzz4Telu7Zzzz2Telu1Zzzz3Telu2Zzzz1Telu2Zzzz4Telu2Zzzz10T",
   "elu7Zzzz9Telu13Knda1Zzzz3Knda1Zzzz23Knda1Zzzz10Knda1Zzzz5Knda2Zzzz9Knda1Zzzz3Knda1Zzzz4Knda",
   "7Zzzz2Knda6Zzzz2Knda1Zzzz4Knda2Zzzz10Knda1Zzzz3Knda12Zzzz13Mlym1Zzzz3Mlym1Zzzz51Mlym1Zzzz3M",
   "lym1Zzzz6Mlym4Zzzz16Mlym2Zzzz26Mlym1Zzzz3Sinh1Zzzz18Sinh3Zzzz24Sinh1Zzzz9Sinh1Zzzz1Sinh2Zzz",
   "z7Sinh3Zzzz1Sinh4Zzzz6Sinh1Zzzz1Sinh1Zzzz8Sinh6Zzzz10Sinh2Zzzz3Sinh12Zzzz58Thai4Zzzz1Zyyy28",
   "Thai37Zzzz2Laoo1Zzzz1Laoo1Zzzz5Laoo1Zzzz24Laoo1Zzzz1Laoo1Zzzz23Laoo2Zzzz5Laoo1Zzzz1Laoo1Zzz",
   "z7Laoo1Zzzz10Laoo2Zzzz4Laoo32Zzzz72Tibt1Zzzz36Tibt4Zzzz39Tibt1Zzzz36Tibt1Zzzz15Tibt1Zzzz7Ti",
   "bt4Zyyy2Tibt37Zzzz160Mymr38Geor1Zzzz1Geor5Zzzz1Geor2Zzzz43Geor1Zyyy4Geor256Hang73Ethi1Zzzz4",
   "Ethi2Zzzz7Ethi1Zzzz1Ethi1Zzzz4Ethi2Zzzz41Ethi1Zzzz4Ethi2Zzzz33Ethi1Zzzz4Ethi2Zzzz7Ethi1Zzzz",
   "1Ethi1Zzzz4Ethi2Zzzz15Ethi1Zzzz57Ethi1Zzzz4Ethi2Zzzz67Ethi2Zzzz32Ethi3Zzzz26Ethi6Zzzz86Cher",
   "2Zzzz6Cher2Zzzz640Cans29Ogam3Zzzz75Runr3Zyyy11Runr7Zzzz22Tglg9Zzzz1Tglg21Hano2Zyyy9Zzzz20Bu",
   "hd12Zzzz13Tagb1Zzzz3Tagb1Zzzz2Tagb12Zzzz94Khmr2Zzzz10Khmr6Zzzz10Khmr6Zzzz2Mong2Zyyy1Mong1Zy",
   "yy20Mong6Zzzz89Mong7Zzzz43Mong5Zzzz70Cans10Zzzz31Limb1Zzzz12Limb4Zzzz12Limb4Zzzz1Limb3Zzzz1",
   "2Limb30Tale2Zzzz5Tale11Zzzz44Talu4Zzzz26Talu6Zzzz11Talu3Zzzz2Talu32Khmr28Bugi2Zzzz2Bugi63La",
   "na1Zzzz29Lana2Zzzz11Lana6Zzzz10Lana6Zzzz14Lana2Zzzz31Zinh49Zzzz77Bali1Zzzz50Bali64Sund52Bat",
   "k8Zzzz4Batk56Lepc3Zzzz15Lepc3Zzzz3Lepc48Olck11Cyrl5Zzzz43Geor2Zzzz3Geor8Sund8Zzzz3Zinh1Zyyy",
   "13Zinh1Zyyy7Zinh4Zyyy1Zinh6Zyyy1Zinh3Zyyy2Zinh1Zyyy5Zzzz38Latn5Grek1Cyrl49Latn5Grek4Latn5Gr",
   "ek13Latn1Cyrl70Latn1Grek64Zinh256Latn22Grek2Zzzz6Grek2Zzzz38Grek2Zzzz6Grek2Zzzz8Grek1Zzzz1G",
   "rek1Zzzz1Grek1Zzzz1Grek1Zzzz31Grek2Zzzz53Grek1Zzzz15Grek1Zzzz14Grek2Zzzz6Grek1Zzzz19Grek2Zz",
   "zz3Grek1Zzzz9Grek1Zzzz12Zyyy2Zinh87Zyyy1Zzzz11Zyyy1Latn2Zzzz11Zyyy1Latn15Zyyy1Zzzz13Latn3Zz",
   "zz33Zyyy15Zzzz33Zinh15Zzzz38Zyyy1Grek3Zyyy2Latn6Zyyy1Latn27Zyyy1Latn17Zyyy41Latn3Zyyy4Zzzz6",
   "66Zyyy22Zzzz11Zyyy21Zzzz928Zyyy256Brai628Zyyy2Zzzz32Zyyy1Zzzz105Zyyy96Glag32Latn116Copt5Zzz",
   "z7Copt38Geor1Zzzz1Geor5Zzzz1Geor2Zzzz56Tfng7Zzzz2Tfng14Zzzz1Tfng23Ethi9Zzzz7Ethi1Zzzz7Ethi1",
   "Zzzz7Ethi1Zzzz7Ethi1Zzzz7Ethi1Zzzz7Ethi1Zzzz7Ethi1Zzzz7Ethi1Zzzz32Cyrl94Zyyy34Zzzz26Hani1Zz",
   "zz89Hani12Zzzz214Hani26Zzzz21Zyyy1Hani1Zyyy1Hani25Zyyy9Hani4Zinh2Hang8Zyyy4Hani4Zyyy1Zzzz86",
   "Hira2Zzzz2Zinh2Zyyy3Hira1Zyyy90Kana2Zyyy3Kana5Zzzz43Bopo1Zzzz94Hang1Zzzz16Zyyy32Bopo38Zyyy9",
   "Zzzz1Zyyy16Kana31Hang1Zzzz64Zyyy31Hang81Zyyy47Kana1Zyyy88Kana168Zyyy6592Hani64Zyyy20992Hani",
   "1165Yiii3Zzzz55Yiii9Zzzz48Lisu300Vaii20Zzzz96Cyrl88Bamu8Zzzz34Zyyy102Latn3Zyyy67Latn2Zzzz2L",
   "atn1Zzzz1Latn1Zzzz8Latn21Zzzz14Latn45Sylo3Zzzz10Zyyy6Zzzz56Phag8Zzzz70Saur8Zzzz12Saur6Zzzz3",
   "2Deva46Kali1Zyyy1Kali36Rjng11Zzzz1Rjng29Hang3Zzzz78Java1Zzzz1Zyyy10Java4Zzzz2Java31Mymr1Zzz",
   "z55Cham9Zzzz14Cham2Zzzz10Cham2Zzzz4Cham32Mymr67Tavt24Zzzz5Tavt23Mtei10Zzzz6Ethi2Zzzz6Ethi2Z",
   "zzz6Ethi9Zzzz7Ethi1Zzzz7Ethi1Zzzz43Latn1Zyyy9Latn1Grek4Latn2Zyyy4Zzzz80Cher46Mtei2Zzzz10Mte",
   "i6Zzzz11172Hang12Zzzz23Hang4Zzzz49Hang8452Zzzz366Hani2Zzzz106Hani38Zzzz7Latn12Zzzz5Armn5Zzz",
   "z26Hebr1Zzzz5Hebr1Zzzz1Hebr1Zzzz2Hebr1Zzzz2Hebr1Zzzz10Hebr115Arab16Zzzz363Arab2Zyyy80Arab2Z",
   "zzz54Arab7Zzzz1Arab32Zzzz16Arab16Zinh10Zyyy6Zzzz14Zinh2Cyrl35Zyyy1Zzzz19Zyyy1Zzzz4Zyyy4Zzzz",
   "5Arab1Zzzz135Arab2Zzzz1Zyyy1Zzzz32Zyyy26Latn6Zyyy26Latn11Zyyy10Kana1Zyyy45Kana2Zyyy31Hang3Z",
   "zzz6Hang2Zzzz6Hang2Zzzz6Hang2Zzzz3Hang3Zzzz7Zyyy1Zzzz7Zyyy10Zzzz5Zyyy2Zzzz12Linb1Zzzz26Linb",
   "1Zzzz19Linb1Zzzz2Linb1Zzzz15Linb2Zzzz14Linb34Zzzz123Linb5Zzzz3Zyyy4Zzzz45Zyyy3Zzzz9Zyyy79Gr",
   "ek1Zzzz13Zyyy3Zzzz1Grek47Zzzz45Zyyy1Zinh130Zzzz29Lyci3Zzzz49Cari15Zzzz1Zinh27Zyyy4Zzzz36Ita",
   "l9Zzzz3Ital27Goth5Zzzz43Perm5Zzzz30Ugar1Zzzz1Ugar36Xpeo4Zzzz14Xpeo42Zzzz80Dsrt48Shaw30Osma2",
   "Zzzz10Osma6Zzzz36Osge4Zzzz36Osge4Zzzz40Elba8Zzzz52Aghb11Zzzz1Aghb11Vith1Zzzz15Vith1Zzzz7Vit",
   "h1Zzzz2Vith1Zzzz11Vith1Zzzz15Vith1Zzzz7Vith1Zzzz2Vith3Zzzz52Todr12Zzzz311Lina9Zzzz22Lina10Z",
   "zzz8Lina24Zzzz6Latn1Zzzz42Latn1Zzzz9Latn69Zzzz6Cprt2Zzzz1Cprt1Zzzz44Cprt1Zzzz2Cprt3Zzzz1Cpr",
   "t2Zzzz1Cprt22Armi1Zzzz9Armi32Palm31Nbat8Zzzz9Nbat48Zzzz19Hatr1Zzzz2Hatr5Zzzz5Hatr28Phnx3Zzz",
   "z1Phnx26Lydi5Zzzz1Lydi64Zzzz32Mero24Merc4Zzzz20Merc2Zzzz46Merc4Khar1Zzzz2Khar5Zzzz8Khar1Zzz",
   "z3Khar1Zzzz29Khar2Zzzz3Khar4Zzzz10Khar7Zzzz9Khar7Zzzz32Sarb32Narb32Zzzz39Mani4Zzzz12Mani9Zz",
   "zz54Avst3Zzzz7Avst22Prti2Zzzz8Prti19Phli5Zzzz8Phli18Phlp7Zzzz4Phlp12Zzzz7Phlp80Zzzz73Orkh55",
   "Zzzz51Hung13Zzzz51Hung7Zzzz6Hung40Rohg8Zzzz10Rohg6Zzzz38Gara3Zzzz29Gara8Zzzz2Gara208Zzzz31A",
   "rab1Zzzz42Yezi1Zzzz3Yezi2Zzzz2Yezi16Zzzz3Arab55Zzzz4Arab40Sogo8Zzzz42Sogd22Zzzz26Ougr38Zzzz",
   "28Chrs20Zzzz23Elym9Zzzz78Brah4Zzzz36Brah9Zzzz1Brah67Kthi10Zzzz1Kthi2Zzzz25Sora7Zzzz10Sora6Z",
   "zzz53Cakm1Zzzz18Cakm8Zzzz39Mahj9Zzzz96Shrd1Zzzz20Sinh11Zzzz18Khoj1Zzzz47Khoj62Zzzz7Mult1Zzz",
   "z1Mult1Zzzz4Mult1Zzzz15Mult1Zzzz11Mult6Zzzz59Sind5Zzzz10Sind6Zzzz4Gran1Zzzz8Gran2Zzzz2Gran2",
   "Zzzz22Gran1Zzzz7Gran1Zzzz2Gran1Zzzz5Gran1Zzzz1Zinh9Gran2Zzzz2Gran2Zzzz3Gran2Zzzz1Gran6Zzzz1",
   "Gran5Zzzz7Gran2Zzzz7Gran3Zzzz5Gran11Zzzz10Tutg1Zzzz1Tutg2Zzzz1Tutg1Zzzz38Tutg1Zzzz10Tutg1Zz",
   "zz1Tutg2Zzzz1Tutg1Zzzz4Tutg1Zzzz10Tutg1Zzzz2Tutg8Zzzz2Tutg29Zzzz92Newa1Zzzz5Newa30Zzzz72Tir",
   "h8Zzzz10Tirh166Zzzz54Sidd2Zzzz38Sidd34Zzzz69Modi11Zzzz10Modi6Zzzz13Mong19Zzzz58Takr6Zzzz10T",
   "akr6Zzzz20Mymr28Zzzz27Ahom2Zzzz15Ahom4Zzzz23Ahom185Zzzz60Dogr100Zzzz83Wara12Zzzz1Wara7Diak2",
   "Zzzz1Diak2Zzzz8Diak1Zzzz2Diak1Zzzz30Diak1Zzzz2Diak2Zzzz12Diak9Zzzz10Diak70Zzzz8Nand2Zzzz46N",
   "and2Zzzz11Nand27Zzzz72Zanb8Zzzz83Soyo13Zzzz16Cans57Pauc7Zzzz10Deva182Zzzz34Sunu14Zzzz10Sunu",
   "6Zzzz9Bhks1Zzzz45Bhks1Zzzz14Bhks10Zzzz29Bhks3Zzzz32Marc2Zzzz22Marc1Zzzz14Marc73Zzzz7Gonm1Zz",
   "zz2Gonm1Zzzz44Gonm3Zzzz1Gonm1Zzzz2Gonm1Zzzz9Gonm8Zzzz10Gonm6Zzzz6Gong1Zzzz2Gong1Zzzz37Gong1",
   "Zzzz2Gong1Zzzz6Gong7Zzzz10Gong310Zzzz25Maka7Zzzz17Kawi1Zzzz41Kawi3Zzzz29Kawi85Zzzz1Lisu15Zz",
   "zz50Taml13Zzzz1Taml922Xsux102Zzzz111Xsux1Zzzz5Xsux11Zzzz196Xsux2636Zzzz99Cpmn13Zzzz1110Egyp",
   "10Zzzz3995Egyp5Zzzz583Hluw6841Zzzz58Gukh1734Zzzz569Bamu7Zzzz31Mroo1Zzzz10Mroo4Zzzz2Mroo79Tn",
   "sa1Zzzz10Tnsa6Zzzz30Bass2Zzzz6Bass10Zzzz70Hmng10Zzzz10Hmng1Zzzz7Hmng1Zzzz21Hmng5Zzzz19Hmng4",
   "32Zzzz58Krai198Zzzz91Medf101Zzzz75Plrd4Zzzz57Plrd7Zzzz17Plrd64Zzzz1Tang1Nshu2Hani1Kits11Zzz",
   "z2Hani14Zzzz6136Tang8Zzzz768Tang470Kits41Zzzz1Kits9Tang8935Zzzz4Kana1Zzzz7Kana1Zzzz2Kana1Zz",
   "zz1Kana287Hira3Kana15Zzzz1Hira29Zzzz3Hira2Zzzz1Kana14Zzzz4Kana8Zzzz396Nshu2308Zzzz107Dupl5Z",
   "zzz13Dupl3Zzzz9Dupl7Zzzz10Dupl2Zzzz4Dupl4Zyyy3932Zzzz250Zyyy6Zzzz436Zyyy76Zzzz46Zinh2Zzzz23",
   "Zinh9Zzzz116Zyyy60Zzzz246Zyyy10Zzzz39Zyyy2Zzzz62Zyyy3Zinh17Zyyy8Zinh2Zyyy7Zinh30Zyyy4Zinh61",
   "Zyyy21Zzzz70Grek122Zzzz20Zyyy12Zzzz20Zyyy12Zzzz87Zyyy9Zzzz25Zyyy135Zzzz85Zyyy1Zzzz71Zyyy1Zz",
   "zz2Zyyy2Zzzz1Zyyy2Zzzz2Zyyy2Zzzz4Zyyy1Zzzz12Zyyy1Zzzz1Zyyy1Zzzz7Zyyy1Zzzz65Zyyy1Zzzz4Zyyy2Z",
   "zzz8Zyyy1Zzzz7Zyyy1Zzzz28Zyyy1Zzzz4Zyyy1Zzzz5Zyyy1Zzzz1Zyyy3Zzzz7Zyyy1Zzzz340Zyyy2Zzzz292Zy",
   "yy2Zzzz50Zyyy652Sgnw15Zzzz5Sgnw1Zzzz15Sgnw1104Zzzz31Latn6Zzzz6Latn213Zzzz7Glag1Zzzz17Glag2Z",
   "zzz7Glag1Zzzz2Glag1Zzzz5Glag5Zzzz62Cyrl33Zzzz1Cyrl112Zzzz45Hmnp3Zzzz14Hmnp2Zzzz10Hmnp4Zzzz2",
   "Hmnp320Zzzz31Toto17Zzzz58Wcho5Zzzz1Wcho464Zzzz42Nagm214Zzzz43Onao4Zzzz1Onao480Zzzz7Ethi1Zzz",
   "z4Ethi1Zzzz2Ethi1Zzzz15Ethi1Zzzz197Mend2Zzzz16Mend41Zzzz76Adlm4Zzzz10Adlm4Zzzz2Adlm785Zzzz6",
   "8Zyyy76Zzzz61Zyyy194Zzzz4Arab1Zzzz27Arab1Zzzz2Arab1Zzzz1Arab2Zzzz1Arab1Zzzz10Arab1Zzzz4Arab",
   "1Zzzz1Arab1Zzzz1Arab6Zzzz1Arab4Zzzz1Arab1Zzzz1Arab1Zzzz1Arab1Zzzz3Arab1Zzzz2Arab1Zzzz1Arab2",
   "Zzzz1Arab1Zzzz1Arab1Zzzz1Arab1Zzzz1Arab1Zzzz1Arab1Zzzz2Arab1Zzzz1Arab2Zzzz4Arab1Zzzz7Arab1Z",
   "zzz4Arab1Zzzz4Arab1Zzzz1Arab1Zzzz10Arab1Zzzz17Arab5Zzzz3Arab1Zzzz5Arab1Zzzz17Arab52Zzzz2Ara",
   "b270Zzzz44Zyyy4Zzzz100Zyyy12Zzzz15Zyyy2Zzzz15Zyyy1Zzzz15Zyyy1Zzzz37Zyyy10Zzzz174Zyyy56Zzzz2",
   "6Zyyy1Hira2Zyyy13Zzzz44Zyyy4Zzzz9Zyyy7Zzzz2Zyyy14Zzzz6Zyyy154Zzzz984Zyyy4Zzzz17Zyyy3Zzzz13Z",
   "yyy3Zzzz119Zyyy4Zzzz95Zyyy6Zzzz12Zyyy4Zzzz1Zyyy15Zzzz12Zyyy4Zzzz56Zyyy8Zzzz10Zyyy6Zzzz40Zyy",
   "y8Zzzz30Zyyy2Zzzz12Zyyy4Zzzz2Zyyy62Zzzz340Zyyy12Zzzz14Zyyy2Zzzz13Zyyy3Zzzz10Zyyy5Zzzz56Zyyy",
   "7Zzzz15Zyyy2Zzzz11Zyyy6Zzzz9Zyyy7Zzzz147Zyyy1Zzzz102Zyyy1030Zzzz42720Hani32Zzzz4154Hani6Zzz",
   "z222Hani2Zzzz5762Hani14Zzzz7473Hani15Zzzz622Hani2466Zzzz542Hani1506Zzzz4939Hani5Zzzz4192Han",
   "i711761Zzzz1Zyyy30Zzzz96Zyyy128Zzzz240Zinh196112Zzzz"]

/-- The scripts all characters are used with, several codes standing together. -/
def scriptExtensionRuns : Runs := Runs.ofLines
  ["65Zyyy26Latn6Zyyy26Latn47Zyyy1Latn12Zyyy1AvstCariCoptDuplElbaGeorGlagGongGothGrekHaniLatnLy",
   "diMahjPermShaw2Zyyy1Latn5Zyyy23Latn1Zyyy31Latn1Zyyy449Latn3Zyyy1BengCyrlDevaLatnLisuThaiTot",
   "o10Zyyy1BopoLatn1Zyyy3BopoLatn1Zyyy1LatnLisu9Zyyy1LatnThai1Zyyy1BopoLatn6Zyyy5Latn5Zyyy2Bop",
   "o20Zyyy1CherCoptCyrlGrekLatnPermSunuTale1CherCyrlGrekLatnOsgeSunuTaleTodr1CherCyrlLatnTfng1",
   "GlagLatnSunuSyrcThai1AghbCherCoptCyrlGothGrekLatnOsgeSyrcTfngTodr1CoptElbaGlagGothKanaLatn1",
   "CyrlGrekLatnPermTfng1CoptDuplHebrLatnPermSyrcTaleTfngTodr1ArmnCyrlDuplGothGrekHebrLatnPermS",
   "yrcTaleTfng1LatnTfng1DuplLatnSyrc1CherCyrlLatnOsge1CherLatnTale1LatnSunu1EthiLatn1Zinh1Latn",
   "Sunu1CyrlLatnTodr1Zinh1GrekLatnPermTodr15Zinh1CherDuplKanaLatnSyrcTfng1CherDuplLatnSyrc1Lat",
   "nSyrc7Zinh1LatnSunuSyrc1LatnSyrc1Zinh1CherLatnSyrc1AghbCherGothLatnSunuSyrcThai16Zinh1Grek2",
   "Zinh1Grek18Zinh1LatnOsge5Zinh1AghbLatnTodr4Zinh13Latn4Grek2CoptGrek2Grek2Zzzz4Grek1Zyyy1Gre",
   "k4Zzzz1Grek1Zyyy1Grek1Zyyy3Grek1Zzzz1Grek1Zzzz20Grek1Zzzz63Grek14Copt16Grek131Cyrl1CyrlPerm",
   "1CyrlGlag2CyrlLatn1CyrlGlag168Cyrl1Zzzz38Armn2Zzzz48Armn1ArmnGeorGlag1Armn2Zzzz3Armn1Zzzz55",
   "Hebr8Zzzz27Hebr4Zzzz6Hebr11Zzzz5Arab1Zyyy6Arab1ArabGaraNkooRohgSyrcThaaYezi14Arab1ArabGaraN",
   "kooRohgSyrcThaaYezi1ArabSyrcThaa2Arab1AdlmArabGaraNkooRohgSyrcThaaYezi32Arab1AdlmArabMandMa",
   "niOugrPhlpRohgSogdSyrc10Arab11ArabSyrc10Arab10ArabThaaYezi6Arab1ArabSyrc99Arab1ArabRohg8Ara",
   "b1Zyyy34Arab14Syrc1Zzzz60Syrc2Zzzz3Syrc48Arab50Thaa14Zzzz59Nkoo2Zzzz3Nkoo46Samr2Zzzz15Samr1",
   "Zzzz28Mand2Zzzz1Mand1Zzzz11Syrc5Zzzz31Arab1Zzzz2Arab5Zzzz75Arab1Zyyy29Arab81Deva1BengDevaGr",
   "anGujrGuruKndaLatnMlymNandNewaOryaShrdTamlTeluTirh1BengDevaGranGujrGuruKndaLatnMlymNewaOrya",
   "TamlTeluTirh2Zinh15Deva1BengDevaDogrGongGonmGranGujrGuruKndaMahjMlymNandOnaoOryaSindSinhSyl",
   "oTakrTamlTeluTirh1BengDevaDogrGongGonmGranGujrGukhGuruKndaLimbMahjMlymNandOnaoOryaSindSinhS",
   "yloTakrTamlTeluTirh10DevaDogrKthiMahj16Deva4Beng1Zzzz8Beng2Zzzz2Beng2Zzzz22Beng1Zzzz7Beng1Z",
   "zzz1Beng3Zzzz4Beng2Zzzz9Beng2Zzzz2Beng2Zzzz4Beng8Zzzz1Beng4Zzzz2Beng1Zzzz5Beng2Zzzz10BengCa",
   "kmSylo15Beng2Zzzz3Guru1Zzzz6Guru4Zzzz2Guru2Zzzz22Guru1Zzzz7Guru1Zzzz2Guru1Zzzz2Guru1Zzzz2Gu",
   "ru2Zzzz1Guru1Zzzz5Guru4Zzzz2Guru2Zzzz3Guru3Zzzz1Guru7Zzzz4Guru1Zzzz1Guru7Zzzz10GuruMult7Gur",
   "u10Zzzz3Gujr1Zzzz9Gujr1Zzzz3Gujr1Zzzz22Gujr1Zzzz7Gujr1Zzzz2Gujr1Zzzz5Gujr2Zzzz10Gujr1Zzzz3G",
   "ujr1Zzzz3Gujr2Zzzz1Gujr15Zzzz4Gujr2Zzzz10GujrKhoj2Gujr7Zzzz7Gujr1Zzzz3Orya1Zzzz8Orya2Zzzz2O",
   "rya2Zzzz22Orya1Zzzz7Orya1Zzzz2Orya1Zzzz5Orya2Zzzz9Orya2Zzzz2Orya2Zzzz3Orya7Zzzz3Orya4Zzzz2O",
   "rya1Zzzz5Orya2Zzzz18Orya10Zzzz2Taml1Zzzz6Taml3Zzzz3Taml1Zzzz4Taml3Zzzz2Taml1Zzzz1Taml1Zzzz2",
   "Taml3Zzzz2Taml3Zzzz3Taml3Zzzz12Taml4Zzzz5Taml3Zzzz3Taml1Zzzz4Taml2Zzzz1Taml6Zzzz1Taml14Zzzz",
   "14GranTaml7Taml5Zzzz13Telu1Zzzz3Telu1Zzzz23Telu1Zzzz16Telu2Zzzz9Telu1Zzzz3Telu1Zzzz4Telu7Zz",
   "zz2Telu1Zzzz3Telu2Zzzz1Telu2Zzzz4Telu2Zzzz10Telu7Zzzz9Telu13Knda1Zzzz3Knda1Zzzz23Knda1Zzzz1",
   "0Knda1Zzzz5Knda2Zzzz9Knda1Zzzz3Knda1Zzzz4Knda7Zzzz2Knda6Zzzz2Knda1Zzzz4Knda2Zzzz10KndaNandT",
   "utg1Zzzz3Knda12Zzzz13Mlym1Zzzz3Mlym1Zzzz51Mlym1Zzzz3Mlym1Zzzz6Mlym4Zzzz16Mlym2Zzzz26Mlym1Zz",
   "zz3Sinh1Zzzz18Sinh3Zzzz24Sinh1Zzzz9Sinh1Zzzz1Sinh2Zzzz7Sinh3Zzzz1Sinh4Zzzz6Sinh1Zzzz1Sinh1Z",
   "zzz8Sinh6Zzzz10Sinh2Zzzz3Sinh12Zzzz58Thai4Zzzz1Zyyy28Thai37Zzzz2Laoo1Zzzz1Laoo1Zzzz5Laoo1Zz",
   "zz24Laoo1Zzzz1Laoo1Zzzz23Laoo2Zzzz5Laoo1Zzzz1Laoo1Zzzz7Laoo1Zzzz10Laoo2Zzzz4Laoo32Zzzz72Tib",
   "t1Zzzz36Tibt4Zzzz39Tibt1Zzzz36Tibt1Zzzz15Tibt1Zzzz7Tibt4Zyyy2Tibt37Zzzz64Mymr10CakmMymrTale",
   "86Mymr38Geor1Zzzz1Geor5Zzzz1Geor2Zzzz43Geor1GeorGlagLatn4Geor256Hang73Ethi1Zzzz4Ethi2Zzzz7E",
   "thi1Zzzz1Ethi1Zzzz4Ethi2Zzzz41Ethi1Zzzz4Ethi2Zzzz33Ethi1Zzzz4Ethi2Zzzz7Ethi1Zzzz1Ethi1Zzzz4",
   "Ethi2Zzzz15Ethi1Zzzz57Ethi1Zzzz4Ethi2Zzzz67Ethi2Zzzz32Ethi3Zzzz26Ethi6Zzzz86Cher2Zzzz6Cher2",
   "Zzzz640Cans29Ogam3Zzzz89Runr7Zzzz22Tglg9Zzzz1Tglg21Hano2BuhdHanoTagbTglg9Zzzz20Buhd12Zzzz13",
   "Tagb1Zzzz3Tagb1Zzzz2Tagb12Zzzz94Khmr2Zzzz10Khmr6Zzzz10Khmr6Zzzz2Mong2MongPhag1Mong1MongPhag",
   "20Mong6Zzzz89Mong7Zzzz43Mong5Zzzz70Cans10Zzzz31Limb1Zzzz12Limb4Zzzz12Limb4Zzzz1Limb3Zzzz12L",
   "imb30Tale2Zzzz5Tale11Zzzz44Talu4Zzzz26Talu6Zzzz11Talu3Zzzz2Talu32Khmr28Bugi2Zzzz2Bugi63Lana",
   "1Zzzz29Lana2Zzzz11Lana6Zzzz10Lana6Zzzz14Lana2Zzzz31Zinh49Zzzz77Bali1Zzzz50Bali64Sund52Batk8",
   "Zzzz4Batk56Lepc3Zzzz15Lepc3Zzzz3Lepc48Olck11Cyrl5Zzzz43Geor2Zzzz3Geor8Sund8Zzzz1BengDevaGra",
   "nKnda1Deva1BengDevaGranKnda1DevaGranKnda1Deva1BengDevaNewaTeluTirh1BengDevaTelu1DevaNewaShr",
   "d1BengDevaNewaTelu1DevaShrd1DevaKndaMlymOryaTamlTelu1Deva2DevaShrd2Deva1DevaShrd1BengDeva1D",
   "evaNewaTirh6Deva1DevaNandNewa1BengDevaShrd1DevaNewa1Deva1BengDevaNewaShrd4Deva1BengDevaGran",
   "KndaMlymNandOryaSinhTeluTirhTutg1DevaGran1DevaGranKndaTutg2BengDeva1Beng2DevaGran1Nand5Zzzz",
   "38Latn5Grek1Cyrl49Latn5Grek4Latn5Grek13Latn1Cyrl70Latn3Grek54Zinh1CyrlLatnSyrc1Zinh1Syrc5Zi",
   "nh256Latn22Grek2Zzzz6Grek2Zzzz38Grek2Zzzz6Grek2Zzzz8Grek1Zzzz1Grek1Zzzz1Grek1Zzzz1Grek1Zzzz",
   "31Grek2Zzzz53Grek1Zzzz15Grek1Zzzz14Grek2Zzzz6Grek1Zzzz19Grek2Zzzz3Grek1Zzzz9Grek1Zzzz12Zyyy",
   "2Zinh33Zyyy1LatnMongPhag31Zyyy1AdlmArab10Zyyy1CariGeorGlagHungLyciOrkh2Zyyy1CariGrekHungMer",
   "o7Zyyy1Zzzz11Zyyy1Latn2Zzzz11Zyyy1Latn15Zyyy1Zzzz13Latn3Zzzz33Zyyy15Zzzz32Zinh1DevaGranLatn",
   "15Zzzz38Zyyy1Grek3Zyyy2Latn6Zyyy1Latn27Zyyy1Latn17Zyyy41Latn3Zyyy4Zzzz666Zyyy22Zzzz11Zyyy21",
   "Zzzz928Zyyy256Brai628Zyyy2Zzzz32Zyyy1Zzzz105Zyyy96Glag32Latn116Copt5Zzzz7Copt38Geor1Zzzz1Ge",
   "or5Zzzz1Geor2Zzzz56Tfng7Zzzz2Tfng14Zzzz1Tfng23Ethi9Zzzz7Ethi1Zzzz7Ethi1Zzzz7Ethi1Zzzz7Ethi1",
   "Zzzz7Ethi1Zzzz7Ethi1Zzzz7Ethi1Zzzz7Ethi1Zzzz32Cyrl23Zyyy1CoptLatn24Zyyy1AvstOrkh1AvstCariGe",
   "orHungKthiLydiSamr10Zyyy1Dupl4Zyyy1AdlmArabHung1Zyyy1CyrlGlag26Zyyy34Zzzz26Hani1Zzzz89Hani1",
   "2Zzzz214Hani26Zzzz16HaniTang1Zyyy1BopoHangHaniHiraKanaMongYiii1BopoHangHaniHiraKanaMongPhag",
   "Yiii1BopoHangHaniHiraKana1Zyyy3Hani2BopoHangHaniHiraKanaMongTibtYiii2BopoHangHaniHiraKanaLi",
   "suMongTibtYiii6BopoHangHaniHiraKanaYiii1Zyyy1BopoHangHaniHiraKana8BopoHangHaniHiraKanaYiii4",
   "BopoHangHaniHiraKana1Zyyy9Hani4BopoHani2Hang1BopoHangHaniHiraKana5HiraKana1Zyyy1BopoHangHan",
   "iHiraKana4Hani2HaniHiraKana2Hani1Zzzz86Hira2Zzzz4HiraKana3Hira1HiraKana90Kana1BopoHangHaniH",
   "iraKanaYiii1HiraKana3Kana5Zzzz43Bopo1Zzzz94Hang1Zzzz16Hani32Bopo38Hani9Zzzz1HaniTang16Kana3",
   "1Hang1Zzzz40Hani24Zyyy31Hang1Zyyy49Hani15Zyyy12Hani4Zyyy47Kana1Hani88Kana25Hani10Zyyy5Hani9",
   "6Zyyy31Hani1Zyyy6592Hani64Zyyy20992Hani1165Yiii3Zzzz55Yiii9Zzzz48Lisu300Vaii20Zzzz47Cyrl1Cy",
   "rlGlag48Cyrl88Bamu8Zzzz8HaniLatn26Zyyy102Latn3Zyyy67Latn2Zzzz2Latn1Zzzz1Latn1Zzzz8Latn21Zzz",
   "z14Latn45Sylo3Zzzz3DevaDogrGujrGuruKhojKndaKthiMahjMlymModiNandShrdSindTakrTirhTutg3DevaDog",
   "rGujrGuruKhojKndaKthiMahjModiNandShrdSindTakrTirhTutg2DevaDogrGujrGuruKhojKthiMahjModiSindT",
   "akrTirh1DevaDogrGujrGuruKhojKthiMahjModiShrdSindTakrTirh1DevaDogrGujrGuruKhojKthiMahjModiSi",
   "ndTakrTirh6Zzzz56Phag8Zzzz70Saur8Zzzz12Saur6Zzzz17Deva1BengDevaTutg1Deva1DevaTaml12Deva46Ka",
   "li1KaliLatnMymr1Kali36Rjng11Zzzz1Rjng29Hang3Zzzz78Java1Zzzz1BugiJava10Java4Zzzz2Java31Mymr1",
   "Zzzz55Cham9Zzzz14Cham2Zzzz10Cham2Zzzz4Cham32Mymr67Tavt24Zzzz5Tavt23Mtei10Zzzz6Ethi2Zzzz6Eth",
   "i2Zzzz6Ethi9Zzzz7Ethi1Zzzz7Ethi1Zzzz43Latn1Zyyy9Latn1Grek4Latn2Zyyy4Zzzz80Cher46Mtei2Zzzz10",
   "Mtei6Zzzz11172Hang12Zzzz23Hang4Zzzz49Hang8452Zzzz366Hani2Zzzz106Hani38Zzzz7Latn12Zzzz5Armn5",
   "Zzzz26Hebr1Zzzz5Hebr1Zzzz1Hebr1Zzzz2Hebr1Zzzz2Hebr1Zzzz10Hebr115Arab16Zzzz363Arab2ArabNkoo8",
   "0Arab2Zzzz54Arab7Zzzz1Arab32Zzzz2Arab1ArabThaa10Arab1ArabThaa2Arab16Zinh10Zyyy6Zzzz14Zinh2C",
   "yrl21Zyyy2BopoHangHaniHiraKana12Zyyy1Zzzz19Zyyy1Zzzz4Zyyy4Zzzz5Arab1Zzzz135Arab2Zzzz1Zyyy1Z",
   "zzz32Zyyy26Latn6Zyyy26Latn6Zyyy5BopoHangHaniHiraKanaYiii10Kana1HiraKana45Kana2HiraKana31Han",
   "g3Zzzz6Hang2Zzzz6Hang2Zzzz6Hang2Zzzz3Hang3Zzzz7Zyyy1Zzzz7Zyyy10Zzzz5Zyyy2Zzzz12Linb1Zzzz26L",
   "inb1Zzzz19Linb1Zzzz2Linb1Zzzz15Linb2Zzzz14Linb34Zzzz123Linb5Zzzz2CpmnCprtLinb1CprtLinb4Zzzz",
   "45CprtLinaLinb3Zzzz9CprtLinb79Grek1Zzzz13Zyyy3Zzzz1Grek47Zzzz45Zyyy1Zinh130Zzzz29Lyci3Zzzz4",
   "9Cari15Zzzz28ArabCopt4Zzzz36Ital9Zzzz3Ital27Goth5Zzzz43Perm5Zzzz30Ugar1Zzzz1Ugar36Xpeo4Zzzz",
   "14Xpeo42Zzzz80Dsrt48Shaw30Osma2Zzzz10Osma6Zzzz36Osge4Zzzz36Osge4Zzzz40Elba8Zzzz52Aghb11Zzzz",
   "1Aghb11Vith1Zzzz15Vith1Zzzz7Vith1Zzzz2Vith1Zzzz11Vith1Zzzz15Vith1Zzzz7Vith1Zzzz2Vith3Zzzz52",
   "Todr12Zzzz311Lina9Zzzz22Lina10Zzzz8Lina24Zzzz6Latn1Zzzz42Latn1Zzzz9Latn69Zzzz6Cprt2Zzzz1Cpr",
   "t1Zzzz44Cprt1Zzzz2Cprt3Zzzz1Cprt2Zzzz1Cprt22Armi1Zzzz9Armi32Palm31Nbat8Zzzz9Nbat48Zzzz19Hat",
   "r1Zzzz2Hatr5Zzzz5Hatr28Phnx3Zzzz1Phnx26Lydi5Zzzz1Lydi64Zzzz32Mero24Merc4Zzzz20Merc2Zzzz46Me",
   "rc4Khar1Zzzz2Khar5Zzzz8Khar1Zzzz3Khar1Zzzz29Khar2Zzzz3Khar4Zzzz10Khar7Zzzz9Khar7Zzzz32Sarb3",
   "2Narb32Zzzz39Mani4Zzzz7Mani1ManiOugr4Mani9Zzzz54Avst3Zzzz7Avst22Prti2Zzzz8Prti19Phli5Zzzz8P",
   "hli18Phlp7Zzzz4Phlp12Zzzz7Phlp80Zzzz73Orkh55Zzzz51Hung13Zzzz51Hung7Zzzz6Hung40Rohg8Zzzz10Ro",
   "hg6Zzzz38Gara3Zzzz29Gara8Zzzz2Gara208Zzzz31Arab1Zzzz42Yezi1Zzzz3Yezi2Zzzz2Yezi16Zzzz3Arab55",
   "Zzzz4Arab40Sogo8Zzzz42Sogd22Zzzz26Ougr38Zzzz28Chrs20Zzzz23Elym9Zzzz78Brah4Zzzz36Brah9Zzzz1B",
   "rah67Kthi10Zzzz1Kthi2Zzzz25Sora7Zzzz10Sora6Zzzz53Cakm1Zzzz18Cakm8Zzzz39Mahj9Zzzz96Shrd1Zzzz",
   "20Sinh11Zzzz18Khoj1Zzzz47Khoj62Zzzz7Mult1Zzzz1Mult1Zzzz4Mult1Zzzz15Mult1Zzzz11Mult6Zzzz59Si",
   "nd5Zzzz10Sind6Zzzz1Gran1GranTaml1Gran1GranTaml1Zzzz8Gran2Zzzz2Gran2Zzzz22Gran1Zzzz7Gran1Zzz",
   "z2Gran1Zzzz5Gran1Zzzz2GranTaml8Gran2Zzzz2Gran2Zzzz3Gran2Zzzz1Gran6Zzzz1Gran5Zzzz7Gran2Zzzz7",
   "Gran3Zzzz5Gran11Zzzz10Tutg1Zzzz1Tutg2Zzzz1Tutg1Zzzz38Tutg1Zzzz10Tutg1Zzzz1Tutg2Zzzz1Tutg1Zz",
   "zz4Tutg1Zzzz10Tutg1Zzzz2Tutg8Zzzz2Tutg29Zzzz92Newa1Zzzz5Newa30Zzzz72Tirh8Zzzz10Tirh166Zzzz5",
   "4Sidd2Zzzz38Sidd34Zzzz69Modi11Zzzz10Modi6Zzzz13Mong19Zzzz58Takr6Zzzz10Takr6Zzzz20Mymr28Zzzz",
   "27Ahom2Zzzz15Ahom4Zzzz23Ahom185Zzzz60Dogr100Zzzz83Wara12Zzzz1Wara7Diak2Zzzz1Diak2Zzzz8Diak1",
   "Zzzz2Diak1Zzzz30Diak1Zzzz2Diak2Zzzz12Diak9Zzzz10Diak70Zzzz8Nand2Zzzz46Nand2Zzzz11Nand27Zzzz",
   "72Zanb8Zzzz83Soyo13Zzzz16Cans57Pauc7Zzzz10Deva182Zzzz34Sunu14Zzzz10Sunu6Zzzz9Bhks1Zzzz45Bhk",
   "s1Zzzz14Bhks10Zzzz29Bhks3Zzzz32Marc2Zzzz22Marc1Zzzz14Marc73Zzzz7Gonm1Zzzz2Gonm1Zzzz44Gonm3Z",
   "zzz1Gonm1Zzzz2Gonm1Zzzz9Gonm8Zzzz10Gonm6Zzzz6Gong1Zzzz2Gong1Zzzz37Gong1Zzzz2Gong1Zzzz6Gong7",
   "Zzzz10Gong310Zzzz25Maka7Zzzz17Kawi1Zzzz41Kawi3Zzzz29Kawi85Zzzz1Lisu15Zzzz16Taml2GranTaml1Ta",
   "ml1GranTaml30Taml13Zzzz1Taml922Xsux102Zzzz111Xsux1Zzzz5Xsux11Zzzz196Xsux2636Zzzz99Cpmn13Zzz",
   "z1110Egyp10Zzzz3995Egyp5Zzzz583Hluw6841Zzzz58Gukh1734Zzzz569Bamu7Zzzz31Mroo1Zzzz10Mroo4Zzzz",
   "2Mroo79Tnsa1Zzzz10Tnsa6Zzzz30Bass2Zzzz6Bass10Zzzz70Hmng10Zzzz10Hmng1Zzzz7Hmng1Zzzz21Hmng5Zz",
   "zz19Hmng432Zzzz58Krai198Zzzz91Medf101Zzzz75Plrd4Zzzz57Plrd7Zzzz17Plrd64Zzzz1Tang1Nshu2Hani1",
   "Kits11Zzzz2Hani14Zzzz6136Tang8Zzzz768Tang470Kits41Zzzz1Kits9Tang8935Zzzz4Kana1Zzzz7Kana1Zzz",
   "z2Kana1Zzzz1Kana287Hira3Kana15Zzzz1Hira29Zzzz3Hira2Zzzz1Kana14Zzzz4Kana8Zzzz396Nshu2308Zzzz",
   "107Dupl5Zzzz13Dupl3Zzzz9Dupl7Zzzz10Dupl2Zzzz8Dupl3932Zzzz250Zyyy6Zzzz436Zyyy76Zzzz46Zinh2Zz",
   "zz23Zinh9Zzzz116Zyyy60Zzzz246Zyyy10Zzzz39Zyyy2Zzzz62Zyyy3Zinh17Zyyy8Zinh2Zyyy7Zinh30Zyyy4Zi",
   "nh61Zyyy21Zzzz70Grek122Zzzz20Zyyy12Zzzz20Zyyy12Zzzz87Zyyy9Zzzz18Hani7Zyyy135Zzzz85Zyyy1Zzzz",
   "71Zyyy1Zzzz2Zyyy2Zzzz1Zyyy2Zzzz2Zyyy2Zzzz4Zyyy1Zzzz12Zyyy1Zzzz1Zyyy1Zzzz7Zyyy1Zzzz65Zyyy1Zz",
   "zz4Zyyy2Zzzz8Zyyy1Zzzz7Zyyy1Zzzz28Zyyy1Zzzz4Zyyy1Zzzz5Zyyy1Zzzz1Zyyy3Zzzz7Zyyy1Zzzz340Zyyy2",
   "Zzzz292Zyyy2Zzzz50Zyyy652Sgnw15Zzzz5Sgnw1Zzzz15Sgnw1104Zzzz31Latn6Zzzz6Latn213Zzzz7Glag1Zzz",
   "z17Glag2Zzzz7Glag1Zzzz2Glag1Zzzz5Glag5Zzzz62Cyrl33Zzzz1Cyrl112Zzzz45Hmnp3Zzzz14Hmnp2Zzzz10H",
   "mnp4Zzzz2Hmnp320Zzzz31Toto17Zzzz58Wcho5Zzzz1Wcho464Zzzz42Nagm214Zzzz43Onao4Zzzz1Onao480Zzzz",
   "7Ethi1Zzzz4Ethi1Zzzz2Ethi1Zzzz15Ethi1Zzzz197Mend2Zzzz16Mend41Zzzz76Adlm4Zzzz10Adlm4Zzzz2Adl",
   "m785Zzzz68Zyyy76Zzzz61Zyyy194Zzzz4Arab1Zzzz27Arab1Zzzz2Arab1Zzzz1Arab2Zzzz1Arab1Zzzz10Arab1",
   "Zzzz4Arab1Zzzz1Arab1Zzzz1Arab6Zzzz1Arab4Zzzz1Arab1Zzzz1Arab1Zzzz1Arab1Zzzz3Arab1Zzzz2Arab1Z",
   "zzz1Arab2Zzzz1Arab1Zzzz1Arab1Zzzz1Arab1Zzzz1Arab1Zzzz1Arab1Zzzz2Arab1Zzzz1Arab2Zzzz4Arab1Zz",
   "zz7Arab1Zzzz4Arab1Zzzz4Arab1Zzzz1Arab1Zzzz10Arab1Zzzz17Arab5Zzzz3Arab1Zzzz5Arab1Zzzz17Arab5",
   "2Zzzz2Arab270Zzzz44Zyyy4Zzzz100Zyyy12Zzzz15Zyyy2Zzzz15Zyyy1Zzzz15Zyyy1Zzzz37Zyyy10Zzzz174Zy",
   "yy56Zzzz26Zyyy1Hira2Zyyy13Zzzz44Zyyy4Zzzz9Zyyy7Zzzz2Hani14Zzzz6Zyyy154Zzzz984Zyyy4Zzzz17Zyy",
   "y3Zzzz13Zyyy3Zzzz119Zyyy4Zzzz95Zyyy6Zzzz12Zyyy4Zzzz1Zyyy15Zzzz12Zyyy4Zzzz56Zyyy8Zzzz10Zyyy6",
   "Zzzz40Zyyy8Zzzz30Zyyy2Zzzz12Zyyy4Zzzz2Zyyy62Zzzz340Zyyy12Zzzz14Zyyy2Zzzz13Zyyy3Zzzz10Zyyy5Z",
   "zzz56Zyyy7Zzzz15Zyyy2Zzzz11Zyyy6Zzzz9Zyyy7Zzzz147Zyyy1Zzzz102Zyyy1030Zzzz42720Hani32Zzzz415",
   "4Hani6Zzzz222Hani2Zzzz5762Hani14Zzzz7473Hani15Zzzz622Hani2466Zzzz542Hani1506Zzzz4939Hani5Zz",
   "zz4192Hani711761Zzzz1Zyyy30Zzzz96Zyyy128Zzzz240Zinh196112Zzzz"]

/-- The names of the scripts, each behind its code. -/
def scriptNames : Aliases := Aliases.ofLines
  ["Adlm adlm adlam;Aghb aghb caucasianalbanian;Ahom ahom;Arab arab arabic",
   "Armi armi imperialaramaic;Armn armn armenian;Avst avst avestan;Bali bali balinese",
   "Bamu bamu bamum;Bass bass bassavah;Batk batk batak;Beng beng bengali;Bhks bhks bhaiksuki",
   "Bopo bopo bopomofo;Brah brah brahmi;Brai brai braille;Bugi bugi buginese;Buhd buhd buhid",
   "Cakm cakm chakma;Cans cans canadianaboriginal;Cari cari carian;Cham cham;Cher cher cherokee",
   "Chrs chrs chorasmian;Copt copt coptic qaac;Cpmn cpmn cyprominoan;Cprt cprt cypriot",
   "Cyrl cyrl cyrillic;Deva deva devanagari;Diak diak divesakuru;Dogr dogr dogra",
   "Dsrt dsrt deseret;Dupl dupl duployan;Egyp egyp egyptianhieroglyphs;Elba elba elbasan",
   "Elym elym elymaic;Ethi ethi ethiopic;Gara gara garay;Geor geor georgian",
   "Glag glag glagolitic;Gong gong gunjalagondi;Gonm gonm masaramgondi;Goth goth gothic",
   "Gran gran grantha;Grek grek greek;Gujr gujr gujarati;Gukh gukh gurungkhema",
   "Guru guru gurmukhi;Hang hang hangul;Hani hani han;Hano hano hanunoo;Hatr hatr hatran",
   "Hebr hebr hebrew;Hira hira hiragana;Hluw hluw anatolianhieroglyphs;Hmng hmng pahawhhmong",
   "Hmnp hmnp nyiakengpuachuehmong;Hung hung oldhungarian;Ital ital olditalic",
   "Java java javanese;Kali kali kayahli;Kana kana katakana;Kawi kawi;Khar khar kharoshthi",
   "Khmr khmr khmer;Khoj khoj khojki;Kits kits khitansmallscript;Knda knda kannada",
   "Krai krai kiratrai;Kthi kthi kaithi;Lana lana taitham;Laoo laoo lao;Latn latn latin",
   "Lepc lepc lepcha;Limb limb limbu;Lina lina lineara;Linb linb linearb;Lisu lisu",
   "Lyci lyci lycian;Lydi lydi lydian;Mahj mahj mahajani;Maka maka makasar;Mand mand mandaic",
   "Mani mani manichaean;Marc marc marchen;Medf medf medefaidrin;Mend mend mendekikakui",
   "Merc merc meroiticcursive;Mero mero meroitichieroglyphs;Mlym mlym malayalam;Modi modi",
   "Mong mong mongolian;Mroo mroo mro;Mtei mtei meeteimayek;Mult mult multani;Mymr mymr myanmar",
   "Nagm nagm nagmundari;Nand nand nandinagari;Narb narb oldnortharabian;Nbat nbat nabataean",
   "Newa newa;Nkoo nkoo nko;Nshu nshu nushu;Ogam ogam ogham;Olck olck olchiki;Onao onao olonal",
   "Orkh orkh oldturkic;Orya orya oriya;Osge osge osage;Osma osma osmanya;Ougr ougr olduyghur",
   "Palm palm palmyrene;Pauc pauc paucinhau;Perm perm oldpermic;Phag phag phagspa",
   "Phli phli inscriptionalpahlavi;Phlp phlp psalterpahlavi;Phnx phnx phoenician;Plrd plrd miao",
   "Prti prti inscriptionalparthian;Rjng rjng rejang;Rohg rohg hanifirohingya;Runr runr runic",
   "Samr samr samaritan;Sarb sarb oldsoutharabian;Saur saur saurashtra;Sgnw sgnw signwriting",
   "Shaw shaw shavian;Shrd shrd sharada;Sidd sidd siddham;Sind sind khudawadi;Sinh sinh sinhala",
   "Sogd sogd sogdian;Sogo sogo oldsogdian;Sora sora sorasompeng;Soyo soyo soyombo",
   "Sund sund sundanese;Sunu sunu sunuwar;Sylo sylo sylotinagri;Syrc syrc syriac",
   "Tagb tagb tagbanwa;Takr takr takri;Tale tale taile;Talu talu newtailue;Taml taml tamil",
   "Tang tang tangut;Tavt tavt taiviet;Telu telu telugu;Tfng tfng tifinagh;Tglg tglg tagalog",
   "Thaa thaa thaana;Thai thai;Tibt tibt tibetan;Tirh tirh tirhuta;Tnsa tnsa tangsa",
   "Todr todr todhri;Toto toto;Tutg tutg tulutigalari;Ugar ugar ugaritic;Vaii vaii vai",
   "Vith vith vithkuqi;Wara wara warangciti;Wcho wcho wancho;Xpeo xpeo oldpersian",
   "Xsux xsux cuneiform;Yezi yezi yezidi;Yiii yiii yi;Zanb zanb zanabazarsquare",
   "Zinh zinh inherited qaai;Zyyy zyyy common"]

/-- The characters of a script. -/
def scriptStretches (code : String) : List (Nat × Nat) := scriptRuns.stretches (· = code)

/-- The four-letter codes a text is made of. -/
def codesOf : List Char → List String
  | a :: b :: c :: d :: rest => String.ofList [a, b, c, d] :: codesOf rest
  | _ => []

/-- The characters used with a script. -/
def usedWithStretches (code : String) : List (Nat × Nat) :=
  scriptExtensionRuns.stretches fun codes => code ∈ codesOf codes.toList

end InAppMessaging.Text.Unicode
