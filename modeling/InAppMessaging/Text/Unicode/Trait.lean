import InAppMessaging.Text.Unicode.Runs

/-!
# Properties that hold or do not

Whether a character is alphabetic, cased, a dash and so on: one table for each property.
-/

namespace InAppMessaging.Text.Unicode

/-- The properties of characters that hold or do not hold, each behind the name it is kept
under. -/
def traitNames : Aliases := Aliases.ofLines
  ["alphabetic alphabetic alpha;asciihexdigit asciihexdigit ahex;bidicontrol bidicontrol bidic",
   "bidimirrored bidimirrored bidim;caseignorable caseignorable ci;cased cased",
   "changeswhencasefolded changeswhencasefolded cwcf",
   "changeswhencasemapped changeswhencasemapped cwcm",
   "changeswhenlowercased changeswhenlowercased cwl",
   "changeswhentitlecased changeswhentitlecased cwt",
   "changeswhenuppercased changeswhenuppercased cwu;dash dash",
   "defaultignorablecodepoint defaultignorablecodepoint di;deprecated deprecated dep",
   "diacritic diacritic dia;emoji emoji;emojicomponent emojicomponent ecomp",
   "emojimodifier emojimodifier emod;emojimodifierbase emojimodifierbase ebase",
   "emojipresentation emojipresentation epres;extendedpictographic extendedpictographic extpict",
   "extender extender ext;graphemebase graphemebase grbase;graphemeextend graphemeextend grext",
   "graphemelink graphemelink grlink;hexdigit hexdigit hex;hyphen hyphen",
   "idsbinaryoperator idsbinaryoperator idsb;idstrinaryoperator idstrinaryoperator idst",
   "idsunaryoperator idsunaryoperator idsu;idcompatmathcontinue idcompatmathcontinue",
   "idcompatmathstart idcompatmathstart;idcontinue idcontinue idc;idstart idstart ids",
   "ideographic ideographic ideo;joincontrol joincontrol joinc",
   "logicalorderexception logicalorderexception loe;lowercase lowercase lower;math math",
   "modifiercombiningmark modifiercombiningmark mcm",
   "noncharactercodepoint noncharactercodepoint nchar;otheralphabetic otheralphabetic oalpha",
   "otherdefaultignorablecodepoint otherdefaultignorablecodepoint odi",
   "othergraphemeextend othergraphemeextend ogrext;otheridcontinue otheridcontinue oidc",
   "otheridstart otheridstart oids;otherlowercase otherlowercase olower",
   "othermath othermath omath;otheruppercase otheruppercase oupper",
   "patternsyntax patternsyntax patsyn;patternwhitespace patternwhitespace patws",
   "prependedconcatenationmark prependedconcatenationmark pcm;quotationmark quotationmark qmark",
   "radical radical;regionalindicator regionalindicator ri",
   "sentenceterminal sentenceterminal sterm;softdotted softdotted sd",
   "terminalpunctuation terminalpunctuation term;unifiedideograph unifiedideograph uideo",
   "uppercase uppercase upper;variationselector variationselector vs",
   "whitespace whitespace wspace space;xidcontinue xidcontinue xidc;xidstart xidstart xids"]

/-- The characters with the property `Alphabetic` (`y`) and those without it (`n`). -/
def alphabeticRuns : Runs := Runs.ofLines
  ["65n26y6n26y47n1y10n1y4n1y5n23y1n31y1n458y4n12y14n5y7n1y1n1y86n1y29n18y1n2y2n4y1n1y6n1y1n3y1",
   "n1y1n20y1n83y1n139y8n166y1n38y2n1y6n41y39n14y1n1y1n2y1n2y1n1y8n27y4n4y29n11y5n56y1n7y14n102",
   "y1n8y4n8y4n3y10n3y2n1y16n48y13n101y24n33y9n2y4n1y5n24y2n19y19n25y7n11y5n24y1n6y8n1y8n42y10n",
   "12y3n7y6n76y1n16y1n3y4n15y13n19y1n8y2n2y2n22y1n7y1n1y3n4y3n8y2n2y2n2y1n1y8n1y4n2y1n5y12n2y1",
   "0n1y4n3y1n6y4n2y2n22y1n7y1n2y1n2y1n2y4n5y4n2y2n2y4n1y7n4y1n1y17n6y11n3y1n9y1n3y1n22y1n7y1n2",
   "y1n5y3n9y1n3y1n2y3n1y15n4y21n4y4n3y1n8y2n2y2n22y1n7y1n2y1n5y3n8y2n2y2n2y9n2y4n2y1n5y13n1y16",
   "n2y1n6y3n3y1n4y3n2y1n1y1n2y3n2y3n3y3n12y4n5y3n3y1n3y3n1y6n1y40n13y1n3y1n23y1n16y3n8y1n3y1n3",
   "y8n2y1n3y2n1y2n4y28n4y1n8y1n3y1n23y1n10y1n5y3n8y1n3y1n3y8n2y6n2y1n4y13n3y12n13y1n3y1n41y2n8",
   "y1n3y1n3y1n1y5n4y7n5y22n6y1n3y1n18y3n24y1n9y1n1y2n7y8n6y1n1y1n8y18n2y13n58y5n7y6n1y51n2y1n1",
   "y1n5y1n24y1n1y1n19y1n3y2n5y1n1y6n1y14n4y32n1y63n8y1n36y4n19y4n16y1n36y67n55y1n1y2n5y16n64y1",
   "0n4y2n38y1n1y5n1y2n43y1n333y1n4y2n7y1n1y1n4y2n41y1n4y2n33y1n4y2n7y1n1y1n4y2n15y1n57y1n4y2n6",
   "7y37n16y16n86y2n6y3n620y2n17y1n26y5n75y3n11y7n20y11n21y12n20y12n13y1n3y1n2y12n52y2n19y14n1y",
   "4n1y67n89y7n43y5n70y10n31y1n12y4n9y23n30y2n5y11n44y4n26y54n28y4n63y2n20y50n1y23n2y11n3y49n5",
   "2y1n15y1n8y51n42y2n4y10n44y1n11y14n55y22n3y10n36y2n11y5n43y2n3y41n4y1n6y1n2y3n1y5n192y19n34",
   "y11n278y2n6y2n38y2n6y2n8y1n1y1n1y1n1y1n31y2n53y1n7y1n1y3n3y1n7y3n4y2n6y4n13y5n3y1n7y116n1y1",
   "3n1y16n13y101n1y4n1y2n10y1n1y3n5y6n1y1n1y1n1y1n4y1n11y2n4y5n5y4n1y17n41y813n52y1814n229y6n4",
   "y3n2y12n38y1n1y5n1y2n56y7n1y16n23y9n7y1n7y1n7y1n7y1n7y1n7y1n7y1n7y1n32y47n1y469n3y25n9y7n5y",
   "2n5y4n86y6n3y1n90y1n4y5n43y1n94y17n32y48n16y512n6592y64n22157y67n46y2n269y3n16y10n2y20n47y5",
   "n8y3n113y39n9y2n103y2n67y2n2y1n1y1n8y21n20y1n33y24n52y12n68y1n1y44n6y3n1y1n3y10n33y5n35y13n",
   "29y3n51y1n12y15n1y16n16y10n5y1n55y9n14y18n23y3n69y1n1y1n1y24n3y2n16y2n4y11n6y2n6y2n6y9n7y1n",
   "7y1n43y1n14y6n123y21n11172y12n23y4n49y8452n366y2n106y38n7y12n5y5n12y1n13y1n5y1n1y1n2y1n2y1n",
   "108y33n363y18n64y2n54y40n12y116n5y1n135y36n26y6n26y11n89y3n6y2n6y2n6y2n3y35n12y1n26y1n19y1n",
   "2y1n15y2n14y34n123y69n53y267n29y3n49y47n32y13n30y5n43y5n30y2n36y4n8y1n5y42n158y18n36y4n36y4",
   "n40y8n52y12n11y1n15y1n7y1n2y1n11y1n15y1n7y1n2y3n52y12n311y9n22y10n8y24n6y1n42y1n9y69n6y2n1y",
   "1n44y1n2y3n1y2n23y10n23y9n31y65n19y1n2y10n22y10n26y70n56y6n2y64n4y1n2y5n8y1n3y1n29y42n29y3n",
   "29y35n8y1n28y27n54y10n22y10n19y13n18y110n73y55n51y13n51y13n40y34n28y3n1y5n23y250n42y1n2y3n2",
   "y16n3y55n1y3n29y10n1y8n22y42n18y46n21y27n23y9n70y43n5y10n57y9n1y13n25y23n51y17n4y8n35y3n1y9",
   "n64y1n4y9n2y10n1y1n1y35n18y1n34y2n1y6n4y62n7y1n1y1n4y1n15y1n10y7n57y23n4y1n8y2n2y2n22y1n7y1",
   "n2y1n5y3n8y2n2y2n2y3n1y6n1y5n7y28n10y1n1y2n1y1n38y1n10y1n1y2n1y1n4y1n2y3n1y1n1y44n66y1n3y1n",
   "4y20n3y30n66y2n2y1n1y184n54y2n7y25n6y34n63y1n1y3n1y59n54y2n1y71n27y2n14y21n7y185n57y103n64y",
   "31n8y2n1y2n8y1n2y1n30y1n2y2n2y2n4y93n8y2n46y2n6y1n1y1n2y27n51y2n10y17n72y5n1y18n73y199n33y3",
   "1n9y1n45y1n7y1n1y49n30y2n22y1n14y73n7y1n2y1n44y3n1y1n2y1n3y1n1y2n2y24n6y1n2y1n37y1n2y1n4y1n",
   "1y327n23y9n17y1n41y3n3y111n1y79n922y102n111y17n196y2636n97y15n1072y17n6y25n3995y5n583y6841n",
   "47y1745n569y7n31y17n79y17n30y18n48y16n4y31n21y5n19y432n45y211n64y128n75y4n57y7n17y64n2y1n1y",
   "12n2y14n6136y8n1238y41n10y8935n4y1n7y1n2y1n291y15n1y29n3y2n1y14n4y8n396y2308n107y5n13y3n9y7",
   "n10y4n1y5985n85y1n71y1n2y2n1y2n2y2n4y1n12y1n1y1n7y1n65y1n4y2n8y1n7y1n28y1n4y1n5y1n1y3n7y1n3",
   "40y2n25y1n25y1n31y1n25y1n31y1n25y1n31y1n25y1n31y1n25y1n8y1844n31y6n6y213n7y1n17y2n7y1n2y1n5",
   "y5n62y33n1y112n45y10n7y16n1y321n30y18n44y484n28y228n30y2n1y495n7y1n4y1n2y1n15y1n197y59n68y3",
   "n1y3n1y1204n4y1n27y1n2y1n1y2n1y1n10y1n4y1n1y1n1y6n1y4n1y1n1y1n1y1n3y1n2y1n1y2n1y1n1y1n1y1n1",
   "y1n1y1n2y1n1y2n4y1n7y1n4y1n4y1n1y1n10y1n17y5n3y1n5y1n17y628n26y6n26y6n26y3702n42720y32n4154",
   "y6n222y2n5762y14n7473y15n622y2466n542y1506n4939y5n4192y908368n"]

/-- The characters with the property `ASCII_Hex_Digit` (`y`) and those without it (`n`). -/
def asciiHexDigitRuns : Runs := Runs.ofLines
  ["48n10y7n6y26n6y1114009n"]

/-- The characters with the property `Bidi_Control` (`y`) and those without it (`n`). -/
def bidiControlRuns : Runs := Runs.ofLines
  ["1564n1y6641n2y26n5y55n4y1105814n"]

/-- The characters with the property `Bidi_Mirrored` (`y`) and those without it (`n`). -/
def bidiMirroredRuns : Runs := Runs.ofLines
  ["40n2y18n1y1n1y28n1y1n1y29n1y1n1y45n1y15n1y3710n4y1885n2y2460n2y10n2y54n2y14n2y177n1y192n4y3",
   "n6y3n1y3n2y3n4y1n4y1n1y1n1y4n9y5n1y1n18y5n4y9n2y1n1y1n8y1n32y2n4y5n1y9n2y2n19y5n2y9n5y2n2y4",
   "n24y2n16y8n4y20n2y7n2y1085n14y74n1y2n4y1n2y1n3y5n4y5n3y3n14y403n22y2n6y1n14y8n1y7n6y3n1y4n5",
   "y1n2y2n5y4n1y1n3y2n2y10n6y2n2y12n19y1n4y2n1y1n1y2n1y1n4y5n2y6n3y24n2y11n2y4n4y1n2y2n2y4n43y",
   "2n8y1n40y5n1y1n1y3n5y5n3y4n1y3n5y1n1y256n1y515n4y3n2y1n2y14n2y2n10y43n8y427n10y2n8y52797n6y",
   "5n2y162n2y18n1y1n1y28n1y1n1y29n1y1n1y1n2y1n2y55159n1y57n1y57n1y57n1y57n1y993340n"]

/-- The characters with the property `Case_Ignorable` (`y`) and those without it (`n`). -/
def caseIgnorableRuns : Runs := Runs.ofLines
  ["39n1y6n1y11n1y35n1y1n1y71n1y4n1y1n1y4n1y2n2y503n192y4n2y4n1y9n2y1n1y251n7y207n1y5n1y49n45y1",
   "n1y1n2y1n2y1n1y44n1y11n6y10n11y1n1y35n1y10n21y16n1y101n8y1n10y1n4y33n1y1n1y30n27y91n11y58n1",
   "1y4n1y2n1y24n24y43n3y44n1y7n2y5n9y41n58y55n1y1n1y4n8y4n1y3n7y10n2y13n1y15n1y58n1y4n4y8n1y20",
   "n2y26n1y2n2y57n1y4n2y4n2y2n3y3n1y30n2y3n1y11n2y57n1y4n5y1n2y4n1y20n2y22n6y1n1y58n1y2n1y1n4y",
   "8n1y7n2y11n2y30n1y61n1y12n1y50n1y3n1y55n1y1n3y5n3y1n4y7n2y11n2y29n1y58n1y2n1y6n1y5n2y20n2y2",
   "8n2y57n2y4n4y8n1y20n2y29n1y72n1y7n3y1n1y90n1y2n7y11n9y98n1y2n9y9n1y1n7y73n2y27n1y1n1y1n1y55",
   "n14y1n5y1n2y5n11y1n36y9n1y102n4y1n6y1n2y2n2y25n2y4n3y16n4y13n1y2n2y6n1y15n1y94n1y608n3y946n",
   "3y29n2y30n2y30n2y64n2y1n7y8n1y2n11y3n1y5n1y45n5y51n1y65n2y34n1y118n3y4n2y9n1y6n3y219n2y2n1y",
   "58n1y1n7y1n1y1n1y2n8y6n10y2n1y39n1y8n31y49n4y48n1y1n5y1n1y5n1y40n9y12n2y32n4y2n2y1n3y56n1y1",
   "n2y3n1y1n3y58n8y2n2y64n6y82n3y1n13y1n7y4n1y6n1y3n2y50n63y13n1y34n101y445n1y1n3y11n3y13n3y13",
   "n3y13n2y12n5y8n2y10n1y2n1y2n5y49n5y1n10y1n1y13n1y16n13y51n33y2955n2y113n3y125n1y15n1y96n32y",
   "47n1y469n1y36n4y3n5y5n1y93n6y93n3y28438n1y1250n6y270n1y98n4y1n10y1n1y28n4y80n2y14n34y78n1y2",
   "3n3y103n3y3n2y8n1y3n1y4n1y25n2y5n1y151n2y26n18y13n1y38n8y25n11y46n3y48n1y2n4y2n2y17n1y21n2y",
   "66n6y2n2y2n2y12n1y8n1y35n1y11n1y51n1y1n3y2n2y5n2y1n1y27n1y14n2y5n2y1n1y100n5y9n3y121n1y2n1y",
   "4n1y20272n1y147n17y573n16y3n1y12n16y34n1y2n1y169n1y7n1y6n1y11n1y35n1y1n1y47n1y45n2y67n1y21n",
   "3y513n1y226n1y149n5y1029n6y1n42y1n9y582n3y1n2y5n4y40n3y4n1y165n2y573n4y38n1y26n5y1n1y315n2y",
   "79n4y70n11y49n4y123n1y54n15y41n1y2n2y10n3y49n4y2n2y2n1y4n1y10n1y50n3y36n5y1n8y62n1y12n2y52n",
   "9y10n4y2n1y95n3y2n1y1n2y6n1y2n1y157n1y3n8y21n2y57n2y3n1y37n7y3n5y70n6y13n1y1n1y1n1y14n2y85n",
   "8y2n3y1n1y23n1y84n6y1n1y4n2y1n2y238n4y6n2y1n2y27n2y85n8y2n1y1n2y106n1y1n1y2n6y1n1y101n1y1n1",
   "y2n4y1n5y259n9y1n2y256n2y1n1y4n1y144n4y2n2y4n1y32n10y40n6y2n4y8n1y9n6y2n3y46n13y1n2y406n7y1",
   "n6y1n1y82n22y2n7y1n2y1n2y122n6y3n1y1n2y1n7y1n1y72n2y3n1y1n1y347n2y11n2y52n5y5n1y1n1y23n1y53",
   "33n17y6n15y11464n12y3n3y2496n5y59n7y9n4y508n3y40n2y482n1y63n17y64n2y1n2y16395n4y1n7y1n2y323",
   "0n2y1n4y4700n46y2n23y544n3y9n16y2n7y30n4y148n3y1979n55y4n50y8n1y14n1y22n5y1n15y1360n7y1n17y",
   "2n7y1n2y1n5y5n62y33n1y160n14y368n1y61n4y507n5y254n2y736n7y109n8y2735n5y789505n1y30n96y128n2",
   "40y196112n"]

/-- The characters with the property `Cased` (`y`) and those without it (`n`). -/
def casedRuns : Runs := Runs.ofLines
  ["65n26y6n26y47n1y10n1y4n1y5n23y1n31y1n195y1n4y4n208y1n36y7n2y30n5y96n1y42n4y2n2y2n4y1n1y6n1y",
   "1n3y1n1y1n20y1n83y1n139y8n166y1n38y9n41y2839n38y1n1y5n1y2n43y1n4y672n86y2n6y2178n11y5n43y2n",
   "3y64n192y64n278y2n6y2n38y2n6y2n8y1n1y1n1y1n1y1n31y2n53y1n7y1n1y3n3y1n7y3n4y2n6y4n13y5n3y1n7",
   "y116n1y13n1y16n13y101n1y4n1y2n10y1n1y3n5y6n1y1n1y1n1y1n4y1n6y4n1y2n4y5n5y4n1y17n32y3n2y817n",
   "52y1814n229y6n4y3n2y12n38y1n1y5n1y30994n46y18n30y132n102y3n4y1n62y2n2y1n1y1n8y21n5y1n3y821n",
   "43y1n14y6n80y20288n7y12n5y1033n26y6n26y1189n80y96n36y4n36y116n11y1n15y1n7y1n2y1n11y1n15y1n7",
   "y1n2y451n1y2n3y1n42y1n9y1221n51y13n51y93n22y10n22y2842n64y21856n64y25984n85y1n71y1n2y2n1y2n",
   "2y2n4y1n12y1n1y1n7y1n65y1n4y2n8y1n7y1n28y1n4y1n5y1n1y3n7y1n340y2n25y1n25y1n31y1n25y1n31y1n2",
   "5y1n31y1n25y1n31y1n25y1n8y1844n10y1n20y6n6y261n62y2194n68y2028n26y6n26y6n26y986742n"]

/-- The characters with the property `Changes_When_Casefolded` (`y`) and those without it (`n`). -/
def changesWhenCasefoldedRuns : Runs := Runs.ofLines
  ["65n26y90n1y10n23y1n8y32n1y1n1y1n1y1n1y1n1y1n1y1n1y1n1y1n1y1n1y1n1y1n1y1n1y1n1y1n1y1n1y1n1y1",
   "n1y1n1y1n1y1n1y1n1y1n1y1n1y1n1y1n1y1n1y1n1y2n1y1n1y1n1y1n1y1n1y1n1y1n1y1n1y1n2y1n1y1n1y1n1y",
   "1n1y1n1y1n1y1n1y1n1y1n1y1n1y1n1y1n1y1n1y1n1y1n1y1n1y1n1y1n1y1n1y1n1y1n1y1n1y1n2y1n1y1n1y1n1",
   "y1n2y1n1y1n2y1n3y2n4y1n2y1n3y3n2y1n2y1n1y1n1y1n2y1n1y2n1y1n2y1n3y1n1y1n2y3n1y7n2y1n2y1n2y1n",
   "1y1n1y1n1y1n1y1n1y1n1y1n1y1n1y2n1y1n1y1n1y1n1y1n1y1n1y1n1y1n1y1n1y2n2y1n1y1n3y1n1y1n1y1n1y1",
   "n1y1n1y1n1y1n1y1n1y1n1y1n1y1n1y1n1y1n1y1n1y1n1y1n1y1n1y1n1y1n1y1n1y1n1y1n1y1n1y1n1y1n1y1n1y",
   "1n1y1n1y1n1y7n2y1n2y2n1y1n4y1n1y1n1y1n1y1n1y246n1y42n1y1n1y3n1y8n1y6n1y1n3y1n1y1n2y1n17y1n9",
   "y22n1y12n3y3n2y1n1y1n1y1n1y1n1y1n1y1n1y1n1y1n1y1n1y1n1y1n1y1n1y1n2y2n2y1n1y1n2y2n51y48n1y1n",
   "1y1n1y1n1y1n1y1n1y1n1y1n1y1n1y1n1y1n1y1n1y1n1y1n1y1n1y1n1y1n1y9n1y1n1y1n1y1n1y1n1y1n1y1n1y1",
   "n1y1n1y1n1y1n1y1n1y1n1y1n1y1n1y1n1y1n1y1n1y1n1y1n1y1n1y1n1y1n1y1n1y1n1y1n1y1n1y1n2y1n1y1n1y",
   "1n1y1n1y1n1y1n1y2n1y1n1y1n1y1n1y1n1y1n1y1n1y1n1y1n1y1n1y1n1y1n1y1n1y1n1y1n1y1n1y1n1y1n1y1n1",
   "y1n1y1n1y1n1y1n1y1n1y1n1y1n1y1n1y1n1y1n1y1n1y1n1y1n1y1n1y1n1y1n1y1n1y1n1y1n1y1n1y1n1y1n1y1n",
   "1y1n1y1n1y1n1y1n1y1n1y1n1y2n38y48n1y2840n38y1n1y5n1y810n6y2178n10y6n43y2n3y320n1y1n1y1n1y1n",
   "1y1n1y1n1y1n1y1n1y1n1y1n1y1n1y1n1y1n1y1n1y1n1y1n1y1n1y1n1y1n1y1n1y1n1y1n1y1n1y1n1y1n1y1n1y1",
   "n1y1n1y1n1y1n1y1n1y1n1y1n1y1n1y1n1y1n1y1n1y1n1y1n1y1n1y1n1y1n1y1n1y1n1y1n1y1n1y1n1y1n1y1n1y",
   "1n1y1n1y1n1y1n1y1n1y1n1y1n1y1n1y1n1y1n1y1n1y1n1y1n1y1n1y1n1y1n1y1n1y1n1y1n1y1n1y1n1y1n1y1n1",
   "y1n1y1n1y1n1y5n2y2n1y1n1y1n1y1n1y1n1y1n1y1n1y1n1y1n1y1n1y1n1y1n1y1n1y1n1y1n1y1n1y1n1y1n1y1n",
   "1y1n1y1n1y1n1y1n1y1n1y1n1y1n1y1n1y1n1y1n1y1n1y1n1y1n1y1n1y1n1y1n1y1n1y1n1y1n1y1n1y1n1y1n1y1",
   "n1y1n1y1n1y1n1y1n1y1n1y1n1y1n1y9n8y8n6y10n8y8n8y8n6y11n1y1n1y1n1y1n1y8n8y16n48y2n3y2n6y5n3y",
   "2n6y11n4y12n5y5n3y2n6y297n1y3n2y6n1y45n16y19n1y818n26y1840n48y48n1y1n3y2n1y1n1y1n1y1n4y1n1y",
   "2n1y8n3y1n1y1n1y1n1y1n1y1n1y1n1y1n1y1n1y1n1y1n1y1n1y1n1y1n1y1n1y1n1y1n1y1n1y1n1y1n1y1n1y1n1",
   "y1n1y1n1y1n1y1n1y1n1y1n1y1n1y1n1y1n1y1n1y1n1y1n1y1n1y1n1y1n1y1n1y1n1y1n1y1n1y1n1y1n1y1n1y1n",
   "1y1n1y1n1y1n1y1n1y1n1y8n1y1n1y4n1y31053n1y1n1y1n1y1n1y1n1y1n1y1n1y1n1y1n1y1n1y1n1y1n1y1n1y1",
   "n1y1n1y1n1y1n1y1n1y1n1y1n1y1n1y1n1y1n1y19n1y1n1y1n1y1n1y1n1y1n1y1n1y1n1y1n1y1n1y1n1y1n1y1n1",
   "y1n1y135n1y1n1y1n1y1n1y1n1y1n1y1n1y3n1y1n1y1n1y1n1y1n1y1n1y1n1y1n1y1n1y1n1y1n1y1n1y1n1y1n1y",
   "1n1y1n1y1n1y1n1y1n1y1n1y1n1y1n1y1n1y1n1y1n1y1n1y1n1y1n1y1n1y1n1y1n1y10n1y1n1y1n2y1n1y1n1y1n",
   "1y1n1y4n1y1n1y2n1y1n1y3n1y1n1y1n1y1n1y1n1y1n1y1n1y1n1y1n1y1n1y1n5y1n5y1n1y1n1y1n1y1n1y1n1y1",
   "n1y1n1y1n4y1n1y1n2y3n1y5n1y1n1y1n1y1n1y24n1y890n80y20288n7y12n5y1033n26y1221n40y136n36y156n",
   "11y1n15y1n7y1n2y1770n51y157n22y2874n32y21888n32y31392n34y988894n"]

/-- The characters with the property `Changes_When_Casemapped` (`y`) and those without it (`n`). -/
def changesWhenCasemappedRuns : Runs := Runs.ofLines
  ["65n26y6n26y58n1y10n23y1n31y1n64y1n84y1n28y2n14y2n2y1n1y4n93y1n18y6n27y1n2y1n1y1n2y3n2y1n4y1",
   "n5y2n1y1n2y2n1y7n1y2n1y1n2y3n6y5n1y10n2y166n1y42n4y2n2y3n3y1n1y6n1y1n3y1n1y1n20y1n47y3n33y1",
   "n5y1n133y8n166y1n38y10n39y2840n38y1n1y5n1y2n43y2n3y672n86y2n6y2178n11y5n43y2n3y185n1y3n1y16",
   "n1y113n156y2n1y1n118y2n6y2n38y2n6y2n8y1n1y1n1y1n1y1n31y2n53y1n7y1n1y3n3y1n7y3n4y2n6y4n13y5n",
   "3y1n7y297n1y3n2y6n1y27n1y17n32y3n2y817n52y1814n113y1n2y1n2y7n102y7n4y3n2y12n38y1n1y5n1y3099",
   "4n46y18n28y134n14y2n62y9n15y3n3y2n5y1n25y1n30y2n2y4n7y24n2y860n1y28n80y20288n7y12n5y1033n26",
   "y6n26y1189n80y96n36y4n36y116n11y1n15y1n7y1n2y1n11y1n15y1n7y1n2y1731n51y13n51y93n22y10n22y28",
   "42n64y21856n64y31360n68y988860n"]

/-- The characters with the property `Changes_When_Lowercased` (`y`) and those without it (`n`). -/
def changesWhenLowercasedRuns : Runs := Runs.ofLines
  ["65n26y101n23y1n7y33n1y1n1y1n1y1n1y1n1y1n1y1n1y1n1y1n1y1n1y1n1y1n1y1n1y1n1y1n1y1n1y1n1y1n1y1",
   "n1y1n1y1n1y1n1y1n1y1n1y1n1y1n1y1n1y1n1y2n1y1n1y1n1y1n1y1n1y1n1y1n1y1n1y2n1y1n1y1n1y1n1y1n1y",
   "1n1y1n1y1n1y1n1y1n1y1n1y1n1y1n1y1n1y1n1y1n1y1n1y1n1y1n1y1n1y1n1y1n1y1n1y1n2y1n1y1n1y3n2y1n1",
   "y1n2y1n3y2n4y1n2y1n3y3n2y1n2y1n1y1n1y1n2y1n1y2n1y1n2y1n3y1n1y1n2y3n1y7n2y1n2y1n2y1n1y1n1y1n",
   "1y1n1y1n1y1n1y1n1y1n1y2n1y1n1y1n1y1n1y1n1y1n1y1n1y1n1y1n1y2n2y1n1y1n3y1n1y1n1y1n1y1n1y1n1y1",
   "n1y1n1y1n1y1n1y1n1y1n1y1n1y1n1y1n1y1n1y1n1y1n1y1n1y1n1y1n1y1n1y1n1y1n1y1n1y1n1y1n1y1n1y1n1y",
   "1n1y7n2y1n2y2n1y1n4y1n1y1n1y1n1y1n1y289n1y1n1y3n1y8n1y6n1y1n3y1n1y1n2y1n17y1n9y35n1y8n1y1n1",
   "y1n1y1n1y1n1y1n1y1n1y1n1y1n1y1n1y1n1y1n1y5n1y2n1y1n2y2n51y48n1y1n1y1n1y1n1y1n1y1n1y1n1y1n1y",
   "1n1y1n1y1n1y1n1y1n1y1n1y1n1y1n1y1n1y9n1y1n1y1n1y1n1y1n1y1n1y1n1y1n1y1n1y1n1y1n1y1n1y1n1y1n1",
   "y1n1y1n1y1n1y1n1y1n1y1n1y1n1y1n1y1n1y1n1y1n1y1n1y1n1y1n2y1n1y1n1y1n1y1n1y1n1y1n1y2n1y1n1y1n",
   "1y1n1y1n1y1n1y1n1y1n1y1n1y1n1y1n1y1n1y1n1y1n1y1n1y1n1y1n1y1n1y1n1y1n1y1n1y1n1y1n1y1n1y1n1y1",
   "n1y1n1y1n1y1n1y1n1y1n1y1n1y1n1y1n1y1n1y1n1y1n1y1n1y1n1y1n1y1n1y1n1y1n1y1n1y1n1y1n1y1n1y1n1y",
   "2n38y2889n38y1n1y5n1y722n86y2195n1y6n43y2n3y320n1y1n1y1n1y1n1y1n1y1n1y1n1y1n1y1n1y1n1y1n1y1",
   "n1y1n1y1n1y1n1y1n1y1n1y1n1y1n1y1n1y1n1y1n1y1n1y1n1y1n1y1n1y1n1y1n1y1n1y1n1y1n1y1n1y1n1y1n1y",
   "1n1y1n1y1n1y1n1y1n1y1n1y1n1y1n1y1n1y1n1y1n1y1n1y1n1y1n1y1n1y1n1y1n1y1n1y1n1y1n1y1n1y1n1y1n1",
   "y1n1y1n1y1n1y1n1y1n1y1n1y1n1y1n1y1n1y1n1y1n1y1n1y1n1y1n1y1n1y1n1y1n1y1n1y9n1y1n1y1n1y1n1y1n",
   "1y1n1y1n1y1n1y1n1y1n1y1n1y1n1y1n1y1n1y1n1y1n1y1n1y1n1y1n1y1n1y1n1y1n1y1n1y1n1y1n1y1n1y1n1y1",
   "n1y1n1y1n1y1n1y1n1y1n1y1n1y1n1y1n1y1n1y1n1y1n1y1n1y1n1y1n1y1n1y1n1y1n1y1n1y1n1y1n1y1n1y9n8y",
   "8n6y10n8y8n8y8n6y11n1y1n1y1n1y1n1y8n8y24n8y8n8y8n8y8n5y11n5y11n4y12n5y11n5y297n1y3n2y6n1y45",
   "n16y19n1y818n26y1840n48y48n1y1n3y2n1y1n1y1n1y1n4y1n1y2n1y8n3y1n1y1n1y1n1y1n1y1n1y1n1y1n1y1n",
   "1y1n1y1n1y1n1y1n1y1n1y1n1y1n1y1n1y1n1y1n1y1n1y1n1y1n1y1n1y1n1y1n1y1n1y1n1y1n1y1n1y1n1y1n1y1",
   "n1y1n1y1n1y1n1y1n1y1n1y1n1y1n1y1n1y1n1y1n1y1n1y1n1y1n1y1n1y1n1y1n1y1n1y1n1y8n1y1n1y4n1y3105",
   "3n1y1n1y1n1y1n1y1n1y1n1y1n1y1n1y1n1y1n1y1n1y1n1y1n1y1n1y1n1y1n1y1n1y1n1y1n1y1n1y1n1y1n1y1n1",
   "y19n1y1n1y1n1y1n1y1n1y1n1y1n1y1n1y1n1y1n1y1n1y1n1y1n1y1n1y135n1y1n1y1n1y1n1y1n1y1n1y1n1y3n1",
   "y1n1y1n1y1n1y1n1y1n1y1n1y1n1y1n1y1n1y1n1y1n1y1n1y1n1y1n1y1n1y1n1y1n1y1n1y1n1y1n1y1n1y1n1y1n",
   "1y1n1y1n1y1n1y1n1y1n1y1n1y1n1y10n1y1n1y1n2y1n1y1n1y1n1y1n1y4n1y1n1y2n1y1n1y3n1y1n1y1n1y1n1y",
   "1n1y1n1y1n1y1n1y1n1y1n1y1n5y1n5y1n1y1n1y1n1y1n1y1n1y1n1y1n1y1n4y1n1y1n2y3n1y5n1y1n1y1n1y1n1",
   "y24n1y22315n26y1221n40y136n36y156n11y1n15y1n7y1n2y1770n51y157n22y2874n32y21888n32y31392n34y",
   "988894n"]

/-- The characters with the property `Changes_When_Titlecased` (`y`) and those without it (`n`). -/
def changesWhenTitlecasedRuns : Runs := Runs.ofLines
  ["97n26y58n1y41n24y1n8y1n1y1n1y1n1y1n1y1n1y1n1y1n1y1n1y1n1y1n1y1n1y1n1y1n1y1n1y1n1y1n1y1n1y1n",
   "1y1n1y1n1y1n1y1n1y1n1y1n1y1n1y1n1y1n1y1n1y2n1y1n1y1n1y1n1y1n1y1n1y1n1y1n2y1n1y1n1y1n1y1n1y1",
   "n1y1n1y1n1y1n1y1n1y1n1y1n1y1n1y1n1y1n1y1n1y1n1y1n1y1n1y1n1y1n1y1n1y1n1y1n1y2n1y1n1y1n3y2n1y",
   "1n1y2n1y3n1y5n1y2n1y3n3y2n1y2n1y1n1y1n1y2n1y4n1y2n1y3n1y1n1y2n1y3n1y1n1y4n1y1n2y1n2y1n1y1n1",
   "y1n1y1n1y1n1y1n1y1n1y1n1y1n2y1n1y1n1y1n1y1n1y1n1y1n1y1n1y1n1y1n3y1n1y1n1y3n1y1n1y1n1y1n1y1n",
   "1y1n1y1n1y1n1y1n1y1n1y1n1y1n1y1n1y1n1y1n1y1n1y1n1y1n1y1n1y1n1y3n1y1n1y1n1y1n1y1n1y1n1y1n1y1",
   "n1y1n1y8n1y2n2y1n1y4n1y1n1y1n1y1n1y1n6y1n2y1n1y1n2y3n2y1n4y1n5y2n1y1n2y2n1y7n1y2n1y1n2y3n6y",
   "5n1y10n2y166n1y43n1y1n1y3n1y3n3y18n1y27n35y1n2y3n3y1n1y1n1y1n1y1n1y1n1y1n1y1n1y1n1y1n1y1n1y",
   "1n1y1n5y1n1y2n1y2n1y52n48y1n1y1n1y1n1y1n1y1n1y1n1y1n1y1n1y1n1y1n1y1n1y1n1y1n1y1n1y1n1y1n1y1",
   "n1y9n1y1n1y1n1y1n1y1n1y1n1y1n1y1n1y1n1y1n1y1n1y1n1y1n1y1n1y1n1y1n1y1n1y1n1y1n1y1n1y1n1y1n1y",
   "1n1y1n1y1n1y1n1y1n1y2n1y1n1y1n1y1n1y1n1y1n1y1n2y1n1y1n1y1n1y1n1y1n1y1n1y1n1y1n1y1n1y1n1y1n1",
   "y1n1y1n1y1n1y1n1y1n1y1n1y1n1y1n1y1n1y1n1y1n1y1n1y1n1y1n1y1n1y1n1y1n1y1n1y1n1y1n1y1n1y1n1y1n",
   "1y1n1y1n1y1n1y1n1y1n1y1n1y1n1y1n1y1n1y1n1y1n1y1n1y1n1y1n1y49n39y3696n6y2178n9y1n1y238n1y3n1",
   "y16n1y114n1y1n1y1n1y1n1y1n1y1n1y1n1y1n1y1n1y1n1y1n1y1n1y1n1y1n1y1n1y1n1y1n1y1n1y1n1y1n1y1n1",
   "y1n1y1n1y1n1y1n1y1n1y1n1y1n1y1n1y1n1y1n1y1n1y1n1y1n1y1n1y1n1y1n1y1n1y1n1y1n1y1n1y1n1y1n1y1n",
   "1y1n1y1n1y1n1y1n1y1n1y1n1y1n1y1n1y1n1y1n1y1n1y1n1y1n1y1n1y1n1y1n1y1n1y1n1y1n1y1n1y1n1y1n1y1",
   "n1y1n1y1n1y1n1y1n1y1n1y1n1y1n1y1n7y5n1y1n1y1n1y1n1y1n1y1n1y1n1y1n1y1n1y1n1y1n1y1n1y1n1y1n1y",
   "1n1y1n1y1n1y1n1y1n1y1n1y1n1y1n1y1n1y1n1y1n1y1n1y1n1y1n1y1n1y1n1y1n1y1n1y1n1y1n1y1n1y1n1y1n1",
   "y1n1y1n1y1n1y1n1y1n1y1n1y1n1y1n1y1n1y1n1y1n9y8n6y10n8y8n8y8n6y10n8y8n8y8n14y2n8y8n8y8n8y8n5",
   "y1n2y6n1y3n3y1n2y8n4y2n2y8n8y10n3y1n2y342n1y33n16y4n1y843n26y1862n48y1n1y3n2y1n1y1n1y1n1y6n",
   "1y2n1y10n1y1n1y1n1y1n1y1n1y1n1y1n1y1n1y1n1y1n1y1n1y1n1y1n1y1n1y1n1y1n1y1n1y1n1y1n1y1n1y1n1y",
   "1n1y1n1y1n1y1n1y1n1y1n1y1n1y1n1y1n1y1n1y1n1y1n1y1n1y1n1y1n1y1n1y1n1y1n1y1n1y1n1y1n1y1n1y1n1",
   "y1n1y1n1y1n1y1n1y1n1y1n1y8n1y1n1y4n1y12n38y1n1y5n1y30995n1y1n1y1n1y1n1y1n1y1n1y1n1y1n1y1n1y",
   "1n1y1n1y1n1y1n1y1n1y1n1y1n1y1n1y1n1y1n1y1n1y1n1y1n1y1n1y19n1y1n1y1n1y1n1y1n1y1n1y1n1y1n1y1n",
   "1y1n1y1n1y1n1y1n1y1n1y135n1y1n1y1n1y1n1y1n1y1n1y1n1y3n1y1n1y1n1y1n1y1n1y1n1y1n1y1n1y1n1y1n1",
   "y1n1y1n1y1n1y1n1y1n1y1n1y1n1y1n1y1n1y1n1y1n1y1n1y1n1y1n1y1n1y1n1y1n1y1n1y1n1y1n1y1n1y10n1y1",
   "n1y2n1y1n1y1n1y1n1y1n1y4n1y4n1y1n2y2n1y1n1y1n1y1n1y1n1y1n1y1n1y1n1y1n1y1n1y11n1y1n1y1n1y1n1",
   "y1n1y1n1y1n1y1n1y4n1y1n1y2n1y3n1y5n1y1n1y1n1y26n1y860n1y28n80y20288n7y12n5y1065n26y1229n40y",
   "136n36y155n11y1n15y1n7y1n2y1795n51y125n22y2874n32y21888n32y31394n34y988860n"]

/-- The characters with the property `Changes_When_Uppercased` (`y`) and those without it (`n`). -/
def changesWhenUppercasedRuns : Runs := Runs.ofLines
  ["97n26y58n1y41n24y1n8y1n1y1n1y1n1y1n1y1n1y1n1y1n1y1n1y1n1y1n1y1n1y1n1y1n1y1n1y1n1y1n1y1n1y1n",
   "1y1n1y1n1y1n1y1n1y1n1y1n1y1n1y1n1y1n1y1n1y2n1y1n1y1n1y1n1y1n1y1n1y1n1y1n2y1n1y1n1y1n1y1n1y1",
   "n1y1n1y1n1y1n1y1n1y1n1y1n1y1n1y1n1y1n1y1n1y1n1y1n1y1n1y1n1y1n1y1n1y1n1y1n1y2n1y1n1y1n3y2n1y",
   "1n1y2n1y3n1y5n1y2n1y3n3y2n1y2n1y1n1y1n1y2n1y4n1y2n1y3n1y1n1y2n1y3n1y1n1y5n2y1n2y1n2y1n1y1n1",
   "y1n1y1n1y1n1y1n1y1n1y1n2y1n1y1n1y1n1y1n1y1n1y1n1y1n1y1n1y1n2y1n2y1n1y3n1y1n1y1n1y1n1y1n1y1n",
   "1y1n1y1n1y1n1y1n1y1n1y1n1y1n1y1n1y1n1y1n1y1n1y1n1y1n1y1n1y3n1y1n1y1n1y1n1y1n1y1n1y1n1y1n1y1",
   "n1y8n1y2n2y1n1y4n1y1n1y1n1y1n1y1n6y1n2y1n1y1n2y3n2y1n4y1n5y2n1y1n2y2n1y7n1y2n1y1n2y3n6y5n1y",
   "10n2y166n1y43n1y1n1y3n1y3n3y18n1y27n35y1n2y3n3y1n1y1n1y1n1y1n1y1n1y1n1y1n1y1n1y1n1y1n1y1n1y",
   "1n5y1n1y2n1y2n1y52n48y1n1y1n1y1n1y1n1y1n1y1n1y1n1y1n1y1n1y1n1y1n1y1n1y1n1y1n1y1n1y1n1y1n1y9",
   "n1y1n1y1n1y1n1y1n1y1n1y1n1y1n1y1n1y1n1y1n1y1n1y1n1y1n1y1n1y1n1y1n1y1n1y1n1y1n1y1n1y1n1y1n1y",
   "1n1y1n1y1n1y1n1y2n1y1n1y1n1y1n1y1n1y1n1y1n2y1n1y1n1y1n1y1n1y1n1y1n1y1n1y1n1y1n1y1n1y1n1y1n1",
   "y1n1y1n1y1n1y1n1y1n1y1n1y1n1y1n1y1n1y1n1y1n1y1n1y1n1y1n1y1n1y1n1y1n1y1n1y1n1y1n1y1n1y1n1y1n",
   "1y1n1y1n1y1n1y1n1y1n1y1n1y1n1y1n1y1n1y1n1y1n1y1n1y1n1y49n39y2888n43y2n3y760n6y2178n9y1n1y23",
   "8n1y3n1y16n1y114n1y1n1y1n1y1n1y1n1y1n1y1n1y1n1y1n1y1n1y1n1y1n1y1n1y1n1y1n1y1n1y1n1y1n1y1n1y",
   "1n1y1n1y1n1y1n1y1n1y1n1y1n1y1n1y1n1y1n1y1n1y1n1y1n1y1n1y1n1y1n1y1n1y1n1y1n1y1n1y1n1y1n1y1n1",
   "y1n1y1n1y1n1y1n1y1n1y1n1y1n1y1n1y1n1y1n1y1n1y1n1y1n1y1n1y1n1y1n1y1n1y1n1y1n1y1n1y1n1y1n1y1n",
   "1y1n1y1n1y1n1y1n1y1n1y1n1y1n1y1n1y1n1y1n7y5n1y1n1y1n1y1n1y1n1y1n1y1n1y1n1y1n1y1n1y1n1y1n1y1",
   "n1y1n1y1n1y1n1y1n1y1n1y1n1y1n1y1n1y1n1y1n1y1n1y1n1y1n1y1n1y1n1y1n1y1n1y1n1y1n1y1n1y1n1y1n1y",
   "1n1y1n1y1n1y1n1y1n1y1n1y1n1y1n1y1n1y1n1y1n1y1n1y1n9y8n6y10n8y8n8y8n6y10n8y8n8y8n14y2n53y1n2",
   "y4n1y1n1y3n3y1n2y4n1y3n4y2n2y8n8y10n3y1n2y4n1y337n1y33n16y4n1y843n26y1862n48y1n1y3n2y1n1y1n",
   "1y1n1y6n1y2n1y10n1y1n1y1n1y1n1y1n1y1n1y1n1y1n1y1n1y1n1y1n1y1n1y1n1y1n1y1n1y1n1y1n1y1n1y1n1y",
   "1n1y1n1y1n1y1n1y1n1y1n1y1n1y1n1y1n1y1n1y1n1y1n1y1n1y1n1y1n1y1n1y1n1y1n1y1n1y1n1y1n1y1n1y1n1",
   "y1n1y1n1y1n1y1n1y1n1y1n1y1n1y1n1y8n1y1n1y4n1y12n38y1n1y5n1y30995n1y1n1y1n1y1n1y1n1y1n1y1n1y",
   "1n1y1n1y1n1y1n1y1n1y1n1y1n1y1n1y1n1y1n1y1n1y1n1y1n1y1n1y1n1y1n1y19n1y1n1y1n1y1n1y1n1y1n1y1n",
   "1y1n1y1n1y1n1y1n1y1n1y1n1y1n1y135n1y1n1y1n1y1n1y1n1y1n1y1n1y3n1y1n1y1n1y1n1y1n1y1n1y1n1y1n1",
   "y1n1y1n1y1n1y1n1y1n1y1n1y1n1y1n1y1n1y1n1y1n1y1n1y1n1y1n1y1n1y1n1y1n1y1n1y1n1y1n1y1n1y1n1y1n",
   "1y10n1y1n1y2n1y1n1y1n1y1n1y1n1y4n1y4n1y1n2y2n1y1n1y1n1y1n1y1n1y1n1y1n1y1n1y1n1y1n1y11n1y1n1",
   "y1n1y1n1y1n1y1n1y1n1y1n1y4n1y1n1y2n1y3n1y5n1y1n1y1n1y26n1y860n1y28n80y20288n7y12n5y1065n26y",
   "1229n40y136n36y155n11y1n15y1n7y1n2y1795n51y125n22y2874n32y21888n32y31394n34y988860n"]

/-- The characters with the property `Dash` (`y`) and those without it (`n`). -/
def dashRuns : Runs := Runs.ofLines
  ["45n1y1372n1y51n1y3649n1y1029n1y2057n6y61n1y39n1y15n1y390n1y3076n1y2n1y31n2y4n1y28n1y446n1y1",
   "9n1y111n1y52624n2y37n1y10n1y169n1y3680n1y318n1y1044818n"]

/-- The characters with the property `Default_Ignorable_Code_Point` (`y`) and those without it
(`n`). -/
def defaultIgnorableCodePointRuns : Runs := Runs.ofLines
  ["173n1y673n1y716n1y2882n2y1619n2y85n5y2043n5y26n5y49n16y4340n1y52379n16y239n1y160n1y79n9y482",
   "95n4y5327n8y798341n4096y192512n"]

/-- The characters with the property `Deprecated` (`y`) and those without it (`n`). -/
def deprecatedRuns : Runs := Runs.ofLines
  ["329n1y1321n1y2307n1y1n1y2089n2y2245n6y697n2y908502n1y196606n"]

/-- The characters with the property `Diacritic` (`y`) and those without it (`n`). -/
def diacriticRuns : Runs := Runs.ofLines
  ["94n1y1n1y71n1y6n1y4n1y2n2y503n159y1n8y5n6y17n2y4n1y9n2y253n5y209n1y55n45y1n1y1n2y1n2y1n1y13",
   "1n8y4n2y134n2y4n2y3n3y67n27y91n11y58n11y34n2y126n8y41n10y16n28y61n1y16n1y3n4y28n1y74n1y16n1",
   "y110n1y16n1y110n1y16n1y47n3y60n1y16n1y7n1y119n1y110n1y16n1y110n1y16n1y109n2y16n1y124n1y111n",
   "1y12n6y1n1y107n1y13n5y75n2y27n1y1n1y1n1y4n2y66n3y1n2y62n1y112n1y1n2y40n2y4n5y25n7y1n1y10n2y",
   "705n3y948n2y30n1y148n11y9n1y347n3y292n1y20n8y2n1y48n15y2n11y104n1y15n1y38n9y54n2y58n1y11n2y",
   "66n2y64n6y82n25y4n1y6n1y2n3y50n63y48n36y5n12y37n11y445n1y1n3y11n3y13n3y13n3y13n2y3312n3y317",
   "n1y506n6y105n4y95n1y30066n1y12n2y1n1y28n2y82n2y14n34y102n3y109n2y12n1y37n1y151n1y27n18y57n4",
   "y36n1y95n1y12n1y36n1y149n3y65n4y51n1y100n5y9n3y128n2y20272n1y769n16y270n1y1n1y47n1y45n2y67n",
   "1y764n1y1183n6y1n42y1n9y637n3y4n1y165n2y571n6y38n1y26n5y399n3y70n11y49n4y192n1y41n1y72n2y12",
   "0n2y62n1y76n1y9n3y104n2y178n2y80n2y16n1y24n7y3n5y89n3y1n2y13n2y95n1y3n1y123n2y251n2y126n1y1",
   "18n2y115n1y269n2y258n2y4n1y156n1y83n1y18n1y81n1y421n1y258n1y1n2y81n1y425n2y23n1y5356n15y114",
   "81n1y2496n5y59n7y564n2y546n17y80n2y16382n4y1n7y1n2y7937n46y2n23y544n3y3n6y8n8y2n7y30n4y3714",
   "n62y194n7y375n1y61n4y766n2y736n7y109n3y1n3y988853n"]

/-- The characters with the property `Emoji` (`y`) and those without it (`n`). -/
def emojiRuns : Runs := Runs.ofLines
  ["35n1y6n1y5n10y111n1y4n1y8077n1y12n1y216n1y22n1y90n6y15n2y367n2y12n1y166n1y25n11y4n3y199n1y2",
   "31n2y10n1y9n1y58n4y1n5y9n1y2n1y2n2y2n1y4n1y2n1y1n2y2n1y3n1y3n2y8n3y5n1y1n1y5n12y11n2y2n1y1n",
   "2y1n1y18n1y2n2y18n6y1n1y1n2y3n2y5n1y2n2y4n2y11n2y5n2y2n1y5n2y1n1y1n2y20n2y5n6y1n4y2n1y4n1y2",
   "n1y2n6y1n1y2n1y1n1y1n1y6n1y3n1y6n1y10n2y15n1y2n1y4n1y1n1y4n3y1n1y11n2y48n3y9n1y14n1y14n1y37",
   "2n2y463n3y19n2y51n1y4n1y1242n1y12n1y601n1y1n1y114026n1y202n1y160n2y12n2y14n1y2n10y75n26y1n2",
   "y23n1y20n1y2n9y21n2y174n34y2n112y2n2y1n3y2n83y2n3y1n263y1n63y11n6y1n24y7n2y2n8y12n1y2n4y2n1",
   "y4n2y13n2y2n1y8n2y9n1y5n3y12n3y8n3y2n1y1n1y4n1y6n1y3n1y6n86y48n70y5n8y2n3y4n10y3n1y1n2y3n1y",
   "2n10y227n12y4n1y283n47y1n10y1n185y112n13y3n10y5n56y7n15y2n11y6n9y984327n"]

/-- The characters with the property `Emoji_Component` (`y`) and those without it (`n`). -/
def emojiComponentRuns : Runs := Runs.ofLines
  ["35n1y6n1y5n10y8147n1y213n1y56619n1y62422n26y507n5y1456n4y788076n96y196480n"]

/-- The characters with the property `Emoji_Modifier` (`y`) and those without it (`n`). -/
def emojiModifierRuns : Runs := Runs.ofLines
  ["127995n5y986112n"]

/-- The characters with the property `Emoji_Modifier_Base` (`y`) and those without it (`n`). -/
def emojiModifierBaseRuns : Runs := Runs.ofLines
  ["9757n1y219n1y16n4y117879n1y60n3y2n1y2n3y117n2y2n11y21n19y3n1y4n3y1n3y7n1y1n1y24n1y201n2y4n1",
   "y21n1y4n2y174n3y3n5y83n1y16n3y9n1y11n1y575n1y2n1y8n8y6n1y9n10y2n3y56n1y61n2y1n2y1n1y17n3y1n",
   "13y229n3y42n9y984327n"]

/-- The characters with the property `Emoji_Presentation` (`y`) and those without it (`n`). -/
def emojiPresentationRuns : Runs := Runs.ofLines
  ["8986n2y205n4y3n1y2n1y521n2y21n2y50n12y43n1y19n1y13n1y8n2y17n2y5n2y8n1y5n1y21n1y7n2y1n1y4n1y",
   "2n1y7n1y4n2y28n1y35n1y1n1y4n3y1n1y61n3y24n1y14n1y859n2y51n1y4n1y115886n1y202n1y190n1y2n10y7",
   "5n26y1n1y24n1y20n1y2n5y1n3y21n2y174n33y12n9y1n70y1n22y12n43y4n5y12n17y3n1y3n71y1n1y1n187y2n",
   "63y13n4y1n24y18n1y26n2y13n1y86n85y48n70y6n1y3n3y2n3y4n4y11n2y7n9y227n12y4n1y283n47y1n10y1n1",
   "85y112n13y3n10y5n56y7n15y2n11y6n9y984327n"]

/-- The characters with the property `Extended_Pictographic` (`y`) and those without it (`n`). -/
def extendedPictographicRuns : Runs := Runs.ofLines
  ["169n1y4n1y8077n1y12n1y216n1y22n1y90n6y15n2y367n2y12n1y95n1y70n1y25n11y4n3y199n1y231n2y10n1y",
   "9n1y58n4y1n6y1n12y1n114y10n118y2n11y1n1y1n1y6n1y3n1y6n1y10n2y15n1y2n1y4n1y1n1y4n3y1n1y11n5y",
   "45n3y9n1y14n1y14n1y372n2y463n3y19n2y51n1y4n1y1242n1y12n1y601n1y1n1y114022n256y13n3y31n1y60n",
   "6y12n2y14n1y2n10y18n57y27n15y10n1y20n1y2n9y1n4y9n434y5n318y8n266y48n128y116n12y85n43y12n4y5",
   "6n8y10n6y40n8y30n82y12n47y1n10y1n441y256n1022y983042n"]

/-- The characters with the property `Extender` (`y`) and those without it (`n`). -/
def extenderRuns : Runs := Runs.ofLines
  ["183n1y536n2y878n1y441n1y630n1y137n1y89n1y752n1y127n1y2371n1y56n1y611n1y398n1y68n1y5001n1y43",
   "n5y103n2y93n3y28438n1y1526n1y962n1y22n1y137n1y108n1y21n2y21627n1y2064n2y1483n1y27n1y4n1y122",
   "3n1y293n1y116n2y498n3y1231n1y20649n2y1180n2y1n1y29016n2y1201n1y852n3y988857n"]

/-- The characters with the property `Grapheme_Base` (`y`) and those without it (`n`). -/
def graphemeBaseRuns : Runs := Runs.ofLines
  ["32n95y33n13y1n594y112n8y2n6y4n7y1n1y1n20y1n224y7n166y1n38y2n50y2n3y46n1y1n1y2n1y2n1y9n27y4n",
   "6y17n10y11n1y1n46y21n16y1n101y8n1y6n2y2n1y4n32y2n1y1n30y29n89y11n1y14n43y9n7y3n24y4n1y9n1y3",
   "n1y7n15y1n25y5n1y1n11y5n31y17n42y57n55y1n1y1n4y8n4y1n3y7n10y2n29y1n2y1n8y2n2y2n22y1n7y1n1y3",
   "n4y3n1y1n2y6n2y2n2y1n1y13n2y1n3y4n24y5n1y1n6y4n2y2n22y1n7y1n2y1n2y1n2y4n3y24n4y1n1y7n10y2n3",
   "y1n1y12n1y1n9y1n3y1n22y1n7y1n2y1n5y3n4y8n1y1n2y3n1y15n2y4n12y7n1y8n2y1n8y2n2y2n22y1n7y1n2y1",
   "n5y3n1y2n1y6n2y2n2y15n2y1n3y4n18y11n1y1n6y3n3y1n4y3n2y1n1y1n2y3n2y3n3y3n12y5n1y1n2y3n3y1n3y",
   "3n1y21n21y6n3y1n8y1n3y1n23y1n16y3n1y3n4y19n3y2n1y2n2y4n10y7n10y1n11y1n3y1n23y1n10y1n5y3n2y2",
   "n1y1n2y24n2y1n2y4n10y1n3y14n11y1n3y1n41y2n1y1n2y5n3y1n3y1n2y4n3y1n10y4n26y2n2y1n18y3n24y1n9",
   "y1n1y2n7y9n2y6n7y7n10y2n3y12n48y1n2y11n8y8n13y37n2y1n1y1n5y1n24y1n1y1n10y1n2y9n1y2n5y1n1y9n",
   "10y2n4y32n24y2n27y1n1y1n1y1n14y1n36y18n1y5n1y2n5y49n8y1n6y1n13y37n45y4n1y6n1y2n2y2n25y2n4y3",
   "n16y4n13y1n2y2n6y1n15y1n40y1n1y5n1y2n377y1n4y2n7y1n1y1n4y2n41y1n4y2n33y1n4y2n7y1n1y1n4y2n15",
   "y1n57y1n4y2n67y5n29y3n26y6n86y2n6y2n669y3n89y7n18y13n19y3n2y9n18y14n13y1n3y15n52y2n1y7n8y1n",
   "2y11n9y3n10y6n10y6n11y5n10y6n89y7n5y2n34y1n1y5n70y10n31y4n4y2n3y4n2y1n6y7n1y3n42y2n5y11n44y",
   "4n26y6n11y3n57y2n2y3n56y1n1y9n1y1n2y8n6y13n10y6n10y6n14y86n48y10n4y3n8y1n29y9n12y2n32y4n2y6",
   "n56y1n1y2n3y1n1y13n48y8n2y5n15y3n62y5n43y2n11y11n1y13n1y7n4y1n6y1n3y2n1y5n192y64n278y2n6y2n",
   "38y2n6y2n8y1n1y1n1y1n1y1n31y2n53y1n15y1n14y2n6y1n19y2n3y1n9y1n11y5n24y7n49y16n2y2n27y1n13y3",
   "n33y63n140y4n666y22n11y21n1812y2n32y1n344y3n2y5n45y1n1y5n1y2n56y7n2y15n23y9n7y1n7y1n7y1n7y1",
   "n7y1n7y1n7y1n7y33n94y34n26y1n89y12n214y26n58y6n16y1n86y4n101y5n43y1n94y1n86y9n48y1n29293y3n",
   "55y9n348y20n47y4n1y10n32y2n80y2n6y8n206y2n2y1n1y1n8y21n16y1n3y1n4y1n25y2n5y4n10y6n56y8n68y1",
   "0n12y24n13y1n38y8n25y11n1y12n30y6n48y1n2y4n2y2n2y1n13y1n11y4n7y1n25y1n41y6n2y2n2y11n3y1n8y1",
   "n1y2n10y2n32y1n51y1n1y3n2y2n5y2n1y1n1y24n17y2n8y11n6y2n6y2n6y9n7y1n7y1n60y4n117y1n2y1n4y3n1",
   "0y6n11172y12n23y4n49y8452n366y2n106y38n7y12n5y5n1y1n24y1n5y1n1y1n2y1n2y1n125y16n445y2n54y7n",
   "1y32n16y16n10y22n35y1n19y1n4y4n5y1n135y4n157y2n31y3n6y2n6y2n6y2n3y3n7y1n7y13n2y2n12y1n26y1n",
   "19y1n2y1n15y2n14y34n123y5n3y4n45y3n88y1n13y3n1y47n45y131n29y3n49y16n27y4n36y9n30y5n38y10n30",
   "y1n37y4n14y42n158y2n10y6n36y4n36y4n40y8n52y11n12y1n15y1n7y1n2y1n11y1n15y1n7y1n2y3n52y12n311",
   "y9n22y10n8y24n6y1n42y1n9y69n6y2n1y1n44y1n2y3n1y2n23y1n72y8n9y48n19y1n2y5n33y3n27y5n1y64n56y",
   "4n20y2n47y15n4y1n3y1n29y10n9y7n9y7n64y32n37y6n12y9n54y3n29y2n27y5n26y7n4y12n7y80n73y55n51y1",
   "3n51y7n42y12n10y6n38y8n24y8n2y208n31y1n42y3n1y2n2y16n3y59n40y8n22y11n9y22n18y4n4y38n28y20n2",
   "3y9n1y1n54y15n7y4n30y1n2y2n1y12n49y4n2y2n2y1n4y14n25y7n10y9n36y5n1y9n18y8n35y1n3y11n52y9n1y",
   "1n8y4n2y1n16y1n20y11n18y1n28y3n2y4n6y1n2y63n7y1n1y1n4y1n15y1n11y6n47y1n3y13n10y8n2y1n8y2n2y",
   "2n22y1n7y1n2y1n5y3n1y1n1y1n4y2n2y2n2y3n1y12n7y28n10y1n1y2n1y1n38y1n1y1n2y15n1y1n2y3n1y1n3y1",
   "n2y39n56y8n2y3n1y1n21y1n1y1n3y30n48y1n2y6n1y1n2y1n1y2n1y2n4y8n10y166n47y1n2y6n4y2n1y2n27y36",
   "n51y8n2y1n1y2n4y11n10y6n13y19n43y1n1y1n2y8n2y6n10y6n20y28n27y3n1y1n2y4n1y9n23y185n47y9n1y2n",
   "1y100n83y12n8y2n1y2n8y1n2y1n24y1n5y1n2y6n4y1n3y9n10y70n8y2n42y8n4y1n4y27n1y10n40y6n2y4n8y9n",
   "1y6n2y3n46y13n1y2n9y13n73y7n10y182n34y14n10y6n9y1n38y14n1y1n6y10n29y3n32y25n1y7n1y2n1y75n7y",
   "1n2y1n38y21n1y9n10y6n6y1n2y1n37y4n2y1n1y1n1y7n10y310n19y2n4y9n15y1n36y8n2y3n23y86n1y15n50y1",
   "3n923y102n111y1n5y11n196y2636n99y13n1072y17n6y25n3995y5n583y6841n30y12n3y3n10y1734n569y7n31",
   "y1n10y4n81y1n10y6n30y7n1y10n48y7n15y10n10y1n7y1n21y5n19y432n58y198n91y101n75y5n56y11n13y64n",
   "4y28n6136y8n1238y41n10y8935n4y1n7y1n2y1n291y15n1y29n3y2n1y14n4y8n396y2308n107y5n13y3n9y7n10",
   "y2n1y2n1y3936n250y6n436y156n116y60n246y10n39y2n60y5n3y22n2y7n30y4n61y21n66y3n1y122n20y12n20",
   "y12n87y9n25y135n85y1n71y1n2y2n1y2n2y2n4y1n12y1n1y1n7y1n65y1n4y2n8y1n7y1n28y1n4y1n5y1n1y3n7y",
   "1n340y2n292y2n562y55n4y50n8y1n14y1n7y1140n31y6n6y261n62y146n45y10n7y2n10y4n2y320n30y18n44y4",
   "n10y5n1y464n28y4n10y214n30y2n11y4n1y480n7y1n4y1n2y1n15y1n197y2n9y48n68y7n1y4n10y4n2y785n68y",
   "76n61y194n4y1n27y1n2y1n1y2n1y1n10y1n4y1n1y1n1y6n1y4n1y1n1y1n1y1n3y1n2y1n1y2n1y1n1y1n1y1n1y1",
   "n1y1n2y1n1y2n4y1n7y1n4y1n4y1n1y1n10y1n17y5n3y1n5y1n17y52n2y270n44y4n100y12n15y2n15y1n15y1n3",
   "7y10n174y56n29y13n44y4n9y7n2y14n6y154n984y4n17y3n13y3n119y4n95y6n12y4n1y15n12y4n56y8n10y6n4",
   "0y8n30y2n12y4n2y62n340y12n14y2n13y3n10y5n56y7n15y2n11y6n9y7n147y1n102y1030n42720y32n4154y6n",
   "222y2n5762y14n7473y15n622y2466n542y1506n4939y5n4192y908368n"]

/-- The characters with the property `Grapheme_Extend` (`y`) and those without it (`n`). -/
def graphemeExtendRuns : Runs := Runs.ofLines
  ["768n112y275n7y263n45y1n1y1n2y1n2y1n1y72n11y48n21y16n1y101n7y2n6y2n2y1n4y35n1y30n27y91n11y58",
   "n9y9n1y24n4y1n9y1n3y1n5y43n3y59n9y42n24y1n32y55n1y1n1y4n8y4n1y3n7y10n2y29n1y58n1y1n1y2n4y8n",
   "1y9n1y10n2y26n1y2n2y57n1y4n2y4n2y2n3y3n1y30n2y3n1y11n2y57n1y4n5y1n2y4n1y20n2y22n6y1n1y58n1y",
   "1n2y1n4y8n1y7n3y10n2y30n1y59n1y1n1y12n1y9n1y40n1y3n1y55n1y1n3y5n3y1n4y7n2y11n2y29n1y58n1y2n",
   "2y1n1y3n3y1n4y7n2y11n2y28n2y57n2y1n1y2n4y8n1y9n1y10n2y29n1y72n1y4n1y2n3y1n1y8n1y81n1y2n7y12",
   "n8y98n1y2n9y11n7y73n2y27n1y1n1y1n1y55n14y1n5y1n2y5n11y1n36y9n1y102n4y1n6y1n2y2n2y25n2y4n3y1",
   "6n4y13n1y2n2y6n1y15n1y703n3y946n4y28n3y29n2y30n2y64n2y1n7y8n1y2n11y9n1y45n3y1n1y117n2y34n1y",
   "118n3y4n2y9n1y6n3y219n2y2n1y58n1y1n7y1n1y1n1y2n8y6n10y2n1y48n31y49n4y48n10y4n3y38n9y12n2y32",
   "n4y2n6y56n1y1n2y3n1y1n5y56n8y2n2y152n3y1n13y1n7y4n1y6n1y3n2y198n64y524n1y195n33y3070n3y141n",
   "1y96n32y554n6y105n2y30164n4y1n10y32n2y80n2y272n1y3n1y4n1y25n2y5n1y151n2y26n18y13n1y38n8y25n",
   "11y1n1y44n3y48n1y2n4y2n2y2n1y36n1y67n6y2n2y2n2y12n1y8n1y47n1y51n1y1n3y2n2y5n2y1n1y42n2y8n1y",
   "238n1y2n1y4n1y20272n1y737n16y16n16y366n2y605n1y226n1y149n5y1670n3y1n2y5n4y40n3y4n1y165n2y57",
   "3n4y65n5y317n2y79n4y70n11y49n4y123n1y54n15y41n1y2n2y10n3y49n4y2n2y7n1y61n3y36n5y1n8y62n1y12",
   "n2y52n9y1n1y8n4y2n1y95n3y2n4y6n1y2n1y157n1y3n8y21n2y57n2y1n1y1n1y12n1y9n1y14n7y3n5y67n1y2n6",
   "y1n1y2n1y1n3y4n3y1n1y14n2y85n8y2n3y1n1y23n1y81n1y2n6y1n1y2n1y1n2y1n2y235n1y2n4y6n2y1n2y27n2",
   "y85n8y2n1y1n2y106n1y1n1y2n8y101n1y1n1y2n4y1n5y259n9y1n2y245n1y10n4y4n1y144n4y2n2y4n1y32n10y",
   "40n6y2n4y8n1y9n6y2n3y46n13y1n2y406n7y1n6y1n1y82n22y2n7y1n2y1n2y122n6y3n1y1n2y1n7y1n1y72n2y3",
   "n1y1n1y347n2y11n2y52n5y5n3y23n1y5349n1y6n15y11464n12y3n3y2496n5y59n7y1048n1y63n4y81n1y11n2y",
   "19627n2y4705n46y2n23y542n5y3n6y8n8y2n7y30n4y148n3y1979n55y4n50y8n1y14n1y22n5y1n15y1360n7y1n",
   "17y2n7y1n2y1n5y100n1y160n7y375n1y61n4y508n4y254n2y736n7y109n7y792277n96y128n240y196112n"]

/-- The characters with the property `Grapheme_Link` (`y`) and those without it (`n`). -/
def graphemeLinkRuns : Runs := Runs.ofLines
  ["2381n1y127n1y127n1y127n1y127n1y127n1y127n1y127n1y109n2y16n1y124n1y111n1y127n1y201n1y180n2y1",
   "753n2y30n1y157n1y653n1y227n1y101n2y70n2y4491n1y31366n1y37n1y151n1y142n1y108n1y309n1y246n1y2",
   "4145n1y1542n1y41n1y14n1y57n1y121n2y139n1y116n1y180n1y98n1y128n3y113n1y127n1y252n1y127n1y118",
   "n1y116n1y269n1y259n2y161n1y83n1y18n1y81n1y421n1y260n2y81n1y425n2y16876n1y1023696n"]

/-- The characters with the property `Hex_Digit` (`y`) and those without it (`n`). -/
def hexDigitRuns : Runs := Runs.ofLines
  ["48n10y7n6y26n6y65193n10y7n6y26n6y1048761n"]

/-- The characters with the property `Hyphen` (`y`) and those without it (`n`). -/
def hyphenRuns : Runs := Runs.ofLines
  ["45n1y127n1y1244n1y4731n1y2057n2y3589n1y739n1y52583n1y169n1y87n1y1048730n"]

/-- The characters with the property `IDS_Binary_Operator` (`y`) and those without it (`n`). -/
def idsBinaryOperatorRuns : Runs := Runs.ofLines
  ["12272n2y2n10y497n1y1101328n"]

/-- The characters with the property `IDS_Trinary_Operator` (`y`) and those without it (`n`). -/
def idsTrinaryOperatorRuns : Runs := Runs.ofLines
  ["12274n2y1101836n"]

/-- The characters with the property `IDS_Unary_Operator` (`y`) and those without it (`n`). -/
def idsUnaryOperatorRuns : Runs := Runs.ofLines
  ["12286n2y1101824n"]

/-- The characters with the property `ID_Compat_Math_Continue` (`y`) and those without it (`n`). -/
def idCompatMathContinueRuns : Runs := Runs.ofLines
  ["178n2y5n1y8118n1y3n11y1n15y371n1y4n1y22n1y111778n1y25n1y31n1y25n1y31n1y25n1y31n1y25n1y31n1y",
   "25n1y993340n"]

/-- The characters with the property `ID_Compat_Math_Start` (`y`) and those without it (`n`). -/
def idCompatMathStartRuns : Runs := Runs.ofLines
  ["8706n1y4n1y22n1y111778n1y25n1y31n1y25n1y31n1y25n1y31n1y25n1y31n1y25n1y993340n"]

/-- The characters with the property `ID_Continue` (`y`) and those without it (`n`). -/
def idContinueRuns : Runs := Runs.ofLines
  ["48n10y7n26y4n1y1n26y47n1y10n1y1n1y2n1y5n23y1n31y1n458y4n12y14n5y7n1y1n1y17n117y1n2y2n4y1n1y",
   "6n5y1n1y1n20y1n83y1n139y1n5y2n166y1n38y2n1y6n41y8n45y1n1y1n2y1n2y1n1y8n27y4n4y29n11y5n74y4n",
   "102y1n8y2n10y1n19y2n1y16n59y2n101y14n54y4n1y2n1y2n46y18n28y4n11y5n24y1n6y8n75y1n129y2n10y1n",
   "19y1n8y2n2y2n22y1n7y1n1y3n4y2n9y2n2y2n4y8n1y4n2y1n5y2n12y10n1y1n1y2n3y1n6y4n2y2n22y1n7y1n2y",
   "1n2y1n2y2n1y1n5y4n2y2n3y3n1y7n4y1n1y7n16y11n3y1n9y1n3y1n22y1n7y1n2y1n5y2n10y1n3y1n3y2n1y15n",
   "4y2n10y9n7y1n3y1n8y2n2y2n22y1n7y1n2y1n5y2n9y2n2y2n3y7n3y4n2y1n5y2n10y1n1y16n2y1n6y3n3y1n4y3",
   "n2y1n1y1n2y3n2y3n3y3n12y4n5y3n3y1n4y2n1y6n1y14n10y16n13y1n3y1n23y1n16y2n9y1n3y1n4y7n2y1n3y2",
   "n1y2n4y2n10y16n4y1n8y1n3y1n23y1n10y1n5y2n9y1n3y1n4y7n2y6n2y1n4y2n10y1n3y12n13y1n3y1n51y1n3y",
   "1n5y5n4y7n5y2n10y10n6y1n3y1n18y3n24y1n9y1n1y2n7y3n1y4n6y1n1y1n8y6n10y2n2y13n58y5n15y1n10y39",
   "n2y1n1y1n5y1n24y1n1y1n23y2n5y1n1y1n7y1n10y2n4y32n1y23n2y6n10y11n1y1n1y1n1y4n10y1n36y4n20y1n",
   "18y1n36y9n1y57n74y6n78y2n38y1n1y5n1y2n43y1n333y1n4y2n7y1n1y1n4y2n41y1n4y2n33y1n4y2n7y1n1y1n",
   "4y2n15y1n57y1n4y2n67y2n3y9n9y14n16y16n86y2n6y3n620y2n17y1n26y5n75y3n11y7n22y9n22y11n20y12n1",
   "3y1n3y1n2y12n84y3n1y4n2y2n10y33n3y1n11y6n89y7n43y5n70y10n31y1n12y4n12y10n40y2n5y11n44y4n26y",
   "6n11y37n28y4n63y1n29y2n11y6n10y13n1y8n14y1n16y49n77y3n10y17n9y12n116y12n56y8n10y3n49y2n11y5",
   "n43y2n3y16n3y1n39y5n534y2n6y2n38y2n6y2n8y1n1y1n1y1n1y1n31y2n53y1n7y1n1y3n3y1n7y3n4y2n6y4n13",
   "y5n3y1n7y15n2y49n2y19n1y28n1y13n1y16n13y51n13y4n1y3n12y17n1y4n1y2n10y1n1y2n6y6n1y1n1y1n1y1n",
   "16y2n4y5n5y4n1y17n41y2679n229y6n9y12n38y1n1y5n1y2n56y7n1y15n24y9n7y1n7y1n7y1n7y1n7y1n7y1n7y",
   "1n7y1n32y517n3y25n15y1n5y2n5y4n86y2n7y1n95y5n43y1n94y17n32y48n16y512n6592y64n22157y67n46y2n",
   "269y3n28y20n48y4n10y1n115y37n9y2n103y2n67y2n2y1n1y1n8y21n54y4n1y19n52y12n70y10n10y6n24y3n1y",
   "1n49y2n36y12n29y3n65y14n11y6n31y1n55y9n14y2n10y6n23y3n73y24n3y2n16y2n5y10n6y2n6y2n6y9n7y1n7",
   "y1n43y1n14y6n123y1n2y2n10y6n11172y12n23y4n49y8452n366y2n106y38n7y12n5y5n12y1n13y1n5y1n1y1n2",
   "y1n2y1n108y33n363y18n64y2n54y40n12y4n16y16n16y3n2y24n3y32n5y1n135y19n10y7n26y4n1y1n26y10n90",
   "y3n6y2n6y2n6y2n3y35n12y1n26y1n19y1n2y1n15y2n14y34n123y69n53y136n1y130n29y3n49y15n1y31n32y13",
   "n30y5n43y5n30y2n36y4n8y1n5y42n158y2n10y6n36y4n36y4n40y8n52y12n11y1n15y1n7y1n2y1n11y1n15y1n7",
   "y1n2y3n52y12n311y9n22y10n8y24n6y1n42y1n9y69n6y2n1y1n44y1n2y3n1y2n23y10n23y9n31y65n19y1n2y10",
   "n22y10n26y70n56y6n2y64n4y1n2y5n8y1n3y1n29y2n3y4n1y32n29y3n29y35n8y1n30y25n54y10n22y10n19y13",
   "n18y110n73y55n51y13n51y13n40y8n10y6n38y3n5y1n23y250n42y1n2y3n2y16n3y55n33y10n1y8n33y31n22y4",
   "2n21y27n23y9n71y31n16y9n60y7n1y13n25y7n10y6n53y1n10y4n4y8n36y2n1y9n69y4n4y1n13y1n1y35n18y1n",
   "37y6n4y62n7y1n1y1n4y1n15y1n10y7n59y5n10y6n4y1n8y2n2y2n22y1n7y1n2y1n5y1n10y2n2y2n3y2n1y6n1y5",
   "n7y2n7y3n5y11n10y1n1y2n1y1n38y1n10y1n1y2n1y1n4y1n8y13n2y29n75y5n10y4n4y30n70y1n1y8n10y166n5",
   "4y2n9y23n6y34n65y3n1y11n10y38n57y7n10y6n20y28n27y2n15y4n10y6n7y185n59y101n74y21n8y2n1y2n8y1",
   "n2y1n30y1n2y2n9y12n10y70n8y2n46y2n8y1n2y27n63y8n1y8n74y3n1y18n73y199n33y15n10y6n9y1n45y1n9y",
   "15n10y24n30y2n22y1n14y73n7y1n2y1n44y3n1y1n2y1n9y8n10y6n6y1n2y1n37y1n2y1n6y7n10y310n23y9n17y",
   "1n41y3n5y13n11y85n1y79n922y102n111y17n196y2636n97y15n1072y16n22y10n3995y5n583y6841n58y1734n",
   "569y7n31y1n10y6n79y1n10y6n30y2n5y11n55y9n4y12n10y9n21y5n19y432n45y3n10y198n64y128n75y4n57y7",
   "n17y64n2y1n2y11n2y14n6136y8n1238y41n10y8935n4y1n7y1n2y1n291y15n1y29n3y2n1y14n4y8n396y2308n1",
   "07y5n13y3n9y7n10y3n2y4177n10y518n46y2n23y542n5y3n6y8n8y2n7y30n4y148n3y443n85y1n71y1n2y2n1y2",
   "n2y2n4y1n12y1n1y1n7y1n65y1n4y2n8y1n7y1n28y1n4y1n5y1n1y3n7y1n340y2n25y1n25y1n31y1n25y1n31y1n",
   "25y1n31y1n25y1n31y1n25y1n8y2n50y512n55y4n50y8n1y14n1y22n5y1n15y1104n31y6n6y213n7y1n17y2n7y1",
   "n2y1n5y5n62y33n1y112n45y3n14y2n10y4n1y321n31y17n58y470n42y214n43y485n7y1n4y1n2y1n15y1n197y1",
   "1n7y41n76y4n10y1190n4y1n27y1n2y1n1y2n1y1n10y1n4y1n1y1n1y6n1y4n1y1n1y1n1y1n3y1n2y1n1y2n1y1n1",
   "y1n1y1n1y1n1y1n2y1n1y2n4y1n7y1n4y1n4y1n1y1n10y1n17y5n3y1n5y1n17y3380n10y1030n42720y32n4154y",
   "6n222y2n5762y14n7473y15n622y2466n542y1506n4939y5n4192y712016n240y196112n"]

/-- The characters with the property `ID_Start` (`y`) and those without it (`n`). -/
def idStartRuns : Runs := Runs.ofLines
  ["65n26y6n26y47n1y10n1y4n1y5n23y1n31y1n458y4n12y14n5y7n1y1n1y129n5y1n2y2n4y1n1y6n1y1n3y1n1y1n",
   "20y1n83y1n139y8n166y1n38y2n1y6n41y71n27y4n4y45n43y35n2y1n99y1n1y15n2y7n2y10n3y2n1y16n1y1n30",
   "y29n89y11n1y24n33y9n2y4n1y5n22y4n1y9n1y3n1y23n25y7n11y5n24y1n6y17n42y58n54y3n1y18n1y7n10y15",
   "n16y4n8y2n2y2n22y1n7y1n1y3n4y3n1y16n1y13n2y1n3y14n2y10n1y8n6y4n2y2n22y1n7y1n2y1n2y1n2y31n4y",
   "1n1y19n3y16n9y1n3y1n22y1n7y1n2y1n5y3n1y18n1y15n2y23n1y11n8y2n2y2n22y1n7y1n2y1n5y3n1y30n2y1n",
   "3y15n1y17n1y1n6y3n3y1n4y3n2y1n1y1n2y3n2y3n3y3n12y22n1y52n8y1n3y1n23y1n16y3n1y26n3y2n1y2n2y3",
   "0n1y4n8y1n3y1n23y1n10y1n5y3n1y31n2y1n2y15n2y17n9y1n3y1n41y2n1y16n1y5n3y8n3y24n6y5n18y3n24y1",
   "n9y1n1y2n7y58n48y1n2y12n7y58n2y1n1y1n5y1n24y1n1y1n10y1n2y9n1y2n5y1n1y21n4y32n1y63n8y1n36y27",
   "n5y115n43y20n1y16n6y4n4y3n1y3n2y7n3y4n13y12n1y17n38y1n1y5n1y2n43y1n333y1n4y2n7y1n1y1n4y2n41",
   "y1n4y2n33y1n4y2n7y1n1y1n4y2n15y1n57y1n4y2n67y37n16y16n86y2n6y3n620y2n17y1n26y5n75y3n11y7n18",
   "y13n19y14n18y14n13y1n3y15n52y35n1y4n1y67n89y7n41y1n1y5n70y10n31y49n30y2n5y11n44y4n26y54n23y",
   "9n53y82n1y93n47y17n8y54n30y13n2y10n44y26n36y41n3y10n36y2n11y5n43y2n3y41n4y1n6y1n2y3n1y5n192",
   "y64n278y2n6y2n38y2n6y2n8y1n1y1n1y1n1y1n31y2n53y1n7y1n1y3n3y1n7y3n4y2n6y4n13y5n3y1n7y116n1y1",
   "3n1y16n13y101n1y4n1y2n10y1n1y2n6y6n1y1n1y1n1y1n16y2n4y5n5y4n1y17n41y2679n229y6n4y3n2y12n38y",
   "1n1y5n1y2n56y7n1y16n23y9n7y1n7y1n7y1n7y1n7y1n7y1n7y1n7y550n3y25n9y7n5y2n5y4n86y4n5y1n90y1n4",
   "y5n43y1n94y17n32y48n16y512n6592y64n22157y67n46y2n269y3n16y10n2y20n47y16n31y2n80y39n9y2n103y",
   "2n67y2n2y1n1y1n8y21n16y1n3y1n4y1n23y29n52y14n50y62n6y3n1y1n2y11n28y10n23y25n29y7n47y28n1y16",
   "n5y1n10y10n5y1n41y23n3y1n8y20n23y3n1y3n50y1n1y3n2y2n5y2n1y1n1y24n3y2n11y7n3y12n6y2n6y2n6y9n",
   "7y1n7y1n43y1n14y6n115y29n11172y12n23y4n49y8452n366y2n106y38n7y12n5y5n1y1n10y1n13y1n5y1n1y1n",
   "2y1n2y1n108y33n363y18n64y2n54y40n12y116n5y1n135y36n26y6n26y11n89y3n6y2n6y2n6y2n3y35n12y1n26",
   "y1n19y1n2y1n15y2n14y34n123y69n53y267n29y3n49y47n32y13n30y5n38y10n30y2n36y4n8y1n5y42n158y18n",
   "36y4n36y4n40y8n52y12n11y1n15y1n7y1n2y1n11y1n15y1n7y1n2y3n52y12n311y9n22y10n8y24n6y1n42y1n9y",
   "69n6y2n1y1n44y1n2y3n1y2n23y10n23y9n31y65n19y1n2y10n22y10n26y70n56y6n2y64n1y15n4y1n3y1n29y42",
   "n29y3n29y35n8y1n28y27n54y10n22y10n19y13n18y110n73y55n51y13n51y13n36y38n28y9n23y250n42y6n2y1",
   "6n3y59n29y10n1y8n22y42n18y46n21y27n23y12n53y57n2y2n1y13n45y32n25y26n36y29n1y2n1y8n35y3n1y12",
   "n48y14n4y21n1y1n1y35n18y1n25y19n2y63n7y1n1y1n4y1n15y1n10y7n47y38n8y2n2y2n22y1n7y1n2y1n5y3n1",
   "y18n1y12n5y30n10y1n1y2n1y1n38y1n1y25n1y1n1y44n53y18n4y20n3y30n48y20n2y1n1y184n47y41n4y36n48",
   "y20n1y59n43y13n1y71n27y37n7y185n44y116n64y31n8y2n1y2n8y1n2y1n24y15n1y1n1y94n8y2n39y16n1y1n1",
   "y28n1y10n40y7n1y21n1y11n46y19n1y18n73y199n33y31n9y1n37y17n1y49n30y112n7y1n2y1n38y21n1y25n6y",
   "1n2y1n32y14n1y327n19y15n1y1n13y1n34y124n1y79n922y102n111y17n196y2636n97y15n1072y17n6y25n399",
   "5y5n583y6841n30y1762n569y7n31y17n79y17n30y18n48y16n4y31n21y5n19y432n45y211n64y128n75y5n1y66",
   "n13y64n2y1n1y28n6136y8n1238y41n10y8935n4y1n7y1n2y1n291y15n1y29n3y2n1y14n4y8n396y2308n107y5n",
   "13y3n9y7n10y5990n85y1n71y1n2y2n1y2n2y2n4y1n12y1n1y1n7y1n65y1n4y2n8y1n7y1n28y1n4y1n5y1n1y3n7",
   "y1n340y2n25y1n25y1n31y1n25y1n31y1n25y1n31y1n25y1n31y1n25y1n8y1844n31y6n6y261n62y146n45y10n7",
   "y16n1y321n30y18n44y484n28y228n30y2n1y495n7y1n4y1n2y1n15y1n197y59n68y7n1y1204n4y1n27y1n2y1n1",
   "y2n1y1n10y1n4y1n1y1n1y6n1y4n1y1n1y1n1y1n3y1n2y1n1y2n1y1n1y1n1y1n1y1n1y1n2y1n1y2n4y1n7y1n4y1",
   "n4y1n1y1n10y1n17y5n3y1n5y1n17y4420n42720y32n4154y6n222y2n5762y14n7473y15n622y2466n542y1506n",
   "4939y5n4192y908368n"]

/-- The characters with the property `Ideographic` (`y`) and those without it (`n`). -/
def ideographicRuns : Runs := Runs.ofLines
  ["12294n2y25n9y14n3y965n6592y64n20992y22784n366y2n106y29962n1y27n6136y8n1238y41n10y9319n396y1",
   "9716n42720y32n4154y6n222y2n5762y14n7473y15n622y2466n542y1506n4939y5n4192y908368n"]

/-- The characters with the property `Join_Control` (`y`) and those without it (`n`). -/
def joinControlRuns : Runs := Runs.ofLines
  ["8204n2y1105906n"]

/-- The characters with the property `Logical_Order_Exception` (`y`) and those without it (`n`). -/
def logicalOrderExceptionRuns : Runs := Runs.ofLines
  ["3648n5y123n5y2800n3y2n1y37114n2y2n1y1n2y1070403n"]

/-- The characters with the property `Lowercase` (`y`) and those without it (`n`). -/
def lowercaseRuns : Runs := Runs.ofLines
  ["97n26y47n1y10n1y4n1y36n24y1n8y1n1y1n1y1n1y1n1y1n1y1n1y1n1y1n1y1n1y1n1y1n1y1n1y1n1y1n1y1n1y1",
   "n1y1n1y1n1y1n1y1n1y1n1y1n1y1n1y1n1y1n1y1n1y1n1y1n2y1n1y1n1y1n1y1n1y1n1y1n1y1n1y1n2y1n1y1n1y",
   "1n1y1n1y1n1y1n1y1n1y1n1y1n1y1n1y1n1y1n1y1n1y1n1y1n1y1n1y1n1y1n1y1n1y1n1y1n1y1n1y1n1y2n1y1n1",
   "y1n3y2n1y1n1y2n1y3n2y4n1y2n1y3n3y2n1y2n1y1n1y1n1y2n1y1n2y1n1y2n1y3n1y1n1y2n2y2n3y6n1y2n1y2n",
   "1y1n1y1n1y1n1y1n1y1n1y1n1y1n1y1n2y1n1y1n1y1n1y1n1y1n1y1n1y1n1y1n1y1n2y2n1y1n1y3n1y1n1y1n1y1",
   "n1y1n1y1n1y1n1y1n1y1n1y1n1y1n1y1n1y1n1y1n1y1n1y1n1y1n1y1n1y1n1y1n1y1n1y1n1y1n1y1n1y1n1y1n1y",
   "1n1y1n1y1n1y1n7y2n1y2n2y1n1y4n1y1n1y1n1y1n1y1n69y1n36y7n2y30n5y96n1y43n1y1n1y3n1y2n4y18n1y2",
   "7n35y1n2y3n3y1n1y1n1y1n1y1n1y1n1y1n1y1n1y1n1y1n1y1n1y1n1y1n5y1n1y2n1y2n2y51n48y1n1y1n1y1n1y",
   "1n1y1n1y1n1y1n1y1n1y1n1y1n1y1n1y1n1y1n1y1n1y1n1y1n1y1n1y9n1y1n1y1n1y1n1y1n1y1n1y1n1y1n1y1n1",
   "y1n1y1n1y1n1y1n1y1n1y1n1y1n1y1n1y1n1y1n1y1n1y1n1y1n1y1n1y1n1y1n1y1n1y1n1y2n1y1n1y1n1y1n1y1n",
   "1y1n1y1n2y1n1y1n1y1n1y1n1y1n1y1n1y1n1y1n1y1n1y1n1y1n1y1n1y1n1y1n1y1n1y1n1y1n1y1n1y1n1y1n1y1",
   "n1y1n1y1n1y1n1y1n1y1n1y1n1y1n1y1n1y1n1y1n1y1n1y1n1y1n1y1n1y1n1y1n1y1n1y1n1y1n1y1n1y1n1y1n1y",
   "1n1y1n1y1n1y1n1y1n1y48n41y2887n43y1n4y760n6y2178n9y1n1y117n192y65n1y1n1y1n1y1n1y1n1y1n1y1n1",
   "y1n1y1n1y1n1y1n1y1n1y1n1y1n1y1n1y1n1y1n1y1n1y1n1y1n1y1n1y1n1y1n1y1n1y1n1y1n1y1n1y1n1y1n1y1n",
   "1y1n1y1n1y1n1y1n1y1n1y1n1y1n1y1n1y1n1y1n1y1n1y1n1y1n1y1n1y1n1y1n1y1n1y1n1y1n1y1n1y1n1y1n1y1",
   "n1y1n1y1n1y1n1y1n1y1n1y1n1y1n1y1n1y1n1y1n1y1n1y1n1y1n1y1n1y1n1y1n1y1n1y1n1y1n1y1n1y1n1y1n9y",
   "1n1y1n1y1n1y1n1y1n1y1n1y1n1y1n1y1n1y1n1y1n1y1n1y1n1y1n1y1n1y1n1y1n1y1n1y1n1y1n1y1n1y1n1y1n1",
   "y1n1y1n1y1n1y1n1y1n1y1n1y1n1y1n1y1n1y1n1y1n1y1n1y1n1y1n1y1n1y1n1y1n1y1n1y1n1y1n1y1n1y1n1y1n",
   "1y1n1y1n1y1n9y8n6y10n8y8n8y8n6y10n8y8n8y8n14y2n8y8n8y8n8y8n5y1n2y6n1y3n3y1n2y8n4y2n2y8n8y10",
   "n3y1n2y121n1y13n1y16n13y109n1y3n2y3n1y27n1y4n1y4n1y2n2y8n4y4n1y33n16y4n1y843n26y1862n48y1n1",
   "y3n2y1n1y1n1y1n1y4n1y1n2y1n8y3n1y1n1y1n1y1n1y1n1y1n1y1n1y1n1y1n1y1n1y1n1y1n1y1n1y1n1y1n1y1n",
   "1y1n1y1n1y1n1y1n1y1n1y1n1y1n1y1n1y1n1y1n1y1n1y1n1y1n1y1n1y1n1y1n1y1n1y1n1y1n1y1n1y1n1y1n1y1",
   "n1y1n1y1n1y1n1y1n1y1n1y1n1y1n1y1n1y1n1y1n1y1n2y7n1y1n1y4n1y12n38y1n1y5n1y30995n1y1n1y1n1y1n",
   "1y1n1y1n1y1n1y1n1y1n1y1n1y1n1y1n1y1n1y1n1y1n1y1n1y1n1y1n1y1n1y1n1y1n1y1n1y1n1y19n1y1n1y1n1y",
   "1n1y1n1y1n1y1n1y1n1y1n1y1n1y1n1y1n1y1n1y1n3y133n1y1n1y1n1y1n1y1n1y1n1y1n3y1n1y1n1y1n1y1n1y1",
   "n1y1n1y1n1y1n1y1n1y1n1y1n1y1n1y1n1y1n1y1n1y1n1y1n1y1n1y1n1y1n1y1n1y1n1y1n1y1n1y1n1y1n1y1n1y",
   "1n1y1n1y1n1y1n10y1n1y1n1y2n1y1n1y1n1y1n1y1n1y4n1y1n1y2n1y1n3y1n1y1n1y1n1y1n1y1n1y1n1y1n1y1n",
   "1y1n1y1n1y5n1y5n1y1n1y1n1y1n1y1n1y1n1y1n1y1n1y4n1y1n1y2n1y3n1y1n1y1n1y1n1y1n1y1n1y22n3y1n1y",
   "1n3y821n43y1n14y6n80y20288n7y12n5y1065n26y1229n40y136n36y155n11y1n15y1n7y1n2y451n1y2n3y1n42",
   "y1n9y1285n51y125n22y2874n32y21888n32y26010n26y26n7y1n18y26n26y26n4y1n1y1n7y1n11y26n26y26n26",
   "y26n26y26n26y26n26y26n26y26n26y26n26y26n28y28n25y1n6y26n25y1n6y26n25y1n6y26n25y1n6y26n25y1n",
   "6y1n1y1844n10y1n20y6n6y261n62y2228n34y988860n"]

/-- The characters with the property `Math` (`y`) and those without it (`n`). -/
def mathRuns : Runs := Runs.ofLines
  ["43n1y16n3y31n1y29n1y1n1y45n1y4n1y37n1y31n1y728n3y2n1y26n2y2n3y527n3y6669n1y27n3y11n1y3n1y13",
   "n1y14n4y21n5y11n5y65n13y4n1y3n2y4n5y18n1y4n1y2n10y1n1y2n6y6n1y3n2y2n2y1n3y1n6y3n14y1n1y68n2",
   "4y1n6y1n2y4n2y4n32y1n1y6n2y14n268y8n4y20n2y90n1y30n27y1n1y24n1y11n7y445n2y12n10y4n6y4n2y2n2",
   "y3n5y14n1y1n1y2n6y11n8y5n2y57n1y1n1y29n4y9n3y336n64y256n512y48n21y2n6y53212n1y823n6y1n1y162",
   "n1y16n3y29n1y1n1y29n1y1n1y131n1y6n4y3489n2y50800n85y1n71y1n2y2n1y2n2y2n4y1n12y1n1y1n7y1n65y",
   "1n4y2n8y1n7y1n28y1n4y1n5y1n1y3n7y1n340y2n292y2n50y5632n4y1n27y1n2y1n1y2n1y1n10y1n4y1n1y1n1y",
   "6n1y4n1y1n1y1n1y1n3y1n2y1n1y2n1y1n1y1n1y1n1y1n1y1n2y1n1y2n4y1n7y1n4y1n4y1n1y1n10y1n17y5n3y1",
   "n5y1n17y52n2y987406n"]

/-- The characters with the property `Modifier_Combining_Mark` (`y`) and those without it (`n`). -/
def modifierCombiningMarkRuns : Runs := Runs.ofLines
  ["1620n2y2n1y131n1y6n1y3n2y481n2y1n3y3n1y31n1y1111820n"]

/-- The characters with the property `Noncharacter_Code_Point` (`y`) and those without it (`n`). -/
def noncharacterCodePointRuns : Runs := Runs.ofLines
  ["64976n32y526n2y65534n2y65534n2y65534n2y65534n2y65534n2y65534n2y65534n2y65534n2y65534n2y6553",
   "4n2y65534n2y65534n2y65534n2y65534n2y65534n2y65534n2y"]

/-- The characters with the property `Other_Alphabetic` (`y`) and those without it (`n`). -/
def otherAlphabeticRuns : Runs := Runs.ofLines
  ["837n1y29n13y576n14y1n1y1n2y1n2y1n1y72n11y48n13y1n7y16n1y101n7y4n4y2n2y4n1y35n1y30n16y102n11",
   "y101n2y3n9y1n3y1n4y106n1y60n12y3n7y6n20y54n2y2n15y1n2y5n3y10n2y29n3y58n7y2n2y2n2y10n1y10n2y",
   "29n3y58n5y4n2y2n2y4n1y30n2y3n1y11n3y58n8y1n3y1n2y21n2y22n3y4n3y58n7y2n2y2n2y9n2y10n2y30n1y5",
   "9n5y3n3y1n3y10n1y40n5y57n7y1n3y1n3y8n2y11n2y29n3y58n7y1n3y1n3y8n2y11n2y15n1y12n4y58n7y1n3y1",
   "n3y10n1y10n2y29n3y75n6y1n1y1n8y18n2y61n1y2n7y18n1y99n1y2n6y1n2y16n1y163n19y9n11y1n36y110n12",
   "y1n1y2n4y23n4y4n3y1n3y2n7y3n4y13n12y1n1y10n4y1652n2y30n2y30n2y30n2y66n19y188n2y34n1y118n12y",
   "4n9y222n5y57n10y2n20y74n2y11n3y49n5y48n15y60n3y30n9y2n2y57n11y50n19y412n34y1729n52y2294n32y",
   "30836n8y34n2y354n1y8n1y23n5y88n2y50n16y1n1y57n1y38n5y28n12y45n4y48n12y37n1y67n14y12n1y8n2y4",
   "5n3y50n1y1n3y2n2y5n1y44n5y5n1y237n8y20275n1y2135n5y1670n3y1n2y5n4y788n4y65n1y321n2y79n1y259",
   "n3y53n14y45n2y11n3y45n9y9n1y61n3y36n12y18n2y57n3y48n13y14n2y92n9y2n1y6n1y2n1y157n10y23n4y58",
   "n7y2n2y2n2y10n1y10n2y84n9y1n1y2n1y1n4y1n2y103n13y1n3y106n18y237n7y2n7y29n2y82n15y1n1y106n11",
   "y103n14y257n13y247n6y1n2y2n2y3n1y1n1y142n7y2n6y4n1y28n10y42n5y1n4y18n11y46n14y407n8y1n7y83n",
   "22y1n14y122n6y3n1y1n2y1n3y1n1y3n1y66n5y1n2y1n4y348n4y9n2y1n1y48n7y3n3y16861n17y3616n1y1n55y",
   "7n4y93n2y19628n1y9057n7y1n17y2n7y1n2y1n5y100n1y2231n1y2024n26y6n26y6n26y986742n"]

/-- The characters with the property `Other_Default_Ignorable_Code_Point` (`y`) and those without
it (`n`). -/
def otherDefaultIgnorableCodePointRuns : Runs := Runs.ofLines
  ["847n1y3599n2y1619n2y2223n1y4350n1y52795n1y79n9y851975n1y1n30y96n128y240n3600y192512n"]

/-- The characters with the property `Other_Grapheme_Extend` (`y`) and those without it (`n`). -/
def otherGraphemeExtendRuns : Runs := Runs.ofLines
  ["2494n1y24n1y358n1y24n1y102n1y24n1y232n1y1n1y4n2y1n2y9n2y103n1y24n1y119n1y15n1y2357n1y30n1y1",
   "024n1y5n1y1n1y5n2y101n1y71n2y1048n1y4129n2y31011n1y108n1y21981n2y4640n1y116n1y264n1y14n1y9n",
   "1y96n1y9n1y2n1y1n3y5n1y224n1y12n1y241n1y262n1y633n1y12n1y1539n1y20654n2y24947n2y6n6y798381n",
   "96y196480n"]

/-- The characters with the property `Other_ID_Continue` (`y`) and those without it (`n`). -/
def otherIDContinueRuns : Runs := Runs.ofLines
  ["183n1y719n1y4065n9y1640n1y1585n2y4333n1y52841n1y1048730n"]

/-- The characters with the property `Other_ID_Start` (`y`) and those without it (`n`). -/
def otherIDStartRuns : Runs := Runs.ofLines
  ["6277n2y2193n1y21n1y3948n2y1101667n"]

/-- The characters with the property `Other_Lowercase` (`y`) and those without it (`n`). -/
def otherLowercaseRuns : Runs := Runs.ofLines
  ["170n1y15n1y501n9y7n2y30n5y96n1y52n1y3457n1y3119n63y13n1y34n37y689n1y13n1y16n13y211n16y848n2",
   "6y1938n2y31262n2y210n1y129n3y3n2y866n4y9n1y23574n1y2n3y1n42y1n9y55413n62y991122n"]

/-- The characters with the property `Other_Math` (`y`) and those without it (`n`). -/
def otherMathRuns : Runs := Runs.ofLines
  ["94n1y881n3y2n1y26n2y2n2y7200n1y27n3y11n1y32n4y24n2y14n2y65n13y4n1y3n2y4n5y18n1y4n1y2n10y1n1",
   "y3n5y6n1y3n2y2n2y1n3y1n6y3n4y5n5y75n5y2n4y1n2y1n2y1n1y1n5y2n2y4n2y4n18y2n2y1n1y1n7y1n1y6n2y",
   "290n4y168n2y1n1y24n1y17n1y445n2y12n9y5n5y5n2y2n2y3n5y14n1y1n1y2n6y24n2y57n1y1n1y29n4y9n2y34",
   "2n2y31n10y403n22y63n4y32n2y54371n1y1n1y4n1y211n1y1n1y54465n85y1n71y1n2y2n1y2n2y2n4y1n12y1n1",
   "y1n7y1n65y1n4y2n8y1n7y1n28y1n4y1n5y1n1y3n7y1n340y2n25y1n25y1n31y1n25y1n31y1n25y1n31y1n25y1n",
   "31y1n25y1n8y2n50y5632n4y1n27y1n2y1n1y2n1y1n10y1n4y1n1y1n1y6n1y4n1y1n1y1n1y1n3y1n2y1n1y2n1y1",
   "n1y1n1y1n1y1n1y1n2y1n1y2n4y1n7y1n4y1n4y1n1y1n10y1n17y5n3y1n5y1n17y987460n"]

/-- The characters with the property `Other_Uppercase` (`y`) and those without it (`n`). -/
def otherUppercaseRuns : Runs := Runs.ofLines
  ["8544n16y838n26y117856n26y6n26y6n26y986742n"]

/-- The characters with the property `Pattern_Syntax` (`y`) and those without it (`n`). -/
def patternSyntaxRuns : Runs := Runs.ofLines
  ["33n15y10n7y26n4y1n1y26n4y34n7y1n1y1n2y1n1y1n2y4n1y4n1y3n1y23n1y31n1y7960n24y8n15y2n19y1n10y",
   "305n720y160n630y30n1132y512n128y385n3y4n25y15n1y52493n2y261n2y1049017n"]

/-- The characters with the property `Pattern_White_Space` (`y`) and those without it (`n`). -/
def patternWhiteSpaceRuns : Runs := Runs.ofLines
  ["9n5y18n1y100n1y8072n2y24n2y1105878n"]

/-- The characters with the property `Prepended_Concatenation_Mark` (`y`) and those without it
(`n`). -/
def prependedConcatenationMarkRuns : Runs := Runs.ofLines
  ["1536n6y215n1y49n1y384n2y80n1y67546n1y15n1y1044274n"]

/-- The characters with the property `Quotation_Mark` (`y`) and those without it (`n`). -/
def quotationMarkRuns : Runs := Runs.ofLines
  ["34n1y4n1y131n1y15n1y8028n8y25n2y3591n1y457n4y13n3y52769n4y189n1y4n1y90n2y1048732n"]

/-- The characters with the property `Radical` (`y`) and those without it (`n`). -/
def radicalRuns : Runs := Runs.ofLines
  ["11904n26y1n89y12n214y1101866n"]

/-- The characters with the property `Regional_Indicator` (`y`) and those without it (`n`). -/
def regionalIndicatorRuns : Runs := Runs.ofLines
  ["127462n26y986624n"]

/-- The characters with the property `Sentence_Terminal` (`y`) and those without it (`n`). -/
def sentenceTerminalRuns : Runs := Runs.ofLines
  ["33n1y12n1y16n1y1353n1y147n3y180n1y43n3y246n1y61n1y1n1y3n2y293n2y1764n2y790n1y4n2y773n1y198n",
   "2y157n2y45n1y5n1y314n2y354n4y162n2y10n2y2n2y29n3y187n2y65n2y932n1y23n2y9n3y3247n3y306n1y13n",
   "1y22n2y429n1y29948n1y270n2y227n1y3n1y382n2y86n2y95n1y152n2y147n3y144n2y249n1y21030n1y2n2y59",
   "n1y3n2y169n1y12n1y16n1y65n1y2804n2y1277n5y44n4y189n2y117n4y127n3y129n2y6n1y16n2y88n2y1n2y10",
   "8n1y298n2y117n2y373n2y5n15y105n2y249n3y517n1y1n1y251n2y87n2y420n2y692n2y74n2y19241n2y133n1y",
   "65n2y11n1y553n2y296n1y19974n1y7656n1y992631n"]

/-- The characters with the property `Soft_Dotted` (`y`) and those without it (`n`). -/
def softDottedRuns : Runs := Runs.ofLines
  ["105n2y196n1y281n1y30n1y52n1y20n1y320n1y98n1y1n1y6409n1y51n1y13n1y3n1y132n1y157n1y421n1y214n",
   "2y2866n1y108453n2y50n2y50n2y50n2y50n2y50n2y50n2y50n2y50n2y50n2y50n2y50n2y50n2y2182n1y305n2y",
   "26n1y991127n"]

/-- The characters with the property `Terminal_Punctuation` (`y`) and those without it (`n`). -/
def terminalPunctuationRuns : Runs := Runs.ofLines
  ["33n1y10n1y1n1y11n2y3n1y830n1y8n1y513n1y57n1y72n1y14n1y1n3y180n1y43n11y1n1y235n2y54n6y1n8y31",
   "n1y261n2y1268n2y172n1y4n6y311n2y789n8y773n1y124n3y71n2y157n3y3n1y39n4y2n2y314n2y354n4y162n2",
   "y10n2y1n3y29n3y187n5y62n2y932n1y23n2y9n3y3247n3y306n1y13n1y4n1y10n1y1n2y3n2y428n2y29947n2y2",
   "69n3y227n5y382n2y86n2y95n1y151n3y147n3y127n1y16n2y249n1y21030n1y2n2y57n3y1n4y169n1y10n1y1n1",
   "y11n2y3n1y65n1y2n1y1082n1y48n1y1158n1y199n1y310n2y152n6y68n6y89n4y952n5y44n4y189n7y112n4y12",
   "7n3y129n2y6n1y16n2y88n5y108n1y298n2y117n3y12n2y358n4y3n15y105n2y249n3y517n1y1n1y251n2y87n2y",
   "4n2y414n3y45n1y645n2y74n2y1323n5y17913n2y133n1y65n3y10n1y553n2y295n2y19974n1y7655n4y992629n"]

/-- The characters with the property `Unified_Ideograph` (`y`) and those without it (`n`). -/
def unifiedIdeographRuns : Runs := Runs.ofLines
  ["13312n6592y64n20992y23054n2y1n1y1n2y10n1y1n1y1n2y2n3y67030n42720y32n4154y6n222y2n5762y14n74",
   "73y15n622y4514n4939y5n4192y908368n"]

/-- The characters with the property `Uppercase` (`y`) and those without it (`n`). -/
def uppercaseRuns : Runs := Runs.ofLines
  ["65n26y101n23y1n7y33n1y1n1y1n1y1n1y1n1y1n1y1n1y1n1y1n1y1n1y1n1y1n1y1n1y1n1y1n1y1n1y1n1y1n1y1",
   "n1y1n1y1n1y1n1y1n1y1n1y1n1y1n1y1n1y1n1y2n1y1n1y1n1y1n1y1n1y1n1y1n1y1n1y2n1y1n1y1n1y1n1y1n1y",
   "1n1y1n1y1n1y1n1y1n1y1n1y1n1y1n1y1n1y1n1y1n1y1n1y1n1y1n1y1n1y1n1y1n1y1n1y1n2y1n1y1n1y3n2y1n1",
   "y1n2y1n3y2n4y1n2y1n3y3n2y1n2y1n1y1n1y1n2y1n1y2n1y1n2y1n3y1n1y1n2y3n1y7n1y2n1y2n1y2n1y1n1y1n",
   "1y1n1y1n1y1n1y1n1y1n1y2n1y1n1y1n1y1n1y1n1y1n1y1n1y1n1y1n1y2n1y2n1y1n3y1n1y1n1y1n1y1n1y1n1y1",
   "n1y1n1y1n1y1n1y1n1y1n1y1n1y1n1y1n1y1n1y1n1y1n1y1n1y1n1y1n1y1n1y1n1y1n1y1n1y1n1y1n1y1n1y1n1y",
   "1n1y7n2y1n2y2n1y1n4y1n1y1n1y1n1y1n1y289n1y1n1y3n1y8n1y6n1y1n3y1n1y1n2y1n17y1n9y35n1y2n3y3n1",
   "y1n1y1n1y1n1y1n1y1n1y1n1y1n1y1n1y1n1y1n1y1n1y5n1y2n1y1n2y2n51y48n1y1n1y1n1y1n1y1n1y1n1y1n1y",
   "1n1y1n1y1n1y1n1y1n1y1n1y1n1y1n1y1n1y1n1y9n1y1n1y1n1y1n1y1n1y1n1y1n1y1n1y1n1y1n1y1n1y1n1y1n1",
   "y1n1y1n1y1n1y1n1y1n1y1n1y1n1y1n1y1n1y1n1y1n1y1n1y1n1y1n1y1n2y1n1y1n1y1n1y1n1y1n1y1n1y2n1y1n",
   "1y1n1y1n1y1n1y1n1y1n1y1n1y1n1y1n1y1n1y1n1y1n1y1n1y1n1y1n1y1n1y1n1y1n1y1n1y1n1y1n1y1n1y1n1y1",
   "n1y1n1y1n1y1n1y1n1y1n1y1n1y1n1y1n1y1n1y1n1y1n1y1n1y1n1y1n1y1n1y1n1y1n1y1n1y1n1y1n1y1n1y1n1y",
   "1n1y2n38y2889n38y1n1y5n1y722n86y2195n1y6n43y2n3y320n1y1n1y1n1y1n1y1n1y1n1y1n1y1n1y1n1y1n1y1",
   "n1y1n1y1n1y1n1y1n1y1n1y1n1y1n1y1n1y1n1y1n1y1n1y1n1y1n1y1n1y1n1y1n1y1n1y1n1y1n1y1n1y1n1y1n1y",
   "1n1y1n1y1n1y1n1y1n1y1n1y1n1y1n1y1n1y1n1y1n1y1n1y1n1y1n1y1n1y1n1y1n1y1n1y1n1y1n1y1n1y1n1y1n1",
   "y1n1y1n1y1n1y1n1y1n1y1n1y1n1y1n1y1n1y1n1y1n1y1n1y1n1y1n1y1n1y1n1y1n1y1n1y1n1y9n1y1n1y1n1y1n",
   "1y1n1y1n1y1n1y1n1y1n1y1n1y1n1y1n1y1n1y1n1y1n1y1n1y1n1y1n1y1n1y1n1y1n1y1n1y1n1y1n1y1n1y1n1y1",
   "n1y1n1y1n1y1n1y1n1y1n1y1n1y1n1y1n1y1n1y1n1y1n1y1n1y1n1y1n1y1n1y1n1y1n1y1n1y1n1y1n1y1n1y1n1y",
   "9n8y8n6y10n8y8n8y8n6y11n1y1n1y1n1y1n1y8n8y72n4y12n4y12n4y12n5y11n4y262n1y4n1y3n3y2n3y2n1y3n",
   "5y6n1y1n1y1n1y1n4y2n4y10n2y5n1y26n16y19n1y818n26y1840n48y48n1y1n3y2n1y1n1y1n1y1n4y1n1y2n1y8",
   "n3y1n1y1n1y1n1y1n1y1n1y1n1y1n1y1n1y1n1y1n1y1n1y1n1y1n1y1n1y1n1y1n1y1n1y1n1y1n1y1n1y1n1y1n1y",
   "1n1y1n1y1n1y1n1y1n1y1n1y1n1y1n1y1n1y1n1y1n1y1n1y1n1y1n1y1n1y1n1y1n1y1n1y1n1y1n1y1n1y1n1y1n1",
   "y1n1y1n1y1n1y1n1y8n1y1n1y4n1y31053n1y1n1y1n1y1n1y1n1y1n1y1n1y1n1y1n1y1n1y1n1y1n1y1n1y1n1y1n",
   "1y1n1y1n1y1n1y1n1y1n1y1n1y1n1y1n1y19n1y1n1y1n1y1n1y1n1y1n1y1n1y1n1y1n1y1n1y1n1y1n1y1n1y1n1y",
   "135n1y1n1y1n1y1n1y1n1y1n1y1n1y3n1y1n1y1n1y1n1y1n1y1n1y1n1y1n1y1n1y1n1y1n1y1n1y1n1y1n1y1n1y1",
   "n1y1n1y1n1y1n1y1n1y1n1y1n1y1n1y1n1y1n1y1n1y1n1y1n1y1n1y1n1y1n1y10n1y1n1y1n2y1n1y1n1y1n1y1n1",
   "y4n1y1n1y2n1y1n1y3n1y1n1y1n1y1n1y1n1y1n1y1n1y1n1y1n1y1n1y1n5y1n5y1n1y1n1y1n1y1n1y1n1y1n1y1n",
   "1y1n4y1n1y1n2y3n1y5n1y1n1y1n1y1n1y24n1y22315n26y1221n40y136n36y156n11y1n15y1n7y1n2y1770n51y",
   "157n22y2874n32y21888n32y26016n26y26n26y26n26y26n1y1n2y2n1y2n2y2n4y1n8y26n26y26n2y1n4y2n8y1n",
   "7y27n2y1n4y1n5y1n1y3n7y27n26y26n26y26n26y26n26y26n26y26n26y30n25y33n25y33n25y33n25y33n25y33",
   "n1y4405n34y2062n26y6n26y6n26y986742n"]

/-- The characters with the property `Variation_Selector` (`y`) and those without it (`n`). -/
def variationSelectorRuns : Runs := Runs.ofLines
  ["6155n3y1n1y58864n16y852720n240y196112n"]

/-- The characters with the property `White_Space` (`y`) and those without it (`n`). -/
def whiteSpaceRuns : Runs := Runs.ofLines
  ["9n5y18n1y100n1y26n1y5599n1y2431n11y29n2y5n1y47n1y4000n1y1101823n"]

/-- The characters with the property `XID_Continue` (`y`) and those without it (`n`). -/
def xidContinueRuns : Runs := Runs.ofLines
  ["48n10y7n26y4n1y1n26y47n1y10n1y1n1y2n1y5n23y1n31y1n458y4n12y14n5y7n1y1n1y17n117y1n2y3n3y1n1y",
   "6n5y1n1y1n20y1n83y1n139y1n5y2n166y1n38y2n1y6n41y8n45y1n1y1n2y1n2y1n1y8n27y4n4y29n11y5n74y4n",
   "102y1n8y2n10y1n19y2n1y16n59y2n101y14n54y4n1y2n1y2n46y18n28y4n11y5n24y1n6y8n75y1n129y2n10y1n",
   "19y1n8y2n2y2n22y1n7y1n1y3n4y2n9y2n2y2n4y8n1y4n2y1n5y2n12y10n1y1n1y2n3y1n6y4n2y2n22y1n7y1n2y",
   "1n2y1n2y2n1y1n5y4n2y2n3y3n1y7n4y1n1y7n16y11n3y1n9y1n3y1n22y1n7y1n2y1n5y2n10y1n3y1n3y2n1y15n",
   "4y2n10y9n7y1n3y1n8y2n2y2n22y1n7y1n2y1n5y2n9y2n2y2n3y7n3y4n2y1n5y2n10y1n1y16n2y1n6y3n3y1n4y3",
   "n2y1n1y1n2y3n2y3n3y3n12y4n5y3n3y1n4y2n1y6n1y14n10y16n13y1n3y1n23y1n16y2n9y1n3y1n4y7n2y1n3y2",
   "n1y2n4y2n10y16n4y1n8y1n3y1n23y1n10y1n5y2n9y1n3y1n4y7n2y6n2y1n4y2n10y1n3y12n13y1n3y1n51y1n3y",
   "1n5y5n4y7n5y2n10y10n6y1n3y1n18y3n24y1n9y1n1y2n7y3n1y4n6y1n1y1n8y6n10y2n2y13n58y5n15y1n10y39",
   "n2y1n1y1n5y1n24y1n1y1n23y2n5y1n1y1n7y1n10y2n4y32n1y23n2y6n10y11n1y1n1y1n1y4n10y1n36y4n20y1n",
   "18y1n36y9n1y57n74y6n78y2n38y1n1y5n1y2n43y1n333y1n4y2n7y1n1y1n4y2n41y1n4y2n33y1n4y2n7y1n1y1n",
   "4y2n15y1n57y1n4y2n67y2n3y9n9y14n16y16n86y2n6y3n620y2n17y1n26y5n75y3n11y7n22y9n22y11n20y12n1",
   "3y1n3y1n2y12n84y3n1y4n2y2n10y33n3y1n11y6n89y7n43y5n70y10n31y1n12y4n12y10n40y2n5y11n44y4n26y",
   "6n11y37n28y4n63y1n29y2n11y6n10y13n1y8n14y1n16y49n77y3n10y17n9y12n116y12n56y8n10y3n49y2n11y5",
   "n43y2n3y16n3y1n39y5n534y2n6y2n38y2n6y2n8y1n1y1n1y1n1y1n31y2n53y1n7y1n1y3n3y1n7y3n4y2n6y4n13",
   "y5n3y1n7y15n2y49n2y19n1y28n1y13n1y16n13y51n13y4n1y3n12y17n1y4n1y2n10y1n1y2n6y6n1y1n1y1n1y1n",
   "16y2n4y5n5y4n1y17n41y2679n229y6n9y12n38y1n1y5n1y2n56y7n1y15n24y9n7y1n7y1n7y1n7y1n7y1n7y1n7y",
   "1n7y1n32y517n3y25n15y1n5y2n5y4n86y2n2y2n3y1n95y5n43y1n94y17n32y48n16y512n6592y64n22157y67n4",
   "6y2n269y3n28y20n48y4n10y1n115y37n9y2n103y2n67y2n2y1n1y1n8y21n54y4n1y19n52y12n70y10n10y6n24y",
   "3n1y1n49y2n36y12n29y3n65y14n11y6n31y1n55y9n14y2n10y6n23y3n73y24n3y2n16y2n5y10n6y2n6y2n6y9n7",
   "y1n7y1n43y1n14y6n123y1n2y2n10y6n11172y12n23y4n49y8452n366y2n106y38n7y12n5y5n12y1n13y1n5y1n1",
   "y1n2y1n2y1n108y33n139y6n218y18n64y2n54y40n10y6n16y16n16y3n2y24n3y33n1y1n1y3n1y1n1y1n1y1n1y1",
   "n126y19n10y7n26y4n1y1n26y10n90y3n6y2n6y2n6y2n3y35n12y1n26y1n19y1n2y1n15y2n14y34n123y69n53y1",
   "36n1y130n29y3n49y15n1y31n32y13n30y5n43y5n30y2n36y4n8y1n5y42n158y2n10y6n36y4n36y4n40y8n52y12",
   "n11y1n15y1n7y1n2y1n11y1n15y1n7y1n2y3n52y12n311y9n22y10n8y24n6y1n42y1n9y69n6y2n1y1n44y1n2y3n",
   "1y2n23y10n23y9n31y65n19y1n2y10n22y10n26y70n56y6n2y64n4y1n2y5n8y1n3y1n29y2n3y4n1y32n29y3n29y",
   "35n8y1n30y25n54y10n22y10n19y13n18y110n73y55n51y13n51y13n40y8n10y6n38y3n5y1n23y250n42y1n2y3n",
   "2y16n3y55n33y10n1y8n33y31n22y42n21y27n23y9n71y31n16y9n60y7n1y13n25y7n10y6n53y1n10y4n4y8n36y",
   "2n1y9n69y4n4y1n13y1n1y35n18y1n37y6n4y62n7y1n1y1n4y1n15y1n10y7n59y5n10y6n4y1n8y2n2y2n22y1n7y",
   "1n2y1n5y1n10y2n2y2n3y2n1y6n1y5n7y2n7y3n5y11n10y1n1y2n1y1n38y1n10y1n1y2n1y1n4y1n8y13n2y29n75",
   "y5n10y4n4y30n70y1n1y8n10y166n54y2n9y23n6y34n65y3n1y11n10y38n57y7n10y6n20y28n27y2n15y4n10y6n",
   "7y185n59y101n74y21n8y2n1y2n8y1n2y1n30y1n2y2n9y12n10y70n8y2n46y2n8y1n2y27n63y8n1y8n74y3n1y18",
   "n73y199n33y15n10y6n9y1n45y1n9y15n10y24n30y2n22y1n14y73n7y1n2y1n44y3n1y1n2y1n9y8n10y6n6y1n2y",
   "1n37y1n2y1n6y7n10y310n23y9n17y1n41y3n5y13n11y85n1y79n922y102n111y17n196y2636n97y15n1072y16n",
   "22y10n3995y5n583y6841n58y1734n569y7n31y1n10y6n79y1n10y6n30y2n5y11n55y9n4y12n10y9n21y5n19y43",
   "2n45y3n10y198n64y128n75y4n57y7n17y64n2y1n2y11n2y14n6136y8n1238y41n10y8935n4y1n7y1n2y1n291y1",
   "5n1y29n3y2n1y14n4y8n396y2308n107y5n13y3n9y7n10y3n2y4177n10y518n46y2n23y542n5y3n6y8n8y2n7y30",
   "n4y148n3y443n85y1n71y1n2y2n1y2n2y2n4y1n12y1n1y1n7y1n65y1n4y2n8y1n7y1n28y1n4y1n5y1n1y3n7y1n3",
   "40y2n25y1n25y1n31y1n25y1n31y1n25y1n31y1n25y1n31y1n25y1n8y2n50y512n55y4n50y8n1y14n1y22n5y1n1",
   "5y1104n31y6n6y213n7y1n17y2n7y1n2y1n5y5n62y33n1y112n45y3n14y2n10y4n1y321n31y17n58y470n42y214",
   "n43y485n7y1n4y1n2y1n15y1n197y11n7y41n76y4n10y1190n4y1n27y1n2y1n1y2n1y1n10y1n4y1n1y1n1y6n1y4",
   "n1y1n1y1n1y1n3y1n2y1n1y2n1y1n1y1n1y1n1y1n1y1n2y1n1y2n4y1n7y1n4y1n4y1n1y1n10y1n17y5n3y1n5y1n",
   "17y3380n10y1030n42720y32n4154y6n222y2n5762y14n7473y15n622y2466n542y1506n4939y5n4192y712016n",
   "240y196112n"]

/-- The characters with the property `XID_Start` (`y`) and those without it (`n`). -/
def xidStartRuns : Runs := Runs.ofLines
  ["65n26y6n26y47n1y10n1y4n1y5n23y1n31y1n458y4n12y14n5y7n1y1n1y129n5y1n2y3n3y1n1y6n1y1n3y1n1y1n",
   "20y1n83y1n139y8n166y1n38y2n1y6n41y71n27y4n4y45n43y35n2y1n99y1n1y15n2y7n2y10n3y2n1y16n1y1n30",
   "y29n89y11n1y24n33y9n2y4n1y5n22y4n1y9n1y3n1y23n25y7n11y5n24y1n6y17n42y58n54y3n1y18n1y7n10y15",
   "n16y4n8y2n2y2n22y1n7y1n1y3n4y3n1y16n1y13n2y1n3y14n2y10n1y8n6y4n2y2n22y1n7y1n2y1n2y1n2y31n4y",
   "1n1y19n3y16n9y1n3y1n22y1n7y1n2y1n5y3n1y18n1y15n2y23n1y11n8y2n2y2n22y1n7y1n2y1n5y3n1y30n2y1n",
   "3y15n1y17n1y1n6y3n3y1n4y3n2y1n1y1n2y3n2y3n3y3n12y22n1y52n8y1n3y1n23y1n16y3n1y26n3y2n1y2n2y3",
   "0n1y4n8y1n3y1n23y1n10y1n5y3n1y31n2y1n2y15n2y17n9y1n3y1n41y2n1y16n1y5n3y8n3y24n6y5n18y3n24y1",
   "n9y1n1y2n7y58n48y1n1y13n7y58n2y1n1y1n5y1n24y1n1y1n10y1n1y10n1y2n5y1n1y21n4y32n1y63n8y1n36y2",
   "7n5y115n43y20n1y16n6y4n4y3n1y3n2y7n3y4n13y12n1y17n38y1n1y5n1y2n43y1n333y1n4y2n7y1n1y1n4y2n4",
   "1y1n4y2n33y1n4y2n7y1n1y1n4y2n15y1n57y1n4y2n67y37n16y16n86y2n6y3n620y2n17y1n26y5n75y3n11y7n1",
   "8y13n19y14n18y14n13y1n3y15n52y35n1y4n1y67n89y7n41y1n1y5n70y10n31y49n30y2n5y11n44y4n26y54n23",
   "y9n53y82n1y93n47y17n8y54n30y13n2y10n44y26n36y41n3y10n36y2n11y5n43y2n3y41n4y1n6y1n2y3n1y5n19",
   "2y64n278y2n6y2n38y2n6y2n8y1n1y1n1y1n1y1n31y2n53y1n7y1n1y3n3y1n7y3n4y2n6y4n13y5n3y1n7y116n1y",
   "13n1y16n13y101n1y4n1y2n10y1n1y2n6y6n1y1n1y1n1y1n16y2n4y5n5y4n1y17n41y2679n229y6n4y3n2y12n38",
   "y1n1y5n1y2n56y7n1y16n23y9n7y1n7y1n7y1n7y1n7y1n7y1n7y1n7y550n3y25n9y7n5y2n5y4n86y6n3y1n90y1n",
   "4y5n43y1n94y17n32y48n16y512n6592y64n22157y67n46y2n269y3n16y10n2y20n47y16n31y2n80y39n9y2n103",
   "y2n67y2n2y1n1y1n8y21n16y1n3y1n4y1n23y29n52y14n50y62n6y3n1y1n2y11n28y10n23y25n29y7n47y28n1y1",
   "6n5y1n10y10n5y1n41y23n3y1n8y20n23y3n1y3n50y1n1y3n2y2n5y2n1y1n1y24n3y2n11y7n3y12n6y2n6y2n6y9",
   "n7y1n7y1n43y1n14y6n115y29n11172y12n23y4n49y8452n366y2n106y38n7y12n5y5n1y1n10y1n13y1n5y1n1y1",
   "n2y1n2y1n108y33n139y6n218y18n64y2n54y40n10y119n1y1n1y3n1y1n1y1n1y1n1y1n126y36n26y6n26y11n56",
   "y2n31y3n6y2n6y2n6y2n3y35n12y1n26y1n19y1n2y1n15y2n14y34n123y69n53y267n29y3n49y47n32y13n30y5n",
   "38y10n30y2n36y4n8y1n5y42n158y18n36y4n36y4n40y8n52y12n11y1n15y1n7y1n2y1n11y1n15y1n7y1n2y3n52",
   "y12n311y9n22y10n8y24n6y1n42y1n9y69n6y2n1y1n44y1n2y3n1y2n23y10n23y9n31y65n19y1n2y10n22y10n26",
   "y70n56y6n2y64n1y15n4y1n3y1n29y42n29y3n29y35n8y1n28y27n54y10n22y10n19y13n18y110n73y55n51y13n",
   "51y13n36y38n28y9n23y250n42y6n2y16n3y59n29y10n1y8n22y42n18y46n21y27n23y12n53y57n2y2n1y13n45y",
   "32n25y26n36y29n1y2n1y8n35y3n1y12n48y14n4y21n1y1n1y35n18y1n25y19n2y63n7y1n1y1n4y1n15y1n10y7n",
   "47y38n8y2n2y2n22y1n7y1n2y1n5y3n1y18n1y12n5y30n10y1n1y2n1y1n38y1n1y25n1y1n1y44n53y18n4y20n3y",
   "30n48y20n2y1n1y184n47y41n4y36n48y20n1y59n43y13n1y71n27y37n7y185n44y116n64y31n8y2n1y2n8y1n2y",
   "1n24y15n1y1n1y94n8y2n39y16n1y1n1y28n1y10n40y7n1y21n1y11n46y19n1y18n73y199n33y31n9y1n37y17n1",
   "y49n30y112n7y1n2y1n38y21n1y25n6y1n2y1n32y14n1y327n19y15n1y1n13y1n34y124n1y79n922y102n111y17",
   "n196y2636n97y15n1072y17n6y25n3995y5n583y6841n30y1762n569y7n31y17n79y17n30y18n48y16n4y31n21y",
   "5n19y432n45y211n64y128n75y5n1y66n13y64n2y1n1y28n6136y8n1238y41n10y8935n4y1n7y1n2y1n291y15n1",
   "y29n3y2n1y14n4y8n396y2308n107y5n13y3n9y7n10y5990n85y1n71y1n2y2n1y2n2y2n4y1n12y1n1y1n7y1n65y",
   "1n4y2n8y1n7y1n28y1n4y1n5y1n1y3n7y1n340y2n25y1n25y1n31y1n25y1n31y1n25y1n31y1n25y1n31y1n25y1n",
   "8y1844n31y6n6y261n62y146n45y10n7y16n1y321n30y18n44y484n28y228n30y2n1y495n7y1n4y1n2y1n15y1n1",
   "97y59n68y7n1y1204n4y1n27y1n2y1n1y2n1y1n10y1n4y1n1y1n1y6n1y4n1y1n1y1n1y1n3y1n2y1n1y2n1y1n1y1",
   "n1y1n1y1n1y1n2y1n1y2n4y1n7y1n4y1n4y1n1y1n10y1n17y5n3y1n5y1n17y4420n42720y32n4154y6n222y2n57",
   "62y14n7473y15n622y2466n542y1506n4939y5n4192y908368n"]

/-- The runs of a property by the name it is kept under. -/
def traitRuns? (name : String) : Option Runs :=
  match name with
  | "alphabetic" => some alphabeticRuns
  | "asciihexdigit" => some asciiHexDigitRuns
  | "bidicontrol" => some bidiControlRuns
  | "bidimirrored" => some bidiMirroredRuns
  | "caseignorable" => some caseIgnorableRuns
  | "cased" => some casedRuns
  | "changeswhencasefolded" => some changesWhenCasefoldedRuns
  | "changeswhencasemapped" => some changesWhenCasemappedRuns
  | "changeswhenlowercased" => some changesWhenLowercasedRuns
  | "changeswhentitlecased" => some changesWhenTitlecasedRuns
  | "changeswhenuppercased" => some changesWhenUppercasedRuns
  | "dash" => some dashRuns
  | "defaultignorablecodepoint" => some defaultIgnorableCodePointRuns
  | "deprecated" => some deprecatedRuns
  | "diacritic" => some diacriticRuns
  | "emoji" => some emojiRuns
  | "emojicomponent" => some emojiComponentRuns
  | "emojimodifier" => some emojiModifierRuns
  | "emojimodifierbase" => some emojiModifierBaseRuns
  | "emojipresentation" => some emojiPresentationRuns
  | "extendedpictographic" => some extendedPictographicRuns
  | "extender" => some extenderRuns
  | "graphemebase" => some graphemeBaseRuns
  | "graphemeextend" => some graphemeExtendRuns
  | "graphemelink" => some graphemeLinkRuns
  | "hexdigit" => some hexDigitRuns
  | "hyphen" => some hyphenRuns
  | "idsbinaryoperator" => some idsBinaryOperatorRuns
  | "idstrinaryoperator" => some idsTrinaryOperatorRuns
  | "idsunaryoperator" => some idsUnaryOperatorRuns
  | "idcompatmathcontinue" => some idCompatMathContinueRuns
  | "idcompatmathstart" => some idCompatMathStartRuns
  | "idcontinue" => some idContinueRuns
  | "idstart" => some idStartRuns
  | "ideographic" => some ideographicRuns
  | "joincontrol" => some joinControlRuns
  | "logicalorderexception" => some logicalOrderExceptionRuns
  | "lowercase" => some lowercaseRuns
  | "math" => some mathRuns
  | "modifiercombiningmark" => some modifierCombiningMarkRuns
  | "noncharactercodepoint" => some noncharacterCodePointRuns
  | "otheralphabetic" => some otherAlphabeticRuns
  | "otherdefaultignorablecodepoint" => some otherDefaultIgnorableCodePointRuns
  | "othergraphemeextend" => some otherGraphemeExtendRuns
  | "otheridcontinue" => some otherIDContinueRuns
  | "otheridstart" => some otherIDStartRuns
  | "otherlowercase" => some otherLowercaseRuns
  | "othermath" => some otherMathRuns
  | "otheruppercase" => some otherUppercaseRuns
  | "patternsyntax" => some patternSyntaxRuns
  | "patternwhitespace" => some patternWhiteSpaceRuns
  | "prependedconcatenationmark" => some prependedConcatenationMarkRuns
  | "quotationmark" => some quotationMarkRuns
  | "radical" => some radicalRuns
  | "regionalindicator" => some regionalIndicatorRuns
  | "sentenceterminal" => some sentenceTerminalRuns
  | "softdotted" => some softDottedRuns
  | "terminalpunctuation" => some terminalPunctuationRuns
  | "unifiedideograph" => some unifiedIdeographRuns
  | "uppercase" => some uppercaseRuns
  | "variationselector" => some variationSelectorRuns
  | "whitespace" => some whiteSpaceRuns
  | "xidcontinue" => some xidContinueRuns
  | "xidstart" => some xidStartRuns
  | _ => none

/-- A character that has a property. -/
def Runs.holdsAt (runs : Runs) (c : Char) : Bool := runs.valueAt c.toNat = "y"

/-- The characters that have a property, by the name it is kept under. -/
def traitStretches (name : String) : List (Nat × Nat) :=
  ((traitRuns? name).map fun runs => runs.stretches (· = "y")).getD []

end InAppMessaging.Text.Unicode
