import InAppMessaging.Text.Unicode.Runs

/-!
# Boundaries in text

What a character does at the boundaries of grapheme clusters, words and sentences.
-/

namespace InAppMessaging.Text.Unicode

/-- What each character does at the boundary of a grapheme cluster. -/
def graphemeBreakRuns : Runs := Runs.ofLines
  ["10CN1LF2CN1CR18CN95XX33CN13XX1CN594XX112EX275XX7EX263XX45EX1XX1EX1XX2EX1XX2EX1XX1EX56XX6PP1",
   "0XX11EX1XX1CN46XX21EX16XX1EX101XX7EX1PP1XX6EX2XX2EX1XX4EX33XX1PP1XX1EX30XX27EX91XX11EX58XX9",
   "EX9XX1EX24XX4EX1XX9EX1XX3EX1XX5EX43XX3EX52XX2PP5XX9EX42XX24EX1PP32EX1SM54XX1EX1SM1EX1XX3SM8",
   "EX4SM1EX2SM1XX7EX10XX2EX29XX1EX2SM56XX1EX1XX1EX2SM4EX2XX2SM2XX2SM1EX9XX1EX10XX2EX26XX1EX2XX",
   "2EX1SM56XX1EX1XX3SM2EX4XX2EX2XX3EX3XX1EX30XX2EX3XX1EX11XX2EX1SM56XX1EX1XX3SM5EX1XX2EX1SM1XX",
   "2SM1EX20XX2EX22XX6EX1XX1EX2SM56XX1EX1XX2EX1SM4EX2XX2SM2XX2SM1EX7XX3EX10XX2EX30XX1EX59XX1EX1",
   "SM1EX2SM3XX3SM1XX3SM1EX9XX1EX40XX1EX3SM1EX55XX1EX1XX3EX4SM1XX3EX1XX4EX7XX2EX11XX2EX29XX1EX2",
   "SM56XX1EX1XX1SM2EX1SM1EX2SM1XX3EX1XX4EX7XX2EX11XX2EX15XX1SM12XX2EX2SM55XX2EX1XX1EX2SM4EX1XX",
   "3SM1XX3SM1EX1PP8XX1EX10XX2EX29XX1EX2SM70XX1EX4XX1EX2SM3EX1XX1EX1XX7SM1EX18XX2SM61XX1EX1XX1S",
   "M7EX12XX8EX98XX1EX1XX1SM9EX11XX7EX73XX2EX27XX1EX1XX1EX1XX1EX4XX2SM49XX14EX1SM5EX1XX2EX5XX11",
   "EX1XX36EX9XX1EX102XX4EX1SM6EX1XX2EX2SM2EX23XX2SM2EX4XX3EX16XX4EX13XX1EX1XX1SM2EX6XX1EX15XX1",
   "EX98XX96L72V88T349XX3EX946XX4EX28XX3EX29XX2EX30XX2EX64XX2EX1SM7EX8SM1EX2SM11EX9XX1EX45XX3EX",
   "1CN1EX117XX2EX34XX1EX118XX3EX4SM2EX3SM4XX2SM1EX6SM3EX219XX2EX2SM1EX57XX1SM1EX1SM7EX1XX1EX1X",
   "X1EX2XX8EX6SM10EX2XX1EX48XX31EX49XX4EX1SM47XX10EX4SM3EX38XX9EX12XX2EX1SM30XX1SM4EX2SM6EX56X",
   "X1EX1SM2EX3SM1EX1SM5EX48XX8SM8EX2SM2EX152XX3EX1XX13EX1SM7EX4XX1EX6XX1EX2XX1SM2EX198XX64EX52",
   "3XX1CN1EX1ZWJ2CN24XX7CN49XX16CN96XX33EX3070XX3EX141XX1EX96XX32EX554XX6EX105XX2EX30164XX4EX1",
   "XX10EX32XX2EX80XX2EX272XX1EX3XX1EX4XX1EX23XX2SM2EX1SM4XX1EX83XX2SM50XX16SM2EX26XX18EX13XX1E",
   "X38XX8EX25XX11EX1SM1EX12XX29L3XX3EX1SM47XX1EX2SM4EX2SM2EX2SM1EX36XX1EX67XX6EX2SM2EX2SM2EX12",
   "XX1EX8XX1EX1SM46XX1EX51XX1EX1XX3EX2XX2EX5XX2EX1XX1EX41XX1SM2EX2SM5XX1SM1EX236XX2SM1EX2SM1EX",
   "2SM1XX1SM1EX18XX1LV27LVT1LV27LVT1LV27LVT1LV27LVT1LV27LVT1LV27LVT1LV27LVT1LV27LVT1LV27LVT1LV",
   "27LVT1LV27LVT1LV27LVT1LV27LVT1LV27LVT1LV27LVT1LV27LVT1LV27LVT1LV27LVT1LV27LVT1LV27LVT1LV27L",
   "VT1LV27LVT1LV27LVT1LV27LVT1LV27LVT1LV27LVT1LV27LVT1LV27LVT1LV27LVT1LV27LVT1LV27LVT1LV27LVT1",
   "LV27LVT1LV27LVT1LV27LVT1LV27LVT1LV27LVT1LV27LVT1LV27LVT1LV27LVT1LV27LVT1LV27LVT1LV27LVT1LV2",
   "7LVT1LV27LVT1LV27LVT1LV27LVT1LV27LVT1LV27LVT1LV27LVT1LV27LVT1LV27LVT1LV27LVT1LV27LVT1LV27LV",
   "T1LV27LVT1LV27LVT1LV27LVT1LV27LVT1LV27LVT1LV27LVT1LV27LVT1LV27LVT1LV27LVT1LV27LVT1LV27LVT1L",
   "V27LVT1LV27LVT1LV27LVT1LV27LVT1LV27LVT1LV27LVT1LV27LVT1LV27LVT1LV27LVT1LV27LVT1LV27LVT1LV27",
   "LVT1LV27LVT1LV27LVT1LV27LVT1LV27LVT1LV27LVT1LV27LVT1LV27LVT1LV27LVT1LV27LVT1LV27LVT1LV27LVT",
   "1LV27LVT1LV27LVT1LV27LVT1LV27LVT1LV27LVT1LV27LVT1LV27LVT1LV27LVT1LV27LVT1LV27LVT1LV27LVT1LV",
   "27LVT1LV27LVT1LV27LVT1LV27LVT1LV27LVT1LV27LVT1LV27LVT1LV27LVT1LV27LVT1LV27LVT1LV27LVT1LV27L",
   "VT1LV27LVT1LV27LVT1LV27LVT1LV27LVT1LV27LVT1LV27LVT1LV27LVT1LV27LVT1LV27LVT1LV27LVT1LV27LVT1",
   "LV27LVT1LV27LVT1LV27LVT1LV27LVT1LV27LVT1LV27LVT1LV27LVT1LV27LVT1LV27LVT1LV27LVT1LV27LVT1LV2",
   "7LVT1LV27LVT1LV27LVT1LV27LVT1LV27LVT1LV27LVT1LV27LVT1LV27LVT1LV27LVT1LV27LVT1LV27LVT1LV27LV",
   "T1LV27LVT1LV27LVT1LV27LVT1LV27LVT1LV27LVT1LV27LVT1LV27LVT1LV27LVT1LV27LVT1LV27LVT1LV27LVT1L",
   "V27LVT1LV27LVT1LV27LVT1LV27LVT1LV27LVT1LV27LVT1LV27LVT1LV27LVT1LV27LVT1LV27LVT1LV27LVT1LV27",
   "LVT1LV27LVT1LV27LVT1LV27LVT1LV27LVT1LV27LVT1LV27LVT1LV27LVT1LV27LVT1LV27LVT1LV27LVT1LV27LVT",
   "1LV27LVT1LV27LVT1LV27LVT1LV27LVT1LV27LVT1LV27LVT1LV27LVT1LV27LVT1LV27LVT1LV27LVT1LV27LVT1LV",
   "27LVT1LV27LVT1LV27LVT1LV27LVT1LV27LVT1LV27LVT1LV27LVT1LV27LVT1LV27LVT1LV27LVT1LV27LVT1LV27L",
   "VT1LV27LVT1LV27LVT1LV27LVT1LV27LVT1LV27LVT1LV27LVT1LV27LVT1LV27LVT1LV27LVT1LV27LVT1LV27LVT1",
   "LV27LVT1LV27LVT1LV27LVT1LV27LVT1LV27LVT1LV27LVT1LV27LVT1LV27LVT1LV27LVT1LV27LVT1LV27LVT1LV2",
   "7LVT1LV27LVT1LV27LVT1LV27LVT1LV27LVT1LV27LVT1LV27LVT1LV27LVT1LV27LVT1LV27LVT1LV27LVT1LV27LV",
   "T1LV27LVT1LV27LVT1LV27LVT1LV27LVT1LV27LVT1LV27LVT1LV27LVT1LV27LVT1LV27LVT1LV27LVT1LV27LVT1L",
   "V27LVT1LV27LVT1LV27LVT1LV27LVT1LV27LVT1LV27LVT1LV27LVT1LV27LVT1LV27LVT1LV27LVT1LV27LVT1LV27",
   "LVT1LV27LVT1LV27LVT1LV27LVT1LV27LVT1LV27LVT1LV27LVT1LV27LVT1LV27LVT1LV27LVT1LV27LVT1LV27LVT",
   "1LV27LVT1LV27LVT1LV27LVT1LV27LVT1LV27LVT1LV27LVT1LV27LVT1LV27LVT1LV27LVT1LV27LVT1LV27LVT1LV",
   "27LVT1LV27LVT1LV27LVT1LV27LVT1LV27LVT1LV27LVT1LV27LVT1LV27LVT1LV27LVT1LV27LVT1LV27LVT1LV27L",
   "VT1LV27LVT1LV27LVT1LV27LVT1LV27LVT1LV27LVT1LV27LVT1LV27LVT1LV27LVT1LV27LVT1LV27LVT1LV27LVT1",
   "LV27LVT1LV27LVT1LV27LVT1LV27LVT1LV27LVT1LV27LVT1LV27LVT1LV27LVT1LV27LVT1LV27LVT1LV27LVT1LV2",
   "7LVT1LV27LVT1LV27LVT1LV27LVT1LV27LVT1LV27LVT1LV27LVT1LV27LVT1LV27LVT1LV27LVT1LV27LVT1LV27LV",
   "T1LV27LVT1LV27LVT1LV27LVT1LV27LVT1LV27LVT1LV27LVT1LV27LVT1LV27LVT1LV27LVT1LV27LVT1LV27LVT1L",
   "V27LVT1LV27LVT1LV27LVT1LV27LVT1LV27LVT1LV27LVT1LV27LVT1LV27LVT1LV27LVT1LV27LVT1LV27LVT1LV27",
   "LVT1LV27LVT1LV27LVT1LV27LVT1LV27LVT1LV27LVT1LV27LVT1LV27LVT1LV27LVT1LV27LVT1LV27LVT1LV27LVT",
   "1LV27LVT1LV27LVT1LV27LVT1LV27LVT1LV27LVT1LV27LVT1LV27LVT1LV27LVT1LV27LVT1LV27LVT1LV27LVT1LV",
   "27LVT1LV27LVT1LV27LVT1LV27LVT1LV27LVT1LV27LVT1LV27LVT1LV27LVT1LV27LVT1LV27LVT1LV27LVT1LV27L",
   "VT1LV27LVT1LV27LVT1LV27LVT1LV27LVT1LV27LVT1LV27LVT1LV27LVT1LV27LVT1LV27LVT1LV27LVT1LV27LVT1",
   "LV27LVT1LV27LVT1LV27LVT12XX23V4XX49T8994XX1EX737XX16EX16XX16EX207XX1CN158XX2EX80XX12CN513XX",
   "1EX226XX1EX149XX5EX1670XX3EX1XX2EX5XX4EX40XX3EX4XX1EX165XX2EX573XX4EX65XX5EX317XX2EX79XX4EX",
   "70XX11EX49XX4EX122XX1SM1EX1SM53XX15EX41XX1EX2XX2EX10XX3EX1SM45XX3SM4EX2SM2EX2XX1PP4XX1EX10X",
   "X1PP50XX3EX36XX5EX1SM8EX16XX2SM44XX1EX12XX2EX1SM48XX3SM9EX1SM1EX1XX2PP5XX4EX1XX1SM1EX92XX3S",
   "M3EX2SM4EX6XX1EX2XX1EX157XX1EX3SM8EX21XX2EX2SM55XX2EX1XX1EX1SM1EX4SM2XX2SM2XX2SM1EX9XX1EX10",
   "XX2SM2XX7EX3XX5EX67XX1EX2SM6EX1XX1EX2XX1EX1XX3EX1SM1XX2SM3EX1PP1EX14XX2EX82XX3SM8EX2SM3EX1S",
   "M1EX23XX1EX81XX1EX2SM6EX1SM1EX2SM1EX1SM2EX1SM2EX235XX1EX2SM4EX2XX4SM2EX1SM2EX27XX2EX82XX3SM",
   "8EX2SM1EX1SM2EX106XX1EX1SM1EX2SM8EX101XX1EX1SM1EX2XX4EX1SM5EX256XX3SM9EX1SM2EX245XX1EX5SM1X",
   "X2SM2XX4EX1PP1SM1PP1SM1EX141XX3SM4EX2XX2EX4SM1EX3XX1SM28XX10EX40XX6EX1SM1PP4EX8XX1EX9XX6EX2",
   "SM3EX40XX6PP13EX1SM2EX405XX1SM7EX1XX6EX1SM1EX82XX22EX1XX1SM7EX1SM2EX1SM2EX122XX6EX3XX1EX1XX",
   "2EX1XX7EX1PP1EX66XX5SM1XX2EX1XX2SM1EX1SM1EX347XX2EX2SM9XX2EX1PP1SM48XX2SM5EX3XX2SM3EX23XX1E",
   "X5333XX16CN1EX6XX15EX11464XX12EX3SM3EX2496XX5EX59XX7EX556XX1V3XX4V484XX1EX1XX55SM7XX4EX81XX",
   "1EX11XX2EX19627XX2EX1XX4CN4700XX46EX2XX23EX542XX5EX3XX6EX8CN8EX2XX7EX30XX4EX148XX3EX1979XX5",
   "5EX4XX50EX8XX1EX14XX1EX22XX5EX1XX15EX1360XX7EX1XX17EX2XX7EX1XX2EX1XX5EX100XX1EX160XX7EX375X",
   "X1EX61XX4EX508XX4EX254XX2EX736XX7EX109XX7EX2203XX26RI507XX5EX789504XX32CN96EX128CN240EX3600",
   "CN192512XX"]

/-- The names of what a character does at the boundary of a grapheme cluster. -/
def graphemeBreakNames : Aliases := Aliases.ofLines
  ["CN cn control;CR cr;EX ex extend;L l;LF lf;LV lv;LVT lvt;PP pp prepend",
   "RI ri regionalindicator;SM sm spacingmark;T t;V v;ZWJ zwj"]

/-- What each character does at the boundary of a word. -/
def wordBreakRuns : Runs := Runs.ofLines
  ["10XX1LF2NL1CR18XX1WSegSpace1XX1DQ4XX1SQ4XX1MN1XX1MB1XX10NU1ML1MN5XX26LE4XX1EX1XX26LE10XX1NL",
   "36XX1LE2XX1FO7XX1LE1XX1ML1LE1XX1LE5XX23LE1XX31LE1XX480LE6XX34LE112Extend5LE1XX2LE2XX4LE1MN1",
   "LE6XX1LE1ML3LE1XX1LE1XX20LE1XX83LE1XX139LE1XX7Extend166LE1XX38LE2XX4LE1XX1LE1ML41LE1MN1LE6X",
   "X45Extend1XX1Extend1XX2Extend1XX2Extend1XX1Extend8XX27HL4XX4HL1LE1ML11XX6NU6XX2MN2XX11Exten",
   "d1XX1FO3XX43LE21Extend10NU1XX1NU1MN1XX2LE1Extend99LE1XX1LE7Extend1NU1XX6Extend2LE2Extend1XX",
   "4Extend2LE10NU3LE2XX1LE15XX2LE1Extend30LE27Extend2XX89LE11Extend1LE14XX10NU33LE9Extend2LE2X",
   "X1MN1XX1LE2XX1Extend2XX22LE4Extend1LE9Extend1LE3Extend1LE5Extend18XX25LE3Extend4XX11LE5XX24",
   "LE1XX6LE1XX2NU5XX9Extend42LE24Extend1NU33Extend54LE3Extend1LE18Extend1LE7Extend10LE2Extend2",
   "XX10NU1XX16LE3Extend1XX8LE2XX2LE2XX22LE1XX7LE1XX1LE3XX4LE2XX1Extend1LE7Extend2XX2Extend2XX3",
   "Extend1LE8XX1Extend4XX2LE1XX3LE2Extend2XX10NU2LE10XX1LE1XX1Extend2XX3Extend1XX6LE4XX2LE2XX2",
   "2LE1XX7LE1XX2LE1XX2LE1XX2LE2XX1Extend1XX5Extend4XX2Extend2XX3Extend3XX1Extend7XX4LE1XX1LE7X",
   "X10NU2Extend3LE1Extend11XX3Extend1XX9LE1XX3LE1XX22LE1XX7LE1XX2LE1XX5LE2XX1Extend1LE8Extend1",
   "XX3Extend1XX3Extend2XX1LE15XX2LE2Extend2XX10NU9XX1LE6Extend1XX3Extend1XX8LE2XX2LE2XX22LE1XX",
   "7LE1XX2LE1XX5LE2XX1Extend1LE7Extend2XX2Extend2XX3Extend7XX3Extend4XX2LE1XX3LE2Extend2XX10NU",
   "1XX1LE16XX1Extend1LE1XX6LE3XX3LE1XX4LE3XX2LE1XX1LE1XX2LE3XX2LE3XX3LE3XX12LE4XX5Extend3XX3Ex",
   "tend1XX4Extend2XX1LE6XX1Extend14XX10NU16XX5Extend8LE1XX3LE1XX23LE1XX16LE2XX1Extend1LE7Exten",
   "d1XX3Extend1XX4Extend7XX2Extend1XX3LE2XX1LE2XX2LE2Extend2XX10NU16XX1LE3Extend1XX8LE1XX3LE1X",
   "X23LE1XX10LE1XX5LE2XX1Extend1LE7Extend1XX3Extend1XX4Extend7XX2Extend6XX2LE1XX2LE2Extend2XX1",
   "0NU1XX2LE1Extend12XX4Extend9LE1XX3LE1XX41LE2Extend1LE7Extend1XX3Extend1XX4Extend1LE5XX3LE1E",
   "xtend7XX3LE2Extend2XX10NU10XX6LE1XX3Extend1XX18LE3XX24LE1XX9LE1XX1LE2XX7LE3XX1Extend4XX6Ext",
   "end1XX1Extend1XX8Extend6XX10NU2XX2Extend61XX1Extend2XX7Extend12XX8Extend1XX10NU87XX1Extend2",
   "XX9Extend11XX7Extend1XX10NU38XX1LE23XX2Extend6XX10NU11XX1Extend1XX1Extend1XX1Extend4XX2Exte",
   "nd8LE1XX36LE4XX20Extend1XX2Extend5LE11Extend1XX36Extend9XX1Extend100XX20Extend1XX10NU12XX4E",
   "xtend4XX3Extend1XX3Extend2XX7Extend3XX4Extend13XX12Extend1XX1Extend10NU4Extend2XX38LE1XX1LE",
   "5XX1LE2XX43LE1XX333LE1XX4LE2XX7LE1XX1LE1XX4LE2XX41LE1XX4LE2XX33LE1XX4LE2XX7LE1XX1LE1XX4LE2X",
   "X15LE1XX57LE1XX4LE2XX67LE2XX3Extend32XX16LE16XX86LE2XX6LE3XX620LE2XX17LE1WSegSpace26LE5XX75",
   "LE3XX11LE7XX18LE4Extend9XX19LE3Extend11XX18LE2Extend12XX13LE1XX3LE1XX2Extend64XX32Extend9XX",
   "1Extend2XX10NU33XX3Extend1FO1Extend10NU6XX89LE7XX5LE2Extend34LE1Extend1LE5XX70LE10XX31LE1XX",
   "12Extend4XX12Extend10XX10NU128XX11NU37XX23LE5Extend57XX10Extend1XX29Extend2XX1Extend10NU6XX",
   "10NU22XX31Extend49XX5Extend47LE17Extend8LE3XX10NU17XX9Extend12XX3Extend30LE13Extend2LE10NU4",
   "4LE14Extend12XX36LE20Extend8XX10NU3XX3LE10NU36LE2XX11LE5XX43LE2XX3LE16XX3Extend1XX21Extend4",
   "LE1Extend6LE1Extend2LE3Extend1LE5XX192LE64Extend278LE2XX6LE2XX38LE2XX6LE2XX8LE1XX1LE1XX1LE1",
   "XX1LE1XX31LE2XX53LE1XX7LE1XX1LE3XX3LE1XX7LE3XX4LE2XX6LE4XX13LE5XX3LE1XX7LE3XX7WSegSpace1XX3",
   "WSegSpace1XX1Extend1ZWJ2FO8XX2MB10XX1MB2XX1ML2NL5FO1EX15XX2EX3XX1MN15XX1EX10XX1WSegSpace5FO",
   "1XX10FO1XX1LE13XX1LE16XX13LE51XX33Extend17XX1LE4XX1LE2XX10LE1XX1LE3XX5LE6XX1LE1XX1LE1XX1LE1",
   "XX4LE1XX11LE2XX4LE5XX5LE4XX1LE17XX41LE813XX52LE1814XX229LE6XX4LE3Extend2LE12XX38LE1XX1LE5XX",
   "1LE2XX56LE7XX1LE15XX1Extend23LE9XX7LE1XX7LE1XX7LE1XX7LE1XX7LE1XX7LE1XX7LE1XX7LE1XX32Extend4",
   "7XX1LE464XX1WSegSpace4XX1LE36XX6Extend1XX5KA5XX2LE92XX2Extend2KA3XX91KA1XX4KA5XX43LE1XX94LE",
   "17XX32LE48XX16KA208XX47KA1XX88KA27816XX1165LE67XX46LE2XX269LE3XX16LE10NU2LE20XX47LE4Extend1",
   "XX10Extend1XX31LE2Extend80LE2Extend22XX198LE2XX2LE1XX1LE1XX8LE21XX16LE1Extend3LE1Extend4LE1",
   "Extend23LE5Extend4XX1Extend19XX52LE12XX2Extend50LE18Extend10XX10NU6XX18Extend6LE3XX1LE1XX2L",
   "E1Extend10NU28LE8Extend2XX23LE13Extend12XX29LE3XX4Extend47LE14Extend14XX1LE10NU11XX1Extend1",
   "0XX10NU6XX41LE14Extend9XX3LE1Extend8LE2Extend2XX10NU33XX3Extend50XX1Extend1XX3Extend2XX2Ext",
   "end5XX2Extend1XX1Extend30XX11LE5Extend2XX3LE2Extend10XX6LE2XX6LE2XX6LE9XX7LE1XX7LE1XX58LE6X",
   "X115LE8Extend1XX2Extend2XX10NU6XX11172LE12XX23LE4XX49LE8964XX7LE12XX5LE5XX1HL1Extend10HL1XX",
   "13HL1XX5HL1XX1HL1XX2HL1XX2HL1XX10HL98LE33XX363LE18XX64LE2XX54LE40XX12LE4XX16Extend3XX1ML12X",
   "X16Extend3XX2EX24XX3EX1MN1XX1MB1XX1MN1ML26XX5LE1XX135LE2XX1FO7XX1MB4XX1MN1XX1MB1XX10NU1ML1M",
   "N5XX26LE4XX1EX1XX26LE11XX56KA2Extend31LE3XX6LE2XX6LE2XX6LE2XX3LE28XX3FO4XX12LE1XX26LE1XX19L",
   "E1XX2LE1XX15LE2XX14LE34XX123LE69XX53LE136XX1Extend130XX29LE3XX49LE15XX1Extend31XX32LE13XX30",
   "LE5XX38LE5Extend5XX30LE2XX36LE4XX8LE1XX5LE42XX158LE2XX10NU6XX36LE4XX36LE4XX40LE8XX52LE12XX1",
   "1LE1XX15LE1XX7LE1XX2LE1XX11LE1XX15LE1XX7LE1XX2LE3XX52LE12XX311LE9XX22LE10XX8LE24XX6LE1XX42L",
   "E1XX9LE69XX6LE2XX1LE1XX44LE1XX2LE3XX1LE2XX23LE10XX23LE9XX31LE65XX19LE1XX2LE10XX22LE10XX26LE",
   "70XX56LE6XX2LE64XX1LE3Extend1XX2Extend5XX4Extend4LE1XX3LE1XX29LE2XX3Extend4XX1Extend32XX29L",
   "E3XX29LE35XX8LE1XX28LE2Extend25XX54LE10XX22LE10XX19LE13XX18LE110XX73LE55XX51LE13XX51LE13XX3",
   "6LE4Extend8XX10NU6XX10NU28LE3XX5Extend1XX23LE250XX42LE1XX2Extend3XX2LE16XX3LE55XX4Extend29L",
   "E10XX1LE8XX22LE11Extend31XX18LE4Extend42XX21LE27XX23LE9XX3Extend53LE15Extend31XX10NU1Extend",
   "2LE2Extend1LE9XX4Extend45LE11Extend2XX1NU4XX1Extend10XX1NU2XX25LE7XX10NU6XX3Extend36LE14Ext",
   "end1XX10NU4XX1LE2Extend1LE8XX35LE1Extend2XX1LE9XX3Extend48LE14Extend4LE4XX4Extend1XX2Extend",
   "10NU1LE1XX1LE35XX18LE1XX25LE12Extend6XX1Extend2LE1Extend62XX7LE1XX1LE1XX4LE1XX15LE1XX10LE7X",
   "X47LE12Extend5XX10NU6XX4Extend1XX8LE2XX2LE2XX22LE1XX7LE1XX2LE1XX5LE1XX2Extend1LE7Extend2XX2",
   "Extend2XX3Extend2XX1LE6XX1Extend5XX5LE2Extend2XX7Extend3XX5Extend11XX10LE1XX1LE2XX1LE1XX38L",
   "E1XX1LE9Extend1XX1Extend2XX1Extend1XX4Extend1XX5Extend1LE1Extend1LE13XX2Extend29XX53LE18Ext",
   "end4LE5XX10NU4XX1Extend3LE30XX48LE20Extend2LE1XX1LE8XX10NU166XX47LE7Extend2XX9Extend23XX4LE",
   "2Extend34XX48LE17Extend3XX1LE11XX10NU38XX43LE13Extend1LE7XX10NU6XX20NU57XX15Extend4XX10NU19",
   "8XX44LE15Extend101XX64LE10NU21XX8LE2XX1LE2XX8LE1XX2LE1XX24LE6Extend1XX2Extend2XX4Extend1LE1",
   "Extend1LE2Extend12XX10NU70XX8LE2XX39LE7Extend2XX7Extend1LE1XX1LE1Extend27XX1LE10Extend40LE7",
   "Extend1LE4Extend8XX1Extend8XX1LE11Extend46LE16Extend3XX1LE18XX73LE199XX33LE15XX10NU6XX9LE1X",
   "X37LE8Extend1XX8Extend1LE15XX10NU24XX30LE2XX22Extend1XX14Extend73XX7LE1XX2LE1XX38LE6Extend3",
   "XX1Extend1XX2Extend1XX7Extend1LE1Extend8XX10NU6XX6LE1XX2LE1XX32LE5Extend1XX2Extend1XX5Exten",
   "d1LE7XX10NU310XX19LE4Extend9XX2Extend1LE1Extend13LE1XX34LE7Extend3XX5Extend13XX10NU1Extend8",
   "5XX1LE79XX922LE102XX111LE17XX196LE2636XX97LE15XX1072LE16FO1Extend6LE15Extend10XX3995LE5XX58",
   "3LE6841XX30LE18Extend10NU1734XX569LE7XX31LE1XX10NU6XX79LE1XX10NU6XX30LE2XX5Extend11XX48LE7E",
   "xtend9XX4LE12XX10NU9XX21LE5XX19LE432XX45LE3XX10NU198XX64LE128XX75LE4XX1Extend1LE55Extend7XX",
   "4Extend13LE64XX2LE1XX1LE1Extend11XX2Extend16382XX4KA1XX7KA1XX2KA1XX1KA287XX3KA50XX1KA14XX4K",
   "A2712XX107LE5XX13LE3XX9LE7XX10LE3XX2Extend1XX4FO4172XX10NU518XX46Extend2XX23Extend542XX5Ext",
   "end3XX6Extend8FO8Extend2XX7Extend30XX4Extend148XX3Extend443XX85LE1XX71LE1XX2LE2XX1LE2XX2LE2",
   "XX4LE1XX12LE1XX1LE1XX7LE1XX65LE1XX4LE2XX8LE1XX7LE1XX28LE1XX4LE1XX5LE1XX1LE3XX7LE1XX340LE2XX",
   "25LE1XX25LE1XX31LE1XX25LE1XX31LE1XX25LE1XX31LE1XX25LE1XX31LE1XX25LE1XX8LE2XX50NU512XX55Exte",
   "nd4XX50Extend8XX1Extend14XX1Extend22XX5Extend1XX15Extend1104XX31LE6XX6LE213XX7Extend1XX17Ex",
   "tend2XX7Extend1XX2Extend1XX5Extend5XX62LE33XX1Extend112XX45LE3XX7Extend7LE2XX10NU4XX1LE321X",
   "X30LE1Extend17XX44LE4Extend10NU470XX28LE4Extend10NU214XX30LE2Extend1LE10NU485XX7LE1XX4LE1XX",
   "2LE1XX15LE1XX197LE11XX7Extend41XX68LE7Extend1LE4XX10NU1190XX4LE1XX27LE1XX2LE1XX1LE2XX1LE1XX",
   "10LE1XX4LE1XX1LE1XX1LE6XX1LE4XX1LE1XX1LE1XX1LE1XX3LE1XX2LE1XX1LE2XX1LE1XX1LE1XX1LE1XX1LE1XX",
   "1LE1XX2LE1XX1LE2XX4LE1XX7LE1XX4LE1XX4LE1XX1LE1XX10LE1XX17LE5XX3LE1XX5LE1XX17LE628XX26LE6XX2",
   "6LE6XX26LE92XX26RI507XX5Extend2032XX10NU787463XX1FO30XX96Extend128XX240Extend196112XX"]

/-- The names of what a character does at the boundary of a word. -/
def wordBreakNames : Aliases := Aliases.ofLines
  ["CR cr;DQ dq doublequote;EX ex extendnumlet;Extend extend;FO fo format;HL hl hebrewletter",
   "KA ka katakana;LE le aletter;LF lf;MB mb midnumlet;ML ml midletter;MN mn midnum",
   "NL nl newline;NU nu numeric;RI ri regionalindicator;SQ sq singlequote;WSegSpace wsegspace",
   "ZWJ zwj"]

/-- What each character does at the boundary of a sentence. -/
def sentenceBreakRuns : Runs := Runs.ofLines
  ["9XX1SP1LF2SP1CR18XX1SP1ST1CL4XX3CL2XX2SC1AT1XX10NU2SC3XX1ST1XX26UP1CL1XX1CL3XX26LO1CL1XX1CL",
   "7XX1SE26XX1SP9XX1LO1CL1XX1FO7XX1LO4XX1LO1CL4XX23UP1XX7UP24LO1XX8LO1UP1LO1UP1LO1UP1LO1UP1LO1",
   "UP1LO1UP1LO1UP1LO1UP1LO1UP1LO1UP1LO1UP1LO1UP1LO1UP1LO1UP1LO1UP1LO1UP1LO1UP1LO1UP1LO1UP1LO1U",
   "P1LO1UP1LO1UP1LO1UP1LO1UP1LO1UP1LO1UP1LO1UP1LO1UP2LO1UP1LO1UP1LO1UP1LO1UP1LO1UP1LO1UP1LO1UP",
   "1LO1UP2LO1UP1LO1UP1LO1UP1LO1UP1LO1UP1LO1UP1LO1UP1LO1UP1LO1UP1LO1UP1LO1UP1LO1UP1LO1UP1LO1UP1",
   "LO1UP1LO1UP1LO1UP1LO1UP1LO1UP1LO1UP1LO1UP1LO1UP1LO1UP1LO2UP1LO1UP1LO1UP3LO2UP1LO1UP1LO2UP1L",
   "O3UP2LO4UP1LO2UP1LO3UP3LO2UP1LO2UP1LO1UP1LO1UP1LO2UP1LO1UP2LO1UP1LO2UP1LO3UP1LO1UP1LO2UP2LO",
   "1LE1UP3LO4LE2UP1LO2UP1LO2UP1LO1UP1LO1UP1LO1UP1LO1UP1LO1UP1LO1UP1LO1UP1LO1UP2LO1UP1LO1UP1LO1",
   "UP1LO1UP1LO1UP1LO1UP1LO1UP1LO1UP1LO1UP2LO2UP1LO1UP1LO3UP1LO1UP1LO1UP1LO1UP1LO1UP1LO1UP1LO1U",
   "P1LO1UP1LO1UP1LO1UP1LO1UP1LO1UP1LO1UP1LO1UP1LO1UP1LO1UP1LO1UP1LO1UP1LO1UP1LO1UP1LO1UP1LO1UP",
   "1LO1UP1LO1UP1LO1UP1LO1UP1LO1UP1LO1UP1LO1UP1LO1UP7LO2UP1LO2UP2LO1UP1LO4UP1LO1UP1LO1UP1LO1UP1",
   "LO1UP69LO1LE36LO7LE2LO4XX12LE14XX5LO7XX1LE1XX1LE17XX112EX1UP1LO1UP1LO1LE1XX1UP1LO2XX4LO1SC1",
   "UP6XX1UP1XX3UP1XX1UP1XX2UP1LO17UP1XX9UP35LO1UP2LO3UP3LO1UP1LO1UP1LO1UP1LO1UP1LO1UP1LO1UP1LO",
   "1UP1LO1UP1LO1UP1LO1UP1LO1UP1LO1UP5LO1UP1LO1XX1UP1LO2UP2LO51UP48LO1UP1LO1UP1LO1UP1LO1UP1LO1U",
   "P1LO1UP1LO1UP1LO1UP1LO1UP1LO1UP1LO1UP1LO1UP1LO1UP1LO1UP1LO1UP1LO1UP1LO1UP1LO1XX7EX1UP1LO1UP",
   "1LO1UP1LO1UP1LO1UP1LO1UP1LO1UP1LO1UP1LO1UP1LO1UP1LO1UP1LO1UP1LO1UP1LO1UP1LO1UP1LO1UP1LO1UP1",
   "LO1UP1LO1UP1LO1UP1LO1UP1LO1UP1LO1UP1LO1UP1LO1UP1LO1UP1LO1UP1LO2UP1LO1UP1LO1UP1LO1UP1LO1UP1L",
   "O1UP1LO1UP2LO1UP1LO1UP1LO1UP1LO1UP1LO1UP1LO1UP1LO1UP1LO1UP1LO1UP1LO1UP1LO1UP1LO1UP1LO1UP1LO",
   "1UP1LO1UP1LO1UP1LO1UP1LO1UP1LO1UP1LO1UP1LO1UP1LO1UP1LO1UP1LO1UP1LO1UP1LO1UP1LO1UP1LO1UP1LO1",
   "UP1LO1UP1LO1UP1LO1UP1LO1UP1LO1UP1LO1UP1LO1UP1LO1UP1LO1UP1LO1UP1LO1UP1LO1UP1LO1UP1LO1UP1LO1U",
   "P1LO1UP1LO1UP1LO1UP1LO1UP1LO1XX38UP2XX1LE3XX1SC2XX41LO1ST7XX45EX1XX1EX1XX2EX1XX2EX1XX1EX8XX",
   "27LE4XX5LE12XX6NU6XX2SC2XX11EX1XX1FO3ST43LE21EX10NU1XX2NU1XX2LE1EX99LE1ST1LE7EX1NU1XX6EX2LE",
   "2EX1XX4EX2LE10NU3LE2XX1LE3ST12XX1FO1LE1EX30LE27EX2XX89LE11EX1LE14XX10NU33LE9EX2LE2XX1SC1ST1",
   "LE2XX1EX2XX22LE4EX1LE9EX1LE3EX1LE5EX9XX1ST1XX1ST3XX2ST1XX25LE3EX4XX11LE5XX24LE1XX6LE1XX2NU5",
   "XX9EX42LE24EX1NU33EX54LE3EX1LE18EX1LE7EX10LE2EX2ST10NU1XX16LE3EX1XX8LE2XX2LE2XX22LE1XX7LE1X",
   "X1LE3XX4LE2XX1EX1LE7EX2XX2EX2XX3EX1LE8XX1EX4XX2LE1XX3LE2EX2XX10NU2LE10XX1LE1XX1EX2XX3EX1XX6",
   "LE4XX2LE2XX22LE1XX7LE1XX2LE1XX2LE1XX2LE2XX1EX1XX5EX4XX2EX2XX3EX3XX1EX7XX4LE1XX1LE7XX10NU2EX",
   "3LE1EX11XX3EX1XX9LE1XX3LE1XX22LE1XX7LE1XX2LE1XX5LE2XX1EX1LE8EX1XX3EX1XX3EX2XX1LE15XX2LE2EX2",
   "XX10NU9XX1LE6EX1XX3EX1XX8LE2XX2LE2XX22LE1XX7LE1XX2LE1XX5LE2XX1EX1LE7EX2XX2EX2XX3EX7XX3EX4XX",
   "2LE1XX3LE2EX2XX10NU1XX1LE16XX1EX1LE1XX6LE3XX3LE1XX4LE3XX2LE1XX1LE1XX2LE3XX2LE3XX3LE3XX12LE4",
   "XX5EX3XX3EX1XX4EX2XX1LE6XX1EX14XX10NU16XX5EX8LE1XX3LE1XX23LE1XX16LE2XX1EX1LE7EX1XX3EX1XX4EX",
   "7XX2EX1XX3LE2XX1LE2XX2LE2EX2XX10NU16XX1LE3EX1XX8LE1XX3LE1XX23LE1XX10LE1XX5LE2XX1EX1LE7EX1XX",
   "3EX1XX4EX7XX2EX6XX2LE1XX2LE2EX2XX10NU1XX2LE1EX12XX4EX9LE1XX3LE1XX41LE2EX1LE7EX1XX3EX1XX4EX1",
   "LE5XX3LE1EX7XX3LE2EX2XX10NU10XX6LE1XX3EX1XX18LE3XX24LE1XX9LE1XX1LE2XX7LE3XX1EX4XX6EX1XX1EX1",
   "XX8EX6XX10NU2XX2EX13XX48LE1EX2LE7EX5XX7LE8EX1XX10NU39XX2LE1XX1LE1XX5LE1XX24LE1XX1LE1XX10LE1",
   "EX2LE9EX1LE2XX5LE1XX1LE1XX7EX1XX10NU2XX4LE32XX1LE23XX2EX6XX10NU11XX1EX1XX1EX1XX1EX4CL2EX8LE",
   "1XX36LE4XX20EX1XX2EX5LE11EX1XX36EX9XX1EX57XX43LE20EX1LE10NU2ST4XX6LE4EX4LE3EX1LE3EX2LE7EX3L",
   "E4EX13LE12EX1LE1EX10NU4EX2XX38UP1XX1UP5XX1UP2XX43LE1XX1LO332LE1XX4LE2XX7LE1XX1LE1XX4LE2XX41",
   "LE1XX4LE2XX33LE1XX4LE2XX7LE1XX1LE1XX4LE2XX15LE1XX57LE1XX4LE2XX67LE2XX3EX2XX1ST4XX2ST23XX16L",
   "E16XX86UP2XX6LO3XX620LE1XX1ST17LE1SP26LE2CL3XX75LE3XX11LE7XX18LE4EX9XX19LE3EX2ST9XX18LE2EX1",
   "2XX13LE1XX3LE1XX2EX12XX52LE32EX2ST1XX1LE4XX1LE1EX2XX10NU24XX1SC1ST4XX1SC1ST1XX3EX1FO1EX10NU",
   "6XX89LE7XX5LE2EX34LE1EX1LE5XX70LE10XX31LE1XX12EX4XX12EX8XX2ST10NU30LE2XX5LE11XX44LE4XX26LE6",
   "XX11NU37XX23LE5EX4XX53LE10EX1XX29EX2XX1EX10NU6XX10NU13XX1LE4ST4XX31EX49XX5EX47LE17EX8LE1XX2",
   "ST10NU2ST2XX2ST11XX9EX9XX3ST3EX30LE13EX2LE10NU44LE14EX12XX36LE20EX3XX2ST3XX10NU3XX3LE10NU36",
   "LE2ST9LO1UP1LO5XX43LE2XX3LE16XX3EX1XX21EX4LE1EX6LE1EX2LE3EX1LE5XX192LO64EX1UP1LO1UP1LO1UP1L",
   "O1UP1LO1UP1LO1UP1LO1UP1LO1UP1LO1UP1LO1UP1LO1UP1LO1UP1LO1UP1LO1UP1LO1UP1LO1UP1LO1UP1LO1UP1LO",
   "1UP1LO1UP1LO1UP1LO1UP1LO1UP1LO1UP1LO1UP1LO1UP1LO1UP1LO1UP1LO1UP1LO1UP1LO1UP1LO1UP1LO1UP1LO1",
   "UP1LO1UP1LO1UP1LO1UP1LO1UP1LO1UP1LO1UP1LO1UP1LO1UP1LO1UP1LO1UP1LO1UP1LO1UP1LO1UP1LO1UP1LO1U",
   "P1LO1UP1LO1UP1LO1UP1LO1UP1LO1UP1LO1UP1LO1UP1LO1UP1LO1UP1LO1UP1LO1UP1LO1UP1LO1UP1LO1UP1LO1UP",
   "1LO1UP1LO1UP1LO1UP1LO1UP1LO1UP1LO1UP1LO1UP1LO1UP1LO1UP1LO1UP1LO1UP9LO1UP1LO1UP1LO1UP1LO1UP1",
   "LO1UP1LO1UP1LO1UP1LO1UP1LO1UP1LO1UP1LO1UP1LO1UP1LO1UP1LO1UP1LO1UP1LO1UP1LO1UP1LO1UP1LO1UP1L",
   "O1UP1LO1UP1LO1UP1LO1UP1LO1UP1LO1UP1LO1UP1LO1UP1LO1UP1LO1UP1LO1UP1LO1UP1LO1UP1LO1UP1LO1UP1LO",
   "1UP1LO1UP1LO1UP1LO1UP1LO1UP1LO1UP1LO1UP1LO1UP1LO1UP1LO1UP1LO1UP1LO1UP1LO1UP1LO1UP1LO1UP9LO8",
   "UP6LO2XX6UP2XX8LO8UP8LO8UP6LO2XX6UP2XX8LO1XX1UP1XX1UP1XX1UP1XX1UP8LO8UP14LO2XX8LO8UP8LO8UP8",
   "LO8UP5LO1XX2LO5UP1XX1LO3XX3LO1XX2LO5UP3XX4LO2XX2LO4UP4XX8LO5UP5XX3LO1XX2LO5UP3XX11SP1FO2EX2",
   "FO3XX2SC3XX8CL4XX1AT3XX2SE5FO1SP9XX2CL1XX2ST7XX2CL3ST21XX1SP5FO1XX10FO1XX1LO11XX2CL1LO13XX2",
   "CL1XX13LO51XX33EX17XX1UP4XX1UP2XX1LO3UP2LO3UP1LO1XX1UP3XX5UP6XX1UP1XX1UP1XX1UP1XX4UP1XX1LO4",
   "UP1LO4LE1LO2XX2LO2UP5XX1UP4LO4XX1LO17XX16UP16LO3LE1UP1LO4LE383XX4CL29XX2CL395XX26UP26LO625X",
   "X6CL7XX14CL79XX2CL31XX10CL403XX22CL63XX4CL32XX2CL514XX48UP48LO1UP1LO3UP2LO1UP1LO1UP1LO1UP1L",
   "O4UP1LO1UP2LO1UP8LO3UP1LO1UP1LO1UP1LO1UP1LO1UP1LO1UP1LO1UP1LO1UP1LO1UP1LO1UP1LO1UP1LO1UP1LO",
   "1UP1LO1UP1LO1UP1LO1UP1LO1UP1LO1UP1LO1UP1LO1UP1LO1UP1LO1UP1LO1UP1LO1UP1LO1UP1LO1UP1LO1UP1LO1",
   "UP1LO1UP1LO1UP1LO1UP1LO1UP1LO1UP1LO1UP1LO1UP1LO1UP1LO1UP1LO1UP1LO1UP1LO1UP1LO1UP1LO1UP1LO1U",
   "P1LO1UP1LO1UP1LO1UP1LO1UP1LO1UP1LO1UP1LO1UP2LO6XX1UP1LO1UP1LO3EX1UP1LO5XX3ST4XX38LO1XX1LO5X",
   "X1LO2XX56LE7XX1LE15XX1EX23LE9XX7LE1XX7LE1XX7LE1XX7LE1XX7LE1XX7LE1XX7LE1XX7LE1XX32EX14CL14XX",
   "2CL2XX10CL4XX1ST1LE12XX1ST5XX1CL16XX2ST8CL419XX1SP1SC1ST2XX3LE10CL2XX8CL1XX3CL1XX9LE6EX1XX5",
   "LE2XX5LE4XX86LE2XX2EX2XX3LE1XX90LE1XX4LE5XX43LE1XX94LE17XX32LE48XX16LE512XX6592LE64XX22157L",
   "E67XX46LE1XX1ST269LE1XX2ST16LE10NU2LE20XX1UP1LO1UP1LO1UP1LO1UP1LO1UP1LO1UP1LO1UP1LO1UP1LO1U",
   "P1LO1UP1LO1UP1LO1UP1LO1UP1LO1UP1LO1UP1LO1UP1LO1UP1LO1UP1LO1UP1LO1UP1LO1UP1LO1UP1LO1UP1LO1LE",
   "4EX1XX10EX1XX1LE1UP1LO1UP1LO1UP1LO1UP1LO1UP1LO1UP1LO1UP1LO1UP1LO1UP1LO1UP1LO1UP1LO1UP1LO1UP",
   "1LO1UP3LO2EX80LE2EX1XX1ST3XX1ST31XX9LE2XX1UP1LO1UP1LO1UP1LO1UP1LO1UP1LO1UP1LO1UP3LO1UP1LO1U",
   "P1LO1UP1LO1UP1LO1UP1LO1UP1LO1UP1LO1UP1LO1UP1LO1UP1LO1UP1LO1UP1LO1UP1LO1UP1LO1UP1LO1UP1LO1UP",
   "1LO1UP1LO1UP1LO1UP1LO1UP1LO1UP1LO1UP1LO1UP1LO1UP1LO1UP1LO1UP1LO1UP1LO1UP1LO1UP1LO1UP10LO1UP",
   "1LO1UP1LO2UP1LO1UP1LO1UP1LO1UP1LO1UP1LO1LE2XX1UP1LO1UP1LO1LE1UP1LO1UP3LO1UP1LO1UP1LO1UP1LO1",
   "UP1LO1UP1LO1UP1LO1UP1LO1UP1LO1UP1LO1UP1LO5UP1LO5UP1LO1UP1LO1UP1LO1UP1LO1UP1LO1UP1LO1UP1LO1U",
   "P1LO4UP1LO1UP1LO2UP1LO2XX1UP1LO1XX1LO1XX1LO1UP1LO1UP1LO1UP1LO1UP21XX3LO1UP1LO1LE3LO7LE1EX3L",
   "E1EX4LE1EX23LE5EX4XX1EX19XX52LE2XX2ST8XX2EX50LE18EX8XX2ST10NU6XX18EX6LE3XX1LE1XX2LE1EX10NU2",
   "8LE8EX1XX1ST23LE13EX12XX29LE3XX4EX47LE14EX7XX2ST5XX1LE10NU6XX5LE1EX10LE10NU5LE1XX41LE14EX9X",
   "X3LE1EX8LE2EX2XX10NU3XX3ST23LE3XX1LE3EX50LE1EX1LE3EX2LE2EX5LE2EX1LE1EX1LE24XX3LE2XX11LE5EX2",
   "ST3LE2EX10XX6LE2XX6LE2XX6LE9XX7LE1XX7LE1XX43LO1XX14LO6XX80LO35LE8EX1ST2EX2XX10NU6XX11172LE1",
   "2XX23LE4XX49LE8452XX366LE2XX106LE38XX7LO12XX5LO5XX1LE1EX10LE1XX13LE1XX5LE1XX1LE1XX2LE1XX2LE",
   "1XX108LE33XX363LE2CL16XX64LE2XX54LE40XX12LE4XX16EX2SC1ST2SC2ST2CL7XX16EX1XX2SC2XX16CL2XX2CL",
   "7XX2SC1AT1XX2SC2ST1SC6CL4XX1SC12XX5LE1XX135LE2XX1FO1XX1ST6XX2CL2XX2SC1AT1XX10NU2SC3XX1ST1XX",
   "26UP1CL1XX1CL3XX26LO1CL1XX1CL1XX2CL1ST2CL1SC1XX56LE2EX31LE3XX6LE2XX6LE2XX6LE2XX3LE28XX3FO4X",
   "X12LE1XX26LE1XX19LE1XX2LE1XX15LE2XX14LE34XX123LE69XX53LE136XX1EX130XX29LE3XX49LE15XX1EX31XX",
   "32LE13XX30LE5XX38LE5EX5XX30LE2XX36LE4XX8LE1XX5LE42XX40UP40LO78LE2XX10NU6XX36UP4XX36LO4XX40L",
   "E8XX52LE12XX11UP1XX15UP1XX7UP1XX2UP1XX11LO1XX15LO1XX7LO1XX2LO3XX52LE12XX311LE9XX22LE10XX8LE",
   "24XX1LO2LE3LO1XX42LO1XX9LO69XX6LE2XX1LE1XX44LE1XX2LE3XX1LE2XX23LE10XX23LE9XX31LE65XX19LE1XX",
   "2LE10XX22LE10XX26LE70XX56LE6XX2LE64XX1LE3EX1XX2EX5XX4EX4LE1XX3LE1XX29LE2XX3EX4XX1EX22XX2ST8",
   "XX29LE3XX29LE35XX8LE1XX28LE2EX25XX54LE10XX22LE10XX19LE13XX18LE110XX73LE55XX51UP13XX51LO13XX",
   "36LE4EX8XX10NU6XX10NU6LE22UP3XX5EX1XX1LE22LO250XX42LE1XX2EX3XX2LE16XX3LE55XX4EX29LE10XX1LE8",
   "XX22LE11EX4XX5ST22XX18LE4EX4ST38XX21LE27XX23LE9XX3EX53LE15EX2ST29XX10NU1EX2LE2EX1LE9XX4EX45",
   "LE11EX2XX1NU4ST1EX10XX1NU2XX25LE7XX10NU6XX3EX36LE14EX1XX10NU1XX3ST1LE2EX1LE8XX35LE1EX2XX1LE",
   "9XX3EX48LE14EX4LE2ST2XX4EX1ST2EX10NU1LE1XX1LE1XX2ST32XX18LE1XX25LE12EX2ST1XX2ST1XX1EX2LE1EX",
   "62XX7LE1XX1LE1XX4LE1XX15LE1XX10LE1ST6XX47LE12EX5XX10NU6XX4EX1XX8LE2XX2LE2XX22LE1XX7LE1XX2LE",
   "1XX5LE1XX2EX1LE7EX2XX2EX2XX3EX2XX1LE6XX1EX5XX5LE2EX2XX7EX3XX5EX11XX10LE1XX1LE2XX1LE1XX38LE1",
   "XX1LE9EX1XX1EX2XX1EX1XX4EX1XX5EX1LE1EX1LE2ST11XX2EX29XX53LE18EX4LE2ST3XX10NU4XX1EX3LE30XX48",
   "LE20EX2LE1XX1LE8XX10NU166XX47LE7EX2XX9EX1XX2ST5XX15ST4LE2EX34XX48LE17EX2ST1XX1LE11XX10NU38X",
   "X43LE13EX1LE7XX10NU6XX20NU28XX27LE2XX15EX4XX10NU2XX3ST1XX7LE185XX44LE15EX101XX32UP32LO10NU2",
   "1XX8LE2XX1LE2XX8LE1XX2LE1XX24LE6EX1XX2EX2XX4EX1LE1EX1LE2EX1ST1XX1ST9XX10NU70XX8LE2XX39LE7EX",
   "2XX7EX1LE1XX1LE1EX27XX1LE10EX40LE7EX1LE4EX3XX2ST3XX1EX8XX1LE11EX46LE16EX1XX2ST1LE18XX73LE19",
   "9XX33LE15XX10NU6XX9LE1XX37LE8EX1XX8EX1LE2ST13XX10NU24XX30LE2XX22EX1XX14EX73XX7LE1XX2LE1XX38",
   "LE6EX3XX1EX1XX2EX1XX7EX1LE1EX8XX10NU6XX6LE1XX2LE1XX32LE5EX1XX2EX1XX5EX1LE7XX10NU310XX19LE4E",
   "X2ST7XX2EX1LE1EX13LE1XX34LE7EX3XX5EX2ST11XX10NU1EX85XX1LE79XX922LE102XX111LE17XX196LE2636XX",
   "97LE15XX1072LE16FO1EX6LE15EX10XX3995LE5XX583LE6841XX30LE18EX10NU1734XX569LE7XX31LE1XX10NU4X",
   "X2ST79LE1XX10NU6XX30LE2XX5EX1ST10XX48LE7EX2ST7XX4LE1ST11XX10NU9XX21LE5XX19LE432XX45LE1XX2ST",
   "10NU198XX32UP32LO24XX1ST103XX75LE4XX1EX1LE55EX7XX4EX13LE64XX2LE1XX1LE1EX11XX2EX14XX6136LE8X",
   "X1238LE41XX10LE8935XX4LE1XX7LE1XX2LE1XX291LE15XX1LE29XX3LE2XX1LE14XX4LE8XX396LE2308XX107LE5",
   "XX13LE3XX9LE7XX10LE3XX2EX1ST4FO4172XX10NU518XX46EX2XX23EX542XX5EX3XX6EX8FO8EX2XX7EX30XX4EX1",
   "48XX3EX443XX26UP26LO26UP7LO1XX18LO26UP26LO1UP1XX2UP2XX1UP2XX2UP2XX4UP1XX8UP4LO1XX1LO1XX7LO1",
   "XX11LO26UP26LO2UP1XX4UP2XX8UP1XX7UP1XX26LO2UP1XX4UP1XX5UP1XX1UP3XX7UP1XX26LO26UP26LO26UP26L",
   "O26UP26LO26UP26LO26UP26LO26UP28LO2XX25UP1XX25LO1XX6LO25UP1XX25LO1XX6LO25UP1XX25LO1XX6LO25UP",
   "1XX25LO1XX6LO25UP1XX25LO1XX6LO1UP1LO2XX50NU512XX55EX4XX50EX8XX1EX14XX1EX3XX1ST18XX5EX1XX15E",
   "X1104XX10LO1LE20LO6XX6LO213XX7EX1XX17EX2XX7EX1XX2EX1XX5EX5XX62LO33XX1EX112XX45LE3XX7EX7LE2X",
   "X10NU4XX1LE321XX30LE1EX17XX44LE4EX10NU470XX28LE4EX10NU214XX30LE2EX1LE10NU485XX7LE1XX4LE1XX2",
   "LE1XX15LE1XX197LE11XX7EX41XX34UP34LO7EX1LE4XX10NU1190XX4LE1XX27LE1XX2LE1XX1LE2XX1LE1XX10LE1",
   "XX4LE1XX1LE1XX1LE6XX1LE4XX1LE1XX1LE1XX1LE1XX3LE1XX2LE1XX1LE2XX1LE1XX1LE1XX1LE1XX1LE1XX1LE1X",
   "X2LE1XX1LE2XX4LE1XX7LE1XX4LE1XX4LE1XX1LE1XX10LE1XX17LE5XX3LE1XX5LE1XX17LE628XX26UP6XX26UP6X",
   "X26UP1260XX3CL1399XX10NU1030XX42720LE32XX4154LE6XX222LE2XX5762LE14XX7473LE15XX622LE2466XX54",
   "2LE1506XX4939LE5XX4192LE711761XX1FO30XX96EX128XX240EX196112XX"]

/-- The names of what a character does at the boundary of a sentence. -/
def sentenceBreakNames : Aliases := Aliases.ofLines
  ["AT at aterm;CL cl close;CR cr;EX ex extend;FO fo format;LE le oletter;LF lf;LO lo lower",
   "NU nu numeric;SC sc scontinue;SE se sep;SP sp;ST st sterm;UP up upper"]

/-- The kinds of boundary a text can be cut at. -/
inductive Boundary where
  | grapheme
  | word
  | sentence
deriving DecidableEq, Repr

/-- What characters do at boundaries of a kind. -/
def Boundary.runs : Boundary → Runs
  | grapheme => graphemeBreakRuns
  | word => wordBreakRuns
  | sentence => sentenceBreakRuns

/-- The names of what characters do at boundaries of a kind. -/
def Boundary.names : Boundary → Aliases
  | grapheme => graphemeBreakNames
  | word => wordBreakNames
  | sentence => sentenceBreakNames

/-- The characters that do the same at boundaries of a kind. -/
def Boundary.stretches (kind : Boundary) (word : String) : List (Nat × Nat) :=
  kind.runs.stretches (· = word)

end InAppMessaging.Text.Unicode
