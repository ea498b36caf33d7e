import InAppMessaging.Text.Unicode.Runs

/-!
# Directions of writing

In which direction each character is written, by the short names of the classes: `L` from
left to right, `R` and `AL` from right to left, `EN` and `AN` for digits, and further ones for
signs that have no direction of their own.
-/

namespace InAppMessaging.Text.Unicode

/-- The direction classes of all characters in their order. -/
def directionRuns : Runs := Runs.ofLines
  ["9BN1S1B1S1WS1B14BN3B1S1WS2ON3ET5ON1ES1CS1ES2CS10EN1CS6ON26L6ON26L4ON6BN1B26BN1CS1ON4ET4ON1L",
   "2ON1BN2ON2ET2EN1ON1L3ON1EN1L5ON23L1ON31L1ON449L2ON7L14ON2L14ON5L9ON1L17ON112NSM4L2ON8L1ON5L",
   "2ON1L1ON110L1ON140L7NSM256L1ON2L2ON1ET1R45NSM1R1NSM1R2NSM1R2NSM1R1NSM56R6AN2ON1AL2ET1AL1CS1",
   "AL2ON11NSM48AL21NSM10AN1ET2AN3AL1NSM101AL7NSM1AN1ON6NSM2AL2NSM1ON4NSM2AL10EN23AL1NSM30AL27N",
   "SM91AL11NSM15AL43R9NSM2R4ON3R1NSM24R4NSM1R9NSM1R3NSM1R5NSM43R3NSM4R47AL1L2AN5AL9NSM42AL24NS",
   "M1AN32NSM55L1NSM1L1NSM4L8NSM4L1NSM3L7NSM10L2NSM29L1NSM58L1NSM4L4NSM8L1NSM20L2NSM14L2ET7L1ET",
   "2L1NSM2L2NSM57L1NSM4L2NSM4L2NSM2L3NSM3L1NSM30L2NSM3L1NSM11L2NSM57L1NSM4L5NSM1L2NSM4L1NSM20L",
   "2NSM13L1ET8L6NSM1L1NSM58L1NSM2L1NSM1L4NSM8L1NSM7L2NSM11L2NSM30L1NSM61L1NSM12L1NSM37L6ON1ET1",
   "ON5L1NSM3L1NSM55L1NSM1L3NSM5L3NSM1L4NSM7L2NSM11L2NSM20L7ON2L1NSM58L1NSM15L2NSM20L2NSM28L2NS",
   "M57L2NSM4L4NSM8L1NSM20L2NSM29L1NSM72L1NSM7L3NSM1L1NSM90L1NSM2L7NSM4L1ET7L8NSM98L1NSM2L9NSM1",
   "1L7NSM73L2NSM27L1NSM1L1NSM1L1NSM4ON51L14NSM1L5NSM1L2NSM5L11NSM1L36NSM9L1NSM102L4NSM1L6NSM1L",
   "2NSM2L2NSM25L2NSM4L3NSM16L4NSM13L1NSM2L2NSM6L1NSM15L1NSM703L3NSM48L10ON102L1ON639L1WS26L2ON",
   "117L3NSM29L2NSM30L2NSM30L2NSM64L2NSM1L7NSM8L1NSM2L11NSM7L1ET1L1NSM18L10ON6L11ON3NSM1BN1NSM1",
   "17L2NSM34L1NSM118L3NSM4L2NSM9L1NSM6L3NSM4L1ON3L2ON152L34ON23L2NSM2L1NSM58L1NSM1L7NSM1L1NSM1",
   "L1NSM2L8NSM6L10NSM2L1NSM48L31NSM49L4NSM48L1NSM1L5NSM1L1NSM5L1NSM40L9NSM12L2NSM32L4NSM2L2NSM",
   "1L3NSM56L1NSM1L2NSM3L1NSM1L3NSM58L8NSM2L2NSM152L3NSM1L13NSM1L7NSM4L1NSM6L1NSM3L2NSM198L64NS",
   "M445L1ON1L3ON11L3ON13L3ON13L3ON13L2ON1L11WS3BN1L1R24ON1WS1B1LRE1RLE1PDF1LRO1RLO1CS5ET15ON1C",
   "S26ON1WS6BN1LRI1RLI1FSI1PDI6BN1EN3L6EN2ES3ON1L10EN2ES3ON17L33ET1L14ET33NSM15L2ON1L4ON1L2ON1",
   "0L1ON1L3ON5L6ON1L1ON1L1ON1L1ON4L1ET11L2ON4L5ON5L4ON2L16ON41L3ON4L130ON1ES1ET290ON69L26ON1L1",
   "48ON22L11ON21L40ON20EN78L450ON1L339ON256L628ON2L32ON1L105ON229L6ON4L3NSM7L7ON127L1NSM96L32N",
   "SM94ON34L26ON1L89ON12L214ON26L16ON1WS4ON3L25ON9L4NSM2L1ON5L2ON5L3ON89L2NSM2ON3L1ON90L1ON196",
   "L38ON9L1ON45L2ON49L16ON28L3ON50L15ON12L4ON167L4ON99L2ON31L1ON6592L64ON22160L55ON326L3ON95L4",
   "NSM1ON10NSM2ON30L2NSM80L2NSM14L34ON102L1ON121L1NSM3L1NSM4L1NSM25L2NSM1L4ON1NSM11L2ET58L4ON7",
   "6L2NSM26L18NSM13L1NSM38L8NSM25L11NSM46L3NSM48L1NSM2L4NSM2L2NSM39L1NSM67L6NSM2L2NSM2L2NSM12L",
   "1NSM8L1NSM47L1NSM51L1NSM1L3NSM2L2NSM5L2NSM1L1NSM42L2NSM8L1NSM115L2ON121L1NSM2L1NSM4L1NSM202",
   "71L1R1NSM10R1ES38R115AL16L363AL18ON64AL2L54AL7L1ON32BN13AL3ON16NSM10ON6L16NSM32ON1CS1ON1CS1",
   "L1ON1CS9ON1ET2ON2ES3ON1L1ON2ET1ON4L143AL1BN1L2ON3ET5ON1ES1CS1ES2CS10EN1CS6ON26L6ON26L11ON12",
   "2L2ET3ON2ET1L7ON1L9BN5ON2BN257L1ON62L77ON3L13ON3L1ON92L1NSM226L1NSM27EN122L5NSM1157L287R1ON",
   "32R26L167R3NSM1R2NSM5R4NSM40R3NSM4R1NSM165R2NSM82R7ON448R36AL4NSM8AL10AN6AL10AN31R5NSM1ON24",
   "1R31AN44R2NSM19R5AL3L8AL9L33AL2L4NSM48R22AL11NSM31AL18R4NSM122R1L1NSM54L15NSM11L20ON10L1NSM",
   "2L2NSM10L3NSM49L4NSM2L2NSM7L1NSM61L3NSM36L5NSM1L8NSM62L1NSM12L2NSM52L9NSM10L4NSM2L1NSM95L3N",
   "SM2L1NSM1L2NSM6L1NSM2L1NSM157L1NSM3L8NSM21L2NSM57L2NSM3L1NSM37L7NSM3L5NSM70L6NSM13L1NSM1L1N",
   "SM1L1NSM14L2NSM85L8NSM2L3NSM1L1NSM23L1NSM84L6NSM1L1NSM4L2NSM1L2NSM238L4NSM6L2NSM1L2NSM27L2N",
   "SM85L8NSM2L1NSM1L2NSM31L13ON62L1NSM1L1NSM2L6NSM1L1NSM101L1NSM1L1NSM2L4NSM1L5NSM259L9NSM1L2N",
   "SM256L2NSM1L1NSM4L1NSM144L4NSM2L2NSM4L1NSM32L6NSM2L2NSM40L6NSM2L4NSM8L1NSM9L6NSM2L3NSM46L13",
   "NSM1L2NSM406L7NSM1L6NSM84L22NSM2L7NSM1L2NSM1L2NSM122L6NSM3L1NSM1L2NSM1L7NSM1L1NSM72L2NSM3L1",
   "NSM1L1NSM347L2NSM11L2NSM52L5NSM5L1NSM1L1NSM23L1NSM122L8ON4ET17ON5198L1NSM6L15NSM11464L12NSM",
   "3L3NSM2496L5NSM59L7NSM1048L1NSM63L4NSM79L1ON1L1NSM19640L2NSM1L4BN3932L214ON26L10EN6L436ON76",
   "L46NSM2L23NSM544L3NSM9L8BN8NSM2L7NSM30L4NSM59L2ON21L66ON3NSM1ON186L87ON874L1ON25L1ON31L1ON2",
   "5L1ON31L1ON25L1ON31L1ON25L1ON31L1ON25L1ON10L50EN512L55NSM4L50NSM8L1NSM14L1NSM22L5NSM1L15NSM",
   "1360L7NSM1L17NSM2L7NSM1L2NSM1L5NSM100L1NSM160L7NSM375L1NSM61L4NSM15L1ET492L4NSM254L2NSM528L",
   "208R7NSM109R7NSM805R80AL64R80AL176R240AL2ON14AL256R44ON4L100ON12L15ON2L15ON1L15ON1L37ON10L1",
   "1EN5ON31L1ON58L6ON61L1ON178L6ON154L984ON4L17ON3L13ON3L119ON4L95ON6L12ON4L1ON15L12ON4L56ON8L",
   "10ON6L40ON8L30ON2L12ON4L2ON62L340ON12L14ON2L13ON3L10ON5L56ON7L15ON2L11ON6L9ON7L147ON1L92ON1",
   "0EN1028L2BN65534L2BN65534L2BN65534L2BN65534L2BN65534L2BN65534L2BN65534L2BN65534L2BN65534L2B",
   "N65534L2BN65534L2BN65534L258BN240NSM3600BN61438L2BN65534L2BN65534L2BN"]

/-- The direction class of a character. -/
def directionClass (c : Char) : String := directionRuns.valueAt c.toNat

end InAppMessaging.Text.Unicode
