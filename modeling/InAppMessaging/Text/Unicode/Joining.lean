import InAppMessaging.Text.Unicode.Runs

/-!
# Joining letters

Whether a letter is joined to its neighbours: to the one behind (`L`), to the one before
(`R`), to both (`D`), to none (`U`), or always (`C`); what is transparent (`T`) is passed over.
-/

namespace InAppMessaging.Text.Unicode

/-- The joining types of all characters in their order. -/
def joiningRuns : Runs := Runs.ofLines
  ["173U1T594U112T275U7T263U45T1U1T1U2T1U2T1U1T72U11T1U1T3U1D1U4R1D1R1D1R5D4R13D1C7D1R2D21T14U2",
   "D1T3R1U3R16D18R38D1R2D9R1D1R1D1R2D2R1U1R7T2U6T2U2T1U4T2R10U3D2U1D15U1T1R1T3D5R4D1R9D1R1D1R1",
   "D1R2D1R27T2U1R11D3R15D2R4D1R1D2R3D2R6D38U11T25U33D9T6U1C2U1T24U4T1U9T1U3T1U5T18U1R5D2R1D1R1",
   "0D1R1D3R3T4U1D1U4D1U1R1D2R5U19R3C1D2U5D1R8U9T10D3R1U1R2D2R6D1R15D1U24T1U32T55U1T1U1T4U8T4U1",
   "T3U7T10U2T29U1T58U1T4U4T8U1T20U2T26U1T2U2T57U1T4U2T4U2T2U3T3U1T30U2T3U1T11U2T57U1T4U5T1U2T4",
   "U1T20U2T22U6T1U1T58U1T2U1T1U4T8U1T7U2T11U2T30U1T61U1T12U1T50U1T3U1T55U1T1U3T5U3T1U4T7U2T11U",
   "2T29U1T58U1T2U1T6U1T5U2T20U2T28U2T57U2T4U4T8U1T20U2T29U1T72U1T7U3T1U1T90U1T2U7T12U8T98U1T2U",
   "9T11U7T73U2T27U1T1U1T1U1T55U14T1U5T1U2T5U11T1U36T9U1T102U4T1U6T1U2T2U2T25U2T4U3T16U4T13U1T2",
   "U2T6U1T15U1T703U3T946U3T29U2T30U2T30U2T64U2T1U7T8U1T2U11T9U1T41U1D2U1C3T1U1T16U89D12U2T34D1",
   "T1D117U3T4U2T9U1T6U3T219U2T2U1T58U1T1U7T1U1T1U1T2U8T6U10T2U1T48U31T49U4T48U1T1U5T1U1T5U1T40",
   "U9T12U2T32U4T2U2T1U3T56U1T1U2T3U1T1U3T58U8T2U2T152U3T1U13T1U7T4U1T6U1T3U2T198U64T523U1T1U1C",
   "2T26U5T49U5T5U6T96U33T3070U3T141U1T96U32T554U4T107U2T30164U4T1U10T32U2T80U2T272U1T3U1T4U1T2",
   "5U2T5U1T19U50D1L81U2T26U18T13U1T38U8T25U11T46U3T48U1T2U4T2U2T39U1T67U6T2U2T2U2T12U1T8U1T47U",
   "1T51U1T1U3T2U2T5U2T1U1T42U2T8U1T238U1T2U1T4U1T20272U1T737U16T16U16T207U1T249U3T513U1T226U1T",
   "149U5T1670U3T1U2T5U4T40U3T4U1T128U5D1R1U1R1U2R2U1L5R4D1L5D1R3D1R2U1R2T4U4D1R144U1D1R1D3R3D1",
   "R2D1R1D2R1D1R23U4R2D337U1L33D1R1D4T65U5T317U2T21U1R2D55U4T48U3D1R17D1U11T3D1R27U4D2R12D4T42",
   "U1D1U2D3R1U1D2R2D1R2D1U1D2R1D4U1R1D1L53U1T54U15T41U1T2U2T10U3T49U4T2U2T7U1T61U3T36U5T1U8T62",
   "U1T12U2T52U9T10U4T2U1T95U3T2U1T1U2T6U1T2U1T157U1T3U8T21U2T57U2T3U1T37U7T3U5T70U6T13U1T1U1T1",
   "U1T14U2T85U8T2U3T1U1T23U1T84U6T1U1T4U2T1U2T238U4T6U2T1U2T27U2T85U8T2U1T1U2T106U1T1U1T2U6T1U",
   "1T101U1T1U1T2U4T1U5T259U9T1U2T256U2T1U1T4U1T144U4T2U2T4U1T32U10T40U6T2U4T8U1T9U6T2U3T46U13T",
   "1U2T406U7T1U6T1U1T82U22T2U7T1U2T1U2T122U6T3U1T1U2T1U7T1U1T72U2T3U1T1U1T347U2T11U2T52U5T5U1T",
   "1U1T23U1T5333U17T6U15T11464U12T3U3T2496U5T59U7T1048U1T63U4T81U1T19640U2T1U4T4700U46T2U23T54",
   "4U3T9U16T2U7T30U4T148U3T1979U55T4U50T8U1T14U1T22U5T1U15T1360U7T1U17T2U7T1U2T1U5T100U1T160U7",
   "T375U1T61U4T508U4T254U2T736U7T41U68D8T792245U1T30U96T128U240T196112U"]

/-- The joining type of a character. -/
def joiningType (c : Char) : String := joiningRuns.valueAt c.toNat

end InAppMessaging.Text.Unicode
