/-! # Names of Asian letters and signs -/

namespace TargetedConfig.Text.Name

/-- Kana, Bopomofo, Yi and neighbouring scripts, radicals and enclosed letters. -/
def asian : String := "
@2C00;aGLAGOLITIC CAPITAL LETTER AZU!BUKY!VEDE!GLAGOLI!DOBRO!YESTU!ZHIVETE!DZELO!ZEMLJA!IZHE$NITIA
L IZHE$!DJERVI!KAKO!LJUDIJE!MYSLITE!NASHI!ONU!POKOJI!RITSI!SLOVO!TVRIDO!UKU!FRITU!HERU!OTU!PE!SHTA
!TSI!CHRIVI!SHA!YERU&I$ATI!SPIDERY HA!YU!SMALL YUS? WITH TAIL!YO!IOTATED SMALL YUS!BIG YUS!IOTATE
D BIG YUS!FITA!IZHITSA!SHTAPIC!TROKUTASTI A!LATINATE MYSLITE!CAUDATE CHRIVIlSMALL LETTER AZUyBUKYy
VEDEyGLAGOLIyDOBROyYESTUyZHIVETEyDZELOyZEMLJAyIZHEzNITIAL IZHEzyDJERVIyKAKOyLJUDIJEyMYSLITEyNASHIy
ONUyPOKOJIyRITSIySLOVOyTVRIDOyUKUyFRITUyHERUyOTUyPEySHTAyTSIyCHRIVIySHAyYERU$IzATIySPIDERY HAyYUyS
MALL YUS< WITH TAILyYOyIOTATED SMALL YUSyBIG YUSyIOTATED BIG YUSyFITAyIZHITSAySHTAPICyTROKUTASTI A
yLATINATE MYSLITEyCAUDATE CHRIVIaLATIN CAPITAL LETTER L WITH DOUBLE BARgSMALL LETTER L WITH DOUBL
E BARgCAPITAL LETTER L WITH MIDDLE TILDEvP WITH STROKEvR WITH TAILgSMALL LETTER A WITH STROKEtT WI
TH DIAGONAL STROKEgCAPITAL LETTER H WITH DESCENDERgSMALL LETTER H WITH DESCENDERgCAPITAL LETTE
R K WITH DESCENDERgSMALL LETTER K WITH DESCENDERgCAPITAL LETTER Z WITH DESCENDERgSMALL LETTER Z WI
TH DESCENDERgCAPITAL LETTER ALPHAvM WITH HOOKvTURNED A&LPHAgSMALL LETTER V WITH RIGHT HOOKgCAPITA
L LETTER W WITH HOOKgSMALL LETTER W WITH HOOKtV WITH CURLgCAPITAL LETTER HALF HgSMALL LETTER HAL
F HtTAILLESS PHItE WITH NOTCHtTURNED R WITH TAILtO WITH LOW RING INSIDEgLETTER SMALL CAPITAL TURNE
D EgSUBSCRIPT SMALL LETTER JaMODIFIER LETTER CAPITAL VaLATIN CAPITAL LETTER S WITH SWASH TAILvZ WI
TH SWASH TAILaCOPTIC CAPITAL LETTER ALFAhSMALL LETTER ALFAhCAPITAL LETTER VIDAhSMALL LETTER VIDAhC
APITAL LETTER GAMMAhSMALL LETTER GAMMAhCAPITAL LETTER DALDAhSMALL LETTER DALDAhCAPITAL LETTER EIEh
SMALL LETTER EIEhCAPITAL LETTER SOUhSMALL LETTER SOUhCAPITAL LETTER ZATAhSMALL LETTER ZATAhCAPITA
L LETTER HATEhSMALL LETTER HATEhCAPITAL LETTER THETHEhSMALL LETTER THETHEhCAPITAL LETTER IAUDAhSMA
LL LETTER IAUDAhCAPITAL LETTER KAPAhSMALL LETTER KAPAhCAPITAL LETTER LAULAhSMALL LETTER LAULAhCAPI
TAL LETTER MIhSMALL LETTER MIhCAPITAL LETTER NIhSMALL LETTER NIhCAPITAL LETTER KSIhSMALL LETTER KS
IhCAPITAL LETTER OhSMALL LETTER OhCAPITAL LETTER PIhSMALL LETTER PIhCAPITAL LETTER ROhSMALL LETTE
R ROhCAPITAL LETTER SIMAhSMALL LETTER SIMAhCAPITAL LETTER TAUhSMALL LETTER TAUhCAPITAL LETTER UAhS
MALL LETTER UAhCAPITAL LETTER FIhSMALL LETTER FIhCAPITAL LETTER KHIhSMALL LETTER KHIhCAPITAL LETTE
R PSIhSMALL LETTER PSIhCAPITAL LETTER OOUhSMALL LETTER OOUhCAPITAL LETTER DIALECT-P ALEFhSMALL LET
TER DIALECT-P ALEFhCAPITAL LETTER OLD COPTIC AINhSMALL LETTER OLD COPTIC AINhCAPITAL LETTER CRYPTO
GRAMMIC EIEhSMALL LETTER CRYPTOGRAMMIC EIEhCAPITAL LETTER DIALECT-P KAPAhSMALL LETTER DIALECT-P KA
PAhCAPITAL LETTER DIALECT-P NIhSMALL LETTER DIALECT-P NIhCAPITAL LETTER CRYPTOGRAMMIC NIhSMALL LET
TER CRYPTOGRAMMIC NIhCAPITAL LETTER OLD COPTIC OOUhSMALL LETTER OLD COPTIC OOUhCAPITAL LETTER SAMP
IhSMALL LETTER SAMPIhCAPITAL LETTER CROSSED SHEIhSMALL LETTER CROSSED SHEIhCAPITAL LETTER OLD COPT
IC SHEIhSMALL LETTER OLD COPTIC SHEIhCAPITAL LETTER OLD COPTIC ESHhSMALL LETTER OLD COPTIC ESHhCAP
ITAL LETTER AKHMIMIC KHEIhSMALL LETTER AKHMIMIC KHEIhCAPITAL LETTER DIALECT-P HORIhSMALL LETTER DI
ALECT-P HORIhCAPITAL LETTER OLD COPTIC HORIhSMALL LETTER OLD COPTIC HORIhCAPITAL LETTER OLD COPTI
C HAhSMALL LETTER OLD COPTIC HAhCAPITAL LETTER L-SHAPED HAhSMALL LETTER L-SHAPED HAhCAPITAL LETTE
R OLD COPTIC HEIhSMALL LETTER OLD COPTIC HEIhCAPITAL LETTER OLD COPTIC HAThSMALL LETTER OLD COPTI
C HAThCAPITAL LETTER OLD COPTIC GANGIAhSMALL LETTER OLD COPTIC GANGIAhCAPITAL LETTER OLD COPTIC DJ
AhSMALL LETTER OLD COPTIC DJAhCAPITAL LETTER OLD COPTIC SHIMAhSMALL LETTER OLD COPTIC SHIMAhCAPITA
L LETTER OLD NUBIAN SHIMAhSMALL LETTER OLD NUBIAN SHIMAhCAPITAL LETTER OLD NUBIAN NGIhSMALL LETTE
R OLD NUBIAN NGIhCAPITAL LETTER OLD NUBIAN NYIhSMALL LETTER OLD NUBIAN NYIhCAPITAL LETTER OLD NUBI
AN WAUhSMALL LETTER OLD NUBIAN WAUiYMBOL KAIoMI ROoPI ROoSTAUROSoTAU ROoKHI ROoSHIMA SIMAhCAPITA
L LETTER CRYPTOGRAMMIC SHEIhSMALL LETTER CRYPTOGRAMMIC SHEIhCAPITAL LETTER CRYPTOGRAMMIC GANGIAhSM
ALL LETTER CRYPTOGRAMMIC GANGIAhCOMBINING NI ABOVErSPIRITUS ASPER!LENISiAPITAL LETTER BOHAIRIC KHE
IhSMALL LETTER BOHAIRIC KHEI@2CF9;hOLD NUBIAN FULL STOPsDIRECT QUESTION MARKsINDIRECT QUESTION MAR
KsVERSE DIVIDERhFRACTION ONE HALFiULL STOPhMORPHOLOGICAL DIVIDERaGEORGIAN SMALL LETTER ANwBANwGANw
DONwENwVINwZENwTANwINwKANwLASwMANwNARwONwPARwZHARwRAEwSANwTARwUNwPHARwKHARwGHANwQARwSHINwCHINxANwJ
ILwCILxHARwXANwJHANwHAExExIEwWEwHARxOE@2D27;wYN@2D2D;wAEN@2D30;aTIFINAGH LETTER YAsBtHsGtHHqBERBE
R ACADEMY YAJqYAJsDtHtDuHrEYrAFsKqTUAREG YAKqYAKHHsHqBERBER ACADEMY YAHqTUAREG YAHqYAHHsAsKHqTUARE
G YAKHqYAQqTUAREG YAQqYIrAZHqAHAGGAR YAZHqTUAREG YAZHqYALsMsNqTUAREG YAGNzNGqYAPrUrARtRsGHqTUARE
G YAGHqAYER YAGHqYAStStHsTtHsCHsTTsVsWsYsZqTAWELLEMET YAZqYAZZrErO@2D6F;jMODIFIER LETTER LABIALIZA
TION MARKjSEPARATOR MARK@2D7F;jCONSONANT JOINERaETHIOPIC SYLLABLE LOAsMOAsROAsSOAtHOAsBOAsTOAsCOAs
NOAtYOAsGLOTTAL OAsZOAsDOAtDOAsJOAsTHOAsCHOAsPHOAtOAsGGWAvIvEEw@2DA0;sSSAuUuIuAAuEEvuO@2DA8;sCCAuU
uIuAAuEEvuO@2DB0;sZZAuUuIuAAuEEvuO@2DB8;sCCHAvUvIvAAvEEwvO@2DC0;sQYAuUuIuAAuEEvuO@2DC8;sKYAuUuIuAA
uEEvuO@2DD0;sXYAuUuIuAAuEEvuO@2DD8;sGYAuUuIuAAuEEvuO@2DE0;aCOMBINING CYRILLIC LETTER BE!VE!GHE!DE!
ZHE$E!KA!EL$M$N!O!PE!ER$S!TE!HA!TSE!CHE!SHA%CHA!FITA!ES-TE!A!IE!DJERV!MONOGRAPH UK!YAT$U!IOTIFIE
D A!LITTLE YUS!BIG YUS!IOTIFIED BIG YUSaRIGHT ANGLE SUBSTITUTION MARKERmDOTTED SUBSTITUTION MARKER
aLEFT SUBSTITUTION BRACKETaRIGHT SUBSTITUTION BRACKETaLEFT DOTTED SUBSTITUTION BRACKETaRIGHT DOTTE
D SUBSTITUTION BRACKETbAISED INTERPOLATION MARKERhDOTTED INTERPOLATION MARKERaDOTTED TRANSPOSITIO
N MARKERaLEFT TRANSPOSITION BRACKETaRIGHT TRANSPOSITION BRACKETbAISED SQUAREaLEFT RAISED OMISSIO
N BRACKETaRIGHT RAISED OMISSION BRACKETaEDITORIAL CORONISaPARAGRAPHOSaFORKED PARAGRAPHOSaREVERSE
D FORKED PARAGRAPHOSaHYPODIASTOLEaDOTTED OBELOScWNWARDS ANCORAaUPWARDS ANCORAaDOTTED RIGHT-POINTIN
G ANGLEcUBLE OBLIQUE HYPHENaINVERTED INTERROBANGaPALM BRANCHaHYPHEN WITH DIAERESISaTILDE WITH RIN
G ABOVEaLEFT LOW PARAPHRASE BRACKETaRIGHT LOW PARAPHRASE BRACKETaTILDE WITH DOT ABOVEpBELOWaLEFT V
ERTICAL BAR WITH QUILLaRIGHT VERTICAL BAR WITH QUILLaTOP LEFT HALF BRACKETeRIGHT HALF BRACKETaBOTT
OM LEFT HALF BRACKEThRIGHT HALF BRACKETaLEFT SIDEWAYS U BRACKETaRIGHT SIDEWAYS U BRACKETaLEFT DOUB
LE PARENTHESISaRIGHT DOUBLE PARENTHESISaTWO DOTS OVER ONE DOT PUNCTUATIONaONE DOT OVER TWO DOTS PU
NCTUATIONaSQUARED FOUR DOT PUNCTUATIONaFIVE DOT MARKaREVERSED QUESTION MARKaVERTICAL TILDEaRING PO
INTaWORD SEPARATOR MIDDLE DOTaTURNED COMMAaRAISED DOThCOMMAaTURNED SEMICOLONaDAGGER WITH LEFT GUAR
DmRIGHT GUARDaTURNED DAGGERbOP HALF SECTION SIGNbWO-EM DASHbHREE-EM DASHaSTENOGRAPHIC FULL STOPaVE
RTICAL SIX DOTSaWIGGLY VERTICAL LINEaCAPITULUMaDOUBLE HYPHENaREVERSED COMMAaDOUBLE LOW-REVERSED-
9 QUOTATION MARKbASH WITH LEFT UPTURNbOUBLE SUSPENSION MARKaINVERTED LOW KAVYKAt WITH KAVYKA ABOVE
aLOW KAVYKAk WITH DOTaDOUBLE STACKED COMMAcTTED SOLIDUSaTRIPLE DAGGERaMEDIEVAL COMMAaPARAGRAPHUS M
ARKbUNCTUS ELEVATUS MARKaCORNISH VERSE DIVIDERbROSS PATTY WITH RIGHT CROSSBARrLEFT CROSSBARaTIRONI
AN SIGN CAPITAL ETaMEDIEVAL EXCLAMATION MARKjQUESTION MARKaLEFT SQUARE BRACKET WITH STROKEaRIGHT S
QUARE BRACKET WITH STROKEaLEFT SQUARE BRACKET WITH DOUBLE STROKEaRIGHT SQUARE BRACKET WITH DOUBL
E STROKEaTOP HALF LEFT PARENTHESISjRIGHT PARENTHESISaBOTTOM HALF LEFT PARENTHESISmRIGHT PARENTHESI
SaOBLIQUE HYPHEN@2E80;aCJK RADICAL REPEATmCLIFFmSECOND ONEtTWOuHREEmPERSONmBOXmTABLEmKNIFE ONEsTWO
mDIVINATIONmSEALnMALL ONEsTWOmLAME ONErTWOsHREErFOURmSNAKEmTHREADmSNOUT ONEsTWOmHEART ONEsTWOnANDm
RAP@2E9B;mCHOKEmSUNmMOONmDEATHmMOTHERmCIVILIANmWATER ONEsTWOmFIREmPAW ONEqTWOmSIMPLIFIED HALF TRE
E TRUNKmCOWmDOGmJADEmBOLT OF CLOTHmEYEmSPIRIT ONEtTWOmBAMBOOmSILKmC-SIMPLIFIED SILKmNET ONEqTWOrHR
EEqFOURmMESHmSHEEPmRAMmEWEmOLDmBRUSH ONEsTWOmMEATnORTARmGRASS ONEsTWOtHREEmTIGERmCLOTHESmWEST ONEr
TWOmC-SIMPLIFIED SEEmSIMPLIFIED HORNmHORNmC-SIMPLIFIED SPEECH!HELLmFOOTmC-SIMPLIFIED CARTmSIMPLIFI
ED WALKmWALK ONErTWOmCITYn-SIMPLIFIED GOLDmLONG ONErTWOmC-SIMPLIFIED LONGzGATEmMOUND ONEsTWOmRAINm
BLUEmC-SIMPLIFIED TANNED LEATHERzLEAFzWINDzFLYmEAT ONEqTWOrHREEmC-SIMPLIFIED EATmHEADmC-SIMPLIFIE
D HORSEmBONEmGHOSTmC-SIMPLIFIED FISHzBIRDzSALTmSIMPLIFIED WHEATxYELLOWmC-SIMPLIFIED FROGmJ-SIMPLIF
IED EVENmC-SIMPLIFIED EVENmJ-SIMPLIFIED TOOTHmC-SIMPLIFIED TOOTHmJ-SIMPLIFIED DRAGONmC-SIMPLIFIE
D DRAGONmTURTLEmJ-SIMPLIFIED TURTLEmC-SIMPLIFIED TURTLE@2F00;aKANGXI RADICAL ONEpLINEpDOTpSLASHqEC
ONDpHOOKpTWOpLIDpMANpLEGSpENTERqIGHTpDOWN BOXpCOVERpICEpTABLEpOPEN BOXpKNIFEpPOWERpWRAPpSPOONpRIGH
T OPEN BOXpHIDING ENCLOSUREpTENpDIVINATIONpSEALpCLIFFpPRIVATEpAGAINpMOUTHpENCLOSUREqARTHpSCHOLARpG
Or SLOWLYpEVENINGpBIGpWOMANpCHILDpROOFpINCHpSMALLpLAMEpCORPSEpSPROUTpMOUNTAINpRIVERpWORKpONESELFpT
URBANpDRYpSHORT THREADpDOTTED CLIFFpLONG STRIDEpTWO HANDSpSHOOTpBOWpSNOUTpBRISTLEpSTEPpHEARTqALBER
DpDOORpHANDpBRANCHpRAPpSCRIPTpDIPPERpAXEpSQUAREpNOTpSUNqAYpMOONpTREEpLACKpSTOPpDEATHpWEAPONpDO NOT
pCOMPAREpFURpCLANpSTEAMpWATERpFIREpCLAWpFATHERpDOUBLE XpHALF TREE TRUNKpSLICEpFANGpCOWpDOGpPROFOUN
DpJADEpMELONpTILEpSWEETpLIFEpUSEpFIELDpBOLT OF CLOTHpSICKNESSpDOTTED TENTpWHITEpSKINpDISHpEYEpSPEA
RpARROWpSTONEqPIRITpTRACKpGRAINpCAVEpSTANDpBAMBOOpRICEpSILKpJARpNETpSHEEPpFEATHERpOLDpANDpPLOWpEAR
pBRUSHpMEATqINISTERpSELFpARRIVEpMORTARpTONGUEpOPPOSEpBOATpSTOPPINGpCOLORpGRASSpTIGERpINSECTpBLOODp
WALK ENCLOSUREpCLOTHESpWESTpSEEpHORNpSPEECHpVALLEYpBEANpPIGpBADGERpSHELLpREDqUNpFOOTpBODYpCARTpBIT
TERpMORNINGpWALKpCITYpWINEpDISTINGUISHpVILLAGEpGOLDpLONGpGATEpMOUNDpSLAVEqHORT TAILED BIRDpRAINpBL
UEpWRONGpFACEpLEATHERpTANNED LEATHERpLEEKpSOUNDpLEAFpWINDpFLYpEATpHEADpFRAGRANTpHORSEpBONEpTALLpHA
IRpFIGHTpSACRIFICIAL WINEpCAULDRONpGHOSTpFISHpBIRDpSALTpDEERpWHEATpHEMPpYELLOWpMILLETpBLACKpEMBROI
DERYpFROGpTRIPODpDRUMpRATpNOSEpEVENpTOOTHpDRAGONpTURTLEpFLUTE@2FF0;aIDEOGRAPHIC DESCRIPTION CHARAC
TER LEFT TO RIGHT>ABOVE TO BELOW>LEFT TO MIDDLE AND RIGHT>ABOVE TO MIDDLE AND BELOW>FULL SURROUND>
SURROUND FROM ABOVE~UND FROM BELOW~UND FROM LEFT~UND FROM UPPER LEFT~UND FROM UPPER RIGHT~UND FRO
M LOWER LEFT>OVERLAID@3000;mSPACEmCOMMAmFULL STOPaDITTO MARKaJAPANESE INDUSTRIAL STANDARD SYMBOLaI
DEOGRAPHIC ITERATION MARKmCLOSING MARKmNUMBER ZEROaLEFT ANGLE BRACKETaRIGHT ANGLE BRACKETaLEFT DOU
BLE ANGLE BRACKETaRIGHT DOUBLE ANGLE BRACKETaLEFT CORNER BRACKETaRIGHT CORNER BRACKETaLEFT WHITE C
ORNER BRACKETaRIGHT WHITE CORNER BRACKETaLEFT BLACK LENTICULAR BRACKETaRIGHT BLACK LENTICULAR BRAC
KETaPOSTAL MARKaGETA MARKaLEFT TORTOISE SHELL BRACKETaRIGHT TORTOISE SHELL BRACKETaLEFT WHITE LENT
ICULAR BRACKETaRIGHT WHITE LENTICULAR BRACKETaLEFT WHITE TORTOISE SHELL BRACKETaRIGHT WHITE TORTOI
SE SHELL BRACKETaLEFT WHITE SQUARE BRACKETaRIGHT WHITE SQUARE BRACKETaWAVE DASHaREVERSED DOUBLE PR
IME QUOTATION MARKaDOUBLE PRIME QUOTATION MARKaLOW DOUBLE PRIME QUOTATION MARKaPOSTAL MARK FACEaHA
NGZHOU NUMERAL ONErTWOsHREErFOURsIVErSIXsEVENrEIGHTrNINEaIDEOGRAPHIC LEVEL TONE MARKmRISING TONE M
ARKmDEPARTING TONE MARKmENTERING TONE MARKaHANGUL SINGLE DOT TONE MARKhDOUBLE DOT TONE MARKaWAVY D
ASHaVERTICAL KANA REPEAT MARKvWITH VOICED SOUND MARKvMARK UPPER HALFvWITH VOICED SOUND MARK UPPE
R HALFvMARK LOWER HALFaCIRCLED POSTAL MARKaIDEOGRAPHIC TELEGRAPH LINE FEED SEPARATOR SYMBOLaHANGZH
OU NUMERAL TENsWENTYsHIRTYaVERTICAL IDEOGRAPHIC ITERATION MARKaMASU MARKaPART ALTERNATION MARKaIDE
OGRAPHIC VARIATION INDICATORmHALF FILL SPACE@3041;aHIRAGANA LETTER SMALL AqAqSMALL IqIqSMALL UqUqS
MALL EqEqSMALL OqOqKAqGAqKIqGIqKUqGUqKEqGEqKOqGOqSAqZAqSIqZIqSUqZUqSEqZEqSOqZOqTAqDAqTIqDIqSMALL T
UqTUqDUqTEqDEqTOqDOqNArIrUrErOqHAqBAqPAqHIqBIqPIqHUqBUqPUqHEqBEqPEqHOqBOqPOqMArIrUrErOqSMALL YAqYA
qSMALL YUqYUqSMALL YOqYOqRArIrUrErOqSMALL WAqWArIrErOqNqVUqSMALL KAxE@3099;aCOMBINING KATAKANA-HIR
AGANA VOICED SOUND MARK%SEMI-VOICED SOUND MARKaKATAKANA-HIRAGANA VOICED SOUND MARKsSEMI-VOICED SOU
ND MARKaHIRAGANA ITERATION MARKjVOICED ITERATION MARKjDIGRAPH YORIaKATAKANA-HIRAGANA DOUBLE HYPHEN
i LETTER SMALL AqAqSMALL IqIqSMALL UqUqSMALL EqEqSMALL OqOqKAqGAqKIqGIqKUqGUqKEqGEqKOqGOqSAqZAqSIq
ZIqSUqZUqSEqZEqSOqZOqTAqDAqTIqDIqSMALL TUqTUqDUqTEqDEqTOqDOqNArIrUrErOqHAqBAqPAqHIqBIqPIqHUqBUqPUq
HEqBEqPEqHOqBOqPOqMArIrUrErOqSMALL YAqYAqSMALL YUqYUqSMALL YOqYOqRArIrUrErOqSMALL WAqWArIrErOqNqVU
qSMALL KAxEqVArIrErOjMIDDLE DOTi-HIRAGANA PROLONGED SOUND MARKi ITERATION MARKjVOICED ITERATION MA
RKjDIGRAPH KOTO@3105;aBOPOMOFO LETTER BqPqMqFqDqTqNqLqGqKqHqJqQqXqZHqCHqSHqRqZqCqSqAqOqErHqAIqEIqA
UqOUqANqENqANGqENGrRqIqUqIUqVqNGqGNqIHqO WITH DOT ABOVEqNN@3131;aHANGUL LETTER KIYEOKoSSANGKIYEOKo
KIYEOK-SIOSoNIEUNt-CIEUCuHIEUHoTIKEUToSSANGTIKEUToRIEULt-KIYEOKuMIEUMuPIEUPuSIOSuTHIEUTHuPHIEUPHuH
IEUHoMIEUMoPIEUPoSSANGPIEUPoPIEUP-SIOSoSIOSpSANGSIOSoIEUNGoCIEUCoSSANGCIEUCoCHIEUCHoKHIEUKHoTHIEUT
HoPHIEUPHoHIEUHoApEoYAqEoEOpoYEOqoOoWAqEoOEoYOoUoWEOqpIoYUoEUoYIoIhFILLERhLETTER SSANGNIEUNoNIEUN-
TIKEUTuSIOSuPANSIOSoRIEUL-KIYEOK-SIOSuTIKEUTuPIEUP-SIOSvANSIOSuYEORINHIEUHoMIEUM-PIEUPuSIOSuPANSIO
SoKAPYEOUNMIEUMoPIEUP-KIYEOKuTIKEUTuSIOS-KIYEOKzTIKEUTuCIEUCuTHIEUTHoKAPYEOUNPIEUPwSSANGPIEUPoSIOS
-KIYEOKtNIEUNtTIKEUTtPIEUPtCIEUCoPANSIOSoSSANGIEUNGoYESIEUNGw-SIOSxPANSIOSoKAPYEOUNPHIEUPHoSSANGHI
EUHoYEORINHIEUHpO-YAtErIpU-YEOtrIoARAEAtE@3190;aIDEOGRAPHIC ANNOTATION LINKING MARKxREVERSE MARKxO
NE MARKxTWO MARKyHREE MARKxFOUR MARKxTOP MARKxMIDDLE MARKxBOTTOM MARKxFIRST MARKxSECOND MARKxTHIR
D MARKxFOURTH MARKxHEAVEN MARKxEARTH MARKxMAN MARKaBOPOMOFO LETTER BUqZIqJIqGUqEErNNqOOrNNqIRqANNq
INNqUNNqIMqNGGqAINNrUNNrMqOMrNGqINNNjFINAL LETTER PwTwKwHjLETTER GHqLHqZYjFINAL LETTER GjLETTER GW
qKWqOEqAHaCJK STROKE TlWGlXGlBXGlSWlHZZnGmPmZWGlSZWGlHZTnZPmPWGmZWnZZlNlHlSlPlSPlDlHZmGlSZmWZmTmGl
PDmZlTNlSZZmWGlHXWGmZZZGlPGlQ@31F0;aKATAKANA LETTER SMALL KUwSIxUwTOwNUwHAxIxUxExOwMUwRAxIxUxExOaP
ARENTHESIZED HANGUL KIYEOKvNIEUNvTIKEUTvRIEULvMIEUMvPIEUPvSIOSvIEUNGvCIEUCwHIEUCHvKHIEUKHvTHIEUTHv
PHIEUPHvHIEUHvKIYEOK AvNIEUN AvTIKEUT AvRIEUL AvMIEUM AvPIEUP AvSIOS AvIEUNG AvCIEUC AwHIEUCH AvKH
IEUKH AvTHIEUTH AvPHIEUPH AvHIEUH AvCIEUC UoKOREAN CHARACTER OJEON. HU@3220;oIDEOGRAPH ONEyTWOzHRE
EyFOURzIVEySIXzEVENyEIGHTyNINEyTENyMOONyFIREyWATERzOODyMETALyEARTHySUNzTOCKyHAVEySOCIETYyNAMEySPEC
IALyFINANCIALyCONGRATULATIONyLABORyREPRESENTyCALLySTUDYzUPERVISEyENTERPRISEyRESOURCEyALLIANCEyFEST
IVALyRESTySELFyREACHaCIRCLED IDEOGRAPH QUESTIONsKINDERGARTENsSCHOOLsKOTOiNUMBER TEN ON BLACK SQUAR
EqWENTY ON BLACK SQUAREqHIRTY ON BLACK SQUAREpFORTY ON BLACK SQUAREqIFTY ON BLACK SQUAREpSIXTY O
N BLACK SQUAREqEVENTY ON BLACK SQUAREpEIGHTY ON BLACK SQUAREaPARTNERSHIP SIGNaCIRCLED NUMBER TWENT
Y ONEwTWOxHREEwFOURxIVEwSIXxEVENwEIGHTwNINEqHIRTYv ONEwTWOxHREEwFOURxIVEiHANGUL KIYEOKpNIEUNpTIKEU
TpRIEULpMIEUMpPIEUPpSIOSpIEUNGpCIEUCqHIEUCHpKHIEUKHpTHIEUTHpPHIEUPHpHIEUHpKIYEOK ApNIEUN ApTIKEU
T ApRIEUL ApMIEUM ApPIEUP ApSIOS ApIEUNG ApCIEUC AqHIEUCH ApKHIEUKH ApTHIEUTH ApPHIEUPH ApHIEUH Ai
KOREAN CHARACTER CHAMKOzJUEUIiHANGUL IEUNG UaKOREAN STANDARD SYMBOLaCIRCLED IDEOGRAPH ONEsTWOtHREE
sFOURtIVEsSIXtEVENsEIGHTsNINEsTENsMOONsFIREsWATERtOODsMETALsEARTHsSUNtTOCKsHAVEsSOCIETYsNAMEsSPECI
ALsFINANCIALsCONGRATULATIONsLABORsSECRETsMALEsFEMALEsSUITABLEsEXCELLENTsPRINTsATTENTIONsITEMsRESTs
COPYuRRECTsHIGHsCENTREsLOWtEFTsRIGHTsMEDICINEsRELIGIONsSTUDYtUPERVISEsENTERPRISEsRESOURCEsALLIANCE
sNIGHTiNUMBER THIRTY SIXxEVENwEIGHTwNINEpFORTYu ONEvTWOwHREEvFOURwIVEvSIXwEVENvEIGHTvNINEqIFTYaIDE
OGRAPHIC TELEGRAPH SYMBOL FOR JANUARY<FEBRUARY<MARCH<APRIL<MAY<JUNE?LY<AUGUST<SEPTEMBER<OCTOBER<NO
VEMBER<DECEMBERaSQUARE HGhERGiVaLIMITED LIABILITY SIGNaCIRCLED KATAKANA ArIrUrErOrKAsIsUsEsOrSAsIs
UsEsOrTAsIsUsEsOrNAsIsUsEsOrHAsIsUsEsOrMAsIsUsEsOrYAsUsOrRAsIsUsEsOrWAsIsEsOaSQUARE ERA NAME REIWA
hAPAATOiRUHUAiNPEAiARUhININGUjTIhUONhESUKUUDOiEKAAhONSUiOMUhKAIRIjRATTOkORIIhGARONjNMAiIGAjNIIhKYU
RIIhGIRUDAAhKIROlGURAMUlMEETORUlWATTOhGURAMUnTONhKURUZEIROkOONEiEESUiORUNAjOPOhSAIKURUjNTIIMUiIRIN
GUiENTIlOhDAASUiESIiORUhTONhNANOiOTTOhHAITUhPAASENTOkTUhBAARERUhPIASUTORUjKURUkOhBIRUhHUARADDOjIIT
OhBUSSYERUhHURANiEKUTAARUhPESOjNIHIhHERUTUhPENSUjEZIhBEETAhPOINTOhBORUTOhHONhPONDOhHOORUkNhMAIKURO
kRUjHHAjRUKUjNSYONiIKURONjRIlBAARUiEGAlTONjETORUhYAADOkRUiUANhRITTORUjRAiUPIIjUBURUiEMUjNTOGENhWAT
TOaIDEOGRAPHIC TELEGRAPH SYMBOL FOR HOUR ZERO|ONE|TWO~HREE|FOUR~IVE|SIX~EVEN|EIGHT|NINE|TEN|ELEVEN
|TWELVE~HIRTEEN|FOURTEEN~IFTEEN|SIXTEEN~EVENTEEN|EIGHTEEN|NINETEEN|TWENTY~WENTY-ONE~WENTY-TWO~WENT
Y-THREE~WENTY-FOURaSQUARE HPAhDAhAUhBARhOVhPChDMj SQUAREDkCUBEDhIUhERA NAME HEISEIqSYOUWAqTAISYOUq
MEIZIhCORPORATIONhPA AMPShNAhMU AiAhKAiBhMBhGBhCALhKCALhPFhNFhMU FkGiGhKGhHZhKHZhMHZhGHZhTHZhMU Li
LhDLhKLhFMhNMhMU MiMhCMhKMhMM SQUAREDhCM SQUAREDhM SQUAREDhKM SQUAREDhMM CUBEDhCM CUBEDhM CUBEDhK
M CUBEDhM OVER Sp SQUAREDhPAhKPAhMPAhGPAhRADk OVER Sr SQUAREDhPShNShMU SiShPVhNVhMU ViVhKVhMV MEGA
hPWhNWhMU WiWhKWhMW MEGAhK OHMhM OHMhAMhBQhCCiDi OVER KGiOhDBhGYhHAiPhINhKKiM CAPITALiThLMiNiOGiXh
MB SMALLiILiOLhPHiMiPMiRhSRiVhWBhV OVER MhA OVER MaIDEOGRAPHIC TELEGRAPH SYMBOL FOR DAY ONE_TWO|HR
EE_FOUR|IVE_SIX|EVEN_EIGHT_NINE_TEN_ELEVEN_TWELVE|HIRTEEN_FOURTEEN|IFTEEN_SIXTEEN|EVENTEEN_EIGHTEE
N_NINETEEN_TWENTY~ENTY-ONE~ENTY-TWO~ENTY-THREE~ENTY-FOUR~ENTY-FIVE~ENTY-SIX~ENTY-SEVEN~ENTY-EIGHT~
ENTY-NINE|HIRTY~IRTY-ONEaSQUARE GAL@4DC0;aHEXAGRAM FOR THE CREATIVE HEAVENrRECEPTIVE EARTHnDIFFICU
LTY AT THE BEGINNINGnYOUTHFUL FOLLYnWAITINGnCONFLICTnTHE ARMYnHOLDING TOGETHERnSMALL TAMINGnTREADI
NGnPEACEnSTANDSTILLnFELLOWSHIPnGREAT POSSESSIONnMODESTYnENTHUSIASMnFOLLOWINGnWORK ON THE DECAYEDnA
PPROACHnCONTEMPLATIONnBITING THROUGHnGRACEnSPLITTING APARTnRETURNnINNOCENCEnGREAT TAMINGnMOUTH COR
NERSnGREAT PREPONDERANCEnTHE ABYSMAL WATERrCLINGING FIREnINFLUENCEnDURATIONnRETREATnGREAT POWERnPR
OGRESSnDARKENING OF THE LIGHTnTHE FAMILYnOPPOSITIONoBSTRUCTIONnDELIVERANCEpCREASEnINCREASEnBREAKTH
ROUGHnCOMING TO MEETnGATHERING TOGETHERnPUSHING UPWARDnOPPRESSIONnTHE WELLnREVOLUTIONnTHE CAULDRON
rAROUSING THUNDERrKEEPING STILL MOUNTAINnDEVELOPMENTnTHE MARRYING MAIDENnABUNDANCEnTHE WANDERERrGE
NTLE WINDrJOYOUS LAKEnDISPERSIONnLIMITATIONnINNER TRUTHnSMALL PREPONDERANCEnAFTER COMPLETIONnBEFOR
E COMPLETION@A000;aYI SYLLABLE ITnXnnPnEToXooPmATnXnnPmUOXooPmOTnXnnPmEXnmWUmBIToXooPoETpXppPnAToX
ooPnUOXppPnOToXooPnEXooPnUToXooPoRXpnYToXooPoRXpmPIToXooPoEXppPnAToXooPnUOXppPnOToXooPnUToXooPoRXp
nYToXooPoRXpmBBITpXppPpETqXqqPoATpXppPoUOXqqPoOTpXppPoEXppPoUTpXppPpRXqoYTpXppPmNBITpXppPpEXqqPoAT
pXppPoOTpXppPoUTpXppPpRXqoYTpXppPpRXqmHMITpXppPpEXqqPoATpXppPoUOXqqPoOTpXppPoUTpXppPpRXqoYXppPpRXq
mMIToXooPoEXppPnAToXooPnUOTpXppPnOToXooPnEXonUToXooPoRXpnYToXooPmFIToXooPnAToXooPnOXooPnUToXooPoRX
pnYToXooPmVIToXooPoETpXppPnAToXooPnOToXooPnEXoPnUToXooPoRXpnYToXooPoRXpmDIToXooPoEXppPnAToXooPnUOX
pnOToXooPnEXooPnUToXooPoRXpmTIToXooPoEXppPnAToXooPnUOTpXppPnOToXooPnEXooPnUToXooPoRXpmDDITpXppPpEX
qqPoATpXppPoUOXqqPoOTpXppPoEXppPoUTpXppPpRXqmNDITpXppPpEXqoATpXppPoOTpXppPoEXppPoUTpXppPpRXqmHNITp
XppPpETqXqqPoATpXppPoUOXqoOTpXpPoEXppPoUTmNIToXooPoEXppPnAXooPnUOXppPnOToXooPnEXooPnUToXooPoRXpmHL
ITpXppPpEXqqPoATpXppPoUOXqqPoOXppPoEXppPoUTpXppPpRXqoYTpXppPpRXqmLIToXooPoETpXppPnAToXooPnUOTpXppP
nOToXooPnEXooPnUToXooPoRXpnYToXooPoRXpmGIToXooPoETpXppPnAToXooPnUOTpXppPnOToXooPnEToXooPnUToXooPoR
XpmKIToXooPoEXppPnAToXooPnUOXppPnOToXooPnEToXooPnUToXooPoRXpmGGITpXppEXqqPoATpXppPoUOTqXqqPoOTpXpp
PoETpXppPoUTpXppPpRXqmMGIEXqoATpXppPoUOXqqPoOTpXppPoEXppPoUTpXppPpRXqmHXITpXppPpETqXqqPoATpXppPoUO
TqXqqPoOTpXppPoEXppPmNGIEXqqPoATpXppPoUOTqXqoOTpXppPoEXppPmHIToEXpnAToXooPnUOTpXppPnOToXooPnEXooPm
WAToXooPnUOXppPnOXooPnEXooPmZIToXooPoEXppPnAToXooPnUOXppPnOToXooPnEXooPnUToXooPoRXpnYToXooPoRXpmCI
ToXooPoETpXppPnAToXooPnUOXppPnOToXooPnEXooPnUToXooPoRXpnYToXooPoRXpmZZITpXppPpETqXqqPoATpXppPoOXpp
PoEXppPoUXppPpRXqoYTpXppPpRXqmNZITpXppPpEXqqPoATpXppPoUOXqoOXpPoEXpoUXppPpRXqoYTpXppPpRXqmSIToXooP
oEXppPnAToXooPnUOXppPnOToXooPnEXooPnUToXooPoRXpnYToXooPoRXpnSITpXppPpEXqqPoATpXppPoOTpXppPoEXppPoU
TpXppPoYTpXppPpRXqmZHATpXppPoUOXqqPoOTpXppPoETpXppPoUTpXppPpRXqoYTpXppPpRXqmCHATpXppPoUOTqXqqPoOTp
XppPoETpXppPoUXppPpRXqoYTpXppPpRXqmRRAXpoUOXqoOTpXppPoETpXppPoUTpXppPpRXqoYTpXppPpRXqmNRATpXppPoOX
ppPoETpXppPoUTpXppPpRXqoYTpXppPpRXqmSHATpXppPoUOXqqPoOTpXppPoETpXppPoUTpXppPpRXqoYTpXppPpRXqmRAToX
ooPnUOXppPnOToXooPnEXooPnUToXooPoRXpnYToXooPoRXpmJIToXooPoETpXppPnUOTpXppPnOToXooPnUToXooPoRXpnYTo
XooPoRXpmQIToXooPoETpXppPnUOTpXppPnOToXooPnUToXooPoRXpnYToXooPoRXpmJJITpXppPpETqXqqPoUOXqqPoOTpXpp
PoUTpXppPpRXqoYTpXppPmNJITpXppPpETqXqqPoUOXqoOTpXppPoUXppPpRXqoYTpXppPpRXqnYITpXppPpETqXqqPoUOXqqP
oOTpXppPoUTpXppPmXIToXooPoETpXppPnUOXpnOToXooPnYToXooPoRXpmYIToXooPoETpXppPnUOTpXppPnOToXooPnUToXo
oPoRXpnYToXooPoRXp@A490;dRADICAL QOTlLIlKITlNYIPlCYPlSSIlGGOPmEPlMIlHXITlLYRlBBUTlMOPlYOlPUTlHXUOl
TATlGAlZUPlCYTlDDURlBURlGGUOlNYOPlTUlOPlJJUTlZOTlPYTlHMOlYITlVURlSHYlVEPlZAlJOlNZUPlJJYlGOTlJJIElW
OlDUlSHURlLIElCYmUOPmIPlHXOPlSHATlZURlSHOPlCHElZZIETlNBIElKE@A4D0;aLISU LETTER BAmPAnHAmDAmTAnHAmG
AmKAnHAmJAmCAnHAmDZAmTSAoHAmMAmNAmLAmSAmZHAnAmNGAmHAmXAmHHAmFAmWAmSHAmYAmGHAmAnEmEnUmImOmUnEnHmOEm
TONE MYA TIrNA POrMYA CYAvBOvNAvJEUfPUNCTUATION COMMArFULL STOPaVAI SYLLABLE EEpNnHEEnWEEqNnPEEnBH
EEoEEnMBEEnKPEEnMGBEEnGBEEnFEEnVEEnTEEoHEEnDHEEpHEEnLEEnREEnDEEnNDEEnSEEoHEEnZEEoHEEnCEEnJEEnNJEEn
YEEnKEEnNGGEEnGEEnMEEnNEEoYEEnIoNnHIpNnWIpNnPInBHIoInMBInKPInMGBInGBInFInVInTIoHInDHIpHInLInRInDIn
NDInSIoHInZIoHInCInJInNJInYInKInNGGInGInMInNIoYInAoNnNGANnHApNnWApNnPAnBHAoAnMBAnKPAqNnMGBAnGBAnFA
nVAnTAoHAnDHApHAnLAnRAnDAnNDAnSAoHAnZAoHAnCAnJAnNJAnYAnKApNnNGGAnGAnMAnNAoYAnOOpNnHOOnWOOqNnPOOnBH
OOoOOnMBOOnKPOOnMGBOOnGBOOnFOOnVOOnTOOoHOOnDHOOpHOOnLOOnROOnDOOnNDOOnSOOoHOOnZOOoHOOnCOOnJOOnNJOOn
YOOnKOOnNGGOOnGOOnMOOnNOOoYOOnUoNnHUpNnWUpNnPUnBHUoUnMBUnKPUnMGBUnGBUnFUnVUnTUoHUnDHUpHUnLUnRUnDUn
NDUnSUoHUnZUoHUnCUnJUnNJUnYUnKUnNGGUnGUnMUnNUoYUnOoNnNGONnHOpNnWOpNnPOnBHOoOnMBOnKPOnMGBOnGBOqNnFO
nVOnTOoHOnDHOpHOnLOnROnDOnNDOnSOoHOnZOoHOnCOnJOnNJOnYOnKOnNGGOnGOnMOnNOoYOnEoNnNGENnHEpNnWEpNnPEnB
HEoEnMBEnKPEqNnMGBEnGBEqNnFEnVEnTEoHEnDHEpHEnLEnREnDEnNDEnSEoHEnZEoHEnCEnJEnNJEnYEnKEnNGGErNnGEpNn
MEnNEoYEoGnLENGTHENEReCOMMAeFULL STOPeQUESTION MARKeSYLLABLE NDOLE FAtKAtSOOgMBOL FEENGlKEENGlTING
lNIIlBANGlFAAlTAAlDANGmOONGlKUNGlTONGlDO-OlJONGeDIGIT ZEROkONEkTWOlHREEkFOURlIVEkSIXlEVENkEIGHTkNI
NEeSYLLABLE NDOLE MAtDO@A640;aCYRILLIC CAPITAL LETTER ZEMLYAjSMALL LETTER ZEMLYAjCAPITAL LETTER DZ
ELOjSMALL LETTER DZELOjCAPITAL LETTER REVERSED DZEjSMALL LETTER REVERSED DZEjCAPITAL LETTER IOTAjS
MALL LETTER IOTAjCAPITAL LETTER DJERVjSMALL LETTER DJERVjCAPITAL LETTER MONOGRAPH UKjSMALL LETTE
R MONOGRAPH UKjCAPITAL LETTER BROAD OMEGAjSMALL LETTER BROAD OMEGAjCAPITAL LETTER NEUTRAL YERjSMAL
L LETTER NEUTRAL YERjCAPITAL LETTER YERU WITH BACK YERjSMALL LETTER YERU WITH BACK YERjCAPITAL LET
TER IOTIFIED YATjSMALL LETTER IOTIFIED YATjCAPITAL LETTER REVERSED YUjSMALL LETTER REVERSED YUjCAP
ITAL LETTER IOTIFIED AjSMALL LETTER IOTIFIED AjCAPITAL LETTER CLOSED LITTLE YUSjSMALL LETTER CLOSE
D LITTLE YUSjCAPITAL LETTER BLENDED YUSjSMALL LETTER BLENDED YUSjCAPITAL LETTER IOTIFIED CLOSED LI
TTLE YUSjSMALL LETTER IOTIFIED CLOSED LITTLE YUSjCAPITAL LETTER YNjSMALL LETTER YNjCAPITAL LETTE
R REVERSED TSEjSMALL LETTER REVERSED TSEjCAPITAL LETTER SOFT DEjSMALL LETTER SOFT DEjCAPITAL LETTE
R SOFT ELjSMALL LETTER SOFT ELjCAPITAL LETTER SOFT EMjSMALL LETTER SOFT EMjCAPITAL LETTER MONOCULA
R OjSMALL LETTER MONOCULAR OjCAPITAL LETTER BINOCULAR OjSMALL LETTER BINOCULAR OjCAPITAL LETTER DO
UBLE MONOCULAR OjSMALL LETTER DOUBLE MONOCULAR OjLETTER MULTIOCULAR ObOMBINING CYRILLIC VZMETtTE
N MILLIONS SIGNtHUNDRED MILLIONS SIGNtTHOUSAND MILLIONS SIGNaSLAVONIC ASTERISKaCOMBINING CYRILLI
C LETTER UKRAINIAN IE!I!YI!U!HARD SIGN!YERU!SOFT SIGN!OMEGAtKAVYKAtPAYEROKbYRILLIC KAVYKAjPAYEROKj
CAPITAL LETTER DWEjSMALL LETTER DWEjCAPITAL LETTER DZWEjSMALL LETTER DZWEjCAPITAL LETTER ZHWEjSMAL
L LETTER ZHWEjCAPITAL LETTER CCHEjSMALL LETTER CCHEjCAPITAL LETTER DZZEjSMALL LETTER DZZEjCAPITA
L LETTER TE WITH MIDDLE HOOKjSMALL LETTER TE WITH MIDDLE HOOKjCAPITAL LETTER TWEjSMALL LETTER TWEj
CAPITAL LETTER TSWEjSMALL LETTER TSWEjCAPITAL LETTER TSSEjSMALL LETTER TSSEjCAPITAL LETTER TCHEjSM
ALL LETTER TCHEjCAPITAL LETTER HWEjSMALL LETTER HWEjCAPITAL LETTER SHWEjSMALL LETTER SHWEjCAPITA
L LETTER DOUBLE OjSMALL LETTER DOUBLE OjCAPITAL LETTER CROSSED OjSMALL LETTER CROSSED OaMODIFIER L
ETTER CYRILLIC HARD SIGNzSOFT SIGNaCOMBINING CYRILLIC LETTER EF!IOTIFIED EaBAMUM LETTER AnKAnUnKUn
EEnREEnTAEnOnNYInInLAnPAnRIIpEEnLEEEEnMEEEEnTAAnNDAAoJAEMnMnSUUnMUnSHIIoIoHEUXoEUXnKYEEoETnNUAEpoJ
UAEnYOQnSHUnYUQoAnNSHAnKEUXnPEUXnNJEEoTEEnPUEnWUEnPEEnFEEnRUnLUnMInNInREUXoAEnKENnNGKWAENpGApAnSHO
nPUAEnFUoOMnWAnNAnLInPInLOQnKOnMBENnRENnMENoAnTInKInMOoBAAnTETnKPAnTENnNTUUnSAMBAnFAAMAEnKOVUUpGHO
MgCOMBINING MARK KOQNDONvTUKWENTISgNJAEMLIgFULL STOPgCOLONiMMAgSEMICOLONgQUESTION MARK@A700;aMODIF
IER LETTER CHINESE TONE YIN PING+ANG PING+IN SHANG+ANG SHANG+IN QU+ANG QU+IN RU+ANG RUqEXTRA-HIG
H DOTTED TONE BARqHIGH DOTTED TONE BARqMID DOTTED TONE BARqLOW DOTTED TONE BARqEXTRA-LOW DOTTED TO
NE BARwHIGH DOTTED LEFT-STEM TONE BARqHIGH DOTTED LEFT-STEM TONE BARqMID DOTTED LEFT-STEM TONE BAR
qLOW DOTTED LEFT-STEM TONE BARqEXTRA-LOW DOTTED LEFT-STEM TONE BARwHIGH LEFT-STEM TONE BARqHIGH LE
FT-STEM TONE BARqMID LEFT-STEM TONE BARqLOW LEFT-STEM TONE BARqEXTRA-LOW LEFT-STEM TONE BARqDOT VE
RTICAL BARuSLASHuHORIZONTAL BARqLOWER RIGHT CORNER ANGLEqRAISED UP ARROWxDOWN ARROWxEXCLAMATION MA
RKxINVERTED EXCLAMATION MARKqLOW INVERTED EXCLAMATION MARKqSTRESS AND HIGH TONE$LOW TONEaLATIN CAP
ITAL LETTER EGYPTOLOGICAL ALEFgSMALL LETTER EGYPTOLOGICAL ALEFgCAPITAL LETTER EGYPTOLOGICAL AINgSM
ALL LETTER EGYPTOLOGICAL AINgCAPITAL LETTER HENGgSMALL LETTER HENGgCAPITAL LETTER TZgSMALL LETTE
R TZgCAPITAL LETTER TRESILLOgSMALL LETTER TRESILLOgCAPITAL LETTER CUATRILLOgSMALL LETTER CUATRILLO
gCAPITAL LETTER CUATRILLO WITH COMMAgSMALL LETTER CUATRILLO WITH COMMAgLETTER SMALL CAPITAL F$SgCA
PITAL LETTER AAgSMALL LETTER AAgCAPITAL LETTER AOgSMALL LETTER AOgCAPITAL LETTER AUgSMALL LETTER A
UgCAPITAL LETTER AVgSMALL LETTER AVgCAPITAL LETTER AV WITH HORIZONTAL BARgSMALL LETTER AV WITH HOR
IZONTAL BARgCAPITAL LETTER AYgSMALL LETTER AYgCAPITAL LETTER REVERSED C WITH DOTgSMALL LETTER REVE
RSED C WITH DOTgCAPITAL LETTER K WITH STROKEgSMALL LETTER K WITH STROKEgCAPITAL LETTER K WITH DIAG
ONAL STROKEgSMALL LETTER K WITH DIAGONAL STROKEgCAPITAL LETTER K WITH STROKE AND DIAGONAL STROKEgS
MALL LETTER K WITH STROKE AND DIAGONAL STROKEgCAPITAL LETTER BROKEN LgSMALL LETTER BROKEN LgCAPITA
L LETTER L WITH HIGH STROKEgSMALL LETTER L WITH HIGH STROKEgCAPITAL LETTER O WITH LONG STROKE OVER
LAYgSMALL LETTER O WITH LONG STROKE OVERLAYgCAPITAL LETTER O WITH LOOPgSMALL LETTER O WITH LOOPgCA
PITAL LETTER OOgSMALL LETTER OOgCAPITAL LETTER P WITH STROKE THROUGH DESCENDERgSMALL LETTER P WIT
H STROKE THROUGH DESCENDERgCAPITAL LETTER P WITH FLOURISHgSMALL LETTER P WITH FLOURISHgCAPITAL LET
TER P WITH SQUIRREL TAILgSMALL LETTER P WITH SQUIRREL TAILgCAPITAL LETTER Q WITH STROKE THROUGH DE
SCENDERgSMALL LETTER Q WITH STROKE THROUGH DESCENDERgCAPITAL LETTER Q WITH DIAGONAL STROKEgSMALL L
ETTER Q WITH DIAGONAL STROKEgCAPITAL LETTER R ROTUNDAgSMALL LETTER R ROTUNDAgCAPITAL LETTER RUM RO
TUNDAgSMALL LETTER RUM ROTUNDAgCAPITAL LETTER V WITH DIAGONAL STROKEgSMALL LETTER V WITH DIAGONA
L STROKEgCAPITAL LETTER VYgSMALL LETTER VYgCAPITAL LETTER VISIGOTHIC ZgSMALL LETTER VISIGOTHIC ZgC
APITAL LETTER THORN WITH STROKEgSMALL LETTER THORN WITH STROKEgCAPITAL LETTER THORN WITH STROKE TH
ROUGH DESCENDERgSMALL LETTER THORN WITH STROKE THROUGH DESCENDERgCAPITAL LETTER VENDgSMALL LETTE
R VENDgCAPITAL LETTER ETgSMALL LETTER ETgCAPITAL LETTER ISgSMALL LETTER ISgCAPITAL LETTER CONgSMAL
L LETTER CONaMODIFIER LETTER USaLATIN SMALL LETTER DUMtLUMtMUMtNUMtRUMgLETTER SMALL CAPITAL RUMgSM
ALL LETTER TUMtUMgCAPITAL LETTER INSULAR DgSMALL LETTER INSULAR DgCAPITAL LETTER INSULAR FgSMALL L
ETTER INSULAR FgCAPITAL LETTER INSULAR GvTURNED INSULAR GgSMALL LETTER TURNED INSULAR GgCAPITAL LE
TTER TURNED LgSMALL LETTER TURNED LgCAPITAL LETTER INSULAR RgSMALL LETTER INSULAR RgCAPITAL LETTE
R INSULAR SgSMALL LETTER INSULAR SgCAPITAL LETTER INSULAR TgSMALL LETTER INSULAR TaMODIFIER LETTE
R LOW CIRCUMFLEX ACCENTqCOLONqSHORT EQUALS SIGNaLATIN CAPITAL LETTER SALTILLOgSMALL LETTER SALTILL
OgCAPITAL LETTER TURNED HgSMALL LETTER L WITH RETROFLEX HOOK AND BELTgLETTER SINOLOGICAL DOTgCAPIT
AL LETTER N WITH DESCENDERgSMALL LETTER N WITH DESCENDERgCAPITAL LETTER C WITH BARgSMALL LETTE
R C WITH BAR!PALATAL HOOKtH WITH PALATAL HOOKgCAPITAL LETTER B WITH FLOURISHgSMALL LETTER B WITH F
LOURISHgCAPITAL LETTER F WITH STROKEgSMALL LETTER F WITH STROKEgCAPITAL LETTER VOLAPUK AEgSMALL LE
TTER VOLAPUK AEgCAPITAL LETTER VOLAPUK OEgSMALL LETTER VOLAPUK OEgCAPITAL LETTER VOLAPUK UEgSMAL
L LETTER VOLAPUK UEgCAPITAL LETTER G WITH OBLIQUE STROKEgSMALL LETTER G WITH OBLIQUE STROKEgCAPITA
L LETTER K WITH OBLIQUE STROKEgSMALL LETTER K WITH OBLIQUE STROKEgCAPITAL LETTER N WITH OBLIQUE ST
ROKEgSMALL LETTER N WITH OBLIQUE STROKEgCAPITAL LETTER R WITH OBLIQUE STROKEgSMALL LETTER R WITH O
BLIQUE STROKEgCAPITAL LETTER S WITH OBLIQUE STROKEgSMALL LETTER S WITH OBLIQUE STROKEgCAPITAL LETT
ER H WITH HOOKvREVERSED OPEN EvSCRIPT GvL WITH BELTvSMALL CAPITAL IgLETTER SMALL CAPITAL QgCAPITA
L LETTER TURNED K%TvJ WITH CROSSED-TAILvCHIvBETAgSMALL LETTER BETAgCAPITAL LETTER OMEGAgSMALL LETT
ER OMEGAgCAPITAL LETTER U WITH STROKEgSMALL LETTER U WITH STROKEgCAPITAL LETTER GLOTTAL AgSMALL LE
TTER GLOTTAL AgCAPITAL LETTER GLOTTAL IgSMALL LETTER GLOTTAL IgCAPITAL LETTER GLOTTAL UgSMALL LETT
ER GLOTTAL UgCAPITAL LETTER OLD POLISH OgSMALL LETTER OLD POLISH OgCAPITAL LETTER ANGLICANA WgSMAL
L LETTER ANGLICANA WgCAPITAL LETTER C WITH PALATAL HOOKvS WITH HOOKvZ WITH PALATAL HOOKvD WITH SHO
RT STROKE OVERLAYgSMALL LETTER D WITH SHORT STROKE OVERLAYgCAPITAL LETTER S WITH SHORT STROKE OVER
LAYgSMALL LETTER S WITH SHORT STROKE OVERLAY@A7D0;gCAPITAL LETTER CLOSED INSULAR GgSMALL LETTER CL
OSED INSULAR G@A7D3;tDOUBLE THORN@A7D5;!WYNNgCAPITAL LETTER MIDDLE SCOTS SgSMALL LETTER MIDDLE SCO
TS SgCAPITAL LETTER SIGMOID SgSMALL LETTER SIGMOID S@A7F2;aMODIFIER LETTER CAPITAL CyFyQaLATIN CAP
ITAL LETTER REVERSED HALF HgSMALL LETTER REVERSED HALF HgEPIGRAPHIC LETTER SIDEWAYS IaMODIFIER LET
TER CAPITAL H WITH STROKEqSMALL LIGATURE OEaLATIN LETTER SMALL CAPITAL TURNED MgEPIGRAPHIC LETTE
R REVERSED F<PyINVERTED Mz LONGAyARCHAIC MaSYLOTI NAGRI LETTER AuInSIGN DVISVARAnLETTER UuEuOnSIG
N HASANTAnLETTER KOvHOuGOvHOnSIGN ANUSVARAnLETTER COvHOuJOvHOuTTOwHOuDDOwHOuTOvHOuDOvHOuNOuPOvHOuB
OvHOuMOuROuLOuRROuSOuHOnVOWEL SIGN AyIyUyEyOOnPOETRY MARK-1z2z3z4nSIGN ALTERNATE HASANTA@A830;aNOR
TH INDIC FRACTION ONE QUARTERzHALFvTHREE QUARTERSvONE SIXTEENTHzEIGHTHvTHREE SIXTEENTHSmQUARTER MA
RKmPLACEHOLDER MARKmRUPEE MARKmQUANTITY MARK@A840;aPHAGS-PA LETTER KArHAqGAqNGAqCArHAqJAqNYAqTArHA
qDAqNAqPArHAqBAqMAqTSAsHAqDZAqWAqZHArAqSMALL AqYAqRAqLAqSHArAqHAqAqIqUqEqOqQAqXAqFAqGGAqEEjSUBJOIN
ED LETTER WA!YAjLETTER TTAsHAqDDAqNNAqALTERNATE YAqVOICELESS SHAvD HAqASPIRATED FAjSUBJOINED LETTE
R RAlPERFIXED LETTER RAjLETTER CANDRABINDUjSINGLE HEAD MARKjDOUBLE HEAD MARKjMARK SHADoDOUBLE SHAD
@A880;aSAURASHTRA SIGN ANUSVARAqVISARGAlLETTER AtAsItIsUtUsVOCALIC R$R!L$LsEtEsAIsOtOsAUsKAtHAsGAt
HAsNGAsCAtHAsJAtHAsNYAsTTAuHAsDDAuHAsNNAsTAtHAsDAtHAsNAsPAtHAsBAtHAsMAsYAsRAsLAsVAsSHAtSAtAsHAsLLA
lCONSONANT SIGN HAARUlVOWEL SIGN AAwIxIwUxUwVOCALIC R,R+L,LwExEwAIwOxOwAUlSIGN VIRAMAqCANDRABINDU@
A8CE;lDANDAmOUBLE DANDAmIGIT ZEROrONErTWOsHREErFOURsIVErSIXsEVENrEIGHTrNINE@A8E0;aCOMBINING DEVANA
GARI DIGIT ZERO$ONE$TWO%HREE$FOUR%IVE$SIX%EVEN$EIGHT$NINEvLETTER A%U%KA%NA%PA%RA%VIvSIGN AVAGRAHAa
DEVANAGARI SIGN SPACING CANDRABINDUqCANDRABINDU VIRAMAqDOUBLE CANDRABINDU VIRAMAqCANDRABINDU TWO&H
REE%AVAGRAHAqPUSHPIKAlGAP FILLERlCARETlHEADSTROKElSIGN SIDDHAMlJAIN OMlLETTER AYlVOWEL SIGN AYaKAY
AH LI DIGIT ZEROpONEpTWOqHREEpFOURqIVEpSIXqEVENpEIGHTpNINEjLETTER KArHAqGAqNGAqSArHAqZAqNYAqTAqHTA
qNAqPArHAqMAqDAqBAqRAqYAqLAqWAqTHAqHAqVAqCAqAqOEqIqOOjVOWEL UEpEpUpEEpOjTONE PLOPHUoCALYAt PLOPHUj
SIGN CWIoSHYAaREJANG LETTER KAoGAoNGAoTAoDAoNAoPAoBAoMAoCAoJAoNYAoSAoRAoLAoYAoWAoHAoMBAoNGGApDApYJ
AoAhVOWEL SIGN IsUsEsAIsOsAUsEUtAhCONSONANT SIGN NGxwRwHhVIRAMA@A95F;hSECTION MARKaHANGUL CHOSEON
G TIKEUT-MIEUMxPIEUPxSIOSxCIEUCqRIEUL-KIYEOKwSSANGKIYEOKwTIKEUTwSSANGTIKEUTwMIEUMwPIEUPwSSANGPIEUP
wKAPYEOUNPIEUPwSIOSwCIEUCwKHIEUKHqMIEUM-KIYEOKwTIKEUTwSIOSqPIEUP-SIOS-THIEUTHwKHIEUKHwHIEUHqSSANGS
IOS-PIEUPqIEUNG-RIEULwHIEUHqSSANGCIEUC-HIEUHvTHIEUTHqPHIEUPH-HIEUHqHIEUH-SIOSqSSANGYEORINHIEUH@A98
0;aJAVANESE SIGN PANYANGGAoCECAKoLAYARoWIGNYANjLETTER AqI KAWIrrIqUqPA CEREKqNGA LELETz RASWADIqEq
AIqOqKAs SASAKtMURDAqGAs MURDAqNGAqCAs MURDAqJAqNYA MURDAqJA MAHAPRANAqNYAqTTAt MAHAPRANAqDDAt MAH
APRANAqNA MURDAqTAs MURDAqDAs MAHAPRANAqNAqPAs MURDAqBAs MURDAqMAqYAqRAs AGUNGqLAqWAqSA MURDAuAHAP
RANAsqHAjSIGN CECAK TELUjVOWEL SIGN TARUNGvOLONGuWULUy MELIKuSUKUy MENDUTuTALINGuDIRGA MUREuPEPETj
CONSONANT SIGN KERETyPENGKALyCAKRAjPANGKONjLEFT RERENGGANjRIGHT RERENGGANjPADA ANDAPoMADYAoLUHURoW
INDUoPANGKAToLINGSApUNGSIoADEGs ADEGoPISELEHjTURNED PADA PISELEH@A9CF;jPANGRANGKEPjDIGIT ZEROpONEp
TWOqHREEpFOURqIVEpSIXqEVENpEIGHTpNINE@A9DE;jPADA TIRTA TUMETESoISEN-ISENaMYANMAR LETTER SHAN GHAuC
HAuJHAuNNAuBHAiSIGN SHAN SAWiMODIFIER LETTER SHAN REDUPLICATIONiLETTER TAI LAING NYAzFAzGA!HAzJA!H
AzDDA$HAzNNAiTAI LAING DIGIT ZEROyONEyTWOzHREEyFOURzIVEySIXzEVENyEIGHTyNINEiLETTER TAI LAING LLAzD
A!HAzBA!HA@AA00;aCHAM LETTER AmImUmEmAImOmKAnHAmGAnHAmNGUEoAmCHAoHAmJAnHAmNHUEoAoJAmTAnHAmDAnHAmNU
EnAmDDAmPAnPAnHAmBAnHAmMUEnAmBBAmYAmRAmLAmVAmSSAnAmHAfVOWEL SIGN AAqIrIqEIqUqOErqAIrUqUEfCONSONAN
T SIGN YAuRAuLAuWA@AA40;fLETTER FINAL KsGsNGfCONSONANT SIGN FINAL NGfLETTER FINAL CHsTsNsPsYsRsLsS
SfCONSONANT SIGN FINAL M!H@AA50;fDIGIT ZEROlONElTWOmHREElFOURmIVElSIXmEVENlEIGHTlNINE@AA5C;fPUNCTU
ATION SPIRALrDANDAsOUBLE DANDArTRIPLE DANDAaMYANMAR LETTER KHAMTI GAwCAxHAwJAxHAwNYAwTTAyHAwDDAyHA
xHAwNAwSAwHAxHAwFAiMODIFIER LETTER KHAMTI REDUPLICATIONiLETTER KHAMTI XAwZAwRAjOGOGRAM KHAMTI OAYy
QNyHMiSYMBOL AITON EXCLAMATIONvONEvTWOiLETTER AITON RAiSIGN PAO KAREN TONEnTAI LAING TONE-2%5iLETT
ER SHWE PALAUNG CHA%SHAaTAI VIET LETTER LOW KOqHIGH KOqLOW KHOqHIGH KHOqLOW KHHOqHIGH KHHOqLOW GOq
HIGH GOqLOW NGOqHIGH NGOqLOW COqHIGH COqLOW CHOqHIGH CHOqLOW SOqHIGH SOqLOW NYOqHIGH NYOqLOW DOqHI
GH DOqLOW TOqHIGH TOqLOW THOqHIGH THOqLOW NOqHIGH NOqLOW BOqHIGH BOqLOW POqHIGH POqLOW PHOqHIGH PH
OqLOW FOqHIGH FOqLOW MOqHIGH MOqLOW YOqHIGH YOqLOW ROqHIGH ROqLOW LOqHIGH LOqLOW VOqHIGH VOqLOW HO
qHIGH HOqLOW OqHIGH OjMAI KANGjVOWEL AApIpUEqpEpOjMAI KHITjVOWEL IApUEAqApAUEqYqNqMjTONE MAI EKsNU
ENGsTHOsSONG@AADB;jSYMBOL KONqNUENGqSAMqHO HOIqKOI KOIaMEETEI MAYEK LETTER EuOuCHAuNYAuTTAwHAuDDAw
HAuNNAuSHAvSAnVOWEL SIGN IIyUUyAAIzUzAUnCHEIKHANnAHANG KHUDAMoNJInSYLLABLE REPETITION MARKnWORD RE
PETITION MARKnVOWEL SIGN VISARGAoIRAMA@AB01;aETHIOPIC SYLLABLE TTHUvIvAAvEEwvO@AB09;sDDHUvIvAAvEEw
vO@AB11;tZUuIuAAuEEvuO@AB20;sCCHHAwUwIwAAwEExwO@AB28;sBBAuUuIuAAuEEvuO@AB30;aLATIN SMALL LETTER BA
RRED ALPHAtA REVERSED-SCHWAtBLACKLETTER EuARRED EtE WITH FLOURISHtLENIS FtSCRIPT G WITH CROSSED-TA
ILtL WITH INVERTED LAZY S!DOUBLE MIDDLE TILDE!MIDDLE RINGtM WITH CROSSED-TAILtN WITH CROSSED-TAILt
ENG WITH CROSSED-TAILtBLACKLETTER O. WITH STROKEtOPEN O WITH STROKEtINVERTED OEtTURNED OE WITH STR
OKE>HORIZONTAL STROKE$ OPEN-O> WITH STROKEtSTIRRUP RgLETTER SMALL CAPITAL R WITH RIGHT LEGgSMALL L
ETTER R WITHOUT HANDLEtDOUBLE RtR WITH CROSSED-TAILtDOUBLE R WITH CROSSED-TAILtSCRIPT R$ WITH RING
tBASELINE ESHtU WITH SHORT RIGHT LEGvBAR WITH SHORT RIGHT LEGuItTURNED UItU WITH LEFT HOOKtCHIw WI
TH LOW RIGHT RING.LEFT SERIFtX WITH LOW RIGHT RING%NG LEFT LEG~ AND LOW RIGHT RING~ WITH SERIFtY W
ITH SHORT RIGHT LEGaMODIFIER BREVE WITH INVERTED BREVEjLETTER SMALL HENGwL WITH INVERTED LAZY S&MI
DDLE TILDEwU WITH LEFT HOOKaLATIN SMALL LETTER SAKHA YATtIOTIFIED EtOPEN OEtUOtINVERTED ALPHAaGREE
K LETTER SMALL CAPITAL OMEGAaLATIN SMALL LETTER DZ DIGRAPH WITH RETROFLEX HOOKtTS DIGRAPH WITH RET
ROFLEX HOOKuURNED R WITH MIDDLE TILDEaMODIFIER LETTER SMALL TURNED WqLEFT TACKqRIGHT TACK@AB70;aCH
EROKEE SMALL LETTER AwEwIwOwUwVwGAwKAwGExIxOxUxVwHAxExIxOxUxVwLAxExIxOxUxVwMAxExIxOxUwNAwHNAwNAHxE
xIxOxUxVwQUAyEyIyOyUyVwSAxxExIxOxUxVwDAwTAwDEwTEwDIwTIwDOxUxVxLAwTLAyEyIyOyUyVxSAyEyIyOyUyVwWAxExI
xOxUxVwYAaMEETEI MAYEK LETTER KOKuSAMuLAIuMITuPAuNAuCHILuTILuKHOUuNGOUuTHOUuWAIuYANGuHUKuUNuIuPHAM
uATIYAuGOKuJHAMuRAIuBAuJILuDILuGHOUuDHOUuBHAMuKOK LONSUMuLAI LONSUMuMIT LONSUMuPA LONSUMuNA LONSUM
uTIL LONSUMuNGOU LONSUMuI LONSUMnVOWEL SIGN ONAPyINAPyANAPyYENAPySOUNAPyUNAPyCHEINAPyNUNGnCHEIKHEI
nLUM IYEKnAPUN IYEK@ABF0;nDIGIT ZEROtONEtTWOuHREEtFOURuIVEtSIXuEVENtEIGHTtNINE
"

end TargetedConfig.Text.Name
