/-! # Names of punctuation and symbols -/

namespace TargetedConfig.Text.Name

/-- Punctuation, currencies, arrows, operators, technical and geometric symbols. -/
def symbols : String := "
@2000;aEN QUADbM QUADbN SPACEbM SPACEaTHREE-PER-EM SPACEaFOUR-PER-EM SPACEaSIX-PER-EM SPACEaFIGUR
E SPACEaPUNCTUATION SPACEaTHIN SPACEaHAIR SPACEaZERO WIDTH SPACElNON-JOINERlJOINERaLEFT-TO-RIGHT M
ARKaRIGHT-TO-LEFT MARKaHYPHENaNON-BREAKING HYPHENaFIGURE DASHaEN DASHbM DASHaHORIZONTAL BARaDOUBL
E VERTICAL LINEhLOW LINEaLEFT SINGLE QUOTATION MARKaRIGHT SINGLE QUOTATION MARKaSINGLE LOW-9 QUOTA
TION MARKhHIGH-REVERSED-9 QUOTATION MARKaLEFT DOUBLE QUOTATION MARKaRIGHT DOUBLE QUOTATION MARKaDO
UBLE LOW-9 QUOTATION MARKhHIGH-REVERSED-9 QUOTATION MARKbAGGERbOUBLE DAGGERaBULLETaTRIANGULAR BULL
ETaONE DOT LEADERaTWO DOT LEADERaHORIZONTAL ELLIPSISbYPHENATION POINTaLINE SEPARATORaPARAGRAPH SEP
ARATORaLEFT-TO-RIGHT EMBEDDINGaRIGHT-TO-LEFT EMBEDDINGaPOP DIRECTIONAL FORMATTINGaLEFT-TO-RIGHT OV
ERRIDEaRIGHT-TO-LEFT OVERRIDEaNARROW NO-BREAK SPACEaPER MILLE SIGNeTEN THOUSAND SIGNbRIMEaDOUBLE P
RIMEaTRIPLE PRIMEaREVERSED PRIMEjDOUBLE PRIMEjTRIPLE PRIMEaCARETaSINGLE LEFT-POINTING ANGLE QUOTAT
ION MARKhRIGHT-POINTING ANGLE QUOTATION MARKaREFERENCE MARKaDOUBLE EXCLAMATION MARKaINTERROBANGaOV
ERLINEaUNDERTIEaCHARACTER TIEbARET INSERTION POINTaASTERISMaHYPHEN BULLETaFRACTION SLASHaLEFT SQUA
RE BRACKET WITH QUILLaRIGHT SQUARE BRACKET WITH QUILLaDOUBLE QUESTION MARKaQUESTION EXCLAMATION MA
RKaEXCLAMATION QUESTION MARKaTIRONIAN SIGN ETaREVERSED PILCROW SIGNaBLACK LEFTWARDS BULLETgRIGHTWA
RDS BULLETaLOW ASTERISKaREVERSED SEMICOLONaCLOSE UPaTWO ASTERISKS ALIGNED VERTICALLYaCOMMERCIAL MI
NUS SIGNaSWUNG DASHaINVERTED UNDERTIEaFLOWER PUNCTUATION MARKaTHREE DOT PUNCTUATIONaQUADRUPLE PRIM
EaFOUR DOT PUNCTUATIONbIVE DOT PUNCTUATIONaTWO DOT PUNCTUATIONaFOUR DOT MARKaDOTTED CROSSaTRICOLON
aVERTICAL FOUR DOTSaMEDIUM MATHEMATICAL SPACEaWORD JOINERaFUNCTION APPLICATIONaINVISIBLE TIMESkSEP
ARATORkPLUS@2066;aLEFT-TO-RIGHT ISOLATEaRIGHT-TO-LEFT ISOLATEaFIRST STRONG ISOLATEaPOP DIRECTIONA
L ISOLATEaINHIBIT SYMMETRIC SWAPPINGaACTIVATE SYMMETRIC SWAPPINGaINHIBIT ARABIC FORM SHAPINGaACTIV
ATE ARABIC FORM SHAPINGaNATIONAL DIGIT SHAPESbOMINAL DIGIT SHAPESaSUPERSCRIPT ZEROmLATIN SMALL LET
TER I@2074;mFOURnIVEmSIXnEVENmEIGHTmNINEmPLUS SIGNmMINUSmEQUALS SIGNmLEFT PARENTHESISmRIGHT PARENT
HESISmLATIN SMALL LETTER NcBSCRIPT ZEROkONEkTWOlHREEkFOURlIVEkSIXlEVENkEIGHTkNINEkPLUS SIGNkMINUSk
EQUALS SIGNkLEFT PARENTHESISkRIGHT PARENTHESIS@2090;aLATIN SUBSCRIPT SMALL LETTER A&E&O&X&SCHWA&H&
K&L&M&N&P&S&T@20A0;aEURO-CURRENCY SIGNaCOLON SIGNbRUZEIRO SIGNaFRENCH FRANC SIGNaLIRA SIGNaMILL SI
GNaNAIRA SIGNaPESETA SIGNaRUPEE SIGNaWON SIGNaNEW SHEQEL SIGNaDONG SIGNaEURO SIGNaKIP SIGNaTUGRI
K SIGNaDRACHMA SIGNaGERMAN PENNY SIGNaPESO SIGNaGUARANI SIGNaAUSTRAL SIGNaHRYVNIA SIGNaCEDI SIGNaL
IVRE TOURNOIS SIGNaSPESMILO SIGNaTENGE SIGNaINDIAN RUPEE SIGNaTURKISH LIRA SIGNaNORDIC MARK SIGNaM
ANAT SIGNaRUBLE SIGNaLARI SIGNaBITCOIN SIGNaSOM SIGN@20D0;aCOMBINING LEFT HARPOON ABOVEkRIGHT HARP
OON ABOVEkLONG VERTICAL LINE OVERLAYkSHORT VERTICAL LINE OVERLAYkANTICLOCKWISE ARROW ABOVEkCLOCKWI
SE ARROW ABOVEkLEFT ARROW ABOVEkRIGHT ARROW ABOVEmNG OVERLAYkCLOCKWISE RING OVERLAYkANTICLOCKWIS
E RING OVERLAYkTHREE DOTS ABOVEkFOUR DOTS ABOVEkENCLOSING CIRCLEuSQUAREuDIAMONDuCIRCLE BACKSLASHkL
EFT RIGHT ARROW ABOVEkENCLOSING SCREENuKEYCAPuUPWARD POINTING TRIANGLEkREVERSE SOLIDUS OVERLAYkDOU
BLE VERTICAL STROKE OVERLAYkANNUITY SYMBOLkTRIPLE UNDERDOTkWIDE BRIDGE ABOVEkLEFTWARDS ARROW OVERL
AYlONG DOUBLE SOLIDUS OVERLAYkRIGHTWARDS HARPOON WITH BARB DOWNWARDSkLEFTWARDS HARPOON WITH BARB D
OWNWARDSo ARROW BELOWkRIGHT ARROW BELOWkASTERISK ABOVE@2100;aACCOUNT OFbDDRESSED TO THE SUBJECTaDO
UBLE-STRUCK CAPITAL CbEGREE CELSIUSaCENTRE LINE SYMBOLbARE OFcDA UNAaEULER CONSTANTaSCRUPLEaDEGRE
E FAHRENHEITaSCRIPT SMALL GhCAPITAL HaBLACK-LETTER CAPITAL HaDOUBLE-STRUCK CAPITAL HaPLANCK CONSTA
NTp OVER TWO PIaSCRIPT CAPITAL IaBLACK-LETTER CAPITAL IaSCRIPT CAPITAL LhSMALL LaL B BAR SYMBOLaDO
UBLE-STRUCK CAPITAL NaNUMERO SIGNaSOUND RECORDING COPYRIGHTbCRIPT CAPITAL PaDOUBLE-STRUCK CAPITA
L PwQaSCRIPT CAPITAL RaBLACK-LETTER CAPITAL RaDOUBLE-STRUCK CAPITAL RaPRESCRIPTION TAKEaRESPONSEaS
ERVICE MARKaTELEPHONE SIGNbRADE MARK SIGNaVERSICLEaDOUBLE-STRUCK CAPITAL ZaOUNCE SIGNbHM SIGNaINVE
RTED OHM SIGNaBLACK-LETTER CAPITAL ZaTURNED GREEK SMALL LETTER IOTAaKELVIN SIGNaANGSTROM SIGNaSCRI
PT CAPITAL BaBLACK-LETTER CAPITAL CaESTIMATED SYMBOLaSCRIPT SMALL EhCAPITAL EpFaTURNED CAPITAL FaS
CRIPT CAPITAL MhSMALL OaALEF SYMBOLaBET SYMBOLaGIMEL SYMBOLaDALET SYMBOLaINFORMATION SOURCEaROTATE
D CAPITAL QaFACSIMILE SIGNaDOUBLE-STRUCK SMALL PIuGAMMAoCAPITAL GAMMAwPIoN-ARY SUMMATIONaTURNED SA
NS-SERIF CAPITAL G!LaREVERSED SANS-SERIF CAPITAL LaTURNED SANS-SERIF CAPITAL YaDOUBLE-STRUCK ITALI
C CAPITAL DvSMALL D$E$I$JaPROPERTY LINEaTURNED AMPERSANDaPER SIGNaAKTIESELSKABaTURNED SMALL FaSYMB
OL FOR SAMARITAN SOURCEaVULGAR FRACTION ONE SEVENTHuNINTHuTENTHvHIRDqTWO THIRDSqONE FIFTHqTWO FIFT
HSrHREE FIFTHSqFOUR FIFTHSqONE SIXTHqFIVE SIXTHSqONE EIGHTHqTHREE EIGHTHSqFIVE EIGHTHSqSEVEN EIGHT
HSaFRACTION NUMERATOR ONEaROMAN NUMERAL ONEoTWOpHREEoFOURpIVEoSIXpEVENoEIGHToNINEoTENoELEVENoTWELV
EoFIFTYoONE HUNDREDoFIVE HUNDREDoONE THOUSANDaSMALL ROMAN NUMERAL ONEuTWOvHREEuFOURvIVEuSIXvEVENuE
IGHTuNINEuTENuELEVENuTWELVEuFIFTYuONE HUNDREDuFIVE HUNDREDuONE THOUSANDaROMAN NUMERAL ONE THOUSAN
D C DoFIVE THOUSANDoTEN THOUSANDoREVERSED ONE HUNDREDaLATIN SMALL LETTER REVERSED CaROMAN NUMERA
L SIX LATE FORMoFIFTY EARLY FORMuTHOUSANDoONE HUNDRED THOUSANDaVULGAR FRACTION ZERO THIRDSaTURNE
D DIGIT TWOoHREE@2190;aLEFTWARDS ARROWaUPWARDS ARROWaRIGHTWARDS ARROWaDOWNWARDS ARROWaLEFT RIGHT A
RROWaUP DOWN ARROWaNORTH WEST ARROWgEAST ARROWaSOUTH EAST ARROWgWEST ARROWaLEFTWARDS ARROW WITH ST
ROKEaRIGHTWARDS ARROW WITH STROKEaLEFTWARDS WAVE ARROWaRIGHTWARDS WAVE ARROWaLEFTWARDS TWO HEADE
D ARROWaUPWARDS TWO HEADED ARROWaRIGHTWARDS TWO HEADED ARROWaDOWNWARDS TWO HEADED ARROWaLEFTWARD
S ARROW WITH TAILaRIGHTWARDS ARROW WITH TAILaLEFTWARDS ARROW FROM BARaUPWARDS ARROW FROM BARaRIGHT
WARDS ARROW FROM BARaDOWNWARDS ARROW FROM BARaUP DOWN ARROW WITH BASEaLEFTWARDS ARROW WITH HOOKaRI
GHTWARDS ARROW WITH HOOKaLEFTWARDS ARROW WITH LOOPaRIGHTWARDS ARROW WITH LOOPaLEFT RIGHT WAVE ARRO
WlARROW WITH STROKEaDOWNWARDS ZIGZAG ARROWaUPWARDS ARROW WITH TIP LEFTWARDSxRIGHTWARDSaDOWNWARDS A
RROW WITH TIP LEFTWARDSzRIGHTWARDSaRIGHTWARDS ARROW WITH CORNER DOWNWARDSaDOWNWARDS ARROW WITH COR
NER LEFTWARDSaANTICLOCKWISE TOP SEMICIRCLE ARROWaCLOCKWISE TOP SEMICIRCLE ARROWaNORTH WEST ARROW T
O LONG BARaLEFTWARDS ARROW TO BAR OVER RIGHTWARDS ARROW TO BARaANTICLOCKWISE OPEN CIRCLE ARROWaCLO
CKWISE OPEN CIRCLE ARROWaLEFTWARDS HARPOON WITH BARB UPWARDS%DOWNWARDSaUPWARDS HARPOON WITH BARB R
IGHTWARDS!LEFTWARDSaRIGHTWARDS HARPOON WITH BARB UPWARDS&DOWNWARDSaDOWNWARDS HARPOON WITH BARB RIG
HTWARDS%LEFTWARDSaRIGHTWARDS ARROW OVER LEFTWARDS ARROWaUPWARDS ARROW LEFTWARDS OF DOWNWARDS ARROW
aLEFTWARDS ARROW OVER RIGHTWARDS ARROWkPAIRED ARROWSaUPWARDS PAIRED ARROWSaRIGHTWARDS PAIRED ARROW
SaDOWNWARDS PAIRED ARROWSaLEFTWARDS HARPOON OVER RIGHTWARDS HARPOONaRIGHTWARDS HARPOON OVER LEFTWA
RDS HARPOONaLEFTWARDS DOUBLE ARROW WITH STROKEe RIGHT DOUBLE ARROW WITH STROKEaRIGHTWARDS DOUBLE A
RROW WITH STROKEaLEFTWARDS DOUBLE ARROWaUPWARDS DOUBLE ARROWaRIGHTWARDS DOUBLE ARROWaDOWNWARDS DOU
BLE ARROWaLEFT RIGHT DOUBLE ARROWaUP DOWN DOUBLE ARROWaNORTH WEST DOUBLE ARROWgEAST DOUBLE ARROWaS
OUTH EAST DOUBLE ARROWgWEST DOUBLE ARROWaLEFTWARDS TRIPLE ARROWaRIGHTWARDS TRIPLE ARROWaLEFTWARD
S SQUIGGLE ARROWaRIGHTWARDS SQUIGGLE ARROWaUPWARDS ARROW WITH DOUBLE STROKEaDOWNWARDS ARROW WITH D
OUBLE STROKEaLEFTWARDS DASHED ARROWaUPWARDS DASHED ARROWaRIGHTWARDS DASHED ARROWaDOWNWARDS DASHE
D ARROWaLEFTWARDS ARROW TO BARaRIGHTWARDS ARROW TO BARaLEFTWARDS WHITE ARROWaUPWARDS WHITE ARROWaR
IGHTWARDS WHITE ARROWaDOWNWARDS WHITE ARROWaUPWARDS WHITE ARROW FROM BARuON PEDESTAL, WITH HORIZON
TAL BAR_VERTICAL BARoDOUBLE ARROW! ON PEDESTALaRIGHTWARDS WHITE ARROW FROM WALLaNORTH WEST ARROW T
O CORNERaSOUTH EAST ARROW TO CORNERaUP DOWN WHITE ARROWaRIGHT ARROW WITH SMALL CIRCLEaDOWNWARDS AR
ROW LEFTWARDS OF UPWARDS ARROWaTHREE RIGHTWARDS ARROWSaLEFTWARDS ARROW WITH VERTICAL STROKEaRIGHTW
ARDS ARROW WITH VERTICAL STROKEaLEFT RIGHT ARROW WITH VERTICAL STROKEeWARDS ARROW WITH DOUBLE VERT
ICAL STROKEaRIGHTWARDS ARROW WITH DOUBLE VERTICAL STROKEaLEFT RIGHT ARROW WITH DOUBLE VERTICAL STR
OKEeWARDS OPEN-HEADED ARROWaRIGHTWARDS OPEN-HEADED ARROWaLEFT RIGHT OPEN-HEADED ARROWaFOR ALLaCOMP
LEMENTaPARTIAL DIFFERENTIALaTHERE EXISTSgDOES NOT EXISTaEMPTY SETaINCREMENTaNABLAaELEMENT OFaNOT A
N ELEMENT OFaSMALL ELEMENT OFaCONTAINS AS MEMBERaDOES NOT CONTAIN AS MEMBERaSMALL CONTAINS AS MEMB
ERaEND OF PROOFaN-ARY PRODUCTgCOPRODUCTgSUMMATIONaMINUS SIGNf-OR-PLUS SIGNaDOT PLUSbIVISION SLASHa
SET MINUSaASTERISK OPERATORaRING OPERATORaBULLET OPERATORaSQUARE ROOTaCUBE ROOTaFOURTH ROOTaPROPOR
TIONAL TOaINFINITYaRIGHT ANGLEaANGLEaMEASURED ANGLEaSPHERICAL ANGLEaDIVIDESbOES NOT DIVIDEaPARALLE
L TOaNOT PARALLEL TOaLOGICAL ANDiORaINTERSECTIONaUNIONaINTEGRALaDOUBLE INTEGRALaTRIPLE INTEGRALaCO
NTOUR INTEGRALaSURFACE INTEGRALaVOLUME INTEGRALaCLOCKWISE INTEGRALkCONTOUR INTEGRALaANTICLOCKWIS
E CONTOUR INTEGRALaTHEREFOREaBECAUSEaRATIOaPROPORTIONaDOT MINUSaEXCESSaGEOMETRIC PROPORTIONaHOMOTH
ETICaTILDE OPERATORaREVERSED TILDEaINVERTED LAZY SaSINE WAVEaWREATH PRODUCTaNOT TILDEaMINUS TILDEa
ASYMPTOTICALLY EQUAL TOaNOT ASYMPTOTICALLY EQUAL TOaAPPROXIMATELY EQUAL TOoBUT NOT ACTUALLY EQUA
L TOaNEITHER APPROXIMATELY NOR ACTUALLY EQUAL TOaALMOST EQUAL TOaNOT ALMOST EQUAL TOaALMOST EQUA
L OR EQUAL TOaTRIPLE TILDEaALL EQUAL TOaEQUIVALENT TOaGEOMETRICALLY EQUIVALENT TOaDIFFERENCE BETWE
ENaAPPROACHES THE LIMITaGEOMETRICALLY EQUAL TOaAPPROXIMATELY EQUAL TO OR THE IMAGE OFaIMAGE OF O
R APPROXIMATELY EQUAL TOaCOLON EQUALSaEQUALS COLONaRING IN EQUAL TOfEQUAL TOaCORRESPONDS TOaESTIMA
TESbQUIANGULAR TOaSTAR EQUALSaDELTA EQUAL TOaEQUAL TO BY DEFINITIONaMEASURED BYaQUESTIONED EQUAL T
OaNOT EQUAL TOaIDENTICAL TOaNOT IDENTICAL TOaSTRICTLY EQUIVALENT TOaLESS-THAN OR EQUAL TOaGREATER-
THAN OR EQUAL TOaLESS-THAN OVER EQUAL TOaGREATER-THAN OVER EQUAL TOaLESS-THAN BUT NOT EQUAL TOaGRE
ATER-THAN BUT NOT EQUAL TOaMUCH LESS-THANfGREATER-THANaBETWEENaNOT EQUIVALENT TOeLESS-THANeGREATER
-THANbEITHER LESS-THAN NOR EQUAL TOiGREATER-THAN NOR EQUAL TOaLESS-THAN OR EQUIVALENT TOaGREATER-T
HAN OR EQUIVALENT TOaNEITHER LESS-THAN NOR EQUIVALENT TOiGREATER-THAN NOR EQUIVALENT TOaLESS-THA
N OR GREATER-THANaGREATER-THAN OR LESS-THANaNEITHER LESS-THAN NOR GREATER-THANiGREATER-THAN NOR LE
SS-THANaPRECEDESaSUCCEEDSaPRECEDES OR EQUAL TOaSUCCEEDS OR EQUAL TOaPRECEDES OR EQUIVALENT TOaSUCC
EEDS OR EQUIVALENT TOaDOES NOT PRECEDEjSUCCEEDaSUBSET OFcPERSET OFaNOT A SUBSET OFiPERSET OFaSUBSE
T OF OR EQUAL TOcPERSET OF OR EQUAL TOaNEITHER A SUBSET OF NOR EQUAL TOmPERSET OF NOR EQUAL TOaSUB
SET OF WITH NOT EQUAL TOcPERSET OF WITH NOT EQUAL TOaMULTISETi MULTIPLICATIONjUNIONaSQUARE IMAGE O
FhORIGINAL OFhIMAGE OF OR EQUAL TOhORIGINAL OF OR EQUAL TOhCAPiUPaCIRCLED PLUSiMINUSiTIMESiDIVISIO
N SLASHjOT OPERATORiRING OPERATORiASTERISK OPERATORiEQUALSiDASHaSQUARED PLUSiMINUSiTIMESiDOT OPERA
TORaRIGHT TACKaLEFT TACKaDOWN TACKaUP TACKaASSERTIONaMODELSaTRUEaFORCESaTRIPLE VERTICAL BAR RIGH
T TURNSTILEaDOUBLE VERTICAL BAR DOUBLE RIGHT TURNSTILEcES NOT PROVEaNOT TRUEaDOES NOT FORCEaNEGATE
D DOUBLE VERTICAL BAR DOUBLE RIGHT TURNSTILEaPRECEDES UNDER RELATIONaSUCCEEDS UNDER RELATIONaNORMA
L SUBGROUP OFaCONTAINS AS NORMAL SUBGROUPaNORMAL SUBGROUP OF OR EQUAL TOaCONTAINS AS NORMAL SUBGRO
UP OR EQUAL TOaORIGINAL OFaIMAGE OFaMULTIMAPaHERMITIAN CONJUGATE MATRIXaINTERCALATEaXORaNANDbORaRI
GHT ANGLE WITH ARCgTRIANGLEaN-ARY LOGICAL ANDoORgINTERSECTIONgUNIONaDIAMOND OPERATORbOT OPERATORaS
TAR OPERATORaDIVISION TIMESaBOWTIEaLEFT NORMAL FACTOR SEMIDIRECT PRODUCTaRIGHT NORMAL FACTOR SEMID
IRECT PRODUCTaLEFT SEMIDIRECT PRODUCTaRIGHT SEMIDIRECT PRODUCTbEVERSED TILDE EQUALSaCURLY LOGICA
L ORoANDaDOUBLE SUBSETjPERSEThINTERSECTIONhUNIONaPITCHFORKaEQUAL AND PARALLEL TOaLESS-THAN WITH DO
TaGREATER-THAN WITH DOTaVERY MUCH LESS-THANkGREATER-THANaLESS-THAN EQUAL TO OR GREATER-THANaGREATE
R-THAN EQUAL TO OR LESS-THANaEQUAL TO OR LESS-THANmGREATER-THANmPRECEDESmSUCCEEDSaDOES NOT PRECED
E OR EQUALjSUCCEED OR EQUALaNOT SQUARE IMAGE OF OR EQUAL TOlORIGINAL OF OR EQUAL TOaSQUARE IMAGE O
F OR NOT EQUAL TOhORIGINAL OF OR NOT EQUAL TOaLESS-THAN BUT NOT EQUIVALENT TOaGREATER-THAN BUT NO
T EQUIVALENT TOaPRECEDES BUT NOT EQUIVALENT TOaSUCCEEDS BUT NOT EQUIVALENT TOaNOT NORMAL SUBGROU
P OFaDOES NOT CONTAIN AS NORMAL SUBGROUPaNOT NORMAL SUBGROUP OF OR EQUAL TOaDOES NOT CONTAIN AS NO
RMAL SUBGROUP OR EQUALaVERTICAL ELLIPSISaMIDLINE HORIZONTAL ELLIPSISaUP RIGHT DIAGONAL ELLIPSISaDO
WN RIGHT DIAGONAL ELLIPSISaELEMENT OF WITH LONG HORIZONTAL STROKEqVERTICAL BAR AT END OF HORIZONTA
L STROKEaSMALL ELEMENT OF WITH VERTICAL BAR AT END OF HORIZONTAL STROKEaELEMENT OF WITH DOT ABOVEq
OVERBARaSMALL ELEMENT OF WITH OVERBARaELEMENT OF WITH UNDERBARqTWO HORIZONTAL STROKESaCONTAINS WIT
H LONG HORIZONTAL STROKEoVERTICAL BAR AT END OF HORIZONTAL STROKEaSMALL CONTAINS WITH VERTICAL BA
R AT END OF HORIZONTAL STROKEaCONTAINS WITH OVERBARaSMALL CONTAINS WITH OVERBARaZ NOTATION BAG MEM
BERSHIPaDIAMETER SIGNaELECTRIC ARROWaHOUSEaUP ARROWHEADaDOWN ARROWHEADaPROJECTIVEbERSPECTIVEaWAV
Y LINEaLEFT CEILINGaRIGHT CEILINGaLEFT FLOORaRIGHT FLOORaBOTTOM RIGHT CROPhLEFT CROPaTOP RIGHT CRO
PeLEFT CROPaREVERSED NOT SIGNaSQUARE LOZENGEaARCaSEGMENTcCTORaTELEPHONE RECORDERaPOSITION INDICATO
RaVIEWDATA SQUAREaPLACE OF INTEREST SIGNaTURNED NOT SIGNaWATCHaHOURGLASSaTOP LEFT CORNEReRIGHT COR
NERaBOTTOM LEFT CORNERhRIGHT CORNERaTOP HALF INTEGRALaBOTTOM HALF INTEGRALaFROWNaSMILEaUP ARROWHEA
D BETWEEN TWO HORIZONTAL BARSaOPTION KEYaERASE TO THE RIGHTaX IN A RECTANGLE BOXaKEYBOARDaLEFT-POI
NTING ANGLE BRACKETaRIGHT-POINTING ANGLE BRACKETaERASE TO THE LEFTaBENZENE RINGaCYLINDRICITYaALL A
ROUND-PROFILEaSYMMETRYaTOTAL RUNOUTaDIMENSION ORIGINaCONICAL TAPERaSLOPEaCOUNTERBOREhSINKaAPL FUNC
TIONAL SYMBOL I-BEAMwSQUISH QUADwQUAD EQUAL$DIVIDE&AMOND$JOT$CIRCLEwCIRCLE STILE&JOTwSLASH BARwBAC
KSLASH BARwQUAD SLASH$BACKSLASH$LESS-THAN$GREATER-THANwLEFTWARDS VANEwRIGHTWARDS VANEwQUAD LEFTWAR
DS ARROW$RIGHTWARDS ARROWwCIRCLE BACKSLASHwDOWN TACK UNDERBARxELTA STILEwQUAD DOWN CARET%ELTAwDOW
N TACK JOTwUPWARDS VANEwQUAD UPWARDS ARROWwUP TACK OVERBARwDEL STILEwQUAD UP CARET$DELwUP TACK JOT
wDOWNWARDS VANEwQUAD DOWNWARDS ARROWyOTE UNDERBARwDELTA UNDERBARxIAMOND UNDERBARwJOT UNDERBARwCIRC
LE UNDERBARwUP SHOE JOTwQUOTE QUADwCIRCLE STARwQUAD COLONwUP TACK DIAERESISwDEL DIAERESISwSTAR DIA
ERESISwJOT DIAERESISwCIRCLE DIAERESISwDOWN SHOE STILEwLEFT SHOE STILEwTILDE DIAERESISwGREATER-THA
N DIAERESISwCOMMA BARwDEL TILDEwZILDEwSTILE TILDExEMICOLON UNDERBARwQUAD NOT EQUAL$QUESTIONwDOWN C
ARET TILDEwUP CARET TILDEwIOTAwRHOwOMEGAwALPHA UNDERBARwEPSILON UNDERBARwIOTA UNDERBARwOMEGA UNDER
BARwALPHAaNOT CHECK MARKaRIGHT ANGLE WITH DOWNWARDS ZIGZAG ARROWaSHOULDERED OPEN BOXaBELL SYMBOLaV
ERTICAL LINE WITH MIDDLE DOTaINSERTION SYMBOLaCONTINUOUS UNDERLINE SYMBOLaDISCONTINUOUS UNDERLIN
E SYMBOLaEMPHASIS SYMBOLaCOMPOSITION SYMBOLaWHITE SQUARE WITH CENTRE VERTICAL LINEaENTER SYMBOLaAL
TERNATIVE KEY SYMBOLaHELM SYMBOLaCIRCLED HORIZONTAL BAR WITH NOTCHiTRIANGLE DOWNaBROKEN CIRCLE WIT
H NORTHWEST ARROWaUNDO SYMBOLaMONOSTABLE SYMBOLaHYSTERESIS SYMBOLaOPEN-CIRCUIT-OUTPUT H-TYPE SYMBO
LuL-TYPE SYMBOLaPASSIVE-PULL-DOWN-OUTPUT SYMBOLnUP-OUTPUT SYMBOLaDIRECT CURRENT SYMBOL FORM TWOaSO
FTWARE-FUNCTION SYMBOLaAPL FUNCTIONAL SYMBOL QUADaDECIMAL SEPARATOR KEY SYMBOLaPREVIOUS PAGEaNEX
T PAGEaPRINT SCREEN SYMBOLaCLEAR SCREEN SYMBOLaLEFT PARENTHESIS UPPER HOOKrEXTENSIONrLOWER HOOKaRI
GHT PARENTHESIS UPPER HOOKsEXTENSIONsLOWER HOOKaLEFT SQUARE BRACKET UPPER CORNERuEXTENSIONuLOWER C
ORNERaRIGHT SQUARE BRACKET UPPER CORNERvEXTENSIONvLOWER CORNERaLEFT CURLY BRACKET UPPER HOOKtMIDDL
E PIECEtLOWER HOOKaCURLY BRACKET EXTENSIONaRIGHT CURLY BRACKET UPPER HOOKuMIDDLE PIECEuLOWER HOOKa
INTEGRAL EXTENSIONaHORIZONTAL LINE EXTENSIONaUPPER LEFT OR LOWER RIGHT CURLY BRACKET SECTIONgRIGH
T OR LOWER LEFT CURLY BRACKET SECTIONaSUMMATION TOPkBOTTOMaTOP SQUARE BRACKETaBOTTOM SQUARE BRACKE
Tv OVER TOP SQUARE BRACKETaRADICAL SYMBOL BOTTOMaLEFT VERTICAL BOX LINEaRIGHT VERTICAL BOX LINEaHO
RIZONTAL SCAN LINE-1v3v7v9aDENTISTRY SYMBOL LIGHT VERTICAL AND TOP RIGHT^BOTTOM RIGHT.WITH CIRCLEx
DOWN AND HORIZONTAL WITH CIRCLExUP AND HORIZONTAL WITH CIRCLExVERTICAL WITH TRIANGLExDOWN AND HORI
ZONTAL WITH TRIANGLExUP AND HORIZONTAL WITH TRIANGLExVERTICAL AND WAVExDOWN AND HORIZONTAL WITH WA
VExUP AND HORIZONTAL WITH WAVExDOWN AND HORIZONTALxUP AND HORIZONTALxVERTICAL AND TOP LEFT^BOTTO
M LEFTaSQUARE FOOTaRETURN SYMBOLaEJECT SYMBOLaVERTICAL LINE EXTENSIONaMETRICAL BREVEjLONG OVER SHO
RTjSHORT OVER LONGjLONG OVER TWO SHORTSjTWO SHORTS OVER LONGuJOINEDkRISEMEkETRASEMEjPENTASEMEaEART
H GROUNDaFUSEaTOP PARENTHESISaBOTTOM PARENTHESISaTOP CURLY BRACKETaBOTTOM CURLY BRACKETaTOP TORTOI
SE SHELL BRACKETaBOTTOM TORTOISE SHELL BRACKETaWHITE TRAPEZIUMaBENZENE RING WITH CIRCLEaSTRAIGHTNE
SSaFLATNESSaAC CURRENTaELECTRICAL INTERSECTIONaDECIMAL EXPONENT SYMBOLaBLACK RIGHT-POINTING DOUBL
E TRIANGLEgLEFT-POINTING DOUBLE TRIANGLEgUP-POINTING DOUBLE TRIANGLEgDOWN-POINTING DOUBLE TRIANGLE
gRIGHT-POINTING DOUBLE TRIANGLE WITH VERTICAL BARgLEFT-POINTING DOUBLE TRIANGLE WITH VERTICAL BARg
RIGHT-POINTING TRIANGLE WITH DOUBLE VERTICAL BARaALARM CLOCKaSTOPWATCHaTIMER CLOCKaHOURGLASS WIT
H FLOWING SANDaBLACK MEDIUM LEFT-POINTING TRIANGLEnRIGHT-POINTING TRIANGLEnUP-POINTING TRIANGLEnDO
WN-POINTING TRIANGLEaDOUBLE VERTICAL BARaBLACK SQUARE FOR STOPgCIRCLE FOR RECORDaPOWER SYMBOLgON-O
FF SYMBOLi SYMBOLgSLEEP SYMBOLaOBSERVER EYE SYMBOLaSYMBOL FOR NULLlSTART OF HEADINGuTEXTlEND OF TE
XTtRANSMISSIONnQUIRYlACKNOWLEDGElBELLmACKSPACElHORIZONTAL TABULATIONlLINE FEEDlVERTICAL TABULATION
lFORM FEEDlCARRIAGE RETURNlSHIFT OUTrINlDATA LINK ESCAPEmEVICE CONTROL ONE!TWO$HREE!FOURlNEGATIV
E ACKNOWLEDGElSYNCHRONOUS IDLElEND OF TRANSMISSION BLOCKlCANCELlEND OF MEDIUMlSUBSTITUTElESCAPElFI
LE SEPARATORlGROUP SEPARATORlRECORD SEPARATORlUNIT SEPARATORlSPACElDELETEaBLANK SYMBOLaOPEN BOXaSY
MBOL FOR NEWLINElDELETE FORM TWOlSUBSTITUTE FORM TWO@2440;aOCR HOOKeCHAIReFORKeINVERTED FORKeBEL
T BUCKLEfOW TIEfRANCH BANK IDENTIFICATIONeAMOUNT OF CHECKeDASHeCUSTOMER ACCOUNT NUMBEReDOUBLE BACK
SLASH@2460;aCIRCLED DIGIT ONEoTWOpHREEoFOURpIVEoSIXpEVENoEIGHToNINEiNUMBER TENpELEVENpTWELVEqHIRTE
ENpFOURTEENqIFTEENpSIXTEENqEVENTEENpEIGHTEENpNINETEENpTWENTYaPARENTHESIZED DIGIT ONEuTWOvHREEuFOUR
vIVEuSIXvEVENuEIGHTuNINEoNUMBER TENvELEVENvTWELVEwHIRTEENvFOURTEENwIFTEENvSIXTEENwEVENTEENvEIGHTEE
NvNINETEENvTWENTYaDIGIT ONE FULL STOPgTWO FULL STOPhHREE FULL STOPgFOUR FULL STOPhIVE FULL STOPgSI
X FULL STOPhEVEN FULL STOPgEIGHT FULL STOPgNINE FULL STOPaNUMBER TEN FULL STOPhELEVEN FULL STOPhTW
ELVE FULL STOPiHIRTEEN FULL STOPhFOURTEEN FULL STOPiIFTEEN FULL STOPhSIXTEEN FULL STOPiEVENTEEN FU
LL STOPhEIGHTEEN FULL STOPhNINETEEN FULL STOPhTWENTY FULL STOPaPARENTHESIZED LATIN SMALL LETTER A<
B<C<D<E<F<G<H<I<J<K<L<M<N<O<P<Q<R<S<T<U<V<W<X<Y<ZaCIRCLED LATIN CAPITAL LETTER A&B&C&D&E&F&G&H&I&J
&K&L&M&N&O&P&Q&R&S&T&U&V&W&X&Y&ZoSMALL LETTER A$B$C$D$E$F$G$H$I$J$K$L$M$N$O$P$Q$R$S$T$U$V$W$X$Y$Zi
DIGIT ZEROaNEGATIVE CIRCLED NUMBER ELEVENyTWELVEzHIRTEENyFOURTEENzIFTEENySIXTEENzEVENTEENyEIGHTEEN
yNINETEENyTWENTYaDOUBLE CIRCLED DIGIT ONEvTWOwHREEvFOURwIVEvSIXwEVENvEIGHTvNINEpNUMBER TENaNEGATIV
E CIRCLED DIGIT ZEROaBOX DRAWINGS LIGHT HORIZONTALnHEAVY HORIZONTALnLIGHT VERTICALnHEAVY VERTICALn
LIGHT TRIPLE DASH HORIZONTALnHEAVY TRIPLE DASH HORIZONTALnLIGHT TRIPLE DASH VERTICALnHEAVY TRIPL
E DASH VERTICALnLIGHT QUADRUPLE DASH HORIZONTALnHEAVY QUADRUPLE DASH HORIZONTALnLIGHT QUADRUPLE DA
SH VERTICALnHEAVY QUADRUPLE DASH VERTICALnLIGHT DOWN AND RIGHTnDOWN LIGHT AND RIGHT HEAVYsHEAVY AN
D RIGHT LIGHTnHEAVY DOWN AND RIGHTnLIGHT DOWN AND LEFTnDOWN LIGHT AND LEFT HEAVYsHEAVY AND LEFT LI
GHTnHEAVY DOWN AND LEFTnLIGHT UP AND RIGHTnUP LIGHT AND RIGHT HEAVYqHEAVY AND RIGHT LIGHTnHEAVY U
P AND RIGHTnLIGHT UP AND LEFTnUP LIGHT AND LEFT HEAVYqHEAVY AND LEFT LIGHTnHEAVY UP AND LEFTnLIGH
T VERTICAL AND RIGHTnVERTICAL LIGHT AND RIGHT HEAVYnUP HEAVY AND RIGHT DOWN LIGHTnDOWN HEAVY AND R
IGHT UP LIGHTnVERTICAL HEAVY AND RIGHT LIGHTnDOWN LIGHT AND RIGHT UP HEAVYnUP LIGHT AND RIGHT DOW
N HEAVYnHEAVY VERTICAL AND RIGHTnLIGHT VERTICAL AND LEFTnVERTICAL LIGHT AND LEFT HEAVYnUP HEAVY AN
D LEFT DOWN LIGHTnDOWN HEAVY AND LEFT UP LIGHTnVERTICAL HEAVY AND LEFT LIGHTnDOWN LIGHT AND LEFT U
P HEAVYnUP LIGHT AND LEFT DOWN HEAVYnHEAVY VERTICAL AND LEFTnLIGHT DOWN AND HORIZONTALoEFT HEAVY A
ND RIGHT DOWN LIGHTnRIGHT HEAVY AND LEFT DOWN LIGHTnDOWN LIGHT AND HORIZONTAL HEAVYsHEAVY AND HORI
ZONTAL LIGHTnRIGHT LIGHT AND LEFT DOWN HEAVYnLEFT LIGHT AND RIGHT DOWN HEAVYnHEAVY DOWN AND HORIZO
NTALnLIGHT UP AND HORIZONTALoEFT HEAVY AND RIGHT UP LIGHTnRIGHT HEAVY AND LEFT UP LIGHTnUP LIGHT A
ND HORIZONTAL HEAVYqHEAVY AND HORIZONTAL LIGHTnRIGHT LIGHT AND LEFT UP HEAVYnLEFT LIGHT AND RIGH
T UP HEAVYnHEAVY UP AND HORIZONTALnLIGHT VERTICAL AND HORIZONTALoEFT HEAVY AND RIGHT VERTICAL LIGH
TnRIGHT HEAVY AND LEFT VERTICAL LIGHTnVERTICAL LIGHT AND HORIZONTAL HEAVYnUP HEAVY AND DOWN HORIZO
NTAL LIGHTnDOWN HEAVY AND UP HORIZONTAL LIGHTnVERTICAL HEAVY AND HORIZONTAL LIGHTnLEFT UP HEAVY AN
D RIGHT DOWN LIGHTnRIGHT UP HEAVY AND LEFT DOWN LIGHTnLEFT DOWN HEAVY AND RIGHT UP LIGHTnRIGHT DOW
N HEAVY AND LEFT UP LIGHTnDOWN LIGHT AND UP HORIZONTAL HEAVYnUP LIGHT AND DOWN HORIZONTAL HEAVYnRI
GHT LIGHT AND LEFT VERTICAL HEAVYnLEFT LIGHT AND RIGHT VERTICAL HEAVYnHEAVY VERTICAL AND HORIZONTA
LnLIGHT DOUBLE DASH HORIZONTALnHEAVY DOUBLE DASH HORIZONTALnLIGHT DOUBLE DASH VERTICALnHEAVY DOUBL
E DASH VERTICALnDOUBLE HORIZONTALuVERTICALpWN SINGLE AND RIGHT DOUBLEsDOUBLE AND RIGHT SINGLEpUBL
E DOWN AND RIGHTpWN SINGLE AND LEFT DOUBLEsDOUBLE AND LEFT SINGLEpUBLE DOWN AND LEFTnUP SINGLE AN
D RIGHT DOUBLEqDOUBLE AND RIGHT SINGLEnDOUBLE UP AND RIGHTnUP SINGLE AND LEFT DOUBLEqDOUBLE AND LE
FT SINGLEnDOUBLE UP AND LEFTnVERTICAL SINGLE AND RIGHT DOUBLEwDOUBLE AND RIGHT SINGLEnDOUBLE VERTI
CAL AND RIGHTnVERTICAL SINGLE AND LEFT DOUBLEwDOUBLE AND LEFT SINGLEnDOUBLE VERTICAL AND LEFTpWN S
INGLE AND HORIZONTAL DOUBLEsDOUBLE AND HORIZONTAL SINGLEpUBLE DOWN AND HORIZONTALnUP SINGLE AND HO
RIZONTAL DOUBLEqDOUBLE AND HORIZONTAL SINGLEnDOUBLE UP AND HORIZONTALnVERTICAL SINGLE AND HORIZONT
AL DOUBLEwDOUBLE AND HORIZONTAL SINGLEnDOUBLE VERTICAL AND HORIZONTALnLIGHT ARC DOWN AND RIGHT.LEF
TxUP AND LEFT+RIGHTtDIAGONAL UPPER RIGHT TO LOWER LEFT>LEFT TO LOWER RIGHT%CROSStLEFTtUPtRIGHTtDOW
NnHEAVY LEFTtUPtRIGHTtDOWNnLIGHT LEFT AND HEAVY RIGHTtUP AND HEAVY DOWNnHEAVY LEFT AND LIGHT RIGHT
tUP AND LIGHT DOWNaUPPER HALF BLOCKaLOWER ONE EIGHTH BLOCKkQUARTER BLOCKgTHREE EIGHTHS BLOCKgHAL
F BLOCKgFIVE EIGHTHS BLOCKgTHREE QUARTERS BLOCKgSEVEN EIGHTHS BLOCKaFULL BLOCKaLEFT SEVEN EIGHTH
S BLOCKfTHREE QUARTERS BLOCKfFIVE EIGHTHS BLOCKfHALF BLOCKfTHREE EIGHTHS BLOCKfONE QUARTER BLOCKjE
IGHTH BLOCKaRIGHT HALF BLOCKaLIGHT SHADEaMEDIUM SHADEaDARK SHADEaUPPER ONE EIGHTH BLOCKaRIGHT ON
E EIGHTH BLOCKaQUADRANT LOWER LEFTpRIGHTjUPPER LEFTt AND LOWER LEFT AND LOWER RIGHT+RIGHTyUPPER RI
GHT AND LOWER LEFT~ LOWER RIGHTpRIGHTu AND LOWER LEFT? AND LOWER RIGHTaBLACK SQUAREaWHITE SQUARE
m WITH ROUNDED CORNERSnCONTAINING BLACK SMALL SQUAREaSQUARE WITH HORIZONTAL FILLmVERTICAL FILLmORT
HOGONAL CROSSHATCH FILLmUPPER LEFT TO LOWER RIGHT FILLsRIGHT TO LOWER LEFT FILLmDIAGONAL CROSSHATC
H FILLaBLACK SMALL SQUAREaWHITE SMALL SQUAREaBLACK RECTANGLEaWHITE RECTANGLEaBLACK VERTICAL RECTAN
GLEaWHITE VERTICAL RECTANGLEaBLACK PARALLELOGRAMaWHITE PARALLELOGRAMaBLACK UP-POINTING TRIANGLEaWH
ITE UP-POINTING TRIANGLEaBLACK UP-POINTING SMALL TRIANGLEaWHITE UP-POINTING SMALL TRIANGLEaBLACK R
IGHT-POINTING TRIANGLEaWHITE RIGHT-POINTING TRIANGLEaBLACK RIGHT-POINTING SMALL TRIANGLEaWHITE RIG
HT-POINTING SMALL TRIANGLEaBLACK RIGHT-POINTING POINTERaWHITE RIGHT-POINTING POINTERaBLACK DOWN-PO
INTING TRIANGLEaWHITE DOWN-POINTING TRIANGLEaBLACK DOWN-POINTING SMALL TRIANGLEaWHITE DOWN-POINTIN
G SMALL TRIANGLEaBLACK LEFT-POINTING TRIANGLEaWHITE LEFT-POINTING TRIANGLEaBLACK LEFT-POINTING SMA
LL TRIANGLEaWHITE LEFT-POINTING SMALL TRIANGLEaBLACK LEFT-POINTING POINTERaWHITE LEFT-POINTING POI
NTERaBLACK DIAMONDaWHITE DIAMONDn CONTAINING BLACK SMALL DIAMONDaFISHEYEaLOZENGEaWHITE CIRCLEaDOTT
ED CIRCLEaCIRCLE WITH VERTICAL FILLaBULLSEYEbLACK CIRCLEaCIRCLE WITH LEFT HALF BLACKmRIGHT HALF BL
ACKmLOWER HALF BLACKmUPPER HALF BLACKsRIGHT QUADRANT BLACKmALL BUT UPPER LEFT QUADRANT BLACKaLEF
T HALF BLACK CIRCLEaRIGHT HALF BLACK CIRCLEaINVERSE BULLETiWHITE CIRCLEaUPPER HALF INVERSE WHITE C
IRCLEaLOWER HALF INVERSE WHITE CIRCLEaUPPER LEFT QUADRANT CIRCULAR ARCgRIGHT QUADRANT CIRCULAR ARC
aLOWER RIGHT QUADRANT CIRCULAR ARCgLEFT QUADRANT CIRCULAR ARCaUPPER HALF CIRCLEaLOWER HALF CIRCLEa
BLACK LOWER RIGHT TRIANGLEmLEFT TRIANGLEgUPPER LEFT TRIANGLEmRIGHT TRIANGLEaWHITE BULLETaSQUARE WI
TH LEFT HALF BLACKmRIGHT HALF BLACKmUPPER LEFT DIAGONAL HALF BLACKmLOWER RIGHT DIAGONAL HALF BLACK
aWHITE SQUARE WITH VERTICAL BISECTING LINEgUP-POINTING TRIANGLE WITH DOTaUP-POINTING TRIANGLE WIT
H LEFT HALF BLACK!RIGHT HALF BLACKaLARGE CIRCLEaWHITE SQUARE WITH UPPER LEFT QUADRANTsLOWER LEFT Q
UADRANTyRIGHT QUADRANTsUPPER RIGHT QUADRANTgCIRCLE WITH UPPER LEFT QUADRANTsLOWER LEFT QUADRANTyRI
GHT QUADRANTsUPPER RIGHT QUADRANTaUPPER LEFT TRIANGLEgRIGHT TRIANGLEaLOWER LEFT TRIANGLEaWHITE MED
IUM SQUAREaBLACK MEDIUM SQUAREaWHITE MEDIUM SMALL SQUAREaBLACK MEDIUM SMALL SQUAREaLOWER RIGHT TRI
ANGLEaBLACK SUN WITH RAYSaCLOUDaUMBRELLAaSNOWMANaCOMETaBLACK STARaWHITE STARaLIGHTNINGaTHUNDERSTOR
MaSUNaASCENDING NODEaDESCENDING NODEaCONJUNCTIONaOPPOSITIONaBLACK TELEPHONEaWHITE TELEPHONEaBALLO
T BOXk WITH CHECKqXaSALTIREaUMBRELLA WITH RAIN DROPSaHOT BEVERAGEaWHITE SHOGI PIECEaBLACK SHOGI PI
ECEaSHAMROCKaREVERSED ROTATED FLORAL HEART BULLETaBLACK LEFT POINTING INDEXgRIGHT POINTING INDEXaW
HITE LEFT POINTING INDEXgUP POINTING INDEXgRIGHT POINTING INDEXgDOWN POINTING INDEXaSKULL AND CROS
SBONESaCAUTION SIGNaRADIOACTIVE SIGNaBIOHAZARD SIGNaCADUCEUSaANKHaORTHODOX CROSSaCHI RHObROSS OF L
ORRAINEjJERUSALEMaSTAR AND CRESCENTaFARSI SYMBOLaADI SHAKTIaHAMMER AND SICKLEaPEACE SYMBOLaYIN YAN
GaTRIGRAM FOR HEAVENmLAKEmFIREmTHUNDERmWINDnATERmMOUNTAINmEARTHaWHEEL OF DHARMAcITE FROWNING FACEg
SMILING FACEaBLACK SMILING FACEaWHITE SUN WITH RAYSaFIRST QUARTER MOONaLAST QUARTER MOONaMERCURYaF
EMALE SIGNaEARTHaMALE SIGNaJUPITERaSATURNaURANUSaNEPTUNEaPLUTOaARIESaTAURUSaGEMINIaCANCERaLEOaVIRG
OaLIBRAaSCORPIUSbAGITTARIUSaCAPRICORNaAQUARIUSaPISCESaWHITE CHESS KINGmQUEENmROOKmBISHOPmKNIGHTmPA
WNaBLACK CHESS KINGmQUEENmROOKmBISHOPmKNIGHTmPAWNgSPADE SUITaWHITE HEART SUITgDIAMOND SUITaBLACK C
LUB SUITaWHITE SPADE SUITaBLACK HEART SUITgDIAMOND SUITaWHITE CLUB SUITaHOT SPRINGSaQUARTER NOTEaE
IGHTH NOTEaBEAMED EIGHTH NOTEShSIXTEENTH NOTESaMUSIC FLAT SIGNgNATURAL SIGNgSHARP SIGNaWEST SYRIA
C CROSSaEAST SYRIAC CROSSaUNIVERSAL RECYCLING SYMBOLaRECYCLING SYMBOL FOR TYPE-1 PLASTICS!2 PLASTI
CS!3 PLASTICS!4 PLASTICS!5 PLASTICS!6 PLASTICS!7 PLASTICSvGENERIC MATERIALSaBLACK UNIVERSAL RECYCL
ING SYMBOLaRECYCLED PAPER SYMBOLaPARTIALLY-RECYCLED PAPER SYMBOLbERMANENT PAPER SIGNaWHEELCHAIR SY
MBOLaDIE FACE-1j2j3j4j5j6aWHITE CIRCLE WITH DOT RIGHTsTWO DOTSaBLACK CIRCLE WITH WHITE DOT RIGHTsT
WO WHITE DOTSaMONOGRAM FOR YANGoINaDIGRAM FOR GREATER YANGlLESSER YINtANGlGREATER YINaWHITE FLAGaB
LACK FLAGaHAMMER AND PICKaANCHORaCROSSED SWORDSaSTAFF OF AESCULAPIUSbCALESaALEMBICaFLOWERaGEARaSTA
FF OF HERMESaATOM SYMBOLaFLEUR-DE-LISaOUTLINED WHITE STARaTHREE LINES CONVERGING RIGHTxLEFTaWARNIN
G SIGNaHIGH VOLTAGE SIGNaDOUBLED FEMALE SIGNiMALE SIGNaINTERLOCKED FEMALE AND MALE SIGNaMALE AND F
EMALE SIGNfWITH STROKE SIGNrAND MALE AND FEMALE SIGNaVERTICAL MALE WITH STROKE SIGNaHORIZONTAL MAL
E WITH STROKE SIGNaMEDIUM WHITE CIRCLEhBLACK CIRCLEhSMALL WHITE CIRCLEbARRIAGE SYMBOLaDIVORCE SYMB
OLaUNMARRIED PARTNERSHIP SYMBOLaCOFFINaFUNERAL URNaNEUTERaCERESaPALLASaJUNOaVESTAaCHIRONaBLACK MOO
N LILITHaSEXTILEcMISEXTILEaQUINCUNXaSESQUIQUADRATEbOCCER BALLaBASEBALLaSQUARED KEYaWHITE DRAUGHT
S MANpKINGaBLACK DRAUGHTS MANpKINGaSNOWMAN WITHOUT SNOWbUN BEHIND CLOUDaRAINaBLACK SNOWMANaTHUNDE
R CLOUD AND RAINbURNED WHITE SHOGI PIECEhBLACK SHOGI PIECEaWHITE DIAMOND IN SQUAREaCROSSING LANESa
DISABLED CARaOPHIUCHUSaPICKaCAR SLIDINGaHELMET WITH WHITE CROSSaCIRCLED CROSSING LANESbHAINSaNO EN
TRYaALTERNATE ONE-WAY LEFT WAY TRAFFICaBLACK TWO-WAY LEFT WAY TRAFFICaWHITE TWO-WAY LEFT WAY TRAFF
ICaBLACK LEFT LANE MERGEaWHITE LEFT LANE MERGEaDRIVE SLOW SIGNaHEAVY WHITE DOWN-POINTING TRIANGLEa
LEFT CLOSED ENTRYaSQUARED SALTIREaFALLING DIAGONAL IN WHITE CIRCLE IN BLACK SQUAREaBLACK TRUCKaRES
TRICTED LEFT ENTRY-1w2aASTRONOMICAL SYMBOL FOR URANUSaHEAVY CIRCLE WITH STROKE AND TWO DOTS ABOVEa
PENTAGRAMaRIGHT-HANDED INTERLACED PENTAGRAMaLEFT-HANDED INTERLACED PENTAGRAMaINVERTED PENTAGRAMaBL
ACK CROSS ON SHIELDaSHINTO SHRINEaCHURCHbASTLEaHISTORIC SITEaGEAR WITHOUT HUBj HANDLESaMAP SYMBO
L FOR LIGHTHOUSEbOUNTAINaUMBRELLA ON GROUNDaFOUNTAINbLAG IN HOLEbERRYaSAILBOATbQUARE FOUR CORNERSb
KIERaICE SKATEaPERSON WITH BALLaTENTaJAPANESE BANK SYMBOLaHEADSTONE GRAVEYARD SYMBOLaFUEL PUMPaCU
P ON BLACK SQUAREaWHITE FLAG WITH HORIZONTAL MIDDLE BLACK STRIPEaBLACK SAFETY SCISSORSaUPPER BLAD
E SCISSORSaBLACK SCISSORSaLOWER BLADE SCISSORSaWHITE SCISSORSgHEAVY CHECK MARKaTELEPHONE LOCATIO
N SIGNbAPE DRIVEaAIRPLANEaENVELOPEaRAISED FISThHANDaVICTORY HANDaWRITING HANDaLOWER RIGHT PENCILaP
ENCILaUPPER RIGHT PENCILaWHITE NIBaBLACK NIBaCHECK MARKaHEAVY CHECK MARKaMULTIPLICATION XaHEAVY MU
LTIPLICATION XaBALLOT XaHEAVY BALLOT XaOUTLINED GREEK CROSSaHEAVY GREEK CROSSaOPEN CENTRE CROSSaHE
AVY OPEN CENTRE CROSSaLATIN CROSSaSHADOWED WHITE LATIN CROSSaOUTLINED LATIN CROSSaMALTESE CROSSaST
AR OF DAVIDaFOUR TEARDROP-SPOKED ASTERISKfBALLOON-SPOKED ASTERISKaHEAVY FOUR BALLOON-SPOKED ASTERI
SKaFOUR CLUB-SPOKED ASTERISKaBLACK FOUR POINTED STARaWHITE FOUR POINTED STARaSPARKLESbTRESS OUTLIN
ED WHITE STARaCIRCLED WHITE STARaOPEN CENTRE BLACK STARaBLACK CENTRE WHITE STARaOUTLINED BLACK STA
RaHEAVY OUTLINED BLACK STARaPINWHEEL STARaSHADOWED WHITE STARaHEAVY ASTERISKaOPEN CENTRE ASTERISKa
EIGHT SPOKED ASTERISKgPOINTED BLACK STARoPINWHEEL STARaSIX POINTED BLACK STARaEIGHT POINTED RECTIL
INEAR BLACK STARaHEAVY EIGHT POINTED RECTILINEAR BLACK STARaTWELVE POINTED BLACK STARaSIXTEEN POIN
TED ASTERISKaTEARDROP-SPOKED ASTERISKaOPEN CENTRE TEARDROP-SPOKED ASTERISKaHEAVY TEARDROP-SPOKED A
STERISKaSIX PETALLED BLACK AND WHITE FLORETTEaBLACK FLORETTEaWHITE FLORETTEaEIGHT PETALLED OUTLINE
D BLACK FLORETTEaCIRCLED OPEN CENTRE EIGHT POINTED STARaHEAVY TEARDROP-SPOKED PINWHEEL ASTERISKaSN
OWFLAKEaTIGHT TRIFOLIATE SNOWFLAKEaHEAVY CHEVRON SNOWFLAKEaSPARKLEaHEAVY SPARKLEaBALLOON-SPOKED AS
TERISKaEIGHT TEARDROP-SPOKED PROPELLER ASTERISKaHEAVY EIGHT TEARDROP-SPOKED PROPELLER ASTERISKaCRO
SS MARKaSHADOWED WHITE CIRCLEaNEGATIVE SQUARED CROSS MARKaLOWER RIGHT DROP-SHADOWED WHITE SQUAREaU
PPER RIGHT DROP-SHADOWED WHITE SQUAREaLOWER RIGHT SHADOWED WHITE SQUAREaUPPER RIGHT SHADOWED WHIT
E SQUAREaBLACK QUESTION MARK ORNAMENTaWHITE QUESTION MARK ORNAMENTgEXCLAMATION MARK ORNAMENTaBLAC
K DIAMOND MINUS WHITE XaHEAVY EXCLAMATION MARK SYMBOLaLIGHT VERTICAL BARaMEDIUM VERTICAL BARaHEAV
Y VERTICAL BARgSINGLE TURNED COMMA QUOTATION MARK ORNAMENTnCOMMA QUOTATION MARK ORNAMENTgDOUBLE TU
RNED COMMA QUOTATION MARK ORNAMENTnCOMMA QUOTATION MARK ORNAMENTgLOW SINGLE COMMA QUOTATION MARK O
RNAMENTkDOUBLE COMMA QUOTATION MARK ORNAMENTaCURVED STEM PARAGRAPH SIGN ORNAMENTaHEAVY EXCLAMATIO
N MARK ORNAMENTgHEART EXCLAMATION MARK ORNAMENTgBLACK HEARTaROTATED HEAVY BLACK HEART BULLETaFLORA
L HEARTaROTATED FLORAL HEART BULLETaMEDIUM LEFT PARENTHESIS ORNAMENThRIGHT PARENTHESIS ORNAMENThFL
ATTENED LEFT PARENTHESIS ORNAMENTrRIGHT PARENTHESIS ORNAMENThLEFT-POINTING ANGLE BRACKET ORNAMENTh
RIGHT-POINTING ANGLE BRACKET ORNAMENTaHEAVY LEFT-POINTING ANGLE QUOTATION MARK ORNAMENTgRIGHT-POIN
TING ANGLE QUOTATION MARK ORNAMENTgLEFT-POINTING ANGLE BRACKET ORNAMENTgRIGHT-POINTING ANGLE BRACK
ET ORNAMENTaLIGHT LEFT TORTOISE SHELL BRACKET ORNAMENTgRIGHT TORTOISE SHELL BRACKET ORNAMENTaMEDIU
M LEFT CURLY BRACKET ORNAMENThRIGHT CURLY BRACKET ORNAMENTaDINGBAT NEGATIVE CIRCLED DIGIT ONE,TWO.
HREE,FOUR.IVE,SIX.EVEN,EIGHT,NINEzNUMBER TENiCIRCLED SANS-SERIF DIGIT ONE<TWO>HREE<FOUR>IVE<SIX>EV
EN<EIGHT<NINE$NUMBER TENiNEGATIVE CIRCLED SANS-SERIF DIGIT ONE~IT TWO~IT THREE~IT FOUR~IT FIVE~I
T SIX~IT SEVEN~IT EIGHT~IT NINE^NUMBER TENaHEAVY WIDE-HEADED RIGHTWARDS ARROWgPLUS SIGNgMINUS SIGN
gDIVISION SIGNgSOUTH EAST ARROWgRIGHTWARDS ARROWgNORTH EAST ARROWaDRAFTING POINT RIGHTWARDS ARROWa
HEAVY ROUND-TIPPED RIGHTWARDS ARROWaTRIANGLE-HEADED RIGHTWARDS ARROWaHEAVY TRIANGLE-HEADED RIGHTWA
RDS ARROWaDASHED TRIANGLE-HEADED RIGHTWARDS ARROWaHEAVY DASHED TRIANGLE-HEADED RIGHTWARDS ARROWaBL
ACK RIGHTWARDS ARROWaTHREE-D TOP-LIGHTED RIGHTWARDS ARROWHEADiBOTTOM-LIGHTED RIGHTWARDS ARROWHEADa
BLACK RIGHTWARDS ARROWHEADaHEAVY BLACK CURVED DOWNWARDS AND RIGHTWARDS ARROWtUPWARDS AND RIGHTWARD
S ARROWaSQUAT BLACK RIGHTWARDS ARROWaHEAVY CONCAVE-POINTED BLACK RIGHTWARDS ARROWaRIGHT-SHADED WHI
TE RIGHTWARDS ARROWaLEFT-SHADED WHITE RIGHTWARDS ARROWaBACK-TILTED SHADOWED WHITE RIGHTWARDS ARROW
aFRONT-TILTED SHADOWED WHITE RIGHTWARDS ARROWaHEAVY LOWER RIGHT-SHADOWED WHITE RIGHTWARDS ARROWgUP
PER RIGHT-SHADOWED WHITE RIGHTWARDS ARROWaNOTCHED LOWER RIGHT-SHADOWED WHITE RIGHTWARDS ARROWaCURL
Y LOOPaNOTCHED UPPER RIGHT-SHADOWED WHITE RIGHTWARDS ARROWaCIRCLED HEAVY WHITE RIGHTWARDS ARROWaWH
ITE-FEATHERED RIGHTWARDS ARROWaBLACK-FEATHERED SOUTH EAST ARROWqRIGHTWARDS ARROWqNORTH EAST ARROWa
HEAVY BLACK-FEATHERED SOUTH EAST ARROWwRIGHTWARDS ARROWwNORTH EAST ARROWaTEARDROP-BARBED RIGHTWARD
S ARROWaHEAVY TEARDROP-SHANKED RIGHTWARDS ARROWaWEDGE-TAILED RIGHTWARDS ARROWaHEAVY WEDGE-TAILED R
IGHTWARDS ARROWaOPEN-OUTLINED RIGHTWARDS ARROWaDOUBLE CURLY LOOPaTHREE DIMENSIONAL ANGLEaWHITE TRI
ANGLE CONTAINING SMALL WHITE TRIANGLEaPERPENDICULARaOPEN SUBSEThPERSETaLEFT S-SHAPED BAG DELIMITER
aRIGHT S-SHAPED BAG DELIMITERaOR WITH DOT INSIDEaREVERSE SOLIDUS PRECEDING SUBSETaSUPERSET PRECEDI
NG SOLIDUSaVERTICAL BAR WITH HORIZONTAL STROKEaMATHEMATICAL RISING DIAGONALaLONG DIVISIONaMATHEMAT
ICAL FALLING DIAGONALaSQUARED LOGICAL ANDqORaWHITE DIAMOND WITH CENTRED DOTaAND WITH DOTaELEMENT O
F OPENING UPWARDSaLOWER RIGHT CORNER WITH DOTaUPPER LEFT CORNER WITH DOTaLEFT OUTER JOINaRIGHT OUT
ER JOINaFULL OUTER JOINaLARGE UP TACKgDOWN TACKbEFT AND RIGHT DOUBLE TURNSTILEpTACKfMULTIMAPbONG R
IGHT TACKfLEFT TACKaUP TACK WITH CIRCLE ABOVEaLOZENGE DIVIDED BY HORIZONTAL RULEaWHITE CONCAVE-SID
ED DIAMOND$ WITH LEFTWARDS TICK<RIGHTWARDS TICKgSQUARE WITH LEFTWARDS TICKsRIGHTWARDS TICKaMATHEMA
TICAL LEFT WHITE SQUARE BRACKETnRIGHT WHITE SQUARE BRACKETnLEFT ANGLE BRACKETnRIGHT ANGLE BRACKETn
LEFT DOUBLE ANGLE BRACKETnRIGHT DOUBLE ANGLE BRACKETnLEFT WHITE TORTOISE SHELL BRACKETnRIGHT WHIT
E TORTOISE SHELL BRACKETnLEFT FLATTENED PARENTHESISnRIGHT FLATTENED PARENTHESISaUPWARDS QUADRUPL
E ARROWaDOWNWARDS QUADRUPLE ARROWaANTICLOCKWISE GAPPED CIRCLE ARROWaCLOCKWISE GAPPED CIRCLE ARROWa
RIGHT ARROW WITH CIRCLED PLUSaLONG LEFTWARDS ARROWfRIGHTWARDS ARROWfLEFT RIGHT ARROWjWARDS DOUBL
E ARROWfRIGHTWARDS DOUBLE ARROWfLEFT RIGHT DOUBLE ARROWjWARDS ARROW FROM BARfRIGHTWARDS ARROW FRO
M BARfLEFTWARDS DOUBLE ARROW FROM BARfRIGHTWARDS DOUBLE ARROW FROM BARqSQUIGGLE ARROWaBRAILLE PATT
ERN BLANKqDOTS-1v2v12v3v13v23v123v4v14v24v124v34v134v234v1234v5v15v25v125v35v135v235v1235v45v145v2
45v1245v345v1345v2345v12345v6v16v26v126v36v136v236v1236v46v146v246v1246v346v1346v2346v12346v56v156
v256v1256v356v1356v2356v12356v456v1456v2456v12456v3456v13456v23456v123456v7v17v27v127v37v137v237v1
237v47v147v247v1247v347v1347v2347v12347v57v157v257v1257v357v1357v2357v12357v457v1457v2457v12457v34
57v13457v23457v123457v67v167v267v1267v367v1367v2367v12367v467v1467v2467v12467v3467v13467v23467v123
467v567v1567v2567v12567v3567v13567v23567v123567v4567v14567v24567v124567v34567v134567v234567v123456
7v8v18v28v128v38v138v238v1238v48v148v248v1248v348v1348v2348v12348v58v158v258v1258v358v1358v2358v12
358v458v1458v2458v12458v3458v13458v23458v123458v68v168v268v1268v368v1368v2368v12368v468v1468v2468v
12468v3468v13468v23468v123468v568v1568v2568v12568v3568v13568v23568v123568v4568v14568v24568v124568v
34568v134568v234568v1234568v78v178v278v1278v378v1378v2378v12378v478v1478v2478v12478v3478v13478v234
78v123478v578v1578v2578v12578v3578v13578v23578v123578v4578v14578v24578v124578v34578v134578v234578v
1234578v678v1678v2678v12678v3678v13678v23678v123678v4678v14678v24678v124678v34678v134678v234678v12
34678v5678v15678v25678v125678v35678v135678v235678v1235678v45678v145678v245678v1245678v345678v13456
78v2345678v12345678aRIGHTWARDS TWO-HEADED ARROW WITH VERTICAL STROKE<DOUBLE VERTICAL STROKEaLEFTWA
RDS DOUBLE ARROW WITH VERTICAL STROKEaRIGHTWARDS DOUBLE ARROW WITH VERTICAL STROKEaLEFT RIGHT DOUB
LE ARROW WITH VERTICAL STROKEaRIGHTWARDS TWO-HEADED ARROW FROM BARaLEFTWARDS DOUBLE ARROW FROM BAR
aRIGHTWARDS DOUBLE ARROW FROM BARaDOWNWARDS ARROW WITH HORIZONTAL STROKEaUPWARDS ARROW WITH HORIZO
NTAL STROKEiTRIPLE ARROWaDOWNWARDS TRIPLE ARROWaLEFTWARDS DOUBLE DASH ARROWaRIGHTWARDS DOUBLE DAS
H ARROWaLEFTWARDS TRIPLE DASH ARROWaRIGHTWARDS TRIPLE DASH ARROWmWO-HEADED TRIPLE DASH ARROWlARRO
W WITH DOTTED STEMaUPWARDS ARROW TO BARaDOWNWARDS ARROW TO BARaRIGHTWARDS ARROW WITH TAIL WITH VER
TICAL STROKE.DOUBLE VERTICAL STROKElTWO-HEADED ARROW WITH TAIL_ WITH VERTICAL STROKE~ITH DOUBLE VE
RTICAL STROKEaLEFTWARDS ARROW-TAILaRIGHTWARDS ARROW-TAILaLEFTWARDS DOUBLE ARROW-TAILaRIGHTWARDS DO
UBLE ARROW-TAILaLEFTWARDS ARROW TO BLACK DIAMONDaRIGHTWARDS ARROW TO BLACK DIAMONDaLEFTWARDS ARRO
W FROM BAR TO BLACK DIAMONDaRIGHTWARDS ARROW FROM BAR TO BLACK DIAMONDaNORTH WEST AND SOUTH EAST A
RROWgEAST AND SOUTH WEST ARROWgWEST ARROW WITH HOOKgEAST ARROW WITH HOOKaSOUTH EAST ARROW WITH HOO
KgWEST ARROW WITH HOOKaNORTH WEST ARROW AND NORTH EAST ARROWgEAST ARROW AND SOUTH EAST ARROWaSOUT
H EAST ARROW AND SOUTH WEST ARROWgWEST ARROW AND NORTH WEST ARROWaRISING DIAGONAL CROSSING FALLIN
G DIAGONALaFALLING DIAGONAL CROSSING RISING DIAGONALaSOUTH EAST ARROW CROSSING NORTH EAST ARROWaNO
RTH EAST ARROW CROSSING SOUTH EAST ARROWaFALLING DIAGONAL CROSSING NORTH EAST ARROWaRISING DIAGONA
L CROSSING SOUTH EAST ARROWaNORTH EAST ARROW CROSSING NORTH WEST ARROWgWEST ARROW CROSSING NORTH E
AST ARROWaWAVE ARROW POINTING DIRECTLY RIGHTaARROW POINTING RIGHTWARDS THEN CURVING UPWARDS~DOWNWA
RDSpDOWNWARDS THEN CURVING LEFTWARDS|RIGHTWARDSaRIGHT-SIDE ARC CLOCKWISE ARROWaLEFT-SIDE ARC ANTIC
LOCKWISE ARROWaTOP ARC ANTICLOCKWISE ARROWaBOTTOM ARC ANTICLOCKWISE ARROWaTOP ARC CLOCKWISE ARRO
W WITH MINUSiANTICLOCKWISE ARROW WITH PLUSaLOWER RIGHT SEMICIRCULAR CLOCKWISE ARROWgLEFT SEMICIRCU
LAR ANTICLOCKWISE ARROWaANTICLOCKWISE CLOSED CIRCLE ARROWaCLOCKWISE CLOSED CIRCLE ARROWaRIGHTWARD
S ARROW ABOVE SHORT LEFTWARDS ARROWaLEFTWARDS ARROW ABOVE SHORT RIGHTWARDS ARROWaSHORT RIGHTWARD
S ARROW ABOVE LEFTWARDS ARROWaRIGHTWARDS ARROW WITH PLUS BELOWaLEFTWARDS ARROW WITH PLUS BELOWaRIG
HTWARDS ARROW THROUGH XaLEFT RIGHT ARROW THROUGH SMALL CIRCLEaUPWARDS TWO-HEADED ARROW FROM SMAL
L CIRCLEaLEFT BARB UP RIGHT BARB DOWN HARPOONkDOWN RIGHT BARB UP HARPOONaUP BARB RIGHT DOWN BARB L
EFT HARPOONiLEFT DOWN BARB RIGHT HARPOONaLEFT BARB UP RIGHT BARB UP HARPOONaUP BARB RIGHT DOWN BAR
B RIGHT HARPOONaLEFT BARB DOWN RIGHT BARB DOWN HARPOONaUP BARB LEFT DOWN BARB LEFT HARPOONaLEFTWAR
DS HARPOON WITH BARB UP TO BARaRIGHTWARDS HARPOON WITH BARB UP TO BARaUPWARDS HARPOON WITH BARB RI
GHT TO BARaDOWNWARDS HARPOON WITH BARB RIGHT TO BARaLEFTWARDS HARPOON WITH BARB DOWN TO BARaRIGHTW
ARDS HARPOON WITH BARB DOWN TO BARaUPWARDS HARPOON WITH BARB LEFT TO BARaDOWNWARDS HARPOON WITH BA
RB LEFT TO BARaLEFTWARDS HARPOON WITH BARB UP FROM BARaRIGHTWARDS HARPOON WITH BARB UP FROM BARaUP
WARDS HARPOON WITH BARB RIGHT FROM BARaDOWNWARDS HARPOON WITH BARB RIGHT FROM BARaLEFTWARDS HARPOO
N WITH BARB DOWN FROM BARaRIGHTWARDS HARPOON WITH BARB DOWN FROM BARaUPWARDS HARPOON WITH BARB LEF
T FROM BARaDOWNWARDS HARPOON WITH BARB LEFT FROM BARaLEFTWARDS HARPOON WITH BARB UP ABOVE LEFTWARD
S HARPOON WITH BARB DOWNaUPWARDS HARPOON WITH BARB LEFT BESIDE UPWARDS HARPOON WITH BARB RIGHTaRIG
HTWARDS HARPOON WITH BARB UP ABOVE RIGHTWARDS HARPOON WITH BARB DOWNaDOWNWARDS HARPOON WITH BARB L
EFT BESIDE DOWNWARDS HARPOON WITH BARB RIGHTaLEFTWARDS HARPOON WITH BARB UP ABOVE RIGHTWARDS HARPO
ON WITH BARB UP%DOWN ABOVE RIGHTWARDS HARPOON WITH BARB DOWNaRIGHTWARDS HARPOON WITH BARB UP ABOV
E LEFTWARDS HARPOON WITH BARB UP&DOWN ABOVE LEFTWARDS HARPOON WITH BARB DOWNaLEFTWARDS HARPOON WIT
H BARB UP ABOVE LONG DASH%DOWN BELOW LONG DASHaRIGHTWARDS HARPOON WITH BARB UP ABOVE LONG DASH&DOW
N BELOW LONG DASHaUPWARDS HARPOON WITH BARB LEFT BESIDE DOWNWARDS HARPOON WITH BARB RIGHTaDOWNWARD
S HARPOON WITH BARB LEFT BESIDE UPWARDS HARPOON WITH BARB RIGHTaRIGHT DOUBLE ARROW WITH ROUNDED HE
ADaEQUALS SIGN ABOVE RIGHTWARDS ARROWaTILDE OPERATOR ABOVE RIGHTWARDS ARROWaLEFTWARDS ARROW ABOV
E TILDE OPERATORaRIGHTWARDS ARROW ABOVE TILDE OPERATORxALMOST EQUAL TOaLESS-THAN ABOVE LEFTWARDS A
RROWcFTWARDS ARROW THROUGH LESS-THANaGREATER-THAN ABOVE RIGHTWARDS ARROWaSUBSET ABOVE RIGHTWARDS A
RROWaLEFTWARDS ARROW THROUGH SUBSETaSUPERSET ABOVE LEFTWARDS ARROWaLEFT FISH TAILaRIGHT FISH TAILa
UP FISH TAILaDOWN FISH TAILaTRIPLE VERTICAL BAR DELIMITERaZ NOTATION SPOTlTYPE COLONaLEFT WHITE CU
RLY BRACKETaRIGHT WHITE CURLY BRACKETaLEFT WHITE PARENTHESISaRIGHT WHITE PARENTHESISaZ NOTATION LE
FT IMAGE BRACKETlRIGHT IMAGE BRACKETlLEFT BINDING BRACKETlRIGHT BINDING BRACKETaLEFT SQUARE BRACKE
T WITH UNDERBARaRIGHT SQUARE BRACKET WITH UNDERBARaLEFT SQUARE BRACKET WITH TICK IN TOP CORNERaRIG
HT SQUARE BRACKET WITH TICK IN BOTTOM CORNERaLEFT SQUARE BRACKET WITH TICK IN BOTTOM CORNERaRIGH
T SQUARE BRACKET WITH TICK IN TOP CORNERaLEFT ANGLE BRACKET WITH DOTaRIGHT ANGLE BRACKET WITH DOTa
LEFT ARC LESS-THAN BRACKETaRIGHT ARC GREATER-THAN BRACKETaDOUBLE LEFT ARC GREATER-THAN BRACKEThRIG
HT ARC LESS-THAN BRACKETaLEFT BLACK TORTOISE SHELL BRACKETaRIGHT BLACK TORTOISE SHELL BRACKETaDOTT
ED FENCEaVERTICAL ZIGZAG LINEaMEASURED ANGLE OPENING LEFTaRIGHT ANGLE VARIANT WITH SQUAREaMEASURE
D RIGHT ANGLE WITH DOTaANGLE WITH S INSIDEbCUTE ANGLEaSPHERICAL ANGLE OPENING LEFTyUPaTURNED ANGLE
aREVERSED ANGLEaANGLE WITH UNDERBARaREVERSED ANGLE WITH UNDERBARaOBLIQUE ANGLE OPENING UPwDOWNaMEA
SURED ANGLE WITH OPEN ARM ENDING IN ARROW POINTING UP AND RIGHT~ARROW POINTING UP AND LEFT~ARROW P
OINTING DOWN AND RIGHT~ARROW POINTING DOWN AND LEFT~ARROW POINTING RIGHT AND UP~ARROW POINTING LEF
T AND UP~ARROW POINTING RIGHT AND DOWN~ARROW POINTING LEFT AND DOWNaREVERSED EMPTY SETaEMPTY SET W
ITH OVERBARpSMALL CIRCLE ABOVEpRIGHT ARROW ABOVEpLEFT ARROW ABOVEaCIRCLE WITH HORIZONTAL BARgD VER
TICAL BARiPARALLELiREVERSE SOLIDUSiPERPENDICULARg DIVIDED BY HORIZONTAL BAR AND TOP HALF DIVIDED B
Y VERTICAL BARhWITH SUPERIMPOSED XgD ANTICLOCKWISE-ROTATED DIVISION SIGNaUP ARROW THROUGH CIRCLEaC
IRCLED WHITE BULLETiBULLETiLESS-THANiGREATER-THANg WITH SMALL CIRCLE TO THE RIGHTmTWO HORIZONTAL S
TROKES TO THE RIGHTaSQUARED RISING DIAGONAL SLASHiFALLING DIAGONAL SLASHiASTERISKiSMALL CIRCLEjQUA
REaTWO JOINED SQUARESbRIANGLE WITH DOT ABOVEoUNDERBARaS IN TRIANGLEaTRIANGLE WITH SERIFS AT BOTTOM
aRIGHT TRIANGLE ABOVE LEFT TRIANGLEaLEFT TRIANGLE BESIDE VERTICAL BARaVERTICAL BAR BESIDE RIGHT TR
IANGLEaBOWTIE WITH LEFT HALF BLACKmRIGHT HALF BLACKbLACK BOWTIEaTIMES WITH LEFT HALF BLACKlRIGHT H
ALF BLACKaWHITE HOURGLASSaBLACK HOURGLASSaLEFT WIGGLY FENCEaRIGHT WIGGLY FENCEaLEFT DOUBLE WIGGL
Y FENCEaRIGHT DOUBLE WIGGLY FENCEaINCOMPLETE INFINITYaTIE OVER INFINITYaINFINITY NEGATED WITH VERT
ICAL BARaDOUBLE-ENDED MULTIMAPaSQUARE WITH CONTOURED OUTLINEaINCREASES ASaSHUFFLE PRODUCTaEQUALS S
IGN AND SLANTED PARALLEL. WITH TILDE ABOVEaIDENTICAL TO AND SLANTED PARALLELaGLEICH STARKaTHERMODY
NAMICaDOWN-POINTING TRIANGLE WITH LEFT HALF BLACK%RIGHT HALF BLACKaBLACK DIAMOND WITH DOWN ARROWgL
OZENGEaWHITE CIRCLE WITH DOWN ARROWaBLACK CIRCLE WITH DOWN ARROWaERROR-BARRED WHITE SQUAREnBLACK S
QUAREnWHITE DIAMONDnBLACK DIAMONDnWHITE CIRCLEnBLACK CIRCLEaRULE-DELAYEDbEVERSE SOLIDUS OPERATORaS
OLIDUS WITH OVERBARaREVERSE SOLIDUS WITH HORIZONTAL STROKEaBIG SOLIDUSeREVERSE SOLIDUSaDOUBLE PLUS
aTRIPLE PLUSaLEFT-POINTING CURVED ANGLE BRACKETaRIGHT-POINTING CURVED ANGLE BRACKETaTINYaMINYaN-AR
Y CIRCLED DOT OPERATORoPLUS OPERATORoTIMES OPERATORgUNION OPERATOR WITH DOT!PLUSgSQUARE INTERSECTI
ON OPERATORnUNION OPERATORaTWO LOGICAL AND OPERATORmOR OPERATORaN-ARY TIMES OPERATORaMODULO TWO SU
MaSUMMATION WITH INTEGRALaQUADRUPLE INTEGRAL OPERATORaFINITE PART INTEGRALaINTEGRAL WITH DOUBLE ST
ROKEjAVERAGE WITH SLASHaCIRCULATION FUNCTIONaANTICLOCKWISE INTEGRATIONaLINE INTEGRATION WITH RECTA
NGULAR PATH AROUND POLEwSEMICIRCULAR PATH AROUND POLErNOT INCLUDING THE POLEaINTEGRAL AROUND A POI
NT OPERATORaQUATERNION INTEGRAL OPERATORaINTEGRAL WITH LEFTWARDS ARROW WITH HOOKoTIMES SIGNoINTERS
ECTIONoUNIONoOVERBARoUNDERBARaJOINaLARGE LEFT TRIANGLE OPERATORaZ NOTATION SCHEMA COMPOSITIONsPIPI
NGtROJECTIONaPLUS SIGN WITH SMALL CIRCLE ABOVEpCIRCUMFLEX ACCENT ABOVEpTILDE ABOVEpDOT BELOWpTILD
E BELOWpSUBSCRIPT TWOpBLACK TRIANGLEaMINUS SIGN WITH COMMA ABOVEqDOT BELOWqFALLING DOTSqRISING DOT
SaPLUS SIGN IN LEFT HALF CIRCLEnRIGHT HALF CIRCLEaVECTOR OR CROSS PRODUCTaMULTIPLICATION SIGN WIT
H DOT ABOVEzUNDERBARaSEMIDIRECT PRODUCT WITH BOTTOM CLOSEDbMASH PRODUCTaMULTIPLICATION SIGN IN LEF
T HALF CIRCLExRIGHT HALF CIRCLEaCIRCLED MULTIPLICATION SIGN WITH CIRCUMFLEX ACCENTaMULTIPLICATIO
N SIGN IN DOUBLE CIRCLEaCIRCLED DIVISION SIGNaPLUS SIGN IN TRIANGLEaMINUS SIGN IN TRIANGLEbULTIPLI
CATION SIGN IN TRIANGLEaINTERIOR PRODUCTaRIGHTHAND INTERIOR PRODUCTaZ NOTATION RELATIONAL COMPOSIT
IONaAMALGAMATION OR COPRODUCTaINTERSECTION WITH DOTaUNION WITH MINUS SIGNlOVERBARaINTERSECTION WIT
H OVERBARsLOGICAL ANDaUNION WITH LOGICAL ORgABOVE INTERSECTIONaINTERSECTION ABOVE UNIONaUNION ABOV
E BAR ABOVE INTERSECTIONaINTERSECTION ABOVE BAR ABOVE UNIONaUNION BESIDE AND JOINED WITH UNIONaINT
ERSECTION BESIDE AND JOINED WITH INTERSECTIONaCLOSED UNION WITH SERIFShINTERSECTION WITH SERIFSaDO
UBLE SQUARE INTERSECTIONoUNIONaCLOSED UNION WITH SERIFS AND SMASH PRODUCTaLOGICAL AND WITH DOT ABO
VEiOR WITH DOT ABOVEaDOUBLE LOGICAL ANDpORaTWO INTERSECTING LOGICAL ANDzORaSLOPING LARGE ORoANDaLO
GICAL OR OVERLAPPING LOGICAL ANDiAND WITH MIDDLE STEMiOR WITH MIDDLE STEMiAND WITH HORIZONTAL DASH
iOR WITH HORIZONTAL DASHiAND WITH DOUBLE OVERBARrUNDERBARrDOUBLE UNDERBARaSMALL VEE WITH UNDERBARa
LOGICAL OR WITH DOUBLE OVERBARxUNDERBARaZ NOTATION DOMAIN ANTIRESTRICTIONlRANGE ANTIRESTRICTIONaEQ
UALS SIGN WITH DOT BELOWaIDENTICAL WITH DOT ABOVEaTRIPLE HORIZONTAL BAR WITH DOUBLE VERTICAL STROK
E$TRIPLE VERTICAL STROKEbILDE OPERATOR WITH DOT ABOVEuRISING DOTSaSIMILAR MINUS SIMILARaCONGRUEN
T WITH DOT ABOVEaEQUALS WITH ASTERISKaALMOST EQUAL TO WITH CIRCUMFLEX ACCENTbPPROXIMATELY EQUAL O
R EQUAL TOaEQUALS SIGN ABOVE PLUS SIGNaPLUS SIGN ABOVE EQUALS SIGNaEQUALS SIGN ABOVE TILDE OPERATO
RaDOUBLE COLON EQUALaTWO CONSECUTIVE EQUALS SIGNSbHREE CONSECUTIVE EQUALS SIGNSaEQUALS SIGN WITH T
WO DOTS ABOVE AND TWO DOTS BELOWdIVALENT WITH FOUR DOTS ABOVEaLESS-THAN WITH CIRCLE INSIDEaGREATER
-THAN WITH CIRCLE INSIDEaLESS-THAN WITH QUESTION MARK ABOVEaGREATER-THAN WITH QUESTION MARK ABOVEa
LESS-THAN OR SLANTED EQUAL TOaGREATER-THAN OR SLANTED EQUAL TOaLESS-THAN OR SLANTED EQUAL TO WIT
H DOT INSIDEaGREATER-THAN OR SLANTED EQUAL TO WITH DOT INSIDEaLESS-THAN OR SLANTED EQUAL TO WITH D
OT ABOVEaGREATER-THAN OR SLANTED EQUAL TO WITH DOT ABOVEaLESS-THAN OR SLANTED EQUAL TO WITH DOT AB
OVE RIGHTaGREATER-THAN OR SLANTED EQUAL TO WITH DOT ABOVE LEFTaLESS-THAN OR APPROXIMATEaGREATER-TH
AN OR APPROXIMATEaLESS-THAN AND SINGLE-LINE NOT EQUAL TOaGREATER-THAN AND SINGLE-LINE NOT EQUAL TO
aLESS-THAN AND NOT APPROXIMATEaGREATER-THAN AND NOT APPROXIMATEaLESS-THAN ABOVE DOUBLE-LINE EQUA
L ABOVE GREATER-THANaGREATER-THAN ABOVE DOUBLE-LINE EQUAL ABOVE LESS-THANaLESS-THAN ABOVE SIMILA
R OR EQUALaGREATER-THAN ABOVE SIMILAR OR EQUALaLESS-THAN ABOVE SIMILAR ABOVE GREATER-THANaGREATER-
THAN ABOVE SIMILAR ABOVE LESS-THANaLESS-THAN ABOVE GREATER-THAN ABOVE DOUBLE-LINE EQUALaGREATER-TH
AN ABOVE LESS-THAN ABOVE DOUBLE-LINE EQUALaLESS-THAN ABOVE SLANTED EQUAL ABOVE GREATER-THAN ABOV
E SLANTED EQUALaGREATER-THAN ABOVE SLANTED EQUAL ABOVE LESS-THAN ABOVE SLANTED EQUALaSLANTED EQUA
L TO OR LESS-THANuGREATER-THANuLESS-THAN WITH DOT INSIDEuGREATER-THAN WITH DOT INSIDEaDOUBLE-LIN
E EQUAL TO OR LESS-THANyGREATER-THANmSLANTED EQUAL TO OR LESS-THAN.GREATER-THANaSIMILAR OR LESS-TH
ANlGREATER-THANiABOVE LESS-THAN ABOVE EQUALS SIGNoGREATER-THAN ABOVE EQUALS SIGNaDOUBLE NESTED LES
S-THANoGREATER-THANoLESS-THAN WITH UNDERBARaGREATER-THAN OVERLAPPING LESS-THANnBESIDE LESS-THANaLE
SS-THAN CLOSED BY CURVEaGREATER-THAN CLOSED BY CURVEaLESS-THAN CLOSED BY CURVE ABOVE SLANTED EQUAL
aGREATER-THAN CLOSED BY CURVE ABOVE SLANTED EQUALaSMALLER THANaLARGER THANaSMALLER THAN OR EQUAL T
OaLARGER THAN OR EQUAL TOaEQUALS SIGN WITH BUMPY ABOVEaPRECEDES ABOVE SINGLE-LINE EQUALS SIGNaSUCC
EEDS ABOVE SINGLE-LINE EQUALS SIGNaPRECEDES ABOVE SINGLE-LINE NOT EQUAL TOaSUCCEEDS ABOVE SINGLE-L
INE NOT EQUAL TOaPRECEDES ABOVE EQUALS SIGNaSUCCEEDS ABOVE EQUALS SIGNaPRECEDES ABOVE NOT EQUAL TO
aSUCCEEDS ABOVE NOT EQUAL TOaPRECEDES ABOVE ALMOST EQUAL TOaSUCCEEDS ABOVE ALMOST EQUAL TOaPRECEDE
S ABOVE NOT ALMOST EQUAL TOaSUCCEEDS ABOVE NOT ALMOST EQUAL TOaDOUBLE PRECEDEShSUCCEEDSaSUBSET WIT
H DOTcPERSET WITH DOTcBSET WITH PLUS SIGN BELOWcPERSET WITH PLUS SIGN BELOWcBSET WITH MULTIPLICATI
ON SIGN BELOWcPERSET WITH MULTIPLICATION SIGN BELOWcBSET OF OR EQUAL TO WITH DOT ABOVEcPERSET OF O
R EQUAL TO WITH DOT ABOVEcBSET OF ABOVE EQUALS SIGNcPERSET OF ABOVE EQUALS SIGNcBSET OF ABOVE TILD
E OPERATORcPERSET OF ABOVE TILDE OPERATORcBSET OF ABOVE ALMOST EQUAL TOcPERSET OF ABOVE ALMOST EQU
AL TOcBSET OF ABOVE NOT EQUAL TOcPERSET OF ABOVE NOT EQUAL TObQUARE LEFT OPEN BOX OPERATORhRIGHT O
PEN BOX OPERATORaCLOSED SUBSETjPERSETjBSET OR EQUAL TOjPERSET OR EQUAL TOaSUBSET ABOVE SUPERSETcPE
RSET ABOVE SUBSETcBSET ABOVE SUBSETcPERSET ABOVE SUPERSETjBESIDE SUBSETqAND JOINED BY DASH WITH SU
BSETaELEMENT OF OPENING DOWNWARDSaPITCHFORK WITH TEE TOPaTRANSVERSAL INTERSECTIONaFORKINGaNONFORKI
NGaSHORT LEFT TACKgDOWN TACKgUP TACKaPERPENDICULAR WITH SaVERTICAL BAR TRIPLE RIGHT TURNSTILEaDOUB
LE VERTICAL BAR LEFT TURNSTILEaVERTICAL BAR DOUBLE LEFT TURNSTILEaDOUBLE VERTICAL BAR DOUBLE LEF
T TURNSTILEaLONG DASH FROM LEFT MEMBER OF DOUBLE VERTICALaSHORT DOWN TACK WITH OVERBARgUP TACK WIT
H UNDERBARoABOVE SHORT DOWN TACKaDOUBLE DOWN TACKhUP TACKhSTROKE NOT SIGNaREVERSED DOUBLE STROKE N
OT SIGNaDOES NOT DIVIDE WITH REVERSED NEGATION SLASHaVERTICAL LINE WITH CIRCLE ABOVE!BELOWaDOWN TA
CK WITH CIRCLE BELOWaPARALLEL WITH HORIZONTAL STROKEoTILDE OPERATORaTRIPLE VERTICAL BAR BINARY REL
ATIONuWITH HORIZONTAL STROKEhCOLON OPERATORhNESTED LESS-THANoGREATER-THANaDOUBLE-LINE SLANTED LESS
-THAN OR EQUAL TOuGREATER-THAN OR EQUAL TOaTRIPLE SOLIDUS BINARY RELATIONaLARGE TRIPLE VERTICAL BA
R OPERATORaDOUBLE SOLIDUS OPERATORaWHITE VERTICAL BARaN-ARY WHITE VERTICAL BARbORTH EAST WHITE ARR
OWgWEST WHITE ARROWaSOUTH EAST WHITE ARROWgWEST WHITE ARROWaLEFT RIGHT WHITE ARROWeWARDS BLACK ARR
OWaUPWARDS BLACK ARROWaDOWNWARDS BLACK ARROWaNORTH EAST BLACK ARROWgWEST BLACK ARROWaSOUTH EAST BL
ACK ARROWgWEST BLACK ARROWaLEFT RIGHT BLACK ARROWaUP DOWN BLACK ARROWaRIGHTWARDS ARROW WITH TIP DO
WNWARDS!UPWARDSaLEFTWARDS ARROW WITH TIP DOWNWARDSzUPWARDSaSQUARE WITH TOP HALF BLACKmBOTTOM HAL
F BLACKmUPPER RIGHT DIAGONAL HALF BLACKmLOWER LEFT DIAGONAL HALF BLACKaDIAMOND WITH LEFT HALF BLAC
KnRIGHT HALF BLACKnTOP HALF BLACKnBOTTOM HALF BLACKbOTTED SQUAREaBLACK LARGE SQUAREaWHITE LARGE SQ
UAREaBLACK VERY SMALL SQUAREaWHITE VERY SMALL SQUAREaBLACK PENTAGONaWHITE PENTAGONgHEXAGONaBLACK H
EXAGONaHORIZONTAL BLACK HEXAGONaBLACK LARGE CIRCLEgMEDIUM DIAMONDaWHITE MEDIUM DIAMONDaBLACK MEDIU
M LOZENGEaWHITE MEDIUM LOZENGEaBLACK SMALL DIAMONDmLOZENGEaWHITE SMALL LOZENGEaBLACK HORIZONTAL EL
LIPSEaWHITE HORIZONTAL ELLIPSEaBLACK VERTICAL ELLIPSEaWHITE VERTICAL ELLIPSEaLEFT ARROW WITH SMAL
L CIRCLEaTHREE LEFTWARDS ARROWSaLEFT ARROW WITH CIRCLED PLUSbONG LEFTWARDS SQUIGGLE ARROWbEFTWARD
S TWO-HEADED ARROW WITH VERTICAL STROKE.DOUBLE VERTICAL STROKE$FROM BARvTRIPLE DASH ARROWkARROW WI
TH DOTTED STEMvTAIL WITH VERTICAL STROKE,DOUBLE VERTICAL STROKEkTWO-HEADED ARROW WITH TAIL^ WITH V
ERTICAL STROKE~TH DOUBLE VERTICAL STROKEkARROW THROUGH XaWAVE ARROW POINTING DIRECTLY LEFTaEQUAL
S SIGN ABOVE LEFTWARDS ARROWaREVERSE TILDE OPERATOR ABOVE LEFTWARDS ARROWaLEFTWARDS ARROW ABOVE RE
VERSE ALMOST EQUAL TOaRIGHTWARDS ARROW THROUGH GREATER-THANzSUPERSETaLEFTWARDS QUADRUPLE ARROWaRIG
HTWARDS QUADRUPLE ARROWbEVERSE TILDE OPERATOR ABOVE RIGHTWARDS ARROWbIGHTWARDS ARROW ABOVE REVERS
E ALMOST EQUAL TOaTILDE OPERATOR ABOVE LEFTWARDS ARROWaLEFTWARDS ARROW ABOVE ALMOST EQUAL TOwREVER
SE TILDE OPERATORaRIGHTWARDS ARROW ABOVE REVERSE TILDE OPERATORaDOWNWARDS TRIANGLE-HEADED ZIGZAG A
RROWaSHORT SLANTED NORTH ARROWgBACKSLANTED SOUTH ARROWaWHITE MEDIUM STARaBLACK SMALL STARaWHITE SM
ALL STARaBLACK RIGHT-POINTING PENTAGONaWHITE RIGHT-POINTING PENTAGONaHEAVY LARGE CIRCLEgOVAL WIT
H OVAL INSIDEgCIRCLE WITH CIRCLE INSIDEmmD SALTIREaSLANTED NORTH ARROW WITH HOOKED HEADaBACKSLANTE
D SOUTH ARROW WITH HOOKED TAILaSLANTED NORTH ARROW WITH HORIZONTAL TAILaBACKSLANTED SOUTH ARROW WI
TH HORIZONTAL TAILbENT ARROW POINTING DOWNWARDS THEN NORTH EASTaSHORT BENT ARROW POINTING DOWNWARD
S THEN NORTH EASTaLEFTWARDS TRIANGLE-HEADED ARROWaUPWARDS TRIANGLE-HEADED ARROWaRIGHTWARDS TRIANGL
E-HEADED ARROWaDOWNWARDS TRIANGLE-HEADED ARROWaLEFT RIGHT TRIANGLE-HEADED ARROWaUP DOWN TRIANGLE-H
EADED ARROWaNORTH WEST TRIANGLE-HEADED ARROWgEAST TRIANGLE-HEADED ARROWaSOUTH EAST TRIANGLE-HEADE
D ARROWgWEST TRIANGLE-HEADED ARROWaLEFTWARDS TRIANGLE-HEADED DASHED ARROWaUPWARDS TRIANGLE-HEADE
D DASHED ARROWaRIGHTWARDS TRIANGLE-HEADED DASHED ARROWaDOWNWARDS TRIANGLE-HEADED DASHED ARROWaCLOC
KWISE TRIANGLE-HEADED OPEN CIRCLE ARROWaANTICLOCKWISE TRIANGLE-HEADED OPEN CIRCLE ARROWaLEFTWARD
S TRIANGLE-HEADED ARROW TO BARaUPWARDS TRIANGLE-HEADED ARROW TO BARaRIGHTWARDS TRIANGLE-HEADED ARR
OW TO BARaDOWNWARDS TRIANGLE-HEADED ARROW TO BAR@2B76;aNORTH WEST TRIANGLE-HEADED ARROW TO BARgEAS
T TRIANGLE-HEADED ARROW TO BARaSOUTH EAST TRIANGLE-HEADED ARROW TO BARgWEST TRIANGLE-HEADED ARRO
W TO BARaLEFTWARDS TRIANGLE-HEADED ARROW WITH DOUBLE HORIZONTAL STROKEaUPWARDS TRIANGLE-HEADED ARR
OW WITH DOUBLE HORIZONTAL STROKEaRIGHTWARDS TRIANGLE-HEADED ARROW WITH DOUBLE HORIZONTAL STROKEaDO
WNWARDS TRIANGLE-HEADED ARROW WITH DOUBLE HORIZONTAL STROKEaHORIZONTAL TAB KEYaVERTICAL TAB KEYaLE
FTWARDS TRIANGLE-HEADED ARROW OVER RIGHTWARDS TRIANGLE-HEADED ARROWaUPWARDS TRIANGLE-HEADED ARRO
W LEFTWARDS OF DOWNWARDS TRIANGLE-HEADED ARROWaRIGHTWARDS TRIANGLE-HEADED ARROW OVER LEFTWARDS TRI
ANGLE-HEADED ARROWaDOWNWARDS TRIANGLE-HEADED ARROW LEFTWARDS OF UPWARDS TRIANGLE-HEADED ARROWaLEFT
WARDS TRIANGLE-HEADED PAIRED ARROWSaUPWARDS TRIANGLE-HEADED PAIRED ARROWSaRIGHTWARDS TRIANGLE-HEAD
ED PAIRED ARROWSaDOWNWARDS TRIANGLE-HEADED PAIRED ARROWSaLEFTWARDS BLACK CIRCLED WHITE ARROWaUPWAR
DS BLACK CIRCLED WHITE ARROWaRIGHTWARDS BLACK CIRCLED WHITE ARROWaDOWNWARDS BLACK CIRCLED WHITE AR
ROWaANTICLOCKWISE TRIANGLE-HEADED RIGHT U-SHAPED ARROW+BOTTOM U-SHAPED ARROW+LEFT U-SHAPED ARROW+T
OP U-SHAPED ARROWaRETURN LEFThRIGHTaNEWLINE LEFTiRIGHTaFOUR CORNER ARROWS CIRCLING ANTICLOCKWISEaR
IGHTWARDS BLACK ARROW@2B97;aSYMBOL FOR TYPE A ELECTRONICSaTHREE-D TOP-LIGHTED LEFTWARDS EQUILATERA
L ARROWHEADiRIGHT-LIGHTED UPWARDS EQUILATERAL ARROWHEADiTOP-LIGHTED RIGHTWARDS EQUILATERAL ARROWHE
ADiLEFT-LIGHTED DOWNWARDS EQUILATERAL ARROWHEADaBLACK LEFTWARDS EQUILATERAL ARROWHEADgUPWARDS EQUI
LATERAL ARROWHEADgRIGHTWARDS EQUILATERAL ARROWHEADgDOWNWARDS EQUILATERAL ARROWHEADaDOWNWARDS TRIAN
GLE-HEADED ARROW WITH LONG TIP LEFTWARDS~NG TIP RIGHTWARDSaUPWARDS TRIANGLE-HEADED ARROW WITH LON
G TIP LEFTWARDS~ TIP RIGHTWARDSaLEFTWARDS TRIANGLE-HEADED ARROW WITH LONG TIP UPWARDSaRIGHTWARDS T
RIANGLE-HEADED ARROW WITH LONG TIP UPWARDSaLEFTWARDS TRIANGLE-HEADED ARROW WITH LONG TIP DOWNWARDS
aRIGHTWARDS TRIANGLE-HEADED ARROW WITH LONG TIP DOWNWARDSaBLACK CURVED DOWNWARDS AND LEFTWARDS ARR
OW$RIGHTWARDS ARROWnUPWARDS AND LEFTWARDS ARROWzRIGHTWARDS ARROWnLEFTWARDS AND UPWARDS ARROWnRIGHT
WARDS AND UPWARDS ARROWnLEFTWARDS AND DOWNWARDS ARROWnRIGHTWARDS AND DOWNWARDS ARROWaRIBBON ARRO
W DOWN LEFTsRIGHTnUP LEFTqRIGHTnLEFT UPnRIGHT UPnLEFT DOWNnRIGHT DOWNaUPWARDS WHITE ARROW FROM BA
R WITH HORIZONTAL BARc ARROWHEAD IN A RECTANGLE BOXaOVERLAPPING WHITE SQUARESsAND BLACK SQUARESmBL
ACK SQUARESaBALLOT BOX WITH LIGHT XaCIRCLED XiBOLD XaBLACK SQUARE CENTREDgDIAMOND CENTREDaTURNED B
LACK PENTAGONaHORIZONTAL BLACK OCTAGONaBLACK OCTAGONgMEDIUM UP-POINTING TRIANGLE CENTREDnDOWN-POIN
TING TRIANGLE CENTREDnLEFT-POINTING TRIANGLE CENTREDnRIGHT-POINTING TRIANGLE CENTREDaNEPTUNE FOR
M TWOaTOP HALF BLACK CIRCLEaBOTTOM HALF BLACK CIRCLEaLIGHT FOUR POINTED BLACK CUSPaROTATED LIGHT F
OUR POINTED BLACK CUSPaWHITE FOUR POINTED CUSPaROTATED WHITE FOUR POINTED CUSPaSQUARE POSITION IND
ICATORaUNCERTAINTY SIGNaGROUP MARKaPLUTO FORM TWOmHREElFOURmIVEaTRANSPLUTOaPROSERPINAaASTRAEAaHYGI
EAaPHOLUSaNESSUSaWHITE MOON SELENAaBLACK DIAMOND ON CROSSaTRUE LIGHT MOON ARTAaCUPIDOaHADESaZEUSaK
RONOSaAPOLLONbDMETOSaVULCANUSaPOSEIDONaLEFT HALF BLACK STARaRIGHT HALF BLACK STARaSTAR WITH LEFT H
ALF BLACKkRIGHT HALF BLACKaLEFTWARDS TWO-HEADED ARROW WITH TRIANGLE ARROWHEADSaUPWARDS TWO-HEADE
D ARROW WITH TRIANGLE ARROWHEADSaRIGHTWARDS TWO-HEADED ARROW WITH TRIANGLE ARROWHEADSaDOWNWARDS TW
O-HEADED ARROW WITH TRIANGLE ARROWHEADSaERIS FORM ONEkTWOaSEDNAaRUSSIAN ASTROLOGICAL SYMBOL VIGINT
ILE%NOVILE%QUINTILE%BINOVILE%SENTAGON%TREDECILEaEQUALS SIGN WITH INFINITY BELOWaUNITED SYMBOLaSEPA
RATED SYMBOLaDOUBLED SYMBOLaPASSED SYMBOLaREVERSED RIGHT ANGLEaHELLSCHREIBER PAUSE SYMBOL
"

end TargetedConfig.Text.Name
