/-! # Names of signs of scores, shorthand and mathematics -/

namespace TargetedConfig.Text.Name

/-- Kana supplements, shorthand, music, mathematical letters, sign writing and their neighbours. -/
def signs : String := "
@1AFF0;aKATAKANA LETTER MINNAN TONE-2%3%4%5@1AFF5;%7%8xNASALIZED TONE-1|2|3|4|5@1AFFD;|7|8@1B000;q
ARCHAIC EaHIRAGANA LETTER ARCHAIC YEbENTAIGANA LETTER A-1u2u3uWOsI-1u2u3u4sU-1u2u3u4u5sE-2u3u4u5u6
sO-1u2u3sKA-1v2v3v4v5v6v7v8v9v10w1vKEtI-1v2v3v4v5v6v7v8tU-1v2v3v4v5v6v7tE-1v2v3v4v5v6tO-1v2v3vKIsS
A-1v2v3v4v5v6v7v8tI-1v2v3v4v5v6tU-1v2v3v4v5v6v7v8tE-1v2v3v4v5tO-1v2v3v4v5v6v7sTA-1v2v3v4tI-1v2v3v4
v5v6v7tU-1v2v3v4vTOtE-1v2v3v4v5v6v7v8v9tO-1v2v3v4v5v6vRAsNA-1v2v3v4v5v6v7v8v9tI-1v2v3v4v5v6v7vTEtU
-1v2v3tE-1v2v3v4v5v6vKOtO-1v2v3v4v5sHA-1v2v3v4v5v6v7v8v9v10w1tI-1v2v3v4v5v6v7tU-1v2v3tE-1v2v3v4v5v
6v7tO-1v2v3v4v5v6v7v8sMA-1v2v3v4v5v6v7tI-1v2v3v4v5v6v7tU-1v2v3v4tE-1v2vMAtO-1v2v3v4v5v6sYA-1v2v3v4
v5vYOtU-1v2v3v4tO-1v2v3v4v5v6sRA-1v2v3v4tI-1v2v3v4v5v6v7tU-1v2v3v4v5v6tE-1v2v3v4tO-1v2v3v4v5v6sWA-
1v2v3v4v5tI-1v2v3v4v5tE-1v2v3v4tO-1v2v3v4v5v6v7sN-MU-MO-1!2bIRAGANA LETTER ARCHAIC WUaKATAKANA LET
TER ARCHAIC YIzEyWU@1B150;aHIRAGANA LETTER SMALL WIxExO@1B164;aKATAKANA LETTER SMALL WIxExOwN@1B17
0;aNUSHU CHARACTER-1B170u1u2u3u4u5u6u7u8u9uAuBuCuDuEuFt80u1u2u3u4u5u6u7u8u9uAuBuCuDuEuFt90u1u2u3u4
u5u6u7u8u9uAuBuCuDuEuFtA0u1u2u3u4u5u6u7u8u9uAuBuCuDuEuFtB0u1u2u3u4u5u6u7u8u9uAuBuCuDuEuFtC0u1u2u3u
4u5u6u7u8u9uAuBuCuDuEuFtD0u1u2u3u4u5u6u7u8u9uAuBuCuDuEuFtE0u1u2u3u4u5u6u7u8u9uAuBuCuDuEuFtF0u1u2u3
u4u5u6u7u8u9uAuBuCuDuEuFs200u1u2u3u4u5u6u7u8u9uAuBuCuDuEuFt10u1u2u3u4u5u6u7u8u9uAuBuCuDuEuFt20u1u2
u3u4u5u6u7u8u9uAuBuCuDuEuFt30u1u2u3u4u5u6u7u8u9uAuBuCuDuEuFt40u1u2u3u4u5u6u7u8u9uAuBuCuDuEuFt50u1u
2u3u4u5u6u7u8u9uAuBuCuDuEuFt60u1u2u3u4u5u6u7u8u9uAuBuCuDuEuFt70u1u2u3u4u5u6u7u8u9uAuBuCuDuEuFt80u1
u2u3u4u5u6u7u8u9uAuBuCuDuEuFt90u1u2u3u4u5u6u7u8u9uAuBuCuDuEuFtA0u1u2u3u4u5u6u7u8u9uAuBuCuDuEuFtB0u
1u2u3u4u5u6u7u8u9uAuBuCuDuEuFtC0u1u2u3u4u5u6u7u8u9uAuBuCuDuEuFtD0u1u2u3u4u5u6u7u8u9uAuBuCuDuEuFtE0
u1u2u3u4u5u6u7u8u9uAuBuCuDuEuFtF0u1u2u3u4u5u6u7u8u9uAuB@1BC00;aDUPLOYAN LETTER HqXqPqTqFqKqLqBqDqV
qGqRqP NqD SqF NqK MqR SqTHqSLOAN DHqDHqKKqSLOAN JqHLqLHqRHqMqNqJqSqM NqN MqJ MqS JqM WITH DOTqN W
ITH DOTqJ WITH DOT!S INSIDE AND ABOVEqS WITH DOT! BELOWqM SqN SqJ SqS SqM N SqN M SqJ M SqS J Sq
J S WITH DOTsNt SqS Tt RsPt RqT SsR SqWrHr RqS NsMqK R SqG R SqS Kt RqAqSLOAN OWqOArqAOUqIqEqIEqSH
ORT IqUIqEEqSLOAN EHqROMANIAN IqSLOAN EEqLONG IqYEqUqEUqXWqU NqLONG UqROMANIAN UqUHqSLOAN UqOOHrWr
UqWArOrIrEIrOWqNASAL UwOwIwAqPERNIN ANyMqSLOAN ENwANwONqVOCALIC M@1BC70;jAFFIX LEFT HORIZONTAL SEC
ANTpMID HORIZONTAL SECANTpRIGHT HORIZONTAL SECANTpLOW VERTICAL SECANTpMID VERTICAL SECANTpHIGH VER
TICAL SECANTpATTACHED SECANTyLEFT-TO-RIGHT SECANTyTANGENT!ILyE HOOKyI HOOKyTANGENT HOOK@1BC80;pHIG
H ACUTEuTIGHT ACUTEuGRAVEuLONG GRAVEuDOTuCIRCLEuLINEuWAVEuVERTICAL@1BC90;pLOW ACUTEtTIGHT ACUTEtGR
AVEtLONG GRAVEtDOTtCIRCLEtLINEtWAVEtVERTICALtARROW@1BC9C;jSIGN O WITH CROSSjTHICK LETTER SELECTORj
DOUBLE MARKjPUNCTUATION CHINOOK FULL STOPaSHORTHAND FORMAT LETTER OVERLAPrCONTINUING OVERLAPrDOW
N STEPrUP STEP@1CF00;aZNAMENNY COMBINING MARK GORAZDO NIZKO S KRYZHEM ON LEFTyNIZKO S KRYZHEM ON L
EFTyTSATA ON LEFTyGORAZDO NIZKO ON LEFTyNIZKO ON LEFTySREDNE ON LEFTyMALO POVYSHE ON LEFTyPOVYSH
E ON LEFTyVYSOKO ON LEFTyMALO POVYSHE S KHOKHLOM ON LEFTyPOVYSHE S KHOKHLOM ON LEFTyVYSOKO S KHOKH
LOM ON LEFTyGORAZDO NIZKO S KRYZHEM ON RIGHTyNIZKO S KRYZHEM ON RIGHTyTSATA ON RIGHTyGORAZDO NIZK
O ON RIGHTyNIZKO ON RIGHTySREDNE ON RIGHTyMALO POVYSHE ON RIGHTyPOVYSHE ON RIGHTyVYSOKO ON RIGHTyM
ALO POVYSHE S KHOKHLOM ON RIGHTyPOVYSHE S KHOKHLOM ON RIGHTyVYSOKO S KHOKHLOM ON RIGHTyTSATA S KRY
ZHEMyMALO POVYSHE S KRYZHEMySTRANNO MALO POVYSHEyPOVYSHE S KRYZHEM<TRANNOyVYSOKO S KRYZHEMyMALO PO
VYSHE STRANNOyGORAZDO VYSOKOyZELOyONyRAVNOyTIKHAYAyBORZAYAyUDARKAyPODVERTKAyLOMKAyKUPNAYAzACHKAyZE
VOKySKOBAyRAZSEKAyKRYZH ON LEFT@1CF30;tTONAL RANGE MARK MRACHNO^SVETLO^TRESVETLOtMARK ZADERZHKAyDE
MESTVENNY ZADERZHKAyOTSECHKAyPODCHASHIE> WITH VERTICAL STROKEyCHASHKA, POLNAYAyOBLACHKOySOROCHYA N
OZHKAyTOCHKAyDVOETOCHIEtATTACHING VERTICAL OMETtMARK CURVED OMETyKRYZHtLOWER TONAL RANGE INDICATOR
jPRIZNAK MODIFIER LEVEL-2.3!DIRECTION FLIP!KRYZH!ROG@1CF50;jNEUME KRYUKu TIKHYpPARAKLITpDVA V CHEL
NUpKLYUCHpZANOZHEKpSTOPITSAx S OCHKOMpPEREVODKAy NEPOSTOYANNAYApSTOPITSA WITH SOROCHYA NOZHKApCHEL
YUSTKApPALKApZAPYATAYApGOLUBCHIK BORZYzTIKHYzMRACHNYzSVETLYzTRESVETLYpVRAKHIYA PROSTAYAyMRACHNAYAy
SVETLAYAyTRESVETLAYAyKLYUCHEVAYA PROSTAYA^MRACHNAYA^SVETLAYA^TRESVETLAYApDOUBLE ZAPYATAYApREVERSE
D CHELYUSTKApDERBITSApKHAMILOpCHASHKApPODCHASHIEpSKAMEYTSA MRACHNAYAzSVETLAYAzTRESVETLAYA!IKHAYApD
EMESTVENNY KLYUCHpSKAMEYTSA KLYUCHEVAYA SVETLAYA.NEPOSTOYANNAYA.VAYA TIKHAYAzDVOECHELNAYA PROSTAYA
|SVETLAYA|NEPOSTOYANNAYA|KLYUCHEVAYAqLOZHITIEy S ZAPYATOYzZAKRYTOEzS KRYZHEMpKRYZHpROGpFITApKOBYLA
pZMEYTSApSTATYAv S ZAPYATOYyKRYZHEMyZAPYATOY I KRYZHEMyKRYZHEM I ZAPYATOYwZAKRYTAYA, S ZAPYATOYw
S ROGOMyDVUMYA ZAPYATYMIyZAPYATOY I PODCHASHIEMpPOLKULIZMYpSTATYA NEPOSTOYANNAYArRELA PROSTAYAwMRA
CHNOTIKHAYAwKRYZHEVAYAwPOLUPOVODNAYAyVODNAYAwNEPOSTOYANNAYAwKLYUCHEPOVODNAYA&NEPOSTOYANNAYAwTIKHAY
A PUTNAYAwDVOECHELNAYA,OKRYZHEVAYA.POVODNAYA,AYA KLYUCHEVAYA,OPOVODNAYA KLYUCHEVAYAwGROMNAYA WIT
H SINGLE ZAPYATAYA!OPOVODNAYA WITH SINGLE ZAPYATAYA!NAYA!OPOVODNAYA^ WITH DOUBLE ZAPYATAYA$KRYZHEV
AYA_ POVODNAYApMECHIKv POVODNYwKLYUCHEVOY&POVODNY&NEPOSTOYANNYpSTRELA TRYASOGLASNAYA%POVODNAYA%STR
ELNAYApOSOKAu SVETLAYAvTRESVETLAYAvKRYUKOVAYA SVETLAYAwLYUCHEVAYA SVETLAYA<NEPOSTOYANNAYApSTRELA K
RYUKOVAYA. POVODNAYA<GROMNAYA WITH SINGLE ZAPYATAYA_OPOVODNAYA WITH SINGLE ZAPYATAYA_NAYA_OPOVODNA
YA~OVODNAYA WITH DOUBLE ZAPYATAYA|KRYZHEVAYA~RYZHEVAYA POVODNAYA<TRYASKApKUFISMApOBLAKOpDUDApNEMKA
pPAUK@1D000;aBYZANTINE MUSICAL SYMBOL PSILIzDASEIAzPERISPOMENIzOXEIA EKFONITIKON,DIPLIzVAREIA EKFO
NITIKON.DIPLIzKATHISTIzSYRMATIKIzPARAKLITIKIzYPOKRISIS> DIPLIzKREMASTIzAPESO EKFONITIKONzEXO EKFON
ITIKONzTELEIAzKENTIMATAzAPOSTROFOS? DIPLIzSYNEVMAzTHITAzOLIGON ARCHAIONzGORGON ARCHAIONzPSILONzCHA
MILONzVATHYzISON ARCHAIONzKENTIMA ARCHAION.TA ARCHAIONzSAXIMATAzPARICHONzSTAVROS APODEXIAzOXEIAI A
RCHAIONzVAREIAI ARCHAIONzAPODERMA ARCHAION%THEMAzKLASMAzREVMAzPIASMA ARCHAIONzTINAGMAzANATRICHISMA
zSEISMA!YNAGMA ARCHAION<META STAVROUzOYRANISMA ARCHAIONzTHEMAzLEMOIzDYOzTRIA!ESSERAzKRATIMATAzAPES
O EXO NEOzFTHORA ARCHAIONzIMIFTHORAzTROMIKON ARCHAIONzKATAVA TROMIKONzPELASTON!SIFISTONzKONTEVMAzC
HOREVMA ARCHAIONzRAPISMAzPARAKALESMA ARCHAION+LITIKI ARCHAIONzICHADINzNANAzPETASMAzKONTEVMA ALLOzT
ROMIKON ALLOzSTRAGGISMATAzGRONTHISMATAzISON NEOzOLIGON NEO!XEIA NEOzPETASTIzKOUFISMAzPETASTOKOUFIS
MAzKRATIMOKOUFISMAzPELASTON NEOzKENTIMATA NEO ANO. NEO ANOzYPSILIzAPOSTROFOS NEO>I SYNDESMOS NEOzY
PORROIzKRATIMOYPORROONzELAFRONzCHAMILIzMIKRON ISONzVAREIA NEOzPIASMA NEO!SIFISTON NEOzOMALONzANTIK
ENOMAzLYGISMAzPARAKLITIKI NEO+ALESMA NEOzETERON PARAKALESMAzKYLISMAzANTIKENOKYLISMAzTROMIKON NEOzE
KSTREPTONzSYNAGMA NEO$RMAzCHOREVMA NEOzEPEGERMAzSEISMA NEOzXIRON KLASMAzTROMIKOPSIFISTONzPSIFISTOL
YGISMAzTROMIKOLYGISMA.PARAKALESMAzPSIFISTOPARAKALESMAzTROMIKOSYNAGMAzPSIFISTOSYNAGMAzGORGOSYNTHETO
NzARGOSYNTHETONzETERON ARGOSYNTHETONzOYRANISMA NEOzTHEMATISMOS ESO|XO+ APLOUN%S KAI APOTHESzKATAVA
SMAzENDOFONONzYFEN KATO+ANOzSTAVROSzKLASMA ANOzDIPLI ARCHAIONzKRATIMA ARCHAION>LLO<NEOzAPODERMA NE
O$LIzDIPLIzTRIPLI!ETRAPLIzKORONISzLEIMMA ENOS CHRONOU.DYO CHRONON.TRION CHRONON<ESSARON CHRONON.IM
ISEOS CHRONOUzGORGON NEO ANO.PARESTIGMENON ARISTERA~GMENON DEXIAzDIGORGON< PARESTIGMENON ARISTER
A KATO~TIGMENON ARISTERA ANO~TIGMENON DEXIAzTRIGORGONzARGONzIMIDIARGONzDIARGONzAGOGI POLI ARGI,ARG
OTERI>I,METRIA<SI,GORGI?OTERI,POLI GORGIzMARTYRIA PROTOS ICHOS>ALLI PROTOS ICHOS>DEYTEROS ICHOS>AL
LI DEYTEROS ICHOS>TRITOS ICHOS_FONIAS?ETARTOS ICHOS~TOS LEGETOS ICHOS>LEGETOS ICHOS>PLAGIOS ICHOSz
ISAKIA TELOUS ICHIMATOSzAPOSTROFOI TELOUS ICHIMATOSzFANEROSIS TETRAFONIAS?MONOFONIAS?DIFONIASzMART
YRIA VARYS ICHOS>PROTOVARYS ICHOS?LAGIOS TETARTOS ICHOSzGORTHMIKON N APLOUN|DIPLOUNzENARXIS KAI FT
HORA VOUzIMIFONON&THORONzFTHORA ARCHAION DEYTEROU ICHOU.DIATONIKI PA~KI NANA.NAOS ICHOS.DIATONIK
I DI.SKLIRON DIATONON DI.DIATONIKI KE~KI ZO~KI NI KATO~KI NI ANO.MALAKON CHROMA DIFONIAS~ CHROMA M
ONOFONIAS!HTORA SKLIRON CHROMA VASIS!THORA SKLIRON CHROMA SYNAFI.NENANOzCHROA ZYGOS,KLITON,SPATHIz
FTHORA I YFESIS TETARTIMORION.ENARMONIOS ANTIFONIAzYFESIS TRITIMORIONzDIESIS TRITIMORION<ETARTIMOR
ION.APLI DYO DODEKATA.MONOGRAMMOS TESSERA DODEKATA.DIGRAMMOS EX DODEKATA.TRIGRAMMOS OKTO DODEKATAz
YFESIS APLI DYO DODEKATA.MONOGRAMMOS TESSERA DODEKATA.DIGRAMMOS EX DODEKATA.TRIGRAMMOS OKTO DODEKA
TAzGENIKI DIESIS.YFESISzDIASTOLI APLI MIKRI~MEGALI>DIPLI>THESEOSzSIMANSIS THESEOS~OS DISIMOU~OS TR
ISIMOU~OS TETRASIMOU>ARSEOS~S DISIMOU~S TRISIMOU~S TETRASIMOUzDIGRAMMA GG$FTOGGOS OUzSTIGMAzARKTIK
O PA<VOU<GA<DI<KE<ZO<NIzKENTIMATA NEO MESO. NEO MESO.TA NEO KATO. NEO KATO!LASMA KATOzGORGON NEO K
ATO@1D100;aMUSICAL SYMBOL SINGLE BARLINEpDOUBLE BARLINEpFINAL BARLINEpREVERSE FINAL BARLINEpDASHE
D BARLINEpSHORT BARLINEpLEFT REPEAT SIGNpRIGHT REPEAT SIGNqEPEAT DOTSpDAL SEGNOr CAPOpSEGNOpCODApR
EPEATED FIGURE-1,2,3pFERMATAw BELOWpBREATH MARKpCAESURApBRACEtKETpONE-LINE STAFFpTWO-LINE STAFFqHR
EE-LINE STAFFpFOUR-LINE STAFFqIVE-LINE STAFFpSIX-LINE STAFFtSTRING FRETBOARDpFOUR-STRING FRETBOARD
pG CLEFv OTTAVA ALTA&BASSApC CLEFpF CLEFv OTTAVA ALTA&BASSApDRUM CLEF-1z2@1D129;pMULTIPLE MEASUR
E RESTpDOUBLE SHARPwFLATpFLAT UPuDOWNpNATURAL UPxDOWNpSHARP UPvDOWNpQUARTER TONE SHARP%FLATpCOMMO
N TIMEqUT TIMEpOTTAVA ALTAwBASSApQUINDICESIMA ALTA%BASSApMULTI RESTpWHOLE RESTpHALF RESTpQUARTER R
ESTpEIGHTH RESTpSIXTEENTH RESTpTHIRTY-SECOND RESTpSIXTY-FOURTH RESTpONE HUNDRED TWENTY-EIGHTH REST
pX NOTEHEADpPLUS NOTEHEADpCIRCLE X NOTEHEADpSQUARE NOTEHEAD WHITE,BLACKpTRIANGLE NOTEHEAD UP WHITE
^BLACK<LEFT WHITE|BLACK<RIGHT WHITE~BLACK<DOWN WHITE|BLACK<UP RIGHT WHITE~HT BLACKpMOON NOTEHEAD W
HITE&BLACKpTRIANGLE-ROUND NOTEHEAD DOWN WHITE~DOWN BLACKpPARENTHESIS NOTEHEADpVOID NOTEHEADpNOTEHE
AD BLACKqULL NOTEHEADpCLUSTER NOTEHEAD WHITE.BLACKpBREVEpWHOLE NOTEpHALF NOTEpQUARTER NOTEpEIGHT
H NOTEpSIXTEENTH NOTEpTHIRTY-SECOND NOTEpSIXTY-FOURTH NOTEpONE HUNDRED TWENTY-EIGHTH NOTEpCOMBININ
G STEM!PRECHGESANG STEMzTREMOLO-1<2<3pFINGERED TREMOLO-1.2.3pCOMBINING AUGMENTATION DOTzFLAG-1+2+3
+4+5pBEGIN BEAMpEND BEAMpBEGIN TIEpEND TIEpBEGIN SLURpEND SLURpBEGIN PHRASEpEND PHRASEpCOMBINING A
CCENTzSTACCATOzTENUTOzSTACCATISSIMOzMARCATO.-STACCATOzACCENT-STACCATOzLOUREpARPEGGIATO UP!DOWNpCOM
BINING DOITzRIPzFLIPzSMEARzBENDzDOUBLE TONGUEzTRIPLE TONGUEpRINFORZANDOpSUBITOpZpPIANOpMEZZOpFORTE
pCRESCENDOpDECRESCENDOpGRACE NOTE SLASH!NO SLASHpTRqURNpINVERTED TURNpTURN SLASHuUPpORNAMENT STROK
E-1,2,3,4,5,6,7,8,9,10.1pHAUPTSTIMMEpNEBENSTIMMEpEND OF STIMMEpDEGREE SLASHpCOMBINING DOWN BOWzU
P BOWzHARMONICzSNAP PIZZICATOpPEDAL MARKvUP MARKpHALF PEDAL MARKpGLISSANDO UPzDOWNpWITH FINGERNAIL
SpDAMPt ALLpMAXIMApLONGApBREVISpSEMIBREVIS WHITE!BLACKpMINIMAv BLACKpSEMIMINIMA WHITE!BLACKpFUSA W
HITEuBLACKpLONGA PERFECTA RESTvIMPERFECTA RESTpBREVIS RESTpSEMIBREVIS RESTpMINIMA RESTpSEMIMINIM
A RESTpTEMPUS PERFECTUM CUM PROLATIONE PERFECTA~LATIONE IMPERFECTA~LATIONE PERFECTA DIMINUTION-1wI
MPERFECTUM CUM PROLATIONE PERFECTA~ROLATIONE IMPERFECTA~ROLATIONE IMPERFECTA DIMINUTION-1~ROLATION
E IMPERFECTA DIMINUTION-2~ROLATIONE IMPERFECTA DIMINUTION-3pCROIXpGREGORIAN C CLEFzF CLEFpSQUARE B
pVIRGApPODATUSpCLIVISpSCANDICUSpCLIMACUSpTORCULUSpPORRECTUSy FLEXUSpSCANDICUS FLEXUSpTORCULUS RESU
PINUSpPES SUBPUNCTISpKIEVAN C CLEFwEND OF PIECEwFINAL NOTEwRECITATIVE MARKwWHOLE NOTEwHALF NOTEwQU
ARTER NOTE STEM DOWN~ UPwEIGHTH NOTE STEM DOWN~UPwFLAT SIGNpSORIpKORON@1D200;aGREEK VOCAL NOTATIO
N SYMBOL-1%2%3%4%5%6%7%8%9%10&1&2&3&4&5&6&7&8&9%20&1&2&3&4%50&1&2&3&4gINSTRUMENTAL NOTATION SYMBOL
-1?2?4?5?7?8?11^2^3^4^7^8^9?23^4^5^6^7^9?30^2^6^7^8^9?40^2^3^5^7^8^9?50^1^2^3^4aCOMBINING GREEK MU
SICAL TRISEMEzETRASEMEyPENTASEMEaGREEK MUSICAL LEIMMA@1D2E0;aMAYAN NUMERAL ZEROoONEoTWOpHREEoFOURp
IVEoSIXpEVENoEIGHToNINEoTENoELEVENoTWELVEpHIRTEENoFOURTEENpIFTEENoSIXTEENpEVENTEENoEIGHTEENoNINETE
EN@1D300;bONOGRAM FOR EARTHaDIGRAM FOR HEAVENLY EARTHmUMAN EARTHlEARTHLY HEAVENuUMANqaTETRAGRAM FO
R CENTREoFULL CIRCLEoMIREDoBARRIERoKEEPING SMALLoCONTRARIETYoASCENToOPPOSITIONoBRANCHING OUToDEFEC
TIVENESS OR DISTORTIONpIVERGENCEoYOUTHFULNESSoINCREASEoPENETRATIONoREACHoCONTACToHOLDING BACKoWAIT
INGoFOLLOWINGoADVANCEoRELEASEqSISTANCEoEASEoJOYoCONTENTIONoENDEAVOURoDUTIESoCHANGEoDECISIVENESSoBO
LD RESOLUTIONoPACKINGoLEGIONoCLOSENESSoKINSHIPoGATHERINGoSTRENGTHoPURITYoFULLNESSoRESIDENCEoLAW O
R MODELoRESPONSEoGOING TO MEEToENCOUNTERSoSTOVEoGREATNESSoENLARGEMENToPATTERNoRITUALoFLIGHToVASTNE
SS OR WASTINGoCONSTANCYoMEASUREoETERNITYoUNITYoDIMINISHMENToCLOSED MOUTHoGUARDEDNESSpATHERING INoM
ASSINGoACCUMULATIONoEMBELLISHMENToDOUBToWATCHoSINKINGoINNERoDEPARTUREpARKENINGpIMMINGoEXHAUSTIONoS
EVERANCEpTOPPAGEoHARDNESSoCOMPLETIONpLOSUREoFAILUREoAGGRAVATIONoCOMPLIANCEoON THE VERGEoDIFFICULTI
ESoLABOURINGoFOSTERING@1D360;aCOUNTING ROD UNIT DIGIT ONEyTWOzHREEyFOURzIVEySIXzEVENyEIGHTyNINEnTE
NS DIGIT ONEyTWOzHREEyFOURzIVEySIXzEVENyEIGHTyNINEaIDEOGRAPHIC TALLY MARK ONExTWOyHREExFOURyIVEaTA
LLY MARK ONElFIVE@1D400;aMATHEMATICAL BOLD CAPITAL A!B!C!D!E!F!G!H!I!J!K!L!M!N!O!P!Q!R!S!T!U!V!W!X
!Y!ZsSMALL AyByCyDyEyFyGyHyIyJyKyLyMyNyOyPyQyRySyTyUyVyWyXyYyZnITALIC CAPITAL A%B%C%D%E%F%G%H%I%J%
K%L%M%N%O%P%Q%R%S%T%U%V%W%X%Y%ZuSMALL A!B!C!D!E!F!G@1D456;!I!J!K!L!M!N!O!P!Q!R!S!T!U!V!W!X!Y!ZnBOL
D ITALIC CAPITAL A<B<C<D<E<F<G<H<I<J<K<L<M<N<O<P<Q<R<S<T<U<V<W<X<Y<ZzSMALL A,B,C,D,E,F,G,H,I,J,K,L
,M,N,O,P,Q,R,S,T,U,V,W,X,Y,ZnSCRIPT CAPITAL A@1D49E;%C%D@1D4A2;%G@1D4A5;%J%K@1D4A9;%N%O%P%Q@1D4AE;
%S%T%U%V%W%X%Y%ZuSMALL A!B!C!D@1D4BB;!F@1D4BD;!H!I!J!K!L!M!N@1D4C5;!P!Q!R!S!T!U!V!W!X!Y!ZnBOLD SCR
IPT CAPITAL A<B<C<D<E<F<G<H<I<J<K<L<M<N<O<P<Q<R<S<T<U<V<W<X<Y<ZzSMALL A,B,C,D,E,F,G,H,I,J,K,L,M,N,
O,P,Q,R,S,T,U,V,W,X,Y,ZnFRAKTUR CAPITAL A&B@1D507;&D&E&F&G@1D50D;&J&K&L&M&N&O&P&Q@1D516;&S&T&U&V&W
&X&Y@1D51E;vSMALL A$B$C$D$E$F$G$H$I$J$K$L$M$N$O$P$Q$R$S$T$U$V$W$X$Y$ZnDOUBLE-STRUCK CAPITAL A?B@1D
53B;?D?E?F?G@1D540;?I?J?K?L?M@1D546;?O@1D54A;?S?T?U?V?W?X?Y@1D552;$SMALL A<B<C<D<E<F<G<H<I<J<K<L<M
<N<O<P<Q<R<S<T<U<V<W<X<Y<ZnBOLD FRAKTUR CAPITAL A>B>C>D>E>F>G>H>I>J>K>L>M>N>O>P>Q>R>S>T>U>V>W>X>Y>
Z!SMALL A.B.C.D.E.F.G.H.I.J.K.L.M.N.O.P.Q.R.S.T.U.V.W.X.Y.ZnSANS-SERIF CAPITAL A.B.C.D.E.F.G.H.I.J
.K.L.M.N.O.P.Q.R.S.T.U.V.W.X.Y.ZySMALL A+B+C+D+E+F+G+H+I+J+K+L+M+N+O+P+Q+R+S+T+U+V+W+X+Y+ZyBOLD CA
PITAL A_B_C_D_E_F_G_H_I_J_K_L_M_N_O_P_Q_R_S_T_U_V_W_X_Y_Z&SMALL A?B?C?D?E?F?G?H?I?J?K?L?M?N?O?P?Q?
R?S?T?U?V?W?X?Y?ZyITALIC CAPITAL A~B~C~D~E~F~G~H~I~J~K~L~M~N~O~P~Q~R~S~T~U~V~W~X~Y~Z,SMALL A_B_C_D
_E_F_G_H_I_J_K_L_M_N_O_P_Q_R_S_T_U_V_W_X_Y_ZyBOLD ITALIC CAPITAL A~ITAL B~ITAL C~ITAL D~ITAL E~ITA
L F~ITAL G~ITAL H~ITAL I~ITAL J~ITAL K~ITAL L~ITAL M~ITAL N~ITAL O~ITAL P~ITAL Q~ITAL R~ITAL S~ITA
L T~ITAL U~ITAL V~ITAL W~ITAL X~ITAL Y~ITAL Z^SMALL A~LL B~LL C~LL D~LL E~LL F~LL G~LL H~LL I~LL J
~LL K~LL L~LL M~LL N~LL O~LL P~LL Q~LL R~LL S~LL T~LL U~LL V~LL W~LL X~LL Y~LL ZnMONOSPACE CAPITA
L A,B,C,D,E,F,G,H,I,J,K,L,M,N,O,P,Q,R,S,T,U,V,W,X,Y,ZxSMALL A&B&C&D&E&F&G&H&I&J&K&L&M&N&O&P&Q&R&S&
T&U&V&W&X&Y&ZnITALIC SMALL DOTLESS I>J@1D6A8;nBOLD CAPITAL ALPHA!BETA!GAMMA!DELTA!EPSILON!ZETA!ETA
!THETA!IOTA!KAPPA!LAMDA!MU!NU!XI!OMICRON!PI!RHO!THETA SYMBOL!SIGMA!TAU!UPSILON!PHI!CHI!PSI!OMEGAsN
ABLAsSMALL ALPHAyBETAyGAMMAyDELTAyEPSILONyZETAyETAyTHETAyIOTAyKAPPAyLAMDAyMUyNUyXIyOMICRONyPIyRHOy
FINAL SIGMAySIGMAyTAUyUPSILONyPHIyCHIyPSIyOMEGAsPARTIAL DIFFERENTIALsEPSILON SYMBOLsTHETA SYMBOLsK
APPA SYMBOLsPHI SYMBOLsRHO SYMBOLsPI SYMBOLnITALIC CAPITAL ALPHA%BETA%GAMMA%DELTA%EPSILON%ZETA%ETA
%THETA%IOTA%KAPPA%LAMDA%MU%NU%XI%OMICRON%PI%RHO%THETA SYMBOL%SIGMA%TAU%UPSILON%PHI%CHI%PSI%OMEGAuN
ABLAuSMALL ALPHA!BETA!GAMMA!DELTA!EPSILON!ZETA!ETA!THETA!IOTA!KAPPA!LAMDA!MU!NU!XI!OMICRON!PI!RHO!
FINAL SIGMA!SIGMA!TAU!UPSILON!PHI!CHI!PSI!OMEGAuPARTIAL DIFFERENTIALuEPSILON SYMBOLuTHETA SYMBOLuK
APPA SYMBOLuPHI SYMBOLuRHO SYMBOLuPI SYMBOLnBOLD ITALIC CAPITAL ALPHA<BETA<GAMMA<DELTA<EPSILON<ZET
A<ETA<THETA<IOTA<KAPPA<LAMDA<MU<NU<XI<OMICRON<PI<RHO<THETA SYMBOL<SIGMA<TAU<UPSILON<PHI<CHI<PSI<OM
EGAzNABLAzSMALL ALPHA,BETA,GAMMA,DELTA,EPSILON,ZETA,ETA,THETA,IOTA,KAPPA,LAMDA,MU,NU,XI,OMICRON,PI
,RHO,FINAL SIGMA,SIGMA,TAU,UPSILON,PHI,CHI,PSI,OMEGAzPARTIAL DIFFERENTIALzEPSILON SYMBOLzTHETA SYM
BOLzKAPPA SYMBOLzPHI SYMBOLzRHO SYMBOLzPI SYMBOLnSANS-SERIF BOLD CAPITAL ALPHA_BETA_GAMMA_DELTA_EP
SILON_ZETA_ETA_THETA_IOTA_KAPPA_LAMDA_MU_NU_XI_OMICRON_PI_RHO_THETA SYMBOL_SIGMA_TAU_UPSILON_PHI_C
HI_PSI_OMEGA&NABLA&SMALL ALPHA?BETA?GAMMA?DELTA?EPSILON?ZETA?ETA?THETA?IOTA?KAPPA?LAMDA?MU?NU?XI?O
MICRON?PI?RHO?FINAL SIGMA?SIGMA?TAU?UPSILON?PHI?CHI?PSI?OMEGA&PARTIAL DIFFERENTIAL&EPSILON SYMBOL&
THETA SYMBOL&KAPPA SYMBOL&PHI SYMBOL&RHO SYMBOL&PI SYMBOL&ITALIC CAPITAL ALPHA~ITAL BETA~ITAL GAMM
A~ITAL DELTA~ITAL EPSILON~ITAL ZETA~ITAL ETA~ITAL THETA~ITAL IOTA~ITAL KAPPA~ITAL LAMDA~ITAL MU~IT
AL NU~ITAL XI~ITAL OMICRON~ITAL PI~ITAL RHO~ITAL THETA SYMBOL~ITAL SIGMA~ITAL TAU~ITAL UPSILON~ITA
L PHI~ITAL CHI~ITAL PSI~ITAL OMEGA^NABLA^SMALL ALPHA~LL BETA~LL GAMMA~LL DELTA~LL EPSILON~LL ZETA~
LL ETA~LL THETA~LL IOTA~LL KAPPA~LL LAMDA~LL MU~LL NU~LL XI~LL OMICRON~LL PI~LL RHO~LL FINAL SIGMA
~LL SIGMA~LL TAU~LL UPSILON~LL PHI~LL CHI~LL PSI~LL OMEGA^PARTIAL DIFFERENTIAL^EPSILON SYMBOL^THET
A SYMBOL^KAPPA SYMBOL^PHI SYMBOL^RHO SYMBOL^PI SYMBOLnBOLD CAPITAL DIGAMMAsSMALL DIGAMMA@1D7CE;sDI
GIT ZEROyONEyTWOzHREEyFOURzIVEySIXzEVENyEIGHTyNINEnDOUBLE-STRUCK DIGIT ZERO<ONE<TWO>HREE<FOUR>IVE<
SIX>EVEN<EIGHT<NINEnSANS-SERIF DIGIT ZERO+ONE+TWO,HREE+FOUR,IVE+SIX,EVEN+EIGHT+NINEyBOLD DIGIT ZER
O?ONE?TWO^HREE?FOUR^IVE?SIX^EVEN?EIGHT?NINEnMONOSPACE DIGIT ZERO&ONE&TWO+HREE&FOUR+IVE&SIX+EVEN&EI
GHT&NINEaSIGNWRITING HAND-FIST INDEXrCIRCLE INDEXsUP INDEXrOVAL INDEXrHINGE INDEXrANGLE INDEXrFIS
T INDEX BENTrCIRCLE INDEX BENTrFIST THUMB UNDER INDEX BENTwINDEX RAISED KNUCKLE%CUPPED%HINGED> LOW
rCIRCLE INDEX HINGErFIST INDEX MIDDLErCIRCLE INDEX MIDDLErFIST INDEX MIDDLE BENT?RAISED KNUCKLES?H
INGED%UP MIDDLE HINGED%HINGED MIDDLE UP%MIDDLE CONJOINED~OINED INDEX BENT~OINED MIDDLE BENT~OINE
D CUPPED~OINED HINGED^ROSSEDrCIRCLE INDEX MIDDLE CROSSEDrFIST MIDDLE BENT OVER INDEXwINDEX BENT OV
ER MIDDLE%MIDDLE THUMBrCIRCLE INDEX MIDDLE THUMBrFIST INDEX MIDDLE STRAIGHT THUMB BENT?BENT THUM
B STRAIGHT?THUMB BENT?HINGED SPREAD THUMB SIDE%UP MIDDLE HINGED THUMB SIDE~INGED THUMB CONJOINED%H
INGED MIDDLE UP THUMB SIDE%MIDDLE UP SPREAD THUMB FORWARD?THUMB CUPPED~B CIRCLED~B HOOKED~B HINGED
wTHUMB BETWEEN INDEX MIDDLE STRAIGHTwINDEX MIDDLE CONJOINED THUMB SIDE~OINED THUMB SIDE CONJOINED~
OINED THUMB SIDE BENTwMIDDLE THUMB HOOKED INDEX UPwINDEX THUMB HOOKED MIDDLE UP%MIDDLE CONJOINED H
INGED THUMB SIDE^ROSSED THUMB SIDE^ONJOINED THUMB FORWARD~OINED CUPPED THUMB FORWARDwMIDDLE THUM
B CUPPED INDEX UPwINDEX THUMB CUPPED MIDDLE UPwMIDDLE THUMB CIRCLED INDEX UP~LED INDEX HINGEDwINDE
X THUMB ANGLED OUT MIDDLE UP~D IN MIDDLE UP>CIRCLED MIDDLE UP%MIDDLE THUMB CONJOINED HINGED~B ANGL
ED OUT~B ANGLEDwMIDDLE THUMB ANGLED OUT INDEX UP~ED OUT INDEX CROSSED~ED INDEX UPwINDEX THUMB HOOK
ED MIDDLE HINGEDsLAT FOUR FINGERS> BENT?HINGED?CONJOINED~OINED SPLITrCLAW FOUR FINGERS CONJOINEDrF
IST FOUR FINGERS CONJOINED BENTrHINGE FOUR FINGERS CONJOINEDrFLAT FIVE FINGERS SPREADwHEEL FIVE FI
NGERS SPREADwFIVE FINGERS SPREAD FOUR BENTwHEEL FIVE FINGERS SPREAD FOUR BENTwFIVE FINGERS SPREA
D BENTwHEEL FIVE FINGERS SPREAD BENTwFIVE FINGERS SPREAD THUMB FORWARDrCUP FIVE FINGERS SPREAD~D O
PENrHINGE FIVE FINGERS SPREAD OPENrOVAL FIVE FINGERS SPREADrFLAT FIVE FINGERS SPREAD HINGED~AD HIN
GED THUMB SIDE~AD HINGED NO THUMBvv BETWEEN PALM FACINGSwHEELwTHUMB SIDEwHEEL THUMB SIDEwTHUMB BEN
T%FORWARDwSPLIT INDEX THUMB SIDE%CENTRE> THUMB SIDE~B SIDE BENT%LITTLErCLAWv THUMB SIDEwNO THUMBwT
HUMB FORWARDrHOOK CURLICUEvrCUP OPENuu OPEN THUMB SIDEvTHUMB SIDEvOPEN NO THUMBvNO THUMBvOPEN THUM
B FORWARDvTHUMB FORWARDtRLICUE OPENzsIRCLErOVALv THUMB SIDEwNO THUMBwTHUMB FORWARDrHINGE OPEN$ THU
MB FORWARDww SMALLxOPEN THUMB SIDExTHUMB SIDExOPEN NO THUMBxNO THUMBxTHUMB SIDE TOUCHING INDEX&BET
WEEN MIDDLE RINGrANGLErFIST INDEX MIDDLE RINGrCIRCLE INDEX MIDDLE RINGrHINGE INDEX MIDDLE RINGrANG
LE INDEX MIDDLE RINGrHINGE LITTLErFIST INDEX MIDDLE RING BENT~ CONJOINEDrHINGE INDEX MIDDLE RING C
ONJOINEDrFIST LITTLE DOWN< RIPPLE STRAIGHT~E CURVED>OTHERS CIRCLED&UPwTHUMB UNDER LITTLE UPrCIRCL
E LITTLE UPrOVAL LITTLE UPrANGLE LITTLE UPrFIST LITTLE RAISED KNUCKLE&BENT&TOUCHES THUMB+HUMBrHING
E LITTLE THUMBrFIST LITTLE INDEX THUMBrHINGE LITTLE INDEX THUMBrANGLE LITTLE INDEX THUMB INDEX THU
MB OUT~MB INDEX THUMBrFIST LITTLE INDEXrCIRCLE LITTLE INDEXrHINGE LITTLE INDEXrANGLE LITTLE INDEXr
FIST INDEX MIDDLE LITTLErCIRCLE INDEX MIDDLE LITTLErHINGE INDEX MIDDLE LITTLExRINGrANGLE INDEX MID
DLE LITTLErFIST INDEX MIDDLE CROSS LITTLErCIRCLE INDEX MIDDLE CROSS LITTLErFIST RING DOWNrHINGE RI
NG DOWN INDEX THUMB HOOK MIDDLErANGLE RING DOWN MIDDLE THUMB INDEX CROSSrFIST RING UP$RAISED KNUCK
LE$LITTLErCIRCLE RING LITTLErOVAL RING LITTLErANGLE RING LITTLErFIST RING MIDDLE< CONJOINED>RAISE
D KNUCKLES$INDEX$THUMBrHOOK RING THUMBrFIST INDEX RING LITTLErCIRCLE INDEX RING LITTLEsURLICUE IND
EX RING LITTLE ONrHOOK INDEX RING LITTLE OUT~ IN~ UNDERrCUP INDEX RING LITTLErHINGE INDEX RING LIT
TLErANGLE INDEX RING LITTLE OUT~ErFIST MIDDLE DOWNrHINGE MIDDLErFIST MIDDLE UPrCIRCLE MIDDLE UPrFI
ST MIDDLE RAISED KNUCKLE&UP THUMB SIDErHOOK MIDDLE THUMBrFIST MIDDLE THUMB LITTLE&LITTLE&RING LITT
LErCIRCLE MIDDLE RING LITTLEsURLICUE MIDDLE RING LITTLE ONtP MIDDLE RING LITTLErHINGE MIDDLE RIN
G LITTLErANGLE MIDDLE RING LITTLE OUT~LE IN~LErCIRCLE MIDDLE RING LITTLE BENTsLAW MIDDLE RING LITT
LE CONJOINED~E CONJOINED SIDErHOOK MIDDLE RING LITTLE CONJOINED OUT~E CONJOINED IN~E CONJOINEDsING
E INDEX HINGEDrFIST INDEX THUMB SIDErHINGE INDEX THUMB SIDErFIST INDEX THUMB SIDE THUMB DIAGONAL~T
HUMB CONJOINED~THUMB BENT~INDEX BENT~BOTH BENT~INDEX HINGE>FORWARD INDEX STRAIGHT~RD INDEX BENT>HO
OK>CURLICUE_VE THUMB INSIDErCLAW INDEX THUMB CURVE THUMB INSIDErFIST INDEX THUMB CURVE THUMB UNDER
?IRCLErCUP INDEX THUMB. OPENrHINGE INDEX THUMB OPEN?LARGE>> SMALLrANGLE INDEX THUMB OUT?IN>rFIST T
HUMB$ HEEL%SIDE DIAGONAL<CONJOINED<BENT%FORWARD%BETWEEN INDEX MIDDLE^MIDDLE RING^RING LITTLE%UNDE
R TWO FINGERS%OVER TWO FINGERS%UNDER THREE FINGERS>FOUR FINGERS%OVER FOUR RAISED KNUCKLESvv HEELmT
OUCH SINGLEsMULTIPLEsBETWEENmGRASP SINGLEsMULTIPLEsBETWEENmSTRIKE SINGLEtMULTIPLEtBETWEENmBRUSH SI
NGLEsMULTIPLEsBETWEENmRUB SINGLEqMULTIPLEqBETWEENmSURFACE SYMBOLSuBETWEENnQUEEZE LARGE SINGLEuSMAL
L SINGLEuLARGE MULTIPLEuSMALL MULTIPLEvEQUENTIALmFLICK LARGE SINGLEsSMALL SINGLEsLARGE MULTIPLEsSM
ALL MULTIPLEtEQUENTIALmSQUEEZE FLICK ALTERNATINGmMOVEMENT-HINGE UP DOWN LARGE?SMALL+SEQUENTIAL$DOW
N SEQUENTIAL$UP DOWN ALTERNATING LARGE~RNATING SMALL$SIDE TO SIDE SCISSORSvWALLPLANE FINGER CONTAC
TvFLOORPLANE FINGER CONTACTvWALLPLANE SINGLE STRAIGHT SMALL~TRAIGHT MEDIUM~TRAIGHT LARGE~TRAIGHT L
ARGEST|WRIST FLEX,DOUBLE STRAIGHT|WRIST FLEX|ALTERNATING~LTERNATING WRIST FLEX,CROSS,TRIPLE STRAIG
HT MOVEMENT|WRIST FLEX|ALTERNATING~LTERNATING WRIST FLEX,BEND SMALL^MEDIUM^LARGE,CORNER SMALL|MEDI
UM|LARGE|ROTATION.HECK SMALL_MEDIUM_LARGE,BOX SMALL?MEDIUM?LARGE,ZIGZAG SMALL|MEDIUM|LARGE,PEAKS S
MALL_MEDIUM_LARGEmTRAVEL-WALLPLANE ROTATION-WALLPLANE SINGLE~ALLPLANE DOUBLE~ALLPLANE ALTERNATING|
FLOORPLANE SINGLE~LOORPLANE DOUBLE~LOORPLANE ALTERNATING&SHAKING&ARM SPIRAL SINGLE~ DOUBLE~ TRIPLE
mMOVEMENT-DIAGONAL AWAY SMALL?MEDIUM?LARGE~EST+TOWARDS SMALL|MEDIUM|LARGE~ARGEST+BETWEEN AWAY SMAL
L~WAY MEDIUM~WAY LARGE~WAY LARGEST|TOWARDS SMALL~OWARDS MEDIUM~OWARDS LARGE~OWARDS LARGESTvFLOORPL
ANE SINGLE STRAIGHT SMALL~STRAIGHT MEDIUM~STRAIGHT LARGE~STRAIGHT LARGEST~WRIST FLEX.DOUBLE STRAIG
HT~WRIST FLEX~ALTERNATING~ALTERNATING WRIST FLEX.CROSS.TRIPLE STRAIGHT MOVEMENT~WRIST FLEX~ALTERNA
TING MOVEMENT~ALTERNATING WRIST FLEX.BEND.CORNER SMALL~MEDIUM~LARGE<HECK.BOX SMALL^MEDIUM^LARGE.ZI
GZAG SMALL~MEDIUM~LARGE.PEAKS SMALL|MEDIUM|LARGEmTRAVEL-FLOORPLANE ROTATION-FLOORPLANE SINGLE~FLOO
RPLANE DOUBLE~FLOORPLANE ALTERNATING~WALLPLANE SINGLE~WALLPLANE DOUBLE~WALLPLANE ALTERNATING+SHAKI
NGmMOVEMENT-WALLPLANE CURVE QUARTER SMALL~ARTER MEDIUM~ARTER LARGE~ARTER LARGEST_HALF-CIRCLE SMALL
~LF-CIRCLE MEDIUM~LF-CIRCLE LARGE~LF-CIRCLE LARGEST_THREE-QUARTER CIRCLE SMALL~REE-QUARTER CIRCL
E MEDIUM,HUMP SMALL^MEDIUM^LARGE,LOOP SMALL^MEDIUM^LARGE^SMALL DOUBLE,WAVE CURVE DOUBLE SMALL~VE D
OUBLE MEDIUM~VE DOUBLE LARGE~VE TRIPLE SMALL~VE TRIPLE MEDIUM~VE TRIPLE LARGE,CURVE THEN STRAIGHT^
D CROSS SMALL~ROSS MEDIUMmROTATION-WALLPLANE SINGLE,DOUBLE,ALTERNATEmMOVEMENT-WALLPLANE SHAKING,CU
RVE HITTING FRONT WALL,HUMP HITTING FRONT WALL,LOOP HITTING FRONT WALL,WAVE HITTING FRONT WALLmROT
ATION-WALLPLANE SINGLE HITTING FRONT WALL,DOUBLE HITTING FRONT WALL,ALTERNATING HITTING FRONT WALL
mMOVEMENT-WALLPLANE CURVE HITTING CHEST,HUMP HITTING CHEST,LOOP HITTING CHEST,WAVE HITTING CHESTmR
OTATION-WALLPLANE SINGLE HITTING CHEST,DOUBLE HITTING CHEST,ALTERNATING HITTING CHESTmMOVEMENT-WAL
LPLANE WAVE DIAGONAL PATH SMALL~GONAL PATH MEDIUM~GONAL PATH LARGEvFLOORPLANE CURVE HITTING CEILIN
G SMALL~ITTING CEILING LARGE.HUMP HITTING CEILING SMALL DOUBLE~TTING CEILING LARGE DOUBLE~TTING CE
ILING SMALL TRIPLE~TTING CEILING LARGE TRIPLE.LOOP HITTING CEILING SMALL SINGLE~TTING CEILING LARG
E SINGLE~TTING CEILING SMALL DOUBLE~TTING CEILING LARGE DOUBLE.WAVE HITTING CEILING SMALL~TTING CE
ILING LARGEmROTATION-FLOORPLANE SINGLE HITTING CEILING.DOUBLE HITTING CEILING.ALTERNATING HITTIN
G CEILINGmMOVEMENT-FLOORPLANE CURVE HITTING FLOOR SMALL~ITTING FLOOR LARGE.HUMP HITTING FLOOR SMAL
L DOUBLE~TTING FLOOR LARGE DOUBLE~TTING FLOOR TRIPLE SMALL TRIPLE~TTING FLOOR TRIPLE LARGE TRIPLE.
LOOP HITTING FLOOR SMALL SINGLE~TTING FLOOR LARGE SINGLE~TTING FLOOR SMALL DOUBLE~TTING FLOOR LARG
E DOUBLE.WAVE HITTING FLOOR SMALL~TTING FLOOR LARGEmROTATION-FLOORPLANE SINGLE HITTING FLOOR.DOUBL
E HITTING FLOOR.ALTERNATING HITTING FLOORmMOVEMENT-FLOORPLANE CURVE SMALL|MEDIUM|LARGE~ARGEST|COMB
INED.HUMP SMALL.LOOP SMALL.WAVE SNAKE|MALL_LARGEmROTATION-FLOORPLANE SINGLE.DOUBLE.ALTERNATINGmMOV
EMENT-FLOORPLANE SHAKING PARALLELvWALLPLANE ARM CIRCLE SMALL SINGLE~LE MEDIUM SINGLE~LE SMALL DOUB
LE~LE MEDIUM DOUBLEvFLOORPLANE ARM CIRCLE HITTING WALL SMALL SINGLE~CLE HITTING WALL MEDIUM SINGLE
~CLE HITTING WALL LARGE SINGLE~CLE HITTING WALL SMALL DOUBLE~CLE HITTING WALL MEDIUM DOUBLE~CLE HI
TTING WALL LARGE DOUBLEvWALLPLANE WRIST CIRCLE FRONT SINGLE~RCLE FRONT DOUBLEvFLOORPLANE WRIST CIR
CLE HITTING WALL SINGLE~IRCLE HITTING WALL DOUBLEvWALLPLANE FINGER CIRCLES SINGLE~IRCLES DOUBLEvFL
OORPLANE FINGER CIRCLES HITTING WALL SINGLE~CIRCLES HITTING WALL DOUBLEmDYNAMIC ARROWHEAD SMALL+LA
RGEuFASTuSLOWuTENSEuRELAXEDuSIMULTANEOUS. ALTERNATINGuEVERY OTHER TIMEuGRADUALmHEADq RIMrMOVEMENT-
WALLPLANE STRAIGHT^TILT!FLOORPLANE STRAIGHT!WALLPLANE CURVE!FLOORPLANE CURVEz CIRCLEmFACE DIRECTIO
N POSITION NOSE FORWARD TILTING~E UP OR DOWN~E UP OR DOWN TILTINGmEYEBROWS STRAIGHT UP+NEUTRAL+DOW
NmDREAMY EYEBROWS NEUTRAL DOWN%DOWN NEUTRAL%UP NEUTRAL%NEUTRAL UPmFOREHEAD NEUTRALvCONTACTvWRINKLE
DmEYES OPENrSQUEEZEDrCLOSEDp BLINK SINGLEwMULTIPLEpS HALF OPENrWIDE OPENrHALF CLOSEDrWIDENING MOVE
MENTp WINKpLASHES UPwDOWNwFLUTTERINGpGAZE-WALLPLANE STRAIGHT| DOUBLE~ALTERNATINGuFLOORPLANE STRAIG
HT~ DOUBLE~ ALTERNATINGuWALLPLANE CURVEDuFLOORPLANE CURVEDuWALLPLANE CIRCLINGmCHEEKS PUFFEDtNEUTRA
LtSUCKEDmTENSE CHEEKS HIGHzMIDDLEzLOWmEARSmNOSE NEUTRALrCONTACTrWRINKLESsIGGLESmAIR BLOWING OUTqSU
CKING INqBLOW SMALL ROTATIONSqSUCK SMALL ROTATIONSmBREATH INHALEtEXHALEmMOUTH CLOSED NEUTRALzFORWA
RDzCONTACTsSMILEx WRINKLEDyOPENsFROWNx WRINKLEDyOPENsOPEN CIRCLExFORWARDxWRINKLEDxOVAL$ WRINKLED%Y
AWNxRECTANGLE. WRINKLED<YAWNsKISSw FORWARDxWRINKLEDsTENSEx FORWARDySUCKEDmLIPS PRESSED TOGETHERp L
OWER OVER UPPERqUPPER OVER LOWERmMOUTH CORNERSsWRINKLES SINGLE$DOUBLEmTONGUE STICKING OUT FARtLICK
ING LIPStTIP BETWEEN LIPSxTOUCHING INSIDE MOUTHtINSIDE MOUTH RELAXEDtMOVES AGAINST CHEEKtCENTRE ST
ICKING OUT!INSIDE MOUTHnEETHr MOVEMENTsON TONGUE$ MOVEMENTvLIPSz MOVEMENTsBITE LIPSmMOVEMENT-WALLP
LANE JAWvFLOORPLANE JAWmNECKmHAIRmEXCITEMENTmSHOULDER HIP SPINEzPOSITIONSmWALLPLANE SHOULDER HIP M
OVEmFLOORPLANE SHOULDER HIP MOVEmSHOULDER TILTING FROM WAISTmTORSO-WALLPLANE STRAIGHT STRETCH%CURV
ED BENDsFLOORPLANE TWISTINGmUPPER BODY TILTING FROM HIP JOINTSmLIMB COMBINATIONrLENGTH-1y2y3y4y5y6
y7mFINGERmLOCATION-WALLPLANE SPACEvFLOORPLANE SPACEu HEIGHTvWIDTHvDEPTHvHEAD NECKvTORSOvLIMBS DIGI
TSmCOMMAmFULL STOPmSEMICOLONmCOLONmPARENTHESIS@1DA9B;mFILL MODIFIER-2!3!4!5!6@1DAA1;mROTATION MODI
FIER-2+3+4+5+6+7+8+9+10,1,2,3,4,5,6@1DF00;aLATIN SMALL LETTER FENG DIGRAPH WITH TRILLtREVERSED SCR
IPT GgLETTER SMALL CAPITAL TURNED GgSMALL LETTER REVERSED KgLETTER SMALL CAPITAL L WITH BELTgSMAL
L LETTER LEZH WITH RETROFLEX HOOKtTURNED Y WITH BELTtREVERSED ENGtTURNED R WITH LONG LEG AND RETRO
FLEX HOOKu WITH HOOK AND RETROFLEX HOOKgLETTER RETROFLEX CLICK WITH RETROFLEX HOOKgSMALL LETTER ES
H WITH DOUBLE BAR| AND CURLtTURNED T WITH CURLgLETTER INVERTED GLOTTAL STOP WITH CURLnSTRETCHE
D C WITH CURLoMALL CAPITAL TURNED KgSMALL LETTER L WITH FISHHOOKtDEZH DIGRAPH WITH PALATAL HOOKt
L WITH BELT AND PALATAL HOOKtENG WITH PALATAL HOOKtTURNED R WITH PALATAL HOOKtR WITH FISHHOOK AN
D PALATAL HOOKtTESH DIGRAPH WITH PALATAL HOOKtEZH WITH PALATAL HOOKtDEZH DIGRAPH WITH RETROFLEX HO
OKtI WITH STROKE AND RETROFLEX HOOKtO WITH RETROFLEX HOOKtTESH DIGRAPH WITH RETROFLEX HOOKtC WIT
H RETROFLEX HOOKtS WITH CURL@1E000;aCOMBINING GLAGOLITIC LETTER AZU%BUKY%VEDE%GLAGOLI%DOBRO%YESTU%
ZHIVETE@1E008;&EMLJA%IZHE&NITIAL IZHE&%DJERVI%KAKO%LJUDIJE%MYSLITE%NASHI%ONU%POKOJI%RITSI%SLOVO%TV
RIDO%UKU%FRITU%HERU@1E01B;%SHTA%TSI%CHRIVI%SHA%YERU,I&ATI@1E023;&U%SMALL YUS@1E026;%YO%IOTATED SMA
LL YUS%BIG YUS%IOTATED BIG YUS%FITA@1E100;aNYIAKENG PUACHUE HMONG LETTER MA+TSA+NTA+TA+HA+NA+XA+NK
A+CA+LA+SA+ZA+NCA,TSA+KA+DA+NYA,RA+VA+NTXA+TXA+FA+RA+QA+YA+NQA+PA+XYA+NPA+DLA+NPLA+HAH+MLA+PLA+GA+
RRA+A,A+I+U+O,O+E,E+W@1E130;xTONE-B%M%J%V%S%G%DxSIGN FOR PERSON.THING.LOCATION.ANIMAL.INVERTEBRATE
%XW XWyYLLABLE LENGTHENER@1E140;xDIGIT ZERO&ONE&TWO+HREE&FOUR+IVE&SIX+EVEN&EIGHT&NINE@1E14E;xLOGOG
RAM NYAJxCIRCLED CA@1E290;aTOTO LETTER PAmBAmTAmDAmKAmGAmMAmNAnGAmSAmCHAmYAmWAmJAmHAmRAmLAmImBREAT
HY ImIUmBREATHY IUmUmEmBREATHY EmEOmBREATHY EOmOmAEmBREATHY AEmAfSIGN RISING TONE@1E2C0;aWANCHO LE
TTER AApoBAoCAoDAoGAoYAoPHAoLAoNAoPAoTApHAoFAoSApHAoJAoZAoWAoVAoKAoOoAUoRAoMAoKHAoHAoEoIoNGAoUoLLH
AoTSApRAoONGoAANGpNGoINGoONoENoAANoNYAoUENoYIHhTONE TUPpNImKOIpNIhDIGIT ZEROnONEnTWOoHREEnFOURoIVE
nSIXoEVENnEIGHTnNINE@1E2FF;hNGUN SIGN@1E7E0;aETHIOPIC SYLLABLE HHYAvUvIvAAvEEwvO@1E7E8;sGURAGE HHW
AsHHWIvEEw@1E7ED;sGURAGE MWI$EE@1E7F0;zQWI$EE%zBWI$EEzKWI$EE%zGWI$EE%zFWI$EEzPWI$EE@1E800;aMENDE K
IKAKUI SYLLABLE M001 KI!2 KA!3 KUz65 KEEz95 KEz76 KOOz48 KOy179 KUAy004 WI!5 WA!6 WUy126 WEEz18 WE
!4 WOOy045 WOy194 WUIz43 WEIy061 WVIz49 WVAy139 WVEy007 MIN!8 MAN!9 MUNz59 MENz94 MONy154 MUANz8
9 MUENy010 BI!1 BA!2 BUy150 BEEy097 BEy103 BOOz38 BOy013 I!4 A!5 Uy163 EEz00 Ez65 OOz47 Oz37 EI!
1 IN!5 INz95 ANz78 ENy019 SIz20 SA!1 SUy162 SEEz16 SEz36 SOOy079 SOy196 SIAy025 LI!6 LA!7 LUz84 LE
Ez73 LEz54 LOOy153 LOz10 LONG LEy016 DI!7 DA!8 DUz89 DEEy180 DOO!1 DOy022 TI!3 TA!4 TUz91 TEEz55 T
Ey104 TOOy069 TOz28 JI!9 JAz30 JUy157 JEEz13 JEz60 JOOy063 JOy175 LONG JOy031 YI!2 YA!3 YUy109 YEE
y080 YEy141 YOOz21 YOy034 FI!5 FA!6 FUz78 FEE!5 FEy133 FOOy088 FOy197 FUAz01 FANy037 NIN!8 NAN!9 N
UNy117 NENz69 NONz76 HIy041 HAy186 HUy040 HEEz96 HEz42 HOOy140 HOy083 HEEIy128 HOOUy053 HINy130 HA
Ny087 HUNz52 HENy193 HONy046 HUANz90 NGGIz43 NGGAz82 NGGUy115 NGGEEz46 NGGEz56 NGGOOz20 NGGOz59 NG
GAAz27 NGGUAy086 LONG NGGEy106 LONG NGGOOz83 LONG NGGOz55 GIz11 GAz68 GUz90 GEEz66 GUEI!7 GUANz8
4 NGENy057 NGONy177 NGUANy068 PIz99 PAz50 PUz81 PEEz51 PEy102 POOy066 POy145 MBIy062 MBAy122 MBUy0
47 MBEEy188 MBEEy072 MBEy172 MBOO!4 MBOz87 MBUUz61 LONG MBEz05 LONG MBOOz42 LONG MBOz32 KPIy092 KP
Az74 KPUz44 KPEEy108 KPEz12 KPOOz58 KPOz24 GBIy056 GBAy148 GBUy093 GBEEy107 GBEy071 GBOO!0 GBOy17
1 RAz23 NDI!9 NDA!5 NDUz91 NDEEz19 NDEy067 NDOO!4 NDOy152 NJAz92 NJUz49 NJEEz34 NJOOz82 VI!5 VAz5
1 VUz73 VEEy085 VEy144 VOOy077 VOy164 NYINy058 NYANy170 NYUNy098 NYENz60 NYON@1E8C7;oDIGIT ONEuTWO
vHREEuFOURvIVEuSIXvEVENuEIGHTuNINEoCOMBINING NUMBER TEENS<NS,HUNDREDS,THOUSANDS.EN THOUSANDS,HUNDR
ED THOUSANDS,MILLIONS@1E900;aADLAM CAPITAL LETTER ALIFvDAALIvLAAMvMIIMvBAvSINNYIIYHEvPEvBHEvRAvEvF
AvIvOvDHAvYHEvWAWvNUNvKAFvYAvUvJIIMvCHIvHAvQAAFvGAvNYAvTUvNHAvVAvKHAvGBEvZALvKPOvSHAgSMALL LETTE
R ALIFtDAALItLAAMtMIIMtBAtSINNYIIYHEtPEtBHEtRAtEtFAtItOtDHAtYHEtWAWtNUNtKAFtYAtUtJIIMtCHItHAtQAAFt
GAtNYAtTUtNHAtVAtKHAtGBEtZALtKPOtSHAgALIF LENGTHENERgVOWEL LENGTHENERgGEMINATION MARKgHAMZAgCONSON
ANT MODIFIERgGEMINATE CONSONANT MODIFIERgNUKTAhASALIZATION MARK@1E950;gDIGIT ZEROmONEmTWOnHREEmFOU
RnIVEmSIXnEVENmEIGHTmNINE@1E95E;gINITIAL EXCLAMATION MARKoQUESTION MARK@1EC71;aINDIC SIYAQ NUMBE
R ONEtTWOuHREEtFOURuIVEtSIXuEVENtEIGHTtNINEtTENuWENTYuHIRTYtFORTYuIFTYtSIXTYuEVENTYtEIGHTYtNINETYt
ONE HUNDREDtTWO HUNDREDuHREE HUNDREDtFOUR HUNDREDuIVE HUNDREDtSIX HUNDREDuEVEN HUNDREDtEIGHT HUNDR
EDtNINE HUNDREDtONE THOUSANDtTWO THOUSANDuHREE THOUSANDtFOUR THOUSANDuIVE THOUSANDtSIX THOUSANDuEV
EN THOUSANDtEIGHT THOUSANDtNINE THOUSANDtTEN THOUSANDuWENTY THOUSANDuHIRTY THOUSANDtFORTY THOUSAND
uIFTY THOUSANDtSIXTY THOUSANDuEVENTY THOUSANDtEIGHTY THOUSANDtNINETY THOUSANDtLAKHxANmLAKH MARKmNU
MBER KARORyANtPREFIXED ONE%TWO&HREE%FOUR&IVE%SIX&EVEN%EIGHT%NINEmPLACEHOLDERmFRACTION ONE QUARTERz
HALFvTHREE QUARTERSmRUPEE MARKmNUMBER ALTERNATE ONE&TWO+EN THOUSANDmALTERNATE LAKH MARK@1ED01;aOTT
OMAN SIYAQ NUMBER ONEvTWOwHREEvFOURwIVEvSIXwEVENvEIGHTvNINEvTENwWENTYwHIRTYvFORTYwIFTYvSIXTYwEVENT
YvEIGHTYvNINETYvONE HUNDREDvTWO HUNDREDwHREE HUNDREDvFOUR HUNDREDwIVE HUNDREDvSIX HUNDREDwEVEN HUN
DREDvEIGHT HUNDREDvNINE HUNDREDvONE THOUSANDvTWO THOUSANDwHREE THOUSANDvFOUR THOUSANDwIVE THOUSAND
vSIX THOUSANDwEVEN THOUSANDvEIGHT THOUSANDvNINE THOUSANDvTEN THOUSANDwWENTY THOUSANDwHIRTY THOUSAN
DvFORTY THOUSANDwIFTY THOUSANDvSIXTY THOUSANDwEVENTY THOUSANDvEIGHTY THOUSANDvNINETY THOUSANDoMARR
ATANoALTERNATE NUMBER TWO.HREE,FOUR.IVE,SIX.EVEN,EIGHT,NINE,TEN,FOUR HUNDRED,SIX HUNDRED,TWO THOUS
AND.EN THOUSANDoFRACTION ONE HALF$SIXTH@1EE00;aARABIC MATHEMATICAL ALEFuBEHuJEEMuDAL@1EE05;uWAWuZA
INuHAHuTAHuYEHuKAFuLAMuMEEMuNOONuSEENuAINuFEHuSADuQAFuREHuSHEENuTEHvHEHuKHAHuTHALuDADuZAHuGHAINuDO
TLESS BEH%NOON%FEH%QAF@1EE21;uINITIAL BEH%JEEM@1EE24;%HEH@1EE27;&AH@1EE29;%YEH%KAF%LAM%MEEM%NOON%S
EEN%AIN%FEH%SAD%QAF@1EE34;%SHEEN%TEH&HEH%KHAH@1EE39;%DAD@1EE3B;%GHAIN@1EE42;uTAILED JEEM@1EE47;$HA
H@1EE49;$YEH@1EE4B;$LAM@1EE4D;$NOON$SEEN$AIN@1EE51;$SAD$QAF@1EE54;$SHEEN@1EE57;$KHAH@1EE59;$DAD@1E
E5B;$GHAIN@1EE5D;$DOTLESS NOON@1EE5F;?QAF@1EE61;uSTRETCHED BEH+JEEM@1EE64;+HEH@1EE67;,AH+TAH+YEH+K
AF@1EE6C;+MEEM+NOON+SEEN+AIN+FEH+SAD+QAF@1EE74;+SHEEN+TEH,HEH+KHAH@1EE79;+DAD+ZAH+GHAIN+DOTLESS BE
H@1EE7E;|FEH@1EE80;uLOOPED ALEF$BEH$JEEM$DAL$HEH$WAW$ZAIN$HAH$TAH$YEH@1EE8B;$LAM$MEEM$NOON$SEEN$AI
N$FEH$SAD$QAF$REH$SHEEN$TEH%HEH$KHAH$THAL$DAD$ZAH$GHAIN@1EEA1;uDOUBLE-STRUCK BEH>JEEM>DAL@1EEA5;>W
AW>ZAIN>HAH>TAH>YEH@1EEAB;>LAM>MEEM>NOON>SEEN>AIN>FEH>SAD>QAF>REH>SHEEN>TEH?HEH>KHAH>THAL>DAD>ZAH>
GHAIN@1EEF0;uOPERATOR MEEM WITH HAH WITH TATWEEL&HAH WITH DAL
"

end TargetedConfig.Text.Name
