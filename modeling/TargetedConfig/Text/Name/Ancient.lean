/-! # Names of the letters of ancient and minor scripts -/

namespace TargetedConfig.Text.Name

/-- The scripts of the supplementary plane, cuneiform and hieroglyphs among them. -/
def ancient : String := "
@10000;aLINEAR B SYLLABLE B008 Au38 Eu28 Iu61 Ou10 Uu01 DAu45 DEu07 DIu14 DOu51 DUv7 JAu46 JE@1000
D;u36 JOu65 JUu77 KAu44 KEu67 KIu70 KOu81 KUv0 MAu13 MEu73 MIu15 MOu23 MUu06 NAu24 NEu30 NIu52 NOv
5 NUu03 PAu72 PEu39 PIu11 POu50 PUu16 QAu78 QEu21 QIu32 QO@10028;u60 RAu27 REu53 RIu02 ROu26 RUu3
1 SAu09 SEu41 SIu12 SOu58 SUv9 TAu04 TEu37 TIu05 TOu69 TUu54 WAu75 WEu40 WIv2 WO@1003C;u17 ZAu74 Z
E@1003F;u20 ZOv5 A2u43 A3u85 AUu71 DWEu90 DWOu48 NWAu29 PU2u62 PTEu76 RA2u33 RA3u68 RO2v6 TA2u87 T
WEu91 TWO@10050;lMBOL B018t9s22s34s47t9s56s63t4s79s82t3t6t9@10080;jIDEOGRAM B100 MANv2 WOMANv4 DEE
Rv5 EQUIDwF MAREwM STALLIONv6F EWEwM RAMv7F SHE-GOATwM HE-GOATv8F SOWwM BOARv9F COWwM BULLu20 WHEA
Tv1 BARLEYv2 OLIVEv3 SPICEv5 CYPERUSjMONOGRAM B127 KAPOv8 KANAKOjIDEOGRAM B130 OILv1 WINEv2jMONOGR
AM B133 AREPAv5 MERIjIDEOGRAM B140 BRONZEv1 GOLDv2v5 WOOLv6u50v1 HORNv2v3v4jMONOGRAM B156 TURO2jID
EOGRAM B157v8v9 CLOTHu60v1v2 GARMENTv3 ARMOURv4v5v6v7v8v9u70v1v2v3 MONTHv4v6 TREEv7v8v9u80v1v2v3v4
v5v9u90v1 HELMETt220 FOOTSTOOLv5 BATHTUBu30 SPEARv1 ARROWv2v3 SWORDv4v6u40 WHEELED CHARIOTv1 CHARI
OTv2 CHARIOT FRAMEv3 WHEELv5v6jMONOGRAM B247 DIPTEjIDEOGRAM B248v9u51v2v3v4 DARTv5v6v7v8v9sVESSE
L B155!200%1%2%3%4%5%6%7%8%9$10%1%2%3%4%5%6%7%8%9$21%2%6%7%8%9$50!305@10100;aAEGEAN WORD SEPARATO
R LINEwDOThCHECK MARK@10107;hNUMBER ONEoTWOpHREEoFOURpIVEoSIXpEVENoEIGHToNINEoTENpWENTYpHIRTYoFORT
YpIFTYoSIXTYpEVENTYoEIGHTYoNINETYoONE HUNDREDoTWO HUNDREDpHREE HUNDREDoFOUR HUNDREDpIVE HUNDREDoSI
X HUNDREDpEVEN HUNDREDoEIGHT HUNDREDoNINE HUNDREDoONE THOUSANDoTWO THOUSANDpHREE THOUSANDoFOUR THO
USANDpIVE THOUSANDoSIX THOUSANDpEVEN THOUSANDoEIGHT THOUSANDoNINE THOUSANDoTEN THOUSANDpWENTY THOU
SANDpHIRTY THOUSANDoFORTY THOUSANDpIFTY THOUSANDoSIXTY THOUSANDpEVENTY THOUSANDoEIGHTY THOUSANDoNI
NETY THOUSAND@10137;hWEIGHT BASE UNIToFIRST SUBUNIToSECOND SUBUNIToTHIRD SUBUNIToFOURTH SUBUNIThDR
Y MEASURE FIRST SUBUNIThLIQUID MEASURE FIRST SUBUNIThMEASURE SECOND SUBUNITpTHIRD SUBUNITaGREEK AC
ROPHONIC ATTIC ONE QUARTER$HALF$DRACHMAxFIVEzFTYzVE HUNDRED%THOUSANDzFTY THOUSANDzVE TALENTSxTEN T
ALENTSxFIFTY TALENTSxONE HUNDRED TALENTSxFIVE HUNDRED TALENTSxONE THOUSAND TALENTSxFIVE THOUSAND T
ALENTS%STATERSxTEN STATERSxFIFTY STATERSxONE HUNDRED STATERSxFIVE HUNDRED STATERSxONE THOUSAND STA
TERSxTEN THOUSAND STATERSxFIFTY THOUSAND STATERSxTEN MNASrHERAEUM ONE PLETHRONrTHESPIAN ONErHERMIO
NIAN ONErEPIDAUREAN TWOrTHESPIAN TWOrCYRENAIC TWO DRACHMASrEPIDAUREAN TWO DRACHMASrTROEZENIAN FIVE
%TEN, ALTERNATE FORMrHERMIONIAN TENrMESSENIAN TENrTHESPIAN TEN$HIRTYsROEZENIAN FIFTY< ALTERNATE FO
RMrHERMIONIAN FIFTYrTHESPIAN FIFTY!ONE HUNDRED!THREE HUNDREDrEPIDAUREAN FIVE HUNDREDrTROEZENIAN FI
VE HUNDREDsHESPIAN FIVE HUNDREDrCARYSTIAN FIVE HUNDREDrNAXIAN FIVE HUNDREDrTHESPIAN ONE THOUSAND!F
IVE THOUSANDrDELPHIC FIVE MNASrSTRATIAN FIFTY MNASgONE HALF SIGNt ALTERNATE FORMgTWO THIRDS SIGNhH
REE QUARTERS SIGNgYEAR SIGNgTALENT SIGNgDRACHMA SIGNgOBOL SIGNgTWO OBOLS SIGNhHREE OBOLS SIGNgFOU
R OBOLS SIGNhIVE OBOLS SIGNgMETRETES SIGNgKYATHOS BASE SIGNgLITRA SIGNgOUNKIA SIGNgXESTES SIGNgART
ABE SIGNiOURA SIGNgGRAMMA SIGNgTRYBLION BASE SIGNgZERO SIGNgONE QUARTER SIGNgSINUSOID SIGNgINDICTI
ON SIGNaNOMISMA SIGN@10190;aROMAN SEXTANS SIGNgUNCIA SIGNgSEMUNCIA SIGNiXTULA SIGNgDIMIDIA SEXTUL
A SIGNgSILIQUA SIGNgDENARIUS SIGNgQUINARIUS SIGNgSESTERTIUS SIGNgDUPONDIUS SIGNgAS SIGNgCENTURIA
L SIGNaASCIA SYMBOL@101A0;aGREEK SYMBOL TAU RHO@101D0;aPHAISTOS DISC SIGN PEDESTRIANuLUMED HEADtTA
TTOOED HEADtCAPTIVEuHILDtWOMANtHELMETtGAUNTLETtTIARAtARROWtBOWtSHIELDtCLUBtMANACLESvTTOCKtSAWtLIDt
BOOMERANGtCARPENTRY PLANEtDOLIUMtCOMBtSLINGtCOLUMNtBEEHIVEtSHIPtHORNuIDEtBULLS LEGtCATtRAMtEAGLEtD
OVEtTUNNYtBEEtPLANE TREEtVINEtPAPYRUStROSETTEtLILYtOX BACKtFLUTEtGRATERtSTRAINERuMALL AXEtWAVY BAN
DtCOMBINING OBLIQUE STROKE@10280;aLYCIAN LETTER AoEoBpHoGoDoIoWoZoTHoJoKoQoLoMoNoMMoNNoUoPoKKoRoSo
TpToANoENoHoX@102A0;aCARIAN LETTER AoP2oDoLoUUUoRoLDoA2oQoBoMoOoD2oToSHq2poC-18oUoNNoXoNoTT2oPoSSo
IoEoUUUUoKp2oNDoUUoGp2oSTq2oNGoIIoC-39oTToUUU2oRRoMBq2q3q4oLD2oE2oUUU3@102E0;bOPTIC EPACT THOUSAND
S MARKnDIGIT ONEtTWOuHREEtFOURuIVEtSIXuEVENtEIGHTtNINEnNUMBER TENvWENTYvHIRTYuFORTYvIFTYuSIXTYvEVE
NTYuEIGHTYuNINETYuONE HUNDREDuTWO HUNDREDvHREE HUNDREDuFOUR HUNDREDvIVE HUNDREDuSIX HUNDREDvEVEN H
UNDREDuEIGHT HUNDREDuNINE HUNDRED@10300;aOLD ITALIC LETTER AsBEsKEsDEsEsVEsZEsHEsTHEsIsKAsELtMtNtS
HsOsPEsSHEsKUsERtSsTEsUsEKSsPHEsKHEsEFtRSsCHEsIIsUUsESSlNUMERAL ONEtFIVEtTENtFIFTY@1032D;lLETTER Y
EsNORTHERN TSEsSOUTHERN TSEaGOTHIC LETTER AHSAoBAIRKANoGIBAoDAGSoAIHVUSoQAIRTHRAoIUJAoHAGLoTHIUTHo
EISoKUSMAoLAGUSoMANNAoNAUTHSoJERoURUSoPAIRTHRAoNINETYoRAIDAoSAUILoTEIWSoWINJAoFAIHUoIGGWSoHWAIRoOT
HALoNINE HUNDRED@10350;aOLD PERMIC LETTER ANsBURsGAIsDOIsEsZHOIsDZHOIsZATAsDZITAsIsKOKEsLEIsMENOEs
NENOEsVOOIsPEEIsREIsSIIsTAIsUsCHERYsSHOOIuCHOOIsYRYtERUsOtOsEFsHAsTSIUsVERsYERvItATsIEsYUtAsIAaCOM
BINING OLD PERMIC LETTER AN%DOI%ZATA%NENOE%SII@10380;aUGARITIC LETTER ALPAqBETAqGAMLAqKHAqDELTAqHO
qWOqZETAqHOTAqTETqYODqKAFqSHINqLAMDAqMEMqDHALqNUNqZUqSAMKAqAINqPUqSADEqQOPAqRASHAqTHANNAqGHAINqTOq
IqUqSSU@1039F;jWORD DIVIDERaOLD PERSIAN SIGN ArIrUrKAsUrGAsUrXArCArJAsIrTAsUrDAsIsUrTHArPArBArFArN
AsUrMAsIsUrYArVAsIrRAsUrLArSArZArSHAsSArHA@103C8;rAURAMAZDAA$-2$HArXSHAAYATHIYArDAHYAAUSH!-2rBAGAs
UUMISHmWORD DIVIDERmNUMBER ONEtTWOuENuWENTYtHUNDRED@10400;aDESERET CAPITAL LETTER LONG I%E%A&H%O&O
xSHORT I&E&A+H&O+OxAYxOWxWUxYEExHxPEExBEExTEExDEExCHEExJEExKAYxGAYxEFxVEExETHxTHEExESxZEExESHxZHEE
xERyLyMyNzGxOIxEWiSMALL LETTER LONG I!E!A$H!O$OvSHORT I$E$A%H$O%OvAYvOWvWUvYEEvHvPEEvBEEvTEEvDEEvC
HEEvJEEvKAYvGAYvEFvVEEvETHvTHEEvESvZEEvESHvZHEEvERwLwMwNxGvOIvEWaSHAVIAN LETTER PEEPpTOTpKICKpFEEp
THIGHpSOqUREpCHURCHpYEApHUNGpBIBpDEADpGAGpVOWpTHEYpZOOpMEASUREpJUDGEpWOEpHA-HApLOLLpMIMEpIFpEGGpAS
HqDOpONpWOOLpOUTpAHpROARpNUNpEATpAGEpICEpUPpOAKqOZEqILpAWEqREpORpAIRpERRpARRAYpEARpIANpYEWaOSMANY
A LETTER ALEFpBApTApJApXApKHApDEELpRApSAqHIINpDHApCAYNpGApFApQAAFpKAAFpLAANpMIINpNUUNpWAWpHApYApAp
EpIpOpUpAApEEpOO@104A0;iDIGIT ZEROoONEoTWOpHREEoFOURpIVEoSIXpEVENoEIGHToNINE@104B0;cAGE CAPITAL LE
TTER AwIxNwHvBRAvCHAvEHCHAwwINvHAwYAvIvKAvEHKAvKYAvLAvMAvNAvOwINvPAvEHPAvSAwHAvTAvEHTAvTSAvEHTSAvT
SHAvDHAvUvWAvKHAvGHAvZAwHA@104D8;gSMALL LETTER AuIvNuHtBRAtCHAtEHCHAuuINtHAuYAtItKAtEHKAtKYAtLAtMA
tNAtOuINtPAtEHPAtSAuHAtTAtEHTAtTSAtEHTSAtTSHAtDHAtUtWAtKHAtGHAtZAuHA@10500;aELBASAN LETTER ApBEpCE
qHEpDEpNDEpDHEpEIqpFEpGEqJEpHEpIpJEpKEpLEqLEpMEpNEqAqJEpOpPEpQEpREqREpSEqHEpTEqHEpUpVEpXEpYpZEqHEp
GHErAMMApKHE@10530;aCAUCASIAN ALBANIAN LETTER ALT!BET!GIM!DAT!EB!ZARL!EYN!ZHIL!TAS!CHA!YOWD!ZHA!IR
B!SHA!LAN!INYA!XEYN!DYAN!CAR!JHOX!KAR!LYIT!HEYT!QAY!AOR!CHOY%I$YAY!MAQ!QAR!NOWC!DZYAY!SHAK!JAYN!ON
!TYAY!FAM!DZAY!CHAT!PEN!GHEYS!RAT!SEYK!VEYZ!TIWR!SHOY!IWN!CYAW$AYN!YAYD!PIWR!KIW@1056F;tCITATION M
ARKaVITHKUQI CAPITAL LETTER AyBBEzEyCEzHEyDEzHEyEIzyFEyGA@1057C;yHAzHAyIzJEyJEyKAyLAzLAyMEyNEzJEyO
yPEyQAyRE@1058C;ySEzHEyTEzHEyUyVEyXE@10594;yYyZE@10597;jSMALL LETTER AwBBExEwCExHEwDExHEwEIxwFEwGA
@105A3;wHAxHAwIxJEwJEwKAwLAxLAwMEwNExJEwOwPEwQAwRE@105B3;wSExHEwTExHEwUwVEwXE@105BB;wYwZE@10600;aL
INEAR A SIGN AB001s2s3s4s5s6s7s8s9r10s1s3s6s7r20s1tFtMs2tFtMs3tMs4s6s7s8p028BpB029r30s1s4s7s8s9r40
s1s4s5s6s7s8s9r50s1s3s4s5s6s7s8s9r60s1s5s6s7s9r70s3s4s6s7s8s9r80s1s2s5s6s7p100-102pB118r20p120BpB1
22s3r31AtBp131CpB164r71r80s8r91p301r2r3r4r5r6r7r8r9AsBsCq10r1r2r3AsBsCr4r5r6r7r8r9q20r1r2r3r4r5r6r
7r8r9q30r1r2r3r4r5r6r7r8r9q40r1r2r3r4r5r6r7r8r9q50r1r2r3r4r5r6r7r8r9q60r1r2r3r4r5r6r7r8r9q70r1p400
-VASr1-VASr2-VASr3-VASr4-VASr5-VASr6-VASr7-VASr8-VASr9-VASq10-VASr1-VASr2-VASr3-VASr4-VASr5-VASr6-
VASr7-VASr8-VASp501r2r3r4r5r6r8r9q10r1r2r3r5r6q20r1r3r4r5r6r7r8r9q30r1r2r4r5r6r7r8r9q40r1r2r5r7r8r
9q50r1r2r3r4r5r6r7r9q63r4r5r6r8r9q70r1r2r3r4r5r6r7r8r9q80r1r2r3r4r5r6r7r8r9q91r2r4r5r6r8p600r1r2r3
r4r6r8r9q10r1r2r3r4r5r6r7r8r9q20r1r2r3r4r6r7r8r9q34r7r8q40r2r3r4r5r6r8r9q51r2r3r4r5r6r7r8r9q60r1r2
r3r4@10740;p701 Ar2 Br3 Dr4 Er5 Fr6 Hr7 Jr8 Kr9 Ls-2 L2t3 L3t4 L4t6 L6q10 Wr1 Xr2 Yr3 OMEGAr4 ABBr
5 BBr7 DDq26 EYYYq32 JE@10760;p800r1r2r3r4r5r6r7@10780;aMODIFIER LETTER SMALL CAPITAL AArUPERSCRIP
T TRIANGULAR COLON%HALF TRIANGULAR COLONrMALL AEwCAPITAL BwB WITH HOOK@10787;wDZ DIGRAPH. WITH RET
ROFLEX HOOK|CURLxEZH DIGRAPHx WITH TAIL&HOOK< AND TAILwREVERSED EwCLOSED REVERSED OPEN EwFENG DIGR
APHwRAMS HORNwCAPITAL GwG WITH HOOKwCAPITAL G WITH HOOKwH WITH STROKEwCAPITAL HwHENG WITH HOOKwDOT
LESS J WITH STROKE AND HOOKwLS DIGRAPHxZ DIGRAPHx WITH BELTwCAPITAL L WITH BELTwL WITH RETROFLEX H
OOK AND BELTxEZH! WITH RETROFLEX HOOKwTURNED Y+ WITH BELTwO WITH STROKEwCAPITAL OExLOSED OMEGAwQwT
URNED R WITH LONG LEG~G LEG AND RETROFLEX HOOKwR WITH TAIL&FISHHOOKwCAPITAL RwTC DIGRAPH WITH CURL
xS DIGRAPH. WITH RETROFLEX HOOKxESH DIGRAPHx WITH RETROFLEX HOOKwV WITH RIGHT HOOK@107B2;wCAPITA
L YqGLOTTAL STOP WITH STROKEqREVERSED GLOTTAL STOP WITH STROKEqBILABIAL CLICKqDENTAL CLICKqLATERA
L CLICKqALVEOLAR CLICKqRETROFLEX CLICK WITH RETROFLEX HOOKqSMALL S WITH CURL@10800;aCYPRIOT SYLLAB
LE ArErIrOrUrJA@10808;sO@1080A;rKAsEsIsOsUrLAsEsIsOsUrMAsEsIsOsUrNAsEsIsOsUrPAsEsIsOsUrRAsEsIsOsUr
SAsEsIsOsUrTAsEsIsOsUrWAsEsIsO@10837;rXAsE@1083C;rZA@1083F;sOaIMPERIAL ARAMAIC LETTER ALEPHyBETHyG
IMELyDALETHyHEyWAWyZAYINyHETHyTETHyYODHyKAPHyLAMEDHyMEMyNUNySAMEKHyAYINyPEySADHEyQOPHyRESHySHINyTA
W@10857;rSECTION SIGNrNUMBER ONEyTWOzHREEzENzWENTYyONE HUNDRED%THOUSANDyTEN THOUSANDaPALMYRENE LET
TER ALEPHrBETHrGIMELrDALETHrHErWAWrZAYINrHETHrTETHrYODHrKAPHrLAMEDHrMEMrFINAL NUNrNUNrSAMEKHrAYINr
PErSADHErQOPHrRESHrSHINrTAWmFT-POINTING FLEURONkRIGHT-POINTING FLEURONkNUMBER ONErTWOsHREErFOURsIV
ErTENsWENTYaNABATAEAN LETTER FINAL ALEPHrALEPHrFINAL BETHrBETHrGIMELrDALETHrFINAL HErHErWAWrZAYINr
HETHrTETHrFINAL YODHrYODHrFINAL KAPHrKAPHrFINAL LAMEDHrLAMEDHrFINAL MEMrMEMrFINAL NUNrNUNrSAMEKHrA
YINrPErSADHErQOPHrRESHrFINAL SHINrSHINrTAW@108A7;kNUMBER ONErTWOsHREErFOURkCRUCIFORM NUMBER FOURkN
UMBER FIVErTENsWENTYrONE HUNDRED@108E0;aHATRAN LETTER ALEPHoBETHoGIMELoDALETH-RESHoHEoWAWoZAYNoHET
HoTETHoYODHoKAPHoLAMEDHoMEMoNUNoSAMEKHoAYNoPEoSADHEoQOPH@108F4;oSHINoTAW@108FB;hNUMBER ONEoFIVEoTE
NpWENTYoONE HUNDREDaPHOENICIAN LETTER ALFsBETsGAMLsDELTsHEsWAUsZAIsHETsTETsYODsKAFsLAMDsMEMsNUNsSE
MKsAINsPEsSADEsQOFsROSHsSHINsTAUlNUMBER ONEsTENtWENTYsONE HUNDREDsTWOtHREE@1091F;lWORD SEPARATORaL
YDIAN LETTER AoBoGoDoEoVoIoYoKoLoMoNoOoRoSSoToUoFoQoSoTToANoENoLYoNNoC@1093F;hTRIANGULAR MARK@1098
0;aMEROITIC HIEROGLYPHIC LETTER A&E&I&O&YA&WA&BA,-2&PA&MA&NA,-2+E,-2&RA,-2&LA&KHA&HHA&SA,-2+E&KA&Q
A&TA,-2+E,-2+O&DAwSYMBOL VIDJ<-2jCURSIVE LETTER AyEyIyOyYAyWAyBAyPAyMAyNAzEyRAyLAyKHAyHHAySAyARCHA
IC SAySEyKAyQAyTAzEzOyDA@109BC;rFRACTION ELEVEN TWELFTHS!ONE HALFrLOGOGRAM RMT!IMNrNUMBER ONEyTWOz
HREEyFOURzIVEySIXzEVENyEIGHTyNINEyTENzWENTYzHIRTYyFORTYzIFTYySIXTYzEVENTY@109D2;yONE HUNDREDyTWO H
UNDREDzHREE HUNDREDyFOUR HUNDREDzIVE HUNDREDySIX HUNDREDzEVEN HUNDREDyEIGHT HUNDREDyNINE HUNDREDyO
NE THOUSANDyTWO THOUSANDzHREE THOUSANDyFOUR THOUSANDzIVE THOUSANDySIX THOUSANDzEVEN THOUSANDyEIGH
T THOUSANDyNINE THOUSANDyTEN THOUSANDzWENTY THOUSANDzHIRTY THOUSANDyFORTY THOUSANDzIFTY THOUSANDyS
IXTY THOUSANDzEVENTY THOUSANDyEIGHTY THOUSANDyNINETY THOUSANDyONE HUNDRED THOUSANDyTWO HUNDRED THO
USANDzHREE HUNDRED THOUSANDyFOUR HUNDRED THOUSANDzIVE HUNDRED THOUSANDySIX HUNDRED THOUSANDzEVEN H
UNDRED THOUSANDyEIGHT HUNDRED THOUSANDyNINE HUNDRED THOUSANDrFRACTION ONE TWELFTH!TWO TWELFTHS$HRE
E TWELFTHS!FOUR TWELFTHS$IVE TWELFTHS!SIX TWELFTHS$EVEN TWELFTHS!EIGHT TWELFTHS!NINE TWELFTHS!TE
N TWELFTHSaKHAROSHTHI LETTER AlVOWEL SIGN IwUwVOCALIC R@10A05;wEwO@10A0C;rLENGTH MARKlSIGN DOUBL
E RING BELOWqANUSVARAqVISARGAlLETTER KAtHAsGAtHA@10A15;sCAtHAsJA@10A19;sNYAsTTAuHAsDDAuHAsNNAsTAtH
AsDAtHAsNAsPAtHAsBAtHAsMAsYAsRAsLAsVAsSHAtSAtAsZAsHAsKKAsTTTHAvAsVHA@10A38;lSIGN BAR ABOVEqCAUDAqD
OT BELOW@10A3F;lVIRAMAlDIGIT ONErTWOsHREErFOURlNUMBER TENtWENTYsONE HUNDREDwTHOUSANDlFRACTION ON
E HALF@10A50;lPUNCTUATION DOTxSMALL CIRCLExCIRCLEyRESCENT BARxMANGALAMxLOTUSxDANDAyOUBLE DANDAxLIN
ES@10A60;aOLD SOUTH ARABIAN LETTER HEzLAMEDHzHETHzMEMzQOPHzWAWzSHINzRESHzBETHzTAWzSATzKAPHzNUNzKHE
THzSADHE$MEKHzFEzALEF!YNzDHADHEzGIMELzDALETHzGHAYNzTETHzZAYNzDHALETHzYODHzTHAW$ETHsNUMBER ONEzFIFT
YvERIC INDICATOReNORTH ARABIAN LETTER HEHzLAMzHAHzMEEMzQAFzWAWzES-2zREHzBEHzTEHzES-1zKAFzNOONzKHAH
zSADzES-3zFEHzALEF!INzDADzGEEMzDALzGHAINzTAHzZAINzTHALzYEHzTHEHzZAHsNUMBER ONEzTEN!WENTY@10AC0;aMA
NICHAEAN LETTER ALEPHsBETHtHETHsGIMELtHIMELsDALETHsHEsWAWlSIGN UDlLETTER ZAYINtHAYINsJAYINtHAYINsH
ETHsTETHsYODHsKAPHsXAPHsKHAPHsLAMEDHsDHAMEDHsTHAMEDHsMEMsNUNsSAMEKHsAYINtAYINsPEsFEsSADHEsQOPHsXOP
HsQHOPHsRESHsSHINtSHINsTAWlABBREVIATION MARK ABOVE&BELOW@10AEB;lNUMBER ONEsFIVEsTENtWENTYsONE HUND
REDlPUNCTUATION STARxFLEURONxDOUBLE DOT WITHIN DOTzT WITHIN DOT!xTWO DOTSxLINE FILLER@10B00;aAVEST
AN LETTER AqAqOqAOqNqANqErEpEqEpOqOpIqIpUqUpKEpXEqYEqVEpGEqGEqHEpCEpJEpTEqHEpDEqHEpTTEpPEpFEpBEqHE
pNGErYErVEqEqYEqNEpMEpHMEpYYEqEpVEpREpLEpSEpZEpSHEpZHEpSHYEqSHEpHE@10B39;iABBREVIATION MARKaTINY T
WO DOTS OVER ONE DOT PUNCTUATIONaSMALL TWO DOTS OVER ONE DOT PUNCTUATIONaLARGE TWO DOTS OVER ONE D
OT PUNCTUATIONgONE DOT OVER TWO DOTS PUNCTUATIONgTWO RINGS OVER ONE RING PUNCTUATIONgONE RING OVE
R TWO RINGS PUNCTUATIONaINSCRIPTIONAL PARTHIAN LETTER ALEPH+BETH+GIMEL+DALETH+HE+WAW+ZAYIN+HETH+TE
TH+YODH+KAPH+LAMEDH+MEM+NUN+SAMEKH+AYIN+PE+SADHE+QOPH+RESH+SHIN+TAW@10B58;xNUMBER ONE+TWO,HREE+FOU
R+TEN,WENTY+ONE HUNDRED>THOUSANDqHLAVI LETTER ALEPH&BETH&GIMEL&DALETH&HE&WAW-AYIN-RESH&ZAYIN&HETH&
TETH&YODH&KAPH&LAMEDH&MEM-QOPH&NUN&SAMEKH&PE&SADHE+HIN&TAW@10B78;wNUMBER ONE&TWO+HREE&FOUR&TEN+WEN
TY&ONE HUNDRED<THOUSANDaPSALTER PAHLAVI LETTER ALEPHxBETHxGIMELxDALETHxHExWAW-AYIN-RESHxZAYINxHETH
xYODHxKAPHxLAMEDHxMEM-QOPHxNUNxSAMEKHxPExSADHEyHINxTAW@10B99;qSECTION MARKqTURNED SECTION MARKqFOU
R DOTS WITH CROSS,DOT@10BA9;qNUMBER ONExTWOyHREExFOURxTENyWENTYxONE HUNDRED@10C00;aOLD TURKIC LETT
ER ORKHON AsYENISEI A$EsORKHON IsYENISEI I!EsORKHON O!EsYENISEI OEsORKHON ABsYENISEI ABsORKHON AEB
sYENISEI AEBsORKHON AGsYENISEI AGsORKHON AEGsYENISEI AEGsORKHON ADsYENISEI ADsORKHON AEDzEZsYENISE
I EZsORKHON AYsYENISEI AYsORKHON AEYsYENISEI AEYsORKHON AEKsYENISEI AEKsORKHON OEKsYENISEI OEKsORK
HON ALsYENISEI ALsORKHON AELzELT!MzAN!ENsYENISEI AENsORKHON ENTsYENISEI ENTsORKHON ENCsYENISEI ENC
sORKHON ENYsYENISEI ENY!ANGsORKHON ENGsYENISEI AENGsORKHON EPzOPzICzECsYENISEI ECsORKHON AQsYENISE
I AQsORKHON IQsYENISEI IQsORKHON OQsYENISEI OQsORKHON ARsYENISEI ARsORKHON AER!S!ES!SHsYENISEI ASH
sORKHON ESHsYENISEI ESHsORKHON ATsYENISEI ATsORKHON AETsYENISEI AETsORKHON OTzBASH@10C80;eHUNGARIA
N CAPITAL LETTER A+A&EB&AMB&EC+NC+CS+D&AND&E&CLOSE E&EE+F+G,Y+H&I+I&EJ+K&AK&UNK&EL,Y+M+N,Y&O+O&NIK
OLSBURG OE&RUDIMENTA OE&OEE&EP+MP+R&SHORT ER&ES,Z+T+NT+TY+CH&U+U&NIKOLSBURG UE&RUDIMENTA UE&EV+Z,S
+NT-SHAPED SIGN&US@10CC0;oSMALL LETTER A%A$EB$AMB$EC%NC%CS%D$AND$E$CLOSE E$EE%F%G&Y%H$I%I$EJ%K$AK$
UNK$EL&Y%M%N&Y$O%O$NIKOLSBURG OE$RUDIMENTA OE$OEE$EP%MP%R$SHORT ER$ES&Z%T%NT%TY%CH$U%U$NIKOLSBUR
G UE$RUDIMENTA UE$EV%Z&S%NT-SHAPED SIGN$US@10CFA;oNUMBER ONEvFIVEvTENvFIFTYvONE HUNDREDzTHOUSANDaH
ANIFI ROHINGYA LETTER AxBAxPAxTAyTAxJAxCAxHAxKHAxFAxDAyDAxRAyRAxZAxSAyHAxKAxGAxLAxMAxNAxWAxKINNA W
AxYAxKINNA YAxNGAyYAxVAqVOWEL AwIwUwEwOqMARK SAKINvNA KHONNAqSIGN HARBAHAYvTAHALAxNAxSSI@10D30;qDI
GIT ZEROwONEwTWOxHREEwFOURxIVEwSIXxEVENwEIGHTwNINE@10E60;aRUMI DIGIT ONElTWOmHREElFOURmIVElSIXmEVE
NlEIGHTlNINEfNUMBER TENnWENTYnHIRTYmFORTYnIFTYmSIXTYnEVENTYmEIGHTYmNINETYmONE HUNDREDmTWO HUNDREDn
HREE HUNDREDmFOUR HUNDREDnIVE HUNDREDmSIX HUNDREDnEVEN HUNDREDmEIGHT HUNDREDmNINE HUNDREDfFRACTIO
N ONE HALFsQUARTERsTHIRDoTWO THIRDS@10E80;aYEZIDI LETTER ELIFoBEoPEpHEoTHEoSEoCIMpHIMqHIMoHHAoXAoD
ALoZALoRApHAoZAoJAoSINpHINpADoDADoTAoZEoEYNoXHEYNoFAoVAq ALTERNATE FORMoQAFoKAFpHAFoGAFoLAMoMIMoNU
NoUMoWAWoOWoEWoHAYoYOToET@10EAB;hCOMBINING HAMZA MARKrMADDA MARKhHYPHENATION MARK@10EB0;hLETTER LA
M WITH DOT ABOVEoYOT WITH CIRCUMFLEX ABOVE@10F00;aOLD SOGDIAN LETTER ALEPHtFINAL ALEPHtBETHtFINA
L BETHtGIMELtHEtFINAL HEtWAWtZAYINtHETHtYODHtKAPHtLAMEDHtMEMtNUNtFINAL NUN% WITH VERTICAL TAILtSAM
EKHtAYINuLTERNATE AYINtPEtSADHEtFINAL SADHE+ WITH VERTICAL TAILtRESH-AYIN-DALETHtSHINtTAWtFINAL TA
W% WITH VERTICAL TAILmNUMBER ONEtTWOuHREEtFOURuIVEtTENuWENTYuHIRTYtONE HUNDREDmFRACTION ONE HALFmL
IGATURE AYIN-DALETH@10F30;aSOGDIAN LETTER ALEPHpBETHpGIMELpHEpWAWpZAYINpHETHpYODHpKAPHpLAMEDHpMEMp
NUNpSAMEKHpAYINpPEpSADHEpRESH-AYINpSHINpTAWpFETHpLESHiINDEPENDENT SHINiCOMBINING DOT BELOWsTWO DOT
S BELOWsDOT ABOVEsTWO DOTS ABOVEsCURVE ABOVEyBELOWsHOOK ABOVExBELOWsLONG HOOK BELOWsRESH BELOWsSTR
OKE BELOWiNUMBER ONEpTENqWENTYpONE HUNDREDiPUNCTUATION TWO VERTICAL BARS_ WITH DOTSuCIRCLE WITH DO
TuTWO CIRCLES WITH DOTSuHALF CIRCLE WITH DOT@10F70;aOLD UYGHUR LETTER ALEPHsBETHsGIMEL-HETHsWAWsZA
YINsFINAL HETHsYODHsKAPHsLAMEDHsMEMsNUNsSAMEKHsPEsSADHEsRESHsSHINsTAWsLESHlCOMBINING DOT ABOVEzBEL
OWvTWO DOTS ABOVE+BELOWlPUNCTUATION BARxTWO BARS$DOTSxFOUR DOTS@10FB0;aCHORASMIAN LETTER ALEPHsSMA
LL ALEPHsBETHsGIMELsDALETHsHEsWAWsCURLED WAWsZAYINsHETHsYODHsKAPHsLAMEDHsMEMsNUNsSAMEKHsAYINsPEsRE
SHsSHINsTAWlNUMBER ONEsTWOtHREEsFOURsTENtWENTYsONE HUNDRED@10FE0;aELYMAIC LETTER ALEPHpBETHpGIMELp
DALETHpHEpWAWpZAYINpHETHpTETHpYODHpKAPHpLAMEDHpMEMpNUNpSAMEKHpAYINpPEpSADHEpQOPHpRESHpSHINpTAWjIGA
TURE ZAYIN-YODH@11000;aBRAHMI SIGN CANDRABINDUmANUSVARAmVISARGAmJIHVAMULIYAmUPADHMANIYAhLETTER ApA
oIpIoUpUoVOCALIC RxRwLxLoEoAIoOoAUoKApHAoGApHAoNGAoCApHAoJApHAoNYAoTTAqHAoDDAqHAoNNAoTApHAoDApHAoN
AoPApHAoBApHAoMAoYAoRAoLAoVAoSHApSApAoHAoLLAoOLD TAMIL LLLAyRRAyNNNAhVOWEL SIGN AAsBHATTIPROLU AAs
ItIsUtUsVOCALIC R$R!L$LsEsAIsOsAUiIRAMAhDANDAiOUBLE DANDAhPUNCTUATION DOTvUBLE DOTtLINEtCRESCENT B
ARtLOTUS@11052;hNUMBER ONEoTWOpHREEoFOURpIVEoSIXpEVENoEIGHToNINEoTENpWENTYpHIRTYoFORTYpIFTYoSIXTYp
EVENTYoEIGHTYoNINETYoONE HUNDREDsTHOUSANDhDIGIT ZEROnONEnTWOoHREEnFOURoIVEnSIXoEVENnEIGHTnNINEhSIG
N OLD TAMIL VIRAMAhLETTER OLD TAMIL SHORT E+OhVOWEL SIGN OLD TAMIL SHORT E>OhLETTER OLD TAMIL LLA@
1107F;hNUMBER JOINERaKAITHI SIGN CANDRABINDUmANUSVARAmVISARGAhLETTER ApAoIpIoUpUoEoAIoOoAUoKApHAoG
ApHAoNGAoCApHAoJApHAoNYAoTTAqHAoDDAqDHAqHAoRHAoNNAoTApHAoDApHAoNAoPApHAoBApHAoMAoYAoRAoLAoVAoSHApS
ApAoHAhVOWEL SIGN AAsItIsUtUsEsAIsOsAUhSIGN VIRAMAmNUKTAhABBREVIATION SIGNhENUMERATION SIGNhNUMBE
R SIGNhSECTION MARKhDOUBLE SECTION MARKiANDAiOUBLE DANDAhVOWEL SIGN VOCALIC R@110CD;hNUMBER SIGN A
BOVE@110D0;aSORA SOMPENG LETTER SAHuTAHuBAHuCAHuDAHuGAHuMAHuNGAHuLAHuNAHuVAHuPAHuYAHuRAHuHAHuKAHuJ
AHuNYAHuAHuEEHuIHuUHuOHuEHuMAE@110F0;nDIGIT ZEROtONEtTWOuHREEtFOURuIVEtSIXuEVENtEIGHTtNINE@11100;a
CHAKMA SIGN CANDRABINDUmANUSVARAmVISARGAhLETTER AAoIoUoEoKAApHAAoGAApHAAoNGAAoCAApHAAoJAApHAAoNYAA
oTTAAqHAAoDDAAqHAAoNNAAoTAApHAAoDAApHAAoNAAoPAApHAAoBAApHAAoMAAoYYAApAAoRAAoLAAoWAAoSAAoHAAhVOWE
L SIGN AsItIsUtUsEsAIsOsAUsOIhO MARKhAU MARKhVIRAMAhMAAYYAA@11136;hDIGIT ZEROnONEnTWOoHREEnFOURoIV
EnSIXoEVENnEIGHTnNINEhSECTION MARKhDANDAiOUBLE DANDAhQUESTION MARKhLETTER LHAAhVOWEL SIGN AAsEIhLE
TTER VAA@11150;aMAHAJANI LETTER AqIqUqEqOqKArHAqGArHAqCArHAqJArHAqNYAqTTAsHAqDDAsHAqNNAqTArHAqDArH
AqNAqPArHAqBArHAqMAqRAqLAqVAqSAqHAqRRAjSIGN NUKTAjABBREVIATION SIGNjSECTION MARKjLIGATURE SHRI@111
80;aSHARADA SIGN CANDRABINDUnANUSVARAnVISARGAiLETTER AqApIqIpUqUpVOCALIC RyRxLyLpEpAIpOpAUpKAqHApG
AqHApNGApCAqHApJAqHApNYApTTArHApDDArHApNNApTAqHApDAqHApNApPAqHApBAqHApMApYApRApLAqLApVApSHAqSAqApH
AiVOWEL SIGN AAtIuItUuUtVOCALIC R%R$L%LtEtAItOtAUiSIGN VIRAMAnAVAGRAHAnJIHVAMULIYAnUPADHMANIYAiOMi
DANDAjOUBLE DANDAiABBREVIATION SIGNiSEPARATORjANDHI MARKjIGN NUKTAiVOWEL MODIFIER MARKiEXTRA SHOR
T VOWEL MARKiSUTRA MARKiVOWEL SIGN PRISHTHAMATRA EiSIGN INVERTED CANDRABINDUiDIGIT ZEROoONEoTWOpHR
EEoFOURpIVEoSIXpEVENoEIGHToNINEiEKAMiSIGN SIDDHAMiHEADSTROKEiCONTINUATION SIGNiSECTION MARK-1v2@11
1E1;bINHALA ARCHAIC DIGIT ONEwTWOxHREEwFOURxIVEwSIXxEVENwEIGHTwNINEqNUMBER TENyWENTYyHIRTYxFORTYyI
FTYxSIXTYyEVENTYxEIGHTYxNINETYxONE HUNDRED$THOUSAND@11200;aKHOJKI LETTER ApAoIoUoEoAIoOoAUoKApHAoG
ApGApHAoNGAoCApHAoJApJA@11213;oNYAoTTAqHAoDDAqHAoNNAoTApHAoDApDDApHAoNAoPApHAoBApBApHAoMAoYAoRAoLA
oVAoSAoHAoLLAhVOWEL SIGN AAsItIsUsEsAIsOsAUhSIGN ANUSVARAmVIRAMAmNUKTAmSHADDAhDANDAiOUBLE DANDAhWO
RD SEPARATORhSECTION MARKhDOUBLE SECTION MARKhABBREVIATION SIGNhSIGN SUKUN@11280;aMULTANI LETTER A
pIpUpEpKAqHApGA@11288;qHA@1128A;pCAqHApJAqJA@1128F;pNYApTTArHApDDArDArHApNNApTAqHApDAqHApNApPAqHAp
BA@1129F;qHApMApYApRApLApVApSApHApRRAqHAiSECTION MARK@112B0;aKHUDAWADI LETTER AsArIsIrUsUrErAIrOrA
UrKAsHArGAsGAsHArNGArCAsHArJAsJAsHArNYArTTAtHArDDAtDArRRArDDHArNNArTAsHArDAsHArNArPAsHArBAsBAsHArM
ArYArRArLArVArSHAsArHAkSIGN ANUSVARAkVOWEL SIGN AAvIwIvUwUvEvAIvOvAUkSIGN NUKTApVIRAMA@112F0;kDIGI
T ZEROqONEqTWOrHREEqFOURrIVEqSIXrEVENqEIGHTqNINE@11300;aGRANTHA SIGN COMBINING ANUSVARA ABOVEoANDR
ABINDUnANUSVARAnVISARGA@11305;iLETTER AqApIqIpUqUpVOCALIC RxL@1130F;pEEpAI@11313;pOOpAUpKAqHApGAqH
ApNGApCAqHApJAqHApNYApTTArHApDDArHApNNApTAqHApDAqHApNA@1132A;pPAqHApBAqHApMApYApRA@11332;pLAqLA@11
335;pVApSHAqSAqApHA@1133B;aCOMBINING BINDU BELOWaGRANTHA SIGN NUKTAnAVAGRAHAiVOWEL SIGN AAtIuItUuU
tVOCALIC R%R@11347;tEEtAI@1134B;tOOtAUiSIGN VIRAMA@11350;iOM@11357;iAU LENGTH MARK@1135D;iSIGN PLU
TAiLETTER VEDIC ANUSVARAvDOUBLE ANUSVARAqOCALIC RRxLLiVOWEL SIGN VOCALIC L%L@11366;aCOMBINING GRAN
THA DIGIT ZEROyONEyTWOzHREEyFOURzIVEySIX@11370;sLETTER AzKAzNAzVIzPA@11400;aNEWA LETTER AnAmInImUn
UmVOCALIC RvRuLvLmEmAImOmAUmKAnHAmGAnHAmNGAoHAmCAnHAmJAnHAmNYAoHAmTTAoHAmDDAoHAmNNAmTAnHAmDAnHAmNA
nHAmPAnHAmBAnHAmMAnHAmYAmRAnHAmLAnHAmWAmSHAnSAnAmHAfVOWEL SIGN AAqIrIqUrUqVOCALIC RzRyLzLqEqAIqOqA
UfSIGN VIRAMAkCANDRABINDUkANUSVARAkVISARGAkNUKTAkAVAGRAHAkFINAL ANUSVARAfOMfSIDDHIfDANDAgOUBLE DAN
DAfCOMMAfGAP FILLERfABBREVIATION SIGNfDIGIT ZEROlONElTWOmHREElFOURmIVElSIXmEVENlEIGHTlNINEgOUBLE C
OMMAfPLACEHOLDER MARK@1145D;fINSERTION SIGNfSANDHI MARKfLETTER VEDIC ANUSVARAfSIGN JIHVAMULIYAkUPA
DHMANIYA@11480;aTIRHUTA ANJIiLETTER AqApIqIpUqUpVOCALIC RyRxLyLpEpAIpOpAUpKAqHApGAqHApNGApCAqHApJA
qHApNYApTTArHApDDArHApNNApTAqHApDAqHApNApPAqHApBAqHApMApYApRApLApVApSHAqSAqApHAiVOWEL SIGN AAtIuIt
UuUtVOCALIC R%R$L%LtEtSHORT EtAItOtSHORT OtAUiSIGN CANDRABINDUnANUSVARAnVISARGApRAMAnNUKTAnAVAGRAH
AiGVANGiABBREVIATION SIGNiOM@114D0;iDIGIT ZEROoONEoTWOpHREEoFOURpIVEoSIXpEVENoEIGHToNINE@11580;aSI
DDHAM LETTER AqApIqIpUqUpVOCALIC RyRxLyLpEpAIpOpAUpKAqHApGAqHApNGApCAqHApJAqHApNYApTTArHApDDArHApN
NApTAqHApDAqHApNApPAqHApBAqHApMApYApRApLApVApSHAqSAqApHAiVOWEL SIGN AAtIuItUuUtVOCALIC R%R@115B8;t
EtAItOtAUiSIGN CANDRABINDUnANUSVARAnVISARGApRAMAnNUKTAnSIDDHAMiDANDAjOUBLE DANDAiSEPARATOR DOTsBAR
iREPETITION MARK-1y2y3iEND OF TEXT MARKiSECTION MARK WITH TRIDENT AND U-SHAPED ORNAMENTS|DOTTED CR
ESCENTS!RAYS AND DOTTED CRESCENTS~ED DOUBLE CRESCENTS~ED TRIPLE CRESCENTSvDOUBLE RING. WITH RAYSvW
ITH DOUBLE CRESCENTS!TRIPLE CRESCENTS!QUADRUPLE CRESCENTS!SEPTUPLE CRESCENTS!CIRCLES AND RAYS|TW
O ENCLOSURES|FOUR ENCLOSURESiLETTER THREE-CIRCLE ALTERNATE IqWO-CIRCLE ALTERNATE I_IpALTERNATE UiV
OWEL SIGN ALTERNATE U+U@11600;aMODI LETTER AnAmInImUnUmVOCALIC RvRuLvLmEmAImOmAUmKAnHAmGAnHAmNGAmC
AnHAmJAnHAmNYAmTTAoHAmDDAoHAmNNAmTAnHAmDAnHAmNAmPAnHAmBAnHAmMAmYAmRAmLAmVAmSHAnSAnAmHAmLLAfVOWEL S
IGN AAqIrIqUrUqVOCALIC RzRyLzLqEqAIqOqAUfSIGN ANUSVARAkVISARGAmRAMAkARDHACANDRAfDANDAgOUBLE DANDAf
ABBREVIATION SIGNfSIGN HUVA@11650;fDIGIT ZEROlONElTWOmHREElFOURmIVElSIXmEVENlEIGHTlNINE@11660;cNGO
LIAN BIRGA WITH ORNAMENTkROTATED BIRGAkDOUBLE BIRGA WITH ORNAMENTkTRIPLE BIRGA WITH ORNAMENTkBIRG
A WITH DOUBLE ORNAMENTkROTATED BIRGA WITH ORNAMENT&DOUBLE ORNAMENTkINVERTED BIRGAy WITH DOUBLE ORN
AMENTkSWIRL BIRGAv WITH ORNAMENT$DOUBLE ORNAMENTkTURNED SWIRL BIRGA WITH DOUBLE ORNAMENT@11680;aTA
KRI LETTER AoAnIoInUoUnEnAInOnAUnKAoHAnGAoHAnNGAnCAoHAnJAoHAnNYAnTTApHAnDDApHAnNNAnTAoHAnDAoHAnNAn
PAoHAnBAoHAnMAnYAnRAnLAnVAnSHAoAnHAnRRAgSIGN ANUSVARAlVISARGAgVOWEL SIGN AArIsIrUsUrErAIrOrAUgSIG
N VIRAMAlNUKTAgLETTER ARCHAIC KHAgABBREVIATION SIGN@116C0;gDIGIT ZEROmONEmTWOnHREEmFOURnIVEmSIXnEV
ENmEIGHTmNINE@11700;aAHOM LETTER KAnHAmNGAnAmTAmALTERNATE TAmPAnHAmBAmMAmJAmCHAmTHAmRAmLAmSAmNYAmH
AmAmDAnHAmGAmALTERNATE GAmGHAmBHAmJHAmALTERNATE BA@1171D;fCONSONANT SIGN MEDIAL LA$RA$LIGATING RAf
VOWEL SIGN ArAqIrIqUrUqEqAWqOqAIrMfSIGN KILLER@11730;fDIGIT ZEROlONElTWOmHREElFOURmIVElSIXmEVENlEI
GHTlNINEfNUMBER TENnWENTYfSIGN SMALL SECTIONlECTIONkRULAIgYMBOL VIfLETTER CAmTTAoHAmDDAoHAmNNAmLLA
@11800;aDOGRA LETTER AoAnIoInUoUnEnAInOnAUnKAoHAnGAoHAnNGAnCAoHAnJAoHAnNYAnTTApHAnDDApHAnNNAnTAoHA
nDAoHAnNAnPAoHAnBAoHAnMAnYAnRAnLAnVAnSHAoSAoAnHAnRRAgVOWEL SIGN AArIsIrUsUrVOCALIC R!RrErAIrOrAUgS
IGN ANUSVARAlVISARGAnRAMAlNUKTAgABBREVIATION SIGN@118A0;aWARANG CITI CAPITAL LETTER NGAA$A$WI$YU%A
%O$II$UU$E$O$ANG$GA$KO$ENY$YUJ$UC$ENN$ODD$TTE$NUNG$DA$AT%M$BU$PU$HIYO%OLO&RR%AR$SSUU%II$VIYOmSMAL
L LETTER NGAAzAzWIzYU!A!OzIIzUUzEzOzANGzGAzKOzENYzYUJzUCzENNzODDzTTEzNUNGzDAzAT!MzBUzPUzHIYO!OLO$R
R!ARzSSUU!IIzVIYOmDIGIT ZEROsONEsTWOtHREEsFOURtIVEsSIXtEVENsEIGHTsNINEmNUMBER TENuWENTYuHIRTYtFORT
YuIFTYtSIXTYuEVENTYtEIGHTYtNINETY@118FF;mOMaDIVES AKURU LETTER AuAtIuItUuUtE@11909;tO@1190C;tKAuHA
tGAuHAtNGAtCAuHAtJA@11915;tNYAtTTA@11918;tDDAvHAtNNAtTAuHAtDAuHAtNAtPAuHAtBAuHAtMAtYAuYAtRAtLAtVAt
SHAuSAuAtHAtLLAtZAmVOWEL SIGN AAxIyIxUyUxE@11937;xAIxO@1193B;mSIGN ANUSVARArCANDRABINDUrHALANTAmVI
RAMAmPREFIXED NASAL SIGNmMEDIAL YAmINITIAL RAmMEDIAL RAmSIGN NUKTAmDOUBLE DANDAmGAP FILLERmEND O
F TEXT MARK@11950;mDIGIT ZEROsONEsTWOtHREEsFOURtIVEsSIXtEVENsEIGHTsNINE@119A0;aNANDINAGARI LETTE
R AuAtIuItUuUtVOCALIC R%R@119AA;tEtAItOtAUtKAuHAtGAuHAtNGAtCAuHAtJAuHAtNYAtTTAvHAtDDAvHAtNNAtTAuHA
tDAuHAtNAtPAuHAtBAuHAtMAtYAtRAtLAtVAtSHAuSAuAtHAtLLAtRRAmVOWEL SIGN AAxIyIxUyUxVOCALIC R.R@119DA;x
ExAIxOxAUmSIGN ANUSVARArVISARGAtRAMArAVAGRAHArSIDDHAMmHEADSTROKEmVOWEL SIGN PRISHTHAMATRA E@11A00;
aZANABAZAR SQUARE LETTER ArVOWEL SIGN I%UE&%E%OE&%AI&U%REVERSED IxLENGTH MARKrLETTER KAzHAyGAzHAyN
GAyCAzHAyJAyNYAyTTA!HAyDDA!HAyNNAyTAzHAyDAzHAyNAyPAzHAyBAzHAyMAyTSA!HAyDZA!HAyZHAzAy-AyYAyRAyLAyVA
ySHAzSAzAyHAyKSSArFINAL CONSONANT MARKrSIGN VIRAMAwCANDRABINDU< WITH ORNAMENT% WITH ORNAMENTwANUSV
ARAwVISARGArCLUSTER-INITIAL LETTER RAzFINAL LETTER YA|RA|LA|VArINITIAL HEAD MARKrCLOSING HEAD MARK
rMARK TSHEGwSHADwDOUBLE SHADwLONG TSHEGrINITIAL DOUBLE-LINED HEAD MARKrCLOSING DOUBLE-LINED HEAD M
ARKrSUBJOINER@11A50;aSOYOMBO LETTER AiVOWEL SIGN ItUEutEtOuEtAIuUtVOCALIC R$LoLENGTH MARKiLETTER K
AqHApGAqHApNGApCAqHApJAqHApNYApTTArHApDDArHApNNApTAqHApDAqHApNApPAqHApBAqHApMApTSArHApDZApZHAqAp-A
pYApRApLApVApSHAqSAqApHApKSSAiSIGN JIHVAMULIYAnUPADHMANIYAiCLUSTER-INITIAL LETTER RA,LA,SHA.AiFINA
L CONSONANT SIGN G&K&NG&D&N&B&M&R&L&SH+&-AiSIGN ANUSVARAnVISARGAiGEMINATION MARKiSUBJOINERiMARK TS
HEGnSHADnDOUBLE SHADnPLUTAiHEAD MARK WITH MOON AND SUN AND TRIPLE FLAME~ FLAME?iTERMINAL MARK-1w2@
11AB0;aCANADIAN SYLLABICS NATTILIK HI+I&O+O&A+A%SHRI.I,O.O,A.AtSPEvIvOvAaPAU CIN HAU LETTER PAtKAt
LAtMAtDAtZAtVAtNGAtHAtGAtKHAtSAtBAtCAtTAuHAtNAtPHAtRAtFAtCHAtAtEtItOtUuAtIAtFINAL PzKzTzMzNzLzWzNG
zYmRISING TONE LONGxmSANDHI GLOTTAL STOPmRISING TONE LONG FINALyFINALmSANDHI GLOTTAL STOP FINALtTO
NE LONGxx LONG FINALyFINALmMID-LEVEL TONEmGLOTTAL STOP VARIANTmMID-LEVEL TONE LONG FINAL$FINALmLOW
-FALLING TONE LONG%mGLOTTAL STOPmLOW-FALLING TONE LONG FINAL&FINALmGLOTTAL STOP FINAL@11C00;aBHAIK
SUKI LETTER AsArIsIrUsUrVOCALIC R!RzL@11C0A;rErAIrOrAUrKAsHArGAsHArNGArCAsHArJAsHArNYArTTAtHArDDAt
HArNNArTAsHArDAsHArNArPAsHArBAsHArMArYArRArLArVArSHAsSAsArHAkVOWEL SIGN AAvIwIvUwUvVOCALIC R+R&L@1
1C38;vEvAIvOvAUkSIGN CANDRABINDUpANUSVARApVISARGArRAMApAVAGRAHAkDANDAlOUBLE DANDAkWORD SEPARATORkG
AP FILLER-1v2@11C50;kDIGIT ZEROqONEqTWOrHREEqFOURrIVEqSIXrEVENqEIGHTqNINEkNUMBER ONErTWOsHREErFOUR
sIVErSIXsEVENrEIGHTrNINErTENsWENTYsHIRTYrFORTYsIFTYrSIXTYsEVENTYrEIGHTYrNINETYkHUNDREDS UNIT MARK@
11C70;aMARCHEN HEAD MARKiMARK SHADiLETTER KAqHApGApNGApCAqHApJApNYApTAqHApDApNApPAqHApBApMApTSArHA
pDZApWApZHAqAp-ApYApRApLApSHAqApHApA@11C92;iSUBJOINED LETTER KA!HAzGAzNGAzCA!HAzJAzNYAzTA!HAzDAzNA
zPA!HAzBAzMAzTSA$HAzDZAzWAzZHA!A@11CA9;zYAzRAzLAzSHA!AzHAzAiVOWEL SIGN AAtItUtEtOiSIGN ANUSVARAnCA
NDRABINDU@11D00;cSARAM GONDI LETTER AwAvIwIvUwUvE@11D08;vAIvO@11D0B;vAUvKAwHAvGAwHAvNGAvCAwHAvJAwH
AvNYAvTTAxHAvDDAxHAvNNAvTAwHAvDAwHAvNAvPAwHAvBAwHAvMAvYAvRAvLAvVAvSHAwSAwAvHAvLLAvKSSAvJNYAvTRAoVO
WEL SIGN AAzI!IzU!UzVOCALIC R@11D3A;zE@11D3C;zAIzO@11D3F;zAUoSIGN ANUSVARAtVISARGAtNUKTAtCANDRAtHA
LANTAoVIRAMAoREPHApA-KARA@11D50;oDIGIT ZEROuONEuTWOvHREEuFOURvIVEuSIXvEVENuEIGHTuNINE@11D60;aGUNJA
LA GONDI LETTER AwAvIwIvUwU@11D67;vEEvAI@11D6A;vOOvAUvYAvVAvBAwHAvMAvKAwHAvTAwHAvLAvGAwHAvDAwHAvNA
vCAwHAvTTAxHAvLLAvJAwHAvDDAxHAvNGAvPAwHAvHAvRAvSAoVOWEL SIGN AAzI!IzU!U@11D90;zEEzAI@11D93;zOOzAUo
SIGN ANUSVARAtVISARGAoVIRAMAoOM@11DA0;oDIGIT ZEROuONEuTWOvHREEuFOURvIVEuSIXvEVENuEIGHTuNINE@11EE0;
aMAKASAR LETTER KApGApNGApPApBApMApTApDApNApCApJApNYApYApRApLApVApSApAiANGKAiVOWEL SIGN ItUtEtOiPA
SSIMBANGiEND OF SECTION@11FB0;aLISU LETTER YHA@11FC0;aTAMIL FRACTION ONE THREE-HUNDRED-AND-TWENTIE
THtONE-HUNDRED-AND-SIXTIETHtEIGHTIETHtSIXTY-FOURTHtFORTIETHtTHIRTY-SECONDpTHREE EIGHTIETHSvSIXTY-F
OURTHSpONE TWENTIETHtSIXTEENTH-1&2tTENTHtEIGHTHpTHREE TWENTIETHSvSIXTEENTHSpONE FIFTHtQUARTERtHALF
-1y2pTHREE QUARTERSpDOWNSCALING FACTOR KIIZHgSIGN NELlCEVITUlAAZHAAKKUlUZHAKKUlMUUVUZHAKKUlKURUNIl
PATHAKKUlMUKKURUNIlKAACUlPANAMmONlVARAAKANlPAARAMlKUZHIlVELIgWET CULTIVATION SIGNgDRY CULTIVATIO
N SIGNgLAND SIGNgSALT PAN SIGNgTRADITIONAL CREDIT SIGNsNUMBER SIGNgCURRENT SIGNgAND ODD SIGNgSPEN
T SIGNgTOTAL SIGNgIN POSSESSION SIGNgSTARTING FROM SIGNhIGN MUTHALIYAlVAKAIYARAA@11FFF;gPUNCTUATIO
N END OF TEXTaCUNEIFORM SIGN Aq TIMES AxBADxGAN2 TENUxHAxIGIxLAGAR GUNUxMUSHxSAGq2qBr TIMES ASH2yD
UN3 GUNUyGAL!N2 TENUyHAyIGI GUNUzMINyLAGABySHESHyU PLUS U PLUS UsGUNUr2s TIMES BALAGzGAN2 TENUzM
E PLUS ENzSHA3zTAK4qDqKr TIMES ERIN2ySHITA PLUS GISHqLr TIMES ALyDIM2yGISHyHAyKAD3zIySHEyUSHrANrEP
HqMARt TIMES SHEqNr OVER ANsTHREE TIMESsPLUS NAGA OPPOSING AN PLUS NAGA%SQUAREDrSHEqPINqRADt TIME
S KURrKABqSAL2rHs ZIDA TENUtKABA TENUtOVER ASH TUG2 OVER TUG2 TUG2 OVER TUG2 PAP%OVER ASH^ CROSSIN
G ASH OVER ASH OVER ASHs2sGABpBArDrG3rHAR2rLs OVER BALsAGrRsA2qIr TIMES AyGARyIGI GUNUqUr OVER B
U AB!UNsCROSSING BUrLUGu OVER BULUGrRs2pDArGs KISIM5 TIMES A PLUS MASH<MAR.BALAG<I.GA> PLUS MASH<I
>R2<UD.HA.IR> PLUS LU.KAK.LA<U> PLUS MASH2>M.NE.PAP PLUS PAP.SI.TAK4.U2 PLUS GIR2<SHrMrRsA3t4qIrBr
Ms TIMES SHEs2rNs KASKAL U GUNU DISHrSHqUr OVER DUsGUNUsSHESHIGrBs TIMES ESH2s2rGsUDrHrNs3t GUNU
y GUNUs4rR2pEq TIMES PAPrOVER E NUN OVER NUNq2r TIMES A PLUS HA PLUS DAyGARyMIySALzHEyUqDINqGIRqLq
Nr TIMES GAN2% TENUyMEsCROSSING ENsOPPOSING ENsSQUAREDqRENrIN2qSH2qZENt TIMES A$ PLUS LAL^ TIMES L
AL$N!BAD!DUN3 GUNU? GUNU!HA% GUNU!IGI GUNU!KASKAL. SQUARED$U3!LA%L TIMES LAL$I$U!U2$DpGAr GUNUr2
s TIMES A PLUS DA PLUS HA.HA.IGI!B2 TENU PLUS TAB!N!SH%2 PLUS GALzBAD$R PLUS RA!UR% PLUS RAzDA!I$
M TIMES SHE!UBzEL$ PLUS LA!N$ TIMES GAN2 TENUzGAN2 TENU$R!I$4% PLUS A$R2 PLUS SUzHA PLUS LU PLUS E
SH2$L% PLUS LA!I PLUS LI!UB2zIGI GUNU!SH PLUS HU PLUS ASHzKAK$SKAL!ID% PLUS LAL!U3 PLUS ANzLAzME P
LUS EN!IzNUN% OVER NUNzPAzSAL$R!HE% PLUS TUR$ID!UMzTAK4zU!D$ PLUS DUtOVER GA2rBAt CROSSING GABArD
s OVER GAD GAR OVER GARrLs GAD OVER GAD GAR OVER GARsAMrMrNs2t TENUuOVER GAN2uCROSSING GAN2rRs3rSH
ANqESHTINw TIMES KURqIr TIMES EyUsCROSSING GIr4s OVER GI4tCROSSING GI4rDIMrR2t GUNUs3t TIMES A PLU
S IGI!GAN2 TENU!IGI!LU PLUS IGI!PArSALsHt CROSSING GISHuTIMES BAD!TAK4vENUqUr CROSSING GUr2s TIME
S KAK% TIMES IGI GUNUzNUNzSAL PLUS TUG2tGUNUrDs TIMES A PLUS KURzKURtOVER GUD LUGALrLrMs TIMES SHE
rRs7sUNtSHpHAr TENUsGUNUrLqIr TIMES ASH$2yBADyDISHyGADyKINyNUNySHEyUqUrB2t TIMES AN!HAL!KASKAL!LIS
H!UDrL2pIq AqBqDIMt OVER IDIM BUR+SQUAREDqGrIs DIBtRItOVER IGI SHIR OVER SHIR UD OVER UDtGUNUqLr T
IMES GAN2 TENUr2qMr TIMES TAK4sCROSSING IMsOPPOSING IMsSQUAREDrINqNqRqSHpKAr TIMES AzD! PLUS KU3zS
H2yBAD!LAG!RzIyERIN2zSH2yGA!L!N2 TENU!R$ PLUS SHA3 PLUS AzI!R2!SH PLUS SAR&CROSSING GISHzU!R7yIGIz
MyKAKzI!DyLIzUyME! PLUS DU.GI.TEzI! PLUS NUNUZyNEzUNyPIyRUySA!RzHA!E!ID!UzIGzUHURyTARyUz2zDzMUM TI
MES PAzSHyZIr2s CROSSING KA2rBrD2s3s4s5t OVER KAD5rKs TIMES IGI GUNUrLs TIMES BADtCROSSING KALrM2s
4rSKALv LAGAB TIMES U OVER LAGAB TIMES UwOVER KASKAL LAGAB TIMES U OVER LAGAB TIMES UqESH2qIr TIME
S BADyUzDrDrNrSALsHsIM5v OVER KISIM5qUr OVER HI TIMES ASH2 KU OVER HI TIMES ASH2r3r4s VARIANT FORM
r7rLs GUNUrNrRs OPPOSING KURrSHU2qWU318pLArGABu TIMES A% PLUS DA PLUS HA>GAR>LAL%L%N%SH ZIDA TENU$
BAD%I$DAR$EN$GA&R%UD+ PLUS GUD$HA&L%I TIMES NUN$IGI GUNU%M& PLUS HA?LU$KI&N%U3&L+ PLUS HI PLUS A$L
AGAB%ISH%U&L$ME& PLUS EN%USH$NE$SHE PLUS SUM&ITA PLUS GISH PLUS ERIN2~ISH TENU&U2, PLUS SHU2%UM$TA
G&K4%E PLUS A PLUS SU PLUS NA$U% PLUS A>U PLUS U%2 PLUS ASH%D%SHvSQUAREDtRu TIMES SHE+ PLUS SUMvGU
NUz OVER LAGAR GUNU SHErHSHUrLs TIMES LALrMs TIMES KUR% PLUS RUqIrLrMMU2rSHqUr TIMES BADr2s TIME
S ALzBADzESH2& TENUzGAN2 TENUzHI TIMES BADzIMzKAD2%3& PLUS ASH!IzLA PLUS ASH$GABzME PLUS ENzNE!UzS
I PLUS ASH$K2 PLUS BUzTUG2uENUtCROSSING LU2tOPPOSING LU2tSQUAREDuHESHIGr3rGALu OVER LUGALwPPOSIN
G LUGALvSHESHIGrHrLrMs OVER LUM$ GAR OVER GARpMAr TIMES TAK4sGUNUr2rHrRrSHt2qErSqIrNqUr OVER MUrG
s GUNUrNSUBrRGU2rSHt TIMES A!KUR!ZAuOVER MUSH& TIMES A PLUS NAuCROSSING MUSHt3u TIMES A% PLUS DI$D
IvGUNUpNAr2rGAt INVERTEDuTIMES SHU TENUuOPPOSING NAGAtRrM NUTILLUss2qEr TIMES AyUDsSHESHIGqIr TIME
S Er2rMs TIMES GAN2 TENU$R PLUS GAN2 TENUrNDA2v TIMES AN&SH, PLUS ASH%GUD%ME PLUS GAN2 TENU%NE&UN%
SHE, PLUS A AN|SH~H PLUS ASH%U2 PLUS ASH&SHrSAGqUr11rNs LAGAR TIMES GAR,MASH,SAL> OVER NUN LAGAR T
IMES SAL,USHtTENUtOVER NUNtCROSSING NUN, LAGAR OVER LAGARsUZu AB2 TIMES ASHGAB,BI,DUG,GUD,IGI GUNU
,KAD3,LA,NE,SILA3,U2vKISIM5 TIMES BI^ UpPArDrNrPqESH2qIr TIMES AzByBIzUyEyIzByUz2sCROSSING PIrRIG
u TIMES KAL$UD$ZAvOPPOSING PIRIGpRArBqIqUpSArG NUTILLUss TIMES AzDU$BzHAzKAK!URzLUMzMIzNUNzSAL!HID
zTABzU2!B!M!R!SHtOVER SAGtGUNUrLs LAGAB TIMES ASH2rNGA2rRqHAs3t TIMES A!BAD!GISH!NE!SHU2!TUR!U$ PL
US As6sB6sR2rEs HUtOVER SHE GAD OVER GAD GAR OVER GAR%TAB OVER TAB GAR OVER GARsG9sNsSHu2uLAMrID
t TIMES A!IMsMt TIMES A!BAL$ULUG!DIN!GAR!IGI& GUNU!KUSHU2!LUL!MUG!SALsNIGsRt TENUuOVER SHIR BUR OV
ER BURsTArUs OVER INVERTED SHUs2sBURqIr GUNUrGs4t OVER SIG4 SHU2rK2rLA3qUr OVER SUrDs2rHURrMsASHrR
s9pTAr ASTERISKsTIMES HIyMIsGUNUrBs OVER TAB NI OVER NI DISH OVER DISHtSQUAREDrGs TIMES BIzGUDzSHE
$UzTUG2zUDrK4rRqEr GUNUqIr TENUrLrRs TIMES TAK4tOVER TIR$ GAD OVER GAD GAR OVER GARqUrG2rKrMrRs OV
ER TUR ZA OVER ZApUq GUDrU UrOVER U PA OVER PA GAR OVER GARySUR OVER SURyU REVERSED OVER U REVERSE
Dq2qBqDr KUSHU2sTIMES BADyMIyU PLUS U PLUS U~ GUNUsGUNUsSHESHIGz TIMES BADrUGqMr TIMES LAGAByME PL
US DAySHA3yUrBINrUMt TIMES KASKAL!PAqNr GUNUqRr CROSSING URsSHESHIGr2s TIMES A PLUS HA.NA!LzHAzNUN
zU2$ PLUS ASH<BIr4rIs3rUs TIMES A!SHGABzBARzDUNzGA$L$N2 TENU$R!UzHAzIGI!M!SHzKIzLUMzMINzPAzSHE!IG4
zTUzU PLUS GUD!D!RUDAsDAu TIMES UqSHs TIMES AzKU$RzTAK4sXs2sUMXqTUKIqZ3s TIMES KASKALrUpZAr TENUsS
QUARED TIMES KURrGrMXqE2qIr OVER ZIr3rBs KABA TENUrGrZ2qUr5s TIMES ArBURrMpKAP ELAMITEpAB TIMES NU
Nr2 TIMES AqMAR TIMES KUGpDAG KISIM5 TIMES U2 PLUS MASHs3qISH PLUS SHUqUB TIMES SHEpEZEN TIMES GUD
!SHEpGA2 TIMES AN PLUS KAK PLUS A!SH2qE22qIGpHUSHpKA TIMES ANSHEzSH3yGISHzUDyHI TIMES ASH2yLUMyPAy
SHULyTUyUR2pLAGAB TIMES GIqU2 SHESHIG TIMES BADtTIMES ESH2 PLUS LALzSHUpMESHqUSH3 TIMES ZApNA4qINs
9sDA2 TIMES BAL%GIqU11 ROTATED NINETY DEGREESpPESH2 ASTERISKqIR2pSAG TIMES IGI GUNUpTI2pUM TIMES M
Eq U@12400;kNUMERIC SIGN TWO ASHyHREE ASHxFOUR ASHyIVE ASHxSIX ASHyEVEN ASHxEIGHT ASHxNINE ASHxTHR
EE DISHxFOUR DISHyIVE DISHxSIX DISHyEVEN DISHxEIGHT DISHxNINE DISHxFOUR UyIVE UxSIX UyEVEN UxEIGH
T UxNINE UxONE GESH2xTWO GESH2yHREE GESH2xFOUR GESH2yIVE GESH2xSIX GESH2yEVEN GESH2xEIGHT GESH2xNI
NE GESH2xONE GESHUxTWO GESHUyHREE GESHUxFOUR GESHUyIVE GESHUxTWO SHAR2yHREE SHAR2> VARIANT FORMxFO
UR SHAR2yIVE SHAR2xSIX SHAR2yEVEN SHAR2xEIGHT SHAR2xNINE SHAR2xONE SHARUxTWO SHARUyHREE SHARU> VAR
IANT FORMxFOUR SHARUyIVE SHARUxSHAR2 TIMES GAL PLUS DISH~PLUS MINxONE BURUxTWO BURUyHREE BURU< VAR
IANT FORMxFOUR BURUyIVE BURUxTHREE VARIANT FORM ESH16~RM ESH21xFOUR VARIANT FORM LIMMU~M LIMMU4~
M LIMMU A~M LIMMU BxSIX VARIANT FORM ASH9yEVEN VARIANT FORM IMIN3~RM IMIN A~RM IMIN BxEIGHT VARIAN
T FORM USSU~RM USSU3xNINE VARIANT FORM ILIMMU~M ILIMMU3~M ILIMMU4~M ILIMMU AxTWO ASH TENUyHREE AS
H TENUxFOUR ASH TENUyIVE ASH TENUxSIX ASH TENUxONE BAN2xTWO BAN2yHREE BAN2xFOUR BAN2. VARIANT FORM
yIVE BAN2. VARIANT FORMxNIGIDAMIN&ESHxONE ESHE3xTWO ESHE3xONE THIRD DISHxTWO THIRDS DISHxFIVE SIXT
HS DISHxONE THIRD VARIANT FORM AxTWO THIRDS VARIANT FORM AxONE EIGHTH ASH$QUARTER ASHyLD ASSYRIA
N ONE SIXTH~ QUARTERyNE QUARTER GUR$HALF GURxELAMITE ONE THIRD,TWO THIRDS,FORTY.IFTYxFOUR U VARIAN
T FORMyIVE U VARIANT FORMxSIX U VARIANT FORMyEVEN U VARIANT FORMxEIGHT U VARIANT FORMxNINE U VARIA
NT FORM@12470;kPUNCTUATION SIGN OLD ASSYRIAN WORD DIVIDER$VERTICAL COLON$DIAGONAL COLON^TRICOLON^Q
UADCOLON@12480;kSIGN AB TIMES NUN TENUySHU2qD TIMES ESH2pBAD TIMES DISH TENUrHAR2 TIMES AB2%NI%ZAq
U OVER BU TIMES NA2pDA TIMES TAK4rG TIMES KURqIM TIMES IGIzU U Us2 TIMES UDqUG TIMES ANSHE!SH% A
T LEFTzDIN!UNzERIN2zGA!I$R2 GUNU$SHzHA!IzIGI GUNUzKASKAL!UR$SHU2, PLUS KASKALzLAK-020$M% TIMES KUR
!UH PLUS GISHzMASH!ES!IzNIzPIzSHE!I GUNUpE2 TIMES KURyPAPqRIN2 XqSH2 CROSSING ESH2qZEN SHESHIG TIM
ES ASH>HI>IGI GUNU>LA^L>ME^S>SUuTIMES SUpGA2 TIMES BAHAR2zDIM GUNU!UG TIMES IGI GUNU?KASKALzERENzG
A$R PLUS DI>NEzHA PLUS AzKUSHU2 PLUS KASKALzLAM% TIMES KUR!UHzMUSHzNE$ PLUS E2<GIzSHIMzZIZ2rBA ROT
ATED NINETY DEGREESqESHTIN TIMES UqISH TIMES GISH CROSSING GISHqU2 TIMES IGI GUNUrD PLUS GISH TIME
S TAK4pHA TENU GUNUqI TIMES ASH OVER HI TIMES ASHpKA TIMES BUyKAyU U UzRpLAGAB TIMES ZU OVER ZUrK-
003u21v5u30u50v1u62u79 OVER LAK-079 GUNUu80v1 OVER LAK-081u92t130u42t210v9u20v5v8u38u65v6t343v7v8u
83v4u90t441v9w TIMES GU&IGI&PAP PLUS LU3|PAP PLUS LU3&U2 PLUS BAu50v7u70u83u90v2v3v5t550t608u17w T
IMES ASH&BAD&DUN3 GUNU GUNU&KU3&LA&TAR+E&U2+D+RUDAu36u48w TIMES DUB&GA&IGI. GUNU&NI&PAP PLUS PAP P
LUS LU3&SHESH PLUS KI&UD+RUDAt724u49qU2 GUNU TIMES ASHtTIMES DISHzHALzPAP% PLUS PAP PLUS LU3zTAK4p
MI PLUS ZA7qUSH OVER MUSH TIMES GA^KAKpNINDA2 TIMES DIM GUNU%GISH&UL%HI%KESH2%LAK-050%MASH%PAP PLU
S PAP%U& PLUS U&RUDApSAG GUNU TIMES HAtTIMES ENzSHE AT LEFTzTAK4qHA6 TENUrE OVER SHEtPLUS HUB2yNAM
2ySARrU2 PLUS DUG TIMES NIzE2 TIMES ANqI TIMES TAK4pTAK4 PLUS SAGqUM TIMES GAN2 TENUzTHREE DISHpUR
2 INVERTEDtTIMES UDrU TIMES DARA3zLAK-668!U3pZA7qU OVER ZU PLUS SARr5 TIMES THREE DISH TENU@12F90;
bYPRO-MINOAN SIGN CM001w2w4w5w6w7w8w9v10w1w2xBw3w5w7w9v21w3w4w5w6w7w8w9v30w3w4w5w6w7w8w9v40w1w4w6w
7w9v50w1w2w3w4w5w6w8w9v60w1w2w3w4w6w7w8w9v70w1w2w3w4w5xBw6w8w9v80w1w2w3w4w5w6w7w8w9v90w1w2w4w5w6w7
w8w9u100w1w2w3w4w5w7w8w9v10w2w4u301w2@13000;aEGYPTIAN HIEROGLYPH A001x2x3x4x5yAx6yAyBx7x8x9w10x1x2
x3x4yAx5x6x7yAx8x9w20x1x2x3x4x5x6x7x8x9w30x1x2yAx3x4x5x6x7x8x9w40yAx1x2yAx3yAx4x5yAx6x7x8x9w50x1x2
x3x4x5x6x7x8x9w60x1x2x3x4x5x6x7x8x9w70uB001x2x3x4x5yAx6x7x8x9uC001x2yAyByCx3x4x5x6x7x8x9w10yAx1x2x
3x4x5x6x7x8x9w20x1x2x3x4uD001x2x3x4x5x6x7x8yAx9w10x1x2x3x4x5x6x7x8x9w20x1x2x3x4x5x6x7yAx8x9w30x1yA
x2x3x4yAx5x6x7x8x9w40x1x2x3x4x5x6yAx7x8yAx9w50yAyByCyDyEyFyGyHyIx1x2yAx3x4yAx5x6x7x8x9w60x1x2x3x4x
5x6x7yAyByCyDyEyFyGyHuE001x2x3x4x5x6x7x8yAx9yAw10x1x2x3x4x5x6yAx7yAx8x9w20yAx1x2x3x4x5x6x7x8yAx9w3
0x1x2x3x4yAx6x7x8uF001yAx2x3x4x5x6x7x8x9w10x1x2x3yAx4x5x6x7x8x9w20x1yAx2x3x4x5x6x7x8x9w30x1yAx2x3x
4x5x6x7yAx8yAx9w40x1x2x3x4x5yAx6yAx7yAx8x9w50x1yAyByCx2x3uG001x2x3x4x5x6yAx7yAyBx8x9w10x1yAx2x3x4x
5x6x7x8x9w20yAx1x2x3x4x5x6yAx7x8x9w30x1x2x3x4x5x6yAx7yAx8x9w40x1x2x3yAx4x5yAx6x7x8x9w50x1x2x3x4uH0
01x2x3x4x5x6yAx7x8uI001x2x3x4x5yAx6x7x8x9yAw10yAx1yAx2x3x4x5uK001x2x3x4x5x6x7x8uL001x2yAx3x4x5x6yA
x7x8uM001yAyBx2x3yAx4x5x6x7x8x9w10yAx1x2yAyByCyDyEyFyGyHx3x4x5yAx6yAx7yAx8x9w20x1x2yAx3x4yAx5x6x7x
8yAx9w30x1yAx2x3yAyBx4x5x6x7x8x9w40yAx1x2x3x4uN001x2x3x4x5x6x7x8x9w10x1x2x3x4x5x6x7x8yAyBx9w20x1x2
x3x4x5yAx6x7x8x9w30x1x2x3yAx4yAx5yAx6x7yAx8x9w40x1x2vL001y2y3y4y5zAy6y7y8y9x10y1y2y3y4y5y6y7zAy8y9
x20vU001y2y3y4y5y6y7y8y9x10zAy1zAy2y3y4y5y6y7y8zAy9x20y1y2zAuO001yAx2x3x4x5yAx6yAyByCyDyEyFx7x8x9w
10yAyByCx1x2x3x4x5x6x7x8x9yAw20yAx1x2x3x4yAx5yAx6x7x8x9yAw30yAx1x2x3yAx4x5x6yAyByCyDx7x8x9w40x1x2x
3x4x5x6x7x8x9w50yAyBx1uP001yAx2x3yAx4x5x6x7x8x9w10x1uQ001x2x3x4x5x6x7uR001x2yAx3yAyBx4x5x6x7x8x9w1
0yAx1x2x3x4x5x6yAx7x8x9w20x1x2x3x4x5x6x7x8x9uS001x2yAx3x4x5x6yAx7x8x9w10x1x2x3x4yAyBx5x6x7yAx8x9w2
0x1x2x3x4x5x6yAyBx7x8x9w30x1x2x3x4x5yAx6x7x8x9w40x1x2x3x4x5x6uT001x2x3yAx4x5x6x7yAx8yAx9yAw10x1yAx
2x3x4x5x6yAx7x8x9w20x1x2x3x4x5x6x7x8x9w30x1x2yAx3yAx4x5x6uU001x2x3x4x5x6yAyBx7x8x9w10x1x2x3x4x5x6x
7x8x9w20x1x2x3yAx4x5x6x7x8x9yAw30x1x2yAx3x4x5x6x7x8x9w40x1x2uV001yAyByCyDyEyFyGyHyIx2yAx3x4x5x6x7y
AyBx8x9w10x1yAyByCx2yAyBx3x4x5x6x7x8x9w20yAyByCyDyEyFyGyHyIyJyKyLx1x2x3yAx4x5x6x7x8yAx9yAw30yAx1yA
x2x3yAx4x5x6x7yAx8x9w40yAuW001x2x3yAx4x5x6x7x8x9yAw10yAx1x2x3x4yAx5x6x7yAx8yAx9w20x1x2x3x4yAx5uX00
1x2x3x4yAyBx5x6yAx7x8yAuY001yAx2x3x4x5x6x7x8uZ001x2yAyByCyDx3yAyBx4yAx5yAx6x7x8x9w10x1x2x3x4x5yAyB
yCyDyEyFyGyHyIx6yAyByCyDyEyFyGyHuAA001y2y3y4y5y6y7zAzBy8y9x10y1y2y3y4y5y6y7y8y9x20y1y2y3y4y5y6y7y8
y9x30y1y2@13430;uVERTICAL JOINERuHORIZONTAL JOINERuINSERT AT TOP START+BOTTOM START+TOP END+BOTTO
M ENDuOVERLAY MIDDLEuBEGIN SEGMENTuEND SEGMENT@14400;aANATOLIAN HIEROGLYPH A001y2y3y4y5y6y7y8y9x10
zAy1y2y3y4y5y6y7y8y9x20y1y2y3y4y5y6zAy7y8y9x30y1y2y3y4y5y6y7y8y9zAx40y1zAy2y3y4y5zAy6zAzBy7y8y9x50
y1y2y3y4y5y6y7y8y9x60y1y2y3y4y5y6zAzBzCy7y8y9x70y1y2y3y4y5y6y7y8y9x80y1y2y3y4y5y6y7y8y9x90y1y2y3y4
y5y6y7zAy8zAy9w100zAy1zAy2zAy3y4zAzBzCy5zAzBy6y7zAzBzCy8y9x10zAzBy1y2y3y4y5zAy6y7y8y9x20y1y2y3y4y5
zAy6y7y8y9x30y1y2y3y4y5zAy6y7y8y9x40y1y2y3y4y5y6y7y8y9x50y1y2y3y4y5y6y7y8y9x60y1y2y3y4y5y6y7y8y9x7
0y1y2y3y4y5y6y7y8y9x80y1y2y3y4y5y6y7y8y9x90y1y2y3y4y5y6y7y8y9w200y1y2zAzBy3y4y5y6y7zAy8y9zAx10y1y2
y3y4y5zAy6zAy7y8y9x20y1y2y3y4y5y6y7zAy8y9x30y1y2y3y4y5y6y7y8y9x40y1y2y3y4y5y6y7y8y9x50y1y2y3y4y5y6
y7y8y9x60y1y2y3y4y5y6y7zAy8y9x70y1y2y3y4y5y6y7y8y9x80y1y2y3y4y5y6y7y8y9zAx90y1y2y3y4zAy5y6y7y8y9zA
w300y1y2y3y4y5y6y7y8y9zAx10y1y2y3y4y5y6y7y8y9x20y1y2y3y4y5y6y7y8y9zAx30y1y2AzBzCy3y4y5y6zAzBzCy7y8
y9x40y1y2y3y4y5y6y7y8y9x50y1y2y3y4y5y6y7y8y9zAx60y1y2y3y4zAy5y6y7y8zAy9x70y1zAy2y3y4y5y6y7y8y9x80y
1zAy2y3 RA OR RIzAy4y5y6zAy7y8y9x90y1y2y3 EIGHTy4y5y6y7y8y9w400y1y2y3y4y5y6y7y8y9x10 BEGIN LOGOGRA
M MARKzA END LOGOGRAM MARKy1y2y3y4y5y6y7y8y9x20y1y2y3y4y5y6y7y8y9x30y1y2y3y4y5y6y7y8y9x40y1y2y3y4y
5y6y7y8y9x50zAy1y2y3y4y5y6y7zAy8y9x60y1y2y3y4y5y6y7y8y9x70y1y2y3y4y5y6y7y8y9x80y1y2y3y4y5y6y7y8y9x
90y1y2y3y4y5y6y7w501y2y3y4y5y6y7y8y9x10y1y2y3y4y5y6y7y8y9x20y1y2y3y4y5y6y7y8y9x30@16800;aBAMUM LET
TER PHASE-A NGKUE MFONvGBIEE FONvPON MFON PIPAEMGBIEE^BAvNAA MFONvSHUENSHUETvTITA MFONvNZA MFONvSH
INDA PA NJIvPON PA NJI PIPAEMGBIEE|BAvMAEMBGBIEEvTU MAEMBAvNGANGUvMAEMVEUXxNSUAEwVEUAENGAMvSEUNYAM
vNTOQPENvKEUKEUTNDAvNKINDIvSUUvNGKUENZEUMvLAPAQwET KUTvNTAP MFAAvMAEKEUPvPASHAEvGHEUAERAEvPAMSHAEv
MON NGGEUAETvNZUN MEUTvU YUQ NAEvGHEUAEGHEUAEvNTAP NTAAvSISAvMGBASAwEUNJOMNDEUQwOOMPUQvKAFAvPA LEE
RAEWAvNDA LEERAEWAvPETvMAEMKPENvNIKAvPUPvTUAEPvLUAEPvSONJAMvTEUTEUWENvMAENYIvKETvNDAANGGEUAETvKUOQ
vMOOMEUTvSHUMvLOMMAEvFIRIvROMvKPOQvSOQvMAP PIEETvSHIRAEvNTAPvSHOQ NSHUT YUMvNYIT MONGKEUAEQvPAARAE
vNKAARAEvUNKNOWNvNGGENvMAESIvNJAMvMBANYIvNYETvTEUAENvSOTvPAAMvNSHIEEvMAEMvNYIvKAQvNSHAvVEEvLUvNENw
AQvMBAQtB NSHUETvTU MAEMGBIEEvSIEEwET TUvLOM NTEUMvMBA MAELEEvKIEEMvYEURAEvMBAARAEvKAMvPEESHIvYAF
U LEERAEWAvLAM NSHUT NYAMvNTIEE SHEUOQwDU NJAAvGHEUGHEUAEMvPITvTU NSIEEvSHET NJAQyUAEQTUvMFON TEUA
EQwBIT MBAAKETvNYI NTEUMvKEUPUQvGHEUGHENvKEUYEUXvLAANAEvPARUMvVEUMvNGKINDI MVOPxGEU MBUvWUAETvSAKE
UAEvTAAMvMEUQvNGGUOQ$ LARGEvMFIYAQvSUEvMBEURIwONTIEENvNYAEMAEvPUNGAAMvMEUT NGGEETvFEUXvMBUOQvFEEvK
EUAEMvMA NJEUAENA!UQAvLETvNGGAAMwSENvMAvKIQvNGOMtC NGKUE MAEMBAwZAvYUMvWANGKUOQvNGGENwDEUAEREEwGKA
QvGHARAEvMBEEKEETvGBAYIvNYIR MKPARAQ MEUNwTU MBITvMBEUMvPIRIEENvNDOMBUvMBAA CABBAGE-TREEvKEUSHEUAE
PvGHAPvKEUKAQvYU MUOMAEvNZEUMvMBUEvNSEUAENvMBITvYEUQvKPARAQwAAvSEUXvNDIDAvTAASHAEvNJUEQvTITA YUEvS
UAETvNGGUAEN NYAMvVEUXvNANSANAQvMA KEUAERIvNTAAwGGUONvLAPvMBIRIEENwGBASAQvNTEUNGBAvTEUTEUXvNGGUMvF
UEvNDEUTwSAxHAQvBUNGvVEUAEPENvMBERAEvRUvNJAEMvLAMvTITUAEPvNSUOT NGOMwJEEEEvKETvNGGUvMAESIwBUAEMvLU
vKUTvNJAMwGOMvWUPvNGGUEETwSOMwTENvKUOP NKAARAEvNSUNwDAMvMA NSIEEvYAAvNDAPvSHUEQwETFONvMBIwAEMBAwBA
NYIvKEUSEUXvMBEUXvKEUMvMBAA PICKETvYUWOQvNJEUXvMIEEwUAEvSHIQvKEN LAWzFATIGUEvNGAQwAQvLIQvPINwENvTE
TtD MBUOvWAPvNJIvMFONvNJIEEvLIEEvNJEUTwSHEEwGGAAMAEwYAMvWUAENvNGKUNvSHEEvNGKAPvKEUAETMEUNvTEUTvSHE
UAEvNJAPvSUEvKETvYAEMMAEvKUOMvSAPvMFEUTvNDEUXvMALEERIwEUTvSEUAEQvYENvNJEUAEMvKEUOT MBUAEvNGKEURIvT
UvGHAAvNGKYEEvFEUFEUAETvNDEEvMGBOFUMvLEUAEPvNDONvMONIwGBEUNvPUUTvMGBIEEwFOvLUMvNSIEEPvMBAAvKWAETvN
YETvTEUAENvSOTvYUWOQvKEUMvRAEMvTEEEEvNGKEUAEQvMFEUAEvNSIEETvKEUPvPIPwEUTAEvNYUEvLETvNGGAAMvMFIEEvN
GGWAENvYUOMvPAPvYUOPvNDAMwTEUMvSUAEvKUNvNGGEUXxKIEEvTUOTvMEUNvKUQvNSUMvTEUNvMAENJETvNGGAPvLEUMvNGG
UOMwSHUTwJUEQvGHEUAEvKUvREN OLDvTAEwOQvNYIvRIIvLEEEEvMEEEEwvSUUvMUvSHIIxEUXvKYEEvNUvSHUvNTEEvPEEvN
IvSHOQvPUQvMVOPvLOQvREN MUCHvTIvNTUUvMBAA SEVENvSAQvFAAtE NDAPvTOONvMBEUMvLAPvVOMvLOONvPAAvSOMvRAQ
vNSHUOPwDUNvPUAEvTAMvNGKAvKPEUXvWUOvSEEvNGGEUAETvPAAMvTOOvKUOPvLOMvNSHIEEwGOPvMAEMvNGKEUXxOQwSHUEv
RIMGBAvNJEUXvPEEMvSAAvNGGURAEvMGBAvGHEUXvNGKEUAEMwJAEMLIvMAPvLOOTvNGGEEEEwDIQvTAEN NTEUMvSETvPUMvN
DAA SOFTNESSwGGUAESHAE NYAMvYIEEvGHEUNvTUAEvYEUAEvPOvTUMAEvKEUAEvSUAENvTEUAEQvVEUAEvWEUXvLAAMvPUvT
AAQvGHAAMAEvNGEUREUTvSHEUAEQvMGBENwBEEvNZAQwKOMvGBETvTUMvKUETvYAPvNYI CLEAVERvYITvMFEUQvNDIAQvPIEE
QvYUEQvLEUAEMvFUEvGBEUXvNGKUPvKETvMAEvNGKAAMIvGHETvFAvNTUMvPEUTvYEUMvNGGEUAEwYI BETWEENwZUQvPOONvM
IEEvFUETvNAEvMUAEvGHEUAEvFU IvMVIvPUAQvNGKUMvKUTvPIETvNTAPvYEUAETvNGGUPvPA PEOPLEvFU CALLwOMvNJEEv
AvTOQvOvIvLAQvPA PLURALvTAAxQvNDAA MY HOUSEvSHIQvYEUXvNGUAEvYUAENwOQ SWIMMINGzCOVERwUQxNvKEUXvPEUX
vNJEE EPOCHvPUEvWUEvFEEvVEEvLUvMIvREUXwAEvNGUAETxAvSHOyQvFU REMEDYvNAvPIvLOQvKOvMENwAxQvTEUvKIvMON
vTENvFAQvGHOMtF KAvUvKUvEEvREEvTAEvNYIvLAvRIIxEEvMEEEEvTAAvNDAAwJAEMvMvSUUwHIIwIwEUXvKYEEwETvNUAEx
wJUAEvYOQvSHUvYAvNSHAvPEUXvNTEEvWUEvPEEvRUvNIvREUXvKENvNGKWAENxGAvSHOvPUAEvFOMvWAvLIwOQvKOvMBENvRE
NvMAwOwBAAvTETvKPAvSAMBAvVUEQ@16A40;aMRO LETTER TAlNGIlYOlMIMlBAlDAlAlPHIlKHAIlHAOlDAIlCHUlKEAAElO
LlMAEMlNINlPAlOOmlROlSHIlTHEAlEAlWAlElKOlLANnlHAIlRIlTEK@16A60;eDIGIT ZEROkONEkTWOlHREEkFOURlIVEkS
IXlEVENkEIGHTkNINE@16A6E;fANDAfOUBLE DANDAaTANGSA LETTER OZpCpQpXoAZpCpQpXoVZpCpQpXoEZpCpQpXoIZpCp
QpXoUZpCpQpXoAWZqCqQqXoUIZqCqQqXoFINAL NGoLONG UEXoSHORT UEZuAWXoUECqZqQqXpIUZrCrQrXoMZpCpQpXoKApH
AoGAoNGAoSAoYAoWAoPAoNYAoPHAoBAoMAoNAoHAoLAoHTAoTAoDAoRAoNHAoSHAoCAoTSAoGHAoHTTAoTHAoXAoFAoDHAoCHA
oZA@16AC0;hDIGIT ZEROnONEnTWOoHREEnFOURoIVEnSIXoEVENnEIGHTnNINE@16AD0;aBASSA VAH LETTER ENNIrKArSE
rFArMBErYIErGAHrDHIIrKPAHrJOrHWAHrWArZOrGBUrDOrCErUWUrTOrBArVUrYEINrPArWADDArArOsOrUrEEsrI@16AF0;k
COMBINING HIGH TONEuLOW TONEuMID TONEuLOW-MID TONEuHIGH-LOW TONEkFULL STOP@16B00;aPAHAWH HMONG VOW
EL KEEBwVuIBvVuAUBwVuUBvVuEBvVuAIBwVuOOBwVuAWBwVuUABwVuOBvVuIABwVuABvVuWBvVuAABwVnCONSONANT VAUxNT
SAUxLAUxHAUxNLAUxRAUxNKAUxQHAUxYAUxHLAUxMAUxCHAUxNCHAUxHNAUxPLHAUxNTHAUyAUxAUxXAUxCAUnMARK CIM TUB
wSOwKESxHAVwSUAMwHOMwTAUMnSIGN VOS THOMxSHAB CEEBsCIM CHEEMsVOS THIABwFEEMsXYEEM NTXIVyRHOyTOVyFAI
BsVOS SEEVsMEEJ SUABsVOS NRUAsIB YAMsXAUSsCIM TSOV ROG@16B50;nDIGIT ZEROtONEtTWOuHREEtFOURuIVEtSIX
uEVENtEIGHTtNINE@16B5B;nNUMBER TENSuHUNDREDSuTEN THOUSANDSuMILLIONSuHUNDRED MILLIONSuTEN BILLIONSv
RILLIONS@16B63;nSIGN VOS LUBsXYOOsHLIsTHIRD-STAGE HLIsZWJ THAJsHNUBsNQIGsXIABsNTUJsAVsTXHEEJ CEEVs
MEEJ TSEEBsTAUsLOSsMUSsCIM HAIS LUS NTOG NTOGwCUAM TSHOOJwTXWV! CHWVwPUB DAWBwNRES TOS@16B7D;nCLA
N SIGN TSHEEJxYEEGxLISyAUJxXYOOJxKOOxHAWJxMUASxTHOJySABxPHABxKHABxHAMxVAJxFAJxYAJxTSWBxKWMxVWJ@16E
40;aMEDEFAIDRIN CAPITAL LETTER M$S$V$W$ATIU$Z$KP$P$T$G$F$I$K$A$J$E$B$C$U$YU$L$Q$HP$NY$X$D$OE$N$R$O
$AI$YmSMALL LETTER MzSzVzWzATIUzZzKPzPzTzGzFzIzKzAzJzEzBzCzUzYUzLzQzHPzNYzXzDzOEzNzRzOzAIzYmDIGI
T ZEROsONEsTWOtHREEsFOURtIVEsSIXtEVENsEIGHTsNINEmNUMBER TENtELEVENtTWELVEuHIRTEENtFOURTEENuIFTEENt
SIXTEENuEVENTEENtEIGHTEENtNINETEENmDIGIT ONE ALTERNATE FORMsTWO ALTERNATE FORMtHREE ALTERNATE FORM
mCOMMAmFULL STOPmSYMBOL AIVAmEXCLAMATION OH@16F00;bIAO LETTER PAmBAmYI PAmPLAmMAnHAmARCHAIC MAmFAm
VAnFAmTAmDAmYI TTAqAmTTAmDDAmNAnHAmYI NNAmARCHAIC NAmNNAoHAmLAnYAnHAoYAmTLHAmDLHAmTLHYAmDLHYAmKAmG
AmYI KAmQAnGAmNGAoHAmARCHAIC NGAmHAmXAmGHAoHAmTSSAmDZZAmNYAoHAmTSHAmDZHAmYI TSHApDZHAmREFORMED TSH
AmSHAnSAmZHAnSHAmTSAmDZAmYI TSAmSAmZAnSAnZAoSAmARCHAIC ZZAmZZYAoSYAmWAmAHmHHAmBRImSYImDZYImTEnSEmR
TE@16F4F;fSIGN CONSONANT MODIFIER BARfLETTER NASALIZATIONfSIGN ASPIRATIONkREFORMED VOICINGtASPIRAT
IONfVOWEL SIGN ArArHHrNsGqOrOqWOrqErNsGqOEYqIrAsNtGrOrErIrUrNGqUrAsNtGrUrEIrNGqYrIqAEsEqERRqROUNDE
D ERRqERqROUNDED ERqAIqEIqAUqOUqNrGqUOGqYUIqOGrERqVWqIGqEAqIONGqUI@16F8F;fTONE RIGHTkTOP RIGHTkABO
VEkBELOWfLETTER TONE-2r3r4r5r6r7r8mREFORMED TONE-1!2!4!5!6!8@16FE0;aTANGUT ITERATION MARKaNUSHU IT
ERATION MARKaOLD CHINESE HOOK MARKmITERATION MARKaKHITAN SMALL SCRIPT FILLER@16FF0;aVIETNAMESE ALT
ERNATE READING MARK CA>NHAY@18800;aTANGUT COMPONENT-001t2t3t4t5t6t7t8t9s10t1t2t3t4t5t6t7t8t9s20t1t
2t3t4t5t6t7t8t9s30t1t2t3t4t5t6t7t8t9s40t1t2t3t4t5t6t7t8t9s50t1t2t3t4t5t6t7t8t9s60t1t2t3t4t5t6t7t8t
9s70t1t2t3t4t5t6t7t8t9s80t1t2t3t4t5t6t7t8t9s90t1t2t3t4t5t6t7t8t9r100t1t2t3t4t5t6t7t8t9s10t1t2t3t4t
5t6t7t8t9s20t1t2t3t4t5t6t7t8t9s30t1t2t3t4t5t6t7t8t9s40t1t2t3t4t5t6t7t8t9s50t1t2t3t4t5t6t7t8t9s60t1
t2t3t4t5t6t7t8t9s70t1t2t3t4t5t6t7t8t9s80t1t2t3t4t5t6t7t8t9s90t1t2t3t4t5t6t7t8t9r200t1t2t3t4t5t6t7t
8t9s10t1t2t3t4t5t6t7t8t9s20t1t2t3t4t5t6t7t8t9s30t1t2t3t4t5t6t7t8t9s40t1t2t3t4t5t6t7t8t9s50t1t2t3t4
t5t6t7t8t9s60t1t2t3t4t5t6t7t8t9s70t1t2t3t4t5t6t7t8t9s80t1t2t3t4t5t6t7t8t9s90t1t2t3t4t5t6t7t8t9r300
t1t2t3t4t5t6t7t8t9s10t1t2t3t4t5t6t7t8t9s20t1t2t3t4t5t6t7t8t9s30t1t2t3t4t5t6t7t8t9s40t1t2t3t4t5t6t7
t8t9s50t1t2t3t4t5t6t7t8t9s60t1t2t3t4t5t6t7t8t9s70t1t2t3t4t5t6t7t8t9s80t1t2t3t4t5t6t7t8t9s90t1t2t3t
4t5t6t7t8t9r400t1t2t3t4t5t6t7t8t9s10t1t2t3t4t5t6t7t8t9s20t1t2t3t4t5t6t7t8t9s30t1t2t3t4t5t6t7t8t9s4
0t1t2t3t4t5t6t7t8t9s50t1t2t3t4t5t6t7t8t9s60t1t2t3t4t5t6t7t8t9s70t1t2t3t4t5t6t7t8t9s80t1t2t3t4t5t6t
7t8t9s90t1t2t3t4t5t6t7t8t9r500t1t2t3t4t5t6t7t8t9s10t1t2t3t4t5t6t7t8t9s20t1t2t3t4t5t6t7t8t9s30t1t2t
3t4t5t6t7t8t9s40t1t2t3t4t5t6t7t8t9s50t1t2t3t4t5t6t7t8t9s60t1t2t3t4t5t6t7t8t9s70t1t2t3t4t5t6t7t8t9s
80t1t2t3t4t5t6t7t8t9s90t1t2t3t4t5t6t7t8t9r600t1t2t3t4t5t6t7t8t9s10t1t2t3t4t5t6t7t8t9s20t1t2t3t4t5t
6t7t8t9s30t1t2t3t4t5t6t7t8t9s40t1t2t3t4t5t6t7t8t9s50t1t2t3t4t5t6t7t8t9s60t1t2t3t4t5t6t7t8t9s70t1t2
t3t4t5t6t7t8t9s80t1t2t3t4t5t6t7t8t9s90t1t2t3t4t5t6t7t8t9r700t1t2t3t4t5t6t7t8t9s10t1t2t3t4t5t6t7t8t
9s20t1t2t3t4t5t6t7t8t9s30t1t2t3t4t5t6t7t8t9s40t1t2t3t4t5t6t7t8t9s50t1t2t3t4t5t6t7t8t9s60t1t2t3t4t5
t6t7t8aKHITAN SMALL SCRIPT CHARACTER-18B00>1>2>3>4>5>6>7>8>9>A>B>C>D>E>F<10>1>2>3>4>5>6>7>8>9>A>B>
C>D>E>F<20>1>2>3>4>5>6>7>8>9>A>B>C>D>E>F<30>1>2>3>4>5>6>7>8>9>A>B>C>D>E>F<40>1>2>3>4>5>6>7>8>9>A>B
>C>D>E>F<50>1>2>3>4>5>6>7>8>9>A>B>C>D>E>F<60>1>2>3>4>5>6>7>8>9>A>B>C>D>E>F<70>1>2>3>4>5>6>7>8>9>A>
B>C>D>E>F<80>1>2>3>4>5>6>7>8>9>A>B>C>D>E>F<90>1>2>3>4>5>6>7>8>9>A>B>C>D>E>F<A0>1>2>3>4>5>6>7>8>9>A
>B>C>D>E>F<B0>1>2>3>4>5>6>7>8>9>A>B>C>D>E>F<C0>1>2>3>4>5>6>7>8>9>A>B>C>D>E>F<D0>1>2>3>4>5>6>7>8>9>
A>B>C>D>E>F<E0>1>2>3>4>5>6>7>8>9>A>B>C>D>E>F<F0>1>2>3>4>5>6>7>8>9>A>B>C>D>E>F.C00>1>2>3>4>5>6>7>8>
9>A>B>C>D>E>F<10>1>2>3>4>5>6>7>8>9>A>B>C>D>E>F<20>1>2>3>4>5>6>7>8>9>A>B>C>D>E>F<30>1>2>3>4>5>6>7>8
>9>A>B>C>D>E>F<40>1>2>3>4>5>6>7>8>9>A>B>C>D>E>F<50>1>2>3>4>5>6>7>8>9>A>B>C>D>E>F<60>1>2>3>4>5>6>7>
8>9>A>B>C>D>E>F<70>1>2>3>4>5>6>7>8>9>A>B>C>D>E>F<80>1>2>3>4>5>6>7>8>9>A>B>C>D>E>F<90>1>2>3>4>5>6>7
>8>9>A>B>C>D>E>F<A0>1>2>3>4>5>6>7>8>9>A>B>C>D>E>F<B0>1>2>3>4>5>6>7>8>9>A>B>C>D>E>F<C0>1>2>3>4>5>6>
7>8>9>A>B>C>D>E>F<D0>1>2>3>4>5
"

end TargetedConfig.Text.Name
