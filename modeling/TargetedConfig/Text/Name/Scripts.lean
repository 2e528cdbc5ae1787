/-! # Names of the letters of general scripts -/

namespace TargetedConfig.Text.Name

/-- From Armenian to extended Greek. -/
def scripts : String := "
@531;aARMENIAN CAPITAL LETTER AYByBENyGIMyDAyECHyZAyEHzTyTOyZHEyINIyLIWNyXEHyCAyKENyHOyJAyGHADyCHE
HyMENyYIyNOWySHAyVOyCHAyPEHyJHEHyRAySEHyVEWyTIWNyREHyCOyYIWNyPIWRyKEHyOHyFEH@559;jMODIFIER LETTE
R LEFT HALF RINGjAPOSTROPHEjEMPHASIS MARKkXCLAMATION MARKjCOMMAjQUESTION MARKjABBREVIATION MARKjSM
ALL LETTER TURNED AYBwAYBwBENwGIMwDAwECHwZAwEHxTwTOwZHEwINIwLIWNwXEHwCAwKENwHOwJAwGHADwCHEHwMENwYI
wNOWwSHAwVOwCHAwPEHwJHEHwRAwSEHwVEWwTIWNwREHwCOwYIWNwPIWRwKEHwOHwFEHqIGATURE ECH YIWNqETTER YI WIT
H STROKEjFULL STOPjHYPHEN@58D;aRIGHT-FACING ARMENIAN ETERNITY SIGNaLEFT-FACING ARMENIAN ETERNITY S
IGNaARMENIAN DRAM SIGN@591;aHEBREW ACCENT ETNAHTAoSEGOLpHALSHELEToZAQEF QATANuGADOLoTIPEHAoREVIAoZ
ARQAoPASHTAoYETIVoTEVIRoGERESHu MUQDAMrSHAYIMoQARNEY PARAoTELISHA GEDOLAoPAZERoATNAH HAFUKHoMUNAHp
AHAPAKHpERKHAu KEFULAoDARGAoQADMAoTELISHA QETANAoYERAH BEN YOMOoOLEoILUYoDEHIoZINORhMARK MASORA CI
RCLEhPOINT SHEVAnHATAF SEGOLtPATAHtQAMATSoIRIQnTSEREnSEGOLnPATAHnQAMATSnHOLAMs HASER FOR VAVnQUBUT
SnDAGESH OR MAPIQnMETEGiUNCTUATION MAQAFiOINT RAFEiUNCTUATION PASEQiOINT SHIN DOToIN DOTiUNCTUATIO
N SOF PASUQhMARK UPPER DOTmLOWER DOThPUNCTUATION NUN HAFUKHAiOINT QAMATS QATAN@5D0;hLETTER ALEFoBE
ToGIMELoDALEToHEoVAVoZAYINoHEToTEToYODoFINAL KAFoKAFoLAMEDoFINAL MEMoMEMoFINAL NUNoNUNoSAMEKHoAYIN
oFINAL PEoPEoFINAL TSADIoTSADIoQOFoRESHoSHINoTAV@5EF;hYOD TRIANGLEhLIGATURE YIDDISH DOUBLE VAVyVA
V YODyDOUBLE YODhPUNCTUATION GERESHwSHAYIM@600;aARABIC NUMBER SIGNhSIGN SANAHhFOOTNOTE MARKERhSIG
N SAFHAoMVAThNUMBER MARK ABOVEg-INDIC CUBE ROOTnFOURTH ROOTg RAYg-INDIC PER MILLE SIGNrTEN THOUSAN
D SIGNbFGHANI SIGNbRABIC COMMAhDATE SEPARATORhPOETIC VERSE SIGNhSIGN MISRAmSALLALLAHOU ALAYHE WASS
ALLAMmALAYHE ASSALLAMmRAHMATULLAH ALAYHEoDI ALLAHOU ANHUmTAKHALLUSiMALL HIGH TAHsLIGATURE ALEF WIT
H LAM WITH YEHsZAINnFATHAnDAMMAnKASRAiEMICOLONhLETTER MARKhEND OF TEXT MARKhTRIPLE DOT PUNCTUATIO
N MARKhQUESTION MARKhLETTER KASHMIRI YEHoHAMZAoALEF WITH MADDA ABOVEyHAMZA ABOVEoWAW WITH HAMZA AB
OVEoALEF WITH HAMZA BELOWoYEH WITH HAMZA ABOVEoALEFoBEHoTEH MARBUTArpHEHoJEEMoHAHoKHAHoDALoTHALoRE
HoZAINoSEENpHEENpADoDADoTAHoZAHoAINoGHAINoKEHEH WITH TWO DOTS ABOVE!HREE DOTS BELOWoFARSI YEH WIT
H INVERTED V&TWO DOTS ABOVE+HREE DOTS ABOVEhTATWEELhLETTER FEHoQAFoKAFoLAMoMEEMoNOONoHEHoWAWoALE
F MAKSURAoYEHhFATHATANhDAMMATANhKASRATANhFATHAhDAMMAhKASRAhSHADDAiUKUNhMADDAH ABOVEhHAMZA ABOVEnBE
LOWhSUBSCRIPT ALEFhINVERTED DAMMAhMARK NOON GHUNNAhZWARAKAYhVOWEL SIGN SMALL V ABOVEsINVERTED SMAL
L V ABOVEsDOT BELOWhREVERSED DAMMAhFATHA WITH TWO DOTShWAVY HAMZA BELOWg-INDIC DIGIT ZEROtONEtTWOu
HREEtFOURuIVEtSIXuEVENtEIGHTtNINEg PERCENT SIGNhDECIMAL SEPARATORhTHOUSANDS SEPARATORhFIVE POINTE
D STARhLETTER DOTLESS BEHwQAFoSUPERSCRIPT ALEFoALEF WASLAuITH WAVY HAMZA ABOVE?BELOWoHIGH HAMZAy A
LEFzWAWoU WITH HAMZA ABOVEoHIGH HAMZA YEHoTTEHsEHoBEEHoTEH WITH RINGxTHREE DOTS ABOVE DOWNWARDSoPE
HoTEHEHoBEHEHoHAH WITH HAMZA ABOVExTWO DOTS VERTICAL ABOVEoNYEHoDYEHoHAH WITH THREE DOTS ABOVEoTCH
EHtEHoDDALpAL WITH RINGxDOT BELOW. AND SMALL TAHqHALpDAHALpULpAL WITH THREE DOTS ABOVE DOWNWARDSxF
OUR DOTS ABOVEoRREHpEH WITH SMALL VxRINGxDOT BELOWxSMALL V BELOWxDOT BELOW AND DOT ABOVExTWO DOT
S ABOVEoJEHoREH WITH FOUR DOTS ABOVEoSEEN WITH DOT BELOW AND DOT ABOVEyTHREE DOTS BELOW~W AND THRE
E DOTS ABOVEpAD WITH TWO DOTS BELOWyHREE DOTS ABOVEoTAH WITH THREE DOTS ABOVEoAIN WITH THREE DOT
S ABOVEoDOTLESS FEHoFEH WITH DOT MOVED BELOW$BELOWoVEHoFEH WITH THREE DOTS BELOWoPEHEHoQAF WITH DO
T ABOVExTHREE DOTS ABOVEoKEHEHoSWASH KAFoKAF WITH RINGxDOT ABOVEoNGoKAF WITH THREE DOTS BELOWoGAF
r WITH RINGoNGOEHoGAF WITH TWO DOTS BELOWpUEHpAF WITH THREE DOTS ABOVEoLAM WITH SMALL VxDOT ABOVEx
THREE DOTS ABOVE>BELOWoNOON WITH DOT BELOWtGHUNNAoRNOONoNOON WITH RINGyTHREE DOTS ABOVEoHEH DOACHA
SHMEEoTCHEH WITH DOT ABOVEoHEH WITH YEH ABOVEsGOALw WITH HAMZA ABOVEoTEH MARBUTA GOALoWAW WITH RIN
GoKIRGHIZ OEoOEoUoYUoKIRGHIZ YUoWAW WITH TWO DOTS ABOVEoVEoFARSI YEHoYEH WITH TAILxSMALL VoWAW WIT
H DOT ABOVEoEoYEH WITH THREE DOTS BELOWsBARREEy WITH HAMZA ABOVEhFULL STOPhLETTER AEhSMALL HIGH LI
GATURE SAD WITH LAM WITH ALEF MAKSURA$QAF WITH LAM WITH ALEF MAKSURAsMEEM INITIAL FORMsLAM ALEFsJE
EMsTHREE DOTSsSEENhEND OF AYAHhSTART OF RUB EL HIZBiMALL HIGH ROUNDED ZEROsUPRIGHT RECTANGULAR ZER
OsDOTLESS HEAD OF KHAHsMEEM ISOLATED FORMnLOW SEENnHIGH MADDAnWAWnYEHnHIGH YEHsNOONhPLACE OF SAJDA
HhEMPTY CENTRE LOW STOPuHIGH STOPhROUNDED HIGH STOP WITH FILLED CENTREhSMALL LOW MEEMhLETTER DAL W
ITH INVERTED VoREH WITH INVERTED VaEXTENDED ARABIC-INDIC DIGIT ZERO%ONE%TWO&HREE%FOUR&IVE%SIX&EVEN
%EIGHT%NINEaARABIC LETTER SHEEN WITH DOT BELOWoDAD WITH DOT BELOWoGHAIN WITH DOT BELOWhSIGN SINDH
I AMPERSANDtPOSTPOSITION MENhLETTER HEH WITH INVERTED VaSYRIAC END OF PARAGRAPHhSUPRALINEAR FULL S
TOPjBLINEAR FULL STOPjPRALINEAR COLONjBLINEAR COLONhHORIZONTAL COLONhCOLON SKEWED LEFTuRIGHThSUPRA
LINEAR COLON SKEWED LEFTjBLINEAR COLON SKEWED RIGHThCONTRACTIONhHARKLEAN OBELUSqMETOBELUSqASTERISC
US@70F;hABBREVIATION MARKhLETTER ALAPHoSUPERSCRIPT ALAPHoBETHoGAMALt GARSHUNIoDALATHpOTLESS DALAT
H RISHoHEoWAWoZAINoHETHoTETHs GARSHUNIoYUDHs HEoKAPHoLAMADHoMIMoNUNoSEMKATHoFINAL SEMKATHoEoPEoREV
ERSED PEoSADHEoQAPHoRISHoSHINoTAWoPERSIAN BHETHwGHAMALwDHALATHhPTHAHA ABOVEoBELOWoDOTTEDhZQAPHA AB
OVEoBELOWoDOTTEDhRBASA ABOVEnBELOWhDOTTED ZLAMA HORIZONTALuANGULARhHBASA ABOVEnBELOWm-ESASA DOTTED
hESASA ABOVEnBELOWhRWAHAhFEMININE DOThQUSHSHAYAhRUKKAKHAhTWO VERTICAL DOTS ABOVEzBELOWiHREE DOTS A
BOVEsBELOWhOBLIQUE LINE ABOVEuBELOWhMUSIChBARREKH@74D;hLETTER SOGDIAN ZHAINwKHAPHwFEaARABIC LETTE
R BEH WITH THREE DOTS HORIZONTALLY BELOWxDOT BELOW AND THREE DOTS ABOVExTHREE DOTS POINTING UPWARD
S BELOW~ING UPWARDS BELOW AND TWO DOTS ABOVEyWO DOTS BELOW AND DOT ABOVExINVERTED SMALL V BELOWxSM
ALL VoHAH WITH TWO DOTS ABOVEyHREE DOTS POINTING UPWARDS BELOWoDAL WITH TWO DOTS VERTICALLY BELO
W AND SMALL TAHxINVERTED SMALL V BELOWoREH WITH STROKEoSEEN WITH FOUR DOTS ABOVEoAIN WITH TWO DOT
S ABOVEyHREE DOTS POINTING DOWNWARDS ABOVEyWO DOTS VERTICALLY ABOVEoFEH WITH TWO DOTS BELOWyHREE D
OTS POINTING UPWARDS BELOWoKEHEH WITH DOT ABOVEzTHREE DOTS ABOVE^POINTING UPWARDS BELOWoMEEM WIT
H DOT ABOVE%BELOWoNOON WITH TWO DOTS BELOWySMALL TAH+VoLAM WITH BARoREH WITH TWO DOTS VERTICALLY A
BOVExHAMZA ABOVEoSEEN WITH TWO DOTS VERTICALLY ABOVEoHAH WITH SMALL ARABIC LETTER TAH BELOW~TER TA
H AND TWO DOTSoSEEN WITH SMALL ARABIC LETTER TAH AND TWO DOTSoREH WITH SMALL ARABIC LETTER TAH AN
D TWO DOTSoHAH WITH SMALL ARABIC LETTER TAH ABOVEoALEF WITH EXTENDED ARABIC-INDIC DIGIT TWO ABOVE~
-INDIC DIGIT THREE ABOVEoFARSI YEH WITH EXTENDED ARABIC-INDIC DIGIT TWO ABOVE~RABIC-INDIC DIGIT TH
REE ABOVE~RABIC-INDIC DIGIT FOUR BELOWoWAW WITH EXTENDED ARABIC-INDIC DIGIT TWO ABOVE~INDIC DIGI
T THREE ABOVEoYEH BARREE WITH EXTENDED ARABIC-INDIC DIGIT TWO ABOVE~ARABIC-INDIC DIGIT THREE ABOVE
oHAH WITH EXTENDED ARABIC-INDIC DIGIT FOUR BELOWoSEEN WITH EXTENDED ARABIC-INDIC DIGIT FOUR ABOVEy
INVERTED VoKAF WITH TWO DOTS ABOVEaTHAANA LETTER HAAoSHAVIYANIoNOONUoRAAoBAAoLHAVIYANIoKAAFUoALIFU
oVAAVUoMEEMUoFAAFUoDHAALUoTHAAoLAAMUoGAAFUpNAVIYANIoSEENUoDAVIYANIoZAVIYANIoTAVIYANIoYAAoPAVIYANIo
JAVIYANIoCHAVIYANIoTTAAoHHAAoKHAAoTHAALUoZAAoSHEENUpAADHUoDAADHUoTOoZOoAINUoGHAINUoQAAFUoWAAVUhABA
FILIiABAAFILIhIBIFILIhEEBEEFILIhUBUFILIhOOBOOFILIhEBEFILIiYBEYFILIhOBOFILIiABOAFILIhSUKUNhLETTER N
AA@7C0;aNKO DIGIT ZEROkONEkTWOlHREEkFOURlIVEkSIXlEVENkEIGHTkNINEeLETTER AlEElIlElUlOOmlDAGBASINNAl
NlBAlPAlTAlJAlCHAlDAlRAmRAlSAlGBAlFAlKAlLAlNA WOLOSOlMAlNYAmAlHAlWAlYAlNYA WOLOSOlJONA JAqCHAqRAeC
OMBINING SHORT HIGH TONEuLOW TONEuRISING TONEoLONG DESCENDING TONEtHIGH TONEtLOW TONEtRISING TONEo
NASALIZATION MARKoDOUBLE DOT ABOVEeHIGH TONE APOSTROPHEeLOW TONE APOSTROPHEeSYMBOL OO DENNENlGBAKU
RUNENeCOMMAeEXCLAMATION MARKeLAJANYALAN@7FD;eDANTAYALANfOROME SIGNeTAMAN SIGNaSAMARITAN LETTER ALA
FrBITrGAMANrDALATrIYrBAArZENrITrTITrYUTrKAAFrLABATrMIMrNUNrSINGAATrINrFIrTSAADIYrQUFrRISHrSHANrTAA
FkMARK INr-ALAFpOCCLUSIONpDAGESHlODIFIER LETTER EPENTHETIC YUTlARK EPENTHETIC YUTkVOWEL SIGN LON
G EvEvOVERLONG AAvLONG AAvAAvOVERLONG AvLONG AvAkMODIFIER LETTER SHORT AkVOWEL SIGN SHORT AvLONG U
vUkMODIFIER LETTER IkVOWEL SIGN LONG IvIvOvSUKUNkMARK NEQUDAA@830;kPUNCTUATION NEQUDAAwAFSAAQxNGED
wBAUwATMAAUwSHIYYAALAAkABBREVIATION MARKkPUNCTUATION MELODIC QITSAwZIQAAwQITSAwZAEFwTURUwARKAANUwS
OF MASHFAATwANNAAU@840;aMANDAIC LETTER HALQApABqGqDqHpUSHENNApAZpITpATTqKSArqLqMqNqSpINpAPqSZqQqRq
SHqTpDUSHENNApKADpAINiAFFRICATION MARKiVOCALIZATION MARKiGEMINATION MARK@85E;iPUNCTUATION@860;aSYR
IAC LETTER MALAYALAM NGAyJAyNYAyTTAyNNA!NAyBHAyRAyLLA!LAySSA@870;aARABIC LETTER ALEF WITH ATTACHE
D FATHA<TOP RIGHT FATHAyRIGHT MIDDLE STROKEyLEFT MIDDLE STROKEyATTACHED KASRA<BOTTOM RIGHT KASRA<R
OUND DOT ABOVE>IGHT ROUND DOT<LEFT ROUND DOT<ROUND DOT BELOWyDOT ABOVEyATTACHED TOP RIGHT FATHA AN
D DOT ABOVEyRIGHT MIDDLE STROKE AND DOT ABOVEyATTACHED BOTTOM RIGHT KASRA AND DOT ABOVE<TOP RIGH
T FATHA AND LEFT RINGyRIGHT MIDDLE STROKE AND LEFT RINGyATTACHED BOTTOM RIGHT KASRA AND LEFT RING<
RIGHT HAMZA<LEFT HAMZAhTATWEEL WITH OVERSTRUCK HAMZA,WAWuTWO DOTS BELOWhLETTER THIN YEHhBASELINE R
OUND DOThRAISED ROUND DOThLETTER NOON WITH INVERTED SMALL VoHAH WITH INVERTED SMALL V BELOWoTAH WI
TH DOT BELOWxTHREE DOTS BELOWoKEHEH WITH TWO DOTS VERTICALLY BELOWhVERTICAL TAIL@890;hPOUND MARK A
BOVEiIASTRE MARK ABOVE@898;hSMALL HIGH WORD AL-JUZnLOW WORD ISHMAAMxMAALAwTASHEELhMADDA WAAJIBhSUP
ERSCRIPT ALEF MOKHASSAShDOUBLED MADDAhHALF MADDA OVER MADDAhLETTER BEH WITH SMALL V BELOWxHAMZA AB
OVEoJEEM WITH TWO DOTS ABOVEoTAH WITH TWO DOTS ABOVEoFEH WITH DOT BELOW AND THREE DOTS ABOVEoQAF W
ITH DOT BELOWoLAM WITH DOUBLE BARoMEEM WITH THREE DOTS ABOVEoYEH WITH TWO DOTS BELOW AND HAMZA ABO
VE~ND DOT ABOVEoREH WITH LOOPoWAW WITH DOT WITHINoROHINGYA YEHoLOW ALEFoDAL WITH THREE DOTS BELOWo
SAD WITH THREE DOTS BELOWoGAF WITH INVERTED STROKEoSTRAIGHT WAWoZAIN WITH INVERTED V ABOVEoAIN WIT
H THREE DOTS BELOWoKAF WITH DOT BELOWoQAF WITH DOT BELOW AND NO DOTS ABOVEoBEH WITH SMALL MEEM ABO
VEoPEH WITH SMALL MEEM ABOVEoTEH WITH SMALL TEH ABOVEoREH WITH SMALL NOON ABOVEoYEH WITH TWO DOT
S BELOW AND SMALL NOON ABOVEoAFRICAN FEHwQAFwNOONoPEH WITH SMALL VoTEH WITH SMALL VpTEH WITH SMAL
L VpCHEH WITH SMALL VoKEHEH WITH SMALL VoGHAIN WITH THREE DOTS ABOVEoAFRICAN QAF WITH THREE DOTS A
BOVEoJEEM WITH THREE DOTS ABOVE?BELOWoLAM WITH SMALL ARABIC LETTER TAH ABOVEoGRAFhSMALL FARSI YEHn
HIGH FARSI YEHsYEH BARREE WITH TWO DOTS BELOWsWORD SAHsZAHhLARGE ROUND DOT ABOVExBELOWhSUKUN BELOW
hLARGE CIRCLE BELOWnROUND DOT INSIDE CIRCLE BELOWhSMALL LOW WAWnHIGH WORD AR-RUBsSADsAINsQAFsNOO
N WITH KASRAnLOW NOON WITH KASRAnHIGH WORD ATH-THALATHAyS-SAJDAyN-NISFxSAKTAxQIFxWAQFAsFOOTNOTE MA
RKERsSIGN SAFHAhDISPUTED END OF AYAHhTURNED DAMMA BELOWhCURLY FATHAnDAMMAnKASRAnFATHATANnDAMMATANn
KASRATANhTONE ONE DOT ABOVEmTWO DOTS ABOVEmLOOP ABOVEmONE DOT BELOWmTWO DOTS BELOWmLOOP BELOWhOPE
N FATHATANmDAMMATANmKASRATANhSMALL HIGH WAWhFATHA WITH RINGsDOT ABOVEhKASRA WITH DOT BELOWhLEFT AR
ROWHEAD ABOVEhRIGHT ARROWHEAD ABOVEhLEFT ARROWHEAD BELOWhRIGHT ARROWHEAD BELOWhDOUBLE RIGHT ARROWH
EAD ABOVE? WITH DOThRIGHT ARROWHEAD ABOVE WITH DOThDAMMA WITH DOThMARK SIDEWAYS NOON GHUNNAaDEVANA
GARI SIGN INVERTED CANDRABINDUqCANDRABINDUqANUSVARAqVISARGAlLETTER SHORT AsAtAsItIsUtUsVOCALIC R!L
sCANDRA EsSHORT EsEsAIsCANDRA OsSHORT OsOsAUsKAtHAsGAtHAsNGAsCAtHAsJAtHAsNYAsTTAuHAsDDAuHAsNNAsTAt
HAsDAtHAsNAtNNAsPAtHAsBAtHAsMAsYAsRAtRAsLAtLAuLAsVAsSHAtSAtAsHAlVOWEL SIGN OExOElSIGN NUKTAqAVAGRA
HAlVOWEL SIGN AAwIxIwUxUwVOCALIC R,RwCANDRA EwSHORT EwEwAIwCANDRA OwSHORT OwOwAUlSIGN VIRAMAlVOWE
L SIGN PRISHTHAMATRA EwAWlOMlSTRESS SIGN UDATTAxANUDATTAlGRAVE ACCENTlACUTE ACCENTlVOWEL SIGN CAND
RA LONG EwUExUElLETTER QAsKHHAsGHHAsZAsDDDHAsRHAsFAsYYAsVOCALIC RR!LLlVOWEL SIGN VOCALIC L,LlDANDA
mOUBLE DANDAmIGIT ZEROrONErTWOsHREErFOURsIVErSIXsEVENrEIGHTrNINElABBREVIATION SIGNlSIGN HIGH SPACI
NG DOTlLETTER CANDRA AsOEtOEsAWsUEtUEsMARWARI DDAsZHAsHEAVY YAsGGAsJJAsGLOTTAL STOPsDDDAsBBAaBENGA
LI ANJIiSIGN CANDRABINDUnANUSVARAnVISARGA@985;iLETTER AqApIqIpUqUpVOCALIC RxL@98F;pEpAI@993;pOpAUp
KAqHApGAqHApNGApCAqHApJAqHApNYApTTArHApDDArHApNNApTAqHApDAqHApNA@9AA;pPAqHApBAqHApMApYApRA@9B2;pLA
@9B6;pSHAqSAqApHA@9BC;iSIGN NUKTAnAVAGRAHAiVOWEL SIGN AAtIuItUuUtVOCALIC R%R@9C7;tEtAI@9CB;tOtAUiS
IGN VIRAMAiLETTER KHANDA TA@9D7;iAU LENGTH MARK@9DC;iLETTER RRAqHA@9DF;pYYApVOCALIC RRxLLiVOWEL SI
GN VOCALIC L%L@9E6;iDIGIT ZEROoONEoTWOpHREEoFOURpIVEoSIXpEVENoEIGHToNINEiLETTER RA WITH MIDDLE DIA
GONALxLOWER DIAGONALiRUPEE MARKoSIGNiCURRENCY NUMERATOR ONE$TWO%HREE$FOUR$ONE LESS THAN THE DENOMI
NATORrDENOMINATOR SIXTEENiISSHARiGANDA MARKiLETTER VEDIC ANUSVARAiABBREVIATION SIGNiSANDHI MARK@A0
1;aGURMUKHI SIGN ADAK BINDIoBINDIoVISARGA@A05;jLETTER ArAqIrIqUrU@A0F;qEEqAI@A13;qOOqAUqKArHAqGArH
AqNGAqCArHAqJArHAqNYAqTTAsHAqDDAsHAqNNAqTArHAqDArHAqNA@A2A;qPArHAqBArHAqMAqYAqRA@A32;qLArLA@A35;qV
AqSHA@A38;rAqHA@A3C;jSIGN NUKTA@A3E;jVOWEL SIGN AAuIvIuUvU@A47;uEEuAI@A4B;uOOuAUjSIGN VIRAMA@A51;o
UDAAT@A59;jLETTER KHHAqGHHAqZAqRRA@A5E;qFA@A66;jDIGIT ZEROpONEpTWOqHREEpFOURqIVEpSIXqEVENpEIGHTpNI
NEjTIPPIjADDAKjIRIjURAjEK ONKARjSIGN YAKASHjABBREVIATION SIGN@A81;cJARATI SIGN CANDRABINDUoANUSVAR
AoVISARGA@A85;jLETTER ArAqIrIqUrUqVOCALIC RyLjVOWEL CANDRA E@A8F;jLETTER EqAIjVOWEL CANDRA O@A93;j
LETTER OqAUqKArHAqGArHAqNGAqCArHAqJArHAqNYAqTTAsHAqDDAsHAqNNAqTArHAqDArHAqNA@AAA;qPArHAqBArHAqMAqY
AqRA@AB2;qLArLA@AB5;qVAqSHArSArAqHA@ABC;jSIGN NUKTAoAVAGRAHAjVOWEL SIGN AAuIvIuUvUuVOCALIC R&RuCAN
DRA E@AC7;uEuAIuCANDRA O@ACB;uOuAUjSIGN VIRAMA@AD0;jOM@AE0;jLETTER VOCALIC RRyLLjVOWEL SIGN VOCALI
C L&L@AE6;jDIGIT ZEROpONEpTWOqHREEpFOURqIVEpSIXqEVENpEIGHTpNINEjABBREVIATION SIGNjRUPEE SIGN@AF9;j
LETTER ZHAjSIGN SUKUNpHADDAoMADDAHoTHREE-DOT NUKTA ABOVEoCIRCLE NUKTA ABOVEoTWO-CIRCLE NUKTA ABOVE
@B01;aORIYA SIGN CANDRABINDUlANUSVARAlVISARGA@B05;gLETTER AoAnIoInUoUnVOCALIC RvL@B0F;nEnAI@B13;nO
nAUnKAoHAnGAoHAnNGAnCAoHAnJAoHAnNYAnTTApHAnDDApHAnNNAnTAoHAnDAoHAnNA@B2A;nPAoHAnBAoHAnMAnYAnRA@B32
;nLAoLA@B35;nVAnSHAoSAoAnHA@B3C;gSIGN NUKTAlAVAGRAHAgVOWEL SIGN AArIsIrUsUrVOCALIC R!R@B47;rErAI@B
4B;rOrAUgSIGN VIRAMA@B55;lOVERLINEgAI LENGTH MARKhU LENGTH MARK@B5C;gLETTER RRAoHA@B5F;nYYAnVOCALI
C RRvLLgVOWEL SIGN VOCALIC L!L@B66;gDIGIT ZEROmONEmTWOnHREEmFOURnIVEmSIXnEVENmEIGHTmNINEgISSHARgLE
TTER WAgFRACTION ONE QUARTERtHALFpTHREE QUARTERSpONE SIXTEENTHtEIGHTHpTHREE SIXTEENTHS@B82;aTAMI
L SIGN ANUSVARAlVISARGA@B85;gLETTER AoAnIoInUoU@B8E;nEoEnAI@B92;nOoOnAUnKA@B99;nNGAnCA@B9C;nJA@B9E
;nNYAnTTA@BA3;nNNAnTA@BA8;nNAoNNAnPA@BAE;nMAnYAnRAoRAnLAoLApLAnVAnSHAoSAoAnHA@BBE;gVOWEL SIGN AArI
sIrUsU@BC6;rEsErAI@BCA;rOsOrAUgSIGN VIRAMA@BD0;gOM@BD7;gAU LENGTH MARK@BE6;gDIGIT ZEROmONEmTWOnHRE
EmFOURnIVEmSIXnEVENmEIGHTmNINEgNUMBER TENnONE HUNDREDrTHOUSANDgDAY SIGNgMONTH SIGNgYEAR SIGNgDEBI
T SIGNgCREDIT SIGNgAS ABOVE SIGNgRUPEE SIGNgNUMBER SIGN@C00;bELUGU SIGN COMBINING CANDRABINDU ABOV
EnANDRABINDUmANUSVARAmVISARGAmCOMBINING ANUSVARA ABOVEhLETTER ApAoIpIoUpUoVOCALIC RwL@C0E;oEpEoAI@
C12;oOpOoAUoKApHAoGApHAoNGAoCApHAoJApHAoNYAoTTAqHAoDDAqHAoNNAoTApHAoDApHAoNA@C2A;oPApHAoBApHAoMAoY
AoRApRAoLApLAqLAoVAoSHApSApAoHA@C3C;hSIGN NUKTAmAVAGRAHAhVOWEL SIGN AAsItIsUtUsVOCALIC R$R@C46;sEt
EsAI@C4A;sOtOsAUhSIGN VIRAMA@C55;hLENGTH MARKhAI LENGTH MARK@C58;hLETTER TSAoDZAoRRRA@C5D;oNAKAAR
A POLLU@C60;oVOCALIC RRwLLhVOWEL SIGN VOCALIC L$L@C66;hDIGIT ZEROnONEnTWOoHREEnFOURoIVEnSIXoEVENnE
IGHTnNINE@C77;hSIGN SIDDHAMhFRACTION DIGIT ZERO FOR ODD POWERS OF FOURwONE FOR ODD POWERS OF FOURw
TWO FOR ODD POWERS OF FOURxHREE FOR ODD POWERS OF FOURwONE FOR EVEN POWERS OF FOURwTWO FOR EVEN PO
WERS OF FOURxHREE FOR EVEN POWERS OF FOURhSIGN TUUMUaKANNADA SIGN SPACING CANDRABINDUnCANDRABINDUn
ANUSVARAnVISARGAnSIDDHAMiLETTER AqApIqIpUqUpVOCALIC RxL@C8E;pEqEpAI@C92;pOqOpAUpKAqHApGAqHApNGApCA
qHApJAqHApNYApTTArHApDDArHApNNApTAqHApDAqHApNA@CAA;pPAqHApBAqHApMApYApRAqRApLAqLA@CB5;pVApSHAqSAqA
pHA@CBC;iSIGN NUKTAnAVAGRAHAiVOWEL SIGN AAtIuItUuUtVOCALIC R%R@CC6;tEuEtAI@CCA;tOuOtAUiSIGN VIRAMA
@CD5;iLENGTH MARKiAI LENGTH MARK@CDD;iLETTER NAKAARA POLLUpFA@CE0;pVOCALIC RRxLLiVOWEL SIGN VOCALI
C L%L@CE6;iDIGIT ZEROoONEoTWOpHREEoFOURpIVEoSIXpEVENoEIGHToNINE@CF1;iSIGN JIHVAMULIYAnUPADHMANIYA@
D00;aMALAYALAM SIGN COMBINING ANUSVARA ABOVEqANDRABINDUpANUSVARApVISARGAkLETTER VEDIC ANUSVARArAsA
rIsIrUsUrVOCALIC RzL@D0E;rEsErAI@D12;rOsOrAUrKAsHArGAsHArNGArCAsHArJAsHArNYArTTAtHArDDAtHArNNArTAs
HArDAsHArNAsNNArPAsHArBAsHArMArYArRAsRArLAsLAtLArVArSHAsSAsArHArTTTAkSIGN VERTICAL BAR VIRAMApCIRC
ULAR VIRAMApAVAGRAHAkVOWEL SIGN AAvIwIvUwUvVOCALIC R+R@D46;vEwEvAI@D4A;vOwOvAUkSIGN VIRAMAkLETTE
R DOT REPHkSIGN PARA@D54;kLETTER CHILLU MyYyLLLkAU LENGTH MARKkFRACTION ONE ONE-HUNDRED-AND-SIXTIE
THxFORTIETHtTHREE EIGHTIETHStONE TWENTIETHyENTHtTHREE TWENTIETHStONE FIFTHkLETTER ARCHAIC IIrVOCAL
IC RRzLLkVOWEL SIGN VOCALIC L+L@D66;kDIGIT ZEROqONEqTWOrHREEqFOURrIVEqSIXrEVENqEIGHTqNINEkNUMBER T
ENrONE HUNDREDvTHOUSANDkFRACTION ONE QUARTERxHALFtTHREE QUARTERStONE SIXTEENTHxEIGHTHtTHREE SIXTEE
NTHSkDATE MARKkLETTER CHILLU NNzyRRyLzLyK@D81;aSINHALA SIGN CANDRABINDUnANUSVARAYAnVISARGAYA@D85;i
LETTER AYANNAqAYANNAqEYANNArEYANNApIYANNAqIYANNApUYANNAqUYANNApIRUYANNAsUYANNAqLUYANNAsUYANNApEYAN
NAqEYANNApAIYANNApOYANNAqOYANNApAUYANNA@D9A;qLPAPRAANA KAYANNApMAHAAPRAANA KAYANNApALPAPRAANA GAYA
NNApMAHAAPRAANA GAYANNApKANTAJA NAASIKYAYApSANYAKA GAYANNApALPAPRAANA CAYANNApMAHAAPRAANA CAYANNAp
ALPAPRAANA JAYANNApMAHAAPRAANA JAYANNApTAALUJA NAASIKYAYAxSANYOOGA NAAKSIKYAYApSANYAKA JAYANNApALP
APRAANA TTAYANNApMAHAAPRAANA TTAYANNApALPAPRAANA DDAYANNApMAHAAPRAANA DDAYANNAqUURDHAJA NAYANNApSA
NYAKA DDAYANNApALPAPRAANA TAYANNApMAHAAPRAANA TAYANNApALPAPRAANA DAYANNApMAHAAPRAANA DAYANNApDANTA
JA NAYANNA@DB3;pSANYAKA DAYANNApALPAPRAANA PAYANNApMAHAAPRAANA PAYANNApALPAPRAANA BAYANNApMAHAAPRA
ANA BAYANNArYANNApAMBA BAYANNApYAYANNApRAYANNA@DBD;pDANTAJA LAYANNA@DC0;pVAYANNApTAALUJA SAYANNApM
UURDHAJA SAYANNApDANTAJA SAYANNApHAYANNApMUURDHAJA LAYANNApFAYANNA@DCA;iSIGN AL-LAKUNA@DCF;iVOWE
L SIGN AELA-PILLAtKETTI AEDA-PILLAtDIGA AEDA-PILLAtKETTI IS-PILLAtDIGA IS-PILLAtKETTI PAA-PILLA@DD
6;tDIGA PAA-PILLA@DD8;tGAETTA-PILLAtKOMBUVAtDIGA KOMBUVAtKOMBU DEKAyVA HAA AELA-PILLA,DIGA AELA-PI
LLA,GAYANUKITTAtGAYANUKITTA@DE6;iLITH DIGIT ZEROtONEtTWOuHREEtFOURuIVEtSIXuEVENtEIGHTtNINE@DF2;iVO
WEL SIGN DIGA GAETTA-PILLA!YANUKITTAiPUNCTUATION KUNDDALIYA@E01;aTHAI CHARACTER KO KAIqHO KHAIvUAT
vWAIvONtRAKHANGpNGO NGUpCHO CHANvINGvANGpSO SOpCHO CHOEpYO YINGpDO CHADApTO PATAKqHO THANtNANGMONT
HOtPHUTHAOpNO NENpDO DEKpTO TAOqHO THUNGvAHANvONGpNO NUpBO BAIMAIpPO PLAqHO PHUNGpFO FApPHO PHANpF
O FANpPHO SAMPHAOpMO MApYO YAKpRO RUAqUpLO LINGqUpWO WAENpSO SALAsRUSIsSUApHO HIPpLO CHULApO ANGpH
O NOKHUKpPAIYANNOIpSARA ApMAI HAN-AKATpSARA AAvMuIvIuUEwEvvUpPHINTHU@E3F;gURRENCY SYMBOL BAHTgHARA
CTER SARA EuAEuOuAI MAIMUAN$ALAIpLAKKHANGYAOpMAIYAMOKsTAIKHUs EKtTHOuRItCHATTAWApTHANTHAKHATpNIKHA
HITpYAMAKKANpFONGMANfDIGIT ZEROlONElTWOmHREElFOURmIVElSIXmEVENlEIGHTlNINEfCHARACTER ANGKHANKHUpKHO
MUT@E81;aLAO LETTER KOmHO SUNG@E84;pTAM@E86;lPALI GHAlNGOlCOlPALI CHAlSO TAM@E8C;lPALI JHAlNYOlPAL
I NYAqTTAsHAqDDAsHAqNNAlDOlTOmHO SUNGpTAMlPALI DHAlNOlBOlPOmHO SUNGlFO TAMlPHO TAMlFO SUNGlPALI BH
AlMOlYOlLO LING@EA5;pOOT@EA7;lWOlSANSKRIT SHAvSAmO SUNGlHO SUNGlPALI LLAlOlHO TAMeELLIPSISeVOWEL S
IGN ApMAI KANpAAqMpIqIpYqYpUqUeSIGN PALI VIRAMAeVOWEL SIGN MAI KONeSEMIVOWEL SIGN LOtNYO@EC0;eVOWE
L SIGN EqIpOpAYqI@EC6;eKO LA@EC8;eTONE MAI EKnTHOoInCATAWAeCANCELLATION MARKeNIGGAHITA@ED0;eDIGI
T ZEROkONEkTWOlHREEkFOURlIVEkSIXlEVENkEIGHTkNINE@EDC;eHO NOhMOeLETTER KHMU GOqNYO@F00;aTIBETAN SYL
LABLE OMiMARK GTER YIG MGO TRUNCATED A!-UM RNAM BCAD MA+GTER TSHEG MAnINITIAL YIG MGO MDUN MAnCLOS
ING YIG MGO SGAB MAoARET YIG MGO PHUR SHAD MAnYIG MGO TSHEG SHAD MAnSBRUL SHADnBSKUR YIG MGOoKA- S
HOG YIG MGOnINTERSYLLABIC TSHEGnDELIMITER TSHEG BSTARnSHADnNYIS SHADnTSHEG SHADnNYIS TSHEG SHADnRI
N CHEN SPUNGS SHADoGYA GRAM SHADnCARET -DZUD RTAGS ME LONG CANnGTER TSHEGiLOGOTYPE SIGN CHAD RTAGS
wLHAG RTAGSiASTROLOGICAL SIGN SGRA GCAN -CHAR RTAGS!-KHYUD PA!SDONG TSHUGSiSIGN RDEL DKAR GCIGyNYI
SySUMsNAG GCIGxNYISsDKAR RDEL NAGiDIGIT ZEROoONEoTWOpHREEoFOURpIVEoSIXpEVENoEIGHToNINEoHALF ONEtTW
OuHREEtFOURuIVEtSIXuEVENtEIGHTtNINEtZEROiMARK BSDUS RTAGSnNGAS BZUNG NYI ZLAnCARET -DZUD RTAGS BZH
I MIG CANnNGAS BZUNG SGOR RTAGSnCHE MGOnTSA -PHRUnGUG RTAGS GYONzASnANG KHANG GYONzASiSIGN YAR TSH
ESnMAR TSHESiLETTER KAqHApGAqHApNGApCAqHApJA@F49;pNYApTTArHApDDArHApNNApTAqHApDAqHApNApPAqHApBAqHA
pMApTSArHApDZArHApWApZHAqAp-ApYApRApLApSHAqSAqApHApApKSSApFIXED-FORM RApKKApRRA@F71;iVOWEL SIGN AA
tIuItUuUtVOCALIC R%R$L%LtEuEtOuOiSIGN RJES SU NGA ROoNAM BCADiVOWEL SIGN REVERSED I&IiSIGN NYI ZL
A NAA DAnSNA LDANiMARK HALANTAnPALUTAiSIGN LCI RTAGSnYANG RTAGSnLCE TSA CANnMCHU CANnGRU CAN RGYIN
GSrMED RGYINGSnINVERTED MCHU CANjUBJOINED SIGN LCE TSA CANxMCHU CANxINVERTED MCHU CANsLETTER KA!HA
zGA!HAzNGAzCA!HAzJA@F99;zNYAzTTA$HAzDDA$HAzNNAzTA!HAzDA!HAzNAzPA!HAzBA!HAzMAzTSA$HAzDZA$HAzWAzZHA!
Az-AzYAzRAzLAzSHA!SA!AzHAzAzKSSAzFIXED-FORM WA^YA^RA@FBE;iKU RU KHAr BZHI MIG CANiCANTILLATION SIG
N HEAVY BEAT!LIGHT BEAT!CANG TE-U!SBUB -CHALiSYMBOL DRIL BUpRDO RJEpPADMA GDANpRDO RJE RGYA GRAMpP
HUR PApNOR BUv NYIS -KHYILwGSUM -KHYILwBZHI -KHYIL@FCE;jIGN RDEL NAG RDEL DKARwGSUMiMARK BSKA- SHO
G GI MGO RGYANnMNYAM YIG GI MGO RGYANnNYIS TSHEGnINITIAL BRDA RNYING YIG MGO MDUN MAnCLOSING BRD
A RNYING YIG MGO SGAB MAaRIGHT-FACING SVASTI SIGNaLEFT-FACING SVASTI SIGNaRIGHT-FACING SVASTI SIG
N WITH DOTSaLEFT-FACING SVASTI SIGN WITH DOTSaTIBETAN MARK LEADING MCHAN RTAGSnTRAILING MCHAN RTAG
S@1000;aMYANMAR LETTER KAqHApGAqHApNGApCAqHApJAqHApNYAqNYApTTArHApDDArHApNNApTAqHApDAqHApNApPAqHAp
BAqHApMApYApRApLApWApSApHApLLApApSHAN ApIqIpUqUpEpMON EpOpAUiVOWEL SIGN TALL AAtAAtIuItUuUtEtAItMO
N IIxOtE ABOVEiSIGN ANUSVARAnDOT BELOWnVISARGApRAMAnASATiCONSONANT SIGN MEDIAL YA+RA+WA+HAiLETTE
R GREAT SAiDIGIT ZEROoONEoTWOpHREEoFOURpIVEoSIXpEVENoEIGHToNINEiSIGN LITTLE SECTIONnSECTIONjYMBO
L LOCATIVEpCOMPLETEDpAFOREMENTIONEDpGENITIVEiLETTER SHAqSApVOCALIC RyRxLyLiVOWEL SIGN VOCALIC R%R$
L%LiLETTER MON NGAtJHAtBBAvEiCONSONANT SIGN MON MEDIAL NA>MA>LAiLETTER SGAW KAREN SHAiVOWEL SIGN S
GAW KAREN EUiTONE MARK SGAW KAREN HATHI&KE PHOiLETTER WESTERN PWO KAREN THA<PWAiVOWEL SIGN WESTER
N PWO KAREN EU_UEiSIGN WESTERN PWO KAREN TONE-1^2^3^4^5iLETTER EASTERN PWO KAREN NNA<YWA<GHWAiVOWE
L SIGN GEBA KAREN ItKAYAH OEzUzEEiLETTER SHAN KAvHAuGAuCAuZAuNYAuDAuNAuPHAuFAuBAuTHAuHAiCONSONAN
T SIGN SHAN MEDIAL WAiVOWEL SIGN SHAN AAyEz ABOVEyFINAL YiSIGN SHAN TONE-2x3x5x6sCOUNCIL TONE-2,3!
EMPHATIC TONEiLETTER RUMAI PALAUNG FAiSIGN RUMAI PALAUNG TONE-5jHAN DIGIT ZEROtONEtTWOuHREEtFOURuI
VEtSIXuEVENtEIGHTtNINEjIGN KHAMTI TONE-1z3iVOWEL SIGN AITON A!IiSYMBOL SHAN ONEuEXCLAMATIONaGEORGI
AN CAPITAL LETTER ANyBANyGANyDONyENyVINyZENyTANyINyKANyLASyMANyNARyONyPARyZHARyRAEySANyTARyUNyPHAR
yKHARyGHANyQARySHINyCHINzANyJILyCILzHARyXANyJHANyHAEzEzIEyWEyHARzOE@10C7;yYN@10CD;yAEN@10D0;jLETTE
R ANqBANqGANqDONqENqVINqZENqTANqINqKANqLASqMANqNARqONqPARqZHARqRAEqSANqTARqUNqPHARqKHARqGHANqQARqS
HINqCHINrANqJILqCILrHARqXANqJHANqHAErErIEqWEqHARrOEqFIqYNqELIFIqTURNED GANqAINjPARAGRAPH SEPARATOR
aMODIFIER LETTER GEORGIAN NARaGEORGIAN LETTER AENqHARD SIGNqLABIAL SIGNaHANGUL CHOSEONG KIYEOKqSSA
NGKIYEOKqNIEUNqTIKEUTqSSANGTIKEUTqRIEULqMIEUMqPIEUPqSSANGPIEUPrIOSrSANGSIOSqIEUNGqCIEUCqSSANGCIEUC
qCHIEUCHqKHIEUKHqTHIEUTHqPHIEUPHqHIEUHqNIEUN-KIYEOKqSSANGNIEUNqNIEUN-TIKEUTwPIEUPqTIKEUT-KIYEOKqRI
EUL-NIEUNqSSANGRIEULqRIEUL-HIEUHqKAPYEOUNRIEULqMIEUM-PIEUPqKAPYEOUNMIEUMqPIEUP-KIYEOKwNIEUNwTIKEUT
wSIOS!-KIYEOK$TIKEUT$PIEUPxSANGSIOSxIOS-CIEUCwCIEUCxHIEUCHwTHIEUTHwPHIEUPHqKAPYEOUNPIEUPySSANGPIEU
PqSIOS-KIYEOKvNIEUNvTIKEUTvRIEULvMIEUMvPIEUP!-KIYEOKvSSANGSIOSvIEUNGvCIEUCwHIEUCHvKHIEUKHvTHIEUTHv
PHIEUPHvHIEUHqCHITUEUMSIOSzSANGSIOSrEONGCHIEUMSIOS%SANGSIOSqPANSIOSqIEUNG-KIYEOKwTIKEUTwMIEUMwPIEU
PwSIOSwPANSIOSqSSANGIEUNGqIEUNG-CIEUCxHIEUCHwTHIEUTHwPHIEUPHqYESIEUNGqCIEUC-IEUNGrHITUEUMCIEUCySSA
NGCIEUCrEONGCHIEUMCIEUC$SSANGCIEUCrHIEUCH-KHIEUKHyHIEUHtTUEUMCHIEUCHrEONGCHIEUMCHIEUCHqPHIEUPH-PIE
UPqKAPYEOUNPHIEUPHqSSANGHIEUHqYEORINHIEUHqKIYEOK-TIKEUTqNIEUN-SIOSwCIEUCwHIEUHqTIKEUT-RIEULqFILLER
hJUNGSEONG FILLERrAsErYAtErEOsrYEOtrOrWAtErOErYOrUrWEOtsIrYUrEUrYIrIrA-OtUrYA-OuYOrEO-OuUuEUrYEO-O
vUrO-EOutYEtOtUrYO-YAwEvEOuOuIrU-AuEtEO-EUtYEtUrYU-AuEOvuYEOwuUuIrEU-UuEUrYI-UrI-AtYAtOtUtEUtARAEA
rARAEAw-EOxUxIrSSANGARAEArA-EUrYA-UsEO-YArO-YAvEiONGSEONG KIYEOKrSSANGKIYEOKrKIYEOK-SIOSrNIEUNw-CI
EUCxHIEUHrTIKEUTrRIEULw-KIYEOKxMIEUMxPIEUPxSIOSxTHIEUTHxPHIEUPHxHIEUHrMIEUMrPIEUPw-SIOSrSIOSsSANGS
IOSrIEUNGrCIEUCsHIEUCHrKHIEUKHrTHIEUTHrPHIEUPHrHIEUHrKIYEOK-RIEULySIOS-KIYEOKrNIEUN-KIYEOKxTIKEUTx
SIOSxPANSIOSxTHIEUTHrTIKEUT-KIYEOKyRIEULrRIEUL-KIYEOK-SIOSxNIEUNxTIKEUT&-HIEUHrSSANGRIEULrRIEUL-MI
EUM-KIYEOK&SIOSxPIEUP-SIOS&HIEUHxKAPYEOUNPIEUPxSSANGSIOSxPANSIOSxKHIEUKHxYEORINHIEUHrMIEUM-KIYEOKx
RIEULxPIEUPxSIOSySANGSIOSxPANSIOSxCHIEUCHxHIEUHrKAPYEOUNMIEUMrPIEUP-RIEULxPHIEUPHxHIEUHrKAPYEOUNPI
EUPrSIOS-KIYEOKwTIKEUTwRIEULwPIEUPrPANSIOSrIEUNG-KIYEOKxSSANGKIYEOKrSSANGIEUNGrIEUNG-KHIEUKHrYESIE
UNGz-SIOS!PANSIOSrPHIEUPH-PIEUPrKAPYEOUNPHIEUPHrHIEUH-NIEUNxRIEULxMIEUMxPIEUPrYEORINHIEUHrKIYEOK-N
IEUNyPIEUPyCHIEUCHyKHIEUKHyHIEUHrSSANGNIEUNaETHIOPIC SYLLABLE HAtUtItAAtEEutOuAsLAtUtItAAtEEutOtWA
sHHAuUuIuAAuEEvuOuWAsMAtUtItAAtEEutOtWAsSZAuUuIuAAuEEvuOuWAsRAtUtItAAtEEutOtWAsSAtUtItAAtEEutOtWAt
HAuUuIuAAuEEvuOuWAsQAtUtItAAtEEutOuAtWA@124A;uIuAAuEEv@1250;tHAuUuIuAAuEEvuO@1258;uWA@125A;vIvAAvE
Ew@1260;sBAtUtItAAtEEutOtWAsVAtUtItAAtEEutOtWAsTAtUtItAAtEEutOtWAsCAtUtItAAtEEutOtWAsXAtUtItAAtEEu
tOuAtWA@128A;uIuAAuEEv@1290;sNAtUtItAAtEEutOtWAtYAuUuIuAAuEEvuOuWAsGLOTTAL A!U!I!AA!EE$!O!WAsKAtUt
ItAAtEEutOuAtWA@12B2;uIuAAuEEv@12B8;tXAuUuIuAAuEEvuO@12C0;uWA@12C2;vIvAAvEEw@12C8;sWAtUtItAAtEEutO
uAsPHARYNGEAL A&U&I&AA&EE+&O@12D8;sZAtUtItAAtEEutOtWAtHAuUuIuAAuEEvuOuWAsYAtUtItAAtEEutOuAsDAtUtIt
AAtEEutOtWAtDAuUuIuAAuEEvuOuWAsJAtUtItAAtEEutOtWAsGAtUtItAAtEEutOuAtWA@1312;uIuAAuEEv@1318;tGAuUuI
uAAuEEvuOuWAAsTHAuUuIuAAuEEvuOuWAsCHAuUuIuAAuEEvuOuWAsPHAuUuIuAAuEEvuOuWAsTSAuUuIuAAuEEvuOuWAtZAuU
uIuAAuEEvuOvAsFAtUtItAAtEEutOtWAsPAtUtItAAtEEutOtWAsRYAsMYAsFYA@135D;jCOMBINING GEMINATION AND VOW
EL LENGTH MARKtVOWEL LENGTH MARKtGEMINATION MARKjSECTION MARKjWORDSPACEjFULL STOPjCOMMAjSEMICOLONj
COLONjPREFACE COLONjQUESTION MARKjPARAGRAPH SEPARATORjDIGIT ONEpTWOqHREEpFOURqIVEpSIXqEVENpEIGHTpN
INEjNUMBER TENrWENTYrHIRTYqFORTYrIFTYqSIXTYrEVENTYqEIGHTYqNINETYqHUNDREDqTEN THOUSAND@1380;jSYLLAB
LE SEBATBEIT MWAsMWIuEEvsSEBATBEIT BWAsBWIuEEvsSEBATBEIT FWAsFWIuEEvsSEBATBEIT PWAsPWIuEEvjTONAL M
ARK YIZETuDERETuRIKRIKuSHORT RIKRIKuDIFATuKENATuCHIRETuHIDETuDERET-HIDETuKURT@13A0;aCHEROKEE LETTE
R AqEqIqOqUqVqGAqKAqGErIrOrUrVqHArErIrOrUrVqLArErIrOrUrVqMArErIrOrUqNAqHNAqNAHrErIrOrUrVqQUAsEsIsO
sUsVqSArrErIrOrUrVqDAqTAqDEqTEqDIqTIqDOrUrVrLAqTLAsEsIsOsUsVrSAsEsIsOsUsVqWArErIrOrUrVqYArErIrOrUr
VqMV@13F8;jSMALL LETTER YExIxOxUxVwMV@1400;bANADIAN SYLLABICS HYPHENtEtAAItIuItOuOtY-CREE OOtCARRI
ER EE$ItAuAtWEvST-CREE WEuIuEST-CREE WIuIIuEST-CREE WIIuOuEST-CREE WOuOOuEST-CREE WOOtNASKAPI WOOt
WAuEST-CREE WAuAAuEST-CREE WAAtNASKAPI WAAtAItY-CREE WtGLOTTAL STOPtFINAL ACUTEzGRAVEzBOTTOM HAL
F RINGzTOP HALF RINGzRIGHT HALF RING$NGzDOUBLE ACUTE.SHORT VERTICAL STROKESzMIDDLE DOTzSHORT HORIZ
ONTAL STROKEzPLUSzDOWN TACKtENtINtONtANtPEuAAIuIvIuOvOtY-CREE POOtCARRIER HEE%ItPAvAuWEtWEST-CRE
E PWEtPWItWEST-CREE PWItPWIItWEST-CREE PWIItPWOtWEST-CREE PWOtPWOOtWEST-CREE PWOOtPWAtWEST-CREE PW
AtPWAAtWEST-CREE PWAAtY-CREE PWAAtPtWEST-CREE PtCARRIER HtTEuAAIuIvIuOvOtY-CREE TOOtCARRIER DEE%It
TAvAuWEtWEST-CREE TWEtTWItWEST-CREE TWItTWIItWEST-CREE TWIItTWOtWEST-CREE TWOtTWOOtWEST-CREE TWOOt
TWAtWEST-CREE TWAtTWAAtWEST-CREE TWAAtNASKAPI TWAAtTuTEvIvOvAtKEuAAIuIvIuOvOtY-CREE KOOtKAvAuWEtWE
ST-CREE KWEtKWItWEST-CREE KWItKWIItWEST-CREE KWIItKWOtWEST-CREE KWOtKWOOtWEST-CREE KWOOtKWAtWEST-C
REE KWAtKWAAtWEST-CREE KWAAtNASKAPI KWAAtKuWtSOUTH-SLAVEY KEH<IH<OH<AHtCEuAAIuIvIuOvOtY-CREE COOtC
AvAuWEtWEST-CREE CWEtCWItWEST-CREE CWItCWIItWEST-CREE CWIItCWOtWEST-CREE CWOtCWOOtWEST-CREE CWOOtC
WAtWEST-CREE CWAtCWAAtWEST-CREE CWAAtNASKAPI CWAAtCtSAYISI THtMEuAAIuIvIuOvOtY-CREE MOOtMAvAuWEtWE
ST-CREE MWEtMWItWEST-CREE MWItMWIItWEST-CREE MWIItMWOtWEST-CREE MWOtMWOOtWEST-CREE MWOOtMWAtWEST-C
REE MWAtMWAAtWEST-CREE MWAAtNASKAPI MWAAtMtWEST-CREE MtMHtATHAPASCAN MtSAYISI MtNEuAAIuIvIuOvOtY-C
REE NOOtNAvAuWEtWEST-CREE NWEtNWAtWEST-CREE NWAtNWAAtWEST-CREE NWAAtNASKAPI NWAAutCARRIER NGtNHtLE
uAAIuIvIuOvOtY-CREE LOOtLAvAuWEtWEST-CREE LWEtLWItWEST-CREE LWItLWIItWEST-CREE LWIItLWOtWEST-CRE
E LWOtLWOOtWEST-CREE LWOOtLWAtWEST-CREE LWAtLWAAtWEST-CREE LWAAtLtWEST-CREE LtMEDIAL LtSEuAAIuIvIu
OvOtY-CREE SOOtSAvAuWEtWEST-CREE SWEtSWItWEST-CREE SWItSWIItWEST-CREE SWIItSWOtWEST-CREE SWOtSWOOt
WEST-CREE SWOOtSWAtWEST-CREE SWAtSWAAtWEST-CREE SWAAtNASKAPI SWAAtStATHAPASCAN StSWtBLACKFOOT StMO
OSE-CREE SKtNASKAPI SKW%-W%PWA%TWA%KWA%CWAtSHEvIwIvOwOvAwAvWEtWEST-CREE SHWEtSHWItWEST-CREE SHWItS
HWIItWEST-CREE SHWIItSHWOtWEST-CREE SHWOtSHWOOtWEST-CREE SHWOOtSHWAtWEST-CREE SHWAtSHWAAtWEST-CRE
E SHWAAtSHtYEuAAIuIvIuOvOu-CREE YOOuAvAuWEtWEST-CREE YWEtYWItWEST-CREE YWItYWIItWEST-CREE YWIItYWO
tWEST-CREE YWOtYWOOtWEST-CREE YWOOtYWAtWEST-CREE YWAtYWAAtWEST-CREE YWAAtNASKAPI YWAAtYtBIBLE-CRE
E YtWEST-CREE YtSAYISI YItREu-CREE REtWEST-CREE LEtRAAIuIvIuOvOtWEST-CREE LOtRAvAtWEST-CREE LAtRWA
AtWEST-CREE RWAAtRtWEST-CREE RtMEDIAL RtFEuAAIuIvIuOvOuAvAuWAAtWEST-CREE FWAAtFtTHEtN-CREE THEtTHI
tN-CREE THItTHIItN-CREE THIItTHOwOvAwAvWAAtWEST-CREE THWAAtTHuTHEwIwOwAwuYEvIvOvAtNUNAVIK HE%I&I%O
&O%A&A%yUT HtHKtQAAIuIvIuOvOuAvAutTLHEwIwOwAtWEST-CREE RE+I+O+AtNGAAIvIwIvOwOvAwAvuNGtSAYISI SHE%I
%O%AtWOODS-CREE THE.I.O.A.tLHIwIvOwOvAwAvtTH-CREE THE&I+I&O+O&A+A&tAIVILIK BtBLACKFOOT E&I&O&A&WE+
I+O+A&NE+I+O+A&KE+I+O+AtSAYISI HE$I$O$AtCARRIER GHU&O&E+E&I&A$RU%O%E&E%I%A$WU%O%E&E%I%A$HWU&O&E+E&
I&A$THU&O&E+E&I&A%TU&O&E+E&I&A$PU%O%E&E%I%A%$GU%O%E&E%I%A$KHU&O&E+E&I&A%KU&O&E+E&I&A&$NU%O%E&E%I%A
$MU%O%E&E%I%A$YU%O%E&E%I%A$JUtSAYISI JUtCARRIER JO%E&E%ItSAYISI JItCARRIER JA%JU&O&E+E&I&A$LU%O%E&
E%I%A$DLU&O&E+E&I&A$LHU&O&E+E&I&A$TLHU+O+E,E+I+A&U&O&E+E&I&A$ZU%O%E&E%I%A%$INITIAL Z$DZU&O&E+E&I&A
$SU%O%E&E%I%A%HU&O&E+E&I&A&$TSU&O&E+E&I&A$CHU&O&E+E&I&A$TTSU+O+E,E+I+AuHI SIGNtFULL STOPtQAItNGAIu
NGIxIwOxOwAxAtWOODS-CREE THWEE<I>I<O>O<A>A+FINAL THtBLACKFOOT WaOGHAM SPACE MARKgLETTER BEITHnLUIS
nFEARNnSAILnNIONnUATHnDAIRnTINNEnCOLLoEIRTnMUINnGORTnNGEADALnSTRAIFnRUISnAILMnONNnURnEADHADHnIODHA
DHnEABHADHnORnUILLEANNnIFINnEAMHANCHOLLnPEITHgFEATHER MARKgREVERSED FEATHER MARK@16A0;aRUNIC LETTE
R FEHU FEOH FE FnVnURUZ UR UnYRonWnTHURISAZ THURS THORNnETHnANSUZ AnOS OnAC AoESCnLONG-BRANCH-OS
S OnSHORT-TWIG-OSS OnOoEoNnRAIDO RAD REID RnKAUNAnCENnKAUN KnGnENGnGEBO GYFU GoARnWUNJO WYNN WnHAG
LAZ HpEGL HnLONG-BRANCH-HAGALL HnSHORT-TWIG-HAGALL HnNAUDIZ NYD NAUD NnSHORT-TWIG-NAUD NnDOTTED-Nn
ISAZ IS ISS InEnJERAN JnGERnLONG-BRANCH-AR AEnSHORT-TWIG-AR AnIWAZ EOHnPERTHO PEORTH PnALGIZ EOLHX
nSOWILO SoIGEL LONG-BRANCH-SOL SoHORT-TWIG-SOL SnCnZnTIWAZ TIR TYR TnSHORT-TWIG-TYR TnDnBERKANAN B
EORC BJARKAN BnSHORT-TWIG-BJARKAN BnDOTTED-PnOPEN-PnEHWAZ EH EnMANNAZ MAN MnLONG-BRANCH-MADR MnSHO
RT-TWIG-MADR MnLAUKAZ LAGU LOGR LnDOTTED-LnINGWAZqnDAGAZ DAEG DnOTHALAN ETHEL OnEARnIORnCWEORTHoAL
CoEALCnSTANnLONG-BRANCH-YRnSHORT-TWIG-YRnICELANDIC-YRnQnXgSINGLE PUNCTUATIONgMULTIPLE PUNCTUATIONg
CROSS PUNCTUATIONgARLAUG SYMBOLgTVIMADUR SYMBOLgBELGTHOR SYMBOLgLETTER KnSHnOOnFRANKS CASKET OS$IS
$EH$AC%ESC@1700;aTAGALOG LETTER ApIpUpKApGApNGApTApDApNApPApBApMApYApRApLApWApSApHAiVOWEL SIGN ItU
iSIGN VIRAMAnPAMUDPOD@171F;iLETTER ARCHAIC RAaHANUNOO LETTER ApIpUpKApGApNGApTApDApNApPApBApMApYAp
RApLApWApSApHAiVOWEL SIGN ItUiSIGN PAMUDPODaPHILIPPINE SINGLE PUNCTUATIONlDOUBLE PUNCTUATION@1740;
aBUHID LETTER AnInUnKAnGAnNGAnTAnDAnNAnPAnBAnMAnYAnRAnLAnWAnSAnHAgVOWEL SIGN IrU@1760;aTAGBANWA LE
TTER AqIqUqKAqGAqNGAqTAqDAqNAqPAqBAqMAqYA@176E;qLAqWAqSA@1772;jVOWEL SIGN IuU@1780;aKHMER LETTER K
AoHAoOoHOnNGOnCAoHAoOoHOnNYOnDAnTTHAnDOnTTHOnNNOnTAoHAoOoHOnNOnBAnPHAoOoHOnMOnYOnROnLOnVOnSHAoSOoA
nHAnLAnQAgINDEPENDENT VOWEL QAQ!AzI!IzU!K!U$VyRY!YyLY!YyQEzAIzOO TYPE ONE<TWOzAUgVOWEL INHERENT AQ
wAmSIGN AArIsIrYsYrUsUsArOErYArIErErAEsIrOOrAUgSIGN NIKAHITlREAHMUKlYUUKALEAPINTUlMUUSIKATOANlTRII
SAPlBANTOClROBATlTOANDAKHIATlKAKABATlAHSDAlSAMYOK SANNYAlVIRIAMlCOENGlBATHAMASATlKHANlBARIYOOSANlC
AMNUC PII KUUHlLEK TOOlBEYYALlPHNAEK MUANlKOOMUUTgCURRENCY SYMBOL RIELgSIGN AVAKRAHASANYAmTTHACAN@
17E0;gDIGIT ZEROmONEmTWOnHREEmFOURnIVEmSIXnEVENmEIGHTmNINE@17F0;gSYMBOL LEK ATTAK SONxMUOYxPIIxBEI
yUONxPRAM$-MUOY%PII%BEI&UON@1800;aMONGOLIAN BIRGAkELLIPSISkCOMMAkFULL STOPkCOLONkFOUR DOTSkTODO SO
FT HYPHENkSIBE SYLLABLE BOUNDARY MARKERkMANCHU COMMArFULL STOPkNIRUGUkFREE VARIATION SELECTOR ONE>
TWO?HREEkVOWEL SEPARATORkFREE VARIATION SELECTOR FOURkDIGIT ZEROqONEqTWOrHREEqFOURrIVEqSIXrEVENqEI
GHTqNINE@1820;kLETTER ArErIrOrUrOErUErEErNArANGrBArPArQArGArMArLArSAsHArTArDArCHArJArYArRArWArFArK
AsHArTSArZArHAArZRArLHArZHIrCHIrTODO LONG VOWEL SIGNwEwIwOwUwOEwUEwANGwBAwPAwQAwGAwMAwTAwDAwCHAwJA
wTSAwYAwWAwKAwGAAwHAAwJIAwNIAwDZArSIBE EwIxYwUExwANGwKAwGAwHAwPAwSHAwTAwDAwJAwFAwGAAwHAAwTSAwZAwRA
AwCHAwZHArMANCHU IyKAyRAyFAyZHArCHA WITH TWO DOTS@1880;rALI GALI ANUSVARA ONE!VISARGA ONE!DAMARU!U
BADAMA!INVERTED UBADAMA!BALUDA!THREE BALUDA!A!I!KA!NGA!CA!TTA%HA!DDA!NNA!TA!DA!PA$HA!SSA!ZHA$A!AHr
TODO ALI GALI TA,ZHArMANCHU ALI GALI GHA<NGA<CA<JHA<TTA<DDHA<TA<DHA<SSA<CYA<ZHA>ArALI GALI HALF U,
YArMANCHU ALI GALI BHArALI GALI DAGALGArMANCHU ALI GALI LHA@18B0;aCANADIAN SYLLABICS OYtAYuAYtWAYt
POYuAYuWOYtTAYtKAYuWAYtMAYtNOYuAYtLAYtSOYuAYuHOYvAYvWOYtYOYuAYtRAYtNWItOJIBWAY NWItNWIItOJIBWAY NW
IItNWOtOJIBWAY NWOtNWOOtOJIBWAY NWOOtRWEEvIwIvOwOvAtOJIBWAY P$T$K$C$M$N$S%HtEASTERN WtWESTERN WtFI
NAL SMALL RINGzRAISED DOTtR-CREE RWEtWEST-CREE LOO+AAtTHWEwAuTHWEwOOwAAuLHWEwOOtSAYISI SHWE%OO!HOO
tCARRIER GWU$DENE GEE$GAA%WAtSAYISI JUUtCARRIER JWAtBEAVER DENE L,RtCARRIER DENTAL S@1900;aLIMBU V
OWEL-CARRIER LETTERgLETTER KAoHAnGAoHAnNGAnCAoHAnJAoHAnYANnTAoHAnDAoHAnNAnPAoHAnBAoHAnMAnYAnRAnLAn
WAnSHAoSAoAnHAnGYANnTRA@1920;gVOWEL SIGN ArIrUrEErAIrOOrAUrErOgSUBJOINED LETTER YAxRAxWA@1930;hMAL
L LETTER KAtNGAtANUSVARAtTAtNAtPAtMAtRAtLAhIGN MUKPHRENGlKEMPHRENGlSA-I@1940;lLOO@1944;gEXCLAMATIO
N MARKgQUESTION MARKgDIGIT ZEROmONEmTWOnHREEmFOURnIVEmSIXnEVENmEIGHTmNINEaTAI LE LETTER KAoXAoNGAo
TSAoSAoYAoTApHAoLAoPApHAoMAoFAoVAoHAoQAoKHAoTSHAoNAoAoIoEEpHoUoOOpoUEoEoAUEpI@1970;oTONE-2t3t4t5t6
@1980;aNEW TAI LUE LETTER HIGH QAtLOW QAtHIGH KAyXAyNGAtLOW KAxXAxNGAtHIGH TSAySAyYAtLOW TSAxSAxYA
tHIGH TAzHAyNAtLOW TAyHAxNAtHIGH PAzHAyMAtLOW PAyHAxMAtHIGH FAyVAyLAtLOW FAxVAxLAtHIGH HAyDAyBAtLO
W HAxDAxBAtHIGH KVAyXVAtLOW KVAxXVAtHIGH SUAtLOW SUA@19B0;mVOWEL SIGN VOWEL SHORTENERxAAxIIxUyUxEx
AExOyAxUExAYyAYxUYxOYyAYxUEYxIYmLETTER FINAL VzNG!zMzKzDzBmTONE MARK-1w2@19D0;mDIGIT ZEROsONEsTWOt
HREEsFOURtIVEsSIXtEVENsEIGHTsNINEmTHAM DIGIT ONE@19DE;mSIGN LAEuVaKHMER SYMBOL PATHAMASATnMUOY KOE
TnPII KOETnBEI KOEToUON KOETnPRAM KOETr-MUOY KOETsPII KOETsBEI KOETtUON KOETnDAP KOETq-MUOY KOETrP
II KOETrBEI KOETsUON KOETrPRAM KOETnTUTEYASATnMUOY ROCnPII ROCnBEI ROCoUON ROCnPRAM ROCr-MUOY ROCs
PII ROCsBEI ROCtUON ROCnDAP ROCq-MUOY ROCrPII ROCrBEI ROCsUON ROCrPRAM ROCaBUGINESE LETTER KAqGAqN
GAsKAqPAqBAqMArPAqTAqDAqNArRAqCAqJAqNYAsCAqYAqRAqLAqVAqSAqAqHAjVOWEL SIGN IuUuEuOuAE@1A1E;jPALLAWA
jEND OF SECTIONaTAI THAM LETTER HIGH KAwHAwXAqLOW KAvXAvHAqNGAqHIGH CAwHAqLOW CAuSAuCHAqNYAqRATAqH
IGH RATHAqDAqLOW RATHAqRANAqHIGH TAwHAqLOW TAvHAqNAqBAqHIGH PAwHAvFAqLOW PAuFAuPHAqMAqLOW YAqHIG
H YAqRArUEqLArUEqWAqHIGH SHAwSAwAvHAqLLAqAqLOW HAqIrIqUrUqEEqOOqLAEqGREAT SAjCONSONANT SIGN MEDIA
L RA,LAyLA TANG LAIjSIGN MAI KANG LAIjCONSONANT SIGN FINAL NGAyLOW PAyHIGH RATHA OR LOW PAyMAyBAyS
A@1A60;jSIGN SAKOTjVOWEL SIGN AuMAI SATuAAuTALL AAuIvIuUEvUEvvUuOvA BELOWvYuEuAEuOOuAIuTHAM AIuO
A ABOVEjSIGN MAI KANGoTONE-1t2oKHUEN TONE-3z4z5oRA HAAMoMAI SAMoKHUEN-LUE KARAN@1A7F;jCOMBINING CR
YPTOGRAMMIC DOTjHORA DIGIT ZEROuONEuTWOvHREEuFOURvIVEuSIXvEVENuEIGHTuNINE@1A90;jTHAM DIGIT ZEROuON
EuTWOvHREEuFOURvIVEuSIXvEVENuEIGHTuNINE@1AA0;jSIGN WIANGtWAAKoSAWANoKEOWoHOYoDOKMAIoREVERSED ROTAT
ED RANAoMAI YAMOKoKAANsKUUoSATKAANvKUUoHANGoCAANG@1AB0;aCOMBINING DOUBLED CIRCUMFLEX ACCENTlIAERES
IS-RINGkINFINITYkDOWNWARDS ARROWkTRIPLE DOTkX-X BELOWkWIGGLY LINE BELOWkOPEN MARK BELOWkDOUBLE OPE
N MARK BELOWkLIGHT CENTRALIZATION STROKE BELOWkSTRONG CENTRALIZATION STROKE BELOWkPARENTHESES ABOV
EkDOUBLE PARENTHESES ABOVEkPARENTHESES BELOWwOVERLAYkLATIN SMALL LETTER W BELOW&TURNED W BELOWlEF
T PARENTHESIS ABOVE LEFTkRIGHT PARENTHESIS ABOVE RIGHTkLEFT PARENTHESIS BELOW LEFTkRIGHT PARENTHES
IS BELOW RIGHTkSQUARE BRACKETS ABOVEkNUMBER SIGN ABOVEkINVERTED DOUBLE ARCH ABOVEkPLUS SIGN ABOVEk
DOUBLE PLUS SIGN ABOVE$BELOWkTRIPLE ACUTE ACCENTkLATIN SMALL LETTER INSULAR G_R_T@1B00;aBALINESE S
IGN ULU RICEMsCANDRAoCECEKoSURANGoBISAHjLETTER AKARAv TEDUNGqIKARAv TEDUNGqUKARAv TEDUNGqRA REPA
x TEDUNGqLA LENGAy TEDUNGqEKARAqAIKARAqOKARAv TEDUNGqKAs MAHAPRANAqGAs GORAqNGAqCAs LACAqJAs JERAq
NYAqTA LATIKtMURDA MAHAPRANAqDA MURDA ALPAPRANAzMAHAPRANAqNA RAMBATqTAs TAWAqDAs MADUqNAqPAs KAPAL
qBAs KEMBANGqMAqYAqRAqLAqWAqSA SAGAvPAsqHAjSIGN REREKANjVOWEL SIGN TEDUNGuULUx SARIuSUKUy ILUTuR
A REPA$ TEDUNGuLA LENGA% TEDUNGuTALING! REPA$TEDUNG$REPA TEDUNGuPEPETz TEDUNGjADEG ADEGjLETTER KA
F SASAKrHOT SASAKqTZIR SASAKqEF SASAKqVE SASAKqZAL SASAKqASYURA SASAKrRCHAIC JNYA@1B50;jDIGIT ZERO
pONEpTWOqHREEpFOURqIVEpSIXqEVENpEIGHTpNINEjPANTIlMADAjWINDUjCARIK PAMUNGKAHpSIKIpPARERENjPAMENENGj
MUSICAL SYMBOL DONGzENGzUNGzANG% SURANGzINGzAENGzEUNGzAING!NG GEDEyCOMBINING TEGEH>ENDEP>KEMPUL|LI
>JEGOGAN>KEMPUL WITH JEGOGAN|LI WITH JEGOGAN>BENDE>GONGyRIGHT-HAND OPEN DUG~ DAG?CLOSED TUK~ED TAK
yLEFT-HAND OPEN PANG~PUNG>CLOSED PLAK~D PLUK>OPEN PINGjPANTI LANTANGlMADA LANTANG@1B80;aSUNDANES
E SIGN PANYECEKsGLAYARtWISADkLETTER ArIrUrAErOrEsUrKArQArGArNGArCArJArZArNYArTArDArNArPArFArVArBAr
MArYArRArLArWArSArXArHAkCONSONANT SIGN PAMINGKAL$NYAKRA&IKUkVOWEL SIGN PANGHULUyYUKUyAELAENGyOLONG
xMEPETxNEULEUNGkSIGN PAMAAEHpVIRAMAkCONSONANT SIGN PASANGAN MA>WAkLETTER KHArSYAkDIGIT ZEROqONEqTW
OrHREEqFOURrIVEqSIXrEVENqEIGHTqNINEkAVAGRAHAkLETTER REUrLEUrBHArFINAL KxMaBATAK LETTER AnSIMALUNGU
N AnHAnSIMALUNGUN HAnMANDAILING HAnBAnKARO BAnPAnSIMALUNGUN PAnNAnMANDAILING NAnWAnSIMALUNGUN WAnP
AKPAK WAnGAnSIMALUNGUN GAnJAnDAnRAnSIMALUNGUN RAnMAnSIMALUNGUN MAoOUTHERN TAnNORTHERN TAnSAoIMALUN
GUN SAnMANDAILING SAnYAnSIMALUNGUN YAnNGAnLAnSIMALUNGUN LAnNYAnCAnNDAnMBAnInUgSIGN TOMPIgVOWEL SIG
N ErPAKPAK ErEErIrKARO IrOrKARO OrUs FOR SIMALUNGUN SAgCONSONANT SIGN NGvHgPANGOLATjONGONAN@1BFC;g
SYMBOL BINDU NA METEKtPINARBORAStJUDULtPANGOLATaLEPCHA LETTER KApLApHAoGApLAoNGAoCApHAoJAoNYAoTApH
AoDAoNAoPApLApHAoFApLAoBApLAoMApLAoTSAqHAoDZAoYAoRAoLAoHApLAoVAoSApHAoWAoAhSUBJOINED LETTER YAyRAh
VOWEL SIGN AAsIsOtOsUtUsEhCONSONANT SIGN KwMwLwNwPwRwTwNYIN-DOwKANGhSIGN RANmNUKTA@1C3B;hPUNCTUATI
ON TA-ROLtNYET THYOOM TA-ROLtCER-WAtTSHOOK CER-WAzhDIGIT ZEROnONEnTWOoHREEnFOURoIVEnSIXoEVENnEIGHT
nNINE@1C4D;hLETTER TTAqHAoDDAaOL CHIKI DIGIT ZEROpONEpTWOqHREEpFOURqIVEpSIXqEVENpEIGHTpNINEjLETTE
R LAqATrGrNGrLqLAAqAAKsJsMsWqLIqISrHrNYrRqLUqUCrDrNNrYqLEqEPrDDrNrRRqLOqOTTrBrVrHjMU TTUDDAGjGAAHL
AA TTUDDAAGjMU-GAAHLAA TTUDDAAGjRELAAjPHAARKAAjAHADjPUNCTUATION MUCAADvDOUBLE MUCAADaCYRILLIC SMAL
L LETTER ROUNDED VEwLONG-LEGGED DEwNARROW OwWIDE ESwTALL TExHREE-LEGGED TExALL HARD SIGN$YATwUNBLE
NDED UK@1C90;aGEORGIAN MTAVRULI CAPITAL LETTER AN<BAN<GAN<DON<EN<VIN<ZEN<TAN<IN<KAN<LAS<MAN<NAR<ON
<PAR<ZHAR<RAE<SAN<TAR<UN<PHAR<KHAR<GHAN<QAR<SHIN<CHIN>AN<JIL<CIL>HAR<XAN<JHAN<HAE>E>IE<WE<HAR>OE<F
I<YN<ELIFI<TURNED GAN<AIN@1CBD;>EN<HARD SIGN<LABIAL SIGNaSUNDANESE PUNCTUATION BINDU SURYA%PANGLON
G&URNAMA%CAKRA%LEU SATANGA%KA SATANGA%DA SATANGA%BA SATANGA@1CD0;aVEDIC TONE KARSHANAlSHARAlPRENKH
AgSIGN NIHSHVASAlYAJURVEDIC MIDLINE SVARITAgTONE YAJURVEDIC AGGRAVATED INDEPENDENT SVARITAwINDEPEN
DENT SVARITAwKATHAKA INDEPENDENT SVARITAlCANDRA BELOWlYAJURVEDIC KATHAKA INDEPENDENT SVARITA SCHRO
EDERlDOUBLE SVARITAlTRIPLE SVARITAlKATHAKA ANUDATTAlDOT BELOWlTWO DOTS BELOWmHREE DOTS BELOWlRIGVE
DIC KASHMIRI INDEPENDENT SVARITAlATHARVAVEDIC INDEPENDENT SVARITAgSIGN VISARGA SVARITAtUDATTAlREVE
RSED VISARGA UDATTAlVISARGA ANUDATTAlREVERSED VISARGA ANUDATTAlVISARGA UDATTA WITH TAILtANUDATTA W
ITH TAILlANUSVARA ANTARGOMUKHAuBAHIRGOMUKHAuVAMAGOMUKHA, WITH TAILlTIRYAKlHEXIFORM LONG ANUSVARAlL
ONG ANUSVARAlRTHANG LONG ANUSVARAlANUSVARA UBHAYATO MUKHAmRDHAVISARGAlROTATED ARDHAVISARGAgTONE CA
NDRA ABOVEgSIGN JIHVAMULIYAlUPADHMANIYAlATIKRAMAgTONE RING ABOVElDOUBLE RING ABOVEgSIGN DOUBLE ANU
SVARA ANTARGOMUKHA@1D00;aLATIN LETTER SMALL CAPITAL A%EgSMALL LETTER TURNED AEgLETTER SMALL CAPITA
L BARRED B$C$D$ETH%gSMALL LETTER TURNED OPEN E!IgLETTER SMALL CAPITAL J$K$L WITH STROKE$M$REVERSE
D N$O%PEN OgSMALL LETTER SIDEWAYS O&PEN O& WITH STROKEtTURNED OEgLETTER SMALL CAPITAL OUgSMALL LET
TER TOP HALF OtBOTTOM HALF OgLETTER SMALL CAPITAL P$REVERSED R$TURNED R%$UgSMALL LETTER SIDEWAYS U
%DIAERESIZED U%TURNED MgLETTER SMALL CAPITAL V$W$Z$EZHnVOICED LARYNGEAL SPIRANTnAINaGREEK LETTER S
MALL CAPITAL GAMMA$LAMDA$PI$RHO$PSIaCYRILLIC LETTER SMALL CAPITAL ELaMODIFIER LETTER CAPITAL AzEyB
zARRED ByDyEyREVERSED EyGyHyIyJyKyLyMyNyREVERSED NyOzUyPyRyTyUyWqSMALL AwTURNED AwALPHAwTURNED AEw
BwDwEwSCHWAwOPEN EwTURNED OPEN EwGwTURNED IwKwMwENGwOxPEN OwTOP HALF OwBOTTOM HALF OwPwTwUwSIDEWAY
S UwTURNED MwVwAINwBETAwGREEK GAMMAwDELTAwGREEK PHIwCHIaLATIN SUBSCRIPT SMALL LETTER I&R&U&VaGREE
K SUBSCRIPT SMALL LETTER BETA&GAMMA&RHO&PHI&CHIaLATIN SMALL LETTER UEtB WITH MIDDLE TILDEtD WITH M
IDDLE TILDEtF WITH MIDDLE TILDEtM WITH MIDDLE TILDEtN WITH MIDDLE TILDEtP WITH MIDDLE TILDEtR WIT
H MIDDLE TILDE!FISHHOOK AND MIDDLE TILDEtS WITH MIDDLE TILDEtT WITH MIDDLE TILDEtZ WITH MIDDLE TIL
DEtTURNED GaMODIFIER LETTER CYRILLIC ENaLATIN SMALL LETTER INSULAR GtTH WITH STRIKETHROUGHmCAPITA
L LETTER I WITH STROKEmLETTER IOTA WITH STROKEtP WITH STROKEmCAPITAL LETTER U WITH STROKEmLETTER U
PSILON WITH STROKEtB WITH PALATAL HOOKtD WITH PALATAL HOOKtF WITH PALATAL HOOKtG WITH PALATAL HOOK
tK WITH PALATAL HOOKtL WITH PALATAL HOOKtM WITH PALATAL HOOKtN WITH PALATAL HOOKtP WITH PALATAL HO
OKtR WITH PALATAL HOOKtS WITH PALATAL HOOKtESH WITH PALATAL HOOKtV WITH PALATAL HOOKtX WITH PALATA
L HOOKtZ WITH PALATAL HOOKtA WITH RETROFLEX HOOKuLPHA WITH RETROFLEX HOOKtD WITH HOOK AND TAILtE W
ITH RETROFLEX HOOKtOPEN E WITH RETROFLEX HOOKtREVERSED OPEN E WITH RETROFLEX HOOKtSCHWA WITH RETRO
FLEX HOOKtI WITH RETROFLEX HOOKtOPEN O WITH RETROFLEX HOOKtESH WITH RETROFLEX HOOKtU WITH RETROFLE
X HOOKtEZH WITH RETROFLEX HOOKaMODIFIER LETTER SMALL TURNED ALPHAwCx WITH CURLwETHwREVERSED OPEN E
wFwDOTLESS J WITH STROKEwSCRIPT GwTURNED HwI WITH STROKExOTAwCAPITAL I, WITH STROKEwJ WITH CROSSED
-TAILwL WITH RETROFLEX HOOK&PALATAL HOOKwCAPITAL LwM WITH HOOKwTURNED M WITH LONG LEGwN WITH LEF
T HOOK&RETROFLEX HOOKwCAPITAL NwBARRED OwPHIwS WITH HOOKwESHwT WITH PALATAL HOOKwU BARxPSILONwCAPI
TAL UwV WITH HOOKwTURNED VwZx WITH RETROFLEX HOOK&CURLwEZHwTHETAaCOMBINING DOTTED GRAVE ACCENTrACU
TE ACCENTkSNAKE BELOWlUSPENSION MARKkMACRON-ACUTEkGRAVE-MACRONkMACRON-GRAVEkACUTE-MACRONkGRAVE-ACU
TE-GRAVEkACUTE-GRAVE-ACUTEkLATIN SMALL LETTER R BELOWkBREVE-MACRONkMACRON-BREVEkDOUBLE CIRCUMFLE
X ABOVEkOGONEK ABOVEkZIGZAG BELOWkIS BELOWkUR ABOVElS ABOVEkLATIN SMALL LETTER FLATTENED OPEN A AB
OVE&AE+O+V&C CEDILLA&INSULAR D&ETH&GqLETTER SMALL CAPITAL GqSMALL LETTER K&LqLETTER SMALL CAPITA
L L_MqSMALL LETTER NqLETTER SMALL CAPITAL N_RqSMALL LETTER R ROTUNDA&S&LONG S&Z&ALPHA&B+ETA&SCHWA&
F&L WITH DOUBLE MIDDLE TILDE&O WITH LIGHT CENTRALIZATION STROKE&P&ESH&U WITH LIGHT CENTRALIZATIO
N STROKE&W&A WITH DIAERESIS&O WITH DIAERESIS&U WITH DIAERESISkUP TACK ABOVEkKAVYKA ABOVE RIGHTxLEF
TkDOT ABOVE LEFTkWIDE INVERTED BRIDGE BELOWkDOT BELOW LEFTlELETION MARKlOUBLE INVERTED BREVE BELOW
kALMOST EQUAL TO BELOWkLEFT ARROWHEAD ABOVEkRIGHT ARROWHEAD AND DOWN ARROWHEAD BELOWaLATIN CAPITA
L LETTER A WITH RING BELOWgSMALL LETTER A WITH RING BELOWgCAPITAL LETTER B WITH DOT ABOVEgSMALL LE
TTER B WITH DOT ABOVEgCAPITAL LETTER B WITH DOT BELOWgSMALL LETTER B WITH DOT BELOWgCAPITAL LETTE
R B WITH LINE BELOWgSMALL LETTER B WITH LINE BELOWgCAPITAL LETTER C WITH CEDILLA AND ACUTEgSMALL L
ETTER C WITH CEDILLA AND ACUTEgCAPITAL LETTER D WITH DOT ABOVEgSMALL LETTER D WITH DOT ABOVEgCAPIT
AL LETTER D WITH DOT BELOWgSMALL LETTER D WITH DOT BELOWgCAPITAL LETTER D WITH LINE BELOWgSMALL LE
TTER D WITH LINE BELOWgCAPITAL LETTER D WITH CEDILLAgSMALL LETTER D WITH CEDILLAgCAPITAL LETTE
R D WITH CIRCUMFLEX BELOWgSMALL LETTER D WITH CIRCUMFLEX BELOWgCAPITAL LETTER E WITH MACRON AND GR
AVEgSMALL LETTER E WITH MACRON AND GRAVEgCAPITAL LETTER E WITH MACRON AND ACUTEgSMALL LETTER E WIT
H MACRON AND ACUTEgCAPITAL LETTER E WITH CIRCUMFLEX BELOWgSMALL LETTER E WITH CIRCUMFLEX BELOWgCAP
ITAL LETTER E WITH TILDE BELOWgSMALL LETTER E WITH TILDE BELOWgCAPITAL LETTER E WITH CEDILLA AND B
REVEgSMALL LETTER E WITH CEDILLA AND BREVEgCAPITAL LETTER F WITH DOT ABOVEgSMALL LETTER F WITH DO
T ABOVEgCAPITAL LETTER G WITH MACRONgSMALL LETTER G WITH MACRONgCAPITAL LETTER H WITH DOT ABOVEgSM
ALL LETTER H WITH DOT ABOVEgCAPITAL LETTER H WITH DOT BELOWgSMALL LETTER H WITH DOT BELOWgCAPITA
L LETTER H WITH DIAERESISgSMALL LETTER H WITH DIAERESISgCAPITAL LETTER H WITH CEDILLAgSMALL LETTE
R H WITH CEDILLAgCAPITAL LETTER H WITH BREVE BELOWgSMALL LETTER H WITH BREVE BELOWgCAPITAL LETTE
R I WITH TILDE BELOWgSMALL LETTER I WITH TILDE BELOWgCAPITAL LETTER I WITH DIAERESIS AND ACUTEgSMA
LL LETTER I WITH DIAERESIS AND ACUTEgCAPITAL LETTER K WITH ACUTEgSMALL LETTER K WITH ACUTEgCAPITA
L LETTER K WITH DOT BELOWgSMALL LETTER K WITH DOT BELOWgCAPITAL LETTER K WITH LINE BELOWgSMALL LET
TER K WITH LINE BELOWgCAPITAL LETTER L WITH DOT BELOWgSMALL LETTER L WITH DOT BELOWgCAPITAL LETTE
R L WITH DOT BELOW AND MACRONgSMALL LETTER L WITH DOT BELOW AND MACRONgCAPITAL LETTER L WITH LIN
E BELOWgSMALL LETTER L WITH LINE BELOWgCAPITAL LETTER L WITH CIRCUMFLEX BELOWgSMALL LETTER L WIT
H CIRCUMFLEX BELOWgCAPITAL LETTER M WITH ACUTEgSMALL LETTER M WITH ACUTEgCAPITAL LETTER M WITH DO
T ABOVEgSMALL LETTER M WITH DOT ABOVEgCAPITAL LETTER M WITH DOT BELOWgSMALL LETTER M WITH DOT BELO
WgCAPITAL LETTER N WITH DOT ABOVEgSMALL LETTER N WITH DOT ABOVEgCAPITAL LETTER N WITH DOT BELOWgSM
ALL LETTER N WITH DOT BELOWgCAPITAL LETTER N WITH LINE BELOWgSMALL LETTER N WITH LINE BELOWgCAPITA
L LETTER N WITH CIRCUMFLEX BELOWgSMALL LETTER N WITH CIRCUMFLEX BELOWgCAPITAL LETTER O WITH TILD
E AND ACUTEgSMALL LETTER O WITH TILDE AND ACUTEgCAPITAL LETTER O WITH TILDE AND DIAERESISgSMALL LE
TTER O WITH TILDE AND DIAERESISgCAPITAL LETTER O WITH MACRON AND GRAVEgSMALL LETTER O WITH MACRO
N AND GRAVEgCAPITAL LETTER O WITH MACRON AND ACUTEgSMALL LETTER O WITH MACRON AND ACUTEgCAPITAL LE
TTER P WITH ACUTEgSMALL LETTER P WITH ACUTEgCAPITAL LETTER P WITH DOT ABOVEgSMALL LETTER P WITH DO
T ABOVEgCAPITAL LETTER R WITH DOT ABOVEgSMALL LETTER R WITH DOT ABOVEgCAPITAL LETTER R WITH DOT BE
LOWgSMALL LETTER R WITH DOT BELOWgCAPITAL LETTER R WITH DOT BELOW AND MACRONgSMALL LETTER R WITH D
OT BELOW AND MACRONgCAPITAL LETTER R WITH LINE BELOWgSMALL LETTER R WITH LINE BELOWgCAPITAL LETTE
R S WITH DOT ABOVEgSMALL LETTER S WITH DOT ABOVEgCAPITAL LETTER S WITH DOT BELOWgSMALL LETTER S WI
TH DOT BELOWgCAPITAL LETTER S WITH ACUTE AND DOT ABOVEgSMALL LETTER S WITH ACUTE AND DOT ABOVEgCAP
ITAL LETTER S WITH CARON AND DOT ABOVEgSMALL LETTER S WITH CARON AND DOT ABOVEgCAPITAL LETTER S WI
TH DOT BELOW AND DOT ABOVEgSMALL LETTER S WITH DOT BELOW AND DOT ABOVEgCAPITAL LETTER T WITH DOT A
BOVEgSMALL LETTER T WITH DOT ABOVEgCAPITAL LETTER T WITH DOT BELOWgSMALL LETTER T WITH DOT BELOWgC
APITAL LETTER T WITH LINE BELOWgSMALL LETTER T WITH LINE BELOWgCAPITAL LETTER T WITH CIRCUMFLEX BE
LOWgSMALL LETTER T WITH CIRCUMFLEX BELOWgCAPITAL LETTER U WITH DIAERESIS BELOWgSMALL LETTER U WIT
H DIAERESIS BELOWgCAPITAL LETTER U WITH TILDE BELOWgSMALL LETTER U WITH TILDE BELOWgCAPITAL LETTE
R U WITH CIRCUMFLEX BELOWgSMALL LETTER U WITH CIRCUMFLEX BELOWgCAPITAL LETTER U WITH TILDE AND ACU
TEgSMALL LETTER U WITH TILDE AND ACUTEgCAPITAL LETTER U WITH MACRON AND DIAERESISgSMALL LETTER U W
ITH MACRON AND DIAERESISgCAPITAL LETTER V WITH TILDEgSMALL LETTER V WITH TILDEgCAPITAL LETTER V WI
TH DOT BELOWgSMALL LETTER V WITH DOT BELOWgCAPITAL LETTER W WITH GRAVEgSMALL LETTER W WITH GRAVEgC
APITAL LETTER W WITH ACUTEgSMALL LETTER W WITH ACUTEgCAPITAL LETTER W WITH DIAERESISgSMALL LETTE
R W WITH DIAERESISgCAPITAL LETTER W WITH DOT ABOVEgSMALL LETTER W WITH DOT ABOVEgCAPITAL LETTE
R W WITH DOT BELOWgSMALL LETTER W WITH DOT BELOWgCAPITAL LETTER X WITH DOT ABOVEgSMALL LETTER X WI
TH DOT ABOVEgCAPITAL LETTER X WITH DIAERESISgSMALL LETTER X WITH DIAERESISgCAPITAL LETTER Y WITH D
OT ABOVEgSMALL LETTER Y WITH DOT ABOVEgCAPITAL LETTER Z WITH CIRCUMFLEXgSMALL LETTER Z WITH CIRCUM
FLEXgCAPITAL LETTER Z WITH DOT BELOWgSMALL LETTER Z WITH DOT BELOWgCAPITAL LETTER Z WITH LINE BELO
WgSMALL LETTER Z WITH LINE BELOWtH WITH LINE BELOWtT WITH DIAERESIStW WITH RING ABOVEtY WITH RIN
G ABOVEtA WITH RIGHT HALF RINGtLONG S WITH DOT ABOVE.IAGONAL STROKE,HIGH STROKEgCAPITAL LETTER SHA
RP SgSMALL LETTER DELTAgCAPITAL LETTER A WITH DOT BELOWgSMALL LETTER A WITH DOT BELOWgCAPITAL LETT
ER A WITH HOOK ABOVEgSMALL LETTER A WITH HOOK ABOVEgCAPITAL LETTER A WITH CIRCUMFLEX AND ACUTEgSMA
LL LETTER A WITH CIRCUMFLEX AND ACUTEgCAPITAL LETTER A WITH CIRCUMFLEX AND GRAVEgSMALL LETTER A WI
TH CIRCUMFLEX AND GRAVEgCAPITAL LETTER A WITH CIRCUMFLEX AND HOOK ABOVEgSMALL LETTER A WITH CIRCUM
FLEX AND HOOK ABOVEgCAPITAL LETTER A WITH CIRCUMFLEX AND TILDEgSMALL LETTER A WITH CIRCUMFLEX AN
D TILDEgCAPITAL LETTER A WITH CIRCUMFLEX AND DOT BELOWgSMALL LETTER A WITH CIRCUMFLEX AND DOT BELO
WgCAPITAL LETTER A WITH BREVE AND ACUTEgSMALL LETTER A WITH BREVE AND ACUTEgCAPITAL LETTER A WIT
H BREVE AND GRAVEgSMALL LETTER A WITH BREVE AND GRAVEgCAPITAL LETTER A WITH BREVE AND HOOK ABOVEgS
MALL LETTER A WITH BREVE AND HOOK ABOVEgCAPITAL LETTER A WITH BREVE AND TILDEgSMALL LETTER A WIT
H BREVE AND TILDEgCAPITAL LETTER A WITH BREVE AND DOT BELOWgSMALL LETTER A WITH BREVE AND DOT BELO
WgCAPITAL LETTER E WITH DOT BELOWgSMALL LETTER E WITH DOT BELOWgCAPITAL LETTER E WITH HOOK ABOVEgS
MALL LETTER E WITH HOOK ABOVEgCAPITAL LETTER E WITH TILDEgSMALL LETTER E WITH TILDEgCAPITAL LETTE
R E WITH CIRCUMFLEX AND ACUTEgSMALL LETTER E WITH CIRCUMFLEX AND ACUTEgCAPITAL LETTER E WITH CIRCU
MFLEX AND GRAVEgSMALL LETTER E WITH CIRCUMFLEX AND GRAVEgCAPITAL LETTER E WITH CIRCUMFLEX AND HOO
K ABOVEgSMALL LETTER E WITH CIRCUMFLEX AND HOOK ABOVEgCAPITAL LETTER E WITH CIRCUMFLEX AND TILDEgS
MALL LETTER E WITH CIRCUMFLEX AND TILDEgCAPITAL LETTER E WITH CIRCUMFLEX AND DOT BELOWgSMALL LETTE
R E WITH CIRCUMFLEX AND DOT BELOWgCAPITAL LETTER I WITH HOOK ABOVEgSMALL LETTER I WITH HOOK ABOVEg
CAPITAL LETTER I WITH DOT BELOWgSMALL LETTER I WITH DOT BELOWgCAPITAL LETTER O WITH DOT BELOWgSMAL
L LETTER O WITH DOT BELOWgCAPITAL LETTER O WITH HOOK ABOVEgSMALL LETTER O WITH HOOK ABOVEgCAPITA
L LETTER O WITH CIRCUMFLEX AND ACUTEgSMALL LETTER O WITH CIRCUMFLEX AND ACUTEgCAPITAL LETTER O WIT
H CIRCUMFLEX AND GRAVEgSMALL LETTER O WITH CIRCUMFLEX AND GRAVEgCAPITAL LETTER O WITH CIRCUMFLEX A
ND HOOK ABOVEgSMALL LETTER O WITH CIRCUMFLEX AND HOOK ABOVEgCAPITAL LETTER O WITH CIRCUMFLEX AND T
ILDEgSMALL LETTER O WITH CIRCUMFLEX AND TILDEgCAPITAL LETTER O WITH CIRCUMFLEX AND DOT BELOWgSMAL
L LETTER O WITH CIRCUMFLEX AND DOT BELOWgCAPITAL LETTER O WITH HORN AND ACUTEgSMALL LETTER O WIT
H HORN AND ACUTEgCAPITAL LETTER O WITH HORN AND GRAVEgSMALL LETTER O WITH HORN AND GRAVEgCAPITAL L
ETTER O WITH HORN AND HOOK ABOVEgSMALL LETTER O WITH HORN AND HOOK ABOVEgCAPITAL LETTER O WITH HOR
N AND TILDEgSMALL LETTER O WITH HORN AND TILDEgCAPITAL LETTER O WITH HORN AND DOT BELOWgSMALL LETT
ER O WITH HORN AND DOT BELOWgCAPITAL LETTER U WITH DOT BELOWgSMALL LETTER U WITH DOT BELOWgCAPITA
L LETTER U WITH HOOK ABOVEgSMALL LETTER U WITH HOOK ABOVEgCAPITAL LETTER U WITH HORN AND ACUTEgSMA
LL LETTER U WITH HORN AND ACUTEgCAPITAL LETTER U WITH HORN AND GRAVEgSMALL LETTER U WITH HORN AN
D GRAVEgCAPITAL LETTER U WITH HORN AND HOOK ABOVEgSMALL LETTER U WITH HORN AND HOOK ABOVEgCAPITA
L LETTER U WITH HORN AND TILDEgSMALL LETTER U WITH HORN AND TILDEgCAPITAL LETTER U WITH HORN AND D
OT BELOWgSMALL LETTER U WITH HORN AND DOT BELOWgCAPITAL LETTER Y WITH GRAVEgSMALL LETTER Y WITH GR
AVEgCAPITAL LETTER Y WITH DOT BELOWgSMALL LETTER Y WITH DOT BELOWgCAPITAL LETTER Y WITH HOOK ABOVE
gSMALL LETTER Y WITH HOOK ABOVEgCAPITAL LETTER Y WITH TILDEgSMALL LETTER Y WITH TILDEgCAPITAL LETT
ER MIDDLE-WELSH LLgSMALL LETTER MIDDLE-WELSH LLgCAPITAL LETTER MIDDLE-WELSH VgSMALL LETTER MIDDLE-
WELSH VgCAPITAL LETTER Y WITH LOOPgSMALL LETTER Y WITH LOOPaGREEK SMALL LETTER ALPHA WITH PSILI+DA
SIA+PSILI AND VARIA+DASIA AND VARIA+PSILI AND OXIA+DASIA AND OXIA+PSILI AND PERISPOMENI+DASIA AN
D PERISPOMENIgCAPITAL LETTER ALPHA WITH PSILI.DASIA.PSILI AND VARIA.DASIA AND VARIA.PSILI AND OXIA
.DASIA AND OXIA.PSILI AND PERISPOMENI.DASIA AND PERISPOMENIgSMALL LETTER EPSILON WITH PSILI.DASIA.
PSILI AND VARIA.DASIA AND VARIA.PSILI AND OXIA.DASIA AND OXIA@1F18;gCAPITAL LETTER EPSILON WITH PS
ILI>DASIA>PSILI AND VARIA>DASIA AND VARIA>PSILI AND OXIA>DASIA AND OXIA@1F20;gSMALL LETTER ETA WIT
H PSILI%DASIA%PSILI AND VARIA%DASIA AND VARIA%PSILI AND OXIA%DASIA AND OXIA%PSILI AND PERISPOMENI%
DASIA AND PERISPOMENIgCAPITAL LETTER ETA WITH PSILI+DASIA+PSILI AND VARIA+DASIA AND VARIA+PSILI AN
D OXIA+DASIA AND OXIA+PSILI AND PERISPOMENI+DASIA AND PERISPOMENIgSMALL LETTER IOTA WITH PSILI&DAS
IA&PSILI AND VARIA&DASIA AND VARIA&PSILI AND OXIA&DASIA AND OXIA&PSILI AND PERISPOMENI&DASIA AND P
ERISPOMENIgCAPITAL LETTER IOTA WITH PSILI,DASIA,PSILI AND VARIA,DASIA AND VARIA,PSILI AND OXIA,DAS
IA AND OXIA,PSILI AND PERISPOMENI,DASIA AND PERISPOMENIgSMALL LETTER OMICRON WITH PSILI.DASIA.PSIL
I AND VARIA.DASIA AND VARIA.PSILI AND OXIA.DASIA AND OXIA@1F48;gCAPITAL LETTER OMICRON WITH PSILI>
DASIA>PSILI AND VARIA>DASIA AND VARIA>PSILI AND OXIA>DASIA AND OXIA@1F50;gSMALL LETTER UPSILON WIT
H PSILI.DASIA.PSILI AND VARIA.DASIA AND VARIA.PSILI AND OXIA.DASIA AND OXIA.PSILI AND PERISPOMENI.
DASIA AND PERISPOMENI@1F59;gCAPITAL LETTER UPSILON WITH DASIA@1F5B;~ AND VARIA@1F5D;~ AND OXIA@1F5
F;~ AND PERISPOMENIgSMALL LETTER OMEGA WITH PSILI+DASIA+PSILI AND VARIA+DASIA AND VARIA+PSILI AN
D OXIA+DASIA AND OXIA+PSILI AND PERISPOMENI+DASIA AND PERISPOMENIgCAPITAL LETTER OMEGA WITH PSILI.
DASIA.PSILI AND VARIA.DASIA AND VARIA.PSILI AND OXIA.DASIA AND OXIA.PSILI AND PERISPOMENI.DASIA AN
D PERISPOMENIgSMALL LETTER ALPHA WITH VARIA+OXIAtEPSILON WITH VARIA.OXIAuTA WITH VARIA%OXIAtIOTA W
ITH VARIA&OXIAtOMICRON WITH VARIA.OXIAtUPSILON WITH VARIA.OXIAtOMEGA WITH VARIA+OXIA@1F80;tALPHA W
ITH PSILI AND YPOGEGRAMMENI+DASIA AND YPOGEGRAMMENI+PSILI AND VARIA AND YPOGEGRAMMENI+DASIA AND VA
RIA AND YPOGEGRAMMENI+PSILI AND OXIA AND YPOGEGRAMMENI+DASIA AND OXIA AND YPOGEGRAMMENI+PSILI AN
D PERISPOMENI AND YPOGEGRAMMENI+DASIA AND PERISPOMENI AND YPOGEGRAMMENIgCAPITAL LETTER ALPHA WIT
H PSILI AND PROSGEGRAMMENI.DASIA AND PROSGEGRAMMENI.PSILI AND VARIA AND PROSGEGRAMMENI.DASIA AND V
ARIA AND PROSGEGRAMMENI.PSILI AND OXIA AND PROSGEGRAMMENI.DASIA AND OXIA AND PROSGEGRAMMENI.PSIL
I AND PERISPOMENI AND PROSGEGRAMMENI.DASIA AND PERISPOMENI AND PROSGEGRAMMENIgSMALL LETTER ETA WIT
H PSILI AND YPOGEGRAMMENI%DASIA AND YPOGEGRAMMENI%PSILI AND VARIA AND YPOGEGRAMMENI%DASIA AND VARI
A AND YPOGEGRAMMENI%PSILI AND OXIA AND YPOGEGRAMMENI%DASIA AND OXIA AND YPOGEGRAMMENI%PSILI AND PE
RISPOMENI AND YPOGEGRAMMENI%DASIA AND PERISPOMENI AND YPOGEGRAMMENIgCAPITAL LETTER ETA WITH PSIL
I AND PROSGEGRAMMENI+DASIA AND PROSGEGRAMMENI+PSILI AND VARIA AND PROSGEGRAMMENI+DASIA AND VARIA A
ND PROSGEGRAMMENI+PSILI AND OXIA AND PROSGEGRAMMENI+DASIA AND OXIA AND PROSGEGRAMMENI+PSILI AND PE
RISPOMENI AND PROSGEGRAMMENI+DASIA AND PERISPOMENI AND PROSGEGRAMMENIgSMALL LETTER OMEGA WITH PSIL
I AND YPOGEGRAMMENI+DASIA AND YPOGEGRAMMENI+PSILI AND VARIA AND YPOGEGRAMMENI+DASIA AND VARIA AN
D YPOGEGRAMMENI+PSILI AND OXIA AND YPOGEGRAMMENI+DASIA AND OXIA AND YPOGEGRAMMENI+PSILI AND PERISP
OMENI AND YPOGEGRAMMENI+DASIA AND PERISPOMENI AND YPOGEGRAMMENIgCAPITAL LETTER OMEGA WITH PSILI AN
D PROSGEGRAMMENI.DASIA AND PROSGEGRAMMENI.PSILI AND VARIA AND PROSGEGRAMMENI.DASIA AND VARIA AND P
ROSGEGRAMMENI.PSILI AND OXIA AND PROSGEGRAMMENI.DASIA AND OXIA AND PROSGEGRAMMENI.PSILI AND PERISP
OMENI AND PROSGEGRAMMENI.DASIA AND PERISPOMENI AND PROSGEGRAMMENIgSMALL LETTER ALPHA WITH VRACHY+M
ACRON+VARIA AND YPOGEGRAMMENI+YPOGEGRAMMENI+OXIA AND YPOGEGRAMMENI@1FB6;+PERISPOMENI~NI AND YPOGEG
RAMMENIgCAPITAL LETTER ALPHA WITH VRACHY.MACRON.VARIA.OXIA.PROSGEGRAMMENIgKORONISgPROSGEGRAMMENIhS
ILIhERISPOMENIgDIALYTIKA AND PERISPOMENIgSMALL LETTER ETA WITH VARIA AND YPOGEGRAMMENI%YPOGEGRAMME
NI%OXIA AND YPOGEGRAMMENI@1FC6;%PERISPOMENI~ AND YPOGEGRAMMENIgCAPITAL LETTER EPSILON WITH VARIA>O
XIAwTA WITH VARIA+OXIA+PROSGEGRAMMENIgPSILI AND VARIAqOXIAqPERISPOMENIgSMALL LETTER IOTA WITH VRAC
HY&MACRON&DIALYTIKA AND VARIA~AND OXIA@1FD6;&PERISPOMENI&DIALYTIKA AND PERISPOMENIgCAPITAL LETTE
R IOTA WITH VRACHY,MACRON,VARIA,OXIA@1FDD;gDASIA AND VARIAqOXIAqPERISPOMENIgSMALL LETTER UPSILON W
ITH VRACHY.MACRON.DIALYTIKA AND VARIA~KA AND OXIAtRHO WITH PSILI%DASIAtUPSILON WITH PERISPOMENI.DI
ALYTIKA AND PERISPOMENIgCAPITAL LETTER UPSILON WITH VRACHY>MACRON>VARIA>OXIAvRHO WITH DASIAgDIALYT
IKA AND VARIAuOXIAgVARIA@1FF2;gSMALL LETTER OMEGA WITH VARIA AND YPOGEGRAMMENI+YPOGEGRAMMENI+OXI
A AND YPOGEGRAMMENI@1FF6;+PERISPOMENI~NI AND YPOGEGRAMMENIgCAPITAL LETTER OMICRON WITH VARIA>OXIAx
EGA WITH VARIA.OXIA.PROSGEGRAMMENIgOXIAgDASIA
"

end TargetedConfig.Text.Name
