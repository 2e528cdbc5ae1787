/-! # Names of presentation forms -/

namespace TargetedConfig.Text.Name

/-- Letters for the sake of other character sets, and variation selectors. -/
def forms : String := "
@D7B0;aHANGUL JUNGSEONG O-YEOtO-IrYO-AvEuEOrU-YEOtI-IrYU-AEuOrEU-AuEOvuOrI-YA-OvEuEOvtO-ItYOuUtIrA
RAEA-AxE@D7CB;iONGSEONG NIEUN-RIEULxCHIEUCHrSSANGTIKEUT%-PIEUPrTIKEUT-PIEUPySIOS%-KIYEOKyCIEUCzHIE
UCHyTHIEUTHrRIEUL-SSANGKIYEOKxKIYEOK-HIEUHrSSANGRIEUL-KHIEUKHrRIEUL-MIEUM-HIEUHxPIEUP-TIKEUT&PHIEU
PHxYESIEUNGzORINHIEUH-HIEUHrKAPYEOUNRIEULrMIEUM-NIEUNxSSANGNIEUNrSSANGMIEUMrMIEUM-PIEUP-SIOSxCIEUC
rPIEUP-TIKEUTxRIEUL-PHIEUPHxMIEUMrSSANGPIEUPrPIEUP-SIOS-TIKEUTxCIEUCyHIEUCHrSIOS-MIEUMwKAPYEOUNPIE
UPsSANGSIOS-KIYEOK$TIKEUTsIOS-PANSIOSwCIEUCxHIEUCHwTHIEUTHwHIEUHrPANSIOS-PIEUPzKAPYEOUNPIEUPrYESIE
UNG-MIEUM!HIEUHrCIEUC-PIEUPxSSANGPIEUPrSSANGCIEUCrPHIEUPH-SIOSzTHIEUTH@FB00;aLATIN SMALL LIGATUR
E FFwIwLwFIxLvLONG S TvST@FB13;aARMENIAN SMALL LIGATURE MEN NOW%ECH%INIyVEW NOWyMEN XEH@FB1D;aHEBR
EW LETTER YOD WITH HIRIQhPOINT JUDEO-SPANISH VARIKAhLIGATURE YIDDISH YOD YOD PATAHiETTER ALTERNATI
VE AYINoWIDE ALEFtDALETtHEtKAFtLAMEDtFINAL MEMtRESHtTAVoALTERNATIVE PLUS SIGNoSHIN WITH SHIN DOTzI
N DOTyDAGESH AND SHIN DOT^IN DOToALEF WITH PATAHyQAMATSyMAPIQoBET WITH DAGESHoGIMEL WITH DAGESHoDA
LET WITH DAGESHoHE WITH MAPIQoVAV WITH DAGESHoZAYIN WITH DAGESH@FB38;oTET WITH DAGESHoYOD WITH DAG
ESHoFINAL KAF WITH DAGESHoKAF WITH DAGESHoLAMED WITH DAGESH@FB3E;oMEM WITH DAGESH@FB40;oNUN WITH D
AGESHoSAMEKH WITH DAGESH@FB43;oFINAL PE WITH DAGESHoPE WITH DAGESH@FB46;oTSADI WITH DAGESHoQOF WIT
H DAGESHoRESH WITH DAGESHoSHIN WITH DAGESHoTAV WITH DAGESHoVAV WITH HOLAMoBET WITH RAFEoKAF WITH R
AFEoPE WITH RAFEiIGATURE ALEF LAMEDaARABIC LETTER ALEF WASLA ISOLATED FORMzFINAL FORMoBEEH ISOLATE
D FORMtFINAL FORMtINITIAL FORMtMEDIAL FORMoPEH ISOLATED FORMsFINAL FORMsINITIAL FORMsMEDIAL FORMoB
EHEH ISOLATED FORMuFINAL FORMuINITIAL FORMuMEDIAL FORMoTTEHEH ISOLATED FORMvFINAL FORMvINITIAL FOR
MvMEDIAL FORMpEHEH ISOLATED FORMuFINAL FORMuINITIAL FORMuMEDIAL FORMpTEH ISOLATED FORMtFINAL FORMt
INITIAL FORMtMEDIAL FORMoVEH ISOLATED FORMsFINAL FORMsINITIAL FORMsMEDIAL FORMoPEHEH ISOLATED FORM
uFINAL FORMuINITIAL FORMuMEDIAL FORMoDYEH ISOLATED FORMtFINAL FORMtINITIAL FORMtMEDIAL FORMoNYEH I
SOLATED FORMtFINAL FORMtINITIAL FORMtMEDIAL FORMoTCHEH ISOLATED FORMuFINAL FORMuINITIAL FORMuMEDIA
L FORMtEH ISOLATED FORMwFINAL FORMwINITIAL FORMwMEDIAL FORMoDDAHAL ISOLATED FORMvFINAL FORMpAHAL I
SOLATED FORMuFINAL FORMpUL ISOLATED FORMsFINAL FORMpDAL ISOLATED FORMtFINAL FORMoJEH ISOLATED FORM
sFINAL FORMoRREH ISOLATED FORMtFINAL FORMoKEHEH ISOLATED FORMuFINAL FORMuINITIAL FORMuMEDIAL FORMo
GAF ISOLATED FORMsFINAL FORMsINITIAL FORMsMEDIAL FORMpUEH ISOLATED FORMtFINAL FORMtINITIAL FORMtME
DIAL FORMoNGOEH ISOLATED FORMuFINAL FORMuINITIAL FORMuMEDIAL FORMpOON GHUNNA ISOLATED FORM!FINAL F
ORMoRNOON ISOLATED FORMuFINAL FORMuINITIAL FORMuMEDIAL FORMoHEH WITH YEH ABOVE ISOLATED FORM<FINA
L FORMsGOAL ISOLATED FORMxFINAL FORMxINITIAL FORMxMEDIAL FORMsDOACHASHMEE ISOLATED FORM+FINAL FORM
+INITIAL FORM+MEDIAL FORMoYEH BARREE ISOLATED FORMzFINAL FORMzWITH HAMZA ABOVE ISOLATED FORM~VE FI
NAL FORMhSYMBOL DOT ABOVEsBELOWoTWO DOTS ABOVExBELOWpHREE DOTS ABOVEzBELOWzPOINTING DOWNWARDS ABOV
E~ARDS BELOWoFOUR DOTS ABOVEyBELOWoDOUBLE VERTICAL BAR BELOWoTWO DOTS VERTICALLY ABOVE>BELOWoRINGo
SMALL TAH ABOVEyBELOWoWASLA ABOVE@FBD3;hLETTER NG ISOLATED FORMrFINAL FORMrINITIAL FORMrMEDIAL FOR
MoU ISOLATED FORMqFINAL FORMoOE ISOLATED FORMrFINAL FORMoYU ISOLATED FORMrFINAL FORMoU WITH HAMZ
A ABOVE ISOLATED FORMoVE ISOLATED FORMrFINAL FORMoKIRGHIZ OE ISOLATED FORMzFINAL FORMwYU ISOLATE
D FORMzFINAL FORMoE ISOLATED FORMqFINAL FORMqINITIAL FORMqMEDIAL FORMoUIGHUR KAZAKH KIRGHIZ ALEF M
AKSURA INITIAL FORM~F MAKSURA MEDIAL FORMiIGATURE YEH WITH HAMZA ABOVE WITH ALEF ISOLATED FORM~T
H ALEF FINAL FORM~TH AE ISOLATED FORM~TH AE FINAL FORM~TH WAW ISOLATED FORM~TH WAW FINAL FORM~T
H U ISOLATED FORM~TH U FINAL FORM~TH OE ISOLATED FORM~TH OE FINAL FORM~TH YU ISOLATED FORM~TH YU F
INAL FORM~TH E ISOLATED FORM~TH E FINAL FORM~TH E INITIAL FORMqUIGHUR KIRGHIZ YEH WITH HAMZA ABOV
E WITH ALEF MAKSURA ISOLATED FORM~ HAMZA ABOVE WITH ALEF MAKSURA FINAL FORM~ HAMZA ABOVE WITH ALE
F MAKSURA INITIAL FORMiETTER FARSI YEH ISOLATED FORMyFINAL FORMyINITIAL FORMyMEDIAL FORMiIGATURE Y
EH WITH HAMZA ABOVE WITH JEEM ISOLATED FORM~TH HAH ISOLATED FORM~TH MEEM ISOLATED FORM~TH ALEF MAK
SURA ISOLATED FORM~TH YEH ISOLATED FORMqBEH WITH JEEM ISOLATED FORMzHAH ISOLATED FORMzKHAH ISOLATE
D FORMzMEEM ISOLATED FORMzALEF MAKSURA ISOLATED FORMzYEH ISOLATED FORMqTEH WITH JEEM ISOLATED FORM
zHAH ISOLATED FORMzKHAH ISOLATED FORMzMEEM ISOLATED FORMzALEF MAKSURA ISOLATED FORMzYEH ISOLATED F
ORMrHEH WITH JEEM ISOLATED FORM!MEEM ISOLATED FORM!ALEF MAKSURA ISOLATED FORM!YEH ISOLATED FORMqJE
EM WITH HAH ISOLATED FORM!MEEM ISOLATED FORMqHAH WITH JEEM ISOLATED FORMzMEEM ISOLATED FORMqKHAH W
ITH JEEM ISOLATED FORM!HAH ISOLATED FORM!MEEM ISOLATED FORMqSEEN WITH JEEM ISOLATED FORM!HAH ISOLA
TED FORM!KHAH ISOLATED FORM!MEEM ISOLATED FORMrAD WITH HAH ISOLATED FORMzMEEM ISOLATED FORMqDAD WI
TH JEEM ISOLATED FORMzHAH ISOLATED FORMzKHAH ISOLATED FORMzMEEM ISOLATED FORMqTAH WITH HAH ISOLATE
D FORMzMEEM ISOLATED FORMqZAH WITH MEEM ISOLATED FORMqAIN WITH JEEM ISOLATED FORMzMEEM ISOLATED FO
RMqGHAIN WITH JEEM ISOLATED FORM$MEEM ISOLATED FORMqFEH WITH JEEM ISOLATED FORMzHAH ISOLATED FORMz
KHAH ISOLATED FORMzMEEM ISOLATED FORMzALEF MAKSURA ISOLATED FORMzYEH ISOLATED FORMqQAF WITH HAH IS
OLATED FORMzMEEM ISOLATED FORMzALEF MAKSURA ISOLATED FORMzYEH ISOLATED FORMqKAF WITH ALEF ISOLATE
D FORMzJEEM ISOLATED FORMzHAH ISOLATED FORMzKHAH ISOLATED FORMzLAM ISOLATED FORMzMEEM ISOLATED FOR
MzALEF MAKSURA ISOLATED FORMzYEH ISOLATED FORMqLAM WITH JEEM ISOLATED FORMzHAH ISOLATED FORMzKHA
H ISOLATED FORMzMEEM ISOLATED FORMzALEF MAKSURA ISOLATED FORMzYEH ISOLATED FORMqMEEM WITH JEEM ISO
LATED FORM!HAH ISOLATED FORM!KHAH ISOLATED FORM!MEEM ISOLATED FORM!ALEF MAKSURA ISOLATED FORM!YE
H ISOLATED FORMqNOON WITH JEEM ISOLATED FORM!HAH ISOLATED FORM!KHAH ISOLATED FORM!MEEM ISOLATED FO
RM!ALEF MAKSURA ISOLATED FORM!YEH ISOLATED FORMqHEH WITH JEEM ISOLATED FORMzMEEM ISOLATED FORMzALE
F MAKSURA ISOLATED FORMzYEH ISOLATED FORMqYEH WITH JEEM ISOLATED FORMzHAH ISOLATED FORMzKHAH ISOLA
TED FORMzMEEM ISOLATED FORMzALEF MAKSURA ISOLATED FORMzYEH ISOLATED FORMqTHAL WITH SUPERSCRIPT ALE
F ISOLATED FORMqREH WITH SUPERSCRIPT ALEF ISOLATED FORMqALEF MAKSURA WITH SUPERSCRIPT ALEF ISOLATE
D FORMqSHADDA WITH DAMMATAN ISOLATED FORM%KASRATAN ISOLATED FORM%FATHA ISOLATED FORM%DAMMA ISOLATE
D FORM%KASRA ISOLATED FORM%SUPERSCRIPT ALEF ISOLATED FORMqYEH WITH HAMZA ABOVE WITH REH FINAL FORM
~TH ZAIN FINAL FORM~TH MEEM FINAL FORM~TH NOON FINAL FORM~TH ALEF MAKSURA FINAL FORM~TH YEH FINA
L FORMqBEH WITH REH FINAL FORMzZAIN FINAL FORMzMEEM FINAL FORMzNOON FINAL FORMzALEF MAKSURA FINA
L FORMzYEH FINAL FORMqTEH WITH REH FINAL FORMzZAIN FINAL FORMzMEEM FINAL FORMzNOON FINAL FORMzALE
F MAKSURA FINAL FORMzYEH FINAL FORMrHEH WITH REH FINAL FORM!ZAIN FINAL FORM!MEEM FINAL FORM!NOON F
INAL FORM!ALEF MAKSURA FINAL FORM!YEH FINAL FORMqFEH WITH ALEF MAKSURA FINAL FORMzYEH FINAL FORMqQ
AF WITH ALEF MAKSURA FINAL FORMzYEH FINAL FORMqKAF WITH ALEF FINAL FORMzLAM FINAL FORMzMEEM FINA
L FORMzALEF MAKSURA FINAL FORMzYEH FINAL FORMqLAM WITH MEEM FINAL FORMzALEF MAKSURA FINAL FORMzYE
H FINAL FORMqMEEM WITH ALEF FINAL FORM!MEEM FINAL FORMqNOON WITH REH FINAL FORM!ZAIN FINAL FORM!ME
EM FINAL FORM!NOON FINAL FORM!ALEF MAKSURA FINAL FORM!YEH FINAL FORMqALEF MAKSURA WITH SUPERSCRIP
T ALEF FINAL FORMqYEH WITH REH FINAL FORMzZAIN FINAL FORMzMEEM FINAL FORMzNOON FINAL FORMzALEF MAK
SURA FINAL FORMzYEH FINAL FORMzHAMZA ABOVE WITH JEEM INITIAL FORM~TH HAH INITIAL FORM~TH KHAH INIT
IAL FORM~TH MEEM INITIAL FORM~TH HEH INITIAL FORMqBEH WITH JEEM INITIAL FORMzHAH INITIAL FORMzKHA
H INITIAL FORMzMEEM INITIAL FORMzHEH INITIAL FORMqTEH WITH JEEM INITIAL FORMzHAH INITIAL FORMzKHA
H INITIAL FORMzMEEM INITIAL FORMzHEH INITIAL FORMrHEH WITH MEEM INITIAL FORMqJEEM WITH HAH INITIA
L FORM!MEEM INITIAL FORMqHAH WITH JEEM INITIAL FORMzMEEM INITIAL FORMqKHAH WITH JEEM INITIAL FORM!
MEEM INITIAL FORMqSEEN WITH JEEM INITIAL FORM!HAH INITIAL FORM!KHAH INITIAL FORM!MEEM INITIAL FORM
rAD WITH HAH INITIAL FORMzKHAH INITIAL FORMzMEEM INITIAL FORMqDAD WITH JEEM INITIAL FORMzHAH INITI
AL FORMzKHAH INITIAL FORMzMEEM INITIAL FORMqTAH WITH HAH INITIAL FORMqZAH WITH MEEM INITIAL FORMqA
IN WITH JEEM INITIAL FORMzMEEM INITIAL FORMqGHAIN WITH JEEM INITIAL FORM$MEEM INITIAL FORMqFEH WIT
H JEEM INITIAL FORMzHAH INITIAL FORMzKHAH INITIAL FORMzMEEM INITIAL FORMqQAF WITH HAH INITIAL FORM
zMEEM INITIAL FORMqKAF WITH JEEM INITIAL FORMzHAH INITIAL FORMzKHAH INITIAL FORMzLAM INITIAL FORMz
MEEM INITIAL FORMqLAM WITH JEEM INITIAL FORMzHAH INITIAL FORMzKHAH INITIAL FORMzMEEM INITIAL FORMz
HEH INITIAL FORMqMEEM WITH JEEM INITIAL FORM!HAH INITIAL FORM!KHAH INITIAL FORM!MEEM INITIAL FORMq
NOON WITH JEEM INITIAL FORM!HAH INITIAL FORM!KHAH INITIAL FORM!MEEM INITIAL FORM!HEH INITIAL FORMq
HEH WITH JEEM INITIAL FORMzMEEM INITIAL FORMzSUPERSCRIPT ALEF INITIAL FORMqYEH WITH JEEM INITIAL F
ORMzHAH INITIAL FORMzKHAH INITIAL FORMzMEEM INITIAL FORMzHEH INITIAL FORM!AMZA ABOVE WITH MEEM MED
IAL FORM~TH HEH MEDIAL FORMqBEH WITH MEEM MEDIAL FORMzHEH MEDIAL FORMqTEH WITH MEEM MEDIAL FORMzHE
H MEDIAL FORMrHEH WITH MEEM MEDIAL FORM!HEH MEDIAL FORMqSEEN WITH MEEM MEDIAL FORM!HEH MEDIAL FORM
rHEEN WITH MEEM MEDIAL FORM$HEH MEDIAL FORMqKAF WITH LAM MEDIAL FORMzMEEM MEDIAL FORMqLAM WITH MEE
M MEDIAL FORMqNOON WITH MEEM MEDIAL FORM!HEH MEDIAL FORMqYEH WITH MEEM MEDIAL FORMzHEH MEDIAL FORM
qSHADDA WITH FATHA MEDIAL FORM%DAMMA MEDIAL FORM%KASRA MEDIAL FORMqTAH WITH ALEF MAKSURA ISOLATE
D FORMzYEH ISOLATED FORMqAIN WITH ALEF MAKSURA ISOLATED FORMzYEH ISOLATED FORMqGHAIN WITH ALEF MAK
SURA ISOLATED FORM$YEH ISOLATED FORMqSEEN WITH ALEF MAKSURA ISOLATED FORM!YEH ISOLATED FORMrHEEN W
ITH ALEF MAKSURA ISOLATED FORM$YEH ISOLATED FORMqHAH WITH ALEF MAKSURA ISOLATED FORMzYEH ISOLATE
D FORMqJEEM WITH ALEF MAKSURA ISOLATED FORM!YEH ISOLATED FORMqKHAH WITH ALEF MAKSURA ISOLATED FORM
!YEH ISOLATED FORMqSAD WITH ALEF MAKSURA ISOLATED FORMzYEH ISOLATED FORMqDAD WITH ALEF MAKSURA ISO
LATED FORMzYEH ISOLATED FORMqSHEEN WITH JEEM ISOLATED FORM$HAH ISOLATED FORM$KHAH ISOLATED FORM$ME
EM ISOLATED FORM$REH ISOLATED FORMrEEN WITH REH ISOLATED FORMrAD WITH REH ISOLATED FORMqDAD WITH R
EH ISOLATED FORMqTAH WITH ALEF MAKSURA FINAL FORMzYEH FINAL FORMqAIN WITH ALEF MAKSURA FINAL FORMz
YEH FINAL FORMqGHAIN WITH ALEF MAKSURA FINAL FORM$YEH FINAL FORMqSEEN WITH ALEF MAKSURA FINAL FORM
!YEH FINAL FORMrHEEN WITH ALEF MAKSURA FINAL FORM$YEH FINAL FORMqHAH WITH ALEF MAKSURA FINAL FORMz
YEH FINAL FORMqJEEM WITH ALEF MAKSURA FINAL FORM!YEH FINAL FORMqKHAH WITH ALEF MAKSURA FINAL FORM!
YEH FINAL FORMqSAD WITH ALEF MAKSURA FINAL FORMzYEH FINAL FORMqDAD WITH ALEF MAKSURA FINAL FORMzYE
H FINAL FORMqSHEEN WITH JEEM FINAL FORM$HAH FINAL FORM$KHAH FINAL FORM$MEEM FINAL FORM$REH FINAL F
ORMrEEN WITH REH FINAL FORMrAD WITH REH FINAL FORMqDAD WITH REH FINAL FORMqSHEEN WITH JEEM INITIA
L FORM$HAH INITIAL FORM$KHAH INITIAL FORM$MEEM INITIAL FORMrEEN WITH HEH INITIAL FORMrHEEN WITH HE
H INITIAL FORMqTAH WITH MEEM INITIAL FORMqSEEN WITH JEEM MEDIAL FORM!HAH MEDIAL FORM!KHAH MEDIAL F
ORMrHEEN WITH JEEM MEDIAL FORM$HAH MEDIAL FORM$KHAH MEDIAL FORMqTAH WITH MEEM MEDIAL FORMqZAH WIT
H MEEM MEDIAL FORMqALEF WITH FATHATAN FINAL FORM?ISOLATED FORMaORNATE LEFT PARENTHESIShRIGHT PAREN
THESISaARABIC LIGATURE RAHIMAHU ALLAAHsDI ALLAAHU ANH.AA.UM>AA<NNAqSALLALLAAHU ALAYHI WA-AALIHqALA
YHI AS-SALAAMwM AS-SALAAMxAA AS-SALAAMw AS-SALAATU WAS-SALAAMqQUDDISA SIRRAHqSALLALLAHU ALAYHI WAA
ALIHEE WA-SALLAMqALAYHAA AS-SALAAMqTABAARAKA WA-TAAALAAqRAHIMAHUM ALLAAHqTEH WITH JEEM WITH MEEM I
NITIAL FORMzHAH WITH JEEM FINAL FORM~INITIAL FORM>MEEM INITIAL FORMzKHAH WITH MEEM INITIAL FORMzME
EM WITH JEEM INITIAL FORM?HAH INITIAL FORM?KHAH INITIAL FORMqJEEM WITH MEEM WITH HAH FINAL FORM~ I
NITIAL FORMqHAH WITH MEEM WITH YEH FINAL FORM?ALEF MAKSURA FINAL FORMqSEEN WITH HAH WITH JEEM INIT
IAL FORM!JEEM WITH HAH INITIAL FORM^ALEF MAKSURA FINAL FORM!MEEM WITH HAH FINAL FORM~ INITIAL FORM
^JEEM INITIAL FORM^MEEM FINAL FORM~M INITIAL FORMrAD WITH HAH WITH HAH FINAL FORM|INITIAL FORMzMEE
M WITH MEEM FINAL FORMrHEEN WITH HAH WITH MEEM FINAL FORM~M INITIAL FORM$JEEM WITH YEH FINAL FORM$
MEEM WITH KHAH FINAL FORM~AH INITIAL FORM_MEEM FINAL FORM~EM INITIAL FORMqDAD WITH HAH WITH ALEF M
AKSURA FINAL FORMzKHAH WITH MEEM FINAL FORM~ INITIAL FORMqTAH WITH MEEM WITH HAH FINAL FORM~INITIA
L FORM?MEEM INITIAL FORM?YEH FINAL FORMqAIN WITH JEEM WITH MEEM FINAL FORMzMEEM WITH MEEM FINAL FO
RM~ INITIAL FORM?ALEF MAKSURA FINAL FORMqGHAIN WITH MEEM WITH MEEM FINAL FORM_YEH FINAL FORM_ALE
F MAKSURA FINAL FORMqFEH WITH KHAH WITH MEEM FINAL FORM~ INITIAL FORMqQAF WITH MEEM WITH HAH FINA
L FORM?MEEM FINAL FORMqLAM WITH HAH WITH MEEM FINAL FORM>YEH FINAL FORM>ALEF MAKSURA FINAL FORMzJE
EM WITH JEEM INITIAL FORM~ FINAL FORMzKHAH WITH MEEM FINAL FORM~ INITIAL FORMzMEEM WITH HAH FINA
L FORM~INITIAL FORMqMEEM WITH HAH WITH JEEM INITIAL FORM?MEEM INITIAL FORM?YEH FINAL FORM!JEEM WIT
H HAH INITIAL FORM^MEEM INITIAL FORM!KHAH WITH JEEM INITIAL FORM^MEEM INITIAL FORM@FD92;!JEEM WIT
H KHAH INITIAL FORMqHEH WITH MEEM WITH JEEM INITIAL FORM?MEEM INITIAL FORMqNOON WITH HAH WITH MEE
M INITIAL FORM?ALEF MAKSURA FINAL FORM!JEEM WITH MEEM FINAL FORM~M INITIAL FORM^ALEF MAKSURA FINA
L FORM!MEEM WITH YEH FINAL FORM^ALEF MAKSURA FINAL FORMqYEH WITH MEEM WITH MEEM FINAL FORM~ INITIA
L FORMqBEH WITH KHAH WITH YEH FINAL FORMqTEH WITH JEEM WITH YEH FINAL FORM?ALEF MAKSURA FINAL FORM
zKHAH WITH YEH FINAL FORM?ALEF MAKSURA FINAL FORMzMEEM WITH YEH FINAL FORM?ALEF MAKSURA FINAL FORM
qJEEM WITH MEEM WITH YEH FINAL FORM!HAH WITH ALEF MAKSURA FINAL FORM!MEEM WITH ALEF MAKSURA FINA
L FORMqSEEN WITH KHAH WITH ALEF MAKSURA FINAL FORMrAD WITH HAH WITH YEH FINAL FORMrHEEN WITH HAH W
ITH YEH FINAL FORMqDAD WITH HAH WITH YEH FINAL FORMqLAM WITH JEEM WITH YEH FINAL FORMzMEEM WITH YE
H FINAL FORMqYEH WITH HAH WITH YEH FINAL FORMzJEEM WITH YEH FINAL FORMzMEEM WITH YEH FINAL FORMqME
EM WITH MEEM WITH YEH FINAL FORMqQAF WITH MEEM WITH YEH FINAL FORMqNOON WITH HAH WITH YEH FINAL FO
RMqQAF WITH MEEM WITH HAH INITIAL FORMqLAM WITH HAH WITH MEEM INITIAL FORMqAIN WITH MEEM WITH YE
H FINAL FORMqKAF WITH MEEM WITH YEH FINAL FORMqNOON WITH JEEM WITH HAH INITIAL FORMqMEEM WITH KHA
H WITH YEH FINAL FORMqLAM WITH JEEM WITH MEEM INITIAL FORMqKAF WITH MEEM WITH MEEM FINAL FORMqLA
M WITH JEEM WITH MEEM FINAL FORMqNOON WITH JEEM WITH HAH FINAL FORMqJEEM WITH HAH WITH YEH FINAL F
ORMqHAH WITH JEEM WITH YEH FINAL FORMqMEEM WITH JEEM WITH YEH FINAL FORMqFEH WITH MEEM WITH YEH FI
NAL FORMqBEH WITH HAH WITH YEH FINAL FORMqKAF WITH MEEM WITH MEEM INITIAL FORMqAIN WITH JEEM WIT
H MEEM INITIAL FORMqSAD WITH MEEM WITH MEEM INITIAL FORMrEEN WITH KHAH WITH YEH FINAL FORMqNOON WI
TH JEEM WITH YEH FINAL FORM@FDCF;qSALAAMUHU ALAYNAA@FDF0;tLA USED AS KORANIC STOP SIGN ISOLATED FO
RMqQALA USED AS KORANIC STOP SIGN ISOLATED FORMqALLAH ISOLATED FORMrKBAR ISOLATED FORMqMOHAMMAD IS
OLATED FORMqSALAM ISOLATED FORMqRASOUL ISOLATED FORMqALAYHE ISOLATED FORMqWASALLAM ISOLATED FORMqS
ALLA ISOLATED FORMvLLAHOU ALAYHE WASALLAMqJALLAJALALOUHOUaRIAL SIGNaARABIC LIGATURE BISMILLAH AR-R
AHMAN AR-RAHEEMqSUBHAANAHU WA TAAALAAqAZZA WA JALLaVARIATION SELECTOR-1t2t3t4t5t6t7t8t9t10u1u2u3u4
u5u6aPRESENTATION FORM FOR VERTICAL COMMA,IDEOGRAPHIC COMMA~HIC FULL STOP,COLON,SEMICOLON,EXCLAMAT
ION MARK,QUESTION MARK,LEFT WHITE LENTICULAR BRACKET,RIGHT WHITE LENTICULAR BRAKCET,HORIZONTAL ELL
IPSIS@FE20;aCOMBINING LIGATURE LEFT HALFtRIGHT HALFkDOUBLE TILDE LEFT HALFxRIGHT HALFkMACRON LEF
T HALFrRIGHT HALFkCONJOINING MACRONkLIGATURE LEFT HALF BELOWtRIGHT HALF BELOWkTILDE LEFT HALF BELO
WqRIGHT HALF BELOWkMACRON LEFT HALF BELOWrRIGHT HALF BELOWkCONJOINING MACRON BELOWlYRILLIC TITLO L
EFT HALFzRIGHT HALFaPRESENTATION FORM FOR VERTICAL TWO DOT LEADER,EM DASH.N DASH,LOW LINE,WAVY LO
W LINE,LEFT PARENTHESIS,RIGHT PARENTHESIS,LEFT CURLY BRACKET,RIGHT CURLY BRACKET,LEFT TORTOISE SHE
LL BRACKET,RIGHT TORTOISE SHELL BRACKET,LEFT BLACK LENTICULAR BRACKET,RIGHT BLACK LENTICULAR BRACK
ET,LEFT DOUBLE ANGLE BRACKET,RIGHT DOUBLE ANGLE BRACKET,LEFT ANGLE BRACKET,RIGHT ANGLE BRACKET,LEF
T CORNER BRACKET,RIGHT CORNER BRACKET,LEFT WHITE CORNER BRACKET,RIGHT WHITE CORNER BRACKETaSESAM
E DOTaWHITE SESAME DOTaPRESENTATION FORM FOR VERTICAL LEFT SQUARE BRACKET,RIGHT SQUARE BRACKETaDAS
HED OVERLINEaCENTRELINE OVERLINEaWAVY OVERLINEaDOUBLE WAVY OVERLINEbASHED LOW LINEaCENTRELINE LO
W LINEaWAVY LOW LINEaSMALL COMMAgIDEOGRAPHIC COMMAgFULL STOP@FE54;gSEMICOLONgCOLONgQUESTION MARKgE
XCLAMATION MARKhM DASHgLEFT PARENTHESISgRIGHT PARENTHESISgLEFT CURLY BRACKETgRIGHT CURLY BRACKETgL
EFT TORTOISE SHELL BRACKETgRIGHT TORTOISE SHELL BRACKETgNUMBER SIGNgAMPERSANDhSTERISKgPLUS SIGNgHY
PHEN-MINUSgLESS-THAN SIGNgGREATER-THAN SIGNgEQUALS SIGN@FE68;gREVERSE SOLIDUSgDOLLAR SIGNgPERCEN
T SIGNgCOMMERCIAL AT@FE70;aARABIC FATHATAN ISOLATED FORMhTATWEEL WITH FATHATAN ABOVEhDAMMATAN ISOL
ATED FORMhTAIL FRAGMENThKASRATAN ISOLATED FORM@FE76;hFATHA ISOLATED FORMnMEDIAL FORMhDAMMA ISOLATE
D FORMnMEDIAL FORMhKASRA ISOLATED FORMnMEDIAL FORMhSHADDA ISOLATED FORMoMEDIAL FORMiUKUN ISOLATE
D FORMnMEDIAL FORMhLETTER HAMZA ISOLATED FORMoALEF WITH MADDA ABOVE ISOLATED FORM^FINAL FORMyHAMZ
A ABOVE ISOLATED FORM^FINAL FORMoWAW WITH HAMZA ABOVE ISOLATED FORM?FINAL FORMoALEF WITH HAMZA BEL
OW ISOLATED FORM^FINAL FORMoYEH WITH HAMZA ABOVE ISOLATED FORM?FINAL FORM?INITIAL FORM?MEDIAL FORM
oALEF ISOLATED FORMtFINAL FORMoBEH ISOLATED FORMsFINAL FORMsINITIAL FORMsMEDIAL FORMoTEH MARBUTA I
SOLATED FORM!FINAL FORMsISOLATED FORMsFINAL FORMsINITIAL FORMsMEDIAL FORMpHEH ISOLATED FORMtFINA
L FORMtINITIAL FORMtMEDIAL FORMoJEEM ISOLATED FORMtFINAL FORMtINITIAL FORMtMEDIAL FORMoHAH ISOLATE
D FORMsFINAL FORMsINITIAL FORMsMEDIAL FORMoKHAH ISOLATED FORMtFINAL FORMtINITIAL FORMtMEDIAL FORMo
DAL ISOLATED FORMsFINAL FORMoTHAL ISOLATED FORMtFINAL FORMoREH ISOLATED FORMsFINAL FORMoZAIN ISOLA
TED FORMtFINAL FORMoSEEN ISOLATED FORMtFINAL FORMtINITIAL FORMtMEDIAL FORMpHEEN ISOLATED FORMuFINA
L FORMuINITIAL FORMuMEDIAL FORMpAD ISOLATED FORMsFINAL FORMsINITIAL FORMsMEDIAL FORMoDAD ISOLATE
D FORMsFINAL FORMsINITIAL FORMsMEDIAL FORMoTAH ISOLATED FORMsFINAL FORMsINITIAL FORMsMEDIAL FORMoZ
AH ISOLATED FORMsFINAL FORMsINITIAL FORMsMEDIAL FORMoAIN ISOLATED FORMsFINAL FORMsINITIAL FORMsMED
IAL FORMoGHAIN ISOLATED FORMuFINAL FORMuINITIAL FORMuMEDIAL FORMoFEH ISOLATED FORMsFINAL FORMsINIT
IAL FORMsMEDIAL FORMoQAF ISOLATED FORMsFINAL FORMsINITIAL FORMsMEDIAL FORMoKAF ISOLATED FORMsFINA
L FORMsINITIAL FORMsMEDIAL FORMoLAM ISOLATED FORMsFINAL FORMsINITIAL FORMsMEDIAL FORMoMEEM ISOLATE
D FORMtFINAL FORMtINITIAL FORMtMEDIAL FORMoNOON ISOLATED FORMtFINAL FORMtINITIAL FORMtMEDIAL FORMo
HEH ISOLATED FORMsFINAL FORMsINITIAL FORMsMEDIAL FORMoWAW ISOLATED FORMsFINAL FORMoALEF MAKSURA IS
OLATED FORM$FINAL FORMoYEH ISOLATED FORMsFINAL FORMsINITIAL FORMsMEDIAL FORMiIGATURE LAM WITH ALE
F WITH MADDA ABOVE ISOLATED FORM~A ABOVE FINAL FORM?HAMZA ABOVE ISOLATED FORM~A ABOVE FINAL FORM~
A BELOW ISOLATED FORM~A BELOW FINAL FORM+ISOLATED FORM+FINAL FORM@FEFF;aZERO WIDTH NO-BREAK SPACE@
FF01;aFULLWIDTH EXCLAMATION MARKkQUOTATION MARKkNUMBER SIGNkDOLLAR SIGNkPERCENT SIGNkAMPERSANDlPOS
TROPHEkLEFT PARENTHESISkRIGHT PARENTHESISkASTERISKkPLUS SIGNkCOMMAkHYPHEN-MINUSkFULL STOPkSOLIDUSk
DIGIT ZEROqONEqTWOrHREEqFOURrIVEqSIXrEVENqEIGHTqNINEkCOLONkSEMICOLONkLESS-THAN SIGNkEQUALS SIGNkGR
EATER-THAN SIGNkQUESTION MARKkCOMMERCIAL ATkLATIN CAPITAL LETTER A,B,C,D,E,F,G,H,I,J,K,L,M,N,O,P,Q
,R,S,T,U,V,W,X,Y,ZlEFT SQUARE BRACKETkREVERSE SOLIDUSlIGHT SQUARE BRACKETkCIRCUMFLEX ACCENTkLOW LI
NEkGRAVE ACCENTkLATIN SMALL LETTER A&B&C&D&E&F&G&H&I&J&K&L&M&N&O&P&Q&R&S&T&U&V&W&X&Y&ZlEFT CURLY B
RACKETkVERTICAL LINEkRIGHT CURLY BRACKETkTILDEkLEFT WHITE PARENTHESISkRIGHT WHITE PARENTHESISaHALF
WIDTH IDEOGRAPHIC FULL STOPkLEFT CORNER BRACKETkRIGHT CORNER BRACKETkIDEOGRAPHIC COMMAkKATAKANA MI
DDLE DOTtLETTER WO!SMALL A.I.U.E.O.YA<U<O.TUs-HIRAGANA PROLONGED SOUND MARKs LETTER A!I!U!E!O!KA$I
$U$E$O!SA$I$U$E$O!TA$I$U$E$O!NA$I$U$E$O!HA$I$U$E$O!MA$I$U$E$O!YA$U$O!RA$I$U$E$O!WA!NtVOICED SOUN
D MARKtSEMI-VOICED SOUND MARKkHANGUL FILLERrLETTER KIYEOKySSANGKIYEOKyKIYEOK-SIOSyNIEUN&-CIEUC+HIE
UHyTIKEUTySSANGTIKEUTyRIEUL&-KIYEOK+MIEUM+PIEUP+SIOS+THIEUTH+PHIEUPH+HIEUHyMIEUMyPIEUPySSANGPIEUPy
PIEUP-SIOSySIOSzSANGSIOSyIEUNGyCIEUCySSANGCIEUCyCHIEUCHyKHIEUKHyTHIEUTHyPHIEUPHyHIEUH@FFC2;yAzEyYA
!EyEOz@FFCA;yYEO!yOyWA!EyOE@FFD2;yYOyUyWEO!zIyYU@FFDA;yEUyYIyI@FFE0;aFULLWIDTH CENT SIGNkPOUND SIG
NkNOT SIGNkMACRONkBROKEN BARkYEN SIGNkWON SIGN@FFE8;aHALFWIDTH FORMS LIGHT VERTICALkLEFTWARDS ARRO
WkUPWARDS ARROWkRIGHTWARDS ARROWkDOWNWARDS ARROWkBLACK SQUAREkWHITE CIRCLE@FFF9;aINTERLINEAR ANNOT
ATION ANCHORxSEPARATORxTERMINATORaOBJECT REPLACEMENT CHARACTERaREPLACEMENT CHARACTER
"

end TargetedConfig.Text.Name
