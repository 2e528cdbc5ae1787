/-! # Names of European letters and basic signs -/

namespace TargetedConfig.Text.Name

/-- ASCII, Latin, phonetic, Greek and Cyrillic letters, and combining marks. -/
def european : String := "
@20;aSPACEaEXCLAMATION MARKaQUOTATION MARKaNUMBER SIGNaDOLLAR SIGNaPERCENT SIGNaAMPERSANDbPOSTROPH
EaLEFT PARENTHESISaRIGHT PARENTHESISaASTERISKaPLUS SIGNaCOMMAaHYPHEN-MINUSaFULL STOPaSOLIDUSaDIGI
T ZEROgONEgTWOhHREEgFOURhIVEgSIXhEVENgEIGHTgNINEaCOLONaSEMICOLONaLESS-THAN SIGNaEQUALS SIGNaGREATE
R-THAN SIGNaQUESTION MARKaCOMMERCIAL ATaLATIN CAPITAL LETTER AvBvCvDvEvFvGvHvIvJvKvLvMvNvOvPvQvRvS
vTvUvVvWvXvYvZbEFT SQUARE BRACKETaREVERSE SOLIDUSbIGHT SQUARE BRACKETaCIRCUMFLEX ACCENTaLOW LINEaG
RAVE ACCENTaLATIN SMALL LETTER AtBtCtDtEtFtGtHtItJtKtLtMtNtOtPtQtRtStTtUtVtWtXtYtZbEFT CURLY BRACK
ETaVERTICAL LINEaRIGHT CURLY BRACKETaTILDE@A0;aNO-BREAK SPACEaINVERTED EXCLAMATION MARKaCENT SIGNa
POUND SIGNaCURRENCY SIGNaYEN SIGNaBROKEN BARaSECTION SIGNaDIAERESISaCOPYRIGHT SIGNaFEMININE ORDINA
L INDICATORaLEFT-POINTING DOUBLE ANGLE QUOTATION MARKaNOT SIGNaSOFT HYPHENaREGISTERED SIGNaMACRONa
DEGREE SIGNaPLUS-MINUS SIGNaSUPERSCRIPT TWOnHREEaACUTE ACCENTaMICRO SIGNaPILCROW SIGNaMIDDLE DOTaC
EDILLAaSUPERSCRIPT ONEaMASCULINE ORDINAL INDICATORaRIGHT-POINTING DOUBLE ANGLE QUOTATION MARKaVULG
AR FRACTION ONE QUARTERuHALFqTHREE QUARTERSaINVERTED QUESTION MARKaLATIN CAPITAL LETTER A WITH GRA
VE%ACUTE%CIRCUMFLEX%TILDE%DIAERESIS%RING ABOVEwEvC WITH CEDILLAvE WITH GRAVE%ACUTE%CIRCUMFLEX%DIAE
RESISvI WITH GRAVE%ACUTE%CIRCUMFLEX%DIAERESISvETHvN WITH TILDEvO WITH GRAVE%ACUTE%CIRCUMFLEX%TILDE
%DIAERESISaMULTIPLICATION SIGNaLATIN CAPITAL LETTER O WITH STROKEvU WITH GRAVE%ACUTE%CIRCUMFLEX%DI
AERESISvY WITH ACUTEvTHORNgSMALL LETTER SHARP StA WITH GRAVE!ACUTE!CIRCUMFLEX!TILDE!DIAERESIS!RIN
G ABOVEuEtC WITH CEDILLAtE WITH GRAVE!ACUTE!CIRCUMFLEX!DIAERESIStI WITH GRAVE!ACUTE!CIRCUMFLEX!DIA
ERESIStETHtN WITH TILDEtO WITH GRAVE!ACUTE!CIRCUMFLEX!TILDE!DIAERESISaDIVISION SIGNaLATIN SMALL LE
TTER O WITH STROKEtU WITH GRAVE!ACUTE!CIRCUMFLEX!DIAERESIStY WITH ACUTEtTHORNtY WITH DIAERESISgCAP
ITAL LETTER A WITH MACRONgSMALL LETTER A WITH MACRONgCAPITAL LETTER A WITH BREVEgSMALL LETTER A WI
TH BREVEgCAPITAL LETTER A WITH OGONEKgSMALL LETTER A WITH OGONEKgCAPITAL LETTER C WITH ACUTEgSMAL
L LETTER C WITH ACUTEgCAPITAL LETTER C WITH CIRCUMFLEXgSMALL LETTER C WITH CIRCUMFLEXgCAPITAL LETT
ER C WITH DOT ABOVEgSMALL LETTER C WITH DOT ABOVEgCAPITAL LETTER C WITH CARONgSMALL LETTER C WIT
H CARONgCAPITAL LETTER D WITH CARONgSMALL LETTER D WITH CARONgCAPITAL LETTER D WITH STROKEgSMALL L
ETTER D WITH STROKEgCAPITAL LETTER E WITH MACRONgSMALL LETTER E WITH MACRONgCAPITAL LETTER E WIT
H BREVEgSMALL LETTER E WITH BREVEgCAPITAL LETTER E WITH DOT ABOVEgSMALL LETTER E WITH DOT ABOVEgCA
PITAL LETTER E WITH OGONEKgSMALL LETTER E WITH OGONEKgCAPITAL LETTER E WITH CARONgSMALL LETTER E W
ITH CARONgCAPITAL LETTER G WITH CIRCUMFLEXgSMALL LETTER G WITH CIRCUMFLEXgCAPITAL LETTER G WITH BR
EVEgSMALL LETTER G WITH BREVEgCAPITAL LETTER G WITH DOT ABOVEgSMALL LETTER G WITH DOT ABOVEgCAPITA
L LETTER G WITH CEDILLAgSMALL LETTER G WITH CEDILLAgCAPITAL LETTER H WITH CIRCUMFLEXgSMALL LETTE
R H WITH CIRCUMFLEXgCAPITAL LETTER H WITH STROKEgSMALL LETTER H WITH STROKEgCAPITAL LETTER I WIT
H TILDEgSMALL LETTER I WITH TILDEgCAPITAL LETTER I WITH MACRONgSMALL LETTER I WITH MACRONgCAPITA
L LETTER I WITH BREVEgSMALL LETTER I WITH BREVEgCAPITAL LETTER I WITH OGONEKgSMALL LETTER I WITH O
GONEKgCAPITAL LETTER I WITH DOT ABOVEgSMALL LETTER DOTLESS IgCAPITAL LIGATURE IJgSMALL LIGATURE IJ
gCAPITAL LETTER J WITH CIRCUMFLEXgSMALL LETTER J WITH CIRCUMFLEXgCAPITAL LETTER K WITH CEDILLAgSMA
LL LETTER K WITH CEDILLAuRAgCAPITAL LETTER L WITH ACUTEgSMALL LETTER L WITH ACUTEgCAPITAL LETTE
R L WITH CEDILLAgSMALL LETTER L WITH CEDILLAgCAPITAL LETTER L WITH CARONgSMALL LETTER L WITH CARON
gCAPITAL LETTER L WITH MIDDLE DOTgSMALL LETTER L WITH MIDDLE DOTgCAPITAL LETTER L WITH STROKEgSMAL
L LETTER L WITH STROKEgCAPITAL LETTER N WITH ACUTEgSMALL LETTER N WITH ACUTEgCAPITAL LETTER N WIT
H CEDILLAgSMALL LETTER N WITH CEDILLAgCAPITAL LETTER N WITH CARONgSMALL LETTER N WITH CARONvPRECED
ED BY APOSTROPHEgCAPITAL LETTER ENGgSMALL LETTER ENGgCAPITAL LETTER O WITH MACRONgSMALL LETTER O W
ITH MACRONgCAPITAL LETTER O WITH BREVEgSMALL LETTER O WITH BREVEgCAPITAL LETTER O WITH DOUBLE ACUT
EgSMALL LETTER O WITH DOUBLE ACUTEgCAPITAL LIGATURE OEgSMALL LIGATURE OEgCAPITAL LETTER R WITH ACU
TEgSMALL LETTER R WITH ACUTEgCAPITAL LETTER R WITH CEDILLAgSMALL LETTER R WITH CEDILLAgCAPITAL LET
TER R WITH CARONgSMALL LETTER R WITH CARONgCAPITAL LETTER S WITH ACUTEgSMALL LETTER S WITH ACUTEgC
APITAL LETTER S WITH CIRCUMFLEXgSMALL LETTER S WITH CIRCUMFLEXgCAPITAL LETTER S WITH CEDILLAgSMAL
L LETTER S WITH CEDILLAgCAPITAL LETTER S WITH CARONgSMALL LETTER S WITH CARONgCAPITAL LETTER T WIT
H CEDILLAgSMALL LETTER T WITH CEDILLAgCAPITAL LETTER T WITH CARONgSMALL LETTER T WITH CARONgCAPITA
L LETTER T WITH STROKEgSMALL LETTER T WITH STROKEgCAPITAL LETTER U WITH TILDEgSMALL LETTER U WIT
H TILDEgCAPITAL LETTER U WITH MACRONgSMALL LETTER U WITH MACRONgCAPITAL LETTER U WITH BREVEgSMAL
L LETTER U WITH BREVEgCAPITAL LETTER U WITH RING ABOVEgSMALL LETTER U WITH RING ABOVEgCAPITAL LETT
ER U WITH DOUBLE ACUTEgSMALL LETTER U WITH DOUBLE ACUTEgCAPITAL LETTER U WITH OGONEKgSMALL LETTE
R U WITH OGONEKgCAPITAL LETTER W WITH CIRCUMFLEXgSMALL LETTER W WITH CIRCUMFLEXgCAPITAL LETTER Y W
ITH CIRCUMFLEXgSMALL LETTER Y WITH CIRCUMFLEXgCAPITAL LETTER Y WITH DIAERESISvZ WITH ACUTEgSMALL L
ETTER Z WITH ACUTEgCAPITAL LETTER Z WITH DOT ABOVEgSMALL LETTER Z WITH DOT ABOVEgCAPITAL LETTE
R Z WITH CARONgSMALL LETTER Z WITH CARONtLONG StB WITH STROKEgCAPITAL LETTER B WITH HOOK%TOPBARgSM
ALL LETTER B WITH TOPBARgCAPITAL LETTER TONE SIXgSMALL LETTER TONE SIXgCAPITAL LETTER OPEN OvC WIT
H HOOKgSMALL LETTER C WITH HOOKgCAPITAL LETTER AFRICAN DvD WITH HOOK%TOPBARgSMALL LETTER D WITH TO
PBARtTURNED DELTAgCAPITAL LETTER REVERSED EvSCHWAvOPEN EvF WITH HOOKgSMALL LETTER F WITH HOOKgCAPI
TAL LETTER G WITH HOOKwAMMAgSMALL LETTER HVgCAPITAL LETTER IOTAw WITH STROKEvK WITH HOOKgSMALL LET
TER K WITH HOOKtL WITH BARuAMBDA WITH STROKEgCAPITAL LETTER TURNED MvN WITH LEFT HOOKgSMALL LETTE
R N WITH LONG RIGHT LEGgCAPITAL LETTER O WITH MIDDLE TILDE%HORNgSMALL LETTER O WITH HORNgCAPITAL L
ETTER OIgSMALL LETTER OIgCAPITAL LETTER P WITH HOOKgSMALL LETTER P WITH HOOKgLETTER YRgCAPITAL LET
TER TONE TWOgSMALL LETTER TONE TWOgCAPITAL LETTER ESHgLETTER REVERSED ESH LOOPgSMALL LETTER T WIT
H PALATAL HOOKgCAPITAL LETTER T WITH HOOKgSMALL LETTER T WITH HOOKgCAPITAL LETTER T WITH RETROFLE
X HOOKvU WITH HORNgSMALL LETTER U WITH HORNgCAPITAL LETTER UPSILONvV WITH HOOKvY WITH HOOKgSMALL L
ETTER Y WITH HOOKgCAPITAL LETTER Z WITH STROKEgSMALL LETTER Z WITH STROKEgCAPITAL LETTER EZHy REVE
RSEDgSMALL LETTER EZH REVERSEDxWITH TAILgLETTER TWO WITH STROKEgCAPITAL LETTER TONE FIVEgSMALL LET
TER TONE FIVEgLETTER INVERTED GLOTTAL STOP WITH STROKEnWYNNnDENTAL CLICKnLATERAL CLICKnALVEOLAR CL
ICKnRETROFLEX CLICKgCAPITAL LETTER DZ WITH CARONw WITH SMALL LETTER Z WITH CARONgSMALL LETTER DZ W
ITH CARONgCAPITAL LETTER LJw WITH SMALL LETTER JgSMALL LETTER LJgCAPITAL LETTER NJw WITH SMALL LET
TER JgSMALL LETTER NJgCAPITAL LETTER A WITH CARONgSMALL LETTER A WITH CARONgCAPITAL LETTER I WIT
H CARONgSMALL LETTER I WITH CARONgCAPITAL LETTER O WITH CARONgSMALL LETTER O WITH CARONgCAPITAL LE
TTER U WITH CARONgSMALL LETTER U WITH CARONgCAPITAL LETTER U WITH DIAERESIS AND MACRONgSMALL LETTE
R U WITH DIAERESIS AND MACRONgCAPITAL LETTER U WITH DIAERESIS AND ACUTEgSMALL LETTER U WITH DIAERE
SIS AND ACUTEgCAPITAL LETTER U WITH DIAERESIS AND CARONgSMALL LETTER U WITH DIAERESIS AND CARONgCA
PITAL LETTER U WITH DIAERESIS AND GRAVEgSMALL LETTER U WITH DIAERESIS AND GRAVEtTURNED EgCAPITAL L
ETTER A WITH DIAERESIS AND MACRONgSMALL LETTER A WITH DIAERESIS AND MACRONgCAPITAL LETTER A WITH D
OT ABOVE AND MACRONgSMALL LETTER A WITH DOT ABOVE AND MACRONgCAPITAL LETTER AE WITH MACRONgSMALL L
ETTER AE WITH MACRONgCAPITAL LETTER G WITH STROKEgSMALL LETTER G WITH STROKEgCAPITAL LETTER G WIT
H CARONgSMALL LETTER G WITH CARONgCAPITAL LETTER K WITH CARONgSMALL LETTER K WITH CARONgCAPITAL LE
TTER O WITH OGONEKgSMALL LETTER O WITH OGONEKgCAPITAL LETTER O WITH OGONEK AND MACRONgSMALL LETTE
R O WITH OGONEK AND MACRONgCAPITAL LETTER EZH WITH CARONgSMALL LETTER EZH WITH CARONtJ WITH CARONg
CAPITAL LETTER DZw WITH SMALL LETTER ZgSMALL LETTER DZgCAPITAL LETTER G WITH ACUTEgSMALL LETTE
R G WITH ACUTEgCAPITAL LETTER HWAIRvWYNNvN WITH GRAVEgSMALL LETTER N WITH GRAVEgCAPITAL LETTER A W
ITH RING ABOVE AND ACUTEgSMALL LETTER A WITH RING ABOVE AND ACUTEgCAPITAL LETTER AE WITH ACUTEgSMA
LL LETTER AE WITH ACUTEgCAPITAL LETTER O WITH STROKE AND ACUTEgSMALL LETTER O WITH STROKE AND ACUT
EgCAPITAL LETTER A WITH DOUBLE GRAVEgSMALL LETTER A WITH DOUBLE GRAVEgCAPITAL LETTER A WITH INVERT
ED BREVEgSMALL LETTER A WITH INVERTED BREVEgCAPITAL LETTER E WITH DOUBLE GRAVEgSMALL LETTER E WIT
H DOUBLE GRAVEgCAPITAL LETTER E WITH INVERTED BREVEgSMALL LETTER E WITH INVERTED BREVEgCAPITAL LET
TER I WITH DOUBLE GRAVEgSMALL LETTER I WITH DOUBLE GRAVEgCAPITAL LETTER I WITH INVERTED BREVEgSMAL
L LETTER I WITH INVERTED BREVEgCAPITAL LETTER O WITH DOUBLE GRAVEgSMALL LETTER O WITH DOUBLE GRAVE
gCAPITAL LETTER O WITH INVERTED BREVEgSMALL LETTER O WITH INVERTED BREVEgCAPITAL LETTER R WITH DOU
BLE GRAVEgSMALL LETTER R WITH DOUBLE GRAVEgCAPITAL LETTER R WITH INVERTED BREVEgSMALL LETTER R WIT
H INVERTED BREVEgCAPITAL LETTER U WITH DOUBLE GRAVEgSMALL LETTER U WITH DOUBLE GRAVEgCAPITAL LETTE
R U WITH INVERTED BREVEgSMALL LETTER U WITH INVERTED BREVEgCAPITAL LETTER S WITH COMMA BELOWgSMAL
L LETTER S WITH COMMA BELOWgCAPITAL LETTER T WITH COMMA BELOWgSMALL LETTER T WITH COMMA BELOWgCAPI
TAL LETTER YOGHgSMALL LETTER YOGHgCAPITAL LETTER H WITH CARONgSMALL LETTER H WITH CARONgCAPITAL LE
TTER N WITH LONG RIGHT LEGgSMALL LETTER D WITH CURLgCAPITAL LETTER OUgSMALL LETTER OUgCAPITAL LETT
ER Z WITH HOOKgSMALL LETTER Z WITH HOOKgCAPITAL LETTER A WITH DOT ABOVEgSMALL LETTER A WITH DOT AB
OVEgCAPITAL LETTER E WITH CEDILLAgSMALL LETTER E WITH CEDILLAgCAPITAL LETTER O WITH DIAERESIS AN
D MACRONgSMALL LETTER O WITH DIAERESIS AND MACRONgCAPITAL LETTER O WITH TILDE AND MACRONgSMALL LET
TER O WITH TILDE AND MACRONgCAPITAL LETTER O WITH DOT ABOVEgSMALL LETTER O WITH DOT ABOVEgCAPITA
L LETTER O WITH DOT ABOVE AND MACRONgSMALL LETTER O WITH DOT ABOVE AND MACRONgCAPITAL LETTER Y WIT
H MACRONgSMALL LETTER Y WITH MACRONtL WITH CURLtN WITH CURLtT WITH CURLtDOTLESS JuB DIGRAPHtQP DIG
RAPHgCAPITAL LETTER A WITH STROKEvC WITH STROKEgSMALL LETTER C WITH STROKEgCAPITAL LETTER L WITH B
ARvT WITH DIAGONAL STROKEgSMALL LETTER S WITH SWASH TAILtZ WITH SWASH TAILgCAPITAL LETTER GLOTTA
L STOPgSMALL LETTER GLOTTAL STOPgCAPITAL LETTER B WITH STROKEvU BARvTURNED VvE WITH STROKEgSMALL L
ETTER E WITH STROKEgCAPITAL LETTER J WITH STROKEgSMALL LETTER J WITH STROKEgCAPITAL LETTER SMAL
L Q WITH HOOK TAILgSMALL LETTER Q WITH HOOK TAILgCAPITAL LETTER R WITH STROKEgSMALL LETTER R WIT
H STROKEgCAPITAL LETTER Y WITH STROKEgSMALL LETTER Y WITH STROKEtTURNED AtALPHAtTURNED ALPHAtB WIT
H HOOKtOPEN OtC WITH CURLtD WITH TAIL!HOOKtREVERSED EtSCHWAy WITH HOOKtOPEN EtREVERSED OPEN E> WIT
H HOOKtCLOSED REVERSED OPEN EtDOTLESS J WITH STROKEtG WITH HOOKtSCRIPT GgLETTER SMALL CAPITAL GgSM
ALL LETTER GAMMAtRAMS HORNtTURNED HtH WITH HOOKuENG WITH HOOKtI WITH STROKEuOTAgLETTER SMALL CAPIT
AL IgSMALL LETTER L WITH MIDDLE TILDE!BELT!RETROFLEX HOOKuEZHtTURNED M$ WITH LONG LEGtM WITH HOOKt
N WITH LEFT HOOK!RETROFLEX HOOKgLETTER SMALL CAPITAL NgSMALL LETTER BARRED OgLETTER SMALL CAPITA
L OEgSMALL LETTER CLOSED OMEGAtPHItTURNED R$ WITH LONG LEG<HOOKtR WITH LONG LEG!TAIL!FISHHOOKuEVER
SED R WITH FISHHOOKgLETTER SMALL CAPITAL R$INVERTED RgSMALL LETTER S WITH HOOKtESHtDOTLESS J WIT
H STROKE AND HOOKtSQUAT REVERSED ESHtESH WITH CURLtTURNED Tu WITH RETROFLEX HOOKtU BARuPSILONtV WI
TH HOOKtTURNED V!W!YgLETTER SMALL CAPITAL YgSMALL LETTER Z WITH RETROFLEX HOOK!CURLtEZHw WITH CURL
gLETTER GLOTTAL STOPnPHARYNGEAL VOICED FRICATIVEnINVERTED GLOTTAL STOPnSTRETCHED CnBILABIAL CLICKn
SMALL CAPITAL BgSMALL LETTER CLOSED OPEN EgLETTER SMALL CAPITAL G WITH HOOK$HgSMALL LETTER J WIT
H CROSSED-TAILtTURNED KgLETTER SMALL CAPITAL LgSMALL LETTER Q WITH HOOKgLETTER GLOTTAL STOP WITH S
TROKEnREVERSED GLOTTAL STOP WITH STROKEgSMALL LETTER DZ DIGRAPHuEZH DIGRAPHuZ DIGRAPH WITH CURLtT
S DIGRAPHuESH DIGRAPHuC DIGRAPH WITH CURLtFENG DIGRAPHtLS DIGRAPHuZ DIGRAPHgLETTER BILABIAL PERCUS
SIVEpDENTAL PERCUSSIVEgSMALL LETTER TURNED H WITH FISHHOOK~OK AND TAILaMODIFIER LETTER SMALL Hx WI
TH HOOKwJwRwTURNED R+ WITH HOOKwCAPITAL INVERTED RwWwYqPRIMEqDOUBLE PRIMEqTURNED COMMAqAPOSTROPHEq
REVERSED COMMArIGHT HALF RINGqLEFT HALF RINGqGLOTTAL STOPqREVERSED GLOTTAL STOPqLEFT ARROWHEADqRIG
HT ARROWHEADqUP ARROWHEADqDOWN ARROWHEADqCIRCUMFLEX ACCENTaCARONaMODIFIER LETTER VERTICAL LINEqMAC
RONqACUTE ACCENTqGRAVE ACCENTqLOW VERTICAL LINEuMACRONuGRAVE ACCENTuACUTE ACCENTqTRIANGULAR COLONq
HALF TRIANGULAR COLONqCENTRED RIGHT HALF RINGyLEFT HALF RINGqUP TACKqDOWN TACKqPLUS SIGNqMINUS SIG
NaBREVEaDOT ABOVEaRING ABOVEaOGONEKaSMALL TILDEaDOUBLE ACUTE ACCENTaMODIFIER LETTER RHOTIC HOOKqCR
OSS ACCENTqSMALL GAMMAwLwSwXwREVERSED GLOTTAL STOPqEXTRA-HIGH TONE BARqHIGH TONE BARqMID TONE BARq
LOW TONE BARqEXTRA-LOW TONE BARqYIN DEPARTING TONE MARKrANG DEPARTING TONE MARKqVOICINGqUNASPIRATE
DqDOUBLE APOSTROPHEqLOW DOWN ARROWHEADuUP ARROWHEADuLEFT ARROWHEADuRIGHT ARROWHEADwNGqMIDDLE GRAV
E ACCENTxDOUBLE GRAVE ACCENT+ACUTE ACCENTqLOW TILDEqRAISED COLONqBEGIN HIGH TONEqEND HIGH TONEqBEG
IN LOW TONEqEND LOW TONEqSHELFqOPEN SHELFqLOW LEFT ARROWaCOMBINING GRAVE ACCENTkACUTE ACCENTkCIRCU
MFLEX ACCENTkTILDEkMACRONkOVERLINEkBREVEkDOT ABOVElIAERESISkHOOK ABOVEkRING ABOVEkDOUBLE ACUTE ACC
ENTkCARONkVERTICAL LINE ABOVEkDOUBLE VERTICAL LINE ABOVErGRAVE ACCENTkCANDRABINDUkINVERTED BREVEkT
URNED COMMA ABOVEkCOMMA ABOVEkREVERSED COMMA ABOVEkCOMMA ABOVE RIGHTkGRAVE ACCENT BELOWkACUTE ACCE
NT BELOWkLEFT TACK BELOWkRIGHT TACK BELOWkLEFT ANGLE ABOVEkHORNkLEFT HALF RING BELOWkUP TACK BELOW
kDOWN TACK BELOWkPLUS SIGN BELOWkMINUS SIGN BELOWkPALATALIZED HOOK BELOWkRETROFLEX HOOK BELOWkDO
T BELOWlIAERESIS BELOWkRING BELOWkCOMMA BELOWlEDILLAkOGONEKkVERTICAL LINE BELOWkBRIDGE BELOWkINVER
TED DOUBLE ARCH BELOWkCARON BELOWlIRCUMFLEX ACCENT BELOWkBREVE BELOWkINVERTED BREVE BELOWkTILDE BE
LOWkMACRON BELOWkLOW LINEkDOUBLE LOW LINEkTILDE OVERLAYkSHORT STROKE OVERLAYkLONG STROKE OVERLAYkS
HORT SOLIDUS OVERLAYkLONG SOLIDUS OVERLAYkRIGHT HALF RING BELOWkINVERTED BRIDGE BELOWkSQUARE BELOW
lEAGULL BELOWkX ABOVEkVERTICAL TILDEkDOUBLE OVERLINEkGRAVE TONE MARKkACUTE TONE MARKkGREEK PERISPO
MENIqKORONISqDIALYTIKA TONOSqYPOGEGRAMMENIkBRIDGE ABOVEkEQUALS SIGN BELOWkDOUBLE VERTICAL LINE BEL
OWkLEFT ANGLE BELOWkNOT TILDE ABOVEkHOMOTHETIC ABOVEkALMOST EQUAL TO ABOVEkLEFT RIGHT ARROW BELOWk
UPWARDS ARROW BELOWkGRAPHEME JOINERkRIGHT ARROWHEAD ABOVEkLEFT HALF RING ABOVEkFERMATAkX BELOWkLEF
T ARROWHEAD BELOWkRIGHT ARROWHEAD BELOW!AND UP ARROWHEAD BELOWqHALF RING ABOVEkDOT ABOVE RIGHTkAST
ERISK BELOWkDOUBLE RING BELOWkZIGZAG ABOVEkDOUBLE BREVE BELOWwrMACRONx BELOWrTILDErINVERTED BREVEr
RIGHTWARDS ARROW BELOWkLATIN SMALL LETTER A&E&I&O&U&C&D&H&M&R&T&V&XaGREEK CAPITAL LETTER HETAgSMAL
L LETTER HETAgCAPITAL LETTER ARCHAIC SAMPIgSMALL LETTER ARCHAIC SAMPIgNUMERAL SIGNgLOWER NUMERAL S
IGNgCAPITAL LETTER PAMPHYLIAN DIGAMMAgSMALL LETTER PAMPHYLIAN DIGAMMA@37A;gYPOGEGRAMMENIgSMALL REV
ERSED LUNATE SIGMA SYMBOLmDOTTED LUNATE SIGMA SYMBOLmREVERSED DOTTED LUNATE SIGMA SYMBOLgQUESTIO
N MARKgCAPITAL LETTER YOT@384;gTONOSgDIALYTIKA TONOSgCAPITAL LETTER ALPHA WITH TONOSgANO TELEIAgCA
PITAL LETTER EPSILON WITH TONOSwTA WITH TONOSvIOTA WITH TONOS@38C;vOMICRON WITH TONOS@38E;vUPSILO
N WITH TONOSvOMEGA WITH TONOSgSMALL LETTER IOTA WITH DIALYTIKA AND TONOSgCAPITAL LETTER ALPHAvBETA
vGAMMAvDELTAvEPSILONvZETAvETAvTHETAvIOTAvKAPPAvLAMDAvMUvNUvXIvOMICRONvPIvRHO@3A3;vSIGMAvTAUvUPSILO
NvPHIvCHIvPSIvOMEGAvIOTA WITH DIALYTIKAvUPSILON WITH DIALYTIKAgSMALL LETTER ALPHA WITH TONOStEPSIL
ON WITH TONOSuTA WITH TONOStIOTA WITH TONOStUPSILON WITH DIALYTIKA AND TONOStALPHAtBETAtGAMMAtDELT
AtEPSILONtZETAtETAtTHETAtIOTAtKAPPAtLAMDAtMUtNUtXItOMICRONtPItRHOtFINAL SIGMAtSIGMAtTAUtUPSILONtPH
ItCHItPSItOMEGAtIOTA WITH DIALYTIKAtUPSILON WITH DIALYTIKAtOMICRON WITH TONOStUPSILON WITH TONOStO
MEGA WITH TONOSgCAPITAL KAI SYMBOLgBETA SYMBOLgTHETA SYMBOLgUPSILON WITH HOOK SYMBOLtACUTE AND HOO
K SYMBOLtDIAERESIS AND HOOK SYMBOLgPHI SYMBOLhI SYMBOLgKAI SYMBOLgLETTER ARCHAIC KOPPAgSMALL LETTE
R ARCHAIC KOPPAgLETTER STIGMAgSMALL LETTER STIGMAgLETTER DIGAMMAgSMALL LETTER DIGAMMAgLETTER KOPPA
gSMALL LETTER KOPPAgLETTER SAMPIgSMALL LETTER SAMPIaCOPTIC CAPITAL LETTER SHEIhSMALL LETTER SHEIhC
APITAL LETTER FEIhSMALL LETTER FEIhCAPITAL LETTER KHEIhSMALL LETTER KHEIhCAPITAL LETTER HORIhSMAL
L LETTER HORIhCAPITAL LETTER GANGIAhSMALL LETTER GANGIAhCAPITAL LETTER SHIMAhSMALL LETTER SHIMAhCA
PITAL LETTER DEIhSMALL LETTER DEIaGREEK KAPPA SYMBOLgRHO SYMBOLgLUNATE SIGMA SYMBOLhETTER YOTgCAPI
TAL THETA SYMBOLgLUNATE EPSILON SYMBOLgREVERSED LUNATE EPSILON SYMBOLgCAPITAL LETTER SHOgSMALL LET
TER SHOgCAPITAL LUNATE SIGMA SYMBOLpETTER SANgSMALL LETTER SANgRHO WITH STROKE SYMBOLgCAPITAL REVE
RSED LUNATE SIGMA SYMBOLoDOTTED LUNATE SIGMA SYMBOLoREVERSED DOTTED LUNATE SIGMA SYMBOLaCYRILLIC C
APITAL LETTER IE WITH GRAVEzOyDJEyGJEyUKRAINIAN IEyDZEyBYELORUSSIAN-UKRAINIAN IyYIyJEyLJEyNJEyTSHE
yKJEyI WITH GRAVEySHORT UyDZHEyAyBEyVEyGHEyDEyIEyZHEzEyIySHORT IyKAyELzMzNyOyPEyERzSyTEyUyEFyHAyTS
EyCHEySHA!CHAyHARD SIGNyYERUySOFT SIGNyEyYUzAjSMALL LETTER AwBEwVEwGHEwDEwIEwZHExEwIwSHORT IwKAwEL
xMxNwOwPEwERxSwTEwUwEFwHAwTSEwCHEwSHAyCHAwHARD SIGNwYERUwSOFT SIGNwEwYUxAwIE WITH GRAVExOwDJEwGJEw
UKRAINIAN IEwDZEwBYELORUSSIAN-UKRAINIAN IwYIwJEwLJEwNJEwTSHEwKJEwI WITH GRAVEwSHORT UwDZHEjCAPITA
L LETTER OMEGAjSMALL LETTER OMEGAjCAPITAL LETTER YATjSMALL LETTER YATjCAPITAL LETTER IOTIFIED EjSM
ALL LETTER IOTIFIED EjCAPITAL LETTER LITTLE YUSjSMALL LETTER LITTLE YUSjCAPITAL LETTER IOTIFIED LI
TTLE YUSjSMALL LETTER IOTIFIED LITTLE YUSjCAPITAL LETTER BIG YUSjSMALL LETTER BIG YUSjCAPITAL LETT
ER IOTIFIED BIG YUSjSMALL LETTER IOTIFIED BIG YUSjCAPITAL LETTER KSIjSMALL LETTER KSIjCAPITAL LETT
ER PSIjSMALL LETTER PSIjCAPITAL LETTER FITAjSMALL LETTER FITAjCAPITAL LETTER IZHITSAjSMALL LETTE
R IZHITSAjCAPITAL LETTER IZHITSA WITH DOUBLE GRAVE ACCENTjSMALL LETTER IZHITSA WITH DOUBLE GRAVE A
CCENTjCAPITAL LETTER UKjSMALL LETTER UKjCAPITAL LETTER ROUND OMEGAjSMALL LETTER ROUND OMEGAjCAPITA
L LETTER OMEGA WITH TITLOjSMALL LETTER OMEGA WITH TITLOjCAPITAL LETTER OTjSMALL LETTER OTjCAPITA
L LETTER KOPPAjSMALL LETTER KOPPAjTHOUSANDS SIGNbOMBINING CYRILLIC TITLOtPALATALIZATIONtDASIA PNEU
MATAtPSILI PNEUMATAuOKRYTIEtHUNDRED THOUSANDS SIGNtMILLIONS SIGNbYRILLIC CAPITAL LETTER SHORT I WI
TH TAILjSMALL LETTER SHORT I WITH TAILjCAPITAL LETTER SEMISOFT SIGNjSMALL LETTER SEMISOFT SIGNjCAP
ITAL LETTER ER WITH TICKjSMALL LETTER ER WITH TICKjCAPITAL LETTER GHE WITH UPTURNjSMALL LETTER GH
E WITH UPTURNjCAPITAL LETTER GHE WITH STROKEjSMALL LETTER GHE WITH STROKEjCAPITAL LETTER GHE WIT
H MIDDLE HOOKjSMALL LETTER GHE WITH MIDDLE HOOKjCAPITAL LETTER ZHE WITH DESCENDERjSMALL LETTER ZH
E WITH DESCENDERjCAPITAL LETTER ZE WITH DESCENDERjSMALL LETTER ZE WITH DESCENDERjCAPITAL LETTER K
A WITH DESCENDERjSMALL LETTER KA WITH DESCENDERjCAPITAL LETTER KA WITH VERTICAL STROKEjSMALL LETTE
R KA WITH VERTICAL STROKEjCAPITAL LETTER KA WITH STROKEjSMALL LETTER KA WITH STROKEjCAPITAL LETTE
R BASHKIR KAjSMALL LETTER BASHKIR KAjCAPITAL LETTER EN WITH DESCENDERjSMALL LETTER EN WITH DESCEND
ERjCAPITAL LIGATURE EN GHEjSMALL LIGATURE EN GHEjCAPITAL LETTER PE WITH MIDDLE HOOKjSMALL LETTER P
E WITH MIDDLE HOOKjCAPITAL LETTER ABKHASIAN HAjSMALL LETTER ABKHASIAN HAjCAPITAL LETTER ES WITH DE
SCENDERjSMALL LETTER ES WITH DESCENDERjCAPITAL LETTER TE WITH DESCENDERjSMALL LETTER TE WITH DESCE
NDERjCAPITAL LETTER STRAIGHT UjSMALL LETTER STRAIGHT UjCAPITAL LETTER STRAIGHT U WITH STROKEjSMAL
L LETTER STRAIGHT U WITH STROKEjCAPITAL LETTER HA WITH DESCENDERjSMALL LETTER HA WITH DESCENDERjCA
PITAL LIGATURE TE TSEjSMALL LIGATURE TE TSEjCAPITAL LETTER CHE WITH DESCENDERjSMALL LETTER CHE WIT
H DESCENDERjCAPITAL LETTER CHE WITH VERTICAL STROKEjSMALL LETTER CHE WITH VERTICAL STROKEjCAPITA
L LETTER SHHAjSMALL LETTER SHHAjCAPITAL LETTER ABKHASIAN CHEjSMALL LETTER ABKHASIAN CHEjCAPITAL LE
TTER ABKHASIAN CHE WITH DESCENDERjSMALL LETTER ABKHASIAN CHE WITH DESCENDERjLETTER PALOCHKAjCAPITA
L LETTER ZHE WITH BREVEjSMALL LETTER ZHE WITH BREVEjCAPITAL LETTER KA WITH HOOKjSMALL LETTER KA WI
TH HOOKjCAPITAL LETTER EL WITH TAILjSMALL LETTER EL WITH TAILjCAPITAL LETTER EN WITH HOOKjSMALL LE
TTER EN WITH HOOKjCAPITAL LETTER EN WITH TAILjSMALL LETTER EN WITH TAILjCAPITAL LETTER KHAKASSIA
N CHEjSMALL LETTER KHAKASSIAN CHEjCAPITAL LETTER EM WITH TAILjSMALL LETTER EM WITH TAILwPALOCHKAjC
APITAL LETTER A WITH BREVEjSMALL LETTER A WITH BREVEjCAPITAL LETTER A WITH DIAERESISjSMALL LETTE
R A WITH DIAERESISjCAPITAL LIGATURE A IEjSMALL LIGATURE A IEjCAPITAL LETTER IE WITH BREVEjSMALL LE
TTER IE WITH BREVEjCAPITAL LETTER SCHWAjSMALL LETTER SCHWAjCAPITAL LETTER SCHWA WITH DIAERESISjSMA
LL LETTER SCHWA WITH DIAERESISjCAPITAL LETTER ZHE WITH DIAERESISjSMALL LETTER ZHE WITH DIAERESISjC
APITAL LETTER ZE WITH DIAERESISjSMALL LETTER ZE WITH DIAERESISjCAPITAL LETTER ABKHASIAN DZEjSMAL
L LETTER ABKHASIAN DZEjCAPITAL LETTER I WITH MACRONjSMALL LETTER I WITH MACRONjCAPITAL LETTER I WI
TH DIAERESISjSMALL LETTER I WITH DIAERESISjCAPITAL LETTER O WITH DIAERESISjSMALL LETTER O WITH DIA
ERESISjCAPITAL LETTER BARRED OjSMALL LETTER BARRED OjCAPITAL LETTER BARRED O WITH DIAERESISjSMAL
L LETTER BARRED O WITH DIAERESISjCAPITAL LETTER E WITH DIAERESISjSMALL LETTER E WITH DIAERESISjCAP
ITAL LETTER U WITH MACRONjSMALL LETTER U WITH MACRONjCAPITAL LETTER U WITH DIAERESISjSMALL LETTE
R U WITH DIAERESISjCAPITAL LETTER U WITH DOUBLE ACUTEjSMALL LETTER U WITH DOUBLE ACUTEjCAPITAL LET
TER CHE WITH DIAERESISjSMALL LETTER CHE WITH DIAERESISjCAPITAL LETTER GHE WITH DESCENDERjSMALL LET
TER GHE WITH DESCENDERjCAPITAL LETTER YERU WITH DIAERESISjSMALL LETTER YERU WITH DIAERESISjCAPITA
L LETTER GHE WITH STROKE AND HOOKjSMALL LETTER GHE WITH STROKE AND HOOKjCAPITAL LETTER HA WITH HOO
KjSMALL LETTER HA WITH HOOKjCAPITAL LETTER HA WITH STROKEjSMALL LETTER HA WITH STROKEjCAPITAL LETT
ER KOMI DEjSMALL LETTER KOMI DEjCAPITAL LETTER KOMI DJEjSMALL LETTER KOMI DJEjCAPITAL LETTER KOM
I ZJEjSMALL LETTER KOMI ZJEjCAPITAL LETTER KOMI DZJEjSMALL LETTER KOMI DZJEjCAPITAL LETTER KOMI LJ
EjSMALL LETTER KOMI LJEjCAPITAL LETTER KOMI NJEjSMALL LETTER KOMI NJEjCAPITAL LETTER KOMI SJEjSMAL
L LETTER KOMI SJEjCAPITAL LETTER KOMI TJEjSMALL LETTER KOMI TJEjCAPITAL LETTER REVERSED ZEjSMALL L
ETTER REVERSED ZEjCAPITAL LETTER EL WITH HOOKjSMALL LETTER EL WITH HOOKjCAPITAL LETTER LHAjSMALL L
ETTER LHAjCAPITAL LETTER RHAjSMALL LETTER RHAjCAPITAL LETTER YAEjSMALL LETTER YAEjCAPITAL LETTER Q
AjSMALL LETTER QAjCAPITAL LETTER WEjSMALL LETTER WEjCAPITAL LETTER ALEUT KAjSMALL LETTER ALEUT KAj
CAPITAL LETTER EL WITH MIDDLE HOOKjSMALL LETTER EL WITH MIDDLE HOOKjCAPITAL LETTER EN WITH MIDDL
E HOOKjSMALL LETTER EN WITH MIDDLE HOOKjCAPITAL LETTER PE WITH DESCENDERjSMALL LETTER PE WITH DESC
ENDERjCAPITAL LETTER SHHA WITH DESCENDERjSMALL LETTER SHHA WITH DESCENDERjCAPITAL LETTER EN WITH L
EFT HOOKjSMALL LETTER EN WITH LEFT HOOKjCAPITAL LETTER DZZHEjSMALL LETTER DZZHEjCAPITAL LETTER DCH
EjSMALL LETTER DCHEjCAPITAL LETTER EL WITH DESCENDERjSMALL LETTER EL WITH DESCENDER
"

end TargetedConfig.Text.Name
