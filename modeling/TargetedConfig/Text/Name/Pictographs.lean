/-! # Names of pictographs -/

namespace TargetedConfig.Text.Name

/-- Tiles, cards, faces and other pictures, and the tags and selectors beyond them. -/
def pictographs : String := "
@1F000;aMAHJONG TILE EAST WINDnSOUTH WINDnWEST WINDnNORTH WINDnRED DRAGONnGREEN DRAGONnWHITE DRAGO
NnONE OF CHARACTERSnTWO OF CHARACTERSoHREE OF CHARACTERSnFOUR OF CHARACTERSoIVE OF CHARACTERSnSI
X OF CHARACTERSoEVEN OF CHARACTERSnEIGHT OF CHARACTERSnNINE OF CHARACTERSnONE OF BAMBOOSnTWO OF BA
MBOOSoHREE OF BAMBOOSnFOUR OF BAMBOOSoIVE OF BAMBOOSnSIX OF BAMBOOSoEVEN OF BAMBOOSnEIGHT OF BAMBO
OSnNINE OF BAMBOOSnONE OF CIRCLESnTWO OF CIRCLESoHREE OF CIRCLESnFOUR OF CIRCLESoIVE OF CIRCLESnSI
X OF CIRCLESoEVEN OF CIRCLESnEIGHT OF CIRCLESnNINE OF CIRCLESnPLUMnORCHIDnBAMBOOnCHRYSANTHEMUMnSPR
INGoUMMERnAUTUMNnWINTERnJOKERnBACK@1F030;aDOMINO TILE HORIZONTAL BACKw-00-00$1$2$3$4$5$6y1-00$1$2$
3$4$5$6y2-00$1$2$3$4$5$6y3-00$1$2$3$4$5$6y4-00$1$2$3$4$5$6y5-00$1$2$3$4$5$6y6-00$1$2$3$4$5$6mVERTI
CAL BACKu-00-00z1z2z3z4z5z6w1-00z1z2z3z4z5z6w2-00z1z2z3z4z5z6w3-00z1z2z3z4z5z6w4-00z1z2z3z4z5z6w5-
00z1z2z3z4z5z6w6-00z1z2z3z4z5z6@1F0A0;aPLAYING CARD BACKnACE OF SPADESnTWO OF SPADESoHREE OF SPADE
SnFOUR OF SPADESoIVE OF SPADESnSIX OF SPADESoEVEN OF SPADESnEIGHT OF SPADESnNINE OF SPADESnTEN O
F SPADESnJACK OF SPADESnKNIGHT OF SPADESnQUEEN OF SPADESnKING OF SPADES@1F0B1;nACE OF HEARTSnTWO O
F HEARTSoHREE OF HEARTSnFOUR OF HEARTSoIVE OF HEARTSnSIX OF HEARTSoEVEN OF HEARTSnEIGHT OF HEARTSn
NINE OF HEARTSnTEN OF HEARTSnJACK OF HEARTSnKNIGHT OF HEARTSnQUEEN OF HEARTSnKING OF HEARTSnRED JO
KER@1F0C1;nACE OF DIAMONDSnTWO OF DIAMONDSoHREE OF DIAMONDSnFOUR OF DIAMONDSoIVE OF DIAMONDSnSIX O
F DIAMONDSoEVEN OF DIAMONDSnEIGHT OF DIAMONDSnNINE OF DIAMONDSnTEN OF DIAMONDSnJACK OF DIAMONDSnKN
IGHT OF DIAMONDSnQUEEN OF DIAMONDSnKING OF DIAMONDSnBLACK JOKER@1F0D1;nACE OF CLUBSnTWO OF CLUBSoH
REE OF CLUBSnFOUR OF CLUBSoIVE OF CLUBSnSIX OF CLUBSoEVEN OF CLUBSnEIGHT OF CLUBSnNINE OF CLUBSnTE
N OF CLUBSnJACK OF CLUBSnKNIGHT OF CLUBSnQUEEN OF CLUBSnKING OF CLUBSnWHITE JOKERnFOOLnTRUMP-1t2t3
t4t5t6t7t8t9t10u1u2u3u4u5u6u7u8u9t20u1@1F100;aDIGIT ZERO FULL STOPlCOMMAgONE COMMAgTWO COMMAhHRE
E COMMAgFOUR COMMAhIVE COMMAgSIX COMMAhEVEN COMMAgEIGHT COMMAgNINE COMMAcNGBAT CIRCLED SANS-SERI
F DIGIT ZEROiNEGATIVE CIRCLED SANS-SERIF DIGIT ZEROaCIRCLED ZERO WITH SLASHiANTICLOCKWISE ARROWiDO
LLAR SIGN WITH OVERLAID BACKSLASHaPARENTHESIZED LATIN CAPITAL LETTER A?B?C?D?E?F?G?H?I?J?K?L?M?N?O
?P?Q?R?S?T?U?V?W?X?Y?ZaTORTOISE SHELL BRACKETED LATIN CAPITAL LETTER SaCIRCLED ITALIC LATIN CAPITA
L LETTER C^RiCDiWZbOPYLEFT SYMBOLaSQUARED LATIN CAPITAL LETTER A&B&C&D&E&F&G&H&I&J&K&L&M&N&O&P&Q&R
&S&T&U&V&W&X&Y&ZiHViMViSDjSiPPViWCaNEGATIVE CIRCLED LATIN CAPITAL LETTER A|B|C|D|E|F|G|H|I|J|K|L|M
|N|O|P|Q|R|S|T|U|V|W|X|Y|ZaRAISED MC SIGNiD SIGNiR SIGNaCIRCLED CCj WITH OVERLAID BACKSLASHiHUMA
N FIGUREaNEGATIVE SQUARED LATIN CAPITAL LETTER A|B|C|D|E|F|G|H|I|J|K|L|M|N|O|P|Q|R|S|T|U|V|W|X|Y|Z
aCROSSED NEGATIVE SQUARED LATIN CAPITAL LETTER PaNEGATIVE SQUARED ICrPArSArABrWCaSQUARE DJgD CLjOO
LiFREEiIDiNEWjGiOKiSOSiUP WITH EXCLAMATION MARKiVSiTHREE DiSECOND SCREENiTWO KiFOUR KiEIGHT KiFIV
E POINT ONEiSEVEN POINT ONEiTWENTY-TWO POINT TWOiSIXTY PiONE HUNDRED TWENTY PiLATIN SMALL LETTER D
iHCjDRjI-RESiLOSSLESSiSHViUHDiVODaMASK WORK SYMBOL@1F1E6;aREGIONAL INDICATOR SYMBOL LETTER A<B<C<D
<E<F<G<H<I<J<K<L<M<N<O<P<Q<R<S<T<U<V<W<X<Y<ZaSQUARE HIRAGANA HOKAgD KATAKANA KOKOrSA@1F210;iCJK UN
IFIED IDEOGRAPH-624B+5B57,3CCiKATAKANA DEiCJK UNIFIED IDEOGRAPH-4E8C+591A+89E3+5929+4EA4+6620+7121
+6599+524D,F8C,18D+65B0+521D+7D42,51F+8CA9+58F0,439+6F14,295,355+4E00<9+904A+5DE6+4E2D+53F3+6307+8
D70+6253+7981,A7A+5408+6E80,709<8+7533+5272,5B6+914D@1F240;aTORTOISE SHELL BRACKETED CJK UNIFIED I
DEOGRAPH-672C~EOGRAPH-4E09~EOGRAPH-4E8C~EOGRAPH-5B89~EOGRAPH-70B9~EOGRAPH-6253~EOGRAPH-76D7~EOGRAP
H-52DD~EOGRAPH-6557@1F250;aCIRCLED IDEOGRAPH ADVANTAGEtCCEPT@1F260;aROUNDED SYMBOL FOR FUtLUtSHOUt
XItSHUANGXItCAI@1F300;aCYCLONEaFOGGYaCLOSED UMBRELLAaNIGHT WITH STARSaSUNRISE OVER MOUNTAINShaCITY
SCAPE AT DUSKaSUNSET OVER BUILDINGSaRAINBOWaBRIDGE AT NIGHTaWATER WAVEaVOLCANOaMILKY WAYaEARTH GLO
BE EUROPE-AFRICAmAMERICASnSIA-AUSTRALIAaGLOBE WITH MERIDIANSaNEW MOON SYMBOLaWAXING CRESCENT MOO
N SYMBOLaFIRST QUARTER MOON SYMBOLaWAXING GIBBOUS MOON SYMBOLaFULL MOON SYMBOLaWANING GIBBOUS MOO
N SYMBOLaLAST QUARTER MOON SYMBOLaWANING CRESCENT MOON SYMBOLaCRESCENT MOONaNEW MOON WITH FACEaFIR
ST QUARTER MOON WITH FACEaLAST QUARTER MOON WITH FACEaFULL MOON WITH FACEaSUN WITH FACEaGLOWING ST
ARaSHOOTING STARaTHERMOMETERaBLACK DROPLETaWHITE SUNj WITH SMALL CLOUDkBEHIND CLOUDw WITH RAINaCLO
UD WITH RAINlSNOWlLIGHTNINGlTORNADOaFOGaWIND BLOWING FACEaHOT DOGaTACOaBURRITOaCHESTNUTaSEEDLINGaE
VERGREEN TREEaDECIDUOUS TREEaPALM TREEaCACTUSaHOT PEPPERaTULIPaCHERRY BLOSSOMaROSEaHIBISCUSaSUNFLO
WERaBLOSSOMaEAR OF MAIZEhRICEaHERBaFOUR LEAF CLOVERaMAPLE LEAFaFALLEN LEAFaLEAF FLUTTERING IN WIND
aMUSHROOMaTOMATOaAUBERGINEaGRAPESaMELONaWATERMELONaTANGERINEaLEMONaBANANAaPINEAPPLEaRED APPLEaGREE
N APPLEaPEARdCHaCHERRIESaSTRAWBERRYaHAMBURGERaSLICE OF PIZZAaMEAT ON BONEaPOULTRY LEGaRICE CRACKER
fBALLaCOOKED RICEbURRY AND RICEaSTEAMING BOWLbPAGHETTIaBREADaFRENCH FRIESaROASTED SWEET POTATOaDAN
GOaODENaSUSHIaFRIED SHRIMPbISH CAKE WITH SWIRL DESIGNaSOFT ICE CREAMbHAVED ICEaICE CREAMaDOUGHNUTa
COOKIEbHOCOLATE BARbANDYaLOLLIPOPaCUSTARDaHONEY POTaSHORTCAKEaBENTO BOXaPOT OF FOODaCOOKINGaFORK A
ND KNIFEaTEACUP WITHOUT HANDLEaSAKE BOTTLE AND CUPaWINE GLASSaCOCKTAIL GLASSaTROPICAL DRINKaBEER M
UGaCLINKING BEER MUGSaBABY BOTTLEaFORK AND KNIFE WITH PLATEaBOTTLE WITH POPPING CORKaPOPCORNaRIBBO
NaWRAPPED PRESENTaBIRTHDAY CAKEaJACK-O-LANTERNaCHRISTMAS TREEaFATHER CHRISTMASbIREWORKSi SPARKLERa
BALLOONaPARTY POPPERaCONFETTI BALLaTANABATA TREEaCROSSED FLAGSaPINE DECORATIONaJAPANESE DOLLSaCAR
P STREAMERaWIND CHIMEaMOON VIEWING CEREMONYaSCHOOL SATCHELaGRADUATION CAPaHEART WITH TIP ON THE LE
FTaBOUQUET OF FLOWERSaMILITARY MEDALaREMINDER RIBBONaMUSICAL KEYBOARD WITH JACKSaSTUDIO MICROPHONE
aLEVEL SLIDERaCONTROL KNOBSaBEAMED ASCENDING MUSICAL NOTEShDESCENDING MUSICAL NOTESaFILM FRAMESaAD
MISSION TICKETSaCAROUSEL HORSEaFERRIS WHEELaROLLER COASTERaFISHING POLE AND FISHaMICROPHONEbOVIE C
AMERAaCINEMAaHEADPHONEaARTIST PALETTEaTOP HATaCIRCUS TENTaTICKETaCLAPPER BOARDaPERFORMING ARTSaVID
EO GAMEaDIRECT HITaSLOT MACHINEaBILLIARDSaGAME DIEaBOWLINGaFLOWER PLAYING CARDSaMUSICAL NOTEcLTIPL
E MUSICAL NOTESaSAXOPHONEaGUITARaMUSICAL KEYBOARDaTRUMPETaVIOLINaMUSICAL SCOREaRUNNING SHIRT WIT
H SASHaTENNIS RACQUET AND BALLaSKI AND SKI BOOTaBASKETBALL AND HOOPaCHEQUERED FLAGaSNOWBOARDERaRUN
NERaSURFERbPORTS MEDALaTROPHYaHORSE RACINGaAMERICAN FOOTBALLaRUGBY FOOTBALLaSWIMMERaWEIGHT LIFTERa
GOLFERaRACING MOTORCYCLEhCARaCRICKET BAT AND BALLaVOLLEYBALLaFIELD HOCKEY STICK AND BALLaICE HOCKE
Y STICK AND PUCKaTABLE TENNIS PADDLE AND BALLaSNOW CAPPED MOUNTAINaCAMPINGaBEACH WITH UMBRELLAbUIL
DING CONSTRUCTIONaHOUSE BUILDINGSaCITYSCAPEaDERELICT HOUSE BUILDINGaCLASSICAL BUILDINGaDESERTg ISL
ANDaNATIONAL PARKaSTADIUMaHOUSE BUILDINGgWITH GARDENaOFFICE BUILDINGaJAPANESE POST OFFICEaEUROPEA
N POST OFFICEaHOSPITALaBANKaAUTOMATED TELLER MACHINEaHOTELaLOVE HOTELaCONVENIENCE STOREaSCHOOLaDEP
ARTMENT STOREaFACTORYaIZAKAYA LANTERNaJAPANESE CASTLEaEUROPEAN CASTLEaWHITE PENNANTaBLACK PENNANTa
WAVING WHITE FLAGhBLACK FLAGaROSETTEaBLACK ROSETTEaLABELaBADMINTON RACQUET AND SHUTTLECOCKbOW AN
D ARROWaAMPHORAaEMOJI MODIFIER FITZPATRICK TYPE-1-2.3.4.5.6aRATaMOUSEaOXaWATER BUFFALOaCOWaTIGERaL
EOPARDaRABBITaCATaDRAGONaCROCODILEaWHALEaSNAILdKEaHORSEaRAMaGOATaSHEEPaMONKEYaROOSTERaCHICKENaDOGa
PIGaBOARaELEPHANTaOCTOPUSaSPIRAL SHELLaBUGaANTaHONEYBEEaLADY BEETLEaFISHaTROPICAL FISHaBLOWFISHaTU
RTLEaHATCHING CHICKaBABY CHICKaFRONT-FACING BABY CHICKaBIRDaPENGUINaKOALAaPOODLEaDROMEDARY CAMELaB
ACTRIAN CAMELaDOLPHINaMOUSE FACEaCOW FACEaTIGER FACEaRABBIT FACEaCAT FACEaDRAGON FACEaSPOUTING WHA
LEaHORSE FACEaMONKEY FACEaDOG FACEaPIG FACEaFROG FACEaHAMSTER FACEaWOLF FACEaBEAR FACEaPANDA FACEb
IG NOSEbAW PRINTSaCHIPMUNKaEYESdbARaNOSEaMOUTHaTONGUEaWHITE UP POINTING BACKHAND INDEXgDOWN POINTI
NG BACKHAND INDEXgLEFT POINTING BACKHAND INDEXgRIGHT POINTING BACKHAND INDEXaFISTED HAND SIGNaWAVI
NG HAND SIGNaOK HAND SIGNaTHUMBS UP SIGNhDOWN SIGNaCLAPPING HANDS SIGNaOPEN HANDS SIGNaCROWNaWOMAN
S HATaEYEGLASSESaNECKTIEaT-SHIRTaJEANSaDRESSaKIMONOaBIKINIaWOMANS CLOTHESaPURSEaHANDBAGaPOUCHaMAN
S SHOEaATHLETIC SHOEaHIGH-HEELED SHOEaWOMANS SANDALhBOOTSaFOOTPRINTSaBUST IN SILHOUETTEeS IN SILHO
UETTEbOYaGIRLaMANaWOMANaFAMILYaMAN AND WOMAN HOLDING HANDSaTWO MEN HOLDING HANDSeWOMEN HOLDING HAN
DSaPOLICE OFFICERaWOMAN WITH BUNNY EARSaBRIDE WITH VEILaPERSON WITH BLOND HAIRaMAN WITH GUA PI MAO
jTURBANaOLDER MANgWOMANaBABYaCONSTRUCTION WORKERaPRINCESSaJAPANESE OGREjGOBLINaGHOSTaBABY ANGELaEX
TRATERRESTRIAL ALIENaALIEN MONSTERaIMPaSKULLaINFORMATION DESK PERSONaGUARDSMANaDANCERaLIPSTICKaNAI
L POLISHaFACE MASSAGEaHAIRCUTaBARBER POLEaSYRINGEaPILLaKISS MARKaLOVE LETTERaRINGaGEM STONEaKISSaB
OUQUETaCOUPLE WITH HEARTaWEDDINGaBEATING HEARTbROKEN HEARTaTWO HEARTSaSPARKLING HEARTaGROWING HEAR
TaHEART WITH ARROWaBLUE HEARTaGREEN HEARTaYELLOW HEARTaPURPLE HEARTaHEART WITH RIBBONaREVOLVING HE
ARTSaHEART DECORATIONaDIAMOND SHAPE WITH A DOT INSIDEaELECTRIC LIGHT BULBaANGER SYMBOLaBOMBaSLEEPI
NG SYMBOLaCOLLISION SYMBOLaSPLASHING SWEAT SYMBOLaDROPLETbASH SYMBOLaPILE OF POOaFLEXED BICEPSaDIZ
ZY SYMBOLaSPEECH BALLOONaTHOUGHT BALLOONaWHITE FLOWERaHUNDRED POINTS SYMBOLaMONEY BAGaCURRENCY EXC
HANGEaHEAVY DOLLAR SIGNaCREDIT CARDaBANKNOTE WITH YEN SIGNoDOLLAR SIGNoEURO SIGNoPOUND SIGNaMONE
Y WITH WINGSaCHART WITH UPWARDS TREND AND YEN SIGNaSEATaPERSONAL COMPUTERaBRIEFCASEaMINIDISCaFLOPP
Y DISKaOPTICAL DISCaDVDaFILE FOLDERaOPEN FILE FOLDERaPAGE WITH CURLfFACING UPaCALENDARaTEAR-OFF CA
LENDARaCARD INDEXbHART WITH UPWARDS TRENDlDOWNWARDS TRENDaBAR CHARTaCLIPBOARDaPUSHPINaROUND PUSHPI
NaPAPERCLIPaSTRAIGHT RULERaTRIANGULAR RULERaBOOKMARK TABSaLEDGERaNOTEBOOKi WITH DECORATIVE COVERaC
LOSED BOOKaOPEN BOOKaGREEN BOOKaBLUE BOOKaORANGE BOOKaBOOKSaNAME BADGEaSCROLLaMEMOaTELEPHONE RECEI
VERaPAGERaFAX MACHINEaSATELLITE ANTENNAaPUBLIC ADDRESS LOUDSPEAKERaCHEERING MEGAPHONEaOUTBOX TRAYa
INBOX TRAYaPACKAGEaE-MAIL SYMBOLaINCOMING ENVELOPEaENVELOPE WITH DOWNWARDS ARROW ABOVEaCLOSED MAIL
BOX WITH LOWERED FLAGuRAISED FLAGaOPEN MAILBOX WITH RAISED FLAGsLOWERED FLAGaPOSTBOXeAL HORNaNEWSP
APERaMOBILE PHONEm WITH RIGHTWARDS ARROW AT LEFTaVIBRATION MODEaMOBILE PHONE OFFaNO MOBILE PHONESa
ANTENNA WITH BARSaCAMERAg WITH FLASHaVIDEO CAMERAaTELEVISIONaRADIOaVIDEOCASSETTEaFILM PROJECTORaPO
RTABLE STEREObRAYER BEADSaTWISTED RIGHTWARDS ARROWSaCLOCKWISE RIGHTWARDS AND LEFTWARDS OPEN CIRCL
E ARROWS~ CIRCLE ARROWS WITH CIRCLED ONE OVERLAYkDOWNWARDS AND UPWARDS OPEN CIRCLE ARROWSaANTICLOC
KWISE DOWNWARDS AND UPWARDS OPEN CIRCLE ARROWSaLOW BRIGHTNESS SYMBOLaHIGH BRIGHTNESS SYMBOLaSPEAKE
R WITH CANCELLATION STROKEhh WITH ONE SOUND WAVEnTHREE SOUND WAVESaBATTERYaELECTRIC PLUGaLEFT-POIN
TING MAGNIFYING GLASSaRIGHT-POINTING MAGNIFYING GLASSaLOCK WITH INK PENaCLOSED LOCK WITH KEYaKEYaL
OCKaOPEN LOCKaBELLe WITH CANCELLATION STROKEbOOKMARKaLINK SYMBOLaRADIO BUTTONaBACK WITH LEFTWARD
S ARROW ABOVEaEND WITH LEFTWARDS ARROW ABOVEaON WITH EXCLAMATION MARK WITH LEFT RIGHT ARROW ABOVEa
SOON WITH RIGHTWARDS ARROW ABOVEaTOP WITH UPWARDS ARROW ABOVEaNO ONE UNDER EIGHTEEN SYMBOLaKEYCA
P TENaINPUT SYMBOL FOR LATIN CAPITAL LETTERSxSMALL LETTERSrNUMBERSrSYMBOLSrLATIN LETTERSaFIREaELEC
TRIC TORCHaWRENCHaHAMMERaNUT AND BOLTaHOCHOaPISTOLaMICROSCOPEaTELESCOPEaCRYSTAL BALLaSIX POINTED S
TAR WITH MIDDLE DOTaJAPANESE SYMBOL FOR BEGINNERaTRIDENT EMBLEMaBLACK SQUARE BUTTONaWHITE SQUARE B
UTTONaLARGE RED CIRCLEgBLUE CIRCLEgORANGE DIAMONDgBLUE DIAMONDaSMALL ORANGE DIAMONDgBLUE DIAMONDaU
P-POINTING RED TRIANGLEaDOWN-POINTING RED TRIANGLEaUP-POINTING SMALL RED TRIANGLEaDOWN-POINTING SM
ALL RED TRIANGLEaLOWER RIGHT SHADOWED WHITE CIRCLEaUPPER RIGHT SHADOWED WHITE CIRCLEaCIRCLED CROS
S POMMEEbROSS POMMEE WITH HALF-CIRCLE BELOWmaNOTCHED LEFT SEMICIRCLE WITH THREE DOTSiRIGHT SEMICIR
CLE WITH THREE DOTSaSYMBOL FOR MARKS CHAPTERaWHITE LATIN CROSSaHEAVY LATIN CROSSaCELTIC CROSSaOM S
YMBOLaDOVE OF PEACEaKAABAaMOSQUEaSYNAGOGUEaMENORAH WITH NINE BRANCHESaBOWL OF HYGIEIAaCLOCK FACE O
NE OCLOCKlTWO OCLOCKmHREE OCLOCKlFOUR OCLOCKmIVE OCLOCKlSIX OCLOCKmEVEN OCLOCKlEIGHT OCLOCKlNINE O
CLOCKlTEN OCLOCKlELEVEN OCLOCKlTWELVE OCLOCKlONE-THIRTYlTWO-THIRTYmHREE-THIRTYlFOUR-THIRTYmIVE-THI
RTYlSIX-THIRTYmEVEN-THIRTYlEIGHT-THIRTYlNINE-THIRTYlTEN-THIRTYlELEVEN-THIRTYlTWELVE-THIRTYaRIGHT S
PEAKERn WITH ONE SOUND WAVEtTHREE SOUND WAVESaBULLHORNi WITH SOUND WAVESaRINGING BELLaBOOKaCANDLEa
MANTELPIECE CLOCKaBLACK SKULL AND CROSSBONESaNO PIRACYaHOLEaMAN IN BUSINESS SUIT LEVITATINGaSLEUT
H OR SPYaDARK SUNGLASSESaSPIDERg WEBaJOYSTICKaMAN DANCINGaLEFT HAND TELEPHONE RECEIVERaTELEPHONE R
ECEIVER WITH PAGEaRIGHT HAND TELEPHONE RECEIVERaWHITE TOUCHTONE TELEPHONEaBLACK TOUCHTONE TELEPHON
EaTELEPHONE ON TOP OF MODEMaCLAMSHELL MOBILE PHONEaBACK OF ENVELOPEaSTAMPED ENVELOPEaENVELOPE WIT
H LIGHTNINGaFLYING ENVELOPEaPEN OVER STAMPED ENVELOPEaLINKED PAPERCLIPSaBLACK PUSHPINaLOWER LEFT P
ENCILlBALLPOINT PENlFOUNTAIN PENlPAINTBRUSHlCRAYONbEFT WRITING HANDaTURNED OK HAND SIGNaRAISED HAN
D WITH FINGERS SPLAYEDbEVERSED RAISED HAND WITH FINGERS SPLAYEDjTHUMBS UP SIGNqDOWN SIGNjVICTORY H
ANDjHAND WITH MIDDLE FINGER EXTENDEDbAISED HAND WITH PART BETWEEN MIDDLE AND RING FINGERSaWHITE DO
WN POINTING LEFT HAND INDEXaSIDEWAYS WHITE LEFT POINTING INDEXpRIGHT POINTING INDEXjBLACK LEFT POI
NTING INDEXpRIGHT POINTING INDEXaBLACK LEFT POINTING BACKHAND INDEXgRIGHT POINTING BACKHAND INDEXa
SIDEWAYS WHITE UP POINTING INDEXpDOWN POINTING INDEXjBLACK UP POINTING INDEXpDOWN POINTING INDEXaB
LACK UP POINTING BACKHAND INDEXgDOWN POINTING BACKHAND INDEXgHEARTaDESKTOP COMPUTERaKEYBOARD AND M
OUSEaTHREE NETWORKED COMPUTERSaPRINTERbOCKET CALCULATORaBLACK HARD SHELL FLOPPY DISKaWHITE HARD SH
ELL FLOPPY DISKaSOFT SHELL FLOPPY DISKaTAPE CARTRIDGEaWIRED KEYBOARDaONE BUTTON MOUSEaTWO BUTTON M
OUSEbHREE BUTTON MOUSEbRACKBALLaOLD PERSONAL COMPUTERaHARD DISKaSCREENaPRINTER ICONaFAX ICONaOPTIC
AL DISC ICONaDOCUMENT WITH TEXTs AND PICTUREoPICTUREaFRAME WITH PICTURElTILESlAN XaBLACK FOLDERaFO
LDERaOPEN FOLDERaCARD INDEX DIVIDERSfFILE BOXaFILE CABINETaEMPTY NOTEk PAGEnDaNOTEe PAGEhDaEMPTY D
OCUMENTgPAGEkSaDOCUMENTaPAGEeSaWASTEBASKETaSPIRAL NOTE PADhCALENDAR PADaDESKTOP WINDOWaMINIMIZEbAX
IMIZEaOVERLAPaCLOCKWISE RIGHT AND LEFT SEMICIRCLE ARROWSbANCELLATION XaINCREASE FONT SIZE SYMBOLaD
ECREASE FONT SIZE SYMBOLaCOMPRESSIONaOLD KEYaROLLED-UP NEWSPAPERaPAGE WITH CIRCLED TEXTaSTOCK CHAR
TaDAGGER KNIFEaLIPSaSPEAKING HEAD IN SILHOUETTEaTHREE RAYS ABOVElBELOWlLEFTlRIGHTaLEFT SPEECH BUBB
LEaRIGHT SPEECH BUBBLEaTWO SPEECH BUBBLESbHREE SPEECH BUBBLESaLEFT THOUGHT BUBBLEaRIGHT THOUGHT BU
BBLEaLEFT ANGER BUBBLEaRIGHT ANGER BUBBLEaMOOD BUBBLEaLIGHTNING MOOD BUBBLEoaBALLOT BOX WITH BALLO
ThSCRIPT XhBOX WITH SCRIPT XjLD SCRIPT XjX WITH BOLD SCRIPT XaLIGHT CHECK MARKaBALLOT BOX WITH BOL
D CHECKaWORLD MAPaMOUNT FUJIaTOKYO TOWERaSTATUE OF LIBERTYbILHOUETTE OF JAPANaMOYAIaGRINNING FACE
n WITH SMILING EYESaFACE WITH TEARS OF JOYaSMILING FACE WITH OPEN MOUTH% AND SMILING EYES<COLD SWE
AT<TIGHTLY-CLOSED EYESsHALOtORNSaWINKING FACEaSMILING FACE WITH SMILING EYESaFACE SAVOURING DELICI
OUS FOODaRELIEVED FACEaSMILING FACE WITH HEART-SHAPED EYESsSUNGLASSESdRKING FACEaNEUTRAL FACEaEXPR
ESSIONLESS FACEaUNAMUSED FACEaFACE WITH COLD SWEATaPENSIVE FACEaCONFUSED FACEeOUNDED FACEaKISSIN
G FACEaFACE THROWING A KISSaKISSING FACE WITH SMILING EYESsCLOSED EYESaFACE WITH STUCK-OUT TONGUE
! AND WINKING EYE,TIGHTLY-CLOSED EYESaDISAPPOINTED FACEaWORRIED FACEaANGRY FACEaPOUTING FACEaCRYIN
G FACEaPERSEVERING FACEaFACE WITH LOOK OF TRIUMPHaDISAPPOINTED BUT RELIEVED FACEaFROWNING FACE WIT
H OPEN MOUTHaANGUISHED FACEaFEARFUL FACEaWEARY FACEaSLEEPY FACEaTIRED FACEaGRIMACING FACEaLOUDLY C
RYING FACEaFACE WITH OPEN MOUTHaHUSHED FACEaFACE WITH OPEN MOUTH AND COLD SWEATfSCREAMING IN FEARa
ASTONISHED FACEaFLUSHED FACEaSLEEPING FACEaDIZZY FACEaFACE WITHOUT MOUTHj MEDICAL MASKaGRINNING CA
T FACE WITH SMILING EYESaCAT FACE WITH TEARS OF JOYaSMILING CAT FACE WITH OPEN MOUTHwHEART-SHAPE
D EYESaCAT FACE WITH WRY SMILEaKISSING CAT FACE WITH CLOSED EYESaPOUTING CAT FACEaCRYING CAT FACEa
WEARY CAT FACEaSLIGHTLY FROWNING FACEjSMILING FACEaUPSIDE-DOWN FACEaFACE WITH ROLLING EYESkNO GOO
D GESTUREkOK GESTUREaPERSON BOWING DEEPLYaSEE-NO-EVIL MONKEYaHEAR-NO-EVIL MONKEYaSPEAK-NO-EVIL MON
KEYaHAPPY PERSON RAISING ONE HANDaPERSON RAISING BOTH HANDS IN CELEBRATIONhFROWNINGhWITH POUTING F
ACEmFOLDED HANDSaNORTH WEST POINTING LEAFaSOUTH WEST POINTING LEAFaNORTH EAST POINTING LEAFaSOUT
H EAST POINTING LEAFaTURNED NORTH WEST POINTING LEAFhSOUTH WEST POINTING LEAFhNORTH EAST POINTIN
G LEAFhSOUTH EAST POINTING LEAFaNORTH WEST POINTING VINE LEAFaSOUTH WEST POINTING VINE LEAFaNORT
H EAST POINTING VINE LEAFaSOUTH EAST POINTING VINE LEAFaHEAVY NORTH WEST POINTING VINE LEAFgSOUT
H WEST POINTING VINE LEAFgNORTH EAST POINTING VINE LEAFgSOUTH EAST POINTING VINE LEAFaNORTH WEST P
OINTING BUDaSOUTH WEST POINTING BUDaNORTH EAST POINTING BUDaSOUTH EAST POINTING BUDaHEAVY NORTH WE
ST POINTING BUDgSOUTH WEST POINTING BUDgNORTH EAST POINTING BUDgSOUTH EAST POINTING BUDbOLLOW QUIL
T SQUARE ORNAMENT% IN BLACK SQUAREaSOLID QUILT SQUARE ORNAMENT$ IN BLACK SQUAREaLEFTWARDS ROCKETaU
PWARDS ROCKETaRIGHTWARDS ROCKETaDOWNWARDS ROCKETaSCRIPT LIGATURE ET ORNAMENTaHEAVY SCRIPT LIGATUR
E ET ORNAMENTaLIGATURE OPEN ET ORNAMENTaHEAVY LIGATURE OPEN ET ORNAMENTgAMPERSAND ORNAMENTaSWASH A
MPERSAND ORNAMENTbANS-SERIF HEAVY DOUBLE TURNED COMMA QUOTATION MARK ORNAMENTyCOMMA QUOTATION MAR
K ORNAMENTrLOW DOUBLE COMMA QUOTATION MARK ORNAMENTaHEAVY INTERROBANG ORNAMENTaSANS-SERIF INTERROB
ANG ORNAMENTaHEAVY SANS-SERIF INTERROBANG ORNAMENTaVERY HEAVY SOLIDUSlREVERSE SOLIDUSaCHECKER BOAR
DaREVERSE CHECKER BOARDbOCKETaHELICOPTERaSTEAM LOCOMOTIVEaRAILWAY CARaHIGH-SPEED TRAINq WITH BULLE
T NOSEaTRAINaMETROaLIGHT RAILaSTATIONaTRAMe CARaBUSaONCOMING BUSaTROLLEYBUSaBUS STOPaMINIBUSaAMBUL
ANCEaFIRE ENGINEaPOLICE CARaONCOMING POLICE CARaTAXIaONCOMING TAXIaAUTOMOBILEaONCOMING AUTOMOBILEa
RECREATIONAL VEHICLEaDELIVERY TRUCKaARTICULATED LORRYaTRACTORaMONORAILcUNTAIN RAILWAYaSUSPENSION R
AILWAYaMOUNTAIN CABLEWAYaAERIAL TRAMWAYaSHIPaROWBOATaSPEEDBOATaHORIZONTAL TRAFFIC LIGHTaVERTICAL T
RAFFIC LIGHTaCONSTRUCTION SIGNaPOLICE CARS REVOLVING LIGHTaTRIANGULAR FLAG ON POSTaDOORaNO ENTRY S
IGNaSMOKING SYMBOLaNO SMOKING SYMBOLaPUT LITTER IN ITS PLACE SYMBOLaDO NOT LITTER SYMBOLaPOTABLE W
ATER SYMBOLaNON-POTABLE WATER SYMBOLaBICYCLEaNO BICYCLESaBICYCLISTaMOUNTAIN BICYCLISTaPEDESTRIANaN
O PEDESTRIANSaCHILDREN CROSSINGaMENS SYMBOLaWOMENS SYMBOLaRESTROOMaBABY SYMBOLaTOILETaWATER CLOSET
aSHOWERaBATHeTUBaPASSPORT CONTROLaCUSTOMSaBAGGAGE CLAIMaLEFT LUGGAGEaTRIANGLE WITH ROUNDED CORNERS
aPROHIBITED SIGNaCIRCLED INFORMATION SOURCEaBOYS SYMBOLaGIRLS SYMBOLaCOUCH AND LAMPaSLEEPING ACCOM
MODATIONbHOPPING BAGSaBELLHOP BELLcDaPLACE OF WORSHIPaOCTAGONAL SIGNaSHOPPING TROLLEYbTUPAaPAGODAa
HINDU TEMPLEbUTaELEVATOR@1F6DD;aPLAYGROUND SLIDEaWHEELaRING BUOYaHAMMER AND WRENCHaSHIELDaOIL DRUM
aMOTORWAYaRAILWAY TRACKaMOTOR BOATaUP-POINTING MILITARY AIRPLANEmAIRPLANEmSMALL AIRPLANEaSMALL AIR
PLANEaNORTHEAST-POINTING AIRPLANEaAIRPLANE DEPARTUREjARRIVING@1F6F0;aSATELLITEaONCOMING FIRE ENGIN
EaDIESEL LOCOMOTIVEaPASSENGER SHIPaSCOOTERaMOTOR SCOOTERaCANOEaSLEDaFLYING SAUCERaSKATEBOARDaAUT
O RICKSHAWaPICKUP TRUCKaROLLER SKATE@1F700;aALCHEMICAL SYMBOL FOR QUINTESSENCEwAIRwFIREwEARTHwWATE
RwAQUAFORTIS! REGIA.-2$VITAE.-2wVINEGAR&-2+3wSULFURwPHILOSOPHERS SULFURwBLACK SULFURwMERCURY SUBLI
MATE~-2~-3wCINNABARwSALTwNITREwVITRIOL&-2wROCK SALT,-2wGOLDwSILVERwIRON ORE+-2wCROCUS OF IRONwREGU
LUS OF IRONwCOPPER OREwIRON-COPPER OREwSUBLIMATE OF COPPERwCROCUS OF COPPER|-2xOPPER ANTIMONIATEwS
ALT OF COPPER ANTIMONIATExUBLIMATE OF SALT OF COPPERwVERDIGRISwTIN OREwLEAD OREwANTIMONY OREwSUBLI
MATE OF ANTIMONYxALT OF ANTIMONYxUBLIMATE OF SALT OF ANTIMONYwVINEGAR OF ANTIMONYwREGULUS OF ANTIM
ONY~NY-2&&-2+3+4wALKALI%-2wMARCASITEwSAL-AMMONIACwARSENICwREALGAR&-2wAURIPIGMENTwBISMUTH OREwTARTA
R%-2wQUICK LIMEwBORAX$-2%3wALUMwOILwSPIRITwTINCTUREwGUMwWAXwPOWDERwCALXwTUTTYwCAPUT MORTUUMwSCEPTE
R OF JOVEwCADUCEUSwTRIDENTwSTARRED TRIDENTwLODESTONEwSOAPwURINEwHORSE DUNGwASHESwPOT ASHESwBRICKwP
OWDERED BRICKwAMALGAMwSTRATUM SUPER STRATUM~ATUM-2xUBLIMATIONwPRECIPITATEwDISTILLzSOLVE+-2wPURIFYy
TREFACTIONwCRUCIBLE+-2,3,4,5wALEMBICwBATH OF MARY+VAPOURSwRETORTwHOURwNIGHTwDAY-NIGHTwMONTHwHALF D
RAM$OUNCE@1F780;aBLACK LEFT-POINTING ISOSCELES RIGHT TRIANGLEgUP-POINTING ISOSCELES RIGHT TRIANGLE
gRIGHT-POINTING ISOSCELES RIGHT TRIANGLEgDOWN-POINTING ISOSCELES RIGHT TRIANGLEgSLIGHTLY SMALL CIR
CLEaMEDIUM BOLD WHITE CIRCLEaBOLD WHITE CIRCLEaHEAVY WHITE CIRCLEaVERY HEAVY WHITE CIRCLEaEXTREMEL
Y HEAVY WHITE CIRCLEaWHITE CIRCLE CONTAINING BLACK SMALL CIRCLEaROUND TARGETaBLACK TINY SQUAREgSLI
GHTLY SMALL SQUAREaLIGHT WHITE SQUAREaMEDIUM WHITE SQUAREaBOLD WHITE SQUAREaHEAVY WHITE SQUAREaVER
Y HEAVY WHITE SQUAREaEXTREMELY HEAVY WHITE SQUAREaWHITE SQUARE CONTAINING BLACK VERY SMALL SQUARE+
MEDIUM SQUAREaSQUARE TARGETaBLACK TINY DIAMONDgVERY SMALL DIAMONDgMEDIUM SMALL DIAMONDaWHITE DIAMO
ND CONTAINING BLACK VERY SMALL DIAMOND,MEDIUM DIAMONDaDIAMOND TARGETaBLACK TINY LOZENGEgVERY SMAL
L LOZENGEgMEDIUM SMALL LOZENGEaWHITE LOZENGE CONTAINING BLACK SMALL LOZENGEaTHIN GREEK CROSSaLIGH
T GREEK CROSSaMEDIUM GREEK CROSSaBOLD GREEK CROSSaVERY BOLD GREEK CROSSfHEAVY GREEK CROSSaEXTREMEL
Y HEAVY GREEK CROSSaTHIN SALTIREaLIGHT SALTIREaMEDIUM SALTIREaBOLD SALTIREaHEAVY SALTIREaVERY HEAV
Y SALTIREaEXTREMELY HEAVY SALTIREaLIGHT FIVE SPOKED ASTERISKaMEDIUM FIVE SPOKED ASTERISKaBOLD FIV
E SPOKED ASTERISKaHEAVY FIVE SPOKED ASTERISKaVERY HEAVY FIVE SPOKED ASTERISKaEXTREMELY HEAVY FIV
E SPOKED ASTERISKaLIGHT SIX SPOKED ASTERISKaMEDIUM SIX SPOKED ASTERISKaBOLD SIX SPOKED ASTERISKaHE
AVY SIX SPOKED ASTERISKaVERY HEAVY SIX SPOKED ASTERISKaEXTREMELY HEAVY SIX SPOKED ASTERISKaLIGHT E
IGHT SPOKED ASTERISKaMEDIUM EIGHT SPOKED ASTERISKaBOLD EIGHT SPOKED ASTERISKaHEAVY EIGHT SPOKED AS
TERISKaVERY HEAVY EIGHT SPOKED ASTERISKaLIGHT THREE POINTED BLACK STARaMEDIUM THREE POINTED BLAC
K STARaTHREE POINTED BLACK STARaMEDIUM THREE POINTED PINWHEEL STARaLIGHT FOUR POINTED BLACK STARaM
EDIUM FOUR POINTED BLACK STARaFOUR POINTED BLACK STARaMEDIUM FOUR POINTED PINWHEEL STARaREVERSE LI
GHT FOUR POINTED PINWHEEL STARaLIGHT FIVE POINTED BLACK STARaHEAVY FIVE POINTED BLACK STARaMEDIU
M SIX POINTED BLACK STARaHEAVY SIX POINTED BLACK STARaSIX POINTED PINWHEEL STARaMEDIUM EIGHT POINT
ED BLACK STARaHEAVY EIGHT POINTED BLACK STARaVERY HEAVY EIGHT POINTED BLACK STARaHEAVY EIGHT POINT
ED PINWHEEL STARaLIGHT TWELVE POINTED BLACK STARaHEAVY TWELVE POINTED BLACK STARvPINWHEEL STARaCIR
CLED TRIANGLEaNEGATIVE CIRCLED TRIANGLEaCIRCLED SQUAREaNEGATIVE CIRCLED SQUARE@1F7E0;aLARGE ORANG
E CIRCLEgYELLOW CIRCLEgGREEN CIRCLEgPURPLE CIRCLEgBROWN CIRCLEgRED SQUAREgBLUE SQUAREgORANGE SQUAR
EgYELLOW SQUAREgGREEN SQUAREgPURPLE SQUAREgBROWN SQUARE@1F7F0;aHEAVY EQUALS SIGN@1F800;aLEFTWARD
S ARROW WITH SMALL TRIANGLE ARROWHEADaUPWARDS ARROW WITH SMALL TRIANGLE ARROWHEADaRIGHTWARDS ARRO
W WITH SMALL TRIANGLE ARROWHEADaDOWNWARDS ARROW WITH SMALL TRIANGLE ARROWHEADaLEFTWARDS ARROW WIT
H MEDIUM TRIANGLE ARROWHEADaUPWARDS ARROW WITH MEDIUM TRIANGLE ARROWHEADaRIGHTWARDS ARROW WITH MED
IUM TRIANGLE ARROWHEADaDOWNWARDS ARROW WITH MEDIUM TRIANGLE ARROWHEADaLEFTWARDS ARROW WITH LARGE T
RIANGLE ARROWHEADaUPWARDS ARROW WITH LARGE TRIANGLE ARROWHEADaRIGHTWARDS ARROW WITH LARGE TRIANGL
E ARROWHEADaDOWNWARDS ARROW WITH LARGE TRIANGLE ARROWHEAD@1F810;aLEFTWARDS ARROW WITH SMALL EQUILA
TERAL ARROWHEADaUPWARDS ARROW WITH SMALL EQUILATERAL ARROWHEADaRIGHTWARDS ARROW WITH SMALL EQUILAT
ERAL ARROWHEADaDOWNWARDS ARROW WITH SMALL EQUILATERAL ARROWHEADaLEFTWARDS ARROW WITH EQUILATERAL A
RROWHEADaUPWARDS ARROW WITH EQUILATERAL ARROWHEADaRIGHTWARDS ARROW WITH EQUILATERAL ARROWHEADaDOWN
WARDS ARROW WITH EQUILATERAL ARROWHEADaHEAVY LEFTWARDS ARROW WITH EQUILATERAL ARROWHEADgUPWARDS AR
ROW WITH EQUILATERAL ARROWHEADgRIGHTWARDS ARROW WITH EQUILATERAL ARROWHEADgDOWNWARDS ARROW WITH EQ
UILATERAL ARROWHEADgLEFTWARDS ARROW WITH LARGE EQUILATERAL ARROWHEADgUPWARDS ARROW WITH LARGE EQUI
LATERAL ARROWHEADgRIGHTWARDS ARROW WITH LARGE EQUILATERAL ARROWHEADgDOWNWARDS ARROW WITH LARGE EQU
ILATERAL ARROWHEADaLEFTWARDS TRIANGLE-HEADED ARROW WITH NARROW SHAFTaUPWARDS TRIANGLE-HEADED ARRO
W WITH NARROW SHAFTaRIGHTWARDS TRIANGLE-HEADED ARROW WITH NARROW SHAFTaDOWNWARDS TRIANGLE-HEADED A
RROW WITH NARROW SHAFTaLEFTWARDS TRIANGLE-HEADED ARROW WITH MEDIUM SHAFTaUPWARDS TRIANGLE-HEADED A
RROW WITH MEDIUM SHAFTaRIGHTWARDS TRIANGLE-HEADED ARROW WITH MEDIUM SHAFTaDOWNWARDS TRIANGLE-HEADE
D ARROW WITH MEDIUM SHAFTaLEFTWARDS TRIANGLE-HEADED ARROW WITH BOLD SHAFTaUPWARDS TRIANGLE-HEADE
D ARROW WITH BOLD SHAFTaRIGHTWARDS TRIANGLE-HEADED ARROW WITH BOLD SHAFTaDOWNWARDS TRIANGLE-HEADE
D ARROW WITH BOLD SHAFTaLEFTWARDS TRIANGLE-HEADED ARROW WITH HEAVY SHAFTaUPWARDS TRIANGLE-HEADED A
RROW WITH HEAVY SHAFTaRIGHTWARDS TRIANGLE-HEADED ARROW WITH HEAVY SHAFTaDOWNWARDS TRIANGLE-HEADE
D ARROW WITH HEAVY SHAFTaLEFTWARDS TRIANGLE-HEADED ARROW WITH VERY HEAVY SHAFTaUPWARDS TRIANGLE-HE
ADED ARROW WITH VERY HEAVY SHAFTaRIGHTWARDS TRIANGLE-HEADED ARROW WITH VERY HEAVY SHAFTaDOWNWARD
S TRIANGLE-HEADED ARROW WITH VERY HEAVY SHAFTaLEFTWARDS FINGER-POST ARROWaUPWARDS FINGER-POST ARRO
WaRIGHTWARDS FINGER-POST ARROWaDOWNWARDS FINGER-POST ARROWaLEFTWARDS SQUARED ARROWaUPWARDS SQUARE
D ARROWaRIGHTWARDS SQUARED ARROWaDOWNWARDS SQUARED ARROWaLEFTWARDS COMPRESSED ARROWaUPWARDS COMPRE
SSED ARROWaRIGHTWARDS COMPRESSED ARROWaDOWNWARDS COMPRESSED ARROWaLEFTWARDS HEAVY COMPRESSED ARROW
aUPWARDS HEAVY COMPRESSED ARROWaRIGHTWARDS HEAVY COMPRESSED ARROWaDOWNWARDS HEAVY COMPRESSED ARROW
aLEFTWARDS HEAVY ARROWaUPWARDS HEAVY ARROWaRIGHTWARDS HEAVY ARROWaDOWNWARDS HEAVY ARROW@1F850;aLEF
TWARDS SANS-SERIF ARROWaUPWARDS SANS-SERIF ARROWaRIGHTWARDS SANS-SERIF ARROWaDOWNWARDS SANS-SERI
F ARROWaNORTH WEST SANS-SERIF ARROWgEAST SANS-SERIF ARROWaSOUTH EAST SANS-SERIF ARROWgWEST SANS-SE
RIF ARROWaLEFT RIGHT SANS-SERIF ARROWaUP DOWN SANS-SERIF ARROW@1F860;aWIDE-HEADED LEFTWARDS LIGH
T BARB ARROWmUPWARDS LIGHT BARB ARROWmRIGHTWARDS LIGHT BARB ARROWmDOWNWARDS LIGHT BARB ARROWmNORT
H WEST LIGHT BARB ARROWsEAST LIGHT BARB ARROWmSOUTH EAST LIGHT BARB ARROWsWEST LIGHT BARB ARROWmLE
FTWARDS BARB ARROWmUPWARDS BARB ARROWmRIGHTWARDS BARB ARROWmDOWNWARDS BARB ARROWmNORTH WEST BARB A
RROWsEAST BARB ARROWmSOUTH EAST BARB ARROWsWEST BARB ARROWmLEFTWARDS MEDIUM BARB ARROWmUPWARDS MED
IUM BARB ARROWmRIGHTWARDS MEDIUM BARB ARROWmDOWNWARDS MEDIUM BARB ARROWmNORTH WEST MEDIUM BARB ARR
OWsEAST MEDIUM BARB ARROWmSOUTH EAST MEDIUM BARB ARROWsWEST MEDIUM BARB ARROWmLEFTWARDS HEAVY BAR
B ARROWmUPWARDS HEAVY BARB ARROWmRIGHTWARDS HEAVY BARB ARROWmDOWNWARDS HEAVY BARB ARROWmNORTH WES
T HEAVY BARB ARROWsEAST HEAVY BARB ARROWmSOUTH EAST HEAVY BARB ARROWsWEST HEAVY BARB ARROWmLEFTWAR
DS VERY HEAVY BARB ARROWmUPWARDS VERY HEAVY BARB ARROWmRIGHTWARDS VERY HEAVY BARB ARROWmDOWNWARD
S VERY HEAVY BARB ARROWmNORTH WEST VERY HEAVY BARB ARROWsEAST VERY HEAVY BARB ARROWmSOUTH EAST VER
Y HEAVY BARB ARROWsWEST VERY HEAVY BARB ARROW@1F890;aLEFTWARDS TRIANGLE ARROWHEADaUPWARDS TRIANGL
E ARROWHEADaRIGHTWARDS TRIANGLE ARROWHEADaDOWNWARDS TRIANGLE ARROWHEADaLEFTWARDS WHITE ARROW WITHI
N TRIANGLE ARROWHEADaUPWARDS WHITE ARROW WITHIN TRIANGLE ARROWHEADaRIGHTWARDS WHITE ARROW WITHIN T
RIANGLE ARROWHEADaDOWNWARDS WHITE ARROW WITHIN TRIANGLE ARROWHEADaLEFTWARDS ARROW WITH NOTCHED TAI
LaUPWARDS ARROW WITH NOTCHED TAILaRIGHTWARDS ARROW WITH NOTCHED TAILaDOWNWARDS ARROW WITH NOTCHE
D TAILaHEAVY ARROW SHAFT WIDTH ONEyTWO THIRDSyONE HALF%THIRDaLEFTWARDS BOTTOM-SHADED WHITE ARROWaR
IGHTWARDS BOTTOM SHADED WHITE ARROWaLEFTWARDS TOP SHADED WHITE ARROWaRIGHTWARDS TOP SHADED WHITE A
RROWaLEFTWARDS LEFT-SHADED WHITE ARROWaRIGHTWARDS RIGHT-SHADED WHITE ARROWaLEFTWARDS RIGHT-SHADE
D WHITE ARROWaRIGHTWARDS LEFT-SHADED WHITE ARROWaLEFTWARDS BACK-TILTED SHADOWED WHITE ARROWaRIGHTW
ARDS BACK-TILTED SHADOWED WHITE ARROWaLEFTWARDS FRONT-TILTED SHADOWED WHITE ARROWaRIGHTWARDS FRONT
-TILTED SHADOWED WHITE ARROWaWHITE ARROW SHAFT WIDTH ONEyTWO THIRDS@1F8B0;aARROW POINTING UPWARD
S THEN NORTH WESTpRIGHTWARDS THEN CURVING SOUTH WEST@1F900;aCIRCLED CROSS FORMEE WITH FOUR DOTS!TW
O DOTSuaLEFT HALF CIRCLE WITH FOUR DOTSwTHREE DOTSxWO DOTSwDOTqaDOWNWARD FACING HOOKqNOTCHED HOOKq
HOOK WITH DOTqNOTCHED HOOK WITH DOTaPINCHED FINGERSaWHITE HEARTaBROWN HEARTaPINCHING HANDaZIPPER-M
OUTH FACEaMONEY-MOUTH FACEaFACE WITH THERMOMETERaNERD FACEaTHINKING FACEaFACE WITH HEAD-BANDAGEaRO
BOT FACEaHUGGING FACEaSIGN OF THE HORNSaCALL ME HANDaRAISED BACK OF HANDaLEFT-FACING FISTaRIGHT-FA
CING FISTaHANDSHAKEe WITH INDEX AND MIDDLE FINGERS CROSSEDaI LOVE YOU HAND SIGNaFACE WITH COWBOY H
ATaCLOWN FACEaNAUSEATED FACEaROLLING ON THE FLOOR LAUGHINGaDROOLING FACEaLYING FACEaFACE PALMaSNEE
ZING FACEaFACE WITH ONE EYEBROW RAISEDaGRINNING FACE WITH STAR EYEStONE LARGE AND ONE SMALL EYEaFA
CE WITH FINGER COVERING CLOSED LIPSaSERIOUS FACE WITH SYMBOLS COVERING MOUTHbMILING FACE WITH SMIL
ING EYES AND HAND COVERING MOUTHaFACE WITH OPEN MOUTH VOMITINGaSHOCKED FACE WITH EXPLODING HEADaPR
EGNANT WOMANaBREAST-FEEDINGaPALMS UP TOGETHERaSELFIEaPRINCEaMAN IN TUXEDObOTHER CHRISTMASaSHRUGaPE
RSON DOING CARTWHEELaJUGGLINGaFENCERaMODERN PENTATHLONaWRESTLERSbATER POLOaHANDBALLaDIVING MASKaWI
LTED FLOWERaDRUM WITH DRUMSTICKSaCLINKING GLASSESaTUMBLER GLASSaSPOONaGOAL NETaRIFLEaFIRST PLACE M
EDALaSECOND PLACE MEDALaTHIRD PLACE MEDALaBOXING GLOVEaMARTIAL ARTS UNIFORMaCURLING STONEaLACROSS
E STICK AND BALLaSOFTBALLaFLYING DISCaCROISSANTaAVOCADOaCUCUMBERaBACONaPOTATOaCARROTaBAGUETTE BREA
DaGREEN SALADaSHALLOW PAN OF FOODbTUFFED FLATBREADaEGGaGLASS OF MILKaPEANUTSaKIWIFRUITaPANCAKESaDU
MPLINGaFORTUNE COOKIEaTAKEOUT BOXaCHOPSTICKSaBOWL WITH SPOONaCUP WITH STRAWbOCONUTaBROCCOLIaPIEbRE
TZELaCUT OF MEATaSANDWICHaCANNED FOODaLEAFY GREENaMANGObOON CAKEaBAGELaSMILING FACE WITH SMILING E
YES AND THREE HEARTSaYAWNING FACEaSMILING FACE WITH TEARaFACE WITH PARTY HORN AND PARTY HATkUNEVE
N EYES AND WAVY MOUTHaOVERHEATED FACEaFREEZING FACEaNINJAaDISGUISED FACEaFACE HOLDING BACK TEARSfW
ITH PLEADING EYESaSARIaLAB COATaGOGGLESaHIKING BOOTaFLAT SHOEaCRABaLION FACEaSCORPIONaTURKEYaUNICO
RN FACEaEAGLEaDUCKaBATaSHARKaOWLaFOX FACEaBUTTERFLYaDEERaGORILLAaLIZARDaRHINOCEROSaSHRIMPbQUIDaGIR
AFFE FACEaZEBRA FACEaHEDGEHOGaSAUROPODaT-REXaCRICKETaKANGAROOaLLAMAaPEACOCKaHIPPOPOTAMUSaPARROTaRA
CCOONaLOBSTERaMOSQUITObICROBEaBADGERaSWANaMAMMOTHaDODOaSLOTHaOTTERbRANGUTANaSKUNKaFLAMINGOaOYSTERa
BEAVERbISONaSEALaGUIDE DOGaPROBING CANEaEMOJI COMPONENT RED HAIRqCURLY HAIRqBALDqWHITE HAIRaBONEaL
EGaFOOTaTOOTHaSUPERHEROfVILLAINbAFETY VESTaEAR WITH HEARING AIDaMOTORIZED WHEELCHAIRbANUAL WHEELCH
AIRbECHANICAL ARMlLEGaCHEESE WEDGEbUPCAKEaSALT SHAKERaBEVERAGE BOXaGARLICaONIONaFALAFELaWAFFLEaBUT
TERaMATE DRINKaICE CUBEaBUBBLE TEAaTROLLaSTANDING PERSONaKNEELING PERSONaDEAF PERSONaFACE WITH MON
OCLEaADULTaCHILDaOLDER ADULTaBEARDED PERSONaPERSON WITH HEADSCARFhIN STEAMY ROOMhCLIMBINGhIN LOTU
S POSITIONaMAGEaFAIRYaVAMPIREaMERPERSONaELFaGENIEaZOMBIEaBRAINaORANGE HEARTaBILLED CAPaSCARFaGLOVE
SaCOATaSOCKSaRED GIFT ENVELOPEaFIRECRACKERaJIGSAW PUZZLE PIECEaTEST TUBEaPETRI DISHaDNA DOUBLE HEL
IXaCOMPASSaABACUSaFIRE EXTINGUISHERaTOOLBOXaBRICKaMAGNETaLUGGAGEbOTION BOTTLEaSPOOL OF THREADaBAL
L OF YARNaSAFETY PINaTEDDY BEARaBROOMbASKETaROLL OF PAPERaBAR OF SOAPaSPONGEaRECEIPTaNAZAR AMULETb
EUTRAL CHESS KINGoQUEENoROOKoBISHOPoKNIGHToPAWNaWHITE CHESS KNIGHT ROTATED FORTY-FIVE DEGREESaBLAC
K CHESS KNIGHT ROTATED FORTY-FIVE DEGREESaNEUTRAL CHESS KNIGHT ROTATED FORTY-FIVE DEGREESaWHITE CH
ESS KING ROTATED NINETY DEGREESmQUEEN ROTATED NINETY DEGREESmROOK ROTATED NINETY DEGREESmBISHOP RO
TATED NINETY DEGREESmKNIGHT ROTATED NINETY DEGREESmPAWN ROTATED NINETY DEGREESaBLACK CHESS KING RO
TATED NINETY DEGREESmQUEEN ROTATED NINETY DEGREESmROOK ROTATED NINETY DEGREESmBISHOP ROTATED NINET
Y DEGREESmKNIGHT ROTATED NINETY DEGREESmPAWN ROTATED NINETY DEGREESaNEUTRAL CHESS KING ROTATED NIN
ETY DEGREESoQUEEN ROTATED NINETY DEGREESoROOK ROTATED NINETY DEGREESoBISHOP ROTATED NINETY DEGREES
oKNIGHT ROTATED NINETY DEGREESoPAWN ROTATED NINETY DEGREESaWHITE CHESS KNIGHT ROTATED ONE HUNDRE
D THIRTY-FIVE DEGREESaBLACK CHESS KNIGHT ROTATED ONE HUNDRED THIRTY-FIVE DEGREESaNEUTRAL CHESS KNI
GHT ROTATED ONE HUNDRED THIRTY-FIVE DEGREESaWHITE CHESS TURNED KINGtQUEENtROOKtBISHOPtKNIGHTtPAWNa
BLACK CHESS TURNED KINGtQUEENtROOKtBISHOPtKNIGHTtPAWNaNEUTRAL CHESS TURNED KINGvQUEENvROOKvBISHOPv
KNIGHTvPAWNaWHITE CHESS KNIGHT ROTATED TWO HUNDRED TWENTY-FIVE DEGREESaBLACK CHESS KNIGHT ROTATE
D TWO HUNDRED TWENTY-FIVE DEGREESaNEUTRAL CHESS KNIGHT ROTATED TWO HUNDRED TWENTY-FIVE DEGREESaWHI
TE CHESS KING ROTATED TWO HUNDRED SEVENTY DEGREESmQUEEN ROTATED TWO HUNDRED SEVENTY DEGREESmROOK R
OTATED TWO HUNDRED SEVENTY DEGREESmBISHOP ROTATED TWO HUNDRED SEVENTY DEGREESmKNIGHT ROTATED TWO H
UNDRED SEVENTY DEGREESmPAWN ROTATED TWO HUNDRED SEVENTY DEGREESaBLACK CHESS KING ROTATED TWO HUNDR
ED SEVENTY DEGREESmQUEEN ROTATED TWO HUNDRED SEVENTY DEGREESmROOK ROTATED TWO HUNDRED SEVENTY DEGR
EESmBISHOP ROTATED TWO HUNDRED SEVENTY DEGREESmKNIGHT ROTATED TWO HUNDRED SEVENTY DEGREESmPAWN ROT
ATED TWO HUNDRED SEVENTY DEGREESaNEUTRAL CHESS KING ROTATED TWO HUNDRED SEVENTY DEGREESoQUEEN ROTA
TED TWO HUNDRED SEVENTY DEGREESoROOK ROTATED TWO HUNDRED SEVENTY DEGREESoBISHOP ROTATED TWO HUNDRE
D SEVENTY DEGREESoKNIGHT ROTATED TWO HUNDRED SEVENTY DEGREESoPAWN ROTATED TWO HUNDRED SEVENTY DEGR
EESaWHITE CHESS KNIGHT ROTATED THREE HUNDRED FIFTEEN DEGREESaBLACK CHESS KNIGHT ROTATED THREE HUND
RED FIFTEEN DEGREESaNEUTRAL CHESS KNIGHT ROTATED THREE HUNDRED FIFTEEN DEGREESaWHITE CHESS EQUIHOP
PERaBLACK CHESS EQUIHOPPERaNEUTRAL CHESS EQUIHOPPERaWHITE CHESS EQUIHOPPER ROTATED NINETY DEGREESa
BLACK CHESS EQUIHOPPER ROTATED NINETY DEGREESaNEUTRAL CHESS EQUIHOPPER ROTATED NINETY DEGREESaWHIT
E CHESS KNIGHT-QUEENtROOKtBISHOPaBLACK CHESS KNIGHT-QUEENtROOKtBISHOP@1FA60;aXIANGQI RED GENERALmM
ANDARINmELEPHANTmHORSEmCHARIOTnANNONmSOLDIERiBLACK GENERALoMANDARINoELEPHANToHORSEoCHARIOTpANNONoS
OLDIER@1FA70;aBALLET SHOESaONE-PIECE SWIMSUITaBRIEFSaSHORTSaTHONG SANDAL@1FA78;aDROP OF BLOODaADHE
SIVE BANDAGEaSTETHOSCOPEaX-RAYaCRUTCH@1FA80;aYO-YOaKITEaPARACHUTEaBOOMERANGaMAGIC WANDaPINATAaNEST
ING DOLLS@1FA90;aRINGED PLANETaCHAIRaRAZORaAXEaDIYA LAMPaBANJOaMILITARY HELMETaACCORDIONaLONG DRUM
aCOINbARPENTRY SAWaSCREWDRIVERaLADDERaHOOKaMIRRORaWINDOWaPLUNGERaSEWING NEEDLEaKNOTaBUCKETaMOUSE T
RAPaTOOTHBRUSHaHEADSTONEaPLACARDaROCKaMIRROR BALLaIDENTIFICATION CARDaLOW BATTERYaHAMSA@1FAB0;aFLY
aWORMaBEETLEaCOCKROACHaPOTTED PLANTaWOODaFEATHERaLOTUSaCORALaEMPTY NESTaNEST WITH EGGS@1FAC0;aANAT
OMICAL HEARTaLUNGSaPEOPLE HUGGINGbREGNANT MANjPERSONbERSON WITH CROWN@1FAD0;aBLUEBERRIESbELL PEPPE
RaOLIVEaFLATBREADaTAMALEaFONDUEaTEAPOTaPOURING LIQUIDaBEANSaJAR@1FAE0;aMELTING FACEaSALUTING FACEa
FACE WITH OPEN EYES AND HAND OVER MOUTHkPEEKING EYEkDIAGONAL MOUTHaDOTTED LINE FACEaBITING LIPbUBB
LES@1FAF0;aHAND WITH INDEX FINGER AND THUMB CROSSEDaRIGHTWARDS HANDaLEFTWARDS HANDaPALM DOWN HANDf
UP HANDaINDEX POINTING AT THE VIEWERaHEART HANDS@1FB00;aBLOCK SEXTANT-1o2o12o3o13o23o123o4o14o24o1
24o34o134o234o1234o5o15o25o125o35o235o1235o45o145o245o1245o345o1345o2345o12345o6o16o26o126o36o136o
236o1236o46o146p246o346o1346o2346o12346o56o156o256o1256o356o1356o2356o12356o456o1456o2456o12456o34
56o13456o23456aLOWER LEFT BLOCK DIAGONAL LOWER MIDDLE LEFT TO LOWER CENTRE~LEFT TO LOWER RIGHT!UPP
ER MIDDLE LEFT TO LOWER CENTRE~LEFT TO LOWER RIGHT.LEFT TO LOWER CENTREgRIGHT BLOCK DIAGONAL UPPE
R MIDDLE LEFT TO UPPER CENTRE~ LEFT TO UPPER RIGHT$LOWER MIDDLE LEFT TO UPPER CENTRE~ LEFT TO UPPE
R RIGHT<LEFT TO UPPER CENTRE<MIDDLE LEFT TO UPPER MIDDLE RIGHT<CENTRE TO LOWER MIDDLE RIGHT<LEFT T
O LOWER MIDDLE RIGHT<CENTRE TO UPPER MIDDLE RIGHT<LEFT TO UPPER MIDDLE RIGHT<CENTRE TO UPPER RIGHT
gLEFT BLOCK DIAGONAL UPPER CENTRE TO UPPER MIDDLE RIGHT.LEFT TO UPPER MIDDLE RIGHT.CENTRE TO LOWE
R MIDDLE RIGHT.LEFT TO LOWER MIDDLE RIGHT.CENTRE TO LOWER RIGHT.MIDDLE LEFT TO LOWER MIDDLE RIGHTa
UPPER RIGHT BLOCK DIAGONAL LOWER MIDDLE LEFT TO LOWER CENTRE~ LEFT TO LOWER RIGHT$UPPER MIDDLE LEF
T TO LOWER CENTRE~ LEFT TO LOWER RIGHT<LEFT TO LOWER CENTREgLEFT BLOCK DIAGONAL UPPER MIDDLE LEF
T TO UPPER CENTRE~LEFT TO UPPER RIGHT!LOWER MIDDLE LEFT TO UPPER CENTRE~LEFT TO UPPER RIGHT.LEFT T
O UPPER CENTRE.MIDDLE LEFT TO UPPER MIDDLE RIGHT.CENTRE TO LOWER MIDDLE RIGHT.LEFT TO LOWER MIDDL
E RIGHT.CENTRE TO UPPER MIDDLE RIGHT.LEFT TO UPPER MIDDLE RIGHT.CENTRE TO UPPER RIGHTgRIGHT BLOC
K DIAGONAL UPPER CENTRE TO UPPER MIDDLE RIGHT<LEFT TO UPPER MIDDLE RIGHT<CENTRE TO LOWER MIDDLE RI
GHT<LEFT TO LOWER MIDDLE RIGHT<CENTRE TO LOWER RIGHT<MIDDLE LEFT TO LOWER MIDDLE RIGHTgAND RIGHT A
ND LOWER TRIANGULAR THREE QUARTERS BLOCKaLEFT AND LOWER AND RIGHT TRIANGULAR THREE QUARTERS BLOCKa
UPPER AND LEFT AND LOWER TRIANGULAR THREE QUARTERS BLOCKaLEFT AND UPPER AND RIGHT TRIANGULAR THRE
E QUARTERS BLOCKfTRIANGULAR ONE QUARTER BLOCKaUPPER TRIANGULAR ONE QUARTER BLOCKaRIGHT TRIANGULA
R ONE QUARTER BLOCKaLOWER TRIANGULAR ONE QUARTER BLOCKaVERTICAL ONE EIGHTH BLOCK-2!3!4!5!6!7aHORIZ
ONTAL ONE EIGHTH BLOCK-2%3%4%5%6%7aLEFT AND LOWER ONE EIGHTH BLOCKjUPPER ONE EIGHTH BLOCKaRIGHT AN
D UPPER ONE EIGHTH BLOCKkLOWER ONE EIGHTH BLOCKaUPPER AND LOWER ONE EIGHTH BLOCKaHORIZONTAL ONE EI
GHTH BLOCK-1358aUPPER ONE QUARTER BLOCKgTHREE EIGHTHS BLOCKgFIVE EIGHTHS BLOCKgTHREE QUARTERS BLOC
KgSEVEN EIGHTHS BLOCKaRIGHT ONE QUARTER BLOCKgTHREE EIGHTHS BLOCKgFIVE EIGHTHS BLOCKgTHREE QUARTER
S BLOCKgSEVEN EIGHTHS BLOCKaLEFT HALF MEDIUM SHADEaRIGHT HALF MEDIUM SHADEaUPPER HALF MEDIUM SHADE
aLOWER HALF MEDIUM SHADEaINVERSE MEDIUM SHADEaUPPER HALF BLOCK AND LOWER HALF INVERSE MEDIUM SHADE
lINVERSE MEDIUM SHADE AND LOWER HALF BLOCK@1FB94;aLEFT HALF INVERSE MEDIUM SHADE AND RIGHT HALF BL
OCKaCHECKER BOARD FILLaINVERSE CHECKER BOARD FILLaHEAVY HORIZONTAL FILLaUPPER LEFT TO LOWER RIGH
T FILLgRIGHT TO LOWER LEFT FILLgAND LOWER TRIANGULAR HALF BLOCKaLEFT AND RIGHT TRIANGULAR HALF BLO
CKaUPPER LEFT TRIANGULAR MEDIUM SHADEgRIGHT TRIANGULAR MEDIUM SHADEaLOWER RIGHT TRIANGULAR MEDIU
M SHADEgLEFT TRIANGULAR MEDIUM SHADEaBOX DRAWINGS LIGHT DIAGONAL UPPER CENTRE TO MIDDLE LEFT~E T
O MIDDLE RIGHT%MIDDLE LEFT TO LOWER CENTRE?RIGHT TO LOWER CENTRE%UPPER CENTRE TO MIDDLE LEFT TO LO
WER CENTRE~E TO MIDDLE RIGHT TO LOWER CENTRE%MIDDLE LEFT TO LOWER CENTRE TO MIDDLE RIGHT~ TO UPPE
R CENTRE TO MIDDLE RIGHT%UPPER CENTRE TO MIDDLE LEFT AND MIDDLE RIGHT TO LOWER CENTRE~E TO MIDDL
E RIGHT AND MIDDLE LEFT TO LOWER CENTRE~E TO MIDDLE RIGHT TO LOWER CENTRE TO MIDDLE LEFT~E TO MIDD
LE LEFT TO LOWER CENTRE TO MIDDLE RIGHT%MIDDLE LEFT TO UPPER CENTRE TO MIDDLE RIGHT TO LOWER CENTR
E?RIGHT TO UPPER CENTRE TO MIDDLE LEFT TO LOWER CENTRE%DIAMONDtHORIZONTAL WITH VERTICAL STROKEaARR
OWHEAD-SHAPED POINTERaINVERSE CHECK MARKaLEFT HALF RUNNING MANaRIGHT HALF RUNNING MANaINVERSE DOWN
WARDS ARROW WITH TIP LEFTWARDSaLEFTWARDS ARROW AND UPPER AND LOWER ONE EIGHTH BLOCKaRIGHTWARDS ARR
OW AND UPPER AND LOWER ONE EIGHTH BLOCKaDOWNWARDS ARROW AND RIGHT ONE EIGHTH BLOCKaUPWARDS ARROW A
ND RIGHT ONE EIGHTH BLOCKaLEFT HALF FOLDERaRIGHT HALF FOLDERaVOIDED GREEK CROSSaRIGHT OPEN SQUARE
D DOTaNEGATIVE DIAGONAL CROSSsMIDDLE RIGHT TO LOWER CENTREsDIAMONDaWHITE HEAVY SALTIRE WITH ROUNDE
D CORNERSaLEFT THIRD WHITE RIGHT POINTING INDEXaMIDDLE THIRD WHITE RIGHT POINTING INDEXaRIGHT THIR
D WHITE RIGHT POINTING INDEXaNEGATIVE SQUARED QUESTION MARKaSTICK FIGUREm WITH ARMS RAISEDnLEANIN
G LEFTvRIGHTnWITH DRESSaWHITE UP-POINTING CHEVRON@1FBF0;aSEGMENTED DIGIT ZEROqONEqTWOrHREEqFOURrIV
EqSIXrEVENqEIGHTqNINE@E0001;aLANGUAGE TAG@E0020;aTAG SPACEeEXCLAMATION MARKeQUOTATION MARKeNUMBE
R SIGNeDOLLAR SIGNePERCENT SIGNeAMPERSANDfPOSTROPHEeLEFT PARENTHESISeRIGHT PARENTHESISeASTERISKePL
US SIGNeCOMMAeHYPHEN-MINUSeFULL STOPeSOLIDUSeDIGIT ZEROkONEkTWOlHREEkFOURlIVEkSIXlEVENkEIGHTkNINEe
COLONeSEMICOLONeLESS-THAN SIGNeEQUALS SIGNeGREATER-THAN SIGNeQUESTION MARKeCOMMERCIAL ATeLATIN CAP
ITAL LETTER AzBzCzDzEzFzGzHzIzJzKzLzMzNzOzPzQzRzSzTzUzVzWzXzYzZfEFT SQUARE BRACKETeREVERSE SOLIDUS
fIGHT SQUARE BRACKETeCIRCUMFLEX ACCENTeLOW LINEeGRAVE ACCENTeLATIN SMALL LETTER AxBxCxDxExFxGxHxIx
JxKxLxMxNxOxPxQxRxSxTxUxVxWxXxYxZfEFT CURLY BRACKETeVERTICAL LINEeRIGHT CURLY BRACKETeTILDEaCANCE
L TAG@E0100;aVARIATION SELECTOR-17u8u9t20u1u2u3u4u5u6u7u8u9t30u1u2u3u4u5u6u7u8u9t40u1u2u3u4u5u6u7u
8u9t50u1u2u3u4u5u6u7u8u9t60u1u2u3u4u5u6u7u8u9t70u1u2u3u4u5u6u7u8u9t80u1u2u3u4u5u6u7u8u9t90u1u2u3u4
u5u6u7u8u9t100v1v2v3v4v5v6v7v8v9u10v1v2v3v4v5v6v7v8v9u20v1v2v3v4v5v6v7v8v9u30v1v2v3v4v5v6v7v8v9u40
v1v2v3v4v5v6v7v8v9u50v1v2v3v4v5v6v7v8v9u60v1v2v3v4v5v6v7v8v9u70v1v2v3v4v5v6v7v8v9u80v1v2v3v4v5v6v7
v8v9u90v1v2v3v4v5v6v7v8v9t200v1v2v3v4v5v6v7v8v9u10v1v2v3v4v5v6v7v8v9u20v1v2v3v4v5v6v7v8v9u30v1v2v3
v4v5v6v7v8v9u40v1v2v3v4v5v6v7v8v9u50v1v2v3v4v5v6
"

end TargetedConfig.Text.Name
