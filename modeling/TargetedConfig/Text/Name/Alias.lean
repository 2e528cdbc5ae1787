/-! # Other names of characters -/

namespace TargetedConfig.Text.Name

/-- Names of controls, abbreviations, and corrected names beside misspelt ones. -/
def aliases : String := "
@0;aNULL@0;daSTART OF HEADING@1;bOHbTART OF TEXT@2;cXaEND OF TEXT@3;bTXbND OF TRANSMISSION@4;bOTbN
QUIRY@5;daACKNOWLEDGE@6;dbLERT@7;aBELbACKSPACE@8;bSaCHARACTER TABULATION@9;aHORIZONTAL TABULATION@
9;bT@9;aTABaLINE FEED@A;aNEW LINE@A;aEND OF LINE@A;bOL@A;aLF@A;aNLaLINE TABULATION@B;aVERTICAL TAB
ULATION@B;bTaFORM FEED@C;bFaCARRIAGE RETURN@D;bRaSHIFT OUT@E;aLOCKING-SHIFT ONE@E;aSObHIFT IN@F;aL
OCKING-SHIFT ZERO@F;aSIaDATA LINK ESCAPE@10;bLEbEVICE CONTROL ONE@11;bC1bEVICE CONTROL TWO@12;bC2b
EVICE CONTROL THREE@13;bC3bEVICE CONTROL FOUR@14;bC4aNEGATIVE ACKNOWLEDGE@15;bAKaSYNCHRONOUS IDLE@
16;daEND OF TRANSMISSION BLOCK@17;bTBaCANCEL@18;daEND OF MEDIUM@19;bOMaSUBSTITUTE@1A;daESCAPE@1B;d
aINFORMATION SEPARATOR FOUR@1C;aFILE SEPARATOR@1C;bSaINFORMATION SEPARATOR THREE@1D;aGROUP SEPARAT
OR@1D;bSaINFORMATION SEPARATOR TWO@1E;aRECORD SEPARATOR@1E;bSaINFORMATION SEPARATOR ONE@1F;aUNIT S
EPARATOR@1F;bSaSP@7F;aDELETE@7F;daPADDING CHARACTER@80;daHIGH OCTET PRESET@81;bOPaBREAK PERMITTE
D HERE@82;bPHaNO BREAK HERE@83;bBHaINDEX@84;daNEXT LINE@85;cLaSTART OF SELECTED AREA@86;bSAaEND O
F SELECTED AREA@87;bSAaCHARACTER TABULATION SET@88;aHORIZONTAL TABULATION SET@88;bTSaCHARACTER TAB
ULATION WITH JUSTIFICATION@89;aHORIZONTAL TABULATION WITH JUSTIFICATION@89;bTJaLINE TABULATION SET
@8A;aVERTICAL TABULATION SET@8A;bTSaPARTIAL LINE FORWARD@8B;nDOWN@8B;bLDbARTIAL LINE BACKWARD@8C;n
UP@8C;bLUaREVERSE LINE FEED@8D;iINDEX@8D;bIaSINGLE SHIFT TWO@8E;g-SHIFT-2@8E;bS2bINGLE SHIFT THREE
@8F;g-SHIFT-3@8F;bS3aDEVICE CONTROL STRING@90;bCSaPRIVATE USE ONE@91;l-1@91;bU1bRIVATE USE TWO@92;
l-2@92;bU2aSET TRANSMIT STATE@93;bTSaCANCEL CHARACTER@94;bCHaMESSAGE WAITING@95;bWaSTART OF GUARDE
D AREA@96;jPROTECTED AREA@96;bPAaEND OF GUARDED AREA@97;hPROTECTED AREA@97;bPAaSTART OF STRING@98;
bOSbINGLE GRAPHIC CHARACTER INTRODUCER@99;bGCbINGLE CHARACTER INTRODUCER@9A;bCIaCONTROL SEQUENCE I
NTRODUCER@9B;bSIaSTRING TERMINATOR@9C;caOPERATING SYSTEM COMMAND@9D;bSCaPRIVACY MESSAGE@9E;bMaAPPL
ICATION PROGRAM COMMAND@9F;cCaNBSP@AD;aSHY@1A2;aLATIN CAPITAL LETTER GHAgSMALL LETTER GHA@34F;aCGJ
@61C;aALM@709;aSYRIAC SUBLINEAR COLON SKEWED LEFT@CDE;aKANNADA LETTER LLLA@E9D;aLAO LETTER FO FON@
E9F;pAY@EA3;lRO@EA5;lLO@FD0;aTIBETAN MARK BKA- SHOG GI MGO RGYAN@11EC;aHANGUL JONGSEONG YESIEUNG-K
IYEOK!SSANGKIYEOKrSSANGYESIEUNGrYESIEUNG-KHIEUKH@180B;aFVS1d2d3aMVSaFVS4@200B;aZWSPcNJcJaLRMaRLM@2
02A;aLREaRLEaPDFaLROaRLOaNNBSP@205F;aMMSPaWJ@2066;aLRIaRLIaFSIaPDI@2118;aWEIERSTRASS ELLIPTIC FUNC
TION@2448;aMICR ON US SYMBOLfDASH SYMBOL@2B7A;aLEFTWARDS TRIANGLE-HEADED ARROW WITH DOUBLE VERTICA
L STROKE@2B7C;aRIGHTWARDS TRIANGLE-HEADED ARROW WITH DOUBLE VERTICAL STROKE@A015;aYI SYLLABLE ITER
ATION MARK@AA6E;aMYANMAR LETTER KHAMTI LLA@FE18;aPRESENTATION FORM FOR VERTICAL RIGHT WHITE LENTIC
ULAR BRACKET@FEFF;aBYTE ORDER MARK@FEFF;bOM@FEFF;aZWNBSP@122D4;aCUNEIFORM SIGN NU11 TENUuOVER NU1
1 BUR OVER BUR@16E56;aMEDEFAIDRIN CAPITAL LETTER H$NG@16E76;mSMALL LETTER HzNG@1B001;aHENTAIGANA L
ETTER E-1@1D0C5;aBYZANTINE MUSICAL SYMBOL FTHORA SKLIRON CHROMA VASIS@FE00;aVS1c2c3c4c5c6c7c8c9c10
d1d2d3d4d5d6@E0100;d7d8d9c20d1d2d3d4d5d6d7d8d9c30d1d2d3d4d5d6d7d8d9c40d1d2d3d4d5d6d7d8d9c50d1d2d3d
4d5d6d7d8d9c60d1d2d3d4d5d6d7d8d9c70d1d2d3d4d5d6d7d8d9c80d1d2d3d4d5d6d7d8d9c90d1d2d3d4d5d6d7d8d9c10
0e1e2e3e4e5e6e7e8e9d10e1e2e3e4e5e6e7e8e9d20e1e2e3e4e5e6e7e8e9d30e1e2e3e4e5e6e7e8e9d40e1e2e3e4e5e6e
7e8e9d50e1e2e3e4e5e6e7e8e9d60e1e2e3e4e5e6e7e8e9d70e1e2e3e4e5e6e7e8e9d80e1e2e3e4e5e6e7e8e9d90e1e2e3
e4e5e6e7e8e9c200e1e2e3e4e5e6e7e8e9d10e1e2e3e4e5e6e7e8e9d20e1e2e3e4e5e6e7e8e9d30e1e2e3e4e5e6e7e8e9d
40e1e2e3e4e5e6e7e8e9d50e1e2e3e4e5e6
"

end TargetedConfig.Text.Name
