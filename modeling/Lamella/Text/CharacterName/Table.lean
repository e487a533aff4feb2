/-!
# The names of characters

Every character that has a name of its own, by all of its names, in the order of the alphabet. A
name is written after small letters that say how many characters it shares with the name before it,
`a` for none, `b` for one and so on; several small letters are added up. The underscore stands for a
space, and blanks do not count.
-/

namespace Lamella.Text

/-- The first part of the names. -/
def firstNames : String := "aABACUSbCCORDIONeUNT_OFcKdNOWLEDGEcTIVATE_ARABIC_FORM_SHAPINGjSYMMETRIC_
  SWAPPINGcUTE_ACCENThNGLEc_CURRENTbDDRESSED_TO_THE_SUBJECTcHESIVE_BANDAGEcI_SHAKTIcLAM_ALIF_LENGTHE
  NERgCAPITAL_LETTER_ALIFvBAwHEvCHIvDAALIwHAvEvFAvGAwBEvHAvIvJIIMvKAFwHAwPOvLAAMvMIIMvNHAwUNwYAvOvPE
  vQAAFvRAvSHAwINNYIIYHEvTUvUvVAvWAWvYAwHEvZALhONSONANT_MODIFIERgDIGIT_EIGHTmFIVEnOURmNINEmONEmSEVEN
  nIXmTHREEnWOmZEROgGEMINATE_CONSONANT_MODIFIERnION_MARKgHAMZAgINITIAL_EXCLAMATION_MARKoQUESTION_MAR
  KgNASALIZATION_MARKhUKTAgSMALL_LETTER_ALIFtBAuHEtCHItDAALIuHAtEtFAtGAuBEtHAtItJIIMtKAFuHAuPOtLAAMt
  MIIMtNHAuUNuYAtOtPEtQAAFtRAtSHAuINNYIIYHEtTUtUtVAtWAWtYAuHEtZALgVOWEL_LENGTHENERcMETOSdISSION_TICK
  ETScULTbEGEAN_CHECK_MARKhDRY_MEASURE_FIRST_SUBUNIThLIQUID_MEASURE_FIRST_SUBUNIThMEASURE_SECOND_SUB
  UNITpTHIRD_SUBUNIThNUMBER_EIGHTtYu_THOUSANDt_HUNDREDuTHOUSANDoFIFTYt_THOUSANDqVEs_HUNDREDtTHOUSAND
  pORTYt_THOUSANDqURs_HUNDREDtTHOUSANDoNINEsTYu_THOUSANDs_HUNDREDtTHOUSANDoONEr_HUNDREDsTHOUSANDoSEV
  ENtTYv_THOUSANDt_HUNDREDuTHOUSANDpIXrTYt_THOUSANDr_HUNDREDsTHOUSANDoTENr_THOUSANDpHIRTYu_THOUSANDq
  REEt_HUNDREDuTHOUSANDpWENTYu_THOUSANDqOr_HUNDREDsTHOUSANDhWEIGHT_BASE_UNIToFIRST_SUBUNITpOURTH_SUB
  UNIToSECOND_SUBUNIToTHIRD_SUBUNITiORD_SEPARATOR_DOTwLINEcRIAL_TRAMWAYbFGHANI_SIGNbHOM_CONSONANT_SI
  GN_MEDIAL_LAzdIGATING_RAzcRAfDIGIT_EIGHTlFIVEmOURlNINElONElSEVENmIXlTHREEmWOlZEROfLETTER_AnLTERNAT
  E_BAwGAwTAmBAnHAmCAnHAmDAnDAoHAnHAmGAnHAmHAmJAnHAmKAnHAmLAnLAmMAmNAnGAnNAnYAmPAnHAmRAmSAmTAnHAnTAo
  HAfNUMBER_TENnWENTYfSIGN_KILLERkRULAIkSECTIONlMALL_SECTIONgYMBOL_VIfVOWEL_SIGN_ArArIrMrWqEqIrIqOqU
  rUbIRPLANEi_ARRIVINGjDEPARTUREbKTIESELSKABbLARM_CLOCKcCHEMICAL_SYMBOL_FOR_AIRxLEMBICyKALIzd-2yUMxM
  ALGAMxNTIMONY_ORExQUAFORTISzb_REGIAzh-2zcVITAEzh-2xRSENICxSHESxURIPIGMENTwBATH_OF_MARYzfVAPOURSxIS
  MUTH_ORExLACK_SULFURxORAXzc-2zd3xRICKwCADUCEUSyLXyPUT_MORTUUMxINNABARxOPPER_ANTIMONIATEzeORExROCUS
  _OF_COPPERzn-2zhIRONyUCIBLEzf-2zg3zg4zg5wDAY-NIGHTxISSOLVEzf-2zTILLwEARTHwFIREwGOLDxUMwHALF_DRAMzc
  OUNCExORSE_DUNGyURwIRON-COPPER_OREzb_OREzf-2wLEAD_ORExODESTONEwMARCASITExERCURY_SUBLIMATEzo-2zp3xO
  NTHwNIGHTyTREwOILwPHILOSOPHERS_SULFURxOT_ASHESyWDERzdED_BRICKxRECIPITATExURIFYyTREFACTIONwQUICK_LI
  MEzNTESSENCEwREALGARze-2yGULUSze-2zf3zf4ze_OF_ANTIMONYzq-2ziIRONyTORTxOCK_SALTzg-2wSAL-AMMONIACzTz
  b_OF_ANTIMONYzfCOPPER_ANTIMONIATExCEPTER_OF_JOVExILVERxOAPxPIRITxTARRED_TRIDENTyRATUM_SUPER_STRATU
  Mzs-2xUBLIMATE_OF_ANTIMONYzkCOPPERzkSALT_OF_ANTIMONYzsCOPPERzfIONyLFURwTARTARzd-2xINCTUREz_ORExRID
  ENTxUTTYwURINEwVERDIGRISxINEGARze-2zf3ze_OF_ANTIMONYyTRIOLze-2wWATERyXcEF_SYMBOLdMBICdRTcIEN_MONST
  ERcL_AROUND-PROFILEeEQUAL_TOcMdOST_EQUAL_OR_EQUAL_TOnTOp_WITH_CIRCUMFLEX_ACCENTcTERNATE_ONE-WAY_LE
  FT_WAY_TRAFFICiIVE_KEY_SYMBOLbMALGAMATION_OR_COPRODUCTcBULANCEcERICAN_FOOTBALLcPERSANDdHORAbNATOLI
  AN_HIEROGLYPH_A001y2y3y4y5y6y7y8y9x10zAy1y2y3y4y5y6y7y8y9x20y1y2y3y4y5y6zAy7y8y9x30y1y2y3y4y5y6y7y
  8y9zAx40y1zAy2y3y4y5zAy6zAzBy7y8y9x50y1y2y3y4y5y6y7y8y9x60y1y2y3y4y5y6zAzBzCy7y8y9x70y1y2y3y4y5y6y
  7y8y9x80y1y2y3y4y5y6y7y8y9x90y1y2y3y4y5y6y7zAy8zAy9w100zAy1zAy2zAy3y4zAzBzCy5zAzBy6y7zAzBzCy8y9x10
  zAzBy1y2y3y4y5zAy6y7y8y9x20y1y2y3y4y5zAy6y7y8y9x30y1y2y3y4y5zAy6y7y8y9x40y1y2y3y4y5y6y7y8y9x50y1y2
  y3y4y5y6y7y8y9x60y1y2y3y4y5y6y7y8y9x70y1y2y3y4y5y6y7y8y9x80y1y2y3y4y5y6y7y8y9x90y1y2y3y4y5y6y7y8y9
  w200y1y2zAzBy3y4y5y6y7zAy8y9zAx10y1y2y3y4y5zAy6zAy7y8y9x20y1y2y3y4y5y6y7zAy8y9x30y1y2y3y4y5y6y7y8y
  9x40y1y2y3y4y5y6y7y8y9x50y1y2y3y4y5y6y7y8y9x60y1y2y3y4y5y6y7zAy8y9x70y1y2y3y4y5y6y7y8y9x80y1y2y3y4
  y5y6y7y8y9zAx90y1y2y3y4zAy5y6y7y8y9zAw300y1y2y3y4y5y6y7y8y9zAx10y1y2y3y4y5y6y7y8y9x20y1y2y3y4y5y6y
  7y8y9zAx30y1y2AzBzCy3y4y5y6zAzBzCy7y8y9x40y1y2y3y4y5y6y7y8y9x50y1y2y3y4y5y6y7y8y9zAx60y1y2y3y4zAy5
  y6y7y8zAy9x70y1zAy2y3y4y5y6y7y8y9x80y1zAy2y3Az_RA_OR_RIy4y5y6zAy7y8y9x90y1y2y3_EIGHTy4y5y6y7y8y9w4
  00y1y2y3y4y5y6y7y8y9x10A_END_LOGOGRAM_MARKz_BEGIN_LOGOGRAM_MARKy1y2y3y4y5y6y7y8y9x20y1y2y3y4y5y6y7
  y8y9x30y1y2y3y4y5y6y7y8y9x40y1y2y3y4y5y6y7y8y9x50zAy1y2y3y4y5y6y7zAy8y9x60y1y2y3y4y5y6y7y8y9x70y1y
  2y3y4y5y6y7y8y9x80y1y2y3y4y5y6y7y8y9x90y1y2y3y4y5y6y7w501y2y3y4y5y6y7y8y9x10y1y2y3y4y5y6y7y8y9x20y
  1y2y3y4y5y6y7y8y9x30fMICAL_HEARTcCHORcD_WITH_DOTcGER_SYMBOLdLEf_WITH_S_INSIDElUNDERBARdRY_FACEdSTR
  OM_SIGNdUISHED_FACEcKHcTdENNA_WITH_BARSdICLOCKWISE_CLOSED_CIRCLE_ARROWpONTOUR_INTEGRALoDOWNWARDS_A
  ND_UPWARDS_OPEN_CIRCLE_ARROWSoGAPPED_CIRCLE_ARROWoINTEGRATIONoOPEN_CIRCLE_ARROWoTOP_SEMICIRCLE_ARR
  OWpRIANGLE-HEADED_BOTTOM_U-SHAPED_ARROWzfLEFT_U-SHAPED_ARROWzfOPEN_CIRCLE_ARROWzfRIGHT_U-SHAPED_AR
  ROWzfTOP_U-SHAPED_ARROWbPCcL_FUNCTIONAL_SYMBOL_ALPHAzc_UNDERBARwBACKSLASH_BARwCIRCLE_BACKSLASHzeDI
  AERESISzeJOTzeSTARzgILEzeUNDERBARxOMMA_BARwDELTA_STILEzdUNDERBARz_DIAERESISzbSTILEzbTILDExIAMOND_U
  NDERBARxOWNWARDS_VANEzb_CARET_TILDEzcSHOE_STILEzcTACK_JOTzhUNDERBARwEPSILON_UNDERBARwGREATER-THAN_
  DIAERESISwI-BEAMxOTAzb_UNDERBARwJOT_DIAERESISzbUNDERBARwLEFTWARDS_VANEzb_SHOE_STILEwOMEGAzc_UNDERB
  ARwQUADzb_BACKSLASHzcCIRCLEzdOLONzcDELzfTAzdIAMONDzeVIDEzdOWNWARDS_ARROWzg_CARETzcEQUALzcGREATER-T
  HANzcJOTzcLEFTWARDS_ARROWzeSS-THANzcNOT_EQUALzcQUESTIONzcRIGHTWARDS_ARROWzcSLASHzcUPWARDS_ARROWze_
  CARETyOTE_QUADzdUNDERBARwRHOxIGHTWARDS_VANEwSEMICOLON_UNDERBARxLASH_BARxQUISH_QUADxTAR_DIAERESISyI
  LE_TILDEwTILDE_DIAERESISwUPWARDS_VANEy_CARET_TILDEzSHOE_JOTzTACK_DIAERESISzfJOTzfOVERBARwZILDEcOLL
  ONdSTROPHEcPLICATION_PROGRAM_COMMANDdROACHES_THE_LIMITfXIMATELY_BUT_NOT_ACTUALLY_EQUAL_TOoEQUAL_OR
  _EQUAL_TOuTOw_OR_THE_IMAGE_OFbQUARIUSbRABIC-INDIC_CUBE_ROOTnDIGIT_EIGHTtFIVEuOURtNINEtONEtSEVENuIX
  tTHREEuWOtZEROnFOURTH_ROOTnPER_MILLE_SIGNrTEN_THOUSAND_SIGNg_BASELINE_ROUND_DOThCOMMAiURLY_DAMMAsT
  ANnFATHAsTANnKASRAsTANhDAMMAmTANp_ISOLATED_FORMm_ISOLATED_FORMnMEDIAL_FORMnWITH_DOTjTE_SEPARATORiE
  CIMAL_SEPARATORiISPUTED_END_OF_AYAHiOUBLED_MADDAn_RIGHT_ARROWHEAD_ABOVEzk_WITH_DOThEMPTY_CENTRE_HI
  GH_STOPuLOW_STOPiND_OF_AYAHoTEXT_MARKhFATHAmTANp_ISOLATED_FORMm_ISOLATED_FORMnMEDIAL_FORMnWITH_DOT
  _ABOVEsRINGsTWO_DOTSiIVE_POINTED_STARiOOTNOTE_MARKERiULL_STOPhHALF_MADDA_OVER_MADDAjMZA_ABOVEnBELO
  WhINVERTED_DAMMAhKASRAmTANp_ISOLATED_FORMm_ISOLATED_FORMnMEDIAL_FORMnWITH_DOT_BELOWhLARGE_CIRCLE_B
  ELOWnROUND_DOT_ABOVExBELOWxINSIDE_CIRCLE_BELOWiEFT_ARROWHEAD_ABOVEwBELOWjTTER_AEpFRICAN_FEHwNOONwQ
  AFz_WITH_THREE_DOTS_ABOVEpINr_FINAL_FORMsINITIAL_FORMtSOLATED_FORMsMEDIAL_FORMsWITH_THREE_DOTS_ABO
  VEzjBELOWzjPOINTING_DOWNWARDS_ABOVEyWO_DOTS_ABOVEzhVERTICALLY_ABOVEpLEFs_FINAL_FORMtISOLATED_FORMt
  MAKSURAzb_FINAL_FORMzcISOLATED_FORMtWASLAy_FINAL_FORMzISOLATED_FORMuITH_ATTACHED_BOTTOM_RIGHT_KASR
  Azzb_AND_DOT_ABOVEzzgLEFT_RINGziFATHAziKASRAziLEFT_HAMZAznROUND_DOTziRIGHT_HAMZAzoROUND_DOTzjOUND_
  DOT_ABOVEzsBELOWziTOP_RIGHT_FATHAzx_AND_DOT_ABOVEzzdLEFT_RINGyDOT_ABOVEyEXTENDED_ARABIC-INDIC_DIGI
  T_THREE_ABOVEzzdWO_ABOVEyHAMZA_ABOVEzk_FINAL_FORMzlISOLATED_FORMzfBELOWzk_FINAL_FORMzlISOLATED_FOR
  MyLEFT_MIDDLE_STROKEyMADDA_ABOVEzk_FINAL_FORMzlISOLATED_FORMyRIGHT_MIDDLE_STROKEzs_AND_DOT_ABOVEzx
  LEFT_RINGyWAVY_HAMZA_ABOVEzkBELOWoBEEHs_FINAL_FORMtINITIAL_FORMuSOLATED_FORMtMEDIAL_FORMqHrEHt_FIN
  AL_FORMuINITIAL_FORMvSOLATED_FORMuMEDIAL_FORMr_FINAL_FORMsINITIAL_FORMtSOLATED_FORMsMEDIAL_FORMsWI
  TH_DOT_BELOW_AND_THREE_DOTS_ABOVExHAMZA_ABOVExINVERTED_SMALL_V_BELOWxSMALL_MEEM_ABOVEzeVzf_BELOWxT
  HREE_DOTS_HORIZONTALLY_BELOWzjPOINTING_UPWARDS_BELOWzzg_AND_TWO_DOTS_ABOVEyWO_DOTS_BELOW_AND_DOT_A
  BOVEoDADr_FINAL_FORMsINITIAL_FORMtSOLATED_FORMsMEDIAL_FORMsWITH_DOT_BELOWqHALt_FINAL_FORMuISOLATED
  _FORMqLr_FINAL_FORMsISOLATED_FORMsWITH_DOT_BELOWzh_AND_SMALL_TAHxFOUR_DOTS_ABOVExINVERTED_SMALL_V_
  BELOWzhVxRINGxTHREE_DOTS_ABOVE_DOWNWARDSzjBELOWyWO_DOTS_VERTICALLY_BELOW_AND_SMALL_TAHpDAHALu_FINA
  L_FORMvISOLATED_FORMrLs_FINAL_FORMtISOLATED_FORMpOTLESS_BEHwFEHwQAFpULr_FINAL_FORMsISOLATED_FORMpY
  EHs_FINAL_FORMtINITIAL_FORMuSOLATED_FORMtMEDIAL_FORMoEp_FINAL_FORMqINITIAL_FORMrSOLATED_FORMqMEDIA
  L_FORMoFARSI_YEHx_FINAL_FORMyINITIAL_FORMzSOLATED_FORMyMEDIAL_FORMyWITH_EXTENDED_ARABIC-INDIC_DIGI
  T_FOUR_BELOWzzhTHREE_ABOVEzziWO_ABOVEzeINVERTED_VzeTHREE_DOTS_ABOVEzfWO_DOTS_ABOVEpEHr_FINAL_FORMs
  INITIAL_FORMtSOLATED_FORMsMEDIAL_FORMsWITH_DOT_BELOWzh_AND_THREE_DOTS_ABOVEzcMOVED_BELOWxTHREE_DOT
  S_BELOWzjPOINTING_UPWARDS_BELOWyWO_DOTS_BELOWoGAFr_FINAL_FORMsINITIAL_FORMtSOLATED_FORMsMEDIAL_FOR
  MsWITH_INVERTED_STROKExRINGxTHREE_DOTS_ABOVEyWO_DOTS_BELOWpHAINt_FINAL_FORMuINITIAL_FORMvSOLATED_F
  ORMuMEDIAL_FORMuWITH_DOT_BELOWzTHREE_DOTS_ABOVEpRAFpUEHs_FINAL_FORMtINITIAL_FORMuSOLATED_FORMtMEDI
  AL_FORMoHAHr_FINAL_FORMsINITIAL_FORMtSOLATED_FORMsMEDIAL_FORMsWITH_EXTENDED_ARABIC-INDIC_DIGIT_FOU
  R_BELOWxHAMZA_ABOVExINVERTED_SMALL_V_BELOWxSMALL_ARABIC_LETTER_TAH_ABOVEzxND_TWO_DOTSzwBELOWxTHREE
  _DOTS_ABOVEzjPOINTING_UPWARDS_BELOWyWO_DOTS_ABOVEzhVERTICAL_ABOVEqMZAt_ISOLATED_FORMpEHr_DOACHASHM
  EEze_FINAL_FORMzfINITIAL_FORMzgSOLATED_FORMzfMEDIAL_FORMsFINAL_FORMsGOALw_FINAL_FORMxINITIAL_FORMy
  SOLATED_FORMxMEDIAL_FORMxWITH_HAMZA_ABOVEsINITIAL_FORMtSOLATED_FORMsMEDIAL_FORMsWITH_INVERTED_VxYE
  H_ABOVEzh_FINAL_FORMziISOLATED_FORMpIGH_HAMZAy_ALEFzWAWzYEHoJEEMs_FINAL_FORMtINITIAL_FORMuSOLATED_
  FORMtMEDIAL_FORMtWITH_THREE_DOTS_ABOVEzkBELOWzWO_DOTS_ABOVEqHr_FINAL_FORMsISOLATED_FORMoKAFr_FINAL
  _FORMsINITIAL_FORMtSOLATED_FORMsMEDIAL_FORMsWITH_DOT_ABOVEzcBELOWxRINGxTHREE_DOTS_BELOWyWO_DOTS_AB
  OVEqSHMIRI_YEHpEHEHt_FINAL_FORMuINITIAL_FORMvSOLATED_FORMuMEDIAL_FORMuWITH_DOT_ABOVEzSMALL_VzTHREE
  _DOTS_ABOVEzlBELOWzlPOINTING_UPWARDS_BELOWzbWO_DOTS_ABOVEzjVERTICALLY_BELOWpHAHs_FINAL_FORMtINITIA
  L_FORMuSOLATED_FORMtMEDIAL_FORMpIRGHIZ_OEy_FINAL_FORMzISOLATED_FORMwYUy_FINAL_FORMzISOLATED_FORMoL
  AMr_FINAL_FORMsINITIAL_FORMtSOLATED_FORMsMEDIAL_FORMsWITH_BARxDOT_ABOVEzUBLE_BARxSMALL_ARABIC_LETT
  ER_TAH_ABOVEzeVxTHREE_DOTS_ABOVEzjBELOWpOW_ALEFoMARKpEEMs_FINAL_FORMtINITIAL_FORMuSOLATED_FORMtMED
  IAL_FORMtWITH_DOT_ABOVEzdBELOWyTHREE_DOTS_ABOVEoNGqOEHt_FINAL_FORMuINITIAL_FORMvSOLATED_FORMuMEDIA
  L_FORMq_FINAL_FORMrINITIAL_FORMsSOLATED_FORMrMEDIAL_FORMpOONs_FINAL_FORMtGHUNNAz_FINAL_FORMzbISOLA
  TED_FORMtINITIAL_FORMuSOLATED_FORMtMEDIAL_FORMtWITH_DOT_BELOWyINVERTED_SMALL_VyRINGySMALL_TAHzfVyT
  HREE_DOTS_ABOVEzWO_DOTS_BELOWpYEHs_FINAL_FORMtINITIAL_FORMuSOLATED_FORMtMEDIAL_FORMoOEq_FINAL_FORM
  rISOLATED_FORMoPEHrEHt_FINAL_FORMuINITIAL_FORMvSOLATED_FORMuMEDIAL_FORMr_FINAL_FORMsINITIAL_FORMtS
  OLATED_FORMsMEDIAL_FORMsWITH_SMALL_MEEM_ABOVEzeVoQAFr_FINAL_FORMsINITIAL_FORMtSOLATED_FORMsMEDIAL_
  FORMsWITH_DOT_ABOVEzcBELOWzh_AND_NO_DOTS_ABOVExTHREE_DOTS_ABOVEoREHr_FINAL_FORMsISOLATED_FORMsWITH
  _DOT_BELOWzh_AND_DOT_ABOVExFOUR_DOTS_ABOVExHAMZA_ABOVExINVERTED_VxLOOPxRINGxSMALL_ARABIC_LETTER_TA
  H_AND_TWO_DOTSzeNOON_ABOVEzeVzf_BELOWyTROKExTWO_DOTS_ABOVEzhVERTICALLY_ABOVEpNOONt_FINAL_FORMuINIT
  IAL_FORMvSOLATED_FORMuMEDIAL_FORMpOHINGYA_YEHpREHs_FINAL_FORMtISOLATED_FORMoSADr_FINAL_FORMsINITIA
  L_FORMtSOLATED_FORMsMEDIAL_FORMsWITH_THREE_DOTS_ABOVEzjBELOWyWO_DOTS_BELOWpEENs_FINAL_FORMtINITIAL
  _FORMuSOLATED_FORMtMEDIAL_FORMtWITH_DOT_BELOW_AND_DOT_ABOVEyEXTENDED_ARABIC-INDIC_DIGIT_FOUR_ABOVE
  yFOUR_DOTS_ABOVEyINVERTED_VySMALL_ARABIC_LETTER_TAH_AND_TWO_DOTSyTHREE_DOTS_BELOWzp_AND_THREE_DOTS
  _ABOVEzWO_DOTS_VERTICALLY_ABOVEpHEENt_FINAL_FORMuINITIAL_FORMvSOLATED_FORMuMEDIAL_FORMuWITH_DOT_BE
  LOWpTRAIGHT_WAWpUPERSCRIPT_ALEFpWASH_KAFoTAHr_FINAL_FORMsINITIAL_FORMtSOLATED_FORMsMEDIAL_FORMsWIT
  H_DOT_BELOWxTHREE_DOTS_ABOVEzjBELOWyWO_DOTS_ABOVEpCHEHtEHv_FINAL_FORMwINITIAL_FORMxSOLATED_FORMwME
  DIAL_FORMt_FINAL_FORMuINITIAL_FORMvSOLATED_FORMuMEDIAL_FORMuWITH_DOT_ABOVEzSMALL_VpEHrEHt_FINAL_FO
  RMuINITIAL_FORMvSOLATED_FORMuMEDIAL_FORMr_FINAL_FORMsINITIAL_FORMtSOLATED_FORMsMARBUTAz_FINAL_FORM
  zbGOALzbISOLATED_FORMtEDIAL_FORMsWITH_RINGxSMALL_TEH_ABOVEzeVxTHREE_DOTS_ABOVE_DOWNWARDSpHALs_FINA
  L_FORMtISOLATED_FORMqEHs_FINAL_FORMtINITIAL_FORMuSOLATED_FORMtMEDIAL_FORMqIN_YEHpTEHsEHu_FINAL_FOR
  MvINITIAL_FORMwSOLATED_FORMvMEDIAL_FORMs_FINAL_FORMtINITIAL_FORMuSOLATED_FORMtMEDIAL_FORMtWITH_SMA
  LL_VoUpIGHUR_KAZAKH_KIRGHIZ_ALEF_MAKSURA_INITIAL_FORMzyMEDIAL_FORMp_FINAL_FORMqISOLATED_FORMqWITH_
  HAMZA_ABOVEzh_ISOLATED_FORMoVEqHr_FINAL_FORMsINITIAL_FORMtSOLATED_FORMsMEDIAL_FORMq_FINAL_FORMrISO
  LATED_FORMoWAWr_FINAL_FORMsISOLATED_FORMsWITH_DOT_ABOVEzcWITHINxEXTENDED_ARABIC-INDIC_DIGIT_THREE_
  ABOVEzzcWO_ABOVExHAMZA_ABOVEzj_FINAL_FORMzkISOLATED_FORMxRINGxTWO_DOTS_ABOVEoYEHr_BARREEy_FINAL_FO
  RMzISOLATED_FORMzWITH_EXTENDED_ARABIC-INDIC_DIGIT_THREE_ABOVEzzjWO_ABOVEzfHAMZA_ABOVEzq_FINAL_FORM
  zrISOLATED_FORMsFINAL_FORMsINITIAL_FORMtSOLATED_FORMsMEDIAL_FORMsWITH_HAMZA_ABOVEzj_FINAL_FORMzkIN
  ITIAL_FORMzlSOLATED_FORMzkMEDIAL_FORMxSMALL_VxTAILyHREE_DOTS_BELOWyWO_DOTS_BELOW_AND_DOT_ABOVEzrHA
  MZA_ABOVEzrSMALL_NOON_ABOVEpUq_FINAL_FORMrISOLATED_FORMoZAHr_FINAL_FORMsINITIAL_FORMtSOLATED_FORMs
  MEDIAL_FORMqINs_FINAL_FORMtISOLATED_FORMtWITH_INVERTED_V_ABOVEiIGATURE_AIN_WITH_ALEF_MAKSURA_FINAL
  _FORMznISOLATED_FORMzJEEM_INITIAL_FORMzgSOLATED_FORMzfWITH_MEEM_FINAL_FORMzpINITIAL_FORMzMEEM_INIT
  IAL_FORMzgSOLATED_FORMzfWITH_ALEF_MAKSURA_FINAL_FORMzkMEEM_FINAL_FORMzpINITIAL_FORMzkYEH_FINAL_FOR
  MzYEH_FINAL_FORMzeISOLATED_FORMrKBAR_ISOLATED_FORMrLAYHAA_AS-SALAAMvE_ISOLATED_FORMvIMAA_AS-SALAAM
  x_AS-SALAAMw_AS-SALAAMzgTU_WAS-SALAAMsEF_MAKSURA_WITH_SUPERSCRIPT_ALEF_FINAL_FORMzzbISOLATED_FORMv
  WITH_FATHATAN_FINAL_FORMzkISOLATED_FORMsLAH_ISOLATED_FORMrZZA_WA_JALLqBEH_WITH_ALEF_MAKSURA_FINAL_
  FORMznISOLATED_FORMzHAH_INITIAL_FORMzfSOLATED_FORMzeWITH_YEH_FINAL_FORMzbEH_INITIAL_FORMzeMEDIAL_F
  ORMzJEEM_INITIAL_FORMzgSOLATED_FORMzKHAH_INITIAL_FORMzgSOLATED_FORMzfWITH_YEH_FINAL_FORMzMEEM_FINA
  L_FORMzfINITIAL_FORMzgSOLATED_FORMzfMEDIAL_FORMzNOON_FINAL_FORMzREH_FINAL_FORMzYEH_FINAL_FORMzeISO
  LATED_FORMzZAIN_FINAL_FORMrISMILLAH_AR-RAHMAN_AR-RAHEEMqDAD_WITH_ALEF_MAKSURA_FINAL_FORMznISOLATED
  _FORMzHAH_INITIAL_FORMzfSOLATED_FORMzeWITH_ALEF_MAKSURA_FINAL_FORMzjYEH_FINAL_FORMzJEEM_INITIAL_FO
  RMzgSOLATED_FORMzKHAH_INITIAL_FORMzgSOLATED_FORMzfWITH_MEEM_FINAL_FORMzpINITIAL_FORMzMEEM_INITIAL_
  FORMzgSOLATED_FORMzREH_FINAL_FORMzeISOLATED_FORMzYEH_FINAL_FORMzeISOLATED_FORMqFEH_WITH_ALEF_MAKSU
  RA_FINAL_FORMznISOLATED_FORMzHAH_INITIAL_FORMzfSOLATED_FORMzJEEM_INITIAL_FORMzgSOLATED_FORMzKHAH_I
  NITIAL_FORMzgSOLATED_FORMzfWITH_MEEM_FINAL_FORMzpINITIAL_FORMzMEEM_INITIAL_FORMzgSOLATED_FORMzfWIT
  H_YEH_FINAL_FORMzYEH_FINAL_FORMzeISOLATED_FORMqGHAIN_WITH_ALEF_MAKSURA_FINAL_FORMzpISOLATED_FORMzc
  JEEM_INITIAL_FORMziSOLATED_FORMzcMEEM_INITIAL_FORMziSOLATED_FORMzhWITH_ALEF_MAKSURA_FINAL_FORMzmME
  EM_FINAL_FORMzmYEH_FINAL_FORMzcYEH_FINAL_FORMzgISOLATED_FORMqHAH_WITH_ALEF_MAKSURA_FINAL_FORMznISO
  LATED_FORMzJEEM_INITIAL_FORMzgSOLATED_FORMzfWITH_YEH_FINAL_FORMzMEEM_INITIAL_FORMzgSOLATED_FORMzfW
  ITH_ALEF_MAKSURA_FINAL_FORMzkYEH_FINAL_FORMzYEH_FINAL_FORMzeISOLATED_FORMrEH_WITH_ALEF_MAKSURA_ISO
  LATED_FORMzJEEM_INITIAL_FORMzgSOLATED_FORMzMEEM_INITIAL_FORMzgSOLATED_FORMzfWITH_JEEM_INITIAL_FORM
  zkMEEM_INITIAL_FORMzSUPERSCRIPT_ALEF_INITIAL_FORMzYEH_ISOLATED_FORMqJALLAJALALOUHOUrEEM_WITH_ALEF_
  MAKSURA_FINAL_FORMzoISOLATED_FORMzbHAH_INITIAL_FORMzgSOLATED_FORMzfWITH_ALEF_MAKSURA_FINAL_FORMzkY
  EH_FINAL_FORMzbMEEM_INITIAL_FORMzhSOLATED_FORMzgWITH_ALEF_MAKSURA_FINAL_FORMzlHAH_FINAL_FORMzpINIT
  IAL_FORMzlYEH_FINAL_FORMzbYEH_FINAL_FORMzfISOLATED_FORMqKAF_WITH_ALEF_FINAL_FORMzfISOLATED_FORMzfM
  AKSURA_FINAL_FORMznISOLATED_FORMzHAH_INITIAL_FORMzfSOLATED_FORMzJEEM_INITIAL_FORMzgSOLATED_FORMzKH
  AH_INITIAL_FORMzgSOLATED_FORMzLAM_FINAL_FORMzeINITIAL_FORMzfSOLATED_FORMzeMEDIAL_FORMzMEEM_FINAL_F
  ORMzfINITIAL_FORMzgSOLATED_FORMzfMEDIAL_FORMzfWITH_MEEM_FINAL_FORMzpINITIAL_FORMzkYEH_FINAL_FORMzY
  EH_FINAL_FORMzeISOLATED_FORMrHAH_WITH_ALEF_MAKSURA_FINAL_FORMzoISOLATED_FORMzbHAH_ISOLATED_FORMzbJ
  EEM_INITIAL_FORMzhSOLATED_FORMzbMEEM_INITIAL_FORMzhSOLATED_FORMzbYEH_FINAL_FORMzfISOLATED_FORMqLAM
  _WITH_ALEF_FINAL_FORMzfISOLATED_FORMzfMAKSURA_FINAL_FORMznISOLATED_FORMzfWITH_HAMZA_ABOVE_FINAL_FO
  RMzwISOLATED_FORMzqBELOW_FINAL_FORMzwISOLATED_FORMzkMADDA_ABOVE_FINAL_FORMzwISOLATED_FORMzHAH_INIT
  IAL_FORMzfSOLATED_FORMzeWITH_ALEF_MAKSURA_FINAL_FORMzjMEEM_FINAL_FORMzoINITIAL_FORMzjYEH_FINAL_FOR
  MzbEH_INITIAL_FORMzJEEM_INITIAL_FORMzgSOLATED_FORMzfWITH_JEEM_FINAL_FORMzpINITIAL_FORMzkMEEM_FINAL
  _FORMzpINITIAL_FORMzkYEH_FINAL_FORMzKHAH_INITIAL_FORMzgSOLATED_FORMzfWITH_MEEM_FINAL_FORMzpINITIAL
  _FORMzMEEM_FINAL_FORMzfINITIAL_FORMzgSOLATED_FORMzfMEDIAL_FORMzfWITH_HAH_FINAL_FORMzoINITIAL_FORMz
  kYEH_FINAL_FORMzYEH_FINAL_FORMzeISOLATED_FORMqMEEM_WITH_ALEF_FINAL_FORMzgMAKSURA_ISOLATED_FORMzbHA
  H_INITIAL_FORMzgSOLATED_FORMzfWITH_JEEM_INITIAL_FORMzkMEEM_INITIAL_FORMzkYEH_FINAL_FORMzbJEEM_INIT
  IAL_FORMzhSOLATED_FORMzgWITH_HAH_INITIAL_FORMzlKHAH_INITIAL_FORMzlMEEM_INITIAL_FORMzlYEH_FINAL_FOR
  MzbKHAH_INITIAL_FORMzhSOLATED_FORMzgWITH_JEEM_INITIAL_FORMzlMEEM_INITIAL_FORMzlYEH_FINAL_FORMzbMEE
  M_FINAL_FORMzgINITIAL_FORMzhSOLATED_FORMzgWITH_YEH_FINAL_FORMzbYEH_ISOLATED_FORMrOHAMMAD_ISOLATED_
  FORMqNOON_WITH_ALEF_MAKSURA_FINAL_FORMzoISOLATED_FORMzbHAH_INITIAL_FORMzgSOLATED_FORMzfWITH_ALEF_M
  AKSURA_FINAL_FORMzkMEEM_INITIAL_FORMzkYEH_FINAL_FORMzcEH_INITIAL_FORMzfMEDIAL_FORMzbJEEM_INITIAL_F
  ORMzhSOLATED_FORMzgWITH_ALEF_MAKSURA_FINAL_FORMzlHAH_FINAL_FORMzpINITIAL_FORMzlMEEM_FINAL_FORMzqIN
  ITIAL_FORMzlYEH_FINAL_FORMzbKHAH_INITIAL_FORMzhSOLATED_FORMzbMEEM_FINAL_FORMzgINITIAL_FORMzhSOLATE
  D_FORMzgMEDIAL_FORMzgWITH_ALEF_MAKSURA_FINAL_FORMzlYEH_FINAL_FORMzbNOON_FINAL_FORMzbREH_FINAL_FORM
  zbYEH_FINAL_FORMzfISOLATED_FORMzbZAIN_FINAL_FORMqQAF_WITH_ALEF_MAKSURA_FINAL_FORMznISOLATED_FORMzH
  AH_INITIAL_FORMzfSOLATED_FORMzMEEM_INITIAL_FORMzgSOLATED_FORMzfWITH_HAH_FINAL_FORMzoINITIAL_FORMzk
  MEEM_FINAL_FORMzkYEH_FINAL_FORMzYEH_FINAL_FORMzeISOLATED_FORMsLA_USED_AS_KORANIC_STOP_SIGN_ISOLATE
  D_FORMrUDDISA_SIRRAHqRADI_ALLAAHU_ANHzhAAzhUMzjAAziNNAsHIMAHUM_ALLAAHy_ALLAAHsSOUL_ISOLATED_FORMrE
  H_WITH_SUPERSCRIPT_ALEF_ISOLATED_FORMqSAD_WITH_ALEF_MAKSURA_FINAL_FORMznISOLATED_FORMzHAH_INITIAL_
  FORMzfSOLATED_FORMzeWITH_HAH_FINAL_FORMznINITIAL_FORMzjYEH_FINAL_FORMzKHAH_INITIAL_FORMzMEEM_INITI
  AL_FORMzgSOLATED_FORMzfWITH_MEEM_FINAL_FORMzpINITIAL_FORMzREH_FINAL_FORMzeISOLATED_FORMzYEH_FINAL_
  FORMzeISOLATED_FORMsLAAMUHU_ALAYNAAuM_ISOLATED_FORMtLALLAAHU_ALAYHI_WA-AALIHyHOU_ALAYHE_WASALLAMzU
  _ALAYHI_WAAALIHEE_WA-SALLAMv_ISOLATED_FORMwUSED_AS_KORANIC_STOP_SIGN_ISOLATED_FORMrEEN_WITH_ALEF_M
  AKSURA_FINAL_FORMzoISOLATED_FORMzbHAH_INITIAL_FORMzgSOLATED_FORMzfMEDIAL_FORMzfWITH_JEEM_INITIAL_F
  ORMzcEH_INITIAL_FORMzfMEDIAL_FORMzbJEEM_INITIAL_FORMzhSOLATED_FORMzgMEDIAL_FORMzgWITH_ALEF_MAKSURA
  _FINAL_FORMzlHAH_INITIAL_FORMzbKHAH_INITIAL_FORMzhSOLATED_FORMzgMEDIAL_FORMzgWITH_ALEF_MAKSURA_FIN
  AL_FORMzlYEH_FINAL_FORMzbMEEM_INITIAL_FORMzhSOLATED_FORMzgMEDIAL_FORMzgWITH_HAH_FINAL_FORMzpINITIA
  L_FORMzlJEEM_INITIAL_FORMzlMEEM_FINAL_FORMzqINITIAL_FORMzbREH_FINAL_FORMzfISOLATED_FORMzbYEH_FINAL
  _FORMzfISOLATED_FORMrHADDA_WITH_DAMMATAN_ISOLATED_FORMzi_ISOLATED_FORMzjMEDIAL_FORMzdFATHA_ISOLATE
  D_FORMzjMEDIAL_FORMzdKASRATAN_ISOLATED_FORMzi_ISOLATED_FORMzjMEDIAL_FORMzdSUPERSCRIPT_ALEF_ISOLATE
  D_FORMsEEN_WITH_ALEF_MAKSURA_FINAL_FORMzpISOLATED_FORMzcHAH_FINAL_FORMzgINITIAL_FORMzhSOLATED_FORM
  zgMEDIAL_FORMzgWITH_MEEM_FINAL_FORMzqINITIAL_FORMzlYEH_FINAL_FORMzdEH_INITIAL_FORMzgMEDIAL_FORMzcJ
  EEM_FINAL_FORMzhINITIAL_FORMziSOLATED_FORMzhMEDIAL_FORMzhWITH_YEH_FINAL_FORMzcKHAH_FINAL_FORMzhINI
  TIAL_FORMziSOLATED_FORMzhMEDIAL_FORMzcMEEM_FINAL_FORMzhINITIAL_FORMziSOLATED_FORMzhMEDIAL_FORMzhWI
  TH_KHAH_FINAL_FORMzrINITIAL_FORMzmMEEM_FINAL_FORMzrINITIAL_FORMzcREH_FINAL_FORMzgISOLATED_FORMzcYE
  H_FINAL_FORMzgISOLATED_FORMrUBHAANAHU_WA_TAAALAAqTABAARAKA_WA-TAAALAAsH_WITH_ALEF_MAKSURA_FINAL_FO
  RMznISOLATED_FORMzHAH_INITIAL_FORMzfSOLATED_FORMzMEEM_INITIAL_FORMzgSOLATED_FORMzfMEDIAL_FORMzfWIT
  H_HAH_FINAL_FORMzoINITIAL_FORMzkMEEM_INITIAL_FORMzkYEH_FINAL_FORMzYEH_FINAL_FORMzeISOLATED_FORMrEH
  _WITH_ALEF_MAKSURA_FINAL_FORMznISOLATED_FORMzHAH_INITIAL_FORMzfSOLATED_FORMzeWITH_JEEM_FINAL_FORMz
  oINITIAL_FORMzjMEEM_INITIAL_FORMzbEH_INITIAL_FORMzeMEDIAL_FORMzJEEM_INITIAL_FORMzgSOLATED_FORMzfWI
  TH_ALEF_MAKSURA_FINAL_FORMzkMEEM_INITIAL_FORMzkYEH_FINAL_FORMzKHAH_INITIAL_FORMzgSOLATED_FORMzfWIT
  H_ALEF_MAKSURA_FINAL_FORMzkMEEM_INITIAL_FORMzkYEH_FINAL_FORMzMEEM_FINAL_FORMzfINITIAL_FORMzgSOLATE
  D_FORMzfMEDIAL_FORMzfWITH_ALEF_MAKSURA_FINAL_FORMzkHAH_INITIAL_FORMzkJEEM_INITIAL_FORMzkKHAH_INITI
  AL_FORMzkYEH_FINAL_FORMzNOON_FINAL_FORMzREH_FINAL_FORMzYEH_FINAL_FORMzeISOLATED_FORMzZAIN_FINAL_FO
  RMrHAL_WITH_SUPERSCRIPT_ALEF_ISOLATED_FORMsEH_WITH_ALEF_MAKSURA_FINAL_FORMzoISOLATED_FORMzbHEH_MED
  IAL_FORMzbJEEM_ISOLATED_FORMzbMEEM_FINAL_FORMzgINITIAL_FORMzhSOLATED_FORMzgMEDIAL_FORMzbNOON_FINAL
  _FORMzbREH_FINAL_FORMzbYEH_FINAL_FORMzfISOLATED_FORMzbZAIN_FINAL_FORMqUIGHUR_KIRGHIZ_YEH_WITH_HAMZ
  A_ABOVE_WITH_ALEF_MAKSURA_FINAL_FORMzzuINITIAL_FORMzzvSOLATED_FORMqWASALLAM_ISOLATED_FORMqYEH_WITH
  _ALEF_MAKSURA_FINAL_FORMznISOLATED_FORMzHAH_INITIAL_FORMzfSOLATED_FORMzeWITH_YEH_FINAL_FORMzcMZA_A
  BOVE_WITH_AE_FINAL_FORMzuISOLATED_FORMzsLEF_FINAL_FORMzwISOLATED_FORMzwMAKSURA_FINAL_FORMzzfISOLAT
  ED_FORMzrE_FINAL_FORMztINITIAL_FORMzuSOLATED_FORMzrHAH_INITIAL_FORMzwSOLATED_FORMzsEH_INITIAL_FORM
  zvMEDIAL_FORMzrJEEM_INITIAL_FORMzxSOLATED_FORMzrKHAH_INITIAL_FORMzrMEEM_FINAL_FORMzwINITIAL_FORMzx
  SOLATED_FORMzwMEDIAL_FORMzrNOON_FINAL_FORMzrOE_FINAL_FORMzuISOLATED_FORMzrREH_FINAL_FORMzrU_FINAL_
  FORMztISOLATED_FORMzrWAW_FINAL_FORMzvISOLATED_FORMzrYEH_FINAL_FORMzvISOLATED_FORMzsU_FINAL_FORMzuI
  SOLATED_FORMzrZAIN_FINAL_FORMzbEH_INITIAL_FORMzeMEDIAL_FORMzJEEM_INITIAL_FORMzgSOLATED_FORMzfWITH_
  YEH_FINAL_FORMzKHAH_INITIAL_FORMzgSOLATED_FORMzMEEM_FINAL_FORMzfINITIAL_FORMzgSOLATED_FORMzfMEDIAL
  _FORMzfWITH_MEEM_FINAL_FORMzpINITIAL_FORMzkYEH_FINAL_FORMzNOON_FINAL_FORMzREH_FINAL_FORMzYEH_FINAL
  _FORMzeISOLATED_FORMzZAIN_FINAL_FORMqZAH_WITH_MEEM_INITIAL_FORMzgSOLATED_FORMzfMEDIAL_FORMhMADDAH_
  ABOVEm_WAAJIBjRK_NOON_GHUNNAmSIDEWAYS_NOON_GHUNNAjTHEMATICAL_AINvLEFuBEHuDADwLvOTLESS_BEHzdFEHzdNO
  ONzdQAFwUBLE-STRUCK_AINzjBEHzjDADzlLzjFEHzjGHAINzjHAHzjJEEMzjKHAHzjLAMzjMEEMzjNOONzjQAFzjREHzjSADz
  kEENzkHEENzjTAHzkEHzkHALzlEHzjWAWzjYEHzjZAHzlINuFEHuGHAINuHAHuINITIAL_AINzdBEHzdDADzdFEHzdGHAINzdH
  AHzeEHzdJEEMzdKAFzeHAHzdLAMzdMEEMzdNOONzdQAFzdSADzeEENzeHEENzdTEHzeHEHzdYEHuJEEMuKAFvHAHuLAMvOOPED
  _AINzdLEFzcBEHzcDADzeLzcFEHzcGHAINzcHAHzdEHzcJEEMzcKHAHzcLAMzcMEEMzcNOONzcQAFzcREHzcSADzdEENzdHEEN
  zcTAHzdEHzdHALzeEHzcWAWzcYEHzcZAHzeINuMEEMuNOONuOPERATOR_HAH_WITH_DALzeMEEM_WITH_HAH_WITH_TATWEELu
  QAFuREHuSADvEENvHEENvTRETCHED_AINzfBEHzfDADzgOTLESS_BEHznFEHzfFEHzfGHAINzfHAHzgEHzfJEEMzfKAFzgHAHz
  fMEEMzfNOONzfQAFzfSADzgEENzgHEENzfTAHzgEHzgHEHzfYEHzfZAHuTAHwILED_AINzcDADzdOTLESS_NOONzkQAFzcGHAI
  NzcHAHzcJEEMzcKHAHzcLAMzcNOONzcQAFzcSADzdEENzdHEENzcYEHvEHvHALwEHuWAWuYEHuZAHwINhNUMBER_MARK_ABOVE
  oSIGNhOPEN_DAMMATANmFATHATANmKASRATANhPERCENT_SIGNiIASTRE_MARK_ABOVEiLACE_OF_SAJDAHiOETIC_VERSE_SI
  GNjUND_MARK_ABOVEhQUESTION_MARKhRAISED_ROUND_DOTjYiEVERSED_DAMMAiIGHT_ARROWHEAD_ABOVEzd_WITH_DOTxB
  ELOWiOUNDED_HIGH_STOP_WITH_FILLED_CENTREhSEMICOLONiHADDAn_ISOLATED_FORMoMEDIAL_FORMiIGN_ALAYHE_ASS
  ALLAMmMISRAmRADI_ALLAHOU_ANHUoHMATULLAH_ALAYHEmSAFHAoLLALLAHOU_ALAYHE_WASSALLAMoMVAToNAHnINDHI_AMP
  ERSANDtPOSTPOSITION_MENmTAKHALLUSiMALL_DAMMAnFARSI_YEHpTHAnHIGH_AINsDOTLESS_HEAD_OF_KHAHsFARSI_YEH
  tOOTNOTE_MARKERsJEEMsLAM_ALEFtIGATURE_ALEF_WITH_LAM_WITH_YEHzcQAF_WITH_LAM_WITH_ALEF_MAKSURAzcSAD_
  WITH_LAM_WITH_ALEF_MAKSURAsMADDAtEEM_INITIAL_FORMySOLATED_FORMsNOONw_WITH_KASRAsQAFsROUNDED_ZEROsS
  ADtEENtIGN_SAFHAsTAHtHREE_DOTSsUPRIGHT_RECTANGULAR_ZEROsWAWtORD_AL-JUZyN-NISFyR-RUByS-SAJDAyTH-THA
  LATHAxQIFxSAHzKTAxWAQFAsYEHv_BARREE_WITH_TWO_DOTS_BELOWsZAHuINnKASRAnLOW_MEEMrNOON_WITH_KASRArSEEN
  rWAWsORD_IMAALAxSHMAAMwTASHEELnWAWnYEHiTART_OF_RUB_EL_HIZBiUBSCRIPT_ALEFjKUNm_BELOWnISOLATED_FORMn
  MEDIAL_FORMjPERSCRIPT_ALEF_MOKHASSASiYMBOL_DOT_ABOVEsBELOWqUBLE_VERTICAL_BAR_BELOWoFOUR_DOTS_ABOVE
  yBELOWoRINGoSMALL_TAH_ABOVEyBELOWoTHREE_DOTS_ABOVEzBELOWzPOINTING_DOWNWARDS_ABOVEztBELOWpWO_DOTS_A
  BOVExBELOWxVERTICALLY_ABOVEzjBELOWoWASLA_ABOVEhTAIL_FRAGMENTjTWEELo_WITH_FATHATAN_ABOVEuOVERSTRUCK
  _HAMZAzgWAWuTWO_DOTS_BELOWiHOUSANDS_SEPARATORiONE_LOOP_ABOVErBELOWmONE_DOT_ABOVEuBELOWmTWO_DOTS_AB
  OVEvBELOWiRIPLE_DOT_PUNCTUATION_MARKiURNED_DAMMA_BELOWhVERTICAL_TAILiOWEL_SIGN_DOT_BELOWsINVERTED_
  SMALL_V_ABOVEsSMALL_V_ABOVEhWAVY_HAMZA_BELOWhZWARAKAYcCcIEScMENIAN_ABBREVIATION_MARKkPOSTROPHEjCAP
  ITAL_LETTER_AYByBENyCAzHAzbEHzOyDAyECHzHzTyFEHyGHADzIMyHOyINIyJAzHEHyKEHzbNyLIWNyMENyNOWyOHyPEHzIW
  RyRAzEHySEHzHAyTIWNzOyVEWzOyXEHyYIzbWNyZAzHEkOMMAjDRAM_SIGNjEMPHASIS_MARKkXCLAMATION_MARKjFULL_STO
  PjHYPHENjMODIFIER_LETTER_LEFT_HALF_RINGjQUESTION_MARKjSMALL_LETTER_AYBwBENwCAxHAyEHxOwDAwECHxHxTwF
  EHwGHADxIMwHOwINIwJAxHEHwKEHyNwLIWNwMENwNOWwOHwPEHxIWRwRAxEHwSEHxHAwTIWNxOxURNED_AYBwVEWxOwXEHwYIy
  WNy_WITH_STROKEwZAxHEqIGATURE_ECH_YIWNyMEN_ECHzdINIzdNOWzdXEHyVEW_NOWcROWHEAD-SHAPED_POINTERf_POIN
  TING_DOWNWARDS_THEN_CURVING_LEFTWARDSznRIGHTWARDSpRIGHTWARDS_THEN_CURVING_DOWNWARDSzoSOUTH_WESTzoU
  PWARDSpUPWARDS_THEN_NORTH_WESTcTICULATED_LORRYeST_PALETTEbSCENDING_NODEdIA_SYMBOLcSERTIONcTERISKi_
  OPERATORhMdONISHED_FACEdRAEAeONOMICAL_SYMBOL_FOR_URANUScYMPTOTICALLY_EQUAL_TObTHLETIC_SHOEcOM_SYMB
  OLbUBERGINEcSTRAL_SIGNcTOMATED_TELLER_MACHINEfOBILEe_RICKSHAWbVESTAN_ABBREVIATION_MARKiLETTER_AqAr
  NrOqErEqNqOpBEqHEpCEpDEqHEpEqEpFEpGEqGEqHEpHEqMEpIqIpJEpKEpLEpMEpNEqGErVErYEqNEqYEpOqOpPEpREpSEqHE
  rYEqSHEpTEqHEqTEpUqUpVEpXEqVEqYEpYEqYEpZEqHEcOCADObXEaBABYe_ANGELfBOTTLEfCHICKfSYMBOLcCK-TILTED_SH
  ADOWED_WHITE_RIGHTWARDS_ARROWeSLANTED_SOUTH_ARROW_WITH_HOOKED_TAILzgRIZONTAL_TAILfPACEe_OF_ENVELOP
  EfWITH_LEFTWARDS_ARROW_ABOVEdONdTRIAN_CAMELcDGERdMINTON_RACQUET_AND_SHUTTLECOCKcGELdGAGE_CLAIMdUET
  TE_BREADcLINESE_ADEG_ADEGjCARIK_PAMUNGKAHrRERENpSIKIjDIGIT_EIGHTpFIVEqOURpNINEpONEpSEVENqIXpTHREEq
  WOpZEROjLETTER_AIKARArKARAv_TEDUNGrRCHAIC_JNYArSYURA_SASAKqBAs_KEMBANGqCAs_LACAqDAs_MADUuURDA_ALPA
  PRANAzMAHAPRANAqEF_SASAKrKARAqGAs_GORAqHAqIKARAv_TEDUNGqJAs_JERAqKAsF_SASAKs_MAHAPRANArHOT_SASAKqL
  As_LENGAy_TEDUNGqMAqNAs_RAMBATrGArYAqOKARAv_TEDUNGqPAs_KAPALqRAs_REPAx_TEDUNGqSAs_SAGAvPAqTAs_LATI
  KtMURDA_MAHAPRANAtTAWArZIR_SASAKqUKARAv_TEDUNGqVE_SASAKqWAqYAqZAL_SASAKjMUSICAL_SYMBOL_COMBINING_B
  ENDEzjENDEPzjGONGzjJEGOGANzjKEMPLIzp_WITH_JEGOGANznULzp_WITH_JEGOGANzjTEGEHyDAENGzbINGzbNGzd_GEDEz
  eSURANGzENGzbUNGzINGzONGzUNGyLEFT-HAND_CLOSED_PLAKzsUKzjOPEN_PANGzpINGzpUNGyRIGHT-HAND_CLOSED_TAKz
  sUKzkOPEN_DAGzqUGjPAMADAp_LANTANGmENENGlNTIo_LANTANGjSIGN_BISAHoCECEKoREREKANoSURANGoULU_CANDRAsRI
  CEMjVOWEL_SIGN_LA_LENGAzd_TEDUNGuPEPETz_TEDUNGuRA_REPAzc_TEDUNGuSUKUy_ILUTuTALINGzb_REPAzg_TEDUNGz
  cTEDUNGvEDUNGuULUx_SARIjWINDUdLET_SHOESeOONh-SPOKED_ASTERISKfT_BOLD_SCRIPT_XjXk_WITH_BALLOTrOLD_CH
  ECKvSCRIPT_XqCHECKqLIGHT_XqSCRIPT_XqXhSCRIPT_XhXe_OF_YARNcMUM_COLONiMBINING_MARK_KOQNDONvTUKWENTIS
  jMAgFULL_STOPgLETTER_AnEEnFAAMAEoEEoOMoUnInKAoENpTpUXoIoOpGHOMpVUUoPAoUoYEEnLAoEEEEoIoOQoUnMoAoBAA
  pENoEEEEpNoIoOoUnNAoDAAoGApGApKWAENoIoJAEMpEEpUAEoSHAoTEEpUUoUpAEoYInOnPAoEEpUXoHASE-A_FIRIvGBIEE_
  FONwHEUAEGHEUAEzcRAEvKAFAxQwETxUKEUTNDAwPOQwUOQvLAPAQwET_KUTwOMMAEwUxAEPvMAEKEUPyMzBGBIEEzKPENzVEU
  XyNYIySIxNSUAExP_PIEETwBANYIyQwEUNJOMNDEUQwGBASAwON_NGGEUAETxOMEUTzPUQwVEUAENGAMvNAA_MFONxQwDAANGG
  EUAETy_LEERAEWAwENwGANGUxGENxKUENZEUMzb_MFONwIKAwJAMwKAARAExINDIwSHAyIEEwTAPz_MFAAzbNTAAxOQPENwYET
  xIyT_MONGKEUAEQwZA_MFONxUN_MEUTvPAAMyRAExMSHAExSHAEx_LEERAEWAwETwON_MFON_PIPAEMBAzlGBIEEzPA_NJI_PI
  PAEMBAznGBIEEwUPvROMvSEUNYAMwHINDA_PA_NJIyRAExOQ_NSHUT_YUMxUENSHUETyMwISAwONJAMxQxTwUUvTEUAENyTEUW
  ENwITA_MFONwUAEPx_MAEMBAvUNKNOWNw_YUQ_NAEvVEEtB_FEExUXvGHEUGHENzdUAEMvKAMwEUAEMyPUQyYEUXwIEEMxQvLA
  ANAExM_NSHUT_NYAMwETwOM_NTEUMvMAx_NJEUAENAzbUQAwBAARAEy_MAELEExEURIxIT_MBAAKETxUOQwEUQyT_NGGEETwFI
  YAQxON_TEUAEQwONTIEENvNDU_NJAAwGGAAMyEU_MBUyUOQzc_LARGExKINDI_MVOPxOMwSENxHUETwTIEE_SHEUOQwYAEMAEx
  I_NTEUMvPARUMwEESHIwITwUNGAAMvSAKEUAEwET_TUwHET_NJAQyUAEQTUwIEEwUEvTAAMwU_MAEMGBIEEyNSIEEvVEUMvWUA
  ETvYAFU_LEERAEWAwEURAEtC_BUNGvFUEvGBAYIwHAPyRAEvKAAwEN_FATIGUEzLAWxTxUKAQyMySEUXzHEUAEPwPARAQwUOP_
  NKAARAExTvLAMxPwIQwUvMAEMBAySIx_KEUAERIyNSIEEwBAA_CABBAGE-TREEzbPICKETyNYIxEEKEETyRAEyUMzXxIyRIEEN
  yTxUAEMyEwGBASAQwIEEwUAEvNANSANAQxQwDAMyPxEUAEREEzTxIDAxOMBUwGAQxGENyUzAEN_NYAMzEETzMzONxKAQyUE_MA
  EMBAxOMwJAEMyMxEEEEyUXxUEQwSAxEUAENxHAQxOMxUNyOT_NGOMwTAAxENyUNGBAxU_MBITwYIR_MKPARAQ_MEUNwZAxEUMv
  PENwINxRIEENvRUvSETFONxUXwHIQxUEQwUAETvTAASHAEwETxUTEUXwITA_YUEyUAEPvVEUAEPENyXvWANGKUOQwUPvYAAwEU
  QwUMxWOQx_MUOMAEtD_FAAwEUFEUAETvGHAAxEUAEvKETxUAETMEUNyMyOT_MBUAEyPwUxNxOMxQwWAETwYEEvLEEEExTxUAEP
  yMwIEEwOQwUMvMwAENJETxLEERIwBAAz_SEVENxUOwEEEExUNyTwFEUAEzTxIEExOyNwGBEUNyIEEyOFUMwONIwUwVOPvNDAMx
  EEyUXxONwGGAAMzcAEzPyEUXyUOMyWAENxKAPyEUAEQzbRIyIEEyUNyYEEwIwJAPxEUAEMzTxIyEExUEQwSHEEyUTxIEEPzbTx
  UMwTEEyUMxUUwUwYAMxETxIxUEvPAPwEExUTAEwIPwUQxUTvRAEMwEN_MUCHzOLDwIIvSAPxQwEUAEQwHEEyUAEzXxIIxOQxUw
  OTwUAExExUvTAEwEEEExUAENyNyTwIwOQwUxOTvWAPwUAENvYAEMMAEwENwUOMyPxWOQtE_AvFAxQwEEwOMwUEyTx_CALLyIyR
  EMEDYvGBETyUXwHAAMAExETyUAEzNzXxOMvIvKETxUAEyXwIwOwPEUXwUETxOPxTvLAAMxPxQwEUAEMwOMxONyTxQwUvMAxEyM
  xPxQwBEEyUMwENwFEUQwGBAyENwIxEEwONwUAEwVIvNAxEwDAA_MY_HOUSEzbSOFTNESSyPxIAQyQxUNwGAxEUREUTxGEEEEzU
  AEzdTyUAESHAE_NYAMzPzRAExKAzAMIyEUAEMzbXyUMzPxOPyQxUAEzbTwJAEMLIxEEz_EPOCHyUXwKOMwSHIEEyUEzOPwTAPx
  UMwYI_BETWEENzCLEAVERwZAQxUQvOvPAAyMx_PEOPLEzLURALwEEMxUTyXwIxEEQyTwOxONwUxAEyQxExMvRAExQwEUXwIMGB
  AvSAAwEExTwHEUAEQxIQxOyQwOMwUAENvTAAyQxEN_NTEUMxMxQwENxUyAEQwOOyNxQwUAExMyAEvVEExUAEwOMvWEUXwUExOv
  YAPwEUAEzbTyMyXwIEExTwOQ_COVERzSWIMMINGwUAENxEQxNxQtF_EEvFOMvKAwENxTwOwPAwUwYEEvLAwIwOQvMwAwBAAxEN
  wEEEEwOvNDAAwGGAxKWAENwIwJAEMxUAEwSHAwTEEwUxAEwYIvPEExUXwUAEvREExNxUXwIEExIwUvSAMBAwEUXwHIIxOxUwIw
  UUvTAAxEwETvUvVUEQvWAwUEvYAwOQoIoUAEpEnRAEoEEpNpUXoIEEpIoUnSAMBAoEUXoHEUXpIIpOpUoIoUUnTAApEoENpToI
  nUnWAoUEnYAoOQoUQgNJAEMLIgQUESTION_MARKgSEMICOLONcNANAdJOdKeNOTE_WITH_DOLLAR_SIGNoEURO_SIGNoPOUND_
  SIGNoYEN_SIGNcRBER_POLEd_CHARTeOF_SOAPcSEBALLdKETgBALL_AND_HOOPdSA_VAH_COMBINING_HIGH-LOW_TONEy_TO
  NEuLOW-MID_TONEx_TONEuMID_TONEkFULL_STOPkLETTER_ArBArCErDHIIsOrEsEsNNIrFArGAHsBUrHWAHrIrJOrKAsPAHr
  MBErOsOrPArSErTOrUsWUrVUrWAtDDArYEINsIErZOcTdAK_CONSONANT_SIGN_HvNGgLETTER_AnBAnCAnDAnGAnHAnInJAnK
  ARO_BA"

/-- The second part of the names. -/
def secondNames : String := "aBATAK_LETTER_LAnMApNDAILING_HAyNAySAoBAnNAoDAoGAoORTHERN_TAoYAnPApKPAK
  _WAnRAnSAoIMALUNGUN_AyGAyHAyLAyMAyPAyRAySAyWAyYAoOUTHERN_TAnUnWAnYAgPANGOLATjONGONANgSIGN_TOMPIhYM
  BOL_BINDU_JUDULtNA_METEKtPANGOLATuINARBORASgVOWEL_SIGN_EsErIrKARO_IwOrOrPAKPAK_ErUs_FOR_SIMALUNGUN
  _SAdHeTUBdTERYbEACH_WITH_UMBRELLAdMED_ASCENDING_MUSICAL_NOTEShDESCENDING_MUSICAL_NOTEShEIGHTH_NOTE
  ShSIXTEENTH_NOTESdNSdRDED_PERSONe_FACEdTING_HEARTdVERcCAUSEcDcER_MUGdTLEcLdLeHOP_BELLe_PEPPERfSYMB
  OLfWITH_CANCELLATION_STROKEcNGALI_ABBREVIATION_SIGNjNJIjU_LENGTH_MARKiCURRENCY_DENOMINATOR_SIXTEEN
  rNUMERATOR_FOURzcONEzf_LESS_THAN_THE_DENOMINATORzcTHREEzdWOiDIGIT_EIGHToFIVEpOURoNINEoONEoSEVENpIX
  oTHREEpWOoZEROiGANDA_MARKiISSHARiLETTER_AqAqIqUpBAqHApCAqHApDAqDArHAqHApEpGAqHApHApIqIpJAqHApKAqHA
  sNDA_TApLApMApNAqGAqNAqYApOpPAqHApRAr_WITH_LOWER_DIAGONALxMIDDLE_DIAGONALqHAqRApSAqHAqSApTAqHAqTAr
  HApUqUpVEDIC_ANUSVARAqOCALIC_LyLxRyRpYAqYAiRUPEE_MARKoSIGNiSANDHI_MARKjIGN_ANUSVARAoVAGRAHAnCANDRA
  BINDUnNUKTAnVIRAMApSARGAiVOWEL_SIGN_AAuIuUtEtIuItOtUuUtVOCALIC_LzdLzcRzdRdTO_BOXe_ARROW_POINTING_D
  OWNWARDS_THEN_NORTH_EASTdZENE_RINGm_WITH_CIRCLEcTWEENd_SYMBOLcVERAGE_BOXbHAIKSUKI_DANDAlIGIT_EIGHT
  qFIVErOURqNINEqONEqSEVENrIXqTHREErWOqZEROlOUBLE_DANDAkGAP_FILLER-1v2kHUNDREDS_UNIT_MARKkLETTER_AsA
  sIsUrBAsHArCAsHArDAsDAtHAsHArErGAsHArHArIsIrJAsHArKAsHArLArMArNAsGAsNAsYArOrPAsHArRArSAsHAsSArTAsH
  AsTAtHArUsUrVAsOCALIC_LzRzbRrYAkNUMBER_EIGHTwYrFIFTYtVEsORTYtURrNINEvTYrONErSEVENwTYsIXuTYrTENsHIR
  TYtREEsWENTYtOkSIGN_ANUSVARAqVAGRAHApCANDRABINDUpVIRAMArSARGAkVOWEL_SIGN_AAwIwUvEvIwIvOvUwUvVOCALI
  C_LzeRzfRkWORD_SEPARATORbICYCLEgISTcG_REVERSE_SOLIDUSeSOLIDUScKINIcLLED_CAPeIARDScOHAZARD_SIGNcRDd
  THDAY_CAKEcSONcTCOIN_SIGNdING_LIPbLACK-FEATHERED_NORTH_EAST_ARROWqRIGHTWARDS_ARROWqSOUTH_EAST_ARRO
  WgLETTER_CAPITAL_CvHvIvRvZf_BOWTIEgCENTRE_WHITE_STARhHESS_BISHOPs_ROTATED_NINETY_DEGREESzcTWO_HUND
  RED_SEVENTY_DEGREESmEQUIHOPPERw_ROTATED_NINETY_DEGREESmKINGq_ROTATED_NINETY_DEGREESzTWO_HUNDRED_SE
  VENTY_DEGREESnNIGHTs-BISHOPtQUEENtROOKs_ROTATED_FORTY-FIVE_DEGREESzcNINETY_DEGREESzcONE_HUNDRED_TH
  IRTY-FIVE_DEGREESzcTHREE_HUNDRED_FIFTEEN_DEGREESzdWO_HUNDRED_SEVENTY_DEGREESzoTWENTY-FIVE_DEGREESm
  PAWNq_ROTATED_NINETY_DEGREESzTWO_HUNDRED_SEVENTY_DEGREESmQUEENr_ROTATED_NINETY_DEGREESzbTWO_HUNDRE
  D_SEVENTY_DEGREESmROOKq_ROTATED_NINETY_DEGREESzTWO_HUNDRED_SEVENTY_DEGREESmTURNED_BISHOPtKINGuNIGH
  TtPAWNtQUEENtROOKhIRCLEm_FOR_RECORDnWITH_DOWN_ARROWsTWO_WHITE_DOTSsWHITE_DOT_RIGHThLUB_SUIThROSS_O
  N_SHIELDhURVED_DOWNWARDS_AND_LEFTWARDS_ARROWzcRIGHTWARDS_ARROWnLEFTWARDS_AND_DOWNWARDS_ARROWzcUPWA
  RDS_ARROWnRIGHTWARDS_AND_DOWNWARDS_ARROWzdUPWARDS_ARROWnUPWARDS_AND_LEFTWARDS_ARROWzRIGHTWARDS_ARR
  OWgDIAMONDn_CENTREDoMINUS_WHITE_XoON_CROSSoSUIToWITH_DOWN_ARROWhOWN-POINTING_DOUBLE_TRIANGLEuISOSC
  ELES_RIGHT_TRIANGLEuSMALL_TRIANGLEuTRIANGLEkWARDS_EQUILATERAL_ARROWHEADk_POINTING_BACKHAND_INDEXhR
  AUGHTS_KINGpMANiOPLETgFLAGiORETTEhOLDERiUR_POINTED_STARgHARD_SHELL_FLOPPY_DISKhEARTl_SUITiXAGONhOR
  IZONTAL_ELLIPSEiURGLASSgLARGE_CIRCLEmSQUAREhEFT-POINTING_DOUBLE_TRIANGLEzk_WITH_VERTICAL_BARuISOSC
  ELES_RIGHT_TRIANGLEuPOINTERuSMALL_TRIANGLEuTRIANGLEkWARDS_BULLETqEQUILATERAL_ARROWHEADk_LANE_MERGE
  lPOINTING_BACKHAND_INDEXuINDEXhOWER_LEFT_TRIANGLEmRIGHT_TRIANGLEiZENGEgMEDIUM_DIAMONDoOWN-POINTING
  _TRIANGLEzk_CENTREDnLEFT-POINTING_TRIANGLEzk_CENTREDoOZENGEnRIGHT-POINTING_TRIANGLEzl_CENTREDnSMAL
  L_DIAMONDtLOZENGEtSQUAREoQUAREnUP-POINTING_TRIANGLEzi_CENTREDhOON_LILITHgNIBgOCTAGONgPARALLELOGRAM
  hENNANTjTAGONhUSHPINgQUESTION_MARK_ORNAMENTgRECTANGLEhIGHT-POINTING_DOUBLE_TRIANGLEzl_WITH_VERTICA
  L_BARvISOSCELES_RIGHT_TRIANGLEvPENTAGONwOINTERvSMALL_TRIANGLEvTRIANGLEze_WITH_DOUBLE_VERTICAL_BARl
  WARDS_ARROWwHEADrBULLETrEQUILATERAL_ARROWHEADl_POINTING_BACKHAND_INDEXvINDEXhOSETTEgSAFETY_SCISSOR
  ShCISSORShHOGI_PIECEhKULL_AND_CROSSBONEShLIGHTLY_SMALL_CIRCLEvSQUAREhMALL_DIAMONDmLOZENGEmSQUAREnT
  ARiILING_FACEhNOWMANhPADE_SUIThQUAREm_BUTTONnCENTREDnFOR_STOPhTARhUN_WITH_RAYSgTELEPHONEhINY_DIAMO
  NDlLOZENGElSQUAREhOUCHTONE_TELEPHONEhRUCKhWO-WAY_LEFT_WAY_TRAFFICgUNIVERSAL_RECYCLING_SYMBOLhP-POI
  NTING_DOUBLE_TRIANGLEsISOSCELES_RIGHT_TRIANGLEsSMALL_TRIANGLEsTRIANGLEiPER_LEFT_TRIANGLEmRIGHT_TRI
  ANGLEiWARDS_EQUILATERAL_ARROWHEADi_POINTING_BACKHAND_INDEXgVERTICAL_ELLIPSEpRECTANGLEjY_SMALL_DIAM
  ONDrLOZENGErSQUAREdNK_SYMBOLcOCK_SEXTANT-1p2q3r4s5s6r5s6r6q4r5s6r6q5r6q6p3q4r5s6r6q56q6p4q5r6q6p5q
  6p6o2p3q4r5s6r6q5r6q6p4q5r6p5q6p6o3p4q5r6q6p5q6p6o4p5q6p6o5p6o6dSSOMdWFISHcUEBERRIESe_BOOKfHEARTbO
  ARcLD_EIGHT_SPOKED_ASTERISKfFIVE_SPOKED_ASTERISKfGREEK_CROSSfSALTIREgIX_SPOKED_ASTERISKfWHITE_CIRC
  LElSQUAREcMdBcNEcOKeMARKi_TABSeSdMERANGcPOMOFO_FINAL_LETTER_GwHwKwPwTjLETTER_ArHrIsNNrMrNsGsNrUsNN
  qBrUqCrHqDqErErHrIrNsGsNrRqFqGrHrNrUrWqHqIrHrMrNNtNrRrUqJrIqKrWqLrHqMqNrGsGrNqOrErMrNGsNrOrUr_WITH
  _DOT_ABOVEqPqQqRqSrHqTqUrNNqVqXqZrHrIrYcTTLE_WITH_POPPING_CORKeOM_ARC_ANTICLOCKWISE_ARROWhCURLY_BR
  ACKEThHALF_BLACK_CIRCLEmINTEGRALmLEFT_PARENTHESISmRIGHT_PARENTHESIShLEFT_CORNERnROPmHALF_BRACKEThP
  ARENTHESIShRIGHT_CORNERoROPnHALF_BRACKEThSQUARE_BRACKETv_OVER_TOP_SQUARE_BRACKEThTORTOISE_SHELL_BR
  ACKETcUQUETh_OF_FLOWERScWLINGe_OF_HYGIEIAfWITH_SPOONdTIEg_WITH_LEFT_HALF_BLACKmRIGHT_HALF_BLACKd_A
  ND_ARROWcXING_GLOVEd_DRAWINGS_DOUBLE_DOWN_AND_HORIZONTALzeLEFTzeRIGHTuHORIZONTALuUP_AND_HORIZONTAL
  zcLEFTzcRIGHTuVERTICALzd_AND_HORIZONTALziLEFTziRIGHTpWN_DOUBLE_AND_HORIZONTAL_SINGLEzeLEFT_SINGLEz
  eRIGHT_SINGLEsHEAVY_AND_HORIZONTAL_LIGHTzdLEFT_LIGHTziUP_LIGHTzdRIGHT_LIGHTzjUP_LIGHTzdUP_HORIZONT
  AL_LIGHTsLIGHT_AND_HORIZONTAL_HEAVYzdLEFT_HEAVYziUP_HEAVYzdRIGHT_HEAVYzjUP_HEAVYzdUP_HORIZONTAL_HE
  AVYsSINGLE_AND_HORIZONTAL_DOUBLEzeLEFT_DOUBLEzeRIGHT_DOUBLEnHEAVY_DOUBLE_DASH_HORIZONTALzgVERTICAL
  vWNx_AND_HORIZONTALzdLEFTzdRIGHTtHORIZONTALtLEFTx_AND_LIGHT_RIGHTtQUADRUPLE_DASH_HORIZONTALzjVERTI
  CALtRIGHTtTRIPLE_DASH_HORIZONTALzgVERTICALtUPv_AND_HORIZONTALzbLEFTzcIGHT_DOWNzbRIGHTtVERTICALzc_A
  ND_HORIZONTALzhLEFTzhRIGHTnLEFT_DOWN_HEAVY_AND_RIGHT_UP_LIGHTsHEAVY_AND_RIGHT_DOWN_LIGHTzjUP_LIGHT
  zjVERTICAL_LIGHTsLIGHT_AND_RIGHT_DOWN_HEAVYzjUP_HEAVYzjVERTICAL_HEAVYsUP_HEAVY_AND_RIGHT_DOWN_LIGH
  ToIGHT_ARC_DOWN_AND_LEFTzhRIGHTxUP_AND_LEFTzfRIGHTtDIAGONAL_CROSSzdDIAMONDzdMIDDLE_LEFT_TO_LOWER_C
  ENTREzzf_TO_MIDDLE_RIGHTzsUPPER_CENTRE_TO_MIDDLE_RIGHTzzv_TO_LOWER_CENTREzkRIGHT_TO_LOWER_CENTREzt
  UPPER_CENTRE_TO_MIDDLE_LEFT_TO_LOWER_CENTREzdUPPER_CENTRE_TO_MIDDLE_LEFTzzf_AND_MIDDLE_RIGHT_TO_LO
  WER_CENTREzzgTO_LOWER_CENTREzzv_TO_MIDDLE_RIGHTzzbRIGHTzzg_AND_MIDDLE_LEFT_TO_LOWER_CENTREzzhTO_LO
  WER_CENTREzzw_TO_MIDDLE_LEFTzjLEFT_TO_LOWER_RIGHTzjRIGHT_TO_LOWER_LEFTuOUBLE_DASH_HORIZONTALzgVERT
  ICALvWNx_AND_HORIZONTALzdLEFTzdRIGHTtHORIZONTALze_WITH_VERTICAL_STROKEtLEFTx_AND_HEAVY_RIGHTtQUADR
  UPLE_DASH_HORIZONTALzjVERTICALtRIGHTtTRIPLE_DASH_HORIZONTALzgVERTICALtUPv_AND_HEAVY_DOWNzcORIZONTA
  LzbLEFTzbRIGHTtVERTICALzc_AND_HORIZONTALzhLEFTzhRIGHTnRIGHT_DOWN_HEAVY_AND_LEFT_UP_LIGHTtHEAVY_AND
  _LEFT_DOWN_LIGHTzjUP_LIGHTzjVERTICAL_LIGHTtLIGHT_AND_LEFT_DOWN_HEAVYzjUP_HEAVYzjVERTICAL_HEAVYtUP_
  HEAVY_AND_LEFT_DOWN_LIGHTnUP_DOUBLE_AND_HORIZONTAL_SINGLEzcLEFT_SINGLEzcRIGHT_SINGLEqHEAVY_AND_DOW
  N_HORIZONTAL_LIGHTzbHORIZONTAL_LIGHTzbLEFT_DOWN_LIGHTzgLIGHTzbRIGHT_DOWN_LIGHTzhLIGHTqLIGHT_AND_DO
  WN_HORIZONTAL_HEAVYzbHORIZONTAL_HEAVYzbLEFT_DOWN_HEAVYzgHEAVYzbRIGHT_DOWN_HEAVYzhHEAVYqSINGLE_AND_
  HORIZONTAL_DOUBLEzcLEFT_DOUBLEzcRIGHT_DOUBLEnVERTICAL_DOUBLE_AND_HORIZONTAL_SINGLEziLEFT_SINGLEziR
  IGHT_SINGLEwHEAVY_AND_HORIZONTAL_LIGHTzhLEFT_LIGHTzhRIGHT_LIGHTwLIGHT_AND_HORIZONTAL_HEAVYzhLEFT_H
  EAVYzhRIGHT_HEAVYwSINGLE_AND_HORIZONTAL_DOUBLEziLEFT_DOUBLEziRIGHT_DOUBLEcYdS_SYMBOLbPHbRAHMI_DAND
  AiIGIT_EIGHTnFIVEoOURnNINEnONEnSEVENoIXnTHREEoWOnZEROiOUBLE_DANDAhLETTER_ApApIpUoBApHAoCApHAoDApDA
  qHApHAoEoGApHAoHAoIpIoJApHAoKApHAoLApLAoMAoNApGApNApYAoOpLD_TAMIL_LLAzbLAyNNNAyRRAySHORT_EzfOoPApH
  AoRAoSApHApSAoTApHApTAqHAoUpUoVApOCALIC_LxLwRxRoYAhNUMBER_EIGHTtYoFIFTYqVEpORTYqURoJOINERoNINEsTYo
  ONEr_HUNDREDsTHOUSANDoSEVENtTYpIXrTYoTENpHIRTYqREEpWENTYqOhPUNCTUATION_CRESCENT_BARtDOTvUBLE_DOTtL
  INEuOTUShSIGN_ANUSVARAmCANDRABINDUmJIHVAMULIYAmOLD_TAMIL_VIRAMAmUPADHMANIYAmVISARGAhVIRAMAiOWEL_SI
  GN_AAtItUsBHATTIPROLU_AAsEsItIsOtLD_TAMIL_SHORT_EzjOsUtUsVOCALIC_LzcLzbRzcRdILLE_PATTERN_BLANKqDOT
  S-1w2x3y4z5zb6zc7zd8zc8zb7zc8zb8z6zb7zc8zb8z7zb8z8y5z6zb7zc8zb8z7zb8z8y6z7zb8z8y7z8y8x4y5z6zb7zc8z
  b8z7zb8z8y6z7zb8z8y7z8y8x5y6z7zb8z8y7z8y8x6y7z8y8x7y8x8w3x4y5z6zb7zc8zb8z7zb8z8y6z7zb8z8y7z8y8x5y6
  z7zb8z8y7z8y8x6y7z8y8x7y8x8w4x5y6z7zb8z8y7z8y8x6y7z8y8x7y8x8w5x6y7z8y8x7y8x8w6x7y8x8w7x8w8v2w3x4y5
  z6zb7zc8zb8z7zb8z8y6z7zb8z8y7z8y8x5y6z7zb8z8y7z8y8x6y7z8y8x7y8x8w4x5y6z7zb8z8y7z8y8x6y7z8y8x7y8x8w
  5x6y7z8y8x7y8x8w6x7y8x8w7x8w8v3w4x5y6z7zb8z8y7z8y8x6y7z8y8x7y8x8w5x6y7z8y8x7y8x8w6x7y8x8w7x8w8v4w5
  x6y7z8y8x7y8x8w6x7y8x8w7x8w8v5w6x7y8x8w7x8w8v6w7x8w8v7w8v8eNcEADeK_PERMITTED_HEREeST-FEEDINGdVEcIC
  KdDE_WITH_VEILeGE_AT_NIGHTdEFCASEfScOCCOLIdKEN_BARhCIRCLE_WITH_NORTHWEST_ARROWhHEARTdOMdWN_HEARTbS
  bUBBLESg_TEAcCKETcGdINESE_END_OF_SECTIONjLETTER_AqBAqCAqDAqGAqHAqJAqKAqLAqMArPAqNArGAsKArRArYAsCAq
  PAqRAqSAqTAqVAqYAjPALLAWAjVOWEL_SIGN_AEuEuIuOuUcHID_LETTER_AnBAnDAnGAnHAnInKAnLAnMAnNAoGAnPAnRAnSA
  nTAnUnWAnYAgVOWEL_SIGN_IrUcILDING_CONSTRUCTIONcLLETg_OPERATOReHORNi_WITH_SOUND_WAVESeSEYEcRRITOcSd
  TS_IN_SILHOUETTEe_IN_SILHOUETTEd_STOPcTTERgFLYbYTE_ORDER_MARKcZANTINE_MUSICAL_SYMBOL_AGOGI_ARGIzjO
  TERIzgGORGIzkOTERIzgMESIziTRIAzgPOLI_ARGIzlGORGIzbNATRICHISMAzcTIKENOKYLISMAziMAzbPESO_EKFONITIKON
  zhXO_NEOzcLIzcODERMA_ARCHAIONzjNEOzdSTROFOI_SYNDESMOS_NEOzlTELOUS_ICHIMATOSzjSzk_DIPLIzlNEOzdTHEMA
  zbRGONzeSYNTHETONzcKTIKO_DIziGAziKEziNIziPAziVOUziZOzCHAMILIzgONzcOREVMA_ARCHAIONzjNEOzcROA_KLITON
  zgSPATHIzgZYGOSzDASEIAzbIARGONzdSTOLI_APLI_MEGALIzpIKRIzjDIPLIzjTHESEOSzcESIS_APLI_DYO_DODEKATAzhD
  IGRAMMOS_EX_DODEKATAzhMONOGRAMMOS_TESSERA_DODEKATAzhTETARTIMORIONziRIGRAMMOS_OKTO_DODEKATAzkTIMORI
  ONzcFTOGGOS_OUzcGORGONzi_PARESTIGMENON_ARISTERA_ANOzzhKATOzxDEXIAzdRAMMA_GGzcPLIzf_ARCHAIONzbYOzEK
  STREPTONzbLAFRONzbNARXIS_KAI_FTHORA_VOUzcDOFONONzbPEGERMAzbTERON_ARGOSYNTHETONzhPARAKALESMAzbXO_EK
  FONITIKONzFANEROSIS_DIFONIASzkMONOFONIASzkTETRAFONIASzbHTORA_SKLIRON_CHROMA_VASISzbTHORA_ARCHAIONz
  p_DEYTEROU_ICHOUzhDIATONIKI_DIzrKEzrNANAzsI_ANOzuKATOzrPAzrZOzhENARMONIOS_ANTIFONIAzhI_YFESIS_TETA
  RTIMORIONzhMALAKON_CHROMA_DIFONIASzwMONOFONIASzhNAOS_ICHOSziENANOzhSKLIRON_CHROMA_SYNAFIzwVASISzpD
  IATONON_DIzGENIKI_DIESISzhYFESISzbORGON_ARCHAIONzhNEO_ANOzlKATOzhPARESTIGMENON_ARISTERAzvDEXIAzfSY
  NTHETONzdTHMIKON_N_APLOUNznDIPLOUNzbRONTHISMATAzICHADINzbMIDIARGONzdFONONzeTHORAziONzbSAKIA_TELOUS
  _ICHIMATOSzcON_ARCHAIONzfNEOzKATAVASMAzg_TROMIKONzdHISTIzbENTIMATAzj_ARCHAIONzkNEO_ANOzoKATOzoMESO
  zh_ARCHAIONziNEO_ANOzmKATOzmMESOzbLASMAzg_ANOzhKATOzbONTEVMAzi_ALLOzcRONISzcUFISMAzbRATIMATAzh_ALL
  OzjRCHAIONziNEOzgOKOUFISMAzhYPORROONzcEMASTIzbYLISMAzLEIMMA_DYO_CHRONONzhENOS_CHRONOUzhIMISEOS_CHR
  ONOUzhTESSARON_CHRONONziRION_CHRONONzcMOIzbYGISMAzMARTYRIA_ALLI_DEYTEROS_ICHOSzoPROTOS_ICHOSzjDEYT
  EROS_ICHOSzjLEGETOS_ICHOSzjPLAGIOS_ICHOSzrTETARTOS_ICHOSzkROTOS_ICHOSzoVARYS_ICHOSzjTETARTOS_ICHOS
  zsLEGETOS_ICHOSzkRIFONIASzmTOS_ICHOSzjVARYS_ICHOSzbIKRON_ISONzNANAzOLIGON_ARCHAIONzhNEOzbMALONzbXE
  IAI_ARCHAIONzf_DIPLIzgEKFONITIKONzgNEOzbYRANISMA_ARCHAIONzkNEOzPARAKALESMA_ARCHAIONzmNEOzfLITIKIzl
  _ARCHAIONzmNEOzdICHONzbELASTONzi_NEOzcRISPOMENIzcTASMAzfTIzgOKOUFISMAzbIASMA_ARCHAIONzhNEOzbSIFIST
  OLYGISMAziNzj_NEOziPARAKALESMAziSYNAGMAzdLIzeONzRAPISMAzbEVMAzSAXIMATAzbEISMAzg_NEOzbIMANSIS_ARSEO
  Szp_DISIMOUzqTETRASIMOUzrRISIMOUzjTHESEOSzq_DISIMOUzrTETRASIMOUzsRISIMOUzbTAVROSzh_APODEXIAzcIGMAz
  cRAGGISMATAzbYNAGMA_ARCHAIONziMETA_STAVROUziNEOzdEVMAzcRMAzfTIKIzTELEIAzcSSERAzcTRAPLIzbHEMAzfTISM
  OS_ESOznXOzf_APLOUNzdS_KAI_APOTHESzcITAzbINAGMAzbRIAzdGORGONzdPLIzcOMIKOLYGISMAzhN_ALLOzkRCHAIONzj
  NEOzhPARAKALESMAziSIFISTONzhSYNAGMAzVAREIAI_ARCHAIONzg_DIPLIzhEKFONITIKONzhNEOzcTHYzXIRON_KLASMAzY
  FEN_ANOzfKATOzdSIS_APLI_DYO_DODEKATAzhDIGRAMMOS_EX_DODEKATAzhMONOGRAMMOS_TESSERA_DODEKATAzhTRIGRAM
  MOS_OKTO_DODEKATAzkTIMORIONzbPOKRISISzj_DIPLIzdRROIzcSILIaCACTUScDA_UNAdUCEUScLENDARdL_ME_HANDcMER
  Ag_WITH_FLASHdPINGcNdADIAN_SYLLABICS_AuAvIvYuIvVILIK_BuNuTHAPASCAN_MzfSuYtBEAVER_DENE_LzgRuIBLE-CR
  EE_YuLACKFOOT_AzeEzeIzeKAzfEzfIzfOzeNAzfEzfIzfOzeOzeSzeWzfAzfEzfIzfOtCuAvAwIvRRIER_CHAzeEzfEzeIzeO
  zeUzcDEEzeNE_GEEzfTAL_SzdIzdLAzeEzfEzeIzeOzeUzdZAzeEzfEzeIzeOzeUzcEEzcGAzeAzdEzeEzdHAzeEzfEzeIzeOz
  eUzdIzdOzdUzdWAzeUzcHzdEEzdIzdWAzeEzfEzeIzeOzeUzcIzdNITIAL_ZzcJAzdEzeEzdIzdJAzeEzfEzeIzeOzeUzdOzdU
  zdWAzcKHAzeEzfEzeIzeOzeUzdKzeAzeEzfEzeIzeOzeUzcLAzdEzeEzdHAzeEzfEzeIzeOzeUzdIzdOzdUzcMAzdEzeEzdIzd
  OzdUzcNAzdEzeEzdGzdIzdOzdUzcPzdAzdEzeEzdIzdOzdUzcRAzdEzeEzdIzdOzdUzcSAzdEzeEzdHzeAzeEzfEzeIzeOzeUz
  dIzdOzdUzcTHAzeEzfEzeIzeOzeUzdLAzeEzfEzeHAzfEzgEzfIzfOzfUzeIzeOzeUzdSAzeEzfEzeIzeOzeUzdTAzeEzfEzeI
  zeOzeSAzfEzgEzfIzfOzfUzeUzcWAzdEzeEzdIzdOzdUzcYAzdEzeEzdIzdOzdUzcZzdAzdEzeEzdIzdOzdUuEuHI_SIGNuIvI
  uOvOuWAwAvEvIwIvOwOtEuASTERN_WuNtFuAvAwIuEuIvIvNAL_ACUTEzBOTTOM_HALF_RINGzDOUBLE_ACUTEzhSHORT_VERT
  ICAL_STROKESzcWN_TACKzGRAVEzMIDDLE_DOTzPLUSzRAISED_DOTzbIGHT_HALF_RINGzcNGzSHORT_HORIZONTAL_STROKE
  zbMALL_RINGzTOP_HALF_RINGuOvOuULL_STOPuWAAtGLOTTAL_STOPtHKuYPHENtIuIuNtKuAvAwIvYuEuIvIuOvOuWvAwAwY
  vEvIwIvOwOtLuAvAwIvYuEuHvAwAvIwIvOwOuIvIuOvOuWAwAvEvIwIvOwOtMuAvAwIvYuEvDIAL_LzbRuHuIvIuOvOwSE-CRE
  E_SKuWAwAvEvIwIvOwOtNu-CREE_THEzdIzeIuAvAwIvSKAPI_CWAAzcKWAAzcMWAAzcNWAAzcS-WzdCWAzdKWzfAzdPWAzdTW
  AzdWAAzcTWAAzcWAAzdOOzcYWAAvTTILIK_HAzfAzeIzfIzeOzfOzdSHRAzhAzgIzhIzgOzhOvYuEuGvAwAxIwIvIwIvOwOuHu
  IvIuNGwAxAwIxIwOxOuOvOvYuUNAVIK_HzdAzeAzdEzdIzeIzdOzeOyUT_HuWAwAvEvIwIvOwOtOuJIBWAY_CzcKzcMzcNzdWI
  zfIzeOzfOzcPzcSzdHzcTuNuOuYtPuAvAwIvYuEuIvIuOvOvYuWAwAvEvIwIvOwOwYtQuAvAwIvIuIvIuOvOtRu-CREE_REzcW
  EuAvAwIvYuEuIvIuOvOuWAwAvEEvIwIvOwOtSuAvAwIvYwISI_HAzcEzcIzcOzdOzbJIzcUzdUzbMzbSHAzdEzdIzdOzeOzdWE
  zbTHzbYIuEuHvAwAwYvEvIwIvOwOwYvWAxAwEwIxIwOxOxYuIvIuOvOvUTH-SLAVEY_KAHziEHziIHziOHvYuPAvEvIvOuWvAw
  AvEvIwIvOwOtTuAvAwIvYuEuHv-CREE_THzeAzfAzeEzeIzfIzeOzfOvAwAvEvIwIvOwOvWAxAwEuIvIuLHAwEwIwOxOwWEuOv
  OuTAvEvHwAxAwEwIwOxOwWEvIvOuWAwAvEvIwIvOwOuYAvEvIvOtWAvAvYuEvST-CREE_CWAzhAzgEzgIzhIzgOzhOzeFWAAze
  KWAzhAzgEzgIzhIzgOzhOzeLzfAzgAzfEzfOzgOzfWAzhAzgEzgIzhIzgOzhOzeMzfWAzhAzgEzgIzhIzgOzhOzeNWAzhAzgEz
  ePzfWAzhAzgEzgIzhIzgOzhOzeRzfAzfEzfIzfOzfWAAzeSHWAziAzhEzhIziIzhOziOzfWAzhAzgEzgIzhIzgOzhOzeTHWAAz
  fWAzhAzgEzgIzhIzgOzhOzeWAzgAzfEzfIzgIzfOzgOzeYzfWAzhAzgEzgIzhIzgOzhOxERN_WuIvIuOvOwDS-CREE_FINAL_T
  HzfTHzhAzhEzhIzhOzhWAzjAziEEziIzjIziOzjOtYu-CREE_COOzbKOOzbLOOzbMOOzbNOOzbOOzbPOOzcWAAzbSOOzbTOOzb
  WzbYOOuAvAwIvYuEuIvIuOvOvYuWAwAvEvIwIvOwOdCELgLATION_Xg_CHARACTERhTAGfRdDLEeYdNED_FOODdOEcPITULUMd
  RICORNcRD_FILE_BOXfINDEXk_DIVIDERSdETf_INSERTION_POINTe_OFdIAN_LETTER_Ap2oBoC-18q39oDp2oEp2oGp2oIp
  IoKp2oLpDq2oMpBq2q3q4oNpDpGpNoOoPp2oQoRpRoSpHq2pSpTq2oTpTq2oUpUqUr2r3rUoXdONeUSEL_HORSEdPENTRY_SAW
  e_STREAMERdRIAGE_RETURNeOTd_SLIDINGcSTLEcTd_FACEi_WITH_TEARS_OF_JOYoWRY_SMILEcUCASIAN_ALBANIAN_CIT
  ATION_MARKtLETTER_ALTzcORzbBETzbCARzdYNzcHAzeTzdIzdOYzcYAWzeYzbDATzcYANzcZAYzdYAYzbEBzcYNzbFAMzbGH
  EYSzcIMzbHEYTzbINYAzcRBzcWNzbJAYNzcHOXzbKARzcIWzbLANzcYITzbMAQzbNOWCzbONzbPENzcIWRzbQARzdYzbRATzbS
  EYKzcHAzeKzdOYzbTASzcIWRzcYAYzbVEYZzbXEYNzbYAYDzcOWDzbZARLzcHAzdILdTION_SIGNbCHbEDILLAe_SIGNcLTIC_
  CROSScNTRELINE_LOW_LINElOVERLINEg_LINE_SYMBOLe_SIGNcRESbGJbHAINSeRdKMA_AU_MARKhDANDAiIGIT_EIGHTnFI
  VEoOURnNINEnONEnSEVENoIXnTHREEoWOnZEROiOUBLE_DANDAhLETTER_AAoBAApHAAoCAApHAAoDAApDAAqHAApHAAoEoGAA
  pHAAoHAAoIoJAApHAAoKAApHAAoLAApHAAoMAAoNAApGAApNAApYAAoPAApHAAoRAAoSAAoTAApHAApTAAqHAAoUoVAAoWAAoY
  AApYAAhMAAYYAAhO_MARKhQUESTION_MARKhSECTION_MARKiIGN_ANUSVARAmCANDRABINDUmVISARGAhVIRAMAiOWEL_SIGN
  _AtAtItUsEtIsItIsOtIsUtUdM_CONSONANT_SIGN_FINAL_HzbMzbNGuLAuRAuWAuYAfDIGIT_EIGHTlFIVEmOURlNINElONE
  lSEVENmIXlTHREEmWOlZEROfLETTER_AnImBAnBAnHAmCHAoHAmDAnDAnHAmEmFINAL_CHsGsKsLsNtGsPsRsSSsTsYmGAnHAm
  HAmImJAnHAmKAnHAmLAmMAnUEmNAnGAoUEnHAoJAoUEnUEmOmPAnHAnPAmRAmSAnSAmTAnHAmUmVAmYAfPUNCTUATION_DANDA
  sOUBLE_DANDArSPIRALrTRIPLE_DANDAfVOWEL_SIGN_AArIrUqEIqIrIqOrEqUrEdRACTER_TABULATIONu_SETvWITH_JUST
  IFICATIONlIEeT_WITH_DOWNWARDS_TRENDlUPWARDS_TRENDy_AND_YEN_SIGNcECKER_BOARDn_FILLf_MARKdERING_MEGA
  PHONEeSE_WEDGEdQUERED_FLAGdROKEE_LETTER_AqDArErIrLArOrUrVqEqGArErIrOrUrVqHArErIrNArOrUrVqIqKAqLArE
  rIrOrUrVqMArErIrOrUrVqNAsHrErIrOrUrVqOqQUAsEsIsOsUsVqSrArErIrOrUrVqTArErIrLAsEsIsOsUsVrSAsEsIsOsUs
  VqUqVqWArErIrOrUrVqYArErIrOrUrVjSMALL_LETTER_AwDAxExIxLAxOxUxVwEwGAxExIxOxUxVwHAxExIxNAxOxUxVwIwKA
  wLAxExIxOxUxVwMAxExIxOxUxVwNAyHxExIxOxUxVwOwQUAyEyIyOyUyVwSxAxExIxOxUxVwTAxExIxLAyEyIyOyUyVxSAyEyI
  yOyUyVwUwVwWAxExIxOxUxVwYAxExIxOxUxVeRIESfY_BLOSSOMdSTNUTcICKENdLDfREN_CROSSINGdPMUNKdRONd_RHOcOCO
  LATE_BARdPSTICKSdRASMIAN_LETTER_ALEPHtYINsBETHsCURLED_WAWsDALETHsGIMELsHEuTHsKAPHsLAMEDHsMEMsNUNsP
  EsRESHsSAMEKHtHINtMALL_ALEPHsTAWsWAWsYODHsZAYINlNUMBER_FOURsONEv_HUNDREDsTENtHREEtWENTYuOcRISTMAS_
  TREEcURCHbINEMAcRCLED_ANTICLOCKWISE-ROTATED_DIVISION_SIGNv_ARROWjSTERISK_OPERATORiBOLD_XjULLETiCCj
  DjROSSING_LANESn_FORMEEu_WITH_FOUR_DOTSzbTWO_DOTSoPOMMEEj_WITH_OVERLAID_BACKSLASHiDASHjIGIT_EIGHTo
  FIVEpOURoNINEoONEoSEVENpIXoTHREEpWOoZEROkVISION_SIGNsLASHjOLLAR_SIGN_WITH_OVERLAID_BACKSLASHkT_OPE
  RATORiEQUALSiGREATER-THANiHANGUL_CHIEUCHw_AqIEUCu_ApHIEUHu_ApIEUNGu_AvUpKHIEUKHw_AqIYEOKv_ApMIEUMu
  _ApNIEUNu_ApPHIEUPHw_AqIEUPu_ApRIEULu_ApSIOSt_ApTHIEUTHw_AqIKEUTv_AjEAVY_WHITE_RIGHTWARDS_ARROWjOR
  IZONTAL_BAR_WITH_NOTCHjUMAN_FIGUREiIDEOGRAPH_ACCEPTtDVANTAGEtLLIANCEtTTENTIONsCENTREtONGRATULATION
  uPYuRRECTsEARTHtIGHTtNTERPRISEtXCELLENTsFEMALEtINANCIALuREuVEtOURsHAVEtIGHsITEMsKINDERGARTENtOTOsL
  ABORtEFTtOWsMALEtEDICINEuTALtOONsNAMEtIGHTuNEsONEsPRINTsQUESTIONsRELIGIONuSOURCEvTtIGHTsSCHOOLtECR
  ETuVENtIXtOCIETYtPECIALtTOCKuUDYtUITABLEuNuPERVISEsTENtHREEtWOsWATERtOODjNFORMATION_SOURCEjTALIC_L
  ATIN_CAPITAL_LETTER_CzlRiKATAKANA_ArErHAsEsIsOsUrIrKAsEsIsOsUrMAsEsIsOsUrNAsEsIsOsUrOrRAsEsIsOsUrS
  AsEsIsOsUrTAsEsIsOsUrUrWAsEsIsOrYAsOsUjOREAN_CHARACTER_CHAMKOzJUEUIiLATIN_CAPITAL_LETTER_AzeBzeCze
  DzeEzeFzeGzeHzeIzeJzeKzeLzeMzeNzeOzePzeQzeRzeSzeTzeUzeVzeWzeXzeYzeZoSMALL_LETTER_AzcBzcCzcDzcEzcFz
  cGzcHzcIzcJzcKzcLzcMzcNzcOzcPzcQzcRzcSzcTzcUzcVzcWzcXzcYzcZjESS-THANiMINUSjULTIPLICATION_SIGN_WITH
  _CIRCUMFLEX_ACCENTiNUMBER_EIGHTEENuY_ON_BLACK_SQUAREqLEVENpFIFTEENtYu_ON_BLACK_SQUAREqORTYu_EIGHTv
  FIVEwOURvNINEvONEx_BLACK_SQUAREvSEVENwIXvTHREEwWOrURTEENpNINETEENpSEVENTEENvY_ON_BLACK_SQUAREqIXTE
  ENtY_ON_BLACK_SQUAREpTENs_ON_BLACK_SQUAREqHIRTEENuYv_EIGHTwFIVExOURwNINEwONEy_BLACK_SQUAREwSEVENxI
  XwTHREExWOqWELVEsNTYv_EIGHTwFIVExOURwNINEwONEy_BLACK_SQUAREwSEVENxIXwTHREExWOiOPEN_CENTRE_EIGHT_PO
  INTED_STARiPARALLELjERPENDICULARjLUSjOSTAL_MARKiREVERSE_SOLIDUSjING_OPERATORiSQUAREiTIMESjRIANGLEq
  _DOWNiVERTICAL_BARiWHITE_BULLEToSTARjZiXiZERO_WITH_SLASHg_DIVIDED_BY_HORIZONTAL_BAR_AND_TOP_HALF_D
  IVIDED_BY_VERTICAL_BARhWITH_ALL_BUT_UPPER_LEFT_QUADRANT_BLACKmHORIZONTAL_BARmLEFT_HALF_BLACKnOWER_
  HALF_BLACKmRIGHT_HALF_BLACKmSMALL_CIRCLE_TO_THE_RIGHTnUPERIMPOSED_XmTWO_HORIZONTAL_STROKES_TO_THE_
  RIGHTmUPPER_HALF_BLACKsRIGHT_QUADRANT_BLACKmVERTICAL_FILLeULATION_FUNCTIONfMFLEX_ACCENTfS_TENTcTYS
  CAPEj_AT_DUSKbJK_COMPATIBILITY_IDEOGRAPH-2F800zh1zh2zh3zh4zh5zh6zh7zh8zh9zhAzhBzhCzhDzhEzhFzg10zh1
  zh2zh3zh4zh5zh6zh7zh8zh9zhAzhBzhCzhDzhEzhFzg20zh1zh2zh3zh4zh5zh6zh7zh8zh9zhAzhBzhCzhDzhEzhFzg30zh1
  zh2zh3zh4zh5zh6zh7zh8zh9zhAzhBzhCzhDzhEzhFzg40zh1zh2zh3zh4zh5zh6zh7zh8zh9zhAzhBzhCzhDzhEzhFzg50zh1
  zh2zh3zh4zh5zh6zh7zh8zh9zhAzhBzhCzhDzhEzhFzg60zh1zh2zh3zh4zh5zh6zh7zh8zh9zhAzhBzhCzhDzhEzhFzg70zh1
  zh2zh3zh4zh5zh6zh7zh8zh9zhAzhBzhCzhDzhEzhFzg80zh1zh2zh3zh4zh5zh6zh7zh8zh9zhAzhBzhCzhDzhEzhFzg90zh1
  zh2zh3zh4zh5zh6zh7zh8zh9zhAzhBzhCzhDzhEzhFzgA0zh1zh2zh3zh4zh5zh6zh7zh8zh9zhAzhBzhCzhDzhEzhFzgB0zh1
  zh2zh3zh4zh5zh6zh7zh8zh9zhAzhBzhCzhDzhEzhFzgC0zh1zh2zh3zh4zh5zh6zh7zh8zh9zhAzhBzhCzhDzhEzhFzgD0zh1
  zh2zh3zh4zh5zh6zh7zh8zh9zhAzhBzhCzhDzhEzhFzgE0zh1zh2zh3zh4zh5zh6zh7zh8zh9zhAzhBzhCzhDzhEzhFzgF0zh1
  zh2zh3zh4zh5zh6zh7zh8zh9zhAzhBzhCzhDzhEzhFzf900zh1zh2zh3zh4zh5zh6zh7zh8zh9zhAzhBzhCzhDzhEzhFzg10zh
  1zh2zh3zh4zh5zh6zh7zh8zh9zhAzhBzhCzhDzhEzhFzg20zh1zh2zh3zh4zh5zh6zh7zh8zh9zhAzhBzhCzhDzhEzhFzg30zh
  1zh2zh3zh4zh5zh6zh7zh8zh9zhAzhBzhCzhDzhEzhFzg40zh1zh2zh3zh4zh5zh6zh7zh8zh9zhAzhBzhCzhDzhEzhFzg50zh
  1zh2zh3zh4zh5zh6zh7zh8zh9zhAzhBzhCzhDzhEzhFzg60zh1zh2zh3zh4zh5zh6zh7zh8zh9zhAzhBzhCzhDzhEzhFzg70zh
  1zh2zh3zh4zh5zh6zh7zh8zh9zhAzhBzhCzhDzhEzhFzg80zh1zh2zh3zh4zh5zh6zh7zh8zh9zhAzhBzhCzhDzhEzhFzg90zh
  1zh2zh3zh4zh5zh6zh7zh8zh9zhAzhBzhCzhDzhEzhFzgA0zh1zh2zh3zh4zh5zh6zh7zh8zh9zhAzhBzhCzhDzhEzhFzgB0zh
  1zh2zh3zh4zh5zh6zh7zh8zh9zhAzhBzhCzhDzhEzhFzgC0zh1zh2zh3zh4zh5zh6zh7zh8zh9zhAzhBzhCzhDzhEzhFzgD0zh
  1zh2zh3zh4zh5zh6zh7zh8zh9zhAzhBzhCzhDzhEzhFzgE0zh1zh2zh3zh4zh5zh6zh7zh8zh9zhAzhBzhCzhDzhEzhFzgF0zh
  1zh2zh3zh4zh5zh6zh7zh8zh9zhAzhBzhCzhDzhEzhFzfA00zh1zh2zh3zh4zh5zh6zh7zh8zh9zhAzhBzhCzhDzhEzhFzg10z
  h1zh2zh3zh4zh5zh6zh7zh8zh9zhAzhBzhCzhDzdF900zg1zg2zg3zg4zg5zg6zg7zg8zg9zgAzgBzgCzgDzgEzgFzf10zg1zg
  2zg3zg4zg5zg6zg7zg8zg9zgAzgBzgCzgDzgEzgFzf20zg1zg2zg3zg4zg5zg6zg7zg8zg9zgAzgBzgCzgDzgEzgFzf30zg1zg
  2zg3zg4zg5zg6zg7zg8zg9zgAzgBzgCzgDzgEzgFzf40zg1zg2zg3zg4zg5zg6zg7zg8zg9zgAzgBzgCzgDzgEzgFzf50zg1zg
  2zg3zg4zg5zg6zg7zg8zg9zgAzgBzgCzgDzgEzgFzf60zg1zg2zg3zg4zg5zg6zg7zg8zg9zgAzgBzgCzgDzgEzgFzf70zg1zg
  2zg3zg4zg5zg6zg7zg8zg9zgAzgBzgCzgDzgEzgFzf80zg1zg2zg3zg4zg5zg6zg7zg8zg9zgAzgBzgCzgDzgEzgFzf90zg1zg
  2zg3zg4zg5zg6zg7zg8zg9zgAzgBzgCzgDzgEzgFzfA0zg1zg2zg3zg4zg5zg6zg7zg8zg9zgAzgBzgCzgDzgEzgFzfB0zg1zg
  2zg3zg4zg5zg6zg7zg8zg9zgAzgBzgCzgDzgEzgFzfC0zg1zg2zg3zg4zg5zg6zg7zg8zg9zgAzgBzgCzgDzgEzgFzfD0zg1zg
  2zg3zg4zg5zg6zg7zg8zg9zgAzgBzgCzgDzgEzgFzfE0zg1zg2zg3zg4zg5zg6zg7zg8zg9zgAzgBzgCzgDzgEzgFzfF0zg1zg
  2zg3zg4zg5zg6zg7zg8zg9zgAzgBzgCzgDzgEzgFzeA00zg1zg2zg3zg4zg5zg6zg7zg8zg9zgAzgBzgCzgDzgEzgFzf10zg1z
  g2zg3zg4zg5zg6zg7zg8zg9zgAzgBzgCzgDzgEzgFzf20zg1zg2zg3zg4zg5zg6zg7zg8zg9zgAzgBzgCzgDzgEzgFzf30zg1z
  g2zg3zg4zg5zg6zg7zg8zg9zgAzgBzgCzgDzgEzgFzf40zg1zg2zg3zg4zg5zg6zg7zg8zg9zgAzgBzgCzgDzgEzgFzf50zg1z
  g2zg3zg4zg5zg6zg7zg8zg9zgAzgBzgCzgDzgEzgFzf60zg1zg2zg3zg4zg5zg6zg7zg8zg9zgAzgBzgCzgDzf70zg1zg2zg3z
  g4zg5zg6zg7zg8zg9zgAzgBzgCzgDzgEzgFzf80zg1zg2zg3zg4zg5zg6zg7zg8zg9zgAzgBzgCzgDzgEzgFzf90zg1zg2zg3z
  g4zg5zg6zg7zg8zg9zgAzgBzgCzgDzgEzgFzfA0zg1zg2zg3zg4zg5zg6zg7zg8zg9zgAzgBzgCzgDzgEzgFzfB0zg1zg2zg3z
  g4zg5zg6zg7zg8zg9zgAzgBzgCzgDzgEzgFzfC0zg1zg2zg3zg4zg5zg6zg7zg8zg9zgAzgBzgCzgDzgEzgFzfD0zg1zg2zg3z
  g4zg5zg6zg7zg8zg9eRADICAL_BAMBOOnLUEnOLT_OF_CLOTHoNEoXnRUSH_ONEsTWOmC-SIMPLIFIED_BIRDzCARTzDRAGONz
  EATzbVENzFISHzbLYzbROGzGATEzbOLDzHORSEzLEAFzbONGzSALTzbEEzbHELLzbILKzbPEECHzTANNED_LEATHERzbOOTHzb
  URTLEzWINDnHOKEnITYoVILIANnLIFFoOTHESnOWmDEATHnIVINATIONnOGmEAT_ONEqTHREErWOnWEnYEmFIREnOOTmGHOSTn
  RASS_ONEsTHREEtWOmHANDnEADpRT_ONEsTWOnORNmJ-SIMPLIFIED_DRAGONzEVENzTOOTHzbURTLEnADEmKNIFE_ONEsTWOm
  LAME_FOURrONErTHREEsWOnONG_ONErTWOmMEAToSHnOONoRTARoTHERoUND_ONEsTWOmNET_FOURqONEqTHREErWOmOLDmPAW
  _ONEqTWOnERSONmRAINoMoPnEPEATmSEALoCOND_ONEtTHREEuWOnHEEPnILKoMPLIFIED_HALF_TREE_TRUNKyORNxWALKyHE
  ATxYELLOWnMALL_ONEsTWOnNAKEoOUT_ONEsTWOnPIRIT_ONEtTWOnUNmTABLEnHREADnIGERnURTLEmWALK_ONErTWOoTER_O
  NEsTWOnEST_ONErTWOeSTROKE_BXGlDlHmGmPnWGmXWGmZnGnTnWoGnZoPoZpGlNlPmDmGmZlQlSmGmPmTmWnGnZmZnWGnZlTm
  NlWGlXGbLAMSHELL_MOBILE_PHONEdPPER_BOARDfING_HANDS_SIGNdSSICAL_BUILDINGcEAR_SCREEN_SYMBOLcINKING_B
  EER_MUGSjGLASSESdPBOARDcOCKWISE_CLOSED_CIRCLE_ARROWlONTOUR_INTEGRALkDOWNWARDS_AND_UPWARDS_OPEN_CIR
  CLE_ARROWSkGAPPED_CIRCLE_ARROWkINTEGRALkOPEN_CIRCLE_ARROWkRIGHTWARDS_AND_LEFTWARDS_OPEN_CIRCLE_ARR
  OWSzzd_WITH_CIRCLED_ONE_OVERLAYp_AND_LEFT_SEMICIRCLE_ARROWSkTOP_SEMICIRCLE_ARROWlRIANGLE-HEADED_OP
  EN_CIRCLE_ARROWf_FACE_EIGHT-THIRTYq_OCLOCKmLEVEN-THIRTYr_OCLOCKlFIVE-THIRTYp_OCLOCKmOUR-THIRTYp_OC
  LOCKlNINE-THIRTYp_OCLOCKlONE-THIRTYo_OCLOCKlSEVEN-THIRTYq_OCLOCKmIX-THIRTYo_OCLOCKlTEN-THIRTYo_OCL
  OCKmHREE-THIRTYq_OCLOCKmWELVE-THIRTYr_OCLOCKnO-THIRTYo_OCLOCKdSED_BOOKhINTERSECTION_WITH_SERIFShLO
  CK_WITH_KEYhMAILBOX_WITH_LOWERED_FLAGuRAISED_FLAGhSUBSETn_OR_EQUAL_TOjPERSETp_OR_EQUAL_TOhUMBRELLA
  iNION_WITH_SERIFSy_AND_SMASH_PRODUCTf_UPdUDf_WITH_LIGHTNINGlRAINlSNOWlTORNADOdWN_FACEbOATcCKROACHe
  TAIL_GLASSdONUTcFFINcINcLLISION_SYMBOLdONf_EQUALSgSIGNcMBINING_ACUTE-GRAVE-ACUTEqMACRONp_ACCENTw_B
  ELOWqTONE_MARKlLMOST_EQUAL_TO_ABOVEzbBELOWlNNUITY_SYMBOLmTICLOCKWISE_ARROW_ABOVEyRING_OVERLAYlSTER
  ISK_ABOVEtBELOWkBINDU_BELOWlREVEp-MACRONp_BELOWmIDGE_ABOVErBELOWkCANDRABINDUmRONp_BELOWlEDILLAlIRC
  UMFLEX_ACCENTzc_BELOWlLOCKWISE_ARROW_ABOVEuRING_OVERLAYlOMMA_ABOVEv_RIGHTqBELOWmNJOINING_MACRONzc_
  BELOWlYRILLIC_DASIA_PNEUMATAtHUNDRED_MILLIONS_SIGNzcTHOUSANDS_SIGNtKAVYKAtLETTER_AzbBEzcIG_YUSzbCH
  EzbDEzcJERVzbEFzcLzcMzcNzcRzcSzd-TEzbFITAzbGHEzbHAzdRD_SIGNzbIzcEzcOTIFIED_AzkBIG_YUSzkEzbKAzbLITT
  LE_YUSzbMONOGRAPH_UKzbOzcMEGAzbPEzbSHAzdCHAzcOFT_SIGNzbTEzcSEzbUzcKRAINIAN_IEzbVEzbYATzcERUzcIzcUz
  bZEzcHEtMILLIONS_SIGNtPALATALIZATIONvYEROKuOKRYTIEuSILI_PNEUMATAtTEN_MILLIONS_SIGNuHOUSAND_MILLION
  S_SIGNuITLOy_LEFT_HALFzRIGHT_HALFtVZMETkDELETION_MARKmVANAGARI_DIGIT_EIGHTzcFIVEzdOURzcNINEzcONEzc
  SEVENzdIXzcTHREEzdWOzcZEROvLETTER_AzdKAzdNAzdPAzdRAzdUzdVIvSIGN_AVAGRAHAlIAERESISt-RINGt_BELOWlOTT
  ED_ACUTE_ACCENTrGRAVE_ACCENTn_ABOVEt_LEFTuRIGHToBELOWt_LEFTmUBLED_CIRCUMFLEX_ACCENTq_ACUTE_ACCENTr
  BREVEw_BELOWrCIRCUMFLEX_ABOVErGRAVE_ACCENTrINVERTED_BREVEzg_BELOWrLOW_LINErMACRONx_BELOWrOPEN_MARK
  _BELOWsVERLINErPARENTHESES_ABOVEsLUS_SIGN_ABOVEzcBELOWrRIGHTWARDS_ARROW_BELOWtNG_BELOWrTILDEw_LEFT
  _HALFxRIGHT_HALFrVERTICAL_LINE_ABOVEzgBELOWzbSTROKE_OVERLAYmWNWARDS_ARROWo_TACK_BELOWkENCLOSING_CI
  RCLEzb_BACKSLASHuDIAMONDuKEYCAPuSCREENvQUAREuUPWARD_POINTING_TRIANGLElQUALS_SIGN_BELOWkFERMATAlOUR
  _DOTS_ABOVEkGLAGOLITIC_LETTER_AZUzdBIG_YUSzeUKYzdCHRIVIzdDJERVIzeOBROzdFITAzeRITUzdGLAGOLIzdHERUzd
  IzeNITIAL_IZHEzeOTATED_BIG_YUSzlSMALL_YUSzeZHEzdKAKOzdLJUDIJEzdMYSLITEzdNASHIzdONUzdPOKOJIzdRITSIz
  dSHAzfTAzeLOVOzeMALL_YUSzdTSIzeVRIDOzdUKUzdVEDEzdYATIzeERIzgUzfSTUzeOzeUzdZEMLJAzeHIVETElRANTHA_DI
  GIT_FIVEzOURyONEySIXyTHREEzWOyZEROsLETTER_AzKAzNAzPAzVInPHEME_JOINERnVE-ACUTE-GRAVEqMACRONp_ACCENT
  w_BELOWqTONE_MARKmEEK_DIALYTIKA_TONOSqKORONISqMUSICAL_PENTASEMEyTETRASEMEzRISEMEqPERISPOMENIqYPOGE
  GRAMMENIkHOMOTHETIC_ABOVEmOK_ABOVEmRNkINFINITYmVERTED_BREVEy_BELOWvIDGE_BELOWtDOUBLE_ARCH_ABOVEzgB
  ELOWlS_BELOWkKATAKANA-HIRAGANA_SEMI-VOICED_SOUND_MARKzdVOICED_SOUND_MARKmVYKA_ABOVE_LEFTxRIGHTkLAT
  IN_LETTER_SMALL_CAPITAL_GzmLzmMzmNzmRqSMALL_LETTER_AzfEzfLPHAzfOzfVzf_WITH_DIAERESISzeBzfETAzeCzf_
  CEDILLAzeDzeEzfSHzfTHzeFzfLATTENED_OPEN_A_ABOVEzeGzeHzeIzfNSULAR_DzmGzmRzmTzeKzeLzfONG_Szf_WITH_DO
  UBLE_MIDDLE_TILDEzeMzeNzeOzf_WITH_DIAERESISzlLIGHT_CENTRALIZATION_STROKEzePzeRzf_BELOWzgROTUNDAzeS
  zfCHWAzeTzfURNED_W_BELOWzeUzf_WITH_DIAERESISzlLIGHT_CENTRALIZATION_STROKEzeVzeWzf_BELOWzeXzeZlEFTW
  ARDS_ARROW_OVERLAYuHARPOON_WITH_BARB_DOWNWARDSo_ANGLE_ABOVEvBELOWqRROWHEAD_ABOVEzBELOWu_ABOVEvBELO
  WpHALF_RING_ABOVEzBELOWrRPOON_ABOVEpPARENTHESIS_ABOVE_LEFTzcBELOW_LEFTpRIGHT_ARROW_ABOVEzcBELOWpTA
  CK_BELOWlIGATURE_LEFT_HALFzd_BELOWtRIGHT_HALFze_BELOWnHT_CENTRALIZATION_STROKE_BELOWlONG_DOUBLE_SO
  LIDUS_OVERLAYpSOLIDUS_OVERLAYqTROKE_OVERLAYpVERTICAL_LINE_OVERLAYmW_LINEkMACRONq-ACUTErBREVErGRAVE
  q_BELOWrLEFT_HALFzb_BELOWrRIGHT_HALFzc_BELOWlINUS_SIGN_BELOWkNOT_TILDE_ABOVElUMBER_SIGN_ABOVEkOGON
  EKq_ABOVElLD_PERMIC_LETTER_ANzdDOIzdNENOEzdSIIzdZATAlPEN_MARK_BELOWlVERLINEkPALATALIZED_HOOK_BELOW
  mRENTHESES_ABOVEwBELOWwOVERLAYlLUS_SIGN_ABOVEuBELOWkRETROFLEX_HOOK_BELOWmVERSED_COMMA_ABOVEr_SOLID
  US_OVERLAYlIGHTWARDS_HARPOON_WITH_BARB_DOWNWARDSp_ARROWHEAD_ABOVEzcND_DOWN_ARROWHEAD_BELOWzfUP_ARR
  OWHEAD_BELOWzbBELOWv_ABOVEwBELOWqHALF_RING_ABOVEzbBELOWsRPOON_ABOVEqPARENTHESIS_ABOVE_RIGHTzdBELOW
  _RIGHTqTACK_BELOWmNG_ABOVEpBELOWpOVERLAYkSEAGULL_BELOWlHORT_SOLIDUS_OVERLAYrTROKE_OVERLAYqVERTICAL
  _LINE_OVERLAYlNAKE_BELOWlQUARE_BELOWsRACKETS_ABOVElTRONG_CENTRALIZATION_STROKE_BELOWlUSPENSION_MAR
  KkTHREE_DOTS_ABOVElILDEp_BELOWqLEFT_HALF_BELOWqOVERLAYqRIGHT_HALF_BELOWlRIPLE_ACUTE_ACCENTrDOTrUND
  ERDOTlURNED_COMMA_ABOVEkUPWARDS_ARROW_BELOWm_TACK_ABOVEsBELOWlR_ABOVElS_ABOVEkVERTICAL_LINE_ABOVEy
  BELOWtTILDEkWIDE_BRIDGE_ABOVEpINVERTED_BRIDGE_BELOWmGGLY_LINE_BELOWkX-X_BELOWl_ABOVEmBELOWkZIGZAG_
  ABOVErBELOWdETdMAeERCIAL_ATlMINUS_SIGNdPASSeLEMENTeOSITION_SYMBOLeRESSIONcNFETTI_BALLeOUNDED_FACEe
  USED_FACEdGRUENT_WITH_DOT_ABOVEdICAL_TAPERdJUNCTIONdSTRUCTION_SIGNnWORKERdTAINS_AS_MEMBERmNORMAL_S
  UBGROUPzc_OR_EQUAL_TOjWITH_LONG_HORIZONTAL_STROKEoOVERBARoVERTICAL_BAR_AT_END_OF_HORIZONTAL_STROKE
  eINUOUS_UNDERLINE_SYMBOLeOUR_INTEGRALeROL_KNOBSiSEQUENCE_INTRODUCERdVENIENCE_STOREcOKED_RICEeIEfNG
  cPTIC_CAPITAL_LETTER_AKHMIMIC_KHEIxLFAwBOHAIRIC_KHEIwCROSSED_SHEIyYPTOGRAMMIC_EIEzlGANGIAzlNIzlSHE
  IwDALDAxEIxIALECT-P_ALEFzhHORIzhKAPAzhNIwEIEwFEIxIwGAMMAyNGIAwHATExORIwIAUDAwKAPAxHEIyIxSIwL-SHAPE
  D_HAxAULAwMIwNIwOxLD_COPTIC_AINziDJAziESHziGANGIAziHAzkTzjEIzjORIziOOUziSHEIzkIMAzbNUBIAN_NGIzjYIz
  iSHIMAziWAUxOUwPIxSIwROwSAMPIxHEIyIMAxIMAxOUwTAUxHETHEwUAwVIDAwZATAiOMBINING_NI_ABOVErSPIRITUS_ASP
  ERzbLENIShEPACT_DIGIT_EIGHTtFIVEuOURtNINEtONEtSEVENuIXtTHREEuWOnNUMBER_EIGHTYz_HUNDREDuFIFTYwVE_HU
  NDREDvORTYwUR_HUNDREDuNINETYy_HUNDREDuONE_HUNDREDuSEVENTYz_HUNDREDvIXTYx_HUNDREDuTENvHIRTYwREE_HUN
  DREDvWENTYwO_HUNDREDnTHOUSANDS_MARKhFRACTION_ONE_HALFiULL_STOPhMORPHOLOGICAL_DIVIDERhOLD_NUBIAN_DI
  RECT_QUESTION_MARKsFULL_STOPsINDIRECT_QUESTION_MARKsVERSE_DIVIDERhSMALL_LETTER_AKHMIMIC_KHEIvLFAuB
  OHAIRIC_KHEIuCROSSED_SHEIwYPTOGRAMMIC_EIEzjGANGIAzjNIzjSHEIuDALDAvEIvIALECT-P_ALEFzfHORIzfKAPAzfNI
  uEIEuFEIvIuGAMMAwNGIAuHATEvORIuIAUDAuKAPAvHEIwIvSIuL-SHAPED_HAvAULAuMIuNIuOvLD_COPTIC_AINzgDJAzgES
  HzgGANGIAzgHAziTzhEIzhORIzgOOUzgSHEIziIMAyNUBIAN_NGIzhYIzgSHIMAzgWAUvOUuPIvSIuROuSAMPIvHEIwIMAvIMA
  vOUuTAUvHETHEuUAuVIDAuZATAiYMBOL_KAIpHI_ROoMI_ROoPI_ROoSHIMA_SIMApTAUROSoTAU_ROdYLEFT_SYMBOLeRIGHT
  _SIGNcRALdNISH_VERSE_DIVIDERdRESPONDS_TOcUCH_AND_LAMPdNTERBOREhSINKfING_ROD_TENS_DIGIT_EIGHTyFIVEz
  OURyNINEyONEySEVENzIXyTHREEzWOnUNIT_DIGIT_EIGHTyFIVEzOURyNINEyONEySEVENzIXyTHREEzWOdPLE_WITH_HEART
  cWd_FACEbRcABcEDIT_CARDdSCENT_MOONcICKETh_BAT_AND_BALLcOCODILEdISSANTdSSED_FLAGSiNEGATIVE_SQUARED_
  LATIN_CAPITAL_LETTER_PiSWORDSfING_LANESf_MARKgOF_JERUSALEMjLORRAINEgPATTY_WITH_LEFT_CROSSBARrRIGHT
  _CROSSBAR"

/-- The third part of the names. -/
def thirdNames : String := "aCROSS_POMMEEm_WITH_HALF-CIRCLE_BELOWdWNcUTCHdZEIRO_SIGNcYING_CAT_FACEhF
  ACEdSTAL_BALLbSIbUBE_ROOTcCUMBERcNEIFORM_NUMERIC_SIGN_EIGHT_ASHzeDISHzeGESH2zeSHAR2zeUzf_VARIANT_F
  ORMzeVARIANT_FORM_USSUzv3yLAMITE_FIFTYzhORTYzgONE_THIRDzgTWO_THIRDSxFIVE_ASHzg_TENUzdBAN2zh_VARIAN
  T_FORMzeURUzdDISHzdGESH2zhUzdSHAR2zhUzeIXTHS_DISHzdUze_VARIANT_FORMyOUR_ASHzg_TENUzdBAN2zh_VARIANT
  _FORMzeURUzdDISHzdGESH2zhUzdSHAR2zhUzdUze_VARIANT_FORMzdVARIANT_FORM_LIMMUzv4zv_AzwBxNIGIDAESHzeMI
  NzNE_ASHzdDISHzdGESH2zdSHAR2zdUze_VARIANT_FORMzdVARIANT_FORM_ILIMMUzw3zw4zw_AxOLD_ASSYRIAN_ONE_QUA
  RTERzpSIXTHyNE_BAN2zdURUzcEIGHTH_ASHzdSHE3zcGESH2zgUzcHALF_GURzcQUARTER_ASHzkGURzcSHARUzcTHIRD_DIS
  HziVARIANT_FORM_AxSEVEN_ASHzeDISHzeGESH2zeSHAR2zeUzf_VARIANT_FORMzeVARIANT_FORM_IMIN3zv_AzwByHAR2_
  TIMES_GAL_PLUS_DISHztMINyIX_ASHzf_TENUzcDISHzcGESH2zcSHAR2zcUzd_VARIANT_FORMzcVARIANT_FORM_ASH9xTH
  REE_ASHzh_TENUzeBAN2zfURUzi_VARIANT_FORMzeDISHzeGESH2ziUzeSHAR2zj_VARIANT_FORMziUzj_VARIANT_FORMze
  VARIANT_FORM_ESH16zu21yWO_ASHzf_TENUzcBAN2zdURUzcESHE3zcGESH2zgUzcSHAR2zgUzcTHIRDS_DISHzjVARIANT_F
  ORM_AkPUNCTUATION_SIGN_DIAGONAL_COLONzlQUADCOLONzlTRICOLONzcOLD_ASSYRIAN_WORD_DIVIDERzcVERTICAL_CO
  LONkSIGN_Aq2qBr2s_TIMES_AzBALAGzGAN2_TENUzME_PLUS_ENzSHA3zTAK4r_GUNUsTIMES_ASH2yDUN3_GUNUyGALzbN2_
  TENUyHAyIGI_GUNUzMINyLAGAByNUNzc_TENUySHESHzbU2yU_PLUS_U_PLUS_UqDr_TIMES_ESH2qKr_TIMES_ERIN2ySHITA
  _PLUS_GISHqLrANrEPHr_TIMES_ALyDIM2yGISHyHAyKAD3zIySHEyUSHqMARt_TIMES_KUGzbSHEqNrSHEr_OVER_ANsPLUS_
  NAGA_OPPOSING_AN_PLUS_NAGAzdSQUAREDsTHREE_TIMESqPINqRADt_TIMES_KURrKABqSAL2rHs2sGABs_KABA_TENUtOVE
  R_ASH_OVER_ASHzl_CROSSING_ASH_OVER_ASH_OVER_ASHzdTUG2_OVER_TUG2_TUG2_OVER_TUG2_PAPtZIDA_TENUq_TIME
  S_AxBADxGAN2_TENUxHAxIGIxLAGAR_GUNUxMUSHxSAGpBArDs_TIMES_DISH_TENUrG3rHAR2v_TIMES_AB2zdNIzdZArLsAG
  s_OVER_BALrRsA2qIr_TIMES_AyGARyIGI_GUNUqUrLUGu_OVER_BULUGrRs2r_CROSSING_BUsOVER_BU_ABzbTIMES_NA2zb
  UNpDArGs3s_KISIM5_TIMES_AMARzi_PLUS_MASHzhBALAGziIzhGAzj_PLUS_MASHziIzjR2ziUDzhHAzhIRzj_PLUS_LUzhK
  AKzhLAziUzjMzj_PLUS_MASH2zhNEzhPAP_PLUS_PAPzhSIzhTAK4zhU2_PLUS_GIR2zpMASHziSHtTIMES_KURrMrRsA3t4r_
  TIMES_TAK4qIrBrMs2t_TIMES_UDs_TIMES_IGIzSHEzU_U_UrNs_KASKAL_U_GUNU_DISHrSHt_PLUS_SHUqUrBs2s_TIMES_
  ESH2zSHErGsUDs_TIMES_ANSHEzbSHzd_AT_LEFTzDINzbUNzERIN2zGAzbIzcR2_GUNUzcSHzHAzbIzIGI_GUNUzKASKALzbU
  RzcSHU2zg_PLUS_KASKALzLAK-020zcMzd_TIMES_KURzbUH_PLUS_GISHzMASHzbESzbIzNIzPIzSHEzbI_GUNUrHrNs3t_GU
  NUy_GUNUs4rR2r_GUNUsOVER_DUsSHESHIGpEq2r_TIMES_A_PLUS_HA_PLUS_DAyGARyKURyMIyPAPySALzHEyUqDINqGIRqL
  qNr_CROSSING_ENsOPPOSING_ENsSQUAREDsTIMES_GAN2zd_TENUyMEqRENrIN2u_XqSH2t_CROSSING_ESH2qZENt_SHESHI
  G_TIMES_ASHzjHIzjIGI_GUNUzjLAzlLzjMEzlSzjSUuTIMES_AzcNzc_PLUS_LALzl_TIMES_LALzbBADzbDUN3_GUNUzk_GU
  NUzbGUDzbHAzd_GUNUzbIGI_GUNUzbKASKALzh_SQUAREDzcU3zbLAzdL_TIMES_LALzcIzcUzbSHEzcUzbU2zcDq_OVER_E_N
  UN_OVER_NUNrTIMES_PAPpGAr2s_OVER_GA2tTIMES_AB2_TENU_PLUS_TABzbNzc_PLUS_KAK_PLUS_AzbSHzd2ze_PLUS_GA
  Lzb_PLUS_DA_PLUS_HAzhHAzhIGIzBADzcHAR2zcR_PLUS_RAzbURzd_PLUS_RAzDAzbIzcM_GUNUzeTIMES_SHEzbUBzcG_TI
  MES_IGI_GUNUzkKASKALzELzc_PLUS_LAzbNzc_TIMES_GAN2_TENUzbRENzGAzcN2_TENUzcRzd_PLUS_DIzjNEzbIzc4zd_P
  LUS_AzcR2_PLUS_SUzHALzd_PLUS_LAzc_PLUS_AziLU_PLUS_ESH2zbI_PLUS_LIzbUB2zIGI_GUNUzbSH_PLUS_HU_PLUS_A
  SHzKAKzcSKALzbIDzd_PLUS_LALzbU3_PLUS_ANzcSHU2_PLUS_KASKALzLAzcMzd_TIMES_KURzbUHzME_PLUS_ENzbIzbUSH
  zNEzc_PLUS_E2ziGIzbUNzd_OVER_NUNzPAzSALzcRzbHEzd_PLUS_TURzcIDzdMzbUMzTAK4zUzbDzc_PLUS_DUzZIZ2rBAt_
  CROSSING_GABAuROTATED_NINETY_DEGREESrDs_OVER_GAD_GAR_OVER_GARrLsAMs_GAD_OVER_GAD_GAR_OVER_GARrMrNs
  2t_CROSSING_GAN2uOVER_GAN2uTENUrRs3rSHANr_GUNUqE22rSHTINw_TIMES_KURzeUqIr4s_CROSSING_GI4tOVER_GI4r
  DIMrGrR2t_GUNUs3t_TIMES_A_PLUS_IGIzbGAN2_TENUzbIGIzbLU_PLUS_IGIzbPArSALsHt_CROSSING_GISHuTENUvIMES
  _BADzbGISH_CROSSING_GISHzbTAK4r_CROSSING_GIsTIMES_EyUqUr2s_GUNUtTIMES_IGI_GUNUzKAKzd_TIMES_IGI_GUN
  UzNUNzSAL_PLUS_TUG2rDs_OVER_GUD_LUGALtPLUS_GISH_TIMES_TAK4tTIMES_A_PLUS_KURzKURrLrMs_TIMES_SHErRs7
  sUNtSHr_CROSSING_GUpHArLr_GUNUsTENUw_GUNUqIr_TIMES_ASHzc2zc_OVER_HI_TIMES_ASHyBADyDISHyGADyKINyNUN
  ySHEyUqUrB2t_TIMES_ANzbHALzbKASKALzbLISHzbUDrL2rSHpIqBqDIMt_OVER_IDIM_BURzfSQUAREDqGrIs_DIBtGUNUtO
  VER_IGI_SHIR_OVER_SHIR_UD_OVER_UDtRIqLr2r_TIMES_GAN2_TENUqMrINr_CROSSING_IMsOPPOSING_IMsSQUAREDsTI
  MES_TAK4qNqRqSHq_ApKAr2s_CROSSING_KA2rBrD2s3s4s5t_OVER_KAD5rKs_TIMES_IGI_GUNUrLs_CROSSING_KALtTIME
  S_BADrM2s4rP_ELAMITErSKALv_LAGAB_TIMES_U_OVER_LAGAB_TIMES_UwOVER_KASKAL_LAGAB_TIMES_U_OVER_LAGAB_T
  IMES_Ur_TIMES_AzDzb_PLUS_KU3zNSHEzSH2zc3yBADzbLAGzbRzIzUyERIN2zSH2yGAzbLzbN2_TENUzbRzc_PLUS_SHA3_P
  LUS_AzIzbR2zbSHzd_CROSSING_GISHzePLUS_SARzUzbDzbR7yHI_TIMES_ASH2yIGIzMyKAzbKzIzbDyLIzUzbMyMEzb_PLU
  S_DUzhGIzhTEzIzb_PLUS_NUNUZyNEzUNyPAzIyRUySAzbRzHAzbEzbIDzbUzcLzIGzUHURyTARzUyUz2zDzMUM_TIMES_PAzR
  zb2zSHz_U_UyZIqESH2qIrDrNrSALsHsIM5v_OVER_KISIM5r_TIMES_BADyUzDqUr3r4s_VARIANT_FORMr7rLs_GUNUrNrRs
  _OPPOSING_KURrSHU2r_OVER_HI_TIMES_ASH2_KU_OVER_HI_TIMES_ASH2qWU318pLArGABu_SQUAREDvTIMES_AzdLzdNzd
  SH_ZIDA_TENUzd_PLUS_DA_PLUS_HAzjGARzjLALzcBADzdIzcDARzcENzcGAzeRzdIzdUDzf_PLUS_GUDzcHAzeLzdI_TIMES
  _NUNzcIGI_GUNUzdMze_PLUS_HAzkLUzcKIzeNzdU3zeLzf_PLUS_HI_PLUS_AzcLAGABzdISHzdUzeLzcMEze_PLUS_ENzdUS
  HzcNEzcSHE_PLUS_SUMzeITA_PLUS_GISH_PLUS_ERIN2zsTENUzeU2zg_PLUS_SHU2zdUMzcTAGzeK4zdE_PLUS_A_PLUS_SU
  _PLUS_NAzcUzd2_PLUS_ASHzdDzdSHzd_PLUS_AzjU_PLUS_UzcZU_OVER_ZUtRu_GUNUz_OVER_LAGAR_GUNU_SHEvTIMES_S
  HEzf_PLUS_SUMrHSHUrK-003u21v5u30u50v1u62u79_OVER_LAK-079_GUNUu80v1_OVER_LAK-081u92t130u42t210v9u20
  v5v8u38u65v6t343v7v8u83v4u90t441v9w_TIMES_GUzeIGIzePAP_PLUS_LU3znPAP_PLUS_LU3zeU2_PLUS_BAu50v7u70u
  83u90v2v3v5t550t608u17w_TIMES_ASHzeBADzeDUN3_GUNU_GUNUzeKU3zeLAzeTARzfEzeU2zfDzfRUDAu36u48w_TIMES_
  DUBzeGAzeIGIzh_GUNUzeNIzePAP_PLUS_PAP_PLUS_LU3zeSHESH_PLUS_KIzeUDzfRUDAt724u49rLs_TIMES_LALrMs_TIM
  ES_KURzd_PLUS_RUqIrLrMMU2rSHqUr2s_CROSSING_LU2tGUNU_TIMES_ASHtOPPOSING_LU2tSHESHIGzb_TIMES_BADuQUA
  REDtTENUuIMES_ALzBADzDISHzESH2ze_PLUS_LALzfTENUzGAN2_TENUzHALzbI_TIMES_BADzIMzKAD2zd3ze_PLUS_ASHzb
  IzLAGABzc_PLUS_ASHzME_PLUS_ENzNEzbUzPAPzd_PLUS_PAP_PLUS_LU3zSHUzbIK2_PLUS_BUzc_PLUS_ASHzTAK4zbUG2r
  3rGALu_OPPOSING_LUGALwVER_LUGALvSHESHIGrHrLrMs_OVER_LUMzc_GAR_OVER_GARr_TIMES_BADpMAr2rHrRrSHt2r_G
  UNUsTIMES_TAK4qErSsHqIrNr_PLUS_ZA7qUrGs_GUNUrNSUBrRGU2rSHt3u_GUNUvTIMES_Azd_PLUS_DIzcDIzcZAt_CROSS
  ING_MUSHuOVER_MUSHze_TIMES_A_PLUS_NAzlGAzlKAKuTIMES_AzbKURzbZAr_OVER_MUpNAr2r4rGAtRt_INVERTEDuOPPO
  SING_NAGAuTIMES_SHU_TENUrMs2s_NUTILLUqEr_SHESHIGsTIMES_AyUDqIr2rMs_TIMES_GAN2_TENUzcR_PLUS_GAN2_TE
  NUrNs9sDA2v_TIMES_ANzeSHzg_PLUS_ASHzdBALzdDIM_GUNUzdGIzfSHzeUDzfLzdHIzdKESH2zdLAK-050zdMASHzeE_PLU
  S_GAN2_TENUzdNEzeUNzdPAP_PLUS_PAPzdSHEzg_PLUS_ASHzp_PLUS_ASHzn_ANzdUze2_PLUS_ASHzeRUDAzeSHze_PLUS_
  UrSAGr_TIMES_EqUr11t_OVER_NU11_BUR_OVER_BURuROTATED_NINETY_DEGREESuTENUrNsUZu_AB2_TIMES_ASHGABzgBI
  zgDUGzgGUDzgIGI_GUNUzgKAD3zgLAzgNEzgSILA3zgU2vKISIM5_TIMES_BIzl_Us_CROSSING_NUNzg_LAGAR_OVER_LAGAR
  tLAGAR_TIMES_GARzgMASHzgSALzj_OVER_NUN_LAGAR_TIMES_SALzgUSHtOVER_NUNtTENUpPArDrNrPqESH2u_ASTERISKq
  IrR2sIGu_OPPOSING_PIRIGvTIMES_KALzcUDzcZAr_CROSSING_PIsTIMES_AzByBIzUyEyIzByUz2pRArBqIqUpSArGs_GUN
  Ux_TIMES_HAtNUTILLUtOVER_SAGtTIMES_AzDUzcBzENzHAzIGI_GUNUzKAKzbURzLUMzMIzNUNzSALzbHE_AT_LEFTzcIDzT
  ABzcK4zU2zbBzbMzbRzbSHrLs_LAGAB_TIMES_ASH2rNGA2rRqHAs3t_TIMES_AzbBADzbGISHzbNEzbSHU2zbTURzbUzc_PLU
  S_As6t_TENUsB6sR2rEsG9sNsSHu2uLAMs_HUtOVER_SHEzc_GAD_OVER_GAD_GAR_OVER_GARzdTAB_OVER_TAB_GAR_OVER_
  GARtPLUS_HUB2yNAM2ySARrIDt_TIMES_AzbIMsMt_TIMES_AzbBALzcULUGzbDINzbGARzbIGIze_GUNUzbKUSHU2zbLULzbM
  UGzbSALsNIGsRt_OVER_SHIR_BUR_OVER_BURuTENUsTArUs2t_PLUS_DUG_TIMES_NIzE2_TIMES_ANsBURs_OVER_INVERTE
  D_SHUqIrGs4t_OVER_SIG4_SHU2rK2rLA3r_GUNUsTIMES_TAK4qUrDs2rHURrMsASHrRs9r_OVER_SUpTArBs_OVER_TAB_NI
  _OVER_NI_DISH_OVER_DISHtSQUAREDrGs_TIMES_BIzGUDzSHEzcUzTUG2zUDrK4t_PLUS_SAGrRr_ASTERISKsGUNUsTIMES
  _HIyMIqEr_GUNUqIr2rLrRs_OVER_TIRzc_GAD_OVER_GAD_GAR_OVER_GARtTIMES_TAK4r_TENUqUrG2rKrMs_TIMES_GAN2
  _TENUzTHREE_DISHrRs_OVER_TUR_ZA_OVER_ZApUq2qBqDrUGr_GUNUsKUSHU2sSHESHIGz_TIMES_BADsTIMES_BADyMIyU_
  PLUS_U_PLUS_Uzo_GUNUqMrBINrUMt_TIMES_KASKALzbPAr_TIMES_LAGAByMEzb_PLUS_DAySHA3yUqNr_GUNUqRr2s_INVE
  RTEDtTIMES_ALzb_PLUS_HAzhNAzHAzNUNzU2zc_PLUS_ASHziBIzbDr4rIs3rUsDAu_TIMES_Us_TIMES_AzbSHGABzBARzDA
  RA3zbUNzGAzcLzcN2_TENUzcRzbUzHAzIGIzbMzbSHzKIzLAK-668zbU3zcMzMINzPAzSHEzbIG4zTUzUDzbRUDAzb_PLUS_GU
  Dr_CROSSING_URsSHESHIGqSHs2sUMXsXs_TIMES_AzKUzcRzTAK4qTUKIqZ3s_TIMES_KASKALrUq_GUDrOVER_U_PA_OVER_
  PA_GAR_OVER_GARySUR_OVER_SURyU_REVERSED_OVER_U_REVERSEDrUs_UpZAr7rGrMXr_SQUARED_TIMES_KURsTENUqE2q
  Ir3rBs_KABA_TENUrGrZ2r_OVER_ZIqUr5s_TIMES_AzTHREE_DISH_TENUrBURrMr_OVER_ZU_PLUS_SARcPCAKEdIDOd_ON_
  BLACK_SQUAREeWITH_STRAWcRLING_STONEeY_BRACKET_EXTENSIONgLOGICAL_ANDoORiOPdRENCY_EXCHANGEjSIGNeY_AN
  D_RICEdVED_STEM_PARAGRAPH_SIGN_ORNAMENTcSTARDeOMScT_OF_MEATbYCLONEcLINDRICITYcPRIOT_SYLLABLE_ArErI
  rJAsOrKAsEsIsOsUrLAsEsIsOsUrMAsEsIsOsUrNAsEsIsOsUrOrPAsEsIsOsUrRAsEsIsOsUrSAsEsIsOsUrTAsEsIsOsUrUr
  WAsEsIsOrXAsErZAsOeO-MINOAN_SIGN_CM001w2w4w5w6w7w8w9v10w1w2xBw3w5w7w9v21w3w4w5w6w7w8w9v30w3w4w5w6w
  7w8w9v40w1w4w6w7w9v50w1w2w3w4w5w6w8w9v60w1w2w3w4w6w7w8w9v70w1w2w3w4w5xBw6w8w9v80w1w2w3w4w5w6w7w8w9
  v90w1w2w4w5w6w7w8w9u100w1w2w3w4w5w7w8w9v10w2w4u301w2cRILLIC_CAPITAL_LETTER_AzBKHASIAN_CHEzm_WITH_D
  ESCENDERzjDZEzjHAzLEUT_KAz_WITH_BREVEzgDIAERESISyBARRED_Ozh_WITH_DIAERESISzbSHKIR_KAzEzIG_YUSzbNOC
  ULAR_OzLENDED_YUSzROAD_OMEGAzYELORUSSIAN-UKRAINIAN_IyCCHEzHEzc_WITH_DESCENDERzjIAERESISziVERTICAL_
  STROKEzLOSED_LITTLE_YUSzROSSED_OyDCHEzEzJEzcRVzOUBLE_MONOCULAR_OzgOzWEzZEzcLOzbHEzbWEzbZEzcHEyEzFz
  Lzb_WITH_DESCENDERzhHOOKzhMIDDLE_HOOKzhTAILzMzb_WITH_TAILzNzb_WITH_DESCENDERzhHOOKzhLEFT_HOOKzhMID
  DLE_HOOKzhTAILzRzb_WITH_TICKzSzb_WITH_DESCENDERz_WITH_DIAERESISyFITAyGHEzc_WITH_DESCENDERziMIDDLE_
  HOOKziSTROKEzo_AND_HOOKziUPTURNzJEyHAzbRD_SIGNzb_WITH_DESCENDERzhHOOKzhSTROKEzWEyIzEzb_WITH_BREVEz
  hGRAVEzOzbTAzcIFIED_AziBIG_YUSziCLOSED_LITTLE_YUSziEziLITTLE_YUSziYATzZHITSAzg_WITH_DOUBLE_GRAVE_A
  CCENTz_WITH_DIAERESISzgGRAVEzgMACRONyJEyKAzb_WITH_DESCENDERzhHOOKzhSTROKEzhVERTICAL_STROKEzHAKASSI
  AN_CHEzJEzOMI_DEzfJEzfZJEzeLJEzeNJEzeSJEzeTJEzeZJEzbPPAzSIyLHAzITTLE_YUSzJEyMONOCULAR_OzdGRAPH_UKy
  NEUTRAL_YERzJEyOzMEGAze_WITH_TITLOzTz_WITH_DIAERESISyPEzb_WITH_DESCENDERzhMIDDLE_HOOKzSIyQAyREVERS
  ED_DZEziTSEziYUziZEzHAzOUND_OMEGAySCHWAze_WITH_DIAERESISzEMISOFT_SIGNzHAzbCHAzbHAzd_WITH_DESCENDER
  zbORT_Izg_WITH_TAILzfUzbWEzOFT_DEzeELzfMzeSIGNzTRAIGHT_Uzj_WITH_STROKEyTCHEzEzb_WITH_DESCENDERzhMI
  DDLE_HOOKzSEzbHEzbSEzbWEzWEyUzKzbRAINIAN_IEz_WITH_DIAERESISzhOUBLE_ACUTEzgMACRONyVEyWEyYAzbEzbTzER
  Uzd_WITH_BACK_YERzjDIAERESISzIzNzUyZEzbMLYAzb_WITH_DESCENDERziIAERESISzHEzc_WITH_BREVEziDESCENDERz
  jIAERESISzbWEsIGATURE_A_IEzbEN_GHEzbTE_TSEjKAVYKAjLETTER_MULTIOCULAR_OqPALOCHKAqSMALL_CAPITAL_ELjP
  AYEROKjSMALL_LETTER_AxBKHASIAN_CHEzk_WITH_DESCENDERzhDZEzhHAxLEUT_KAx_WITH_BREVEzeDIAERESISwBARRED
  _Ozf_WITH_DIAERESISySHKIR_KAxExIG_YUSyNOCULAR_OxLENDED_YUSxROAD_OMEGAxYELORUSSIAN-UKRAINIAN_IwCCHE
  xHEz_WITH_DESCENDERzhIAERESISzgVERTICAL_STROKExLOSED_LITTLE_YUSxROSSED_OwDCHExExJEzRVxOUBLE_MONOCU
  LAR_OzeOxWExZEzLOyHEyWEyZEzHEwExFxLy_WITH_DESCENDERzfHOOKzfMIDDLE_HOOKzfTAILxMy_WITH_TAILxNy_WITH_
  DESCENDERzfHOOKzfLEFT_HOOKzfMIDDLE_HOOKzfTAILxRy_WITH_TICKxSy_WITH_DESCENDERx_WITH_DIAERESISwFITAw
  GHEz_WITH_DESCENDERzgMIDDLE_HOOKzgSTROKEzm_AND_HOOKzgUPTURNxJEwHAyRD_SIGNy_WITH_DESCENDERzfHOOKzfS
  TROKExWEwIxEy_WITH_BREVEzfGRAVExOyTAzIFIED_AzgBIG_YUSzgCLOSED_LITTLE_YUSzgEzgLITTLE_YUSzgYATxZHITS
  Aze_WITH_DOUBLE_GRAVE_ACCENTx_WITH_DIAERESISzeGRAVEzeMACRONwJEwKAy_WITH_DESCENDERzfHOOKzfSTROKEzfV
  ERTICAL_STROKExHAKASSIAN_CHExJExOMI_DEzdJEzdZJEzcLJEzcNJEzcSJEzcTJEzcZJEyPPAxSIwLHAxITTLE_YUSxJExO
  NG-LEGGED_DEwMONOCULAR_OzbGRAPH_UKwNARROW_OxEUTRAL_YERxJEwOxMEGAzc_WITH_TITLOxTx_WITH_DIAERESISwPA
  LOCHKAxEy_WITH_DESCENDERzfMIDDLE_HOOKxSIwQAwREVERSED_DZEzgTSEzgYUzgZExHAxOUNDED_VEzc_OMEGAwSCHWAzc
  _WITH_DIAERESISxEMISOFT_SIGNxHAyCHAyHAzb_WITH_DESCENDERyORT_Ize_WITH_TAILzdUyWExOFT_DEzcELzdMzcSIG
  NxTRAIGHT_Uzh_WITH_STROKEwTALL_HARD_SIGNzcTEzcYATxCHExEy_WITH_DESCENDERzfMIDDLE_HOOKxHREE-LEGGED_T
  ExSEyHEySEyWExWEwUxKyRAINIAN_IExNBLENDED_UKx_WITH_DIAERESISzfOUBLE_ACUTEzeMACRONwVEwWExIDE_ESwYAyE
  yTxERUzb_WITH_BACK_YERzhDIAERESISxIxNxUwZEyMLYAy_WITH_DESCENDERzgIAERESISxHEz_WITH_BREVEzgDESCENDE
  RzhIAERESISyWEqIGATURE_A_IEyEN_GHEyTE_TSEjTHOUSANDS_SIGNaDAGGERg_KNIFEhWITH_LEFT_GUARDmRIGHT_GUARD
  cLET_SYMBOLcNCERdGOcRK_SHADEgUNGLASSEScSHED_LOW_LINEhOVERLINEhTRIANGLE-HEADED_RIGHTWARDS_ARROWe_SY
  MBOLfWITH_LEFT_UPTURNcTA_LINK_ESCAPEbC1c2c3c4cSbEAF_PERSONcCIDUOUS_TREEeMAL_EXPONENT_SYMBOLiSEPARA
  TOR_KEY_SYMBOLdREASE_FONT_SIZE_SYMBOLcERcGREE_CELSIUShFAHRENHEIThSIGNcLdETEdIVERY_TRUCKdTA_EQUAL_T
  OcNTISTRY_SYMBOL_LIGHT_DOWN_AND_HORIZONTALzr_WITH_CIRCLEzxTRIANGLEzxWAVExUP_AND_HORIZONTALzp_WITH_
  CIRCLEzvTRIANGLEzvWAVExVERTICAL_AND_BOTTOM_LEFTzsRIGHTzlTOP_LEFTzpRIGHTzlWAVEzhWITH_CIRCLEzmTRIANG
  LEcPARTMENT_STOREcRELICT_HOUSE_BUILDINGcSCENDING_NODEdERET_CAPITAL_LETTER_AYxBEExCHEExDEExEFyLyMyN
  zGyRySzHyTHyWxGAYxHxJEExKAYxLONG_AzeHzdEzdIzdOzeOxOIyWxPEExSHORT_AzfHzeEzeIzeOzfOxTEEyHEExVEExWUxY
  EExZEEyHEEiSMALL_LETTER_AYvBEEvCHEEvDEEvEFwLwMwNxGwRwSxHwTHwWvGAYvHvJEEvKAYvLONG_AzcHzbEzbIzbOzcOv
  OIwWvPEEvSHORT_AzdHzcEzcIzcOzdOvTEEwHEEvVEEvWUvYEEvZEEwHEEfTg_ISLANDdKTOP_COMPUTERiWINDOWcVANAGARI
  _ABBREVIATION_SIGNmCUTE_ACCENTlCARETlDANDAmIGIT_EIGHTrFIVEsOURrNINErONErSEVENsIXrTHREEsWOrZEROmOUB
  LE_DANDAlGAP_FILLERmRAVE_ACCENTlHEADSTROKElJAIN_OMlLETTER_AtAtItUtWtYsBAtBAtHAsCAuNDRA_AzEzOtHAsDA
  tDAuDAvHAuHAtHAsEsFAsGAtGAtHAuHAtLOTTAL_STOPsHAtEAVY_YAsItIsJAtHAtJAsKAtHAuHAsLAtLAuLAsMAuRWARI_DD
  AsNAtGAtNAuNAtYAsOtEtOEsPAtHAsQAsRAtHAtRAsSAtHAuORT_AyEyOtSAsTAtHAtTAuHAsUtEtUuEsVAtOCALIC_LzcLzbR
  zcRsYAtYAsZAtHAlOMlSIGN_ANUSVARArVAGRAHAqCANDRABINDUzc_AVAGRAHAzdTHREEzeWOzdVIRAMAqDOUBLE_CANDRABI
  NDU_VIRAMAqHIGH_SPACING_DOTqINVERTED_CANDRABINDUqNUKTAqPUSHPIKAqSIDDHAMrPACING_CANDRABINDUqVIRAMAs
  SARGAmTRESS_SIGN_ANUDATTAxUDATTAlVOWEL_SIGN_AAxIxUxWxYwCANDRA_EzeLONG_EzeOwEwIxIwOxExOEwPRISHTHAMA
  TRA_EwSHORT_EzdOwUxExUyEwVOCALIC_LzgLzfRzgRdICE_CONTROL_FOURpONEpSTRINGpTHREEqWObIAERESISdMETER_SI
  GNeOND_OPERATORiSHAPE_WITH_A_DOT_INSIDEiTARGETiWITH_BOTTOM_HALF_BLACKnLEFT_HALF_BLACKnRIGHT_HALF_B
  LACKnTOP_HALF_BLACKcESEL_LOCOMOTIVEd_FACE-1j2j3j4j5j6cFFERENCE_BETWEENcGIT_EIGHTl_COMMAmFULL_STOPg
  FIVEk_COMMAlFULL_STOPhOURk_COMMAlFULL_STOPgNINEk_COMMAlFULL_STOPgONEj_COMMAkFULL_STOPgSEVENl_COMMA
  mFULL_STOPhIXj_COMMAkFULL_STOPgTHREEl_COMMAmFULL_STOPhWOj_COMMAkFULL_STOPgZEROk_COMMAlFULL_STOPdRA
  M_FOR_EARTHqLY_HEAVENuUMANlGREATER_YANGuINlHEAVENLY_EARTHmUMAN_EARTHlLESSER_YANGtINcMENSION_ORIGIN
  cNGBAT_CIRCLED_SANS-SERIF_DIGIT_EIGHTziFIVEzjOURziNINEziONEziSEVENzjIXziTHREEzjWOziZEROzcNUMBER_TE
  NiNEGATIVE_CIRCLED_DIGIT_EIGHTzgFIVEzhOURzgNINEzgONEzgSEVENzhIXzgTHREEzhWOzNUMBER_TENzSANS-SERIF_D
  IGIT_EIGHTzrFIVEzsOURzrNINEzrONEzrSEVENzsIXzrTHREEzsWOzrZEROzlNUMBER_TENcRECT_CURRENT_SYMBOL_FORM_
  TWOhHITcSABLED_CARePPOINTED_BUT_RELIEVED_FACEnFACEdCONTINUOUS_UNDERLINE_SYMBOLdGUISED_FACEcTTO_MAR
  KcVES_AKURU_DIGIT_EIGHTsFIVEtOURsNINEsONEsSEVENtIXsTHREEtWOsZEROnOUBLE_DANDAmEND_OF_TEXT_MARKmGAP_
  FILLERmINITIAL_RAmLETTER_AuAtBAuHAtCAuHAtDAuDAvHAuHAtEtGAuHAtHAtIuItJAtKAuHAtLAuLAtMAtNAuGAuNAuYAt
  OtPAuHAtRAtSAuHAuSAtTAuHAuTAtUuUtVAtYAuYAtZAmMEDIAL_RAtYAmPREFIXED_NASAL_SIGNmSIGN_ANUSVARArCANDRA
  BINDUrHALANTArNUKTAmVIRAMAnOWEL_SIGN_AAyIxExIyIxOxUyUdIDESeNG_MASKeSION_SIGNkLASHjTIMESdORCE_SYMBO
  LcYA_LAMPcZZY_FACEgSYMBOLbLEbNA_DOUBLE_HELIXbOCUMENTi_WITH_PICTUREoTEXTs_AND_PICTUREcDOcES_NOT_CON
  TAIN_AS_MEMBERuNORMAL_SUBGROUPzk_OR_EQUALjDIVIDEp_WITH_REVERSED_NEGATION_SLASHjFORCEjPRECEDEq_OR_E
  QUALlOVEjSUCCEEDq_OR_EQUALcGdRA_ABBREVIATION_SIGNgLETTER_AoAoIoUnBAoHAnCAoHAnDAoDApHAoHAnEnGAoHAnH
  AnIoInJAoHAnKAoHAnLAnMAnNAoGAoNAoYAnOnPAoHAnRAoRAnSAoHAoSAnTAoHAoTApHAnUoUnVAnYAgSIGN_ANUSVARAlNUK
  TAlVIRAMAnSARGAgVOWEL_SIGN_AAsIsUrErIsIrOrUsUrVOCALIC_RzbRd_FACEcLLAR_SIGNdPHINcMINO_TILE_HORIZONT
  AL-00-00zc1zc2zc3zc4zc5zc6y1-00zc1zc2zc3zc4zc5zc6y2-00zc1zc2zc3zc4zc5zc6y3-00zc1zc2zc3zc4zc5zc6y4-
  00zc1zc2zc3zc4zc5zc6y5-00zc1zc2zc3zc4zc5zc6y6-00zc1zc2zc3zc4zc5zc6w_BACKmVERTICAL-00-00z1z2z3z4z5z
  6w1-00z1z2z3z4z5z6w2-00z1z2z3z4z5z6w3-00z1z2z3z4z5z6w4-00z1z2z3z4z5z6w5-00z1z2z3z4z5z6w6-00z1z2z3z
  4z5z6u_BACKcNG_SIGNcORcTTED_CIRCLEiROSShFENCEhLINE_FACEhOBELOShRIGHT-POINTING_ANGLEhSOLIDUSiQUAREh
  TRANSPOSITION_MARKERd_ABOVEeMINUSeOPERATORePLUScUBLE-ENDED_MULTIMAPhLINE_EQUAL_TO_OR_GREATER-THANy
  LESS-THANmSLANTED_EQUAL_TO_OR_GREATER-THANzhLESS-THANuGREATER-THAN_OR_EQUAL_TOuLESS-THAN_OR_EQUAL_
  TOhSTRUCK_CAPITAL_CwGAMMAwHwNwPxIwQwRwZoITALIC_CAPITAL_DvSMALL_DzcEzcIzcJoN-ARY_SUMMATIONoSMALL_GA
  MMAuPIgD_FEMALE_SIGNiMALE_SIGNiSYMBOLg_ACUTE_ACCENThCIRCLED_DIGIT_EIGHTvFIVEwOURvNINEvONEvSEVENwIX
  vTHREEwWOpNUMBER_TENiOLON_EQUALiURLY_LOOPhDAGGERiOWN_TACKhEXCLAMATION_MARKhHIGH-REVERSED-9_QUOTATI
  ON_MARKiYPHENhINTEGRALlRSECTIONhLEFT_ARC_GREATER-THAN_BRACKETiOGICAL_ANDpORjW-9_QUOTATION_MARKlREV
  ERSED-9_QUOTATION_MARKk_LINEhNESTED_GREATER-THANoLESS-THANx_WITH_UNDERBARhOBLIQUE_HYPHENhPLUSiRECE
  DESjIMEm_QUOTATION_MARKhQUESTION_MARKhRIGHT_ARC_LESS-THAN_BRACKEThSOLIDUS_OPERATORiQUARE_INTERSECT
  IONoUNIONiTACKED_COMMAjROKE_NOT_SIGNiUBSETjCCEEDSjPERSETjSPENSION_MARKhUNIONiP_TACKhVERTICAL_BARt_
  DOUBLE_LEFT_TURNSTILEzcRIGHT_TURNSTILEuLEFT_TURNSTILEqLINEhWAVY_OVERLINEdGHNUTcVE_OF_PEACEcWN-POIN
  TING_RED_TRIANGLEoSMALL_RED_TRIANGLEoTRIANGLE_WITH_LEFT_HALF_BLACKzdRIGHT_HALF_BLACKeWARDS_ANCORAl
  RROWp_AND_RIGHT_ONE_EIGHTH_BLOCKqFROM_BARqLEFTWARDS_OF_UPWARDS_ARROWqTO_BARqWITH_CORNER_LEFTWARDSv
  DOUBLE_STROKEvEQUILATERAL_ARROWHEADvHORIZONTAL_STROKEvLARGE_TRIANGLE_ARROWHEADvMEDIUM_TRIANGLE_ARR
  OWHEADvNOTCHED_TAILvSMALL_EQUILATERAL_ARROWHEADzcTRIANGLE_ARROWHEADvTIP_LEFTWARDSzRIGHTWARDSkBLACK
  _ARROWqCIRCLED_WHITE_ARROWkCOMPRESSED_ARROWkDASHED_ARROWlOUBLE_ARROWkFINGER-POST_ARROWkHARPOON_WIT
  H_BARB_LEFTWARDSzh_BESIDE_DOWNWARDS_HARPOON_WITH_BARB_RIGHTzpUPWARDS_HARPOON_WITH_BARB_RIGHTziFROM
  _BARziTO_BARzdRIGHTWARDSzi_FROM_BARzjTO_BARlEAVY_ARROWqCOMPRESSED_ARROWkPAIRED_ARROWSkQUADRUPLE_AR
  ROWkROCKETkSANS-SERIF_ARROWlQUARED_ARROWkTRIANGLE-HEADED_ARROWzg_LEFTWARDS_OF_UPWARDS_TRIANGLE-HEA
  DED_ARROWzhTO_BARzhWITH_BOLD_SHAFTzmDOUBLE_HORIZONTAL_STROKEzmHEAVY_SHAFTzmLONG_TIP_LEFTWARDSzvRIG
  HTWARDSzmMEDIUM_SHAFTzmNARROW_SHAFTzmVERY_HEAVY_SHAFTzbDASHED_ARROWzbPAIRED_ARROWSzbZIGZAG_ARROWs_
  ARROWHEADnPLE_ARROWlWO-HEADED_ARROW_WITH_TRIANGLE_ARROWHEADSn_HEADED_ARROWkWHITE_ARROWv_WITHIN_TRI
  ANGLE_ARROWHEADkZIGZAG_ARROWi_FACING_HOOKu_WITH_DOTqNOTCHED_HOOKzd_WITH_DOTe_ARROWHEADfFISH_TAILfR
  IGHT_DIAGONAL_ELLIPSISfTACKj_WITH_CIRCLE_BELOWc_NOT_LITTER_SYMBOLbRACHMA_SIGNdFTING_POINT_RIGHTWAR
  DS_ARROWdGONg_FACEcESScIVE_SLOW_SIGNcOMEDARY_CAMELdOLING_FACEdPLETe_OF_BLOODcUM_WITH_DRUMSTICKSbUC
  KcMPLINGcPLOYAN_AFFIX_ATTACHED_E_HOOKyI_HOOKyLEFT-TO-RIGHT_SECANTySECANTyTAILzbNGENTzg_HOOKpHIGH_A
  CUTEuCIRCLEuDOTuGRAVEuLINEvONG_GRAVEuTIGHT_ACUTEuVERTICALzd_SECANTuWAVEpLEFT_HORIZONTAL_SECANTqOW_
  ACUTEuRROWtCIRCLEtDOTtGRAVEtLINEuONG_GRAVEtTIGHT_ACUTEtVERTICALzc_SECANTtWAVEpMID_HORIZONTAL_SECAN
  TtVERTICAL_SECANTpRIGHT_HORIZONTAL_SECANTjDOUBLE_MARKjLETTER_ArOUqBqDrHr_SqErErUqFr_NqGr_R_SqHrLqI
  rEqJr_Mt_SsNt_SsSt_WITH_DOTsWITH_DOTzbS_INSIDE_AND_ABOVEqKrKr_MsR_SqLrHrONG_IvUqMr_Nt_SsSsWITH_DOT
  qNrASAL_AwIwOwUr_Mt_SsSsWITH_DOTqOrArOHrUrWqPrERNIN_AMyNr_NqRrHrOMANIAN_IzUr_SqSrHORT_IrLOAN_ANwDH
  wEExHxNwJwONxWwUr_Jt_SsKt_RsMsNsPt_RsSsTt_RsWITH_DOTzb_BELOWqTrHr_R_SsSqUrHrIr_NqVrOCALIC_MqWrArEI
  rHrIrOsWr_RqXrWqYEjPUNCTUATION_CHINOOK_FULL_STOPjSIGN_O_WITH_CROSSjTHICK_LETTER_SELECTORbVDaE-MAIL
  _SYMBOLbAGLEcRdTHf_GLOBE_AMERICASnSIA-AUSTRALIAmEUROPE-AFRICAhROUNDd_OF_MAIZEhRICEeWITH_HEARING_AI
  DcST_SYRIAC_CROSSbDITORIAL_CORONISbGGcYPTIAN_HIEROGLYPH_A001x2x3x4x5yAx6yAyBx7x8x9w10x1x2x3x4yAx5x
  6x7yAx8x9w20x1x2x3x4x5x6x7x8x9w30x1x2yAx3x4x5x6x7x8x9w40yAx1x2yAx3yAx4x5yAx6x7x8x9w50x1x2x3x4x5x6x
  7x8x9w60x1x2x3x4x5x6x7x8x9w70vA001y2y3y4y5y6y7zAzBy8y9x10y1y2y3y4y5y6y7y8y9x20y1y2y3y4y5y6y7y8y9x3
  0y1y2uB001x2x3x4x5yAx6x7x8x9vEGIN_SEGMENTuC001x2yAyByCx3x4x5x6x7x8x9w10yAx1x2x3x4x5x6x7x8x9w20x1x2
  x3x4uD001x2x3x4x5x6x7x8yAx9w10x1x2x3x4x5x6x7x8x9w20x1x2x3x4x5x6x7yAx8x9w30x1yAx2x3x4yAx5x6x7x8x9w4
  0x1x2x3x4x5x6yAx7x8yAx9w50yAyByCyDyEyFyGyHyIx1x2yAx3x4yAx5x6x7x8x9w60x1x2x3x4x5x6x7yAyByCyDyEyFyGy
  HuE001x2x3x4x5x6x7x8yAx9yAw10x1x2x3x4x5x6yAx7yAx8x9w20yAx1x2x3x4x5x6x7x8yAx9w30x1x2x3x4yAx6x7x8vND
  _SEGMENTuF001yAx2x3x4x5x6x7x8x9w10x1x2x3yAx4x5x6x7x8x9w20x1yAx2x3x4x5x6x7x8x9w30x1yAx2x3x4x5x6x7yA
  x8yAx9w40x1x2x3x4x5yAx6yAx7yAx8x9w50x1yAyByCx2x3uG001x2x3x4x5x6yAx7yAyBx8x9w10x1yAx2x3x4x5x6x7x8x9
  w20yAx1x2x3x4x5x6yAx7x8x9w30x1x2x3x4x5x6yAx7yAx8x9w40x1x2x3yAx4x5yAx6x7x8x9w50x1x2x3x4uH001x2x3x4x
  5x6yAx7x8vORIZONTAL_JOINERuI001x2x3x4x5yAx6x7x8x9yAw10yAx1yAx2x3x4x5vNSERT_AT_BOTTOM_ENDzmSTARTzfT
  OP_ENDzjSTARTuK001x2x3x4x5x6x7x8uL001x2yAx3x4x5x6yAx7x8uM001yAyBx2x3yAx4x5x6x7x8x9w10yAx1x2yAyByCy
  DyEyFyGyHx3x4x5yAx6yAx7yAx8x9w20x1x2yAx3x4yAx5x6x7x8yAx9w30x1yAx2x3yAyBx4x5x6x7x8x9w40yAx1x2x3x4uN
  001x2x3x4x5x6x7x8x9w10x1x2x3x4x5x6x7x8yAyBx9w20x1x2x3x4x5yAx6x7x8x9w30x1x2x3yAx4yAx5yAx6x7yAx8x9w4
  0x1x2vL001y2y3y4y5zAy6y7y8y9x10y1y2y3y4y5y6y7zAy8y9x20vU001y2y3y4y5y6y7y8y9x10zAy1zAy2y3y4y5y6y7y8
  zAy9x20y1y2zAuO001yAx2x3x4x5yAx6yAyByCyDyEyFx7x8x9w10yAyByCx1x2x3x4x5x6x7x8x9yAw20yAx1x2x3x4yAx5yA
  x6x7x8x9yAw30yAx1x2x3yAx4x5x6yAyByCyDx7x8x9w40x1x2x3x4x5x6x7x8x9w50yAyBx1vVERLAY_MIDDLEuP001yAx2x3
  yAx4x5x6x7x8x9w10x1uQ001x2x3x4x5x6x7uR001x2yAx3yAyBx4x5x6x7x8x9w10yAx1x2x3x4x5x6yAx7x8x9w20x1x2x3x
  4x5x6x7x8x9uS001x2yAx3x4x5x6yAx7x8x9w10x1x2x3x4yAyBx5x6x7yAx8x9w20x1x2x3x4x5x6yAyBx7x8x9w30x1x2x3x
  4x5yAx6x7x8x9w40x1x2x3x4x5x6uT001x2x3yAx4x5x6x7yAx8yAx9yAw10x1yAx2x3x4x5x6yAx7x8x9w20x1x2x3x4x5x6x
  7x8x9w30x1x2yAx3yAx4x5x6uU001x2x3x4x5x6yAyBx7x8x9w10x1x2x3x4x5x6x7x8x9w20x1x2x3yAx4x5x6x7x8x9yAw30
  x1x2yAx3x4x5x6x7x8x9w40x1x2uV001yAyByCyDyEyFyGyHyIx2yAx3x4x5x6x7yAyBx8x9w10x1yAyByCx2yAyBx3x4x5x6x
  7x8x9w20yAyByCyDyEyFyGyHyIyJyKyLx1x2x3yAx4x5x6x7x8yAx9yAw30yAx1yAx2x3yAx4x5x6x7yAx8x9w40yAvERTICAL
  _JOINERuW001x2x3yAx4x5x6x7x8x9yAw10yAx1x2x3x4yAx5x6x7yAx8yAx9w20x1x2x3x4yAx5uX001x2x3x4yAyBx5x6yAx
  7x8yAuY001yAx2x3x4x5x6x7x8uZ001x2yAyByCyDx3yAyBx4yAx5yAx6x7x8x9w10x1x2x3x4x5yAyByCyDyEyFyGyHyIx6yA
  yByCyDyEyFyGyHbIGHTH_NOTEf_PETALLED_OUTLINED_BLACK_FLORETTEhOINTED_BLACK_STARoPINWHEEL_STARoRECTIL
  INEAR_BLACK_STARgSPOKED_ASTERISKgTEARDROP-SPOKED_PROPELLER_ASTERISKbJECT_SYMBOLbLBASAN_LETTER_ApBE
  pCEqHEpDEqHEpEqIpFEpGEqHAMMArEqJEpHEpIpJEpKEqHEpLEqLEpMEpNAqDEqEqJEpOpPEpQEpREqREpSEqHEpTEqHEpUpVE
  pXEpYpZEqHEcECTRICAL_INTERSECTIONi_ARROWjLIGHT_BULBjPLUGjTORCHdMENT_OFk_OPENING_DOWNWARDStUPWARDSl
  WITH_DOT_ABOVEqLONG_HORIZONTAL_STROKEqOVERBARqTWO_HORIZONTAL_STROKESqUNDERBARqVERTICAL_BAR_AT_END_
  OF_HORIZONTAL_STROKEdPHANTdVATORcFcYMAIC_LETTER_ALEPHqYINpBETHpDALETHpGIMELpHErTHpKAPHpLAMEDHpMEMp
  NUNpPEpQOPHpRESHpSADHErMEKHqHINpTAWqETHpWAWpYODHpZAYINjIGATURE_ZAYIN-YODHbMOJI_COMPONENT_BALDqCURL
  Y_HAIRqRED_HAIRqWHITE_HAIRgMODIFIER_FITZPATRICK_TYPE-1-2zh3zh4zh5zh6cPHASIS_SYMBOLdTY_DOCUMENTgNES
  ThOTEk_PADnGEgPAGEkSgSETj_WITH_LEFT_ARROW_ABOVEpOVERBARpRIGHT_ARROW_ABOVEpSMALL_CIRCLE_ABOVEc_DASH
  dQUADdSPACEbND_OF_GUARDED_AREAhLINEhMEDIUMhPROOFkTECTED_AREAhSELECTED_AREAhTEXTiRANSMISSIONt_BLOCK
  eWITH_LEFTWARDS_ARROW_ABOVEcQdUIRYcTER_SYMBOLcVELOPEi_WITH_DOWNWARDS_ARROW_ABOVEoLIGHTNINGc_DASHdQ
  UADdSPACEbOLcMcTbPAbQUALS_COLONhSIGNl_ABOVE_LEFTWARDS_ARROWsPLUS_SIGNsRIGHTWARDS_ARROWsTILDE_OPERA
  TORnND_SLANTED_PARALLELzh_WITH_TILDE_ABOVEmWITH_BUMPY_ABOVErDOT_BELOWrINFINITY_BELOWrTWO_DOTS_ABOV
  E_AND_TWO_DOTS_BELOWhWITH_ASTERISKf_AND_PARALLEL_TOgTO_BY_DEFINITIONjOR_GREATER-THANmLESS-THANmPRE
  CEDESmSUCCEEDSdIANGULAR_TOeVALENT_TOlWITH_FOUR_DOTS_ABOVEbRASE_TO_THE_LEFTnRIGHTcIS_FORM_ONEkTWOcR
  OR-BARRED_BLACK_CIRCLEtDIAMONDtSQUAREnWHITE_CIRCLEtDIAMONDtSQUAREbSAcCdAPEcTIMATED_SYMBOLiSbTBcHIO
  PIC_COLONlMBINING_GEMINATION_AND_VOWEL_LENGTH_MARKzfMARKtVOWEL_LENGTH_MARKmMAjDIGIT_EIGHTpFIVEqOUR
  pNINEpONEpSEVENqIXpTHREEqWOjFULL_STOPjNUMBER_EIGHTYqFIFTYrORTYqHUNDREDqNINETYqSEVENTYrIXTYqTENt_TH
  OUSANDrHIRTYrWENTYjPARAGRAPH_SEPARATORkREFACE_COLONjQUESTION_MARKjSECTION_MARKlMICOLONkYLLABLE_BAu
  AtBAvAuEvEuIuOuUtEuEtItOuAtUtWAuEvEuIsCAuAtCAvAuEvEuHAwAvEwEvHAxAwExEwIwOwUvIvOvUuIuOuUtEuEtHAvAuE
  vEuIuOvAuUuWAtItOuAtUtWAsDAuAtDAvAuEvEuHAAvEwEvIvOvUuIuOvAuUuWAtEuEtItOuAtUtWAtZAAuEvEuIuOuUsFAuAt
  EuEtItOtUtWAuEvEuItYAsGAuAtEuEtGAvAuEvEuIuOuUuWAwAvEwEvItItLOTTAL_AzcAzbEzcEzbIzbOzcAzbUzbWAtOuAtU
  uRAGE_BWEEzcIzFWEEzcIzGWEzdEzcIzHHWAzKWEzdEzcIzMWEEzcIzPWEEzcIzQWEzdEzcItWAvAuEvEuItYAvAuEvEuIuOuU
  sHAuAtEuEtHAvAuEvEuIuOuUuWAvEwEvIuYAwAvEwEvIvOvUtItOuAtUsJAuAtEuEtItOuAtUtWAsKAuAtEuEtItOuAtUtWAvA
  uEvEuItXAvAuEvEuIuOuUuWAwAvEwEvItYAvAuEvEuIuOuUsLAuAtEuEtItOuAtUtWAsMAuAtEuEtItOuAtUtWAuEvEuItYAsN
  AuAtEuEtItOuAtUtWAtYAvAuEvEuIuOvAuUuWAsPAuAtEuEtHAvAvRYNGEAL_AzfAzeEzfEzeIzeOzeUuEvEuIuOvAuUuWAtIt
  OuAtUtWAuEvEuIsQAuAtEuEtHAvAuEvEuIuOuUuWAwAvEwEvItItOuAtUtWAvAuEvEuItYAvAuEvEuIuOuUsRAuAtEuEtItOuA
  tUtWAtYAsSAuAtEuBATBEIT_BWAzdFWAzdMWAzdPWAuEtHAvAuEvEuIuOvAuUuWAtItOuAtSAvAuEvEuIuOuUtUtWAtZAvAuEv
  EuIuOuUuWAsTAuAtEuEtHAvAuEvEuIuOvAuUuWAtItOuAtSAvAuEvEuIuOuUuWAtTHAAvEwEvIvOvUtUtWAtZAvAuEvEuIuOvA
  uUsVAuAtEuEtItOtUtWAsWAuAtEuEtItOuAtUsXAuAtEuEtItOuAtUtWAvAuEvEuItYAvAuEvEuIuOuUsYAuAtEuEtItOuAtUs
  ZAuAtEuEtHAvAuEvEuIuOuUuWAtItOuAtUtWAtZAvAuEvEuIuOuUjTONAL_MARK_CHIRETuDERETz-HIDETvIFATuHIDETuKEN
  ATvURTuRIKRIKuSHORT_RIKRIKuYIZETjWORDSPACEcXbULER_CONSTANTcRO-CURRENCY_SIGNePEAN_CASTLEjPOST_OFFIC
  Ee_SIGNbVERGREEN_TREEbXCESSdLAMATION_MARKmQUESTION_MARKcPRESSIONLESS_FACEcTENDED_ARABIC-INDIC_DIGI
  T_EIGHTzdFIVEzeOURzdNINEzdONEzdSEVENzeIXzdTHREEzeWOzdZEROdRATERRESTRIAL_ALIENeEMELY_HEAVY_FIVE_SPO
  KED_ASTERISKqGREEK_CROSSqSALTIRErIX_SPOKED_ASTERISKqWHITE_CIRCLEwSQUAREbYEdGLASSESdSaFACE_HOLDING_
  BACK_TEARSfMASSAGEfPALMfSAVOURING_DELICIOUS_FOODgCREAMING_IN_FEARfTHROWING_A_KISSfWITHOUT_MOUTHj_C
  OLD_SWEATmWBOY_HATkDIAGONAL_MOUTHkFINGER_COVERING_CLOSED_LIPSkHEAD-BANDAGEkLOOK_OF_TRIUMPHkMEDICAL
  _MASKlONOCLEkNO_GOOD_GESTUREkOK_GESTURElNE_EYEBROW_RAISEDlPEN_EYES_AND_HAND_OVER_MOUTHpMOUTHu_AND_
  COLD_SWEATvVOMITINGkPARTY_HORN_AND_PARTY_HATlEEKING_EYElLEADING_EYESkROLLING_EYESkSTUCK-OUT_TONGUE
  zb_AND_TIGHTLY-CLOSED_EYESzgWINKING_EYEkTEARS_OF_JOYlHERMOMETERkUNEVEN_EYES_AND_WAVY_MOUTHdSIMILE_
  SIGNdTORYcIRYcLAFELdLEN_LEAFeING_DIAGONAL_CROSSING_NORTH_EAST_ARROWzbRISING_DIAGONALrIN_WHITE_CIRC
  LE_IN_BLACK_SQUAREcMILYcRSI_SYMBOLcTHER_CHRISTMAScX_ICONeMACHINEbEARFUL_FACEdTHERcMALE_SIGNdININE_
  ORDINAL_INDICATORcNCERcRRIS_WHEELeYbFbIELD_HOCKEY_STICK_AND_BALLcGURE_DASHhSPACEcLE_CABINETfFOLDER
  fSEPARATORdM_FRAMESfPROJECTORcNITE_PART_INTEGRALcREeCRACKEReWORKSi_SPARKLERe_ENGINEgXTINGUISHERdST
  _PLACE_MEDALgQUARTER_MOONs_SYMBOLtWITH_FACEgSTRONG_ISOLATEcSHeEYEeING_POLE_AND_FISHe_CAKE_WITH_SWI
  RL_DESIGNdTED_HAND_SIGNcVE_DOT_MARKjPUNCTUATIONbLAG_IN_HOLEdMINGOdTBREADeNESSe_SHOEcEUR-DE-LISdXED
  _BICEPScOPPY_DISKdRAL_HEARTdWERg_PLAYING_CARDSiUNCTUATION_MARKcUSHED_FACEcYdING_DISChENVELOPEhSAUC
  ERbOGdGYcLDERcNDUEcOTePRINTScRCESdKED_PARAGRAPHOSeINGe_AND_KNIFEo_WITH_PLATEdM_FEEDdTUNE_COOKIEd_A
  LLcUNTAINdR-PER-EM_SPACEeTH_ROOTe_BALLOON-SPOKED_ASTERISKfCLUB-SPOKED_ASTERISKgORNER_ARROWS_CIRCLI
  NG_ANTICLOCKWISEfDOT_MARKjPUNCTUATIONfLEAF_CLOVERfPOINTED_BLACK_STARfTEARDROP-SPOKED_ASTERISKcX_FA
  CEbRACTION_NUMERATOR_ONEjSLASHdME_WITH_AN_XlPICTURElTILEScEEZING_FACEdNCH_FRANC_SIGNjIEScIED_SHRIM
  PcOG_FACEdNT-FACING_BABY_CHICKgTILTED_SHADOWED_WHITE_RIGHTWARDS_ARROWdWNfING_FACE_WITH_OPEN_MOUTHb
  ScIbUEL_PUMPcLLWIDTH_AMPERSANDlPOSTROPHElSTERISKkBROKEN_BARkCENT_SIGNlIRCUMFLEX_ACCENTlOLONmMMAoER
  CIAL_ATkDIGIT_EIGHTqFIVErOURqNINEqONEqSEVENrIXqTHREErWOqZEROlOLLAR_SIGNkEQUALS_SIGNlXCLAMATION_MAR
  KkFULL_STOPkGRAVE_ACCENTmEATER-THAN_SIGNkHYPHEN-MINUSkLATIN_CAPITAL_LETTER_AzgBzgCzgDzgEzgFzgGzgHz
  gIzgJzgKzgLzgMzgNzgOzgPzgQzgRzgSzgTzgUzgVzgWzgXzgYzgZqSMALL_LETTER_AzeBzeCzeDzeEzeFzeGzeHzeIzeJzeK
  zeLzeMzeNzeOzePzeQzeRzeSzeTzeUzeVzeWzeXzeYzeZlEFT_CURLY_BRACKETpPARENTHESISpSQUARE_BRACKETpWHITE_P
  ARENTHESISmSS-THAN_SIGNlOW_LINEkMACRONkNOT_SIGNlUMBER_SIGNkPERCENT_SIGNlLUS_SIGNlOUND_SIGNkQUESTIO
  N_MARKmOTATION_MARKkREVERSE_SOLIDUSlIGHT_CURLY_BRACKETqPARENTHESISqSQUARE_BRACKETqWHITE_PARENTHESI
  SkSEMICOLONlOLIDUSkTILDEkVERTICAL_LINEkWON_SIGNkYEN_SIGNe_BLOCKfMOON_SYMBOLkWITH_FACEfOUTER_JOINfS
  TOPcNCTION_APPLICATIONdERAL_URNcSEbVS1d2d3d4aGAME_DIEcRLICbEARe_WITHOUT_HUBj_HANDLEScMINId_STONEcN
  IEcOMETRICALLY_EQUAL_TOrIVALENT_TOj_PROPORTIONdRGIAN_CAPITAL_LETTER_AENzNyBANyCANzHARzbINzILyDONyE
  NyGANzHANyHAEzbRzEzIEzOEyINyJHANzILyKANzHARyLASyMANyNARyONyPARzHARyQARyRAEySANzHINyTANzbRyUNyVINyW
  EyXANyYNyZENzHARjLETTER_AENrINrNqBANqCANrHARsINrILqDONqELIFIrNqFIqGANrHANqHAEsRtD_SIGNrErIErOEqINq
  JHANrILqKANrHARqLABIAL_SIGNsSqMANqNARqONqPARrHARqQARqRAEqSANrHINqTANsRrURNED_GANqUNqVINqWEqXANqYNq
  ZENrHARjMTAVRULI_CAPITAL_LETTER_AENzjINzjNziBANziCANzjHARzkINzjILziDONziELIFIzjNziFIziGANzjHANziHA
  EzkRzlD_SIGNzjEzjIEzjOEziINziJHANzjILziKANzjHARziLABIAL_SIGNzkSziMANziNARziONziPARzjHARziQARziRAEz
  iSANzjHINziTANzkRzjURNED_GANziUNziVINziWEziXANziYNziZENzjHARjPARAGRAPH_SEPARATORjSMALL_LETTER_AENx
  NwBANwCANxHARyINxILwDONwENwGANxHANwHAEyRxExIExOEwINwJHANxILwKANxHARwLASwMANwNARwONwPARxHARwQARwRAE
  wSANxHINwTANyRwUNwVINwWEwXANwYNwZENxHARcRMAN_PENNY_SIGNcTA_MARKbHOSTbIMEL_SYMBOLcRAFFE_FACEdLeS_SY
  MBOLbLAGOLITIC_CAPITAL_LETTER_AZUzbBIG_YUSzcUKYzbCAUDATE_CHRIVIzcHRIVIzbDJERVIzcOBROzcZELOzbFITAzc
  RITUzbGLAGOLIzbHERUzbIzcNITIAL_IZHEzcOTATED_BIG_YUSzjSMALL_YUSzcZHEzeITSAzbKAKOzbLATINATE_MYSLITEz
  cJUDIJEzbMYSLITEzbNASHIzbONUzcTUzbPEzcOKOJIzbRITSIzbSHAzdTAzfPICzcLOVOzcMALL_YUSzk_WITH_TAILzcPIDE
  RY_HAzbTROKUTASTI_AzcSIzcVRIDOzbUKUzbVEDEzbYATIzcERIzeUzdSTUzcOzcUzbZEMLJAzcHIVETElSMALL_LETTER_AZ
  UyBIG_YUSzUKYyCAUDATE_CHRIVIzHRIVIyDJERVIzOBROzZELOyFITAzRITUyGLAGOLIyHERUyIzNITIAL_IZHEzOTATED_BI
  G_YUSzhSMALL_YUSzZHEzcITSAyKAKOyLATINATE_MYSLITEzJUDIJEyMYSLITEyNASHIyONUzTUyPEzOKOJIyRITSIySHAzbT
  AzdPICzLOVOzMALL_YUSzi_WITH_TAILzPIDERY_HAyTROKUTASTI_AzSIzVRIDOyUKUyVEDEyYATIzERIzcUzbSTUzOzUyZEM
  LJAzHIVETEdSS_OF_MILKcEICH_STARKcOBE_WITH_MERIDIANSdVESdWING_STARbOAL_NETdTcGGLEScLFERcRILLAcTHIC_
  LETTER_AHSApIHVUSoBAIRKANoDAGSoEISoFAIHUoGIBAoHAGLpWAIRoIGGWSpUJAoJERoKUSMAoLAGUSoMANNAoNAUTHSpINE
  TY"

/-- The fourth part of the names. -/
def fourthNames : String := "aGOTHIC_LETTER_NINE_HUNDREDoOTHALoPAIRTHRAoQAIRTHRAoRAIDAoSAUILoTEIWSpH
  IUTHoURUSoWINJAbRADUATION_CAPdNTHA_AU_LENGTH_MARKiLETTER_AqAqIqUpBAqHApCAqHApDAqDArHAqHApEEpGAqHAp
  HApIqIpJAqHApKAqHApLAqLApMApNAqGAqNAqYApOOpPAqHApRApSAqHAqSApTAqHAqTArHApUqUpVAqEDIC_ANUSVARAvDOUB
  LE_ANUSVARAqOCALIC_LyLxRyRpYAiOMiSIGN_ANUSVARAoVAGRAHAnCANDRABINDUoOMBINING_ANUSVARA_ABOVEnNUKTAnP
  LUTAnVIRAMApSARGAiVOWEL_SIGN_AAuIuUtEEtIuItOOtUuUtVOCALIC_LzdLzcRzdRdPESdVE_ACCENTcEATER-THAN_ABOV
  E_DOUBLE-LINE_EQUAL_ABOVE_LESS-THANtLESS-THAN_ABOVE_DOUBLE-LINE_EQUALtRIGHTWARDS_ARROWtSIMILAR_ABO
  VE_LESS-THANzcOR_EQUALuLANTED_EQUAL_ABOVE_LESS-THAN_ABOVE_SLANTED_EQUALoND_NOT_APPROXIMATErSINGLE-
  LINE_NOT_EQUAL_TOnBESIDE_LESS-THANoUT_NOT_EQUAL_TOyIVALENT_TOnCLOSED_BY_CURVEzd_ABOVE_SLANTED_EQUA
  LnEQUAL_TO_OR_LESS-THANnOR_APPROXIMATEqEQUAL_TOtIVALENT_TOqLESS-THANqSLANTED_EQUAL_TOzh_WITH_DOT_A
  BOVEzw_LEFTzrINSIDEoVERLAPPING_LESS-THANr_EQUAL_TOnSIGNnWITH_CIRCLE_INSIDEsDOTsQUESTION_MARK_ABOVE
  dEK_ACROPHONIC_ATTIC_FIFTYzd_STATERSzeTALENTSzfHOUSANDzm_STATERSzVEzc_HUNDREDzk_STATERSzlTALENTSzd
  STATERSzdTALENTSzeHOUSANDzl_TALENTSxONE_DRACHMAzcHALFzdUNDRED_STATERSzkTALENTSzcQUARTERzcTHOUSAND_
  STATERSzlTALENTSxTEN_MNASzcSTATERSzcTALENTSzdHOUSAND_STATERSrCARYSTIAN_FIVE_HUNDREDsYRENAIC_TWO_DR
  ACHMASrDELPHIC_FIVE_MNASrEPIDAUREAN_FIVE_HUNDREDzdTWOzg_DRACHMASrHERAEUM_ONE_PLETHRONuMIONIAN_FIFT
  YzdONEzdTENrMESSENIAN_TENrNAXIAN_FIVE_HUNDREDrSTRATIAN_FIFTY_MNASrTHESPIAN_FIFTYzdVE_HUNDREDzgTHOU
  SANDzbONEze_HUNDREDzfTHOUSANDzbTENzcHIRTYzdREE_HUNDREDzcWOsROEZENIAN_FIFTYzi_ALTERNATE_FORMzfVEzh_
  HUNDREDzdTENzg_ALTERNATE_FORMhNO_TELEIAhROURA_SIGNiTABE_SIGNgBETA_SYMBOLgCAPITAL_DOTTED_LUNATE_SIG
  MA_SYMBOLoKAI_SYMBOLoLETTER_ALPHAzb_WITH_DASIAzm_AND_OXIAzv_AND_PROSGEGRAMMENIzrPERISPOMENIzzd_AND
  _PROSGEGRAMMENIzsROSGEGRAMMENIzrVARIAzw_AND_PROSGEGRAMMENIzhMACRONzhOXIAzhPROSGEGRAMMENIziSILIzm_A
  ND_OXIAzv_AND_PROSGEGRAMMENIzrPERISPOMENIzzd_AND_PROSGEGRAMMENIzsROSGEGRAMMENIzrVARIAzw_AND_PROSGE
  GRAMMENIzhTONOSzhVARIAziRACHYwRCHAIC_SAMPIvBETAvCHIvDELTAvEPSILONzd_WITH_DASIAzo_AND_OXIAztVARIAzj
  OXIAzjPSILIzo_AND_OXIAztVARIAzjTONOSzjVARIAwTAy_WITH_DASIAzk_AND_OXIAzt_AND_PROSGEGRAMMENIzpPERISP
  OMENIzzb_AND_PROSGEGRAMMENIzqROSGEGRAMMENIzpVARIAzu_AND_PROSGEGRAMMENIzfOXIAzfPROSGEGRAMMENIzgSILI
  zk_AND_OXIAzt_AND_PROSGEGRAMMENIzpPERISPOMENIzzb_AND_PROSGEGRAMMENIzqROSGEGRAMMENIzpVARIAzu_AND_PR
  OSGEGRAMMENIzfTONOSzfVARIAvGAMMAvHETAvIOTAz_WITH_DASIAzl_AND_OXIAzqPERISPOMENIzqVARIAzhIALYTIKAzgM
  ACRONzgOXIAzgPSILIzl_AND_OXIAzqPERISPOMENIzqVARIAzgTONOSzgVARIAzhRACHYvKAPPAvLAMDAvMUvNUvOMEGAzb_W
  ITH_DASIAzm_AND_OXIAzv_AND_PROSGEGRAMMENIzrPERISPOMENIzzd_AND_PROSGEGRAMMENIzsROSGEGRAMMENIzrVARIA
  zw_AND_PROSGEGRAMMENIzhOXIAzhPROSGEGRAMMENIziSILIzm_AND_OXIAzv_AND_PROSGEGRAMMENIzrPERISPOMENIzzd_
  AND_PROSGEGRAMMENIzsROSGEGRAMMENIzrVARIAzw_AND_PROSGEGRAMMENIzhTONOSzhVARIAxICRONzd_WITH_DASIAzo_A
  ND_OXIAztVARIAzjOXIAzjPSILIzo_AND_OXIAztVARIAzjTONOSzjVARIAvPAMPHYLIAN_DIGAMMAwHIwIwSIvRHOy_WITH_D
  ASIAvSANwHOwIGMAvTAUwHETAvUPSILONzd_WITH_DASIAzo_AND_OXIAztPERISPOMENIztVARIAzkIALYTIKAzjMACRONzjO
  XIAzjTONOSzjVARIAzkRACHYvXIvYOTvZETApUNATE_SIGMA_SYMBOLoREVERSED_DOTTED_LUNATE_SIGMA_SYMBOLxLUNATE
  _SIGMA_SYMBOLoTHETA_SYMBOLgDASIAl_AND_OXIAqPERISPOMENIqVARIAhIALYTIKA_AND_OXIAuPERISPOMENIuVARIAqT
  ONOShRACHMA_SIGNgFIVE_OBOLS_SIGNhOUR_OBOLS_SIGNgGRAMMA_SIGNgINDICTION_SIGNiSTRUMENTAL_NOTATION_SYM
  BOL-1zl1zl2zl3zl4zl7zl8zl9zk2zl3zl4zl5zl6zl7zl9zk30zl2zl6zl7zl8zl9zk4zl0zl2zl3zl5zl7zl8zl9zk5zl0zl
  1zl2zl3zl4zk7zk8gKAI_SYMBOLiPPA_SYMBOLhORONIShYATHOS_BASE_SIGNgLETTER_ARCHAIC_KOPPAnDIGAMMAnKOPPAn
  SAMPIoMALL_CAPITAL_GAMMAzcLAMDAzcOMEGAzcPIzdSIzcRHOoTIGMAnYOThITRA_SIGNhOWER_NUMERAL_SIGNhUNATE_EP
  SILON_SYMBOLnSIGMA_SYMBOLgMETRETES_SIGNhUSICAL_LEIMMAgNUMERAL_SIGNgOBOL_SIGNhNE_HALF_SIGNt_ALTERNA
  TE_FORMkQUARTER_SIGNhUNKIA_SIGNhXIAgPERISPOMENIhHI_SYMBOLhI_SYMBOLhROSGEGRAMMENIhSILIl_AND_OXIAqPE
  RISPOMENIqVARIAgQUESTION_MARKgREVERSED_LUNATE_EPSILON_SYMBOLhHO_SYMBOLkWITH_STROKE_SYMBOLgSINUSOID
  _SIGNhMALL_DOTTED_LUNATE_SIGMA_SYMBOLmLETTER_ALPHAy_WITH_DASIAzk_AND_OXIAzt_AND_YPOGEGRAMMENIzpPER
  ISPOMENIzzb_AND_YPOGEGRAMMENIzpVARIAzu_AND_YPOGEGRAMMENIzpYPOGEGRAMMENIzfMACRONzfOXIAzj_AND_YPOGEG
  RAMMENIzfPERISPOMENIzq_AND_YPOGEGRAMMENIzgSILIzk_AND_OXIAzt_AND_YPOGEGRAMMENIzpPERISPOMENIzzb_AND_
  YPOGEGRAMMENIzpVARIAzu_AND_YPOGEGRAMMENIzpYPOGEGRAMMENIzfTONOSzfVARIAzk_AND_YPOGEGRAMMENIzgRACHYzf
  YPOGEGRAMMENIuRCHAIC_KOPPAzcSAMPItBETAtCHItDELTAuIGAMMAtEPSILONzb_WITH_DASIAzm_AND_OXIAzrVARIAzhOX
  IAzhPSILIzm_AND_OXIAzrVARIAzhTONOSzhVARIAuTAw_WITH_DASIAzi_AND_OXIAzr_AND_YPOGEGRAMMENIznPERISPOME
  NIzy_AND_YPOGEGRAMMENIznVARIAzs_AND_YPOGEGRAMMENIznYPOGEGRAMMENIzdOXIAzh_AND_YPOGEGRAMMENIzdPERISP
  OMENIzo_AND_YPOGEGRAMMENIzeSILIzi_AND_OXIAzr_AND_YPOGEGRAMMENIznPERISPOMENIzy_AND_YPOGEGRAMMENIznV
  ARIAzs_AND_YPOGEGRAMMENIznYPOGEGRAMMENIzdTONOSzdVARIAzi_AND_YPOGEGRAMMENIzdYPOGEGRAMMENItFINAL_SIG
  MAtGAMMAtHETAtIOTAx_WITH_DASIAzj_AND_OXIAzoPERISPOMENIzoVARIAzfIALYTIKAzn_AND_OXIAzsPERISPOMENIzsT
  ONOSzsVARIAzeMACRONzeOXIAzePERISPOMENIzfSILIzj_AND_OXIAzoPERISPOMENIzoVARIAzeTONOSzeVARIAzfRACHYtK
  APPAuOPPAtLAMDAtMUtNUtOMEGAy_WITH_DASIAzk_AND_OXIAzt_AND_YPOGEGRAMMENIzpPERISPOMENIzzb_AND_YPOGEGR
  AMMENIzpVARIAzu_AND_YPOGEGRAMMENIzpYPOGEGRAMMENIzfOXIAzj_AND_YPOGEGRAMMENIzfPERISPOMENIzq_AND_YPOG
  EGRAMMENIzgSILIzk_AND_OXIAzt_AND_YPOGEGRAMMENIzpPERISPOMENIzzb_AND_YPOGEGRAMMENIzpVARIAzu_AND_YPOG
  EGRAMMENIzpYPOGEGRAMMENIzfTONOSzfVARIAzk_AND_YPOGEGRAMMENIzfYPOGEGRAMMENIvICRONzb_WITH_DASIAzm_AND
  _OXIAzrVARIAzhOXIAzhPSILIzm_AND_OXIAzrVARIAzhTONOSzhVARIAtPAMPHYLIAN_DIGAMMAuHIuIuSItRHOw_WITH_DAS
  IAzdPSILItSAMPIvNuHOuIGMAuTIGMAtTAUuHETAtUPSILONzb_WITH_DASIAzm_AND_OXIAzrPERISPOMENIzrVARIAziIALY
  TIKAzq_AND_OXIAzvPERISPOMENIzvTONOSzvVARIAzhMACRONzhOXIAzhPERISPOMENIziSILIzm_AND_OXIAzrPERISPOMEN
  IzrVARIAzhTONOSzhVARIAziRACHYtXItZETAmREVERSED_DOTTED_LUNATE_SIGMA_SYMBOLvLUNATE_SIGMA_SYMBOLhUBSC
  RIPT_SMALL_LETTER_BETAzeCHIzeGAMMAzePHIzeRHOhYMBOL_TAU_RHOgTALENT_SIGNhHETA_SYMBOLiREE_OBOLS_SIGNm
  QUARTERS_SIGNhONOShRYBLION_BASE_SIGNhWO_OBOLS_SIGNkTHIRDS_SIGNgUPSILON_WITH_ACUTE_AND_HOOK_SYMBOLt
  DIAERESIS_AND_HOOK_SYMBOLtHOOK_SYMBOLgVARIAhOCAL_NOTATION_SYMBOL-1ze0ze1ze2ze3ze4ze5ze6ze7ze8ze9zd
  2ze0ze1ze2ze3ze4zd3zd4zd5ze0ze1ze2ze3ze4zd6zd7zd8zd9gXESTES_SIGNgYEAR_SIGNhPOGEGRAMMENIgZERO_SIGNe
  N_APPLEgBOOKgHEARTgSALADcIMACING_FACEdNNING_CAT_FACE_WITH_SMILING_EYESjFACEn_WITH_ONE_LARGE_AND_ON
  E_SMALL_EYEtSMILING_EYESuTAR_EYEScOUP_MARKgSEPARATORdWING_HEARTbSbUARANI_SIGNeDSMANcIDE_DOGdTARcJA
  RATI_ABBREVIATION_SIGNjDIGIT_EIGHTpFIVEqOURpNINEpONEpSEVENqIXpTHREEqWOpZEROjLETTER_ArArIrUqBArHAqC
  ArHAqDArDAsHArHAqEqGArHAqHAqIrIqJArHAqKArHAqLArLAqMAqNArGArNArYAqOqPArHAqRAqSArHArSAqTArHArTAsHAqU
  rUqVArOCALIC_LzLyRzRqYAqZHAjOMjRUPEE_SIGNjSIGN_ANUSVARApVAGRAHAoCANDRABINDUpIRCLE_NUKTA_ABOVEoMADD
  AHoNUKTAoSHADDApUKUNoTHREE-DOT_NUKTA_ABOVEpWO-CIRCLE_NUKTA_ABOVEoVIRAMAqSARGAjVOWEL_CANDRA_EwOpSIG
  N_AAvIvUuCANDRA_EzcOuEuIvIuOuUvUuVOCALIC_LzeLzdRzeRcNJALA_GONDI_DIGIT_EIGHTuFIVEvOURuNINEuONEuSEVE
  NvIXuTHREEvWOuZEROoLETTER_AwAwIwUvBAwHAvCAwHAvDAwDAxHAwHAvEEvGAwHAvHAvIwIvJAwHAvKAwHAvLAwLAvMAvNAw
  GAvOOvPAwHAvRAvSAvTAwHAwTAxHAvUwUvVAvYAoOMoSIGN_ANUSVARAtVISARGAoVIRAMApOWEL_SIGN_AAzbIzbUzEEzIzbI
  zOOzUzbUcRMUKHI_ABBREVIATION_SIGNkDDAKjDIGIT_EIGHTpFIVEqOURpNINEpONEpSEVENqIXpTHREEqWOpZEROjEK_ONK
  ARjIRIjLETTER_ArArIrUqBArHAqCArHAqDArDAsHArHAqEEqFAqGArHAsHAqHAqIrIqJArHAqKArHAsHAqLArLAqMAqNArGAr
  NArYAqOOqPArHAqRArRAqSArHAqTArHArTAsHAqUrUqVAqYAqZAjSIGN_ADAK_BINDIoBINDIoNUKTAoUDAAToVIRAMAqSARGA
  oYAKASHjTIPPIjURAjVOWEL_SIGN_AAvIvUuEEuIvIuOOuUvUaHADEScIRCUTe_SPACEcLFWIDTH_BLACK_SQUAREkDOWNWARD
  S_ARROWkFORMS_LIGHT_VERTICALkHANGUL_FILLERrLETTER_AzEyCHIEUCHzIEUCyEzOzUyHIEUHyIzEUNGyKHIEUKHzIYEO
  Kzf-SIOSyMIEUMyNIEUNze-CIEUCzfHIEUHyOzEyPHIEUPHzIEUPze-SIOSyRIEULze-HIEUHzfKIYEOKzfMIEUMzfPHIEUPHz
  gIEUPzfSIOSzfTHIEUTHySIOSzSANGCIEUCzeKIYEOKzePIEUPzeSIOSzeTIKEUTyTHIEUTHzIKEUTyUyWAzbEzEzbOzIyYAzb
  EzEzbOzIzOzUkIDEOGRAPHIC_COMMAwFULL_STOPkKATAKANA-HIRAGANA_PROLONGED_SOUND_MARKs_LETTER_AzbEzbHAzc
  EzcIzcOzcUzbIzbKAzcEzcIzcOzcUzbMAzcEzcIzcOzcUzbNzcAzcEzcIzcOzcUzbOzbRAzcEzcIzcOzcUzbSAzcEzcIzcMALL
  _AzhEzhIzhOzhTUzhUzhYAziOziUzcOzcUzbTAzcEzcIzcOzcUzbUzbWAzcOzbYAzcOzcUtMIDDLE_DOTtSEMI-VOICED_SOUN
  D_MARKtVOICED_SOUND_MARKkLEFTWARDS_ARROWo_CORNER_BRACKETkRIGHTWARDS_ARROWp_CORNER_BRACKETkUPWARDS_
  ARROWkWHITE_CIRCLEcMBURGERdMERg_AND_PICKlSICKLElWRENCHdSAeTER_FACEcNDBAGgLLeSHAKEe_WITH_INDEX_AND_
  MIDDLE_FINGERS_CROSSEDqFINGER_AND_THUMB_CROSSEDdGUL_CHOSEONG_CEONGCHIEUMCHIEUCHzdIEUCzcSIOSzdSANGC
  IEUCzhSIOSrHIEUCHx-HIEUHyKHIEUKHtTUEUMCHIEUCHzIEUCySIOSzSANGCIEUCzeSIOSrIEUCv-IEUNGqFILLERqHIEUHv-
  SIOSqIEUNGv-CHIEUCHxIEUCwHIEUHwKIYEOKwMIEUMwPANSIOSxHIEUPHxIEUPwRIEULwSIOSwTHIEUTHxIKEUTqKAPYEOUNM
  IEUMyPHIEUPHzIEUPyRIEULySSANGPIEUPrHIEUKHrIYEOKw-TIKEUTqMIEUMv-KIYEOKwPIEUPwSIOSwTIKEUTqNIEUNv-CIE
  UCwHIEUHwKIYEOKwPIEUPwSIOSwTIKEUTqPANSIOSrHIEUPHx-HIEUHyPIEUPrIEUPv-CHIEUCHxIEUCwHIEUHwKHIEUKHxIYE
  OKwNIEUNwPHIEUPHwSIOSzb-CIEUCzcKIYEOKzcPIEUPzcTHIEUTHzdIKEUTxSANGSIOSwTHIEUTHxIKEUTqRIEULv-CIEUCwH
  IEUHwKAPYEOUNPIEUPxHIEUKHxIYEOKwMIEUMwNIEUNwPIEUPwSIOSxSANGKIYEOKzcPIEUPzcTIKEUTwTIKEUTqSIOSu-CHIE
  UCHwIEUCvHIEUHvIEUNGvKHIEUKHwIYEOKvMIEUMvNIEUNvPHIEUPHwIEUPzb-KIYEOKvRIEULvSSANGSIOSvTHIEUTHwIKEUT
  rSANGCIEUCzb-HIEUHvHIEUHvIEUNGvKIYEOKvNIEUNvPIEUPvRIEULvSIOSz-PIEUPvTHIEUTHwIKEUTvYEORINHIEUHqTHIE
  UTHrIKEUTw-CIEUCxKIYEOKxMIEUMxPIEUPxRIEULxSIOSqYEORINHIEUHsSIEUNGhDOUBLE_DOT_TONE_MARKhFILLERhJONG
  SEONG_CHIEUCHsIEUCw-PIEUPxSSANGPIEUPrHIEUHw-MIEUMxNIEUNxPIEUPxRIEULrIEUNGw-KHIEUKHyIYEOKxSSANGKIYE
  OKrKAPYEOUNMIEUMzPHIEUPHzbIEUPzRIEULsHIEUKHsIYEOKx-CHIEUCHyHIEUHyKHIEUKHyNIEUNyPIEUPyRIEULySIOSzd-
  KIYEOKrMIEUMw-CHIEUCHyIEUCxHIEUHxKIYEOKxNIEUNxPANSIOSyIEUPzd-SIOSxRIEULxSIOSySANGNIEUNzdSIOSrNIEUN
  w-CHIEUCHyIEUCxHIEUHxKIYEOKxPANSIOSxRIEULxSIOSxTHIEUTHyIKEUTrPANSIOSy-KAPYEOUNPIEUPzPIEUPsHIEUPHy-
  PIEUPzSIOSzTHIEUTHsIEUPw-CHIEUCHyIEUCxHIEUHxMIEUMxPHIEUPHxRIEULzd-PHIEUPHxSIOSzc-TIKEUTxTIKEUTrRIE
  ULw-HIEUHxKAPYEOUNPIEUPyHIEUKHyIYEOKze-HIEUHzfSIOSxMIEUMzd-HIEUHzeKIYEOKzeSIOSxNIEUNxPANSIOSyHIEUP
  HyIEUPzd-HIEUHzePHIEUPHzeSIOSzeTIKEUTxSIOSySANGKIYEOKzdSIOSxTHIEUTHyIKEUTze-HIEUHxYEORINHIEUHzj-HI
  EUHzSIEUNGrSIOSv-CHIEUCHxIEUCwHIEUHwKAPYEOUNPIEUPxIYEOKwMIEUMwPANSIOSxIEUPwRIEULwTHIEUTHxIKEUTsSAN
  GCIEUCwIEUNGwKIYEOKwMIEUMwNIEUNwPIEUPwRIEULzc-KHIEUKHwSIOSzb-KIYEOKzcTIKEUTwTIKEUTzd-PIEUPwYESIEUN
  GrTHIEUTHsIKEUTx-CHIEUCHzIEUCyKIYEOKyPIEUPyRIEULySIOSzd-KIYEOKyTHIEUTHrYEORINHIEUHtSIEUNGz-HIEUHzb
  KHIEUKHzcIYEOKzbMIEUMzbPANSIOSzbSIOSzcSANGKIYEOKiUNGSEONG_As-EUtOtUsEsRAEAw-AxEyOxIxUrEsOt-EUuOuUs
  Ut-AuEvOvUuOuUrFILLERrIs-AuRAEAtEUtItOu-ItUtYAv-OvEuEvOuOuUrOs-EuOtOu-ItUtYAvEuEvOsErSSANGARAEArUs
  -AuEtEO-EUtI-ItUtYEvOrWAtEsEtOsIrYAt-OuUuYOtEsEtOu-OvUvYAsIt-UsOt-AvEuEOuIuOuYAwEvEOsUt-AvEuEvOuIu
  OuUuYEwOhLETTER_ApEpRAEAtEoCHIEUCHpIEUCoEpOpUoHIEUHoIpEUNGoKAPYEOUNMIEUMwPHIEUPHxIEUPwSSANGPIEUPpH
  IEUKHpIYEOKu-SIOSoMIEUMt-PANSIOSvIEUPuSIOSoNIEUNt-CIEUCuHIEUHuPANSIOSuSIOSuTIKEUToOpEoPANSIOSpHIEU
  PHpIEUPt-CIEUCuKIYEOKuSIOSy-KIYEOKzTIKEUTuTHIEUTHvIKEUToRIEULt-HIEUHuKIYEOKzb-SIOSuMIEUMuPANSIOSvH
  IEUPHvIEUPz-SIOSuSIOSuTHIEUTHvIKEUTuYEORINHIEUHoSIOSs-CIEUCtKIYEOKtNIEUNtPIEUPtTIKEUTpSANGCIEUCtHI
  EUHtIEUNGtKIYEOKtNIEUNtPIEUPtSIOStTIKEUToTHIEUTHpIKEUToUoWAqEpEqOpIoYAqEpEqOrRINHIEUHqSIEUNGw-PANS
  IOSxSIOSpIpOq-IrYAtEpUq-IrYEtOhSINGLE_DOT_TONE_MARKeZHOU_NUMERAL_EIGHTrFIVEsOURrNINErONErSEVENsIXr
  TENsHIRTYtREEsWENTYtOdIFI_ROHINGYA_DIGIT_EIGHTwFIVExOURwNINEwONEwSEVENxIXwTHREExWOwZEROqLETTER_AxB
  AxCAxDAyDAxFAxGAxHAxJAxKAyHAyINNA_WAzeYAxLAxMAxNAyGAyYAxPAxRAyRAxSAyHAxTAyTAxVAxWAxYAxZAqMARK_NA_K
  HONNAvSAKINqSIGN_HARBAHAYvTAHALAxNAxSSIqVOWEL_AwEwIwOwUdUNOO_LETTER_ApBApDApGApHApIpKApLApMApNAqGA
  pPApRApSApTApUpWApYAiSIGN_PAMUDPODiVOWEL_SIGN_ItUcPPY_PERSON_RAISING_ONE_HANDcRD_DISKcTCHING_CHICK
  dRAN_LETTER_ALEPHpYNoBETHoDALETH-RESHoGIMELoHEqTHoKAPHoLAMEDHoMEMoNUNoPEoQOPHoSADHEqMEKHpHINoTAWpE
  THoWAWoYODHoZAYNhNUMBER_FIVEoONEr_HUNDREDoTENpWENTYbEADPHONEeSTONEj_GRAVEYARD_SYMBOLdR-NO-EVIL_MON
  KEYeT_DECORATIONgHANDSgWITH_ARROWlRIBBONlTIP_ON_THE_LEFTdVY_AMPERSAND_ORNAMENThRROW_SHAFT_WIDTH_ON
  Ezc_HALFzdTHIRDyTWO_THIRDShSTERISKgBALLOT_XhLACK-FEATHERED_NORTH_EAST_ARROWwRIGHTWARDS_ARROWwSOUTH
  _EAST_ARROWl_CURVED_DOWNWARDS_AND_RIGHTWARDS_ARROWtUPWARDS_AND_RIGHTWARDS_ARROWmHEARTgCHECK_MARKjV
  RON_SNOWFLAKEhIRCLEmD_SALTIREm_WITH_CIRCLE_INSIDEsSTROKE_AND_TWO_DOTS_ABOVEhONCAVE-POINTED_BLACK_R
  IGHTWARDS_ARROWgDASHED_TRIANGLE-HEADED_RIGHTWARDS_ARROWhIVISION_SIGNhOLLAR_SIGNiUBLE_COMMA_QUOTATI
  ON_MARK_ORNAMENTnTURNED_COMMA_QUOTATION_MARK_ORNAMENTiWNWARDS_ARROW_WITH_EQUILATERAL_ARROWHEADzcLA
  RGE_EQUILATERAL_ARROWHEADgEIGHT_POINTED_BLACK_STARuPINWHEEL_STARuRECTILINEAR_BLACK_STARmSPOKED_AST
  ERISKmTEARDROP-SPOKED_PROPELLER_ASTERISKhQUALS_SIGNhXCLAMATION_MARK_ORNAMENTxSYMBOLgFIVE_POINTED_B
  LACK_STARlSPOKED_ASTERISKhOUR_BALLOON-SPOKED_ASTERISKgGREEK_CROSSgHEART_EXCLAMATION_MARK_ORNAMENTh
  ORIZONTAL_FILLgINTERROBANG_ORNAMENTgLARGE_CIRCLEiTIN_CROSShEFT-POINTING_ANGLE_BRACKET_ORNAMENTzbQU
  OTATION_MARK_ORNAMENTkWARDS_ARROW_WITH_EQUILATERAL_ARROWHEADzcLARGE_EQUILATERAL_ARROWHEADhIGATURE_
  OPEN_ET_ORNAMENThOWER_RIGHT-SHADOWED_WHITE_RIGHTWARDS_ARROWj_DOUBLE_COMMA_QUOTATION_MARK_ORNAMENTk
  SINGLE_COMMA_QUOTATION_MARK_ORNAMENTgMINUS_SIGNhULTIPLICATION_XgNORTH_EAST_ARROWrPOINTING_BUDzbVIN
  E_LEAFmWEST_POINTING_BUDzbVINE_LEAFgOPEN_CENTRE_CROSShUTLINED_BLACK_STARhVAL_WITH_OVAL_INSIDEgPLUS
  _SIGNgRIGHT-POINTING_ANGLE_BRACKET_ORNAMENTzcQUOTATION_MARK_ORNAMENTlWARDS_ARROWw_WITH_EQUILATERAL
  _ARROWHEADzdLARGE_EQUILATERAL_ARROWHEADhOUND-TIPPED_RIGHTWARDS_ARROWgSALTIREiNS-SERIF_INTERROBANG_
  ORNAMENThCRIPT_LIGATURE_ET_ORNAMENThINGLE_COMMA_QUOTATION_MARK_ORNAMENTnTURNED_COMMA_QUOTATION_MAR
  K_ORNAMENTiX_POINTED_BLACK_STARkSPOKED_ASTERISKhOUTH_EAST_ARROWrPOINTING_BUDzbVINE_LEAFmWEST_POINT
  ING_BUDzbVINE_LEAFhPARKLEgTEARDROP-SHANKED_RIGHTWARDS_ARROWqPOKED_ASTERISKwPINWHEEL_ASTERISKhRIANG
  LE-HEADED_RIGHTWARDS_ARROWhWELVE_POINTED_BLACK_STARvPINWHEEL_STARgUPPER_RIGHT-SHADOWED_WHITE_RIGHT
  WARDS_ARROWiWARDS_ARROW_WITH_EQUILATERAL_ARROWHEADzLARGE_EQUILATERAL_ARROWHEADgVERTICAL_BARgWEDGE-
  TAILED_RIGHTWARDS_ARROWhHITE_CIRCLEmDOWN-POINTING_TRIANGLEmSQUAREhIDE-HEADED_RIGHTWARDS_ARROWcBREW
  _ACCENT_ATNAH_HAFUKHoDARGApEHIoETNAHTAoGERESHu_MUQDAMrSHAYIMoILUYoMAHAPAKHpERKHAu_KEFULApUNAHoOLEo
  PASHTAqZERoQADMAqRNEY_PARAoREVIAoSEGOLpHALSHELEToTELISHA_GEDOLAwQETANAqVIRpIPEHAoYERAH_BEN_YOMOqTI
  VoZAQEF_GADOLuQATANqRQApINORhLETTER_ALEFs_WITH_MAPIQyPATAHyQAMATSqTERNATIVE_AYINzbPLUS_SIGNpYINoBE
  Tr_WITH_DAGESHxRAFEoDALETt_WITH_DAGESHoFINAL_KAFx_WITH_DAGESHuMEMuNUNuPEw_WITH_DAGESHuTSADIoGIMELt
  _WITH_DAGESHoHEqTq_WITH_MAPIQoKAFr_WITH_DAGESHxRAFEoLAMEDt_WITH_DAGESHoMEMr_WITH_DAGESHoNUNr_WITH_
  DAGESHoPEq_WITH_DAGESHwRAFEoQOFr_WITH_DAGESHoRESHs_WITH_DAGESHoSAMEKHu_WITH_DAGESHpHINs_WITH_DAGES
  Hzf_AND_SHIN_DOTzlIN_DOTySHIN_DOTzIN_DOToTAVr_WITH_DAGESHpETr_WITH_DAGESHpSADIt_WITH_DAGESHoVAVr_W
  ITH_DAGESHxHOLAMoWIDE_ALEFtDALETtFINAL_MEMtHEtKAFtLAMEDtRESHtTAVoYODr_WITH_DAGESHxHIRIQoZAYINt_WIT
  H_DAGESHiIGATURE_ALEF_LAMEDqYIDDISH_DOUBLE_VAVzgYODyVAV_YODyYOD_YOD_PATAHhMARK_LOWER_DOTmMASORA_CI
  RCLEmUPPER_DOThPOINT_DAGESH_OR_MAPIQnHATAF_PATAHtQAMATStSEGOLoIRIQoOLAMs_HASER_FOR_VAVnJUDEO-SPANI
  SH_VARIKAnMETEGnPATAHnQAMATSt_QATANoUBUTSnRAFEnSEGOLoHEVApIN_DOToIN_DOTnTSEREiUNCTUATION_GERESHwSH
  AYIMtMAQAFtNUN_HAFUKHAtPASEQtSOF_PASUQhYOD_TRIANGLEcDGEHOGcLICOPTERdLSCHREIBER_PAUSE_SYMBOLdMET_WI
  TH_WHITE_CROSSe_SYMBOLcNTAIGANA_LETTER_A-1u2u3uWOsE-1u2u3u4u5u6sHA-1w0w1v2v3v4v5v6v7v8v9tE-1v2v3v4
  v5v6v7tI-1v2v3v4v5v6v7tO-1v2v3v4v5v6v7v8tU-1v2v3sI-1u2u3u4sKA-1w0w1v2v3v4v5v6v7v8v9vKEtE-1v2v3v4v5
  v6tI-1v2v3v4v5v6v7v8tO-1v2v3vKItU-1v2v3v4v5v6v7sMA-1v2v3v4v5v6v7tE-1v2vMAtI-1v2v3v4v5v6v7tO-1v2v3v
  4v5v6tU-1v2v3v4sN-MU-MO-1zb2tA-1v2v3v4v5v6v7v8v9tE-1v2v3v4v5v6vKOtI-1v2v3v4v5v6v7vTEtO-1v2v3v4v5tU
  -1v2v3sO-1u2u3sRA-1v2v3v4tE-1v2v3v4tI-1v2v3v4v5v6v7tO-1v2v3v4v5v6tU-1v2v3v4v5v6sSA-1v2v3v4v5v6v7v8
  tE-1v2v3v4v5tI-1v2v3v4v5v6tO-1v2v3v4v5v6v7tU-1v2v3v4v5v6v7v8sTA-1v2v3v4tE-1v2v3v4v5v6v7v8v9tI-1v2v
  3v4v5v6v7tO-1v2v3v4v5v6vRAtU-1v2v3v4vTOsU-1u2u3u4u5sWA-1v2v3v4v5tE-1v2v3v4tI-1v2v3v4v5tO-1v2v3v4v5
  v6v7sYA-1v2v3v4v5vYOtO-1v2v3v4v5v6tU-1v2v3v4cRBdMITIAN_CONJUGATE_MATRIXcXAGRAM_FOR_ABUNDANCEoFTER_
  COMPLETIONoPPROACHnBEFORE_COMPLETIONoITING_THROUGHoREAKTHROUGHnCOMING_TO_MEETpNFLICTqTEMPLATIONnDA
  RKENING_OF_THE_LIGHToECREASEpLIVERANCEpVELOPMENToIFFICULTY_AT_THE_BEGINNINGpSPERSIONoURATIONnENTHU
  SIASMnFELLOWSHIPoOLLOWINGnGATHERING_TOGETHERoRACEpEAT_POSSESSIONvWERuREPONDERANCEtTAMINGnHOLDING_T
  OGETHERnINCREASEpFLUENCEpNER_TRUTHqOCENCEnLIMITATIONnMODESTYpUTH_CORNERSnOBSTRUCTIONoPPOSITIONqRES
  SIONnPEACEoROGRESSoUSHING_UPWARDnRETREATqURNpVOLUTIONnSMALL_PREPONDERANCEtTAMINGoPLITTING_APARToTA
  NDSTILLnTHE_ABYSMAL_WATERsRMYtOUSING_THUNDERrCAULDRONsLINGING_FIREsREATIVE_HEAVENrFAMILYrGENTLE_WI
  NDrJOYOUS_LAKErKEEPING_STILL_MOUNTAINrMARRYING_MAIDENrRECEPTIVE_EARTHrWANDERERsELLoREADINGnWAITING
  oORK_ON_THE_DECAYEDnYOUTHFUL_FOLLYbIBISCUScGH-HEELED_SHOEfSPEED_TRAINq_WITH_BULLET_NOSEe_BRIGHTNES
  S_SYMBOLfOCTET_PRESETfVOLTAGE_SIGNcKING_BOOTcNDU_TEMPLEcPPOPOTAMUScRAGANA_DIGRAPH_YORIjITERATION_M
  ARKjLETTER_ArRCHAIC_WUyYEqBArErIrOrUqDArErIrOrUqEqGArErIrOrUqHArErIrOrUqIqKArErIrOrUqMArErIrOrUqNr
  ArErIrOrUqOqPArErIrOrUqRArErIrOrUqSArErIrMALL_AwEwIwKAxEwOwTUwUwWAxExIxOwYAxOxUrOrUqTArErIrOrUqUqV
  UqWArErIrOqYArOrUqZArErIrOrUjVOICED_ITERATION_MARKcSTORIC_SITEbOCHOcLEdLOW_QUILT_SQUARE_ORNAMENTzd
  _IN_BLACK_SQUAREcMOTHETICcNEYBEEf_POTcOKcPcRIZONTAL_BARmLACK_HEXAGONrOCTAGONlELLIPSISlLINE_EXTENSI
  ONlMALE_WITH_STROKE_SIGNlONE_EIGHTH_BLOCK-1358zd2zd3zd4zd5zd6zd7lSCAN_LINE-1v3v7v9lTABULATIONv_SET
  wWITH_JUSTIFICATIONo_KEYmRAFFIC_LIGHTdSEf_FACEgRACINGcSPITALcTELd_BEVERAGEeDOGePEPPEReSPRINGScURGL
  ASSj_WITH_FLOWING_SANDdSEf_BUILDINGoSgWITH_GARDENbRYVNIA_SIGNbTcJcSbUGGING_FACEcNDRED_POINTS_SYMBO
  LcSHED_FACEcTbYGIEAcPHENg-MINUSgATION_POINTg_BULLEThWITH_DIAERESISdODIASTOLEcSTERESIS_SYMBOLaICE_C
  REAMfUBEeHOCKEY_STICK_AND_PUCKeSKATEbDENTICAL_TOm_AND_SLANTED_PARALLELkWITH_DOT_ABOVEgFICATION_CAR
  DdOGRAPHIC_ANNOTATION_BOTTOM_MARKxEARTH_MARKxFIRST_MARKyOURTH_MARKzc_MARKxHEAVEN_MARKxLINKING_MARK
  xMAN_MARKyIDDLE_MARKxONE_MARKxREVERSE_MARKxSECOND_MARKxTHIRD_MARKzREE_MARKyOP_MARKyWO_MARKmCLOSING
  _MARKnOMMAmDEPARTING_TONE_MARKoSCRIPTION_CHARACTER_ABOVE_TO_BELOWzsMIDDLE_AND_BELOWzjFULL_SURROUND
  zjLEFT_TO_MIDDLE_AND_RIGHTzrRIGHTzjOVERLAIDzjSURROUND_FROM_ABOVEzxBELOWzxLEFTzyOWER_LEFTzxUPPER_LE
  FTzzeRIGHTmENTERING_TONE_MARKmFULL_STOPmHALF_FILL_SPACEmITERATION_MARKmLEVEL_TONE_MARKmNUMBER_ZERO
  mRISING_TONE_MARKmSPACEmTALLY_MARK_FIVEyOURxONExTHREEyWOnELEGRAPH_LINE_FEED_SEPARATOR_SYMBOLwSYMBO
  L_FOR_APRILzjUGUSTziDAY_EIGHTzrEENznLEVENzmFIFTEENzoVEznOURzqTEENzmNINEzqTEENzmONEzmSEVENzrTEENznI
  XzpTEENzmTENznHIRTEENzrYzs-ONEzoREEznWELVEzpNTYzs-EIGHTztFIVEzuOURztNINEztONEztSEVENzuIXztTHREEzuW
  OzoOzjECEMBERziFEBRUARYziHOUR_EIGHTzsEENzoLEVENznFIFTEENzpVEzoOURzrTEENznNINEzrTEENznONEznSEVENzsT
  EENzoIXzqTEENznTENzoHIRTEENzpREEzoWELVEzqNTYzt-FOURzuONEzuTHREEzvWOzpOznZEROziJANUARYzjULYzkNEziMA
  RCHzkYziNOVEMBERziOCTOBERziSEPTEMBERmVARIATION_INDICATORbMAGE_OFi_OR_APPROXIMATELY_EQUAL_TOcPdERIA
  L_ARAMAIC_LETTER_ALEPHzYINyBETHyDALETHyGIMELyHEzbTHyKAPHyLAMEDHyMEMyNUNyPEyQOPHyRESHySADHEzbMEKHzH
  INyTAWzETHyWAWyYODHyZAYINrNUMBER_ONEzc_HUNDREDzdTHOUSANDyTENzc_THOUSANDzHREEzWENTYzbOrSECTION_SIGN
  bNBOX_TRAYcCOMING_ENVELOPEfPLETE_INFINITYdREASES_ASi_FONT_SIZE_SYMBOLfMENTcDdEXf_POINTING_AT_THE_V
  IEWERdIAN_RUPEE_SIGNeC_SIYAQ_ALTERNATE_LAKH_MARKmFRACTION_ONE_HALFzQUARTERvTHREE_QUARTERSmLAKH_MAR
  KmNUMBER_ALTERNATE_ONEzeTEN_THOUSANDzfWOtEIGHTyYz_THOUSANDy_HUNDREDzTHOUSANDtFIFTYy_THOUSANDvVEx_H
  UNDREDyTHOUSANDuORTYy_THOUSANDvURx_HUNDREDyTHOUSANDtKARORyANtLAKHxANtNINExTYz_THOUSANDx_HUNDREDyTH
  OUSANDtONEw_HUNDREDxTHOUSANDtPREFIXED_EIGHTzdFIVEzeOURzdNINEzdONEzdSEVENzeIXzdTHREEzeWOtSEVENyTYzb
  _THOUSANDy_HUNDREDzTHOUSANDuIXwTYy_THOUSANDw_HUNDREDxTHOUSANDtTENw_THOUSANDuHIRTYz_THOUSANDvREEy_H
  UNDREDzTHOUSANDuWENTYz_THOUSANDvOw_HUNDREDxTHOUSANDmPLACEHOLDERmRUPEE_MARKcFINITYi_NEGATED_WITH_VE
  RTICAL_BARdORMATION_DESK_PERSONmSEPARATOR_FOURwONEwTHREExWOnOURCEcHIBIT_ARABIC_FORM_SHAPINGiSYMMET
  RIC_SWAPPINGcPUT_SYMBOL_FOR_LATIN_CAPITAL_LETTERSxLETTERSxSMALL_LETTERSrNUMBERSrSYMBOLScSCRIPTIONA
  L_PAHLAVI_LETTER_ALEPHzeBETHzeDALETHzeGIMELzeHEzgTHzeKAPHzeLAMEDHzeMEM-QOPHzeNUNzePEzeSADHEzgMEKHz
  fHINzeTAWzfETHzeWAW-AYIN-RESHzeYODHzeZAYINwNUMBER_FOURzeONEzh_HUNDREDziTHOUSANDzeTENzfHREEzfWENTYz
  gOqRTHIAN_LETTER_ALEPHzgYINzfBETHzfDALETHzfGIMELzfHEzhTHzfKAPHzfLAMEDHzfMEMzfNUNzfPEzfQOPHzfRESHzf
  SADHEzhMEKHzgHINzfTAWzgETHzfWAWzfYODHzfZAYINxNUMBER_FOURzfONEzi_HUNDREDzjTHOUSANDzfTENzgHREEzgWENT
  YzhOdERTION_SYMBOLcTEGRALi_AROUND_A_POINT_OPERATORkVERAGE_WITH_SLASHjEXTENSIONjWITH_DOUBLE_STROKEo
  INTERSECTIONoLEFTWARDS_ARROW_WITH_HOOKoOVERBARoTIMES_SIGNoUNDERBARqIONeRCALATEfIOR_PRODUCTfLINEAR_
  ANNOTATION_ANCHORxSEPARATORxTERMINATORgOCKED_FEMALE_AND_MALE_SIGNfROBANGfSECTIONm_ABOVE_BAR_ABOVE_
  UNIONtUNIONnBESIDE_AND_JOINED_WITH_INTERSECTIONnWITH_DOTsLOGICAL_ANDsOVERBARcVERSE_BULLETiCHECKER_
  BOARD_FILLn_MARKiDOWNWARDS_ARROW_WITH_TIP_LEFTWARDSiMEDIUM_SHADEiWHITE_CIRCLEfTED_EXCLAMATION_MARK
  jINTERROBANGjLAZY_SkOW_KAVYKAt_WITH_KAVYKA_ABOVEjOHM_SIGNjPENTAGRAMjQUESTION_MARKjUNDERTIEdISIBLE_
  PLUSkSEPARATORkTIMESbZAKAYA_LANTERNb_LOVE_YOU_HAND_SIGNaJACK-O-LANTERNcPANESE_BANK_SYMBOLjCASTLEjD
  OLLSjGOBLINjINDUSTRIAL_STANDARD_SYMBOLjOGREjPOST_OFFICEjSYMBOL_FOR_BEGINNERcRcVANESE_CONSONANT_SIG
  N_CAKRAyKERETyPENGKALjDIGIT_EIGHTpFIVEqOURpNINEpONEpSEVENqIXpTHREEqWOpZEROjLEFT_RERENGGANlTTER_ArI
  qBAs_MURDAqCAs_MURDAqDAs_MAHAPRANArDAt_MAHAPRANAqEqGAs_MURDAqHAqIrIr_KAWIqJAs_MAHAPRANAqKAs_MURDAt
  SASAKqLAqMAqNAs_MURDArGAt_LELETz_RASWADIrYAt_MURDAqOqPAs_CEREKtMURDAqRAs_AGUNGqSAs_MAHAPRANAuURDAq
  TAs_MURDArTAt_MAHAPRANAqUqWAqYAjPADA_ADEGs_ADEGpNDAPoISEN-ISENoLINGSApUHURqNGSIoMADYAoPANGKATpISEL
  EHoTIRTA_TUMETESoWINDUlNGKONnRANGKEPjRIGHT_RERENGGANjSIGN_CECAKt_TELUoLAYARoPANYANGGAoWIGNYANjTURN
  ED_PADA_PISELEHjVOWEL_SIGN_DIRGA_MUREuPEPETuSUKUy_MENDUTuTALINGwRUNGvOLONGuWULUy_MELIKbEANSbIGSAW_
  PUZZLE_PIECEbOINcYSTICKbUGGLINGcNOcPITERaKAABAcITHI_ABBREVIATION_SIGNhDANDAiOUBLE_DANDAoSECTION_MA
  RKhENUMERATION_SIGNhLETTER_ApApIpUoBApHAoCApHAoDApDAqDHAqHApHAoEoGApHAoHAoIpIoJApHAoKApHAoLAoMAoNA
  pGApNApYAoOoPApHAoRApHAoSApHApSAoTApHApTAqHAoUpUoVAoYAhNUMBER_SIGNs_ABOVEhSECTION_MARKiIGN_ANUSVAR
  AmCANDRABINDUmNUKTAmVIRAMAoSARGAhVOWEL_SIGN_AAtItUsEsItIsOsUtUsVOCALIC_RcNGAROOeXI_RADICAL_AGAINqN
  DqRRIVEsOWqXEpBADGERrMBOOqEANqIGrRDrTTERqLACKrOODrUEqOATrDYrLT_OF_CLOTHrNErWqRANCHrISTLErUSHpCARTr
  ULDRONrVEqHILDqITYqLANsWrIFFrOTHESqOLORrMPARErRPSErVERrWpDEATHrERqIPPERrSHsTINGUISHrVINATIONqOGrOR
  rTsTED_CLIFFwTENTrUBLE_XrWN_BOXr_NOTqRAGONrUMrYpEARsTHrTqIGHTqMBROIDERYqNCLOSURErTERqVENtINGqYEpFA
  CErNGrTHERqEATHERqIELDrGHTrRErSHqLUTErYqOOTqRAGRANTrOGqURpGATEqHOSTqOrLDr_SLOWLYqRAINsSSpHAIRrLBER
  DsF_TREE_TRUNKrNDqEADsRTrMPqIDING_ENCLOSUREqOOKrRNsSEpICEqNCHrSECTpJADErRpKNIFEpLACKrMEqEAFsTHERrE
  KrGSqIDrFErNEqONGt_STRIDEpMANqEATrLONqILLETrNISTERqOONrRNINGsTARrUNDtTAINsTHpNETqOSErTpOLDqNEsSELF
  qPEN_BOXrPOSEpPIGqLOWqOWERqRIVATErOFOUNDpRAINrPrTqEDqICErGHT_OPEN_BOXrVERqOOFqUNpSACRIFICIAL_WINEr
  LTrYqCHOLARrRIPTqEALrCONDrErLFqHEEPsLLrOOTsRT_TAILED_BIRDwHREADqICKNESSrLKqKINqLASHsVErICEqMALLqNO
  UTqOUNDqPEARsECHrIRITrOONrROUTqQUAREqTANDrEAMsPrONEsPtPINGqUNqWEETpTABLErLLrNNED_LEATHERqENqIGERrL
  EqONGUErOTHqRACKrEErIPODqURBANsTLEqWOs_HANDSpUSEpVALLEYqILLAGEpWALKt_ENCLOSURErTERqEAPONrSTqHEATrI
  TEqINDsEqOMANrRKqRAPrONGpYELLOWdNADA_AI_LENGTH_MARKiDIGIT_EIGHToFIVEpOURoNINEoONEoSEVENpIXoTHREEpW
  OoZEROiLENGTH_MARKkTTER_AqAqIqUpBAqHApCAqHApDAqDArHAqHApEqEpFApGAqHApHApIqIpJAqHApKAqHApLAqLArLApM
  ApNArKAARA_POLLUqGAqNAqYApOqOpPAqHApRAqRApSAqHAqSApTAqHAqTArHApUqUpVAqOCALIC_LyLxRyRpYAiSIGN_ANUSV
  ARAoVAGRAHAnCANDRABINDUnJIHVAMULIYAnNUKTAnSIDDHAMoPACING_CANDRABINDUnUPADHMANIYAnVIRAMApSARGAiVOWE
  L_SIGN_AAuIuUtEuEtIuItOuOtUuUtVOCALIC_LzdLzcRzdRcTAKANA-HIRAGANA_DOUBLE_HYPHENsPROLONGED_SOUND_MAR
  KsSEMI-VOICED_SOUND_MARKsVOICED_SOUND_MARKi_DIGRAPH_KOTOjITERATION_MARKjLETTER_ArRCHAIC_EyWUyYEzIq
  BArErIrOrUqDArErIrOrUqEqGArErIrOrUqHArErIrOrUqIqKArErIrOrUqMArErIsNNAN_NASALIZED_TONE-1zn2zn3zn4zn
  5zn7zn8xTONE-2zd3zd4zd5zd7zd8rOrUqNrArErIrOrUqOqPArErIrOrUqRArErIrOrUqSArErIrMALL_AwEwHAxExIxOxUwI
  wKAxExUwMUwNxUwOwRAxExIxOxUwSIxUwTOxUwUwWAxExIxOwYAxOxUrOrUqTArErIrOrUqUqVArErIrOrUqWArErIrOqYArOr
  UqZArErIrOrUjMIDDLE_DOTjVOICED_ITERATION_MARKcYAH_LI_DIGIT_EIGHTpFIVEqOURpNINEpONEpSEVENqIXpTHREEq
  WOpZEROjLETTER_AqBAqCAqDAqGAqHArTAqIqKArHAqLAqMAqNArGArYAqOErOqPArHAqRAqSArHAqTArHAqVAqWAqYAqZAjSI
  GN_CWIoSHYAjTONE_CALYAt_PLOPHUoPLOPHUjVOWEL_EqEpOpUqEbELVIN_SIGNcYdBOARDi_AND_MOUSEdCAP_TENbHAROSH
  THI_DIGIT_FOURrONErTHREEsWOlFRACTION_ONE_HALFlLETTER_AsBAtHAsCAtHAsDAtDAuHAtHAsGAtHAsHAsJAsKAtHAtK
  AsLAsMAsNAtNAtYAsPAtHAsRAsSAtHAtSAsTAtHAtTAuHAuTAvHAsVAtHAsYAsZAlNUMBER_ONE_HUNDREDwTHOUSANDsTENtW
  ENTYlPUNCTUATION_CIRCLEyRESCENT_BARxDANDAyOTzUBLE_DANDAxLINESyOTUSxMANGALAMxSMALL_CIRCLElSIGN_ANUS
  VARAqBAR_ABOVEqCAUDAqDOT_BELOWsUBLE_RING_BELOWqVISARGAlVIRAMAmOWEL_LENGTH_MARKrSIGN_EwIwOwUwVOCALI
  C_RcITAN_SMALL_SCRIPT_CHARACTER-18B00zj1zj2zj3zj4zj5zj6zj7zj8zj9zjAzjBzjCzjDzjEzjFzi10zj1zj2zj3zj4
  zj5zj6zj7zj8zj9zjAzjBzjCzjDzjEzjFzi20zj1zj2zj3zj4zj5zj6zj7zj8zj9zjAzjBzjCzjDzjEzjFzi30zj1zj2zj3zj4
  zj5zj6zj7zj8zj9zjAzjBzjCzjDzjEzjFzi40zj1zj2zj3zj4zj5zj6zj7zj8zj9zjAzjBzjCzjDzjEzjFzi50zj1zj2zj3zj4
  zj5zj6zj7zj8zj9zjAzjBzjCzjDzjEzjFzi60zj1zj2zj3zj4zj5zj6zj7zj8zj9zjAzjBzjCzjDzjEzjFzi70zj1zj2zj3zj4
  zj5zj6zj7zj8zj9zjAzjBzjCzjDzjEzjFzi80zj1zj2zj3zj4zj5zj6zj7zj8zj9zjAzjBzjCzjDzjEzjFzi90zj1zj2zj3zj4
  zj5zj6zj7zj8zj9zjAzjBzjCzjDzjEzjFziA0zj1zj2zj3zj4zj5zj6zj7zj8zj9zjAzjBzjCzjDzjEzjFziB0zj1zj2zj3zj4
  zj5zj6zj7zj8zj9zjAzjBzjCzjDzjEzjFziC0zj1zj2zj3zj4zj5zj6zj7zj8zj9zjAzjBzjCzjDzjEzjFziD0zj1zj2zj3zj4
  zj5zj6zj7zj8zj9zjAzjBzjCzjDzjEzjFziE0zj1zj2zj3zj4zj5zj6zj7zj8zj9zjAzjBzjCzjDzjEzjFziF0zj1zj2zj3zj4
  zj5zj6zj7zj8zj9zjAzjBzjCzjDzjEzjFzhC00zj1zj2zj3zj4zj5zj6zj7zj8zj9zjAzjBzjCzjDzjEzjFzi10zj1zj2zj3zj
  4zj5zj6zj7zj8zj9zjAzjBzjCzjDzjEzjFzi20zj1zj2zj3zj4zj5zj6zj7zj8zj9zjAzjBzjCzjDzjEzjFzi30zj1zj2zj3zj
  4zj5zj6zj7zj8zj9zjAzjBzjCzjDzjEzjFzi40zj1zj2zj3zj4zj5zj6zj7zj8zj9zjAzjBzjCzjDzjEzjFzi50zj1zj2zj3zj
  4zj5zj6zj7zj8zj9zjAzjBzjCzjDzjEzjFzi60zj1zj2zj3zj4zj5zj6zj7zj8zj9zjAzjBzjCzjDzjEzjFzi70zj1zj2zj3zj
  4zj5zj6zj7zj8zj9zjAzjBzjCzjDzjEzjFzi80zj1zj2zj3zj4zj5zj6zj7zj8zj9zjAzjBzjCzjDzjEzjFzi90zj1zj2zj3zj
  4zj5zj6zj7zj8zj9zjAzjBzjCzjDzjEzjFziA0zj1zj2zj3zj4zj5zj6zj7zj8zj9zjAzjBzjCzjDzjEzjFziB0zj1zj2zj3zj
  4zj5zj6zj7zj8zj9zjAzjBzjCzjDzjEzjFziC0zj1zj2zj3zj4zj5zj6zj7zj8zj9zjAzjBzjCzjDzjEzjFziD0zj1zj2zj3zj
  4zj5uFILLERcMER_CURRENCY_SYMBOL_RIELgDIGIT_EIGHTmFIVEnOURmNINEmONEmSEVENnIXmTHREEnWOmZEROgINDEPEND
  ENT_VOWEL_LYzbYyQAAzbIzbQzbUzEzIzbIzOO_TYPE_ONEziTWOzUzbKzbUzcVyRYzbYgLETTER_BAnCAoHApOoOnDAoOnHAn
  KAoHApOoOnLAoOnMOnNGOoNOoOoYOnPHApOoOnQAnROnSAoHAoSOnTAoHApOoOoTHAqOnVOnYOgSIGN_AHSDAmTTHACANmVAKR
  AHASANYAlBANTOCnRIYOOSANnTHAMASATmEYYALlCAMNUC_PII_KUUHmOENGlKAKABATmHANmOOMUUTlLEK_TOOlMUUSIKATOA
  NlNIKAHITlPHNAEK_MUANlREAHMUKmOBATlSAMYOK_SANNYAlTOANDAKHIATmRIISAPlVIRIAMlYUUKALEAPINTUhYMBOL_BEI
  _KOETrROCoUON_KOETsROCnDAP-BEI_KOETvROCsUON_KOETwROCrMUOY_KOETwROCrPII_KOETvROCsRAM_KOETwROCq_KOET
  rROCnLEK_ATTAK_BEIyUONxMUOYxPIIyRAMzc-BEIzeUONzdMUOYzdPIIxSONnMUOY_KOETsROCnPATHAMASAToII_KOETrROC
  oRAM-BEI_KOETwROCtUON_KOETxROCsMUOY_KOETxROCsPII_KOETwROCr_KOETsROCnTUTEYASATgVOWEL_INHERENT_AAwQm
  SIGN_AAsEsIsUrErIsEsIrOEsOrUsAsUrYsAsYcOJKI_ABBREVIATION_SIGNhDANDAiOUBLE_DANDAoSECTION_MARKhLETTE
  R_ApApIpUoBApBApHAoCApHAoDApDAqDAqHApHAoEoGApGApHAoHAoIoJApJAoKApHAoLApLAoMAoNApGApNApYAoOoPApHAoR
  AoSAoTApHApTAqHAoUoVAoYAhSECTION_MARKiIGN_ANUSVARAmNUKTAmSHADDAnUKUNmVIRAMAhVOWEL_SIGN_AAtItUsEsIt
  IsOsUhWORD_SEPARATORcUDAWADI_DIGIT_EIGHTqFIVErOURqNINEqONEqSEVENrIXqTHREErWOqZEROkLETTER_AsAsIsUrB
  AsBAsHArCAsHArDAsDAtDAtHAsHArErGAsGAsHArHArIsIrJAsHAsJArKAsHArLArMArNAsGAsNAsYArOrPAsHArRAsRArSAsH
  ArTAsHAsTAtHArUsUrVArYAkSIGN_ANUSVARApNUKTApVIRAMAkVOWEL_SIGN_AAwIwUvEvIwIvOvUwUbIMONOcP_SIGNcSSeI
  NG_CAT_FACE_WITH_CLOSED_EYESiFACEm_WITH_CLOSED_EYESsSMILING_EYESe_MARKcTEcWIFRUITbNEELING_PERSONcO
  TbOALAcREAN_STANDARD_SYMBOLbRONOSaLABELd_COATcCROSSE_STICK_AND_BALLcDDERdY_BEETLEcNGUAGE_TAGcO_CAN
  CELLATION_MARKeDIGIT_EIGHTkFIVElOURkNINEkONEkSEVENlIXkTHREElWOkZEROeELLIPSISeHO_MOhNOeKO_LAeLETTER
  _BOlCOlDOlFO_FAYpONoSUNGoTAMlHO_SUNGoTAMlKHMU_GOqNYOnO_SUNGpTAMmOlLOn_LINGpOOTlMOlNGOmOmYOlOlPALI_
  BHAqCHAqDDAsHArHAqGHAqJHAqLLAqNNArYAqTTAsHAmHO_SUNGpTAMmOlROlSANSKRIT_SHAvSAmO_SUNGoTAMlTHO_SUNGpT
  AMmOlWOlYOeNIGGAHITAeSEMIVOWEL_SIGN_LOtNYOfIGN_PALI_VIRAMAeTONE_MAI_CATAWAnEKnTHOoIeVOWEL_SIGN_AqA
  qIqMqYpEqIpIqIpMAI_KANuONpOpUqUpYqYcRGER_THANl_OR_EQUAL_TOf_BLUE_CIRCLElDIAMONDlSQUAREhROWN_CIRCLE
  mSQUAREgCIRCLEgDOWN_TACKgGREEN_CIRCLEmSQUAREgLEFT_TRIANGLE_OPERATORgONE_DOT_OVER_TWO_DOTS_PUNCTUAT
  IONkRING_OVER_TWO_RINGS_PUNCTUATIONhRANGE_CIRCLEnDIAMONDnSQUAREgPURPLE_CIRCLEnSQUAREgRED_CIRCLEkSQ
  UAREgTRIPLE_VERTICAL_BAR_OPERATORhWO_DOTS_OVER_ONE_DOT_PUNCTUATIONkRINGS_OVER_ONE_RING_PUNCTUATION
  gUP_TACKgYELLOW_CIRCLEnSQUAREdI_SIGNcST_QUARTER_MOONr_SYMBOLsWITH_FACEcTIN_CAPITAL_LETTER_AwAwEx_W
  ITH_ACUTEzeMACRONwFRICAN_DwLPHAwNGLICANA_WwOwUwVx_WITH_HORIZONTAL_BARwYw_WITH_ACUTEzdBREVEzi_AND_A
  CUTEznDOT_BELOWznGRAVEznHOOK_ABOVEznTILDEzdCARONzeIRCUMFLEXzn_AND_ACUTEzsDOT_BELOWzsGRAVEzsHOOK_AB
  OVEzsTILDEzdDIAERESISzm_AND_MACRONzeOT_ABOVEzm_AND_MACRONzhBELOWzfUBLE_GRAVEzdGRAVEzdHOOK_ABOVEzdI
  NVERTED_BREVEzdMACRONzdOGONEKzdRING_ABOVEzn_AND_ACUTEziBELOWzdSTROKEzdTILDEvBwETAwROKEN_Lw_WITH_DO
  T_ABOVEzhBELOWzdFLOURISHzdHOOKzdLINE_BELOWzdSTROKEzdTOPBARvCwHIwLOSED_INSULAR_GwONwUATRILLOzf_WITH
  _COMMAw_WITH_ACUTEzdBARzdCARONzeEDILLAzk_AND_ACUTEzeIRCUMFLEXzdDOT_ABOVEzdHOOKzdPALATAL_HOOKzdSTRO
  KEvDwZx_WITH_CARONw_WITH_CARONzeEDILLAzeIRCUMFLEX_BELOWzdDOT_ABOVEzhBELOWzdHOOKzdLINE_BELOWzdSHORT
  _STROKE_OVERLAYzeMALL_LETTER_Zzr_WITH_CARONzeTROKEzdTOPBARvEwGYPTOLOGICAL_AINzlLEFwNGwSHwTxHwZHy_R
  EVERSEDzWITH_CARONw_WITH_ACUTEzdBREVEzdCARONzeEDILLAzk_AND_BREVEzeIRCUMFLEXzn_AND_ACUTEzsDOT_BELOW
  "

/-- The fifth part of the names. -/
def fifthNames : String := "aLATIN_CAPITAL_LETTER_E_WITH_CIRCUMFLEX_AND_GRAVEzsHOOK_ABOVEzsTILDEzoBE
  LOWzdDIAERESISzeOT_ABOVEzhBELOWzfUBLE_GRAVEzdGRAVEzdHOOK_ABOVEzdINVERTED_BREVEzdMACRONzj_AND_ACUTE
  zoGRAVEzdOGONEKzdSTROKEzdTILDEzi_BELOWvFw_WITH_DOT_ABOVEzdHOOKzdSTROKEvGwAMMAwHAwLOTTAL_AzeIzeSTOP
  zeUw_WITH_ACUTEzdBREVEzdCARONzeEDILLAzeIRCUMFLEXzdDOT_ABOVEzdHOOKzdMACRONzdOBLIQUE_STROKEzdSTROKEv
  HwALF_HwENGwWAIRw_WITH_BREVE_BELOWzdCARONzeEDILLAzeIRCUMFLEXzdDESCENDERzeIAERESISzeOT_ABOVEzhBELOW
  zdHOOKzdSTROKEvIwNSULAR_DzeFzeGzeRzeSzeTwOTAwSw_WITH_ACUTEzdBREVEzdCARONzeIRCUMFLEXzdDIAERESISzm_A
  ND_ACUTEzeOT_ABOVEzhBELOWzfUBLE_GRAVEzdGRAVEzdHOOK_ABOVEzdINVERTED_BREVEzdMACRONzdOGONEKzdSTROKEzd
  TILDEzi_BELOWvJw_WITH_CIRCUMFLEXzeROSSED-TAILzdSTROKEvKw_WITH_ACUTEzdCARONzeEDILLAzdDESCENDERzeIAG
  ONAL_STROKEzeOT_BELOWzdHOOKzdLINE_BELOWzdOBLIQUE_STROKEzdSTROKEzj_AND_DIAGONAL_STROKEvLwJw_WITH_AC
  UTEzdBARzeELTzdCARONzeEDILLAzeIRCUMFLEX_BELOWzdDOT_BELOWzm_AND_MACRONzfUBLE_BARzdHIGH_STROKEzdLINE
  _BELOWzdMIDDLE_DOTzkTILDEzdSMALL_LETTER_JzeTROKEvMwIDDLE-WELSH_LLzjVzc_SCOTS_Sw_WITH_ACUTEzdDOT_AB
  OVEzhBELOWzdHOOKvNwJw_WITH_ACUTEzdCARONzeEDILLAzeIRCUMFLEX_BELOWzdDESCENDERzeOT_ABOVEzhBELOWzdGRAV
  EzdLEFT_HOOKzeINE_BELOWzeONG_RIGHT_LEGzdOBLIQUE_STROKEzdSMALL_LETTER_JzdTILDEvOwIwLD_POLISH_OwMEGA
  wOwPEN_EzbOwUw_WITH_ACUTEzdBREVEzdCARONzeIRCUMFLEXzn_AND_ACUTEzsDOT_BELOWzsGRAVEzsHOOK_ABOVEzsTILD
  EzdDIAERESISzm_AND_MACRONzeOT_ABOVEzm_AND_MACRONzhBELOWzfUBLE_ACUTEzkGRAVEzdGRAVEzdHOOK_ABOVEzfRNz
  h_AND_ACUTEzmDOT_BELOWzmGRAVEzmHOOK_ABOVEzmTILDEzdINVERTED_BREVEzdLONG_STROKE_OVERLAYzfOPzdMACRONz
  j_AND_ACUTEzoGRAVEzeIDDLE_TILDEzdOGONEKzj_AND_MACRONzdSTROKEzj_AND_ACUTEzdTILDEzi_AND_ACUTEznDIAER
  ESISznMACRONvPw_WITH_ACUTEzdDOT_ABOVEzdFLOURISHzdHOOKzdSQUIRREL_TAILzeTROKEzj_THROUGH_DESCENDERvQw
  _WITH_DIAGONAL_STROKEzdSTROKE_THROUGH_DESCENDERvRwEVERSED_C_WITH_DOTzfEzfHALF_HzfOPEN_EwUM_ROTUNDA
  w_ROTUNDAxWITH_ACUTEzdCARONzeEDILLAzdDOT_ABOVEzhBELOWzm_AND_MACRONzfUBLE_GRAVEzdINVERTED_BREVEzdLI
  NE_BELOWzdOBLIQUE_STROKEzdSTROKEzdTAILvSwALTILLOwCHWAxRIPT_GwHARP_SwIGMOID_SwMALL_CAPITAL_IzcQ_WIT
  H_HOOK_TAILw_WITH_ACUTEzi_AND_DOT_ABOVEzdCARONzi_AND_DOT_ABOVEzeEDILLAzeIRCUMFLEXzeOMMA_BELOWzdDOT
  _ABOVEzhBELOWzm_AND_DOT_ABOVEzdHOOKzdOBLIQUE_STROKEzdSHORT_STROKE_OVERLAYzeWASH_TAILvTwHORNzb_WITH
  _STROKEzn_THROUGH_DESCENDERwONE_FIVEzbSIXzbTWOwRESILLOwURNED_AzeLPHAzdHzdINSULAR_GzdKzdLzdMzdTzdVw
  Zw_WITH_CARONzeEDILLAzeIRCUMFLEX_BELOWzeOMMA_BELOWzdDIAGONAL_STROKEzeOT_ABOVEzhBELOWzdHOOKzdLINE_B
  ELOWzdRETROFLEX_HOOKzdSTROKEvUwPSILONw_BARxWITH_ACUTEzdBREVEzdCARONzeIRCUMFLEXzn_BELOWzdDIAERESISz
  m_AND_ACUTEzrCARONzrGRAVEzrMACRONznBELOWzeOT_BELOWzfUBLE_ACUTEzkGRAVEzdGRAVEzdHOOK_ABOVEzfRNzh_AND
  _ACUTEzmDOT_BELOWzmGRAVEzmHOOK_ABOVEzmTILDEzdINVERTED_BREVEzdMACRONzj_AND_DIAERESISzdOGONEKzdRING_
  ABOVEzdSTROKEzdTILDEzi_AND_ACUTEzjBELOWvVwENDwISIGOTHIC_ZwOLAPUK_AEzeOEzeUEwYw_WITH_DIAGONAL_STROK
  EzeOT_BELOWzdHOOKzdTILDEvWwYNNw_WITH_ACUTEzdCIRCUMFLEXzdDIAERESISzeOT_ABOVEzhBELOWzdGRAVEzdHOOKvXw
  _WITH_DIAERESISzeOT_ABOVEvYwOGHw_WITH_ACUTEzdCIRCUMFLEXzdDIAERESISzeOT_ABOVEzhBELOWzdGRAVEzdHOOKzh
  _ABOVEzdLOOPzdMACRONzdSTROKEzdTILDEvZw_WITH_ACUTEzdCARONzeIRCUMFLEXzdDESCENDERzeOT_ABOVEzhBELOWzdH
  OOKzdLINE_BELOWzdPALATAL_HOOKzdSTROKEzeWASH_TAILpIGATURE_IJxOEhROSSgEPIGRAPHIC_LETTER_ARCHAIC_MyIN
  VERTED_Mz_LONGAyREVERSED_FziPySIDEWAYS_IgLETTER_AINoLVEOLAR_CLICKnBIDENTAL_PERCUSSIVEpLABIAL_CLICK
  wPERCUSSIVEnDENTAL_CLICKnGLOTTAL_STOPz_WITH_STROKEnINVERTED_GLOTTAL_STOPzj_WITH_CURLzpSTROKEnLATER
  AL_CLICKnPHARYNGEAL_VOICED_FRICATIVEnRETROFLEX_CLICKzd_WITH_RETROFLEX_HOOKpVERSED_ESH_LOOPwGLOTTAL
  _STOP_WITH_STROKEnSINOLOGICAL_DOToMALL_CAPITAL_AzdEzcBzdARRED_BzcCzcDzcEzdTHzdZHzcFzcGzd_WITH_HOOK
  zcHzcIzdNVERTED_RzcJzcKzcLzd_WITH_BELTzjSTROKEzcMzcNzcOzdEzdPEN_OzdUzcPzcQzcRzdEVERSED_NzlRzdUMzd_
  WITH_RIGHT_LEGzcSzcTzdURNED_EzjGzjKzjMzjRzcUzcVzcWzcYzcZoTRETCHED_Cy_WITH_CURLnTWO_WITH_STROKEnVOI
  CED_LARYNGEAL_SPIRANTnWYNNnYRgSMALL_CAPITAL_LETTER_I_WITH_STROKEzcU_WITH_STROKEmLETTER_AuAuEv_WITH
  _ACUTEzcMACRONuLPHAy_WITH_RETROFLEX_HOOKuNGLICANA_WuOuUuVv_WITH_HORIZONTAL_BARuYu_REVERSED-SCHWAvW
  ITH_ACUTEzbBREVEzg_AND_ACUTEzlDOT_BELOWzlGRAVEzlHOOK_ABOVEzlTILDEzbCARONzcIRCUMFLEXzl_AND_ACUTEzqD
  OT_BELOWzqGRAVEzqHOOK_ABOVEzqTILDEzbDIAERESISzk_AND_MACRONzcOT_ABOVEzk_AND_MACRONzfBELOWzdUBLE_GRA
  VEzbGRAVEzbHOOK_ABOVEzbINVERTED_BREVEzbMACRONzbOGONEKzbRETROFLEX_HOOKzcIGHT_HALF_RINGzdNG_ABOVEzl_
  AND_ACUTEzgBELOWzbSTROKEzbTILDEtBuARRED_ALPHAzbEzbOvSELINE_ESHuETAuLACKLETTER_EzgOzh_WITH_STROKEuO
  TTOM_HALF_OuROKEN_Lu_WITH_DOT_ABOVEzfBELOWzbFLOURISHzbHOOKzbLINE_BELOWzbMIDDLE_TILDEzbPALATAL_HOOK
  zbSTROKEzbTOPBARtCuHIw_WITH_LOW_LEFT_SERIFzhRIGHT_RINGuLOSED_INSULAR_GzbOMEGAzcPEN_EzbREVERSED_OPE
  N_EuONuUATRILLOzd_WITH_COMMAu_WITH_ACUTEzbBARzbCARONzcEDILLAzi_AND_ACUTEzcIRCUMFLEXzcURLzbDOT_ABOV
  EzbHOOKzbPALATAL_HOOKzbRETROFLEX_HOOKzbSTROKEtDuB_DIGRAPHuELTAvZH_DIGRAPHzg_WITH_PALATAL_HOOKzmRET
  ROFLEX_HOOKuOTLESS_IzcJzd_WITH_STROKEzp_AND_HOOKvUBLE_Rzc_WITH_CROSSED-TAILzbTHORNzbWYNNuUMuZv_DIG
  RAPHze_WITH_CURLzkRETROFLEX_HOOKwWITH_CARONu_WITH_CARONzcEDILLAzcIRCUMFLEX_BELOWzcURLzbDOT_ABOVEzf
  BELOWzbHOOKzf_AND_TAILzbLINE_BELOWzbMIDDLE_TILDEzbPALATAL_HOOKzbSHORT_STROKE_OVERLAYzcTROKEzbTAILz
  cOPBARtEuGYPTOLOGICAL_AINzjLEFuNGw_WITH_CROSSED-TAILzdPALATAL_HOOKuSHw_WITH_CURLzdDOUBLE_BARzn_AND
  _CURLzdPALATAL_HOOKzdRETROFLEX_HOOKuTvHuZHw_REVERSEDxWITH_CARONzeURLzdPALATAL_HOOKzdRETROFLEX_HOOK
  zdTAILu_WITH_ACUTEzbBREVEzbCARONzcEDILLAzi_AND_BREVEzcIRCUMFLEXzl_AND_ACUTEzqDOT_BELOWzqGRAVEzqHOO
  K_ABOVEzqTILDEzmBELOWzbDIAERESISzcOT_ABOVEzfBELOWzdUBLE_GRAVEzbFLOURISHzbGRAVEzbHOOK_ABOVEzbINVERT
  ED_BREVEzbMACRONzh_AND_ACUTEzmGRAVEzbNOTCHzbOGONEKzbRETROFLEX_HOOKzbSTROKEzbTILDEzg_BELOWtFuENG_DI
  GRAPHzg_WITH_TRILLu_WITH_DOT_ABOVEzbHOOKzbMIDDLE_TILDEzbPALATAL_HOOKzbSTROKEtGuAMMAuHAuLOTTAL_AzcI
  zcSTOPzcUu_WITH_ACUTEzbBREVEzbCARONzcEDILLAzcIRCUMFLEXzbDOT_ABOVEzbHOOKzbMACRONzbOBLIQUE_STROKEzbP
  ALATAL_HOOKzbSTROKEtHuALF_HuENGx_WITH_HOOKuVu_WITH_BREVE_BELOWzbCARONzcEDILLAzcIRCUMFLEXzbDESCENDE
  RzcIAERESISzcOT_ABOVEzfBELOWzbHOOKzbLINE_BELOWzbPALATAL_HOOKzbSTROKEtIuNSULAR_DzcFzcGzcRzcSzcTvVER
  TED_ALPHAzdOEuOTAx_WITH_STROKEwIFIED_EuSu_WITH_ACUTEzbBREVEzbCARONzcIRCUMFLEXzbDIAERESISzk_AND_ACU
  TEzcOT_BELOWzdUBLE_GRAVEzbGRAVEzbHOOK_ABOVEzbINVERTED_BREVEzbMACRONzbOGONEKzbRETROFLEX_HOOKzbSTROK
  Ezh_AND_RETROFLEX_HOOKzbTILDEzg_BELOWtJu_WITH_CARONzcIRCUMFLEXzcROSSED-TAILzbSTROKEtKuRAu_WITH_ACU
  TEzbCARONzcEDILLAzbDESCENDERzcIAGONAL_STROKEzcOT_BELOWzbHOOKzbLINE_BELOWzbOBLIQUE_STROKEzbPALATAL_
  HOOKzbSTROKEzh_AND_DIAGONAL_STROKEtLuAMBDA_WITH_STROKEuENIS_FvZHx_WITH_RETROFLEX_HOOKuJuONG_Sz_WIT
  H_DIAGONAL_STROKEzhOT_ABOVEzgHIGH_STROKEuS_DIGRAPHuUMuZ_DIGRAPHu_WITH_ACUTEzbBARzcELTzf_AND_PALATA
  L_HOOKzbCARONzcEDILLAzcIRCUMFLEX_BELOWzcURLzbDOT_BELOWzk_AND_MACRONzdUBLE_BARziMIDDLE_TILDEzbFISHH
  OOKzbHIGH_STROKEzbINVERTED_LAZY_SzbLINE_BELOWzbMIDDLE_DOTziRINGziTILDEzbPALATAL_HOOKzbRETROFLEX_HO
  OKzp_AND_BELTzbSTROKEtMuIDDLE-WELSH_LLzhVz_SCOTS_SuUMu_WITH_ACUTEzbCROSSED-TAILzbDOT_ABOVEzfBELOWz
  bHOOKzbMIDDLE_TILDEzbPALATAL_HOOKtNuJuUMu_PRECEDED_BY_APOSTROPHEvWITH_ACUTEzbCARONzcEDILLAzcIRCUMF
  LEX_BELOWzcROSSED-TAILzcURLzbDESCENDERzcOT_ABOVEzfBELOWzbGRAVEzbLEFT_HOOKzcINE_BELOWzcONG_RIGHT_LE
  GzbMIDDLE_TILDEzbOBLIQUE_STROKEzbPALATAL_HOOKzbRETROFLEX_HOOKzbTILDEtOuIuLD_POLISH_OuMEGAuOuPEN_Ez
  _WITH_RETROFLEX_HOOKyOzEz_WITH_RETROFLEX_HOOKzgSTROKEuUu_WITH_ACUTEzbBREVEzbCARONzcIRCUMFLEXzl_AND
  _ACUTEzqDOT_BELOWzqGRAVEzqHOOK_ABOVEzqTILDEzbDIAERESISzk_AND_MACRONzcOT_ABOVEzk_AND_MACRONzfBELOWz
  dUBLE_ACUTEziGRAVEzbGRAVEzbHOOK_ABOVEzdRNzf_AND_ACUTEzkDOT_BELOWzkGRAVEzkHOOK_ABOVEzkTILDEzbINVERT
  ED_BREVEzbLONG_STROKE_OVERLAYzdOPzdW_RING_INSIDEzbMACRONzh_AND_ACUTEzmGRAVEzbOGONEKzh_AND_MACRONzb
  RETROFLEX_HOOKzbSTROKEzh_AND_ACUTEzbTILDEzg_AND_ACUTEzlDIAERESISzlMACRONtPuHIu_WITH_ACUTEzbDOT_ABO
  VEzbFLOURISHzbHOOKzbMIDDLE_TILDEzbPALATAL_HOOKzbSQUIRREL_TAILzcTROKEzh_THROUGH_DESCENDERtQuP_DIGRA
  PHu_WITH_DIAGONAL_STROKEzbHOOKzf_TAILzbSTROKE_THROUGH_DESCENDERtRuAMS_HORNuEVERSED_Cze_WITH_DOTzdE
  zeNGzdHALF_HzdKzdOPEN_Ezj_WITH_HOOKzpRETROFLEX_HOOKzdR_WITH_FISHHOOKzdSCRIPT_GuUMw_ROTUNDAu_ROTUND
  AvWITHOUT_HANDLEz_ACUTEzbCARONzcEDILLAzcROSSED-TAILzbDOT_ABOVEzfBELOWzk_AND_MACRONzdUBLE_GRAVEzbFI
  SHHOOKzj_AND_MIDDLE_TILDEzoPALATAL_HOOKzbINVERTED_BREVEzbLINE_BELOWzcONG_LEGzbMIDDLE_TILDEzbOBLIQU
  E_STROKEzbPALATAL_HOOKzbSTROKEzbTAILtSuAKHA_YATvLTILLOuCHWAy_WITH_HOOKzfRETROFLEX_HOOKvRIPT_Gzc_WI
  TH_CROSSED-TAILzbRzc_WITH_RINGuHARP_SuIDEWAYS_DIAERESIZED_UzdOzePEN_Oze_WITH_STROKEzdTURNED_MzdUvG
  MOID_SuQUAT_REVERSED_ESHuTIRRUP_Ru_WITH_ACUTEzg_AND_DOT_ABOVEzbCARONzg_AND_DOT_ABOVEzcEDILLAzcIRCU
  MFLEXzcOMMA_BELOWzcURLzbDOT_ABOVEzfBELOWzk_AND_DOT_ABOVEzbHOOKzbMIDDLE_TILDEzbOBLIQUE_STROKEzbPALA
  TAL_HOOKzbSHORT_STROKE_OVERLAYzcWASH_TAILtTuAILLESS_PHIuC_DIGRAPH_WITH_CURLuESH_DIGRAPHzg_WITH_PAL
  ATAL_HOOKzmRETROFLEX_HOOKuHORNy_WITH_STROKEzl_THROUGH_DESCENDERv_WITH_STRIKETHROUGHuONE_FIVEySIXyT
  WOvP_HALF_OuRESILLOuS_DIGRAPHze_WITH_RETROFLEX_HOOKuUMvRNED_AzcEzcLPHAzbDELTAzbEzbGzbHzc_WITH_FISH
  HOOKzq_AND_TAILzbIzcNSULAR_GzbKzbLzbMzc_WITH_LONG_LEGzbOEzd_WITH_HORIZONTAL_STROKEzjSTROKEzcPEN_Ez
  c_OPEN-Ozj_WITH_STROKEzbRzc_WITH_HOOKziLONG_LEGzq_AND_RETROFLEX_HOOKziMIDDLE_TILDEziPALATAL_HOOKzi
  TAILzbTzc_WITH_CURLzbUIzbVzbWzbYzc_WITH_BELTuZu_WITH_CARONzcEDILLAzcIRCUMFLEX_BELOWzcOMMA_BELOWzcU
  RLzbDIAERESISzeGONAL_STROKEzcOT_ABOVEzfBELOWzbHOOKzf_AND_RETROFLEX_HOOKzbLINE_BELOWzbMIDDLE_TILDEz
  bPALATAL_HOOKzbRETROFLEX_HOOKzbSTROKEtUuEuIuMuOuPSILONzb_WITH_STROKEu_BARy_WITH_SHORT_RIGHT_LEGvWI
  TH_ACUTEzbBREVEzbCARONzcIRCUMFLEXzl_BELOWzbDIAERESISzk_AND_ACUTEzpCARONzpGRAVEzpMACRONzlBELOWzcOT_
  BELOWzdUBLE_ACUTEziGRAVEzbGRAVEzbHOOK_ABOVEzdRNzf_AND_ACUTEzkDOT_BELOWzkGRAVEzkHOOK_ABOVEzkTILDEzb
  INVERTED_BREVEzbLEFT_HOOKzbMACRONzh_AND_DIAERESISzbOGONEKzbRETROFLEX_HOOKzcING_ABOVEzbSHORT_RIGHT_
  LEGzcTROKEzbTILDEzg_AND_ACUTEzhBELOWtVuENDuISIGOTHIC_ZuOLAPUK_AEzcOEzcUEuYu_WITH_CURLzbDIAGONAL_ST
  ROKEzcOT_BELOWzbHOOKzbPALATAL_HOOKzbRIGHT_HOOKzbTILDEtWu_WITH_ACUTEzbCIRCUMFLEXzbDIAERESISzcOT_ABO
  VEzfBELOWzbGRAVEzbHOOKzbRING_ABOVEtXu_WITH_DIAERESISzcOT_ABOVEzbLONG_LEFT_LEGzo_AND_LOW_RIGHT_RING
  zpWITH_SERIFzdW_RIGHT_RINGzbPALATAL_HOOKtYuOGHu_WITH_ACUTEzbCIRCUMFLEXzbDIAERESISzcOT_ABOVEzfBELOW
  zbGRAVEzbHOOKzf_ABOVEzbLOOPzbMACRONzbRING_ABOVEzbSHORT_RIGHT_LEGzcTROKEzbTILDEtZu_WITH_ACUTEzbCARO
  NzcIRCUMFLEXzcURLzbDESCENDERzcOT_ABOVEzfBELOWzbHOOKzbLINE_BELOWzbMIDDLE_TILDEzbPALATAL_HOOKzbRETRO
  FLEX_HOOKzbSTROKEzcWASH_TAILnIGATURE_FFxIxLwIwLvIJvLONG_S_TvOEvSThUBSCRIPT_SMALL_LETTER_AzeEzeHzeI
  zeJzeKzeLzeMzeNzeOzePzeRzeSzfCHWAzeTzeUzeVzeXbEAFY_GREENe_FLUTTERING_IN_WINDcDGERcFT-FACING_ARMENI
  AN_ETERNITY_SIGNmFISTmSVASTI_SIGNx_WITH_DOTSfHANDED_INTERLACED_PENTAGRAMfPOINTING_ANGLE_BRACKEToCU
  RVED_ANGLE_BRACKEToDOUBLE_ANGLE_QUOTATION_MARKoMAGNIFYING_GLASSfSHADED_WHITE_RIGHTWARDS_ARROWgIDE_
  ARC_ANTICLOCKWISE_ARROWfTO-RIGHT_EMBEDDINGoISOLATEoMARKoOVERRIDEeWARDS_ARROWp-TAILp_ABOVE_ALMOST_E
  QUAL_TOwREVERSE_ALMOST_EQUAL_TOzfTILDE_OPERATORwSHORT_RIGHTWARDS_ARROWwTILDE_OPERATORrND_UPPER_AND
  _LOWER_ONE_EIGHTH_BLOCKqFROM_BARy_TO_BLACK_DIAMONDqOVER_RIGHTWARDS_ARROWqTHROUGH_LESS-THANySUBSETy
  XrO_BARw_OVER_RIGHTWARDS_ARROW_TO_BARuLACK_DIAMONDqWITH_DOTTED_STEMxUBLE_VERTICAL_STROKEvEQUILATER
  AL_ARROWHEADvHOOKvLARGE_TRIANGLE_ARROWHEADwOOPvMEDIUM_TRIANGLE_ARROWHEADvNOTCHED_TAILvPLUS_BELOWvS
  MALL_EQUILATERAL_ARROWHEADzcTRIANGLE_ARROWHEADwTROKEvTAILz_WITH_DOUBLE_VERTICAL_STROKEzgVERTICAL_S
  TROKEwIP_DOWNWARDSzUPWARDSvVERTICAL_STROKEkBACK-TILTED_SHADOWED_WHITE_ARROWlLACK_ARROWqCIRCLED_WHI
  TE_ARROWlOTTOM-SHADED_WHITE_ARROWkCOMPRESSED_ARROWkDASHED_ARROWlOUBLE_ARROWw-TAILw_FROM_BARxWITH_S
  TROKEzdVERTICAL_STROKErDASH_ARROWkFINGER-POST_ARROWlRONT-TILTED_SHADOWED_WHITE_ARROWkHANDmRPOON_OV
  ER_RIGHTWARDS_HARPOONsWITH_BARB_DOWNWARDSzh_ABOVE_RIGHTWARDS_HARPOON_WITH_BARB_DOWNziBELOW_LONG_DA
  SHziFROM_BARziTO_BARzdUPWARDSzf_ABOVE_LEFTWARDS_HARPOON_WITH_BARB_DOWNznONG_DASHzmRIGHTWARDS_HARPO
  ON_WITH_BARB_UPzgFROM_BARzgTO_BARlEAVY_ARROWqCOMPRESSED_ARROWkLEFT-SHADED_WHITE_ARROWkOPEN-HEADED_
  ARROWkPAIRED_ARROWSkQUADRUPLE_ARROWkRIGHT-SHADED_WHITE_ARROWlOCKETkSANS-SERIF_ARROWlQUARED_ARROWnI
  GGLE_ARROWkTOP_SHADED_WHITE_ARROWlRIANGLE-HEADED_ARROWzg_OVER_RIGHTWARDS_TRIANGLE-HEADED_ARROWzhTO
  _BARzhWITH_BOLD_SHAFTzmDOUBLE_HORIZONTAL_STROKEztVERTICAL_STROKEzmHEAVY_SHAFTzmLONG_TIP_DOWNWARDSz
  vUPWARDSzmMEDIUM_SHAFTzmNARROW_SHAFTzmVERY_HEAVY_SHAFTzbDASHED_ARROWzbPAIRED_ARROWSs_ARROWHEADnPLE
  _ARROWrDASH_ARROWlWO-HEADED_ARROW_FROM_BARzcWITH_DOUBLE_VERTICAL_STROKEzhTAILzl_WITH_DOUBLE_VERTIC
  AL_STROKEzrVERTICAL_STROKEziRIANGLE_ARROWHEADSzhVERTICAL_STROKEvTRIPLE_DASH_ARROWn_HEADED_ARROWkWA
  VE_ARROWlHITE_ARROWv_WITHIN_TRIANGLE_ARROWHEADe_AND_LOWER_AND_RIGHT_TRIANGULAR_THREE_QUARTERS_BLOC
  KpONE_EIGHTH_BLOCKjRIGHT_DOUBLE_TURNSTILEpTACKqRIANGULAR_HALF_BLOCKjUPPER_AND_RIGHT_TRIANGULAR_THR
  EE_QUARTERS_BLOCKpONE_EIGHTH_BLOCKhGER_BUBBLEiLE_BRACKETs_WITH_DOTgRC_LESS-THAN_BRACKEThROW_WITH_C
  IRCLED_PLUSqSMALL_CIRCLEfBARB_DOWN_RIGHT_BARB_DOWN_HARPOONzbUP_HARPOONkUP_RIGHT_BARB_DOWN_HARPOONy
  UP_HARPOONgLACK_LENTICULAR_BRACKETlTORTOISE_SHELL_BRACKETfCEILINGgLOSED_ENTRYgORNER_BRACKETgURLY_B
  RACKETs_LOWER_HOOKtMIDDLE_PIECEtUPPER_HOOKfDOTTED_SUBSTITUTION_BRACKEThUBLE_ANGLE_BRACKETmPARENTHE
  SISmQUOTATION_MARKmWIGGLY_FENCEfFISH_TAILhVE_EIGHTHS_BLOCKgLOORfHALF_BLACK_CIRCLEqSTARmOCKkCIRCLEq
  _WITH_DOTwFOUR_DOTSwTHREE_DOTSxWO_DOTSkFOLDERkINVERSE_MEDIUM_SHADE_AND_RIGHT_HALF_BLOCKkMEDIUM_SHA
  DEkRUNNING_MANhND_TELEPHONE_RECEIVERfLOW_PARAPHRASE_BRACKETgUGGAGEfMULTIMAPfNORMAL_FACTOR_SEMIDIRE
  CT_PRODUCTfONE_EIGHTH_BLOCKjQUARTER_BLOCKgUTER_JOINfPARENTHESISq_EXTENSIONrLOWER_HOOKrUPPER_HOOKfR
  AISED_OMISSION_BRACKETgIGHT_ARROWq_THROUGH_SMALL_CIRCLErWITH_DOUBLE_VERTICAL_STROKEwSTROKEwVERTICA
  L_STROKElBLACK_ARROWlDOUBLE_ARROWx_WITH_STROKEzeVERTICAL_STROKElOPEN-HEADED_ARROWlSANS-SERIF_ARROW
  lTRIANGLE-HEADED_ARROWlWAVE_ARROWmHITE_ARROWfS-SHAPED_BAG_DELIMITERgEMIDIRECT_PRODUCThVEN_EIGHTHS_
  BLOCKgIDEWAYS_U_BRACKEThNGLE_QUOTATION_MARKgPEECH_BUBBLEgQUARE_BRACKETt_EXTENSIONuLOWER_CORNERuUPP
  ER_CORNERuWITH_DOUBLE_STROKEzQUILLzSTROKEzTICK_IN_BOTTOM_CORNERziTOP_CORNERzUNDERBARgUBSTITUTION_B
  RACKETfTACKgHIRD_WHITE_RIGHT_POINTING_INDEXhOUGHT_BUBBLEhREE_EIGHTHS_BLOCKlQUARTERS_BLOCKgORTOISE_
  SHELL_BRACKETgRANSPOSITION_BRACKEThIANGLE_BESIDE_VERTICAL_BARlULAR_ONE_QUARTER_BLOCKfVERTICAL_BAR_
  WITH_QUILLpOX_LINEfWHITE_CORNER_BRACKETmURLY_BRACKETlLENTICULAR_BRACKETlPARENTHESISlSQUARE_BRACKET
  lTORTOISE_SHELL_BRACKETgIGGLY_FENCEgRITING_HANDcGcMONcOdPARDcPCHA_CONSONANT_SIGN_KxANGwLwMwNxYIN-D
  OwPwRwThDIGIT_EIGHTnFIVEoOURnNINEnONEnSEVENoIXnTHREEoWOnZEROhLETTER_AoBApLAoCApHAoDApDApZAoFApLAoG
  ApLAoHApLAoJAoKApHApLAoLAoMApLAoNApGApYAoPApHApLAoRAoSApHAoTApHApSAqHApTAqHAoVAoWAoYAhPUNCTUATION_
  CER-WAtNYET_THYOOM_TA-ROLtTA-ROLuSHOOKz_CER-WAhSIGN_NUKTAmRANiUBJOINED_LETTER_RAyYAhVOWEL_SIGN_AAs
  EsIsOtOsUtUcSS-THAN_ABOVE_DOUBLE-LINE_EQUAL_ABOVE_GREATER-THANqGREATER-THAN_ABOVE_DOUBLE-LINE_EQUA
  LqLEFTWARDS_ARROWqSIMILAR_ABOVE_GREATER-THANyOR_EQUALrLANTED_EQUAL_ABOVE_GREATER-THAN_ABOVE_SLANTE
  D_EQUALlND_NOT_APPROXIMATEoSINGLE-LINE_NOT_EQUAL_TOkBUT_NOT_EQUAL_TOvIVALENT_TOkCLOSED_BY_CURVEz_A
  BOVE_SLANTED_EQUALkEQUAL_TO_OR_GREATER-THANkOR_APPROXIMATEnEQUAL_TOqIVALENT_TOnGREATER-THANnSLANTE
  D_EQUAL_TOze_WITH_DOT_ABOVEzt_RIGHTzoINSIDElVER_EQUAL_TOkSIGNkWITH_CIRCLE_INSIDEpDOTpQUESTION_MARK
  _ABOVEcVEL_SLIDERbFbIBRAcGATURE_OPEN_ET_ORNAMENTdHTNINGj_MOODo_BUBBLEf_CHECK_MARKgEIGHT_SPOKED_AST
  ERISKgFIVE_POINTED_BLACK_STARlSPOKED_ASTERISKhOUR_POINTED_BLACK_CUSPzSTARgGREEK_CROSSgLEFT_TORTOIS
  E_SHELL_BRACKET_ORNAMENTgRAILhIGHT_TORTOISE_SHELL_BRACKET_ORNAMENTgSALTIREhHADEhIX_SPOKED_ASTERISK
  gTHREE_POINTED_BLACK_STARhWELVE_POINTED_BLACK_STARgVERTICAL_BARgWHITE_SQUAREcMBU_DIGIT_EIGHTmFIVEn
  OURmNINEmONEmSEVENnIXmTHREEnWOmZEROgEXCLAMATION_MARKgLETTER_BAoHAnCAoHAnDAoHAnGAoHAoYANnHAnJAoHAnK
  AoHAnLAnMAnNAoGAnPAoHAnRAnSAoHAoSAnTAoHAoRAnWAnYApNgQUESTION_MARKgSIGN_KEMPHRENGlLOOlMUKPHRENGlSA-
  IhMALL_LETTER_ANUSVARAtKAtLAtMAtNAuGAtPAtRAtTAhUBJOINED_LETTER_RAxWAxYAgVOWEL-CARRIER_LETTERl_SIGN
  _AsIsUrEsErIrOsOrUdITED_LIABILITY_SIGNcNEAR_A_SIGN_A028Bp100-102q20Bq31Cp301r2r3r4r5r6r7r8r9AsBsCq
  10r1r2r3AsBsCr4r5r6r7r8r9q20r1r2r3r4r5r6r7r8r9q30r1r2r3r4r5r6r7r8r9q40r1r2r3r4r5r6r7r8r9q50r1r2r3r
  4r5r6r7r8r9q60r1r2r3r4r5r6r7r8r9q70r1p400-VASr1-VASr2-VASr3-VASr4-VASr5-VASr6-VASr7-VASr8-VASr9-VA
  Sq10-VASr1-VASr2-VASr3-VASr4-VASr5-VASr6-VASr7-VASr8-VASp501r2r3r4r5r6r8r9q10r1r2r3r5r6q20r1r3r4r5
  r6r7r8r9q30r1r2r4r5r6r7r8r9q40r1r2r5r7r8r9q50r1r2r3r4r5r6r7r9q63r4r5r6r8r9q70r1r2r3r4r5r6r7r8r9q80
  r1r2r3r4r5r6r7r8r9q91r2r4r5r6r8p600r1r2r3r4r6r8r9q10r1r2r3r4r5r6r7r8r9q20r1r2r3r4r6r7r8r9q34r7r8q4
  0r2r3r4r5r6r8r9q51r2r3r4r5r6r7r8r9q60r1r2r3r4p701_Ar2_Br3_Dr4_Er5_Fr6_Hr7_Jr8_Kr9-2_L2t3_L3t4_L4t6
  _L6s_Lq10_Wr1_Xr2_Yr3_OMEGAr4_ABBr5_BBr7_DDq26_EYYYq32_JEp800r1r2r3r4r5r6r7pB001s2s3s4s5s6s7s8s9r1
  0s1s3s6s7r20s1tFtMs2tFtMs3tMs4s6s7s8s9r30s1s4s7s8s9r40s1s4s5s6s7s8s9r50s1s3s4s5s6s7s8s9r60s1s5s6s7
  s9r70s3s4s6s7s8s9r80s1s2s5s6s7q118r20s2s3r31AtBr64r71r80s8r91hB_IDEOGRAM_B100_MANv2_WOMANv4_DEERv5
  F_MAREwM_STALLIONw_EQUIDv6F_EWEwM_RAMv7F_SHE-GOATwM_HE-GOATv8F_SOWwM_BOARv9F_COWwM_BULLu20_WHEATv1
  _BARLEYv2_OLIVEv3_SPICEv5_CYPERUSu30_OILv1_WINEv2u40_BRONZEv1_GOLDv2v5_WOOLv6u50v1_HORNv2v3v4v7v8v
  9_CLOTHu60v1v2_GARMENTv3_ARMOURv4v5v6v7v8v9u70v1v2v3_MONTHv4v6_TREEv7v8v9u80v1v2v3v4v5v9u90v1_HELM
  ETt220_FOOTSTOOLv5_BATHTUBu30_SPEARv1_ARROWv2v3_SWORDv4v6u40_WHEELED_CHARIOTv1_CHARIOTv2_CHARIOT_F
  RAMEv3_WHEELv5v6v8v9u51v2v3v4_DARTv5v6v7v8v9sVESSEL_B155zb200zd1zd2zd3zd4zd5zd6zd7zd8zd9zc10zd1zd2
  zd3zd4zd5zd6zd7zd8zd9zc21zd2zd6zd7zd8zd9zc50zb305jMONOGRAM_B127_KAPOv8_KANAKOu33_AREPAv5_MERIu56_T
  URO2t247_DIPTEjSYLLABLE_B001_DAv2_ROv3_PAv4_TEv5_TOv6_NAv7_DIv8_Av9_SEu10_Uv1_POv2_SOv3_MEv4_DOv5_
  MOv6_QAv7_ZAu20_ZOv1_QIv3_MUv4_NEv5_A2v6_RUv7_REv8_Iv9_PU2u30_NIv1_SAv2_QOv3_RA3v6_JOv7_TIv8_Ev9_P
  Iu40_WIv1_SIv2_WOv3_A3v4_KEv5_DEv6_JEv8_NWAu50_PUv1_DUv2_NOv3_RIv4_WAv5_NUv7_JAv8_SUv9_TAu60_RAv1_
  Ov2_PTEv5_JUv6_TA2v7_KIv8_RO2v9_TUu70_KOv1_DWEv2_PEv3_MIv4_ZEv5_WEv6_RA2v7_KAv8_QEu80_MAv1_KUv5_AU
  v7_TWEu90_DWOv1_TWOlMBOL_B018t9s22s34s47t9s56s63t4s79s82t3t6t9e_FEEDfINTEGRATION_NOT_INCLUDING_THE
  _POLErWITH_RECTANGULAR_PATH_AROUND_POLEwSEMICIRCULAR_PATH_AROUND_POLEfSEPARATORfTABULATIONp_SETdKE
  D_PAPERCLIPSe_SYMBOLcON_FACEcPSeTICKcRA_SIGNcSU_LETTER_AnEmBAmCAnHAmDAnZAmEnUmFAmGAnHAmHAnHAmImJAm
  KAnHAmLAmMAmNAnGAmOnEmPAnHAmSAnHAmTAnHAnONE_MYA_BOvCYAvJEUvNAvTIrNA_POnSAoHAmUnEnHmWAmXAmYAnHAmZAn
  HAfPUNCTUATION_COMMArFULL_STOPcVRE_TOURNOIS_SIGNcZARDbLAMAbOBSTERcCKeING-SHIFT_ONEoZEROe_WITH_INK_
  PENcGICAL_ANDl_WITH_DOT_ABOVEtUBLE_OVERBARyUNDERBARrHORIZONTAL_DASHrMIDDLE_STEMrUNDERBARiORk_OVERL
  APPING_LOGICAL_ANDlWITH_DOT_ABOVEsUBLE_OVERBARxUNDERBARqHORIZONTAL_DASHqMIDDLE_STEMcLLIPOPcNG_DASH
  _FROM_LEFT_MEMBER_OF_DOUBLE_VERTICALgIVISIONgRUMfLEFTWARDS_ARROWu_FROM_BARpDOUBLE_ARROWzc_FROM_BAR
  pSQUIGGLE_ARROWj_RIGHT_ARROWqDOUBLE_ARROWkTACKfRIGHTWARDS_ARROWv_FROM_BARqDOUBLE_ARROWzd_FROM_BARq
  SQUIGGLE_ARROWk_TACKcTION_BOTTLEdUScUDLY_CRYING_FACEcVE_HOTELfLETTERcWER_BLADE_SCISSORSgFIVE_EIGHT
  HS_BLOCKgHALF_BLOCKlCIRCLElINVERSE_WHITE_CIRCLElMEDIUM_SHADEgLEFT_BALLPOINT_PENmLOCK_DIAGONAL_LOWE
  R_MIDDLE_LEFT_TO_LOWER_CENTREzzdRIGHTzbUPPER_CENTRE_TO_LOWER_MIDDLE_RIGHTzxRIGHTzrUPPER_MIDDLE_RIG
  HTzhLEFT_TO_LOWER_CENTREzvMIDDLE_RIGHTzpUPPER_MIDDLE_RIGHTzhMIDDLE_LEFT_TO_LOWER_CENTREzzdMIDDLE_R
  IGHTzzdRIGHTlCRAYONlFOUNTAIN_PENlPAINTBRUSHmENCILlQUADRANT_CIRCULAR_ARClSEMICIRCULAR_ANTICLOCKWISE
  _ARROWlTRIANGLErULAR_MEDIUM_SHADEgONE_EIGHTH_BLOCKkQUARTER_BLOCKgRIGHT_BLOCK_DIAGONAL_LOWER_CENTRE
  _TO_LOWER_MIDDLE_RIGHTzsUPPER_MIDDLE_RIGHTzyRIGHTziLEFT_TO_LOWER_MIDDLE_RIGHTzqUPPER_CENTREzwMIDDL
  E_RIGHTziMIDDLE_LEFT_TO_UPPER_CENTREzzeMIDDLE_RIGHTzzeRIGHTzcUPPER_MIDDLE_LEFT_TO_UPPER_CENTREzzeR
  IGHTmCORNER_WITH_DOTmDROP-SHADOWED_WHITE_SQUAREmPENCILmQUADRANT_CIRCULAR_ARCmSEMICIRCULAR_CLOCKWIS
  E_ARROWnHADOWED_WHITE_CIRCLEzcSQUAREmTRIANGLEsULAR_MEDIUM_SHADEgSEVEN_EIGHTHS_BLOCKgTHREE_EIGHTHS_
  BLOCKmQUARTERS_BLOCKhRIANGULAR_ONE_QUARTER_BLOCKd_ASTERISKeBATTERYfRIGHTNESS_SYMBOLeDOUBLE_PRIME_Q
  UOTATION_MARKeKAVYKAk_WITH_DOTeLINEcZENGEh_DIVIDED_BY_HORIZONTAL_RULEbREcIcMcObUGGAGEcNGSbYCIAN_LE
  TTER_ApNoBpHoDoEpNoGoHoIoJoKpKoLoMpMoNpNoPoQoRoSoTpHpToUoWoXoZcDIAN_LETTER_ApNoBoCoDoEpNoFoGoIoKoL
  pYoMoNpNoOoQoRoSpSoTpToUoVoYhTRIANGULAR_MARKcING_FACEb_B_BAR_SYMBOLaMACRONcGEdIC_WANDdNETcHAJANI_A
  BBREVIATION_SIGNjLETTER_AqBArHAqCArHAqDArDAsHArHAqEqGArHAqHAqIqJArHAqKArHAqLAqMAqNArNArYAqOqPArHAq
  RArRAqSAqTArHArTAsHAqUqVAkIGATURE_SHRIjSECTION_MARKkIGN_NUKTAdJONG_TILE_AUTUMNnBACKpMBOOnCHRYSANTH
  EMUMnEAST_WINDoIGHT_OF_BAMBOOSwCHARACTERSxIRCLESnFIVE_OF_BAMBOOSvCHARACTERSwIRCLESoOUR_OF_BAMBOOSv
  CHARACTERSwIRCLESnGREEN_DRAGONnJOKERnNINE_OF_BAMBOOSvCHARACTERSwIRCLESoORTH_WINDnONE_OF_BAMBOOSuCH
  ARACTERSvIRCLESoRCHIDnPLUMnRED_DRAGONnSEVEN_OF_BAMBOOSwCHARACTERSxIRCLESoIX_OF_BAMBOOSuCHARACTERSv
  IRCLESoOUTH_WINDoPRINGoUMMERnTHREE_OF_BAMBOOSwCHARACTERSxIRCLESoWO_OF_BAMBOOSuCHARACTERSvIRCLESnWE
  ST_WINDoHITE_DRAGONoINTERcKASAR_ANGKAiEND_OF_SECTIONiLETTER_ApBApCApDApGApJApKApLApMApNAqGAqYApPAp
  RApSApTApVApYAiPASSIMBANGiVOWEL_SIGN_EtItOtUcLAYALAM_AU_LENGTH_MARKkDATE_MARKlIGIT_EIGHTqFIVErOURq
  NINEqONEqSEVENrIXqTHREErWOqZEROkFRACTION_ONE_EIGHTHxFIFTHyORTIETHxHALFxONE-HUNDRED-AND-SIXTIETHxQU
  ARTERxSIXTEENTHxTENTHyWENTIETHtTHREE_EIGHTIETHSzQUARTERSzSIXTEENTHSzTWENTIETHSkLETTER_AsAsIsRCHAIC
  _IIsUrBAsHArCAsHAtILLU_KyLzLzbLyMyNzNyRRyYrDAsDAtHAsHAsOT_REPHrEsErGAsHArHArIsIrJAsHArKAsHArLAsLAt
  LArMArNAsGAsNAtNAsYArOsOrPAsHArRAsRArSAsHAsSArTAsHAsTAtHAtTArUsUrVAsEDIC_ANUSVARAsOCALIC_LzbLzRzbR
  rYAkNUMBER_ONE_HUNDREDvTHOUSANDrTENkSIGN_ANUSVARAqVAGRAHApCANDRABINDUqIRCULAR_VIRAMAqOMBINING_ANUS
  VARA_ABOVEpPARApVERTICAL_BAR_VIRAMAqIRAMArSARGAkVOWEL_SIGN_AAwIwUvEwEvIwIvOwOvUwUvVOCALIC_LzfLzeRz
  fRdE_AND_FEMALE_SIGNfSIGNfWITH_STROKE_AND_MALE_AND_FEMALE_SIGNrSIGNdTESE_CROSScMMOTHcNdAT_SIGNdDAI
  C_AFFRICATION_MARKiGEMINATION_MARKiLETTER_ABqDqGqHqINqKrSAqLqMqNqPqQqRqSrHrZqTrTqZpDUSHENNApHALQAp
  INqTpKADpUSHENNAiPUNCTUATIONiVOCALIZATION_MARKdGOdICHAEAN_ABBREVIATION_MARK_ABOVEzeBELOWlLETTER_AA
  YINtLEPHtYINsBETHtHETHsDALETHtHAMEDHsFEsGHIMELtIMELsHEuTHsJAYINtHAYINsKAPHtHAPHsLAMEDHsMEMsNUNsPEs
  QHOPHtOPHsRESHsSADHEuMEKHtHINtSHINsTAWtETHtHAMEDHsWAWsXAPHtOPHsYODHsZAYINtHAYINlNUMBER_FIVEsONEv_H
  UNDREDsTENtWENTYlPUNCTUATION_DOTzb_WITHIN_DOTzUBLE_DOT_WITHIN_DOTxFLEURONxLINE_FILLERxSTARxTWO_DOT
  SlSIGN_UDdS_SHOEdTELPIECE_CLOCKdUAL_WHEELCHAIRd_AND_WOMAN_HOLDING_HANDSeDANCINGeIN_BUSINESS_SUIT_L
  EVITATINGhTUXEDOeWITH_GUA_PI_MAOjTURBANcPLE_LEAFd_SYMBOL_FOR_LIGHTHOUSEcRCHEN_HEAD_MARKiLETTER_-Ap
  ApBApCAqHApDAqZApGApHApJApKAqHApLApMApNAqGAqYApPAqHApRApSAqHApTAqHAqSArHApWApYApZAqHAiMARK_SHADiSI
  GN_ANUSVARAnCANDRABINDUjUBJOINED_LETTER_AzBAzCAzbHAzDAzbZAzGAzHAzJAzKAzbHAzLAzMAzNAzbGAzbYAzPAzbHA
  zRAzSAzbHAzTAzbHAzbSAzcHAzWAzYAzZAzbHAiVOWEL_SIGN_AAtEtItOtUdRIAGE_SYMBOLdTIAL_ARTS_UNIFORMcSARAM_
  GONDI_DIGIT_EIGHTuFIVEvOURuNINEuONEuSEVENvIXuTHREEvWOuZEROoLETTER_AwAwIwUvBAwHAvCAwHAvDAwDAxHAwHAv
  EvGAwHAvHAvIwIvJAwHAwNYAvKAwHAwSSAvLAwLAvMAvNAwGAwNAwYAvOvPAwHAvRAvSAwHAwSAvTAwHAwRAwTAxHAvUwUvVAv
  YAoRA-KARApEPHAoSIGN_ANUSVARAtCANDRAtHALANTAtNUKTAtVISARGAoVIRAMApOWEL_SIGN_AAzbIzbUzEzIzbIzOzUzbU
  zVOCALIC_RdCULINE_ORDINAL_INDICATORdK_WORK_SYMBOLdU_MARKcTE_DRINKdHEMATICAL_BOLD_CAPITAL_AzcLPHAzb
  BzcETAzbCzcHIzbDzcELTAzcIGAMMAzbEzcPSILONzcTAzbFzbGzcAMMAzbHzbIzcOTAzbJzbKzcAPPAzbLzcAMDAzbMzcUzbN
  zcUzbOzcMEGAzdICRONzbPzcHIzcIzcSIzbQzbRzcHOzbSzcIGMAzbTzcAUzcHETAzg_SYMBOLzbUzcPSILONzbVzbWzbXzcIz
  bYzbZzcETAsDIGIT_EIGHTyFIVEzOURyNINEyONEySEVENzIXyTHREEzWOyZEROsEPSILON_SYMBOLsFRAKTUR_CAPITAL_Azj
  BzjCzjDzjEzjFzjGzjHzjIzjJzjKzjLzjMzjNzjOzjPzjQzjRzjSzjTzjUzjVzjWzjXzjYzjZzbSMALL_AzhBzhCzhDzhEzhFz
  hGzhHzhIzhJzhKzhLzhMzhNzhOzhPzhQzhRzhSzhTzhUzhVzhWzhXzhYzhZsITALIC_CAPITAL_AzjLPHAziBzjETAziCzjHIz
  iDzjELTAziEzjPSILONzjTAziFziGzjAMMAziHziIzjOTAziJziKzjAPPAziLzjAMDAziMzjUziNzjUziOzjMEGAzkICRONziP
  zjHIzjIzjSIziQziRzjHOziSzjIGMAziTzjAUzjHETAzn_SYMBOLziUzjPSILONziVziWziXzjIziYziZzjETAzEPSILON_SYM
  BOLzKAPPA_SYMBOLzNABLAzPARTIAL_DIFFERENTIALzbHI_SYMBOLzbI_SYMBOLzRHO_SYMBOLzSMALL_AzhLPHAzgBzhETAz
  gCzhHIzgDzhELTAzgEzhPSILONzhTAzgFzhINAL_SIGMAzgGzhAMMAzgHzgIzhOTAzgJzgKzhAPPAzgLzhAMDAzgMzhUzgNzhU
  zgOzhMEGAziICRONzgPzhHIzhIzhSIzgQzgRzhHOzgSzhIGMAzgTzhAUzhHETAzgUzhPSILONzgVzgWzgXzhIzgYzgZzhETAzT
  HETA_SYMBOLsKAPPA_SYMBOLsNABLAsPARTIAL_DIFFERENTIALtHI_SYMBOLtI_SYMBOLsRHO_SYMBOLsSCRIPT_CAPITAL_A
  ziBziCziDziEziFziGziHziIziJziKziLziMziNziOziPziQziRziSziTziUziVziWziXziYziZzSMALL_AzgBzgCzgDzgEzgF
  zgGzgHzgIzgJzgKzgLzgMzgNzgOzgPzgQzgRzgSzgTzgUzgVzgWzgXzgYzgZtMALL_AzLPHAyBzETAyCzHIyDzELTAzIGAMMAy
  EzPSILONzTAyFzINAL_SIGMAyGzAMMAyHyIzOTAyJyKzAPPAyLzAMDAyMzUyNzUyOzMEGAzbICRONyPzHIzIzSIyQyRzHOySzI
  GMAyTzAUzHETAyUzPSILONyVyWyXzIyYyZzETAsTHETA_SYMBOLnDOUBLE-STRUCK_CAPITAL_AzkBzkDzkEzkFzkGzkIzkJzk
  KzkLzkMzkOzkSzkTzkUzkVzkWzkXzkYzcDIGIT_EIGHTziFIVEzjOURziNINEziONEziSEVENzjIXziTHREEzjWOziZEROzcSM
  ALL_AziBziCziDziEziFziGziHziIziJziKziLziMziNziOziPziQziRziSziTziUziVziWziXziYziZnFALLING_DIAGONALo
  RAKTUR_CAPITAL_AzeBzeDzeEzeFzeGzeJzeKzeLzeMzeNzeOzePzeQzeSzeTzeUzeVzeWzeXzeYvSMALL_AzcBzcCzcDzcEzc
  FzcGzcHzcIzcJzcKzcLzcMzcNzcOzcPzcQzcRzcSzcTzcUzcVzcWzcXzcYzcZnITALIC_CAPITAL_AzeLPHAzdBzeETAzdCzeH
  IzdDzeELTAzdEzePSILONzeTAzdFzdGzeAMMAzdHzdIzeOTAzdJzdKzeAPPAzdLzeAMDAzdMzeUzdNzeUzdOzeMEGAzfICRONz
  dPzeHIzeIzeSIzdQzdRzeHOzdSzeIGMAzdTzeAUzeHETAzi_SYMBOLzdUzePSILONzdVzdWzdXzeIzdYzdZzeETAuEPSILON_S
  YMBOLuKAPPA_SYMBOLuNABLAuPARTIAL_DIFFERENTIALvHI_SYMBOLvI_SYMBOLuRHO_SYMBOLuSMALL_AzcLPHAzbBzcETAz
  bCzcHIzbDzcELTAzcOTLESS_IzjJzbEzcPSILONzcTAzbFzcINAL_SIGMAzbGzcAMMAzbIzcOTAzbJzbKzcAPPAzbLzcAMDAzb
  MzcUzbNzcUzbOzcMEGAzdICRONzbPzcHIzcIzcSIzbQzbRzcHOzbSzcIGMAzbTzcAUzcHETAzbUzcPSILONzbVzbWzbXzcIzbY
  zbZzcETAuTHETA_SYMBOLnLEFT_ANGLE_BRACKETsDOUBLE_ANGLE_BRACKETsFLATTENED_PARENTHESISsWHITE_SQUARE_B
  RACKETyTORTOISE_SHELL_BRACKETnMONOSPACE_CAPITAL_AzgBzgCzgDzgEzgFzgGzgHzgIzgJzgKzgLzgMzgNzgOzgPzgQz
  gRzgSzgTzgUzgVzgWzgXzgYzgZxDIGIT_EIGHTzeFIVEzfOURzeNINEzeONEzeSEVENzfIXzeTHREEzfWOzeZEROxSMALL_Aze
  BzeCzeDzeEzeFzeGzeHzeIzeJzeKzeLzeMzeNzeOzePzeQzeRzeSzeTzeUzeVzeWzeXzeYzeZnRIGHT_ANGLE_BRACKETtDOUB
  LE_ANGLE_BRACKETtFLATTENED_PARENTHESIStWHITE_SQUARE_BRACKETzTORTOISE_SHELL_BRACKETpSING_DIAGONALnS
  ANS-SERIF_BOLD_CAPITAL_AznLPHAzmBznETAzmCznHIzmDznELTAzmEznPSILONznTAzmFzmGznAMMAzmHzmIznOTAzmJzmK
  znAPPAzmLznAMDAzmMznUzmNznUzmOznMEGAzoICRONzmPznHIznIznSIzmQzmRznHOzmSznIGMAzmTznAUznHETAzr_SYMBOL
  zmUznPSILONzmVzmWzmXznIzmYzmZznETAzeDIGIT_EIGHTzkFIVEzlOURzkNINEzkONEzkSEVENzlIXzkTHREEzlWOzkZEROz
  eEPSILON_SYMBOLzeITALIC_CAPITAL_AzuLPHAztBzuETAztCzuHIztDzuELTAztEzuPSILONzuTAztFztGzuAMMAztHztIzu
  OTAztJztKzuAPPAztLzuAMDAztMzuUztNzuUztOzuMEGAzvICRONztPzuHIzuIzuSIztQztRzuHOztSzuIGMAztTzuAUzuHETA
  zy_SYMBOLztUzuPSILONztVztWztXzuIztYztZzuETAzlEPSILON_SYMBOLzlKAPPA_SYMBOLzlNABLAzlPARTIAL_DIFFEREN
  TIALzmHI_SYMBOLzmI_SYMBOLzlRHO_SYMBOLzlSMALL_AzsLPHAzrBzsETAzrCzsHIzrDzsELTAzrEzsPSILONzsTAzrFzsIN
  AL_SIGMAzrGzsAMMAzrHzrIzsOTAzrJzrKzsAPPAzrLzsAMDAzrMzsUzrNzsUzrOzsMEGAztICRONzrPzsHIzsIzsSIzrQzrRz
  sHOzrSzsIGMAzrTzsAUzsHETAzrUzsPSILONzrVzrWzrXzsIzrYzrZzsETAzlTHETA_SYMBOLzeKAPPA_SYMBOLzeNABLAzePA
  RTIAL_DIFFERENTIALzfHI_SYMBOLzfI_SYMBOLzeRHO_SYMBOLzeSMALL_AzlLPHAzkBzlETAzkCzlHIzkDzlELTAzkEzlPSI
  LONzlTAzkFzlINAL_SIGMAzkGzlAMMAzkHzkIzlOTAzkJzkKzlAPPAzkLzlAMDAzkMzlUzkNzlUzkOzlMEGAzmICRONzkPzlHI
  zlIzlSIzkQzkRzlHOzkSzlIGMAzkTzlAUzlHETAzkUzlPSILONzkVzkWzkXzlIzkYzkZzlETAzeTHETA_SYMBOLyCAPITAL_Az
  hBzhCzhDzhEzhFzhGzhHzhIzhJzhKzhLzhMzhNzhOzhPzhQzhRzhSzhTzhUzhVzhWzhXzhYzhZyDIGIT_EIGHTzfFIVEzgOURz
  fNINEzfONEzfSEVENzgIXzfTHREEzgWOzfZEROyITALIC_CAPITAL_AzoBzoCzoDzoEzoFzoGzoHzoIzoJzoKzoLzoMzoNzoOz
  oPzoQzoRzoSzoTzoUzoVzoWzoXzoYzoZzgSMALL_AzmBzmCzmDzmEzmFzmGzmHzmIzmJzmKzmLzmMzmNzmOzmPzmQzmRzmSzmT
  zmUzmVzmWzmXzmYzmZySMALL_AzfBzfCzfDzfEzfFzfGzfHzfIzfJzfKzfLzfMzfNzfOzfPzfQzfRzfSzfTzfUzfVzfWzfXzfY
  zfZoCRIPT_CAPITAL_AzdCzdDzdGzdJzdKzdNzdOzdPzdQzdSzdTzdUzdVzdWzdXzdYzdZuSMALL_AzbBzbCzbDzbFzbHzbIzb
  JzbKzbLzbMzbNzbPzbQzbRzbSzbTzbUzbVzbWzbXzbYzbZcXIMIZEcYAN_NUMERAL_EIGHTtEENpLEVENoFIFTEENqVEpOURsT
  EENoNINEsTEENoONEoSEVENtTEENpIXrTEENoTENpHIRTEENqREEpWELVEqOoZERObEASURED_ANGLEo_OPENING_LEFTpWITH
  _OPEN_ARM_ENDING_IN_ARROW_POINTING_DOWN_AND_LEFTzznRIGHTzzeLEFT_AND_DOWNzznUPzzeRIGHT_AND_DOWNzzoU
  PzzeUP_AND_LEFTzzlRIGHTjBYjRIGHT_ANGLE_WITH_DOTdT_ON_BONEcCHANICAL_ARMlLEGcDEFAIDRIN_CAPITAL_LETTE
  R_AzdIzdTIUzcBzcCzcDzcEzcFzcGzcHzdPzcIzcJzcKzdPzcLzcMzcNzdGzdYzcOzdEzcPzcQzcRzcSzcTzcUzcVzcWzcXzcY
  zdUzcZnOMMAmDIGIT_EIGHTsFIVEtOURsNINEsONEv_ALTERNATE_FORMsSEVENtIXsTHREEx_ALTERNATE_FORMtWOv_ALTER
  NATE_FORMsZEROmEXCLAMATION_OHmFULL_STOPmNUMBER_EIGHTEENuLEVENtFIFTEENuOURTEENtNINETEENtSEVENTEENuI
  XTEENtTENuHIRTEENuWELVEmSMALL_LETTER_AzbIzbTIUzBzCzDzEzFzGzHzbPzIzJzKzbPzLzMzNzbGzbYzOzbEzPzQzRzSz
  TzUzVzWzXzYzbUzZnYMBOL_AIVAdIEVAL_COMMAjEXCLAMATION_MARKjQUESTION_MARKeUM_BLACK_CIRCLEiOLD_WHITE_C
  IRCLEhEIGHT_POINTED_BLACK_STARnSPOKED_ASTERISKhFIVE_SPOKED_ASTERISKiLATTENED_LEFT_PARENTHESIS_ORNA
  MENTrRIGHT_PARENTHESIS_ORNAMENTiOUR_POINTED_BLACK_STARuPINWHEEL_STARhGREEK_CROSShLEFT-POINTING_ANG
  LE_BRACKET_ORNAMENTl_CURLY_BRACKET_ORNAMENTmPARENTHESIS_ORNAMENThMATHEMATICAL_SPACEhRIGHT-POINTING
  _ANGLE_BRACKET_ORNAMENTm_CURLY_BRACKET_ORNAMENTnPARENTHESIS_ORNAMENThSALTIREiHADEiIX_POINTED_BLACK
  _STARlSPOKED_ASTERISKiMALL_WHITE_CIRCLEhTHREE_POINTED_BLACK_STARvPINWHEEL_STARhVERTICAL_BARhWHITE_
  CIRCLEnSQUAREcETEI_MAYEK_AHANG_KHUDAMoNJIoPUN_IYEKnCHEIKHANtEInDIGIT_EIGHTtFIVEuOURtNINEtONEtSEVEN
  uIXtTHREEuWOtZEROnLETTER_ATIYAuBAvHAMuCHAwILuDDAwHAvHOUvILuEuGHOUvOKuHUKuIv_LONSUMuJHAMvILuKHOUvOK
  x_LONSUMuLAIx_LONSUMuMITx_LONSUMuNAw_LONSUMvGOUy_LONSUMvNAvYAuOuPAw_LONSUMvHAMuRAIuSAMvHAvSAuTHOUv
  ILx_LONSUMvTAwHAuUNuWAIuYANGoUM_IYEKnSYLLABLE_REPETITION_MARKnVIRAMAoOWEL_SIGN_AAIzbUzNAPzUyCHEINA
  PyIIzNAPyNUNGyONAPySOUNAPyUNAPzUyVISARGAyYENAPnWORD_REPETITION_MARKcLONdTING_FACEcMOcNDE_KIKAKUI_C
  OMBINING_NUMBER_HUNDREDSzn_THOUSANDSzgMILLIONSzgTEENSziNSzj_THOUSANDSzhHOUSANDSoDIGIT_EIGHTuFIVEvO
  UR"

/-- The sixth part of the names. -/
def sixthNames : String := "aMENDE_KIKAKUI_DIGIT_NINEuONEuSEVENvIXuTHREEvWOoSYLLABLE_M001_KIzb2_KAzb
  3_KUzb4_WIzb5_WAzb6_WUzb7_MINzb8_MANzb9_MUNz10_BIzb1_BAzb2_BUzb3_Izb4_Azb5_Uzb6_DIzb7_DAzb8_DUzb9_
  SIz20_SAzb1_SUzb2_TIzb3_TAzb4_TUzb5_LIzb6_LAzb7_LUzb8_JIzb9_JAz30_JUzb1_YIzb2_YAzb3_YUzb4_FIzb5_FA
  zb6_FUzb7_NINzb8_NANzb9_NUNz40_HEEzb1_HAzb2_HOOzb3_NGGAzb4_KPEEzb5_WOzb6_HUANzb7_MBEEzb8_KOzb9_WVA
  z50_PUzb1_PEzb2_HENzb3_HINzb4_LOOzb5_TEzb6_GBAzb7_NGONzb8_NYANzb9_MENz60_NYONzb1_WVIzb2_MBAzb3_JOz
  b4_NDOzb5_KEEzb6_POzb7_NDOOzb8_PIzb9_TOz70_GBOzb1_GBOOzb2_MBEzb3_LEzb4_KPUzb5_FEzb6_KOOzb7_VOzb8_F
  EEzb9_SOz80_YEzb1_PEEzb2_NGGUzb3_HEEIzb4_LEEzb5_VEzb6_LONG_NGGEzb7_HUNzb8_FOzb9_DEEz90_NGGIzb1_TEE
  zb2_KPAzb3_GBEEzb4_MONzb5_KEzb6_HEzb7_BEzb8_NYENzb9_PAy100_Ezb1_FANzb2_POOzb3_BOOzb4_TOOzb5_LONG_M
  BOOzb6_LONG_NGGOOzb7_GBEzb8_KPEzb9_YEEz10_LONG_LEzb1_GAzb2_KPOOzb3_JEzb4_WOOzb5_NGGEEzb6_SEzb7_NEN
  zb8_WEzb9_NDEz20_NGGOzb1_YOzb2_MBUzb3_NDIzb4_GBIzb5_NDUzb6_WEEzb7_NGGUAzb8_HOOUzb9_NDAz30_HANzb1_I
  Nzb2_KPIzb3_FOOzb4_NJOOzb5_INzb6_SOOzb7_EIzb8_BOzb9_WVEz40_HOzb1_YOOzb2_LONG_MBOzb3_WEIzb4_VOOzb5_
  MBIzb6_NGGEzb7_Ozb8_GBUzb9_NJEEz50_BEEzb1_VUzb2_NJAzb3_LOzb4_MUANzb5_GIzb6_NGGOOzb7_JEEzb8_KPOzb9_
  NGGAAz60_JOOzb1_LONG_MBEzb2_SEEzb3_EEzb4_NYINzb5_OOzb6_GUEIzb7_GUANzb8_GUzb9_NONz70_NYUNzb1_RAzb2_
  MBOOzb3_VEEzb4_MBOzb5_LONG_JOzb6_HIzb7_NGUANzb8_ENzb9_KUAz80_DOOzb1_DOzb2_VIzb3_LONG_NGGOzb4_NGENz
  b5_VAzb6_HUzb7_MBUUzb8_MBEEzb9_MUENz90_GEEzb1_NDEEzb2_NJUzb3_HONzb4_WUIzb5_ANzb6_SIAzb7_FUAdORAH_W
  ITH_NINE_BRANCHESdS_SYMBOLcRCURYdOITIC_CURSIVE_FRACTION_EIGHT_TWELFTHSzcLEVEN_TWELFTHSzbFIVE_TWELF
  THSzcOUR_TWELFTHSzbNINE_TWELFTHSzbONE_HALFzfTWELFTHzbSEVEN_TWELFTHSzcIX_TWELFTHSzbTEN_TWELFTHSzcHR
  EE_TWELFTHSzcWO_TWELFTHSrLETTER_AzRCHAIC_SAyBAyDAyEyHHAyIyKAzHAyLAyMAyNAzEyOyPAyQAyRAySAzEyTAzEzOy
  WAyYAsOGOGRAM_IMNzbRMTrNUMBER_EIGHTzeY_THOUSANDze_HUNDREDzm_THOUSANDzfTHOUSANDyFIFTYze_THOUSANDzbV
  Ezd_HUNDREDzl_THOUSANDzeTHOUSANDzORTYze_THOUSANDzbURzd_HUNDREDzl_THOUSANDzeTHOUSANDyNINEzdTY_THOUS
  ANDzd_HUNDREDzl_THOUSANDzeTHOUSANDyONEzc_HUNDREDzk_THOUSANDzdTHOUSANDySEVENzeTYzg_THOUSANDze_HUNDR
  EDzm_THOUSANDzfTHOUSANDzIXzcTYze_THOUSANDzc_HUNDREDzk_THOUSANDzdTHOUSANDyTENzc_THOUSANDzHIRTYzf_TH
  OUSANDzbREEze_HUNDREDzm_THOUSANDzfTHOUSANDzWENTYzf_THOUSANDzbOzc_HUNDREDzk_THOUSANDzdTHOUSANDjHIER
  OGLYPHIC_LETTER_AzeBAzg-2zeDAzeEzeHHAzeIzeKAzfHAzeLAzeMAzeNAzg-2zfEzg-2zeOzePAzeQAzeRAzg-2zeSAzg-2
  zfEzeTAzg-2zfEzg-2zfOzeWAzeYAwSYMBOL_VIDJzi-2dPERSONcSSAGE_WAITINGcTRICAL_BREVEjLONG_OVER_SHORTtTW
  O_SHORTSjPENTASEMEjSHORT_OVER_LONGjTETRASEMEkRISEMEkWO_SHORTS_JOINEDuOVER_LONGeObIAO_LETTER_AHnRCH
  AIC_MAuNAvGAuZZAmBAnRImDAnDAnLHApYAnZAoHAoYIoZAmFAmGAnHAoHAmHAnHAmKAmLAnHAoYAnYAmMAnHAmNAoSALIZATI
  ONnGAoHAnHAnNAoHAnYAoHAmPAnLAmQAnGAmREFORMED_TONE-1zb2zb4zb5zb6zb8wSHAnTEmSAnHAnSAnYImTAnEnLHApYAn
  ONE-2r3r4r5r6r7r8nSAoEoHAoSAnTAmVAnFAmWAmXAmYI_DZHApKApNNApPApTAqSArHAqTAmZAnHAnSAoHAnZAoSApYAoYAf
  SIGN_ASPIRATIONkCONSONANT_MODIFIER_BARkREFORMED_ASPIRATIONtVOICINGfTONE_ABOVEkBELOWkRIGHTkTOP_RIGH
  TfVOWEL_SIGN_ArArEsErHHrIrNsGrUqErArIrNsGrRsRqIrAsNtGrErGrIrNGrOsNGrUqNrGqOrERsYrGrOrUqROUNDED_ERz
  bRqUrAsNtGrEIrIrNGrOGrUqVWqWrOqYrIrUIcCROBEfPHONEfSCOPEf_SIGNe_DASH_SYMBOLfON_US_SYMBOLcDDLE_DOThT
  HIRD_WHITE_RIGHT_POINTING_INDEXdLINE_HORIZONTAL_ELLIPSIScLITARY_HELMETjMEDALdKY_WAYdL_SIGNcNIBUSeD
  ISCeMIZEdUS-OR-PLUS_SIGNf_SIGNk_IN_TRIANGLElWITH_COMMA_ABOVEqDOT_BELOWqFALLING_DOTSqRISING_DOTSgTI
  LDEdYcRRORg_BALLbMSPbOBILE_PHONEm_OFFnWITH_RIGHTWARDS_ARROW_AT_LEFTcDELSeRN_PENTATHLONdIFIER_BREVE
  _WITH_INVERTED_BREVEjLETTER_ACUTE_ACCENTrLVEOLAR_CLICKrPOSTROPHEqBEGIN_HIGH_TONEwLOW_TONErILABIAL_
  CLICKqCAPITAL_AzEyBzARRED_ByCyDyEyFyGyHz_WITH_STROKEyIyJyKyLyMyNyOzUyPyQyRzEVERSED_EziNyTyUyVyWrEN
  TRED_LEFT_HALF_RINGyRIGHT_HALF_RINGrHINESE_TONE_YANG_PINGzjQUzjRUzjSHANGzfIN_PINGziQUziRUziSHANGrI
  RCUMFLEX_ACCENTrOLONrROSS_ACCENTrYRILLIC_ENzHARD_SIGNzSOFT_SIGNqDENTAL_CLICKrOT_HORIZONTAL_BARuSLA
  SHuVERTICAL_BARsUBLE_APOSTROPHExPRIMEsWN_ARROWHEADvTACKqEND_HIGH_TONEuLOW_TONErXTRA-HIGH_DOTTED_LE
  FT-STEM_TONE_BARzjTONE_BARzcLEFT-STEM_TONE_BARzcTONE_BARwLOW_DOTTED_LEFT-STEM_TONE_BARziTONE_BARzb
  LEFT-STEM_TONE_BARzbTONE_BARqGEORGIAN_NARrLOTTAL_STOPzd_WITH_STROKErRAVE_ACCENTqHALF_TRIANGULAR_CO
  LONrIGH_DOTTED_LEFT-STEM_TONE_BARzdTONE_BARvLEFT-STEM_TONE_BARvTONE_BARqLATERAL_CLICKrEFT_ARROWHEA
  DvHALF_RINGvTACKrOWER_RIGHT_CORNER_ANGLEt_ACUTE_ACCENTuCIRCUMFLEX_ACCENTuDOTTED_LEFT-STEM_TONE_BAR
  zcTONE_BARwWN_ARROWHEADuGRAVE_ACCENTuINVERTED_EXCLAMATION_MARKuLEFT-STEM_TONE_BARy_ARROWzfHEADuMAC
  RONuRIGHT_ARROWHEADwNGuTILDEvONE_BARuUP_ARROWHEADuVERTICAL_LINEqMACRONrIDDLE_DOUBLE_ACUTE_ACCENTzf
  GRAVE_ACCENTxGRAVE_ACCENTt_DOTTED_LEFT-STEM_TONE_BARzcTONE_BARuLEFT-STEM_TONE_BARuTONE_BARsNUS_SIG
  NqOPEN_SHELFqPLUS_SIGNrRIMEqRAISED_COLONxDOWN_ARROWxEXCLAMATION_MARKxINVERTED_EXCLAMATION_MARKxUP_
  ARROWrETROFLEX_CLICK_WITH_RETROFLEX_HOOKsVERSED_COMMAzGLOTTAL_STOPzm_WITH_STROKErHOTIC_HOOKrIGHT_A
  RROWHEADwHALF_RINGwTACKqSHELFsORT_EQUALS_SIGNrMALL_AxExINxLPHAwBxARRED_OxETAxOTTOM_HALF_Ox_WITH_HO
  OKwCxAPITAL_AAzfBzfGzg_WITH_HOOKzfHzfIzgNVERTED_Rzg_WITH_STROKEzfLzg_WITH_BELTzfNzfOEzfRzfUzfYxHIx
  LOSED_OMEGAzeREVERSED_OPEN_Ex_WITH_CURLwDxELTAyZH_DIGRAPHxOTLESS_J_WITH_STROKEzs_AND_HOOKxZ_DIGRAP
  Hzh_WITH_CURLznRETROFLEX_HOOKx_WITH_HOOKzi_AND_TAILzeTAILwExNGxSHxTHxZHwFxENG_DIGRAPHwGxAMMAxREEK_
  GAMMAzdPHIx_WITH_HOOKwHxENGzb_WITH_HOOKx_WITH_HOOKzeSTROKEwIOTAx_WITH_STROKEwJx_WITH_CROSSED-TAILw
  KwLxEZHzb_WITH_RETROFLEX_HOOKxIGATURE_OExS_DIGRAPHxZ_DIGRAPHx_WITH_BELTzeINVERTED_LAZY_SzeMIDDLE_T
  ILDEzePALATAL_HOOKzeRETROFLEX_HOOKzs_AND_BELTwMx_WITH_HOOKwN_WITH_LEFT_HOOKzeRETROFLEX_HOOKwOxPEN_
  EzcOx_WITH_STROKEwPxHIwQwRxAMS_HORNxEVERSED_EzgGLOTTAL_STOPzgOPEN_Ex_WITH_FISHHOOKzeTAILwSxCHWAyRI
  PT_GxIDEWAYS_Ux_WITH_CURLzeHOOKwTxC_DIGRAPH_WITH_CURLxESH_DIGRAPHxHETAxOP_HALF_OxS_DIGRAPHzh_WITH_
  RETROFLEX_HOOKxURNED_AzfEzfLPHAzeHzeIzeMzf_WITH_LONG_LEGzeOPEN_EzeRzf_WITH_HOOKzlLONG_LEGzt_AND_RE
  TROFLEX_HOOKzeVzeWzeYzf_WITH_BELTx_WITH_PALATAL_HOOKzeRETROFLEX_HOOKwUxPSILONx_BARyWITH_LEFT_HOOKw
  Vx_WITH_HOOKzeRIGHT_HOOKwWwXwYwZx_WITH_CURLzeRETROFLEX_HOOKrTRESS_AND_HIGH_TONEzcLOW_TONErUPERSCRI
  PT_HALF_TRIANGULAR_COLONzdTRIANGULAR_COLONqTRIANGULAR_COLONrURNED_COMMAqUNASPIRATEDrP_ARROWHEADtTA
  CKrSqVERTICAL_LINErOICINGqYANG_DEPARTING_TONE_MARKrIN_DEPARTING_TONE_MARKe_ABBREVIATION_SIGNfDANDA
  gIGIT_EIGHTlFIVEmOURlNINElONElSEVENmIXlTHREEmWOlZEROgOUBLE_DANDAfLETTER_AnAnInUmBAnHAmCAnHAmDAnDAo
  HAnHAmEmGAnHAmHAmInImJAnHAmKAnHAmLAnLAmMAmNAnGAnNAnYAmOmPAnHAmRAmSAnHAnSAmTAnHAnTAoHAmUnUmVAnOCALI
  C_LvLuRvRmYAfSIGN_ANUSVARAlRDHACANDRAkHUVAkVIRAMAmSARGAfVOWEL_SIGN_AArIrUqEqIrIqOqUrUqVOCALIC_LzLy
  RzRdULO_TWO_SUMcNEY-MOUTH_FACEf_BAGgWITH_WINGSdGOLIAN_BIRGAp_WITH_DOUBLE_ORNAMENTvORNAMENTkCOLONmM
  MAkDIGIT_EIGHTqFIVErOURqNINEqONEqSEVENrIXqTHREErWOqZEROlOUBLE_BIRGA_WITH_ORNAMENTkELLIPSISkFOUR_DO
  TSlREE_VARIATION_SELECTOR_FOURzjONEzjTHREEzkWOlULL_STOPkINVERTED_BIRGAy_WITH_DOUBLE_ORNAMENTkLETTE
  R_AsLI_GALI_AzcHzcNUSVARA_ONEzbBALUDAzbCAzbDAzdGALGAzdMARUzcDAzbHALF_UzgYAzbIzcNVERTED_UBADAMAzbKA
  zbNGAzcNAzbPAzcHAzbSSAzbTAzcHREE_BALUDAzcTAzdHAzbUBADAMAzbVISARGA_ONEzbZAzcHAsNGrBArCHAu_WITH_TWO_
  DOTStIrDArEsErFArGArHAArIrJArKAsHArLAsHArMAtNCHU_ALI_GALI_BHAziCAzjYAziDDHAzjHAziGHAziJHAziLHAziNG
  AziSSAziTAzjTAziZAzjHAyFAyIyKAyRAyZHArNArOsErPArQArRArSAsHAsIBE_ANGwCHAwDAwEwFAwGAyAwHAyAwIxYwJAwK
  AwPAwRAAwSHAwTAxSAwUxEwZAxHArTAsODO_ALI_GALI_TAzgZHAxNGwBAwCHAwDAxZAwEwGAyAwHAAwIwJAxIAwKAwLONG_VO
  WEL_SIGNwMAwNIAwOxEwPAwQAwTAxSAwUxEwWAwYAsSArUsErWArYArZAsHIsRAkMANCHU_COMMArFULL_STOPkNIRUGUkROTA
  TED_BIRGAx_WITH_DOUBLE_ORNAMENTzeORNAMENTkSIBE_SYLLABLE_BOUNDARY_MARKERlWIRL_BIRGAv_WITH_DOUBLE_OR
  NAMENTzcORNAMENTkTODO_SOFT_HYPHENlRIPLE_BIRGA_WITH_ORNAMENTlURNED_SWIRL_BIRGA_WITH_DOUBLE_ORNAMENT
  kVOWEL_SEPARATORdKEYg_FACEdOGRAM_FOR_EARTHnYANGoINeRAILeSTABLE_SYMBOLcOD_BUBBLEdN_CAKEfVIEWING_CER
  EMONYcSQUEfITOcTHER_CHRISTMASdORIZED_WHEELCHAIRfWAYf_BOATgSCOOTERcUNTAINi_BICYCLISTjCABLEWAYjRAILW
  AYf_FUJIdSEf_FACEgTRAPdTHcVIE_CAMERAcYAIbRO_DANDAfIGIT_EIGHTkFIVElOURkNINEkONEkSEVENlIXkTHREElWOkZ
  EROfOUBLE_DANDAeLETTER_AlBAlCHUlDAnIlEmAlHAInOlKEAAEmHAImOlLAnNlMAEMmIMlNGImINlOmLmOlPAmHIlRImOlSH
  IlTAmEKmHEAlWAlYObUCH_GREATER-THANfLESS-THANcLTANI_LETTER_ApBAqHApCAqHApDAqDArDArHAqHApEpGAqHApHAp
  IpJAqJApKAqHApLApMApNAqNAqYApPAqHApRAqHAqRApSApTAqHAqTArHApUpVApYAiSECTION_MARKeIMAPfPLE_MUSICAL_N
  OTEShICATION_SIGNt_IN_DOUBLE_CIRCLExLEFT_HALF_CIRCLExRIGHT_HALF_CIRCLExTRIANGLEuWITH_DOT_ABOVEzUND
  ERBARpXfSETi_MULTIPLICATIONjUNIONcSHROOMdICAL_KEYBOARDq_WITH_JACKSiNOTEiSCOREjYMBOL_ARPEGGIATO_DOW
  NzbUPpBEGIN_BEAMvPHRASEvSLURvTIEqRACEtKETrEATH_MARKsVEtISv_RESTpCAESURAqIRCLE_X_NOTEHEADqLIMACUSsV
  ISrUSTER_NOTEHEAD_BLACKzhWHITEqODArMBINING_ACCENTzg-STACCATOzbUGMENTATION_DOTzBENDzDOITzcUBLE_TONG
  UEzcWN_BOWzFLAG-1zf2zf3zf4zf5zcIPzHARMONICzLOUREzMARCATOzh-STACCATOzRIPzSMEARzbNAP_PIZZICATOzbPREC
  HGESANG_STEMzbTACCATISSIMOzhOzcEMzTENUTOzbREMOLO-1zi2zi3zcIPLE_TONGUEzUP_BOWsMON_TIMEqRESCENDOrOIX
  qUT_TIMEq_CLEFpDAL_SEGNOrMPt_ALLrSHED_BARLINEr_CAPOqECRESCENDOrGREE_SLASHqOUBLE_BARLINEwFLATwSHARP
  qRUM_CLEF-1z2pEIGHTH_NOTEwRESTqND_BEAMtOF_STIMMEtPHRASEtSLURtTIEpFERMATAw_BELOWqINAL_BARLINEsGERED
  _TREMOLO-1zh2zh3rVE-LINE_STAFFqLAT_DOWNuUPqORTErUR-LINE_STAFFuSTRING_FRETBOARDqUSA_BLACKuWHITEq_CL
  EFv_OTTAVA_ALTAzeBASSApGLISSANDO_DOWNzUPqRACE_NOTE_NO_SLASHzbSLASHrEGORIAN_C_CLEFzF_CLEFq_CLEFv_OT
  TAVA_ALTAzeBASSApHALF_NOTEuPEDAL_MARKuRESTrUPTSTIMMEpINVERTED_TURNpKIEVAN_C_CLEFwEIGHTH_NOTE_STEM_
  DOWNzoUPxND_OF_PIECEwFINAL_NOTExLAT_SIGNwHALF_NOTEwQUARTER_NOTE_STEM_DOWNzpUPwRECITATIVE_MARKwWHOL
  E_NOTEqORONpLEFT_REPEAT_SIGNqONGAu_IMPERFECTA_RESTvPERFECTA_RESTpMAXIMAqEZZOqINIMAv_BLACKwRESTqOON
  _NOTEHEAD_BLACKzeWHITEqULTIPLE_MEASURE_RESTu_RESTpNATURAL_DOWNxUPqEBENSTIMMEqOTEHEAD_BLACKqULL_NOT
  EHEADpONE-LINE_STAFFs_HUNDRED_TWENTY-EIGHTH_NOTEzqRESTqRNAMENT_STROKE-1zh0zh1zg2zg3zg4zg5zg6zg7zg8
  zg9qTTAVA_ALTAwBASSApPARENTHESIS_NOTEHEADqEDAL_MARKvUP_MARKrS_SUBPUNCTISqIANOqLUS_NOTEHEADqODATUSr
  RRECTUSy_FLEXUSpQUARTER_NOTExRESTxTONE_FLATzdSHARPrINDICESIMA_ALTAzdBASSApREPEATED_FIGURE-1zg2zg3v
  _DOTSrVERSE_FINAL_BARLINEqIGHT_REPEAT_SIGNrNFORZANDOpSCANDICUSy_FLEXUSqEGNOrMIBREVIS_BLACKzbRESTzb
  WHITEtMINIMA_BLACKzbRESTzbWHITEqHARP_DOWNvUPrORT_BARLINEqINGLE_BARLINErX-LINE_STAFFtSTRING_FRETBOA
  RDsTEENTH_NOTEzRESTtY-FOURTH_NOTEzdRESTqORIqQUARE_BwNOTEHEAD_BLACKzgWHITEqUBITOpTEMPUS_IMPERFECTUM
  _CUM_PROLATIONE_IMPERFECTAzzj_DIMINUTION-1zzv2zzv3zyPERFECTAwPERFECTUM_CUM_PROLATIONE_IMPERFECTAzw
  PERFECTAzzf_DIMINUTION-1qHIRTY-SECOND_NOTEzeRESTrREE-LINE_STAFFqORCULUSx_RESUPINUSqRrIANGLE-ROUND_
  NOTEHEAD_DOWN_BLACKztWHITEx_NOTEHEAD_DOWN_BLACKznWHITEziLEFT_BLACKznWHITEziRIGHT_BLACKzoWHITEziUP_
  BLACKzlRIGHT_BLACKzrWHITEzlWHITEqURNt_SLASHuUPqWO-LINE_STAFFpVIRGAqOID_NOTEHEADpWHOLE_NOTEvRESTqIT
  H_FINGERNAILSpX_NOTEHEADpZf_FLAT_SIGNgNATURAL_SIGNgSHARP_SIGNbVSbWbYANMAR_CONSONANT_SIGN_MEDIAL_HA
  zfRAzfWAzfYAyON_MEDIAL_LAzjMAzjNAxSHAN_MEDIAL_WAiDIGIT_EIGHToFIVEpOURoNINEoONEoSEVENpIXoTHREEpWOoZ
  EROiLETTER_AqITON_RAqUpBAqHApCAqHApDAqDArHAqHApEqASTERN_PWO_KAREN_GHWAziNNAziYWApGAqHAqREAT_SApHAp
  IqIpJAqHApKAqHAsMTI_CAxHAwDDAyHAxHAwFAwGAwHAxHAwJAxHAwLLAwNAxYAwRAwSAwTTAyHAwXAwZApLAqLApMAqON_BBA
  vEtEtJHAtNGApNAqGAqNArYAqYApOpPAqHApRAqUMAI_PALAUNG_FApSAqGAW_KAREN_SHAqHAsN_AuBAvHAuCAvHAuDAuFAuG
  AvHAuHAuJHAuKAvHAuNAvNAvYAuPHAuTHAuZArWE_PALAUNG_CHAzdSHAqSApTArI_LAING_BAzbHAzDAzbDAzcHAzbHAzFAzG
  AzbHAzJAzbHAzLLAzNNAzbYAqHAqTArHApUqUpVOCALIC_LyLxRyRpWAqESTERN_PWO_KAREN_PWAziTHApYAjOGOGRAM_KHAM
  TI_HMyOAYyQNiMODIFIER_LETTER_KHAMTI_REDUPLICATIONySHAN_REDUPLICATIONiSHAN_DIGIT_EIGHTtFIVEuOURtNIN
  EtONEtSEVENuIXtTHREEuWOtZEROjIGN_ANUSVARAoSATnDOT_BELOWnKHAMTI_TONE-1z3nLITTLE_SECTIONnPAO_KAREN_T
  ONEnRUMAI_PALAUNG_TONE-5nSECTIONoHAN_COUNCIL_EMPHATIC_TONEzbTONE-2zg3sSAWsTONE-2x3x5x6nTAI_LAING_T
  ONE-2zd5nVIRAMApSARGAnWESTERN_PWO_KAREN_TONE-1zl2zl3zl4zl5jYMBOL_AFOREMENTIONEDqITON_EXCLAMATIONvO
  NEvTWOpCOMPLETEDpGENITIVEpLOCATIVEpSHAN_EXCLAMATIONuONEiTAI_LAING_DIGIT_EIGHTyFIVEzOURyNINEyONEySE
  VENzIXyTHREEzWOyZEROjONE_MARK_SGAW_KAREN_HATHIzeKE_PHOiVOWEL_SIGN_AAuIvTON_AzbItEu_ABOVEtGEBA_KARE
  N_ItIuItKAYAH_EEzOEzUtMON_IIxOtSGAW_KAREN_EUuHAN_AAyEz_ABOVEyFINAL_YtTALL_AAtUuUtVOCALIC_LzdLzcRzd
  RtWESTERN_PWO_KAREN_EUzmUEaN-ARY_CIRCLED_DOT_OPERATORoPLUS_OPERATORoTIMES_OPERATORhOPRODUCTgINTERS
  ECTIONgLOGICAL_ANDoORgPRODUCTgSQUARE_INTERSECTION_OPERATORnUNION_OPERATORhUMMATIONgTIMES_OPERATORg
  UNIONl_OPERATOR_WITH_DOTzbPLUSgWHITE_VERTICAL_BARbABATAEAN_CRUCIFORM_NUMBER_FOURkLETTER_ALEPHsYINr
  BETHrDALETHrFINAL_ALEPHxBETHxHExKAPHxLAMEDHxMEMxNUNxSHINxYODHrGIMELrHEtTHrKAPHrLAMEDHrMEMrNUNrPErQ
  OPHrRESHrSADHEtMEKHsHINrTAWsETHrWAWrYODHrZAYINkNUMBER_FIVEsOURrONEu_HUNDREDrTENsHREEsWENTYtOdLAcIL
  _POLISHdRA_SIGNcKcME_BADGEcNDeINAGARI_HEADSTROKEmLETTER_AuAuIuUtBAuHAtCAuHAtDAuDAvHAuHAtEtGAuHAtHA
  tIuItJAuHAtKAuHAtLAuLAtMAtNAuGAuNAuYAtOtPAuHAtRAuRAtSAuHAuSAtTAuHAuTAvHAtUuUtVAuOCALIC_RzdRtYAmSIG
  N_ANUSVARAsVAGRAHArSIDDHAMrVIRAMAtSARGAmVOWEL_SIGN_AAyIyUxExIyIxOxPRISHTHAMATRA_ExUyUxVOCALIC_RzhR
  cRROW_NO-BREAK_SPACEcTIONAL_DIGIT_SHAPESjPARKcUSEATED_FACEcZAR_AMULETbBHcSPbECKTIEcGATED_DOUBLE_VE
  RTICAL_BAR_DOUBLE_RIGHT_TURNSTILEfIVE_ACKNOWLEDGEjCIRCLED_DIGIT_ZEROrLATIN_CAPITAL_LETTER_AznBznCz
  nDznEznFznGznHznIznJznKznLznMznNznOznPznQznRznSznTznUznVznWznXznYznZrNUMBER_EIGHTEENzLEVENyFIFTEEN
  zOURTEENyNINETEENySEVENTEENzIXTEENyTHIRTEENzWELVEzcNTYrSQUARErTRIANGLEjDIAGONAL_CROSSsDIAMONDsMIDD
  LE_RIGHT_TO_LOWER_CENTREjSQUARED_ABrCROSS_MARKrICrLATIN_CAPITAL_LETTER_AznBznCznDznEznFznGznHznIzn
  JznKznLznMznNznOznPznQznRznSznTznUznVznWznXznYznZrPArQUESTION_MARKrSArWCcITHER_APPROXIMATELY_NOR_A
  CTUALLY_EQUAL_TOj_SUBSET_OF_NOR_EQUAL_TOmPERSET_OF_NOR_EQUAL_TOiGREATER-THAN_NOR_EQUAL_TOzdIVALENT
  _TOzLESS-THANiLESS-THAN_NOR_EQUAL_TOzIVALENT_TOwGREATER-THANcLcPTUNEh_FORM_TWOcRD_FACEcSSUSdTING_D
  OLLSe_WITH_EGGScUTEReRAL_CHESS_BISHOPu_ROTATED_NINETY_DEGREESzeTWO_HUNDRED_SEVENTY_DEGREESoEQUIHOP
  PERy_ROTATED_NINETY_DEGREESoKINGs_ROTATED_NINETY_DEGREESzcTWO_HUNDRED_SEVENTY_DEGREESpNIGHTu_ROTAT
  ED_FORTY-FIVE_DEGREESzeNINETY_DEGREESzeONE_HUNDRED_THIRTY-FIVE_DEGREESzeTHREE_HUNDRED_FIFTEEN_DEGR
  EESzfWO_HUNDRED_SEVENTY_DEGREESzqTWENTY-FIVE_DEGREESoPAWNs_ROTATED_NINETY_DEGREESzcTWO_HUNDRED_SEV
  ENTY_DEGREESoQUEENt_ROTATED_NINETY_DEGREESzdTWO_HUNDRED_SEVENTY_DEGREESoROOKs_ROTATED_NINETY_DEGRE
  ESzcTWO_HUNDRED_SEVENTY_DEGREESoTURNED_BISHOPvKINGwNIGHTvPAWNvQUEENvROOKiFACEcWA_ABBREVIATION_SIGN
  fCOMMAfDANDAgIGIT_EIGHTlFIVEmOURlNINElONElSEVENmIXlTHREEmWOlZEROgOUBLE_COMMAmDANDAfGAP_FILLERfINSE
  RTION_SIGNfLETTER_AnAnInUmBAnHAmCAnHAmDAnDAoHAnHAmEmGAnHAmHAmInImJAnHAmKAnHAmLAnHAmMAnHAmNAnGAoHAn
  HAnNAnYAoHAmOmPAnHAmRAnHAmSAnHAnSAmTAnHAnTAoHAmUnUmVEDIC_ANUSVARAnOCALIC_LvLuRvRmWAmYAfOMfPLACEHOL
  DER_MARKfSANDHI_MARKgIDDHIhGN_ANUSVARAlVAGRAHAkCANDRABINDUkFINAL_ANUSVARAkJIHVAMULIYAkNUKTAkUPADHM
  ANIYAkVIRAMAmSARGAfVOWEL_SIGN_AArIrUqEqIrIqOqUrUqVOCALIC_LzLyRzRdLINE_LEFTiRIGHTdSPAPERd_LINEeMOON
  _SYMBOLjWITH_FACEeSHEQEL_SIGNeTAI_LUE_DIGIT_EIGHTsFIVEtOURsNINEsONEsSEVENtIXsTHREEtWOsZEROmLETTER_
  FINAL_BzDzKzMzNzbGzVtHIGH_BAyDAyFAyHAyKAzVAyLAyMAyNAzGAyPAzHAyQAySAzUAyTAzHAzSAyVAyXAzVAyYAtLOW_BA
  xDAxFAxHAxKAyVAxLAxMAxNAyGAxPAyHAxQAxSAyUAxTAyHAySAxVAxXAyVAxYAmSIGN_LAEuVmTHAM_DIGIT_ONEnONE_MARK
  -1w2mVOWEL_SIGN_AAzYyEyYxExIIyYxOyAzYyYxUyEzYyUyYxVOWEL_SHORTENERcXT_LINEfPAGEbIGHT_WITH_STARScNJA
  bKO_COMBINING_DOUBLE_DOT_ABOVEoLONG_DESCENDING_TONEtHIGH_TONEtLOW_TONEtRISING_TONEoNASALIZATION_MA
  RKoSHORT_HIGH_TONEuLOW_TONEuRISING_TONEhMAeDANTAYALANfIGIT_EIGHTkFIVElOURkNINEkONEkSEVENlIXkTHREEl
  WOkZEROfOROME_SIGNeEXCLAMATION_MARKeHIGH_TONE_APOSTROPHEeLAJANYALANfETTER_AlBAlCHAlDAnGBASINNAlEmE
  lFAlGBAlHAlIlJAmONA_CHAqJAqRAlKAlLAlMAlNmAn_WOLOSOmYAo_WOLOSOlOmOlPAlRAmRAlSAlTAlUlWAlYAfOW_TONE_A
  POSTROPHEeSYMBOL_GBAKURUNENlOO_DENNENeTAMAN_SIGNbLbNBSPbO-BREAK_SPACEcMINAL_DIGIT_SHAPESeSMA_SIGNc
  N-BREAKING_HYPHENePOTABLE_WATER_SYMBOLdFORKINGcRdDIC_MARK_SIGNdMAL_SUBGROUP_OFs_OR_EQUAL_TOdTHEAST
  -POINTING_AIRPLANEf_EAST_AND_SOUTH_WEST_ARROWmRROWq_AND_SOUTH_EAST_ARROWrCROSSING_NORTH_WEST_ARROW
  zbSOUTH_EAST_ARROWrWITH_HOOKlBLACK_ARROWlDOUBLE_ARROWlPOINTING_BUDuLEAFuVINE_LEAFlSANS-SERIF_ARROW
  lTRIANGLE-HEADED_ARROWzh_TO_BARlWHITE_ARROWgINDIC_FRACTION_ONE_EIGHTHzHALFzQUARTERzSIXTEENTHvTHREE
  _QUARTERSzcSIXTEENTHSmPLACEHOLDER_MARKmQUANTITY_MARKpRTER_MARKmRUPEE_MARKgWEST_AND_SOUTH_EAST_ARRO
  WmRROWq_AND_NORTH_EAST_ARROWrCROSSING_NORTH_EAST_ARROWrTO_CORNERuLONG_BARrWITH_HOOKlBLACK_ARROWlDO
  UBLE_ARROWlPOINTING_BUDuLEAFuVINE_LEAFlSANS-SERIF_ARROWlTRIANGLE-HEADED_ARROWzh_TO_BARlWHITE_ARROW
  cSEcTCHED_LEFT_SEMICIRCLE_WITH_THREE_DOTSjOWER_RIGHT-SHADOWED_WHITE_RIGHTWARDS_ARROWiRIGHT_SEMICIR
  CLE_WITH_THREE_DOTSiUPPER_RIGHT-SHADOWED_WHITE_RIGHTWARDS_ARROWdEeBOOKi_WITH_DECORATIVE_COVERe_PAD
  hGEd_ALMOST_EQUAL_TOfN_ELEMENT_OFfSYMPTOTICALLY_EQUAL_TOf_SUBSET_OFiPERSET_OFeCHECK_MARKeEQUAL_TOh
  IVALENT_TOeGREATER-THANeIDENTICAL_TOeLESS-THANeNORMAL_SUBGROUP_OFw_OR_EQUAL_TOePARALLEL_TOeSIGNfQU
  ARE_IMAGE_OF_OR_EQUAL_TOlORIGINAL_OF_OR_EQUAL_TOeTILDEfRUEc_BICYCLESeREAK_HEREdENTRYi_SIGNdMOBILE_
  PHONESdONE_UNDER_EIGHTEEN_SYMBOLdPEDESTRIANSeIRACYdSMOKING_SYMBOLbULdLcMBER_EIGHTEEN_FULL_STOPiLEV
  EN_FULL_STOPhFIFTEEN_FULL_STOPiOURTEEN_FULL_STOPhNINETEEN_FULL_STOPhSEVENTEEN_FULL_STOPiIGNjXTEEN_
  FULL_STOPhTEN_FULL_STOPiHIRTEEN_FULL_STOPiWELVE_FULL_STOPkNTY_FULL_STOPdERO_SIGNcSHU_CHARACTER-1B1
  70u1u2u3u4u5u6u7u8u9uAuBuCuDuEuFt80u1u2u3u4u5u6u7u8u9uAuBuCuDuEuFt90u1u2u3u4u5u6u7u8u9uAuBuCuDuEuF
  tA0u1u2u3u4u5u6u7u8u9uAuBuCuDuEuFtB0u1u2u3u4u5u6u7u8u9uAuBuCuDuEuFtC0u1u2u3u4u5u6u7u8u9uAuBuCuDuEu
  FtD0u1u2u3u4u5u6u7u8u9uAuBuCuDuEuFtE0u1u2u3u4u5u6u7u8u9uAuBuCuDuEuFtF0u1u2u3u4u5u6u7u8u9uAuBuCuDuE
  uFs200u1u2u3u4u5u6u7u8u9uAuBuCuDuEuFt10u1u2u3u4u5u6u7u8u9uAuBuCuDuEuFt20u1u2u3u4u5u6u7u8u9uAuBuCuD
  uEuFt30u1u2u3u4u5u6u7u8u9uAuBuCuDuEuFt40u1u2u3u4u5u6u7u8u9uAuBuCuDuEuFt50u1u2u3u4u5u6u7u8u9uAuBuCu
  DuEuFt60u1u2u3u4u5u6u7u8u9uAuBuCuDuEuFt70u1u2u3u4u5u6u7u8u9uAuBuCuDuEuFt80u1u2u3u4u5u6u7u8u9uAuBuC
  uDuEuFt90u1u2u3u4u5u6u7u8u9uAuBuCuDuEuFtA0u1u2u3u4u5u6u7u8u9uAuBuCuDuEuFtB0u1u2u3u4u5u6u7u8u9uAuBu
  CuDuEuFtC0u1u2u3u4u5u6u7u8u9uAuBuCuDuEuFtD0u1u2u3u4u5u6u7u8u9uAuBuCuDuEuFtE0u1u2u3u4u5u6u7u8u9uAuB
  uCuDuEuFtF0u1u2u3u4u5u6u7u8u9uAuBgITERATION_MARKcT_AND_BOLTbYIAKENG_PUACHUE_HMONG_CIRCLED_CAxDIGIT
  _EIGHTzeFIVEzfOURzeNINEzeONEzeSEVENzfIXzeTHREEzfWOzeZEROxLETTER_AzgAzfCAzfDAzgLAzfEzgEzfFAzfGAzfHA
  zhHzfIzfKAzfLAzfMAzgLAzfNAzgCAzgKAzgPAzhLAzgQAzgRAzgTAzhSAzhXAzgYAzfOzgOzfPAzgLAzfQAzfRAzgRAzfSAzf
  TAzgSAzgXAzfUzfVAzfWzfXAzgYAzfYAzfZAyOGOGRAM_NYAJxSIGN_FOR_ANIMALzhINVERTEBRATEzhLOCATIONzhPERSONz
  hTHINGzdXW_XWyYLLABLE_LENGTHENERxTONE-BzdDzdGzdJzdMzdSzdVaOBJECT_REPLACEMENT_CHARACTERcLIQUE_ANGLE
  _OPENING_DOWNwUPiHYPHENcSERVER_EYE_SYMBOLbCR_AMOUNT_OF_CHECKeBELT_BUCKLEfOW_TIEfRANCH_BANK_IDENTIF
  ICATIONeCHAIRfUSTOMER_ACCOUNT_NUMBEReDASHfOUBLE_BACKSLASHeFORKeHOOKeINVERTED_FORKcTAGONAL_SIGNdOPU
  SbDENbFFICE_BUILDINGbGHAM_FEATHER_MARKgLETTER_AILMnBEITHnCEIRToOLLnDAIRnEABHADHpDHADHpMHANCHOLLnFE
  ARNnGORTnIFINoODHADHnLUISnMUINnNGEADALoIONnONNoRnPEITHnRUISnSAILoTRAIFnTINNEnUATHoILLEANNoRgREVERS
  ED_FEATHER_MARKgSPACE_MARKcONEKbHM_SIGNbIL_DRUMbK_HAND_SIGNbLDER_ADULTgMANgWOMANd_CHINESE_HOOK_MAR
  KmITERATION_MARKeHUNGARIAN_CAPITAL_LETTER_AzfAzfKzfMBzfNDzeCLOSE_EzeEzfBzfCzgHzgSzfDzfEzfFzfGzgYzf
  HzfJzfKzfLzgYzfMzgPzfNzgCzgTzh-SHAPED_SIGNzgYzfPzfRzfSzgZzfTzgYzfVzfZzgSzeIzfIzeNIKOLSBURG_OEzpUEz
  eOzfEEzfOzeRUDIMENTA_OEzoUEzeSHORT_ERzeUzfNKzfSzfUoNUMBER_FIFTYxVEvONEy_HUNDREDzTHOUSANDvTENoSMALL
  _LETTER_AzdAzdKzdMBzdNDzcCLOSE_EzcEzdBzdCzeHzeSzdDzdEzdFzdGzeYzdHzdJzdKzdLzeYzdMzePzdNzeCzeTzf-SHA
  PED_SIGNzeYzdPzdRzdSzeZzdTzeYzdVzdZzeSzcIzdIzcNIKOLSBURG_OEznUEzcOzdEEzdOzcRUDIMENTA_OEzmUEzcSHORT
  _ERzcUzdNKzdSzdUeITALIC_LETTER_AsBEsCHEsDEsEtFtKStLtMtNtRuStSuHuSsHEsItIsKAtEtHEtUsNORTHERN_TSEsOs
  PEtHEsSHEtOUTHERN_TSEsTEtHEsUtUsVEsYEsZElNUMERAL_FIFTYvVEtONEtTENeKEYeNORTH_ARABIAN_LETTER_AINzbLE
  FzBEHzDADzcLzES-1zd2zd3zFEHzGEEMzbHAINzHAHzbEHzKAFzbHAHzLAMzMEEMzNOONzQAFzREHzSADzTAHzbEHzbHALzcEH
  zWAWzYEHzZAHzcINsNUMBER_ONEzTENzbWENTYePERMIC_LETTER_ANsBURsCHERYsDOItZHOIuITAsEtFsGAIsHAsItAtEsKO
  KEsLEIsMENOEsNENOEsOtOsPEEIsREIsSHCHOOIuOOItIIsTAItSIUsUsVERtOOIsYAuTtERvIvUtRYtUsZATAtHOIhSIAN_NU
  MBER_HUNDREDtONEtTENuWENTYvOmSIGN_AsURAMAZDAAzc-2zcHArBAtGAsUUMISHrCArDAtHYAAUSHzb-2sIsUrFArGAsUrH
  ArIrJAsIrKAsUrLArMAsIsUrNAsUrPArRAsUrSAsHAsSArTAsHAsUrUrVAsIrXAsSHAAYATHIYArYArZAmWORD_DIVIDERiONA
  L_COMPUTEReSOGDIAN_FRACTION_ONE_HALFmLETTER_ALEPHvTERNATE_AYINuYINtBETHtFINAL_ALEPHzBETHzHEzNUNzd_
  WITH_VERTICAL_TAILzSADHEzf_WITH_VERTICAL_TAILzTAWzd_WITH_VERTICAL_TAILtGIMELtHEvTHtKAPHtLAMEDHtMEM
  tNUNtPEtRESH-AYIN-DALETHtSADHEvMEKHuHINtTAWtWAWtYODHtZAYINnIGATURE_AYIN-DALETHmNUMBER_FIVEuOURtONE
  w_HUNDREDtTENuHIRTYvREEuWENTYvOgUTH_ARABIAN_LETTER_ALEFzbYNzBETHzDALETHzbHADHEzdLETHzFEzGHAYNzbIME
  LzHEzcTHzKAPHzbHETHzLAMEDHzMEMzNUNzQOPHzRESHzSADHEzcMEKHzcTzbHINzTAWzbETHzbHAWzcETHzWAWzYODHzZAYNs
  NUMBER_FIFTYzONEvERIC_INDICATOReTURKIC_LETTER_ORKHON_AzbBzbDzbEBzcDzcGzcKzcLzcNzcRzcSzcTzcYzbGzbLz
  bNzbQzbRzbSzcHzbTzbYzBASHzECzbLTzbMzbNCzcGzcTzcYzbPzbSHzbZzIzbCzbQzOzbEzcKzbPzbQzbTsYENISEI_AzcBzc
  DzcEzdBzdGzdKzdNzeGzdTzdYzcGzcLzcNGzcQzcRzcSHzcTzcYzbEzcCzcNCzdTzdYzcSHzcZzbIzcQzbOEzdKzcQeUYGHUR_
  COMBINING_DOT_ABOVEzBELOWvTWO_DOTS_ABOVEzfBELOWlLETTER_ALEPHsBETHsFINAL_HETHsGIMEL-HETHsKAPHsLAMED
  HtESHsMEMsNUNsPEsRESHsSADHEuMEKHtHINsTAWsWAWsYODHsZAYINlPUNCTUATION_BARxFOUR_DOTSxTWO_BARSzcDOTScI
  VEc_CHIKI_AHADjDIGIT_EIGHTpFIVEqOURpNINEpONEpSEVENqIXpTHREEqWOpZEROjGAAHLAA_TTUDDAAGjLETTER_AAJsKs
  MsWrGrLrNGrTqEDDrNrPrRRqIHrNYrRrSqLAsArErIrOrUqOBrHrTTrVqUCrDrNNrYjMU-GAAHLAA_TTUDDAAGl_TTUDDAGjPH
  AARKAAkUNCTUATION_DOUBLE_MUCAADvMUCAADjRELAAbM_SYMBOLbNCOMING_AUTOMOBILEjBUSjFIRE_ENGINEjPOLICE_CA
  RjTAXIcE-PIECE_SWIMSUITd_BUTTON_MOUSEeDOT_LEADERiOVER_TWO_DOTS_PUNCTUATIONcIONc_WITH_EXCLAMATION_M
  ARK_WITH_LEFT_RIGHT_ARROW_ABOVEbPEN-CIRCUIT-OUTPUT_H-TYPE_SYMBOLuL-TYPE_SYMBOLfOUTLINED_RIGHTWARDS
  _ARROWe_BOOKhXfCENTRE_ASTERISKmBLACK_STARmCROSSmTEARDROP-SPOKED_ASTERISKfFILE_FOLDERgOLDERfHANDS_S
  IGNfLOCKfMAILBOX_WITH_LOWERED_FLAGsRAISED_FLAGfSUBSEThPERSETdRATING_SYSTEM_COMMANDcHIUCHUScPOSITIO
  NcTICAL_DISCm_ICONeON_KEYbRANGE_BOOKhHEARTfUTANcIGINAL_OFdYA_AI_LENGTH_MARKhU_LENGTH_MARKgDIGIT_EI
  GHTmFIVEnOURmNINEmONEmSEVENnIXmTHREEnWOmZEROgFRACTION_ONE_EIGHTHtHALFtQUARTERtSIXTEENTHpTHREE_QUAR
  TERSvSIXTEENTHSgISSHARgLETTER_AoAoIoUnBAoHAnCAoHAnDAoDApHAoHAnEnGAoHAnHAnIoInJAoHAnKAoHAnLAoLAnMAn
  NAoGAoNAoYAnOnPAoHAnRAoHAoRAnSAoHAoSAnTAoHAoTApHAnUoUnVAoOCALIC_LwLvRwRnWAnYAoYAgSIGN_ANUSVARAmVAG
  RAHAlCANDRABINDUlNUKTAlOVERLINElVIRAMAnSARGAgVOWEL_SIGN_AAsIsUrErIsIrOrUsUrVOCALIC_LzbLzRzbRcNATE_
  LEFT_PARENTHESIShRIGHT_PARENTHESIScTHODOX_CROSSc_WITH_DOT_INSIDEbSAGE_CAPITAL_LETTER_AwHwIxNvBRAvC
  HAvDHAvEwHCHAxKAxPAxTAySAwINvGHAvHAwYAvIvKAwHAwYAvLAvMAvNAvOwINvPAvSAwHAvTAwSAxHAvUvWAvZAwHAgSMALL
  _LETTER_AuHuIvNtBRAtCHAtDHAtEuHCHAvKAvPAvTAwSAuINtGHAtHAuYAtItKAuHAuYAtLAtMAtNAtOuINtPAtSAuHAtTAuS
  AvHAtUtWAtZAuHAcCcMANYA_DIGIT_EIGHToFIVEpOURoNINEoONEoSEVENpIXoTHREEpWOoZEROiLETTER_AqAqLEFpBApCAY
  NpDEELqHApEqEpFApGApHApIpJApKAAFqHApLAANpMIINpNUUNpOqOpQAAFpRApSAqHIINpTApUpWAWpXApYAbTTERdOMAN_SI
  YAQ_ALTERNATE_NUMBER_EIGHTzgFIVEzhOURzk_HUNDREDzgNINEzgSEVENzhIXzj_HUNDREDzgTENzj_THOUSANDzhHREEzh
  WOzj_THOUSANDoFRACTION_ONE_HALFzcSIXTHoMARRATANoNUMBER_EIGHTzbYzc_THOUSANDzb_HUNDREDzcTHOUSANDvFIF
  TYzb_THOUSANDxVEz_HUNDREDzbTHOUSANDwORTYzb_THOUSANDxURz_HUNDREDzbTHOUSANDvNINEzTYzc_THOUSANDz_HUND
  REDzbTHOUSANDvONEy_HUNDREDzTHOUSANDvSEVENzbTYzd_THOUSANDzb_HUNDREDzcTHOUSANDwIXyTYzb_THOUSANDy_HUN
  DREDzTHOUSANDvTENy_THOUSANDwHIRTYzc_THOUSANDxREEzb_HUNDREDzcTHOUSANDwWENTYzc_THOUSANDxOy_HUNDREDzT
  HOUSANDbUNCE_SIGNcTBOX_TRAYdLINED_BLACK_STARjGREEK_CROSSjLATIN_CROSSjWHITE_STARbVERHEATED_FACEeLAP
  hPING_BLACK_SQUARESmWHITE_AND_BLACK_SQUARESsSQUARESfINEbWLbXbYSTERaPACKAGEcDdDING_CHARACTERcGEeReS
  e_FACING_UPfWITH_CIRCLED_TEXTlURLdODAcHAWH_HMONG_CLAN_SIGN_FAJxHAMzWJxKHAByOOyWMxLAUJyISxMUASxPHAB
  xTHOJySABzHEEJzWBxVAJyWJxXYOOJxYAJyEEGoONSONANT_AUxCAUyHAUxHAUyLAUyNAUxLAUxMAUxNAUyCHAUyKAUyLAUyTH
  AUzSAUxPLHAUxQHAUxRAUxVAUxXAUxYAUnDIGIT_EIGHTtFIVEuOURtNINEtONEtSEVENuIXtTHREEuWOtZEROnMARK_CIM_HO
  MwKESxHAVwSOxUAMwTAUMxUBnNUMBER_HUNDREDSzc_MILLIONSuMILLIONSuTENSx_BILLIONSyTHOUSANDSvRILLIONSnSIG
  N_AVsCIM_CHEEMxUAM_TSHOOJwHAIS_LUS_NTOG_NTOGwNRES_TOSwPUB_DAWBwTSOV_ROGxXWVzb_CHWVsHLItNUBsIB_YAMs
  LOSsMEEJ_SUABxTSEEBtUSsNQIGtTUJsTAUtHIRD-STAGE_HLItXHEEJ_CEEVsVOS_FEEMwLUBwNRUAwSEEVwTHIAByOMxSHAB
  _CEEBsXAUStIABtYEEM_FAIByNTXIVyRHOyTOVuOOsZWJ_THAJnVOWEL_KAABwVvBvIBwVvUBwVvVvWBwVuEBvEBwVvVuIABwV
  vBvVuOBvOBwVvVuUABwVvBvVuWBvVcLLASdMS_UP_TOGETHEReYRENE_LEFT-POINTING_FLEURONmTTER_ALEPHsYINrBETHr
  DALETHrFINAL_NUNrGIMELrHEtTHrKAPHrLAMEDHrMEMrNUNrPErQOPHrRESHrSADHEtMEKHsHINrTAWsETHrWAWrYODHrZAYI
  NkNUMBER_FIVEsOURrONErTENsHREEsWENTYtOkRIGHT-POINTING_FLEURONe_BRANCHfDOWN_HANDfTREEfUP_HANDcNCAKE
  SdDA_FACEcPERCLIPcRACHUTEeGRAPHOSjUS_MARKj_SEPARATOReLLEL_TOjWITH_HORIZONTAL_STROKEoTILDE_OPERATOR
  dENTHESIZED_DIGIT_EIGHTuFIVEvOURuNINEuONEuSEVENvIXuTHREEvWOoHANGUL_CHIEUCHzd_AwIEUCzb_AzcUvHIEUHzb
  _AvIEUNGzb_AvKHIEUKHzd_AwIYEOKzc_AvMIEUMzb_AvNIEUNzb_AvPHIEUPHzd_AwIEUPzb_AvRIEULzb_AvSIOSz_AvTHIE
  UTHzd_AwIKEUTzc_AoIDEOGRAPH_ALLIANCEyCALLzONGRATULATIONyEARTHzIGHTzNTERPRISEyFESTIVALzINANCIALzbRE
  zbVEzOURyHAVEyLABORyMETALzOONyNAMEzINEyONEyREACHzbPRESENTzbSOURCEzcTySELFzbVENzIXzOCIETYzPECIALzTO
  CKzbUDYzUNzbPERVISEyTENzHREEzWOyWATERzOODoKOREAN_CHARACTER_OJEONzh_HUoLATIN_CAPITAL_LETTER_AzkBzkC
  zkDzkEzkFzkGzkHzkIzkJzkKzkLzkMzkNzkOzkPzkQzkRzkSzkTzkUzkVzkWzkXzkYzkZuSMALL_LETTER_AziBziCziDziEzi
  FziGziHziIziJziKziLziMziNziOziPziQziRziSziTziUziVziWziXziYziZoNUMBER_EIGHTEENwLEVENvFIFTEENwOURTEE
  NvNINETEENvSEVENTEENwIXTEENvTENwHIRTEENwWELVEyNTYdROTdTIALLY-RECYCLED_PAPER_SYMBOLh_DIFFERENTIALiL
  INE_BACKWARDnDOWNnFORWARDnUPeNERSHIP_SIGNeY_POPPERe_ALTERNATION_MARKcSSED_SYMBOLfNGER_SHIPeIVE-PUL
  L-DOWN-OUTPUT_SYMBOLnUP-OUTPUT_SYMBOLePORT_CONTROLcU_CIN_HAU_GLOTTAL_STOPy_FINALzVARIANTmLETTER_At
  BAtCAuHAtDAtEtFAuINAL_KzLzMzNzbGzPzTzWzYtGAtHAtIuAtKAuHAtLAtMAtNAuGAtOtPAuHAtRAtSAtTAuHAtUuAtVAtZA
  nOW-FALLING_TONEzd_FINALzeLONGzi_FINALmMID-LEVEL_TONEzb_FINALzcLONG_FINALmRISING_TONEx_FINALyLONGz
  d_FINALmSANDHI_GLOTTAL_STOPzg_FINALtTONEx_FINALyLONGzd_FINALcW_PRINTSbDFcIbEACE_SYMBOLeHeOCKdNUTSd
  RcDESTRIANcNCILdGUINdSIVE_FACEdTAGRAMd_OVER_STAMPED_ENVELOPEcOPLE_HUGGINGcRCENT_SIGNdFORMING_ARTSd
  MANENT_PAPER_SIGNdPENDICULARn_WITH_SdSEVERING_FACEeONAL_COMPUTERg_BOWING_DEEPLYhCLIMBINGhDOING_CAR
  TWHEELhFROWNINGhIN_LOTUS_POSITIONkSTEAMY_ROOMhRAISING_BOTH_HANDS_IN_CELEBRATIONhWITH_BALLnLOND_HAI
  RmCROWNmFOLDED_HANDSmHEADSCARFmPOUTING_FACEePECTIVEd_MILLE_SIGNeSIGNeTEN_THOUSAND_SIGNcSETA_SIGNdO
  _SIGNcTRI_DISHbHAGS-PA_DOUBLE_HEAD_MARKjLETTER_ArLTERNATE_YArSPIRATED_FAqBAqCAsNDRABINDUrHAqDArDAr
  ZAqErEqFAqGArGAqHAqIqJAqKArHAqLAqMAqNArGArNArYAqOqPArHAqQAqRAqSArHArMALL_AqTArHArSAsHArTAsHAqUqVOI
  CED_HAvLESS_SHAqWAqXAqYAqZArHAjMARK_DOUBLE_SHADoSHADjSINGLE_HEAD_MARKkUBJOINED_LETTER_RAzbWAzbYAlP
  ERFIXED_LETTER_RAdISTOS_DISC_SIGN_ARROWtBEEwHIVEuOOMERANGvWuULLS_LEGtCAPTIVEvRPENTRY_PLANEvTuHILDu
  LUBuOLUMNvMBxINING_OBLIQUE_STROKEtDOLIUMvVEtEAGLEtFLUTEtGAUNTLETuRATERtHELMETuIDEuORNtLIDvLYtMANAC
  LESvTTOCKtOX_BACKtPAPYRUSuEDESTRIANuLANE_TREEvUMED_HEADtRAMuOSETTEtSAWuHIELDwPuLINGuMALL_AXEuTRAIN
  ERtTATTOOED_HEADuIARAuUNNYtVINEtWAVY_BANDuOMANcILIPPINE_DOUBLE_PUNCTUATIONlSINGLE_PUNCTUATIONcOENI
  CIAN_LETTER_AINtLFsBETsDELTsGAMLsHEuTsKAFsLAMDsMEMsNUNsPEsQOFsROSHsSADEtEMKtHINsTAUtETsWAUsYODsZAI
  lNUMBER_ONEv_HUNDREDsTENtHREEtWENTYuOlWORD_SEPARATORdLUSbICKeUP_TRUCKcEcGd_FACEeNOSEcLCROW_SIGNdE_
  OF_POOdLcNATAdCHED_FINGERSfING_HANDdEAPPLEe_DECORATIONdWHEEL_STARcSCESdTOLcTCHFORKj_WITH_TEE_TOPbL
  ACARDeE_OF_INTEREST_SIGNjWORSHIPdNCK_CONSTANTp_OVER_TWO_PIdYGROUND_SLIDEeING_CARD_ACE_OF_CLUBSuDIA
  MONDSuHEARTSuSPADESnBACKoLACK_JOKERnEIGHT_OF_CLUBSwDIAMONDSwHEARTSwSPADESnFIVE_OF_CLUBSvDIAMONDSvH
  EARTSvSPADESoOOLpUR_OF_CLUBSvDIAMONDSvHEARTSvSPADESnJACK_OF_CLUBSvDIAMONDSvHEARTSvSPADESnKING_OF_C
  LUBSvDIAMONDSvHEARTSvSPADESoNIGHT_OF_CLUBSxDIAMONDSxHEARTSxSPADESnNINE_OF_CLUBSvDIAMONDSvHEARTSvSP
  ADESnQUEEN_OF_CLUBSwDIAMONDSwHEARTSwSPADESnRED_JOKERnSEVEN_OF_CLUBSwDIAMONDSwHEARTSwSPADESoIX_OF_C
  LUBSuDIAMONDSuHEARTSuSPADESnTEN_OF_CLUBSuDIAMONDSuHEARTSuSPADESoHREE_OF_CLUBSwDIAMONDSwHEARTSwSPAD
  ESoRUMP-1u0u1u2u3u4u5u6u7u8u9t2u0u1t3t4t5t6t7t8t9oWO_OF_CLUBSuDIAMONDSuHEARTSuSPADESnWHITE_JOKERcD
  cUdNGERdS-MINUS_SIGNe_SIGNj_ABOVE_EQUALS_SIGNkIN_LEFT_HALF_CIRCLEnRIGHT_HALF_CIRCLEnTRIANGLEkWITH_
  BLACK_TRIANGLEpCIRCUMFLEX_ACCENT_ABOVEpDOT_BELOWpSMALL_CIRCLE_ABOVEqUBSCRIPT_TWOpTILDE_ABOVEvBELOW
  dTOf_FORM_FIVEmOURlTHREEmWObMbOCKET_CALCULATORcLICE_CARkS_REVOLVING_LIGHThOFFICERcODLEcPCORNd_DIRE
  CTIONAL_FORMATTINGqISOLATEcRTABLE_STEREOcSEIDONdITION_INDICATORdTAL_HORNhMARKl_FACEeBOXcTABLE_WATE
  R_SYMBOLeTOdTED_PLANTd_OF_FOODcUCHdLTRY_LEGdND_SIGNdRING_LIQUIDdTING_CAT_FACEiFACEcWER_ON-OFF_SYMB
  OLi_SYMBOLgSLEEP_SYMBOLhYMBOLbRAYER_BEADScECEDESi_ABOVE_ALMOST_EQUAL_TOpEQUALS_SIGNpNOT_ALMOST_EQU
  AL_TOtEQUAL_TOpSINGLE-LINE_EQUALS_SIGNzcNOT_EQUAL_TOjBUT_NOT_EQUIVALENT_TOjOR_EQUAL_TOpIVALENT_TOj
  UNDER_RELATIONdGNANT_MANjPERSONjWOMANdSCRIPTION_TAKEeENTATION_FORM_FOR_VERTICAL_COLONziMMAzgEM_DAS
  HzhN_DASHzhXCLAMATION_MARKzgHORIZONTAL_ELLIPSISzgIDEOGRAPHIC_COMMAzsFULL_STOPzgLEFT_ANGLE_BRACKETz
  lBLACK_LENTICULAR_BRACKETzlCORNER_BRACKETzmURLY_BRACKETzlDOUBLE_ANGLE_BRACKETzlPARENTHESISzlSQUARE
  _BRACKETzlTORTOISE_SHELL_BRACKETzlWHITE_CORNER_BRACKETzrLENTICULAR_BRACKETzhOW_LINEzgQUESTION_MARK
  zgRIGHT_ANGLE_BRACKETzmBLACK_LENTICULAR_BRACKETzmCORNER_BRACKETznURLY_BRACKETzmDOUBLE_ANGLE_BRACKE
  TzmPARENTHESISzmSQUARE_BRACKETzmTORTOISE_SHELL_BRACKETzmWHITE_CORNER_BRACKETzsLENTICULAR_BRACKETzz
  hKCETzgSEMICOLONzgTWO_DOT_LEADERzgWAVY_LOW_LINEdTZELdVIOUS_PAGEcIMEdNCEgSSeTERh_ICONf_SCREEN_SYMBO
  LdVACY_MESSAGEfTE_USE-1m2l_ONEmTWOcOBING_CANEdHIBITED_SIGNdJECTIVEdPERTY_LINEeORTIONkAL_TOdSERPINA
  bSALTER_PAHLAVI_FOUR_DOTS_WITH_CROSSzgDOTqLETTER_ALEPHxBETHxDALETHxGIMELxHEzTHxKAPHxLAMEDHxMEM-QOP
  HxNUNxPExSADHEzMEKHyHINxTAWxWAW-AYIN-RESHxYODHxZAYINqNUMBER_FOURxONEzb_HUNDREDxTENyHREEyWENTYzOqSE
  CTION_MARK"

/-- The seventh part of the names. -/
def seventhNames : String := "aPSALTER_PAHLAVI_TURNED_SECTION_MARKbU1c2cBLIC_ADDRESS_LOUDSPEAKERcNCT
  UATION_SPACEgS_ELEVATUS_MARKcRPLE_HEARTdSEcSHPINcT_LITTER_IN_ITS_PLACE_SYMBOLaQUADRANT_LOWER_LEFTp
  RIGHTjUPPER_LEFTt_AND_LOWER_LEFT_AND_LOWER_RIGHTzfRIGHTyUPPER_RIGHT_AND_LOWER_LEFTzvRIGHTpRIGHTu_A
  ND_LOWER_LEFTzk_AND_LOWER_RIGHTfUPLE_INTEGRAL_OPERATORkPRIMEdRTER_NOTEdTERNION_INTEGRAL_OPERATORcE
  STIONED_EQUAL_TOi_EXCLAMATION_MARKjMARKcINCUNXcOTATION_MARKaRABBITg_FACEcCCOONdING_CARhMOTORCYCLEc
  DICAL_SYMBOL_BOTTOMeOfACTIVE_SIGNf_BUTTONcILWAY_CARiTRACKdNeBOWdSED_BACK_OF_HANDhCOMMAhDOTkTED_INT
  ERPOLATION_MARKERhFISThHANDl_WITH_FINGERS_SPLAYEDrPART_BETWEEN_MIDDLE_AND_RING_FINGERShINTERPOLATI
  ON_MARKERhMC_SIGNiD_SIGNiR_SIGNhSQUAREcMcTdIOcZORbECEIPTdORD_SEPARATORdREATIONAL_VEHICLEdYCLED_PAP
  ER_SYMBOLgING_SYMBOL_FOR_GENERIC_MATERIALSvTYPE-1_PLASTICSzb2_PLASTICSzb3_PLASTICSzb4_PLASTICSzb5_
  PLASTICSzb6_PLASTICSzb7_PLASTICScD_APPLEeGIFT_ENVELOPEcFERENCE_MARKcGIONAL_INDICATOR_SYMBOL_LETTER
  _AziBziCziDziEziFziGziHziIziJziKziLziMziNziOziPziQziRziSziTziUziVziWziXziYziZeSTERED_SIGNcJANG_CON
  SONANT_SIGN_HwNxGwRhLETTER_AoBAoCAoDAoGAoHAoJAoKAoLAoMApBAoNApDApGAqGApYAqJAoPAoRAoSAoTAoWAoYAhSEC
  TION_MARKhVIRAMAiOWEL_SIGN_AItUsEtAtUsIsOsUcLIEVED_FACEcMINDER_RIBBONcPLACEMENT_CHARACTERcSPONSEdT
  RICTED_LEFT_ENTRY-1w2fOOMcTURN_LEFThRIGHThSYMBOLcVERSED_ANGLEo_WITH_UNDERBARjCOMMAjDOUBLE_PRIMEv_Q
  UOTATION_MARKqSTROKE_NOT_SIGNjEMPTY_SETjFORKED_PARAGRAPHOSjHAND_WITH_MIDDLE_FINGER_EXTENDEDjNOT_SI
  GNjPILCROW_SIGNkRIMEjQUESTION_MARKjRAISED_HAND_WITH_FINGERS_SPLAYEDkIGHT_ANGLEkOTATED_FLORAL_HEART
  _BULLETjSANS-SERIF_CAPITAL_LkEMICOLONjTHUMBS_DOWN_SIGNqUP_SIGNkILDEo_EQUALSkRIPLE_PRIMEjVICTORY_HA
  NDh_CHECKER_BOARDiINDEXiLIGHT_FOUR_POINTED_PINWHEEL_STARkNE_FEEDiSOLIDUSp_OPERATORqPRECEDING_SUBSE
  TqWITH_HORIZONTAL_STROKEiTILDE_OPERATOR_ABOVE_LEFTWARDS_ARROWzeRIGHTWARDS_ARROWdOLVING_HEARTSbHINO
  CEROSbIcAL_SIGNcBBONg_ARROW_DOWN_LEFTsRIGHTnLEFT_DOWNsUPnRIGHT_DOWNtUPnUP_LEFTqRIGHTcCE_BALLfCRACK
  ERcFLEcGHT-FACING_ARMENIAN_ETERNITY_SIGNnFISTnSVASTI_SIGNy_WITH_DOTSgHANDED_INTERLACED_PENTAGRAMgP
  OINTING_ANGLE_BRACKETpCURVED_ANGLE_BRACKETpDOUBLE_ANGLE_QUOTATION_MARKpMAGNIFYING_GLASSgSHADED_WHI
  TE_RIGHTWARDS_ARROWhIDE_ARC_CLOCKWISE_ARROWgTO-LEFT_EMBEDDINGoISOLATEoMARKoOVERRIDEfHAND_INTERIOR_
  PRODUCTfWARDS_ARROWq-TAILq_ABOVE_ALMOST_EQUAL_TOxREVERSE_ALMOST_EQUAL_TOzgTILDE_OPERATORxSHORT_LEF
  TWARDS_ARROWxTILDE_OPERATORsND_UPPER_AND_LOWER_ONE_EIGHTH_BLOCKrFROM_BARz_TO_BLACK_DIAMONDrOVER_LE
  FTWARDS_ARROWrTHROUGH_GREATER-THANzSUPERSETzXsO_BARvLACK_DIAMONDrWITH_CORNER_DOWNWARDSwDOTTED_STEM
  yUBLE_VERTICAL_STROKEwEQUILATERAL_ARROWHEADwHOOKwLARGE_TRIANGLE_ARROWHEADxOOPwMEDIUM_TRIANGLE_ARRO
  WHEADwNOTCHED_TAILwPLUS_BELOWwSMALL_EQUILATERAL_ARROWHEADzdTRIANGLE_ARROWHEADxTROKEwTAILzb_WITH_DO
  UBLE_VERTICAL_STROKEzhVERTICAL_STROKExIP_DOWNWARDSzbUPWARDSwVERTICAL_STROKElBACK-TILTED_SHADOWED_W
  HITE_ARROWmLACK_ARROWrCIRCLED_WHITE_ARROWmOTTOM_SHADED_WHITE_ARROWlCOMPRESSED_ARROWlDASHED_ARROWmO
  UBLE_ARROWx-TAILx_FROM_BARyWITH_STROKEzeVERTICAL_STROKEsDASH_ARROWlFINGER-POST_ARROWmRONT-TILTED_S
  HADOWED_WHITE_ARROWlHANDnRPOON_OVER_LEFTWARDS_HARPOONtWITH_BARB_DOWNWARDSzi_ABOVE_LEFTWARDS_HARPOO
  N_WITH_BARB_DOWNzjBELOW_LONG_DASHzjFROM_BARzjTO_BARzeUPWARDSzg_ABOVE_LEFTWARDS_HARPOON_WITH_BARB_U
  PzoONG_DASHznRIGHTWARDS_HARPOON_WITH_BARB_DOWNzhFROM_BARzhTO_BARmEAVY_ARROWrCOMPRESSED_ARROWlLEFT-
  SHADED_WHITE_ARROWlOPEN-HEADED_ARROWlPAIRED_ARROWSlQUADRUPLE_ARROWlRIGHT-SHADED_WHITE_ARROWmOCKETl
  SANS-SERIF_ARROWmQUARED_ARROWoIGGLE_ARROWlTOP_SHADED_WHITE_ARROWmRIANGLE-HEADED_ARROWzh_OVER_LEFTW
  ARDS_TRIANGLE-HEADED_ARROWziTO_BARziWITH_BOLD_SHAFTznDOUBLE_HORIZONTAL_STROKEzuVERTICAL_STROKEznHE
  AVY_SHAFTznLONG_TIP_DOWNWARDSzwUPWARDSznMEDIUM_SHAFTznNARROW_SHAFTznVERY_HEAVY_SHAFTzcDASHED_ARROW
  zcPAIRED_ARROWSt_ARROWHEADoPLE_ARROWsDASH_ARROWmWO-HEADED_ARROW_FROM_BARzdWITH_DOUBLE_VERTICAL_STR
  OKEziTAILzm_WITH_DOUBLE_VERTICAL_STROKEzsVERTICAL_STROKEzjRIANGLE_ARROWHEADSziVERTICAL_STROKEwTRIP
  LE_DASH_ARROWo_HEADED_ARROWlWAVE_ARROWmHITE_ARROWw_FROM_WALLxWITHIN_TRIANGLE_ARROWHEADf_AND_LOWER_
  ONE_EIGHTH_BLOCKkUPPER_ONE_EIGHTH_BLOCKiGER_BUBBLEjLEl_BRACKETt_WITH_DOTmDOTTED_SUBSTITUTION_MARKE
  RmSUBSTITUTION_MARKERmVARIANT_WITH_SQUAREmWITH_ARCrDOWNWARDS_ZIGZAG_ARROWhRC_GREATER-THAN_BRACKETi
  ROW_WITH_CIRCLED_PLUSrSMALL_CIRCLEgBLACK_LENTICULAR_BRACKETmTORTOISE_SHELL_BRACKETgCEILINGhORNER_B
  RACKEThURLY_BRACKETt_LOWER_HOOKuMIDDLE_PIECEuUPPER_HOOKgDOTTED_SUBSTITUTION_BRACKETiUBLE_ANGLE_BRA
  CKEToRROW_WITH_ROUNDED_HEADnPARENTHESISnQUOTATION_MARKnWIGGLY_FENCEgFISH_TAILiVE_EIGHTHS_BLOCKhLOO
  RgHALF_BLACK_CIRCLErSTARnOCKlFOLDERlMEDIUM_SHADElRUNNING_MANiND_TELEPHONE_RECEIVERgLOW_PARAPHRASE_
  BRACKETgNORMAL_FACTOR_SEMIDIRECT_PRODUCTgONE_EIGHTH_BLOCKkQUARTER_BLOCKhPEN_SQUARED_DOThUTER_JOINg
  PARENTHESISr_EXTENSIONsLOWER_HOOKsUPPER_HOOKgRAISED_OMISSION_BRACKETgS-SHAPED_BAG_DELIMITERhEMIDIR
  ECT_PRODUCTiVEN_EIGHTHS_BLOCKhIDEWAYS_U_BRACKETiNGLE_QUOTATION_MARKhPEAKERn_WITH_ONE_SOUND_WAVEtTH
  REE_SOUND_WAVESjECH_BUBBLEhQUARE_BRACKETu_EXTENSIONvLOWER_CORNERvUPPER_CORNERvWITH_DOUBLE_STROKEzb
  QUILLzbSTROKEzbTICK_IN_BOTTOM_CORNERzjTOP_CORNERzbUNDERBARhUBSTITUTION_BRACKETgTACKhHIRD_WHITE_RIG
  HT_POINTING_INDEXiOUGHT_BUBBLEiREE_EIGHTHS_BLOCKmQUARTERS_BLOCKhORTOISE_SHELL_BRACKEThRANSPOSITION
  _BRACKETiIANGLEo_ABOVE_LEFT_TRIANGLEmULAR_ONE_QUARTER_BLOCKgVERTICAL_BAR_WITH_QUILLqOX_LINEgWHITE_
  CORNER_BRACKETnURLY_BRACKETmLENTICULAR_BRACKETmPARENTHESISmSQUARE_BRACKETmTORTOISE_SHELL_BRACKEThI
  GGLY_FENCEcNGeED_PLANETeING_BELLe_ABOVEfBUOYfEQUAL_TOfIN_EQUAL_TOfOPERATORfPOINTcSING_DIAGONAL_CRO
  SSING_FALLING_DIAGONALzSOUTH_EAST_ARROWbLEcIcMcObOASTED_SWEET_POTATOcBOT_FACEcCKeETcLLED-UP_NEWSPA
  PERfR_COASTERhSKATEeING_ON_THE_FLOOR_LAUGHINGe_OF_PAPERcMAN_AS_SIGNgCENTURIAL_SIGNgDENARIUS_SIGNhI
  MIDIA_SEXTULA_SIGNhUPONDIUS_SIGNgNUMERAL_EIGHTpLEVENoFIFTYt_EARLY_FORMuTHOUSANDqVEs_HUNDREDtTHOUSA
  NDpOURoNINEoONEr_HUNDREDz_THOUSANDsTHOUSANDzb_C_DoREVERSED_ONE_HUNDREDoSEVENpIXr_LATE_FORMoTENr_TH
  OUSANDpHREEpWELVEqOgQUINARIUS_SIGNgSEMUNCIA_SIGNiSTERTIUS_SIGNiXTANS_SIGNkULA_SIGNhILIQUA_SIGNgUNC
  IA_SIGNcOSTERcSEeTTEcTATED_CAPITAL_QiFLORAL_HEART_BULLETiHEAVY_BLACK_HEART_BULLETiLIGHT_FOUR_POINT
  ED_BLACK_CUSPiWHITE_FOUR_POINTED_CUSPcUNDED_SYMBOL_FOR_CAItFUtLUtSHOUvUANGXItXIf_PUSHPINgTARGETcWB
  OATbSbUBLE_SIGNcGBY_FOOTBALLcLE-DELAYEDcMI_DIGIT_EIGHTlFIVEmOURlNINElONElSEVENmIXlTHREEmWOfFRACTIO
  N_ONE_HALFsQUARTERsTHIRDoTWO_THIRDSfNUMBER_EIGHTYr_HUNDREDmFIFTYoVE_HUNDREDnORTYoUR_HUNDREDmNINETY
  q_HUNDREDmONE_HUNDREDmSEVENTYr_HUNDREDnIXTYp_HUNDREDmTENnHIRTYoREE_HUNDREDnWENTYoO_HUNDREDcNIC_ARL
  AUG_SYMBOLgBELGTHOR_SYMBOLgCROSS_PUNCTUATIONgLETTER_AC_AoESCoLGIZ_EOLHXoNSUZ_AnBERKANAN_BEORC_BJAR
  KAN_BnCoALCoEALCpNoWEORTHnDoAGAZ_DAEG_DoOTTED-LuNuPnEoARoHWAZ_EH_EoNGoTHnFEHU_FEOH_FE_FoRANKS_CASK
  ET_ACzdESCzcEHzcISzcOSnGoARoEBO_GYFU_GpRnHAEGL_HpGLAZ_HnICELANDIC-YRoNGqWAZoORoSAZ_IS_ISS_IoWAZ_EO
  HnJERAN_JnKoAUNAr_KnLAUKAZ_LAGU_LOGR_LoONG-BRANCH-AR_AEzHAGALL_HzMADR_MzOSS_OzYRnMANNAZ_MAN_MnNAUD
  IZ_NYD_NAUD_NnOoEoNoOoPEN-PoS_OoTHALAN_ETHEL_OnPERTHO_PEORTH_PnQnRAIDO_RAD_REID_RnSHpORT-TWIG-AR_A
  yBJARKAN_ByHAGALL_HyMADR_MyNAUD_NyOSS_OySOL_SyTYR_TyYRoIGEL_LONG-BRANCH-SOL_SoOWILO_SoTANnTHURISAZ
  _THURS_THORNoIWAZ_TIR_TYR_TnURUZ_UR_UnVnWoUNJO_WYNN_WnXnYoRnZgMULTIPLE_PUNCTUATIONgSINGLE_PUNCTUAT
  IONgTVIMADUR_SYMBOLdNEReING_SHIRT_WITH_SASHcPEE_SIGNcSSIAN_ASTROLOGICAL_SYMBOL_BINOVILEzdNOVILEzdQ
  UINTILEzdSENTAGONzdTREDECILEzdVIGINTILEaSAFETY_PINhVESTcGITTARIUScILBOATcKE_BOTTLE_AND_CUPcLTIREe_
  SHAKERdUTING_FACEcMARITAN_ABBREVIATION_MARKkLETTER_ALAFrBAAsITrDALATrFIrGAMANrINsTsYrKAAFrLABATrMI
  MrNUNrQUFrRISHrSHANsINGAATrTAAFsITsSAADIYrYUTrZENkMARK_DAGESHpEPENTHETIC_YUTpINr-ALAFpNEQUDAApOCCL
  USIONlODIFIER_LETTER_EPENTHETIC_YUTzbIzbSHORT_AkPUNCTUATION_AFSAAQxNGEDyNAAUxRKAANUxTMAAUwBAUwMELO
  DIC_QITSAwNEQUDAAwQITSAwSHIYYAALAAxOF_MASHFAATwTURUwZAEFxIQAAkVOWEL_SIGN_AwAvEvIvLONG_AzcAzbEzbIzb
  UvOwVERLONG_AzgAvSHORT_AwUKUNvUcNDWICHdS-SERIF_HEAVY_DOUBLE_COMMA_QUOTATION_MARK_ORNAMENTyTURNED_C
  OMMA_QUOTATION_MARK_ORNAMENTrLOW_DOUBLE_COMMA_QUOTATION_MARK_ORNAMENTlINTERROBANG_ORNAMENTcRIcTELL
  ITEj_ANTENNAdURNcURASHTRA_CONSONANT_SIGN_HAARUlDANDAmIGIT_EIGHTrFIVEsOURrNINErONErSEVENsIXrTHREEsW
  OrZEROmOUBLE_DANDAlLETTER_AtAtItUsBAtHAsCAtHAsDAtDAuHAtHAsEtEsGAtHAsHAsItIsJAtHAsKAtHAsLAtLAsMAsNA
  tGAtNAtYAsOtOsPAtHAsRAsSAtHAtSAsTAtHAtTAuHAsUtUsVAtOCALIC_LzcLzbRzcRsYAlSIGN_ANUSVARAqCANDRABINDUq
  VIRAMAsSARGAlVOWEL_SIGN_AAxIxUwExEwIxIwOxOwUxUwVOCALIC_LzgLzfRzgReOPODcXOPHONEbCALESdRFcHOOLg_SATC
  HELcIcOOTERdRPIONgUScREENeWDRIVERdIPT_CAPITAL_BpEpFpHpIpLpMpPpRhLIGATURE_ET_ORNAMENThSMALL_EnGnLnO
  dOLLdUPLEbEALdTcCOND_PLACE_MEDALdTION_SIGNeORcDNAcE-NO-EVIL_MONKEYdDLINGcGMENThED_DIGIT_EIGHTqFIVE
  rOURqNINEqONEqSEVENrIXqTHREErWOqZEROcLFIEcMICOLONeDIRECT_PRODUCT_WITH_BOTTOM_CLOSEDeSEXTILEcPARATE
  D_SYMBOLcRIOUS_FACE_WITH_SYMBOLS_COVERING_MOUTHdVICE_MARKcSAME_DOTdQUIQUADRATEcT_MINUSeTRANSMIT_ST
  ATEcWING_NEEDLEcXTILEbGCbHADOWED_WHITE_CIRCLEpLATIN_CROSSpSTARdLLOW_PAN_OF_FOODdMROCKdRADA_ABBREVI
  ATION_SIGNiCONTINUATION_SIGNiDANDAjIGIT_EIGHToFIVEpOURoNINEoONEoSEVENpIXoTHREEpWOoZEROjOUBLE_DANDA
  iEKAMjXTRA_SHORT_VOWEL_MARKiHEADSTROKEiLETTER_AqAqIqUpBAqHApCAqHApDAqDArHAqHApEpGAqHApHApIqIpJAqHA
  pKAqHApLAqLApMApNAqGAqNAqYApOpPAqHApRApSAqHAqSApTAqHAqTArHApUqUpVAqOCALIC_LyLxRyRpYAiOMiSANDHI_MAR
  KjECTION_MARK-1v2kPARATORjIGN_ANUSVARAoVAGRAHAnCANDRABINDUnINVERTED_CANDRABINDUnJIHVAMULIYAnNUKTAn
  SIDDHAMnUPADHMANIYAnVIRAMApSARGAjUTRA_MARKiVOWEL_MODIFIER_MARKoSIGN_AAuIuUtEtIuItOtPRISHTHAMATRA_E
  tUuUtVOCALIC_LzdLzcRzdReKdVED_ICEeIAN_LETTER_ADOqGEqHqIRqRErRAYqSHqWEpBIBpCHURCHpDEADpEARrTqGGqRRp
  FEEpGAGpHA-HAqUNGpIANqCEqFpJUDGEpKICKpLOLLpMEASUREqIMEpNUNpOAKqILqNqOZEqRqUTpPEEPpROARpSOqUREpTHEY
  rIGHqOTpUPpVOWpWOErOLpYEArWpZOOcEEPcIELDdFT_INgOUTdNTO_SHRINEdPcOCKED_FACE_WITH_EXPLODING_HEADdOTI
  NG_STARdPPING_BAGSjTROLLEYdRTCAKEfHAND_FORMAT_CONTINUING_OVERLAPrDOWN_STEPrLETTER_OVERLAPrUP_STEPf
  Sf_BACKSLANTED_SOUTH_ARROWhENT_ARROW_POINTING_DOWNWARDS_THEN_NORTH_EASTgDOWN_TACKp_WITH_OVERBARgLE
  FT_TACKgRIGHTWARDS_ARROW_ABOVE_LEFTWARDS_ARROWgSLANTED_NORTH_ARROWgUP_TACKn_ABOVE_SHORT_DOWN_TACKo
  WITH_UNDERBARdULDERED_OPEN_BOXdWERcRIMPdUGcUFFLE_PRODUCTcYbIcDDHAM_DANDAjOUBLE_DANDAiEND_OF_TEXT_M
  ARKiLETTER_AqAqIqLTERNATE_UqUpBAqHApCAqHApDAqDArHAqHApEpGAqHApHApIqIpJAqHApKAqHApLApMApNAqGAqNAqYA
  pOpPAqHApRApSAqHAqSApTAqHArREE-CIRCLE_ALTERNATE_IqTArHAqWO-CIRCLE_ALTERNATE_IzmIpUqUpVAqOCALIC_LyL
  xRyRpYAiREPETITION_MARK-1y2y3iSECTION_MARK_DOUBLE_RINGzh_WITH_RAYSvWITH_CIRCLES_AND_FOUR_ENCLOSURE
  SznRAYSznTWO_ENCLOSURESzbDOUBLE_CRESCENTSzbQUADRUPLE_CRESCENTSzbRAYS_AND_DOTTED_CRESCENTSzrDOUBLE_
  CRESCENTSzrTRIPLE_CRESCENTSzbSEPTUPLE_CRESCENTSzbTRIDENT_AND_DOTTED_CRESCENTSznU-SHAPED_ORNAMENTSz
  ePLE_CRESCENTSkPARATOR_BARsDOTjIGN_ANUSVARAnCANDRABINDUnNUKTAnSIDDHAMnVIRAMApSARGAiVOWEL_SIGN_AAuI
  uLTERNATE_UzfUuUtEtIuItOtUuUtVOCALIC_RzdRdEWAYS_BLACK_DOWN_POINTING_INDEXpLEFT_POINTING_INDEXpRIGH
  T_POINTING_INDEXpUP_POINTING_INDEXjWHITE_DOWN_POINTING_INDEXpLEFT_POINTING_INDEXpRIGHT_POINTING_IN
  DEXpUP_POINTING_INDEXcGNWRITING_AIR_BLOWING_OUTu_SMALL_ROTATIONSqSUCKING_INu_SMALL_ROTATIONSmBREAT
  H_EXHALEtINHALEoUSH_BETWEENsMULTIPLEsSINGLEmCHEEKS_NEUTRALtPUFFEDtSUCKEDnOLONoMMAmDREAMY_EYEBROWS_
  DOWN_NEUTRALzdNEUTRAL_DOWNzlUPzdUP_NEUTRALnYNAMIC_ARROWHEAD_LARGEzfSMALLuEVERY_OTHER_TIMEuFASTuGRA
  DUALuRELAXEDuSIMULTANEOUSzh_ALTERNATINGvLOWuTENSEmEARSnXCITEMENTnYEBROWS_STRAIGHT_DOWNzfNEUTRALzfU
  PpGAZE-FLOORPLANE_CURVEDzgSTRAIGHTzo_ALTERNATINGzpDOUBLEuWALLPLANE_CIRCLINGzgURVEDzfSTRAIGHTzn_ALT
  ERNATINGzoDOUBLEpLASHES_DOWNwFLUTTERINGwUPpS_CLOSEDrHALF_CLOSEDwOPENrOPENrSQUEEZEDrWIDENING_MOVEME
  NTv_OPENp_BLINK_MULTIPLEwSINGLEqWINKmFACE_DIRECTION_POSITION_NOSE_FORWARD_TILTINGzqUP_OR_DOWNzzb_T
  ILTINGnILL_MODIFIER-2zb3zb4zb5zb6oNGERnLICK_LARGE_MULTIPLEySINGLEsSEQUENTIALtMALL_MULTIPLEySINGLEo
  OORPLANE_SHOULDER_HIP_MOVEnOREHEAD_CONTACTvNEUTRALvWRINKLEDnULL_STOPmGRASP_BETWEENsMULTIPLEsSINGLE
  mHAIRoND-ANGLEw_INDEXzd_MIDDLE_LITTLEzlRINGzeRING_LITTLEzp_OUTzeTHUMBzj_INzkOUTxLITTLE_INDEXzk_THU
  MB_INDEX_THUMBzzd_OUTzfUPxMIDDLE_RING_LITTLEzq_INzrOUTxRING_DOWN_MIDDLE_THUMB_INDEX_CROSSzdLITTLEr
  CIRCLEx_INDEXze_BENTzfHINGEzfMIDDLEzl_CROSSEDzr_LITTLEzmLITTLEzmRINGzmTHUMBzfRING_LITTLEyLITTLE_IN
  DEXzgUPyMIDDLE_RING_LITTLEzr_BENTzgUPyRING_LITTLEsLAWv_FOUR_FINGERS_CONJOINEDwINDEX_THUMB_CURVE_TH
  UMB_INSIDEwMIDDLE_RING_LITTLE_CONJOINEDzz_SIDEwNO_THUMBwTHUMB_FORWARDzdSIDEsUPu_FIVE_FINGERS_SPREA
  Dzp_OPENvINDEXzb_RING_LITTLEzcTHUMBzh_OPENvMIDDLE_RING_LITTLEvNO_THUMBvOPENz_NO_THUMBzbTHUMB_FORWA
  RDzhSIDEvTHUMB_FORWARDzcSIDEtRLICUEz_INDEX_RING_LITTLE_ONzbMIDDLE_RING_LITTLE_ONzbOPENrFISTv_FOUR_
  FINGERS_CONJOINED_BENTwHEELwINDEXzc_BENTzh_OVER_MIDDLEzdCUPPEDzdHINGEDzj_LOWzkMIDDLE_UPzt_THUMB_SI
  DEzdMIDDLEzj_BENTzo_THUMB_STRAIGHTzkCONJOINEDzt_CUPPEDzzb_THUMB_FORWARDzuHINGEDzzb_THUMB_SIDEzuIND
  EX_BENTzuMIDDLE_BENTzuTHUMB_FORWARDzzbSIDEzzf_BENTzzgCONJOINEDzlROSSEDzr_THUMB_SIDEzp_LITTLEzkHING
  EDzq_SPREAD_THUMB_SIDEzkLITTLEzkRAISED_KNUCKLESzlINGzo_BENTzpCONJOINEDzkSTRAIGHT_THUMB_BENTzkTHUMB
  zp_ANGLEDzw_OUTzqBENTzqCIRCLEDzrONJOINED_HINGEDzrUPPEDzqHINGEDzrOOKEDzkUP_SPREAD_THUMB_FORWARDzdRA
  ISED_KNUCKLEzeING_LITTLEzdTHUMB_ANGLED_IN_MIDDLE_UPzqOUT_MIDDLE_UPzjCIRCLEzpD_MIDDLE_UPzkUPPED_MID
  DLE_UPzlRLICUEzmVE_THUMB_INSIDEzvUNDERzjFORWARD_INDEX_BENTzxSTRAIGHTzjHOOKznED_MIDDLE_HINGEDzxUPzj
  SIDEzn_BOTH_BENTzoINDEX_BENTzuHINGEzoTHUMB_BENTzuCONJOINEDzuDIAGONALzdUP_MIDDLE_HINGEDzt_THUMB_CON
  JOINEDzzbSIDEwLITTLE_BENTzeDOWNzi_OTHERS_CIRCLEDzjRIPPLE_CURVEDzqSTRAIGHTzeINDEXzj_THUMBzeRAISED_K
  NUCKLEzeTHUMBzfOUCHES_THUMBzeUPwMIDDLE_BENT_OVER_INDEXzeDOWNzeLITTLEzeRAISED_KNUCKLEzfING_LITTLEze
  THUMB_ANGLED_INDEX_UPzrOUT_INDEX_CROSSEDzzcUPzkCIRCLED_INDEX_HINGEDzyUPzlUPPED_INDEX_UPzkHOOKED_IN
  DEX_UPzkLITTLEzeUPzg_THUMB_SIDEwRING_DOWNzcINDEXzcLITTLEzcMIDDLEzi_CONJOINEDzjRAISED_KNUCKLESzcRAI
  SED_KNUCKLEzcTHUMBzcUPwTHUMBzc_BETWEEN_INDEX_MIDDLEzx_STRAIGHTzlMIDDLE_RINGzlRING_LITTLEzdFORWARDz
  dHEELzdOVER_FOUR_RAISED_KNUCKLESziTWO_FINGERSzdSIDE_BENTziCONJOINEDziDIAGONALzdUNDER_FOUR_FINGERSz
  jINDEX_BENTzjLITTLE_UPzjTHREE_FINGERSzkWO_FINGERSsLATv_BETWEEN_PALM_FACINGSwFIVE_FINGERS_SPREADzq_
  BENTzrFOUR_BENTzrHINGEDzx_NO_THUMBzyTHUMB_SIDEzrTHUMB_FORWARDxOUR_FINGERSzj_BENTzkCONJOINEDzt_SPLI
  TzkHINGEDwHEELzb_FIVE_FINGERS_SPREADzv_BENTzwFOUR_BENTzcTHUMB_SIDEwSPLIT_CENTREzj_THUMB_SIDEzu_BEN
  TzdINDEX_THUMB_SIDEzdLITTLEwTHUMB_BENTzdFORWARDzdSIDErHINGEw_FIVE_FINGERS_SPREAD_OPENyOUR_FINGERS_
  CONJOINEDxINDEXzd_HINGEDzeMIDDLE_LITTLEzlRINGzp_CONJOINEDzeRING_LITTLEzeTHUMBzj_LARGEzkOPENzkSIDEz
  lMALLxLITTLEze_INDEXzk_THUMBzfTHUMBxMIDDLEze_RING_LITTLExNO_THUMBxOPENzc_NO_THUMBzdTHUMB_FORWARDzj
  SIDExRINGzc_DOWN_INDEX_THUMB_HOOK_MIDDLExSMALLxTHUMB_BETWEEN_MIDDLE_RINGzeSIDEzi_TOUCHING_INDEXsOO
  Kv_CURLICUEwINDEX_RING_LITTLE_INzpOUTzpUNDERwMIDDLE_RING_LITTLE_CONJOINEDzz_INzzbOUTzeTHUMBwRING_T
  HUMBrOVALv_FIVE_FINGERS_SPREADwINDEXwLITTLE_UPwNO_THUMBwRING_LITTLEwTHUMB_FORWARDzdSIDEnEADq_MOVEM
  ENT-FLOORPLANE_CURVEzmSTRAIGHTzbWALLPLANE_CURVEzlSTRAIGHTzlTILTz_CIRCLErRIMmLIMB_COMBINATIONrLENGT
  H-1y2y3y4y5y6y7oPS_PRESSED_TOGETHERp_LOWER_OVER_UPPERqUPPER_OVER_LOWERnOCATION-FLOORPLANE_SPACEvWA
  LLPLANE_SPACEu_DEPTHvHEAD_NECKxIGHTvLIMBS_DIGITSvTORSOvWIDTHmMOUTH_CLOSED_CONTACTzFORWARDzNEUTRALt
  ORNERSsFROWNx_OPENyWRINKLEDsKISSw_FORWARDxWRINKLEDsOPEN_CIRCLExFORWARDxOVALzc_WRINKLEDzdYAWNxRECTA
  NGLEzh_WRINKLEDziYAWNxWRINKLEDsSMILEx_OPENyWRINKLEDsTENSEx_FORWARDySUCKEDsWRINKLES_DOUBLEzcSINGLEo
  VEMENT-DIAGONAL_AWAY_LARGEzpSTzkMEDIUMzkSMALLzfBETWEEN_AWAY_LARGEzxSTzsMEDIUMzsSMALLznTOWARDS_LARG
  EzzbSTzvMEDIUMzvSMALLzfTOWARDS_LARGEzsSTznMEDIUMznSMALLvFLOORPLANE_ARM_CIRCLE_HITTING_WALL_LARGE_D
  OUBLEzzmSINGLEzzgMEDIUM_DOUBLEzznSINGLEzzgSMALL_DOUBLEzzmSINGLEzhBENDziOX_LARGEzlMEDIUMzlSMALLzhCH
  ECKziORNER_LARGEzoMEDIUMzoSMALLziROSSziURVE_COMBINEDznHITTING_CEILING_LARGEzzeSMALLzvFLOOR_LARGEzz
  cSMALLznLARGEzsSTznMEDIUMznSMALLzhDOUBLE_ALTERNATINGzz_WRIST_FLEXzoSTRAIGHTzoWRIST_FLEXzhFINGER_CI
  RCLES_HITTING_WALL_DOUBLEzzkSINGLEzpONTACTzhHUMP_HITTING_CEILING_LARGE_DOUBLEzzjTRIPLEzzdSMALL_DOU
  BLEzzjTRIPLEzuFLOOR_LARGE_DOUBLEzzbSMALL_DOUBLEzzbTRIPLE_LARGE_TRIPLEzziSMALL_TRIPLEzmSMALLzhJAWzh
  LOOP_HITTING_CEILING_LARGE_DOUBLEzzjSINGLEzzdSMALL_DOUBLEzzjSINGLEzuFLOOR_LARGE_DOUBLEzzhSINGLEzzb
  SMALL_DOUBLEzzhSINGLEzmSMALLzhPEAKS_LARGEznMEDIUMznSMALLzhSHAKING_PARALLELziINGLE_STRAIGHT_LARGEzz
  dSTzxMEDIUMzxSMALLzoWRIST_FLEXzhTRIPLE_ALTERNATING_MOVEMENTzzbWRIST_FLEXzoSTRAIGHT_MOVEMENTzoWRIST
  _FLEXzhWAVE_HITTING_CEILING_LARGEzzdSMALLzuFLOOR_LARGEzzbSMALLzmLARGEzmSMALLznNAKEziRIST_CIRCLE_HI
  TTING_WALL_DOUBLEzziSINGLEzhZIGZAG_LARGEzoMEDIUMzoSMALLvHINGE_DOWN_SEQUENTIALzcSIDE_TO_SIDE_SCISSO
  RSzcUP_DOWN_ALTERNATING_LARGEzwSMALLzkLARGEzkSMALLzfSEQUENTIALvWALLPLANE_ARM_CIRCLE_MEDIUM_DOUBLEz
  ySINGLEzrSMALL_DOUBLEzxSINGLEzgBEND_LARGEzlMEDIUMzlSMALLzhOX_LARGEzkMEDIUMzkSMALLzgCHECK_LARGEzmME
  DIUMzmSMALLzhORNER_LARGEznMEDIUMznROTATIONznSMALLzhROSSzhURVED_CROSS_MEDIUMztSMALLzl_HALF-CIRCLE_L
  ARGEzzeSTzyMEDIUMzySMALLznITTING_CHESTzuFRONT_WALLzmQUARTER_LARGEzzSTzuMEDIUMzuSMALLzmTHEN_STRAIGH
  TzoREE-QUARTER_CIRCLE_MEDIUMzziSMALLzgDOUBLE_ALTERNATINGzy_WRIST_FLEXznSTRAIGHTznWRIST_FLEXzgFINGE
  R_CIRCLES_DOUBLEzvSINGLEzoONTACTzgHUMP_HITTING_CHESTztFRONT_WALLzlLARGEzlMEDIUMzlSMALLzgJAWzgLOOP_
  HITTING_CHESTztFRONT_WALLzlLARGEzlMEDIUMzlSMALLzq_DOUBLEzgPEAKS_LARGEzmMEDIUMzmSMALLzgSHAKINGzhING
  LE_STRAIGHT_LARGEzzcSTzwMEDIUMzwSMALLznWRIST_FLEXzgTRIPLE_ALTERNATINGzy_WRIST_FLEXznSTRAIGHT_MOVEM
  ENTznWRIST_FLEXzgWAVE_CURVE_DOUBLE_LARGEzyMEDIUMzySMALLzrTRIPLE_LARGEzyMEDIUMzySMALLzlDIAGONAL_PAT
  H_LARGEzzMEDIUMzzSMALLzlHITTING_CHESTztFRONT_WALLzhRIST_CIRCLE_FRONT_DOUBLEzzSINGLEzgZIGZAG_LARGEz
  nMEDIUMznSMALLmNECKnOSE_CONTACTrNEUTRALrWIGGLESsRINKLESmPARENTHESISmROTATION-FLOORPLANE_ALTERNATIN
  Gzs_HITTING_CEILINGzzcFLOORzhDOUBLEzn_HITTING_CEILINGzwFLOORzhSINGLEzn_HITTING_CEILINGzwFLOORvWALL
  PLANE_ALTERNATEzoING_HITTING_CHESTzzbFRONT_WALLzgDOUBLEzm_HITTING_CHESTzvFRONT_WALLzgSINGLEzm_HITT
  ING_CHESTzvFRONT_WALLu_MODIFIER-10zg1zg2zg3zg4zg5zg6zf2zf3zf4zf5zf6zf7zf8zf9nUB_BETWEENqMULTIPLEqS
  INGLEmSEMICOLONnHOULDER_HIP_POSITIONSzSPINEvTILTING_FROM_WAISTnQUEEZE_FLICK_ALTERNATINGuLARGE_MULT
  IPLEzbSINGLEuSEQUENTIALvMALL_MULTIPLEzbSINGLEnTRIKE_BETWEENtMULTIPLEtSINGLEnURFACE_BETWEENuSYMBOLS
  mTEETHr_BITE_LIPSsMOVEMENTsON_LIPSz_MOVEMENTvTONGUEzc_MOVEMENToNSE_CHEEKS_HIGHzLOWzMIDDLEnONGUE_CE
  NTRE_INSIDE_MOUTHzbSTICKING_OUTtINSIDE_MOUTH_RELAXEDtLICKING_LIPStMOVES_AGAINST_CHEEKtSTICKING_OUT
  _FARtTIP_BETWEEN_LIPSxTOUCHING_INSIDE_MOUTHoRSO-FLOORPLANE_TWISTINGsWALLPLANE_CURVED_BENDzdSTRAIGH
  T_STRETCHoUCH_BETWEENsMULTIPLEsSINGLEnRAVEL-FLOORPLANE_ROTATION-FLOORPLANE_ALTERNATINGzzDOUBLEzzSI
  NGLEzoWALLPLANE_ALTERNATINGzyDOUBLEzySINGLEzfSHAKINGtWALLPLANE_ARM_SPIRAL_DOUBLEzpSINGLEzpTRIPLEze
  ROTATION-FLOORPLANE_ALTERNATINGzyDOUBLEzySINGLEznWALLPLANE_ALTERNATINGzxDOUBLEzxSINGLEzeSHAKINGmUP
  PER_BODY_TILTING_FROM_HIP_JOINTSmWALLPLANE_SHOULDER_HIP_MOVEe_OF_THE_HORNScLHOUETTE_OF_JAPANcMILAR
  _ABOVE_GREATER-THAN_ABOVE_EQUALS_SIGNoLESS-THAN_ABOVE_EQUALS_SIGNiMINUS_SIMILARiOR_GREATER-THANlLE
  SS-THANcNE_WAVEdGLE-SHIFT-2n3g_CHARACTER_INTRODUCERhGRAPHIC_CHARACTER_INTRODUCERhHIGH-REVERSED-9_Q
  UOTATION_MARKhLEFT-POINTING_ANGLE_QUOTATION_MARKiOW-9_QUOTATION_MARKhRIGHT-POINTING_ANGLE_QUOTATIO
  N_MARKhSHIFT_THREEoWOdHALA_ARCHAIC_DIGIT_EIGHTwFIVExOURwNINEwONEwSEVENxIXwTHREExWOqNUMBER_EIGHTYxF
  IFTYyORTYxNINETYxONE_HUNDREDzcTHOUSANDxSEVENTYyIXTYxTENyHIRTYyWENTYiLETTER_AAYANNAqEEYANNArYANNAqI
  YANNAqLPAPRAANA_BAYANNAzbCAYANNAzbDAYANNAzcDAYANNAzbGAYANNAzbJAYANNAzbKAYANNAzbPAYANNAzbTAYANNAzcT
  AYANNAqMBA_BAYANNAqUYANNAqYANNApDANTAJA_LAYANNAxNAYANNAxSAYANNApEEYANNAqYANNApFAYANNApHAYANNApIIYA
  NNAqLUUYANNAsYANNAqRUUYANNAsYANNAqYANNApKANTAJA_NAASIKYAYApMAHAAPRAANA_BAYANNAzcCAYANNAzcDAYANNAzd
  DAYANNAzcGAYANNAzcJAYANNAzcKAYANNAzcPAYANNAzcTAYANNAzdTAYANNArYANNAqUURDHAJA_LAYANNAzNAYANNAzSAYAN
  NApOOYANNAqYANNApRAYANNApSANYAKA_DAYANNAyDAYANNAxGAYANNAxJAYANNApTAALUJA_NAASIKYAYAxSANYOOGA_NAAKS
  IKYAYAzYANNApUUYANNAqYANNApVAYANNApYAYANNAjITH_DIGIT_EIGHTtFIVEuOURtNINEtONEtSEVENuIXtTHREEuWOtZER
  OiPUNCTUATION_KUNDDALIYAiSIGN_AL-LAKUNAoNUSVARAYAnCANDRABINDUnVISARGAYAiVOWEL_SIGN_AELA-PILLAtDIGA
  _AEDA-PILLAyGAETTA-PILLAzbYANUKITTAyIS-PILLAyKOMBUVAyPAA-PILLAtGAETTA-PILLAvYANUKITTAtKETTI_AEDA-P
  ILLAzIS-PILLAzPAA-PILLAuOMBUVAzb_HAA_AELA-PILLAzgDIGA_AELA-PILLAzgGAYANUKITTAy_DEKAcX-PER-EM_SPACE
  dTEEN_POINTED_ASTERISKd_PETALLED_BLACK_AND_WHITE_FLORETTEfOINTED_BLACK_STARmPINWHEEL_STARmSTAR_WIT
  H_MIDDLE_DOTbKATEBOARDcIERd_AND_SKI_BOOTcULLf_AND_CROSSBONESdNKbLANTED_EQUAL_TO_OR_GREATER-THANzh_
  WITH_DOT_INSIDEuLESS-THANze_WITH_DOT_INSIDEiNORTH_ARROW_WITH_HOOKED_HEADzcRIZONTAL_TAILdVONIC_ASTE
  RISKcEDdEPING_ACCOMMODATIONjFACEjSYMBOLfY_FACEdUTH_OR_SPYcICE_OF_PIZZAdGHTLY_FROWNING_FACEjSMILING
  _FACEcOPEeING_LARGE_ANDoORdTHe_MACHINEbMALLER_THANm_OR_EQUAL_TOf_AIRPLANEhMPERSANDhSTERISKgBLUE_DI
  AMONDgCOLONiMMAkERCIAL_ATiNTAINS_AS_MEMBERpWITH_OVERBARuVERTICAL_BAR_AT_END_OF_HORIZONTAL_STROKEgD
  OLLAR_SIGNgELEMENT_OFq_WITH_OVERBARwVERTICAL_BAR_AT_END_OF_HORIZONTAL_STROKEhM_DASHhQUALS_SIGNhXCL
  AMATION_MARKgFULL_STOPgGREATER-THAN_SIGNgHYPHEN-MINUSgIDEOGRAPHIC_COMMAgLEFT_CURLY_BRACKETlPARENTH
  ESISlTORTOISE_SHELL_BRACKETiSS-THAN_SIGNgNUMBER_SIGNgORANGE_DIAMONDgPERCENT_SIGNhLUS_SIGNgQUESTION
  _MARKgREVERSE_SOLIDUShIGHT_CURLY_BRACKETmPARENTHESISmTORTOISE_SHELL_BRACKEThOMAN_NUMERAL_EIGHTvLEV
  ENuFIFTYwVEy_HUNDREDvOURuNINEuONEx_HUNDREDyTHOUSANDuSEVENvIXuTENvHREEvWELVEwOgSEMICOLONgTILDEhWO_D
  OTS_OVER_ONE_DOT_PUNCTUATIONgVEE_WITH_UNDERBARdSH_PRODUCTcILEeING_CAT_FACE_WITH_HEART-SHAPED_EYESw
  OPEN_MOUTHiFACE_WITH_HALOtEART-SHAPED_EYEStORNSsOPEN_MOUTHzd_AND_COLD_SWEATziSMILING_EYESziTIGHTLY
  -CLOSED_EYESsSMILING_EYESzf_AND_HAND_COVERING_MOUTHzkTHREE_HEARTStUNGLASSESsTEARdRKING_FACEcOKING_
  SYMBOLbNAILdKEcEEZING_FACEcOWBOARDEReFLAKEeMANh_WITHOUT_SNOWe_CAPPED_MOUNTAINbOcCCER_BALLdKScFTBAL
  LeWARE-FUNCTION_SYMBOLe_HYPHENfICE_CREAMfSHELL_FLOPPY_DISKcGDIAN_COMBINING_CURVE_ABOVEyBELOWsDOT_A
  BOVEwBELOWsHOOK_ABOVExBELOWsLONG_HOOK_BELOWsRESH_BELOWsSTROKE_BELOWsTWO_DOTS_ABOVEzcBELOWiINDEPEND
  ENT_SHINiLETTER_ALEPHqYINpBETHpFETHpGIMELpHErTHpKAPHpLAMEDHqESHpMEMpNUNpPEpRESH-AYINpSADHErMEKHqHI
  NpTAWpWAWpYODHpZAYINiNUMBER_ONEs_HUNDREDpTENqWENTYiPUNCTUATION_CIRCLE_WITH_DOTuHALF_CIRCLE_WITH_DO
  TuTWO_CIRCLES_WITH_DOTSyVERTICAL_BARSzm_WITH_DOTScHcLIDUSh_WITH_OVERBARf_QUILT_SQUARE_ORNAMENTzc_I
  N_BLACK_SQUAREcM_SIGNcON_WITH_RIGHTWARDS_ARROW_ABOVEcRA_SOMPENG_DIGIT_EIGHTtFIVEuOURtNINEtONEtSEVE
  NuIXtTHREEuWOtZEROnLETTER_AHuBAHuCAHuDAHuEEHvHuGAHuHAHuIHuJAHuKAHuLAHuMAEwHuNAHvGAHvYAHuOHuPAHuRAH
  uSAHuTAHuUHuVAHuYAHcScUND_RECORDING_COPYRIGHTdTH_EAST_ARROWq_AND_SOUTH_WEST_ARROWrCROSSING_NORTH_E
  AST_ARROWrTO_CORNERrWITH_HOOKlBLACK_ARROWlDOUBLE_ARROWlPOINTING_BUDuLEAFuVINE_LEAFlSANS-SERIF_ARRO
  WlTRIANGLE-HEADED_ARROWzh_TO_BARlWHITE_ARROWgWEST_ARROWq_AND_NORTH_WEST_ARROWrWITH_HOOKlBLACK_ARRO
  WlDOUBLE_ARROWlPOINTING_BUDuLEAFuVINE_LEAFlSANS-SERIF_ARROWlTRIANGLE-HEADED_ARROWzh_TO_BARlWHITE_A
  RROWcYOMBO_CLUSTER-INITIAL_LETTER_LAzgRAzgSAzhHAiFINAL_CONSONANT_SIGN_-AzeBzeDzeGzeKzeLzeMzeNzfGze
  RzeSzfHiGEMINATION_MARKiHEAD_MARK_WITH_MOON_AND_SUNzk_AND_FLAMEzpTRIPLE_FLAMEiLETTER_-ApApBAqHApCA
  qHApDAqDArHAqHAqZApGAqHApHApJAqHApKAqHAqSSApLApMApNAqGAqNAqYApPAqHApRApSAqHAqSApTAqHAqSArHAqTArHAp
  VApYApZAqHAiMARK_DOUBLE_SHADnPLUTAnSHADnTSHEGiSIGN_ANUSVARAnJIHVAMULIYAnUPADHMANIYAnVISARGAjUBJOIN
  ERiTERMINAL_MARK-1w2iVOWEL_LENGTH_MARKoSIGN_AIuUtEtItOuEtUuEtVOCALIC_LzcRbPcAdCEdGHETTIdRKLEhSgING
  _HEARTcEAK-NO-EVIL_MONKEYfERh_WITH_CANCELLATION_STROKEnONE_SOUND_WAVEnTHREE_SOUND_WAVESfING_HEAD_I
  N_SILHOUETTEdECH_BALLOONeDBOATdSMILO_SIGNcHERICAL_ANGLEp_OPENING_LEFTyUPcIDERg_WEBdRAL_CALENDAR_PA
  DhNOTE_PADhSHELLcLASHING_SWEAT_SYMBOLcONGEdOL_OF_THREADeNdRTS_MEDALdUTING_WHALEbQUARED_ASTERISKiCJ
  K_UNIFIED_IDEOGRAPH-4E00zi9zh2Dzh8CzhA4zf518Dzg21Dzh4Dzh72zg3CCzhF3zg408zh39zg5B6zg8F0zg91Azh29zgB
  57zgDE6zgF8Czf624Bzh53zh95zg307zh55zg599zhB0zg620zg708zi9zgE80zgF14zf7121zg51Fzh33zg981zgA7AzgD42z
  f89E3zgCA9zgD70zf904Azg14DjLjOOLiDOT_OPERATORiEIGHT_KiFALLING_DIAGONAL_SLASHjIVE_POINT_ONEjOUR_DOT
  _PUNCTUATIONnKjREEiHCjDRjI-RESjViIDiKATAKANA_DErKOKOrSAjEYiLATIN_CAPITAL_LETTER_AzeBzeCzeDzeEzeFze
  GzeHzeIzeJzeKzeLzeMzeNzeOzePzeQzeRzeSzeTzeUzeVzeWzeXzeYzeZoSMALL_LETTER_DjOGICAL_ANDqORkSSLESSiMIN
  USjViNEWjGiOKjNE_HUNDRED_TWENTY_PiPLUSjPViRISING_DIAGONAL_SLASHiSALTIREjDjECOND_SCREENkVEN_POINT_O
  NEjHVjIXTY_PjMALL_CIRCLEjOSjQUAREjSiTHREE_DjIMESjWENTY-TWO_POINT_TWOkO_KiUHDjP_WITH_EXCLAMATION_MA
  RKiVODjSiWCg_AARUiMiNPEAiPAATOiRUHUAiUi_OVER_MhBAARERUjRiEETAiIRUiORUTOiQiUSSYERUhCALjPiCiDiMj_CUB
  EDkSQUAREDiOjRPORATIONiUPi_OVER_KGhDAjASUiBiESIiJiLiMj_CUBEDkSQUAREDiORUhEEKAAiRA_NAME_HEISEIqMEIZ
  IqREIWAqSYOUWAqTAISYOUjGiSUKUUDOiVhFMiOOTjUR_CORNERShGALjNMAjRONiBiHZiIGAjNIIjRUDAAiPAiURAMUnTONiY
  hHAjITUiEKUTAARUjRUTUiGiIRAGANA_HOKAiONjONkRUiPjAiUARADDOjIITOjRANiZhIMAGE_OFp_OR_EQUAL_TOtNOT_EQU
  AL_TOiNjINGUjTIiUhKAjIRIjRATTOkORIIiBiCALiEESUiGiHZiIROlGURAMUlMEETORUlWATTOiKiLiMj_CAPITALlUBEDkS
  QUAREDiOOPOjRUNAiPAiTiUROONEkUZEIROiViWiYURIIi_OHMhLEFT_OPEN_BOX_OPERATORiMiNiOGjZENGEiXhMAjHHAjIK
  UROkRUjNSYONjRUKUiBj_SMALLiEETORUjGAlTONiGiHZiIKURONjLjRIlBAARUiLiMj_CUBEDkSQUAREDiOLiPAiSiU_AkFkG
  kLkMkSkVkWiVj_MEGAiWj_MEGAi_CUBEDjOHMkVER_Sp_SQUAREDjSQUAREDhNAjNOiFiMiOTTOiSiViWhONSUiOMUiRIGINAL
  _OFs_OR_EQUAL_TOwNOT_EQUAL_TOiVhPAjASENTOkTUj_AMPSiCiEEZIjNIHIkSUjSOiFiHiIASUTORUjKOkURUiMiOINTOjN
  DOjSITION_INDICATORiPMiRiSiViWhRADk_OVER_Sr_SQUAREDiEMUjNTOGENiIGHT_OPEN_BOX_OPERATORjRAjTTORUiOOT
  iUPIIjUBURUhSAIKURUjNTIIMUiENTIlOiIRINGUiRiVhTARGETiHZiONhUONhV_OVER_MhWATTOiBiITH_BOTTOM_HALF_BLA
  CKmCONTOURED_OUTLINEmDIAGONAL_CROSSHATCH_FILLmHORIZONTAL_FILLmLEFT_HALF_BLACKnOWER_LEFT_DIAGONAL_H
  ALF_BLACKsRIGHT_DIAGONAL_HALF_BLACKmORTHOGONAL_CROSSHATCH_FILLmRIGHT_HALF_BLACKmTOP_HALF_BLACKmUPP
  ER_LEFT_DIAGONAL_HALF_BLACKxTO_LOWER_RIGHT_FILLsRIGHT_DIAGONAL_HALF_BLACKyTO_LOWER_LEFT_FILLmVERTI
  CAL_FILLhYAADOkRUiUANeT_BLACK_RIGHTWARDS_ARROWdIDbS2c3cAbTcADIUMdFF_OF_AESCULAPIUSjHERMESdMPED_ENV
  ELOPEdNDING_PERSONdRT_OF_GUARDED_AREAjHEADINGjPROTECTED_AREAjSELECTED_AREAkTRINGjTEXTe_AND_CRESCEN
  TfEQUALSfOF_DAVIDgPERATORfWITH_LEFT_HALF_BLACKkRIGHT_HALF_BLACKdTIONeUE_OF_LIBERTYcEAMING_BOWLf_LO
  COMOTIVEdNOGRAPHIC_FULL_STOPdTHOSCOPEcICK_FIGUREm_LEANING_LEFTvRIGHTnWITH_ARMS_RAISEDsDRESScOCK_CH
  ARTdPWATCHcRAIGHTNESSi_RULEReWBERRYdESS_OUTLINED_WHITE_STARdICTLY_EQUIVALENT_TOeNG_TERMINATORcScUD
  IO_MICROPHONEdFFED_FLATBREADdPAcXbUBdSCRIPT_EIGHTlQUALS_SIGNkFIVElOURkLEFT_PARENTHESISkMINUSkNINEk
  ONEkPLUS_SIGNkRIGHT_PARENTHESISkSEVENlIXkTHREElWOkZEROeET_ABOVE_RIGHTWARDS_ARROWnSUBSETpPERSEThOFj
  _ABOVE_ALMOST_EQUAL_TOqEQUALS_SIGNqNOT_EQUAL_TOqTILDE_OPERATORkOR_EQUAL_TOv_WITH_DOT_ABOVEkWITH_NO
  T_EQUAL_TOhWITH_DOTmMULTIPLICATION_SIGN_BELOWmPLUS_SIGN_BELOWeTITUTEcCCEEDSi_ABOVE_ALMOST_EQUAL_TO
  pEQUALS_SIGNpNOT_ALMOST_EQUAL_TOtEQUAL_TOpSINGLE-LINE_EQUALS_SIGNzcNOT_EQUAL_TOjBUT_NOT_EQUIVALENT
  _TOjOR_EQUAL_TOpIVALENT_TOjUNDER_RELATIONcMMATION_BOTTOMkTOPkWITH_INTEGRALcNdDANESE_AVAGRAHAkCONSO
  NANT_SIGN_PAMINGKALzcNYAKRAzeIKUzcSANGAN_MAzjWAkDIGIT_EIGHTqFIVErOURqNINEqONEqSEVENrIXqTHREErWOqZE
  ROkLETTER_AsErBAsHArCArDArEsUrFAsINAL_KxMrGArHArIrJArKAsHArLAsEUrMArNAsGAsYArOrPArQArRAsEUrSAsYArT
  ArUrVArWArXArYArZAkPUNCTUATION_BINDU_BA_SATANGAzdCAKRAzdDA_SATANGAzdKA_SATANGAzdLEU_SATANGAzdPANGL
  ONGzeURNAMAzdSURYAkSIGN_PAMAAEHrNGLAYARtWISADsYECEKpVIRAMAkVOWEL_SIGN_PAMEPETxNAELAENGyEULEUNGyGHU
  LUyOLONGyYUKUdFLOWERdRISEh_OVER_MOUNTAINSdSET_OVER_BUILDINGSd_BEHIND_CLOUDeWITH_FACEcPERHEROfSCRIP
  T_EIGHTnQUALS_SIGNmFIVEnOURmLATIN_SMALL_LETTER_IzgNnEFT_PARENTHESISmMINUSmNINEmONEmPLUS_SIGNmRIGHT
  _PARENTHESISmSEVENnIXmTHREEnWOmZEROgET_ABOVE_LEFTWARDS_ARROWpSUBSETrPERSETjBESIDE_AND_JOINED_BY_DA
  SH_WITH_SUBSETqSUBSETjOFl_ABOVE_ALMOST_EQUAL_TOsEQUALS_SIGNsNOT_EQUAL_TOsTILDE_OPERATORmOR_EQUAL_T
  Ox_WITH_DOT_ABOVEmWITH_NOT_EQUAL_TOjPRECEDING_SOLIDUSjWITH_DOToMULTIPLICATION_SIGN_BELOWoPLUS_SIGN
  _BELOWfVILLAINcRFACE_INTEGRALeERcSHIdPENSION_RAILWAYbWANdSH_AMPERSAND_ORNAMENTcIMMERcUNG_DASHbYLOT
  I_NAGRI_LETTER_AuBHOvOuCHOvOuDDHOwOvHOvOuEuGHOvOuHOuIuJHOvOuKHOvOuLOuMOuNOuOuPHOvOuROvROuSOuTHOvOv
  THOwOuUnPOETRY_MARK-1z2z3z4nSIGN_ALTERNATE_HASANTAtNUSVARAsDVISVARAsHASANTAnVOWEL_SIGN_AyEyIyOOyUc
  MBOL_FOR_ACKNOWLEDGElBACKSPACEmELLlCANCELnRRIAGE_RETURNlDATA_LINK_ESCAPEmELETEr_FORM_TWOnVICE_CONT
  ROL_FOURzbONEzbTHREEzcWOlEND_OF_MEDIUMsTEXTtRANSMISSIONzf_BLOCKnQUIRYmSCAPElFILE_SEPARATORmORM_FEE
  DlGROUP_SEPARATORlHORIZONTAL_TABULATIONlLINE_FEEDlMARKS_CHAPTERlNEGATIVE_ACKNOWLEDGEnWLINEmULLlREC
  ORD_SEPARATORlSAMARITAN_SOURCEmHIFT_INrOUTmPACEmTART_OF_HEADINGuTEXTmUBSTITUTEv_FORM_TWOmYNCHRONOU
  S_IDLElTYPE_A_ELECTRONICSlUNIT_SEPARATORlVERTICAL_TABULATIONdMETRYcNdAGOGUEdCHRONOUS_IDLEcRIAC_ABB
  REVIATION_MARKhBARREKHhCOLON_SKEWED_LEFTuRIGHTjNTRACTIONhDOTTED_ZLAMA_ANGULARuHORIZONTALhEND_OF_PA
  RAGRAPHiSASA_ABOVEnBELOWhFEMININE_DOThHARKLEAN_ASTERISCUSqMETOBELUSqOBELUSiBASA-ESASA_DOTTEDm_ABOV
  EnBELOWiORIZONTAL_COLONhLETTER_ALAPHoBETHoDALATHpOTLESS_DALATH_RISHoEoFINAL_SEMKATHoGAMALt_GARSHUN
  IoHEqTHoKAPHoLAMADHoMALAYALAM_BHAyJAyLLAzbLAyNGAzNAzbNAzYAyRAySSAyTTApIMoNUNoPEqRSIAN_BHETHwDHALAT
  HwGHAMALoQAPHoREVERSED_PEpISHoSADHEpEMKATHpHINpOGDIAN_FEwKHAPHwZHAINpUPERSCRIPT_ALAPHoTAWpETHs_GAR
  SHUNIoWAWoYUDHs_HEoZAINhMUSIChOBLIQUE_LINE_ABOVEuBELOWhPTHAHA_ABOVEoBELOWoDOTTEDhQUSHSHAYAhRBASA_A
  BOVEnBELOWiUKKAKHAiWAHAhSUBLINEAR_COLONw_SKEWED_LEFTzfRIGHTrFULL_STOPjPRALINEAR_COLONy_SKEWED_LEFT
  tFULL_STOPhTHREE_DOTS_ABOVEsBELOWiWO_VERTICAL_DOTS_ABOVEzBELOWhZQAPHA_ABOVEoBELOWoDOTTEDeNGEb_IN_T
  RIANGLEaT-REXcSHIRTbABdLE_TENNIS_PADDLE_AND_BALLcCOcGALOG_LETTER_AqRCHAIC_RApBApDApGApHApIpKApLApM
  ApNAqGApPApRApSApTApUpWApYAiSIGN_PAMUDPODnVIRAMAiVOWEL_SIGN_ItUdBANWA_LETTER_AqBAqDAqGAqIqKAqLAqMA
  qNArGAqPAqSAqTAqUqWAqYAjVOWEL_SIGN_IuUd_AMPERSANDfPOSTROPHEfSTERISKeCIRCUMFLEX_ACCENTfOLONgMMAiERC
  IAL_ATeDIGIT_EIGHTkFIVElOURkNINEkONEkSEVENlIXkTHREElWOkZEROfOLLAR_SIGNeEQUALS_SIGNfXCLAMATION_MARK
  eFULL_STOP"

/-- The eighth part of the names. -/
def eighthNames : String := "aTAG_GRAVE_ACCENTgEATER-THAN_SIGNeHYPHEN-MINUSeLATIN_CAPITAL_LETTER_AzB
  zCzDzEzFzGzHzIzJzKzLzMzNzOzPzQzRzSzTzUzVzWzXzYzZkSMALL_LETTER_AxBxCxDxExFxGxHxIxJxKxLxMxNxOxPxQxRx
  SxTxUxVxWxXxYxZfEFT_CURLY_BRACKETjPARENTHESISjSQUARE_BRACKETgSS-THAN_SIGNfOW_LINEeNUMBER_SIGNePERC
  ENT_SIGNfLUS_SIGNeQUESTION_MARKgOTATION_MARKeREVERSE_SOLIDUSfIGHT_CURLY_BRACKETkPARENTHESISkSQUARE
  _BRACKETeSEMICOLONfOLIDUSfPACEeTILDEeVERTICAL_LINEcI_LE_LETTER_ApIpUEoEpEpHoFAoHAoIoKApHAoLAoMAoNA
  pGAoOpOoPApHAoQAoSAoTApHApONE-2t3t4t5t6pSAqHAoUpEoVAoXAoYAeTHAM_COMBINING_CRYPTOGRAMMIC_DOTlNSONAN
  T_SIGN_BAyFINAL_NGAyHIGH_RATHA_OR_LOW_PAyLA_TANG_LAIzOW_PAyMAzEDIAL_LAzgRAySAjHORA_DIGIT_EIGHTuFIV
  EvOURuNINEuONEuSEVENvIXuTHREEvWOuZEROjLETTER_AqBAqDAqEEqGREAT_SAqHIGH_CAwHAvFAvHAvKAwHAwXAvPAwHAvR
  ATHAvSAwHAwSAvTAwHAvYAqIrIqLAsErLArOW_CAvHAuFAuHAuKAvHAvXAuPAvHAuRATHAuSAuTAvHAuYArUEqMAqNArGArYAq
  OOqRAsNAsTArUEqUrUqWAjSIGN_CAANGoDOKMAIoHANGpOYoKAANsKUUpEOWpHUEN-LUE_KARANt_TONE-3z4z5oMAI_KANGw_
  LAIsSAMsYAMOKoRA_HAAMpEVERSED_ROTATED_RANAoSAKOTqTKAANvKUUqWANoTONE-1t2oWIANGtWAAKjTHAM_DIGIT_EIGH
  TuFIVEvOURuNINEuONEuSEVENvIXuTHREEvWOuZEROjVOWEL_SIGN_AvAvEvIuEuIvIuMAI_SATuOvA_ABOVExBELOWvOvYuTA
  LL_AAvHAM_AIuUvEvUwEeVIET_LETTER_HIGH_BOvCHOwOvDOvFOvGOvHOvKHHOxOwOvLOvMOvNGOwOwYOvOvPHOwOvROvSOvT
  HOwOvVOvYOqLOW_BOuCHOvOuDOuFOuGOuHOuKHHOwOvOuLOuMOuNGOvOvYOuOuPHOvOuROuSOuTHOvOuVOuYOjMAI_KANGoHIT
  jSYMBOL_HO_HOIqKOI_KOIsNqNUENGqSAMjTONE_MAI_EKsNUENGsSONGsTHOjVOWEL_AAqMqNqUEqYpEpIqApOpUqAqErAcKE
  OUT_BOXdRI_ABBREVIATION_SIGNgDIGIT_EIGHTmFIVEnOURmNINEmONEmSEVENnIXmTHREEnWOmZEROgLETTER_AoAoIoRCH
  AIC_KHAoUnBAoHAnCAoHAnDAoDApHAoHAnEnGAoHAnHAnIoInJAoHAnKAoHAnLAnMAnNAoGAoNAoYAnOnPAoHAnRAoRAnSAoHA
  nTAoHAoTApHAnUoUnVAnYAgSIGN_ANUSVARAlNUKTAlVIRAMAnSARGAgVOWEL_SIGN_AAsIsUrErIsIrOrUsUcLLY_MARK_FIV
  ElONEcMALEdIL_AND_ODD_SIGNhS_ABOVE_SIGNhU_LENGTH_MARKgCREDIT_SIGNhURRENT_SIGNgDAY_SIGNhEBIT_SIGNhI
  GIT_EIGHTmFIVEnOURmNINEmONEmSEVENnIXmTHREEnWOmZEROhRY_CULTIVATION_SIGNgFRACTION_DOWNSCALING_FACTOR
  _KIIZHpONE_EIGHTHyIETHtFIFTHuORTIETHtHALF-1y2tONE-HUNDRED-AND-SIXTIETHtQUARTERtSIXTEENTH-1ze2xY-FO
  URTHtTENTHuHIRTY-SECONDvREE-HUNDRED-AND-TWENTIETHuWENTIETHpTHREE_EIGHTIETHSvQUARTERSvSIXTEENTHSzY-
  FOURTHSvTWENTIETHSgIN_POSSESSION_SIGNgLAND_SIGNhETTER_AoAoIoUnCAnEoEnHAnIoInJAnKAnLAoLApLAnMAnNAoG
  AoNApNAoYAnOoOnPAnRAoRAnSAoHAoSAnTAoTAnUoUnVAnYAgMONTH_SIGNgNUMBER_ONE_HUNDREDrTHOUSANDnSIGNnTENgO
  MgPUNCTUATION_END_OF_TEXTgRUPEE_SIGNgSALT_PAN_SIGNhIGN_AAZHAAKKUmNUSVARAlCEVITUlKAACUmURUNInZHIlMU
  KKURUNInTHALIYAnUVUZHAKKUlNELlPAARAMnNAMnTHAKKUmONlUZHAKKUlVAKAIYARAAnRAAKANmELImIRAMAnSARGAhPENT_
  SIGNhTARTING_FROM_SIGNgTOTAL_SIGNhRADITIONAL_CREDIT_SIGNsNUMBER_SIGNgVOWEL_SIGN_AAsIsUrEsErIsIrOsO
  rUsUgWET_CULTIVATION_SIGNgYEAR_SIGNcNABATA_TREEdGERINEeSA_DIGIT_EIGHTnFIVEoOURnNINEnONEnSEVENoIXnT
  HREEoWOnZEROhLETTER_ACpQpWCqQqXqZpXpZoBAoCApHAoDApHAoECpQpXpZoFApINAL_NGoGApHAoHApTAqTAoICpQpXpZoK
  ApHAoLApONG_UEXoMApCpQpXpZoNApGApHApYAoOCpQpXpZoPApHAoRAoSApHAqORT_AWXuUEZoTApHApSAoUCpECqQqXqZpIC
  qQqUCrQrXrZqXqZpQpXpZoVCpQpXpZoWAoXAoYAoZAeUT_COMPONENT-001t2t3t4t5t6t7t8t9s10t1t2t3t4t5t6t7t8t9s2
  0t1t2t3t4t5t6t7t8t9s30t1t2t3t4t5t6t7t8t9s40t1t2t3t4t5t6t7t8t9s50t1t2t3t4t5t6t7t8t9s60t1t2t3t4t5t6t
  7t8t9s70t1t2t3t4t5t6t7t8t9s80t1t2t3t4t5t6t7t8t9s90t1t2t3t4t5t6t7t8t9r100t1t2t3t4t5t6t7t8t9s10t1t2t
  3t4t5t6t7t8t9s20t1t2t3t4t5t6t7t8t9s30t1t2t3t4t5t6t7t8t9s40t1t2t3t4t5t6t7t8t9s50t1t2t3t4t5t6t7t8t9s
  60t1t2t3t4t5t6t7t8t9s70t1t2t3t4t5t6t7t8t9s80t1t2t3t4t5t6t7t8t9s90t1t2t3t4t5t6t7t8t9r200t1t2t3t4t5t
  6t7t8t9s10t1t2t3t4t5t6t7t8t9s20t1t2t3t4t5t6t7t8t9s30t1t2t3t4t5t6t7t8t9s40t1t2t3t4t5t6t7t8t9s50t1t2
  t3t4t5t6t7t8t9s60t1t2t3t4t5t6t7t8t9s70t1t2t3t4t5t6t7t8t9s80t1t2t3t4t5t6t7t8t9s90t1t2t3t4t5t6t7t8t9
  r300t1t2t3t4t5t6t7t8t9s10t1t2t3t4t5t6t7t8t9s20t1t2t3t4t5t6t7t8t9s30t1t2t3t4t5t6t7t8t9s40t1t2t3t4t5
  t6t7t8t9s50t1t2t3t4t5t6t7t8t9s60t1t2t3t4t5t6t7t8t9s70t1t2t3t4t5t6t7t8t9s80t1t2t3t4t5t6t7t8t9s90t1t
  2t3t4t5t6t7t8t9r400t1t2t3t4t5t6t7t8t9s10t1t2t3t4t5t6t7t8t9s20t1t2t3t4t5t6t7t8t9s30t1t2t3t4t5t6t7t8
  t9s40t1t2t3t4t5t6t7t8t9s50t1t2t3t4t5t6t7t8t9s60t1t2t3t4t5t6t7t8t9s70t1t2t3t4t5t6t7t8t9s80t1t2t3t4t
  5t6t7t8t9s90t1t2t3t4t5t6t7t8t9r500t1t2t3t4t5t6t7t8t9s10t1t2t3t4t5t6t7t8t9s20t1t2t3t4t5t6t7t8t9s30t
  1t2t3t4t5t6t7t8t9s40t1t2t3t4t5t6t7t8t9s50t1t2t3t4t5t6t7t8t9s60t1t2t3t4t5t6t7t8t9s70t1t2t3t4t5t6t7t
  8t9s80t1t2t3t4t5t6t7t8t9s90t1t2t3t4t5t6t7t8t9r600t1t2t3t4t5t6t7t8t9s10t1t2t3t4t5t6t7t8t9s20t1t2t3t
  4t5t6t7t8t9s30t1t2t3t4t5t6t7t8t9s40t1t2t3t4t5t6t7t8t9s50t1t2t3t4t5t6t7t8t9s60t1t2t3t4t5t6t7t8t9s70
  t1t2t3t4t5t6t7t8t9s80t1t2t3t4t5t6t7t8t9s90t1t2t3t4t5t6t7t8t9r700t1t2t3t4t5t6t7t8t9s10t1t2t3t4t5t6t
  7t8t9s20t1t2t3t4t5t6t7t8t9s30t1t2t3t4t5t6t7t8t9s40t1t2t3t4t5t6t7t8t9s50t1t2t3t4t5t6t7t8t9s60t1t2t3
  t4t5t6t7t8hITERATION_MARKcPE_CARTRIDGEfDRIVEcURUScXIbEACUP_WITHOUT_HANDLEdPOTdR-OFF_CALENDAReDROP-
  BARBED_RIGHTWARDS_ARROWjSPOKED_ASTERISKcDDY_BEARcLEPHONE_LOCATION_SIGNkON_TOP_OF_MODEMkRECEIVERs_W
  ITH_PAGEnORDERkSIGNeSCOPEeVISIONdUGU_AI_LENGTH_MARKhDIGIT_EIGHTnFIVEoOURnNINEnONEnSEVENoIXnTHREEoW
  OnZEROhFRACTION_DIGIT_ONE_FOR_EVEN_POWERS_OF_FOURzfODD_POWERS_OF_FOURwTHREE_FOR_EVEN_POWERS_OF_FOU
  RzhODD_POWERS_OF_FOURxWO_FOR_EVEN_POWERS_OF_FOURzfODD_POWERS_OF_FOURwZERO_FOR_ODD_POWERS_OF_FOURhL
  ENGTH_MARKjTTER_ApApIpUoBApHAoCApHAoDApDAqHApHApZAoEpEoGApHAoHAoIpIoJApHAoKApHAoLApLAqLAoMAoNAqKAA
  RA_POLLUpGApNApYAoOpOoPApHAoRApRAqRAoSApHApSAoTApHApSApTAqHAoUpUoVApOCALIC_LxLwRxRoYAhSIGN_ANUSVAR
  AnVAGRAHAmCANDRABINDUnOMBINING_ANUSVARA_ABOVEwCANDRABINDU_ABOVEmNUKTAmSIDDHAMmTUUMUmVIRAMAoSARGAhV
  OWEL_SIGN_AAtItUsEtEsItIsOtOsUtUsVOCALIC_LzcLzbRzcRcNGE_SIGNdNIS_RACQUET_AND_BALLdTcST_TUBEcTRAGRA
  M_FOR_ACCUMULATIONpDVANCEpGGRAVATIONpSCENToBARRIERpOLD_RESOLUTIONpRANCHING_OUToCENTREpHANGEpLOSED_
  MOUTHtNESSsUREpOMPLETIONtIANCEqNSTANCYrTACTsENTIONsRARIETYoDARKENINGpECISIVENESSqFECTIVENESS_OR_DI
  STORTIONqPARTUREpIFFICULTIESqMINISHMENTrMINGqVERGENCEpOUBTpUTIESoEASEpMBELLISHMENTpNCOUNTERSqDEAVO
  URqLARGEMENTpTERNITYpXHAUSTIONoFAILUREpLIGHTpOLLOWINGqSTERINGpULLNESSs_CIRCLEoGATHERINGx_INpOING_T
  O_MEETpREATNESSpUARDEDNESSoHARDNESSpOLDING_BACKoINCREASEqNERoJOYoKEEPING_SMALLpINSHIPoLABOURINGqW_
  OR_MODELpEGIONoMASSINGpEASUREpIREDoON_THE_VERGEpPPOSITIONoPACKINGqTTERNpENETRATIONpURITYoREACHqLEA
  SEqSIDENCEsSTANCErPONSEpITUALoSEVERANCEpINKINGpTOPPAGErVEqRENGTHoUNITYoVASTNESS_OR_WASTINGoWAITING
  qTCHoYOUTHFULNESSbHAANA_AABAAFILIiBAFILIhEBEFILIiEBEEFILIiYBEYFILIhIBIFILIhLETTER_AINUpLIFUoBAAoCH
  AVIYANIoDAADHUqVIYANIpHAALUoFAAFUoGAAFUpHAINUpNAVIYANIoHAApHAAoJAVIYANIoKAAFUpHAAoLAAMUpHAVIYANIoM
  EEMUoNAApOONUoPAVIYANIoQAAFUoRAAoSAADHUpEENUpHAVIYANIqEENUoTAVIYANIpHAAsLUpOpTAAoVAAVUoWAAVUoYAAoZ
  AAqVIYANIpOhOABOAFILIiBOFILIiOBOOFILIhSUKUNhUBUFILIdI_CHARACTER_ANGKHANKHUpBO_BAIMAIpCHO_CHANxGvIN
  GvOEpDO_CHADAsDEKpFONGMANr_FAuNpHO_HIPsNOKHUKpKHOMUTs_KHAIvONvUATvWAItRAKHANGqO_KAIpLAKKHANGYAOqO_
  CHULAsLINGqUpMAITAIKHUsYAMOKs_CHATTAWAtEKtHAN-AKATtTHOuRIqO_MApNGO_NGUqIKHAHITqO_NENtUpO_ANGpPAIYA
  NNOIqHINTHUrO_PHANvUNGtSAMPHAOqO_PLApRO_RUAqUpSARA_AvAvEvI_MAIMALAIzcUANvMuEuIvIuOuUvEwEvUqO_RUSIs
  SALAtOtUApTHANTHAKHATrO_NANGMONTHOtPHUTHAOtTHAHANwNvONGvUNGqO_PATAKsTAOpWO_WAENpYAMAKKANqO_YAKtING
  gURRENCY_SYMBOL_BAHTfDIGIT_EIGHTlFIVEmOURlNINElONElSEVENmIXlTHREEmWOlZEROcEREFOREf_DOES_NOT_EXISTg
  EXISTSeMODYNAMICgMETERcINKING_FACEe_GREEK_CROSSfSALTIREgPACEdRD_PLACE_MEDALcONG_SANDALdUGHT_BALLOO
  NcREE-D_BOTTOM-LIGHTED_RIGHTWARDS_ARROWHEADiLEFT-LIGHTED_DOWNWARDS_EQUILATERAL_ARROWHEADiRIGHT-LIG
  HTED_UPWARDS_EQUILATERAL_ARROWHEADiTOP-LIGHTED_LEFTWARDS_EQUILATERAL_ARROWHEADuRIGHTWARDS_ARROWHEA
  DzgEQUILATERAL_ARROWHEADgEM_DASHgPER-EM_SPACEf_BUTTON_MOUSEgCONSECUTIVE_EQUALS_SIGNSgDIMENSIONAL_A
  NGLEhOT_PUNCTUATIONgLEFTWARDS_ARROWShINES_CONVERGING_LEFTxRIGHTgNETWORKED_COMPUTERSgPOINTED_BLACK_
  STARgRAYS_ABOVElBELOWlLEFTlRIGHThIGHTWARDS_ARROWSgSPEECH_BUBBLEScUMBS_DOWN_SIGNhUP_SIGNdNDERSTORMh
  _CLOUD_AND_RAINbIBETAN_ASTROLOGICAL_SIGN_-KHYUD_PAzbSDONG_TSHUGSzcGRA_GCAN_-CHAR_RTAGSiCANTILLATIO
  N_SIGN_CANG_TE-UzbHEAVY_BEATzbLIGHT_BEATzbSBUB_-CHALiDIGIT_EIGHToFIVEpOURoHALF_EIGHTtFIVEuOURtNINE
  tONEtSEVENuIXtTHREEuWOtZEROoNINEoONEoSEVENpIXoTHREEpWOoZEROiKU_RU_KHAr_BZHI_MIG_CANiLETTER_-ApApBA
  qHApCAqHApDAqDArHAqHAqZArHApFIXED-FORM_RApGAqHApHApJApKAqHAqKAqSSApLApMApNAqGAqNAqYApPAqHApRAqRApS
  AqHAqSApTAqHAqSArHAqTArHApWApYApZAqHAjOGOTYPE_SIGN_CHAD_RTAGSwLHAG_RTAGSiMARK_ANG_KHANG_GYASzONnBK
  A-_SHOG_GI_MGO_RGYANxYIG_MGOoSDUS_RTAGSpKA-_SHOG_GI_MGO_RGYANqUR_YIG_MGOnCARET_-DZUD_RTAGS_BZHI_MI
  G_CANzgME_LONG_CANtYIG_MGO_PHUR_SHAD_MAoHE_MGOoLOSING_BRDA_RNYING_YIG_MGO_SGAB_MAvYIG_MGO_SGAB_MAn
  DELIMITER_TSHEG_BSTARnGTER_TSHEGsYIG_MGO_-UM_GTER_TSHEG_MAzfRNAM_BCAD_MAzbTRUNCATED_AoUG_RTAGS_GYA
  SzONnHALANTAnINITIAL_BRDA_RNYING_YIG_MGO_MDUN_MAvYIG_MGO_MDUN_MApTERSYLLABIC_TSHEGnLEADING_MCHAN_R
  TAGSnMNYAM_YIG_GI_MGO_RGYANnNGAS_BZUNG_NYI_ZLAySGOR_RTAGSoYIS_SHADsTSHEGx_SHADnPALUTAnRGYA_GRAM_SH
  ADoIN_CHEN_SPUNGS_SHADnSBRUL_SHADoHADnTRAILING_MCHAN_RTAGSoSA_-PHRUpHEG_SHADnYIG_MGO_TSHEG_SHAD_MA
  iSIGN_GRU_CAN_RGYINGSrMED_RGYINGSnINVERTED_MCHU_CANnLCE_TSA_CANpI_RTAGSnMAR_TSHESoCHU_CANnNYI_ZLA_
  NAA_DAnRDEL_DKAR_GCIGyNYISySUMxRDEL_NAGsNAG_GCIGxNYISxSUMwRDEL_DKARoJES_SU_NGA_ROoNAM_BCADnSNA_LDA
  NnYANG_RTAGSpR_TSHESjUBJOINED_LETTER_-AzAzBAzbHAzCAzbHAzDAzbDAzcHAzbHAzbZAzcHAzFIXED-FORM_RAzlWAzl
  YAzGAzbHAzHAzJAzKAzbHAzbSSAzLAzMAzNAzbGAzbNAzbYAzPAzbHAzRAzSAzbHAzbSAzTAzbHAzbSAzcHAzbTAzcHAzWAzYA
  zZAzbHAsSIGN_INVERTED_MCHU_CANxLCE_TSA_CANxMCHU_CANjYLLABLE_OMkMBOL_DRIL_BUpNOR_BUv_BZHI_-KHYILwGS
  UM_-KHYILwNYIS_-KHYILpPADMA_GDANqHUR_PApRDO_RJEw_RGYA_GRAMiVOWEL_SIGN_AAtEuEtIuItOuOtREVERSED_IzeI
  tUuUtVOCALIC_LzdLzcRzdRcCKETcE_OVER_INFINITYcFINAGH_CONSONANT_JOINERjLETTER_AHAGGAR_YAZHrYER_YAGHq
  BERBER_ACADEMY_YAHziJqTAWELLEMET_YAZrUAREG_YAGHzbNzHzKzbHzNGzQzZHqYAsAsBtHsCHsDtDuHtHsFsGtHuHsHtHs
  JsKtHuHsLsMsNsPsQsRtRsStHtSsTtHtTsVsWsYsZtHtZrEsYrIrOrUjMODIFIER_LETTER_LABIALIZATION_MARKjSEPARAT
  OR_MARKcGERf_FACEdHT_TRIFOLIATE_SNOWFLAKEcLDEf_OPERATORo_ABOVE_LEFTWARDS_ARROWvRIGHTWARDS_ARROWpWI
  TH_DOT_ABOVEuRISING_DOTSgWITH_DOT_ABOVEpBELOWlRING_ABOVEcMER_CLOCKeS_WITH_LEFT_HALF_BLACKlRIGHT_HA
  LF_BLACKcNYe_TWO_DOTS_OVER_ONE_DOT_PUNCTUATIONcRED_FACEdHUTA_ABBREVIATION_SIGNjNJIiDIGIT_EIGHToFIV
  EpOURoNINEoONEoSEVENpIXoTHREEpWOoZEROiGVANGiLETTER_AqAqIqUpBAqHApCAqHApDAqDArHAqHApEpGAqHApHApIqIp
  JAqHApKAqHApLApMApNAqGAqNAqYApOpPAqHApRApSAqHAqSApTAqHAqTArHApUqUpVAqOCALIC_LyLxRyRpYAiOMiSIGN_ANU
  SVARAoVAGRAHAnCANDRABINDUnNUKTAnVIRAMApSARGAiVOWEL_SIGN_AAuIuUtEtIuItOtSHORT_EzOtUuUtVOCALIC_LzdLz
  cRzdRdONIAN_SIGN_CAPITAL_EToETbOILETcKYO_TOWERcMATOcNGUEcOLBOXdTHfBRUSHcP_ARC_ANTICLOCKWISE_ARROWz
  c_WITH_PLUSiCLOCKWISE_ARROW_WITH_MINUSeCURLY_BRACKETeHALF_BLACK_CIRCLEjINTEGRALjLEFT_PARENTHESISjR
  IGHT_PARENTHESISjSECTION_SIGNgTeLEFT_CORNERkROPjHALF_BRACKETePARENTHESISeRIGHT_CORNERlROPkHALF_BRA
  CKETeSQUARE_BRACKETeTORTOISE_SHELL_BRACKETeWITH_UPWARDS_ARROW_ABOVEcRTOISE_SHELL_BRACKETED_CJK_UNI
  FIED_IDEOGRAPH-4E09zy8Czw52DDzxB89zw6253zx557zx72Czw70B9zx6D7zLATIN_CAPITAL_LETTER_ScTAL_RUNOUTdO_
  LETTER_AnEmBAnREATHY_AEuEvOuIvUmCHAmDAmEnOmGAmHAmInUmJAmKAmLAmMAmNAnGAmOmPAmRAmSAmTAmUmWAmYAfSIGN_
  RISING_TONEbRACKBALLeTORdDE_MARK_SIGNdINdMe_CARdNSPLUTOfVERSAL_INTERSECTIONcIANGLE-HEADED_RIGHTWAR
  DS_ARROWi_WITH_DOT_ABOVEoROUNDED_CORNERSoSERIFS_AT_BOTTOMoUNDERBARgULAR_BULLETlFLAG_ON_POSTlRULERd
  COLONdDENT_EMBLEMdGRAM_FOR_EARTHmFIREmHEAVENmLAKEmMOUNTAINmTHUNDERmWATERnINDdPLE_COLON_OPERATORhDA
  GGERhHORIZONTAL_BAR_WITH_DOUBLE_VERTICAL_STROKEzcTRIPLE_VERTICAL_STROKEhINTEGRALhNESTED_GREATER-TH
  ANoLESS-THANhPLUSiRIMEhSOLIDUS_BINARY_RELATIONhTILDEhVERTICAL_BAR_BINARY_RELATIONuDELIMITERuRIGHT_
  TURNSTILEuWITH_HORIZONTAL_STROKEcOLLfEYBUSdPHYeICAL_DRINKjFISHcUEe_LIGHT_MOON_ARTAdMPETbUGRIK_SIGN
  cLIPcMBLER_GLASScRKEYeISH_LIRA_SIGNdNED_AMPERSANDiNGLEhBLACK_PENTAGONnSHOGI_PIECEhCAPITAL_FiOMMAhD
  AGGERiIGIT_THREEoWOhGREEK_SMALL_LETTER_IOTAhNORTH_EAST_POINTING_LEAFnWEST_POINTING_LEAFjT_SIGNhOK_
  HAND_SIGNhSANS-SERIF_CAPITAL_GzbLzbYiEMICOLONiMALL_FiOUTH_EAST_POINTING_LEAFnWEST_POINTING_LEAFhWH
  ITE_SHOGI_PIECEdTLEbWELVE_POINTED_BLACK_STARcISTED_RIGHTWARDS_ARROWScO-EM_DASHd_ASTERISKS_ALIGNED_
  VERTICALLYeBUTTON_MOUSEeCONSECUTIVE_EQUALS_SIGNSeDOTS_OVER_ONE_DOT_PUNCTUATIONh_LEADERiPUNCTUATION
  eHEARTSeINTERSECTING_LOGICAL_ANDzOReJOINED_SQUARESeLOGICAL_AND_OPERATORmOR_OPERATOReMEN_HOLDING_HA
  NDSeSPEECH_BUBBLESeWOMEN_HOLDING_HANDSaUGARITIC_LETTER_AINrLPAqBETAqDELTArHALqGAMLArHAINqHOsTAqIqK
  AFrHAqLAMDAqMEMqNUNqPUqQOPAqRASHAqSADEsMKArHINrSUqTETrHANNArOqUqWOqYODqZETArUjWORD_DIVIDERbMBRELLA
  i_ON_GROUNDjWITH_RAIN_DROPSbNAMUSED_FACEcCERTAINTY_SIGNcDERTIEdO_SYMBOLcICORN_FACEdONf_ABOVE_BAR_A
  BOVE_INTERSECTIONmINTERSECTIONgBESIDE_AND_JOINED_WITH_UNIONgWITH_LOGICAL_ORlMINUS_SIGNlOVERBARdTED
  _SYMBOLe_SEPARATORdVERSAL_RECYCLING_SYMBOLcMARRIED_PARTNERSHIP_SYMBOLbP-POINTING_AIRPLANEmMILITARY
  _AIRPLANEmRED_TRIANGLEmSMALL_AIRPLANEsRED_TRIANGLEmTRIANGLE_WITH_LEFT_HALF_BLACKzbRIGHT_HALF_BLACK
  cPER_AND_LEFT_AND_LOWER_TRIANGULAR_THREE_QUARTERS_BLOCKlOWER_ONE_EIGHTH_BLOCKqTRIANGULAR_HALF_BLOC
  KkRIGHT_AND_LOWER_TRIANGULAR_THREE_QUARTERS_BLOCKgBLADE_SCISSORSgFIVE_EIGHTHS_BLOCKgHALF_BLOCKq_AN
  D_LOWER_HALF_INVERSE_MEDIUM_SHADElCIRCLElINVERSE_MEDIUM_SHADE_AND_LOWER_HALF_BLOCKtWHITE_CIRCLElME
  DIUM_SHADEgLEFT_BLOCK_DIAGONAL_LOWER_CENTRE_TO_LOWER_MIDDLE_RIGHTzrUPPER_MIDDLE_RIGHTzxRIGHTzhLEFT
  _TO_LOWER_MIDDLE_RIGHTzpUPPER_CENTREzvMIDDLE_RIGHTzhMIDDLE_LEFT_TO_UPPER_CENTREzzdMIDDLE_RIGHTzzdR
  IGHTzbUPPER_MIDDLE_LEFT_TO_UPPER_CENTREzzdRIGHTlCORNER_WITH_DOTlOR_LOWER_RIGHT_CURLY_BRACKET_SECTI
  ONlQUADRANT_CIRCULAR_ARClTO_LOWER_RIGHT_FILLmRIANGLErULAR_MEDIUM_SHADEgONE_EIGHTH_BLOCKkQUARTER_BL
  OCKgRIGHT_BLOCK_DIAGONAL_LOWER_MIDDLE_LEFT_TO_LOWER_CENTREzzeRIGHTzcUPPER_CENTRE_TO_LOWER_MIDDLE_R
  IGHTzyRIGHTzsUPPER_MIDDLE_RIGHTziLEFT_TO_LOWER_CENTREzwMIDDLE_RIGHTzqUPPER_MIDDLE_RIGHTziMIDDLE_LE
  FT_TO_LOWER_CENTREzzeMIDDLE_RIGHTzzeRIGHTmDROP-SHADOWED_WHITE_SQUAREmOR_LOWER_LEFT_CURLY_BRACKET_S
  ECTIONmPENCILmQUADRANT_CIRCULAR_ARCmSHADOWED_WHITE_CIRCLEzcSQUAREmTO_LOWER_LEFT_FILLnRIANGLEsULAR_
  MEDIUM_SHADEgSEVEN_EIGHTHS_BLOCKgTHREE_EIGHTHS_BLOCKmQUARTERS_BLOCKhRIANGULAR_ONE_QUARTER_BLOCKcSI
  DE-DOWN_FACEcWARDS_ANCORAjRROWn_AND_RIGHT_ONE_EIGHTH_BLOCKoFROM_BARoLEFTWARDS_OF_DOWNWARDS_ARROWoT
  O_BARoWITH_DOUBLE_STROKEtEQUILATERAL_ARROWHEADtHORIZONTAL_STROKEtLARGE_TRIANGLE_ARROWHEADtMEDIUM_T
  RIANGLE_ARROWHEADtNOTCHED_TAILtSMALL_EQUILATERAL_ARROWHEADzTRIANGLE_ARROWHEADtTIP_LEFTWARDSxRIGHTW
  ARDSiBLACK_ARROWoCIRCLED_WHITE_ARROWiCOMPRESSED_ARROWiDASHED_ARROWjOUBLE_ARROWiFINGER-POST_ARROWiH
  ARPOON_WITH_BARB_LEFTWARDSzf_BESIDE_DOWNWARDS_HARPOON_WITH_BARB_RIGHTznUPWARDS_HARPOON_WITH_BARB_R
  IGHTzgFROM_BARzgTO_BARzbRIGHTWARDSzg_FROM_BARzhTO_BARjEAVY_ARROWoCOMPRESSED_ARROWiPAIRED_ARROWSiQU
  ADRUPLE_ARROWiROCKETiSANS-SERIF_ARROWjQUARED_ARROWiTRIANGLE-HEADED_ARROWze_LEFTWARDS_OF_DOWNWARDS_
  TRIANGLE-HEADED_ARROWzfTO_BARzfWITH_BOLD_SHAFTzkDOUBLE_HORIZONTAL_STROKEzkHEAVY_SHAFTzkLONG_TIP_LE
  FTWARDSztRIGHTWARDSzkMEDIUM_SHAFTzkNARROW_SHAFTzkVERY_HEAVY_SHAFTyDASHED_ARROWyPAIRED_ARROWSq_ARRO
  WHEADlPLE_ARROWjWO-HEADED_ARROW_FROM_SMALL_CIRCLEzWITH_TRIANGLE_ARROWHEADSl_HEADED_ARROWiWHITE_ARR
  OWt_FROM_BARzd_WITH_HORIZONTAL_BARuON_PEDESTALzg_WITH_HORIZONTAL_BARzmVERTICAL_BARuWITHIN_TRIANGLE
  _ARROWHEADoDOUBLE_ARROWzb_ON_PEDESTALc_ARROWHEADm_BETWEEN_TWO_HORIZONTAL_BARSnIN_A_RECTANGLE_BOXi_
  THROUGH_CIRCLEdBARB_LEFT_DOWN_BARB_LEFT_HARPOONxRIGHT_HARPOONiRIGHT_DOWN_BARB_LEFT_HARPOONyRIGHT_H
  ARPOONdDOWN_ARROWn_WITH_BASEiBLACK_ARROWiDOUBLE_ARROWiSANS-SERIF_ARROWiTRIANGLE-HEADED_ARROWiWHITE
  _ARROWdFISH_TAILdRIGHT_DIAGONAL_ELLIPSISdTACKh_WITH_CIRCLE_ABOVEbRANUSbSaVAI_COMMAeDIGIT_EIGHTkFIV
  ElOURkNINEkONEkSEVENlIXkTHREElWOkZEROeFULL_STOPeQUESTION_MARKeSYLLABLE_AoNnBAoEpEoHApEqEpIpOqOpUoI
  oOpOoUnCAoEpEoIoOpOoUnDAoEpEoHApEqEpHAqErEqIqOrOqUpIpOqOpUoIoOpOoUnEoEpNoNnFAoEpEoIoOpOoUnGAoBApEq
  EqNpIpOqNqOpUoEpEpNoIoOpOoUnHApNoEpEpNoIpNoOpNpOoUpNnIoNnJAoEpEoIoOpOoUnKApNoEpEoIoOpOoPAqNpEqEqNp
  IpOqOpUoUnLAoEpEpNGTHENERoIoOpOoUnMAoBApEqEpIpOqOpUoEpEoGBAqErEqIqOrOqUoIoOpOoUnNAoDApEqEpIpOqLE_D
  OtFAtKAtMAtSOOqOpUoEpEoGpANpENpGAqErErNqIqOrOqUpONoIoJApEqEpIpOqOpUoOpOoUoYApEqEpIpOqOpUnOoNoOpNnP
  AoEpEoIoOpOoUnRAoEpEoIoOpOoUnSAoEpEoHApEqEpIpOqOpUoIoOpOoUnTAoEpEoHApEqEpIpOqOpUoIoOpOoUnUoNnVAoEp
  EoIoOpOoUnWApNoEpEqNpNoIpNoOpNpOqNoUpNnYAoEpEoIoOpOoUnZAoEpEoHApEqEpIpOqOpUoIoOpOoUgMBOL_BANGlDANG
  mO-OnONGlFAAmEENGlJONGlKEENGmUNGlNIIlTAAmINGmONGcMPIREcRIATION_SELECTOR-1u0v0v1v2v3v4v5v6v7v8v9u1v
  0v1v2v3v4v5v6v7v8v9u2v0v1v2v3v4v5v6v7v8v9u3v0v1v2v3v4v5v6v7v8v9u4v0v1v2v3v4v5v6v7v8v9u5v0v1v2v3v4v
  5v6v7v8v9u6v0v1v2v3v4v5v6v7v8v9u7v0v1v2v3v4v5v6v7v8v9u8v0v1v2v3v4v5v6v7v8v9u9v0v1v2v3v4v5v6v7v8v9t
  2u0v0v1v2v3v4v5v6v7v8v9u1v0v1v2v3v4v5v6v7v8v9u2v0v1v2v3v4v5v6v7v8v9u3v0v1v2v3v4v5v6v7v8v9u4v0v1v2v
  3v4v5v6v7v8v9u5v0v1v2v3v4v5v6u6u7u8u9t3u0u1u2u3u4u5u6u7u8u9t4u0u1u2u3u4u5u6u7u8u9t5u0u1u2u3u4u5u6u
  7u8u9t6u0u1u2u3u4u5u6u7u8u9t7u0u1u2u3u4u5u6u7u8u9t8u0u1u2u3u4u5u6u7u8u9t9u0u1u2u3u4u5u6u7u8u9bECTO
  R_OR_CROSS_PRODUCTcDIC_SIGN_ANUSVARA_ANTARGOMUKHAuBAHIRGOMUKHAuUBHAYATO_MUKHAuVAMAGOMUKHAzg_WITH_T
  AILmRDHAVISARGAmTIKRAMAlDOUBLE_ANUSVARA_ANTARGOMUKHAlHEXIFORM_LONG_ANUSVARAlJIHVAMULIYAlLONG_ANUSV
  ARAlNIHSHVASAlREVERSED_VISARGA_ANUDATTAzdUDATTAmOTATED_ARDHAVISARGAmTHANG_LONG_ANUSVARAlTIRYAKlUPA
  DHMANIYAlVISARGA_ANUDATTAzc_WITH_TAILtSVARITAtUDATTAz_WITH_TAILlYAJURVEDIC_MIDLINE_SVARITAgTONE_AT
  HARVAVEDIC_INDEPENDENT_SVARITAlCANDRA_ABOVEsBELOWlDOT_BELOWnUBLE_RING_ABOVEsSVARITAlKARSHANAnTHAKA
  _ANUDATTAlPRENKHAlRIGVEDIC_KASHMIRI_INDEPENDENT_SVARITAnNG_ABOVElSHARAlTHREE_DOTS_BELOWmRIPLE_SVAR
  ITAmWO_DOTS_BELOWlYAJURVEDIC_AGGRAVATED_INDEPENDENT_SVARITAwINDEPENDENT_SVARITAwKATHAKA_INDEPENDEN
  T_SVARITAzy_SCHROEDERcRSICLEdTICAL_BAR_BESIDE_RIGHT_TRIANGLEnDOUBLE_LEFT_TURNSTILEnTRIPLE_RIGHT_TU
  RNSTILEnWITH_HORIZONTAL_STROKEjELLIPSISjFOUR_DOTSjIDEOGRAPHIC_ITERATION_MARKjKANA_REPEAT_MARKz_LOW
  ER_HALFzbUPPER_HALFvWITH_VOICED_SOUND_MARKzs_UPPER_HALFjLINEn_EXTENSIONoWITH_CIRCLE_ABOVEzbBELOWtM
  IDDLE_DOTjMALE_WITH_STROKE_SIGNjONE_EIGHTH_BLOCK-2zb3zb4zb5zb6zb7jSIX_DOTSjTABULATIONt_SETm_KEYkIL
  DEkRAFFIC_LIGHTjZIGZAG_LINEdY_BOLD_GREEK_CROSSfHEAVY_EIGHT_POINTED_BLACK_STARrSPOKED_ASTERISKlFIVE
  _SPOKED_ASTERISKlGREEK_CROSSlREVERSE_SOLIDUSlSALTIREmIX_SPOKED_ASTERISKmOLIDUSlWHITE_CIRCLErSQUARE
  fMUCH_GREATER-THANkLESS-THANcSTAbIBRATION_MODEcCTORY_HANDcDEOCASSETTEf_CAMERAgGAMEcETNAMESE_ALTERN
  ATE_READING_MARK_CAzjNHAYdWDATA_SQUAREcOLINcRGOcTHKUQI_CAPITAL_LETTER_AyBBEzEyCEzHEyDEzHEyEzIyFEyG
  AyHAzHAyIzJEyJEyKAyLAzLAyMEyNEzJEyOyPEyQAyREySEzHEyTEzHEyUyVEyXEyYyZEjSMALL_LETTER_AwBBExEwCExHEwD
  ExHEwExIwFEwGAwHAxHAwIxJEwJEwKAwLAxLAwMEwNExJEwOwPEwQAwREwSExHEwTExHEwUwVEwXEwYwZEbOIDED_GREEK_CRO
  SScLCANOdLEYBALLdUME_INTEGRALbS1d0e0e1e2e3e4e5e6e7e8e9d1e0e1e2e3e4e5e6e7e8e9d2e0e1e2e3e4e5e6e7e8e9
  d3e0e1e2e3e4e5e6e7e8e9d4e0e1e2e3e4e5e6e7e8e9d5e0e1e2e3e4e5e6e7e8e9d6e0e1e2e3e4e5e6e7e8e9d7e0e1e2e3
  e4e5e6e7e8e9d8e0e1e2e3e4e5e6e7e8e9d9e0e1e2e3e4e5e6e7e8e9c2d0e0e1e2e3e4e5e6e7e8e9d1e0e1e2e3e4e5e6e7
  e8e9d2e0e1e2e3e4e5e6e7e8e9d3e0e1e2e3e4e5e6e7e8e9d4e0e1e2e3e4e5e6e7e8e9d5e0e1e2e3e4e5e6d6d7d8d9c3d0
  d1d2d3d4d5d6d7d8d9c4d0d1d2d3d4d5d6d7d8d9c5d0d1d2d3d4d5d6d7d8d9c6d0d1d2d3d4d5d6d7d8d9c7d0d1d2d3d4d5
  d6d7d8d9c8d0d1d2d3d4d5d6d7d8d9c9d0d1d2d3d4d5d6d7d8d9bTcSbULCANUSdGAR_FRACTION_FIVE_EIGHTHSvSIXTHSr
  OUR_FIFTHSqONE_EIGHTHuFIFTHuHALFuNINTHuQUARTERuSEVENTHvIXTHuTENTHvHIRDqSEVEN_EIGHTHSqTHREE_EIGHTHS
  wFIFTHSwQUARTERSrWO_FIFTHSuTHIRDSqZERO_THIRDSaWAFFLEcNCHO_DIGIT_EIGHTnFIVEoOURnNINEnONEnSEVENoIXnT
  HREEoWOnZEROhLETTER_ApAqNrGpNGpUoBAoCAoDAoEpNoFAoGAoHAoIpNGoJAoKApHAoLApLHAoMAoNApGApYAoOpNqGoPApH
  AoRAoSApHAoTApHApRApSAoUpENoVAoWAoYApIHoZAhNGUN_SIGNhTONE_KOIpNImTUPpNIdING_CRESCENT_MOON_SYMBOLhG
  IBBOUS_MOON_SYMBOLcRANG_CITI_CAPITAL_LETTER_AzdMzdNGzdTzcBUzcDAzcEzdNNzeYzcGAzcHARzdIYOzdOLOzeRRzc
  IIzcKOzcNGAAzdUNGzcOzdDDzcPUzcSIIzdSUUzcTTEzcUCzdUzcVIYOzcWIzcYAzdOzdUzeJmDIGIT_EIGHTsFIVEtOURsNIN
  EsONEsSEVENtIXsTHREEtWOsZEROmNUMBER_EIGHTYtFIFTYuORTYtNINETYtSEVENTYuIXTYtTENuHIRTYuWENTYmOMmSMALL
  _LETTER_AzbMzbNGzbTzBUzDAzEzbNNzcYzGAzHARzbIYOzbOLOzcRRzIIzKOzNGAAzbUNGzOzbDDzPUzSIIzbSUUzTTEzUCzb
  UzVIYOzWIzYAzbOzbUzcJdNING_SIGNcSTEBASKETcTCHdERMELONf_BUFFALOgCLOSETgPOLOgWAVEcVE_ARROW_POINTING_
  DIRECTLY_LEFTzeRIGHTfDASHdING_BLACK_FLAGhHAND_SIGNhWHITE_FLAGdY_DASHfLINEgOW_LINEfOVERLINEcXING_CR
  ESCENT_MOON_SYMBOLhGIBBOUS_MOON_SYMBOLbEARY_CAT_FACEgFACEcDDINGdGE-TAILED_RIGHTWARDS_ARROWcIERSTRA
  SS_ELLIPTIC_FUNCTIONdGHT_LIFTERcST_SYRIAC_CROSSbHALEcEELfCHAIR_SYMBOLf_OF_DHARMAcITE-FEATHERED_RIG
  HTWARDS_ARROWf_ARROW_SHAFT_WIDTH_ONEyTWO_THIRDSgBULLETgCHESS_BISHOPs_ROTATED_NINETY_DEGREESzcTWO_H
  UNDRED_SEVENTY_DEGREESmEQUIHOPPERw_ROTATED_NINETY_DEGREESmKINGq_ROTATED_NINETY_DEGREESzTWO_HUNDRED
  _SEVENTY_DEGREESnNIGHTs-BISHOPtQUEENtROOKs_ROTATED_FORTY-FIVE_DEGREESzcNINETY_DEGREESzcONE_HUNDRED
  _THIRTY-FIVE_DEGREESzcTHREE_HUNDRED_FIFTEEN_DEGREESzdWO_HUNDRED_SEVENTY_DEGREESzoTWENTY-FIVE_DEGRE
  ESmPAWNq_ROTATED_NINETY_DEGREESzTWO_HUNDRED_SEVENTY_DEGREESmQUEENr_ROTATED_NINETY_DEGREESzbTWO_HUN
  DRED_SEVENTY_DEGREESmROOKq_ROTATED_NINETY_DEGREESzTWO_HUNDRED_SEVENTY_DEGREESmTURNED_BISHOPtKINGuN
  IGHTtPAWNtQUEENtROOKhIRCLEm_CONTAINING_BLACK_SMALL_CIRCLEnWITH_DOT_RIGHTuWN_ARROWsLOWER_LEFT_QUADR
  ANTyRIGHT_QUADRANTsTWO_DOTSsUPPER_LEFT_QUADRANTyRIGHT_QUADRANThLUB_SUIThONCAVE-SIDED_DIAMONDzc_WIT
  H_LEFTWARDS_TICKziRIGHTWARDS_TICKgDIAMONDn_CONTAINING_BLACK_MEDIUM_DIAMONDzgSMALL_DIAMONDzgVERY_SM
  ALL_DIAMONDoIN_SQUAREoSUIToWITH_CENTRED_DOThOWN-POINTING_SMALL_TRIANGLEuTRIANGLEk_POINTING_BACKHAN
  D_INDEXuINDEXuLEFT_HAND_INDEXhRAUGHTS_KINGpMANgEXCLAMATION_MARK_ORNAMENTgFLAGk_WITH_HORIZONTAL_MID
  DLE_BLACK_STRIPEiORETTEjWERhOUR_POINTED_CUSPtSTARhROWNING_FACEgHARD_SHELL_FLOPPY_DISKhEARTl_SUITjV
  Y_CHECK_MARKmSALTIRE_WITH_ROUNDED_CORNERSiXAGONhORIZONTAL_ELLIPSEiURGLASSgLARGE_SQUAREiTIN_CROSShE
  FT-POINTING_POINTERuSMALL_TRIANGLEuTRIANGLEk_LANE_MERGElPOINTING_BACKHAND_INDEXuINDEXhOZENGE_CONTA
  INING_BLACK_SMALL_LOZENGEgMEDIUM_DIAMONDnLOZENGEnSMALL_SQUAREoQUAREoTARhOON_SELENAgNIBgPARALLELOGR
  AMhENNANTjTAGONgQUESTION_MARK_ORNAMENTgRECTANGLEhIGHT-POINTING_PENTAGONwOINTERvSMALL_TRIANGLEvTRIA
  NGLEl_POINTING_BACKHAND_INDEXvINDEXgSCISSORShESAME_DOThHOGI_PIECEhMALL_LOZENGEmSQUAREnTARiILING_FA
  CEhPADE_SUIThQUAREm_BUTTONnCONTAINING_BLACK_MEDIUM_SQUAREzfSMALL_SQUAREzfVERY_SMALL_SQUAREnWITH_CE
  NTRE_VERTICAL_LINEsLEFTWARDS_TICKtOWER_LEFT_QUADRANTyRIGHT_QUADRANTsRIGHTWARDS_TICKtOUNDED_CORNERS
  sUPPER_LEFT_QUADRANTyRIGHT_QUADRANTsVERTICAL_BISECTING_LINEhTARhUNj_BEHIND_CLOUDw_WITH_RAINkWITH_R
  AYSpSMALL_CLOUDgTELEPHONEhOUCHTONE_TELEPHONEhRAPEZIUMiIANGLE_CONTAINING_SMALL_WHITE_TRIANGLEhWO-WA
  Y_LEFT_WAY_TRAFFICgUP-POINTING_CHEVRONsSMALL_TRIANGLEsTRIANGLEzb_WITH_DOTi_POINTING_BACKHAND_INDEX
  sINDEXgVERTICAL_BARpELLIPSEpRECTANGLEjY_SMALL_SQUAREbIDE-HEADED_DOWNWARDS_BARB_ARROWwHEAVY_BARB_AR
  ROWwLIGHT_BARB_ARROWwMEDIUM_BARB_ARROWwVERY_HEAVY_BARB_ARROWmLEFTWARDS_BARB_ARROWwHEAVY_BARB_ARROW
  wLIGHT_BARB_ARROWwMEDIUM_BARB_ARROWwVERY_HEAVY_BARB_ARROWmNORTH_EAST_BARB_ARROWxHEAVY_BARB_ARROWxL
  IGHT_BARB_ARROWxMEDIUM_BARB_ARROWxVERY_HEAVY_BARB_ARROWsWEST_BARB_ARROWxHEAVY_BARB_ARROWxLIGHT_BAR
  B_ARROWxMEDIUM_BARB_ARROWxVERY_HEAVY_BARB_ARROWmRIGHTWARDS_BARB_ARROWxHEAVY_BARB_ARROWxLIGHT_BARB_
  ARROWxMEDIUM_BARB_ARROWxVERY_HEAVY_BARB_ARROWmSOUTH_EAST_BARB_ARROWxHEAVY_BARB_ARROWxLIGHT_BARB_AR
  ROWxMEDIUM_BARB_ARROWxVERY_HEAVY_BARB_ARROWsWEST_BARB_ARROWxHEAVY_BARB_ARROWxLIGHT_BARB_ARROWxMEDI
  UM_BARB_ARROWxVERY_HEAVY_BARB_ARROWmUPWARDS_BARB_ARROWuHEAVY_BARB_ARROWuLIGHT_BARB_ARROWuMEDIUM_BA
  RB_ARROWuVERY_HEAVY_BARB_ARROWcGGLY_VERTICAL_LINEcLTED_FLOWERcNDOWe_BLOWING_FACEfCHIMEdE_GLASSdKIN
  G_FACEcRED_KEYBOARDbJbOLF_FACEcMANfS_BOOTShCLOTHEShHAThSANDALf_WITH_BUNNY_EARSdENS_SYMBOLcN_SIGNcO
  DcRD_JOINERfSEPARATOR_MIDDLE_DOTdLD_MAPdMdRIED_FACEbRAPPED_PRESENTcEATH_PRODUCTdNCHdSTLERScITING_H
  ANDaX-RAYbIANGQI_BLACK_CANNONpHARIOToELEPHANToGENERALoHORSEoMANDARINoSOLDIERiRED_CANNONnHARIOTmELE
  PHANTmGENERALmHORSEmMANDARINmSOLDIERbORb_IN_A_RECTANGLE_BOXaYAWNING_FACEbELLOW_HEARTcN_SIGNcZIDI_C
  OMBINING_HAMZA_MARKrMADDA_MARKhHYPHENATION_MARKhLETTER_BEoCHHIMqIMpIMoDADqLoELIFpTpWpYNoFAoGAFoHAY
  pHAoJAoKAFpHAFoLAMr_WITH_DOT_ABOVEoMIMoNUNoOWoPEpHEoQAFoRApHAoSADpEpHINpINoTApHEoUMoVAq_ALTERNATE_
  FORMoWAWoXApHEYNoYOTr_WITH_CIRCUMFLEX_ABOVEoZAqLpEbIN_YANGc_RADICAL_BBUTmURlCHEmIPmUOPmYnPnTlDDURm
  UlGAmEPmGOPnUOmOTlHMOmXITnOPnUOlJJIEnUTnYmOlKEmITlLInEmYRlMImOPlNBIEmYIPnOPmZUPlOPlPUTmYTlQOTlSHAT
  nOPnURnYmSIlTATmUlVEPmURlWOlYITmOlZAmOTmUPnRmZIETdSYLLABLE_AnPnTnXmBAoPoToXnBApPpTpXoEpPpXoIpEqPqT
  qXpPpTpXoOpPpTpXoUpOqPqXpPpRqXpTpXoYpPpTpXnEoPoXnIoEpPpTpXoPoToXnOoPoToXnUoOpPpXoPoRpXoToXnYoPoRpX
  oToXmCAoPoToXnEoPoXnHApPpTpXoEpPpTpXoOpPpTpXoUpOqPqTqXpPpRqXpXoYpPpRqXpTpXnIoEpPpTpXoPoToXnOoPoToX
  nUoOpPpXoPoRpXoToXnYoPoRpXoToXmDAoPoToXnDApPpTpXoEpPpXoIpEqPqXpPpTpXoOpPpTpXoUpOqPqXpPpRqXpTpXnEoP
  oXnIoEpPpXoPoToXnOoPoToXnUoOpXoPoRpXoToXmEnXmFAoPoToXnIoPoToXnOoPoXnUoPoRpXoToXnYoPoToXmGAoPoToXnE
  oPoToXnGApPpTpXoEpPpTpXoIpEqPqXpTpXoOpPpTpXoUpOqPqTqXpPpRqXpTpXnIoEpPpTpXoPoToXnOoPoToXnUoOpPpTpXo
  PoRpXoToXmHAoPoToXnEoPoXnIEpXoTnLApPpTpXoEpPpXoIpEqPqXpPpTpXoOpPpXoUpOqPqXpPpRqXpTpXoYpPpRqXpTpXnM
  ApPpTpXoIpEqPqXpPpTpXoOpPpTpXoUpOqPqXpPpRqXpTpXoYpPpRqXpXnNApPpTpXoEpPpXoIpEqPqTqXpPpTpXoOPpTpXoUO
  qXpTnOoPoToXnUOpPpTpXnXApPpTpXoEpPpXoIpEqPqTqXpPpTpXoOpPpTpXoUOqPqTqXmInEoPoToXnPnToERATION_MARKnX
  mJIoEpPpTpXoPoToXnJIpEqPqTqXpPpTpXoOpPpTpXoUpOqPqXpPpRqXpTpXoYpPpTpXnOoPoToXnUoOpPpTpXoPoRpXoToXnY
  oPoRpXoToXmKAoPoToXnEoPoToXnIoEpPpXoPoToXnOoPoToXnUoOpPpXoPoRpXoToXmLAoPoToXnEoPoXnIoEpPpTpXoPoToX
  nOoPoToXnUoOpPpTpXoPoRpXoToXnYoPoRpXoToXmMAoPoToXnEoXnGApPpTpXoEpPpXoIEqXoOpPpTpXoUpOqPqXpPpRqXpTp
  XnIoEpPpXoPoToXnOoPoToXnUoOpPpTpXoPoRpXoToXnYoPoToXmNAoPoXnBApPpTpXoIpEqPqXpPpTpXoOpPpTpXoUpPpRqXp
  TpXoYpPpRqXpTpXnDApPpTpXoEpPpXoIpEqXpPpTpXoOpPpTpXoUpPpRqXpTpXnEoPoXnGApPpTpXoEpPpXoIEqPqXoOpPpTpX
  oUOqTqXnIoEpPpXoPoToXnJIpEqPqTqXpPpTpXoOpPpTpXoUpOqXpPpRqXpXoYpPpRqXpTpXnOoPoToXnRApPpTpXoEpPpTpXo
  OpPpXoUpPpRqXpTpXoYpPpRqXpTpXnUoOpPpXoPoRpXoToXnYIpEqPqTqXpPpTpXoOpPpTpXoUpOqPqXpPpTpXnZApPpTpXoEp
  XoIpEqPqXpPpTpXoOPpXoUpOqXpPpRqXpXoYpPpRqXpTpXmOnPnTnXmPAoPoToXnIoEpPpXoPoToXnOoPoToXnUoOpPpXoPoRp
  XoToXnYoPoRpXoToXmQIoEpPpTpXoPoToXnOoPoToXnUoOpPpTpXoPoRpXoToXnYoPoRpXoToXmRAoPoToXnEoPoXnOoPoToXn
  RApXoEpPpTpXoOpPpTpXoUpOqXpPpRqXpTpXoYpPpRqXpTpXnUoOpPpXoPoRpXoToXnYoPoRpXoToXmSAoPoToXnEoPoXnHApP
  pTpXoEpPpTpXoOpPpTpXoUpOqPqXpPpRqXpTpXoYpPpRqXpTpXnIoEpPpXoPoToXnOoPoToXnSApPpTpXoEpPpXoIpEqPqXpPp
  TpXoOpPpTpXoUpPpTpXoYpPpRqXpTpXnUoOpPpXoPoRpXoToXnYoPoRpXoToXmTAoPoToXnEoPoXnIoEpPpXoPoToXnOoPoToX
  nUoOpPpTpXoPoRpXoToXmUOoPoXmVAoPoToXnEPoXnIoEpPpTpXoPoToXnOoPoToXnUoPoRpXoToXnYoPoRpXoToXmWAoPoToX
  nEoPoXnOoPoXnUoOpPpXmXIoEpPpTpXoPoToXnOoPoToXnUOpXnYoPoRpXoToXmYIoEpPpTpXoPoToXnOoPoToXnUoOpPpTpXo
  PoRpXoToXnYoPoRpXoToXmZAoPoToXnEoPoXnHApPpTpXoEpPpTpXoOpPpTpXoUpOqPqXpPpRqXpTpXoYpPpRqXpTpXnIoEpPp
  XoPoToXnOoPoToXnUoOpPpXoPoRpXoToXnYoPoRpXoToXnZApPpTpXoEpPpXoIpEqPqTqXpPpTpXoOpPpXoUpPpRqXpXoYpPpR
  qXpTpXbO-YOaZANABAZAR_SQUARE_CLOSING_DOUBLE-LINED_HEAD_MARKzHEAD_MARKtUSTER-FINAL_LETTER_LAznRAznV
  AznYAzINITIAL_LETTER_RArFINAL_CONSONANT_MARKrINITIAL_DOUBLE-LINED_HEAD_MARKzHEAD_MARKrLETTER_-AyAy
  BAzHAyCAzHAyDAzDAzbHAzHAzZAzbHAyGAzHAyHAyJAyKAzHAzSSAyLAyMAyNAzGAzNAzYAyPAzHAyRAySAzHAzSAyTAzHAzSA
  zbHAzTAzbHAyVAyYAyZAzHArMARK_DOUBLE_SHADwLONG_TSHEGwSHADwTSHEGrSIGN_ANUSVARAwCANDRABINDUzi_WITH_OR
  NAMENTzd_WITH_ORNAMENTwVIRAMAySARGAsUBJOINERrVOWEL_LENGTH_MARKxSIGN_AIzeUzdEzdIzdOzeEzdREVERSED_Iz
  dUzeEbEBRA_FACEcRO_WIDTH_JOINERlNO-BREAK_SPACEnN-JOINERlSPACEcUSbIPPER-MOUTH_FACEbNAMENNY_COMBININ
  G_ATTACHING_VERTICAL_OMETtLOWER_TONAL_RANGE_INDICATORtMARK_BORZAYAyCHASHKAzg_POLNAYAzURVED_OMETyDE
  MESTVENNY_ZADERZHKAzVOETOCHIEyGORAZDO_NIZKO_ON_LEFTzqRIGHTznS_KRYZHEM_ON_LEFTzzbRIGHTzhVYSOKOyKACH
  KAzRYZHze_ON_LEFTzUPNAYAyLOMKAyMALO_POVYSHE_ON_LEFTzpRIGHTzmSTRANNOzn_KHOKHLOM_ON_LEFTzzbRIGHTzpRY
  ZHEMyNIZKO_ON_LEFTziRIGHTzfS_KRYZHEM_ON_LEFTzsRIGHTyOBLACHKOzNzTSECHKAyPODCHASHIEzj_WITH_VERTICAL_
  STROKEzcVERTKAzbVYSHE_ON_LEFTzkRIGHTzhSTRANNOzi_KHOKHLOM_ON_LEFTzvRIGHTzkRYZHEMyRAVNOzbZSEKAySKOBA
  zOROCHYA_NOZHKAzREDNE_ON_LEFTzjRIGHTzTRANNO_MALO_POVYSHEyTIKHAYAzOCHKAzSATA_ON_LEFTziRIGHTzfS_KRYZ
  HEMyUDARKAyVYSOKO_ON_LEFTzjRIGHTzgS_KHOKHLOM_ON_LEFTzuRIGHTzjRYZHEMyZADERZHKAzELOzbVOKtTONAL_RANGE
  _MARK_MRACHNOzlSVETLOzlTRESVETLOjNEUME_CHASHKArELYUSTKApDEMESTVENNY_KLYUCHrRBITSAqOUBLE_ZAPYATAYAq
  UDAqVA_V_CHELNUpFITApGOLUBCHIK_BORZYzMRACHNYzSVETLYzTIKHYzbRESVETLYpKHAMILOqLYUCHqOBYLAqRYUKu_TIKH
  YsZHqUFISMApMECHIKv_KLYUCHENEPOSTOYANNYzePOVODNYzeVOYwPOVODNYpNEMKApOBLAKOqSOKAu_KLYUCHEVAYA_NEPOS
  TOYANNAYAziSVETLAYAwRYUKOVAYA_SVETLAYAvSVETLAYAvTRESVETLAYApPALKArRAKLITrUKqEREVODKAy_NEPOSTOYANNA
  YAqODCHASHIErLKULIZMYpREVERSED_CHELYUSTKAqOGpSKAMEYTSA_DVOECHELNAYA_KLYUCHEVAYAznNEPOSTOYANNAYAznP
  ROSTAYAznSVETLAYAzKLYUCHENEPOSTOYANNAYAzhVAYA_SVETLAYAzmTIKHAYAzMRACHNAYAzSVETLAYAzTIKHAYAzbRESVET
  LAYAqLOZHITIEy_S_KRYZHEMzcZAPYATOYzZAKRYTOEqTATYAv_NEPOSTOYANNAYAwS_DVUMYA_ZAPYATYMIyKRYZHEMzg_I_Z
  APYATOYyROGOMyZAPYATOYzh_I_KRYZHEMzkPODCHASHIEMwZAKRYTAYAzg_S_ZAPYATOYrOPITSAx_S_OCHKOMyWITH_SOROC
  HYA_NOZHKArRELA_DVOECHELNAYAzj_KLYUCHEVAYAzgOKRYZHEVAYAzhPOVODNAYAzq_KLYUCHEVAYAwGROMNAYAzf_WITH_S
  INGLE_ZAPYATAYAzbOKRYZHEVAYAzm_POVODNAYAzcPOVODNAYAzl_WITH_DOUBLE_ZAPYATAYAzrSINGLE_ZAPYATAYAwKLYU
  CHENEPOSTOYANNAYAzePOVODNAYAxRYUKOVAYAzh_GROMNAYAzq_WITH_SINGLE_ZAPYATAYAzmOKRYZHEVAYAzx_POVODNAYA
  znPOVODNAYAzw_WITH_DOUBLE_ZAPYATAYAzzdSINGLE_ZAPYATAYAziPOVODNAYAziTRYASKAzZHEVAYAwMRACHNOTIKHAYAw
  NEPOSTOYANNAYAwPOLUPOVODNAYAyVODNAYAxROSTAYAwTIKHAYA_PUTNAYAxRYASOGLASNAYAzdPOVODNAYAzdSTRELNAYApV
  RAKHIYA_KLYUCHEVAYA_MRACHNAYAzlPROSTAYAzlSVETLAYAzlTRESVETLAYAyMRACHNAYAyPROSTAYAySVETLAYAyTRESVET
  LAYApZANOZHEKrPYATAYAqMEYTSAjPRIZNAK_MODIFIER_DIRECTION_FLIPzbKRYZHzbLEVEL-2zh3zbROGbOMBIEbWJcNBSP
  dJcSPb_NOTATION_BAG_MEMBERSHIPlDOMAIN_ANTIRESTRICTIONlLEFT_BINDING_BRACKETqIMAGE_BRACKETlRANGE_ANT
  IRESTRICTIONmELATIONAL_COMPOSITIONmIGHT_BINDING_BRACKETrIMAGE_BRACKETlSCHEMA_COMPOSITIONsPIPINGtRO
  JECTIONmPOTlTYPE_COLON"

/-- All parts of the names. -/
def namesInParts : List String := [
  firstNames, secondNames, thirdNames, fourthNames, fifthNames, sixthNames, seventhNames,
  eighthNames]

end Lamella.Text
