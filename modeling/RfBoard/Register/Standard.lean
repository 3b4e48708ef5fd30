import RfBoard.Register.Basic

/-!
The registers of the board. The word at 508 has two names, one of them a setting and the other a state.
-/

namespace RfBoard.RegisterMap

def standard : RegisterMap := [
  .settingInt "lock_en" 0,
  .settingInt "on_off" 4,
  .settingInt "RF_PW_CW" 8,
  .settingInt "loop_en" 12,
  .settingInt "tune_loop_en" 16,
  .settingInt "sp_amp" 20,
  .settingReal "sp_phase" 24,
  .settingInt "beam_amp" 28,
  .settingReal "beam_phase" 32,
  .settingInt "kp" 36,
  .settingInt "ki" 40,
  .settingReal "ad_adj_real" 44,
  .settingReal "ad_adj_imag" 48,
  .settingReal "da_adj_real" 52,
  .settingReal "da_adj_imag" 56,
  .settingReal "da_adj_real2" 60,
  .settingReal "da_adj_imag2" 64,
  .settingInt "n_jump" 68,
  .settingInt "n_jump_delay" 72,
  .settingInt "start_cnt" 76,
  .settingInt "end_cnt" 80,
  .settingInt "Out_max_I" 84,
  .settingInt "Out_min_I" 88,
  .settingInt "Out_max_Q" 92,
  .settingInt "Out_min_Q" 96,
  .settingInt "sp_freq" 100,
  .settingInt "Loop_Delay_count" 104,
  .settingInt "Kip_start_point" 108,
  .settingInt "Kip_end_point" 112,
  .settingInt "Ki_I_rise_point" 116,
  .settingInt "Ki_Q_rise_point" 120,
  .settingInt "freq_kp" 124,
  .settingInt "beam_delay" 128,
  .settingInt "rfgate_ram_jiange" 132,
  .settingInt "Qset" 136,
  .settingReal "Overdrive" 140,
  .settingInt "train_mode" 144,
  .settingInt "triger_src" 148,
  .settingInt "triger_period" 152,
  .settingInt "RF_count" 156,
  .settingInt "init_set" 160,
  .settingInt "end_set" 164,
  .settingInt "powup_time" 168,
  .settingInt "powup_step" 172,
  .settingInt "powup_hold_time" 176,
  .settingInt "powup_protect_times" 180,
  .settingInt "powdown_time" 184,
  .settingInt "powdown_step" 188,
  .settingInt "powdown_hold_time" 192,
  .settingInt "powdown_protect_times" 196,
  .settingInt "PRT_Start_count" 200,
  .settingInt "PRT_End_count" 204,
  .settingReal "SP_P" 208,
  .settingReal "SP_P_1" 212,
  .settingReal "SP_P_2" 216,
  .settingReal "SP_P_3" 220,
  .settingInt "Ch_beam_Hold" 224,
  .settingReal "Ch_VSWR_Hold" 228,
  .settingInt "SP_Ch_sum_PRT_Num" 232,
  .settingInt "manual_Clear" 236,
  .settingInt "VSWR_EN" 240,
  .settingInt "VSWR_Delay_Num" 244,
  .settingInt "k0_forward" 248,
  .settingInt "k0_reverse" 252,
  .settingInt "k1_forward" 256,
  .settingInt "k1_reverse" 260,
  .settingInt "k2_forward" 264,
  .settingInt "k2_reverse" 268,
  .settingInt "k3_forward" 272,
  .settingInt "k3_reverse" 276,
  .settingInt "state_wr_reg" 508,
  .stateInt "rd_reg_state" 508,
  .stateInt "lock_en_state" 512,
  .stateInt "on_off_state" 516,
  .stateInt "loop_en_state" 520,
  .stateInt "tune_loop_en_state" 524,
  .stateInt "o_sp_amp_state" 528,
  .stateInt "sp_amp_state" 532,
  .stateReal "sp_phase_state" 536,
  .stateInt "s1_Ch0_PRT_Num_state" 540,
  .stateInt "s1_Ch1_PRT_Num_state" 544,
  .stateInt "s1_Ch2_PRT_Num_state" 548,
  .stateInt "s1_Ch3_PRT_Num_state" 552,
  .stateInt "s1_Ch_sum_PRT_Num_state" 556,
  .stateInt "Ch0_VSWR_SUM_Counter_state" 560,
  .stateInt "Ch1_VSWR_SUM_Counter_state" 564,
  .stateInt "Ch2_VSWR_SUM_Counter_state" 568,
  .stateInt "Ch3_VSWR_SUM_Counter_state" 572,
  .stateInt "high_Wattcher_state" 576,
  .stateInt "VSWR_PRT_forvere_out_state" 580,
  .stateReal "freq_cal_state" 584]

end RfBoard.RegisterMap
