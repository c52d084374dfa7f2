import ProjectorControl.Command.Group

/-!
# The remote control

One command per button of the infrared remote control.  Some buttons share their bytes, so
a packet may stand for several of them; the first in the table is then meant.
-/

namespace ProjectorControl.CommandTable

/-- Pressing a button of the remote control. -/
def remoteControl : CommandGroup where
  name := "remote_control"
  code := .ofChars 'R' 'C'
  leading := [0x37, 0x33]
  entries := [
    .operation "3d_setting" [0x44, 0x35]
      "3D Setting - Direct access to 3D Setting menu (X30/X70/X90/RS45/55/65)",
    .operation "3d_format_next" [0x44, 0x36]
      "3D Format - Cycles through all available 3D formats (X30/X70/X90/RS45/55/65)",
    .operation "advanced_picture_adjust" [0x37, 0x33]
      ("Advanced - Direct access to Picture Adjust > Advanced menu (HD550/950/990/X3/X7/X9/ " ++
       "X30/X70/X90/RS15/25/35/40/50/60/45/55/65)"),
    .operation "anamorphic_off" [0x32, 0x34]
      ("Anamorphic - Off (X3/X7/X9/X30/X70/X90/RS40/50/60/45/55/65) Vertical Stretch - Off " ++
       "(HD350/750/950/990/RS10/20/25/35)"),
    .operation "vertical_stretch_off" [0x32, 0x34]
      ("Vertical Stretch - Off (HD350/550/750/950/990/RS10/15/20/25/35) Anamorphic - Off " ++
       "(X3/X7/X9/X30/X70/X90/RS40/50/60/45/55/65)"),
    .operation "anamorphic_a" [0x32, 0x33]
      ("Anamorphic - A (X3/X7/X9/X30/X70/X90/RS40/50/60/45/55/65) Vertical Stretch - On " ++
       "(HD350/750/950/990/RS10/20/25/35)"),
    .operation "vertical_stretch_on" [0x32, 0x33]
      ("Vertical Stretch - On (HD350/550/750/950/990/RS10/15/20/25/35) Anamorphic - A " ++
       "(X3/X7/X9/X30/X70/X90/RS40/50/60/45/55/65)"),
    .operation "anamorphic_b" [0x32, 0x42]
      "Anamorphic - B (X3/X7/X9/X30/X70/X90/RS40/50/60/45/55/65)",
    .operation "anamorphic_next" [0x43, 0x35]
      "Anamorphic - Cycles through Off/A/B (X3/X7/X9/X30/X70/X90/RS40/50/60/45/55/65)",
    .operation "aspect_16_9" [0x32, 0x36] "Aspect - 16:9",
    .operation "aspect_4_3" [0x32, 0x35] "Aspect - 4:3",
    .operation "aspect_zoom" [0x32, 0x37] "Aspect - Zoom",
    .operation "aspect_auto" [0x41, 0x45]
      "Aspect (PC) - Auto (X3/X7/X9/X30/X70/X90/RS40/50/60/45/55/65)",
    .operation "aspect_pc_full" [0x42, 0x30]
      "Aspect (PC) - Full (X3/X7/X9/X30/X70/X90/RS40/50/60/45/55/65)",
    .operation "aspect_pc_just" [0x41, 0x46]
      "Aspect (PC) - Just (X3/X7/X9/X30/X70/X90/RS40/50/60/45/55/65)",
    .operation "aspect_up" [0x37, 0x37] "Aspect + (cycles through all available modes)",
    .operation "auto_align" [0x31, 0x33]
      "Auto Align (PC input on HD750/950/990/X7/X9/ X70/X90/RS20/25/35/50/60/55/65)",
    .operation "auto_lens_centre" [0x43, 0x39]
      "Auto Lens Centre (X3/X7/X9/X70/X90/RS50/60/45/55/65)",
    .operation "back" [0x30, 0x33]
      "Back - Steps backwards through menus and removes any OSD messages",
    .operation "bnr_off" [0x31, 0x30] "BNR (Block Noise Reduction) - Off",
    .operation "bnr_on" [0x30, 0x46] "BNR (Block Noise Reduction) - On",
    .operation "bright_level_down" [0x41, 0x33] "Bright Level - (X7/X9/X70/X90/RS50/60/55/65)",
    .operation "bright_level_up" [0x41, 0x32] "Bright Level + (X7/X9/X70/X90/RS50/60/55/65)",
    .operation "brightness_down" [0x37, 0x42] "Brightness –",
    .operation "brightness_up" [0x37, 0x41] "Brightness +",
    .operation "brightness_adj" [0x30, 0x39] "Brightness Adj. (Adjustment Bar On/Off toggle)",
    .operation "cec_off" [0x35, 0x37] "CEC - Off",
    .operation "cec_on" [0x35, 0x36] "CEC - On",
    .operation "cmd_next" [0x38, 0x41]
      ("Clear Motion Drive - Cycles through: Off/ Mode 1/Mode 2/Mode 3/Mode 4/Inverse " ++
       "Telecine (X3/X7/X9/X30/X70/X90/RS40/50/60/45/55/65)"),
    .operation "cmd_off" [0x34, 0x37]
      "Clear Motion Drive - Off (X3/X7/X9/X30/X70/X90/RS40/50/60/45/55/65)",
    .operation "cmd_mode_1" [0x43, 0x45]
      "Clear Motion Drive - Mode 1 (X3/X7/X9/X30/X70/X90/RS40/50/60/45/55/65)",
    .operation "cmd_mode_2" [0x43, 0x46]
      "Clear Motion Drive - Mode 2 (X3/X7/X9/X30/X70/X90/RS40/50/60/45/55/65)",
    .operation "cmd_mode_3" [0x34, 0x38]
      "Clear Motion Drive - Mode 3 (X3/X7/X9/X30/X70/X90/RS40/50/60/45/55/65)",
    .operation "cmd_mode_4" [0x34, 0x39]
      "Clear Motion Drive - Mode 4 (X3/X7/X9/X30/X70/X90/RS40/50/60/45/55/65)",
    .operation "cmd_inverse_telecine" [0x34, 0x41]
      "Clear Motion Drive - Inverse Telecine (X3/X7/X9/X30/X70/X90/RS40/50/60/45/55/65)",
    .operation "colour_down" [0x37, 0x44] "Colour –",
    .operation "colour_up" [0x37, 0x43] "Colour +",
    .operation "colour_adj" [0x31, 0x35] "Colour Adj. (Adjustment Bar On/Off toggle)",
    .operation "colour_management_off" [0x36, 0x30]
      "Colour Management - Off (HD750/950/990/ X7/X9/RS20/25/35/50/60/55/65)",
    .operation "colour_management_custom_1" [0x36, 0x31]
      "Colour Management - Custom 1 (HD750/950/ 990/X7/X9/RS20/25/35/50/60/55/65)",
    .operation "colour_management_custom_2" [0x36, 0x32]
      "Colour Management - Custom 2 (HD750/950/ 990/X7/X9/RS20/25/35/50/60/55/65)",
    .operation "colour_management_custom_3" [0x36, 0x33]
      "Colour Management - Custom 3 (HD750/950/ 990/X7/X9/RS20/25/35/50/60/55/65)",
    .operation "colour_management_next" [0x38, 0x39]
      ("Colour Management - Cycles through: Off/ Custom 1/Custom 2/Custom 3 " ++
       "(X7/X9/X70/X90/RS50/60/55/65)"),
    .operation "colour_profile_next" [0x38, 0x38]
      ("Colour Profile - Cycles through all available Colour Profiles " ++
       "(X7/X9/X79/X90/RS50/60/55/65)"),
    .operation "colour_space_next" [0x43, 0x44]
      "Colour Space - Cycles through Standard/ Wide 1/Wide 2 (X3/X30/RS40/RS45)",
    .operation "colour_temp_5800k" [0x34, 0x45]
      "Colour Temp. - 5800K (HD350/550/750/950/990/RS10/15/20/25/35)",
    .operation "colour_temp_6500k" [0x34, 0x46] "Colour Temp. - 6500K",
    .operation "colour_temp_7500k" [0x35, 0x30]
      "Colour Temp. - 7500K (HD350/550/750/950/990/RS10/15/20/25/35)",
    .operation "colour_temp_9300k" [0x35, 0x31]
      "Colour Temp. - 9300K (HD350/550/750/950/990/RS10/15/20/25/35)",
    .operation "colour_temp_custom_1" [0x35, 0x33] "Colour Temp. - Custom 1",
    .operation "colour_temp_custom_2" [0x35, 0x34] "Colour Temp. - Custom 2",
    .operation "colour_temp_custom_3" [0x35, 0x35] "Colour Temp. - Custom 3",
    .operation "colour_temp_high_bright" [0x35, 0x32]
      "Colour Temp. - High Bright (HD350/550/750/ 950/990/X3/X30/RS10/15/20/25/35/40/45)",
    .operation "colour_temp_next" [0x37, 0x36] "Colour Temp. + (cycles through all options)",
    .operation "colour_temperature_gain_blue_down" [0x39, 0x31]
      "Colour Temperature Gain Blue – (X3/X7/X9/X30/X70/X90/RS40/50/60/45/55/65)",
    .operation "colour_temperature_gain_blue_up" [0x39, 0x30]
      "Colour Temperature Gain Blue + (X3/X7/X9/X30/X70/X90/RS40/50/60/45/55/65)",
    .operation "colour_temperature_gain_green_down" [0x38, 0x46]
      "Colour Temperature Gain Green – (X3/X7/X9/X30/X70/X90/RS40/50/60/45/55/65)",
    .operation "colour_temperature_gain_green_up" [0x38, 0x45]
      "Colour Temperature Gain Green + (X3/X7/X9/X30/X70/X90/RS40/50/60/45/55/65)",
    .operation "colour_temperature_gain_red_down" [0x38, 0x44]
      "Colour Temperature Gain Red – (X3/X7/X9/X30/X70/X90/RS40/50/60/45/55/65)",
    .operation "colour_temperature_gain_red_up" [0x38, 0x43]
      "Colour Temperature Gain Red + (X3/X7/X9/X30/X70/X90/RS40/50/60/45/55/65)",
    .operation "colour_temperature_offset_blue_down" [0x39, 0x37]
      "Colour Temperature Offset Blue – (X3/X7/X9/X30/X70/X90/RS40/50/60/45/55/65)",
    .operation "colour_temperature_offset_blue_up" [0x39, 0x36]
      "Colour Temperature Offset Blue + (X3/X7/X9/X30/X70/X90/RS40/50/60/45/55/65)",
    .operation "colour_temperature_offset_green_down" [0x39, 0x35]
      "Colour Temperature Offset Green – (X3/X7/X9/X30/X70/X90/RS40/50/60/45/55/65)",
    .operation "colour_temperature_offset_green_up" [0x39, 0x34]
      "Colour Temperature Offset Green + (X3/X7/X9/X30/X70/X90/RS40/50/60/45/55/65)",
    .operation "colour_temperature_offset_red_down" [0x39, 0x33]
      "Colour Temperature Offset Red – (X3/X7/X9/X30/X70/X90/RS40/50/60/45/55/65)",
    .operation "colour_temperature_offset_red_up" [0x39, 0x32]
      "Colour Temperature Offset Red + (X3/X7/X9/X30/X70/X90/RS40/50/60/45/55/65)",
    .operation "contrast_down" [0x37, 0x39] "Contrast –",
    .operation "contrast_up" [0x37, 0x38] "Contrast +",
    .operation "contrast_adj" [0x30, 0x41] "Contrast Adj. (Adjustment Bar On/Off toggle)",
    .operation "cti_off" [0x35, 0x43]
      "CTI (Colour Transient Improvement) - Off (HD350/550/750/950/990/RS10/15/20/25/35)",
    .operation "cti_low" [0x35, 0x44]
      "CTI (Colour Transient Improvement) - Low (HD350/550/750/950/990/RS10/15/20/25/35)",
    .operation "cti_middle" [0x35, 0x45]
      "CTI (Colour Transient Improvement) - Middle (HD350/550/750/950/990/RS10/15/20/25/35)",
    .operation "cti_high" [0x35, 0x46]
      "CTI (Colour Transient improvement) - High (HD350/550/750/950/990/RS10/15/20/25/35)",
    .operation "cursor_down" [0x30, 0x32] "Cursor Down ▼",
    .operation "cursor_left" [0x33, 0x36] "Cursor Left ◄",
    .operation "cursor_right" [0x33, 0x34] "Cursor Right ►",
    .operation "cursor_up" [0x30, 0x31] "Cursor Up ▲",
    .operation "dark_level_down" [0x41, 0x35] "Dark Level – (X7/X9/X70/X90/RS50/60/55/65)",
    .operation "dark_level_up" [0x41, 0x34] "Dark Level + (X7/X9/X70/X90/RS50/60/55/65)",
    .operation "detail_enhance_down" [0x31, 0x32] "Detail Enhance –",
    .operation "detail_enhance_up" [0x31, 0x31] "Detail Enhance +",
    .operation "picture_tone_blue_down" [0x41, 0x31]
      "Picture Tone Blue – (X7/X9/RS50/60 - Film Mode Only) (X70/X90/RS55/65 - All Modes)",
    .operation "picture_tone_blue_up" [0x41, 0x30]
      "Picture Tone Blue + (X7/X9/RS50/60 - Film Mode Only) (X70/X90/RS55/65 - All Modes)",
    .operation "picture_tone_green_down" [0x39, 0x46]
      "Picture Tone Green – (X7/X9/RS50/60 - Film Mode Only) (X70/X90/RS55/65 - All Modes)",
    .operation "picture_tone_green_up" [0x39, 0x45]
      "Picture Tone Green + (X7/X9/RS50/60 - Film Mode Only) (X70/X90/RS55/65 - All Modes)",
    .operation "picture_tone_red_down" [0x39, 0x44]
      "Picture Tone Red – (X7/X9/RS50/60 - Film Mode Only) (X70/X90/RS55/65 - All Modes)",
    .operation "picture_tone_red_up" [0x39, 0x43]
      "Picture Tone Red + (X7/X9/RS50/60 - Film Mode Only) (X70/X90/RS55/65 - All Modes)",
    .operation "picture_tone_white_down" [0x39, 0x42]
      "Picture Tone White – (X7/X9/RS50/60 - Film Mode Only) (X70/X90/RS55/65 - All Modes)",
    .operation "picture_tone_white_up" [0x39, 0x41]
      "Picture Tone White + (X7/X9/RS50/60 - Film Mode Only) (X70/X90/RS55/65 - All Modes)",
    .operation "gamma_a" [0x33, 0x39] "Gamma - A",
    .operation "gamma_b" [0x33, 0x41] "Gamma - B",
    .operation "gamma_c" [0x33, 0x42] "Gamma - C",
    .operation "gamma_custom_1" [0x33, 0x43] "Gamma - Custom 1",
    .operation "gamma_custom_2" [0x33, 0x44] "Gamma - Custom 2",
    .operation "gamma_custom_3" [0x33, 0x45] "Gamma - Custom 3",
    .operation "gamma_d" [0x33, 0x46]
      "Gamma - D (HD550/950/990/X3/X7/X9/ X30/X70/X90/RS15/25/35/40/50/60/45/55/65)",
    .operation "gamma_normal" [0x33, 0x38] "Gamma - Normal",
    .operation "gamma_next" [0x37, 0x35] "Gamma + (cycles through all options)",
    .operation "hide_off" [0x44, 0x31] "Hide - Off (X3/X7/X9/X30/X70/X90/RS40/50/60/45/55/65)",
    .operation "hide_on" [0x44, 0x30] "Hide - On (X3/X7/X9/X30/X70/X90/RS40/50/60/45/55/65)",
    .operation "hide" [0x31, 0x44] "Hide (On/Off toggle)",
    .operation "horizontal_position_down" [0x41, 0x42]
      "Horizontal Position – (X3/X7/X9/X30/X70/X90/RS40/50/60/45/55/65)",
    .operation "horizontal_position_up" [0x41, 0x41]
      "Horizontal Position + (X3/X7/X9/X30/X70/X90/RS40/50/60/45/55/65)",
    .operation "information" [0x37, 0x34] "Information (displays Information tab of menu)",
    .operation "input_component" [0x34, 0x44] "Input - Component",
    .operation "input_hdmi_1" [0x37, 0x30] "Input - HDMI 1",
    .operation "input_hdmi_2" [0x37, 0x31] "Input - HDMI 2",
    .operation "input_pc" [0x34, 0x36]
      "Input - PC (HD750/950/990/X7/X9/X70/X90 RS20/25/35/50/60/55/65)",
    .operation "input_s_video" [0x34, 0x43] "Input - S-Video (HD350/550/750/950/990)",
    .operation "input_video" [0x34, 0x42] "Input - Video (HD350/550/750/950/990)",
    .operation "input_next" [0x30, 0x38] "Input + (cycles through all available inputs)",
    .operation "isf_day" [0x36, 0x34] "ISF - Day (X7/X9/X70/X90/RS50/60/55/65)",
    .operation "isf_night" [0x36, 0x35] "ISF - Night (X7/X9/X70/X90/RS50/60/55/65)",
    .operation "isf_off" [0x35, 0x41] "ISF - Off (HD950/990/X7/X9/X70/X90/ RS25/35/50/60/55/65)",
    .operation "isf_on" [0x35, 0x42] "ISF - On (HD950/990/X7/X9/X70/X90/ RS25/35/50/60/55/65)",
    .operation "keystone_correction_horizontal_down" [0x34, 0x31]
      "Keystone Correction Horizontal –",
    .operation "keystone_correction_horizontal_up" [0x34, 0x30] "Keystone Correction Horizontal +",
    .operation "keystone_correction_vertical_down" [0x31, 0x43] "Keystone Correction Vertical –",
    .operation "keystone_correction_vertical_up" [0x31, 0x42] "Keystone Correction Vertical +",
    .operation "lens_aperture_1" [0x32, 0x38] "Lens Aperture - 1 (HD350/HD550)",
    .operation "lens_aperture_2" [0x32, 0x39] "Lens Aperture - 2 (HD350/HD550)",
    .operation "lens_aperture_3" [0x32, 0x41] "Lens Aperture - 3 (HD350/HD550)",
    .operation "lens_aperture_down" [0x31, 0x46]
      ("Lens Aperture – If Lens Aperture Gauge is not displayed - displays gauge. If Lens " ++
       "Aperture Gauge is already displayed - Lens Aperture is decreased " ++
       "(X3/X7/X9/X30/X70/X90/RS40/50/60/45/55/65)"),
    .operation "lens_aperture_up" [0x31, 0x45]
      ("Lens Aperture + If Lens Aperture Gauge is not displayed - displays gauge. If Lens " ++
       "Aperture Gauge is already displayed - Lens Aperture is increased " ++
       "(X3/X7/X9/X30/X70/X90/RS40/50/60/45/55/65)"),
    .operation "lens_aperture_adj" [0x32, 0x30]
      ("Lens Aperture Adj. (HD350/750/950/990/ RS10/20/25/35 - Adjustment Bar On/Off " ++
       "toggle) (X3/X7/X9/X30/X70/X90/RS40/50/60/45/55/65 - Displays Adjustment Bar) " ++
       "(HD550/RS15 - Cycles through all options)"),
    .operation "lens_control_next" [0x33, 0x30] "Lens Control (cycles through all options)",
    .operation "lens_focus_down" [0x33, 0x32] "Lens Focus –",
    .operation "lens_focus_up" [0x33, 0x31] "Lens Focus +",
    .operation "lens_memory_next" [0x44, 0x34]
      ("Lens Memory - Cycles through Lens Memory Pages: Select/Save/Name Edit " ++
       "(X30/X70/X90/RS45/55/65)"),
    .operation "lens_memory_1" [0x44, 0x38] "Lens Memory 1 (X30/X70/X90/RS45/55/65)",
    .operation "lens_memory_2" [0x44, 0x39] "Lens Memory 2 (X30/X70/X90/RS45/55/65)",
    .operation "lens_memory_3" [0x44, 0x41] "Lens Memory 3 (X30/X70/X90/RS45/55/65)",
    .operation "lens_shift_down" [0x32, 0x32] "Lens Shift - Down",
    .operation "lens_shift_left" [0x34, 0x34] "Lens Shift - Left",
    .operation "lens_shift_right" [0x34, 0x33] "Lens Shift - Right",
    .operation "lens_shift_up" [0x32, 0x31] "Lens Shift - Up",
    .operation "lens_zoom_in" [0x33, 0x35] "Lens Zoom - In",
    .operation "lens_zoom_out" [0x33, 0x37] "Lens Zoom - Out",
    .operation "mask_bottom_down" [0x42, 0x38]
      "Mask Bottom – (X3/X7/X9/X30/X70/X90/RS40/50/60/45/55/65)",
    .operation "mask_bottom_up" [0x42, 0x37]
      "Mask Bottom + (X3/X7/X9/X30/X70/X90/RS40/50/60/45/55/65)",
    .operation "mask_left_down" [0x42, 0x32]
      "Mask Left – (X3/X7/X9/X30/X70/X90/RS40/50/60/45/55/65)",
    .operation "mask_left_up" [0x42, 0x31]
      "Mask Left + (X3/X7/X9/X30/X70/X90/RS40/50/60/45/55/65)",
    .operation "mask_right_down" [0x42, 0x34]
      "Mask Right – (X3/X7/X9/X30/X70/X90/RS40/50/60/45/55/65)",
    .operation "mask_right_up" [0x42, 0x33]
      "Mask Right + (X3/X7/X9/X30/X70/X90/RS40/50/60/45/55/65)",
    .operation "mask_top_down" [0x42, 0x36]
      "Mask Top – (X3/X7/X9/X30/X70/X90/RS40/50/60/45/55/65)",
    .operation "mask_top_up" [0x42, 0x35] "Mask Top + (X3/X7/X9/X30/X70/X90/RS40/50/60/45/55/65)",
    .operation "menu" [0x32, 0x45] "Menu (On/Off toggle)",
    .operation "menu_position" [0x34, 0x32]
      "Menu Position (HD550/950/990/X3/X7/X9/ X30/X70/X90/RS15/25/35/40/50/60/45/55/65)",
    .operation "mnr_down" [0x30, 0x45] "MNR (Mosquito Noise Reduction) –",
    .operation "mnr_up" [0x30, 0x44] "MNR (Mosquito Noise Reduction) +",
    .operation "nr" [0x31, 0x38]
      "NR (toggles display of RNR/MNR) (HD350/550/750/950/990/RS10/15/20/25/35)",
    .operation "ok" [0x32, 0x46] "OK (to accept currently selected option)",
    .operation "phase_down" [0x41, 0x39] "Phase (PC Input) – (X7/X9/X70/X90/RS50/60/55/65)",
    .operation "phase_up" [0x41, 0x38] "Phase (PC Input) + (X7/X9/X70/X90/RS50/60/55/65)",
    .operation "picture_adjust" [0x37, 0x32]
      "Picture Adjust (HD550/750/990/X3/X7/X9/ X30/X70/X90/RS15/25/35/40/50/60/45/55/65)",
    .operation "picture_mode_3d" [0x38, 0x37]
      "Picture Mode - 3D (X3/X7/X9/X30/X70/X90/RS40/50/60/45/55/65)",
    .operation "picture_mode_cinema_1" [0x36, 0x39]
      "Picture Mode - Cinema 1 (X3/X7/X9/X30/X70/ X90/RS40/50/60/45/55/65 - Film Mode)",
    .operation "picture_mode_cinema_2" [0x36, 0x38]
      "Picture Mode - Cinema 2 (X3/X7/X9/X30/X70/ X90/RS40/50/60/45/55/65 - Cinema Mode)",
    .operation "picture_mode_cinema_3" [0x36, 0x36]
      ("Picture Mode - Cinema 3 (HD550/750/990/ RS15/25/35) (X3/X7/X9/X30/X70/X90/ " ++
       "RS40/50/60/45/55/65 - Animation Mode)"),
    .operation "picture_mode_dynamic" [0x36, 0x42]
      "Picture Mode - Dynamic (HD350/550/750/950/990)",
    .operation "picture_mode_natural" [0x36, 0x41] "Picture Mode - Natural",
    .operation "picture_mode_stage" [0x36, 0x37] "Picture Mode - Stage",
    .operation "picture_mode_thx" [0x36, 0x46]
      "Picture Mode - THX (HD750/950/990/X7/X9/ X70/X90/RS20/25/35/50/60/55/65)",
    .operation "picture_mode_user_1" [0x36, 0x43] "Picture Mode - User 1",
    .operation "picture_mode_user_2" [0x36, 0x44] "Picture Mode - User 2",
    .operation "picture_mode_user_3" [0x36, 0x45]
      "Picture Mode - User 3 (HD550/750/950/990/ X3/X30/RS20/25/35/40/45)",
    .operation "picture_mode_user_4" [0x43, 0x41] "Picture Mode - User 4 (X30/X70/X90/RS45/55/65)",
    .operation "picture_mode_user_5" [0x43, 0x42] "Picture Mode - User 5 (X30/X70/X90/RS45/55/65)",
    .operation "pixel_shift_horizontal_blue_down" [0x42, 0x45]
      "Pixel Shift - Horizontal Blue – (X3/X7/X9/X30/X70/X90/RS40/50/60/45/55/65)",
    .operation "pixel_shift_horizontal_blue_up" [0x42, 0x44]
      "Pixel Shift - Horizontal Blue + (X3/X7/X9/X30/X70/X90/RS40/50/60/45/55/65)",
    .operation "pixel_shift_horizontal_green_down" [0x42, 0x43]
      "Pixel Shift - Horizontal Green – (X3/X7/X9/X30/X70/X90/RS40/50/60/45/55/65)",
    .operation "pixel_shift_horizontal_green_up" [0x42, 0x42]
      "Pixel Shift - Horizontal Green + (X3/X7/X9/X30/X70/X90/RS40/50/60/45/55/65)",
    .operation "pixel_shift_horizontal_red_down" [0x42, 0x41]
      "Pixel Shift - Horizontal Red – (X3/X7/X9/X30/X70/X90/RS40/50/60/45/55/65)",
    .operation "pixel_shift_horizontal_red_up" [0x42, 0x39]
      "Pixel Shift - Horizontal Red + (X3/X7/X9/X30/X70/X90/RS40/50/60/45/55/65)",
    .operation "pixel_shift_vertical_blue_down" [0x43, 0x34]
      "Pixel Shift - Vertical Blue – (X3/X7/X9/X30/X70/X90/RS40/50/60/45/55/65)",
    .operation "pixel_shift_vertical_blue_up" [0x43, 0x33]
      "Pixel Shift - Vertical Blue + (X3/X7/X9/X30/X70/X90/RS40/50/60/45/55/65)",
    .operation "pixel_shift_vertical_green_down" [0x43, 0x32]
      "Pixel Shift - Vertical Green – (X3/X7/X9/X30/X70/X90/RS40/50/60/45/55/65)",
    .operation "pixel_shift_vertical_green_up" [0x43, 0x31]
      "Pixel Shift - Vertical Green + (X3/X7/X9/X30/X70/X90/RS40/50/60/45/55/65)",
    .operation "pixel_shift_vertical_red_down" [0x43, 0x30]
      "Pixel Shift - Vertical Red – (X3/X7/X9/X30/X70/X90/RS40/50/60/45/55/65)",
    .operation "pixel_shift_vertical_red_up" [0x42, 0x46]
      "Pixel Shift - Vertical Red + (X3/X7/X9/X30/X70/X90/RS40/50/60/45/55/65)",
    .operation "power_off" [0x30, 0x36]
      "Power - Off (send twice with short delay between to switch off)",
    .operation "power_on" [0x30, 0x35] "Power - On",
    .operation "rnr_down" [0x30, 0x43] "RNR (Random Noise Reduction) –",
    .operation "rnr_up" [0x30, 0x42] "RNR (Random Noise Reduction) +",
    .operation "screen_adjust_off" [0x38, 0x30] "Screen Adjust - Off (X3/X30/RS40/45)",
    .operation "screen_adjust_a" [0x38, 0x31] "Screen Adjust - A (X3/X30/RS40/45)",
    .operation "screen_adjust_b" [0x38, 0x32] "Screen Adjust - B (X3/X30/RS40/45)",
    .operation "screen_adjust_c" [0x38, 0x33] "Screen Adjust - C (X3/X30/RS40/45)",
    .operation "sharpness_down" [0x37, 0x46] "Sharpness –",
    .operation "sharpness_up" [0x37, 0x45] "Sharpness +",
    .operation "sharpness_adj" [0x31, 0x34] "Sharpness Adj. (Adjustment Bar On/Off toggle)",
    .operation "shutter_close" [0x31, 0x39]
      "Shutter - Close (HD550/950/990/X3/X7/X9/ X30/X70/X90/RS15/25/35/40/50/60/45/55/65)",
    .operation "shutter_open" [0x31, 0x41]
      "Shutter - Open (HD550/950/990/X3/X7/X9/ X30/X70/X90/RS15/25/35/40/50/60/45/55/65)",
    .operation "shutter_off" [0x32, 0x44]
      ("Shutter - Off - Un-synchronises shutter with “Hide” function " ++
       "(HD550/950/990/X3/X7/X9/ X30/X70/X90/RS15/25/35/40/50/60/45/55/65)"),
    .operation "shutter_on" [0x32, 0x43]
      ("Shutter - On - Synchronises shutter with “Hide” function (HD550/950/990/X3/X7/X9/ " ++
       "X30/X70/X90/RS15/25/35/40/50/60/45/55/65)"),
    .operation "test_pattern_next" [0x35, 0x39]
      "Test Pattern (cycles through all patterns) (HD350/550/750/950/990/RS10/15/20/25/35)",
    .operation "thx_bright" [0x38, 0x35] "THX - Bright (X7/X9/X70/X90/RS50/60/55/65)",
    .operation "thx_dark" [0x38, 0x36] "THX - Dark (X7/X9/X70/X90/RS50/60/55/65)",
    .operation "thx_off" [0x43, 0x37] "THX - Off (X7/X9/X70/X90/RS50/60/55/65)",
    .operation "thx_on" [0x43, 0x38] "THX - On (X7/X9/X70/X90/RS50/60/55/65)",
    .operation "tint_down" [0x39, 0x39] "Tint – (X3/X7/X9/X30/X70/X90/RS40/ 50/60/45/55/65)",
    .operation "tint_up" [0x39, 0x38] "Tint + (X3/X7/X9/X30/X70/X90/RS40/ 50/60/45/55/65)",
    .operation "tint_adj" [0x31, 0x36] "Tint Adj. (Adjustment Bar On/Off toggle)",
    .operation "tracking_down" [0x41, 0x37] "Tracking – (PC Input) (X7/X9/X70/X90/RS50/60/55/65)",
    .operation "tracking_up" [0x41, 0x36] "Tracking + (PC Input) (X7/X9/X70/X90/RS50/60/55/65)",
    .operation "user_next" [0x44, 0x37]
      "User - Cycles through User 1 - User 5 Picture Modes (X30/X70/X90/RS45/55/65)",
    .operation "vertical_position_down" [0x41, 0x44]
      "Vertical Position – (X3/X7/X9/X30/X70/X90/RS40/50/60/45/55/65)",
    .operation "vertical_position_up" [0x41, 0x43]
      "Vertical Position + (X3/X7/X9/X30/X70/X90/RS40/50/60/45/55/65)"]

end ProjectorControl.CommandTable
