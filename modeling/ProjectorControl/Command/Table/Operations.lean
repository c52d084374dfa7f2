import ProjectorControl.Command.Group

/-!
# Operations

The commands that change a setting, in groups that share a command code.  They carry no
payload, and are answered by an acknowledgement.
-/

namespace ProjectorControl.CommandTable

/-- Switching the projector on and off. -/
def power : CommandGroup where
  name := "power"
  code := .ofChars 'P' 'W'
  entries := [
    .operation "on" [0x31] "Power - On",
    .operation "off" [0x30] "Power - Off"]

/-- Choosing the video input. -/
def setInput : CommandGroup where
  name := "set_input"
  code := .ofChars 'I' 'P'
  entries := [
    .operation "hdmi_1" [0x36] "Input - HDMI 1",
    .operation "hdmi_2" [0x37] "Input - HDMI 2",
    .operation "component" [0x32] "Input - Component",
    .operation "s_video" [0x30] "Input - S-Video",
    .operation "video" [0x31] "Input - Video",
    .operation "pc" [0x33] "Input - PC",
    .operation "next" [0x2B] "Input + (Go to next highest input)",
    .operation "previous" [0x2D] "Input - (Go to next lowest input)"]

/-- Showing a test pattern. -/
def testPattern : CommandGroup where
  name := "test_pattern"
  code := .ofChars 'T' 'S'
  entries := [
    .operation "off" [0x30] "Test Pattern - Off",
    .operation "colour_bars" [0x31] "Test Pattern - Colour Bars",
    .operation "stair_step_black_and_white" [0x36] "Test Pattern - Stair step (black and white)",
    .operation "stair_step_red" [0x37] "Test Pattern - Stair step (red)",
    .operation "stair_step_green" [0x38] "Test Pattern - Stair step (green)",
    .operation "stair_step_blue" [0x39] "Test Pattern - Stair step (blue)",
    .operation "crosshatch_green" [0x41] "Test Pattern - Crosshatch (green)"]

/-- Choosing the gamma table. -/
def gamma : CommandGroup where
  name := "gamma"
  code := .ofChars 'G' 'T'
  entries := [
    .operation "normal" [0x30] "Gamma - Normal",
    .operation "a" [0x31] "Gamma - A",
    .operation "b" [0x32] "Gamma - B",
    .operation "c" [0x33] "Gamma - C",
    .operation "d" [0x37] "Gamma - D",
    .operation "custom_1" [0x34] "Gamma - Custom 1",
    .operation "custom_2" [0x35] "Gamma - Custom 2",
    .operation "custom_3" [0x36] "Gamma - Custom 3"]

/-- Choosing the gamma value. -/
def gammaValue : CommandGroup where
  name := "gamma_value"
  code := .ofChars 'G' 'P'
  entries := [
    .operation "1_8" [0x30] "Gamma Correction Value - 1.8",
    .operation "1_9" [0x31] "Gamma Correction Value - 1.9",
    .operation "2_0" [0x32] "Gamma Correction Value - 2.0",
    .operation "2_1" [0x33] "Gamma Correction Value - 2.1",
    .operation "2_2" [0x34] "Gamma Correction Value - 2.2 (Default)",
    .operation "2_3" [0x35] "Gamma Correction Value - 2.3",
    .operation "2_4" [0x36] "Gamma Correction Value - 2.4",
    .operation "2_5" [0x37] "Gamma Correction Value - 2.5",
    .operation "2_6" [0x38] "Gamma Correction Value - 2.6"]

/-- Setting the off timer. -/
def offTimer : CommandGroup where
  name := "off_timer"
  code := .ofChars 'F' 'U'
  leading := [0x4F, 0x54]
  entries := [
    .operation "off" [0x30] "Off Timer - Off",
    .operation "1_hour" [0x31] "Off Timer - Set 1 hour",
    .operation "2_hours" [0x32] "Off Timer - Set 2 hours",
    .operation "3_hours" [0x33] "Off Timer - Set 3 hours",
    .operation "4_hours" [0x34] "Off Timer - Set 4 hours"]

/-- Choosing the lamp power. -/
def lampPower : CommandGroup where
  name := "lamp_power"
  code := .ofChars 'P' 'M'
  leading := [0x4C, 0x50]
  entries := [
    .operation "normal" [0x30] "Lamp Power - Normal",
    .operation "high" [0x31] "Lamp Power - High"]

/-- Choosing the code of the infrared remote control. -/
def infraredRemoteCode : CommandGroup where
  name := "infrared_remote_code"
  code := .ofChars 'S' 'U'
  leading := [0x52, 0x43]
  entries := [
    .operation "a" [0x30] "Remote Code - A - hex code 73",
    .operation "b" [0x31] "Remote Code - B - hex code 63"]

/-- Choosing what drives the trigger output. -/
def triggerOutputSet : CommandGroup where
  name := "trigger_output_set"
  code := .ofChars 'F' 'U'
  leading := [0x54, 0x52]
  entries := [
    .operation "off" [0x30] "Trigger - Off",
    .operation "on_power" [0x31] "Trigger - On (Power)",
    .operation "on_anamorphic" [0x32] "Trigger - On (Anamorphic)"]

/-- Choosing the clear motion drive. -/
def clearMotionDrive : CommandGroup where
  name := "clear_motion_drive"
  code := .ofChars 'P' 'M'
  leading := [0x43, 0x4D]
  entries := [
    .operation "off" [0x30] "Clear Motion Drive - Off",
    .operation "mode_1" [0x31] "Clear Motion Drive - Mode 1 (Low - HD550/950/990)",
    .operation "mode_2" [0x32] "Clear Motion Drive - Mode 2 (High - HD550/950/990)",
    .operation "mode_3" [0x33]
      "Clear Motion Drive - Mode 3 (X3/X7/X9/X30/X70/X90/RS40/50/60/45/55/65)",
    .operation "mode_4" [0x34]
      "Clear Motion Drive - Mode 4 (X3/X7/X9/X30/X70/X90/RS40/50/60/45/55/65)",
    .operation "inverse_telecine" [0x35]
      "Clear Motion Drive - Inverse Telecine (X3/X7/X9/X30/X70/X90/RS40/50/60/45/55/65)"]

/-- Choosing the anamorphic mode. -/
def anamorphic : CommandGroup where
  name := "anamorphic"
  code := .ofChars 'I' 'N'
  leading := [0x56, 0x53]
  entries := [
    .operation "off" [0x30] "Anamorphic - Off",
    .operation "a" [0x31] "Anamorphic - A",
    .operation "b" [0x32] "Anamorphic - B"]

/-- Picture modes of the X30 generation, with codes of two bytes. -/
def pictureModeV1 : CommandGroup where
  name := "picture_mode_v1"
  code := .ofChars 'P' 'M'
  leading := [0x50, 0x4D]
  models := Model.x30Generation
  entries := [
    .operation "film" [0x30, 0x30] "Picture Mode - Film",
    .operation "cinema" [0x30, 0x31] "Picture Mode - Cinema",
    .operation "animation" [0x30, 0x32] "Picture Mode - Animation",
    .operation "natural" [0x30, 0x33] "Picture Mode - Natural",
    .operation "stage" [0x30, 0x34] "Picture Mode - Stage",
    .operation "thx" [0x30, 0x36] "Picture Mode - THX (X70/X90/RS55/65)",
    .operation "3d" [0x30, 0x42] "Picture Mode - 3D",
    .operation "user_1" [0x30, 0x43] "Picture Mode - User 1",
    .operation "user_2" [0x30, 0x44] "Picture Mode - User 2",
    .operation "user_3" [0x30, 0x45] "Picture Mode - User 3",
    .operation "user_4" [0x30, 0x46] "Picture Mode - User 4",
    .operation "user_5" [0x31, 0x30] "Picture Mode - User 5"]

/-- Picture modes of the X3 generation. -/
def pictureModeV2 : CommandGroup where
  name := "picture_mode_v2"
  code := .ofChars 'P' 'M'
  leading := [0x50, 0x4D]
  models := Model.x3Generation
  entries := [
    .operation "film" [0x30] "Picture Mode - Film",
    .operation "cinema" [0x31] "Picture Mode - Cinema",
    .operation "animation" [0x32] "Picture Mode - Animation",
    .operation "natural" [0x33] "Picture Mode - Natural",
    .operation "stage" [0x34] "Picture Mode - Stage",
    .operation "3d" [0x45] "Picture Mode - 3D",
    .operation "user_1" [0x36] "Picture Mode - User 1",
    .operation "user_2" [0x37] "Picture Mode - User 2",
    .operation "thx" [0x39] "Picture Mode - THX (X7/X9/RS50/60)"]

/-- Picture modes of the HD generation. -/
def pictureModeV3 : CommandGroup where
  name := "picture_mode_v3"
  code := .ofChars 'P' 'M'
  leading := [0x50, 0x4D]
  models := Model.hdGeneration
  entries := [
    .operation "cinema_1" [0x30] "Picture Mode - Cinema 1",
    .operation "cinema_2" [0x31] "Picture Mode - Cinema 2",
    .operation "cinema_3" [0x32] "Picture Mode - Cinema 3",
    .operation "natural" [0x33] "Picture Mode - Natural",
    .operation "stage" [0x34] "Picture Mode - Stage",
    .operation "user_1" [0x36] "Picture Mode - User 1",
    .operation "user_2" [0x37] "Picture Mode - User 2",
    .operation "thx" [0x39] "Picture Mode - THX (HD750/950/990/RS20/25/35)"]

/-- Choosing the colour profile. -/
def colourProfile : CommandGroup where
  name := "colour_profile"
  code := .ofChars 'P' 'M'
  leading := [0x50, 0x52]
  entries := [
    .operation "off" [0x30, 0x30] "Colour Profile - Off",
    .operation "film_1" [0x30, 0x31] "Colour Profile - Film 1 (in Film mode)",
    .operation "film_2" [0x30, 0x32] "Colour Profile - Film 2 (in Film mode)",
    .operation "standard" [0x30, 0x33]
      "Colour Profile - Standard (in Cinema, Natural, Stage & 3D modes)",
    .operation "cinema_1" [0x30, 0x34] "Colour Profile - Cinema 1 (in Cinema mode)",
    .operation "cinema_2" [0x30, 0x35] "Colour Profile - Cinema 2 (in Cinema mode)",
    .operation "anime_1" [0x30, 0x36] "Colour Profile - Anime 1 (in Animation mode)",
    .operation "anime_2" [0x30, 0x37] "Colour Profile - Anime 2 (in Animation mode)",
    .operation "video" [0x30, 0x38] "Colour Profile - Video (in Natural mode)",
    .operation "vivid" [0x30, 0x39] "Colour Profile - Vivid (in Natural & 3D modes)",
    .operation "adobe" [0x31, 0x41] "Colour Profile - Adobe (in Natural mode)",
    .operation "stage" [0x31, 0x42] "Colour Profile - Stage (in Stage mode)",
    .operation "3d" [0x31, 0x43] "Colour Profile - 3D (in 3D mode)",
    .operation "thx" [0x31, 0x44] "Colour Profile - THX (in THX mode)"]

/-- Choosing the 3D format. -/
def format3d : CommandGroup where
  name := "3d_format"
  code := .ofChars 'I' 'S'
  leading := [0x33, 0x44]
  entries := [
    .operation "off" [0x30] "3D Format - Off (2D)",
    .operation "auto" [0x31] "3D Format - Auto",
    .operation "frame_packing" [0x32] "3D Format - Frame Packing",
    .operation "side_by_side" [0x33] "3D Format - Side by Side",
    .operation "top_and_bottom" [0x34] "3D Format - Top and Bottom"]

/-- Converting flat pictures to 3D. -/
def conversion2dTo3d : CommandGroup where
  name := "2d_to_3d_conversion"
  code := .ofChars 'I' 'S'
  leading := [0x33, 0x43]
  entries := [
    .operation "off" [0x30] "2D to 3D Conversion - Off",
    .operation "on" [0x31] "2D to 3D Conversion - On"]

/-- Correcting subtitles in 3D. -/
def subtitleCorrection3d : CommandGroup where
  name := "3d_subtitle_correction"
  code := .ofChars 'I' 'S'
  leading := [0x33, 0x54]
  entries := [
    .operation "off" [0x31] "3D Subtitle Correction - Off",
    .operation "on" [0x30] "3D Subtitle Correction - On"]

/-- Recalling a lens memory. -/
def lensMemory : CommandGroup where
  name := "lens_memory"
  code := .ofChars 'I' 'N'
  leading := [0x4D]
  entries := [
    .operation "save_1" [0x53, 0x30] "Lens Memory Save - Memory 1",
    .operation "save_2" [0x53, 0x31] "Lens Memory Save - Memory 2",
    .operation "save_3" [0x53, 0x32] "Lens Memory Save - Memory 3",
    .operation "select_1" [0x4C, 0x30] "Lens Memory Select - Memory 1",
    .operation "select_2" [0x4C, 0x31] "Lens Memory Select - Memory 2",
    .operation "select_3" [0x4C, 0x32] "Lens Memory Select - Memory 3"]

/-- A command without effect, which tests the connection. -/
def testCommand : CommandGroup where
  name := "test_command"
  code := ⟨0x01, 0x00⟩
  entries := [
    .operation "null_command" [0x00] "Null Command (to check communication)"]

end ProjectorControl.CommandTable
