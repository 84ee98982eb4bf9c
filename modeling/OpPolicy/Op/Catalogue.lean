import OpPolicy.Op.Basic

set_option autoImplicit false

/-!
The ops that Android knows. A row gives number, name, public name, switch, permission, user
restriction, default mode, whether the system bypasses the restriction, and whether a reset
reaches the op.
-/

namespace OpPolicy.Catalogue

def rows : List OpRow := [
    ⟨0, "COARSE_LOCATION", some "android:coarse_location", 0,
      some "android.permission.ACCESS_COARSE_LOCATION", some "no_share_location",
      .allowed, true, true⟩,
    ⟨1, "FINE_LOCATION", some "android:fine_location", 0,
      some "android.permission.ACCESS_FINE_LOCATION", some "no_share_location",
      .allowed, true, true⟩,
    ⟨2, "GPS", some "android:gps", 0,
      none, some "no_share_location",
      .allowed, false, true⟩,
    ⟨3, "VIBRATE", some "android:vibrate", 3,
      some "android.permission.VIBRATE", none,
      .allowed, false, true⟩,
    ⟨4, "READ_CONTACTS", some "android:read_contacts", 4,
      some "android.permission.READ_CONTACTS", none,
      .allowed, false, true⟩,
    ⟨5, "WRITE_CONTACTS", some "android:write_contacts", 5,
      some "android.permission.WRITE_CONTACTS", none,
      .allowed, false, true⟩,
    ⟨6, "READ_CALL_LOG", some "android:read_call_log", 6,
      some "android.permission.READ_CALL_LOG", some "no_outgoing_calls",
      .allowed, false, true⟩,
    ⟨7, "WRITE_CALL_LOG", some "android:write_call_log", 7,
      some "android.permission.WRITE_CALL_LOG", some "no_outgoing_calls",
      .allowed, false, true⟩,
    ⟨8, "READ_CALENDAR", some "android:read_calendar", 8,
      some "android.permission.READ_CALENDAR", none,
      .allowed, false, true⟩,
    ⟨9, "WRITE_CALENDAR", some "android:write_calendar", 9,
      some "android.permission.WRITE_CALENDAR", none,
      .allowed, false, true⟩,
    ⟨10, "WIFI_SCAN", some "android:wifi_scan", 0,
      some "android.permission.ACCESS_WIFI_STATE", some "no_share_location",
      .allowed, true, true⟩,
    ⟨11, "POST_NOTIFICATION", some "android:post_notification", 11,
      none, none,
      .allowed, false, true⟩,
    ⟨12, "NEIGHBORING_CELLS", some "android:neighboring_cells", 0,
      none, none,
      .allowed, false, true⟩,
    ⟨13, "CALL_PHONE", some "android:call_phone", 13,
      some "android.permission.CALL_PHONE", none,
      .allowed, false, true⟩,
    ⟨14, "READ_SMS", some "android:read_sms", 14,
      some "android.permission.READ_SMS", some "no_sms",
      .allowed, false, true⟩,
    ⟨15, "WRITE_SMS", some "android:write_sms", 15,
      none, some "no_sms",
      .ignored, false, false⟩,
    ⟨16, "RECEIVE_SMS", some "android:receive_sms", 16,
      some "android.permission.RECEIVE_SMS", some "no_sms",
      .allowed, false, true⟩,
    ⟨17, "RECEIVE_EMERGECY_SMS", some "android:receive_emergency_broadcast", 16,
      some "android.permission.RECEIVE_EMERGENCY_BROADCAST", none,
      .allowed, false, true⟩,
    ⟨18, "RECEIVE_MMS", some "android:receive_mms", 18,
      some "android.permission.RECEIVE_MMS", some "no_sms",
      .allowed, false, true⟩,
    ⟨19, "RECEIVE_WAP_PUSH", some "android:receive_wap_push", 19,
      some "android.permission.RECEIVE_WAP_PUSH", none,
      .allowed, false, true⟩,
    ⟨20, "SEND_SMS", some "android:send_sms", 20,
      some "android.permission.SEND_SMS", some "no_sms",
      .allowed, false, true⟩,
    ⟨21, "READ_ICC_SMS", some "android:read_icc_sms", 14,
      some "android.permission.READ_SMS", some "no_sms",
      .allowed, false, true⟩,
    ⟨22, "WRITE_ICC_SMS", some "android:write_icc_sms", 15,
      none, some "no_sms",
      .allowed, false, true⟩,
    ⟨23, "WRITE_SETTINGS", some "android:write_settings", 23,
      some "android.permission.WRITE_SETTINGS", none,
      .default, false, true⟩,
    ⟨24, "SYSTEM_ALERT_WINDOW", some "android:system_alert_window", 24,
      some "android.permission.SYSTEM_ALERT_WINDOW", some "no_create_windows",
      .default, true, true⟩,
    ⟨25, "ACCESS_NOTIFICATIONS", some "android:access_notifications", 25,
      some "android.permission.ACCESS_NOTIFICATIONS", none,
      .allowed, false, true⟩,
    ⟨26, "CAMERA", some "android:camera", 26,
      some "android.permission.CAMERA", some "no_camera",
      .allowed, false, true⟩,
    ⟨27, "RECORD_AUDIO", some "android:record_audio", 27,
      some "android.permission.RECORD_AUDIO", some "no_record_audio",
      .allowed, false, true⟩,
    ⟨28, "PLAY_AUDIO", some "android:play_audio", 28,
      none, none,
      .allowed, false, true⟩,
    ⟨29, "READ_CLIPBOARD", some "android:read_clipboard", 29,
      none, none,
      .allowed, false, true⟩,
    ⟨30, "WRITE_CLIPBOARD", some "android:write_clipboard", 30,
      none, none,
      .allowed, false, true⟩,
    ⟨31, "TAKE_MEDIA_BUTTONS", some "android:take_media_buttons", 31,
      none, none,
      .allowed, false, true⟩,
    ⟨32, "TAKE_AUDIO_FOCUS", some "android:take_audio_focus", 32,
      none, none,
      .allowed, false, true⟩,
    ⟨33, "AUDIO_MASTER_VOLUME", some "android:audio_master_volume", 33,
      none, some "no_adjust_volume",
      .allowed, false, true⟩,
    ⟨34, "AUDIO_VOICE_VOLUME", some "android:audio_voice_volume", 34,
      none, some "no_adjust_volume",
      .allowed, false, true⟩,
    ⟨35, "AUDIO_RING_VOLUME", some "android:audio_ring_volume", 35,
      none, some "no_adjust_volume",
      .allowed, false, true⟩,
    ⟨36, "AUDIO_MEDIA_VOLUME", some "android:audio_media_volume", 36,
      none, some "no_adjust_volume",
      .allowed, false, true⟩,
    ⟨37, "AUDIO_ALARM_VOLUME", some "android:audio_alarm_volume", 37,
      none, some "no_adjust_volume",
      .allowed, false, true⟩,
    ⟨38, "AUDIO_NOTIFICATION_VOLUME", some "android:audio_notification_volume", 38,
      none, some "no_adjust_volume",
      .allowed, false, true⟩,
    ⟨39, "AUDIO_BLUETOOTH_VOLUME", some "android:audio_bluetooth_volume", 39,
      none, some "no_adjust_volume",
      .allowed, false, true⟩,
    ⟨40, "WAKE_LOCK", some "android:wake_lock", 40,
      some "android.permission.WAKE_LOCK", none,
      .allowed, false, true⟩,
    ⟨41, "MONITOR_LOCATION", some "android:monitor_location", 0,
      none, some "no_share_location",
      .allowed, false, true⟩,
    ⟨42, "MONITOR_HIGH_POWER_LOCATION", some "android:monitor_location_high_power", 0,
      none, some "no_share_location",
      .allowed, false, true⟩,
    ⟨43, "GET_USAGE_STATS", some "android:get_usage_stats", 43,
      some "android.permission.PACKAGE_USAGE_STATS", none,
      .default, false, true⟩,
    ⟨44, "MUTE_MICROPHONE", some "android:mute_microphone", 44,
      none, some "no_unmute_microphone",
      .allowed, false, true⟩,
    ⟨45, "TOAST_WINDOW", some "android:toast_window", 45,
      none, some "no_create_windows",
      .allowed, true, true⟩,
    ⟨46, "PROJECT_MEDIA", some "android:project_media", 46,
      none, none,
      .ignored, false, true⟩,
    ⟨47, "ACTIVATE_VPN", some "android:activate_vpn", 47,
      none, none,
      .ignored, false, true⟩,
    ⟨48, "WRITE_WALLPAPER", some "android:write_wallpaper", 48,
      none, some "no_wallpaper",
      .allowed, false, true⟩,
    ⟨49, "ASSIST_STRUCTURE", some "android:assist_structure", 49,
      none, none,
      .allowed, false, true⟩,
    ⟨50, "ASSIST_SCREENSHOT", some "android:assist_screenshot", 50,
      none, none,
      .allowed, false, true⟩,
    ⟨51, "OP_READ_PHONE_STATE", some "android:read_phone_state", 51,
      some "android.permission.READ_PHONE_STATE", none,
      .allowed, false, true⟩,
    ⟨52, "ADD_VOICEMAIL", some "android:add_voicemail", 52,
      some "com.android.voicemail.permission.ADD_VOICEMAIL", none,
      .allowed, false, true⟩,
    ⟨53, "USE_SIP", some "android:use_sip", 53,
      some "android.permission.USE_SIP", none,
      .allowed, false, true⟩,
    ⟨54, "PROCESS_OUTGOING_CALLS", some "android:process_outgoing_calls", 54,
      some "android.permission.PROCESS_OUTGOING_CALLS", none,
      .allowed, false, true⟩,
    ⟨55, "USE_FINGERPRINT", some "android:use_fingerprint", 55,
      some "android.permission.USE_FINGERPRINT", none,
      .allowed, false, true⟩,
    ⟨56, "BODY_SENSORS", some "android:body_sensors", 56,
      some "android.permission.BODY_SENSORS", none,
      .allowed, false, true⟩,
    ⟨57, "READ_CELL_BROADCASTS", some "android:read_cell_broadcasts", 57,
      some "android.permission.READ_CELL_BROADCASTS", none,
      .allowed, false, true⟩,
    ⟨58, "MOCK_LOCATION", some "android:mock_location", 58,
      none, none,
      .errored, false, true⟩,
    ⟨59, "READ_EXTERNAL_STORAGE", some "android:read_external_storage", 59,
      some "android.permission.READ_EXTERNAL_STORAGE", none,
      .allowed, false, true⟩,
    ⟨60, "WRITE_EXTERNAL_STORAGE", some "android:write_external_storage", 60,
      some "android.permission.WRITE_EXTERNAL_STORAGE", none,
      .allowed, false, true⟩,
    ⟨61, "TURN_ON_SCREEN", some "android:turn_screen_on", 61,
      none, none,
      .allowed, false, true⟩,
    ⟨62, "GET_ACCOUNTS", some "android:get_accounts", 62,
      some "android.permission.GET_ACCOUNTS", none,
      .allowed, false, true⟩,
    ⟨63, "RUN_IN_BACKGROUND", some "android:run_in_background", 63,
      none, none,
      .allowed, false, true⟩,
    ⟨64, "AUDIO_ACCESSIBILITY_VOLUME", some "android:audio_accessibility_volume", 64,
      none, some "no_adjust_volume",
      .allowed, false, true⟩,
    ⟨65, "READ_PHONE_NUMBERS", some "android:read_phone_numbers", 65,
      some "android.permission.READ_PHONE_NUMBERS", none,
      .allowed, false, true⟩,
    ⟨66, "REQUEST_INSTALL_PACKAGES", some "android:request_install_packages", 66,
      some "android.permission.REQUEST_INSTALL_PACKAGES", none,
      .default, false, true⟩,
    ⟨67, "PICTURE_IN_PICTURE", some "android:picture_in_picture", 67,
      none, none,
      .allowed, false, true⟩,
    ⟨68, "INSTANT_APP_START_FOREGROUND", some "android:instant_app_start_foreground", 68,
      some "android.permission.INSTANT_APP_FOREGROUND_SERVICE", none,
      .default, false, true⟩,
    ⟨69, "ANSWER_PHONE_CALLS", some "android:answer_phone_calls", 69,
      some "android.permission.ANSWER_PHONE_CALLS", none,
      .allowed, false, true⟩,
    ⟨70, "RUN_ANY_IN_BACKGROUND", some "android:run_any_in_background", 70,
      none, none,
      .allowed, false, true⟩,
    ⟨71, "CHANGE_WIFI_STATE", some "android:change_wifi_state", 71,
      some "android.permission.CHANGE_WIFI_STATE", none,
      .allowed, false, true⟩,
    ⟨72, "REQUEST_DELETE_PACKAGES", some "android:request_delete_packages", 72,
      some "android.permission.REQUEST_DELETE_PACKAGES", none,
      .allowed, false, true⟩,
    ⟨73, "BIND_ACCESSIBILITY_SERVICE", some "android:bind_accessibility_service", 73,
      some "android.permission.BIND_ACCESSIBILITY_SERVICE", none,
      .allowed, false, true⟩,
    ⟨74, "ACCEPT_HANDOVER", some "android:accept_handover", 74,
      some "android.permission.ACCEPT_HANDOVER", none,
      .allowed, false, true⟩,
    ⟨75, "MANAGE_IPSEC_TUNNELS", some "android:manage_ipsec_tunnels", 75,
      none, none,
      .errored, false, true⟩,
    ⟨76, "START_FOREGROUND", some "android:start_foreground", 76,
      some "android.permission.FOREGROUND_SERVICE", none,
      .allowed, false, true⟩,
    ⟨77, "BLUETOOTH_SCAN", some "android:bluetooth_scan", 0,
      none, none,
      .allowed, true, true⟩]

def columns : OpColumns := OpColumns.ofRows rows

/-- The ops that runtime and app op permissions lead back to. -/
def runtimeOps : List OpId :=
  [4, 5, 62, 8, 9, 20, 16, 14, 19, 18, 57, 59, 60, 0, 1, 51, 65, 13, 6, 7, 52, 53, 54, 69, 74,
    27, 26, 56, 25, 24, 23, 66, 76]

end OpPolicy.Catalogue
