/-
The settings: `src/globals.h`, `nv_app_state_init` in `src/main.c`, and the menus of
`src/ui/menu_bagl.c` and `src/ui/menu_nbgl.c`.

The settings are three bytes in the storage of the device, which the code compares with the
values of three enumerations. The menus write them. On a device with buttons they are lists,
whose selectors write a value and go back; on one with a touch screen they are switches, whose
callback writes the opposite of what the page has shown. `settings_stay_valid` is the invariant
of both; `list_shows_setting` and `touch_flips_iff` say what the user gets.
-/
import RenecLedger.Conversation

set_option autoImplicit false

open MachineLib

namespace RenecLedger

/-! ## Storage -/

def BlindSignDisabled : UInt8 := 0
def BlindSignEnabled : UInt8 := 1
def PubkeyDisplayLong : UInt8 := 0
def PubkeyDisplayShort : UInt8 := 1
def DisplayModeUser : UInt8 := 0
def DisplayModeExpert : UInt8 := 1

/-- The three settings the user can change; the rest of the storage has no menu. -/
inductive Setting
  | allow_blind_sign
  | pubkey_display
  | display_mode
deriving DecidableEq

/-- `AppSettings` of the source: the bytes as they are stored. -/
structure StoredSettings where
  allow_blind_sign : UInt8
  pubkey_display : UInt8
  display_mode : UInt8
deriving DecidableEq

/-- `internalStorage_t`: the settings, and the mark that they have been set up. It
survives the app, and another version may have left any bytes in it. -/
structure InternalStorage where
  settings : StoredSettings
  initialized : UInt8
deriving DecidableEq

/-- The byte a setting is stored in. -/
def InternalStorage.read (N_storage : InternalStorage) : Setting → UInt8
  | .allow_blind_sign => N_storage.settings.allow_blind_sign
  | .pubkey_display => N_storage.settings.pubkey_display
  | .display_mode => N_storage.settings.display_mode

/-- `nvm_write` of one setting. -/
def InternalStorage.write (N_storage : InternalStorage) (value : UInt8) :
    Setting → InternalStorage
  | .allow_blind_sign =>
    { N_storage with settings := { N_storage.settings with allow_blind_sign := value } }
  | .pubkey_display =>
    { N_storage with settings := { N_storage.settings with pubkey_display := value } }
  | .display_mode =>
    { N_storage with settings := { N_storage.settings with display_mode := value } }

/-- The devices of the build. The three with buttons share one menu, the last has a
touch screen. -/
inductive Target
  | TARGET_NANOS
  | TARGET_NANOX
  | TARGET_NANOS2
  | TARGET_STAX
deriving DecidableEq

/-- Defaults, unless the storage has been set before. -/
def nv_app_state_init (target : Target) (N_storage : InternalStorage) : InternalStorage :=
  if N_storage.initialized ≠ 0x01 then
    { settings :=
        { allow_blind_sign := BlindSignDisabled
          pubkey_display :=
            if target = .TARGET_NANOX ∨ target = .TARGET_NANOS2 ∨ target = .TARGET_STAX then
              PubkeyDisplayLong
            else PubkeyDisplayShort
          display_mode := DisplayModeUser }
      initialized := 0x01 }
  else N_storage

/-- What the comparisons of the handlers and the displays read off the bytes. Each
compares with one of the two values, so a byte that is neither counts as the other one. -/
def InternalStorage.app_settings (N_storage : InternalStorage) : AppSettings where
  allow_blind_sign := N_storage.settings.allow_blind_sign = BlindSignEnabled
  pubkey_display_long := N_storage.settings.pubkey_display = PubkeyDisplayLong
  display_mode_expert := N_storage.settings.display_mode = DisplayModeExpert

/-- What a configuration command copies to the buffer. -/
def get_app_configuration (N_storage : InternalStorage) : List UInt8 :=
  [N_storage.settings.allow_blind_sign, N_storage.settings.pubkey_display, MAJOR_VERSION,
    MINOR_VERSION, PATCH_VERSION]

/-! ## The lists of a device with buttons -/

/-- The list on the screen, with the entry that is selected when it opens. -/
inductive Menu
  | ux_idle_flow
  | settings_submenu (selected : ℕ)
  | data (setting : Setting) (selected : ℕ)
deriving DecidableEq

/-- The entries of the settings menu, as the getter returns them. -/
def settings_submenu_getter_values : List String :=
  ["Allow blind sign", "Pubkey length", "Display mode", "Back"]

/-- The entries of the menu for blind signing. -/
def no_yes_data_getter_values : List String := ["No", "Yes", "Back"]

/-- The entries of the menu for the length of displayed keys. -/
def pubkey_display_data_getter_values : List String := ["Long", "Short", "Back"]

/-- The entries of the menu for the display mode. -/
def display_mode_data_getter_values : List String := ["User", "Expert", "Back"]

/-- The entries that the menu of a setting offers. -/
def Setting.getter_values : Setting → List String
  | .allow_blind_sign => no_yes_data_getter_values
  | .pubkey_display => pubkey_display_data_getter_values
  | .display_mode => display_mode_data_getter_values

/-- The text of an entry; `none` is `NULL`, and ends the list. -/
def Menu.getter : Menu → ℕ → Option String
  | .ux_idle_flow, _ => none
  | .settings_submenu _, idx => settings_submenu_getter_values[idx]?
  | .data setting _, idx => setting.getter_values[idx]?

/-- The entry of a setting in the first list. -/
def settings_submenu_option_index : Setting → ℕ
  | .allow_blind_sign => 0
  | .pubkey_display => 1
  | .display_mode => 2

/-- The list of a setting opens at the stored value. -/
def settings_submenu_selector (idx : ℕ) (N_storage : InternalStorage) : Menu :=
  match idx with
  | 0 => .data .allow_blind_sign N_storage.settings.allow_blind_sign.toNat
  | 1 => .data .pubkey_display N_storage.settings.pubkey_display.toNat
  | 2 => .data .display_mode N_storage.settings.display_mode.toNat
  | _ => .ux_idle_flow

/-- The selectors of the three lists: one of two values is written, or none. -/
def data_selector (setting : Setting) (first second : UInt8) (idx : ℕ)
    (N_storage : InternalStorage) : InternalStorage :=
  match idx with
  | 0 => N_storage.write first setting
  | 1 => N_storage.write second setting
  | _ => N_storage

/-- What choosing an entry stores for blind signing. -/
def allow_blind_sign_data_selector : ℕ → InternalStorage → InternalStorage :=
  data_selector .allow_blind_sign BlindSignDisabled BlindSignEnabled

/-- What choosing an entry stores for the length of displayed keys. -/
def pubkey_display_data_selector : ℕ → InternalStorage → InternalStorage :=
  data_selector .pubkey_display PubkeyDisplayLong PubkeyDisplayShort

/-- What choosing an entry stores for the display mode. -/
def display_mode_data_selector : ℕ → InternalStorage → InternalStorage :=
  data_selector .display_mode DisplayModeUser DisplayModeExpert

/-- What choosing an entry of a setting's menu stores. -/
def Setting.selector : Setting → ℕ → InternalStorage → InternalStorage
  | .allow_blind_sign => allow_blind_sign_data_selector
  | .pubkey_display => pubkey_display_data_selector
  | .display_mode => display_mode_data_selector

/-- The selector of the list on the screen. -/
def Menu.selector : Menu → ℕ → InternalStorage → Menu × InternalStorage
  | .ux_idle_flow, _, N_storage => (.ux_idle_flow, N_storage)
  | .settings_submenu _, idx, N_storage => (settings_submenu_selector idx N_storage, N_storage)
  | .data setting _, idx, N_storage =>
    (.settings_submenu (settings_submenu_option_index setting), setting.selector idx N_storage)

/-! ## The switches of a device with a touch screen -/

/-- Whether `initState` is `ON_STATE` in the entries of `G_switches`. -/
structure Switches where
  blind_signing : Bool
  public_key_length : Bool
  display_mode : Bool
deriving DecidableEq

/-- Where the switch of a setting stands when its page is drawn. -/
def Switches.initState (G_switches : Switches) : Setting → Bool
  | .allow_blind_sign => G_switches.blind_signing
  | .pubkey_display => G_switches.public_key_length
  | .display_mode => G_switches.display_mode

/-- The second page has the switches, and reads the storage again; `none` is `false`. -/
def settings_nav_callback (page : ℕ) (N_storage : InternalStorage) (G_switches : Switches) :
    Option Switches :=
  match page with
  | 0 => some G_switches
  | 1 => some
    { blind_signing := N_storage.settings.allow_blind_sign ≠ BlindSignDisabled
      public_key_length := N_storage.settings.pubkey_display ≠ PubkeyDisplayLong
      display_mode := N_storage.settings.display_mode ≠ DisplayModeUser }
  | _ => none

/-- A switch is touched. The token of a switch goes by its setting. -/
def settings_controls_callback (token : Setting) (G_switches : Switches)
    (N_storage : InternalStorage) : InternalStorage :=
  -- the opposite of what the current toggle is
  N_storage.write (!G_switches.initState token).toUInt8 token

/-! ## The menus as a machine -/

/-- A menu of either interface: what is stored, what is open, and the switches of the
touch screen's page. -/
structure MenuState where
  target : Target
  N_storage : InternalStorage
  menu : Menu
  page : ℕ
  G_switches : Switches
deriving DecidableEq

/-- What the user does: in the lists, or on the pages. -/
inductive MenuInput
  | settings
  | select (idx : ℕ)
  | page (page : ℕ)
  | touch (token : Setting)
deriving DecidableEq

/-- An entry can be selected if the list has it, and a switch touched on its page. Every
other input has no effect on the device and is no step here. -/
def menu_step (m : MenuState) : MenuInput → Option MenuState
  | .settings =>
    if m.target ≠ .TARGET_STAX ∧ m.menu = .ux_idle_flow then
      some { m with menu := .settings_submenu 0 }
    else none
  | .select idx =>
    if m.target ≠ .TARGET_STAX ∧ (m.menu.getter idx).isSome then
      some { m with
        menu := (m.menu.selector idx m.N_storage).1
        N_storage := (m.menu.selector idx m.N_storage).2 }
    else none
  | .page page =>
    if m.target = .TARGET_STAX then
      (settings_nav_callback page m.N_storage m.G_switches).map fun G_switches =>
        { m with page, G_switches }
    else none
  | .touch token =>
    if m.target = .TARGET_STAX ∧ m.page = 1 then
      some { m with N_storage := settings_controls_callback token m.G_switches m.N_storage }
    else none

/-- The menus when the app starts: the first page has no switches. -/
def menu_start (target : Target) (N_storage : InternalStorage) : MenuState where
  target
  N_storage := nv_app_state_init target N_storage
  menu := .ux_idle_flow
  page := 0
  G_switches := ⟨false, false, false⟩

/-! ## What is stored -/

/-- A setting that is written is read back. -/
@[simp] theorem read_write (N_storage : InternalStorage) (value : UInt8) (setting : Setting) :
    (N_storage.write value setting).read setting = value := by
  cases setting <;> rfl

/-- Writing one setting leaves the others. -/
theorem read_write_ne {setting other : Setting} (h : other ≠ setting)
    (N_storage : InternalStorage) (value : UInt8) :
    (N_storage.write value setting).read other = N_storage.read other := by
  cases setting <;> cases other <;> first
    | rfl
    | exact absurd rfl h

/-- Writing a setting leaves the mark that the storage is set up. -/
@[simp] theorem write_initialized (N_storage : InternalStorage) (value : UInt8)
    (setting : Setting) : (N_storage.write value setting).initialized = N_storage.initialized := by
  cases setting <;> rfl

/-- Each setting is one of the two values of its enumeration, and the defaults are set.
The storage of a fresh device is not like this before the app has started once. -/
structure InternalStorage.Valid (N_storage : InternalStorage) : Prop where
  initialized : N_storage.initialized = 0x01
  values : ∀ setting, N_storage.read setting = 0 ∨ N_storage.read setting = 1

/-- Writing a flag keeps the storage valid, whichever setting it is for. -/
theorem InternalStorage.Valid.write {N_storage : InternalStorage} {value : UInt8}
    (h : N_storage.Valid) (hvalue : value = 0 ∨ value = 1) (setting : Setting) :
    (N_storage.write value setting).Valid := by
  refine ⟨(write_initialized _ _ _).trans h.initialized, fun other => ?_⟩
  by_cases hother : other = setting
  · rw [hother, read_write]
    exact hvalue
  · rw [read_write_ne hother]
    exact h.values other

/-- After the start the storage is valid, whether it was there before or is set up now. -/
theorem nv_app_state_init_valid (target : Target) {N_storage : InternalStorage}
    (h : N_storage.initialized = 0x01 → N_storage.Valid) :
    (nv_app_state_init target N_storage).Valid := by
  rw [nv_app_state_init]
  split
  · refine ⟨rfl, fun setting => ?_⟩
    cases setting with
    | allow_blind_sign => exact Or.inl rfl
    | pubkey_display =>
      cases target
      · exact Or.inr rfl
      · exact Or.inl rfl
      · exact Or.inl rfl
      · exact Or.inl rfl
    | display_mode => exact Or.inl rfl
  · rename_i hinit
    exact h (not_not.mp hinit)

/-- A storage that is valid is left alone. -/
theorem nv_app_state_init_eq (target : Target) {N_storage : InternalStorage}
    (h : N_storage.Valid) : nv_app_state_init target N_storage = N_storage := by
  rw [nv_app_state_init, if_neg (not_not.mpr h.initialized)]

/-- Choosing any entry, the way back included, keeps the storage valid. -/
theorem selector_valid {N_storage : InternalStorage} (h : N_storage.Valid) (setting : Setting)
    (idx : ℕ) : (setting.selector idx N_storage).Valid := by
  have hdata : ∀ first second : UInt8, first = 0 → second = 1 →
      (data_selector setting first second idx N_storage).Valid := by
    rintro _ _ rfl rfl
    unfold data_selector
    split
    · exact h.write (Or.inl rfl) setting
    · exact h.write (Or.inr rfl) setting
    · exact h
  cases setting with
  | allow_blind_sign => exact hdata _ _ rfl rfl
  | pubkey_display => exact hdata _ _ rfl rfl
  | display_mode => exact hdata _ _ rfl rfl

/-- What one input can do: the lists move or store a selection, the pages move or store a
touch. -/
theorem menu_step_cases {m t : MenuState} {i : MenuInput} (h : menu_step m i = some t) :
    (i = .settings ∧ m.target ≠ .TARGET_STAX ∧ t = { m with menu := .settings_submenu 0 }) ∨
    (∃ idx, i = .select idx ∧ m.target ≠ .TARGET_STAX ∧ (m.menu.getter idx).isSome ∧
      t = { m with
        menu := (m.menu.selector idx m.N_storage).1
        N_storage := (m.menu.selector idx m.N_storage).2 }) ∨
    (∃ page G_switches, i = .page page ∧ m.target = .TARGET_STAX ∧
      settings_nav_callback page m.N_storage m.G_switches = some G_switches ∧
      t = { m with page, G_switches }) ∨
    (∃ token, i = .touch token ∧ m.target = .TARGET_STAX ∧ m.page = 1 ∧
      t = { m with N_storage := settings_controls_callback token m.G_switches m.N_storage }) := by
  cases i with
  | settings =>
    rw [menu_step, Option.ite_none_right_eq_some] at h
    obtain ⟨⟨htarget, -⟩, h⟩ := h
    cases h
    exact Or.inl ⟨rfl, htarget, rfl⟩
  | select idx =>
    rw [menu_step, Option.ite_none_right_eq_some] at h
    obtain ⟨⟨htarget, hentry⟩, h⟩ := h
    cases h
    exact Or.inr (Or.inl ⟨idx, rfl, htarget, hentry, rfl⟩)
  | page page =>
    rw [menu_step, Option.ite_none_right_eq_some] at h
    obtain ⟨htarget, h⟩ := h
    obtain ⟨G_switches, hnav, rfl⟩ := Option.map_eq_some_iff.mp h
    exact Or.inr (Or.inr (Or.inl ⟨page, G_switches, rfl, htarget, hnav, rfl⟩))
  | touch token =>
    rw [menu_step, Option.ite_none_right_eq_some] at h
    obtain ⟨⟨htarget, hpage⟩, h⟩ := h
    cases h
    exact Or.inr (Or.inr (Or.inr ⟨token, rfl, htarget, hpage, rfl⟩))

/-- A switch is stored as a flag. -/
theorem toUInt8_values (b : Bool) : b.toUInt8 = 0 ∨ b.toUInt8 = 1 := by
  cases b
  · exact Or.inl rfl
  · exact Or.inr rfl

/-- One input to the menu of either interface keeps the storage valid. -/
theorem menu_step_valid {m t : MenuState} {i : MenuInput} (hm : m.N_storage.Valid)
    (h : menu_step m i = some t) : t.N_storage.Valid := by
  rcases menu_step_cases h with ⟨-, -, rfl⟩ | ⟨idx, -, -, -, rfl⟩ |
    ⟨page, G_switches, -, -, -, rfl⟩ | ⟨token, -, -, -, rfl⟩
  · exact hm
  · cases hmenu : m.menu with
    | ux_idle_flow => exact hm
    | settings_submenu selected => exact hm
    | data setting selected => exact selector_valid hm setting idx
  · exact hm
  · exact hm.write (toUInt8_values _) token

/-- What the configuration command sends is what the model of the app sends. -/
theorem configuration_valid {N_storage : InternalStorage} (h : N_storage.Valid) :
    get_app_configuration N_storage = configuration_data N_storage.app_settings := by
  have hblind : N_storage.settings.allow_blind_sign = 0 ∨
    N_storage.settings.allow_blind_sign = 1 := h.values .allow_blind_sign
  have hdisplay : N_storage.settings.pubkey_display = 0 ∨
    N_storage.settings.pubkey_display = 1 := h.values .pubkey_display
  rw [get_app_configuration, configuration_data, InternalStorage.app_settings]
  rcases hblind with hblind | hblind <;> rcases hdisplay with hdisplay | hdisplay <;>
    rw [hblind, hdisplay] <;> rfl

/-- So does a whole run of inputs, by induction on it. -/
theorem run_menu_valid {target : Target} {N_storage : InternalStorage}
    (hstart : N_storage.initialized = 0x01 → N_storage.Valid) {inputs : List MenuInput}
    {m : MenuState} (hrun : Run menu_step (menu_start target N_storage) inputs m) :
    m.N_storage.Valid :=
  hrun.invariant (P := fun m => m.N_storage.Valid) (nv_app_state_init_valid target hstart)
    fun _ _ _ hm h => menu_step_valid hm h

/-- **The settings stay valid**, whatever the user does in the menus, so that starting the app
again changes none of them, and the host is told the values that the handlers go by. -/
theorem settings_stay_valid {target : Target} {N_storage : InternalStorage}
    (hstart : N_storage.initialized = 0x01 → N_storage.Valid) {inputs : List MenuInput}
    {m : MenuState} (hrun : Run menu_step (menu_start target N_storage) inputs m) :
    m.N_storage.Valid ∧
      (∀ target', nv_app_state_init target' m.N_storage = m.N_storage) ∧
      get_app_configuration m.N_storage = configuration_data m.N_storage.app_settings := by
  have hvalid := run_menu_valid hstart hrun
  exact ⟨hvalid, fun target' => nv_app_state_init_eq target' hvalid, configuration_valid hvalid⟩

/-- A storage that has never been written, and a walk through the lists. -/
def fresh_storage : InternalStorage := ⟨⟨0, 0, 0⟩, 0⟩

theorem blind_signing_is_stored : ∃ m,
    Run menu_step (menu_start .TARGET_NANOS fresh_storage) [.settings, .select 0, .select 1] m ∧
    m.N_storage.app_settings.allow_blind_sign = true ∧ m.N_storage.Valid := by
  have hany : ∃ m, GuardedRun menu_step (fun _ _ => True)
      (menu_start .TARGET_NANOS fresh_storage) [.settings, .select 0, .select 1] m ∧
      m.N_storage.app_settings.allow_blind_sign = true := GuardedRun.any (by decide +kernel)
  obtain ⟨m, hrun, hblind⟩ := hany
  exact ⟨m, hrun.toRun, hblind, (settings_stay_valid (fun h => absurd h (by decide)) hrun.toRun).1⟩

/-! ## What the lists show -/

/-- The entry of a stored value. -/
def Setting.label (setting : Setting) (value : UInt8) : Option String :=
  setting.getter_values[value.toNat]?

/-- A list is open at the value that is stored. -/
def MenuState.OpenAtStored (m : MenuState) : Prop :=
  ∀ setting selected, m.menu = .data setting selected →
    selected = (m.N_storage.read setting).toNat

/-- A setting's menu opens at the entry that is stored. -/
theorem settings_submenu_selector_open {idx selected : ℕ} {N_storage : InternalStorage}
    {setting : Setting} (h : settings_submenu_selector idx N_storage = .data setting selected) :
    selected = (N_storage.read setting).toNat := by
  unfold settings_submenu_selector at h
  split at h
  all_goals
    cases h
    try rfl

/-- On a device with buttons, a step that opens a menu opens it at the entry stored. -/
theorem menu_step_open {m t : MenuState} {i : MenuInput} (htarget : m.target ≠ .TARGET_STAX)
    (h : menu_step m i = some t) :
    t.target ≠ .TARGET_STAX ∧ t.OpenAtStored := by
  rcases menu_step_cases h with ⟨-, -, rfl⟩ | ⟨idx, -, -, -, rfl⟩ | ⟨_, _, -, hstax, -, rfl⟩ |
    ⟨_, -, hstax, -, rfl⟩
  · exact ⟨htarget, fun _ _ hmenu => nomatch hmenu⟩
  · refine ⟨htarget, fun setting selected hopen => ?_⟩
    cases hmenu : m.menu with
    | ux_idle_flow =>
      rw [hmenu] at hopen
      cases hopen
    | settings_submenu selected' =>
      rw [hmenu] at hopen
      exact settings_submenu_selector_open hopen
    | data setting' selected' =>
      rw [hmenu] at hopen
      cases hopen
  · exact absurd hstax htarget
  · exact absurd hstax htarget

/-- The two entries of a list that are values, and the last one. -/
theorem data_entries {setting : Setting} {idx : ℕ} {text : String}
    (h : setting.getter_values[idx]? = some text) :
    (idx < 2 ∧ text ≠ "Back") ∨ (idx = 2 ∧ text = "Back") := by
  have hlen : setting.getter_values.length = 3 := by cases setting <;> rfl
  have hidx : idx < 3 := hlen ▸ (List.getElem?_eq_some_iff.mp h).1
  obtain rfl | rfl | rfl : idx = 0 ∨ idx = 1 ∨ idx = 2 := by omega
  · left
    cases setting <;> cases h <;> decide
  · left
    cases setting <;> cases h <;> decide
  · right
    cases setting <;> cases h <;> decide

/-- The entry that is selected becomes the stored value, or nothing is stored. -/
theorem selector_label {setting : Setting} {idx : ℕ} {text : String} (N_storage : InternalStorage)
    (h : setting.getter_values[idx]? = some text) :
    (text ≠ "Back" ∧ setting.label ((setting.selector idx N_storage).read setting) = some text ∧
      ∀ other, other ≠ setting →
        (setting.selector idx N_storage).read other = N_storage.read other) ∨
    (text = "Back" ∧ setting.selector idx N_storage = N_storage) := by
  rcases data_entries h with ⟨hidx, htext⟩ | ⟨rfl, htext⟩
  · left
    have hselector : ∃ value : UInt8, value.toNat = idx ∧
        setting.selector idx N_storage = N_storage.write value setting := by
      obtain rfl | rfl : idx = 0 ∨ idx = 1 := by omega
      · exact ⟨0, rfl, by cases setting <;> rfl⟩
      · exact ⟨1, rfl, by cases setting <;> rfl⟩
    obtain ⟨value, hvalue, hselector⟩ := hselector
    rw [hselector]
    refine ⟨htext, ?_, fun other hother => read_write_ne hother _ _⟩
    rw [read_write, Setting.label, hvalue]
    exact h
  · right
    exact ⟨htext, by cases setting <;> rfl⟩

/-- **The lists show what is stored**: on a device with buttons, the list of a setting opens at the
entry of its value, and selecting an entry stores the value of that entry, or nothing for the
last one. -/
theorem list_shows_setting {target : Target} (htarget : target ≠ .TARGET_STAX)
    {N_storage : InternalStorage} (hstart : N_storage.initialized = 0x01 → N_storage.Valid)
    {inputs : List MenuInput} {m : MenuState}
    (hrun : Run menu_step (menu_start target N_storage) inputs m) {setting : Setting}
    {selected : ℕ} (hmenu : m.menu = .data setting selected) :
    (∃ text, text ≠ "Back" ∧ m.menu.getter selected = some text ∧
      setting.label (m.N_storage.read setting) = some text) ∧
    ∀ idx text t, m.menu.getter idx = some text → menu_step m (.select idx) = some t →
      (text ≠ "Back" ∧ setting.label (t.N_storage.read setting) = some text ∧
        ∀ other, other ≠ setting → t.N_storage.read other = m.N_storage.read other) ∨
      (text = "Back" ∧ t.N_storage = m.N_storage) := by
  have hopen : m.target ≠ .TARGET_STAX ∧ m.OpenAtStored :=
    hrun.invariant (P := fun m => m.target ≠ .TARGET_STAX ∧ m.OpenAtStored)
      ⟨htarget, fun _ _ h => nomatch h⟩ fun _ _ _ hm h => menu_step_open hm.1 h
  have hvalid := run_menu_valid hstart hrun
  have hselected := hopen.2 setting selected hmenu
  rw [hmenu]
  refine ⟨?_, fun idx text t hentry h => ?_⟩
  · rw [hselected, Setting.label]
    rcases hvalid.values setting with hvalue | hvalue
    · rw [hvalue]
      cases setting
      · exact ⟨"No", by decide, rfl, rfl⟩
      · exact ⟨"Long", by decide, rfl, rfl⟩
      · exact ⟨"User", by decide, rfl, rfl⟩
    · rw [hvalue]
      cases setting
      · exact ⟨"Yes", by decide, rfl, rfl⟩
      · exact ⟨"Short", by decide, rfl, rfl⟩
      · exact ⟨"Expert", by decide, rfl, rfl⟩
  · rcases menu_step_cases h with ⟨hi, -, -⟩ | ⟨idx', hi, -, -, rfl⟩ | ⟨_, _, hi, -⟩ | ⟨_, hi, -⟩
    · cases hi
    · cases hi
      rw [hmenu]
      exact selector_label m.N_storage hentry
    · cases hi
    · cases hi

/-- The list of the display mode opens at the default. -/
theorem user_mode_is_shown : ∃ m,
    Run menu_step (menu_start .TARGET_NANOX fresh_storage) [.settings, .select 2] m ∧
    m.menu = .data .display_mode 0 ∧ m.menu.getter 0 = some "User" := by
  have hany : ∃ m, GuardedRun menu_step (fun _ _ => True)
      (menu_start .TARGET_NANOX fresh_storage) [.settings, .select 2] m ∧
      m.menu = .data .display_mode 0 ∧ m.N_storage.read .display_mode = 0 :=
    GuardedRun.any (by decide +kernel)
  obtain ⟨m, hrun, hmenu, hvalue⟩ := hany
  obtain ⟨⟨text, -, hentry, hlabel⟩, -⟩ := list_shows_setting (by decide)
    (fun h => absurd h (by decide)) hrun.toRun hmenu
  rw [hvalue] at hlabel
  cases hlabel
  exact ⟨m, hrun.toRun, hmenu, hentry⟩

/-! ## What a touch does -/

/-- Whether a switch has been touched since its page was put up. -/
def touched (inputs : List MenuInput) (token : Setting) : Bool :=
  (inputs.reverse.takeWhile fun i => i ≠ .page 1).contains (.touch token)

/-- When the page is drawn anew, no switch counts as touched. -/
theorem touched_page (inputs : List MenuInput) (token : Setting) :
    touched (inputs ++ [.page 1]) token = false := by
  rw [touched, List.reverse_append, List.reverse_singleton, List.singleton_append,
    List.takeWhile_cons_of_neg (by decide)]
  rfl

/-- An input touches its own switch, and leaves the others as they were. -/
theorem touched_snoc {i : MenuInput} (hi : i ≠ .page 1) (inputs : List MenuInput)
    (token : Setting) :
    touched (inputs ++ [i]) token = (decide (i = .touch token) || touched inputs token) := by
  rw [touched, List.reverse_append, List.reverse_singleton, List.singleton_append,
    List.takeWhile_cons, if_pos (decide_eq_true hi), List.contains_cons, touched]
  congr 1
  rw [Bool.eq_iff_iff, beq_iff_eq, decide_eq_true_iff]
  exact eq_comm

/-- On the page of the switches, a setting is what the switch has shown, or its opposite
once it was touched. It stays the opposite however often it is touched, as the page is
not drawn anew. -/
def MenuState.TouchedOnce (inputs : List MenuInput) (m : MenuState) : Prop :=
  m.page = 1 → ∀ token, m.N_storage.read token =
    (if touched inputs token then !m.G_switches.initState token
      else m.G_switches.initState token).toUInt8

/-- Drawing the page reads every switch from the storage. -/
theorem settings_nav_initState {N_storage : InternalStorage} (h : N_storage.Valid)
    {G_switches t : Switches} (hnav : settings_nav_callback 1 N_storage G_switches = some t)
    (token : Setting) : N_storage.read token = (t.initState token).toUInt8 := by
  have hbyte : ∀ value : UInt8, value = 0 ∨ value = 1 →
      value = (decide (value ≠ 0)).toUInt8 := by
    rintro _ (rfl | rfl)
    · rfl
    · rfl
  cases hnav
  cases token with
  | allow_blind_sign => exact hbyte _ (h.values .allow_blind_sign)
  | pubkey_display => exact hbyte _ (h.values .pubkey_display)
  | display_mode => exact hbyte _ (h.values .display_mode)

/-- On the touch screen, one step keeps `TouchedOnce`: drawing the page begins the
history anew, and a touch turns its own switch over. -/
theorem menu_step_touched {inputs : List MenuInput} {m t : MenuState} {i : MenuInput}
    (htarget : m.target = .TARGET_STAX) (hvalid : m.N_storage.Valid) (hm : m.TouchedOnce inputs)
    (h : menu_step m i = some t) :
    t.target = .TARGET_STAX ∧ t.TouchedOnce (inputs ++ [i]) := by
  rcases menu_step_cases h with ⟨-, hnot, -⟩ | ⟨_, -, hnot, -⟩ |
    ⟨page, G_switches, rfl, -, hnav, rfl⟩ | ⟨token, rfl, -, hpage, rfl⟩
  · exact absurd htarget hnot
  · exact absurd htarget hnot
  · refine ⟨htarget, fun hone token => ?_⟩
    change page = 1 at hone
    subst hone
    rw [touched_page, if_neg Bool.false_ne_true]
    exact settings_nav_initState hvalid hnav token
  · refine ⟨htarget, fun _ other => ?_⟩
    rw [touched_snoc (i := .touch token) nofun]
    change (m.N_storage.write _ token).read other = _
    by_cases hother : other = token
    · subst hother
      rw [read_write, decide_eq_true rfl, Bool.true_or, if_pos rfl]
    · have hne : MenuInput.touch token ≠ .touch other :=
        fun h => hother (MenuInput.touch.inj h).symm
      rw [read_write_ne hother, decide_eq_false hne, Bool.false_or]
      exact hm hpage other

/-- **A touch stores the opposite of what the page has shown**, so that it changes the setting
exactly when the switch has not been touched since the page was put up. -/
theorem touch_flips_iff {N_storage : InternalStorage}
    (hstart : N_storage.initialized = 0x01 → N_storage.Valid) {inputs : List MenuInput}
    {m t : MenuState} (hrun : Run menu_step (menu_start .TARGET_STAX N_storage) inputs m)
    {token : Setting} (h : menu_step m (.touch token) = some t) :
    t.N_storage.read token = (!m.G_switches.initState token).toUInt8 ∧
      (t.N_storage.read token ≠ m.N_storage.read token ↔ touched inputs token = false) := by
  have htouched : m.target = .TARGET_STAX ∧ m.TouchedOnce inputs := by
    have hall : m.N_storage.Valid ∧ m.target = .TARGET_STAX ∧ m.TouchedOnce inputs := by
      refine hrun.history_invariant (P := fun inputs m =>
        m.N_storage.Valid ∧ m.target = .TARGET_STAX ∧ m.TouchedOnce inputs) ?_ ?_
      · exact ⟨nv_app_state_init_valid _ hstart, rfl, fun h => nomatch h⟩
      · rintro inputs m i t ⟨hvalid, htarget, hm⟩ h
        exact ⟨menu_step_valid hvalid h, menu_step_touched htarget hvalid hm h⟩
    exact hall.2
  rcases menu_step_cases h with ⟨hi, -, -⟩ | ⟨_, hi, -⟩ | ⟨_, _, hi, -⟩ | ⟨_, hi, -, hpage, rfl⟩
  · cases hi
  · cases hi
  · cases hi
  · cases hi
    have hstored := htouched.2 hpage token
    have hflip : ∀ b : Bool, b.toUInt8 ≠ (!b).toUInt8 := by decide
    rw [hstored]
    change (m.N_storage.write _ token).read token = _ ∧
      ((m.N_storage.write _ token).read token ≠ _ ↔ _)
    rw [read_write]
    refine ⟨rfl, ?_⟩
    cases touched inputs token with
    | false => exact iff_of_true (hflip _).symm rfl
    | true => exact iff_of_false (not_not.mpr rfl) nofun

/-- A second touch stores what the first one has stored. -/
theorem second_touch_changes_nothing : ∃ m t,
    Run menu_step (menu_start .TARGET_STAX fresh_storage) [.page 1, .touch .allow_blind_sign] m ∧
    menu_step m (.touch .allow_blind_sign) = some t ∧
    t.N_storage.read .allow_blind_sign = m.N_storage.read .allow_blind_sign := by
  have hany : ∃ m, GuardedRun menu_step (fun _ _ => True)
      (menu_start .TARGET_STAX fresh_storage) [.page 1, .touch .allow_blind_sign] m ∧
      (menu_step m (.touch .allow_blind_sign)).isSome := GuardedRun.any (by decide +kernel)
  obtain ⟨m, hrun, hsome⟩ := hany
  obtain ⟨t, h⟩ := Option.isSome_iff_exists.mp hsome
  refine ⟨m, t, hrun.toRun, h, ?_⟩
  have hflips := (touch_flips_iff (fun h => absurd h (by decide)) hrun.toRun h).2
  by_contra hne
  exact absurd (hflips.mp hne) (by decide)

end RenecLedger
