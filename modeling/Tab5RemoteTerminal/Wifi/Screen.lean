/-
**The WiFi screen** (`main/ui_wifi.c`).

`WifiUi` is the globals of the file, the page that is shown, and the running `scan_task`s and
`connect_task`s; an `Action` is a tap or the next step of one of the tasks. A scan task stores its
results, sets `s_scan_count` and rebuilds the rows in three steps, and any number of them run at
once: each `show_scan_screen` starts one. A row holds an index into `s_scan_results`, and its label
is made once.

* `RowsMatch`: every row, if tapped now, stands for the access point its label names;
* `rowsMatch_iff`: that holds in every state of a run exactly if no scan stores other results while
  rows are shown (`Undisturbed`), and every tap is then about the network of its label (`TapsLabel`).

The texts of the status label are left out, and so is its validity: it is on every page with rows.
-/

import Tab5RemoteTerminal.Library.Run
import Tab5RemoteTerminal.Store.WifiCreds

namespace Tab5

/-! ### The state -/

theorem apSsidRoom : 0 < 33 := by decide
theorem apPasswordRoom : 0 < 65 := by decide

/-- The fields of `wifi_ap_record_t` that are read; `authOpen` is `authmode == WIFI_AUTH_OPEN`. -/
structure ApRecord where
  ssid : CStr 33
  rssi : Int
  authOpen : Bool
deriving DecidableEq

instance : Inhabited ApRecord where
  default := ⟨.empty 33 apSsidRoom, 0, true⟩

/-- What `"%s  %ddBm%s"` is made of. -/
structure RowLabel where
  ssid : List UInt8
  rssi : Int
  secured : Bool
deriving DecidableEq, Repr

/-- A button of the list, with the user data of its callback. -/
structure ApRow where
  index : Fin 32
  label : RowLabel
deriving DecidableEq, Repr

/-- The screen that is loaded. `s_list_container` is valid on the first one only. -/
inductive WifiPage where
  | scan (rows : List ApRow)
  | password
  | elsewhere
deriving DecidableEq, Repr

/-- Where a `scan_task` is. -/
inductive ScanPhase where
  /-- in `wifi_manager_scan` -/
  | scanning
  /-- `s_scan_count = count` -/
  | fetched (count : Fin 33)
  /-- the locked block at the end -/
  | counted (count : Fin 33)
deriving DecidableEq, Repr

/-- `connect_args_t`. -/
structure ConnectTaskArgs where
  ssid : CStr 33
  password : CStr 65
deriving DecidableEq

structure WifiUi where
  sScanResults : Vector ApRecord 32
  sScanCount : Nat
  page : WifiPage
  sPwSsid : CStr 33
  scanTasks : List ScanPhase
  connectTasks : List ConnectTaskArgs
  creds : WifiCreds

inductive WifiUiAction where
  | uiWifiShow
  | rescanBtn
  | backBtn
  | tapRow (k : Nat) (allocated : Bool)
  | connectBtn (password : List UInt8) (allocated : Bool)
  | cancelBtn
  /-- The next step of a scan task; what the scan finds, or that it fails. -/
  | scanStep (i : Nat) (found : Option (List ApRecord))
  /-- The end of a connect task. -/
  | connected (i : Nat) (ok : Bool)
  /-- `wifi_creds_save`, by whoever has connected. -/
  | saved (creds : WifiCreds)

/-- Static memory. -/
def uiWifiInit (creds : WifiCreds) : WifiUi where
  sScanResults := Vector.replicate 32 default
  sScanCount := 0
  page := .elsewhere
  sPwSsid := .empty 33 apSsidRoom
  scanTasks := []
  connectTasks := []
  creds := creds

namespace WifiUi

/-- The rows on the screen. -/
def rows (s : WifiUi) : List ApRow :=
  match s.page with
  | .scan rows => rows
  | _ => []

/-! ### Connecting -/

/-- The `strncpy`s of `start_connect`. -/
def connectArgs (ssid password : List UInt8) : ConnectTaskArgs where
  ssid := .copy 33 apSsidRoom ssid
  password := .copy 65 apPasswordRoom password

/-- `start_connect`, whose `malloc` may fail. -/
def startConnect (s : WifiUi) (ssid password : List UInt8) (allocated : Bool) : WifiUi :=
  if allocated then { s with connectTasks := s.connectTasks ++ [connectArgs ssid password] } else s

/-- The end of `connect_task`. -/
def connectTask (s : WifiUi) (i : Nat) (ok : Bool) : WifiUi :=
  match s.connectTasks[i]? with
  | none => s
  | some _ =>
      { s with
        connectTasks := s.connectTasks.eraseIdx i
        page := if ok then .elsewhere else s.page }

/-! ### The scan screen -/

/-- `show_scan_screen`: a screen without rows, and a scan. -/
def showScanScreen (s : WifiUi) : WifiUi :=
  { s with page := .scan [], scanTasks := s.scanTasks ++ [.scanning] }

def showPasswordScreen (s : WifiUi) (apIndex : Fin 32) : WifiUi :=
  { s with
    sPwSsid := .copy 33 apSsidRoom (s.sScanResults.get apIndex).ssid.bytes
    page := .password }

/-- The access point `ap_row_click_cb` acts on. -/
def tappedAp (s : WifiUi) (index : Fin 32) : Option ApRecord :=
  if index < s.sScanCount then some (s.sScanResults.get index) else none

def apRowClickCb (s : WifiUi) (index : Fin 32) (allocated : Bool) : WifiUi :=
  match s.tappedAp index with
  | none => s
  | some ap =>
      if ap.authOpen then s.startConnect ap.ssid.bytes [] allocated
      else
        match s.creds.wifiCredsFind ap.ssid.bytes with
        | some saved => s.startConnect ap.ssid.bytes saved.password.bytes allocated
        | none => s.showPasswordScreen index

/-- The records of a scan: none if it fails, at most 32. -/
def scanned (found : Option (List ApRecord)) : List ApRecord := (found.getD []).take 32

theorem scanned_length (found : Option (List ApRecord)) : (scanned found).length < 33 := by
  rw [scanned, List.length_take]
  omega

/-- The first elements of `s_scan_results` are overwritten. -/
def storeRecords (results : Vector ApRecord 32) (records : List ApRecord) : Vector ApRecord 32 :=
  Vector.ofFn fun i => records[i.val]?.getD (results.get i)

/-- The rows `scan_task` makes. -/
def makeRows (results : Vector ApRecord 32) (count : Fin 33) : List ApRow :=
  ((List.finRange 32).take count).map fun i =>
    { index := i
      label := {
        ssid := (results.get i).ssid.bytes
        rssi := (results.get i).rssi
        secured := !(results.get i).authOpen } }

/-- One step of task `i`. -/
def scanTask (s : WifiUi) (i : Nat) (found : Option (List ApRecord)) : WifiUi :=
  match s.scanTasks[i]? with
  | none => s
  | some .scanning =>
      { s with
        sScanResults := storeRecords s.sScanResults (scanned found)
        scanTasks := s.scanTasks.set i (.fetched ⟨(scanned found).length, scanned_length found⟩) }
  | some (.fetched count) =>
      { s with sScanCount := count, scanTasks := s.scanTasks.set i (.counted count) }
  | some (.counted count) =>
      { s with
        page :=
          match s.page with
          | .scan _ => .scan (makeRows s.sScanResults count)
          | page => page
        scanTasks := s.scanTasks.eraseIdx i }

/-! ### One step -/

def step (s : WifiUi) : WifiUiAction → WifiUi
  | .uiWifiShow => if s.page = .elsewhere then s.showScanScreen else s
  | .rescanBtn =>
      match s.page with
      | .scan _ => s.showScanScreen
      | _ => s
  | .backBtn =>
      match s.page with
      | .scan _ => { s with page := .elsewhere }
      | _ => s
  | .tapRow k allocated =>
      match s.rows[k]? with
      | some row => s.apRowClickCb row.index allocated
      | none => s
  | .connectBtn password allocated =>
      if s.page = .password then s.startConnect s.sPwSsid.bytes password allocated else s
  | .cancelBtn => if s.page = .password then s.showScanScreen else s
  | .scanStep i found => s.scanTask i found
  | .connected i ok => s.connectTask i ok
  | .saved creds => { s with creds := creds }

/-! ### The rows and the results -/

/-- Every row that is shown stands for the access point its label names. -/
def RowsMatch (s : WifiUi) : Prop :=
  ∀ row ∈ s.rows, ∀ ap, s.tappedAp row.index = some ap → ap.ssid.bytes = row.label.ssid

/-- A tap on a row, where it does anything, connects to the network of its label or asks for the
password of that network. -/
def TapsLabel (s : WifiUi) : Prop :=
  ∀ k row allocated, s.rows[k]? = some row →
    let after := s.step (.tapRow k allocated)
    after = s ∨ (∃ password, after = s.startConnect row.label.ssid password allocated) ∨
      (after.page = .password ∧ after.sPwSsid.bytes = row.label.ssid)

/-- The results a scan stores, and the results a new count makes valid, are those of the rows. -/
def Undisturbed (s : WifiUi) : WifiUiAction → Prop
  | .scanStep i found =>
      match s.scanTasks[i]? with
      | some .scanning =>
          ∀ row ∈ s.rows, row.index < s.sScanCount →
            ∀ ap, (scanned found)[row.index.val]? = some ap → ap.ssid.bytes = row.label.ssid
      | some (.fetched count) =>
          ∀ row ∈ s.rows, s.sScanCount ≤ row.index → row.index.val < count.val →
            (s.sScanResults.get row.index).ssid.bytes = row.label.ssid
      | _ => True
  | _ => True

/-- The results are the same, and the rows too unless they have gone. -/
structure Kept (s after : WifiUi) : Prop where
  results : after.sScanResults = s.sScanResults
  count : after.sScanCount = s.sScanCount
  rows : after.rows = s.rows ∨ after.rows = []

variable {s : WifiUi}

theorem Kept.refl (s : WifiUi) : Kept s s := ⟨rfl, rfl, .inl rfl⟩

theorem RowsMatch.kept {after : WifiUi} (good : s.RowsMatch) (kept : Kept s after) :
    after.RowsMatch := by
  intro row shown ap tapped
  rcases kept.rows with same | gone
  · rw [tappedAp, kept.results, kept.count] at tapped
    exact good row (same ▸ shown) ap tapped
  · rw [gone] at shown
    cases shown

theorem startConnect_kept (s : WifiUi) (ssid password : List UInt8) (allocated : Bool) :
    Kept s (s.startConnect ssid password allocated) := by
  unfold startConnect
  split
  · exact ⟨rfl, rfl, .inl rfl⟩
  · exact .refl s

theorem apRowClickCb_kept (s : WifiUi) (index : Fin 32) (allocated : Bool) :
    Kept s (s.apRowClickCb index allocated) := by
  unfold apRowClickCb
  split
  · exact .refl s
  split
  · exact startConnect_kept s _ _ _
  split
  · exact startConnect_kept s _ _ _
  · exact ⟨rfl, rfl, .inr rfl⟩

/-- Only a scan task stores results or makes rows. -/
theorem step_kept (s : WifiUi) {action : WifiUiAction}
    (noScan : ∀ i found, action ≠ .scanStep i found) : Kept s (s.step action) := by
  cases action with
  | uiWifiShow =>
      simp only [step]
      split
      · exact ⟨rfl, rfl, .inr rfl⟩
      · exact .refl s
  | rescanBtn =>
      simp only [step]
      split
      · exact ⟨rfl, rfl, .inr rfl⟩
      · exact .refl s
  | backBtn =>
      simp only [step]
      split
      · exact ⟨rfl, rfl, .inr rfl⟩
      · exact .refl s
  | tapRow k allocated =>
      simp only [step]
      split
      · exact apRowClickCb_kept s _ _
      · exact .refl s
  | connectBtn password allocated =>
      simp only [step]
      split
      · exact startConnect_kept s _ _ _
      · exact .refl s
  | cancelBtn =>
      simp only [step]
      split
      · exact ⟨rfl, rfl, .inr rfl⟩
      · exact .refl s
  | scanStep i found => exact absurd rfl (noScan i found)
  | connected i ok =>
      simp only [step, connectTask]
      split
      · exact .refl s
      · cases ok with
        | false => exact ⟨rfl, rfl, .inl rfl⟩
        | true => exact ⟨rfl, rfl, .inr rfl⟩
  | saved creds => exact ⟨rfl, rfl, .inl rfl⟩

/-! ### A step of a scan -/

theorem rowsMatch_cells : s.RowsMatch ↔ ∀ row ∈ s.rows, row.index < s.sScanCount →
    (s.sScanResults.get row.index).ssid.bytes = row.label.ssid := by
  unfold RowsMatch tappedAp
  constructor
  · intro good row shown inside
    exact good row shown _ (if_pos inside)
  · intro same row shown ap tapped
    split at tapped
    · rename_i inside
      cases tapped
      exact same row shown inside
    · cases tapped

theorem storeRecords_get (results : Vector ApRecord 32) (records : List ApRecord)
    (i : Fin 32) : (storeRecords results records).get i = records[i.val]?.getD (results.get i) := by
  rw [storeRecords]
  exact Vector.getElem_ofFn i.isLt

/-- **Results are stored**: the rows still match exactly if they are those of the rows. -/
theorem rowsMatch_store (good : s.RowsMatch) {after : WifiUi} {records : List ApRecord}
    (results : after.sScanResults = storeRecords s.sScanResults records)
    (count : after.sScanCount = s.sScanCount) (page : after.page = s.page) :
    after.RowsMatch ↔ ∀ row ∈ s.rows, row.index < s.sScanCount →
      ∀ ap, records[row.index.val]? = some ap → ap.ssid.bytes = row.label.ssid := by
  have before := rowsMatch_cells.mp good
  have rows : after.rows = s.rows := by
    unfold WifiUi.rows
    rw [page]
  rw [rowsMatch_cells, results, count, rows]
  refine forall₃_congr fun row shown inside => ?_
  rw [storeRecords_get]
  cases records[row.index.val]? with
  | none => exact iff_of_true (before row shown inside) nofun
  | some record => exact ⟨fun same ap here => Option.some.inj here ▸ same, fun same => same _ rfl⟩

/-- **A new count**: the rows still match exactly if those it makes valid do. -/
theorem rowsMatch_count (good : s.RowsMatch) (count : Nat) (tasks : List ScanPhase) :
    RowsMatch { s with sScanCount := count, scanTasks := tasks } ↔
      ∀ row ∈ s.rows, s.sScanCount ≤ row.index → row.index.val < count →
        (s.sScanResults.get row.index).ssid.bytes = row.label.ssid := by
  rw [rowsMatch_cells]
  constructor
  · intro now row shown _ inside
    exact now row shown inside
  · intro same row shown inside
    by_cases before : row.index.val < s.sScanCount
    · exact rowsMatch_cells.mp good row shown before
    · exact same row shown (by omega) inside

/-- Rows that have just been made match. -/
theorem rowsMatch_makeRows (s : WifiUi) (count : Fin 33) (tasks : List ScanPhase) :
    RowsMatch { s with
      page :=
        match s.page with
        | .scan _ => .scan (makeRows s.sScanResults count)
        | page => page
      scanTasks := tasks } := by
  rw [rowsMatch_cells]
  intro row shown _
  cases page : s.page with
  | scan rows =>
      simp only [WifiUi.rows, page, makeRows] at shown
      obtain ⟨i, _, rfl⟩ := List.mem_map.mp shown
      rfl
  | password => simp [WifiUi.rows, page] at shown
  | elsewhere => simp [WifiUi.rows, page] at shown

/-- **A tap on a row that matches** is about the network of its label: it is connected to, or a
password for it is asked for. -/
theorem apRowClickCb_label (good : s.RowsMatch) {row : ApRow} (shown : row ∈ s.rows)
    (allocated : Bool) :
    s.apRowClickCb row.index allocated = s ∨
      (∃ password, s.apRowClickCb row.index allocated =
        s.startConnect row.label.ssid password allocated) ∨
      ((s.apRowClickCb row.index allocated).page = .password ∧
        (s.apRowClickCb row.index allocated).sPwSsid.bytes = row.label.ssid) := by
  unfold apRowClickCb
  cases tapped : s.tappedAp row.index with
  | none => exact .inl rfl
  | some ap =>
      have same := good row shown ap tapped
      have here : s.sScanResults.get row.index = ap := by
        unfold tappedAp at tapped
        split at tapped
        · exact Option.some.inj tapped
        · cases tapped
      dsimp only
      split
      · exact .inr (.inl ⟨_, by rw [same]⟩)
      split
      · exact .inr (.inl ⟨_, by rw [same]⟩)
      · refine .inr (.inr ⟨rfl, ?_⟩)
        rw [showPasswordScreen, here, CStr.copy_bytes, same]

theorem tapsLabel_of_rowsMatch (good : s.RowsMatch) : s.TapsLabel := by
  intro k row allocated here
  have tapped : s.step (.tapRow k allocated) = s.apRowClickCb row.index allocated := by
    simp only [step, here]
  rw [tapped]
  exact apRowClickCb_label good (List.mem_of_getElem? here) allocated

/-- **The exact condition of one step.** -/
theorem rowsMatch_step (s : WifiUi) (action : WifiUiAction) (good : s.RowsMatch) :
    (s.step action).RowsMatch ↔ s.Undisturbed action := by
  by_cases isScan : ∃ i found, action = .scanStep i found
  · obtain ⟨i, found, rfl⟩ := isScan
    simp only [step, scanTask, Undisturbed]
    cases s.scanTasks[i]? with
    | none => exact iff_of_true good trivial
    | some phase =>
        cases phase with dsimp only
        | scanning => exact rowsMatch_store good rfl rfl rfl
        | fetched count => exact rowsMatch_count good count _
        | counted count => exact iff_of_true (rowsMatch_makeRows s count _) trivial
  · have noScan : ∀ i found, action ≠ .scanStep i found := fun i found same =>
      isScan ⟨i, found, same⟩
    refine iff_of_true (good.kept (step_kept s noScan)) ?_
    cases action with
    | scanStep i found => exact absurd rfl (noScan i found)
    | _ => trivial

end WifiUi

open WifiUi

/-- **The tapped row is the network acted on**, in every state of a run, exactly if no scan stores
other results while rows are shown. -/
theorem rowsMatch_iff (creds : WifiCreds) (actions : List WifiUiAction) :
    (Run.Always step RowsMatch (uiWifiInit creds) actions ↔
      Run.Meets step Undisturbed (uiWifiInit creds) actions) ∧
    (Run.Meets step Undisturbed (uiWifiInit creds) actions →
      Run.Always step TapsLabel (uiWifiInit creds) actions) := by
  have always_iff : Run.Always step RowsMatch (uiWifiInit creds) actions ↔
      Run.Meets step Undisturbed (uiWifiInit creds) actions :=
    Run.always_iff_meets rowsMatch_step fun _ shown => absurd shown List.not_mem_nil
  refine ⟨always_iff, fun undisturbed => ?_⟩
  exact (always_iff.mpr undisturbed).mono fun _ good => tapsLabel_of_rowsMatch good

/-- An access point of one letter. -/
def namedAp (letter : UInt8) (named : [letter].contains 0 = false) : ApRecord where
  ssid := ⟨[letter], by simpa using named, by simp⟩
  rssi := -60
  authOpen := false

/-- A second scan is started before the first one ends; each finds one network. -/
def twoScans (first second : ApRecord) : List WifiUiAction :=
  [.uiWifiShow, .rescanBtn, .scanStep 0 (some [first]), .scanStep 0 none, .scanStep 0 none,
    .scanStep 0 (some [second])]

/-- The second scan replaces the network behind the row of the first. -/
theorem rowsMatch_fails :
    ¬ ∀ actions : List WifiUiAction,
      Run.Always step RowsMatch (uiWifiInit WifiCreds.fresh) actions := by
  intro always
  have good := (always (twoScans (namedAp 0x41 rfl) (namedAp 0x42 rfl))).last
  have wrong := good ⟨0, [0x41], -60, true⟩ (by decide +kernel) (namedAp 0x42 rfl)
    (by decide +kernel)
  cases wrong

end Tab5
