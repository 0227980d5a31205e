import MightyMouse.DispatcherSingleton

/-!
# The list of devices

`DeviceListActivity` shows the paired devices and those that a discovery has
found.  A row shows the name and the address of a device; when it is clicked,
the address is taken from the end of its text.  If there are no devices, a row
says so, and it can be clicked as well.
-/

namespace MightyMouse

open DispatcherSingleton hiding delimiter

namespace DeviceListActivity

/-- The string resource `none_paired`. -/
def nonePaired : List JavaChar :=
  javaText "No devices have been paired"

/-- The string resource `none_found`. -/
def noneFound : List JavaChar :=
  javaText "No devices found"

def newline : JavaChar := 10

/-- The text of a row.  In a Java concatenation, a name that is null is
written out. -/
def deviceText (device : BluetoothDevice) : List JavaChar :=
  device.name.getD (javaText "null") ++ newline :: device.address.toList

/-- A row of one of the lists, with the device that it was added for. -/
structure Row where
  text : List JavaChar
  device : Option BluetoothDevice
  deriving DecidableEq

def deviceRow (device : BluetoothDevice) : Row :=
  ⟨deviceText device, some device⟩

def noticeRow (text : List JavaChar) : Row :=
  ⟨text, none⟩

structure Lists where
  mPairedDevicesArrayAdapter : List Row
  mNewDevicesArrayAdapter : List Row

def Lists.rows (lists : Lists) : List Row :=
  lists.mPairedDevicesArrayAdapter ++ lists.mNewDevicesArrayAdapter

/-- The part of `onCreate` that fills the lists. -/
def onCreate (pairedDevices : List BluetoothDevice) : Lists where
  mPairedDevicesArrayAdapter :=
    if pairedDevices.length > 0 then pairedDevices.map deviceRow
    else [noticeRow nonePaired]
  mNewDevicesArrayAdapter := []

/-- The broadcasts that the receiver is registered for. -/
inductive Broadcast
  | actionFound (device : BluetoothDevice)
  | actionDiscoveryFinished
  deriving DecidableEq

/-- `mReceiver`. -/
def onReceive (lists : Lists) : Broadcast → Lists
  | .actionFound device =>
      if device.bondState ≠ .bondBonded then
        { lists with mNewDevicesArrayAdapter :=
            lists.mNewDevicesArrayAdapter ++ [deviceRow device] }
      else lists
  | .actionDiscoveryFinished =>
      if lists.mNewDevicesArrayAdapter.length = 0 then
        { lists with mNewDevicesArrayAdapter :=
            lists.mNewDevicesArrayAdapter ++ [noticeRow noneFound] }
      else lists

def receiveAll (lists : Lists) (broadcasts : List Broadcast) : Lists :=
  broadcasts.foldl onReceive lists

/-- `String.substring` with one argument, which throws on an index out of
bounds. -/
def substring (text : List JavaChar) (beginIndex : Int) :
    Option (List JavaChar) :=
  if beginIndex < 0 ∨ beginIndex > text.length then none
  else some (text.drop beginIndex.toNat)

/-- `mDeviceClickListener`: the address that is put into the result, or
nothing if the listener throws. -/
def onItemClick (row : Row) : Option (List JavaChar) :=
  let info := row.text
  substring info (info.length - 17)

section Rows

/-- Clicking the row yields the address of the paired or discovered device
that it stands for. -/
def YieldsAddress (pairedDevices : List BluetoothDevice)
    (broadcasts : List Broadcast) (row : Row) : Prop :=
  ∃ device, (device ∈ pairedDevices ∨ .actionFound device ∈ broadcasts) ∧
    row.device = some device ∧ onItemClick row = some device.address.toList

/-- The address is the end of the text, whatever the name is. -/
theorem onItemClick_deviceRow (device : BluetoothDevice) :
    onItemClick (deviceRow device) = some device.address.toList := by
  have split : deviceText device =
      (device.name.getD (javaText "null") ++ [newline]) ++
        device.address.toList := by
    simp [deviceText]
  have begins : ((deviceText device).length : Int) - 17 =
      ((device.name.getD (javaText "null") ++ [newline]).length : Nat) := by
    rw [split, List.length_append, Vector.length_toList]
    omega
  change substring (deviceText device) ((deviceText device).length - 17) = _
  have inBounds : ¬ ((deviceText device).length - 17 < (0 : Int) ∨
      (deviceText device).length - 17 > ((deviceText device).length : Int)) := by
    omega
  rw [substring, if_neg inBounds, begins, Int.toNat_natCast, split,
    List.drop_left]

theorem newline_mem_deviceText (device : BluetoothDevice) :
    newline ∈ deviceText device := by
  simp [deviceText]

/-- A device row never reads like one of the notices, which have no line
break. -/
theorem deviceText_ne_notice (device : BluetoothDevice) :
    deviceText device ≠ nonePaired ∧ deviceText device ≠ noneFound := by
  have here := newline_mem_deviceText device
  constructor
  · intro equal
    rw [equal] at here
    exact absurd here (by decide)
  · intro equal
    rw [equal] at here
    exact absurd here (by decide)

end Rows

section Run

/-- The rows that a list may have: devices out of a given collection, and
one of the notices. -/
def RowOf (devices : BluetoothDevice → Prop) (notice : List JavaChar)
    (row : Row) : Prop :=
  (∃ device, devices device ∧ row = deviceRow device) ∨ row = noticeRow notice

theorem rowOf_onCreate (pairedDevices : List BluetoothDevice) :
    ∀ row ∈ (onCreate pairedDevices).mPairedDevicesArrayAdapter,
      RowOf (· ∈ pairedDevices) nonePaired row := by
  intro row member
  dsimp only [onCreate] at member
  split at member
  · obtain ⟨device, paired, rfl⟩ := List.mem_map.mp member
    exact Or.inl ⟨device, paired, rfl⟩
  · exact Or.inr (List.mem_singleton.mp member)

/-- The notice is shown exactly if nothing is paired. -/
theorem noticeRow_mem_onCreate_iff (pairedDevices : List BluetoothDevice) :
    noticeRow nonePaired ∈
        (onCreate pairedDevices).mPairedDevicesArrayAdapter ↔
      pairedDevices = [] := by
  cases pairedDevices with
  | nil => simp [onCreate]
  | cons device devices => simp [onCreate, deviceRow, noticeRow]

theorem receiveAll_paired (lists : Lists) (broadcasts : List Broadcast) :
    (receiveAll lists broadcasts).mPairedDevicesArrayAdapter =
      lists.mPairedDevicesArrayAdapter := by
  induction broadcasts generalizing lists with
  | nil => rfl
  | cons broadcast broadcasts ih =>
      have same : (onReceive lists broadcast).mPairedDevicesArrayAdapter =
          lists.mPairedDevicesArrayAdapter := by
        cases broadcast <;> dsimp only [onReceive] <;> split <;> rfl
      exact (ih (onReceive lists broadcast)).trans same

/-- A broadcast adds at most one row, for the device found or a notice. -/
theorem mem_onReceive {lists : Lists} {broadcast : Broadcast} {row : Row}
    (member : row ∈ (onReceive lists broadcast).mNewDevicesArrayAdapter) :
    row ∈ lists.mNewDevicesArrayAdapter ∨
      RowOf (fun device => broadcast = .actionFound device) noneFound row := by
  cases broadcast with
  | actionFound device =>
      dsimp only [onReceive] at member
      split at member
      · rcases List.mem_append.mp member with old | new
        · exact Or.inl old
        · exact Or.inr (Or.inl ⟨device, rfl, List.mem_singleton.mp new⟩)
      · exact Or.inl member
  | actionDiscoveryFinished =>
      dsimp only [onReceive] at member
      split at member
      · rcases List.mem_append.mp member with old | new
        · exact Or.inl old
        · exact Or.inr (Or.inr (List.mem_singleton.mp new))
      · exact Or.inl member

theorem mem_receiveAll {lists : Lists} {broadcasts : List Broadcast} {row : Row}
    (member : row ∈ (receiveAll lists broadcasts).mNewDevicesArrayAdapter) :
    row ∈ lists.mNewDevicesArrayAdapter ∨
      RowOf (fun device => .actionFound device ∈ broadcasts) noneFound row := by
  induction broadcasts generalizing lists with
  | nil => exact Or.inl member
  | cons broadcast broadcasts ih =>
      rcases ih member with here | ⟨device, found, isRow⟩ | notice
      · rcases mem_onReceive here with old | ⟨device, found, isRow⟩ | notice
        · exact Or.inl old
        · refine Or.inr (Or.inl ⟨device, ?_, isRow⟩)
          rw [found]
          exact List.mem_cons_self
        · exact Or.inr (Or.inr notice)
      · exact Or.inr (Or.inl ⟨device, List.mem_cons_of_mem _ found, isRow⟩)
      · exact Or.inr (Or.inr notice)

/-- The discovery ends before it has reported a device that is not paired. -/
def FinishesEmpty (broadcasts : List Broadcast) : Prop :=
  ∃ early later, broadcasts = early ++ .actionDiscoveryFinished :: later ∧
    ∀ broadcast ∈ early, ∃ device, broadcast = .actionFound device ∧
      device.bondState = .bondBonded

theorem finishesEmpty_found_iff (device : BluetoothDevice)
    (broadcasts : List Broadcast) :
    FinishesEmpty (.actionFound device :: broadcasts) ↔
      device.bondState = .bondBonded ∧ FinishesEmpty broadcasts := by
  constructor
  · rintro ⟨early, later, split, bonded⟩
    cases early with
    | nil => cases split
    | cons first early =>
        obtain ⟨rfl, rest⟩ := List.cons.inj split
        obtain ⟨_, same, isBonded⟩ := bonded _ List.mem_cons_self
        cases same
        exact ⟨isBonded, early, later, rest, fun broadcast member =>
          bonded broadcast (List.mem_cons_of_mem _ member)⟩
  · rintro ⟨isBonded, early, later, rfl, bonded⟩
    refine ⟨.actionFound device :: early, later, rfl, ?_⟩
    intro broadcast member
    rcases List.mem_cons.mp member with rfl | before
    · exact ⟨device, rfl, isBonded⟩
    · exact bonded broadcast before

/-- Once the list of new devices has a row, no notice is added. -/
theorem notice_mem_receiveAll_of_ne_nil {lists : Lists}
    {broadcasts : List Broadcast}
    (shown : lists.mNewDevicesArrayAdapter ≠ []) :
    noticeRow noneFound ∈
        (receiveAll lists broadcasts).mNewDevicesArrayAdapter ↔
      noticeRow noneFound ∈ lists.mNewDevicesArrayAdapter := by
  induction broadcasts generalizing lists with
  | nil => exact Iff.rfl
  | cons broadcast broadcasts ih =>
      change _ ∈ (receiveAll (onReceive lists broadcast)
        broadcasts).mNewDevicesArrayAdapter ↔ _
      cases broadcast with
      | actionFound device =>
          dsimp only [onReceive]
          split
          · rw [ih (by simp)]
            simp [noticeRow, deviceRow]
          · exact ih shown
      | actionDiscoveryFinished =>
          have notEmpty : ¬ lists.mNewDevicesArrayAdapter.length = 0 := by
            rw [List.length_eq_zero_iff]
            exact shown
          dsimp only [onReceive]
          rw [if_neg notEmpty]
          exact ih shown

/-- The notice is shown exactly if a discovery ends with nothing to show. -/
theorem notice_mem_receiveAll_iff {lists : Lists} {broadcasts : List Broadcast}
    (fresh : lists.mNewDevicesArrayAdapter = []) :
    noticeRow noneFound ∈
        (receiveAll lists broadcasts).mNewDevicesArrayAdapter ↔
      FinishesEmpty broadcasts := by
  induction broadcasts generalizing lists with
  | nil =>
      refine iff_of_false ?_ ?_
      · simp [receiveAll, fresh]
      · rintro ⟨early, later, split, _⟩
        simp at split
  | cons broadcast broadcasts ih =>
      change _ ∈ (receiveAll (onReceive lists broadcast)
        broadcasts).mNewDevicesArrayAdapter ↔ _
      cases broadcast with
      | actionFound device =>
          rw [finishesEmpty_found_iff]
          by_cases bonded : device.bondState = .bondBonded
          · simp only [onReceive, bonded, ne_eq, not_true_eq_false, if_false,
              true_and]
            exact ih fresh
          · simp only [onReceive, bonded, ne_eq, not_false_eq_true, if_true,
              false_and, iff_false]
            rw [notice_mem_receiveAll_of_ne_nil (by simp), fresh]
            simp [noticeRow, deviceRow]
      | actionDiscoveryFinished =>
          refine iff_of_true ?_ ⟨[], broadcasts, rfl, by simp⟩
          dsimp only [onReceive]
          rw [if_pos (by rw [fresh]; rfl),
            notice_mem_receiveAll_of_ne_nil (by simp)]
          simp

end Run

section Click

variable {pairedDevices : List BluetoothDevice} {broadcasts : List Broadcast}

/-- Every row stands for a device, or is a notice that is due. -/
theorem mem_rows_cases {row : Row}
    (member : row ∈ (receiveAll (onCreate pairedDevices) broadcasts).rows) :
    (∃ device, (device ∈ pairedDevices ∨ .actionFound device ∈ broadcasts) ∧
        row = deviceRow device) ∨
      (row = noticeRow nonePaired ∧ pairedDevices = []) ∨
      (row = noticeRow noneFound ∧ FinishesEmpty broadcasts) := by
  rcases List.mem_append.mp member with paired | new
  · rw [receiveAll_paired] at paired
    rcases rowOf_onCreate pairedDevices row paired with
      ⟨device, known, isRow⟩ | rfl
    · exact Or.inl ⟨device, Or.inl known, isRow⟩
    · exact Or.inr (Or.inl
        ⟨rfl, (noticeRow_mem_onCreate_iff pairedDevices).mp paired⟩)
  · rcases mem_receiveAll new with old | ⟨device, found, isRow⟩ | rfl
    · cases old
    · exact Or.inl ⟨device, Or.inr found, isRow⟩
    · exact Or.inr (Or.inr ⟨rfl, (notice_mem_receiveAll_iff rfl).mp new⟩)

theorem noticeRow_mem_rows (due : pairedDevices = [] ∨ FinishesEmpty broadcasts) :
    ∃ text, noticeRow text ∈
      (receiveAll (onCreate pairedDevices) broadcasts).rows := by
  rcases due with unpaired | finishes
  · refine ⟨nonePaired, List.mem_append_left _ ?_⟩
    rw [receiveAll_paired]
    exact (noticeRow_mem_onCreate_iff pairedDevices).mpr unpaired
  · exact ⟨noneFound, List.mem_append_right _
      ((notice_mem_receiveAll_iff rfl).mpr finishes)⟩

theorem yieldsAddress_deviceRow {device : BluetoothDevice}
    (known : device ∈ pairedDevices ∨ .actionFound device ∈ broadcasts) :
    YieldsAddress pairedDevices broadcasts (deviceRow device) :=
  ⟨device, known, rfl, onItemClick_deviceRow device⟩

theorem not_yieldsAddress_noticeRow (text : List JavaChar) :
    ¬ YieldsAddress pairedDevices broadcasts (noticeRow text) := by
  rintro ⟨device, _, stands, _⟩
  cases stands

variable (pairedDevices broadcasts)

/-- A row that the user can click yields the address of its device exactly if
it is not one of the two notices.  So all rows do exactly if some device is
paired and no discovery ends with nothing to show. -/
theorem device_rows_yield_addresses_iff :
    (∀ row ∈ (receiveAll (onCreate pairedDevices) broadcasts).rows,
      (YieldsAddress pairedDevices broadcasts row ↔
        row.text ≠ nonePaired ∧ row.text ≠ noneFound)) ∧
    ((∀ row ∈ (receiveAll (onCreate pairedDevices) broadcasts).rows,
        YieldsAddress pairedDevices broadcasts row) ↔
      pairedDevices ≠ [] ∧ ¬ FinishesEmpty broadcasts) := by
  constructor
  · intro row member
    rcases mem_rows_cases member with ⟨device, known, rfl⟩ | ⟨rfl, _⟩ | ⟨rfl, _⟩
    · exact iff_of_true (yieldsAddress_deviceRow known)
        (deviceText_ne_notice device)
    · exact iff_of_false (not_yieldsAddress_noticeRow _) fun ne => ne.1 rfl
    · exact iff_of_false (not_yieldsAddress_noticeRow _) fun ne => ne.2 rfl
  · constructor
    · intro all
      rw [← not_or]
      intro due
      obtain ⟨text, shown⟩ := noticeRow_mem_rows due
      exact not_yieldsAddress_noticeRow text (all _ shown)
    · rintro ⟨paired, notEmpty⟩ row member
      rcases mem_rows_cases member with ⟨device, known, rfl⟩ | ⟨_, unpaired⟩ |
        ⟨_, finishes⟩
      · exact yieldsAddress_deviceRow known
      · exact absurd unpaired paired
      · exact absurd finishes notEmpty

/-- With nothing paired and nothing found, the first row yields the end of
its notice as an address, and the listener throws on the second. -/
theorem notices_can_be_clicked :
    (receiveAll (onCreate []) [.actionDiscoveryFinished]).rows =
        [noticeRow nonePaired, noticeRow noneFound] ∧
      onItemClick (noticeRow nonePaired) = some (javaText " have been paired") ∧
      onItemClick (noticeRow noneFound) = none := by
  decide

end Click

end DeviceListActivity

end MightyMouse
