import A500cg.Util.HexDump

/-! `parse_token` of `tee_connector.c`: the items of a datagroup are gathered in one buffer, and
printed. -/

namespace A500cg.Tee

open Lib Util

def PAYLOAD_MAX_SIZE : Nat := 32
def PRINT_BUFFER_SIZE : Nat := 1024
def FRU_DATAGROUP : UInt32 := 6

/-- What the calls of the token library return, and what they give. -/
structure TokenInterface where
  sgidsGet : (dg flags : Int32) → Int32 × List UInt32
  itemidsGet : (dg : Int32) → (sg : UInt32) → (flags : Int32) → Int32 × List UInt32
  itemSizeGet : (dg : Int32) → (sg item : UInt32) → (flags : Int32) → Int32 × Nat
  itemRead : (dg : Int32) → (sg item : UInt32) → (offset size : Nat) → (flags : Int32) →
    Int32 × List UInt8

structure Gathered where
  ret : Int32
  error : Option String
  printData : List UInt8
  deriving DecidableEq

def callFailed (call : String) (ret : Int32) : Option String :=
  some (call ++ " call failed, return 0x" ++ String.ofList (Nat.toDigits 16 ret.toUInt32.toNat) ++
    "\n")

section

variable (tee : TokenInterface) (dg flags : Int32)

def readItem (sg item : UInt32) (printData : List UInt8) : Gathered :=
  let (ret, payloadSize) := tee.itemSizeGet dg sg item flags
  if ret ≠ 0 then ⟨ret, callFailed "tee_token_item_size_get" ret, printData⟩
  else if payloadSize > PAYLOAD_MAX_SIZE then
    ⟨1, some ("Returned payload size ( " ++ toString payloadSize ++ " ) is more than max size ( " ++
      toString PAYLOAD_MAX_SIZE ++ " )\n"), printData⟩
  else
    let (ret, read) := tee.itemRead dg sg item 0 payloadSize flags
    -- the payload is all zeros before it is read to
    let payload :=
      (read.take payloadSize ++ List.replicate PAYLOAD_MAX_SIZE 0).take PAYLOAD_MAX_SIZE
    if ret ≠ 0 then ⟨ret, callFailed "tee_token_item_read" ret, printData⟩
    else if printData.length + payloadSize ≥ PRINT_BUFFER_SIZE then
      ⟨1, some "Print buffer full\n", printData⟩
    else ⟨0, none, printData ++ payload.take payloadSize⟩

def readItems (sg : UInt32) : List UInt32 → List UInt8 → Gathered
  | [], printData => ⟨0, none, printData⟩
  | item :: itemList, printData =>
      let gathered := readItem tee dg flags sg item printData
      if gathered.ret ≠ 0 then gathered else readItems sg itemList gathered.printData

def readSubgroups : List UInt32 → List UInt8 → Gathered
  | [], printData => ⟨0, none, printData⟩
  | sg :: sgList, printData =>
      let (ret, itemList) := tee.itemidsGet dg sg flags
      if ret ≠ 0 then ⟨ret, callFailed "tee_token_itemids_get" ret, printData⟩
      else
        let gathered := readItems tee dg flags sg itemList printData
        if gathered.ret ≠ 0 then gathered else readSubgroups sgList gathered.printData

def gatherToken : Gathered :=
  let (ret, sgList) := tee.sgidsGet dg flags
  if ret ≠ 0 then ⟨ret, none, []⟩ else readSubgroups tee dg flags sgList []

def swapNibbles (byte : UInt8) : UInt8 := byte <<< 4 ||| byte >>> 4

def tokenData : List UInt8 :=
  let printData := (gatherToken tee dg flags).printData
  if FRU_DATAGROUP = dg.toUInt32 then printData.map swapNibbles else printData

end

inductive Output where
  | file (bytes : List UInt8)
  | rows (rows : List (List UInt8))
  deriving DecidableEq

def outputData (outputFd : Int32) (text data : List UInt8) : Option (Output × List UInt8) :=
  if outputFd ≠ -1 then some (.file data, text)
  else (hexdumpBuffer text data data.length).map fun (rows, text) => (.rows rows, text)

structure Parsed where
  ret : Int32
  error : Option String
  output : Option Output
  text : List UInt8
  deriving DecidableEq

def parseToken (tee : TokenInterface) (outputFd : Int32) (text : List UInt8) (dg flags : Int32) :
    Option Parsed :=
  let gathered := gatherToken tee dg flags
  if gathered.printData.length ≤ 0 then some ⟨gathered.ret, gathered.error, none, text⟩
  else
    (outputData outputFd text (tokenData tee dg flags)).map fun (output, text) =>
      ⟨gathered.ret, gathered.error, some output, text⟩

/-- The rows that were given to `print_fun`. -/
def Parsed.printed (parsed : Parsed) : List (List UInt8) :=
  match parsed.output with
  | some (.rows rows) => rows
  | _ => []

structure Item where
  id : UInt32
  bytes : List UInt8

structure Subgroup where
  id : UInt32
  items : List Item

def Subgroup.bytes (subgroup : Subgroup) : List UInt8 := subgroup.items.flatMap Item.bytes

structure Item.Held (tee : TokenInterface) (dg flags : Int32) (sg : UInt32) (item : Item) :
    Prop where
  size : tee.itemSizeGet dg sg item.id flags = (0, item.bytes.length)
  read : tee.itemRead dg sg item.id 0 item.bytes.length flags = (0, item.bytes)
  small : item.bytes.length ≤ PAYLOAD_MAX_SIZE

structure Subgroup.Held (tee : TokenInterface) (dg flags : Int32) (sg : Subgroup) : Prop where
  itemids : tee.itemidsGet dg sg.id flags = (0, sg.items.map Item.id)
  items : ∀ item ∈ sg.items, item.Held tee dg flags sg.id

/-- The library gives the items of these subgroups for the datagroup. -/
structure Holds (tee : TokenInterface) (dg flags : Int32) (subgroups : List Subgroup) : Prop where
  sgids : tee.sgidsGet dg flags = (0, subgroups.map Subgroup.id)
  held : ∀ sg ∈ subgroups, sg.Held tee dg flags

section

variable (tee : TokenInterface) (dg flags : Int32)

theorem readItem_length (sg item : UInt32) {printData : List UInt8}
    (room : printData.length < PRINT_BUFFER_SIZE) :
    (readItem tee dg flags sg item printData).printData.length < PRINT_BUFFER_SIZE := by
  rw [readItem]
  generalize tee.itemSizeGet dg sg item flags = sized
  obtain ⟨ret, payloadSize⟩ := sized
  dsimp only
  split_ifs with failed large unread full
  · exact room
  · exact room
  · exact room
  · exact room
  · rw [List.length_append, List.length_take]
    omega

theorem readItems_length (sg : UInt32) (itemList : List UInt32) {printData : List UInt8}
    (room : printData.length < PRINT_BUFFER_SIZE) :
    (readItems tee dg flags sg itemList printData).printData.length < PRINT_BUFFER_SIZE := by
  induction itemList generalizing printData with
  | nil => exact room
  | cons item itemList ih =>
      have here := readItem_length tee dg flags sg item room
      rw [readItems]
      split_ifs with failed
      · exact here
      · exact ih here

theorem readSubgroups_length (sgList : List UInt32) {printData : List UInt8}
    (room : printData.length < PRINT_BUFFER_SIZE) :
    (readSubgroups tee dg flags sgList printData).printData.length < PRINT_BUFFER_SIZE := by
  induction sgList generalizing printData with
  | nil => exact room
  | cons sg sgList ih =>
      rw [readSubgroups]
      generalize tee.itemidsGet dg sg flags = listed
      obtain ⟨ret, itemList⟩ := listed
      have here := readItems_length tee dg flags sg itemList room
      dsimp only
      split_ifs with unlisted failed
      · exact room
      · exact here
      · exact ih here

theorem gatherToken_length : (gatherToken tee dg flags).printData.length < PRINT_BUFFER_SIZE := by
  rw [gatherToken]
  generalize tee.sgidsGet dg flags = listed
  obtain ⟨ret, sgList⟩ := listed
  dsimp only
  split_ifs with unlisted
  · exact Nat.zero_lt_succ _
  · exact readSubgroups_length tee dg flags _ (Nat.zero_lt_succ _)

theorem tokenData_length :
    (tokenData tee dg flags).length = (gatherToken tee dg flags).printData.length := by
  rw [tokenData]
  split_ifs
  · exact List.length_map _
  · rfl

end

section

variable {tee : TokenInterface} {dg flags : Int32}

theorem Item.Held.readItem_eq {sg : UInt32} {item : Item} (held : item.Held tee dg flags sg)
    {printData : List UInt8} (room : (printData ++ item.bytes).length < PRINT_BUFFER_SIZE) :
    readItem tee dg flags sg item.id printData = ⟨0, none, printData ++ item.bytes⟩ := by
  have payload : ((item.bytes.take item.bytes.length ++ List.replicate PAYLOAD_MAX_SIZE 0).take
      PAYLOAD_MAX_SIZE).take item.bytes.length = item.bytes := by
    rw [List.take_take, min_eq_left held.small, List.take_length, List.take_left]
  rw [List.length_append] at room
  simp only [readItem, held.size, held.read, payload]
  rw [if_neg (by simp), if_neg (not_lt.mpr held.small), if_neg (by simp),
    if_neg (not_le.mpr room)]

theorem readItems_whole {sg : UInt32} {items : List Item} {printData : List UInt8}
    (held : ∀ item ∈ items, item.Held tee dg flags sg)
    (room : (printData ++ items.flatMap Item.bytes).length < PRINT_BUFFER_SIZE) :
    readItems tee dg flags sg (items.map Item.id) printData =
      ⟨0, none, printData ++ items.flatMap Item.bytes⟩ := by
  induction items generalizing printData with
  | nil => rw [List.map_nil, readItems, List.flatMap_nil, List.append_nil]
  | cons item items ih =>
      obtain ⟨first, others⟩ := List.forall_mem_cons.mp held
      rw [List.flatMap_cons, ← List.append_assoc] at room ⊢
      have fits : (printData ++ item.bytes).length < PRINT_BUFFER_SIZE :=
        lt_of_le_of_lt (List.prefix_append _ _).length_le room
      have here := first.readItem_eq fits
      rw [List.map_cons, readItems, here]
      simp only [ne_eq, not_true_eq_false, if_false]
      exact ih others room

theorem readSubgroups_whole {subgroups : List Subgroup} {printData : List UInt8}
    (held : ∀ sg ∈ subgroups, sg.Held tee dg flags)
    (room : (printData ++ subgroups.flatMap Subgroup.bytes).length < PRINT_BUFFER_SIZE) :
    readSubgroups tee dg flags (subgroups.map Subgroup.id) printData =
      ⟨0, none, printData ++ subgroups.flatMap Subgroup.bytes⟩ := by
  induction subgroups generalizing printData with
  | nil => rw [List.map_nil, readSubgroups, List.flatMap_nil, List.append_nil]
  | cons sg subgroups ih =>
      obtain ⟨first, others⟩ := List.forall_mem_cons.mp held
      rw [List.flatMap_cons, ← List.append_assoc] at room ⊢
      have fits : (printData ++ sg.bytes).length < PRINT_BUFFER_SIZE :=
        lt_of_le_of_lt (List.prefix_append _ _).length_le room
      have here : readItems tee dg flags sg.id (sg.items.map Item.id) printData =
          ⟨0, none, printData ++ sg.bytes⟩ := readItems_whole first.items fits
      rw [List.map_cons, readSubgroups, first.itemids]
      simp only [ne_eq, not_true_eq_false, if_false, here]
      exact ih others room

theorem gatherToken_whole {subgroups : List Subgroup} (holds : Holds tee dg flags subgroups)
    (room : (subgroups.flatMap Subgroup.bytes).length < PRINT_BUFFER_SIZE) :
    gatherToken tee dg flags = ⟨0, none, subgroups.flatMap Subgroup.bytes⟩ := by
  rw [gatherToken, holds.sgids]
  exact readSubgroups_whole holds.held room

theorem parseToken_row {text : List UInt8} (size : text.length = BUFFER_TXT_SIZE)
    (gathered : tokenData tee dg flags ≠ []) :
    ∃ next, parseToken tee (-1) text dg flags =
      some ⟨(gatherToken tee dg flags).ret, (gatherToken tee dg flags).error,
        some (.rows [rowText (tokenData tee dg flags)]), next⟩ := by
  obtain ⟨next, dumped, _⟩ := hexdumpBuffer_row size gathered
  have same := tokenData_length tee dg flags
  have some : ¬ (gatherToken tee dg flags).printData.length ≤ 0 := by
    intro none
    exact gathered (List.eq_nil_of_length_eq_zero (same.trans (Nat.le_zero.mp none)))
  refine ⟨next, ?_⟩
  rw [parseToken, if_neg some, outputData, if_neg (by simp), dumped]
  rfl

theorem parseToken_complete_iff {text : List UInt8} (size : text.length = BUFFER_TXT_SIZE) :
    ∃ parsed, parseToken tee (-1) text dg flags = some parsed ∧
      (Shows parsed.printed (tokenData tee dg flags) ↔
        (tokenData tee dg flags).length ≤ MAX_ROW) := by
  by_cases empty : tokenData tee dg flags = []
  · have none : (gatherToken tee dg flags).printData.length ≤ 0 := by
      rw [← tokenData_length, empty, List.length_nil]
    refine ⟨_, if_pos none, ?_⟩
    rw [empty]
    exact iff_of_true rfl (Nat.zero_le _)
  · obtain ⟨next, printed⟩ := parseToken_row size empty
    refine ⟨_, printed, ?_⟩
    rw [Shows, Parsed.printed, List.flatten_cons, List.flatten_nil, List.append_nil,
      filter_rowText]
    constructor
    · intro complete
      have lengths := congrArg List.length complete
      rw [hexText_length, hexText_length, List.length_take] at lengths
      omega
    · intro room
      rw [List.take_of_length_le room]

end

/-- A dump ends and stays inside the buffer of text, and shows every byte exactly if no row has
more than 340 of them; a token has less than 1024 bytes, which are shown in one row. -/
theorem hexdump_complete_iff (text : List UInt8) (size : text.length = BUFFER_TXT_SIZE) :
    (∀ buffer bytesPerRow, 1 ≤ bytesPerRow →
      (hexdumpBuffer text buffer bytesPerRow).isSome ∧
      (DumpComplete text buffer bytesPerRow ↔ min buffer.length bytesPerRow ≤ MAX_ROW)) ∧
    ∀ tee dg flags, (tokenData tee dg flags).length < PRINT_BUFFER_SIZE ∧
      ∃ parsed, parseToken tee (-1) text dg flags = some parsed ∧
        (Shows parsed.printed (tokenData tee dg flags) ↔
          (tokenData tee dg flags).length ≤ MAX_ROW) := by
  constructor
  · intro buffer bytesPerRow positive
    obtain ⟨next, ends, _⟩ :=
      hexdumpWithin_spec positive buffer.length text buffer size le_rfl
    refine ⟨?_, dumpComplete_iff positive text size buffer⟩
    rw [hexdumpBuffer, ends]
    rfl
  · intro tee dg flags
    refine ⟨?_, parseToken_complete_iff size⟩
    rw [tokenData_length]
    exact gatherToken_length tee dg flags

theorem short_dump_complete :
    DumpComplete (List.replicate BUFFER_TXT_SIZE 0) [0x1F, 0xA0] 16 :=
  (((hexdump_complete_iff _ List.length_replicate).1 [0x1F, 0xA0] 16 (by decide)).2).mpr
    (by decide)

def longItems : List Item :=
  (List.range 11).map fun i => ⟨UInt32.ofNat i, List.replicate 31 0⟩

def longToken : TokenInterface where
  sgidsGet := fun _ _ => (0, [1])
  itemidsGet := fun _ _ _ => (0, longItems.map Item.id)
  itemSizeGet := fun _ _ _ _ => (0, 31)
  itemRead := fun _ _ _ _ _ _ => (0, List.replicate 31 0)

theorem longToken_holds (dg flags : Int32) : Holds longToken dg flags [⟨1, longItems⟩] := by
  have held : ∀ item ∈ longItems, item.Held longToken dg flags 1 := by
    intro item member
    obtain ⟨i, _, rfl⟩ := List.mem_map.mp member
    exact ⟨rfl, rfl, List.length_replicate.le.trans (by decide)⟩
  refine ⟨rfl, fun sg one => ?_⟩
  rw [List.mem_singleton.mp one]
  exact ⟨rfl, held⟩

/-- A token of 341 bytes is not shown whole. -/
theorem long_token_cut :
    (tokenData longToken 1 0).length = 341 ∧
      ¬ DumpComplete (List.replicate BUFFER_TXT_SIZE 0) (tokenData longToken 1 0)
        (tokenData longToken 1 0).length := by
  have bytes : ([Subgroup.mk 1 longItems].flatMap Subgroup.bytes).length = 341 := by
    simp [Subgroup.bytes, longItems, List.length_flatMap, Function.comp_def]
  have length : (tokenData longToken 1 0).length = 341 := by
    rw [tokenData_length, gatherToken_whole (longToken_holds 1 0) (by rw [bytes]; decide)]
    exact bytes
  refine ⟨length, fun complete => ?_⟩
  have room := (dumpComplete_iff (by omega) _ List.length_replicate _).mp complete
  rw [length] at room
  exact absurd room (by decide)

end A500cg.Tee
