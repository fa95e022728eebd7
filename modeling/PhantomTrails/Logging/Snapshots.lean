import PhantomTrails.Detection.RobReport
import PhantomTrails.Foundation.Formats

namespace PhantomTrails

/-! # Snapshots of the core

The load and store queues (`uarch/LSQ.h`), the store data queue (`uarch/LFB.h`)
and the register file (`uarch/RegFile.h`) as they are printed, and what can be
read back of them.
-/

open Foundation

/-- An entry of a queue, with its index in decimal and the other fields in
hexadecimal. -/
def entryText {η : Type} (indent title : String) (idx : η → UInt8) (fields : List (String × (η → Nat)))
    (entry : η) : String :=
  indent ++ title ++ toString (idx entry).toNat ++
    String.join (fields.map fun field => ", " ++ indent ++ field.1 ++ hex (field.2 entry)) ++ indent ++ "\x7d"

structure LDQEntry where
  idx : UInt8 := 0
  valid : UInt8 := 0
  addr : UInt64 := 0
  uop_rob_idx : UInt8 := 0
  uop_ldq_idx : UInt8 := 0
  uop_stq_idx : UInt8 := 0
  uop_pdst : UInt8 := 0
  uop_mem_cmd : UInt8 := 0
  uop_mem_size : UInt8 := 0
  uop_mem_signed : UInt8 := 0
  uop_is_fence : UInt8 := 0
  uop_is_amo : UInt8 := 0
  uop_uses_ldq : UInt8 := 0
  uop_uses_stq : UInt8 := 0
  uop_dst_rtype : UInt8 := 0
  uop_fp_val : UInt8 := 0
  addr_valid : UInt8 := 0
  addr_is_virtual : UInt8 := 0
  addr_is_uncacheable : UInt8 := 0
  executed : UInt8 := 0
  succeeded : UInt8 := 0
  order_fail : UInt8 := 0
  observed : UInt8 := 0
  youngest_stq_idx : UInt8 := 0
  forward_std_val : UInt8 := 0
  forward_stq_idx : UInt8 := 0

def LDQEntry.fields : List (String × (LDQEntry → Nat)) :=
  [("valid: ", fun entry => entry.valid.toNat), ("addr: 0x", fun entry => entry.addr.toNat),
   ("uop_rob_idx: ", fun entry => entry.uop_rob_idx.toNat),
   ("uop_ldq_idx: ", fun entry => entry.uop_ldq_idx.toNat),
   ("uop_stq_idx: ", fun entry => entry.uop_stq_idx.toNat), ("uop_pdst: ", fun entry => entry.uop_pdst.toNat),
   ("uop_mem_cmd: ", fun entry => entry.uop_mem_cmd.toNat),
   ("uop_mem_size: ", fun entry => entry.uop_mem_size.toNat),
   ("uop_mem_signed: ", fun entry => entry.uop_mem_signed.toNat),
   ("uop_is_fence: ", fun entry => entry.uop_is_fence.toNat),
   ("uop_is_amo: ", fun entry => entry.uop_is_amo.toNat),
   ("uop_uses_ldq: ", fun entry => entry.uop_uses_ldq.toNat),
   ("uop_uses_stq: ", fun entry => entry.uop_uses_stq.toNat),
   ("uop_dst_rtype: ", fun entry => entry.uop_dst_rtype.toNat),
   ("uop_fp_val: ", fun entry => entry.uop_fp_val.toNat), ("addr_valid: ", fun entry => entry.addr_valid.toNat),
   ("addr_is_virtual: ", fun entry => entry.addr_is_virtual.toNat),
   ("addr_is_uncacheable: ", fun entry => entry.addr_is_uncacheable.toNat),
   ("executed: ", fun entry => entry.executed.toNat), ("succeeded: ", fun entry => entry.succeeded.toNat),
   ("order_fail: ", fun entry => entry.order_fail.toNat), ("observed: ", fun entry => entry.observed.toNat),
   ("youngest_stq_idx: ", fun entry => entry.youngest_stq_idx.toNat),
   ("forward_std_val: ", fun entry => entry.forward_std_val.toNat),
   ("forward_stq_idx: ", fun entry => entry.forward_stq_idx.toNat)]

def LDQEntry.to_string (indent : String) (entry : LDQEntry) : String :=
  entryText indent "\x7b LDQ ENTRY: " idx fields entry

structure STQEntry where
  idx : UInt8 := 0
  data : UInt64 := 0
  valid : UInt8 := 0
  addr : UInt64 := 0
  uop_rob_idx : UInt8 := 0
  uop_ldq_idx : UInt8 := 0
  uop_stq_idx : UInt8 := 0
  uop_pdst : UInt8 := 0
  uop_exception : UInt8 := 0
  uop_mem_cmd : UInt8 := 0
  uop_mem_size : UInt8 := 0
  uop_mem_signed : UInt8 := 0
  uop_is_fence : UInt8 := 0
  uop_is_amo : UInt8 := 0
  uop_uses_ldq : UInt8 := 0
  uop_uses_stq : UInt8 := 0
  uop_dst_rtype : UInt8 := 0
  addr_valid : UInt8 := 0
  addr_is_virtual : UInt8 := 0
  data_valid : UInt8 := 0
  committed : UInt8 := 0
  succeeded : UInt8 := 0

def STQEntry.fields : List (String × (STQEntry → Nat)) :=
  [("data: 0x", fun entry => entry.data.toNat), ("valid: ", fun entry => entry.valid.toNat),
   ("addr: 0x", fun entry => entry.addr.toNat), ("uop_rob_idx: ", fun entry => entry.uop_rob_idx.toNat),
   ("uop_ldq_idx: ", fun entry => entry.uop_ldq_idx.toNat),
   ("uop_stq_idx: ", fun entry => entry.uop_stq_idx.toNat), ("uop_pdst: ", fun entry => entry.uop_pdst.toNat),
   ("uop_exception: ", fun entry => entry.uop_exception.toNat),
   ("uop_mem_cmd: ", fun entry => entry.uop_mem_cmd.toNat),
   ("uop_mem_size: ", fun entry => entry.uop_mem_size.toNat),
   ("uop_mem_signed: ", fun entry => entry.uop_mem_signed.toNat),
   ("uop_is_fence: ", fun entry => entry.uop_is_fence.toNat),
   ("uop_is_amo: ", fun entry => entry.uop_is_amo.toNat),
   ("uop_uses_ldq: ", fun entry => entry.uop_uses_ldq.toNat),
   ("uop_uses_stq: ", fun entry => entry.uop_uses_stq.toNat),
   ("uop_dst_rtype: ", fun entry => entry.uop_dst_rtype.toNat),
   ("addr_valid: ", fun entry => entry.addr_valid.toNat),
   ("addr_is_virtual: ", fun entry => entry.addr_is_virtual.toNat),
   ("data_valid: ", fun entry => entry.data_valid.toNat), ("committed: ", fun entry => entry.committed.toNat),
   ("succeeded: ", fun entry => entry.succeeded.toNat)]

def STQEntry.to_string (indent : String) (entry : STQEntry) : String :=
  entryText indent "\x7b STQ ENTRY: " idx fields entry

/-- `(i + 1) % N`. -/
def nextSlot {n : Nat} (i : Fin n) : Fin n := ⟨(i.val + 1) % n, Nat.mod_lt _ i.pos⟩

/-- The slots from `i` up to `tail`; `none` if the loop has not reached it. -/
def slotsUpTo {n : Nat} : (turns : Nat) → (i tail : Fin n) → Option (List (Fin n))
  | 0, i, tail => if i = tail then some [] else none
  | turns + 1, i, tail => if i = tail then some [] else (slotsUpTo turns (nextSlot i) tail).map (i :: ·)

/-- `N_LDQ_ENTRIES` and `N_STQ_ENTRIES` depend on the configuration. -/
structure LSQState (n m : Nat) where
  ldq : Fin n → LDQEntry
  stq : Fin m → STQEntry
  ldq_head : Fin n
  ldq_tail : Fin n
  stq_head : Fin m
  stq_tail : Fin m

/-- The lines of the valid entries among `slots`. -/
def queueText {n : Nat} (valid : Fin n → Bool) (line : Fin n → String) (slots : List (Fin n)) : String :=
  String.join ((slots.filter valid).map fun i => line i ++ ",\n")

def LSQState.to_string {n m : Nat} (lsq : LSQState n m) : Option String := do
  let loads ← slotsUpTo n lsq.ldq_head lsq.ldq_tail
  let stores ← slotsUpTo m lsq.stq_head lsq.stq_tail
  pure <|
    "ldq_head:   " ++ hex lsq.ldq_head.val ++ "\n" ++
    "ldq_tail:   " ++ hex lsq.ldq_tail.val ++ "\n" ++
    "stq_head:   " ++ hex lsq.stq_head.val ++ "\n" ++
    "stq_tail:   " ++ hex lsq.stq_tail.val ++ "\n" ++
    "LoadQueue: [\n" ++
    queueText (fun i => (lsq.ldq i).valid != 0) (fun i => (lsq.ldq i).to_string "    ") loads ++
    "]\n" ++
    "StoreQueue: [\n" ++
    queueText (fun i => (lsq.stq i).valid != 0) (fun i => (lsq.stq i).to_string "    ") stores ++
    "]\n"

/-- `MSHRs`, the valid bits of the store data queue. -/
structure MSHRs where
  valid : Fin 17 → Bool

/-- One bit of the signal after the other. -/
def MSHRs.readFrom (valids : UInt32) : MSHRs := ⟨fun i => (valids >>> UInt32.ofNat i.val) &&& 1 != 0⟩

def MSHRs.line (i : Fin 17) : String := "ENTRY [" ++ toString i.val ++ "]  valid\n"

def MSHRs.to_string (mshrs : MSHRs) : String :=
  String.join (((List.finRange 17).filter mshrs.valid).map MSHRs.line)

/-- `std::setfill('0') << std::setw(2) << std::hex`. -/
def hexByte (value : UInt8) : String := (if value.toNat < 16 then "0" else "") ++ hex value.toNat

/-- The bytes of register `r` that are printed: the last four bytes of the file
are not. -/
def registerBytes (size r : Nat) : List Nat :=
  ((List.range 8).map fun k => r * 8 + k).filter fun offset => decide (offset < size - 4)

def registerText (size : Nat) (regfile : Nat → UInt8) (r : Nat) : String :=
  "[0x" ++ hex r ++ "]  0x" ++ String.join ((registerBytes size r).map fun offset => hexByte (regfile offset)) ++ "\t"

/-- `regfile::printRegFile`, for a file of `size` bytes. -/
def printRegFile (size : Nat) (regfile : Nat → UInt8) : String :=
  String.join ((List.range 10).map fun i =>
    String.join ((List.range 8).map fun j => registerText size regfile (i * 8 + j)) ++ "\n")

/-! ## Reading a queue back -/

section Entries

variable {η : Type} {title : String} {idx : η → UInt8} {fields : List (String × (η → Nat))}

def entryFields (title : String) (idx : η → UInt8) (fields : List (String × (η → Nat))) : List (Format.Labelled η) :=
  ⟨("    " ++ title).toList, 10, fun entry => (idx entry).toNat⟩ ::
    fields.map fun field => ⟨(", " ++ "    " ++ field.1).toList, 16, field.2⟩

theorem entryFields_bases : ∀ field ∈ entryFields title idx fields, 1 < field.base ∧ field.base ≤ 16 := by
  intro field member
  rcases List.mem_cons.mp member with rfl | later
  · exact ⟨by simp, by simp⟩
  · obtain ⟨_, -, rfl⟩ := List.mem_map.mp later
    exact ⟨by simp, by simp⟩

theorem entryFields_labels :
    ∀ field ∈ entryFields title idx fields, field.label ≠ [] ∧ NoDigit 16 field.label := by
  intro field member
  have blank : digitIn 16 ' ' = none := by decide
  have comma : digitIn 16 ',' = none := by decide
  rcases List.mem_cons.mp member with rfl | later
  · exact ⟨by simp, by simp [NoDigit, blank]⟩
  · obtain ⟨_, -, rfl⟩ := List.mem_map.mp later
    exact ⟨by simp, by simp [NoDigit, comma]⟩

/-- An entry on a line of its own. -/
def entryFormat (title : String) (idx : η → UInt8) (fields : List (String × (η → Nat))) : Format η (List Nat) :=
  (Format.record (entryFields title idx fields) entryFields_bases entryFields_labels).closed
    "    \x7d,\n".toList fun more => by
      have blank : digitIn 16 ' ' = none := by decide
      simp [Format.record, NoDigit, blank]

theorem entryFormat_put (entry : η) :
    (entryFormat title idx fields).put entry = (entryText "    " title idx fields entry ++ ",\n").toList := by
  unfold entryFormat entryText entryFields Format.record Format.closed
  simp [Format.putFields, String.toList_join, List.flatMap_map, hex, String.toList_append]

theorem entryFormat_learn (entry : η) :
    (entryFormat title idx fields).learn entry = (idx entry).toNat :: fields.map fun field => field.2 entry := by
  change (entryFields title idx fields).map (fun field => field.value entry) = _
  rw [entryFields, List.map_cons, List.map_map]
  rfl

theorem entryFormat_opens (entry : η) :
    ("    " ++ title).toList <+: (entryFormat title idx fields).put entry := by
  rw [entryFormat_put]
  unfold entryText
  simp only [String.toList_append, List.append_assoc]
  exact ⟨_, List.append_assoc _ _ _⟩

/-- The lines of a queue. -/
def entriesFormat (title : String) (idx : η → UInt8) (fields : List (String × (η → Nat))) :
    Format (List η) (List (List Nat)) :=
  Format.items ("    " ++ title).toList (by simp) (entryFormat title idx fields) entryFormat_opens fun _ => trivial

theorem queueText_toList {n : Nat} {valid : Fin n → Bool} {queue : Fin n → η} {slots : List (Fin n)} :
    (queueText valid (fun i => entryText "    " title idx fields (queue i)) slots).toList =
      (entriesFormat title idx fields).put ((slots.filter valid).map queue) := by
  rw [queueText, String.toList_join, List.flatMap_map]
  change _ = ((slots.filter valid).map queue).flatMap (entryFormat title idx fields).put
  rw [List.flatMap_map]
  exact congrArg (fun line => List.flatMap line _) (funext fun i => (entryFormat_put (queue i)).symm)

end Entries

section Ring

variable {n : Nat} {i tail : Fin n} {turns : Nat}

/-- How many slots there are from `head` on in front of `tail`. -/
def distance (head tail : Fin n) : Nat :=
  if head.val ≤ tail.val then tail.val - head.val else tail.val + n - head.val

/-- The slots of a ring from `head` on in front of `tail`. -/
def window (head tail : Fin n) : List (Fin n) :=
  (List.range (distance head tail)).map fun k => ⟨(head.val + k) % n, Nat.mod_lt _ head.pos⟩

theorem distance_next (more : i ≠ tail) : distance i tail = distance (nextSlot i) tail + 1 := by
  have apart : i.val ≠ tail.val := fun same => more (Fin.ext same)
  have slot := i.isLt
  have last := tail.isLt
  by_cases wraps : i.val + 1 = n
  · have next : (nextSlot i).val = 0 := by simp [nextSlot, wraps]
    simp only [distance, next]
    rw [if_pos (Nat.zero_le _)]
    split <;> omega
  · have next : (nextSlot i).val = i.val + 1 := Nat.mod_eq_of_lt (by omega)
    simp only [distance, next]
    split <;> split <;> omega

theorem distance_lt : distance i tail < n := by
  have slot := i.isLt
  have last := tail.isLt
  rw [distance]
  split <;> omega

theorem window_self : window i i = [] := by simp [window, distance]

theorem window_cons (more : i ≠ tail) : window i tail = i :: window (nextSlot i) tail := by
  rw [window, distance_next more, List.range_succ_eq_map, List.map_cons, List.map_map, window]
  congr 1
  · exact Fin.ext (Nat.mod_eq_of_lt i.isLt)
  · apply List.map_congr_left
    intro k _
    apply Fin.ext
    simp only [Function.comp_apply, nextSlot, Nat.mod_add_mod]
    congr 1
    omega

/-- The loop reaches the tail after less than one turn for each slot. -/
theorem slotsUpTo_eq (enough : distance i tail ≤ turns) : slotsUpTo turns i tail = some (window i tail) := by
  induction turns generalizing i with
  | zero =>
      have same : i = tail := by
        by_contra more
        rw [distance_next more] at enough
        omega
      rw [slotsUpTo, if_pos same, same, window_self]
  | succ turns ih =>
      by_cases same : i = tail
      · rw [slotsUpTo, if_pos same, same, window_self]
      · rw [distance_next same] at enough
        rw [slotsUpTo, if_neg same, ih (by omega), window_cons same]
        rfl

end Ring

namespace LSQState

variable {n m : Nat}

/-- The valid entries of the load queue, from its head on. -/
def loads (lsq : LSQState n m) : List LDQEntry :=
  ((window lsq.ldq_head lsq.ldq_tail).filter fun i => (lsq.ldq i).valid != 0).map lsq.ldq

def stores (lsq : LSQState n m) : List STQEntry :=
  ((window lsq.stq_head lsq.stq_tail).filter fun i => (lsq.stq i).valid != 0).map lsq.stq

def heads : List (Format.Labelled (LSQState n m)) :=
  [⟨"ldq_head:   ".toList, 16, fun lsq => lsq.ldq_head.val⟩, ⟨"\nldq_tail:   ".toList, 16, fun lsq => lsq.ldq_tail.val⟩,
   ⟨"\nstq_head:   ".toList, 16, fun lsq => lsq.stq_head.val⟩, ⟨"\nstq_tail:   ".toList, 16, fun lsq => lsq.stq_tail.val⟩]

def headsFormat : Format (LSQState n m) (List Nat) :=
  (Format.record heads (by simp [heads]) (by
    have letters : digitIn 16 'l' = none ∧ digitIn 16 '\n' = none := by decide
    simp [heads, NoDigit, letters])).closed "\nLoadQueue: [\n".toList fun more => by
      have newline : digitIn 16 '\n' = none := by decide
      simp [Format.record, NoDigit, newline]

def format : Format (LSQState n m) (List Nat × List (List Nat) × List (List Nat)) :=
  headsFormat.pair
    (((entriesFormat "\x7b LDQ ENTRY: " LDQEntry.idx LDQEntry.fields).of loads |>.closed "]\nStoreQueue: [\n".toList
      (by simp [Format.of, entriesFormat, Format.items])).pair
      ((entriesFormat "\x7b STQ ENTRY: " STQEntry.idx STQEntry.fields).of stores |>.closed "]\n".toList
        (by simp [Format.of, entriesFormat, Format.items]))
      fun _ _ _ => trivial)
    fun _ _ _ => trivial

/-- The heads and tails, and the valid entries in the order of the queues. -/
def shown (lsq : LSQState n m) : List Nat × List (List Nat) × List (List Nat) :=
  ([lsq.ldq_head.val, lsq.ldq_tail.val, lsq.stq_head.val, lsq.stq_tail.val],
    lsq.loads.map fun entry => entry.idx.toNat :: LDQEntry.fields.map fun field => field.2 entry,
    lsq.stores.map fun entry => entry.idx.toNat :: STQEntry.fields.map fun field => field.2 entry)

theorem format_learn (lsq : LSQState n m) : format.learn lsq = lsq.shown := by
  have loads : (entriesFormat "\x7b LDQ ENTRY: " LDQEntry.idx LDQEntry.fields).learn lsq.loads =
      lsq.loads.map fun entry => entry.idx.toNat :: LDQEntry.fields.map fun field => field.2 entry :=
    List.map_congr_left fun entry _ => entryFormat_learn entry
  have stores : (entriesFormat "\x7b STQ ENTRY: " STQEntry.idx STQEntry.fields).learn lsq.stores =
      lsq.stores.map fun entry => entry.idx.toNat :: STQEntry.fields.map fun field => field.2 entry :=
    List.map_congr_left fun entry _ => entryFormat_learn entry
  rw [shown, ← loads, ← stores]
  rfl

theorem to_string_eq (lsq : LSQState n m) : lsq.to_string = some (String.ofList (format.put lsq)) := by
  rw [to_string, slotsUpTo_eq (Nat.le_of_lt distance_lt), slotsUpTo_eq (Nat.le_of_lt distance_lt)]
  simp only [Option.bind_eq_bind, Option.bind_some, Option.pure_def, Option.some.injEq]
  rw [← String.toList_inj, String.toList_ofList]
  unfold format headsFormat Format.pair Format.closed Format.of Format.record loads stores
  simp only [String.toList_append, Format.putFields, heads, List.flatMap_cons, List.flatMap_nil, hex,
    String.toList_ofList, LDQEntry.to_string, STQEntry.to_string, queueText_toList, List.append_assoc, List.append_nil]
  simp

end LSQState

/-! ## The store data queue and the register file -/

namespace MSHRs

def lineFormat : Format (Fin 17) Nat :=
  ((Format.decimal.of fun i : Fin 17 => i.val).closed "]  valid\n".toList fun more => by
    have bracket : digitIn 10 ']' = none := by decide
    simp [Format.of, Format.decimal, Format.number, NoDigit, bracket]).behind "ENTRY [".toList

/-- The valid entries. -/
def format : Format MSHRs (List Nat) :=
  (Format.items "ENTRY [".toList (by simp) lineFormat
    (fun _ => List.prefix_append _ _) fun _ => trivial).of fun mshrs => (List.finRange 17).filter mshrs.valid

theorem to_string_toList (mshrs : MSHRs) : mshrs.to_string.toList = format.put mshrs := by
  rw [to_string, String.toList_join, List.flatMap_map]
  change _ = ((List.finRange 17).filter mshrs.valid).flatMap lineFormat.put
  apply congrArg fun line => List.flatMap line _
  funext i
  unfold line lineFormat Format.behind Format.closed Format.of Format.decimal Format.number
  simp [String.toList_append]

end MSHRs

namespace RegFile

def getByte : List Char → Option (UInt8 × List Char)
  | high :: low :: rest => (digitIn 16 high).bind fun high => (digitIn 16 low).map fun low =>
      (.ofNat (16 * high + low), rest)
  | _ => none

theorem hexByte_toList (value : UInt8) :
    (hexByte value).toList = [(value.toNat / 16).digitChar, (value.toNat % 16).digitChar] := by
  have bound : value.toNat / 16 < 16 := by
    have below := value.toNat_lt
    omega
  unfold hexByte
  rw [String.toList_append, hex, String.toList_ofList]
  by_cases small : value.toNat < 16
  · have digits := Nat.toDigits_of_lt_base small
    have high : value.toNat / 16 = 0 := by omega
    have low : value.toNat % 16 = value.toNat := by omega
    rw [if_pos small, digits, high, low]
    simp
  · rw [if_neg small, Nat.toDigits_of_base_le (by omega) (by omega), Nat.toDigits_of_lt_base bound]
    simp

def byteFormat : Format UInt8 UInt8 where
  put := fun value => (hexByte value).toList
  get := getByte
  learn := fun value => value
  follows := fun _ => True
  reads := by
    intro value more _
    have below := value.toNat_lt
    have whole : 16 * (value.toNat / 16) + value.toNat % 16 = value.toNat := by omega
    rw [hexByte_toList]
    simp only [List.cons_append, List.nil_append, getByte]
    rw [digitIn_digitChar (by omega) (by omega), digitIn_digitChar (by omega) (by omega), Option.bind_some,
      Option.map_some, whole, UInt8.ofNat_toNat]

def registerFormat (size r : Nat) : Format (Nat → UInt8) (List UInt8) :=
  ((Format.each (registerBytes size r) (fun offset => byteFormat.of fun regfile => regfile offset)
    fun _ _ _ => trivial).closed ['\t'] fun _ => trivial).behind ("[0x" ++ hex r ++ "]  0x").toList

/-- The printed bytes of each register, row by row. -/
def format (size : Nat) : Format (Nat → UInt8) (List (List (List UInt8))) :=
  Format.each (List.range 10) (fun i => (Format.each (List.range 8) (fun j => registerFormat size (i * 8 + j))
    fun _ _ _ => trivial).closed ['\n'] fun _ => trivial) fun _ _ _ => trivial

theorem printRegFile_toList (size : Nat) (regfile : Nat → UInt8) :
    (printRegFile size regfile).toList = (format size).put regfile := by
  have register : ∀ r, (registerText size regfile r).toList = (registerFormat size r).put regfile := by
    intro r
    unfold registerText registerFormat Format.behind Format.closed Format.each Format.of byteFormat
    simp [String.toList_append, String.toList_join, List.flatMap_map]
  unfold printRegFile format Format.closed Format.each
  simp [String.toList_append, String.toList_join, List.flatMap_map, register]

end RegFile

end PhantomTrails
