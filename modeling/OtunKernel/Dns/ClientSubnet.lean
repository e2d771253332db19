import OtunKernel.Dns.Client

namespace OtunKernel.Dns

open Net

-- A record and its options are one cell: no two records share an option. Only
-- the additional section is looked into; rest is the message without it.
abbrev Memory := List RR

def Memory.records (memory : Memory) (cells : List Nat) : List RR := cells.filterMap (memory[·]?)

structure MsgCells where
  rest : Msg
  extra : List Nat

def MsgCells.read (memory : Memory) (message : MsgCells) : Msg := { message.rest with extra := memory.records message.extra }

-- Msg.Copy: every record is copied to a new cell.
def MsgCells.copy (memory : Memory) (message : MsgCells) : Memory × MsgCells :=
  let extra := memory.records message.extra
  (memory ++ extra, { message with extra := List.range' memory.length extra.length })

-- setClientSubnet without clone, as it is called again on the copy.
def MsgCells.writeClientSubnet (memory : Memory) (message : MsgCells) (subnet : Addr × Nat) : Memory × MsgCells :=
  match findExists none 0 (memory.records message.extra) with
  | none => (memory ++ [addedRecord subnet], { message with extra := message.extra ++ [memory.length] })
  | some i => (memory.modify (message.extra.getD i 0) (writeSubnet subnet), message)

def MsgCells.setClientSubnet (memory : Memory) (message : MsgCells) (subnet : Addr × Nat) (clone : Bool) : Memory × MsgCells :=
  if (findExists none 0 (memory.records message.extra)).isSome && clone then
    let (copied, copy) := message.copy memory
    copy.writeClientSubnet copied subnet
  else message.writeClientSubnet memory subnet

section
variable {memory : Memory} {message : MsgCells} {subnet : Addr × Nat}

theorem records_range (front items : Memory) :
    Memory.records (front ++ items) (List.range' front.length items.length) = items := by
  induction items generalizing front with
  | nil => rfl
  | cons item items ih =>
    have later := ih (front ++ [item])
    simp only [List.append_assoc, List.cons_append, List.nil_append, List.length_append, List.length_cons,
      List.length_nil] at later
    simp [Memory.records, List.range'_succ] at later ⊢
    exact later

theorem find_exists_lt {extra : List RR} {start i : Nat} {optRecord : Option Nat}
    (found : findExists optRecord start extra = some i) : i < start + extra.length ∨ optRecord = some i := by
  induction extra generalizing optRecord start with
  | nil => exact .inr found
  | cons record rest ih =>
    rw [findExists] at found
    grind

-- SetClientSubnet gives the value that setClientSubnet computes, and every cell
-- of the memory it is called with stays as it was: what it writes is the copy.
theorem set_client_subnet_read (inside : ∀ cell ∈ message.extra, cell < memory.length) (subnet : Addr × Nat) :
    let (after, result) := message.setClientSubnet memory subnet true
    (∀ cell < memory.length, after[cell]? = memory[cell]?) ∧ result.read after = setClientSubnet (message.read memory) subnet := by
  rw [MsgCells.setClientSubnet, setClientSubnet, setSubnet, MsgCells.read]
  cases found : findExists none 0 (memory.records message.extra) with
  | none =>
    have kept : Memory.records (memory ++ [addedRecord subnet]) message.extra = memory.records message.extra :=
      List.filterMap_congr (fun cell member => List.getElem?_append_left (inside cell member))
    simp only [Option.isSome_none, Bool.false_and, Bool.false_eq_true, if_false, MsgCells.writeClientSubnet, found]
    refine ⟨fun cell bound => List.getElem?_append_left bound, ?_⟩
    rw [MsgCells.read, ← kept]
    simp [Memory.records]
  | some i =>
    have bound : i < (memory.records message.extra).length := by simpa using find_exists_lt found
    have pointer : (List.range' memory.length (memory.records message.extra).length).getD i 0 = memory.length + i := by
      simp [bound]
    have written : (memory ++ memory.records message.extra).modify (memory.length + i) (writeSubnet subnet) =
        memory ++ (memory.records message.extra).modify i (writeSubnet subnet) := by
      rw [List.modify_eq_take_drop, List.take_length_add_append, List.drop_length_add_append, List.append_assoc,
        ← List.modify_eq_take_drop]
    have size : (memory.records message.extra).length = ((memory.records message.extra).modify i (writeSubnet subnet)).length := by
      simp
    simp only [Option.isSome_some, Bool.true_and, if_true, MsgCells.writeClientSubnet, MsgCells.copy, records_range, found,
      pointer, written]
    refine ⟨fun cell inside => List.getElem?_append_left inside, ?_⟩
    rw [MsgCells.read, size, records_range]

end

def RR.holdsOptions (record : RR) : Bool :=
  match record.data with
  | .opt _ => true
  | _ => false

-- One OPT record with one subnet option, the given one; the other records and
-- options are those of before in their order, and so is the OPT record's header.
structure SubnetSet (subnet : Addr × Nat) (before after : List RR) : Prop where
  records : after.filter (!·.holdsOptions) = before.filter (!·.holdsOptions)
  single : ∃ record scope, after.filter RR.holdsOptions = [record] ∧
    record.options.filter EDNS0.isSubnet = [subnetOption subnet scope] ∧
    record.options.filter (!·.isSubnet) = (before.flatMap RR.options).filter (!·.isSubnet) ∧
    ∀ old ∈ before, old.holdsOptions = true → { old with data := record.data } = record

-- The OPT record has one subnet option, or none and no record behind it.
def SubnetPlaced : List RR → Prop
  | [] => True
  | record :: back =>
    if record.holdsOptions then record.options.countP EDNS0.isSubnet = 1 ∨ (record.options.countP EDNS0.isSubnet = 0 ∧ back = [])
    else SubnetPlaced back

section
variable {subnet : Addr × Nat} {record : RR} {before after : List RR}

@[simp] theorem is_subnet_subnet_option (scope : UInt8) : (subnetOption subnet scope).isSubnet = true := rfl

@[simp] theorem holds_options_opt (options : List EDNS0) : RR.holdsOptions { record with data := .opt options } = true := rfl

@[simp] theorem options_opt (options : List EDNS0) : RR.options { record with data := .opt options } = options := rfl

theorem replace_subnet_filter (subnet : Addr × Nat) (options : List EDNS0) :
    (replaceSubnet subnet options).filter (!·.isSubnet) = options.filter (!·.isSubnet) ∧
      (replaceSubnet subnet options).countP EDNS0.isSubnet = options.countP EDNS0.isSubnet ∧
      (options.countP EDNS0.isSubnet = 1 →
        ∃ scope, (replaceSubnet subnet options).filter EDNS0.isSubnet = [subnetOption subnet scope]) := by
  induction options with
  | nil => simp [replaceSubnet]
  | cons option rest ih =>
    cases option with
    | other code content => simpa [replaceSubnet, EDNS0.isSubnet] using ih
    | subnet family mask scope address =>
      have first : (EDNS0.subnet family mask scope address).isSubnet = true := rfl
      simp only [replaceSubnet, List.filter_cons, List.countP_cons, first, is_subnet_subnet_option]
      refine ⟨rfl, trivial, fun single => ⟨scope, ?_⟩⟩
      simpa [List.countP_eq_length_filter] using single

theorem find_exists_shift (optRecord : Option Nat) (i : Nat) (extra : List RR) :
    findExists (optRecord.map (· + 1)) (i + 1) extra = (findExists optRecord i extra).map (· + 1) := by
  induction extra generalizing optRecord i with
  | nil => rfl
  | cons record rest ih =>
    rw [findExists, findExists]
    split
    · split
      · rfl
      · exact ih (some i) (i + 1)
    · exact ih none (i + 1)

theorem set_subnet_pass (passed : findExists none 0 (record :: before) = (findExists none 0 before).map (· + 1)) :
    setSubnet subnet (record :: before) = record :: setSubnet subnet before := by
  rw [setSubnet, passed, setSubnet]
  cases findExists none 0 before with
  | none | some => rfl

section
variable (plain : record.holdsOptions = false)
include plain

theorem plain_options : record.options = [] := by
  unfold RR.holdsOptions at plain
  grind [RR.options]

theorem set_subnet_cons (rest : List RR) : setSubnet subnet (record :: rest) = record :: setSubnet subnet rest := by
  refine set_subnet_pass ?_
  rw [← find_exists_shift none, findExists]
  unfold RR.holdsOptions at plain
  grind

theorem subnet_set_cons : SubnetSet subnet (record :: before) (record :: after) ↔ SubnetSet subnet before after := by
  constructor
  · rintro ⟨records, single⟩
    refine ⟨?_, ?_⟩
    · simpa [plain] using records
    · simpa [plain, plain_options plain] using single
  · rintro ⟨records, single⟩
    refine ⟨?_, ?_⟩
    · simpa [plain] using records
    · simpa [plain, plain_options plain] using single

end

theorem set_subnet_plain (plain : ∀ record ∈ before, record.holdsOptions = false) :
    setSubnet subnet before = before ++ [addedRecord subnet] := by
  induction before with
  | nil => rfl
  | cons record rest ih =>
    obtain ⟨first, later⟩ := List.forall_mem_cons.mp plain
    rw [set_subnet_cons first, ih later, List.cons_append]

theorem subnet_set_written (held : record.holdsOptions = true) (plain : ∀ other ∈ after, other.holdsOptions = false)
    (written : List EDNS0) : SubnetSet subnet (record :: after) ({ record with data := .opt written } :: after) ↔
      (∃ scope, written.filter EDNS0.isSubnet = [subnetOption subnet scope]) ∧
        written.filter (!·.isSubnet) = record.options.filter (!·.isSubnet) := by
  have rest : after.filter RR.holdsOptions = [] := by simpa using plain
  have free : after.flatMap RR.options = [] := List.flatMap_eq_nil_iff.mpr (fun other listed => plain_options (plain other listed))
  constructor
  · rintro ⟨_, only, scope, found, subnets, others, _⟩
    simp only [List.filter_cons, holds_options_opt, if_true, rest, List.cons.injEq, and_true] at found
    subst found
    exact ⟨⟨scope, subnets⟩, by simpa [free] using others⟩
  · rintro ⟨⟨scope, subnets⟩, others⟩
    refine ⟨by simp [held], { record with data := .opt written }, scope, ?_, subnets, by simpa [free] using others, ?_⟩
    · rw [List.filter_cons_of_pos rfl, rest]
    intro old listed holds
    rcases List.mem_cons.mp listed with rfl | later
    · rfl
    · simp [plain old later] at holds

theorem subnet_set_opt {options : List EDNS0} (data : record.data = .opt options)
    (plain : ∀ other ∈ after, other.holdsOptions = false) :
    SubnetSet subnet (record :: after) (setSubnet subnet (record :: after)) ↔ SubnetPlaced (record :: after) := by
  have held : record.holdsOptions = true := by rw [RR.holdsOptions, data]
  have own : record.options = options := by rw [RR.options, data]
  rw [SubnetPlaced, if_pos held, own]
  by_cases any : options.any EDNS0.isSubnet = true
  · obtain ⟨others, count, single⟩ := replace_subnet_filter subnet options
    have present : options.countP EDNS0.isSubnet ≠ 0 := by simpa [List.countP_eq_zero] using any
    have here : setSubnet subnet (record :: after) = writeSubnet subnet record :: after := by
      rw [setSubnet, findExists]
      simp [data, any]
    rw [here, writeSubnet, own, if_pos any, subnet_set_written held plain, own, and_iff_left others,
      or_iff_left (fun empty => present empty.1)]
    refine ⟨?_, single⟩
    rintro ⟨scope, subnets⟩
    rw [← count, List.countP_eq_length_filter, subnets]
    rfl
  have bare : options.filter EDNS0.isSubnet = [] := by simpa using any
  have zero : options.countP EDNS0.isSubnet = 0 := by rw [List.countP_eq_length_filter, bare]; rfl
  by_cases last : after = []
  · subst last
    refine iff_of_true ?_ (.inr ⟨zero, rfl⟩)
    have here : setSubnet subnet [record] = [writeSubnet subnet record] := by
      rw [setSubnet, findExists]
      simp [data, any, findExists]
    rw [here, writeSubnet, own, if_neg any]
    exact (subnet_set_written held plain _).mpr ⟨⟨0, by simp [bare]⟩, by simp [own]⟩
  · have passed : findExists none 0 (record :: after) = (findExists none 0 after).map (· + 1) := by
      obtain ⟨next, back, rfl⟩ := List.exists_cons_of_ne_nil last
      rw [← find_exists_shift, findExists]
      simp [data, any, findExists]
    rw [set_subnet_pass passed, set_subnet_plain plain]
    refine iff_of_false ?_ (by simp [zero, last])
    rintro ⟨_, only, scope, found, _⟩
    have added : (addedRecord subnet).holdsOptions = true := rfl
    have rest : after.filter RR.holdsOptions = [] := by simpa using plain
    simp [held, rest, added] at found

theorem subnet_set_iff (few : (before.filter RR.holdsOptions).length ≤ 1) :
    SubnetSet subnet before (setSubnet subnet before) ↔ SubnetPlaced before := by
  induction before with
  | nil =>
    refine iff_of_true ⟨rfl, addedRecord subnet, 0, rfl, rfl, rfl, nofun⟩ trivial
  | cons record rest ih =>
    cases held : record.holdsOptions with
    | false =>
      rw [set_subnet_cons held, subnet_set_cons held, ih (by simpa [held] using few), SubnetPlaced, held]
      rfl
    | true =>
      have plain : ∀ other ∈ rest, other.holdsOptions = false := by simpa [held] using few
      rw [RR.holdsOptions] at held
      split at held
      · rename_i data
        exact subnet_set_opt data plain
      · contradiction

end

-- An OPT record is found if it is the last record or has a subnet option. Any
-- other is forgotten at the next record, and a second is appended.
theorem client_subnet_set_iff (memory : Memory) (message : MsgCells) (subnet : Addr × Nat)
    (inside : ∀ cell ∈ message.extra, cell < memory.length)
    (few : ((message.read memory).extra.filter RR.holdsOptions).length ≤ 1) :
    let (after, result) := message.setClientSubnet memory subnet true
    (∀ cell < memory.length, after[cell]? = memory[cell]?) ∧ message.read after = message.read memory ∧
    (∃ extra, result.read after = { message.read memory with extra := extra }) ∧
    (SubnetSet subnet (message.read memory).extra (result.read after).extra ↔ SubnetPlaced (message.read memory).extra) := by
  obtain ⟨kept, value⟩ := set_client_subnet_read inside subnet
  refine ⟨kept, ?_, ⟨_, value⟩, ?_⟩
  · rw [MsgCells.read, MsgCells.read, Memory.records, List.filterMap_congr (fun cell member => kept cell (inside cell member))]
    rfl
  · rw [value]
    exact subnet_set_iff few

def optThenRecord : Memory := [⟨".", typeOPT, 1232, 0, .opt []⟩, ⟨"example.org.", 16, 1, 60, .other []⟩]

def messageOf (cells : List Nat) : MsgCells := ⟨⟨0, false, rcodeSuccess, [], [], [], []⟩, cells⟩

theorem opt_before_record_counterexample :
    (((messageOf [0, 1]).read optThenRecord).extra.filter RR.holdsOptions).length = 1 ∧
    let (after, result) := (messageOf [0, 1]).setClientSubnet optThenRecord (.v4 0x01020300#32, 24) true
    ((result.read after).extra.filter RR.holdsOptions).length = 2 := by
  decide

theorem last_opt_subnetted :
    let (after, result) := (messageOf [1, 0]).setClientSubnet optThenRecord (.v4 0x01020300#32, 24) true
    SubnetSet (.v4 0x01020300#32, 24) ((messageOf [1, 0]).read optThenRecord).extra (result.read after).extra :=
  (client_subnet_set_iff optThenRecord (messageOf [1, 0]) (.v4 0x01020300#32, 24) (by decide) (by decide)).2.2.2.mpr
    (.inr ⟨by decide, rfl⟩)

end OtunKernel.Dns
