import CallGate.Json.Forms
import CallGate.Proofs.Json.Written
import CallGate.Proofs.Register.Layout
import CallGate.Settings

/-! Registers, flags, identifiers and settings are read back from what is written for them, and from
no object that says anything else. -/

namespace CallGate

open Json

namespace Slot

/-- Every slot is listed. -/
theorem mem_all (slot : Slot) : slot ∈ all :=
  List.mem_of_getElem? slot.all_place

/-- Slots are told apart by their names. -/
theorem eq_of_name {slot other : Slot} (same : slot.name = other.name) : slot = other :=
  -- The nine names are listed, and a look at the list shows that none comes twice.
  List.inj_on_of_nodup_map (by decide : (all.map name).Nodup) slot.mem_all other.mem_all same

end Slot

namespace RegisterFile

/-- A slot as a field of a register file. -/
def field (slot : Slot) : RecordField RegisterFile :=
  .natural slot.name UInt64.size (fun file => file.read slot)
    (fun file word => file.write slot word) fun _ file => by rw [read_write, if_pos rfl]

/-- All slots are the fields of a register file, and all of them are needed. -/
def layout : Layout RegisterFile where
  fields := Slot.all.map field
  complete := true
  exclusive := false
  distinct := (by decide : (Slot.all.map Slot.name).Nodup)
  apart := by
    intro field first other second different file word
    obtain ⟨slot, -, rfl⟩ := List.mem_map.mp first
    obtain ⟨another, -, rfl⟩ := List.mem_map.mp second
    have apart : another ≠ slot := fun same => different (same ▸ rfl)
    exact (read_write file slot another word).trans (if_neg apart)
  ext := by
    intro file other same
    exact eq_of_read fun slot => same (field slot) (List.mem_map_of_mem slot.mem_all)

/-- The form of a register file reads these fields. -/
theorem form_eq : form = layout.form := rfl

/-- The members a register file is written with. -/
def members (file : RegisterFile) : List (String × List Char) :=
  Slot.all.map fun slot => (slot.name, writeNatural (file.read slot).toNat)

/-- A slot is written with its word, and so is nothing else of its name. -/
theorem mem_members_iff {file : RegisterFile} {slot : Slot} {text : List Char} :
    (slot.name, text) ∈ file.members ↔ text = writeNatural (file.read slot).toNat := by
  -- A name leads back to its slot, so only the word of that slot is written under it.
  rw [members, List.mem_map]
  constructor
  · rintro ⟨other, -, same⟩
    obtain ⟨name, rfl⟩ := Prod.mk.inj same
    rw [Slot.eq_of_name name]
  · rintro rfl
    exact ⟨slot, slot.mem_all, rfl⟩

/-- The names a register file is written with are those of all slots. -/
theorem map_fst_members (file : RegisterFile) :
    file.members.map Prod.fst = Slot.all.map Slot.name := by
  rw [members, List.map_map]
  rfl

/-- The members of an object that name a slot. -/
def slots (members : List (String × List Char)) : List (String × List Char) :=
  members.filter fun member => member.1 ∈ Slot.all.map Slot.name

/-- A slot is named by those members that have its name. -/
theorem mem_slots_iff {members : List (String × List Char)} {slot : Slot} {text : List Char} :
    (slot.name, text) ∈ slots members ↔ (slot.name, text) ∈ members := by
  -- Every slot is among those whose names are kept.
  have named : slot.name ∈ Slot.all.map Slot.name := List.mem_map_of_mem slot.mem_all
  simp only [slots, List.mem_filter, decide_eq_true_eq, named, and_true]

/-- The names of these members are the fields that all members name. -/
theorem map_fst_slots (members : List (String × List Char)) :
    (slots members).map Prod.fst = layout.named members := by
  -- Keeping a member by its name and keeping its name are the same.
  rw [slots, Layout.named, List.filter_map]
  rfl

/-- A register file is made of the members it is written with, in any order and among any others
that name no slot. -/
theorem makes_iff {members : List (String × List Char)} {start file : RegisterFile} :
    layout.Makes members start file ↔ (slots members).Perm file.members := by
  -- A register file is written with each name once.
  have names : (file.members.map Prod.fst).Nodup := by
    rw [map_fst_members]
    decide
  constructor
  · rintro ⟨fills, once, whole⟩
    -- Every member of a slot's name spells the word that the file has there.
    have spelled (slot : Slot) {text : List Char} (given : (slot.name, text) ∈ members) :
        text = writeNatural (file.read slot).toNat :=
      (fills.given (field slot) (List.mem_map_of_mem slot.mem_all) text given).2
    rw [← map_fst_slots] at once
    -- Neither side has a member twice, so it is enough that they have the same members.
    refine (List.perm_ext_iff_of_nodup (.of_map _ once) (.of_map _ names)).mpr ?_
    rintro ⟨name, text⟩
    constructor
    · intro given
      obtain ⟨given, named⟩ := List.mem_filter.mp given
      obtain ⟨slot, -, rfl⟩ := List.mem_map.mp (of_decide_eq_true named)
      exact mem_members_iff.mpr (spelled slot given)
    -- A slot that is written was given, since the file was only complete with all of them.
    · intro written
      obtain ⟨slot, -, same⟩ := List.mem_map.mp written
      obtain ⟨rfl, rfl⟩ := Prod.mk.inj same
      obtain ⟨⟨_, text⟩, given, rfl⟩ :=
        List.mem_map.mp (whole rfl slot.name (List.mem_map.mpr
          ⟨field slot, List.mem_map_of_mem slot.mem_all, rfl⟩))
      rw [← spelled slot given]
      exact mem_slots_iff.mpr given
  · intro same
    -- Every slot is written, so the members at hand have one of its name.
    have present (slot : Slot) : slot.name ∈ members.map Prod.fst := by
      have written : (slot.name, writeNatural (file.read slot).toNat) ∈ file.members :=
        mem_members_iff.mpr rfl
      exact List.mem_map.mpr ⟨_, mem_slots_iff.mp (same.mem_iff.mpr written), rfl⟩
    refine ⟨⟨?_, ?_, ?_⟩, ?_, ?_⟩
    -- No name is foreign to a register file.
    · rintro ⟨⟩
    -- What a slot's member spells is the word that is written for it.
    · rintro field mem text given
      obtain ⟨slot, -, rfl⟩ := List.mem_map.mp mem
      have written := same.mem_iff.mp (mem_slots_iff.mpr given)
      exact ⟨(file.read slot).toNat_lt_size, mem_members_iff.mp written⟩
    -- No slot is left out, so none keeps what it was.
    · intro field mem absent
      obtain ⟨slot, -, rfl⟩ := List.mem_map.mp mem
      exact absurd (present slot) absent
    -- The names come once because they are those of a register file, in some order.
    · rw [← map_fst_slots]
      exact (same.map Prod.fst).nodup_iff.mpr names
    -- Every slot of the layout is given.
    · rintro - name named
      obtain ⟨field, mem, rfl⟩ := List.mem_map.mp named
      obtain ⟨slot, -, rfl⟩ := List.mem_map.mp mem
      exact present slot

/-- A register file is read from its own members, in any order and among members of other names,
whatever blanks stand between them. -/
theorem ofJson_eq_ok_iff {members : List (String × List Char)} {text : String}
    (object : IsObject members text.toList) {file : RegisterFile} :
    ofJson text = .ok file ↔ (slots members).Perm file.members := by
  -- The reader of the form is complete, so what it makes of the members is all there is to it.
  rw [ofJson, form_eq, Layout.complete_eq_ok_iff object, makes_iff]

/-- The members a register file is written with all name slots. -/
theorem slots_members (file : RegisterFile) : slots file.members = file.members := by
  -- The filter keeps a member whose name is a slot's, and these are slots' names.
  refine List.filter_eq_self.mpr fun member mem => decide_eq_true ?_
  rw [← file.map_fst_members]
  exact List.mem_map_of_mem mem

/-- A register file is written as an object of its members. -/
theorem isObject_toJson (file : RegisterFile) : IsObject file.members file.toJson.toList := by
  rw [toJson, String.toList_ofList]
  refine isObject_writeObject fun member mem => ?_
  -- The value of a slot is a natural number of 64 bits.
  obtain ⟨slot, -, rfl⟩ := List.mem_map.mp mem
  exact (reads_natural UInt64.size).isValue ⟨(file.read slot).toNat_lt_size, rfl⟩

/-- A register file is read back from what is written for it. -/
theorem ofJson_toJson (file : RegisterFile) : ofJson file.toJson = .ok file := by
  -- The members are their own, and so in the right order already.
  rw [ofJson_eq_ok_iff file.isObject_toJson, slots_members]

/-- A register file that is read has each of its slots among the members once. -/
theorem count_of_ofJson {members : List (String × List Char)} {text : String}
    (object : IsObject members text.toList) {file : RegisterFile} (read : ofJson text = .ok file)
    (slot : Slot) : (members.map Prod.fst).count slot.name = 1 := by
  -- Among the slots' members the name comes as often as among those that are written, which is
  -- once.
  have named : slot.name ∈ Slot.all.map Slot.name := List.mem_map_of_mem slot.mem_all
  have same := ((ofJson_eq_ok_iff object).mp read).map Prod.fst
  rw [map_fst_slots, map_fst_members] at same
  have kept : (layout.named members).count slot.name = (members.map Prod.fst).count slot.name :=
    List.count_filter (decide_eq_true named)
  rw [← kept, same.count_eq]
  exact List.count_eq_one_of_mem (by decide) named

end RegisterFile

namespace Settings

/-- The settings are the fields of a settings file, none of them needed. -/
def layout : Layout Settings where
  fields := [
    .text "host" host (fun settings host => { settings with host }) fun _ _ => rfl,
    .natural "port" UInt16.size (fun settings => settings.port.toUInt64)
      (fun settings port => { settings with port := port.toUInt16 })
      fun small _ => UInt64.toNat_inj.mp (Nat.mod_eq_of_lt small),
    .natural "max_clients" UInt64.size maxClients
      (fun settings maxClients => { settings with maxClients }) fun _ _ => rfl,
    .optional "public_key" publicKey (fun settings publicKey => { settings with publicKey })
      fun _ _ => rfl,
    .optional "private_key" privateKey (fun settings privateKey => { settings with privateKey })
      fun _ _ => rfl,
    .optional "tether" descriptor (fun settings descriptor => { settings with descriptor })
      fun _ _ => rfl,
    .natural "poll_interval_ms" UInt64.size pollMilliseconds
      (fun settings pollMilliseconds => { settings with pollMilliseconds }) fun _ _ => rfl,
    .natural "idle_timeout_secs" UInt64.size idleSeconds
      (fun settings idleSeconds => { settings with idleSeconds }) fun _ _ => rfl]
  complete := false
  exclusive := true
  distinct := by decide
  apart := by
    intro field first other second
    simp only [List.mem_cons, List.not_mem_nil, or_false] at first second
    obtain rfl | rfl | rfl | rfl | rfl | rfl | rfl | rfl := first
    all_goals obtain rfl | rfl | rfl | rfl | rfl | rfl | rfl | rfl := second
    all_goals
      intro different settings value
      first | rfl | exact absurd rfl different
  ext := by
    intro settings other same
    simp only [List.forall_mem_cons] at same
    obtain ⟨host, port, maxClients, publicKey, privateKey, descriptor, poll, idle, -⟩ := same
    have ports : settings.port = other.port := UInt16.toUInt64_inj.mp port
    cases settings
    cases other
    simp only [mk.injEq]
    exact ⟨host, ports, maxClients, publicKey, privateKey, descriptor, poll, idle⟩

/-- The form of a settings file reads these fields. -/
theorem form_eq : form = layout.form := rfl

/-- A member that tells one of the settings. -/
inductive Tells (settings : Settings) : String × List Char → Prop where
  | host {text : List Char} (spelled : SpelledText settings.host text) :
      Tells settings ("host", text)
  | port : Tells settings ("port", writeNatural settings.port.toNat)
  | maxClients : Tells settings ("max_clients", writeNatural settings.maxClients.toNat)
  | publicKey {text : List Char} (spelled : SpelledOption settings.publicKey text) :
      Tells settings ("public_key", text)
  | privateKey {text : List Char} (spelled : SpelledOption settings.privateKey text) :
      Tells settings ("private_key", text)
  | descriptor {text : List Char} (spelled : SpelledOption settings.descriptor text) :
      Tells settings ("tether", text)
  | pollMilliseconds :
      Tells settings ("poll_interval_ms", writeNatural settings.pollMilliseconds.toNat)
  | idleSeconds : Tells settings ("idle_timeout_secs", writeNatural settings.idleSeconds.toNat)

/-- The default settings with the named ones replaced. -/
def only (settings : Settings) (names : List String) : Settings where
  host := if "host" ∈ names then settings.host else ({} : Settings).host
  port := if "port" ∈ names then settings.port else ({} : Settings).port
  maxClients := if "max_clients" ∈ names then settings.maxClients else ({} : Settings).maxClients
  publicKey := if "public_key" ∈ names then settings.publicKey else ({} : Settings).publicKey
  privateKey := if "private_key" ∈ names then settings.privateKey else ({} : Settings).privateKey
  descriptor := if "tether" ∈ names then settings.descriptor else ({} : Settings).descriptor
  pollMilliseconds :=
    if "poll_interval_ms" ∈ names then settings.pollMilliseconds
    else ({} : Settings).pollMilliseconds
  idleSeconds :=
    if "idle_timeout_secs" ∈ names then settings.idleSeconds else ({} : Settings).idleSeconds

/-- A setting is told by what is read as a field of its name. -/
theorem tells_iff {settings : Settings} {name : String} {text : List Char} :
    settings.Tells (name, text) ↔
      ∃ field ∈ layout.fields, field.name = name ∧ field.Spells (field.get settings) text := by
  -- Every setting is one field of the layout, so the cases on either side are the same eight.
  constructor
  · intro tells
    cases tells with
    | host spelled => exact ⟨layout.fields[0], List.getElem_mem _, rfl, spelled⟩
    | port =>
      exact ⟨layout.fields[1], List.getElem_mem _, rfl, settings.port.toNat_lt_size, rfl⟩
    | maxClients =>
      exact ⟨layout.fields[2], List.getElem_mem _, rfl, settings.maxClients.toNat_lt_size, rfl⟩
    | publicKey spelled => exact ⟨layout.fields[3], List.getElem_mem _, rfl, spelled⟩
    | privateKey spelled => exact ⟨layout.fields[4], List.getElem_mem _, rfl, spelled⟩
    | descriptor spelled => exact ⟨layout.fields[5], List.getElem_mem _, rfl, spelled⟩
    | pollMilliseconds =>
      exact ⟨layout.fields[6], List.getElem_mem _, rfl, settings.pollMilliseconds.toNat_lt_size,
        rfl⟩
    | idleSeconds =>
      exact ⟨layout.fields[7], List.getElem_mem _, rfl, settings.idleSeconds.toNat_lt_size, rfl⟩
  -- A number is told with the range that its type has, and nothing more.
  · rintro ⟨field, mem, rfl, spelled⟩
    simp only [layout, List.mem_cons, List.not_mem_nil, or_false] at mem
    obtain rfl | rfl | rfl | rfl | rfl | rfl | rfl | rfl := mem
    · exact .host spelled
    · obtain ⟨-, rfl⟩ := spelled
      exact .port
    · obtain ⟨-, rfl⟩ := spelled
      exact .maxClients
    · exact .publicKey spelled
    · exact .privateKey spelled
    · exact .descriptor spelled
    · obtain ⟨-, rfl⟩ := spelled
      exact .pollMilliseconds
    · obtain ⟨-, rfl⟩ := spelled
      exact .idleSeconds

/-- What tells a setting has its name and a well-formed value. -/
theorem Tells.known {settings : Settings} {member : String × List Char}
    (tells : settings.Tells member) : member.1 ∈ layout.names ∧ IsValue member.2 := by
  -- Whatever a field reads is a value, and the field has the name of the setting.
  obtain ⟨field, mem, same, spelled⟩ := tells_iff.mp tells
  exact ⟨same ▸ List.mem_map_of_mem mem, field.reads.isValue spelled⟩

/-- Each field is the one replaced or the default. -/
theorem get_only {field : RecordField Settings} (mem : field ∈ layout.fields) (settings : Settings)
    (names : List String) : field.get (settings.only names) =
      if field.name ∈ names then field.get settings else field.get {} := by
  -- The eight fields are looked at one by one, the port being a shorter word than it is read as.
  simp only [layout, List.mem_cons, List.not_mem_nil, or_false] at mem
  obtain rfl | rfl | rfl | rfl | rfl | rfl | rfl | rfl := mem
  all_goals first | rfl | exact apply_ite UInt16.toUInt64 ..

/-- Settings are made of members that tell each setting at most once, over the defaults. -/
theorem makes_iff {members : List (String × List Char)} {read : Settings} :
    layout.Makes members {} read ↔
      (members.map Prod.fst).Nodup ∧ ∃ given : Settings,
        (∀ member ∈ members, given.Tells member) ∧ read = given.only (members.map Prod.fst) := by
  -- No member has any other name.
  have named (known : ∀ member ∈ members, member.1 ∈ layout.names) :
      layout.named members = members.map Prod.fst := by
    refine List.filter_eq_self.mpr fun name mem => ?_
    obtain ⟨member, given, rfl⟩ := List.mem_map.mp mem
    exact decide_eq_true (known member given)
  constructor
  · -- What was read tells all members itself, and is the default wherever there is none.
    rintro ⟨⟨known, given, left⟩, once, -⟩
    refine ⟨named (known rfl) ▸ once, read, ?_, ?_⟩
    · rintro ⟨name, text⟩ member
      obtain ⟨field, mem, rfl⟩ := List.mem_map.mp (known rfl _ member)
      exact tells_iff.mpr ⟨field, mem, rfl, given field mem text member⟩
    · refine layout.ext _ _ fun field mem => ?_
      rw [get_only mem]
      split
      · rfl
      · rename_i absent
        exact left field mem absent
  -- The members tell the settings that were given, and the names decide which of them are taken.
  · rintro ⟨once, given, tells, rfl⟩
    have known (member) (mem : member ∈ members) : member.1 ∈ layout.names :=
      (tells member mem).known.1
    refine ⟨⟨fun _ => known, ?_, ?_⟩, named known ▸ once, ?_⟩
    -- A member of a field's name tells that field, since names are not shared.
    · intro field mem text member
      obtain ⟨other, another, same, spelled⟩ := tells_iff.mp (tells _ member)
      obtain rfl := Layout.eq_of_name another mem same
      rw [get_only mem, if_pos (List.mem_map.mpr ⟨_, member, rfl⟩)]
      exact spelled
    -- A setting that no member names is the default.
    · intro field mem absent
      rw [get_only mem, if_neg absent]
    · rintro ⟨⟩

/-- The members settings are written with. -/
def members (settings : Settings) : List (String × List Char) := [
  ("host", writeText settings.host),
  ("port", writeNatural settings.port.toNat),
  ("max_clients", writeNatural settings.maxClients.toNat),
  ("public_key", writeOptionalText settings.publicKey),
  ("private_key", writeOptionalText settings.privateKey),
  ("tether", writeOptionalText settings.descriptor),
  ("poll_interval_ms", writeNatural settings.pollMilliseconds.toNat),
  ("idle_timeout_secs", writeNatural settings.idleSeconds.toNat)]

/-- Settings are written with members that tell them. -/
theorem tells_members (settings : Settings) :
    ∀ member ∈ settings.members, settings.Tells member := by
  -- The eight members are written each in its own way, and each way tells its setting.
  simp only [members, List.forall_mem_cons]
  exact ⟨.host (spelled_writeText _), .port, .maxClients, .publicKey (spelled_writeOptionalText _),
    .privateKey (spelled_writeOptionalText _), .descriptor (spelled_writeOptionalText _),
    .pollMilliseconds, .idleSeconds, List.forall_mem_nil _⟩

/-- Settings are made of the members they are written with. -/
theorem makes_members (settings : Settings) : layout.Makes settings.members {} settings := by
  -- All names are given, so each setting is the one that was written.
  have names : settings.members.map Prod.fst = layout.names := rfl
  refine makes_iff.mpr ⟨names ▸ layout.distinct, settings, settings.tells_members, ?_⟩
  refine layout.ext _ _ fun field mem => ?_
  rw [get_only mem, if_pos (names ▸ List.mem_map_of_mem mem)]

/-- Settings are read from any of their members in any order, over the defaults, and from nothing
else. -/
theorem ofJson_eq_ok_iff {members : List (String × List Char)} {text : String}
    (object : IsObject members text.toList) {read : Settings} :
    ofJson text = .ok read ↔
      (members.map Prod.fst).Nodup ∧ ∃ given : Settings,
        (∀ member ∈ members, given.Tells member) ∧ read = given.only (members.map Prod.fst) := by
  -- The reader of the form is complete, so what it makes of the members is all there is to it.
  rw [ofJson, form_eq, Layout.complete_eq_ok_iff object, makes_iff]

/-- An escape stands for its character, the order is free, and the rest keeps its default. -/
example :
    (ofJson "\x7b \"idle_timeout_secs\": 5,\"host\":\"\\u0061\\n\" \x7d").toOption =
      some { host := "a\n", idleSeconds := 5 } := by
  decide +kernel

/-- Settings are written as an object of their members. -/
theorem isObject_toJson (settings : Settings) :
    IsObject settings.members settings.toJson.toList := by
  -- Every member that is written tells a setting, and what tells one is a value.
  rw [toJson, String.toList_ofList]
  exact isObject_writeObject fun member mem => (settings.tells_members member mem).known.2

/-- Settings are read back from what is written for them. -/
theorem ofJson_toJson (settings : Settings) : ofJson settings.toJson = .ok settings := by
  -- Reading comes to what the written members make, and they make the settings again.
  rw [ofJson, form_eq, Layout.complete_eq_ok_iff settings.isObject_toJson]
  exact settings.makes_members

end Settings

namespace Json

/-- Registers, flags, identifiers and settings are read back from what is written for them, and
objects are read by what their members say. -/
structure Faithful : Prop where
  flags : ∀ flags : Flags, Flags.ofJson flags.toJson = .ok flags
  identifiers : ∀ id : ConnectionId, ConnectionId.ofJson id.toJson = .ok id
  registers : ∀ file : RegisterFile, RegisterFile.ofJson file.toJson = .ok file
  settings : ∀ settings : Settings, Settings.ofJson settings.toJson = .ok settings
  /-- What is written is an object of the members a register file is read from. -/
  registersWritten : ∀ file : RegisterFile, IsObject file.members file.toJson.toList
  settingsWritten : ∀ settings : Settings, IsObject settings.members settings.toJson.toList
  /-- A register file is read from its own members, in any order and among members of other names,
  whatever blanks stand between them. -/
  registerObject : ∀ {members : List (String × List Char)} {text : String},
    IsObject members text.toList → ∀ file : RegisterFile,
      RegisterFile.ofJson text = .ok file ↔ (RegisterFile.slots members).Perm file.members
  /-- No register file is read when a slot is missing or repeated. -/
  registerRefused : ∀ {members : List (String × List Char)} {text : String},
    IsObject members text.toList → ∀ slot : Slot, (members.map Prod.fst).count slot.name ≠ 1 →
      ∃ fault, RegisterFile.ofJson text = .error fault
  /-- Settings are read from any of their members in any order, over the defaults, and from nothing
  else. -/
  settingsObject : ∀ {members : List (String × List Char)} {text : String},
    IsObject members text.toList → ∀ read : Settings,
      Settings.ofJson text = .ok read ↔
        (members.map Prod.fst).Nodup ∧ ∃ given : Settings,
          (∀ member ∈ members, given.Tells member) ∧ read = given.only (members.map Prod.fst)
  /-- No settings are read when a name is unknown or repeated. -/
  settingsRefused : ∀ {members : List (String × List Char)} {text : String},
    IsObject members text.toList →
      (∃ member ∈ members, member.1 ∉ Settings.layout.names) ∨ ¬ (members.map Prod.fst).Nodup →
        ∃ fault, Settings.ofJson text = .error fault

/-- A reading that does not succeed fails. -/
theorem exists_fault {α : Type} {read : Except Fault α} (never : ∀ value, read ≠ .ok value) :
    ∃ fault, read = .error fault := by
  -- A reading either fails or has a value, and no value is there to have.
  cases read with
  | error fault => exact ⟨fault, rfl⟩
  | ok value => exact absurd rfl (never value)

/-- What is written for registers, flags, identifiers and settings is faithful to them, and so is
what is read. -/
theorem faithful_forms : Faithful where
  flags := by
    intro flags
    have word := (reads_natural UInt64.size).complete ⟨flags.bits.toNat_lt_size, rfl⟩
    rw [Flags.ofJson, Flags.toJson, word]
    rfl
  identifiers := by
    intro id
    have word := (reads_natural UInt64.size).complete ⟨id.number.toNat_lt_size, rfl⟩
    rw [ConnectionId.ofJson, ConnectionId.toJson, word]
    rfl
  registers := RegisterFile.ofJson_toJson
  settings := Settings.ofJson_toJson
  registersWritten := RegisterFile.isObject_toJson
  settingsWritten := Settings.isObject_toJson
  registerObject := fun object _ => RegisterFile.ofJson_eq_ok_iff object
  registerRefused := by
    -- A file that was read would have had the slot once.
    intro members text object slot other
    exact exists_fault fun file read => other (RegisterFile.count_of_ofJson object read slot)
  settingsObject := fun object _ => Settings.ofJson_eq_ok_iff object
  settingsRefused := by
    -- Settings that were read would have had known names only, and each once.
    intro members text object refused
    refine exists_fault fun settings read => ?_
    obtain ⟨once, given, tells, -⟩ := (Settings.ofJson_eq_ok_iff object).mp read
    obtain ⟨member, mem, unknown⟩ | twice := refused
    · exact unknown (tells member mem).known.1
    · exact twice once

end Json

end CallGate
