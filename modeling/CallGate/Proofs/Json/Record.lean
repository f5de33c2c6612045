import CallGate.Proofs.Json.Spelling

/-! Which objects are read as a record, and as which one. -/

namespace CallGate.Json

/-! ## Objects -/

/-- A member of an object: its name, a colon and the text of its value. -/
def Named (member : String × List Char) (piece : List Char) : Prop :=
  ∃ before key between after, Blanks before ∧ SpelledText member.1 key ∧ Blanks between ∧
    Blanks after ∧ piece = before ++ (key ++ (between ++ ':' :: (after ++ member.2)))

/-- An object with the given members in order, each with the text of a well-formed value. -/
inductive IsObject (members : List (String × List Char)) : List Char → Prop where
  | braced {before text after : List Char} (first : Blanks before)
      (items : Items Named '\x7d' true members text)
      (all : ∀ member ∈ members, IsValue member.2) (last : Blanks after) :
      IsObject members (before ++ '\x7b' :: (text ++ after))

/-- An object has more characters than members. -/
theorem Items.length_lt {α : Type} {Item : α → List Char → Prop} {closing : Char} {opened : Bool}
    {items : List α} {text : List Char} (some : ∀ {item piece}, Item item piece → piece ≠ [])
    (left : Items Item closing opened items text) : items.length < text.length := by
  -- Each member needs a character of its own, and the end of the object one more.
  induction left with
  | closed => simp
  | first head tail ih =>
    have present := List.length_pos_iff.mpr (some head)
    simp only [List.length_cons, List.length_append]
    omega
  | next blanks head tail ih =>
    simp only [List.length_cons, List.length_append]
    omega

/-- The end of an object is no further key. -/
theorem nextKey_closing {gap : List Char} (blanks : Blanks gap) (first : Bool) (rest : List Char) :
    nextKey first (gap ++ '\x7d' :: rest) = .ok (none, rest) := by
  -- The closing brace is the first character that is no blank.
  simp only [nextKey, skipBlanks_append_cons blanks (show isBlank '\x7d' = false by decide)]
  rfl

/-- A name in quotes is read, with the blanks before it. -/
theorem key_append {before key : List Char} {name : String} (blanks : Blanks before)
    (spelled : SpelledText name key) (rest : List Char) :
    (do
      let (found, rest) ← stringTail (← mark '"' (before ++ (key ++ rest)))
      return (some found, rest)) = Except.ok (some name, rest) := by
  obtain @⟨tail, spelled⟩ := spelled
  -- The quote is found first, and then the name up to its closing quote.
  have opened : mark '"' (before ++ '"' :: (tail ++ rest)) = .ok (tail ++ rest) :=
    mark_append blanks (by decide) _
  have read : stringTail (tail ++ rest) = .ok (name, rest) :=
    stringTail_eq_ok_iff.mpr ⟨tail, rfl, spelled⟩
  simp only [List.cons_append, opened, bind, Except.bind, read]
  rfl

/-- The first key stands behind blanks alone. -/
theorem nextKey_first {before key : List Char} {name : String} (blanks : Blanks before)
    (spelled : SpelledText name key) (rest : List Char) :
    nextKey true (before ++ (key ++ rest)) = .ok (some name, rest) := by
  -- Blanks in front are passed over by the mark as well as by the look for a closing brace.
  have read := key_append blanks_nil spelled rest
  obtain ⟨tail⟩ := spelled
  rw [nextKey, List.cons_append, skipBlanks_append_cons blanks (by decide)]
  exact read

/-- A further key stands behind a comma. -/
theorem nextKey_next {gap before key : List Char} {name : String} (blanks : Blanks gap)
    (others : Blanks before) (spelled : SpelledText name key) (rest : List Char) :
    nextKey false (gap ++ ',' :: (before ++ (key ++ rest))) = .ok (some name, rest) := by
  -- The comma is found behind its blanks, and the key behind the comma.
  have read := key_append others spelled rest
  rw [nextKey, skipBlanks_append_cons blanks (by decide)]
  exact read

/-! ## Records -/

/-- A field of a record: where its value stands in the record, and how the value is spelled. -/
structure RecordField (α : Type) where
  name : String
  {Value : Type}
  get : α → Value
  set : α → Value → α
  read : Reader Value
  Spells : Value → List Char → Prop
  get_set : ∀ {value text}, Spells value text → ∀ record, get (set record value) = value
  reads : Reads read Spells

/-- A field that holds a natural number below a bound. -/
def RecordField.natural {α : Type} (name : String) (bound : Nat) (get : α → UInt64)
    (set : α → UInt64 → α)
    (get_set : ∀ {word : UInt64}, word.toNat < bound → ∀ record, get (set record word) = word) :
    RecordField α where
  name := name
  get := get
  set := set
  read := Json.natural bound
  Spells := SpelledNatural bound
  get_set := fun spelled record => get_set spelled.1 record
  reads := reads_natural bound

/-- A field that holds a string. -/
def RecordField.text {α : Type} (name : String) (get : α → String) (set : α → String → α)
    (get_set : ∀ record string, get (set record string) = string) : RecordField α where
  name := name
  get := get
  set := set
  read := Json.text
  Spells := SpelledText
  get_set := fun _ record => get_set record _
  reads := reads_text

/-- A field that holds a string or nothing. -/
def RecordField.optional {α : Type} (name : String) (get : α → Option String)
    (set : α → Option String → α) (get_set : ∀ record value, get (set record value) = value) :
    RecordField α where
  name := name
  get := get
  set := set
  read := optionalText
  Spells := SpelledOption
  get_set := fun _ record => get_set record _
  reads := reads_optionalText

/-- How a field is read into a record. -/
def RecordField.entry {α : Type} (field : RecordField α) : String × (α → Reader α) :=
  (field.name, fun record text => do
    let (value, rest) ← field.read text
    return (field.set record value, rest))

/-- A field is read from a value that spells something, and set to it. -/
theorem RecordField.entry_eq_ok_iff {α : Type} (field : RecordField α)
    {gap text rest behind : List Char} {start record : α} (blanks : Blanks gap)
    (well : IsValue text) (ends : Ends rest) :
    field.entry.2 start (gap ++ (text ++ rest)) = .ok (record, behind) ↔
      ∃ value, field.Spells value text ∧ record = field.set start value ∧ behind = rest := by
  -- Reading a field is reading its value, and setting it is no step that can fail.
  simp only [RecordField.entry, bind_eq_ok_iff, Prod.exists, field.reads.exact blanks well ends]
  constructor
  · rintro ⟨value, _, ⟨spelled, rfl⟩, same⟩
    obtain ⟨rfl, rfl⟩ := Prod.mk.inj (Except.ok.inj same)
    exact ⟨value, spelled, rfl, rfl⟩
  · rintro ⟨value, spelled, rfl, rfl⟩
    exact ⟨value, _, ⟨spelled, rfl⟩, rfl⟩

/-- The fields of a record. They have names of their own, do not touch each other, and make up the
whole record. -/
structure Layout (α : Type) where
  fields : List (RecordField α)
  complete : Bool
  exclusive : Bool
  distinct : (fields.map RecordField.name).Nodup
  apart : ∀ field ∈ fields, ∀ other ∈ fields, other.name ≠ field.name → ∀ record value,
    other.get (field.set record value) = other.get record
  ext : ∀ record other, (∀ field ∈ fields, field.get record = field.get other) → record = other

namespace Layout

variable {α : Type} (layout : Layout α)

/-- How a record with these fields is read. -/
def form : RecordForm α where
  fields := layout.fields.map RecordField.entry
  complete := layout.complete
  exclusive := layout.exclusive

/-- The names of all fields. -/
def names : List String := layout.fields.map RecordField.name

/-- The fields that members name, in order. -/
def named (members : List (String × List Char)) : List String :=
  (members.map Prod.fst).filter (· ∈ layout.names)

/-- Members that make one record out of another: what they give is spelled in them, and what they
leave out is as it was. -/
structure Fills (members : List (String × List Char)) (start record : α) : Prop where
  known : layout.exclusive = true → ∀ member ∈ members, member.1 ∈ layout.names
  given : ∀ field ∈ layout.fields, ∀ text, (field.name, text) ∈ members →
    field.Spells (field.get record) text
  left : ∀ field ∈ layout.fields, field.name ∉ members.map Prod.fst →
    field.get record = field.get start

variable {layout}

/-- A field is known by its name. -/
theorem eq_of_name {field other : RecordField α} (member : field ∈ layout.fields)
    (another : other ∈ layout.fields) (same : field.name = other.name) : field = other :=
  List.inj_on_of_nodup_map layout.distinct member another same

/-- A name is looked up among the fields. -/
theorem lookup_cases (layout : Layout α) (name : String) :
    (name ∉ layout.names ∧ layout.form.fields.lookup name = none) ∨
      ∃ field ∈ layout.fields, field.name = name ∧
        layout.form.fields.lookup name = some field.entry.2 := by
  -- The first field of the name is found, if there is one.
  unfold names form
  generalize layout.fields = fields
  induction fields with
  | nil => exact .inl ⟨List.not_mem_nil, rfl⟩
  | cons field fields ih =>
    by_cases same : name = field.name
    -- Names are compared from the first field on.
    · subst same
      exact .inr ⟨field, List.mem_cons_self .., rfl, by simp [RecordField.entry]⟩
    · have later : (List.map RecordField.entry (field :: fields)).lookup name =
          (List.map RecordField.entry fields).lookup name := by
        rw [List.map_cons, RecordField.entry, List.lookup_cons, beq_false_of_ne same]
      rw [later]
      obtain ⟨unknown, nothing⟩ | ⟨other, member, found⟩ := ih
      · refine .inl ⟨?_, nothing⟩
        rw [List.map_cons, List.mem_cons]
        exact not_or.mpr ⟨same, unknown⟩
      · exact .inr ⟨other, List.mem_cons_of_mem _ member, found⟩

/-- Nothing more is given, so the record is as it was. -/
theorem fills_nil_iff {start record : α} : layout.Fills [] start record ↔ record = start := by
  -- Every field is left as it was, and a record is known by its fields.
  constructor
  · intro fills
    exact layout.ext record start fun field member => fills.left field member List.not_mem_nil
  · rintro rfl
    exact ⟨fun _ => by simp, fun _ _ _ => by simp, fun _ _ _ => rfl⟩

/-- A member that is no field is passed over, unless it is refused. -/
theorem fills_cons_unknown {name : String} {text : List Char} {members : List (String × List Char)}
    {start record : α} (unknown : name ∉ layout.names) :
    layout.Fills ((name, text) :: members) start record ↔
      layout.exclusive = false ∧ layout.Fills members start record := by
  have other {field : RecordField α} (member : field ∈ layout.fields) : field.name ≠ name := by
    rintro rfl
    exact unknown (List.mem_map_of_mem member)
  constructor
  · -- A form that refuses other names would not know this one.
    rintro ⟨known, given, left⟩
    refine ⟨?_, ⟨?_, ?_, ?_⟩⟩
    · by_contra exclusive
      exact unknown (known (by simpa using exclusive) (name, text) (List.mem_cons_self ..))
    · exact fun exclusive member mem => known exclusive member (List.mem_cons_of_mem _ mem)
    · exact fun field member value mem => given field member value (List.mem_cons_of_mem _ mem)
    · refine fun field member absent => left field member ?_
      rw [List.map_cons, List.mem_cons]
      exact not_or.mpr ⟨other member, absent⟩
  -- The name is none of a field, so no field is given a value by it.
  · rintro ⟨lenient, known, given, left⟩
    refine ⟨fun exclusive => ?_, fun field member value mem => ?_, fun field member absent => ?_⟩
    · rw [lenient] at exclusive
      cases exclusive
    · obtain same | mem := List.mem_cons.mp mem
      · exact absurd (Prod.mk.inj same).1 (other member)
      · exact given field member value mem
    · refine left field member fun mem => absent ?_
      rw [List.map_cons]
      -- The field is given by a later member if it is given at all.
      exact List.mem_cons_of_mem _ mem

/-- A member that is a field of its own is set to what it spells. -/
theorem fills_cons_field {field : RecordField α} {text : List Char}
    {members : List (String × List Char)} {start record : α} (mem : field ∈ layout.fields)
    (once : field.name ∉ members.map Prod.fst) :
    layout.Fills ((field.name, text) :: members) start record ↔
      ∃ value, field.Spells value text ∧ layout.Fills members (field.set start value) record := by
  constructor
  · -- The value is the one that stands in the record in the end, as no later member sets it.
    rintro ⟨known, given, left⟩
    have spelled := given field mem text (List.mem_cons_self ..)
    refine ⟨field.get record, spelled, ?_, ?_, ?_⟩
    · exact fun exclusive member mem => known exclusive member (List.mem_cons_of_mem _ mem)
    · exact fun field member value mem => given field member value (List.mem_cons_of_mem _ mem)
    · intro other member absent
      by_cases same : other.name = field.name
      · obtain rfl := eq_of_name member mem same
        rw [other.get_set spelled]
      · rw [layout.apart field mem other member same]
        refine left other member ?_
        rw [List.map_cons, List.mem_cons]
        exact not_or.mpr ⟨same, absent⟩
  -- The field is set to its value before the others are read, and none of them sets it again.
  · rintro ⟨value, spelled, known, given, left⟩
    have own : field.get record = value := by
      rw [left field mem once, field.get_set spelled]
    refine ⟨?_, ?_, ?_⟩
    · intro exclusive
      rw [List.forall_mem_cons]
      exact ⟨List.mem_map_of_mem mem, known exclusive⟩
    · -- A field of the same name is the same field.
      intro other member spelling found
      obtain same | found := List.mem_cons.mp found
      · obtain ⟨name, rfl⟩ := Prod.mk.inj same
        obtain rfl := eq_of_name member mem name
        rw [own]
        exact spelled
      · exact given other member spelling found
    · -- A field that is left out is not touched when this one is set.
      intro other member absent
      rw [List.map_cons, List.mem_cons] at absent
      obtain ⟨different, absent⟩ := not_or.mp absent
      rw [left other member absent, layout.apart field mem other member different]

/-- Members that make one record out of another when some names have been given before, and all
names given in the end, none of them twice. -/
structure Takes (layout : Layout α) (members : List (String × List Char))
    (given names : List String) (start record : α) : Prop where
  fills : layout.Fills members start record
  collected : names = (layout.named members).reverse ++ given
  once : names.Nodup

/-- A name is among those of the fields that members give. -/
theorem mem_named_iff {members : List (String × List Char)} {name : String} :
    name ∈ layout.named members ↔ name ∈ members.map Prod.fst ∧ name ∈ layout.names := by
  -- The names are those of the members, filtered by whether a field has them.
  simp [named]

/-- Without members, nothing changes. -/
theorem takes_nil_iff {given names : List String} {start record : α} (distinct : given.Nodup) :
    layout.Takes [] given names start record ↔ record = start ∧ names = given := by
  -- Nothing is collected, so the names are those that were given before.
  constructor
  · rintro ⟨fills, collected, -⟩
    exact ⟨fills_nil_iff.mp fills, collected⟩
  · rintro ⟨same, rfl⟩
    exact ⟨fills_nil_iff.mpr same, rfl, distinct⟩

/-- The first member is passed over, or sets a field that has not been given yet. -/
theorem takes_cons_iff {name : String} {text : List Char} {members : List (String × List Char)}
    {given names : List String} {start record : α} :
    layout.Takes ((name, text) :: members) given names start record ↔
      (name ∉ layout.names ∧ layout.exclusive = false ∧
        layout.Takes members given names start record) ∨
      ∃ field ∈ layout.fields, field.name = name ∧ name ∉ given ∧
        ∃ value, field.Spells value text ∧
          layout.Takes members (name :: given) names (field.set start value) record := by
  -- The name of the first member is that of a field, or it is unknown.
  by_cases member : name ∈ layout.names
  · obtain ⟨field, mem, rfl⟩ := List.mem_map.mp member
    have next : (layout.named ((field.name, text) :: members)).reverse ++ given =
        (layout.named members).reverse ++ field.name :: given := by
      simp [named, member]
    -- The name is neither among those given before nor among those of later members.
    have absent (collected : names = (layout.named members).reverse ++ field.name :: given)
        (once : names.Nodup) : field.name ∉ given ∧ field.name ∉ members.map Prod.fst := by
      rw [collected, List.nodup_append'] at once
      obtain ⟨-, behind, apart⟩ := once
      refine ⟨(List.nodup_cons.mp behind).1, fun later => ?_⟩
      exact apart (List.mem_reverse.mpr (mem_named_iff.mpr ⟨later, member⟩)) (List.mem_cons_self ..)
    constructor
    · rintro ⟨fills, collected, once⟩
      rw [next] at collected
      obtain ⟨before, later⟩ := absent collected once
      obtain ⟨value, spelled, fills⟩ := (fills_cons_field mem later).mp fills
      -- The field has been given for the first time, and later members do not give it again.
      exact .inr ⟨field, mem, rfl, before, value, spelled, fills, collected, once⟩
    · rintro (⟨unknown, -⟩ | ⟨other, another, same, -, value, spelled, fills, collected, once⟩)
      · exact absurd member unknown
      · obtain rfl := eq_of_name another mem same
        have later := (absent collected once).2
        exact ⟨(fills_cons_field mem later).mpr ⟨value, spelled, fills⟩, next ▸ collected, once⟩
  -- An unknown name is not collected.
  · have next : layout.named ((name, text) :: members) = layout.named members := by
      simp [named, member]
    constructor
    · rintro ⟨fills, collected, once⟩
      obtain ⟨lenient, fills⟩ := (fills_cons_unknown member).mp fills
      exact .inl ⟨member, lenient, fills, next ▸ collected, once⟩
    · rintro (⟨-, lenient, fills, collected, once⟩ | ⟨field, mem, rfl, -⟩)
      · exact ⟨(fills_cons_unknown member).mpr ⟨lenient, fills⟩, next.symm ▸ collected, once⟩
      · exact absurd (List.mem_map_of_mem mem) member

/-! ## Reading -/

/-- Reading a member passes over it, or sets a field that has not been given yet. -/
theorem members_member {room : Nat} {first : Bool} {given : List String} {start : α}
    {name : String} {input between after text rest : List Char}
    {result : (List String × α) × List Char}
    (found : nextKey first input = .ok (some name, between ++ ':' :: (after ++ (text ++ rest))))
    (second : Blanks between) (third : Blanks after) (well : IsValue text) (ends : Ends rest) :
    layout.form.members (room + 1) first given start input = .ok result ↔
      (name ∉ layout.names ∧ layout.exclusive = false ∧
        layout.form.members room false given start rest = .ok result) ∨
      ∃ field ∈ layout.fields, field.name = name ∧ name ∉ given ∧
        ∃ value, field.Spells value text ∧
          layout.form.members room false (name :: given) (field.set start value) rest =
            .ok result := by
  -- The colon stands behind the name, and a value behind the colon.
  have colon : mark ':' (between ++ ':' :: (after ++ (text ++ rest))) =
      .ok (after ++ (text ++ rest)) := mark_append second (by decide) _
  have passed := Skip.value_append well third ends
  rw [RecordForm.members, found]
  obtain ⟨unknown, looked⟩ | ⟨field, mem, rfl, looked⟩ := layout.lookup_cases name
  · -- Only a form that is open to other names passes over the value.
    have own : ¬ ∃ field ∈ layout.fields, field.name = name ∧ name ∉ given ∧
        ∃ value, field.Spells value text ∧
          layout.form.members room false (name :: given) (field.set start value) rest =
            .ok result := by
      -- No field has this name, so the value is not read for one.
      rintro ⟨field, mem, rfl, -⟩
      exact unknown (List.mem_map_of_mem mem)
    simp only [looked, bind, Except.bind, colon, passed, or_iff_left own]
    cases lenient : layout.exclusive with
    | true => simp [form, lenient, throw, throwThe, MonadExceptOf.throw]
    | false => simp [form, lenient, unknown]
  -- The name is that of a field, and the field must not have been given before.
  · have known : field.name ∈ layout.names := List.mem_map_of_mem mem
    simp only [looked, bind, Except.bind, colon, List.contains_iff_mem]
    constructor
    · intro read
      split at read
      · cases read
      · rename_i later
        split at read
        · cases read
        · rename_i pair taken
          obtain ⟨value, spelled, record, left⟩ := (field.entry_eq_ok_iff third well ends).mp taken
          rw [record, left] at read
          exact .inr ⟨field, mem, rfl, later, value, spelled, read⟩
    -- The one field of this name is the one that was found.
    · rintro (⟨unknown, -⟩ | ⟨other, another, same, later, value, spelled, read⟩)
      · exact absurd known unknown
      · obtain rfl := eq_of_name another mem same
        have taken : other.entry.2 start (after ++ (text ++ rest)) =
            .ok (other.set start value, rest) :=
          (other.entry_eq_ok_iff third well ends).mpr ⟨value, spelled, rfl, rfl⟩
        rw [if_neg later, taken]
        exact read

/-- Reading a member and then the others takes them all, if reading the others takes those. -/
theorem members_cons_iff {room : Nat} {first : Bool} {given names : List String}
    {start record : α} {member : String × List Char} {members : List (String × List Char)}
    {input between after rest behind last : List Char}
    (found : nextKey first input =
      .ok (some member.1, between ++ ':' :: (after ++ (member.2 ++ rest))))
    (second : Blanks between) (third : Blanks after) (well : IsValue member.2) (ends : Ends rest)
    (distinct : given.Nodup)
    (others : ∀ {given start}, given.Nodup →
      (layout.form.members room false given start rest = .ok ((names, record), behind) ↔
        layout.Takes members given names start record ∧ behind = last)) :
    layout.form.members (room + 1) first given start input = .ok ((names, record), behind) ↔
      layout.Takes (member :: members) given names start record ∧ behind = last := by
  -- One member is read by its own rule, and all others by the rule for what is left.
  rw [members_member found second third well ends, takes_cons_iff]
  constructor
  · rintro (⟨unknown, lenient, read⟩ | ⟨field, mem, same, later, value, spelled, read⟩)
    · obtain ⟨takes, ended⟩ := (others distinct).mp read
      exact ⟨.inl ⟨unknown, lenient, takes⟩, ended⟩
    · obtain ⟨takes, ended⟩ := (others (List.nodup_cons.mpr ⟨later, distinct⟩)).mp read
      exact ⟨.inr ⟨field, mem, same, later, value, spelled, takes⟩, ended⟩
  -- The same two ways, taken back to the reading.
  · rintro ⟨⟨unknown, lenient, takes⟩ | ⟨field, mem, same, later, value, spelled, takes⟩, ended⟩
    · exact .inl ⟨unknown, lenient, (others distinct).mpr ⟨takes, ended⟩⟩
    · have read := (others (List.nodup_cons.mpr ⟨later, distinct⟩)).mpr ⟨takes, ended⟩
      exact .inr ⟨field, mem, same, later, value, spelled, read⟩

/-- Reading what is left of an object takes its members, up to the end of the object. -/
theorem members_iff {opened : Bool} {members : List (String × List Char)} {text : List Char}
    (left : Items Named '\x7d' opened members text) (all : ∀ member ∈ members, IsValue member.2)
    {room : Nat} (enough : members.length < room) {given : List String} {start : α}
    (distinct : given.Nodup) {record : α} {names : List String} {rest behind : List Char} :
    layout.form.members room opened given start (text ++ rest) = .ok ((names, record), behind) ↔
      layout.Takes members given names start record ∧ behind = rest := by
  -- Each member takes one turn, and the end of the object takes the last.
  induction left generalizing room given start with
  | @closed opened gap blanks =>
    obtain ⟨room, rfl⟩ := Nat.exists_eq_add_one.mpr (show 0 < room by omega)
    -- The object ends, with the names and the record that are there by now.
    have ended : layout.form.members (room + 1) opened given start (gap ++ '\x7d' :: rest) =
        .ok ((given, start), rest) := by
      rw [RecordForm.members, nextKey_closing blanks]
      rfl
    rw [List.append_assoc, List.singleton_append, ended, takes_nil_iff distinct]
    simp only [Except.ok.injEq, Prod.mk.injEq, eq_comm, and_comm]
  | @first member members piece text head tail ih =>
    rw [List.length_cons] at enough
    obtain ⟨room, rfl⟩ := Nat.exists_eq_add_one.mpr (show 0 < room by omega)
    have fewer : members.length < room := by omega
    obtain ⟨well, others⟩ := List.forall_mem_cons.mp all
    -- The first member has no comma in front of it.
    obtain ⟨before, key, between, after, front, spelled, second, third, rfl⟩ := head
    have found := nextKey_first front spelled
      (between ++ ':' :: (after ++ (member.2 ++ (text ++ rest))))
    simp only [List.append_assoc, List.cons_append]
    exact members_cons_iff found second third well (tail.ends (.inr rfl) rest) distinct
      (ih others fewer)
  | @next member members gap piece text blanks head tail ih =>
    rw [List.length_cons] at enough
    obtain ⟨room, rfl⟩ := Nat.exists_eq_add_one.mpr (show 0 < room by omega)
    have fewer : members.length < room := by omega
    obtain ⟨well, others⟩ := List.forall_mem_cons.mp all
    -- A further member stands behind its comma.
    obtain ⟨before, key, between, after, front, spelled, second, third, rfl⟩ := head
    have found := nextKey_next blanks front spelled
      (between ++ ':' :: (after ++ (member.2 ++ (text ++ rest))))
    simp only [List.append_assoc, List.cons_append]
    exact members_cons_iff found second third well (tail.ends (.inr rfl) rest) distinct
      (ih others fewer)

/-- Members that a whole record is read from, over what stands in it at the start. -/
structure Makes (layout : Layout α) (members : List (String × List Char)) (start record : α) :
    Prop where
  fills : layout.Fills members start record
  once : (layout.named members).Nodup
  whole : layout.complete = true → ∀ name ∈ layout.names, name ∈ members.map Prod.fst

/-- Nothing given before, the names given in the end are those the members name. -/
theorem makes_iff {members : List (String × List Char)} {start record : α} :
    layout.Makes members start record ↔
      ∃ names, layout.Takes members [] names start record ∧
        (layout.complete = true → ∀ name ∈ layout.names, name ∈ names) := by
  -- The names are collected in the order they come, the last one first.
  constructor
  · rintro ⟨fills, once, whole⟩
    refine ⟨(layout.named members).reverse, ⟨fills, by simp, by simpa using once⟩, ?_⟩
    intro complete name member
    exact List.mem_reverse.mpr (mem_named_iff.mpr ⟨whole complete name member, member⟩)
  · rintro ⟨names, ⟨fills, rfl, once⟩, whole⟩
    refine ⟨fills, by simpa using once, fun complete name member => ?_⟩
    have named := whole complete name member
    rw [List.append_nil, List.mem_reverse] at named
    exact (mem_named_iff.mp named).1

/-- Nothing is missing if all fields are among the names given. -/
theorem all_given_iff {names : List String} :
    layout.form.fields.all (names.contains ·.1) = true ↔ ∀ name ∈ layout.names, name ∈ names := by
  -- A field is given if its name is, and the form has the names of the layout.
  simp [form, Layout.names, RecordField.entry]

/-- Reading an object reads its members, and then looks whether one is missing. -/
theorem read_eq_ok_iff {before rest behind : List Char} (blanks : Blanks before)
    {start record : α} :
    layout.form.read start (before ++ '\x7b' :: rest) = .ok (record, behind) ↔
      ∃ names, layout.form.members rest.length true [] start rest =
          .ok ((names, record), behind) ∧
        (layout.complete = true → ∀ name ∈ layout.names, name ∈ names) := by
  rw [RecordForm.read, skipBlanks_append_cons blanks (by decide)]
  -- What is missing is looked for when all members have been read.
  constructor
  · intro read
    -- The members were read, so only the missing fields can still stop the reading.
    obtain ⟨⟨⟨names, found⟩, left⟩, members, read⟩ := bind_eq_ok_iff.mp read
    simp only [all_given_iff] at read
    split at read
    · cases read
    · rename_i missing
      obtain ⟨rfl, rfl⟩ := Prod.mk.inj (Except.ok.inj read)
      refine ⟨names, members, fun complete => ?_⟩
      by_contra absent
      exact missing ⟨complete, absent⟩
  · rintro ⟨names, members, whole⟩
    refine bind_eq_ok_iff.mpr ⟨((names, record), behind), members, ?_⟩
    -- Every field is given, so none is missing.
    have missing : ¬ (layout.form.complete = true ∧ ¬ ∀ name ∈ layout.names, name ∈ names) :=
      fun ⟨complete, absent⟩ => absent (whole complete)
    simp only [all_given_iff]
    rw [if_neg missing]
    rfl

/-- An object is read as a record exactly when its members make one. -/
theorem complete_eq_ok_iff {members : List (String × List Char)} {text : String}
    (object : IsObject members text.toList) {start record : α} :
    Json.complete (layout.form.read start) text = .ok record ↔
      layout.Makes members start record := by
  -- There is room for all members, and nothing but blanks behind the object.
  generalize whole : text.toList = characters at object
  obtain @⟨before, inner, after, first, items, all, last⟩ := object
  -- Each member takes a character at least, so the room is not used up.
  have room : members.length < (inner ++ after).length := by
    have few := items.length_lt (by rintro item _ ⟨_, _, _, _, -, -, -, -, rfl⟩; simp)
    rw [List.length_append]
    omega
  -- The blanks behind the object are passed over, and then nothing is left.
  have ended : (skipBlanks after).isEmpty = true := by
    have left := skipBlanks_append last []
    rw [List.append_nil] at left
    rw [left]
    rfl
  have read (behind : List Char) :
      layout.form.read start (before ++ '\x7b' :: (inner ++ after)) = .ok (record, behind) ↔
        ∃ names, (layout.Takes members [] names start record ∧ behind = after) ∧
          (layout.complete = true → ∀ name ∈ layout.names, name ∈ names) := by
    simp only [read_eq_ok_iff first, members_iff items all room List.nodup_nil]
  rw [makes_iff, Json.complete, whole]
  constructor
  -- Reading succeeded, with nothing but blanks behind.
  · intro found
    obtain ⟨⟨value, behind⟩, taken, found⟩ := bind_eq_ok_iff.mp found
    simp only at found
    split at found
    · obtain rfl := Except.ok.inj found
      obtain ⟨names, ⟨takes, -⟩, complete⟩ := (read behind).mp taken
      exact ⟨names, takes, complete⟩
    · cases found
  · rintro ⟨names, takes, complete⟩
    have taken := (read after).mpr ⟨names, ⟨takes, rfl⟩, complete⟩
    refine bind_eq_ok_iff.mpr ⟨(record, after), taken, ?_⟩
    simp only [ended, ↓reduceIte]
    rfl

end Layout

end CallGate.Json
