import CallGate.Settings

/-! Settings given by themselves overrule those of a file, and of everything that keeps a server
from starting with what they come to, the first thing is reported. -/

namespace CallGate

/-- A setting is replaced where one is given by itself, and kept where none is. -/
structure Overruled {α : Type} (base : α) (given : Option α) (result : α) : Prop where
  replaced (value : α) (present : given = some value) : result = value
  kept (absent : given = none) : result = base

/-- Whether a setting is given or not, there is one value left for it. -/
theorem overruled_iff {α : Type} {base : α} {given : Option α} {result : α} :
    Overruled base given result ↔ result = given.getD base := by
  -- A setting that is not given is kept, and one that is given is replaced.
  cases given with
  | none => exact ⟨fun overruled => overruled.kept rfl, fun same => ⟨nofun, fun _ => same⟩⟩
  | some value => exact ⟨fun overruled => overruled.replaced value rfl,
      fun same => ⟨fun _ present => same.trans (Option.some.inj present), nofun⟩⟩

/-- A path that may be missing is still there when another one was to replace it. -/
theorem overruled_path_iff {base given result : Option String} :
    Overruled base (given.map some) result ↔ result = given.or base := by
  -- A path is never taken away, as none can be given as missing.
  rw [overruled_iff]
  cases given <;> rfl

/-- What is given by either of two, the later one where both give the same setting. -/
def Overrides.over (later earlier : Overrides) : Overrides where
  host := later.host.or earlier.host
  port := later.port.or earlier.port
  maxClients := later.maxClients.or earlier.maxClients
  publicKey := later.publicKey.or earlier.publicKey
  privateKey := later.privateKey.or earlier.privateKey
  descriptor := later.descriptor.or earlier.descriptor
  file := later.file.or earlier.file
  pollMilliseconds := later.pollMilliseconds.or earlier.pollMilliseconds
  idleSeconds := later.idleSeconds.or earlier.idleSeconds

namespace Settings

/-- Each of the eight settings is overruled by its own namesake and by nothing else. -/
structure Overlaid (base : Settings) (given : Overrides) (result : Settings) : Prop where
  host : Overruled base.host given.host result.host
  port : Overruled base.port given.port result.port
  maxClients : Overruled base.maxClients given.maxClients result.maxClients
  publicKey : Overruled base.publicKey (given.publicKey.map some) result.publicKey
  privateKey : Overruled base.privateKey (given.privateKey.map some) result.privateKey
  descriptor : Overruled base.descriptor (given.descriptor.map some) result.descriptor
  pollMilliseconds :
    Overruled base.pollMilliseconds given.pollMilliseconds result.pollMilliseconds
  idleSeconds : Overruled base.idleSeconds given.idleSeconds result.idleSeconds

/-- Overlaying is the one way to overrule every setting by its namesake. -/
theorem overlaid_iff {base : Settings} {given : Overrides} {result : Settings} :
    Overlaid base given result ↔ result = base.overlay given := by
  -- Each of the eight settings is overruled in one way.
  constructor
  · rintro ⟨host, port, maxClients, publicKey, privateKey, descriptor, poll, idle⟩
    rw [overruled_iff] at host port maxClients poll idle
    rw [overruled_path_iff] at publicKey privateKey descriptor
    -- Settings are the same if all eight of them are.
    cases result
    simp only [Settings.mk.injEq, overlay]
    exact ⟨host, port, maxClients, publicKey, privateKey, descriptor, poll, idle⟩
  · rintro rfl
    constructor
    all_goals first | exact overruled_iff.mpr rfl | exact overruled_path_iff.mpr rfl

/-- Overlaying twice is overlaying once with what both times gave. -/
theorem overlay_overlay (base : Settings) (earlier later : Overrides) :
    (base.overlay earlier).overlay later = base.overlay (later.over earlier) := by
  -- For each setting the later value counts first, then the earlier, then the base.
  simp [overlay, Overrides.over, Option.or_assoc, Option.getD_or]

/-- What is given over itself is what was given. -/
theorem over_self (given : Overrides) : given.over given = given := by
  -- A value that is there is kept, and one that is missing is still missing.
  simp [Overrides.over]

/-- What keeps settings from being used, first to last, each thing judged without the others. -/
def faults (settings : Settings) : List SettingsError :=
  [(settings.publicKey.isNone, .missing "pubkey"),
    (settings.privateKey.isNone, .missing "privkey"),
    (settings.descriptor.isNone, .missing "tether"),
    (settings.maxClients == 0, .invalid "max_clients" "must be at least 1"),
    (settings.idleSeconds == 0, .invalid "idle_timeout_secs" "must be at least 1")].filterMap
  fun (wrong, fault) => if wrong then some fault else none

/-- A plan holds what the settings say, setting by setting. -/
structure Planned (settings : Settings) (plan : LaunchPlan) : Prop where
  bindAddress : plan.bindAddress = Settings.bindAddress settings.host settings.port
  maxClients : plan.maxClients = settings.maxClients
  publicKey : settings.publicKey = some plan.publicKey
  privateKey : settings.privateKey = some plan.privateKey
  descriptor : settings.descriptor = some plan.descriptor
  pollInterval : plan.pollInterval = .ofMilliseconds settings.pollMilliseconds
  idleTimeout : plan.idleTimeout = .ofSeconds settings.idleSeconds

/-- The first fault is reported, and without one there is a plan of the settings. -/
theorem validate_cases (settings : Settings) :
    (∃ fault later, settings.faults = fault :: later ∧ settings.validate = .error fault) ∨
      ∃ plan, settings.faults = [] ∧ settings.validate = .ok plan ∧ settings.Planned plan := by
  obtain ⟨host, port, maxClients, publicKey, privateKey, descriptor, poll, idle⟩ := settings
  -- The three paths are asked for first, and a missing one hides everything behind it.
  cases publicKey with
  | none => exact .inl ⟨_, _, rfl, rfl⟩
  | some publicKey =>
  cases privateKey with
  | none => exact .inl ⟨_, _, rfl, rfl⟩
  | some privateKey =>
  cases descriptor with
  | none => exact .inl ⟨_, _, rfl, rfl⟩
  | some descriptor =>
    by_cases nobody : maxClients = 0
    · subst nobody
      exact .inl ⟨_, _, rfl, rfl⟩
    · by_cases never : idle = 0
      · subst never
        refine .inl ⟨.invalid "idle_timeout_secs" "must be at least 1", [], ?_, ?_⟩
        · simp [faults, nobody]
        · simp [validate, require, requirePositive, nobody, bind, Except.bind]
      · -- Nothing is missing or zero.
        refine .inr ⟨⟨Settings.bindAddress host port, maxClients, publicKey, privateKey, descriptor,
          .ofMilliseconds poll, .ofSeconds idle⟩, ?_, ?_, ⟨rfl, rfl, rfl, rfl, rfl, rfl, rfl⟩⟩
        · simp [faults, nobody, never]
        · simp [validate, require, requirePositive, nobody, never, bind, Except.bind, pure,
            Except.pure]

/-- What is reported of settings is the first of their faults. -/
theorem validate_eq_error_iff (settings : Settings) (error : SettingsError) :
    settings.validate = .error error ↔ settings.faults.head? = some error := by
  -- A fault is found and refused, or there is none and the settings are accepted.
  rcases settings.validate_cases with ⟨fault, later, found, refused⟩ | ⟨plan, none, accepted, _⟩
  · rw [found, refused, List.head?_cons, Except.error.injEq, Option.some.injEq]
  · rw [none, accepted]
    exact ⟨nofun, nofun⟩

/-- Settings are without fault exactly if all paths are there and neither number is zero. -/
theorem faults_eq_nil_iff (settings : Settings) :
    settings.faults = [] ↔ settings.publicKey.isSome ∧ settings.privateKey.isSome ∧
      settings.descriptor.isSome ∧ settings.maxClients ≠ 0 ∧ settings.idleSeconds ≠ 0 := by
  -- Each of the five faults is listed just when its setting is missing or zero.
  simp [faults, Option.isSome_iff_ne_none]

/-- There is a plan of settings exactly if they are without fault. -/
theorem exists_validate_iff (settings : Settings) :
    (∃ plan, settings.validate = .ok plan) ↔ settings.faults = [] := by
  -- The list is empty or it has a first fault, which is the one that is reported.
  rcases settings.validate_cases with ⟨fault, later, found, refused⟩ | ⟨plan, none, accepted, _⟩
  · rw [found, refused]
    exact ⟨nofun, nofun⟩
  · exact ⟨fun _ => none, fun _ => ⟨plan, accepted⟩⟩

/-- A plan holds what its settings say. -/
theorem planned_of_validate {settings : Settings} {plan : LaunchPlan}
    (valid : settings.validate = .ok plan) : settings.Planned plan := by
  -- Only settings without fault are accepted, and their plan is the one there is.
  rcases settings.validate_cases with ⟨fault, later, found, refused⟩ | ⟨made, _, accepted, planned⟩
  · cases valid.symm.trans refused
  · cases valid.symm.trans accepted
    exact planned

/-- Settings amount to a plan exactly if nothing needed is missing or zero. -/
theorem validate_eq_ok_iff (settings : Settings) (plan : LaunchPlan) :
    settings.validate = .ok plan ↔ settings.maxClients ≠ 0 ∧ settings.idleSeconds ≠ 0 ∧
      ∃ publicKey privateKey descriptor, settings.publicKey = some publicKey ∧
        settings.privateKey = some privateKey ∧ settings.descriptor = some descriptor ∧
        plan = {
          bindAddress := bindAddress settings.host settings.port
          maxClients := settings.maxClients
          publicKey, privateKey, descriptor
          pollInterval := .ofMilliseconds settings.pollMilliseconds
          idleTimeout := .ofSeconds settings.idleSeconds } := by
  constructor
  -- Accepted settings have no fault, and the plan holds what they say.
  · intro valid
    obtain ⟨_, _, _, nobody, never⟩ :=
      settings.faults_eq_nil_iff.mp (settings.exists_validate_iff.mp ⟨plan, valid⟩)
    obtain ⟨address, clients, publicKey, privateKey, descriptor, poll, idle⟩ :=
      planned_of_validate valid
    refine ⟨nobody, never, _, _, _, publicKey, privateKey, descriptor, ?_⟩
    rw [← address, ← clients, ← poll, ← idle]
  · rintro ⟨nobody, never, publicKey, privateKey, descriptor, hasPublic, hasPrivate, described, rfl⟩
    obtain ⟨made, valid⟩ := settings.exists_validate_iff.mpr (settings.faults_eq_nil_iff.mpr
      ⟨by simp [hasPublic], by simp [hasPrivate], by simp [described], nobody, never⟩)
    -- The plan there is holds the same as the one asked for.
    obtain ⟨address, clients, samePublic, samePrivate, sameDescriptor, poll, idle⟩ :=
      planned_of_validate valid
    rw [valid, Except.ok.injEq]
    cases made
    simp_all

/-- Why the file at a path gives no settings: it cannot be read, holds no text, or not this text. -/
inductive Unusable (read : ReadFile) (path : String) : SettingsError → Prop
  | unreadable (cause : IoError) (failed : read path = .error cause) :
    Unusable read path (.unreadable path cause)
  | noText (bytes : Bytes) (held : read path = .ok bytes)
    (foreign : String.fromUTF8? ⟨bytes.toArray⟩ = none) :
    Unusable read path (.unreadable path .invalidText)
  | unparsable (bytes : Bytes) (text : String) (fault : Json.Fault) (held : read path = .ok bytes)
    (spelled : String.fromUTF8? ⟨bytes.toArray⟩ = some text)
    (refused : ofJson text = .error fault) : Unusable read path (.unparsable fault)

/-- The file at a path holds settings. -/
def Holds (read : ReadFile) (path : String) (settings : Settings) : Prop :=
  ∃ bytes text, read path = .ok bytes ∧ String.fromUTF8? ⟨bytes.toArray⟩ = some text ∧
    ofJson text = .ok settings

/-- What is loaded from a file is what the file holds. -/
theorem load_eq_ok_iff {read : ReadFile} {path : String} {settings : Settings} :
    load read path = .ok settings ↔ Holds read path settings := by
  -- Reading, decoding and parsing are three steps, and the settings are what the last one yields.
  unfold load ReadFile.text Holds
  cases held : read path with
  | error cause => simp
  | ok bytes =>
    cases spelled : String.fromUTF8? ⟨bytes.toArray⟩ with
    | none => simp [spelled]
    | some text =>
      cases parsed : ofJson text <;> simp [spelled, parsed]

/-- A file that is not loaded is unusable, for the reason that is reported. -/
theorem load_eq_error_iff {read : ReadFile} {path : String} {error : SettingsError} :
    load read path = .error error ↔ Unusable read path error := by
  constructor
  · unfold load ReadFile.text
    intro failed
    -- The file is read, then taken for text, then for settings, and the first failure counts.
    cases held : read path with
    | error cause =>
      simp only [held, Except.error.injEq] at failed
      exact failed ▸ .unreadable cause held
    | ok bytes =>
      cases spelled : String.fromUTF8? ⟨bytes.toArray⟩ with
      | none =>
        simp only [held, spelled, Except.error.injEq] at failed
        exact failed ▸ .noText bytes held spelled
      | some text =>
        cases parsed : ofJson text with
        | error fault =>
          simp only [held, spelled, parsed, Except.error.injEq] at failed
          exact failed ▸ .unparsable bytes text fault held spelled parsed
        | ok settings => simp [held, spelled, parsed] at failed
  -- Each of the reasons is the first thing that fails.
  · rintro (⟨cause, failed⟩ | ⟨bytes, held, foreign⟩ | ⟨bytes, text, fault, held, spelled, refused⟩)
    · simp [load, ReadFile.text, failed]
    · simp [load, ReadFile.text, held, foreign]
    · simp [load, ReadFile.text, held, spelled, refused]

/-- Where the settings come from that others are laid over. -/
inductive Base (read : ReadFile) (given : Overrides) : Settings → Prop
  | defaults (unnamed : given.file = none) : Base read given {}
  | file (path : String) (settings : Settings) (named : given.file = some path)
    (held : Holds read path settings) : Base read given settings

/-- What is gathered is some base with everything else laid over it. -/
theorem gather_eq_ok_iff {read : ReadFile} {given : Overrides} {result : Settings} :
    gather read given = .ok result ↔
      ∃ base, Base read given base ∧ result = base.overlay given := by
  -- The base is the file that is named, or the defaults.
  unfold gather
  constructor
  · intro gathered
    cases named : given.file with
    | none =>
      simp only [named, Except.ok.injEq] at gathered
      exact ⟨{}, .defaults named, gathered.symm⟩
    | some path =>
      cases loaded : load read path with
      | error error => simp [named, loaded] at gathered
      | ok settings =>
        simp only [named, loaded, Except.ok.injEq] at gathered
        exact ⟨settings, .file path settings named (load_eq_ok_iff.mp loaded), gathered.symm⟩
  -- Over either base the same is laid.
  · rintro ⟨base, unnamed | ⟨path, _, named, held⟩, rfl⟩
    · simp [unnamed]
    · simp [named, load_eq_ok_iff.mpr held]

/-- Gathering fails with the file that is named, and with nothing else. -/
theorem gather_eq_error_iff {read : ReadFile} {given : Overrides} {error : SettingsError} :
    gather read given = .error error ↔
      ∃ path, given.file = some path ∧ Unusable read path error := by
  unfold gather
  -- Without a file there is nothing that could fail.
  cases named : given.file with
  | none => simp
  | some path =>
    -- What went wrong with the file is handed on as it is.
    simp only [Option.some.injEq, exists_eq_left', ← load_eq_error_iff]
    cases load read path <;> simp

/-- What settings from a file and settings given by themselves come to together. -/
structure Effective (base : Settings) (given : Overrides) : Prop where
  /-- Every setting is the given one where it is given, and the one of the base otherwise. -/
  overlaid (result : Settings) : base.Overlaid given result ↔ result = base.overlay given
  /-- Laying more over it is the same as having given all of it at once. -/
  again (later : Overrides) :
    (base.overlay given).overlay later = base.overlay (later.over given)
  idempotent : (base.overlay given).overlay given = base.overlay given
  /-- There is a plan exactly if no path is missing from both and neither number is zero. -/
  accepted : (∃ plan, (base.overlay given).validate = .ok plan) ↔
    (given.publicKey.isSome ∨ base.publicKey.isSome) ∧
      (given.privateKey.isSome ∨ base.privateKey.isSome) ∧
      (given.descriptor.isSome ∨ base.descriptor.isSome) ∧
      (base.overlay given).maxClients ≠ 0 ∧ (base.overlay given).idleSeconds ≠ 0
  /-- Of several faults, the first is reported. -/
  refused (error : SettingsError) : (base.overlay given).validate = .error error ↔
    (base.overlay given).faults.head? = some error
  planned (plan : LaunchPlan) (valid : (base.overlay given).validate = .ok plan) :
    (base.overlay given).Planned plan
  /-- The file that is named is the only thing that gathering can fail with. -/
  unread (read : ReadFile) (error : SettingsError) : gather read given = .error error ↔
    ∃ path, given.file = some path ∧ Unusable read path error
  /-- It fails alike whatever else is given. -/
  blind (read : ReadFile) (error : SettingsError) (failed : gather read given = .error error)
    (other : Overrides) (same : other.file = given.file) : gather read other = .error error
  /-- What it comes to is laid over the file, or over the defaults where no file is named. -/
  gathered (read : ReadFile) (result : Settings) : gather read given = .ok result ↔
    ∃ base, Base read given base ∧ result = base.overlay given

/-- Whatever a file says and whatever is given besides, each setting has one value, and what is
wrong with them is told in one order. -/
theorem effective_of_sources (base : Settings) (given : Overrides) : Effective base given where
  overlaid _ := overlaid_iff
  again := overlay_overlay base given
  idempotent := by rw [overlay_overlay, over_self]
  accepted := by
    rw [exists_validate_iff, faults_eq_nil_iff]
    simp only [overlay, Option.isSome_or, Bool.or_eq_true]
  refused := validate_eq_error_iff _
  planned _ := planned_of_validate
  unread _ _ := gather_eq_error_iff
  blind read error failed other same := by
    obtain ⟨path, named, unusable⟩ := gather_eq_error_iff.mp failed
    exact gather_eq_error_iff.mpr ⟨path, same.trans named, unusable⟩
  gathered _ _ := gather_eq_ok_iff

end Settings

end CallGate
