import TransferRelay.Proofs.Address
import TransferRelay.Proofs.Config.Usability

/-!
# What is loaded

The environment is judged one variable after the other: the URL of the node, the address of the
contract, the reads in flight, the time for a call and the port. `Sound` says which texts each of
them may have, and `Reads` which configuration an environment denotes. Loading gives the
configuration that is denoted (`load_eq_ok_iff_reads`). Where there is none, some variable is not
sound, and the message of the fault is about the first that is not (`firstUnsound_of_load`).

The digits of the contract may stand behind any of the marks of `Hex.marks`. The marks are a
parameter of `Sound`, so that fewer of them can be spoken of as well.
-/

namespace TransferRelay.Config

variable {α β : Type} {e : Environment} {v : Variable} {marks : List (List Char)}

/-! ## What texts denote -/

/-- A text has a character that is not blank. -/
def Shown (s : String) : Prop :=
  ∃ c ∈ s.toList, Text.isBlank c = false

/-- A text is an address: its 40 digits in either case behind one of some marks, with blanks
around. -/
def IsAddress (marks : List (List Char)) (s : String) (a : Address) : Prop :=
  Text.Padded
    (fun cs => ∃ mark ∈ marks, ∃ digits, cs = mark ++ digits ∧ Hex.Spells digits a.bytes) s

/-- A text is a number, with blanks around: not less than the least and below the limit. -/
def IsNumber (least limit : Nat) (s : String) (n : Nat) : Prop :=
  Text.Padded (Text.IsUnsigned · n) s ∧ least ≤ n ∧ n < limit

/-- A variable means a value: the one that its text denotes, or the default if it has no text. -/
def Means (denotes : String → α → Prop) (default : α) (text : Option String) (a : α) : Prop :=
  match text with
  | none => a = default
  | some s => denotes s a

/-- The configuration that an environment denotes. -/
structure Reads (e : Environment) (c : Config) : Prop where
  url : e.text? Variable.rpcUrl.name = some c.rpcUrl
  url_shown : Shown c.rpcUrl
  bridge : Means (IsAddress Hex.marks) defaultBridge (e.text? Variable.bridgeAddress.name)
    c.bridgeAddress
  key : ∀ key, c.privateKey = some key ↔
    e.text? Variable.privateKey.name = some key ∧ Shown key
  address : c.bindAddress = (e.text? Variable.bindAddress.name).getD defaultBindAddress
  queries : Means (IsNumber 1 (Nat.pow 2 64)) Deployment.defaultWindow
    (e.text? Variable.maxConcurrentQueries.name) c.maxConcurrentQueries
  timeout : Means (IsNumber 1 (Nat.pow 2 64)) defaultTimeoutMs (e.text? Variable.rpcTimeout.name)
    c.rpcTimeoutMs
  port : Means (IsNumber 0 (Nat.pow 2 16)) defaultPort (e.text? Variable.port.name) c.port

/-! ## What variables may have -/

/-- A variable may have a text. -/
def Admits (marks : List (List Char)) : Variable → String → Prop
  | .rpcUrl, s => Shown s
  | .bridgeAddress, s => ∃ a, IsAddress marks s a
  | .privateKey, _ => True
  | .bindAddress, _ => True
  | .port, s => ∃ n, IsNumber 0 (Nat.pow 2 16) s n
  | .rpcTimeout, s => ∃ n, IsNumber 1 (Nat.pow 2 64) s n
  | .maxConcurrentQueries, s => ∃ n, IsNumber 1 (Nat.pow 2 64) s n

/-- A variable is as it should be. Only the URL has to be set. -/
def Sound (marks : List (List Char)) (e : Environment) (v : Variable) : Prop :=
  match e.text? v.name with
  | none => v ≠ .rpcUrl
  | some s => Admits marks v s

/-- The variables that are judged, in this order. -/
def judged : List Variable :=
  [.rpcUrl, .bridgeAddress, .maxConcurrentQueries, .rpcTimeout, .port]

/-- The first of some variables that is not sound. -/
inductive FirstUnsound (marks : List (List Char)) (e : Environment) :
    List Variable → Variable → Prop
  | here {v : Variable} {vs : List Variable} (unsound : ¬Sound marks e v) :
    FirstUnsound marks e (v :: vs) v
  | later {v w : Variable} {vs : List Variable} (sound : Sound marks e v)
    (rest : FirstUnsound marks e vs w) : FirstUnsound marks e (v :: vs) w

theorem FirstUnsound.unsound {vs : List Variable} (h : FirstUnsound marks e vs v) :
    ¬Sound marks e v := by
  induction h with
  | here unsound => exact unsound
  | later _ _ ih => exact ih

/-- A variable that may be left out is sound exactly if it means something. -/
theorem sound_iff {denotes : String → α → Prop} (default : α) (optional : v ≠ .rpcUrl)
    (admits : ∀ s, Admits marks v s ↔ ∃ a, denotes s a) :
    Sound marks e v ↔ ∃ a, Means denotes default (e.text? v.name) a := by
  rw [Sound]
  cases e.text? v.name with
  | none => exact ⟨fun _ => ⟨default, rfl⟩, fun _ => optional⟩
  | some s => exact admits s

/-! ## The parts of a configuration -/

theorem notBlank?_eq_some_iff {s : String} :
    notBlank? e v = some s ↔ e.text? v.name = some s ∧ Shown s := by
  have hshown : (!Text.isAllBlank s) = true ↔ Shown s := by
    simp [Text.isAllBlank, Shown]
  rw [notBlank?, Option.filter_eq_some_iff, hshown]

/-- What blanks are around in an address is what trimming leaves. -/
theorem isAddress_iff_trimChars {s : String} {a : Address} (known : marks ⊆ Hex.marks) :
    IsAddress marks s a ↔ ∃ mark ∈ marks, ∃ digits,
      Text.trimChars s.toList = mark ++ digits ∧ Hex.Spells digits a.bytes := by
  rw [IsAddress, Text.padded_iff]
  rintro cs ⟨mark, marked, digits, rfl, spelled⟩ c hc
  rcases List.mem_append.mp hc with hc | hc
  · exact Hex.isBlank_of_mem_mark (known marked) c hc
  · exact Hex.isBlank_of_spells spelled c hc

theorem isAddress_iff {s : String} {a : Address} :
    IsAddress Hex.marks s a ↔ Address.parse (Text.trim s) = .ok a := by
  rw [isAddress_iff_trimChars (List.Subset.refl _), Address.parse_eq_ok_iff, Text.trim,
    String.toList_ofList]

theorem isNumber_iff {limit n : Nat} {s : String} (pos : 0 < limit) :
    IsNumber 0 limit s n ↔ Text.readUnsigned limit (Text.trimChars s.toList) = .ok n := by
  rw [IsNumber, Text.padded_iff fun _ => Text.isBlank_of_isUnsigned,
    Text.readUnsigned_eq_ok_iff pos]
  exact and_congr_right fun _ => and_iff_right (Nat.zero_le n)

theorem loadBridge_eq_ok_iff {a : Address} :
    loadBridge e = .ok a ↔
      Means (IsAddress Hex.marks) defaultBridge (e.text? Variable.bridgeAddress.name) a := by
  rw [loadBridge]
  cases e.text? Variable.bridgeAddress.name with
  | none => rw [Means, Except.ok.injEq, eq_comm]
  | some raw =>
    rw [Means, isAddress_iff]
    dsimp only
    generalize Address.parse (Text.trim raw) = read
    cases read with
    | error cause => simp only [reduceCtorEq]
    | ok read => rw [Except.ok.injEq, Except.ok.injEq]

theorem loadNumber_eq_ok_iff {limit default n : Nat} (pos : 0 < limit) :
    loadNumber e v limit default = .ok n ↔
      Means (IsNumber 0 limit) default (e.text? v.name) n := by
  rw [loadNumber]
  cases e.text? v.name with
  | none => rw [Means, Except.ok.injEq, eq_comm]
  | some raw =>
    rw [Means, isNumber_iff pos]
    dsimp only
    generalize Text.readUnsigned limit (Text.trimChars raw.toList) = read
    cases read with
    | error cause => simp only [reduceCtorEq]
    | ok read => rw [Except.ok.injEq, Except.ok.injEq]

/-- The numbers that must not be zero are those from one on. -/
theorem loadNumber_ne_zero_iff {limit default n : Nat} (pos : 0 < limit)
    (default_ne : default ≠ 0) :
    loadNumber e v limit default = .ok n ∧ n ≠ 0 ↔
      Means (IsNumber 1 limit) default (e.text? v.name) n := by
  rw [loadNumber_eq_ok_iff pos]
  cases e.text? v.name with
  | none =>
    refine and_iff_left_of_imp ?_
    rintro rfl
    exact default_ne
  | some raw =>
    simp only [Means, IsNumber, and_assoc]
    refine and_congr_right fun _ => ?_
    omega

/-- Loading gives exactly the configuration that is denoted. -/
theorem load_eq_ok_iff_reads {c : Config} : load e = .ok c ↔ Reads e c := by
  have hwords : 0 < Nat.pow 2 64 := by decide
  have hwindow : Deployment.defaultWindow ≠ 0 := by decide
  have htimeout : defaultTimeoutMs ≠ 0 := by decide
  rw [load_eq_ok_iff]
  constructor
  · intro h
    obtain ⟨hurl, hshown⟩ := notBlank?_eq_some_iff.mp h.url
    exact {
      url := hurl
      url_shown := hshown
      bridge := loadBridge_eq_ok_iff.mp h.bridge
      key := fun key => by rw [h.key, notBlank?_eq_some_iff]
      address := h.address
      queries := (loadNumber_ne_zero_iff hwords hwindow).mp ⟨h.queries, h.queries_ne⟩
      timeout := (loadNumber_ne_zero_iff hwords htimeout).mp ⟨h.timeout, h.timeout_ne⟩
      port := (loadNumber_eq_ok_iff (by decide)).mp h.port }
  · intro h
    obtain ⟨hqueries, hqueries_ne⟩ := (loadNumber_ne_zero_iff hwords hwindow).mpr h.queries
    obtain ⟨htime, htime_ne⟩ := (loadNumber_ne_zero_iff hwords htimeout).mpr h.timeout
    exact {
      url := notBlank?_eq_some_iff.mpr ⟨h.url, h.url_shown⟩
      bridge := loadBridge_eq_ok_iff.mpr h.bridge
      queries := hqueries
      queries_ne := hqueries_ne
      timeout := htime
      timeout_ne := htime_ne
      port := (loadNumber_eq_ok_iff (by decide)).mpr h.port
      key := Option.ext fun key => by rw [notBlank?_eq_some_iff]; exact h.key key
      address := h.address }

/-! ## Faults -/

/-- The variable that a fault is about. -/
def Fault.source : Fault → Variable
  | .missingUrl => .rpcUrl
  | .badBridge _ _ => .bridgeAddress
  | .badNumber source _ _ => source
  | .noQueries => .maxConcurrentQueries
  | .noTimeout => .rpcTimeout

/-- A message is about a variable: it says that there has to be one, or what is wrong with it. -/
inductive Names (message : String) (v : Variable) : Prop
  | required (text : message = v.name ++ " required")
  | invalid (rest : String) (text : message = "Invalid " ++ v.name ++ rest)
      (delimited : rest.toList.head? = some ' ' ∨ rest.toList.head? = some ':')

theorem Fault.names_message (fault : Fault) : Names fault.message fault.source := by
  cases fault with
  | missingUrl => exact .required rfl
  | badBridge raw cause =>
    refine .invalid (" " ++ raw ++ ": " ++ cause.message) ?_ (.inl ?_)
    · show "Invalid " ++ Variable.bridgeAddress.name ++ " " ++ raw ++ ": " ++ cause.message =
        "Invalid " ++ Variable.bridgeAddress.name ++ (" " ++ raw ++ ": " ++ cause.message)
      simp only [String.append_assoc]
    · simp only [String.toList_append]
      rfl
  | badNumber source raw cause =>
    refine .invalid (" " ++ Text.quote raw ++ ": " ++ cause.message) ?_ (.inl ?_)
    · show "Invalid " ++ source.name ++ " " ++ Text.quote raw ++ ": " ++ cause.message =
        "Invalid " ++ source.name ++ (" " ++ Text.quote raw ++ ": " ++ cause.message)
      simp only [String.append_assoc]
    · simp only [String.toList_append]
      rfl
  | noQueries => exact .invalid ": must be at least 1" rfl (.inr rfl)
  | noTimeout => exact .invalid ": must be positive" rfl (.inr rfl)

/-- The characters that a name may have. No variable has a blank or a colon in its name. -/
def isNameChar (c : Char) : Bool :=
  c != ' ' && c != ':'

theorem takeWhile_name (v : Variable) {rest : List Char}
    (delimited : rest.head? = some ' ' ∨ rest.head? = some ':') :
    (v.name.toList ++ rest).takeWhile isNameChar = v.name.toList := by
  have hname : ∀ c ∈ v.name.toList, isNameChar c = true := by
    cases v <;> exact List.all_eq_true.mp (by decide)
  have hrest : rest.takeWhile isNameChar = [] := by
    cases rest with
    | nil => rfl
    | cons c cs =>
      refine List.takeWhile_cons_of_neg ?_
      rcases delimited with h | h <;> obtain rfl := Option.some.inj h <;> decide
  rw [List.takeWhile_append_of_pos hname, hrest, List.append_nil]

/-- The name in a message: its first word, or the second if the first says that it is invalid. -/
def subject (message : String) : List Char :=
  let word := message.toList.takeWhile isNameChar
  if word = "Invalid".toList then (message.toList.drop "Invalid ".length).takeWhile isNameChar
  else word

theorem Names.subject_eq {message : String} (h : Names message v) :
    subject message = v.name.toList := by
  cases h with
  | required text =>
    have hword : message.toList.takeWhile isNameChar = v.name.toList := by
      rw [text, String.toList_append]
      exact takeWhile_name v (.inl rfl)
    have hname : v.name.toList ≠ "Invalid".toList := by
      cases v <;> decide
    rw [subject, hword, if_neg hname]
  | invalid rest text delimited =>
    have hsplit : message.toList = "Invalid ".toList ++ (v.name.toList ++ rest.toList) := by
      rw [text, String.toList_append, String.toList_append, List.append_assoc]
    have hword : message.toList.takeWhile isNameChar = "Invalid".toList := by
      rw [hsplit]
      rfl
    rw [subject, if_pos hword, hsplit]
    exact takeWhile_name v delimited

/-- A message is about one variable only. -/
theorem Fault.names_message_iff (fault : Fault) : Names fault.message v ↔ v = fault.source := by
  constructor
  · intro h
    have hname := h.subject_eq.symm.trans fault.names_message.subject_eq
    exact Variable.name_injective (String.toList_inj.mp hname)
  · rintro rfl
    exact fault.names_message

/-! ## Judging one variable after the other -/

/-- A part of the configuration is loaded exactly if its variable is sound, and its faults are about
this variable. -/
structure Judges (e : Environment) (v : Variable) (x : Except Fault α) : Prop where
  sound : (∃ a, x = .ok a) ↔ Sound Hex.marks e v
  source : ∀ fault, x = .error fault → fault.source = v

theorem judges_url : Judges e .rpcUrl (loadUrl e) where
  sound := by
    rw [Sound]
    simp only [loadUrl_eq_ok_iff, notBlank?_eq_some_iff]
    cases e.text? Variable.rpcUrl.name with
    | none => exact iff_of_false nofun fun h => h rfl
    | some s =>
      constructor
      · rintro ⟨url, ⟨-⟩, hshown⟩
        exact hshown
      · exact fun hshown => ⟨s, rfl, hshown⟩
  source := by
    intro fault h
    unfold loadUrl at h
    split at h <;> cases h
    rfl

theorem judges_bridge : Judges e .bridgeAddress (loadBridge e) where
  sound := by
    simp only [loadBridge_eq_ok_iff]
    exact (sound_iff defaultBridge (by decide) fun s => Iff.rfl).symm
  source := by
    intro fault h
    unfold loadBridge at h
    split at h
    · cases h
    · split at h <;> cases h
      rfl

theorem source_of_loadNumber {limit default : Nat} {fault : Fault}
    (h : loadNumber e v limit default = .error fault) : fault.source = v := by
  unfold loadNumber at h
  split at h
  · cases h
  · split at h <;> cases h
    rfl

theorem judges_port : Judges e .port (loadNumber e .port (Nat.pow 2 16) defaultPort) where
  sound := by
    simp only [loadNumber_eq_ok_iff (by decide : 0 < Nat.pow 2 16)]
    exact (sound_iff defaultPort (by decide) fun s => Iff.rfl).symm
  source := fun fault h => source_of_loadNumber h

theorem judges_positive {limit default : Nat} {zero : Fault} (pos : 0 < limit)
    (default_ne : default ≠ 0) (optional : v ≠ .rpcUrl)
    (admits : ∀ s, Admits Hex.marks v s ↔ ∃ n, IsNumber 1 limit s n) (about : zero.source = v) :
    Judges e v (loadNumber e v limit default >>= positive zero) where
  sound := by
    rw [sound_iff default optional admits]
    refine exists_congr fun n => ?_
    rw [← loadNumber_ne_zero_iff pos default_ne]
    constructor
    · intro h
      obtain ⟨read, hread, h⟩ := exists_of_bind_eq_ok h
      obtain ⟨rfl, hne⟩ := positive_eq_ok_iff.mp h
      exact ⟨hread, hne⟩
    · rintro ⟨hread, hne⟩
      rw [hread]
      exact positive_eq_ok_iff.mpr ⟨rfl, hne⟩
  source := by
    intro fault h
    rcases error_or_exists_of_bind_eq_error h with h | ⟨n, -, h⟩
    · exact source_of_loadNumber h
    · unfold positive at h
      split at h <;> cases h
      exact about

/-- Of two parts of loading, the first that fails is told. -/
theorem firstUnsound_of_bind {x : Except Fault α} {f : α → Except Fault β} {vs : List Variable}
    {fault : Fault} (judges : Judges e v x) (h : (x >>= f) = .error fault)
    (rest : ∀ a, f a = .error fault → FirstUnsound Hex.marks e vs fault.source) :
    FirstUnsound Hex.marks e (v :: vs) fault.source := by
  rcases error_or_exists_of_bind_eq_error h with h | ⟨a, ha, h⟩
  · obtain rfl := judges.source fault h
    refine .here fun sound => ?_
    obtain ⟨a, ha⟩ := judges.sound.mpr sound
    cases h.symm.trans ha
  · exact .later (judges.sound.mp ⟨a, ha⟩) (rest a h)

/-- Where there is no configuration, the fault is about the first variable that is not sound. -/
theorem firstUnsound_of_load {fault : Fault} (h : load e = .error fault) :
    FirstUnsound Hex.marks e judged fault.source := by
  refine firstUnsound_of_bind judges_url h fun url h => ?_
  refine firstUnsound_of_bind judges_bridge h fun bridge h => ?_
  have hwords : 0 < Nat.pow 2 64 := by decide
  -- a number and the test that it is not zero are one part of the loading
  rw [← bind_assoc] at h
  refine firstUnsound_of_bind
    (judges_positive hwords (by decide) (by decide) (fun _ => Iff.rfl) rfl) h fun queries h => ?_
  rw [← bind_assoc] at h
  refine firstUnsound_of_bind
    (judges_positive hwords (by decide) (by decide) (fun _ => Iff.rfl) rfl) h fun timeout h => ?_
  exact firstUnsound_of_bind judges_port h nofun

/-- Whoever is not judged is sound. -/
theorem sound_of_admits (optional : v ≠ .rpcUrl) (admits : ∀ s, Admits marks v s) :
    Sound marks e v := by
  rw [Sound]
  cases e.text? v.name with
  | none => exact optional
  | some s => exact admits s

theorem Reads.sound {c : Config} (h : Reads e c) (v : Variable) : Sound Hex.marks e v := by
  cases v with
  | rpcUrl =>
    rw [Sound, h.url]
    exact h.url_shown
  | bridgeAddress => exact (sound_iff _ (by decide) fun _ => Iff.rfl).mpr ⟨_, h.bridge⟩
  | privateKey => exact sound_of_admits (by decide) fun _ => trivial
  | bindAddress => exact sound_of_admits (by decide) fun _ => trivial
  | port => exact (sound_iff _ (by decide) fun _ => Iff.rfl).mpr ⟨_, h.port⟩
  | rpcTimeout => exact (sound_iff _ (by decide) fun _ => Iff.rfl).mpr ⟨_, h.timeout⟩
  | maxConcurrentQueries => exact (sound_iff _ (by decide) fun _ => Iff.rfl).mpr ⟨_, h.queries⟩

/-- There is a configuration exactly if all variables are sound. -/
theorem exists_load_iff : (∃ c, load e = .ok c) ↔ ∀ v, Sound Hex.marks e v := by
  constructor
  · rintro ⟨c, h⟩
    exact (load_eq_ok_iff_reads.mp h).sound
  · intro sound
    cases h : load e with
    | ok c => exact ⟨c, rfl⟩
    | error fault => exact absurd (sound _) (firstUnsound_of_load h).unsound

/-- A variable that is set beside the URL is all that is left to judge. -/
theorem sound_set_urlAlone_iff {url value : String} (shown : Shown url) {w : Variable}
    (other : w ≠ .rpcUrl) :
    (∀ v, Sound marks ((urlAlone url).set w.name value.toUTF8) v) ↔ Admits marks w value := by
  constructor
  · intro sound
    have hset := sound w
    rw [Sound, Environment.text?_set] at hset
    exact hset
  · intro admits v
    rw [Sound]
    by_cases hv : v = w
    · subst hv
      rw [Environment.text?_set]
      exact admits
    · rw [Environment.text?_set_of_ne _ _ fun hname => hv (Variable.name_injective hname)]
      by_cases hurl : v = .rpcUrl
      · subst hurl
        rw [urlAlone, Environment.text?_set]
        exact shown
      · rw [text?_urlAlone_of_ne url hurl]
        exact hurl

/-- **Loading accepts exactly the sound environments and reads them exactly.** A configuration is
loaded exactly if it is the one that the environment denotes, and there is one exactly if all
variables are sound; the digits of the contract may stand behind the mark `0x` or `0X`. No
configuration has no read in flight or no time for a call. Where there is none, the message of the
fault is about the first variable that is not sound, and about no other. -/
theorem load_sound_environments (e : Environment) :
    (∀ c, load e = .ok c ↔ Reads e c) ∧
      ((∃ c, load e = .ok c) ↔ ∀ v, Sound Hex.marks e v) ∧
      (∀ c, load e = .ok c → c.maxConcurrentQueries ≠ 0 ∧ c.rpcTimeoutMs ≠ 0) ∧
      ∀ fault, load e = .error fault →
        ∃ v, FirstUnsound Hex.marks e judged v ∧ ∀ w, Names fault.message w ↔ w = v := by
  refine ⟨fun c => load_eq_ok_iff_reads, exists_load_iff, fun c h => ?_, fun fault h => ?_⟩
  · have hloads := load_eq_ok_iff.mp h
    exact ⟨hloads.queries_ne, hloads.timeout_ne⟩
  · exact ⟨fault.source, firstUnsound_of_load h, fun w => fault.names_message_iff⟩

/-- The greatest number of reads behind a plus sign and zeros, and one more than it in an
environment without time for a call. -/
theorem load_sound_environments_of_limits :
    let e := (urlAlone "http://[::1]:8545").set Variable.maxConcurrentQueries.name
      " +018446744073709551615\n".toUTF8
    let e' := ((urlAlone "http://[::1]:8545").set Variable.rpcTimeout.name "0".toUTF8).set
      Variable.maxConcurrentQueries.name "18446744073709551616".toUTF8
    (∃ c, load e = .ok c ∧ Reads e c ∧ c.maxConcurrentQueries = Nat.pow 2 64 - 1) ∧
      ∃ fault, load e' = .error fault ∧
        ∀ w, Names fault.message w ↔ w = .maxConcurrentQueries := by
  intro e e'
  obtain ⟨hreads, hloads, -, -⟩ := load_sound_environments e
  obtain ⟨-, -, -, hnames⟩ := load_sound_environments e'
  have hshown : Shown "http://[::1]:8545" := ⟨'h', by decide, by decide⟩
  constructor
  · have hlimit : 0 < Nat.pow 2 64 := by decide
    have hread : Text.readUnsigned (Nat.pow 2 64)
        (Text.trimChars " +018446744073709551615\n".toList) = .ok (Nat.pow 2 64 - 1) := by
      decide
    have hadmits : IsNumber 1 (Nat.pow 2 64) " +018446744073709551615\n" (Nat.pow 2 64 - 1) :=
      ⟨((isNumber_iff hlimit).mpr hread).1, by decide, by decide⟩
    obtain ⟨c, hc⟩ := hloads.mpr ((sound_set_urlAlone_iff hshown (by decide)).mpr ⟨_, hadmits⟩)
    have hqueries := ((hreads c).mp hc).queries
    rw [Environment.text?_set] at hqueries
    have hvalue := (isNumber_iff hlimit).mp ⟨hqueries.1, Nat.zero_le _, hqueries.2.2⟩
    exact ⟨c, hc, (hreads c).mp hc, Except.ok.inj (hvalue.symm.trans hread)⟩
  · have hother : ∀ v : Variable, v ≠ .maxConcurrentQueries → v ≠ .rpcTimeout →
        e'.text? v.name = (urlAlone "http://[::1]:8545").text? v.name := fun v hv hv' =>
      (Environment.text?_set_of_ne _ _ fun hname => hv (Variable.name_injective hname)).trans
        (Environment.text?_set_of_ne _ _ fun hname => hv' (Variable.name_injective hname))
    have hurl : loadUrl e' = .ok "http://[::1]:8545" := by
      rw [loadUrl_eq_ok_iff, notBlank?_eq_some_iff, hother .rpcUrl (by decide) (by decide)]
      exact ⟨Environment.text?_set _ _ _, hshown⟩
    have hbridge : loadBridge e' = .ok defaultBridge := by
      rw [loadBridge_eq_ok_iff, hother .bridgeAddress (by decide) (by decide),
        text?_urlAlone_of_ne _ (by decide)]
      rfl
    have hqueries : loadNumber e' .maxConcurrentQueries (Nat.pow 2 64) Deployment.defaultWindow =
        .error (.badNumber .maxConcurrentQueries "18446744073709551616" .tooLarge) := by
      rw [loadNumber, Environment.text?_set]
      rfl
    have hload : load e' =
        .error (.badNumber .maxConcurrentQueries "18446744073709551616" .tooLarge) := by
      rw [load, hurl, ok_bind, hbridge, ok_bind, hqueries]
      rfl
    obtain ⟨v, -, hv⟩ := hnames _ hload
    obtain rfl := (hv _).mp (Fault.names_message _)
    exact ⟨_, hload, hv⟩

/-- Digits behind the mark `0X` are read as the address of the contract, so the mark `0x` is not the
only one. -/
theorem not_load_iff_sound_of_lower_mark :
    ¬∀ e, (∃ c, load e = .ok c) ↔ ∀ v, Sound [[], ['0', 'x']] e v := by
  intro h
  let a : Address := ⟨List.replicate 20 0xab, rfl⟩
  let digits := '0' :: 'X' :: Hex.encodeChars a.bytes
  have hshown : Shown "http://[::1]:8545" := ⟨'h', by decide, by decide⟩
  have hoptional : Variable.bridgeAddress ≠ .rpcUrl := by decide
  have htrim : Text.trimChars (String.ofList digits).toList = digits := by
    rw [String.toList_ofList]
    decide
  have hmarked : IsAddress Hex.marks (String.ofList digits) a :=
    ⟨[], digits, [], by rw [String.toList_ofList, List.nil_append, List.append_nil], nofun,
      ⟨['0', 'X'], by decide, _, rfl, Hex.spells_encodeChars a.bytes⟩, nofun⟩
  have hload := exists_load_iff.mpr ((sound_set_urlAlone_iff hshown hoptional).mpr ⟨a, hmarked⟩)
  obtain ⟨b, hlower⟩ := (sound_set_urlAlone_iff hshown hoptional).mp ((h _).mp hload)
  obtain ⟨mark, hmark, rest, htext, spelled⟩ :=
    (isAddress_iff_trimChars (by decide)).mp hlower
  rw [htrim] at htext
  simp only [List.mem_cons, List.not_mem_nil, or_false] at hmark
  rcases hmark with rfl | rfl
  · -- the capital letter would have to be a digit
    have hletter : 'X' ∈ rest := by
      rw [← List.nil_append rest, ← htext]
      exact List.mem_cons_of_mem _ List.mem_cons_self
    exact absurd (spelled.isDigitOf 'X' hletter) (by decide)
  · have hletter : 'X' = 'x' := (List.cons.inj (List.cons.inj htext).2).1
    exact absurd hletter (by decide)

end TransferRelay.Config
