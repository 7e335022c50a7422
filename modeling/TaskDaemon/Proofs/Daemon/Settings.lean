import TaskDaemon.Command.Execution
import TaskDaemon.Proofs.Json.Given
import TaskDaemon.Proofs.Net.Ip
import TaskDaemon.Proofs.Rpc.Lossless
import TaskDaemon.Proofs.Text.Utf8

/-!
# Where the settings of a daemon come from

A daemon has eight settings, in three objects: most stand at the top of the file, and two groups
have an object of their own each. The reader works through the file in two passes, since the
settings of the server share an object with those of the process. None of this shows in the result.
It is told setting by setting:

| what is said of a setting | its value |
|---|---|
| its flag is given | that of the flag |
| its key is in the file | that of the file, which must be of the right type |
| neither | the default |

The types of the eight settings differ, so `TaskDaemon.Setting.Value` is a family of types, and the
three rows are three functions of a setting: `TaskDaemon.Setting.flag?`, `TaskDaemon.Setting.read?`
of what is `TaskDaemon.Setting.given?`, and `TaskDaemon.Setting.get` of the default settings. An
absent group is like an empty one.

* `TaskDaemon.DaemonConfig.settings_told`: the main result.
-/

namespace TaskDaemon

open Attempt Json

/-- **A setting of a daemon.** -/
inductive Setting where
  /-- The file that is locked. -/
  | lockFile
  /-- The socket file. -/
  | sockFile
  /-- How long stopping may wait. -/
  | drainTimeout
  /-- Whether to start with the demo tasks. -/
  | seedDemoTasks
  /-- The address of the REST interface. -/
  | host
  /-- How long a request may take. -/
  | requestTimeout
  /-- How long a connection may be silent. -/
  | idleTimeout
  /-- How long writing a response may take. -/
  | writeTimeout
  deriving DecidableEq, Repr

namespace Setting

/-- All settings. -/
def all : List Setting :=
  [.lockFile, .sockFile, .drainTimeout, .seedDemoTasks, .host, .requestTimeout, .idleTimeout,
    .writeTimeout]

theorem mem_all (setting : Setting) : setting ∈ all := by
  cases setting <;> decide

/-- **The values of a setting.** -/
def Value : Setting → Type
  | .lockFile => Path
  | .sockFile => Path
  | .drainTimeout => Option Nat
  | .seedDemoTasks => Bool
  | .host => Ip
  | .requestTimeout => Nat
  | .idleTimeout => Nat
  | .writeTimeout => Nat

/-- **The value that a setting has.** -/
def get : (setting : Setting) → DaemonConfig → setting.Value
  | .lockFile, config => config.lockFile
  | .sockFile, config => config.sockFile
  | .drainTimeout, config => config.drainTimeoutMs
  | .seedDemoTasks, config => config.server.seedDemoTasks
  | .host, config => config.server.http.host
  | .requestTimeout, config => config.server.http.requestTimeoutMs
  | .idleTimeout, config => config.server.rpc.idleTimeoutMs
  | .writeTimeout, config => config.server.rpc.writeTimeoutMs

/-- **The settings with given values**, each chosen on its own. -/
def ofValues (value : (setting : Setting) → setting.Value) : DaemonConfig where
  lockFile := value .lockFile
  sockFile := value .sockFile
  drainTimeoutMs := value .drainTimeout
  server := {
    seedDemoTasks := value .seedDemoTasks
    http := ⟨value .host, value .requestTimeout⟩
    rpc := ⟨value .idleTimeout, value .writeTimeout⟩ }

theorem get_ofValues (value : (setting : Setting) → setting.Value) (setting : Setting) :
    setting.get (ofValues value) = value setting := by
  cases setting <;> rfl

/-- **Settings are the same if each of them is.** -/
theorem ext_get {a b : DaemonConfig} (h : ∀ setting : Setting, setting.get a = setting.get b) :
    a = b :=
  congrArg ofValues (funext h)

/-! ### Where a setting stands in a file -/

/-- The key of the group that a setting belongs to, if it is in a group. -/
def group? : Setting → Option String
  | .host | .requestTimeout => some "http"
  | .idleTimeout | .writeTimeout => some "rpc"
  | _ => none

/-- The key of a setting. -/
def key : Setting → String
  | .lockFile => "lock_file"
  | .sockFile => "sock_file"
  | .drainTimeout => "drain_timeout_ms"
  | .seedDemoTasks => "seed_demo_tasks"
  | .host => "host"
  | .requestTimeout => "request_timeout_ms"
  | .idleTimeout => "idle_timeout_ms"
  | .writeTimeout => "write_timeout_ms"

/-- **The object of a group**, or the file itself; an absent group is like an empty one. -/
def place (group? : Option String) (file : Json) : Json :=
  match group? with
  | none => file
  | some group => (file.member? group).getD (.object [])

/-- **What a file says of a setting.** -/
def given? (setting : Setting) (file : Json) : Option Json :=
  (place setting.group? file).member? setting.key

/-- **The members that settings are read from**, in the object of a group or at the top. -/
def known (group? : Option String) (file : Json) : List (String × Json) :=
  match place group? file with
  | .object members => members.filter fun m =>
    m.1 ∈ (all.filter fun setting => setting.group? = group?).map key
  | _ => []

/-- **Two files say the same** if their known members are the same, in whatever order. -/
def SaySame (file file' : Json) : Prop :=
  ∀ setting : Setting, (known setting.group? file).Perm (known setting.group? file')

/-- **A file of settings**: an object, and so are its groups if they are there, all without repeated
keys. -/
structure IsFile (file : Json) : Prop where
  /-- The file is a plain object. -/
  plain : file.IsPlain
  /-- So are its groups. -/
  groups : ∀ group ∈ ["http", "rpc"], ∀ inner ∈ file.member? group, inner.IsPlain

theorem IsFile.place {file : Json} (h : IsFile file) (setting : Setting) :
    (place setting.group? file).IsPlain := by
  have hgroup : ∀ group ∈ ["http", "rpc"], ((file.member? group).getD (.object [])).IsPlain := by
    intro group hmem
    cases hinner : file.member? group with
    | none => exact List.nodup_nil
    | some inner => exact h.groups group hmem inner hinner
  cases setting with
  | host | requestTimeout => exact hgroup "http" (by decide)
  | idleTimeout | writeTimeout => exact hgroup "rpc" (by decide)
  | _ => exact h.plain

/-- **A setting is read from a known member.** -/
theorem mem_known_iff {file : Json} (h : IsFile file) (setting : Setting) (value : Json) :
    (setting.key, value) ∈ known setting.group? file ↔ setting.given? file = some value := by
  have hplain := h.place setting
  have hkey : setting.key ∈ (all.filter fun other => other.group? = setting.group?).map key :=
    List.mem_map.mpr ⟨setting, List.mem_filter.mpr ⟨setting.mem_all, by simp⟩, rfl⟩
  unfold known given?
  cases hobject : place setting.group? file with
  | object members =>
    rw [hobject] at hplain
    rw [member?_eq_some_iff_mem hplain]
    simp only [List.mem_filter, decide_eq_true_eq, hkey, and_true]
  | _ =>
    rw [hobject] at hplain
    exact hplain.elim

/-- **Neither unknown keys nor the order of keys matter** for what a file says. -/
theorem given?_eq_of_saySame {file file' : Json} (h : IsFile file) (h' : IsFile file')
    (hsame : SaySame file file') (setting : Setting) :
    setting.given? file = setting.given? file' := by
  refine Option.ext fun value => ?_
  rw [← mem_known_iff h, ← mem_known_iff h']
  exact (hsame setting).mem_iff

/-! ### What values mean -/

/-- A path is any text. -/
def path? : Json → Option Path
  | .string text => some (Path.ofString text)
  | _ => none

/-- A time is a number of milliseconds in 64 bits. -/
def millis? : Json → Option Nat
  | .number (.int n) => if 0 ≤ n ∧ n < 18446744073709551616 then some n.toNat else none
  | _ => none

/-- A time that need not be there. -/
def maybeMillis? : Json → Option (Option Nat)
  | .null => some none
  | value => (millis? value).map some

/-- A truth value. -/
def truth? : Json → Option Bool
  | .bool b => some b
  | _ => none

/-- An address is a text that denotes one. -/
def ip? : Json → Option Ip
  | .string text => Ip.parse? text
  | _ => none

/-- **The value that a setting takes from a JSON value**, if that is of the right type. -/
def read? : (setting : Setting) → Json → Option setting.Value
  | .lockFile => path?
  | .sockFile => path?
  | .drainTimeout => maybeMillis?
  | .seedDemoTasks => truth?
  | .host => ip?
  | .requestTimeout => millis?
  | .idleTimeout => millis?
  | .writeTimeout => millis?

/-- **The value of a setting that a file tells**: what stands there, or else the one by default. -/
def told (base : DaemonConfig) (file : Json) (setting : Setting) : Option setting.Value :=
  match setting.given? file with
  | some value => setting.read? value
  | none => some (setting.get base)

/-- **The value that the flags of a command line give.** -/
def flag? : (setting : Setting) → (sock lock : Option Path) → (seed : Bool) →
    Option setting.Value
  | .lockFile, _, lock, _ => lock
  | .sockFile, sock, _, _ => sock
  | .seedDemoTasks, _, _, seed => if seed then some true else none
  | _, _, _, _ => none

/-- **A value that a text can tell**: paths are text. Times are of 64 bits and addresses have their
octets or groups, as all values of these types do. -/
def IsTold : (setting : Setting) → setting.Value → Prop
  | .lockFile, (path : Path) => Utf8.IsText path.bytes
  | .sockFile, (path : Path) => Utf8.IsText path.bytes
  | .drainTimeout, (limit : Option Nat) => ∀ n ∈ limit, n < 18446744073709551616
  | .seedDemoTasks, _ => True
  | .host, (ip : Ip) => ip.IsProper
  | .requestTimeout, (n : Nat) => n < 18446744073709551616
  | .idleTimeout, (n : Nat) => n < 18446744073709551616
  | .writeTimeout, (n : Nat) => n < 18446744073709551616

/-! ### The settings one by one -/

/-- All settings, in the order in which their objects hold them. -/
theorem forall_iff {P : Setting → Prop} : (∀ setting, P setting) ↔
    (P .lockFile ∧ P .sockFile ∧ P .drainTimeout) ∧ P .seedDemoTasks ∧
      (P .host ∧ P .requestTimeout) ∧ P .idleTimeout ∧ P .writeTimeout := by
  constructor
  · intro h
    exact ⟨⟨h _, h _, h _⟩, h _, ⟨h _, h _⟩, h _, h _⟩
  · rintro ⟨⟨hlock, hsock, hdrain⟩, hseed, ⟨hhost, hrequest⟩, hidle, hwrite⟩ setting
    cases setting <;> assumption

/-- The shape of the values of a setting. -/
def schema : (setting : Setting) → Schema setting.Value
  | .lockFile => DaemonConfig.pathSchema
  | .sockFile => DaemonConfig.pathSchema
  | .drainTimeout => .option DaemonConfig.millisSchema
  | .seedDemoTasks => .atom .bool
  | .host => Ip.schema
  | .requestTimeout => DaemonConfig.millisSchema
  | .idleTimeout => DaemonConfig.millisSchema
  | .writeTimeout => DaemonConfig.millisSchema

section Read

variable {surplus : Surplus} {value : Json}

theorem ofJson_pathSchema_iff {path : Path} :
    DaemonConfig.pathSchema.ofJson surplus value = .ok path ↔ path? value = some path := by
  unfold DaemonConfig.pathSchema
  simp only [Schema.ofJson, map_eq_ok_iff, mapError_eq_ok_iff]
  cases value with
  | string text => simp [Atom.path, path?]
  | _ => simp [Atom.path, path?]

theorem ofJson_millisSchema_iff {n : Nat} :
    DaemonConfig.millisSchema.ofJson surplus value = .ok n ↔ millis? value = some n := by
  unfold DaemonConfig.millisSchema
  simp only [Schema.ofJson, mapError_eq_ok_iff]
  rcases value with _ | _ | (m | _) | _ | _ | _
  case number.int =>
    have hbound : ((18446744073709551616 : Nat) : Int) = 18446744073709551616 := rfl
    simp only [Atom.nat, millis?, hbound]
    split <;> simp
  all_goals simp [Atom.nat, millis?]

theorem ofJson_maybeMillis_iff {limit : Option Nat} :
    (Schema.option DaemonConfig.millisSchema).ofJson surplus value = .ok limit ↔
      maybeMillis? value = some limit := by
  by_cases hnull : value = .null
  · subst hnull
    exact ok_eq_ok_iff
  · have hread : maybeMillis? value = (millis? value).map some := by
      cases value with
      | null => exact absurd rfl hnull
      | _ => rfl
    rw [Schema.ofJson_option_of_ne_null _ hnull, hread, map_eq_ok_iff, Option.map_eq_some_iff]
    simp only [ofJson_millisSchema_iff]

theorem ofJson_ipSchema_iff {ip : Ip} :
    Ip.schema.ofJson surplus value = .ok ip ↔ ip? value = some ip := by
  unfold Ip.schema
  simp only [Schema.ofJson, mapError_eq_ok_iff]
  cases value with
  | string text =>
    simp only [Atom.parsed, mapError_eq_ok_iff, ip?]
    cases Ip.parse? text <;> simp
  | _ => simp [Atom.parsed, ip?]

/-- **A value is read from what is of its type**, and from nothing else. -/
theorem ofJson_schema_iff (setting : Setting) {v : setting.Value} :
    setting.schema.ofJson surplus value = .ok v ↔ setting.read? value = some v := by
  cases setting with
  | lockFile | sockFile => exact ofJson_pathSchema_iff
  | drainTimeout => exact ofJson_maybeMillis_iff
  | seedDemoTasks =>
    simp only [schema, Schema.ofJson, mapError_eq_ok_iff, read?]
    cases value with
    | bool b => exact ok_eq_ok_iff
    | _ => simp [Atom.bool, truth?]
  | host => exact ofJson_ipSchema_iff
  | requestTimeout | idleTimeout | writeTimeout => exact ofJson_millisSchema_iff

theorem gives_iff_told (setting : Setting) {base : DaemonConfig} {file : Json} {v : setting.Value} :
    setting.schema.Gives surplus (.anywhere (setting.get base)) (setting.given? file) v ↔
      setting.told base file = some v := by
  unfold Schema.Gives told
  cases setting.given? file with
  | none => exact Iff.rfl
  | some value => exact ofJson_schema_iff setting

end Read

end Setting

theorem Ip.writes_schema {ip : Ip} (h : ip.IsProper) : Ip.schema.Writes ip := by
  unfold Ip.schema Schema.Writes Atom.parsed
  simp only [Ip.parse?_text h]
  rfl

namespace DaemonConfig

variable {surplus : Surplus} {file : Json} {directory : Path} {config : DaemonConfig}

/-! ### What a file gives -/

theorem tidy_schema (base : DaemonConfig) : (schema base).Tidy :=
  ⟨(by decide : ["lock_file", "sock_file", "drain_timeout_ms", "seed_demo_tasks", "http",
    "rpc"].Nodup), ⟨trivial, trivial, trivial, trivial⟩, trivial,
    ⟨(by decide : ["host", "request_timeout_ms"].Nodup), trivial, trivial, trivial⟩,
    ⟨(by decide : ["idle_timeout_ms", "write_timeout_ms"].Nodup), trivial, trivial, trivial⟩,
    trivial⟩

/-- **An absent group is like an empty one**, if an empty one is the default. -/
theorem gives_group_iff {α : Type} {s : Schema α} {default a : α}
    (hempty : s.ofJson surplus (.object []) = .ok default) {group : String} :
    s.Gives surplus (.anywhere default) (file.member? group) a ↔
      s.ofJson surplus (Setting.place (some group) file) = .ok a := by
  change _ ↔ s.ofJson surplus ((file.member? group).getD (.object [])) = .ok a
  cases file.member? group with
  | some inner => exact Iff.rfl
  | none =>
    rw [Option.getD_none, hempty]
    exact ok_eq_ok_iff.symm

theorem ofJson_httpSchema_iff {object : Json} (hplain : object.IsPlain) {http : HttpConfig} :
    httpSchema.ofJson surplus object = .ok http ↔
      Ip.schema.Gives surplus (.anywhere .loopback) (object.member? "host") http.host ∧
        millisSchema.Gives surplus (.anywhere 10000) (object.member? "request_timeout_ms")
          http.requestTimeoutMs := by
  unfold httpSchema
  rw [Schema.ofJson_convert_iff (fun _ => rfl) (fun _ => rfl),
    Schema.ofJson_record_iff (by decide) hplain]
  simp only [Fields.default, Fields.Gives, and_true]

theorem ofJson_rpcSchema_iff {object : Json} (hplain : object.IsPlain) {rpc : RpcConfig} :
    rpcSchema.ofJson surplus object = .ok rpc ↔
      millisSchema.Gives surplus (.anywhere 60000) (object.member? "idle_timeout_ms")
          rpc.idleTimeoutMs ∧
        millisSchema.Gives surplus (.anywhere 10000) (object.member? "write_timeout_ms")
          rpc.writeTimeoutMs := by
  unfold rpcSchema
  rw [Schema.ofJson_convert_iff (fun _ => rfl) (fun _ => rfl),
    Schema.ofJson_record_iff (by decide) hplain]
  simp only [Fields.default, Fields.Gives, and_true]

/-- **Each setting is what the file tells of it**, the defaults being those of a directory. -/
theorem ofJson_schema_iff (hfile : Setting.IsFile file) :
    (schema (.inDirectory directory)).ofJson surplus file = .ok config ↔
      ∀ setting : Setting,
        setting.told (.inDirectory directory) file = some (setting.get config) := by
  let told (setting : Setting) : Prop :=
    setting.told (.inDirectory directory) file = some (setting.get config)
  have htold (setting : Setting) :
      setting.schema.Gives surplus (.anywhere (setting.get (.inDirectory directory)))
        (setting.given? file) (setting.get config) ↔ told setting := setting.gives_iff_told
  -- A group is one field of the second record, and its default is what an empty group gives.
  have hhttp : httpSchema.Gives surplus (.anywhere {}) (file.member? "http") config.server.http ↔
      told .host ∧ told .requestTimeout :=
    (gives_group_iff rfl).trans <| (ofJson_httpSchema_iff (hfile.place .host)).trans <|
      and_congr (htold .host) (htold .requestTimeout)
  have hrpc : rpcSchema.Gives surplus (.anywhere {}) (file.member? "rpc") config.server.rpc ↔
      told .idleTimeout ∧ told .writeTimeout :=
    (gives_group_iff rfl).trans <| (ofJson_rpcSchema_iff (hfile.place .idleTimeout)).trans <|
      and_congr (htold .idleTimeout) (htold .writeTimeout)
  unfold schema
  rw [Schema.ofJson_convert_iff (fun _ => rfl) (fun _ => rfl),
    Schema.ofJson_merged_iff (tidy_schema (.inDirectory directory)).1 hfile.plain,
    Setting.forall_iff]
  simp only [Fields.default, Fields.Gives, and_true]
  exact and_congr
    (and_congr (htold .lockFile) (and_congr (htold .sockFile) (htold .drainTimeout)))
    (and_congr (htold .seedDemoTasks) (and_congr hhttp hrpc))

/-! ### Reading a file -/

/-- **A file holds a JSON value**: it is text, and the text is read as that value. -/
def Holds (read : Path → Except SystemFault Bytes) (path : Path) (file : Json) : Prop :=
  ∃ text, read path = .ok (Utf8.ofString text) ∧ Json.parse (Glyph.ofString text) = .ok file

section Load

variable {read : Path → Except SystemFault Bytes} {path : Path} {base : DaemonConfig}

theorem load_eq_ok_iff {text : String} (hread : read path = .ok (Utf8.ofString text)) :
    load base read (some path) = .ok config ↔
      (schema base).parse (Glyph.ofString text) = .ok config := by
  have hload : load base read (some path) = parse base path text := by
    simp only [load, hread, Utf8.toString?_ofString]
    rfl
  rw [hload, parse, Error.inContext, mapError_eq_ok_iff, mapError_eq_ok_iff]

/-- **The settings of a file** are what it tells. -/
theorem load_eq_ok_iff_told (hheld : Holds read path file) (hfile : Setting.IsFile file) :
    load (.inDirectory directory) read (some path) = .ok config ↔
      ∀ setting : Setting,
        setting.told (.inDirectory directory) file = some (setting.get config) := by
  obtain ⟨text, hread, hparse⟩ := hheld
  rw [load_eq_ok_iff hread, Schema.parse_eq_ok_iff_of_parse (tidy_schema _) hparse,
    ofJson_schema_iff hfile]

/-- **A file is refused only for a value of the wrong type.** -/
theorem exists_load_iff (hheld : Holds read path file) (hfile : Setting.IsFile file) :
    (∃ config, load (.inDirectory directory) read (some path) = .ok config) ↔
      ∀ (setting : Setting) (value : Json), setting.given? file = some value →
        (setting.read? value).isSome = true := by
  simp only [load_eq_ok_iff_told hheld hfile]
  constructor
  · rintro ⟨config, htold⟩ setting value hgiven
    have hvalue := htold setting
    rw [Setting.told, hgiven] at hvalue
    exact Option.isSome_iff_exists.mpr ⟨_, hvalue⟩
  · intro h
    have hsome (setting : Setting) :
        (setting.told (.inDirectory directory) file).isSome = true := by
      unfold Setting.told
      cases hgiven : setting.given? file with
      | none => rfl
      | some value => exact h setting value hgiven
    refine ⟨Setting.ofValues fun setting => (setting.told _ file).get (hsome setting), ?_⟩
    intro setting
    rw [Setting.get_ofValues, Option.some_get]

/-- **Files that say the same** give the same settings. -/
theorem load_congr {path' : Path} {file' : Json} (hheld : Holds read path file)
    (hfile : Setting.IsFile file) (hheld' : Holds read path' file') (hfile' : Setting.IsFile file')
    (hsame : Setting.SaySame file file') :
    load (.inDirectory directory) read (some path) = .ok config ↔
      load (.inDirectory directory) read (some path') = .ok config := by
  rw [load_eq_ok_iff_told hheld hfile, load_eq_ok_iff_told hheld' hfile']
  simp only [Setting.told, Setting.given?_eq_of_saySame hfile hfile' hsame]

end Load

/-! ### Writing a file -/

theorem writes_pathSchema {path : Path} (h : Utf8.IsText path.bytes) : pathSchema.Writes path :=
  ⟨rfl, congrArg Path.mk ((Utf8.ofString_lossy_iff path.bytes).mpr h)⟩

theorem writes_millisSchema {n : Nat} (h : n < 18446744073709551616) : millisSchema.Writes n :=
  Rpc.accept_nat h

theorem writes_maybeMillis {limit : Option Nat} (h : ∀ n ∈ limit, n < 18446744073709551616) :
    (Schema.option millisSchema).Writes limit := by
  cases limit with
  | none => trivial
  | some n => exact ⟨(fun hnull => by cases hnull), writes_millisSchema (h n rfl)⟩

theorem writes_schema (base : DaemonConfig)
    (h : ∀ setting : Setting, setting.IsTold (setting.get config)) : (schema base).Writes config :=
  ⟨⟨⟨writes_pathSchema (h .lockFile), writes_pathSchema (h .sockFile),
      writes_maybeMillis (h .drainTimeout), trivial⟩,
    rfl, ⟨⟨Ip.writes_schema (h .host), writes_millisSchema (h .requestTimeout), trivial⟩, rfl⟩,
    ⟨⟨writes_millisSchema (h .idleTimeout), writes_millisSchema (h .writeTimeout), trivial⟩, rfl⟩,
    trivial⟩, rfl⟩

theorem readable_toJson (base : DaemonConfig)
    (h : ∀ setting : Setting, setting.IsTold (setting.get config)) :
    Readable depthLimit ((schema base).toJson config) := by
  have hfits {n : Nat} (hn : n < 18446744073709551616) : (Number.int n).ReadsBack :=
    Number.readsBack_int (by omega) (by omega)
  have hlimit : Readable 126 ((Schema.option millisSchema).toJson config.drainTimeoutMs) := by
    have hdrain : ∀ n ∈ config.drainTimeoutMs, n < 18446744073709551616 := h .drainTimeout
    cases hgiven : config.drainTimeoutMs with
    | none => trivial
    | some n => exact hfits (hdrain n hgiven)
  exact ⟨trivial, trivial, hlimit, trivial, ⟨trivial, hfits (h .requestTimeout), trivial⟩,
    ⟨hfits (h .idleTimeout), hfits (h .writeTimeout), trivial⟩, trivial⟩

/-- **Settings that were written are loaded again.** -/
theorem load_render {read : Path → Except SystemFault Bytes} {path : Path} {base : DaemonConfig}
    (h : ∀ setting : Setting, setting.IsTold (setting.get config))
    (hread : read path = .ok (Utf8.ofString ((schema base).render config))) :
    load base read (some path) = .ok config :=
  (load_eq_ok_iff hread).mpr
    (Schema.keeps_of_writes (tidy_schema base) (writes_schema base h)
      (readable_toJson base h)).parse_render

/-! ### Flags -/

/-- **A setting is replaced exactly where its flag is given.** -/
theorem get_override (config : DaemonConfig) (sock lock : Option Path) (seed : Bool)
    (setting : Setting) : setting.get (Settings.override config sock lock seed) =
      (setting.flag? sock lock seed).getD (setting.get config) := by
  cases setting with
  | seedDemoTasks =>
    cases seed with
    | true => exact Bool.or_true _
    | false => exact Bool.or_false _
  | _ => rfl

/-- **The settings of a daemon that is to run** are those that were loaded, but for the replaced
ones. -/
theorem ofRun_eq_ok_iff {settings : Settings} {sock lock given : Option Path} {seed : Bool} :
    settings.ofRun sock lock given seed = .ok config ↔
      ∃ loaded, settings.load given = .ok loaded ∧ ∀ setting : Setting,
        setting.get config = (setting.flag? sock lock seed).getD (setting.get loaded) := by
  rw [Settings.ofRun, map_eq_ok_iff]
  refine exists_congr fun loaded => and_congr_right fun _ => ?_
  simp only [← get_override]
  constructor
  · rintro rfl setting
    rfl
  · exact fun h => (Setting.ext_get h).symm

/-- **The settings of a daemon are told one by one.** A file of settings is loaded exactly if every
setting that is in it has a value of its type. What is loaded is then, for each setting, the file's
value if it is there and the default if it is not, and no other members and no order of members make
a difference. Settings that were written are loaded again, if their paths are text. The settings of
a daemon that is to run are those that were loaded, but for the ones whose flag was given. -/
theorem settings_told (directory : Path) (read : Path → Except SystemFault Bytes) :
    let base := inDirectory directory
    (∀ (path : Path) (file : Json), Holds read path file → Setting.IsFile file →
      ((∃ config, load base read (some path) = .ok config) ↔
        ∀ (setting : Setting) (value : Json), setting.given? file = some value →
          (setting.read? value).isSome = true) ∧
      (∀ config, load base read (some path) = .ok config ↔
        ∀ setting : Setting, setting.told base file = some (setting.get config)) ∧
      ∀ (path' : Path) (file' : Json), Holds read path' file' → Setting.IsFile file' →
        Setting.SaySame file file' → ∀ config,
          load base read (some path) = .ok config ↔ load base read (some path') = .ok config) ∧
    (∀ (path : Path) (config : DaemonConfig),
      (∀ setting : Setting, setting.IsTold (setting.get config)) →
      read path = .ok (Utf8.ofString ((schema base).render config)) →
      load base read (some path) = .ok config) ∧
    ∀ (environment sock lock given : Option Path) (seed : Bool) (effective : DaemonConfig),
      Settings.ofRun ⟨base, environment, read⟩ sock lock given seed = .ok effective ↔
        ∃ loaded, load base read (source given environment) = .ok loaded ∧
          ∀ setting : Setting, setting.get effective =
            (setting.flag? sock lock seed).getD (setting.get loaded) :=
  ⟨fun _ _ hheld hfile => ⟨exists_load_iff hheld hfile, fun _ => load_eq_ok_iff_told hheld hfile,
      fun _ _ hheld' hfile' hsame _ => load_congr hheld hfile hheld' hfile' hsame⟩,
    fun _ _ htold hread => load_render htold hread,
    fun _ _ _ _ _ _ => ofRun_eq_ok_iff⟩

/-- Three files: one with an unknown key at the top and another in a group, and an address of
version 6; the same without these keys and in another order; and the settings of
both, written out. -/
theorem settings_told_partial :
    let file : Json := .object [("rpc", .object [("port", .null), ("idle_timeout_ms", .int 100)]),
      ("comment", .array [.string "rpc"]), ("http", .object [("host", .string "::1")]),
      ("sock_file", .string "/tmp/custom.sock"), ("drain_timeout_ms", .int 1500)]
    let file' : Json := .object [("drain_timeout_ms", .int 1500),
      ("sock_file", .string "/tmp/custom.sock"), ("http", .object [("host", .string "::1")]),
      ("rpc", .object [("idle_timeout_ms", .int 100)])]
    let base := inDirectory "/run/user/7"
    let config : DaemonConfig := {
      lockFile := "/run/user/7/todo-daemon.lock"
      sockFile := "/tmp/custom.sock"
      drainTimeoutMs := some 1500
      server := {
        http := { host := .v6 [0, 0, 0, 0, 0, 0, 0, 1] }
        rpc := { idleTimeoutMs := 100 } } }
    let read (path : Path) : Except SystemFault Bytes :=
      if path = "/a" then .ok (Utf8.ofString file.render)
      else if path = "/b" then .ok (Utf8.ofString file'.render)
      else .ok (Utf8.ofString ((schema base).render config))
    Holds read "/a" file ∧ Setting.IsFile file ∧ Holds read "/b" file' ∧ Setting.IsFile file' ∧
      Setting.SaySame file file' ∧ load base read (some "/a") = .ok config ∧
      load base read (some "/b") = .ok config ∧
      (∀ setting : Setting, setting.IsTold (setting.get config)) ∧
      load base read (some "/c") = .ok config ∧
      Settings.ofRun ⟨base, some "/a", read⟩ none (some "/l") none true =
        .ok { config with
          lockFile := "/l"
          server := { config.server with seedDemoTasks := true } } := by
  intro file file' base config read
  have hidle : (Number.int 100).ReadsBack := Number.readsBack_int (by decide) (by decide)
  have hdrain : (Number.int 1500).ReadsBack := Number.readsBack_int (by decide) (by decide)
  have hheld : Holds read "/a" file :=
    ⟨file.render, if_pos rfl, Json.parse_render (by repeat' first | assumption | constructor)⟩
  have hheld' : Holds read "/b" file' :=
    ⟨file'.render, (if_neg (by decide)).trans (if_pos rfl),
      Json.parse_render (by repeat' first | assumption | constructor)⟩
  have hfile : Setting.IsFile file := ⟨by decide, by decide⟩
  have hfile' : Setting.IsFile file' := ⟨by decide, by decide⟩
  have hsame : Setting.SaySame file file' := by
    intro setting
    cases setting with
    | host | requestTimeout | idleTimeout | writeTimeout => exact List.Perm.refl _
    | _ => exact List.Perm.swap _ _ _
  have htold : ∀ setting : Setting, setting.told base file = some (setting.get config) := by
    intro setting
    cases setting <;> rfl
  have hwritten : ∀ setting : Setting, setting.IsTold (setting.get config) := by
    have hdrain : ∀ n ∈ some 1500, n < 18446744073709551616 := by decide
    have hhost : (Ip.v6 [0, 0, 0, 0, 0, 0, 0, 1]).IsProper := by decide
    have hidle : 100 < 18446744073709551616 := by decide
    intro setting
    cases setting with
    | lockFile | sockFile => exact Utf8.isText_encode _
    | seedDemoTasks => trivial
    | requestTimeout | writeTimeout => exact (by decide : 10000 < 18446744073709551616)
    | _ => assumption
  obtain ⟨hfiles, hrender, hrun⟩ := settings_told "/run/user/7" read
  obtain ⟨-, hload, hcongr⟩ := hfiles "/a" file hheld hfile
  have hconfig := (hload config).mpr htold
  refine ⟨hheld, hfile, hheld', hfile', hsame, hconfig, ?_, hwritten, ?_, ?_⟩
  · exact (hcongr "/b" file' hheld' hfile' hsame config).mp hconfig
  · exact hrender "/c" config hwritten rfl
  · exact (hrun _ _ _ _ _ _).mpr ⟨config, hconfig, fun setting => by cases setting <;> rfl⟩

end DaemonConfig

end TaskDaemon
