import TaskDaemon.Proofs.Daemon.Neighbours
import TaskDaemon.Proofs.Text.Utf8

/-!
# Where a daemon and its commands meet

A daemon binds the path of its socket byte for byte. Commands with the same settings find the same
path, but go on with its text, which is made for the eye: what is no text in a path is replaced
there. They also refuse an empty path, which a daemon takes. So they meet exactly if the path is a
text, and not the empty one.

* `TaskDaemon.Endpoint.parse_text_iff`: which paths are found again in their texts;
* `TaskDaemon.Machine.SharesSettings`: a later machine has the same settings to offer;
* `TaskDaemon.Machine.commands_meet_iff`: when commands dial the endpoint of the daemon;
* `TaskDaemon.Machine.commands_miss`: the two ways not to.
-/

namespace TaskDaemon

theorem Endpoint.parse_unix (address : String) : Endpoint.parse "unix" address =
    if address.isEmpty then .error (.configuration "socket path cannot be empty")
    else .ok (.unix (.ofString address)) :=
  rfl

/-- **A path is found again in its text** exactly if it is a text, and not empty. -/
theorem Endpoint.parse_text_iff (path : Path) : Endpoint.parse "unix" path.text = .ok (.unix path) ↔
    path.isEmpty = false ∧ Utf8.IsText path.bytes := by
  have hpath : Path.ofString path.text = path ↔ Utf8.IsText path.bytes := by
    rw [← Utf8.ofString_lossy_iff]
    exact ⟨congrArg Path.bytes, congrArg Path.mk⟩
  rw [Endpoint.parse_unix]
  constructor
  · intro h
    split_ifs at h with hempty
    rw [Except.ok.injEq, Endpoint.unix.injEq, hpath] at h
    refine ⟨?_, h⟩
    by_contra hne
    obtain ⟨bytes⟩ := path
    obtain rfl : bytes = [] := List.isEmpty_iff.mp ((Bool.not_eq_false _).mp hne)
    exact hempty (by decide)
  · rintro ⟨hempty, htext⟩
    have hnonempty : path.text.isEmpty = false := by
      by_contra hne
      have hnil : path.text = "" := String.isEmpty_iff.mp ((Bool.not_eq_false _).mp hne)
      have hbytes : path.bytes = [] := by
        rw [← (Utf8.ofString_lossy_iff _).mpr htext]
        exact congrArg Utf8.ofString hnil
      rw [Path.isEmpty, hbytes] at hempty
      cases hempty
    rw [hnonempty, if_neg (by decide), hpath.mpr htext]

namespace Machine

variable {machine started : Machine}

/-- **A later machine has the same settings to offer**: the environment names the same file, and
the file says the same. -/
structure SharesSettings (machine later : Machine) : Prop where
  /-- The settings where no file gives others. -/
  defaults : later.defaults = machine.defaults
  /-- The file of settings. -/
  environment : later.environment = machine.environment
  /-- What it says. -/
  contents : ∀ file, machine.environment = some file →
    later.host.tree.read file = machine.host.tree.read file

/-- **The same settings are loaded** where no file is named. -/
theorem SharesSettings.load {later : Machine} (h : machine.SharesSettings later) :
    later.settings.load none = machine.settings.load none := by
  have hload (machine : Machine) : machine.settings.load none =
      DaemonConfig.load machine.defaults machine.host.tree.read machine.environment := by
    rw [Settings.load, DaemonConfig.source]
    rfl
  rw [hload, hload, h.defaults, h.environment]
  cases henvironment : machine.environment with
  | none => rfl
  | some file => rw [DaemonConfig.load, DaemonConfig.load, h.contents file henvironment]

/-- **Commands look for the socket of a run** with the same option and settings, by the text of its
path. -/
theorem endpoint_of_ofRun {settings later : Settings} (hload : later.load none = settings.load none)
    {sock lock : Option Path} {seed : Bool} {config : DaemonConfig}
    (h : settings.ofRun sock lock none seed = .ok config) :
    later.endpoint sock = Endpoint.parse "unix" config.sockFile.text := by
  obtain ⟨loaded, hloaded, rfl⟩ := Attempt.map_eq_ok_iff.mp h
  have hsock : later.sockFile sock = .ok (sock.getD loaded.sockFile) := by
    cases sock with
    | some path => rfl
    | none =>
      rw [Settings.sockFile, hload, hloaded]
      rfl
  rw [Settings.endpoint, hsock]
  rfl

/-- **Where a daemon and its commands meet.** When a daemon was started without a file of settings
but the one that the environment names, it listens on a local socket; and whenever the environment
offers the same settings, every command that names the same socket, or none if none was named, dials
the text of its path. That is the endpoint of the daemon exactly if the path is a text and not
empty. -/
theorem commands_meet_iff (machine : Machine) (pid : Nat) (now : Instant) (sock lock : Option Path)
    (seed : Bool) (held : FileLock) (started : Machine)
    (hspawn : machine.spawn pid now ⟨sock, .run lock none seed⟩ = some (.ok held, started)) :
    ∃ daemon path, started.daemons = daemon :: machine.daemons ∧
      daemon.launched.listeners.rpc.endpoint = .unix path ∧
      ∀ later, machine.SharesSettings later →
        later.settings.endpoint sock = Endpoint.parse "unix" path.text ∧
        (later.settings.endpoint sock = .ok (.unix path) ↔
          path.isEmpty = false ∧ Utf8.IsText path.bytes) := by
  rw [spawn] at hspawn
  dsimp only at hspawn
  split at hspawn
  · cases hspawn
  case h_2 config hconfig =>
    obtain ⟨launch, host, hlaunch, -, ⟨error, hfailed, -⟩ | ⟨daemon, -, rfl, hdaemons⟩⟩ :=
      start_cases (Option.some.inj hspawn)
    · cases hfailed
    · obtain ⟨-, -, -, own, hrpc, -⟩ := Host.launch_eq_ok hlaunch
      refine ⟨daemon, config.sockFile, hdaemons, by rw [hrpc, Listener.endpoint],
        fun later hshares => ?_⟩
      have hendpoint := endpoint_of_ofRun hshares.load hconfig
      exact ⟨hendpoint, by rw [hendpoint, Endpoint.parse_text_iff]⟩

/-- Where nothing names a socket, the default is where a daemon and its commands meet. -/
theorem commands_meet_by_default :
    let machine : Machine :=
      { network := .confined 4000, defaults := { lockFile := ⟨[108]⟩, sockFile := ⟨[115]⟩ } }
    ∃ held started, machine.spawn 8 ⟨0, 0⟩ ⟨none, .run none none false⟩ =
        some (.ok held, started) ∧ machine.SharesSettings started ∧
      started.settings.endpoint none = .ok (.unix ⟨[115]⟩) := by
  intro machine
  obtain ⟨daemon, path, hdaemons, hendpoint, hmeet⟩ :=
    commands_meet_iff machine 8 ⟨0, 0⟩ none none false _ _ rfl
  cases hdaemons
  cases hendpoint
  refine ⟨_, _, rfl, ⟨rfl, rfl, nofun⟩, (hmeet _ ⟨rfl, rfl, nofun⟩).2.mpr ⟨rfl, ?_⟩⟩
  exact ⟨['s'], by decide⟩

/-- **Commands miss a daemon** whose socket has a path that is no text: they dial another path. And
they dial nothing where a file of settings names the empty path, though a daemon listens with it. -/
theorem commands_miss :
    let base : Machine :=
      { network := .confined 4000, defaults := { lockFile := ⟨[108]⟩, sockFile := ⟨[115]⟩ } }
    let content : List Char :=
      ['\x7b', '"', 's', 'o', 'c', 'k', '_', 'f', 'i', 'l', 'e', '"', ':', '"', '"', '\x7d']
    let configured : Machine :=
      base.run [.write ⟨[99]⟩ (Utf8.encode content), .environment (some ⟨[99]⟩)]
    (∃ held started daemon, base.spawn 8 ⟨0, 0⟩ ⟨some ⟨[255]⟩, .run none none false⟩ =
        some (.ok held, started) ∧ started.daemons = [daemon] ∧ base.SharesSettings started ∧
      daemon.launched.listeners.rpc.endpoint = .unix ⟨[255]⟩ ∧
      started.settings.endpoint (some ⟨[255]⟩) = .ok (.unix ⟨[239, 191, 189]⟩)) ∧
    (∃ held started daemon, configured.spawn 8 ⟨0, 0⟩ ⟨none, .run none none false⟩ =
        some (.ok held, started) ∧ started.daemons = [daemon] ∧
      configured.SharesSettings started ∧ daemon.launched.listeners.rpc.endpoint = .unix ⟨[]⟩ ∧
      started.settings.endpoint none =
        .error (.configuration "socket path cannot be empty")) := by
  intro base content configured
  constructor
  · have hshown : Path.ofString (Path.text ⟨[255]⟩) = ⟨[239, 191, 189]⟩ := by decide
    have hparse : Endpoint.parse "unix" (Path.text ⟨[255]⟩) = .ok (.unix ⟨[239, 191, 189]⟩) := by
      rw [Endpoint.parse_unix, if_neg (by decide), hshown]
    exact ⟨_, _, _, rfl, rfl, ⟨rfl, rfl, nofun⟩, rfl, hparse⟩
  · have htext : Utf8.toString? (Utf8.encode content) = some (String.ofList content) := by
      rw [Utf8.toString?, (Utf8.decode_eq_ok_iff _ _).mpr rfl]
    have hglyphs : Glyph.ofString (String.ofList content) = content.map .char := by
      rw [Glyph.ofString, String.toList_ofList]
    have hparse : DaemonConfig.parse base.defaults ⟨[99]⟩ (String.ofList content) =
        .ok { lockFile := ⟨[108]⟩, sockFile := ⟨[]⟩ } := by
      rw [DaemonConfig.parse, hglyphs]
      rfl
    have hrun : configured.settings.ofRun none none none false =
        .ok { lockFile := ⟨[108]⟩, sockFile := ⟨[]⟩ } := by
      change (DaemonConfig.load base.defaults configured.host.tree.read (some ⟨[99]⟩)).map _ = _
      have hread : configured.host.tree.read ⟨[99]⟩ = .ok (Utf8.encode content) := rfl
      rw [DaemonConfig.load, hread]
      dsimp only
      rw [htext]
      exact congrArg (Except.map _) hparse
    have hspawn : configured.spawn 8 ⟨0, 0⟩ ⟨none, .run none none false⟩ =
        some (configured.start 8 { lockFile := ⟨[108]⟩, sockFile := ⟨[]⟩ } ⟨0, 0⟩) := by
      rw [spawn]
      dsimp only
      rw [hrun]
    have hshares : configured.SharesSettings
        (configured.start 8 { lockFile := ⟨[108]⟩, sockFile := ⟨[]⟩ } ⟨0, 0⟩).2 := by
      refine ⟨rfl, rfl, ?_⟩
      intro file hfile
      cases hfile
      rfl
    refine ⟨_, _, _, hspawn.trans rfl, rfl, hshares, rfl, ?_⟩
    refine (endpoint_of_ofRun hshares.load hrun).trans ?_
    rw [Endpoint.parse_unix]
    exact if_pos (by decide)

end Machine

end TaskDaemon
