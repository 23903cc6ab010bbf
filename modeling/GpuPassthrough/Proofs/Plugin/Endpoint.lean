import GpuPassthrough.Daemon.Run
import GpuPassthrough.Proofs.Naming
import GpuPassthrough.Proofs.Plugin.Partition
import GpuPassthrough.Proofs.Snapshot.Classes

/-!
# Where the Kubelet Looks for a Plugin

A plugin registers with the file name of its socket, and the kubelet looks for that name in the
directory of the plugin sockets. The socket is called after the class. A slash in the name of the
class puts the socket into a directory further down, of which the file name tells nothing. Names of
devices and numbers of classes have no slash, so it takes an alias to bring one in.

## Main results

* `Instance.isFound_iff`: a plugin is found exactly if its class name has no slash.
* `allFound_ofDevices_iff`: all plugins of a snapshot are found exactly if no class goes by an alias
  with a slash.
* `notFound_nestedAlias`: a usable configuration whose plugin is not found.
-/

namespace GpuPassthrough

/-! ### Sockets and their file names -/

namespace PluginSocket

/-- The name of the socket of a class, letter by letter. -/
theorem toList_fileName (className : String) :
    (fileName className).toList = "sandbox-".toList ++ className.toList ++ ".sock".toList := by
  rw [fileName, String.toList_append, String.toList_append]

/-- The name of a class brings the only slashes into that of its socket. -/
theorem slash_mem_fileName_iff {className : String} :
    '/' ∈ (fileName className).toList ↔ '/' ∈ className.toList := by
  simp [toList_fileName]

/-- The socket of a class stands below its directory, as far down as its name goes. -/
theorem components_path (directory className : String) :
    Path.components (path directory className) =
      Path.components directory ++
        (Path.pieces (fileName className)).filterMap Path.component? := by
  refine Path.components_join ?_ ?_ directory
  · rw [Path.isAbsolute, toList_fileName]
    rfl
  · obtain ⟨piece, rest, -, hsplit⟩ :=
      Path.exists_splitSlashes_append (show '/' ∉ "sandbox-".toList by decide)
        (className.toList ++ ".sock".toList)
    rw [Path.pieces, toList_fileName, List.append_assoc, hsplit]
    intro hdot
    have hlist := congrArg String.toList (Option.some.inj hdot)
    rw [String.toList_ofList] at hlist
    exact absurd (congrArg List.length hlist) (by simp)

/-- **A slash takes a socket further down**: its name leads through a directory first. -/
theorem exists_pieces_fileName {className : String} (hslash : '/' ∈ className.toList) :
    ∃ first between last, '/' ∉ last.toList ∧ Path.component? last = some (.name last) ∧
      (Path.pieces (fileName className)).filterMap Path.component? =
        .name first :: between ++ [.name last] := by
  -- The last slash of the name.
  obtain ⟨after, before, hreverse, hlast⟩ :=
    List.eq_append_cons_of_mem (List.mem_reverse.2 hslash)
  have hclass : className.toList = before.reverse ++ '/' :: after.reverse := by
    have hback := congrArg List.reverse hreverse
    simpa using hback
  obtain ⟨piece, rest, -, hfirst⟩ :=
    Path.exists_splitSlashes_append (show '/' ∉ "sandbox-".toList by decide) before.reverse
  have hsplit : Path.splitSlashes (fileName className).toList =
      ("sandbox-".toList ++ piece) :: rest ++ [after.reverse ++ ".sock".toList] := by
    have hend : '/' ∉ after.reverse ++ ".sock".toList := by simpa using hlast
    rw [toList_fileName, hclass, ← List.append_assoc, List.append_assoc _ _ ".sock".toList,
      List.cons_append, Path.splitSlashes_append_slash, hfirst,
      Path.splitSlashes_of_not_mem hend]
  have hname : ∀ {s : List Char}, 2 < s.length →
      Path.component? (String.ofList s) = some (.name (String.ofList s)) := by
    intro s hlong
    exact Path.component?_of_lt_length (by rwa [String.length_ofList])
  refine ⟨String.ofList ("sandbox-".toList ++ piece),
    (rest.map String.ofList).filterMap Path.component?,
    String.ofList (after.reverse ++ ".sock".toList), ?_, hname (by simp), ?_⟩
  · simpa using hlast
  · rw [Path.pieces, hsplit, List.map_append, List.map_cons, List.filterMap_append,
      List.filterMap_cons_some (hname (by simp)), List.map_singleton,
      List.filterMap_cons_some (hname (by simp)), List.filterMap_nil]

end PluginSocket

namespace Instance

/-! ### Plugins that are found -/

/-- **The kubelet finds a plugin**: the endpoint with which the plugin registers, in the directory
of the plugin sockets, is the socket on which it serves, and that stands in the directory. -/
structure IsFound (p : Instance) : Prop where
  dialled : SamePath (Path.join p.config.pluginDirectory (Site.registrationOf p).endpoint)
    p.socketPath
  child : Path.IsChild p.config.pluginDirectory p.socketPath

variable (p : Instance)

/-- A plugin whose class has no slash in its name registers with the name of its socket. -/
theorem endpoint_of_not_mem (hslash : '/' ∉ p.className.toList) :
    (Site.registrationOf p).endpoint = PluginSocket.fileName p.className := by
  have hname := Path.fileName?_join (mt PluginSocket.slash_mem_fileName_iff.1 hslash)
    (PluginSocket.component?_fileName p.className) p.config.pluginDirectory
  rw [Site.registrationOf, socketPath, PluginSocket.path, hname, Option.getD_some]

/-- A slash in the name of the class takes the socket out of the directory, and the endpoint does
not lead to it. -/
theorem not_child_of_mem (hslash : '/' ∈ p.className.toList) :
    ¬ Path.IsChild p.config.pluginDirectory p.socketPath ∧
      ¬ SamePath (Path.join p.config.pluginDirectory (Site.registrationOf p).endpoint)
        p.socketPath := by
  obtain ⟨first, between, last, hlast, hname, hsteps⟩ :=
    PluginSocket.exists_pieces_fileName hslash
  have hcomponents := PluginSocket.components_path p.config.pluginDirectory p.className
  rw [hsteps] at hcomponents
  have hchild : ¬ Path.IsChild p.config.pluginDirectory p.socketPath := by
    rintro ⟨name, hone⟩
    have hlength := congrArg List.length (hcomponents.symm.trans hone)
    simp at hlength
  have hendpoint : (Site.registrationOf p).endpoint = last := by
    rw [Site.registrationOf, Path.fileName?, socketPath, hcomponents, ← List.append_assoc,
      List.getLast?_concat]
    rfl
  refine ⟨hchild, fun hdialled => hchild ?_⟩
  rw [hendpoint] at hdialled
  exact (Path.isChild_congr hdialled).1 (Path.isChild_join hlast hname _)

/-- **A plugin is found exactly if its class name has no slash.** -/
theorem isFound_iff : p.IsFound ↔ '/' ∉ p.className.toList := by
  refine ⟨fun hfound hslash => (p.not_child_of_mem hslash).1 hfound.child, fun hslash => ?_⟩
  refine ⟨?_, Path.isChild_join (mt PluginSocket.slash_mem_fileName_iff.1 hslash)
    (PluginSocket.component?_fileName _) _⟩
  rw [p.endpoint_of_not_mem hslash]
  exact .refl _

end Instance

/-! ### Names without slashes -/

/-- The formatted name of a device has no slash. -/
theorem Snapshot.slash_not_mem_deviceName (s : Snapshot) (classId : String) :
    '/' ∉ (s.deviceName classId).toList := by
  rw [deviceName]
  split
  · intro hslash
    have hformat := Naming.mem_of_mem_trimSeparators hslash
    rw [Naming.format, String.toList_ofList] at hformat
    exact absurd (Naming.isNameChar_of_mem_formatChars hformat) (by decide)
  · simp

/-- The number of a class has no slash. -/
theorem PassthroughDevice.slash_not_mem_classId (d : PassthroughDevice) :
    '/' ∉ d.classId.toList := by
  intro hslash
  have hdigit : ∀ n : Fin 16, '/' ≠ Text.hexDigit n := by decide
  obtain ⟨n, hn⟩ := Text.exists_of_mem_hexWord hslash
  exact hdigit n hn

/-- Every class of a snapshot is the class of a device. -/
theorem Snapshot.exists_device_of_mem_classes {handles : Bool} {devices : List PassthroughDevice}
    {owner : String × List String} (howner : owner ∈ (ofDevices handles devices).classes) :
    ∃ d : PassthroughDevice, d.classId = owner.1 := by
  obtain ⟨key, keys, hkeys⟩ :=
    List.exists_cons_of_ne_nil (ne_nil_of_mem_classes handles devices owner howner)
  have hentry : (owner.1, key) ∈ Index.entries (ofDevices handles devices).classes :=
    Index.mem_entries_iff.2 ⟨owner.2, howner, hkeys ▸ List.mem_cons_self⟩
  obtain ⟨first, -, -, hclass⟩ := entries_classes_ofDevices.1 hentry
  exact ⟨first, hclass⟩

/-- **Only an alias brings a slash into the name of a class.** -/
theorem Snapshot.slash_mem_displayName_iff {handles : Bool} {devices : List PassthroughDevice}
    {c : Config} {owner : String × List String}
    (howner : owner ∈ (ofDevices handles devices).classes) :
    '/' ∈ ((ofDevices handles devices).displayName c owner.1).toList ↔
      ∃ name, c.aliasFor ((ofDevices handles devices).isSwitchClass owner.1) = some name ∧
        '/' ∈ name.toList := by
  rw [displayName]
  cases c.aliasFor ((ofDevices handles devices).isSwitchClass owner.1) with
  | some name => simp
  | none =>
    obtain ⟨d, hclass⟩ := exists_device_of_mem_classes howner
    refine iff_of_false ?_ (by simp)
    rw [Option.getD_none, plainName]
    split
    · exact hclass ▸ d.slash_not_mem_classId
    · exact slash_not_mem_deviceName _ _

/-! ### All plugins of a snapshot -/

/-- Whether the kubelet finds every plugin that is planned for a snapshot, wherever its device nodes
and its site are. -/
def AllFound (s : Snapshot) (c : Config) : Prop :=
  ∀ plan ∈ PluginPlan.ofSnapshot s c, ∀ deviceRoot site,
    ((PluginKind.deployed c s).create plan.className deviceRoot plan.advertised site).2.IsFound

/-- The plugins of any snapshot are found if their classes go by names without slashes. -/
theorem allFound_iff {s : Snapshot} {c : Config} :
    AllFound s c ↔ ∀ owner ∈ s.classes, '/' ∉ (s.displayName c owner.1).toList := by
  constructor
  · intro hfound owner howner
    obtain ⟨plan, hplan, hname⟩ :=
      (PluginPlan.mem_names_ofSnapshot s c).2 ⟨owner, howner, rfl⟩
    rw [← hname]
    exact (Instance.isFound_iff _).1 (hfound plan hplan "" ⟨.empty, { socketPath := "" }, []⟩)
  · intro hslash plan hplan deviceRoot site
    obtain ⟨owner, howner, hname⟩ := (PluginPlan.mem_names_ofSnapshot s c).1 ⟨plan, hplan, rfl⟩
    have hclass := hslash owner howner
    rw [hname] at hclass
    exact (Instance.isFound_iff _).2 hclass

/-- **When the kubelet finds every plugin**, whatever was found and however it is configured: exactly
if no class goes by an alias with a slash. -/
theorem allFound_ofDevices_iff (handles : Bool) (devices : List PassthroughDevice) (c : Config) :
    AllFound (Snapshot.ofDevices handles devices) c ↔
      ∀ owner ∈ (Snapshot.ofDevices handles devices).classes, ∀ name,
        c.aliasFor ((Snapshot.ofDevices handles devices).isSwitchClass owner.1) = some name →
          '/' ∉ name.toList := by
  rw [allFound_iff]
  refine forall₂_congr fun owner howner => ?_
  rw [Snapshot.slash_mem_displayName_iff howner]
  simp

/-- **A usable configuration can hide its plugin**: with a slash in the alias the plugin registers
with `y.sock` and serves on a socket below another directory. -/
theorem notFound_nestedAlias :
    let c : Config := { gpuAlias := some "x/y" }
    let s := Snapshot.ofDevices false [{ deviceId := 0x2330, name := "NVIDIA H100 SXM" }]
    c.validate = .ok () ∧ ∃ plan ∈ PluginPlan.ofSnapshot s c, ∀ deviceRoot site,
      let p := ((PluginKind.deployed c s).create plan.className deviceRoot plan.advertised site).2
      p.socketPath = "/var/lib/kubelet/device-plugins/sandbox-x/y.sock" ∧
        (Site.registrationOf p).endpoint = "y.sock" ∧
        ¬ SamePath (Path.join c.pluginDirectory (Site.registrationOf p).endpoint) p.socketPath ∧
        ¬ Path.IsChild c.pluginDirectory p.socketPath := by
  intro c s
  refine ⟨by decide, ⟨"x/y", ["0"]⟩, by decide +kernel, fun deviceRoot site => ?_⟩
  intro p
  have hslash : '/' ∈ p.className.toList :=
    show '/' ∈ "x/y".toList by decide
  obtain ⟨hchild, hdialled⟩ := p.not_child_of_mem hslash
  have hpath : p.socketPath = "/var/lib/kubelet/device-plugins/sandbox-x/y.sock" :=
    show PluginSocket.path c.pluginDirectory "x/y" = _ by decide +kernel
  have hendpoint : (Site.registrationOf p).endpoint = "y.sock" := by
    rw [Site.registrationOf, hpath]
    show (Path.fileName? "/var/lib/kubelet/device-plugins/sandbox-x/y.sock").getD "" = _
    decide +kernel
  exact ⟨hpath, hendpoint, hdialled, hchild⟩

end GpuPassthrough
