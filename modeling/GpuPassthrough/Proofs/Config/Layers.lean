import GpuPassthrough.CommandLine.Layers
import GpuPassthrough.Proofs.CommandLine.Precedence
import GpuPassthrough.Proofs.Config.Loading

/-!
# Where Settings Come From

Each setting of a run comes from its own flag, else from the environment variable that stands in for
the flag, else from the configuration file, else it is as it is by default. The timeout has no flag.
A run has no configuration if the file on its own cannot be used, or if what all layers give together
cannot.

## Main results

* `Arguments.layer_overlay`: the settings under some flags.
* `CommandLine.IsAccepted.layer_eq`: which settings flags and environment give.
* `baseConfig_cases`: what the file gives, or that it cannot be used.
* `exists_isLayered`: where the settings of a run come from, and when there are none.
-/

namespace GpuPassthrough

open CommandLine (IsAccepted IsReadAs Spells source?)

/-! ### Flags as settings -/

/-- The value of a flag as that of a setting. -/
def FlagValue.setting : FlagValue → SettingValue
  | text s => .text s
  | port n => .port n

/-- The flag of a setting. The timeout has none. -/
def ConfigField.flag? : ConfigField → Option Flag
  | deviceNamespace => some .deviceNamespace
  | gpuAlias => some .gpuAlias
  | switchAlias => some .switchAlias
  | cdiRoot => some .cdiRoot
  | cdiVendor => some .cdiVendor
  | hostRoot => some .hostRoot
  | sysfsRoot => some .sysfsRoot
  | vfioRoot => some .vfioRoot
  | pluginDirectory => some .pluginDirectory
  | kubeletSocket => some .kubeletSocket
  | timeoutSeconds => none
  | logLevel => some .logLevel
  | metricsPort => some .metricsPort

/-- What the text of a flag says of its setting. -/
def Flag.setting? (flag : Flag) (s : String) : Option SettingValue :=
  (flag.read s).toOption.map FlagValue.setting

/-- The settings that arguments give, by the flags that they spell. -/
def flagLayer (spelled : List (Flag × String)) : Layer := fun field =>
  field.flag?.bind fun flag => (spelled.lookup flag).bind flag.setting?

/-- The settings that the environment gives, by the variables that stand in for flags. -/
def environmentLayer (env : Environment) : Layer := fun field =>
  field.flag?.bind fun flag => (env.lookup flag.environmentName).bind flag.setting?

/-- The settings of the flags that were read. -/
def Arguments.layer (a : Arguments) : Layer := fun field =>
  field.flag?.bind fun flag => (a.lookup flag).map FlagValue.setting

variable {t : FileTree} {args : List String} {env : Environment} {a : Arguments} {c : Config}
  {spelled : List (Flag × String)} {flag : Flag}

/-- A flag that is no port has a text for its value. -/
theorem Flag.eq_text_of_read {s : String} {value : FlagValue} (hread : flag.read s = .ok value)
    (hkind : flag.kind ≠ .port) : value = .text s := by
  rw [Flag.read] at hread
  split at hread
  · exact (Except.ok.inj hread).symm
  · split at hread
    · cases hread
    · exact (Except.ok.inj hread).symm
  · next hport => exact absurd hport hkind

/-- A port has a number for its value. -/
theorem Flag.exists_port_of_read {s : String} {value : FlagValue} (hread : flag.read s = .ok value)
    (hkind : flag.kind = .port) : ∃ n, value = .port n := by
  rw [Flag.read, hkind] at hread
  dsimp only at hread
  rw [Flag.readPort] at hread
  split at hread
  · next n _ => exact ⟨UInt16.ofNat n, (Except.ok.inj hread).symm⟩
  · cases hread

/-- Flags whose values are what they make of texts. -/
def Arguments.AreRead (a : Arguments) : Prop :=
  ∀ flag value, a.lookup flag = some value → ∃ s, IsReadAs flag s value

namespace Arguments

/-- A flag that is no port gives a text. -/
theorem map_text? (ha : a.AreRead) (hkind : flag.kind ≠ .port) :
    (a.text? flag).map SettingValue.text = (a.lookup flag).map FlagValue.setting := by
  rw [text?]
  cases hlookup : a.lookup flag with
  | none => rfl
  | some value =>
    obtain ⟨s, hread⟩ := ha flag value hlookup
    rw [Flag.eq_text_of_read hread hkind]
    rfl

/-- A port gives a number. -/
theorem map_port? (ha : a.AreRead) (hkind : flag.kind = .port) :
    (a.port? flag).map SettingValue.port = (a.lookup flag).map FlagValue.setting := by
  rw [port?]
  cases hlookup : a.lookup flag with
  | none => rfl
  | some value =>
    obtain ⟨s, hread⟩ := ha flag value hlookup
    obtain ⟨n, rfl⟩ := Flag.exists_port_of_read hread hkind
    rfl

/-- What an optional text is by default, as a setting. -/
theorem some_getD (text : Option String) (default : String) :
    some (SettingValue.text (text.getD default)) =
      (text.map SettingValue.text).or (some (.text default)) := by
  cases text <;> rfl

/-- **The settings under some flags** are those of the flags over the others. -/
theorem layer_overlay (ha : a.AreRead) (c : Config) :
    (a.overlay c).layer = a.layer.above c.layer := by
  have htext : ∀ flag : Flag, flag.kind ≠ .port →
      (a.lookup flag).map FlagValue.setting = (a.text? flag).map SettingValue.text :=
    fun flag hkind => (map_text? ha hkind).symm
  funext field
  cases field
  case metricsPort =>
    rw [Layer.above, layer, ConfigField.flag?, Option.bind_some, ← map_port? ha rfl]
    exact Option.map_or
  case timeoutSeconds => rfl
  case gpuAlias | switchAlias | kubeletSocket =>
    rw [Layer.above, layer, ConfigField.flag?, Option.bind_some, htext]
    · exact Option.map_or
    · decide
  all_goals
    rw [Layer.above, layer, ConfigField.flag?, Option.bind_some, htext]
    · exact some_getD _ _
    · decide

end Arguments

/-! ### Flags and environment -/

namespace CommandLine.IsAccepted

/-- Flags that were accepted are what they make of texts. -/
theorem areRead (haccepted : IsAccepted args env spelled a) : a.AreRead := by
  intro flag value hlookup
  have hrel := haccepted.values flag
  rw [hlookup] at hrel
  cases hsource : source? spelled env flag with
  | none =>
    rw [hsource] at hrel
    cases hrel
  | some s =>
    rw [hsource] at hrel
    cases hrel with
    | some hread => exact ⟨s, hread⟩

/-- The text of a flag is read. -/
theorem exists_of_source? (haccepted : IsAccepted args env spelled a) {s : String}
    (hsource : source? spelled env flag = some s) :
    ∃ value, flag.read s = .ok value ∧ a.lookup flag = some value := by
  have hrel := haccepted.values flag
  rw [hsource] at hrel
  cases hlookup : a.lookup flag with
  | none =>
    rw [hlookup] at hrel
    cases hrel
  | some value =>
    rw [hlookup] at hrel
    cases hrel with
    | some hread => exact ⟨value, hread, rfl⟩

/-- A flag without a text has no value. -/
theorem lookup_eq_none (haccepted : IsAccepted args env spelled a)
    (hsource : source? spelled env flag = none) : a.lookup flag = none := by
  have hrel := haccepted.values flag
  rw [hsource] at hrel
  cases hlookup : a.lookup flag with
  | none => rfl
  | some value =>
    rw [hlookup] at hrel
    cases hrel

/-- **Flags come before the environment.** -/
theorem layer_eq (haccepted : IsAccepted args env spelled a) :
    a.layer = (flagLayer spelled).above (environmentLayer env) := by
  funext field
  rw [Arguments.layer, Layer.above, flagLayer, environmentLayer]
  cases field.flag? with
  | none => rfl
  | some flag =>
    rw [Option.bind_some, Option.bind_some, Option.bind_some]
    have hsetting : ∀ s, source? spelled env flag = some s →
        (a.lookup flag).map FlagValue.setting = flag.setting? s ∧ (flag.setting? s).isSome := by
      intro s hsource
      obtain ⟨value, hread, hlookup⟩ := haccepted.exists_of_source? hsource
      rw [hlookup, Flag.setting?, hread]
      exact ⟨rfl, rfl⟩
    cases hspelled : spelled.lookup flag with
    | some s =>
      obtain ⟨hvalue, hsome⟩ := hsetting s (by rw [source?, hspelled, Option.some_or])
      rw [hvalue, Option.bind_some, Option.or_of_isSome hsome]
    | none =>
      rw [Option.bind_none, Option.none_or]
      cases henv : env.lookup flag.environmentName with
      | some s =>
        obtain ⟨hvalue, -⟩ := hsetting s (by rw [source?, hspelled, henv, Option.none_or])
        rw [hvalue, Option.bind_some]
      | none =>
        have hsource : source? spelled env flag = none := by
          rw [source?, hspelled, henv, Option.none_or]
        rw [haccepted.lookup_eq_none hsource]
        rfl

/-- The configuration file is the one that a flag or the environment names. -/
theorem text?_configFile (haccepted : IsAccepted args env spelled a) :
    a.text? .configFile = source? spelled env .configFile := by
  rw [Arguments.text?]
  cases hsource : source? spelled env .configFile with
  | none => rw [haccepted.lookup_eq_none hsource]
  | some s =>
    obtain ⟨value, hread, hlookup⟩ := haccepted.exists_of_source? hsource
    rw [hlookup, Flag.eq_text_of_read hread (by decide)]

end CommandLine.IsAccepted

/-! ### The file -/

/-- **What a configuration file gives**, if one is named: the settings of the document that it holds,
if that describes a configuration. -/
inductive FileGives (t : FileTree) : Option String → Layer → Prop
  | unnamed : FileGives t none .empty
  | named {path : String} {document : Json} {c : Config}
      (hholds : Config.HoldsJson t path document) (hdescribes : Config.Describes document c) :
      FileGives t (some path) document.layer

/-- **A configuration file that cannot be used**: it cannot be read, holds no document, holds one that
describes no configuration, or gives settings that are not usable. -/
inductive FileFails (t : FileTree) : Option String → Prop
  | unreadable {path : String} {cause : IoFailure} (hread : t.readText path = .error cause) :
      FileFails t (some path)
  | notJson {path content : String} (hread : t.readText path = .ok content)
      (hjson : ∀ document, ¬ Json.IsTextOf content document) : FileFails t (some path)
  | noConfig {path : String} {document : Json} (hholds : Config.HoldsJson t path document)
      (hnone : ∀ c, ¬ Config.Describes document c) : FileFails t (some path)
  | unusable {path : String} {file : Layer} (hfile : FileGives t (some path) file)
      (hunusable : (file.above Config.defaults).IsUnusable) : FileFails t (some path)

/-- A file gives one layer. -/
theorem FileGives.unique {path : Option String} {file other : Layer} (hfile : FileGives t path file)
    (hother : FileGives t path other) : file = other := by
  cases hfile with
  | unnamed =>
    cases hother
    rfl
  | named hholds _ =>
    cases hother with
    | named hholds' _ => rw [hholds.unique hholds']

/-- A file that cannot be used does not give a usable configuration. -/
theorem FileFails.isUnusable {path : Option String} (hfails : FileFails t path) {file : Layer}
    (hfile : FileGives t path file) : (file.above Config.defaults).IsUnusable := by
  cases hfails with
  | unreadable hread =>
    cases hfile with
    | named hholds _ =>
      obtain ⟨content, hread', -⟩ := hholds
      cases hread.symm.trans hread'
  | notJson hread hjson =>
    cases hfile with
    | named hholds _ =>
      obtain ⟨content, hread', htext⟩ := hholds
      obtain rfl := Except.ok.inj (hread.symm.trans hread')
      exact absurd htext (hjson _)
  | noConfig hholds hnone =>
    cases hfile with
    | named hholds' hdescribes =>
      obtain rfl := hholds.unique hholds'
      exact absurd hdescribes (hnone _)
  | unusable hfile' hunusable => exact hfile.unique hfile' ▸ hunusable

/-- A document gives the settings of the configuration that it describes. -/
theorem layer_of_describes {document : Json} (hdescribes : Config.Describes document c) :
    c.layer = document.layer.above Config.defaults :=
  Config.layer_ofJson? (Config.ofJson?_eq_some_iff.2 hdescribes)

/-- Whatever a file is refused for, it cannot be used. -/
theorem FileFails.of_fails {path reason : String} (hfails : Config.Fails t path reason) :
    FileFails t (some path) := by
  have hunusable : ∀ {document : Json} {c : Config}, Config.HoldsJson t path document →
      Config.Describes document c → c.validate ≠ .ok () → FileFails t (some path) := by
    intro document c hholds hdescribes hinvalid
    refine .unusable (.named hholds hdescribes) ?_
    rw [← layer_of_describes hdescribes]
    exact Config.isUnusable_layer_iff.2 hinvalid
  cases hfails with
  | unreadable hread => exact .unreadable (Config.readText_of_error hread)
  | notText hread htext =>
    have hread' := Config.readText_of_read hread
    rw [htext] at hread'
    exact .unreadable hread'
  | notJson hread hjson => exact .notJson hread hjson
  | noConfig hholds hnone => exact .noConfig hholds hnone
  | emptyNamespace hholds hdescribes hempty =>
    exact hunusable hholds hdescribes (by simp [Config.validate, hempty])
  | emptyVendor hholds hdescribes hnamespace hempty =>
    exact hunusable hholds hdescribes (by simp [Config.validate, hnamespace, hempty])
  | zeroTimeout hholds hdescribes hnamespace hvendor hzero =>
    exact hunusable hholds hdescribes (by simp [Config.validate, hnamespace, hvendor, hzero])

/-- **The layer below the flags**: what the file gives over the defaults, unless the file cannot be
used. -/
theorem baseConfig_cases (t : FileTree) (a : Arguments) :
    (∃ base file, baseConfig t a = .ok base ∧ FileGives t (a.text? .configFile) file ∧
        ¬ FileFails t (a.text? .configFile) ∧ base.layer = file.above Config.defaults) ∨
      ∃ path fault, baseConfig t a = .error (.file path fault) ∧
        FileFails t (a.text? .configFile) := by
  rw [baseConfig]
  cases a.text? .configFile with
  | none => exact .inl ⟨{}, .empty, rfl, .unnamed, nofun, rfl⟩
  | some path =>
    dsimp only
    obtain ⟨document, base, hholds, hdescribes, hvalid, hload⟩ | ⟨fault, hfails, hload⟩ :=
      Config.load_cases t path
    · have hfile : FileGives t (some path) document.layer := .named hholds hdescribes
      have hlayer := layer_of_describes hdescribes
      rw [hload]
      refine .inl ⟨base, document.layer, rfl, hfile, fun hfails => ?_, hlayer⟩
      have hunusable := hfails.isUnusable hfile
      rw [← hlayer] at hunusable
      exact Config.isUnusable_layer_iff.1 hunusable hvalid
    · rw [hload]
      exact .inr ⟨path, fault, rfl, .of_fails hfails⟩

/-! ### All layers -/

/-- **The settings of all layers**: flags over the environment over the file over the defaults. -/
def merged (spelled : List (Flag × String)) (env : Environment) (file : Layer) : Layer :=
  (flagLayer spelled).above ((environmentLayer env).above (file.above Config.defaults))

/-- The error of the plugin that a fault is. One of the command line is reported by the command
line's own words. -/
def SetupFault.error? : SetupFault → Option PluginError
  | usage _ => none
  | file _ fault => some fault.toError
  | merged fault => some fault.toError

/-- A run that has no configuration, and why it is refused. -/
def IsRefused (outcome : Except SetupFault Config) : Prop :=
  ∃ fault message, outcome = .error fault ∧ fault.error? = some (.invalidConfig message)

/-- **A configuration that a layer makes up.** -/
structure IsMadeUp (layer : Layer) (c : Config) : Prop where
  /-- Each setting is that of the layer. -/
  settings : c.layer = layer
  /-- The socket of the kubelet is the one that is set. -/
  socket : ∀ socket, layer .kubeletSocket = some (.text socket) → c.kubeletSocketPath = socket
  /-- Where none is set, it is in the directory of the plugin sockets. -/
  derivedSocket : layer .kubeletSocket = none → ∃ directory,
    layer .pluginDirectory = some (.text directory) ∧
      c.kubeletSocketPath = Path.join directory "kubelet.sock"
  /-- A category goes by the alias that is set, and by none if that is empty. -/
  aliases : ∀ switch name, c.aliasFor switch = some name ↔
    layer (.alias switch) = some (.text name) ∧ name ≠ ""

/-- A configuration is made up by its own layer. -/
theorem isMadeUp_layer (c : Config) : IsMadeUp c.layer c where
  settings := rfl
  socket _ hsocket := Config.kubeletSocketPath_of_some hsocket
  derivedSocket hsocket := ⟨c.pluginDirectory, rfl, Config.kubeletSocketPath_of_none hsocket rfl⟩
  aliases _ _ := Config.aliasFor_eq_some_iff_layer

/-- **Where the settings of a run come from**, and when it has none. -/
structure IsLayered (t : FileTree) (args : List String) (env : Environment)
    (spelled : List (Flag × String)) : Prop where
  /-- The arguments spell flags with values, -/
  spells : Spells (args.map String.toList) spelled
  /-- in this way only, -/
  only : ∀ others, Spells (args.map String.toList) others → others = spelled
  /-- no flag twice, -/
  once : (spelled.map Prod.fst).Nodup
  /-- and a flag is read from its text, or from that of its environment variable. -/
  readable : ∀ flag s, source? spelled env flag = some s → ∃ value, flag.read s = .ok value
  /-- A configuration is made up by all layers together. -/
  settings : ∀ c, configure t args env = .ok c → ∃ file,
    FileGives t (source? spelled env .configFile) file ∧ IsMadeUp (merged spelled env file) c
  /-- A run has a configuration or is refused. -/
  outcome : (∃ c, configure t args env = .ok c) ∨ IsRefused (configure t args env)
  /-- It is refused exactly if the file cannot be used, or what all layers give together cannot. -/
  refused : IsRefused (configure t args env) ↔
    FileFails t (source? spelled env .configFile) ∨
      ∃ file, FileGives t (source? spelled env .configFile) file ∧
        (merged spelled env file).IsUnusable

/-- What a run makes of a command line that is accepted. -/
theorem configure_cases (t : FileTree) (hread : CommandLine.read args env = .ok a)
    (haccepted : IsAccepted args env spelled a) :
    (∃ c file, configure t args env = .ok c ∧
        FileGives t (source? spelled env .configFile) file ∧
        ¬ FileFails t (source? spelled env .configFile) ∧ c.layer = merged spelled env file ∧
        ¬ (merged spelled env file).IsUnusable) ∨
      IsRefused (configure t args env) ∧
        (FileFails t (source? spelled env .configFile) ∨
          ∃ file, FileGives t (source? spelled env .configFile) file ∧
            (merged spelled env file).IsUnusable) := by
  have hbase := baseConfig_cases t a
  rw [haccepted.text?_configFile] at hbase
  rw [configure, hread]
  dsimp only
  obtain ⟨base, file, hbase, hfile, hfine, hlayer⟩ | ⟨path, fault, hbase, hfails⟩ := hbase
  · have hmerged : (a.overlay base).layer = merged spelled env file := by
      rw [Arguments.layer_overlay haccepted.areRead, haccepted.layer_eq, hlayer, merged,
        Layer.above_assoc]
    have hunusable := Config.isUnusable_layer_iff (c := a.overlay base)
    rw [hmerged] at hunusable
    rw [hbase]
    dsimp only
    cases hvalid : (a.overlay base).validate with
    | ok _ =>
      refine .inl ⟨a.overlay base, file, rfl, hfile, hfine, hmerged, fun hnot => ?_⟩
      exact hunusable.1 hnot hvalid
    | error fault =>
      refine .inr ⟨⟨_, _, rfl, rfl⟩, .inr ⟨file, hfile, hunusable.2 ?_⟩⟩
      rw [hvalid]
      exact nofun
  · rw [hbase]
    exact .inr ⟨⟨_, _, rfl, rfl⟩, .inl hfails⟩

/-- **Where the settings of a run come from**, for every command line that is accepted. -/
theorem exists_isLayered (t : FileTree) (args : List String) (env : Environment) (a : Arguments)
    (hread : CommandLine.read args env = .ok a) : ∃ spelled, IsLayered t args env spelled := by
  obtain ⟨spelled, haccepted⟩ := CommandLine.exists_isAccepted hread
  have hcases := configure_cases t hread haccepted
  refine ⟨spelled, haccepted.spells, ?_, haccepted.nodup, ?_, ?_, ?_, ?_⟩
  · exact fun others hothers => hothers.unique haccepted.spells
  · intro flag s hsource
    obtain ⟨value, hvalue, -⟩ := haccepted.exists_of_source? hsource
    exact ⟨value, hvalue⟩
  · intro c hok
    obtain ⟨other, file, hother, hfile, -, hlayer, -⟩ | ⟨⟨fault, message, herror, -⟩, -⟩ := hcases
    · obtain rfl := Except.ok.inj (hok.symm.trans hother)
      exact ⟨file, hfile, hlayer ▸ isMadeUp_layer c⟩
    · cases hok.symm.trans herror
  · obtain ⟨c, file, hok, -⟩ | ⟨hrefused, -⟩ := hcases
    · exact .inl ⟨c, hok⟩
    · exact .inr hrefused
  · obtain ⟨c, file, hok, hfile, hfine, -, husable⟩ | ⟨hrefused, hcause⟩ := hcases
    · refine iff_of_false ?_ ?_
      · rintro ⟨fault, message, herror, -⟩
        cases hok.symm.trans herror
      · rintro (hfails | ⟨other, hother, hunusable⟩)
        · exact hfine hfails
        · exact husable (hfile.unique hother ▸ hunusable)
    · exact iff_of_true hrefused hcause

/-- A host with a configuration file that gives an alias, a vendor and the root of its devices. -/
def aliasedHost : FileTree :=
  FileTree.empty.set [.text "plugin.json"]
    (.file (.text ("\x7b\x22pgpu_alias\x22: \x22gpu\x22, \x22cdi_vendor\x22: \x22a.example\x22, " ++
      "\x22vfio_root\x22: \x22/srv/vfio\x22\x7d")))

/-- An empty flag, variables and a file together: the alias of the file is switched off by the flag,
its vendor gives way to that of the environment, and its root arrives. -/
theorem exists_isLayered_aliasedHost :
    let args := ["-c", "/plugin.json", "--pgpu-alias=", "--device-plugin-path", "/srv/plugins"]
    let env := [("PGPU_ALIAS", "pgpu"), ("CDI_VENDOR", "b.example")]
    let a : Arguments := [(.configFile, .text "/plugin.json"), (.gpuAlias, .text ""),
      (.pluginDirectory, .text "/srv/plugins"), (.cdiVendor, .text "b.example")]
    CommandLine.read args env = .ok a ∧
      configure aliasedHost args env = .ok {
        gpuAlias := some "", cdiVendor := "b.example"
        vfioRoot := "/srv/vfio", pluginDirectory := "/srv/plugins" } ∧
      ∃ spelled, IsLayered aliasedHost args env spelled := by
  intro args env a
  have hread : CommandLine.read args env = .ok a := by decide +kernel
  exact ⟨hread, by decide +kernel, exists_isLayered aliasedHost args env a hread⟩

end GpuPassthrough
