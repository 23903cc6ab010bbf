import GpuPassthrough.Proofs.Config.Settings

/-!
# The Values of Settings in a File

A setting is a text, a number of seconds or a port, and four of the settings are optional. A file
gives a text as a string, a number by its digits, as long as it is within the bounds of its setting,
and an optional setting may be null. A value changes its own setting only, and the settings are all
that there is to a configuration.

## Main results

* `ConfigField.set?_eq_some_iff`: what a value does to a configuration, and when it is refused.
* `ConfigField.IsValue.unique`: a value says one thing of its setting.
* `Config.layer_inj`: configurations with the same settings are the same.
-/

namespace GpuPassthrough

/-- The type of a setting. -/
inductive SettingType where
  | text
  | seconds
  | port
  deriving DecidableEq

namespace ConfigField

/-- The type of each setting. -/
def type : ConfigField → SettingType
  | timeoutSeconds => .seconds
  | metricsPort => .port
  | _ => .text

/-- **The settings that may be null.** -/
def IsOptional (field : ConfigField) : Prop :=
  field ∈ [gpuAlias, switchAlias, kubeletSocket, metricsPort]

instance (field : ConfigField) : Decidable field.IsOptional :=
  inferInstanceAs (Decidable (field ∈ _))

/-- **A value that a file can give a setting**, with what becomes of the setting. -/
inductive IsValue (field : ConfigField) : Json → Option SettingValue → Prop
  | null (hoptional : field.IsOptional) : IsValue field .null none
  | text {units : List JsonUnit} {s : String} (htype : field.type = .text)
      (htext : JsonUnit.text? units = some s) : IsValue field (.string units) (some (.text s))
  | seconds {spelling : List Char} {n : Nat} (htype : field.type = .seconds)
      (hdigits : ∀ c ∈ spelling, c.isDigit = true) (hn : n = Nat.ofDigitChars 10 spelling 0)
      (hlimit : n < UInt64.size) :
      IsValue field (.number spelling) (some (.seconds (UInt64.ofNat n)))
  | port {spelling : List Char} {n : Nat} (htype : field.type = .port)
      (hdigits : ∀ c ∈ spelling, c.isDigit = true) (hn : n = Nat.ofDigitChars 10 spelling 0)
      (hlimit : n < UInt16.size) :
      IsValue field (.number spelling) (some (.port (UInt16.ofNat n)))

variable {field other : ConfigField} {value : Json} {c c' : Config}

/-- **A value says one thing of its setting.** -/
theorem IsValue.unique {setting setting' : Option SettingValue}
    (hvalue : field.IsValue value setting) (hvalue' : field.IsValue value setting') :
    setting = setting' := by
  cases hvalue with
  | null _ =>
    cases hvalue'
    rfl
  | text _ htext =>
    cases hvalue' with
    | text _ htext' => rw [Option.some.inj (htext.symm.trans htext')]
  | seconds htype _ hn _ =>
    cases hvalue' with
    | seconds _ _ hn' _ => rw [hn, hn']
    | port htype' _ _ _ => cases htype.symm.trans htype'
  | port htype _ hn _ =>
    cases hvalue' with
    | seconds htype' _ _ _ => cases htype.symm.trans htype'
    | port _ _ hn' _ => rw [hn, hn']

/-! ### Reading values -/

/-- A text is a string. -/
theorem text?_eq_some_iff {s : String} :
    value.text? = some s ↔ ∃ units, value = .string units ∧ JsonUnit.text? units = some s := by
  cases value <;> simp [Json.text?]

/-- The number that digits make up. -/
theorem foldl_eq_ofDigitChars (digits : List Char) (n : Nat) :
    digits.foldl (fun n c => n * 10 + (c.toNat - 48)) n = Nat.ofDigitChars 10 digits n := by
  induction digits generalizing n with
  | nil => rfl
  | cons c rest ih =>
    rw [List.foldl_cons, ih, Nat.ofDigitChars_cons, Nat.mul_comm 10]
    rfl

/-- A number below a limit is spelled with digits. -/
theorem below?_eq_some_iff {limit n : Nat} :
    below? limit value = some n ↔ ∃ spelling, value = .number spelling ∧
      (∀ c ∈ spelling, c.isDigit = true) ∧ n = Nat.ofDigitChars 10 spelling 0 ∧ n < limit := by
  rw [below?]
  cases value with
  | number spelling =>
    rw [Json.natural?, foldl_eq_ofDigitChars]
    by_cases hdigits : spelling.all Char.isDigit = true
    · rw [if_pos hdigits, Option.filter_eq_some_iff]
      rw [List.all_eq_true] at hdigits
      constructor
      · rintro ⟨heq, hlimit⟩
        exact ⟨spelling, rfl, hdigits, (Option.some.inj heq).symm, of_decide_eq_true hlimit⟩
      · rintro ⟨_, heq, -, rfl, hlimit⟩
        obtain rfl := Json.number.inj heq
        exact ⟨rfl, decide_eq_true hlimit⟩
    · rw [if_neg hdigits]
      rw [List.all_eq_true] at hdigits
      refine iff_of_false nofun ?_
      rintro ⟨_, heq, hall, -⟩
      obtain rfl := Json.number.inj heq
      exact hdigits hall
  | null | bool | string | array | object =>
    refine iff_of_false nofun ?_
    rintro ⟨_, heq, -⟩
    cases heq

/-- A value that may be null. -/
theorem optional?_eq_some_iff {α : Type} {read : Json → Option α} (hnull : read .null = none)
    {result : Option α} : optional? read value = some result ↔
      value = .null ∧ result = none ∨ ∃ x, read value = some x ∧ result = some x := by
  cases value with
  | null => simp [optional?, hnull, eq_comm]
  | bool | number | string | array | object =>
    rw [optional?, Option.map_eq_some_iff]
    · simp [eq_comm]
    · exact nofun

/-- **A value that is taken for a setting is one of its values.** -/
theorem isValue_of_set? (hset : field.set? value c = some c') :
    field.IsValue value (c'.layer field) := by
  cases field
  case timeoutSeconds =>
    obtain ⟨n, hread, rfl⟩ := Option.map_eq_some_iff.1 hset
    obtain ⟨spelling, rfl, hdigits, hn, hlimit⟩ := below?_eq_some_iff.1 hread
    exact .seconds rfl hdigits hn hlimit
  case metricsPort =>
    obtain ⟨result, hread, rfl⟩ := Option.map_eq_some_iff.1 hset
    obtain ⟨rfl, rfl⟩ | ⟨n, hn, rfl⟩ := (optional?_eq_some_iff rfl).1 hread
    · exact .null (by decide)
    · obtain ⟨spelling, rfl, hdigits, hn, hlimit⟩ := below?_eq_some_iff.1 hn
      exact .port rfl hdigits hn hlimit
  case gpuAlias | switchAlias | kubeletSocket =>
    obtain ⟨result, hread, rfl⟩ := Option.map_eq_some_iff.1 hset
    obtain ⟨rfl, rfl⟩ | ⟨s, hs, rfl⟩ := (optional?_eq_some_iff rfl).1 hread
    · exact .null (by decide)
    · obtain ⟨units, rfl, htext⟩ := text?_eq_some_iff.1 hs
      exact .text rfl htext
  all_goals
    obtain ⟨s, hread, rfl⟩ := Option.map_eq_some_iff.1 hset
    obtain ⟨units, rfl, htext⟩ := text?_eq_some_iff.1 hread
    exact .text rfl htext

/-- **A value of a setting is taken.** -/
theorem exists_set? {setting : Option SettingValue} (hvalue : field.IsValue value setting)
    (c : Config) : ∃ c', field.set? value c = some c' := by
  cases hvalue with
  | null hoptional =>
    cases field
    case gpuAlias | switchAlias | kubeletSocket | metricsPort => exact ⟨_, rfl⟩
    all_goals exact absurd hoptional (by decide)
  | text htype htext =>
    have hread := text?_eq_some_iff.2 ⟨_, rfl, htext⟩
    have hoptional := (optional?_eq_some_iff rfl).2 (.inr ⟨_, hread, rfl⟩)
    cases field
    case timeoutSeconds | metricsPort => cases htype
    case gpuAlias | switchAlias | kubeletSocket =>
      exact ⟨_, Option.map_eq_some_iff.2 ⟨_, hoptional, rfl⟩⟩
    all_goals exact ⟨_, Option.map_eq_some_iff.2 ⟨_, hread, rfl⟩⟩
  | seconds htype hdigits hn hlimit =>
    have hread := below?_eq_some_iff.2 ⟨_, rfl, hdigits, hn, hlimit⟩
    cases field
    case timeoutSeconds => exact ⟨_, Option.map_eq_some_iff.2 ⟨_, hread, rfl⟩⟩
    all_goals cases htype
  | port htype hdigits hn hlimit =>
    have hread := below?_eq_some_iff.2 ⟨_, rfl, hdigits, hn, hlimit⟩
    have hoptional := (optional?_eq_some_iff rfl).2 (.inr ⟨_, hread, rfl⟩)
    cases field
    case metricsPort => exact ⟨_, Option.map_eq_some_iff.2 ⟨_, hoptional, rfl⟩⟩
    all_goals cases htype

end ConfigField

namespace Config

/-- **Configurations with the same settings are the same.** -/
theorem layer_inj {c c' : Config} : c.layer = c'.layer ↔ c = c' := by
  refine ⟨fun hlayer => ?_, congrArg layer⟩
  replace hlayer := congrFun hlayer
  have hneeded {s s' : String} (heq : some (SettingValue.text s) = some (.text s')) : s = s' :=
    SettingValue.text.inj (Option.some.inj heq)
  have hoptional {s s' : Option String} (heq : s.map SettingValue.text = s'.map .text) : s = s' :=
    Option.map_injective (fun _ _ => SettingValue.text.inj) heq
  cases c
  cases c'
  congr 1
  · exact hneeded (hlayer .deviceNamespace)
  · exact hoptional (hlayer .gpuAlias)
  · exact hoptional (hlayer .switchAlias)
  · exact hneeded (hlayer .cdiRoot)
  · exact hneeded (hlayer .cdiVendor)
  · exact hneeded (hlayer .hostRoot)
  · exact hneeded (hlayer .sysfsRoot)
  · exact hneeded (hlayer .vfioRoot)
  · exact hneeded (hlayer .pluginDirectory)
  · exact hoptional (hlayer .kubeletSocket)
  · exact SettingValue.seconds.inj (Option.some.inj (hlayer .timeoutSeconds))
  · exact hneeded (hlayer .logLevel)
  · exact Option.map_injective (fun _ _ => SettingValue.port.inj) (hlayer .metricsPort)

end Config

namespace ConfigField

variable {field other : ConfigField} {value : Json} {c c' : Config}

/-- **What a value does to a configuration**: it becomes the value of its setting, and the other
settings stay. A value that is none of the setting's is refused. -/
theorem set?_eq_some_iff : field.set? value c = some c' ↔
    field.IsValue value (c'.layer field) ∧ ∀ other ≠ field, c'.layer other = c.layer other := by
  constructor
  · exact fun hset => ⟨isValue_of_set? hset, fun other hne => layer_set?_of_ne hset hne⟩
  · rintro ⟨hvalue, hothers⟩
    obtain ⟨next, hset⟩ := exists_set? hvalue c
    have hlayer : next.layer = c'.layer := by
      funext other
      by_cases heq : other = field
      · subst heq
        exact (isValue_of_set? hset).unique hvalue
      · rw [layer_set?_of_ne hset heq, hothers other heq]
    rw [hset, Config.layer_inj.1 hlayer]

end ConfigField

end GpuPassthrough
