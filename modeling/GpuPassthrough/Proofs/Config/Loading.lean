import GpuPassthrough.Proofs.Config.Members
import GpuPassthrough.Proofs.Json.Grammar
import Mathlib

/-!
# Loading a Configuration File

A configuration file is loaded if it is a document that describes a usable configuration, and every
other file is refused with a reason that says why. Neither the order of the members of an object
matters, nor members that give no setting, nor members that are null where they may be.

## Main results

* `Config.load_eq_ok_iff`: which files are loaded.
* `Config.exists_error_iff`: which files are refused, and in which words.
* `Config.loadsSettings`: how the members of an object are taken.
-/

namespace GpuPassthrough

namespace Config

variable {t t' : FileTree} {path path' : String} {document document' : Json} {c : Config}

/-- **A file holds a document**: its content is a text of it. -/
def HoldsJson (t : FileTree) (path : String) (document : Json) : Prop :=
  ∃ content, t.readText path = .ok content ∧ Json.IsTextOf content document

/-- **Why a configuration file is refused**, in the words of the error. -/
inductive Fails (t : FileTree) (path : String) : String → Prop
  | unreadable {cause : IoFailure} (hread : t.read path = .error cause) :
      Fails t path ("Failed to read config " ++ path ++ ": " ++ cause.message)
  | notText {octets : Text.Octets} (hread : t.read path = .ok octets)
      (htext : octets.text? = none) :
      Fails t path
        ("Failed to read config " ++ path ++ ": " ++ "stream did not contain valid UTF-8")
  | notJson {content : String} (hread : t.readText path = .ok content)
      (hjson : ∀ document, ¬ Json.IsTextOf content document) :
      Fails t path "Failed to parse config"
  | noConfig {document : Json} (hholds : HoldsJson t path document)
      (hnone : ∀ c, ¬ Describes document c) : Fails t path "Failed to parse config"
  | emptyNamespace {document : Json} {c : Config} (hholds : HoldsJson t path document)
      (hdescribes : Describes document c) (hempty : c.deviceNamespace = "") :
      Fails t path "device namespace must not be empty"
  | emptyVendor {document : Json} {c : Config} (hholds : HoldsJson t path document)
      (hdescribes : Describes document c) (hnamespace : c.deviceNamespace ≠ "")
      (hempty : c.cdiVendor = "") : Fails t path "CDI vendor must not be empty"
  | zeroTimeout {document : Json} {c : Config} (hholds : HoldsJson t path document)
      (hdescribes : Describes document c) (hnamespace : c.deviceNamespace ≠ "")
      (hvendor : c.cdiVendor ≠ "") (hzero : c.timeoutSeconds = 0) :
      Fails t path "connection timeout must be at least one second"

/-! ### What a file comes to -/

/-- A configuration that was read, if it is usable. -/
def checked : Option Config → Except ConfigFault Config
  | none => .error .malformed
  | some c =>
    match c.validate with
    | .error fault => .error fault
    | .ok () => .ok c

/-- A file that holds a document comes to what the document is read as. -/
theorem load_of_holdsJson (hholds : HoldsJson t path document) :
    load t path = checked (ofJson? document) := by
  obtain ⟨content, hread, hjson⟩ := hholds
  have htext : ofText? content = ofJson? document := by
    rw [ofText?, Json.read?_eq_some_iff.2 hjson]
    rfl
  rw [load, hread]
  dsimp only
  rw [htext]
  rfl

/-- **A document that describes no configuration is refused.** -/
theorem load_eq_malformed (hholds : HoldsJson t path document)
    (hnone : ∀ c, ¬ Describes document c) : load t path = .error .malformed := by
  have hconfig : ofJson? document = none :=
    Option.eq_none_iff_forall_ne_some.2 fun c hc => hnone c (ofJson?_eq_some_iff.1 hc)
  rw [load_of_holdsJson hholds, hconfig, checked]

/-- **Files whose documents describe the same come to the same.** -/
theorem load_eq_load (hholds : HoldsJson t path document) (hholds' : HoldsJson t' path' document')
    (hsame : ∀ c, Describes document c ↔ Describes document' c) : load t path = load t' path' := by
  have hconfig : ofJson? document = ofJson? document' := by
    refine Option.ext fun c => ?_
    rw [ofJson?_eq_some_iff, ofJson?_eq_some_iff, hsame]
  rw [load_of_holdsJson hholds, load_of_holdsJson hholds', hconfig]

/-- A document that describes a configuration. -/
theorem load_of_describes (hholds : HoldsJson t path document) (hdescribes : Describes document c) :
    load t path = checked (some c) := by
  rw [load_of_holdsJson hholds, ofJson?_eq_some_iff.2 hdescribes]

/-- A file that cannot be read is refused. -/
theorem load_of_unread {cause : IoFailure} (hread : t.readText path = .error cause) :
    load t path = .error (.unreadable path cause) := by
  rw [load, hread]

/-- A file that is no JSON is refused. -/
theorem load_of_notJson {content : String} (hread : t.readText path = .ok content)
    (hjson : ∀ document, ¬ Json.IsTextOf content document) : load t path = .error .malformed := by
  have hnone : Json.read? content = none := Option.eq_none_iff_forall_ne_some.2
    fun document hdocument => hjson document (Json.read?_eq_some_iff.1 hdocument)
  have htext : ofText? content = none := by
    rw [ofText?, hnone]
    rfl
  rw [load, hread]
  dsimp only
  rw [htext]

/-- A file without bytes has no text. -/
theorem readText_of_error {cause : IoFailure} (hread : t.read path = .error cause) :
    t.readText path = .error cause := by
  rw [FileTree.readText, hread]
  rfl

/-- The text of a file is that of its bytes. -/
theorem readText_of_read {octets : Text.Octets} (hread : t.read path = .ok octets) :
    t.readText path =
      match octets.text? with
      | some content => .ok content
      | none => .error .notText := by
  rw [FileTree.readText, hread]
  rfl

/-- A reason to refuse a file refuses it. -/
theorem Fails.exists_fault {reason : String} (hfails : Fails t path reason) :
    ∃ fault, load t path = .error fault ∧ fault.message = reason := by
  cases hfails with
  | unreadable hread => exact ⟨_, load_of_unread (readText_of_error hread), rfl⟩
  | notText hread htext =>
    have hread := readText_of_read hread
    rw [htext] at hread
    exact ⟨_, load_of_unread hread, rfl⟩
  | notJson hread hjson => exact ⟨_, load_of_notJson hread hjson, rfl⟩
  | noConfig hholds hnone => exact ⟨_, load_eq_malformed hholds hnone, rfl⟩
  | emptyNamespace hholds hdescribes hempty =>
    refine ⟨.emptyNamespace, ?_, rfl⟩
    rw [load_of_describes hholds hdescribes, checked, validate, if_pos hempty]
  | emptyVendor hholds hdescribes hnamespace hempty =>
    refine ⟨.emptyVendor, ?_, rfl⟩
    rw [load_of_describes hholds hdescribes, checked, validate, if_neg hnamespace, if_pos hempty]
  | zeroTimeout hholds hdescribes hnamespace hvendor hzero =>
    refine ⟨.zeroTimeout, ?_, rfl⟩
    rw [load_of_describes hholds hdescribes, checked, validate, if_neg hnamespace, if_neg hvendor,
      if_pos hzero]

/-- A configuration that is refused has an empty namespace, else an empty vendor, else no timeout. -/
theorem fails_of_validate {fault : ConfigFault} (hholds : HoldsJson t path document)
    (hdescribes : Describes document c) (hfault : c.validate = .error fault) :
    Fails t path fault.message := by
  rw [validate] at hfault
  by_cases hnamespace : c.deviceNamespace = ""
  · rw [if_pos hnamespace] at hfault
    obtain rfl := Except.error.inj hfault
    exact .emptyNamespace hholds hdescribes hnamespace
  · by_cases hvendor : c.cdiVendor = ""
    · rw [if_neg hnamespace, if_pos hvendor] at hfault
      obtain rfl := Except.error.inj hfault
      exact .emptyVendor hholds hdescribes hnamespace hvendor
    · by_cases hzero : c.timeoutSeconds = 0
      · rw [if_neg hnamespace, if_neg hvendor, if_pos hzero] at hfault
        obtain rfl := Except.error.inj hfault
        exact .zeroTimeout hholds hdescribes hnamespace hvendor hzero
      · rw [if_neg hnamespace, if_neg hvendor, if_neg hzero] at hfault
        cases hfault

/-- **What a file comes to**: a usable configuration that its document describes, or a reason to
refuse it. -/
theorem load_cases (t : FileTree) (path : String) :
    (∃ document c, HoldsJson t path document ∧ Describes document c ∧ c.validate = .ok () ∧
        load t path = .ok c) ∨
      ∃ fault, Fails t path fault.message ∧ load t path = .error fault := by
  cases hread : t.read path with
  | error cause =>
    exact .inr ⟨.unreadable path cause, .unreadable hread, load_of_unread (readText_of_error hread)⟩
  | ok octets =>
    have htext := readText_of_read hread
    cases hcontent : octets.text? with
    | none =>
      rw [hcontent] at htext
      exact .inr ⟨.unreadable path .notText, .notText hread hcontent, load_of_unread htext⟩
    | some content =>
      rw [hcontent] at htext
      by_cases hjson : ∃ document, Json.IsTextOf content document
      · obtain ⟨document, hdocument⟩ := hjson
        have hholds : HoldsJson t path document := ⟨content, htext, hdocument⟩
        by_cases hsome : ∃ c, Describes document c
        · obtain ⟨c, hdescribes⟩ := hsome
          have hload := load_of_describes hholds hdescribes
          cases hvalid : c.validate with
          | ok _ =>
            rw [checked, hvalid] at hload
            exact .inl ⟨document, c, hholds, hdescribes, hvalid, hload⟩
          | error fault =>
            rw [checked, hvalid] at hload
            exact .inr ⟨fault, fails_of_validate hholds hdescribes hvalid, hload⟩
        · have hnone := not_exists.1 hsome
          exact .inr ⟨.malformed, .noConfig hholds hnone, load_eq_malformed hholds hnone⟩
      · have hnone := not_exists.1 hjson
        exact .inr ⟨.malformed, .notJson htext hnone, load_of_notJson htext hnone⟩

/-- **Which files are refused, and in which words.** -/
theorem exists_error_iff {e : PluginError} :
    (∃ fault, load t path = .error fault ∧ fault.toError = e) ↔
      ∃ reason, e = .invalidConfig reason ∧ Fails t path reason := by
  constructor
  · rintro ⟨fault, hload, rfl⟩
    refine ⟨fault.message, rfl, ?_⟩
    obtain ⟨_, _, _, _, _, hok⟩ | ⟨other, hfails, herror⟩ := load_cases t path
    · cases hload.symm.trans hok
    · obtain rfl := Except.error.inj (hload.symm.trans herror)
      exact hfails
  · rintro ⟨reason, rfl, hfails⟩
    obtain ⟨fault, hload, rfl⟩ := hfails.exists_fault
    exact ⟨fault, hload, rfl⟩

/-- **Which files are loaded**: those that hold a document of a usable configuration. -/
theorem load_eq_ok_iff : load t path = .ok c ↔
    ∃ document, HoldsJson t path document ∧ Describes document c ∧ c.validate = .ok () := by
  constructor
  · intro hload
    obtain ⟨document, other, hholds, hdescribes, hvalid, hok⟩ | ⟨fault, -, herror⟩ :=
      load_cases t path
    · obtain rfl := Except.ok.inj (hload.symm.trans hok)
      exact ⟨document, hholds, hdescribes, hvalid⟩
    · cases hload.symm.trans herror
  · rintro ⟨document, hholds, hdescribes, hvalid⟩
    rw [load_of_describes hholds hdescribes, checked, hvalid]

/-- A file holds one document. -/
theorem HoldsJson.unique (hholds : HoldsJson t path document)
    (hholds' : HoldsJson t path document') : document = document' := by
  obtain ⟨content, hread, hjson⟩ := hholds
  obtain ⟨content', hread', hjson'⟩ := hholds'
  obtain rfl := Except.ok.inj (hread.symm.trans hread')
  rw [← Json.read?_eq_some_iff] at hjson hjson'
  exact Option.some.inj (hjson.symm.trans hjson')

/-! ### Members -/

variable {members members' before after : List JsonMember} {field : ConfigField}
  {name : List JsonUnit}

/-- An object describes what its members make of the defaults. -/
theorem describes_object_iff : Describes (.object members) c ↔ Fills {} [] members c :=
  ⟨fun hdescribes => by cases hdescribes; assumption, .object⟩

/-- **Files whose objects say the same come to the same.** -/
theorem load_eq_of_saysSame (hholds : HoldsJson t path (.object members))
    (hholds' : HoldsJson t' path' (.object members')) (hsame : SaysSame members members') :
    load t path = load t' path' := by
  refine load_eq_load hholds hholds' fun c => ?_
  rw [describes_object_iff, describes_object_iff]
  exact ⟨fun hfills => hfills.of_saysSame hsame, fun hfills => hfills.of_saysSame hsame.symm⟩

/-- A setting that may be null is null by default. -/
theorem set?_null (hoptional : field.IsOptional) : field.set? .null {} = some {} := by
  cases field
  case gpuAlias | switchAlias | kubeletSocket | metricsPort => rfl
  all_goals exact absurd hoptional (by decide)

/-- **A null where it may be is as good as no member.** -/
theorem fills_null_iff (hname : field.GivenBy (name, .null)) (hoptional : field.IsOptional)
    (hnone : ∀ member ∈ members, ¬ field.GivenBy member) :
    Fills {} [] ((name, .null) :: members) c ↔ Fills {} [] members c := by
  rw [fills_cons_of_givenBy hname]
  constructor
  · rintro ⟨-, next, hset, hfills⟩
    obtain rfl := Option.some.inj ((set?_null hoptional).symm.trans hset)
    exact ⟨hfills.named, nofun, hfills.once, hfills.values, hfills.absent⟩
  · intro hfills
    refine ⟨List.not_mem_nil, {}, set?_null hoptional, hfills.named, ?_, hfills.once,
      hfills.values, hfills.absent⟩
    exact List.forall_mem_cons.2 ⟨hnone, nofun⟩

/-- **How the members of an object are taken** from the file of a path. -/
structure LoadsSettings (t : FileTree) (path : String) : Prop where
  /-- What is loaded is what the members make of the defaults, if that is usable. -/
  accepted : ∀ members c, HoldsJson t path (.object members) →
    (load t path = .ok c ↔ Fills {} [] members c ∧ c.validate = .ok ())
  /-- The order of the members does not matter, -/
  order : ∀ members t' path' members', HoldsJson t path (.object members) →
    HoldsJson t' path' (.object members') → members.Perm members' → load t path = load t' path'
  /-- nor does a member of another name, whatever its value. -/
  unknown : ∀ before (member : JsonMember) after t' path', member.IsNamed → ¬ member.IsKnown →
    HoldsJson t path (.object (before ++ member :: after)) →
    HoldsJson t' path' (.object (before ++ after)) → load t path = load t' path'
  /-- A setting without a member is as it is by default. -/
  absent : ∀ members c (field : ConfigField), HoldsJson t path (.object members) →
    (∀ member ∈ members, ¬ field.GivenBy member) → load t path = .ok c →
    c.layer field = defaults field
  /-- A member that is null is as good as none where it may be, -/
  optional : ∀ before name after t' path' (field : ConfigField), field.GivenBy (name, .null) →
    HoldsJson t path (.object (before ++ (name, .null) :: after)) → field.IsOptional →
    (∀ member ∈ before ++ after, ¬ field.GivenBy member) →
    HoldsJson t' path' (.object (before ++ after)) → load t path = load t' path'
  /-- and is refused elsewhere, -/
  needed : ∀ members name (field : ConfigField), field.GivenBy (name, .null) →
    HoldsJson t path (.object members) → (name, .null) ∈ members → ¬ field.IsOptional →
    load t path = .error .malformed
  /-- as is any value of another type or out of range, -/
  typed : ∀ members member (field : ConfigField), HoldsJson t path (.object members) →
    member ∈ members → field.GivenBy member →
    (∀ setting, ¬ field.IsValue member.2 setting) → load t path = .error .malformed
  /-- and a setting with two members. -/
  repeated : ∀ members (field : ConfigField), HoldsJson t path (.object members) →
    2 ≤ members.countP (field.GivenBy ·) → load t path = .error .malformed
  /-- What is loaded is usable. -/
  usable : ∀ c, load t path = .ok c → c.validate = .ok ()
  /-- Every failure is an invalid configuration, for one of the reasons. -/
  refused : ∀ e, (∃ fault, load t path = .error fault ∧ fault.toError = e) ↔
    ∃ reason, e = .invalidConfig reason ∧ Fails t path reason

/-- **How the members of an object are taken**, from every file. -/
theorem loadsSettings (t : FileTree) (path : String) : LoadsSettings t path := by
  have hrefused : ∀ members, HoldsJson t path (.object members) →
      (∀ c, ¬ Fills {} [] members c) → load t path = .error .malformed := by
    intro members hholds hnone
    exact load_eq_malformed hholds fun c hdescribes => hnone c (describes_object_iff.1 hdescribes)
  have haccepted : ∀ members c, HoldsJson t path (.object members) →
      (load t path = .ok c ↔ Fills {} [] members c ∧ c.validate = .ok ()) := by
    intro members c hholds
    rw [load_eq_ok_iff]
    constructor
    · rintro ⟨document, hholds', hdescribes, hvalid⟩
      obtain rfl := hholds.unique hholds'
      exact ⟨describes_object_iff.1 hdescribes, hvalid⟩
    · exact fun ⟨hfills, hvalid⟩ => ⟨_, hholds, describes_object_iff.2 hfills, hvalid⟩
  have htyped : ∀ members (member : JsonMember) (field : ConfigField),
      HoldsJson t path (.object members) → member ∈ members → field.GivenBy member →
      (∀ setting, ¬ field.IsValue member.2 setting) → load t path = .error .malformed :=
    fun members member field hholds hmem hfield hnone => hrefused members hholds
      fun _ hfills => hnone _ (hfills.values field member hmem hfield)
  refine ⟨haccepted, ?_, ?_, ?_, ?_, ?_, htyped, ?_, ?_, ?_⟩
  · exact fun members t' path' members' hholds hholds' hperm =>
      load_eq_of_saysSame hholds hholds' (saysSame_of_perm hperm)
  · exact fun before member after t' path' hnamed hunknown hholds hholds' =>
      load_eq_of_saysSame hholds hholds' (saysSame_of_unknown hnamed hunknown)
  · exact fun members c field hholds habsent hload =>
      ((haccepted members c hholds).1 hload).1.absent field habsent
  · intro before name after t' path' field hname hholds hoptional hnone hholds'
    refine load_eq_load hholds hholds' fun c => ?_
    have hsame : SaysSame (before ++ (name, .null) :: after) ((name, .null) :: (before ++ after)) :=
      saysSame_of_perm List.perm_middle
    rw [describes_object_iff, describes_object_iff, ← fills_null_iff hname hoptional hnone]
    exact ⟨fun hfills => hfills.of_saysSame hsame, fun hfills => hfills.of_saysSame hsame.symm⟩
  · intro members name field hname hholds hmem hneeded
    refine htyped members (name, .null) field hholds hmem hname fun setting hvalue => ?_
    cases hvalue with
    | null hoptional => exact hneeded hoptional
  · intro members field hholds htwice
    exact hrefused members hholds fun _ hfills => absurd (hfills.once field) (by omega)
  · exact fun c hload => validate_of_load hload
  · exact fun e => exists_error_iff

/-- A configuration file: a text, a null, a member of another name, and a number. -/
def configuredText : String :=
  "\x7b\x22pgpu_alias\x22: \x22gpu\x22, \x22metrics_port\x22: null, " ++
    "\x22comment\x22: [true], \x22connection_timeout_secs\x22: 7\x7d\n"

/-- The members of it. -/
def configuredMembers : List JsonMember :=
  let named (name : String) (value : Json) := (name.toList.map JsonUnit.scalar, value)
  [named "pgpu_alias" (.string ("gpu".toList.map .scalar)), named "metrics_port" .null,
    named "comment" (.array [.bool true]), named "connection_timeout_secs" (.number ['7'])]

/-- A host with that file. -/
def configuredHost : FileTree :=
  FileTree.empty.set [.text "plugin.json"] (.file (.text configuredText))

/-- The file holds the members, and comes to what they make of the defaults. -/
theorem loadsSettings_configuredHost :
    HoldsJson configuredHost "/plugin.json" (.object configuredMembers) ∧
      load configuredHost "/plugin.json" = .ok { gpuAlias := some "gpu", timeoutSeconds := 7 } ∧
      Fills {} [] configuredMembers { gpuAlias := some "gpu", timeoutSeconds := 7 } := by
  have hread : configuredHost.readText "/plugin.json" = .ok configuredText := by decide +kernel
  have hjson : Json.read? configuredText = some (.object configuredMembers) := by cbv
  have hholds : HoldsJson configuredHost "/plugin.json" (.object configuredMembers) :=
    ⟨configuredText, hread, Json.read?_eq_some_iff.1 hjson⟩
  have hload : load configuredHost "/plugin.json" =
      .ok { gpuAlias := some "gpu", timeoutSeconds := 7 } := by decide +kernel
  have hloads := loadsSettings configuredHost "/plugin.json"
  exact ⟨hholds, hload, ((hloads.accepted _ _ hholds).1 hload).1⟩

end Config

end GpuPassthrough
