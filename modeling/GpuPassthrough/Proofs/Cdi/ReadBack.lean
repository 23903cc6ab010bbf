import GpuPassthrough.Cdi.Layout
import GpuPassthrough.Proofs.Yaml.Outlines
import GpuPassthrough.Proofs.Yaml.Reads

/-!
# Device Specifications Read Back

The document of a specification is read as the specification: its kind, its devices in order, and
the paths of their nodes. It does not matter what the texts in it look like, as long as they take
one line each.

## Main results

* `reads_document`: the tokens of a document.
* `ofNode?_documentNode`: what the nodes of a document say.
* `readsBack_toYaml`: a document is read as its specification, and tells it from others.
-/

namespace GpuPassthrough.Cdi

open Yaml (IsSingleLine Reads Token Node Scalar Outline writtenScalar reads_line reads_scalarLine
  reads_flatMap exists_writtenAs)

/-- Every text of a device takes one line. -/
structure Device.IsSingleLine (d : Device) : Prop where
  name : Yaml.IsSingleLine d.name.toList
  nodes : ∀ path ∈ d.nodes, Yaml.IsSingleLine path.toList

/-- Every text of a specification takes one line. -/
structure Spec.IsSingleLine (s : Spec) : Prop where
  vendor : Yaml.IsSingleLine s.vendor.toList
  className : Yaml.IsSingleLine s.className.toList
  devices : ∀ d ∈ s.devices, d.IsSingleLine

namespace Spec

/-! ### Tokens -/

/-- A key of the layout. -/
def keyOf (name : String) : Scalar := ⟨false, name.toList⟩

/-- The mark of an item. -/
def entryToken (column : Nat) : Token := ⟨column, .entry⟩

/-- The key of a field. -/
def keyToken (column : Nat) (name : String) : Token := ⟨column, .key (keyOf name)⟩

/-- A text behind its key. -/
def textToken (column : Nat) (s : String) : Token :=
  ⟨column + 1, .leaf (.scalar (writtenScalar s.toList))⟩

/-- The tokens of a node, behind its entry. -/
def pathTokens (path : String) : List Token := [keyToken 6 "path", textToken 6 path]

/-- The tokens of the value of the edits. -/
def editTokens (nodes : List String) : List Token :=
  if nodes.isEmpty then [⟨3, .leaf .emptyMapping⟩]
  else keyToken 4 "deviceNodes" :: nodes.flatMap fun path => entryToken 4 :: pathTokens path

/-- The tokens of a device, behind its entry. -/
def deviceTokens (d : Device) : List Token :=
  keyToken 2 "name" :: textToken 2 d.name :: keyToken 2 "containerEdits" :: editTokens d.nodes

/-- The tokens of the value of the devices. -/
def devicesTokens (devices : List Device) : List Token :=
  if devices.isEmpty then [⟨1, .leaf .emptySequence⟩]
  else devices.flatMap fun d => entryToken 0 :: deviceTokens d

/-- The tokens of a document. -/
def documentTokens (kind : String) (devices : List Device) : List Token :=
  keyToken 0 "cdiVersion" :: textToken 0 version :: keyToken 0 "kind" :: textToken 0 kind ::
    keyToken 0 "devices" :: devicesTokens devices

/-- The line of a node. -/
theorem reads_nodeLine {path : String} (h : Yaml.IsSingleLine path.toList) :
    Reads (nodeLine path) (entryToken 4 :: pathTokens path) :=
  reads_scalarLine "    - path:".toList [entryToken 4, keyToken 6 "path"] 7 8
    (by decide) (fun _ => rfl)
    (fun w => Option.map_map (entryToken 4 :: ·) (keyToken 6 "path" :: ·)
      (Yaml.readValue? 7 (' ' :: w))) h

/-- The line of a name. -/
theorem reads_nameLine {name : String} (h : Yaml.IsSingleLine name.toList) :
    Reads ("- name: ".toList ++ Yaml.scalarLine 4 name.toList)
      [entryToken 0, keyToken 2 "name", textToken 2 name] :=
  reads_scalarLine "- name:".toList [entryToken 0, keyToken 2 "name"] 3 4
    (by decide) (fun _ => rfl)
    (fun w => Option.map_map (entryToken 0 :: ·) (keyToken 2 "name" :: ·)
      (Yaml.readValue? 3 (' ' :: w))) h

/-- The line of a kind. -/
theorem reads_kindLine {kind : String} (h : Yaml.IsSingleLine kind.toList) :
    Reads ("kind: ".toList ++ Yaml.scalarLine 2 kind.toList)
      [keyToken 0 "kind", textToken 0 kind] :=
  reads_scalarLine "kind:".toList [keyToken 0 "kind"] 1 2
    (by decide) (fun _ => rfl) (fun _ => rfl) h

/-- The line of the version. -/
theorem reads_versionLine :
    Reads ("cdiVersion: ".toList ++ Yaml.scalarLine 2 version.toList)
      [keyToken 0 "cdiVersion", textToken 0 version] :=
  reads_scalarLine "cdiVersion:".toList [keyToken 0 "cdiVersion"] 1 2
    (by decide) (fun _ => rfl) (fun _ => rfl) (by decide)

/-- The lines of edits. -/
theorem reads_editLines {nodes : List String} (h : ∀ path ∈ nodes, Yaml.IsSingleLine path.toList) :
    Reads (editLines nodes) (keyToken 2 "containerEdits" :: editTokens nodes) := by
  cases nodes with
  | nil =>
    exact reads_line "  containerEdits: \x7b\x7d".toList
      (by decide) rfl rfl
  | cons path rest =>
    have hkeys : Reads "  containerEdits:\n    deviceNodes:\n".toList
        [keyToken 2 "containerEdits", keyToken 4 "deviceNodes"] :=
      (reads_line "  containerEdits:".toList
        (by decide) rfl rfl).append
        (reads_line "    deviceNodes:".toList
          (by decide) rfl rfl)
    exact hkeys.append (reads_flatMap fun path hpath => reads_nodeLine (h path hpath))

/-- The lines of a device. -/
theorem reads_deviceLines {d : Device} (h : d.IsSingleLine) :
    Reads (deviceLines d) (entryToken 0 :: deviceTokens d) :=
  (reads_nameLine h.name).append (reads_editLines h.nodes)

/-- The lines of the devices. -/
theorem reads_devicesLines {devices : List Device} (h : ∀ d ∈ devices, d.IsSingleLine) :
    Reads (devicesLines devices) (keyToken 0 "devices" :: devicesTokens devices) := by
  cases devices with
  | nil =>
    exact reads_line "devices: []".toList (by decide) rfl rfl
  | cons d rest =>
    have hkey : Reads "devices:\n".toList [keyToken 0 "devices"] :=
      reads_line "devices:".toList (by decide) rfl rfl
    exact hkey.append (reads_flatMap fun d hd => reads_deviceLines (h d hd))

/-- **The lines of a document.** -/
theorem reads_document {kind : String} {devices : List Device}
    (hkind : Yaml.IsSingleLine kind.toList) (h : ∀ d ∈ devices, d.IsSingleLine) :
    Reads (document kind devices) (documentTokens kind devices) := by
  have hlines : document kind devices =
      "cdiVersion: ".toList ++ Yaml.scalarLine 2 version.toList ++
        ("kind: ".toList ++ Yaml.scalarLine 2 kind.toList) ++ devicesLines devices :=
    congrArg (· ++ devicesLines devices) (List.append_assoc _ _ _)
  rw [hlines]
  exact (reads_versionLine.append (reads_kindLine hkind)).append (reads_devicesLines h)

/-! ### Nodes -/

/-- The node of a text. -/
def textNode (s : String) : Node := .scalar (writtenScalar s.toList)

/-- The node of a path. -/
def pathNode (path : String) : Node := .mapping [(keyOf "path", textNode path)]

/-- The node of edits. -/
def editNode (nodes : List String) : Node :=
  .mapping (if nodes.isEmpty then [] else [(keyOf "deviceNodes", .sequence (nodes.map pathNode))])

/-- The node of a device. -/
def deviceNode (d : Device) : Node :=
  .mapping [(keyOf "name", textNode d.name), (keyOf "containerEdits", editNode d.nodes)]

/-- The node of a document. -/
def documentNode (kind : String) (devices : List Device) : Node :=
  .mapping [(keyOf "cdiVersion", textNode version), (keyOf "kind", textNode kind),
    (keyOf "devices", .sequence (devices.map deviceNode))]

/-- A path is deeper than its entry. -/
theorem lt_depth_pathTokens (path : String) : ∀ u ∈ pathTokens path, 2 * 4 + 1 < u.depth := by
  simp [pathTokens, keyToken, textToken, Token.depth]

/-- Items of a list are as deep as their entries. -/
theorem le_depth_items {α : Type} {f : α → List Token} {column : Nat} {xs : List α}
    (h : ∀ x ∈ xs, ∀ u ∈ f x, 2 * column + 1 < u.depth) :
    ∀ u ∈ xs.flatMap fun x => entryToken column :: f x, 2 * column < u.depth := by
  intro u hu
  obtain ⟨x, hx, hmem⟩ := List.mem_flatMap.1 hu
  obtain rfl | htokens := List.mem_cons.1 hmem
  · exact Nat.lt_succ_self _
  · exact Nat.lt_of_succ_lt (h x hx u htokens)

/-- The value of edits is deeper than its key. -/
theorem lt_depth_editTokens (nodes : List String) : ∀ u ∈ editTokens nodes, 2 * 2 < u.depth := by
  rw [editTokens]
  split
  · simp [Token.depth]
  · rw [List.forall_mem_cons]
    refine ⟨by simp [keyToken, Token.depth], fun u hu => ?_⟩
    have hitems := le_depth_items fun path (_ : path ∈ nodes) => lt_depth_pathTokens path
    exact Nat.lt_trans (by omega) (hitems u hu)

/-- A device is deeper than its entry. -/
theorem lt_depth_deviceTokens (d : Device) : ∀ u ∈ deviceTokens d, 2 * 0 + 1 < u.depth := by
  simp only [deviceTokens, List.forall_mem_cons]
  refine ⟨by simp [keyToken, Token.depth], by simp [textToken, Token.depth],
    by simp [keyToken, Token.depth], fun u hu => ?_⟩
  exact Nat.lt_trans (by omega) (lt_depth_editTokens d.nodes u hu)

/-- Devices are deeper than the key of their list. -/
theorem lt_depth_devicesTokens (devices : List Device) :
    ∀ u ∈ devicesTokens devices, 2 * 0 < u.depth := by
  rw [devicesTokens]
  split
  · simp [Token.depth]
  · exact le_depth_items fun d (_ : d ∈ devices) => lt_depth_deviceTokens d

/-- The tokens of a path. -/
theorem node?_pathTokens (path : String) :
    (Outline.ofTokens (pathTokens path)).node? = some (pathNode path) := rfl

/-- The tokens of edits. -/
theorem node?_editTokens (nodes : List String) :
    (Outline.ofTokens (editTokens nodes)).node? = some (editNode nodes) := by
  cases nodes with
  | nil => rfl
  | cons path rest =>
    have hdeeper := le_depth_items fun other (_ : other ∈ path :: rest) =>
      lt_depth_pathTokens other
    have hlist := Outline.node?_flatMap 4 pathTokens pathNode (List.cons_ne_nil path rest)
      fun other _ => ⟨lt_depth_pathTokens other, node?_pathTokens other⟩
    have hfield := Outline.node?_key (keyOf "deviceNodes") hdeeper
      (Outline.stops_ofTokens_nil _) hlist rfl
    rw [List.append_nil] at hfield
    exact hfield

/-- The tokens of a device. -/
theorem node?_deviceTokens (d : Device) :
    (Outline.ofTokens (deviceTokens d)).node? = some (deviceNode d) := by
  have hedits := Outline.fields?_key (keyOf "containerEdits") (lt_depth_editTokens d.nodes)
    (Outline.stops_ofTokens_nil _) (node?_editTokens d.nodes) rfl
  rw [List.append_nil] at hedits
  have hname : ∀ u ∈ [textToken 2 d.name], 2 * 2 < u.depth := by
    simp [textToken, Token.depth]
  exact Outline.node?_key (keyOf "name") hname (Outline.stops_ofTokens_cons (Nat.le_refl _)) rfl
    hedits

/-- The tokens of the value of the devices. -/
theorem node?_devicesTokens (devices : List Device) :
    (Outline.ofTokens (devicesTokens devices)).node? =
      some (.sequence (devices.map deviceNode)) := by
  cases devices with
  | nil => rfl
  | cons d rest =>
    exact Outline.node?_flatMap 0 deviceTokens deviceNode (List.cons_ne_nil d rest)
      fun other _ => ⟨lt_depth_deviceTokens other, node?_deviceTokens other⟩

/-- The tokens of a document. -/
theorem node?_documentTokens (kind : String) (devices : List Device) :
    (Outline.ofTokens (documentTokens kind devices)).node? = some (documentNode kind devices) := by
  have hdevices := Outline.fields?_key (keyOf "devices") (lt_depth_devicesTokens devices)
    (Outline.stops_ofTokens_nil _) (node?_devicesTokens devices) rfl
  rw [List.append_nil] at hdevices
  have htext (s : String) : ∀ u ∈ [textToken 0 s], 2 * 0 < u.depth := by
    simp [textToken, Token.depth]
  have hkind := Outline.fields?_key (keyOf "kind") (htext kind)
    (Outline.stops_ofTokens_cons (Nat.le_refl _)) rfl hdevices
  exact Outline.node?_key (keyOf "cdiVersion") (htext version)
    (Outline.stops_ofTokens_cons (Nat.le_refl _)) rfl hkind

end Spec

namespace Content

/-! ### What the nodes say -/

variable {s : String}

/-- A text on one line comes back. -/
theorem text?_textNode (h : IsSingleLine s.toList) : text? (Spec.textNode s) = some s := by
  obtain ⟨written, hwritten⟩ := exists_writtenAs h
  rw [Spec.textNode, text?, hwritten.meaning]
  exact congrArg some String.ofList_toList

/-- A path on one line comes back. -/
theorem path?_pathNode (h : IsSingleLine s.toList) : path? (Spec.pathNode s) = some s :=
  text?_textNode h

/-- What comes back of each item comes back of all. -/
theorem mapM_map_eq_some {α β : Type} {f : β → Option α} {g : α → β} {xs : List α}
    (h : ∀ x ∈ xs, f (g x) = some x) : (xs.map g).mapM f = some xs := by
  induction xs with
  | nil => rfl
  | cons x rest ih =>
    rw [List.forall_mem_cons] at h
    rw [List.map_cons, List.mapM_cons, h.1, ih h.2]
    rfl

/-- The nodes of edits whose paths take one line each come back. -/
theorem deviceNodes?_editNode {nodes : List String}
    (h : ∀ path ∈ nodes, IsSingleLine path.toList) :
    (fields? (Spec.editNode nodes)).bind deviceNodes? = some nodes := by
  cases nodes with
  | nil => rfl
  | cons path rest =>
    exact mapM_map_eq_some fun other hother => path?_pathNode (h other hother)

/-- A device whose texts take one line each comes back. -/
theorem device?_deviceNode {d : Device} (h : d.IsSingleLine) :
    device? (Spec.deviceNode d) = some d := by
  have hread : device? (Spec.deviceNode d) =
      (text? (Spec.textNode d.name)).bind fun name =>
        (fields? (Spec.editNode d.nodes)).bind fun edits =>
          (deviceNodes? edits).bind fun nodes => some ⟨name, nodes⟩ := rfl
  obtain ⟨edits, hedits, hlist⟩ := Option.bind_eq_some_iff.1 (deviceNodes?_editNode h.nodes)
  rw [hread, text?_textNode h.name, hedits, Option.bind_some, Option.bind_some, hlist]
  rfl

/-- **What the nodes of a document say.** -/
theorem ofNode?_documentNode {kind : String} {devices : List Device}
    (hkind : IsSingleLine kind.toList) (h : ∀ d ∈ devices, d.IsSingleLine) :
    ofNode? (Spec.documentNode kind devices) = some ⟨Spec.version, kind, devices⟩ := by
  have hread : ofNode? (Spec.documentNode kind devices) =
      (text? (Spec.textNode Spec.version)).bind fun version =>
        (text? (Spec.textNode kind)).bind fun kind =>
          ((devices.map Spec.deviceNode).mapM device?).bind fun devices =>
            some ⟨version, kind, devices⟩ := rfl
  have hdevices : (devices.map Spec.deviceNode).mapM device? = some devices :=
    mapM_map_eq_some fun d hd => device?_deviceNode (h d hd)
  rw [hread, text?_textNode (by decide), text?_textNode hkind, hdevices]
  rfl

end Content

/-- A kind of halves that take one line each takes one line. -/
theorem Spec.IsSingleLine.kind {s : Spec} (h : s.IsSingleLine) :
    Yaml.IsSingleLine s.kind.toList := by
  have hslash : Yaml.IsSingleLine "/".toList := by decide
  rw [Spec.kind, String.toList_append, String.toList_append]
  exact List.forall_mem_append.2 ⟨List.forall_mem_append.2 ⟨h.vendor, hslash⟩, h.className⟩

/-- The document of a specification is read as the specification. -/
theorem Spec.IsSingleLine.read?_toYaml {s : Spec} (h : s.IsSingleLine) :
    Content.read? s.toYaml = some s.content := by
  have htokens := (Spec.reads_document h.kind h.devices).readTokens?
  rw [Content.read?, Spec.toYaml, String.toList_ofList, Yaml.readDocument?, htokens,
    Option.bind_some, Spec.node?_documentTokens, Option.bind_some]
  exact Content.ofNode?_documentNode h.kind h.devices

/-- **A document is read as its specification**, and specifications that say different things have
different documents. -/
theorem readsBack_toYaml {s t : Spec} (hs : s.IsSingleLine) (ht : t.IsSingleLine) :
    Content.read? s.toYaml = some s.content ∧ (s.toYaml = t.toYaml ↔ s.content = t.content) := by
  refine ⟨hs.read?_toYaml, fun hsame => ?_, fun hsame => ?_⟩
  · have hread := hs.read?_toYaml
    rw [hsame, ht.read?_toYaml] at hread
    exact (Option.some.inj hread).symm
  · obtain ⟨-, hkind, hdevices⟩ := Content.mk.inj hsame
    rw [Spec.toYaml, Spec.toYaml, hkind, hdevices]

/-- Names and paths that look like numbers, truth values, nulls, dates and structure, and a name
that another reader would take for the same number. -/
theorem readsBack_lookalikes :
    let s : Spec := ⟨"nvidia.com", "pgpu",
      [⟨"7", ["", " ", "~", "1e3", "- x", "a: b #c", "'", "2001-01-01"]⟩, ⟨"true", []⟩,
        ⟨"\x22\uFFFE\\", ["[]", "\x7b\x7d", "---", "#", "0x1F", "a:", "é"]⟩]⟩
    let t : Spec := { s with devices := [⟨"07", []⟩] }
    s.IsSingleLine ∧ t.IsSingleLine ∧ Content.read? s.toYaml = some s.content ∧
      s.toYaml ≠ t.toYaml := by
  intro s t
  have hdevices (devices : List Device) (h : ∀ d ∈ devices,
      Yaml.IsSingleLine d.name.toList ∧ ∀ path ∈ d.nodes, Yaml.IsSingleLine path.toList) :
      ∀ d ∈ devices, d.IsSingleLine := fun d hd => ⟨(h d hd).1, (h d hd).2⟩
  have hs : s.IsSingleLine := ⟨by decide, by decide, hdevices s.devices (by decide)⟩
  have ht : t.IsSingleLine := ⟨by decide, by decide, hdevices t.devices (by decide)⟩
  obtain ⟨hread, hsame⟩ := readsBack_toYaml hs ht
  exact ⟨hs, ht, hread, fun heq => absurd (hsame.1 heq) (by decide)⟩

/-- Others may write a specification in their own way, -/
example : Content.read? ("kind: \x22a\\x2Fb\x22 # by hand\ndevices:\n  -\n    containerEdits:\n" ++
    "      x: 5\n    name: 'it''s'\n\ncdiVersion: '1'\n") = some ⟨"1", "a/b", [⟨"it's", []⟩]⟩ := by
  decide

/-- but a name that is a number is refused. -/
example : Content.read?
    "cdiVersion: 0.5.0\nkind: a/b\ndevices:\n- name: 7\n  containerEdits: \x7b\x7d\n" = none := by
  decide

end GpuPassthrough.Cdi
