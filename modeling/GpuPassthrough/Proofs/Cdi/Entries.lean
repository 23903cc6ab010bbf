import GpuPassthrough.Proofs.Cdi.Scopes
import GpuPassthrough.Proofs.Plugin.Nodes

/-!
# The Entries of a Specification

The devices in the scope of a specification are visited unit by unit in the order of the keys, and
within a unit in the order in which they were found. That fixes the row of visits, whatever order the
units are kept in. The names in the specification are those that the devices in the row claim, each
once, in the order of their first claims, and each with the nodes of the device that claims it first.

## Main results

* `isVisitOrder_visits`, `IsVisitOrder.unique`: the row of visits is the one that is unit by unit in
  the order of the keys.
* `names_enterFrom`: the names are those that are claimed, in the order of their first claims.
* `build?_of_perm_units`: the order in which the units are kept does not matter.
* `exists_isBuiltFrom`: all of it together.
* `IsBuiltFrom.exists_bringsNodes`: which nodes an entry has in either mode.
-/

namespace GpuPassthrough.Cdi.Spec

variable {handles : Bool} {devices : List PassthroughDevice} {scope : Scope}
  {row other : List (String × PassthroughDevice)}

/-! ### The row of visits -/

/-- **A row shows the devices in scope unit by unit**, each with the key of its unit. -/
structure IsVisitOrder (handles : Bool) (devices : List PassthroughDevice) (scope : Scope)
    (row : List (String × PassthroughDevice)) : Prop where
  /-- The units come in the order of their keys. -/
  ascending : row.Pairwise fun a b => UnitKey.le a.1 b.1 = true
  /-- The devices of a unit come in the order in which they were found. -/
  units : ∀ key, row.filter (fun visited => visited.1 = key) =
    ((devices.filter fun d => d.unitKey handles = key).filter scope.covers).map (Prod.mk key)

/-- Of keys that occur once, the one that is sought has its group alone. -/
theorem flatMap_of_nodup {α : Type} {keys : List String} (hnodup : keys.Nodup) (key : String)
    (values : String → List α) (hnone : key ∉ keys → values key = []) :
    keys.flatMap (fun other => if other = key then values other else []) = values key := by
  induction keys with
  | nil => exact (hnone List.not_mem_nil).symm
  | cons first rest ih =>
    obtain ⟨hnew, hrest⟩ := List.nodup_cons.1 hnodup
    rw [List.flatMap_cons]
    by_cases hfirst : first = key
    · subst hfirst
      have hothers : rest.flatMap (fun other => if other = first then values other else []) = [] := by
        refine List.flatMap_eq_nil_iff.2 fun other hother => if_neg ?_
        rintro rfl
        exact hnew hother
      rw [if_pos rfl, hothers, List.append_nil]
    · rw [if_neg hfirst, List.nil_append]
      refine ih hrest fun hnot => hnone fun hmem => ?_
      exact hnot ((List.mem_cons.1 hmem).resolve_left (Ne.symm hfirst))

/-- The visits of one unit are its devices. -/
theorem filter_inKeyOrder {s : Snapshot} (hs : s.WellKeyed) (key : String) :
    (inKeyOrder s).filter (fun visited => visited.1 = key) =
      ((s.unit? key).getD []).map (Prod.mk key) := by
  have hgroup : ∀ other, (((s.unit? other).getD []).map (Prod.mk other)).filter
      (fun visited => visited.1 = key) =
      if other = key then ((s.unit? other).getD []).map (Prod.mk other) else [] := by
    intro other
    split
    · next heq =>
      refine List.filter_eq_self.2 fun visited hvisited => ?_
      obtain ⟨d, -, rfl⟩ := List.mem_map.1 hvisited
      exact decide_eq_true heq
    · next hne =>
      refine List.filter_eq_nil_iff.2 fun visited hvisited => ?_
      obtain ⟨d, -, rfl⟩ := List.mem_map.1 hvisited
      simpa using hne
  have hkeys := (UnitKey.sort_perm (s.units.map Prod.fst)).nodup_iff.2 hs.nodup
  rw [inKeyOrder, List.filter_flatMap]
  simp only [hgroup]
  refine flatMap_of_nodup hkeys key (fun other => ((s.unit? other).getD []).map (Prod.mk other)) ?_
  intro hnot
  have hnone : ¬ (s.unit? key).isSome := fun hsome =>
    hnot ((UnitKey.sort_perm _).mem_iff.2 (Snapshot.unit?_isSome_iff.1 hsome))
  rw [Option.not_isSome_iff_eq_none.1 hnone, Option.getD_none, List.map_nil]

/-- **The devices are visited unit by unit.** -/
theorem isVisitOrder_visits (handles : Bool) (devices : List PassthroughDevice) (scope : Scope) :
    IsVisitOrder handles devices scope (visits (Snapshot.ofDevices handles devices) scope) where
  ascending := (pairwise_inKeyOrder _).filter _
  units key := by
    have hunit : ((Snapshot.ofDevices handles devices).unit? key).getD [] =
        devices.filter fun d => d.unitKey handles = key := by
      rw [Snapshot.unit?_ofDevices]
      simp only
      split
      · next hnil => rw [hnil, Option.getD_none]
      · rw [Option.getD_some]
    rw [visits, List.filter_comm, filter_inKeyOrder (Snapshot.wellKeyed_ofDevices handles devices),
      hunit, List.filter_map]
    rfl

/-- Rows that ascend and show the same devices of every unit are the same. -/
theorem eq_of_filter_eq (hrow : row.Pairwise fun a b => UnitKey.le a.1 b.1 = true)
    (hother : other.Pairwise fun a b => UnitKey.le a.1 b.1 = true)
    (hsame : ∀ key, row.filter (fun visited => visited.1 = key) =
      other.filter fun visited => visited.1 = key) : row = other := by
  have hmem : ∀ visited, visited ∈ row ↔ visited ∈ other := by
    intro visited
    have hiff := congrArg (visited ∈ ·) (hsame visited.1)
    simpa using hiff
  induction row generalizing other with
  | nil =>
    refine (List.eq_nil_iff_forall_not_mem.2 fun visited hvisited => ?_).symm
    exact List.not_mem_nil ((hmem visited).2 hvisited)
  | cons first rest ih =>
    obtain ⟨second, others, rfl⟩ :=
      List.exists_cons_of_ne_nil (List.ne_nil_of_mem ((hmem first).1 List.mem_cons_self))
    obtain ⟨hfirst, hrest⟩ := List.pairwise_cons.1 hrow
    obtain ⟨hsecond, hothers⟩ := List.pairwise_cons.1 hother
    -- Each of the first two is in both rows, so neither key comes after the other.
    have hle : UnitKey.le first.1 second.1 = true := by
      obtain heq | hlater := List.mem_cons.1 ((hmem second).2 List.mem_cons_self)
      · rw [heq]
        simpa using UnitKey.le_total first.1 first.1
      · exact hfirst second hlater
    have hge : UnitKey.le second.1 first.1 = true := by
      obtain heq | hlater := List.mem_cons.1 ((hmem first).1 List.mem_cons_self)
      · rw [heq]
        simpa using UnitKey.le_total second.1 second.1
      · exact hsecond first hlater
    have hkey := UnitKey.le_antisymm hle hge
    have hhead := hsame first.1
    simp only [List.filter_cons, hkey, decide_true, if_true] at hhead
    obtain ⟨rfl, -⟩ := List.cons.inj hhead
    have htail : ∀ key, rest.filter (fun visited => visited.1 = key) =
        others.filter fun visited => visited.1 = key := by
      intro key
      have hall := hsame key
      by_cases heq : first.1 = key
      · simp only [List.filter_cons, heq, decide_true, if_true] at hall
        exact (List.cons.inj hall).2
      · simpa only [List.filter_cons, heq, decide_false, Bool.false_eq_true, if_false] using hall
    rw [ih hrest hothers htail fun visited => ?_]
    have hiff := congrArg (visited ∈ ·) (htail visited.1)
    simpa using hiff

/-- **There is one row of visits.** -/
theorem IsVisitOrder.unique (hrow : IsVisitOrder handles devices scope row)
    (hother : IsVisitOrder handles devices scope other) : row = other := by
  refine eq_of_filter_eq hrow.ascending hother.ascending fun key => ?_
  rw [hrow.units, hother.units]

/-! ### The names -/

/-- The names that the devices of a row claim, in the order of their claims. -/
def claimedNames (row : List (String × PassthroughDevice)) : List String :=
  row.zipIdx.flatMap fun claimant => namesOf claimant.2 claimant.1.2

/-- The names of the claims that devices make, the first of which has the given ordinal. -/
theorem names_claims (vfioRoot : String) (handles : Bool) (ordinal : Nat)
    (row : List (String × PassthroughDevice)) :
    (claims vfioRoot handles ordinal row).map Device.name =
      (row.zipIdx ordinal).flatMap fun claimant => namesOf claimant.2 claimant.1.2 := by
  induction row generalizing ordinal with
  | nil => rfl
  | cons head rest ih =>
    obtain ⟨key, d⟩ := head
    rw [claims, List.map_append, ih, List.zipIdx_cons, List.flatMap_cons, List.map_map]
    exact congrArg (· ++ _) (List.map_id _)

/-- Granting claims leaves the names that were claimed, in the order of their first claims. -/
theorem names_foldl_grant (wanted : List Device) :
    (wanted.foldl grant []).map Device.name = (wanted.map Device.name).eraseDups := by
  induction wanted using List.reverseRecOn with
  | nil => rfl
  | append_singleton wanted last ih =>
    rw [List.foldl_append, List.foldl_cons, List.foldl_nil, List.map_append, List.map_singleton,
      Index.eraseDups_concat]
    by_cases htaken : last.name ∈ wanted.map Device.name
    · rw [grant_of_mem (by rwa [ih, List.mem_eraseDups]), if_pos htaken, ih]
    · rw [grant_of_not_mem (by rwa [ih, List.mem_eraseDups]), if_neg htaken, List.map_append, ih,
        List.map_singleton]

/-- **The names are those that are claimed**, in the order of their first claims. -/
theorem names_enterFrom (vfioRoot : String) (handles : Bool)
    (row : List (String × PassthroughDevice)) :
    (enterFrom vfioRoot handles 0 [] row).map Device.name = (claimedNames row).eraseDups := by
  rw [enterFrom_eq_foldl_claims, names_foldl_grant, names_claims]
  rfl

/-- A name is claimed by the device at some place. -/
theorem mem_claimedNames {name : String} :
    name ∈ claimedNames row ↔ ∃ place visited, row[place]? = some visited ∧
      name ∈ namesOf place visited.2 := by
  rw [claimedNames, List.mem_flatMap]
  constructor
  · rintro ⟨⟨visited, place⟩, hmem, hname⟩
    exact ⟨place, visited, List.mem_zipIdx_iff_getElem?.1 hmem, hname⟩
  · rintro ⟨place, visited, hfound, hname⟩
    exact ⟨(visited, place), List.mem_zipIdx_iff_getElem?.2 hfound, hname⟩

/-- **What names are claimed**: ordinals, numbers of groups and handles. -/
theorem mem_claimedNames_iff {name : String} :
    name ∈ claimedNames row ↔
      (∃ ordinal < row.length, name = toString ordinal) ∨
        (∃ visited ∈ row, name = toString visited.2.group.toNat) ∨
          ∃ visited ∈ row, visited.2.handle = some name := by
  rw [mem_claimedNames]
  constructor
  · rintro ⟨place, visited, hfound, hname⟩
    have hvisited := List.mem_of_getElem? hfound
    simp only [namesOf, List.mem_append, List.mem_cons, List.not_mem_nil, or_false,
      Option.mem_toList] at hname
    rcases hname with (hordinal | hgroup) | hhandle
    · exact .inl ⟨place, (List.getElem?_eq_some_iff.1 hfound).1, hordinal⟩
    · exact .inr (.inl ⟨visited, hvisited, hgroup⟩)
    · exact .inr (.inr ⟨visited, hvisited, hhandle⟩)
  · rintro (⟨ordinal, hlt, rfl⟩ | ⟨visited, hvisited, rfl⟩ | ⟨visited, hvisited, hhandle⟩)
    · exact ⟨ordinal, row[ordinal], List.getElem?_eq_getElem hlt, by simp [namesOf]⟩
    · obtain ⟨place, hfound⟩ := List.getElem?_of_mem hvisited
      exact ⟨place, visited, hfound, by simp [namesOf]⟩
    · obtain ⟨place, hfound⟩ := List.getElem?_of_mem hvisited
      exact ⟨place, visited, hfound, by simp [namesOf, hhandle]⟩

/-! ### The entries -/

/-- **The entries that a row of visits asks for.** -/
structure IsEntered (vfioRoot : String) (handles : Bool) (row : List (String × PassthroughDevice))
    (entries : List Device) : Prop where
  /-- No name is there twice. -/
  distinct : (entries.map Device.name).Nodup
  /-- The names are the ordinals, the numbers of groups and the handles of the devices. -/
  names : ∀ name, name ∈ entries.map Device.name ↔
    (∃ ordinal < row.length, name = toString ordinal) ∨
      (∃ visited ∈ row, name = toString visited.2.group.toNat) ∨
        ∃ visited ∈ row, visited.2.handle = some name
  /-- They come in the order in which they are first claimed. -/
  order : entries.map Device.name = (claimedNames row).eraseDups
  /-- An entry has the nodes of the first device that claims its name. -/
  nodes : ∀ entry ∈ entries, ∃ place visited, IsFirst row 0 entry.name place visited ∧
    entry.nodes = deviceNodes vfioRoot visited.1 handles visited.2

/-- An entry has the nodes of the first device that claims its name. -/
theorem exists_isFirst_of_mem {vfioRoot : String} {entry : Device}
    (hentry : entry ∈ enterFrom vfioRoot handles 0 [] row) :
    ∃ place visited, IsFirst row 0 entry.name place visited ∧
      entry.nodes = deviceNodes vfioRoot visited.1 handles visited.2 := by
  have hname : entry.name ∈ claimedNames row := by
    rw [← List.mem_eraseDups, ← names_enterFrom vfioRoot handles]
    exact List.mem_map_of_mem hentry
  obtain ⟨place, visited, hfound, hclaims⟩ := mem_claimedNames.1 hname
  have hclaims' : entry.name ∈ namesOf (0 + place) visited.2 := by rwa [Nat.zero_add]
  obtain ⟨first, claimant, -, hfirst⟩ := exists_isFirst hfound hclaims'
  refine ⟨first, claimant, hfirst, ?_⟩
  -- The entry is the only one of its name, and that one has the nodes of the claimant.
  have hsole := filter_name_of_find? (nodup_names_enterFrom vfioRoot handles 0 row)
    (hfirst.find?_enterFrom vfioRoot handles)
  have hmem : entry ∈ (enterFrom vfioRoot handles 0 [] row).filter
      (fun other => other.name = entry.name) :=
    List.mem_filter.2 ⟨hentry, decide_eq_true rfl⟩
  rw [hsole, List.mem_singleton] at hmem
  exact congrArg Device.nodes hmem

/-- **Entering the devices of a row gives what the row asks for.** -/
theorem isEntered_enterFrom (vfioRoot : String) (handles : Bool)
    (row : List (String × PassthroughDevice)) :
    IsEntered vfioRoot handles row (enterFrom vfioRoot handles 0 [] row) where
  distinct := nodup_names_enterFrom vfioRoot handles 0 row
  names name := by rw [names_enterFrom, List.mem_eraseDups, mem_claimedNames_iff]
  order := names_enterFrom vfioRoot handles row
  nodes _ hentry := exists_isFirst_of_mem hentry

/-! ### The specification -/

/-- What is built has the entries that the visits ask for. -/
theorem eq_of_build? {s : Snapshot} {c : Config} {className : String} {spec : Spec}
    (hspec : build? s c className scope = some spec) :
    spec = ⟨c.cdiVendor, className, enterFrom c.vfioRoot s.handles 0 [] (visits s scope)⟩ := by
  rw [build?] at hspec
  split at hspec
  · cases hspec
  · exact (Option.some.inj hspec).symm

/-- **The order in which the units are kept does not matter.** -/
theorem build?_of_perm_units {s : Snapshot} (hs : s.WellKeyed)
    {units : List (String × List PassthroughDevice)} (hperm : units.Perm s.units) (c : Config)
    (className : String) (scope : Scope) :
    build? { s with units := units } c className scope = build? s c className scope := by
  have hunit : ∀ key, Snapshot.unit? { s with units := units } key = s.unit? key :=
    Index.lookup_of_perm hs.nodup hperm
  have horder : inKeyOrder { s with units := units } = inKeyOrder s := by
    simp only [inKeyOrder, hunit, UnitKey.sort_eq_of_perm (hperm.map Prod.fst)]
  rw [build?, horder, build?]

/-- **What the specification of a scope is built from.** -/
structure IsBuiltFrom (handles : Bool) (devices : List PassthroughDevice) (scope : Scope)
    (c : Config) (className : String) (row : List (String × PassthroughDevice)) : Prop where
  /-- The row shows the devices in scope, unit by unit in the order of the keys, -/
  visits : IsVisitOrder handles devices scope row
  /-- and is the only one that does. -/
  only : ∀ other, IsVisitOrder handles devices scope other → other = row
  /-- Nothing is built exactly if no device is in scope. -/
  none_iff : build? (Snapshot.ofDevices handles devices) c className scope = none ↔
    ∀ d ∈ devices, scope.covers d = false
  /-- What is built has the entries that the row asks for. -/
  entries : ∀ spec, build? (Snapshot.ofDevices handles devices) c className scope = some spec →
    spec.vendor = c.cdiVendor ∧ spec.className = className ∧
      IsEntered c.vfioRoot handles row spec.devices
  /-- The order in which the units are kept does not matter. -/
  shuffled : ∀ units, units.Perm (Snapshot.ofDevices handles devices).units →
    build? { Snapshot.ofDevices handles devices with units := units } c className scope =
      build? (Snapshot.ofDevices handles devices) c className scope

/-- A device in the row is one of those in scope, and comes with the key of its unit. -/
theorem IsVisitOrder.of_mem (hrow : IsVisitOrder handles devices scope row)
    {visited : String × PassthroughDevice} (hvisited : visited ∈ row) :
    ∃ d ∈ devices, scope.covers d = true ∧ visited = (d.unitKey handles, d) := by
  have hunit : visited ∈ row.filter fun other => other.1 = visited.1 :=
    List.mem_filter.2 ⟨hvisited, decide_eq_true rfl⟩
  rw [hrow.units] at hunit
  obtain ⟨d, hd, hpair⟩ := List.mem_map.1 hunit
  obtain ⟨hmembers, hcovers⟩ := List.mem_filter.1 hd
  obtain ⟨hd, hkey⟩ := List.mem_filter.1 hmembers
  exact ⟨d, hd, hcovers, by rw [of_decide_eq_true hkey, ← hpair]⟩

/-- **The nodes that a device brings**: the node of its handle where the host gives out handles and
the device has one, else the control node and the node of its group. -/
inductive BringsNodes (vfioRoot : String) (d : PassthroughDevice) : Bool → List String → Prop
  | handle {handle : String} (hhandle : d.handle = some handle) :
      BringsNodes vfioRoot d true [Isolation.handleNode vfioRoot handle]
  | group {handles : Bool} (hnone : handles = true → d.handle = none) :
      BringsNodes vfioRoot d handles
        [Isolation.controlNode vfioRoot, Isolation.groupNode vfioRoot (toString d.group.toNat)]

/-- A device brings its nodes. -/
theorem bringsNodes_deviceNodes (vfioRoot : String) (handles : Bool) (d : PassthroughDevice) :
    BringsNodes vfioRoot d handles (deviceNodes vfioRoot (d.unitKey handles) handles d) := by
  cases handles with
  | false =>
    rw [deviceNodes_of_group, PassthroughDevice.unitKey_of_group]
    exact .group nofun
  | true =>
    cases hhandle : d.handle with
    | some handle =>
      rw [deviceNodes_of_handle hhandle]
      exact .handle hhandle
    | none =>
      have hkey : d.unitKey true = toString d.group.toNat := by
        simp only [PassthroughDevice.unitKey, hhandle]
      have hnodes : deviceNodes vfioRoot (d.unitKey true) true d =
          [Isolation.controlNode vfioRoot, Isolation.groupNode vfioRoot (d.unitKey true)] := by
        simp only [deviceNodes, hhandle]
      rw [hnodes, hkey]
      exact .group fun _ => hhandle

/-- **Which nodes an entry has**: those that the first device in scope that claims its name
brings. -/
theorem IsBuiltFrom.exists_bringsNodes {c : Config} {className : String} {spec : Spec}
    (h : IsBuiltFrom handles devices scope c className row)
    (hspec : build? (Snapshot.ofDevices handles devices) c className scope = some spec)
    {entry : Device} (hentry : entry ∈ spec.devices) :
    ∃ place, ∃ d ∈ devices, scope.covers d = true ∧
      IsFirst row 0 entry.name place (d.unitKey handles, d) ∧
        BringsNodes c.vfioRoot d handles entry.nodes := by
  obtain ⟨-, -, hentered⟩ := h.entries spec hspec
  obtain ⟨place, visited, hfirst, hnodes⟩ := hentered.nodes entry hentry
  obtain ⟨d, hd, hcovers, rfl⟩ := h.visits.of_mem (List.mem_of_getElem? hfirst.found)
  exact ⟨place, d, hd, hcovers, hfirst, hnodes ▸ bringsNodes_deviceNodes c.vfioRoot handles d⟩

/-- Of two devices of a group the second has only its handle left for a name, and that has the node
of the handle only where the host gives out handles. -/
example : ∀ handles : Bool,
    let d : PassthroughDevice := { group := 1, handle := some "vfio3" }
    enterFrom "/dev/vfio" handles 0 [] [("1", { group := 1 }), (d.unitKey handles, d)] =
      [⟨"0", ["/dev/vfio/vfio", "/dev/vfio/1"]⟩, ⟨"1", ["/dev/vfio/vfio", "/dev/vfio/1"]⟩,
        ⟨"vfio3", if handles then ["/dev/vfio/devices/vfio3"]
          else ["/dev/vfio/vfio", "/dev/vfio/1"]⟩] := by
  decide +kernel

/-- **A specification is built from the one row of visits**, whatever order the units are kept in. -/
theorem exists_isBuiltFrom (handles : Bool) (devices : List PassthroughDevice) (scope : Scope)
    (c : Config) (className : String) :
    ∃ row, IsBuiltFrom handles devices scope c className row := by
  have hvisits := isVisitOrder_visits handles devices scope
  refine ⟨visits (Snapshot.ofDevices handles devices) scope, hvisits, ?_, ?_, ?_, ?_⟩
  · exact fun other hother => hother.unique hvisits
  · rw [← Option.not_isSome_iff_eq_none, build?_isSome_iff]
    simp
  · intro spec hspec
    obtain rfl := eq_of_build? hspec
    rw [Snapshot.handles_ofDevices]
    exact ⟨rfl, rfl, isEntered_enterFrom c.vfioRoot handles _⟩
  · exact fun units hperm =>
      build?_of_perm_units (Snapshot.wellKeyed_ofDevices handles devices) hperm c className scope

end GpuPassthrough.Cdi.Spec
