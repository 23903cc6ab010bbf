import GpuPassthrough.Proofs.Cdi.Visit

/-!
# Names in a Specification

A specification is the outcome of a row of claims: device after device claims its ordinal, the number
of its group and its handle, each time with its own nodes. A claim to a name that is taken has no
effect, so a name goes to the first device in the row that claims it, and to no other.

## Main results

* `enterFrom_eq_foldl_claims`: entering devices is granting their claims one after the other.
* `nodup_names_enterFrom`: no name is there twice.
* `exists_isFirst`: a name that is claimed is claimed for a first time.
* `find?_claims`: the first claim to a name.
* `IsFirst.find?_enterFrom`: the first device that claims a name gets it.
* `IsFirst.exists_spec`: the one entry of a name in a specification.
-/

namespace GpuPassthrough.Cdi.Spec

/-! ### Granting claims -/

/-- Grants a claim to a name, unless the name is taken. -/
def grant (entered : List Device) (wanted : Device) : List Device :=
  claim wanted.nodes entered wanted.name

/-- A claim is granted as a new entry, last. -/
theorem grant_of_not_mem {entered : List Device} {wanted : Device}
    (hfree : wanted.name ∉ entered.map Device.name) : grant entered wanted = entered ++ [wanted] := by
  simp only [grant, claim, hfree, if_false]

/-- A claim to a name that is taken has no effect. -/
theorem grant_of_mem {entered : List Device} {wanted : Device}
    (htaken : wanted.name ∈ entered.map Device.name) : grant entered wanted = entered :=
  claim_of_mem htaken

/-- The claims that devices make, the first of which has the given ordinal. -/
def claims (vfioRoot : String) (handles : Bool) :
    Nat → List (String × PassthroughDevice) → List Device
  | _, [] => []
  | ordinal, (key, d) :: rest =>
    (namesOf ordinal d).map (fun name => ⟨name, deviceNodes vfioRoot key handles d⟩) ++
      claims vfioRoot handles (ordinal + 1) rest

/-- **Entering devices is granting their claims** one after the other. -/
theorem enterFrom_eq_foldl_claims (vfioRoot : String) (handles : Bool) (ordinal : Nat)
    (entered : List Device) (order : List (String × PassthroughDevice)) :
    enterFrom vfioRoot handles ordinal entered order =
      (claims vfioRoot handles ordinal order).foldl grant entered := by
  induction order generalizing ordinal entered with
  | nil => rfl
  | cons head rest ih =>
    obtain ⟨key, d⟩ := head
    rw [enterFrom, ih, claims, List.foldl_append, List.foldl_map]
    rfl

/-- Granting claims leaves every name with one entry. -/
theorem nodup_names_foldl_grant {entered : List Device} (hnodup : (entered.map Device.name).Nodup)
    (wanted : List Device) : ((wanted.foldl grant entered).map Device.name).Nodup := by
  induction wanted generalizing entered with
  | nil => exact hnodup
  | cons first rest ih =>
    refine ih ?_
    by_cases htaken : first.name ∈ entered.map Device.name
    · rwa [grant_of_mem htaken]
    · rw [grant_of_not_mem htaken, List.map_append, List.map_singleton, ← List.concat_eq_append]
      exact hnodup.concat htaken

/-- **No name is there twice.** -/
theorem nodup_names_enterFrom (vfioRoot : String) (handles : Bool) (ordinal : Nat)
    (order : List (String × PassthroughDevice)) :
    ((enterFrom vfioRoot handles ordinal [] order).map Device.name).Nodup := by
  rw [enterFrom_eq_foldl_claims]
  refine nodup_names_foldl_grant ?_ _
  exact List.nodup_nil

/-- A name that has an entry keeps it, and else the first claim to it is granted. -/
theorem find?_foldl_grant (name : String) (entered wanted : List Device) :
    (wanted.foldl grant entered).find? (fun entry => entry.name = name) =
      (entered.find? fun entry => entry.name = name).or
        (wanted.find? fun entry => entry.name = name) := by
  induction wanted generalizing entered with
  | nil => rw [List.foldl_nil, List.find?_nil, Option.or_none]
  | cons first rest ih =>
    rw [List.foldl_cons, ih]
    by_cases htaken : first.name ∈ entered.map Device.name
    · rw [grant_of_mem htaken]
      by_cases hname : first.name = name
      · -- The name has an entry, so neither the claim nor those after it matter.
        obtain ⟨entry, hentry, heq⟩ := List.mem_map.1 htaken
        have hsome : (entered.find? fun entry => entry.name = name).isSome :=
          List.find?_isSome.2 ⟨entry, hentry, decide_eq_true (heq.trans hname)⟩
        obtain ⟨found, hfound⟩ := Option.isSome_iff_exists.1 hsome
        rw [hfound, Option.some_or, Option.some_or]
      · rw [List.find?_cons_of_neg (by simpa using hname)]
    · rw [grant_of_not_mem htaken, List.find?_append, Option.or_assoc, ← List.find?_append,
        List.singleton_append]

/-- If no name is there twice, an entry is the only one of its name. -/
theorem filter_name_of_find? {entries : List Device} (hnodup : (entries.map Device.name).Nodup)
    {name : String} {entry : Device}
    (hfind : entries.find? (fun entry => entry.name = name) = some entry) :
    entries.filter (fun entry => entry.name = name) = [entry] := by
  induction entries with
  | nil => cases hfind
  | cons first rest ih =>
    obtain ⟨hnew, hrest⟩ := List.nodup_cons.1 hnodup
    by_cases hname : first.name = name
    · simp only [List.find?_cons, hname, decide_true, Option.some.injEq] at hfind
      subst hfind
      have hnone : rest.filter (fun entry => entry.name = name) = [] := by
        refine List.filter_eq_nil_iff.2 fun other hother heq => hnew ?_
        rw [hname, ← of_decide_eq_true heq]
        exact List.mem_map_of_mem hother
      simp only [List.filter_cons, hname, decide_true, if_true, hnone]
    · simp only [List.find?_cons, hname, decide_false] at hfind
      simp only [List.filter_cons, hname, decide_false, Bool.false_eq_true, if_false,
        ih hrest hfind]

/-! ### The first claim -/

/-- **A device is the first to claim a name**: it does, and no device before it does. The first
device in the row has the given ordinal. -/
structure IsFirst (order : List (String × PassthroughDevice)) (ordinal : Nat) (name : String)
    (place : Nat) (visited : String × PassthroughDevice) : Prop where
  found : order[place]? = some visited
  claims : name ∈ namesOf (ordinal + place) visited.2
  unclaimed : ∀ earlier < place, ∀ other, order[earlier]? = some other →
    name ∉ namesOf (ordinal + earlier) other.2

/-- **A name that is claimed is claimed for a first time**, by the device at hand or by one before
it. -/
theorem exists_isFirst {order : List (String × PassthroughDevice)} {ordinal place : Nat}
    {name : String} {visited : String × PassthroughDevice} (hfound : order[place]? = some visited)
    (hclaims : name ∈ namesOf (ordinal + place) visited.2) :
    ∃ first claimant, first ≤ place ∧ IsFirst order ordinal name first claimant := by
  induction place using Nat.strongRecOn generalizing visited with
  | ind place ih =>
    by_cases hbefore : ∃ earlier < place, ∃ other, order[earlier]? = some other ∧
        name ∈ namesOf (ordinal + earlier) other.2
    · obtain ⟨earlier, hlt, other, hother, hname⟩ := hbefore
      obtain ⟨first, claimant, hle, hfirst⟩ := ih earlier hlt hother hname
      exact ⟨first, claimant, Nat.le_trans hle (Nat.le_of_lt hlt), hfirst⟩
    · refine ⟨place, visited, Nat.le_refl _, hfound, hclaims, ?_⟩
      intro earlier hlt other hother hname
      exact hbefore ⟨earlier, hlt, other, hother, hname⟩

/-- A device claims its names. -/
theorem find?_map_of_mem {names : List String} {name : String} (hname : name ∈ names)
    (nodes : List String) :
    (names.map fun other => (⟨other, nodes⟩ : Device)).find? (fun entry => entry.name = name) =
      some ⟨name, nodes⟩ := by
  induction names with
  | nil => cases hname
  | cons first rest ih =>
    by_cases heq : first = name
    · simp [heq]
    · have hrest := (List.mem_cons.1 hname).resolve_left (Ne.symm heq)
      rw [List.map_cons, List.find?_cons_of_neg (by simpa using heq), ih hrest]

/-- A device claims no name but its own. -/
theorem find?_map_of_not_mem {names : List String} {name : String} (hname : name ∉ names)
    (nodes : List String) :
    (names.map fun other => (⟨other, nodes⟩ : Device)).find? (fun entry => entry.name = name) =
      none := by
  rw [List.find?_eq_none]
  rintro entry hentry heq
  obtain ⟨other, hother, rfl⟩ := List.mem_map.1 hentry
  exact hname (of_decide_eq_true heq ▸ hother)

/-- The first claim to a name is made by the first device that claims it. -/
theorem IsFirst.find?_claims {order : List (String × PassthroughDevice)} {ordinal place : Nat}
    {name : String} {visited : String × PassthroughDevice}
    (hfirst : IsFirst order ordinal name place visited) (vfioRoot : String) (handles : Bool) :
    (Spec.claims vfioRoot handles ordinal order).find? (fun entry => entry.name = name) =
      some ⟨name, deviceNodes vfioRoot visited.1 handles visited.2⟩ := by
  induction order generalizing ordinal place with
  | nil => cases hfirst.found
  | cons head rest ih =>
    obtain ⟨key, d⟩ := head
    rw [Spec.claims, List.find?_append]
    cases place with
    | zero =>
      obtain rfl := Option.some.inj hfirst.found
      have hclaims : name ∈ namesOf ordinal d := hfirst.claims
      rw [find?_map_of_mem hclaims, Option.some_or]
    | succ place =>
      have hhead : name ∉ namesOf ordinal d :=
        hfirst.unclaimed 0 (Nat.succ_pos place) (key, d) rfl
      have hrest : IsFirst rest (ordinal + 1) name place visited := by
        refine ⟨hfirst.found, ?_, fun earlier hlt other hother => ?_⟩
        · rw [Nat.add_assoc, Nat.add_comm 1]
          exact hfirst.claims
        · rw [Nat.add_assoc, Nat.add_comm 1]
          exact hfirst.unclaimed (earlier + 1) (Nat.succ_lt_succ hlt) other hother
      rw [find?_map_of_not_mem hhead, Option.none_or, ih hrest]

/-- **The first device that claims a name gets it**, with its own nodes. -/
theorem IsFirst.find?_enterFrom {order : List (String × PassthroughDevice)} {ordinal place : Nat}
    {name : String} {visited : String × PassthroughDevice}
    (hfirst : IsFirst order ordinal name place visited) (vfioRoot : String) (handles : Bool) :
    (enterFrom vfioRoot handles ordinal [] order).find? (fun entry => entry.name = name) =
      some ⟨name, deviceNodes vfioRoot visited.1 handles visited.2⟩ := by
  rw [enterFrom_eq_foldl_claims, find?_foldl_grant, hfirst.find?_claims]
  rfl

/-! ### The specification -/

/-- **A name that is claimed has one entry**, with the nodes of the first device that claims it. -/
theorem IsFirst.exists_spec {s : Snapshot} {scope : Scope} {place : Nat} {name : String}
    {visited : String × PassthroughDevice} (hfirst : IsFirst (visits s scope) 0 name place visited)
    (c : Config) (className : String) :
    ∃ spec, build? s c className scope = some spec ∧
      spec.devices.filter (fun entry => entry.name = name) =
        [⟨name, deviceNodes c.vfioRoot visited.1 s.handles visited.2⟩] := by
  have hfind := hfirst.find?_enterFrom c.vfioRoot s.handles
  have hne : enterFrom c.vfioRoot s.handles 0 [] (visits s scope) ≠ [] := by
    intro hnil
    rw [hnil] at hfind
    cases hfind
  refine ⟨⟨c.cdiVendor, className, enterFrom c.vfioRoot s.handles 0 [] (visits s scope)⟩, ?_, ?_⟩
  · rw [visits] at hne
    rw [build?, if_neg (by simpa using hne), visits]
  · exact filter_name_of_find? (nodup_names_enterFrom ..) hfind

end GpuPassthrough.Cdi.Spec
