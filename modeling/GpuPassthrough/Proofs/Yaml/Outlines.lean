import GpuPassthrough.Yaml.Outline
import Mathlib.Data.List.Basic

/-!
# Outlines of Blocks

A token with deeper ones behind it is a block. In front of whatever is not deeper than its head, a
block is one node of the outline, and the rest stays as it is. So the outline of a document is put
together from those of its blocks.

## Main results

* `foldr_push_of_deeper`: deeper tokens in front of an outline.
* `foldr_push_block`: a block in front of an outline.
* `node?_flatMap`: blocks of entries are a sequence of their items.
-/

namespace GpuPassthrough.Yaml

namespace Outline

/-- One outline after another. -/
def append : Outline → Outline → Outline
  | nil, o => o
  | node t below after, o => node t below (append after o)

/-- **An outline does not start deeper** than some depth. -/
def Stops (depth : Nat) : Outline → Prop
  | nil => True
  | node t _ _ => t.depth ≤ depth

variable {depth : Nat} {o : Outline}

/-- What does not start deeper is left alone. -/
theorem span_of_stops (h : o.Stops depth) : span depth o = (nil, o) := by
  cases o with
  | nil => rfl
  | node t below after => rw [span, if_neg (Nat.not_lt.2 h)]

/-- What is deeper is taken from the outline in front only. -/
theorem span_append (front : Outline) (h : o.Stops depth) :
    span depth (front.append o) =
      ((span depth front).1, (span depth front).2.append o) := by
  induction front with
  | nil => exact span_of_stops h
  | node t below after _ ih =>
    rw [append, span, span, ih]
    split <;> rfl

/-- **Deeper tokens in front of an outline** do not take anything of it. -/
theorem foldr_push_of_deeper {tokens : List Token} (h : ∀ t ∈ tokens, depth < t.depth)
    (hstops : o.Stops depth) : tokens.foldr push o = (ofTokens tokens).append o := by
  induction tokens with
  | nil => rfl
  | cons t rest ih =>
    rw [List.forall_mem_cons] at h
    have hdeeper : o.Stops t.depth := by
      cases o with
      | nil => trivial
      | node u below after => exact Nat.le_trans hstops (Nat.le_of_lt h.1)
    rw [ofTokens, List.foldr_cons, List.foldr_cons, ih h.2, push, span_append _ hdeeper]
    rfl

/-- Whether all that stands side by side is deeper than some depth. -/
def AllDeeper (depth : Nat) : Outline → Prop
  | nil => True
  | node t _ after => depth < t.depth ∧ AllDeeper depth after

/-- If all is deeper, all is taken. -/
theorem span_of_allDeeper (h : o.AllDeeper depth) : span depth o = (o, nil) := by
  induction o with
  | nil => rfl
  | node t below after _ ih => rw [span, if_pos h.1, ih h.2]

/-- What is left of an outline is as deep as before. -/
theorem AllDeeper.span {other : Nat} (h : o.AllDeeper depth) :
    (span other o).2.AllDeeper depth := by
  induction o with
  | nil => trivial
  | node t below after _ ih =>
    rw [Outline.span]
    split
    · exact ih h.2
    · exact h

/-- Deeper tokens have a deeper outline. -/
theorem allDeeper_ofTokens {tokens : List Token} (h : ∀ t ∈ tokens, depth < t.depth) :
    (ofTokens tokens).AllDeeper depth := by
  induction tokens with
  | nil => trivial
  | cons t rest ih =>
    rw [List.forall_mem_cons] at h
    exact ⟨h.1, (ih h.2).span⟩

/-- **A block in front of an outline** is one node in front of it. -/
theorem foldr_push_block {t : Token} {rest : List Token} (h : ∀ u ∈ rest, t.depth < u.depth)
    (hstops : o.Stops t.depth) : (t :: rest).foldr push o = node t (ofTokens rest) o := by
  rw [List.foldr_cons, foldr_push_of_deeper h hstops, push, span_append _ hstops,
    span_of_allDeeper (allDeeper_ofTokens h)]
  rfl

/-! ### Nodes of blocks -/

/-- Nothing does not start deeper. -/
theorem stops_ofTokens_nil (depth : Nat) : (ofTokens []).Stops depth := trivial

/-- An outline that starts with a token does not start deeper than the token. -/
theorem stops_ofTokens_cons {t : Token} {rest : List Token} (h : t.depth ≤ depth) :
    (ofTokens (t :: rest)).Stops depth := h

variable {column : Nat} {below more : List Token} {first : Node}

/-- A block is one node in front of the outline of what comes after. -/
theorem ofTokens_block {t : Token} (h : ∀ u ∈ below, t.depth < u.depth)
    (hstops : (ofTokens more).Stops t.depth) :
    ofTokens (t :: below ++ more) = node t (ofTokens below) (ofTokens more) := by
  rw [ofTokens, List.foldr_append]
  exact foldr_push_block h hstops

/-- A block of an entry. -/
theorem ofTokens_entry (h : ∀ u ∈ below, 2 * column + 1 < u.depth)
    (hstops : (ofTokens more).Stops (2 * column + 1)) :
    ofTokens (⟨column, .entry⟩ :: below ++ more) =
      node ⟨column, .entry⟩ (ofTokens below) (ofTokens more) :=
  ofTokens_block h hstops

/-- A block of a key. -/
theorem ofTokens_key {key : Scalar} (h : ∀ u ∈ below, 2 * column < u.depth)
    (hstops : (ofTokens more).Stops (2 * column)) :
    ofTokens (⟨column, .key key⟩ :: below ++ more) =
      node ⟨column, .key key⟩ (ofTokens below) (ofTokens more) :=
  ofTokens_block h hstops

/-- A sequence starts with the item of its first block. -/
theorem node?_entry {rest : List Node} (h : ∀ u ∈ below, 2 * column + 1 < u.depth)
    (hstops : (ofTokens more).Stops (2 * column + 1)) (hfirst : (ofTokens below).node? = some first)
    (hrest : (ofTokens more).items? column = some rest) :
    (ofTokens (⟨column, .entry⟩ :: below ++ more)).node? = some (.sequence (first :: rest)) := by
  rw [ofTokens_entry h hstops]
  simp [node?, hfirst, hrest]

/-- The further items of a sequence start with the item of the first block. -/
theorem items?_entry {rest : List Node} (h : ∀ u ∈ below, 2 * column + 1 < u.depth)
    (hstops : (ofTokens more).Stops (2 * column + 1)) (hfirst : (ofTokens below).node? = some first)
    (hrest : (ofTokens more).items? column = some rest) :
    (ofTokens (⟨column, .entry⟩ :: below ++ more)).items? column = some (first :: rest) := by
  rw [ofTokens_entry h hstops]
  simp [items?, hfirst, hrest]

/-- A mapping starts with the field of its first block. -/
theorem node?_key (key : Scalar) {rest : List (Scalar × Node)}
    (h : ∀ u ∈ below, 2 * column < u.depth)
    (hstops : (ofTokens more).Stops (2 * column)) (hfirst : (ofTokens below).node? = some first)
    (hrest : (ofTokens more).fields? column = some rest) :
    (ofTokens (⟨column, .key key⟩ :: below ++ more)).node? =
      some (.mapping ((key, first) :: rest)) := by
  rw [ofTokens_key h hstops]
  simp [node?, hfirst, hrest]

/-- The further fields of a mapping start with the field of the first block. -/
theorem fields?_key (key : Scalar) {rest : List (Scalar × Node)}
    (h : ∀ u ∈ below, 2 * column < u.depth)
    (hstops : (ofTokens more).Stops (2 * column)) (hfirst : (ofTokens below).node? = some first)
    (hrest : (ofTokens more).fields? column = some rest) :
    (ofTokens (⟨column, .key key⟩ :: below ++ more)).fields? column =
      some ((key, first) :: rest) := by
  rw [ofTokens_key h hstops]
  simp [fields?, hfirst, hrest]

/-- The items of some blocks. -/
theorem items?_flatMap {α : Type} (column : Nat) (f : α → List Token) (item : α → Node)
    {xs : List α}
    (h : ∀ x ∈ xs, (∀ u ∈ f x, 2 * column + 1 < u.depth) ∧ (ofTokens (f x)).node? = some (item x)) :
    (ofTokens (xs.flatMap fun x => ⟨column, .entry⟩ :: f x)).items? column =
      some (xs.map item) := by
  induction xs with
  | nil => rfl
  | cons x rest ih =>
    rw [List.forall_mem_cons] at h
    obtain ⟨⟨hdeeper, hitem⟩, hrest⟩ := h
    rw [List.flatMap_cons]
    refine items?_entry hdeeper ?_ hitem (ih hrest)
    cases rest with
    | nil => exact stops_ofTokens_nil _
    | cons y others => exact stops_ofTokens_cons (Nat.le_refl _)

/-- **Blocks of entries are a sequence** of their items. -/
theorem node?_flatMap {α : Type} (column : Nat) (f : α → List Token) (item : α → Node)
    {xs : List α} (hne : xs ≠ [])
    (h : ∀ x ∈ xs, (∀ u ∈ f x, 2 * column + 1 < u.depth) ∧ (ofTokens (f x)).node? = some (item x)) :
    (ofTokens (xs.flatMap fun x => ⟨column, .entry⟩ :: f x)).node? =
      some (.sequence (xs.map item)) := by
  cases xs with
  | nil => exact absurd rfl hne
  | cons x rest =>
    rw [List.forall_mem_cons] at h
    obtain ⟨⟨hdeeper, hitem⟩, hrest⟩ := h
    rw [List.flatMap_cons]
    refine node?_entry hdeeper ?_ hitem (items?_flatMap column f item hrest)
    cases rest with
    | nil => exact stops_ofTokens_nil _
    | cons y others => exact stops_ofTokens_cons (Nat.le_refl _)

end Outline

end GpuPassthrough.Yaml
