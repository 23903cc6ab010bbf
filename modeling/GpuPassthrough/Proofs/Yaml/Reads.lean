import GpuPassthrough.Proofs.Yaml.Scalars

/-!
# Lines Read Back

What a reader makes of some lines does not depend on what comes after them, so the tokens of a
document are those of its parts.

## Main results

* `Reads.append`, `reads_flatMap`: parts one after the other.
* `reads_scalarLine`: a line that ends with a scalar.
-/

namespace GpuPassthrough.Yaml

/-- **Some lines are read as tokens**, whatever comes after them. -/
def Reads (text : List Char) (tokens : List Token) : Prop :=
  ∀ rest, readTokens? (text ++ rest) = (readTokens? rest).map (tokens ++ ·)

variable {text text' : List Char} {tokens tokens' : List Token}

/-- What is read of a whole document. -/
theorem Reads.readTokens? (h : Reads text tokens) : readTokens? text = some tokens := by
  have hnothing : Yaml.readTokens? [] = some [] := rfl
  have hall := h []
  rw [List.append_nil, hnothing, Option.map_some, List.append_nil] at hall
  exact hall

/-- Nothing is read as nothing. -/
theorem reads_nil : Reads [] [] := by
  intro rest
  cases hrest : Yaml.readTokens? rest <;> simp [hrest]

/-- Parts that are read one after the other. -/
theorem Reads.append (h : Reads text tokens) (h' : Reads text' tokens') :
    Reads (text ++ text') (tokens ++ tokens') := by
  intro rest
  rw [List.append_assoc, h, h', Option.map_map]
  congr 1
  funext more
  exact (List.append_assoc ..).symm

/-- Parts of one form that are read one after the other. -/
theorem reads_flatMap {α : Type} {f : α → List Char} {g : α → List Token} {xs : List α}
    (h : ∀ x ∈ xs, Reads (f x) (g x)) : Reads (xs.flatMap f) (xs.flatMap g) := by
  induction xs with
  | nil => exact reads_nil
  | cons x rest ih =>
    rw [List.forall_mem_cons] at h
    exact h.1.append (ih h.2)

/-- A line is read for itself. -/
theorem reads_line (line : List Char) (htext : IsLineText line) (hmarker : isMarker line = false)
    (hread : readContent? 0 line = some tokens) : Reads (line ++ ['\n']) tokens := by
  have hchars : line.any (fun c => !isPrintable c || isBreak c) = false := by
    rw [List.any_eq_false]
    intro c hc
    simp [htext c hc]
  have hline : readLine? line = some tokens := by
    rw [readLine?, hmarker, hchars]
    exact hread
  intro rest
  have hfeed : ∀ c ∈ line, (c == '\n') = false := by
    intro c hc
    rw [beq_eq_false_iff_ne]
    rintro rfl
    cases (htext _ hc).2
  have hsplit : (line ++ ['\n'] ++ rest).splitOn '\n' = line :: rest.splitOn '\n' := by
    rw [List.append_assoc]
    exact List.splitOnP_append_cons_of_forall_mem hfeed _ rfl rest
  rw [Yaml.readTokens?, Yaml.readTokens?, hsplit, List.mapM_cons, hline]
  cases (rest.splitOn '\n').mapM readLine? <;> rfl

/-- **A line that ends with a scalar**, behind what is read as some tokens in front of a value. -/
theorem reads_scalarLine (front : List Char) (tokens : List Token) (column indent : Nat)
    {s : List Char} (hfront : IsLineText front)
    (hmarker : ∀ w, isMarker (front ++ ' ' :: w) = false)
    (hread : ∀ w, readContent? 0 (front ++ ' ' :: w) =
      (readValue? column (' ' :: w)).map (tokens ++ ·))
    (hsingle : IsSingleLine s) :
    Reads (front ++ ' ' :: scalarLine indent s)
      (tokens ++ [⟨column, .leaf (.scalar (writtenScalar s))⟩]) := by
  obtain ⟨written, hwritten⟩ := exists_writtenAs hsingle
  have hspace : IsLineText [' '] := by decide
  have htext : IsLineText (front ++ ' ' :: written) :=
    isLineText_append.2 ⟨hfront, isLineText_append.2 ⟨hspace, hwritten.text⟩⟩
  have hcontent : readContent? 0 (front ++ ' ' :: written) =
      some (tokens ++ [⟨column, .leaf (.scalar (writtenScalar s))⟩]) := by
    rw [hread, hwritten.value]
    rfl
  have hline := reads_line _ htext (hmarker written) hcontent
  rw [hwritten.line]
  rw [List.append_assoc] at hline
  exact hline

end GpuPassthrough.Yaml
