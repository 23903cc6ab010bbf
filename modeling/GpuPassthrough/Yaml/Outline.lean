import GpuPassthrough.Yaml.Line

/-!
# Outlines and Nodes

The columns of its tokens give a document its structure: what is deeper than a token belongs to it.
An item of a sequence is deeper than a key in the same column, since the sequence may be the value
of that key. From the outline the nodes of the document are built: the parts of a sequence or of a
mapping stand in one column, and a value that stands on one line stands alone.
-/

namespace GpuPassthrough.Yaml

/-- How deep a token is. -/
def Token.depth (t : Token) : Nat :=
  match t.mark with
  | .entry => 2 * t.column + 1
  | _ => 2 * t.column

/-- Tokens with what belongs to them, and with those that come after. -/
inductive Outline where
  | nil
  | node (token : Token) (below after : Outline)

namespace Outline

/-- What is deeper than some depth, up to the first token that is not, and what comes after. -/
def span (depth : Nat) : Outline → Outline × Outline
  | nil => (nil, nil)
  | node t below after =>
    if depth < t.depth then (node t below (span depth after).1, (span depth after).2)
    else (nil, node t below after)

/-- Puts a token in front. -/
def push (t : Token) (o : Outline) : Outline := node t (span t.depth o).1 (span t.depth o).2

/-- The outline of some tokens. -/
def ofTokens (tokens : List Token) : Outline := tokens.foldr push nil

end Outline

/-- A node of a document. -/
inductive Node where
  | null
  | scalar (s : Scalar)
  | sequence (items : List Node)
  | mapping (fields : List (Scalar × Node))

/-- The node of a value on one line. -/
def Leaf.node : Leaf → Node
  | .scalar s => .scalar s
  | .emptySequence => .sequence []
  | .emptyMapping => .mapping []

namespace Outline

mutual

/-- The node that an outline stands for. -/
def node? : Outline → Option Node
  | nil => some .null
  | node t below after =>
    match t.mark with
    | .leaf leaf =>
      match below, after with
      | nil, nil => some leaf.node
      | _, _ => none
    | .entry => do
      let first ← node? below
      let rest ← items? t.column after
      return .sequence (first :: rest)
    | .key key => do
      let first ← node? below
      let rest ← fields? t.column after
      return .mapping ((key, first) :: rest)

/-- The further items of a sequence. -/
def items? (column : Nat) : Outline → Option (List Node)
  | nil => some []
  | node t below after =>
    if t = ⟨column, .entry⟩ then do
      let first ← node? below
      let rest ← items? column after
      return first :: rest
    else none

/-- The further fields of a mapping. -/
def fields? (column : Nat) : Outline → Option (List (Scalar × Node))
  | nil => some []
  | node t below after =>
    match t.mark with
    | .key key =>
      if t.column = column then do
        let first ← node? below
        let rest ← fields? column after
        return (key, first) :: rest
      else none
    | _ => none

end

end Outline

/-- Reads a document. -/
def readDocument? (document : List Char) : Option Node :=
  (readTokens? document).bind fun tokens => (Outline.ofTokens tokens).node?

end GpuPassthrough.Yaml
