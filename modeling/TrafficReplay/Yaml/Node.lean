import TrafficReplay.Keyed

/-!
# YAML nodes

A node is a scalar, a sequence or a mapping, with the line where it starts. There are two views of
a mapping: the first value of a key (`get?`), and the plain value (`toValue`), in which a later
entry for a key replaces the value of an earlier one.
-/

namespace TrafficReplay.Yaml

/-- A node of a document. -/
inductive Node
  | scalar (line : Nat) (text : Text)
  | sequence (line : Nat) (items : List Node)
  | mapping (line : Nat) (entries : List (Node × Node))
  deriving Repr, Inhabited

/-- A node without its lines; the keys of a map are texts. -/
inductive Value
  | text (s : Text)
  | list (items : List Value)
  | map (entries : Keyed Value)
  deriving Repr

/-- A sequence or a mapping is no key of a plain value. -/
inductive KeyFault
  | notAText
  deriving DecidableEq, Repr

namespace Node

/-- The line where a node starts. -/
def line : Node → Nat
  | .scalar l _ => l
  | .sequence l _ => l
  | .mapping l _ => l

/-- Whether a node is a scalar. -/
def isScalar : Node → Bool
  | .scalar .. => true
  | _ => false

/-- Whether a node is a sequence. -/
def isSequence : Node → Bool
  | .sequence .. => true
  | _ => false

/-- Whether a node is a mapping. -/
def isMapping : Node → Bool
  | .mapping .. => true
  | _ => false

/-- The text of a scalar, if the node is one. -/
def scalar? : Node → Option Text
  | .scalar _ s => some s
  | _ => none

/-- The text of a scalar; other nodes have the empty text. -/
def text (n : Node) : Text := n.scalar?.getD ""

/-- The items of a sequence; other nodes have none. -/
def items : Node → List Node
  | .sequence _ ns => ns
  | _ => []

/-- The entries of a mapping; other nodes have none. -/
def entries : Node → List (Node × Node)
  | .mapping _ es => es
  | _ => []

/-- The number of items or entries. -/
def size : Node → Nat
  | .scalar .. => 0
  | .sequence _ ns => ns.length
  | .mapping _ es => es.length

/-- The value of the first entry whose key is a scalar with the given text. -/
def lookup (key : Text) : List (Node × Node) → Option Node
  | [] => none
  | (k, v) :: es => if k.scalar? = some key then some v else lookup key es

/-- The value of a key of a mapping. -/
def get? (n : Node) (key : Text) : Option Node := lookup key n.entries

/-- Whether a node is a mapping with a key. -/
def has (n : Node) (key : Text) : Bool := (n.get? key).isSome

mutual

/-- The plain value of a node. -/
def toValue : Node → Except KeyFault Value
  | .scalar _ s => .ok (.text s)
  | .sequence _ ns => return .list (← toValues ns)
  | .mapping _ es => return .map (← toMap .empty es)

/-- The plain values of some nodes. -/
def toValues : List Node → Except KeyFault (List Value)
  | [] => .ok []
  | n :: ns => return (← n.toValue) :: (← toValues ns)

/-- Put the plain values of some entries into a map, one after another. -/
def toMap (m : Keyed Value) : List (Node × Node) → Except KeyFault (Keyed Value)
  | [] => .ok m
  | e :: es => do toMap (← putEntry m e) es

/-- Put the plain value of an entry into a map. -/
def putEntry (m : Keyed Value) : Node × Node → Except KeyFault (Keyed Value)
  | (k, v) => do
    let key ← k.toValue
    let value ← v.toValue
    match key with
    | .text s => return m.put s value
    | _ => throw .notAText

end

end Node

end TrafficReplay.Yaml
