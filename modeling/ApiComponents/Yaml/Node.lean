import ApiComponents.Yaml.Written

/-! # YAML nodes

A document as a tree without aliases: each stands replaced by the node that its anchor names.
An anchor gets a number when it is defined, namely the count of different names so far; numbers
may coincide, and then the node defined last has the number.
-/

namespace ApiComponents.Yaml

/-! ## Anchors -/

/-- A node with a number, and its place in the order of all such nodes. -/
structure Anchored where
  number : Nat
  order : Nat
  node : Written Nat

/-- What is known about anchors at some point of a document. -/
structure Anchors where
  names : List (String × Nat) := []
  defined : Nat := 0
  nodes : List Anchored := []

namespace Anchors

/-- The place and the number for a node that starts here, if it has an anchor. -/
def define (anchors : Anchors) (properties : Properties) : Anchors × Option (Nat × Nat) :=
  match properties.anchor with
  | none => (anchors, none)
  | some name =>
      let number := anchors.names.length
      let names :=
        if (anchors.names.lookup name).isSome then
          anchors.names.map fun pair => if pair.1 == name then (name, number) else pair
        else anchors.names ++ [(name, number)]
      ({ anchors with names, defined := anchors.defined + 1 }, some (number, anchors.defined))

/-- Keep a node that has ended, if it has a number. -/
def keep (anchors : Anchors) (place : Option (Nat × Nat)) (node : Written Nat) : Anchors :=
  match place with
  | none => anchors
  | some (number, order) => { anchors with nodes := ⟨number, order, node⟩ :: anchors.nodes }

def last (best : Option Anchored) (number : Nat) : List Anchored → Option Anchored
  | [] => best
  | entry :: rest =>
      let isBetter := entry.number = number ∧ (best.all fun other => other.order < entry.order)
      last (if isBetter then some entry else best) number rest

def node? (anchors : Anchors) (number : Nat) : Option (Written Nat) :=
  (last none number anchors.nodes).map Anchored.node

end Anchors

namespace Written

mutual
/-- Give the aliases of a node the numbers of their anchors; each needs an anchor before it. -/
def number? (anchors : Anchors) : Written String → Option (Written Nat × Anchors)
  | aliasOf name mark =>
      (anchors.names.lookup name).map fun number => (aliasOf number mark, anchors)
  | scalar properties mark text isPlain =>
      let (anchors, place) := anchors.define properties
      let node := scalar properties mark text isPlain
      some (node, anchors.keep place node)
  | list properties mark items =>
      let (anchors, place) := anchors.define properties
      match numberItems? anchors items with
      | none => none
      | some (items, anchors) =>
          let node := list properties mark items
          some (node, anchors.keep place node)
  | map properties mark entries =>
      let (anchors, place) := anchors.define properties
      match numberEntries? anchors entries with
      | none => none
      | some (entries, anchors) =>
          let node := map properties mark entries
          some (node, anchors.keep place node)

def numberItems? (anchors : Anchors) : List (Written String) → Option (List (Written Nat) × Anchors)
  | [] => some ([], anchors)
  | item :: rest =>
      match item.number? anchors with
      | none => none
      | some (item, anchors) =>
          match numberItems? anchors rest with
          | none => none
          | some (items, anchors) => some (item :: items, anchors)

def numberEntries? (anchors : Anchors) :
    List (Written String × Written String) → Option (List (Written Nat × Written Nat) × Anchors)
  | [] => some ([], anchors)
  | (key, value) :: rest =>
      match key.number? anchors with
      | none => none
      | some (key, anchors) =>
          match value.number? anchors with
          | none => none
          | some (value, anchors) =>
              match numberEntries? anchors rest with
              | none => none
              | some (entries, anchors) => some ((key, value) :: entries, anchors)
end

mutual
/-- How many starts and ends a node has; scalars and aliases count once. -/
def eventCount {α : Type} : Written α → Nat
  | aliasOf _ _ => 1
  | scalar _ _ _ _ => 1
  | list _ _ items => 2 + itemEvents items
  | map _ _ entries => 2 + entryEvents entries

/-- How many starts and ends the items of a sequence have. -/
def itemEvents {α : Type} : List (Written α) → Nat
  | [] => 0
  | item :: rest => item.eventCount + itemEvents rest

/-- How many starts and ends the entries of a mapping have. -/
def entryEvents {α : Type} : List (Written α × Written α) → Nat
  | [] => 0
  | (key, value) :: rest => key.eventCount + value.eventCount + entryEvents rest
end

end Written

/-! ## Trees -/

structure Entry (ν : Type) where
  /-- The key's text, when it is written as a scalar. -/
  label : Option String
  key : ν
  value : ν

inductive Node where
  /-- No node at all: the source holds no document. -/
  | nothing (mark : Mark)
  /-- A scalar, written plainly or not. -/
  | scalar (mark : Mark) (tag : Option String) (text : String) (isPlain : Bool)
  | list (mark : Mark) (tag : Option String) (items : List Node)
  | map (mark : Mark) (tag : Option String) (entries : List (Entry Node))
  /-- A collection, a mapping or not, inside too many others. -/
  | tooDeep (mark : Mark) (tag : Option String) (isMap : Bool)
  | exhausted

def depthLimit : Nat := 128

/-- How many aliases each start and end of a node allows. -/
def aliasesPerEvent : Nat := 100

/-- The key's text, when it is written as a scalar. -/
def Written.label {α : Type} : Written α → Option String
  | scalar _ _ text _ => some text
  | _ => none

/-- Apply a step that may follow aliases to all elements, first to last, passing on how many
    aliases are left. -/
def mapCounting {α β : Type} (step : Nat → α → β × Nat) (budget : Nat) (elements : List α) :
    List β × Nat :=
  let (found, budget) := elements.foldl
    (fun (state : Array β × Nat) element =>
      let (result, budget) := step state.2 element
      (state.1.push result, budget)) (#[], budget)
  (found.toList, budget)

/-- The node that an alias leads to. Aliases do not lead to aliases. -/
def followed (anchors : Anchors) (budget : Nat) : Written Nat → Option (Written Nat) × Nat
  | .aliasOf number _ => if budget = 0 then (none, 0) else (anchors.node? number, budget - 1)
  | node => (some node, budget)

/-- The tree of a node inside collections of which `depth` more may be opened, and how many of
    `budget` aliases are left. -/
def Node.expand (anchors : Anchors) (depth budget : Nat) (written : Written Nat) : Node × Nat :=
  match depth, followed anchors budget written with
  | _, (none, budget) | _, (some (.aliasOf _ _), budget) => (.exhausted, budget)
  | _, (some (.scalar properties mark text isPlain), budget) =>
      (.scalar mark properties.tag text isPlain, budget)
  | 0, (some (.list properties mark _), budget) => (.tooDeep mark properties.tag false, budget)
  | 0, (some (.map properties mark _), budget) => (.tooDeep mark properties.tag true, budget)
  | depth + 1, (some (.list properties mark items), budget) =>
      let (items, budget) := mapCounting (expand anchors depth) budget items
      (.list mark properties.tag items, budget)
  | depth + 1, (some (.map properties mark entries), budget) =>
      let (entries, budget) := mapCounting
        (fun budget (entry : Written Nat × Written Nat) =>
          let (key, budget) := expand anchors depth budget entry.1
          let (value, budget) := expand anchors depth budget entry.2
          (⟨entry.1.label, key, value⟩, budget)) budget entries
      (.map mark properties.tag entries, budget)

/-- The tree of what a source holds, if every alias has an anchor. -/
def Node.ofWritten? : WrittenSource → Option Node
  | .empty mark => some (.nothing mark)
  | .document root =>
      match root.number? {} with
      | none => none
      | some (root, anchors) =>
          some (Node.expand anchors depthLimit (aliasesPerEvent * root.eventCount) root).1

/-- The tree of a YAML text, if it is one readable document. -/
def Node.ofText? (text : String) : Option Node := do
  let source ← Source.ofText? text
  let tokens ← source.tokens?
  let written ← WrittenSource.ofTokens? tokens
  Node.ofWritten? written

end ApiComponents.Yaml
