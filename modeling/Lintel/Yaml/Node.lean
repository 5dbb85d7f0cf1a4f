import Lintel.Yaml.Token

/-!
# YAML nodes

The tree that a token sequence stands for. An alias stands for a copy of the node it names; one that
names a node it is itself a part of is refused. A text holds at most one document.

The functions below read what the tokens in front of them spell; `fuel` bounds the depth of the calls,
and the number of tokens is always enough.
-/

set_option autoImplicit false

namespace Lintel.Yaml

inductive Node where
  | scalar (text : String) (style : ScalarStyle) (tag : Option String)
  | sequence (items : List Node) (tag : Option String)
  | mapping (entries : List (Node × Node)) (tag : Option String)
deriving Repr, Inhabited

/-- The node that stands where nothing is written. -/
def Node.empty : Node := .scalar "" .plain none

/-- A node that was given a name. It has no value until it has been read to its end. -/
structure Anchor where
  name : String
  serial : Nat
  node : Option Node

/-- What is left to read, the named nodes, last first, and the tag handles of the document. -/
structure Progress where
  tokens : List Token
  anchors : List Anchor
  handles : List (String × String)

/-- Reads a part of a document. -/
abbrev NodeReader := StateT Progress Option

namespace NodeReader

def peek : NodeReader Token := do
  return (← get).tokens.head?.getD .streamEnd

def skip : NodeReader Unit :=
  modify fun progress => { progress with tokens := progress.tokens.tail }

def refuse {α : Type} : NodeReader α := StateT.lift none

/-- Gives a name to the node that is about to be read. -/
def openAnchor (name : Option String) : NodeReader (Option Nat) := do
  match name with
  | none => return none
  | some name =>
    let serial := (← get).anchors.length
    modify fun progress => { progress with anchors := ⟨name, serial, none⟩ :: progress.anchors }
    return some serial

/-- Hands out a node that has been read to its end. -/
def closeAnchor (serial : Option Nat) (node : Node) : NodeReader Node := do
  match serial with
  | none => return node
  | some serial =>
    modify fun progress =>
      { progress with
        anchors := progress.anchors.map fun anchor =>
          if anchor.serial = serial then { anchor with node := some node } else anchor }
    return node

/-- The node that an alias stands for. -/
def aliased (name : String) : NodeReader Node := do
  match (← get).anchors.find? fun anchor => anchor.name = name with
  | some anchor =>
    match anchor.node with
    | some node => return node
    | none => refuse
  | none => refuse

/-- The full name of a tag. -/
def resolveTag (handle suffix : String) : NodeReader String := do
  if handle.isEmpty then return suffix
  else match (← get).handles.find? fun entry => entry.1 = handle with
    | some entry => return entry.2 ++ suffix
    | none => refuse

/-- Reads the anchor and the tag in front of a node, in either order. -/
def properties : NodeReader (Option String × Option String) := do
  match ← peek with
  | .anchor name =>
    skip
    match ← peek with
    | .tag handle suffix =>
      skip
      return (some name, some (← resolveTag handle suffix))
    | _ => return (some name, none)
  | .tag handle suffix =>
    skip
    match ← peek with
    | .anchor name =>
      skip
      return (some name, some (← resolveTag handle suffix))
    | _ => return (none, some (← resolveTag handle suffix))
  | _ => return (none, none)

/-- Whether a token ends the place of a node in a block mapping. -/
def endsMappingNode : Token → Bool
  | .key => true
  | .value => true
  | .blockEnd => true
  | _ => false

mutual

/-- Reads a node. Blocks are read only where `block` allows it, and a sequence that is indented no
further than its mapping only where `flush` does. -/
def node (block flush : Bool) : Nat → NodeReader Node
  | 0 => refuse
  | fuel + 1 => do
    match ← peek with
    | .alias name =>
      skip
      aliased name
    | _ =>
      let (anchor, tag) ← properties
      let serial ← openAnchor anchor
      match ← peek with
      | .scalar text style =>
        skip
        closeAnchor serial (.scalar text style tag)
      | .flowSequenceStart =>
        skip
        closeAnchor serial (.sequence (← flowItems true fuel) tag)
      | .flowMappingStart =>
        skip
        closeAnchor serial (.mapping (← flowEntries true fuel) tag)
      | .blockEntry =>
        if flush then closeAnchor serial (.sequence (← flushItems fuel) tag)
        else bare serial anchor tag
      | .blockSequenceStart =>
        if block then
          skip
          closeAnchor serial (.sequence (← blockItems fuel) tag)
        else bare serial anchor tag
      | .blockMappingStart =>
        if block then
          skip
          closeAnchor serial (.mapping (← blockEntries fuel) tag)
        else bare serial anchor tag
      | _ => bare serial anchor tag

/-- A node of which there is nothing but its properties. -/
def bare (serial : Option Nat) (anchor tag : Option String) : NodeReader Node :=
  if anchor.isSome || tag.isSome then closeAnchor serial (.scalar "" .plain tag) else refuse

/-- Reads the items of a block sequence. -/
def blockItems : Nat → NodeReader (List Node)
  | 0 => refuse
  | fuel + 1 => do
    match ← peek with
    | .blockEntry =>
      skip
      let item ← match ← peek with
        | .blockEntry => pure Node.empty
        | .blockEnd => pure Node.empty
        | _ => node true false fuel
      return item :: (← blockItems fuel)
    | .blockEnd =>
      skip
      return []
    | _ => refuse

/-- Reads the items of a sequence that is indented no further than the mapping around it. -/
def flushItems : Nat → NodeReader (List Node)
  | 0 => refuse
  | fuel + 1 => do
    match ← peek with
    | .blockEntry =>
      skip
      let next ← peek
      let item ← if next = .blockEntry || endsMappingNode next then pure Node.empty
        else node true false fuel
      return item :: (← flushItems fuel)
    | _ => return []

/-- Reads the entries of a block mapping. -/
def blockEntries : Nat → NodeReader (List (Node × Node))
  | 0 => refuse
  | fuel + 1 => do
    match ← peek with
    | .key =>
      skip
      let key ← if endsMappingNode (← peek) then pure Node.empty else node true true fuel
      match ← peek with
      | .value =>
        skip
        let value ← if endsMappingNode (← peek) then pure Node.empty else node true true fuel
        return (key, value) :: (← blockEntries fuel)
      | _ => return (key, Node.empty) :: (← blockEntries fuel)
    | .blockEnd =>
      skip
      return []
    | _ => refuse

/-- Reads the items of a sequence in brackets. A key makes an item a mapping with one entry. -/
def flowItems (isFirst : Bool) : Nat → NodeReader (List Node)
  | 0 => refuse
  | fuel + 1 => do
    if (← peek) = .flowSequenceEnd then
      skip
      return []
    else
      if !isFirst then
        if (← peek) = .flowEntry then skip else refuse
      match ← peek with
      | .flowSequenceEnd =>
        skip
        return []
      | .key =>
        skip
        let entry ← pair fuel
        return .mapping [entry] none :: (← flowItems false fuel)
      | _ =>
        let item ← node false false fuel
        return item :: (← flowItems false fuel)

/-- Reads the entry that stands as an item of a sequence in brackets. Where its key is missing, the next
token is taken for it. -/
def pair : Nat → NodeReader (Node × Node)
  | 0 => refuse
  | fuel + 1 => do
    let next ← peek
    let key ← if next = .value || next = .flowEntry || next = .flowSequenceEnd then
        skip
        pure Node.empty
      else node false false fuel
    match ← peek with
    | .value =>
      skip
      let next ← peek
      if next = .flowEntry || next = .flowSequenceEnd then return (key, Node.empty)
      else return (key, ← node false false fuel)
    | _ => return (key, Node.empty)

/-- Reads the entries of a mapping in braces. -/
def flowEntries (isFirst : Bool) : Nat → NodeReader (List (Node × Node))
  | 0 => refuse
  | fuel + 1 => do
    if (← peek) = .flowMappingEnd then
      skip
      return []
    else
      if !isFirst then
        if (← peek) = .flowEntry then skip else refuse
      match ← peek with
      | .flowMappingEnd =>
        skip
        return []
      | .key =>
        skip
        let next ← peek
        let key ← if next = .value || next = .flowEntry || next = .flowMappingEnd then
            pure Node.empty
          else node false false fuel
        let value ← match ← peek with
          | .value =>
            skip
            let next ← peek
            if next = .flowEntry || next = .flowMappingEnd then pure Node.empty
            else node false false fuel
          | _ => pure Node.empty
        return (key, value) :: (← flowEntries false fuel)
      | _ =>
        let key ← node false false fuel
        return (key, Node.empty) :: (← flowEntries false fuel)

end

/-- The handles that every document knows. -/
def defaultHandles : List (String × String) :=
  [("!", "!"), ("!!", "tag:yaml.org,2002:")]

/-- Reads the directives in front of a document; `fuel` bounds their number. Gives the number of them. -/
def directives (hasVersion : Bool) (handles : List (String × String)) :
    Nat → NodeReader (Nat × List (String × String))
  | 0 => refuse
  | fuel + 1 => do
    match ← peek with
    | .versionDirective major minor =>
      if hasVersion || major ≠ 1 || (minor ≠ 1 && minor ≠ 2) then refuse
      else
        skip
        let (count, handles) ← directives true handles fuel
        return (count + 1, handles)
    | .tagDirective handle expansion =>
      if handles.any fun entry => entry.1 = handle then refuse
      else
        skip
        let (count, handles) ← directives hasVersion ((handle, expansion) :: handles) fuel
        return (count + 1, handles)
    | _ => return (0, handles)

/-- Whether a document whose start was marked is empty. -/
def endsDocument : Token → Bool
  | .versionDirective .. => true
  | .tagDirective .. => true
  | .documentStart => true
  | .documentEnd => true
  | .streamEnd => true
  | _ => false

/-- Reads the only document of a text, if there is one. Nothing but end marks may follow it. -/
def document (fuel : Nat) : NodeReader (Option Node) := do
  let (count, handles) ← directives false [] fuel
  modify fun progress => { progress with handles := handles ++ defaultHandles }
  match ← peek with
  | .streamEnd => if count = 0 then return none else refuse
  | .documentStart =>
    skip
    if endsDocument (← peek) then finish Node.empty else finish (← node true false fuel)
  | _ => if count = 0 then finish (← node true false fuel) else refuse
where
  finish (root : Node) : NodeReader (Option Node) := do
    modify fun progress =>
      { progress with tokens := progress.tokens.dropWhile fun token => token = .documentEnd }
    if (← peek) = .streamEnd then return some root else refuse

end NodeReader

/-- The document that a text holds; nothing at all if the text is no document, and `some none` if it
holds none. -/
def parse? (text : String) : Option (Option Node) := do
  let tokens ← tokens? text.toList
  let (root, _) ← (NodeReader.document (4 * tokens.length + 4)).run ⟨tokens, [], []⟩
  some root

end Lintel.Yaml
