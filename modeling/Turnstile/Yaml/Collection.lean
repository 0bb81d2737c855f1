import Turnstile.Yaml.Property
import Turnstile.Yaml.Style

/-!
Nodes: properties, then a collection in block or flow style, a scalar or an alias. The readers of
nodes and of collections call each other; they share a number of rounds, which each call lowers and
which `Document` computes from the length of the text.
-/
namespace Turnstile.Yaml

def putField (fields : List (String × Item)) (key : String) (item : Item) : List (String × Item) :=
  if fields.any fun f => f.1 = key then
    fields.map fun f => if f.1 = key then (key, item) else f
  else fields ++ [(key, item)]

def indexFields (items : List Item) : List (String × Item) :=
  items.zipIdx.map fun (item, i) => (toString i, item)

def bytesText (bytes : List UInt8) : String :=
  ",".intercalate (bytes.map fun b => toString b.toNat)

def scalarKey (cells : Array Cell) : Item → String
  | .null => "null"
  | .boolean b => if b then "true" else "false"
  | .number n => n.text
  | .text s => s
  | .instant ms => Timestamp.text ms
  | .binary bytes => bytesText bytes
  | .cell i =>
    match cells[i]? with
    | some (.list _) => ""
    | _ => "[object Object]"

/-- The text of a key. A sequence gives the texts of its items, nothing for a null; sequences in a
sequence are refused. -/
def keyText (item : Item) : ReadM String := do
  let cells := (← get).cells
  match item with
  | .cell i =>
    match cells[i]? with
    | some (.list items) =>
      let isList := fun item => match item with
        | .cell j =>
          match cells[j]? with
          | some (.list _) => true
          | _ => false
        | _ => false
      if items.any isList then fail "nested arrays are not supported inside keys"
      return ",".intercalate (items.map fun item =>
        match item with
        | .null => ""
        | item => scalarKey cells item)
    | _ => return scalarKey cells item
  | item => return scalarKey cells item

def mergeable? (cells : Array Cell) : Item → Option (List (String × Item))
  | .cell i =>
    match cells[i]? with
    | some (.mapping fields) => some fields
    | some (.list items) => some (indexFields items)
    | none => none
  | .instant _ => some []
  | .binary bytes => some (indexFields (bytes.map fun b => .number (.ofInt b.toNat)))
  | _ => none

def maxMerged : Nat := 10000

def maxSources : Nat := 100

def countMerged : ReadM Unit := do
  modify fun r => { r with merged := r.merged + 1 }
  if (← get).merged > maxMerged then
    fail ("merge keys exceeded maxTotalMergeKeys (" ++ toString maxMerged ++ ")")

/-- Adds the fields of a source that a mapping does not have yet, and allows them to be given again
later. -/
def mergeFrom (target : Nat) (allowed : List String) (source : Item) : ReadM (List String) := do
  match mergeable? (← get).cells source with
  | none => fail "cannot merge mappings; the provided source object is unacceptable"
  | some fields =>
    fields.foldlM (fun allowed (key, item) => do
      countMerged
      let present ← fieldsAt target
      if present.any fun f => f.1 = key then return allowed
      setCell target (.mapping (present ++ [(key, item)]))
      return key :: allowed) allowed

structure KeyPlace where
  line : Nat := 0
  lineStart : Nat := 0
  offset : Nat := 0

def keyPlace : ReadM KeyPlace := do
  let r ← get
  return { line := r.line, lineStart := r.lineStart, offset := r.offset }

/-- Goes back to a key; what is zero of its place is left as it stands. -/
def returnTo (place : KeyPlace) : ReadM Unit :=
  modify fun r => { r with
    line := if place.line = 0 then r.line else place.line
    lineStart := if place.lineStart = 0 then r.lineStart else place.lineStart
    offset := if place.offset = 0 then r.offset else place.offset }

/-- Adds a pair to a mapping; the keys that may be given again afterwards. A key with the merge tag
brings in the fields of its value, or of each item of it. -/
def putPair (target : Nat) (allowed : List String) (keyTag : Option String) (key value : Item)
    (place : KeyPlace) : ReadM (List String) := do
  let text ← keyText key
  if keyTag = some Scalar.mergeTag then
    match value with
    | .cell i =>
      match ← cellAt i with
      | .list items =>
        if items.length > maxSources then fail "abnormal merge sequence size"
        items.foldlM (mergeFrom target) allowed
      | .mapping _ => mergeFrom target allowed value
    | value => mergeFrom target allowed value
  else
    let fields ← fieldsAt target
    if !allowed.contains text && fields.any fun f => f.1 = text then
      returnTo place
      fail "duplicated mapping key"
    setCell target (.mapping (putField fields text value))
    return allowed.filter (· ≠ text)

/-- Where a node stands: inside or outside a flow collection or a block. -/
inductive Context where
  | flowIn | flowOut | blockIn | blockOut
  deriving DecidableEq

def Context.isBlock (c : Context) : Bool := c = .blockIn || c = .blockOut

structure Owner where
  cell : Nat
  tag : Option String
  anchor : Option String

def openCollection (cell : Cell) : ReadM Owner := do
  let index ← allocate cell
  bindAnchor (.cell index)
  let r ← get
  return { cell := index, tag := r.tag, anchor := r.anchor }

def restoreProperties (owner : Owner) : ReadM Unit :=
  modify fun r => { r with tag := owner.tag, anchor := owner.anchor }

def closeCollection (owner : Owner) (kind : Kind) : ReadM Unit :=
  modify fun r => { r with
    tag := owner.tag, anchor := owner.anchor, kind := some kind, result := .cell owner.cell }

def refuseTab : ReadM Unit := do
  match (← get).firstTab with
  | some tab =>
    modify fun r => { r with offset := tab }
    fail "tab characters must not be used in indentation"
  | none => return

/-- A block mapping under way: the pair whose value is still to come, and whether its key is an
explicit one. -/
structure MappingPart where
  owner : Owner
  allowed : List String := []
  keyTag : Option String := none
  key : Item := .null
  place : KeyPlace := {}
  explicit : Bool := false
  detected : Bool := false

def MappingPart.put (part : MappingPart) (value : Item) : ReadM MappingPart := do
  let allowed ← putPair part.owner.cell part.allowed part.keyTag part.key value part.place
  return { part with allowed, keyTag := none, key := .null }

/-- Ends a block mapping; an explicit key without a value has none. -/
def MappingPart.finish (part : MappingPart) : ReadM Bool := do
  if part.explicit then
    let _ ← part.put .null
  if part.detected then closeCollection part.owner .mapping
  return part.detected

structure FlowPart where
  owner : Owner
  mapping : Bool
  allowed : List String := []
  /-- Whether an entry may follow: at the start and after a comma. -/
  open_ : Bool := true

/-- Adds an entry to a flow collection; in a sequence a pair makes a mapping of its own. -/
def FlowPart.put (part : FlowPart) (pair : Bool) (keyTag : Option String) (key value : Item)
    (place : KeyPlace) : ReadM FlowPart := do
  if part.mapping then
    return { part with allowed := ← putPair part.owner.cell part.allowed keyTag key value place }
  else if pair then
    let single ← allocate (.mapping [])
    let allowed ← putPair single part.allowed keyTag key value place
    pushItem part.owner.cell (.cell single)
    return { part with allowed }
  else
    pushItem part.owner.cell key
    return part

structure NodeStart where
  depth : Ordering := .gt
  atNewLine : Bool := false
  collections : Bool
  before : Option Reader := none

def depthBelow (parent : Int) : ReadM Ordering := do
  return compare ((← get).indent : Int) parent

def atSecondProperty : ReadM Bool := do
  let u ← peek
  let r ← get
  return (u = unit '!' && r.tag.isSome) || (u = unit '&' && r.anchor.isSome)

/-- Reads properties. On a new line a second property of a kind is left to the first key of the
node. -/
def readProperties (parent : Int) (isBlock : Bool) : Nat → NodeStart → ReadM NodeStart
  | 0, start => return start
  | fuel + 1, start => do
    let here ← get
    let second ← atSecondProperty
    if start.atNewLine && second then return start
    let found ← either readTag readAnchor
    if found then
      let before := some (start.before.getD here)
      if (← skipSeparation true) ≠ 0 then
        readProperties parent isBlock fuel
          { depth := ← depthBelow parent, atNewLine := true, collections := isBlock, before }
      else readProperties parent isBlock fuel { start with collections := false, before }
    else return start

def clearNode : ReadM Unit :=
  modify fun r => { r with tag := none, anchor := none, kind := none, result := .null }

def maxDepth : Nat := 100

def enterNode : ReadM Unit := do
  if (← get).depth ≥ maxDepth then
    fail ("nesting exceeded maxDepth (" ++ toString maxDepth ++ ")")
  modify fun r => { r with depth := r.depth + 1 }
  clearNode

def leaveNode : ReadM Unit := modify fun r => { r with depth := r.depth - 1 }

/-- Resolves the tag of the node under way, once its content has been read. -/
def finishNode (content : Bool) : ReadM Bool := do
  match (← get).tag with
  | none => bindAnchor (← get).result
  | some tag =>
    if tag = Scalar.unresolved then resolvePlain
    else if tag ≠ "!" then applyTag tag
  let r ← get
  return r.tag.isSome || r.anchor.isSome || content

def readBareAlias : ReadM Bool := do
  let found ← readAlias
  let r ← get
  if found && (r.tag.isSome || r.anchor.isSome) then
    fail "alias node should not have any properties"
  return found

def readResolvable (indent : Int) (context : Context) : ReadM Bool := do
  let found ← readPlain indent (context = .flowIn)
  if found then modify fun r => { r with tag := some (r.tag.getD Scalar.unresolved) }
  return found

def readLeaf (indent : Int) (context : Context) : ReadM Bool := do
  let content ← either (onlyIf context.isBlock (readBlock indent)) <| either readSingleQuoted <|
    either readDoubleQuoted <| either readBareAlias (readResolvable indent context)
  bindAnchor (← get).result
  return content

mutual

/-- Reads a node below a parent's indentation. With `seek`, blanks and line breaks may come first;
with `compact`, a block collection may start on the line of its parent. False if there is none. -/
def readNode : Nat → Int → Context → Bool → Bool → ReadM Bool
  | 0, _, _, _, _ => return false
  | fuel + 1, parent, context, seek, compact => do
    enterNode
    let mut start : NodeStart := { collections := context.isBlock }
    if seek then
      if (← skipSeparation true) ≠ 0 then
        start := { start with depth := ← depthBelow parent, atNewLine := true }
    if start.depth = .gt then start ← readProperties parent context.isBlock 4 start
    let collections := start.collections && (start.atNewLine || compact)
    let flowIndent := if context.isBlock then parent + 1 else parent
    let r ← get
    let blockIndent : Int := (r.offset : Int) - r.lineStart
    let content ←
      if start.depth = .gt then
        either (onlyIf collections (readSequence fuel blockIndent)) <|
          either (onlyIf collections (readMapping fuel blockIndent flowIndent)) <|
          either (readFlow fuel flowIndent) <|
          either (onlyIf (context.isBlock && !collections)
            (readMappingFrom fuel flowIndent start.before)) (readLeaf flowIndent context)
      else
        onlyIf (start.depth = .eq && context = .blockOut && collections)
          (readSequence fuel blockIndent)
    let found ← finishNode content
    leaveNode
    return found

/-- Goes back to the first property of a node and reads a block mapping from there, whose first key
has the properties; where that is no key, nothing is read. A block scalar is no key. -/
def readMappingFrom : Nat → Int → Option Reader → ReadM Bool
  | 0, _, _ => return false
  | _, _, none => return false
  | fuel + 1, flowIndent, some before => do
    let here ← get
    let u ← peek
    if u = unit '|' || u = unit '>' then return false
    set before
    let found ← readMapping fuel ((before.offset : Int) - before.lineStart) flowIndent
    if found && (← get).kind = some .mapping then return true
    set here
    return false

/-- Reads a block sequence whose hyphens stand at `indent`. -/
def readSequence : Nat → Int → ReadM Bool
  | 0, _ => return false
  | fuel + 1, indent => do
    if (← get).firstTab.isSome then return false
    let owner ← openCollection (.list [])
    let detected ← readSequenceEntries fuel indent owner false
    if detected then closeCollection owner .sequence
    return detected

def readSequenceEntries : Nat → Int → Owner → Bool → ReadM Bool
  | 0, _, _, detected => return detected
  | fuel + 1, indent, owner, detected => do
    if (← peek) = 0 then return detected
    refuseTab
    if (← peek) ≠ unit '-' || !isSpace (← peekAt 1) then return detected
    advance 1
    let breaks ← skipSeparation true
    if breaks ≠ 0 && ((← get).indent : Int) ≤ indent then
      pushItem owner.cell .null
      readSequenceEntries fuel indent owner true
    else
      let line := (← get).line
      let _ ← readNode fuel indent .blockIn false true
      pushItem owner.cell (← get).result
      let _ ← skipSeparation true
      let r ← get
      if (r.line = line || (r.indent : Int) > indent) && (← peek) ≠ 0 then
        fail "bad indentation of a sequence entry"
      else if (r.indent : Int) < indent then return true
      else readSequenceEntries fuel indent owner true

/-- Reads a block mapping whose keys stand at `indent`. Where the first key turns out to be no key,
its node is the result. -/
def readMapping : Nat → Int → Int → ReadM Bool
  | 0, _, _ => return false
  | fuel + 1, indent, flowIndent => do
    if (← get).firstTab.isSome then return false
    let owner ← openCollection (.mapping [])
    readMappingEntries fuel indent flowIndent { owner }

def readMappingEntries : Nat → Int → Int → MappingPart → ReadM Bool
  | 0, _, _, part => return part.detected
  | fuel + 1, indent, flowIndent, part => do
    let u ← peek
    if u = 0 then return ← part.finish
    if !part.explicit then refuseTab
    let line := (← get).line
    if (u = unit '?' || u = unit ':') && isSpace (← peekAt 1) then
      if u = unit '?' then
        let part ← if part.explicit then part.put .null else pure part
        advance 1
        readMappingValue fuel indent flowIndent line true
          { part with detected := true, explicit := true }
      else if part.explicit then
        advance 1
        readMappingValue fuel indent flowIndent line true { part with explicit := false }
      else
        fail ("incomplete explicit mapping pair; a key node is missed; or followed by a " ++
          "non-tabulated empty line")
    else
      let part := { part with place := ← keyPlace }
      let found ← readNode fuel flowIndent .flowOut false true
      let r ← get
      if !found then part.finish
      else if r.line = line then
        skipWhile isBlank
        if (← peek) = unit ':' then
          advance 1
          if !isSpace (← peek) then
            fail ("a whitespace character is expected after the key-value separator within a " ++
              "block mapping")
          let part ← if part.explicit then part.put .null else pure part
          readMappingValue fuel indent flowIndent line false
            { part with detected := true, explicit := false, keyTag := r.tag, key := r.result }
        else if part.detected then
          fail "can not read an implicit mapping pair; a colon is missed"
        else
          restoreProperties part.owner
          return true
      else if part.detected then
        fail ("can not read a block mapping entry; a multiline key may not be an implicit key")
      else
        restoreProperties part.owner
        return true

/-- Reads what follows the mark of an explicit key or of a value, then the entries that follow. -/
def readMappingValue : Nat → Int → Int → Nat → Bool → MappingPart → ReadM Bool
  | 0, _, _, _, _, part => return part.detected
  | fuel + 1, indent, flowIndent, line, compact, part => do
    let here ← keyPlace
    let part := if part.explicit then { part with place := here } else part
    let found ← readNode fuel indent .blockOut true compact
    let r ← get
    let item := if found then r.result else .null
    let part ←
      if part.explicit then pure (if found then { part with key := item } else part)
      else part.put item
    let _ ← skipSeparation true
    let r ← get
    if (r.line = line || (r.indent : Int) > indent) && (← peek) ≠ 0 then
      fail "bad indentation of a mapping entry"
    else if (r.indent : Int) < indent then part.finish
    else readMappingEntries fuel indent flowIndent part

def readFlow : Nat → Int → ReadM Bool
  | 0, _ => return false
  | fuel + 1, indent => do
    let u ← peek
    if u ≠ unit '[' && u ≠ 123 then return false
    let mapping := u = 123
    let owner ← openCollection (if mapping then .mapping [] else .list [])
    advance 1
    readFlowEntries fuel indent { owner, mapping }
    return true

def readFlowEntries : Nat → Int → FlowPart → ReadM Unit
  | 0, _, _ => return
  | fuel + 1, indent, part => do
    if (← peek) = 0 then fail "unexpected end of the stream within a flow collection"
    let _ ← skipSeparation true
    let u ← peek
    if u = (if part.mapping then 125 else unit ']') then
      advance 1
      closeCollection part.owner (if part.mapping then .mapping else .sequence)
    else
      if !part.open_ then fail "missed comma between flow collection entries"
      if u = unit ',' then fail "expected the node content, but found ','"
      let explicit := u = unit '?' && isSpace (← peekAt 1)
      if explicit then
        advance 1
        let _ ← skipSeparation true
      let place ← keyPlace
      let _ ← readNode fuel indent .flowIn false true
      let r ← get
      let _ ← skipSeparation true
      let pair := (explicit || (← get).line = place.line) && (← peek) = unit ':'
      if pair then
        advance 1
        let _ ← skipSeparation true
        let _ ← readNode fuel indent .flowIn false true
      let after ← get
      let value := if pair then after.result else .null
      let part ← part.put (pair || explicit) r.tag r.result value place
      let _ ← skipSeparation true
      let comma := (← peek) = unit ','
      if comma then advance 1
      readFlowEntries fuel indent { part with open_ := comma }

end

end Turnstile.Yaml
