import Turnstile.Yaml.Reader
import Turnstile.Yaml.Scalar

/-!
Properties of nodes, which are tags and anchors, and the aliases that anchors are for; the
directives of a document; and what an explicit tag makes of a node.
-/
namespace Turnstile.Yaml

def isAsciiLetter (u : Nat) : Bool :=
  (unit 'a' ≤ u && u ≤ unit 'z') || (unit 'A' ≤ u && u ≤ unit 'Z')

def isAsciiDigit (u : Nat) : Bool := unit '0' ≤ u && u ≤ unit '9'

def hexDigit? (u : Nat) : Option Nat :=
  if isAsciiDigit u then some (u - 48)
  else if unit 'a' ≤ u ∧ u ≤ unit 'f' then some (u - 87)
  else if unit 'A' ≤ u ∧ u ≤ unit 'F' then some (u - 55)
  else none

def sequenceLength? (b : Nat) : Option Nat :=
  if b < 0x80 then some 1
  else if 0xC2 ≤ b ∧ b ≤ 0xDF then some 2
  else if 0xE0 ≤ b ∧ b ≤ 0xEF then some 3
  else if 0xF0 ≤ b ∧ b ≤ 0xF4 then some 4
  else none

/-- The character that continues from a first byte; `none` for an overlong form, a half of a pair,
or a code past the last. -/
def charOfBytes? (b : Nat) (rest : List Nat) : Option Char :=
  let tail := rest.foldl (fun acc t =>
    match acc with
    | some n => if 0x80 ≤ t ∧ t < 0xC0 then some (n * 64 + (t - 0x80)) else none
    | none => none)
    (some (if rest.isEmpty then b else b % Nat.pow 2 (6 - rest.length)))
  match tail with
  | none => none
  | some code =>
    let least := match rest.length with
      | 0 => 0
      | 1 => 0x80
      | 2 => 0x800
      | _ => 0x10000
    if code < least ∨ (0xD800 ≤ code ∧ code < 0xE000) ∨ 0x110000 ≤ code then none
    else some (Char.ofNat code)

/-- The bytes of `count` percent escapes in a row, and the rest. -/
def escapedBytes? : Nat → List Nat → Option (List Nat × List Nat)
  | 0, units => some ([], units)
  | count + 1, 37 :: a :: b :: units =>
    match hexDigit? a, hexDigit? b, escapedBytes? count units with
    | some a, some b, some (bytes, rest) => some ((a * 16 + b) :: bytes, rest)
    | _, _, _ => none
  | _, _ => none

def decodePercentFrom : Nat → List Nat → Option (List Nat)
  | 0, _ => some []
  | _, [] => some []
  | fuel + 1, u :: rest =>
    if u ≠ unit '%' then (decodePercentFrom fuel rest).map (u :: ·)
    else do
      let (first, _) ← escapedBytes? 1 (u :: rest)
      let lead := first.headD 0
      let count ← sequenceLength? lead
      let (bytes, rest) ← escapedBytes? count (u :: rest)
      let c ← charOfBytes? lead bytes.tail
      (decodePercentFrom fuel rest).map (Text.unitsOfChar c ++ ·)

/-- Percent escapes replaced by the characters they spell; `none` where they spell none. -/
def decodePercent? (units : List Nat) : Option String :=
  (decodePercentFrom units.length units).map Text.ofUnits

def isTagUnit (u : Nat) : Bool :=
  isAsciiLetter u || isAsciiDigit u || "-#;/?:@&=+$,_.!~*'()[]".toList.any fun c => unit c = u

def restIsTag : List Nat → Bool
  | [] => true
  | 37 :: a :: b :: rest => (hexDigit? a).isSome && (hexDigit? b).isSome && restIsTag rest
  | u :: rest => isTagUnit u && restIsTag rest

/-- Whether units can make up a tag: anything but a flow indicator first, then tag units. -/
def isTag : List Nat → Bool
  | [] => false
  | u :: rest => !isFlowIndicator u && restIsTag rest

/-- `!`, `!!`, or a name of letters, digits and hyphens between exclamation marks. -/
def isTagHandle (units : List Nat) : Bool :=
  units = [33] || units = [33, 33] ||
    (match units with
    | 33 :: rest =>
      rest.length > 1 && rest.getLast? = some 33 &&
        rest.dropLast.all fun u => isAsciiLetter u || isAsciiDigit u || u = unit '-'
    | _ => false)

/-- Reads a tag after its `!` up to a space; the handle and where the name starts. -/
def readTagName : Nat → String → Bool → Nat → ReadM (String × Nat)
  | 0, handle, _, start => return (handle, start)
  | fuel + 1, handle, named, start => do
    let u ← peek
    if u = 0 || isSpace u then return (handle, start)
    if u = unit '!' then
      if named then fail "tag suffix cannot contain exclamation marks"
      let r ← get
      let units := r.slice (start - 1) (r.offset + 1)
      if !isTagHandle units then fail "named tag handle cannot contain such characters"
      advance 1
      readTagName fuel (Text.ofUnits units) true (r.offset + 1)
    else
      advance 1
      readTagName fuel handle named start

def expandTag (handle name : String) : ReadM String := do
  match (← get).tagHandles.lookup handle with
  | some start => return start ++ name
  | none =>
    if handle = "!" then return "!" ++ name
    else if handle = "!!" then return Scalar.standard name
    else fail ("undeclared tag handle \"" ++ handle ++ "\"")

def decodeTagName (units : List Nat) : ReadM String := do
  if !units.isEmpty && !isTag units then
    fail ("tag name cannot contain such characters: " ++ Text.ofUnits units)
  match decodePercent? units with
  | some name => return name
  | none => fail ("tag name is malformed: " ++ Text.ofUnits units)

def readVerbatimTag : ReadM String := do
  advance 1
  let start := (← get).offset
  advance 1
  skipWhile fun u => u ≠ unit '>'
  let r ← get
  if r.offset < r.units.size then
    let units := r.slice start r.offset
    advance 1
    decodeTagName units
  else fail "unexpected end of the stream within a verbatim tag"

def readShorthandTag : ReadM String := do
  let doubled := (← peek) = unit '!'
  if doubled then advance 1
  let r ← get
  let (handle, start) ← readTagName r.rounds (if doubled then "!!" else "!") doubled r.offset
  let units ← sliceFrom start
  if units.any isFlowIndicator then fail "tag suffix cannot contain flow indicator characters"
  let name ← decodeTagName units
  expandTag handle name

def readTag : ReadM Bool := do
  if (← peek) ≠ unit '!' then return false
  if (← get).tag.isSome then fail "duplication of a tag property"
  advance 1
  let tag ← if (← peek) = unit '<' then readVerbatimTag else readShorthandTag
  modify fun r => { r with tag := some tag }
  return true

def readName (what : String) : ReadM String := do
  advance 1
  let start := (← get).offset
  skipWhile fun u => !isSpace u && !isFlowIndicator u
  if (← get).offset = start then
    fail ("name of an " ++ what ++ " node must contain at least one character")
  textFrom start

def readAnchor : ReadM Bool := do
  if (← peek) ≠ unit '&' then return false
  if (← get).anchor.isSome then fail "duplication of an anchor property"
  let name ← readName "anchor"
  modify fun r => { r with anchor := some name }
  return true

def readAlias : ReadM Bool := do
  if (← peek) ≠ unit '*' then return false
  let name ← readName "alias"
  match (← get).anchors.lookup name with
  | some item =>
    modify fun r => { r with result := item }
    let _ ← skipSeparation true
    return true
  | none => fail ("unidentified alias \"" ++ name ++ "\"")

def versionParts? (units : List Nat) : Option (Nat × Nat) :=
  let major := units.takeWhile isAsciiDigit
  let value := List.foldl (fun n u => n * 10 + (u - 48)) 0
  match units.dropWhile isAsciiDigit with
  | 46 :: minor =>
    if !major.isEmpty && !minor.isEmpty && minor.all isAsciiDigit then
      some (value major, value minor)
    else none
  | _ => none

def declareVersion (args : List (List Nat)) : ReadM Unit := do
  if (← get).version.isSome then fail "duplication of %YAML directive"
  match args with
  | [version] =>
    match versionParts? version with
    | some (major, _) =>
      if major ≠ 1 then fail "unacceptable YAML version of the document"
      modify fun r => { r with version := some (Text.ofUnits version) }
    | none => fail "ill-formed argument of the YAML directive"
  | _ => fail "YAML directive accepts exactly one argument"

def declareHandle (args : List (List Nat)) : ReadM Unit := do
  match args with
  | [handle, start] =>
    if !isTagHandle handle then
      fail "ill-formed tag handle (first argument) of the TAG directive"
    let name := Text.ofUnits handle
    if ((← get).tagHandles.lookup name).isSome then
      fail ("there is a previously declared suffix for \"" ++ name ++ "\" tag handle")
    if !isTag start then fail "ill-formed tag prefix (second argument) of the TAG directive"
    match decodePercent? start with
    | some start => modify fun r => { r with tagHandles := (name, start) :: r.tagHandles }
    | none => fail ("tag prefix is malformed: " ++ Text.ofUnits start)
  | _ => fail "TAG directive accepts exactly two arguments"

def readDirectiveArgs : Nat → ReadM (List (List Nat))
  | 0 => return []
  | fuel + 1 => do
    skipWhile isBlank
    let u ← peek
    if u = unit '#' then
      skipLine
      return []
    if u = 0 || isBreak u then return []
    let start := (← get).offset
    skipWhile fun u => !isSpace u
    let arg ← sliceFrom start
    return arg :: (← readDirectiveArgs fuel)

/-- Reads a directive after its percent sign. Unknown directives are skipped. -/
def readDirective : ReadM Unit := do
  advance 1
  let start := (← get).offset
  skipWhile fun u => !isSpace u
  let name ← textFrom start
  if name.isEmpty then fail "directive name must not be less than one character in length"
  let args ← readDirectiveArgs (← get).rounds
  if (← peek) ≠ 0 then readBreak
  if name = "YAML" then declareVersion args
  else if name = "TAG" then declareHandle args

/-- Reads directives up to the first line that is none; whether there were any. -/
def readDirectives : Nat → Bool → ReadM Bool
  | 0, any => return any
  | fuel + 1, any => do
    if (← peek) = 0 then return any
    let _ ← skipSeparation true
    if (← get).indent > 0 || (← peek) ≠ unit '%' then return any
    readDirective
    readDirectives fuel true

def kindOfTag? (tag : String) : Option Kind :=
  let scalars := ["str", "null", "bool", "int", "float", "timestamp", "merge", "binary"]
  let sequences := ["seq", "omap", "pairs"]
  let mappings := ["map", "set"]
  if scalars.any fun name => tag = Scalar.standard name then some .scalar
  else if sequences.any fun name => tag = Scalar.standard name then some .sequence
  else if mappings.any fun name => tag = Scalar.standard name then some .mapping
  else none

/-- The items of a sequence, if each is a mapping with a single key, with that key. -/
def singlePairs? (cells : Array Cell) (items : List Item) : Option (List (String × Item)) :=
  items.mapM fun item =>
    match item with
    | .cell i =>
      match cells[i]? with
      | some (.mapping [pair]) => some pair
      | _ => none
    | _ => none

def allDistinct : List String → Bool
  | [] => true
  | key :: rest => !rest.contains key && allDistinct rest

def itemsOf (cells : Array Cell) : Item → List Item
  | .cell i =>
    match cells[i]? with
    | some (.list items) => items
    | _ => []
  | _ => []

def fieldsOf (cells : Array Cell) : Item → List (String × Item)
  | .cell i =>
    match cells[i]? with
    | some (.mapping fields) => fields
    | _ => []
  | _ => []

def allocatePairs (pairs : List (String × Item)) : ReadM Item := do
  let lists ← pairs.mapM fun (key, value) => do
    return Item.cell (← allocate (.list [.text key, value]))
  return .cell (← allocate (.list lists))

/-- What a tag of a scalar makes of it; `none` if it does not fit. -/
def scalarOfTag? (name : String) (item : Item) : Option Item :=
  match name, item with
  | "str", .null => some (.text "")
  | "str", item => some item
  | "null", .null => some .null
  | "null", .text s => if Scalar.isNull s then some .null else none
  | "bool", .text s => (Scalar.boolean? s).map .boolean
  | "int", .text s => (Scalar.integer? s).map .number
  | "float", .text s => (Scalar.float? s).map .number
  | "timestamp", .text s => (Timestamp.parse? s).map .instant
  | "merge", .null => some .null
  | "merge", .text s => if s = "<<" then some (.text s) else none
  | "binary", .text s => (Scalar.binary? s).map .binary
  | _, _ => none

/-- What a tag of a scalar takes for granted of a text, and does not find in a scalar that was read
as something else before the tag applies to it. -/
def missingOperation? (name : String) (item : Item) : Option String :=
  match name, item with
  | "float", .number (.finite _) => some "toLowerCase"
  | "float", .binary [_] => some "toLowerCase"
  | "int", .binary _ => some "charCodeAt"
  | "binary", .binary _ => some "charAt"
  | "binary", .boolean _ => some "replace"
  | "binary", .number _ => some "replace"
  | "binary", .instant _ => some "replace"
  | _, _ => none

/-- Fails if a tag of one of these names takes something for granted that a scalar does not have. -/
def refuseMissing (names : List String) (item : Item) : ReadM Unit :=
  match names.findSome? fun name => missingOperation? name item with
  | some operation =>
    throw {
      name := "TypeError", reason := "data." ++ operation ++ " is not a function", mark := none }
  | none => return

/-- What a standard tag makes of a node; `none` if it does not fit. A missing node is made into an
empty one where the tag allows it. -/
def itemOfTag? (name : String) (item : Item) : ReadM (Option Item) := do
  let cells := (← get).cells
  match name, item with
  | "seq", .null => return some (.cell (← allocate (.list [])))
  | "seq", item => return some item
  | "map", .null => return some (.cell (← allocate (.mapping [])))
  | "map", item => return some item
  | "omap", .null => return some (.cell (← allocate (.list [])))
  | "omap", item =>
    match singlePairs? cells (itemsOf cells item) with
    | some pairs => return if allDistinct (pairs.map (·.1)) then some item else none
    | none => return none
  | "pairs", .null => return some (.cell (← allocate (.list [])))
  | "pairs", item =>
    match singlePairs? cells (itemsOf cells item) with
    | some pairs => return some (← allocatePairs pairs)
    | none => return none
  | "set", .null => return some (.cell (← allocate (.mapping [])))
  | "set", item => return if (fieldsOf cells item).all (·.2 = .null) then some item else none
  | name, item => return scalarOfTag? name item

def wrongKind (tag : String) (wanted : Kind) (found : Option Kind) : ReadM α :=
  fail ("unacceptable node kind for !<" ++ tag ++ "> tag; it should be \"" ++ wanted.name ++
    "\", not \"" ++ (found.map Kind.name).getD "null" ++ "\"")

def applyTag (tag : String) : ReadM Unit := do
  let r ← get
  match kindOfTag? tag with
  | none => fail ("unknown tag !<" ++ tag ++ ">")
  | some kind =>
    if r.kind.isSome && r.kind ≠ some kind then fail ("unknown tag !<" ++ tag ++ ">")
    if r.kind.isNone && r.result ≠ .null then wrongKind tag kind r.kind
  let name := String.ofList (tag.toList.drop (Scalar.standard "").length)
  refuseMissing [name] r.result
  match ← itemOfTag? name r.result with
  | some item =>
    modify fun r => { r with result := item }
    bindAnchor item
  | none => fail ("cannot resolve a node with !<" ++ tag ++ "> explicit tag")

def resolvePlain : ReadM Unit := do
  let r ← get
  match r.result, r.kind with
  | .null, _ => modify fun r => { r with tag := some (Scalar.standard "null") }
  | .text s, some .scalar =>
    let (item, tag) := Scalar.resolve s
    modify fun r => { r with result := item, tag := some tag }
  | item, some .scalar =>
    refuseMissing ["int", "float"] item
    return
  | _, kind => wrongKind Scalar.unresolved .scalar kind
  bindAnchor (← get).result

end Turnstile.Yaml
