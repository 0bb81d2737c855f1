import Turnstile.Yaml.Reader

/-!
The styles of scalars: plain, single and double quoted, literal and folded blocks. Each reader says
whether its style starts here; if it does, the text becomes the result.
-/
namespace Turnstile.Yaml

def isIndicator (u : Nat) : Bool :=
  isSpace u || isFlowIndicator u || "#&*!|>'\"%@\x60".toList.any fun c => unit c = u

/-- A plain scalar under way: the part not yet taken over, and the line of a break before it that is
still to be folded. -/
structure PlainPart where
  start : Nat
  stop : Nat
  breakLine : Option Nat

def endsPlain (inFlow : Bool) (u : Nat) : ReadM Bool := do
  let r ← get
  if u = unit ':' then
    let next ← peekAt 1
    return isSpace next || (inFlow && isFlowIndicator next)
  else if u = unit '#' then
    return r.offset > 0 && isSpace (r.unitAt (r.offset - 1))
  else
    return (r.offset = r.lineStart && r.atSeparator) || (inFlow && isFlowIndicator u)

def readPlainFrom (indent : Int) (inFlow : Bool) : Nat → PlainPart → ReadM PlainPart
  | 0, part => return part
  | fuel + 1, part => do
    let u ← peek
    if u = 0 then return part
    if ← endsPlain inFlow u then return part
    -- a colon or a number sign inside the text is no line break
    if isBreak u then
      let before ← get
      let _ ← skipSeparation false
      if ((← get).indent : Int) ≥ indent then
        readPlainFrom indent inFlow fuel { part with breakLine := some before.line }
      else
        modify fun r => { r with
          offset := part.stop, line := before.line, lineStart := before.lineStart,
          indent := before.indent }
        return part
    else
      let here := (← get).offset
      let part ← match part.breakLine with
        | some line => do
          capture part.start part.stop false
          fold ((← get).line - line)
          pure { start := here, stop := here, breakLine := none }
        | none => pure part
      advance 1
      readPlainFrom indent inFlow fuel (if isBlank u then part else { part with stop := here + 1 })

/-- A scalar without quotes, which ends at a mapping or flow indicator, a comment, or a line that is
indented less than `indent`. -/
def readPlain (indent : Int) (inFlow : Bool) : ReadM Bool := do
  let u ← peek
  if u = 0 || isIndicator u then return false
  if u = unit '?' || u = unit '-' then
    let next ← peekAt 1
    if isSpace next || (inFlow && isFlowIndicator next) then return false
  clearBuffer
  let r ← get
  let part ← readPlainFrom indent inFlow r.rounds ⟨r.offset, r.offset, none⟩
  capture part.start part.stop false
  if (← get).buffer.isEmpty then return false
  finishScalar
  return true

/-- What is common to both quotes inside a quoted scalar: folds a line break, refuses a document
separator, or moves on. `start` and `stop` delimit the part not yet taken over, without the blanks
at its end, which a line break drops. -/
def readQuotedUnit (name : String) (u start stop : Nat) : ReadM (Nat × Nat) := do
  if isBreak u then
    capture start stop true
    fold (← skipSeparation false)
    let here := (← get).offset
    return (here, here)
  else
    let r ← get
    if r.offset = r.lineStart && r.atSeparator then
      fail ("unexpected end of the document within a " ++ name ++ " quoted scalar")
    advance 1
    return (start, if isBlank u then stop else r.offset + 1)

def readSingleQuotedFrom : Nat → Nat → Nat → ReadM Unit
  | 0, _, _ => return
  | fuel + 1, start, stop => do
    let u ← peek
    if u = 0 then fail "unexpected end of the stream within a single quoted scalar"
    if u = unit '\'' then
      let here := (← get).offset
      capture start here true
      advance 1
      if (← peek) = unit '\'' then
        advance 1
        readSingleQuotedFrom fuel (here + 1) (here + 2)
    else
      let (start, stop) ← readQuotedUnit "single" u start stop
      readSingleQuotedFrom fuel start stop

def readSingleQuoted : ReadM Bool := do
  if (← peek) ≠ unit '\'' then return false
  clearBuffer
  advance 1
  let r ← get
  readSingleQuotedFrom r.rounds r.offset r.offset
  finishScalar
  return true

def simpleEscape? (u : Nat) : Option Nat :=
  ([('0', 0), ('a', 7), ('b', 8), ('t', 9), ('\t', 9), ('n', 10), ('v', 11), ('f', 12), ('r', 13),
    ('e', 27), (' ', 32), ('"', 34), ('/', 47), ('\\', 92), ('N', 0x85), ('_', 0xA0), ('L', 0x2028),
    ('P', 0x2029)] : List (Char × Nat)).findSome? fun (c, value) =>
      if unit c = u then some value else none

def escapeLength? (u : Nat) : Option Nat :=
  if u = unit 'x' then some 2 else if u = unit 'u' then some 4 else if u = unit 'U' then some 8
  else none

def hexValue? (u : Nat) : Option Nat :=
  if unit '0' ≤ u ∧ u ≤ unit '9' then some (u - 48)
  else if unit 'a' ≤ u ∧ u ≤ unit 'f' then some (u - 87)
  else if unit 'A' ≤ u ∧ u ≤ unit 'F' then some (u - 55)
  else none

/-- Reads hexadecimal digits; the offset is left on the last one. -/
def readHex : Nat → Nat → ReadM Nat
  | 0, value => return value
  | count + 1, value => do
    advance 1
    match hexValue? (← peek) with
    | some digit => readHex count (value * 16 + digit)
    | none => fail "expected hexadecimal character"

/-- The units of a code point given by up to eight hexadecimal digits. The code is a 32-bit number
with sign; one that no pair of units holds is cut to what fits. -/
def unitsOfCode (code : Nat) : List Nat :=
  if code < 0x10000 then [code]
  else if 0x80000000 ≤ code then [code % 0x10000]
  else [((code - 0x10000) / 0x400 + 0xD800) % 0x10000, (code - 0x10000) % 0x400 + 0xDC00]

/-- An escape; the offset is on its backslash. -/
def readEscape : ReadM Unit := do
  advance 1
  let u ← peek
  if isBreak u then
    let _ ← skipSeparation false
  else match simpleEscape? u, escapeLength? u with
    | some value, _ =>
      append [value]
      advance 1
    | none, some count =>
      append (unitsOfCode (← readHex count 0))
      advance 1
    | none, none => fail "unknown escape sequence"

def readDoubleQuotedFrom : Nat → Nat → Nat → ReadM Unit
  | 0, _, _ => return
  | fuel + 1, start, stop => do
    let u ← peek
    if u = 0 then fail "unexpected end of the stream within a double quoted scalar"
    if u = unit '"' then
      capture start (← get).offset true
      advance 1
    else if u = unit '\\' then
      capture start (← get).offset true
      readEscape
      let here := (← get).offset
      readDoubleQuotedFrom fuel here here
    else
      let (start, stop) ← readQuotedUnit "double" u start stop
      readDoubleQuotedFrom fuel start stop

def readDoubleQuoted : ReadM Bool := do
  if (← peek) ≠ unit '"' then return false
  clearBuffer
  advance 1
  let r ← get
  readDoubleQuotedFrom r.rounds r.offset r.offset
  finishScalar
  return true

inductive Chomping where
  | clip | strip | keep
  deriving DecidableEq

/-- A block's header: how it ends, and its indentation if given. -/
structure BlockHeader where
  chomping : Chomping := .clip
  explicitIndent : Option Nat := none

def readBlockHeader : Nat → BlockHeader → ReadM BlockHeader
  | 0, header => return header
  | fuel + 1, header => do
    let u ← peek
    if u = unit '+' || u = unit '-' then
      if header.chomping ≠ .clip then fail "repeat of a chomping mode identifier"
      advance 1
      readBlockHeader fuel
        { header with chomping := if u = unit '+' then .keep else .strip }
    else if unit '0' ≤ u && u ≤ unit '9' then
      if u = unit '0' then
        fail "bad explicit indentation width of a block scalar; it cannot be less than one"
      if header.explicitIndent.isSome then fail "repeat of an indentation width identifier"
      advance 1
      readBlockHeader fuel { header with explicitIndent := some (u - unit '0') }
    else return header

structure BlockPart where
  /-- Indentation of the text; the least so far while it is not yet `known`. -/
  indent : Int
  known : Bool
  started : Bool := false
  emptyLines : Nat := 0
  moreIndented : Bool := false

def appendBreaks (count : Nat) : ReadM Unit := append (List.replicate count 10)

/-- Joins a line to the text before it. Folded text turns a single break into a space, but keeps the
breaks around lines that start with a blank. -/
def joinLine (folded : Bool) (part : BlockPart) (u : Nat) : ReadM BlockPart := do
  let kept := if part.started then 1 + part.emptyLines else part.emptyLines
  if folded then
    if isBlank u then
      appendBreaks kept
      return { part with moreIndented := true }
    else if part.moreIndented then
      appendBreaks (part.emptyLines + 1)
      return { part with moreIndented := false }
    else if part.emptyLines = 0 then
      if part.started then append [32]
      return part
    else
      appendBreaks part.emptyLines
      return part
  else
    appendBreaks kept
    return part

def chomp (chomping : Chomping) (part : BlockPart) : ReadM Unit :=
  match chomping with
  | .keep => appendBreaks (if part.started then 1 + part.emptyLines else part.emptyLines)
  | .clip => if part.started then appendBreaks 1 else pure ()
  | .strip => pure ()

/-- The indentation of a line of a block, not looking past the block's own. -/
def readBlockIndent (part : BlockPart) : ReadM Unit :=
  modify fun r =>
    let limit := if part.known then min r.rounds part.indent.toNat else r.rounds
    let spaces := r.span (· = 32) limit r.offset
    { r with offset := r.offset + spaces, indent := spaces }

def readBlockLines (folded : Bool) (chomping : Chomping) : Nat → BlockPart → ReadM Unit
  | 0, _ => return
  | fuel + 1, part => do
    if (← peek) = 0 then return
    readBreak
    readBlockIndent part
    let u ← peek
    let lineIndent : Int := (← get).indent
    let part := if !part.known && lineIndent > part.indent then { part with indent := lineIndent }
      else part
    if isBreak u then
      readBlockLines folded chomping fuel { part with emptyLines := part.emptyLines + 1 }
    else if !part.known && part.indent = 0 then fail "missing indentation for block scalar"
    else if lineIndent < part.indent then chomp chomping part
    else
      let part ← joinLine folded part u
      let start := (← get).offset
      skipLine
      capture start (← get).offset false
      readBlockLines folded chomping fuel
        { part with started := true, known := true, emptyLines := 0 }

def readBlock (indent : Int) : ReadM Bool := do
  let u ← peek
  if u ≠ unit '|' && u ≠ unit '>' then return false
  clearBuffer
  advance 1
  let header ← readBlockHeader (← get).rounds {}
  if isBlank (← peek) then
    skipWhile isBlank
    if (← peek) = unit '#' then skipLine
  let part : BlockPart := match header.explicitIndent with
    | some width => { indent := indent + width - 1, known := true }
    | none => { indent, known := false }
  readBlockLines (u = unit '>') header.chomping (← get).rounds part
  finishScalar
  return true

end Turnstile.Yaml
