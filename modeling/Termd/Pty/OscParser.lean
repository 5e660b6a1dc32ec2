import Mathlib.Data.List.Infix
import Termd.Library.Utf8
import Termd.Library.Whitespace

/-!
# Escape sequences that tell what a program does

A program sets the title of its terminal, and may report its status or its progress, by operating
system commands in its output. The parser takes the output byte by byte and keeps what it needs of a
command that has not ended. What does not fit is left out to the end of the command.

## Main definitions

* `BoundedOscParser.push`: the events of a chunk of output
* `oscEventIdentityHint`: the agent that an event speaks of

## Main results

* `BoundedOscParser.push_append`: the events do not depend on where the output is cut
-/

namespace Termd.Activity

def OSC_PAYLOAD_MAX_BYTES : ℕ := 256
def OSC_COMMAND_MAX_BYTES : ℕ := 5

inductive SessionActivityAgent
  | codex
  | claudeCode
  | openCode
  | zCode
deriving DecidableEq

/-! ### The texts of events -/

/-- The bytes of a text of ASCII characters. -/
def bytesOf (text : String) : List UInt8 := text.toList.map fun c => UInt8.ofNat c.toNat

/-- `str::from_utf8` -/
def fromUtf8? (bytes : List UInt8) : Option (List Char) :=
  match fromUtf8 bytes with
  | .ok text => some text
  | _ => none

def toAsciiLowercase (text : List Char) : List Char := text.map Char.toLower

def contains (text : List Char) (part : String) : Bool := decide (part.toList <:+: text)

def startsWith (text : List Char) (front : String) : Bool := front.toList.isPrefixOf text

/-- `str::len` -/
def byteLength (text : List Char) : ℕ := (text.map Char.utf8Size).sum

def isCodexSpinnerTitle (title : List Char) : Bool :=
  if title.head?.any fun first => '\u2800' ≤ first ∧ first ≤ '\u28ff' then true
  else
    let front := title.takeWhile (· ≠ ']')
    if ']' ∉ title then false
    else if !startsWith title "[" || 8 < byteLength front then false
    else
      let marker := trim (front.drop 1)
      marker.length = 1 && !(trim (title.drop (front.length + 1))).isEmpty

def isCodexRunningTitle (title : List Char) : Bool :=
  let lower := toAsciiLowercase title
  if contains lower "working" || contains lower "thinking" || contains lower "running" then true
  else isCodexSpinnerTitle title

def titleIdentityHint (title : List UInt8) : Option SessionActivityAgent :=
  match fromUtf8? title with
  | none => none
  | some title =>
    let title := trim title
    let lower := toAsciiLowercase title
    if lower = "opencode".toList || startsWith lower "oc |" then some .openCode
    else if lower = "zcode".toList || startsWith lower "zcode |" || startsWith lower "zcode -" then
      some .zCode
    else if contains lower "claude code" then some .claudeCode
    else if contains lower "codex" || contains lower "action required" ||
        isCodexSpinnerTitle title then
      some .codex
    else none

/-- The loop of `parse_claude_status`, which ends with a further semicolon. -/
def parseClaudeStatusFrom (key value : List UInt8) (readingValue escaped : Bool) :
    List UInt8 → Option (List UInt8)
  | [] => none
  | byte :: bytes =>
    if escaped then
      if readingValue then parseClaudeStatusFrom key (value ++ [byte]) readingValue false bytes
      else parseClaudeStatusFrom (key ++ [byte]) value readingValue false bytes
    else if byte = 0x5c then parseClaudeStatusFrom key value readingValue true bytes
    else if byte = 0x3d ∧ readingValue = false then parseClaudeStatusFrom key value true false bytes
    else if byte = 0x3b then
      if key = bytesOf "status" ∧ readingValue then some value
      else parseClaudeStatusFrom [] [] false false bytes
    else if readingValue then parseClaudeStatusFrom key (value ++ [byte]) true false bytes
    else parseClaudeStatusFrom (key ++ [byte]) value false false bytes

def parseClaudeStatus (payload : List UInt8) : Option (List UInt8) :=
  parseClaudeStatusFrom [] [] false false (payload ++ [0x3b])

def parseItermProgressState (payload : List UInt8) : Option UInt8 :=
  match payload.splitOn 0x3b with
  | first :: second :: _ =>
    if first ≠ bytesOf "4" then none
    else match second with
      | [state] => if inRange 0x30 0x39 state then some (state - 0x30) else none
      | _ => none
  | _ => none

/-! ### The parser -/

inductive OscPayloadKind
  | title
  | claudeStatus
  | itermProgress
deriving DecidableEq

inductive OscEvent
  | title (payload : List UInt8)
  | claudeStatus (payload : List UInt8)
  | itermProgress (payload : List UInt8)
deriving DecidableEq

def OscPayloadKind.event : OscPayloadKind → List UInt8 → OscEvent
  | .title => .title
  | .claudeStatus => .claudeStatus
  | .itermProgress => .itermProgress

def oscEventIdentityHint : OscEvent → Option SessionActivityAgent
  | .claudeStatus _ => some .claudeCode
  | .title title => titleIdentityHint title
  | .itermProgress _ => none

inductive OscParserState
  | ground
  | escape
  | command (command : List UInt8)
  | payload (kind : OscPayloadKind) (payload : List UInt8)
  | payloadEscape (kind : OscPayloadKind) (payload : List UInt8)
  | discard
  | discardEscape
deriving DecidableEq

/-- What a command that is followed by a semicolon begins. -/
def commandPayload (command : List UInt8) : OscParserState :=
  if command = bytesOf "0" ∨ command = bytesOf "2" then .payload .title []
  else if command = bytesOf "9" then .payload .itermProgress []
  else if command = bytesOf "21337" then .payload .claudeStatus []
  else .discard

/-- One byte of `BoundedOscParser::push`: the state it leads to, and the event it ends. -/
def OscParserState.next (byte : UInt8) : OscParserState → OscParserState × Option OscEvent
  | ground => if byte = 0x1b then (escape, none) else (ground, none)
  | escape =>
    if byte = 0x5d then (command [], none)
    else if byte = 0x1b then (escape, none)
    else (ground, none)
  | command digits =>
    if inRange 0x30 0x39 byte ∧ digits.length < OSC_COMMAND_MAX_BYTES then
      (command (digits ++ [byte]), none)
    else if byte = 0x3b then (commandPayload digits, none)
    else if byte = 0x07 then (ground, none)
    else if byte = 0x1b then (discardEscape, none)
    else (discard, none)
  | payload kind bytes =>
    if byte = 0x07 then (ground, some (kind.event bytes))
    else if byte = 0x1b then (payloadEscape kind bytes, none)
    else if bytes.length < OSC_PAYLOAD_MAX_BYTES then (payload kind (bytes ++ [byte]), none)
    else (discard, none)
  | payloadEscape kind bytes =>
    if byte = 0x5c then (ground, some (kind.event bytes))
    else if byte = 0x07 then (ground, none)
    else if byte = 0x1b then (discardEscape, none)
    else (discard, none)
  | discard =>
    if byte = 0x07 then (ground, none)
    else if byte = 0x1b then (discardEscape, none)
    else (discard, none)
  | discardEscape =>
    if byte = 0x5c ∨ byte = 0x07 then (ground, none)
    else if byte = 0x1b then (discardEscape, none)
    else (discard, none)

structure BoundedOscParser where
  state : OscParserState
deriving DecidableEq

namespace BoundedOscParser

/-- `BoundedOscParser::default` -/
def fresh : BoundedOscParser := ⟨.ground⟩

def push (parser : BoundedOscParser) : List UInt8 → BoundedOscParser × List OscEvent
  | [] => (parser, [])
  | byte :: bytes =>
    let (state, event) := parser.state.next byte
    let (parser, events) := push ⟨state⟩ bytes
    (parser, event.toList ++ events)

/-- **The events of a chunk** are those of its parts, wherever it is cut. -/
theorem push_append (parser : BoundedOscParser) (bytes bytes' : List UInt8) :
    parser.push (bytes ++ bytes') =
      (((parser.push bytes).1.push bytes').1,
        (parser.push bytes).2 ++ ((parser.push bytes).1.push bytes').2) := by
  induction bytes generalizing parser with
  | nil => rfl
  | cons byte bytes ih =>
    rw [List.cons_append, push, push]
    dsimp only
    rw [ih, List.append_assoc]

end BoundedOscParser

-- a title in two chunks, cut within the escape sequence
example : let (parser, events) := BoundedOscParser.fresh.push (0x1b :: bytesOf "]0;[.] Wor")
    (events, (parser.push (bytesOf "king" ++ [0x1b, 0x5c])).2) =
      ([], [.title (bytesOf "[.] Working")]) := by
  decide

end Termd.Activity
