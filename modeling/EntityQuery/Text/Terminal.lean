/-!
# Terminal text

Text with the control sequences that style it on a terminal, and the same text
as it reads where no terminal is.

## Main Definitions

* `Terminal.styled`: a text in a style.
* `Terminal.Mode`: what a terminal makes of the next character.
* `Terminal.Mode.step`: the mode after a character, and whether the character is shown.
* `Terminal.plain`: the characters of a text that are shown.

## Design Notes

The text may hold sequences of its own, and may end within one: a sequence
takes everything up to its end, whoever wrote it.  Blanks and line ends are
shown even within a sequence, which they break off.
-/

namespace EntityQuery.Text.Terminal

/-- A text in a style, which ends with it. -/
def styled (style text : String) : String :=
  s!"\x1b[{style}m{text}\x1b[0m"

/-- What a terminal makes of the next character. -/
inductive Mode where
  /-- It is shown. -/
  | text
  /-- It tells the kind of a sequence. -/
  | escape
  /-- It goes on with the kind of a sequence. -/
  | escapeIntermediate
  /-- It belongs to a control sequence, which a letter ends. -/
  | control
  /-- It is the first of a device string. -/
  | device
  | deviceParameter
  | deviceIntermediate
  /-- It belongs to a string that is not shown. -/
  | hidden
  /-- It belongs to a command to the system, which a bell ends. -/
  | command
deriving DecidableEq, Repr

/-- Tabs and line ends. -/
def isLayout (c : Char) : Bool :=
  c == '\t' || c == '\n' || c == '\x0c' || c == '\r'

/-- Whether a character is shown where no sequence is open. -/
def isVisible (c : Char) : Bool :=
  isLayout c || (0x20 ≤ c.toNat && c.toNat ≠ 0x7F)

/-- Whether the byte that ends a hidden string occurs in the encoding of a character. -/
def endsHidden (c : Char) : Bool :=
  (String.utf8EncodeChar c).contains 0x9C

namespace Mode

/-- The mode that the kind of a sequence opens. -/
def ofKind (c : Char) : Mode :=
  let n := c.toNat
  if c = '[' then .control
  else if c = ']' then .command
  else if c = 'P' then .device
  else if c = 'X' || c = '^' || c = '_' then .hidden
  else if 0x20 ≤ n && n ≤ 0x2F then .escapeIntermediate
  else if 0x30 ≤ n && n ≤ 0x7E then .text
  else .escape

/-- The mode after a character of the head of a device string. -/
def ofDevice (mode : Mode) (c : Char) : Mode :=
  let n := c.toNat
  if 0x20 ≤ n && n ≤ 0x2F then .deviceIntermediate
  else if 0x30 ≤ n && n ≤ 0x3F then
    if mode = .deviceIntermediate || (mode = .deviceParameter && 0x3C ≤ n) then .hidden
    else .deviceParameter
  else if 0x40 ≤ n && n ≤ 0x7E then .hidden
  else mode

/-- The mode after a character that neither opens nor breaks off a sequence. -/
def next (mode : Mode) (c : Char) : Mode :=
  let n := c.toNat
  match mode with
  | .text => .text
  | .escape => ofKind c
  | .escapeIntermediate => if 0x30 ≤ n && n ≤ 0x7E then .text else .escapeIntermediate
  | .control => if 0x40 ≤ n && n ≤ 0x7E then .text else .control
  | .device | .deviceParameter | .deviceIntermediate => ofDevice mode c
  | .hidden => if endsHidden c then .text else .hidden
  | .command => if n = 0x07 then .text else .command

/-- Whether a line end breaks off what is open. -/
def isBrokenByLayout : Mode → Bool
  | .text | .escape | .escapeIntermediate | .control => true
  | _ => false

/-- The mode after a character, and whether the character is shown. -/
def step (mode : Mode) (c : Char) : Mode × Bool :=
  if c.toNat = 0x1B then (.escape, false)
  else if c.toNat = 0x18 || c.toNat = 0x1A then (.text, false)
  else if mode.isBrokenByLayout && isLayout c then (.text, true)
  else (mode.next c, mode = .text && isVisible c)

end Mode

/-- The characters that are shown when a terminal in some mode reads a text. -/
def shownFrom (mode : Mode) : List Char → List Char
  | [] => []
  | c :: rest =>
    let (mode, isShown) := mode.step c
    if isShown then c :: shownFrom mode rest else shownFrom mode rest

/-- The text without control characters and sequences. -/
def plain (s : String) : String :=
  String.ofList (shownFrom .text s.toList)

end EntityQuery.Text.Terminal
