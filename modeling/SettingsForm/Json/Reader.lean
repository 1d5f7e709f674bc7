import SettingsForm.Number.Reader
import SettingsForm.Value.Basic

/-!
# Reading JSON text

The reader is an automaton that takes one character at a time. Its state holds the containers that are
still open, innermost first, and a mode that tells what may come next. A text is accepted when it leaves
the automaton with one finished value and nothing open. Of several entries of a mapping with one key the
last one counts, and containers may be nested only to a given depth.
-/

namespace SettingsForm.Json

/-- An open container: its elements so far, newest first, or its entries and the key whose value is due. -/
inductive Frame where
  | list (items : List Value)
  | mapping (entries : Mapping) (key : String)

/-- What a string literal will be: a value, or the next key of the innermost mapping. -/
inductive Role where
  | value
  | key (entries : Mapping)

/-- How far an escape sequence inside a string has been read. -/
inductive Escape where
  | none
  | started
  | code (digits : Nat) (total : Nat)
  | highSurrogate (high : Nat)
  | lowStarted (high : Nat)
  | lowCode (high : Nat) (digits : Nat) (total : Nat)

/-- What the automaton expects next. -/
inductive Mode where
  | value
  | valueOrEnd
  | keyOrEnd
  | key (entries : Mapping)
  | colon (entries : Mapping) (key : String)
  | next
  | string (role : Role) (text : List Char) (escape : Escape)
  | number (token : List Char)
  | word (letters : List Char)
  | done (value : Value)

/-- The automaton's state. `keyOrEnd` and `key` stand for a mapping that is not among the frames yet. -/
structure State where
  frames : List Frame
  mode : Mode

/-- White space between tokens: space, tab, line feed and carriage return only. -/
def isSpace (c : Char) : Bool := c = ' ' || c = '\t' || c = '\n' || c = '\r'

/-- Takes a finished value into the innermost open container. -/
def State.finish (frames : List Frame) (v : Value) : State :=
  match frames with
  | [] => ⟨[], .done v⟩
  | .list items :: rest => ⟨.list (v :: items) :: rest, .next⟩
  | .mapping entries key :: rest => ⟨.mapping (Mapping.insert key v entries) key :: rest, .next⟩

/-- A character that may stand in a number. -/
def isNumberChar (c : Char) : Bool :=
  Digits.isDigit c || c = '-' || c = '+' || c = '.' || c = 'e' || c = 'E'

/-- Starts a value. The depth counts the containers that may be open at once. -/
def State.start? (depth : Nat) (frames : List Frame) (c : Char) : Option State :=
  if c = '[' then
    if frames.length < depth then some ⟨.list [] :: frames, .valueOrEnd⟩ else none
  else if c = '\x7b' then
    if frames.length < depth then some ⟨frames, .keyOrEnd⟩ else none
  else if c = '"' then some ⟨frames, .string .value [] .none⟩
  else if Digits.isDigit c || c = '-' then some ⟨frames, .number [c]⟩
  else if 'a' ≤ c ∧ c ≤ 'z' then some ⟨frames, .word [c]⟩
  else none

/-- What may follow an element: a comma, or the end of the container. -/
def State.afterElement? (frames : List Frame) (c : Char) : Option State :=
  match frames with
  | .list items :: rest =>
    if c = ',' then some ⟨frames, .value⟩
    else if c = ']' then some (State.finish rest (.list items.reverse))
    else none
  | .mapping entries _ :: rest =>
    if c = ',' then some ⟨rest, .key entries⟩
    else if c = '\x7d' then some (State.finish rest (.mapping entries))
    else none
  | [] => none

/-- A state in which a value has been finished takes the character after it. -/
def State.settle? (s : State) (c : Char) : Option State :=
  if isSpace c then some s
  else match s.mode with
    | .next => State.afterElement? s.frames c
    | _ => none

/-- Ends a string literal. -/
def State.closeString (frames : List Frame) (role : Role) (text : List Char) : State :=
  let s := String.ofList text.reverse
  match role with
  | .value => State.finish frames (.string s)
  | .key entries => ⟨frames, .colon entries s⟩

/-- The character of a one-letter escape. -/
def simpleEscape? (c : Char) : Option Char :=
  match c with
  | '"' | '\\' | '/' => some c
  | 'b' => some (Char.ofNat 8)
  | 'f' => some (Char.ofNat 12)
  | 'n' => some '\n'
  | 'r' => some '\r'
  | 't' => some '\t'
  | _ => none

/-- One more character inside a string. Surrogates must come in pairs. -/
def State.inString? (frames : List Frame) (role : Role) (text : List Char) (escape : Escape)
    (c : Char) : Option State :=
  let resume (text : List Char) (escape : Escape) : Option State :=
    some ⟨frames, .string role text escape⟩
  match escape with
  | .none =>
    if c = '"' then some (State.closeString frames role text)
    else if c = '\\' then resume text .started
    else if c.toNat < 32 then Option.none
    else resume (c :: text) .none
  | .started =>
    if c = 'u' then resume text (.code 0 0)
    else (simpleEscape? c).bind fun plain => resume (plain :: text) .none
  | .code digits total =>
    (Digits.hexValue? c).bind fun value =>
      let total := total * 16 + value
      if digits < 3 then resume text (.code (digits + 1) total)
      else if 0xD800 ≤ total ∧ total < 0xDC00 then resume text (.highSurrogate total)
      else if 0xDC00 ≤ total ∧ total < 0xE000 then Option.none
      else resume (Char.ofNat total :: text) .none
  | .highSurrogate high => if c = '\\' then resume text (.lowStarted high) else Option.none
  | .lowStarted high => if c = 'u' then resume text (.lowCode high 0 0) else Option.none
  | .lowCode high digits total =>
    (Digits.hexValue? c).bind fun value =>
      let total := total * 16 + value
      if digits < 3 then resume text (.lowCode high (digits + 1) total)
      else if 0xDC00 ≤ total ∧ total < 0xE000 then
        resume (Char.ofNat (0x10000 + (high - 0xD800) * 0x400 + (total - 0xDC00)) :: text) .none
      else Option.none

/-- The constant that a word names. -/
def constant? (letters : List Char) : Option Value :=
  if letters = "true".toList then some (.bool true)
  else if letters = "false".toList then some (.bool false)
  else if letters = "null".toList then some .null
  else none

/-- Ends the number or word that is being read, if any. -/
def State.flush? (s : State) : Option State :=
  match s.mode with
  | .number token => (Number.ofToken? token.reverse).map fun n => State.finish s.frames (.number n)
  | .word letters => (constant? letters.reverse).map (State.finish s.frames)
  | _ => some s

/-- One step of the automaton. -/
def State.step? (depth : Nat) (s : State) (c : Char) : Option State :=
  match s.mode with
  | .value => if isSpace c then some s else State.start? depth s.frames c
  | .valueOrEnd =>
    if isSpace c then some s
    else if c = ']' then some (State.finish (s.frames.drop 1) (.list []))
    else State.start? depth s.frames c
  | .keyOrEnd =>
    if isSpace c then some s
    else if c = '"' then some ⟨s.frames, .string (.key []) [] .none⟩
    else if c = '\x7d' then some (State.finish s.frames (.mapping []))
    else none
  | .key entries =>
    if isSpace c then some s
    else if c = '"' then some ⟨s.frames, .string (.key entries) [] .none⟩
    else none
  | .colon entries key =>
    if isSpace c then some s
    else if c = ':' then some ⟨.mapping entries key :: s.frames, .value⟩
    else none
  | .string role text escape => State.inString? s.frames role text escape c
  | .number token =>
    if isNumberChar c then some ⟨s.frames, .number (c :: token)⟩
    else s.flush?.bind (State.settle? · c)
  | .word letters =>
    if 'a' ≤ c ∧ c ≤ 'z' then some ⟨s.frames, .word (c :: letters)⟩
    else s.flush?.bind (State.settle? · c)
  | .next | .done _ => s.settle? c

/-- Runs the automaton over a text. -/
def State.run? (depth : Nat) : State → List Char → Option State
  | s, [] => some s
  | s, c :: rest => (s.step? depth c).bind (run? depth · rest)

/-- Reads a text whose containers are nested at most to the given depth. -/
def readWithin? (depth : Nat) (text : List Char) : Option Value :=
  match ((State.mk [] .value).run? depth text).bind State.flush? with
  | some ⟨[], .done v⟩ => some v
  | _ => none

/-- The depth to which the containers of a document may be nested. -/
def maxDepth : Nat := 127

/-- Reads a JSON document. -/
def read? (text : String) : Option Value := readWithin? maxDepth text.toList

end SettingsForm.Json
