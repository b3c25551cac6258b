import SearchKit.Fault
import SearchKit.Json.Reader

/-!
# Tokens of a manifest text

A manifest is a text of indented blocks and bracketed flows.  Lexing turns it into tokens, among
them the starts and ends of blocks, which the indentation gives.

* `Token`: the tokens.
* `Lexer`: the state of lexing: the place in the text, the open blocks and the keys that may still
  turn out to be one.
* `Token.lex`: the tokens of a whole text, and why there are no more.  A text is lexed no further
  than its reading needs, so of a text with a fault only the tokens before it count.
-/

namespace SearchKit.Yaml

/-! ### Characters -/

/-- The character ends a line. -/
def isBreak (c : Char) : Bool :=
  c == '\n' || c == '\r' || c == '\x85' || c == '\u2028' || c == '\u2029'

/-- A line ends here, or the text. -/
def endsLine (c : Option Char) : Bool := c.all isBreak

/-- A space, the end of a line or the end of the text. -/
def endsWord (c : Option Char) : Bool := c.all fun c => c == ' ' || isBreak c

/-- A blank, the end of a line or the end of the text. -/
def endsBlank (c : Option Char) : Bool := c.all fun c => c == ' ' || c == '\t' || isBreak c

/-- The character may stand in a manifest. -/
def isAllowed (c : Char) : Bool :=
  let n := c.toNat
  n == 0x09 || n == 0x0A || n == 0x0D || (0x20 ≤ n && n ≤ 0x7E) || n == 0x85 ||
    (0xA0 ≤ n && n ≤ 0xD7FF) || (0xE000 ≤ n && n ≤ 0xFFFD) || 0x10000 ≤ n

/-- The character may stand in a name. -/
def isNameChar (c : Char) : Bool := c.isAlphanum || c == '-' || c == '_'

/-! ### Tokens -/

/-- A part of a manifest text. -/
inductive Token where
  /-- The version of the notation. -/
  | version (major : Nat)
  /-- What a handle of tags stands for. -/
  | handle (name start : String)
  /-- A directive without a meaning. -/
  | directive
  | documentStart
  | documentEnd
  | blockSequenceStart
  | blockMappingStart
  | blockEnd
  | flowSequenceStart
  | flowSequenceEnd
  | flowMappingStart
  | flowMappingEnd
  | key
  | value
  | blockEntry
  | flowEntry
  | alias (name : String)
  | anchor (name : String)
  | tag (handle : Option String) (suffix : String)
  | scalar (text : String) (plain : Bool)
  | streamEnd
  deriving BEq, Inhabited, Repr

/-- A token that may turn out to be a key, when a colon follows. -/
structure SimpleKey where
  /-- The count of tokens before it. -/
  place : Nat
  /-- Nothing but a key may stand there. -/
  required : Bool
  /-- Where it starts in the text. -/
  index : Nat
  /-- Its line. -/
  line : Nat
  /-- Its column. -/
  column : Nat
  deriving Inhabited

/-- The state of lexing. -/
structure Lexer where
  /-- The text still to be read. -/
  rest : List Char
  /-- The count of characters read. -/
  index : Nat := 0
  /-- The count of lines read. -/
  line : Nat := 0
  /-- The place in the line. -/
  column : Nat := 0
  /-- The depth of the brackets, below zero after too many closing ones. -/
  flow : Int := 0
  /-- The column of the innermost block, -1 outside of all. -/
  indent : Int := -1
  /-- The columns of the blocks around it. -/
  indents : List Int := []
  /-- A key may start here. -/
  keyAllowed : Bool := true
  /-- The tokens that may turn out to be keys, by the depth of the brackets. -/
  simpleKeys : List (Int × SimpleKey) := []
  /-- The tokens so far. -/
  tokens : Array Token := #[]
  /-- The count of tokens that are known for what they are without the next one. -/
  released : Nat := 0
  deriving Inhabited

/-- A step of lexing; what was read stays known when a step fails. -/
abbrev Lex (α : Type) := ExceptT Fault (StateM Lexer) α

namespace Lexer

/-- The text cannot be read. -/
def refuse {α : Type} : Lex α := throw .unreadable

/-- The next character. -/
def peek : Lex (Option Char) := do return (← get).rest.head?

/-- The character after some others. -/
def peekAt (k : Nat) : Lex (Option Char) := do return (← get).rest[k]?

/-- The state after the next character. -/
def step (s : Lexer) : Lexer :=
  match s.rest with
  | [] => s
  | c :: rest =>
    let s := { s with rest, index := s.index + 1 }
    if isBreak c && !(c == '\r' && rest.head? == some '\n') then
      { s with line := s.line + 1, column := 0 }
    else if c == '\uFEFF' then s
    else { s with column := s.column + 1 }

/-- Some characters passed. -/
def forward (count : Nat) : Lex Unit := modify fun s => count.repeat step s

/-- The longest run of characters of a class passed. -/
def takeWhile (p : Char → Bool) : Lex (List Char) := do
  let run := (← get).rest.takeWhile p
  forward run.length
  return run

/-- The end of a line passed, if one is here; the usual ones all count as a line feed. -/
def lineBreak : Lex (List Char) := do
  match (← get).rest with
  | '\r' :: '\n' :: _ => forward 2; return ['\n']
  | c :: _ =>
    if c == '\n' || c == '\r' || c == '\x85' then forward 1; return ['\n']
    else if isBreak c then forward 1; return [c]
    else return []
  | [] => return []

/-- A count of steps that no loop over the text exceeds. -/
def fuel : Lex Nat := do return (← get).rest.length + 1

/-- A token added. -/
def emit (t : Token) : Lex Unit := modify fun s => { s with tokens := s.tokens.push t }

/-- A document separator starts here: three hyphens or points that stand alone. -/
def atSeparator : Lex Bool := do
  match (← get).rest with
  | '-' :: '-' :: '-' :: rest | '.' :: '.' :: '.' :: rest => return endsBlank rest.head?
  | _ => return false

/-! ### Blocks and keys -/

/-- The blocks deeper than a column closed. -/
def unwind (column : Int) : Lex Unit := do
  let s ← get
  if s.flow == 0 then
    let closed := (s.indent :: s.indents).takeWhile (column < ·)
    let left := (s.indent :: s.indents).drop closed.length
    set { s with
      indent := left.headD (-1)
      indents := left.tail
      tokens := s.tokens ++ (closed.map fun _ => Token.blockEnd).toArray }

/-- A block opened at a column, if it is deeper than the innermost one. -/
def addIndent (column : Int) : Lex Bool := do
  let s ← get
  if s.indent < column then
    set { s with indent := column, indents := s.indent :: s.indents }
    return true
  else return false

/-- The token can be no key any more: it is on an earlier line or too far back. -/
def isStale (s : Lexer) (k : SimpleKey) : Bool := k.line != s.line || 1024 < s.index - k.index

/-- The keys given up that can be none any more. -/
def dropStaleKeys : Lex Unit := do
  let s ← get
  if s.simpleKeys.any fun k => s.isStale k.2 && k.2.required then refuse
  else set { s with simpleKeys := s.simpleKeys.filter fun k => !s.isStale k.2 }

/-- The tokens released that are known for what they are: those before the first possible key. -/
def release : Lex Unit := modify fun s => { s with
  released := s.simpleKeys.foldl
    (fun n k => if s.isStale k.2 then n else min n k.2.place) s.tokens.size }

/-- The possible key of the present depth given up. -/
def removeKey : Lex Unit := do
  let s ← get
  match s.simpleKeys.lookup s.flow with
  | some k =>
    if k.required then refuse
    else set { s with simpleKeys := s.simpleKeys.filter fun k => k.1 != s.flow }
  | none => return ()

/-- The next token noted as a possible key. -/
def saveKey : Lex Unit := do
  let s ← get
  if s.keyAllowed then
    removeKey
    let required := s.flow == 0 && s.indent == s.column
    let k : SimpleKey := { place := s.tokens.size, required, index := s.index, line := s.line,
                           column := s.column }
    modify fun s => { s with simpleKeys := (s.flow, k) :: s.simpleKeys }

/-- A key may or may not start next. -/
def allowKey (allowed : Bool) : Lex Unit := modify fun s => { s with keyAllowed := allowed }

/-- Blanks, comments and empty lines passed. -/
def skipToToken : Nat → Lex Unit
  | 0 => return ()
  | fuel + 1 => do
    let _ ← takeWhile (· == ' ')
    if (← peek) == some '#' then let _ ← takeWhile fun c => !isBreak c
    if (← lineBreak).isEmpty then return ()
    else
      if (← get).flow == 0 then allowKey true
      skipToToken fuel

/-! ### Scalars -/

/-- The ends of lines passed, up to the next character that is neither one nor a blank. -/
def quotedBreaks : Nat → List Char → Lex (List Char)
  | 0, acc => return acc
  | fuel + 1, acc => do
    if ← atSeparator then refuse
    let _ ← takeWhile fun c => c == ' ' || c == '\t'
    match ← lineBreak with
    | [] => return acc
    | b => quotedBreaks fuel (acc ++ b)

/-- Ends of lines as they count in a scalar: a single line feed folds into a space. -/
def folded (first rest : List Char) : List Char :=
  if first != ['\n'] then first ++ rest else if rest.isEmpty then [' '] else rest

/-- The blanks within a quoted scalar. -/
def quotedSpaces : Lex (List Char) := do
  let blanks ← takeWhile fun c => c == ' ' || c == '\t'
  match ← peek with
  | none => refuse
  | some c =>
    if isBreak c then
      let first ← lineBreak
      return folded first (← quotedBreaks (← fuel) [])
    else return blanks

/-- The character of a one letter escape. -/
def shortEscape? : Char → Option Char
  | '0' => some '\x00'
  | 'a' => some '\x07'
  | 'b' => some '\x08'
  | 't' | '\t' => some '\t'
  | 'n' => some '\n'
  | 'v' => some '\x0b'
  | 'f' => some '\x0c'
  | 'r' => some '\r'
  | 'e' => some '\x1b'
  | ' ' => some ' '
  | '"' => some '"'
  | '\\' => some '\\'
  | '/' => some '/'
  | 'N' => some '\x85'
  | '_' => some '\xa0'
  | 'L' => some '\u2028'
  | 'P' => some '\u2029'
  | _ => none

/-- The count of digits of an escape by number. -/
def escapeWidth? : Char → Option Nat
  | 'x' => some 2
  | 'u' => some 4
  | 'U' => some 8
  | _ => none

/-- The character of a number; half of a surrogate pair is none by itself. -/
def numbered (n : Nat) : Lex Char :=
  if 0x7FFFFFFF < n then throw (.misuse .outOfRange)
  else if 0x10FFFF < n then throw (.misuse .badValue)
  else if n.isValidChar then return Char.ofNat n
  else return '\uFFFD'

/-- An escape after its backslash. -/
def escape : Lex (List Char) := do
  match ← peek with
  | none => refuse
  | some c =>
    match shortEscape? c, escapeWidth? c with
    | some e, _ => forward 1; return [e]
    | none, some width =>
      forward 1
      match ((← get).rest.take width).mapM Json.hexValue? with
      | some digits =>
        if digits.length < width then refuse
        else
          forward width
          return [← numbered (digits.foldl (fun n d => 16 * n + d) 0)]
      | none => refuse
    | none, none =>
      if isBreak c then
        let _ ← lineBreak
        quotedBreaks (← fuel) []
      else refuse

/-- The characters of a quoted scalar up to a blank or the closing quote. -/
def quotedWord (double : Bool) : Nat → List Char → Lex (List Char)
  | 0, acc => return acc
  | fuel + 1, acc => do
    let run ← takeWhile fun c =>
      !(c == '\'' || c == '"' || c == '\\' || c == ' ' || c == '\t' || isBreak c)
    let acc := acc ++ run
    match (← peek), (← peekAt 1) with
    | some '\'', next =>
      if double then forward 1; quotedWord double fuel (acc ++ ['\''])
      else if next == some '\'' then forward 2; quotedWord double fuel (acc ++ ['\''])
      else return acc
    | some '"', _ =>
      if double then return acc else forward 1; quotedWord double fuel (acc ++ ['"'])
    | some '\\', _ =>
      forward 1
      if double then
        let e ← escape
        quotedWord double fuel (acc ++ e)
      else quotedWord double fuel (acc ++ ['\\'])
    | _, _ => return acc

/-- The words and blanks of a quoted scalar up to its closing quote. -/
def quotedParts (double : Bool) : Nat → List Char → Lex (List Char)
  | 0, acc => return acc
  | fuel + 1, acc => do
    if (← peek) == some (if double then '"' else '\'') then
      forward 1
      return acc
    else
      let blanks ← quotedSpaces
      let word ← quotedWord double (← Lexer.fuel) []
      quotedParts double fuel (acc ++ blanks ++ word)

/-- A quoted scalar. -/
def quotedScalar (double : Bool) : Lex Token := do
  forward 1
  let word ← quotedWord double (← fuel) []
  return .scalar (String.ofList (← quotedParts double (← fuel) word)) false

/-- The ends of lines within a plain scalar and the blanks around them; nothing more when a document
separator follows. -/
def plainBreaks : Nat → List Char → Lex (Option (List Char))
  | 0, acc => return some acc
  | fuel + 1, acc => do
    if ← atSeparator then return none
    let _ ← takeWhile (· == ' ')
    match ← lineBreak with
    | [] => return some acc
    | b => plainBreaks fuel (acc ++ b)

/-- The blanks after a word of a plain scalar; none when the scalar ends there. -/
def plainSpaces : Lex (List Char) := do
  let blanks ← takeWhile (· == ' ')
  match ← lineBreak with
  | [] => return blanks
  | first =>
    allowKey true
    match ← plainBreaks (← fuel) [] with
    | none => return []
    | some rest => return folded first rest

/-- A word of a plain scalar ends before this character. -/
def endsPlain (inFlow : Bool) (c : Char) (next : Option Char) : Bool :=
  endsBlank (some c) ||
    (c == ':' &&
      (endsBlank next || (inFlow && next.any fun n => ",[]\x7b\x7d".toList.contains n))) ||
    (inFlow && ",?[]\x7b\x7d".toList.contains c)

/-- The longest word of a plain scalar. -/
def plainWord (inFlow : Bool) : List Char → List Char
  | [] => []
  | c :: rest => if endsPlain inFlow c rest.head? then [] else c :: plainWord inFlow rest

/-- The words of a plain scalar, with the blanks between them. -/
def plainWords : Nat → List Char → List Char → Lex (List Char)
  | 0, acc, _ => return acc
  | fuel + 1, acc, blanks => do
    let s ← get
    if s.rest.head? == some '#' then return acc
    let word := plainWord (s.flow != 0) s.rest
    if word.isEmpty then return acc
    allowKey false
    forward word.length
    let acc := acc ++ blanks ++ word
    let blanks ← plainSpaces
    let s ← get
    if blanks.isEmpty || (s.flow == 0 && (s.column : Int) < s.indent + 1) then return acc
    plainWords fuel acc blanks

/-- A plain scalar. -/
def plainScalar : Lex Token := do
  return .scalar (String.ofList (← plainWords (← fuel) [] [])) true

/-- How the end of a block scalar is kept. -/
inductive Chomping where
  | clip
  | strip
  | keep
  deriving BEq

/-- The chomping of an indicator. -/
def chomping? : Option Char → Option Chomping
  | some '+' => some .keep
  | some '-' => some .strip
  | _ => none

/-- An indentation indicator, which is no zero. -/
def increment? : Lex (Option Nat) := do
  match ← peek with
  | some c =>
    if c.isDigit then
      if c == '0' then refuse
      forward 1
      return some (c.toNat - 48)
    else return none
  | none => return none

/-- The indicators of a block scalar, in either order. -/
def blockIndicators : Lex (Chomping × Option Nat) := do
  match chomping? (← peek) with
  | some chomping =>
    forward 1
    return (chomping, ← increment?)
  | none =>
    let increment ← increment?
    match increment, chomping? (← peek) with
    | some n, some chomping => forward 1; return (chomping, some n)
    | increment, _ => return (.clip, increment)

/-- The rest of the line of an indicator: nothing but blanks and a comment. -/
def ignoredLine : Lex Unit := do
  let _ ← takeWhile (· == ' ')
  if (← peek) == some '#' then let _ ← takeWhile fun c => !isBreak c
  unless endsLine (← peek) do refuse
  let _ ← lineBreak

/-- Spaces passed up to a column. -/
def indentTo (column : Int) : Lex Unit := do
  let s ← get
  let spaces := (s.rest.takeWhile (· == ' ')).length
  forward (min spaces (column - s.column).toNat)

/-- The empty lines before a line of a block scalar. -/
def blockBreaks (column : Int) : Nat → List Char → Lex (List Char)
  | 0, acc => return acc
  | fuel + 1, acc => do
    indentTo column
    match ← lineBreak with
    | [] => return acc
    | b => blockBreaks column fuel (acc ++ b)

/-- The empty lines before the first line of a block scalar, and the widest indentation of one. -/
def blockIndentation : Nat → List Char → Nat → Lex (List Char × Nat)
  | 0, acc, widest => return (acc, widest)
  | fuel + 1, acc, widest => do
    let _ ← takeWhile (· == ' ')
    let widest := max widest (← get).column
    match ← lineBreak with
    | [] => return (acc, widest)
    | b => blockIndentation fuel (acc ++ b) widest

/-- The lines of a block scalar at a column: the text, the last end of a line and the empty lines
after it. -/
def blockLines (fold : Bool) (column : Int) :
    Nat → List Char → List Char → Lex (List Char × List Char × List Char)
  | 0, acc, breaks => return (acc, [], breaks)
  | fuel + 1, acc, breaks => do
    let leading := (← peek).all fun c => !(c == ' ' || c == '\t')
    let run ← takeWhile fun c => !isBreak c
    let acc := acc ++ breaks ++ run
    let last ← lineBreak
    let breaks ← blockBreaks column (← Lexer.fuel) []
    let s ← get
    if (s.column : Int) == column && !s.rest.isEmpty then
      let next := s.rest.head?.all fun c => !(c == ' ' || c == '\t')
      if fold && last == ['\n'] && leading && next then
        blockLines fold column fuel (if breaks.isEmpty then acc ++ [' '] else acc) breaks
      else blockLines fold column fuel (acc ++ last) breaks
    else return (acc, last, breaks)

/-- A block scalar, folded or not. -/
def blockScalar (fold : Bool) : Lex Token := do
  forward 1
  let (chomping, increment) ← blockIndicators
  unless endsWord (← peek) do refuse
  ignoredLine
  let least := max ((← get).indent + 1) 1
  let (column, breaks) ← match increment with
    | none => do
      let (breaks, widest) ← blockIndentation (← fuel) [] 0
      pure (max least (widest : Int), breaks)
    | some n => do
      let column := least + n - 1
      pure (column, ← blockBreaks column (← fuel) [])
  let s ← get
  let (text, last, breaks) ←
    if (s.column : Int) == column && !s.rest.isEmpty then
      blockLines fold column (← fuel) [] breaks
    else pure ([], [], breaks)
  let text := if chomping == .strip then text else text ++ last
  let text := if chomping == .keep then text ++ breaks else text
  return .scalar (String.ofList text) false

/-! ### Names -/

/-- The name of an anchor or an alias after its indicator. -/
def anchorName : Lex String := do
  forward 1
  let name ← takeWhile isNameChar
  if name.isEmpty then refuse
  let next ← peek
  unless endsBlank next || next.any fun c => "?:,]\x7d%@\x60".toList.contains c do refuse
  return String.ofList name

/-- The character may stand in the suffix of a tag. -/
def isTagChar (c : Char) : Bool :=
  isNameChar c || ";/?:@&=+$,.!~*'()[]".toList.contains c

/-- Bytes by number, each after a percent sign, gathered backwards. -/
def escapedBytes : Nat → List UInt8 → Lex (List UInt8)
  | 0, acc => return acc.reverse
  | fuel + 1, acc => do
    match (← get).rest with
    | '%' :: rest =>
      match (rest.take 2).mapM Json.hexValue? with
      | some [high, low] =>
        forward 3
        escapedBytes fuel ((16 * high + low).toUInt8 :: acc)
      | _ => refuse
    | _ => return acc.reverse

/-- The characters of the suffix of a tag. -/
def tagChars : Nat → List Char → Lex (List Char)
  | 0, acc => return acc
  | fuel + 1, acc => do
    let acc := acc ++ (← takeWhile isTagChar)
    if (← peek) == some '%' then
      match String.fromUTF8? ⟨(← escapedBytes (← Lexer.fuel) []).toArray⟩ with
      | some s => tagChars fuel (acc ++ s.toList)
      | none => refuse
    else return acc

/-- The suffix of a tag. -/
def tagSuffix : Lex String := do
  let s ← tagChars (← fuel) []
  if s.isEmpty then refuse else return String.ofList s

/-- The handle of a tag: a name between exclamation marks. -/
def tagHandle : Lex String := do
  unless (← peek) == some '!' do refuse
  forward 1
  let name ← if (← peek) == some ' ' then pure none else do
    let name ← takeWhile isNameChar
    unless (← peek) == some '!' do refuse
    forward 1
    pure (some name)
  return match name with
    | some name => "!" ++ String.ofList name ++ "!"
    | none => "!"

/-- A tag. -/
def tag : Lex Token := do
  let t ← match ← peekAt 1 with
    | some '<' => do
      forward 2
      let suffix ← tagSuffix
      unless (← peek) == some '>' do refuse
      forward 1
      pure (Token.tag none suffix)
    | next =>
      if endsBlank next then do
        forward 1
        pure (Token.tag none "!")
      else do
        let word := ((← get).rest.drop 1).takeWhile fun c => !(c == ' ' || isBreak c)
        if word.contains '!' then
          let handle ← tagHandle
          pure (Token.tag (some handle) (← tagSuffix))
        else
          forward 1
          pure (Token.tag (some "!") (← tagSuffix))
  unless endsWord (← peek) do refuse
  return t

/-- Spaces passed. -/
def skipSpaces : Lex Unit := do let _ ← takeWhile (· == ' ')

/-- A part of the number of a version. -/
def versionPart : Lex Nat := do
  let digits ← takeWhile Char.isDigit
  if digits.isEmpty then refuse
  else if maxDigits < digits.length then throw (.misuse .badValue)
  else return digitsValue digits

/-- The version after its directive. -/
def version : Lex Token := do
  skipSpaces
  let major ← versionPart
  unless (← peek) == some '.' do refuse
  forward 1
  let _ ← versionPart
  unless endsWord (← peek) do refuse
  return .version major

/-- The handle after its directive, and what it stands for. -/
def handle : Lex Token := do
  skipSpaces
  let name ← tagHandle
  unless (← peek) == some ' ' do refuse
  skipSpaces
  let start ← tagSuffix
  unless endsWord (← peek) do refuse
  return .handle name start

/-- A directive. -/
def directive : Lex Token := do
  forward 1
  let name ← takeWhile isNameChar
  if name.isEmpty then refuse
  unless endsWord (← peek) do refuse
  let t ← match String.ofList name with
    | "YAML" => version
    | "TAG" => handle
    | _ => do
      let _ ← takeWhile fun c => !isBreak c
      pure .directive
  ignoredLine
  return t

/-! ### The next token -/

/-- A token that ends everything around it. -/
def closeAll (count : Nat) (t : Lex Token) : Lex Unit := do
  unwind (-1)
  removeKey
  allowKey false
  forward count
  emit (← t)

/-- A scalar, an anchor, an alias or a tag, which may be a key or stand before one. -/
def keyLike (t : Lex Token) : Lex Unit := do
  saveKey
  allowKey false
  emit (← t)

/-- An opening bracket. -/
def openFlow (t : Token) : Lex Unit := do
  saveKey
  modify fun s => { s with flow := s.flow + 1 }
  allowKey true
  forward 1
  emit t

/-- A closing bracket. -/
def closeFlow (t : Token) : Lex Unit := do
  removeKey
  modify fun s => { s with flow := s.flow - 1 }
  allowKey false
  forward 1
  emit t

/-- The start of a block where its first entry is, unless within brackets. -/
def startBlock (t : Token) : Lex Unit := do
  let s ← get
  if s.flow == 0 then
    unless s.keyAllowed do refuse
    if ← addIndent s.column then emit t

/-- The hyphen of an entry. -/
def blockEntry : Lex Unit := do
  startBlock .blockSequenceStart
  allowKey true
  removeKey
  forward 1
  emit .blockEntry

/-- The mark of a key. -/
def keyMark : Lex Unit := do
  startBlock .blockMappingStart
  allowKey ((← get).flow == 0)
  removeKey
  forward 1
  emit .key

/-- The colon of a value: it makes the possible key before it one. -/
def valueMark : Lex Unit := do
  let s ← get
  match s.simpleKeys.lookup s.flow with
  | some k =>
    set { s with simpleKeys := s.simpleKeys.filter fun k => k.1 != s.flow }
    let opens ← if s.flow == 0 then addIndent k.column else pure false
    let marks := if opens then #[Token.blockMappingStart, .key] else #[Token.key]
    modify fun s => { s with
      tokens := s.tokens.extract 0 k.place ++ marks ++ s.tokens.extract k.place s.tokens.size }
    allowKey false
  | none =>
    startBlock .blockMappingStart
    allowKey (s.flow == 0)
    removeKey
  forward 1
  emit .value

/-- A plain scalar may start with this character. -/
def startsPlain (inFlow : Bool) (c : Char) (next : Option Char) : Bool :=
  !(endsBlank (some c) || "-?:,[]\x7b\x7d#&*!|>'\"%@\x60".toList.contains c) ||
    (!endsBlank next && (c == '-' || (!inFlow && (c == '?' || c == ':'))))

/-- The next token; the answer says whether it was the last. -/
def nextToken : Lex Bool := do
  release
  let s ← get
  if s.index == 0 && s.rest.head? == some '\uFEFF' then forward 1
  skipToToken (← fuel)
  dropStaleKeys
  unwind (← get).column
  let s ← get
  let inFlow := s.flow != 0
  let next := s.rest[1]?
  let separator ← atSeparator
  match s.rest.head? with
  | none =>
    closeAll 0 (pure .streamEnd)
    return true
  | some c =>
    if c == '%' && s.column == 0 then closeAll 0 directive
    else if c == '-' && s.column == 0 && separator then closeAll 3 (pure .documentStart)
    else if c == '.' && s.column == 0 && separator then closeAll 3 (pure .documentEnd)
    else if c == '[' then openFlow .flowSequenceStart
    else if c == '\x7b' then openFlow .flowMappingStart
    else if c == ']' then closeFlow .flowSequenceEnd
    else if c == '\x7d' then closeFlow .flowMappingEnd
    else if c == ',' then
      allowKey true
      removeKey
      forward 1
      emit .flowEntry
    else if c == '-' && endsBlank next then blockEntry
    else if c == '?' && (inFlow || endsBlank next) then keyMark
    else if c == ':' && (inFlow || endsBlank next) then valueMark
    else if c == '*' then keyLike do return .alias (← anchorName)
    else if c == '&' then keyLike do return .anchor (← anchorName)
    else if c == '!' then keyLike tag
    else if (c == '|' || c == '>') && !inFlow then
      allowKey true
      removeKey
      emit (← blockScalar (c == '>'))
    else if c == '\'' then keyLike (quotedScalar false)
    else if c == '"' then keyLike (quotedScalar true)
    else if startsPlain inFlow c next then keyLike plainScalar
    else refuse
    return false

/-- The tokens up to the end of the text. -/
def run : Nat → Lex Unit
  | 0 => refuse
  | fuel + 1 => do
    if ← nextToken then return () else run fuel

end Lexer

/-- The tokens of a text, and the fault after them, if there is one. -/
def Token.lex (text : String) : List Token × Option Fault :=
  let cs := text.toList
  if cs.all isAllowed then
    match (Lexer.run (2 * cs.length + 2)).run.run { rest := cs } with
    | (.ok (), s) => (s.tokens.toList, none)
    | (.error fault, s) => (s.tokens.toList.take s.released, some fault)
  else ([], some .unreadable)

end SearchKit.Yaml
