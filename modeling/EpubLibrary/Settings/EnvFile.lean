import EpubLibrary.Settings.Environment
import EpubLibrary.Text.Blank
import EpubLibrary.Text.Utf8

/-!
# Files of variables

`EnvFile.statements` reads a text line by line: a name, an equals sign and a value, which may be
quoted and may be followed by a comment. What cannot be read is passed over up to the end of its
line. `EnvFile.resolve` replaces references to variables in the values. `Environment.load` gives the
variables of a file to an environment; those it has already stay.
-/

namespace EpubLibrary.EnvFile

open EpubLibrary.Text

/-- A line of a file: a name with a value, a name alone, or nothing that counts. -/
inductive Statement where
  | binding (name : String) (value : Option String)
  | blank
  /-- text that cannot be read, and the number of the line where reading started -/
  | unreadable (line : Nat)
  deriving DecidableEq

/-! ## Reading -/

/-- The text with line feeds alone for ends of lines. -/
def unifyLines : List Char → List Char
  | [] => []
  | '\r' :: '\n' :: s => '\n' :: unifyLines s
  | '\r' :: s => '\n' :: unifyLines s
  | c :: s => c :: unifyLines s

/-- The text of a file, without a byte-order mark. -/
def textOf? (bytes : Bytes) : Option (List Char) :=
  (Utf8.decode? bytes).map fun s =>
    match s with
    | '\ufeff' :: s => unifyLines s
    | s => unifyLines s

/-- A blank within a line. -/
def isInnerBlank (c : Char) : Bool := isBlank c && c ≠ '\n'

def dropInner (s : List Char) : List Char := s.dropWhile isInnerBlank

/-- What follows the line. -/
def skipLine (s : List Char) : List Char := (s.dropWhile (· ≠ '\n')).drop 1

/-- Takes off the word that marks a variable for export. -/
def dropExport (s : List Char) : List Char :=
  let rest := s.drop 6
  if "export".toList.isPrefixOf s && (rest.head?).any isInnerBlank then dropInner rest else s

/-- Up to which place a quoted text goes: to the first quote with no backslash before it, or else
to the last quote. `before` is the character before the text. -/
def closingAt? (quote before : Char) : List Char → Option Nat
  | [] => none
  | c :: s =>
    if c = quote then
      if before ≠ '\\' then some 0 else some (((closingAt? quote c s).map (· + 1)).getD 0)
    else (closingAt? quote c s).map (· + 1)

/-- What an escaped character stands for between quotes. -/
def escaped? (quote c : Char) : Option Char :=
  if c = '\\' ∨ c = '\'' then some c
  else if quote = '\'' then none
  else
    match c with
    | '"' => some c
    | 'a' => some '\x07'
    | 'b' => some '\x08'
    | 'f' => some '\x0c'
    | 'n' => some '\n'
    | 'r' => some '\r'
    | 't' => some '\t'
    | 'v' => some '\x0b'
    | _ => none

def unescape (quote : Char) : List Char → List Char
  | '\\' :: c :: s =>
    match escaped? quote c with
    | some d => d :: unescape quote s
    | none => '\\' :: unescape quote (c :: s)
  | c :: s => c :: unescape quote s
  | [] => []

/-- Reads from behind a quote to the closing one. -/
def readQuoted? (quote : Char) (s : List Char) : Option (List Char × List Char) :=
  (closingAt? quote quote s).map fun n => (unescape quote (s.take n), s.drop (n + 1))

/-- The place of the blanks before a comment. -/
def beforeComment : List Char → List Char
  | [] => []
  | c :: s =>
    if isBlank c && (s.dropWhile isBlank).head? = some '#' then [] else c :: beforeComment s

/-- Reads the value behind an equals sign. -/
def readValue? (s : List Char) : Option (List Char × List Char) :=
  match dropInner s with
  | '\'' :: rest => readQuoted? '\'' rest
  | '"' :: rest => readQuoted? '"' rest
  | _ =>
    let line := s.takeWhile (· ≠ '\n')
    some (strip (beforeComment line), s.drop line.length)

/-- Reads the name of a variable; a comment has none. -/
def readName? (s : List Char) : Option (Option (List Char) × List Char) :=
  match s with
  | '#' :: _ => some (none, s)
  | '\'' :: rest =>
    match rest.takeWhile (· ≠ '\''), rest.dropWhile (· ≠ '\'') with
    | c :: name, _ :: rest => some (some (c :: name), rest)
    | _, _ => none
  | _ =>
    let name := s.takeWhile fun c => c ≠ '=' && c ≠ '#' && !isBlank c
    if name = [] then none else some (some name, s.drop name.length)

/-- What follows the end of a statement, which may be a comment and must be the end of a line. -/
def endLine? (s : List Char) : Option (List Char) :=
  match dropInner s with
  | [] => some []
  | '\n' :: rest => some rest
  | '#' :: rest => some (skipLine rest)
  | _ => none

/-- Reads the statement at the start of a text that is not blank. Where reading stops, the rest of
the line is passed over. -/
def readStatement (line : Nat) (s : List Char) : Statement × List Char :=
  match readName? (dropExport s) with
  | none => (.unreadable line, skipLine (dropExport s))
  | some (name, rest) =>
    let finish (value : Option (List Char)) (rest : List Char) : Statement × List Char :=
      match endLine? rest, name with
      | none, _ => (.unreadable line, skipLine (dropInner rest))
      | some rest, none => (.blank, rest)
      | some rest, some name => (.binding (String.ofList name) (value.map String.ofList), rest)
    match dropInner rest with
    | '=' :: rest =>
      match readValue? rest with
      | none => (.unreadable line, skipLine (dropInner rest))
      | some (value, rest) => finish (some value) rest
    | rest => finish none rest

/-- The statements from a line on. -/
def statementsFrom : (fuel line : Nat) → List Char → List Statement
  | 0, _, _ => []
  | fuel + 1, line, s =>
    match s.dropWhile isBlank with
    | [] => []
    | body =>
      let (statement, rest) := readStatement line body
      let passed := s.take (s.length - rest.length)
      statement :: statementsFrom fuel (line + passed.count '\n') rest

/-- The statements of a text. Each takes up some of it. -/
def statements (s : List Char) : List Statement := statementsFrom (s.length + 1) 1 s

/-! ## Variables -/

/-- A reference in braces: the name, what stands for it if it has no value, and what follows. -/
def reference? (s : List Char) : Option ((List Char × List Char) × List Char) :=
  match s with
  | '$' :: '\x7b' :: s =>
    let name := s.takeWhile fun c => c ≠ '\x7d' && c ≠ ':'
    match s.drop name.length with
    | '\x7d' :: rest => some ((name, []), rest)
    | ':' :: '-' :: rest =>
      let default := rest.takeWhile (· ≠ '\x7d')
      match rest.drop default.length with
      | _ :: rest => some ((name, default), rest)
      | [] => none
    | _ => none
  | _ => none

/-- Replaces references by what a look-up gives. -/
def expandFrom (look : List Char → List Char → List Char) : (fuel : Nat) → List Char → List Char
  | 0, s => s
  | _, [] => []
  | fuel + 1, c :: s =>
    match reference? (c :: s) with
    | some ((name, default), rest) => look name default ++ expandFrom look fuel rest
    | none => c :: expandFrom look fuel s

/-- Variables with their values, or none where a name stands alone. -/
abbrev Bindings := List (String × Option String)

/-- Gives a value to a name, in its place if it is there. -/
def Bindings.set (bs : Bindings) (name : String) (value : Option String) : Bindings :=
  if (bs.lookup name).isSome then bs.map fun b => if b.1 = name then (name, value) else b
  else bs ++ [(name, value)]

/-- The value of a reference: the environment's, or that of an earlier line, or the default. -/
def lookUp (env : Environment) (bs : Bindings) (name default : List Char) : List Char :=
  match env.get? (String.ofList name), bs.lookup (String.ofList name) with
  | some value, _ => value.toList
  | none, some value => (value.getD "").toList
  | none, none => default

/-- The bindings of a file, with references replaced. -/
def resolve (env : Environment) (bs : Bindings) : List Statement → Bindings
  | [] => bs
  | .binding name value :: rest =>
    let value := value.map fun v =>
      String.ofList (expandFrom (lookUp env bs) v.length v.toList)
    resolve env (bs.set name value) rest
  | _ :: rest => resolve env bs rest

/-- Why a variable cannot be set. -/
inductive VariableError where
  /-- the name or the value holds the character of number zero -/
  | null
  /-- the name holds an equals sign -/
  | name
  deriving DecidableEq

def VariableError.message : VariableError → String
  | .null => "embedded null byte"
  | .name => "illegal environment variable name"

/-- Gives the bindings to an environment that lacks them. -/
def apply (env : Environment) : Bindings → Except VariableError Environment
  | [] => .ok env
  | (name, value) :: rest =>
    match env.get? name, value with
    | none, some value =>
      if name.toList.contains '\x00' || value.toList.contains '\x00' then .error .null
      else if name.toList.contains '=' then .error .name
      else apply (env.define name value) rest
    | _, _ => apply env rest

end EpubLibrary.EnvFile
