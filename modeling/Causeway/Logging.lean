import Causeway.Settings
import Causeway.Text.Pieces

/-!
# Causeway.Logging

Which log records are printed, where, and in which form.

* `Level`           — six levels by severity.
* `Logging.Filter`  — which records pass: a list of directives, and a text to look for.
* `Logging.Plan`    — what the environment asks for.
* `Logging.print`   — the lines of the two output streams.

A filter is written as directives between commas: the name of a level, the name of a module, or both with
an equals sign between them. After a slash comes a text that messages have to hold.
-/

namespace Causeway

inductive Level where
  | trace
  | debug
  | info
  | warn
  | error
  | crit
  deriving DecidableEq, Repr

namespace Level

def all : List Level := [trace, debug, info, warn, error, crit]

/-- The name callers log under. -/
def name : Level → String
  | .trace => "trace"
  | .debug => "debug"
  | .info => "info"
  | .warn => "warn"
  | .error => "error"
  | .crit => "crit"

def ofName? (name : String) : Option Level := all.find? fun l => l.name = name

/-- The tag in printed lines. -/
def tag : Level → String
  | .trace => "TRCE"
  | .debug => "DEBG"
  | .info => "INFO"
  | .warn => "WARN"
  | .error => "ERRO"
  | .crit => "CRIT"

def severity : Level → Nat
  | .trace => 0
  | .debug => 1
  | .info => 2
  | .warn => 3
  | .error => 4
  | .crit => 5

/-- The full name in filters. -/
def fullName : Level → String
  | .warn => "warning"
  | .crit => "critical"
  | l => l.name

end Level

namespace Logging

/-- A name in lower case; level names are letters of the Latin alphabet only. -/
def fold (s : String) : List Char := s.toList.map Char.toLower

/-- The least level that passes; nothing does if there is none. -/
abbrev Threshold := Option Level

/-- Whether a word shortens a name: it is the start of it, in any case, and not empty. -/
def shortens (word name : String) : Bool := word ≠ "" ∧ (fold word).isPrefixOf (fold name)

/-- The threshold a word names, by a level's full name, by its tag, or by the start of either. -/
def threshold? (word : String) : Option Threshold :=
  if shortens word "off" then some none
  else (Level.all.find? fun l => shortens word l.fullName ∨ shortens word l.tag).map some

/-- A threshold for the modules whose path starts with a name, or for all. -/
structure Directive where
  target : Option String
  threshold : Threshold
  deriving DecidableEq, Repr

namespace Directive

/-- Every record passes. -/
def everything : Threshold := some .trace

/-- Whether the directive is about a module. -/
def covers (d : Directive) (path : String) : Bool :=
  match d.target with
  | some t => t.toList.isPrefixOf path.toList
  | none => true

/-- How closely the directive names what it is about. -/
def weight (d : Directive) : Nat := (d.target.map String.utf8ByteSize).getD 0

/-- One directive, or the part of it that cannot be understood. A word that is no level is a module,
all of whose records pass. -/
def parse (word : String) : Except String Directive :=
  match Pieces.cut '=' word with
  | (name, []) =>
    match threshold? name with
    | some t => .ok ⟨none, t⟩
    | none => .ok ⟨some name, everything⟩
  | (name, [level]) =>
    let level := Pieces.trimmed level
    if level = "" then .ok ⟨some name, everything⟩
    else
      match threshold? level with
      | some t => .ok ⟨some name, t⟩
      | none => .error level
  | _ => .error word

end Directive

/-- Which records pass. -/
structure Filter where
  directives : List Directive
  /-- A text that messages have to hold, as it stands. -/
  needle : Option String := none
  deriving DecidableEq, Repr

namespace Filter

def complaint (part : String) : String := "warning: invalid logging spec '" ++ part ++ "', ignoring it"

/-- The filter that is written so, and the complaints about what was left out of it. -/
def parse (spec : String) : Filter × List String :=
  let (directives, rest) := Pieces.cut '/' spec
  if 1 < rest.length then (⟨[], none⟩, [complaint spec ++ " (too many '/'s)"])
  else
    let (first, more) := Pieces.cut ',' directives
    let read := ((first :: more).filter (· ≠ "")).map Directive.parse
    let complaints := read.filterMap fun
      | .ok _ => none
      | .error part => some (complaint part)
    (⟨read.filterMap Except.toOption, rest.head?⟩, complaints)

/-- The threshold for a module: that of the directive that names it most closely, and of equals the
last. Without any directive errors pass. -/
def threshold (f : Filter) (path : String) : Threshold :=
  if f.directives = [] then some .error
  else
    let closest := (f.directives.filter (·.covers path)).foldl (fun best d =>
      match best with
      | none => some d
      | some b => if d.weight < b.weight then some b else some d) none
    closest.bind Directive.threshold

/-- Whether a record passes. -/
def admits (f : Filter) (path : String) (level : Level) (message : String) : Bool :=
  (match f.threshold path with
    | some least => least.severity ≤ level.severity
    | none => false)
  && (match f.needle with
    | some n => Pieces.holds n.toList message.toList
    | none => true)

end Filter

/-- What is printed, and where. -/
structure Plan where
  filter : String
  structured : Bool
  toStderr : Bool
  testName : Option String
  deriving DecidableEq, Repr

/-- The plan of an environment. A test logs to standard error unless told otherwise. -/
def plan (env : Environment) (testName : Option String) : Plan where
  filter := (env.lookup "RUST_LOG").getD ((env.lookup "MC_LOG").getD "info")
  structured := env.lookup "MC_LOG_JSON" = some "1"
  toStderr :=
    match env.lookup "MC_LOG_STDERR" with
    | some v => v = "1"
    | none => testName.isSome
  testName := testName

inductive Line where
  /-- A line for people, and whether the source place ends it. -/
  | terminal (text : String) (placed : Bool)
  /-- An object for programs. -/
  | object (level message : String) (testName : Option String)
  deriving DecidableEq, Repr

/-- A record's text as it falls into lines. The source place comes after the text, on its last line; on the
others a carriage return before the break belongs to the break. -/
def terminalLines (text : String) : List Line :=
  let (lines, last) := Pieces.lines text
  lines.map (Line.terminal · false) ++ [.terminal last true]

/-- The lines of one record. An empty message is left out, with the comma after it. -/
def Plan.lines (p : Plan) (l : Level) (message : String) : List Line :=
  if p.structured then [.object l.tag message p.testName]
  else
    let parts := (if message = "" then [] else [message])
      ++ p.testName.toList.map ("mc.test_name: " ++ ·)
    terminalLines (l.tag ++ " " ++ joined ", " parts)

structure Output where
  stdout : List Line
  stderr : List Line
  deriving DecidableEq, Repr

/-- What is printed for a list of records of one module. Complaints about the filter and objects always go
to standard error. -/
def print (env : Environment) (testName : Option String) (path : String)
    (records : List (Level × String)) : Output :=
  let p := plan env testName
  let (filter, complaints) := Filter.parse p.filter
  let complaints := (complaints.flatMap fun c => (Pieces.lines (c ++ "\n")).1).map (Line.terminal · false)
  let lines := (records.filter fun (l, m) => filter.admits path l m).flatMap fun (l, m) =>
    p.lines l m
  if p.structured ∨ p.toStderr then ⟨[], complaints ++ lines⟩ else ⟨lines, complaints⟩

end Logging
end Causeway
