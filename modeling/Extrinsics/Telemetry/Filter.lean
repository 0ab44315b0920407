import Extrinsics.Telemetry.Pattern

/-!
# Log filters

A filter is a list of directives, separated by commas. A directive gives a level to the
targets whose names begin with its own, or to all targets if it has none; of several that
apply to an event the one with the longest name counts, and of equal ones the last. A
directive may ask for a field, and then it applies only to events that have the field; or it
may be bound to a span, and then it enables nothing outside that span.

Blanks in front of a directive are not taken off it, but the places of its parts are counted
without them. So each part begins and ends as many octets too early, and only the part at
the end of the directive runs on to the end.
-/

namespace Extrinsics

/-- How much is logged: everything up to a level. -/
inductive Level where
  | off
  | error
  | warn
  | info
  | debug
  | trace
deriving DecidableEq

namespace Level

/-- All levels, each more verbose than the one before. -/
def all : List Level := [off, error, warn, info, debug, trace]

/-- The number of a level. -/
def rank : Level → Nat
  | off => 0
  | error => 1
  | warn => 2
  | info => 3
  | debug => 4
  | trace => 5

/-- The name of a level. -/
def name : Level → String
  | off => "off"
  | error => "error"
  | warn => "warn"
  | info => "info"
  | debug => "debug"
  | trace => "trace"

/-- The name of a level in capitals. -/
def title : Level → String
  | off => "OFF"
  | error => "ERROR"
  | warn => "WARN"
  | info => "INFO"
  | debug => "DEBUG"
  | trace => "TRACE"

/-- Whether an event of the level `e` is within a level. -/
def enables (l e : Level) : Bool := e.rank ≤ l.rank

/-- The more verbose of two levels. -/
def max (a b : Level) : Level := if a.rank ≤ b.rank then b else a

/-- The number that a text stands for. A plus sign may stand in front. -/
def number? (s : List Char) : Option Nat :=
  let digits := match s with
    | '+' :: rest => rest
    | _ => s
  if digits.isEmpty || !digits.all Char.isDigit then none
  else some (digits.foldl (fun n c => 10 * n + (c.toNat - 48)) 0)

/-- The level a text names, in letters of either case or by its number. -/
def parse? (s : List Char) : Option Level :=
  match number? s with
  | some n => all[n]?
  | none =>
    let lower := String.ofList (s.map Char.toLower)
    all.find? fun l => l.name == lower

end Level

/-- The events that a directive is for, besides its target. -/
inductive Reach where
  | everything
  /-- The events that have a field. -/
  | field (name : List Char)
  /-- What happens within a span, which may have to be known by the value of a field. -/
  | span (byValue : Bool)
deriving DecidableEq

/-- A directive of a filter. -/
structure Directive where
  target : Option (List Char)
  level : Level
  reach : Reach
deriving DecidableEq

namespace Directive

/-- Whether a character may begin a directive. -/
def canBegin (c : Char) : Bool :=
  c = '-' || c = ':' || c = '_' || c = '[' || Text.isAlphanumeric c

/-- The number of octets of a text. -/
def octets (s : List Char) : Nat := (String.ofList s).utf8ByteSize

/-- The first octets of a text, so many of them, and the rest; none if a character would be
split. -/
def splitOctets : Nat → List Char → Option (List Char × List Char)
  | 0, s => some ([], s)
  | _ + 1, [] => none
  | n + 1, c :: s =>
    if n + 1 < c.utf8Size then none
    else (splitOctets (n + 1 - c.utf8Size) s).map fun p => (c :: p.1, p.2)

/-- The end of a text, after so many octets. -/
def tail (s : List Char) (start : Nat) : Option (List Char) :=
  (splitOctets start s).map Prod.snd

/-- The part of a text after so many octets that is of the size of another text. -/
def part (s : List Char) (start : Nat) (like : List Char) : Option (List Char) := do
  let s ← tail s start
  (splitOctets (octets like) s).map Prod.fst

/-- The level that a text gives, where nothing stands for every level. -/
def levelOf (s : List Char) : Option Level :=
  if s.isEmpty then some .trace else Level.parse? s

/-- The reach that a field gives, beside a span or not. A field may have a value, up to
another equals sign. -/
def reachOf (hasSpan : Bool) (field : List Char) : Option Reach :=
  let name := field.takeWhile (· ≠ '=')
  match field.dropWhile (· ≠ '=') with
  | [] => some (if hasSpan then .span false else .field name)
  | _ :: value =>
    if Pattern.isValue (value.takeWhile (· ≠ '=')) then some (.span true) else none

/-- The reach of a directive `s` from behind the opening bracket on, and what follows the
closing one. The second argument is the place of the bracket, the third what stands after
it. -/
def parseReach? (s : List Char) (start : Nat) (inner : List Char) :
    Option (Reach × Nat × List Char) :=
  let name := inner.takeWhile fun c => c ≠ ']' && c ≠ '\x7b'
  match inner.dropWhile fun c => c ≠ ']' && c ≠ '\x7b' with
  | [] => none
  | ']' :: rest => do
    let _ ← part s start name
    return (.span false, start + octets name + 1, rest)
  | _ :: inner => do
    let _ ← part s start name
    let start := start + octets name + 1
    let field := inner.takeWhile (· ≠ '\x7d')
    match inner.dropWhile (· ≠ '\x7d') with
    | _ :: ']' :: rest =>
      if field.isEmpty then none
      else
        let reach ← reachOf (!name.isEmpty) (← part s start field)
        return (reach, start + octets field + 2, rest)
    | _ => none

/-- A directive. A level alone holds for all targets, and a target alone for all levels. -/
def parse? (s : List Char) : Option Directive :=
  let body := Text.trim s
  if !body.head?.any canBegin then none
  else
    let target := body.takeWhile fun c => c ≠ '=' && c ≠ '['
    let start := octets target + 1
    match body.dropWhile fun c => c ≠ '=' && c ≠ '[' with
    | [] =>
      match Level.parse? s with
      | some level => some ⟨none, level, .everything⟩
      | none => some ⟨some s, .trace, .everything⟩
    | '=' :: _ => do
      let level ← levelOf (← tail s start)
      return ⟨← part s 0 target, level, .everything⟩
    | _ :: inner => do
      let target ← if target.isEmpty then pure none else (part s 0 target).map some
      match ← parseReach? s start inner with
      | (reach, _, []) => return ⟨target, .trace, reach⟩
      | (reach, start, '=' :: _) => return ⟨target, ← levelOf (← tail s (start + 1)), reach⟩
      | _ => none

/-- Whether a directive applies to an event with a target and some fields. -/
def appliesTo (d : Directive) (target : List Char) (fields : List (List Char)) : Bool :=
  (d.target.getD []).isPrefixOf target
    && match d.reach with
      | .everything => true
      | .field name => fields.contains name
      | .span _ => false

/-- The field that a directive asks for. -/
def field? (d : Directive) : Option (List Char) :=
  match d.reach with
  | .field name => some name
  | _ => none

/-- The length of the name of a directive, less for a directive without one. -/
def weight (d : Directive) : Nat := (d.target.map fun t => t.length + 1).getD 0

/-- Whether a directive counts before another one for the events that both apply to. Of
two for one target the one that asks for a field does. -/
def outweighs (d e : Directive) : Bool :=
  e.weight < d.weight
    || d.weight = e.weight
      && match d.field?, e.field? with
        | some a, some b => decide (b < a)
        | some _, none => true
        | none, _ => false

end Directive

/-- A filter: its directives in the order of the text. -/
structure Filter where
  directives : List Directive
deriving DecidableEq

namespace Filter

/-- The pieces of a text between commas. -/
def pieces : List Char → List (List Char)
  | [] => [[]]
  | ',' :: rest => [] :: pieces rest
  | c :: rest =>
    match pieces rest with
    | [] => [[c]]
    | p :: ps => (c :: p) :: ps

/-- The filter a text stands for. Empty pieces are passed over. -/
def parse? (s : String) : Option Filter := do
  let directives ← ((pieces s.toList).filter fun p => !p.isEmpty).mapM Directive.parse?
  return ⟨directives⟩

/-- The filter that enables everything up to a level. -/
def ofLevel (l : Level) : Filter := ⟨[⟨none, l, .everything⟩]⟩

/-- The directive that counts of two, the later one if neither outweighs the other. -/
def prefer (best : Option Directive) (d : Directive) : Option Directive :=
  match best with
  | none => some d
  | some b => if b.outweighs d then some b else some d

/-- The level of the events with a target and some fields. -/
def level (f : Filter) (target : String) (fields : List String) : Level :=
  let best := (f.directives.filter fun d =>
    d.appliesTo target.toList (fields.map String.toList)).foldl prefer none
  (best.map Directive.level).getD .off

/-- Whether an event of a level is enabled for a target and some fields. -/
def enables (f : Filter) (target : String) (fields : List String) (e : Level) : Bool :=
  (f.level target fields).enables e

/-- The most verbose level that any directive gives. -/
def mostVerbose (f : Filter) : Level :=
  if f.directives.any fun d => d.reach = .span true then .trace
  else f.directives.foldl (fun l d => l.max d.level) .off

end Filter

end Extrinsics
