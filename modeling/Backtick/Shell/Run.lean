import Backtick.Shell.Utility

/-!
# Running scripts

A running script has stores of bytes, which its descriptors lead to: writing appends to a store and
reading takes from its front. The first three stores hold the input, the output and the errors; each
pipe is a further one, filled by the command on its left before the one on its right begins.

## Termination

A loop of a script may have no end, so running takes a number of steps. A script that uses them up
is taken to run for ever.
-/

namespace Backtick.Shell

/-- Where a descriptor leads. -/
inductive Channel where
  | store (n : Nat)
  | nowhere
deriving DecidableEq

/-- How a script ends before its end. -/
inductive Ending where
  /-- this shell is left -/
  | left
  /-- a signal ends the process -/
  | killed (signal : Nat)
  | never
deriving DecidableEq

/-- A running script. -/
structure Machine where
  stores : List Bytes
  channels : List (Nat × Channel)
  bindings : List (Bytes × Bytes) := []
  /-- the name that complaints begin with -/
  name : Bytes
  parameters : List Bytes
  status : Nat := 0
  clock : Rat := 0
  ending : Option Ending := none

namespace Machine

/-- The store at a number. -/
def store (m : Machine) (n : Nat) : Bytes := (m.stores[n]?).getD []

/-- Writes to a descriptor. One that leads nowhere takes everything, and a closed one too. -/
def write (m : Machine) (descriptor : Nat) (s : Bytes) : Machine :=
  match m.channels.lookup descriptor with
  | some (.store n) => { m with stores := m.stores.modify n (· ++ s) }
  | _ => m

/-- All that a descriptor still has to give. -/
def input (m : Machine) (descriptor : Nat) : Bytes :=
  match m.channels.lookup descriptor with
  | some (.store n) => m.store n
  | _ => []

/-- The machine when a descriptor has no more to give than this. -/
def leave (m : Machine) (descriptor : Nat) (s : Bytes) : Machine :=
  match m.channels.lookup descriptor with
  | some (.store n) => { m with stores := m.stores.set n s }
  | _ => m

/-- Leads a descriptor elsewhere. -/
def connect (m : Machine) (descriptor : Nat) (c : Option Channel) : Machine :=
  let others := m.channels.filter (·.1 ≠ descriptor)
  { m with channels := match c with
      | some c => (descriptor, c) :: others
      | none => others }

/-- A new store and its number. -/
def addStore (m : Machine) (s : Bytes) : Machine × Nat :=
  ({ m with stores := m.stores ++ [s] }, m.stores.length)

/-- Sets a variable. -/
def assign (m : Machine) (name value : Bytes) : Machine :=
  { m with bindings := (name, value) :: m.bindings.filter (·.1 ≠ name) }

/-- Complains about a command and fails. -/
def fail (m : Machine) (what : Bytes) (status : Nat) : Machine :=
  { m.write 2 (m.name ++ ascii ": 1: " ++ what ++ [0x0A]) with status }

/-- Leaves this shell. -/
def leaveShell (m : Machine) (status : Nat) : Machine :=
  { m with status := status % 256, ending := some .left }

/-- What a utility does happens to the machine. -/
def perform (m : Machine) (e : Effect) : Machine :=
  let m := (m.write 2 e.errors).write 1 e.output
  match e.takes with
  | some t => { m with status := e.status, clock := m.clock + t }
  | none => { m with ending := some .never }

/-- The number that stands for the process of the shell. -/
def processNumber : Bytes := ascii "4242"

/-- The value of a parameter. -/
def value (m : Machine) (name : Bytes) : Bytes :=
  if !name.isEmpty && name.all isDigit then
    if valueOf name = 0 then m.name else (m.parameters[valueOf name - 1]?).getD []
  else if name == ascii "#" then Printf.digitsOf 10 false m.parameters.length
  else if name == ascii "?" then Printf.digitsOf 10 false m.status
  else if name == ascii "$" then processNumber
  else if name == ascii "*" || name == ascii "@" then Printf.joined m.parameters
  else (m.bindings.lookup name).getD []

end Machine

/-! ## Words -/

/-- The words that are finished, and the one that is being made. -/
structure Fields where
  done : List Bytes := []
  current : Option Bytes := none

namespace Fields

/-- More of the current word. -/
def add (f : Fields) (s : Bytes) : Fields := { f with current := some (f.current.getD [] ++ s) }

/-- The current word ends. -/
def cut (f : Fields) : Fields :=
  match f.current with
  | some w => { done := f.done ++ [w], current := none }
  | none => f

/-- A text whose blanks end words. -/
def addSplit (f : Fields) (s : Bytes) : Fields :=
  s.foldl (fun f b => if isBlank b || isNewline b then f.cut else f.add [b]) f

/-- A row of words. -/
def addWords (f : Fields) : List Bytes → Fields
  | [] => f
  | [w] => f.add w
  | w :: ws => (f.add w).cut.addWords ws

/-- All words. -/
def words (f : Fields) : List Bytes := f.cut.done

end Fields

/-- Some bytes without the line feeds at their end. -/
def chopAll (s : Bytes) : Bytes := (s.reverse.dropWhile isNewline).reverse

/-! ## Commands of the shell itself -/

/-- The signals by name. -/
def signals : List (String × Nat) :=
  [("HUP", 1), ("INT", 2), ("QUIT", 3), ("ILL", 4), ("TRAP", 5), ("ABRT", 6), ("BUS", 7),
    ("FPE", 8), ("KILL", 9), ("USR1", 10), ("SEGV", 11), ("USR2", 12), ("PIPE", 13),
    ("ALRM", 14), ("TERM", 15)]

/-- The number of a signal. -/
def signal? (s : Bytes) : Option Nat :=
  if !s.isEmpty && s.all isDigit then some (valueOf s)
  else (signals.find? fun e => ascii e.1 == s || ascii ("SIG" ++ e.1) == s).map (·.2)

/-- Sends a signal to the shell. -/
def kill (m : Machine) (arguments : List Bytes) : Machine :=
  let send (s : Bytes) : Machine :=
    match signal? s with
    | some 0 => { m with status := 0 }
    | some n => { m with ending := some (.killed n) }
    | none => m.fail (ascii "kill: invalid signal number or name: " ++ s) 2
  match arguments with
  | [_] => send (ascii "TERM")
  | [o, s, _] => if o == ascii "-s" then send s else send (o.drop 1)
  | o :: _ :: _ => send (o.drop 1)
  | [] => m.fail (ascii "kill: usage: kill [-s sigspec] pid") 2

/-- The line at the beginning of some input, whether a line feed ends it, and what follows it. -/
def readLine (raw : Bool) (s : Bytes) : Bytes × Bool × Bytes :=
  match s with
  | [] => ([], false, [])
  | b :: rest =>
    if isNewline b then ([], true, rest)
    else if isBackslash b && !raw then
      match rest with
      | [] => ([], false, [])
      | c :: rest' =>
        let (l, ended, after) := readLine raw rest'
        (if isNewline c then l else c :: l, ended, after)
    else
      let (l, ended, after) := readLine raw rest
      (if b == 0 then l else b :: l, ended, after)

/-- Gives the words of a line to variables; the last one gets all that is left. -/
def assignWords (m : Machine) (l : Bytes) : List Bytes → Machine
  | [] => m
  | [name] => m.assign name ((l.dropWhile isBlank).reverse.dropWhile isBlank).reverse
  | name :: names =>
    let l := l.dropWhile isBlank
    let w := l.takeWhile (!isBlank ·)
    assignWords (m.assign name w) (l.drop w.length) names

/-- Reads a line. -/
def read (m : Machine) (arguments : List Bytes) : Machine :=
  let raw := arguments.head? == some (ascii "-r")
  let names := if raw then arguments.drop 1 else arguments
  if (m.channels.lookup 0).isNone then { m with status := 1 }
  else
    let (l, ended, after) := readLine raw (m.input 0)
    { assignWords (m.leave 0 after) l names with status := if ended then 0 else 1 }

/-- A command of the shell itself that needs no other. -/
def builtin? (files : Files) (name : Bytes) (arguments : List Bytes) (m : Machine) :
    Option Machine :=
  let done := { m with status := 0 }
  let commands : List (String × Machine) :=
    [(":", done), ("true", done), ("false", { m with status := 1 }), ("kill", kill m arguments),
      ("read", read m arguments), ("wait", done), ("cd", done), ("trap", done), ("umask", done),
      ("shift",
        { done with parameters := m.parameters.drop ((arguments.head?.map valueOf).getD 1) }),
      ("set", if arguments.head? == some (ascii "--") then
          { done with parameters := arguments.drop 1 } else done),
      ("unset", { done with bindings := m.bindings.filter (!arguments.contains ·.1) }),
      ("export", arguments.foldl (fun m a =>
          match Script.assignment? a with
          | some (name, value) => m.assign name value
          | none => m) done),
      ("echo", m.perform { output := Printf.echo arguments }),
      ("printf", m.perform (Printf.run (m.name ++ ascii ": 1: ") arguments)),
      ("test", m.perform (Utility.test files arguments)),
      ("[", m.perform (Utility.test files arguments.dropLast)),
      ("exit",
        match arguments with
        | [] => m.leaveShell m.status
        | a :: _ =>
          if !a.isEmpty && a.all isDigit then m.leaveShell (valueOf a)
          else (m.fail (ascii "exit: Illegal number: " ++ a) 2).leaveShell 2)]
  (commands.find? fun c => ascii c.1 == name).map (·.2)

/-! ## Running -/

/-- Runs a utility on what is left of the input. -/
def runUtility? (files : Files) (name : Bytes) (arguments : List Bytes) (m : Machine) :
    Option Machine :=
  let name := [ascii "/usr/bin/", ascii "/bin/"].foldl (fun n d =>
    if d.isPrefixOf n then n.drop d.length else n) name
  (Utility.run? name files arguments (m.input 0)).map fun e =>
    let reads := !([ascii "true", ascii "false", ascii "sleep", ascii "echo", ascii "printf",
      ascii "seq", ascii "test"].contains name)
    (if reads then m.leave 0 [] else m).perform e

mutual

/-- The words that a word stands for. -/
def expand (files : Files) (fuel : Nat) (w : Word) (f : Fields) (m : Machine) : Fields × Machine :=
  match fuel, w with
  | 0, _ => (f, { m with ending := some .never })
  | _, [] => (f, m)
  | fuel + 1, .literal b :: rest => expand files fuel rest (f.add b) m
  | fuel + 1, .parameter name quoted :: rest =>
    let f :=
      if name == ascii "@" && quoted then f.addWords m.parameters
      else if quoted then f.add (m.value name)
      else f.addSplit (m.value name)
    expand files fuel rest f m
  | fuel + 1, .output body quoted :: rest =>
    let (m', n) := m.addStore []
    let m' := isolate files fuel body (m'.connect 1 (some (.store n)))
    let t := chopAll (m'.store n)
    let f := if quoted then f.add t else f.addSplit t
    expand files fuel rest f { m' with channels := m.channels }

/-- The words that some words stand for. -/
def expandAll (files : Files) (fuel : Nat) (ws : List Word) (m : Machine) : List Bytes × Machine :=
  match fuel, ws with
  | 0, _ => ([], { m with ending := some .never })
  | _, [] => ([], m)
  | fuel + 1, w :: rest =>
    let (f, m) := expand files fuel w {} m
    let (words, m) := expandAll files fuel rest m
    (f.words ++ words, m)

/-- Redirects descriptors, one after the other, until one cannot be redirected. -/
def redirectAll (files : Files) (fuel : Nat) (rs : List Redirect) (m : Machine) : Bool × Machine :=
  match fuel, rs with
  | 0, _ => (false, { m with ending := some .never })
  | _, [] => (true, m)
  | fuel + 1, .mk descriptor target file :: rest =>
    match target with
    | .closed => redirectAll files fuel rest (m.connect descriptor none)
    | .same n => redirectAll files fuel rest (m.connect descriptor (m.channels.lookup n))
    | .file =>
      let (f, m) := expand files fuel file {} m
      let name := f.words.flatten
      if name == ascii "/dev/null" then
        redirectAll files fuel rest (m.connect descriptor (some .nowhere))
      else if name == ascii "/dev/stdout" then
        redirectAll files fuel rest (m.connect descriptor (m.channels.lookup 1))
      else if name == ascii "/dev/stderr" then
        redirectAll files fuel rest (m.connect descriptor (m.channels.lookup 2))
      else if descriptor = 0 then
        match files name with
        | some content =>
          let (m, n) := m.addStore content
          redirectAll files fuel rest (m.connect 0 (some (.store n)))
        | none => (false, m.fail (ascii "cannot open " ++ name ++ ascii ": No such file") 2)
      else redirectAll files fuel rest (m.connect descriptor (some .nowhere))

/-- Runs words as a command. -/
def runWords (files : Files) (fuel : Nat) (words : List Bytes) (m : Machine) : Machine :=
  match fuel, words with
  | 0, _ => { m with ending := some .never }
  | _, [] => { m with status := 0 }
  | fuel + 1, name :: arguments =>
    match builtin? files name arguments m with
    | some m => m
    | none =>
      if name == ascii "exec" then
        if arguments.isEmpty then { m with status := 0 }
        else
          let m := runWords files fuel arguments m
          if m.ending.isNone then { m with ending := some .left } else m
      else if name == ascii "env" || name == ascii "command" then
        runWords files fuel (arguments.dropWhile fun a => (Script.assignment? a).isSome) m
      else if name == ascii "eval" then
        match Script.read? (Printf.joined arguments) with
        | some s => runSteps files fuel s m
        | none => m.fail (ascii "Syntax error") 2
      else if name == ascii "sh" || name == ascii "/bin/sh" then
        runShell files fuel arguments m
      else
        match runUtility? files name arguments m with
        | some m => m
        | none =>
          if name.any (is '/') && (files name).isSome then
            runShell files fuel (name :: arguments) m
          else m.fail (name ++ ascii ": not found") 127

/-- Runs a shell with arguments. -/
def runShell (files : Files) (fuel : Nat) (arguments : List Bytes) (m : Machine) : Machine :=
  match fuel with
  | 0 => { m with ending := some .never }
  | fuel + 1 =>
    let within (script name : Bytes) (parameters : List Bytes) : Machine :=
      let inner := { m with name, parameters, status := 0 }
      let inner :=
        match Script.read? script with
        | some s => isolate files fuel s inner
        | none => inner.fail (ascii "Syntax error") 2
      { inner with name := m.name, parameters := m.parameters }
    match arguments with
    | [] => (within (m.input 0) (ascii "sh") []).leave 0 []
    | option :: rest =>
      if (ascii "--").isPrefixOf option then
        { m.write 2 (ascii "sh: 0: Illegal option --\n") with status := 2 }
      else if option.head?.any (is '-') then
        match option.any (is 'c'), rest with
        | true, script :: name :: parameters => within script name parameters
        | true, [script] => within script (ascii "sh") []
        | true, [] => { m.write 2 (ascii "sh: 0: -c requires an argument\n") with status := 2 }
        | false, _ => runShell files fuel rest m
      else
        match files option with
        | some script => within script option rest
        | none =>
          { m.write 2 (ascii "sh: 0: cannot open " ++ option ++ ascii ": No such file\n") with
            status := 2 }

/-- Runs a script in a shell of its own, which changes nothing for the one around it. -/
def isolate (files : Files) (fuel : Nat) (s : Script) (m : Machine) : Machine :=
  match fuel with
  | 0 => { m with ending := some .never }
  | fuel + 1 =>
    let m' := runSteps files fuel s m
    { m' with
      channels := m.channels, bindings := m.bindings, parameters := m.parameters,
      ending := if m'.ending = some .left then none else m'.ending }

/-- Runs a command. -/
def runCommand (files : Files) (fuel : Nat) (c : Command) (m : Machine) : Machine :=
  match fuel with
  | 0 => { m with ending := some .never }
  | fuel + 1 =>
    match c with
    | .simple assignments ws rs =>
      let (words, m) := expandAll files fuel ws m
      let (m, values) := assignments.foldl (fun (m, values) (name, w) =>
        let (f, m) := expand files fuel w {} m
        (m, values ++ [(name, Printf.joined f.words)])) (m, ([] : List (Bytes × Bytes)))
      let (redirected, m') := redirectAll files fuel rs m
      if !redirected then { m' with channels := m.channels }
      else
        let m' :=
          if words.isEmpty then
            values.foldl (fun m (name, value) => m.assign name value) { m' with status := m.status }
          else runWords files fuel words m'
        if words == [ascii "exec"] then m' else { m' with channels := m.channels }
    | .group isolated body rs =>
      let (redirected, m') := redirectAll files fuel rs m
      let m' :=
        if !redirected then m'
        else if isolated then isolate files fuel body m'
        else runSteps files fuel body m'
      { m' with channels := m.channels }
    | .choice test yes no =>
      let m := runSteps files fuel test m
      if m.ending.isSome then m
      else if m.status = 0 then runSteps files fuel yes m
      else runSteps files fuel no { m with status := 0 }
    | .loop whileTrue test body =>
      let m := runSteps files fuel test m
      if m.ending.isSome then m
      else if (m.status = 0) = whileTrue then
        let m := runSteps files fuel body m
        if m.ending.isSome then m else runCommand files fuel (.loop whileTrue test body) m
      else { m with status := 0 }
    | .each name ws body =>
      let (words, m) := expandAll files fuel ws m
      words.foldl (fun m w =>
        if m.ending.isSome then m else runSteps files fuel body (m.assign name w))
        { m with status := 0 }

/-- Runs the commands of a pipeline, each of which reads what the one before it wrote. -/
def runPipeline (files : Files) (fuel : Nat) (cs : List Command) (m : Machine) : Machine :=
  match fuel, cs with
  | 0, _ => { m with ending := some .never }
  | _, [] => m
  | fuel + 1, [c] => runCommand files fuel c m
  | fuel + 1, c :: rest =>
    let (m₁, n) := m.addStore []
    let alone := Step.mk .always false [c]
    let m₁ := isolate files fuel [alone] (m₁.connect 1 (some (.store n)))
    if m₁.ending.isSome then m₁
    else
      let m₂ := { m₁ with channels := m.channels, clock := m.clock }
      let m₂ := isolate files fuel [.mk .always false rest] (m₂.connect 0 (some (.store n)))
      { m₂ with channels := m.channels, clock := max m₁.clock m₂.clock }

/-- Runs a script until it ends or is ended. -/
def runSteps (files : Files) (fuel : Nat) (s : Script) (m : Machine) : Machine :=
  match fuel, s with
  | 0, _ => { m with ending := some .never }
  | _, [] => m
  | fuel + 1, .mk connective negated cs :: rest =>
    let skipped :=
      match connective with
      | .always => false
      | .onSuccess => m.status ≠ 0
      | .onFailure => m.status = 0
    let m :=
      if skipped then m
      else
        let m := runPipeline files fuel cs m
        if negated then { m with status := if m.status = 0 then 1 else 0 } else m
    if m.ending.isSome then m else runSteps files fuel rest m

end

/-- The steps that a script may take. -/
def mostSteps : Nat := 100000

end Backtick.Shell
