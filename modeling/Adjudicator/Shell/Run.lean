import Adjudicator.Folder.Basic
import Adjudicator.Number.Reading
import Adjudicator.Number.Written
import Adjudicator.Program.Basic
import Adjudicator.Shell.Script
import Adjudicator.Text.Blank

/-!
# Running scripts

A script runs in a folder with arguments and an input. It prints to an output and an error stream,
may change the folder, and ends with a status; zero is success. The number of steps is bounded.
-/

namespace Adjudicator.Shell

open Text Number

/-- What a program has done when it ends. -/
structure Outcome where
  /-- The folder afterwards. -/
  folder : Folder
  /-- What it printed. -/
  output : List Char
  /-- What it printed to the error stream. -/
  errors : List Char
  /-- Its status. -/
  status : Nat
deriving Repr

/-- A running script. -/
structure Machine where
  /-- The folder. -/
  folder : Folder
  /-- Values of names. -/
  values : List (List Char × List Char)
  /-- The arguments. -/
  arguments : List (List Char)
  /-- What was printed. -/
  output : List Char := []
  /-- What was printed to the error stream. -/
  errors : List Char := []
  /-- Status of the last command. -/
  status : Nat := 0
  /-- Whether the script has ended. -/
  ended : Bool := false
deriving Repr

/-- The value of a parameter. -/
def Machine.value (m : Machine) (name : List Char) : List Char :=
  match String.ofList name with
  | "@" | "*" => List.intercalate [' '] m.arguments
  | "#" => natChars m.arguments.length
  | "?" => natChars m.status
  | _ =>
    match readNat? name with
    | some 0 => "sh".toList
    | some (n + 1) => m.arguments.getD n []
    | none => (m.values.lookup name).getD []

/-- Fields of a word while it is expanded: finished fields, newest first, and the open one. -/
structure Fields where
  /-- Finished fields, newest first. -/
  done : List (List Char)
  /-- The open field. -/
  current : Option (List Char)
deriving DecidableEq, Repr

/-- Adds text to the open field. -/
def Fields.add (f : Fields) (s : List Char) : Fields :=
  { f with current := some (f.current.getD [] ++ s) }

/-- Ends the open field. -/
def Fields.close (f : Fields) : Fields :=
  match f.current with
  | some s => ⟨s :: f.done, none⟩
  | none => f

/-- Adds text whose blanks part fields. -/
def Fields.addSplit (f : Fields) (s : List Char) : Fields :=
  s.foldl (fun f c => if c = ' ' ∨ c = '\t' ∨ c = '\n' then f.close else f.add [c]) f

/-- Adds several fields. -/
def Fields.addAll (f : Fields) : List (List Char) → Fields
  | [] => f
  | [s] => f.add s
  | s :: rest => ((f.add s).close).addAll rest

/-- All fields in order. -/
def Fields.toList (f : Fields) : List (List Char) :=
  f.close.done.reverse

/-- What a text prints as under escapes with a backslash. -/
def unescaped : List Char → List Char
  | '\\' :: 'n' :: rest => '\n' :: unescaped rest
  | '\\' :: 't' :: rest => '\t' :: unescaped rest
  | '\\' :: 'r' :: rest => '\r' :: unescaped rest
  | '\\' :: '\\' :: rest => '\\' :: unescaped rest
  | c :: rest => c :: unescaped rest
  | [] => []

/-- Whether a text fits a pattern with wildcards, whose quoted characters stand for themselves. -/
def fits : List (Char × Bool) → List Char → Bool
  | [], s => s.isEmpty
  | ('*', false) :: rest, s => (List.range (s.length + 1)).any fun n => fits rest (s.drop n)
  | ('?', false) :: rest, _ :: s => fits rest s
  | (p, _) :: rest, c :: s => p == c && fits rest s
  | _ :: _, [] => false

/-- Whether a test holds. -/
def holds (folder : Folder) : List (List Char) → Bool
  | [['!'], s] => s.isEmpty
  | ['!'] :: rest => !holds folder rest
  | [s] => !s.isEmpty
  | [operator, s] =>
    let path := String.ofList s
    match String.ofList operator with
    | "-n" => !s.isEmpty
    | "-z" => s.isEmpty
    | "-f" => folder.isFile path
    | "-d" => folder.isDirectory path
    | "-e" => folder.has path
    | "-s" => ((folder.read? path).map fun t => !t.isEmpty).getD false
    | _ => false
  | [a, operator, b] =>
    let numbers (p : Int → Int → Bool) :=
      match readInt? a, readInt? b with
      | some x, some y => p x y
      | _, _ => false
    match String.ofList operator with
    | "=" => a == b
    | "!=" => a != b
    | "-eq" => numbers fun x y => x == y
    | "-ne" => numbers fun x y => x != y
    | "-lt" => numbers fun x y => x < y
    | "-le" => numbers fun x y => x ≤ y
    | "-gt" => numbers fun x y => y < x
    | "-ge" => numbers fun x y => y ≤ x
    | _ => false
  | _ => false

/-- A text formatted with the next arguments in place of the marks for them. -/
def formatted : List Char → List (List Char) → List Char
  | '%' :: '%' :: rest, args => '%' :: formatted rest args
  | '%' :: c :: rest, args =>
    if c = 's' ∨ c = 'd' then args.headD [] ++ formatted rest (args.drop 1)
    else '%' :: c :: formatted rest args
  | '\\' :: 'n' :: rest, args => '\n' :: formatted rest args
  | '\\' :: 't' :: rest, args => '\t' :: formatted rest args
  | '\\' :: '\\' :: rest, args => '\\' :: formatted rest args
  | c :: rest, args => c :: formatted rest args
  | [], _ => []

/-- The texts of files one after the other. -/
def concatenated (folder : Folder) (files : List (List Char)) : List Char × List Char :=
  files.foldl
    (fun (out, err) file =>
      match folder.read? (String.ofList file) with
      | some text => (out ++ text.toList, err)
      | none => (out, err ++ "cat: ".toList ++ file ++ ": No such file or directory\n".toList))
    ([], [])

/-- Number of line ends. -/
def lineCount (s : List Char) : Nat :=
  (s.filter (· == '\n')).length

/-- The programs that are there without being given. -/
def standardPrograms : List String :=
  ["echo", "printf", "cat", "true", "false", "test", "[", "wc", "sleep", "touch", "sh"]

/-- Runs a standard program. -/
def standard (folder : Folder) (input : List Char) (program : String)
    (args : List (List Char)) : Outcome :=
  let print (s : List Char) : Outcome := ⟨folder, s, [], 0⟩
  let status (ok : Bool) : Outcome := ⟨folder, [], [], if ok then 0 else 1⟩
  match program with
  | "echo" =>
    match args with
    | ['-', 'n'] :: args => print (unescaped (List.intercalate [' '] args))
    | _ => print (unescaped (List.intercalate [' '] args) ++ ['\n'])
  | "printf" => print (formatted (args.headD []) (args.drop 1))
  | "cat" =>
    if args.isEmpty then print input
    else
      let (out, err) := concatenated folder args
      ⟨folder, out, err, if err.isEmpty then 0 else 1⟩
  | "false" => status false
  | "test" => status (holds folder args)
  | "[" => status (holds folder args.dropLast)
  | "wc" =>
    match args with
    | [_, file] =>
      let text := ((folder.read? (String.ofList file)).map String.toList).getD []
      print (natChars (lineCount text) ++ ' ' :: file ++ ['\n'])
    | _ => print (natChars (lineCount input) ++ ['\n'])
  | "touch" =>
    let touched := args.foldl
      (fun f file =>
        let t := Folder.trail (String.ofList file)
        if (f.at? t).isSome || !Folder.leadsDown t then f else f.write t "") folder
    ⟨touched, [], [], 0⟩
  | _ => status true

/-- Where a stream goes. -/
inductive Target where
  /-- The output. -/
  | output
  /-- The error stream. -/
  | errors
  /-- A file. -/
  | file (trail : Trail)
  /-- Nowhere. -/
  | nowhere
deriving DecidableEq, Repr

/-- Sends text to a target. -/
def Machine.send (m : Machine) (t : Target) (s : List Char) : Machine :=
  match t with
  | .output => { m with output := m.output ++ s }
  | .errors => { m with errors := m.errors ++ s }
  | .file trail =>
    let before :=
      match m.folder.at? trail with
      | some (.file text) => text
      | _ => ""
    { m with folder := m.folder.write trail (before ++ String.ofList s) }
  | .nowhere => m

/-- Where the streams of a command go, and what it reads. -/
structure Wiring where
  /-- Target of the output. -/
  output : Target := .output
  /-- Target of the error stream. -/
  errors : Target := .errors
  /-- What is read. -/
  input : List Char
deriving Repr

/-- A name that is given a value in front of a command. -/
def assignment? (w : Word) : Option (List Char × Word) :=
  match w with
  | .text s false :: rest =>
    let plain := rest.takeWhile fun p => match p with | .text _ false => true | _ => false
    let flat := s ++ plain.flatMap fun p => match p with | .text s _ => s | _ => []
    match cutWhere? (· == '=') flat with
    | some (name, _) =>
      if name.isEmpty || !name.all isWord || (name.head?.any isAsciiDigit) then none
      else some (name, dropText (name.length + 1) w)
    | none => none
  | _ => none
where
  /-- Drops characters from the start of a word. -/
  dropText : Nat → Word → Word
    | 0, w => w
    | _, [] => []
    | n + 1, .text s quoted :: rest =>
      if s.length ≤ n + 1 then dropText (n + 1 - s.length) rest
      else .text (s.drop (n + 1)) quoted :: rest
    | _, w => w

mutual

/-- What a piece of a word adds to its fields. -/
def expandPiece (fuel : Nat) (m : Machine) (f : Fields) (p : Piece) : Fields :=
  match fuel with
  | 0 => f
  | fuel + 1 =>
    match p with
    | .text s _ => f.add s
    | .parameter ['@'] true => f.addAll m.arguments
    | .parameter name true => f.add (m.value name)
    | .parameter name false => f.addSplit (m.value name)
    | .printed script quoted =>
      let out :=
        match parse? script with
        | some commands => (run fuel { m with output := [], errors := [] } [] commands).output
        | none => []
      let out := dropEndWhile (· == '\n') out
      if quoted then f.add out else f.addSplit out

/-- The fields of a word. -/
def expand (fuel : Nat) (m : Machine) (w : Word) : List (List Char) :=
  match fuel with
  | 0 => []
  | fuel + 1 => (w.foldl (expandPiece fuel m) ⟨[], none⟩).toList

/-- A word as one text. -/
def expandOne (fuel : Nat) (m : Machine) (w : Word) : List Char :=
  match fuel with
  | 0 => []
  | fuel + 1 => List.intercalate [' '] (expand fuel m w)

/-- Applies redirections; nothing when a file to read is missing. -/
def wire (fuel : Nat) (m : Machine) (w : Wiring) : List Redirect → Option (Machine × Wiring)
  | [] => some (m, w)
  | r :: rest =>
    match fuel with
    | 0 => none
    | fuel + 1 =>
      match r with
      | .input file =>
        match m.folder.read? (String.ofList (expandOne fuel m file)) with
        | some text => wire fuel m { w with input := text.toList } rest
        | none => none
      | .output stream append file =>
        let path := expandOne fuel m file
        if path = "/dev/null".toList then
          wire fuel m (if stream = 2 then { w with errors := .nowhere }
            else { w with output := .nowhere }) rest
        else
          let trail := Folder.trail (String.ofList path)
          if !Folder.leadsDown trail then none
          else
            let keep := append && (m.folder.at? trail).isSome
            let m := if keep then m else { m with folder := m.folder.write trail "" }
            wire fuel m (if stream = 2 then { w with errors := .file trail }
              else { w with output := .file trail }) rest
      | .same stream target =>
        let goal := if target = 2 then w.errors else w.output
        wire fuel m (if stream = 2 then { w with errors := goal }
          else { w with output := goal }) rest

/-- Runs one command. -/
def step (fuel : Nat) (m : Machine) (input : List Char) (c : Command) : Machine :=
  match fuel with
  | 0 => { m with ended := true, status := 1 }
  | fuel + 1 =>
    match c with
    | .simple words redirects =>
      match words with
      | [w] =>
        match assignment? w with
        | some (name, value) =>
          { m with values := (name, expandOne fuel m value) :: m.values, status := 0 }
        | none => perform fuel m input words redirects
      | _ => perform fuel m input words redirects
    | .forEach name items body =>
      (items.flatMap (expand fuel m)).foldl
        (fun m item =>
          if m.ended then m
          else run fuel { m with values := (name, item) :: m.values } input body)
        { m with status := 0 }
    | .select subject branches =>
      let s := expandOne fuel m subject
      match branches.find? fun (patterns, _) =>
          patterns.any fun p => fits (patternOf fuel m p) s with
      | some (_, body) => run fuel { m with status := 0 } input body
      | none => { m with status := 0 }
    | .branch condition yes no =>
      let m := run fuel m input condition
      if m.ended then m
      else if m.status = 0 then run fuel m input yes
      else run fuel { m with status := 0 } input no
    | .loop condition body =>
      let tested := run fuel m input condition
      if tested.ended then tested
      else if tested.status = 0 then
        let next := run fuel tested input body
        if next.ended then next else step fuel next input (.loop condition body)
      else { tested with status := 0 }
    | .both first second =>
      let m := step fuel m input first
      if m.ended || m.status ≠ 0 then m else step fuel m input second
    | .either first second =>
      let m := step fuel m input first
      if m.ended || m.status = 0 then m else step fuel m input second
    | .piped first second =>
      let m' := step fuel { m with output := [] } input first
      step fuel { m with folder := m'.folder, errors := m'.errors } m'.output second

/-- A word as a pattern; quoted pieces stand for themselves. -/
def patternOf (fuel : Nat) (m : Machine) (w : Word) : List (Char × Bool) :=
  match fuel with
  | 0 => []
  | fuel + 1 =>
    w.flatMap fun p =>
      match p with
      | .text s quoted => s.map (·, quoted)
      | p => (expandOne fuel m [p]).map (·, true)

/-- Runs a program with its arguments. -/
def perform (fuel : Nat) (m : Machine) (input : List Char) (words : List Word)
    (redirects : List Redirect) : Machine :=
  match fuel with
  | 0 => { m with ended := true, status := 1 }
  | fuel + 1 =>
    match wire fuel m { input } redirects with
    | none => { m with status := 2 }
    | some (m, w) =>
      match words.flatMap (expand fuel m) with
      | [] => { m with status := 0 }
      | name :: args =>
        let name := String.ofList name
        if name = "exit" then
          let status := ((args.head?.bind readNat?).map (· % 256)).getD m.status
          { m with status, ended := true }
        else if name = ":" then { m with status := 0 }
        else if standardPrograms.contains name then
          let o := standard m.folder w.input name args
          let m := { m with folder := o.folder, status := o.status }
          (m.send w.output o.output).send w.errors o.errors
        else
          let text := s!"sh: 1: {name}: not found\n".toList
          { m.send w.errors text with status := 127 }

/-- Runs commands one after the other until one ends the script. -/
def run (fuel : Nat) (m : Machine) (input : List Char) : List Command → Machine
  | [] => m
  | c :: rest =>
    match fuel with
    | 0 => { m with ended := true, status := 1 }
    | fuel + 1 =>
      let m := step fuel m input c
      if m.ended then m else run fuel m input rest

end

/-- The number of steps after which a script is stopped. -/
def maxSteps : Nat :=
  10000

/-- Runs a script with arguments in a folder, without any input. -/
def runScript (folder : Folder) (script : String) (arguments : List String) : Outcome :=
  match parse? script.toList with
  | none => ⟨folder, [], "sh: 1: Syntax error\n".toList, 2⟩
  | some commands =>
    let start : Machine := { folder, values := [], arguments := arguments.map String.toList }
    let m := run maxSteps start [] commands
    ⟨m.folder, m.output, m.errors, m.status⟩

/-- A folder with the scripts that are found by name. -/
structure Host where
  /-- The working directory. -/
  folder : Folder
  /-- Scripts under their names. -/
  scripts : List (String × String)
deriving Repr

namespace Host

/-- Whether a program is found. -/
def hasProgram (h : Host) (name : String) : Bool :=
  (h.scripts.lookup name).isSome || standardPrograms.contains name

/-- Starts a program; nothing when it is not found. The result is what it did and the host
afterwards. -/
def start? (h : Host) (program : String) (arguments : List String) : Option (Outcome × Host) :=
  match h.scripts.lookup program with
  | some script =>
    let o := runScript h.folder script arguments
    some (o, { h with folder := o.folder })
  | none =>
    if standardPrograms.contains program then
      let o := standard h.folder [] program (arguments.map String.toList)
      some (o, { h with folder := o.folder })
    else none

/-- Starts a program in a directory of the host. -/
def startIn? (h : Host) (dir : Path) (program : String) (arguments : List String) :
    Option (Outcome × Host) :=
  let t := Folder.trail dir
  let below : Host := { h with folder := h.folder.inside t }
  (below.start? program arguments).map fun (o, after) =>
    (o, { h with folder := h.folder.replaceInside t after.folder })

/-- The programs of the host that a monad holds. -/
def programs {m : Type → Type} [Monad m] [MonadStateOf Host m] : Programs m :=
  { has := fun name => return (← get).hasProgram name
    start := fun dir program arguments => do
      match (← get).startIn? dir program arguments with
      | none => return none
      | some (o, host) =>
        set host
        return some { output := o.output, errors := o.errors, status := o.status } }

end Host

end Adjudicator.Shell
