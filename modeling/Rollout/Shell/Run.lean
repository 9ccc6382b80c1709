import Rollout.Shell.Builtin
import Rollout.Shell.Utility.Words

/-!
# Run: what commands do

`run` takes the steps of a command on a machine, `execute` those of a whole script, in a directory
and with nothing to read.  Commands run one after another, those of a pipeline too: the output of
one is complete before the next one begins.  The first argument of the mutual definitions bounds
the number of steps.
-/

namespace Rollout.Shell

open Step

/-! ## Values -/

/-- The positional parameters as one text. -/
def Machine.joinedArguments (m : Machine) (separators : Octets) : Octets :=
  (separators.take 1).intercalate m.arguments

/-- What a variable or parameter holds. -/
def valueOf? (name : Octets) : Step (Option Octets) := do
  let m ← get
  let number := fun (n : Nat) => some (Nat.toDigits 10 n)
  match name with
  | ['?'] => return number m.status
  | ['$'] => return number m.process
  | ['#'] => return number m.arguments.length
  | ['!'] => return number (m.process + 1)
  | ['-'] =>
    return some ((if m.strict then ['e'] else []) ++ (if m.exact then ['u'] else []))
  | ['0'] => return some m.title
  | ['@'] | ['*'] =>
    let separators ← Builtin.separators
    return if m.arguments.isEmpty then none else some (m.joinedArguments separators)
  | _ =>
    if name.all Char.isDigit then return m.arguments[Octets.toInt?.value name - 1]?
    else held? name

/-- Octets of an expansion as glyphs. -/
def glyphsOf (quoted : Bool) (o : Octets) : List Glyph :=
  if quoted then .mark :: o.map Glyph.fixed else o.map Glyph.loose

/-- The glyphs of all positional parameters, each a field of its own. -/
def argumentGlyphs (quoted : Bool) (arguments : List Octets) : List Glyph :=
  [Glyph.cut].intercalate (arguments.map (glyphsOf quoted))

/-- Glyphs that came out of an expansion. -/
def loosened (gs : List Glyph) : List Glyph :=
  gs.map fun g => match g with
    | .bare c => .loose c
    | g => g

/-- Nothing is in a word but all positional parameters, each a field of its own. -/
def isArguments (w : Word) : Bool :=
  w.any (fun p => match p with
    | .value ['@'] .plain _ _ => true
    | _ => false) &&
  w.all fun p => match p with
    | .text [] _ | .value ['@'] .plain _ _ => true
    | _ => false

/-! ## Names of files -/

/-- Part an expanded word at slashes. -/
def components (gs : List Glyph) : List (List Glyph) := gs.splitOnP fun g => g.octet? == some '/'

/-- The names that a part of a pattern stands for below a folder. -/
def covered (d : Directory) (folder : Path) (part : List Glyph) : List Octets :=
  let hidden := part.head?.bind Glyph.octet? == some '.'
  (d.names folder).filter fun n =>
    (hidden || n.head? != some '.') && Wild.covers (Wild.ofGlyphs part) n

/-- The names of files that the parts of a pattern stand for, behind the text of what comes before
them. -/
def pathnames (d : Directory) (here : Path) : (before : Octets) → List (List Glyph) → List Octets
  | before, [] => if d.has (Path.ofOctets here before) then [before] else []
  | before, part :: parts =>
    let slash := if parts.isEmpty then [] else ['/']
    if Wild.isLoose (Wild.ofGlyphs part) then
      let names := covered d (Path.ofOctets here before) part
      names.flatMap fun n =>
        if !parts.isEmpty && !d.isFolder (Path.ofOctets here (before ++ n)) then []
        else pathnames d here (before ++ n ++ slash) parts
    else pathnames d here (before ++ Glyph.octets part ++ slash) parts

/-- The field of an expanded word, or the names of the files that it is a pattern of. -/
def filled (d : Directory) (here : Path) (gs : List Glyph) : List Octets :=
  if Wild.isLoose (Wild.ofGlyphs gs) then
    match pathnames d here [] (components gs) with
    | [] => [Glyph.octets gs]
    | names => names
  else [Glyph.octets gs]

/-! ## Redirections -/

/-- Let a descriptor lead to a file. -/
def lead (descriptor : Nat) (name : Octets) (f : Octets → Octets) : Step Bool := do
  let m ← get
  let p ← path name
  let copied? := match p.map Octets.toText with
    | ["dev", "stdout"] => m.descriptors.lookup 1
    | ["dev", "stderr"] => m.descriptors.lookup 2
    | _ => none
  match copied? with
  | some c =>
    redirect descriptor c
    return true
  | none =>
    match m.directory.change p f with
    | .ok d =>
      inDirectory fun _ => d
      redirect descriptor (if p == Directory.nowhere then .nothing else .file p)
      return true
    | .error e =>
      let why := if e == .missing then "Directory nonexistent" else e.text
      complain ("sh: 1: cannot create ".toList ++ name ++ (": " ++ why).toList)
      return false

/-- Let a descriptor lead out of a file. -/
def feed (descriptor : Nat) (name : Octets) : Step Bool := do
  match (← get).directory.read (← path name) with
  | .ok content =>
    redirect descriptor (.source (← newSource content))
    return true
  | .error .isFolder =>
    redirect descriptor .nothing
    return true
  | .error e =>
    let why := if e == .missing then "No such file" else e.text
    complain ("sh: 1: cannot open ".toList ++ name ++ (": " ++ why).toList)
    return false

/-- Let a descriptor lead where another one leads. -/
def mimic (descriptor : Nat) (other : Octets) : Step Bool := do
  if other == ['-'] then
    modify fun m => { m with descriptors := m.descriptors.filter (·.1 != descriptor) }
    return true
  else
    match (← get).descriptors.lookup (Octets.toInt?.value other) with
    | some c =>
      redirect descriptor c
      return true
    | none =>
      complain ("sh: 1: ".toList ++ other ++ ": Bad file descriptor".toList)
      return false

/-! ## Statuses -/

/-- A command has ended with a status. -/
def settle (status : Nat) : Step Unit := do
  modify fun m => { m with status }
  let m ← get
  if status != 0 && m.strict && !m.testing then throw (.exit status)

/-- Let variables hold something while a step is taken, for other processes too. -/
def withVariables (values : List (Octets × Octets)) (step : Step Nat) : Step Nat := do
  if values.isEmpty then return ← step
  let before ← values.mapM fun v => do return (v.1, ← held? v.1)
  let published := (← get).published
  values.forM fun v => assign v.1 v.2
  modify fun m => { m with published := values.map (·.1) ++ published }
  let status ← step
  modify fun m => { m with published }
  before.reverse.forM fun v =>
    match v.2 with
    | some o => assign v.1 o
    | none => modify fun m => { m with held := m.held.filter (·.1 != v.1) }
  return status

/-- Take the steps of a function with its own parameters. -/
def inFunction (arguments : List Octets) (step : Step Unit) : Step Nat := do
  let m ← get
  set { m with arguments, hidden := [] }
  let result : Option Nat ← tryCatch (do step; return none) fun e =>
    match e with
    | .giveBack n => return some n
    | e => throw e
  let after ← get
  set { after with arguments := m.arguments, hidden := m.hidden }
  after.hidden.forM fun v =>
    match v.2 with
    | some o => assign v.1 o
    | none => modify fun m => { m with held := m.held.filter (·.1 != v.1) }
  return result.getD after.status

/-- What becomes of a loop when its body is left. -/
inductive Round where
  | another
  | last

/-- Take the steps of a body of a loop, and say whether there may be another round. -/
def inLoop (step : Step Unit) : Step Round :=
  tryCatch (do step; return .another) fun e =>
    match e with
    | .breakOut n => if n ≤ 1 then return .last else throw (.breakOut (n - 1))
    | .goOn n => if n ≤ 1 then return .another else throw (.goOn (n - 1))
    | e => throw e

/-! ## Scripts in scripts -/

/-- Take the steps of a script of its own, in another process. -/
def inProcess (title : Octets) (arguments : List Octets) (step : Step Unit) : Step Nat :=
  ExceptT.mk fun m =>
  let fresh : Machine := { m with
    title
    arguments
    held := m.held.filter fun v => m.published.contains v.1
    functions := []
    hidden := []
    farewell := []
    strict := false
    exact := false
    testing := false
    process := m.process + 2 }
  let (result, after) := (apart step).run.run fresh
  let left := { m with
    directory := after.directory
    sources := after.sources
    sinks := after.sinks
    slept := after.slept }
  match result with
  | .error (.killed signal) => (.ok (128 + signal), left)
  | .error e => (.error e, left)
  | .ok status => (.ok status, left)

mutual

/-- Expand a word. -/
def glyphs : Nat → Word → Step (List Glyph)
  | 0, _ => throw (.killed 9)
  | _, [] => return []
  | fuel + 1, p :: ps => do
    let first ← pieceGlyphs fuel p
    return first ++ (← glyphs fuel ps)

/-- Expand a piece of a word. -/
def pieceGlyphs : Nat → Piece → Step (List Glyph)
  | 0, _ => throw (.killed 9)
  | fuel + 1, p => do
    match p with
    | .text s true => return .mark :: s.map Glyph.fixed
    | .text s false => return s.map Glyph.bare
    | .output script quoted => return glyphsOf quoted (← outputOf fuel script)
    | .sum expression quoted =>
      let text ← text fuel expression
      let held := (← get).held
      match (Sum.Expr.parse text).bind fun e => e.value held with
      | some (n, held) =>
        modify fun m => { m with held }
        return glyphsOf quoted (toString n).toList
      | none => giveUp ("arithmetic expression: ".toList ++ text)
    | .value name use argument quoted =>
      if (name == ['@'] || name == ['*'] && !quoted) && use == .plain then
        return argumentGlyphs quoted (← get).arguments
      let value? ← valueOf? name
      let missing := fun (alsoEmpty : Bool) => value?.all fun v => alsoEmpty && v.isEmpty
      let plain := glyphsOf quoted (value?.getD [])
      let other := do
        let gs ← glyphs fuel argument
        return if quoted then .mark :: gs else loosened gs
      match use with
      | .plain =>
        if value?.isNone && (← get).exact && !(name == ['*']) then
          giveUp (name ++ ": parameter not set".toList)
        return plain
      | .size =>
        if name == ['@'] || name == ['*'] then
          return glyphsOf quoted (Nat.toDigits 10 (← get).arguments.length)
        return glyphsOf quoted (Nat.toDigits 10 (value?.getD []).length)
      | .orElse alsoEmpty => if missing alsoEmpty then other else return plain
      | .orAssign alsoEmpty =>
        if missing alsoEmpty then
          let value ← text fuel argument
          assign name value
          return glyphsOf quoted value
        else return plain
      | .andThen alsoEmpty =>
        if missing alsoEmpty then return (if quoted then [.mark] else []) else other
      | .orFail alsoEmpty =>
        if missing alsoEmpty then
          let said ← text fuel argument
          giveUp (name ++ ": ".toList ++
            if said.isEmpty then "parameter not set".toList else said)
        else return plain
      | .withoutFront longest =>
        let pattern := Wild.ofGlyphs (← glyphs fuel argument)
        return glyphsOf quoted (Wild.withoutFront longest pattern (value?.getD []))
      | .withoutEnd longest =>
        let pattern := Wild.ofGlyphs (← glyphs fuel argument)
        return glyphsOf quoted (Wild.withoutEnd longest pattern (value?.getD []))

/-- Expand a word that is one field. -/
def text : Nat → Word → Step Octets
  | 0, _ => throw (.killed 9)
  | fuel + 1, w => do
    let gs ← glyphs fuel w
    return Glyph.octets (gs.map fun g => if g == .cut then .fixed ' ' else g)

/-- Expand words to fields. -/
def fields : Nat → List Word → Step (List Octets)
  | 0, _ => throw (.killed 9)
  | _, [] => return []
  | fuel + 1, w :: ws => do
    let here ← do
      if isArguments w && (← get).arguments.isEmpty then pure []
      else
        let parts := Glyph.fields (← Builtin.separators) (← glyphs fuel w)
        let m ← get
        pure (parts.flatMap (filled m.directory m.here))
    return here ++ (← fields fuel ws)

/-- What a command writes, without line ends at the end. -/
def outputOf : Nat → Command → Step Octets
  | 0, _ => throw (.killed 9)
  | fuel + 1, c => do
    let sink ← newSink
    let status ← apart do
      redirect 1 (.sink sink)
      run fuel c
    modify fun m => { m with status, inner := some status }
    let written := (← get).sinks.getD sink []
    return (written.dropWhile (· == '\n')).reverse.filter (· != '\x00')

/-- Do what redirections say, up to the first that cannot be done. -/
def follow : Nat → List Redirection → Step Bool
  | 0, _ => throw (.killed 9)
  | _, [] => return true
  | fuel + 1, .mk descriptor direction target :: rs => do
    let name ← text fuel target
    let well ← match direction with
      | .input => feed descriptor name
      | .output => lead descriptor name fun _ => []
      | .append => lead descriptor name id
      | .copy => mimic descriptor name
      | .document =>
        redirect descriptor (.source (← newSource name))
        pure true
    if well then follow fuel rs else return false

/-- Run a command with redirections of its own. -/
def redirected : Nat → List Redirection → Step Unit → Step Unit
  | 0, _, _ => throw (.killed 9)
  | fuel + 1, rs, step => within do
    if ← follow fuel rs then step else settle 2

/-- Give variables what assignments say. -/
def assignments : Nat → List (Octets × Word) → Step (List (Octets × Octets))
  | 0, _ => throw (.killed 9)
  | _, [] => return []
  | fuel + 1, (name, w) :: rest => do
    let value ← text fuel w
    return (name, value) :: (← assignments fuel rest)

/-- Do what a simple command says, by its name. -/
def call : Nat → Octets → List Octets → Step Nat
  | 0, _, _ => throw (.killed 9)
  | fuel + 1, name, args => do
    match (← get).functions.lookup name with
    | some body => inFunction args (run fuel body)
    | none =>
      match String.ofList name, args with
      | "eval", args => script fuel ([' '].intercalate args)
      | ".", file :: _ =>
        match (← get).directory.read (← path file) with
        | .ok text => script fuel text
        | .error _ => giveUp (".: cannot open ".toList ++ file)
      | "command", ['-', _] :: other :: _ =>
        let known := (← get).functions.lookup other |>.isSome
        if known || (Builtin.named? other).isSome || (Utility.named? other).isSome then
          say (Octets.line other)
          return 0
        else return 127
      | "command", other :: args => call fuel other args
      | "env", args => environment fuel args
      | "exec", other :: args =>
        let status ← call fuel other args
        throw (.exit status)
      | "sh", ['-', 'c'] :: text :: args =>
        inProcess (args.headD "sh".toList) args.tail (discard (script fuel text))
      | "sh", file :: args =>
        match (← get).directory.read (← path file) with
        | .ok text => inProcess file args (discard (script fuel text))
        | .error _ =>
          complain ("sh: 0: cannot open ".toList ++ file ++ ": No such file".toList)
          return 2
      | "sh", [] =>
        let text ← input
        inProcess "sh".toList [] (discard (script fuel text))
      | _, args =>
        match (Builtin.named? name).or (Utility.named? name) with
        | some act => act args
        | none =>
          complain ("sh: 1: ".toList ++ name ++ ": not found".toList)
          return 127

/-- Run a command with variables that the arguments in front of it set. -/
def environment : Nat → List Octets → Step Nat
  | 0, _ => throw (.killed 9)
  | _, [] => return 0
  | fuel + 1, a :: args => do
    let name := a.takeWhile (· != '=')
    if name.length < a.length then
      withVariables [(name, a.drop (name.length + 1))] (environment fuel args)
    else call fuel a args

/-- Run a script, and return its status. -/
def script : Nat → Octets → Step Nat
  | 0, _ => throw (.killed 9)
  | fuel + 1, text => do
    match Command.parse text with
    | none => giveUp "syntax error".toList
    | some c =>
      modify fun m => { m with status := 0 }
      run fuel c
      return (← get).status

/-- Run a command. -/
def run : Nat → Command → Step Unit
  | 0, _ => throw (.killed 9)
  | fuel + 1, c => do
    match c with
    | .skip => return ()
    | .simple as ws rs =>
      modify fun m => { m with inner := none }
      match ← fields fuel ws with
      | [] =>
        let values ← assignments fuel as
        let well ← within (follow fuel rs)
        values.forM fun v => assign v.1 v.2
        let inner := (← get).inner
        settle (if well then inner.getD 0 else 2)
      | [name] =>
        if name == "exec".toList then
          if !(← follow fuel rs) then throw (.exit 2)
          settle 0
        else plain fuel as name [] rs
      | name :: args => plain fuel as name args rs
    | .sequence a b =>
      run fuel a
      run fuel b
    | .background a b =>
      let _ ← apart do
        redirect 0 .nothing
        run fuel a
      modify fun m => { m with status := 0 }
      run fuel b
    | .both a b =>
      asTest (run fuel a)
      if (← get).status == 0 then run fuel b
    | .either a b =>
      asTest (run fuel a)
      if (← get).status != 0 then run fuel b
    | .negated a =>
      asTest (run fuel a)
      modify fun m => { m with status := if m.status == 0 then 1 else 0 }
    | .pipe a b =>
      let sink ← newSink
      let _ ← apart do
        redirect 1 (.sink sink)
        run fuel a
      let source ← newSource ((← get).sinks.getD sink []).reverse
      let status ← apart do
        redirect 0 (.source source)
        run fuel b
      settle status
    | .group a rs => redirected fuel rs (run fuel a)
    | .apart a rs => redirected fuel rs do
      let status ← apart (run fuel a)
      settle status
    | .choice test yes no rs => redirected fuel rs do
      asTest (run fuel test)
      if (← get).status == 0 then run fuel yes
      else
        modify fun m => { m with status := 0 }
        run fuel no
    | .loop outcome test body rs => redirected fuel rs (rounds fuel outcome test body 0)
    | .each name words? body rs => redirected fuel rs do
      let arguments := (← get).arguments
      let values ← match words? with
        | some ws => fields fuel ws
        | none => pure arguments
      modify fun m => { m with status := 0 }
      roundsOver fuel name body values
    | .select w arms rs => redirected fuel rs do
      let o ← text fuel w
      modify fun m => { m with status := 0 }
      selected fuel o arms
    | .define name body =>
      modify fun m => { m with
        functions := (name, body) :: m.functions.filter (·.1 != name), status := 0 }

/-- Run a simple command. -/
def plain : Nat → List (Octets × Word) → Octets → List Octets → List Redirection → Step Unit
  | 0, _, _, _, _ => throw (.killed 9)
  | fuel + 1, as, name, args, rs => do
    let values ← assignments fuel as
    let status ← within do
      if ← follow fuel rs then withVariables values (call fuel name args) else return 2
    settle status

/-- Run the rounds of a loop. -/
def rounds : Nat → Bool → Command → Command → Nat → Step Unit
  | 0, _, _, _, _ => throw (.killed 9)
  | fuel + 1, outcome, test, body, status => do
    let tested ← inLoop (asTest (run fuel test))
    match tested with
    | .last => modify fun m => { m with status := 0 }
    | .another =>
      let succeeded := (← get).status == 0
      if succeeded == outcome then
        match ← inLoop (run fuel body) with
        | .last => modify fun m => { m with status := 0 }
        | .another => rounds fuel outcome test body (← get).status
      else modify fun m => { m with status }

/-- Run the body of a loop for each value of a variable. -/
def roundsOver : Nat → Octets → Command → List Octets → Step Unit
  | 0, _, _, _ => throw (.killed 9)
  | _, _, _, [] => return ()
  | fuel + 1, name, body, value :: values => do
    assign name value
    match ← inLoop (run fuel body) with
    | .last => modify fun m => { m with status := 0 }
    | .another => roundsOver fuel name body values

/-- Run the first arm that has a pattern which a text matches. -/
def selected : Nat → Octets → List (List Word × Command) → Step Unit
  | 0, _, _ => throw (.killed 9)
  | _, _, [] => return ()
  | fuel + 1, o, (patterns, body) :: arms => do
    if ← anyCovers fuel o patterns then run fuel body else selected fuel o arms

/-- One of some patterns stands for a text. -/
def anyCovers : Nat → Octets → List Word → Step Bool
  | 0, _, _ => throw (.killed 9)
  | _, _, [] => return false
  | fuel + 1, o, w :: ws => do
    if Wild.covers (Wild.ofGlyphs (← glyphs fuel w)) o then return true else anyCovers fuel o ws

end

/-! ## Whole scripts -/

/-- What a script comes to. -/
structure Output where
  /-- The status; absent if a signal has ended the script. -/
  status : Option Nat
  stdout : Octets
  stderr : Octets
  /-- Milliseconds spent asleep. -/
  slept : Nat
deriving DecidableEq, Repr, Inhabited

/-- The script has done what it was to do. -/
def Output.isSuccess (o : Output) : Bool := o.status == some 0

/-- Bound on the number of steps of a script. -/
def bound : Nat := 1000000

/-- Run a script in a directory: what comes of it, and the directory afterwards. -/
def execute (text : Octets) (directory : Directory) : Output × Directory :=
  let start : Machine := {
    directory
    descriptors := [(0, .nothing), (1, .sink 0), (2, .sink 1)]
    sinks := #[[], []] }
  let (result, m) := (script bound text).run.run start
  let m := if m.farewell.isEmpty || result matches .error (.killed _) then m
    else ((script bound m.farewell).run.run { m with farewell := [] }).2
  let status := match result with
    | .ok n | .error (.exit n) | .error (.giveBack n) => some (n % 256)
    | .error (.killed _) => none
    | .error (.breakOut _) | .error (.goOn _) => some m.status
  let written := fun (n : Nat) => (m.sinks.getD n []).reverse
  ({ status, stdout := written 0, stderr := written 1, slept := m.slept }, m.directory)

end Rollout.Shell
