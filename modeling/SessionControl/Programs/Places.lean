import SessionControl.Programs.Tool

set_option autoImplicit false

/-! # Programs on places

Programs that make, remove, copy, move and list files and directories, and that take paths apart. -/

namespace SessionControl.Programs

open Machine (Process Work Fate Node Place Disk)
open Tool

/-! ## Changing the disk -/

/-- Changes the disk. -/
def onDisk (f : Disk → Disk) : Work Unit := modify fun s => { s with disk := f s.disk }

/-- Runs an attempt for each path and complains about those that fail. -/
def forPaths (p : Process) (before : String) (paths : List Bytes)
    (attempt : Bytes → Work (Except SystemFault Unit)) : Work Fate := do
  let done ← paths.mapM fun path => do
    match ← attempt path with
    | .ok () => return true
    | .error f =>
      complain p (before.toList ++ quoted path ++ ": ".toList ++ f.title.toList)
      return false
  exit (if done.all id then 0 else 1)

/-- Whether there is nothing below a place. -/
def isEmptyDirectory (d : Disk) (place : Place) : Bool := d.namesIn place = []

/-- Whether a path leads to a directory. -/
def isDirectory (d : Disk) (here : Place) (path : Bytes) : Bool :=
  match d.find here path with
  | .ok .directory => true
  | _ => false

/-- Leaves a place and all below it out. -/
def removeTree (place : Place) (d : Disk) : Disk :=
  ⟨d.nodes.filter fun e => !place.isPrefixOf e.1⟩

/-- The place of a path whose last name is not followed if it is a link. -/
def resolveLast (d : Disk) (here : Place) (path : Bytes) : Except SystemFault Place := do
  let names := Machine.Path.names path
  match names.getLast? with
  | none => d.resolve here path
  | some name =>
    let parent ← d.start here path names.dropLast
    match d.node? (parent ++ [name]) with
    | some (.link _) => .ok (parent ++ [name])
    | _ => d.resolve here path

def makeDirectory : Tool :=
  withOptions { plain := "pv", valued := "m", long := [("parents", 'p'), ("mode", 'm')] } 1
    fun p a =>
      if a.words = [] then misused p 1 "missing operand".toList
      else
        forPaths p "cannot create directory " a.words fun path => do
          let d := (← get).disk
          if a.has 'p' then
            let rec go : Place → List Bytes → Work (Except SystemFault Unit)
              | place, [] => do
                onDisk fun d => d.ensureDirectory place
                return .ok ()
              | place, name :: rest => do
                let d := (← get).disk
                let next :=
                  if name = ['.'] then place
                  else if name = ['.', '.'] then place.dropLast
                  else place ++ [name]
                match d.node? next with
                | some .directory => go next rest
                | some (.link _) => go next rest
                | some _ => return .error (if rest = [] then .alreadyExists else .notADirectory)
                | none =>
                  onDisk fun d => d.put next .directory
                  go next rest
            go (if Machine.Path.isAbsolute path then [] else p.here) (Machine.Path.names path)
          else
            match d.resolveNew p.here path with
            | .error f => return .error f
            | .ok place =>
              if (d.node? place).isSome then return .error .alreadyExists
              else
                onDisk fun d => d.put place .directory
                return .ok ()

def removeDirectory : Tool := withOptions { plain := "pv" } 1 fun p a =>
  if a.words = [] then misused p 1 "missing operand".toList
  else
    forPaths p "failed to remove " a.words fun path => do
      let d := (← get).disk
      match resolveLast d p.here path with
      | .error f => return .error f
      | .ok place =>
        if d.node? place ≠ some .directory then return .error .notADirectory
        else if !isEmptyDirectory d place then return .error .notEmpty
        else
          onDisk fun d => d.without place
          return .ok ()

def remove : Tool :=
  withOptions { plain := "rRfdvi", long := [("recursive", 'r'), ("force", 'f'), ("dir", 'd')] } 1
    fun p a =>
      if a.words = [] then
        if a.has 'f' then exit 0 else misused p 1 "missing operand".toList
      else
        forPaths p "cannot remove " a.words fun path => do
          let d := (← get).disk
          match resolveLast d p.here path with
          | .error .notFound => return if a.has 'f' then .ok () else .error .notFound
          | .error f => return .error f
          | .ok place =>
            let isDirectory := d.node? place = some .directory
            if isDirectory ∧ !(a.has 'r' || a.has 'R') then
              if a.has 'd' ∧ isEmptyDirectory d place then
                onDisk fun d => d.without place
                return .ok ()
              else return .error (if a.has 'd' then .notEmpty else .isADirectory)
            else
              onDisk (removeTree place)
              return .ok ()

def touch : Tool := withOptions { plain := "acmh", valued := "drt" } 1 fun p a =>
  if a.words = [] then misused p 1 "missing file operand".toList
  else
    forPaths p "cannot touch " a.words fun path => do
      let d := (← get).disk
      match d.resolveNew p.here path with
      | .error f => return .error f
      | .ok place =>
        if (d.node? place).isNone ∧ Machine.Path.endsInSlash path then return .error .notFound
        else
          if (d.node? place).isNone ∧ !a.has 'c' then
            onDisk fun d => d.put place (.file [] false)
          return .ok ()

/-! ## Copying, moving and linking -/

/-- The nodes at a place and below it, with the rest of their places. -/
def tree (d : Disk) (place : Place) : List (Place × Node) :=
  let root := (d.node? place).toList.map fun n => ([], n)
  root ++ d.nodes.filterMap fun e =>
    if place ≠ e.1 ∧ place.isPrefixOf e.1 then some (e.1.drop place.length, e.2) else none

/-- Where something goes: to the target itself, or into it if it is a directory. -/
def destination (d : Disk) (here : Place) (target source : Bytes) : Except SystemFault Place := do
  let place ← d.resolveNew here target
  if d.node? place = some .directory then .ok (place ++ [Machine.Path.lastName source])
  else .ok place

/-- Puts files and directories somewhere else, one after the other. -/
def transfer (verb : String) (allowed : Arguments → Node → Bool)
    (act : Place → Place → Node → Disk → Disk) (o : Options) : Tool :=
  withOptions o 1 fun p a =>
    match a.words.getLast?, a.words.dropLast with
    | none, _ => misused p 1 "missing file operand".toList
    | some one, [] => misused p 1 ("missing destination file operand after ".toList ++ quoted one)
    | some target, sources => do
      let d := (← get).disk
      let intoDirectory := isDirectory d p.here target
      if 1 < sources.length ∧ !intoDirectory then
        refuse p 1 ("target ".toList ++ quoted target ++ ": ".toList ++
          (SystemFault.title (if d.has p.here target then .notADirectory else .notFound)).toList)
      else
        let done ← sources.mapM fun source => do
          let d := (← get).disk
          match resolveLast d p.here source with
          | .error f =>
            complain p ("cannot stat ".toList ++ quoted source ++ ": ".toList ++ f.title.toList)
            return false
          | .ok fromPlace =>
            match d.node? fromPlace, destination d p.here target source with
            | some node, .ok toPlace =>
              if !allowed a node then
                complain p ("-r not specified; omitting directory ".toList ++ quoted source)
                return false
              else if fromPlace = toPlace then
                complain p (quoted source ++ " and ".toList ++ quoted target ++
                  " are the same file".toList)
                return false
              else
                onDisk (act fromPlace toPlace node)
                return true
            | _, .error f =>
              complain p (verb.toList ++ quoted target ++ ": ".toList ++ f.title.toList)
              return false
            | none, _ => return false
        exit (if done.all id then 0 else 1)

def copy : Tool :=
  transfer "cannot create regular file " (fun a n => n ≠ .directory || a.has 'r' || a.has 'R')
    (fun source target _ d =>
      (tree d source).foldl (fun d (rest, node) => d.put (target ++ rest) node) d)
    { plain := "rRafpvi", long := [("recursive", 'r')] }

def move : Tool :=
  transfer "cannot move to " (fun _ _ => true)
    (fun source target _ d =>
      (tree d source).foldl (fun d (rest, node) => d.put (target ++ rest) node)
        (removeTree source d))
    { plain := "fvin" }

def link : Tool := withOptions { plain := "sfvn" } 1 fun p a =>
  match a.words with
  | [] => misused p 1 "missing file operand".toList
  | source :: rest => do
    let d := (← get).disk
    let target := rest.headD (Machine.Path.lastName source)
    match destination d p.here target source with
    | .error f =>
      refuse p 1 ("failed to create link ".toList ++ quoted target ++ ": ".toList ++ f.title.toList)
    | .ok place =>
      if (d.node? place).isSome ∧ !a.has 'f' then
        refuse p 1 ("failed to create link ".toList ++ quoted target ++ ": ".toList ++
          (SystemFault.title .alreadyExists).toList)
      else if a.has 's' then
        onDisk fun d => d.put place (.link source)
        exit 0
      else
        match d.find p.here source with
        | .ok node =>
          onDisk fun d => d.put place node
          exit 0
        | .error f => refuse p 1 ("failed to access ".toList ++ faultText source f)

/-- Whether a mode makes a file executable, or takes that away; nothing if it leaves it. -/
def executableIn? (mode : Bytes) : Option (Option Bool) :=
  if mode ≠ [] ∧ mode.all (Ascii.isDigitIn 8) then
    some (some (decide (mode.any fun c => ((Ascii.digitValue? c).getD 0) % 2 = 1)))
  else
    let signs := mode.dropWhile fun c => "augo".toList.contains c
    match signs with
    | sign :: letters =>
      if (sign = '+' ∨ sign = '-' ∨ sign = '=') ∧ letters.all fun c => "rwxXst".toList.contains c
      then some (if letters.contains 'x' then some (sign ≠ '-') else none)
      else none
    | [] => none

def changeMode : Tool := withOptions { plain := "Rvcf", anywhere := false } 1 fun p a =>
  match a.words with
  | [] => misused p 1 "missing operand".toList
  | [mode] => misused p 1 ("missing operand after ".toList ++ quoted mode)
  | mode :: paths =>
    match executableIn? mode with
    | none => misused p 1 ("invalid mode: ".toList ++ quoted mode)
    | some change =>
      forPaths p "cannot access " paths fun path => do
        let d := (← get).disk
        match d.resolve p.here path with
        | .error f => return .error f
        | .ok place =>
          match d.node? place, change with
          | some (.file contents _), some executable =>
            onDisk fun d => d.put place (.file contents executable)
            return .ok ()
          | _, _ => return .ok ()

/-! ## Listing -/

/-- The names that are shown of a directory. -/
def shownNames (a : Arguments) (names : List Bytes) : List Bytes :=
  let names := if a.has 'a' then ['.'] :: ['.', '.'] :: names else names
  let names := if a.has 'a' ∨ a.has 'A' then names else names.filter fun n => n.head? ≠ some '.'
  let names := names.mergeSort fun x y => !Bytes.lt y x
  if a.has 'r' then names.reverse else names

def list : Tool :=
  withOptions { plain := "1aAldFRrtSih", long := [("all", 'a'), ("almost-all", 'A'),
    ("directory", 'd'), ("reverse", 'r')] } 2 fun p a => do
    let d := (← get).disk
    let paths := (if a.words = [] then [['.']] else a.words).mergeSort fun x y => !Bytes.lt y x
    let found := paths.map fun path => (path, d.find p.here path)
    let missing := found.filterMap fun (path, r) =>
      match r with
      | .error f => some (path, f)
      | .ok _ => none
    missing.forM fun (path, f) =>
      complain p ("cannot access ".toList ++ quoted path ++ ": ".toList ++ f.title.toList)
    let isShown (n : Node) : Bool := n ≠ .directory || a.has 'd'
    let files := found.filterMap fun (path, r) =>
      match r with
      | .ok n => if isShown n then some path else none
      | .error _ => none
    let directories := found.filterMap fun (path, r) =>
      match r with
      | .ok n => if isShown n then none else some path
      | .error _ => none
    let sign (n : Option Node) : Bytes :=
      if !a.has 'F' then []
      else
        match n with
        | some .directory => ['/']
        | some (.link _) => ['@']
        | some (.file _ true) => ['*']
        | _ => []
    say p (files.flatMap fun f => f ++ ['\n'])
    let rec go (first : Bool) : List Bytes → Work Unit
      | [] => return ()
      | path :: rest => do
        let headed := 1 < paths.length
        if headed then say p ((if first then [] else ['\n']) ++ path ++ ":\n".toList)
        match d.resolve p.here path with
        | .ok place =>
          say p ((shownNames a (d.namesIn place)).flatMap fun n =>
            n ++ sign (d.node? (place ++ [n])) ++ ['\n'])
        | .error _ => pure ()
        go false rest
    go files.isEmpty directories
    exit (if missing.isEmpty then 0 else 2)

/-! ## Paths -/

/-- The last name of a path, or a slash if there is nothing else. -/
def lastNameOf (path : Bytes) : Bytes :=
  match (Machine.Path.names path).getLast? with
  | some name => name
  | none => if path = [] then [] else ['/']

/-- All but the last name of a path. -/
def directoryOf (path : Bytes) : Bytes :=
  let trim (bs : Bytes) : Bytes := (bs.reverse.dropWhile (· = '/')).reverse
  let whole := trim path
  if whole = [] then if path = [] then ['.'] else ['/']
  else if whole.contains '/' then
    let before := (whole.reverse.dropWhile (· ≠ '/')).reverse
    if trim before = [] then ['/'] else trim before
  else ['.']

/-- Takes an ending off a name, unless nothing would be left. -/
def withoutEnding (ending name : Bytes) : Bytes :=
  if ending ≠ [] ∧ ending ≠ name ∧ ending.reverse.isPrefixOf name.reverse then
    name.take (name.length - ending.length)
  else name

def baseName : Tool :=
  withOptions { plain := "az", valued := "s", long := [("multiple", 'a'), ("suffix", 's')],
                anywhere := false } 1 fun p a =>
    let several := a.has 'a' ∨ a.has 's'
    match a.words with
    | [] => misused p 1 "missing operand".toList
    | _ =>
      if several then
        answer p (a.words.flatMap fun w =>
          withoutEnding ((a.value? 's').getD []) (lastNameOf w) ++ ['\n'])
      else
        match a.words with
        | [w] => answer p (lastNameOf w ++ ['\n'])
        | [w, ending] => answer p (withoutEnding ending (lastNameOf w) ++ ['\n'])
        | ws => misused p 1 ("extra operand ".toList ++ quoted (ws[2]?.getD []))

def directoryName : Tool := withOptions { plain := "z" } 1 fun p a =>
  if a.words = [] then misused p 1 "missing operand".toList
  else answer p (a.words.flatMap fun w => directoryOf w ++ ['\n'])

def workingDirectory : Tool := withOptions { plain := "LP" } 1 fun p _ =>
  answer p (Machine.Path.ofPlace p.here ++ ['\n'])

/-- What links lead to: the text of a link, or the place in the end. -/
def readLink (always : Bool) : Tool := withOptions { plain := "fenmqsvz" } 1 fun p a => do
  if a.words = [] then misused p 1 "missing operand".toList
  else
    let d := (← get).disk
    let texts := a.words.map fun w =>
      if always ∨ a.has 'f' ∨ a.has 'e' ∨ a.has 'm' then
        match d.resolveNew p.here w with
        | .ok place => some (Machine.Path.ofPlace place)
        | .error _ => none
      else
        match (resolveLast d p.here w).toOption.bind d.node? with
        | some (.link target) => some target
        | _ => none
    say p (texts.flatMap fun t => (t.map fun t => if a.has 'n' then t else t ++ ['\n']).getD [])
    exit (if texts.all Option.isSome then 0 else 1)

end SessionControl.Programs
