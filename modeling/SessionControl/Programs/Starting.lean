import SessionControl.Programs.Answering
import SessionControl.Programs.Characters
import SessionControl.Programs.Lines
import SessionControl.Programs.Places
import SessionControl.Programs.Wrapping
import SessionControl.Shell.Program

set_option autoImplicit false

/-! # Starting programs

Which programs there are, and what starting the file at a path does: a file that is marked as a
program is that program, a script is given to the program that its first line names, and anything
else cannot be started. -/

namespace SessionControl.Programs

open Machine (Process Work Fate Launcher Node Disk)

namespace Starting

/-! ## The programs -/

/-- The programs by their names. -/
def tools (launch : Launcher) : List (String × Tool) :=
  [("true", Answering.always 0), ("false", Answering.always 1), ("echo", Answering.echo),
   ("printf", Answering.printf), ("test", Answering.test false), ("[", Answering.test true),
   ("yes", Answering.yes), ("whoami", Answering.whoAmI), ("id", Answering.identity),
   ("uname", Answering.systemName), ("tty", Answering.terminal), ("sync", Answering.always 0),
   ("cat", Concatenate.tool), ("head", Ends.tool Ends.first), ("tail", Ends.tool Ends.last),
   ("wc", Count.tool), ("tac", tac), ("rev", rev), ("nl", nl), ("tee", tee),
   ("sort", Sorting.tool), ("uniq", Unique.tool), ("seq", Sequence.tool),
   ("tr", Translate.tool), ("cut", Cut.tool),
   ("mkdir", makeDirectory), ("rmdir", removeDirectory), ("rm", remove), ("touch", touch),
   ("cp", copy), ("mv", move), ("ln", link), ("chmod", changeMode), ("ls", list),
   ("basename", baseName), ("dirname", directoryName), ("pwd", workingDirectory),
   ("readlink", readLink false), ("realpath", readLink true),
   ("env", Wrapping.withVariables launch), ("printenv", Wrapping.showVariables),
   ("sleep", Wrapping.sleep), ("timeout", Wrapping.timeout launch), ("nice", Wrapping.nice launch),
   ("nohup", Wrapping.nohup launch), ("xargs", Wrapping.eachWord launch),
   ("sh", Shell.Program.run launch), ("dash", Shell.Program.run launch),
   ("bash", Shell.Program.run launch)]

/-- The names of all programs. -/
def names : List String := (tools fun _ _ => return .error .notFound).map (·.1)

/-- How the file of a program begins. What is there is no text. -/
def mark : Bytes := ['\x7f', 'E', 'L', 'F', '\xff']

/-- The file of a program. -/
def fileOf (name : String) : Node := .file (mark ++ name.toList) true

/-! ## Starting files -/

/-- The program and the word that the first line of a script names. -/
def interpreter? (contents : Bytes) : Option (List Bytes) :=
  match contents with
  | '#' :: '!' :: rest =>
    let line := (rest.takeWhile (· ≠ '\n')).dropWhile Ascii.isBlank
    let name := line.takeWhile fun c => !Ascii.isBlank c
    let more := (line.drop name.length).dropWhile Ascii.isBlank
    let more := (more.reverse.dropWhile Ascii.isBlank).reverse
    if name = [] then none else some (if more = [] then [name] else [name, more])
  | _ => none

/-- Starts the file at a path, given how programs are launched by it. -/
def startWith (launch : Launcher) : Launcher := fun path p => do
  let disk := (← get).disk
  match disk.find p.here path with
  | .error f => return .error f
  | .ok (.file contents true) =>
    if mark.isPrefixOf contents then
      let name := String.ofList (contents.drop mark.length)
      match (tools launch).find? fun t => t.1 = name with
      | some (_, tool) => return .ok (← tool p)
      | none => return .error .notAProgram
    else
      match interpreter? contents with
      | some (program :: more) =>
        launch program { p with words := program :: more ++ path :: p.words.tail }
      | _ => return .error .notAProgram
  | .ok _ => return .error .denied

/-- Starts programs that start programs, down to a depth. -/
def launcher : Nat → Launcher
  | 0 => fun _ _ => return .error .tooManyArguments
  | depth + 1 => startWith (launcher depth)

/-- The depth down to which programs start programs. -/
def depthLimit : Nat := 100

end Starting

/-! ## The machine -/

namespace Installation

/-- The directories in which programs are looked for. -/
def programDirectories : Bytes :=
  ("/usr/local/cargo/bin:/usr/local/sbin:/usr/local/bin:" ++
    "/usr/sbin:/usr/bin:/sbin:/bin").toList

/-- The names of a path from the root. -/
def place (path : String) : Machine.Place := Machine.Path.names path.toList

/-- The directories that there are without anybody's doing. -/
def directories : List String :=
  ["/boot", "/usr/bin", "/usr/sbin", "/usr/lib", "/usr/lib64", "/usr/local/bin", "/usr/local/sbin",
   "/usr/local/cargo/bin", "/usr/share", "/etc", "/dev", "/home", "/media", "/mnt", "/opt", "/proc",
   "/root", "/run", "/srv", "/sys", "/tmp", "/var/lib", "/var/log", "/var/tmp"]

/-- The links that there are without anybody's doing. -/
def links : List (String × String) :=
  [("/bin", "usr/bin"), ("/sbin", "usr/sbin"), ("/lib", "usr/lib"), ("/lib64", "usr/lib64")]

/-- A disk with the programs on it. -/
def disk : Disk :=
  let d := directories.foldl (fun d path => d.ensureDirectory (place path)) (⟨[]⟩ : Disk)
  let d := links.foldl (fun d (path, target) => d.put (place path) (.link target.toList)) d
  let d := d.put (place "/dev/null") .sink
  Starting.names.foldl (fun d name => d.put (place "/usr/bin" ++ [name.toList]) (Starting.fileOf name))
    d

end Installation
end SessionControl.Programs
