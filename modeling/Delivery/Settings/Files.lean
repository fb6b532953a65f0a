import Delivery.Document.Records

/-!
# Finding the settings

The settings are in a file that is named on the command line, or by a variable of the environment,
or that lies in one of two usual places. A file that is named has to be there.
-/

namespace Delivery

inductive FileNode where
  | file (content : String)
  | directory
  | unreadable (reason : String)
  deriving DecidableEq, Repr

structure Files (m : Type → Type) where
  node? : (path : String) → m (Option FileNode)

/-! ### File trees -/

structure FileTree where
  files : List (String × String) := []
  directories : List String := []
  deriving DecidableEq, Repr, Inhabited

namespace FileTree

def parts (path : String) : List String := path.splitOn "/"

def nodeAt? (t : FileTree) (here : List String) : Option FileNode :=
  match t.files.find? fun f => parts f.1 == here with
  | some f => some (.file f.2)
  | none =>
    let holds (path : String) : Bool := here.isPrefixOf (parts path)
    if here.isEmpty || t.directories.any holds || t.files.any fun f => holds f.1 then
      some .directory
    else none

def follow (t : FileTree) : (here rest : List String) → Option FileNode
  | here, [] => t.nodeAt? here
  | here, part :: rest =>
    match t.nodeAt? here with
    | some .directory =>
      if part = "" ∨ part = "." then follow t here rest
      else if part = ".." then
        if here.isEmpty then none else follow t here.dropLast rest
      else follow t (here ++ [part]) rest
    | _ => none

/-- The node under a path. Nothing is known about what lies outside the tree. -/
def node? (t : FileTree) (path : String) : Option FileNode :=
  if path = "" ∨ path.startsWith "/" then none else t.follow [] (parts path)

def toFiles (t : FileTree) : Files Id := ⟨t.node?⟩

end FileTree

/-! ### Settings files -/

namespace CourierSettings

variable {m : Type → Type} [Monad m]

def fileVariable : String := "DISPATCH_CONFIG"

def usualPaths : List String := ["./dispatch.config.ron", "/etc/dispatch/dispatch.config.ron"]

def notFound : String :=
  "\n".intercalate
    ("No configuration file found. Tried:" ::
      ("--config argument" :: (fileVariable ++ " environment variable") :: usualPaths).map
        ("  - " ++ ·))

def firstPresent (files : Files m) : List String → m (Option String)
  | [] => return none
  | path :: rest => do
    if (← files.node? path).isSome then return some path else firstPresent files rest

def findFile (files : Files m) (named fromEnv : Option String) : m (Except String String) := do
  match named, fromEnv with
  | some path, _ =>
    if (← files.node? path).isSome then return .ok path
    return .error ("Config file does not exist: " ++ path)
  | none, some path =>
    if (← files.node? path).isSome then return .ok path
    return .error (fileVariable ++ " points to non-existent file: " ++ path)
  | none, none =>
    match ← firstPresent files usualPaths with
    | some path => return .ok path
    | none => return .error notFound

inductive LoadError where
  | unreadable (message : String)
  | malformed (path : String)
  deriving DecidableEq, Repr

def LoadError.message : LoadError → String
  | unreadable message => message
  | malformed path => "Failed to parse config " ++ path

def load (files : Files m) (path : String) : m (Except LoadError CourierSettings) := do
  let refuse (reason : String) : Except LoadError CourierSettings :=
    .error (.unreadable ("Failed to read config from " ++ path ++ ": " ++ reason))
  match ← files.node? path with
  | some (.file content) =>
    match Document.read? Document.courierSettings content with
    | some settings => return .ok settings
    | none => return .error (.malformed path)
  | some .directory => return refuse "Is a directory (os error 21)"
  | some (.unreadable reason) => return refuse reason
  | none => return refuse "No such file or directory (os error 2)"

end CourierSettings

end Delivery
