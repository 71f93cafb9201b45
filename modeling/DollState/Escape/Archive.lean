import DollState.Import.Stage
import DollState.Library.JsonEncode
import DollState.Library.JsonLoads

/-!
# What the inspector reads

The model of what `shutdown_escape_inspector` rests on: archives as `zipfile` reads them, paths as
`PurePosixPath` reads them, JSON documents, and when two of their values are equal. Strings are those
of Python, with unpaired surrogates, since a document may hold one.
-/

namespace DollState.Escape

open StateLib JsonText Import

/-! ## Errors -/

/-- The exceptions that an inspection may end with: `EscapeInspectionError`, an `OSError` of the file
system, and those that the inspector does not expect. -/
inductive ErrorKind where
  | inspection | fileSystem | archive | recursion | index | key
deriving DecidableEq, Repr

structure InspectError where
  kind : ErrorKind
  message : String
deriving DecidableEq, Repr

abbrev Inspected (α : Type) := Except InspectError α

/-- `EscapeInspectionError(message)`. -/
def inspection (message : String) : InspectError := ⟨.inspection, message⟩

/-- The `IndexError` of `path.parts[0]`. -/
def indexError : InspectError := ⟨.index, "tuple index out of range"⟩

/-! ## Archives -/

/-- What `zipfile` raises, by the class that a handler names: an `OSError`, a `RuntimeError`, a
`ValueError`, a `BadZipFile`, and any other exception, such as the one of `zlib`. -/
inductive ArchiveError where
  | os | runtime | value | badZipFile | other
deriving DecidableEq, Repr

/-- `zipfile.ZipInfo`; its sizes are read as unsigned numbers. -/
structure Info where
  filename : Str
  externalAttr : Nat
  fileSize : Nat
  compressSize : Nat

/-- The value of a float. -/
inductive FloatValue where
  | finite (q : Rat)
  | infinite (negative : Bool)
deriving DecidableEq

/-- The parts of Python's library and interpreter that an inspection rests on. -/
class EscapeLibrary where
  /-- `str.casefold`. -/
  casefold : Str → Str
  /-- `hashlib.sha256`. -/
  sha256 : ByteArray → Digest
  /-- `zipfile.ZipFile(…)` and its `infolist()`. -/
  infolist : ByteArray → Except ArchiveError (List Info)
  /-- `archive.read`. -/
  read : ByteArray → Info → Except ArchiveError ByteArray
  /-- The float of a literal. -/
  floatValue : List Char → FloatValue
  /-- How many containers inside one another the JSON decoder enters. -/
  decodeLevels : Nat

/-- The members of an archive by their names. -/
abbrev Members := List (Str × ByteArray)

/-- `info.is_dir()`. -/
def Info.isDir (info : Info) : Bool := info.filename.getLast? = some (.scalar '/')

/-- `stat.S_IFMT(info.external_attr >> 16)`. -/
def Info.fileType (info : Info) : Nat := (info.externalAttr >>> 16) &&& 0o170000

def regularFile : Nat := 0o100000
def symbolicLink : Nat := 0o120000

/-- Neither a directory nor a link nor anything else but a file. -/
def Info.isRegular (info : Info) : Bool :=
  !info.isDir && info.fileType ≠ symbolicLink && info.fileType ∈ [0, regularFile]

section

variable [EscapeLibrary]

/-- `{info.filename: archive.read(info) for info in infos}`, for distinct names. -/
def readAll (bundle : ByteArray) (infos : List Info) : Except ArchiveError Members :=
  infos.mapM fun info => do
    let content ← EscapeLibrary.read bundle info
    return (info.filename, content)

/-- `hashlib.sha256(content).hexdigest()`. -/
def hexdigest (content : ByteArray) : Str := Str.ofText (EscapeLibrary.sha256 content).hex

end

/-! ## Paths -/

def slash : CodePoint := .scalar '/'

/-- `_DRIVE_PATH.match`. -/
def isDrivePath : Str → Bool
  | .scalar c :: .scalar ':' :: _ => c.isAlpha
  | _ => false

/-- `PurePosixPath(value).parts`, for a value that does not begin with a slash. -/
def pathParts (value : Str) : List Str :=
  (value.splitOn slash).filter fun part => part ≠ [] ∧ part ≠ key "."

/-- `PurePosixPath(value).as_posix()`, for such a value. -/
def asPosix (value : Str) : Str :=
  if pathParts value = [] then key "." else [slash].intercalate (pathParts value)

/-- The checks of `_member_name` and `_inner_member_name` that a path is relative and stays inside. -/
def isSafePath (value : Str) : Bool :=
  value ≠ [] && !value.contains (.scalar '\\') && !isDrivePath value &&
    value.head? ≠ some slash && (pathParts value).all fun part =>
      part ≠ [] && part ≠ key "." && part ≠ key ".."

def ROOT : Str := key "doll-shutdown-escape"
def CHECKSUMS : Str := ROOT ++ key "/checksums.json"
def MANIFEST : Str := ROOT ++ key "/manifest.json"

/-- `_member_name`. -/
def memberName (value : Str) : Inspected Str := do
  ensure (isSafePath value = true) (inspection "shutdown escape member path is unsafe")
  match pathParts value with
  | [] => .error indexError
  | root :: _ => do
    ensure (root = ROOT) (inspection "shutdown escape member root is invalid")
    return asPosix value

/-! ## Documents -/

/-- `document.get(name)`. -/
def get (document : List (Str × Value Str)) (name : String) : Value Str :=
  (document.lookup (key name)).getD .null

section

variable [EscapeLibrary]

/-- The number that a value is. -/
def numeric : Value Str → Option FloatValue
  | .bool b => some (.finite (if b then 1 else 0))
  | .int i => some (.finite i)
  | .float literal => some (EscapeLibrary.floatValue literal)
  | _ => none

mutual

/-- `v == w`. The keys of a dictionary are distinct, so it is enough to go through those of the second
of two with the same length. -/
def pyEq : Value Str → Value Str → Bool
  | v, .null => match v with
    | .null => true
    | _ => false
  | v, .str t => match v with
    | .str s => s = t
    | _ => false
  | v, .arr ws => match v with
    | .arr vs => pyEqAll vs ws
    | _ => false
  | v, .obj fs => match v with
    | .obj es => es.length = fs.length && pyEqEntries es fs
    | _ => false
  | v, .bool b => numeric v = some (.finite (if b then 1 else 0))
  | v, .int i => numeric v = some (.finite i)
  | v, .float literal => numeric v = some (EscapeLibrary.floatValue literal)

def pyEqAll : List (Value Str) → List (Value Str) → Bool
  | [], [] => true
  | v :: vs, w :: ws => pyEq v w && pyEqAll vs ws
  | _, _ => false

/-- Every entry of the second dictionary is in the first. -/
def pyEqEntries : List (Str × Value Str) → List (Str × Value Str) → Bool
  | _, [] => true
  | es, (k, w) :: fs => (match es.lookup k with
    | some v => pyEq v w
    | none => false) && pyEqEntries es fs

end

example : pyEq (.arr [.bool true]) (.arr [.int 1]) = true := by simp [pyEq, pyEqAll, numeric]

/-- The text of a document as `json.loads` reads it, without its constants. -/
def loadDocument (text : Text) : Loads (Value Str) :=
  loads rejectConstant EscapeLibrary.decodeLevels text

/-- `_json_object`. -/
def jsonObject (content : ByteArray) (name : String) : Inspected (List (Str × Value Str)) :=
  match decodeUtf8 content with
  | none => .error (inspection s!"{name} is not valid JSON")
  | some text =>
    match loadDocument text with
    | .ok (.obj entries) => .ok entries
    | .ok _ => .error (inspection s!"{name} must be a JSON object")
    | .error .recursion => .error ⟨.recursion, "maximum recursion depth exceeded"⟩
    | .error _ => .error (inspection s!"{name} is not valid JSON")

end

end DollState.Escape
