import TraceSnapshot.Register
import TraceSnapshot.Text.Path

/-!
# Devices

A device file describes one device: its name and kind, the values of its registers and the
memory regions that were saved for it, one in every section whose name starts with `dump`.
-/

namespace TraceSnapshot

/-- A saved memory region. The address is kept as it was written and as a number. -/
structure MemoryDump where
  sectionName : Text
  file : Text
  address : Text
  addressValue : Nat
  space : Text
  length : Text
  offset : Text
  deriving DecidableEq, Repr

structure Device where
  name : Text
  iniPath : Text
  className : Text
  typeName : Text
  location : Text
  registers : List Register
  dumps : List MemoryDump
  deriving DecidableEq, Repr

namespace Device

/-- What may be wrong with a device file. Each defect names the file as the manifest does. -/
inductive Defect where
  | missingSection (path : Text)
  | missingName (path : Text)
  | duplicateName (path : Text)
  | invalidAddress (address path sectionName : Text)
  | incompleteDump (path sectionName : Text)
  | overlongNumeral (digits : Nat)
  deriving DecidableEq, Repr

/-- A defect as a failure about the file `source`. A numeral that is too long to be read is
no fault of the file. -/
def Defect.failure (source : Text) : Defect → Failure
  | missingSection path =>
    .reported ⟨.missingSection, "device ini missing [device] section: ".toList ++ path,
      source, .error⟩
  | missingName path =>
    .reported ⟨.missingKey, "device ini missing [device] name: ".toList ++ path,
      source, .error⟩
  | duplicateName path =>
    .reported ⟨.duplicateKey, "duplicate name key in [device]: ".toList ++ path,
      source, .error⟩
  | invalidAddress address path sectionName =>
    .reported ⟨.invalidValue, "invalid dump address '".toList ++ address ++ "' in ".toList ++
      path ++ "/".toList ++ sectionName, source, .error⟩
  | incompleteDump path sectionName =>
    .reported ⟨.missingKey, "dump section missing file or address: ".toList ++ path ++
      "/".toList ++ sectionName, source, .error⟩
  | overlongNumeral digits => .aborted (.overlongNumeral digits)

/-- An address as it was written, with its value. -/
def readAddress (path sectionName value : Text) : Except Defect (Text × Nat) :=
  let address := Text.trim value
  match Unsigned.read address with
  | .error overlong => .error (.overlongNumeral overlong.digits)
  | .ok none => .error (.invalidAddress address path sectionName)
  | .ok (some number) => .ok (address, number)

/-- The memory dump of a section. Of a repeated key the last value counts, but every address
has to be a number. -/
def readDump (d : Ini.Document) (path sectionName : Text) : Except Defect MemoryDump := do
  let last (key : String) := d.last? sectionName key.toList
  let addresses ←
    (d.values sectionName "address".toList).mapM (readAddress path sectionName)
  match last "file", addresses.getLast? with
  | some file, some (address, addressValue) =>
    return {
      sectionName
      file := Path.normalize (Text.unquoted file)
      address
      addressValue
      space := Text.unquoted ((last "space").getD [])
      length := Text.trim ((last "length").getD [])
      offset := Text.trim ((last "offset").getD []) }
  | _, _ => throw (.incompleteDump path sectionName)

def isDumpName (name : Text) : Bool := "dump".toList.isPrefixOf name

def readDumps (d : Ini.Document) (path : Text) : Except Defect (List MemoryDump) :=
  (d.names.filter isDumpName).mapM (readDump d path)

def readRegisters (d : Ini.Document) : Except Defect (List Register) :=
  (Register.ofEntries (d.entries "regs".toList)).mapError fun overlong =>
    .overlongNumeral overlong.digits

/-- The device that a file describes, with its registers and dumps in the order of the file.
The name has to be given exactly once. -/
def ofDocument (d : Ini.Document) (declaredPath : Text) : Except Defect Device :=
  let path := Path.normalize declaredPath
  if d.hasSection "device".toList then
    match d.values "device".toList "name".toList with
    | [] => .error (.missingName path)
    | [name] => do
      let last (key : String) := (d.last? "device".toList key.toList).getD []
      let dumps ← readDumps d path
      let registers ← readRegisters d
      return {
        name
        iniPath := path
        className := last "class"
        typeName := last "type"
        location := last "location"
        registers
        dumps }
    | _ :: _ :: _ => .error (.duplicateName path)
  else
    .error (.missingSection path)

end Device

end TraceSnapshot
