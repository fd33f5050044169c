import StopView.Chain
import StopView.Notice
import StopView.Register.Flags
import StopView.Register.Snapshot
import StopView.Settings

/-!
# The register view

One line shows one register: a marker if its value has changed since the last view,
its name, and its value.  Registers that the inspector does not know or cannot read
are left out with a warning.

Every view takes a snapshot of all known registers, whichever are shown, so that the
next view compares with the moment of this one.
-/

namespace StopView

/-- The values of all registers that an inspector knows and can read. -/
def Inspector.snapshot (inspector : Inspector) : Snapshot :=
  Snapshot.take inspector.knownRegisters fun name => (inspector.registerValue name).toOption

/-- The registers asked for, or the default ones, and the flag registers if they are to
be shown. -/
def selectedRegisters (inspector : Inspector) (settings : Settings)
    (asked : Option (List String)) : List String :=
  let explicit := asked.getD []
  let names :=
    if explicit.isEmpty then inspector.layout.defaultSelection settings.showReturnAddress
    else explicit
  if settings.showFlags then names ++ inspector.flagRegisters.map FlagRegister.name else names

/-- The marker in front of a register, or as many spaces. -/
def changeMarker (settings : Settings) (palette : Palette) (changed : Bool) : String :=
  if changed then palette.paint .registerChanged settings.changedMarker
  else Text.blankLike settings.changedMarker

/-- A register's value: bits for a flag register, a pointer chain for any other. -/
def describeRegister (inspector : Inspector) (palette : Palette) (previous : Snapshot)
    (name : String) (value : UInt64) : String :=
  match inspector.flagRegisters.find? fun register => register.name == name with
  | some register => describeFlags palette value register (previous.get? name)
  | none => describeChain inspector palette value

/-- The line of a register that could be read. -/
def registerLine (inspector : Inspector) (settings : Settings) (palette : Palette)
    (previous current : Snapshot) (name : String) (value : UInt64) : String :=
  changeMarker settings palette (current.changed previous name) ++
    palette.paint .register (Text.padRight 4 (Text.upper name)) ++ " " ++
    describeRegister inspector palette previous name value

/-- The line of a register, or the reason why there is none. -/
def registerLines (inspector : Inspector) (settings : Settings) (palette : Palette)
    (previous current : Snapshot) (name : String) : Noted (List String) :=
  if inspector.knownRegisters.contains name then
    match current.get? name with
    | some value =>
        pure [registerLine inspector settings palette previous current name value]
    | none => ⟨[], [.registerUnreadable name]⟩
  else
    ⟨[], [.registerUnknown name]⟩

/-- The lines of the register view after an earlier snapshot. -/
def renderRegisters (inspector : Inspector) (settings : Settings) (palette : Palette)
    (previous : Snapshot) (asked : Option (List String)) : Noted (List String) :=
  Noted.flatMap (selectedRegisters inspector settings asked)
    (registerLines inspector settings palette previous inspector.snapshot)

end StopView
