import StopView.Proofs.Register.History

/-!
# Parts of a register's line

The line of a register has a head, which ends with the value itself, and the tail of the
pointer chain that the value starts.  Only the tail depends on the words in memory.  A flag
register has no tail.
-/

namespace StopView

/-- Texts between which a separator stands: the first, and the separator before each other. -/
theorem intercalate_cons_eq_append (separator first : String) (rest : List String) :
    separator.intercalate (first :: rest) =
      first ++ String.join (rest.map fun text => separator ++ text) := by
  induction rest generalizing first with
  | nil => simp [String.join]
  | cons second rest ih =>
      rw [String.intercalate_cons_cons, ih second, List.map_cons, String.join_cons]
      simp only [String.append_assoc]

/-- What follows the value in a pointer chain. -/
def chainTail (inspector : Inspector) (palette : Palette) (value : UInt64) : String :=
  let chain := followChain inspector.wordAt? chainLimit [value] value
  String.join (chain.words.map fun word => " —▸ " ++ describeWord inspector palette word) ++
    match chain.back with
    | some word => " ◂— " ++ palette.paint .pointer (hex word.toNat)
    | none => ""

theorem describeChain_eq_append (inspector : Inspector) (palette : Palette) (value : UInt64) :
    describeChain inspector palette value =
      describeWord inspector palette value ++ chainTail inspector palette value := by
  rw [describeChain, chainTail, List.map_cons, intercalate_cons_eq_append, List.map_map,
    String.append_assoc]
  rfl

/-- A bit that is not shown as flipped: its name, in upper case when it is set. -/
def steadyToken (palette : Palette) (value : UInt64) (bit : FlagBit) : String :=
  if bitSet value bit.position then palette.paint .flagSet (Text.upper bit.name)
  else palette.paint .flagUnset (Text.lower bit.name)

/-- A flag register none of whose bits is shown as flipped. -/
def steadyFlags (palette : Palette) (value : UInt64) (register : FlagRegister) : String :=
  let shown := palette.paint .flagValue (hex value.toNat)
  if register.bits.isEmpty then
    shown
  else
    shown ++ " [ " ++ " ".intercalate (register.bits.map (steadyToken palette value)) ++ " ]"

theorem describeFlags_self (palette : Palette) (value : UInt64) (register : FlagRegister) :
    describeFlags palette value register (some value) = steadyFlags palette value register := by
  have token : flagToken palette value (some value) = steadyToken palette value := by
    funext bit
    simp [flagToken, bitFlipped, steadyToken]
  rw [describeFlags, token, steadyFlags]

namespace Inspector

variable (inspector : Inspector) (settings : Settings) (palette : Palette) (previous : Snapshot)

/-- The registers that a view shows, with their values. -/
def shownRegisters (asked : Option (List String)) : List (String × UInt64) :=
  (selectedRegisters inspector settings asked).filterMap fun name =>
    (inspector.seen? name).map fun value => (name, value)

/-- The flag register of a name. -/
def flagRegister? (name : String) : Option FlagRegister :=
  inspector.flagRegisters.find? fun register => register.name == name

/-- The line of a register up to its value. -/
def registerHead (item : String × UInt64) : String :=
  changeMarker settings palette (inspector.snapshot.changed previous item.1) ++
    palette.paint .register (Text.padRight 4 (Text.upper item.1)) ++ " " ++
    match inspector.flagRegister? item.1 with
    | some register => describeFlags palette item.2 register (previous.get? item.1)
    | none => describeWord inspector palette item.2

/-- The line of a register after its value. -/
def registerTail (item : String × UInt64) : String :=
  match inspector.flagRegister? item.1 with
  | some _ => ""
  | none => chainTail inspector palette item.2

theorem registerLine_eq_append (name : String) (value : UInt64) :
    registerLine inspector settings palette previous inspector.snapshot name value =
      inspector.registerHead settings palette previous (name, value) ++
        inspector.registerTail palette (name, value) := by
  rw [registerLine, registerHead, registerTail, describeRegister, flagRegister?]
  cases inspector.flagRegisters.find? fun register => register.name == name with
  | some register => rw [String.append_empty]
  | none => simp only [describeChain_eq_append, String.append_assoc]

/-- The register view has a line for every register that it shows. -/
theorem value_renderRegisters (asked : Option (List String)) :
    (renderRegisters inspector settings palette previous asked).value =
      (inspector.shownRegisters settings asked).map fun item =>
        inspector.registerHead settings palette previous item ++
          inspector.registerTail palette item := by
  have each : ∀ name, (registerLines inspector settings palette previous inspector.snapshot
      name).value = ((inspector.seen? name).map fun value =>
        inspector.registerHead settings palette previous (name, value) ++
          inspector.registerTail palette (name, value)).toList := by
    intro name
    rw [registerLines, inspector.get?_snapshot]
    by_cases known : name ∈ inspector.knownRegisters
    · rw [if_pos (List.contains_iff_mem.mpr known)]
      cases inspector.seen? name with
      | none => rfl
      | some value =>
          rw [Noted.value_pure, Option.map_some, Option.toList_some, registerLine_eq_append]
    · have unseen : inspector.seen? name = none := if_neg known
      rw [if_neg (mt List.contains_iff_mem.mp known), unseen]
      rfl
  rw [renderRegisters, Noted.value_flatMap, shownRegisters, List.map_filterMap]
  simp only [each, Option.map_map, Function.comp_def]
  rw [List.filterMap_eq_flatMap_toList]

/-- The line of a register that has kept its value: blanks where the marker would be, and no
bit shown as flipped. -/
def steadyLine (item : String × UInt64) : String :=
  Text.blankLike settings.changedMarker ++
    palette.paint .register (Text.padRight 4 (Text.upper item.1)) ++ " " ++
    match inspector.flagRegister? item.1 with
    | some register => steadyFlags palette item.2 register
    | none => describeChain inspector palette item.2

/-- After a snapshot of what can be seen now, every register has kept its value. -/
theorem value_renderRegisters_snapshot (asked : Option (List String)) :
    (renderRegisters inspector settings palette inspector.snapshot asked).value =
      (inspector.shownRegisters settings asked).map (inspector.steadyLine settings palette) := by
  rw [value_renderRegisters]
  apply List.map_congr_left
  rintro ⟨name, value⟩ shown
  obtain ⟨selected, -, found⟩ := List.mem_filterMap.mp shown
  obtain ⟨word, seen, pair⟩ := Option.map_eq_some_iff.mp found
  cases pair
  rw [← registerLine_eq_append, registerLine, Snapshot.changed_self, changeMarker,
    describeRegister, inspector.get?_snapshot, seen]
  simp only [describeFlags_self]
  rfl

end Inspector

end StopView
