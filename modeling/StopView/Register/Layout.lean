/-!
# Register layouts

A layout groups the registers of an architecture: those for general use, the frame
and stack pointers, those that hold a return address, the program counter, and the
flag registers with the names of their bits.
-/

namespace StopView

/-- One named bit of a flag register. -/
structure FlagBit where
  name : String
  position : Nat
deriving Repr, DecidableEq

/-- A flag register and its named bits, in the order in which they are shown. -/
structure FlagRegister where
  name : String
  bits : List FlagBit
deriving Repr, DecidableEq

/-- The registers of an architecture, by their use. -/
structure RegisterLayout where
  general : List String
  frame : Option String
  stack : String
  pc : String
  returnAddress : List String
  flags : List FlagRegister
deriving Repr, DecidableEq

namespace RegisterLayout

/-- The 64-bit registers of the x86 family. -/
def x86 : RegisterLayout where
  general :=
    ["rax", "rbx", "rcx", "rdx", "rdi", "rsi", "r8", "r9", "r10", "r11", "r12", "r13", "r14",
      "r15"]
  frame := some "rbp"
  stack := "rsp"
  pc := "rip"
  returnAddress := []
  flags :=
    [⟨"eflags", [⟨"cf", 0⟩, ⟨"pf", 2⟩, ⟨"af", 4⟩, ⟨"zf", 6⟩, ⟨"sf", 7⟩, ⟨"if", 9⟩, ⟨"df", 10⟩,
      ⟨"of", 11⟩]⟩]

/-- The 64-bit registers of the ARM family.  The frame pointer and the link register
are not counted among the general ones. -/
def arm : RegisterLayout where
  general := (List.range 29).map fun index => "x" ++ toString index
  frame := some "x29"
  stack := "sp"
  pc := "pc"
  returnAddress := ["x30"]
  flags := [⟨"cpsr", [⟨"n", 31⟩, ⟨"z", 30⟩, ⟨"c", 29⟩, ⟨"v", 28⟩]⟩]

/-- The registers shown when none are asked for. -/
def defaultSelection (layout : RegisterLayout) (showReturnAddress : Bool) : List String :=
  layout.general ++ layout.frame.toList ++ [layout.stack] ++
    (if showReturnAddress then layout.returnAddress else []) ++ [layout.pc]

/-- The registers that a target with this layout can read, unless it says otherwise. -/
def readable (layout : RegisterLayout) (flags : List FlagRegister) : List String :=
  layout.general ++ layout.frame.toList ++ [layout.stack] ++ layout.returnAddress ++
    [layout.pc] ++ flags.map FlagRegister.name

/-- Every register of the default selection can be read. -/
theorem mem_readable_of_mem_defaultSelection {layout : RegisterLayout} {showReturnAddress : Bool}
    {name : String} (flags : List FlagRegister)
    (selected : name ∈ layout.defaultSelection showReturnAddress) :
    name ∈ layout.readable flags := by
  cases showReturnAddress <;> simp [defaultSelection, readable] at selected ⊢ <;> grind

end RegisterLayout

end StopView
