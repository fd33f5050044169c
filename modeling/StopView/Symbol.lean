import StopView.Symbol.Structured

/-!
# Symbol names

Linkers know symbols by encoded names.  Hashed and structured names are shown in
readable form; every other name is shown as it is.

A name may carry a suffix: words behind dots, added after encoding.  The suffix of a
link-time copy is dropped, any other suffix is kept, and a name with anything else
behind its encoded part is not taken for an encoded one.
-/

namespace StopView.Symbol

/-- What marks a link-time copy. -/
def copyMark : List Char :=
  ".llvm.".toList

/-- Whether a character occurs in the number of a link-time copy. -/
def isCopyDigit (c : Char) : Bool :=
  c.isDigit || ('A' ≤ c && c ≤ 'F') || c = '@'

/-- The part before the first occurrence of a mark, and the part after it. -/
def splitFirst? (mark : List Char) : List Char → Option (List Char × List Char)
  | [] => if mark.isEmpty then some ([], []) else none
  | c :: rest =>
      if mark.isPrefixOf (c :: rest) then
        some ([], (c :: rest).drop mark.length)
      else
        (splitFirst? mark rest).map fun found => (c :: found.1, found.2)

/-- A name without the suffix of a link-time copy. -/
def withoutCopyMark (name : List Char) : List Char :=
  match splitFirst? copyMark name with
  | some (before, after) => if after.all isCopyDigit then before else name
  | none => name

/-- Whether a suffix may follow an encoded name. -/
def isSuffix (suffix : List Char) : Bool :=
  match suffix with
  | [] => true
  | c :: _ => c == '.' && suffix.all fun c => 0x20 < c.toNat && c.toNat < 0x7f

/-- The readable form of an encoded name, its suffix included. -/
def decode? (name : List Char) : Option (List Char) :=
  match (Hashed.read? name).or (Structured.read? name) with
  | some (shown, suffix) => if isSuffix suffix then some (shown ++ suffix) else none
  | none => none

/-- A symbol's name as it is shown. -/
def display (name : String) : String :=
  match decode? (withoutCopyMark name.toList) with
  | some shown => String.ofList shown
  | none => name

end StopView.Symbol
