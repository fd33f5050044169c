import StopView.Proofs.Symbol.Writing
import StopView.Symbol

/-!
# Symbol names without escapes

A symbol whose name has no escapes is shown without escapes, in whatever way its name is
encoded.  The functions that write a structured name call each other; they are clean with
any amount of fuel, because each of them is clean if the others are clean with less.
-/

namespace StopView.Symbol

open Text

namespace Structured

open Writer

/-! ## Parts without further parts -/

theorem clean_unsigned : unsigned.Clean := by
  apply clean_reading Reader.takes_hexNibbles
  intro nibbles free
  split
  · exact clean_put (escapeFree_toString _)
  · exact clean_then (clean_put (by decide)) (clean_put (escapeFree_ofList free))

theorem clean_textLiteral : textLiteral.Clean := by
  apply clean_reading Reader.takes_hexNibbles
  intro nibbles _
  split
  · exact clean_literal (by decide) _
  · exact clean_fault _

theorem escapeFree_namespaceName {tag : Char} (other : tag ≠ escape) :
    EscapeFree (namespaceName tag) := by
  rw [namespaceName]
  split
  · decide
  · split
    · decide
    · exact escapeFree_toString_char other

theorem clean_nestedName {tag : Option Char} (other : ∀ c, tag = some c → c ≠ escape)
    (number : Nat) {name : Ident} (free : name.EscapeFree) :
    (nestedName tag number name).Clean := by
  cases tag with
  | none =>
      rw [nestedName]
      split
      · exact clean_then (clean_put (by decide)) (clean_ident free)
      · exact .of_pure trivial
  | some tag =>
      have number : (do
          put "#"
          put (toString number)
          put "\x7d" : Writer Unit).Clean :=
        clean_then (clean_put (by decide)) <|
        clean_then (clean_put (escapeFree_toString number)) (clean_put (by decide))
      apply clean_then (clean_put (by decide))
      apply clean_then (clean_put (escapeFree_namespaceName (other tag rfl)))
      split
      · exact clean_then (clean_put (by decide)) (clean_then (clean_ident free) number)
      · exact number

/-- What holds of a separator and of the elements of a list holds with the separator between
them. -/
theorem forall_mem_intersperse {α : Type} {holds : α → Prop} {separator : α}
    (between : holds separator) {items : List α} (each : ∀ item ∈ items, holds item) :
    ∀ item ∈ items.intersperse separator, holds item := by
  induction items with
  | nil =>
      intro item listed
      cases listed
  | cons first rest ih =>
      cases rest with
      | nil => exact each
      | cons second others =>
          rw [List.intersperse_cons_cons]
          intro item listed
          rcases List.mem_cons.mp listed with rfl | listed
          · exact each item List.mem_cons_self
          · rcases List.mem_cons.mp listed with rfl | later
            · exact between
            · exact ih (fun other otherMem => each other (List.mem_cons_of_mem first otherMem))
                item later

theorem clean_convention {name : List Char} (free : NoEscape name) : (convention name).Clean := by
  have texts : ∀ text ∈ ((pieces (· == '_') name).map String.ofList).intersperse "-",
      EscapeFree text := by
    have dash : EscapeFree "-" := by decide
    apply forall_mem_intersperse dash
    intro text listed
    obtain ⟨piece, pieceMem, rfl⟩ := List.mem_map.mp listed
    exact escapeFree_ofList (free.of_subset (subset_of_mem_pieces pieceMem))
  exact clean_then (clean_put (by decide)) <|
    clean_then (clean_putAll texts) (clean_put (by decide))

theorem clean_withConvention (isUnsafe : Bool) {next : Writer Unit} (clean : next.Clean) :
    (withConvention isUnsafe next).Clean := by
  have unsafety : (if isUnsafe then put "unsafe " else return () : Writer Unit).Clean := by
    split
    · exact clean_put (by decide)
    · exact .of_pure trivial
  apply (clean_eat 'K').bind
  intro named _
  split
  · apply (clean_eat 'C').bind
    intro isC _
    split
    · exact clean_then unsafety (clean_then (clean_convention (by decide)) clean)
    · apply clean_reading Reader.takes_ident
      intro name free
      split
      · exact clean_fault _
      · exact clean_then unsafety (clean_then (clean_convention free.ascii) clean)
  · exact clean_then unsafety clean

theorem clean_referenceLifetime {next : Writer Unit} (clean : next.Clean) :
    (referenceLifetime next).Clean := by
  apply (clean_eat 'L').bind
  intro named _
  split
  · apply clean_reading Reader.takes_integer62
    intro index _
    dsimp only
    split
    · exact clean_then (clean_lifetime index) (clean_then (clean_put (by decide)) clean)
    · exact clean
  · exact clean

theorem clean_closeTuple (count : Nat) : (closeTuple count).Clean := by
  rw [closeTuple]
  dsimp only
  split
  · exact clean_then (clean_put (by decide)) (clean_put (by decide))
  · exact clean_put (by decide)

/-- Reading a type again from where its tag was, as a path. -/
theorem clean_again {before : Except Broken Cursor}
    (free : ∀ start, before = .ok start → NoEscape start.rest) :
    Clean (modify fun press =>
      { press with
        cursor := press.cursor.bind fun cursor => before.map fun start =>
          { start with depth := cursor.depth } } : Writer PUnit) := by
  apply Keeps.of_modify
  intro press now
  constructor
  · exact now.written
  · intro cursor moved
    cases here : press.cursor with
    | error broken =>
        rw [here] at moved
        contradiction
    | ok current =>
        cases there : before with
        | error broken =>
            rw [here, there] at moved
            contradiction
        | ok start =>
            rw [here, there] at moved
            cases moved
            exact free start there

theorem escapeFree_of_basicTypes {tag : Char} {basic : String}
    (known : basicTypes.lookup tag = some basic) : EscapeFree basic := by
  have plain : ∀ entry ∈ basicTypes, EscapeFree entry.2 := by decide
  exact plain _ (mem_of_lookup_eq_some known)

/-! ## Kinds of paths, types and constants

One letter tells the kind.  A kind is clean if the parts that it writes are. -/

section Kinds

variable {inner element referent constant : Writer Unit}

/-- What stands between two fixed texts. -/
theorem clean_between {before after : String} (opening : EscapeFree before)
    (closing : EscapeFree after) (clean : inner.Clean) {next : Writer Unit} (behind : next.Clean) :
    (do put before; inner; put after; next : Writer Unit).Clean :=
  clean_then (clean_put opening) <|
  clean_then clean (clean_then (clean_put closing) behind)

/-- A list between two fixed texts. -/
theorem clean_listed {before separator after : String} (opening : EscapeFree before)
    (between : EscapeFree separator) (closing : EscapeFree after) (clean : element.Clean)
    {next : Writer Unit} (behind : next.Clean) :
    (do
      put before
      let _ ← list separator element
      put after
      next : Writer Unit).Clean :=
  clean_then (clean_put opening) <|
  (clean_list between clean).bind fun _ _ => clean_then (clean_put closing) behind

theorem clean_tuple (clean : element.Clean) {next : Writer Unit} (behind : next.Clean) :
    (do
      put "("
      closeTuple (← list ", " element)
      next : Writer Unit).Clean :=
  clean_then (clean_put (by decide)) <|
  (clean_list (by decide) clean).bind fun count _ => clean_then (clean_closeTuple count) behind

/-! ### Paths -/

/-- A name behind the number that tells it from others. -/
theorem clean_numbered {next : Nat → Ident → Writer Unit}
    (there : ∀ number name, name.EscapeFree → (next number name).Clean) :
    (reading () Reader.disambiguator fun number =>
      reading () Reader.ident fun name => next number name).Clean := by
  apply clean_reading Reader.takes_disambiguator
  intro number _
  apply clean_reading Reader.takes_ident
  exact fun name free => there number name free

theorem clean_root : (reading () Reader.disambiguator fun _ =>
    reading () Reader.ident fun root => ident root).Clean :=
  clean_numbered fun _ _ free => clean_ident free

theorem clean_lastName {space : Option Char} (other : ∀ c, space = some c → c ≠ escape) :
    (reading () Reader.disambiguator fun number =>
      reading () Reader.ident fun last => nestedName space number last).Clean :=
  clean_numbered fun number _ free => clean_nestedName other number free

/-- An implementation, whose own path is not shown. -/
theorem clean_implementation {shown : Writer Unit} (clean : inner.Clean)
    (behind : shown.Clean) :
    (reading () Reader.disambiguator fun _ => do
      muted inner
      shown).Clean := by
  apply clean_reading Reader.takes_disambiguator
  exact fun _ _ => clean_then (clean_muted clean) behind

/-- A type as one that has a trait, up to the closing bracket. -/
theorem clean_qualified {closing : Writer Unit} (self : element.Clean) (clean : inner.Clean)
    (closes : closing.Clean) :
    (do
      put "<"
      element
      put " as "
      inner
      closing : Writer Unit).Clean :=
  clean_between (by decide) (by decide) self (clean_then clean closes)

/-! ### Types -/

theorem clean_reference (clean : referent.Clean) :
    (do
      put "&"
      referenceLifetime referent
      leave : Writer Unit).Clean :=
  clean_then (clean_put (by decide)) (clean_then (clean_referenceLifetime clean) clean_leave)

theorem clean_pointer {kind : String} (free : EscapeFree kind) (clean : referent.Clean) :
    (do
      put "*"
      put kind
      referent
      leave : Writer Unit).Clean :=
  clean_then (clean_put (by decide)) <|
  clean_then (clean_put free) (clean_then clean clean_leave)

theorem clean_function (clean : element.Clean) :
    (bound do
      let isUnsafe ← eat 'U'
      withConvention isUnsafe do
        put "fn("
        let _ ← list ", " element
        put ")"
        if !(← eat 'u') then
          put " -> "
          element).Clean := by
  apply clean_bound
  apply (clean_eat 'U').bind
  intro isUnsafe _
  apply clean_withConvention
  apply clean_listed (by decide) (by decide) (by decide) clean
  apply (clean_eat 'u').bind
  intro isUnit _
  exact clean_ite (clean_then (clean_put (by decide)) clean) (.of_pure trivial)

theorem clean_objectLifetime :
    (reading () Reader.integer62 fun index => do
      if index ≠ 0 then
        put " + "
        lifetime index).Clean := by
  apply clean_reading Reader.takes_integer62
  intro index _
  exact clean_ite (clean_then (clean_put (by decide)) (clean_lifetime index)) (.of_pure trivial)

theorem clean_traitObject (clean : element.Clean) :
    (do
      put "dyn "
      bound do
        let _ ← list " + " element
      if ← eat 'L' then
        reading () Reader.integer62 fun index => do
          if index ≠ 0 then
            put " + "
            lifetime index
      else
        fault .invalid
      leave : Writer Unit).Clean := by
  apply clean_then (clean_put (by decide))
  apply clean_then (clean_bound ((clean_list (by decide) clean).bind fun _ _ => .of_pure trivial))
  apply (clean_eat 'L').bind
  intro isLifetime _
  exact clean_ite (clean_then clean_objectLifetime clean_leave)
    (clean_then (clean_fault _) clean_leave)

/-! ### Constants -/

theorem clean_truthValue :
    (reading () Reader.hexNibbles fun nibbles => do
      match wordOf? nibbles with
      | some 0 => put "false"
      | some 1 => put "true"
      | _ => fault .invalid
      leave).Clean := by
  apply clean_reading Reader.takes_hexNibbles
  intro nibbles _
  split
  · exact clean_then (clean_put (by decide)) clean_leave
  · exact clean_then (clean_put (by decide)) clean_leave
  · exact clean_then (clean_fault _) clean_leave

theorem clean_character :
    (reading () Reader.hexNibbles fun nibbles => do
      match (wordOf? nibbles).bind Hashed.charOfCode? with
      | some c => literal '\'' [c]
      | none => fault .invalid
      leave).Clean := by
  apply clean_reading Reader.takes_hexNibbles
  intro nibbles _
  split
  · exact clean_then (clean_literal (by decide) _) clean_leave
  · exact clean_then (clean_fault _) clean_leave

/-- A literal text, or a reference to another constant. -/
theorem clean_textOrReference {opening closing : Writer Unit} (opens : opening.Clean)
    (closes : closing.Clean) (clean : constant.Clean) (tag : Char) :
    (do
      if ← (if tag = 'R' then eat 'e' else return false) then
        textLiteral
        leave
      else
        opening
        put "&"
        if tag = 'Q' then put "mut "
        constant
        closing : Writer Unit).Clean := by
  have isText : (if tag = 'R' then eat 'e' else return false : Writer Bool).Clean :=
    clean_ite (clean_eat 'e') (.of_pure trivial)
  have behind := clean_then clean closes
  apply isText.bind
  intro text _
  apply clean_ite (clean_then clean_textLiteral clean_leave)
  apply clean_then opens
  apply clean_then (clean_put (by decide))
  exact clean_ite (clean_then (clean_put (by decide)) behind) behind

theorem clean_field (clean : constant.Clean) :
    (reading () Reader.disambiguator fun _ => reading () Reader.ident fun field => do
      ident field
      put ": "
      constant).Clean :=
  clean_numbered fun _ _ free =>
    clean_then (clean_ident free) (clean_then (clean_put (by decide)) clean)

end Kinds

/-! ## Parts of parts -/

/-- Every part is clean with some fuel. -/
structure CleanWith (name : List Char) (fuel : Nat) : Prop where
  path : ∀ inValue, (path name fuel inValue).Clean
  genericArgument : (genericArgument name fuel).Clean
  type : (type name fuel).Clean
  openTrait : (openTrait name fuel).Clean
  associated : ∀ isOpen, (associated name fuel isOpen).Clean
  boundTrait : (boundTrait name fuel).Clean
  pattern : (pattern name fuel).Clean
  constant : ∀ inValue, (constant name fuel inValue).Clean

section Parts

variable {name : List Char} {fuel : Nat} (parts : CleanWith name fuel)

include parts

theorem clean_path (free : NoEscape name) (inValue : Bool) :
    (path name (fuel + 1) inValue).Clean := by
  rw [path]
  apply clean_reading Reader.takes_enter
  intro _ _
  apply clean_reading Reader.takes_next
  intro tag _
  dsimp only
  -- the root of a crate
  apply clean_ite (clean_then clean_root clean_leave)
  -- a name within a path
  apply clean_ite
  · apply clean_then _ clean_leave
    apply clean_reading Reader.takes_namespaceTag
    intro space other
    apply clean_then (parts.path inValue)
    apply Keeps.bind .of_get
    intro press _
    split
    · exact clean_then (clean_put (by decide)) (clean_lastName other)
    · exact clean_lastName other
  -- an implementation of a type, or of a trait for a type
  have bracket : (put ">").Clean := clean_put (by decide)
  have ofType := clean_then (clean_put (by decide : EscapeFree "<")) (clean_then parts.type bracket)
  have ofTrait := clean_qualified parts.type (parts.path false) bracket
  apply clean_ite (clean_then (clean_implementation (parts.path false) ofType) clean_leave)
  apply clean_ite (clean_then (clean_implementation (parts.path false) ofTrait) clean_leave)
  -- a type as one that has a trait
  apply clean_ite
  · exact clean_qualified parts.type (parts.path false) (clean_then bracket clean_leave)
  -- generic arguments
  apply clean_ite
  · have arguments := clean_listed (by decide : EscapeFree "<") (by decide : EscapeFree ", ")
      (by decide : EscapeFree ">") parts.genericArgument clean_leave
    apply clean_then (parts.path inValue)
    exact clean_ite (clean_then (clean_put (by decide)) arguments) arguments
  -- a path that stood before, or none at all
  exact clean_ite (clean_then (clean_referring free (parts.path inValue) ()) clean_leave)
    (clean_then (clean_fault _) clean_leave)

theorem clean_genericArgument : (genericArgument name (fuel + 1)).Clean := by
  rw [genericArgument]
  apply (clean_eat 'L').bind
  intro isLifetime _
  split
  · apply clean_reading Reader.takes_integer62
    exact fun index _ => clean_lifetime index
  · apply (clean_eat 'K').bind
    intro isConstant _
    split
    · exact parts.constant false
    · exact parts.type

theorem clean_type (free : NoEscape name) : (type name (fuel + 1)).Clean := by
  rw [type]
  apply (clean_eat 'w').bind
  intro isSplat _
  extract_lets leaving splatted
  have behind : (splatted ()).Clean := by
    apply Keeps.bind .of_get
    intro start startFree
    apply clean_reading Reader.takes_next
    intro tag _
    split
    · rename_i basic known
      exact clean_put (escapeFree_of_basicTypes known)
    apply clean_reading Reader.takes_enter
    intro _ _
    -- references and pointers, each to what may change and to what may not
    apply clean_ite (clean_reference parts.type)
    apply clean_ite (clean_reference (clean_then (clean_put (by decide)) parts.type))
    apply clean_ite (clean_pointer (by decide) parts.type)
    apply clean_ite (clean_pointer (by decide) parts.type)
    -- arrays, slices and tuples
    apply clean_ite
    · exact clean_between (by decide) (by decide) parts.type <|
        clean_then (parts.constant true) (clean_then (clean_put (by decide)) clean_leave)
    apply clean_ite (clean_between (by decide) (by decide) parts.type clean_leave)
    apply clean_ite (clean_tuple parts.type clean_leave)
    -- functions and trait objects
    apply clean_ite (clean_then (clean_function parts.type) clean_leave)
    apply clean_ite (clean_traitObject parts.boundTrait)
    -- a type that stood before
    apply clean_ite (clean_then (clean_referring free parts.type ()) clean_leave)
    -- a type narrowed by a pattern, or a path
    apply clean_ite
    · exact clean_then parts.type <|
        clean_then (clean_put (by decide)) (clean_then parts.pattern clean_leave)
    · exact clean_then (clean_again startFree.rest) (clean_then (parts.path false) clean_leave)
  exact clean_ite (clean_then (clean_put (by decide)) behind) behind

theorem clean_openTrait (free : NoEscape name) : (openTrait name (fuel + 1)).Clean := by
  rw [openTrait]
  apply (clean_eat 'B').bind
  intro isReference _
  split
  · exact clean_referring free parts.openTrait false
  · apply (clean_eat 'I').bind
    intro isOpen _
    split
    · exact clean_then (parts.path false) <|
        clean_then (clean_put (by decide)) <|
        (clean_list (by decide) parts.genericArgument).bind fun _ _ => .of_pure trivial
    · exact clean_then (parts.path false) (.of_pure trivial)

theorem clean_associated (isOpen : Bool) : (associated name (fuel + 1) isOpen).Clean := by
  rw [associated]
  apply (clean_eat 'p').bind
  intro more _
  split
  · apply clean_then
    · apply clean_put
      split <;> decide
    · apply clean_reading Reader.takes_ident
      intro member memberFree
      apply clean_then (clean_ident memberFree)
      apply clean_then (clean_put (by decide))
      apply (clean_eat 'K').bind
      intro isConstant _
      dsimp only
      split
      · exact clean_then (parts.constant false) (parts.associated true)
      · exact clean_then parts.type (parts.associated true)
  · split
    · exact clean_put (by decide)
    · exact .of_pure trivial

theorem clean_boundTrait : (boundTrait name (fuel + 1)).Clean := by
  rw [boundTrait]
  exact parts.openTrait.bind fun isOpen _ => parts.associated isOpen

theorem clean_pattern : (pattern name (fuel + 1)).Clean := by
  rw [pattern]
  apply clean_reading Reader.takes_next
  intro tag _
  split
  · exact clean_then (parts.constant false) <|
      clean_then (clean_put (by decide)) (parts.constant false)
  split
  · apply clean_reading Reader.takes_enter
    exact fun _ _ => clean_then parts.pattern (clean_alternatives parts.pattern)
  split
  · exact clean_put (by decide)
  · exact clean_fault _

/-- A structure by its shape: without fields, or with fields in order or by name. -/
theorem clean_shape {closing : Writer Unit} (closes : closing.Clean) :
    (reading () Reader.next fun shape => do
      if shape = 'U' then
        closing
      else if shape = 'T' then
        put "("
        let _ ← list ", " (constant name fuel true)
        put ")"
        closing
      else if shape = 'S' then
        put " \x7b "
        let _ ← list ", " do
          reading () Reader.disambiguator fun _ => reading () Reader.ident fun field => do
            ident field
            put ": "
            constant name fuel true
        put " \x7d"
        closing
      else
        fault .invalid).Clean := by
  apply clean_reading Reader.takes_next
  intro shape _
  apply clean_ite closes
  apply clean_ite
  · exact clean_listed (by decide) (by decide) (by decide) (parts.constant true) closes
  apply clean_ite
  · exact clean_listed (by decide) (by decide) (by decide) (clean_field (parts.constant true))
      closes
  · exact clean_fault _

theorem clean_constant (free : NoEscape name) (inValue : Bool) :
    (constant name (fuel + 1) inValue).Clean := by
  have opening : (if inValue then return () else put "\x7b" : Writer Unit).Clean :=
    clean_ite (.of_pure trivial) (clean_put (by decide))
  have closing : (do
      if !inValue then put "\x7d"
      leave : Writer Unit).Clean :=
    clean_ite (clean_then (clean_put (by decide)) clean_leave) clean_leave
  rw [constant]
  apply clean_reading Reader.takes_next
  intro tag _
  apply clean_reading Reader.takes_enter
  intro _ _
  extract_lets open_ close_
  -- a placeholder
  apply clean_ite (clean_then (clean_put (by decide)) clean_leave)
  -- natural numbers, and integers behind their sign
  have number := clean_then clean_unsigned clean_leave
  apply clean_ite number
  apply clean_ite
  · exact (clean_eat 'n').bind fun negative _ =>
      clean_ite (clean_then (clean_put (by decide)) number) number
  -- truth values and characters
  apply clean_ite clean_truthValue
  apply clean_ite clean_character
  -- texts themselves
  apply clean_ite
  · exact clean_then opening <|
      clean_then (clean_put (by decide)) (clean_then clean_textLiteral closing)
  -- literal texts, or references to other constants
  apply clean_ite (clean_textOrReference opening closing (parts.constant true) tag)
  -- arrays and tuples
  apply clean_ite
  · apply clean_then opening
    exact clean_listed (by decide) (by decide) (by decide) (parts.constant true) closing
  apply clean_ite (clean_then opening (clean_tuple (parts.constant true) closing))
  -- structures
  apply clean_ite
  · exact clean_then opening (clean_then (parts.path true) (clean_shape parts closing))
  -- a constant that stood before, or none at all
  exact clean_ite (clean_then (clean_referring free (parts.constant inValue) ()) clean_leave)
    (clean_fault _)

end Parts

/-- Every part is clean, however much fuel there is. -/
theorem cleanWith {name : List Char} (free : NoEscape name) (fuel : Nat) :
    CleanWith name fuel := by
  induction fuel with
  | zero =>
      constructor
      · exact fun _ => .of_pure trivial
      · exact .of_pure trivial
      · exact .of_pure trivial
      · exact .of_pure trivial
      · exact fun _ => .of_pure trivial
      · exact .of_pure trivial
      · exact .of_pure trivial
      · exact fun _ => .of_pure trivial
  | succ fuel parts =>
      exact ⟨clean_path parts free, clean_genericArgument parts, clean_type parts free,
        clean_openTrait parts free, clean_associated parts, clean_boundTrait parts,
        clean_pattern parts, clean_constant parts free⟩

/-! ## Whole names -/

theorem escapeFree_shown {name : List Char} (free : NoEscape name) :
    EscapeFree (shown name) := by
  have fresh : Press.EscapeFree ⟨.ok ⟨0, name, 0⟩, false, "", longestText, 0⟩ :=
    ⟨escapeFree_empty, by rintro cursor ⟨⟩; exact free⟩
  have written := (cleanWith free (fuelFor name)).path true _ fresh
  rw [shown]
  split
  · rename_i after ran
    rw [ran] at written
    exact written.2.written
  · rename_i stopped ran
    rw [ran] at written
    exact EscapeFree.append written (by decide)

/-- What follows a path has no escapes. -/
theorem noEscape_of_pathEnd {name : List Char} (free : NoEscape name) {start last : Cursor}
    (here : NoEscape start.rest) (found : pathEnd name start = .ok last) :
    NoEscape last.rest := by
  have fresh : Press.EscapeFree ⟨.ok start, true, "", 0, 0⟩ :=
    ⟨escapeFree_empty, by rintro cursor ⟨⟩; exact here⟩
  have written := (cleanWith free (fuelFor name)).path false _ fresh
  rw [pathEnd] at found
  split at found
  · rename_i after ran
    rw [ran] at written
    exact written.2.rest last found
  · contradiction

theorem noEscape_of_rest? {name rest : List Char} (free : NoEscape name)
    (found : rest? name = .ok rest) : NoEscape rest := by
  rw [rest?] at found
  cases first : pathEnd name ⟨0, name, 0⟩ with
  | error broken =>
      rw [first] at found
      contradiction
  | ok middle =>
      have middleFree := noEscape_of_pathEnd free free first
      rw [first] at found
      simp only [bind, Except.bind] at found
      split at found
      · split at found
        · cases second : pathEnd name middle with
          | error broken =>
              rw [second] at found
              contradiction
          | ok last =>
              rw [second] at found
              cases found
              exact noEscape_of_pathEnd free middleFree second
        · cases found
          exact middleFree
      · cases found
        exact .nil

/-- A structured name without escapes is shown without them, and so is what follows it. -/
theorem noEscape_of_read? {name shown rest : List Char} (free : NoEscape name)
    (found : read? name = some (shown, rest)) : NoEscape shown ∧ NoEscape rest := by
  rw [read?] at found
  split at found
  · contradiction
  · rename_i inner opened
    have innerFree := free.of_subset (Hashed.subset_of_afterOpening? opened)
    split at found
    · contradiction
    · split at found
      · split at found
        · rename_i after read
          cases found
          exact ⟨escapeFree_shown innerFree, noEscape_of_rest? innerFree read⟩
        · contradiction
      · contradiction

end Structured

theorem subset_of_splitFirst? {mark name : List Char} {parts : List Char × List Char}
    (found : splitFirst? mark name = some parts) : parts.1 ⊆ name := by
  induction name generalizing parts with
  | nil =>
      simp only [splitFirst?, Option.ite_none_right_eq_some, Option.some.injEq] at found
      rw [← found.2]
      exact List.nil_subset _
  | cons c rest ih =>
      rw [splitFirst?] at found
      split at found
      · cases found
        exact List.nil_subset _
      · obtain ⟨later, laterFound, rfl⟩ := Option.map_eq_some_iff.mp found
        exact List.cons_subset_cons c (ih laterFound)

theorem noEscape_withoutCopyMark {name : List Char} (free : NoEscape name) :
    NoEscape (withoutCopyMark name) := by
  rw [withoutCopyMark]
  split
  · rename_i before after found
    split
    · exact free.of_subset (subset_of_splitFirst? found)
    · exact free
  · exact free

/-- A symbol without escapes is shown without them. -/
theorem escapeFree_display {name : String} (free : EscapeFree name) :
    EscapeFree (display name) := by
  have kept := noEscape_withoutCopyMark free
  rw [display]
  split
  · rename_i chars decoded
    rw [decode?] at decoded
    split at decoded
    · rename_i shown suffix read
      have parts : NoEscape shown ∧ NoEscape suffix := by
        rcases Option.or_eq_some_iff.mp read with hashed | ⟨_, structured⟩
        · exact Hashed.noEscape_of_read? kept hashed
        · exact Structured.noEscape_of_read? kept structured
      split at decoded
      · cases decoded
        exact escapeFree_ofList (parts.1.append parts.2)
      · contradiction
    · contradiction
  · exact free

end StopView.Symbol
