import StopView.Proofs.Symbol.Reading
import StopView.Symbol.Press

/-!
# Writing without escapes

A step of writing is clean if it writes no escapes as long as there are none in the name.
What a structured name can make the press write is fixed text, numbers, letters of the name,
decoded identifiers and quoted literals, and none of this brings in an escape.
-/

namespace StopView.Symbol

open Text

/-! ## Punycode -/

namespace Punycode

/-- The characters that are put into a word lie beyond ASCII. -/
theorem noEscape_insertAll {fuel : Nat} {state : State} {word digits decoded : List Char}
    (beyond : 0x80 ≤ state.code) (free : NoEscape word)
    (found : insertAll fuel state word digits = some decoded) : NoEscape decoded := by
  induction fuel generalizing state word digits with
  | zero => simp [insertAll] at found
  | succ fuel ih =>
      rw [insertAll] at found
      obtain ⟨⟨delta, rest⟩, _, found⟩ := Option.bind_eq_some_iff.mp found
      obtain ⟨sum, _, found⟩ := Option.bind_eq_some_iff.mp found
      obtain ⟨code, sumCode, found⟩ := Option.bind_eq_some_iff.mp found
      have larger : 0x80 ≤ code := by
        rw [inWord] at sumCode
        split at sumCode
        · cases sumCode
          exact Nat.le_trans beyond (Nat.le_add_right _ _)
        · contradiction
      split at found
      · obtain ⟨longer, inserted, found⟩ := Option.bind_eq_some_iff.mp found
        have longerFree : NoEscape longer := by
          rw [insertAt] at inserted
          split at inserted
          · cases inserted
            apply (free.of_subset (List.take_subset _ _)).append
            apply NoEscape.cons (ofNat_ne_escape (by omega))
            exact free.of_subset (List.drop_subset _ _)
          · contradiction
        split at found
        · cases found
          exact longerFree
        · exact ih larger longerFree found
      · contradiction

theorem noEscape_of_decode? {ascii digits decoded : List Char} (free : NoEscape ascii)
    (found : decode? ascii digits = some decoded) : NoEscape decoded := by
  rw [decode?] at found
  split at found
  · contradiction
  · exact noEscape_insertAll (Nat.le_refl _) free found

end Punycode

/-- A text of one character. -/
theorem escapeFree_toString_char {c : Char} (other : c ≠ escape) : EscapeFree c.toString := by
  rw [EscapeFree, Char.toString, String.toList_singleton]
  exact .singleton other

theorem Ident.EscapeFree.shown {ident : Ident} (free : ident.EscapeFree) :
    ∀ text ∈ ident.shown, Text.EscapeFree text := by
  intro text listed
  rw [Ident.shown] at listed
  split at listed
  · rename_i word decoded
    obtain ⟨c, inWord, rfl⟩ := List.mem_map.mp listed
    exact escapeFree_toString_char
      ((Punycode.noEscape_of_decode? free.ascii decoded).of_mem inWord)
  · have ascii := escapeFree_ofList free.ascii
    have punycode := escapeFree_ofList free.punycode
    split at listed
    · rw [List.mem_singleton.mp listed]
      exact ascii
    · have prefixed : ∀ text ∈ (if ident.ascii.isEmpty then []
          else [String.ofList ident.ascii, "-"]), Text.EscapeFree text := by
        intro text listed
        split at listed
        · cases listed
        · rcases List.mem_cons.mp listed with rfl | dash
          · exact ascii
          · rw [List.mem_singleton.mp dash]
            decide
      rcases List.mem_append.mp listed with front | back
      · rcases List.mem_append.mp front with mark | middle
        · rw [List.mem_singleton.mp mark]
          decide
        · exact prefixed text middle
      · rcases List.mem_cons.mp back with rfl | mark
        · exact punycode
        · rw [List.mem_singleton.mp mark]
          decide

/-! ## Steps of writing -/

/-- A press without escapes: there are none in what it has written, nor in what it still has
to read. -/
structure Press.EscapeFree (press : Press) : Prop where
  written : Text.EscapeFree press.written
  rest : ∀ cursor, press.cursor = .ok cursor → NoEscape cursor.rest

/-- A step of writing that brings in no escapes. -/
abbrev Writer.Clean {α : Type} (writer : Writer α) : Prop :=
  Keeps Press.EscapeFree (fun stopped => Text.EscapeFree stopped.written) writer fun _ => True

namespace Writer

variable {α : Type}

/-- One clean step after another. -/
theorem clean_then {first : Writer Unit} {second : Writer α} (here : first.Clean)
    (there : second.Clean) : (first >>= fun _ => second).Clean :=
  here.bind fun _ _ => there

/-- One of two clean steps. -/
theorem clean_ite {condition : Prop} [Decidable condition] {yes no : Writer α}
    (here : yes.Clean) (there : no.Clean) : (if condition then yes else no).Clean := by
  split
  · exact here
  · exact there

theorem clean_put {text : String} (free : Text.EscapeFree text) : (put text).Clean := by
  apply Keeps.bind .of_get
  intro press now
  split
  · exact .of_pure trivial
  · split
    · exact .of_throw now.written
    · exact .of_set ⟨now.written.append free, now.rest⟩

theorem clean_putAll {texts : List String} (free : ∀ text ∈ texts, Text.EscapeFree text) :
    (putAll texts).Clean := by
  induction texts with
  | nil => exact .of_pure trivial
  | cons text rest ih =>
      apply (clean_put (free text List.mem_cons_self)).bind
      exact fun _ _ => ih fun other listed => free other (List.mem_cons_of_mem text listed)

theorem clean_fault (broken : Broken) : (fault broken).Clean := by
  apply (clean_put (by cases broken <;> decide)).bind
  intro _ _
  apply Keeps.of_modify
  intro press now
  exact ⟨now.written, fun _ ok => nomatch ok⟩

/-- Going on from a cursor without escapes. -/
theorem clean_move {cursor : Cursor} (free : NoEscape cursor.rest) :
    Clean (modify fun press => { press with cursor := .ok cursor } : Writer PUnit) := by
  apply Keeps.of_modify
  intro press now
  constructor
  · exact now.written
  · rintro other ⟨⟩
    exact free

/-- Reading in between. -/
theorem clean_reading {β : Type} {reader : Reader α} {post : α → Prop} {next : α → Writer β}
    (takes : reader.Takes post) (there : ∀ value, post value → (next value).Clean) (result : β) :
    (reading result reader next).Clean := by
  apply Keeps.bind .of_get
  intro press now
  split
  · exact (clean_put (by decide)).bind fun _ _ => .of_pure trivial
  · rename_i cursor here
    have read := takes cursor (now.rest cursor here)
    split
    · rename_i value after ran
      rw [ran] at read
      exact (clean_move read.2).bind fun _ _ => there value read.1
    · exact (clean_fault _).bind fun _ _ => .of_pure trivial

theorem clean_eat (c : Char) : (eat c).Clean := by
  apply Keeps.bind .of_get
  intro press now
  split
  · exact .of_pure trivial
  · rename_i cursor here
    have read := Reader.takes_eat c cursor (now.rest cursor here)
    split
    · rename_i eaten after ran
      rw [ran] at read
      exact (clean_move read.2).bind fun _ _ => .of_pure trivial
    · exact .of_pure trivial

theorem clean_leave : leave.Clean := by
  apply Keeps.of_modify
  intro press now
  constructor
  · exact now.written
  · intro cursor moved
    cases here : press.cursor with
    | error broken =>
        rw [here] at moved
        contradiction
    | ok before =>
        rw [here] at moved
        cases moved
        exact now.rest before here

theorem clean_muted {writer : Writer Unit} (clean : writer.Clean) : (muted writer).Clean := by
  apply Keeps.bind .of_get
  intro press _
  apply Keeps.bind (.of_modify fun _ now => ⟨now.written, now.rest⟩)
  intro _ _
  apply clean.bind
  exact fun _ _ => .of_modify fun _ now => ⟨now.written, now.rest⟩

/-- Writing an earlier part of the name. -/
theorem clean_referring {name : List Char} (free : NoEscape name) {writer : Writer α}
    (clean : writer.Clean) (result : α) : (referring name result writer).Clean := by
  apply clean_reading (Reader.takes_back free)
  intro target targetFree
  apply Keeps.bind .of_get
  intro press now
  split
  · exact .of_pure trivial
  · apply Keeps.bind (.of_set ⟨now.written, by rintro cursor ⟨⟩; exact targetFree⟩)
    intro _ _
    apply clean.bind
    intro value _
    apply Keeps.bind (.of_modify fun _ after => ⟨after.written, now.rest⟩)
    exact fun _ _ => .of_pure trivial

theorem clean_elements {separator : String} (between : Text.EscapeFree separator)
    {element : Writer Unit} (clean : element.Clean) (fuel count : Nat) :
    (elements separator element fuel count).Clean := by
  induction fuel generalizing count with
  | zero => exact .of_pure trivial
  | succ fuel ih =>
      apply Keeps.bind .of_get
      intro press _
      split
      · exact .of_pure trivial
      · apply (clean_eat 'E').bind
        intro eaten _
        split
        · exact .of_pure trivial
        · split
          · apply (clean_put between).bind
            intro _ _
            exact clean.bind fun _ _ => ih _
          · exact clean.bind fun _ _ => ih _

theorem clean_list {separator : String} (between : Text.EscapeFree separator)
    {element : Writer Unit} (clean : element.Clean) : (list separator element).Clean := by
  apply Keeps.bind .of_get
  intro press _
  split
  · exact .of_pure trivial
  · exact clean_elements between clean _ _

theorem clean_furtherAlternatives {alternative : Writer Unit} (clean : alternative.Clean)
    (fuel : Nat) : (furtherAlternatives alternative fuel).Clean := by
  induction fuel with
  | zero => exact .of_pure trivial
  | succ fuel ih =>
      apply (clean_eat 'E').bind
      intro eaten _
      split
      · exact clean_leave
      · apply Keeps.bind .of_get
        intro press _
        split
        · exact clean_fault _
        · apply (clean_put (by decide)).bind
          intro _ _
          exact clean.bind fun _ _ => ih

theorem clean_alternatives {alternative : Writer Unit} (clean : alternative.Clean) :
    (alternatives alternative).Clean := by
  apply Keeps.bind .of_get
  intro press _
  split
  · exact clean_furtherAlternatives clean _
  · exact clean_furtherAlternatives clean _

theorem clean_lifetime (index : Nat) : (lifetime index).Clean := by
  apply Keeps.bind .of_get
  intro press _
  split
  · exact .of_pure trivial
  · apply (clean_put (by decide)).bind
    intro _ _
    split
    · exact clean_put (by decide)
    · split
      · exact clean_fault _
      · dsimp only
        split
        · rename_i small
          apply clean_put
          apply escapeFree_toString_char
          apply ofNat_ne_escape
          have first : 'a'.toNat = 97 := rfl
          omega
        · exact (clean_put (by decide)).bind fun _ _ => clean_put (escapeFree_toString _)

theorem clean_binderLifetimes (count : Nat) (first : Bool) :
    (binderLifetimes count first).Clean := by
  induction count generalizing first with
  | zero => exact .of_pure trivial
  | succ count ih =>
      have others : (do
          modify fun press => { press with bound := press.bound + 1 }
          lifetime 1
          binderLifetimes count false : Writer Unit).Clean := by
        apply Keeps.bind (.of_modify fun _ now => ⟨now.written, now.rest⟩)
        exact fun _ _ => (clean_lifetime 1).bind fun _ _ => ih false
      rw [binderLifetimes]
      cases first with
      | true => exact others
      | false => exact (clean_put (by decide)).bind fun _ _ => others

theorem clean_bound {writer : Writer Unit} (clean : writer.Clean) : (bound writer).Clean := by
  apply clean_reading (Reader.takes_taggedInteger62 'G')
  intro count _
  have inside : (do
      writer
      modify fun press => { press with bound := press.bound - count } : Writer Unit).Clean :=
    clean.bind fun _ _ => .of_modify fun _ now => ⟨now.written, now.rest⟩
  apply Keeps.bind .of_get
  intro press _
  split
  · exact clean
  · split
    · apply (clean_put (by decide)).bind
      intro _ _
      apply (clean_binderLifetimes count true).bind
      intro _ _
      exact (clean_put (by decide)).bind fun _ _ => inside
    · exact inside

theorem clean_ident {name : Ident} (free : name.EscapeFree) : (ident name).Clean :=
  clean_putAll free.shown

/-- A literal quotes every escape. -/
theorem clean_literal {mark : Char} (other : mark ≠ escape) (chars : List Char) :
    (literal mark chars).Clean := by
  have each : ∀ c, NoEscape (literalChar mark c) := by
    intro c
    rw [literalChar]
    split
    · rename_i quote
      apply NoEscape.singleton
      rcases quote with ⟨_, rfl⟩ | ⟨_, rfl⟩ <;> decide
    · exact noEscape_escapeWithin other c
  have quoted : NoEscape (chars.flatMap (literalChar mark)) := .flatMap fun c _ => each c
  have texts : ∀ text ∈ (chars.flatMap (literalChar mark)).map Char.toString,
      Text.EscapeFree text := by
    intro text listed
    obtain ⟨c, inside, rfl⟩ := List.mem_map.mp listed
    exact escapeFree_toString_char (quoted.of_mem inside)
  apply (clean_put (escapeFree_toString_char other)).bind
  intro _ _
  exact (clean_putAll texts).bind fun _ _ => clean_put (escapeFree_toString_char other)

end Writer

end StopView.Symbol
